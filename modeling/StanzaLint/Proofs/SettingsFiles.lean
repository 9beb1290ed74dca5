import StanzaLint.Proofs.JsonReading
import StanzaLint.Proofs.Trimming
import StanzaLint.Proofs.Utf8
import StanzaLint.SettingsFile

/-!
# What a settings file says

A settings file gives each setting the value of its entry, and its default if it has
none (`Settings.Reads`); entries of another type make it no settings file
(`ofEntries?_eq_some_iff`). What comes of a file depends on nothing else, and on whether it
is there and is text (`Settings.Loads`, `Loads.eq_load`). The entries of a file in which
each line is a name and a plain value are just these (`parse?_document`).
-/

namespace StanzaLint

open Text

namespace Toml

-- ---------------------------------------------------------------------------
-- Writing a document
-- ---------------------------------------------------------------------------

inductive Plain where
  | boolean (b : Bool)
  | number (n : Nat)
  | text (s : String)
  deriving DecidableEq, Repr

def Plain.value : Plain → Value
  | boolean b => .boolean b
  | number n => .integer n
  | text s => .string s

/-- A character of a string. Quotation marks, backslashes and controls are escaped. -/
def quoted (c : Char) : List Char :=
  if c = '"' ∨ c = '\\' then ['\\', c]
  else if isPlain c then [c]
  else ['\\', 'u', '0', '0', lowerHexDigit (c.toNat / 16), lowerHexDigit (c.toNat % 16)]

def Plain.written : Plain → List Char
  | boolean b => if b then ['t', 'r', 'u', 'e'] else ['f', 'a', 'l', 's', 'e']
  | number n => Nat.toDigits 10 n
  | text s => '"' :: s.toList.flatMap quoted ++ ['"']

/-- Numbers have 64 bits and a sign. -/
def Plain.Fits : Plain → Prop
  | number n => (n : Int) ≤ maxInteger
  | _ => True

instance (x : Plain) : Decidable x.Fits :=
  match x with
  | .boolean _ => .isTrue trivial
  | .number n => inferInstanceAs (Decidable ((n : Int) ≤ maxInteger))
  | .text _ => .isTrue trivial

def IsName (name : String) : Prop := name ≠ "" ∧ ∀ c ∈ name.toList, isNameChar c = true

instance (name : String) : Decidable (IsName name) :=
  decidable_of_iff (name ≠ "" ∧ name.toList.all isNameChar = true) (by simp [IsName])

def lineText (row : String × Plain) : List Char :=
  row.1.toList ++ [' ', '=', ' '] ++ row.2.written ++ ['\n']

def document (rows : List (String × Plain)) : List Char := rows.flatMap lineText

structure WellFormed (rows : List (String × Plain)) : Prop where
  names : ∀ row ∈ rows, IsName row.1
  values : ∀ row ∈ rows, row.2.Fits
  once : (rows.map Prod.fst).Nodup

instance (rows : List (String × Plain)) : Decidable (WellFormed rows) :=
  decidable_of_iff ((rows.all fun row => decide (IsName row.1 ∧ row.2.Fits)) = true ∧
      (rows.map Prod.fst).Nodup) <| by
    rw [List.all_eq_true]
    exact ⟨fun h => ⟨fun row hrow => (of_decide_eq_true (h.1 row hrow)).1,
        fun row hrow => (of_decide_eq_true (h.1 row hrow)).2, h.2⟩,
      fun h => ⟨fun row hrow => decide_eq_true ⟨h.names row hrow, h.values row hrow⟩, h.once⟩⟩

def entriesOf (rows : List (String × Plain)) : Entries := rows.map fun row => (row.1, row.2.value)

-- ---------------------------------------------------------------------------
-- Strings
-- ---------------------------------------------------------------------------

theorem prepend_nil (read : Option (List Char × List Char)) : prepend [] read = read := by
  cases read <;> rfl

theorem not_isPlain (h : isPlain c = false) : c.toNat < 0x20 ∨ c.toNat = 0x7F := by
  simp only [isPlain, Bool.or_eq_false_iff, Bool.and_eq_false_iff, beq_eq_false_iff_ne,
    decide_eq_false_iff_not] at h
  omega

theorem readBasic_quoted (c : Char) (rest : List Char) :
    readBasic .none (quoted c ++ rest) = prepend [c] (readBasic .none rest) := by
  unfold quoted
  split
  · next h => rcases h with rfl | rfl <;> rfl
  split
  · next h hplain =>
    obtain ⟨hquote, hslash⟩ := not_or.mp h
    simp [readBasic, hquote, hslash, hplain]
  · next h hplain =>
    have hlt : c.toNat < 0x80 := by
      have := not_isPlain (Bool.not_eq_true _ ▸ hplain)
      omega
    have hhigh := Json.hexDigit?_lowerHexDigit (c.toNat / 16) (by omega)
    have hlow := Json.hexDigit?_lowerHexDigit (c.toNat % 16) (by omega)
    have hvalue : c.toNat / 16 * 16 + c.toNat % 16 = c.toNat := Nat.div_add_mod' _ _
    have hzero : hexDigit? '0' = some 0 := rfl
    have hvalid : c.toNat.isValidChar := .inl (by omega)
    simp [readBasic, Escape.feed, hzero, hhigh, hlow, hvalue, hvalid, prepend_nil]

theorem quoted_cons (c : Char) : ∃ d ds, quoted c = d :: ds ∧ d ≠ '"' := by
  unfold quoted
  split
  · exact ⟨_, _, rfl, by decide⟩
  split
  · next h _ => exact ⟨_, _, rfl, (not_or.mp h).1⟩
  · exact ⟨_, _, rfl, by decide⟩

theorem readBasic_text (text rest : List Char) :
    readBasic .none (text.flatMap quoted ++ '"' :: rest) = some (text, rest) := by
  induction text with
  | nil => rfl
  | cons c text ih =>
    rw [List.flatMap_cons, List.append_assoc, readBasic_quoted, ih]
    rfl

-- ---------------------------------------------------------------------------
-- Numbers
-- ---------------------------------------------------------------------------

theorem hexDigit?_isDigit (h : c.isDigit = true) : hexDigit? c = some (c.toNat - 48) := by
  simp only [Char.isDigit, Bool.and_eq_true, decide_eq_true_eq] at h
  exact if_pos h

theorem isDigit_ten (h : c.isDigit = true) : isDigit 10 c = true := by
  have hn : 48 ≤ c.toNat ∧ c.toNat ≤ 57 := by
    simpa [Char.isDigit, UInt32.le_iff_toNat_le] using h
  simp only [isDigit, hexDigit?_isDigit h, Option.any_some, decide_eq_true_eq]
  omega

theorem toDigits_head (h : 0 < n) : (Nat.toDigits 10 n).head? ≠ some '0' := by
  induction n using Nat.strongRecOn with
  | ind n ih =>
    by_cases hlt : n < 10
    · rw [Nat.toDigits_of_lt_base hlt]
      have hall : ∀ m < 10, 0 < m → [Nat.digitChar m].head? ≠ some '0' := by decide
      exact hall n hlt h
    · have hlast : n % 10 < 10 := Nat.mod_lt n (by decide)
      have hn : n = 10 * (n / 10) + n % 10 := (Nat.div_add_mod n 10).symm
      rw [hn, ← Nat.toDigits_append_toDigits (by decide) (by omega) hlast,
        List.head?_append_of_ne_nil _ Nat.toDigits_ne_nil]
      exact ih (n / 10) (by omega) (by omega)

theorem toDigits_cases (n : Nat) : ∃ c digits, Nat.toDigits 10 n = c :: digits ∧
    (∀ d ∈ c :: digits, d.isDigit = true) ∧ (c = '0' → digits = []) := by
  have hall : ∀ d ∈ Nat.toDigits 10 n, d.isDigit = true :=
    fun d hd => Nat.isDigit_of_mem_toDigits (by decide) (by decide) hd
  cases hdigits : Nat.toDigits 10 n with
  | nil => exact absurd hdigits Nat.toDigits_ne_nil
  | cons c digits =>
    refine ⟨c, digits, rfl, hdigits ▸ hall, ?_⟩
    rintro rfl
    rcases Nat.eq_zero_or_pos n with rfl | hn
    · exact (List.cons.inj hdigits).2.symm
    · exact absurd (by rw [hdigits]; rfl) (toDigits_head hn)

theorem digitsValue_digits {digits : List Char} (h : ∀ d ∈ digits, d.isDigit = true) :
    digitsValue 10 digits = Nat.ofDigitChars 10 digits 0 := by
  have hfold : ∀ n, digits.foldl (fun n c => n * 10 + (hexDigit? c).getD 0) n =
      Nat.ofDigitChars 10 digits n := by
    induction digits with
    | nil => exact fun _ => rfl
    | cons d digits ih =>
      intro n
      rw [List.foldl_cons, hexDigit?_isDigit (h d (by simp)), Nat.mul_comm n]
      exact ih (fun e he => h e (by simp [he])) _
  exact hfold 0

theorem readDigits_line {digits : List Char} (h : ∀ d ∈ digits, d.isDigit = true)
    (rest : List Char) : readDigits 10 (digits ++ '\n' :: rest) = (digits, '\n' :: rest) := by
  induction digits with
  | nil => rfl
  | cons d digits ih =>
    have hd := h d (by simp)
    have hdash : d ≠ '_' := by
      rintro rfl
      exact absurd hd (by decide)
    rw [List.cons_append, readDigits.eq_def]
    split
    · next heq => exact absurd (List.cons.inj heq).1 hdash
    · next heq =>
      obtain ⟨rfl, rfl⟩ := List.cons.inj heq
      rw [if_pos (isDigit_ten hd), ih fun e he => h e (by simp [he])]
    · next heq => cases heq

theorem opensWith_cons (mark : Char → Bool) (h : mark c = false) (n : Nat) (cs : List Char) :
    opensWith mark (n + 1) (c :: cs) = false := by
  simp [opensWith, h]

theorem readSign_digit (h : c.isDigit = true) (cs : List Char) :
    readSign (c :: cs) = (false, c :: cs) := by
  unfold readSign
  split
  · next heq =>
    cases heq
    cases h
  · next heq =>
    cases heq
    cases h
  · rfl

section
variable {c : Char} {digits : List Char}

theorem readDecimal?_digits (hall : ∀ d ∈ c :: digits, d.isDigit = true)
    (hzero : c = '0' → digits = []) (rest : List Char) :
    readDecimal? (c :: digits ++ '\n' :: rest) = some (false, c :: digits, '\n' :: rest) := by
  rw [readDecimal?, List.cons_append, readSign_digit (hall c (by simp))]
  by_cases hc : c = '0'
  · rw [hc, hzero hc]
    rfl
  · have hnumber : readNumber? 10 (c :: (digits ++ '\n' :: rest)) =
        some (c :: digits, '\n' :: rest) := by
      rw [readNumber?, if_pos (isDigit_ten (hall c (by simp))), ← List.cons_append,
        readDigits_line hall]
    simp only
    split
    · next heq => exact absurd (List.cons.inj heq).1 hc
    · rw [hnumber]
      rfl

/-- A number of so many digits is followed by digits or by the end of the line. -/
theorem readFixed?_skip? (hall : ∀ d ∈ digits, d.isDigit = true) {p : Char → Bool}
    (hp : ∀ d, d.isDigit = true → p d = false) (hline : p '\n' = false)
    (h : readFixed? n low high (digits ++ '\n' :: rest) = some (value, behind)) :
    skip? p behind = none := by
  simp only [readFixed?, Option.ite_none_right_eq_some, Option.some.injEq, Prod.mk.injEq] at h
  obtain ⟨⟨-, hfixed, -⟩, -, rfl⟩ := h
  have hle : n ≤ digits.length := by
    by_contra hlt
    have hmem : '\n' ∈ (digits ++ '\n' :: rest).take n := by
      obtain ⟨k, hk⟩ := Nat.exists_eq_add_of_lt (Nat.lt_of_not_le hlt)
      rw [hk, Nat.add_assoc, List.take_length_add_append]
      simp
    exact absurd (List.all_eq_true.mp hfixed _ hmem) (by decide)
  rw [List.drop_append_of_le_length hle]
  cases hdrop : digits.drop n with
  | nil => simp [skip?, hline]
  | cons d ds =>
    have hd : d ∈ digits := List.mem_of_mem_drop (hdrop ▸ List.mem_cons_self)
    simp [skip?, hp d (hall d hd)]

theorem readMoment?_digits (hall : ∀ d ∈ digits, d.isDigit = true) (rest : List Char) :
    readMoment? (digits ++ '\n' :: rest) = none := by
  have hmark : ∀ mark : Char, mark.isDigit = false → mark ≠ '\n' → ∀ {n low high value behind},
      readFixed? n low high (digits ++ '\n' :: rest) = some (value, behind) →
      skip? (· == mark) behind = none := by
    intro mark hm hline n low high value behind h
    refine readFixed?_skip? hall (fun d hd => beq_eq_false_iff_ne.mpr ?_)
      (beq_eq_false_iff_ne.mpr hline.symm) h
    rintro rfl
    rw [hd] at hm
    cases hm
  have hdate : readDate? (digits ++ '\n' :: rest) = none := by
    rw [readDate?]
    cases hyear : readFixed? 4 0 9999 (digits ++ '\n' :: rest) with
    | none => rfl
    | some read => simp [hmark '-' rfl (by decide) hyear]
  have htime : readTime? (digits ++ '\n' :: rest) = none := by
    rw [readTime?]
    cases hhour : readFixed? 2 0 23 (digits ++ '\n' :: rest) with
    | none => rfl
    | some read => simp [hmark ':' rfl (by decide) hhour]
  simp [readMoment?, readDateTime?, hdate, htime]

theorem readFloat?_digits (hall : ∀ d ∈ c :: digits, d.isDigit = true)
    (hzero : c = '0' → digits = []) (rest : List Char) :
    readFloat? (c :: digits ++ '\n' :: rest) = none := by
  have hfinite : readFinite? (c :: digits ++ '\n' :: rest) = none := by
    rw [readFinite?, readDecimal?_digits hall hzero]
    rfl
  have hspecial : readSpecial? (c :: digits ++ '\n' :: rest) = none := by
    have hc := hall c (by simp)
    rw [readSpecial?, List.cons_append, readSign_digit hc]
    split
    · next heq =>
      obtain ⟨rfl, -⟩ := List.cons.inj heq
      cases hc
    · next heq =>
      obtain ⟨rfl, -⟩ := List.cons.inj heq
      cases hc
    · rfl
  rw [readFloat?, hfinite, hspecial]
  rfl

theorem readInteger?_digits (hall : ∀ d ∈ c :: digits, d.isDigit = true)
    (hzero : c = '0' → digits = [])
    (hfits : (Nat.ofDigitChars 10 (c :: digits) 0 : Int) ≤ maxInteger) (rest : List Char) :
    readInteger? (c :: digits ++ '\n' :: rest) =
      some ((Nat.ofDigitChars 10 (c :: digits) 0 : Int), '\n' :: rest) := by
  have hbase : ∀ b more, b ≠ '\n' → c :: digits ++ '\n' :: rest ≠ '0' :: b :: more := by
    intro b more hb heq
    obtain ⟨hc, hmore⟩ := List.cons.inj heq
    rw [hzero hc] at hmore
    exact hb (List.cons.inj hmore).1.symm
  have hrange : checkRange (Nat.ofDigitChars 10 (c :: digits) 0 : Int) ('\n' :: rest) =
      some ((Nat.ofDigitChars 10 (c :: digits) 0 : Int), '\n' :: rest) :=
    if_pos ⟨Int.le_trans (by decide) (Int.natCast_nonneg _), hfits⟩
  unfold readInteger?
  split
  · next heq => exact absurd heq (hbase 'x' _ (by decide))
  · next heq => exact absurd heq (hbase 'o' _ (by decide))
  · next heq => exact absurd heq (hbase 'b' _ (by decide))
  · rw [readDecimal?_digits hall hzero, ← hrange, ← digitsValue_digits hall]
    rfl

theorem readString?_digit (h : c.isDigit = true) (cs : List Char) :
    readString? (c :: cs) = none := by
  have hquote : (c == '"') = false := by
    refine beq_eq_false_iff_ne.mpr ?_
    rintro rfl
    cases h
  have happ : isApostrophe c = false := by
    have hn : 48 ≤ c.toNat ∧ c.toNat ≤ 57 := by
      simpa [Char.isDigit, UInt32.le_iff_toNat_le] using h
    simp only [isApostrophe, beq_eq_false_iff_ne]
    omega
  simp [readString?, opensWith_cons (· == '"') hquote, opensWith_cons isApostrophe happ]

end

theorem readScalar?_number {n : Nat} (hfits : (n : Int) ≤ maxInteger) (rest : List Char) :
    readScalar? (Nat.toDigits 10 n ++ '\n' :: rest) = some (.integer n, '\n' :: rest) := by
  obtain ⟨c, digits, hdigits, hall, hzero⟩ := toDigits_cases n
  have hvalue : Nat.ofDigitChars 10 (c :: digits) 0 = n := by
    rw [← hdigits, Nat.ofDigitChars_toDigits (by decide) (by decide)]
  have hc := hall c (by simp)
  have hstring : readString? (c :: digits ++ '\n' :: rest) = none := readString?_digit hc _
  rw [hdigits]
  unfold readScalar?
  split
  · next heq =>
    obtain ⟨rfl, -⟩ := List.cons.inj heq
    cases hc
  · next heq =>
    obtain ⟨rfl, -⟩ := List.cons.inj heq
    cases hc
  · rw [hstring, readMoment?_digits hall, readFloat?_digits hall hzero,
      readInteger?_digits hall hzero (hvalue ▸ hfits), hvalue]
    rfl

theorem readScalar?_plain {x : Plain} (hfits : x.Fits) (rest : List Char) :
    readScalar? (x.written ++ '\n' :: rest) = some (x.value, '\n' :: rest) := by
  cases x with
  | boolean b => cases b <;> rfl
  | number n => exact readScalar?_number hfits rest
  | text s =>
    -- two quotation marks with nothing between them are the beginning of no other string
    have hlong : opensWith (· == '"') 3 ('"' :: (s.toList.flatMap quoted ++ '"' :: '\n' :: rest)) =
        false := by
      cases s.toList with
      | nil => simp [opensWith]
      | cons c cs =>
        obtain ⟨d, ds, hd, hne⟩ := quoted_cons c
        simp [opensWith, hd, hne]
    have hstring : readString? ('"' :: (s.toList.flatMap quoted ++ '"' :: '\n' :: rest)) =
        some (s.toList, '\n' :: rest) := by
      rw [readString?, hlong, ← readBasic_text s.toList]
      rfl
    have hwritten : (Plain.text s).written ++ '\n' :: rest =
        '"' :: (s.toList.flatMap quoted ++ '"' :: '\n' :: rest) := by
      simp [Plain.written]
    rw [hwritten, readScalar?, hstring]
    · simp [Plain.value, String.ofList_toList]
    · simp
    · simp

-- ---------------------------------------------------------------------------
-- Lines
-- ---------------------------------------------------------------------------

theorem isNameChar_ne (h : isNameChar c = true) (hd : isNameChar d = false) : c ≠ d := by
  rintro rfl
  rw [h] at hd
  cases hd

theorem isNameChar_toNat_ne (h : isNameChar c = true) (hn : isNameChar (Char.ofNat n) = false) :
    c.toNat ≠ n := by
  intro hc
  refine isNameChar_ne h hn ?_
  rw [← hc, Char.ofNat_toNat]

theorem not_isApostrophe (h : isNameChar c = true) : isApostrophe c = false :=
  beq_eq_false_iff_ne.mpr (isNameChar_toNat_ne h (by decide))

theorem readName?_name {name : String} (h : IsName name) (rest : List Char) :
    readName? (name.toList ++ ' ' :: rest) = some (name, ' ' :: rest) := by
  obtain ⟨hne, hall⟩ := h
  have hspan : (name.toList ++ ' ' :: rest).span isNameChar = (name.toList, ' ' :: rest) :=
    span_append hall rfl
  cases hname : name.toList with
  | nil => exact absurd (String.toList_eq_nil_iff.mp hname) hne
  | cons c cs =>
    rw [hname] at hall hspan
    have hc := hall c (by simp)
    have hquote : (c == '"') = false := beq_eq_false_iff_ne.mpr (isNameChar_ne hc (by decide))
    rw [readName?, hspan, List.cons_append, opensWith_cons (· == '"') hquote,
      opensWith_cons isApostrophe (not_isApostrophe hc)]
    simp [← hname, String.ofList_toList]

theorem readNames?_name {name : String} (h : IsName name) (n : Nat) (rest : List Char) :
    readNames? (n + 1) (name.toList ++ ' ' :: '=' :: rest) = some ([name], '=' :: rest) := by
  rw [readNames?, readName?_name h]
  rfl

theorem put_fresh {entries : Entries} (h : name ∉ entries.map Prod.fst) (value : Value) :
    put name value entries = some (entries ++ [(name, value)]) := by
  unfold put
  induction entries with
  | nil => rfl
  | cons entry rest ih =>
    simp only [List.map_cons, List.mem_cons, not_or] at h
    rw [alter, if_neg (Ne.symm h.1), ih h.2]
    rfl

theorem set_fresh {entries : Entries} (h : name ∉ entries.map Prod.fst) (value : Value) :
    Document.set { entries } [name] value = some { entries := entries ++ [(name, value)] } := by
  have hput := put_fresh h value
  simp [Document.set, Document.change, update, assign, hput]

theorem written_cons (x : Plain) : ∃ c cs, x.written = c :: cs ∧ c ≠ '[' ∧ c ≠ '\x7b' ∧
    isSpace c = false := by
  cases x with
  | boolean b => cases b <;> exact ⟨_, _, rfl, by decide⟩
  | number n =>
    obtain ⟨c, digits, hdigits, hall, -⟩ := toDigits_cases n
    have hne : ∀ d : Char, d.isDigit = false → c ≠ d := by
      rintro d hd rfl
      rw [hall c (by simp)] at hd
      cases hd
    exact ⟨c, digits, hdigits, hne _ rfl, hne _ rfl, by simp [isSpace, hne ' ' rfl, hne '\t' rfl]⟩
  | text s => exact ⟨_, _, rfl, by decide⟩

theorem readValue?_plain {x : Plain} (hfits : x.Fits) (fuel depth : Nat) (rest : List Char) :
    readValue? (fuel + 1) depth (skipSpaces (' ' :: (x.written ++ '\n' :: rest))) =
      some (x.value, '\n' :: rest) := by
  have hscalar := readScalar?_plain hfits rest
  obtain ⟨c, cs, hx, hbracket, hbrace, hspace⟩ := written_cons x
  have hskip : skipSpaces (' ' :: (x.written ++ '\n' :: rest)) = x.written ++ '\n' :: rest := by
    simp [skipSpaces, hx, hspace, show isSpace ' ' = true from rfl]
  rw [hskip, readValue?]
  · exact hscalar
  · intro more heq
    rw [hx] at heq
    exact hbracket (List.cons.inj heq).1
  · intro more heq
    rw [hx] at heq
    exact hbrace (List.cons.inj heq).1

theorem readPair?_row {entries : Entries} {row : String × Plain} (hname : IsName row.1)
    (hfits : row.2.Fits) (hnew : row.1 ∉ entries.map Prod.fst) (rest : List Char) :
    readPair? { entries } (lineText row ++ rest) =
      some ({ entries := entries ++ [(row.1, row.2.value)] }, '\n' :: rest) := by
  have hline : lineText row ++ rest =
      row.1.toList ++ ' ' :: '=' :: ' ' :: (row.2.written ++ '\n' :: rest) := by
    simp [lineText]
  have hpath : readPath? (lineText row ++ rest) =
      some ([row.1], '=' :: ' ' :: (row.2.written ++ '\n' :: rest)) := by
    rw [hline]
    exact readNames?_name hname 78 _
  rw [readPair?, hpath]
  simp only [Option.bind_eq_bind, Option.bind_some, skip?, beq_self_eq_true, if_true,
    readValue?_plain hfits, set_fresh hnew]

theorem readLine?_row {entries : Entries} {row : String × Plain} (hname : IsName row.1)
    (hfits : row.2.Fits) (hnew : row.1 ∉ entries.map Prod.fst) (rest : List Char) :
    readLine? { entries } (skipSpaces (lineText row ++ rest)) =
      some ({ entries := entries ++ [(row.1, row.2.value)] }, '\n' :: rest) := by
  have hpair := readPair?_row hname hfits hnew rest
  obtain ⟨hne, hall⟩ := hname
  cases hchars : row.1.toList with
  | nil => exact absurd (String.toList_eq_nil_iff.mp hchars) hne
  | cons c cs =>
    have hc := hall c (by simp [hchars])
    have hother : ∀ d, isNameChar d = false → c ≠ d := fun d hd => isNameChar_ne hc hd
    obtain ⟨more, hmore⟩ : ∃ more, lineText row ++ rest = c :: more := by
      exact ⟨_, by rw [lineText, hchars]; rfl⟩
    have hskip : skipSpaces (c :: more) = c :: more := by
      simp [skipSpaces, isSpace, hother ' ' rfl, hother '\t' rfl]
    rw [hmore] at hpair ⊢
    rw [hskip, readLine?]
    · simp [hother '#' rfl, hother '\n' rfl, hpair]
    · intro more' h _
      exact hother '[' rfl h
    · exact hother '[' rfl

theorem WellFormed.tail {row : String × Plain} {rows : List (String × Plain)}
    (h : WellFormed (row :: rows)) : WellFormed rows where
  names r hr := h.names r (List.mem_cons_of_mem _ hr)
  values r hr := h.values r (List.mem_cons_of_mem _ hr)
  once := (List.nodup_cons.mp h.once).2

theorem readLines?_rows {rows : List (String × Plain)} {entries : Entries}
    (hrows : WellFormed rows) (hnew : ∀ row ∈ rows, row.1 ∉ entries.map Prod.fst)
    (hfuel : rows.length < fuel) :
    readLines? { entries } fuel (document rows) =
      some { entries := entries ++ entriesOf rows } := by
  induction rows generalizing entries fuel with
  | nil =>
    cases fuel with
    | zero => cases hfuel
    | succ fuel => simp [document, readLines?, entriesOf]
  | cons row rows ih =>
    cases fuel with
    | zero => cases hfuel
    | succ fuel =>
      have hline := readLine?_row (hrows.names row (by simp)) (hrows.values row (by simp))
        (hnew row (by simp)) (document rows)
      have hend : lineEnd? ('\n' :: document rows) = some (document rows) := rfl
      have hlater : ∀ r ∈ rows, r.1 ∉ (entries ++ [(row.1, row.2.value)]).map Prod.fst := by
        intro r hr hmem
        simp only [List.map_append, List.map_cons, List.map_nil, List.mem_append,
          List.mem_singleton] at hmem
        rcases hmem with hold | hsame
        · exact hnew r (List.mem_cons_of_mem _ hr) hold
        · exact (List.nodup_cons.mp hrows.once).1 (hsame ▸ List.mem_map_of_mem hr)
      have hrest := ih hrows.tail hlater (Nat.lt_of_succ_lt_succ hfuel)
      rw [document, List.flatMap_cons, ← document, readLines?, hline]
      · simp [hend, hrest, entriesOf]
      · intro hnil
        simp [lineText] at hnil

theorem length_le_document (rows : List (String × Plain)) :
    rows.length ≤ (document rows).length := by
  induction rows with
  | nil => exact Nat.zero_le _
  | cons row rows ih =>
    rw [document, List.flatMap_cons, ← document, List.length_append, List.length_cons]
    simp only [lineText, List.length_append, List.length_singleton]
    omega

theorem unbroken_quoted (c : Char) : '\r' ∉ quoted c := by
  unfold quoted
  split
  · next h => rcases h with rfl | rfl <;> decide
  split
  · next hplain =>
    intro hmem
    rw [← List.mem_singleton.mp hmem] at hplain
    cases hplain
  · next hplain =>
    have hdigit : ∀ n < 16, lowerHexDigit n ≠ '\r' := by decide
    have hlt : c.toNat < 0x80 := by
      have := not_isPlain (Bool.not_eq_true _ ▸ hplain)
      omega
    have hhigh := hdigit (c.toNat / 16) (by omega)
    have hlow := hdigit (c.toNat % 16) (by omega)
    simp [hhigh.symm, hlow.symm]

theorem unbroken_written (x : Plain) : '\r' ∉ x.written := by
  cases x with
  | boolean b => cases b <;> decide
  | number n =>
    intro hmem
    have hdigit : Char.isDigit '\r' = true :=
      Nat.isDigit_of_mem_toDigits (by decide) (by decide) hmem
    cases hdigit
  | text s => simp [Plain.written, unbroken_quoted]

theorem unbroken_document {rows : List (String × Plain)} (h : WellFormed rows) :
    '\r' ∉ document rows := by
  intro hmem
  obtain ⟨row, hrow, hmem⟩ := List.mem_flatMap.mp hmem
  have hname : '\r' ∉ row.1.toList :=
    fun hname => absurd ((h.names row hrow).2 _ hname) (by decide)
  simp [lineText, hname, unbroken_written] at hmem

theorem joinLineEnds_of_not_mem (h : '\r' ∉ cs) : joinLineEnds cs = cs := by
  induction cs with
  | nil => rfl
  | cons c cs ih =>
    obtain ⟨hc, hcs⟩ := not_or.mp (mt List.mem_cons.mpr h)
    rw [joinLineEnds, ih hcs]
    intro rest hr
    exact absurd hr.symm hc

theorem skipMark_document {rows : List (String × Plain)} (h : WellFormed rows) :
    skipMark (document rows) = document rows := by
  cases rows with
  | nil => rfl
  | cons row rows =>
    obtain ⟨hne, hall⟩ := h.names row (by simp)
    cases hchars : row.1.toList with
    | nil => exact absurd (String.toList_eq_nil_iff.mp hchars) hne
    | cons c cs =>
      have hmark := isNameChar_toNat_ne (n := 0xFEFF) (hall c (by simp [hchars])) (by decide)
      simp [document, lineText, hchars, skipMark, hmark]

theorem parse?_document {rows : List (String × Plain)} (h : WellFormed rows) :
    parse? (document rows) = some (entriesOf rows) := by
  have hfuel := Nat.lt_succ_of_le (length_le_document rows)
  have hread : readLines? {} ((document rows).length + 1) (document rows) =
      some { entries := [] ++ entriesOf rows } := readLines?_rows h (fun _ _ => List.not_mem_nil) hfuel
  rw [parse?, skipMark_document h, joinLineEnds_of_not_mem (unbroken_document h), hread]
  rfl

end Toml

-- ---------------------------------------------------------------------------
-- Settings
-- ---------------------------------------------------------------------------

namespace Settings

def switches : List (String × (Settings → Bool)) := [
  ("whitespace", whitespace), ("directive_case", directiveCase), ("https", https),
  ("origins", origins), ("additional_phe_checks", hostnameEdits), ("source", source),
  ("follow_includefile", followIncludes), ("annotate", annotate), ("verbose", verbose)]

/-- Each setting has the value of its entry, or its default if there is none. -/
structure Reads (settings : Settings) (entries : Toml.Entries) : Prop where
  switches : ∀ name get, (name, get) ∈ switches →
    entries.lookup name = some (.boolean (get settings)) ∨
      entries.lookup name = none ∧ get settings = get {}
  includeDirectory :
    entries.lookup "includefile_directory" = settings.includeDirectory.map .string
  maxIncludeDepth :
    entries.lookup "max_include_depth" = settings.maxIncludeDepth.map fun n => .integer n

section
variable {entries : Toml.Entries} {name : String}

theorem switch?_eq_some_iff : switch? entries name otherwise = some b ↔
    entries.lookup name = some (.boolean b) ∨ entries.lookup name = none ∧ b = otherwise := by
  rw [switch?]
  cases entries.lookup name with
  | none => simp [eq_comm]
  | some value => cases value <;> simp

theorem text?_eq_some_iff : text? entries name = some text ↔
    entries.lookup name = text.map .string := by
  rw [text?]
  cases entries.lookup name with
  | none => cases text <;> simp
  | some value => cases value <;> cases text <;> simp

theorem number?_eq_some_iff : number? entries name = some number ↔
    entries.lookup name = number.map fun n => .integer n := by
  rw [number?]
  cases entries.lookup name with
  | none => cases number <;> simp
  | some value =>
    cases value with
    | integer i =>
      cases number with
      | none => simp
      | some n =>
        simp only [Option.ite_none_left_eq_some, Option.some.injEq, Option.map_some,
          Toml.Value.integer.injEq]
        omega
    | _ => cases number <;> simp

theorem ofEntries?_eq_some_iff {settings : Settings} :
    ofEntries? entries = some settings ↔ settings.Reads entries := by
  constructor
  · intro h
    simp only [ofEntries?, Option.bind_eq_bind, Option.bind_eq_some_iff, Option.some.injEq,
      switch?_eq_some_iff, text?_eq_some_iff, number?_eq_some_iff] at h
    obtain ⟨_, hwhitespace, _, hcase, _, hhttps, _, horigins, _, hedits, _, hsource, _, hfollow, _,
      hdirectory, _, hdepth, _, hannotate, _, hverbose, rfl⟩ := h
    refine ⟨fun name get hmem => ?_, hdirectory, hdepth⟩
    simp only [switches, List.mem_cons, Prod.mk.injEq, List.not_mem_nil, or_false] at hmem
    rcases hmem with ⟨rfl, rfl⟩ | ⟨rfl, rfl⟩ | ⟨rfl, rfl⟩ | ⟨rfl, rfl⟩ | ⟨rfl, rfl⟩ | ⟨rfl, rfl⟩ |
      ⟨rfl, rfl⟩ | ⟨rfl, rfl⟩ | ⟨rfl, rfl⟩ <;> assumption
  · intro h
    have hswitch : ∀ row ∈ switches,
        switch? entries row.1 (row.2 {}) = some (row.2 settings) :=
      fun row hmem => switch?_eq_some_iff.mpr (h.switches row.1 row.2 hmem)
    have hdirectory := text?_eq_some_iff.mpr h.includeDirectory
    have hdepth := number?_eq_some_iff.mpr h.maxIncludeDepth
    simp only [switches, List.forall_mem_cons] at hswitch
    obtain ⟨hwhitespace, hcase, hhttps, horigins, hedits, hsource, hfollow, hannotate, hverbose,
      -⟩ := hswitch
    simp only [ofEntries?, hwhitespace, hcase, hhttps, horigins, hedits, hsource, hfollow,
      hdirectory, hdepth, hannotate, hverbose, Option.bind_eq_bind, Option.bind_some]

end

-- ---------------------------------------------------------------------------
-- Files
-- ---------------------------------------------------------------------------

theorem decodeUtf8?_eq_some_iff : decodeUtf8? content = some text ↔ content = encodeUtf8 text := by
  simp only [decodeUtf8?, Option.ite_none_right_eq_some, Option.some.injEq]
  constructor
  · rintro ⟨hcontent, rfl⟩
    exact hcontent.symm
  · rintro rfl
    rw [decodeUtf8_encodeUtf8]
    exact ⟨rfl, rfl⟩

inductive Loads (files : Files) (path : Path) : Except Failure Settings → Prop
  | missing : files path = .missing → Loads files path (.error (.config (.missing path)))
  | directory : files path = .directory → Loads files path (.error (.unreadable path .isDirectory))
  | locked : files path = .locked text → Loads files path (.error (.unreadable path (.system text)))
  | notUtf8 : files path = .file content → (∀ text, content ≠ encodeUtf8 text) →
    Loads files path (.error (.unreadable path .notUtf8))
  | malformed : files path = .file (encodeUtf8 text) →
    (∀ entries settings, Toml.parse? text = some entries → ¬Reads settings entries) →
    Loads files path (.error (.config .malformed))
  | read : files path = .file (encodeUtf8 text) → Toml.parse? text = some entries →
    Reads settings entries → Loads files path (.ok settings)

theorem bind_ofEntries?_eq_none_iff {text : List Char} :
    (Toml.parse? text).bind ofEntries? = none ↔
      ∀ entries settings, Toml.parse? text = some entries → ¬Reads settings entries := by
  rw [Option.bind_eq_none_iff]
  simp only [← ofEntries?_eq_some_iff, Option.eq_none_iff_forall_ne_some]
  exact ⟨fun h entries settings he => h entries he settings, fun h entries he settings =>
    h entries settings he⟩

theorem Loads.eq_load {files : Files} {path : Path} {result : Except Failure Settings}
    (h : Loads files path result) : load files path = result := by
  rw [load]
  cases h with
  | missing hfile => rw [hfile]
  | directory hfile => rw [hfile]
  | locked hfile => rw [hfile]
  | @notUtf8 content hfile hother =>
    have htext : decodeUtf8? content = none :=
      Option.eq_none_iff_forall_ne_some.mpr fun text heq =>
        hother text (decodeUtf8?_eq_some_iff.mp heq)
    simp only [hfile, htext]
  | malformed hfile hnone =>
    simp only [hfile, decodeUtf8?_eq_some_iff.mpr rfl, bind_ofEntries?_eq_none_iff.mpr hnone]
  | read hfile hentries hreads =>
    simp only [hfile, decodeUtf8?_eq_some_iff.mpr rfl, hentries, Option.bind_some,
      ofEntries?_eq_some_iff.mpr hreads]

theorem exists_loads (files : Files) (path : Path) : ∃ result, Loads files path result := by
  cases hfile : files path with
  | missing => exact ⟨_, .missing hfile⟩
  | directory => exact ⟨_, .directory hfile⟩
  | locked text => exact ⟨_, .locked hfile⟩
  | file content =>
    cases htext : decodeUtf8? content with
    | none =>
      refine ⟨_, .notUtf8 hfile fun text heq => ?_⟩
      rw [decodeUtf8?_eq_some_iff.mpr heq] at htext
      cases htext
    | some text =>
      rw [decodeUtf8?_eq_some_iff.mp htext] at hfile
      cases hbind : (Toml.parse? text).bind ofEntries? with
      | none => exact ⟨_, .malformed hfile (bind_ofEntries?_eq_none_iff.mp hbind)⟩
      | some settings =>
        obtain ⟨entries, hentries, hsettings⟩ := Option.bind_eq_some_iff.mp hbind
        exact ⟨_, .read hfile hentries (ofEntries?_eq_some_iff.mp hsettings)⟩

theorem loads_document {files : Files} {path : Path} {rows : List (String × Toml.Plain)}
    {settings : Settings} (hfile : files path = .file (encodeUtf8 (Toml.document rows)))
    (hrows : Toml.WellFormed rows) (h : settings.Reads (Toml.entriesOf rows)) :
    Loads files path (.ok settings) :=
  .read hfile (Toml.parse?_document hrows) h

end Settings

end StanzaLint
