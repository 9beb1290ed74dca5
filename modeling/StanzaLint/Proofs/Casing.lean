import StanzaLint.Directive
import StanzaLint.UrlLine

/-!
# Letter case

Labels are compared in lower case. Of the letters beyond ASCII one has a lower-case form
in it: the Kelvin sign, which becomes a `k`. So a text with an ASCII lower case is itself
ASCII, but for this sign (`lowercaseFrom_ascii`), and whatever names a directive is letter
by letter one of its spellings (`Names.letters`).
-/

namespace StanzaLint

open UrlLine (fold)

namespace Text

-- ---------------------------------------------------------------------------
-- Lower case in ASCII
-- ---------------------------------------------------------------------------

theorem search_eq_some {rows : Array Row} {row : Row} (h : search rows n lo hi = some row) :
    row ∈ rows.toList ∧ row.first ≤ n ∧ n ≤ row.last := by
  fun_induction search rows n lo hi with
  | case1 lo hi hlt hnone => cases h
  | case2 lo hi hlt found hf hbefore ih => exact ih h
  | case3 lo hi hlt found hf hbefore hbehind ih => exact ih h
  | case4 lo hi hlt found hf hbefore hbehind =>
    cases h
    exact ⟨Array.mem_toList_iff.mpr (Array.mem_of_getElem? hf), by omega, by omega⟩
  | case5 lo hi hge => cases h

def areCodePoints (first last : Nat) : Bool := last < 0xD800 || 0xDFFF < first && last < 0x110000

theorem toNat_ofNat (h : areCodePoints first last = true) (hf : first ≤ n) (hl : n ≤ last) :
    (Char.ofNat n).toNat = n := by
  have hv : n.isValidChar := by
    simp only [areCodePoints, Bool.or_eq_true, Bool.and_eq_true, decide_eq_true_eq] at h
    unfold Nat.isValidChar
    omega
  rw [Char.ofNat, dif_pos hv]
  rfl

def kelvinRow : Row := ⟨0x212A, 0x212A, .below 0x20BF⟩

/-- None of the characters of the row becomes ASCII, unless it is the Kelvin sign. -/
def Row.isForeign (row : Row) : Bool :=
  0x80 ≤ row.first && match row.note with
    | .member | .tag _ => true
    | .above n => areCodePoints (row.first + n) (row.last + n)
    | .below n => n + 0x80 ≤ row.first && areCodePoints (row.first - n) (row.last - n) ||
        row == kelvinRow
    | .alternate => areCodePoints row.first (row.last + 1)
    | .becomes text => text.any (0x80 ≤ ·.toNat)

theorem Row.image_foreign {row : Row} (h : row.isForeign = true) {c : Char}
    (hf : row.first ≤ c.toNat) (hl : c.toNat ≤ row.last) :
    (∃ y ∈ row.image c, 0x80 ≤ y.toNat) ∨ c.toNat = 0x212A ∧ row.image c = ['k'] := by
  obtain ⟨first, last, note⟩ := row
  simp only [isForeign, Bool.and_eq_true, decide_eq_true_eq] at h hf hl
  obtain ⟨hfirst, hnote⟩ := h
  cases note with
  | member => exact .inl ⟨c, by simp [image], by omega⟩
  | tag word => exact .inl ⟨c, by simp [image], by omega⟩
  | above n =>
    refine .inl ⟨_, List.mem_singleton_self _, ?_⟩
    rw [toNat_ofNat hnote (by omega) (by omega)]
    omega
  | below n =>
    simp only [Bool.or_eq_true, Bool.and_eq_true, decide_eq_true_eq, beq_iff_eq] at hnote
    rcases hnote with ⟨hn, hnote⟩ | hkelvin
    · refine .inl ⟨_, List.mem_singleton_self _, ?_⟩
      rw [toNat_ofNat hnote (by omega) (by omega)]
      omega
    · cases hkelvin
      have hc : c.toNat = 0x212A := by omega
      exact .inr ⟨hc, by simp [image, hc]⟩
  | alternate =>
    simp only [image]
    split
    · refine .inl ⟨_, List.mem_singleton_self _, ?_⟩
      rw [toNat_ofNat hnote (by omega) (by omega)]
      omega
    · exact .inl ⟨c, List.mem_singleton_self c, by omega⟩
  | becomes text =>
    obtain ⟨y, hy, hn⟩ := List.any_eq_true.mp hnote
    exact .inl ⟨y, hy, of_decide_eq_true hn⟩

theorem lowercaseTable_foreign : lowercaseTable.rows.toList.all Row.isForeign = true := by
  unfold lowercaseTable Table.read
  rw [String.toList_ofList]
  decide +kernel

theorem fold_ascii {c : Char} (h : c.toNat < 0x80) : fold c = c.toLower := by
  unfold fold
  rw [if_neg (by omega), if_neg (by omega)]

theorem lowercaseChar_ascii {before after : List Char} {c : Char}
    (h : ∀ y ∈ lowercaseChar before c after, y.toNat < 0x80) :
    lowercaseChar before c after = [fold c] := by
  unfold lowercaseChar at h ⊢
  by_cases hc : c.toNat < 0x80
  · rw [if_pos hc, fold_ascii hc]
  · rw [if_neg hc] at h ⊢
    by_cases hs : c = 'Σ'
    · rw [if_pos hs] at h
      have hsigma := h _ (List.mem_singleton_self _)
      cases hm : meetsCased before && !meetsCased after <;> simp [hm] at hsigma
    · rw [if_neg hs] at h ⊢
      cases hi : lowercaseTable.image? c with
      | none =>
        rw [hi] at h
        exact absurd (h c (List.mem_singleton_self c)) hc
      | some image =>
        rw [hi, Option.getD_some] at h
        obtain ⟨row, hr, rfl⟩ := Option.map_eq_some_iff.mp hi
        obtain ⟨hmem, hf, hl⟩ := search_eq_some hr
        have hforeign := List.all_eq_true.mp lowercaseTable_foreign row hmem
        rcases Row.image_foreign hforeign hf hl with ⟨y, hy, hn⟩ | ⟨hk, himage⟩
        · exact absurd (h y hy) (by omega)
        · simp [himage, fold, hk]

theorem lowercaseFrom_ascii {before cs : List Char}
    (h : ∀ y ∈ lowercaseFrom before cs, y.toNat < 0x80) :
    lowercaseFrom before cs = cs.map fold := by
  induction cs generalizing before with
  | nil => rfl
  | cons c cs ih =>
    rw [lowercaseFrom, List.forall_mem_append] at h
    rw [lowercaseFrom, lowercaseChar_ascii h.1, ih h.2]
    rfl

theorem lowercaseFrom_of_ascii {before cs : List Char} (h : ∀ c ∈ cs, c.toNat < 0x80) :
    lowercaseFrom before cs = cs.map Char.toLower := by
  induction cs generalizing before with
  | nil => rfl
  | cons c cs ih =>
    rw [List.forall_mem_cons] at h
    rw [lowercaseFrom, lowercaseChar, if_pos h.1, ih h.2]
    rfl

theorem isUpper_iff {c : Char} : c.isUpper = true ↔ 65 ≤ c.toNat ∧ c.toNat ≤ 90 :=
  decide_eq_true_iff

theorem isLower_iff {c : Char} : c.isLower = true ↔ 97 ≤ c.toNat ∧ c.toNat ≤ 122 := by
  rw [← decide_eq_true_iff (p := 97 ≤ c.toNat), ← decide_eq_true_iff (p := c.toNat ≤ 122),
    ← Bool.and_eq_true]
  rfl

theorem isAlpha_iff {c : Char} : c.isAlpha = true ↔ c.isUpper = true ∨ c.isLower = true :=
  Bool.or_eq_true_iff

theorem toNat_toLower {c : Char} (h : c.isUpper = true) : c.toLower.toNat = c.toNat + 32 := by
  have hn := isUpper_iff.mp h
  have he : c.toLower.toNat = (c.val + 32).toNat := congrArg Char.toNat (dif_pos hn)
  rw [he, UInt32.toNat_add]
  exact Nat.mod_eq_of_lt (show c.toNat + 32 < 2 ^ 32 by omega)

theorem toLower_of_not_isUpper {c : Char} (h : c.isUpper = false) : c.toLower = c := by
  have hn : ¬(65 ≤ c.toNat ∧ c.toNat ≤ 90) := by
    rw [← isUpper_iff, h]
    exact Bool.false_ne_true
  exact dif_neg hn

/-- The lower case of a letter is a small letter, and nothing else becomes one. -/
theorem isLower_toLower (c : Char) : c.toLower.isLower = true ↔ c.isAlpha = true := by
  cases hu : c.isUpper with
  | true =>
    have hn := isUpper_iff.mp hu
    rw [isLower_iff, toNat_toLower hu, isAlpha_iff]
    exact ⟨fun _ => .inl hu, fun _ => by omega⟩
  | false => rw [toLower_of_not_isUpper hu, isAlpha_iff, hu, or_iff_right Bool.false_ne_true]

/-- Visible ASCII, and neither the sign of a comment nor that of an unfinished line. -/
def isLabelSign (c : Char) : Bool := 0x20 < c.toNat && c.toNat < 0x7F && c != '#' && c != '\\'

theorem fold_of_isBlank {c : Char} (h : isBlank c = true) : fold c = c := by
  have hn : c.toNat ≠ 0x17F ∧ c.toNat ≠ 0x212A ∧ ¬(65 ≤ c.toNat ∧ c.toNat ≤ 90) := by
    simp only [isBlank, Bool.or_eq_true, Bool.and_eq_true, decide_eq_true_eq, beq_iff_eq] at h
    omega
  rw [fold, if_neg hn.1, if_neg hn.2.1]
  exact dif_neg hn.2.2

/-- The only blank that is a sign of a label in some case is the space. -/
theorem eq_space_of_isBlank {c : Char} (h : isBlank c = true)
    (hf : (isLabelSign (fold c) || fold c == ' ') = true) : c = ' ' := by
  rw [fold_of_isBlank h, Bool.or_eq_true, beq_iff_eq] at hf
  refine hf.resolve_left fun hsign => ?_
  simp only [isLabelSign, Bool.and_eq_true, decide_eq_true_eq] at hsign
  simp only [isBlank, Bool.or_eq_true, Bool.and_eq_true, decide_eq_true_eq, beq_iff_eq] at h
  omega

end Text

open Text

namespace Directive

-- ---------------------------------------------------------------------------
-- Spellings
-- ---------------------------------------------------------------------------

def Names (label : String) (d : Directive) : Prop := (find? label).map Match.directive = some d

instance (label : String) (d : Directive) : Decidable (Names label d) :=
  inferInstanceAs (Decidable (_ = _))

/-- The directive is an option, with a label of more than one word. -/
def isOption (d : Directive) : Bool := (dropPrefix? "Option ".toList d.label.toList).isSome

/-- The text of a label in lower case: signs and spaces, with a sign at either end, and not just
the word that all options start with. -/
def isPhrase (lower : List Char) : Bool :=
  !lower.isEmpty && lower != ['o', 'p', 't', 'i', 'o', 'n'] &&
    lower.all (fun c => isLabelSign c || c == ' ') && lower.head? != some ' ' &&
    lower.getLast? != some ' '

def isSpelling (cs : List Char) : Bool :=
  cs.all (·.toNat < 0x80) && isPhrase (cs.map Char.toLower) &&
    (!(cs.map Char.toLower).contains ' ' ||
      (dropPrefix? ['O', 'p', 't', 'i', 'o', 'n', ' '] cs).isSome)

theorem label_isSpelling (d : Directive) :
    ∃ cs, d.label = String.ofList cs ∧ isSpelling cs = true := by
  cases d <;> exact ⟨_, rfl, rfl⟩

theorem alias_isSpelling (h : (spelling, d) ∈ aliases) : ∃ cs, spelling = String.ofList cs ∧
    (isSpelling cs && !(cs.map Char.toLower).contains ' ') = true := by
  have ha : ∀ s ∈ aliases, ∃ cs, s.1 = String.ofList cs ∧
      (isSpelling cs && !(cs.map Char.toLower).contains ' ') = true := by
    simp only [aliases, List.forall_mem_cons, List.not_mem_nil, false_imp_iff, implies_true,
      and_true]
    and_intros <;> exact ⟨_, rfl, rfl⟩
  exact ha _ h

theorem spelling_isSpelling (h : (spelling, d) ∈ spellings) :
    isSpelling spelling.toList = true ∧
      (d.isOption = false → ' ' ∉ spelling.toList.map Char.toLower) := by
  rcases List.mem_append.mp h with h | h
  · obtain ⟨d, -, hd⟩ := List.mem_map.mp h
    cases hd
    obtain ⟨cs, hlabel, hcs⟩ := d.label_isSpelling
    have hlist : d.label.toList = cs := by rw [hlabel, String.toList_ofList]
    have hoption : d.isOption = (dropPrefix? ['O', 'p', 't', 'i', 'o', 'n', ' '] cs).isSome := by
      rw [isOption, hlist, String.toList_ofList]
    rw [hlist]
    refine ⟨hcs, fun hnone => ?_⟩
    simp only [isSpelling, ← hoption, hnone, Bool.or_false, Bool.and_eq_true] at hcs
    simpa using hcs.2
  · obtain ⟨cs, rfl, hcs⟩ := alias_isSpelling h
    rw [String.toList_ofList]
    rw [Bool.and_eq_true] at hcs
    exact ⟨hcs.1, fun _ => by simpa using hcs.2⟩

theorem spelling_ascii (h : (spelling, d) ∈ spellings) : ∀ c ∈ spelling.toList, c.toNat < 0x80 := by
  have hs := (spelling_isSpelling h).1
  simp only [isSpelling, Bool.and_eq_true, List.all_eq_true, decide_eq_true_eq] at hs
  exact hs.1.1

theorem spelling_isPhrase (h : (spelling, d) ∈ spellings) :
    isPhrase (spelling.toList.map Char.toLower) = true := by
  have hs := (spelling_isSpelling h).1
  simp only [isSpelling, Bool.and_eq_true] at hs
  exact hs.1.2

theorem signs_of_isPhrase {lower : List Char} (h : isPhrase lower = true) :
    ∀ c ∈ lower, (isLabelSign c || c == ' ') = true := by
  simp only [isPhrase, Bool.and_eq_true, List.all_eq_true] at h
  exact h.1.1.2

theorem ascii_of_isPhrase {lower : List Char} (h : isPhrase lower = true) :
    ∀ c ∈ lower, c.toNat < 0x80 := by
  intro c hc
  have hs := signs_of_isPhrase h c hc
  simp only [isLabelSign, Bool.or_eq_true, Bool.and_eq_true, decide_eq_true_eq, beq_iff_eq] at hs
  rcases hs with hs | rfl
  · omega
  · decide

section

variable {label : String}

theorem Names.letters (h : Names label d) : ∃ spelling, (spelling, d) ∈ spellings ∧
    label.toList.map fold = spelling.toList.map Char.toLower := by
  unfold Names find? at h
  cases hl : spellings.lookup label with
  | some found =>
    rw [hl] at h
    cases h
    obtain ⟨before, after, hs, -⟩ := List.lookup_eq_some_iff.mp hl
    have hmem : (label, found) ∈ spellings := by simp [hs]
    exact ⟨label, hmem, List.map_congr_left fun c hc => fold_ascii (spelling_ascii hmem c hc)⟩
  | none =>
    rw [hl] at h
    obtain ⟨found, hfound, rfl⟩ := Option.map_eq_some_iff.mp h
    obtain ⟨other, hany, rfl⟩ := Option.map_eq_some_iff.mp hfound
    obtain ⟨⟨spelling, d⟩, hf, rfl⟩ := Option.map_eq_some_iff.mp hany
    have hmem : (spelling, d) ∈ spellings := List.mem_of_find?_eq_some hf
    have hlower : lowercase spelling = lowercase label := by simpa using List.find?_some hf
    have hletters : lowercaseFrom [] label.toList = spelling.toList.map Char.toLower := by
      rw [← lowercaseFrom_of_ascii (spelling_ascii hmem)]
      exact (String.ofList_injective hlower).symm
    refine ⟨spelling, hmem, ?_⟩
    rw [← hletters]
    refine (lowercaseFrom_ascii fun y hy => ?_).symm
    exact ascii_of_isPhrase (spelling_isPhrase hmem) y (hletters ▸ hy)

theorem Names.isPhrase (h : Names label d) : isPhrase (label.toList.map fold) = true := by
  obtain ⟨spelling, hmem, hletters⟩ := h.letters
  rw [hletters]
  exact spelling_isPhrase hmem

theorem Names.not_mem_space (h : Names label d) (hd : d.isOption = false) : ' ' ∉ label.toList := by
  obtain ⟨spelling, hmem, hletters⟩ := h.letters
  intro hspace
  refine (spelling_isSpelling hmem).2 hd ?_
  rw [← hletters]
  exact List.mem_map.mpr ⟨' ', hspace, rfl⟩

theorem Names.eq_space (h : Names label d) {c : Char} (hc : c ∈ label.toList)
    (hb : isBlank c = true) : c = ' ' :=
  eq_space_of_isBlank hb (signs_of_isPhrase h.isPhrase (fold c) (List.mem_map.mpr ⟨c, hc, rfl⟩))

theorem Names.ne_sign (h : Names label d) {c : Char} (hc : c ∈ label.toList) :
    c ≠ '#' ∧ c ≠ '\\' := by
  have hs := signs_of_isPhrase h.isPhrase (fold c) (List.mem_map.mpr ⟨c, hc, rfl⟩)
  constructor
  · rintro rfl
    exact absurd hs (by decide)
  · rintro rfl
    exact absurd hs (by decide)

theorem Names.url (h : Names label .url) :
    label.toList.map fold = ['u'] ∨ label.toList.map fold = ['u', 'r', 'l'] := by
  obtain ⟨spelling, hmem, hletters⟩ := h.letters
  rw [hletters]
  rcases List.mem_append.mp hmem with hmem | hmem
  · obtain ⟨d, -, hd⟩ := List.mem_map.mp hmem
    cases hd
    exact .inr rfl
  · have hu : spelling = "U" := by simpa [aliases] using hmem
    rw [hu]
    exact .inl rfl

theorem Names.ne_option (h : Names label d) : label.toList ≠ ['O', 'p', 't', 'i', 'o', 'n'] := by
  intro ho
  have hphrase := h.isPhrase
  rw [ho] at hphrase
  exact absurd hphrase (by decide)

theorem Names.ne_nil (h : Names label d) : label.toList ≠ [] := by
  intro hnil
  have hphrase := h.isPhrase
  rw [hnil] at hphrase
  exact absurd hphrase (by decide)

theorem Names.head_ne_space (h : Names label d) : label.toList.head? ≠ some ' ' := by
  intro hspace
  have hphrase := h.isPhrase
  simp only [Directive.isPhrase, List.head?_map, hspace, Bool.and_eq_true] at hphrase
  exact absurd hphrase.1.2 (by decide)

theorem Names.getLast_ne_space (h : Names label d) : label.toList.getLast? ≠ some ' ' := by
  intro hspace
  have hphrase := h.isPhrase
  simp only [Directive.isPhrase, List.getLast?_map, hspace, Bool.and_eq_true] at hphrase
  exact absurd hphrase.2 (by decide)

end

end Directive

end StanzaLint
