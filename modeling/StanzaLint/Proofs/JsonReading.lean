import StanzaLint.Text.Json
import StanzaLint.Text.Table

/-!
# Reading JSON

A reader of JSON text, for the values that are written here: truth values, strings,
arrays and objects. It allows blanks between tokens and every escape in a string,
and refuses controls in strings and anything behind the value. What is written can
be read back (`read?_render`), and it stands on one line (`render_unbroken`).
-/

namespace StanzaLint.Text.Json

-- ---------------------------------------------------------------------------
-- The reader
-- ---------------------------------------------------------------------------

def isSpace (c : Char) : Bool := [' ', '\t', '\n', '\r'].contains c

def skip (text : List Char) : List Char := text.dropWhile isSpace

/-- A part of a string: a character, or the number of a UTF-16 unit. -/
inductive Piece where
  | char (c : Char)
  | unit (n : Nat)
  deriving DecidableEq, Repr

def unescape? : Char → Option Char
  | '"' => some '"'
  | '\\' => some '\\'
  | '/' => some '/'
  | 'b' => some '\x08'
  | 'f' => some '\x0c'
  | 'n' => some '\n'
  | 'r' => some '\r'
  | 't' => some '\t'
  | _ => none

def unit? (a b c d : Char) : Option Nat := do
  let a ← hexDigit? a
  let b ← hexDigit? b
  let c ← hexDigit? c
  let d ← hexDigit? d
  return ((a * 16 + b) * 16 + c) * 16 + d

/-- The parts of a string up to its closing quotation mark, and what follows. -/
def readPieces : List Char → Option (List Piece × List Char)
  | [] => none
  | '"' :: rest => some ([], rest)
  | '\\' :: 'u' :: a :: b :: c :: d :: rest =>
    (unit? a b c d).bind fun n => (readPieces rest).map (.map (.unit n :: ·) id)
  | '\\' :: e :: rest =>
    (unescape? e).bind fun c => (readPieces rest).map (.map (.char c :: ·) id)
  | c :: rest =>
    if c = '\\' ∨ c.toNat < 0x20 then none else (readPieces rest).map (.map (.char c :: ·) id)

def join : List Piece → Option (List Char)
  | [] => some []
  | .char c :: rest => (join rest).map (c :: ·)
  | .unit high :: .unit low :: rest =>
    if 0xD800 ≤ high ∧ high < 0xDC00 ∧ 0xDC00 ≤ low ∧ low < 0xE000 then
      (join rest).map (Char.ofNat (0x10000 + (high - 0xD800) * 0x400 + (low - 0xDC00)) :: ·)
    else if 0xD800 ≤ high ∧ high < 0xE000 then none
    else (join (.unit low :: rest)).map (Char.ofNat high :: ·)
  | .unit n :: rest =>
    if 0xD800 ≤ n ∧ n < 0xE000 then none else (join rest).map (Char.ofNat n :: ·)

def readString (text : List Char) : Option (String × List Char) :=
  (readPieces text).bind fun (pieces, rest) => (join pieces).map fun cs => (String.ofList cs, rest)

section
variable (close : Char) (element : List Char → Option (α × List Char))

/-- One element or more, divided by commas, up to the mark that closes them. -/
def readElements : Nat → List Char → Option (List α × List Char)
  | 0, _ => none
  | n + 1, text => (element text).bind fun (x, rest) => match skip rest with
    | [] => none
    | c :: rest =>
      if c = close then some ([x], rest)
      else if c = ',' then (readElements n rest).map (.map (x :: ·) id)
      else none

def readList (text : List Char) : Option (List α × List Char) :=
  match skip text with
  | [] => none
  | c :: rest => if c = close then some ([], rest) else readElements close element text.length text

end

def readField (value : List Char → Option (α × List Char)) (text : List Char) :
    Option ((String × α) × List Char) :=
  match skip text with
  | '"' :: rest => (readString rest).bind fun (name, rest) => match skip rest with
    | ':' :: rest => (value rest).map fun (v, rest) => ((name, v), rest)
    | _ => none
  | _ => none

def readValue : Nat → List Char → Option (Json × List Char)
  | 0, _ => none
  | n + 1, text => match skip text with
    | '"' :: rest => (readString rest).map (.map .string id)
    | '[' :: rest => (readList ']' (readValue n) rest).map (.map .array id)
    | '\x7b' :: rest => (readList '\x7d' (readField (readValue n)) rest).map (.map .object id)
    | 't' :: 'r' :: 'u' :: 'e' :: rest => some (.bool true, rest)
    | 'f' :: 'a' :: 'l' :: 's' :: 'e' :: rest => some (.bool false, rest)
    | _ => none

def read? (text : List Char) : Option Json :=
  (readValue text.length text).bind fun (v, rest) => if (skip rest).isEmpty then some v else none

def field? (name : String) : Json → Option Json
  | .object fields => fields.lookup name
  | _ => none

-- ---------------------------------------------------------------------------
-- Strings
-- ---------------------------------------------------------------------------

theorem skip_cons (h : isSpace c = false) (text : List Char) : skip (c :: text) = c :: text := by
  simp [skip, h]

theorem hexDigit?_lowerHexDigit : ∀ n < 16, hexDigit? (lowerHexDigit n) = some n := by
  decide

theorem join_unit (h : n < 0xD800) (rest : List Piece) :
    join (.unit n :: rest) = (join rest).map (Char.ofNat n :: ·) := by
  have hn : ¬0xD800 ≤ n := by omega
  rcases rest with _ | ⟨_ | low, rest⟩ <;> simp [join, hn]

/-- The text is one part of a string, and this part stands for the character. -/
def Spells (text : List Char) (c : Char) : Prop :=
  ∃ piece, (∀ rest, readPieces (text ++ rest) = (readPieces rest).map (.map (piece :: ·) id)) ∧
    ∀ pieces, join (piece :: pieces) = (join pieces).map (c :: ·)

theorem spells_escape (h : unescape? e = some c) : Spells ['\\', e] c := by
  have hu : e ≠ 'u' := by
    rintro rfl
    cases h
  refine ⟨.char c, fun rest => ?_, fun pieces => rfl⟩
  simp only [List.cons_append, List.nil_append]
  rw [readPieces]
  · rw [h, Option.bind_some]
  · rintro _ _ _ _ _ rfl
    exact absurd rfl hu

theorem spells_plain (hq : c ≠ '"') (hb : c ≠ '\\') (hc : ¬c.toNat < 0x20) : Spells [c] c := by
  refine ⟨.char c, fun rest => ?_, fun pieces => rfl⟩
  simp only [List.cons_append, List.nil_append]
  rw [readPieces]
  · rw [if_neg (by simp [hb, hc])]
  · exact hq
  · rintro _ _ _ _ _ rfl
    exact absurd rfl hb
  · rintro _ _ rfl
    exact absurd rfl hb

theorem spells_unit (h : c.toNat < 0x20) :
    Spells ['\\', 'u', '0', '0', lowerHexDigit (c.toNat / 16), lowerHexDigit (c.toNat % 16)] c := by
  have hunit : unit? '0' '0' (lowerHexDigit (c.toNat / 16)) (lowerHexDigit (c.toNat % 16)) =
      some c.toNat := by
    have hz : hexDigit? '0' = some 0 := rfl
    rw [unit?, hz, hexDigit?_lowerHexDigit _ (by omega), hexDigit?_lowerHexDigit _ (by omega)]
    exact congrArg some (by omega)
  refine ⟨.unit c.toNat, fun rest => ?_, fun pieces => ?_⟩
  · simp only [List.cons_append, List.nil_append, readPieces, hunit, Option.bind_some]
  · rw [join_unit (by omega), Char.ofNat_toNat]

theorem jsonEscape_spells (c : Char) : Spells (jsonEscape c) c := by
  have hofNat : ∀ n, c.toNat = n → Char.ofNat n = c := fun n hn => hn ▸ Char.ofNat_toNat c
  unfold jsonEscape
  split
  · exact spells_escape rfl
  · exact spells_escape rfl
  · exact spells_escape rfl
  · exact spells_escape rfl
  · exact spells_escape rfl
  next hq hb _ _ _ =>
    dsimp only
    split
    next h8 => exact spells_escape (congrArg some (hofNat 8 h8))
    next =>
      split
      next h12 => exact spells_escape (congrArg some (hofNat 12 h12))
      next =>
        split
        next hc => exact spells_unit hc
        next hc => exact spells_plain hq hb hc

theorem readString_escaped (cs rest : List Char) :
    readString (cs.flatMap jsonEscape ++ '"' :: rest) = some (String.ofList cs, rest) := by
  have hp : ∃ pieces, readPieces (cs.flatMap jsonEscape ++ '"' :: rest) = some (pieces, rest) ∧
      join pieces = some cs := by
    induction cs with
    | nil => exact ⟨[], rfl, rfl⟩
    | cons c cs ih =>
      obtain ⟨pieces, hr, hj⟩ := ih
      obtain ⟨piece, hread, hjoin⟩ := jsonEscape_spells c
      refine ⟨piece :: pieces, ?_, ?_⟩
      · rw [List.flatMap_cons, List.append_assoc, hread, hr]
        rfl
      · rw [hjoin, hj]
        rfl
  obtain ⟨pieces, hr, hj⟩ := hp
  simp only [readString, hr, Option.bind_some, hj, Option.map_some]

theorem jsonString_toList (s : String) :
    (jsonString s).toList = '"' :: (s.toList.flatMap jsonEscape ++ ['"']) := by
  simp [jsonString]

-- ---------------------------------------------------------------------------
-- Values
-- ---------------------------------------------------------------------------

theorem parts_induction {P : Json → Prop} (bool : ∀ b, P (.bool b)) (string : ∀ s, P (.string s))
    (array : ∀ items, (∀ v ∈ items, P v) → P (.array items))
    (object : ∀ fields, (∀ f ∈ fields, P f.2) → P (.object fields)) : ∀ v, P v
  | .bool b => bool b
  | .string s => string s
  | .array items => array items fun v _ => parts_induction bool string array object v
  | .object fields => object fields fun f _ => parts_induction bool string array object f.2
termination_by v => sizeOf v
decreasing_by
  · have := List.sizeOf_lt_of_mem ‹v ∈ items›
    simp only [Json.array.sizeOf_spec]
    omega
  · have := List.sizeOf_lt_of_mem ‹f ∈ fields›
    obtain ⟨name, v⟩ := f
    simp only [Json.object.sizeOf_spec, Prod.mk.sizeOf_spec] at this ⊢
    omega

def commas : List (List Char) → List Char
  | [] => []
  | [text] => text
  | text :: rest => text ++ ',' :: commas rest

theorem mem_commas {texts : List (List Char)} (h : c ∈ commas texts) :
    c = ',' ∨ ∃ text ∈ texts, c ∈ text := by
  fun_induction commas texts with
  | case1 => cases h
  | case2 text => exact .inr ⟨text, by simp, h⟩
  | case3 text rest _ ih =>
    rcases List.mem_append.mp h with h | h
    · exact .inr ⟨text, by simp, h⟩
    · rcases List.mem_cons.mp h with h | h
      · exact .inl h
      · rcases ih h with h | ⟨other, ho, h⟩
        · exact .inl h
        · exact .inr ⟨other, List.mem_cons_of_mem _ ho, h⟩

theorem length_le_commas {texts : List (List Char)} (h : text ∈ texts) :
    text.length ≤ (commas texts).length := by
  fun_induction commas texts with
  | case1 => cases h
  | case2 other => exact List.mem_singleton.mp h ▸ Nat.le_refl _
  | case3 other rest _ ih =>
    rw [List.length_append, List.length_cons]
    rcases List.mem_cons.mp h with rfl | h
    · omega
    · have := ih h
      omega

theorem length_texts_le (texts : List (List Char)) :
    texts.length ≤ (commas texts).length + 1 := by
  fun_induction commas texts with
  | case1 => simp
  | case2 text => simp
  | case3 text rest _ ih =>
    rw [List.length_cons, List.length_append, List.length_cons]
    omega

theorem commas_cons (text : List Char) (texts : List (List Char)) :
    ∃ more, commas (text :: texts) = text ++ more := by
  cases texts with
  | nil => exact ⟨[], by simp [commas]⟩
  | cons other rest => exact ⟨_, rfl⟩

def fieldText (f : String × Json) : List Char :=
  (jsonString f.1).toList ++ ':' :: f.2.render.toList

theorem render_array (items : List Json) :
    (Json.array items).render.toList =
      '[' :: (commas (items.map fun v => v.render.toList) ++ [']']) := by
  have hi : (renderItems items).toList = commas (items.map fun v => v.render.toList) := by
    induction items with
    | nil => rfl
    | cons v rest ih => cases rest <;> simp_all [renderItems, commas]
  simp [render, hi]

theorem render_object (fields : List (String × Json)) :
    (Json.object fields).render.toList =
      '\x7b' :: (commas (fields.map fieldText) ++ ['\x7d']) := by
  have hf : (renderFields fields).toList = commas (fields.map fieldText) := by
    induction fields with
    | nil => rfl
    | cons f rest ih => cases rest <;> simp_all [renderFields, commas, fieldText]
  simp [render, hf]

section
variable {close : Char} {element : List Char → Option (α × List Char)} {write : α → List Char}
  {xs : List α}

theorem readElements_commas (hc : close ≠ ',') (hs : isSpace close = false)
    (hread : ∀ x ∈ xs, ∀ rest, element (write x ++ rest) = some (x, rest)) (hne : xs ≠ [])
    (hn : xs.length ≤ n) (rest : List Char) :
    readElements close element n (commas (xs.map write) ++ close :: rest) = some (xs, rest) := by
  induction xs generalizing n with
  | nil => exact absurd rfl hne
  | cons x xs ih =>
    obtain ⟨n, rfl⟩ : ∃ m, n = m + 1 := ⟨n - 1, by simp at hn; omega⟩
    have hx := hread x (by simp)
    cases xs with
    | nil => simp [readElements, commas, hx, skip_cons hs]
    | cons y ys =>
      have hm := ih (n := n) (fun z hz => hread z (List.mem_cons_of_mem _ hz)) (by simp)
        (by simpa using hn)
      have hcomma : isSpace ',' = false := rfl
      simp only [List.map_cons] at hm ⊢
      simp [readElements, commas, hx, skip_cons hcomma, hc.symm, hm]

theorem readList_commas (close : Char) (hc : close ≠ ',') (hs : isSpace close = false)
    (hread : ∀ x ∈ xs, ∀ rest, element (write x ++ rest) = some (x, rest))
    (hhead : ∀ x ∈ xs, ∃ c text, write x = c :: text ∧ c ≠ close ∧ isSpace c = false)
    (rest : List Char) :
    readList close element (commas (xs.map write) ++ close :: rest) = some (xs, rest) := by
  cases xs with
  | nil => simp [readList, commas, skip_cons hs]
  | cons x ys =>
    obtain ⟨c, text, hw, hne, hsp⟩ := hhead x (by simp)
    obtain ⟨more, hm⟩ := commas_cons (write x) (ys.map write)
    have htext : commas ((x :: ys).map write) ++ close :: rest =
        c :: (text ++ (more ++ close :: rest)) := by
      rw [List.map_cons, hm, hw]
      simp
    have hlength : (x :: ys).length ≤ (commas ((x :: ys).map write) ++ close :: rest).length := by
      have hl := length_texts_le ((x :: ys).map write)
      rw [List.length_map] at hl
      rw [List.length_append, List.length_cons (a := close)]
      omega
    have hall := readElements_commas hc hs hread (by simp) hlength rest
    rw [readList, htext, skip_cons hsp]
    dsimp only
    rw [if_neg hne, ← htext]
    exact hall

end

theorem render_head (v : Json) :
    ∃ c text, v.render.toList = c :: text ∧ c ≠ ']' ∧ isSpace c = false := by
  cases v with
  | bool b => cases b <;> exact ⟨_, _, rfl, by decide, rfl⟩
  | string s => exact ⟨'"', _, jsonString_toList s, by decide, rfl⟩
  | array items => exact ⟨'[', _, render_array items, by decide, rfl⟩
  | object fields => exact ⟨'\x7b', _, render_object fields, by decide, rfl⟩

theorem readField_render (hv : ∀ rest, value (v.render.toList ++ rest) = some (v, rest))
    (name : String) (rest : List Char) :
    readField value (fieldText (name, v) ++ rest) = some ((name, v), rest) := by
  have hquote : isSpace '"' = false := rfl
  have hcolon : isSpace ':' = false := rfl
  have htext : fieldText (name, v) ++ rest = '"' :: (name.toList.flatMap jsonEscape ++
      '"' :: ':' :: (v.render.toList ++ rest)) := by
    simp [fieldText, jsonString_toList]
  rw [htext, readField, skip_cons hquote]
  simp only [readString_escaped, Option.bind_some, skip_cons hcolon, hv, Option.map_some,
    String.ofList_toList]

theorem readValue_array {items : List Json}
    (h : ∀ v ∈ items, ∀ rest, readValue n (v.render.toList ++ rest) = some (v, rest))
    (rest : List Char) :
    readValue (n + 1) ((array items).render.toList ++ rest) = some (array items, rest) := by
  have hopen : isSpace '[' = false := rfl
  have hlist := readList_commas ']' (by decide) rfl h (fun v _ => v.render_head) rest
  rw [render_array, List.cons_append, List.append_assoc, List.singleton_append, readValue,
    skip_cons hopen]
  simp only [hlist, Option.map_some]
  rfl

theorem readValue_object {fields : List (String × Json)}
    (h : ∀ f ∈ fields, ∀ rest, readValue n (f.2.render.toList ++ rest) = some (f.2, rest))
    (rest : List Char) :
    readValue (n + 1) ((object fields).render.toList ++ rest) = some (object fields, rest) := by
  have hopen : isSpace '\x7b' = false := rfl
  have hfields : ∀ f ∈ fields, ∀ rest,
      readField (readValue n) (fieldText f ++ rest) = some (f, rest) :=
    fun f hf => readField_render (h f hf) f.1
  have hhead : ∀ f ∈ fields, ∃ c text, fieldText f = c :: text ∧ c ≠ '\x7d' ∧
      isSpace c = false := by
    intro f _
    exact ⟨'"', _, by rw [fieldText, jsonString_toList, List.cons_append], by decide, rfl⟩
  have hlist := readList_commas '\x7d' (by decide) rfl hfields hhead rest
  rw [render_object, List.cons_append, List.append_assoc, List.singleton_append, readValue,
    skip_cons hopen]
  simp only [hlist, Option.map_some]
  rfl

theorem readValue_string (n : Nat) (s : String) (rest : List Char) :
    readValue (n + 1) ((string s).render.toList ++ rest) = some (string s, rest) := by
  have hquote : isSpace '"' = false := rfl
  have htext : (string s).render.toList ++ rest =
      '"' :: (s.toList.flatMap jsonEscape ++ '"' :: rest) := by
    simp [render, jsonString_toList]
  rw [htext, readValue, skip_cons hquote]
  simp only [readString_escaped, Option.map_some, String.ofList_toList]
  rfl

theorem readValue_render (v : Json) : ∀ n, v.render.toList.length ≤ n → ∀ rest,
    readValue n (v.render.toList ++ rest) = some (v, rest) := by
  have hpos : ∀ (w : Json) n, w.render.toList.length ≤ n → ∃ m, n = m + 1 := by
    intro w n hn
    obtain ⟨c, text, ht, -⟩ := w.render_head
    rw [ht, List.length_cons] at hn
    exact ⟨n - 1, by omega⟩
  induction v using parts_induction with
  | bool b =>
    intro n hn rest
    obtain ⟨m, rfl⟩ := hpos _ n hn
    cases b <;> rfl
  | string s =>
    intro n hn rest
    obtain ⟨m, rfl⟩ := hpos _ n hn
    exact readValue_string m s rest
  | array items ih =>
    intro n hn
    obtain ⟨m, rfl⟩ := hpos _ n hn
    rw [render_array, List.length_cons, List.length_append] at hn
    -- an item is written within the brackets, so one level less is enough for it
    refine readValue_array fun v hv => ih v hv m ?_
    have hl := length_le_commas (List.mem_map_of_mem (f := fun v => v.render.toList) hv)
    omega
  | object fields ih =>
    intro n hn
    obtain ⟨m, rfl⟩ := hpos _ n hn
    rw [render_object, List.length_cons, List.length_append] at hn
    refine readValue_object fun f hf => ih f hf m ?_
    have hl := length_le_commas (List.mem_map_of_mem (f := fieldText) hf)
    rw [fieldText, List.length_append, List.length_cons] at hl
    omega

theorem read?_render (v : Json) : read? v.render.toList = some v := by
  have hv := readValue_render v v.render.toList.length (Nat.le_refl _) []
  have hend : (skip []).isEmpty = true := rfl
  rw [List.append_nil] at hv
  simp only [read?, hv, Option.bind_some, hend, if_true]

-- ---------------------------------------------------------------------------
-- One line
-- ---------------------------------------------------------------------------

def Unbroken (text : List Char) : Prop := ∀ c ∈ text, 0x20 ≤ c.toNat

theorem Unbroken.nil : Unbroken [] := by simp [Unbroken]

theorem Unbroken.cons (hc : 0x20 ≤ c.toNat) (h : Unbroken text) : Unbroken (c :: text) := by
  intro d hd
  rcases List.mem_cons.mp hd with rfl | hd
  · exact hc
  · exact h d hd

theorem Unbroken.append (h : Unbroken text) (hm : Unbroken more) : Unbroken (text ++ more) := by
  intro c hc
  rcases List.mem_append.mp hc with hc | hc
  · exact h c hc
  · exact hm c hc

theorem Unbroken.commas (h : ∀ text ∈ texts, Unbroken text) : Unbroken (commas texts) := by
  intro c hc
  rcases mem_commas hc with rfl | ⟨text, ht, hc⟩
  · decide
  · exact h text ht c hc

theorem jsonEscape_unbroken (c : Char) : Unbroken (jsonEscape c) := by
  have hdigit : ∀ n < 16, 0x20 ≤ (lowerHexDigit n).toNat := by decide
  have hshort : ∀ e : Char, 0x20 ≤ e.toNat → Unbroken ['\\', e] :=
    fun e he => .cons (by decide) (.cons he .nil)
  unfold jsonEscape
  split
  · exact hshort _ (by decide)
  · exact hshort _ (by decide)
  · exact hshort _ (by decide)
  · exact hshort _ (by decide)
  · exact hshort _ (by decide)
  · dsimp only
    split
    · exact hshort _ (by decide)
    · split
      · exact hshort _ (by decide)
      · split
        next hc =>
          refine .cons (by decide) (.cons (by decide) (.cons (by decide) (.cons (by decide) ?_)))
          exact .cons (hdigit _ (by omega)) (.cons (hdigit _ (by omega)) .nil)
        next hc => exact .cons (Nat.not_lt.mp hc) .nil

theorem jsonString_unbroken (s : String) : Unbroken (jsonString s).toList := by
  rw [jsonString_toList]
  refine .cons (by decide) (.append (fun c hc => ?_) (.cons (by decide) .nil))
  obtain ⟨d, -, hd⟩ := List.mem_flatMap.mp hc
  exact jsonEscape_unbroken d c hd

theorem render_unbroken (v : Json) : Unbroken v.render.toList := by
  induction v using parts_induction with
  | bool b => cases b <;> simp [render, Unbroken]
  | string s => exact jsonString_unbroken s
  | array items ih =>
    rw [render_array]
    refine .cons (by decide) (.append (.commas fun text ht => ?_) (.cons (by decide) .nil))
    obtain ⟨v, hv, rfl⟩ := List.mem_map.mp ht
    exact ih v hv
  | object fields ih =>
    rw [render_object]
    refine .cons (by decide) (.append (.commas fun text ht => ?_) (.cons (by decide) .nil))
    obtain ⟨f, hf, rfl⟩ := List.mem_map.mp ht
    exact (jsonString_unbroken f.1).append (.cons (by decide) (ih f hf))

end StanzaLint.Text.Json
