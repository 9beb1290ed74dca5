/-!
# Blank characters, trimming and splitting

Blanks are the characters with the Unicode property `White_Space`. Text is cut
in two ways: at every occurrence of a separator (`split`), which keeps empty
pieces, and into maximal runs without blanks (`words`), which has none.
-/

namespace StanzaLint.Text

def isBlank (c : Char) : Bool :=
  let n := c.toNat
  (9 ≤ n && n ≤ 13) || n == 0x20 || n == 0x85 || n == 0xA0 || n == 0x1680 ||
    (0x2000 ≤ n && n ≤ 0x200A) || n == 0x2028 || n == 0x2029 || n == 0x202F ||
    n == 0x205F || n == 0x3000

def trimStart (cs : List Char) : List Char := cs.dropWhile isBlank

def trimEnd (cs : List Char) : List Char := (cs.reverse.dropWhile isBlank).reverse

def trim (cs : List Char) : List Char := trimEnd (trimStart cs)

/-- The pieces between the characters that `sep` accepts, empty ones included. -/
def splitBy (sep : Char → Bool) : List Char → List (List Char)
  | [] => [[]]
  | c :: cs =>
    if sep c then [] :: splitBy sep cs
    else match splitBy sep cs with
      | piece :: rest => (c :: piece) :: rest
      | [] => [[c]]

def split (sep : Char) (cs : List Char) : List (List Char) := splitBy (· == sep) cs

def words (cs : List Char) : List (List Char) := (splitBy isBlank cs).filter (!·.isEmpty)

def dropPrefix? : (lead cs : List Char) → Option (List Char)
  | [], cs => some cs
  | _ :: _, [] => none
  | p :: lead, c :: cs => if p = c then dropPrefix? lead cs else none

def dropSuffix? (tail cs : List Char) : Option (List Char) :=
  (dropPrefix? tail.reverse cs.reverse).map List.reverse

def endsWith (tail cs : List Char) : Bool := (dropSuffix? tail cs).isSome

theorem dropPrefix?_eq_some_iff {lead cs rest : List Char} :
    dropPrefix? lead cs = some rest ↔ cs = lead ++ rest := by
  induction lead generalizing cs with
  | nil => simp [dropPrefix?]
  | cons p lead ih =>
    cases cs with
    | nil => simp [dropPrefix?]
    | cons c cs =>
      by_cases h : p = c
      · subst h
        simp [dropPrefix?, ih]
      · simp [dropPrefix?, h, Ne.symm h]

theorem isSome_dropPrefix? {lead cs : List Char} :
    (dropPrefix? lead cs).isSome = true ↔ lead <+: cs := by
  simp only [Option.isSome_iff_exists, dropPrefix?_eq_some_iff]
  exact ⟨fun ⟨rest, h⟩ => ⟨rest, h.symm⟩, fun ⟨rest, h⟩ => ⟨rest, h.symm⟩⟩

theorem dropSuffix?_eq_some_iff {tail cs rest : List Char} :
    dropSuffix? tail cs = some rest ↔ cs = rest ++ tail := by
  simp only [dropSuffix?, Option.map_eq_some_iff, dropPrefix?_eq_some_iff]
  constructor
  · rintro ⟨r, h, rfl⟩
    have := congrArg List.reverse h
    simpa using this
  · rintro rfl
    exact ⟨rest.reverse, by simp, by simp⟩

theorem splitBy_ne_nil (sep : Char → Bool) (cs : List Char) : splitBy sep cs ≠ [] := by
  induction cs with
  | nil => simp [splitBy]
  | cons c cs ih =>
    unfold splitBy
    split
    · simp
    · split <;> simp

theorem splitBy_of_none {sep : Char → Bool} {cs : List Char} (h : ∀ c ∈ cs, sep c = false) :
    splitBy sep cs = [cs] := by
  induction cs with
  | nil => rfl
  | cons c rest ih =>
    rw [List.forall_mem_cons] at h
    simp [splitBy, h.1, ih h.2]

theorem splitBy_append_cons {sep : Char → Bool} (hs : sep s = true) (cs rest : List Char) :
    splitBy sep (cs ++ s :: rest) = splitBy sep cs ++ splitBy sep rest := by
  induction cs with
  | nil => simp [splitBy, hs]
  | cons c cs ih =>
    obtain ⟨piece, pieces, hp⟩ := List.exists_cons_of_ne_nil (splitBy_ne_nil sep cs)
    cases hc : sep c <;> simp [splitBy, hc, ih, hp]

theorem sep_of_mem_splitBy {sep : Char → Bool} {cs piece : List Char} (h : piece ∈ splitBy sep cs)
    {c : Char} (hc : c ∈ piece) : sep c = false := by
  induction cs generalizing piece with
  | nil => simp_all [splitBy]
  | cons d cs ih =>
    unfold splitBy at h
    split at h
    next hd =>
      rcases List.mem_cons.mp h with rfl | h
      · cases hc
      · exact ih h hc
    next hd =>
      have hd : sep d = false := by simpa using hd
      split at h
      next first rest hs =>
        rcases List.mem_cons.mp h with rfl | h
        · rcases List.mem_cons.mp hc with rfl | hc
          · exact hd
          · exact ih (by simp [hs]) hc
        · exact ih (by simp [hs, h]) hc
      next hs => exact absurd hs (splitBy_ne_nil sep cs)

theorem split_ne_nil (sep : Char) (cs : List Char) : split sep cs ≠ [] := splitBy_ne_nil _ cs

theorem split_of_not_mem {sep : Char} {cs : List Char} (h : sep ∉ cs) : split sep cs = [cs] := by
  refine splitBy_of_none fun c hc => ?_
  rw [beq_eq_false_iff_ne]
  rintro rfl
  exact h hc

theorem split_append_cons (sep : Char) (cs rest : List Char) :
    split sep (cs ++ sep :: rest) = split sep cs ++ split sep rest := by
  unfold split
  apply splitBy_append_cons
  exact beq_self_eq_true sep

theorem not_mem_of_mem_split {sep : Char} {cs piece : List Char} (h : piece ∈ split sep cs) :
    sep ∉ piece := by
  intro hc
  have hsep := sep_of_mem_splitBy h hc
  simp at hsep

theorem intercalate_split (sep : Char) (cs : List Char) :
    [sep].intercalate (split sep cs) = cs := by
  induction cs with
  | nil => rfl
  | cons c cs ih =>
    obtain ⟨piece, pieces, hp⟩ := List.exists_cons_of_ne_nil (split_ne_nil sep cs)
    rw [hp] at ih
    unfold split at hp
    by_cases hc : c = sep
    · have hcons : split sep (c :: cs) = [] :: piece :: pieces := by simp [split, splitBy, hc, hp]
      rw [hcons, List.intercalate_cons_cons, ih, hc]
      rfl
    · have hcons : split sep (c :: cs) = (c :: piece) :: pieces := by
        simp [split, splitBy, hc, hp]
      rw [hcons]
      cases pieces with
      | nil => simpa [List.intercalate_singleton] using ih
      | cons next rest => simpa [List.intercalate_cons_cons] using ih

theorem split_map {sep : Char} {f : Char → Char} {cs : List Char}
    (h : ∀ c ∈ cs, f c = sep ↔ c = sep) :
    split sep (cs.map f) = (split sep cs).map (List.map f) := by
  induction cs with
  | nil => rfl
  | cons c cs ih =>
    rw [List.forall_mem_cons] at h
    have hcs := ih h.2
    unfold split at hcs
    obtain ⟨piece, pieces, hp⟩ := List.exists_cons_of_ne_nil (split_ne_nil sep cs)
    unfold split at hp
    by_cases hc : c = sep
    · subst hc
      simp [split, splitBy, h.1.mpr rfl, hcs]
    · have hf : f c ≠ sep := fun hf => hc (h.1.mp hf)
      simp [split, splitBy, hf, hcs, hc, hp]

theorem mem_split_of_mem (sep : Char) {cs : List Char} (hc : c ∈ cs) :
    c = sep ∨ ∃ piece ∈ split sep cs, c ∈ piece := by
  rw [← intercalate_split sep cs] at hc
  generalize split sep cs = pieces at hc
  induction pieces with
  | nil => cases hc
  | cons first rest ih =>
    cases rest with
    | nil => exact .inr ⟨first, List.mem_singleton_self first, by simpa using hc⟩
    | cons next rest =>
      rw [List.intercalate_cons_cons, List.mem_append, List.mem_append] at hc
      rcases hc with (hc | hc) | hc
      · exact .inr ⟨first, List.mem_cons_self, hc⟩
      · exact .inl (List.mem_singleton.mp hc)
      · exact (ih hc).imp_right fun ⟨piece, hp, hm⟩ => ⟨piece, List.mem_cons_of_mem _ hp, hm⟩

theorem isBlank_of_mem_words {cs word : List Char} (h : word ∈ words cs) {c : Char}
    (hc : c ∈ word) : isBlank c = false :=
  sep_of_mem_splitBy (List.mem_filter.mp h).1 hc

theorem endsWith_eq (tail cs : List Char) : endsWith tail cs = decide (tail <:+ cs) := by
  rw [Bool.eq_iff_iff, decide_eq_true_iff, endsWith, Option.isSome_iff_exists]
  simp only [dropSuffix?_eq_some_iff]
  exact ⟨fun ⟨rest, h⟩ => ⟨rest, h.symm⟩, fun ⟨rest, h⟩ => ⟨rest, h.symm⟩⟩

end StanzaLint.Text
