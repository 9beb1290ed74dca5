import StanzaLint.Proofs.Casing
import StanzaLint.Proofs.Utf8
import Std.Data.HashMap

/-!
# What a label names

Spellings of different directives differ in more than letter case
(`directive_unique`). So a label names at most one directive, exactly or in the wrong
case (`find?_cases`), and nothing depends on the order of the spellings: tables of them
can be filled and walked in any order (`lookUp_eq`).
-/

namespace StanzaLint.Directive

open Text (lowercase lowercaseFrom_of_ascii encodeChar_ascii toNat_ofNat_of_lt)

-- ---------------------------------------------------------------------------
-- Spellings
-- ---------------------------------------------------------------------------

def Spells (spelling : String) (d : Directive) : Prop :=
  spelling = d.label ∨ (spelling, d) ∈ aliases

theorem all_complete (d : Directive) : all[d.ctorIdx]? = some d := by
  cases d <;> rfl

theorem mem_spellings_iff : (spelling, d) ∈ spellings ↔ Spells spelling d := by
  simp only [spellings, List.mem_append, List.mem_map, Spells]
  refine or_congr_left ⟨?_, ?_⟩
  · rintro ⟨e, -, he⟩
    cases he
    rfl
  · rintro rfl
    exact ⟨d, List.mem_of_getElem? d.all_complete, rfl⟩

/-- A number for a text. A letter counts as much as its lower case, which has one more bit. -/
def letterCode (cs : List Char) : Nat := cs.foldl (fun n c => n * 128 + (c.toNat ||| 32)) 0

def byteCode (s : String) : Nat :=
  s.toByteArray.data.toList.foldl (fun n b => n * 128 + (b.toNat ||| 32)) 0

theorem lor_toLower (c : Char) : c.toLower.toNat ||| 32 = c.toNat ||| 32 := by
  cases hu : c.isUpper with
  | true =>
    have hbit : ∀ n < 91, 65 ≤ n → (n + 32) ||| 32 = n ||| 32 := by decide
    obtain ⟨hl, hh⟩ := Text.isUpper_iff.mp hu
    rw [Text.toNat_toLower hu]
    exact hbit c.toNat (Nat.lt_succ_of_le hh) hl
  | false => rw [Text.toLower_of_not_isUpper hu]

theorem byteCode_eq {s : String} (h : ∀ c ∈ s.toList, c.toNat < 0x80) :
    byteCode s = letterCode (lowercase s).toList := by
  have hlower : (lowercase s).toList = s.toList.map Char.toLower := by
    rw [lowercase, lowercaseFrom_of_ascii h, String.toList_ofList]
  have hbytes : s.toByteArray.data.toList = s.toList.flatMap String.utf8EncodeChar := by
    conv => lhs; rw [← String.ofList_toList (s := s)]
    rw [String.toByteArray_ofList, List.utf8Encode, List.toList_data_toByteArray]
  rw [hlower, byteCode, letterCode, hbytes]
  generalize s.toList = cs at h
  generalize 0 = n
  induction cs generalizing n with
  | nil => rfl
  | cons c cs ih =>
    obtain ⟨hc, hcs⟩ := List.forall_mem_cons.mp h
    have hn : (UInt8.ofNat c.toNat).toNat = c.toNat := toNat_ofNat_of_lt (by omega)
    simp only [List.flatMap_cons, encodeChar_ascii hc, List.singleton_append, List.foldl_cons,
      List.map_cons, hn, lor_toLower]
    exact ih hcs _

/-- No two directives have a spelling with the same number, and `other` is none of these. -/
def areApart (other : Nat) (codes : List (Nat × Directive)) : Bool :=
  codes.all fun a =>
    !Nat.beq a.1 other && codes.all fun b => !Nat.beq a.1 b.1 || a.2 == b.2

theorem spellings_apart :
    areApart (byteCode (labelOf none)) (spellings.map fun s => (byteCode s.1, s.2)) = true := by
  decide +kernel

theorem letterCode_lowercase (h : (s, d) ∈ spellings) :
    letterCode (lowercase s).toList = byteCode s := (byteCode_eq (spelling_ascii h)).symm

theorem directive_unique (hs : (s, d) ∈ spellings) (ht : (t, e) ∈ spellings)
    (hl : lowercase s = lowercase t) : d = e := by
  have hcode : byteCode s = byteCode t := by
    rw [← letterCode_lowercase hs, hl, letterCode_lowercase ht]
  have hapart := spellings_apart
  simp only [areApart, List.all_map, List.all_eq_true, Function.comp_apply, Bool.and_eq_true]
    at hapart
  have hst := (hapart _ hs).2 _ ht
  simpa [hcode] using hst

/-- What stands for no directive is no spelling in any letter case. -/
theorem labelOf_none_apart (hs : (s, d) ∈ spellings) : lowercase s ≠ lowercase (labelOf none) := by
  intro hl
  have hcode : byteCode s = byteCode (labelOf none) := by
    rw [← letterCode_lowercase hs, hl, byteCode_eq (by simp [labelOf])]
  have hapart := spellings_apart
  simp only [areApart, List.all_map, List.all_eq_true, Function.comp_apply, Bool.and_eq_true]
    at hapart
  have hst := (hapart _ hs).1
  simp [hcode] at hst

-- ---------------------------------------------------------------------------
-- Looking a label up
-- ---------------------------------------------------------------------------

theorem lookup_eq_some_iff {entries : List (String × Directive)}
    (h : ∀ key d e, (key, d) ∈ entries → (key, e) ∈ entries → d = e) :
    entries.lookup key = some d ↔ (key, d) ∈ entries := by
  have hmem : ∀ e, entries.lookup key = some e → (key, e) ∈ entries := by
    intro e he
    obtain ⟨before, after, rfl, -⟩ := List.lookup_eq_some_iff.mp he
    simp
  refine ⟨hmem d, fun hd => ?_⟩
  cases hl : entries.lookup key with
  | some e => rw [h key e d (hmem e hl) hd]
  | none =>
    have hne := List.lookup_eq_none_iff.mp hl _ hd
    simp at hne

section

variable {label : String}

theorem findAnyCase?_eq_some_iff :
    findAnyCase? label = some d ↔ ∃ s, Spells s d ∧ lowercase s = lowercase label := by
  simp only [findAnyCase?, Option.map_eq_some_iff, ← mem_spellings_iff]
  constructor
  · rintro ⟨⟨s, d⟩, hf, rfl⟩
    exact ⟨s, List.mem_of_find?_eq_some hf, by simpa using List.find?_some hf⟩
  · rintro ⟨s, hs, hl⟩
    have hsome : (spellings.find? fun entry => lowercase entry.1 == lowercase label).isSome := by
      rw [List.find?_isSome]
      exact ⟨(s, d), hs, by simpa using hl⟩
    obtain ⟨⟨t, e⟩, hf⟩ := Option.isSome_iff_exists.mp hsome
    have ht : lowercase t = lowercase label := by simpa using List.find?_some hf
    have he : e = d := directive_unique (List.mem_of_find?_eq_some hf) hs (ht.trans hl.symm)
    exact ⟨(t, e), hf, he⟩

theorem lookup_spellings : spellings.lookup label = some d ↔ Spells label d := by
  rw [← mem_spellings_iff]
  exact lookup_eq_some_iff fun _ _ _ hd he => directive_unique hd he rfl

theorem find?_eq_exact_iff : find? label = some (.exact d) ↔ Spells label d := by
  rw [← lookup_spellings, find?]
  cases spellings.lookup label <;> simp

theorem find?_eq_wrongCase_iff : find? label = some (.wrongCase d) ↔
    (∀ e, ¬Spells label e) ∧ ∃ s, Spells s d ∧ lowercase s = lowercase label := by
  simp only [← @lookup_spellings label, ← findAnyCase?_eq_some_iff, find?]
  cases spellings.lookup label <;> simp

theorem find?_directive_iff : (find? label).map Match.directive = some d ↔
    ∃ s, Spells s d ∧ lowercase s = lowercase label := by
  rw [← findAnyCase?_eq_some_iff, find?]
  cases hl : spellings.lookup label with
  | none => simp [Match.directive, Function.comp_def]
  | some e =>
    have he : findAnyCase? label = some e :=
      findAnyCase?_eq_some_iff.mpr ⟨label, lookup_spellings.mp hl, rfl⟩
    simp [Match.directive, he]

theorem find?_eq_none_iff : find? label = none ↔
    ∀ s d, Spells s d → lowercase s ≠ lowercase label := by
  rw [← Option.map_eq_none_iff (f := Match.directive), Option.eq_none_iff_forall_ne_some]
  simp only [ne_eq, find?_directive_iff, not_exists, not_and]
  exact ⟨fun h s d => h d s, fun h d s => h s d⟩

end

-- ---------------------------------------------------------------------------
-- Tables
-- ---------------------------------------------------------------------------

/-- A table filled entry by entry. An entry takes the place of one with the same key. -/
def fill (entries : List (String × Directive)) : Std.HashMap String Directive :=
  entries.foldl (fun table entry => table.insert entry.1 entry.2) ∅

/-- Looks a label up in a table of spellings, and else its lower case in a second table. -/
def lookUp (exact lower : Std.HashMap String Directive) (label : String) : Option Match :=
  match exact[label]? with
  | some d => some (.exact d)
  | none => (lower[lowercase label]?).map .wrongCase

def lowered (entry : String × Directive) : String × Directive := (lowercase entry.1, entry.2)

theorem foldl_insert_getElem? (entries : List (String × Directive))
    (table : Std.HashMap String Directive) (key : String) :
    (entries.foldl (fun table entry => table.insert entry.1 entry.2) table)[key]? =
      (entries.reverse.lookup key).or table[key]? := by
  induction entries generalizing table with
  | nil => rfl
  | cons entry entries ih =>
    obtain ⟨other, d⟩ := entry
    rw [List.foldl_cons, ih, List.reverse_cons, List.lookup_append, Option.or_assoc,
      Std.HashMap.getElem?_insert]
    by_cases hk : other = key
    · simp [hk]
    · have hne : (key == other) = false := by simpa using Ne.symm hk
      simp [hk, List.lookup_cons, hne]

theorem fill_getElem?_eq_some_iff {entries : List (String × Directive)}
    (h : ∀ key d e, (key, d) ∈ entries → (key, e) ∈ entries → d = e) :
    (fill entries)[key]? = some d ↔ (key, d) ∈ entries := by
  rw [fill, foldl_insert_getElem?, Std.HashMap.getElem?_empty, Option.or_none,
    lookup_eq_some_iff (by simpa using h), List.mem_reverse]

theorem lookUp_eq {order walk : List (String × Directive)} (horder : order.Perm spellings)
    (hwalk : walk.Perm (fill order).toList) (label : String) :
    lookUp (fill order) (fill (walk.map lowered)) label = find? label := by
  have hexact : ∀ key d, (fill order)[key]? = some d ↔ Spells key d := by
    intro key d
    rw [← mem_spellings_iff, ← horder.mem_iff]
    refine fill_getElem?_eq_some_iff fun key d e hd he => ?_
    exact directive_unique (horder.mem_iff.mp hd) (horder.mem_iff.mp he) rfl
  have hlower : ∀ key d, (key, d) ∈ walk.map lowered ↔ ∃ s, Spells s d ∧ lowercase s = key := by
    intro key d
    simp [lowered, hwalk.mem_iff, Std.HashMap.mem_toList_iff_getElem?_eq_some, hexact]
  have hany : (fill (walk.map lowered))[lowercase label]? = findAnyCase? label := by
    refine Option.ext fun d => ?_
    rw [fill_getElem?_eq_some_iff, hlower, findAnyCase?_eq_some_iff]
    intro key d e hd he
    obtain ⟨s, hs, rfl⟩ := (hlower key d).mp hd
    obtain ⟨t, ht, hl⟩ := (hlower _ e).mp he
    exact directive_unique (mem_spellings_iff.mpr hs) (mem_spellings_iff.mpr ht) hl.symm
  have hlookup : (fill order)[label]? = spellings.lookup label :=
    Option.ext fun d => (hexact label d).trans lookup_spellings.symm
  cases hl : spellings.lookup label with
  | none => simp [lookUp, find?, hany, hlookup, hl]
  | some d => simp [lookUp, find?, hlookup, hl]

/-- A label names the directive that it spells; otherwise the one that some spelling with the same
lower case names, in the wrong case; otherwise none. This does not depend on how tables of the
spellings are filled or walked, and labels with the same lower case name the same directive. -/
theorem labels_case_blind (label : String) :
    (∀ d, find? label = some (.exact d) ↔ Spells label d) ∧
    (∀ d, find? label = some (.wrongCase d) ↔
      (∀ e, ¬Spells label e) ∧ ∃ s, Spells s d ∧ lowercase s = lowercase label) ∧
    (find? label = none ↔ ∀ s d, Spells s d → lowercase s ≠ lowercase label) ∧
    (lowercase label = lowercase (labelOf none) → find? label = none) ∧
    (∀ order walk : List (String × Directive), order.Perm spellings → walk.Perm (fill order).toList →
      lookUp (fill order) (fill (walk.map lowered)) label = find? label) ∧
    ∀ other, lowercase other = lowercase label →
      (find? other).map Match.directive = (find? label).map Match.directive := by
  refine ⟨fun d => find?_eq_exact_iff, fun d => find?_eq_wrongCase_iff, find?_eq_none_iff,
    fun h => ?_, fun order walk horder hwalk => lookUp_eq horder hwalk label, fun other h => ?_⟩
  · rw [find?_eq_none_iff, h]
    exact fun s d hs => labelOf_none_apart (mem_spellings_iff.mpr hs)
  · refine Option.ext fun d => ?_
    rw [find?_directive_iff, find?_directive_iff, h]

/-- An alias that differs from its label in letter case only, with both tables turned around. -/
theorem labels_case_blind_turned :
    lowercase "pidfile" = lowercase "PIDFile" ∧
      lookUp (fill spellings.reverse)
        (fill ((fill spellings.reverse).toList.reverse.map lowered)) "PIDFile" =
          some (.exact .pidFile) ∧
      (find? "pidfile").map Match.directive = some .pidFile := by
  have hlower : lowercase "pidfile" = lowercase "PIDFile" := by decide +kernel
  obtain ⟨hexact, -, -, -, htables, hcase⟩ := labels_case_blind "PIDFile"
  have hfound : find? "PIDFile" = some (.exact .pidFile) :=
    (hexact .pidFile).mpr (.inr (by simp [aliases]))
  refine ⟨hlower, ?_, ?_⟩
  · rw [htables _ _ (List.reverse_perm _) (List.reverse_perm _), hfound]
  · rw [hcase _ hlower, hfound]
    rfl

end StanzaLint.Directive
