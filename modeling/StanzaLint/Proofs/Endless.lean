import Mathlib.Data.Fintype.Card
import Mathlib.Data.Nat.Digits.Defs
import StanzaLint.Proofs.Additivity
import StanzaLint.Proofs.Levels
import StanzaLint.Proofs.Lockstep

/-!
# Runs without end

Without a limit on the depth, files that include each other are read for ever. A
run has levels for more files inside of each other than there are paths, and that is
enough to tell: one that needs them all needs any number of them (`endless_of_paths`).
The levels that a file needs do not depend on what is remembered of the run
(`file_uncounted`), and a file that needs some of them includes one that needs just
one less (`Needs.descends`). So files that need different numbers of levels have
different paths, and there are only so many of those.
-/

namespace StanzaLint

namespace Run

-- ---------------------------------------------------------------------------
-- The end of a run does not depend on its memory
-- ---------------------------------------------------------------------------

/-- Runs that are at the same point of the same file, whatever each remembers and counts. -/
def samePlace : Likeness where
  processor := Processor.SamePlace
  record _ _ := True
  outcome o o' := o.uncounted = o'.uncounted

theorem samePlace_lawful (checks : Checks) : samePlace.Lawful checks checks where
  followIncludes := rfl
  includeDirectory := rfl
  lastLineEmpty h := h.lastLineEmpty.symm
  step h text place := by
    have halike := Processor.step_alike h.stanza checks text place
    exact ⟨halike.place, halike.current.symm⟩
  record _ _ _ _ := trivial
  found _ _ _ := rfl
  suspend _ := ⟨rfl, rfl⟩
  resume h _ := ⟨h.stanza, h.lastLineEmpty⟩
  nothing := rfl
  missing _ := rfl
  counts h := by
    constructor
    · rintro ⟨n, rfl⟩
      exact Outcome.uncounted_count h
    · rintro ⟨n, rfl⟩
      exact Outcome.uncounted_count h.symm
  add _ h := by
    show Outcome.uncounted _ = Outcome.uncounted _
    rw [Outcome.uncounted_add, Outcome.uncounted_add]
    exact h
  within h text path := Outcome.uncounted_within h text path

theorem file_uncounted (checks : Checks) (files : Files) (levels depth : Nat) (path : Path)
    (p q : Processor) :
    (file checks files levels depth path p).outcome.uncounted =
      (file checks files levels depth path q).outcome.uncounted := by
  cases levels with
  | zero => rfl
  | succ levels =>
    rcases file_uniform checks files levels depth path with ⟨cause, he⟩ | ⟨content, -, he⟩
    · rw [he, he]
      rfl
    · have law := samePlace_lawful checks
      have hstart : samePlace.processor p.suspend.2 q.suspend.2 := ⟨rfl, rfl⟩
      have hvisit := file_inStep law (fun _ => rfl) files levels (depth + 1)
      rw [he, he, resume_outcome, resume_outcome]
      exact (lines_inStep law hvisit hstart path 0 (Text.fileLines content)).outcome

section
variable (settings : Settings) (titles : TitleLookup) (files : Files)

theorem file_depth (levels depth other : Nat) :
    file ⟨settings.limited none, titles⟩ files levels depth =
      file ⟨settings.limited none, titles⟩ files levels other := by
  induction levels generalizing depth other with
  | zero => rfl
  | succ levels ih =>
    funext path p
    simp only [file, ih (depth + 1) (other + 1)]
    rfl

/-- Without a limit, a run of the file does not end on this many levels. -/
def Endless (levels : Nat) (path : Path) : Prop :=
  (file ⟨settings.limited none, titles⟩ files levels 0 path {}).outcome = .endless

/-- The number of levels on which the file cannot be read, but on one more it can. -/
structure Needs (levels : Nat) (path : Path) : Prop where
  endless : Endless settings titles files levels path
  enough : ¬Endless settings titles files (levels + 1) path

variable {settings titles files}

theorem endless_iff (levels depth : Nat) (path : Path) (p : Processor) :
    (file ⟨settings.limited none, titles⟩ files levels depth path p).outcome = .endless ↔
      Endless settings titles files levels path := by
  have huncounted : ∀ o : Outcome, o = .endless ↔ o.uncounted = .endless := by
    intro o
    cases o <;> simp [Outcome.uncounted]
  rw [Endless, file_depth settings titles files levels depth 0, huncounted,
    file_uncounted _ files levels 0 path p {}, ← huncounted]

theorem Endless.of_outOfDepth {levels depth : Nat} {path : Path} {p : Processor}
    (h : (file ⟨settings.limited none, titles⟩ files levels depth path p).outcome.OutOfDepth) :
    Endless settings titles files levels path := by
  rcases h with h | h
  · exact (endless_iff levels depth path p).mp h
  · exact absurd h (file_unlimited settings titles files levels depth path p)

theorem file_more_levels (settings : Settings) (titles : TitleLookup) (files : Files)
    (hl : levels ≤ more) (depth : Nat) (path : Path) (p : Processor) :
    file ⟨settings.limited none, titles⟩ files levels depth path p =
        file ⟨settings.limited none, titles⟩ files more depth path p ∨
      Endless settings titles files levels path := by
  have hopen : ∀ k, Open none levels depth k → Open none more depth k :=
    fun k ho => open_none.mpr (Nat.lt_of_lt_of_le ho.level hl)
  rcases file_deeper settings titles files hopen path p with heq | hcut
  · exact .inl heq
  · exact .inr (.of_outOfDepth hcut.outcome)

theorem Endless.fewer {path : Path} (h : Endless settings titles files more path)
    (hl : levels ≤ more) : Endless settings titles files levels path := by
  rcases file_more_levels settings titles files hl 0 path {} with heq | hless
  · rw [Endless, heq]
    exact h
  · exact hless

theorem Endless.found {path : Path} (h : Endless settings titles files (levels + 1) path) :
    ∃ content, files path = .file content := by
  rcases file_cases ⟨settings.limited none, titles⟩ files levels 0 path {} with
    ⟨cause, he⟩ | ⟨content, hc, -⟩
  · rw [Endless, he] at h
    cases h
  · exact ⟨content, hc⟩

/-- A file needs one level more than the one that its first line includes. -/
theorem Endless.includes {path : Path} {content : List UInt8} {text : String}
    {rest : List String} {target : Path} (hfile : files path = .file content)
    (hlines : Text.fileLines content = text :: rest)
    (hfollows : Follows ⟨settings.limited none, titles⟩
      (alone ⟨settings.limited none, titles⟩ path 1 text true (Processor.suspend {}).2))
    (htarget : target? text = some target)
    (h : Endless settings titles files levels (resolve settings path target)) :
    Endless settings titles files (levels + 1) path := by
  let checks : Checks := ⟨settings.limited none, titles⟩
  let here := alone checks path 1 text true (Processor.suspend {}).2
  have hinner : (follow checks.settings (file checks files levels 1) path text
      here.processor).outcome = .endless := by
    rw [follow_some htarget]
    simp only [show (file checks files levels 1 (resolve checks.settings path target)
      here.processor).outcome = .endless from (endless_iff levels 1 _ _).mpr h, Outcome.within]
  have hline : (line checks (file checks files levels 1) path 1 text true
      (Processor.suspend {}).2).outcome = .endless := by
    rw [line_eq, if_pos hfollows, andThen_count rfl, hinner]
    rfl
  simp only [Endless, file, hfile, hlines, resume_outcome, lines,
    show (settings.limited none).maxIncludeDepth.filter (· < 0) = none from rfl]
  rw [andThen_stop (by simp [checks, hline]), hline]

-- ---------------------------------------------------------------------------
-- One level less for an included file
-- ---------------------------------------------------------------------------

def BothEndless (r s : Run) : Prop := r.outcome = .endless ∧ s.outcome = .endless

theorem bothEndless_escape : Escape BothEndless where
  stops h n hn := by
    rw [h.1] at hn
    cases hn
  before h events n := by
    obtain ⟨hr, hs⟩ := h
    exact ⟨by rw [hr]; rfl, by rw [hs]; rfl⟩
  behind h more := by
    refine ⟨h.1, ?_⟩
    rw [andThen_stop fun n hn => by rw [h.2] at hn; cases hn]
    exact h.2
  around h text enclosing path p := by
    obtain ⟨hr, hs⟩ := h
    exact ⟨by rw [hr]; rfl, by rw [hs]; rfl⟩
  resumed h file := ⟨h.1, by rw [resume_outcome]; exact h.2⟩

theorem Needs.descends {path : Path} (h : Needs settings titles files (levels + 1) path) :
    ∃ inner, Needs settings titles files levels inner := by
  by_contra hnone
  have hstuck : ∀ inner, Endless settings titles files levels inner →
      Endless settings titles files (levels + 1) inner := by
    intro inner hi
    by_contra henough
    exact hnone ⟨inner, hi, henough⟩
  -- with another level the included files end as they did, so this file does too
  have hvisit : VisitUnless BothEndless (file ⟨settings.limited none, titles⟩ files levels 1)
      (file ⟨settings.limited none, titles⟩ files (levels + 1) 1) := by
    intro inner p
    rcases file_more_levels settings titles files (Nat.le_succ levels) 1 inner p with heq | hi
    · exact .inl heq
    · exact .inr ⟨(endless_iff ..).mpr hi, (endless_iff ..).mpr (hstuck inner hi)⟩
  obtain ⟨content, hc⟩ := h.endless.found
  have hless := h.endless
  have hmore := h.enough
  simp only [Endless, file, hc, resume_outcome,
    show (settings.limited none).maxIncludeDepth.filter (· < 0) = none from rfl] at hless hmore
  rcases lines_unless bothEndless_escape hvisit path 0 (Text.fileLines content)
    (Processor.suspend {}).2 with heq | hboth
  · exact hmore (heq ▸ hless)
  · exact hmore hboth.2

theorem Needs.below {path : Path} (h : Needs settings titles files levels path)
    (hl : fewer ≤ levels) : ∃ inner, Needs settings titles files fewer inner := by
  induction levels generalizing path with
  | zero => exact ⟨path, Nat.le_zero.mp hl ▸ h⟩
  | succ levels ih =>
    rcases Nat.le_succ_iff.mp hl with hl | rfl
    · obtain ⟨inner, hi⟩ := h.descends
      exact ih hi hl
    · exact ⟨path, h⟩

theorem Needs.unique {path : Path} (h : Needs settings titles files levels path)
    (ho : Needs settings titles files others path) : levels = others := by
  have hle : ∀ {a b}, Needs settings titles files a path → Needs settings titles files b path →
      b ≤ a := by
    intro a b ha hb
    by_contra hlt
    exact ha.enough (hb.endless.fewer (by omega))
  exact Nat.le_antisymm (hle ho h) (hle h ho)

/-- As many files have to be found as levels are needed. -/
theorem Needs.le_bound {path : Path} (h : Needs settings titles files levels path)
    {code : Path → Nat} (hcode : code.Injective)
    (hbound : ∀ path content, files path = .file content → code path < bound) :
    levels ≤ bound := by
  have hexists : ∀ i : Fin levels, ∃ inner, Needs settings titles files (i + 1) inner :=
    fun i => h.below i.isLt
  choose inner hinner using hexists
  have hlt : ∀ i, code (inner i) < bound := by
    intro i
    obtain ⟨content, hc⟩ := (hinner i).endless.found
    exact hbound _ content hc
  let number : Fin levels → Fin bound := fun i => ⟨code (inner i), hlt i⟩
  have hinjective : number.Injective := by
    intro i j hij
    have hsame : inner i = inner j := hcode (Fin.mk.inj hij)
    have hneeds := hinner i
    rw [hsame] at hneeds
    exact Fin.ext (Nat.succ.inj (hneeds.unique (hinner j)))
  have hcard := Fintype.card_le_of_injective number hinjective
  rwa [Fintype.card_fin, Fintype.card_fin] at hcard

end

end Run

-- ---------------------------------------------------------------------------
-- Paths that lead anywhere
-- ---------------------------------------------------------------------------

namespace FileTree

def codeBase : Nat := 2097152

def code (path : Path) : Nat := Nat.ofDigits codeBase (path.toList.map (·.toNat + 1))

theorem digit_lt (c : Char) : c.toNat + 1 < codeBase := by
  show c.val.toNat + 1 < 2097152
  rcases c.valid with h | h <;> omega

theorem code_injective : Function.Injective code := by
  have hdigits : ∀ path, Nat.digits codeBase (code path) = path.toList.map (·.toNat + 1) := by
    intro path
    refine Nat.digits_ofDigits codeBase (by decide) _ (fun d hd => ?_) (fun hne hlast => ?_)
    · obtain ⟨c, -, rfl⟩ := List.mem_map.mp hd
      exact digit_lt c
    · rw [List.getLast_map] at hlast
      cases hlast
  intro a b h
  have hmap : a.toList.map (·.toNat + 1) = b.toList.map (·.toNat + 1) := by
    rw [← hdigits, ← hdigits, h]
  have hchar : Function.Injective fun c : Char => c.toNat + 1 :=
    fun c d hcd => Char.toNat_inj.mp (Nat.succ.inj hcd)
  exact String.toList_inj.mp (List.map_injective_iff.mpr hchar hmap)

theorem length_le_utf8ByteSize (path : Path) : path.toList.length ≤ path.utf8ByteSize := by
  rw [← String.ofList_toList (s := path), String.toList_ofList]
  induction path.toList with
  | nil => simp
  | cons c rest ih =>
    have hsplit : String.ofList (c :: rest) = String.ofList [c] ++ String.ofList rest := by
      rw [← String.ofList_append, List.singleton_append]
    have hone : (String.ofList [c]).utf8ByteSize = c.utf8Size := by
      rw [← String.singleton_eq_ofList, String.utf8ByteSize_singleton]
    have hpos := c.utf8Size_pos
    rw [hsplit, String.utf8ByteSize_append, hone, List.length_cons]
    omega

theorem code_lt_of_length {path : Path} (h : path.toList.length ≤ n) :
    code path < Nat.pow codeBase n := by
  have hdigits := Nat.ofDigits_lt_base_pow_length (b := codeBase)
    (l := path.toList.map (·.toNat + 1)) (by decide) fun d hd => by
      obtain ⟨c, -, rfl⟩ := List.mem_map.mp hd
      exact digit_lt c
  rw [List.length_map] at hdigits
  exact hdigits.trans_le (Nat.pow_le_pow_right (by decide) h)

theorem length_le_of_find {tree : FileTree} {path : Path} (h : tree.find path = .file content) :
    path.toList.length ≤ maxPath := by
  refine (length_le_utf8ByteSize path).trans ?_
  by_contra hlong
  simp [find, Nat.lt_of_not_le hlong] at h

@[irreducible] def pathCount : Nat := Nat.pow codeBase maxPath

theorem code_lt {tree : FileTree} (path : Path) (content : List UInt8)
    (h : tree.find path = .file content) : code path < pathCount := by
  unfold pathCount
  exact code_lt_of_length (length_le_of_find h)

theorem pathCount_lt : pathCount + 1 < pathBound := by
  unfold pathCount pathBound
  generalize maxPath = n
  have hpow : Nat.pow 2 (21 * (n + 1)) = codeBase * Nat.pow codeBase n := by
    show 2 ^ (21 * (n + 1)) = codeBase * codeBase ^ n
    rw [Nat.pow_mul, Nat.pow_succ', show 2 ^ 21 = codeBase from rfl]
  have hpos : 0 < Nat.pow codeBase n := Nat.pow_pos (by decide)
  rw [hpow]
  generalize Nat.pow codeBase n = count at hpos
  unfold codeBase
  omega

end FileTree

namespace Run

variable {settings : Settings} {titles : TitleLookup} {tree : FileTree}

/-- A run that needs as many levels as there are paths does not end on any number of them. -/
theorem endless_of_paths (h : Endless settings titles tree.find levels path)
    (hl : FileTree.pathCount < levels) (more : Nat) :
    Endless settings titles tree.find more path := by
  classical
  by_contra hends
  have hexists : ∃ k, ¬Endless settings titles tree.find k path := ⟨more, hends⟩
  obtain ⟨needed, hn⟩ : ∃ needed, Nat.find hexists = needed + 1 := by
    refine Nat.exists_eq_add_one_of_ne_zero fun hzero => ?_
    exact (Nat.find_eq_zero hexists).mp hzero rfl
  have hneeds : Needs settings titles tree.find needed path := by
    refine ⟨?_, hn ▸ Nat.find_spec hexists⟩
    by_contra hless
    exact Nat.find_min hexists (by omega) hless
  have hbound := hneeds.le_bound FileTree.code_injective FileTree.code_lt
  exact hneeds.enough (h.fewer (by omega))

/-- A run that ends on some number of levels ends in the same way on as many as there are paths. -/
theorem file_enough (h : ¬Endless settings titles tree.find levels path)
    (hm : FileTree.pathCount < more) (depth : Nat) (p : Processor) :
    file ⟨settings.limited none, titles⟩ tree.find levels depth path p =
      file ⟨settings.limited none, titles⟩ tree.find more depth path p := by
  rcases Nat.le_total levels more with hl | hl
  · exact (file_more_levels settings titles tree.find hl depth path p).resolve_right h
  · have hsame := file_more_levels settings titles tree.find hl depth path p
    exact (hsame.resolve_right fun hless => h (endless_of_paths hless hm levels)).symm

end Run

end StanzaLint
