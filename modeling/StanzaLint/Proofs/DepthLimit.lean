import StanzaLint.Proofs.Endless
import StanzaLint.Proofs.FailureLayers
import StanzaLint.Proofs.Replay

/-!
# The limit on the depth of includes

With a limit every run ends, and a limit that is not exceeded cannot be seen: any
higher one gives the same report and leaves the same session, and so does none at
all. A run may also be stopped by its writer before it is too deep. Then it is stopped
at the same event under a higher limit, because nothing is printed when files are left
(`lint_unless`).
-/

namespace StanzaLint

section
variable {style : Style} {room : Option Nat} {layers : List (String × Path)} {events : List Event}

theorem stop_append_leaves (n : Nat) :
    (printEvents style room layers (events ++ List.replicate n .leave)).stop =
      (printEvents style room layers events).stop := by
  induction events generalizing room layers with
  | nil =>
    induction n generalizing layers with
    | zero => rfl
    | succ n ih => exact ih
  | cons event rest ih =>
    rcases hw : writeChunks room (event.chunks style) with ⟨bytes, left, _ | fault⟩
    · simp only [List.cons_append, printEvents, hw, ih]
    · simp only [List.cons_append, printEvents, hw]

end

namespace FileTree

theorem word_lt_pathBound : UInt64.size + 1 < pathBound := by
  have hpow : Nat.pow 2 65 ≤ pathBound := by
    have hbits : 65 ≤ 21 * (maxPath + 1) := by decide
    unfold pathBound
    generalize 21 * (maxPath + 1) = bits at hbits
    exact Nat.pow_le_pow_right (by decide) hbits
  refine Nat.lt_of_lt_of_le ?_ hpow
  decide

end FileTree

namespace Run

section
variable (settings : Settings) (titles : TitleLookup)

/-- Under a higher limit a run goes the same way, unless it was too deep. -/
theorem ofFile_higher (files : Files) (path : Path) (hm : m ≤ m') (p : Processor) :
    Unless Cut (ofFile ⟨settings.limited (some m), titles⟩ files path p)
      (ofFile ⟨settings.limited (some m'), titles⟩ files path p) := by
  refine file_deeper settings titles files (fun more ho => ?_) path p
  have hmore := ho.allowed m rfl
  refine ⟨?_, fun k hk => ?_⟩
  · show more < m' + 2
    omega
  · cases hk
    omega

theorem ofFile_word (files : Files) (path : Path) (hm : m < UInt64.size) (p : Processor) :
    Unless Cut (ofFile ⟨settings.limited (some m), titles⟩ files path p)
      (ofFile ⟨settings.limited none, titles⟩ files path p) := by
  have hbound := FileTree.word_lt_pathBound
  refine file_deeper settings titles files (fun more ho => ?_) path p
  have hmore := ho.allowed m rfl
  refine open_none.mpr ?_
  show more < FileTree.pathBound
  omega

theorem ofFile_unlimited (tree : FileTree) {path : Path} {m : Nat} {p : Processor}
    (h : ¬(ofFile ⟨settings.limited (some m), titles⟩ tree.find path p).outcome.TooDeep) :
    ofFile ⟨settings.limited none, titles⟩ tree.find path p =
      ofFile ⟨settings.limited (some m), titles⟩ tree.find path p := by
  have hends := (ofFile_guarded settings titles tree.find path m p).ends
  have hopen : ∀ more, Open (some m) (m + 2) 0 more → Open none (m + 2) 0 more :=
    fun more ho => open_none.mpr ho.level
  rcases file_deeper settings titles tree.find hopen path p with heq | hcut
  · have hmany : ¬Endless settings titles tree.find (m + 2) path := by
      intro hendless
      refine hends ?_
      rw [ofFile, show levelsFor (settings.limited (some m)) = m + 2 from rfl, heq]
      exact (endless_iff (m + 2) 0 path p).mpr hendless
    exact (heq.trans (file_enough hmany (Nat.lt_of_succ_lt FileTree.pathCount_lt) 0 p)).symm
  · exact absurd hcut.outcome (not_or.mpr ⟨hends, h⟩)

/-- A run without a limit goes on for ever if it is too deep for every limit. -/
theorem ofFile_endless_iff (tree : FileTree) (path : Path) (p : Processor) :
    (ofFile ⟨settings.limited none, titles⟩ tree.find path p).outcome = .endless ↔
      ∀ m, (ofFile ⟨settings.limited (some m), titles⟩ tree.find path p).outcome.TooDeep := by
  constructor
  · intro hendless m
    by_contra hdeep
    rw [ofFile_unlimited settings titles tree hdeep] at hendless
    exact (ofFile_guarded settings titles tree.find path m p).ends hendless
  · intro hdeep
    have hopen : ∀ more, Open none FileTree.pathBound 0 more →
        Open (some FileTree.pathBound) (FileTree.pathBound + 2) 0 more := by
      rintro more ⟨hlevel, -⟩
      exact ⟨by omega, fun k hk => by cases hk; omega⟩
    rcases file_deeper settings titles tree.find hopen path p with heq | hcut
    · have hnever := file_unlimited settings titles tree.find FileTree.pathBound 0 path p
      rw [heq] at hnever
      exact absurd (hdeep FileTree.pathBound) hnever
    · exact (endless_iff ..).mpr (.of_outOfDepth hcut.outcome)

end

end Run

namespace Session

variable {s : Session} {style : Style} {files : Files} {path : Path}

/-- A session does not notice that it got deeper, unless it had not been deep enough before. -/
theorem lint_unless {checks others : Checks}
    (h : Run.Unless Run.Cut (Run.ofFile checks files path s.processor)
      (Run.ofFile others files path s.processor))
    (hdeep : ¬(s.lint checks style files path).1.outcome.OutOfDepth) :
    s.lint others style files path = s.lint checks style files path := by
  rcases h with heq | ⟨hout, shown, n, hevents, more, hmore⟩
  · simp only [lint, heq]
  · cases hstop : (printEvents style s.room []
      (Run.ofFile checks files path s.processor).events).stop with
    | none =>
      rw [lint_of_printed rfl hstop] at hdeep
      exact absurd hout hdeep
    | some stop =>
      have hshown : (printEvents style s.room [] shown).stop = some stop := by
        rw [← hstop, hevents, stop_append_leaves]
      have hsame : printEvents style s.room [] (Run.ofFile others files path s.processor).events =
          printEvents style s.room [] (Run.ofFile checks files path s.processor).events := by
        rw [← hmore, hevents, printEvents_append_of_stop hshown, printEvents_append_of_stop hshown]
      obtain ⟨q, -, -, hq, -, -⟩ := shownEvents_of_stopped hstop
      rw [lint_of_stopped rfl hstop, lint_of_stopped rfl (hsame ▸ hstop), hsame, hq]
      rfl

/-- A session with a limit ends, whether its run does or its writer stops it. -/
theorem lint_guarded (settings : Settings) (titles : TitleLookup) (style : Style) (files : Files)
    (s : Session) (path : Path) (m : Nat) :
    Run.Guarded m 0
      (s.lint ⟨settings.limited (some m), titles⟩ style files path).1.outcome := by
  cases hstop : (printEvents style s.room []
    (Run.ofFile ⟨settings.limited (some m), titles⟩ files path s.processor).events).stop with
  | none =>
    rw [lint_of_printed rfl hstop]
    exact Run.ofFile_guarded settings titles files path m s.processor
  | some stop =>
    rw [lint_of_stopped rfl hstop]
    exact .of_root (fun _ _ => by simp [Stop.root_failure]) _ _

/-- A limit on the depth of includes makes every run end, with a count or with a failure. If it is
not exceeded, every higher limit gives the same report and the same session, and so does none.
If it is, there are just as many includes around the failure as make the first depth that is too
much, and nothing is looked up there. A run without a limit that does not end exceeds them all. -/
theorem depth_limit_unseen (tree : FileTree) (settings : Settings) (titles : TitleLookup)
    (style : Style) (s : Session) (path : Path) (m : Nat) :
    let lint (limit : Option Nat) := s.lint ⟨settings.limited limit, titles⟩ style tree.find path
    let outcome := (lint (some m)).1.outcome
    ((∃ n, outcome = .count n) ∨ ∃ cause, outcome = .failure cause) ∧
    (¬outcome.TooDeep →
      (∀ m' ≥ m, lint (some m') = lint (some m)) ∧
      (m < UInt64.size ∨ s.room = none → lint none = lint (some m))) ∧
    (∀ cause target limit, outcome = .failure cause → cause.root = .tooDeep target limit →
      limit = m ∧ cause.layers.length = m + 1) ∧
    (∀ files : Nat → Files, (∀ depth ≤ m, files depth = tree.find) →
      Run.fileByDepth ⟨settings.limited (some m), titles⟩ files (m + 2) 0 path s.processor =
        Run.ofFile ⟨settings.limited (some m), titles⟩ tree.find path s.processor) ∧
    (s.room = none →
      ((lint none).1.outcome = .endless ↔ ∀ m', (lint (some m')).1.outcome.TooDeep)) := by
  intro lint outcome
  have hguarded := lint_guarded settings titles style tree.find s path m
  refine ⟨hguarded.result, fun hdeep => ⟨fun m' hm => ?_, fun hm => ?_⟩, ?_, fun files hfiles => ?_,
    ?_⟩
  · exact lint_unless (Run.ofFile_higher settings titles tree.find path hm s.processor)
      (not_or.mpr ⟨hguarded.ends, hdeep⟩)
  · rcases hm with hm | hroom
    · exact lint_unless (Run.ofFile_word settings titles tree.find path hm s.processor)
        (not_or.mpr ⟨hguarded.ends, hdeep⟩)
    · obtain ⟨p, room⟩ := s
      cases hroom
      simp only [lint, outcome, lint_none] at hdeep ⊢
      rw [Run.ofFile_unlimited settings titles tree hdeep]
  · intro cause target limit hcause hroot
    obtain ⟨hlimit, hdepth⟩ := hguarded.tooDeep hcause hroot
    exact ⟨hlimit, by omega⟩
  · rw [Run.fileByDepth_congr settings titles hfiles, ← Run.file_eq_fileByDepth]
    rfl
  · intro hroom
    obtain ⟨p, room⟩ := s
    cases hroom
    simp only [lint, lint_none]
    exact Run.ofFile_endless_iff settings titles tree path p

/-- Three files inside of each other, the last one with the title of the first. -/
def nested : FileTree where
  entries := [
    (["main.txt"], .file (Text.encodeUtf8 "Title A\nIncludeFile sub/one.txt\n".toList)),
    (["sub"], .directory),
    (["sub", "one.txt"], .file (Text.encodeUtf8 "IncludeFile two.txt\n".toList)),
    (["sub", "two.txt"], .file (Text.encodeUtf8 "Title A\n".toList))]

def lintNested (limit : Option Nat) : Report × Session :=
  lint {} ⟨Settings.limited {} limit, .pages fun _ => .ok none⟩ {} nested.find "main.txt"

theorem depth_limit_unseen_nested :
    (lintNested (some 1)).1.outcome = .failure
        (.included "IncludeFile sub/one.txt" "sub/one.txt"
          (.included "IncludeFile two.txt" "sub/two.txt" (.tooDeep "sub/two.txt" 1))) ∧
      (lintNested (some 2)).1.outcome = .count 3 ∧
      (∀ m ≥ 2, lintNested (some m) = lintNested (some 2)) ∧
      lintNested none = lintNested (some 2) := by
  have hruns : (lintNested (some 1)).1.outcome = .failure
        (.included "IncludeFile sub/one.txt" "sub/one.txt"
          (.included "IncludeFile two.txt" "sub/two.txt" (.tooDeep "sub/two.txt" 1))) ∧
      (lintNested (some 2)).1.outcome = .count 3 := by decide +kernel
  obtain ⟨hfailure, hcount⟩ := hruns
  have hdeep : ¬(lintNested (some 2)).1.outcome.TooDeep := by
    rw [hcount]
    exact id
  have hall := depth_limit_unseen nested {} (.pages fun _ => .ok none) {} {} "main.txt" 2
  obtain ⟨hhigher, hnone⟩ := hall.2.1 hdeep
  exact ⟨hfailure, hcount, hhigher, hnone (.inr rfl)⟩

end Session

end StanzaLint
