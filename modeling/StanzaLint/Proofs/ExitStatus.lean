import StanzaLint.Proofs.CommandLines
import StanzaLint.Proofs.DepthLimit
import StanzaLint.Proofs.FullWriters

/-!
# The status of the program

The status tells how far the program came. Without a failure every file was read to
its end, and the status says whether anything was found (`runWithin_count`). With one,
the files before it were, what they showed is printed, and so is what the failed file
showed until then (`runWithin_failure`). The root of the failure gives the status, and
the layers around it are the includes that were being followed. A file whose includes
nest without end leaves the program without a status (`runWithin_endless`), and there
are such files if the depth has no limit (`circle_endless`).
-/

namespace StanzaLint

open Text

/-- The includes that have been entered and not left after these events, each on a directive that
was being read, are the layers of the failure. Each is a line of the file before it, and the root
is the fault of the last one. -/
structure Failure.ArisesAfter (checks : Checks) (files : Files) (path : Path)
    (happened : List Event) (cause : Failure) : Prop where
  layers : cause.layers = (Run.active happened).reverse
  directives : .enter text enclosing target p ∈ happened → p.current = some .includeFile
  faithful : cause.Faithful checks files 0 path

namespace Run

variable {checks : Checks} {files : Files}

theorem file_arises {levels : Nat} {path : Path} {p : Processor} {cause : Failure}
    (h : (file checks files levels 0 path p).outcome = .failure cause) :
    ∃ happened, (file checks files levels 0 path p).events =
        happened ++ List.replicate cause.layers.length .leave ∧
      cause.ArisesAfter checks files path happened := by
  have hnests := file_nests checks files levels 0 path p
  obtain ⟨happened, hevents, hlayers⟩ := hnests.failure h
  refine ⟨happened, hevents, ?_, fun he => ?_, file_faithful checks files levels 0 path p h⟩
  · rw [active, hlayers, List.append_nil, List.reverse_reverse]
  · exact hnests.nested.directive (hevents ▸ List.mem_append_left _ he)

/-- Only without a limit on the depth there are files that are read for ever. -/
theorem ofFile_endless {settings : Settings} {titles : TitleLookup} {path : Path} {p : Processor}
    (h : (ofFile ⟨settings, titles⟩ files path p).outcome = .endless) :
    settings.maxIncludeDepth = none := by
  refine Option.eq_none_iff_forall_ne_some.mpr fun m hm => ?_
  have hsettings : settings = settings.limited (some m) := by rw [Settings.limited, ← hm]
  rw [hsettings] at h
  exact (ofFile_guarded settings titles files path m p).ends h

theorem ofFile_tree_endless (settings : Settings) (titles : TitleLookup) (tree : FileTree)
    (path : Path) (p : Processor) :
    (ofFile ⟨settings, titles⟩ tree.find path p).outcome = .endless ↔
      settings.maxIncludeDepth = none ∧
        ∀ levels, Endless settings titles tree.find levels path := by
  constructor
  · intro h
    have hlimit := ofFile_endless h
    refine ⟨hlimit, fun levels => ?_⟩
    have hsettings : settings = settings.limited none := by rw [Settings.limited, ← hlimit]
    rw [hsettings] at h
    have hbound : Endless settings titles tree.find FileTree.pathBound path :=
      (endless_iff _ 0 path p).mp h
    exact endless_of_paths hbound (Nat.lt_of_succ_lt FileTree.pathCount_lt) levels
  · rintro ⟨hlimit, h⟩
    have hsettings : settings = settings.limited none := by rw [Settings.limited, ← hlimit]
    rw [ofFile, hsettings]
    exact (endless_iff _ 0 path p).mpr (h _)

end Run

-- ---------------------------------------------------------------------------
-- Sessions
-- ---------------------------------------------------------------------------

theorem shownBytes_leaves (style : Style) (n : Nat) :
    shownBytes style (List.replicate n .leave) = [] := by
  induction n with
  | zero => rfl
  | succ n ih => exact ih

theorem printEvents_printed {style : Style} {room : Option Nat} {layers : List (String × Path)}
    {events : List Event} (h : (printEvents style room layers events).stop = none) :
    (printEvents style room layers events).output = shownBytes style events := by
  cases room with
  | none =>
    rw [printEvents_none]
    rfl
  | some n =>
    rcases Nat.lt_or_ge n (shownBytes style events).length with hfull | hfits
    · obtain ⟨spot, hspot⟩ := printEvents_full hfull layers
      rw [hspot] at h
      cases h
    · rw [printEvents_fits hfits]

theorem Spot.taken {style : Style} {events : List Event} (spot : Spot style events n) :
    ∃ part, (shownBytes style events).take n = shownBytes style spot.happened ++ part ∧
      part <+: shownBytes style [spot.event] ∧ part ≠ shownBytes style [spot.event] := by
  let bytes := shownBytes style [spot.event]
  let taken := (spot.before.flatMap Chunk.bytes).length + spot.offset
  have hless : taken < bytes.length := by
    have hoffset := spot.offset_lt
    have hchunks : bytes = spot.before.flatMap Chunk.bytes ++
        (spot.chunk.bytes ++ spot.after.flatMap Chunk.bytes) := by
      simp [bytes, shownBytes, spot.chunks_eq]
    rw [hchunks, List.length_append, List.length_append]
    omega
  refine ⟨bytes.take taken, ?_, List.take_prefix _ _, fun heq => ?_⟩
  · have hevents : shownBytes style events =
        shownBytes style spot.happened ++ (bytes ++ shownBytes style spot.later) := by
      rw [← shownBytes_append, ← shownBytes_append, List.singleton_append, ← spot.events_eq]
    have hplace : n = (shownBytes style spot.happened).length + taken :=
      spot.place.trans (Nat.add_assoc _ _ _)
    calc (shownBytes style events).take n
        = (shownBytes style spot.happened ++ (bytes ++ shownBytes style spot.later)).take
            ((shownBytes style spot.happened).length + taken) := by rw [hevents, ← hplace]
      _ = shownBytes style spot.happened ++ bytes.take taken := by
        rw [List.take_length_add_append, List.take_append_of_le_length (Nat.le_of_lt hless)]
  · have hlength : (bytes.take taken).length = bytes.length := congrArg List.length heq
    rw [List.length_take] at hlength
    omega

namespace Session

/-- A file failed after these events, in its run or in the writer. They were all printed, and of
the event at which a writer took no more, this part. -/
structure FailsAfter (checks : Checks) (style : Style) (files : Files) (s : Session) (path : Path)
    (cause : Failure) (happened : List Event) (part : List UInt8) : Prop where
  outcome : (s.lint checks style files path).1.outcome = .failure cause
  output : (s.lint checks style files path).1.output = shownBytes style happened ++ part
  arises : cause.ArisesAfter checks files path happened
  place :
    let run := Run.ofFile checks files path s.processor
    run.outcome = .failure cause ∧ part = [] ∧
        run.events = happened ++ List.replicate cause.layers.length .leave ∨
      ∃ fault event more, cause.root = .unwritable fault ∧
        run.events = happened ++ event :: more ∧
        (printEvents style s.room [] run.events).stop =
          some ⟨fault, event, Run.active happened⟩ ∧
        part <+: shownBytes style [event] ∧ part ≠ shownBytes style [event]

variable {checks : Checks} {style : Style} {files : Files}

theorem lint_failure {s : Session} {path : Path} {cause : Failure}
    (h : (s.lint checks style files path).1.outcome = .failure cause) :
    ∃ happened part, s.FailsAfter checks style files path cause happened part := by
  let run := Run.ofFile checks files path s.processor
  cases hstop : (printEvents style s.room [] run.events).stop with
  | none =>
    have hlint := lint_of_printed rfl hstop
    rw [hlint] at h
    obtain ⟨happened, hevents, harises⟩ := Run.file_arises h
    refine ⟨happened, [], by rw [hlint]; exact h, ?_, harises, .inl ⟨h, rfl, hevents⟩⟩
    have hrun : run.events = happened ++ List.replicate cause.layers.length .leave := hevents
    rw [hlint, printEvents_printed hstop, hrun, shownBytes_append, shownBytes_leaves]
  | some stop =>
    have hlint := lint_of_stopped rfl hstop
    rw [hlint] at h
    cases h
    obtain ⟨n, hroom⟩ : ∃ n, s.room = some n := by
      refine Option.ne_none_iff_exists'.mp fun hroom => ?_
      rw [hroom, printEvents_none] at hstop
      cases hstop
    have hfull : n < (shownBytes style run.events).length := by
      refine Nat.lt_of_not_le fun hfits => ?_
      rw [hroom, printEvents_fits hfits] at hstop
      cases hstop
    obtain ⟨spot, hspot⟩ := printEvents_full hfull []
    rw [← hroom] at hspot
    obtain ⟨part, htaken, hprefix, hless⟩ := spot.taken
    rw [hspot, Option.some.injEq] at hstop
    subst hstop
    have hnested := (Run.file_nests checks files (Run.levelsFor checks.settings) 0 path
      s.processor).nested
    obtain ⟨layers, hamid⟩ := hnested.amid ⟨_, spot.events_eq.symm⟩
    refine ⟨spot.happened, part, by rw [hlint], by rw [hlint, hspot, htaken],
      ⟨?_, fun he => ?_, ?_⟩, .inr ⟨spot.chunk.fault, spot.event, spot.later, ?_,
        spot.events_eq, by rw [hspot]; rfl, hprefix, hless⟩⟩
    · rw [Stop.layers_failure]
      rfl
    · have hmem := List.mem_append_left (spot.event :: spot.later) he
      rw [← spot.events_eq] at hmem
      exact hnested.directive hmem
    · rw [Stop.failure_eq, hamid.foldl_layers, List.append_nil, List.reverse_reverse]
      exact hamid.faithful 0 spot.chunk.fault
    · exact Stop.root_failure _

theorem lint_counts {s : Session} {path : Path}
    (h : (s.lint checks style files path).1.outcome = .count n) :
    n = (Run.findings (Run.ofFile checks files path s.processor).events).length := by
  cases hstop : (printEvents style s.room []
    (Run.ofFile checks files path s.processor).events).stop with
  | none =>
    rw [lint_of_printed rfl hstop] at h
    exact Run.file_counts checks files _ 0 path s.processor n h
  | some stop =>
    rw [lint_of_stopped rfl hstop] at h
    cases h

theorem lint_endless {s : Session} {path : Path}
    (h : (s.lint checks style files path).1.outcome = .endless) :
    (Run.ofFile checks files path s.processor).outcome = .endless := by
  cases hstop : (printEvents style s.room []
    (Run.ofFile checks files path s.processor).events).stop with
  | none =>
    rw [lint_of_printed rfl hstop] at h
    exact h
  | some stop =>
    rw [lint_of_stopped rfl hstop] at h
    cases h

/-- A file is read for ever if no number of levels is enough for it, unless a writer stops it. -/
theorem lint_tree_endless (tree : FileTree) {settings : Settings} {titles : TitleLookup}
    {path : Path} {s : Session} :
    let outcome := (s.lint ⟨settings, titles⟩ style tree.find path).1.outcome
    let nested := ∀ levels, Run.Endless settings titles tree.find levels path
    (outcome = .endless → nested) ∧
      (s.room = none → settings.maxIncludeDepth = none → nested → outcome = .endless) := by
  intro outcome nested
  have hiff := Run.ofFile_tree_endless settings titles tree path s.processor
  refine ⟨fun h => (hiff.mp (lint_endless h)).2, fun hroom hlimit hnested => ?_⟩
  obtain ⟨p, room⟩ := s
  cases hroom
  simp only [outcome, lint_none]
  exact hiff.mpr ⟨hlimit, hnested⟩

-- ---------------------------------------------------------------------------
-- Files in turn
-- ---------------------------------------------------------------------------

/-- Every file was read to its end and printed, and this is all that was found. -/
inductive Linted (checks : Checks) (style : Style) (files : Files) :
    Session → List Path → List Diagnostic → Session → Prop
  | nil (s : Session) : Linted checks style files s [] [] s
  | cons : (s.lint checks style files path).1.outcome = .count n →
    Linted checks style files (s.lint checks style files path).2 rest found t →
    Linted checks style files s (path :: rest)
      (Run.findings (Run.ofFile checks files path s.processor).events ++ found) t

/-- Behind files that were read to their end, reading goes on as if it began there. -/
theorem Linted.lintAll {s t : Session} {paths : List Path} {found : List Diagnostic}
    (h : Linted checks style files s paths found t) (rest : List Path) :
    let later := Program.lintAll checks style files t rest
    Program.lintAll checks style files s (paths ++ rest) =
      ⟨(Program.lintAll checks style files s paths).output ++ later.output,
        later.outcome.add found.length⟩ := by
  induction h with
  | nil s => simp only [List.nil_append, Program.lintAll, List.length_nil, Outcome.add_zero]
  | @cons s path n paths found t hn _ ih =>
    simp only [List.cons_append, Program.lintAll, hn, ih, List.append_assoc, Outcome.add_add,
      lint_counts hn, List.length_append]

theorem Linted.count {s t : Session} {paths : List Path} {found : List Diagnostic}
    (h : Linted checks style files s paths found t) :
    (Program.lintAll checks style files s paths).outcome = .count found.length := by
  have hall := h.lintAll []
  rw [List.append_nil] at hall
  rw [hall]
  rfl

theorem Linted.stop {s t : Session} {before : List Path} {found : List Diagnostic}
    (h : Linted checks style files s before found t) {path : Path}
    (hstop : ∀ n, (t.lint checks style files path).1.outcome ≠ .count n) (after : List Path) :
    let last := (t.lint checks style files path).1
    Program.lintAll checks style files s (before ++ path :: after) =
      ⟨(Program.lintAll checks style files s before).output ++ last.output, last.outcome⟩ := by
  intro last
  rw [h.lintAll, Program.lintAll]
  cases ho : (t.lint checks style files path).1.outcome with
  | count n => exact absurd ho (hstop n)
  | failure cause => simp only [last, ho, Outcome.add]
  | endless => simp only [last, ho, Outcome.add]

theorem linted_or_stops (checks : Checks) (style : Style) (files : Files) (s : Session)
    (paths : List Path) :
    (∃ found t, Linted checks style files s paths found t) ∨
      ∃ before path after found t, paths = before ++ path :: after ∧
        Linted checks style files s before found t ∧
        ∀ n, (t.lint checks style files path).1.outcome ≠ .count n := by
  induction paths generalizing s with
  | nil => exact .inl ⟨[], s, .nil s⟩
  | cons path rest ih =>
    by_cases hn : ∃ n, (s.lint checks style files path).1.outcome = .count n
    · obtain ⟨n, hn⟩ := hn
      rcases ih (s.lint checks style files path).2 with
        ⟨found, t, hlinted⟩ | ⟨before, last, after, found, t, rfl, hlinted, hstop⟩
      · exact .inl ⟨_, t, .cons hn hlinted⟩
      · exact .inr ⟨path :: before, last, after, _, t, rfl, .cons hn hlinted, hstop⟩
    · exact .inr ⟨[], path, rest, [], s, rfl, .nil s, not_exists.mp hn⟩

end Session

-- ---------------------------------------------------------------------------
-- The program
-- ---------------------------------------------------------------------------

theorem Failure.exitStatus_cases (cause : Failure) :
    cause.exitStatus = 1 ∨ cause.exitStatus = 3 ∨ cause.exitStatus = 4 := by
  induction cause with
  | included line path cause ih => exact ih
  | tooDeep path limit => exact .inr (.inr rfl)
  | config fault => exact .inr (.inl rfl)
  | _ => exact .inl rfl

namespace Finished

theorem exitStatus_eq_zero {f : Finished} : f.exitStatus = some 0 ↔ f.outcome = .count 0 := by
  obtain ⟨output, outcome⟩ := f
  rcases outcome with (_ | n) | cause | _
  · simp [exitStatus]
  · simp [exitStatus]
  · have := cause.exitStatus_cases
    simp only [exitStatus, reduceCtorEq, iff_false, Option.some.injEq]
    omega
  · simp [exitStatus]

theorem exitStatus_eq_two {f : Finished} :
    f.exitStatus = some 2 ↔ ∃ n, f.outcome = .count n ∧ n ≠ 0 := by
  obtain ⟨output, outcome⟩ := f
  rcases outcome with (_ | n) | cause | _
  · simp [exitStatus]
  · simp [exitStatus]
  · have := cause.exitStatus_cases
    simp only [exitStatus, reduceCtorEq, false_and, exists_false, iff_false, Option.some.injEq]
    omega
  · simp [exitStatus]

theorem exitStatus_eq_three {f : Finished} :
    f.exitStatus = some 3 ↔ ∃ cause, f.outcome = .failure cause ∧ cause.exitStatus = 3 := by
  obtain ⟨output, outcome⟩ := f
  rcases outcome with (_ | n) | cause | _ <;> simp [exitStatus]

theorem exitStatus_eq_none {f : Finished} : f.exitStatus = none ↔ f.outcome = .endless := by
  obtain ⟨output, outcome⟩ := f
  rcases outcome with (_ | n) | cause | _ <;> simp [exitStatus]

end Finished

namespace Program

/-- The command line names a settings file that does not exist, or whose text does not tell
settings. -/
def Misconfigured (files : Files) (line : CommandLine) : Prop :=
  ∃ fault, line.HasBase files (.error (.config fault))

theorem settings_cases (files : Files) (line : CommandLine) :
    (∃ settings, Program.settings files line = .ok settings ∧ ¬Misconfigured files line) ∨
    (∃ fault, Program.settings files line = .error (.config fault) ∧ Misconfigured files line) ∨
    ∃ path fault, Program.settings files line = .error (.unreadable path fault) ∧
      ¬Misconfigured files line := by
  obtain ⟨base, hb⟩ := line.exists_hasBase files
  have hsettings := CommandLine.Same.refl.settings_eq hb
  have hother : (∀ fault, .error (.config fault) ≠ base) → ¬Misconfigured files line := by
    rintro hne ⟨fault, hfault⟩
    exact hne fault (hb.unique hfault)
  cases hb with
  | defaults hnone => exact .inl ⟨_, hsettings, hother (by simp)⟩
  | file hpath hloads =>
    cases hloads with
    | missing hfile => exact .inr (.inl ⟨_, hsettings, _, .file hpath (.missing hfile)⟩)
    | malformed hfile hnone =>
      exact .inr (.inl ⟨_, hsettings, _, .file hpath (.malformed hfile hnone)⟩)
    | read hfile hentries hreads => exact .inl ⟨_, hsettings, hother (by simp)⟩
    | _ => exact .inr (.inr ⟨_, _, hsettings, hother (by simp)⟩)

/-- With these settings the files before this one were read to their end, and left the session
that reads it. -/
structure Reaches (room : Option Nat) (files : Files) (titles : TitleLookup) (env : Environment)
    (line : CommandLine) (settings : Settings) (before : List Path) (path : Path) (t : Session) :
    Prop where
  known : Program.settings files line = .ok settings
  named : ∃ after, line.files = before ++ path :: after
  linted : ∃ found,
    Session.Linted ⟨settings, titles⟩ (styleOf env line settings) files { room } before found t

section
variable {room : Option Nat} {files : Files} {titles : TitleLookup} {env : Environment}
variable {line : CommandLine} {settings : Settings}

theorem runWithin_linted (hs : Program.settings files line = .ok settings)
    (h : Session.Linted ⟨settings, titles⟩ (styleOf env line settings) files { room } line.files
      found t) :
    (runWithin room files titles env line).outcome = .count found.length := by
  simp only [runWithin, hs]
  exact h.count

theorem Reaches.stop (h : Reaches room files titles env line settings before path t)
    (hstop : ∀ n, (t.lint ⟨settings, titles⟩ (styleOf env line settings) files path).1.outcome ≠
      .count n) :
    let last := (t.lint ⟨settings, titles⟩ (styleOf env line settings) files path).1
    runWithin room files titles env line =
      ⟨(runWithin room files titles env { line with files := before }).output ++ last.output,
        last.outcome⟩ := by
  intro last
  obtain ⟨after, hfiles⟩ := h.named
  obtain ⟨found, hlinted⟩ := h.linted
  have hbefore : Program.settings files { line with files := before } = .ok settings := h.known
  simp only [runWithin, h.known, hbefore, hfiles]
  exact hlinted.stop hstop after

/-- How a program comes to its end: its settings are not known, or every file was read, or one of
them was not. -/
theorem runWithin_cases (room : Option Nat) (files : Files) (titles : TitleLookup)
    (env : Environment) (line : CommandLine) :
    (∃ cause, Program.settings files line = .error cause) ∨
    (∃ settings found t, Program.settings files line = .ok settings ∧
      Session.Linted ⟨settings, titles⟩ (styleOf env line settings) files { room } line.files
        found t) ∨
    ∃ settings before path t, Reaches room files titles env line settings before path t ∧
      ∀ n, (t.lint ⟨settings, titles⟩ (styleOf env line settings) files path).1.outcome ≠
        .count n := by
  cases hs : Program.settings files line with
  | error cause => exact .inl ⟨cause, rfl⟩
  | ok settings =>
    rcases Session.linted_or_stops ⟨settings, titles⟩ (styleOf env line settings) files { room }
      line.files with ⟨found, t, hlinted⟩ | ⟨before, path, after, found, t, hfiles, hlinted, hstop⟩
    · exact .inr (.inl ⟨settings, found, t, rfl, hlinted⟩)
    · exact .inr (.inr ⟨settings, before, path, t, ⟨hs, ⟨after, hfiles⟩, found, hlinted⟩, hstop⟩)

theorem runWithin_count :
    (runWithin room files titles env line).outcome = .count n ↔ ∃ settings found t,
      Program.settings files line = .ok settings ∧
      Session.Linted ⟨settings, titles⟩ (styleOf env line settings) files { room } line.files
        found t ∧ n = found.length := by
  constructor
  · intro h
    rcases runWithin_cases room files titles env line with ⟨cause, hs⟩ |
      ⟨settings, found, t, hs, hlinted⟩ | ⟨settings, before, path, t, hreaches, hstop⟩
    · simp only [runWithin, hs] at h
      cases h
    · rw [runWithin_linted hs hlinted] at h
      cases h
      exact ⟨settings, found, t, hs, hlinted, rfl⟩
    · rw [hreaches.stop hstop] at h
      exact absurd h (hstop n)
  · rintro ⟨settings, found, t, hs, hlinted, rfl⟩
    exact runWithin_linted hs hlinted

theorem runWithin_endless :
    (runWithin room files titles env line).outcome = .endless ↔ ∃ settings before path t,
      Reaches room files titles env line settings before path t ∧
      (t.lint ⟨settings, titles⟩ (styleOf env line settings) files path).1.outcome =
        .endless := by
  constructor
  · intro h
    rcases runWithin_cases room files titles env line with ⟨cause, hs⟩ |
      ⟨settings, found, t, hs, hlinted⟩ | ⟨settings, before, path, t, hreaches, hstop⟩
    · simp only [runWithin, hs] at h
      cases h
    · rw [runWithin_linted hs hlinted] at h
      cases h
    · rw [hreaches.stop hstop] at h
      exact ⟨settings, before, path, t, hreaches, h⟩
  · rintro ⟨settings, before, path, t, hreaches, hendless⟩
    rw [hreaches.stop (by simp [hendless])]
    exact hendless

theorem runWithin_failure (h : (runWithin room files titles env line).outcome = .failure cause) :
    let finished := runWithin room files titles env line
    Program.settings files line = .error cause ∧ finished.output = [] ∨
    ∃ settings before path t happened part,
      Reaches room files titles env line settings before path t ∧
      t.FailsAfter ⟨settings, titles⟩ (styleOf env line settings) files path cause happened part ∧
      finished.output =
        (runWithin room files titles env { line with files := before }).output ++
          (shownBytes (styleOf env line settings) happened ++ part) := by
  intro finished
  rcases runWithin_cases room files titles env line with ⟨fault, hs⟩ |
    ⟨settings, found, t, hs, hlinted⟩ | ⟨settings, before, path, t, hreaches, hstop⟩
  · have hrun : finished = { outcome := .failure fault } := by simp only [finished, runWithin, hs]
    rw [show runWithin room files titles env line = _ from hrun] at h
    cases h
    exact .inl ⟨hs, by rw [hrun]⟩
  · rw [runWithin_linted hs hlinted] at h
    cases h
  · have hrun := hreaches.stop hstop
    rw [hrun] at h
    obtain ⟨happened, part, hfails⟩ := Session.lint_failure h
    refine .inr ⟨settings, before, path, t, happened, part, hreaches, hfails, ?_⟩
    rw [show finished = _ from hrun, hfails.output]

theorem runWithin_status (h : (runWithin room files titles env line).outcome = .failure cause) :
    cause.exitStatus = 3 ∧ Misconfigured files line ∨
      (cause.exitStatus = 4 ∧ cause.TooDeep ∨ cause.exitStatus = 1 ∧ ¬cause.TooDeep) ∧
        ¬Misconfigured files line := by
  rcases runWithin_failure h with ⟨hs, -⟩ |
    ⟨settings, before, path, t, happened, part, hreaches, hfails, -⟩
  · rcases settings_cases files line with ⟨settings, hs', -⟩ | ⟨fault, hs', hyes⟩ |
      ⟨path, fault, hs', hno⟩
    · rw [hs] at hs'
      cases hs'
    · rw [hs] at hs'
      cases hs'
      exact .inl ⟨rfl, hyes⟩
    · rw [hs] at hs'
      cases hs'
      refine .inr ⟨.inr ⟨rfl, ?_⟩, hno⟩
      rintro ⟨target, limit, hroot⟩
      cases hroot
  · refine .inr ⟨hfails.arises.faithful.exitStatus, fun hyes => ?_⟩
    rcases settings_cases files line with ⟨-, -, hno⟩ | ⟨fault, hs', -⟩ | ⟨path, fault, hs', hno⟩
    · exact hno hyes
    · rw [hreaches.known] at hs'
      cases hs'
    · exact hno hyes

end

section
variable (room : Option Nat) (files : Files) (titles : TitleLookup) (env : Environment)
variable (line : CommandLine)

theorem exitStatus_zero :
    (runWithin room files titles env line).exitStatus = some 0 ↔ ∃ settings t,
      Program.settings files line = .ok settings ∧
      Session.Linted ⟨settings, titles⟩ (styleOf env line settings) files { room } line.files
        [] t := by
  rw [Finished.exitStatus_eq_zero, runWithin_count]
  constructor
  · rintro ⟨settings, found, t, hs, hlinted, hn⟩
    rw [List.length_eq_zero_iff.mp hn.symm] at hlinted
    exact ⟨settings, t, hs, hlinted⟩
  · rintro ⟨settings, t, hs, hlinted⟩
    exact ⟨settings, [], t, hs, hlinted, rfl⟩

theorem exitStatus_two :
    (runWithin room files titles env line).exitStatus = some 2 ↔ ∃ settings found t,
      Program.settings files line = .ok settings ∧
      Session.Linted ⟨settings, titles⟩ (styleOf env line settings) files { room } line.files
        found t ∧ found ≠ [] := by
  rw [Finished.exitStatus_eq_two]
  constructor
  · rintro ⟨n, hn, hne⟩
    obtain ⟨settings, found, t, hs, hlinted, rfl⟩ := runWithin_count.mp hn
    exact ⟨settings, found, t, hs, hlinted, fun hnil => hne (List.length_eq_zero_iff.mpr hnil)⟩
  · rintro ⟨settings, found, t, hs, hlinted, hne⟩
    refine ⟨_, runWithin_linted hs hlinted, fun hzero => hne ?_⟩
    exact List.length_eq_zero_iff.mp hzero

theorem exitStatus_none :
    (runWithin room files titles env line).exitStatus = none ↔ ∃ settings before path t,
      Reaches room files titles env line settings before path t ∧
      settings.maxIncludeDepth = none ∧
      (t.lint ⟨settings, titles⟩ (styleOf env line settings) files path).1.outcome =
        .endless := by
  rw [Finished.exitStatus_eq_none, runWithin_endless]
  constructor
  · rintro ⟨settings, before, path, t, hreaches, hendless⟩
    have hlimit := Run.ofFile_endless (Session.lint_endless hendless)
    exact ⟨settings, before, path, t, hreaches, hlimit, hendless⟩
  · rintro ⟨settings, before, path, t, hreaches, -, hendless⟩
    exact ⟨settings, before, path, t, hreaches, hendless⟩

theorem exitStatus_three :
    (runWithin room files titles env line).exitStatus = some 3 ↔ Misconfigured files line := by
  constructor
  · intro h
    obtain ⟨cause, hcause, hthree⟩ := Finished.exitStatus_eq_three.mp h
    rcases runWithin_status hcause with ⟨-, hyes⟩ | ⟨hother, -⟩
    · exact hyes
    · omega
  · intro hyes
    rcases settings_cases files line with ⟨-, -, hno⟩ | ⟨fault, hs, -⟩ | ⟨path, fault, -, hno⟩
    · exact absurd hyes hno
    · simp only [runWithin, hs]
      rfl
    · exact absurd hyes hno

theorem exitStatus_otherwise
    (h : (runWithin room files titles env line).exitStatus ∉ [none, some 0, some 2, some 3]) :
    let finished := runWithin room files titles env line
    ∃ cause, finished.outcome = .failure cause ∧
      (finished.exitStatus = some 4 ∧ cause.TooDeep ∨
        finished.exitStatus = some 1 ∧ ¬cause.TooDeep) := by
  intro finished
  simp only [List.mem_cons, List.not_mem_nil, or_false, not_or] at h
  obtain ⟨hnone, hzero, htwo, hthree⟩ := h
  cases ho : finished.outcome with
  | count n =>
    by_cases hn : n = 0
    · exact absurd (Finished.exitStatus_eq_zero.mpr (hn ▸ ho)) hzero
    · exact absurd (Finished.exitStatus_eq_two.mpr ⟨n, ho, hn⟩) htwo
  | failure cause =>
    have hstatus : finished.exitStatus = some cause.exitStatus := by
      rw [Finished.exitStatus, ho]
    rw [hstatus, Option.some.injEq, Option.some.injEq]
    rcases runWithin_status ho with ⟨-, hyes⟩ | ⟨hother, -⟩
    · exact absurd ((exitStatus_three room files titles env line).mpr hyes) hthree
    · exact ⟨cause, rfl, hother⟩
  | endless => exact absurd (Finished.exitStatus_eq_none.mpr ho) hnone

end

/-- A failure is a root that is no include, inside of the includes that were being followed when it
arose; each of them is on a line of the file before it and leads from there to the next one. The
root gives the status. The program ends with 0 or 2 if every file was read to its end, without or
with findings, with 3 if its settings are at fault, and otherwise fails with 1 or 4; then it has
printed all that happened before. It has no status if it comes to a file whose includes nest
without end, for which there is no limit on their depth. -/
theorem failures_nest (files : Files) (titles : TitleLookup) :
    (∀ (settings : Settings) (style : Style) (s : Session) (path : Path) (cause : Failure),
      (s.lint ⟨settings, titles⟩ style files path).1.outcome = .failure cause →
      (cause = .around cause.layers cause.root ∧
        ∀ text target inner, cause.root ≠ .included text target inner) ∧
      (∃ happened part, s.FailsAfter ⟨settings, titles⟩ style files path cause happened part) ∧
      cause.exitStatus = cause.root.exitStatus ∧
      (cause.exitStatus = 4 ∧ cause.TooDeep ∨ cause.exitStatus = 1 ∧ ¬cause.TooDeep)) ∧
    ∀ (room : Option Nat) (env : Environment) (line : CommandLine),
      let finished := runWithin room files titles env line
      (finished.exitStatus = some 0 ↔ ∃ settings t, Program.settings files line = .ok settings ∧
        Session.Linted ⟨settings, titles⟩ (styleOf env line settings) files { room } line.files
          [] t) ∧
      (finished.exitStatus = some 2 ↔ ∃ settings found t,
        Program.settings files line = .ok settings ∧
        Session.Linted ⟨settings, titles⟩ (styleOf env line settings) files { room } line.files
          found t ∧ found ≠ []) ∧
      (finished.exitStatus = some 3 ↔ Misconfigured files line) ∧
      (finished.exitStatus = none ↔ ∃ settings before path t,
        Reaches room files titles env line settings before path t ∧
        settings.maxIncludeDepth = none ∧
        (t.lint ⟨settings, titles⟩ (styleOf env line settings) files path).1.outcome = .endless) ∧
      (∀ tree settings style path (t : Session), files = FileTree.find tree →
        let outcome := (t.lint ⟨settings, titles⟩ style files path).1.outcome
        let nested := ∀ levels, Run.Endless settings titles files levels path
        (outcome = .endless → nested) ∧
          (t.room = none → settings.maxIncludeDepth = none → nested → outcome = .endless)) ∧
      (finished.exitStatus ∉ [none, some 0, some 2, some 3] →
        ∃ cause, finished.outcome = .failure cause ∧
          (finished.exitStatus = some 4 ∧ cause.TooDeep ∨
            finished.exitStatus = some 1 ∧ ¬cause.TooDeep)) ∧
      ∀ cause, finished.outcome = .failure cause →
        Program.settings files line = .error cause ∧ finished.output = [] ∨
        ∃ settings before path t happened part,
          Reaches room files titles env line settings before path t ∧
          t.FailsAfter ⟨settings, titles⟩ (styleOf env line settings) files path cause happened
            part ∧
          finished.output =
            (runWithin room files titles env { line with files := before }).output ++
              (shownBytes (styleOf env line settings) happened ++ part) := by
  refine ⟨fun settings style s path cause h => ?_, fun room env line =>
    ⟨exitStatus_zero room files titles env line, exitStatus_two room files titles env line,
      exitStatus_three room files titles env line, exitStatus_none room files titles env line,
      fun tree settings style path t hfiles => hfiles ▸ Session.lint_tree_endless tree,
      exitStatus_otherwise room files titles env line, fun cause h => runWithin_failure h⟩⟩
  obtain ⟨happened, part, hfails⟩ := Session.lint_failure h
  exact ⟨⟨cause.around_layers.symm, cause.root_ne_included⟩, ⟨happened, part, hfails⟩,
    cause.exitStatus_root.symm, hfails.arises.faithful.exitStatus⟩

/-- Two files to read. The second one includes a file of a directory, and that one a file that is
missing there. -/
def broken : FileTree where
  entries := [
    (["a.txt"], .file (encodeUtf8 "Title A\n".toList)),
    (["main.txt"], .file (encodeUtf8 "IncludeFile sub/one.txt\n".toList)),
    (["sub"], .directory),
    (["sub", "one.txt"], .file (encodeUtf8 "Title A\nIncludeFile gone.txt\n".toList))]

def runBroken (room : Option Nat) (paths : List Path) : Finished :=
  runWithin room broken.find (.pages fun _ => .ok none) {} { files := paths }

def missingBelow : Failure :=
  .included "IncludeFile sub/one.txt" "sub/one.txt"
    (.included "IncludeFile gone.txt" "sub/gone.txt" (.notFound "sub/gone.txt"))

theorem failures_nest_broken :
    (runBroken none ["a.txt", "main.txt"]).outcome = .failure missingBelow ∧
      (runBroken none ["a.txt", "main.txt"]).exitStatus = some 1 ∧
      ∃ before path happened part, (∃ after, ["a.txt", "main.txt"] = before ++ path :: after) ∧
        (Run.active happened).reverse =
          [("IncludeFile sub/one.txt", "sub/one.txt"), ("IncludeFile gone.txt", "sub/gone.txt")] ∧
        (runBroken none ["a.txt", "main.txt"]).output = (runBroken none before).output ++
          (shownBytes (styleOf {} { files := ["a.txt", "main.txt"] } {}) happened ++ part) := by
  have hruns : (runBroken none ["a.txt", "main.txt"]).outcome = .failure missingBelow ∧
      (runBroken none ["a.txt", "main.txt"]).exitStatus = some 1 := by decide +kernel
  obtain ⟨hfailure, hstatus⟩ := hruns
  have hall := (failures_nest broken.find (.pages fun _ => .ok none)).2 none {}
    { files := ["a.txt", "main.txt"] }
  rcases hall.2.2.2.2.2.2 missingBelow hfailure with ⟨hs, -⟩ |
    ⟨settings, before, path, t, happened, part, hreaches, hfails, houtput⟩
  · cases hs
  · obtain ⟨hknown, hnamed, -⟩ := hreaches
    cases hknown
    exact ⟨hfailure, hstatus, before, path, happened, part, hnamed, hfails.arises.layers.symm,
      houtput⟩

/-- A file that includes itself, and settings that are no text. -/
def hopeless : FileTree where
  entries := [
    (["main.txt"], .file (encodeUtf8 "IncludeFile main.txt\n".toList)),
    (["c.toml"], .file [0xFF])]

theorem circle_endless (levels : Nat) :
    Run.Endless {} (.pages fun _ => .ok none) hopeless.find levels "main.txt" := by
  induction levels with
  | zero => rfl
  | succ levels ih =>
    have hlines : fileLines (encodeUtf8 "IncludeFile main.txt\n".toList) =
        ["IncludeFile main.txt"] := by decide +kernel
    have htarget : Run.target? "IncludeFile main.txt" = some "main.txt" := by decide +kernel
    have hresolve : Run.resolve {} "main.txt" "main.txt" = "main.txt" := by decide +kernel
    refine .includes rfl hlines ?_ htarget (by rwa [hresolve])
    decide +kernel

def runHopeless (line : CommandLine) : Finished :=
  Program.run hopeless.find (.pages fun _ => .ok none) {} line

theorem statuses_incomplete :
    (CommandLine.parse none ["main.txt"] = .ok { files := ["main.txt"] } ∧
      (runHopeless { files := ["main.txt"] }).exitStatus ∉
        [some 0, some 1, some 2, some 3, some 4]) ∧
    CommandLine.parse none ["--config", "c.toml", "main.txt"] =
        .ok { files := ["main.txt"], settingsFile := some "c.toml" } ∧
      hopeless.find "c.toml" = .file [0xFF] ∧ decodeUtf8? [0xFF] = none ∧
      (runHopeless { files := ["main.txt"], settingsFile := some "c.toml" }).exitStatus =
        some 1 := by
  have hreaches : Reaches none hopeless.find (.pages fun _ => .ok none) {} { files := ["main.txt"] }
      {} [] "main.txt" {} := ⟨rfl, ⟨[], rfl⟩, [], .nil _⟩
  have hstatus := (exitStatus_none ..).mpr ⟨_, _, _, _, hreaches, rfl,
    (Session.lint_tree_endless hopeless).2 rfl rfl circle_endless⟩
  refine ⟨⟨by decide +kernel, ?_⟩, by decide +kernel, rfl, rfl, by decide +kernel⟩
  rw [runHopeless, Program.run, hstatus]
  decide

end Program

end StanzaLint
