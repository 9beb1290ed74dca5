import StanzaLint.Proofs.Runs
import StanzaLint.Report

/-!
# A session is a history

The events of a run tell what its processor was asked to do: a line was processed,
or a file was set aside for an included one and taken up again (`Trace`). So
everything that is shown of histories holds of runs of files too. Files that are
read one after the other form a single history, also when some of them fail, or
when the writer is full (`Session.deeds_replay`). The state that a failed file
leaves behind is not the one of the history, but the two are the same again when
the next file starts.
-/

namespace StanzaLint

structure Deed where
  action : Action
  found : List Diagnostic
  deriving DecidableEq, Repr

/-- Two processors are the same as soon as a file is started with them. -/
def Processor.SameStart (p q : Processor) : Prop := p.suspend.2 = q.suspend.2

namespace Event

def deed? : Event → Option Deed
  | before _ => none
  | line record _ => some ⟨.line record.line record.location, record.diagnostics⟩
  | enter _ _ _ _ => some ⟨.suspend, []⟩
  | leave => some ⟨.resume, []⟩

inductive Happens (checks : Checks) (s : Progress) : Event → Progress → Prop
  | before : Happens checks s (before s.processor) s
  | line (place text : String) (closes physical : Bool) :
    Happens checks s
      (line ⟨place, text, closes, (s.processor.step checks text place).2, physical⟩
        (s.processor.step checks text place).1)
      (s.perform checks (.line text place)).1
  | enter (text : String) (enclosing target : Path) :
    Happens checks s (enter text enclosing target s.processor) (s.perform checks .suspend).1
  | leave : Happens checks s leave (s.perform checks .resume).1

theorem Happens.deed {event : Event} (h : event.Happens checks s t) :
    event.deed? = none ∧ s = t ∨
      ∃ deed, event.deed? = some deed ∧ s.perform checks deed.action = (t, deed.found) := by
  cases h with
  | before => exact .inl ⟨rfl, rfl⟩
  | line place text closes physical => exact .inr ⟨_, rfl, rfl⟩
  | enter text enclosing target => exact .inr ⟨_, rfl, rfl⟩
  | leave =>
    refine .inr ⟨_, rfl, ?_⟩
    obtain ⟨p, _ | ⟨file, rest⟩⟩ := s <;> rfl

theorem Happens.sameStart {event : Event} (h : event.Happens checks s t)
    (hq : event.state? = some q) : t.processor.SameStart q := by
  cases h <;> cases hq <;> rfl

end Event

/-- The events that lead from one state to another. -/
inductive Trace (checks : Checks) : Progress → List Event → Progress → Prop
  | nil (s : Progress) : Trace checks s [] s
  | cons : event.Happens checks s u → Trace checks u events t → Trace checks s (event :: events) t

namespace Trace

variable {checks : Checks} {s t u : Progress} {events more : List Event} {event : Event}

theorem single (h : event.Happens checks s t) : Trace checks s [event] t := .cons h (.nil t)

theorem append (h : Trace checks s events u) (hm : Trace checks u more t) :
    Trace checks s (events ++ more) t := by
  induction h with
  | nil s => exact hm
  | cons he _ ih => exact .cons he (ih hm)

theorem of_append (h : Trace checks s (events ++ more) t) :
    ∃ u, Trace checks s events u ∧ Trace checks u more t := by
  induction events generalizing s with
  | nil => exact ⟨s, .nil s, h⟩
  | cons event rest ih =>
    cases h with
    | cons he hr =>
      obtain ⟨u, hu, hm⟩ := ih hr
      exact ⟨u, .cons he hu, hm⟩

/-- The deeds of a trace are a history that leads to the same state, with the same findings. -/
theorem run (h : Trace checks s events t) :
    s.run checks ((events.filterMap Event.deed?).map Deed.action) =
      (t, (events.filterMap Event.deed?).map Deed.found) := by
  induction h with
  | nil s => rfl
  | cons he _ ih =>
    rcases he.deed with ⟨hn, rfl⟩ | ⟨deed, hd, hp⟩
    · rw [List.filterMap_cons_none hn]
      exact ih
    · rw [List.filterMap_cons_some hd, List.map_cons, List.map_cons, Progress.run_cons, hp, ih]

end Trace

-- ---------------------------------------------------------------------------
-- Runs of files
-- ---------------------------------------------------------------------------

namespace Run

variable {checks : Checks} {visit : Path → Processor → Run} {r : Run} {s t : Progress}

/-- The trace of a run ends where the run does, unless it fails: then the files that wait have
perhaps been taken up in the trace only. -/
structure Traced (checks : Checks) (s : Progress) (r : Run) (t : Progress) : Prop where
  trace : Trace checks s r.events t
  start : t.processor.SameStart r.processor
  count : r.outcome = .count n → t = ⟨r.processor, s.suspended⟩

theorem fail_traced (s : Progress) (cause : Failure) :
    Traced checks s (fail s.processor cause) s := ⟨.nil s, rfl, fun h => nomatch h⟩

theorem alone_traced (checks : Checks) (path : Path) (number : Nat) (text : String)
    (physical : Bool) (s : Progress) :
    Traced checks s (alone checks path number text physical s.processor)
      (s.perform checks (.line text (location path number))).1 :=
  ⟨.cons .before (.single (.line _ _ _ _)), rfl, fun _ => rfl⟩

theorem andThen_traced {next : Processor → Run} (hr : ∃ t, Traced checks s r t)
    (hn : ∀ q, ∃ t, Traced checks ⟨q, s.suspended⟩ (next q) t) :
    ∃ t, Traced checks s (r.andThen next) t := by
  obtain ⟨u, hu⟩ := hr
  rcases andThen_cases r next with ⟨n, hc, he⟩ | ⟨-, he⟩
  · obtain ⟨t, ht⟩ := hn r.processor
    rw [← hu.count hc] at ht
    rw [he]
    refine ⟨t, hu.trace.append ht.trace, ht.start, fun {m} h => ?_⟩
    obtain ⟨k, hk, -⟩ := Outcome.add_eq_count h
    rw [ht.count hk, hu.count hc]
  · rw [he]
    exact ⟨u, hu⟩

/-- Whatever file is visited, and whatever files wait, its trace starts with a new stanza. After
its last line the same files wait, and the stanza that it interrupted can be taken up again. -/
def VisitTraced (checks : Checks) (visit : Path → Processor → Run) : Prop :=
  ∀ path p waiting, ∃ t, Trace checks ⟨p.suspend.2, waiting⟩ (visit path p).events t ∧
    t.processor.SameStart (visit path p).processor ∧
    ∀ n, (visit path p).outcome = .count n →
      t.suspended = waiting ∧ t.processor.resume p.suspend.1 = (visit path p).processor

theorem resume_sameStart (checks : Checks) (t : Progress) :
    (t.perform checks .resume).1.processor.SameStart t.processor := by
  obtain ⟨p, _ | ⟨file, rest⟩⟩ := t <;> rfl

theorem follow_traced (hv : VisitTraced checks visit) (enclosing : Path) (text : String)
    (s : Progress) :
    ∃ t, Traced checks s (follow checks.settings visit enclosing text s.processor) t := by
  cases ht : target? text with
  | none =>
    rw [follow_none ht]
    exact ⟨s, fail_traced s _⟩
  | some target =>
    rw [follow_some ht]
    obtain ⟨t, htrace, hstart, hcount⟩ := hv (resolve checks.settings enclosing target)
      s.processor (s.processor.suspend.1 :: s.suspended)
    refine ⟨(t.perform checks .resume).1, ?_, (resume_sameStart checks t).trans hstart,
      fun {n} h => ?_⟩
    · exact .cons (.enter text enclosing _) (htrace.append (.single .leave))
    · obtain ⟨hwait, hback⟩ := hcount n (Outcome.within_eq_count.mp h)
      rw [← hback, Progress.perform, hwait]

theorem line_traced (hv : VisitTraced checks visit) (path : Path) (number : Nat) (text : String)
    (physical : Bool) (s : Progress) :
    ∃ t, Traced checks s (line checks visit path number text physical s.processor) t := by
  have here := alone_traced checks path number text physical s
  rw [line_eq]
  split
  · exact andThen_traced ⟨_, here⟩ fun q => follow_traced hv path text ⟨q, s.suspended⟩
  · exact ⟨_, here⟩

theorem lines_traced (hv : VisitTraced checks visit) (path : Path) (number : Nat)
    (texts : List String) (s : Progress) :
    ∃ t, Traced checks s (lines checks visit path number texts s.processor) t := by
  induction texts generalizing number s with
  | nil =>
    unfold lines
    split
    · exact ⟨s, .nil s, rfl, fun _ => rfl⟩
    · exact line_traced hv path number "" false s
  | cons text rest ih =>
    unfold lines
    exact andThen_traced (line_traced hv path _ text true s) fun q => ih _ ⟨q, s.suspended⟩

theorem file_traced (checks : Checks) (files : Files) (levels depth : Nat) :
    VisitTraced checks (file checks files levels depth) := by
  induction levels generalizing depth with
  | zero => exact fun path p waiting => ⟨_, .nil _, rfl, fun _ h => nomatch h⟩
  | succ levels ih =>
    intro path p waiting
    rcases file_cases checks files levels depth path p with ⟨cause, he⟩ | ⟨content, -, he⟩
    · rw [he]
      exact ⟨_, .nil _, rfl, fun _ h => nomatch h⟩
    · obtain ⟨t, ht⟩ := lines_traced (ih (depth + 1)) path 0 (Text.fileLines content)
        ⟨p.suspend.2, waiting⟩
      rw [he]
      refine ⟨t, (resume_events ..).symm ▸ ht.trace, ?_, fun n h => ?_⟩
      · refine ht.start.trans ?_
        unfold resume
        split <;> rfl
      · rw [resume_outcome] at h
        rw [resume_count h, ht.count h]
        exact ⟨rfl, rfl⟩

end Run

-- ---------------------------------------------------------------------------
-- Sessions
-- ---------------------------------------------------------------------------

/-- The events up to the one at which the writer took no more. -/
def shownEvents (style : Style) (room : Option Nat) : List Event → List Event
  | [] => []
  | event :: rest =>
    event :: match writeChunks room (event.chunks style) with
      | (_, _, some _) => []
      | (_, room, none) => shownEvents style room rest

theorem shownEvents_of_printed {style : Style} {room : Option Nat} {layers : List (String × Path)}
    {events : List Event} (h : (printEvents style room layers events).stop = none) :
    shownEvents style room events = events := by
  induction events generalizing room layers with
  | nil => rfl
  | cons event rest ih =>
    rcases hw : writeChunks room (event.chunks style) with ⟨bytes, left, _ | fault⟩
    · simp only [printEvents, hw] at h
      simp only [shownEvents, hw, ih h]
    · simp only [printEvents, hw, reduceCtorEq] at h

/-- If printing stopped, the event at which it did is the last one shown; it has a state, because
nothing is printed when a file is left. -/
theorem shownEvents_of_stopped {style : Style} {room : Option Nat}
    {layers : List (String × Path)} {events : List Event} {stop : Stop}
    (h : (printEvents style room layers events).stop = some stop) :
    ∃ q before after, stop.event.state? = some q ∧ events = before ++ stop.event :: after ∧
      shownEvents style room events = before ++ [stop.event] := by
  induction events generalizing room layers with
  | nil => cases h
  | cons event rest ih =>
    rcases hw : writeChunks room (event.chunks style) with ⟨bytes, left, _ | fault⟩
    · simp only [printEvents, hw] at h
      obtain ⟨q, before, after, hq, hs, ht⟩ := ih h
      refine ⟨q, event :: before, after, hq, ?_, ?_⟩
      · rw [List.cons_append, ← hs]
      · simp only [shownEvents, hw, ht, List.cons_append]
    · simp only [printEvents, hw, Option.some.injEq] at h
      subst h
      simp only [shownEvents, hw]
      cases event with
      | before p => exact ⟨p, [], rest, rfl, rfl, rfl⟩
      | line record p => exact ⟨p, [], rest, rfl, rfl, rfl⟩
      | enter text enclosing target p => exact ⟨p, [], rest, rfl, rfl, rfl⟩
      | leave => cases hw

section
variable {style : Style} {room : Option Nat} {layers : List (String × Path)} {events : List Event}

theorem printEvents_append_of_stop (h : (printEvents style room layers events).stop = some stop)
    (more : List Event) :
    printEvents style room layers (events ++ more) = printEvents style room layers events := by
  induction events generalizing room layers with
  | nil => cases h
  | cons event rest ih =>
    rcases hw : writeChunks room (event.chunks style) with ⟨bytes, left, _ | fault⟩
    · simp only [printEvents, hw] at h
      simp only [List.cons_append, printEvents, hw, ih h]
    · simp only [List.cons_append, printEvents, hw]

theorem printEvents_append_of_printed (h : (printEvents style room layers events).stop = none)
    (more : List Event) :
    let first := printEvents style room layers events
    let later := printEvents style first.room (events.foldl Event.layers layers) more
    printEvents style room layers (events ++ more) =
      { later with output := first.output ++ later.output } := by
  induction events generalizing room layers with
  | nil => rfl
  | cons event rest ih =>
    rcases hw : writeChunks room (event.chunks style) with ⟨bytes, left, _ | fault⟩
    · simp only [printEvents, hw] at h
      simp only [List.cons_append, printEvents, hw, ih h, List.foldl_cons, List.append_assoc]
    · simp only [printEvents, hw, reduceCtorEq] at h

end

namespace Session

variable {checks : Checks} {style : Style} {files : Files}

theorem lint_of_printed {s : Session} {path : Path} {run : Run}
    (hr : Run.ofFile checks files path s.processor = run)
    (h : (printEvents style s.room [] run.events).stop = none) :
    s.lint checks style files path =
      (⟨run.outcome, (printEvents style s.room [] run.events).output⟩,
        ⟨run.processor, (printEvents style s.room [] run.events).room⟩) := by
  simp only [lint, hr, h]

theorem lint_of_stopped {s : Session} {path : Path} {run : Run} {stop : Stop}
    (hr : Run.ofFile checks files path s.processor = run)
    (h : (printEvents style s.room [] run.events).stop = some stop) :
    s.lint checks style files path =
      (⟨.failure stop.failure, (printEvents style s.room [] run.events).output⟩,
        ⟨stop.event.state?.getD run.processor, (printEvents style s.room [] run.events).room⟩) := by
  simp only [lint, hr, h]

/-- What the processor of a session does while files are read one after the other. What was set
aside for a file is not taken up behind it: the next one starts anew. -/
def deeds (checks : Checks) (style : Style) (files : Files) (s : Session) : List Path → List Deed
  | [] => []
  | path :: rest =>
    ⟨.suspend, []⟩ ::
      (shownEvents style s.room (Run.ofFile checks files path s.processor).events).filterMap
        Event.deed? ++
      deeds checks style files (s.lint checks style files path).2 rest

theorem lint_traced (checks : Checks) (style : Style) (files : Files) (s : Session) (path : Path)
    (waiting : List Processor.Suspended) :
    ∃ t, Trace checks ⟨s.processor.suspend.2, waiting⟩
        (shownEvents style s.room (Run.ofFile checks files path s.processor).events) t ∧
      t.processor.SameStart (s.lint checks style files path).2.processor := by
  have hfile := Run.file_traced checks files (Run.levelsFor checks.settings) 0 path s.processor
    waiting
  simp only [lint, Run.ofFile]
  generalize Run.file checks files (Run.levelsFor checks.settings) 0 path s.processor = r at *
  obtain ⟨t, htrace, hstart, -⟩ := hfile
  split
  next stop hs =>
    obtain ⟨q, before, after, hq, hsplit, hshown⟩ := shownEvents_of_stopped hs
    rw [hsplit, List.append_cons] at htrace
    obtain ⟨u, hu, -⟩ := htrace.of_append
    rw [hshown, hq]
    refine ⟨u, hu, ?_⟩
    obtain ⟨v, -, hlast⟩ := hu.of_append
    cases hlast with
    | cons he hnil =>
      cases hnil
      exact he.sameStart hq
  next hs =>
    rw [shownEvents_of_printed hs]
    exact ⟨t, htrace, hstart⟩

theorem deeds_replay (checks : Checks) (style : Style) (files : Files) (s : Session)
    (paths : List Path) (t : Progress) (h : t.processor.SameStart s.processor) :
    (t.run checks ((s.deeds checks style files paths).map Deed.action)).2 =
      (s.deeds checks style files paths).map Deed.found := by
  induction paths generalizing s t with
  | nil => rfl
  | cons path rest ih =>
    -- a stanza that a failed file left behind is set aside for good
    obtain ⟨u, hu, hnext⟩ := lint_traced checks style files s path
      (t.processor.suspend.1 :: t.suspended)
    have hstart : (t.perform checks .suspend).1 =
        ⟨s.processor.suspend.2, t.processor.suspend.1 :: t.suspended⟩ := by
      rw [← h]
      rfl
    simp only [deeds, List.map_append, List.map_cons, List.cons_append, Progress.run_cons,
      hstart, Progress.run_append, hu.run, ih _ u hnext]
    rfl

theorem found_eq {s : Session} {paths : List Path} {before after : List Deed} {deed : Deed}
    {t : Progress} (h : t.processor.SameStart s.processor)
    (hd : s.deeds checks style files paths = before ++ deed :: after) :
    deed.found =
      ((t.run checks (before.map Deed.action)).1.perform checks deed.action).2 := by
  have hrun := deeds_replay checks style files s paths t h
  rw [hd, List.map_append, List.map_append, Progress.run_append, List.map_cons, List.map_cons,
    Progress.run_cons] at hrun
  have hlength : (t.run checks (before.map Deed.action)).2.length =
      (before.map Deed.found).length := by
    simp [Progress.run_length]
  exact (List.cons.inj (List.append_inj hrun hlength).2).1.symm

end Session

end StanzaLint
