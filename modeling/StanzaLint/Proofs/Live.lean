import StanzaLint.Proofs.FailureLayers
import StanzaLint.Proofs.Replay

/-!
# Printing while reading

A session reads a file to its end and then prints the trace. Here is a linter that
prints every event when it happens and gives up as soon as its writer takes no more
(`Session.live`). Both give the same report and leave the same session (`lint_live`),
because all that a run says of a file that it follows is printed between entering
and leaving it.
-/

namespace StanzaLint

/-- How far a run has come that prints while it reads: what it says, and the session at that
point. -/
abbrev Live := Report × Session

namespace Live

def ended (outcome : Outcome) (s : Session) : Live := (⟨outcome, []⟩, s)

def print (style : Style) (event : Event) (s : Session) : Live :=
  match writeChunks s.room (event.chunks style) with
  | (bytes, room, none) => (⟨.count 0, bytes⟩, ⟨s.processor, room⟩)
  | (bytes, room, some fault) => (⟨.failure (.unwritable fault), bytes⟩, ⟨s.processor, room⟩)

def andThen (r : Live) (next : Session → Live) : Live :=
  match r.1.outcome with
  | .count n =>
    let later := next r.2
    (⟨later.1.outcome.add n, r.1.output ++ later.1.output⟩, later.2)
  | _ => r

def within (text : String) (path : Path) (r : Live) : Live :=
  (⟨r.1.outcome.within text path, r.1.output⟩, r.2)

def follow (settings : Settings) (style : Style) (visit : Path → Session → Live)
    (enclosing : Path) (text : String) (s : Session) : Live :=
  match Run.target? text with
  | none => ended (.failure (.missingIncludePath text)) s
  | some target =>
    let path := Run.resolve settings enclosing target
    (print style (.enter text enclosing path s.processor) s).andThen fun s =>
      (visit path s).within text path

def alone (checks : Checks) (style : Style) (path : Path) (number : Nat) (text : String)
    (physical : Bool) (s : Session) : Live :=
  (print style (.before s.processor) s).andThen fun s =>
    let place := Run.location path number
    let (q, diagnostics) := s.processor.step checks text place
    (print style (.line ⟨place, text, q.lastLineEmpty, diagnostics, physical⟩ q) ⟨q, s.room⟩).andThen
      (ended (.count diagnostics.length))

def line (checks : Checks) (style : Style) (visit : Path → Session → Live) (path : Path)
    (number : Nat) (text : String) (physical : Bool) (s : Session) : Live :=
  (alone checks style path number text physical s).andThen fun s =>
    if checks.settings.followIncludes ∧ s.processor.current = some .includeFile then
      follow checks.settings style visit path text s
    else ended (.count 0) s

def lines (checks : Checks) (style : Style) (visit : Path → Session → Live) (path : Path) :
    (number : Nat) → List String → Session → Live
  | number, [], s =>
    if s.processor.lastLineEmpty then ended (.count 0) s
    else line checks style visit path number "" false s
  | number, text :: rest, s =>
    (line checks style visit path (number + 1) text true s).andThen
      (lines checks style visit path (number + 1) rest)

def file (checks : Checks) (style : Style) (files : Files) :
    (levels depth : Nat) → Path → Session → Live
  | 0, _, _, s => ended .endless s
  | levels + 1, depth, path, s =>
    match checks.settings.maxIncludeDepth.filter (· < depth) with
    | some limit => ended (.failure (.tooDeep path limit)) s
    | none => match files path with
      | .missing => ended (.failure (.notFound path)) s
      | .directory => ended (.failure (.unreadable path .isDirectory)) s
      | .locked text => ended (.failure (.unreadable path (.system text))) s
      | .file content =>
        let (suspended, q) := s.processor.suspend
        (lines checks style (file checks style files levels (depth + 1)) path 0
          (Text.fileLines content) ⟨q, s.room⟩).andThen fun s =>
            ended (.count 0) ⟨s.processor.resume suspended, s.room⟩

theorem andThen_count {r : Live} (h : r.1.outcome = .count n) (next : Session → Live) :
    r.andThen next = (⟨(next r.2).1.outcome.add n, r.1.output ++ (next r.2).1.output⟩,
      (next r.2).2) := by
  simp only [andThen, h]

theorem andThen_stop {r : Live} (h : ∀ n, r.1.outcome ≠ .count n) (next : Session → Live) :
    r.andThen next = r := by
  unfold andThen
  split
  next n hn => exact absurd hn (h n)
  next => rfl

theorem andThen_ended_zero (r : Live) : r.andThen (ended (.count 0)) = r := by
  rcases r with ⟨⟨_ | _ | _, output⟩, s⟩ <;> simp [andThen, ended, Outcome.add]

theorem print_of_printed {style : Style} {event : Event} {s : Session} {bytes : List UInt8}
    {room : Option Nat} (h : writeChunks s.room (event.chunks style) = (bytes, room, none)) :
    print style event s = (⟨.count 0, bytes⟩, ⟨s.processor, room⟩) := by
  simp only [print, h]

theorem print_of_stopped {style : Style} {event : Event} {s : Session} {bytes : List UInt8}
    {room : Option Nat} {fault : WriteFault}
    (h : writeChunks s.room (event.chunks style) = (bytes, room, some fault)) :
    print style event s = (⟨.failure (.unwritable fault), bytes⟩, ⟨s.processor, room⟩) := by
  simp only [print, h]

theorem print_andThen_congr {style : Style} {event : Event} {s : Session}
    {next other : Session → Live}
    (h : ∀ room, next ⟨s.processor, room⟩ = other ⟨s.processor, room⟩) :
    (print style event s).andThen next = (print style event s).andThen other := by
  rcases hw : writeChunks s.room (event.chunks style) with ⟨bytes, left, _ | fault⟩
  · rw [print_of_printed hw, andThen_count rfl, andThen_count rfl, h]
  · rw [print_of_stopped hw, andThen_stop (by simp), andThen_stop (by simp)]

end Live

def Session.live (s : Session) (checks : Checks) (style : Style) (files : Files) (path : Path) :
    Live :=
  Live.file checks style files (Run.levelsFor checks.settings) 0 path s

-- ---------------------------------------------------------------------------
-- Traces that are printed
-- ---------------------------------------------------------------------------

def Stop.under (outer : List (String × Path)) (stop : Stop) : Stop :=
  { stop with layers := stop.layers ++ outer }

def Printed.under (outer : List (String × Path)) (printed : Printed) : Printed :=
  { printed with stop := printed.stop.map (·.under outer) }

theorem Stop.failure_under (stop : Stop) (text : String) (path : Path) :
    (stop.under [(text, path)]).failure = .included text path stop.failure := by
  simp only [failure, under, List.foldl_append, List.foldl_cons, List.foldl_nil]

/-- Events that leave nothing but what they entered are printed the same below other includes. -/
theorem printEvents_under {style : Style} {room : Option Nat} {inner outer : List (String × Path)}
    {events : List Event}
    (h : ∀ happened, happened <+: events →
      happened.foldl Event.layers (inner ++ outer) = happened.foldl Event.layers inner ++ outer) :
    printEvents style room (inner ++ outer) events =
      (printEvents style room inner events).under outer := by
  induction events generalizing room inner with
  | nil => rfl
  | cons event rest ih =>
    have hone : event.layers (inner ++ outer) = event.layers inner ++ outer := h [event] ⟨rest, rfl⟩
    have hrest : ∀ happened, happened <+: rest →
        happened.foldl Event.layers (event.layers inner ++ outer) =
          happened.foldl Event.layers (event.layers inner) ++ outer := by
      intro happened hp
      rw [← hone]
      exact h (event :: happened) (List.cons_prefix_cons.mpr ⟨rfl, hp⟩)
    rcases hw : writeChunks room (event.chunks style) with ⟨bytes, left, _ | fault⟩
    · simp only [printEvents, hw, hone, ih hrest, Printed.under]
    · simp only [printEvents, hw, Printed.under, Stop.under, Option.map_some]

namespace Run

variable {checks : Checks} {files : Files} {style : Style} {room : Option Nat}

def printed (style : Style) (room : Option Nat) (r : Run) : Live :=
  let printed := printEvents style room [] r.events
  match printed.stop with
  | some stop =>
    (⟨.failure stop.failure, printed.output⟩, ⟨stop.event.state?.getD r.processor, printed.room⟩)
  | none => (⟨r.outcome, printed.output⟩, ⟨r.processor, printed.room⟩)

theorem printed_of_printed {r : Run} (h : (printEvents style room [] r.events).stop = none) :
    r.printed style room = (⟨r.outcome, (printEvents style room [] r.events).output⟩,
      ⟨r.processor, (printEvents style room [] r.events).room⟩) := by
  simp only [printed, h]

theorem printed_of_stopped {r : Run} {stop : Stop}
    (h : (printEvents style room [] r.events).stop = some stop) :
    ∃ q, stop.event.state? = some q ∧
      r.printed style room = (⟨.failure stop.failure, (printEvents style room [] r.events).output⟩,
        ⟨q, (printEvents style room [] r.events).room⟩) := by
  obtain ⟨q, -, -, hq, -, -⟩ := shownEvents_of_stopped h
  refine ⟨q, hq, ?_⟩
  simp only [printed, h, hq, Option.getD_some]

theorem printed_andThen_congr {r : Run} {next other : Session → Live}
    (h : ∀ room, next ⟨r.processor, room⟩ = other ⟨r.processor, room⟩) :
    (r.printed style room).andThen next = (r.printed style room).andThen other := by
  cases hstop : (printEvents style room [] r.events).stop with
  | some stop =>
    obtain ⟨q, -, hr⟩ := printed_of_stopped hstop
    rw [hr, Live.andThen_stop (by simp), Live.andThen_stop (by simp)]
  | none =>
    rw [printed_of_printed hstop]
    cases hn : r.outcome with
    | count n => rw [Live.andThen_count rfl, Live.andThen_count rfl, h]
    | failure cause => rw [Live.andThen_stop (by simp), Live.andThen_stop (by simp)]
    | endless => rw [Live.andThen_stop (by simp), Live.andThen_stop (by simp)]

theorem printed_fail (p : Processor) (cause : Failure) :
    (fail p cause).printed style room = .ended (.failure cause) ⟨p, room⟩ := rfl

theorem printed_cons {event : Event} {p : Processor} (hp : event.state? = some p)
    (hlayers : event.layers [] = []) (rest : List Event) (outcome : Outcome) (q : Processor) :
    printed style room ⟨event :: rest, outcome, q⟩ =
      (Live.print style event ⟨p, room⟩).andThen fun s =>
        printed style s.room ⟨rest, outcome, q⟩ := by
  rcases hw : writeChunks room (event.chunks style) with ⟨bytes, left, _ | fault⟩
  · rw [Live.print_of_printed hw, Live.andThen_count rfl]
    simp only [printed, printEvents, hw, hlayers]
    split <;> simp only [Outcome.add_zero]
  · rw [Live.print_of_stopped hw, Live.andThen_stop (by simp)]
    simp only [printed, printEvents, hw, hp, Option.getD_some]
    rfl

theorem printed_andThen {path : Path} {r : Run} (hr : Nested checks files path r.events)
    (next : Processor → Run) :
    (r.andThen next).printed style room =
      (r.printed style room).andThen fun s => (next s.processor).printed style s.room := by
  cases hstop : (printEvents style room [] r.events).stop with
  | some stop =>
    obtain ⟨q, hq, hfirst⟩ := printed_of_stopped hstop
    rw [hfirst, Live.andThen_stop (by simp)]
    rcases andThen_cases r next with ⟨n, -, he⟩ | ⟨-, he⟩
    · have happend := printEvents_append_of_stop hstop (next r.processor).events
      rw [he]
      simp only [printed, happend, hstop, hq, Option.getD_some]
    · rw [he, hfirst]
  | none =>
    rw [printed_of_printed hstop]
    rcases andThen_cases r next with ⟨n, hn, he⟩ | ⟨hn, he⟩
    · have happend := printEvents_append_of_printed hstop (next r.processor).events
      rw [hr.balanced] at happend
      rw [Live.andThen_count hn, he]
      cases hlater : (printEvents style (printEvents style room [] r.events).room []
        (next r.processor).events).stop with
      | none =>
        rw [printed_of_printed hlater]
        simp only [printed, happend, hlater]
      | some stop =>
        obtain ⟨q, hq, hsecond⟩ := printed_of_stopped hlater
        rw [hsecond]
        simp only [printed, happend, hlater, hq, Option.getD_some, Outcome.add]
    · rw [Live.andThen_stop hn, he, printed_of_printed hstop]

/-- A file that was read to its end hands back the stanza that it interrupted. -/
theorem printed_resume (r : Run) (file : Processor.Suspended) :
    (r.resume file).printed style room = (r.printed style room).andThen fun s =>
      .ended (.count 0) ⟨s.processor.resume file, s.room⟩ := by
  cases hstop : (printEvents style room [] r.events).stop with
  | some stop =>
    obtain ⟨q, hq, hr⟩ := printed_of_stopped hstop
    rw [hr, Live.andThen_stop (by simp)]
    simp only [printed, resume_events, hstop, hq, Option.getD_some]
  | none =>
    rw [printed_of_printed hstop]
    cases hn : r.outcome with
    | count n =>
      rw [Live.andThen_count rfl]
      simp [printed, resume_events, resume_outcome, resume_count hn, hstop, hn, Live.ended,
        Outcome.add]
    | failure cause =>
      rw [Live.andThen_stop (by simp)]
      simp [printed, resume_stop, hstop, hn]
    | endless =>
      rw [Live.andThen_stop (by simp)]
      simp [printed, resume_stop, hstop, hn]

/-- What happens in a file that is followed is printed below the include, and leaving it prints
nothing. -/
theorem printEvents_included {path : Path} {inner : List Event}
    (h : Nested checks files path inner) (style : Style) (room : Option Nat)
    (layer : String × Path) :
    printEvents style room [layer] (inner ++ [.leave]) =
      (printEvents style room [] inner).under [layer] := by
  have hlayers : ∀ happened, happened <+: inner → happened.foldl Event.layers ([] ++ [layer]) =
      happened.foldl Event.layers [] ++ [layer] := by
    intro happened hp
    obtain ⟨layers, hamid⟩ := h.amid hp
    rw [hamid.foldl_layers, hamid.foldl_layers, List.nil_append, List.append_nil]
  have hunder : printEvents style room [layer] inner =
      (printEvents style room [] inner).under [layer] := printEvents_under hlayers
  cases hstop : (printEvents style room [layer] inner).stop with
  | some stop => rw [printEvents_append_of_stop hstop, hunder]
  | none =>
    rw [printEvents_append_of_printed hstop, ← hunder]
    simp only [printEvents, Event.chunks, writeChunks, List.append_nil, ← hstop]

theorem printed_included {path target : Path} {inner : Run}
    (h : Nested checks files path inner.events) (text : String) (enclosing : Path)
    (p : Processor) :
    printed style room ⟨.enter text enclosing target p :: inner.events ++ [.leave],
        inner.outcome.within text target, inner.processor⟩ =
      (Live.print style (.enter text enclosing target p) ⟨p, room⟩).andThen fun s =>
        (inner.printed style s.room).within text target := by
  rcases hw : writeChunks room (Event.chunks style (.enter text enclosing target p)) with
    ⟨bytes, left, _ | fault⟩
  · rw [Live.print_of_printed hw, Live.andThen_count rfl]
    have hincluded := printEvents_included h style left (text, target)
    cases hstop : (printEvents style left [] inner.events).stop with
    | some stop =>
      obtain ⟨q, hq, hinner⟩ := printed_of_stopped hstop
      have hevent : (stop.under [(text, target)]).event = stop.event := rfl
      rw [hinner]
      simp only [printed, List.cons_append, printEvents, hw, Event.layers, hincluded, Printed.under,
        hstop, Option.map_some, Stop.failure_under, hevent, hq, Option.getD_some, Live.within,
        Outcome.within, Outcome.add]
    | none =>
      rw [printed_of_printed hstop]
      simp only [printed, List.cons_append, printEvents, hw, Event.layers, hincluded, Printed.under,
        hstop, Option.map_none, Live.within, Outcome.add_zero]
  · rw [Live.print_of_stopped hw, Live.andThen_stop (by simp)]
    simp only [printed, List.cons_append, printEvents, hw, Event.state?, Option.getD_some]
    rfl

-- ---------------------------------------------------------------------------
-- Runs that print while they read
-- ---------------------------------------------------------------------------

theorem alone_live (checks : Checks) (path : Path) (number : Nat) (text : String)
    (physical : Bool) (s : Session) :
    Live.alone checks style path number text physical s =
      (alone checks path number text physical s.processor).printed style s.room := by
  rw [alone, printed_cons rfl rfl]
  refine Live.print_andThen_congr fun room => ?_
  rw [printed_cons rfl rfl]
  exact Live.print_andThen_congr fun room => rfl

/-- Whatever file is visited, printing while reading gives what printing its trace gives. -/
def VisitLive (style : Style) (visit : Path → Processor → Run) (live : Path → Session → Live) :
    Prop :=
  ∀ path s, live path s = (visit path s.processor).printed style s.room

variable {visit : Path → Processor → Run} {live : Path → Session → Live}

theorem follow_live (hv : VisitNests checks files visit) (hl : VisitLive style visit live)
    (settings : Settings) (enclosing : Path) (text : String) (s : Session) :
    Live.follow settings style live enclosing text s =
      (follow settings visit enclosing text s.processor).printed style s.room := by
  cases ht : target? text with
  | none =>
    rw [follow_none ht, printed_fail]
    simp only [Live.follow, ht]
  | some name =>
    rw [follow_some ht, printed_included (hv _ _).nested]
    simp only [Live.follow, ht]
    exact Live.print_andThen_congr fun room => by rw [hl]

theorem line_live (hv : VisitNests checks files visit) (hl : VisitLive style visit live)
    (path : Path) (number : Nat) (text : String) (physical : Bool) (s : Session) :
    Live.line checks style live path number text physical s =
      (line checks visit path number text physical s.processor).printed style s.room := by
  have hhere := (alone_nests checks files path number text physical s.processor).nested
  rw [Live.line, alone_live, line_eq]
  split
  next hfollows =>
    rw [printed_andThen hhere]
    refine printed_andThen_congr fun room => (if_pos hfollows).trans ?_
    exact follow_live hv hl checks.settings path text _
  next hfollows =>
    refine Eq.trans ?_ (Live.andThen_ended_zero _)
    exact printed_andThen_congr fun room => if_neg hfollows

theorem lines_live (hv : VisitNests checks files visit) (hl : VisitLive style visit live)
    {path : Path} {texts : List String}
    (hincludes : ∀ text ∈ texts, IsInclude checks text → IncludesOn checks files path text)
    (number : Nat) (s : Session) :
    Live.lines checks style live path number texts s =
      (lines checks visit path number texts s.processor).printed style s.room := by
  induction texts generalizing number s with
  | nil =>
    unfold Live.lines lines
    split
    · rfl
    · exact line_live hv hl path number "" false s
  | cons text rest ih =>
    rw [List.forall_mem_cons] at hincludes
    unfold Live.lines lines
    rw [printed_andThen (line_nests hv hincludes.1 _ true _).nested, line_live hv hl]
    congr 1
    funext t
    exact ih hincludes.2 _ t

theorem file_live (checks : Checks) (style : Style) (files : Files) (levels depth : Nat) :
    VisitLive style (file checks files levels depth) (Live.file checks style files levels depth) := by
  induction levels generalizing depth with
  | zero => exact fun path s => rfl
  | succ levels ih =>
    intro path s
    cases hguard : checks.settings.maxIncludeDepth.filter (· < depth) with
    | some limit => simp only [Live.file, file, hguard, printed_fail]
    | none =>
      cases hfile : files path with
      | missing => simp only [Live.file, file, hguard, hfile, printed_fail]
      | directory => simp only [Live.file, file, hguard, hfile, printed_fail]
      | locked text => simp only [Live.file, file, hguard, hfile, printed_fail]
      | file content =>
        have hincludes : ∀ text ∈ Text.fileLines content,
            IsInclude checks text → IncludesOn checks files path text :=
          fun text ht hinclude => ⟨⟨content, hfile, ht⟩, hinclude⟩
        have hlines := lines_live (file_nests checks files levels (depth + 1)) (ih (depth + 1))
          hincludes 0 ⟨s.processor.suspend.2, s.room⟩
        simp only [Live.file, file, hguard, hfile, hlines, printed_resume]

end Run

/-- A file that is printed while it is read gives what printing its trace gives. -/
theorem Session.lint_live (s : Session) (checks : Checks) (style : Style) (files : Files)
    (path : Path) : s.live checks style files path = s.lint checks style files path :=
  Run.file_live checks style files _ 0 path s

end StanzaLint
