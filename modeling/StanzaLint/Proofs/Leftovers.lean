import Mathlib.Data.Option.Basic
import StanzaLint.Proofs.Isolation
import StanzaLint.Proofs.Lockstep
import StanzaLint.Proofs.Replay

/-!
# What a failed file leaves behind

A file that fails leaves the processor in the middle of a stanza, perhaps of a file
that it includes. The next file sets this stanza aside and starts with an empty one,
so all that reaches it is the memory of the run (`file_leftovers`). Of this memory
only the look-ups count, not the order in which it was filled (`step_recalls`).
-/

namespace StanzaLint

namespace Seen

/-- The same texts at the same locations, in whatever order they were noted. -/
def Same (a b : Seen) : Prop := ∀ key, a.location? key = b.location? key

variable {a b : Seen}

theorem Same.note (h : a.Same b) (key place : String) :
    (a.note key place).Same (b.note key place) := by
  intro k
  rw [location?_note, location?_note, h k]

theorem Same.noteAll (h : a.Same b) (more : Seen) : (a.noteAll more).Same (b.noteAll more) := by
  intro k
  rw [location?_noteAll, location?_noteAll, h k]

end Seen

namespace Processor

structure SameMemory (p q : Processor) : Prop where
  titles : p.titles.Same q.titles
  origins : p.origins.Same q.origins

/-- Two processors that go on alike: at the same point of a file, with the same memory. -/
structure SameWork (p q : Processor) : Prop where
  place : p.SamePlace q
  memory : p.SameMemory q

structure Recalls (a b : Processor × List Diagnostic) : Prop where
  memory : a.1.SameMemory b.1
  found : a.2 = b.2

variable {p q : Processor}

theorem originFindings_same (h : p.SameMemory q) (url : Url) :
    p.originFindings url = q.originFindings url := by
  rw [originFindings, originFindings, h.origins]

theorem titleFindings_same (h : p.SameWork q) (title : String) :
    p.titleFindings title = q.titleFindings title := by
  rw [titleFindings, titleFindings, h.place.stanza, h.memory.titles]

theorem startingPointFindings_same (h : p.SameMemory q) (settings : Settings) (value : String) :
    p.startingPointFindings settings value = q.startingPointFindings settings value := by
  simp only [startingPointFindings, originFindings_same h]

theorem urlFindings_same (h : p.SameWork q) (settings : Settings) (text : List Char) :
    p.urlFindings settings text = q.urlFindings settings text := by
  simp only [urlFindings, h.place.stanza, startingPointFindings_same h.memory]

theorem hostFindings_same (h : p.SameWork q) (settings : Settings) (payload : String) :
    p.hostFindings settings payload = q.hostFindings settings payload := by
  simp only [hostFindings, h.place.stanza, originFindings_same h.memory]

theorem valueFindings_same (h : p.SameWork q) (settings : Settings) (e : Entry) :
    p.valueFindings settings e = q.valueFindings settings e := by
  simp only [valueFindings, h.place.stanza, titleFindings_same h, urlFindings_same h,
    hostFindings_same h]

theorem entry_recalls (h : p.SameWork q) (settings : Settings) (e : Entry) :
    Recalls (p.entry settings e) (q.entry settings e) := by
  refine ⟨⟨?_, h.memory.origins⟩, ?_⟩
  · simp only [entry]
    split
    · exact h.memory.titles.note e.payload e.location
    · exact h.memory.titles
  · simp only [entry, h.place.stanza, valueFindings_same h]

theorem logicalLine_recalls (h : p.SameWork q) (settings : Settings) (text : List Char)
    (location : String) :
    Recalls (p.logicalLine settings text location) (q.logicalLine settings text location) := by
  have hs : p.unseparated.SameWork q.unseparated :=
    ⟨⟨by simp only [unseparated, h.place.stanza], h.place.lastLineEmpty⟩,
      h.memory.titles, h.memory.origins⟩
  rw [logicalLine_eq, logicalLine_eq]
  split
  · exact ⟨hs.memory, rfl⟩
  next e _ =>
    have he := entry_recalls hs settings e
    exact ⟨he.memory, by rw [he.found]⟩

theorem read_recalls (h : p.SameWork q) (checks : Checks) (line : Line) (location : String) :
    Recalls (p.read checks line location) (q.read checks line location) := by
  obtain ⟨⟨hstanza, -⟩, htitles, horigins⟩ := h
  cases line with
  | closing =>
    simp only [read, close, hstanza]
    exact ⟨⟨htitles, horigins.noteAll _⟩, rfl⟩
  | comment text =>
    simp only [read, comment_eq]
    exact ⟨⟨htitles, horigins⟩, rfl⟩
  | unfinished segment => exact ⟨⟨htitles, horigins⟩, rfl⟩
  | complete text =>
    simp only [read, complete, hstanza]
    split
    · apply logicalLine_recalls
      exact ⟨⟨rfl, rfl⟩, htitles, horigins⟩
    · apply logicalLine_recalls
      exact ⟨⟨rfl, rfl⟩, htitles, horigins⟩

theorem step_recalls (h : p.SameWork q) (checks : Checks) (line location : String) :
    Recalls (p.step checks line location) (q.step checks line location) := by
  have hr := read_recalls h checks (Line.read line) location
  rw [step_eq, step_eq]
  exact ⟨hr.memory, by rw [hr.found]⟩

end Processor

namespace Run

def sameWork : Likeness where
  processor := Processor.SameWork
  record := Eq
  outcome := Eq

theorem sameWork_lawful (checks : Checks) : sameWork.Lawful checks checks where
  followIncludes := rfl
  includeDirectory := rfl
  lastLineEmpty h := h.place.lastLineEmpty.symm
  step h text place := by
    have ha := Processor.step_alike h.place.stanza checks text place
    exact ⟨⟨ha.place, (Processor.step_recalls h checks text place).memory⟩, ha.current.symm⟩
  record h text place physical := by
    have ha := Processor.step_alike h.place.stanza checks text place
    show Record.mk .. = _
    rw [ha.place.lastLineEmpty, (Processor.step_recalls h checks text place).found]
  found h text place := by
    show Outcome.count _ = _
    rw [(Processor.step_recalls h checks text place).found]
  suspend h := ⟨⟨rfl, rfl⟩, h.memory.titles, h.memory.origins⟩
  resume h hr :=
    ⟨⟨h.place.stanza, h.place.lastLineEmpty⟩, hr.memory.titles, hr.memory.origins⟩
  nothing := rfl
  missing _ := rfl
  counts h := by rw [h]
  add hn ho := congrArg₂ Outcome.add (Outcome.count.inj hn) ho
  within ho text path := congrArg (Outcome.within text path) ho

theorem resume_memory {r s : Run} (h : r.processor.SameMemory s.processor)
    (file other : Processor.Suspended) :
    (r.resume file).processor.SameMemory (s.resume other).processor := by
  have hkept : ∀ (t : Run) f, (t.resume f).processor.titles = t.processor.titles ∧
      (t.resume f).processor.origins = t.processor.origins := by
    intro t f
    unfold resume
    split <;> exact ⟨rfl, rfl⟩
  constructor
  · rw [(hkept r file).1, (hkept s other).1]
    exact h.titles
  · rw [(hkept r file).2, (hkept s other).2]
    exact h.origins

/-- Whatever stanza a file interrupts, it is read alike, as long as the run remembers the same. -/
theorem file_leftovers {p q : Processor} (h : p.SameMemory q) (checks : Checks) (files : Files)
    (levels depth : Nat) (path : Path) :
    let r := file checks files levels depth path p
    let s := file checks files levels depth path q
    List.Forall₂ sameWork.event r.events s.events ∧ r.outcome = s.outcome ∧
      r.processor.SameMemory s.processor := by
  intro r s
  cases levels with
  | zero => exact ⟨.nil, rfl, h⟩
  | succ levels =>
    rcases file_uniform checks files levels depth path with ⟨cause, he⟩ | ⟨content, -, he⟩
    · rw [show r = _ from he p, show s = _ from he q]
      exact ⟨.nil, rfl, h⟩
    · have law := sameWork_lawful checks
      have hstart : sameWork.processor p.suspend.2 q.suspend.2 :=
        ⟨⟨rfl, rfl⟩, h.titles, h.origins⟩
      have hvisit := file_inStep law (fun _ => rfl) files levels (depth + 1)
      have hlines := lines_inStep law hvisit hstart path 0 (Text.fileLines content)
      rw [show r = _ from he p, show s = _ from he q, resume_events, resume_events,
        resume_outcome, resume_outcome]
      exact ⟨hlines.events, hlines.outcome, resume_memory hlines.processor.memory _ _⟩

end Run

-- ---------------------------------------------------------------------------
-- What is printed
-- ---------------------------------------------------------------------------

section
variable {event other : Event}

theorem Event.chunks_sameWork (h : Run.sameWork.event event other) (style : Style) :
    event.chunks style = other.chunks style := by
  cases h with
  | before hp => simp only [chunks, hp.place.stanza]
  | line hd hp => simp only [chunks, show _ = _ from hd]
  | enter hp => rfl
  | leave => rfl

theorem Event.layers_sameWork (h : Run.sameWork.event event other)
    (active : List (String × Path)) : event.layers active = other.layers active := by
  cases h <;> rfl

theorem Event.state?_sameWork (h : Run.sameWork.event event other) :
    Option.Rel Processor.SameWork event.state? other.state? := by
  cases h with
  | before hp => exact .some hp
  | line hd hp => exact .some hp
  | enter hp => exact .some hp
  | leave => exact .none

end

theorem printEvents_sameWork {events others : List Event}
    (h : List.Forall₂ Run.sameWork.event events others) (style : Style) (room : Option Nat)
    (layers : List (String × Path)) :
    let a := printEvents style room layers events
    let b := printEvents style room layers others
    a.output = b.output ∧ a.room = b.room ∧
      Option.Rel (fun stop stop' => stop.failure = stop'.failure ∧
        Run.sameWork.event stop.event stop'.event) a.stop b.stop := by
  induction h generalizing room layers with
  | nil => exact ⟨rfl, rfl, .none⟩
  | cons he _ ih =>
    simp only [printEvents, Event.chunks_sameWork he, Event.layers_sameWork he]
    split
    · exact ⟨rfl, rfl, .some ⟨rfl, he⟩⟩
    next bytes left _ =>
      obtain ⟨houtput, hroom, hstop⟩ := ih left (Event.layers layers _)
      exact ⟨by rw [houtput], hroom, hstop⟩

namespace Session

variable {s t : Session}

theorem lint_leftovers (hr : s.room = t.room) (h : s.processor.SameMemory t.processor)
    (checks : Checks) (style : Style) (files : Files) (path : Path) :
    (s.lint checks style files path).1 = (t.lint checks style files path).1 ∧
      (s.lint checks style files path).2.room = (t.lint checks style files path).2.room ∧
      (s.lint checks style files path).2.processor.SameMemory
        (t.lint checks style files path).2.processor := by
  obtain ⟨hevents, houtcome, hmemory⟩ :=
    Run.file_leftovers h checks files (Run.levelsFor checks.settings) 0 path
  obtain ⟨houtput, hroom, hstop⟩ := printEvents_sameWork hevents style s.room []
  generalize ha : (printEvents style s.room [] _).stop = stop at hstop
  generalize hb : (printEvents style s.room [] _).stop = stop' at hstop
  rw [hr] at hb
  cases hstop with
  | none =>
    rw [lint_of_printed rfl ha, lint_of_printed rfl hb, ← hr]
    exact ⟨congrArg₂ Report.mk houtcome houtput, hroom, hmemory⟩
  | some hs =>
    rw [lint_of_stopped rfl ha, lint_of_stopped rfl hb, ← hr]
    refine ⟨congrArg₂ Report.mk (congrArg Outcome.failure hs.1) houtput, hroom, ?_⟩
    -- the processor is the one that the event carries
    have hstate := Event.state?_sameWork hs.2
    revert hstate
    generalize Event.state? _ = p
    generalize Event.state? _ = q
    intro hstate
    cases hstate with
    | some hw => exact hw.memory
    | none => exact hmemory

/-- What is reported of files that are read one after the other, also behind one that failed. -/
def reports (checks : Checks) (style : Style) (files : Files) (s : Session) : List Path → List Report
  | [] => []
  | path :: rest =>
    let (report, s) := s.lint checks style files path
    report :: reports checks style files s rest

theorem reports_leftovers (hr : s.room = t.room) (h : s.processor.SameMemory t.processor)
    (checks : Checks) (style : Style) (files : Files) (paths : List Path) :
    s.reports checks style files paths = t.reports checks style files paths := by
  induction paths generalizing s t with
  | nil => rfl
  | cons path rest ih =>
    obtain ⟨hreport, hroom, hmemory⟩ := lint_leftovers hr h checks style files path
    simp only [reports]
    rw [hreport, ih hroom hmemory]

/-- A file that was read to its end, and printed, leaves the stanza as it was. -/
theorem lint_restores {checks : Checks} {style : Style} {files : Files} {path : Path}
    (h : (s.lint checks style files path).1.outcome = .count n) :
    (s.lint checks style files path).2.processor.SamePlace s.processor := by
  cases hstop : (printEvents style s.room [] (Run.ofFile checks files path s.processor).events).stop
    with
  | none =>
    rw [lint_of_printed rfl hstop] at h ⊢
    exact Run.file_restores checks files _ 0 path s.processor n h
  | some stop =>
    rw [lint_of_stopped rfl hstop] at h
    cases h

/-- Two sessions with equal writers that remember the same titles and origins report a file alike,
and all files after it, whatever an earlier failure has left of a stanza in each of them. A file
that is read to its end gives both their own leftovers back. -/
theorem leftovers_unseen (checks : Checks) (style : Style) (files : Files) (s t : Session)
    (hroom : s.room = t.room)
    (htitles : ∀ title, s.processor.titles.location? title = t.processor.titles.location? title)
    (horigins : ∀ origin,
      s.processor.origins.location? origin = t.processor.origins.location? origin) :
    (∀ path,
      let a := s.lint checks style files path
      let b := t.lint checks style files path
      a.1 = b.1 ∧ a.2.room = b.2.room ∧ a.2.processor.SameMemory b.2.processor ∧
        ∀ n, a.1.outcome = .count n →
          a.2.processor.SamePlace s.processor ∧ b.2.processor.SamePlace t.processor) ∧
    ∀ paths, s.reports checks style files paths = t.reports checks style files paths := by
  have hmemory : s.processor.SameMemory t.processor := ⟨htitles, horigins⟩
  refine ⟨fun path => ?_, reports_leftovers hroom hmemory checks style files⟩
  obtain ⟨hreport, hleft, hkept⟩ := lint_leftovers hroom hmemory checks style files path
  refine ⟨hreport, hleft, hkept, fun n hn => ⟨lint_restores hn, lint_restores (n := n) ?_⟩⟩
  rw [← hreport]
  exact hn

/-- A file that fails two includes deep, with an open option in one file and a stanza that has begun
in the other, and a file that repeats a title and an origin of the first one. -/
def abandoned : FileTree where
  entries := [
    (["main.txt"], .file (Text.encodeUtf8
      "Title A\nURL https://a.org\n\nOption DomainCookieOnly\nIncludeFile sub.txt\n".toList)),
    (["sub.txt"], .file (Text.encodeUtf8 "Title B\nIncludeFile gone.txt\n".toList)),
    (["next.txt"], .file (Text.encodeUtf8 "Title A\nURL https://a.org\n".toList))]

def abandonedChecks : Checks := ⟨{}, .pages fun _ => .ok none⟩

def lintAbandoned (s : Session) (path : Path) : Report × Session :=
  s.lint abandonedChecks {} abandoned.find path

def afterFailure : Session := (lintAbandoned {} "main.txt").2

def cleared (s : Session) : Session :=
  { s with processor := { titles := s.processor.titles, origins := s.processor.origins } }

theorem room_cleared (s : Session) : s.room = s.cleared.room := rfl

theorem sameMemory_cleared (s : Session) : s.processor.SameMemory s.cleared.processor :=
  ⟨fun _ => rfl, fun _ => rfl⟩

theorem leftovers_unseen_abandoned :
    (lintAbandoned {} "main.txt").1.outcome = .failure
        (.included "IncludeFile sub.txt" "sub.txt"
          (.included "IncludeFile gone.txt" "gone.txt" (.notFound "gone.txt"))) ∧
      afterFailure.processor.stanza.title = "B" ∧
      (lintAbandoned afterFailure "next.txt").1.outcome = .count 2 ∧
      (lintAbandoned afterFailure "next.txt").1 = (lintAbandoned afterFailure.cleared "next.txt").1 ∧
      (lintAbandoned afterFailure "next.txt").2.processor.SamePlace afterFailure.processor := by
  have hruns : (lintAbandoned {} "main.txt").1.outcome = .failure
        (.included "IncludeFile sub.txt" "sub.txt"
          (.included "IncludeFile gone.txt" "gone.txt" (.notFound "gone.txt"))) ∧
      afterFailure.processor.stanza.title = "B" ∧
      (lintAbandoned afterFailure "next.txt").1.outcome = .count 2 := by decide +kernel
  obtain ⟨hfailure, htitle, hcount⟩ := hruns
  have hsame := afterFailure.sameMemory_cleared
  have hall := leftovers_unseen abandonedChecks {} abandoned.find afterFailure afterFailure.cleared
    afterFailure.room_cleared hsame.titles hsame.origins
  obtain ⟨hreport, -, -, hkept⟩ := hall.1 "next.txt"
  exact ⟨hfailure, htitle, hcount, hreport, (hkept 2 hcount).1⟩

end Session

end StanzaLint
