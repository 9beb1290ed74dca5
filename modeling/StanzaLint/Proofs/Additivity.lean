import StanzaLint.Proofs.OptionalChecks
import StanzaLint.Proofs.Runs
import StanzaLint.Report

/-!
# Checks on demand only add findings

What holds of a line (`Processor.step_without`) holds of every history and of every
run: without some checks the same lines are read and the same files are entered, and
what is found is what the other checks find (`run_without`, `file_without`). How a run
is printed plays no part in it (`file_congr`). So two
settings that differ in checks on demand alone lead through the same states, but for
what is kept for these checks, and to the same end (`optional_checks_additive`).
-/

namespace StanzaLint

def Processor.Suspended.without (off : OptionalCheck → Bool) (file : Suspended) : Suspended :=
  { file with stanza := file.stanza.without off }

theorem Processor.suspend_without (off : OptionalCheck → Bool) (p : Processor) :
    (p.without off).suspend = (p.suspend.1.without off, p.suspend.2.without off) := by
  simp only [suspend, without, Suspended.without, Stanza.without_empty]

-- ---------------------------------------------------------------------------
-- Histories
-- ---------------------------------------------------------------------------

namespace Progress

variable {off : OptionalCheck → Bool} {a b : Settings} (titles : TitleLookup)

/-- Without what is kept for checks that are off, also in the files that wait. -/
def without (off : OptionalCheck → Bool) (s : Progress) : Progress :=
  ⟨s.processor.without off, s.suspended.map (·.without off)⟩

theorem perform_without (h : a.Less off b) (s : Progress) (action : Action) :
    (s.without off).perform ⟨b, titles⟩ action =
      Prod.map (without off) (Diagnostic.without off) (s.perform ⟨a, titles⟩ action) := by
  cases action with
  | line text location =>
    have hs := s.processor.step_without titles h text location
    simp only [perform, without, hs, Prod.map, Processor.restricted_fst, Processor.restricted_snd]
  | suspend =>
    simp only [perform, without, Processor.suspend_without]
    rfl
  | resume =>
    obtain ⟨p, _ | ⟨file, rest⟩⟩ := s <;> rfl

theorem run_without (h : a.Less off b) (s : Progress) (history : List Action) :
    (s.without off).run ⟨b, titles⟩ history =
      Prod.map (without off) (List.map (Diagnostic.without off)) (s.run ⟨a, titles⟩ history) := by
  induction history generalizing s with
  | nil => rfl
  | cons action rest ih =>
    rw [run_cons, perform_without titles h, Prod.map_fst, Prod.map_snd, ih, run_cons]
    rfl

end Progress

-- ---------------------------------------------------------------------------
-- Runs of files
-- ---------------------------------------------------------------------------

def Record.without (off : OptionalCheck → Bool) (r : Record) : Record :=
  { r with diagnostics := Diagnostic.without off r.diagnostics }

def Event.without (off : OptionalCheck → Bool) : Event → Event
  | before p => before (p.without off)
  | line record p => line (record.without off) (p.without off)
  | enter text enclosing target p => enter text enclosing target (p.without off)
  | leave => leave

def Outcome.uncounted : Outcome → Outcome
  | count _ => count 0
  | outcome => outcome

namespace Outcome

theorem uncounted_add (o : Outcome) (n : Nat) : (o.add n).uncounted = o.uncounted := by
  cases o <;> rfl

theorem uncounted_within {o o' : Outcome} (h : o.uncounted = o'.uncounted) (text : String)
    (path : Path) : (o.within text path).uncounted = (o'.within text path).uncounted := by
  cases o <;> cases o' <;> simp_all [uncounted, within]

theorem uncounted_count {o : Outcome} (h : (count n).uncounted = o.uncounted) :
    ∃ m, o = count m := by
  cases o with
  | count m => exact ⟨m, rfl⟩
  | failure cause => cases h
  | endless => cases h

theorem eq_of_uncounted {o o' : Outcome} (h : o.uncounted = o'.uncounted)
    (hc : ∀ n m, o = .count n → o' = .count m → n = m) : o = o' := by
  cases o <;> cases o' <;> simp_all [uncounted]

end Outcome

def Settings.route (s : Settings) : Bool × Option String × Option Nat :=
  (s.followIncludes, s.includeDirectory, s.maxIncludeDepth)

namespace Run

variable {off : OptionalCheck → Bool} {a b : Settings} {titles : TitleLookup}

structure Without (off : OptionalCheck → Bool) (r s : Run) : Prop where
  events : s.events = r.events.map (Event.without off)
  outcome : r.outcome.uncounted = s.outcome.uncounted
  processor : s.processor = r.processor.without off

theorem Without.counts (h : Without off r s) (hr : r.outcome = .count n) :
    ∃ m, s.outcome = .count m := by
  have ho := h.outcome
  rw [hr] at ho
  exact Outcome.uncounted_count ho

theorem Without.stops (h : Without off r s) (hr : ∀ n, r.outcome ≠ .count n) (m : Nat) :
    s.outcome ≠ .count m := by
  intro hm
  have ho := h.outcome.symm
  rw [hm] at ho
  obtain ⟨n, hn⟩ := Outcome.uncounted_count ho
  exact hr n hn

theorem fail_without (p : Processor) (cause : Failure) :
    Without off (fail p cause) (fail (p.without off) cause) := ⟨rfl, rfl, rfl⟩

theorem alone_without (h : a.Less off b) (path : Path) (number : Nat) (text : String)
    (physical : Bool) (p : Processor) :
    Without off (alone ⟨a, titles⟩ path number text physical p)
      (alone ⟨b, titles⟩ path number text physical (p.without off)) := by
  have hs := p.step_without titles h text (location path number)
  refine ⟨?_, rfl, ?_⟩
  · simp only [alone, hs, Processor.restricted_fst, Processor.restricted_snd,
      Processor.lastLineEmpty_without, List.map_cons, List.map_nil, Event.without, Record.without]
  · rw [alone_processor, alone_processor, hs, Processor.restricted_fst]

theorem andThen_without {r s : Run} {next next' : Processor → Run} (h : Without off r s)
    (hn : ∀ q, Without off (next q) (next' (q.without off))) :
    Without off (r.andThen next) (s.andThen next') := by
  rcases andThen_cases r next with ⟨n, hr, he⟩ | ⟨hr, he⟩
  · obtain ⟨m, hm⟩ := h.counts hr
    have hq := hn r.processor
    rw [he, andThen_count hm, h.processor]
    refine ⟨?_, ?_, hq.processor⟩
    · rw [h.events, hq.events, List.map_append]
    · rw [Outcome.uncounted_add, Outcome.uncounted_add, hq.outcome]
  · rw [he, andThen_stop (h.stops hr)]
    exact h

def VisitWithout (off : OptionalCheck → Bool) (visit visit' : Path → Processor → Run) : Prop :=
  ∀ path p, Without off (visit path p) (visit' path (p.without off))

section
variable {visit visit' : Path → Processor → Run}

theorem follow_without (hv : VisitWithout off visit visit') (hr : a.route = b.route)
    (enclosing : Path) (text : String) (p : Processor) :
    Without off (follow a visit enclosing text p)
      (follow b visit' enclosing text (p.without off)) := by
  have hd : a.includeDirectory = b.includeDirectory := congrArg (·.2.1) hr
  cases ht : target? text with
  | none =>
    rw [follow_none ht, follow_none ht]
    exact fail_without p _
  | some target =>
    have hresolve : resolve b enclosing target = resolve a enclosing target := by
      rw [resolve, resolve, hd]
    have hi := hv (resolve a enclosing target) p
    rw [follow_some ht, follow_some ht, hresolve]
    refine ⟨?_, Outcome.uncounted_within hi.outcome _ _, hi.processor⟩
    simp only [hi.events, List.map_append, List.map_cons, List.map_nil]
    rfl

theorem line_without (hv : VisitWithout off visit visit') (h : a.Less off b)
    (hr : a.route = b.route)
    (path : Path) (number : Nat) (text : String) (physical : Bool) (p : Processor) :
    Without off (line ⟨a, titles⟩ visit path number text physical p)
      (line ⟨b, titles⟩ visit' path number text physical (p.without off)) := by
  have here : Without off (alone ⟨a, titles⟩ path number text physical p) _ :=
    alone_without h path number text physical p
  have hf : Follows ⟨b, titles⟩ (alone ⟨b, titles⟩ path number text physical (p.without off)) ↔
      Follows ⟨a, titles⟩ (alone ⟨a, titles⟩ path number text physical p) := by
    have hi : a.followIncludes = b.followIncludes := congrArg (·.1) hr
    simp only [Follows, here.processor, Processor.current_without, hi]
  rw [line_eq, line_eq]
  by_cases hfollows : Follows ⟨a, titles⟩ (alone ⟨a, titles⟩ path number text physical p)
  · rw [if_pos hfollows, if_pos (hf.mpr hfollows)]
    exact andThen_without here fun q => follow_without hv hr path text q
  · rw [if_neg hfollows, if_neg (mt hf.mp hfollows)]
    exact here

theorem lines_without (hv : VisitWithout off visit visit') (h : a.Less off b)
    (hr : a.route = b.route) (path : Path) (number : Nat) (texts : List String) (p : Processor) :
    Without off (lines ⟨a, titles⟩ visit path number texts p)
      (lines ⟨b, titles⟩ visit' path number texts (p.without off)) := by
  induction texts generalizing number p with
  | nil =>
    simp only [lines]
    rw [Processor.lastLineEmpty_without]
    split
    · exact ⟨rfl, rfl, rfl⟩
    · exact line_without hv h hr path number "" false p
  | cons text rest ih =>
    simp only [lines]
    exact andThen_without (line_without hv h hr path _ text true p) (ih _)

end

theorem resume_without {r s : Run} (h : Without off r s) (file : Processor.Suspended) :
    Without off (r.resume file) (s.resume (file.without off)) := by
  refine ⟨?_, ?_, ?_⟩
  · rw [resume_events, resume_events, h.events]
  · rw [resume_outcome, resume_outcome, h.outcome]
  · by_cases hr : ∃ n, r.outcome = .count n
    · obtain ⟨n, hn⟩ := hr
      obtain ⟨m, hm⟩ := h.counts hn
      rw [resume_count hn, resume_count hm, h.processor]
      rfl
    · have hstop : ∀ n, r.outcome ≠ .count n := fun n hn => hr ⟨n, hn⟩
      rw [resume_stop hstop, resume_stop (h.stops hstop), h.processor]

/-- A run without some checks reads the same files, as long as these are found the same way. -/
theorem file_without (titles : TitleLookup) (h : a.Less off b) (hr : a.route = b.route)
    (files : Files) (levels depth : Nat) :
    VisitWithout off (file ⟨a, titles⟩ files levels depth)
      (file ⟨b, titles⟩ files levels depth) := by
  have hd : a.maxIncludeDepth = b.maxIncludeDepth := congrArg (·.2.2) hr
  induction levels generalizing depth with
  | zero => exact fun path p => ⟨rfl, rfl, rfl⟩
  | succ levels ih =>
    intro path p
    simp only [file, ← hd]
    split
    · exact fail_without p _
    · split
      · exact fail_without p _
      · exact fail_without p _
      · exact fail_without p _
      · rw [Processor.suspend_without]
        exact resume_without (lines_without (ih (depth + 1)) h hr path 0 _ _) _

/-- Nothing but the checks that are asked for and the route matters to a run. -/
theorem file_congr (h : ∀ w, b.makes w = a.makes w) (hr : a.route = b.route) (files : Files)
    (levels depth : Nat) :
    file ⟨b, titles⟩ files levels depth = file ⟨a, titles⟩ files levels depth := by
  funext path p
  have hl : a.Less (fun _ => false) b := fun w => by simp [h w]
  have hp : ∀ q : Processor, q.without (fun _ => false) = q := by
    simp [Processor.without, Stanza.without]
  have he : Event.without (fun _ => false) = id := by
    funext event
    cases event <;> simp [Event.without, Record.without, Diagnostic.without, hp]
  have hw := file_without titles hl hr files levels depth path p
  rw [hp] at hw
  have hevents := hw.events
  rw [he, List.map_id] at hevents
  have houtcome := Outcome.eq_of_uncounted hw.outcome fun n m hn hm => by
    rw [file_counts _ _ _ _ _ _ n hn, file_counts _ _ _ _ _ _ m hm, hevents]
  exact (Run.mk.injEq ..).mpr ⟨hevents, houtcome.symm, hw.processor.trans (hp _)⟩

end Run

-- ---------------------------------------------------------------------------
-- Sessions
-- ---------------------------------------------------------------------------

def Chunk.bytes (c : Chunk) : List UInt8 := Text.encodeUtf8 c.text.toList

theorem writeChunks_none (chunks : List Chunk) :
    writeChunks none chunks = (chunks.flatMap Chunk.bytes, none, none) := by
  induction chunks with
  | nil => rfl
  | cons chunk rest ih =>
    simp only [writeChunks, ih, List.flatMap_cons]
    rfl

theorem printEvents_none (style : Style) (layers : List (String × Path)) (events : List Event) :
    printEvents style none layers events =
      ⟨(events.flatMap (Event.chunks style)).flatMap Chunk.bytes, none, none⟩ := by
  induction events generalizing layers with
  | nil => rfl
  | cons event rest ih =>
    simp only [printEvents, writeChunks_none, ih, List.flatMap_cons, List.flatMap_append]

theorem Session.lint_none (p : Processor) (checks : Checks) (style : Style) (files : Files)
    (path : Path) :
    let run := Run.ofFile checks files path p
    lint ⟨p, none⟩ checks style files path =
      (⟨run.outcome, (run.events.flatMap (Event.chunks style)).flatMap Chunk.bytes⟩,
        ⟨run.processor, none⟩) := by
  simp only [lint, printEvents_none]

-- ---------------------------------------------------------------------------
-- Two settings
-- ---------------------------------------------------------------------------

namespace Settings

def steady (s : Settings) : Settings :=
  { s with
    whitespace := false, directiveCase := false, https := false, origins := false,
    hostnameEdits := false, source := false }

/-- One of the settings asks for the check and the other does not. -/
def differs (a b : Settings) (w : OptionalCheck) : Bool := a.makes w != b.makes w

def shared (a b : Settings) : Settings :=
  { a with
    whitespace := a.whitespace && b.whitespace
    directiveCase := a.directiveCase && b.directiveCase
    https := a.https && b.https
    origins := a.origins && b.origins
    hostnameEdits := a.hostnameEdits && b.hostnameEdits
    source := a.source && b.source }

theorem shared_makes (a b : Settings) (w : OptionalCheck) :
    (a.shared b).makes w = (a.makes w && b.makes w) := by
  cases w <;> rfl

theorem less_shared_left (a b : Settings) : a.Less (a.differs b) (a.shared b) := by
  intro w
  rw [shared_makes, differs]
  cases a.makes w <;> cases b.makes w <;> rfl

theorem less_shared_right (a b : Settings) : b.Less (a.differs b) (a.shared b) := by
  intro w
  rw [shared_makes, differs]
  cases a.makes w <;> cases b.makes w <;> rfl

theorem route_steady (s : Settings) : s.steady.route = s.route := rfl

end Settings

namespace OptionalCheck

def codes : OptionalCheck → List String
  | whitespace => ["L5002"]
  | directiveCase => ["L5001"]
  | https => ["L3007"]
  | origins => ["L2005"]
  | hostnameEdits => ["L3002", "L3003", "L1009"]
  | source => ["L9002", "L9003"]

theorem mem_codes_iff (c : Code) (w : OptionalCheck) : c.text ∈ w.codes ↔ c.check? = some w := by
  cases c <;> cases w <;> decide

end OptionalCheck

/-- Settings that differ in checks on demand alone lead to the same findings, line by line, but
for the codes of these checks; to the same states, but for what is kept for them; and to the same
end. -/
theorem optional_checks_additive (a b : Settings) (titles : TitleLookup)
    (h : a.steady = b.steady) :
    let off := a.differs b
    (∀ c : Code, ∀ w, c.text ∈ w.codes ↔ c.check? = some w) ∧
    (∀ lookup history,
      let s := Progress.run { processor := { lookup } } ⟨a, titles⟩ history
      let t := Progress.run { processor := { lookup } } ⟨b, titles⟩ history
      s.2.map (Diagnostic.without off) = t.2.map (Diagnostic.without off) ∧
        s.1.without off = t.1.without off ∧
        s.1.processor.titles = t.1.processor.titles ∧
        s.1.processor.origins = t.1.processor.origins) ∧
    ∀ files style path (p q : Processor), p.without off = q.without off →
      let r := Session.lint ⟨p, none⟩ ⟨a, titles⟩ style files path
      let s := Session.lint ⟨q, none⟩ ⟨b, titles⟩ style files path
      (Run.ofFile ⟨a, titles⟩ files path p).events.map (Event.without off) =
          (Run.ofFile ⟨b, titles⟩ files path q).events.map (Event.without off) ∧
        r.1.outcome.uncounted = s.1.outcome.uncounted ∧
        r.2.processor.without off = s.2.processor.without off ∧
        r.2.processor.titles = s.2.processor.titles ∧
        r.2.processor.origins = s.2.processor.origins := by
  intro off
  -- both sides are compared with what is left of each if only the common checks are made
  have ha : a.Less off (a.shared b) := a.less_shared_left b
  have hb : b.Less off (a.shared b) := a.less_shared_right b
  have hroute : b.route = a.route := by rw [← b.route_steady, ← h, a.route_steady]
  have hmemory : ∀ p q : Processor, p.without off = q.without off →
      p.titles = q.titles ∧ p.origins = q.origins :=
    fun p q hpq => ⟨congrArg (·.titles) hpq, congrArg (·.origins) hpq⟩
  refine ⟨OptionalCheck.mem_codes_iff, fun lookup history => ?_,
    fun files style path p q hpq => ?_⟩
  · have hleft := Progress.run_without titles ha { processor := { lookup } } history
    have hright := Progress.run_without titles hb { processor := { lookup } } history
    rw [hleft, Prod.ext_iff] at hright
    exact ⟨hright.2, hright.1, hmemory _ _ (congrArg (·.processor) hright.1)⟩
  · have hlevels : Run.levelsFor b = Run.levelsFor a := by
      have hd : b.maxIncludeDepth = a.maxIncludeDepth := congrArg (·.2.2) hroute
      rw [Run.levelsFor, Run.levelsFor, hd]
    have hleft := Run.file_without titles ha rfl files (Run.levelsFor a) 0 path p
    have hright := Run.file_without titles hb hroute files (Run.levelsFor a) 0 path q
    rw [← hpq] at hright
    have hprocessor := hleft.processor.symm.trans hright.processor
    simp only [Session.lint_none, Run.ofFile, hlevels]
    exact ⟨hleft.events.symm.trans hright.events, hleft.outcome.trans hright.outcome.symm,
      hprocessor, hmemory _ _ hprocessor⟩

def everyCheck : Settings where
  whitespace := true
  directiveCase := true
  https := true
  origins := true
  hostnameEdits := true
  source := true

/-- Findings of several checks, one of them in a file that interrupts the stanza, and one that is
made in any case. -/
def checkedLines : List Action := [
  .line "# Source - https://help.oclc.org/a" "f:1",
  .line "# Source - http://help.oclc.org/a" "f:2",
  .line "PHE b.org$ b-org" "f:3",
  .line "PHE a.b.org a" "f:4",
  .suspend,
  .line "Title C " "g:1",
  .resume,
  .line "Title A" "f:5",
  .line "URL http://a.org" "f:6",
  .line "H b.org" "f:7",
  .line "H b.org" "f:8",
  .line "Option A B" "f:9"]

def checkedTree : FileTree where
  entries := [
    (["main.txt"], .file (Text.encodeUtf8 "Title A\nIncludeFile b.txt\nU http://a.org\n".toList)),
    (["b.txt"], .file (Text.encodeUtf8 "Title B \n".toList))]

theorem optional_checks_additive_every_check :
    let titles : TitleLookup := .pages fun _ => .ok (some "B")
    let off := everyCheck.differs {}
    let start : Progress := { processor := { lookup := some .given } }
    let s := start.run ⟨everyCheck, titles⟩ checkedLines
    let t := start.run ⟨{}, titles⟩ checkedLines
    let p : Processor := { stanza := { hostnameEdits := [⟨"c.org", "[.]c"⟩], sourceTitle := "C" } }
    let left := Session.lint ⟨p, none⟩ ⟨everyCheck, titles⟩ {} checkedTree.find "main.txt"
    let right := Session.lint {} ⟨{}, titles⟩ {} checkedTree.find "main.txt"
    everyCheck.steady = Settings.steady {} ∧
      s.2 = [[], [.sourceFault .notHttps], [],
        [.hostnameEditFind, .hostnameEditReplace, .hostnameEditDepth "b.org"], [],
        [.trailingBlank], [], [.sourceTitle "B" "A"], [.urlNotHttps], [], [.originRepeated "f:7"],
        [.malformedOption]] ∧
      s.2.map (Diagnostic.without off) = t.2.map (Diagnostic.without off) ∧
      s.1.without off = t.1.without off ∧
      p.without off = Processor.without off {} ∧
      left.1.outcome = .count 4 ∧
      left.1.outcome.uncounted = right.1.outcome.uncounted ∧
      left.2.processor.without off = right.2.processor.without off := by
  intro titles off start s t p left right
  have hsteady : everyCheck.steady = Settings.steady {} := rfl
  have hstart : p.without off = Processor.without off {} := rfl
  have hall := optional_checks_additive everyCheck {} titles hsteady
  have hlines := hall.2.1 (some .given) checkedLines
  have hfiles := hall.2.2 checkedTree.find {} "main.txt" p {} hstart
  refine ⟨hsteady, ?_, hlines.1, hlines.2.1, hstart, ?_, hfiles.2.1, hfiles.2.2.1⟩
  · decide +kernel
  · decide +kernel

end StanzaLint
