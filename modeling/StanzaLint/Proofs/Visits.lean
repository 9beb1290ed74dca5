import Mathlib.Data.List.Perm.Basic
import StanzaLint.Proofs.Isolation

/-!
# Every line once

The lines of an included file are processed in the middle of the file that includes it.
Taken apart by files (`visits`), a run that does not fail has processed each file that it
visited from its first line to its last, each line once (`file_whole`). If the last line
leaves a stanza open, an empty line follows. Whether it does is read off the processor,
which the included files have used in between; it is right because they give back what
they found. Reading it off again behind the empty line changes nothing (`loop_eq_lines`).
-/

namespace StanzaLint

open Text

structure Call where
  record : Record
  state : Processor
  deriving DecidableEq, Repr

/-- What was processed: the line, its location, and whether it stands in the file. -/
def Call.asked (c : Call) : String × String × Bool :=
  (c.record.line, c.record.location, c.record.physical)

/-- A file, and the lines that were processed for it, without those of the files that it
includes. -/
structure Visit where
  path : Path
  calls : List Call := []
  deriving DecidableEq, Repr

namespace Run

def calls (events : List Event) : List Call :=
  events.filterMap fun
    | .line record state => some ⟨record, state⟩
    | _ => none

/-- Goes on with the visit of a file, inside of others, innermost first. A visit is over when the
file is left. -/
def visitsFrom : (visit : Visit) → (outer : List Visit) → List Event → List Visit
  | visit, outer, [] => visit :: outer
  | visit, outer, .before _ :: rest => visitsFrom visit outer rest
  | visit, outer, .line record state :: rest =>
    visitsFrom { visit with calls := visit.calls ++ [⟨record, state⟩] } outer rest
  | visit, outer, .enter _ _ target _ :: rest => visitsFrom ⟨target, []⟩ (visit :: outer) rest
  | visit, enclosing :: outer, .leave :: rest => visit :: visitsFrom enclosing outer rest
  | visit, [], .leave :: rest => visitsFrom visit [] rest

def visits (path : Path) (events : List Event) : List Visit := visitsFrom ⟨path, []⟩ [] events

-- ---------------------------------------------------------------------------
-- No visit and no line is lost
-- ---------------------------------------------------------------------------

theorem visitsFrom_paths (visit : Visit) (outer : List Visit) (events : List Event) :
    ((visitsFrom visit outer events).map Visit.path).Perm
      ((visit :: outer).map Visit.path ++ entered events) := by
  fun_induction visitsFrom visit outer events with
  | case1 visit outer => simp [entered]
  | case2 visit outer state rest ih => exact ih
  | case3 visit outer record state rest ih => exact ih
  | case4 visit outer text enclosing target state rest ih =>
    refine ih.trans ?_
    have he : entered (.enter text enclosing target state :: rest) = target :: entered rest := rfl
    rw [he]
    exact List.perm_middle.symm
  | case5 visit enclosing outer rest ih => exact ih.cons visit.path
  | case6 visit rest ih => exact ih

theorem visitsFrom_calls (visit : Visit) (outer : List Visit) (events : List Event) :
    ((visitsFrom visit outer events).flatMap Visit.calls).Perm
      ((visit :: outer).flatMap Visit.calls ++ calls events) := by
  fun_induction visitsFrom visit outer events with
  | case1 visit outer => simp [calls]
  | case2 visit outer state rest ih => exact ih
  | case3 visit outer record state rest ih =>
    refine ih.trans ?_
    have hc : calls (.line record state :: rest) = ⟨record, state⟩ :: calls rest := rfl
    rw [hc]
    simp only [List.flatMap_cons, List.append_assoc, List.singleton_append]
    exact (List.perm_middle.symm).append_left visit.calls
  | case4 visit outer text enclosing target state rest ih => exact ih
  | case5 visit enclosing outer rest ih =>
    rw [List.flatMap_cons, List.flatMap_cons, List.append_assoc]
    exact ih.append_left visit.calls
  | case6 visit rest ih => exact ih

-- ---------------------------------------------------------------------------
-- Parts of a run
-- ---------------------------------------------------------------------------

/-- Within a visit, the events tell of these lines and of these visits inside of it, whatever
comes behind them. -/
def Told (events : List Event) (own : List Call) (inner : List Visit) : Prop :=
  ∀ visit outer rest, visitsFrom visit outer (events ++ rest) =
    inner ++ visitsFrom { visit with calls := visit.calls ++ own } outer rest

variable {events more : List Event} {own : List Call} {inner : List Visit}

theorem Told.nil : Told [] [] [] := by
  intro visit outer rest
  simp

theorem Told.append (h : Told events own inner) (hm : Told more ownMore innerMore) :
    Told (events ++ more) (own ++ ownMore) (inner ++ innerMore) := by
  intro visit outer rest
  rw [List.append_assoc, h, hm]
  simp

theorem Told.single (before : Processor) (record : Record) (state : Processor) :
    Told [.before before, .line record state] [⟨record, state⟩] [] := by
  intro visit outer rest
  rfl

theorem Told.included (h : Told events own inner) (text : String) (enclosing target : Path)
    (state : Processor) :
    Told (.enter text enclosing target state :: events ++ [.leave]) [] (inner ++ [⟨target, own⟩]) := by
  intro visit outer rest
  have hinner := h ⟨target, []⟩ (visit :: outer) (.leave :: rest)
  simp only [visitsFrom, List.cons_append, List.append_assoc, List.nil_append] at hinner ⊢
  rw [hinner, List.append_nil]

/-- The visits of a run are those inside of it and the one of its own file. -/
theorem Told.visits (h : Told events own inner) (path : Path) :
    visits path events = inner ++ [⟨path, own⟩] := by
  have hall := h ⟨path, []⟩ [] []
  rw [List.append_nil] at hall
  exact hall

-- ---------------------------------------------------------------------------
-- The lines of a file
-- ---------------------------------------------------------------------------

/-- What has to be processed behind line `number`, and whether a stanza is open there. -/
def due (path : Path) : (number : Nat) → (closed : Bool) → List String →
    List (String × String × Bool)
  | number, closed, [] => if closed then [] else [("", location path number, false)]
  | number, _, text :: rest =>
    (text, location path (number + 1), true) ::
      due path (number + 1) (decide (Line.read text = .closing)) rest

/-- The last line, if there is one, leaves a stanza open. -/
def EndsOpen (texts : List String) : Prop :=
  ∀ last, texts.getLast? = some last → trim last.toList ≠ [] ∧ trim last.toList ≠ ['#']

instance (texts : List String) : Decidable (EndsOpen texts) :=
  decidable_of_iff (texts.getLast?.all fun last => trim last.toList ≠ [] ∧ trim last.toList ≠ ['#'])
    (by cases h : texts.getLast? <;> simp [EndsOpen, h])

theorem read_eq_closing_iff (text : String) :
    Line.read text = .closing ↔ trim text.toList = [] ∨ trim text.toList = ['#'] := by
  unfold Line.read Line.ofText
  split
  next h => simpa using h
  next h =>
    refine ⟨fun hc => ?_, fun hc => absurd hc h⟩
    split at hc
    · cases hc
    · split at hc <;> cases hc

theorem due_eq (path : Path) (number : Nat) (closed : Bool) (texts : List String) :
    due path number closed texts =
      texts.mapIdx (fun i text => (text, location path (number + i + 1), true)) ++
        if (texts.getLast?.elim closed fun last => decide (Line.read last = .closing)) then []
        else [("", location path (number + texts.length), false)] := by
  induction texts generalizing number closed with
  | nil => cases closed <;> rfl
  | cons text rest ih =>
    have hlast : (text :: rest).getLast?.elim closed
          (fun last => decide (Line.read last = .closing)) =
        rest.getLast?.elim (decide (Line.read text = .closing))
          (fun last => decide (Line.read last = .closing)) := by
      cases h : rest.getLast? <;> simp [List.getLast?_cons, h]
    rw [due, ih, hlast, List.mapIdx_cons, List.cons_append, List.length_cons]
    simp only [Nat.add_zero, Nat.add_assoc, Nat.add_comm 1]

/-- Seen from the start of a file, every line is due, and an empty one if the last is open. -/
theorem due_file (path : Path) (texts : List String) :
    due path 0 false texts =
      texts.mapIdx (fun i text => (text, location path (i + 1), true)) ++
        if EndsOpen texts then [("", location path texts.length, false)] else [] := by
  have hopen : (texts.getLast?.elim false fun last => decide (Line.read last = .closing)) = true ↔
      ¬EndsOpen texts := by
    cases h : texts.getLast? with
    | none => simp [EndsOpen, h]
    | some last =>
      simp only [EndsOpen, h, Option.elim_some, decide_eq_true_eq, read_eq_closing_iff,
        Option.some.injEq, forall_eq']
      tauto
  rw [due_eq]
  simp only [hopen, Nat.zero_add]
  split <;> simp_all

variable {checks : Checks} {files : Files} {visit : Path → Processor → Run} {path : Path}

def stateAfter (p : Processor) (own : List Call) : Processor :=
  own.foldl (fun _ call => call.state) p

/-- The whole file was processed, and nothing of its last stanza is left. -/
structure Whole (files : Files) (visit : Visit) : Prop where
  lines : ∃ content, files visit.path = .file content ∧
    visit.calls.map Call.asked = due visit.path 0 false (fileLines content)
  closed : ∃ last, visit.calls.getLast? = some last ∧ last.state.stanza = {}

/-- A part of a file that was processed without a failure, from `p` on. -/
structure Processed (files : Files) (p : Processor) (r : Run) (own : List Call) : Prop where
  told : ∃ inner, Told r.events own inner ∧ ∀ visit ∈ inner, Whole files visit
  place : (stateAfter p own).SamePlace r.processor

theorem Processed.andThen {p : Processor} {r : Run} {next : Processor → Run} {ownMore : List Call}
    (h : Processed files p r own) (hr : r.outcome = .count n)
    (hn : Processed files r.processor (next r.processor) ownMore) :
    Processed files p (r.andThen next) (own ++ ownMore) := by
  obtain ⟨inner, htold, hinner⟩ := h.told
  obtain ⟨innerMore, htoldMore, hinnerMore⟩ := hn.told
  rw [andThen_count hr]
  refine ⟨⟨inner ++ innerMore, htold.append htoldMore, ?_⟩, ?_⟩
  · intro visit hv
    rcases List.mem_append.mp hv with hv | hv
    · exact hinner visit hv
    · exact hinnerMore visit hv
  · -- behind an include the state is not that of the last line, but its place is
    have hplace := hn.place
    cases ownMore with
    | nil =>
      rw [List.append_nil]
      exact h.place.trans hplace
    | cons call rest =>
      rw [stateAfter, List.foldl_append]
      exact hplace

def callOf (checks : Checks) (path : Path) (number : Nat) (text : String) (physical : Bool)
    (p : Processor) : Call :=
  let result := p.step checks text (location path number)
  ⟨⟨location path number, text, result.1.lastLineEmpty, result.2, physical⟩, result.1⟩

theorem alone_processed (files : Files) (checks : Checks) (path : Path) (number : Nat)
    (text : String) (physical : Bool) (p : Processor) :
    Processed files p (alone checks path number text physical p)
      [callOf checks path number text physical p] :=
  ⟨⟨[], Told.single _ _ _, fun _ hv => absurd hv List.not_mem_nil⟩, ⟨rfl, rfl⟩⟩

/-- Whatever file is visited, if it is read to its end then all of it is. -/
def VisitWhole (files : Files) (visit : Path → Processor → Run) : Prop :=
  ∀ path p n, (visit path p).outcome = .count n → ∃ own inner,
    Told (visit path p).events own inner ∧ Whole files ⟨path, own⟩ ∧
      ∀ visit ∈ inner, Whole files visit

theorem follow_processed (hv : VisitWhole files visit) (hr : VisitRestores visit)
    (settings : Settings) (enclosing : Path) (text : String) (p : Processor)
    (h : (follow settings visit enclosing text p).outcome = .count n) :
    Processed files p (follow settings visit enclosing text p) [] := by
  have hplace := follow_restores hr settings enclosing text p h
  refine ⟨?_, hplace.stanza.symm, hplace.lastLineEmpty.symm⟩
  cases ht : target? text with
  | none =>
    rw [follow_none ht] at h
    cases h
  | some target =>
    rw [follow_some ht] at h ⊢
    obtain ⟨own, inner, htold, hwhole, hinner⟩ := hv _ p n (Outcome.within_eq_count.mp h)
    refine ⟨inner ++ [⟨resolve settings enclosing target, own⟩], htold.included text enclosing _ p, ?_⟩
    intro visit hmem
    rcases List.mem_append.mp hmem with hmem | hmem
    · exact hinner visit hmem
    · rw [List.mem_singleton.mp hmem]
      exact hwhole

theorem line_processed (hv : VisitWhole files visit) (hr : VisitRestores visit) (path : Path)
    (number : Nat) (text : String) (physical : Bool) (p : Processor)
    (h : (line checks visit path number text physical p).outcome = .count n) :
    Processed files p (line checks visit path number text physical p)
      [callOf checks path number text physical p] := by
  have here := alone_processed files checks path number text physical p
  rw [line_eq] at h ⊢
  by_cases hf : Follows checks (alone checks path number text physical p)
  · rw [if_pos hf] at h ⊢
    obtain ⟨a, b, ha, hb, -⟩ := andThen_eq_count h
    have hinner := follow_processed hv hr checks.settings path text _ hb
    exact here.andThen ha hinner
  · rw [if_neg hf]
    exact here

end Run

namespace Processor

def Resting (p : Processor) : Prop := p.lastLineEmpty = true → p.stanza = {}

theorem step_lastLineEmpty (p : Processor) (checks : Checks) (text place : String) :
    (p.step checks text place).1.lastLineEmpty = decide (Line.read text = .closing) := by
  rw [step_eq]
  cases hl : Line.read text with
  | closing => rfl
  | comment cs =>
    obtain ⟨source, title, lookup, hc⟩ :=
      { p with current := none, lastLineEmpty := false }.comment_stanza checks cs
    simp [read, hc]
  | unfinished segment => simp [read, unfinished]
  | complete cs =>
    have hlogical : ∀ (q : Processor) (joined : List Char),
        (q.logicalLine checks.settings joined place).1.lastLineEmpty = q.lastLineEmpty := by
      intro q joined
      rw [logicalLine_eq]
      split <;> rfl
    simp only [read, complete]
    split <;> simp [hlogical]

theorem suspend_resting (p : Processor) : p.suspend.2.Resting :=
  fun h => absurd h Bool.false_ne_true

theorem step_resting (p : Processor) (checks : Checks) (text place : String) :
    (p.step checks text place).1.Resting := by
  intro h
  rw [step_lastLineEmpty, decide_eq_true_eq] at h
  rw [step_eq, h]
  rfl

end Processor

namespace Run

variable {checks : Checks} {files : Files} {visit : Path → Processor → Run} {path : Path}

/-- Takes the lines behind line `number` in rounds, and an empty one whenever there are none left
and the last line was not empty. -/
def loop (checks : Checks) (visit : Path → Processor → Run) (path : Path) :
    (rounds number : Nat) → List String → Processor → Run
  | 0, _, _, p => ⟨[], .endless, p⟩
  | rounds + 1, number, [], p =>
    if p.lastLineEmpty then ⟨[], .count 0, p⟩
    else (line checks visit path number "" false p).andThen (loop checks visit path rounds number [])
  | rounds + 1, number, text :: rest, p =>
    (line checks visit path (number + 1) text true p).andThen
      (loop checks visit path rounds (number + 1) rest)

theorem line_closing (checks : Checks) (visit : Path → Processor → Run) (path : Path)
    (number : Nat) (p : Processor) :
    ∃ n, (line checks visit path number "" false p).outcome = .count n ∧
      (line checks visit path number "" false p).processor.lastLineEmpty = true := by
  have hcurrent : (p.step checks "" (location path number)).1.current = none := by
    rw [Processor.step_eq]
    rfl
  rw [line_eq, if_neg]
  · exact ⟨_, rfl, p.step_lastLineEmpty checks "" (location path number)⟩
  · intro hfollows
    cases hcurrent.symm.trans hfollows.2

/-- The loop is over after one empty line, because that one sets the flag. -/
theorem loop_eq_lines (path : Path) (number : Nat) {texts : List String}
    (h : texts.length + 1 < rounds) (p : Processor) :
    loop checks visit path rounds number texts p = lines checks visit path number texts p := by
  induction texts generalizing rounds number p with
  | nil =>
    obtain ⟨more, rfl⟩ : ∃ more, rounds = more + 2 := Nat.exists_eq_add_of_le' h
    obtain ⟨n, hn, hempty⟩ := line_closing checks visit path number p
    rw [loop, lines, andThen_count hn]
    simp [loop, hempty, Outcome.add, ← hn]
  | cons text rest ih =>
    obtain ⟨more, rfl⟩ := Nat.exists_eq_add_one_of_ne_zero (Nat.ne_zero_of_lt h)
    rw [loop, lines]
    exact congrArg _ (funext fun q => ih (number + 1) (Nat.lt_of_succ_lt_succ h) q)

theorem lines_processed (hv : VisitWhole files visit) (hr : VisitRestores visit) (path : Path)
    (number : Nat) (texts : List String) {p : Processor} (hp : p.Resting)
    (h : (lines checks visit path number texts p).outcome = .count n) :
    ∃ own, Processed files p (lines checks visit path number texts p) own ∧
      own.map Call.asked = due path number p.lastLineEmpty texts ∧
      (lines checks visit path number texts p).processor.stanza = {} := by
  induction texts generalizing number p n with
  | nil =>
    unfold lines at h ⊢
    by_cases hl : p.lastLineEmpty = true
    · rw [if_pos hl]
      refine ⟨[], ⟨⟨[], Told.nil, fun _ hv => absurd hv List.not_mem_nil⟩, rfl, rfl⟩, ?_, hp hl⟩
      simp [due, hl]
    · rw [if_neg hl] at h ⊢
      have hline := line_processed hv hr path number "" false p h
      refine ⟨_, hline, ?_, ?_⟩
      · simp [due, hl, callOf, Call.asked]
      · rw [← hline.place.stanza]
        rfl
  | cons text rest ih =>
    unfold lines at h ⊢
    obtain ⟨a, b, ha, hb, -⟩ := andThen_eq_count h
    have hline := line_processed hv hr path (number + 1) text true p ha
    -- what was included has given back the place that the line left
    have hstep := p.step_lastLineEmpty checks text (location path (number + 1))
    have hempty : (line checks visit path (number + 1) text true p).processor.lastLineEmpty =
        decide (Line.read text = .closing) := by
      rw [← hline.place.lastLineEmpty]
      exact hstep
    have hresting : (line checks visit path (number + 1) text true p).processor.Resting := by
      intro he
      rw [← hline.place.stanza]
      refine p.step_resting checks text (location path (number + 1)) ?_
      rw [hstep, ← hempty, he]
    obtain ⟨own, hown, hasked, hend⟩ := ih (number + 1) hresting hb
    refine ⟨_, hline.andThen ha hown, ?_, ?_⟩
    · rw [List.map_append, hasked, hempty]
      rfl
    · rw [andThen_count ha]
      exact hend

/-- A file that is read to its end is processed from its first line to its last, and closed. -/
theorem file_whole (checks : Checks) (files : Files) (levels depth : Nat) :
    VisitWhole files (file checks files levels depth) := by
  induction levels generalizing depth with
  | zero => exact fun path p n h => absurd h Outcome.noConfusion
  | succ levels ih =>
    intro path p n h
    rcases file_cases checks files levels depth path p with ⟨cause, he⟩ | ⟨content, hc, he⟩
    · rw [he] at h
      cases h
    · rw [he, resume_outcome] at h
      obtain ⟨own, ⟨⟨inner, htold, hinner⟩, hplace⟩, hasked, hend⟩ := lines_processed
        (ih (depth + 1)) (file_restores checks files levels (depth + 1)) path 0 (fileLines content)
        p.suspend_resting h
      rw [he, resume_events]
      refine ⟨own, inner, htold, ⟨⟨content, hc, hasked⟩, ?_⟩, hinner⟩
      rcases List.eq_nil_or_concat' own with rfl | ⟨front, last, rfl⟩
      · -- the first line, or the empty one, has been processed
        have hdue : due path 0 false (fileLines content) ≠ [] := by
          cases fileLines content <;> simp [due]
        exact absurd hasked.symm hdue
      · refine ⟨last, List.getLast?_concat, ?_⟩
        have hlast : stateAfter p.suspend.2 (front ++ [last]) = last.state := by simp [stateAfter]
        rw [← hlast, hplace.stanza, hend]

/-- A run that does not fail processes every line of every file that it visits once. Each visit,
apart from what it includes, is lines 1 to n of its file at their locations, and an empty line at
the last number behind them if the last line is neither empty nor a lone `#`, or if there is none.
With its last line the stanza is empty again, and so it is when the lines of any file have been
read. -/
theorem lines_once (checks : Checks) (files : Files) (path : Path) (p : Processor) (n : Nat)
    (h : (ofFile checks files path p).outcome = .count n) :
    let events := (ofFile checks files path p).events
    ((visits path events).map Visit.path).Perm (path :: entered events) ∧
    ((visits path events).flatMap Visit.calls).Perm (calls events) ∧
    (∀ visit ∈ visits path events,
      (∃ content, files visit.path = .file content ∧
        visit.calls.map Call.asked =
          (fileLines content).mapIdx (fun i text => (text, location visit.path (i + 1), true)) ++
            if EndsOpen (fileLines content)
              then [("", location visit.path (fileLines content).length, false)] else []) ∧
      ∃ last, visit.calls.getLast? = some last ∧ last.state.stanza = {}) ∧
    ∀ levels depth target content q m,
      let loop := lines checks (file checks files levels depth) target 0 (fileLines content)
        (Processor.suspend q).2
      loop.outcome = .count m → loop.processor.stanza = {} := by
  intro events
  refine ⟨visitsFrom_paths .., visitsFrom_calls .., fun visit hvisit => ?_, ?_⟩
  · obtain ⟨own, inner, htold, hwhole, hinner⟩ :=
      file_whole checks files (levelsFor checks.settings) 0 path p n h
    have hall : visits path events = inner ++ [⟨path, own⟩] := htold.visits path
    have hv : Whole files visit := by
      rw [hall, List.mem_append, List.mem_singleton] at hvisit
      rcases hvisit with hmem | rfl
      · exact hinner visit hmem
      · exact hwhole
    obtain ⟨content, hc, hasked⟩ := hv.lines
    exact ⟨⟨content, hc, hasked.trans (due_file ..)⟩, hv.closed⟩
  · intro levels depth target content q m loop hloop
    obtain ⟨own, -, -, hend⟩ := lines_processed (file_whole checks files levels depth)
      (file_restores checks files levels depth) target 0 (fileLines content) q.suspend_resting hloop
    exact hend

/-- Files that end with an include, with an unfinished line, with a comment, and at once. -/
def endings : FileTree where
  entries := [
    (["main.txt"], .file (encodeUtf8 "Title A\nIncludeFile a.txt".toList)),
    (["a.txt"], .file (encodeUtf8 "IncludeFile b.txt\n\nIncludeFile c.txt\nTitle \\\n".toList)),
    (["b.txt"], .file (encodeUtf8 "Option NoCookie\n# end\n".toList)),
    (["c.txt"], .file [])]

def endingsRun : Run := ofFile ⟨{}, .pages fun _ => .ok none⟩ endings.find "main.txt" {}

theorem lines_once_endings :
    endingsRun.outcome = .count 2 ∧
      (visits "main.txt" endingsRun.events).map (fun visit => visit.calls.map Call.asked) =
        [[("Option NoCookie", "b.txt:1", true), ("# end", "b.txt:2", true), ("", "b.txt:2", false)],
          [("", "c.txt:0", false)],
          [("IncludeFile b.txt", "a.txt:1", true), ("", "a.txt:2", true),
            ("IncludeFile c.txt", "a.txt:3", true), ("Title \\", "a.txt:4", true),
            ("", "a.txt:4", false)],
          [("Title A", "main.txt:1", true), ("IncludeFile a.txt", "main.txt:2", true),
            ("", "main.txt:2", false)]] ∧
      ∀ visit ∈ visits "main.txt" endingsRun.events,
        ∃ last, visit.calls.getLast? = some last ∧ last.state.stanza = {} := by
  have hcount : endingsRun.outcome = .count 2 := by decide +kernel
  have hlines := lines_once ⟨{}, .pages fun _ => .ok none⟩ endings.find "main.txt" {} 2 hcount
  refine ⟨hcount, by decide +kernel, fun visit hv => ?_⟩
  exact (hlines.2.2.1 visit hv).2

end Run

end StanzaLint
