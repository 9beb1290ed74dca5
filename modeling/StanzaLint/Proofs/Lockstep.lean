import Mathlib.Data.List.Forall2
import StanzaLint.Proofs.Runs

/-!
# Runs in lockstep

Two runs over the same lines, from processors that are alike, enter the same files
one after the other. What is alike is left open here (`Likeness`): a relation between
processors, one between what is said about a line, and one between outcomes. It has
to be checked on single lines and on the ends of runs only (`Likeness.Lawful`); that
it holds of whole files is the same proof for all of them (`lines_inStep`,
`file_inStep`).
-/

namespace StanzaLint

inductive Event.Pairs (P : Processor → Processor → Prop) (D : Record → Record → Prop) :
    Event → Event → Prop
  | before : P p q → Pairs P D (before p) (before q)
  | line : D a b → P p q → Pairs P D (line a p) (line b q)
  | enter : P p q → Pairs P D (enter text enclosing target p) (enter text enclosing target q)
  | leave : Pairs P D leave leave

namespace Run

/-- What two runs have in common. -/
structure Likeness where
  processor : Processor → Processor → Prop
  record : Record → Record → Prop
  outcome : Outcome → Outcome → Prop

namespace Likeness

def event (l : Likeness) : Event → Event → Prop := Event.Pairs l.processor l.record

/-- The likeness passes from one line to the next, and from an included file to the file that
includes it. -/
structure Lawful (l : Likeness) (checks others : Checks) : Prop where
  followIncludes : others.settings.followIncludes = checks.settings.followIncludes
  includeDirectory : others.settings.includeDirectory = checks.settings.includeDirectory
  lastLineEmpty : l.processor p q → q.lastLineEmpty = p.lastLineEmpty
  step : l.processor p q → ∀ text place,
    l.processor (p.step checks text place).1 (q.step others text place).1 ∧
      (q.step others text place).1.current = (p.step checks text place).1.current
  record : l.processor p q → ∀ text place physical,
    l.record ⟨place, text, (p.step checks text place).1.lastLineEmpty, (p.step checks text place).2,
        physical⟩
      ⟨place, text, (q.step others text place).1.lastLineEmpty, (q.step others text place).2,
        physical⟩
  found : l.processor p q → ∀ text place,
    l.outcome (.count (p.step checks text place).2.length)
      (.count (q.step others text place).2.length)
  suspend : l.processor p q → l.processor p.suspend.2 q.suspend.2
  resume : l.processor p q → l.processor a b →
    l.processor (a.resume p.suspend.1) (b.resume q.suspend.1)
  nothing : l.outcome (.count 0) (.count 0)
  missing : ∀ text, l.outcome (.failure (.missingIncludePath text))
    (.failure (.missingIncludePath text))
  counts : l.outcome o o' → ((∃ n, o = .count n) ↔ ∃ n, o' = .count n)
  add : l.outcome (.count n) (.count m) → l.outcome o o' → l.outcome (o.add n) (o'.add m)
  within : l.outcome o o' → ∀ text path, l.outcome (o.within text path) (o'.within text path)

end Likeness

/-- The runs go the same way: event by event, to the same end. -/
structure InStep (l : Likeness) (r s : Run) : Prop where
  events : List.Forall₂ l.event r.events s.events
  outcome : l.outcome r.outcome s.outcome
  processor : l.processor r.processor s.processor

variable {l : Likeness} {checks others : Checks} {visit away : Path → Processor → Run}

theorem fail_inStep {p q : Processor} (h : l.processor p q)
    (ho : l.outcome (.failure cause) (.failure other)) : InStep l (fail p cause) (fail q other) :=
  ⟨.nil, ho, h⟩

theorem alone_inStep (law : l.Lawful checks others) {p q : Processor} (h : l.processor p q)
    (path : Path) (number : Nat) (text : String) (physical : Bool) :
    InStep l (alone checks path number text physical p)
      (alone others path number text physical q) := by
  obtain ⟨hstep, -⟩ := law.step h text (location path number)
  refine ⟨?_, law.found h text _, hstep⟩
  exact .cons (.before h) (.cons (.line (law.record h text _ physical) hstep) .nil)

theorem andThen_inStep (law : l.Lawful checks others) {r s : Run} {next more : Processor → Run}
    (h : InStep l r s) (hn : ∀ p q, l.processor p q → InStep l (next p) (more q)) :
    InStep l (r.andThen next) (s.andThen more) := by
  rcases andThen_cases r next with ⟨n, hr, he⟩ | ⟨hr, he⟩
  · obtain ⟨m, hs⟩ := (law.counts h.outcome).mp ⟨n, hr⟩
    have hlater := hn _ _ h.processor
    rw [he, andThen_count hs]
    refine ⟨List.rel_append h.events hlater.events, ?_, hlater.processor⟩
    refine law.add ?_ hlater.outcome
    rw [← hr, ← hs]
    exact h.outcome
  · have hs : ∀ m, s.outcome ≠ .count m := by
      intro m hm
      obtain ⟨n, hn⟩ := (law.counts h.outcome).mpr ⟨m, hm⟩
      exact hr n hn
    rw [he, andThen_stop hs]
    exact h

def VisitInStep (l : Likeness) (visit away : Path → Processor → Run) : Prop :=
  ∀ path p q, l.processor p q → InStep l (visit path p) (away path q)

theorem follow_inStep (law : l.Lawful checks others) (hv : VisitInStep l visit away)
    {p q : Processor} (h : l.processor p q) (enclosing : Path) (text : String) :
    InStep l (follow checks.settings visit enclosing text p)
      (follow others.settings away enclosing text q) := by
  cases ht : target? text with
  | none =>
    rw [follow_none ht, follow_none ht]
    exact fail_inStep h (law.missing text)
  | some target =>
    have hresolve : resolve others.settings enclosing target =
        resolve checks.settings enclosing target := by
      rw [resolve, resolve, law.includeDirectory]
    have hinner := hv (resolve checks.settings enclosing target) p q h
    rw [follow_some ht, follow_some ht, hresolve]
    refine ⟨?_, law.within hinner.outcome _ _, hinner.processor⟩
    exact .cons (.enter h) (List.rel_append hinner.events (.cons .leave .nil))

theorem line_inStep (law : l.Lawful checks others) (hv : VisitInStep l visit away)
    {p q : Processor} (h : l.processor p q) (path : Path) (number : Nat) (text : String)
    (physical : Bool) :
    InStep l (line checks visit path number text physical p)
      (line others away path number text physical q) := by
  have here := alone_inStep law h path number text physical
  have hf : Follows others (alone others path number text physical q) ↔
      Follows checks (alone checks path number text physical p) := by
    rw [Follows, Follows, alone_processor, alone_processor, law.followIncludes,
      (law.step h text _).2]
  rw [line_eq, line_eq]
  by_cases hfollows : Follows checks (alone checks path number text physical p)
  · rw [if_pos hfollows, if_pos (hf.mpr hfollows)]
    exact andThen_inStep law here fun a b hab => follow_inStep law hv hab path text
  · rw [if_neg hfollows, if_neg (mt hf.mp hfollows)]
    exact here

theorem lines_inStep (law : l.Lawful checks others) (hv : VisitInStep l visit away)
    {p q : Processor} (h : l.processor p q) (path : Path) (number : Nat) (texts : List String) :
    InStep l (lines checks visit path number texts p)
      (lines others away path number texts q) := by
  induction texts generalizing number p q with
  | nil =>
    simp only [lines, law.lastLineEmpty h]
    split
    · exact ⟨.nil, law.nothing, h⟩
    · exact line_inStep law hv h path number "" false
  | cons text rest ih =>
    simp only [lines]
    exact andThen_inStep law (line_inStep law hv h path _ text true) fun a b hab =>
      ih hab (number + 1)

/-- A file that is read to its end gives back what it interrupted, in both runs. -/
theorem resume_inStep (law : l.Lawful checks others) {r s : Run} (h : InStep l r s)
    {file other : Processor.Suspended}
    (hp : l.processor (r.processor.resume file) (s.processor.resume other)) :
    InStep l (r.resume file) (s.resume other) := by
  refine ⟨?_, ?_, ?_⟩
  · rw [resume_events, resume_events]
    exact h.events
  · rw [resume_outcome, resume_outcome]
    exact h.outcome
  · by_cases hr : ∃ n, r.outcome = .count n
    · obtain ⟨m, hs⟩ := (law.counts h.outcome).mp hr
      obtain ⟨n, hr⟩ := hr
      rw [resume_count hr, resume_count hs]
      exact hp
    · have hs : ¬∃ m, s.outcome = .count m := mt (law.counts h.outcome).mpr hr
      rw [resume_stop (not_exists.mp hr), resume_stop (not_exists.mp hs)]
      exact h.processor

theorem file_inStep (law : l.Lawful checks checks) (hrefl : ∀ o, l.outcome o o) (files : Files)
    (levels depth : Nat) :
    VisitInStep l (file checks files levels depth) (file checks files levels depth) := by
  induction levels generalizing depth with
  | zero => exact fun path p q h => ⟨.nil, hrefl _, h⟩
  | succ levels ih =>
    intro path p q h
    rcases file_uniform checks files levels depth path with ⟨cause, he⟩ | ⟨content, -, he⟩
    · rw [he, he]
      exact fail_inStep h (hrefl _)
    · have hlines := lines_inStep law (ih (depth + 1)) (law.suspend h) path 0
        (Text.fileLines content)
      rw [he, he]
      exact resume_inStep law hlines (law.resume h hlines.processor)

end Run

end StanzaLint
