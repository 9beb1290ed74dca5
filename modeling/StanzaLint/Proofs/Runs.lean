import StanzaLint.Proofs.Memory
import StanzaLint.Run

/-!
# The shape of runs

A run of a file is a chain of lines, each on its own or followed by the run of
the file that it includes. The lemmas here take such runs apart; what the files
contain plays no role. Memory grows along every run, also along one that fails
(`file_grows`), and a run that does not fail counts what it finds (`file_counts`).
-/

namespace StanzaLint

namespace Outcome

theorem add_zero (o : Outcome) : o.add 0 = o := by
  cases o <;> simp [add]

theorem add_add (o : Outcome) (n m : Nat) : (o.add n).add m = o.add (m + n) := by
  cases o <;> simp [add, Nat.add_assoc]

theorem add_eq_count {o : Outcome} (h : o.add n = .count m) : ∃ k, o = .count k ∧ m = n + k := by
  cases o with
  | count k =>
    simp only [add, count.injEq] at h
    exact ⟨k, rfl, h.symm⟩
  | failure cause => cases h
  | endless => cases h

theorem within_eq_count {o : Outcome} {text : String} :
    o.within text path = .count n ↔ o = .count n := by
  cases o <;> simp [within]

end Outcome

namespace Run

def entered (events : List Event) : List Path :=
  events.filterMap fun
    | .enter _ _ target _ => some target
    | _ => none

theorem entered_append (events more : List Event) :
    entered (events ++ more) = entered events ++ entered more := List.filterMap_append ..

def records (events : List Event) : List Record :=
  events.filterMap fun
    | .line record _ => some record
    | _ => none

theorem records_append (events more : List Event) :
    records (events ++ more) = records events ++ records more := List.filterMap_append ..

/-- The file that a location names: what stands before its last colon. -/
def fileOf (place : String) : Path :=
  String.ofList ((place.toList.reverse.dropWhile Char.isDigit).drop 1).reverse

theorem fileOf_location (path : Path) (number : Nat) : fileOf (location path number) = path := by
  have hd : ∀ c ∈ (toString number).toList.reverse, c.isDigit = true := by
    intro c hc
    rw [List.mem_reverse, show toString number = number.repr from rfl, Nat.toList_repr] at hc
    exact Nat.isDigit_of_mem_toDigits (by decide) (by decide) hc
  have hl : (location path number).toList.reverse =
      (toString number).toList.reverse ++ ':' :: path.toList.reverse := by
    simp [location]
  rw [fileOf, hl, List.dropWhile_append_of_pos hd]
  simp

theorem location_inj {path other : Path} (h : location path n = location other m) :
    path = other ∧ n = m := by
  have hp : path = other := by rw [← fileOf_location path n, h, fileOf_location]
  subst hp
  have hd : Nat.toDigits 10 n = Nat.toDigits 10 m := by
    have hl := congrArg String.toList h
    simpa [location, Nat.toList_repr] using hl
  refine ⟨rfl, ?_⟩
  calc n = Nat.ofDigitChars 10 (Nat.toDigits 10 n) 0 :=
        (Nat.ofDigitChars_toDigits (by decide) (by decide)).symm
    _ = Nat.ofDigitChars 10 (Nat.toDigits 10 m) 0 := by rw [hd]
    _ = m := Nat.ofDigitChars_toDigits (by decide) (by decide)

variable {checks : Checks} {visit : Path → Processor → Run}

/-- A line without what it includes. -/
def alone (checks : Checks) (path : Path) (number : Nat) (text : String) (physical : Bool)
    (p : Processor) : Run :=
  let place := location path number
  let result := p.step checks text place
  ⟨[.before p, .line ⟨place, text, result.1.lastLineEmpty, result.2, physical⟩ result.1],
    .count result.2.length, result.1⟩

theorem alone_processor (checks : Checks) (path : Path) (number : Nat) (text : String)
    (physical : Bool) (p : Processor) :
    (alone checks path number text physical p).processor =
      (p.step checks text (location path number)).1 := rfl

def Follows (checks : Checks) (here : Run) : Prop :=
  checks.settings.followIncludes = true ∧ here.processor.current = some .includeFile

instance (checks : Checks) (here : Run) : Decidable (Follows checks here) :=
  inferInstanceAs (Decidable (_ ∧ _))

theorem line_eq (checks : Checks) (visit : Path → Processor → Run) (path : Path) (number : Nat)
    (text : String) (physical : Bool) (p : Processor) :
    line checks visit path number text physical p =
      if Follows checks (alone checks path number text physical p) then
        (alone checks path number text physical p).andThen
          (follow checks.settings visit path text)
      else alone checks path number text physical p := rfl

theorem andThen_count {r : Run} (h : r.outcome = .count n) (next : Processor → Run) :
    r.andThen next = ⟨r.events ++ (next r.processor).events, (next r.processor).outcome.add n,
      (next r.processor).processor⟩ := by
  simp only [andThen, h]

theorem andThen_stop {r : Run} (h : ∀ n, r.outcome ≠ .count n) (next : Processor → Run) :
    r.andThen next = r := by
  unfold andThen
  split
  next n hn => exact absurd hn (h n)
  next => rfl

theorem andThen_cases (r : Run) (next : Processor → Run) :
    (∃ n, r.outcome = .count n ∧ r.andThen next = ⟨r.events ++ (next r.processor).events,
      (next r.processor).outcome.add n, (next r.processor).processor⟩) ∨
    (∀ n, r.outcome ≠ .count n) ∧ r.andThen next = r := by
  cases h : r.outcome with
  | count n => exact .inl ⟨n, rfl, andThen_count h next⟩
  | failure cause => exact .inr ⟨by simp, andThen_stop (by simp [h]) next⟩
  | endless => exact .inr ⟨by simp, andThen_stop (by simp [h]) next⟩

theorem andThen_assoc (r : Run) (next last : Processor → Run) :
    (r.andThen next).andThen last = r.andThen fun p => (next p).andThen last := by
  rcases andThen_cases r next with ⟨n, hr, he⟩ | ⟨hr, he⟩
  · rw [he, andThen_count hr]
    rcases andThen_cases (next r.processor) last with ⟨m, hm, hs⟩ | ⟨hm, hs⟩
    · rw [hs, andThen_count (n := n + m) (by rw [hm]; rfl)]
      simp [Outcome.add_add]
    · rw [hs, andThen_stop]
      intro k hk
      obtain ⟨j, hj, -⟩ := Outcome.add_eq_count hk
      exact hm j hj
  · rw [he, andThen_stop hr, andThen_stop hr]

theorem andThen_eq_count {r : Run} {next : Processor → Run}
    (h : (r.andThen next).outcome = .count n) :
    ∃ a b, r.outcome = .count a ∧ (next r.processor).outcome = .count b ∧ n = a + b := by
  rcases andThen_cases r next with ⟨a, ha, he⟩ | ⟨hn, he⟩
  · rw [he] at h
    obtain ⟨b, hb, rfl⟩ := Outcome.add_eq_count h
    exact ⟨a, b, ha, hb, rfl⟩
  · rw [he] at h
    exact absurd h (hn n)

theorem follow_some {text : String} (h : target? text = some target) (settings : Settings)
    (visit : Path → Processor → Run) (enclosing : Path) (p : Processor) :
    let path := resolve settings enclosing target
    follow settings visit enclosing text p =
      ⟨.enter text enclosing path p :: (visit path p).events ++ [.leave],
        (visit path p).outcome.within text path, (visit path p).processor⟩ := by
  simp only [follow, h]

theorem follow_none {text : String} (h : target? text = none) (settings : Settings)
    (visit : Path → Processor → Run) (enclosing : Path) (p : Processor) :
    follow settings visit enclosing text p = fail p (.missingIncludePath text) := by
  simp only [follow, h]

theorem entered_follow {text : String} (h : target? text = some target) (settings : Settings)
    (visit : Path → Processor → Run) (enclosing : Path) (p : Processor) :
    let path := resolve settings enclosing target
    entered (follow settings visit enclosing text p).events =
      path :: entered (visit path p).events := by
  simp [follow_some h, entered]

/-- Lines of a file without its end. -/
def block (checks : Checks) (visit : Path → Processor → Run) (path : Path) :
    (number : Nat) → List String → Processor → Run
  | _, [], p => ⟨[], .count 0, p⟩
  | number, text :: rest, p =>
    (line checks visit path (number + 1) text true p).andThen
      (block checks visit path (number + 1) rest)

theorem lines_append (checks : Checks) (visit : Path → Processor → Run) (path : Path)
    (number : Nat) (texts more : List String) (p : Processor) :
    lines checks visit path number (texts ++ more) p =
      (block checks visit path number texts p).andThen
        (lines checks visit path (number + texts.length) more) := by
  induction texts generalizing number p with
  | nil =>
    rw [block, andThen_count rfl]
    simp [Outcome.add_zero]
  | cons text rest ih =>
    rw [List.cons_append, lines, block, andThen_assoc]
    congr 1
    funext q
    rw [ih, List.length_cons, Nat.add_assoc, Nat.add_comm 1]

/-- Whether the lines of a file are read depends on the file, and not on the processor. -/
theorem file_uniform (checks : Checks) (files : Files) (levels depth : Nat) (path : Path) :
    (∃ cause, ∀ p, file checks files (levels + 1) depth path p = fail p cause) ∨
    ∃ content, files path = .file content ∧
      ∀ p, file checks files (levels + 1) depth path p =
        (lines checks (file checks files levels (depth + 1)) path 0 (Text.fileLines content)
          p.suspend.2).resume p.suspend.1 := by
  simp only [file]
  split
  · exact .inl ⟨_, fun _ => rfl⟩
  · split
    · exact .inl ⟨_, fun _ => rfl⟩
    · exact .inl ⟨_, fun _ => rfl⟩
    · exact .inl ⟨_, fun _ => rfl⟩
    next content hc => exact .inr ⟨content, hc, fun _ => rfl⟩

theorem file_cases (checks : Checks) (files : Files) (levels depth : Nat) (path : Path)
    (p : Processor) :
    (∃ cause, file checks files (levels + 1) depth path p = fail p cause) ∨
    ∃ content, files path = .file content ∧
      file checks files (levels + 1) depth path p =
        (lines checks (file checks files levels (depth + 1)) path 0 (Text.fileLines content)
          p.suspend.2).resume p.suspend.1 := by
  rcases file_uniform checks files levels depth path with ⟨cause, h⟩ | ⟨content, hc, h⟩
  · exact .inl ⟨cause, h p⟩
  · exact .inr ⟨content, hc, h p⟩

theorem resume_events (r : Run) (s : Processor.Suspended) : (r.resume s).events = r.events := by
  unfold resume
  split <;> rfl

theorem resume_outcome (r : Run) (s : Processor.Suspended) : (r.resume s).outcome = r.outcome := by
  unfold resume
  split <;> rfl

theorem resume_count {r : Run} (h : r.outcome = .count n) (s : Processor.Suspended) :
    (r.resume s).processor = r.processor.resume s := by
  simp only [resume, h]

theorem resume_stop {r : Run} (h : ∀ n, r.outcome ≠ .count n) (s : Processor.Suspended) :
    r.resume s = r := by
  unfold resume
  split
  next n hn => exact absurd hn (h n)
  next => rfl

-- ---------------------------------------------------------------------------
-- Memory along a run
-- ---------------------------------------------------------------------------

theorem andThen_grows {p : Processor} {r : Run} {next : Processor → Run}
    (hr : p.Grows r.processor) (hn : ∀ q : Processor, q.Grows (next q).processor) :
    p.Grows (r.andThen next).processor := by
  rcases andThen_cases r next with ⟨n, -, he⟩ | ⟨-, he⟩
  · rw [he]
    exact hr.trans (hn r.processor)
  · rw [he]
    exact hr

def VisitGrows (visit : Path → Processor → Run) : Prop :=
  ∀ (path : Path) (p : Processor), p.Grows (visit path p).processor

theorem follow_grows (hv : VisitGrows visit) (settings : Settings)
    (enclosing : Path) (text : String) (p : Processor) :
    p.Grows (follow settings visit enclosing text p).processor := by
  cases ht : target? text with
  | none =>
    rw [follow_none ht]
    exact .refl p
  | some target =>
    rw [follow_some ht]
    exact hv _ p

theorem line_grows (hv : VisitGrows visit) (path : Path) (number : Nat)
    (text : String) (physical : Bool) (p : Processor) :
    p.Grows (line checks visit path number text physical p).processor := by
  have here : p.Grows (alone checks path number text physical p).processor :=
    p.step_grows checks text _
  rw [line_eq]
  split
  · exact andThen_grows here (follow_grows hv checks.settings path text)
  · exact here

theorem lines_grows (hv : VisitGrows visit) (path : Path) (number : Nat)
    (texts : List String) (p : Processor) :
    p.Grows (lines checks visit path number texts p).processor := by
  induction texts generalizing number p with
  | nil =>
    unfold lines
    split
    · exact .refl p
    · exact line_grows hv path number "" false p
  | cons text rest ih =>
    unfold lines
    exact andThen_grows (line_grows hv path _ text true p) (ih _)

theorem resume_grows {p : Processor} {r : Run} (h : p.Grows r.processor)
    (s : Processor.Suspended) : p.Grows (r.resume s).processor := by
  unfold resume
  split
  · exact h
  · exact h

theorem file_grows (checks : Checks) (files : Files) (levels depth : Nat) (path : Path)
    (p : Processor) : p.Grows (file checks files levels depth path p).processor := by
  induction levels generalizing depth path p with
  | zero => exact .refl p
  | succ levels ih =>
    rcases file_cases checks files levels depth path p with ⟨cause, he⟩ | ⟨content, -, he⟩
    · rw [he]
      exact .refl p
    · rw [he]
      have hv : VisitGrows (file checks files levels (depth + 1)) := ih (depth + 1)
      exact resume_grows (lines_grows hv path 0 (Text.fileLines content) p.suspend.2) _

-- ---------------------------------------------------------------------------
-- What a run counts
-- ---------------------------------------------------------------------------

def findings (events : List Event) : List Diagnostic := (records events).flatMap (·.diagnostics)

theorem findings_append (events more : List Event) :
    findings (events ++ more) = findings events ++ findings more := by
  simp [findings, records_append]

/-- A run that comes to its end has counted what was found. -/
def Counts (r : Run) : Prop := ∀ n, r.outcome = .count n → n = (findings r.events).length

theorem alone_counts (checks : Checks) (path : Path) (number : Nat) (text : String)
    (physical : Bool) (p : Processor) : Counts (alone checks path number text physical p) := by
  intro n h
  cases h
  simp [alone, findings, records]

theorem andThen_counts {r : Run} {next : Processor → Run} (hr : Counts r)
    (hn : ∀ q, Counts (next q)) : Counts (r.andThen next) := by
  intro n h
  obtain ⟨a, b, ha, hb, rfl⟩ := andThen_eq_count h
  rw [andThen_count ha, findings_append, List.length_append, ← hr a ha, ← hn _ b hb]

def VisitCounts (visit : Path → Processor → Run) : Prop := ∀ path p, Counts (visit path p)

theorem follow_counts (hv : VisitCounts visit) (settings : Settings) (enclosing : Path)
    (text : String) (p : Processor) : Counts (follow settings visit enclosing text p) := by
  intro n h
  cases ht : target? text with
  | none =>
    rw [follow_none ht] at h
    cases h
  | some target =>
    rw [follow_some ht] at h ⊢
    rw [hv _ p n (Outcome.within_eq_count.mp h)]
    simp [findings, records]

theorem line_counts (hv : VisitCounts visit) (path : Path) (number : Nat) (text : String)
    (physical : Bool) (p : Processor) :
    Counts (line checks visit path number text physical p) := by
  have here := alone_counts checks path number text physical p
  rw [line_eq]
  split
  · exact andThen_counts here (follow_counts hv checks.settings path text)
  · exact here

theorem lines_counts (hv : VisitCounts visit) (path : Path) (number : Nat) (texts : List String)
    (p : Processor) : Counts (lines checks visit path number texts p) := by
  induction texts generalizing number p with
  | nil =>
    unfold lines
    split
    · intro n h
      cases h
      rfl
    · exact line_counts hv path number "" false p
  | cons text rest ih =>
    unfold lines
    exact andThen_counts (line_counts hv path _ text true p) (ih _)

theorem file_counts (checks : Checks) (files : Files) (levels depth : Nat) :
    VisitCounts (file checks files levels depth) := by
  induction levels generalizing depth with
  | zero => exact fun path p n h => nomatch h
  | succ levels ih =>
    intro path p n h
    rcases file_cases checks files levels depth path p with ⟨cause, he⟩ | ⟨content, -, he⟩
    · rw [he] at h
      cases h
    · rw [he, resume_outcome] at h
      rw [he, resume_events]
      exact lines_counts (ih (depth + 1)) path 0 _ _ n h

end Run

end StanzaLint
