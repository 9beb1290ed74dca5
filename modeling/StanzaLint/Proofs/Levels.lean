import StanzaLint.Proofs.Failures
import StanzaLint.Proofs.OptionalChecks
import StanzaLint.Proofs.Replay

/-!
# Depth and levels

How deep a run follows includes is bounded twice: by the limit of the settings, at
which it fails, and by the levels that it has, at whose end it counts as endless. A
run with more of both goes the same way, unless the first one was cut short by its
own bound (`file_deeper`); then the other one shows at least as much. With a limit
the levels never run out, and the limit is exceeded at one depth only
(`file_guarded`), where nothing is looked up any more (`fileByDepth_congr`).
-/

namespace StanzaLint

def Settings.limited (settings : Settings) (limit : Option Nat) : Settings :=
  { settings with maxIncludeDepth := limit }

def Outcome.OutOfDepth (o : Outcome) : Prop := o = .endless ∨ o.TooDeep

namespace Outcome

variable {o : Outcome}

theorem OutOfDepth.ne_count (h : o.OutOfDepth) (n : Nat) : o ≠ .count n := by
  rintro rfl
  rcases h with h | h <;> cases h

theorem OutOfDepth.within (h : o.OutOfDepth) (text : String) (path : Path) :
    (o.within text path).OutOfDepth := by
  rcases h with rfl | h
  · exact .inl rfl
  · exact .inr (tooDeep_within.mpr h)

theorem OutOfDepth.add (h : o.OutOfDepth) (n : Nat) : (o.add n).OutOfDepth := by
  cases o with
  | count m => exact absurd rfl (h.ne_count m)
  | failure cause => exact h
  | endless => exact h

end Outcome

namespace Run

variable {checks : Checks} {visit away : Path → Processor → Run}

-- ---------------------------------------------------------------------------
-- Lines do not read the limit
-- ---------------------------------------------------------------------------

section
variable (settings : Settings) (titles : TitleLookup) (a b : Option Nat)

theorem alone_limited (path : Path) (number : Nat) (text : String) (physical : Bool)
    (p : Processor) :
    alone ⟨settings.limited a, titles⟩ path number text physical p =
      alone ⟨settings.limited b, titles⟩ path number text physical p := by
  have hstep : p.step ⟨settings.limited a, titles⟩ text (location path number) =
      p.step ⟨settings.limited b, titles⟩ text (location path number) :=
    p.step_congr titles (fun w => by cases w <;> rfl) text _
  simp only [alone, hstep]

theorem line_limited (visit : Path → Processor → Run) (path : Path) (number : Nat) (text : String)
    (physical : Bool) (p : Processor) :
    line ⟨settings.limited a, titles⟩ visit path number text physical p =
      line ⟨settings.limited b, titles⟩ visit path number text physical p := by
  rw [line_eq, line_eq, alone_limited settings titles a b]
  rfl

theorem lines_limited :
    lines ⟨settings.limited a, titles⟩ = lines ⟨settings.limited b, titles⟩ := by
  funext visit path number texts p
  induction texts generalizing number p with
  | nil => simp only [lines, line_limited settings titles a b]
  | cons text rest ih =>
    simp only [lines, line_limited settings titles a b]
    congr 1
    funext q
    exact ih _ q

end

-- ---------------------------------------------------------------------------
-- Runs that differ where the first one stops
-- ---------------------------------------------------------------------------

/-- What may become of a run that stops, in another run over the same lines. It has to stay so
whatever happened before, goes on in the other run, or stands around the two. -/
structure Escape (E : Run → Run → Prop) : Prop where
  stops : E r s → ∀ n, r.outcome ≠ .count n
  before : E r s → ∀ events n, E ⟨events ++ r.events, r.outcome.add n, r.processor⟩
    ⟨events ++ s.events, s.outcome.add n, s.processor⟩
  behind : E r s → ∀ more, E r (s.andThen more)
  around : E r s → ∀ text enclosing path p,
    E ⟨.enter text enclosing path p :: r.events ++ [.leave], r.outcome.within text path, r.processor⟩
      ⟨.enter text enclosing path p :: s.events ++ [.leave], s.outcome.within text path, s.processor⟩
  resumed : E r s → ∀ file, E r (s.resume file)

/-- The runs are the same, unless the first one stops in the way that is let pass. -/
def Unless (E : Run → Run → Prop) (r s : Run) : Prop := r = s ∨ E r s

section
variable {E : Run → Run → Prop} (hE : Escape E)
include hE

theorem andThen_unless {r s : Run} {next more : Processor → Run} (h : Unless E r s)
    (hn : ∀ q, Unless E (next q) (more q)) : Unless E (r.andThen next) (s.andThen more) := by
  rcases h with rfl | h
  · rcases andThen_cases r next with ⟨n, hc, he⟩ | ⟨hstop, he⟩
    · rw [he, andThen_count hc]
      rcases hn r.processor with heq | hescape
      · rw [heq]
        exact .inl rfl
      · exact .inr (hE.before hescape r.events n)
    · rw [he, andThen_stop hstop]
      exact .inl rfl
  · rw [andThen_stop (hE.stops h)]
    exact .inr (hE.behind h more)

/-- Whatever file is visited, the runs are the same unless the first one stops. -/
def VisitUnless (E : Run → Run → Prop) (visit away : Path → Processor → Run) : Prop :=
  ∀ path p, Unless E (visit path p) (away path p)

theorem follow_unless (hv : VisitUnless E visit away) (settings : Settings) (enclosing : Path)
    (text : String) (p : Processor) :
    Unless E (follow settings visit enclosing text p) (follow settings away enclosing text p) := by
  cases ht : target? text with
  | none =>
    rw [follow_none ht, follow_none ht]
    exact .inl rfl
  | some target =>
    rw [follow_some ht, follow_some ht]
    generalize resolve settings enclosing target = path
    rcases hv path p with heq | hescape
    · rw [heq]
      exact .inl rfl
    · exact .inr (hE.around hescape text enclosing path p)

theorem line_unless (hv : VisitUnless E visit away) (path : Path) (number : Nat) (text : String)
    (physical : Bool) (p : Processor) :
    Unless E (line checks visit path number text physical p)
      (line checks away path number text physical p) := by
  rw [line_eq, line_eq]
  split
  · exact andThen_unless hE (.inl rfl) (follow_unless hE hv checks.settings path text)
  · exact .inl rfl

theorem lines_unless (hv : VisitUnless E visit away) (path : Path) (number : Nat)
    (texts : List String) (p : Processor) :
    Unless E (lines checks visit path number texts p) (lines checks away path number texts p) := by
  induction texts generalizing number p with
  | nil =>
    unfold lines
    split
    · exact .inl rfl
    · exact line_unless hE hv path number "" false p
  | cons text rest ih =>
    unfold lines
    exact andThen_unless hE (line_unless hE hv path _ text true p) (ih _)

theorem resume_unless {r s : Run} (h : Unless E r s) (file : Processor.Suspended) :
    Unless E (r.resume file) (s.resume file) := by
  rcases h with rfl | h
  · exact .inl rfl
  · rw [resume_stop (hE.stops h)]
    exact .inr (hE.resumed h file)

end

-- ---------------------------------------------------------------------------
-- Runs that are cut short
-- ---------------------------------------------------------------------------

/-- A run that did not get deep enough, and another one that shows at least as much: files are
left, but nothing else happens behind the point where the first one gave up. -/
structure Cut (r s : Run) : Prop where
  outcome : r.outcome.OutOfDepth
  events : ∃ shown n, r.events = shown ++ List.replicate n .leave ∧ shown <+: s.events

theorem Cut.of_nothing {r : Run} (h : r.outcome.OutOfDepth) (he : r.events = []) (s : Run) :
    Cut r s := ⟨h, [], 0, he, List.nil_prefix⟩

theorem events_prefix_andThen (r : Run) (next : Processor → Run) :
    r.events <+: (r.andThen next).events := by
  rcases andThen_cases r next with ⟨n, -, he⟩ | ⟨-, he⟩
  · rw [he]
    exact List.prefix_append _ _
  · exact ⟨[], by rw [he, List.append_nil]⟩

theorem cut_escape : Escape Cut where
  stops h := h.outcome.ne_count
  before h events n := by
    obtain ⟨hout, shown, k, hr, hs⟩ := h
    refine ⟨hout.add n, events ++ shown, k, ?_, (List.prefix_append_right_inj _).mpr hs⟩
    rw [hr, List.append_assoc]
  behind h more := by
    obtain ⟨hout, shown, k, hr, hs⟩ := h
    exact ⟨hout, shown, k, hr, hs.trans (events_prefix_andThen _ more)⟩
  around h text enclosing path p := by
    obtain ⟨hout, shown, k, hr, hs⟩ := h
    refine ⟨hout.within text path, .enter text enclosing path p :: shown, k + 1, ?_, ?_⟩
    · rw [hr, List.replicate_succ', List.cons_append, List.cons_append, List.append_assoc]
    · rw [List.cons_append]
      exact (List.prefix_cons_inj _).mpr (hs.trans (List.prefix_append _ _))
  resumed h file := by
    obtain ⟨hout, shown, k, hr, hs⟩ := h
    exact ⟨hout, shown, k, hr, by rwa [resume_events]⟩

/-- A file `more` includes below one at `depth` is read. -/
structure Open (limit : Option Nat) (levels depth more : Nat) : Prop where
  level : more < levels
  allowed : ∀ m ∈ limit, depth + more ≤ m

section
variable {limit : Option Nat} {levels depth more : Nat}

theorem open_succ :
    Open limit (levels + 1) depth (more + 1) ↔ Open limit levels (depth + 1) more := by
  have hsum : depth + (more + 1) = depth + 1 + more := by omega
  constructor
  · rintro ⟨hlevel, hallowed⟩
    exact ⟨Nat.lt_of_succ_lt_succ hlevel, hsum ▸ hallowed⟩
  · rintro ⟨hlevel, hallowed⟩
    exact ⟨Nat.succ_lt_succ hlevel, hsum ▸ hallowed⟩

theorem open_none : Open none levels depth more ↔ more < levels :=
  ⟨Open.level, fun h => ⟨h, fun m hm => absurd hm (Option.not_mem_none m)⟩⟩

theorem filter_eq_none : limit.filter (· < depth) = none ↔ ∀ m ∈ limit, depth ≤ m := by
  simp [Option.filter_eq_none_iff]

end

theorem file_closed (settings : Settings) (titles : TitleLookup) (files : Files)
    {limit : Option Nat} (h : ¬Open limit levels depth 0) (path : Path) (p : Processor) :
    let r := file ⟨settings.limited limit, titles⟩ files levels depth path p
    r.outcome.OutOfDepth ∧ r.events = [] := by
  cases levels with
  | zero => exact ⟨.inl rfl, rfl⟩
  | succ levels =>
    cases hf : limit.filter (· < depth) with
    | none => exact absurd ⟨Nat.succ_pos levels, filter_eq_none.mp hf⟩ h
    | some m =>
      simp only [file, Settings.limited, hf]
      exact ⟨.inr ⟨path, m, rfl⟩, rfl⟩

/-- With more levels, and a limit that is not lower, a run goes the same way unless it was cut
short. -/
theorem file_deeper (settings : Settings) (titles : TitleLookup) (files : Files)
    {limit higher : Option Nat}
    (h : ∀ more, Open limit levels depth more → Open higher levels' depth more) :
    VisitUnless Cut (file ⟨settings.limited limit, titles⟩ files levels depth)
      (file ⟨settings.limited higher, titles⟩ files levels' depth) := by
  intro path p
  induction levels generalizing levels' depth path p with
  | zero => exact .inr (.of_nothing (.inl rfl) rfl _)
  | succ levels ih =>
    by_cases ho : Open limit (levels + 1) depth 0
    · have ho' := h 0 ho
      obtain ⟨levels', rfl⟩ := Nat.exists_eq_add_one_of_ne_zero (Nat.ne_of_gt ho'.level)
      have hopen : ∀ more, Open limit levels (depth + 1) more →
          Open higher levels' (depth + 1) more :=
        fun more hm => open_succ.mp (h (more + 1) (open_succ.mpr hm))
      have hlimit : (settings.limited limit).maxIncludeDepth.filter (· < depth) = none :=
        filter_eq_none.mpr ho.allowed
      have hhigher : (settings.limited higher).maxIncludeDepth.filter (· < depth) = none :=
        filter_eq_none.mpr ho'.allowed
      simp only [file, hlimit, hhigher, lines_limited settings titles limit higher]
      cases files path with
      | missing => exact .inl rfl
      | directory => exact .inl rfl
      | locked text => exact .inl rfl
      | file content =>
        exact resume_unless cut_escape (lines_unless cut_escape (ih hopen) path 0 _ _) _
    · obtain ⟨hout, hevents⟩ := file_closed settings titles files ho path p
      exact .inr (.of_nothing hout hevents _)

-- ---------------------------------------------------------------------------
-- How a run with a limit ends
-- ---------------------------------------------------------------------------

/-- The end of a run at `depth` that may go down to `limit`: it is one, and if the limit was
exceeded, then just below the last file that may be read. -/
structure Guarded (limit depth : Nat) (o : Outcome) : Prop where
  ends : o ≠ .endless
  tooDeep : o = .failure cause → cause.root = .tooDeep target bound →
    bound = limit ∧ depth + cause.layers.length = limit + 1

theorem Guarded.result {o : Outcome} (h : Guarded limit depth o) :
    (∃ n, o = .count n) ∨ ∃ cause, o = .failure cause := by
  cases o with
  | count n => exact .inl ⟨n, rfl⟩
  | failure cause => exact .inr ⟨cause, rfl⟩
  | endless => exact absurd rfl h.ends

theorem guarded_count (limit depth n : Nat) : Guarded limit depth (.count n) :=
  ⟨Outcome.noConfusion, Outcome.noConfusion⟩

theorem not_tooDeep_root {cause : Failure}
    (h : ∀ target bound, cause.root ≠ .tooDeep target bound) : ¬(Outcome.failure cause).TooDeep := by
  rintro ⟨target, bound, hroot⟩
  exact h target bound hroot

theorem Guarded.of_root {cause : Failure} (h : ∀ target bound, cause.root ≠ .tooDeep target bound)
    (limit depth : Nat) : Guarded limit depth (.failure cause) := by
  refine ⟨Outcome.noConfusion, fun {_ target bound} hcause hroot => ?_⟩
  cases hcause
  exact absurd hroot (h target bound)

/-- Around an included file the failure has one layer more, and the depth is one less. -/
theorem Guarded.within {o : Outcome} (h : Guarded limit (depth + 1) o) (text : String)
    (path : Path) : Guarded limit depth (o.within text path) := by
  cases o with
  | count n => exact guarded_count limit depth n
  | failure cause =>
    refine ⟨Outcome.noConfusion, fun {_ target bound} hcause hroot => ?_⟩
    cases hcause
    obtain ⟨hbound, hdepth⟩ := h.tooDeep rfl hroot
    refine ⟨hbound, ?_⟩
    rw [Failure.layers, List.length_cons]
    omega
  | endless => exact absurd rfl h.ends

theorem file_guarded (settings : Settings) (titles : TitleLookup) (files : Files)
    (hdepth : depth ≤ limit + 1) (hlevels : limit + 1 < depth + levels) (path : Path)
    (p : Processor) :
    Guarded limit depth
      (file ⟨settings.limited (some limit), titles⟩ files levels depth path p).outcome := by
  induction levels generalizing depth path p with
  | zero => omega
  | succ levels ih =>
    by_cases hd : depth ≤ limit
    · have hguard : (settings.limited (some limit)).maxIncludeDepth.filter (· < depth) = none :=
        filter_eq_none.mpr fun m hm => by cases hm; exact hd
      simp only [file, hguard]
      cases files path with
      | missing => exact .of_root (fun _ _ => Failure.noConfusion) _ _
      | directory => exact .of_root (fun _ _ => Failure.noConfusion) _ _
      | locked text => exact .of_root (fun _ _ => Failure.noConfusion) _ _
      | file content =>
        rw [resume_outcome]
        apply lines_outcome (guarded_count limit depth)
        · intro text _ _ _
          exact .of_root (fun _ _ => Failure.noConfusion) _ _
        · intro text _ _ name _ q
          exact (ih (by omega) (by omega) _ q).within text _
    · have hguard : (settings.limited (some limit)).maxIncludeDepth.filter (· < depth) =
          some limit := by
        simp [Settings.limited, Option.filter, Nat.lt_of_not_le hd]
      simp only [file, hguard]
      refine ⟨Outcome.noConfusion, fun hcause hroot => ?_⟩
      cases hcause
      cases hroot
      exact ⟨rfl, by simp only [Failure.layers, List.length_nil]; omega⟩

theorem ofFile_guarded (settings : Settings) (titles : TitleLookup) (files : Files) (path : Path)
    (m : Nat) (p : Processor) :
    Guarded m 0 (ofFile ⟨settings.limited (some m), titles⟩ files path p).outcome := by
  have hlevels : m + 1 < 0 + (m + 2) := by omega
  exact file_guarded settings titles files (Nat.zero_le _) hlevels path p

theorem file_unlimited (settings : Settings) (titles : TitleLookup) (files : Files)
    (levels depth : Nat) (path : Path) (p : Processor) :
    ¬(file ⟨settings.limited none, titles⟩ files levels depth path p).outcome.TooDeep := by
  induction levels generalizing depth path p with
  | zero => exact id
  | succ levels ih =>
    simp only [file, show (settings.limited none).maxIncludeDepth.filter (· < depth) = none from rfl]
    cases files path with
    | missing => exact not_tooDeep_root fun _ _ => Failure.noConfusion
    | directory => exact not_tooDeep_root fun _ _ => Failure.noConfusion
    | locked text => exact not_tooDeep_root fun _ _ => Failure.noConfusion
    | file content =>
      rw [resume_outcome]
      apply lines_outcome (P := fun o => ¬o.TooDeep)
      · exact fun n => id
      · intro text _ _ _
        exact not_tooDeep_root fun _ _ => Failure.noConfusion
      · intro text _ _ name _ q
        exact mt Outcome.tooDeep_within.mp (ih (depth + 1) _ q)

-- ---------------------------------------------------------------------------
-- What is looked up
-- ---------------------------------------------------------------------------

/-- Reads a file as `file` does, where what a path leads to may depend on the depth at which it is
looked up. -/
def fileByDepth (checks : Checks) (files : Nat → Files) :
    (levels depth : Nat) → Path → Processor → Run
  | 0, _, _, p => ⟨[], .endless, p⟩
  | levels + 1, depth, path, p =>
    match checks.settings.maxIncludeDepth.filter (· < depth) with
    | some limit => fail p (.tooDeep path limit)
    | none => match files depth path with
      | .missing => fail p (.notFound path)
      | .directory => fail p (.unreadable path .isDirectory)
      | .locked text => fail p (.unreadable path (.system text))
      | .file content =>
        (lines checks (fileByDepth checks files levels (depth + 1)) path 0 (Text.fileLines content)
          p.suspend.2).resume p.suspend.1

theorem file_eq_fileByDepth (checks : Checks) (files : Files) (levels depth : Nat) :
    file checks files levels depth = fileByDepth checks (fun _ => files) levels depth := by
  induction levels generalizing depth with
  | zero => rfl
  | succ levels ih =>
    funext path p
    simp only [file, ih]
    rfl

theorem fileByDepth_congr (settings : Settings) (titles : TitleLookup) {files others : Nat → Files}
    (h : ∀ depth ≤ limit, files depth = others depth) (levels depth : Nat) :
    fileByDepth ⟨settings.limited (some limit), titles⟩ files levels depth =
      fileByDepth ⟨settings.limited (some limit), titles⟩ others levels depth := by
  induction levels generalizing depth with
  | zero => rfl
  | succ levels ih =>
    funext path p
    simp only [fileByDepth, ih]
    split
    · rfl
    next hguard =>
      rw [h depth (filter_eq_none.mp hguard limit rfl)]

end Run

end StanzaLint
