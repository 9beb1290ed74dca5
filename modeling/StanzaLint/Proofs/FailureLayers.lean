import StanzaLint.Proofs.Failures
import StanzaLint.Report

/-!
# The layers around a failure

A file is left only after the files that it includes, so the events of a run are
nested as the files are (`Nested`). What has been entered and not left at some event
is a chain of includes, each on a line of the file before it (`Amid`). The layers of a
failure are this chain at the time when it arose, whether the run failed (`file_nests`)
or its writer (`Stop.layers_failure`), and its root is the fault of the last file of the
chain (`file_faithful`).
-/

namespace StanzaLint

structure Run.IncludesOn (checks : Checks) (files : Files) (path : Path) (text : String) : Prop where
  line : ∃ content, files path = .file content ∧ text ∈ Text.fileLines content
  directive : Run.IsInclude checks text

structure Run.LeadsTo (checks : Checks) (files : Files) (path : Path) (text : String)
    (target : Path) : Prop where
  includes : IncludesOn checks files path text
  resolves : ∃ name, target? text = some name ∧ target = resolve checks.settings path name

/-- What the failure says of the file at `path`, at this depth, is true: it is its own fault, or
one of its lines includes the file whose failure is inside. -/
def Failure.Faithful (checks : Checks) (files : Files) : Failure → (depth : Nat) → Path → Prop
  | notFound file, _, path => file = path ∧ files path = .missing
  | unreadable file fault, _, path => file = path ∧
    (fault = .isDirectory ∧ files path = .directory ∨
      ∃ text, fault = .system text ∧ files path = .locked text)
  | missingIncludePath text, _, path =>
    Run.IncludesOn checks files path text ∧ Run.target? text = none
  | included text target cause, depth, path =>
    Run.LeadsTo checks files path text target ∧ cause.Faithful checks files (depth + 1) target
  | tooDeep file limit, depth, path =>
    file = path ∧ checks.settings.maxIncludeDepth = some limit ∧ limit < depth
  | unwritable _, _, _ => True
  | config _, _, _ => False

theorem Failure.Faithful.exitStatus {cause : Failure} (h : cause.Faithful checks files depth path) :
    cause.exitStatus = 4 ∧ cause.TooDeep ∨ cause.exitStatus = 1 ∧ ¬cause.TooDeep := by
  induction cause generalizing depth path with
  | included text target cause ih => exact ih h.2
  | tooDeep file limit => exact .inl ⟨rfl, file, limit, rfl⟩
  | config fault => cases h
  | _ =>
    refine .inr ⟨rfl, ?_⟩
    rintro ⟨target, limit, hroot⟩
    cases hroot

namespace Run

variable {checks : Checks} {files : Files} {visit : Path → Processor → Run}

theorem file_faithful (checks : Checks) (files : Files) (levels depth : Nat) (path : Path)
    (p : Processor) {cause : Failure}
    (h : (file checks files levels depth path p).outcome = .failure cause) :
    cause.Faithful checks files depth path := by
  induction levels generalizing depth path p cause with
  | zero => cases h
  | succ levels ih =>
    simp only [file] at h
    split at h
    next limit hguard =>
      cases h
      obtain ⟨hlimit, hdeep⟩ := Option.filter_eq_some_iff.mp hguard
      exact ⟨rfl, hlimit, of_decide_eq_true hdeep⟩
    · split at h
      next hfile =>
        cases h
        exact ⟨rfl, hfile⟩
      next hfile =>
        cases h
        exact ⟨rfl, .inl ⟨rfl, hfile⟩⟩
      next text hfile =>
        cases h
        exact ⟨rfl, .inr ⟨text, rfl, hfile⟩⟩
      next content hfile =>
        rw [resume_outcome] at h
        refine lines_outcome (P := fun o => ∀ cause, o = .failure cause →
          cause.Faithful checks files depth path) ?_ ?_ ?_ 0 _ cause h
        · intro n cause hc
          cases hc
        · intro text ht hinclude hnone cause hc
          cases hc
          exact ⟨⟨⟨content, hfile, ht⟩, hinclude⟩, hnone⟩
        · intro text ht hinclude name hname q target cause hc
          obtain ⟨inner, hinner, rfl⟩ := Outcome.within_eq_failure hc
          exact ⟨⟨⟨⟨content, hfile, ht⟩, hinclude⟩, name, hname, rfl⟩, ih _ _ _ hinner⟩

-- ---------------------------------------------------------------------------
-- Events are nested
-- ---------------------------------------------------------------------------

/-- What happens in a file: lines, and includes with all that happens inside of them. -/
inductive Nested (checks : Checks) (files : Files) : Path → List Event → Prop
  | nil : Nested checks files path []
  | before : Nested checks files path rest → Nested checks files path (.before p :: rest)
  | line : Nested checks files path rest → Nested checks files path (.line record p :: rest)
  | enter {p : Processor} {path target : Path} {text : String} {inner rest : List Event} :
    p.current = some .includeFile → LeadsTo checks files path text target →
    Nested checks files target inner → Nested checks files path rest →
    Nested checks files path (.enter text path target p :: (inner ++ .leave :: rest))

/-- The includes that have been entered and not left, innermost first. -/
def active (events : List Event) : List (String × Path) := events.foldl Event.layers []

namespace Nested

variable {events : List Event} {path : Path}

theorem append (h : Nested checks files path events) (hm : Nested checks files path more) :
    Nested checks files path (events ++ more) := by
  induction h with
  | nil => exact hm
  | before _ ih => exact .before (ih hm)
  | line _ ih => exact .line (ih hm)
  | enter hdirective hlead hinner _ _ ih =>
    rw [List.cons_append, List.append_assoc, List.cons_append]
    exact .enter hdirective hlead hinner (ih hm)

theorem balanced (h : Nested checks files path events) (start : List (String × Path)) :
    events.foldl Event.layers start = start := by
  induction h generalizing start with
  | nil => rfl
  | before _ ih => exact ih start
  | line _ ih => exact ih start
  | enter _ _ _ _ ihinner ihrest =>
    rw [List.foldl_cons, List.foldl_append, ihinner, List.foldl_cons]
    exact ihrest start

theorem directive (h : Nested checks files path events)
    (he : .enter text enclosing target p ∈ events) : p.current = some .includeFile := by
  induction h with
  | nil => cases he
  | before _ ih =>
    cases he with
    | tail _ he => exact ih he
  | line _ ih =>
    cases he with
    | tail _ he => exact ih he
  | enter hdirective _ _ _ ihinner ihrest =>
    cases he with
    | head => exact hdirective
    | tail _ he =>
      rcases List.mem_append.mp he with he | he
      · exact ihinner he
      · cases he with
        | tail _ he => exact ihrest he

end Nested

/-- What has happened in a file up to some event. The layers are the includes that have been entered
and not finished, outermost first; each is on a line of the file before it, and all other includes
there are finished. -/
inductive Amid (checks : Checks) (files : Files) : Path → List Event → List (String × Path) → Prop
  | here : Nested checks files path happened → Amid checks files path happened []
  | inside {p : Processor} {path target : Path} {text : String} {happened later : List Event}
    {layers : List (String × Path)} :
    Nested checks files path happened → LeadsTo checks files path text target →
    Amid checks files target later layers →
    Amid checks files path (happened ++ .enter text path target p :: later)
      ((text, target) :: layers)

namespace Amid

variable {events happened : List Event} {layers : List (String × Path)} {path : Path}

theorem foldl_layers (h : Amid checks files path happened layers) (start : List (String × Path)) :
    happened.foldl Event.layers start = layers.reverse ++ start := by
  induction h generalizing start with
  | here hn => exact hn.balanced start
  | inside hn _ _ ih =>
    rw [List.foldl_append, hn.balanced, List.foldl_cons, List.reverse_cons, List.append_assoc]
    exact ih _

theorem faithful (h : Amid checks files path happened layers) (depth : Nat) (fault : WriteFault) :
    (Failure.around layers (.unwritable fault)).Faithful checks files depth path := by
  induction h generalizing depth with
  | here _ => trivial
  | inside _ hlead _ ih => exact ⟨hlead, ih (depth + 1)⟩

theorem prepend (hn : Nested checks files path events) (h : Amid checks files path happened layers) :
    Amid checks files path (events ++ happened) layers := by
  cases h with
  | here hh => exact .here (hn.append hh)
  | inside hh hlead hlater =>
    rw [← List.append_assoc]
    exact .inside (hn.append hh) hlead hlater

end Amid

/-- At every event, what has been entered and not finished is a chain of includes. -/
theorem Nested.amid {events : List Event} {path : Path} (h : Nested checks files path events)
    (hp : happened <+: events) : ∃ layers, Amid checks files path happened layers := by
  induction h generalizing happened with
  | nil =>
    rw [List.prefix_nil.mp hp]
    exact ⟨[], .here .nil⟩
  | before _ ih =>
    rcases List.prefix_cons_iff.mp hp with rfl | ⟨later, rfl, hlater⟩
    · exact ⟨[], .here .nil⟩
    · obtain ⟨layers, hlayers⟩ := ih hlater
      exact ⟨layers, hlayers.prepend (.before .nil)⟩
  | line _ ih =>
    rcases List.prefix_cons_iff.mp hp with rfl | ⟨later, rfl, hlater⟩
    · exact ⟨[], .here .nil⟩
    · obtain ⟨layers, hlayers⟩ := ih hlater
      exact ⟨layers, hlayers.prepend (.line .nil)⟩
  | @enter p path target text inner rest hdirective hlead hinner _ ihinner ihrest =>
    rcases List.prefix_cons_iff.mp hp with rfl | ⟨later, rfl, hlater⟩
    · exact ⟨[], .here .nil⟩
    · rcases List.prefix_or_prefix_of_prefix hlater (List.prefix_append inner _) with
        hinside | ⟨behind, rfl⟩
      · -- the include is not finished
        obtain ⟨layers, hlayers⟩ := ihinner hinside
        exact ⟨(text, target) :: layers, .inside .nil hlead hlayers⟩
      · rcases List.prefix_cons_iff.mp ((List.prefix_append_right_inj inner).mp hlater) with
          rfl | ⟨after, rfl, hafter⟩
        · rw [List.append_nil]
          exact ⟨[(text, target)], .inside .nil hlead (.here hinner)⟩
        · obtain ⟨layers, hlayers⟩ := ihrest hafter
          have hfinished : Nested checks files path
              (.enter text path target p :: (inner ++ [.leave])) :=
            .enter hdirective hlead hinner .nil
          refine ⟨layers, ?_⟩
          rw [List.append_cons, ← List.cons_append]
          exact hlayers.prepend hfinished

-- ---------------------------------------------------------------------------
-- Runs that fail
-- ---------------------------------------------------------------------------

/-- The events of the run are nested. If it fails, all that happens afterwards is that the files
around the failure are left. -/
structure Nests (checks : Checks) (files : Files) (path : Path) (r : Run) : Prop where
  nested : Nested checks files path r.events
  failure : r.outcome = .failure cause → ∃ happened,
    r.events = happened ++ List.replicate cause.layers.length .leave ∧
      ∀ start, happened.foldl Event.layers start = cause.layers.reverse ++ start

theorem fail_nests (checks : Checks) (files : Files) (path : Path) (p : Processor) {cause : Failure}
    (h : cause.layers = []) : Nests checks files path (fail p cause) := by
  refine ⟨.nil, fun {other} ho => ⟨[], ?_, fun start => ?_⟩⟩
  · cases ho
    rw [h]
    rfl
  · cases ho
    rw [h]
    rfl

theorem alone_nests (checks : Checks) (files : Files) (path : Path) (number : Nat) (text : String)
    (physical : Bool) (p : Processor) :
    Nests checks files path (alone checks path number text physical p) :=
  ⟨.before (.line .nil), Outcome.noConfusion⟩

theorem andThen_nests {path : Path} {r : Run} {next : Processor → Run}
    (hr : Nests checks files path r) (hn : Nests checks files path (next r.processor)) :
    Nests checks files path (r.andThen next) := by
  rcases andThen_cases r next with ⟨n, -, he⟩ | ⟨-, he⟩
  · rw [he]
    refine ⟨hr.nested.append hn.nested, fun {cause} h => ?_⟩
    obtain ⟨happened, hevents, hlayers⟩ := hn.failure (Outcome.add_eq_failure.mp h)
    refine ⟨r.events ++ happened, ?_, fun start => ?_⟩
    · rw [hevents, List.append_assoc]
    · rw [List.foldl_append, hr.nested.balanced, hlayers]
  · rw [he]
    exact hr

def VisitNests (checks : Checks) (files : Files) (visit : Path → Processor → Run) : Prop :=
  ∀ path p, Nests checks files path (visit path p)

theorem follow_nests (hv : VisitNests checks files visit) {path : Path} {text : String}
    (hincludes : IncludesOn checks files path text) {p : Processor}
    (hp : p.current = some .includeFile) :
    Nests checks files path (follow checks.settings visit path text p) := by
  cases ht : target? text with
  | none =>
    rw [follow_none ht]
    exact fail_nests checks files path p rfl
  | some name =>
    have hlead : LeadsTo checks files path text (resolve checks.settings path name) :=
      ⟨hincludes, name, ht, rfl⟩
    rw [follow_some ht]
    generalize resolve checks.settings path name = target at hlead
    refine ⟨.enter hp hlead (hv target p).nested .nil, fun {cause} h => ?_⟩
    obtain ⟨inner, hinner, rfl⟩ := Outcome.within_eq_failure h
    obtain ⟨happened, hevents, hlayers⟩ := (hv target p).failure hinner
    refine ⟨.enter text path target p :: happened, ?_, fun start => ?_⟩
    · rw [hevents, Failure.layers, List.length_cons, List.replicate_succ', List.cons_append,
        List.cons_append, List.append_assoc]
    · rw [List.foldl_cons, hlayers, Failure.layers, List.reverse_cons, List.append_assoc]
      rfl

theorem line_nests (hv : VisitNests checks files visit) {path : Path} {text : String}
    (hincludes : IsInclude checks text → IncludesOn checks files path text) (number : Nat)
    (physical : Bool) (p : Processor) :
    Nests checks files path (line checks visit path number text physical p) := by
  have here := alone_nests checks files path number text physical p
  rw [line_eq]
  split
  next hfollows =>
    refine andThen_nests here (follow_nests hv (hincludes ?_) hfollows.2)
    exact ⟨p, location path number, hfollows.2⟩
  next => exact here

theorem lines_nests (hv : VisitNests checks files visit) {path : Path} {texts : List String}
    (hincludes : ∀ text ∈ texts, IsInclude checks text → IncludesOn checks files path text)
    (number : Nat) (p : Processor) :
    Nests checks files path (lines checks visit path number texts p) := by
  induction texts generalizing number p with
  | nil =>
    unfold lines
    split
    · exact ⟨.nil, Outcome.noConfusion⟩
    · exact line_nests hv (fun h => absurd h (not_isInclude_nil checks)) number false p
  | cons text rest ih =>
    rw [List.forall_mem_cons] at hincludes
    unfold lines
    exact andThen_nests (line_nests hv hincludes.1 _ true p) (ih hincludes.2 _ _)

theorem file_nests (checks : Checks) (files : Files) (levels depth : Nat) :
    VisitNests checks files (file checks files levels depth) := by
  induction levels generalizing depth with
  | zero => exact fun path p => ⟨.nil, Outcome.noConfusion⟩
  | succ levels ih =>
    intro path p
    simp only [file]
    split
    · exact fail_nests checks files path p rfl
    · split
      · exact fail_nests checks files path p rfl
      · exact fail_nests checks files path p rfl
      · exact fail_nests checks files path p rfl
      next content hfile =>
        have hincludes : ∀ text ∈ Text.fileLines content,
            IsInclude checks text → IncludesOn checks files path text :=
          fun text ht hinclude => ⟨⟨content, hfile, ht⟩, hinclude⟩
        have hlines := lines_nests (ih (depth + 1)) hincludes 0 p.suspend.2
        exact ⟨by rw [resume_events]; exact hlines.nested,
          fun h => by rw [resume_events]; exact hlines.failure (by rwa [resume_outcome] at h)⟩

end Run

-- ---------------------------------------------------------------------------
-- Writers that fail
-- ---------------------------------------------------------------------------

theorem Stop.failure_eq (stop : Stop) :
    stop.failure = .around stop.layers.reverse (.unwritable stop.fault) := by
  rw [failure, Failure.around, List.foldr_reverse]

theorem Stop.root_failure (stop : Stop) : stop.failure.root = .unwritable stop.fault := by
  rw [failure_eq, Failure.root_around]
  rfl

theorem Stop.layers_failure (stop : Stop) : stop.failure.layers = stop.layers.reverse := by
  rw [failure_eq, Failure.layers_around]
  exact List.append_nil _

end StanzaLint
