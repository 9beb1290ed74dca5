import StanzaLint.Proofs.Runs

/-!
# The shape of failures

A failure is a root with one layer around it for every include that was being
followed. The status of the program depends on the root alone. How a run ends is
decided by the lines that it reads until it stops: what holds of every count, of an
include that names no file and of every file that is included holds of the end of
the whole run (`lines_outcome`).
-/

namespace StanzaLint

namespace Failure

/-- The include lines around a failure, and the files that they resolved to, outermost first. -/
def layers : Failure → List (String × Path)
  | included line path cause => (line, path) :: cause.layers
  | _ => []

def root : Failure → Failure
  | included _ _ cause => cause.root
  | cause => cause

def around (layers : List (String × Path)) (cause : Failure) : Failure :=
  layers.foldr (fun layer cause => .included layer.1 layer.2 cause) cause

theorem around_layers (cause : Failure) : around cause.layers cause.root = cause := by
  induction cause with
  | included line path cause ih => exact congrArg (included line path) ih
  | _ => rfl

theorem root_ne_included (cause : Failure) (line : String) (path : Path) (inner : Failure) :
    cause.root ≠ .included line path inner := by
  induction cause with
  | included line path cause ih => exact ih
  | _ => exact Failure.noConfusion

theorem exitStatus_root (cause : Failure) : cause.root.exitStatus = cause.exitStatus := by
  induction cause with
  | included line path cause ih => exact ih
  | _ => rfl

theorem layers_around (layers : List (String × Path)) (cause : Failure) :
    (around layers cause).layers = layers ++ cause.layers := by
  induction layers with
  | nil => rfl
  | cons layer rest ih => exact congrArg (layer :: ·) ih

theorem root_around (layers : List (String × Path)) (cause : Failure) :
    (around layers cause).root = cause.root := by
  induction layers with
  | nil => rfl
  | cons layer rest ih => exact ih

/-- Files include each other deeper than the limit. -/
def TooDeep (cause : Failure) : Prop := ∃ path limit, cause.root = .tooDeep path limit

end Failure

namespace Outcome

/-- The run failed because files include each other deeper than the limit. -/
def TooDeep : Outcome → Prop
  | failure cause => cause.TooDeep
  | _ => False

theorem tooDeep_within {o : Outcome} {text : String} {path : Path} :
    (o.within text path).TooDeep ↔ o.TooDeep := by
  cases o <;> rfl

theorem add_eq_count_iff {o : Outcome} : o.add n = .count m ↔ ∃ k, o = .count k ∧ m = n + k := by
  constructor
  · exact add_eq_count
  · rintro ⟨k, rfl, rfl⟩
    rfl

theorem add_eq_failure {o : Outcome} : o.add n = .failure cause ↔ o = .failure cause := by
  cases o <;> simp [add]

theorem add_eq_endless {o : Outcome} : o.add n = .endless ↔ o = .endless := by
  cases o <;> simp [add]

theorem within_eq_failure {o : Outcome} {text : String} {path : Path}
    (h : o.within text path = .failure cause) :
    ∃ inner, o = .failure inner ∧ cause = .included text path inner := by
  cases o with
  | count n => cases h
  | failure inner =>
    cases h
    exact ⟨inner, rfl, rfl⟩
  | endless => cases h

end Outcome

namespace Run

variable {checks : Checks} {visit : Path → Processor → Run} {P : Outcome → Prop}

theorem add_outcome (hcount : ∀ n, P (.count n)) {o : Outcome} (h : P o) (n : Nat) :
    P (o.add n) := by
  cases o with
  | count m => exact hcount _
  | failure cause => exact h
  | endless => exact h

theorem andThen_outcome (hcount : ∀ n, P (.count n)) {r : Run} {next : Processor → Run}
    (hr : P r.outcome) (hn : ∀ q, P (next q).outcome) : P (r.andThen next).outcome := by
  rcases andThen_cases r next with ⟨n, -, he⟩ | ⟨-, he⟩
  · rw [he]
    exact add_outcome hcount (hn r.processor) n
  · rw [he]
    exact hr

def IsInclude (checks : Checks) (text : String) : Prop :=
  ∃ (p : Processor) (place : String), (p.step checks text place).1.current = some .includeFile

theorem not_isInclude_nil (checks : Checks) : ¬IsInclude checks "" := by
  rintro ⟨p, place, h⟩
  have hread : Line.read "" = .closing := by decide
  rw [Processor.step_eq, hread] at h
  cases h

theorem line_outcome (hcount : ∀ n, P (.count n)) {path : Path} {text : String}
    (hmissing : IsInclude checks text → target? text = none →
      P (.failure (.missingIncludePath text)))
    (hvisit : IsInclude checks text → ∀ name, target? text = some name → ∀ q,
      let target := resolve checks.settings path name
      P ((visit target q).outcome.within text target))
    (number : Nat) (physical : Bool) (p : Processor) :
    P (line checks visit path number text physical p).outcome := by
  rw [line_eq]
  split
  next hfollows =>
    have hinclude : IsInclude checks text := ⟨p, location path number, hfollows.2⟩
    refine andThen_outcome hcount (hcount _) fun q => ?_
    cases ht : target? text with
    | none =>
      rw [follow_none ht]
      exact hmissing hinclude ht
    | some name =>
      rw [follow_some ht]
      exact hvisit hinclude name ht q
  next => exact hcount _

theorem lines_outcome (hcount : ∀ n, P (.count n)) {path : Path} {texts : List String}
    (hmissing : ∀ text ∈ texts, IsInclude checks text → target? text = none →
      P (.failure (.missingIncludePath text)))
    (hvisit : ∀ text ∈ texts, IsInclude checks text → ∀ name, target? text = some name → ∀ q,
      let target := resolve checks.settings path name
      P ((visit target q).outcome.within text target))
    (number : Nat) (p : Processor) :
    P (lines checks visit path number texts p).outcome := by
  induction texts generalizing number p with
  | nil =>
    have hnone := not_isInclude_nil checks
    unfold lines
    split
    · exact hcount 0
    · exact line_outcome hcount (fun h => absurd h hnone) (fun h => absurd h hnone) number false p
  | cons text rest ih =>
    rw [List.forall_mem_cons] at hmissing hvisit
    unfold lines
    exact andThen_outcome hcount (line_outcome hcount hmissing.1 hvisit.1 _ true p)
      (ih hmissing.2 hvisit.2 _)

end Run

end StanzaLint
