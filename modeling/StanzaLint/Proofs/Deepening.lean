import StanzaLint.Proofs.Levels

/-!
# One level deeper

A run that starts one level deeper, under a limit that is higher by one, is the same
run (`file_deepen`). Only a failure that names the limit names the higher one.
-/

namespace StanzaLint

def Failure.deepen : Failure → Failure
  | included line path cause => included line path cause.deepen
  | tooDeep path limit => tooDeep path (limit + 1)
  | cause => cause

theorem Failure.exitStatus_deepen (cause : Failure) :
    cause.deepen.exitStatus = cause.exitStatus := by
  induction cause with
  | included line path cause ih => exact ih
  | _ => rfl

theorem Failure.deepen_of_not_tooDeep {cause : Failure} (h : ¬cause.TooDeep) :
    cause.deepen = cause := by
  induction cause with
  | included line path cause ih => exact congrArg (included line path) (ih h)
  | tooDeep path limit => exact absurd ⟨path, limit, rfl⟩ h
  | _ => rfl

namespace Outcome

def deepen : Outcome → Outcome
  | failure cause => failure cause.deepen
  | outcome => outcome

theorem deepen_add (o : Outcome) (n : Nat) : (o.add n).deepen = o.deepen.add n := by
  cases o <;> rfl

theorem deepen_within (o : Outcome) (text : String) (path : Path) :
    (o.within text path).deepen = o.deepen.within text path := by
  cases o <;> rfl

theorem deepen_eq_count {o : Outcome} : o.deepen = .count n ↔ o = .count n := by
  cases o <;> simp [deepen]

end Outcome

namespace Run

def deepen (r : Run) : Run := { r with outcome := r.outcome.deepen }

variable {checks : Checks}

theorem andThen_deepen (r : Run) (next : Processor → Run) :
    (r.andThen next).deepen = r.deepen.andThen fun q => (next q).deepen := by
  rcases andThen_cases r next with ⟨n, hr, he⟩ | ⟨hr, he⟩
  · rw [he, andThen_count (Outcome.deepen_eq_count.mpr hr)]
    simp only [deepen, Outcome.deepen_add]
  · rw [he, andThen_stop fun n hn => hr n (Outcome.deepen_eq_count.mp hn)]

theorem follow_deepen (settings : Settings) (visit : Path → Processor → Run) (enclosing : Path)
    (text : String) (p : Processor) :
    (follow settings visit enclosing text p).deepen =
      follow settings (fun path q => (visit path q).deepen) enclosing text p := by
  cases ht : target? text with
  | none =>
    rw [follow_none ht, follow_none ht]
    rfl
  | some target =>
    rw [follow_some ht, follow_some ht]
    simp only [deepen, Outcome.deepen_within]

theorem line_deepen (visit : Path → Processor → Run) (path : Path) (number : Nat) (text : String)
    (physical : Bool) (p : Processor) :
    (line checks visit path number text physical p).deepen =
      line checks (fun path q => (visit path q).deepen) path number text physical p := by
  rw [line_eq, line_eq]
  split
  · rw [andThen_deepen]
    congr 1
    funext q
    exact follow_deepen checks.settings visit path text q
  · rfl

theorem lines_deepen (visit : Path → Processor → Run) (path : Path) (number : Nat)
    (texts : List String) (p : Processor) :
    (lines checks visit path number texts p).deepen =
      lines checks (fun path q => (visit path q).deepen) path number texts p := by
  induction texts generalizing number p with
  | nil =>
    unfold lines
    split
    · rfl
    · exact line_deepen visit path number "" false p
  | cons text rest ih =>
    unfold lines
    rw [andThen_deepen, line_deepen]
    congr 1
    funext q
    exact ih _ q

theorem resume_deepen (r : Run) (s : Processor.Suspended) :
    (r.resume s).deepen = r.deepen.resume s := by
  cases ho : r.outcome <;> simp [resume, deepen, ho, Outcome.deepen]

/-- One level deeper, a run with a limit that is higher by one goes the same way. -/
theorem file_deepen (settings : Settings) (titles : TitleLookup) (files : Files)
    (limit : Option Nat) (levels depth : Nat) :
    file ⟨settings.limited (limit.map (· + 1)), titles⟩ files levels (depth + 1) =
      fun path p =>
        (file ⟨settings.limited limit, titles⟩ files levels depth path p).deepen := by
  induction levels generalizing depth with
  | zero => rfl
  | succ levels ih =>
    funext path p
    have hguard : (settings.limited (limit.map (· + 1))).maxIncludeDepth.filter (· < depth + 1) =
        ((settings.limited limit).maxIncludeDepth.filter (· < depth)).map (· + 1) := by
      cases limit with
      | none => rfl
      | some m =>
        by_cases hm : m < depth <;> simp [Settings.limited, Option.filter, hm]
    simp only [file, hguard, ih, lines_limited settings titles (limit.map (· + 1)) limit]
    cases (settings.limited limit).maxIncludeDepth.filter (· < depth) with
    | some m => rfl
    | none =>
      cases files path with
      | missing => rfl
      | directory => rfl
      | locked text => rfl
      | file content =>
        simp only [Option.map_none]
        rw [resume_deepen, lines_deepen]

end Run

end StanzaLint
