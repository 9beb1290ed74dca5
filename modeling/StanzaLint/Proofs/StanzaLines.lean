import StanzaLint.Proofs.Ledger

/-!
# The lines of a stanza

Of the lines of a history, those belong to the stanza in which it ends that were read
since the stanza began, but for the lines of files that were included meanwhile
(`Stage`). They make up its sheet (`Sheet.of`), and a relation between the lines of a
stanza and its state holds of all stanzas if every line keeps it (`Fits.perform`). The
lines may carry more than their texts, such as what was found at them.
-/

namespace StanzaLint

/-- The lines of the stanza that is read, and of those that wait. -/
structure Stage (α : Type) where
  lines : List α := []
  waiting : List (List α) := []

section
variable {α : Type} (act : α → Action)

namespace Stage

def perform (stage : Stage α) (a : α) : Stage α :=
  match act a with
  | .line text _ =>
    { stage with lines := if Line.read text = .closing then [] else stage.lines ++ [a] }
  | .suspend => ⟨[], stage.lines :: stage.waiting⟩
  | .resume => match stage.waiting with
    | lines :: rest => ⟨lines, rest⟩
    | [] => stage

def of (history : List α) : Stage α := history.foldl (perform act) {}

theorem of_concat (history : List α) (a : α) :
    of act (history ++ [a]) = (of act history).perform act a := by
  simp [of]

end Stage

def Sheet.of (lines : List α) : Sheet :=
  lines.foldl (fun sheet a => match act a with
    | .line text location => sheet.read location (Line.read text)
    | _ => sheet) {}

theorem Sheet.of_concat (lines : List α) {a : α} (ha : act a = .line text location) :
    Sheet.of act (lines ++ [a]) = (Sheet.of act lines).read location (Line.read text) := by
  simp [Sheet.of, ha]

end

namespace Stage

variable {α : Type} {act : α → Action} {R : List α → Stanza → Prop} {stage : Stage α}
  {s : Progress} {checks : Checks}

structure Fits (R : List α → Stanza → Prop) (stage : Stage α) (s : Progress) : Prop where
  current : R stage.lines s.processor.stanza
  waiting : List.Forall₂ (fun lines (file : Processor.Suspended) => R lines file.stanza)
    stage.waiting s.suspended

/-- A relation is kept by every action if it holds of a new stanza and is kept by every line that
belongs to a stanza. -/
theorem Fits.perform (h : stage.Fits R s) (start : R [] {}) (a : α)
    (next : ∀ text location, act a = .line text location → Line.read text ≠ .closing →
      R (stage.lines ++ [a]) (s.processor.step checks text location).1.stanza) :
    (stage.perform act a).Fits R (s.perform checks (act a)).1 := by
  unfold Stage.perform
  cases ha : act a with
  | line text location =>
    refine ⟨?_, h.waiting⟩
    dsimp only
    split
    next hc =>
      simp only [Progress.perform, Processor.step_eq, hc]
      exact start
    next hc => exact next text location ha hc
  | suspend => exact ⟨start, .cons h.current h.waiting⟩
  | resume =>
    obtain ⟨p, suspended⟩ := s
    obtain ⟨lines, waiting⟩ := stage
    cases h.waiting with
    | nil => exact h
    | cons hf hr => exact ⟨hf, hr⟩

end Stage

theorem Processor.step_tellsOf {α : Type} {act : α → Action} {checks : Checks} {p : Processor}
    {lines : List α} (h : p.stanza.Tells checks.settings (Sheet.of act lines)) {a : α}
    (ha : act a = .line text location) :
    (p.step checks text location).1.stanza.Tells checks.settings
      (Sheet.of act (lines ++ [a])) := by
  rw [Sheet.of_concat act lines ha]
  exact step_tells h text location

end StanzaLint
