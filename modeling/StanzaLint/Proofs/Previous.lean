import StanzaLint.Proofs.Continuation
import StanzaLint.Proofs.Findings

/-!
# The line before

A directive line is judged by the one before it, but what it leaves behind does not
depend on it. So a processor that has a wrong idea of the previous directive keeps it
only until the next directive line, or until the stanza is closed (`read_withPrevious`).
On the way it finds the same, but for what is out of order on the line that ends it
(`perform_decided`).
-/

namespace StanzaLint

open Diagnostic (AllOf)

def Code.orders : List String :=
  ["L1001", "L1002", "L1003", "L1004", "L1005", "L1006", "L1008", "L1011", "L1012", "L1013",
    "L4004"]

def Code.isOrder (c : Code) : Bool := Code.orders.contains c.text

theorem Place.code_isOrder (place : Place) : place.code.isOrder = true := by
  cases place <;> rfl

namespace Diagnostic

def placeless (ds : List Diagnostic) : List Diagnostic := ds.filter (!·.code.isOrder)

@[simp] theorem placeless_append (ds es : List Diagnostic) :
    placeless (ds ++ es) = placeless ds ++ placeless es := List.filter_append ..

theorem AllOf.placeless_eq_nil (h : AllOf Code.isOrder ds) : placeless ds = [] := by
  rw [placeless, List.filter_eq_nil_iff]
  intro d hd
  simp [h d hd]

end Diagnostic

open Diagnostic (placeless)

namespace Stanza

def withPrevious (s : Stanza) (d : Option Directive) : Stanza := { s with previous := d }

variable (s : Stanza) (d : Option Directive)

theorem after_withPrevious (settings : Settings) (e : Entry) :
    (s.withPrevious d).after settings e = s.after settings e := by
  have hrim : s.withPrevious d = s.setRim ⟨s.margin, d, s.label⟩ := rfl
  rw [hrim, after_setRim, ← s.after_margin settings e]
  rfl

theorem orderFindings_placeless (directive : Directive) (payload : String) :
    placeless (s.orderFindings directive payload) = [] :=
  (s.orderFindings_allOf Place.code_isOrder directive payload).placeless_eq_nil

theorem findFindings_placeless (directive : Directive) : placeless (s.findFindings directive) = [] :=
  (s.findFindings_allOf rfl directive).placeless_eq_nil

end Stanza

namespace Processor

def withPrevious (p : Processor) (d : Option Directive) : Processor :=
  { p with stanza := p.stanza.withPrevious d }

def Decided (p : Processor) : Prop := p.current ≠ none ∨ p.lastLineEmpty = true

instance (p : Processor) : Decidable p.Decided := inferInstanceAs (Decidable (_ ∨ _))

variable (p : Processor) (d : Option Directive)

theorem valueFindings_withPrevious (settings : Settings) (e : Entry) :
    (p.withPrevious d).valueFindings settings e = p.valueFindings settings e := by
  have h : (p.withPrevious d).SameValues p := ⟨rfl, rfl, rfl, rfl, rfl, rfl, rfl⟩
  exact valueFindings_congr h settings e

/-- What a line does to two processors with different ideas of the line before: either it is
decided and they agree from now on, or both go on with their ideas. -/
inductive Forgets (d : Option Directive) (a b : Processor × List Diagnostic) : Prop
  | decided : a.1.Decided → b.1 = a.1 → placeless b.2 = placeless a.2 → Forgets d a b
  | undecided : ¬a.1.Decided → b = (a.1.withPrevious d, a.2) → Forgets d a b

theorem logicalLine_withPrevious (hc : p.current = none) (hl : p.lastLineEmpty = false)
    (settings : Settings) (text : List Char) (location : String) :
    Forgets d (p.logicalLine settings text location)
      ((p.withPrevious d).logicalLine settings text location) := by
  rw [logicalLine_eq, logicalLine_eq]
  cases Entry.of? text location with
  | none =>
    refine .undecided ?_ rfl
    rintro (h | h)
    · exact h hc
    · exact absurd (hl.symm.trans h) Bool.false_ne_true
  | some e =>
    have hp : (p.withPrevious d).unseparated = p.unseparated.withPrevious d := rfl
    refine .decided (.inl (by simp [entry])) ?_ ?_
    · simp only [hp, entry]
      simp only [withPrevious, Stanza.after_withPrevious]
    · simp only [hp, entry, Diagnostic.placeless_append, valueFindings_withPrevious,
        Stanza.orderFindings_placeless, Stanza.findFindings_placeless]

theorem read_withPrevious (checks : Checks) (line : Line) (location : String) :
    Forgets d (p.read checks line location) ((p.withPrevious d).read checks line location) := by
  cases line with
  | closing => exact .decided (.inr rfl) rfl rfl
  | comment text =>
    refine .undecided ?_ ?_
    · obtain ⟨source, title, lookup, hc⟩ :=
        { p with current := none, lastLineEmpty := false }.comment_stanza checks text
      simp [read, hc, Decided]
    · simp only [read, comment_eq]
      rcases sourceOf? checks text with _ | _ | _ <;> rfl
  | unfinished segment => exact .undecided (by simp [read, unfinished, Decided]) rfl
  | complete text =>
    simp only [read, complete]
    have hm : (p.withPrevious d).stanza.inMultiline = p.stanza.inMultiline := rfl
    rw [hm]
    split
    · exact logicalLine_withPrevious { p with
        current := none
        lastLineEmpty := false
        stanza := { p.stanza with inMultiline := false, pending := "" } } d rfl rfl _ _ _
    · exact logicalLine_withPrevious { p with current := none, lastLineEmpty := false } d rfl rfl
        _ _ _

theorem step_withPrevious (checks : Checks) (line location : String) :
    Forgets d (p.step checks line location) ((p.withPrevious d).step checks line location) := by
  rw [step_eq, step_eq]
  cases p.read_withPrevious d checks (Line.read line) location with
  | decided hd hs hf => exact .decided hd hs (by simp only [Diagnostic.placeless_append, hf])
  | undecided hd hs =>
    refine .undecided hd ?_
    rw [hs]

end Processor

namespace Progress

def withPrevious (s : Progress) (d : Option Directive) : Progress :=
  { s with processor := s.processor.withPrevious d }

def Undecided (checks : Checks) : Progress → List (String × String) → Prop
  | _, [] => True
  | s, l :: rest =>
    let next := (s.perform checks (.line l.1 l.2)).1
    ¬next.processor.Decided ∧ next.Undecided checks rest

variable {checks : Checks}

theorem run_lines_cons (s : Progress) (l : String × String) (rest : List (String × String)) :
    s.run checks (Action.lines (l :: rest)) =
      (((s.perform checks (.line l.1 l.2)).1.run checks (Action.lines rest)).1,
        (s.perform checks (.line l.1 l.2)).2 ::
          ((s.perform checks (.line l.1 l.2)).1.run checks (Action.lines rest)).2) := rfl

theorem run_undecided (s : Progress) (d : Option Directive) (placed : List (String × String))
    (h : s.Undecided checks placed) :
    (s.withPrevious d).run checks (Action.lines placed) =
      ((s.run checks (Action.lines placed)).1.withPrevious d,
        (s.run checks (Action.lines placed)).2) := by
  induction placed generalizing s with
  | nil => rfl
  | cons l rest ih =>
    obtain ⟨hnow, hlater⟩ := h
    have hstep : (s.withPrevious d).perform checks (.line l.1 l.2) =
        ((s.perform checks (.line l.1 l.2)).1.withPrevious d,
          (s.perform checks (.line l.1 l.2)).2) := by
      cases s.processor.step_withPrevious d checks l.1 l.2 with
      | decided hd => exact absurd hd hnow
      | undecided _ hs =>
        have hp : (s.withPrevious d).processor = s.processor.withPrevious d := rfl
        simp only [perform, hp, hs]
        rfl
    rw [run_lines_cons, run_lines_cons, hstep]
    dsimp only
    rw [ih _ hlater]

theorem perform_decided (s : Progress) (d : Option Directive) (l : String × String)
    (h : (s.perform checks (.line l.1 l.2)).1.processor.Decided) :
    ((s.withPrevious d).perform checks (.line l.1 l.2)).1 =
        (s.perform checks (.line l.1 l.2)).1 ∧
      placeless ((s.withPrevious d).perform checks (.line l.1 l.2)).2 =
        placeless (s.perform checks (.line l.1 l.2)).2 := by
  cases s.processor.step_withPrevious d checks l.1 l.2 with
  | decided _ hs hf =>
    refine ⟨?_, hf⟩
    exact congrArg (Progress.mk · s.suspended) hs
  | undecided hd => exact absurd h hd

/-- A line that is out of order is reported, and goes on like any other. Two runs over the same
lines that differ in their idea of the line before keep this difference, and no other, until a line
names a directive or closes the stanza. This line is perhaps out of order in one of them only.
From then on they are the same. -/
theorem misplaced_unremembered (checks : Checks) (s : Progress) (d : Option Directive) :
    let run (s : Progress) (placed : List (String × String)) := s.run checks (Action.lines placed)
    (∀ placed, s.Undecided checks placed →
      run (s.withPrevious d) placed = ((run s placed).1.withPrevious d, (run s placed).2)) ∧
    ∀ before line after, s.Undecided checks before →
      (run s (before ++ [line])).1.processor.Decided →
      (run (s.withPrevious d) (before ++ line :: after)).1 = (run s (before ++ line :: after)).1 ∧
        ∃ earlier here there later,
          (run s (before ++ line :: after)).2 = earlier ++ here :: later ∧
          (run (s.withPrevious d) (before ++ line :: after)).2 = earlier ++ there :: later ∧
          earlier.length = before.length ∧ placeless there = placeless here := by
  intro run
  refine ⟨fun placed h => run_undecided s d placed h, fun before line after hb hl => ?_⟩
  have hlines : ∀ more, Action.lines (before ++ line :: more) =
      Action.lines before ++ .line line.1 line.2 :: Action.lines more := by
    intro more
    simp [Action.lines]
  simp only [run, hlines, run_append, run_cons, run_undecided s d before hb] at hl ⊢
  obtain ⟨hstate, hfound⟩ := perform_decided (run s before).1 d line hl
  rw [hstate]
  refine ⟨rfl, (run s before).2, _, _, _, rfl, rfl, ?_, hfound⟩
  rw [run_length]
  simp [Action.lines]

/-- A comment, an option without a name and the first part of a title. -/
def undecidedLines : List (String × String) :=
  [("# note", "f:1"), ("Option A B", "f:2"), ("Title \\", "f:3")]

/-- Behind a find directive the title is out of order, and the starting point behind it is not. -/
theorem misplaced_unremembered_find :
    let checks : Checks := ⟨{}, .pages fun _ => .ok none⟩
    let stray : Progress := withPrevious {} (some .find)
    let lines := undecidedLines ++ ("A", "f:4") :: [("URL https://a.org", "f:5"), ("", "f:6")]
    Undecided checks {} undecidedLines ∧
      (run {} checks (Action.lines (undecidedLines ++ [("A", "f:4")]))).1.processor.Decided ∧
      (stray.run checks (Action.lines lines)).1 = (run {} checks (Action.lines lines)).1 ∧
      (stray.run checks (Action.lines lines)).2 =
        [[], [.malformedOption], [], [.findWithoutReplace, .misplaced .title (some .find)], [], []] ∧
      (run {} checks (Action.lines lines)).2 = [[], [.malformedOption], [], [], [], []] := by
  intro checks stray lines
  have hbefore : Undecided checks {} undecidedLines :=
    ⟨by decide +kernel, by decide +kernel, by decide +kernel, trivial⟩
  have hline : (run {} checks (Action.lines
      (undecidedLines ++ [("A", "f:4")]))).1.processor.Decided := by decide +kernel
  have hend := (misplaced_unremembered checks {} (some .find)).2 undecidedLines ("A", "f:4")
    [("URL https://a.org", "f:5"), ("", "f:6")] hbefore hline
  exact ⟨hbefore, hline, hend.1, by decide +kernel, by decide +kernel⟩

end Progress

end StanzaLint
