import Mathlib.Data.List.Forall2
import Mathlib.Data.List.Induction
import StanzaLint.Proofs.Step

/-!
# What a stanza remembers

The logical lines of a stanza can be read off a history without a processor: they
start again where a stanza is closed, and wait where a file is set aside. A ledger
keeps them. The state of a stanza is what these lines leave behind one after the
other, but for its margin (`run_told`).

A whole history has its directive lines (`entries`) and its closed stanzas
(`closed`), each in the order in which they were completed. What depends on both
a processor and its past is shown by `run_induction`.
-/

namespace StanzaLint

/-- What was written since a stanza began: its logical lines with their locations, and the text
of an unfinished one. -/
structure Sheet where
  lines : List (List Char × String) := []
  pending : List Char := []

namespace Sheet

def read (sheet : Sheet) (location : String) : Line → Sheet
  | .closing => {}
  | .comment _ => sheet
  | .unfinished segment => { sheet with pending := sheet.pending ++ segment }
  | .complete text => ⟨sheet.lines ++ [(sheet.pending ++ text, location)], []⟩

def entries (sheet : Sheet) : List Entry := sheet.lines.filterMap fun l => Entry.of? l.1 l.2

def completes? (sheet : Sheet) (location : String) : Line → Option Entry
  | .complete text => Entry.of? (sheet.pending ++ text) location
  | _ => none

theorem entries_read {line : Line} (h : line ≠ .closing) (sheet : Sheet) (location : String) :
    (sheet.read location line).entries =
      sheet.entries ++ (sheet.completes? location line).toList := by
  cases line with
  | closing => exact absurd rfl h
  | comment text => simp [read, completes?]
  | unfinished segment => simp [read, completes?, entries]
  | complete text =>
    simp only [read, completes?, entries, List.filterMap_append]
    cases he : Entry.of? (sheet.pending ++ text) location <;> simp [he]

end Sheet

structure Ledger where
  sheet : Sheet := {}
  waiting : List Sheet := []

namespace Ledger

def perform (ledger : Ledger) : Action → Ledger
  | .line text location => { ledger with sheet := ledger.sheet.read location (Line.read text) }
  | .suspend => ⟨{}, ledger.sheet :: ledger.waiting⟩
  | .resume => match ledger.waiting with
    | sheet :: rest => ⟨sheet, rest⟩
    | [] => ledger

def of (history : List Action) : Ledger := history.foldl perform {}

theorem of_concat (history : List Action) (action : Action) :
    of (history ++ [action]) = (of history).perform action := by
  simp [of]

def completes? (ledger : Ledger) : Action → Option Entry
  | .line text location => ledger.sheet.completes? location (Line.read text)
  | _ => none

def closes? (ledger : Ledger) : Action → Option Sheet
  | .line text _ => if Line.read text = .closing then some ledger.sheet else none
  | _ => none

/-- What the actions of a history give one after the other, each seen from its ledger. -/
def gather (f : Ledger → Action → Option α) (ledger : Ledger) : List Action → List α
  | [] => []
  | action :: rest => (f ledger action).toList ++ gather f (ledger.perform action) rest

theorem gather_append (f : Ledger → Action → Option α) (ledger : Ledger)
    (first second : List Action) :
    gather f ledger (first ++ second) =
      gather f ledger first ++ gather f (first.foldl perform ledger) second := by
  induction first generalizing ledger with
  | nil => rfl
  | cons action rest ih =>
    simp only [List.cons_append, gather, List.foldl_cons, ih, List.append_assoc]

theorem gather_concat (f : Ledger → Action → Option α) (history : List Action) (action : Action) :
    gather f {} (history ++ [action]) = gather f {} history ++ (f (of history) action).toList := by
  rw [gather_append]
  simp only [gather, List.append_nil]
  rfl

def entries (history : List Action) : List Entry := gather completes? {} history

/-- The sheets of all stanzas that were closed, in the order of their closing. -/
def closed (history : List Action) : List Sheet := gather closes? {} history

theorem entries_concat (history : List Action) (action : Action) :
    entries (history ++ [action]) = entries history ++ ((of history).completes? action).toList :=
  gather_concat ..

theorem closed_concat (history : List Action) (action : Action) :
    closed (history ++ [action]) = closed history ++ ((of history).closes? action).toList :=
  gather_concat ..

end Ledger

namespace Stanza

def logical (settings : Settings) (s : Stanza) (l : List Char × String) : Stanza :=
  let s := { s with isSeparator := false }
  match Entry.of? l.1 l.2 with
  | none => s
  | some e => s.after settings e

def written (settings : Settings) (lines : List (List Char × String)) : Stanza :=
  lines.foldl (logical settings) {}

theorem written_concat (settings : Settings) (lines : List (List Char × String))
    (l : List Char × String) :
    written settings (lines ++ [l]) = (written settings lines).logical settings l := by
  simp [written]

theorem logical_setMargin (m : Margin) (settings : Settings) (s : Stanza)
    (l : List Char × String) :
    (s.setMargin m).logical settings l = (s.logical settings l).setMargin m := by
  unfold logical
  split
  · rfl
  next e _ => exact { s with isSeparator := false }.after_setMargin m settings e

def plain (s : Stanza) : Stanza := s.setMargin {}

/-- The sheet tells the state of the stanza. -/
structure Tells (settings : Settings) (sheet : Sheet) (s : Stanza) : Prop where
  plain : s.plain = written settings sheet.lines
  pending : s.pending.toList = sheet.pending
  settled : s.Settled

theorem Tells.start (settings : Settings) : Tells settings {} {} := ⟨rfl, rfl, fun _ => rfl⟩

end Stanza

namespace Processor

variable {checks : Checks} {sheet : Sheet} {p : Processor}

theorem logicalLine_stanza (p : Processor) (settings : Settings) (text : List Char)
    (location : String) :
    (p.logicalLine settings text location).1.stanza = p.stanza.logical settings (text, location) := by
  rw [logicalLine_eq, Stanza.logical]
  cases Entry.of? text location <;> rfl

/-- The processor as it judges a logical line: what was held back has been handed out. -/
def released (p : Processor) : Processor :=
  { p with
    current := none
    lastLineEmpty := false
    stanza := { p.stanza with inMultiline := false, pending := "" } }

/-- A line that is not unfinished completes the logical line that the sheet holds back. -/
theorem read_complete (h : p.stanza.Tells checks.settings sheet) (text : List Char)
    (location : String) :
    p.read checks (.complete text) location =
      p.released.logicalLine checks.settings (sheet.pending ++ text) location := by
  simp only [read, complete]
  split
  · rw [h.pending]
    rfl
  next hm =>
    -- no line is unfinished, so nothing is held back
    have hm : p.stanza.inMultiline = false := by simpa using hm
    have hp : p.stanza.pending = "" := h.settled hm
    have hs : sheet.pending = [] := by
      rw [← h.pending, hp]
      rfl
    have hr : { p.stanza with inMultiline := false, pending := "" } = p.stanza := by
      rw [← hm, ← hp]
    rw [released, hr, hs, List.nil_append]

theorem logicalLine_tells (settings : Settings) (text : List Char) (location : String)
    (h : p.stanza.plain = Stanza.written settings lines) (hp : p.stanza.pending = "") :
    (p.logicalLine settings text location).1.stanza.Tells settings
      ⟨lines ++ [(text, location)], []⟩ := by
  have hm := p.logicalLine_margin settings text location
  simp only [Stanza.margin, Stanza.Margin.mk.injEq] at hm
  have he : (p.logicalLine settings text location).1.stanza.pending = "" := hm.2.1.trans hp
  refine ⟨?_, by rw [he]; rfl, fun _ => he⟩
  rw [logicalLine_stanza, Stanza.plain, ← Stanza.logical_setMargin, Stanza.written_concat, ← h]
  rfl

theorem read_tells (h : p.stanza.Tells checks.settings sheet) (line : Line) (location : String) :
    (p.read checks line location).1.stanza.Tells checks.settings (sheet.read location line) := by
  cases line with
  | closing => exact .start checks.settings
  | comment text =>
    obtain ⟨source, title, lookup, hc⟩ :=
      { p with current := none, lastLineEmpty := false }.comment_stanza checks text
    simp only [read, hc]
    exact ⟨h.plain, h.pending, h.settled⟩
  | unfinished segment =>
    refine ⟨h.plain, ?_, fun hm => absurd hm.symm Bool.false_ne_true⟩
    simp [read, unfinished, Sheet.read, h.pending]
  | complete text =>
    rw [read_complete h]
    exact logicalLine_tells _ _ _ h.plain rfl

theorem step_tells (h : p.stanza.Tells checks.settings sheet) (line location : String) :
    (p.step checks line location).1.stanza.Tells checks.settings
      (sheet.read location (Line.read line)) := read_tells h _ _

end Processor

namespace Progress

variable {checks : Checks} {s : Progress} {ledger : Ledger}

/-- The ledger tells the states of all stanzas, also of those that wait. -/
structure Told (settings : Settings) (ledger : Ledger) (s : Progress) : Prop where
  current : s.processor.stanza.Tells settings ledger.sheet
  waiting : List.Forall₂ (fun sheet (file : Processor.Suspended) =>
    file.stanza.Tells settings sheet) ledger.waiting s.suspended

theorem perform_told (h : s.Told checks.settings ledger) (action : Action) :
    (s.perform checks action).1.Told checks.settings (ledger.perform action) := by
  cases action with
  | line text location => exact ⟨Processor.step_tells h.current text location, h.waiting⟩
  | suspend => exact ⟨.start checks.settings, .cons h.current h.waiting⟩
  | resume =>
    obtain ⟨p, suspended⟩ := s
    obtain ⟨sheet, waiting⟩ := ledger
    cases h.waiting with
    | nil => exact h
    | cons hf hr => exact ⟨hf, hr⟩

theorem run_told (checks : Checks) (history : List Action) :
    (run {} checks history).1.Told checks.settings (Ledger.of history) := by
  -- both are folds over the history, so the start has to be any related pair
  have hrun : ∀ (s : Progress) (ledger : Ledger), s.Told checks.settings ledger →
      (s.run checks history).1.Told checks.settings (history.foldl Ledger.perform ledger) := by
    induction history with
    | nil => exact fun s ledger h => h
    | cons action rest ih =>
      intro s ledger h
      rw [run_cons, List.foldl_cons]
      exact ih _ _ (perform_told h action)
  exact hrun {} {} ⟨.start checks.settings, .nil⟩

theorem run_concat (s : Progress) (checks : Checks) (history : List Action) (action : Action) :
    (s.run checks (history ++ [action])).1 = ((s.run checks history).1.perform checks action).1 := by
  rw [run_append]
  rfl

/-- What holds of no history and is kept by every further action, seen from the ledger of the
actions before it, holds of every history and the progress after it. -/
theorem run_induction {P : List Action → Progress → Prop} (start : P [] {})
    (next : ∀ history action (s : Progress), s.Told checks.settings (Ledger.of history) →
      P history s → P (history ++ [action]) (s.perform checks action).1)
    (history : List Action) : P history (run {} checks history).1 := by
  induction history using List.reverseRecOn with
  | nil => exact start
  | append_singleton history action ih =>
    rw [run_concat]
    exact next history action _ (run_told checks history) ih

end Progress

end StanzaLint
