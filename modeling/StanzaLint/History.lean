import StanzaLint.Processor

/-!
# Histories

What a processor is asked to do over time: to process a line, to set a file aside
for one that it includes, and to go back to it. The file that was set aside last is
taken up first. A processor would take up any of them, but whoever reads files has no
other order: an included file ends before the one that includes it goes on.
-/

namespace StanzaLint

inductive Action where
  | line (text location : String)
  | suspend
  | resume
  deriving DecidableEq, Repr

/-- A processor, and the files that wait, the latest first. -/
structure Progress where
  processor : Processor := {}
  suspended : List Processor.Suspended := []
  deriving DecidableEq, Repr

namespace Progress

/-- To go back when no file waits changes nothing. -/
def perform (s : Progress) (checks : Checks) : Action → Progress × List Diagnostic
  | .line text location =>
    let (p, diagnostics) := s.processor.step checks text location
    ({ s with processor := p }, diagnostics)
  | .suspend =>
    let (file, p) := s.processor.suspend
    (⟨p, file :: s.suspended⟩, [])
  | .resume => match s.suspended with
    | file :: rest => (⟨s.processor.resume file, rest⟩, [])
    | [] => (s, [])

/-- The progress after a history, and what was found at each of its actions. -/
def run (s : Progress) (checks : Checks) : List Action → Progress × List (List Diagnostic)
  | [] => (s, [])
  | action :: rest =>
    let (s, diagnostics) := s.perform checks action
    let (s, more) := s.run checks rest
    (s, diagnostics :: more)

end Progress

end StanzaLint
