import StanzaLint.Run
import StanzaLint.Text.Json

/-!
# Reports

How the trace of a run is printed: as text for people, or as one JSON object a line.
Printing stops when the writer takes no more bytes, and then the run counts as
failed at that point.
-/

namespace StanzaLint

open Text

inductive Format where
  | text
  | json
  deriving DecidableEq, Repr

structure Style where
  format : Format := .text
  color : Bool := false
  annotate : Bool := false
  verbose : Bool := false
  deriving DecidableEq, Repr

namespace Style

def isChatty (style : Style) : Bool := style.verbose && style.format == .text

def paint (style : Style) (color : Nat) (text : String) : String :=
  if style.color then "\x1b[" ++ toString color ++ "m" ++ text ++ "\x1b[0m" else text

def yellow : Nat := 33

def cyan : Nat := 36

end Style

structure Chunk where
  text : String
  isObject : Bool := false
  deriving DecidableEq, Repr

def textLine (text : String) : Chunk := ⟨text ++ "\n", false⟩

namespace Diagnostic

def toJson (d : Diagnostic) : Json :=
  .object [("code", .string d.code.text), ("message", .string d.message)]

end Diagnostic

namespace Record

def toJson (r : Record) : Json :=
  .object [("location", .string r.location), ("line", .string r.line), ("stanza", .bool r.closes),
    ("diagnostics", .array (r.diagnostics.map Diagnostic.toJson))]

def findings (r : Record) : String := ", ".intercalate (r.diagnostics.map (·.text))

/-- A line without findings is shown only on demand. Findings about a stanza stand below it,
those about a line beside it. -/
def textChunks (style : Style) (r : Record) : List Chunk :=
  let shown := style.annotate && r.physical
  if r.diagnostics.isEmpty then if shown then [textLine (r.location ++ ": " ++ r.line)] else []
  else if r.closes then
    textLine (r.location ++ ": " ++ style.paint Style.yellow ("↑ " ++ r.findings)) ::
      if shown then [textLine (r.location ++ ":")] else []
  else
    [textLine (r.location ++ ": " ++ r.line ++ " " ++
      style.paint Style.yellow ("← " ++ r.findings))]

def jsonChunks (r : Record) : List Chunk :=
  if r.diagnostics.isEmpty then [] else [⟨r.toJson.render, true⟩, ⟨"\n", false⟩]

def chunks (style : Style) (r : Record) : List Chunk :=
  match style.format with
  | .text => r.textChunks style
  | .json => r.jsonChunks

end Record

namespace Event

def chunks (style : Style) : Event → List Chunk
  | before p =>
    if style.isChatty then [textLine (style.paint Style.cyan p.stanza.toJson.render)] else []
  | line record _ => record.chunks style
  | enter text enclosing target _ =>
    if style.isChatty then
      [textLine ("       Line: " ++ text), textLine ("    in file: " ++ enclosing),
        textLine ("resolves to: " ++ target)]
    else []
  | leave => []

def state? : Event → Option Processor
  | before p | line _ p | enter _ _ _ p => some p
  | leave => none

/-- The include lines that are being followed after an event, innermost first. -/
def layers (active : List (String × Path)) : Event → List (String × Path)
  | enter text _ target _ => (text, target) :: active
  | leave => active.tail
  | _ => active

end Event

/-- Where printing stopped: in which part, during which event, and how deep. -/
structure Stop where
  fault : WriteFault
  event : Event
  layers : List (String × Path)

def Stop.failure (stop : Stop) : Failure :=
  stop.layers.foldl (fun cause (line, path) => .included line path cause) (.unwritable stop.fault)

/-- What was printed, and how many more bytes the writer takes. -/
structure Printed where
  output : List UInt8 := []
  room : Option Nat := none
  stop : Option Stop := none

/-- Writes chunks up to the first that does not fit; of that one, as much as fits. -/
def writeChunks (room : Option Nat) : List Chunk → List UInt8 × Option Nat × Option WriteFault
  | [] => ([], room, none)
  | chunk :: rest =>
    let bytes := encodeUtf8 chunk.text.toList
    match room with
    | none =>
      let (more, room, fault) := writeChunks none rest
      (bytes ++ more, room, fault)
    | some n =>
      if bytes.length ≤ n then
        let (more, room, fault) := writeChunks (some (n - bytes.length)) rest
        (bytes ++ more, room, fault)
      else (bytes.take n, some 0, some (if chunk.isObject then .object else .text))

def printEvents (style : Style) (room : Option Nat) (layers : List (String × Path)) :
    List Event → Printed
  | [] => { room }
  | event :: rest =>
    match writeChunks room (event.chunks style) with
    | (bytes, room, some fault) => ⟨bytes, room, some ⟨fault, event, layers⟩⟩
    | (bytes, room, none) =>
      let later := printEvents style room (event.layers layers) rest
      { later with output := bytes ++ later.output }

/-- A processor, and a writer, that files are read with one after the other. -/
structure Session where
  processor : Processor := {}
  room : Option Nat := none

structure Report where
  outcome : Outcome
  output : List UInt8

/-- Reads a file and prints what was found. Titles and origins are remembered. -/
def Session.lint (s : Session) (checks : Checks) (style : Style) (files : Files) (path : Path) :
    Report × Session :=
  let run := Run.ofFile checks files path s.processor
  let printed := printEvents style s.room [] run.events
  match printed.stop with
  | some stop =>
    (⟨.failure stop.failure, printed.output⟩,
      ⟨stop.event.state?.getD run.processor, printed.room⟩)
  | none => (⟨run.outcome, printed.output⟩, ⟨run.processor, printed.room⟩)

end StanzaLint
