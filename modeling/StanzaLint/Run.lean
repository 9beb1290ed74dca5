import StanzaLint.Failure
import StanzaLint.Files
import StanzaLint.Processor
import StanzaLint.Text.Lines

/-!
# Runs

A run reads a file line by line and every file that it includes. It leaves a trace
of what happened, one event after the other, and ends with the number of findings
or with a failure. How the trace is printed has no influence on it.
-/

namespace StanzaLint

open Text

structure Record where
  location : String
  line : String
  /-- The findings are about the stanza that the line closes. -/
  closes : Bool
  diagnostics : List Diagnostic
  /-- The line stands in the file; one that only closes its last stanza does not. -/
  physical : Bool
  deriving DecidableEq, Repr

/-- The events carry the processor as it was when they happened. -/
inductive Event where
  | before (state : Processor)
  | line (record : Record) (state : Processor)
  | enter (line : String) (enclosing target : Path) (state : Processor)
  | leave
  deriving DecidableEq, Repr

inductive Outcome where
  | count (n : Nat)
  | failure (cause : Failure)
  /-- The files include each other without end. -/
  | endless
  deriving DecidableEq, Repr

namespace Outcome

def add (n : Nat) : Outcome → Outcome
  | count m => count (n + m)
  | outcome => outcome

def within (line : String) (path : Path) : Outcome → Outcome
  | failure cause => failure (.included line path cause)
  | outcome => outcome

end Outcome

structure Run where
  events : List Event
  outcome : Outcome
  processor : Processor
  deriving DecidableEq, Repr

namespace Run

def fail (p : Processor) (cause : Failure) : Run := ⟨[], .failure cause, p⟩

def andThen (r : Run) (next : Processor → Run) : Run :=
  match r.outcome with
  | .count n =>
    let s := next r.processor
    ⟨r.events ++ s.events, s.outcome.add n, s.processor⟩
  | _ => r

def target? (line : String) : Option Path :=
  match split ' ' (trim line.toList) with
  | _ :: target :: _ => if target.isEmpty then none else some (String.ofList target)
  | _ => none

/-- Relative paths start at the include directory, or else where the including file is. -/
def resolve (settings : Settings) (enclosing target : Path) : Path :=
  if target.isAbsolute then target
  else Path.join (settings.includeDirectory.getD enclosing.parent) target

def follow (settings : Settings) (visit : Path → Processor → Run) (enclosing : Path)
    (line : String) (p : Processor) : Run :=
  match target? line with
  | none => fail p (.missingIncludePath line)
  | some target =>
    let path := resolve settings enclosing target
    let inner := visit path p
    ⟨.enter line enclosing path p :: inner.events ++ [.leave], inner.outcome.within line path,
      inner.processor⟩

def location (path : Path) (number : Nat) : String := path ++ ":" ++ toString number

def line (checks : Checks) (visit : Path → Processor → Run) (path : Path) (number : Nat)
    (text : String) (physical : Bool) (p : Processor) : Run :=
  let place := location path number
  let (q, diagnostics) := p.step checks text place
  let record : Record := ⟨place, text, q.lastLineEmpty, diagnostics, physical⟩
  let here : Run := ⟨[.before p, .line record q], .count diagnostics.length, q⟩
  if checks.settings.followIncludes ∧ q.current = some .includeFile then
    here.andThen (follow checks.settings visit path text)
  else here

/-- Processes the lines behind line `number`. If the last one left a stanza open, an empty
line closes it. -/
def lines (checks : Checks) (visit : Path → Processor → Run) (path : Path) :
    (number : Nat) → List String → Processor → Run
  | number, [], p =>
    if p.lastLineEmpty then ⟨[], .count 0, p⟩ else line checks visit path number "" false p
  | number, text :: rest, p =>
    (line checks visit path (number + 1) text true p).andThen
      (lines checks visit path (number + 1) rest)

/-- A file that was read to its end hands back the stanza that it interrupted. -/
def resume (r : Run) (s : Processor.Suspended) : Run :=
  match r.outcome with
  | .count _ => { r with processor := r.processor.resume s }
  | _ => r

/-- Reads the file at `path`, `depth` includes deep, and what it includes, as long as there are
levels left. -/
def file (checks : Checks) (files : Files) :
    (levels depth : Nat) → Path → Processor → Run
  | 0, _, _, p => ⟨[], .endless, p⟩
  | levels + 1, depth, path, p =>
    match checks.settings.maxIncludeDepth.filter (· < depth) with
    | some limit => fail p (.tooDeep path limit)
    | none => match files path with
      | .missing => fail p (.notFound path)
      | .directory => fail p (.unreadable path .isDirectory)
      | .locked text => fail p (.unreadable path (.system text))
      | .file content =>
        let (suspended, q) := p.suspend
        (lines checks (file checks files levels (depth + 1)) path 0 (fileLines content) q).resume
          suspended

/-- The levels that a run gets. With a limit on the depth they never run out. Without one there
are more of them than paths, so a chain of includes that needs them all comes back to one of its
own files, and does so forever. -/
def levelsFor (settings : Settings) : Nat :=
  match settings.maxIncludeDepth with
  | some limit => limit + 2
  | none => FileTree.pathBound

def ofFile (checks : Checks) (files : Files) (path : Path) (p : Processor) : Run :=
  file checks files (levelsFor checks.settings) 0 path p

def includes (checks : Checks) (path : Path) (content : List UInt8) : List Path :=
  let stay (_ : Path) (p : Processor) : Run := ⟨[], .count 0, p⟩
  (lines checks stay path 0 (fileLines content) {}).events.filterMap fun
    | .enter _ _ target _ => some target
    | _ => none

end Run

end StanzaLint
