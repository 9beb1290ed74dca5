import StanzaLint.CommandLine
import StanzaLint.Report
import StanzaLint.SettingsFile

/-!
# The program

Reads the files that a command line names, one after the other, and stops at the
first failure. The status it ends with tells failures, findings and clean files apart.
-/

namespace StanzaLint

structure Environment where
  values : List (String × String) := []
  /-- The output goes to a terminal. -/
  terminal : Bool := false

namespace Environment

def get? (env : Environment) (name : String) : Option String := env.values.lookup name

def includeDirectory? (env : Environment) : Option String :=
  env.get? "EZPROXY_LINT_INCLUDEFILE_DIRECTORY"

/-- Colours are for terminals, unless they are asked for or turned off. -/
def colors (env : Environment) : Bool :=
  (env.terminal && env.get? "CLICOLOR" != some "0") ||
    (env.get? "CLICOLOR_FORCE").any (· != "0")

end Environment

structure Finished where
  output : List UInt8 := []
  /-- The number of findings, or what stopped the program. -/
  outcome : Outcome := .count 0

namespace Finished

/-- A program that follows includes without end does not come to a status of its own. -/
def exitStatus (f : Finished) : Option Nat :=
  match f.outcome with
  | .count 0 => some 0
  | .count _ => some 2
  | .failure cause => some cause.exitStatus
  | .endless => none

def errorText (f : Finished) : String :=
  match f.outcome with
  | .failure cause => "Error: " ++ cause.message ++ "\n"
  | _ => ""

end Finished

namespace Program

def settings (files : Files) (line : CommandLine) : Except Failure Settings := do
  let base ← match line.settingsFile with
    | some path => Settings.load files path
    | none => .ok {}
  .ok (line.apply base)

def styleOf (env : Environment) (line : CommandLine) (settings : Settings) : Style where
  format := line.outputFormat
  color := !line.noColor && env.colors
  annotate := settings.annotate
  verbose := settings.verbose

def lintAll (checks : Checks) (style : Style) (files : Files) (s : Session) :
    List Path → Finished
  | [] => {}
  | path :: rest =>
    let (report, s) := s.lint checks style files path
    match report.outcome with
    | .count n =>
      let later := lintAll checks style files s rest
      ⟨report.output ++ later.output, later.outcome.add n⟩
    | outcome => ⟨report.output, outcome⟩

/-- Runs a command line. The output takes no more than so many bytes. -/
def runWithin (room : Option Nat) (files : Files) (titles : TitleLookup) (env : Environment)
    (line : CommandLine) : Finished :=
  match settings files line with
  | .error cause => { outcome := .failure cause }
  | .ok settings =>
    lintAll ⟨settings, titles⟩ (styleOf env line settings) files { room } line.files

def run (files : Files) (titles : TitleLookup) (env : Environment) (line : CommandLine) :
    Finished :=
  runWithin none files titles env line

end Program

end StanzaLint
