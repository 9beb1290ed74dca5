import StanzaLint.Report
import StanzaLint.Settings

/-!
# The command line

Options and files may stand in any order. A word that may belong to an option or to
the files waits until it is clear what it is; its value is judged then. The first
fault counts.
-/

namespace StanzaLint

inductive Switch where
  | annotate
  | verbose
  | whitespace
  | directiveCase
  | https
  | origins
  | hostnameEdits
  | source
  | noFollow
  | noColor
  deriving DecidableEq, Repr

inductive Parameter where
  | includeDirectory
  | maxDepth
  | format
  | settingsFile
  deriving DecidableEq, Repr

/-- What keeps a command line from being run. Asking for help is one such thing. -/
inductive UsageFault where
  | missingFile
  | unknown
  | repeated
  | invalidValue
  | invalidNumber
  | unneededValue
  | help
  | version
  deriving DecidableEq, Repr

def UsageFault.exitStatus : UsageFault → Nat
  | .help | .version => 0
  | _ => 2

structure CommandLine where
  files : List Path := []
  switches : List Switch := []
  includeDirectory : Option Path := none
  maxDepth : Option Nat := none
  format : Option Format := none
  settingsFile : Option Path := none
  deriving DecidableEq, Repr

namespace CommandLine

def switchNames : List (String × Switch) := [
  ("annotate", .annotate), ("verbose", .verbose), ("whitespace", .whitespace),
  ("case", .directiveCase), ("https", .https), ("origins", .origins), ("phe", .hostnameEdits),
  ("source", .source), ("no-follow-includefile", .noFollow), ("no-color", .noColor)]

def parameterNames : List (String × Parameter) := [
  ("includefile-directory", .includeDirectory), ("max-include-depth", .maxDepth),
  ("format", .format), ("config", .settingsFile)]

def has (line : CommandLine) (parameter : Parameter) : Bool :=
  match parameter with
  | .includeDirectory => line.includeDirectory.isSome
  | .maxDepth => line.maxDepth.isSome
  | .format => line.format.isSome
  | .settingsFile => line.settingsFile.isSome

def formatOf? : String → Option Format
  | "text" => some .text
  | "json" => some .json
  | _ => none

def dropPlus : List Char → List Char
  | '+' :: rest => rest
  | cs => cs

def numberOf? (value : String) : Option Nat :=
  let digits := dropPlus value.toList
  if digits.isEmpty || !digits.all Char.isDigit then none
  else
    let n := digits.foldl (fun n c => n * 10 + (c.toNat - 48)) 0
    if n < UInt64.size then some n else none

def pathOf? (value : String) : Option Path := if value.isEmpty then none else some value

def assign (line : CommandLine) (parameter : Parameter) (value : String) :
    Except UsageFault CommandLine :=
  if line.has parameter then .error .repeated
  else match parameter with
    | .includeDirectory => match pathOf? value with
      | some path => .ok { line with includeDirectory := some path }
      | none => .error .invalidValue
    | .maxDepth => match numberOf? value with
      | some n => .ok { line with maxDepth := some n }
      | none => .error .invalidNumber
    | .format => match formatOf? value with
      | some format => .ok { line with format := some format }
      | none => .error .invalidValue
    | .settingsFile => match pathOf? value with
      | some path => .ok { line with settingsFile := some path }
      | none => .error .invalidValue

inductive Pending where
  | nothing
  | files (words : List String)
  | parameter (parameter : Parameter) (value : Option String)
  deriving DecidableEq, Repr

structure Reader where
  line : CommandLine := {}
  pending : Pending := .nothing
  deriving DecidableEq, Repr

namespace Reader

def settle (r : Reader) : Except UsageFault CommandLine :=
  match r.pending with
  | .nothing => .ok r.line
  | .files words =>
    if words.any (·.isEmpty) then .error .invalidValue
    else .ok { r.line with files := r.line.files ++ words }
  | .parameter _ none => .error .invalidValue
  | .parameter parameter (some value) => r.line.assign parameter value

def switch (r : Reader) (switch : Switch) : Except UsageFault Reader := do
  let line ← r.settle
  if switch ∈ line.switches then .error .repeated
  else .ok { line := { line with switches := line.switches ++ [switch] } }

/-- A parameter; without a value of its own the next word is its value. -/
def parameter (r : Reader) (parameter : Parameter) (value : Option String) :
    Except UsageFault Reader := do
  let line ← r.settle
  match value with
  | some value => .ok { line := ← line.assign parameter value }
  | none => .ok { line, pending := .parameter parameter none }

def ask (r : Reader) (fault : UsageFault) : Except UsageFault Reader := do
  let _ ← r.settle
  .error fault

def file (r : Reader) (word : String) : Except UsageFault Reader :=
  match r.pending with
  | .files words => .ok { r with pending := .files (words ++ [word]) }
  | _ => do .ok { line := ← r.settle, pending := .files [word] }

def word (r : Reader) (word : String) : Except UsageFault Reader :=
  match r.pending with
  | .parameter parameter none => .ok { r with pending := .parameter parameter (some word) }
  | _ => r.file word

def long (r : Reader) (name : String) (value : Option String) : Except UsageFault Reader :=
  let plain (read : Except UsageFault Reader) :=
    if value.isSome then .error .unneededValue else read
  match parameterNames.lookup name, switchNames.lookup name with
  | some parameter, _ => r.parameter parameter value
  | none, some switch => plain (r.switch switch)
  | none, none =>
    if name = "help" then plain (r.ask .help)
    else if name = "version" then plain (r.ask .version)
    else .error .unknown

def attached : List Char → Option String
  | [] => none
  | '=' :: rest => some (String.ofList rest)
  | rest => some (String.ofList rest)

def letters (r : Reader) : List Char → Except UsageFault Reader
  | [] => .ok r
  | 'v' :: rest => do letters (← r.switch .verbose) rest
  | 'f' :: rest => r.parameter .format (attached rest)
  | 'h' :: _ => r.ask .help
  | 'V' :: _ => r.ask .version
  | _ => .error .unknown

def splitValue (cs : List Char) : String × Option String :=
  match cs.span (· != '=') with
  | (name, '=' :: value) => (String.ofList name, some (String.ofList value))
  | (name, _) => (String.ofList name, none)

/-- Reads the words in order. Behind two hyphens all words are files. -/
def read (r : Reader) : List String → Except UsageFault Reader
  | [] => .ok r
  | arg :: rest => match arg.toList with
    | ['-', '-'] => rest.foldlM file r
    | '-' :: '-' :: cs => do
      let (name, value) := splitValue cs
      read (← r.long name value) rest
    | '-' :: c :: cs => do read (← r.letters (c :: cs)) rest
    | _ => do read (← r.word arg) rest

end Reader

/-- Reads the arguments. `directory` is the include directory to use when they give none. -/
def parse (directory : Option String) (args : List String) : Except UsageFault CommandLine := do
  let reader ← Reader.read {} args
  let line ← reader.settle
  let line ← match line.includeDirectory, directory with
    | none, some value => line.assign .includeDirectory value
    | _, _ => .ok line
  if line.files.isEmpty then .error .missingFile else .ok line

def apply (line : CommandLine) (base : Settings) : Settings :=
  let on (switch : Switch) : Bool := line.switches.contains switch
  { whitespace := base.whitespace || on .whitespace
    directiveCase := base.directiveCase || on .directiveCase
    https := base.https || on .https
    origins := base.origins || on .origins
    hostnameEdits := base.hostnameEdits || on .hostnameEdits
    source := base.source || on .source
    followIncludes := base.followIncludes && !on .noFollow
    includeDirectory := line.includeDirectory <|> base.includeDirectory
    maxIncludeDepth := line.maxDepth <|> base.maxIncludeDepth
    annotate := base.annotate || on .annotate
    verbose := base.verbose || on .verbose }

def outputFormat (line : CommandLine) : Format := line.format.getD .text

def noColor (line : CommandLine) : Bool := line.switches.contains .noColor

end CommandLine

end StanzaLint
