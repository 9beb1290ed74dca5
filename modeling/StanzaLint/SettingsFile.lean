import StanzaLint.Failure
import StanzaLint.Files
import StanzaLint.Settings
import StanzaLint.Text.Utf8
import StanzaLint.Toml.Parser

/-!
# Settings from a file

A settings file is a TOML document. Names that are no settings are allowed; a
setting of the wrong type is not.
-/

namespace StanzaLint

open Text Toml

namespace Settings

def switch? (entries : Entries) (name : String) (default : Bool) : Option Bool :=
  match entries.lookup name with
  | none => some default
  | some (.boolean b) => some b
  | some _ => none

def text? (entries : Entries) (name : String) : Option (Option String) :=
  match entries.lookup name with
  | none => some none
  | some (.string s) => some (some s)
  | some _ => none

def number? (entries : Entries) (name : String) : Option (Option Nat) :=
  match entries.lookup name with
  | none => some none
  | some (.integer i) => if i < 0 then none else some (some i.toNat)
  | some _ => none

def ofEntries? (entries : Entries) : Option Settings := do
  some {
    whitespace := ← switch? entries "whitespace" false
    directiveCase := ← switch? entries "directive_case" false
    https := ← switch? entries "https" false
    origins := ← switch? entries "origins" false
    hostnameEdits := ← switch? entries "additional_phe_checks" false
    source := ← switch? entries "source" false
    followIncludes := ← switch? entries "follow_includefile" true
    includeDirectory := ← text? entries "includefile_directory"
    maxIncludeDepth := ← number? entries "max_include_depth"
    annotate := ← switch? entries "annotate" false
    verbose := ← switch? entries "verbose" false }

def load (files : Files) (path : Path) : Except Failure Settings :=
  match files path with
  | .missing => .error (.config (.missing path))
  | .directory => .error (.unreadable path .isDirectory)
  | .locked text => .error (.unreadable path (.system text))
  | .file content => match decodeUtf8? content with
    | none => .error (.unreadable path .notUtf8)
    | some text => match (parse? text).bind ofEntries? with
      | some settings => .ok settings
      | none => .error (.config .malformed)

end Settings

end StanzaLint
