import StanzaLint.Path
import StanzaLint.Text.Quoted

/-!
# Failures

What ends a run before its files have been read. Findings are no failures. A
failure inside an included file is wrapped once for every file that includes it.
-/

namespace StanzaLint

open Text

inductive ReadFault where
  | isDirectory
  | notUtf8
  | system (text : String)
  deriving DecidableEq, Repr

def ReadFault.message : ReadFault → String
  | .isDirectory => "Is a directory (os error 21)"
  | .notUtf8 => "stream did not contain valid UTF-8"
  | .system text => text

inductive ConfigFault where
  | missing (path : Path)
  | malformed
  deriving DecidableEq, Repr

def ConfigFault.message : ConfigFault → String
  | .missing path => "Config file not found: " ++ path
  | .malformed => "Failed to parse config"

inductive WriteFault where
  | object
  | text
  deriving DecidableEq, Repr

inductive Failure where
  | notFound (path : Path)
  | unreadable (path : Path) (fault : ReadFault)
  | missingIncludePath (line : String)
  | included (line : String) (path : Path) (cause : Failure)
  | tooDeep (path : Path) (limit : Nat)
  | config (fault : ConfigFault)
  | unwritable (fault : WriteFault)
  deriving DecidableEq, Repr

namespace Failure

def message : Failure → String
  | notFound path => "File not found: " ++ path
  | unreadable path fault => "Unable to read " ++ path ++ ": " ++ fault.message
  | missingIncludePath line => "Unable to find IncludeFile path on line " ++ quote line
  | included line path cause =>
    "Error encountered when processing line " ++ quote line ++ " (resolved to " ++ path ++ "): " ++
      cause.message
  | tooDeep path limit =>
    "IncludeFile nesting deeper than " ++ toString limit ++ " levels at " ++ path
  | config fault => "Configuration error: " ++ fault.message
  | unwritable .object => "JSON error: writer is full"
  | unwritable .text => "Output error: writer is full"

def exitStatus : Failure → Nat
  | included _ _ cause => cause.exitStatus
  | tooDeep _ _ => 4
  | config _ => 3
  | _ => 1

end Failure

end StanzaLint
