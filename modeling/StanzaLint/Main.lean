import StanzaLint.Program

/-!
# The command

Reads the files that a run needs, runs it, and writes what it printed. Pages that
source comments name are not fetched.
-/

namespace StanzaLint.Command

def usage : String :=
  "Usage: stanza-lint [OPTIONS] <FILE>...\n\n" ++
  "      --annotate                      Print all lines\n" ++
  "  -v, --verbose                       Print the state before each line\n" ++
  "      --whitespace                    Report spaces and tabs at line ends\n" ++
  "      --case                          Report labels in the wrong letter case\n" ++
  "      --https                         Report starting points without https\n" ++
  "      --origins                       Report origins repeated in a stanza\n" ++
  "      --phe                           Check hostname edits\n" ++
  "      --source                        Check titles against source comments\n" ++
  "      --no-follow-includefile         Do not read included files\n" ++
  "      --includefile-directory <DIR>   Where relative include paths start\n" ++
  "      --max-include-depth <N>         Fail when includes nest deeper\n" ++
  "  -f, --format <text|json>            Output format\n" ++
  "      --no-color                      No colours\n" ++
  "      --config <PATH>                 Read settings from a TOML file\n" ++
  "  -h, --help                          Print this text\n" ++
  "  -V, --version                       Print the version\n"

def usageText : UsageFault → String
  | .missingFile => "error: no file was given\n\n" ++ usage
  | .unknown => "error: unknown option\n\n" ++ usage
  | .repeated => "error: an option was given twice\n\n" ++ usage
  | .invalidValue => "error: an option or file has no valid value\n\n" ++ usage
  | .invalidNumber => "error: the include depth is not a number\n\n" ++ usage
  | .unneededValue => "error: an option takes no value\n\n" ++ usage
  | .help => usage
  | .version => "stanza-lint 0.3.0\n"

def lookUp (path : Path) : IO Lookup := do
  try
    return .file (← IO.FS.readBinFile path).toList
  catch
    | .inappropriateType .. => return .directory
    | error@(.permissionDenied ..) => return .locked (toString error)
    | _ => return .missing

abbrev Known := List (Path × Lookup)

def Known.files (known : Known) : Files := fun path => (known.lookup path).getD .missing

/-- Looks up paths and all that the files there include. -/
partial def load (checks : Checks) (known : Known) : List Path → IO Known
  | [] => return known
  | path :: rest => do
    if (known.lookup path).isSome then load checks known rest
    else
      let found ← lookUp path
      let more := match found with
        | .file content => Run.includes checks path content
        | _ => []
      load checks ((path, found) :: known) (more ++ rest)

def environment : IO Environment := do
  let names := ["EZPROXY_LINT_INCLUDEFILE_DIRECTORY", "CLICOLOR", "CLICOLOR_FORCE"]
  let values ← names.filterMapM fun name => return (← IO.getEnv name).map (name, ·)
  return { values, terminal := ← (← IO.getStdout).isTty }

def run (args : List String) : IO UInt32 := do
  let env ← environment
  match CommandLine.parse env.includeDirectory? args with
  | .error fault =>
    let text := usageText fault
    if fault.exitStatus = 0 then IO.print text else IO.eprint text
    return fault.exitStatus.toUInt32
  | .ok line =>
    let titles : TitleLookup := .pages fun _ => .ok none
    let first : Known ← line.settingsFile.toList.mapM fun path => return (path, ← lookUp path)
    let found ← match Program.settings first.files line with
      | .ok settings => load ⟨settings, titles⟩ [] line.files
      | .error _ => pure []
    let finished := Program.run (Known.files (first ++ found)) titles env line
    (← IO.getStdout).write ⟨finished.output.toArray⟩
    IO.eprint finished.errorText
    match finished.exitStatus with
    | some status => return status.toUInt32
    | none => throw (IO.userError "IncludeFile nesting does not end")

end StanzaLint.Command

def main (args : List String) : IO UInt32 := StanzaLint.Command.run args
