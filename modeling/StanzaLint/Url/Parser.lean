import StanzaLint.Url.Basic
import StanzaLint.Url.Path

/-!
# Reading URLs

Blanks and controls around the text and tabs and line ends inside it do not
count. What follows the scheme depends on it: a special scheme always has a
host, whatever the number of slashes; a file may have one; any other scheme has
an authority only behind two slashes.
-/

namespace StanzaLint.Url

open Text

def isEdge (c : Char) : Bool := c.toNat ≤ 0x20

def isSkipped (c : Char) : Bool := c == '\t' || c == '\n' || c == '\r'

def clean (cs : List Char) : List Char :=
  ((cs.dropWhile isEdge).reverse.dropWhile isEdge).reverse.filter (!isSkipped ·)

def isSchemeChar (c : Char) : Bool := c.isAlphanum || c == '+' || c == '-' || c == '.'

def splitScheme? (cs : List Char) : Option (String × List Char) :=
  if cs.head?.any Char.isAlpha then
    match cs.span isSchemeChar with
    | (scheme, ':' :: rest) => some (String.ofList (scheme.map Char.toLower), rest)
    | _ => none
  else none

def endsAuthority (special : Bool) (c : Char) : Bool := isSlash special c || c == '?' || c == '#'

def splitLast (c : Char) (cs : List Char) : Option (List Char × List Char) :=
  match cs.reverse.span (· != c) with
  | (after, _ :: before) => some (before.reverse, after.reverse)
  | (_, []) => none

/-- The host up to its colon; a colon inside brackets is part of it. -/
def splitHost (bracket : Bool) : List Char → List Char × List Char
  | [] => ([], [])
  | c :: cs =>
    if c == ':' && !bracket then ([], c :: cs)
    else
      let (host, rest) := splitHost (c == '[' || (bracket && c != ']')) cs
      (c :: host, rest)

def readPort (cs : List Char) : Except Fault (Option Nat × List Char) :=
  let (digits, rest) := cs.span Char.isDigit
  let port := digits.foldl (fun n c => 10 * n + (c.toNat - '0'.toNat)) 0
  if 65535 < port ∨ rest.head?.any (· != '\\') then .error .invalidPort
  else .ok (if digits.isEmpty then none else some port, rest)

def readCredentials (cs : List Char) : String × String :=
  let (user, password) := cs.span (· != ':')
  (String.ofList (percentEncode inUserinfo user),
    String.ofList (percentEncode inUserinfo (password.drop 1)))

def Host.nonempty? : Host → Option Host
  | .name "" => none
  | host => some host

def readHost (scheme : String) (cs : List Char) : Except Fault Host :=
  if isSpecial scheme then if cs.isEmpty then .error .emptyHost else Host.parse cs
  else Host.parseOpaque cs

/-- The host and port that `cs` spells, and what is left of it. -/
def readHostPort (scheme : String) (cs : List Char) :
    Except Fault (Option Host × Option Nat × List Char) := do
  let (text, rest) := splitHost false cs
  let host ← readHost scheme text
  match host.nonempty?, rest with
  | none, _ :: _ => .error .emptyHost
  | host, ':' :: digits => do
    let (port, rest) ← readPort digits
    return (host, if port = defaultPort? scheme then none else port, rest)
  | host, rest => return (host, none, rest)

/-- The authority in `region`. What follows it is `after`; the part of `region` that is
not read stands before that. -/
def readAuthority (scheme : String) (region after : List Char) :
    Except Fault (Authority × List Char) := do
  match splitLast '@' region with
  | none =>
    let (host, port, rest) ← readHostPort scheme region
    return (⟨"", "", host, port⟩, rest ++ after)
  | some ([], []) => if after.isEmpty then emptyAuthority else .error .emptyHost
  | some (info, region) =>
    let (username, password) := readCredentials info
    let (host, port, rest) ← readHostPort scheme region
    if host.isNone ∧ ¬(username = "" ∧ password = "") then .error .emptyHost
    else return (⟨username, password, host, port⟩, rest ++ after)
where
  /-- An authority that consists of `@` alone. -/
  emptyAuthority : Except Fault (Authority × List Char) := do
    let (host, port, _) ← readHostPort scheme []
    return (⟨"", "", host, port⟩, [])

def finish (scheme : String) (authority : Option Authority) (path : List Char → String)
    (cs : List Char) : Url :=
  let (main, fragment) := cs.span (· != '#')
  let (hierarchy, query) := main.span (· != '?')
  let inQuery := if isSpecial scheme then inSpecialQuery else inQuery
  { scheme, authority
    path := path hierarchy
    query := match query with
      | _ :: text => some (String.ofList (percentEncode inQuery text))
      | [] => none
    fragment := match fragment with
      | _ :: text => some (String.ofList (percentEncode inFragment text))
      | [] => none }

/-- The path behind an authority. Only a special scheme always has one. -/
def hostPath (special : Bool) : List Char → String
  | [] => if special then "/" else ""
  | c :: cs => joinSegments (segments special (if isSlash special c then cs else c :: cs))

def parseHosted (scheme : String) (cs : List Char) : Except Fault Url := do
  let special := isSpecial scheme
  let (region, after) := cs.span (!endsAuthority special ·)
  let (authority, rest) ← readAuthority scheme region after
  return finish scheme (some authority) (hostPath special) rest

/-- A drive letter in front of the path of a file, with its colon. -/
def normalDrive : List (List Char) → List (List Char)
  | [letter, '|'] :: rest => if letter.isAlpha then [letter, ':'] :: rest else [letter, '|'] :: rest
  | ss => ss

def startsWithDrive (ss : List (List Char)) : Bool := ss.head?.any isDriveLetter

def fileSegments (cs : List Char) : List (List Char) :=
  segments true (match cs with
    | c :: rest => if isSlash true c then rest else cs
    | [] => [])

def filePath (cs : List Char) : String := joinSegments (dropEmpty (normalDrive (fileSegments cs)))

/-- A file on this host, or, without a drive letter, on the host that is named. -/
def parseFileHost (cs : List Char) : Except Fault Url := do
  let (name, rest) := cs.span (!endsAuthority true ·)
  if name.isEmpty || isDriveLetter name then
    return finish "file" (some {}) filePath cs
  else
    let host ← Host.parse name
    let isLocal := host = .name "localhost" ∨ startsWithDrive (fileSegments (rest.takeWhile
      fun c => c != '?' && c != '#'))
    return finish "file" (some { host := if isLocal then none else some host }) filePath rest

def parseFile : List Char → Except Fault Url
  | c :: d :: rest =>
    if isSlash true c && isSlash true d then parseFileHost rest
    else return finish "file" (some {}) filePath (c :: d :: rest)
  | cs => return finish "file" (some {}) filePath cs

def parseOther (scheme : String) : List Char → Except Fault Url
  | '/' :: '/' :: rest => parseHosted scheme rest
  | '/' :: rest => return finish scheme none (hostPath false) ('/' :: rest)
  | cs => return finish scheme none (fun path => String.ofList (percentEncode [] path)) cs

def parse (text : String) : Except Fault Url :=
  match splitScheme? (clean text.toList) with
  | none => .error .noScheme
  | some ("file", rest) => parseFile rest
  | some (scheme, rest) =>
    if isSpecial scheme then parseHosted scheme (rest.dropWhile (isSlash true))
    else parseOther scheme rest

end StanzaLint.Url
