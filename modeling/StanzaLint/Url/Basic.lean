import StanzaLint.Url.Host

/-!
# URLs

A URL in its parts, each in its encoded form, and the text that they make. The
origin of a URL is its scheme, host and port.
-/

namespace StanzaLint

/-- What stands behind `//`. A URL may have this part and yet no host. -/
structure Url.Authority where
  username : String := ""
  password : String := ""
  host : Option Url.Host := none
  port : Option Nat := none
  deriving DecidableEq, Repr

structure Url where
  scheme : String
  authority : Option Url.Authority
  path : String
  query : Option String
  fragment : Option String
  deriving DecidableEq, Repr

namespace Url

def defaultPort? : String → Option Nat
  | "http" | "ws" => some 80
  | "https" | "wss" => some 443
  | "ftp" => some 21
  | _ => none

def isSpecial (scheme : String) : Bool := scheme == "file" || (defaultPort? scheme).isSome

def portText : Option Nat → String
  | some port => ":" ++ toString port
  | none => ""

def Authority.credentials (a : Authority) : String :=
  if a.username = "" ∧ a.password = "" then ""
  else a.username ++ (if a.password = "" then "" else ":" ++ a.password) ++ "@"

def Authority.render (a : Authority) : String :=
  "//" ++ a.credentials ++ (a.host.map Host.render).getD "" ++ portText a.port

def host? (u : Url) : Option Host := u.authority.bind (·.host)

def port? (u : Url) : Option Nat := u.authority.bind (·.port)

def hostText? (u : Url) : Option String := u.host?.map Host.render

/-- Without an authority a path must not start like one. -/
def start (u : Url) : String :=
  match u.authority with
  | some a => a.render
  | none => if u.path.startsWith "//" then "/." else ""

def href (u : Url) : String :=
  u.scheme ++ ":" ++ u.start ++ u.path ++ (u.query.map ("?" ++ ·)).getD "" ++
    (u.fragment.map ("#" ++ ·)).getD ""

def origin (u : Url) : String :=
  u.scheme ++ "://" ++ u.hostText?.getD "" ++ portText u.port?

end Url

end StanzaLint
