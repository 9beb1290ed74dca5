import StanzaLint.Url.Parser

/-!
# The addresses that directives name

A starting point has to be a URL with a host. A host may be given by name
alone, which means the scheme `http`. A domain is given without a scheme and
without a path.
-/

namespace StanzaLint.Address

/-- A starting point; none for a text that is no URL or a URL without a host. -/
def startingPoint? (value : String) : Except Url.Fault (Option Url) :=
  match Url.parse value with
  | .ok url => .ok (if url.host?.isSome then some url else none)
  | .error .noScheme | .error .emptyHost => .ok none
  | .error fault => .error fault

def parseName (value : String) : Except Url.Fault Url :=
  match Url.parse ("http://" ++ value) with
  | .ok url => if url.host?.isSome then .ok url else .error .emptyHost
  | .error fault => .error fault

def parseHost (value : String) : Except Url.Fault Url :=
  match Url.parse value with
  | .ok url => if url.host?.isSome then .ok url else parseName value
  | .error .noScheme => parseName value
  | .error fault => .error fault

def isBareDomain (value : String) : Except Url.Fault Bool :=
  match Url.parse value with
  | .ok _ => .ok false
  | .error .noScheme =>
    .ok (!(value.toList.takeWhile fun c => c != '?' && c != '#').contains '/')
  | .error fault => .error fault

end StanzaLint.Address
