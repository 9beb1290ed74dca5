import StanzaLint.Url.Parser

/-!
# Source comments

A comment `# Source - ` with an address says where a stanza was copied from.
The page there holds the stanza as it is now, and with it its title.
-/

namespace StanzaLint

inductive SourceFault where
  | malformed
  | url (fault : Url.Fault)
  | notHttps
  | notOclc
  | http (text : String)
  | status (code : Nat) (address : String)
  | runtime (text : String)
  deriving DecidableEq, Repr

def SourceFault.message : SourceFault → String
  | .malformed => "source line is malformed"
  | .url fault => fault.message
  | .notHttps => "source line isn't using https"
  | .notOclc => "source line isn't pointing to OCLC"
  | .http text => text
  | .status code address => "OCLC returned HTTP " ++ toString code ++ " for " ++ address
  | .runtime text => "unable to start async runtime: " ++ text

/-- A lookup for titles: one that was handed in, or a client of the website. -/
inductive TitleSource where
  | given
  | website
  deriving DecidableEq, Repr

/-- What looking up titles leads to at some time: to the answers of the lookup that is asked, or
to nothing, because no client of the website can be started. -/
inductive TitleLookup where
  | pages (title : Url → Except SourceFault (Option String))
  | unavailable (fault : SourceFault)

def TitleLookup.expected : TitleLookup → Url → Except SourceFault (Option String)
  | pages title, url => title url
  | unavailable fault, _ => .error fault

namespace SourceComment

open Text

def lead : List Char := "# Source - ".toList

def parse (line : List Char) : Except SourceFault Url :=
  match split ' ' line with
  | [_, _, _, address] =>
    match Url.parse (String.ofList address) with
    | .error fault => .error (.url fault)
    | .ok url =>
      if url.scheme ≠ "https" then .error .notHttps
      else if url.hostText? ≠ some "help.oclc.org" then .error .notOclc
      else .ok url
  | _ => .error .malformed

end SourceComment

end StanzaLint
