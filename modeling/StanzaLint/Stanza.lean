import StanzaLint.Directive
import StanzaLint.Pattern
import StanzaLint.Text.Json

/-!
# The state of a stanza

What is remembered of the lines since the stanza began. A stanza that ends
leaves nothing of this behind.
-/

namespace StanzaLint

abbrev Seen := List (String × String)

namespace Seen

def location? (seen : Seen) (key : String) : Option String := seen.lookup key

/-- A text that has been seen keeps its location. -/
def note (seen : Seen) (key location : String) : Seen :=
  if (seen.location? key).isSome then seen else (key, location) :: seen

def noteAll (seen more : Seen) : Seen :=
  more.foldl (fun seen (key, location) => seen.note key location) seen

def sorted (seen : Seen) : Seen := seen.mergeSort fun a b => decide (a.1 ≤ b.1)

end Seen

/-- The domain of a hostname edit, and the pattern that later ones are judged by. -/
structure HostnameEdit where
  domain : String
  pattern : String
  deriving DecidableEq, Repr

structure Stanza where
  title : String := ""
  url : String := ""
  /-- The origin of the first usable starting point, and where it stands. -/
  urlOrigin : String := ""
  urlLocation : String := ""
  previous : Option Directive := none
  /-- The previous directive as it was spelled. -/
  label : String := ""
  /-- The options that still have to be closed, in the order of their lines. -/
  openOptions : List Directive := []
  anonymousUrlOpen : Bool := false
  userHeaderOpen : Bool := false
  /-- A title with nothing but descriptions behind it needs no starting point. -/
  isSeparator : Bool := false
  inMultiline : Bool := false
  /-- The text of the unfinished lines. -/
  pending : String := ""
  /-- The address of the last source comment, and the title found there. -/
  source : String := ""
  sourceTitle : String := ""
  /-- The hostname edits in the order of their first lines. -/
  hostnameEdits : List HostnameEdit := []
  /-- The origins of the hosts. -/
  origins : Seen := []
  deriving DecidableEq, Repr

namespace Stanza

open Text

def subdomainPattern (domain : String) : String :=
  "[.]" ++ String.ofList (Pattern.escape domain.toList) ++ "$"

def toJson (s : Stanza) : Json := .object [
  ("Title", .string s.title),
  ("URL", .string s.url),
  ("URLOrigin", .string s.urlOrigin),
  ("URLAt", .string s.urlLocation),
  ("PreviousDirective", .string (Directive.labelOf s.previous)),
  ("PreviousLabel", .string s.label),
  ("OpenOptions", .array (s.openOptions.map fun d => .string d.label)),
  ("AnonymousURLNeedsClosing", .bool s.anonymousUrlOpen),
  ("AddUserHeaderNeedsClosing", .bool s.userHeaderOpen),
  ("IsSeparator", .bool s.isSeparator),
  ("InMultiline", .bool s.inMultiline),
  ("PreviousMultilineSegments", .string s.pending),
  ("Source", .string s.source),
  ("OCLCTitle", .string s.sourceTitle),
  ("ProxyHostnameEditPatterns",
    .object (s.hostnameEdits.map fun edit => (edit.domain, .string edit.pattern))),
  ("StanzaOrigins",
    .object (s.origins.sorted.map fun (origin, location) => (origin, .string location)))]

end Stanza

end StanzaLint
