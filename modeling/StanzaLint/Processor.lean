import StanzaLint.Address
import StanzaLint.Diagnostic
import StanzaLint.Settings
import StanzaLint.Stanza
import StanzaLint.UrlLine

/-!
# Processing lines

Lines are processed one after the other. A line ends the stanza, is a comment,
is continued on the next line, or completes a logical line. A logical line that
names a directive is judged against the state that the lines before it left,
and then changes that state. What is found does not influence how the state
goes on.
-/

namespace StanzaLint

open Text

structure Processor where
  stanza : Stanza := {}
  /-- The last line ended a stanza. -/
  lastLineEmpty : Bool := false
  /-- The directive of the last line, if it has one. -/
  current : Option Directive := none
  /-- The titles and origins of the whole run. -/
  titles : Seen := []
  origins : Seen := []
  /-- The lookup that is installed. -/
  lookup : Option TitleSource := none
  deriving DecidableEq, Repr

structure Checks where
  settings : Settings
  titles : TitleLookup

inductive Line where
  | closing
  | comment (text : List Char)
  | unfinished (segment : List Char)
  | complete (text : List Char)
  deriving DecidableEq, Repr

namespace Line

def endsInBlank (line : String) : Bool :=
  line.toList.getLast?.any fun c => c == ' ' || c == '\t'

def ofText (text : List Char) : Line :=
  if text = [] ∨ text = ['#'] then .closing
  else if text.head? = some '#' then .comment text
  else match dropSuffix? ['\\'] text with
    | some segment => .unfinished segment
    | none => .complete text

def read (line : String) : Line := ofText (trim line.toList)

end Line

structure Entry where
  directive : Directive
  label : String
  text : List Char
  location : String
  deriving DecidableEq, Repr

namespace Entry

def payloadOf (label text : List Char) : List Char := trim ((dropPrefix? label text).getD text)

def payload (e : Entry) : String := String.ofList (payloadOf e.label.toList e.text)

end Entry

/-- What names the directive of a logical line: its first word, or for options the two
words that it consists of. -/
def labelOf? (text : List Char) : Option String :=
  match split ' ' text with
  | first :: rest =>
    if first = "Option".toList then if rest.length = 1 then some (String.ofList text) else none
    else some (String.ofList first)
  | [] => none

def hostnameEdit? (payload : String) : Option (List Char × List Char) :=
  match words payload.toList with
  | [find, replace] => some (find, replace)
  | _ => none

def domainOf (find : List Char) : List Char := (dropSuffix? ['$'] find).getD find

def hyphenated (domain : List Char) : List Char := domain.map fun c => if c = '.' then '-' else c

namespace Stanza

def startsSection : Option Directive → Bool
  | none => true
  | some d => d.isDbVar || d.isOpener ||
    [.group, .httpMethod, .addUserHeader, .anonymousURL].contains d

def endsSection : Option Directive → Bool
  | none => false
  | some d => d.isCloser ||
    [.url, .host, .hostJavaScript, .domain, .domainJavaScript, .replace, .neverProxy].contains d

def previousIn (s : Stanza) (ds : List Directive) : Bool := s.previous.any ds.contains

def expect (s : Stanza) (allowed : Bool) (place : Place) : List Diagnostic :=
  if allowed then [] else [.misplaced place s.previous]

/-- An option that closes nothing before the title holds for the whole stanza. -/
def setsCookies (s : Stanza) : Bool :=
  s.title = "" && !s.openOptions.any (·.requiredCloser? == some .optionCookie)

def openerFindings (s : Stanza) (d : Directive) : List Diagnostic :=
  s.expect (startsSection s.previous || s.previousIn [.optionCookie]) (.opener d)

def closerFindings (s : Stanza) (d : Directive) : List Diagnostic :=
  if d == .optionCookie && s.setsCookies then []
  else s.expect (endsSection s.previous || s.previous.any Directive.isDbVar ||
    s.previousIn [.addUserHeader, .anonymousURL]) (.closer d)

def userHeaderFindings (s : Stanza) (payload : String) : List Diagnostic :=
  if payload = "" then
    s.expect (endsSection s.previous || s.previousIn [.anonymousURL]) .userHeaderEnd
  else s.expect (startsSection s.previous ||
    s.previousIn [.cookie, .optionCookie, .proxyHostnameEdit]) .userHeader

def anonymousUrlFindings (s : Stanza) (payload : String) : List Diagnostic :=
  if payload = "-*" then
    s.expect (endsSection s.previous || s.previousIn [.addUserHeader]) .anonymousUrlEnd
  else s.expect (startsSection s.previous || s.previousIn [.cookie, .proxyHostnameEdit])
    .anonymousUrl

/-- A title right behind the end of an `AnonymousURL` section is out of order as well. -/
def titleOrderFindings (s : Stanza) : List Diagnostic :=
  s.expect (startsSection s.previous || s.previousIn [.proxyHostnameEdit, .referer, .cookie,
      .optionEbraryUnencodedTokens, .optionCookie]) .title ++
    s.expect (!(s.previousIn [.anonymousURL] && !s.anonymousUrlOpen)) .title

def orderFindings (s : Stanza) (d : Directive) (payload : String) : List Diagnostic :=
  if d.isOpener then s.openerFindings d
  else if d.isCloser then s.closerFindings d
  else match d with
    | .proxyHostnameEdit => s.expect (startsSection s.previous ||
        s.previousIn [.cookie, .optionCookie, .proxyHostnameEdit]) .hostnameEdit
    | .addUserHeader => s.userHeaderFindings payload
    | .anonymousURL => s.anonymousUrlFindings payload
    | .title => s.titleOrderFindings
    | .description => s.expect (s.previousIn [.title, .description]) .description
    | .url => s.expect (s.previousIn [.allowVars, .description, .eblSecret, .ebrarySite,
        .encryptVar, .httpHeader, .mimeFilter, .title]) .url
    | _ => []

def findFindings (s : Stanza) (d : Directive) : List Diagnostic :=
  if s.previous = some .find ∧ d ≠ .replace then [.findWithoutReplace] else []

/-- The earlier edits whose pattern is found in this domain. -/
def depthFindings (s : Stanza) (domain : List Char) : List Diagnostic :=
  (s.hostnameEdits.filter fun earlier =>
    (Pattern.read? earlier.pattern.toList).any (Pattern.isIn · domain)).map
      fun earlier => .hostnameEditDepth earlier.domain

def hostnameEditFindings (s : Stanza) (settings : Settings) (payload : String) :
    List Diagnostic :=
  match hostnameEdit? payload with
  | none => [.hostnameEditPair]
  | some (find, replace) =>
    if settings.hostnameEdits then
      (if endsWith ['$'] find then [] else [.hostnameEditFind]) ++
        (if hyphenated (domainOf find) = replace then [] else [.hostnameEditReplace]) ++
        s.depthFindings (domainOf find)
    else []

/-- The title is compared with the one of the source, with or without the mark that
hides it. -/
def sourceFindings (s : Stanza) (title : String) : List Diagnostic :=
  if s.sourceTitle = "" ∨ title = s.sourceTitle ∨ title = "-Hide " ++ s.sourceTitle then []
  else [.sourceTitle s.sourceTitle title]

def closingFindings (s : Stanza) : List Diagnostic :=
  (if s.title ≠ "" ∧ s.url = "" ∧ ¬s.isSeparator then [.titleWithoutUrl s.title] else []) ++
    (if s.userHeaderOpen then [.unclosedUserHeader s.title] else []) ++
    (if s.anonymousUrlOpen then [.unclosedAnonymousUrl s.title] else []) ++
    s.openOptions.map (.unclosedOption s.title)

def contribution (s : Stanza) : Seen :=
  (if s.urlOrigin = "" then [] else [(s.urlOrigin, s.urlLocation)]) ++ s.origins

end Stanza

namespace Processor

def originFindings (p : Processor) (url : Url) : List Diagnostic :=
  (p.origins.location? url.origin).toList.map .originSeen

def titleFindings (p : Processor) (title : String) : List Diagnostic :=
  (if p.stanza.title = "" then [] else [.duplicateTitle]) ++
    (p.titles.location? title).toList.map .titleSeen ++ p.stanza.sourceFindings title

def startingPointFindings (p : Processor) (settings : Settings) (value : String) :
    List Diagnostic :=
  match Address.startingPoint? value with
  | .error fault => [.urlUnparsable fault]
  | .ok none => [.urlWithoutScheme]
  | .ok (some url) =>
    (if settings.https ∧ url.scheme ≠ "https" then [.urlNotHttps] else []) ++ p.originFindings url

def urlFindings (p : Processor) (settings : Settings) (text : List Char) : List Diagnostic :=
  let value := UrlLine.find? (String.ofList text)
  (if p.stanza.title = "" then [.urlBeforeTitle] else []) ++
    (if p.stanza.url = "" then [] else [.duplicateUrl]) ++
    (if value.isNone then [.urlFormat] else []) ++
    p.startingPointFindings settings (value.getD "")

def hostFindings (p : Processor) (settings : Settings) (payload : String) : List Diagnostic :=
  match Address.parseHost payload with
  | .error fault => [.urlUnparsable fault]
  | .ok url => p.originFindings url ++
    if settings.origins then (p.stanza.origins.location? url.origin).toList.map .originRepeated
    else []

def domainFindings (payload : String) : List Diagnostic :=
  match Address.isBareDomain payload with
  | .error fault => [.urlUnparsable fault]
  | .ok true => []
  | .ok false => [.domainNotBare]

def valueFindings (p : Processor) (settings : Settings) (e : Entry) : List Diagnostic :=
  match e.directive with
  | .proxyHostnameEdit => p.stanza.hostnameEditFindings settings e.payload
  | .title => p.titleFindings e.payload
  | .url => p.urlFindings settings e.text
  | .host | .hostJavaScript => p.hostFindings settings e.payload
  | .domain | .domainJavaScript => domainFindings e.payload
  | _ => []

end Processor

namespace Stanza

def withOption (s : Stanza) (d : Directive) : Stanza :=
  if d.isOpener then { s with openOptions := s.openOptions ++ [d] }
  else if d.isCloser then
    { s with openOptions := s.openOptions.filter (·.requiredCloser? != some d) }
  else s

def withTitle (s : Stanza) (title : String) : Stanza :=
  if s.title = "" then { s with title } else s

def withOrigin (s : Stanza) (origin location : String) : Stanza :=
  if s.urlOrigin = "" then { s with urlOrigin := origin, urlLocation := location } else s

def withUrl (s : Stanza) (value location : String) : Stanza :=
  let s := if s.url = "" then { s with url := value } else s
  match Address.startingPoint? value with
  | .ok (some url) => s.withOrigin url.origin location
  | _ => s

def withHost (s : Stanza) (payload location : String) : Stanza :=
  match Address.parseHost payload with
  | .ok url => { s with origins := s.origins.note url.origin location }
  | .error _ => s

def withHostnameEdit (s : Stanza) (settings : Settings) (payload : String) : Stanza :=
  match hostnameEdit? payload with
  | some (find, _) =>
    let domain := String.ofList (domainOf find)
    if settings.hostnameEdits ∧ domain ∉ s.hostnameEdits.map (·.domain) then
      { s with hostnameEdits := s.hostnameEdits ++ [⟨domain, subdomainPattern domain⟩] }
    else s
  | none => s

def withValue (s : Stanza) (settings : Settings) (e : Entry) : Stanza :=
  match e.directive with
  | .proxyHostnameEdit => s.withHostnameEdit settings e.payload
  | .addUserHeader => { s with userHeaderOpen := e.payload ≠ "" }
  | .anonymousURL => { s with anonymousUrlOpen := e.payload ≠ "-*" }
  | .title => s.withTitle e.payload
  | .description => { s with isSeparator := true }
  | .url => s.withUrl ((UrlLine.find? (String.ofList e.text)).getD "") e.location
  | .host | .hostJavaScript => s.withHost e.payload e.location
  | _ => s

def after (s : Stanza) (settings : Settings) (e : Entry) : Stanza :=
  { (s.withOption e.directive).withValue settings e with
    previous := some e.directive, label := e.label }

end Stanza

namespace Processor

/-- The last stanza is over. Its origins count from now on. -/
def close (p : Processor) : Processor × List Diagnostic :=
  ({ p with
      stanza := {}
      lastLineEmpty := true
      origins := p.origins.noteAll p.stanza.contribution },
    p.stanza.closingFindings)

/-- Asks for the title of a page. The lookup is taken out meanwhile and put back whatever it
answers. If none is installed, a client of the website is started for it. -/
def lookUp (p : Processor) (titles : TitleLookup) (url : Url) :
    Processor × Except SourceFault (Option String) :=
  let taken := { p with lookup := none }
  match p.lookup, titles with
  | none, .unavailable fault => (taken, .error fault)
  | none, titles => ({ taken with lookup := some .website }, titles.expected url)
  | some lookup, titles => ({ taken with lookup := some lookup }, titles.expected url)

/-- A comment counts only if it names a source. One that cannot be resolved leaves the stanza as
it is. -/
def comment (p : Processor) (checks : Checks) (text : List Char) : Processor × List Diagnostic :=
  if checks.settings.source ∧ (dropPrefix? SourceComment.lead text).isSome then
    match SourceComment.parse text with
    | .error fault => (p, [.sourceFault fault])
    | .ok url => match p.lookUp checks.titles url with
      | (p, .error fault) => (p, [.sourceFault fault])
      | (p, .ok title) =>
        ({ p with stanza := { p.stanza with source := url.href, sourceTitle := title.getD "" } },
          [])
  else (p, [])

def caseFindings (settings : Settings) (label : String) : Directive.Match → List Diagnostic
  | .exact _ => []
  | .wrongCase d => if settings.directiveCase then [.wrongCase label d] else []

def entry (p : Processor) (settings : Settings) (e : Entry) : Processor × List Diagnostic :=
  ({ p with
      stanza := p.stanza.after settings e
      current := some e.directive
      titles := if e.directive = .title then p.titles.note e.payload e.location else p.titles },
    p.stanza.findFindings e.directive ++ p.stanza.orderFindings e.directive e.payload ++
      p.valueFindings settings e)

def logicalLine (p : Processor) (settings : Settings) (text : List Char) (location : String) :
    Processor × List Diagnostic :=
  let p := { p with stanza := { p.stanza with isSeparator := false } }
  match labelOf? text with
  | none => (p, [.malformedOption])
  | some label => match Directive.find? label with
    | none => (p, [.unknownDirective label])
    | some found =>
      let (p, ds) := p.entry settings ⟨found.directive, label, text, location⟩
      (p, caseFindings settings label found ++ ds)

def unfinished (p : Processor) (segment : List Char) : Processor :=
  { p with stanza := { p.stanza with
      inMultiline := true
      pending := p.stanza.pending ++ String.ofList segment } }

def complete (p : Processor) (settings : Settings) (text : List Char) (location : String) :
    Processor × List Diagnostic :=
  if p.stanza.inMultiline then
    let joined := p.stanza.pending.toList ++ text
    { p with stanza := { p.stanza with inMultiline := false, pending := "" } }.logicalLine settings
      joined location
  else p.logicalLine settings text location

def read (p : Processor) (checks : Checks) (line : Line) (location : String) :
    Processor × List Diagnostic :=
  let p := { p with current := none }
  match line with
  | .closing => p.close
  | .comment text => { p with lastLineEmpty := false }.comment checks text
  | .unfinished segment => ({ p with lastLineEmpty := false }.unfinished segment, [])
  | .complete text =>
    { p with lastLineEmpty := false }.complete checks.settings text location

def step (p : Processor) (checks : Checks) (line location : String) :
    Processor × List Diagnostic :=
  let (p, ds) := p.read checks (Line.read line) location
  (p, (if checks.settings.whitespace ∧ Line.endsInBlank line then [.trailingBlank] else []) ++ ds)

structure Suspended where
  stanza : Stanza
  lastLineEmpty : Bool
  deriving DecidableEq, Repr

def suspend (p : Processor) : Suspended × Processor :=
  (⟨p.stanza, p.lastLineEmpty⟩, { p with stanza := {}, lastLineEmpty := false })

def resume (p : Processor) (s : Suspended) : Processor :=
  { p with stanza := s.stanza, lastLineEmpty := s.lastLineEmpty }

end Processor

end StanzaLint
