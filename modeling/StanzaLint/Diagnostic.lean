import StanzaLint.Directive
import StanzaLint.SourceComment
import StanzaLint.Text.Quoted

/-!
# Diagnostics

Each finding is a cause with the facts that its message names, and has a stable
code. Codes are grouped: `L1` order, `L2` duplicates, `L3` malformed values,
`L4` what a stanza lacks, `L5` style, `L9` the rest.
-/

namespace StanzaLint

inductive Code where
  | titleOrder | urlOrder | anonymousUrlEndOrder | anonymousUrlOrder | openerOrder | closerOrder
  | hostnameEditOrder | hostnameEditDepth | urlBeforeTitle | userHeaderEndOrder | userHeaderOrder
  | descriptionOrder | duplicateTitle | originSeen | duplicateUrl | titleSeen | originRepeated
  | hostnameEditPair | hostnameEditFind | hostnameEditReplace | domainNotBare | urlUnparsable
  | urlWithoutScheme | urlNotHttps | malformedOption | urlFormat | unclosedAnonymousUrl
  | unclosedOption | titleWithoutUrl | findWithoutReplace | unclosedUserHeader | wrongCase
  | trailingBlank | unknownDirective | sourceTitle | sourceFault
  deriving DecidableEq, Repr

def Code.text : Code → String
  | .titleOrder => "L1001"
  | .urlOrder => "L1002"
  | .anonymousUrlEndOrder => "L1003"
  | .anonymousUrlOrder => "L1004"
  | .openerOrder => "L1005"
  | .closerOrder => "L1006"
  | .hostnameEditOrder => "L1008"
  | .hostnameEditDepth => "L1009"
  | .urlBeforeTitle => "L1010"
  | .userHeaderEndOrder => "L1011"
  | .userHeaderOrder => "L1012"
  | .descriptionOrder => "L1013"
  | .duplicateTitle => "L2001"
  | .originSeen => "L2002"
  | .duplicateUrl => "L2003"
  | .titleSeen => "L2004"
  | .originRepeated => "L2005"
  | .hostnameEditPair => "L3001"
  | .hostnameEditFind => "L3002"
  | .hostnameEditReplace => "L3003"
  | .domainNotBare => "L3004"
  | .urlUnparsable => "L3005"
  | .urlWithoutScheme => "L3006"
  | .urlNotHttps => "L3007"
  | .malformedOption => "L3008"
  | .urlFormat => "L3009"
  | .unclosedAnonymousUrl => "L4001"
  | .unclosedOption => "L4002"
  | .titleWithoutUrl => "L4003"
  | .findWithoutReplace => "L4004"
  | .unclosedUserHeader => "L4005"
  | .wrongCase => "L5001"
  | .trailingBlank => "L5002"
  | .unknownDirective => "L9001"
  | .sourceTitle => "L9002"
  | .sourceFault => "L9003"

inductive Place where
  | title
  | url
  | anonymousUrlEnd
  | anonymousUrl
  | opener (d : Directive)
  | closer (d : Directive)
  | hostnameEdit
  | userHeaderEnd
  | userHeader
  | description
  deriving DecidableEq, Repr

def Place.code : Place → Code
  | .title => .titleOrder
  | .url => .urlOrder
  | .anonymousUrlEnd => .anonymousUrlEndOrder
  | .anonymousUrl => .anonymousUrlOrder
  | .opener _ => .openerOrder
  | .closer _ => .closerOrder
  | .hostnameEdit => .hostnameEditOrder
  | .userHeaderEnd => .userHeaderEndOrder
  | .userHeader => .userHeaderOrder
  | .description => .descriptionOrder

def Place.name : Place → String
  | .title => "Title"
  | .url => "URL"
  | .anonymousUrlEnd => "AnonymousURL -*"
  | .anonymousUrl => "AnonymousURL"
  | .opener d | .closer d => d.label
  | .hostnameEdit => "ProxyHostnameEdit"
  | .userHeaderEnd | .userHeader => "AddUserHeader"
  | .description => "Description"

inductive Diagnostic where
  | misplaced (place : Place) (previous : Option Directive)
  | hostnameEditDepth (pattern : String)
  | urlBeforeTitle
  | duplicateTitle
  | originSeen (location : String)
  | duplicateUrl
  | titleSeen (location : String)
  | originRepeated (location : String)
  | hostnameEditPair
  | hostnameEditFind
  | hostnameEditReplace
  | domainNotBare
  | urlUnparsable (fault : Url.Fault)
  | urlWithoutScheme
  | urlNotHttps
  | malformedOption
  | urlFormat
  | unclosedAnonymousUrl (title : String)
  | unclosedOption (title : String) (opener : Directive)
  | titleWithoutUrl (title : String)
  | findWithoutReplace
  | unclosedUserHeader (title : String)
  | wrongCase (label : String) (d : Directive)
  | trailingBlank
  | unknownDirective (label : String)
  | sourceTitle (expected title : String)
  | sourceFault (fault : SourceFault)
  deriving DecidableEq, Repr

namespace Diagnostic

open Text

def code : Diagnostic → Code
  | misplaced place _ => place.code
  | hostnameEditDepth _ => .hostnameEditDepth
  | urlBeforeTitle => .urlBeforeTitle
  | duplicateTitle => .duplicateTitle
  | originSeen _ => .originSeen
  | duplicateUrl => .duplicateUrl
  | titleSeen _ => .titleSeen
  | originRepeated _ => .originRepeated
  | hostnameEditPair => .hostnameEditPair
  | hostnameEditFind => .hostnameEditFind
  | hostnameEditReplace => .hostnameEditReplace
  | domainNotBare => .domainNotBare
  | urlUnparsable _ => .urlUnparsable
  | urlWithoutScheme => .urlWithoutScheme
  | urlNotHttps => .urlNotHttps
  | malformedOption => .malformedOption
  | urlFormat => .urlFormat
  | unclosedAnonymousUrl _ => .unclosedAnonymousUrl
  | unclosedOption _ _ => .unclosedOption
  | titleWithoutUrl _ => .titleWithoutUrl
  | findWithoutReplace => .findWithoutReplace
  | unclosedUserHeader _ => .unclosedUserHeader
  | wrongCase _ _ => .wrongCase
  | trailingBlank => .trailingBlank
  | unknownDirective _ => .unknownDirective
  | sourceTitle _ _ => .sourceTitle
  | sourceFault _ => .sourceFault

def misplacedMessage (place : Place) (previous : Option Directive) : String :=
  let what := match place with
    | .userHeaderEnd => " directive with no qualifiers is out of order, previous directive: "
    | _ => " directive is out of order, previous directive: "
  quote place.name ++ what ++ quote (Directive.labelOf previous)

def message : Diagnostic → String
  | misplaced place previous => misplacedMessage place previous
  | hostnameEditDepth pattern =>
    "\"ProxyHostnameEdit\" domains should be placed in deepest-to-shallowest order, " ++
      "previous pattern: " ++ quote pattern
  | urlBeforeTitle => "\"URL\" directive is before \"Title\" directive"
  | duplicateTitle => "Duplicate \"Title\" directive in stanza"
  | originSeen location | originRepeated location => "Origin already seen at " ++ quote location
  | duplicateUrl => "Duplicate \"URL\" directive in stanza"
  | titleSeen location => "\"Title\" directive value already seen at " ++ quote location
  | hostnameEditPair =>
    "\"ProxyHostnameEdit\" directive must have both a find and replace qualifier"
  | hostnameEditFind => "Find part of \"ProxyHostnameEdit\" directive should end with a $"
  | hostnameEditReplace => "Replace part of \"ProxyHostnameEdit\" directive is malformed"
  | domainNotBare => "Domain and DomainJavaScript directives should only specify domains"
  | urlUnparsable fault => "Unable to parse URL, might be malformed: " ++ fault.message
  | urlWithoutScheme => "URL does not start with http or https"
  | urlNotHttps => "URL is not using HTTPS scheme"
  | malformedOption => "Option directive not in the form \"Option OPTIONNAME\""
  | urlFormat => "\"URL\" directive is not in the right format"
  | unclosedAnonymousUrl title =>
    "Stanza " ++ quote title ++ " has AnonymousURL but doesn't have a corresponding " ++
      "\"AnonymousURL -*\" line at the end of the stanza"
  | unclosedOption title opener =>
    "Stanza " ++ quote title ++ " has " ++ quote opener.label ++
      " but doesn't have a corresponding " ++ quote (Directive.labelOf opener.requiredCloser?) ++
      " line at the end of the stanza"
  | titleWithoutUrl title => "Stanza " ++ quote title ++ " has Title but no URL"
  | findWithoutReplace =>
    "\"Find\" directive must be immediately followed by a \"Replace\" directive"
  | unclosedUserHeader title =>
    "Stanza " ++ quote title ++ " uses AddUserHeader but doesn't have a corresponding " ++
      "\"AddUserHeader\" line at the end of the stanza"
  | wrongCase label d =>
    quote label ++ " directive does not have the right letter casing. It should be replaced by " ++
      quote d.label
  | trailingBlank => "Line ends in a space or tab character"
  | unknownDirective label => "Unknown directive " ++ quote label
  | sourceTitle expected title =>
    "Source title " ++ quote expected ++ " doesn't match " ++ quote title ++
      ", you might need to update this stanza"
  | sourceFault fault => "Error processing Source line: " ++ fault.message

def text (d : Diagnostic) : String := d.message ++ " (" ++ d.code.text ++ ")"

end Diagnostic

end StanzaLint
