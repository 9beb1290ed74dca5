import StanzaLint.Html.Document
import StanzaLint.Html.Token

/-!
# Building the tree of a page

The builder holds the tree so far, the elements that are still open, innermost
first, and the part of a page it is in. Every page gives a tree: what stands in
the wrong place is moved, closed or left out.
-/

namespace StanzaLint.Html

inductive Mode where
  | initial
  | beforeHtml
  | beforeHead
  | inHead
  | afterHead
  | inBody
  | text
  | inTable
  | inTableText
  | inCaption
  | inColumnGroup
  | inTableBody
  | inRow
  | inCell
  | inSelect
  | inSelectInTable
  | inTemplate
  | afterBody
  | inFrameset
  | afterFrameset
  | afterAfterBody
  | afterAfterFrameset
  deriving DecidableEq, Repr

/-- An element whose style goes on in later blocks, or the edge of a part that earlier
styles do not reach. -/
inductive Format where
  | marker
  | element (node : Nat) (tag : Tag)
  deriving DecidableEq, Repr

structure Builder where
  document : Document := {}
  mode : Mode := .initial
  /-- The mode to go back to behind raw text or the text of a table. -/
  returnMode : Mode := .initial
  /-- The modes of the open templates, innermost first. -/
  templates : List Mode := []
  /-- The open elements, innermost first. -/
  stack : List Nat := []
  /-- Styles in force, latest first. -/
  formatting : List Format := []
  head : Option Nat := none
  form : Option Nat := none
  framesetAllowed : Bool := true
  /-- Whether content is moved out of the table it stands in. -/
  fostering : Bool := false
  /-- Whether the page lacks a current doctype. -/
  legacy : Bool := false
  dropNewline : Bool := false
  /-- The text of a table so far, in reverse. -/
  tableText : List Char := []
  reading : TextMode := .data

/-- Whether the token has to be seen again, in the mode that the builder is in now. -/
abbrev Step := Builder × Bool

namespace Builder

def done (b : Builder) : Step := (b, false)

def again (b : Builder) (mode : Mode) : Step := ({ b with mode }, true)

def goto (b : Builder) (mode : Mode) : Builder := { b with mode }

def noFrameset (b : Builder) : Builder := { b with framesetAllowed := false }

/-! ## The open elements -/

def element? (b : Builder) (i : Nat) : Option Element := b.document.element? i

/-- Whether a node is an element of the page's own namespace with one of these names. -/
def isHtml (b : Builder) (names : List String) (i : Nat) : Bool :=
  match b.element? i with
  | some ⟨.html, name, _⟩ => names.contains name
  | _ => false

def current? (b : Builder) : Option Nat := b.stack.head?

def currentIs (b : Builder) (names : List String) : Bool := b.current?.any (b.isHtml names)

def hasOpen (b : Builder) (name : String) : Bool := b.stack.any (b.isHtml [name])

def push (b : Builder) (i : Nat) : Builder := { b with stack := i :: b.stack }

def pop (b : Builder) : Builder := { b with stack := b.stack.tail }

def popThrough (b : Builder) (p : Nat → Bool) : Builder :=
  { b with stack := (b.stack.dropWhile (!p ·)).tail }

def close (b : Builder) (name : String) : Builder := b.popThrough (b.isHtml [name])

def popTo (b : Builder) (names : List String) : Builder :=
  { b with stack := b.stack.dropWhile (!b.isHtml names ·) }

def removeOpen (b : Builder) (i : Nat) : Builder := { b with stack := b.stack.erase i }

def isMathText : Element → Bool
  | ⟨.mathml, name, _⟩ => ["mi", "mo", "mn", "ms", "mtext"].contains name
  | _ => false

def isDrawingHtml : Element → Bool
  | ⟨.svg, name, _⟩ => ["foreignobject", "desc", "title"].contains name
  | _ => false

inductive Scope where
  | general
  | listItem
  | button
  | table
  | select

def scopeEdges : List String :=
  ["applet", "caption", "html", "table", "td", "th", "marquee", "object", "template"]

def Scope.isEdge (scope : Scope) (e : Element) : Bool :=
  let among (names : List String) := e.space == .html && names.contains e.name
  let general := among scopeEdges || isMathText e || isDrawingHtml e
  match scope with
  | .general => general
  | .listItem => general || among ["ol", "ul"]
  | .button => general || among ["button"]
  | .table => among ["html", "table", "template"]
  | .select => !among ["optgroup", "option"]

/-- Looks outward for an element, as far as the edge of the scope. -/
def scan (p : Nat → Bool) (edge : Nat → Bool) : List Nat → Bool
  | [] => false
  | i :: rest => p i || (!edge i && scan p edge rest)

def inScopeBy (b : Builder) (scope : Scope) (p : Nat → Bool) : Bool :=
  scan p (fun i => (b.element? i).any scope.isEdge) b.stack

def inScope (b : Builder) (scope : Scope) (names : List String) : Bool :=
  b.inScopeBy scope (b.isHtml names)

def headings : List String := ["h1", "h2", "h3", "h4", "h5", "h6"]

/-- Elements that a formatting element does not reach across. -/
def specials : List String := headings ++ [
  "address", "applet", "area", "article", "aside", "base", "basefont", "bgsound", "blockquote",
  "body", "br", "button", "caption", "center", "col", "colgroup", "dd", "details", "dir", "div",
  "dl", "dt", "embed", "fieldset", "figcaption", "figure", "footer", "form", "frame", "frameset",
  "head", "header", "hgroup", "hr", "html", "iframe", "img", "input", "isindex", "li", "link",
  "listing", "main", "marquee", "menu", "meta", "nav", "noembed", "noframes", "noscript", "object",
  "ol", "p", "param", "plaintext", "pre", "script", "section", "select", "source", "style",
  "summary", "table", "tbody", "td", "template", "textarea", "tfoot", "th", "thead", "title", "tr",
  "track", "ul", "wbr", "xmp"]

def isSpecial (b : Builder) (i : Nat) : Bool := b.isHtml specials i

def implied : List String := ["dd", "dt", "li", "option", "optgroup", "p", "rb", "rp", "rt", "rtc"]

def impliedInTemplate : List String :=
  implied ++ ["caption", "colgroup", "tbody", "td", "tfoot", "th", "thead", "tr"]

def popImplied (b : Builder) (names : List String := implied) : Builder :=
  { b with stack := b.stack.dropWhile (b.isHtml names) }

def popImpliedExcept (b : Builder) (name : String) : Builder := b.popImplied (implied.erase name)

/-! ## Putting content into the tree -/

/-- A place in the tree: behind the children of a node, or in front of one. -/
inductive Place where
  | within (parent : Nat)
  | before (sibling : Nat)

def tableParts : List String := ["table", "tbody", "tfoot", "thead", "tr"]

def fosterPlace (b : Builder) : List Nat → Place
  | [] => .within Document.root
  | i :: rest =>
    if b.isHtml ["template"] i then .within i
    else if b.isHtml ["table"] i then
      if (b.document.parent? i).isSome then .before i else .within (rest.head?.getD i)
    else if rest.isEmpty then .within i
    else fosterPlace b rest

def placeIn (b : Builder) (target : Nat) : Place :=
  if b.fostering && b.isHtml tableParts target then b.fosterPlace b.stack else .within target

def put (d : Document) (place : Place) (i : Nat) : Document :=
  match place with
  | .within p => d.append p i
  | .before s => d.insertBefore s i

def place (b : Builder) : Place := b.placeIn (b.current?.getD Document.root)

def addChar (b : Builder) (c : Char) : Builder :=
  { b with document := match b.place with
      | .within p => b.document.appendChar p c
      | .before s => b.document.insertCharBefore s c }

def create (b : Builder) (content : Content) : Builder × Nat :=
  let (document, i) := b.document.create content
  ({ b with document }, i)

def addComment (b : Builder) : Builder :=
  let (b, i) := b.create .comment
  { b with document := put b.document b.place i }

def addElement (b : Builder) (e : Element) : Builder × Nat :=
  let (b, i) := b.create (.element e)
  ({ b with document := put b.document b.place i }, i)

def insert (b : Builder) (name : String) : Builder :=
  let (b, i) := b.addElement { name }
  b.push i

def insertVoid (b : Builder) (name : String) : Builder := (b.addElement { name }).1

def insertRoot (b : Builder) : Builder :=
  let (b, i) := b.create (.element { name := "html" })
  { b with document := b.document.append Document.root i, stack := [i] }

def insertRaw (b : Builder) (name : String) (reading : TextMode) : Builder :=
  { b.insert name with returnMode := b.mode, mode := .text, reading }

/-! ## Modes -/

/-- The mode that a selection list is in, by the elements around it. -/
def selectMode (b : Builder) : List Nat → Mode
  | [] => .inSelect
  | i :: rest =>
    if b.isHtml ["template"] i then .inSelect
    else if b.isHtml ["table"] i then .inSelectInTable
    else selectMode b rest

def modeOf (b : Builder) (rest : List Nat) : String → Option Mode
  | "select" => some (b.selectMode rest)
  | "td" | "th" => if rest.isEmpty then none else some .inCell
  | "tr" => some .inRow
  | "tbody" | "thead" | "tfoot" => some .inTableBody
  | "caption" => some .inCaption
  | "colgroup" => some .inColumnGroup
  | "table" => some .inTable
  | "template" => some (b.templates.headD .inBody)
  | "head" => if rest.isEmpty then none else some .inHead
  | "body" => some .inBody
  | "frameset" => some .inFrameset
  | "html" => some (if b.head.isNone then .beforeHead else .afterHead)
  | _ => none

def modeAt (b : Builder) : List Nat → Mode
  | [] => .inBody
  | i :: rest =>
    let mode := match b.element? i with
      | some ⟨.html, name, _⟩ => b.modeOf rest name
      | _ => none
    mode.getD (modeAt b rest)

def resetMode (b : Builder) : Builder := b.goto (b.modeAt b.stack)

def againReset (b : Builder) : Step := b.again (b.modeAt b.stack)

end Builder

def isBlankText (c : Char) : Bool := Token.isSpace c || c == '\r'

end StanzaLint.Html
