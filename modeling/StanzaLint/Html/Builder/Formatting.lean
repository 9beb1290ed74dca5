import StanzaLint.Html.Builder.Basic

/-!
# Styles across blocks

A style that is still open when a block ends goes on behind it, and one that ends
inside a block is closed there and outside: the tree is rearranged so that both
elements nest.
-/

namespace StanzaLint.Html

namespace Format

def isNode (i : Nat) : Format → Bool
  | .marker => false
  | .element j _ => i == j

def isMarker : Format → Bool
  | .marker => true
  | .element _ _ => false

def recent (entries : List Format) : List (Nat × Tag) :=
  (entries.takeWhile (!isMarker ·)).filterMap fun
    | .element i tag => some (i, tag)
    | .marker => none

def tagOf? (i : Nat) (entries : List Format) : Option Tag :=
  entries.findSome? fun
    | .element j tag => if i = j then some tag else none
    | .marker => none

def remove (i : Nat) (entries : List Format) : List Format := entries.filter (!isNode i ·)

def replace (i : Nat) (entry : Format) (entries : List Format) : List Format :=
  entries.map fun e => if isNode i e then entry else e

def insertAfter (i : Nat) (entry : Format) : List Format → List Format
  | [] => []
  | e :: rest => if isNode i e then entry :: e :: rest else e :: insertAfter i entry rest

def dropToMarker (entries : List Format) : List Format := (entries.dropWhile (!isMarker ·)).tail

end Format

namespace Builder

def pushMarker (b : Builder) : Builder := { b with formatting := .marker :: b.formatting }

def clearToMarker (b : Builder) : Builder :=
  { b with formatting := Format.dropToMarker b.formatting }

def forget (b : Builder) (i : Nat) : Builder :=
  { b with formatting := Format.remove i b.formatting }

def isMarkerOrOpen (b : Builder) : Format → Bool
  | .marker => true
  | .element i _ => b.stack.contains i

def reopen (b : Builder) (kept : List Format) : List Format → Builder
  | [] => { b with formatting := kept }
  | .marker :: rest => reopen b (.marker :: kept) rest
  | .element _ tag :: rest =>
    let (b, i) := b.addElement { name := tag.name }
    reopen (b.push i) (.element i tag :: kept) rest

/-- Opens the styles again that were closed by the end of a block. -/
def reconstruct (b : Builder) : Builder :=
  let (closed, kept) := b.formatting.span (!b.isMarkerOrOpen ·)
  if closed.isEmpty then b else b.reopen kept closed.reverse

def sameStyle (s t : Tag) : Bool :=
  s.name == t.name && s.attributes.length == t.attributes.length &&
    s.attributes.all (t.attributes.contains ·)

/-- Of the same style at most three are in force; the earliest gives way. -/
def forgetFourth (b : Builder) (tag : Tag) : Builder :=
  match (Format.recent b.formatting).filter fun (_, t) => sameStyle tag t with
  | same@(_ :: _ :: _ :: _) => match same.getLast? with
    | some (i, _) => b.forget i
    | none => b
  | _ => b

def insertFormatting (b : Builder) (tag : Tag) : Builder :=
  let b := b.forgetFourth tag
  let (b, i) := b.addElement { name := tag.name }
  let b := b.push i
  { b with formatting := .element i tag :: b.formatting }

/-- Closes an element of that name unless a special element stands in between. -/
def closeOrdinary (b : Builder) (name : String) : Builder :=
  let isTarget := b.isHtml [name]
  if scan isTarget b.isSpecial b.stack then (b.popImpliedExcept name).popThrough isTarget else b

/-- Where the new entry for a style goes: in its old place, or behind that of a node. -/
inductive Bookmark where
  | here
  | after (node : Nat)

/-- The elements between a style and the block that it is closed in, being cloned. -/
structure Chain where
  builder : Builder
  /-- The elements that stay open, in reverse. -/
  kept : List Nat := []
  last : Nat
  bookmark : Bookmark := .here

/-- Clones one element between: styles within the first three are kept, all else is closed. -/
def Chain.link (c : Chain) (block : Nat) (count i : Nat) : Chain :=
  match Format.tagOf? i c.builder.formatting with
  | none => c
  | some tag =>
    if count > 3 then { c with builder := c.builder.forget i }
    else
      let (b, j) := c.builder.create (.element { name := tag.name })
      let d := (b.document.detach c.last).append j c.last
      { builder := { b with
          document := d, formatting := Format.replace i (.element j tag) b.formatting }
        kept := j :: c.kept
        last := j
        bookmark := if c.last = block then .after j else c.bookmark }

def Chain.links (c : Chain) (block : Nat) : (count : Nat) → List Nat → Chain
  | _, [] => c
  | count, i :: rest => Chain.links (c.link block count i) block (count + 1) rest

def enter (bookmark : Bookmark) (old : Nat) (entry : Format) (entries : List Format) :
    List Format :=
  match bookmark with
  | .here => Format.replace old entry entries
  | .after i => Format.remove old (Format.insertAfter i entry entries)

/-- Rearranges the style `i` around the block it is closed in. The open elements are `inner`,
the block, `between`, the style and `outer`. -/
def adopt (b : Builder) (i : Nat) (tag : Tag) (inner : List Nat) (block : Nat)
    (between outer : List Nat) : Builder :=
  let c := Chain.links { builder := b, last := block } block 1 between
  let b := c.builder
  let d := b.document.detach c.last
  let b := { b with document := put d (b.placeIn (outer.headD Document.root)) c.last }
  let (b, j) := b.create (.element { name := tag.name })
  { b with
    document := (b.document.moveChildren block j).append block j
    formatting := enter c.bookmark i (.element j tag) b.formatting
    stack := inner ++ j :: block :: c.kept.reverse ++ outer }

/-- One round of closing a style; none when there is nothing left to do. -/
def closeFormattingOnce (b : Builder) (name : String) : Builder × Bool :=
  match (Format.recent b.formatting).find? fun (_, tag) => tag.name == name with
  | none => (b.closeOrdinary name, false)
  | some (i, tag) =>
    if !b.stack.contains i then (b.forget i, false)
    else if !b.inScopeBy .general (· == i) then (b, false)
    else
      let (above, outer) := b.stack.span (· != i)
      let (between, rest) := above.reverse.span (!b.isSpecial ·)
      match rest with
      | [] => ({ b.forget i with stack := outer.tail }, false)
      | block :: inner => (b.adopt i tag inner.reverse block between.reverse outer.tail, true)

def closeFormattingTimes (b : Builder) (name : String) : Nat → Builder
  | 0 => b
  | n + 1 =>
    let (b, more) := b.closeFormattingOnce name
    if more then closeFormattingTimes b name n else b

/-- Closes a style. The rearrangement is done eight times at most. -/
def closeFormatting (b : Builder) (name : String) : Builder :=
  match b.current? with
  | some i =>
    if b.isHtml [name] i && (Format.tagOf? i b.formatting).isNone then b.pop
    else b.closeFormattingTimes name 8
  | none => b.closeFormattingTimes name 8

/-- A link inside a link ends the outer one. -/
def closeOuterLink (b : Builder) : Builder :=
  match (Format.recent b.formatting).find? fun (i, _) => b.isHtml ["a"] i with
  | some (i, _) => ((b.closeFormatting "a").forget i).removeOpen i
  | none => b

end Builder

end StanzaLint.Html
