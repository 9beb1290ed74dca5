/-!
# The tree of a page

Nodes are numbered in the order in which they are made. A node knows its parent
and its children; text that is put beside text joins it.
-/

namespace StanzaLint.Html

inductive Namespace where
  | html
  | svg
  | mathml
  deriving DecidableEq, Repr

structure Element where
  space : Namespace := .html
  name : String
  /-- An annotation that holds markup of the page's own kind. -/
  holdsHtml : Bool := false
  deriving DecidableEq, Repr

inductive Content where
  | document
  | element (e : Element)
  | text (s : String)
  | comment
  deriving DecidableEq, Repr

structure Node where
  content : Content
  parent : Option Nat := none
  children : Array Nat := #[]
  deriving DecidableEq, Repr

/-- The node with number zero is the document. -/
structure Document where
  nodes : Array Node := #[{ content := .document }]

namespace Document

def root : Nat := 0

def node? (d : Document) (i : Nat) : Option Node := d.nodes[i]?

def element? (d : Document) (i : Nat) : Option Element :=
  match d.node? i with
  | some { content := .element e, .. } => some e
  | _ => none

def modify (d : Document) (i : Nat) (f : Node → Node) : Document := ⟨d.nodes.modify i f⟩

def create (d : Document) (content : Content) : Document × Nat :=
  (⟨d.nodes.push { content }⟩, d.nodes.size)

def parent? (d : Document) (i : Nat) : Option Nat := (d.node? i).bind (·.parent)

def isText (d : Document) (i : Nat) : Bool :=
  match d.node? i with
  | some { content := .text _, .. } => true
  | _ => false

def detach (d : Document) (i : Nat) : Document :=
  match d.parent? i with
  | some p =>
    (d.modify p fun n => { n with children := n.children.erase i }).modify i fun n =>
      { n with parent := none }
  | none => d

def append (d : Document) (p i : Nat) : Document :=
  (d.modify p fun n => { n with children := n.children.push i }).modify i fun n =>
    { n with parent := some p }

def insertAt (place i : Nat) (children : Array Nat) : Array Nat :=
  children.extract 0 place ++ #[i] ++ children.extract place children.size

def insertBefore (d : Document) (sibling i : Nat) : Document :=
  match d.parent? sibling with
  | some p =>
    (d.modify p fun n =>
      { n with children := insertAt (n.children.toList.idxOf sibling) i n.children }).modify i
        fun n => { n with parent := some p }
  | none => d

def addText (d : Document) (i : Nat) (c : Char) : Document :=
  d.modify i fun n => match n with
    | { content := .text s, .. } => { n with content := .text (s.push c) }
    | n => n

def appendChar (d : Document) (p : Nat) (c : Char) : Document :=
  match (d.node? p).bind (·.children.back?) with
  | some last =>
    if d.isText last then d.addText last c
    else
      let (d, i) := d.create (.text (String.singleton c))
      d.append p i
  | none =>
    let (d, i) := d.create (.text (String.singleton c))
    d.append p i

def before? (d : Document) (i : Nat) : Option Nat := do
  let p ← d.parent? i
  let siblings := (← d.node? p).children
  let place := siblings.toList.idxOf i
  if place = 0 then none else siblings[place - 1]?

def insertCharBefore (d : Document) (sibling : Nat) (c : Char) : Document :=
  match (d.before? sibling).filter d.isText with
  | some text => d.addText text c
  | none =>
    let (d, i) := d.create (.text (String.singleton c))
    d.insertBefore sibling i

def moveChildren (d : Document) (i p : Nat) : Document :=
  match d.node? i with
  | some n =>
    let d := d.modify i fun n => { n with children := #[] }
    n.children.foldl (fun d child => d.append p child) d
  | none => d

def firstText? (d : Document) (n : Node) : Option String := do
  match (← d.node? (← n.children[0]?)).content with
  | .text s => some s
  | _ => none

/-- The elements with this name that are part of a tree, in the order of their making. -/
def named (d : Document) (name : String) : List Node :=
  d.nodes.toList.filter fun n => n.parent.isSome && match n.content with
    | .element e => e.name == name
    | _ => false

end Document

end StanzaLint.Html
