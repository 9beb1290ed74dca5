import StanzaLint.Path

/-!
# Files

What a path leads to. A tree of files answers this from the current directory,
component by component: every component but the last has to be a directory.
-/

namespace StanzaLint

open Text

inductive Lookup where
  | missing
  | directory
  /-- Something is there, but the system cannot read it. -/
  | locked (text : String)
  | file (content : List UInt8)
  deriving DecidableEq, Repr

abbrev Files := Path → Lookup

/-- Files and directories by their place, a list of names from the root. -/
structure FileTree where
  entries : List (List String × Lookup) := []
  /-- The current directory. -/
  current : List String := []

namespace FileTree

def entryAt (tree : FileTree) (place : List String) : Lookup :=
  if place.isEmpty then .directory else (tree.entries.lookup place).getD .missing

def insertNew (tree : FileTree) (place : List String) (entry : Lookup) : FileTree :=
  if tree.entryAt place = .missing then { tree with entries := (place, entry) :: tree.entries }
  else tree

/-- Puts an entry into the tree, and the directories that lead to it. -/
def insert (tree : FileTree) (place : List String) (entry : Lookup) : FileTree :=
  let directories := (List.range place.length).foldl
    (fun tree n => tree.insertNew (place.take n) .directory) tree
  { directories with entries := (place, entry) :: directories.entries.filter (·.1 != place) }

def enter (tree : FileTree) (place : List String) (name : String) : Option (List String) :=
  match tree.entryAt place with
  | .directory =>
    if name = "" ∨ name = "." then some place
    else if name = ".." then some place.dropLast
    else if name.utf8ByteSize > 255 then none
    else some (place ++ [name])
  | _ => none

def walk (tree : FileTree) : (place names : List String) → Option (List String)
  | place, [] => some place
  | place, name :: rest => (tree.enter place name).bind fun place => walk tree place rest

/-- The longest path that leads anywhere, in bytes. -/
def maxPath : Nat := 4095

/-- More than there are paths that lead anywhere: none has more characters than bytes, and every
character is a number of 21 bits. -/
@[irreducible] def pathBound : Nat := Nat.pow 2 (21 * (maxPath + 1))

def find (tree : FileTree) : Files := fun path =>
  let cs := path.toList
  if cs.isEmpty || path.utf8ByteSize > maxPath || cs.any (·.toNat == 0) then .missing
  else
    let start := if path.isAbsolute then [] else tree.current
    match tree.walk start ((split '/' cs).map String.ofList) with
    | some place => tree.entryAt place
    | none => .missing

def placeOf? (tree : FileTree) (path : Path) : Option (List String) :=
  let cs := path.toList
  if cs.isEmpty || path.utf8ByteSize > maxPath || cs.any (·.toNat == 0) then none
  else tree.walk (if path.isAbsolute then [] else tree.current)
    ((split '/' cs).map String.ofList)

theorem find_eq (tree : FileTree) (path : Path) :
    tree.find path = ((tree.placeOf? path).map tree.entryAt).getD .missing := by
  simp only [find, placeOf?]
  split
  · rfl
  · split
    next place hw =>
      rw [hw]
      rfl
    next hw =>
      rw [hw]
      rfl

end FileTree

end StanzaLint
