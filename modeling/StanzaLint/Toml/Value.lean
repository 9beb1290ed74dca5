/-!
# TOML values and tables

A table may be written in several places, and each place adds to it. What must not
happen is that a name is given a value twice, or that a table is opened again that
was complete: `update` walks to a table and refuses such steps.
-/

namespace StanzaLint.Toml

inductive TableKind where
  /-- It has a header of its own, or is the document. -/
  | header
  /-- A header below it names it. -/
  | implied
  /-- A dotted name of a value makes it. -/
  | dotted
  /-- It stands in braces and is complete. -/
  | inline
  deriving DecidableEq, Repr

/-- Of floats and times only that they are well formed is known. -/
inductive Value where
  | boolean (b : Bool)
  | integer (i : Int)
  | string (s : String)
  | float
  | time
  | array (items : List Value)
  | table (kind : TableKind) (entries : List (String × Value))
  | tables (last : List (String × Value)) (earlier : List (List (String × Value)))

abbrev Entries := List (String × Value)

def alter (name : String) (f : Option Value → Option Value) : Entries → Option Entries
  | [] => (f none).map fun value => [(name, value)]
  | (other, value) :: rest =>
    if other = name then (f (some value)).map fun value => (other, value) :: rest
    else (alter name f rest).map ((other, value) :: ·)

abbrev Change := TableKind → Entries → Option (TableKind × Entries)

/-- Changes the table under a name, which is made if there is none. Of an array of tables the
last one is meant. -/
def within (dotted : Bool) (change : Change) : Option Value → Option Value
  | none => (change (if dotted then .dotted else .implied) []).map fun (kind, entries) =>
    .table kind entries
  | some (.table kind entries) =>
    if kind = .inline ∨ dotted ∧ kind = .header then none
    else (change kind entries).map fun (kind, entries) => .table kind entries
  | some (.tables last earlier) =>
    (change .header last).map fun (_, last) => .tables last earlier
  | some _ => none

def update (dotted : Bool) (change : Change) : (path : List String) → Change
  | [], kind, entries => change kind entries
  | name :: rest, kind, entries =>
    (alter name (within dotted (update dotted change rest)) entries).map (kind, ·)

def put (name : String) (value : Value) : Entries → Option Entries :=
  alter name fun
    | none => some value
    | some _ => none

/-- Gives a value to a dotted name. A table that dots lead to must be made by dots only. -/
def assign (path : List String) (name : String) (value : Value) : Change :=
  update true (fun kind entries =>
    if (kind == .dotted) == path.isEmpty then none else (put name value entries).map (kind, ·)) path

def openTable : Option Value → Option Value
  | none => some (.table .header [])
  | some (.table .implied entries) => some (.table .header entries)
  | some _ => none

def openArray : Option Value → Option Value
  | none => some (.tables [] [])
  | some (.tables last earlier) => some (.tables [] (last :: earlier))
  | some _ => none

/-- The document so far, and the path of the table that is being written. -/
structure Document where
  entries : Entries := []
  current : List String := []

namespace Document

def change (d : Document) (path : List String) (f : Change) : Option Document :=
  (update false f path .header d.entries).map fun (_, entries) => { d with entries }

def start (d : Document) (isArray : Bool) (path : List String) : Option Document :=
  match path.getLast? with
  | none => none
  | some name =>
    (d.change path.dropLast fun kind entries =>
      (alter name (if isArray then openArray else openTable) entries).map (kind, ·)).map
        ({ · with current := path })

def set (d : Document) (path : List String) (value : Value) : Option Document :=
  match path.getLast? with
  | none => none
  | some name => d.change d.current (assign path.dropLast name value)

end Document

end StanzaLint.Toml
