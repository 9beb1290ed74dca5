import StanzaLint.Text.Blank

/-!
# Paths

Paths are text. A path names a directory to look in and a file in it; it is kept
as it is written, so that messages show what the user wrote.
-/

namespace StanzaLint

open Text

abbrev Path := String

namespace Path

def isAbsolute (path : Path) : Bool := path.toList.head? == some '/'

/-- The start of a path that is no component of it: the root, or the current directory. -/
def lead : List Char → List Char × List Char
  | '/' :: rest => (['/'], rest)
  | ['.'] => (['.'], [])
  | '.' :: '/' :: rest => (['.'], '/' :: rest)
  | cs => ([], cs)

def dropIdle (parts : List (List Char)) : List (List Char) :=
  (parts.reverse.dropWhile fun part => part == [] || part == ['.']).reverse

def joinParts : List (List Char) → List Char
  | [] => []
  | [part] => part
  | part :: rest => part ++ '/' :: joinParts rest

/-- The path without its last component; nothing if there is none before it. -/
def parent (path : Path) : Path :=
  let (lead, rest) := lead path.toList
  match dropIdle (split '/' rest) with
  | [] => ""
  | parts => String.ofList (lead ++ joinParts (dropIdle parts.dropLast))

def join (base target : Path) : Path :=
  if target.isAbsolute || base == "" then target
  else if base.toList.getLast? == some '/' then base ++ target
  else base ++ "/" ++ target

end Path

end StanzaLint
