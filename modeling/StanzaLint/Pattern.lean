/-!
# Patterns

Regular expressions without repetition or choice, as they are made from domains: a
character stands for itself, alone, behind a backslash or in brackets, and a dollar
sign stands for the end of the text.
-/

namespace StanzaLint.Pattern

def isSign (c : Char) : Bool :=
  ['\\', '.', '+', '*', '?', '(', ')', '|', '[', ']', '\x7b', '\x7d', '^', '$', '#', '&', '-',
    '~'].contains c

def escape (cs : List Char) : List Char :=
  cs.flatMap fun c => if isSign c then ['\\', c] else [c]

inductive Part where
  | sign (c : Char)
  | finish
  deriving DecidableEq, Repr

def read? : List Char → Option (List Part)
  | [] => some []
  | '$' :: rest => (read? rest).map (.finish :: ·)
  | '\\' :: c :: rest => if isSign c then (read? rest).map (.sign c :: ·) else none
  | '[' :: c :: ']' :: rest =>
    if ['^', '[', ']', '\\'].contains c then none else (read? rest).map (.sign c :: ·)
  | c :: rest => if isSign c then none else (read? rest).map (.sign c :: ·)

def matchesAt : List Part → List Char → Bool
  | [], _ => true
  | .finish :: parts, text => text.isEmpty && matchesAt parts text
  | .sign _ :: _, [] => false
  | .sign c :: parts, t :: text => c == t && matchesAt parts text

def isIn (parts : List Part) : List Char → Bool
  | [] => matchesAt parts []
  | c :: text => matchesAt parts (c :: text) || isIn parts text

end StanzaLint.Pattern
