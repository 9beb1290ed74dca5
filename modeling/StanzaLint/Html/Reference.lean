import StanzaLint.Html.Reference.Table
import StanzaLint.Text.Utf8

/-!
# Character references

A reference names characters after `&`, or gives the number of one after `&#`.
Text that is no reference stands for itself. The longest name counts; some names
need no semicolon.
-/

namespace StanzaLint.Html.Reference

open Text

def basic? : List Char → Option (List Char × List Char)
  | 'a' :: 'm' :: 'p' :: ';' :: rest => some (['&'], rest)
  | 'l' :: 't' :: ';' :: rest => some (['<'], rest)
  | 'g' :: 't' :: ';' :: rest => some (['>'], rest)
  | _ => none

/-- The longest name among the first `n` characters: its characters, its last letter and
the rest. -/
def longestName? (cs : List Char) : Nat → Option (List Char × Char × List Char)
  | 0 => none
  | n + 1 =>
    let name := cs.take (n + 1)
    match table[String.ofList name]?, name.getLast? with
    | some text, some last => some (text, last, cs.drop (n + 1))
    | _, _ => longestName? cs n

/-- Inside an attribute a name without semicolon does not count before a letter, a digit
or an equals sign. -/
def isSuppressed (inAttribute : Bool) (last : Char) (rest : List Char) : Bool :=
  inAttribute && last != ';' && rest.head?.any fun c => c == '=' || c.isAlphanum

def named? (inAttribute : Bool) (cs : List Char) : Option (List Char × List Char) :=
  basic? cs <|> do
    let (text, last, rest) ← longestName? cs longest
    if isSuppressed inAttribute last rest then none else some (text, rest)

/-- The characters that the numbers from 128 to 159 stand for; zero means the number
itself. -/
def latinReplacements : List Nat := [
  0x20AC, 0, 0x201A, 0x192, 0x201E, 0x2026, 0x2020, 0x2021, 0x2C6, 0x2030, 0x160, 0x2039, 0x152,
  0, 0x17D, 0, 0, 0x2018, 0x2019, 0x201C, 0x201D, 0x2022, 0x2013, 0x2014, 0x2DC, 0x2122, 0x161,
  0x203A, 0x153, 0, 0x17E, 0x178]

def numberedChar (n : Nat) : Char :=
  if n = 0 ∨ ¬n.isValidChar then replacement
  else if 0x80 ≤ n ∧ n < 0xA0 then
    let m := latinReplacements.getD (n - 0x80) 0
    Char.ofNat (if m = 0 then n else m)
  else Char.ofNat n

def number? (base : Nat) (cs : List Char) : Option (List Char × List Char) :=
  let (digits, rest) := cs.span fun c => (hexDigit? c).any (· < base)
  if digits.isEmpty then none
  else
    let n := digits.foldl (fun n c => base * n + (hexDigit? c).getD 0) 0
    some ([numberedChar n], match rest with
      | ';' :: rest => rest
      | rest => rest)

def read? (inAttribute : Bool) : List Char → Option (List Char × List Char)
  | '#' :: 'x' :: cs | '#' :: 'X' :: cs => number? 16 cs
  | '#' :: cs => number? 10 cs
  | cs => named? inAttribute cs

/-- A text, such as the value of an attribute, with its references resolved. -/
def resolveFuel (inAttribute : Bool) : Nat → List Char → List Char
  | 0, _ => []
  | _, [] => []
  | n + 1, '&' :: cs => match read? inAttribute cs with
    | some (text, rest) => text ++ resolveFuel inAttribute n rest
    | none => '&' :: resolveFuel inAttribute n cs
  | n + 1, c :: cs => c :: resolveFuel inAttribute n cs

def resolve (inAttribute : Bool) (cs : List Char) : List Char :=
  resolveFuel inAttribute cs.length cs

end StanzaLint.Html.Reference
