import StanzaLint.Text.Normal
import StanzaLint.Url.Idna.Bidi
import StanzaLint.Url.Idna.Joining
import StanzaLint.Url.Idna.Mapping
import StanzaLint.Url.Punycode

/-!
# Domain names in ASCII

A domain name is brought to one spelling: its characters are mapped and
composed, its labels are checked, and a label that is not ASCII is written in
Punycode behind `xn--`. Labels that come in that form are decoded and held to
the same rules. Length and hyphens are not judged.
-/

namespace StanzaLint.Url.Idna

open Text

def isForbidden (c : Char) : Bool :=
  c.toNat ≤ 0x20 || c.toNat == 0x7F ||
    ['%', '#', '/', ':', '<', '>', '?', '@', '[', '\\', ']', '^', '|'].contains c

def isAscii (cs : List Char) : Bool := cs.all (·.toNat < 0x80)

/-- Longer labels are not encoded, and longer encoded labels not decoded. -/
def maxEncoded : Nat := 1000
def maxDecoded : Nat := 2000

def mark : List Char := ['x', 'n', '-', '-']

def labelAllowed (label : List Char) : Bool :=
  !label.head?.any markTable.contains && joinersAllowed [] label && label.all isValid

def decodeLabel? (label : List Char) : Option (List Char) :=
  match dropPrefix? mark label with
  | some code =>
    if code.length ≤ maxDecoded then
      (Punycode.decode? code).filter fun text =>
        !isAscii text && normalize text == text && labelAllowed text
    else none
  | none => if isAscii label || labelAllowed label then some label else none

def encodeLabel? (label : List Char) : Option (List Char) :=
  if isAscii label then some label
  else if label.length ≤ maxEncoded then some (mark ++ Punycode.encode label)
  else none

/-- The ASCII form of a domain name; nothing if the name is not valid. -/
def toAscii? (name : List Char) : Option (List Char) := do
  let mapped ← name.mapM map?
  let labels ← (split '.' (normalize mapped.flatten)).mapM decodeLabel?
  guard (!(labels.any (·.any isRightToLeft)) || labels.all oneDirection)
  guard (!(labels.any (·.any isForbidden)))
  let encoded ← labels.mapM encodeLabel?
  return ['.'].intercalate encoded

end StanzaLint.Url.Idna
