import StanzaLint.Text.Table
import StanzaLint.Text.Utf8

/-!
# Percent encoding

A byte is written as `%` and two upper-case hexadecimal digits. The parts of a
URL differ in the ASCII characters that have to be written so; controls and
everything beyond ASCII are encoded in all of them.
-/

namespace StanzaLint.Url

open Text

def upperHexDigit (n : Nat) : Char := Char.ofNat (if n < 10 then 0x30 + n else 0x37 + n)

def percentByte (b : UInt8) : List Char :=
  ['%', upperHexDigit (b.toNat / 16), upperHexDigit (b.toNat % 16)]

def isControl (c : Char) : Bool := c.toNat < 0x20 || c.toNat == 0x7F

def alwaysEncoded (c : Char) : Bool := isControl c || 0x80 ≤ c.toNat

def percentEncode (also : List Char) (cs : List Char) : List Char :=
  cs.flatMap fun c =>
    if alwaysEncoded c || also.contains c then (String.utf8EncodeChar c).flatMap percentByte
    else [c]

def apostrophe : Char := Char.ofNat 0x27

def backquote : Char := Char.ofNat 0x60

def inFragment : List Char := [' ', '"', '<', '>', backquote]

def inPath : List Char := inFragment ++ ['#', '?', '\x7b', '\x7d']

def inUserinfo : List Char := inPath ++ ['/', ':', ';', '=', '@', '[', '\\', ']', '^', '|']

def inQuery : List Char := [' ', '"', '#', '<', '>']

def inSpecialQuery : List Char := apostrophe :: inQuery

def hexByte? (hi lo : UInt8) : Option UInt8 := do
  let h ← hexDigit? (Char.ofNat hi.toNat)
  let l ← hexDigit? (Char.ofNat lo.toNat)
  return UInt8.ofNat (16 * h + l)

/-- Decodes every `%` that two hexadecimal digits follow; any other one stays. -/
def percentDecode : List UInt8 → List UInt8
  | 0x25 :: hi :: lo :: rest => match hexByte? hi lo with
    | some b => b :: percentDecode rest
    | none => 0x25 :: percentDecode (hi :: lo :: rest)
  | b :: rest => b :: percentDecode rest
  | [] => []

/-- The text that `cs` encodes; nothing if the decoded bytes are not UTF-8. -/
def percentDecode? (cs : List Char) : Option (List Char) :=
  if cs.contains '%' then decodeUtf8? (percentDecode (encodeUtf8 cs)) else some cs

end StanzaLint.Url
