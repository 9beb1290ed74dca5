/-!
# Decoding bytes as UTF-8

Decoding never fails: every maximal part that cannot be continued to the
encoding of a character becomes one U+FFFD. The decoder reads one byte at a
time and holds at most one unfinished character.
-/

namespace StanzaLint.Text

def encodeUtf8 (cs : List Char) : List UInt8 := cs.flatMap String.utf8EncodeChar

/-- A character of which the first bytes have been read: how many are missing, the
range in which the next one must lie, and the bits read so far. -/
structure Unfinished where
  missing : Nat
  low : UInt8
  high : UInt8
  bits : Nat
  deriving DecidableEq, Repr

def replacement : Char := Char.ofNat 0xFFFD

/-- What a byte means at the beginning of a character: characters that are complete
with it, and the character that it leaves unfinished. -/
def beginUtf8 (b : UInt8) : List Char × Option Unfinished :=
  if b < 0x80 then ([Char.ofNat b.toNat], none)
  else if b < 0xC2 then ([replacement], none)
  else if b < 0xE0 then ([], some ⟨0, 0x80, 0xBF, b.toNat - 0xC0⟩)
  else if b < 0xF0 then
    ([], some ⟨1, if b = 0xE0 then 0xA0 else 0x80, if b = 0xED then 0x9F else 0xBF, b.toNat - 0xE0⟩)
  else if b < 0xF5 then
    ([], some ⟨2, if b = 0xF0 then 0x90 else 0x80, if b = 0xF4 then 0x8F else 0xBF, b.toNat - 0xF0⟩)
  else ([replacement], none)

/-- The character after one more of its bytes: complete, unfinished still, or cut short. -/
def Unfinished.feed (u : Unfinished) (b : UInt8) : List Char × Option Unfinished :=
  if u.low ≤ b ∧ b ≤ u.high then
    let bits := u.bits * 64 + (b.toNat - 0x80)
    match u.missing with
    | 0 => ([Char.ofNat bits], none)
    | n + 1 => ([], some ⟨n, 0x80, 0xBF, bits⟩)
  else
    let (out, next) := beginUtf8 b
    (replacement :: out, next)

def decodeUtf8From : Option Unfinished → List UInt8 → List Char
  | none, [] => []
  | some _, [] => [replacement]
  | none, b :: bs =>
    let (out, next) := beginUtf8 b
    out ++ decodeUtf8From next bs
  | some u, b :: bs =>
    let (out, next) := u.feed b
    out ++ decodeUtf8From next bs

def decodeUtf8 (bs : List UInt8) : List Char := decodeUtf8From none bs

def decodeUtf8? (bs : List UInt8) : Option (List Char) :=
  let cs := decodeUtf8 bs
  if encodeUtf8 cs = bs then some cs else none

end StanzaLint.Text
