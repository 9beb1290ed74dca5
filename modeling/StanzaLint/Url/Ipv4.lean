import StanzaLint.Text.Table

/-!
# IPv4 addresses

A host whose last label is a number is an address. Its one to four parts may be
decimal, octal (after `0`) or hexadecimal (after `0x`); the last part fills all
the bytes that the others leave.
-/

namespace StanzaLint.Url.Ipv4

open Text

def digitIn? (base : Nat) (c : Char) : Option Nat := (hexDigit? c).filter (· < base)

def readDigits? (base : Nat) (n : Nat) : List Char → Option Nat
  | [] => some n
  | c :: cs => do
    let d ← digitIn? base c
    readDigits? base (base * n + d) cs

def readNumber? : List Char → Option Nat
  | [] => none
  | '0' :: 'x' :: digits | '0' :: 'X' :: digits => readDigits? 16 0 digits
  | '0' :: d :: digits => readDigits? 8 0 (d :: digits)
  | digits => readDigits? 10 0 digits

def parts (host : List Char) : List (List Char) :=
  let ps := split '.' host
  if ps.getLast? == some [] then ps.dropLast else ps

/-- The host is an address or is refused. -/
def endsInNumber (host : List Char) : Bool :=
  match (parts host).getLast? with
  | some last => !last.isEmpty && (last.all Char.isDigit || (readNumber? last).isSome)
  | none => false

/-- The address that the parts spell, most significant first. `shift` is the number of
bits that the parts still have to fill. -/
def combine? (shift : Nat) : List Nat → Option Nat
  | [] => none
  | [last] => if last < 2 ^ shift then some last else none
  | n :: rest => do
    let low ← combine? (shift - 8) rest
    if n < 256 ∧ 8 < shift then some (n * 2 ^ (shift - 8) + low) else none

def parse? (host : List Char) : Option Nat := do
  let numbers ← (parts host).mapM readNumber?
  combine? 32 numbers

def byteText (address place : Nat) : String := toString (address >>> (8 * place) % 256)

def render (address : Nat) : String :=
  byteText address 3 ++ "." ++ byteText address 2 ++ "." ++ byteText address 1 ++ "." ++
    byteText address 0

end StanzaLint.Url.Ipv4
