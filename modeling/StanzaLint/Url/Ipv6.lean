import StanzaLint.Text.Table

/-!
# IPv6 addresses

Eight pieces of up to four hexadecimal digits between colons. One run of zero
pieces may be left out (`::`), and the last two pieces may be an IPv4 address
in dotted decimals. Written back, the first longest run of at least two zero
pieces is left out.
-/

namespace StanzaLint.Url.Ipv6

open Text

def readPiece? (cs : List Char) : Option Nat :=
  if 1 ≤ cs.length ∧ cs.length ≤ 4 ∧ cs.all (fun c => (hexDigit? c).isSome) then some (hexValue cs)
  else none

def readByte? (cs : List Char) : Option Nat :=
  if cs.isEmpty || !cs.all Char.isDigit || 3 < cs.length || (1 < cs.length && cs.head? == some '0')
  then none
  else
    let n := cs.foldl (fun n c => 10 * n + (c.toNat - '0'.toNat)) 0
    if n < 256 then some n else none

def readDotted? (cs : List Char) : Option (List Nat) := do
  match ← (split '.' cs).mapM readByte? with
  | [a, b, c, d] => some [256 * a + b, 256 * c + d]
  | _ => none

/-- The pieces of one side; only the last one may be dotted, and only where `dotted`. -/
def readSide? (dotted : Bool) : List (List Char) → Option (List Nat)
  | [] => some []
  | [last] =>
    if dotted && last.contains '.' then readDotted? last else (readPiece? last).map ([·])
  | piece :: rest => do
    let n ← readPiece? piece
    let ns ← readSide? dotted rest
    return n :: ns

def splitGap : List Char → Option (List Char × List Char)
  | ':' :: ':' :: rest => some ([], rest)
  | c :: rest => (splitGap rest).map fun (before, after) => (c :: before, after)
  | [] => none

def pieces (cs : List Char) : List (List Char) := if cs.isEmpty then [] else split ':' cs

def parse? (cs : List Char) : Option (List Nat) :=
  match splitGap cs with
  | some (before, after) => do
    let left ← readSide? false (pieces before)
    let right ← readSide? true (pieces after)
    if left.length + right.length ≤ 7 then
      some (left ++ List.replicate (8 - left.length - right.length) 0 ++ right)
    else none
  | none => do
    let all ← readSide? true (pieces cs)
    if all.length = 8 then some all else none

def zeroRun (ps : List Nat) : Nat := (ps.takeWhile (· == 0)).length

/-- The longest run of zeros, the first of them: where it starts and its length. -/
def longestRun (start : Nat) (best : Nat × Nat) : List Nat → Nat × Nat
  | [] => best
  | p :: ps =>
    let run := zeroRun (p :: ps)
    longestRun (start + 1) (if best.2 < run then (start, run) else best) ps

def pieceText (n : Nat) : String := String.ofList (Nat.toDigits 16 n)

def render (ps : List Nat) : String :=
  let (start, length) := longestRun 0 (0, 0) ps
  let join (qs : List Nat) := ":".intercalate (qs.map pieceText)
  if length < 2 then join ps
  else join (ps.take start) ++ "::" ++ join (ps.drop (start + length))

end StanzaLint.Url.Ipv6
