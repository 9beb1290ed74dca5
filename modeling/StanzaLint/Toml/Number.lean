import StanzaLint.Toml.Text

/-!
# Numbers and times in TOML
-/

namespace StanzaLint.Toml

open Text

def isDigit (base : Nat) (c : Char) : Bool := (hexDigit? c).any (· < base)

/-- Digits, between which single underscores may stand. -/
def readDigits (base : Nat) : List Char → List Char × List Char
  | '_' :: c :: cs =>
    if isDigit base c then
      let (digits, rest) := readDigits base cs
      (c :: digits, rest)
    else ([], '_' :: c :: cs)
  | c :: cs =>
    if isDigit base c then
      let (digits, rest) := readDigits base cs
      (c :: digits, rest)
    else ([], c :: cs)
  | [] => ([], [])

def digitsValue (base : Nat) (digits : List Char) : Nat :=
  digits.foldl (fun n c => n * base + (hexDigit? c).getD 0) 0

def readNumber? (base : Nat) : List Char → Option (List Char × List Char)
  | c :: cs => if isDigit base c then some (readDigits base (c :: cs)) else none
  | [] => none

def readSign : List Char → Bool × List Char
  | '-' :: rest => (true, rest)
  | '+' :: rest => (false, rest)
  | cs => (false, cs)

/-- A decimal number without needless zeros: whether it is negative, and its digits. -/
def readDecimal? (cs : List Char) : Option (Bool × List Char × List Char) :=
  let (negative, rest) := readSign cs
  match rest with
  | '0' :: rest => some (negative, ['0'], rest)
  | rest => (readNumber? 10 rest).map fun (digits, rest) => (negative, digits, rest)

def maxInteger : Int := 0x7FFFFFFFFFFFFFFF

def minInteger : Int := -0x8000000000000000

def checkRange (i : Int) (rest : List Char) : Option (Int × List Char) :=
  if minInteger ≤ i ∧ i ≤ maxInteger then some (i, rest) else none

def readBased (base : Nat) (cs : List Char) : Option (Int × List Char) :=
  (readNumber? base cs).bind fun (digits, rest) => checkRange (digitsValue base digits) rest

def readInteger? : List Char → Option (Int × List Char)
  | '0' :: 'x' :: rest => readBased 16 rest
  | '0' :: 'o' :: rest => readBased 8 rest
  | '0' :: 'b' :: rest => readBased 2 rest
  | cs => (readDecimal? cs).bind fun (negative, digits, rest) =>
    let n : Int := digitsValue 10 digits
    checkRange (if negative then -n else n) rest

def readFraction? : List Char → Option (List Char × List Char)
  | '.' :: rest => readNumber? 10 rest
  | _ => none

def readExponent? : List Char → Option (Int × List Char)
  | c :: rest =>
    if c = 'e' ∨ c = 'E' then
      let (negative, rest) := readSign rest
      (readNumber? 10 rest).map fun (digits, rest) =>
        let n : Int := digitsValue 10 digits
        (if negative then -n else n, rest)
    else none
  | [] => none

/-- The least number that is too large for a double: half a step above the largest one. -/
def tooLarge : Nat := Nat.pow 2 1024 - Nat.pow 2 970

/-- Whether `digits`, times ten to the power `exponent`, is too large for a double. -/
def overflows (digits : List Char) (exponent : Int) : Bool :=
  let n := digitsValue 10 digits
  let size := (Nat.toDigits 10 n).length + exponent
  n != 0 && (size > 310 || size > 300 &&
    if exponent < 0 then n ≥ tooLarge * Nat.pow 10 exponent.natAbs
    else n * Nat.pow 10 exponent.toNat ≥ tooLarge)

/-- What follows a float. One that is too large counts only if it is negative. -/
def readFinite? (cs : List Char) : Option (List Char) := do
  let (negative, whole, rest) ← readDecimal? cs
  let (digits, exponent, rest) ← match readExponent? rest with
    | some (exponent, rest) => some (whole, exponent, rest)
    | none => do
      let (fraction, rest) ← readFraction? rest
      let (exponent, rest) := (readExponent? rest).getD (0, rest)
      some (whole ++ fraction, exponent - fraction.length, rest)
  if !negative && overflows digits exponent then none else some rest

def readSpecial? (cs : List Char) : Option (List Char) :=
  match (readSign cs).2 with
  | 'i' :: 'n' :: 'f' :: rest | 'n' :: 'a' :: 'n' :: rest => some rest
  | _ => none

def readFloat? (cs : List Char) : Option (List Char) := readFinite? cs <|> readSpecial? cs

/-! ## Times -/

def readFixed? (n low high : Nat) (cs : List Char) : Option (Nat × List Char) :=
  let digits := cs.take n
  let value := digitsValue 10 digits
  if digits.length = n ∧ digits.all Char.isDigit ∧ low ≤ value ∧ value ≤ high then
    some (value, cs.drop n)
  else none

def skip? (p : Char → Bool) : List Char → Option (List Char)
  | c :: rest => if p c then some rest else none
  | [] => none

def isLeap (year : Nat) : Bool := (year % 4 == 0 && year % 100 != 0) || year % 400 == 0

def daysIn (year month : Nat) : Nat :=
  if month = 2 then if isLeap year then 29 else 28
  else if [4, 6, 9, 11].contains month then 30 else 31

def readDate? (cs : List Char) : Option (List Char) := do
  let (year, rest) ← readFixed? 4 0 9999 cs
  let (month, rest) ← readFixed? 2 1 12 (← skip? (· == '-') rest)
  let (_, rest) ← readFixed? 2 1 (daysIn year month) (← skip? (· == '-') rest)
  some rest

def skipFraction (cs : List Char) : List Char :=
  match cs with
  | '.' :: c :: rest => if c.isDigit then rest.dropWhile Char.isDigit else cs
  | cs => cs

/-- A time of day. A minute may have a leap second. -/
def readTime? (cs : List Char) : Option (List Char) := do
  let (_, rest) ← readFixed? 2 0 23 cs
  let (_, rest) ← readFixed? 2 0 59 (← skip? (· == ':') rest)
  let (_, rest) ← readFixed? 2 0 60 (← skip? (· == ':') rest)
  some (skipFraction rest)

def skipOffset (cs : List Char) : List Char :=
  let offset := do
    let rest ← skip? (fun c => c == '+' || c == '-') cs
    let (_, rest) ← readFixed? 2 0 23 rest
    let (_, rest) ← readFixed? 2 0 59 (← skip? (· == ':') rest)
    some rest
  (skip? (fun c => c == 'Z' || c == 'z') cs <|> offset).getD cs

def readDateTime? (cs : List Char) : Option (List Char) := do
  let rest ← readDate? cs
  let time := do
    let rest ← skip? (fun c => c == 'T' || c == 't' || c == ' ') rest
    some (skipOffset (← readTime? rest))
  some (time.getD rest)

def readMoment? (cs : List Char) : Option (List Char) := readDateTime? cs <|> readTime? cs

end StanzaLint.Toml
