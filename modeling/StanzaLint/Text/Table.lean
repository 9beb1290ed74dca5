import StanzaLint.Text.Blank

/-!
# Tables of character properties

A table is written as words, one per row, in increasing order of code points.
A row names one code point or a range of them in hexadecimal and says what
holds of its characters:

* `300-36F` — they are in the table;
* `C0-D6+20`, `178~79` — each becomes the character that far above or below;
* `100-12F/` — the first, third, fifth … becomes its successor;
* `132=69.6A` — each becomes this text, which may be empty;
* `300-314:230` — they carry a tag.
-/

namespace StanzaLint.Text

inductive Note where
  | member
  | above (offset : Nat)
  | below (offset : Nat)
  | alternate
  | becomes (text : List Char)
  | tag (word : String)
  deriving DecidableEq, Repr

structure Row where
  first : Nat
  last : Nat
  note : Note
  deriving DecidableEq, Repr

structure Table where
  rows : Array Row

def hexDigit? (c : Char) : Option Nat :=
  if '0' ≤ c ∧ c ≤ '9' then some (c.toNat - '0'.toNat)
  else if 'a' ≤ c ∧ c ≤ 'f' then some (c.toNat - 'a'.toNat + 10)
  else if 'A' ≤ c ∧ c ≤ 'F' then some (c.toNat - 'A'.toNat + 10)
  else none

/-- The number that the leading hexadecimal digits spell after `n`, and the rest. -/
def readHex (n : Nat) : List Char → Nat × List Char
  | [] => (n, [])
  | c :: cs => match hexDigit? c with
    | some d => readHex (16 * n + d) cs
    | none => (n, c :: cs)

def hexValue (cs : List Char) : Nat := (readHex 0 cs).1

def readChars (cs : List Char) : List Char :=
  if cs.isEmpty then [] else (split '.' cs).map fun digits => Char.ofNat (hexValue digits)

def Note.read : List Char → Note
  | '+' :: digits => .above (hexValue digits)
  | '~' :: digits => .below (hexValue digits)
  | '/' :: _ => .alternate
  | '=' :: text => .becomes (readChars text)
  | ':' :: word => .tag (String.ofList word)
  | _ => .member

def Row.read (word : List Char) : Row :=
  match readHex 0 word with
  | (first, '-' :: rest) =>
    let (last, note) := readHex 0 rest
    ⟨first, last, .read note⟩
  | (first, note) => ⟨first, first, .read note⟩

def Table.read (text : String) : Table := ⟨((words text.toList).map Row.read).toArray⟩

/-- The row among those from `lo` up to `hi` that holds the code point `n`. -/
def search (rows : Array Row) (n lo hi : Nat) : Option Row :=
  if lo < hi then
    match rows[(lo + hi) / 2]? with
    | none => none
    | some row =>
      if n < row.first then search rows n lo ((lo + hi) / 2)
      else if row.last < n then search rows n ((lo + hi) / 2 + 1) hi
      else some row
  else none
termination_by hi - lo

def Table.row? (t : Table) (c : Char) : Option Row := search t.rows c.toNat 0 t.rows.size

def Table.contains (t : Table) (c : Char) : Bool := (t.row? c).isSome

def Row.image (row : Row) (c : Char) : List Char :=
  match row.note with
  | .member | .tag _ => [c]
  | .above n => [Char.ofNat (c.toNat + n)]
  | .below n => [Char.ofNat (c.toNat - n)]
  | .alternate => if (c.toNat - row.first) % 2 = 0 then [Char.ofNat (c.toNat + 1)] else [c]
  | .becomes text => text

/-- What the table makes of a character; nothing is said of one outside it. -/
def Table.image? (t : Table) (c : Char) : Option (List Char) := (t.row? c).map (·.image c)

def Table.tag? (t : Table) (c : Char) : Option String :=
  (t.row? c).bind fun row => match row.note with
    | .tag word => some word
    | _ => none

end StanzaLint.Text
