import StanzaLint.Toml.Number
import StanzaLint.Toml.Value

/-!
# Reading TOML

A document is read line by line: blank lines and comments, headers of tables, and
names with their values.
-/

namespace StanzaLint.Toml

open Text

def skipGap : (inComment : Bool) → List Char → List Char
  | _, [] => []
  | false, c :: cs =>
    if isSpace c || c == '\n' then skipGap false cs
    else if c == '#' then skipGap true cs
    else c :: cs
  | true, c :: cs =>
    if c == '\n' then skipGap false cs
    else if isPlain c then skipGap true cs
    else c :: cs

def readScalar? (cs : List Char) : Option (Value × List Char) :=
  match cs with
  | 't' :: 'r' :: 'u' :: 'e' :: rest => some (.boolean true, rest)
  | 'f' :: 'a' :: 'l' :: 's' :: 'e' :: rest => some (.boolean false, rest)
  | cs =>
    (readString? cs).map (fun (text, rest) => (.string (String.ofList text), rest)) <|>
      (readMoment? cs).map (.time, ·) <|> (readFloat? cs).map (.float, ·) <|>
      (readInteger? cs).map fun (i, rest) => (.integer i, rest)

mutual
/-- A value, `depth` values deep. The fuel is more than there are characters. -/
def readValue? : (fuel depth : Nat) → List Char → Option (Value × List Char)
  | 0, _, _ => none
  | fuel + 1, depth, cs => match cs with
    | '[' :: rest =>
      if depth + 1 ≥ limit then none
      else (readItems? fuel (depth + 1) rest).map fun (items, rest) => (.array items, rest)
    | '\x7b' :: rest =>
      if depth + 1 ≥ limit then none
      else match skipSpaces rest with
        | '\x7d' :: rest => some (.table .inline [], rest)
        | rest => (readPairs? fuel (depth + 1) [] rest).map fun (entries, rest) =>
          (.table .inline entries, rest)
    | cs => readScalar? cs
def readItems? : (fuel depth : Nat) → List Char → Option (List Value × List Char)
  | 0, _, _ => none
  | fuel + 1, depth, cs => match skipGap false cs with
    | ']' :: rest => some ([], rest)
    | cs => do
      let (item, rest) ← readValue? fuel depth cs
      match skipGap false rest with
      | ',' :: rest =>
        let (items, rest) ← readItems? fuel depth rest
        some (item :: items, rest)
      | ']' :: rest => some ([item], rest)
      | _ => none
def readPairs? : (fuel depth : Nat) → Entries → List Char → Option (Entries × List Char)
  | 0, _, _, _ => none
  | fuel + 1, depth, entries, cs => do
    let (path, rest) ← readPath? cs
    let (value, rest) ← readValue? fuel depth (skipSpaces (← skip? (· == '=') rest))
    let (_, entries) ← assign path.dropLast (path.getLast?.getD "") value .inline entries
    match skipSpaces rest with
    | ',' :: rest => readPairs? fuel depth entries (skipSpaces rest)
    | '\x7d' :: rest => some (entries, rest)
    | _ => none
end

def readHeader? (d : Document) (isArray : Bool) (cs : List Char) :
    Option (Document × List Char) := do
  let (path, rest) ← readPath? (skipSpaces cs)
  let rest ← skip? (· == ']') rest
  let rest ← if isArray then skip? (· == ']') rest else some rest
  some (← d.start isArray path, rest)

def readPair? (d : Document) (cs : List Char) : Option (Document × List Char) := do
  let (path, rest) ← readPath? cs
  let rest ← skip? (· == '=') rest
  let (value, rest) ← readValue? (2 * rest.length + 2) 0 (skipSpaces rest)
  some (← d.set path value, rest)

/-- What a line does to the document, and what follows on the line. -/
def readLine? (d : Document) : List Char → Option (Document × List Char)
  | [] => some (d, [])
  | '[' :: '[' :: rest => readHeader? d true rest
  | '[' :: rest => readHeader? d false rest
  | c :: cs => if c == '#' || c == '\n' then some (d, c :: cs) else readPair? d (c :: cs)

def readLines? (d : Document) : (fuel : Nat) → List Char → Option Document
  | 0, _ => none
  | _, [] => some d
  | fuel + 1, cs => do
    let (d, rest) ← readLine? d (skipSpaces cs)
    readLines? d fuel (← lineEnd? rest)

def joinLineEnds : List Char → List Char
  | '\r' :: '\n' :: rest => '\n' :: joinLineEnds rest
  | c :: rest => c :: joinLineEnds rest
  | [] => []

def skipMark : List Char → List Char
  | c :: rest => if c.toNat = 0xFEFF then rest else c :: rest
  | [] => []

def parse? (text : List Char) : Option Entries :=
  let cs := joinLineEnds (skipMark text)
  (readLines? {} (cs.length + 1) cs).map (·.entries)

end StanzaLint.Toml
