import StanzaLint.Text.Table

/-!
# Names and strings in TOML

A reader gives what it read and the text that is left. Line ends are line feeds here.
-/

namespace StanzaLint.Toml

open Text

def isSpace (c : Char) : Bool := c == ' ' || c == '\t'

def skipSpaces (cs : List Char) : List Char := cs.dropWhile isSpace

def isPlain (c : Char) : Bool :=
  let n := c.toNat
  n == 9 || (0x20 ≤ n && n ≤ 0x7E) || 0x80 ≤ n

def isApostrophe (c : Char) : Bool := c.toNat == 0x27

def skipComment : List Char → List Char
  | '#' :: rest => rest.dropWhile isPlain
  | cs => cs

def lineEnd? (cs : List Char) : Option (List Char) :=
  match skipComment (skipSpaces cs) with
  | [] => some []
  | '\n' :: rest => some rest
  | _ => none

inductive Escape where
  | none
  | start
  | digits (missing value : Nat)
  /-- A line end that is left out; blanks may stand before it and behind it. -/
  | gap (ended : Bool)

def simpleEscape? : Char → Option Char
  | 'b' => some (Char.ofNat 8)
  | 't' => some '\t'
  | 'n' => some '\n'
  | 'f' => some (Char.ofNat 12)
  | 'r' => some '\r'
  | '"' => some '"'
  | '\\' => some '\\'
  | _ => Option.none

/-- One more character of an escape: the character that it gives, and what follows. -/
def Escape.feed : Escape → Char → Option (List Char × Escape)
  | .start, 'u' => some ([], .digits 3 0)
  | .start, 'U' => some ([], .digits 7 0)
  | .start, c => (simpleEscape? c).map fun d => ([d], .none)
  | .digits missing value, c => (hexDigit? c).bind fun digit =>
    let value := value * 16 + digit
    match missing with
    | 0 => if value.isValidChar then some ([Char.ofNat value], .none) else Option.none
    | missing + 1 => some ([], .digits missing value)
  | _, _ => Option.none

def prepend (lead : List Char) : Option (List Char × List Char) → Option (List Char × List Char) :=
  Option.map fun (text, rest) => (lead ++ text, rest)

def readBasic : Escape → List Char → Option (List Char × List Char)
  | _, [] => none
  | .none, c :: cs =>
    if c = '"' then some ([], cs)
    else if c = '\\' then readBasic .start cs
    else if isPlain c then prepend [c] (readBasic .none cs)
    else none
  | escape, c :: cs => match escape.feed c with
    | some (text, escape) => prepend text (readBasic escape cs)
    | none => none

/-- A string of several lines, from behind its opening mark. Up to two quotation marks may stand
before the closing one. -/
def readBasicLines : Escape → List Char → Option (List Char × List Char)
  | .none, '"' :: '"' :: '"' :: '"' :: '"' :: rest
  | .gap true, '"' :: '"' :: '"' :: '"' :: '"' :: rest => some (['"', '"'], rest)
  | .none, '"' :: '"' :: '"' :: '"' :: rest
  | .gap true, '"' :: '"' :: '"' :: '"' :: rest => some (['"'], rest)
  | .none, '"' :: '"' :: '"' :: rest
  | .gap true, '"' :: '"' :: '"' :: rest => some ([], rest)
  | _, [] => none
  | escape, c :: cs =>
    let isBlank := isSpace c || c == '\n'
    match escape with
    | .start =>
      if isBlank then readBasicLines (.gap (c == '\n')) cs
      else match escape.feed c with
        | some (text, escape) => prepend text (readBasicLines escape cs)
        | none => none
    | .gap false => if isBlank then readBasicLines (.gap (c == '\n')) cs else none
    | .digits _ _ => match escape.feed c with
      | some (text, escape) => prepend text (readBasicLines escape cs)
      | none => none
    | .none | .gap true =>
      if isBlank && escape matches .gap true then readBasicLines (.gap true) cs
      else if c = '\\' then readBasicLines .start cs
      else if isPlain c || c == '\n' then prepend [c] (readBasicLines .none cs)
      else none

def readLiteral (cs : List Char) : Option (List Char × List Char) :=
  match cs.span fun c => isPlain c && !isApostrophe c with
  | (text, c :: rest) => if isApostrophe c then some (text, rest) else none
  | (_, []) => none

def readLiteralLines : List Char → Option (List Char × List Char)
  | [] => none
  | c :: cs =>
    if isApostrophe c then
      match (c :: cs).takeWhile isApostrophe with
      | marks@(_ :: _ :: _ :: _) =>
        let extra := min 2 (marks.length - 3)
        some (marks.take extra, (c :: cs).drop (extra + 3))
      | _ => prepend [c] (readLiteralLines cs)
    else if isPlain c || c == '\n' then prepend [c] (readLiteralLines cs)
    else none

/-- A line end right behind the opening mark does not count. -/
def skipFirst : List Char → List Char
  | '\n' :: rest => rest
  | cs => cs

def opensWith (mark : Char → Bool) (n : Nat) (cs : List Char) : Bool :=
  (cs.take n).length == n && (cs.take n).all mark

def readString? (cs : List Char) : Option (List Char × List Char) :=
  if opensWith (· == '"') 3 cs then readBasicLines .none (skipFirst (cs.drop 3))
  else if opensWith (· == '"') 1 cs then readBasic .none (cs.drop 1)
  else if opensWith isApostrophe 3 cs then readLiteralLines (skipFirst (cs.drop 3))
  else if opensWith isApostrophe 1 cs then readLiteral (cs.drop 1)
  else none

def isNameChar (c : Char) : Bool := c.isAlphanum || c == '_' || c == '-'

def readName? (cs : List Char) : Option (String × List Char) :=
  let read :=
    if opensWith (· == '"') 1 cs then readBasic .none (cs.drop 1)
    else if opensWith isApostrophe 1 cs then readLiteral (cs.drop 1)
    else match cs.span isNameChar with
      | ([], _) => none
      | found => some found
  read.map fun (name, rest) => (String.ofList name, rest)

def readNames? : Nat → List Char → Option (List String × List Char)
  | 0, _ => none
  | n + 1, cs => do
    let (name, rest) ← readName? cs
    match skipSpaces rest with
    | '.' :: more =>
      let (names, rest) ← readNames? n (skipSpaces more)
      some (name :: names, rest)
    | rest => some ([name], rest)

/-- How many parts a name may have, and how deep values may nest: less than this. -/
def limit : Nat := 80

def readPath? (cs : List Char) : Option (List String × List Char) := readNames? (limit - 1) cs

end StanzaLint.Toml
