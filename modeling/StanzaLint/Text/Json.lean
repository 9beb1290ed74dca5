/-!
# JSON text

Compact writing: no blanks between tokens. In a string the quotation mark, the
backslash and the controls below U+0020 are escaped, everything else stands
for itself.
-/

namespace StanzaLint.Text

def lowerHexDigit (n : Nat) : Char := Char.ofNat (if n < 10 then 0x30 + n else 0x57 + n)

def jsonEscape (c : Char) : List Char :=
  match c with
  | '"' => ['\\', '"']
  | '\\' => ['\\', '\\']
  | '\n' => ['\\', 'n']
  | '\r' => ['\\', 'r']
  | '\t' => ['\\', 't']
  | c =>
    let n := c.toNat
    if n = 8 then ['\\', 'b']
    else if n = 12 then ['\\', 'f']
    else if n < 32 then ['\\', 'u', '0', '0', lowerHexDigit (n / 16), lowerHexDigit (n % 16)]
    else [c]

def jsonString (s : String) : String :=
  String.ofList ('"' :: s.toList.flatMap jsonEscape ++ ['"'])

inductive Json where
  | bool (b : Bool)
  | string (s : String)
  | array (items : List Json)
  | object (fields : List (String × Json))

mutual
def Json.render : Json → String
  | .bool b => if b then "true" else "false"
  | .string s => jsonString s
  | .array items => "[" ++ renderItems items ++ "]"
  | .object fields => "\x7b" ++ renderFields fields ++ "\x7d"
def renderItems : List Json → String
  | [] => ""
  | [item] => item.render
  | item :: rest => item.render ++ "," ++ renderItems rest
def renderFields : List (String × Json) → String
  | [] => ""
  | [(name, value)] => jsonString name ++ ":" ++ value.render
  | (name, value) :: rest => jsonString name ++ ":" ++ value.render ++ "," ++ renderFields rest
end

end StanzaLint.Text
