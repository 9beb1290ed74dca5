import StanzaLint.Text.Utf8

/-!
# The lines of a file

Lines are separated by LF; one LF at the very end starts no further line, and
one CR at the end of a line belongs to its terminator. The bytes are cut before
they are decoded.
-/

namespace StanzaLint.Text

def splitBytes (sep : UInt8) : List UInt8 → List (List UInt8)
  | [] => [[]]
  | b :: bs =>
    if b = sep then [] :: splitBytes sep bs
    else match splitBytes sep bs with
      | piece :: rest => (b :: piece) :: rest
      | [] => [[b]]

def dropFinal [DecidableEq α] (x : α) : List α → List α
  | [] => []
  | [y] => if y = x then [] else [y]
  | y :: z :: rest => y :: dropFinal x (z :: rest)

def fileLines (content : List UInt8) : List String :=
  if content.isEmpty then []
  else (splitBytes 0x0A (dropFinal 0x0A content)).map fun line =>
    String.ofList (decodeUtf8 (dropFinal 0x0D line))

end StanzaLint.Text
