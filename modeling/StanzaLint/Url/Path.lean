import StanzaLint.Url.Percent

/-!
# Paths of URLs

A path is a list of segments, each behind a slash. Segments that consist of one
dot are left out, and two dots take back the segment before, but never a drive
letter.
-/

namespace StanzaLint.Url

open Text

def readDot? : List Char → Option (List Char)
  | '.' :: rest | '%' :: '2' :: 'e' :: rest | '%' :: '2' :: 'E' :: rest => some rest
  | _ => none

def isSingleDot (segment : List Char) : Bool := readDot? segment == some []

def isDoubleDot (segment : List Char) : Bool := (readDot? segment).bind readDot? == some []

def isDriveLetter : List Char → Bool
  | [letter, c] => letter.isAlpha && (c == ':' || c == '|')
  | _ => false

/-- Takes back the last of the segments, which are given last first. -/
def shorten : List (List Char) → List (List Char)
  | [] => []
  | last :: before => if isDriveLetter last then last :: before else before

/-- The segments in normal form, the last one standing for what follows the last slash.
`before` are those already finished, last first. -/
def normalSegments (before : List (List Char)) : List (List Char) → List (List Char)
  | [] => before.reverse
  | [last] =>
    if isDoubleDot last then ([] :: shorten before).reverse
    else if isSingleDot last then ([] :: before).reverse
    else (last :: before).reverse
  | segment :: rest =>
    if isDoubleDot segment then normalSegments (shorten before) rest
    else if isSingleDot segment then normalSegments before rest
    else normalSegments (segment :: before) rest

def isSlash (special : Bool) (c : Char) : Bool := c == '/' || (special && c == '\\')

def segments (special : Bool) (cs : List Char) : List (List Char) :=
  normalSegments [] ((splitBy (isSlash special) cs).map (percentEncode inPath))

def joinSegments (ss : List (List Char)) : String := String.ofList (ss.flatMap ('/' :: ·))

/-- The segments without empty ones at the beginning, which the paths of files do not have. -/
def dropEmpty : List (List Char) → List (List Char)
  | [] :: s :: rest => dropEmpty (s :: rest)
  | ss => ss

end StanzaLint.Url
