import StanzaLint.Text.Blank

/-!
# Lines that name a starting point

After the label such a line has one of three shapes:

* the address alone;
* `-Refresh`, `-Redirect` and `-Append -Encoded`, each optional and in this
  order, then a name and the address;
* `-Form=` with a method, optionally `-RewriteHost`, then a name and the address.

Words are compared without regard to case. Each reader below gives the list of
all rests that it can leave, so that an optional word may also be read as a name.
-/

namespace StanzaLint.UrlLine

open Text

/-- The ASCII letter that simple case folding identifies with `c`. Two letters beyond
ASCII have one: the long s and the Kelvin sign. -/
def fold (c : Char) : Char :=
  if c.toNat = 0x17F then 's' else if c.toNat = 0x212A then 'k' else c.toLower

/-- The rest after `word`, which is given in lower case, in any case. -/
def readWord? : (word cs : List Char) → Option (List Char)
  | [], cs => some cs
  | _ :: _, [] => none
  | w :: word, c :: cs => if fold c = w then readWord? word cs else none

def readOption (word : String) (cs : List Char) : List (List Char) :=
  trimStart cs :: ((readWord? word.toList cs).map trimStart).toList

def isToken (cs : List Char) : Bool := !cs.isEmpty && cs.all (!isBlank ·)

/-- The last token, if the text is one token, blanks, and that token. -/
def readPair? (cs : List Char) : Option (List Char) :=
  let (first, rest) := cs.span (!isBlank ·)
  let last := trimStart rest
  if isToken first && isToken last && rest != last then some last else none

def readLabel (cs : List Char) : List (List Char) :=
  ["u", "url"].filterMap fun word => do
    let rest ← readWord? word.toList cs
    if rest.head?.any isBlank then some (trimStart rest) else none

def readAlone? (cs : List Char) : Option (List Char) := if isToken cs then some cs else none

def readSwitched? (cs : List Char) : Option (List Char) :=
  let rests := readOption "-refresh " cs
    |>.flatMap (readOption "-redirect ") |>.flatMap (readOption "-append -encoded ")
  rests.findSome? readPair?

def readMethod? (cs : List Char) : Option (List Char) := do
  let rest ← readWord? "-form=".toList cs
  let (method, rest) := rest.span fun c => (fold c).isLower
  if method.isEmpty then none
  else match rest with
    | ' ' :: rest => some (trimStart rest)
    | _ => none

def readForm? (cs : List Char) : Option (List Char) := do
  let rest ← readMethod? cs
  (readOption "-rewritehost " rest).findSome? readPair?

/-- The address on a line, if it has one of the three shapes. -/
def find? (line : String) : Option String :=
  ((readLabel line.toList).findSome? fun rest =>
    readAlone? rest <|> readSwitched? rest <|> readForm? rest).map String.ofList

end StanzaLint.UrlLine
