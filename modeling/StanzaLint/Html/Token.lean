import StanzaLint.Html.Reference

/-!
# Tokens of a page

The text of a page is cut into tags, comments, doctypes and characters. How it
is cut depends on the element that it stands in: the text of some elements holds
no tags but the one that ends them. Each reader gives the tokens it found and
the text that is left.
-/

namespace StanzaLint.Html

open Text

structure Tag where
  name : String
  attributes : List (String × String) := []
  selfClosing : Bool := false
  deriving DecidableEq, Repr

/-- The text of a comment plays no part. Of a doctype it matters whether it is the
current one. -/
inductive Token where
  | start (tag : Tag)
  | close (name : String)
  | char (c : Char)
  | comment
  | doctype (current : Bool)
  | eof
  deriving DecidableEq, Repr

/-- How far a script is hidden in a comment; the number counts the hyphens just read,
up to two. -/
inductive Hiding where
  | none
  | comment (hyphens : Nat)
  | script (hyphens : Nat)
  deriving DecidableEq, Repr

inductive TextMode where
  | data
  | rcdata
  | rawtext
  | script (cover : Hiding)
  | plaintext
  deriving DecidableEq, Repr

namespace Token

def isSpace (c : Char) : Bool := c == ' ' || c == '\n' || c == '\t' || c.toNat == 12

def visible (c : Char) : Char := if c.toNat = 0 then replacement else c

def nameChar (c : Char) : Char := visible c.toLower

/-- A tag as far as it has been read. Names and values are in reverse. -/
structure Draft where
  done : List (String × String) := []
  name : List Char := []
  value : List Char := []

def Draft.finish (d : Draft) : List (String × String) :=
  let name := String.ofList d.name.reverse
  if d.name.isEmpty || d.done.any (·.1 == name) then d.done
  else d.done ++ [(name, String.ofList (Reference.resolve true d.value.reverse))]

def Draft.begin (d : Draft) (c : Char) : Draft := { done := d.finish, name := [nameChar c] }

inductive TagState where
  | beforeName
  | inName
  | afterName
  | beforeValue
  | quoted (mark : Char)
  | bare
  | slash

def betweenAttributes (d : Draft) (c : Char) : Draft × TagState :=
  if isSpace c then (d, .beforeName)
  else if c == '/' then (d, .slash)
  else (d.begin c, .inName)

def isQuote (c : Char) : Bool := c == '"' || c.toNat == 0x27

/-- The rest of a tag behind its name: the attributes, whether it closes itself, and what
follows it. A tag that does not end is none. -/
def readAttributes (d : Draft) : TagState → List Char →
    Option (List (String × String) × Bool × List Char)
  | _, [] => none
  | .quoted mark, c :: cs =>
    if c == mark then readAttributes d .beforeName cs
    else readAttributes { d with value := visible c :: d.value } (.quoted mark) cs
  | .slash, c :: cs =>
    if c == '>' then some (d.finish, true, cs)
    else
      let (d, next) := betweenAttributes d c
      readAttributes d next cs
  | state, c :: cs =>
    if c == '>' then some (d.finish, false, cs)
    else match state with
      | .inName =>
        if isSpace c then readAttributes d .afterName cs
        else if c == '/' then readAttributes d .slash cs
        else if c == '=' then readAttributes d .beforeValue cs
        else readAttributes { d with name := nameChar c :: d.name } .inName cs
      | .afterName =>
        if isSpace c then readAttributes d .afterName cs
        else if c == '=' then readAttributes d .beforeValue cs
        else
          let (d, next) := betweenAttributes d c
          readAttributes d next cs
      | .beforeValue =>
        if isSpace c then readAttributes d .beforeValue cs
        else if isQuote c then readAttributes d (.quoted c) cs
        else readAttributes { d with value := [visible c] } .bare cs
      | .bare =>
        if isSpace c then readAttributes d .beforeName cs
        else readAttributes { d with value := visible c :: d.value } .bare cs
      | _ =>
        let (d, next) := betweenAttributes d c
        readAttributes d next cs

def endsName (c : Char) : Bool := isSpace c || c == '/' || c == '>'

def readTag? (cs : List Char) : Option (Tag × List Char) :=
  let (name, rest) := cs.span (!endsName ·)
  (readAttributes {} .beforeName rest).map fun (attributes, selfClosing, rest) =>
    (⟨String.ofList (name.map nameChar), attributes, selfClosing⟩, rest)

def skipComment : List Char → List Char
  | '-' :: '-' :: '>' :: rest | '-' :: '-' :: '!' :: '>' :: rest => rest
  | _ :: rest => skipComment rest
  | [] => []

def afterComment : List Char → List Char
  | '>' :: rest | '-' :: '>' :: rest => rest
  | cs => skipComment cs

def afterBogus (cs : List Char) : List Char := (cs.dropWhile (· != '>')).drop 1

/-- The characters up to the end of a literal section, and what follows. -/
def readLiteral : List Char → List Token × List Char
  | ']' :: ']' :: '>' :: rest => ([], rest)
  | c :: rest =>
    let (tokens, after) := readLiteral rest
    (.char c :: tokens, after)
  | [] => ([], [])

def readWord? : (word cs : List Char) → Option (List Char)
  | [], cs => some cs
  | _ :: _, [] => none
  | w :: word, c :: cs => if c.toLower = w then readWord? word cs else none

/-- The name on a doctype is the only one that counts as current. -/
def isCurrentDoctype (cs : List Char) : Bool :=
  let name := (cs.dropWhile isSpace).takeWhile (!endsName ·)
  name.map Char.toLower == "html".toList

def readDeclaration (foreign : Bool) (cs : List Char) : List Token × List Char :=
  match cs with
  | '-' :: '-' :: rest => ([.comment], afterComment rest)
  | cs => match readWord? "doctype".toList cs with
    | some rest => ([.doctype (isCurrentDoctype rest)], afterBogus rest)
    | none => match foreign, cs with
      | true, '[' :: 'C' :: 'D' :: 'A' :: 'T' :: 'A' :: '[' :: rest => readLiteral rest
      | _, cs => ([.comment], afterBogus cs)

def ofTag (token : Tag → Token) : Option (Tag × List Char) → List Token × List Char
  | some (tag, rest) => ([token tag], rest)
  | none => ([], [])

def readMarkup (foreign : Bool) : List Char → List Token × List Char
  | '!' :: cs => readDeclaration foreign cs
  | '?' :: cs => ([.comment], afterBogus cs)
  | ['/'] => ([.char '<', .char '/'], [])
  | '/' :: c :: cs =>
    if c.isAlpha then ofTag (fun tag => .close tag.name) (readTag? (c :: cs))
    else if c == '>' then ([], cs)
    else ([.comment], afterBogus (c :: cs))
  | c :: cs =>
    if c.isAlpha then ofTag .start (readTag? (c :: cs)) else ([.char '<'], c :: cs)
  | [] => ([.char '<'], [])

def readReference (cs : List Char) : List Token × List Char :=
  match Reference.read? false cs with
  | some (text, rest) => (text.map .char, rest)
  | none => ([.char '&'], cs)

def readData (foreign : Bool) : List Char → List Token × List Char
  | '&' :: cs => readReference cs
  | '<' :: cs => readMarkup foreign cs
  | c :: cs => ([.char c], cs)
  | [] => ([], [])

def readEnd? (name : String) (cs : List Char) : Option (List Token × List Char) :=
  match readWord? name.toList cs with
  | some (c :: rest) =>
    if endsName c then some (ofTag (fun _ => .close name) (readTag? (name.toList ++ c :: rest)))
    else none
  | _ => none

/-- Text in which only the end of the element `name` and perhaps references count. -/
def readRaw (references : Bool) (name : String) : List Char → List Token × TextMode × List Char
  | '<' :: '/' :: cs => match readEnd? name cs with
    | some (tokens, rest) => (tokens, .data, rest)
    | none => ([.char '<'], if references then .rcdata else .rawtext, '/' :: cs)
  | '&' :: cs =>
    if references then
      let (tokens, rest) := readReference cs
      (tokens, .rcdata, rest)
    else ([.char '&'], .rawtext, cs)
  | c :: cs => ([.char (visible c)], if references then .rcdata else .rawtext, cs)
  | [] => ([], .data, [])

def readScriptWord? (cs : List Char) : Option (List Token × List Char) :=
  match readWord? "script".toList cs with
  | some (c :: rest) =>
    if endsName c then some ((cs.take 7).map .char, rest) else none
  | _ => none

/-- A script. Inside a comment it may hold the text of a script of its own. -/
def readScript : Hiding → List Char → List Token × Hiding × List Char
  | .none, '<' :: '!' :: '-' :: '-' :: cs =>
    (['<', '!', '-', '-'].map .char, .comment 2, cs)
  | .none, c :: cs => ([.char (visible c)], .none, cs)
  | .comment n, '-' :: cs => ([.char '-'], .comment (min 2 (n + 1)), cs)
  | .comment n, '>' :: cs => ([.char '>'], if n = 2 then .none else .comment 0, cs)
  | .comment _, '<' :: cs => match readScriptWord? cs with
    | some (tokens, rest) => (.char '<' :: tokens, .script 0, rest)
    | none => ([.char '<'], .comment 0, cs)
  | .comment _, c :: cs => ([.char (visible c)], .comment 0, cs)
  | .script n, '-' :: cs => ([.char '-'], .script (min 2 (n + 1)), cs)
  | .script n, '>' :: cs => ([.char '>'], if n = 2 then .none else .script 0, cs)
  | .script _, '<' :: '/' :: cs => match readScriptWord? cs with
    | some (tokens, rest) => (.char '<' :: .char '/' :: tokens, .comment 0, rest)
    | none => ([.char '<'], .script 0, '/' :: cs)
  | .script _, c :: cs => ([.char (visible c)], .script 0, cs)
  | _, [] => ([], .none, [])

/-- The end of a script counts unless a script in a comment is open. -/
def readScriptOrEnd (name : String) (cover : Hiding) (cs : List Char) :
    List Token × TextMode × List Char :=
  let ended := match cover, cs with
    | .script _, _ => none
    | _, '<' :: '/' :: rest => readEnd? name rest
    | _, _ => none
  match ended with
  | some (tokens, rest) => (tokens, .data, rest)
  | none =>
    let (tokens, cover, rest) := readScript cover cs
    (tokens, .script cover, rest)

/-- The next tokens, the mode that follows them, and the text that is left. `name` is the
last start tag, and `foreign` says that literal sections are allowed. -/
def read (mode : TextMode) (name : String) (foreign : Bool) (cs : List Char) :
    List Token × TextMode × List Char :=
  match mode with
  | .data =>
    let (tokens, rest) := readData foreign cs
    (tokens, .data, rest)
  | .rcdata => readRaw true name cs
  | .rawtext => readRaw false name cs
  | .script cover => readScriptOrEnd name cover cs
  | .plaintext => ((cs.take 1).map (.char <| visible ·), .plaintext, cs.drop 1)

end Token

end StanzaLint.Html
