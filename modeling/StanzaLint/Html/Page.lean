import StanzaLint.Html.Builder.Foreign
import StanzaLint.Text.Blank

/-!
# Pages

Reads a page into its tree, and finds in it the title of the stanza that the page
shows.
-/

namespace StanzaLint.Html

namespace Builder

def isForeign (b : Builder) : Bool :=
  (b.current?.bind b.element?).any (·.space != .html)

def lastStart (name : String) : List Token → String
  | [] => name
  | .start tag :: rest => lastStart tag.name rest
  | _ :: rest => lastStart name rest

/-- Reads a page to its end. Every round takes at least one character. -/
def run (b : Builder) (name : String) : Nat → List Char → Builder
  | 0, _ => b.take .eof
  | _, [] => b.take .eof
  | n + 1, cs =>
    let (tokens, reading, rest) := Token.read b.reading name b.isForeign cs
    run (tokens.foldl take { b with reading }) (lastStart name tokens) n rest

end Builder

def unifyLines : List Char → List Char
  | '\r' :: '\n' :: rest => '\n' :: unifyLines rest
  | '\r' :: rest => '\n' :: unifyLines rest
  | c :: rest => c :: unifyLines rest
  | [] => []

def dropMark : List Char → List Char
  | c :: rest => if c.toNat = 0xFEFF then rest else c :: rest
  | [] => []

def Document.parse (page : String) : Document :=
  let cs := unifyLines (dropMark page.toList)
  (Builder.run {} "" cs.length cs).document

/-! ## Titles -/

open Text

def titleLine? (line : List Char) : Option String :=
  (dropPrefix? "Title ".toList line <|> dropPrefix? "T ".toList line).map fun title =>
    String.ofList (trim title)

/-- The title that a text gives: that of its first line with one. -/
def titleIn? (text : List Char) : Option String :=
  (split '\n' text).findSome? titleLine?

/-- The title of the first stanza that a page shows as preformatted text. A block that starts
with an element does not count. -/
def pageTitle? (page : String) : Option String :=
  let document := Document.parse page
  (document.named "pre").findSome? fun node =>
    (document.firstText? node).bind fun text => titleIn? text.toList

end StanzaLint.Html
