import StanzaLint.Html.Builder.Modes

/-!
# Drawings and formulas

Inside a drawing or a formula other rules hold. Some of their elements hold markup of
the page's own again, and some tags of the page's own end them.
-/

namespace StanzaLint.Html.Builder

def breakouts : List String := headings ++ [
  "b", "big", "blockquote", "body", "br", "center", "code", "dd", "div", "dl", "dt", "em", "embed",
  "head", "hr", "i", "img", "li", "listing", "menu", "meta", "nobr", "ol", "p", "pre", "ruby", "s",
  "small", "span", "strong", "strike", "sub", "sup", "table", "tt", "u", "ul", "var"]

def isBreakout (tag : Tag) : Bool :=
  breakouts.contains tag.name ||
    tag.name == "font" && tag.attributes.any fun (name, _) =>
      ["color", "face", "size"].contains name

/-- Whether a token inside an element is read by the rules of the page's own namespace. -/
def isOwn (e : Element) (token : Token) : Bool :=
  e.space == .html || token == .eof || match token with
    | .char _ => isMathText e || isDrawingHtml e || e.holdsHtml
    | .start tag =>
      isMathText e && !(["mglyph", "malignmark"].contains tag.name) || isDrawingHtml e ||
        e.holdsHtml || e.space == .mathml && e.name == "annotation-xml" && tag.name == "svg"
    | _ => false

def leaveForeign (b : Builder) : Builder :=
  { b with stack := b.stack.dropWhile fun i => match b.element? i with
      | some e => !(e.space == .html || isMathText e || isDrawingHtml e)
      | none => true }

/-- An end tag closes the innermost element of that name, unless an element of the page's own
comes first. -/
def endForeign (b : Builder) (name : String) : (first : Bool) → List Nat → Step
  | _, [] | _, [_] => b.done
  | first, i :: rest => match b.element? i with
    | some e =>
      if !first && e.space == .html then b.byMode (.close name)
      else if e.name == name then { b with stack := rest }.done
      else endForeign b name false rest
    | none => b.done

def foreign (b : Builder) (space : Namespace) (token : Token) : Step :=
  match token with
  | .char c =>
    ((if isBlankText c then b else b.noFrameset).addChar (Token.visible c)).done
  | .comment => b.addComment.done
  | .start tag =>
    if isBreakout tag then b.leaveForeign.byMode token else (b.startForeign space tag).done
  | .close name =>
    if name = "br" || name = "p" then b.leaveForeign.byMode token
    else b.endForeign name true b.stack
  | _ => b.done

def step (b : Builder) (token : Token) : Step :=
  match b.current?.bind b.element? with
  | some e => if isOwn e token then b.byMode token else b.foreign e.space token
  | none => b.byMode token

def stepTimes (token : Token) : Nat → Builder → Builder
  | 0, b => b
  | n + 1, b =>
    let (b, more) := b.step token
    if more then stepTimes token n b else b

/-- Each time a token is seen again, either an element was closed or the mode went on. -/
def take (b : Builder) (token : Token) : Builder :=
  let drop := b.dropNewline && token == .char '\n'
  let b := { b with dropNewline := false }
  if drop then b else stepTimes token (4 * b.stack.length + 24) b

end StanzaLint.Html.Builder
