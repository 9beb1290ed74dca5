import StanzaLint.Html.Builder.Head

/-!
# The body of a page
-/

namespace StanzaLint.Html.Builder

def closeParagraph (b : Builder) : Builder :=
  if b.inScope .button ["p"] then (b.popImpliedExcept "p").close "p" else b

def blocks : List String := [
  "address", "article", "aside", "blockquote", "center", "details", "dialog", "dir", "div", "dl",
  "fieldset", "figcaption", "figure", "footer", "header", "hgroup", "main", "menu", "nav", "ol",
  "section", "summary", "ul"]

/-- Elements that an end tag of their name closes if they are in scope. -/
def closables : List String := blocks ++ ["button", "listing", "pre"]

def styles : List String :=
  ["b", "big", "code", "em", "font", "i", "s", "small", "strike", "strong", "tt", "u"]

def tableOnly : List String := [
  "caption", "col", "colgroup", "frame", "head", "tbody", "td", "tfoot", "th", "thead", "tr"]

def openItem? (b : Builder) (kinds : List String) : List Nat → Option String
  | [] => none
  | i :: rest =>
    if b.isHtml kinds i then (b.element? i).map (·.name)
    else if b.isSpecial i && !b.isHtml ["address", "div", "p"] i then none
    else openItem? b kinds rest

def startItem (b : Builder) (name : String) : Builder :=
  let b := b.noFrameset
  let b := match b.openItem? (if name = "li" then ["li"] else ["dd", "dt"]) b.stack with
    | some item => (b.popImpliedExcept item).close item
    | none => b
  b.closeParagraph.insert name

def startForm (b : Builder) : Builder :=
  let inTemplate := b.hasOpen "template"
  if b.form.isSome && !inTemplate then b
  else
    let b := b.closeParagraph.insert "form"
    if inTemplate then b else { b with form := b.current? }

def endForm (b : Builder) : Builder :=
  if b.hasOpen "template" then
    if b.inScope .general ["form"] then b.popImplied.close "form" else b
  else match b.form with
    | none => b
    | some i =>
      let b := { b with form := none }
      if b.inScopeBy .general (· == i) then b.popImplied.removeOpen i else b

def startButton (b : Builder) : Builder :=
  let b := if b.inScope .general ["button"] then b.popImplied.close "button" else b
  (b.reconstruct.insert "button").noFrameset

def startUnbreakable (b : Builder) (tag : Tag) : Builder :=
  let b := b.reconstruct
  if b.inScope .general ["nobr"] then
    (b.closeFormatting "nobr").reconstruct.insertFormatting tag
  else b.insertFormatting tag

def isHidden (tag : Tag) : Bool :=
  tag.attributes.any fun (name, value) => name == "type" && value.toLower == "hidden"

def startForeign (b : Builder) (space : Namespace) (tag : Tag) : Builder :=
  let holdsHtml := space == .mathml && tag.name == "annotation-xml" &&
    tag.attributes.any fun (name, value) => name == "encoding" &&
      ["text/html", "application/xhtml+xml"].contains value.toLower
  let (b, i) := b.addElement { space, name := tag.name, holdsHtml }
  if tag.selfClosing then b else b.push i

def isTableMode : Mode → Bool
  | .inTable | .inCaption | .inTableBody | .inRow | .inCell => true
  | _ => false

def startFrameset (b : Builder) : Builder :=
  match b.stack.reverse with
  | root :: body :: _ =>
    if b.framesetAllowed && b.isHtml ["body"] body then
      ({ b with document := b.document.detach body, stack := [root] }.insert "frameset").goto
        .inFrameset
    else b
  | _ => b

def hasBody (b : Builder) : Bool :=
  match b.stack.reverse with
  | _ :: body :: _ => b.isHtml ["body"] body
  | _ => false

def startVoid (b : Builder) (tag : Tag) : Builder :=
  let b := b.reconstruct.insertVoid tag.name
  if tag.name = "input" && isHidden tag then b else b.noFrameset

def bodyStart (b : Builder) (tag : Tag) : Builder :=
  let name := tag.name
  if name = "html" then b
  else if headNames.contains name then (b.headStart? name).getD b
  else if name = "body" then if b.hasBody && !b.hasOpen "template" then b.noFrameset else b
  else if name = "frameset" then b.startFrameset
  else if name = "p" || blocks.contains name then b.closeParagraph.insert name
  else if headings.contains name then
    let b := b.closeParagraph
    (if b.currentIs headings then b.pop else b).insert name
  else if name = "pre" || name = "listing" then
    { (b.closeParagraph.insert name).noFrameset with dropNewline := true }
  else if name = "form" then b.startForm
  else if ["li", "dd", "dt"].contains name then b.startItem name
  else if name = "plaintext" then { b.closeParagraph.insert name with reading := .plaintext }
  else if name = "button" then b.startButton
  else if name = "a" then b.closeOuterLink.reconstruct.insertFormatting tag
  else if styles.contains name then b.reconstruct.insertFormatting tag
  else if name = "nobr" then b.startUnbreakable tag
  else if ["applet", "marquee", "object"].contains name then
    (b.reconstruct.insert name).pushMarker.noFrameset
  else if name = "table" then
    (((if b.legacy then b else b.closeParagraph).insert name).noFrameset).goto .inTable
  else if ["area", "br", "embed", "img", "keygen", "wbr", "input"].contains name then
    b.startVoid tag
  else if ["param", "source", "track"].contains name then b.insertVoid name
  else if name = "hr" then (b.closeParagraph.insertVoid name).noFrameset
  else if name = "image" then b.startVoid { tag with name := "img" }
  else if name = "textarea" then { b.noFrameset.insertRaw name .rcdata with dropNewline := true }
  else if name = "xmp" then b.closeParagraph.reconstruct.noFrameset.insertRaw name .rawtext
  else if name = "iframe" then b.noFrameset.insertRaw name .rawtext
  else if name = "noembed" || name = "noscript" then b.insertRaw name .rawtext
  else if name = "select" then
    ((b.reconstruct.insert name).noFrameset).goto
      (if isTableMode b.mode then .inSelectInTable else .inSelect)
  else if name = "optgroup" || name = "option" then
    ((if b.currentIs ["option"] then b.pop else b).reconstruct).insert name
  else if name = "rb" || name = "rtc" then
    (if b.inScope .general ["ruby"] then b.popImplied else b).insert name
  else if name = "rp" || name = "rt" then
    (if b.inScope .general ["ruby"] then b.popImpliedExcept "rtc" else b).insert name
  else if name = "math" then b.reconstruct.startForeign .mathml tag
  else if name = "svg" then b.reconstruct.startForeign .svg tag
  else if tableOnly.contains name then b
  else b.reconstruct.insert name

def bodyEnd (b : Builder) (name : String) : Step :=
  if name = "template" then b.closeTemplate.done
  else if name = "body" then
    (if b.inScope .general ["body"] then b.goto .afterBody else b).done
  else if name = "html" then
    if b.inScope .general ["body"] then b.again .afterBody else b.done
  else if closables.contains name then
    (if b.inScope .general [name] then b.popImplied.close name else b).done
  else if name = "form" then b.endForm.done
  else if name = "p" then
    (if b.inScope .button ["p"] then b else b.insert "p").closeParagraph.done
  else if ["li", "dd", "dt"].contains name then
    let scope := if name = "li" then Scope.listItem else .general
    (if b.inScope scope [name] then (b.popImpliedExcept name).close name else b).done
  else if headings.contains name then
    (if b.inScope .general headings then
      let b := b.popImplied
      b.popThrough (b.isHtml headings)
    else b).done
  else if name = "a" || name = "nobr" || styles.contains name then (b.closeFormatting name).done
  else if ["applet", "marquee", "object"].contains name then
    (if b.inScope .general [name] then (b.popImplied.close name).clearToMarker else b).done
  else if name = "br" then (b.startVoid { name }).done
  else (b.closeOrdinary name).done

def bodyChar (b : Builder) (c : Char) : Builder :=
  if c.toNat = 0 then b
  else
    let b := b.reconstruct
    (if isBlankText c then b else b.noFrameset).addChar c

def inBody (b : Builder) : Token → Step
  | .char c => (b.bodyChar c).done
  | .comment => b.addComment.done
  | .start tag => (b.bodyStart tag).done
  | .close name => b.bodyEnd name
  | .doctype _ | .eof => b.done

def rawText (b : Builder) : Token → Step
  | .char c => (b.addChar c).done
  | .close _ => (b.pop.goto b.returnMode).done
  | .eof => b.pop.again b.returnMode
  | _ => b.done

end StanzaLint.Html.Builder
