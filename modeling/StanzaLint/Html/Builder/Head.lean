import StanzaLint.Html.Builder.Formatting

/-!
# The head of a page

The parts of a page up to its body. Elements that are left out are put in as soon
as something stands where they would have ended.
-/

namespace StanzaLint.Html.Builder

def strongEnds : List String := ["body", "html", "br"]

def initial (b : Builder) : Token → Step
  | .char c => if isBlankText c then b.done else { b with legacy := true }.again .beforeHtml
  | .comment => b.done
  | .doctype current => ({ b with legacy := !current }.goto .beforeHtml).done
  | _ => { b with legacy := true }.again .beforeHtml

def beforeHtml (b : Builder) : Token → Step
  | .char c => if isBlankText c then b.done else b.insertRoot.again .beforeHead
  | .comment | .doctype _ => b.done
  | .start tag =>
    if tag.name = "html" then (b.insertRoot.goto .beforeHead).done
    else b.insertRoot.again .beforeHead
  | .close name =>
    if ("head" :: strongEnds).contains name then b.insertRoot.again .beforeHead else b.done
  | .eof => b.insertRoot.again .beforeHead

def insertHead (b : Builder) : Builder :=
  let (b, i) := b.addElement { name := "head" }
  { b.push i with head := some i, mode := .inHead }

def beforeHead (b : Builder) : Token → Step
  | .char c => if isBlankText c then b.done else b.insertHead.again .inHead
  | .comment => b.addComment.done
  | .doctype _ => b.done
  | .start tag =>
    if tag.name = "html" then b.done
    else if tag.name = "head" then b.insertHead.done
    else b.insertHead.again .inHead
  | .close name =>
    if ("head" :: strongEnds).contains name then b.insertHead.again .inHead else b.done
  | .eof => b.insertHead.again .inHead

def headVoids : List String := ["base", "basefont", "bgsound", "link", "meta"]

def headNames : List String :=
  headVoids ++ ["noframes", "script", "style", "template", "title"]

def openTemplate (b : Builder) : Builder :=
  { (b.insert "template").pushMarker.noFrameset with
    mode := .inTemplate, templates := .inTemplate :: b.templates }

def closeTemplate (b : Builder) : Builder :=
  if b.hasOpen "template" then
    let b := ((b.popImplied impliedInTemplate).close "template").clearToMarker
    { b with templates := b.templates.tail }.resetMode
  else b

/-- A start tag that belongs to the head; none if it does not. -/
def headStart? (b : Builder) (name : String) : Option Builder :=
  if headVoids.contains name then some (b.insertVoid name)
  else if name = "title" then some (b.insertRaw name .rcdata)
  else if ["noframes", "style", "noscript"].contains name then some (b.insertRaw name .rawtext)
  else if name = "script" then some (b.insertRaw name (.script .none))
  else if name = "template" then some b.openTemplate
  else if name = "html" || name = "head" then some b
  else none

def inHead (b : Builder) : Token → Step
  | .char c => if isBlankText c then (b.addChar c).done else b.pop.again .afterHead
  | .comment => b.addComment.done
  | .doctype _ => b.done
  | .start tag => match b.headStart? tag.name with
    | some b => b.done
    | none => b.pop.again .afterHead
  | .close name =>
    if name = "head" then (b.pop.goto .afterHead).done
    else if strongEnds.contains name then b.pop.again .afterHead
    else if name = "template" then b.closeTemplate.done
    else b.done
  | .eof => b.pop.again .afterHead

def lateHead (b : Builder) (token : Token) : Step :=
  match b.head with
  | some i =>
    let (b, more) := (b.push i).inHead token
    (b.removeOpen i, more)
  | none => b.done

def afterHead (b : Builder) (token : Token) : Step :=
  let inside := (b.insert "body").again .inBody
  match token with
  | .char c => if isBlankText c then (b.addChar c).done else inside
  | .comment => b.addComment.done
  | .doctype _ => b.done
  | .start tag =>
    if tag.name = "html" || tag.name = "head" then b.done
    else if tag.name = "body" then ((b.insert "body").noFrameset.goto .inBody).done
    else if tag.name = "frameset" then ((b.insert "frameset").goto .inFrameset).done
    else if headNames.contains tag.name then b.lateHead token
    else inside
  | .close name =>
    if name = "template" then b.closeTemplate.done
    else if strongEnds.contains name then inside
    else b.done
  | .eof => inside

end StanzaLint.Html.Builder
