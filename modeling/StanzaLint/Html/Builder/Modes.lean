import StanzaLint.Html.Builder.Table

/-!
# Modes

Templates, frames and what follows the body, and the choice of the rules by the part
of a page that the builder is in.
-/

namespace StanzaLint.Html.Builder

def templateMode (name : String) : Mode :=
  if ["caption", "colgroup", "tbody", "tfoot", "thead"].contains name then .inTable
  else if name = "col" then .inColumnGroup
  else if name = "tr" then .inTableBody
  else if name = "td" || name = "th" then .inRow
  else .inBody

def inTemplate (b : Builder) (token : Token) : Step :=
  match token with
  | .char _ | .comment => b.inBody token
  | .doctype _ => b.done
  | .start tag =>
    if headNames.contains tag.name then b.inHead token
    else
      let mode := templateMode tag.name
      { b with templates := mode :: b.templates.tail }.again mode
  | .close name => if name = "template" then b.closeTemplate.done else b.done
  | .eof => b.done

def afterBody (b : Builder) (token : Token) : Step :=
  match token with
  | .char c => if isBlankText c then b.inBody token else b.again .inBody
  | .comment | .doctype _ | .eof => b.done
  | .start tag => if tag.name = "html" then b.done else b.again .inBody
  | .close name => if name = "html" then (b.goto .afterAfterBody).done else b.again .inBody

def afterAfterBody (b : Builder) (token : Token) : Step :=
  match token with
  | .char c => if isBlankText c then b.inBody token else b.again .inBody
  | .comment | .doctype _ | .eof => b.done
  | .start tag => if tag.name = "html" then b.done else b.again .inBody
  | .close _ => b.again .inBody

def endFrameset (b : Builder) : Builder :=
  if b.stack.length = 1 then b
  else
    let b := b.pop
    if b.currentIs ["frameset"] then b else b.goto .afterFrameset

def inFrameset (b : Builder) (token : Token) : Step :=
  match token with
  | .char c => (if isBlankText c then b.addChar c else b).done
  | .comment => b.addComment.done
  | .doctype _ | .eof => b.done
  | .start tag =>
    if tag.name = "frameset" then (b.insert "frameset").done
    else if tag.name = "frame" then (b.insertVoid "frame").done
    else if tag.name = "noframes" then b.inHead token
    else b.done
  | .close name => (if name = "frameset" then b.endFrameset else b).done

def afterFrameset (b : Builder) (token : Token) : Step :=
  match token with
  | .char c => (if isBlankText c then b.addChar c else b).done
  | .comment => b.addComment.done
  | .doctype _ | .eof => b.done
  | .start tag => if tag.name = "noframes" then b.inHead token else b.done
  | .close name => (if name = "html" then b.goto .afterAfterFrameset else b).done

def afterAfterFrameset (b : Builder) (token : Token) : Step :=
  match token with
  | .char c => if isBlankText c then b.inBody token else b.done
  | .start tag => if tag.name = "noframes" then b.inHead token else b.done
  | _ => b.done

def byMode (b : Builder) (token : Token) : Step :=
  match b.mode with
  | .initial => b.initial token
  | .beforeHtml => b.beforeHtml token
  | .beforeHead => b.beforeHead token
  | .inHead => b.inHead token
  | .afterHead => b.afterHead token
  | .inBody => b.inBody token
  | .text => b.rawText token
  | .inTable => b.inTable token
  | .inTableText => b.inTableText token
  | .inCaption => b.inCaption token
  | .inColumnGroup => b.inColumnGroup token
  | .inTableBody => b.inTableBody token
  | .inRow => b.inRow token
  | .inCell => b.inCell token
  | .inSelect => b.inSelect token
  | .inSelectInTable => b.inSelectInTable token
  | .inTemplate => b.inTemplate token
  | .afterBody => b.afterBody token
  | .inFrameset => b.inFrameset token
  | .afterFrameset => b.afterFrameset token
  | .afterAfterBody => b.afterAfterBody token
  | .afterAfterFrameset => b.afterAfterFrameset token

end StanzaLint.Html.Builder
