import StanzaLint.Html.Builder.Body

/-!
# Tables

Inside a table only its own parts have a place. Everything else is moved in front
of the table. A part that is left out, such as the body of a table or a row, is put
in.
-/

namespace StanzaLint.Html.Builder

/-- What does not belong into a table is handled as in the body, but put in front of it. -/
def foster (b : Builder) (token : Token) : Step :=
  let (b, more) := { b with fostering := true }.inBody token
  ({ b with fostering := false }, more)

def tableContext : List String := ["html", "table", "template"]

def tableBodyContext : List String := ["tbody", "tfoot", "thead", "template", "html"]

def rowContext : List String := ["tr", "template", "html"]

/-- End tags that do not count anywhere in a table unless a part of it takes them. -/
def tableEnds : List String := [
  "body", "caption", "col", "colgroup", "html", "tbody", "td", "tfoot", "th", "thead", "tr"]

def tableStarts : List String :=
  ["caption", "col", "colgroup", "tbody", "td", "tfoot", "th", "thead", "tr"]

def tableForm (b : Builder) : Builder :=
  if b.form.isNone && !b.hasOpen "template" then
    let (b, i) := b.addElement { name := "form" }
    { b with form := some i }
  else b

def inTable (b : Builder) (token : Token) : Step :=
  match token with
  | .char _ =>
    if b.currentIs tableParts then
      { b with tableText := [], returnMode := b.mode }.again .inTableText
    else b.foster token
  | .comment => b.addComment.done
  | .doctype _ => b.done
  | .start tag =>
    let cleared := b.popTo tableContext
    if tag.name = "caption" then ((cleared.pushMarker.insert "caption").goto .inCaption).done
    else if tag.name = "colgroup" then ((cleared.insert "colgroup").goto .inColumnGroup).done
    else if tag.name = "col" then (cleared.insert "colgroup").again .inColumnGroup
    else if ["tbody", "tfoot", "thead"].contains tag.name then
      ((cleared.insert tag.name).goto .inTableBody).done
    else if ["td", "th", "tr"].contains tag.name then (cleared.insert "tbody").again .inTableBody
    else if tag.name = "table" then
      if b.inScope .table ["table"] then (b.close "table").againReset else b.done
    else if ["style", "script", "template"].contains tag.name then b.inHead token
    else if tag.name = "input" && isHidden tag then (b.insertVoid tag.name).done
    else if tag.name = "form" then b.tableForm.done
    else b.foster token
  | .close name =>
    if name = "table" then
      (if b.inScope .table ["table"] then (b.close "table").resetMode else b).done
    else if tableEnds.contains name then b.done
    else if name = "template" then b.closeTemplate.done
    else b.foster token
  | .eof => b.done

/-- Text that is more than blanks is moved in front of the table. -/
def flushTableText (b : Builder) : Builder :=
  let text := b.tableText.reverse
  let b := { b with tableText := [] }
  if text.all isBlankText then text.foldl addChar b
  else text.foldl (fun b c => (b.foster (.char c)).1) b

def inTableText (b : Builder) : Token → Step
  | .char c => (if c.toNat = 0 then b else { b with tableText := c :: b.tableText }).done
  | _ => b.flushTableText.again b.returnMode

def endCaption (b : Builder) : Builder := (b.popImplied.close "caption").clearToMarker

def inCaption (b : Builder) (token : Token) : Step :=
  let leave := if b.inScope .table ["caption"] then b.endCaption.again .inTable else b.done
  match token with
  | .start tag => if tableStarts.contains tag.name then leave else b.inBody token
  | .close name =>
    if name = "caption" then
      (if b.inScope .table ["caption"] then b.endCaption.goto .inTable else b).done
    else if name = "table" then leave
    else if tableEnds.contains name then b.done
    else b.inBody token
  | _ => b.inBody token

def inColumnGroup (b : Builder) (token : Token) : Step :=
  let leave := if b.currentIs ["colgroup"] then b.pop.again .inTable else b.done
  match token with
  | .char c => if isBlankText c then (b.addChar c).done else leave
  | .comment => b.addComment.done
  | .doctype _ => b.done
  | .start tag =>
    if tag.name = "html" then b.done
    else if tag.name = "col" then (b.insertVoid "col").done
    else if tag.name = "template" then b.inHead token
    else leave
  | .close name =>
    if name = "colgroup" then
      (if b.currentIs ["colgroup"] then b.pop.goto .inTable else b).done
    else if name = "col" then b.done
    else if name = "template" then b.closeTemplate.done
    else leave
  | .eof => b.done

def inTableBody (b : Builder) (token : Token) : Step :=
  let cleared := b.popTo tableBodyContext
  let leave :=
    if b.inScope .table ["table", "tbody", "tfoot"] then cleared.pop.again .inTable else b.done
  match token with
  | .start tag =>
    if tag.name = "tr" then ((cleared.insert "tr").goto .inRow).done
    else if tag.name = "th" || tag.name = "td" then (cleared.insert "tr").again .inRow
    else if ["caption", "col", "colgroup", "tbody", "tfoot", "thead"].contains tag.name then leave
    else b.inTable token
  | .close name =>
    if ["tbody", "tfoot", "thead"].contains name then
      (if b.inScope .table [name] then cleared.pop.goto .inTable else b).done
    else if name = "table" then leave
    else if tableEnds.contains name then b.done
    else b.inTable token
  | _ => b.inTable token

def inRow (b : Builder) (token : Token) : Step :=
  let cleared := b.popTo rowContext
  let leave := if b.inScope .table ["tr"] then cleared.pop.again .inTableBody else b.done
  match token with
  | .start tag =>
    if tag.name = "th" || tag.name = "td" then
      (((cleared.insert tag.name).goto .inCell).pushMarker).done
    else if tableStarts.contains tag.name then leave
    else b.inTable token
  | .close name =>
    if name = "tr" then
      (if b.inScope .table ["tr"] then cleared.pop.goto .inTableBody else b).done
    else if name = "table" then leave
    else if ["tbody", "tfoot", "thead"].contains name then
      if b.inScope .table [name] then leave else b.done
    else if tableEnds.contains name then b.done
    else b.inTable token
  | _ => b.inTable token

def endCell (b : Builder) : Builder :=
  let b := b.popImplied
  (b.popThrough (b.isHtml ["td", "th"])).clearToMarker

def inCell (b : Builder) (token : Token) : Step :=
  match token with
  | .start tag =>
    if tableStarts.contains tag.name then
      if b.inScope .table ["td", "th"] then b.endCell.again .inRow else b.done
    else b.inBody token
  | .close name =>
    if name = "td" || name = "th" then
      (if b.inScope .table [name] then ((b.popImplied.close name).clearToMarker).goto .inRow
       else b).done
    else if tableParts.contains name then
      if b.inScope .table [name] then b.endCell.again .inRow else b.done
    else if tableEnds.contains name then b.done
    else b.inBody token
  | _ => b.inBody token

/-! ## Selection lists -/

def endSelect (b : Builder) : Builder := b.close "select"

def popIf (b : Builder) (name : String) : Builder := if b.currentIs [name] then b.pop else b

def endOptionGroup (b : Builder) : Builder :=
  let b := match b.stack with
    | i :: j :: _ => if b.isHtml ["option"] i && b.isHtml ["optgroup"] j then b.pop else b
    | _ => b
  b.popIf "optgroup"

def inSelect (b : Builder) (token : Token) : Step :=
  let isOpen := b.inScope .select ["select"]
  match token with
  | .char c => (if c.toNat = 0 then b else b.addChar c).done
  | .comment => b.addComment.done
  | .doctype _ | .eof => b.done
  | .start tag =>
    if tag.name = "option" then ((b.popIf "option").insert tag.name).done
    else if tag.name = "optgroup" then
      (((b.popIf "option").popIf "optgroup").insert tag.name).done
    else if tag.name = "select" then (if isOpen then b.endSelect.resetMode else b).done
    else if ["input", "keygen", "textarea"].contains tag.name then
      if isOpen then b.endSelect.againReset else b.done
    else if tag.name = "script" || tag.name = "template" then b.inHead token
    else b.done
  | .close name =>
    if name = "optgroup" then b.endOptionGroup.done
    else if name = "option" then (b.popIf "option").done
    else if name = "select" then (if isOpen then b.endSelect.resetMode else b).done
    else if name = "template" then b.closeTemplate.done
    else b.done

def selectEnders : List String :=
  ["caption", "table", "tbody", "tfoot", "thead", "tr", "td", "th"]

def inSelectInTable (b : Builder) (token : Token) : Step :=
  match token with
  | .start tag =>
    if selectEnders.contains tag.name then b.endSelect.againReset else b.inSelect token
  | .close name =>
    if selectEnders.contains name then
      if b.inScope .table [name] then b.endSelect.againReset else b.done
    else b.inSelect token
  | _ => b.inSelect token

end StanzaLint.Html.Builder
