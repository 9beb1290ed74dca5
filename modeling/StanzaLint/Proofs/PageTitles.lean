import StanzaLint.Html.Page
import StanzaLint.Proofs.Trimming

/-!
# Titles of pages

A page of preformatted blocks, with their texts escaped, is read back into a tree that
holds these texts (`parse_page`): each block is read off from any state between two
blocks (`reads_block`). The title is then that of the first line with one, in the blocks
that hold text only.
-/

namespace StanzaLint.Html

theorem modify_length (front : List α) (x : α) (back : List α) (f : α → α) :
    (front ++ x :: back).modify front.length f = front ++ f x :: back := by
  induction front with
  | nil => rfl
  | cons y front ih => simp [ih]

theorem modify_length_succ (front : List α) (x y : α) (back : List α) (f : α → α) :
    (front ++ x :: y :: back).modify (front.length + 1) f = front ++ x :: f y :: back := by
  simpa using modify_length (front ++ [x]) y back f

-- ---------------------------------------------------------------------------
-- Trees
-- ---------------------------------------------------------------------------

namespace Document

def of (nodes : List Node) : Document := ⟨nodes.toArray⟩

section

variable (nodes : List Node)

@[simp] theorem node?_of (i : Nat) : (of nodes).node? i = nodes[i]? := by
  simp [of, node?]

@[simp] theorem create_of (content : Content) :
    (of nodes).create content = (of (nodes ++ [{ content := content }]), nodes.length) := by
  simp [of, create]

@[simp] theorem modify_of (i : Nat) (f : Node → Node) :
    (of nodes).modify i f = of (nodes.modify i f) := by
  simp [of, modify]

end

theorem element?_of_append (front back : List Node) (e : Element) (parent : Option Nat)
    (children : Array Nat) :
    (of (front ++ ⟨.element e, parent, children⟩ :: back)).element? front.length = some e := by
  simp [element?]

/-- An element with its text, if it has any, from number `i` on. -/
def filled (i : Nat) (name : String) (parent : Nat) (text : List Char) : List Node :=
  if text = [] then [{ content := .element { name }, parent := some parent }]
  else [
    { content := .element { name }, parent := some parent, children := #[i + 1] },
    { content := .text (String.ofList text), parent := some i }]

theorem element?_filled (front : List Node) (name : String) (parent : Nat) (text : List Char) :
    (of (front ++ filled front.length name parent text)).element? front.length =
      some { name } := by
  unfold filled
  split <;> exact element?_of_append ..

theorem appendChar_filled (front : List Node) (name : String) (parent : Nat) (text : List Char)
    (c : Char) : (of (front ++ filled front.length name parent text)).appendChar front.length c =
      of (front ++ filled front.length name parent (text ++ [c])) := by
  by_cases ht : text = []
  · simp [appendChar, filled, ht, append, modify_length, modify_length_succ]
  · simp [appendChar, filled, ht, isText, addText, modify_length_succ]

def opened (front : List Node) : List Node :=
  front ++ [{
    content := .element { name := "pre" }, parent := some 3, children := #[front.length + 1] }]

theorem element?_opened (front back : List Node) :
    (of (opened front ++ back)).element? front.length = some { name := "pre" } := by
  rw [opened, List.append_assoc]
  exact element?_of_append ..

def trunk (kids : Array Nat) (rest : List Node) : List Node := [
  { content := .document, children := #[1] },
  { content := .element { name := "html" }, parent := some 0, children := #[2, 3] },
  { content := .element { name := "head" }, parent := some 1 },
  { content := .element { name := "body" }, parent := some 1, children := kids }] ++ rest

theorem append_trunk (kids : Array Nat) (rest : List Node) (n : Node) :
    (of (trunk kids rest ++ [n])).append 3 (rest.length + 4) =
      of (trunk (kids.push (rest.length + 4)) rest ++ [{ n with parent := some 3 }]) := by
  have hbody : (trunk kids rest ++ [n]).modify 3 (fun n => { n with
      children := n.children.push (rest.length + 4) }) =
      trunk (kids.push (rest.length + 4)) rest ++ [n] := rfl
  simp only [append, modify_of, hbody]
  exact congrArg of (modify_length (trunk _ rest) n [] _)

theorem append_last (front : List Node) (n m : Node) :
    (of (front ++ [n, m])).append front.length (front.length + 1) =
      of (front ++ [{ n with children := n.children.push (front.length + 1) },
        { m with parent := some front.length }]) := by
  simp only [append, modify_of, modify_length, modify_length_succ]

end Document

-- ---------------------------------------------------------------------------
-- Tags and characters
-- ---------------------------------------------------------------------------

namespace Builder

open Document (trunk filled opened)

/-- A builder in the body of a page, which is the node with number 3, with `above` open inside
of it. -/
def inside (nodes : List Node) (above : List Nat) (marks : List Format) (drop : Bool) :
    Builder where
  document := .of nodes
  mode := .inBody
  stack := above ++ [3, 1]
  formatting := marks
  head := some 2
  framesetAllowed := false
  legacy := true
  dropNewline := drop

section

variable {nodes front : List Node} {above : List Nat} {marks : List Format} {drop : Bool}

theorem take_inside
    (hcurrent : (inside nodes above marks false).current?.bind (Document.of nodes).element? =
      some { name })
    (hkeep : (drop && token == .char '\n') = false)
    (hstep : inBody (inside nodes above marks false) token = (b, false)) :
    (inside nodes above marks drop).take token = b := by
  have hfirst : step (inside nodes above marks false) token = (b, false) := by
    rw [step, show (inside nodes above marks false).element? = (Document.of nodes).element?
      from rfl, hcurrent]
    exact hstep
  rw [take, show (inside nodes above marks drop).dropNewline = drop from rfl, hkeep]
  simp only [stepTimes, show { inside nodes above marks drop with dropNewline := false } =
    inside nodes above marks false from rfl, hfirst]
  rfl

theorem isHtml_inside (h : (Document.of nodes).element? i = some { name })
    (names : List String) :
    (inside nodes above marks drop).isHtml names i = names.contains name := by
  rw [isHtml, show (inside nodes above marks drop).element? i = _ from h]

theorem noFrameset_inside :
    (inside nodes above marks drop).noFrameset = inside nodes above marks drop := rfl

theorem addElement_inside {nodes' : List Node} (hcurrent : (above ++ [3, 1]).head? = some i)
    (hnodes : (Document.of (nodes ++ [{ content := .element e }])).append i nodes.length =
      .of nodes') :
    (inside nodes above marks drop).addElement e =
      (inside nodes' above marks drop, nodes.length) := by
  have hcreate : (inside nodes above marks drop).create (.element e) =
      (inside (nodes ++ [{ content := .element e }]) above marks drop, nodes.length) := by
    simp [create, inside]
  have hplace : (inside (nodes ++ [{ content := .element e }]) above marks drop).place =
      .within i := by
    simp [place, placeIn, inside, current?, hcurrent]
  rw [addElement, hcreate]
  simp only [hplace, put]
  rw [show (inside (nodes ++ [{ content := .element e }]) above marks drop).document = .of _
    from rfl, hnodes]
  rfl

theorem reconstruct_open (h : ∀ entry ∈ marks, Format.isNode i entry = true) :
    (inside nodes (i :: above) marks drop).reconstruct = inside nodes (i :: above) marks drop := by
  cases marks with
  | nil => rfl
  | cons entry marks =>
    cases entry with
    | marker => rfl
    | element j tag =>
      obtain rfl : i = j := by simpa [Format.isNode] using h (.element j tag) (by simp)
      simp [reconstruct, inside, isMarkerOrOpen, List.span, List.span.loop]

theorem addChar_filled :
    (inside (front ++ filled front.length name parent text) (front.length :: above)
      marks drop).addChar c =
    inside (front ++ filled front.length name parent (text ++ [c])) (front.length :: above)
      marks drop := by
  simp only [inside, ← Document.appendChar_filled]
  rfl

theorem take_char (hc : c.toNat ≠ 0) (hkeep : drop = false ∨ c ≠ '\n')
    (hopen : ∀ entry ∈ marks, Format.isNode front.length entry = true) :
    (inside (front ++ filled front.length name parent text) (front.length :: above)
      marks drop).take (.char c) =
    inside (front ++ filled front.length name parent (text ++ [c])) (front.length :: above)
      marks false := by
  refine take_inside (Document.element?_filled front name parent text) ?_ ?_
  · rcases hkeep with rfl | hkeep <;> simp [*]
  · rw [inBody, bodyChar, if_neg hc, reconstruct_open hopen]
    simp only [noFrameset_inside, ite_self, addChar_filled]
    rfl

theorem take_newline :
    (inside nodes above marks true).take (.char '\n') = inside nodes above marks false := rfl

theorem take_pre (kids : Array Nat) (rest : List Node) :
    (inside (trunk kids rest) [] [] false).take (.start { name := "pre" }) =
      inside (trunk (kids.push (rest.length + 4)) rest ++ filled (rest.length + 4) "pre" 3 [])
        [rest.length + 4] [] true := by
  have hinsert : (inside (trunk kids rest) [] [] false).insert "pre" =
      inside (trunk (kids.push (rest.length + 4)) rest ++ filled (rest.length + 4) "pre" 3 [])
        [rest.length + 4] [] false := by
    rw [insert, addElement_inside rfl (Document.append_trunk ..)]
    rfl
  have hstart : (inside (trunk kids rest) [] [] false).bodyStart { name := "pre" } =
      { ((inside (trunk kids rest) [] [] false).insert "pre").noFrameset with
        dropNewline := true } := rfl
  refine take_inside rfl rfl ?_
  rw [inBody, hstart, hinsert]
  rfl

theorem close_pre_inside (h : (Document.of nodes).element? i = some { name := "pre" }) :
    (inside nodes [i] [] drop).popImplied.close "pre" = inside nodes [] [] drop := by
  have hstack : (inside nodes [i] [] drop).stack = [i, 3, 1] := rfl
  have himplied : (inside nodes [i] [] drop).isHtml implied i = false := isHtml_inside h _
  have hpre : (inside nodes [i] [] drop).isHtml ["pre"] i = true := isHtml_inside h _
  have hkept : (inside nodes [i] [] drop).popImplied = inside nodes [i] [] drop := by
    simp only [popImplied, hstack, List.dropWhile_cons, himplied]
    rfl
  simp only [hkept, close, popThrough, hstack, List.dropWhile_cons, hpre]
  rfl

theorem take_close_pre (h : (Document.of nodes).element? i = some { name := "pre" }) :
    (inside nodes [i] [] drop).take (.close "pre") = inside nodes [] [] false := by
  have hscope : (inside nodes [i] [] false).inScope .general ["pre"] = true := by
    have hpre : (inside nodes [i] [] false).isHtml ["pre"] i = true := isHtml_inside h _
    rw [inScope, inScopeBy, show (inside nodes [i] [] false).stack = [i, 3, 1] from rfl, scan, hpre]
    rfl
  have hend : (inside nodes [i] [] false).bodyEnd "pre" =
      (if (inside nodes [i] [] false).inScope .general ["pre"]
        then (inside nodes [i] [] false).popImplied.close "pre"
        else inside nodes [i] [] false).done := rfl
  refine take_inside h ?_ ?_
  · cases drop <;> rfl
  · rw [inBody, hend, if_pos hscope, close_pre_inside h]
    rfl

theorem take_code :
    (inside (front ++ filled front.length "pre" 3 []) [front.length] [] drop).take
        (.start { name := "code" }) =
      inside (opened front ++ filled (opened front).length "code" front.length [])
        [(opened front).length, front.length]
        [.element (opened front).length { name := "code" }] false := by
  have happend : (Document.of (front ++ filled front.length "pre" 3 [] ++
      [{ content := .element { name := "code" } }])).append front.length
        (front ++ filled front.length "pre" 3 []).length =
      .of (opened front ++ filled (opened front).length "code" front.length []) := by
    simpa [filled, opened] using Document.append_last front
      { content := .element { name := "pre" }, parent := some 3 }
      { content := .element { name := "code" } }
  have hstart : (inside (front ++ filled front.length "pre" 3 []) [front.length] [] false).bodyStart
      { name := "code" } =
      (inside (front ++ filled front.length "pre" 3 []) [front.length] [] false).insertFormatting
        { name := "code" } := rfl
  have hforget : (inside (front ++ filled front.length "pre" 3 []) [front.length] []
      false).forgetFourth { name := "code" } =
      inside (front ++ filled front.length "pre" 3 []) [front.length] [] false := rfl
  have hlength : (front ++ filled front.length "pre" 3 []).length = (opened front).length := by
    simp [filled, opened]
  refine take_inside (Document.element?_filled ..) ?_ ?_
  · cases drop <;> rfl
  · rw [inBody, hstart, insertFormatting, hforget, addElement_inside rfl happend, hlength]
    rfl

/-- The style that was opened last, with nothing open inside of it, is just closed. -/
theorem closeFormatting_inside :
    (inside nodes (i :: above) [.element i tag] drop).closeFormatting tag.name =
      inside nodes above [] drop := by
  have hcurrent : (inside nodes (i :: above) [.element i tag] drop).current? = some i := rfl
  have hstyle : Format.tagOf? i (inside nodes (i :: above) [.element i tag] drop).formatting =
      some tag := by
    simp [inside, Format.tagOf?]
  have honce : (inside nodes (i :: above) [.element i tag] drop).closeFormattingOnce tag.name =
      (inside nodes above [] drop, false) := by
    simp [closeFormattingOnce, Format.recent, Format.isMarker, inside, inScopeBy, scan, forget,
      Format.remove, Format.isNode, List.span, List.span.loop]
  simp only [closeFormatting, hcurrent, hstyle, Option.isNone_some, Bool.and_false,
    closeFormattingTimes, honce]
  rfl

theorem take_close_code (h : (Document.of nodes).element? i = some { name := "code" }) :
    (inside nodes (i :: above) [.element i { name := "code" }] drop).take (.close "code") =
      inside nodes above [] false := by
  refine take_inside h ?_ ?_
  · cases drop <;> rfl
  · exact congrArg done closeFormatting_inside

theorem take_eof (kids : Array Nat) (rest : List Node) :
    (inside (trunk kids rest) [] [] false).take .eof = inside (trunk kids rest) [] [] false := rfl

end

-- ---------------------------------------------------------------------------
-- Reading a page
-- ---------------------------------------------------------------------------

/-- In front of any rest of the page the text takes one builder to the other. -/
def Reads (b : Builder) (text : List Char) (b' : Builder) : Prop :=
  ∀ name rest n, (text ++ rest).length ≤ n →
    ∃ name' m, rest.length ≤ m ∧ run b name n (text ++ rest) = run b' name' m rest

theorem run_nil (b : Builder) (name : String) (n : Nat) : run b name n [] = b.take .eof := by
  cases n <;> rfl

theorem Reads.refl (b : Builder) : Reads b [] b :=
  fun name _ n h => ⟨name, n, h, rfl⟩

theorem Reads.trans (h : Reads b text b') (h' : Reads b' text' b'') :
    Reads b (text ++ text') b'' := by
  intro name rest n hn
  rw [List.append_assoc] at hn ⊢
  obtain ⟨name', m, hm, hrun⟩ := h name (text' ++ rest) n hn
  obtain ⟨name'', m', hm', hrun'⟩ := h' name' rest m hm
  exact ⟨name'', m', hm', hrun.trans hrun'⟩

theorem Reads.of_token (hne : text ≠ []) (hdata : { b with reading := .data } = b)
    (htoken : ∀ foreign rest, Token.readData foreign (text ++ rest) = ([token], rest)) :
    Reads b text (b.take token) := by
  intro name rest n hn
  obtain ⟨c, cs, rfl⟩ := List.exists_cons_of_ne_nil hne
  cases n with
  | zero => simp at hn
  | succ n =>
    refine ⟨lastStart name [token], n, by simp at hn; omega, ?_⟩
    have hread : Token.read b.reading name b.isForeign (c :: cs ++ rest) =
        ([token], .data, rest) := by
      rw [show b.reading = .data from congrArg Builder.reading hdata.symm, Token.read, htoken]
    rw [List.cons_append] at hread ⊢
    simp only [run, hread, hdata, List.foldl_cons, List.foldl_nil]

theorem Reads.of_take (hne : text ≠ []) (hdata : { b with reading := .data } = b)
    (htoken : ∀ foreign rest, Token.readData foreign (text ++ rest) = ([token], rest))
    (htake : b.take token = b') : Reads b text b' :=
  htake ▸ Reads.of_token hne hdata htoken

def escape (c : Char) : List Char :=
  if c = '&' then "&amp;".toList
  else if c = '<' then "&lt;".toList
  else if c = '>' then "&gt;".toList
  else [c]

theorem escape_cases (c : Char) :
    (c = '&' ∧ escape c = "&amp;".toList) ∨ (c = '<' ∧ escape c = "&lt;".toList) ∨
      (c = '>' ∧ escape c = "&gt;".toList) ∨ (c ≠ '&' ∧ c ≠ '<' ∧ escape c = [c]) := by
  unfold escape
  split
  · exact .inl ⟨‹_›, rfl⟩
  · split
    · exact .inr (.inl ⟨‹_›, rfl⟩)
    · split
      · exact .inr (.inr (.inl ⟨‹_›, rfl⟩))
      · exact .inr (.inr (.inr ⟨‹_›, ‹_›, rfl⟩))

theorem readData_escape (c : Char) (foreign : Bool) (rest : List Char) :
    Token.readData foreign (escape c ++ rest) = ([.char c], rest) := by
  rcases escape_cases c with ⟨rfl, h⟩ | ⟨rfl, h⟩ | ⟨rfl, h⟩ | ⟨hamp, hlt, h⟩
  · rw [h]; rfl
  · rw [h]; rfl
  · rw [h]; rfl
  · simp [h, Token.readData]

theorem escape_ne_nil (c : Char) : escape c ≠ [] := by
  rcases escape_cases c with ⟨-, h⟩ | ⟨-, h⟩ | ⟨-, h⟩ | ⟨-, -, h⟩ <;> simp [h]

theorem return_not_mem_escape (hc : c ≠ '\r') : '\r' ∉ escape c := by
  rcases escape_cases c with ⟨-, h⟩ | ⟨-, h⟩ | ⟨-, h⟩ | ⟨-, -, h⟩ <;> simp [h, hc.symm]

section

variable {front : List Node} {above : List Nat} {marks : List Format}

theorem reads_text {t : List Char} (ht : ∀ c ∈ t, c.toNat ≠ 0)
    (hopen : ∀ entry ∈ marks, Format.isNode front.length entry = true) :
    Reads (inside (front ++ filled front.length name parent text) (front.length :: above)
        marks false)
      (t.flatMap escape)
      (inside (front ++ filled front.length name parent (text ++ t)) (front.length :: above)
        marks false) := by
  induction t generalizing text with
  | nil => simpa using Reads.refl _
  | cons c t ih =>
    rw [List.forall_mem_cons] at ht
    have hfirst := Reads.of_token (escape_ne_nil c) rfl (readData_escape c)
      (b := inside (front ++ filled front.length name parent text) (front.length :: above)
        marks false)
    rw [take_char ht.1 (.inl rfl) hopen] at hfirst
    simpa using hfirst.trans (ih ht.2)

/-- What a block shows of its text: not the line feed that it starts with. -/
def shown : List Char → List Char
  | '\n' :: t => t
  | t => t

theorem reads_shown {t : List Char} (ht : ∀ c ∈ t, c.toNat ≠ 0) : ∃ drop,
    Reads (inside (front ++ filled front.length name parent []) (front.length :: above) [] true)
      (t.flatMap escape)
      (inside (front ++ filled front.length name parent (shown t)) (front.length :: above) []
        drop) := by
  cases t with
  | nil => exact ⟨true, Reads.refl _⟩
  | cons c t =>
    rw [List.forall_mem_cons] at ht
    have hfirst := Reads.of_token (escape_ne_nil c) rfl (readData_escape c)
      (b := inside (front ++ filled front.length name parent []) (front.length :: above) [] true)
    have hopen : ∀ entry ∈ ([] : List Format), Format.isNode front.length entry = true := by simp
    refine ⟨false, ?_⟩
    by_cases hc : c = '\n'
    · subst hc
      rw [take_newline] at hfirst
      exact hfirst.trans (reads_text ht.2 hopen)
    · have hshown : shown (c :: t) = [c] ++ t := by simp [shown, hc]
      rw [take_char ht.1 (.inr hc) hopen] at hfirst
      rw [hshown]
      exact hfirst.trans (reads_text ht.2 hopen)

theorem reads_code {t : List Char} (ht : ∀ c ∈ t, c.toNat ≠ 0) :
    Reads (inside (front ++ filled front.length "pre" 3 []) [front.length] [] drop)
      ("<code>".toList ++ t.flatMap escape ++ "</code>".toList)
      (inside (opened front ++ filled (opened front).length "code" front.length t)
        [front.length] [] false) := by
  have hopen : ∀ entry ∈ [Format.element (opened front).length { name := "code" }],
      Format.isNode (opened front).length entry = true := by simp [Format.isNode]
  have hstart : Reads (inside (front ++ filled front.length "pre" 3 []) [front.length] [] drop)
      "<code>".toList _ := Reads.of_take (by decide) rfl (fun _ _ => rfl) take_code
  have hend : Reads
      (inside (opened front ++ filled (opened front).length "code" front.length t)
        [(opened front).length, front.length]
        [.element (opened front).length { name := "code" }] false)
      "</code>".toList _ :=
    Reads.of_take (by decide) rfl (fun _ _ => rfl) (take_close_code (Document.element?_filled ..))
  exact (hstart.trans (reads_text ht hopen)).trans hend

end

end Builder

-- ---------------------------------------------------------------------------
-- Blocks
-- ---------------------------------------------------------------------------

/-- A preformatted block, of text only or with an element around its text. -/
inductive Block where
  | text (t : List Char)
  | element (t : List Char)
  deriving DecidableEq, Repr

namespace Block

open Document (of trunk filled opened)
open Builder (Reads inside shown)

def content : Block → List Char
  | .text t | .element t => t

def markup : Block → List Char
  | .text t => "<pre>".toList ++ t.flatMap Builder.escape ++ "</pre>".toList
  | .element t =>
    "<pre>".toList ++ ("<code>".toList ++ t.flatMap Builder.escape ++ "</code>".toList) ++
      "</pre>".toList

def nodes (i : Nat) : Block → List Node
  | .text t => filled i "pre" 3 (shown t)
  | .element t => ⟨.element { name := "pre" }, some 3, #[i + 1]⟩ :: filled (i + 1) "code" i t

def IsPlain (block : Block) : Prop := ∀ c ∈ block.content, c.toNat ≠ 0 ∧ c ≠ '\r'

theorem reads_block {b : Builder} {block : Block} (hplain : block.IsPlain)
    (hdata : { b with reading := .data } = b)
    (hpre : b.take (.start { name := "pre" }) =
      inside (front ++ filled front.length "pre" 3 []) [front.length] [] true) :
    Reads b block.markup (inside (front ++ block.nodes front.length) [] [] false) := by
  have hstart : Reads b "<pre>".toList
      (inside (front ++ filled front.length "pre" 3 []) [front.length] [] true) :=
    Reads.of_take (by decide) hdata (fun _ _ => rfl) hpre
  have hend {nodes : List Node} {drop : Bool}
      (hnodes : (of nodes).element? front.length = some { name := "pre" }) :
      Reads (inside nodes [front.length] [] drop) "</pre>".toList (inside nodes [] [] false) :=
    Reads.of_take (by decide) rfl (fun _ _ => rfl) (Builder.take_close_pre hnodes)
  cases block with
  | text t =>
    obtain ⟨drop, htext⟩ := Builder.reads_shown fun c hc => (hplain c hc).1
    exact (hstart.trans htext).trans (hend (Document.element?_filled ..))
  | element t =>
    have hnodes : front ++ nodes front.length (.element t) =
        opened front ++ filled (opened front).length "code" front.length t := by
      simp [nodes, opened]
    have hcode := hstart.trans (Builder.reads_code (t := t) fun c hc => (hplain c hc).1)
    rw [hnodes]
    exact hcode.trans (hend (Document.element?_opened ..))

def layout (i : Nat) : List Block → List Node
  | [] => []
  | block :: blocks => block.nodes i ++ layout (i + (block.nodes i).length) blocks

theorem reads_blocks {blocks : List Block} (hplain : ∀ block ∈ blocks, block.IsPlain)
    (kids : Array Nat) (rest : List Node) : ∃ kids',
      Reads (inside (trunk kids rest) [] [] false) (blocks.flatMap markup)
        (inside (trunk kids' (rest ++ layout (rest.length + 4) blocks)) [] [] false) := by
  induction blocks generalizing kids rest with
  | nil => exact ⟨kids, by simpa [layout] using Reads.refl _⟩
  | cons block blocks ih =>
    rw [List.forall_mem_cons] at hplain
    have hblock := reads_block hplain.1 rfl (Builder.take_pre kids rest)
    obtain ⟨kids', hblocks⟩ := ih hplain.2 (kids.push (rest.length + 4))
      (rest ++ block.nodes (rest.length + 4))
    have hlayout : rest ++ layout (rest.length + 4) (block :: blocks) =
        rest ++ block.nodes (rest.length + 4) ++
          layout ((rest ++ block.nodes (rest.length + 4)).length + 4) blocks := by
      rw [layout, List.length_append, List.append_assoc, Nat.add_right_comm]
    refine ⟨kids', ?_⟩
    rw [hlayout]
    exact hblock.trans hblocks

def page (blocks : List Block) : String := String.ofList (blocks.flatMap markup)

theorem return_not_mem_markup {block : Block} (hplain : block.IsPlain) : '\r' ∉ block.markup := by
  have htext : '\r' ∉ block.content.flatMap Builder.escape := by
    intro h
    obtain ⟨c, hc, h⟩ := List.mem_flatMap.mp h
    exact Builder.return_not_mem_escape (hplain c hc).2 h
  have happend {front back : List Char} (hf : '\r' ∉ front) (hb : '\r' ∉ back) :
      '\r' ∉ front ++ back := by
    rw [List.mem_append]
    exact not_or.mpr ⟨hf, hb⟩
  cases block with
  | text t => exact happend (happend (by decide) htext) (by decide)
  | element t =>
    exact happend (happend (by decide) (happend (happend (by decide) htext) (by decide)))
      (by decide)

theorem unifyLines_of_not_mem {cs : List Char} (h : '\r' ∉ cs) : unifyLines cs = cs := by
  fun_induction unifyLines cs with
  | case1 rest ih => exact absurd List.mem_cons_self h
  | case2 rest _ ih => exact absurd List.mem_cons_self h
  | case3 c rest _ _ ih => rw [ih fun hc => h (List.mem_cons_of_mem _ hc)]
  | case4 => rfl

theorem dropMark_markup (blocks : List Block) :
    dropMark (blocks.flatMap markup) = blocks.flatMap markup := by
  cases blocks with
  | nil => rfl
  | cons block blocks => cases block <;> rfl

theorem parse_page {blocks : List Block} (hplain : ∀ block ∈ blocks, block.IsPlain) :
    ∃ kids, Document.parse (page blocks) = of (trunk kids (layout 4 blocks)) := by
  have hreturn : '\r' ∉ blocks.flatMap markup := by
    intro h
    obtain ⟨block, hblock, h⟩ := List.mem_flatMap.mp h
    exact return_not_mem_markup (hplain block hblock) h
  have hparse : Document.parse (page blocks) =
      (Builder.run {} "" (blocks.flatMap markup).length (blocks.flatMap markup)).document := by
    rw [Document.parse, page, String.toList_ofList, dropMark_markup, unifyLines_of_not_mem hreturn]
  rw [hparse]
  cases blocks with
  | nil => exact ⟨#[], rfl⟩
  | cons block blocks =>
    rw [List.forall_mem_cons] at hplain
    -- The first tag opens what is around everything, as if it had been there.
    have hpre : ({} : Builder).take (.start { name := "pre" }) =
      inside (trunk #[4] [] ++ filled (trunk #[4] []).length "pre" 3 [])
        [(trunk #[4] []).length] [] true := rfl
    obtain ⟨kids, hblocks⟩ := reads_blocks hplain.2 #[4] (block.nodes 4)
    obtain ⟨name, n, -, hrun⟩ :=
      ((reads_block hplain.1 rfl hpre).trans hblocks) "" [] _ (Nat.le_refl _)
    rw [List.append_nil, Builder.run_nil, Builder.take_eof] at hrun
    refine ⟨kids, ?_⟩
    rw [List.flatMap_cons, hrun, layout, Nat.add_comm 4]
    rfl

-- ---------------------------------------------------------------------------
-- Titles
-- ---------------------------------------------------------------------------

open Text

def firstText? : Block → Option String
  | .text t => if shown t = [] then none else some (String.ofList (shown t))
  | .element _ => none

theorem named_append (front back : List Node) (name : String) :
    (of (front ++ back)).named name = (of front).named name ++ (of back).named name := by
  simp [of, Document.named]

theorem named_nodes (front back : List Node) (block : Block) :
    ((of (block.nodes front.length)).named "pre").map
      (of (front ++ (block.nodes front.length ++ back))).firstText? = [block.firstText?] := by
  cases block with
  | text t =>
    by_cases ht : shown t = [] <;>
      simp [nodes, filled, ht, firstText?, Document.named, of, Document.firstText?, Document.node?]
  | element t =>
    by_cases ht : t = [] <;>
      simp [nodes, filled, ht, firstText?, Document.named, of, Document.firstText?, Document.node?]

theorem named_layout (front : List Node) (blocks : List Block) :
    ((of (layout front.length blocks)).named "pre").map
      (of (front ++ layout front.length blocks)).firstText? = blocks.map firstText? := by
  induction blocks generalizing front with
  | nil => rfl
  | cons block blocks ih =>
    have hrest := ih (front ++ block.nodes front.length)
    rw [List.length_append, List.append_assoc] at hrest
    rw [layout, named_append, List.map_append, named_nodes, hrest]
    rfl

def lines : Block → List (List Char)
  | .text t => split '\n' t
  | .element _ => []

theorem titleIn?_shown (t : List Char) : titleIn? (shown t) = titleIn? t := by
  unfold shown
  split
  · next t =>
    have hsplit : split '\n' ('\n' :: t) = [] :: split '\n' t := split_append_cons '\n' [] t
    rw [titleIn?, titleIn?, hsplit]
    rfl
  · rfl

theorem titleIn?_firstText? (block : Block) :
    block.firstText?.bind (fun text => titleIn? text.toList) =
      block.lines.findSome? titleLine? := by
  cases block with
  | text t =>
    rw [show (Block.text t).lines.findSome? titleLine? = titleIn? t from rfl, ← titleIn?_shown]
    by_cases ht : shown t = []
    · simp [firstText?, ht]
      rfl
    · simp [firstText?, ht]
  | element t => rfl

theorem findSome?_flatMap (as : List α) (f : α → List β) (g : β → Option γ) :
    (as.flatMap f).findSome? g = as.findSome? fun a => (f a).findSome? g := by
  induction as with
  | nil => rfl
  | cons a as ih =>
    rw [List.flatMap_cons, List.findSome?_append, ih]
    cases h : (f a).findSome? g <;> simp [h]

theorem pageTitle?_page {blocks : List Block} (hplain : ∀ block ∈ blocks, block.IsPlain) :
    pageTitle? (page blocks) = (blocks.flatMap lines).findSome? titleLine? := by
  obtain ⟨kids, hparse⟩ := parse_page hplain
  have hnamed : (of (trunk kids (layout 4 blocks))).named "pre" =
      (of (layout 4 blocks)).named "pre" := named_append (trunk kids []) _ _
  have htexts : ((of (layout 4 blocks)).named "pre").map
      (of (trunk kids (layout 4 blocks))).firstText? = blocks.map firstText? :=
    named_layout (trunk kids []) blocks
  calc pageTitle? (page blocks)
    _ = (((of (layout 4 blocks)).named "pre").map
          (of (trunk kids (layout 4 blocks))).firstText?).findSome?
            (·.bind fun text => titleIn? text.toList) := by
        rw [pageTitle?, hparse, hnamed, List.findSome?_map]
        rfl
    _ = blocks.findSome? fun block => block.lines.findSome? titleLine? := by
        rw [htexts, List.findSome?_map]
        simp only [Function.comp_def, titleIn?_firstText?]
    _ = (blocks.flatMap lines).findSome? titleLine? := (findSome?_flatMap ..).symm

structure AreLines (text : List Char) (lines : List (List Char)) : Prop where
  ne_nil : lines ≠ []
  unbroken : ∀ line ∈ lines, '\n' ∉ line
  joined : ['\n'].intercalate lines = text

theorem split_intercalate {lines : List (List Char)} (hne : lines ≠ [])
    (h : ∀ line ∈ lines, '\n' ∉ line) : split '\n' (['\n'].intercalate lines) = lines := by
  induction lines with
  | nil => exact absurd rfl hne
  | cons line lines ih =>
    rw [List.forall_mem_cons] at h
    cases lines with
    | nil => rw [List.intercalate_singleton, split_of_not_mem h.1]
    | cons next lines =>
      rw [List.intercalate_cons_cons, List.append_assoc, List.singleton_append, split_append_cons,
        split_of_not_mem h.1, ih (List.cons_ne_nil _ _) h.2]
      rfl

theorem areLines_iff {text : List Char} {lines : List (List Char)} :
    AreLines text lines ↔ lines = split '\n' text := by
  constructor
  · rintro ⟨hne, hunbroken, rfl⟩
    exact (split_intercalate hne hunbroken).symm
  · rintro rfl
    exact ⟨split_ne_nil _ _, fun _ => not_mem_of_mem_split, intercalate_split _ _⟩

/-- The lines that blocks show, in order. Those with an element show none. -/
inductive Shows : List Block → List (List Char) → Prop
  | nil : Shows [] []
  | text (ht : AreLines t first) (h : Shows blocks rest) : Shows (.text t :: blocks) (first ++ rest)
  | element (h : Shows blocks rest) : Shows (.element t :: blocks) rest

theorem shows_iff {blocks : List Block} {shown : List (List Char)} :
    Shows blocks shown ↔ shown = blocks.flatMap lines := by
  constructor
  · intro h
    induction h with
    | nil => rfl
    | text ht _ ih => rw [areLines_iff.mp ht, ih]; rfl
    | element _ ih => exact ih
  · rintro rfl
    induction blocks with
    | nil => exact .nil
    | cons block blocks ih =>
      cases block with
      | text t => exact .text (areLines_iff.mpr rfl) ih
      | element t => exact .element ih

def Titles (line : List Char) (title : String) : Prop :=
  ∃ rest, (line = "Title ".toList ++ rest ∨ line = "T ".toList ++ rest) ∧
    title = String.ofList (trim rest)

theorem titleLine?_eq_some_iff {line : List Char} :
    titleLine? line = some title ↔ Titles line title := by
  cases hlong : dropPrefix? "Title ".toList line with
  | some rest =>
    have hline := dropPrefix?_eq_some_iff.mp hlong
    rw [titleLine?, hlong]
    constructor
    · intro h
      exact ⟨rest, .inl hline, (Option.some.inj h).symm⟩
    · rintro ⟨rest', h | h, rfl⟩
      · rw [List.append_cancel_left (hline.symm.trans h)]
        rfl
      · exact absurd (hline.symm.trans h) (by simp)
  | none =>
    rw [titleLine?, hlong]
    refine Option.map_eq_some_iff.trans ⟨?_, ?_⟩
    · rintro ⟨rest, hrest, rfl⟩
      exact ⟨rest, .inr (dropPrefix?_eq_some_iff.mp hrest), rfl⟩
    · rintro ⟨rest, h | h, rfl⟩
      · rw [dropPrefix?_eq_some_iff.mpr h] at hlong
        cases hlong
      · exact ⟨rest, dropPrefix?_eq_some_iff.mpr h, rfl⟩

/--
The title of a page of blocks is that of the first line with one that the blocks show,
whatever their texts look like. Without such a line there is none.
-/
theorem title_of_first_line {blocks : List Block} (hplain : ∀ block ∈ blocks, block.IsPlain) :
    ∃ lines, (∀ other, Shows blocks other ↔ other = lines) ∧
      (∀ title, pageTitle? (page blocks) = some title ↔
        ∃ before line after, lines = before ++ line :: after ∧ Titles line title ∧
          ∀ earlier ∈ before, ∀ other, ¬Titles earlier other) ∧
      (pageTitle? (page blocks) = none ↔ ∀ line ∈ lines, ∀ title, ¬Titles line title) := by
  have hnone (line : List Char) : titleLine? line = none ↔ ∀ title, ¬Titles line title := by
    simp only [← titleLine?_eq_some_iff, Option.eq_none_iff_forall_ne_some, ne_eq]
  refine ⟨blocks.flatMap lines, fun _ => shows_iff, fun title => ?_, ?_⟩
  · simp only [pageTitle?_page hplain, List.findSome?_eq_some_iff, titleLine?_eq_some_iff, hnone]
  · simp only [pageTitle?_page hplain, List.findSome?_eq_none_iff, hnone]

/-- A line feed that is not shown, texts that look like markup, and a block with an element. -/
theorem title_of_first_line_escaped :
    pageTitle? ("<pre>\n&lt;/pre&gt; T x</pre>" ++ "<pre><code>T y</code></pre>" ++
      "<pre>T  &lt;b&gt; &amp;amp; </pre>") = some "<b> &amp;" := by
  have hplain : ∀ block ∈ [Block.text "\n</pre> T x".toList, .element "T y".toList,
      .text "T  <b> &amp; ".toList], block.IsPlain := by
    simp [IsPlain, content]
  have hshows : Shows [Block.text "\n</pre> T x".toList, .element "T y".toList,
      .text "T  <b> &amp; ".toList]
      ([[], "</pre> T x".toList] ++ (["T  <b> &amp; ".toList] ++ [])) :=
    .text ⟨by simp, by simp, rfl⟩ (.element (.text ⟨by simp, by simp, rfl⟩ .nil))
  obtain ⟨lines, hlines, htitle, -⟩ := title_of_first_line hplain
  obtain rfl := (hlines _).mp hshows
  refine (htitle "<b> &amp;").mpr ⟨[[], "</pre> T x".toList], "T  <b> &amp; ".toList, [], rfl,
    ⟨" <b> &amp; ".toList, .inr rfl, by decide⟩, ?_⟩
  simp [Titles]

end Block

end StanzaLint.Html
