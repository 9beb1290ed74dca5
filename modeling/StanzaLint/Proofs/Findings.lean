import StanzaLint.Proofs.Ledger

/-!
# Findings by their codes

Every code belongs to one part of the judgement of a line: its end, its label, its
place in the stanza, its value, or the stanza that it closes. The codes about
values are given to the directive line that a physical line completes, and to no
other (`perform_coded`), each to certain directives only (`valueFindings_isFor`).
So they can be read off where the values of these directives are judged. What was
held back of the line before, and the marks that its last part clears, have no
influence on them.
-/

namespace StanzaLint

namespace Code

/-- The code may be given to the value of a line with this directive. -/
def isFor (d : Directive) : Code → Bool
  | .duplicateTitle | .titleSeen | .sourceTitle => d == .title
  | .urlBeforeTitle | .duplicateUrl | .urlFormat | .urlWithoutScheme | .urlNotHttps => d == .url
  | .originSeen => [.url, .host, .hostJavaScript].contains d
  | .originRepeated => [.host, .hostJavaScript].contains d
  | .urlUnparsable => [.url, .host, .hostJavaScript, .domain, .domainJavaScript].contains d
  | .domainNotBare => [.domain, .domainJavaScript].contains d
  | .hostnameEditPair | .hostnameEditFind | .hostnameEditReplace | .hostnameEditDepth =>
    d == .proxyHostnameEdit
  | _ => false

def isOfForm : Code → Bool
  | .duplicateTitle | .titleSeen | .sourceTitle | .urlBeforeTitle | .duplicateUrl | .urlFormat
  | .urlWithoutScheme | .urlNotHttps | .originSeen | .originRepeated | .urlUnparsable
  | .domainNotBare | .hostnameEditPair | .hostnameEditFind | .hostnameEditReplace
  | .hostnameEditDepth => false
  | _ => true

/-- The code is about what a logical line says, and not about the end of a line, a comment or a
whole stanza. -/
def isOfLine : Code → Bool
  | .trailingBlank | .sourceFault | .titleWithoutUrl | .unclosedUserHeader
  | .unclosedAnonymousUrl | .unclosedOption => false
  | _ => true

theorem isOfLine_of_isFor {c : Code} (h : c.isFor d = true) : c.isOfLine = true := by
  revert h
  cases c <;> simp [isFor, isOfLine]

end Code

theorem Place.code_isOfForm (place : Place) : place.code.isOfForm = true := by
  cases place <;> rfl

namespace Diagnostic

def coded (c : Code) (ds : List Diagnostic) : List Diagnostic := ds.filter (·.code = c)

@[simp] theorem coded_nil (c : Code) : coded c [] = [] := rfl

@[simp] theorem coded_append (c : Code) (ds es : List Diagnostic) :
    coded c (ds ++ es) = coded c ds ++ coded c es := List.filter_append ..

@[simp] theorem coded_cons (c : Code) (d : Diagnostic) (ds : List Diagnostic) :
    coded c (d :: ds) = if d.code = c then d :: coded c ds else coded c ds := by
  simp [coded, List.filter_cons]

@[simp] theorem coded_ite (c : Code) (p : Prop) [Decidable p] (ds es : List Diagnostic) :
    coded c (if p then ds else es) = if p then coded c ds else coded c es :=
  apply_ite (coded c) p ds es

theorem coded_map (f : α → Diagnostic) (h : ∀ a, (f a).code = k) (c : Code) (as : List α) :
    coded c (as.map f) = if k = c then as.map f else [] := by
  by_cases hk : k = c <;> simp [coded, List.filter_map, Function.comp_def, h, hk]

@[simp] theorem coded_originSeen (c : Code) (places : List String) :
    coded c (places.map originSeen) = if .originSeen = c then places.map originSeen else [] :=
  coded_map originSeen (fun _ => rfl) c places

@[simp] theorem coded_originRepeated (c : Code) (places : List String) :
    coded c (places.map originRepeated) =
      if .originRepeated = c then places.map originRepeated else [] :=
  coded_map originRepeated (fun _ => rfl) c places

@[simp] theorem coded_titleSeen (c : Code) (places : List String) :
    coded c (places.map titleSeen) = if .titleSeen = c then places.map titleSeen else [] :=
  coded_map titleSeen (fun _ => rfl) c places

@[simp] theorem coded_unclosedOption (c : Code) (title : String) (openers : List Directive) :
    coded c (openers.map (unclosedOption title)) =
      if .unclosedOption = c then openers.map (unclosedOption title) else [] :=
  coded_map (unclosedOption title) (fun _ => rfl) c openers

def AllOf (kind : Code → Bool) (ds : List Diagnostic) : Prop := ∀ d ∈ ds, kind d.code = true

section
variable {kind : Code → Bool}

theorem AllOf.nil : AllOf kind [] := by simp [AllOf]

theorem AllOf.singleton (h : kind (code d) = true) : AllOf kind [d] := by
  simpa [AllOf] using h

theorem AllOf.append (hd : AllOf kind ds) (he : AllOf kind es) : AllOf kind (ds ++ es) := by
  intro d h
  rcases List.mem_append.mp h with h | h
  · exact hd d h
  · exact he d h

theorem AllOf.ite {p : Prop} [Decidable p] (hd : AllOf kind ds) (he : AllOf kind es) :
    AllOf kind (if p then ds else es) := by
  split
  · exact hd
  · exact he

theorem AllOf.map {f : α → Diagnostic} (h : ∀ a, kind (f a).code = true) (as : List α) :
    AllOf kind (as.map f) := by
  intro d hd
  obtain ⟨a, -, rfl⟩ := List.mem_map.mp hd
  exact h a

theorem AllOf.coded_eq_nil (h : AllOf kind ds) (hc : kind c = false) : coded c ds = [] := by
  rw [coded, List.filter_eq_nil_iff]
  intro d hd he
  have hk := h d hd
  rw [of_decide_eq_true he, hc] at hk
  cases hk

theorem AllOf.coded_ne (h : AllOf (· != c) ds) : coded c ds = [] := h.coded_eq_nil (by simp)

end

end Diagnostic

open Diagnostic (coded AllOf)

-- ---------------------------------------------------------------------------
-- What is not about values
-- ---------------------------------------------------------------------------

namespace Stanza

variable (s : Stanza) {kind : Code → Bool}

theorem findFindings_allOf (hk : kind .findWithoutReplace = true) (d : Directive) :
    AllOf kind (s.findFindings d) :=
  .ite (.singleton hk) .nil

theorem orderFindings_allOf (hk : ∀ place : Place, kind place.code = true) (d : Directive)
    (payload : String) : AllOf kind (s.orderFindings d payload) := by
  have he : ∀ allowed place, AllOf kind (s.expect allowed place) :=
    fun allowed place => .ite .nil (.singleton (hk place))
  unfold orderFindings
  refine .ite (he _ _) (.ite (.ite .nil (he _ _)) ?_)
  split
  · exact he _ _
  · exact .ite (he _ _) (he _ _)
  · exact .ite (he _ _) (he _ _)
  · exact (he _ _).append (he _ _)
  · exact he _ _
  · exact he _ _
  · exact .nil

theorem closingFindings_allOf (ht : kind .titleWithoutUrl = true)
    (hu : kind .unclosedUserHeader = true) (ha : kind .unclosedAnonymousUrl = true)
    (ho : kind .unclosedOption = true) : AllOf kind s.closingFindings :=
  .append (.append (.append (.ite (.singleton ht) .nil) (.ite (.singleton hu) .nil))
    (.ite (.singleton ha) .nil)) (.map (fun _ => ho) _)

end Stanza

namespace Processor

variable {kind : Code → Bool}

theorem blankFindings_allOf (hk : kind .trailingBlank = true) (settings : Settings)
    (line : String) : AllOf kind (blankFindings settings line) := .ite (.singleton hk) .nil

theorem labelFindings_allOf (hm : kind .malformedOption = true)
    (hu : kind .unknownDirective = true) (hw : kind .wrongCase = true) (settings : Settings)
    (text : List Char) : AllOf kind (labelFindings settings text) := by
  unfold labelFindings
  split
  · exact .singleton hm
  · split
    · exact .singleton hu
    next found _ =>
      cases found with
      | exact d => exact .nil
      | wrongCase d => exact .ite (.singleton hw) .nil

theorem comment_allOf (hk : kind .sourceFault = true) (p : Processor) (checks : Checks)
    (text : List Char) : AllOf kind (p.comment checks text).2 := by
  rw [comment_eq]
  rcases sourceOf? checks text with _ | _ | _
  · exact .nil
  · exact .singleton hk
  · exact .nil

end Processor

-- ---------------------------------------------------------------------------
-- What is about values
-- ---------------------------------------------------------------------------

def Stanza.cleared (s : Stanza) : Stanza :=
  { s with isSeparator := false, inMultiline := false, pending := "" }

namespace Processor

variable {checks : Checks} {p q : Processor} {sheet : Sheet}

/-- The parts of a processor that values are compared with are the same. -/
structure SameValues (p q : Processor) : Prop where
  title : p.stanza.title = q.stanza.title
  url : p.stanza.url = q.stanza.url
  sourceTitle : p.stanza.sourceTitle = q.stanza.sourceTitle
  hostnameEdits : p.stanza.hostnameEdits = q.stanza.hostnameEdits
  hosts : p.stanza.origins = q.stanza.origins
  titles : p.titles = q.titles
  origins : p.origins = q.origins

theorem valueFindings_congr (h : p.SameValues q) (settings : Settings) (e : Entry) :
    p.valueFindings settings e = q.valueFindings settings e := by
  have horigin : ∀ url, p.originFindings url = q.originFindings url := by
    intro url
    simp only [originFindings, h.origins]
  unfold valueFindings
  split
  · simp only [Stanza.hostnameEditFindings, Stanza.depthFindings, h.hostnameEdits]
  · simp only [titleFindings, Stanza.sourceFindings, h.title, h.titles, h.sourceTitle]
  · simp only [urlFindings, startingPointFindings, h.title, h.url, horigin]
  · simp only [hostFindings, h.hosts, horigin]
  · simp only [hostFindings, h.hosts, horigin]
  all_goals rfl

theorem valueFindings_cleared (p : Processor) (settings : Settings) (e : Entry) :
    p.valueFindings settings e =
      valueFindings ⟨p.stanza.cleared, false, none, p.titles, p.origins, none⟩ settings e := by
  have h : p.SameValues ⟨p.stanza.cleared, false, none, p.titles, p.origins, none⟩ :=
    ⟨rfl, rfl, rfl, rfl, rfl, rfl, rfl⟩
  exact valueFindings_congr h settings e

theorem hostnameEditFindings_isFor (s : Stanza) (settings : Settings) (payload : String) :
    AllOf (Code.isFor .proxyHostnameEdit) (s.hostnameEditFindings settings payload) := by
  unfold Stanza.hostnameEditFindings
  split
  · exact .singleton rfl
  · exact .ite (((AllOf.ite .nil (.singleton rfl)).append (.ite .nil (.singleton rfl))).append
      (.map (fun _ => rfl) _)) .nil

theorem titleFindings_isFor (p : Processor) (title : String) :
    AllOf (Code.isFor .title) (p.titleFindings title) :=
  ((AllOf.ite .nil (.singleton rfl)).append (.map (fun _ => rfl) _)).append
    (.ite .nil (.singleton rfl))

theorem urlFindings_isFor (p : Processor) (settings : Settings) (text : List Char) :
    AllOf (Code.isFor .url) (p.urlFindings settings text) := by
  refine (((AllOf.ite (.singleton rfl) .nil).append (.ite .nil (.singleton rfl))).append
    (.ite (.singleton rfl) .nil)).append ?_
  unfold startingPointFindings
  split
  · exact .singleton rfl
  · exact .singleton rfl
  · exact (AllOf.ite (.singleton rfl) .nil).append (.map (fun _ => rfl) _)

theorem hostFindings_isFor (hd : d = .host ∨ d = .hostJavaScript) (p : Processor)
    (settings : Settings) (payload : String) :
    AllOf (Code.isFor d) (p.hostFindings settings payload) := by
  unfold hostFindings
  split
  · exact .singleton (by rcases hd with rfl | rfl <;> rfl)
  · refine AllOf.append (.map (fun _ => ?_) _) (.ite (.map (fun _ => ?_) _) .nil)
    · rcases hd with rfl | rfl <;> rfl
    · rcases hd with rfl | rfl <;> rfl

theorem domainFindings_isFor (hd : d = .domain ∨ d = .domainJavaScript) (payload : String) :
    AllOf (Code.isFor d) (domainFindings payload) := by
  unfold domainFindings
  split
  · exact .singleton (by rcases hd with rfl | rfl <;> rfl)
  · exact .nil
  · exact .singleton (by rcases hd with rfl | rfl <;> rfl)

theorem valueFindings_title (p : Processor) (settings : Settings) (hd : e.directive = .title) :
    p.valueFindings settings e = p.titleFindings e.payload := by
  simp only [valueFindings, hd]

theorem valueFindings_url (p : Processor) (settings : Settings) (hd : e.directive = .url) :
    p.valueFindings settings e = p.urlFindings settings e.text := by
  simp only [valueFindings, hd]

theorem valueFindings_isFor (p : Processor) (settings : Settings) (e : Entry) :
    AllOf (Code.isFor e.directive) (p.valueFindings settings e) := by
  unfold valueFindings
  split
  next hd => exact hd ▸ hostnameEditFindings_isFor p.stanza settings e.payload
  next hd => exact hd ▸ p.titleFindings_isFor e.payload
  next hd => exact hd ▸ p.urlFindings_isFor settings e.text
  next hd => exact p.hostFindings_isFor (.inl hd) settings e.payload
  next hd => exact p.hostFindings_isFor (.inr hd) settings e.payload
  next hd => exact domainFindings_isFor (.inl hd) e.payload
  next hd => exact domainFindings_isFor (.inr hd) e.payload
  next => exact .nil

theorem logicalLine_coded (hc : c.isOfForm = false) (hs : q.stanza.cleared = p.stanza.cleared)
    (ht : q.titles = p.titles) (ho : q.origins = p.origins) (settings : Settings)
    (text : List Char) (location : String) :
    coded c (q.logicalLine settings text location).2 =
      (Entry.of? text location).elim [] fun e => coded c (p.valueFindings settings e) := by
  have hv : ∀ e, q.unseparated.valueFindings settings e = p.valueFindings settings e := by
    intro e
    rw [valueFindings_cleared q.unseparated, valueFindings_cleared p, ← hs, ← ht, ← ho]
    rfl
  rw [logicalLine_eq]
  cases Entry.of? text location with
  | none => exact (labelFindings_allOf rfl rfl rfl settings text).coded_eq_nil hc
  | some e =>
    simp only [entry, Diagnostic.coded_append, hv, Option.elim_some,
      (labelFindings_allOf rfl rfl rfl settings text).coded_eq_nil hc,
      (q.unseparated.stanza.findFindings_allOf rfl e.directive).coded_eq_nil hc,
      (q.unseparated.stanza.orderFindings_allOf Place.code_isOfForm e.directive
        e.payload).coded_eq_nil hc,
      List.nil_append]

theorem logicalLine_unsaid (hc : c.isOfLine = false) (q : Processor) (settings : Settings)
    (text : List Char) (location : String) :
    coded c (q.logicalLine settings text location).2 = [] := by
  have hlabel : coded c (labelFindings settings text) = [] :=
    (labelFindings_allOf rfl rfl rfl settings text).coded_eq_nil hc
  rw [logicalLine_eq]
  split
  · exact hlabel
  next e _ =>
    have hfind : coded c (q.unseparated.stanza.findFindings e.directive) = [] :=
      (Stanza.findFindings_allOf _ rfl _).coded_eq_nil hc
    have horder : coded c (q.unseparated.stanza.orderFindings e.directive e.payload) = [] :=
      (Stanza.orderFindings_allOf _ (fun place => by cases place <;> rfl) _ _).coded_eq_nil hc
    have hvalue : coded c (q.unseparated.valueFindings settings e) = [] := by
      refine (q.unseparated.valueFindings_isFor settings e).coded_eq_nil ?_
      by_contra hf
      rw [Code.isOfLine_of_isFor (by simpa using hf)] at hc
      cases hc
    simp only [entry, Diagnostic.coded_append, hlabel, hfind, horder, hvalue, List.append_nil]

theorem read_coded (hc : c.isOfForm = false) (h : p.stanza.Tells checks.settings sheet)
    (line : Line) (location : String) :
    coded c (p.read checks line location).2 =
      (sheet.completes? location line).elim [] fun e =>
        coded c (p.valueFindings checks.settings e) := by
  cases line with
  | closing => exact (p.stanza.closingFindings_allOf rfl rfl rfl rfl).coded_eq_nil hc
  | comment text => exact (comment_allOf rfl _ checks text).coded_eq_nil hc
  | unfinished segment => rfl
  | complete text =>
    rw [read_complete h]
    refine logicalLine_coded (p := p) hc ?_ ?_ ?_ _ _ _ <;> rfl

theorem step_coded (hc : c.isOfForm = false) (h : p.stanza.Tells checks.settings sheet)
    (line location : String) :
    coded c (p.step checks line location).2 =
      (sheet.completes? location (Line.read line)).elim [] fun e =>
        coded c (p.valueFindings checks.settings e) := by
  rw [step_eq, Diagnostic.coded_append, (blankFindings_allOf rfl _ _).coded_eq_nil hc,
    List.nil_append, read_coded hc h]

end Processor

/-- What is found about values at an action is about the directive line that it completes. -/
theorem Progress.perform_coded {s : Progress} {ledger : Ledger} (hc : c.isOfForm = false)
    (h : s.Told checks.settings ledger) (action : Action) :
    coded c (s.perform checks action).2 =
      (ledger.completes? action).elim [] fun e =>
        coded c (s.processor.valueFindings checks.settings e) := by
  cases action with
  | line text location => exact Processor.step_coded hc h.current text location
  | suspend => rfl
  | resume =>
    obtain ⟨p, suspended⟩ := s
    cases suspended <;> rfl

end StanzaLint
