import StanzaLint.History

/-!
# What a line can touch

A line that names a directive leaves the margin of its stanza alone: the text
of unfinished lines and what source comments said. From this follows what every
physical line keeps, and what holds of every stanza of a history.
-/

namespace StanzaLint

namespace Stanza

/-- The part of a stanza that only unfinished lines and comments write. -/
structure Margin where
  inMultiline : Bool := false
  pending : String := ""
  source : String := ""
  sourceTitle : String := ""

def margin (s : Stanza) : Margin := ⟨s.inMultiline, s.pending, s.source, s.sourceTitle⟩

def setMargin (m : Margin) (s : Stanza) : Stanza :=
  { s with
    inMultiline := m.inMultiline
    pending := m.pending
    source := m.source
    sourceTitle := m.sourceTitle }

/-- The part of a stanza that the value of a line neither reads nor writes. -/
structure Rim extends Margin where
  previous : Option Directive
  label : String

def setRim (r : Rim) (s : Stanza) : Stanza :=
  { s.setMargin r.toMargin with previous := r.previous, label := r.label }

end Stanza

def Entry.relocate (f : String → String) (e : Entry) : Entry := { e with location := f e.location }

@[simp] theorem Entry.directive_relocate (f : String → String) (e : Entry) :
    (e.relocate f).directive = e.directive := rfl

@[simp] theorem Entry.payload_relocate (f : String → String) (e : Entry) :
    (e.relocate f).payload = e.payload := rfl

namespace Stanza

/-- A change that lines carry along: it keeps what they read of a stanza, and does not mind what
they write there. It may rename locations, and the settings may change with it. -/
structure Carried (change : Stanza → Stanza) (place : String → String) (a b : Settings) : Prop where
  openOptions (s : Stanza) : (change s).openOptions = s.openOptions
  title (s : Stanza) : (change s).title = s.title
  url (s : Stanza) : (change s).url = s.url
  urlOrigin (s : Stanza) : (change s).urlOrigin = s.urlOrigin
  setOptions (s : Stanza) (openOptions : List Directive) :
    { change s with openOptions } = change { s with openOptions }
  setTitle (s : Stanza) (title : String) : { change s with title } = change { s with title }
  setUrl (s : Stanza) (url : String) : { change s with url } = change { s with url }
  setOrigin (s : Stanza) (origin location : String) :
    { change s with urlOrigin := origin, urlLocation := place location } =
      change { s with urlOrigin := origin, urlLocation := location }
  setUserHeader (s : Stanza) (userHeaderOpen : Bool) :
    { change s with userHeaderOpen } = change { s with userHeaderOpen }
  setAnonymousUrl (s : Stanza) (anonymousUrlOpen : Bool) :
    { change s with anonymousUrlOpen } = change { s with anonymousUrlOpen }
  setSeparator (s : Stanza) (isSeparator : Bool) :
    { change s with isSeparator } = change { s with isSeparator }
  note (s : Stanza) (origin location : String) :
    { change s with origins := (change s).origins.note origin (place location) } =
      change { s with origins := s.origins.note origin location }
  edit (s : Stanza) (payload : String) :
    (change s).withHostnameEdit b payload = change (s.withHostnameEdit a payload)

namespace Carried

variable {change : Stanza → Stanza} {place : String → String} {a b : Settings}
  (h : Carried change place a b) (s : Stanza)
include h

theorem withOption (d : Directive) : (change s).withOption d = change (s.withOption d) := by
  unfold Stanza.withOption
  rw [h.openOptions, h.setOptions, h.setOptions, apply_ite change, apply_ite change]

theorem withTitle (title : String) : (change s).withTitle title = change (s.withTitle title) := by
  unfold Stanza.withTitle
  rw [h.title, h.setTitle, apply_ite change]

theorem withOrigin (origin location : String) :
    (change s).withOrigin origin (place location) = change (s.withOrigin origin location) := by
  unfold Stanza.withOrigin
  rw [h.urlOrigin, h.setOrigin, apply_ite change]

theorem withUrl (value location : String) :
    (change s).withUrl value (place location) = change (s.withUrl value location) := by
  unfold Stanza.withUrl
  dsimp only
  rw [h.url, h.setUrl, ← apply_ite change]
  split
  · exact h.withOrigin _ _ _
  · rfl

theorem withHost (payload location : String) :
    (change s).withHost payload (place location) = change (s.withHost payload location) := by
  unfold Stanza.withHost
  split
  · exact h.note s _ _
  · rfl

theorem withValue (e : Entry) :
    (change s).withValue b (e.relocate place) = change (s.withValue a e) := by
  unfold Stanza.withValue
  rw [Entry.directive_relocate, Entry.payload_relocate]
  split
  · exact h.edit s e.payload
  · exact h.setUserHeader s _
  · exact h.setAnonymousUrl s _
  · exact h.withTitle s e.payload
  · exact h.setSeparator s true
  · exact h.withUrl s _ _
  · exact h.withHost s e.payload e.location
  · exact h.withHost s e.payload e.location
  · rfl

theorem after (e : Entry) :
    (change s).after b (e.relocate place) =
      { change ((s.withOption e.directive).withValue a e) with
        previous := some e.directive, label := e.label } := by
  unfold Stanza.after
  rw [Entry.directive_relocate, h.withOption, h.withValue]
  rfl

end Carried

theorem withHostnameEdit_eq (s : Stanza) (settings : Settings) (payload : String) :
    s.withHostnameEdit settings payload =
      { s with hostnameEdits := match hostnameEdit? payload with
        | none => s.hostnameEdits
        | some (find, _) =>
          if settings.hostnameEdits ∧
              String.ofList (domainOf find) ∉ s.hostnameEdits.map (·.domain) then
            s.hostnameEdits ++
              [⟨String.ofList (domainOf find), subdomainPattern (String.ofList (domainOf find))⟩]
          else s.hostnameEdits } := by
  unfold withHostnameEdit
  cases hostnameEdit? payload with
  | none => rfl
  | some pair =>
    dsimp only
    split <;> rfl

section
variable (s : Stanza) (r : Rim)

theorem carried_setRim (settings : Settings) : Carried (setRim r) id settings settings where
  openOptions _ := rfl
  title _ := rfl
  url _ := rfl
  urlOrigin _ := rfl
  setOptions _ _ := rfl
  setTitle _ _ := rfl
  setUrl _ _ := rfl
  setOrigin _ _ _ := rfl
  setUserHeader _ _ := rfl
  setAnonymousUrl _ _ := rfl
  setSeparator _ _ := rfl
  note _ _ _ := rfl
  edit s payload := by
    rw [withHostnameEdit_eq, withHostnameEdit_eq]
    rfl

/-- A line that names a directive keeps the margin, and it does not matter which line was read
before. -/
theorem after_setRim (settings : Settings) (e : Entry) :
    (s.setRim r).after settings e = (s.after settings e).setMargin r.toMargin :=
  (carried_setRim r settings).after s e

theorem after_setMargin (m : Margin) (settings : Settings) (e : Entry) :
    (s.setMargin m).after settings e = (s.after settings e).setMargin m :=
  s.after_setRim ⟨m, s.previous, s.label⟩ settings e

theorem after_margin (settings : Settings) (e : Entry) :
    (s.after settings e).margin = s.margin := by
  have h := s.after_setMargin s.margin settings e
  rw [show s.setMargin s.margin = s from rfl] at h
  rw [h]
  rfl

end

/-- Text is held back only while a line is unfinished. -/
def Settled (s : Stanza) : Prop := s.inMultiline = false → s.pending = ""

theorem Settled.of_margin {s t : Stanza} (h : s.Settled) (hm : t.margin = s.margin) :
    t.Settled := by
  simp only [margin, Margin.mk.injEq] at hm
  intro ht
  rw [hm.2.1]
  exact h (hm.1 ▸ ht)

end Stanza

/-- The address of a source comment and the title that is found there. -/
def SourceComment.resolve (titles : TitleLookup) (line : List Char) :
    Except SourceFault (Url × Option String) :=
  match parse line with
  | .error fault => .error fault
  | .ok url => match titles.expected url with
    | .error fault => .error fault
    | .ok title => .ok (url, title)

def TitleLookup.keeps : TitleLookup → Option TitleSource → Option TitleSource
  | pages _, lookup => some (lookup.getD .website)
  | unavailable _, lookup => lookup

def Stanza.sourced (s : Stanza) : Option (Except SourceFault (Url × Option String)) → Stanza
  | some (.ok (url, title)) => { s with source := url.href, sourceTitle := title.getD "" }
  | _ => s

/-- The directive line that a logical line is, if its label is known. -/
def Entry.of? (text : List Char) (location : String) : Option Entry :=
  (labelOf? text).bind fun label => (Directive.find? label).bind fun found =>
    some ⟨found.directive, label, text, location⟩

namespace Processor

variable {checks : Checks}

def blankFindings (settings : Settings) (line : String) : List Diagnostic :=
  if settings.whitespace ∧ Line.endsInBlank line then [.trailingBlank] else []

theorem step_eq (p : Processor) (checks : Checks) (line location : String) :
    p.step checks line location =
      ((p.read checks (Line.read line) location).1, blankFindings checks.settings line ++
        (p.read checks (Line.read line) location).2) := rfl

def sourceFindings : Option (Except SourceFault (Url × Option String)) → List Diagnostic
  | some (.error fault) => [.sourceFault fault]
  | _ => []

theorem lookUp_eq (p : Processor) (titles : TitleLookup) (url : Url) :
    p.lookUp titles url = ({ p with lookup := titles.keeps p.lookup }, titles.expected url) := by
  unfold lookUp
  cases hl : p.lookup <;> cases titles <;> rfl

/-- What a comment leads to, if it names a source that is to be checked. -/
def sourceOf? (checks : Checks) (text : List Char) :
    Option (Except SourceFault (Url × Option String)) :=
  if checks.settings.source ∧ (Text.dropPrefix? SourceComment.lead text).isSome then
    some (SourceComment.resolve checks.titles text)
  else none

def asks (checks : Checks) (text : List Char) : Bool :=
  checks.settings.source && (Text.dropPrefix? SourceComment.lead text).isSome &&
    (SourceComment.parse text).isOk

/-- Which lookup is installed has no influence on what a comment leads to. -/
theorem comment_eq (p : Processor) (checks : Checks) (text : List Char) :
    p.comment checks text =
      ({ p with
          stanza := p.stanza.sourced (sourceOf? checks text)
          lookup := if asks checks text then checks.titles.keeps p.lookup else p.lookup },
        sourceFindings (sourceOf? checks text)) := by
  unfold comment sourceOf? asks SourceComment.resolve
  split
  next hc =>
    rw [hc.1, hc.2]
    cases SourceComment.parse text with
    | error fault => rfl
    | ok url =>
      simp only [lookUp_eq]
      cases checks.titles.expected url <;> rfl
  next hc =>
    have hasks : (checks.settings.source && (Text.dropPrefix? SourceComment.lead text).isSome &&
        (SourceComment.parse text).isOk) = false := by
      rw [Bool.and_eq_false_iff, ← Bool.not_eq_true, Bool.and_eq_true]
      exact .inl hc
    rw [hasks]
    rfl

theorem comment_stanza (p : Processor) (checks : Checks) (text : List Char) :
    ∃ source title lookup, (p.comment checks text).1 =
      { p with stanza := { p.stanza with source := source, sourceTitle := title }, lookup } := by
  rw [comment_eq]
  rcases sourceOf? checks text with _ | _ | ⟨url, title⟩
  · exact ⟨p.stanza.source, p.stanza.sourceTitle, _, rfl⟩
  · exact ⟨p.stanza.source, p.stanza.sourceTitle, _, rfl⟩
  · exact ⟨_, _, _, rfl⟩

/-- Every logical line that is not a description ends a run of descriptions. -/
def unseparated (p : Processor) : Processor :=
  { p with stanza := { p.stanza with isSeparator := false } }

def labelFindings (settings : Settings) (text : List Char) : List Diagnostic :=
  match labelOf? text with
  | none => [.malformedOption]
  | some label => match Directive.find? label with
    | none => [.unknownDirective label]
    | some found => caseFindings settings label found

theorem logicalLine_eq (p : Processor) (settings : Settings) (text : List Char)
    (location : String) :
    p.logicalLine settings text location = match Entry.of? text location with
      | none => (p.unseparated, labelFindings settings text)
      | some e => ((p.unseparated.entry settings e).1,
          labelFindings settings text ++ (p.unseparated.entry settings e).2) := by
  unfold logicalLine labelFindings
  cases hl : labelOf? text with
  | none => simp only [Entry.of?, hl, Option.bind_none, unseparated]
  | some label =>
    cases hd : Directive.find? label with
    | none => simp only [Entry.of?, hl, hd, Option.bind_some, Option.bind_none, unseparated]
    | some found => simp only [Entry.of?, hl, hd, Option.bind_some, unseparated]

theorem logicalLine_margin (p : Processor) (settings : Settings) (text : List Char)
    (location : String) :
    (p.logicalLine settings text location).1.stanza.margin = p.stanza.margin := by
  rw [logicalLine_eq]
  split
  · rfl
  · exact Stanza.after_margin _ _ _

theorem read_settled {p : Processor} (h : p.stanza.Settled) (line : Line) (location : String) :
    (p.read checks line location).1.stanza.Settled := by
  cases line with
  | closing => exact fun _ => rfl
  | comment text =>
    obtain ⟨source, title, lookup, hc⟩ :=
      { p with current := none, lastLineEmpty := false }.comment_stanza checks text
    simp only [read, hc]
    exact h
  | unfinished segment => exact fun hm => nomatch hm
  | complete text =>
    simp only [read, complete]
    split
    · exact Stanza.Settled.of_margin (fun _ => rfl) (logicalLine_margin _ _ _ _)
    · exact h.of_margin (logicalLine_margin _ _ _ _)

theorem step_settled {p : Processor} (h : p.stanza.Settled) (line location : String) :
    (p.step checks line location).1.stanza.Settled := read_settled h _ _

end Processor

namespace Progress

variable {checks : Checks}

theorem run_cons (s : Progress) (checks : Checks) (action : Action) (rest : List Action) :
    s.run checks (action :: rest) =
      (((s.perform checks action).1.run checks rest).1,
        (s.perform checks action).2 :: ((s.perform checks action).1.run checks rest).2) := rfl

theorem run_append (s : Progress) (checks : Checks) (first second : List Action) :
    s.run checks (first ++ second) =
      (((s.run checks first).1.run checks second).1,
        (s.run checks first).2 ++ ((s.run checks first).1.run checks second).2) := by
  induction first generalizing s with
  | nil => rfl
  | cons action rest ih => simp only [List.cons_append, run_cons, ih]

theorem run_length (s : Progress) (checks : Checks) (history : List Action) :
    (s.run checks history).2.length = history.length := by
  induction history generalizing s with
  | nil => rfl
  | cons action rest ih => simp only [run_cons, List.length_cons, ih]

/-- What holds of the start and is kept by every action holds after every history. -/
theorem run_invariant {P : Progress → Prop}
    (hp : ∀ s action, P s → P (s.perform checks action).1) {s : Progress} (hs : P s)
    (history : List Action) : P (s.run checks history).1 := by
  induction history generalizing s with
  | nil => exact hs
  | cons action rest ih =>
    rw [run_cons]
    exact ih (hp s action hs)

/-- The file that is read, as it would be set aside, and every file that waits. -/
def Files (P : Processor.Suspended → Prop) (s : Progress) : Prop :=
  P s.processor.suspend.1 ∧ ∀ file ∈ s.suspended, P file

theorem perform_files {P : Processor.Suspended → Prop} (h0 : P ⟨{}, false⟩)
    (hl : ∀ (p : Processor) line location, P p.suspend.1 →
      P (p.step checks line location).1.suspend.1)
    {s : Progress} (hs : s.Files P) (action : Action) : (s.perform checks action).1.Files P := by
  cases action with
  | line text location => exact ⟨hl s.processor text location hs.1, hs.2⟩
  | suspend =>
    refine ⟨h0, fun file hf => ?_⟩
    rcases List.mem_cons.mp hf with rfl | hf
    · exact hs.1
    · exact hs.2 file hf
  | resume =>
    obtain ⟨p, suspended⟩ := s
    cases suspended with
    | nil => exact hs
    | cons file rest =>
      exact ⟨hs.2 file (by simp), fun f hf => hs.2 f (List.mem_cons_of_mem _ hf)⟩

def Stanzas (P : Stanza → Prop) (s : Progress) : Prop :=
  P s.processor.stanza ∧ ∀ file ∈ s.suspended, P file.stanza

theorem perform_stanzas {P : Stanza → Prop} (h0 : P {})
    (hl : ∀ (p : Processor) line location, P p.stanza → P (p.step checks line location).1.stanza)
    {s : Progress} (hs : s.Stanzas P) (action : Action) :
    (s.perform checks action).1.Stanzas P :=
  perform_files (P := fun file => P file.stanza) h0 hl hs action

theorem run_settled (history : List Action) :
    (run {} checks history).1.Stanzas Stanza.Settled := by
  have h0 : Stanza.Settled {} := fun _ => rfl
  refine run_invariant (P := Stanzas Stanza.Settled) (fun s action hs => ?_) ⟨h0, ?_⟩ history
  · exact perform_stanzas h0 (fun p line location h => Processor.step_settled h line location)
      hs action
  · intro file hf
    cases hf

end Progress

end StanzaLint
