import Mathlib.Data.List.Induction
import StanzaLint.Proofs.Ledger

/-!
# Sections that are left open

An option stays open until its closer comes, and the two kinds of fences until
their end marks. Which sections a stanza leaves open is read off its lines: an
opener counts if no closer of it stands behind it, a fence if the last line of
its kind is no end mark. The state of the stanza agrees, so the line that closes
it reports exactly these (`closing_open_sections`).
-/

namespace StanzaLint

namespace Directive

theorem requiredCloser?_mem (h : requiredCloser? d = some closer) : (d, closer) ∈ optionPairs := by
  obtain ⟨before, after, he, -⟩ := List.lookup_eq_some_iff.mp h
  rw [he]
  simp

theorem isCloser_of_requiredCloser? (h : requiredCloser? d = some closer) :
    closer.isCloser = true :=
  List.any_eq_true.mpr ⟨(d, closer), requiredCloser?_mem h, beq_self_eq_true closer⟩

theorem not_isOpener_of_isCloser (h : isCloser d = true) : d.isOpener = false := by
  have hall : ∀ pair ∈ optionPairs, isOpener pair.2 = false := by decide
  obtain ⟨pair, hp, he⟩ := List.any_eq_true.mp h
  rw [← eq_of_beq he]
  exact hall pair hp

def unclosed : List Directive → List Directive
  | [] => []
  | d :: rest => match d.requiredCloser? with
    | some closer => if closer ∈ rest then unclosed rest else d :: unclosed rest
    | none => unclosed rest

theorem unclosed_requiredCloser? (h : d ∈ unclosed ds) : ∃ closer, d.requiredCloser? = some closer := by
  induction ds with
  | nil => cases h
  | cons first rest ih =>
    unfold unclosed at h
    split at h
    next closer hc =>
      split at h
      · exact ih h
      · rcases List.mem_cons.mp h with rfl | h
        · exact ⟨closer, hc⟩
        · exact ih h
    next => exact ih h

theorem unclosed_concat (ds : List Directive) (d : Directive) :
    unclosed (ds ++ [d]) =
      if d.isOpener then unclosed ds ++ [d]
      else if d.isCloser then (unclosed ds).filter (·.requiredCloser? != some d)
      else unclosed ds := by
  induction ds with
  | nil =>
    cases hc : d.requiredCloser? <;> simp [unclosed, isOpener, hc]
  | cons first rest ih =>
    cases hc : first.requiredCloser? with
    | none => simp only [List.cons_append, unclosed, hc, ih]
    | some closer =>
      have hcloser := isCloser_of_requiredCloser? hc
      simp only [List.cons_append, unclosed, hc, ih, List.mem_append, List.mem_singleton]
      by_cases hd : closer = d
      · -- the new line closes the first one, unless an earlier line has
        subst hd
        simp only [not_isOpener_of_isCloser hcloser, hcloser]
        by_cases hm : closer ∈ rest <;> simp [hm, hc]
      · -- the new line is no matter to the first one
        by_cases hm : closer ∈ rest
        · simp [hm]
        · by_cases ho : d.isOpener = true
          · simp [hm, hd, ho]
          · by_cases hk : d.isCloser = true <;> simp [hm, hd, ho, hk, hc]

end Directive

theorem Diagnostic.message_unclosedOption {opener closer : Directive}
    (h : opener.requiredCloser? = some closer) (title : String) :
    (unclosedOption title opener).message =
      "Stanza " ++ Text.quote title ++ " has " ++ Text.quote opener.label ++
        " but doesn't have a corresponding " ++ Text.quote closer.label ++
        " line at the end of the stanza" := by
  have hl : Directive.labelOf opener.requiredCloser? = closer.label := by
    rw [h]
    rfl
  rw [← hl]
  rfl

namespace Entry

def last? (d : Directive) (h : List Entry) : Option Entry :=
  (h.filter (·.directive == d)).getLast?

theorem last?_concat (d : Directive) (h : List Entry) (e : Entry) :
    last? d (h ++ [e]) = if e.directive = d then some e else last? d h := by
  unfold last?
  by_cases hd : e.directive = d <;> simp [List.filter_append, hd]

def anonymousUrlOpen (h : List Entry) : Bool := (last? .anonymousURL h).any (·.payload ≠ "-*")

def userHeaderOpen (h : List Entry) : Bool := (last? .addUserHeader h).any (·.payload ≠ "")

end Entry

-- ---------------------------------------------------------------------------
-- The sections of a stanza
-- ---------------------------------------------------------------------------

structure Sections where
  options : List Directive
  anonymousUrl : Bool
  userHeader : Bool

def Sections.of (h : List Entry) : Sections :=
  ⟨Directive.unclosed (h.map Entry.directive), Entry.anonymousUrlOpen h, Entry.userHeaderOpen h⟩

namespace Stanza

variable (s : Stanza)

def sections : Sections := ⟨s.openOptions, s.anonymousUrlOpen, s.userHeaderOpen⟩

theorem withTitle_sections (title : String) : (s.withTitle title).sections = s.sections := by
  unfold withTitle
  split <;> rfl

theorem withUrl_sections (value location : String) :
    (s.withUrl value location).sections = s.sections := by
  have ho : ∀ (t : Stanza) (origin : String),
      (t.withOrigin origin location).sections = t.sections := by
    intro t origin
    unfold withOrigin
    split <;> rfl
  have hs : (if s.url = "" then { s with url := value } else s).sections = s.sections := by
    split <;> rfl
  unfold withUrl
  dsimp only
  rw [← hs]
  split
  · exact ho _ _
  · rfl

theorem withHost_sections (payload location : String) :
    (s.withHost payload location).sections = s.sections := by
  unfold withHost
  split <;> rfl

theorem withHostnameEdit_sections (settings : Settings) (payload : String) :
    (s.withHostnameEdit settings payload).sections = s.sections := by
  unfold withHostnameEdit
  split
  · dsimp only
    split <;> rfl
  · rfl

theorem withValue_sections (settings : Settings) (e : Entry) :
    (s.withValue settings e).sections =
      ⟨s.openOptions,
        if e.directive = .anonymousURL then e.payload ≠ "-*" else s.anonymousUrlOpen,
        if e.directive = .addUserHeader then e.payload ≠ "" else s.userHeaderOpen⟩ := by
  unfold withValue
  split
  next hd =>
    rw [withHostnameEdit_sections, hd]
    rfl
  next hd => simp [sections, hd]
  next hd => simp [sections, hd]
  next hd =>
    rw [withTitle_sections, hd]
    rfl
  next hd =>
    rw [hd]
    rfl
  next hd =>
    rw [withUrl_sections, hd]
    rfl
  next hd =>
    rw [withHost_sections, hd]
    rfl
  next hd =>
    rw [withHost_sections, hd]
    rfl
  next _ hu ha _ _ _ _ _ => rw [if_neg ha, if_neg hu, sections]

theorem withOption_sections (d : Directive) :
    (s.withOption d).sections =
      { s.sections with options :=
        if d.isOpener then s.openOptions ++ [d]
        else if d.isCloser then s.openOptions.filter (·.requiredCloser? != some d)
        else s.openOptions } := by
  unfold withOption
  split
  · rfl
  · split <;> rfl

theorem after_openOptions (settings : Settings) (e : Entry) :
    (s.after settings e).openOptions =
      if e.directive.isOpener then s.openOptions ++ [e.directive]
      else if e.directive.isCloser then
        s.openOptions.filter (·.requiredCloser? != some e.directive)
      else s.openOptions := by
  have hv := congrArg Sections.options
    ((s.withOption e.directive).withValue_sections settings e)
  have ho := congrArg Sections.options (s.withOption_sections e.directive)
  exact hv.trans ho

/-- A line that names a directive does to the open sections what it does to those of the lines
before it. -/
theorem after_sections {h : List Entry} (hs : s.sections = Sections.of h) (settings : Settings)
    (e : Entry) : (s.after settings e).sections = Sections.of (h ++ [e]) := by
  have ha : (s.after settings e).sections = ((s.withOption e.directive).withValue settings e).sections :=
    rfl
  have ho := s.withOption_sections e.directive
  simp only [sections, Sections.of, Sections.mk.injEq] at hs ho
  -- `unclosed` takes one more line as the stanza does
  rw [ha, withValue_sections, ho.1, ho.2.1, ho.2.2, hs.1, hs.2.1, hs.2.2]
  simp only [Sections.of, List.map_append, List.map_cons, List.map_nil, Directive.unclosed_concat,
    Entry.anonymousUrlOpen, Entry.userHeaderOpen, Entry.last?_concat, Sections.mk.injEq, true_and]
  constructor
  · by_cases hd : e.directive = .anonymousURL
    · rw [if_pos hd, if_pos hd, Option.any_some]
    · rw [if_neg hd, if_neg hd]
  · by_cases hd : e.directive = .addUserHeader
    · rw [if_pos hd, if_pos hd, Option.any_some]
    · rw [if_neg hd, if_neg hd]

theorem written_sections (settings : Settings) (sheet : Sheet) :
    (written settings sheet.lines).sections = Sections.of sheet.entries := by
  obtain ⟨lines, pending⟩ := sheet
  simp only [Sheet.entries]
  induction lines using List.reverseRecOn with
  | nil => rfl
  | append_singleton lines l ih =>
    rw [written_concat, List.filterMap_append, logical, List.filterMap_cons, List.filterMap_nil]
    cases Entry.of? l.1 l.2 with
    | none =>
      rw [List.append_nil]
      exact ih
    | some e => exact { written settings lines with isSeparator := false }.after_sections ih settings e

end Stanza

namespace Progress

open Directive (unclosed)

/-- What a stanza has open is judged by its lines alone, whatever findings they gave and whatever
stands between them. The line that closes it says so: first of the header fence, then of the
`AnonymousURL` fence, then of each opener in its order. -/
theorem closing_open_sections (checks : Checks) (history : List Action) :
    let p := (run {} checks history).1.processor
    let title := p.stanza.title
    let h := (Ledger.of history).sheet.entries
    p.stanza.openOptions = unclosed (h.map Entry.directive) ∧
      p.stanza.anonymousUrlOpen = Entry.anonymousUrlOpen h ∧
      p.stanza.userHeaderOpen = Entry.userHeaderOpen h ∧
      (∀ line location, Text.trim line.toList = [] ∨ Text.trim line.toList = ['#'] →
        ∃ lone, (lone = [] ∨ lone = [.titleWithoutUrl title]) ∧
          (p.step checks line location).2 =
            Processor.blankFindings checks.settings line ++ lone ++
              (if Entry.userHeaderOpen h then [.unclosedUserHeader title] else []) ++
              (if Entry.anonymousUrlOpen h then [.unclosedAnonymousUrl title] else []) ++
              (unclosed (h.map Entry.directive)).map (.unclosedOption title)) ∧
      (Diagnostic.unclosedUserHeader title).code.text = "L4005" ∧
      (Diagnostic.unclosedAnonymousUrl title).code.text = "L4001" ∧
      ∀ opener ∈ unclosed (h.map Entry.directive), ∃ closer,
        opener.requiredCloser? = some closer ∧
          (Diagnostic.unclosedOption title opener).code.text = "L4002" ∧
          (Diagnostic.unclosedOption title opener).message =
            "Stanza " ++ Text.quote title ++ " has " ++ Text.quote opener.label ++
              " but doesn't have a corresponding " ++ Text.quote closer.label ++
              " line at the end of the stanza" := by
  intro p title h
  have hs : p.stanza.sections = Sections.of h := by
    rw [← Stanza.written_sections checks.settings, ← (run_told checks history).current.plain]
    rfl
  simp only [Stanza.sections, Sections.of, Sections.mk.injEq] at hs
  obtain ⟨ho, ha, hu⟩ := hs
  refine ⟨ho, ha, hu, fun line location hl => ?_, rfl, rfl, fun opener hm => ?_⟩
  · refine ⟨if title ≠ "" ∧ p.stanza.url = "" ∧ ¬p.stanza.isSeparator then
      [.titleWithoutUrl title] else [], ?_, ?_⟩
    · split
      · exact .inr rfl
      · exact .inl rfl
    · have hr : Line.read line = .closing := by rw [Line.read, Line.ofText, if_pos hl]
      rw [Processor.step_eq, hr]
      simp only [Processor.read, Processor.close, Stanza.closingFindings, ho, ha, hu,
        List.append_assoc, title]
  · obtain ⟨closer, hc⟩ := Directive.unclosed_requiredCloser? hm
    exact ⟨closer, hc, rfl, Diagnostic.message_unclosedOption hc title⟩

/-- Repeated and nested openers, one of them over two lines, a file in between, and fences. -/
def nested : List Action := [
  .line "Title A" "f:1",
  .line "Option DomainCookieOnly" "f:2",
  .line "Option HideEZproxy" "f:3",
  .line "Option NoCookie" "f:4",
  .line "Option Cookie" "f:5",
  .line "Option \\" "f:6",
  .suspend,
  .line "Option UTF16" "g:1",
  .resume,
  .line "# note" "f:7",
  .line "NoCookie" "f:8",
  .line "AnonymousURL -*" "f:9",
  .line "AnonymousURL +a" "f:10",
  .line "AddUserHeader B" "f:11",
  .line "AddUserHeader" "f:12"]

theorem closing_open_sections_nested :
    let checks : Checks := ⟨{ whitespace := true }, .pages fun _ => .ok none⟩
    let h := (Ledger.of nested).sheet.entries
    (unclosed (h.map Entry.directive) = [.optionHideEZproxy, .optionNoCookie] ∧
      Entry.anonymousUrlOpen h = true ∧ Entry.userHeaderOpen h = false) ∧
      ∃ lone, (lone = [] ∨ lone = [.titleWithoutUrl "A"]) ∧
        ((run {} checks nested).1.processor.step checks "# " "f:13").2 =
          [.trailingBlank] ++ lone ++ [] ++ [.unclosedAnonymousUrl "A"] ++
            [.unclosedOption "A" .optionHideEZproxy, .unclosedOption "A" .optionNoCookie] := by
  have hh : (let h := (Ledger.of nested).sheet.entries
      unclosed (h.map Entry.directive) = [.optionHideEZproxy, .optionNoCookie] ∧
        Entry.anonymousUrlOpen h = true ∧ Entry.userHeaderOpen h = false) := by decide +kernel
  have ht : (run {} ⟨{ whitespace := true }, .pages fun _ => .ok none⟩ nested).1.processor.stanza.title =
      "A" := by decide +kernel
  have hc := (closing_open_sections ⟨{ whitespace := true }, .pages fun _ => .ok none⟩ nested).2.2.2.1
    "# " "f:13" (.inr (by decide +kernel))
  refine ⟨hh, ?_⟩
  rw [ht, hh.1, hh.2.1, hh.2.2] at hc
  exact hc

end Progress

end StanzaLint
