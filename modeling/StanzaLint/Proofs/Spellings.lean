import StanzaLint.Proofs.Casing
import StanzaLint.Proofs.Findings
import StanzaLint.Proofs.Trimming

/-!
# The spelling of a label

A label is looked up in a table, cut off from its line, and read once more on lines with
a starting point. All three take every spelling of a directive alike: what a line does is
the same for all of them, apart from the label that is kept of it and from one finding
about its letter case.
-/

namespace StanzaLint

open Text
open UrlLine (fold)
open Directive (Names)

-- ---------------------------------------------------------------------------
-- Lines that start with a label
-- ---------------------------------------------------------------------------

def Text.IsRest (cs : List Char) : Prop := cs = [] ∨ cs.head? = some ' '

theorem Text.IsRest.cases {cs : List Char} (h : IsRest cs) : cs = [] ∨ ∃ rest, cs = ' ' :: rest := by
  rcases h with h | h
  · exact .inl h
  · cases cs with
    | nil => cases h
    | cons c rest =>
      cases h
      exact .inr ⟨rest, rfl⟩

theorem Text.IsRest.trimEnd {cs : List Char} (h : IsRest cs) : IsRest (trimEnd cs) := by
  have hkept : Text.trimEnd cs <+: cs := List.rdropWhile_prefix isBlank cs
  obtain ⟨dropped, hcs⟩ := hkept
  cases ht : Text.trimEnd cs with
  | nil => exact .inl rfl
  | cons c kept =>
    rw [ht] at hcs
    rcases h with rfl | h
    · cases hcs
    · rw [← hcs] at h
      exact .inr h

namespace Directive.Names

variable {label : String} {d : Directive} {rest : List Char}

theorem head (h : Names label d) (hc : label.toList.head? = some c) :
    isBlank c = false ∧ c ≠ '#' := by
  have hmem : c ∈ label.toList := List.mem_of_mem_head? hc
  refine ⟨?_, (h.ne_sign hmem).1⟩
  by_contra hb
  have hspace := h.eq_space hmem (by simpa using hb)
  exact h.head_ne_space (hspace ▸ hc)

theorem getLast (h : Names label d) (hc : label.toList.getLast? = some c) :
    isBlank c = false ∧ c ≠ '\\' := by
  have hmem : c ∈ label.toList := List.mem_of_getLast? hc
  refine ⟨?_, (h.ne_sign hmem).2⟩
  by_contra hb
  have hspace := h.eq_space hmem (by simpa using hb)
  exact h.getLast_ne_space (hspace ▸ hc)

theorem trim_append (h : Names label d) (rest : List Char) :
    trim (label.toList ++ rest) = label.toList ++ trimEnd rest := by
  have hstart : trimStart (label.toList ++ rest) = label.toList ++ rest := by
    obtain ⟨c, cs, hl⟩ := List.exists_cons_of_ne_nil h.ne_nil
    have hc : isBlank c = false := (h.head (by rw [hl]; rfl)).1
    rw [hl, List.cons_append, trimStart, List.dropWhile_cons, hc]
    rfl
  rw [trim, hstart, trimEnd_append fun c hc => (h.getLast hc).1]

/-- A line that starts with a label is complete, unless what follows leaves it unfinished. -/
theorem read (h : Names label d) {rest : String} (hr : (trimEnd rest.toList).getLast? ≠ some '\\') :
    Line.read (label ++ rest) = .complete (label.toList ++ trimEnd rest.toList) := by
  obtain ⟨c, cs, hl⟩ := List.exists_cons_of_ne_nil h.ne_nil
  have hc : c ≠ '#' := (h.head (by rw [hl]; rfl)).2
  have hlast : (label.toList ++ trimEnd rest.toList).getLast? ≠ some '\\' := by
    rw [List.getLast?_append]
    intro he
    rcases Option.or_eq_some_iff.mp he with he | ⟨-, he⟩
    · exact hr he
    · exact (h.getLast he).2 rfl
  rw [Line.read, String.toList_append, h.trim_append, Line.ofText, dropSuffix?_singleton,
    if_neg hlast]
  rw [if_neg (by simp [hl, hc]), if_neg (by simp [hl, hc])]

theorem endsInBlank (h : Names label d) (rest : String) :
    Line.endsInBlank (label ++ rest) = Line.endsInBlank rest := by
  unfold Line.endsInBlank
  rw [String.toList_append, List.getLast?_append]
  cases hr : rest.toList.getLast? with
  | some c => rfl
  | none =>
    cases hl : label.toList.getLast? with
    | none => rfl
    | some c =>
      have hb := (h.getLast hl).1
      have hblank : c ≠ ' ' ∧ c ≠ '\t' := by
        constructor <;> rintro rfl <;> cases hb
      simp [hblank]

theorem labelOf?_append (h : Names label d) (hd : d.isOption = false) (hr : IsRest rest) :
    labelOf? (label.toList ++ rest) = some label := by
  have hspace := h.not_mem_space hd
  have hfirst : ∃ more, split ' ' (label.toList ++ rest) = label.toList :: more := by
    rcases hr.cases with rfl | ⟨more, rfl⟩
    · rw [List.append_nil, split_of_not_mem hspace]
      exact ⟨[], rfl⟩
    · rw [split_append_cons, split_of_not_mem hspace]
      exact ⟨split ' ' more, rfl⟩
  obtain ⟨more, hsplit⟩ := hfirst
  have hoption : label.toList ≠ "Option".toList := h.ne_option
  simp only [labelOf?, hsplit, if_neg hoption, String.ofList_toList]

end Directive.Names

-- ---------------------------------------------------------------------------
-- The three readings of a label
-- ---------------------------------------------------------------------------

/-- What is said about a label that names the directive in another letter case. -/
def Directive.caseFinding (settings : Settings) (label : String) (d : Directive) :
    List Diagnostic :=
  if settings.directiveCase ∧ label ∉ spellings.map Prod.fst then [.wrongCase label d] else []

theorem Processor.caseFindings_eq {label : String} {found : Directive.Match} (settings : Settings)
    (h : Directive.find? label = some found) :
    caseFindings settings label found = found.directive.caseFinding settings label := by
  unfold Directive.find? at h
  cases hl : Directive.spellings.lookup label with
  | some d =>
    rw [hl] at h
    cases h
    obtain ⟨before, after, hs, -⟩ := List.lookup_eq_some_iff.mp hl
    have hmem : label ∈ Directive.spellings.map Prod.fst := by simp [hs]
    rw [Directive.caseFinding, if_neg fun h => h.2 hmem]
    rfl
  | none =>
    rw [hl] at h
    obtain ⟨d, -, rfl⟩ := Option.map_eq_some_iff.mp h
    have hmem : label ∉ Directive.spellings.map Prod.fst := by
      intro hmem
      obtain ⟨s, hs, rfl⟩ := List.mem_map.mp hmem
      exact bne_iff_ne.mp (List.lookup_eq_none_iff.mp hl s hs) rfl
    simp only [caseFindings, Directive.caseFinding, hmem, not_false_eq_true, and_true]
    rfl

theorem Entry.payloadOf_append (label rest : List Char) :
    payloadOf label (label ++ rest) = trim rest := by
  rw [payloadOf, dropPrefix?_eq_some_iff.mpr rfl, Option.getD_some]

namespace UrlLine

theorem readWord?_append {label word : List Char} (h : label.map fold = word) (rest : List Char) :
    readWord? word (label ++ rest) = some rest := by
  subst h
  induction label with
  | nil => cases rest <;> rfl
  | cons c label ih => simpa [readWord?] using ih

/-- Both labels of a starting point are read to their end, so only what follows counts. -/
theorem readLabel_append {label : String} (h : Names label .url) {rest : List Char}
    (hr : IsRest rest) :
    readLabel (label.toList ++ rest) = if rest = [] then [] else [trimStart rest] := by
  have hspace : fold ' ' = ' ' := by decide
  have hrest : (if rest.head?.any isBlank then some (trimStart rest) else none) =
      if rest = [] then none else some (trimStart rest) := by
    rcases hr.cases with rfl | ⟨more, rfl⟩ <;> rfl
  rcases h.url with hu | hu
  · obtain ⟨c, cs, hl, hc, hcs⟩ := List.map_eq_cons_iff.mp hu
    cases List.map_eq_nil_iff.mp hcs
    have hshort : readWord? "u".toList (label.toList ++ rest) = some rest :=
      readWord?_append hu rest
    have hlong : readWord? "url".toList (label.toList ++ rest) = none := by
      rw [hl]
      rcases hr.cases with rfl | ⟨more, rfl⟩ <;> simp [readWord?, hc, hspace]
    simp only [readLabel, List.filterMap_cons, List.filterMap_nil, hshort, hlong,
      Option.bind_eq_bind, Option.bind_some, Option.bind_none, hrest]
    by_cases hnil : rest = [] <;> simp [hnil]
  · obtain ⟨c, cs, hl, hc, hcs⟩ := List.map_eq_cons_iff.mp hu
    obtain ⟨second, third, rfl, hsecond, -⟩ := List.map_eq_cons_iff.mp hcs
    have hlong : readWord? "url".toList (label.toList ++ rest) = some rest :=
      readWord?_append hu rest
    have hshort : readWord? "u".toList (label.toList ++ rest) = some (second :: third ++ rest) := by
      simp [hl, readWord?, hc]
    -- the short label would have to be followed by a blank
    have hblank : isBlank second = false := by
      by_contra hb
      have hs := h.eq_space (by simp [hl]) (show isBlank second = true by simpa using hb)
      rw [hs, hspace] at hsecond
      exact absurd hsecond (by decide)
    simp only [readLabel, List.filterMap_cons, List.filterMap_nil, hshort, hlong,
      Option.bind_eq_bind, Option.bind_some, hrest, List.cons_append, List.head?_cons,
      Option.any_some, hblank, Bool.false_eq_true, if_false]
    by_cases hnil : rest = [] <;> simp [hnil]

end UrlLine

/-- Two lines with one directive, of which all but the label is the same. -/
structure Entry.Respelled (e f : Entry) : Prop where
  directive : f.directive = e.directive
  payload : f.payload = e.payload
  location : f.location = e.location
  address : e.directive = .url →
    UrlLine.find? (String.ofList f.text) = UrlLine.find? (String.ofList e.text)

def Processor.withLabel (label : String) (p : Processor) : Processor :=
  { p with stanza := { p.stanza with label } }

namespace Entry.Respelled

variable {e f : Entry} (h : e.Respelled f)
include h

theorem withValue (s : Stanza) (settings : Settings) :
    s.withValue settings f = s.withValue settings e := by
  unfold Stanza.withValue
  rw [h.directive, h.payload, h.location]
  by_cases hd : e.directive = .url
  · simp only [hd, h.address hd]
  · split <;> first | contradiction | rfl

theorem valueFindings (p : Processor) (settings : Settings) :
    p.valueFindings settings f = p.valueFindings settings e := by
  by_cases hd : e.directive = .url
  · have hf : f.directive = .url := h.directive.trans hd
    rw [p.valueFindings_url settings hd, p.valueFindings_url settings hf]
    simp only [Processor.urlFindings, h.address hd]
  · unfold Processor.valueFindings
    rw [h.directive, h.payload]
    split <;> first | contradiction | rfl

theorem entry (p : Processor) (settings : Settings) :
    p.entry settings f = ((p.entry settings e).1.withLabel f.label, (p.entry settings e).2) := by
  unfold Processor.entry
  rw [h.valueFindings, h.directive, h.payload, h.location]
  unfold Stanza.after
  rw [h.withValue, h.directive]
  rfl

end Entry.Respelled

/-- Before the same rest of a line, two labels of one directive are two spellings of it. -/
theorem Directive.Names.respelled {a b : String} (ha : Names a d) (hb : Names b d)
    {rest : List Char} (hr : IsRest rest) (place : String) :
    Entry.Respelled ⟨d, a, a.toList ++ rest, place⟩ ⟨d, b, b.toList ++ rest, place⟩ where
  directive := rfl
  payload := by simp only [Entry.payload, Entry.payloadOf_append]
  location := rfl
  address hd := by
    cases hd
    simp only [UrlLine.find?, String.toList_ofList, UrlLine.readLabel_append ha hr,
      UrlLine.readLabel_append hb hr]

-- ---------------------------------------------------------------------------
-- Lines
-- ---------------------------------------------------------------------------

theorem Diagnostic.AllOf.code_ne {ds : List Diagnostic} (h : AllOf (· != c) ds) :
    ∀ x ∈ ds, x.code ≠ c := fun x hx => bne_iff_ne.mp (h x hx)

namespace Processor

variable {p : Processor} {d : Directive} {rest : String}

/-- As a logical line finds it that is not the end of others. -/
def ready (p : Processor) : Processor := { p with current := none, lastLineEmpty := false }.unseparated

theorem blankFindings_append {label : String} (h : Names label d) (settings : Settings)
    (rest : String) : blankFindings settings (label ++ rest) = blankFindings settings rest := by
  rw [blankFindings, blankFindings, h.endsInBlank]

theorem step_complete {label : String} (h : Names label d) (hp : p.stanza.inMultiline = false)
    (hr : (trimEnd rest.toList).getLast? ≠ some '\\') (checks : Checks) (place : String) :
    p.step checks (label ++ rest) place =
      let result := { p with current := none, lastLineEmpty := false }.logicalLine checks.settings
        (label.toList ++ trimEnd rest.toList) place
      (result.1, blankFindings checks.settings rest ++ result.2) := by
  rw [step_eq, h.read hr, blankFindings_append h]
  simp only [read, complete, hp, Bool.false_eq_true, if_false]

theorem step_labelled {label : String} (h : Names label d) (hp : p.stanza.inMultiline = false)
    (hr : (trimEnd rest.toList).getLast? ≠ some '\\')
    (hl : labelOf? (label.toList ++ trimEnd rest.toList) = some label) (checks : Checks)
    (place : String) :
    p.step checks (label ++ rest) place =
      let result := p.ready.entry checks.settings
        ⟨d, label, label.toList ++ trimEnd rest.toList, place⟩
      (result.1, blankFindings checks.settings rest ++ d.caseFinding checks.settings label ++
        result.2) := by
  obtain ⟨found, hfound, rfl⟩ := Option.map_eq_some_iff.mp h
  have hentry : Entry.of? (label.toList ++ trimEnd rest.toList) place =
      some ⟨found.directive, label, label.toList ++ trimEnd rest.toList, place⟩ := by
    simp only [Entry.of?, hl, hfound, Option.bind_some]
  have hlabel : labelFindings checks.settings (label.toList ++ trimEnd rest.toList) =
      found.directive.caseFinding checks.settings label := by
    simp only [labelFindings, hl, hfound, caseFindings_eq checks.settings hfound]
  rw [step_complete h hp hr, logicalLine_eq, hentry]
  simp only [hlabel, List.append_assoc]
  rfl

theorem entry_allOf (p : Processor) (settings : Settings) (e : Entry) :
    Diagnostic.AllOf (· != .wrongCase) (p.entry settings e).2 := by
  refine .append (.append ?_ ?_) fun x hx => ?_
  · exact p.stanza.findFindings_allOf rfl e.directive
  · exact p.stanza.orderFindings_allOf (fun place => by cases place <;> rfl) e.directive e.payload
  · have hfor := p.valueFindings_isFor settings e x hx
    cases hc : x.code with
    | wrongCase =>
      rw [hc] at hfor
      cases hfor
    | _ => rfl

theorem step_spelled (labels : String → Prop)
    (hlabels : ∀ label, labels label → Names label d ∧
      labelOf? (label.toList ++ trimEnd rest.toList) = some label)
    (hp : p.stanza.inMultiline = false) (hrest : IsRest rest.toList)
    (hr : (trimEnd rest.toList).getLast? ≠ some '\\') (checks : Checks) (place : String) :
    ∃ (q : Processor) (before after : List Diagnostic),
      (∀ x ∈ before ++ after, x.code ≠ .wrongCase) ∧
      ∀ label, labels label → p.step checks (label ++ rest) place =
        (q.withLabel label, before ++ d.caseFinding checks.settings label ++ after) := by
  by_cases hany : ∃ first, labels first
  · obtain ⟨first, hfirst⟩ := hany
    have hnames := (hlabels first hfirst).1
    let e : Entry := ⟨d, first, first.toList ++ trimEnd rest.toList, place⟩
    refine ⟨(p.ready.entry checks.settings e).1, blankFindings checks.settings rest,
      (p.ready.entry checks.settings e).2, ?_, fun label hlabel => ?_⟩
    · exact ((blankFindings_allOf rfl checks.settings rest).append
        (p.ready.entry_allOf checks.settings e)).code_ne
    · obtain ⟨hn, hl⟩ := hlabels label hlabel
      have hsame := (hnames.respelled hn hrest.trimEnd place).entry p.ready checks.settings
      rw [step_labelled hn hp hr hl]
      simp only [hsame]
      rfl
  · exact ⟨p, [], [], by simp, fun label hlabel => absurd ⟨label, hlabel⟩ hany⟩

/-- An option is named by its two words, and a third one is too much. -/
theorem labelOf?_option {word rest : List Char} (hw : ' ' ∉ word) (hr : IsRest rest) :
    labelOf? ("Option ".toList ++ word ++ rest) =
      if rest = [] then some (String.ofList ("Option ".toList ++ word)) else none := by
  have hfirst : ∀ cs, split ' ' ("Option ".toList ++ cs) = "Option".toList :: split ' ' cs :=
    fun cs => split_append_cons ' ' "Option".toList cs
  unfold labelOf?
  rcases hr.cases with rfl | ⟨more, rfl⟩
  · rw [List.append_nil, hfirst, split_of_not_mem hw]
    rfl
  · rw [List.append_assoc, hfirst, split_append_cons, split_of_not_mem hw]
    have hlength : ([word] ++ split ' ' more).length ≠ 1 := by simp [split_ne_nil]
    simp only [if_true, if_neg hlength, reduceCtorEq, if_false]

theorem step_malformed {label : String} (h : Names label d) (hp : p.stanza.inMultiline = false)
    (hr : (trimEnd rest.toList).getLast? ≠ some '\\')
    (hl : labelOf? (label.toList ++ trimEnd rest.toList) = none) (checks : Checks)
    (place : String) :
    p.step checks (label ++ rest) place =
      (p.ready, blankFindings checks.settings rest ++ [.malformedOption]) := by
  have hentry : Entry.of? (label.toList ++ trimEnd rest.toList) place = none := by
    simp only [Entry.of?, hl, Option.bind_none]
  rw [step_complete h hp hr, logicalLine_eq, hentry]
  simp only [labelFindings, hl]
  rfl

/-- The spelling of a label does not matter. Whichever label of a directive a line starts with, the
same follows from it, but for the label that is kept and for one finding about its letter case, if
such are asked for and the label is not one of the spellings of the directive. The same holds of
the second word of an option; a line with a third word is malformed however the second one is
spelled. -/
theorem spelling_indifferent (checks : Checks) (p : Processor) (hp : p.stanza.inMultiline = false)
    (rest : String) (hrest : rest = "" ∨ rest.toList.head? = some ' ')
    (hend : (trimEnd rest.toList).getLast? ≠ some '\\') (place : String) (d : Directive) :
    (d.isOption = false → ∃ (q : Processor) (before after : List Diagnostic),
      (∀ x ∈ before ++ after, x.code ≠ .wrongCase) ∧
      ∀ label, Names label d → p.step checks (label ++ rest) place =
        (q.withLabel label, before ++ d.caseFinding checks.settings label ++ after)) ∧
    ∃ (q : Processor) (before after : List Diagnostic),
      (∀ x ∈ before ++ after, x.code ≠ .wrongCase) ∧
      ∀ word, ' ' ∉ word.toList → Names ("Option " ++ word) d →
        p.step checks ("Option " ++ word ++ rest) place =
          if trimEnd rest.toList = [] then (q.withLabel ("Option " ++ word),
            before ++ d.caseFinding checks.settings ("Option " ++ word) ++ after)
          else (q, before ++ after) := by
  have hrest : IsRest rest.toList := hrest.imp_left fun h => by rw [h]; rfl
  refine ⟨fun hd => ?_, ?_⟩
  · refine step_spelled (Names · d) (fun label h => ⟨h, ?_⟩) hp hrest hend checks place
    exact h.labelOf?_append hd hrest.trimEnd
  · have hoption : ∀ word : String, ' ' ∉ word.toList →
        labelOf? (("Option " ++ word).toList ++ trimEnd rest.toList) =
          if trimEnd rest.toList = [] then some ("Option " ++ word) else none := by
      intro word hw
      rw [String.toList_append, labelOf?_option hw hrest.trimEnd, ← String.toList_append,
        String.ofList_toList]
    by_cases hblank : trimEnd rest.toList = []
    · simp only [if_pos hblank] at hoption ⊢
      have hlabels : ∀ label, (Names label d ∧ ∃ word, ' ' ∉ word.toList ∧ label = "Option " ++ word) →
          Names label d ∧ labelOf? (label.toList ++ trimEnd rest.toList) = some label := by
        rintro label ⟨hn, word, hw, rfl⟩
        exact ⟨hn, hoption word hw⟩
      obtain ⟨q, before, after, hcodes, hsteps⟩ :=
        step_spelled _ hlabels hp hrest hend checks place
      exact ⟨q, before, after, hcodes, fun word hw hn => hsteps _ ⟨hn, word, hw, rfl⟩⟩
    · simp only [if_neg hblank] at hoption ⊢
      refine ⟨p.ready, blankFindings checks.settings rest, [.malformedOption], ?_,
        fun word hw hn => step_malformed hn hp hend (hoption word hw) checks place⟩
      have hall : Diagnostic.AllOf (· != .wrongCase) (blankFindings checks.settings rest ++
          [.malformedOption]) := (blankFindings_allOf rfl checks.settings rest).append (.singleton rfl)
      exact hall.code_ne

def caseChecks : Checks := ⟨{ directiveCase := true }, .pages fun _ => .ok none⟩

theorem spelling_indifferent_header :
    Names "AddUserHeader" .addUserHeader ∧ Names "addUserHeader" .addUserHeader ∧
    (∃ (q : Processor) (before after : List Diagnostic),
      (∀ x ∈ before ++ after, x.code ≠ .wrongCase) ∧
      step {} caseChecks ("AddUserHeader" ++ " X-User ") "a:1" =
        (q.withLabel "AddUserHeader", before ++ [] ++ after) ∧
      step {} caseChecks ("addUserHeader" ++ " X-User ") "a:1" =
        (q.withLabel "addUserHeader",
          before ++ [.wrongCase "addUserHeader" .addUserHeader] ++ after)) ∧
    Names ("Option " ++ "AcceptX-Forwarded-For") .optionAcceptXForwardedFor ∧
    ∃ (q : Processor) (before after : List Diagnostic),
      (∀ x ∈ before ++ after, x.code ≠ .wrongCase) ∧
      step {} caseChecks ("Option " ++ "AcceptX-Forwarded-For" ++ "") "a:1" =
        (q.withLabel ("Option " ++ "AcceptX-Forwarded-For"), before ++ [] ++ after) := by
  have hexact : Names "AddUserHeader" .addUserHeader := by decide +kernel
  have hother : Names "addUserHeader" .addUserHeader := by decide +kernel
  have hoption : Names ("Option " ++ "AcceptX-Forwarded-For") .optionAcceptXForwardedFor := by
    decide +kernel
  refine ⟨hexact, hother, ?_, hoption, ?_⟩
  · have hd : Directive.isOption .addUserHeader = false := by decide +kernel
    obtain ⟨q, before, after, hcodes, hsteps⟩ := (spelling_indifferent caseChecks {} rfl " X-User "
      (.inr (by decide)) (by decide) "a:1" .addUserHeader).1 hd
    have hnone : Directive.caseFinding caseChecks.settings "AddUserHeader" .addUserHeader = [] := by
      decide +kernel
    have hcase : Directive.caseFinding caseChecks.settings "addUserHeader" .addUserHeader =
        [.wrongCase "addUserHeader" .addUserHeader] := by decide +kernel
    exact ⟨q, before, after, hcodes, hnone ▸ hsteps _ hexact, hcase ▸ hsteps _ hother⟩
  · obtain ⟨q, before, after, hcodes, hsteps⟩ := (spelling_indifferent caseChecks {} rfl ""
      (.inl rfl) (by decide) "a:1" .optionAcceptXForwardedFor).2
    have hstep := hsteps "AcceptX-Forwarded-For" (by decide) hoption
    have hnone : Directive.caseFinding caseChecks.settings ("Option " ++ "AcceptX-Forwarded-For")
        .optionAcceptXForwardedFor = [] := by decide +kernel
    have hblank : trimEnd "".toList = [] := rfl
    rw [hnone, if_pos hblank] at hstep
    exact ⟨q, before, after, hcodes, hstep⟩

end Processor

end StanzaLint
