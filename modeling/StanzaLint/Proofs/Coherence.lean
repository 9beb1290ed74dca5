import Mathlib.Data.List.Infix
import StanzaLint.Proofs.Findings
import StanzaLint.Proofs.JsonReading
import StanzaLint.Proofs.OpenSections
import StanzaLint.Proofs.OptionalChecks
import StanzaLint.Proofs.Profile

/-!
# How the state of a stanza hangs together

The parts of a stanza's state are written on different paths, and some say something
about others: a line that ended a stanza left nothing behind, text is held back only
while a line is unfinished, what has to be closed can be closed, the label names the
previous directive. These relations hold of the file that is read and of every file
that waits, after every history (`run_coherent`).

The domain of a hostname edit is kept with a regular expression, which is shown and
which later edits are judged by. It is found in exactly those names that lie below the
domain (`Pattern.isIn_subdomain`).
-/

namespace StanzaLint

open Text (isBlank)

-- ---------------------------------------------------------------------------
-- Patterns
-- ---------------------------------------------------------------------------

namespace Pattern

theorem read?_sign (h : isSign c = false) (rest : List Char) :
    read? (c :: rest) = (read? rest).map (.sign c :: ·) := by
  have hd : c ≠ '$' := by rintro rfl; cases h
  have hb : c ≠ '\\' := by rintro rfl; cases h
  have ho : c ≠ '[' := by rintro rfl; cases h
  rw [read?]
  · simp [h]
  · exact hd
  · rintro _ _ rfl
    exact absurd rfl hb
  · rintro _ _ rfl
    exact absurd rfl ho

theorem read?_escape (cs rest : List Char) :
    read? (escape cs ++ rest) = (read? rest).map (cs.map .sign ++ ·) := by
  induction cs with
  | nil => simp [escape]
  | cons c cs ih =>
    have hc : escape (c :: cs) =
        (if isSign c then ['\\', c] else [c]) ++ escape cs := rfl
    rw [hc, List.append_assoc]
    by_cases h : isSign c
    · simp [h, read?, ih, Function.comp_def]
    · have h : isSign c = false := by simpa using h
      simp [h, read?_sign, ih, Function.comp_def]

theorem matchesAt_finish (cs text : List Char) :
    matchesAt (cs.map .sign ++ [.finish]) text = decide (cs = text) := by
  induction cs generalizing text with
  | nil => cases text <;> simp [matchesAt]
  | cons c cs ih => cases text <;> simp [matchesAt, ih, Bool.beq_eq_decide_eq]

theorem isIn_finish (cs text : List Char) :
    isIn (cs.map .sign ++ [.finish]) text = Text.endsWith cs text := by
  rw [Text.endsWith_eq, Bool.eq_iff_iff, decide_eq_true_iff]
  induction text with
  | nil => rw [isIn, matchesAt_finish, decide_eq_true_iff, List.suffix_nil]
  | cons c text ih =>
    rw [isIn, Bool.or_eq_true, ih, matchesAt_finish, decide_eq_true_iff, List.suffix_cons_iff]

theorem subdomainPattern_toList (domain : String) :
    (Stanza.subdomainPattern domain).toList =
      '[' :: '.' :: ']' :: (escape domain.toList ++ ['$']) := by
  simp [Stanza.subdomainPattern, escape]

/-- The pattern that is shown for a domain is found in the names below it. -/
theorem isIn_subdomain (domain : String) :
    ∃ parts, read? (Stanza.subdomainPattern domain).toList = some parts ∧
      ∀ name, isIn parts name = Text.endsWith ('.' :: domain.toList) name := by
  refine ⟨('.' :: domain.toList).map .sign ++ [.finish], ?_, isIn_finish _⟩
  have hr : read? ('[' :: '.' :: ']' :: (escape domain.toList ++ ['$'])) =
      (read? (escape domain.toList ++ ['$'])).map (.sign '.' :: ·) := rfl
  rw [subdomainPattern_toList, hr, read?_escape]
  rfl

end Pattern

-- ---------------------------------------------------------------------------
-- Labels and sources
-- ---------------------------------------------------------------------------

def Text.StartsPlain (s : String) : Prop := ∃ c cs, s = String.ofList (c :: cs) ∧ c.toNat < 0x80

theorem Text.StartsPlain.ne_empty {s : String} (h : StartsPlain s) : s ≠ "" := by
  obtain ⟨c, cs, rfl, -⟩ := h
  intro he
  simpa using congrArg String.toList he

/-- A letter outside ASCII could become nothing in lower case. -/
theorem Text.StartsPlain.lowercase_ne_empty {s : String} (h : StartsPlain s) :
    lowercase s ≠ "" := by
  obtain ⟨c, cs, rfl, hc⟩ := h
  intro he
  have hl := congrArg String.toList he
  simp [lowercase, lowercaseFrom, lowercaseChar, hc] at hl

namespace Directive

theorem label_startsPlain (d : Directive) : Text.StartsPlain d.label := by
  cases d <;> exact ⟨_, _, rfl, by decide⟩

theorem spelling_startsPlain (h : (spelling, d) ∈ spellings) : Text.StartsPlain spelling := by
  have ha : ∀ s ∈ aliases, Text.StartsPlain s.1 := by
    simp only [aliases, List.forall_mem_cons, List.not_mem_nil, false_imp_iff, implies_true,
      and_true]
    and_intros <;> exact ⟨_, _, rfl, by decide⟩
  rcases List.mem_append.mp h with h | h
  · obtain ⟨d, -, hd⟩ := List.mem_map.mp h
    cases hd
    exact d.label_startsPlain
  · exact ha _ h

theorem find?_empty : find? "" = none := by
  have hl : spellings.lookup "" = none := by
    rw [List.lookup_eq_none_iff]
    intro s hs
    exact bne_iff_ne.mpr (spelling_startsPlain hs).ne_empty.symm
  have hc : findAnyCase? "" = none := by
    unfold findAnyCase?
    rw [Option.map_eq_none_iff, List.find?_eq_none]
    intro s hs he
    have he : Text.lowercase s.1 = Text.lowercase "" := by simpa using he
    exact (spelling_startsPlain hs).lowercase_ne_empty he
  rw [find?, hl, hc]
  rfl

end Directive

theorem Entry.directive_of_of? {e : Entry} {line : List Char} {place : String}
    (h : Entry.of? line place = some e) :
    (Directive.find? e.label).map Directive.Match.directive = some e.directive := by
  obtain ⟨label, -, h⟩ := Option.bind_eq_some_iff.mp h
  obtain ⟨found, hf, h⟩ := Option.bind_eq_some_iff.mp h
  cases h
  rw [hf]
  rfl

theorem Url.href_ne_empty (u : Url) : u.href ≠ "" := by
  intro h
  have hl := congrArg String.toList h
  simp [href] at hl

namespace SourceComment

def IsAddress (text : String) : Prop :=
  ∃ line url, parse line = .ok url ∧ url.scheme = "https" ∧
    url.hostText? = some "help.oclc.org" ∧ text = url.href

theorem parse_ok (h : parse line = .ok url) :
    url.scheme = "https" ∧ url.hostText? = some "help.oclc.org" := by
  unfold parse at h
  split at h
  · split at h
    · cases h
    · split at h
      · cases h
      next hs =>
        split at h
        · cases h
        next hh =>
          cases h
          exact ⟨not_not.mp hs, not_not.mp hh⟩
  · cases h

theorem resolve_eq_ok_iff :
    resolve titles line = .ok (url, title) ↔
      parse line = .ok url ∧ titles.expected url = .ok title := by
  unfold resolve
  cases parse line with
  | error fault => simp
  | ok found =>
    cases ht : titles.expected found with
    | error fault =>
      simp only [ht, Except.ok.injEq, reduceCtorEq, false_iff]
      rintro ⟨rfl, h⟩
      simp [ht] at h
    | ok name =>
      simp only [ht, Except.ok.injEq, Prod.mk.injEq]
      refine and_congr_right fun hf => ?_
      rw [← hf, ht, Except.ok.injEq]

theorem isAddress_of_resolve (h : resolve titles line = .ok (url, title)) : IsAddress url.href :=
  have hp := (resolve_eq_ok_iff.mp h).1
  ⟨line, url, hp, (parse_ok hp).1, (parse_ok hp).2, rfl⟩

end SourceComment

-- ---------------------------------------------------------------------------
-- The stanza
-- ---------------------------------------------------------------------------

namespace Stanza

/-- The hostname edits that are remembered, each with the pattern of its domain. -/
structure Edits (settings : Settings) (edits : List HostnameEdit) : Prop where
  nodup : (edits.map (·.domain)).Nodup
  unblank : ∀ edit ∈ edits, ∀ c ∈ edit.domain.toList, isBlank c = false
  pattern : ∀ edit ∈ edits,
    edit.pattern = "[.]" ++ String.ofList (Pattern.escape edit.domain.toList) ++ "$"
  unchecked : settings.hostnameEdits = false → edits = []

structure Coherent (settings : Settings) (s : Stanza) : Prop where
  settled : s.Settled
  openers : ∀ d ∈ s.openOptions, d.isOpener = true
  unnamed : s.previous = none ↔ s.label = ""
  named : (Directive.find? s.label).map Directive.Match.directive = s.previous
  separator : s.isSeparator = true → s.previous = some .description
  start : s.urlOrigin ≠ "" → s.url ≠ ""
  titledSource : s.sourceTitle ≠ "" → s.source ≠ ""
  source : s.source ≠ "" → SourceComment.IsAddress s.source
  edits : Edits settings s.hostnameEdits

variable {settings : Settings} {s : Stanza}

theorem coherent_empty (settings : Settings) : Coherent settings {} where
  settled _ := rfl
  openers := by simp
  unnamed := by simp
  named := by simp [Directive.find?_empty]
  separator := nofun
  start := by simp
  titledSource := by simp
  source := by simp
  edits := ⟨List.nodup_nil, by simp, by simp, fun _ => rfl⟩

theorem Coherent.unseparated (h : s.Coherent settings) :
    { s with isSeparator := false }.Coherent settings :=
  { h with separator := nofun }

theorem Coherent.unfinished (h : s.Coherent settings) (pending : String) :
    { s with inMultiline := true, pending }.Coherent settings :=
  { h with settled := nofun }

theorem Coherent.finished (h : s.Coherent settings) :
    { s with inMultiline := false, pending := "" }.Coherent settings :=
  { h with settled := fun _ => rfl }

theorem Coherent.sourced (h : s.Coherent settings) {source : String}
    (hs : SourceComment.IsAddress source) (sourceTitle : String) :
    { s with source, sourceTitle }.Coherent settings := by
  have hne : source ≠ "" := by
    obtain ⟨_, url, _, _, _, rfl⟩ := hs
    exact url.href_ne_empty
  exact { h with titledSource := fun _ => hne, source := fun _ => hs }

theorem isBlank_of_mem_domainOf {payload : String} {find replace : List Char}
    (h : hostnameEdit? payload = some (find, replace)) (hc : c ∈ domainOf find) :
    isBlank c = false := by
  have hw : find ∈ Text.words payload.toList := by
    unfold hostnameEdit? at h
    split at h
    next he =>
      cases h
      simp [he]
    next => cases h
  have hd : c ∈ find := by
    unfold domainOf at hc
    cases hs : Text.dropSuffix? ['$'] find with
    | none => simpa [hs] using hc
    | some rest =>
      rw [Text.dropSuffix?_eq_some_iff.mp hs]
      exact List.mem_append_left _ (by simpa [hs] using hc)
  exact Text.isBlank_of_mem_words hw hd

theorem Edits.add (h : Edits settings s.hostnameEdits) (payload : String) :
    Edits settings (s.withHostnameEdit settings payload).hostnameEdits := by
  rw [withHostnameEdit_eq]
  dsimp only
  split
  · exact h
  next find replace hp =>
    split
    next hn =>
      refine ⟨?_, ?_, ?_, fun hs => absurd hn.1 (by simp [hs])⟩
      · rw [List.map_append]
        refine List.nodup_append.mpr ⟨h.nodup, by simp, ?_⟩
        rintro domain hd _ hnew rfl
        simp only [List.map_singleton, List.mem_singleton] at hnew
        exact hn.2 (hnew ▸ hd)
      · intro edit hd c hc
        rcases List.mem_append.mp hd with hd | hd
        · exact h.unblank edit hd c hc
        · rw [List.mem_singleton.mp hd, String.toList_ofList] at hc
          exact isBlank_of_mem_domainOf hp hc
      · intro edit hd
        rcases List.mem_append.mp hd with hd | hd
        · exact h.pattern edit hd
        · rw [List.mem_singleton.mp hd]
          rfl
    next => exact h

theorem Edits.depthFindings (h : Edits settings s.hostnameEdits) (name : List Char) :
    s.depthFindings name = (s.hostnameEdits.filter fun edit =>
      (Pattern.read? ("[.]" ++ String.ofList (Pattern.escape edit.domain.toList) ++
        "$").toList).any (Pattern.isIn · name)).map (.hostnameEditDepth ·.domain) := by
  refine congrArg (List.map _) (List.filter_congr fun edit he => ?_)
  rw [h.pattern edit he]

theorem Edits.toJson (h : Edits settings s.hostnameEdits) :
    s.toJson.field? "ProxyHostnameEditPatterns" =
      some (.object (s.hostnameEdits.map fun edit => (edit.domain, .string
        ("[.]" ++ String.ofList (Pattern.escape edit.domain.toList) ++ "$")))) := by
  have hpatterns : s.hostnameEdits.map (fun edit => (edit.domain, Text.Json.string edit.pattern)) =
      s.hostnameEdits.map fun edit => (edit.domain, .string
        ("[.]" ++ String.ofList (Pattern.escape edit.domain.toList) ++ "$")) :=
    List.map_congr_left fun edit he => by rw [h.pattern edit he]
  simp only [Text.Json.field?, Stanza.toJson, List.lookup_cons, ← hpatterns]
  rfl

theorem withValue_hostnameEdits (s : Stanza) (settings : Settings) (e : Entry) :
    (s.withValue settings e).hostnameEdits = if e.directive = .proxyHostnameEdit then
      (s.withHostnameEdit settings e.payload).hostnameEdits else s.hostnameEdits := by
  have ho : ∀ (t : Stanza) origin location,
      (t.withOrigin origin location).hostnameEdits = t.hostnameEdits := by
    intro t origin location
    unfold withOrigin
    split <;> rfl
  have hu : ∀ value location, (s.withUrl value location).hostnameEdits = s.hostnameEdits := by
    intro value location
    have hs : (if s.url = "" then { s with url := value } else s).hostnameEdits =
        s.hostnameEdits := by split <;> rfl
    unfold withUrl
    dsimp only
    refine Eq.trans ?_ hs
    split
    · exact ho _ _ _
    · rfl
  have hh : ∀ payload location, (s.withHost payload location).hostnameEdits = s.hostnameEdits := by
    intro payload location
    unfold withHost
    split <;> rfl
  have ht : ∀ title, (s.withTitle title).hostnameEdits = s.hostnameEdits := by
    intro title
    unfold withTitle
    split <;> rfl
  unfold withValue
  split
  next hd => rw [if_pos hd]
  next hd => simp [hd]
  next hd => simp [hd]
  next hd => simp [hd, ht]
  next hd => simp [hd]
  next hd => simp [hd, hu]
  next hd => simp [hd, hh]
  next hd => simp [hd, hh]
  next hd _ _ _ _ _ _ _ => rw [if_neg hd]

theorem after_hostnameEdits (s : Stanza) (settings : Settings) (e : Entry) :
    (s.after settings e).hostnameEdits = if e.directive = .proxyHostnameEdit then
      (s.withHostnameEdit settings e.payload).hostnameEdits else s.hostnameEdits := by
  have ho : (s.withOption e.directive).hostnameEdits = s.hostnameEdits := by
    unfold withOption
    split
    · rfl
    · split <;> rfl
  have ha : (s.after settings e).hostnameEdits =
      ((s.withOption e.directive).withValue settings e).hostnameEdits := rfl
  rw [ha, withValue_hostnameEdits, withHostnameEdit_eq, withHostnameEdit_eq, ho]

theorem Edits.after (h : Edits settings s.hostnameEdits) (e : Entry) :
    Edits settings (s.after settings e).hostnameEdits := by
  rw [after_hostnameEdits]
  split
  · exact h.add e.payload
  · exact h

/-- The line that gives a stanza the origin of its starting point names an address. -/
theorem after_start (h : s.urlOrigin ≠ "" → s.url ≠ "") (settings : Settings) (e : Entry)
    (ho : (s.after settings e).urlOrigin ≠ "") : (s.after settings e).url ≠ "" := by
  have hp := s.after_profile settings e
  have hurl : (s.after settings e).url = if s.url = "" then e.url?.getD "" else s.url :=
    congrArg Profile.url hp
  have hstart : (s.after settings e).urlOrigin =
      (if s.urlOrigin = "" ∧ e.isStart then (e.origin?.getD "", e.location)
        else (s.urlOrigin, s.urlLocation)).1 := congrArg (·.start.1) hp
  rw [hurl]
  split
  next hs =>
    have hn : s.urlOrigin = "" := by
      by_contra hne
      exact h hne hs
    rw [hn] at hstart
    by_cases he : e.isStart = true
    · simp only [Entry.isStart, Bool.and_eq_true, beq_iff_eq] at he
      cases hv : e.url? with
      | none => simp [Entry.origin?, Entry.address?, he.1, hv] at he
      | some value =>
        rintro rfl
        exact e.url?_ne_empty hv
    · exact absurd (by simpa [he] using hstart) ho
  next hs => exact hs

theorem Coherent.after (h : s.Coherent settings) (hs : s.isSeparator = false)
    (he : Entry.of? text location = some e) : (s.after settings e).Coherent settings := by
  have hf := Entry.directive_of_of? he
  have hlabel : e.label ≠ "" := by
    intro hl
    rw [hl, Directive.find?_empty] at hf
    cases hf
  have hm := s.after_margin settings e
  simp only [margin, Margin.mk.injEq] at hm
  refine ⟨h.settled.of_margin (s.after_margin settings e), ?_, ?_, hf, ?_,
    after_start h.start settings e, ?_, ?_, h.edits.after e⟩
  · intro d hd
    rw [after_openOptions] at hd
    split at hd
    next ho =>
      rcases List.mem_append.mp hd with hd | hd
      · exact h.openers d hd
      · exact List.mem_singleton.mp hd ▸ ho
    next =>
      split at hd
      · exact h.openers d (List.mem_of_mem_filter hd)
      · exact h.openers d hd
  · exact ⟨fun hp => absurd hp (Option.some_ne_none _), fun hl => absurd hl hlabel⟩
  · -- only a description makes a separator
    have hp : (s.after settings e).isSeparator = (e.directive == .description || s.isSeparator) :=
      congrArg Profile.isSeparator (s.after_profile settings e)
    rw [hp, hs, Bool.or_false, beq_iff_eq]
    exact congrArg some
  · rw [hm.2.2.1, hm.2.2.2]
    exact h.titledSource
  · rw [hm.2.2.1]
    exact h.source

theorem Coherent.sourceOf (h : s.Coherent settings) (checks : Checks) (text : List Char) :
    (s.sourced (Processor.sourceOf? checks text)).Coherent settings := by
  unfold Processor.sourceOf?
  split
  · cases hr : SourceComment.resolve checks.titles text with
    | error fault => exact h
    | ok found => exact h.sourced (SourceComment.isAddress_of_resolve hr) _
  · exact h

end Stanza

-- ---------------------------------------------------------------------------
-- The processor
-- ---------------------------------------------------------------------------

/-- A stanza hangs together, and the line that ended the last one left nothing behind. -/
structure Processor.Suspended.Coherent (settings : Settings) (file : Processor.Suspended) :
    Prop where
  stanza : file.stanza.Coherent settings
  fresh : file.lastLineEmpty = true → file.stanza = {}

theorem Processor.Suspended.Coherent.of_stanza {file : Processor.Suspended}
    (h : file.stanza.Coherent settings) (hl : file.lastLineEmpty = false) :
    file.Coherent settings :=
  ⟨h, fun he => absurd (hl.symm.trans he) Bool.false_ne_true⟩

namespace Processor

open Diagnostic (coded)

variable {checks : Checks} {p : Processor}

theorem logicalLine_coherent (h : p.stanza.Coherent settings) (hl : p.lastLineEmpty = false)
    (text : List Char) (location : String) :
    (p.logicalLine settings text location).1.suspend.1.Coherent settings := by
  rw [logicalLine_eq]
  split
  · exact .of_stanza h.unseparated hl
  next e he => exact .of_stanza (h.unseparated.after rfl he) hl

theorem step_coherent (h : p.stanza.Coherent checks.settings) (line location : String) :
    (p.step checks line location).1.suspend.1.Coherent checks.settings := by
  rw [step_eq]
  cases Line.read line with
  | closing => exact ⟨Stanza.coherent_empty _, fun _ => rfl⟩
  | comment text =>
    simp only [read, comment_eq]
    refine .of_stanza (h.sourceOf checks text) rfl
  | unfinished segment => exact .of_stanza (h.unfinished _) rfl
  | complete text =>
    simp only [read, complete]
    split
    · exact logicalLine_coherent h.finished rfl _ _
    · exact logicalLine_coherent (p := { p with current := none, lastLineEmpty := false }) h rfl
        _ _

theorem step_unclosedOption (p : Processor) (checks : Checks) (line location : String) :
    coded .unclosedOption (p.step checks line location).2 =
      if Line.read line = .closing then
        p.stanza.openOptions.map (.unclosedOption p.stanza.title)
      else [] := by
  have hblank : coded .unclosedOption (blankFindings checks.settings line) = [] :=
    (blankFindings_allOf rfl checks.settings line).coded_ne
  rw [step_eq, Diagnostic.coded_append, hblank, List.nil_append]
  cases Line.read line with
  | closing => simp [read, close, Stanza.closingFindings, Diagnostic.code]
  | comment text => exact (comment_allOf rfl _ checks text).coded_ne
  | unfinished segment => rfl
  | complete text =>
    simp only [read, complete]
    split
    · exact logicalLine_unsaid rfl _ _ _ _
    · exact logicalLine_unsaid rfl _ _ _ _

end Processor

theorem Code.eq_unclosedOption {c : Code} (h : c.text = "L4002") : c = .unclosedOption := by
  revert h
  cases c <;> simp [text]

theorem Directive.closer_label {opener closer : Directive}
    (h : opener.requiredCloser? = some closer) : closer.label ≠ labelOf none := by
  have ha : optionPairs.all (fun pair => pair.2.label != labelOf none) = true := by
    decide +kernel
  have hm := List.all_eq_true.mp ha _ (requiredCloser?_mem h)
  simpa using hm

namespace Progress

variable {checks : Checks}

theorem perform_unclosedOption {s : Progress} (h : s.processor.stanza.Coherent checks.settings)
    (action : Action) {d : Diagnostic} (hd : d ∈ (s.perform checks action).2)
    (hc : d.code = .unclosedOption) :
    ∃ title opener closer, d = .unclosedOption title opener ∧
      Directive.requiredCloser? opener = some closer := by
  cases action with
  | line text location =>
    have hm : d ∈ Diagnostic.coded .unclosedOption (s.processor.step checks text location).2 :=
      List.mem_filter.mpr ⟨hd, decide_eq_true hc⟩
    rw [Processor.step_unclosedOption] at hm
    split at hm
    · obtain ⟨opener, ho, rfl⟩ := List.mem_map.mp hm
      obtain ⟨closer, hcloser⟩ := Option.isSome_iff_exists.mp (h.openers opener ho)
      exact ⟨_, opener, closer, rfl, hcloser⟩
    · cases hm
  | suspend => cases hd
  | resume =>
    obtain ⟨p, suspended⟩ := s
    cases suspended <;> cases hd

/-- After every history the state of the file that is read hangs together, and so does that of
every file that waits. Its hostname edits are shown with the patterns of their domains, and later
edits are judged by these. Every option that is reported open has a closer, which the message
names. -/
theorem run_coherent (checks : Checks) (history : List Action) :
    let s := (run {} checks history).1
    s.Files (·.Coherent checks.settings) ∧
      s.Files (fun file =>
        file.stanza.toJson.field? "ProxyHostnameEditPatterns" =
            some (.object (file.stanza.hostnameEdits.map fun edit => (edit.domain, .string
              ("[.]" ++ String.ofList (Pattern.escape edit.domain.toList) ++ "$")))) ∧
          ∀ name, file.stanza.depthFindings name =
            (file.stanza.hostnameEdits.filter fun edit =>
              (Pattern.read? ("[.]" ++ String.ofList (Pattern.escape edit.domain.toList) ++
                "$").toList).any (Pattern.isIn · name)).map (.hostnameEditDepth ·.domain)) ∧
      ∀ action, ∀ d ∈ (s.perform checks action).2, d.code.text = "L4002" →
        ∃ title opener closer, d = .unclosedOption title opener ∧
          Directive.requiredCloser? opener = some closer ∧ closer.label ≠ "Undefined" ∧
          d.message = "Stanza " ++ Text.quote title ++ " has " ++ Text.quote opener.label ++
            " but doesn't have a corresponding " ++ Text.quote closer.label ++
            " line at the end of the stanza" := by
  intro s
  have hs : s.Files (·.Coherent checks.settings) := by
    have h0 : Processor.Suspended.Coherent checks.settings ⟨{}, false⟩ :=
      ⟨Stanza.coherent_empty _, nofun⟩
    refine run_invariant (P := Files (·.Coherent checks.settings)) (fun s action hs => ?_)
      (s := {}) ⟨h0, fun file hf => nomatch hf⟩ history
    exact perform_files h0 (fun p line location h => Processor.step_coherent h.stanza line location)
      hs action
  refine ⟨hs, ⟨⟨hs.1.stanza.edits.toJson, hs.1.stanza.edits.depthFindings⟩, fun file hf =>
    ⟨(hs.2 file hf).stanza.edits.toJson, (hs.2 file hf).stanza.edits.depthFindings⟩⟩, ?_⟩
  intro action d hd hc
  obtain ⟨title, opener, closer, rfl, hcloser⟩ :=
    perform_unclosedOption hs.1.stanza action hd (Code.eq_unclosedOption hc)
  exact ⟨title, opener, closer, rfl, hcloser, Directive.closer_label hcloser,
    Diagnostic.message_unclosedOption hcloser title⟩

/-- A stanza with a source, an option that is open and two edits, which waits while a line of
another file is unfinished. -/
def waiting : List Action := [
  .line "# Source - https://help.oclc.org/a" "f:1",
  .line "Option HideEZproxy" "f:2",
  .line "ProxyHostnameEdit b.org$ b-org" "f:3",
  .line "ProxyHostnameEdit a.b.org$ a-b-org" "f:4",
  .line "Title A" "f:5",
  .line "URL https://a.org" "f:6",
  .suspend,
  .line "Title \\" "g:1"]

def curious : Checks := ⟨{ hostnameEdits := true, source := true }, .pages fun _ => .ok (some "A")⟩

theorem run_coherent_waiting :
    (((run {} curious waiting).1.suspended.map fun file => (file.stanza.source,
          file.stanza.sourceTitle, file.stanza.urlOrigin, file.stanza.hostnameEdits)) =
        [("https://help.oclc.org/a", "A", "https://a.org",
          [⟨"b.org", "[.]b\\.org$"⟩, ⟨"a.b.org", "[.]a\\.b\\.org$"⟩])] ∧
      (run {} curious waiting).1.Files (·.Coherent curious.settings)) ∧
      ((run {} curious (waiting ++ [.resume])).1.perform curious (.line "" "f:7")).2 =
          [.unclosedOption "A" .optionHideEZproxy] ∧
        ∃ closer, Directive.requiredCloser? .optionHideEZproxy = some closer ∧
          closer.label ≠ "Undefined" := by
  have hfound : ((run {} curious (waiting ++ [.resume])).1.perform curious (.line "" "f:7")).2 =
      [.unclosedOption "A" .optionHideEZproxy] := by decide +kernel
  refine ⟨⟨by decide +kernel, (run_coherent curious waiting).1⟩, hfound, ?_⟩
  have hd : Diagnostic.unclosedOption "A" .optionHideEZproxy ∈
      ((run {} curious (waiting ++ [.resume])).1.perform curious (.line "" "f:7")).2 := by
    rw [hfound]
    exact List.mem_singleton.mpr rfl
  have hclosers := (run_coherent curious (waiting ++ [.resume])).2.2
  obtain ⟨title, opener, closer, hu, hc, hl, -⟩ := hclosers (.line "" "f:7") _ hd rfl
  cases hu
  exact ⟨closer, hc, hl⟩

end Progress

end StanzaLint
