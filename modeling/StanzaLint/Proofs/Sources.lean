import StanzaLint.Proofs.Coherence
import StanzaLint.Proofs.StanzaLines

/-!
# Titles and their sources

The title of a stanza is compared with the one that its last source comment led to.
A comment that leads nowhere is reported and forgotten, so the one before it still
counts (`stale_titles`). What is found at an address may change while lines are read,
so every action comes with the titles of its time (`Moment`). Only addresses of the
one place that sources may name are ever looked up. A lookup that is installed stays
there, whatever it answers; without one, the first comment that asks for a title when a
client of the website can be started leaves this client behind (`perform_lookup`).
-/

namespace StanzaLint

open Diagnostic (coded)

/-- An action, and the titles as they can be looked up at its time. -/
structure Moment where
  action : Action
  titles : TitleLookup

namespace Moment

def source? (m : Moment) : Option (List Char) :=
  match m.action with
  | .line text _ =>
    if SourceComment.lead <+: Text.trim text.toList then some (Text.trim text.toList) else none
  | _ => none

/-- The line is a source comment with an address, and a page is found there. -/
def Resolves (m : Moment) (url : Url) (title : Option String) : Prop :=
  ∃ comment, m.source? = some comment ∧ SourceComment.parse comment = .ok url ∧
    m.titles.expected url = .ok title

/-- The line is a source comment without an address, or with one where nothing is found. -/
def Fails (m : Moment) (fault : SourceFault) : Prop :=
  ∃ comment, m.source? = some comment ∧ (SourceComment.parse comment = .error fault ∨
    ∃ url, SourceComment.parse comment = .ok url ∧ m.titles.expected url = .error fault)

/-- The line is a source comment with an address, and a lookup can be asked for its title. -/
def Asks (m : Moment) : Prop :=
  (∃ comment url, m.source? = some comment ∧ SourceComment.parse comment = .ok url) ∧
    ∃ title, m.titles = .pages title

def perform (m : Moment) (settings : Settings) (s : Progress) : Progress × List Diagnostic :=
  s.perform ⟨settings, m.titles⟩ m.action

def installed (m : Moment) (lookup : Option TitleSource) : Option TitleSource :=
  if m.source?.any fun comment => (SourceComment.parse comment).isOk then m.titles.keeps lookup
  else lookup

/-- Only a moment that asks a lookup installs one, and only if there is none. -/
theorem installed_cases (m : Moment) (lookup : Option TitleSource) :
    m.Asks ∧ m.installed lookup = some (lookup.getD .website) ∨
      ¬m.Asks ∧ m.installed lookup = lookup := by
  unfold installed Asks
  cases m.source? with
  | none => exact .inr ⟨by simp, rfl⟩
  | some comment =>
    cases hp : SourceComment.parse comment with
    | error fault => exact .inr ⟨by simp [hp], by simp only [Option.any_some, hp]; rfl⟩
    | ok url =>
      cases m.titles with
      | pages title =>
        exact .inl ⟨⟨⟨comment, url, rfl, hp⟩, title, rfl⟩, by simp only [Option.any_some, hp]; rfl⟩
      | unavailable fault => exact .inr ⟨by simp, by simp only [Option.any_some, hp]; rfl⟩

theorem installed_some (m : Moment) (lookup : TitleSource) :
    m.installed (some lookup) = some lookup := by
  rcases m.installed_cases (some lookup) with ⟨-, h⟩ | ⟨-, h⟩ <;> exact h

def resolved? (m : Moment) : Option (Url × Option String) :=
  m.source?.bind fun comment => (SourceComment.resolve m.titles comment).toOption

theorem resolved?_eq_some_iff {m : Moment} :
    m.resolved? = some (url, title) ↔ m.Resolves url title := by
  simp only [resolved?, Resolves, Option.bind_eq_some_iff, ← SourceComment.resolve_eq_ok_iff]
  refine exists_congr fun comment => and_congr_right fun _ => ?_
  cases SourceComment.resolve m.titles comment <;> simp [Except.toOption]

theorem resolved?_eq_none_iff {m : Moment} :
    m.resolved? = none ↔ ∀ url title, ¬m.Resolves url title := by
  simp only [Option.eq_none_iff_forall_ne_some, Prod.forall, ne_eq, resolved?_eq_some_iff]

end Moment

-- ---------------------------------------------------------------------------
-- Comments
-- ---------------------------------------------------------------------------

theorem SourceComment.resolve_eq_error_iff :
    resolve titles line = .error fault ↔
      parse line = .error fault ∨
        ∃ url, parse line = .ok url ∧ titles.expected url = .error fault := by
  unfold resolve
  cases parse line with
  | error other => simp
  | ok url => cases ht : titles.expected url <;> simp [ht]

theorem SourceComment.resolve_congr {first second : Url → Except SourceFault (Option String)}
    (h : ∀ url : Url, url.scheme = "https" → url.hostText? = some "help.oclc.org" →
      first url = second url) (line : List Char) :
    resolve (.pages first) line = resolve (.pages second) line := by
  unfold resolve
  cases hp : parse line with
  | error fault => rfl
  | ok url =>
    have hu : first url = second url := h url (parse_ok hp).1 (parse_ok hp).2
    simp only [TitleLookup.expected, hu]

theorem Line.read_source (h : SourceComment.lead <+: Text.trim text.toList) :
    Line.read text = .comment (Text.trim text.toList) := by
  obtain ⟨rest, hr⟩ := h
  rw [Line.read, ← hr]
  rfl

theorem Line.eq_trim_of_comment (h : Line.read text = .comment cs) :
    cs = Text.trim text.toList := by
  unfold Line.read Line.ofText at h
  split at h
  · cases h
  · split at h
    · cases h
      rfl
    · split at h <;> cases h

namespace Moment

variable {m : Moment}

theorem source?_of_lead (ha : m.action = .line text location)
    (h : SourceComment.lead <+: Text.trim text.toList) :
    m.source? = some (Text.trim text.toList) := by
  simp only [source?, ha, if_pos h]

theorem source?_of_not_lead (ha : m.action = .line text location)
    (h : ¬SourceComment.lead <+: Text.trim text.toList) : m.source? = none := by
  simp only [source?, ha, if_neg h]

theorem source?_eq_some_iff :
    m.source? = some comment ↔ ∃ text location, m.action = .line text location ∧
      comment = Text.trim text.toList ∧ SourceComment.lead <+: comment := by
  unfold source?
  cases m.action with
  | line text location =>
    by_cases h : SourceComment.lead <+: Text.trim text.toList <;> grind
  | suspend => simp
  | resume => simp

end Moment

namespace Processor

variable {checks : Checks} {p : Processor}

theorem sourceOf?_of_lead (hs : checks.settings.source = true) (h : SourceComment.lead <+: text) :
    sourceOf? checks text = some (SourceComment.resolve checks.titles text) := by
  rw [sourceOf?, if_pos ⟨hs, Text.isSome_dropPrefix?.mpr h⟩]

theorem sourceOf?_of_not_lead (h : ¬SourceComment.lead <+: text) :
    sourceOf? checks text = none := by
  rw [sourceOf?, if_neg fun hc => h (Text.isSome_dropPrefix?.mp hc.2)]

theorem asks_of_lead (hs : checks.settings.source = true) (h : SourceComment.lead <+: text) :
    asks checks text = (SourceComment.parse text).isOk := by
  rw [asks, hs, Text.isSome_dropPrefix?.mpr h, Bool.true_and, Bool.true_and]

theorem asks_of_not_lead (h : ¬SourceComment.lead <+: text) : asks checks text = false := by
  rw [asks, Bool.eq_false_iff.mpr fun hc => h (Text.isSome_dropPrefix?.mp hc), Bool.and_false,
    Bool.false_and]

/-- Only a source comment that is resolved changes what the title is expected to be. -/
theorem step_sourceTitle {m : Moment} (hs : settings.source = true)
    (ha : m.action = .line text location) (hl : Line.read text ≠ .closing) (p : Processor) :
    (p.step ⟨settings, m.titles⟩ text location).1.stanza.sourceTitle =
      m.resolved?.elim p.stanza.sourceTitle (·.2.getD "") := by
  by_cases h : SourceComment.lead <+: Text.trim text.toList
  · rw [Moment.resolved?, Moment.source?_of_lead ha h, Option.bind_some]
    simp only [step_eq, read, Line.read_source h, comment_eq]
    rw [sourceOf?_of_lead hs h]
    cases SourceComment.resolve m.titles (Text.trim text.toList) <;> rfl
  · rw [Moment.resolved?, Moment.source?_of_not_lead ha h]
    simp only [step_eq]
    cases hr : Line.read text with
    | closing => exact absurd hr hl
    | comment comment =>
      rw [Line.eq_trim_of_comment hr]
      simp only [read, comment_eq]
      rw [sourceOf?_of_not_lead h]
      rfl
    | unfinished segment => rfl
    | complete text =>
      simp only [read, complete]
      split
      · exact congrArg Stanza.Margin.sourceTitle (logicalLine_margin _ _ _ _)
      · exact congrArg Stanza.Margin.sourceTitle (logicalLine_margin _ _ _ _)

theorem logicalLine_lookup (p : Processor) (settings : Settings) (text : List Char)
    (location : String) : (p.logicalLine settings text location).1.lookup = p.lookup := by
  rw [logicalLine_eq]
  split <;> rfl

/-- Only a source comment with an address asks a lookup, and installs one if there is none. -/
theorem step_lookup {m : Moment} (hs : settings.source = true)
    (ha : m.action = .line text location) (p : Processor) :
    (p.step ⟨settings, m.titles⟩ text location).1.lookup = m.installed p.lookup := by
  by_cases h : SourceComment.lead <+: Text.trim text.toList
  · simp only [step_eq, read, Line.read_source h, comment_eq]
    rw [asks_of_lead hs h, Moment.installed, Moment.source?_of_lead ha h, Option.any_some]
  · rw [Moment.installed, Moment.source?_of_not_lead ha h, Option.any_none]
    simp only [step_eq]
    cases hr : Line.read text with
    | closing => rfl
    | comment comment =>
      rw [Line.eq_trim_of_comment hr]
      simp only [read, comment_eq]
      rw [asks_of_not_lead h]
    | unfinished segment => rfl
    | complete text =>
      simp only [read, complete]
      split
      · exact logicalLine_lookup _ _ _ _
      · exact logicalLine_lookup _ _ _ _

/-- A source comment that fails is told of, and changes nothing that is remembered. -/
theorem step_failed {m : Moment} (hs : settings.source = true)
    (ha : m.action = .line text location) (hf : m.Fails fault) (p : Processor) :
    p.step ⟨settings, m.titles⟩ text location =
      ({ p with current := none, lastLineEmpty := false, lookup := m.installed p.lookup },
        blankFindings settings text ++ [.sourceFault fault]) := by
  obtain ⟨comment, hc, hr⟩ := hf
  obtain ⟨_, _, ha', rfl, hl⟩ := Moment.source?_eq_some_iff.mp hc
  obtain ⟨rfl, rfl⟩ := Action.line.inj (ha.symm.trans ha')
  simp only [step_eq, read, Line.read_source hl, comment_eq]
  rw [sourceOf?_of_lead hs hl, SourceComment.resolve_eq_error_iff.mpr hr, asks_of_lead hs hl,
    Moment.installed, hc, Option.any_some]
  rfl

theorem step_not_failed {m : Moment} (ha : m.action = .line text location)
    (hf : ∀ fault, ¬m.Fails fault) (p : Processor) :
    coded .sourceFault (p.step ⟨settings, m.titles⟩ text location).2 = [] := by
  rw [step_eq, Diagnostic.coded_append, (blankFindings_allOf rfl _ _).coded_ne, List.nil_append]
  cases hr : Line.read text with
  | closing => exact (p.stanza.closingFindings_allOf rfl rfl rfl rfl).coded_ne
  | comment comment =>
    obtain rfl := Line.eq_trim_of_comment hr
    simp only [read, comment_eq]
    unfold sourceOf?
    split
    next hc =>
      have hl := Text.isSome_dropPrefix?.mp hc.2
      cases he : SourceComment.resolve m.titles (Text.trim text.toList) with
      | ok found => rfl
      | error fault =>
        exact absurd ⟨_, Moment.source?_of_lead ha hl, SourceComment.resolve_eq_error_iff.mp he⟩
          (hf fault)
    next => rfl
  | unfinished segment => rfl
  | complete text =>
    simp only [read, complete]
    split
    · exact logicalLine_unsaid rfl _ _ _ _
    · exact logicalLine_unsaid rfl _ _ _ _

theorem valueFindings_sourceTitle (p : Processor) (settings : Settings)
    (hd : e.directive = .title) :
    coded .sourceTitle (p.valueFindings settings e) = p.stanza.sourceFindings e.payload := by
  rw [valueFindings_title p settings hd, titleFindings, Stanza.sourceFindings]
  simp [Diagnostic.code]

theorem step_titles_congr {first second : Url → Except SourceFault (Option String)}
    (h : ∀ url : Url, url.scheme = "https" → url.hostText? = some "help.oclc.org" →
      first url = second url) (p : Processor) (settings : Settings) (text location : String) :
    p.step ⟨settings, .pages first⟩ text location =
      p.step ⟨settings, .pages second⟩ text location := by
  have hcomment : ∀ (q : Processor) comment,
      q.comment ⟨settings, .pages first⟩ comment = q.comment ⟨settings, .pages second⟩ comment := by
    intro q comment
    simp only [comment_eq, sourceOf?, SourceComment.resolve_congr h]
    rfl
  simp only [step_eq, read, hcomment]

end Processor

-- ---------------------------------------------------------------------------
-- The last source of a stanza
-- ---------------------------------------------------------------------------

/-- The last of the lines that was resolved led to a page with this title. -/
def LastTitle (lines : List Moment) (title : String) : Prop :=
  ∃ before m after url, lines = before ++ m :: after ∧ m.Resolves url (some title) ∧
    ∀ later ∈ after, ∀ url title, ¬later.Resolves url title

/-- The title of a stanza, hidden or not, is not the one that the lines lead to. -/
structure Stale (lines : List Moment) (title expected : String) : Prop where
  last : LastTitle lines expected
  nonempty : expected ≠ ""
  shown : title ≠ expected
  hidden : title ≠ "-Hide " ++ expected

/-- The title that the lines lead to, and nothing if they lead to none. -/
def expectedTitle (lines : List Moment) : String :=
  (lines.reverse.findSome? Moment.resolved?).elim "" (·.2.getD "")

theorem expectedTitle_concat (lines : List Moment) (m : Moment) :
    expectedTitle (lines ++ [m]) = m.resolved?.elim (expectedTitle lines) (·.2.getD "") := by
  simp only [expectedTitle, List.reverse_append, List.reverse_singleton, List.singleton_append,
    List.findSome?_cons]
  cases m.resolved? <;> rfl

theorem lastTitle_iff (ht : title ≠ "") :
    LastTitle lines title ↔ expectedTitle lines = title := by
  -- an empty title is also what is expected without a source, so `ht` is needed
  have hfirst : LastTitle lines title ↔
      ∃ url, lines.reverse.findSome? Moment.resolved? = some (url, some title) := by
    simp only [LastTitle, List.findSome?_eq_some_iff, Moment.resolved?_eq_some_iff,
      Moment.resolved?_eq_none_iff, List.reverse_eq_iff, List.reverse_append, List.reverse_cons,
      List.append_assoc, List.singleton_append]
    constructor
    · rintro ⟨before, m, after, url, rfl, hm, hl⟩
      exact ⟨url, after.reverse, m, before.reverse, by simp, hm, by simpa using hl⟩
    · rintro ⟨url, after, m, before, rfl, hm, hl⟩
      exact ⟨before.reverse, m, after.reverse, url, rfl, hm, by simpa using hl⟩
  rw [hfirst, expectedTitle]
  cases lines.reverse.findSome? Moment.resolved? with
  | none => simpa using ht.symm
  | some result =>
    obtain ⟨url, found⟩ := result
    cases found with
    | none => simpa using ht.symm
    | some found => simp

theorem stale_iff :
    Stale lines title expected ↔ expectedTitle lines = expected ∧ expected ≠ "" ∧
      title ≠ expected ∧ title ≠ "-Hide " ++ expected := by
  constructor
  · rintro ⟨hl, hn, hs, hh⟩
    exact ⟨(lastTitle_iff hn).mp hl, hn, hs, hh⟩
  · rintro ⟨hl, hn, hs, hh⟩
    exact ⟨(lastTitle_iff hn).mpr hl, hn, hs, hh⟩

theorem sourceFindings_stale {s : Stanza} (h : s.sourceTitle = expectedTitle lines)
    (hstale : Stale lines title expected) :
    s.sourceFindings title = [.sourceTitle expected title] := by
  obtain ⟨rfl, hn, hs, hh⟩ := stale_iff.mp hstale
  rw [Stanza.sourceFindings, h, if_neg (by simp [hn, hs, hh])]

theorem sourceFindings_fresh {s : Stanza} (h : s.sourceTitle = expectedTitle lines)
    (hfresh : ∀ expected, ¬Stale lines title expected) : s.sourceFindings title = [] := by
  rw [Stanza.sourceFindings, if_pos]
  have hno := hfresh s.sourceTitle
  rw [stale_iff] at hno
  tauto

namespace Moment

theorem perform_lookup (hs : settings.source = true) (m : Moment) (s : Progress) :
    (m.perform settings s).1.processor.lookup = m.installed s.processor.lookup := by
  have hidle (hn : m.source? = none) (lookup : Option TitleSource) :
      m.installed lookup = lookup := by
    rw [installed, hn]
    rfl
  rw [perform]
  cases ha : m.action with
  | line text location => exact Processor.step_lookup hs ha _
  | suspend => exact (hidle (by simp [source?, ha]) _).symm
  | resume =>
    rw [hidle (by simp [source?, ha])]
    obtain ⟨p, suspended⟩ := s
    cases suspended <;> rfl

theorem perform_failed (hs : settings.source = true) {m : Moment} (hf : m.Fails fault)
    (s : Progress) :
    coded .sourceFault (m.perform settings s).2 = [.sourceFault fault] ∧
      (m.perform settings s).1 =
        { s with processor := { s.processor with
          current := none
          lastLineEmpty := false
          lookup := m.installed s.processor.lookup } } := by
  obtain ⟨comment, hc, -⟩ := id hf
  obtain ⟨text, location, ha, -⟩ := source?_eq_some_iff.mp hc
  have hm : m.perform settings s =
      ({ s with processor := { s.processor with
          current := none
          lastLineEmpty := false
          lookup := m.installed s.processor.lookup } },
        Processor.blankFindings settings text ++ [.sourceFault fault]) := by
    simp only [perform, ha, Progress.perform, Processor.step_failed hs ha hf]
  rw [hm]
  refine ⟨?_, rfl⟩
  rw [Diagnostic.coded_append, (Processor.blankFindings_allOf rfl _ _).coded_ne]
  rfl

theorem perform_not_failed {m : Moment} (hf : ∀ fault, ¬m.Fails fault) (settings : Settings)
    (s : Progress) : coded .sourceFault (m.perform settings s).2 = [] := by
  rw [perform]
  cases ha : m.action with
  | line text location => exact Processor.step_not_failed ha hf _
  | suspend => rfl
  | resume =>
    obtain ⟨p, suspended⟩ := s
    cases suspended <;> rfl

end Moment

namespace Progress

def amid (settings : Settings) (lookup : Option TitleSource) (past : List Moment) : Progress :=
  past.foldl (fun s m => (m.perform settings s).1) { processor := { lookup } }

theorem amid_concat (settings : Settings) (lookup : Option TitleSource) (past : List Moment)
    (m : Moment) :
    amid settings lookup (past ++ [m]) = (m.perform settings (amid settings lookup past)).1 := by
  simp [amid]

theorem amid_run (settings : Settings) (lookup : Option TitleSource) (titles : TitleLookup)
    (history : List Action) :
    amid settings lookup (history.map (⟨·, titles⟩)) =
      (run { processor := { lookup } } ⟨settings, titles⟩ history).1 := by
  induction history using List.reverseRecOn with
  | nil => rfl
  | append_singleton history action ih =>
    rw [List.map_append, List.map_singleton, amid_concat, run_concat, ih]
    rfl

theorem amid_told (settings : Settings) (lookup : Option TitleSource) (past : List Moment) :
    (amid settings lookup past).Told settings (Ledger.of (past.map Moment.action)) := by
  induction past using List.reverseRecOn with
  | nil => exact ⟨.start settings, .nil⟩
  | append_singleton past m ih =>
    rw [amid_concat, List.map_append, List.map_singleton, Ledger.of_concat]
    exact @perform_told ⟨settings, m.titles⟩ _ _ ih m.action

/-- A lookup that was installed stays. Without one, a client of the website is installed by the
first moment that asks. -/
theorem amid_lookup (hs : settings.source = true) (lookup : Option TitleSource)
    (past : List Moment) :
    (∃ m ∈ past, m.Asks) ∧ (amid settings lookup past).processor.lookup =
        some (lookup.getD .website) ∨
      (∀ m ∈ past, ¬m.Asks) ∧ (amid settings lookup past).processor.lookup = lookup := by
  induction past using List.reverseRecOn with
  | nil => exact .inr ⟨by simp, rfl⟩
  | append_singleton past m ih =>
    rw [amid_concat, m.perform_lookup hs]
    simp only [List.mem_append, List.mem_singleton]
    rcases ih with ⟨⟨asking, hm, ha⟩, hl⟩ | ⟨hn, hl⟩
    · rw [hl, m.installed_some]
      exact .inl ⟨⟨asking, .inl hm, ha⟩, rfl⟩
    · rw [hl]
      rcases m.installed_cases lookup with ⟨ha, hi⟩ | ⟨ha, hi⟩
      · exact .inl ⟨⟨m, .inr rfl, ha⟩, hi⟩
      · refine .inr ⟨?_, hi⟩
        rintro other (ho | rfl)
        · exact hn other ho
        · exact ha

def stanzaMoments (past : List Moment) : List Moment := (Stage.of Moment.action past).lines

theorem amid_expectedTitle (hs : settings.source = true) (lookup : Option TitleSource)
    (past : List Moment) :
    (Stage.of Moment.action past).Fits (fun lines s => s.sourceTitle = expectedTitle lines)
      (amid settings lookup past) := by
  -- only the last line decides what is expected now, so the past grows at its end
  induction past using List.reverseRecOn with
  | nil => exact ⟨rfl, .nil⟩
  | append_singleton past m ih =>
    rw [amid_concat, Stage.of_concat]
    refine ih.perform rfl m fun text location ha hl => ?_
    rw [Processor.step_sourceTitle hs ha hl, expectedTitle_concat, ih.current]

theorem perform_sourceTitle (settings : Settings) (lookup : Option TitleSource)
    (past : List Moment) (now : Moment) :
    coded .sourceTitle (now.perform settings (amid settings lookup past)).2 =
      ((Ledger.of (past.map Moment.action)).completes? now.action).elim [] fun e =>
        if e.directive = .title then
          (amid settings lookup past).processor.stanza.sourceFindings e.payload
        else [] := by
  rw [Moment.perform, perform_coded rfl (amid_told settings lookup past)]
  cases (Ledger.of (past.map Moment.action)).completes? now.action with
  | none => rfl
  | some e =>
    rw [Option.elim_some, Option.elim_some]
    split
    next hd => exact Processor.valueFindings_sourceTitle _ _ hd
    next hd =>
      refine (Processor.valueFindings_isFor _ _ e).coded_eq_nil ?_
      simpa [Code.isFor] using hd

/-- A title is told of its source exactly if the last source comment of its stanza that could be
resolved led to another title. A source comment that fails is told of once, whatever its reason,
and leaves everything as it was, the lookup included; only where none was installed, the client
that was started for the comment stays. So every lookup that was ever installed is there for good.
Titles are looked up at addresses of one place only. -/
theorem stale_titles (settings : Settings) (hs : settings.source = true)
    (lookup : Option TitleSource) (past : List Moment) (now : Moment) :
    (∀ e, (Ledger.of (past.map Moment.action)).completes? now.action = some e →
      e.directive = .title →
      (∀ expected, Stale (stanzaMoments past) e.payload expected →
        coded .sourceTitle (now.perform settings (amid settings lookup past)).2 =
          [.sourceTitle expected e.payload]) ∧
      ((∀ expected, ¬Stale (stanzaMoments past) e.payload expected) →
        coded .sourceTitle (now.perform settings (amid settings lookup past)).2 = [])) ∧
    ((∀ e, (Ledger.of (past.map Moment.action)).completes? now.action = some e →
        e.directive ≠ .title) →
      coded .sourceTitle (now.perform settings (amid settings lookup past)).2 = []) ∧
    (∀ fault, now.Fails fault →
      coded .sourceFault (now.perform settings (amid settings lookup past)).2 =
        [.sourceFault fault] ∧
      ∃ kept, (now.perform settings (amid settings lookup past)).1 =
          { amid settings lookup past with
            processor := { (amid settings lookup past).processor with
              current := none
              lastLineEmpty := false
              lookup := kept } } ∧
        (∀ installed, (amid settings lookup past).processor.lookup = some installed →
          kept = some installed) ∧
        ((amid settings lookup past).processor.lookup = none →
          now.Asks ∧ kept = some .website ∨ ¬now.Asks ∧ kept = none)) ∧
    ((∀ fault, ¬now.Fails fault) →
      coded .sourceFault (now.perform settings (amid settings lookup past)).2 = []) ∧
    ((∃ m ∈ past, m.Asks) ∧
        (amid settings lookup past).processor.lookup = some (lookup.getD .website) ∨
      (∀ m ∈ past, ¬m.Asks) ∧ (amid settings lookup past).processor.lookup = lookup) ∧
    (∀ first second : Url → Except SourceFault (Option String), (∀ url : Url,
        url.scheme = "https" → url.hostText? = some "help.oclc.org" → first url = second url) →
      Moment.perform ⟨now.action, .pages first⟩ settings (amid settings lookup past) =
        Moment.perform ⟨now.action, .pages second⟩ settings (amid settings lookup past)) ∧
    (∀ titles history, amid settings lookup (history.map (⟨·, titles⟩)) =
      (run { processor := { lookup } } ⟨settings, titles⟩ history).1) ∧
    Code.sourceTitle.text = "L9002" ∧ Code.sourceFault.text = "L9003" := by
  have hexpected : (amid settings lookup past).processor.stanza.sourceTitle =
      expectedTitle (stanzaMoments past) := (amid_expectedTitle hs lookup past).current
  refine ⟨fun e he hd => ?_, fun hn => ?_, fun fault hf => ?_,
    fun hf => now.perform_not_failed hf settings _, amid_lookup hs lookup past,
    fun first second h => ?_, amid_run settings lookup, rfl, rfl⟩
  · rw [perform_sourceTitle, he, Option.elim_some, if_pos hd]
    exact ⟨fun expected h => sourceFindings_stale hexpected h, sourceFindings_fresh hexpected⟩
  · rw [perform_sourceTitle]
    cases he : (Ledger.of (past.map Moment.action)).completes? now.action with
    | none => rfl
    | some e => rw [Option.elim_some, if_neg (hn e he)]
  · obtain ⟨hfound, hleft⟩ := now.perform_failed hs hf (amid settings lookup past)
    refine ⟨hfound, _, hleft, fun installed hl => ?_, fun hl => ?_⟩
    · rw [hl, now.installed_some]
    · rw [hl]
      exact now.installed_cases none
  · simp only [Moment.perform]
    cases now.action with
    | line text location => simp only [perform, Processor.step_titles_congr h]
    | suspend => rfl
    | resume => rfl

/-- Two sources of which the second is gone, one of an included file, and the first part of a
title. -/
def movedPages : List Moment :=
  [⟨.line "# Source - https://help.oclc.org/a" "f:1", .pages fun _ => .ok (some "A")⟩,
    ⟨.line "# Source - https://help.oclc.org/b" "f:2",
      .pages fun url => .error (.status 404 url.href)⟩,
    ⟨.suspend, .pages fun _ => .ok none⟩,
    ⟨.line "# Source - https://help.oclc.org/c" "g:1", .pages fun _ => .ok (some "C")⟩,
    ⟨.resume, .pages fun _ => .ok none⟩,
    ⟨.line "Title \\" "f:3", .pages fun _ => .ok none⟩]

/-- No client of the website can be started any more. -/
def offline : Moment :=
  ⟨.line " # Source - https://help.oclc.org/a" "f:4", .unavailable (.runtime "out of memory")⟩

/-- The title is the one of neither page, and it is told of the first. A comment for which no
client can be started is told of, and leaves the lookup that is there. -/
theorem stale_titles_moved :
    Stale (stanzaMoments movedPages) "B" "A" ∧
      coded .sourceTitle (Moment.perform ⟨.line "B" "f:4", .pages fun _ => .ok none⟩
        { source := true } (amid { source := true } (some .given) movedPages)).2 =
          [.sourceTitle "A" "B"] ∧
      coded .sourceFault (offline.perform { source := true }
        (amid { source := true } (some .given) movedPages)).2 =
          [.sourceFault (.runtime "out of memory")] ∧
      (offline.perform { source := true }
        (amid { source := true } (some .given) movedPages)).1.processor.lookup = some .given := by
  have hstale : Stale (stanzaMoments movedPages) "B" "A" :=
    stale_iff.mpr ⟨by decide +kernel, by decide, by decide, by decide +kernel⟩
  obtain ⟨e, he, hd, hp⟩ : ∃ e, (Ledger.of (movedPages.map Moment.action)).completes?
      (.line "B" "f:4") = some e ∧ e.directive = .title ∧ e.payload = "B" :=
    ⟨⟨.title, "Title", "Title B".toList, "f:4"⟩, by decide +kernel⟩
  have hfails : offline.Fails (.runtime "out of memory") := by
    obtain ⟨url, hurl⟩ : ∃ url, SourceComment.parse "# Source - https://help.oclc.org/a".toList =
        .ok url := ⟨_, rfl⟩
    exact ⟨"# Source - https://help.oclc.org/a".toList, by decide +kernel, .inr ⟨url, hurl, rfl⟩⟩
  obtain ⟨title, -⟩ := stale_titles { source := true } rfl (some .given) movedPages
    ⟨.line "B" "f:4", .pages fun _ => .ok none⟩
  obtain ⟨-, -, failed, -, stays, -⟩ := stale_titles { source := true } rfl (some .given)
    movedPages offline
  have htitle := (title e he hd).1 "A" (hp ▸ hstale)
  rw [hp] at htitle
  have hgiven : (amid { source := true } (some .given) movedPages).processor.lookup =
      some .given := by
    rcases stays with ⟨-, h⟩ | ⟨-, h⟩ <;> exact h
  obtain ⟨hfound, kept, hleft, hkept, -⟩ := failed _ hfails
  refine ⟨hstale, htitle, hfound, ?_⟩
  rw [hleft]
  exact hkept .given hgiven

end Progress

end StanzaLint
