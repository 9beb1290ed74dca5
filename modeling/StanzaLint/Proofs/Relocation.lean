import StanzaLint.Proofs.Step

/-!
# Locations are only quoted

Locations are kept beside titles and origins and quoted in later findings, but
nothing depends on them: to process a line after all locations were renamed is
to rename them afterwards (`step_relocate`). The only location that a processor
makes up itself is the empty one, which a renaming has to keep.
-/

namespace StanzaLint

namespace Seen

def relocate (f : String → String) (seen : Seen) : Seen := seen.map fun (key, place) => (key, f place)

theorem location?_relocate (f : String → String) (seen : Seen) (key : String) :
    (seen.relocate f).location? key = (seen.location? key).map f := by
  induction seen with
  | nil => rfl
  | cons entry rest ih =>
    obtain ⟨other, place⟩ := entry
    simp only [relocate, location?, List.map_cons, List.lookup_cons] at ih ⊢
    cases key == other
    · exact ih
    · rfl

theorem note_relocate (f : String → String) (seen : Seen) (key place : String) :
    (seen.relocate f).note key (f place) = (seen.note key place).relocate f := by
  simp only [note, location?_relocate, Option.isSome_map]
  split <;> rfl

theorem noteAll_relocate (f : String → String) (seen more : Seen) :
    (seen.relocate f).noteAll (more.relocate f) = (seen.noteAll more).relocate f := by
  induction more generalizing seen with
  | nil => rfl
  | cons entry rest ih =>
    have h := ih (seen.note entry.1 entry.2)
    rw [← note_relocate] at h
    exact h

end Seen

namespace Diagnostic

def relocate (f : String → String) : Diagnostic → Diagnostic
  | originSeen place => originSeen (f place)
  | titleSeen place => titleSeen (f place)
  | originRepeated place => originRepeated (f place)
  | d => d

end Diagnostic

namespace Stanza

variable (f : String → String) (s : Stanza)

def relocate : Stanza :=
  { s with urlLocation := f s.urlLocation, origins := s.origins.relocate f }

theorem carried_relocate (settings : Settings) :
    Carried (relocate f) f settings settings where
  openOptions _ := rfl
  title _ := rfl
  url _ := rfl
  urlOrigin _ := rfl
  setOptions _ _ := rfl
  setTitle _ _ := rfl
  setUrl _ _ := rfl
  setOrigin _ _ _ := rfl
  setUserHeader _ _ := rfl
  setAnonymousUrl _ _ := rfl
  setSeparator _ _ := rfl
  note s _ _ := by simp only [relocate, Seen.note_relocate]
  edit s payload := by
    rw [withHostnameEdit_eq, withHostnameEdit_eq]
    rfl

theorem after_relocate (settings : Settings) (e : Entry) :
    (s.relocate f).after settings (e.relocate f) = (s.after settings e).relocate f :=
  (carried_relocate f settings).after s e

theorem contribution_relocate : (s.relocate f).contribution = s.contribution.relocate f := by
  unfold contribution
  rw [Seen.relocate, List.map_append, apply_ite (List.map _)]
  rfl

end Stanza

theorem Entry.of?_relocate (f : String → String) (text : List Char) (location : String) :
    Entry.of? text (f location) = (Entry.of? text location).map (Entry.relocate f) := by
  unfold Entry.of?
  cases labelOf? text with
  | none => rfl
  | some label => cases h : Directive.find? label <;> simp [h, Entry.relocate]

/-! ### Findings -/

namespace Stanza

variable (f : String → String) (s : Stanza)

theorem expect_relocate (allowed : Bool) (place : Place) :
    (s.expect allowed place).map (Diagnostic.relocate f) = s.expect allowed place := by
  unfold expect
  split <;> rfl

theorem orderFindings_relocate (d : Directive) (payload : String) :
    (s.relocate f).orderFindings d payload =
      (s.orderFindings d payload).map (Diagnostic.relocate f) := by
  have hs : (s.relocate f).orderFindings d payload = s.orderFindings d payload := rfl
  rw [hs]
  unfold orderFindings openerFindings closerFindings userHeaderFindings anonymousUrlFindings
    titleOrderFindings
  split
  · rw [expect_relocate]
  · split
    · simp only [apply_ite (List.map (Diagnostic.relocate f)), expect_relocate, List.map_nil]
    · split <;> simp only [apply_ite (List.map (Diagnostic.relocate f)), List.map_append,
        expect_relocate, List.map_nil]

theorem findFindings_relocate (d : Directive) :
    (s.relocate f).findFindings d = (s.findFindings d).map (Diagnostic.relocate f) := by
  unfold findFindings
  rw [apply_ite (List.map (Diagnostic.relocate f))]
  rfl

theorem hostnameEditFindings_relocate (settings : Settings) (payload : String) :
    (s.relocate f).hostnameEditFindings settings payload =
      (s.hostnameEditFindings settings payload).map (Diagnostic.relocate f) := by
  have hdepth (domain : List Char) : (s.relocate f).depthFindings domain =
      (s.depthFindings domain).map (Diagnostic.relocate f) := by
    simp [depthFindings, Diagnostic.relocate, relocate]
  unfold hostnameEditFindings
  split
  · rfl
  · simp only [apply_ite (List.map (Diagnostic.relocate f)), List.map_append, hdepth]
    rfl

theorem sourceFindings_relocate (title : String) :
    (s.relocate f).sourceFindings title =
      (s.sourceFindings title).map (Diagnostic.relocate f) := by
  unfold sourceFindings
  rw [apply_ite (List.map (Diagnostic.relocate f))]
  rfl

theorem closingFindings_relocate :
    (s.relocate f).closingFindings = s.closingFindings.map (Diagnostic.relocate f) := by
  have ho : (s.openOptions.map (Diagnostic.unclosedOption s.title)).map (Diagnostic.relocate f) =
      s.openOptions.map (.unclosedOption s.title) := by
    simp [Diagnostic.relocate]
  unfold closingFindings
  simp only [apply_ite (List.map (Diagnostic.relocate f)), List.map_append, ho]
  rfl

end Stanza

namespace Processor

variable (f : String → String) (p : Processor)

def relocate : Processor :=
  { p with
      stanza := p.stanza.relocate f
      titles := p.titles.relocate f
      origins := p.origins.relocate f }

theorem originFindings_relocate (url : Url) :
    (p.relocate f).originFindings url =
      (p.originFindings url).map (Diagnostic.relocate f) := by
  have h : (p.relocate f).origins = p.origins.relocate f := rfl
  rw [originFindings, originFindings, h, Seen.location?_relocate]
  cases p.origins.location? url.origin <;> rfl

theorem titleFindings_relocate (title : String) :
    (p.relocate f).titleFindings title =
      (p.titleFindings title).map (Diagnostic.relocate f) := by
  have ht : (p.relocate f).titles = p.titles.relocate f := rfl
  have hs : (p.relocate f).stanza = p.stanza.relocate f := rfl
  have hseen : ((p.titles.location? title).map f).toList.map Diagnostic.titleSeen =
      ((p.titles.location? title).toList.map Diagnostic.titleSeen).map (Diagnostic.relocate f) := by
    cases p.titles.location? title <;> rfl
  unfold titleFindings
  rw [ht, hs, Seen.location?_relocate, Stanza.sourceFindings_relocate, hseen, List.map_append,
    List.map_append, apply_ite (List.map (Diagnostic.relocate f))]
  rfl

theorem startingPointFindings_relocate (settings : Settings) (value : String) :
    (p.relocate f).startingPointFindings settings value =
      (p.startingPointFindings settings value).map (Diagnostic.relocate f) := by
  unfold startingPointFindings
  split
  · rfl
  · rfl
  · rw [originFindings_relocate, List.map_append, apply_ite (List.map (Diagnostic.relocate f))]
    rfl

theorem urlFindings_relocate (settings : Settings) (text : List Char) :
    (p.relocate f).urlFindings settings text =
      (p.urlFindings settings text).map (Diagnostic.relocate f) := by
  unfold urlFindings
  simp only [startingPointFindings_relocate, List.map_append,
    apply_ite (List.map (Diagnostic.relocate f))]
  rfl

theorem hostFindings_relocate (settings : Settings) (payload : String) :
    (p.relocate f).hostFindings settings payload =
      (p.hostFindings settings payload).map (Diagnostic.relocate f) := by
  have hs : (p.relocate f).stanza.origins = p.stanza.origins.relocate f := rfl
  unfold hostFindings
  split
  · rfl
  · rw [originFindings_relocate, List.map_append, hs, Seen.location?_relocate,
      apply_ite (List.map (Diagnostic.relocate f))]
    congr 2
    cases p.stanza.origins.location? _ <;> rfl

theorem domainFindings_relocate (payload : String) :
    domainFindings payload = (domainFindings payload).map (Diagnostic.relocate f) := by
  unfold domainFindings
  split <;> rfl

theorem valueFindings_relocate (settings : Settings) (e : Entry) :
    (p.relocate f).valueFindings settings (e.relocate f) =
      (p.valueFindings settings e).map (Diagnostic.relocate f) := by
  unfold valueFindings
  rw [Entry.directive_relocate, Entry.payload_relocate]
  split
  · exact p.stanza.hostnameEditFindings_relocate f settings e.payload
  · exact p.titleFindings_relocate f e.payload
  · exact p.urlFindings_relocate f settings e.text
  · exact p.hostFindings_relocate f settings e.payload
  · exact p.hostFindings_relocate f settings e.payload
  · exact domainFindings_relocate f e.payload
  · exact domainFindings_relocate f e.payload
  · rfl

/-! ### Lines -/

/-- Renames the locations in what a line leaves and in what is found on it. -/
def relocated : Processor × List Diagnostic → Processor × List Diagnostic :=
  Prod.map (relocate f) (List.map (Diagnostic.relocate f))

theorem entry_relocate (settings : Settings) (e : Entry) :
    (p.relocate f).entry settings (e.relocate f) = relocated f (p.entry settings e) := by
  have htitles : (if e.directive = .title then
        (p.titles.relocate f).note e.payload (f e.location) else p.titles.relocate f) =
      (if e.directive = .title then p.titles.note e.payload e.location else p.titles).relocate f := by
    rw [apply_ite (Seen.relocate f), Seen.note_relocate]
  unfold entry relocated
  simp only [Prod.map, List.map_append, ← valueFindings_relocate, ← Stanza.findFindings_relocate,
    ← Stanza.orderFindings_relocate]
  unfold relocate
  simp only [Entry.directive_relocate, Entry.payload_relocate, Stanza.after_relocate, ← htitles]
  rfl

theorem caseFindings_relocate (settings : Settings) (label : String) (found : Directive.Match) :
    (caseFindings settings label found).map (Diagnostic.relocate f) =
      caseFindings settings label found := by
  cases found with
  | exact d => rfl
  | wrongCase d =>
    simp only [caseFindings, apply_ite (List.map (Diagnostic.relocate f))]
    rfl

theorem labelFindings_relocate (settings : Settings) (text : List Char) :
    (labelFindings settings text).map (Diagnostic.relocate f) = labelFindings settings text := by
  unfold labelFindings
  split
  · rfl
  · split
    · rfl
    · exact caseFindings_relocate f settings _ _

theorem logicalLine_relocate (settings : Settings) (text : List Char) (location : String) :
    (p.relocate f).logicalLine settings text (f location) =
      relocated f (p.logicalLine settings text location) := by
  rw [logicalLine_eq, logicalLine_eq, Entry.of?_relocate]
  cases Entry.of? text location with
  | none =>
    simp only [Option.map_none, relocated, Prod.map, labelFindings_relocate]
    rfl
  | some e =>
    have he := p.unseparated.entry_relocate f settings e
    simp only [Option.map_some, relocated, Prod.map, List.map_append, labelFindings_relocate]
      at he ⊢
    exact congrArg (fun r => (r.1, labelFindings settings text ++ r.2)) he

theorem close_relocate (hf : f "" = "") : (p.relocate f).close = relocated f p.close := by
  have hs : ({} : Stanza).relocate f = {} := by
    unfold Stanza.relocate
    rw [hf]
    rfl
  simp only [close, relocated, Prod.map, ← Stanza.closingFindings_relocate, relocate, hs,
    ← Seen.noteAll_relocate, ← Stanza.contribution_relocate]

theorem comment_relocate (checks : Checks) (text : List Char) :
    (p.relocate f).comment checks text = relocated f (p.comment checks text) := by
  rw [comment_eq, comment_eq]
  rcases sourceOf? checks text with _ | _ | _ <;> rfl

theorem complete_relocate (settings : Settings) (text : List Char) (location : String) :
    (p.relocate f).complete settings text (f location) =
      relocated f (p.complete settings text location) := by
  unfold complete
  rw [apply_ite (relocated f)]
  simp only [← logicalLine_relocate]
  rfl

theorem read_relocate (hf : f "" = "") (checks : Checks) (line : Line) (location : String) :
    (p.relocate f).read checks line (f location) =
      relocated f (p.read checks line location) := by
  cases line with
  | closing => exact ({ p with current := none }).close_relocate f hf
  | comment text =>
    exact ({ p with current := none, lastLineEmpty := false }).comment_relocate f checks text
  | unfinished segment => rfl
  | complete text =>
    exact ({ p with current := none, lastLineEmpty := false }).complete_relocate f _ text location

/-- Locations are carried along: to rename them and to process a line is the same in either
order. -/
theorem step_relocate (hf : f "" = "") (checks : Checks) (line location : String) :
    (p.relocate f).step checks line (f location) =
      relocated f (p.step checks line location) := by
  have hr := p.read_relocate f hf checks (Line.read line) location
  simp only [relocated, Prod.map] at hr
  simp only [step, hr, relocated, Prod.map, List.map_append,
    apply_ite (List.map (Diagnostic.relocate f))]
  rfl

end Processor

end StanzaLint
