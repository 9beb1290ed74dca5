import StanzaLint.Proofs.Findings

/-!
# Checks on demand

Some checks are made only if the settings ask for them, and each has codes of its
own. To process a line without some of them is to process it with them, and then to
drop what they found and what was kept for them alone (`step_without`). Nothing else
in the settings matters to a line (`step_congr`).
-/

namespace StanzaLint

inductive OptionalCheck where
  | whitespace | directiveCase | https | origins | hostnameEdits | source
  deriving DecidableEq, Repr

def Settings.makes (s : Settings) : OptionalCheck → Bool
  | .whitespace => s.whitespace
  | .directiveCase => s.directiveCase
  | .https => s.https
  | .origins => s.origins
  | .hostnameEdits => s.hostnameEdits
  | .source => s.source

def Code.check? : Code → Option OptionalCheck
  | .trailingBlank => some .whitespace
  | .wrongCase => some .directiveCase
  | .urlNotHttps => some .https
  | .originRepeated => some .origins
  | .hostnameEditFind | .hostnameEditReplace | .hostnameEditDepth => some .hostnameEdits
  | .sourceTitle | .sourceFault => some .source
  | _ => none

def Code.isSteady (c : Code) : Bool := c.check?.isNone

theorem Place.code_isSteady (place : Place) : place.code.isSteady = true := by
  cases place <;> rfl

/-- `b` asks for the checks that `a` asks for, less those that are off. -/
def Settings.Less (off : OptionalCheck → Bool) (a b : Settings) : Prop :=
  ∀ w, b.makes w = (a.makes w && !off w)

open Text
open Diagnostic (AllOf)

namespace Diagnostic

variable (off : OptionalCheck → Bool)

def without (ds : List Diagnostic) : List Diagnostic := ds.filter (!·.code.check?.any off)

@[simp] theorem without_nil : without off [] = [] := rfl

@[simp] theorem without_append (ds es : List Diagnostic) :
    without off (ds ++ es) = without off ds ++ without off es := List.filter_append ..

theorem without_ite (p : Prop) [Decidable p] (ds es : List Diagnostic) :
    without off (if p then ds else es) = if p then without off ds else without off es :=
  apply_ite (without off) p ds es

theorem AllOf.without_eq (h : AllOf Code.isSteady ds) : without off ds = ds := by
  rw [without, List.filter_eq_self]
  intro d hd
  have hn := h d hd
  rw [Code.isSteady, Option.isNone_iff_eq_none] at hn
  rw [hn]
  rfl

theorem AllOf.without_check (h : AllOf (·.check? == some w) ds) :
    without off ds = if off w then [] else ds := by
  have hd : ∀ d ∈ ds, d.code.check? = some w := fun d hd => by simpa using h d hd
  split
  next ho =>
    rw [without, List.filter_eq_nil_iff]
    intro d hm
    simp [hd d hm, ho]
  next ho =>
    rw [without, List.filter_eq_self]
    intro d hm
    simpa [hd d hm] using ho

end Diagnostic

-- ---------------------------------------------------------------------------
-- The state of a stanza
-- ---------------------------------------------------------------------------

namespace Stanza

variable (off : OptionalCheck → Bool) (s : Stanza)

def without : Stanza :=
  { s with
    hostnameEdits := if off .hostnameEdits then [] else s.hostnameEdits
    source := if off .source then "" else s.source
    sourceTitle := if off .source then "" else s.sourceTitle }

theorem without_empty : ({} : Stanza).without off = {} := by
  simp [without]

variable {off} {a b : Settings}

theorem withHostnameEdit_without (h : a.Less off b) (payload : String) :
    (s.without off).withHostnameEdit b payload = (s.withHostnameEdit a payload).without off := by
  have hb : b.hostnameEdits = (a.hostnameEdits && !off .hostnameEdits) := h .hostnameEdits
  rw [withHostnameEdit_eq, withHostnameEdit_eq]
  simp only [without, hb]
  congr 1
  cases off .hostnameEdits <;> cases hostnameEdit? payload <;> simp

theorem carried_without (h : a.Less off b) : Carried (without off) id a b where
  openOptions _ := rfl
  title _ := rfl
  url _ := rfl
  urlOrigin _ := rfl
  setOptions _ _ := rfl
  setTitle _ _ := rfl
  setUrl _ _ := rfl
  setOrigin _ _ _ := rfl
  setUserHeader _ _ := rfl
  setAnonymousUrl _ _ := rfl
  setSeparator _ _ := rfl
  note _ _ _ := rfl
  edit s payload := s.withHostnameEdit_without h payload

theorem after_without (h : a.Less off b) (e : Entry) :
    (s.without off).after b e = (s.after a e).without off :=
  (carried_without h).after s e

end Stanza

-- ---------------------------------------------------------------------------
-- What is found
-- ---------------------------------------------------------------------------

namespace Stanza

variable {off : OptionalCheck → Bool} {a b : Settings} (s : Stanza)

theorem sourceFindings_without (title : String) :
    (s.without off).sourceFindings title = Diagnostic.without off (s.sourceFindings title) := by
  have hk : AllOf (·.check? == some .source) (s.sourceFindings title) :=
    .ite .nil (.singleton rfl)
  rw [hk.without_check]
  cases ho : off .source <;> simp [sourceFindings, without, ho]

theorem hostnameEditFindings_without (h : a.Less off b) (payload : String) :
    (s.without off).hostnameEditFindings b payload =
      Diagnostic.without off (s.hostnameEditFindings a payload) := by
  have hb : b.hostnameEdits = (a.hostnameEdits && !off .hostnameEdits) := h .hostnameEdits
  unfold hostnameEditFindings
  cases hostnameEdit? payload with
  | none => rfl
  | some pair =>
    dsimp only
    have hk : AllOf (·.check? == some .hostnameEdits)
        ((if endsWith ['$'] pair.1 then [] else [.hostnameEditFind]) ++
          (if hyphenated (domainOf pair.1) = pair.2 then [] else [.hostnameEditReplace]) ++
          s.depthFindings (domainOf pair.1)) :=
      .append (.append (.ite .nil (.singleton rfl)) (.ite .nil (.singleton rfl)))
        (.map (fun _ => rfl) _)
    rw [Diagnostic.without_ite, hk.without_check, hb]
    cases ho : off .hostnameEdits with
    | true => simp
    | false => simp [depthFindings, without, ho]

end Stanza

namespace Processor

variable {off : OptionalCheck → Bool} {a b : Settings} (p : Processor)

def without (off : OptionalCheck → Bool) (p : Processor) : Processor :=
  { p with
    stanza := p.stanza.without off
    lookup := if off .source then none else p.lookup }

@[simp] theorem current_without : (p.without off).current = p.current := rfl

@[simp] theorem lastLineEmpty_without : (p.without off).lastLineEmpty = p.lastLineEmpty := rfl

theorem titleFindings_without (title : String) :
    (p.without off).titleFindings title = Diagnostic.without off (p.titleFindings title) := by
  have hk : AllOf Code.isSteady ((if p.stanza.title = "" then [] else [.duplicateTitle]) ++
      (p.titles.location? title).toList.map .titleSeen) :=
    .append (.ite .nil (.singleton rfl)) (.map (fun _ => rfl) _)
  unfold titleFindings
  rw [Diagnostic.without_append, hk.without_eq, ← Stanza.sourceFindings_without]
  rfl

theorem startingPointFindings_without (h : a.Less off b) (value : String) :
    (p.without off).startingPointFindings b value =
      Diagnostic.without off (p.startingPointFindings a value) := by
  have hb : b.https = (a.https && !off .https) := h .https
  unfold startingPointFindings
  split
  · rfl
  · rfl
  next url _ =>
    have hk : AllOf Code.isSteady (p.originFindings url) := .map (fun _ => rfl) _
    have hs : AllOf (·.check? == some .https)
        (if a.https ∧ url.scheme ≠ "https" then [Diagnostic.urlNotHttps] else []) :=
      .ite (.singleton rfl) .nil
    rw [Diagnostic.without_append, hk.without_eq, hs.without_check, hb]
    cases ho : off .https with
    | true => simp [originFindings, without]
    | false => simp [originFindings, without]

theorem urlFindings_without (h : a.Less off b) (text : List Char) :
    (p.without off).urlFindings b text = Diagnostic.without off (p.urlFindings a text) := by
  unfold urlFindings
  dsimp only
  rw [startingPointFindings_without p h, Diagnostic.without_append]
  congr 1
  refine (AllOf.without_eq off ?_).symm
  exact .append (.append (.ite (.singleton rfl) .nil) (.ite .nil (.singleton rfl)))
    (.ite (.singleton rfl) .nil)

theorem hostFindings_without (h : a.Less off b) (payload : String) :
    (p.without off).hostFindings b payload =
      Diagnostic.without off (p.hostFindings a payload) := by
  have hb : b.origins = (a.origins && !off .origins) := h .origins
  unfold hostFindings
  split
  · rfl
  next url _ =>
    have hk : AllOf Code.isSteady (p.originFindings url) := .map (fun _ => rfl) _
    have hs : AllOf (·.check? == some .origins)
        ((p.stanza.origins.location? url.origin).toList.map .originRepeated) :=
      .map (fun _ => rfl) _
    rw [Diagnostic.without_append, hk.without_eq, Diagnostic.without_ite, hs.without_check, hb]
    cases ho : off .origins with
    | true => simp [originFindings, without]
    | false => simp [originFindings, without, Stanza.without]

theorem domainFindings_steady (payload : String) :
    AllOf Code.isSteady (domainFindings payload) := by
  unfold domainFindings
  split
  · exact .singleton rfl
  · exact .nil
  · exact .singleton rfl

theorem valueFindings_without (h : a.Less off b) (e : Entry) :
    (p.without off).valueFindings b e = Diagnostic.without off (p.valueFindings a e) := by
  unfold valueFindings
  split
  · exact p.stanza.hostnameEditFindings_without h e.payload
  · exact p.titleFindings_without e.payload
  · exact p.urlFindings_without h e.text
  · exact p.hostFindings_without h e.payload
  · exact p.hostFindings_without h e.payload
  · exact ((domainFindings_steady e.payload).without_eq off).symm
  · exact ((domainFindings_steady e.payload).without_eq off).symm
  · rfl

theorem blankFindings_without (h : a.Less off b) (line : String) :
    blankFindings b line = Diagnostic.without off (blankFindings a line) := by
  have hb : b.whitespace = (a.whitespace && !off .whitespace) := h .whitespace
  have hk : AllOf (·.check? == some .whitespace) (blankFindings a line) :=
    .ite (.singleton rfl) .nil
  rw [hk.without_check, blankFindings, blankFindings, hb]
  cases off .whitespace <;> simp

theorem caseFindings_without (h : a.Less off b) (label : String) (found : Directive.Match) :
    caseFindings b label found = Diagnostic.without off (caseFindings a label found) := by
  have hb : b.directiveCase = (a.directiveCase && !off .directiveCase) := h .directiveCase
  cases found with
  | exact d => rfl
  | wrongCase d =>
    have hk : AllOf (·.check? == some .directiveCase) (caseFindings a label (.wrongCase d)) :=
      .ite (.singleton rfl) .nil
    rw [hk.without_check, caseFindings, caseFindings, hb]
    cases off .directiveCase <;> simp

theorem labelFindings_without (h : a.Less off b) (text : List Char) :
    labelFindings b text = Diagnostic.without off (labelFindings a text) := by
  unfold labelFindings
  split
  · rfl
  · split
    · rfl
    · exact caseFindings_without h _ _

-- ---------------------------------------------------------------------------
-- Lines
-- ---------------------------------------------------------------------------

/-- What a line leaves and what is found on it, without the checks that are off. -/
def restricted (off : OptionalCheck → Bool) :
    Processor × List Diagnostic → Processor × List Diagnostic :=
  Prod.map (without off) (Diagnostic.without off)

@[simp] theorem restricted_fst (result : Processor × List Diagnostic) :
    (restricted off result).1 = result.1.without off := rfl

@[simp] theorem restricted_snd (result : Processor × List Diagnostic) :
    (restricted off result).2 = Diagnostic.without off result.2 := rfl

theorem entry_without (h : a.Less off b) (e : Entry) :
    (p.without off).entry b e = restricted off (p.entry a e) := by
  have hf := (p.stanza.findFindings_allOf rfl e.directive).without_eq off
  have ho := (p.stanza.orderFindings_allOf Place.code_isSteady e.directive e.payload).without_eq off
  simp only [entry, restricted, Prod.map, Diagnostic.without_append, hf, ho,
    ← p.valueFindings_without h]
  simp only [without, Stanza.after_without _ h]
  rfl

theorem logicalLine_without (h : a.Less off b) (text : List Char) (location : String) :
    (p.without off).logicalLine b text location =
      restricted off (p.logicalLine a text location) := by
  rw [logicalLine_eq, logicalLine_eq, labelFindings_without h]
  cases Entry.of? text location with
  | none => rfl
  | some e =>
    have he := p.unseparated.entry_without h e
    simp only [restricted, Prod.map, Diagnostic.without_append] at he ⊢
    exact congrArg (fun r => (r.1, Diagnostic.without off (labelFindings a text) ++ r.2)) he

variable (titles : TitleLookup)

theorem comment_without (h : a.Less off b) (text : List Char) :
    (p.without off).comment ⟨b, titles⟩ text = restricted off (p.comment ⟨a, titles⟩ text) := by
  have hb : b.source = (a.source && !off .source) := h .source
  rw [comment_eq, comment_eq]
  cases ho : off .source with
  | true =>
    -- the comment is passed over, and all that it would have left is dropped
    have hpassed : sourceOf? ⟨b, titles⟩ text = none := by simp [sourceOf?, hb, ho]
    have hasks : asks ⟨b, titles⟩ text = false := by simp [asks, hb, ho]
    rw [hpassed, hasks]
    rcases sourceOf? ⟨a, titles⟩ text with _ | fault | ⟨url, title⟩ <;>
      simp [restricted, without, Stanza.without, Stanza.sourced, sourceFindings,
        Diagnostic.without, Diagnostic.code, Code.check?, ho]
  | false =>
    have hsource : sourceOf? ⟨b, titles⟩ text = sourceOf? ⟨a, titles⟩ text := by
      simp [sourceOf?, hb, ho]
    have hasks : asks ⟨b, titles⟩ text = asks ⟨a, titles⟩ text := by simp [asks, hb, ho]
    rw [hsource, hasks]
    rcases sourceOf? ⟨a, titles⟩ text with _ | fault | ⟨url, title⟩ <;>
      simp [restricted, without, Stanza.without, Stanza.sourced, sourceFindings,
        Diagnostic.without, Diagnostic.code, Code.check?, ho]

theorem complete_without (h : a.Less off b) (text : List Char) (location : String) :
    (p.without off).complete b text location = restricted off (p.complete a text location) := by
  unfold complete
  rw [apply_ite (restricted off)]
  simp only [← logicalLine_without _ h]
  rfl

theorem read_without (h : a.Less off b) (line : Line) (location : String) :
    (p.without off).read ⟨b, titles⟩ line location =
      restricted off (p.read ⟨a, titles⟩ line location) := by
  cases line with
  | closing =>
    have hc := (p.stanza.closingFindings_allOf rfl rfl rfl rfl).without_eq off
    simp only [read, close, restricted, Prod.map, hc, without, Stanza.without_empty]
    rfl
  | comment text =>
    exact comment_without { p with current := none, lastLineEmpty := false } titles h text
  | unfinished segment => rfl
  | complete text =>
    exact complete_without { p with current := none, lastLineEmpty := false } h text location

/-- To process a line without some checks is to drop what they found, and what was kept for
them. -/
theorem step_without (h : a.Less off b) (line location : String) :
    (p.without off).step ⟨b, titles⟩ line location =
      restricted off (p.step ⟨a, titles⟩ line location) := by
  have hr := p.read_without titles h (Line.read line) location
  simp only [restricted, Prod.map] at hr
  simp only [step_eq, hr, restricted, Prod.map, Diagnostic.without_append,
    ← blankFindings_without h]

/-- Nothing but the checks that are asked for matters to a line. -/
theorem step_congr (h : ∀ w, b.makes w = a.makes w) (line location : String) :
    p.step ⟨b, titles⟩ line location = p.step ⟨a, titles⟩ line location := by
  have hl : a.Less (fun _ => false) b := fun w => by simp [h w]
  have hd : ∀ ds, Diagnostic.without (fun _ => false) ds = ds := by simp [Diagnostic.without]
  have hs := p.step_without titles hl line location
  simpa [restricted, Prod.map, hd, without, Stanza.without] using hs

end Processor

end StanzaLint
