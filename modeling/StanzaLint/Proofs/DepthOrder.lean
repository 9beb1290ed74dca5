import StanzaLint.Proofs.Coherence
import StanzaLint.Proofs.Replay
import StanzaLint.Proofs.StanzaLines
import StanzaLint.Proofs.Trimming

/-!
# The depth of hostname edits

A hostname edit is told of every earlier edit of its stanza with a domain above its
own. What is remembered for this are the domains of the complete edits, each once, in
the order in which they were first named (`Tells.domains`). A domain lies below
another one if it ends with it behind a point, whatever signs it has. So the edits of
a stanza are all in order exactly if no domain lies below one that is named before it
(`depth_order`).
-/

namespace StanzaLint

open Diagnostic (coded)

def IsBelow (domain above : String) : Prop := '.' :: above.toList <:+ domain.toList

instance (domain above : String) : Decidable (IsBelow domain above) :=
  inferInstanceAs (Decidable (_ <:+ _))

theorem hostnameEdit?_eq_some_iff {payload : String} {find replace : List Char} :
    hostnameEdit? payload = some (find, replace) ↔ Text.words payload.toList = [find, replace] := by
  unfold hostnameEdit?
  split
  next h => simp [h]
  next h => simpa using h find replace

namespace Entry

def domain? (e : Entry) : Option String :=
  if e.directive = .proxyHostnameEdit then
    (hostnameEdit? e.payload).map fun pair => String.ofList (domainOf pair.1)
  else none

theorem domain?_eq_some_iff {e : Entry} {domain : String} :
    e.domain? = some domain ↔ e.directive = .proxyHostnameEdit ∧
      ∃ find replace, Text.words e.payload.toList = [find, replace] ∧
        (find = domain.toList ++ ['$'] ∨ find.getLast? ≠ some '$' ∧ find = domain.toList) := by
  have hof : ∀ cs : List Char, String.ofList cs = domain ↔ cs = domain.toList := by
    intro cs
    constructor
    · rintro rfl
      exact String.toList_ofList.symm
    · rintro rfl
      exact String.ofList_toList
  have hfind : ∀ find : List Char, domainOf find = domain.toList ↔
      find = domain.toList ++ ['$'] ∨ find.getLast? ≠ some '$' ∧ find = domain.toList := by
    intro find
    unfold domainOf
    cases hd : Text.dropSuffix? ['$'] find with
    | none =>
      have hlast : find.getLast? ≠ some '$' := by
        rw [Text.dropSuffix?_singleton] at hd
        simpa using hd
      have hne : find ≠ domain.toList ++ ['$'] := by
        rintro rfl
        simp at hlast
      simp [hlast, hne]
    | some rest =>
      rw [Text.dropSuffix?_eq_some_iff] at hd
      simp [hd]
  unfold domain?
  split
  next hd =>
    simp only [hd, true_and, Option.map_eq_some_iff, hof, hfind, Prod.exists,
      hostnameEdit?_eq_some_iff]
  next hd => simp [hd]

end Entry

/-- The domains of the complete hostname edits, in the order of their lines. -/
def Sheet.domains (sheet : Sheet) : List String := sheet.entries.filterMap Entry.domain?

-- ---------------------------------------------------------------------------
-- What is remembered
-- ---------------------------------------------------------------------------

namespace Stanza

variable {settings : Settings} {sheet : Sheet} {s : Stanza}

theorem after_domain (hs : settings.hostnameEdits = true) (s : Stanza) (e : Entry) :
    (s.after settings e).hostnameEdits.map (·.domain) =
      s.hostnameEdits.map (·.domain) ++
        e.domain?.toList.removeAll (s.hostnameEdits.map (·.domain)) := by
  rw [after_hostnameEdits, Entry.domain?]
  split
  · rw [withHostnameEdit_eq]
    cases hostnameEdit? e.payload with
    | none => simp [List.removeAll]
    | some pair =>
      by_cases hm : String.ofList (domainOf pair.1) ∈ s.hostnameEdits.map (·.domain) <;>
        simp [hs, hm, List.removeAll, -List.mem_map]
  · simp [List.removeAll]

theorem written_domains (hs : settings.hostnameEdits = true) (sheet : Sheet) :
    (written settings sheet.lines).hostnameEdits.map (·.domain) = sheet.domains.eraseDups := by
  obtain ⟨lines, pending⟩ := sheet
  simp only [Sheet.domains, Sheet.entries]
  induction lines using List.reverseRecOn with
  | nil => rfl
  | append_singleton lines l ih =>
    have hclear : { written settings lines with isSeparator := false }.hostnameEdits.map
        HostnameEdit.domain =
          ((lines.filterMap fun l => Entry.of? l.1 l.2).filterMap Entry.domain?).eraseDups := ih
    rw [written_concat, logical, List.filterMap_append, List.filterMap_append,
      List.eraseDups_append, List.filterMap_cons, List.filterMap_nil]
    cases Entry.of? l.1 l.2 with
    | none => simpa [List.removeAll] using hclear
    | some e =>
      dsimp only
      rw [after_domain hs, hclear]
      generalize (lines.filterMap fun l => Entry.of? l.1 l.2).filterMap Entry.domain? = domains
      cases hd : e.domain? with
      | none => simp [hd, List.removeAll]
      | some domain =>
        by_cases hm : domain ∈ domains <;> simp [hd, hm, List.removeAll, List.eraseDups_cons]

theorem written_edits (settings : Settings) (lines : List (List Char × String)) :
    Edits settings (written settings lines).hostnameEdits := by
  induction lines using List.reverseRecOn with
  | nil => exact (coherent_empty settings).edits
  | append_singleton lines l ih =>
    rw [written_concat, logical]
    cases Entry.of? l.1 l.2 with
    | none => exact ih
    | some e => exact Edits.after (s := { written settings lines with isSeparator := false }) ih e

theorem Tells.domains (h : s.Tells settings sheet) (hs : settings.hostnameEdits = true) :
    s.hostnameEdits.map (·.domain) = sheet.domains.eraseDups := by
  rw [← written_domains hs, ← h.plain]
  rfl

theorem Tells.edits (h : s.Tells settings sheet) : Edits settings s.hostnameEdits := by
  have hedits := written_edits settings sheet.lines
  rw [← h.plain] at hedits
  exact hedits

end Stanza

-- ---------------------------------------------------------------------------
-- What is found
-- ---------------------------------------------------------------------------

theorem isBelow_iff (domain above : String) :
    IsBelow domain above ↔ (Pattern.read? (Stanza.subdomainPattern above).toList).any
      (Pattern.isIn · domain.toList) = true := by
  obtain ⟨parts, hr, hp⟩ := Pattern.isIn_subdomain above
  rw [hr, Option.any_some, hp, Text.endsWith_eq, decide_eq_true_iff, IsBelow]

theorem Stanza.Edits.depthFindings_isBelow {s : Stanza} (h : Edits settings s.hostnameEdits)
    (domain : String) :
    s.depthFindings domain.toList =
      ((s.hostnameEdits.map (·.domain)).filter (IsBelow domain ·)).map .hostnameEditDepth := by
  rw [Stanza.depthFindings, List.filter_map, List.map_map]
  refine congrArg (List.map _) (List.filter_congr fun edit he => ?_)
  rw [h.pattern edit he, Bool.eq_iff_iff, Function.comp_apply, decide_eq_true_iff, isBelow_iff]
  rfl

theorem Processor.valueFindings_depth {p : Processor} {settings : Settings}
    (h : Stanza.Edits settings p.stanza.hostnameEdits) (hs : settings.hostnameEdits = true)
    (e : Entry) :
    coded .hostnameEditDepth (p.valueFindings settings e) =
      e.domain?.elim [] fun domain =>
        ((p.stanza.hostnameEdits.map (·.domain)).filter (IsBelow domain ·)).map
          .hostnameEditDepth := by
  unfold Entry.domain?
  split
  next hd =>
    simp only [valueFindings, hd, Stanza.hostnameEditFindings, hs, if_true]
    cases hostnameEdit? e.payload with
    | none => rfl
    | some pair =>
      have hdepth := h.depthFindings_isBelow (String.ofList (domainOf pair.1))
      rw [String.toList_ofList] at hdepth
      have hcoded := Diagnostic.coded_map Diagnostic.hostnameEditDepth (fun _ => rfl)
      simp only [Option.map_some, Option.elim_some, hdepth, hcoded, Diagnostic.coded_append]
      simp [Diagnostic.code]
  next hd =>
    refine (p.valueFindings_isFor settings e).coded_eq_nil ?_
    simp [Code.isFor, hd]

/-- What is found about the depth of the edit that a line completes. -/
def Sheet.depths (sheet : Sheet) (location : String) (line : Line) : List Diagnostic :=
  ((sheet.completes? location line).bind Entry.domain?).elim [] fun domain =>
    (sheet.domains.eraseDups.filter (IsBelow domain ·)).map .hostnameEditDepth

theorem Processor.step_depths {checks : Checks} (hs : checks.settings.hostnameEdits = true)
    {p : Processor} (h : p.stanza.Tells checks.settings sheet) (text location : String) :
    coded .hostnameEditDepth (p.step checks text location).2 =
      sheet.depths location (Line.read text) := by
  rw [step_coded rfl h, Sheet.depths]
  cases sheet.completes? location (Line.read text) with
  | none => rfl
  | some e =>
    rw [Option.elim_some, valueFindings_depth h.edits hs, Option.bind_some, h.domains hs]

def Sheet.InDepthOrder (sheet : Sheet) : Prop :=
  sheet.domains.Pairwise fun above domain => ¬IsBelow domain above

theorem Sheet.inDepthOrder_read {line : Line} (hl : line ≠ .closing) (sheet : Sheet)
    (location : String) :
    (sheet.read location line).InDepthOrder ↔
      sheet.InDepthOrder ∧ sheet.depths location line = [] := by
  unfold InDepthOrder domains depths
  rw [Sheet.entries_read hl, List.filterMap_append]
  cases sheet.completes? location line with
  | none => simp
  | some e =>
    cases hd : e.domain? with
    | none => simp [hd]
    | some domain => simp [hd, List.pairwise_append, domains]

theorem IsBelow.count_lt (h : IsBelow domain above) :
    above.toList.count '.' < domain.toList.count '.' := by
  have hle : ('.' :: above.toList).count '.' ≤ domain.toList.count '.' := h.sublist.count_le '.'
  rw [List.count_cons_self] at hle
  omega

theorem Sheet.inDepthOrder_of_count {sheet : Sheet}
    (h : sheet.domains.Pairwise fun first later =>
      later.toList.count '.' ≤ first.toList.count '.') : sheet.InDepthOrder :=
  h.imp fun hle hb => absurd hb.count_lt (by omega)

-- ---------------------------------------------------------------------------
-- Whole stanzas
-- ---------------------------------------------------------------------------

namespace Progress

def deeds (checks : Checks) (history : List Action) : List Deed :=
  history.zipWith Deed.mk (run {} checks history).2

theorem deeds_concat (checks : Checks) (history : List Action) (action : Action) :
    deeds checks (history ++ [action]) = deeds checks history ++
      [⟨action, ((run {} checks history).1.perform checks action).2⟩] := by
  rw [deeds, run_append, List.zipWith_append (run_length {} checks history).symm]
  rfl

/-- The lines of the stanza in which a history ends, with what was found at them. -/
def stanzaDeeds (checks : Checks) (history : List Action) : List Deed :=
  (Stage.of Deed.action (deeds checks history)).lines

/-- The lines tell the state of their stanza, and their findings whether it is in order. -/
structure Ordered (settings : Settings) (lines : List Deed) (s : Stanza) : Prop where
  tells : s.Tells settings (Sheet.of Deed.action lines)
  order : coded .hostnameEditDepth (lines.flatMap Deed.found) = [] ↔
    (Sheet.of Deed.action lines).InDepthOrder

theorem Ordered.step {checks : Checks} (hs : checks.settings.hostnameEdits = true)
    {lines : List Deed} {p : Processor} (h : Ordered checks.settings lines p.stanza)
    (hl : Line.read text ≠ .closing) (location : String) :
    Ordered checks.settings
      (lines ++ [⟨.line text location, (p.step checks text location).2⟩])
      (p.step checks text location).1.stanza := by
  refine ⟨Processor.step_tellsOf h.tells rfl, ?_⟩
  rw [Sheet.of_concat Deed.action lines rfl, Sheet.inDepthOrder_read hl, ← h.order,
    ← Processor.step_depths hs h.tells]
  simp

theorem run_ordered (checks : Checks) (hs : checks.settings.hostnameEdits = true)
    (history : List Action) :
    (Stage.of Deed.action (deeds checks history)).Fits (Ordered checks.settings)
      (run {} checks history).1 := by
  have start : Ordered checks.settings [] {} := ⟨.start checks.settings, by
    simp [Sheet.of, Sheet.InDepthOrder, Sheet.domains, Sheet.entries]⟩
  -- the findings of a line are those of the state before it, so the history grows at its end
  induction history using List.reverseRecOn with
  | nil => exact ⟨start, .nil⟩
  | append_singleton history action ih =>
    rw [deeds_concat, Stage.of_concat, run_concat]
    refine ih.perform start _ fun text location ha hl => ?_
    cases ha
    exact ih.current.step hs hl location

/-- Every hostname edit is told of the domains above its own that its stanza named before, each
once and in their order, so a stanza has no such finding exactly if no domain lies below an
earlier one. Domains with ever fewer points are in order. -/
theorem depth_order (checks : Checks) (hs : checks.settings.hostnameEdits = true)
    (history : List Action) :
    (∀ text location,
      coded .hostnameEditDepth
          ((run {} checks history).1.perform checks (.line text location)).2 =
        (((Sheet.of Deed.action (stanzaDeeds checks history)).completes? location
            (Line.read text)).bind Entry.domain?).elim [] fun domain =>
          ((Sheet.of Deed.action (stanzaDeeds checks history)).domains.eraseDups.filter
            (IsBelow domain ·)).map .hostnameEditDepth) ∧
    (coded .hostnameEditDepth ((stanzaDeeds checks history).flatMap Deed.found) = [] ↔
      (Sheet.of Deed.action (stanzaDeeds checks history)).domains.Pairwise
        fun first later => ¬IsBelow later first) ∧
    ((Sheet.of Deed.action (stanzaDeeds checks history)).domains.Pairwise
        (fun first later => later.toList.count '.' ≤ first.toList.count '.') →
      coded .hostnameEditDepth ((stanzaDeeds checks history).flatMap Deed.found) = []) ∧
    (∀ (e : Entry) domain, e.domain? = some domain ↔ e.directive = .proxyHostnameEdit ∧
      ∃ find replace, Text.words e.payload.toList = [find, replace] ∧
        (find = domain.toList ++ ['$'] ∨ find.getLast? ≠ some '$' ∧ find = domain.toList)) ∧
    (∀ domain above, IsBelow domain above ↔
      (Pattern.read? (Stanza.subdomainPattern above).toList).any
        (Pattern.isIn · domain.toList) = true) ∧
    Code.hostnameEditDepth.text = "L1009" := by
  have h := (run_ordered checks hs history).current
  refine ⟨fun text location => ?_, h.order, fun hc => ?_, fun e domain => e.domain?_eq_some_iff,
    isBelow_iff, rfl⟩
  · exact Processor.step_depths hs h.tells text location
  · exact h.order.mpr (Sheet.inDepthOrder_of_count hc)

def editChecks : Checks := ⟨{ hostnameEdits := true }, .pages fun _ => .ok none⟩

/-- Two edits in order, one without its second half, and one of an included file. -/
def orderlyEdits : List Action :=
  [.line "ProxyHostnameEdit a.(b$ a-(b" "f:1", .line "ProxyHostnameEdit c" "f:2", .suspend,
    .line "ProxyHostnameEdit x.a.(b$ x-a-(b" "g:1", .resume, .line "ProxyHostnameEdit (b (b" "f:3"]

/-- The domain of the included file is no reason to complain, and neither is the one behind it. A
domain below both is told of them in their order. -/
theorem depth_order_orderly :
    editChecks.settings.hostnameEdits = true ∧
      (Sheet.of Deed.action (stanzaDeeds editChecks orderlyEdits)).domains = ["a.(b", "(b"] ∧
      coded .hostnameEditDepth ((stanzaDeeds editChecks orderlyEdits).flatMap Deed.found) = [] ∧
      coded .hostnameEditDepth ((run {} editChecks orderlyEdits).1.perform editChecks
          (.line "ProxyHostnameEdit x.a.(b$ x" "f:4")).2 =
        [.hostnameEditDepth "a.(b", .hostnameEditDepth "(b"] := by
  have hdomains : (Sheet.of Deed.action (stanzaDeeds editChecks orderlyEdits)).domains =
      ["a.(b", "(b"] := by decide +kernel
  have hpoints : ["a.(b", "(b"].Pairwise fun first later =>
      later.toList.count '.' ≤ first.toList.count '.' := by decide +kernel
  have hnext : ((Sheet.of Deed.action (stanzaDeeds editChecks orderlyEdits)).completes? "f:4"
      (Line.read "ProxyHostnameEdit x.a.(b$ x")).bind Entry.domain? = some "x.a.(b" := by
    decide +kernel
  have hbelow : (["a.(b", "(b"].eraseDups.filter (IsBelow "x.a.(b" ·)) = ["a.(b", "(b"] := by
    decide +kernel
  obtain ⟨line, -, counts, -⟩ := depth_order editChecks rfl orderlyEdits
  rw [hdomains] at counts
  have hline := line "ProxyHostnameEdit x.a.(b$ x" "f:4"
  rw [hnext, Option.elim_some, hdomains, hbelow] at hline
  exact ⟨rfl, hdomains, counts hpoints, hline⟩

end Progress

end StanzaLint
