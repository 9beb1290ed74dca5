import StanzaLint.Proofs.Findings
import StanzaLint.Proofs.Profile

/-!
# Cited locations

A finding about something that was seen before cites its location. In the state an
empty location stands for none. It is never cited: whatever is kept of a title, a
starting point or a host has the location of the line that named it (`Placed`), and
every line hands this on (`step_placed`).
-/

namespace StanzaLint

namespace Seen

variable {seen more : Seen}

/-- No text has the empty location, which stands for none. -/
def Placed (seen : Seen) : Prop := ∀ key place, seen.location? key = some place → place ≠ ""

theorem Placed.note (h : seen.Placed) (hp : place ≠ "") (key : String) :
    (seen.note key place).Placed := by
  intro k other hk
  rw [location?_note, Option.or_eq_some_iff] at hk
  rcases hk with hk | ⟨-, hk⟩
  · exact h k other hk
  · rw [Option.ite_none_right_eq_some, Option.some.injEq] at hk
    exact hk.2 ▸ hp

theorem Placed.noteAll (h : seen.Placed) (hm : more.Placed) : (seen.noteAll more).Placed := by
  intro k other hk
  rw [location?_noteAll, Option.or_eq_some_iff] at hk
  rcases hk with hk | ⟨-, hk⟩
  · exact h k other hk
  · exact hm k other hk

end Seen

structure Profile.Placed (p : Profile) : Prop where
  start : p.start.1 ≠ "" → p.start.2 ≠ ""
  host : ∀ origin place, p.host origin = some place → place ≠ ""

theorem Profile.Placed.add {p : Profile} (h : p.Placed) {e : Entry} (he : e.location ≠ "") :
    (p.add e).Placed := by
  refine ⟨fun hs => ?_, fun origin place hh => ?_⟩
  · simp only [Profile.add] at hs ⊢
    split
    · exact he
    next hstart =>
      rw [if_neg hstart] at hs
      exact h.start hs
  · simp only [Profile.add, Option.or_eq_some_iff] at hh
    rcases hh with hh | ⟨-, hh⟩
    · exact h.host origin place hh
    · rw [Option.ite_none_right_eq_some, Option.some.injEq] at hh
      exact hh.2 ▸ he

theorem Stanza.contribution_placed {s : Stanza} (h : s.profile.Placed) : s.contribution.Placed := by
  intro key place hk
  by_cases ho : s.urlOrigin = ""
  · rw [contribution, if_pos ho] at hk
    exact h.host key place hk
  · rw [contribution, if_neg ho, List.singleton_append, Seen.location?_cons] at hk
    split at hk
    · cases hk
      exact h.start ho
    · exact h.host key place hk

def Code.cites : Code → Bool
  | .originSeen | .titleSeen | .originRepeated => true
  | _ => false

def Directive.located : List Directive := [.title, .url, .host, .hostJavaScript]

theorem Code.not_cites (hd : d ∉ Directive.located) (h : isFor d c = true) : c.cites = false := by
  simp only [Directive.located, List.mem_cons, List.not_mem_nil, or_false, not_or] at hd
  cases c <;> first | rfl | simp [isFor, hd] at h

namespace Diagnostic

/-- The location that is cited, if there is one, is not empty. -/
def Placed : Diagnostic → Prop
  | originSeen place | titleSeen place | originRepeated place => place ≠ ""
  | _ => True

theorem placed_of_allOf {ds : List Diagnostic} (h : AllOf (!·.cites) ds) : ∀ d ∈ ds, d.Placed := by
  intro d hd
  have hc := h d hd
  cases d with
  | originSeen place => cases hc
  | titleSeen place => cases hc
  | originRepeated place => cases hc
  | _ => trivial

theorem placed_location? (f : String → Diagnostic) (hf : ∀ place, place ≠ "" → (f place).Placed)
    {seen : Seen} (h : seen.Placed) (key : String) :
    ∀ d ∈ (seen.location? key).toList.map f, d.Placed := by
  intro d hd
  obtain ⟨place, hp, rfl⟩ := List.mem_map.mp hd
  exact hf place (h key place (by simpa using hp))

end Diagnostic

open Diagnostic (AllOf placed_of_allOf placed_location?)

theorem Entry.location_of_of? {e : Entry} {line : List Char} {place : String}
    (h : Entry.of? line place = some e) : e.location = place := by
  obtain ⟨label, -, h⟩ := Option.bind_eq_some_iff.mp h
  obtain ⟨found, -, h⟩ := Option.bind_eq_some_iff.mp h
  cases h
  rfl

namespace Processor

variable {p : Processor} {settings : Settings} {location : String}

/-- Everything that a later finding may cite has a location. -/
structure Placed (p : Processor) : Prop where
  stanza : p.stanza.profile.Placed
  titles : p.titles.Placed
  origins : p.origins.Placed

theorem originFindings_placed (h : p.Placed) (url : Url) : ∀ d ∈ p.originFindings url, d.Placed :=
  placed_location? .originSeen (fun _ hp => hp) h.origins url.origin

theorem titleFindings_placed (h : p.Placed) (title : String) :
    ∀ d ∈ p.titleFindings title, d.Placed := by
  refine List.forall_mem_append.mpr ⟨List.forall_mem_append.mpr ⟨?_, ?_⟩, ?_⟩
  · exact placed_of_allOf (.ite .nil (.singleton rfl))
  · exact placed_location? .titleSeen (fun _ hp => hp) h.titles title
  · exact placed_of_allOf (.ite .nil (.singleton rfl))

theorem startingPointFindings_placed (h : p.Placed) (value : String) :
    ∀ d ∈ p.startingPointFindings settings value, d.Placed := by
  unfold startingPointFindings
  split
  · exact placed_of_allOf (.singleton rfl)
  · exact placed_of_allOf (.singleton rfl)
  next url _ =>
    exact List.forall_mem_append.mpr ⟨placed_of_allOf (.ite (.singleton rfl) .nil),
      originFindings_placed h url⟩

theorem urlFindings_placed (h : p.Placed) (text : List Char) :
    ∀ d ∈ p.urlFindings settings text, d.Placed := by
  refine List.forall_mem_append.mpr ⟨?_, startingPointFindings_placed h _⟩
  exact placed_of_allOf (((AllOf.ite (.singleton rfl) .nil).append
    (.ite .nil (.singleton rfl))).append (.ite (.singleton rfl) .nil))

theorem hostFindings_placed (h : p.Placed) (payload : String) :
    ∀ d ∈ p.hostFindings settings payload, d.Placed := by
  unfold hostFindings
  split
  · exact placed_of_allOf (.singleton rfl)
  next url _ =>
    refine List.forall_mem_append.mpr ⟨originFindings_placed h url, ?_⟩
    split
    · exact placed_location? .originRepeated (fun _ hp => hp) h.stanza.host url.origin
    · exact placed_of_allOf .nil

theorem valueFindings_placed (h : p.Placed) (e : Entry) :
    ∀ d ∈ p.valueFindings settings e, d.Placed := by
  by_cases hd : e.directive ∈ Directive.located
  · simp only [Directive.located, List.mem_cons, List.not_mem_nil, or_false] at hd
    rcases hd with hd | hd | hd | hd
    · rw [valueFindings_title p settings hd]
      exact titleFindings_placed h e.payload
    · rw [valueFindings_url p settings hd]
      exact urlFindings_placed h e.text
    · simp only [valueFindings, hd]
      exact hostFindings_placed h e.payload
    · simp only [valueFindings, hd]
      exact hostFindings_placed h e.payload
  · refine placed_of_allOf fun d hm => ?_
    have hcites := Code.not_cites hd (p.valueFindings_isFor settings e d hm)
    simp [hcites]

theorem Placed.entry (h : p.Placed) (settings : Settings) {e : Entry} (he : e.location ≠ "") :
    (p.entry settings e).1.Placed ∧ ∀ d ∈ (p.entry settings e).2, d.Placed := by
  refine ⟨⟨?_, ?_, h.origins⟩, ?_⟩
  · have hafter := p.stanza.after_profile settings e
    simp only [Processor.entry, hafter]
    exact h.stanza.add he
  · simp only [Processor.entry]
    split
    · exact h.titles.note he e.payload
    · exact h.titles
  · refine List.forall_mem_append.mpr ⟨?_, valueFindings_placed h e⟩
    exact placed_of_allOf ((p.stanza.findFindings_allOf rfl e.directive).append
      (p.stanza.orderFindings_allOf (fun place => by cases place <;> rfl) e.directive e.payload))

theorem logicalLine_placed (h : p.Placed) (hl : location ≠ "") (text : List Char) :
    (p.logicalLine settings text location).1.Placed ∧
      ∀ d ∈ (p.logicalLine settings text location).2, d.Placed := by
  have hlabel := placed_of_allOf (labelFindings_allOf rfl rfl rfl settings text)
  have hp : p.unseparated.Placed := ⟨⟨h.stanza.start, h.stanza.host⟩, h.titles, h.origins⟩
  rw [logicalLine_eq]
  cases ho : Entry.of? text location with
  | none => exact ⟨hp, hlabel⟩
  | some e =>
    obtain ⟨hentry, hfound⟩ := hp.entry settings (Entry.location_of_of? ho ▸ hl)
    exact ⟨hentry, List.forall_mem_append.mpr ⟨hlabel, hfound⟩⟩

/-- A line at a location keeps what can be cited at locations, and cites such only. -/
theorem step_placed (h : p.Placed) (hl : location ≠ "") (checks : Checks) (line : String) :
    (p.step checks line location).1.Placed ∧ ∀ d ∈ (p.step checks line location).2, d.Placed := by
  have hblank := placed_of_allOf (blankFindings_allOf rfl checks.settings line)
  have hread : (p.read checks (Line.read line) location).1.Placed ∧
      ∀ d ∈ (p.read checks (Line.read line) location).2, d.Placed := by
    cases Line.read line with
    | closing =>
      refine ⟨⟨⟨fun hs => absurd rfl hs, fun _ _ hh => ?_⟩, h.titles, ?_⟩, ?_⟩
      · cases hh
      · exact h.origins.noteAll (Stanza.contribution_placed h.stanza)
      · exact placed_of_allOf (p.stanza.closingFindings_allOf rfl rfl rfl rfl)
    | comment text =>
      obtain ⟨source, title, lookup, hc⟩ :=
        { p with current := none, lastLineEmpty := false }.comment_stanza checks text
      refine ⟨?_, placed_of_allOf (comment_allOf rfl _ checks text)⟩
      simp only [read, hc]
      exact ⟨⟨h.stanza.start, h.stanza.host⟩, h.titles, h.origins⟩
    | unfinished segment =>
      exact ⟨⟨⟨h.stanza.start, h.stanza.host⟩, h.titles, h.origins⟩, placed_of_allOf .nil⟩
    | complete text =>
      simp only [read, complete]
      split
      · refine logicalLine_placed ?_ hl _
        exact ⟨⟨h.stanza.start, h.stanza.host⟩, h.titles, h.origins⟩
      · refine logicalLine_placed ?_ hl _
        exact ⟨⟨h.stanza.start, h.stanza.host⟩, h.titles, h.origins⟩
  rw [step_eq]
  exact ⟨hread.1, List.forall_mem_append.mpr ⟨hblank, hread.2⟩⟩

end Processor

end StanzaLint
