import StanzaLint.Proofs.Step

/-!
# The memory of a run

Titles and origins are remembered for a whole run. A text that was seen keeps
its first location, so memory only grows (`step_grows`, `run_grows`). It is read
for two findings and for nothing else: what a line leaves in the stanza, and every
other finding, is the same whatever the memory holds (`step_alike`).
-/

namespace StanzaLint

namespace Seen

theorem location?_cons (seen : Seen) (key place k : String) :
    location? ((key, place) :: seen) k = if k = key then some place else seen.location? k := by
  simp only [location?, List.lookup_cons]
  by_cases h : k = key
  · simp [h]
  · simp [h, beq_false_of_ne h]

theorem location?_note (seen : Seen) (key place k : String) :
    (seen.note key place).location? k =
      (seen.location? k).or (if k = key then some place else none) := by
  unfold note
  split
  next h =>
    by_cases hk : k = key
    · obtain ⟨l, hl⟩ := Option.isSome_iff_exists.mp h
      simp [hk, hl]
    · simp [hk]
  next h =>
    have hn : seen.location? key = none := by simpa using h
    rw [location?_cons]
    by_cases hk : k = key
    · simp [hk, hn]
    · simp [hk]

theorem location?_noteAll (seen more : Seen) (k : String) :
    (seen.noteAll more).location? k = (seen.location? k).or (more.location? k) := by
  induction more generalizing seen with
  | nil => simp [noteAll, location?]
  | cons entry rest ih =>
    obtain ⟨key, place⟩ := entry
    have h : seen.noteAll ((key, place) :: rest) = (seen.note key place).noteAll rest := rfl
    rw [h, ih, location?_note, location?_cons, Option.or_assoc]
    by_cases hk : k = key <;> simp [hk]

/-- Everything seen keeps its location; only texts that had not been seen are added. -/
def KeptIn (seen more : Seen) : Prop :=
  ∀ key place, seen.location? key = some place → more.location? key = some place

theorem KeptIn.refl (seen : Seen) : seen.KeptIn seen := fun _ _ h => h

theorem KeptIn.trans {a b c : Seen} (hab : a.KeptIn b) (hbc : b.KeptIn c) : a.KeptIn c :=
  fun key place h => hbc key place (hab key place h)

theorem keptIn_note (seen : Seen) (key place : String) : seen.KeptIn (seen.note key place) := by
  intro k l h
  rw [location?_note, h]
  rfl

theorem keptIn_noteAll (seen more : Seen) : seen.KeptIn (seen.noteAll more) := by
  intro k l h
  rw [location?_noteAll, h]
  rfl

end Seen

namespace Processor

/-- The memory of `q` is that of `p`, and perhaps more. -/
def Grows (p q : Processor) : Prop := p.titles.KeptIn q.titles ∧ p.origins.KeptIn q.origins

theorem Grows.refl (p : Processor) : p.Grows p := ⟨.refl _, .refl _⟩

theorem Grows.trans {p q r : Processor} (hpq : p.Grows q) (hqr : q.Grows r) : p.Grows r :=
  ⟨hpq.1.trans hqr.1, hpq.2.trans hqr.2⟩

theorem entry_grows (p : Processor) (settings : Settings) (e : Entry) :
    p.Grows (p.entry settings e).1 := by
  refine ⟨?_, .refl _⟩
  simp only [entry]
  split
  · exact p.titles.keptIn_note e.payload e.location
  · exact .refl _

theorem logicalLine_grows (p : Processor) (settings : Settings) (text : List Char)
    (location : String) : p.Grows (p.logicalLine settings text location).1 := by
  rw [logicalLine_eq]
  split
  · exact .refl p
  · exact p.unseparated.entry_grows settings _

theorem read_grows (p : Processor) (checks : Checks) (line : Line) (location : String) :
    p.Grows (p.read checks line location).1 := by
  cases line with
  | closing => exact ⟨.refl _, p.origins.keptIn_noteAll _⟩
  | comment text =>
    obtain ⟨source, title, lookup, hc⟩ :=
      { p with current := none, lastLineEmpty := false }.comment_stanza checks text
    simp only [read, hc]
    exact .refl p
  | unfinished segment => exact .refl p
  | complete text =>
    simp only [read, complete]
    split
    · exact logicalLine_grows { p with
        current := none
        lastLineEmpty := false
        stanza := { p.stanza with inMultiline := false, pending := "" } } _ _ _
    · exact logicalLine_grows { p with current := none, lastLineEmpty := false } _ _ _

theorem step_grows (p : Processor) (checks : Checks) (line location : String) :
    p.Grows (p.step checks line location).1 := p.read_grows checks _ _

end Processor

namespace Progress

theorem run_grows (s : Progress) (checks : Checks) (history : List Action) :
    s.processor.Grows (s.run checks history).1.processor := by
  refine run_invariant (P := fun t => s.processor.Grows t.processor) (fun t action ht => ?_)
    (.refl s.processor) history
  refine ht.trans ?_
  cases action with
  | line text location => exact t.processor.step_grows checks text location
  | suspend => exact .refl t.processor
  | resume =>
    obtain ⟨p, suspended⟩ := t
    cases suspended <;> exact .refl p

end Progress

namespace Diagnostic

def isRecalled (d : Diagnostic) : Bool := d.code = .originSeen || d.code = .titleSeen

def unrecalled (ds : List Diagnostic) : List Diagnostic := ds.filter (!·.isRecalled)

@[simp] theorem unrecalled_append (ds es : List Diagnostic) :
    unrecalled (ds ++ es) = unrecalled ds ++ unrecalled es := List.filter_append ..

@[simp] theorem unrecalled_originSeen (places : List String) :
    unrecalled (places.map originSeen) = [] := by
  simp [unrecalled, isRecalled, code]

@[simp] theorem unrecalled_titleSeen (places : List String) :
    unrecalled (places.map titleSeen) = [] := by
  simp [unrecalled, isRecalled, code]

end Diagnostic

namespace Processor

open Diagnostic (unrecalled)

variable {p q : Processor}

/-- Two processors at the same point of a file, whatever each remembers of the run. -/
structure SamePlace (p q : Processor) : Prop where
  stanza : p.stanza = q.stanza
  lastLineEmpty : p.lastLineEmpty = q.lastLineEmpty

theorem SamePlace.trans {r : Processor} (h : SamePlace p q) (hr : SamePlace q r) : SamePlace p r :=
  ⟨h.stanza.trans hr.stanza, h.lastLineEmpty.trans hr.lastLineEmpty⟩

theorem titleFindings_of_stanza_eq (h : p.stanza = q.stanza) (title : String) :
    unrecalled (p.titleFindings title) = unrecalled (q.titleFindings title) := by
  simp [titleFindings, h]

theorem startingPointFindings_unrecalled (settings : Settings) (value : String) :
    unrecalled (p.startingPointFindings settings value) =
      unrecalled (q.startingPointFindings settings value) := by
  unfold startingPointFindings
  split <;> simp [originFindings]

theorem urlFindings_of_stanza_eq (h : p.stanza = q.stanza) (settings : Settings)
    (text : List Char) :
    unrecalled (p.urlFindings settings text) = unrecalled (q.urlFindings settings text) := by
  simp only [urlFindings, h, Diagnostic.unrecalled_append]
  rw [startingPointFindings_unrecalled]

theorem hostFindings_of_stanza_eq (h : p.stanza = q.stanza) (settings : Settings)
    (payload : String) :
    unrecalled (p.hostFindings settings payload) =
      unrecalled (q.hostFindings settings payload) := by
  unfold hostFindings
  split <;> simp [originFindings, h]

theorem valueFindings_of_stanza_eq (h : p.stanza = q.stanza) (settings : Settings) (e : Entry) :
    unrecalled (p.valueFindings settings e) = unrecalled (q.valueFindings settings e) := by
  unfold valueFindings
  split
  · rw [h]
  · exact titleFindings_of_stanza_eq h _
  · exact urlFindings_of_stanza_eq h _ _
  · exact hostFindings_of_stanza_eq h _ _
  · exact hostFindings_of_stanza_eq h _ _
  all_goals rfl

/-- The same results of a line, but for the memory of the run and what is found with it. -/
structure Alike (a b : Processor × List Diagnostic) : Prop where
  place : SamePlace a.1 b.1
  current : a.1.current = b.1.current
  findings : unrecalled a.2 = unrecalled b.2

theorem entry_alike (h : SamePlace p q) (settings : Settings) (e : Entry) :
    Alike (p.entry settings e) (q.entry settings e) := by
  refine ⟨⟨?_, h.lastLineEmpty⟩, rfl, ?_⟩
  · simp only [entry, h.stanza]
  · simp only [entry, h.stanza, Diagnostic.unrecalled_append, valueFindings_of_stanza_eq h.stanza]

theorem logicalLine_alike (h : SamePlace p q) (hc : p.current = q.current) (settings : Settings)
    (text : List Char) (location : String) :
    Alike (p.logicalLine settings text location) (q.logicalLine settings text location) := by
  have hs : SamePlace p.unseparated q.unseparated :=
    ⟨by simp only [unseparated, h.stanza], h.lastLineEmpty⟩
  rw [logicalLine_eq, logicalLine_eq]
  split
  · exact ⟨hs, hc, rfl⟩
  next e _ =>
    have he := entry_alike hs settings e
    refine ⟨he.place, he.current, ?_⟩
    simp only [Diagnostic.unrecalled_append, he.findings]

theorem read_alike (h : p.stanza = q.stanza) (checks : Checks) (line : Line) (location : String) :
    Alike (p.read checks line location) (q.read checks line location) := by
  cases line with
  | closing =>
    refine ⟨⟨rfl, rfl⟩, rfl, ?_⟩
    simp only [read, close, h]
  | comment text =>
    simp only [read, comment_eq, h]
    exact ⟨⟨rfl, rfl⟩, rfl, rfl⟩
  | unfinished segment =>
    refine ⟨⟨?_, rfl⟩, rfl, rfl⟩
    simp only [read, unfinished, h]
  | complete text =>
    simp only [read, complete, h]
    split
    · refine logicalLine_alike ⟨?_, ?_⟩ ?_ _ _ _ <;> rfl
    · refine logicalLine_alike ⟨?_, ?_⟩ ?_ _ _ _ <;> rfl

/-- A line leaves the same stanza whatever is remembered of the run, and only what is compared
with that memory may be found in one case and not in the other. -/
theorem step_alike (h : p.stanza = q.stanza) (checks : Checks) (line location : String) :
    Alike (p.step checks line location) (q.step checks line location) := by
  have hr := read_alike h checks (Line.read line) location
  rw [step_eq, step_eq]
  refine ⟨hr.place, hr.current, ?_⟩
  simp only [Diagnostic.unrecalled_append, hr.findings]

end Processor

end StanzaLint
