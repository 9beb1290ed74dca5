import StanzaLint.Proofs.Step
import StanzaLint.Proofs.Trimming

/-!
# Logical lines over several physical ones

A line that ends in a backslash goes on in the next one. Comments may stand in
between. A processor that reads such lines one by one ends up where it would be
after the joined text on one line (`run_layout`), and finds the same; only the
ends of the physical lines are judged line by line.
-/

namespace StanzaLint

open Text

namespace Line

def Continued (line : String) : Prop :=
  (trim line.toList).getLast? = some '\\' ∧ (trim line.toList).head? ≠ some '#'

def Remark (line : String) : Prop :=
  (trim line.toList).head? = some '#' ∧ trim line.toList ≠ ['#'] ∧
    ¬SourceComment.lead <+: trim line.toList

def Completing (line : String) : Prop :=
  trim line.toList ≠ [] ∧ (trim line.toList).head? ≠ some '#' ∧
    (trim line.toList).getLast? ≠ some '\\'

instance (line : String) : Decidable (Continued line) := inferInstanceAs (Decidable (_ ∧ _))
instance (line : String) : Decidable (Remark line) := inferInstanceAs (Decidable (_ ∧ _))
instance (line : String) : Decidable (Completing line) := inferInstanceAs (Decidable (_ ∧ _))

theorem continued_backslash : Continued "\\" := by decide

/-- What a physical line adds to a logical one that goes on: its text without the backslash.
Comments add nothing. -/
def addition (line : String) : List Char :=
  if Continued line then (trim line.toList).dropLast else []

theorem read_continued (h : Continued line) : read line = .unfinished (addition line) := by
  have hne : trim line.toList ≠ [] := by
    intro hn
    simp [Continued, hn] at h
  have hsharp : trim line.toList ≠ ['#'] := by
    intro hs
    simp [Continued, hs] at h
  simp [read, ofText, hne, hsharp, h.2, dropSuffix?_singleton, h.1, addition, h]

theorem read_remark (h : Remark line) : read line = .comment (trim line.toList) := by
  have hne : trim line.toList ≠ [] := by
    intro hn
    simp [Remark, hn] at h
  simp [read, ofText, hne, h.2.1, h.1]

theorem read_completing (h : Completing line) : read line = .complete (trim line.toList) := by
  have hsharp : trim line.toList ≠ ['#'] := by
    intro hs
    simp [Completing, hs] at h
  simp [read, ofText, h.1, hsharp, h.2.1, dropSuffix?_singleton, h.2.2]

theorem addition_remark (h : Remark line) : addition line = [] := by
  have hc : ¬Continued line := fun hc => hc.2 h.1
  simp [addition, hc]

/-- No text that starts like this is blank at its start or a comment. -/
def Opens (cs : List Char) : Prop := ∀ c, cs.head? = some c → isBlank c = false ∧ c ≠ '#'

theorem Opens.append (ha : Opens a) (hb : Opens b) : Opens (a ++ b) := by
  cases a with
  | nil => exact hb
  | cons c rest => exact ha

theorem Completing.opens (h : Completing line) : Opens (trim line.toList) := by
  intro c hc
  refine ⟨(trim_trimmed _).1 c hc, ?_⟩
  rintro rfl
  exact h.2.1 hc

theorem addition_opens (line : String) : Opens (addition line) := by
  unfold addition
  split
  next h =>
    intro c hc
    -- the first character is not the backslash that is dropped, unless nothing is left
    have hh : (trim line.toList).head? = some c := by
      cases ht : trim line.toList with
      | nil => simp [ht] at hc
      | cons d rest =>
        cases rest with
        | nil => simp [ht] at hc
        | cons e rest => simpa [ht] using hc
    refine ⟨(trim_trimmed _).1 c hh, ?_⟩
    rintro rfl
    exact h.2 hh
  next =>
    intro c hc
    cases hc

theorem flatMap_addition_opens (lines : List String) : Opens (lines.flatMap addition) := by
  induction lines with
  | nil =>
    intro c hc
    cases hc
  | cons line rest ih => exact (addition_opens line).append ih

end Line

structure Layout where
  first : String
  rest : List String
  last : String
  first_continued : Line.Continued first
  rest_inner : ∀ line ∈ rest, Line.Continued line ∨ Line.Remark line
  last_completing : Line.Completing last

namespace Layout

def inner (l : Layout) : List String := l.first :: l.rest

def lines (l : Layout) : List String := l.inner ++ [l.last]

def text (l : Layout) : String :=
  String.ofList (l.inner.flatMap Line.addition ++ trim l.last.toList)

theorem text_getLast (l : Layout) : l.text.toList.getLast? = (trim l.last.toList).getLast? := by
  simp [text, List.getLast?_append_of_ne_nil _ l.last_completing.1]

theorem trim_text (l : Layout) : trim l.text.toList = l.text.toList := by
  apply trim_eq_self
  refine ⟨fun c hc => ?_, fun c hc => ?_⟩
  · have ho := (Line.flatMap_addition_opens l.inner).append l.last_completing.opens
    rw [text, String.toList_ofList] at hc
    exact (ho c hc).1
  · rw [text_getLast] at hc
    exact (trim_trimmed _).2 c hc

/-- The joined text is read as one complete line: it starts like the first line that is not
just a backslash, and ends like the last. -/
theorem text_completing (l : Layout) : Line.Completing l.text := by
  rw [Line.Completing, trim_text]
  refine ⟨?_, fun hc => ?_, ?_⟩
  · simp [text, l.last_completing.1]
  · have ho := (Line.flatMap_addition_opens l.inner).append l.last_completing.opens
    rw [text, String.toList_ofList] at hc
    exact (ho '#' hc).2 rfl
  · rw [text_getLast]
    exact l.last_completing.2.2

theorem text_endsInBlank (l : Layout) : Line.endsInBlank l.text = false := by
  rw [Line.endsInBlank, text_getLast]
  cases hl : (trim l.last.toList).getLast? with
  | none => rfl
  | some c =>
    have hb : isBlank c = false := (trim_trimmed _).2 c hl
    have hs : c ≠ ' ' ∧ c ≠ '\t' := by
      constructor <;> rintro rfl <;> cases hb
    simp [hs.1, hs.2]

end Layout

namespace Processor

/-- In the middle of a logical line of which `text` has been read. -/
def holding (p : Processor) (text : List Char) : Processor :=
  { p with
      current := none
      lastLineEmpty := false
      stanza := { p.stanza with inMultiline := true, pending := String.ofList text } }

theorem step_continued (p : Processor) (checks : Checks) (h : Line.Continued line) (location : String) :
    p.step checks line location =
      (p.holding (p.stanza.pending.toList ++ Line.addition line),
        blankFindings checks.settings line) := by
  rw [step_eq, Line.read_continued h]
  simp [read, unfinished, holding, String.ofList_append]

theorem step_remark (p : Processor) (checks : Checks) (h : Line.Remark line) (location : String) :
    p.step checks line location =
      ({ p with current := none, lastLineEmpty := false },
        blankFindings checks.settings line) := by
  have hn : (dropPrefix? SourceComment.lead (trim line.toList)).isSome = false := by
    rw [Bool.eq_false_iff]
    exact fun hs => h.2.2 (isSome_dropPrefix?.mp hs)
  rw [step_eq, Line.read_remark h]
  simp [read, comment, hn]

theorem step_holding (p : Processor) (checks : Checks) (text : List Char)
    (h : Line.Continued line ∨ Line.Remark line) (location : String) :
    (p.holding text).step checks line location =
      (p.holding (text ++ Line.addition line), blankFindings checks.settings line) := by
  rcases h with h | h
  · rw [step_continued _ checks h]
    simp [holding]
  · rw [step_remark _ checks h, Line.addition_remark h, List.append_nil]
    rfl

theorem read_holding {p : Processor} (hs : p.stanza.Settled) (checks : Checks)
    (text last : List Char) (location : String) :
    (p.holding (p.stanza.pending.toList ++ text)).read checks (.complete last) location =
      p.read checks (.complete (text ++ last)) location := by
  cases hm : p.stanza.inMultiline with
  -- an unfinished line before this one is joined in both cases
  | true => simp [read, complete, holding, hm]
  | false =>
    have hp := hs hm
    -- Nothing is held back, so the fields that the split lines reset had these values before.
    have hstanza : { p.stanza with inMultiline := false, pending := "" } = p.stanza := by
      rw [← hm, ← hp]
    simp [read, complete, holding, hm, hp, hstanza]

theorem step_last {p : Processor} (hs : p.stanza.Settled) (checks : Checks) (l : Layout)
    (location : String) :
    (p.holding (p.stanza.pending.toList ++ l.inner.flatMap Line.addition)).step checks l.last
        location =
      ((p.step checks l.text location).1,
        blankFindings checks.settings l.last ++ (p.step checks l.text location).2) := by
  have htext : Line.read l.text =
      .complete (l.inner.flatMap Line.addition ++ trim l.last.toList) := by
    rw [Line.read_completing l.text_completing, l.trim_text, Layout.text, String.toList_ofList]
  rw [step_eq, step_eq, Line.read_completing l.last_completing, htext, read_holding hs]
  simp [blankFindings, l.text_endsInBlank]

end Processor

def Action.lines (placed : List (String × String)) : List Action :=
  placed.map fun (text, location) => .line text location

namespace Progress

/-- The lines inside a logical one are collected and nothing is said about them but for their
ends. -/
theorem run_holding (s : Progress) (checks : Checks) (p : Processor) (text : List Char)
    (placed : List (String × String))
    (h : ∀ l ∈ placed, Line.Continued l.1 ∨ Line.Remark l.1) :
    { s with processor := p.holding text }.run checks (Action.lines placed) =
      ({ s with processor := p.holding (text ++ (placed.map Prod.fst).flatMap Line.addition) },
        placed.map fun l => Processor.blankFindings checks.settings l.1) := by
  induction placed generalizing text with
  | nil => simp [Action.lines, run]
  | cons l rest ih =>
    have hl := h l (by simp)
    have hrest := ih (text ++ Line.addition l.1) fun k hk => h k (List.mem_cons_of_mem _ hk)
    simp only [Action.lines, List.map_cons] at hrest ⊢
    rw [run_cons]
    simp only [perform, p.step_holding checks text hl, hrest]
    simp

theorem run_inner (s : Progress) (checks : Checks) (l : Layout) {placed : List (String × String)}
    (h : placed.map Prod.fst = l.inner) :
    s.run checks (Action.lines placed) =
      (⟨s.processor.holding (s.processor.stanza.pending.toList ++ l.inner.flatMap Line.addition),
          s.suspended⟩,
        l.inner.map (Processor.blankFindings checks.settings)) := by
  cases placed with
  | nil => cases h
  | cons k rest =>
    obtain ⟨hfirst, hrest⟩ : k.1 = l.first ∧ rest.map Prod.fst = l.rest := by
      simpa [Layout.inner] using h
    have hinner : ∀ m ∈ rest, Line.Continued m.1 ∨ Line.Remark m.1 := by
      intro m hm
      exact l.rest_inner m.1 (hrest ▸ List.mem_map_of_mem hm)
    -- the first line may extend an unfinished one; from then on the text is held
    have hstep := s.processor.step_continued checks (hfirst ▸ l.first_continued) k.2
    have hrun := s.run_holding checks s.processor
      (s.processor.stanza.pending.toList ++ Line.addition k.1) rest hinner
    simp only [Action.lines, List.map_cons] at hrun ⊢
    rw [run_cons]
    simp only [perform, hstep, hrun]
    simp [Layout.inner, hfirst, ← hrest, Function.comp_def]

/-- A logical line over several physical ones does what the joined text does on one line, at
the location of its last line. It holds wherever the processor stands, also in the middle of
another unfinished line. -/
theorem run_layout (checks : Checks) (history : List Action) (l : Layout)
    (placed : List (String × String)) (location : String)
    (h : placed.map Prod.fst = l.inner) :
    let s := (run {} checks history).1
    let joined := s.perform checks (.line l.text location)
    s.run checks (Action.lines placed ++ [.line l.last location]) =
      (joined.1, l.inner.map (Processor.blankFindings checks.settings) ++
        [Processor.blankFindings checks.settings l.last ++ joined.2]) := by
  intro s joined
  have hs : s.processor.stanza.Settled := (run_settled history).1
  rw [run_append, run_inner s checks l h]
  simp only [run, perform, Processor.step_last hs checks l location, joined]

/-- A title that starts on the second line, with a backslash of its own, a comment in between
and blanks at some ends. -/
def foldedTitle : Layout where
  first := "\\"
  rest := ["  Title A\\\\ ", "# note", "\\"]
  last := " B "
  first_continued := Line.continued_backslash
  rest_inner := by decide
  last_completing := by decide

theorem run_layout_folded :
    let checks : Checks := ⟨{ whitespace := true }, .pages fun _ => .ok none⟩
    let placed := [("\\", "f:3"), ("  Title A\\\\ ", "f:4"), ("# note", "f:5"), ("\\", "f:6")]
    let s := (run {} checks [.line "Title B" "f:1", .line "Description C" "f:2"]).1
    let joined := s.perform checks (.line "Title A\\B" "f:7")
    placed.map Prod.fst = foldedTitle.inner ∧ foldedTitle.text = "Title A\\B" ∧
      s.run checks (Action.lines placed ++ [.line " B " "f:7"]) =
        (joined.1, [[], [.trailingBlank], [], []] ++ [[.trailingBlank] ++ joined.2]) := by
  have ht : foldedTitle.text = "Title A\\B" := by decide +kernel
  refine ⟨rfl, ht, ?_⟩
  rw [← ht]
  exact run_layout _ _ foldedTitle _ _ rfl

end Progress

end StanzaLint
