import Mathlib.Data.Finset.Card
import Mathlib.Data.List.Perm.Basic
import StanzaLint.Proofs.Continuation
import StanzaLint.Proofs.Titles

/-!
# The order of stanzas

A line that closes a stanza leaves nothing of it behind but titles and origins. So
what is found in the lines of a stanza does not depend on what came before, but for
what is compared with the memory of the run (`run_after_closing`). Stanzas can
change places: everything else is found as often as before, and so is a title that
was used already. There is one such finding for every line with a title, less one
for every title (`count_titleSeen`).
-/

namespace StanzaLint

open Diagnostic (coded unrecalled)

/-- Lines with their locations, of which the last one closes a stanza. They are a stanza, or several
of them. -/
structure Block where
  body : List (String × String)
  last : String × String
  closes : Line.read last.1 = .closing

namespace Block

def actions (b : Block) : List Action := Action.lines b.body ++ [.line b.last.1 b.last.2]

def all (bs : List Block) : List Action := bs.flatMap actions

def titles (b : Block) : List String := (Ledger.entries b.actions).filterMap Entry.heading?

end Block

-- ---------------------------------------------------------------------------
-- Ledgers of blocks
-- ---------------------------------------------------------------------------

namespace Ledger

theorem of_lines_waiting (placed : List (String × String)) :
    (of (Action.lines placed)).waiting = [] := by
  induction placed using List.reverseRecOn with
  | nil => rfl
  | append_singleton placed l ih =>
    have hl : Action.lines (placed ++ [l]) = Action.lines placed ++ [.line l.1 l.2] := by
      simp [Action.lines]
    rw [hl, of_concat]
    exact ih

theorem of_block (b : Block) : of b.actions = {} := by
  rw [Block.actions, of_concat]
  simp only [perform, b.closes, Sheet.read, of_lines_waiting]

theorem entries_blocks (bs : List Block) :
    entries (Block.all bs) = bs.flatMap fun b => entries b.actions := by
  induction bs with
  | nil => rfl
  | cons b bs ih =>
    have hb : List.foldl perform {} b.actions = {} := of_block b
    rw [Block.all, List.flatMap_cons, List.flatMap_cons, entries, gather_append, hb, ← ih]
    rfl

theorem titles_blocks (bs : List Block) :
    (entries (Block.all bs)).filterMap Entry.heading? = bs.flatMap Block.titles := by
  rw [entries_blocks, List.filterMap_flatMap]
  rfl

end Ledger

-- ---------------------------------------------------------------------------
-- What is found without the memory of the run
-- ---------------------------------------------------------------------------

namespace Diagnostic

theorem unrecalled_flatten (found : List (List Diagnostic)) :
    unrecalled found.flatten = (found.map unrecalled).flatten := by
  simp only [unrecalled, List.filter_flatten]
  rfl

theorem isRecalled_iff (d : Diagnostic) :
    d.isRecalled = true ↔ d.code.text = "L2002" ∨ d.code.text = "L2004" := by
  unfold isRecalled
  cases d.code <;> simp [Code.text]

theorem code_titleSeen_iff (d : Diagnostic) : d.code = .titleSeen ↔ d.code.text = "L2004" := by
  cases d.code <;> simp [Code.text]

end Diagnostic

namespace Progress

variable {checks : Checks} {s t : Progress}

def found (checks : Checks) (history : List Action) : List Diagnostic :=
  (run {} checks history).2.flatten

theorem found_concat (checks : Checks) (history : List Action) (action : Action) :
    found checks (history ++ [action]) =
      found checks history ++ ((run {} checks history).1.perform checks action).2 := by
  rw [found, run_append, List.flatten_append]
  simp [found, run]

/-- Two progresses with the same stanza find the same in the same lines, but for what they compare
with their memories. -/
theorem run_lines_alike (h : s.processor.stanza = t.processor.stanza)
    (placed : List (String × String)) :
    (s.run checks (Action.lines placed)).1.processor.stanza =
        (t.run checks (Action.lines placed)).1.processor.stanza ∧
      (s.run checks (Action.lines placed)).2.map unrecalled =
        (t.run checks (Action.lines placed)).2.map unrecalled := by
  induction placed generalizing s t with
  | nil => exact ⟨h, rfl⟩
  | cons l placed ih =>
    have hl : Action.lines (l :: placed) = .line l.1 l.2 :: Action.lines placed := rfl
    have ha := Processor.step_alike h checks l.1 l.2
    have hr := ih (s := (s.perform checks (.line l.1 l.2)).1)
      (t := (t.perform checks (.line l.1 l.2)).1) ha.place.stanza
    simp only [hl, run_cons, List.map_cons]
    exact ⟨hr.1, congrArg₂ List.cons ha.findings hr.2⟩

theorem perform_closing_stanza (s : Progress) (checks : Checks) {text : String}
    (h : Line.read text = .closing) (location : String) :
    (s.perform checks (.line text location)).1.processor.stanza = {} := by
  simp only [perform, Processor.step_eq, h]
  rfl

theorem run_block (checks : Checks) (hs : s.processor.stanza = {}) (b : Block) :
    (s.run checks b.actions).1.processor.stanza = {} ∧
      (s.run checks b.actions).2.map unrecalled = (run {} checks b.actions).2.map unrecalled := by
  constructor
  · rw [Block.actions, run_concat]
    exact perform_closing_stanza _ checks b.closes _
  · have hl : b.actions = Action.lines (b.body ++ [b.last]) := by
      simp [Block.actions, Action.lines]
    rw [hl]
    exact (run_lines_alike (t := {}) hs _).2

theorem run_blocks (checks : Checks) (hs : s.processor.stanza = {}) (bs : List Block) :
    unrecalled (s.run checks (Block.all bs)).2.flatten =
      bs.flatMap fun b => unrecalled (found checks b.actions) := by
  induction bs generalizing s with
  | nil => rfl
  | cons b bs ih =>
    have hb := run_block checks hs b
    have ha : Block.all (b :: bs) = b.actions ++ Block.all bs := rfl
    rw [ha, run_append, List.flatten_append, Diagnostic.unrecalled_append, ih hb.1,
      List.flatMap_cons, Diagnostic.unrecalled_flatten, hb.2, ← Diagnostic.unrecalled_flatten]
    rfl

-- ---------------------------------------------------------------------------
-- Titles that are used again
-- ---------------------------------------------------------------------------

theorem card_toFinset_concat [DecidableEq α] (seen : List α) (a : α) :
    (seen ++ [a]).toFinset.card = seen.toFinset.card + if a ∈ seen then 0 else 1 := by
  have hi : (seen ++ [a]).toFinset = insert a seen.toFinset := by
    ext b
    simp
  rw [hi]
  by_cases ha : a ∈ seen <;> simp [ha]

/-- A line is told of an earlier one if it gives a title that was given before. -/
theorem length_titleSeen (checks : Checks) (history : List Action) (action : Action) :
    (coded .titleSeen ((run {} checks history).1.perform checks action).2).length =
      (((Ledger.of history).completes? action).bind Entry.heading?).elim 0 fun title =>
        if title ∈ (Ledger.entries history).filterMap Entry.heading? then 1 else 0 := by
  rw [perform_titleSeen, Ledger.reuses?]
  cases ((Ledger.of history).completes? action).bind Entry.heading? with
  | none => rfl
  | some title =>
    have hm : title ∈ (Ledger.entries history).filterMap Entry.heading? ↔
        (Ledger.titled? history title).isSome = true := by
      simp [Ledger.titled?]
    rw [Option.bind_some, Option.elim_some]
    simp only [hm]
    cases Ledger.titled? history title <;> rfl

theorem count_titleSeen (checks : Checks) (history : List Action) :
    (coded .titleSeen (found checks history)).length +
        ((Ledger.entries history).filterMap Entry.heading?).toFinset.card =
      ((Ledger.entries history).filterMap Entry.heading?).length := by
  induction history using List.reverseRecOn with
  | nil => rfl
  | append_singleton history action ih =>
    have hnew : ((Ledger.of history).completes? action).toList.filterMap Entry.heading? =
        (((Ledger.of history).completes? action).bind Entry.heading?).toList := by
      cases (Ledger.of history).completes? action with
      | none => rfl
      | some e => cases he : e.heading? <;> simp [he]
    rw [found_concat, Diagnostic.coded_append, List.length_append, length_titleSeen,
      Ledger.entries_concat, List.filterMap_append, hnew]
    cases ((Ledger.of history).completes? action).bind Entry.heading? with
    | none => simpa using ih
    | some title =>
      rw [Option.elim_some, Option.toList_some, card_toFinset_concat, List.length_append]
      split <;> simp <;> omega

/-- What is found in a block is the same wherever a stanza may begin, but for what is compared with
the memory of the run. So blocks may change places: everything else is found as often, and so are
titles that were used already, at every line with a title less one for each title. -/
theorem stanza_order (checks : Checks) :
    (∀ history text location (b : Block), Line.read text = .closing →
      ((run {} checks (history ++ [.line text location])).1.run checks b.actions).2.map unrecalled =
        (run {} checks b.actions).2.map unrecalled) ∧
    (∀ bs cs : List Block, bs.Perm cs →
      (unrecalled (found checks (Block.all bs))).Perm (unrecalled (found checks (Block.all cs))) ∧
      (coded .titleSeen (found checks (Block.all bs))).length =
        (coded .titleSeen (found checks (Block.all cs))).length) ∧
    (∀ bs, (coded .titleSeen (found checks (Block.all bs))).length =
      (bs.flatMap Block.titles).length - (bs.flatMap Block.titles).toFinset.card) ∧
    ∀ d : Diagnostic, (d.isRecalled = true ↔ d.code.text = "L2002" ∨ d.code.text = "L2004") ∧
      (d.code = .titleSeen ↔ d.code.text = "L2004") := by
  have hcount : ∀ bs, (coded .titleSeen (found checks (Block.all bs))).length =
      (bs.flatMap Block.titles).length - (bs.flatMap Block.titles).toFinset.card := by
    intro bs
    have hc := count_titleSeen checks (Block.all bs)
    rw [Ledger.titles_blocks] at hc
    omega
  refine ⟨fun history text location b h => ?_, fun bs cs h => ⟨?_, ?_⟩, hcount,
    fun d => ⟨d.isRecalled_iff, d.code_titleSeen_iff⟩⟩
  · rw [run_concat]
    exact (run_block checks (perform_closing_stanza _ checks h location) b).2
  · rw [found, found, run_blocks checks rfl, run_blocks checks rfl]
    exact h.flatMap_right _
  · have ht : (bs.flatMap Block.titles).Perm (cs.flatMap Block.titles) := h.flatMap_right _
    rw [hcount, hcount, ht.length_eq, List.toFinset_eq_of_perm _ _ ht]

def addressed : Block :=
  ⟨[("Title A", "f:1"), ("URL http://a.org", "f:2")], ("", "f:3"), by decide +kernel⟩

/-- The same title and origin as `addressed`, an option that is open, and no starting point. -/
def hosted : Block :=
  ⟨[("Option NoCookie", "f:4"), ("T A", "f:5"), ("H a.org", "f:6")], ("#", "f:7"),
    by decide +kernel⟩

/-- In either order the later stanza is told of the earlier one. All else stays. -/
theorem stanza_order_swapped :
    let checks : Checks := ⟨{}, .pages fun _ => .ok none⟩
    found checks (Block.all [addressed, hosted]) =
        [.titleSeen "f:1", .originSeen "f:2", .titleWithoutUrl "A",
          .unclosedOption "A" .optionNoCookie] ∧
      found checks (Block.all [hosted, addressed]) =
        [.titleWithoutUrl "A", .unclosedOption "A" .optionNoCookie, .titleSeen "f:5",
          .originSeen "f:6"] ∧
      (unrecalled (found checks (Block.all [addressed, hosted]))).Perm
        (unrecalled (found checks (Block.all [hosted, addressed]))) ∧
      ((run {} checks [.suspend, .line "Title A" "e:1", .line "#" "e:2"]).1.run checks
          hosted.actions).2.map unrecalled =
        (run {} checks hosted.actions).2.map unrecalled := by
  intro checks
  have hclosing : Line.read "#" = .closing := by decide +kernel
  have hswap : [addressed, hosted].Perm [hosted, addressed] := .swap ..
  exact ⟨by decide +kernel, by decide +kernel, ((stanza_order checks).2.1 _ _ hswap).1,
    (stanza_order checks).1 [.suspend, .line "Title A" "e:1"] "#" "e:2" hosted hclosing⟩

end Progress

end StanzaLint
