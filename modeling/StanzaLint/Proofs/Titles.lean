import StanzaLint.Proofs.Findings
import StanzaLint.Proofs.Memory
import StanzaLint.Proofs.Replay

/-!
# Titles that are used again

Every title line is remembered when it is completed, also one that its stanza
ignores because it has a title already. So what is remembered of a title is the
first line of the whole history that gives it (`run_titles`), and a line that gives
it again is told of that line, in whatever file, stanza or included file the two
stand. A session is a history, so this holds over files that are read one after the
other, also behind files that failed (`reused_titles`).
-/

namespace StanzaLint

open Diagnostic (coded)

def Entry.heading? (e : Entry) : Option String :=
  if e.directive = .title then some e.payload else none

namespace Ledger

def titled? (history : List Action) (title : String) : Option Entry :=
  (entries history).find? (·.heading? == some title)

/-- The first line of a history with the title that a further action gives again. -/
def reuses? (history : List Action) (action : Action) : Option Entry :=
  (((of history).completes? action).bind Entry.heading?).bind (titled? history)

theorem reuses?_isSome_iff {history : List Action} {action : Action} :
    (reuses? history action).isSome ↔ ∃ e, (of history).completes? action = some e ∧
      e.directive = .title ∧ ∃ earlier ∈ entries history,
        earlier.directive = .title ∧ earlier.payload = e.payload := by
  unfold reuses?
  cases (of history).completes? action with
  | none => simp
  | some e =>
    by_cases hd : e.directive = .title
    · simp [Entry.heading?, titled?, hd]
    · simp [Entry.heading?, hd]

end Ledger

namespace Processor

variable {checks : Checks} {p q : Processor} {sheet : Sheet}

theorem logicalLine_titles (q : Processor) (settings : Settings) (text : List Char)
    (location title : String) :
    (q.logicalLine settings text location).1.titles.location? title =
      (q.titles.location? title).or
        (((Entry.of? text location).filter (·.heading? == some title)).map (·.location)) := by
  rw [logicalLine_eq]
  cases Entry.of? text location with
  | none => simp [unseparated]
  | some e =>
    simp only [entry, unseparated]
    by_cases hd : e.directive = .title
    · rw [if_pos hd, Seen.location?_note]
      by_cases ht : title = e.payload
      · simp [Option.filter, Entry.heading?, hd, ht]
      · simp [Option.filter, Entry.heading?, hd, ht, Ne.symm ht]
    · simp [Option.filter, Entry.heading?, hd]

theorem step_titles (h : p.stanza.Tells checks.settings sheet) (line location title : String) :
    (p.step checks line location).1.titles.location? title =
      (p.titles.location? title).or (((sheet.completes? location (Line.read line)).filter
        (·.heading? == some title)).map (·.location)) := by
  rw [step_eq]
  cases Line.read line with
  | closing => simp [read, close, Sheet.completes?]
  | comment text =>
    obtain ⟨source, label, lookup, hc⟩ :=
      { p with current := none, lastLineEmpty := false }.comment_stanza checks text
    simp [read, hc, Sheet.completes?]
  | unfinished segment => simp [read, unfinished, Sheet.completes?]
  | complete text =>
    simp only [read_complete h, logicalLine_titles]
    rfl

/-- A title is compared with those of the run, and with nothing else under this code. -/
theorem valueFindings_titleSeen (p : Processor) (settings : Settings) (e : Entry) :
    coded .titleSeen (p.valueFindings settings e) =
      (e.heading?.bind p.titles.location?).toList.map .titleSeen := by
  by_cases hd : e.directive = .title
  · rw [p.valueFindings_title settings hd, titleFindings, Entry.heading?, if_pos hd]
    simp [Stanza.sourceFindings, Diagnostic.code]
  · rw [Entry.heading?, if_neg hd]
    refine (p.valueFindings_isFor settings e).coded_eq_nil ?_
    simp [Code.isFor, hd]

end Processor

namespace Progress

variable {checks : Checks} {s : Progress} {ledger : Ledger}

theorem perform_titles (h : s.Told checks.settings ledger) (action : Action) (title : String) :
    (s.perform checks action).1.processor.titles.location? title =
      (s.processor.titles.location? title).or (((ledger.completes? action).filter
        (·.heading? == some title)).map (·.location)) := by
  cases action with
  | line text location => exact Processor.step_titles h.current text location title
  | suspend => simp [perform, Processor.suspend, Ledger.completes?]
  | resume =>
    obtain ⟨p, suspended⟩ := s
    cases suspended <;> simp [perform, Processor.resume, Ledger.completes?]

theorem run_titles (checks : Checks) (history : List Action) (title : String) :
    (run {} checks history).1.processor.titles.location? title =
      (Ledger.titled? history title).map (·.location) := by
  refine run_induction (P := fun history s => s.processor.titles.location? title =
    (Ledger.titled? history title).map (·.location)) rfl (fun history action s told ih => ?_) history
  rw [perform_titles told, ih, Ledger.titled?, Ledger.titled?, Ledger.entries_concat,
    List.find?_append, Option.map_or]
  cases (Ledger.of history).completes? action with
  | none => simp
  | some e => simp [Option.filter, List.find?_singleton]

theorem perform_titleSeen (checks : Checks) (history : List Action) (action : Action) :
    coded .titleSeen ((run {} checks history).1.perform checks action).2 =
      (Ledger.reuses? history action).toList.map fun first => .titleSeen first.location := by
  rw [perform_coded rfl (run_told checks history), Ledger.reuses?]
  cases (Ledger.of history).completes? action with
  | none => rfl
  | some e =>
    rw [Option.elim_some, Processor.valueFindings_titleSeen, Option.bind_some]
    cases e.heading? with
    | none => rfl
    | some title =>
      rw [Option.bind_some, Option.bind_some, run_titles]
      cases Ledger.titled? history title <;> rfl

/-- A line that gives a title is told of the first earlier line of the history that gave the same
one, and of none if there is no such line. The same holds of every line of a session, whatever
became of the files before it. -/
theorem reused_titles (checks : Checks) :
    (∀ history action, (Ledger.reuses? history action).isSome ↔
      ∃ e, (Ledger.of history).completes? action = some e ∧ e.directive = .title ∧
        ∃ earlier ∈ Ledger.entries history,
          earlier.directive = .title ∧ earlier.payload = e.payload) ∧
    (∀ history action,
      coded .titleSeen ((run {} checks history).1.perform checks action).2 =
        (Ledger.reuses? history action).toList.map fun first => .titleSeen first.location) ∧
    (∀ style files room paths before after (deed : Deed),
      Session.deeds checks style files { room } paths = before ++ deed :: after →
        coded .titleSeen deed.found =
          (Ledger.reuses? (before.map Deed.action) deed.action).toList.map
            fun first => .titleSeen first.location) ∧
    ∀ place, (Diagnostic.titleSeen place).code.text = "L2004" ∧
      (Diagnostic.titleSeen place).message =
        "\"Title\" directive value already seen at " ++ Text.quote place := by
  refine ⟨fun history action => Ledger.reuses?_isSome_iff, perform_titleSeen checks, ?_,
    fun place => ⟨rfl, rfl⟩⟩
  intro style files room paths before after deed hd
  have hfound : deed.found =
      ((run {} checks (before.map Deed.action)).1.perform checks deed.action).2 := by
    refine Session.found_eq ?_ hd
    rfl
  rw [hfound]
  exact perform_titleSeen checks _ _

/-- A file fails in what it includes, behind a title that its stanza ignored. -/
def unfinishedTree : FileTree where
  entries := [
    (["a.txt"], .file (Text.encodeUtf8 "Title A\nTitle B\nIncludeFile c.txt\n".toList)),
    (["b.txt"], .file (Text.encodeUtf8 "T B\n#".toList))]

theorem reused_titles_behind_failure :
    let checks : Checks := ⟨{}, .pages fun _ => .ok none⟩
    ∃ before found after, Session.deeds checks {} unfinishedTree.find {} ["a.txt", "b.txt"] =
        before ++ ⟨.line "T B" "b.txt:1", found⟩ :: after ∧
      coded .titleSeen found = [.titleSeen "a.txt:2"] := by
  intro checks
  have hd : Session.deeds checks {} unfinishedTree.find {} ["a.txt", "b.txt"] =
      [⟨.suspend, []⟩, ⟨.line "Title A" "a.txt:1", []⟩,
        ⟨.line "Title B" "a.txt:2", [.misplaced .title (some .title), .duplicateTitle]⟩,
        ⟨.line "IncludeFile c.txt" "a.txt:3", []⟩, ⟨.suspend, []⟩, ⟨.resume, []⟩,
        ⟨.suspend, []⟩] ++
      ⟨.line "T B" "b.txt:1", [.titleSeen "a.txt:2"]⟩ ::
        [⟨.line "#" "b.txt:2", [.titleWithoutUrl "B"]⟩] := by
    decide +kernel
  refine ⟨_, _, _, hd, ?_⟩
  rw [(reused_titles checks).2.2.1 _ _ _ _ _ _ _ hd]
  decide +kernel

end Progress

end StanzaLint
