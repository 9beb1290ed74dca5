import StanzaLint.Proofs.Continuation
import StanzaLint.Proofs.Findings
import StanzaLint.Proofs.Profile

/-!
# The origins that a run remembers

A stanza that is closed leaves its origins behind: that of its starting point, and
those of its hosts. What is remembered of an origin is the line of the stanza that
was closed first and has it (`origin_memory`), so a stanza is never compared with
itself, nor with the stanzas of files that wait. Of several starting points in a
stanza only the first one with an origin counts, and it counts before the hosts.
Hence not every origin of an earlier stanza is recalled, and not always by its
first line (`recurring_origin`).
-/

namespace StanzaLint

open Diagnostic (coded)

namespace Sheet

def start? (sheet : Sheet) : Option Entry := sheet.entries.find? Entry.isStart

/-- The line that stands for an origin when the stanza is closed: the starting point, or else
the first host. -/
def contributes? (sheet : Sheet) (origin : String) : Option Entry :=
  (sheet.start?.filter (·.origin? == some origin)).or (sheet.entries.find? (Entry.isHostOf origin))

end Sheet

theorem Stanza.Tells.contribution (h : Tells settings sheet s) (origin : String) :
    s.contribution.location? origin = (sheet.contributes? origin).map (·.location) := by
  have hp := h.profile
  have hstart : (s.urlOrigin, s.urlLocation) =
      (Profile.of sheet.entries sheet.endsInDescription).start := congrArg Profile.start hp
  have hhost : s.origins.location? origin =
      (sheet.entries.find? (Entry.isHostOf origin)).map (·.location) :=
    congrFun (congrArg Profile.host hp) origin
  have happend : ∀ a b : Seen,
      Seen.location? (a ++ b) origin = (a.location? origin).or (b.location? origin) :=
    fun _ _ => List.lookup_append
  rw [Stanza.contribution, happend, hhost, Sheet.contributes?, Option.map_or]
  congr 1
  cases hf : sheet.start? with
  | none =>
    rw [Profile.start_of_none hf, Prod.mk.injEq] at hstart
    rw [if_pos hstart.1]
    rfl
  | some e =>
    obtain ⟨first, ho, hne, hs⟩ := Profile.start_of_some (b := sheet.endsInDescription) hf
    rw [hs, Prod.mk.injEq] at hstart
    rw [if_neg (hstart.1 ▸ hne), hstart.1, hstart.2, Seen.location?_cons]
    by_cases hk : first = origin
    · simp [Option.filter, ho, hk]
    · simp [Option.filter, ho, hk, Ne.symm hk, Seen.location?]

namespace Processor

variable (p : Processor) (settings : Settings)

theorem step_origins (checks : Checks) (line location : String) :
    (p.step checks line location).1.origins =
      if Line.read line = .closing then p.origins.noteAll p.stanza.contribution
      else p.origins := by
  rw [step_eq]
  cases Line.read line with
  | closing => rfl
  | comment text =>
    obtain ⟨source, title, lookup, hc⟩ :=
      { p with current := none, lastLineEmpty := false }.comment_stanza checks text
    simp [read, hc]
  | unfinished segment => rfl
  | complete text =>
    have hl : ∀ (q : Processor) text, (q.logicalLine checks.settings text location).1.origins =
        q.origins := by
      intro q text
      rw [logicalLine_eq]
      cases Entry.of? text location <;> rfl
    simp only [read, complete, reduceCtorEq, if_false]
    split
    · rw [hl]
    · rw [hl]

theorem valueFindings_host (h : Entry.isHost e = true) :
    p.valueFindings settings e = p.hostFindings settings e.payload := by
  rcases Entry.directive_of_isHost h with hd | hd <;> simp only [valueFindings, hd]

theorem startingPoint_originSeen (value : String) :
    coded .originSeen (p.startingPointFindings settings value) =
      (((Address.startingPoint? value).toOption.join.map Url.origin).bind
        p.origins.location?).toList.map .originSeen := by
  unfold startingPointFindings
  split
  next hp => simp [hp, Diagnostic.code, Except.toOption]
  next hp => simp [hp, Diagnostic.code, Except.toOption]
  next hp => simp [hp, Diagnostic.code, Except.toOption, originFindings]

/-- An origin is compared with those of the run, and with nothing else under this code. -/
theorem valueFindings_originSeen (e : Entry) :
    coded .originSeen (p.valueFindings settings e) =
      (e.origin?.bind p.origins.location?).toList.map .originSeen := by
  by_cases hu : e.directive = .url
  · rw [p.valueFindings_url settings hu, Entry.origin?_url hu, urlFindings, Entry.url?_url hu]
    simp [Diagnostic.code, p.startingPoint_originSeen settings]
  · by_cases hh : e.isHost = true
    · rw [p.valueFindings_host settings hh, Entry.origin?_host hh]
      unfold hostFindings
      split
      next hp => simp [hp, Diagnostic.code, Except.toOption]
      next hp => simp [hp, Except.toOption, originFindings]
    · rw [Entry.origin?_eq_none hu (by simpa using hh)]
      refine (p.valueFindings_isFor settings e).coded_eq_nil ?_
      simp only [Entry.isHost, Bool.or_eq_true, beq_iff_eq, not_or] at hh
      simp [Code.isFor, hu, hh.1, hh.2]

end Processor

namespace Progress

variable {checks : Checks} {s : Progress} {ledger : Ledger}

/-- An action that closes a stanza adds what the stanza contributes, and no other does. -/
theorem perform_origins (h : s.Told checks.settings ledger) (action : Action) (origin : String) :
    (s.perform checks action).1.processor.origins.location? origin =
      (s.processor.origins.location? origin).or
        ((ledger.closes? action).bind fun sheet => (sheet.contributes? origin).map (·.location)) := by
  cases action with
  | line text location =>
    simp only [perform, Processor.step_origins, Ledger.closes?]
    split
    · rw [Seen.location?_noteAll, h.current.contribution, Option.bind_some]
    · simp
  | suspend => simp [perform, Processor.suspend, Ledger.closes?]
  | resume =>
    obtain ⟨p, suspended⟩ := s
    cases suspended <;> simp [perform, Processor.resume, Ledger.closes?]

/-- What is remembered of an origin comes from the first stanza that was closed with it. -/
theorem run_origins (checks : Checks) (history : List Action) (origin : String) :
    (run {} checks history).1.processor.origins.location? origin =
      (Ledger.closed history).findSome? fun sheet =>
        (sheet.contributes? origin).map (·.location) := by
  refine run_induction (P := fun history s => s.processor.origins.location? origin =
    (Ledger.closed history).findSome? fun sheet => (sheet.contributes? origin).map (·.location))
    rfl (fun history action s told ih => ?_) history
  rw [perform_origins told, ih, Ledger.closed_concat, List.findSome?_append]
  cases (Ledger.of history).closes? action <;> simp

theorem run_originSeen (checks : Checks) (history : List Action) (action : Action) :
    coded .originSeen ((run {} checks history).1.perform checks action).2 =
      (((Ledger.of history).completes? action).bind Entry.origin? |>.bind
        (run {} checks history).1.processor.origins.location?).toList.map .originSeen := by
  rw [perform_coded rfl (run_told checks history)]
  cases (Ledger.of history).completes? action with
  | none => rfl
  | some e => exact Processor.valueFindings_originSeen _ _ e

/-- The origins of a run are those that the stanzas closed so far contributed, each as the first
of these stanzas has it. A line is told of an origin exactly if it is among them, so never of one
that only its own stanza has so far. -/
theorem origin_memory (checks : Checks) (history : List Action) :
    let s := (run {} checks history).1
    let closed := Ledger.closed history
    (∀ origin, (∃ place, s.processor.origins.location? origin = some place) ↔
        ∃ sheet ∈ closed, (sheet.contributes? origin).isSome) ∧
      (∀ origin, s.processor.origins.location? origin = closed.findSome? fun sheet =>
        (sheet.contributes? origin).map (·.location)) ∧
      (∀ text location,
        coded .originSeen (s.perform checks (.line text location)).2 =
          (((Ledger.of history).completes? (.line text location)).bind Entry.origin? |>.bind
            s.processor.origins.location?).toList.map .originSeen) ∧
      (∀ text location e origin, (Ledger.of history).completes? (.line text location) = some e →
        e.origin? = some origin → (∀ sheet ∈ closed, sheet.contributes? origin = none) →
          coded .originSeen (s.perform checks (.line text location)).2 = []) ∧
      (∀ more, s.processor.origins.KeptIn
        (run {} checks (history ++ more)).1.processor.origins) ∧
      ∀ place, (Diagnostic.originSeen place).code.text = "L2002" ∧
        (Diagnostic.originSeen place).message = "Origin already seen at " ++ Text.quote place := by
  intro s closed
  have located := run_origins checks history
  refine ⟨fun origin => ?_, located, fun text location => ?_, ?_, fun more => ?_,
    fun place => ⟨rfl, rfl⟩⟩
  · rw [← Option.isSome_iff_exists, located, List.findSome?_isSome_iff]
    simp [closed]
  · exact run_originSeen checks history _
  · intro text location e origin he ho hnone
    have hn : closed.findSome? (fun sheet => (sheet.contributes? origin).map (·.location)) =
        none := by
      rw [List.findSome?_eq_none_iff]
      intro sheet hs
      rw [hnone sheet hs]
      rfl
    rw [run_originSeen, he, Option.bind_some, ho, Option.bind_some, located, hn]
    rfl
  · rw [run_append]
    exact (run_grows s checks more).2

/-- An included file has the origin of a stanza that waits, and is closed before it. -/
def interleaved : List Action := [
  .line "Title A" "f:1",
  .line "URL https://a.org" "f:2",
  .suspend,
  .line "H https://a.org/x" "g:1",
  .line "#" "g:2",
  .resume,
  .line "HJ b.org" "f:3"]

theorem origin_memory_interleaved :
    let checks : Checks := ⟨{ origins := true }, .pages fun _ => .ok none⟩
    let s := (run {} checks interleaved).1
    coded .originSeen (s.perform checks (.line "U https://A.org:443/" "f:4")).2 =
        [.originSeen "g:1"] ∧
      ∃ e, (Ledger.of interleaved).completes? (.line "H b.org" "f:4") = some e ∧
        e.origin? = some "http://b.org" ∧
        (∀ sheet ∈ Ledger.closed interleaved, sheet.contributes? "http://b.org" = none) ∧
        coded .originSeen (s.perform checks (.line "H b.org" "f:4")).2 = [] := by
  have hall := origin_memory ⟨{ origins := true }, .pages fun _ => .ok none⟩ interleaved
  have hb : ((Ledger.of interleaved).completes? (.line "H b.org" "f:4")).bind Entry.origin? =
      some "http://b.org" := by decide +kernel
  have hn : ∀ sheet ∈ Ledger.closed interleaved, sheet.contributes? "http://b.org" = none := by
    decide +kernel
  have ha : ((Ledger.of interleaved).completes? (.line "U https://A.org:443/" "f:4")).bind
      Entry.origin? = some "https://a.org" := by decide +kernel
  have hg : ((Ledger.closed interleaved).findSome? fun sheet =>
      (sheet.contributes? "https://a.org").map (·.location)) = some "g:1" := by decide +kernel
  obtain ⟨e, he, ho⟩ := Option.bind_eq_some_iff.mp hb
  have hfound := hall.2.2.1 "U https://A.org:443/" "f:4"
  rw [ha, Option.bind_some, hall.2.1, hg] at hfound
  exact ⟨hfound, e, he, ho, hn, hall.2.2.2.1 _ _ e _ he ho hn⟩

end Progress

-- ---------------------------------------------------------------------------
-- Runs without includes
-- ---------------------------------------------------------------------------

theorem Ledger.entries_lines (placed : List (String × String)) :
    entries (Action.lines placed) =
      (closed (Action.lines placed)).flatMap Sheet.entries ++
        (of (Action.lines placed)).sheet.entries := by
  induction placed using List.reverseRecOn with
  | nil => rfl
  | append_singleton placed l ih =>
    have hl : Action.lines (placed ++ [l]) = Action.lines placed ++ [.line l.1 l.2] := by
      simp [Action.lines]
    rw [hl, entries_concat, closed_concat, of_concat, ih]
    simp only [completes?, closes?, perform]
    by_cases hc : Line.read l.1 = .closing
    · simp [hc, Sheet.completes?, Sheet.read, Sheet.entries]
    · rw [Sheet.entries_read hc]
      simp [hc]

/-- An origin counts against later stanzas if a host or the starting point has it. -/
theorem Sheet.contributes?_isSome_iff {sheet : Sheet} {origin : String} :
    (sheet.contributes? origin).isSome ↔ ∃ k ∈ sheet.entries, k.origin? = some origin ∧
      (k.isHost = true ∨ sheet.start? = some k) := by
  unfold contributes?
  constructor
  · intro h
    obtain ⟨k, hk⟩ := Option.isSome_iff_exists.mp h
    rcases Option.or_eq_some_iff.mp hk with hk | ⟨-, hk⟩
    · obtain ⟨hs, ho⟩ := Option.filter_eq_some_iff.mp hk
      exact ⟨k, List.mem_of_find?_eq_some hs, by simpa using ho, .inr hs⟩
    · have hh := List.find?_some hk
      simp only [Entry.isHostOf, Bool.and_eq_true, beq_iff_eq] at hh
      exact ⟨k, List.mem_of_find?_eq_some hk, hh.2, .inl hh.1⟩
  · rintro ⟨k, hk, ho, hh | hs⟩
    · have hf : (sheet.entries.find? (Entry.isHostOf origin)).isSome := by
        rw [List.find?_isSome]
        exact ⟨k, hk, by simp [Entry.isHostOf, hh, ho]⟩
      simp [hf]
    · simp [hs, ho, Option.filter]

namespace Progress

/-- In a run without includes, an origin is recalled exactly if a host or the starting point of an
earlier stanza has it; further starting points are forgotten. The first of these stanzas is
cited, by its starting point before its hosts. If in every stanza the first line with the origin
is the one that counts, it is the first line of the whole run. -/
theorem recurring_origin (checks : Checks) (placed : List (String × String))
    (text location : String) :
    let history := Action.lines placed
    let closed := Ledger.closed history
    let found := coded .originSeen
      ((run {} checks history).1.perform checks (.line text location)).2
    Ledger.entries history =
        closed.flatMap Sheet.entries ++ (Ledger.of history).sheet.entries ∧
      ∀ e origin, (Ledger.of history).completes? (.line text location) = some e →
        e.origin? = some origin →
        (found ≠ [] ↔ ∃ earlier ∈ closed, ∃ k ∈ earlier.entries, k.origin? = some origin ∧
          (k.isHost = true ∨ earlier.start? = some k)) ∧
        (∀ k, closed.findSome? (·.contributes? origin) = some k →
          found = [.originSeen k.location]) ∧
        ((∀ earlier ∈ closed, earlier.entries.find? (·.origin? == some origin) =
            earlier.contributes? origin) →
          ∀ first, (closed.flatMap Sheet.entries).find? (·.origin? == some origin) = some first →
            found = [.originSeen first.location]) := by
  intro history closed found
  refine ⟨Ledger.entries_lines placed, fun e origin he ho => ?_⟩
  -- the finding is about the line that the first closed stanza with the origin contributes
  have hfound : found = ((closed.findSome? (·.contributes? origin)).map
      (Diagnostic.originSeen ·.location)).toList := by
    have hl : (closed.findSome? fun sheet => (sheet.contributes? origin).map (·.location)) =
        (closed.findSome? (·.contributes? origin)).map (·.location) := by
      rw [List.map_findSome?]
      rfl
    rw [show found = _ from run_originSeen checks history _, he, Option.bind_some, ho,
      Option.bind_some, run_origins, hl]
    cases closed.findSome? (·.contributes? origin) <;> rfl
  have hcited : ∀ k, closed.findSome? (·.contributes? origin) = some k →
      found = [.originSeen k.location] := by
    intro k hk
    rw [hfound, hk]
    rfl
  refine ⟨?_, hcited, fun horderly first hfirst => ?_⟩
  · have hne : found ≠ [] ↔ (closed.findSome? (·.contributes? origin)).isSome := by
      rw [hfound]
      cases closed.findSome? (·.contributes? origin) <;> simp
    rw [hne, List.findSome?_isSome_iff]
    simp only [Sheet.contributes?_isSome_iff]
  · apply hcited
    rw [List.find?_flatMap, List.findSome?_eq_some_iff] at hfirst
    obtain ⟨before, sheet, after, hsplit, hs, hbefore⟩ := hfirst
    rw [List.findSome?_eq_some_iff]
    refine ⟨before, sheet, after, hsplit, ?_, fun earlier hb => ?_⟩
    · rw [← horderly sheet (by simp [hsplit])]
      exact hs
    · rw [← horderly earlier (by simp [hsplit, hb])]
      exact hbefore earlier hb

/-- The second starting point of a stanza is forgotten with it: its origin comes again in the
next stanza, and nothing is found. -/
theorem second_start_forgotten :
    let checks : Checks := ⟨{}, .pages fun _ => .ok none⟩
    let history := Action.lines [("Title A", "test:1"), ("URL https://a.example.com", "test:2"),
      ("URL https://b.example.com", "test:3"), ("", "test:4"), ("Title B", "test:5")]
    let line : Action := .line "URL https://b.example.com" "test:6"
    ((Ledger.of history).completes? line).bind Entry.origin? = some "https://b.example.com" ∧
      (((Ledger.closed history).flatMap Sheet.entries).find?
        (·.origin? == some "https://b.example.com")).map Entry.location = some "test:3" ∧
      coded .originSeen ((run {} checks history).1.perform checks line).2 = [] := by
  decide +kernel

/-- The first stanza has a host before its starting point, which is cited, and one behind it,
which is the first line with its origin. -/
theorem recurring_origin_host_first :
    let checks : Checks := ⟨{}, .pages fun _ => .ok none⟩
    let history := Action.lines [("H https://a.org", "f:1"), ("Title A", "f:2"),
      ("URL https://a.org/x", "f:3"), ("H c.org", "f:4"), ("#", "f:5"), ("Title B", "f:6")]
    (∃ e k, (Ledger.of history).completes? (.line "HJ https://a.org/y" "f:7") = some e ∧
      e.origin? = some "https://a.org" ∧
      (Ledger.closed history).findSome? (·.contributes? "https://a.org") = some k ∧
      k.location = "f:3" ∧
      coded .originSeen ((run {} checks history).1.perform checks
        (.line "HJ https://a.org/y" "f:7")).2 = [.originSeen k.location]) ∧
    ∃ e first, (Ledger.of history).completes? (.line "HJ c.org" "f:7") = some e ∧
      e.origin? = some "http://c.org" ∧
      ((Ledger.closed history).flatMap Sheet.entries).find? (·.origin? == some "http://c.org") =
        some first ∧
      first.location = "f:4" ∧
      coded .originSeen ((run {} checks history).1.perform checks (.line "HJ c.org" "f:7")).2 =
        [.originSeen first.location] := by
  intro checks history
  have hall := recurring_origin checks [("H https://a.org", "f:1"), ("Title A", "f:2"),
    ("URL https://a.org/x", "f:3"), ("H c.org", "f:4"), ("#", "f:5"), ("Title B", "f:6")]
  constructor
  · have he : ((Ledger.of history).completes? (.line "HJ https://a.org/y" "f:7")).bind
        Entry.origin? = some "https://a.org" := by decide +kernel
    have hk : ((Ledger.closed history).findSome? (·.contributes? "https://a.org")).map
        Entry.location = some "f:3" := by decide +kernel
    obtain ⟨e, hline, horigin⟩ := Option.bind_eq_some_iff.mp he
    obtain ⟨k, hfirst, hplace⟩ := Option.map_eq_some_iff.mp hk
    exact ⟨e, k, hline, horigin, hfirst, hplace,
      ((hall "HJ https://a.org/y" "f:7").2 e _ hline horigin).2.1 k hfirst⟩
  · have he : ((Ledger.of history).completes? (.line "HJ c.org" "f:7")).bind
        Entry.origin? = some "http://c.org" := by decide +kernel
    have hk : (((Ledger.closed history).flatMap Sheet.entries).find?
        (·.origin? == some "http://c.org")).map Entry.location = some "f:4" := by decide +kernel
    have horderly : ∀ earlier ∈ Ledger.closed history,
        earlier.entries.find? (·.origin? == some "http://c.org") =
          earlier.contributes? "http://c.org" := by decide +kernel
    obtain ⟨e, hline, horigin⟩ := Option.bind_eq_some_iff.mp he
    obtain ⟨first, hfirst, hplace⟩ := Option.map_eq_some_iff.mp hk
    exact ⟨e, first, hline, horigin, hfirst, hplace,
      ((hall "HJ c.org" "f:7").2 e _ hline horigin).2.2 horderly first hfirst⟩

end Progress

end StanzaLint
