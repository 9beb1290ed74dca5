import StanzaLint.Proofs.Runs
import StanzaLint.Proofs.OptionalChecks

/-!
# Included files do not reach into the stanza that includes them

A file that was read to its end gives the stanza back that it interrupted, and
has only added to the memory of the run. So what is reported about the lines of
a file is the same whether its includes are followed or not, but for what is
found by comparison with that memory.

Reports are told apart by their locations, which name the file; a file that
includes itself again reports under the same name, and is left out.
-/

namespace StanzaLint

def Record.unrecalled (r : Record) : Record :=
  { r with diagnostics := Diagnostic.unrecalled r.diagnostics }

namespace Run

def recordsOf (path : Path) (events : List Event) : List Record :=
  (records events).filter fun record => fileOf record.location = path

theorem recordsOf_append (path : Path) (events more : List Event) :
    recordsOf path (events ++ more) = recordsOf path events ++ recordsOf path more := by
  simp [recordsOf, records_append]

-- ---------------------------------------------------------------------------
-- Where reports stand
-- ---------------------------------------------------------------------------

/-- Every report is about the file at `path` or about one that was entered. -/
def Local (path : Path) (events : List Event) : Prop :=
  ∀ place, recordsOf place events ≠ [] → place = path ∨ place ∈ entered events

theorem Local.nil (path : Path) : Local path [] := fun _ h => absurd rfl h

theorem Local.append {trace more : List Event} (hf : Local path trace) (hs : Local path more) :
    Local path (trace ++ more) := by
  intro place h
  rw [recordsOf_append] at h
  rw [entered_append]
  by_cases he : recordsOf place trace = []
  · rw [he, List.nil_append] at h
    exact (hs place h).imp_right (List.mem_append_right _)
  · exact (hf place he).imp_right (List.mem_append_left _)

theorem alone_records (checks : Checks) (path : Path) (number : Nat) (text : String)
    (physical : Bool) (p : Processor) (place : Path) :
    recordsOf place (alone checks path number text physical p).events =
      if place = path then
        [⟨location path number, text, (p.step checks text (location path number)).1.lastLineEmpty,
          (p.step checks text (location path number)).2, physical⟩]
      else [] := by
  have hr : records (alone checks path number text physical p).events =
      [⟨location path number, text, (p.step checks text (location path number)).1.lastLineEmpty,
        (p.step checks text (location path number)).2, physical⟩] := rfl
  rw [recordsOf, hr]
  by_cases h : place = path
  · simp [fileOf_location, h]
  · simp [fileOf_location, h, Ne.symm h]

theorem alone_local (checks : Checks) (path : Path) (number : Nat) (text : String)
    (physical : Bool) (p : Processor) :
    Local path (alone checks path number text physical p).events := by
  intro place h
  rw [alone_records] at h
  split at h
  next hp => exact .inl hp
  next => exact absurd rfl h

/-- Whatever file is visited, all reports are about it or about files entered from it. -/
def VisitLocal (visit : Path → Processor → Run) : Prop :=
  ∀ (path : Path) (p : Processor), Local path (visit path p).events

variable {checks : Checks} {visit : Path → Processor → Run}

theorem follow_entered (hv : VisitLocal visit) (settings : Settings) (enclosing : Path)
    (text : String) (p : Processor) (place : Path)
    (h : recordsOf place (follow settings visit enclosing text p).events ≠ []) :
    place ∈ entered (follow settings visit enclosing text p).events := by
  cases ht : target? text with
  | none =>
    rw [follow_none ht] at h
    exact absurd rfl h
  | some target =>
    rw [follow_some ht] at h
    have hin : recordsOf place (visit (resolve settings enclosing target) p).events ≠ [] := by
      simpa [recordsOf, records] using h
    rw [entered_follow ht, List.mem_cons]
    exact hv _ p place hin

theorem follow_local (hv : VisitLocal visit) (settings : Settings) (enclosing : Path)
    (text : String) (p : Processor) :
    Local enclosing (follow settings visit enclosing text p).events :=
  fun place h => .inr (follow_entered hv settings enclosing text p place h)

theorem andThen_local {r : Run} {next : Processor → Run} (hr : Local path r.events)
    (hn : ∀ q, Local path (next q).events) : Local path (r.andThen next).events := by
  rcases andThen_cases r next with ⟨n, -, he⟩ | ⟨-, he⟩
  · rw [he]
    exact hr.append (hn r.processor)
  · rw [he]
    exact hr

theorem line_local (hv : VisitLocal visit) (path : Path) (number : Nat) (text : String)
    (physical : Bool) (p : Processor) :
    Local path (line checks visit path number text physical p).events := by
  rw [line_eq]
  split
  · exact andThen_local (alone_local checks path number text physical p)
      (follow_local hv checks.settings path text)
  · exact alone_local checks path number text physical p

theorem lines_local (hv : VisitLocal visit) (path : Path) (number : Nat) (texts : List String)
    (p : Processor) : Local path (lines checks visit path number texts p).events := by
  induction texts generalizing number p with
  | nil =>
    unfold lines
    split
    · exact Local.nil path
    · exact line_local hv path number "" false p
  | cons text rest ih =>
    unfold lines
    exact andThen_local (line_local hv path _ text true p) (ih _)

theorem file_local (checks : Checks) (files : Files) (levels depth : Nat) :
    VisitLocal (file checks files levels depth) := by
  induction levels generalizing depth with
  | zero => exact fun path p => Local.nil path
  | succ levels ih =>
    intro path p
    rcases file_cases checks files levels depth path p with ⟨cause, he⟩ | ⟨content, -, he⟩
    · rw [he]
      exact Local.nil path
    · rw [he, resume_events]
      exact lines_local (ih (depth + 1)) path 0 _ _

-- ---------------------------------------------------------------------------
-- What a file gives back
-- ---------------------------------------------------------------------------

/-- A file that is read to its end leaves the stanza as it was. -/
def VisitRestores (visit : Path → Processor → Run) : Prop :=
  ∀ (path : Path) (p : Processor) (n : Nat),
    (visit path p).outcome = .count n → (visit path p).processor.SamePlace p

theorem file_restores (checks : Checks) (files : Files) (levels depth : Nat) :
    VisitRestores (file checks files levels depth) := by
  intro path p n h
  cases levels with
  | zero => cases h
  | succ levels =>
    rcases file_cases checks files levels depth path p with ⟨cause, he⟩ | ⟨content, -, he⟩
    · rw [he] at h
      cases h
    · -- the lines may have left anything; what was set aside replaces it
      rw [he, resume_outcome] at h
      rw [he, resume_count h]
      exact ⟨rfl, rfl⟩

theorem follow_restores (hv : VisitRestores visit) (settings : Settings) (enclosing : Path)
    (text : String) (p : Processor) (h : (follow settings visit enclosing text p).outcome = .count n) :
    (follow settings visit enclosing text p).processor.SamePlace p := by
  cases ht : target? text with
  | none =>
    rw [follow_none ht] at h
    cases h
  | some target =>
    rw [follow_some ht] at h ⊢
    exact hv _ p n (Outcome.within_eq_count.mp h)

-- ---------------------------------------------------------------------------
-- The same file with and without its includes
-- ---------------------------------------------------------------------------

/-- The checks that stay in one file. -/
def still (checks : Checks) : Checks :=
  { checks with settings := { checks.settings with followIncludes := false } }

/-- Whether includes are followed does not matter to a line. -/
theorem step_still (checks : Checks) (p : Processor) (text place : String) :
    p.step (still checks) text place = p.step checks text place :=
  p.step_congr checks.titles (fun w => by cases w <;> rfl) text place

theorem alone_still (checks : Checks) (path : Path) (number : Nat) (text : String)
    (physical : Bool) (p : Processor) :
    alone (still checks) path number text physical p =
      alone checks path number text physical p := by
  simp only [alone, step_still]

/-- `s` counts and says of the file at `path` what `r` says, but for what `r` and `s` find by
comparison with the memory of the run. -/
structure Parallel (path : Path) (r s : Run) : Prop where
  counts : ∃ n, s.outcome = .count n
  place : r.processor.SamePlace s.processor
  reports : (recordsOf path r.events).map Record.unrecalled =
    (recordsOf path s.events).map Record.unrecalled

theorem alone_parallel {p q : Processor} (h : p.SamePlace q) (path : Path) (number : Nat)
    (text : String) (physical : Bool) :
    Parallel path (alone checks path number text physical p)
      (alone checks path number text physical q) := by
  have ha := Processor.step_alike h.stanza checks text (location path number)
  refine ⟨⟨_, rfl⟩, ?_, ?_⟩
  · rw [alone_processor, alone_processor]
    exact ha.place
  · simp only [alone_records, ↓reduceIte, List.map_cons, List.map_nil, Record.unrecalled,
      ha.place.lastLineEmpty, ha.findings]

theorem line_parallel (hl : VisitLocal visit) (hv : VisitRestores visit)
    (away : Path → Processor → Run) {p q : Processor} (hp : p.SamePlace q) (path : Path)
    (number : Nat) (text : String) (physical : Bool)
    (h : (line checks visit path number text physical p).outcome = .count n)
    (he : path ∉ entered (line checks visit path number text physical p).events) :
    Parallel path (line checks visit path number text physical p)
      (line (still checks) away path number text physical q) := by
  have ha : Parallel path (alone checks path number text physical p) _ :=
    alone_parallel hp path number text physical
  have hs : ¬Follows (still checks) (alone (still checks) path number text physical q) :=
    fun hf => Bool.false_ne_true hf.1
  rw [line_eq (still checks), if_neg hs, alone_still]
  rw [line_eq] at h he ⊢
  split at h
  next hf =>
    rw [if_pos hf] at he ⊢
    obtain ⟨a, b, hr, hb, -⟩ := andThen_eq_count h
    rw [andThen_count hr, entered_append] at he
    rw [andThen_count hr]
    -- what the included file reports is about other files, as the file itself is not entered
    have hn : recordsOf path (follow checks.settings visit path text
        (alone checks path number text physical p).processor).events = [] :=
      Classical.byContradiction fun hne => he
        (List.mem_append_right _ (follow_entered hl _ path text _ path hne))
    -- and it leaves the stanza as the line left it
    have hb := follow_restores hv _ path text _ hb
    refine ⟨ha.counts, hb.trans ha.place, ?_⟩
    rw [recordsOf_append, hn, List.append_nil]
    exact ha.reports
  next hf =>
    rw [if_neg hf]
    exact ha

theorem lines_parallel (hl : VisitLocal visit) (hv : VisitRestores visit)
    (away : Path → Processor → Run) {p q : Processor} (hp : p.SamePlace q) (path : Path)
    (number : Nat) (texts : List String)
    (h : (lines checks visit path number texts p).outcome = .count n)
    (he : path ∉ entered (lines checks visit path number texts p).events) :
    Parallel path (lines checks visit path number texts p)
      (lines (still checks) away path number texts q) := by
  induction texts generalizing number p q n with
  | nil =>
    simp only [lines, hp.lastLineEmpty] at h he ⊢
    split at h
    next hq =>
      simp only [hq, ↓reduceIte]
      exact ⟨⟨0, rfl⟩, hp, rfl⟩
    next hq =>
      simp only [hq, Bool.false_eq_true, ↓reduceIte] at he ⊢
      exact line_parallel hl hv away hp path number "" false h he
  | cons text rest ih =>
    simp only [lines] at h he ⊢
    obtain ⟨a, b, hr, hb, -⟩ := andThen_eq_count h
    rw [andThen_count hr, entered_append] at he
    have hone := line_parallel hl hv away hp path (number + 1) text true hr fun hm =>
      he (List.mem_append_left _ hm)
    have hrest := ih hone.place (number + 1) hb fun hm => he (List.mem_append_right _ hm)
    -- no line of the run without includes fails, so it goes on to the end too
    obtain ⟨m, hm⟩ := hone.counts
    obtain ⟨k, hk⟩ := hrest.counts
    rw [andThen_count hr, andThen_count hm]
    refine ⟨⟨m + k, by rw [hk]; rfl⟩, hrest.place, ?_⟩
    simp only [recordsOf_append, List.map_append, hone.reports, hrest.reports]

theorem levelsFor_ne_zero (settings : Settings) : levelsFor settings ≠ 0 := by
  unfold levelsFor
  split
  · omega
  · unfold FileTree.pathBound
    generalize 21 * (FileTree.maxPath + 1) = bits
    exact Nat.ne_of_gt (Nat.pow_pos (by decide))

/-- A run at the top reads the file if there is one; it is never too deep. -/
theorem ofFile_eq (checks : Checks) {files : Files} (hc : files path = .file content)
    (p : Processor) :
    ofFile checks files path p =
      (lines checks (file checks files (levelsFor checks.settings - 1) 1) path 0
        (Text.fileLines content) p.suspend.2).resume p.suspend.1 := by
  obtain ⟨levels, hl⟩ := Nat.exists_eq_add_one_of_ne_zero (levelsFor_ne_zero checks.settings)
  have hd : checks.settings.maxIncludeDepth.filter (· < 0) = none := by simp
  rw [ofFile, hl]
  simp only [file, hd, hc]
  rfl

theorem ofFile_content (h : (ofFile checks files path p).outcome = .count n) :
    ∃ content, files path = .file content := by
  obtain ⟨levels, hl⟩ := Nat.exists_eq_add_one_of_ne_zero (levelsFor_ne_zero checks.settings)
  rw [ofFile, hl] at h
  rcases file_cases checks files levels 0 path p with ⟨cause, he⟩ | ⟨content, hc, -⟩
  · rw [he] at h
    cases h
  · exact ⟨content, hc⟩

theorem include_isolation (checks : Checks) (files : Files) :
    (∀ levels depth path p n, (file checks files levels depth path p).outcome = .count n →
      (file checks files levels depth path p).processor.SamePlace p ∧
        p.Grows (file checks files levels depth path p).processor) ∧
    ∀ path p n, (ofFile checks files path p).outcome = .count n →
      path ∉ entered (ofFile checks files path p).events →
      (∃ m, (ofFile (still checks) files path p).outcome = .count m) ∧
        (recordsOf path (ofFile checks files path p).events).map Record.unrecalled =
          (recordsOf path (ofFile (still checks) files path p).events).map Record.unrecalled := by
  constructor
  · intro levels depth path p n h
    exact ⟨file_restores checks files levels depth path p n h, file_grows checks files _ _ _ p⟩
  · intro path p n h he
    obtain ⟨content, hc⟩ := ofFile_content h
    rw [ofFile_eq checks hc, resume_outcome] at h
    rw [ofFile_eq checks hc, resume_events] at he ⊢
    rw [ofFile_eq (still checks) hc, resume_outcome, resume_events]
    -- both runs start with an empty stanza, so the lines start at the same place
    have hp := lines_parallel (file_local checks files _ 1) (file_restores checks files _ 1)
      (file (still checks) files (levelsFor (still checks).settings - 1) 1) ⟨rfl, rfl⟩ path 0
      (Text.fileLines content) h he
    exact ⟨hp.counts, hp.reports⟩

/-- A stanza that is interrupted by a file with the same title and starting point, which in turn
ends with an include of an empty file. -/
def interrupted : FileTree where
  entries := [
    (["main.txt"], .file (Text.encodeUtf8
      "Title A\nIncludeFile a.txt\nURL https://a.org\n".toList)),
    (["a.txt"], .file (Text.encodeUtf8
      "Title A\nURL https://a.org\n\nOption DomainCookieOnly\nIncludeFile b.txt".toList)),
    (["b.txt"], .file [])]

theorem include_isolation_interrupted :
    let checks : Checks := ⟨{ whitespace := true }, .pages fun _ => .ok none⟩
    let p : Processor := { stanza := { title := "A" } }
    let inner := file checks interrupted.find 3 1 "a.txt" p
    let outer := ofFile checks interrupted.find "main.txt" {}
    inner.outcome = .count 1 ∧ (inner.processor.SamePlace p ∧ p.Grows inner.processor) ∧
      outer.outcome = .count 4 ∧ "main.txt" ∉ entered outer.events ∧
      (recordsOf "main.txt" outer.events).map Record.unrecalled =
        (recordsOf "main.txt" (ofFile (still checks) interrupted.find "main.txt" {}).events).map
          Record.unrecalled := by
  have isolated := include_isolation ⟨{ whitespace := true }, .pages fun _ => .ok none⟩ interrupted.find
  have hi : (file ⟨{ whitespace := true }, .pages fun _ => .ok none⟩ interrupted.find 3 1 "a.txt"
      { stanza := { title := "A" } }).outcome = .count 1 := by decide +kernel
  have ho : (ofFile ⟨{ whitespace := true }, .pages fun _ => .ok none⟩ interrupted.find "main.txt"
      {}).outcome = .count 4 := by decide +kernel
  have he : "main.txt" ∉ entered (ofFile ⟨{ whitespace := true }, .pages fun _ => .ok none⟩
      interrupted.find "main.txt" {}).events := by decide +kernel
  exact ⟨hi, isolated.1 _ _ _ _ _ hi, ho, he, (isolated.2 _ _ _ ho he).2⟩

end Run

end StanzaLint
