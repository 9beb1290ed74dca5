import StanzaLint.Proofs.Citations
import StanzaLint.Proofs.Paths
import StanzaLint.Proofs.Relocation
import StanzaLint.Proofs.Runs

/-!
# Trees that are moved

A tree of files may be moved into a directory `d` as a whole. Every file is then found
under a path that starts with `d`, and so are the files that it includes, because their
paths are built from its own. The runs in the old and in the new tree go side by side
(`file_moves`): they differ in the paths and locations that they name, and in nothing
else. Locations come back in later findings; these have moved as well, because none of
them is the empty one that stands for no line.
-/

namespace StanzaLint

open Text

namespace Path

/-- Moves a location. The empty one stays, as it is not that of a line. -/
def under (d : Path) (place : String) : String := if place = "" then "" else below d place

@[simp] theorem under_empty (d : Path) : under d "" = "" := rfl

theorem under_of_ne {place : String} (h : place ≠ "") (d : Path) : under d place = below d place :=
  if_neg h

end Path

open StanzaLint.Path (below under)

theorem Diagnostic.relocate_under {diagnostic : Diagnostic} (h : diagnostic.Placed) (d : Path) :
    diagnostic.relocate (under d) = diagnostic.relocate (below d) := by
  cases diagnostic with
  | originSeen place => exact congrArg originSeen (Path.under_of_ne h d)
  | titleSeen place => exact congrArg titleSeen (Path.under_of_ne h d)
  | originRepeated place => exact congrArg originRepeated (Path.under_of_ne h d)
  | _ => rfl

/-- What is said about a line, at its location and with the locations that it cites below `d`. -/
def Record.movedInto (d : Path) (r : Record) : Record :=
  { r with
      location := Path.below d r.location
      diagnostics := r.diagnostics.map (Diagnostic.relocate (Path.below d)) }

def Failure.movedInto (d : Path) : Failure → Failure
  | notFound path => notFound (Path.below d path)
  | unreadable path fault => unreadable (Path.below d path) fault
  | included line path cause => included line (Path.below d path) (cause.movedInto d)
  | tooDeep path limit => tooDeep (Path.below d path) limit
  | cause => cause

namespace Outcome

def movedInto (d : Path) : Outcome → Outcome
  | failure cause => failure (cause.movedInto d)
  | outcome => outcome

theorem movedInto_add (d : Path) (o : Outcome) (n : Nat) :
    (o.add n).movedInto d = (o.movedInto d).add n := by
  cases o <;> rfl

theorem movedInto_within (d : Path) (o : Outcome) (text : String) (path : Path) :
    (o.within text path).movedInto d = (o.movedInto d).within text (Path.below d path) := by
  cases o <;> rfl

theorem movedInto_eq_count {o : Outcome} : o.movedInto d = .count n ↔ o = .count n := by
  cases o <;> simp [movedInto]

end Outcome

namespace Processor

theorem relocate_suspend {f : String → String} (hf : f "" = "") (p : Processor) :
    (p.relocate f).suspend.2 = p.suspend.2.relocate f := by
  simp [suspend, relocate, Stanza.relocate, Seen.relocate, hf]

theorem Placed.suspend {p : Processor} (h : p.Placed) : p.suspend.2.Placed := by
  refine ⟨⟨fun hs => absurd rfl hs, fun _ _ hh => ?_⟩, h.titles, h.origins⟩
  cases hh

end Processor

namespace Run

variable {checks : Checks} {visit away : Path → Processor → Run} {d : Path}

def targets (events : List Event) : List Path :=
  events.filterMap fun
    | .enter text _ _ _ => target? text
    | _ => none

theorem targets_append (events more : List Event) :
    targets (events ++ more) = targets events ++ targets more := List.filterMap_append ..

theorem targets_included {text : String} (h : target? text = some target) (enclosing path : Path)
    (p : Processor) (events : List Event) :
    targets (.enter text enclosing path p :: events ++ [.leave]) = target :: targets events := by
  simp [targets, h]

theorem location_ne_empty (path : Path) (number : Nat) : location path number ≠ "" := by
  intro h
  have hl := congrArg String.toList h
  simp [location] at hl

theorem location_below (d path : Path) (number : Nat) :
    location (below d path) number = under d (location path number) := by
  rw [Path.under_of_ne (location_ne_empty path number)]
  simp [location, below, String.append_assoc]

/-- The second run does below `d` what the first one does. -/
structure Moves (d : Path) (r s : Run) : Prop where
  outcome : s.outcome = r.outcome.movedInto d
  records : records s.events = (records r.events).map (Record.movedInto d)
  processor : s.processor = r.processor.relocate (under d)
  placed : r.processor.Placed

theorem fail_moves {p : Processor} (h : p.Placed) {cause other : Failure}
    (hc : other = cause.movedInto d) :
    Moves d (fail p cause) (fail (p.relocate (under d)) other) :=
  ⟨congrArg Outcome.failure hc, rfl, rfl, h⟩

theorem alone_moves (d : Path) (checks : Checks) {p : Processor} (h : p.Placed) (path : Path)
    (number : Nat) (text : String) (physical : Bool) :
    Moves d (alone checks path number text physical p)
      (alone checks (below d path) number text physical (p.relocate (under d))) := by
  obtain ⟨hplaced, hcited⟩ := Processor.step_placed h (location_ne_empty path number) checks text
  have hstep := p.step_relocate (under d) rfl checks text (location path number)
  have hfound : (p.step checks text (location path number)).2.map (Diagnostic.relocate (under d)) =
      (p.step checks text (location path number)).2.map (Diagnostic.relocate (below d)) :=
    List.map_congr_left fun x hx => Diagnostic.relocate_under (hcited x hx) d
  have hplace := Path.under_of_ne (location_ne_empty path number) d
  simp only [alone, location_below, hstep]
  simp only [Processor.relocated, Prod.map, hfound, hplace]
  exact ⟨by simp [Outcome.movedInto], rfl, rfl, hplaced⟩

theorem andThen_moves {r s : Run} {next more : Processor → Run} (h : Moves d r s)
    (hn : (∃ n, r.outcome = .count n) → Moves d (next r.processor) (more s.processor)) :
    Moves d (r.andThen next) (s.andThen more) := by
  rcases andThen_cases r next with ⟨n, hr, he⟩ | ⟨hr, he⟩
  · have hs : s.outcome = .count n := by rw [h.outcome, hr]; rfl
    have hlater := hn ⟨n, hr⟩
    rw [he, andThen_count hs]
    refine ⟨?_, ?_, hlater.processor, hlater.placed⟩
    · simp only [hlater.outcome, Outcome.movedInto_add]
    · simp only [records_append, h.records, hlater.records, List.map_append]
  · have hs : ∀ n, s.outcome ≠ .count n := by
      intro n hs
      rw [h.outcome, Outcome.movedInto_eq_count] at hs
      exact hr n hs
    rw [he, andThen_stop hs]
    exact h

def PlainTargets (events : List Event) : Prop := ∀ target ∈ targets events, target.IsPlain

theorem plainTargets_append {events more : List Event} :
    PlainTargets (events ++ more) ↔ PlainTargets events ∧ PlainTargets more := by
  rw [PlainTargets, targets_append, List.forall_mem_append]
  rfl

def VisitMoves (d : Path) (visit away : Path → Processor → Run) : Prop :=
  ∀ path p, path.IsPlain → p.Placed → PlainTargets (visit path p).events →
    Moves d (visit path p) (away (below d path) (p.relocate (under d)))

theorem follow_moves (hd : d.IsName) (hs : checks.settings.includeDirectory = none)
    (hv : VisitMoves d visit away) {p : Processor} (h : p.Placed) {path : Path}
    (hpath : path.IsPlain) (text : String)
    (ht : PlainTargets (follow checks.settings visit path text p).events) :
    Moves d (follow checks.settings visit path text p)
      (follow checks.settings away (below d path) text (p.relocate (under d))) := by
  cases htarget : target? text with
  | none =>
    rw [follow_none htarget, follow_none htarget]
    exact fail_moves h rfl
  | some target =>
    rw [follow_some htarget] at ht ⊢
    rw [PlainTargets, targets_included htarget, List.forall_mem_cons] at ht
    obtain ⟨hplain, hinner⟩ := ht
    have hmoves := hv _ p (hpath.resolve hs hplain) h hinner
    rw [follow_some htarget, Path.resolve_below hs hd hpath hplain]
    refine ⟨?_, ?_, hmoves.processor, hmoves.placed⟩
    · simp only [hmoves.outcome, Outcome.movedInto_within]
    · have hinside : ∀ (enclosing path : Path) (q : Processor) (events : List Event),
          records (.enter text enclosing path q :: events ++ [.leave]) = records events := by
        intro enclosing path q events
        simp [records]
      simp only [hinside, hmoves.records]

theorem line_moves (hd : d.IsName) (hs : checks.settings.includeDirectory = none)
    (hv : VisitMoves d visit away) {p : Processor} (h : p.Placed) {path : Path}
    (hpath : path.IsPlain) (number : Nat) (text : String) (physical : Bool)
    (ht : PlainTargets (line checks visit path number text physical p).events) :
    Moves d (line checks visit path number text physical p)
      (line checks away (below d path) number text physical (p.relocate (under d))) := by
  have here := alone_moves d checks h path number text physical
  have hfollows : Follows checks (alone checks (below d path) number text physical
      (p.relocate (under d))) ↔ Follows checks (alone checks path number text physical p) := by
    rw [Follows, Follows, here.processor]
    rfl
  rw [line_eq] at ht ⊢
  rw [line_eq]
  by_cases hf : Follows checks (alone checks path number text physical p)
  · rw [if_pos hf] at ht ⊢
    rw [if_pos (hfollows.mpr hf)]
    refine andThen_moves here fun ⟨n, hn⟩ => ?_
    rw [andThen_count hn, plainTargets_append] at ht
    rw [here.processor]
    exact follow_moves hd hs hv here.placed hpath text ht.2
  · rw [if_neg hf, if_neg (mt hfollows.mp hf)]
    exact here

theorem lines_moves (hd : d.IsName) (hs : checks.settings.includeDirectory = none)
    (hv : VisitMoves d visit away) {p : Processor} (h : p.Placed) {path : Path}
    (hpath : path.IsPlain) (number : Nat) (texts : List String)
    (ht : PlainTargets (lines checks visit path number texts p).events) :
    Moves d (lines checks visit path number texts p)
      (lines checks away (below d path) number texts (p.relocate (under d))) := by
  induction texts generalizing number p with
  | nil =>
    have hempty : (p.relocate (under d)).lastLineEmpty = p.lastLineEmpty := rfl
    simp only [lines, hempty] at ht ⊢
    split
    · exact ⟨rfl, rfl, rfl, h⟩
    next hopen =>
      rw [if_neg hopen] at ht
      exact line_moves hd hs hv h hpath number "" false ht
  | cons text rest ih =>
    have hline := line_moves hd hs hv h hpath (number + 1) text true
    simp only [lines] at ht ⊢
    rcases andThen_cases (line checks visit path (number + 1) text true p)
      (lines checks visit path (number + 1) rest) with ⟨n, hn, he⟩ | ⟨hn, he⟩
    · rw [he, plainTargets_append] at ht
      have here := hline ht.1
      refine andThen_moves here fun _ => ?_
      rw [here.processor]
      exact ih here.placed (number + 1) ht.2
    · rw [he] at ht
      refine andThen_moves (hline ht) fun hcount => ?_
      obtain ⟨n, hc⟩ := hcount
      exact absurd hc (hn n)

/-- A file that is read to its end gives back the stanza that it interrupted, at its old or at
its new place. -/
theorem resume_moves {r s : Run} (h : Moves d r s) {p : Processor} (hp : p.Placed) :
    Moves d (r.resume p.suspend.1) (s.resume (p.relocate (under d)).suspend.1) := by
  refine ⟨?_, ?_, ?_, ?_⟩
  · rw [resume_outcome, resume_outcome, h.outcome]
  · rw [resume_events, resume_events, h.records]
  · by_cases hr : ∃ n, r.outcome = .count n
    · obtain ⟨n, hr⟩ := hr
      have hs : s.outcome = .count n := by rw [h.outcome, hr]; rfl
      rw [resume_count hr, resume_count hs, h.processor]
      rfl
    · have hs : ∀ n, s.outcome ≠ .count n := by
        intro n hs
        rw [h.outcome, Outcome.movedInto_eq_count] at hs
        exact hr ⟨n, hs⟩
      rw [resume_stop (not_exists.mp hr), resume_stop hs, h.processor]
  · by_cases hr : ∃ n, r.outcome = .count n
    · obtain ⟨n, hr⟩ := hr
      rw [resume_count hr]
      exact ⟨hp.stanza, h.placed.titles, h.placed.origins⟩
    · rw [resume_stop (not_exists.mp hr)]
      exact h.placed

/-- To read a file of the tree below `d` is to read it before the tree was moved. -/
theorem file_moves (hd : d.IsName) (hs : checks.settings.includeDirectory = none)
    {files moved : Files} (hm : files.Moved d moved) (levels depth : Nat) :
    VisitMoves d (file checks files levels depth) (file checks moved levels depth) := by
  induction levels generalizing depth with
  | zero => exact fun path p _ h _ => ⟨rfl, rfl, rfl, h⟩
  | succ levels ih =>
    intro path p hpath h ht
    have hfile := hm path hpath
    cases hguard : checks.settings.maxIncludeDepth.filter (· < depth) with
    | some limit =>
      simp only [file, hguard]
      exact fail_moves h rfl
    | none =>
      cases hc : files path with
      | missing =>
        simp only [file, hguard, hfile, hc]
        exact fail_moves h rfl
      | directory =>
        simp only [file, hguard, hfile, hc]
        exact fail_moves h rfl
      | locked text =>
        simp only [file, hguard, hfile, hc]
        exact fail_moves h rfl
      | file content =>
        simp only [file, hguard, hfile, hc] at ht ⊢
        rw [resume_events] at ht
        have hlines := lines_moves hd hs (ih (depth + 1)) h.suspend hpath 0 (fileLines content) ht
        rw [← Processor.relocate_suspend (Path.under_empty d)] at hlines
        exact resume_moves hlines h

/-- Where a tree sits does not matter. If the include lines that a run follows name plain paths,
as the linted path is, then the run below `d` has the same outcome, but for the paths that a
failure names, and says the same about the same lines, with `d` in front of every location, also
of those that its findings cite. It does so in any files that have below `d` what was there
before, as the tree has that was moved into `d`, unless its paths get too long there. -/
theorem moved_alike (checks : Checks) (hs : checks.settings.includeDirectory = none) (d path : Path)
    (hd : d.IsName) (hpath : path.IsPlain) :
    (∀ files moved : Files, files.Moved d moved →
      (∀ target ∈ targets (ofFile checks files path {}).events, target.IsPlain) →
      (ofFile checks moved (below d path) {}).outcome =
          (ofFile checks files path {}).outcome.movedInto d ∧
        records (ofFile checks moved (below d path) {}).events =
          (records (ofFile checks files path {}).events).map (Record.movedInto d)) ∧
    ∀ tree : FileTree, tree.HasRoom d → Files.Moved d tree.find (tree.movedInto d).find := by
  have hstart : Processor.Placed {} := by
    refine ⟨⟨fun hs => absurd rfl hs, ?_⟩, ?_, ?_⟩ <;>
    · intro key place hk
      cases hk
  refine ⟨fun files moved hm ht => ?_, fun tree hroom => tree.find_movedInto hd hroom⟩
  have hmoves := file_moves hd hs hm (levelsFor checks.settings) 0 path {} hpath hstart ht
  exact ⟨hmoves.outcome, hmoves.records⟩

/-- A title, a starting point and a host that the file had included before. -/
def nestedTree : FileTree where
  entries := [
    (["conf"], .directory),
    (["conf", "main.txt"], .file (encodeUtf8
      "IncludeFile sub/a.txt\n\nTitle A\nURL https://a.org\nHost b.org\n".toList)),
    (["conf", "sub"], .directory),
    (["conf", "sub", "a.txt"], .file (encodeUtf8
      "Title A\nURL https://a.org\nHost b.org\nHost b.org\n".toList))]

def nestedChecks : Checks := ⟨{ origins := true }, .pages fun _ => .ok none⟩

def nestedRun : Run := ofFile nestedChecks nestedTree.find "conf/main.txt" {}

def movedRun : Run :=
  ofFile nestedChecks (nestedTree.movedInto "site").find "site/conf/main.txt" {}

theorem moved_alike_nested :
    (Path.IsName "site" ∧ Path.IsPlain "conf/main.txt" ∧ nestedTree.HasRoom "site" ∧
      targets nestedRun.events = ["sub/a.txt"]) ∧
    movedRun.outcome = .count 4 ∧
    (records movedRun.events).flatMap (fun r => r.diagnostics.map (r.location, ·)) = [
      ("site/conf/sub/a.txt:4", .originRepeated "site/conf/sub/a.txt:3"),
      ("site/conf/main.txt:3", .titleSeen "site/conf/sub/a.txt:1"),
      ("site/conf/main.txt:4", .originSeen "site/conf/sub/a.txt:2"),
      ("site/conf/main.txt:5", .originSeen "site/conf/sub/a.txt:3")] := by
  have hname : Path.IsName "site" := by decide
  have hplain : Path.IsPlain "conf/main.txt" := by decide
  have hroom : nestedTree.HasRoom "site" := by decide +kernel
  have htargets : targets nestedRun.events = ["sub/a.txt"] := by decide +kernel
  obtain ⟨hruns, htree⟩ := moved_alike nestedChecks rfl "site" "conf/main.txt" hname hplain
  have htarget : ∀ target ∈ targets nestedRun.events, target.IsPlain := by
    rw [htargets]
    decide
  obtain ⟨houtcome, hrecords⟩ := hruns nestedTree.find _ (htree nestedTree hroom) htarget
  refine ⟨⟨hname, hplain, hroom, htargets⟩, ?_, ?_⟩
  · refine houtcome.trans ?_
    decide +kernel
  · refine (congrArg (List.flatMap _) hrecords).trans ?_
    decide +kernel

end Run

end StanzaLint
