import StanzaLint.Proofs.Continuation
import StanzaLint.Proofs.Deepening
import StanzaLint.Proofs.Endless
import StanzaLint.Proofs.InTurn
import StanzaLint.Proofs.Leftovers

/-!
# Lists of includes

A file that does nothing but include others stands for the list of these files on the
command line. Nothing is found on its own lines and its stanza stays as good as empty
(`step_includeLine`), so what it includes is read as if it stood alone, one level
deeper (`visit_below`). The list and the files in turn then go on together, file by
file (`lines_lists`).
-/

namespace StanzaLint

open Text

-- ---------------------------------------------------------------------------
-- Lines that include a file
-- ---------------------------------------------------------------------------

structure Path.IsWord (path : Path) : Prop where
  ne_nil : path.toList ≠ []
  unspaced : ∀ c ∈ path.toList, isBlank c = false
  finished : path.toList.getLast? ≠ some '\\'

instance (path : Path) : Decidable path.IsWord :=
  decidable_of_iff (path.toList ≠ [] ∧ path.toList.all (!isBlank ·) ∧
      path.toList.getLast? ≠ some '\\')
    ⟨fun h => ⟨h.1, by simpa using h.2.1, h.2.2⟩,
      fun h => ⟨h.ne_nil, by simpa using h.unspaced, h.finished⟩⟩

def includeLine (path : Path) : String := "IncludeFile " ++ path

section
variable {path : Path} (h : path.IsWord)

theorem toList_includeLine (path : Path) :
    (includeLine path).toList = "IncludeFile".toList ++ ' ' :: path.toList := by
  rw [includeLine, String.toList_append]
  rfl

include h

theorem getLast?_includeLine : (includeLine path).toList.getLast? = path.toList.getLast? := by
  obtain ⟨c, rest, hc⟩ := List.exists_cons_of_ne_nil h.ne_nil
  rw [toList_includeLine, hc, List.getLast?_append_cons, List.getLast?_cons_cons]

theorem trim_includeLine : trim (includeLine path).toList = (includeLine path).toList := by
  refine trim_eq_self ⟨fun c hc => ?_, fun c hc => ?_⟩
  · rw [toList_includeLine] at hc
    cases hc
    rfl
  · rw [getLast?_includeLine h] at hc
    exact h.unspaced c (List.mem_of_getLast? hc)

theorem split_includeLine :
    split ' ' (includeLine path).toList = ["IncludeFile".toList, path.toList] := by
  have hpath : ∀ c ∈ path.toList, (c == ' ') = false := by
    intro c hc
    have hblank := h.unspaced c hc
    rw [beq_eq_false_iff_ne]
    rintro rfl
    cases hblank
  have hname : ∀ c ∈ "IncludeFile".toList, (c == ' ') = false := by simp
  rw [toList_includeLine, split, splitBy_append_cons (by decide), splitBy_of_none hname,
    splitBy_of_none hpath]
  rfl

theorem target?_includeLine : Run.target? (includeLine path) = some path := by
  rw [Run.target?, trim_includeLine h, split_includeLine h]
  simp [h.ne_nil]

theorem completing_includeLine : Line.Completing (includeLine path) := by
  unfold Line.Completing
  rw [trim_includeLine h, getLast?_includeLine h, toList_includeLine]
  exact ⟨by simp, by simp, h.finished⟩

theorem endsInBlank_includeLine : Line.endsInBlank (includeLine path) = false := by
  rw [Line.endsInBlank, getLast?_includeLine h]
  cases hl : path.toList.getLast? with
  | none => rfl
  | some c =>
    have hblank := h.unspaced c (List.mem_of_getLast? hl)
    simp only [Option.any_some, Bool.or_eq_false_iff, beq_eq_false_iff_ne]
    constructor
    · rintro rfl
      cases hblank
    · rintro rfl
      cases hblank

theorem entry_includeLine (place : String) :
    Entry.of? (includeLine path).toList place =
      some ⟨.includeFile, "IncludeFile", (includeLine path).toList, place⟩ := by
  have hlabel : labelOf? (includeLine path).toList = some "IncludeFile" := by
    rw [labelOf?, split_includeLine h]
    rfl
  rw [Entry.of?, hlabel]
  rfl

end

/-- The stanza of a file that has done nothing but include others. -/
def Stanza.listing : Stanza := { previous := some .includeFile, label := "IncludeFile" }

namespace Processor

/-- At most files were included since the stanza began. -/
structure Listing (p : Processor) : Prop where
  stanza : p.stanza = {} ∨ p.stanza = .listing
  lastLineEmpty : p.lastLineEmpty = false

def listed (p : Processor) : Processor :=
  { p with stanza := .listing, lastLineEmpty := false, current := some .includeFile }

theorem step_includeLine {p : Processor} (hp : p.Listing) {path : Path} (h : path.IsWord)
    (checks : Checks) (place : String) :
    p.step checks (includeLine path) place = (p.listed, []) := by
  have hread : Line.read (includeLine path) = .complete (includeLine path).toList := by
    rw [Line.read_completing (completing_includeLine h), trim_includeLine h]
  have hblank : blankFindings checks.settings (includeLine path) = [] := by
    simp [blankFindings, endsInBlank_includeLine h]
  have hlabel : labelFindings checks.settings (includeLine path).toList = [] := by
    rw [labelFindings, labelOf?, split_includeLine h]
    rfl
  obtain ⟨stanza, last, current, titles, origins, lookup⟩ := p
  rw [step_eq, hread, hblank]
  rcases hp.stanza with hs | hs <;>
  · cases hs
    simp only [read, complete, logicalLine_eq, entry_includeLine h, hlabel]
    rfl

/-- The end of a list of includes says nothing and leaves the memory of the run alone. -/
theorem step_end {p : Processor} (hp : p.Listing) (checks : Checks) (place : String) :
    p.step checks "" place =
      ({ p with stanza := {}, lastLineEmpty := true, current := none }, []) := by
  have hread : Line.read "" = .closing := by decide
  have hblank : blankFindings checks.settings "" = [] := by simp [blankFindings, Line.endsInBlank]
  have hclosing : p.stanza.closingFindings = [] := by
    rcases hp.stanza with hs | hs <;> rw [hs] <;> decide
  have hcontribution : p.stanza.contribution = [] := by
    rcases hp.stanza with hs | hs <;> rw [hs] <;> decide
  rw [step_eq, hread, hblank]
  simp only [read, close, hclosing, hcontribution]
  rfl

end Processor

-- ---------------------------------------------------------------------------
-- Whole lists
-- ---------------------------------------------------------------------------

def Style.Quiet (style : Style) : Prop := style.annotate = false ∧ style.verbose = false

theorem Style.Quiet.isChatty {style : Style} (h : style.Quiet) : style.isChatty = false := by
  rw [Style.isChatty, h.2]
  rfl

theorem Record.chunks_quiet {style : Style} (h : style.Quiet) {record : Record}
    (hr : record.diagnostics = []) : record.chunks style = [] := by
  unfold chunks
  split
  · simp [textChunks, hr, h.1]
  · simp [jsonChunks, hr]

theorem shownBytes_sameWork {events others : List Event}
    (h : List.Forall₂ Run.sameWork.event events others) (style : Style) :
    shownBytes style events = shownBytes style others := by
  induction h with
  | nil => rfl
  | cons he _ ih => rw [shownBytes_cons, shownBytes_cons, Event.chunks_sameWork he, ih]

namespace Run

variable {checks : Checks} {visit : Path → Processor → Run} {style : Style}

theorem line_includeLine (visit : Path → Processor → Run) (hstyle : style.Quiet)
    (hfollow : checks.settings.followIncludes = true)
    (hdirectory : checks.settings.includeDirectory = none) {list : Path} (hlist : list.parent = "")
    {path : Path} (hpath : path.IsWord) {q : Processor} (hq : q.Listing) (number : Nat) :
    let r := line checks visit list number (includeLine path) true q
    let inner := visit path q.listed
    r.outcome = inner.outcome.within (includeLine path) path ∧ r.processor = inner.processor ∧
      shownBytes style r.events = shownBytes style inner.events := by
  intro r inner
  have hresolve : resolve checks.settings list path = path := by
    rw [resolve, hdirectory, Option.getD_none, hlist]
    split
    · rfl
    · simp [Path.join]
  have hr : r = ⟨
      [.before q, .line ⟨location list number, includeLine path, false, [], true⟩ q.listed] ++
      (.enter (includeLine path) list path q.listed :: inner.events ++ [.leave]),
      (inner.outcome.within (includeLine path) path).add 0, inner.processor⟩ := by
    have halone : alone checks list number (includeLine path) true q =
        ⟨[.before q, .line ⟨location list number, includeLine path, false, [], true⟩ q.listed],
          .count 0, q.listed⟩ := by
      rw [alone, Processor.step_includeLine hq hpath]
      rfl
    have hfollows : Follows checks (alone checks list number (includeLine path) true q) := by
      rw [halone]
      exact ⟨hfollow, rfl⟩
    rw [show r = _ from line_eq .., if_pos hfollows, halone, andThen_count rfl,
      follow_some (target?_includeLine hpath), hresolve]
  refine ⟨?_, ?_, ?_⟩
  · rw [hr, Outcome.add_zero]
  · rw [hr]
  · have hrecord :
        Record.chunks style ⟨location list number, includeLine path, false, [], true⟩ = [] :=
      Record.chunks_quiet hstyle rfl
    rw [hr]
    simp [shownBytes, Event.chunks, hstyle.isChatty, hrecord]

/-- The first run is the second one, inside of an include: one level deeper, and with another
stanza to come back to. -/
structure Below (r s : Run) : Prop where
  outcome : r.outcome = s.outcome.deepen
  events : s.outcome ≠ .endless → List.Forall₂ sameWork.event r.events s.events
  memory : s.outcome ≠ .endless → r.processor.SameMemory s.processor

/-- The run of a list shows and counts what the files in turn show and count. It fails with the
first file that fails, on the line that includes it. -/
structure Lists (style : Style) (inTurn : List Path → Run) (paths : List Path) (r : Run) :
    Prop where
  endless : r.outcome = .endless ↔ (inTurn paths).outcome = .endless
  output : (inTurn paths).outcome ≠ .endless →
    shownBytes style r.events = shownBytes style (inTurn paths).events
  count : r.outcome = .count n ↔ (inTurn paths).outcome = .count n
  failure : (inTurn paths).outcome = .failure cause → ∃ before path after n,
    paths = before ++ path :: after ∧ (inTurn before).outcome = .count n ∧
      r.outcome = .failure (.included (includeLine path) path cause.deepen)

theorem Lists.exitStatus {turn : List Path → Run} {paths : List Path} {r : Run}
    (h : Lists style turn paths r) (hends : (turn paths).outcome ≠ .endless)
    (output other : List UInt8) :
    Finished.exitStatus ⟨output, r.outcome⟩ =
      Finished.exitStatus ⟨other, (turn paths).outcome⟩ := by
  cases ho : (turn paths).outcome with
  | count n =>
    rw [h.count.mpr ho]
    rfl
  | failure cause =>
    obtain ⟨before, path, after, n, -, -, hfailure⟩ := h.failure ho
    rw [hfailure]
    exact congrArg some cause.exitStatus_deepen
  | endless => exact absurd ho hends

section
variable {others : Checks} {files : Files}

theorem lists_nil (hstyle : style.Quiet) (list : Path) (number : Nat) {q : Processor}
    (hq : q.Listing) (p : Processor) :
    Lists style (inTurn others files · p) [] (lines checks visit list number [] q) := by
  have hstep := Processor.step_end hq checks (location list number)
  have hr : lines checks visit list number [] q = alone checks list number "" false q := by
    have hfollows : ¬Follows checks (alone checks list number "" false q) := by
      rintro ⟨-, hcurrent⟩
      rw [alone_processor, hstep] at hcurrent
      cases hcurrent
    rw [lines, hq.lastLineEmpty, if_neg Bool.false_ne_true, line_eq, if_neg hfollows]
  have houtcome : (lines checks visit list number [] q).outcome = .count 0 := by
    rw [hr, alone, hstep]
    rfl
  have hevents : shownBytes style (lines checks visit list number [] q).events = [] := by
    have hrecord : Record.chunks style ⟨location list number, "", true, [], false⟩ = [] :=
      Record.chunks_quiet hstyle rfl
    rw [hr, alone, hstep]
    simp [shownBytes, Event.chunks, hstyle.isChatty, hrecord]
  refine ⟨?_, fun _ => hevents, ?_, Outcome.noConfusion⟩
  · rw [houtcome]
    constructor <;> exact Outcome.noConfusion
  · intro n
    rw [houtcome]
    rfl

/-- A list goes on with the files behind one that was read to its end. -/
theorem lists_cons {path : Path} {rest : List Path} {p : Processor} {first later : Run}
    (hd : (ofFile others files path p).outcome = .count n)
    (hfirst : shownBytes style first.events = shownBytes style (ofFile others files path p).events)
    (hlater : Lists style (inTurn others files · (ofFile others files path p).processor) rest
      later) :
    Lists style (inTurn others files · p) (path :: rest)
      ⟨first.events ++ later.events, later.outcome.add n, later.processor⟩ := by
  have hturn : ∀ more, inTurn others files (path :: more) p =
      ⟨(ofFile others files path p).events ++
          (inTurn others files more (ofFile others files path p).processor).events,
        (inTurn others files more (ofFile others files path p).processor).outcome.add n,
        (inTurn others files more (ofFile others files path p).processor).processor⟩ :=
    fun more => andThen_count hd _
  refine ⟨?_, fun h => ?_, ?_, fun {cause} h => ?_⟩
  · simp only [hturn, Outcome.add_eq_endless]
    exact hlater.endless
  · simp only [hturn, ne_eq, Outcome.add_eq_endless] at h ⊢
    rw [shownBytes_append, shownBytes_append, hfirst, hlater.output h]
  · simp only [hturn, Outcome.add_eq_count_iff, hlater.count, implies_true]
  · simp only [hturn, Outcome.add_eq_failure] at h
    obtain ⟨before, failed, after, m, rfl, hbefore, hfailure⟩ := hlater.failure h
    refine ⟨path :: before, failed, after, n + m, rfl, ?_, ?_⟩
    · simp only [hturn, hbefore, Outcome.add]
    · simp only [hfailure, Outcome.add]

theorem lists_stop {path : Path} {p : Processor} {first : Run}
    (hd : ∀ n, (ofFile others files path p).outcome ≠ .count n)
    (houtcome : first.outcome =
      (ofFile others files path p).outcome.deepen.within (includeLine path) path)
    (hfirst : (ofFile others files path p).outcome ≠ .endless →
      shownBytes style first.events = shownBytes style (ofFile others files path p).events)
    (rest : List Path) : Lists style (inTurn others files · p) (path :: rest) first := by
  have hturn : inTurn others files (path :: rest) p = ofFile others files path p :=
    andThen_stop hd _
  refine ⟨?_, ?_, ?_, fun {cause} h => ⟨[], path, rest, 0, rfl, rfl, ?_⟩⟩
  · simp only [hturn, houtcome]
    cases (ofFile others files path p).outcome <;> simp [Outcome.deepen, Outcome.within]
  · simp only [hturn]
    exact hfirst
  · intro n
    simp only [hturn, houtcome]
    rw [Outcome.within_eq_count, Outcome.deepen_eq_count]
  · simp only [hturn] at h
    rw [houtcome, h]
    rfl

theorem lines_lists (checks : Checks) (hstyle : style.Quiet)
    (hfollow : checks.settings.followIncludes = true)
    (hdirectory : checks.settings.includeDirectory = none) {list : Path} (hlist : list.parent = "")
    (hbelow : ∀ path p q, q.SameMemory p → Below (visit path q) (ofFile others files path p))
    (hrestores : VisitRestores visit) {paths : List Path} (hpaths : ∀ path ∈ paths, path.IsWord)
    (number : Nat) {p q : Processor} (hq : q.Listing) (hmemory : q.SameMemory p) :
    Lists style (inTurn others files · p) paths
      (lines checks visit list number (paths.map includeLine) q) := by
  induction paths generalizing number p q with
  | nil => exact lists_nil hstyle list number hq p
  | cons path rest ih =>
    rw [List.forall_mem_cons] at hpaths
    obtain ⟨hpath, hrest⟩ := hpaths
    obtain ⟨houtcome, hprocessor, houtput⟩ := line_includeLine visit hstyle hfollow
      hdirectory hlist hpath hq (number + 1)
    have hinner := hbelow path p q.listed ⟨hmemory.titles, hmemory.origins⟩
    have hshown : (ofFile others files path p).outcome ≠ .endless →
        shownBytes style (line checks visit list (number + 1) (includeLine path) true q).events =
          shownBytes style (ofFile others files path p).events :=
      fun hends => houtput.trans (shownBytes_sameWork (hinner.events hends) style)
    rw [List.map_cons, lines]
    by_cases hcount : ∃ n, (ofFile others files path p).outcome = .count n
    · obtain ⟨n, hn⟩ := hcount
      have hends : (ofFile others files path p).outcome ≠ .endless := by simp [hn]
      have hvisit : (visit path q.listed).outcome = .count n := by
        rw [hinner.outcome, hn]
        rfl
      -- the included file gives the stanza of the list back
      have hplace := hrestores path q.listed n hvisit
      have hlater := ih hrest (number + 1) (p := (ofFile others files path p).processor)
        (q := (visit path q.listed).processor)
        ⟨.inr hplace.stanza, hplace.lastLineEmpty⟩ (hinner.memory hends)
      rw [andThen_count (n := n) (by rw [houtcome, hvisit]; rfl), hprocessor]
      exact lists_cons hn (hshown hends) hlater
    · have hstop := not_exists.mp hcount
      rw [hinner.outcome] at houtcome
      rw [andThen_stop]
      · exact lists_stop hstop houtcome hshown rest
      · intro n hn
        rw [houtcome, Outcome.within_eq_count, Outcome.deepen_eq_count] at hn
        exact hstop n hn

end

section
variable (settings : Settings) (titles : TitleLookup) (tree : FileTree)

/-- Inside of an include there is one level less, which no run that ends misses. -/
theorem file_level_less (limit : Option Nat) (path : Path) (p : Processor) :
    let levels := levelsFor (settings.limited (limit.map (· + 1))) - 1
    let r := file ⟨settings.limited limit, titles⟩ tree.find levels 0 path p
    let s := ofFile ⟨settings.limited limit, titles⟩ tree.find path p
    r = s ∨ r.outcome = .endless ∧ s.outcome = .endless := by
  intro levels r s
  cases limit with
  | some m => exact .inl rfl
  | none =>
    have hbound := FileTree.pathCount_lt
    by_cases hendless : Endless settings titles tree.find levels path
    · have hpaths : FileTree.pathCount < FileTree.pathBound - 1 := by omega
      have hmany := endless_of_paths hendless hpaths FileTree.pathBound
      exact .inr ⟨(endless_iff ..).mpr hendless, (endless_iff ..).mpr hmany⟩
    · exact .inl (file_enough hendless (Nat.lt_of_succ_lt hbound) 0 p)

theorem visit_below (limit : Option Nat) (path : Path) {p q : Processor} (h : q.SameMemory p) :
    Below
      (file ⟨settings.limited (limit.map (· + 1)), titles⟩ tree.find
        (levelsFor (settings.limited (limit.map (· + 1))) - 1) 1 path q)
      (ofFile ⟨settings.limited limit, titles⟩ tree.find path p) := by
  obtain ⟨hevents, houtcome, hmemory⟩ := file_leftovers h ⟨settings.limited limit, titles⟩ tree.find
    (levelsFor (settings.limited limit)) 0 path
  rw [file_deepen settings titles tree.find limit _ 0]
  rcases file_level_less settings titles tree limit path q with heq | ⟨hless, hmore⟩
  · simp only [heq]
    exact ⟨congrArg Outcome.deepen houtcome, fun _ => hevents, fun _ => hmemory⟩
  · have hends : (ofFile ⟨settings.limited limit, titles⟩ tree.find path p).outcome = .endless :=
      houtcome.symm.trans hmore
    refine ⟨?_, fun h => absurd hends h, fun h => absurd hends h⟩
    simp only [deepen, hless, hends]

end

theorem inTurn_single (checks : Checks) (files : Files) (path : Path) (p : Processor) :
    inTurn checks files [path] p = ofFile checks files path p := by
  rw [inTurn]
  rcases andThen_cases (ofFile checks files path p) (inTurn checks files []) with
    ⟨n, hn, he⟩ | ⟨-, he⟩
  · rw [he]
    simp only [inTurn, List.append_nil, Outcome.add, Nat.add_zero, ← hn]
  · exact he

theorem inTurn_ends (settings : Settings) (titles : TitleLookup) (files : Files) (limit : Nat)
    (paths : List Path) (p : Processor) :
    (inTurn ⟨settings.limited (some limit), titles⟩ files paths p).outcome ≠ .endless := by
  induction paths generalizing p with
  | nil => exact Outcome.noConfusion
  | cons path rest ih =>
    exact andThen_outcome (P := (· ≠ .endless)) (fun n => Outcome.noConfusion)
      (ofFile_guarded settings titles files path limit p).ends ih

end Run

theorem Path.parent_eq_nil {path : Path} (h : '/' ∉ path.toList) : path.parent = "" := by
  have hlead : '/' ∉ (lead path.toList).2 ∧
      ((lead path.toList).1 = [] ∨ (lead path.toList).2 = []) := by
    unfold lead
    split
    next hp => simp [hp] at h
    next => exact ⟨by simp, .inr rfl⟩
    next hp => simp [hp] at h
    next => exact ⟨h, .inl rfl⟩
  unfold parent
  generalize lead path.toList = parts at hlead
  obtain ⟨start, rest⟩ := parts
  obtain ⟨hrest, hstart⟩ := hlead
  simp only at hrest hstart ⊢
  rw [split_of_not_mem hrest]
  by_cases hidle : rest = [] ∨ rest = ['.']
  · rcases hidle with rfl | rfl <;> rfl
  · have hkept : dropIdle [rest] = [rest] := by
      simp only [not_or] at hidle
      simp [dropIdle, hidle.1, hidle.2]
    rw [hkept]
    rcases hstart with rfl | rfl
    · rfl
    · exact absurd (.inl rfl) hidle

namespace Program

/-- A file of include lines is read as the files that it names: the program prints the same and
ends with the same status and count. If it fails, then on the line of the first file with which
the program fails, and because of the same failure. The list needs one more level, and a run that
does not end does so both ways. -/
theorem include_list_in_turn (tree : FileTree) (titles : TitleLookup) (env : Environment)
    {list named : CommandLine} {settings : Settings} {limit : Option Nat} {master : Path}
    {content : List UInt8}
    (hlist : Program.settings tree.find list = .ok (settings.limited (limit.map (· + 1))))
    (hnamed : Program.settings tree.find named = .ok (settings.limited limit))
    (hformat : list.outputFormat = named.outputFormat) (hcolor : list.noColor = named.noColor)
    (hfollow : settings.followIncludes = true) (hdirectory : settings.includeDirectory = none)
    (hannotate : settings.annotate = false) (hverbose : settings.verbose = false)
    (hfiles : list.files = [master]) (hmaster : '/' ∉ master.toList)
    (hcontent : tree.find master = .file content)
    (hlines : fileLines content = named.files.map ("IncludeFile " ++ ·))
    (hwords : ∀ path ∈ named.files, path.IsWord) :
    let whole := Program.run tree.find titles env list
    let direct := Program.run tree.find titles env named
    (whole.outcome = .endless ↔ direct.outcome = .endless) ∧
    (limit ≠ none → direct.outcome ≠ .endless) ∧
    (direct.outcome ≠ .endless →
      whole.output = direct.output ∧ whole.exitStatus = direct.exitStatus ∧
      (∀ n, whole.outcome = .count n ↔ direct.outcome = .count n) ∧
      ∀ cause, direct.outcome = .failure cause → ∃ before path after n,
        named.files = before ++ path :: after ∧
        (Program.run tree.find titles env { named with files := before }).outcome = .count n ∧
        whole.outcome = .failure (.included ("IncludeFile " ++ path) path cause.deepen) ∧
        (¬cause.TooDeep → cause.deepen = cause)) := by
  have hstyle : styleOf env list (settings.limited (limit.map (· + 1))) =
      styleOf env named (settings.limited limit) := by
    simp only [styleOf, hformat, hcolor, Settings.limited]
  have hquiet : (styleOf env named (settings.limited limit)).Quiet := ⟨hannotate, hverbose⟩
  have hlists := Run.lines_lists ⟨settings.limited (limit.map (· + 1)), titles⟩
    hquiet hfollow hdirectory (Path.parent_eq_nil hmaster)
    (fun path p q h => Run.visit_below settings titles tree limit path h)
    (Run.file_restores _ tree.find _ 1) hwords 0 (p := {}) (q := (Processor.suspend {}).2)
    ⟨.inl rfl, rfl⟩ ⟨fun _ => rfl, fun _ => rfl⟩
  -- the list is one file, and only its lines matter
  rw [run_eq hlist, run_eq hnamed, hstyle, hfiles, Run.inTurn_single, Run.ofFile_eq _ hcontent,
    hlines, Run.resume_events, Run.resume_outcome]
  refine ⟨hlists.endless, fun hlimit => ?_, fun hends => ⟨hlists.output hends, ?_,
    fun n => hlists.count, fun cause hcause => ?_⟩⟩
  · obtain ⟨m, rfl⟩ := Option.ne_none_iff_exists'.mp hlimit
    exact Run.inTurn_ends settings titles tree.find m named.files {}
  · exact hlists.exitStatus hends _ _
  · obtain ⟨before, path, after, n, hsplit, hbefore, hfailure⟩ := hlists.failure hcause
    refine ⟨before, path, after, n, hsplit, ?_, hfailure, Failure.deepen_of_not_tooDeep⟩
    have hprefix : Program.settings tree.find { named with files := before } =
        .ok (settings.limited limit) := hnamed
    rw [run_eq hprefix]
    exact hbefore

/-- A list of two files. The second one repeats a title of the first, and then includes one file
too many. -/
def listed : FileTree where
  entries := [
    (["all.txt"], .file (encodeUtf8 "IncludeFile a.txt\nIncludeFile sub/b.txt\n".toList)),
    (["a.txt"], .file (encodeUtf8 "Title A\n".toList)),
    (["sub"], .directory),
    (["sub", "b.txt"], .file (encodeUtf8 "Title A\nIncludeFile c.txt\n".toList))]

def runListed (depth : Nat) (paths : List Path) : Finished :=
  Program.run listed.find (.pages fun _ => .ok none) {} { files := paths, maxDepth := some depth }

theorem include_list_in_turn_too_deep :
    (runListed 0 ["a.txt", "sub/b.txt"]).outcome =
        .failure (.included "IncludeFile c.txt" "sub/c.txt" (.tooDeep "sub/c.txt" 0)) ∧
      (runListed 1 ["all.txt"]).output = (runListed 0 ["a.txt", "sub/b.txt"]).output ∧
      (runListed 1 ["all.txt"]).exitStatus = (runListed 0 ["a.txt", "sub/b.txt"]).exitStatus ∧
      ∃ before path after, ["a.txt", "sub/b.txt"] = before ++ path :: after ∧
        (runListed 1 ["all.txt"]).outcome = .failure (.included ("IncludeFile " ++ path) path
          (.included "IncludeFile c.txt" "sub/c.txt" (.tooDeep "sub/c.txt" 1))) := by
  have hfailure : (runListed 0 ["a.txt", "sub/b.txt"]).outcome =
      .failure (.included "IncludeFile c.txt" "sub/c.txt" (.tooDeep "sub/c.txt" 0)) := by
    decide +kernel
  have hlines : fileLines (encodeUtf8 "IncludeFile a.txt\nIncludeFile sub/b.txt\n".toList) =
      ["a.txt", "sub/b.txt"].map ("IncludeFile " ++ ·) := by decide +kernel
  have hlist : Program.settings listed.find { files := ["all.txt"], maxDepth := some 1 } =
      .ok (Settings.limited {} ((some 0).map (· + 1))) := rfl
  have hnamed : Program.settings listed.find
      { files := ["a.txt", "sub/b.txt"], maxDepth := some 0 } =
      .ok (Settings.limited {} (some 0)) := rfl
  have hall := include_list_in_turn listed (.pages fun _ => .ok none) {} hlist hnamed rfl rfl rfl
    rfl rfl rfl rfl (by decide) rfl hlines (by decide)
  have hends : (runListed 0 ["a.txt", "sub/b.txt"]).outcome ≠ .endless := hall.2.1 (by decide)
  obtain ⟨houtput, hstatus, -, hcause⟩ := hall.2.2 hends
  obtain ⟨before, path, after, -, hsplit, -, hwhole, -⟩ := hcause _ hfailure
  exact ⟨hfailure, houtput, hstatus, before, path, after, hsplit, hwhole⟩

end Program

end StanzaLint
