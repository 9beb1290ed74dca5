import StanzaLint.Proofs.Agreement
import StanzaLint.Proofs.Continuation

/-!
# Includes over several physical lines

The processor reads an include that is laid out over several lines as the joined
text, but the file to visit is looked up on the last of these lines. So the layout
of an include does not matter if and only if the last line leads to the same file
as the joined text (`include_layout`). A line that is split inside or before the
path usually does not: its last line has no second word, and the run fails.
-/

namespace StanzaLint

namespace Layout

/-- The last line leads where the joined text leads, for a file at `path`. -/
def SameTarget (settings : Settings) (path : Path) (l : Layout) : Prop :=
  (Run.target? l.last).map (Run.resolve settings path) =
    (Run.target? l.text).map (Run.resolve settings path)

instance (settings : Settings) (path : Path) (l : Layout) :
    Decidable (l.SameTarget settings path) := inferInstanceAs (Decidable (_ = _))

def blanks (settings : Settings) (l : Layout) : Nat :=
  (l.lines.flatMap (Processor.blankFindings settings)).length

theorem blanks_eq (settings : Settings) (l : Layout) :
    l.blanks settings = (l.inner.flatMap (Processor.blankFindings settings)).length +
      (Processor.blankFindings settings l.last).length := by
  simp [blanks, lines]

end Layout

namespace Run

variable {checks : Checks} {visit away : Path → Processor → Run}

structure Stays (r : Run) (n : Nat) (p : Processor) : Prop where
  entered : entered r.events = []
  outcome : r.outcome = .count n
  processor : r.processor = p

theorem Stays.andThen {r : Run} {next : Processor → Run} (hr : Stays r n p)
    (hn : Stays (next p) m q) : Stays (r.andThen next) (n + m) q := by
  rw [andThen_count hr.outcome, hr.processor]
  refine ⟨?_, ?_, hn.processor⟩
  · rw [entered_append, hr.entered, hn.entered]
    rfl
  · rw [hn.outcome]
    rfl

theorem alone_stays (checks : Checks) (path : Path) (number : Nat) (text : String)
    (physical : Bool) (p : Processor) :
    Stays (alone checks path number text physical p)
      (p.step checks text (location path number)).2.length
      (p.step checks text (location path number)).1 := ⟨rfl, rfl, rfl⟩

theorem line_stays {text : String} {p q : Processor}
    (hs : p.step checks text (location path number) = (q, found)) (hc : q.current = none)
    (visit : Path → Processor → Run) (physical : Bool) :
    Stays (line checks visit path number text physical p) found.length q := by
  have ha := alone_stays checks path number text physical p
  rw [hs] at ha
  have hn : ¬Follows checks (alone checks path number text physical p) := by
    rintro ⟨-, hf⟩
    rw [ha.processor, hc] at hf
    cases hf
  rw [line_eq, if_neg hn]
  exact ha

theorem block_holding (checks : Checks) (visit : Path → Processor → Run) (path : Path)
    (number : Nat) (p : Processor) (text : List Char) (texts : List String)
    (h : ∀ line ∈ texts, Line.Continued line ∨ Line.Remark line) :
    Stays (block checks visit path number texts (p.holding text))
      (texts.flatMap (Processor.blankFindings checks.settings)).length
      (p.holding (text ++ texts.flatMap Line.addition)) := by
  induction texts generalizing number text with
  | nil =>
    simp only [List.flatMap_nil, List.append_nil]
    exact ⟨rfl, rfl, rfl⟩
  | cons line rest ih =>
    have hs := p.step_holding checks text (h line (by simp)) (location path (number + 1))
    have hr := ih (number + 1) (text ++ Line.addition line) fun k hk => h k (List.mem_cons_of_mem _ hk)
    have hb := (line_stays hs rfl visit true).andThen hr
    rw [List.append_assoc] at hb
    rw [List.flatMap_cons, List.flatMap_cons, List.length_append]
    exact hb

theorem block_inner (checks : Checks) (visit : Path → Processor → Run) (path : Path)
    (number : Nat) (l : Layout) (p : Processor) :
    Stays (block checks visit path number l.inner p)
      (l.inner.flatMap (Processor.blankFindings checks.settings)).length
      (p.holding (p.stanza.pending.toList ++ l.inner.flatMap Line.addition)) := by
  have hs := p.step_continued checks l.first_continued (location path (number + 1))
  have hr := block_holding checks visit path (number + 1) p
    (p.stanza.pending.toList ++ Line.addition l.first) l.rest l.rest_inner
  have hb := (line_stays hs rfl visit true).andThen hr
  rw [List.append_assoc] at hb
  rw [Layout.inner, List.flatMap_cons, List.flatMap_cons, List.length_append]
  exact hb

-- ---------------------------------------------------------------------------
-- The directive itself
-- ---------------------------------------------------------------------------

theorem alone_agree {p q : Processor} (h : p.Twin q) {mark : String → Bool}
    (hm : mark (location path number) = true) (checks : Checks)
    (visit : Path → Processor → Run) (other : Nat) (l : Layout) :
    Agree mark (l.blanks checks.settings) (alone checks path number l.text true p)
      ((block checks visit path other l.inner q).andThen
        (alone checks path (other + l.inner.length + 1) l.last true)) := by
  obtain ⟨ht, hlen⟩ := h.step checks l.text (location path number)
    (location path (other + l.inner.length + 1))
  have hs := (block_inner checks visit path other l q).andThen (alone_stays checks path
    (other + l.inner.length + 1) l.last true _)
  simp only [Processor.step_last h.settled_right] at hs
  refine ⟨hs.entered, ?_, ?_⟩
  · rw [hs.outcome, alone_reads, if_pos ⟨rfl, hm⟩, l.blanks_eq]
    simp only [alone, Outcome.add, List.length_append, hlen, Nat.mul_one, Nat.add_assoc]
  · rw [hs.processor, alone_processor]
    exact ht

theorem andThen_line {r : Run} (h : r.outcome = .count n) (checks : Checks)
    (visit : Path → Processor → Run) (path : Path) (number : Nat) (text : String)
    (physical : Bool) :
    let here := r.andThen (alone checks path number text physical)
    r.andThen (line checks visit path number text physical) =
      if Follows checks here then here.andThen (follow checks.settings visit path text)
      else here := by
  intro here
  have hp : here.processor = (alone checks path number text physical r.processor).processor := by
    rw [show here = _ from andThen_count h _]
  have hc : Follows checks here ↔
      Follows checks (alone checks path number text physical r.processor) := by
    rw [Follows, Follows, hp]
  have ha := andThen_assoc r (alone checks path number text physical)
    (follow checks.settings visit path text)
  by_cases hf : Follows checks here
  · rw [if_pos hf, ha, andThen_count h, andThen_count h, line_eq, if_pos (hc.mp hf)]
  · rw [if_neg hf, andThen_count h, show here = _ from andThen_count h _, line_eq,
      if_neg fun hg => hf (hc.mpr hg)]

theorem follow_apart {settings : Settings} {enclosing : Path} {text other : String}
    (h : (target? other).map (resolve settings enclosing) ≠
      (target? text).map (resolve settings enclosing)) (visit away : Path → Processor → Run)
    (p q : Processor) :
    Apart (trail (follow settings visit enclosing text p))
      (trail (follow settings away enclosing other q)) :=
  ⟨[], _, _, h.symm, trail_follow settings visit enclosing text p,
    trail_follow settings away enclosing other q⟩

/-- The directive on one line and over several: a line at a marked place, which is bad if the two
do not lead to the same file. -/
theorem directive_beside {l : Layout} {mark : String → Bool} {bad : String → Prop}
    (hf : checks.settings.followIncludes = true)
    (hv : VisitBeside mark (l.blanks checks.settings) bad visit away)
    (hm : mark (location path number) = true)
    (hb : bad (location path number) ↔ ¬l.SameTarget checks.settings path)
    {p q : Processor} (h : p.Twin q) (other : Nat) :
    Beside mark (l.blanks checks.settings) bad (line checks visit path number l.text true p)
      ((block checks away path other l.inner q).andThen
        (line checks away path (other + l.inner.length + 1) l.last true)) := by
  have ha := alone_agree h hm checks away other l
  have hi : IncludesAt bad (alone checks path number l.text true p).events ↔
      ¬l.SameTarget checks.settings path ∧ Follows checks (alone checks path number l.text true p) := by
    rw [alone_includesAt, hb, Follows]
    simp only [true_and, hf]
  rw [line_eq, andThen_line (block_inner checks away path other l q).outcome]
  -- both runs see the same directive, so both follow it or neither does
  by_cases hd : Follows checks (alone checks path number l.text true p)
  · rw [if_pos hd, if_pos ⟨hf, ha.processor.current.symm.trans hd.2⟩]
    by_cases hsafe : l.SameTarget checks.settings path
    · exact andThen_beside (.inl ⟨ha, fun hs => (hi.mp hs).1 hsafe⟩) fun a b hab =>
        follow_beside hv hab hsafe
    · right
      have hr : (alone checks path number l.text true p).outcome = .count _ := rfl
      refine ⟨?_, ?_⟩
      · rw [trail_andThen hr, trail_andThen (ha.count hr), ha.trail hr]
        exact (follow_apart hsafe visit away _ _).append_left _
      · rw [andThen_count hr]
        exact includesAt_append.mpr (.inl (hi.mpr ⟨hsafe, hd⟩))
  · rw [if_neg hd, if_neg fun hs => hd ⟨hf, ha.processor.current.trans hs.2⟩]
    exact .inl ⟨ha, fun hs => hd (hi.mp hs).2⟩

-- ---------------------------------------------------------------------------
-- Files
-- ---------------------------------------------------------------------------

/-- The same files, but that those at the moved paths have the layout of a line in place of its
text. One file may be moved at many paths. -/
structure Relaid (files others : Files) (moved : Path → Bool) (before : List String) (l : Layout)
    (after : List String) : Prop where
  elsewhere : ∀ path, moved path = false → others path = files path
  joined : ∀ path, moved path = true → ∃ content, files path = .file content ∧
    Text.fileLines content = before ++ l.text :: after
  split : ∀ path, moved path = true → ∃ content, others path = .file content ∧
    Text.fileLines content = before ++ l.lines ++ after

def marked (moved : Path → Bool) (number : Nat) (place : String) : Bool :=
  moved (fileOf place) && place == location (fileOf place) number

theorem marked_location (moved : Path → Bool) (number : Nat) (path : Path) (k : Nat) :
    marked moved number (location path k) = true ↔ moved path = true ∧ k = number := by
  rw [marked, fileOf_location, Bool.and_eq_true, beq_iff_eq]
  exact and_congr_right fun _ => ⟨fun h => (location_inj h).2, fun h => h ▸ rfl⟩

def Misleading (settings : Settings) (moved : Path → Bool) (number : Nat) (l : Layout)
    (place : String) : Prop :=
  ∃ path, moved path = true ∧ place = location path number ∧ ¬l.SameTarget settings path

theorem misleading_location {settings : Settings} {moved : Path → Bool} {number : Nat}
    {l : Layout} {path : Path} {k : Nat} :
    Misleading settings moved number l (location path k) ↔
      moved path = true ∧ k = number ∧ ¬l.SameTarget settings path := by
  constructor
  · rintro ⟨other, hm, he, hs⟩
    obtain ⟨rfl, rfl⟩ := location_inj he
    exact ⟨hm, rfl, hs⟩
  · rintro ⟨hm, rfl, hs⟩
    exact ⟨path, hm, rfl, hs⟩

variable {files others : Files} {moved : Path → Bool} {before after : List String} {l : Layout}

theorem relaid_beside (hf : checks.settings.followIncludes = true)
    (hv : VisitBeside (marked moved (before.length + 1)) (l.blanks checks.settings)
      (Misleading checks.settings moved (before.length + 1) l) visit away)
    (hm : moved path = true) {p q : Processor} (h : p.Twin q) :
    Beside (marked moved (before.length + 1)) (l.blanks checks.settings)
      (Misleading checks.settings moved (before.length + 1) l)
      (lines checks visit path 0 (before ++ l.text :: after) p)
      (lines checks away path 0 (before ++ l.lines ++ after) q) := by
  have hplain : ∀ k, k ≠ before.length + 1 → Plain (marked moved (before.length + 1))
      (Misleading checks.settings moved (before.length + 1) l) (location path k) := by
    intro k hk
    refine ⟨Bool.eq_false_iff.mpr fun hr => ?_, fun hb => ?_⟩
    · exact hk ((marked_location ..).mp hr).2
    · exact hk (misleading_location.mp hb).2.1
  have hmark : marked moved (before.length + 1) (location path (before.length + 1)) = true :=
    (marked_location ..).mpr ⟨hm, rfl⟩
  have hbad : Misleading checks.settings moved (before.length + 1) l
      (location path (before.length + 1)) ↔ ¬l.SameTarget checks.settings path := by
    rw [misleading_location]
    simp [hm]
  -- the lines before, the directive, the lines behind it
  rw [List.append_assoc, lines_append, lines_append]
  refine andThen_beside ?_ fun a b hab => ?_
  · exact block_beside hv h path 0 0 before fun k _ hk => hplain k (by omega)
  · rw [Nat.zero_add, Layout.lines, List.append_assoc, lines_append, List.singleton_append]
    simp only [lines]
    rw [← andThen_assoc]
    refine andThen_beside (directive_beside hf hv hmark hbad hab before.length) fun c d hcd => ?_
    exact lines_beside hv hcd path _ _ after fun k hk _ => hplain k (by omega)

theorem file_beside (hf : checks.settings.followIncludes = true)
    (h : Relaid files others moved before l after) (levels depth : Nat) :
    VisitBeside (marked moved (before.length + 1)) (l.blanks checks.settings)
      (Misleading checks.settings moved (before.length + 1) l) (file checks files levels depth)
      (file checks others levels depth) := by
  induction levels generalizing depth with
  | zero =>
    intro path p q hpq
    exact .inl ⟨⟨rfl, rfl, hpq⟩, not_includesAt_nil⟩
  | succ levels ih =>
    intro path p q hpq
    simp only [file]
    cases checks.settings.maxIncludeDepth.filter (· < depth) with
    | some limit => exact fail_beside hpq _
    | none =>
      cases hm : moved path with
      | true =>
        obtain ⟨content, hc, hl⟩ := h.joined path hm
        obtain ⟨other, ho, hr⟩ := h.split path hm
        simp only [hc, ho, hl, hr]
        exact resume_beside hpq (relaid_beside hf (ih (depth + 1)) hm hpq.suspend)
      | false =>
        rw [h.elsewhere path hm]
        cases files path with
        | missing => exact fail_beside hpq _
        | directory => exact fail_beside hpq _
        | locked text => exact fail_beside hpq _
        | file content =>
          refine resume_beside hpq (lines_beside (ih (depth + 1)) hpq.suspend path 0 0 _ ?_)
          refine fun k _ _ => ⟨?_, fun hb => ?_⟩
          · rw [Bool.eq_false_iff, Ne, marked_location, hm]
            simp
          · have := (misleading_location.mp hb).1
            simp [hm] at this

end Run

-- ---------------------------------------------------------------------------
-- File trees
-- ---------------------------------------------------------------------------

namespace FileTree

def rewrite (tree : FileTree) (place : List String) (content : List UInt8) : FileTree :=
  { tree with entries := (place, .file content) :: tree.entries }

variable {tree : FileTree} {place : List String} {content : List UInt8}

theorem entryAt_rewrite (h : place ≠ []) (other : List String) :
    (tree.rewrite place content).entryAt other =
      if other = place then .file content else tree.entryAt other := by
  by_cases ho : other = place
  · subst ho
    simp [entryAt, rewrite, h]
  · simp [entryAt, rewrite, ho, List.lookup_cons, beq_eq_false_iff_ne.mpr ho]

theorem placeOf?_rewrite (h : tree.entryAt place = .file old) (path : Path) :
    (tree.rewrite place content).placeOf? path = tree.placeOf? path := by
  have hne : place ≠ [] := by
    rintro rfl
    cases h
  have he : ∀ other name, (tree.rewrite place content).enter other name = tree.enter other name := by
    intro other name
    rw [enter, enter, entryAt_rewrite hne]
    by_cases ho : other = place
    · rw [if_pos ho, ho, h]
    · rw [if_neg ho]
  -- a way ends at a file, whatever it contains
  have hw : ∀ names other, (tree.rewrite place content).walk other names = tree.walk other names := by
    intro names
    induction names with
    | nil => exact fun _ => rfl
    | cons name rest ih =>
      intro other
      simp only [walk, he, ih]
  simp only [placeOf?, hw]
  rfl

/-- To lay out a line of one file of a tree anew moves it at every path that leads to the file. -/
theorem relaid_rewrite {l : Layout} (h : tree.entryAt place = .file old)
    (hj : Text.fileLines old = before ++ l.text :: after)
    (hs : Text.fileLines content = before ++ l.lines ++ after) :
    Run.Relaid tree.find (tree.rewrite place content).find
      (fun path => tree.placeOf? path == some place) before l after := by
  have hne : place ≠ [] := by
    rintro rfl
    cases h
  refine ⟨fun path hm => ?_, fun path hm => ⟨old, ?_, hj⟩, fun path hm => ⟨content, ?_, hs⟩⟩
  · rw [find_eq, find_eq, placeOf?_rewrite h]
    cases hp : tree.placeOf? path with
    | none => rfl
    | some other =>
      have ho : other ≠ place := by simpa [hp] using hm
      simp [entryAt_rewrite hne, ho]
  · rw [find_eq, eq_of_beq hm]
    exact h
  · rw [find_eq, placeOf?_rewrite h, eq_of_beq hm]
    simp [entryAt_rewrite hne]

end FileTree

namespace Run

variable {files others : Files} {moved : Path → Bool} {before after : List String} {l : Layout}

theorem file_suspend (checks : Checks) (files : Files) (levels depth : Nat) (path : Path)
    (p : Processor) :
    (file checks files levels depth path p.suspend.2).events =
        (file checks files levels depth path p).events ∧
      (file checks files levels depth path p.suspend.2).outcome =
        (file checks files levels depth path p).outcome := by
  cases levels with
  | zero => exact ⟨rfl, rfl⟩
  | succ levels =>
    rcases file_uniform checks files levels depth path with ⟨cause, h⟩ | ⟨content, -, h⟩
    · rw [h, h]
      exact ⟨rfl, rfl⟩
    · simp only [h, resume_events, resume_outcome]
      exact ⟨rfl, rfl⟩

theorem not_misleading_iff {settings : Settings} {number : Nat} {events : List Event} :
    ¬IncludesAt (Misleading settings moved number l) events ↔
      ∀ path, moved path = true → IncludesAt (· = location path number) events →
        l.SameTarget settings path := by
  constructor
  · intro h path hm hi
    obtain ⟨record, state, he, hp, hc⟩ := hi
    by_cases hs : l.SameTarget settings path
    · exact hs
    · exact absurd ⟨record, state, he, ⟨path, hm, hp, hs⟩, hc⟩ h
  · rintro h ⟨record, state, he, ⟨path, hm, hp, hs⟩, hc⟩
    exact hs (h path hm ⟨record, state, he, hp, hc⟩)

/-- A line may be laid out over several lines without a difference to the files that are entered
if and only if, wherever it is read as an include, its last line leads to the same file as the
joined text. Then the runs end alike, but for what is said about the ends of the lines. -/
theorem include_layout (checks : Checks) (hf : checks.settings.followIncludes = true)
    (h : Relaid files others moved before l after) (start : Path) (p : Processor) :
    let r := ofFile checks files start p
    let s := ofFile checks others start p
    (entered s.events = entered r.events ↔ ∀ path, moved path = true →
        IncludesAt (· = location path (before.length + 1)) r.events →
        l.SameTarget checks.settings path) ∧
      (entered s.events = entered r.events → s.outcome.unquoted = (r.outcome.add
        (l.blanks checks.settings * reads (marked moved (before.length + 1)) r.events)).unquoted) := by
  intro r s
  -- the simulation starts where nothing is held back, as a file does whatever it interrupts
  have hp : p.suspend.2.Twin p.suspend.2 := ⟨rfl, fun _ => rfl⟩
  obtain ⟨hre, hro⟩ := file_suspend checks files (levelsFor checks.settings) 0 start p
  obtain ⟨hse, hso⟩ := file_suspend checks others (levelsFor checks.settings) 0 start p
  have hb := file_beside hf h (levelsFor checks.settings) 0 start _ _ hp
  rcases hb with ⟨ha, hi⟩ | ⟨hd, hi⟩
  · have he := ha.entered
    have ho := ha.outcome
    rw [hre] at hi
    rw [hre, hse] at he
    rw [hre, hro, hso] at ho
    exact ⟨iff_of_true he (not_misleading_iff.mp hi), fun _ => ho⟩
  · have hne := hd.entered_ne
    rw [hre] at hi
    rw [hre, hse] at hne
    exact ⟨iff_of_false hne fun hs => not_misleading_iff.mpr hs hi, fun he => absurd he hne⟩

def pathBelow : Layout where
  first := "IncludeFile \\"
  rest := []
  last := "a.txt"
  first_continued := by decide
  rest_inner := by decide
  last_completing := by decide

def includeBelow : Layout where
  first := "\\"
  rest := []
  last := "IncludeFile a.txt "
  first_continued := Line.continued_backslash
  rest_inner := by decide
  last_completing := by decide

def oneInclude : FileTree where
  entries := [(["main.txt"], .file (Text.encodeUtf8 "IncludeFile a.txt\n".toList)),
    (["a.txt"], .file (Text.encodeUtf8 "Title A\n".toList))]

def onePathBelow : FileTree :=
  oneInclude.rewrite ["main.txt"] (Text.encodeUtf8 "IncludeFile \\\na.txt\n".toList)

def oneIncludeBelow : FileTree :=
  oneInclude.rewrite ["main.txt"] (Text.encodeUtf8 "\\\nIncludeFile a.txt \n".toList)

theorem include_layout_below :
    let checks : Checks := ⟨{ whitespace := true }, .pages fun _ => .ok none⟩
    let r := ofFile checks oneInclude.find "main.txt" {}
    let s := ofFile checks onePathBelow.find "main.txt" {}
    let t := ofFile checks oneIncludeBelow.find "main.txt" {}
    (r.outcome = .count 1 ∧ entered r.events = ["a.txt"]) ∧
      (s.outcome = .failure (.missingIncludePath "a.txt") ∧
        ¬∀ path, oneInclude.placeOf? path == some ["main.txt"] →
          IncludesAt (· = location path 1) r.events →
          pathBelow.SameTarget checks.settings path) ∧
      entered t.events = ["a.txt"] ∧ t.outcome.unquoted = .count 2 := by
  have hs : Relaid oneInclude.find onePathBelow.find _ [] pathBelow [] :=
    FileTree.relaid_rewrite rfl (by decide +kernel) (by decide +kernel)
  have ht : Relaid oneInclude.find oneIncludeBelow.find _ [] includeBelow [] :=
    FileTree.relaid_rewrite rfl (by decide +kernel) (by decide +kernel)
  have hsplit := include_layout ⟨{ whitespace := true }, .pages fun _ => .ok none⟩ rfl hs "main.txt" {}
  have hbelow := include_layout ⟨{ whitespace := true }, .pages fun _ => .ok none⟩ rfl ht "main.txt" {}
  refine ⟨by decide +kernel, ⟨by decide +kernel, fun hm => ?_⟩, by decide +kernel, ?_⟩
  · exact absurd (hsplit.1.mpr hm) (by decide +kernel)
  · rw [hbelow.2 (by decide +kernel)]
    decide +kernel

end Run

end StanzaLint
