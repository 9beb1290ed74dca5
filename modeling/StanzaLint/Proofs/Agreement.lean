import StanzaLint.Proofs.Relocation
import StanzaLint.Proofs.Runs

/-!
# Two runs side by side

Two runs agree if they enter the same files and end alike: with counts that differ
by a fixed number for every time that a marked line was read, or with failures
that differ at most in the lines that they quote. They part at the first include
that leads to different files, or nowhere in one of them. Where they part cannot be
made up for later, so both agreement and parting pass from the pieces of a run to
the whole (`andThen_beside`, `follow_beside`, `resume_beside`).
-/

namespace StanzaLint

namespace Processor

structure Twin (p q : Processor) : Prop where
  same : p.relocate (fun _ => "") = q.relocate (fun _ => "")
  settled : p.stanza.Settled

namespace Twin

variable {p q r s : Processor}

theorem stanza (h : Twin p q) :
    p.stanza.relocate (fun _ => "") = q.stanza.relocate (fun _ => "") :=
  congrArg Processor.stanza h.same

theorem lastLineEmpty (h : Twin p q) : p.lastLineEmpty = q.lastLineEmpty := by
  have hl := congrArg Processor.lastLineEmpty h.same
  exact hl

theorem current (h : Twin p q) : p.current = q.current := by
  have hc := congrArg Processor.current h.same
  exact hc

theorem settled_right (h : Twin p q) : q.stanza.Settled := by
  have hm := congrArg Stanza.margin h.stanza
  exact h.settled.of_margin hm.symm

theorem step (h : Twin p q) (checks : Checks) (line place other : String) :
    Twin (p.step checks line place).1 (q.step checks line other).1 ∧
      (p.step checks line place).2.length = (q.step checks line other).2.length := by
  have hp := p.step_relocate (fun _ => "") rfl checks line place
  have hq := q.step_relocate (fun _ => "") rfl checks line other
  rw [h.same, hq] at hp
  refine ⟨⟨congrArg Prod.fst hp.symm, step_settled h.settled line place⟩, ?_⟩
  simpa [relocated] using congrArg (fun result => result.2.length) hp.symm

theorem suspend (h : Twin p q) : Twin p.suspend.2 q.suspend.2 := by
  refine ⟨?_, fun _ => rfl⟩
  exact congrArg (fun t : Processor => { t with stanza := {}, lastLineEmpty := false }) h.same

theorem resume (h : Twin p q) (hr : Twin r s) :
    Twin (r.resume p.suspend.1) (s.resume q.suspend.1) := by
  refine ⟨?_, h.settled⟩
  have hs : (r.resume p.suspend.1).relocate (fun _ => "") =
      { r.relocate (fun _ => "") with
        stanza := p.stanza.relocate (fun _ => ""), lastLineEmpty := p.lastLineEmpty } := rfl
  rw [hs, hr.same, h.stanza, h.lastLineEmpty]
  rfl

end Twin

end Processor

def Failure.unquoted : Failure → Failure
  | .missingIncludePath _ => .missingIncludePath ""
  | .included _ path cause => .included "" path cause.unquoted
  | failure => failure

namespace Outcome

def unquoted : Outcome → Outcome
  | failure cause => failure cause.unquoted
  | outcome => outcome

theorem unquoted_add (o : Outcome) (n : Nat) : (o.add n).unquoted = o.unquoted.add n := by
  cases o <;> rfl

theorem unquoted_within {o a : Outcome} (h : o.unquoted = a.unquoted) (line other : String)
    (path : Path) : (o.within line path).unquoted = (a.within other path).unquoted := by
  cases o <;> cases a <;> simp_all [unquoted, within, Failure.unquoted]

theorem within_add (o : Outcome) (line : String) (path : Path) (n : Nat) :
    (o.add n).within line path = (o.within line path).add n := by
  cases o <;> rfl

theorem unquoted_eq_count {o : Outcome} : o.unquoted = .count n ↔ o = .count n := by
  cases o <;> simp [unquoted]

end Outcome

namespace Run

-- ---------------------------------------------------------------------------
-- Where a run went
-- ---------------------------------------------------------------------------

/-- The files that a run enters one after the other, and `none` where it stops for good. -/
def trail (r : Run) : List (Option Path) :=
  (entered r.events).map some ++ match r.outcome with
    | .count _ => []
    | _ => [none]

theorem trail_count {r : Run} (h : r.outcome = .count n) :
    trail r = (entered r.events).map some := by
  simp [trail, h]

theorem trail_andThen {r : Run} (h : r.outcome = .count n) (next : Processor → Run) :
    trail (r.andThen next) = trail r ++ trail (next r.processor) := by
  rw [andThen_count h, trail_count h]
  cases ho : (next r.processor).outcome <;> simp [trail, entered_append, ho, Outcome.add]

theorem trail_prefix_andThen (r : Run) (next : Processor → Run) :
    trail r <+: trail (r.andThen next) := by
  rcases andThen_cases r next with ⟨n, hn, -⟩ | ⟨-, he⟩
  · rw [trail_andThen hn]
    exact List.prefix_append ..
  · exact he.symm ▸ List.prefix_rfl

theorem trail_follow_some {text : String} (h : target? text = some target) (settings : Settings)
    (visit : Path → Processor → Run) (enclosing : Path) (p : Processor) :
    let path := resolve settings enclosing target
    trail (follow settings visit enclosing text p) = some path :: trail (visit path p) := by
  intro path
  have he := entered_follow h settings visit enclosing p
  have ho : (follow settings visit enclosing text p).outcome =
      (visit path p).outcome.within text path := by rw [follow_some h]
  cases hv : (visit path p).outcome <;> simp [trail, he, ho, hv, Outcome.within, path]

theorem trail_resume (r : Run) (s : Processor.Suspended) : trail (r.resume s) = trail r := by
  rw [trail, resume_events, resume_outcome, trail]

theorem trail_follow (settings : Settings) (visit : Path → Processor → Run) (enclosing : Path)
    (text : String) (p : Processor) :
    [(target? text).map (resolve settings enclosing)] <+:
      trail (follow settings visit enclosing text p) := by
  cases ht : target? text with
  | none =>
    rw [follow_none ht]
    exact List.prefix_rfl
  | some target =>
    rw [trail_follow_some ht]
    exact ⟨_, rfl⟩

def Apart (a b : List (Option Path)) : Prop :=
  ∃ way x y, x ≠ y ∧ way ++ [x] <+: a ∧ way ++ [y] <+: b

theorem Apart.mono {a b c d : List (Option Path)} (h : Apart a b) (ha : a <+: c) (hb : b <+: d) :
    Apart c d := by
  obtain ⟨way, x, y, hne, hx, hy⟩ := h
  exact ⟨way, x, y, hne, hx.trans ha, hy.trans hb⟩

theorem Apart.append_left {a b : List (Option Path)} (h : Apart a b) (common : List (Option Path)) :
    Apart (common ++ a) (common ++ b) := by
  obtain ⟨way, x, y, hne, hx, hy⟩ := h
  refine ⟨common ++ way, x, y, hne, ?_, ?_⟩
  · rw [List.append_assoc]
    exact (List.prefix_append_right_inj _).mpr hx
  · rw [List.append_assoc]
    exact (List.prefix_append_right_inj _).mpr hy

theorem Apart.irrefl {a : List (Option Path)} : ¬Apart a a := by
  rintro ⟨way, x, y, hne, hx, hy⟩
  -- two prefixes of one list, equally long
  have he := (List.prefix_of_prefix_length_le hx hy (by simp)).eq_of_length (by simp)
  exact hne (by simpa using he)

theorem Apart.entered_ne {r s : Run} (h : Apart (trail r) (trail s)) :
    entered s.events ≠ entered r.events := by
  intro he
  -- with the same files entered, both trails begin the same list, so they cannot part
  have hstop : ∀ t : Run, trail t <+: (entered t.events).map some ++ [none] := by
    intro t
    cases ht : t.outcome <;> simp [trail, ht]
  have hs := hstop s
  rw [he] at hs
  exact (h.mono (hstop r) hs).irrefl

-- ---------------------------------------------------------------------------
-- Agreement
-- ---------------------------------------------------------------------------

/-- How often a line of a file at a marked place is read. -/
def reads (mark : String → Bool) (events : List Event) : Nat :=
  (records events).countP fun record => record.physical && mark record.location

def IncludesAt (places : String → Prop) (events : List Event) : Prop :=
  ∃ record state, .line record state ∈ events ∧ places record.location ∧
    state.current = some .includeFile

theorem reads_append (mark : String → Bool) (events more : List Event) :
    reads mark (events ++ more) = reads mark events + reads mark more := by
  simp [reads, records_append]

theorem includesAt_append {bad : String → Prop} {events more : List Event} :
    IncludesAt bad (events ++ more) ↔ IncludesAt bad events ∨ IncludesAt bad more := by
  simp only [IncludesAt, List.mem_append]
  constructor
  · rintro ⟨record, state, hm | hm, hb⟩
    · exact .inl ⟨record, state, hm, hb⟩
    · exact .inr ⟨record, state, hm, hb⟩
  · rintro (⟨record, state, hm, hb⟩ | ⟨record, state, hm, hb⟩)
    · exact ⟨record, state, .inl hm, hb⟩
    · exact ⟨record, state, .inr hm, hb⟩

theorem not_includesAt_nil {bad : String → Prop} : ¬IncludesAt bad [] := by
  rintro ⟨record, state, hm, -⟩
  cases hm

variable {mark : String → Bool} {extra : Nat} {bad : String → Prop} {checks : Checks}
  {visit away : Path → Processor → Run}

/-- The runs enter the same files and end alike. Each time that a marked line is read, `s` finds
`extra` more than `r`. -/
structure Agree (mark : String → Bool) (extra : Nat) (r s : Run) : Prop where
  entered : entered s.events = entered r.events
  outcome : s.outcome.unquoted = (r.outcome.add (extra * reads mark r.events)).unquoted
  processor : r.processor.Twin s.processor

/-- The runs agree, or else they part and `r` has read an include at a bad place. -/
def Beside (mark : String → Bool) (extra : Nat) (bad : String → Prop) (r s : Run) : Prop :=
  Agree mark extra r s ∧ ¬IncludesAt bad r.events ∨
    Apart (trail r) (trail s) ∧ IncludesAt bad r.events

theorem Agree.count {r s : Run} (h : Agree mark extra r s) (hr : r.outcome = .count n) :
    s.outcome = .count (extra * reads mark r.events + n) := by
  have ho := h.outcome
  rw [hr] at ho
  exact Outcome.unquoted_eq_count.mp ho

theorem Agree.trail {r s : Run} (h : Agree mark extra r s) (hr : r.outcome = .count n) :
    trail s = trail r := by
  rw [trail_count hr, trail_count (h.count hr), h.entered]

theorem Agree.stop {r s : Run} (h : Agree mark extra r s) (hr : ∀ n, r.outcome ≠ .count n) :
    ∀ n, s.outcome ≠ .count n := by
  intro n hn
  have ho := h.outcome
  rw [hn] at ho
  obtain ⟨m, hm, -⟩ := Outcome.add_eq_count (Outcome.unquoted_eq_count.mp ho.symm)
  exact hr m hm

theorem fail_beside {p q : Processor} (h : p.Twin q) (cause : Failure) :
    Beside mark extra bad (fail p cause) (fail q cause) :=
  .inl ⟨⟨rfl, rfl, h⟩, not_includesAt_nil⟩

theorem andThen_beside {r s : Run} {next more : Processor → Run} (h : Beside mark extra bad r s)
    (hn : ∀ p q : Processor, p.Twin q → Beside mark extra bad (next p) (more q)) :
    Beside mark extra bad (r.andThen next) (s.andThen more) := by
  rcases h with ⟨ha, hi⟩ | ⟨hd, hi⟩
  · rcases andThen_cases r next with ⟨n, hr, he⟩ | ⟨hr, he⟩
    · -- both go on, from twins
      have hs := ha.count hr
      rcases hn _ _ ha.processor with ⟨hb, hj⟩ | ⟨hd, hj⟩
      · left
        rw [he, andThen_count hs]
        refine ⟨⟨?_, ?_, hb.processor⟩, fun hm => (includesAt_append.mp hm).elim hi hj⟩
        · rw [entered_append, entered_append, ha.entered, hb.entered]
        · rw [reads_append, Outcome.unquoted_add, hb.outcome, Outcome.unquoted_add,
            Outcome.unquoted_add, Outcome.unquoted_add, Outcome.add_add, Outcome.add_add,
            Nat.mul_add]
          congr 1
          omega
      · -- they part later: what they have in common so far comes first in both trails
        right
        refine ⟨?_, ?_⟩
        · rw [trail_andThen hr, trail_andThen hs, ha.trail hr]
          exact hd.append_left _
        · rw [he]
          exact includesAt_append.mpr (.inr hj)
    · -- both have failed
      rw [he, andThen_stop (ha.stop hr)]
      exact .inl ⟨ha, hi⟩
  · -- they have parted: trails only grow
    right
    refine ⟨hd.mono (trail_prefix_andThen r next) (trail_prefix_andThen s more), ?_⟩
    rcases andThen_cases r next with ⟨n, -, he⟩ | ⟨-, he⟩
    · rw [he]
      exact includesAt_append.mpr (.inl hi)
    · rw [he]
      exact hi

def VisitBeside (mark : String → Bool) (extra : Nat) (bad : String → Prop)
    (visit away : Path → Processor → Run) : Prop :=
  ∀ (path : Path) (p q : Processor), p.Twin q →
    Beside mark extra bad (visit path p) (away path q)

theorem follow_beside (hv : VisitBeside mark extra bad visit away) {settings : Settings}
    {enclosing : Path} {text other : String} {p q : Processor} (h : p.Twin q)
    (ht : (target? other).map (resolve settings enclosing) =
      (target? text).map (resolve settings enclosing)) :
    Beside mark extra bad (follow settings visit enclosing text p)
      (follow settings away enclosing other q) := by
  cases ha : target? text with
  | none =>
    have hb : target? other = none := by simpa [ha] using ht
    rw [follow_none ha, follow_none hb]
    exact .inl ⟨⟨rfl, rfl, h⟩, not_includesAt_nil⟩
  | some target =>
    obtain ⟨twin, hb, he⟩ : ∃ twin, target? other = some twin ∧
        resolve settings enclosing twin = resolve settings enclosing target := by
      simpa [ha] using ht
    have hr : ∀ events : List Event, reads mark (.enter text enclosing
        (resolve settings enclosing target) p :: events ++ [.leave]) = reads mark events := by
      intro events
      simp [reads, records]
    have hi : ∀ events : List Event, IncludesAt bad (.enter text enclosing
        (resolve settings enclosing target) p :: events ++ [.leave]) ↔ IncludesAt bad events := by
      intro events
      simp [IncludesAt]
    rcases hv (resolve settings enclosing target) p q h with ⟨hg, hs⟩ | ⟨hd, hs⟩
    · left
      refine ⟨⟨?_, ?_, ?_⟩, ?_⟩
      · rw [entered_follow ha, entered_follow hb, he, hg.entered]
      · rw [follow_some ha, follow_some hb, he, hr, ← Outcome.within_add]
        exact Outcome.unquoted_within hg.outcome _ _ _
      · rw [follow_some ha, follow_some hb, he]
        exact hg.processor
      · rw [follow_some ha, hi]
        exact hs
    · right
      refine ⟨?_, ?_⟩
      · rw [trail_follow_some ha, trail_follow_some hb, he]
        exact hd.append_left [_]
      · rw [follow_some ha, hi]
        exact hs

theorem resume_beside {p q : Processor} {r s : Run} (h : p.Twin q)
    (hr : Beside mark extra bad r s) :
    Beside mark extra bad (r.resume p.suspend.1) (s.resume q.suspend.1) := by
  rcases hr with ⟨ha, hi⟩ | ⟨hd, hi⟩
  · left
    refine ⟨⟨?_, ?_, ?_⟩, ?_⟩
    · rw [resume_events, resume_events]
      exact ha.entered
    · rw [resume_outcome, resume_outcome, resume_events]
      exact ha.outcome
    · -- a run that counts gives the interrupted stanza back, and then so does the other
      by_cases hc : ∃ n, r.outcome = .count n
      · obtain ⟨n, hc⟩ := hc
        rw [resume_count hc, resume_count (ha.count hc)]
        exact h.resume ha.processor
      · have hc : ∀ n, r.outcome ≠ .count n := fun n hn => hc ⟨n, hn⟩
        rw [resume_stop hc, resume_stop (ha.stop hc)]
        exact ha.processor
    · rw [resume_events]
      exact hi
  · right
    rw [trail_resume, trail_resume, resume_events]
    exact ⟨hd, hi⟩

-- ---------------------------------------------------------------------------
-- The same lines in both runs
-- ---------------------------------------------------------------------------

theorem alone_reads (mark : String → Bool) (checks : Checks) (path : Path) (number : Nat)
    (text : String) (physical : Bool) (p : Processor) :
    reads mark (alone checks path number text physical p).events =
      if physical = true ∧ mark (location path number) = true then 1 else 0 := by
  simp [reads, records, alone, List.countP_cons]

theorem alone_includesAt {path : Path} {number : Nat} {text : String} {physical : Bool}
    {p : Processor} :
    IncludesAt bad (alone checks path number text physical p).events ↔
      bad (location path number) ∧
        (alone checks path number text physical p).processor.current = some .includeFile := by
  constructor
  · rintro ⟨record, state, hm, hb⟩
    obtain ⟨rfl, rfl⟩ : record = _ ∧ state = _ := by simpa [alone] using hm
    exact hb
  · rintro ⟨hb, hc⟩
    exact ⟨_, _, List.mem_cons_of_mem _ (List.mem_singleton_self _), hb, hc⟩

theorem alone_beside {p q : Processor} (h : p.Twin q) (path : Path) (number other : Nat)
    (text : String) (physical : Bool)
    (hr : physical = true → mark (location path number) = false)
    (hi : ¬IncludesAt bad (alone checks path number text physical p).events) :
    Beside mark extra bad (alone checks path number text physical p)
      (alone checks path other text physical q) := by
  obtain ⟨ht, hl⟩ := h.step checks text (location path number) (location path other)
  have hreads : ¬(physical = true ∧ mark (location path number) = true) := by
    rintro ⟨hp, hm⟩
    rw [hr hp] at hm
    cases hm
  refine .inl ⟨⟨rfl, ?_, ht⟩, hi⟩
  rw [alone_reads, if_neg hreads, Nat.mul_zero, Outcome.add_zero]
  exact congrArg (fun n => (Outcome.count n).unquoted) hl.symm

theorem line_beside (hv : VisitBeside mark extra bad visit away) {p q : Processor}
    (h : p.Twin q) (path : Path) (number other : Nat) (text : String) (physical : Bool)
    (hr : physical = true → mark (location path number) = false)
    (hi : ¬IncludesAt bad (alone checks path number text physical p).events) :
    Beside mark extra bad (line checks visit path number text physical p)
      (line checks away path other text physical q) := by
  have ha : Beside mark extra bad _ (alone checks path other text physical q) :=
    alone_beside h path number other text physical hr hi
  have hc : (alone checks path number text physical p).processor.current =
      (alone checks path other text physical q).processor.current := (h.step checks text _ _).1.current
  rw [line_eq, line_eq]
  by_cases hf : Follows checks (alone checks path number text physical p)
  · have hg : Follows checks (alone checks path other text physical q) := ⟨hf.1, hc ▸ hf.2⟩
    rw [if_pos hf, if_pos hg]
    exact andThen_beside ha fun a b hab => follow_beside hv hab rfl
  · have hg : ¬Follows checks (alone checks path other text physical q) :=
      fun hg => hf ⟨hg.1, hc ▸ hg.2⟩
    rw [if_neg hf, if_neg hg]
    exact ha

def Plain (mark : String → Bool) (bad : String → Prop) (place : String) : Prop :=
  mark place = false ∧ ¬bad place

theorem block_beside (hv : VisitBeside mark extra bad visit away) {p q : Processor}
    (h : p.Twin q) (path : Path) (number other : Nat) (texts : List String)
    (hp : ∀ k, number < k → k ≤ number + texts.length → Plain mark bad (location path k)) :
    Beside mark extra bad (block checks visit path number texts p)
      (block checks away path other texts q) := by
  induction texts generalizing number other p q with
  | nil => exact .inl ⟨⟨rfl, by simp [block, reads, records, Outcome.add], h⟩, not_includesAt_nil⟩
  | cons text rest ih =>
    obtain ⟨hm, hb⟩ := hp (number + 1) (by omega) (by simp)
    refine andThen_beside ?_ fun a b hab => ?_
    · exact line_beside hv h path _ _ text true (fun _ => hm) fun hi => hb (alone_includesAt.mp hi).1
    · refine ih hab (number + 1) (other + 1) fun k hk hl => hp k (by omega) ?_
      rw [List.length_cons]
      omega

/-- The end of a file has no line of its own, even if it is located at the last one. -/
theorem closing_beside (hv : VisitBeside mark extra bad visit away) {p q : Processor}
    (h : p.Twin q) (path : Path) (number other : Nat) :
    Beside mark extra bad (lines checks visit path number [] p)
      (lines checks away path other [] q) := by
  simp only [lines, h.lastLineEmpty]
  split
  · exact .inl ⟨⟨rfl, by simp [reads, records, Outcome.add], h⟩, not_includesAt_nil⟩
  · refine line_beside hv h path number other "" false (fun hp => absurd hp Bool.false_ne_true)
      fun hi => ?_
    cases (alone_includesAt.mp hi).2

theorem lines_beside (hv : VisitBeside mark extra bad visit away) {p q : Processor}
    (h : p.Twin q) (path : Path) (number other : Nat) (texts : List String)
    (hp : ∀ k, number < k → k ≤ number + texts.length → Plain mark bad (location path k)) :
    Beside mark extra bad (lines checks visit path number texts p)
      (lines checks away path other texts q) := by
  have hl := lines_append checks visit path number texts [] p
  have hr := lines_append checks away path other texts [] q
  rw [List.append_nil] at hl hr
  rw [hl, hr]
  exact andThen_beside (block_beside hv h path number other texts hp) fun a b hab =>
    closing_beside hv hab path _ _

end Run

end StanzaLint
