import StanzaLint.Proofs.Additivity
import StanzaLint.Program

/-!
# Files in turn

The program reads the files of its command line one after the other. Its writer takes
everything, so what it leaves is what the runs of these files leave in turn
(`run_eq`).
-/

namespace StanzaLint

/-- Reads files one after the other, up to the first that fails. -/
def Run.inTurn (checks : Checks) (files : Files) : List Path → Processor → Run
  | [], p => ⟨[], .count 0, p⟩
  | path :: rest, p => (ofFile checks files path p).andThen (inTurn checks files rest)

/-- What is printed of events if the writer takes everything. -/
def shownBytes (style : Style) (events : List Event) : List UInt8 :=
  (events.flatMap (Event.chunks style)).flatMap Chunk.bytes

theorem shownBytes_cons (style : Style) (event : Event) (rest : List Event) :
    shownBytes style (event :: rest) =
      (event.chunks style).flatMap Chunk.bytes ++ shownBytes style rest := by
  simp only [shownBytes, List.flatMap_cons, List.flatMap_append]

theorem shownBytes_append (style : Style) (events more : List Event) :
    shownBytes style (events ++ more) = shownBytes style events ++ shownBytes style more := by
  simp only [shownBytes, List.flatMap_append]

namespace Program

theorem lintAll_eq (checks : Checks) (style : Style) (files : Files) (p : Processor)
    (paths : List Path) :
    lintAll checks style files ⟨p, none⟩ paths =
      ⟨shownBytes style (Run.inTurn checks files paths p).events,
        (Run.inTurn checks files paths p).outcome⟩ := by
  induction paths generalizing p with
  | nil => rfl
  | cons path rest ih =>
    simp only [lintAll, Session.lint_none, Run.inTurn]
    cases ho : (Run.ofFile checks files path p).outcome with
    | count n =>
      simp only [Run.andThen_count ho, ih, shownBytes_append]
      rfl
    | failure cause =>
      rw [Run.andThen_stop (by simp [ho]), ho]
      rfl
    | endless =>
      rw [Run.andThen_stop (by simp [ho]), ho]
      rfl

theorem run_eq {files : Files} {line : CommandLine} {settings : Settings}
    (h : Program.settings files line = .ok settings) (titles : TitleLookup) (env : Environment) :
    let run := Run.inTurn ⟨settings, titles⟩ files line.files {}
    Program.run files titles env line =
      ⟨shownBytes (styleOf env line settings) run.events, run.outcome⟩ := by
  simp only [Program.run, Program.runWithin, h]
  exact lintAll_eq _ _ files {} line.files

end Program

end StanzaLint
