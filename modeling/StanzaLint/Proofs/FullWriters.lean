import StanzaLint.Proofs.Formats
import StanzaLint.Proofs.InTurn
import StanzaLint.Proofs.Live

/-!
# Writers that take no more

A writer that takes `n` bytes gets the first `n` bytes of what it would get without a
limit. If these are all, nothing else changes. Otherwise the run fails at the event
that byte `n` belongs to (`Spot`): with the includes around the failure that have been
entered and not finished there, and with a fault that says whether the byte is part of
a JSON object (`Spot.object_iff`).
-/

namespace StanzaLint

open Text (encodeUtf8)

-- ---------------------------------------------------------------------------
-- Chunks and events
-- ---------------------------------------------------------------------------

def Chunk.fault (c : Chunk) : WriteFault := if c.isObject then .object else .text

theorem Chunk.fault_eq_object_iff (c : Chunk) : c.fault = .object ↔ c.isObject = true := by
  cases h : c.isObject <;> simp [fault, h]

theorem writeChunks_cons_fits {chunk : Chunk} (h : chunk.bytes.length ≤ n) (rest : List Chunk) :
    writeChunks (some n) (chunk :: rest) =
      (chunk.bytes ++ (writeChunks (some (n - chunk.bytes.length)) rest).1,
        (writeChunks (some (n - chunk.bytes.length)) rest).2) := by
  simp only [writeChunks]
  exact if_pos h

theorem writeChunks_cons_full {chunk : Chunk} (h : n < chunk.bytes.length) (rest : List Chunk) :
    writeChunks (some n) (chunk :: rest) = (chunk.bytes.take n, some 0, some chunk.fault) := by
  simp only [writeChunks]
  exact if_neg (Nat.not_le_of_lt h)

theorem writeChunks_fits {chunks : List Chunk} (h : (chunks.flatMap Chunk.bytes).length ≤ n) :
    writeChunks (some n) chunks = (chunks.flatMap Chunk.bytes,
      some (n - (chunks.flatMap Chunk.bytes).length), none) := by
  induction chunks generalizing n with
  | nil => rfl
  | cons chunk rest ih =>
    simp only [List.flatMap_cons, List.length_append] at h ⊢
    have hrest : (rest.flatMap Chunk.bytes).length ≤ n - chunk.bytes.length := by omega
    rw [writeChunks_cons_fits (by omega), ih hrest, Nat.sub_add_eq]

theorem writeChunks_full {chunks : List Chunk} (h : n < (chunks.flatMap Chunk.bytes).length) :
    ∃ before chunk after offset, chunks = before ++ chunk :: after ∧
      n = (before.flatMap Chunk.bytes).length + offset ∧ offset < chunk.bytes.length ∧
      writeChunks (some n) chunks =
        ((chunks.flatMap Chunk.bytes).take n, some 0, some chunk.fault) := by
  induction chunks generalizing n with
  | nil => cases h
  | cons chunk rest ih =>
    simp only [List.flatMap_cons, List.length_append] at h ⊢
    by_cases hfits : chunk.bytes.length ≤ n
    · obtain ⟨before, last, after, offset, rfl, hn, hlt, hwrite⟩ :=
        ih (n := n - chunk.bytes.length) (by omega)
      refine ⟨chunk :: before, last, after, offset, rfl, ?_, hlt, ?_⟩
      · rw [List.flatMap_cons, List.length_append]
        omega
      · rw [writeChunks_cons_fits hfits, hwrite, List.take_append, List.take_of_length_le hfits]
    · have hfull : n < chunk.bytes.length := Nat.lt_of_not_le hfits
      refine ⟨[], chunk, rest, n, rfl, (Nat.zero_add n).symm, hfull, ?_⟩
      rw [writeChunks_cons_full hfull, List.take_append_of_le_length (Nat.le_of_lt hfull)]

/-- Where a byte of what is printed stands: in which part of what is shown of which event. -/
structure Spot (style : Style) (events : List Event) (n : Nat) where
  happened : List Event
  event : Event
  later : List Event
  before : List Chunk
  chunk : Chunk
  after : List Chunk
  offset : Nat
  events_eq : events = happened ++ event :: later
  chunks_eq : event.chunks style = before ++ chunk :: after
  offset_lt : offset < chunk.bytes.length
  place : n = (shownBytes style happened).length + (before.flatMap Chunk.bytes).length + offset

section
variable {style : Style} {events : List Event}

theorem printEvents_fits (h : (shownBytes style events).length ≤ n)
    (layers : List (String × Path)) :
    printEvents style (some n) layers events =
      ⟨shownBytes style events, some (n - (shownBytes style events).length), none⟩ := by
  induction events generalizing n layers with
  | nil => rfl
  | cons event rest ih =>
    rw [shownBytes_cons, List.length_append] at h ⊢
    have hevent : ((event.chunks style).flatMap Chunk.bytes).length ≤ n := by omega
    simp only [printEvents, writeChunks_fits hevent]
    rw [ih (by omega), Nat.sub_add_eq]

theorem printEvents_full (h : n < (shownBytes style events).length)
    (layers : List (String × Path)) :
    ∃ spot : Spot style events n, printEvents style (some n) layers events =
      ⟨(shownBytes style events).take n, some 0,
        some ⟨spot.chunk.fault, spot.event, spot.happened.foldl Event.layers layers⟩⟩ := by
  induction events generalizing n layers with
  | nil => cases h
  | cons event rest ih =>
    rw [shownBytes_cons, List.length_append] at h
    by_cases hfits : ((event.chunks style).flatMap Chunk.bytes).length ≤ n
    · -- an event that fits leaves the rest of the room to the others
      obtain ⟨spot, hspot⟩ := ih (n := n - ((event.chunks style).flatMap Chunk.bytes).length)
        (by omega) (event.layers layers)
      have hplace := spot.place
      refine ⟨{ spot with
        happened := event :: spot.happened
        events_eq := congrArg (event :: ·) spot.events_eq
        place := ?_ }, ?_⟩
      · rw [shownBytes_cons, List.length_append]
        omega
      · simp only [printEvents, writeChunks_fits hfits, hspot, List.foldl_cons]
        rw [shownBytes_cons, List.take_append, List.take_of_length_le hfits]
    · have hfull := Nat.lt_of_not_le hfits
      obtain ⟨before, chunk, after, offset, hchunks, hn, hlt, hwrite⟩ := writeChunks_full hfull
      refine ⟨⟨[], event, rest, before, chunk, after, offset, rfl, hchunks, hlt, ?_⟩, ?_⟩
      · rw [hn]
        simp [shownBytes]
      · simp only [printEvents, hwrite, List.foldl_nil]
        rw [shownBytes_cons, List.take_append_of_le_length (Nat.le_of_lt hfull)]

end

-- ---------------------------------------------------------------------------
-- Objects
-- ---------------------------------------------------------------------------

namespace Record

def object (r : Record) : List UInt8 := encodeUtf8 r.toJson.render.toList

def jsonLines (records : List Record) : List UInt8 :=
  records.flatMap fun r => r.object ++ [0x0A]

def InObject (records : List Record) (n : Nat) : Prop :=
  ∃ before record after offset, records = before ++ record :: after ∧
    n = (jsonLines before).length + offset ∧ offset < record.object.length

theorem object_unbroken (r : Record) : 0x0A ∉ r.object := by
  refine Text.unbroken_encodeUtf8 fun hm => ?_
  exact absurd (r.toJson.render_unbroken _ hm) (by decide)

theorem InObject.byte {records : List Record} (h : InObject records n) :
    (jsonLines records)[n]? ≠ some 0x0A := by
  obtain ⟨before, record, after, offset, rfl, rfl, hlt⟩ := h
  intro hbyte
  refine record.object_unbroken (List.mem_of_getElem? (i := offset) ?_)
  rw [jsonLines, List.flatMap_append, List.flatMap_cons, List.append_assoc] at hbyte
  rwa [← jsonLines, List.getElem?_append_right (Nat.le_add_right _ _), Nat.add_sub_cancel_left,
    List.getElem?_append_left hlt] at hbyte

end Record

theorem shownBytes_json {style : Style} (h : style.format = .json) (events : List Event) :
    shownBytes style events =
      Record.jsonLines ((Run.records events).filter Record.hasFindings) := by
  obtain ⟨format, color, annotate, verbose⟩ := style
  cases h
  have hquiet : Style.isChatty ⟨.json, color, annotate, verbose⟩ = false := by simp [Style.isChatty]
  rw [shownBytes, chunks_records hquiet, Record.jsonLines, ← flatMap_hasFindings]
  exact congrArg (List.flatMap · _) (funext (Record.bytes_json color annotate verbose))

theorem Record.textChunks_text (style : Style) (r : Record) :
    ∀ chunk ∈ r.textChunks style, chunk.isObject = false := by
  cases hd : r.diagnostics.isEmpty <;> cases hs : style.annotate && r.physical <;>
    cases hc : r.closes <;> simp [textChunks, textLine, hd, hs, hc]

namespace Event

variable {style : Style}

theorem chunks_text (h : style.format = .text) (event : Event) :
    ∀ chunk ∈ event.chunks style, chunk.isObject = false := by
  cases event with
  | before p => cases hc : style.isChatty <;> simp [chunks, textLine, hc]
  | line record p =>
    simp only [chunks, Record.chunks, h]
    exact record.textChunks_text style
  | enter text enclosing target p => cases hc : style.isChatty <;> simp [chunks, textLine, hc]
  | leave => simp [chunks]

/-- As JSON, a line with findings is an object and the end of a line, and nothing else is shown. -/
theorem chunks_json (h : style.format = .json) (event : Event) :
    event.chunks style = [] ∨ ∃ record p, event = .line record p ∧ record.hasFindings = true ∧
      event.chunks style = [⟨record.toJson.render, true⟩, ⟨"\n", false⟩] := by
  have hquiet : style.isChatty = false := by simp [Style.isChatty, h]
  cases event with
  | before p => simp [chunks, hquiet]
  | line record p =>
    cases hd : record.diagnostics.isEmpty with
    | true => simp [chunks, Record.chunks, Record.jsonChunks, h, hd]
    | false =>
      have hfound : record.hasFindings = true := by simp only [Record.hasFindings, hd, Bool.not_false]
      have hshown : chunks style (.line record p) =
          [⟨record.toJson.render, true⟩, ⟨"\n", false⟩] := by
        simp [chunks, Record.chunks, Record.jsonChunks, h, hd]
      exact .inr ⟨record, p, rfl, hfound, hshown⟩
  | enter text enclosing target p => simp [chunks, hquiet]
  | leave => simp [chunks]

end Event

namespace Spot

variable {style : Style} {events : List Event}

theorem byte (spot : Spot style events n) :
    (shownBytes style events)[n]? = spot.chunk.bytes[spot.offset]? := by
  obtain ⟨happened, event, later, before, chunk, after, offset, rfl, hchunks, hlt, rfl⟩ := spot
  dsimp only
  rw [shownBytes_append, shownBytes_cons, hchunks, List.flatMap_append, List.flatMap_cons,
    Nat.add_assoc, List.getElem?_append_right (Nat.le_add_right _ _), Nat.add_sub_cancel_left,
    List.append_assoc, List.getElem?_append_right (Nat.le_add_right _ _), Nat.add_sub_cancel_left,
    List.append_assoc, List.getElem?_append_left hlt]

/-- A byte is written as part of an object if the style is JSON and it stands in an object. -/
theorem object_iff (spot : Spot style events n) :
    spot.chunk.isObject = true ↔ style.format = .json ∧
      Record.InObject ((Run.records events).filter Record.hasFindings) n := by
  have hbyte := spot.byte
  obtain ⟨happened, event, later, before, chunk, after, offset, rfl, hchunks, hlt, rfl⟩ := spot
  dsimp only at hbyte ⊢
  cases hf : style.format with
  | text =>
    have htext := event.chunks_text hf chunk (by simp [hchunks])
    simp [htext]
  | json =>
    rcases event.chunks_json hf with hnone | ⟨record, p, rfl, hfound, hshown⟩
    · simp [hnone] at hchunks
    · rw [hshown] at hchunks
      rcases before with _ | ⟨first, _ | ⟨second, rest⟩⟩
      · -- the object of the line
        simp only [List.nil_append, List.cons.injEq] at hchunks
        obtain ⟨rfl, -⟩ := hchunks
        refine iff_of_true rfl ⟨rfl, (Run.records happened).filter Record.hasFindings, record,
          (Run.records later).filter Record.hasFindings, offset, ?_, ?_, hlt⟩
        · simp [Run.records, hfound]
        · rw [shownBytes_json hf]
          rfl
      · -- the end of the line, which no object contains
        simp only [List.cons_append, List.nil_append, List.cons.injEq] at hchunks
        obtain ⟨-, rfl, -⟩ := hchunks
        have hend : Chunk.bytes ⟨"\n", false⟩ = [0x0A] := rfl
        rw [hend, List.length_singleton, Nat.lt_one_iff] at hlt
        subst hlt
        rw [hend, shownBytes_json hf] at hbyte
        refine iff_of_false (by simp) fun hin => hin.2.byte hbyte
      · simp at hchunks

end Spot

-- ---------------------------------------------------------------------------
-- Files
-- ---------------------------------------------------------------------------

namespace Session

/-- A writer that takes `n` bytes in all. If that is enough, the report and what is remembered are
the same as without a limit. If not, the output is what fits, and the file fails where the first
byte that does not fit should have been written: inside of the includes that have been entered and
not finished there, and with a fault that tells an object of the JSON lines from all else. It is
the same whether the trace is printed at the end or line by line. -/
theorem full_writers (p : Processor) (checks : Checks) (style : Style) (files : Files)
    (path : Path) (n : Nat) :
    let run := Run.ofFile checks files path p
    let found := (Run.records run.events).filter Record.hasFindings
    let lint (room : Option Nat) := lint ⟨p, room⟩ checks style files path
    let output := (lint none).1.output
    (∀ room, live ⟨p, room⟩ checks style files path = lint room) ∧
      (style.format = .json → output = Record.jsonLines found) ∧
      (output.length ≤ n →
        lint (some n) = ((lint none).1, ⟨(lint none).2.processor, some (n - output.length)⟩)) ∧
      (n < output.length → ∃ (spot : Spot style run.events n) (layers : List (String × Path))
        (fault : WriteFault) (q : Processor),
          Run.Amid checks files path spot.happened layers ∧ spot.event.state? = some q ∧
          lint (some n) =
            (⟨.failure (.around layers (.unwritable fault)), output.take n⟩, ⟨q, some 0⟩) ∧
          (fault = .object ↔ style.format = .json ∧ Record.InObject found n) ∧
          (output[n]? = some 0x0A → fault = .text)) := by
  intro run found lint output
  have hnone : lint none = (⟨run.outcome, shownBytes style run.events⟩, ⟨run.processor, none⟩) :=
    lint_none p checks style files path
  have houtput : output = shownBytes style run.events := congrArg (·.1.output) hnone
  refine ⟨fun room => lint_live ⟨p, room⟩ checks style files path,
    fun hj => houtput.trans (shownBytes_json hj run.events), fun hfits => ?_, fun hfull => ?_⟩
  · rw [houtput] at hfits
    have hprinted := printEvents_fits hfits []
    have hstop : (printEvents style (some n) [] run.events).stop = none := by rw [hprinted]
    rw [hnone, houtput]
    refine (lint_of_printed rfl hstop).trans ?_
    rw [hprinted]
  · rw [houtput] at hfull
    obtain ⟨spot, hprinted⟩ := printEvents_full hfull []
    have hstop := congrArg Printed.stop hprinted
    obtain ⟨q, -, -, hq, -, -⟩ := shownEvents_of_stopped hstop
    have hnested := (Run.file_nests checks files (Run.levelsFor checks.settings) 0 path p).nested
    obtain ⟨layers, hamid⟩ := hnested.amid ⟨_, spot.events_eq.symm⟩
    have hobject := (spot.chunk.fault_eq_object_iff).trans spot.object_iff
    have hlayers : (spot.happened.foldl Event.layers []).reverse = layers := by
      rw [hamid.foldl_layers, List.append_nil, List.reverse_reverse]
    refine ⟨spot, layers, spot.chunk.fault, q, hamid, hq, ?_, hobject, fun hbyte => ?_⟩
    · refine (lint_of_stopped rfl hstop).trans ?_
      rw [hprinted, Stop.failure_eq, hlayers, hq, houtput]
      rfl
    · cases hfault : spot.chunk.fault with
      | text => rfl
      | object =>
        obtain ⟨hj, hin⟩ := hobject.mp hfault
        rw [houtput, shownBytes_json hj] at hbyte
        exact absurd hbyte hin.byte

/-- A remark with a blank at its end, in a file that is included. -/
def remarked : FileTree where
  entries := [
    (["main.txt"], .file (encodeUtf8 "IncludeFile b.txt\n".toList)),
    (["b.txt"], .file (encodeUtf8 "# \n".toList))]

def remarkedChecks : Checks := ⟨{ whitespace := true }, .pages fun _ => .ok none⟩

def lintRemarked (room : Option Nat) : Report × Session :=
  lint ⟨{}, room⟩ remarkedChecks { format := .json } remarked.find "main.txt"

def remark : Record where
  location := "b.txt:1"
  line := "# "
  closes := true
  diagnostics := [.trailingBlank]
  physical := true

theorem full_writers_line_end :
    (lintRemarked none).1.output = remark.object ++ [0x0A] ∧
      (∃ layers, (lintRemarked (some remark.object.length)).1 =
        ⟨.failure (.around layers (.unwritable .text)), remark.object⟩) ∧
      (lintRemarked (some (remark.object.length + 1))).1 = (lintRemarked none).1 := by
  have hlint : ∀ room, lintRemarked room =
      lint ⟨{}, room⟩ remarkedChecks { format := .json } remarked.find "main.txt" := fun _ => rfl
  have hrecords : (Run.records (Run.ofFile remarkedChecks remarked.find "main.txt" {}).events).filter
      Record.hasFindings = [remark] := by decide +kernel
  have hjson := (full_writers {} remarkedChecks { format := .json } remarked.find "main.txt" 0).2.1
  have houtput : (lintRemarked none).1.output = remark.object ++ [0x0A] := by
    rw [hlint, hjson rfl, hrecords]
    exact List.append_nil _
  refine ⟨houtput, ?_⟩
  generalize remark.object = object at houtput
  have hless := full_writers {} remarkedChecks { format := .json } remarked.find "main.txt"
    object.length
  have hall := full_writers {} remarkedChecks { format := .json } remarked.find "main.txt"
    (object.length + 1)
  simp only [← hlint, houtput, List.length_append, List.length_singleton] at hless hall
  obtain ⟨spot, layers, fault, q, -, -, hcut, -, hend⟩ := hless.2.2.2 (Nat.lt_add_one _)
  have hfault : fault = .text := hend (by simp)
  have henough := hall.2.2.1 (Nat.le_refl _)
  rw [hcut, henough, hfault]
  exact ⟨⟨layers, by rw [List.take_left]⟩, rfl⟩

end Session

end StanzaLint
