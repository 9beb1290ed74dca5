import StanzaLint.Proofs.Additivity
import StanzaLint.Proofs.JsonReading
import StanzaLint.Proofs.Utf8

/-!
# Every format reports the same records

A run gives records of its lines, and no style of printing changes them. What is
printed as JSON can be read back, line by line, into the records with findings
(`jsonLines_read`). Printed as text, the same records are told in the same order,
with lines in between on demand (`Record.bytes_text`). A run that comes to its end has
counted the findings of its records (`formats_agree`).
-/

namespace StanzaLint

open Text (encodeUtf8 fileLines)

-- ---------------------------------------------------------------------------
-- What is read from JSON
-- ---------------------------------------------------------------------------

namespace Text.Json

def string? : Json → Option String
  | .string s => some s
  | _ => none

def bool? : Json → Option Bool
  | .bool b => some b
  | _ => none

def array? : Json → Option (List Json)
  | .array items => some items
  | _ => none

end Text.Json

structure Shown where
  location : String
  line : String
  stanza : Bool
  /-- Codes and messages. -/
  diagnostics : List (String × String)
  deriving DecidableEq, Repr

namespace Shown

def diagnostic? (v : Text.Json) : Option (String × String) := do
  let code ← (v.field? "code").bind Text.Json.string?
  let message ← (v.field? "message").bind Text.Json.string?
  return (code, message)

def ofJson? (v : Text.Json) : Option Shown := do
  let location ← (v.field? "location").bind Text.Json.string?
  let line ← (v.field? "line").bind Text.Json.string?
  let stanza ← (v.field? "stanza").bind Text.Json.bool?
  let items ← (v.field? "diagnostics").bind Text.Json.array?
  let diagnostics ← items.mapM diagnostic?
  return ⟨location, line, stanza, diagnostics⟩

def read? (text : String) : Option Shown := (Text.Json.read? text.toList).bind ofJson?

end Shown

namespace Record

def shown (r : Record) : Shown :=
  ⟨r.location, r.line, r.closes, r.diagnostics.map fun d => (d.code.text, d.message)⟩

theorem ofJson?_toJson (r : Record) : Shown.ofJson? r.toJson = some r.shown := by
  have hd : (r.diagnostics.map Diagnostic.toJson).mapM Shown.diagnostic? =
      some (r.diagnostics.map fun d => (d.code.text, d.message)) := by
    induction r.diagnostics with
    | nil => rfl
    | cons d ds ih =>
      have h : Shown.diagnostic? d.toJson = some (d.code.text, d.message) := by
        simp [Shown.diagnostic?, Diagnostic.toJson, Text.Json.field?, List.lookup_cons,
          Text.Json.string?]
      simp [List.mapM_cons, h, ih]
  simp [Shown.ofJson?, toJson, Text.Json.field?, List.lookup_cons, Text.Json.string?,
    Text.Json.bool?, Text.Json.array?, hd, shown]

theorem read?_toJson (r : Record) : Shown.read? r.toJson.render = some r.shown := by
  rw [Shown.read?, Text.Json.read?_render, Option.bind_some, ofJson?_toJson]

-- ---------------------------------------------------------------------------
-- Records as text
-- ---------------------------------------------------------------------------

/-- Findings stand behind an arrow: up to the stanza that the line closes, or back to the line. -/
def told (color : Bool) (r : Record) : String :=
  let tint (text : String) := if color then "\x1b[33m" ++ text ++ "\x1b[0m" else text
  let findings := ", ".intercalate (r.diagnostics.map (·.text))
  if r.closes then r.location ++ ": " ++ tint ("↑ " ++ findings) ++ "\n"
  else r.location ++ ": " ++ r.line ++ " " ++ tint ("← " ++ findings) ++ "\n"

/-- The line that stands for a record without findings, or sets off the stanza after one with
findings. Only lines of the file have it. -/
def annotation (r : Record) : String :=
  if !r.physical then ""
  else if r.diagnostics.isEmpty then r.location ++ ": " ++ r.line ++ "\n"
  else if r.closes then r.location ++ ":\n"
  else ""

def hasFindings (r : Record) : Bool := !r.diagnostics.isEmpty

def bytes (style : Style) (r : Record) : List UInt8 := (r.chunks style).flatMap Chunk.bytes

theorem bytes_json (color annotate verbose : Bool) (r : Record) :
    r.bytes ⟨.json, color, annotate, verbose⟩ =
      if r.hasFindings then encodeUtf8 r.toJson.render.toList ++ [0x0A] else [] := by
  cases hd : r.diagnostics.isEmpty with
  | true => simp [bytes, chunks, jsonChunks, hasFindings, hd]
  | false =>
    have hend : encodeUtf8 "\n".toList = [0x0A] := rfl
    simp [bytes, chunks, jsonChunks, hasFindings, hd, Chunk.bytes, ← hend]

theorem bytes_text (style : Style) (ht : style.format = .text) (r : Record) :
    r.bytes style = encodeUtf8 ((if r.hasFindings then r.told style.color else "") ++
      (if style.annotate then r.annotation else "")).toList := by
  have hpaint : ∀ text, style.paint Style.yellow text =
      if style.color then "\x1b[33m" ++ text ++ "\x1b[0m" else text := fun text => rfl
  simp only [bytes, chunks, ht, textChunks, told, annotation, hasFindings, hpaint, findings]
  cases r.diagnostics.isEmpty <;> cases r.closes <;> cases r.physical <;> cases style.annotate <;>
    simp [Chunk.bytes, textLine, encodeUtf8]

end Record

theorem chunks_records {style : Style} (h : style.isChatty = false) (events : List Event) :
    (events.flatMap (Event.chunks style)).flatMap Chunk.bytes =
      (Run.records events).flatMap (Record.bytes style) := by
  induction events with
  | nil => rfl
  | cons event rest ih =>
    rw [List.flatMap_cons, List.flatMap_append, ih]
    cases event <;> simp [Event.chunks, Run.records, Record.bytes, h]

-- ---------------------------------------------------------------------------
-- The output of a file
-- ---------------------------------------------------------------------------

theorem flatMap_hasFindings (f : Record → List UInt8) (records : List Record) :
    (records.flatMap fun r => if r.hasFindings then f r else []) =
      (records.filter Record.hasFindings).flatMap f := by
  induction records with
  | nil => rfl
  | cons r rest ih => cases h : r.hasFindings <;> simp [h, ih]

theorem jsonLines_read (records : List Record) :
    let output := (records.map fun r => r.toJson.render).flatMap fun text =>
      encodeUtf8 text.toList ++ [0x0A]
    fileLines output = records.map (fun r => r.toJson.render) ∧
      (fileLines output).map Shown.read? = records.map fun r => some r.shown := by
  intro output
  have hlines : fileLines output = records.map fun r => r.toJson.render := by
    refine Text.fileLines_written _ fun text ht c hc => ?_
    obtain ⟨r, -, rfl⟩ := List.mem_map.mp ht
    have hu := r.toJson.render_unbroken c hc
    constructor
    · rintro rfl
      exact absurd hu (by decide)
    · rintro rfl
      exact absurd hu (by decide)
  refine ⟨hlines, ?_⟩
  rw [hlines, List.map_map]
  refine List.map_congr_left fun r _ => ?_
  rw [Function.comp_apply, r.read?_toJson]

def Settings.styled (s : Settings) (style : Style) : Settings :=
  { s with annotate := style.annotate, verbose := style.verbose }

theorem Run.ofFile_styled (settings : Settings) (titles : TitleLookup) (style : Style)
    (files : Files) (path : Path) (p : Processor) :
    ofFile ⟨settings.styled style, titles⟩ files path p =
      ofFile ⟨settings, titles⟩ files path p := by
  have hm : ∀ w, (settings.styled style).makes w = settings.makes w := by
    intro w
    cases w <;> rfl
  have hl : levelsFor (settings.styled style) = levelsFor settings := rfl
  rw [ofFile, ofFile, hl, file_congr hm rfl]

/-- Whatever the style, there is one sequence of records, and one outcome. As JSON, the records with
findings are printed one a line, and can be read back. As text they are told in the same order, with
annotations after them and in between on demand. A run that comes to its end has counted what its
records hold. -/
theorem formats_agree (settings : Settings) (titles : TitleLookup) (files : Files) (path : Path)
    (p : Processor) :
    let run := Run.ofFile ⟨settings, titles⟩ files path p
    let records := Run.records run.events
    let reports (style : Style) :=
      (Session.lint ⟨p, none⟩ ⟨settings.styled style, titles⟩ style files path).1
    (∀ style, (reports style).outcome = run.outcome) ∧
    (∀ color annotate verbose,
      let output := (reports ⟨.json, color, annotate, verbose⟩).output
      output = (fileLines output).flatMap (fun text => encodeUtf8 text.toList ++ [0x0A]) ∧
        (∀ text ∈ fileLines output, ∀ c ∈ text.toList, 0x20 ≤ c.toNat) ∧
        (fileLines output).map Shown.read? =
          (records.filter Record.hasFindings).map fun r => some r.shown) ∧
    (∀ color, (reports { color }).output =
      (records.filter Record.hasFindings).flatMap fun r => encodeUtf8 (r.told color).toList) ∧
    (∀ color, (reports { color, annotate := true }).output =
      records.flatMap fun r =>
        encodeUtf8 ((if r.hasFindings then r.told color else "") ++ r.annotation).toList) ∧
    ∀ n, run.outcome = .count n → n = (records.flatMap Record.diagnostics).length := by
  intro run records reports
  have hreports : ∀ style, reports style =
      ⟨run.outcome, (run.events.flatMap (Event.chunks style)).flatMap Chunk.bytes⟩ := by
    intro style
    simp only [reports, Session.lint_none, Run.ofFile_styled]
    rfl
  have houtput : ∀ style : Style, style.isChatty = false →
      (reports style).output = records.flatMap (Record.bytes style) := by
    intro style hs
    rw [hreports]
    exact chunks_records hs run.events
  refine ⟨fun style => by rw [hreports], fun color annotate verbose => ?_, fun color => ?_,
    fun color => ?_, fun n hn => Run.file_counts _ _ _ _ _ _ n hn⟩
  · intro output
    have hj : output = ((records.filter Record.hasFindings).map fun r => r.toJson.render).flatMap
        fun text => encodeUtf8 text.toList ++ [0x0A] := by
      have hchatty : Style.isChatty ⟨.json, color, annotate, verbose⟩ = false := by
        simp [Style.isChatty]
      rw [List.flatMap_map, ← flatMap_hasFindings]
      exact (houtput _ hchatty).trans
        (congrArg (List.flatMap · records) (funext (Record.bytes_json color annotate verbose)))
    obtain ⟨hlines, hread⟩ := jsonLines_read (records.filter Record.hasFindings)
    rw [← hj] at hlines hread
    refine ⟨?_, ?_, hread⟩
    · rw [hlines]
      exact hj
    · intro text ht
      rw [hlines] at ht
      obtain ⟨r, -, rfl⟩ := List.mem_map.mp ht
      exact r.toJson.render_unbroken
  · rw [houtput _ rfl, ← flatMap_hasFindings]
    refine congrArg (List.flatMap · records) (funext fun r => ?_)
    rw [Record.bytes_text _ rfl]
    cases r.hasFindings <;> simp [encodeUtf8]
  · rw [houtput _ rfl]
    exact congrArg (List.flatMap · records) (funext fun r => Record.bytes_text _ rfl r)

/-- A line with a control, a quotation mark and a letter outside ASCII, and an included file. -/
def quotingTree : FileTree where
  entries := [
    (["main.txt"], .file (Text.encodeUtf8 "Option A\x01 \"é\nIncludeFile b.txt\n".toList)),
    (["b.txt"], .file (Text.encodeUtf8 "Title A\nU a\n\n".toList))]

def quotingRun : Run := Run.ofFile ⟨{}, .pages fun _ => .ok none⟩ quotingTree.find "main.txt" {}

def quotingOutput (style : Style) : List UInt8 :=
  (Session.lint {} ⟨Settings.styled {} style, .pages fun _ => .ok none⟩ style quotingTree.find
    "main.txt").1.output

theorem formats_agree_quoting :
    quotingRun.outcome = .count 2 ∧
      2 = ((Run.records quotingRun.events).flatMap Record.diagnostics).length ∧
      (fileLines (quotingOutput ⟨.json, true, true, true⟩)).map Shown.read? = [
        some ⟨"main.txt:1", "Option A\x01 \"é", false,
          [("L3008", "Option directive not in the form \"Option OPTIONNAME\"")]⟩,
        some ⟨"b.txt:2", "U a", false, [("L3006", "URL does not start with http or https")]⟩] ∧
      ∀ text ∈ fileLines (quotingOutput ⟨.json, true, true, true⟩),
        ∀ c ∈ text.toList, 0x20 ≤ c.toNat := by
  obtain ⟨-, hjson, -, -, hlength⟩ :=
    formats_agree {} (.pages fun _ => .ok none) quotingTree.find "main.txt" {}
  have hcount : quotingRun.outcome = .count 2 := by decide +kernel
  have hshown : (((Run.records quotingRun.events).filter Record.hasFindings).map
      fun r => some r.shown) = [
        some ⟨"main.txt:1", "Option A\x01 \"é", false,
          [("L3008", "Option directive not in the form \"Option OPTIONNAME\"")]⟩,
        some ⟨"b.txt:2", "U a", false, [("L3006", "URL does not start with http or https")]⟩] := by
    decide +kernel
  have houtput := hjson true true true
  exact ⟨hcount, hlength 2 hcount, houtput.2.2.trans hshown, houtput.2.1⟩

end StanzaLint
