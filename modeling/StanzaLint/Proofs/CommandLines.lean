import Mathlib.Data.List.Induction
import StanzaLint.Program
import StanzaLint.Proofs.SettingsFiles

/-!
# Writing a command line

What a run is asked for can be written in many ways: options and files in any order, as
long as the files keep theirs, and each option in any of its spellings (`Item`). Reading
gives back what was written (`read_items`, `Writes.parse`).
-/

namespace StanzaLint

def Switch.name : Switch → String
  | .annotate => "annotate"
  | .verbose => "verbose"
  | .whitespace => "whitespace"
  | .directiveCase => "case"
  | .https => "https"
  | .origins => "origins"
  | .hostnameEdits => "phe"
  | .source => "source"
  | .noFollow => "no-follow-includefile"
  | .noColor => "no-color"

def Parameter.name : Parameter → String
  | .includeDirectory => "includefile-directory"
  | .maxDepth => "max-include-depth"
  | .format => "format"
  | .settingsFile => "config"

def Format.name : Format → String
  | .text => "text"
  | .json => "json"

/-- What a switch asks for holds. No setting is about colours. -/
def Settings.isOn (settings : Settings) : Switch → Bool
  | .annotate => settings.annotate
  | .verbose => settings.verbose
  | .whitespace => settings.whitespace
  | .directiveCase => settings.directiveCase
  | .https => settings.https
  | .origins => settings.origins
  | .hostnameEdits => settings.hostnameEdits
  | .source => settings.source
  | .noFollow => !settings.followIncludes
  | .noColor => false

namespace CommandLine

-- ---------------------------------------------------------------------------
-- Values
-- ---------------------------------------------------------------------------

inductive Setting where
  | includeDirectory (path : Path)
  | maxDepth (n : Nat)
  | format (f : Format)
  | settingsFile (path : Path)
  deriving DecidableEq, Repr

def Setting.parameter : Setting → Parameter
  | .includeDirectory _ => .includeDirectory
  | .maxDepth _ => .maxDepth
  | .format _ => .format
  | .settingsFile _ => .settingsFile

/-- A number in decimal that fits into 64 bits, perhaps with a plus sign and zeros in front. -/
def IsNumeral (n : Nat) (text : List Char) : Prop :=
  n < UInt64.size ∧ ∃ sign zeros, (sign = [] ∨ sign = ['+']) ∧
    text = sign ++ (List.replicate zeros '0' ++ Nat.toDigits 10 n)

def Setting.Spelled : Setting → String → Prop
  | .includeDirectory path, text => text = path
  | .maxDepth n, text => IsNumeral n text.toList
  | .format f, text => text = f.name
  | .settingsFile path, text => text = path

def Gives (line : CommandLine) : Setting → Prop
  | .includeDirectory path => line.includeDirectory = some path
  | .maxDepth n => line.maxDepth = some n
  | .format f => line.format = some f
  | .settingsFile path => line.settingsFile = some path

def put (line : CommandLine) : Setting → CommandLine
  | .includeDirectory path => { line with includeDirectory := some path }
  | .maxDepth n => { line with maxDepth := some n }
  | .format f => { line with format := some f }
  | .settingsFile path => { line with settingsFile := some path }

def add (line : CommandLine) (files : List Path) (switches : List Switch)
    (settings : List Setting) : CommandLine :=
  settings.foldl put
    { line with files := line.files ++ files, switches := line.switches ++ switches }

section

variable {line : CommandLine}

theorem has_put (x : Setting) (p : Parameter) :
    (line.put x).has p = true ↔ line.has p = true ∨ p = x.parameter := by
  cases x <;> cases p <;> simp [put, has, Setting.parameter]

theorem gives_put {x : Setting} (hno : line.has x.parameter = false) (y : Setting) :
    (line.put x).Gives y ↔ line.Gives y ∨ y = x := by
  cases x <;> cases y <;> simp_all [put, has, Setting.parameter, Gives] <;> exact eq_comm

theorem put_with (x : Setting) (files : List Path) (switches : List Switch) :
    { line with files, switches }.put x = { line.put x with files, switches } := by
  cases x <;> rfl

theorem foldl_put_with (settings : List Setting) (files : List Path) (switches : List Switch) :
    settings.foldl put { line with files, switches } =
      { settings.foldl put line with files, switches } := by
  induction settings generalizing line with
  | nil => rfl
  | cons x settings ih => rw [List.foldl_cons, put_with, ih, List.foldl_cons]

theorem add_add (files files' : List Path) (switches switches' : List Switch)
    (settings settings' : List Setting) :
    (line.add files switches settings).add files' switches' settings' =
      line.add (files ++ files') (switches ++ switches') (settings ++ settings') := by
  simp only [add, foldl_put_with, List.foldl_append, List.append_assoc]

theorem files_add (files : List Path) (switches : List Switch) (settings : List Setting) :
    (line.add files switches settings).files = line.files ++ files := by
  rw [add, foldl_put_with]

theorem switches_add (files : List Path) (switches : List Switch) (settings : List Setting) :
    (line.add files switches settings).switches = line.switches ++ switches := by
  rw [add, foldl_put_with]

theorem has_foldl_put (settings : List Setting) (p : Parameter) :
    (settings.foldl put line).has p = true ↔
      line.has p = true ∨ p ∈ settings.map Setting.parameter := by
  induction settings generalizing line with
  | nil => simp
  | cons x settings ih => rw [List.foldl_cons, ih, has_put, or_assoc, List.map_cons, List.mem_cons]

theorem gives_foldl_put {settings : List Setting}
    (hno : ∀ x ∈ settings, line.has x.parameter = false)
    (honce : (settings.map Setting.parameter).Nodup) (y : Setting) :
    (settings.foldl put line).Gives y ↔ line.Gives y ∨ y ∈ settings := by
  induction settings generalizing line with
  | nil => simp
  | cons x settings ih =>
    obtain ⟨hx, hno⟩ := List.forall_mem_cons.mp hno
    obtain ⟨hfresh, honce⟩ := List.nodup_cons.mp honce
    have hnext (z : Setting) (hz : z ∈ settings) : (line.put x).has z.parameter = false := by
      rw [← Bool.not_eq_true, has_put, hno z hz]
      rintro (h | h)
      · cases h
      · exact hfresh (h ▸ List.mem_map_of_mem hz)
    rw [List.foldl_cons, ih hnext honce, gives_put hx, or_assoc, List.mem_cons]

theorem has_add (files : List Path) (switches : List Switch) (settings : List Setting)
    (p : Parameter) : (line.add files switches settings).has p = true ↔
      line.has p = true ∨ p ∈ settings.map Setting.parameter :=
  has_foldl_put settings p

theorem gives_add (files : List Path) (switches : List Switch) {settings : List Setting}
    (hno : ∀ x ∈ settings, line.has x.parameter = false)
    (honce : (settings.map Setting.parameter).Nodup) (y : Setting) :
    (line.add files switches settings).Gives y ↔ line.Gives y ∨ y ∈ settings := by
  have h := gives_foldl_put hno honce y
  rw [add, foldl_put_with]
  cases y <;> exact h

end

theorem digitChar_toNat (h : c.isDigit = true) : Nat.digitChar (c.toNat - 48) = c := by
  have hd : ∀ n < 10, Nat.digitChar n = Char.ofNat (n + 48) := by decide
  have hn : 48 ≤ c.toNat ∧ c.toNat ≤ 57 := by
    simpa [Char.isDigit, UInt32.le_iff_toNat_le] using h
  rw [hd _ (by omega), Nat.sub_add_cancel hn.1, Char.ofNat_toNat]

theorem digits_eq {digits : List Char} (hne : digits ≠ [])
    (hd : ∀ c ∈ digits, c.isDigit = true) : ∃ zeros, digits =
      List.replicate zeros '0' ++ Nat.toDigits 10 (Nat.ofDigitChars 10 digits 0) := by
  induction digits using List.reverseRecOn with
  | nil => exact absurd rfl hne
  | append_singleton front c ih =>
    have hc : c.isDigit = true := hd c (by simp)
    have hlt : c.toNat - 48 < 10 := by
      have hn : 48 ≤ c.toNat ∧ c.toNat ≤ 57 := by
        simpa [Char.isDigit, UInt32.le_iff_toNat_le] using hc
      omega
    have hlast : Nat.toDigits 10 (c.toNat - 48) = [c] := by
      rw [Nat.toDigits_of_lt_base hlt, digitChar_toNat hc]
    have hvalue : Nat.ofDigitChars 10 (front ++ [c]) 0 =
        10 * Nat.ofDigitChars 10 front 0 + (c.toNat - 48) := by
      rw [Nat.ofDigitChars_append]
      rfl
    by_cases hfront : front = []
    · subst hfront
      exact ⟨0, by rw [hvalue]; simpa using hlast.symm⟩
    · obtain ⟨zeros, hz⟩ := ih hfront fun d hd' => hd d (by simp [hd'])
      rw [hvalue]
      generalize Nat.ofDigitChars 10 front 0 = n at hz
      cases n with
      | zero =>
        refine ⟨zeros + 1, ?_⟩
        rw [hz, Nat.mul_zero, Nat.zero_add, hlast, List.replicate_succ']
        rfl
      | succ n =>
        refine ⟨zeros, ?_⟩
        rw [← Nat.toDigits_append_toDigits (by decide) (Nat.succ_pos n) hlt, hlast,
          ← List.append_assoc, ← hz]

theorem dropPlus_of_isDigit {digits : List Char} (h : ∀ c ∈ digits, c.isDigit = true) :
    dropPlus digits = digits := by
  cases digits with
  | nil => rfl
  | cons c digits =>
    unfold dropPlus
    split
    · next heq =>
      cases heq
      exact absurd (h '+' (by simp)) (by decide)
    · rfl

theorem numberOf?_digits {text : String} (hne : dropPlus text.toList ≠ [])
    (hd : ∀ c ∈ dropPlus text.toList, c.isDigit = true) :
    numberOf? text = if Nat.ofDigitChars 10 (dropPlus text.toList) 0 < UInt64.size
      then some (Nat.ofDigitChars 10 (dropPlus text.toList) 0) else none := by
  have hvalid : ((dropPlus text.toList).isEmpty || !(dropPlus text.toList).all Char.isDigit) =
      false := by
    simpa [hne] using hd
  have hfold : (dropPlus text.toList).foldl (fun n c => n * 10 + (c.toNat - 48)) 0 =
      Nat.ofDigitChars 10 (dropPlus text.toList) 0 := by
    simp only [Nat.mul_comm _ 10]
    rfl
  simp only [numberOf?, hvalid, hfold]
  rfl

theorem dropPlus_cases (cs : List Char) : cs = dropPlus cs ∨ cs = '+' :: dropPlus cs := by
  unfold dropPlus
  split
  · exact .inr rfl
  · exact .inl rfl

theorem ofDigitChars_zeros (zeros : Nat) :
    Nat.ofDigitChars 10 (List.replicate zeros '0') 0 = 0 := by
  induction zeros with
  | zero => rfl
  | succ zeros ih => exact ih

theorem numberOf?_eq_some_iff {text : String} :
    numberOf? text = some n ↔ IsNumeral n text.toList := by
  constructor
  · intro h
    have hvalid : dropPlus text.toList ≠ [] ∧ ∀ c ∈ dropPlus text.toList, c.isDigit = true := by
      cases hv : ((dropPlus text.toList).isEmpty || !(dropPlus text.toList).all Char.isDigit) with
      | false => simpa using hv
      | true => simp [numberOf?, hv] at h
    rw [numberOf?_digits hvalid.1 hvalid.2] at h
    by_cases hlt : Nat.ofDigitChars 10 (dropPlus text.toList) 0 < UInt64.size
    · rw [if_pos hlt, Option.some.injEq] at h
      subst h
      obtain ⟨zeros, hz⟩ := digits_eq hvalid.1 hvalid.2
      rcases dropPlus_cases text.toList with htext | htext
      · exact ⟨hlt, [], zeros, .inl rfl, by rw [← hz]; exact htext⟩
      · exact ⟨hlt, ['+'], zeros, .inr rfl, by rw [← hz]; exact htext⟩
    · rw [if_neg hlt] at h
      cases h
  · rintro ⟨hlt, sign, zeros, hsign, htext⟩
    have hdigits : ∀ c ∈ List.replicate zeros '0' ++ Nat.toDigits 10 n, c.isDigit = true := by
      intro c hc
      rcases List.mem_append.mp hc with hc | hc
      · rw [List.eq_of_mem_replicate hc]
        rfl
      · exact Nat.isDigit_of_mem_toDigits (by decide) (by decide) hc
    have hdrop : dropPlus text.toList = List.replicate zeros '0' ++ Nat.toDigits 10 n := by
      rcases hsign with rfl | rfl
      · rw [htext, List.nil_append, dropPlus_of_isDigit hdigits]
      · rw [htext]
        rfl
    have hvalue : Nat.ofDigitChars 10 (List.replicate zeros '0' ++ Nat.toDigits 10 n) 0 = n := by
      rw [Nat.ofDigitChars_append, ofDigitChars_zeros,
        Nat.ofDigitChars_toDigits (by decide) (by decide)]
    rw [numberOf?_digits (by simp [hdrop]) (hdrop ▸ hdigits), hdrop, hvalue, if_pos hlt]

theorem assign_spelled {line : CommandLine} {setting : Setting} {text : String}
    (hs : setting.Spelled text) (hne : text ≠ "") (hno : line.has setting.parameter = false) :
    line.assign setting.parameter text = .ok (line.put setting) := by
  have hpath : pathOf? text = some text := by simp [pathOf?, hne]
  unfold assign
  rw [hno]
  cases setting with
  | includeDirectory path =>
    cases hs
    simp [Setting.parameter, hpath, put]
  | maxDepth n => simp [Setting.parameter, numberOf?_eq_some_iff.mpr hs, put]
  | format f =>
    cases hs
    cases f <;> rfl
  | settingsFile path =>
    cases hs
    simp [Setting.parameter, hpath, put]

-- ---------------------------------------------------------------------------
-- Words
-- ---------------------------------------------------------------------------

inductive Item where
  | file (word : String)
  /-- `--name` -/
  | switch (s : Switch)
  /-- `-v` -/
  | letter
  /-- `--name text` -/
  | apart (setting : Setting) (text : String)
  /-- `--name=text` -/
  | joined (setting : Setting) (text : String)
  /-- `-f text`, or `-vf text` -/
  | letterApart (verbose : Bool) (f : Format)
  /-- `-ftext`, or `-vftext` -/
  | letterAttached (verbose : Bool) (f : Format)
  /-- `-f=text`, or `-vf=text` -/
  | letterJoined (verbose : Bool) (f : Format)
  deriving DecidableEq, Repr

namespace Item

def letters (verbose : Bool) : String := if verbose then "-vf" else "-f"

def words : Item → List String
  | .file word => [word]
  | .switch s => ["--" ++ s.name]
  | .letter => ["-v"]
  | .apart setting text => ["--" ++ setting.parameter.name, text]
  | .joined setting text => ["--" ++ setting.parameter.name ++ "=" ++ text]
  | .letterApart verbose f => [letters verbose, f.name]
  | .letterAttached verbose f => [letters verbose ++ f.name]
  | .letterJoined verbose f => [letters verbose ++ "=" ++ f.name]

def files : Item → List Path
  | .file word => [word]
  | _ => []

def switches : Item → List Switch
  | .switch s => [s]
  | .letter => [.verbose]
  | .letterApart verbose _ | .letterAttached verbose _ | .letterJoined verbose _ =>
    if verbose then [.verbose] else []
  | _ => []

def settings : Item → List Setting
  | .apart setting _ | .joined setting _ => [setting]
  | .letterApart _ f | .letterAttached _ f | .letterJoined _ f => [.format f]
  | _ => []

def IsPlain (word : String) : Prop := word ≠ "" ∧ word.toList.head? ≠ some '-'

/-- What is written is what is meant, and is not taken for something else. -/
def WellFormed : Item → Prop
  | .file word => word = "-" ∨ IsPlain word
  | .apart setting text | .joined setting text => setting.Spelled text ∧ IsPlain text
  | _ => True

def addTo (line : CommandLine) (item : Item) : CommandLine :=
  line.add item.files item.switches item.settings

end Item

-- ---------------------------------------------------------------------------
-- Reading
-- ---------------------------------------------------------------------------

namespace Reader

section

variable {r : Reader} {line : CommandLine}

theorem switch_ok (h : r.settle = .ok line) (hs : s ∉ line.switches) :
    r.switch s = .ok { line := { line with switches := line.switches ++ [s] } } := by
  simp [switch, h, hs, bind, Except.bind]

theorem parameter_none (h : r.settle = .ok line) (p : Parameter) :
    r.parameter p none = .ok { line, pending := .parameter p none } := by
  simp [parameter, h, bind, Except.bind]

theorem parameter_some (h : r.settle = .ok line) (ha : line.assign p text = .ok line') :
    r.parameter p (some text) = .ok { line := line' } := by
  simp [parameter, h, ha, bind, Except.bind]

theorem file_ok (h : r.settle = .ok line) (hw : w ≠ "") : ∃ next, r.file w = .ok next ∧
    next.settle = .ok { line with files := line.files ++ [w] } := by
  obtain ⟨before, pending⟩ := r
  cases pending with
  | nothing =>
    cases h
    exact ⟨_, rfl, by simp [settle, hw]⟩
  | files words =>
    by_cases hempty : words.any (·.isEmpty) = true
    · simp [settle, hempty] at h
    · simp only [settle, if_neg hempty] at h
      cases h
      exact ⟨_, rfl, by simp_all [settle]⟩
  | parameter p value =>
    refine ⟨{ line, pending := .files [w] }, ?_, by simp [settle, hw]⟩
    simp only [file, h, bind, Except.bind]

theorem word_eq_file (h : r.settle = .ok line) (w : String) : r.word w = r.file w := by
  obtain ⟨before, pending⟩ := r
  cases pending with
  | nothing => rfl
  | files words => rfl
  | parameter p value =>
    cases value with
    | none => cases h
    | some value => rfl

theorem files_ok (h : r.settle = .ok line) {words : List String} (hw : ∀ w ∈ words, w ≠ "") :
    ∃ last, words.foldlM file r = .ok last ∧ last.settle = .ok (line.add words [] []) := by
  induction words generalizing r line with
  | nil => exact ⟨r, rfl, by simpa [add] using h⟩
  | cons w words ih =>
    rw [List.forall_mem_cons] at hw
    obtain ⟨next, hnext, hsettle⟩ := file_ok h hw.1
    obtain ⟨last, hlast, hfiles⟩ := ih hsettle hw.2
    refine ⟨last, ?_, by simpa [add] using hfiles⟩
    rw [List.foldlM_cons, hnext]
    exact hlast

theorem read_plain (hw : w = "-" ∨ Item.IsPlain w) (rest : List String) :
    read r (w :: rest) = r.word w >>= (read · rest) := by
  rcases hw with rfl | hw
  · rfl
  · rw [read]
    split
    · next h => exact absurd (by rw [h]; rfl) hw.2
    · next h => exact absurd (by rw [h]; rfl) hw.2
    · next h => exact absurd (by rw [h]; rfl) hw.2
    · rfl

theorem splitValue_plain {name : List Char} (h : '=' ∉ name) :
    splitValue name = (String.ofList name, none) := by
  have hname : ∀ c ∈ name, (c != '=') = true := fun c hc => by
    simpa using fun he : c = '=' => h (he ▸ hc)
  simp only [splitValue, Text.span_self hname]

theorem splitValue_joined {name : List Char} (h : '=' ∉ name) (text : List Char) :
    splitValue (name ++ '=' :: text) = (String.ofList name, some (String.ofList text)) := by
  have hname : ∀ c ∈ name, (c != '=') = true := fun c hc => by
    simpa using fun he : c = '=' => h (he ▸ hc)
  have htext : ('=' :: text).head?.all (fun c => !(c != '=')) = true := rfl
  simp only [splitValue, Text.span_append hname htext]

structure IsName (name : String) : Prop where
  ne_empty : name ≠ ""
  no_equals : '=' ∉ name.toList

theorem read_named (hn : IsName name) (rest : List String) :
    read r (("--" ++ name) :: rest) = r.long name none >>= (read · rest) := by
  have hne : name.toList ≠ [] := by simpa using hn.ne_empty
  obtain ⟨c, cs, hcs⟩ := List.exists_cons_of_ne_nil hne
  have hw : ("--" ++ name).toList = '-' :: '-' :: c :: cs := by rw [String.toList_append, hcs]; rfl
  have hs : splitValue (c :: cs) = (name, none) := by
    rw [← hcs, splitValue_plain hn.no_equals, String.ofList_toList]
  simp [read, hw, hs]

theorem read_joined (hn : IsName name) (text : String) (rest : List String) :
    read r (("--" ++ name ++ "=" ++ text) :: rest) =
      r.long name (some text) >>= (read · rest) := by
  have hne : name.toList ≠ [] := by simpa using hn.ne_empty
  obtain ⟨c, cs, hcs⟩ := List.exists_cons_of_ne_nil hne
  have hw : ("--" ++ name ++ "=" ++ text).toList =
      '-' :: '-' :: c :: (cs ++ '=' :: text.toList) := by
    simp only [String.toList_append, hcs]
    simp
  have hs : splitValue (c :: (cs ++ '=' :: text.toList)) = (name, some text) := by
    rw [← List.cons_append, ← hcs, splitValue_joined hn.no_equals, String.ofList_toList,
      String.ofList_toList]
  simp [read, hw, hs]

theorem switch_isName (s : Switch) : IsName s.name := by
  cases s <;> exact ⟨by decide, by decide⟩

theorem parameter_isName (p : Parameter) : IsName p.name := by
  cases p <;> exact ⟨by decide, by decide⟩

theorem long_switch (s : Switch) : r.long s.name none = r.switch s := by
  cases s <;> rfl

theorem long_parameter (p : Parameter) (value : Option String) :
    r.long p.name value = r.parameter p value := by
  cases p <;> rfl

theorem read_switch (h : r.settle = .ok line) (hs : s ∉ line.switches) (rest : List String) :
    read r (("--" ++ s.name) :: rest) =
      read { line := { line with switches := line.switches ++ [s] } } rest := by
  rw [read_named (switch_isName s), long_switch, switch_ok h hs]
  rfl

theorem read_value (ha : line.assign p text = .ok line') (ht : Item.IsPlain text)
    (rest : List String) : ∃ next,
      read { line, pending := .parameter p none } (text :: rest) = read next rest ∧
        next.settle = .ok line' := by
  refine ⟨{ line, pending := .parameter p (some text) }, ?_, ha⟩
  rw [read_plain (.inr ht)]
  rfl

theorem read_letters (hw : w.toList = '-' :: c :: cs) (hc : c ≠ '-') (rest : List String) :
    read r (w :: rest) = r.letters (c :: cs) >>= (read · rest) := by
  simp [read, hw, hc]

theorem isPlain_name (f : Format) : Item.IsPlain f.name := by
  cases f <;> exact ⟨by decide, by decide⟩

theorem read_format (h : r.settle = .ok line) {verbose : Bool}
    (hs : ∀ s ∈ Item.switches (.letterApart verbose f), s ∉ line.switches)
    (hno : line.has .format = false) : ∃ (next : Reader) (after : CommandLine),
      next.settle = .ok after ∧
      after.assign .format f.name = .ok (Item.addTo line (.letterApart verbose f)) ∧
      ∀ text rest, read r ((Item.letters verbose ++ text) :: rest) =
        next.parameter .format (attached text.toList) >>= (read · rest) := by
  have ha (after : CommandLine) (hno : after.has .format = false) :
      after.assign .format f.name = .ok (after.put (.format f)) :=
    @assign_spelled after (.format f) f.name rfl (isPlain_name f).1 hno
  cases verbose with
  | false =>
    refine ⟨r, line, h, ?_, fun text rest => ?_⟩
    · simpa [Item.addTo, add, Item.files, Item.switches, Item.settings] using ha line hno
    · have hw : (Item.letters false ++ text).toList = '-' :: 'f' :: text.toList := by
        simp [Item.letters]
      rw [read_letters hw (by decide)]
      rfl
  | true =>
    have hswitch := switch_ok h (hs .verbose (by simp [Item.switches]))
    refine ⟨{ line := { line with switches := line.switches ++ [.verbose] } }, _, rfl, ?_,
      fun text rest => ?_⟩
    · simpa [Item.addTo, add, Item.files, Item.switches, Item.settings] using
        ha { line with switches := line.switches ++ [.verbose] } hno
    · have hw : (Item.letters true ++ text).toList = '-' :: 'v' :: 'f' :: text.toList := by
        simp [Item.letters]
      rw [read_letters hw (by decide), letters, hswitch]
      rfl

theorem read_item {item : Item} (h : r.settle = .ok line) (hf : item.WellFormed)
    (hs : ∀ s ∈ item.switches, s ∉ line.switches)
    (hp : ∀ x ∈ item.settings, line.has x.parameter = false) (rest : List String) :
    ∃ next, read r (item.words ++ rest) = read next rest ∧
      next.settle = .ok (item.addTo line) := by
  cases item with
  | file w =>
    have hne : w ≠ "" := by
      rcases hf with rfl | hf
      · decide
      · exact hf.1
    obtain ⟨next, hnext, hsettle⟩ := file_ok h hne
    refine ⟨next, ?_,
      by simpa [Item.addTo, add, Item.files, Item.switches, Item.settings] using hsettle⟩
    simp only [Item.words, List.singleton_append, read_plain hf, word_eq_file h, hnext]
    rfl
  | switch s =>
    refine ⟨_, read_switch h (hs s (by simp [Item.switches])) rest, ?_⟩
    simp [settle, Item.addTo, add, Item.files, Item.switches, Item.settings]
  | letter =>
    have hswitch := switch_ok h (hs .verbose (by simp [Item.switches]))
    refine ⟨{ line := { line with switches := line.switches ++ [.verbose] } }, ?_, ?_⟩
    · have hw : "-v".toList = '-' :: 'v' :: [] := rfl
      simp only [Item.words, List.singleton_append]
      rw [read_letters hw (by decide), letters, hswitch]
      rfl
    · simp [settle, Item.addTo, add, Item.files, Item.switches, Item.settings]
  | apart x text =>
    have ha := assign_spelled hf.1 hf.2.1 (hp x (by simp [Item.settings]))
    obtain ⟨next, hnext, hsettle⟩ := read_value ha hf.2 rest
    refine ⟨next, ?_,
      by simpa [Item.addTo, add, Item.files, Item.switches, Item.settings] using hsettle⟩
    simp only [Item.words, List.cons_append, List.nil_append]
    rw [read_named (parameter_isName _), long_parameter, parameter_none h]
    exact hnext
  | joined x text =>
    have ha := assign_spelled hf.1 hf.2.1 (hp x (by simp [Item.settings]))
    refine ⟨{ line := line.put x }, ?_, ?_⟩
    · simp only [Item.words, List.singleton_append]
      rw [read_joined (parameter_isName _), long_parameter, parameter_some h ha]
      rfl
    · simp [settle, Item.addTo, add, Item.files, Item.switches, Item.settings]
  | letterApart verbose f =>
    obtain ⟨next, after, hnext, ha, hread⟩ :=
      read_format h hs (hp (.format f) (by simp [Item.settings]))
    obtain ⟨last, hlast, hsettle⟩ := read_value ha (isPlain_name f) rest
    refine ⟨last, ?_, hsettle⟩
    have hw := hread "" (f.name :: rest)
    rw [String.append_empty] at hw
    simp only [Item.words, List.cons_append, List.nil_append]
    rw [hw, show attached "".toList = none from rfl, parameter_none hnext]
    exact hlast
  | letterAttached verbose f =>
    obtain ⟨next, after, hnext, ha, hread⟩ :=
      read_format h hs (hp (.format f) (by simp [Item.settings]))
    have hvalue : attached f.name.toList = some f.name := by cases f <;> rfl
    refine ⟨{ line := Item.addTo line (.letterAttached verbose f) }, ?_, rfl⟩
    simp only [Item.words, List.singleton_append]
    rw [hread, hvalue, parameter_some hnext ha]
    rfl
  | letterJoined verbose f =>
    obtain ⟨next, after, hnext, ha, hread⟩ :=
      read_format h hs (hp (.format f) (by simp [Item.settings]))
    have hvalue : attached ("=" ++ f.name).toList = some f.name := by cases f <;> rfl
    refine ⟨{ line := Item.addTo line (.letterJoined verbose f) }, ?_, rfl⟩
    simp only [Item.words, List.singleton_append, String.append_assoc]
    rw [hread, hvalue, parameter_some hnext ha]
    rfl

theorem read_items {items : List Item} (h : r.settle = .ok line)
    (hf : ∀ item ∈ items, item.WellFormed)
    (hs : (line.switches ++ items.flatMap Item.switches).Nodup)
    (hno : ∀ x ∈ items.flatMap Item.settings, line.has x.parameter = false)
    (honce : ((items.flatMap Item.settings).map Setting.parameter).Nodup) (rest : List String) :
    ∃ next, read r (items.flatMap Item.words ++ rest) = read next rest ∧
      next.settle = .ok (line.add (items.flatMap Item.files) (items.flatMap Item.switches)
        (items.flatMap Item.settings)) := by
  induction items generalizing r line with
  | nil => exact ⟨r, rfl, by simpa [add] using h⟩
  | cons item items ih =>
    rw [List.forall_mem_cons] at hf
    simp only [List.flatMap_cons, List.mem_append, List.map_append, or_imp, forall_and,
      ← List.append_assoc] at hs hno honce
    have hnew (s : Switch) (hmem : s ∈ item.switches) : s ∉ line.switches := fun hold =>
      (List.nodup_append.mp (List.nodup_append.mp hs).1).2.2 s hold s hmem rfl
    obtain ⟨next, hread, hsettle⟩ := read_item h hf.1 hnew hno.1 (items.flatMap Item.words ++ rest)
    -- what the later items set is new to the line with this item, too
    have hother (x : Setting) (hx : x ∈ items.flatMap Item.settings) :
        (item.addTo line).has x.parameter = false := by
      rw [← Bool.not_eq_true, Item.addTo, has_add, hno.2 x hx]
      rintro (h | h)
      · cases h
      · exact (List.nodup_append.mp honce).2.2 _ h _ (List.mem_map_of_mem hx) rfl
    obtain ⟨last, hlast, hline⟩ := ih hsettle hf.2 (by rwa [Item.addTo, switches_add]) hother
      (List.nodup_append.mp honce).2.1
    refine ⟨last, ?_, ?_⟩
    · rw [List.flatMap_cons, List.append_assoc, hread, hlast]
    · rw [hline, Item.addTo, add_add]
      simp only [List.flatMap_cons]

end

end Reader

-- ---------------------------------------------------------------------------
-- Requests
-- ---------------------------------------------------------------------------

structure Same (line request : CommandLine) : Prop where
  files : line.files = request.files
  switches : ∀ s, s ∈ line.switches ↔ s ∈ request.switches
  settings : ∀ x, line.Gives x ↔ request.Gives x

/-- The words of a command line; `last` are those behind two hyphens. -/
def arguments (items : List Item) (last : Option (List Path)) : List String :=
  items.flatMap Item.words ++ (last.map ("--" :: ·)).getD []

/-- The items, and files behind two hyphens, ask for what is requested, each thing once. -/
structure Writes (request : CommandLine) (items : List Item) (last : Option (List Path)) :
    Prop where
  wellFormed : ∀ item ∈ items, item.WellFormed
  named : ∀ path ∈ last.getD [], path ≠ ""
  files : request.files = items.flatMap Item.files ++ last.getD []
  switches : ∀ s, s ∈ request.switches ↔ s ∈ items.flatMap Item.switches
  settings : ∀ x, request.Gives x ↔ x ∈ items.flatMap Item.settings
  switches_once : (items.flatMap Item.switches).Nodup
  settings_once : ((items.flatMap Item.settings).map Setting.parameter).Nodup

def within (request : CommandLine) (directory : Option Path) : CommandLine :=
  { request with includeDirectory := request.includeDirectory.or directory }

/-- What the settings are before those of the command line: those of its settings file, or the
defaults. -/
inductive HasBase (request : CommandLine) (files : Files) : Except Failure Settings → Prop
  | defaults : request.settingsFile = none → HasBase request files (.ok {})
  | file : request.settingsFile = some path → Settings.Loads files path base →
    HasBase request files base

structure Overlays (request : CommandLine) (base settings : Settings) : Prop where
  switches : ∀ s ≠ .noColor, settings.isOn s = true ↔ base.isOn s = true ∨ s ∈ request.switches
  includeDirectory : settings.includeDirectory = request.includeDirectory.or base.includeDirectory
  maxIncludeDepth : settings.maxIncludeDepth = request.maxDepth.or base.maxIncludeDepth

section

variable {line request : CommandLine} {items : List Item} {last : Option (List Path)}

theorem Same.includeDirectory_eq (h : line.Same request) :
    line.includeDirectory = request.includeDirectory :=
  Option.ext fun path => h.settings (.includeDirectory path)

theorem Same.maxDepth_eq (h : line.Same request) : line.maxDepth = request.maxDepth :=
  Option.ext fun n => h.settings (.maxDepth n)

theorem Same.format_eq (h : line.Same request) : line.format = request.format :=
  Option.ext fun f => h.settings (.format f)

theorem Same.settingsFile_eq (h : line.Same request) : line.settingsFile = request.settingsFile :=
  Option.ext fun path => h.settings (.settingsFile path)

theorem Same.within (h : line.Same request) (directory : Option Path) :
    (line.within directory).Same (request.within directory) where
  files := h.files
  switches := h.switches
  settings
    | .includeDirectory path => by simp only [Gives, CommandLine.within, h.includeDirectory_eq]
    | .maxDepth n => h.settings (.maxDepth n)
    | .format f => h.settings (.format f)
    | .settingsFile path => h.settings (.settingsFile path)

theorem Same.refl : line.Same line where
  files := rfl
  switches _ := .rfl
  settings _ := .rfl

theorem Same.symm (h : line.Same request) : request.Same line where
  files := h.files.symm
  switches s := (h.switches s).symm
  settings x := (h.settings x).symm

theorem Same.trans {other : CommandLine} (h : line.Same request) (h' : request.Same other) :
    line.Same other where
  files := h.files.trans h'.files
  switches s := (h.switches s).trans (h'.switches s)
  settings x := (h.settings x).trans (h'.settings x)

theorem Writes.read (h : Writes request items last) : ∃ reader line,
    Reader.read {} (arguments items last) = .ok reader ∧ reader.settle = .ok line ∧
      line.Same request := by
  have hempty : ∀ x ∈ items.flatMap Item.settings, ({} : CommandLine).has x.parameter = false :=
    fun x _ => by cases x <;> rfl
  have hstart : ({} : Reader).settle = .ok {} := rfl
  obtain ⟨next, hread, hsettle⟩ := Reader.read_items hstart h.wellFormed
    (by simpa using h.switches_once) hempty h.settings_once ((last.map ("--" :: ·)).getD [])
  obtain ⟨reader, hreader, hline⟩ := Reader.files_ok hsettle h.named
  simp only [add_add, List.append_nil] at hline
  refine ⟨reader, _, ?_, hline, ?_, fun s => ?_, fun x => ?_⟩
  · rw [arguments, hread, ← hreader]
    cases last <;> rfl
  · rw [files_add, h.files]
    rfl
  · rw [switches_add, h.switches]
    simp
  · rw [gives_add _ _ hempty h.settings_once, h.settings]
    cases x <;> simp [Gives]

theorem Overlays.unique {base settings settings' : Settings}
    (h : Overlays request base settings) (h' : Overlays request base settings') :
    settings = settings' := by
  have hon (s : Switch) (hs : s ≠ .noColor) : settings.isOn s = settings'.isOn s :=
    Bool.eq_iff_iff.mpr ((h.switches s hs).trans (h'.switches s hs).symm)
  cases settings
  cases settings'
  rw [Settings.mk.injEq]
  exact ⟨hon .whitespace (by decide), hon .directiveCase (by decide), hon .https (by decide),
    hon .origins (by decide), hon .hostnameEdits (by decide), hon .source (by decide),
    Bool.not_inj (hon .noFollow (by decide)),
    h.includeDirectory.trans h'.includeDirectory.symm,
    h.maxIncludeDepth.trans h'.maxIncludeDepth.symm,
    hon .annotate (by decide), hon .verbose (by decide)⟩

theorem Same.overlays (h : line.Same request) (base : Settings) :
    Overlays request base (line.apply base) where
  switches s hs := by
    rw [← h.switches]
    cases s <;> simp_all [Settings.isOn, apply]
  includeDirectory := by simp [apply, h.includeDirectory_eq]
  maxIncludeDepth := by simp [apply, h.maxDepth_eq]

theorem exists_hasBase (request : CommandLine) (files : Files) :
    ∃ base, request.HasBase files base := by
  cases hpath : request.settingsFile with
  | none => exact ⟨_, .defaults hpath⟩
  | some path =>
    obtain ⟨base, hloads⟩ := Settings.exists_loads files path
    exact ⟨base, .file hpath hloads⟩

theorem HasBase.unique {files : Files} {base other : Except Failure Settings}
    (h : request.HasBase files base) (ho : request.HasBase files other) : other = base := by
  cases h with
  | defaults hnone =>
    cases ho with
    | defaults => rfl
    | file hsome => cases hnone.symm.trans hsome
  | file hpath hloads =>
    cases ho with
    | defaults hnone => cases hpath.symm.trans hnone
    | file hsome hother =>
      cases hpath.symm.trans hsome
      exact hother.eq_load.symm.trans hloads.eq_load

theorem Same.settings_eq (h : line.Same request) {files : Files}
    {base : Except Failure Settings} (hb : request.HasBase files base) :
    Program.settings files line = base.map line.apply := by
  rw [Program.settings, h.settingsFile_eq]
  cases hb with
  | defaults hnone =>
    rw [hnone]
    rfl
  | file hpath hloads =>
    rw [hpath]
    simp only [hloads.eq_load]
    cases base <;> rfl

theorem Same.run_eq (h : line.Same request) (files : Files) (titles : TitleLookup)
    (env : Environment) :
    Program.run files titles env line = Program.run files titles env request := by
  have hsettings : Program.settings files line = Program.settings files request := by
    have happly : line.apply = request.apply := funext fun base =>
      (h.overlays base).unique (Same.refl.overlays base)
    obtain ⟨base, hb⟩ := exists_hasBase request files
    rw [h.settings_eq hb, Same.refl.settings_eq hb, happly]
  have hcolor : line.noColor = request.noColor := by
    simp [noColor, h.switches]
  have hstyle : Program.styleOf env line = Program.styleOf env request := by
    funext settings
    simp only [Program.styleOf, outputFormat, h.format_eq, hcolor]
  rw [Program.run, Program.run, Program.runWithin, Program.runWithin, hsettings, hstyle, h.files]

theorem parse_within {args : List String} {reader : Reader} {directory : Option Path}
    (hread : Reader.read {} args = .ok reader) (hline : reader.settle = .ok line)
    (hfiles : line.files ≠ []) (hd : line.includeDirectory = none → directory ≠ some "") :
    parse directory args = .ok (line.within directory) := by
  obtain ⟨files, switches, given, maxDepth, format, settingsFile⟩ := line
  have hsome : files.isEmpty = false := by simpa using hfiles
  cases given with
  | some path => simp [parse, hread, hline, hsome, bind, Except.bind, CommandLine.within]
  | none =>
    cases directory with
    | none => simp [parse, hread, hline, hsome, bind, Except.bind, CommandLine.within]
    | some path =>
      have hpath : path ≠ "" := by simpa using hd
      simp [parse, hread, hline, hsome, bind, Except.bind, CommandLine.within, assign, has, pathOf?,
        hpath]

theorem parse_refused {args : List String} {reader : Reader}
    (hread : Reader.read {} args = .ok reader) (hline : reader.settle = .ok line)
    (hd : line.includeDirectory = none) : parse (some "") args = .error .invalidValue := by
  simp [parse, hread, hline, hd, bind, Except.bind, assign, has, pathOf?]

theorem Writes.parse (h : Writes request items last) (hfiles : request.files ≠ [])
    {directory : Option Path} (hd : request.includeDirectory = none → directory ≠ some "") :
    ∃ line, parse directory (arguments items last) = .ok line ∧
      line.Same (request.within directory) := by
  obtain ⟨reader, line, hread, hline, hsame⟩ := h.read
  exact ⟨_, parse_within hread hline (hsame.files ▸ hfiles) (hsame.includeDirectory_eq ▸ hd),
    hsame.within directory⟩

/--
However a request is written, reading gives it back. Without an include directory that of the
environment is used, which must not be empty then. The settings are those of the base with what
is requested on top, and nothing that the program does depends on how the request was written.
The base is what the settings file says, if there is one: a value for each of its entries, and the
default for everything else.
-/
theorem parse_arguments (h : Writes request items last) (hfiles : request.files ≠ []) :
    (request.includeDirectory = none →
      parse (some "") (arguments items last) = .error .invalidValue) ∧
    (∀ files, ∃ base, request.HasBase files base ∧
      ∀ other, request.HasBase files other → other = base) ∧
    (∀ files path rows base, request.settingsFile = some path →
      files path = .file (Text.encodeUtf8 (Toml.document rows)) → Toml.WellFormed rows →
      base.Reads (Toml.entriesOf rows) → request.HasBase files (.ok base)) ∧
    ∀ directory, (request.includeDirectory = none → directory ≠ some "") →
      ∃ line, parse directory (arguments items last) = .ok line ∧
        line.Same (request.within directory) ∧
        (∀ files cause, request.HasBase files (.error cause) →
          Program.settings files line = .error cause) ∧
        (∀ files base, request.HasBase files (.ok base) →
          ∃ settings, Program.settings files line = .ok settings ∧
            Overlays (request.within directory) base settings) ∧
        ∀ items' last', Writes request items' last' →
          ∃ line', parse directory (arguments items' last') = .ok line' ∧
            ∀ files titles env,
              Program.run files titles env line' = Program.run files titles env line := by
  refine ⟨fun hnone => ?_, fun files => ?_, fun files path rows base hpath hfile hrows hreads => ?_,
    fun directory hd => ?_⟩
  · obtain ⟨reader, line, hread, hline, hsame⟩ := h.read
    exact parse_refused hread hline (hsame.includeDirectory_eq.trans hnone)
  · obtain ⟨base, hb⟩ := exists_hasBase request files
    exact ⟨base, hb, fun _ => hb.unique⟩
  · exact .file hpath (Settings.loads_document hfile hrows hreads)
  · obtain ⟨line, hparse, hsame⟩ := h.parse hfiles hd
    -- the include directory of the environment is no matter of the settings file
    have hwithin : ∀ {files base}, request.HasBase files base →
        (request.within directory).HasBase files base := by
      intro files base hb
      cases hb with
      | defaults hnone => exact .defaults hnone
      | file hpath hloads => exact .file hpath hloads
    refine ⟨line, hparse, hsame, fun files cause hb => ?_, fun files base hb => ?_,
      fun items' last' h' => ?_⟩
    · exact hsame.settings_eq (hwithin hb)
    · exact ⟨line.apply base, hsame.settings_eq (hwithin hb), hsame.overlays base⟩
    · obtain ⟨line', hparse', hsame'⟩ := h'.parse hfiles hd
      exact ⟨line', hparse', (hsame'.trans hsame.symm).run_eq⟩

def tuned : FileTree where
  entries := [(["c.toml"], .file (Text.encodeUtf8 ("origins = true\nfollow_includefile = false\n" ++
    "annotate = true\nmax_include_depth = 3\nincludefile_directory = \"inc\"\n").toList))]

def tunedSettings : Settings := {
  origins := true, followIncludes := false, annotate := true, maxIncludeDepth := some 3
  includeDirectory := some "inc" }

/-- Files between options and behind two hyphens, a bundle of letters, and a long number. -/
theorem parse_arguments_mixed : ∃ line,
    parse (some "d") ["a", "-vfjson", "-", "--max-include-depth", "+007", "--https",
      "--config=c.toml", "--", "-x"] = .ok line ∧
    line.Same {
      files := ["a", "-", "-x"], switches := [.https, .verbose], includeDirectory := some "d"
      maxDepth := some 7, format := some .json, settingsFile := some "c.toml" } ∧
    Program.settings (fun _ => .missing) line = .error (.config (.missing "c.toml")) ∧
    Program.settings tuned.find line = .ok { tunedSettings with
      https := true, verbose := true, includeDirectory := some "d", maxIncludeDepth := some 7 } := by
  let request : CommandLine := {
    files := ["a", "-", "-x"], switches := [.https, .verbose]
    maxDepth := some 7, format := some .json, settingsFile := some "c.toml" }
  have hwrites : Writes request
      [.file "a", .letterAttached true .json, .file "-", .apart (.maxDepth 7) "+007",
        .switch .https, .joined (.settingsFile "c.toml") "c.toml"] (some ["-x"]) := {
    wellFormed := by
      have hnumeral : IsNumeral 7 ['+', '0', '0', '7'] := ⟨by decide, ['+'], 2, .inr rfl, rfl⟩
      simp [Item.WellFormed, Item.IsPlain, Setting.Spelled, hnumeral]
    named := by simp
    files := rfl
    switches := by
      intro s
      cases s <;> simp [request, Item.switches]
    settings := by
      intro x
      cases x <;> simp [request, Item.settings, Gives, eq_comm]
    switches_once := by decide
    settings_once := by decide }
  obtain ⟨-, -, hdocument, hall⟩ := parse_arguments hwrites (by simp [request])
  obtain ⟨line, hparse, hsame, herror, hok, -⟩ := hall (some "d") (fun _ => by decide)
  have hmissing : request.HasBase (fun _ => .missing) (.error (.config (.missing "c.toml"))) :=
    .file rfl (.missing rfl)
  have hbase : request.HasBase tuned.find (.ok tunedSettings) := by
    refine hdocument tuned.find "c.toml" [("origins", .boolean true),
      ("follow_includefile", .boolean false), ("annotate", .boolean true),
      ("max_include_depth", .number 3), ("includefile_directory", .text "inc")] tunedSettings rfl ?_
      ?_ ?_
    · decide +kernel
    · decide +kernel
    · exact Settings.ofEntries?_eq_some_iff.mp (by decide +kernel)
  obtain ⟨settings, hsettings, hoverlays⟩ := hok tuned.find tunedSettings hbase
  have hexpected : Overlays (request.within (some "d")) tunedSettings { tunedSettings with
      https := true, verbose := true, includeDirectory := some "d", maxIncludeDepth := some 7 } := by
    refine ⟨fun s _ => ?_, rfl, rfl⟩
    cases s <;> simp [Settings.isOn, tunedSettings, request, within]
  exact ⟨line, hparse, hsame, herror _ _ hmissing, hoverlays.unique hexpected ▸ hsettings⟩

end

end CommandLine

end StanzaLint
