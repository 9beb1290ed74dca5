import StanzaLint.Proofs.IncludeLayout
import StanzaLint.Proofs.Utf8
import StanzaLint.Report

/-!
# How lines end does not matter

Lines can be written with LF or CRLF behind each of them, and the last one, unless it
is empty, also with CR or nothing (`Writes`). Whatever is chosen, the file is read as the
same lines (`Writes.fileLines`). A run asks for nothing else of its files, so files that
have the same lines at every path are read alike (`Run.file_sameLines`).
-/

namespace StanzaLint

open Text (encodeUtf8 fileLines IsLine)

namespace Text

/-- The lines, written one after the other, are the content of a file. -/
inductive Writes : (lines : List String) → (content : List UInt8) → Prop
  | nil : Writes [] []
  | lf (line : String) : Writes lines content →
    Writes (line :: lines) (encodeUtf8 line.toList ++ 0x0A :: content)
  | crlf (line : String) : Writes lines content →
    Writes (line :: lines) (encodeUtf8 line.toList ++ 0x0D :: 0x0A :: content)
  | cr {line : String} : line ≠ "" → Writes [line] (encodeUtf8 line.toList ++ [0x0D])
  | unended {line : String} : line ≠ "" → Writes [line] (encodeUtf8 line.toList)

theorem encodeUtf8_ne_nil {line : String} (h : line ≠ "") : encodeUtf8 line.toList ≠ [] := by
  intro hnil
  have hd := decodeUtf8_encodeUtf8 line.toList
  rw [hnil] at hd
  exact h (String.toList_inj.mp hd.symm)

theorem unbroken_cr {bytes : List UInt8} (h : 0x0A ∉ bytes) : 0x0A ∉ bytes ++ [0x0D] := by
  simpa using h

theorem Writes.fileLines {lines : List String} {content : List UInt8} (h : Writes lines content)
    (hl : ∀ line ∈ lines, IsLine line) : fileLines content = lines := by
  induction h with
  | nil => rfl
  | lf line _ ih =>
    rw [List.forall_mem_cons] at hl
    rw [fileLines_ended (unbroken_encodeUtf8 hl.1.unbroken), hl.1.readLine, ih hl.2]
  | @crlf _ content line _ ih =>
    rw [List.forall_mem_cons] at hl
    have hsplit : encodeUtf8 line.toList ++ 0x0D :: 0x0A :: content =
        (encodeUtf8 line.toList ++ [0x0D]) ++ 0x0A :: content := by simp
    rw [hsplit, fileLines_ended (unbroken_cr (unbroken_encodeUtf8 hl.1.unbroken)), readLine_cr,
      ih hl.2]
  | @cr line _ =>
    have hline : IsLine line := hl line List.mem_cons_self
    rw [fileLines_unended (unbroken_cr (unbroken_encodeUtf8 hline.unbroken)) (by simp), readLine_cr]
  | @unended line hne =>
    have hline : IsLine line := hl line List.mem_cons_self
    rw [fileLines_unended (unbroken_encodeUtf8 hline.unbroken) (encodeUtf8_ne_nil hne),
      hline.readLine]

end Text

/-- At every path there is the same, or there are files with the same lines. -/
def Files.SameLines (files others : Files) : Prop := ∀ path, files path = others path ∨
  ∃ a b, files path = .file a ∧ others path = .file b ∧ fileLines a = fileLines b

theorem Run.file_sameLines {files others : Files} (h : files.SameLines others) (checks : Checks)
    (levels depth : Nat) : file checks files levels depth = file checks others levels depth := by
  induction levels generalizing depth with
  | zero => rfl
  | succ levels ih =>
    funext path p
    simp only [file, ih]
    rcases h path with hsame | ⟨a, b, ha, hb, hlines⟩
    · rw [hsame]
    · rw [ha, hb]
      simp only [hlines]

theorem Session.lint_sameLines {files others : Files} (h : files.SameLines others) (s : Session)
    (checks : Checks) (style : Style) (path : Path) :
    s.lint checks style files path = s.lint checks style others path := by
  simp only [lint, Run.ofFile, Run.file_sameLines h]

theorem FileTree.sameLines_rewrite {tree : FileTree} {place : List String} {a b : List UInt8}
    (ha : tree.entryAt place = .file a) (h : fileLines a = fileLines b) :
    Files.SameLines tree.find (tree.rewrite place b).find := by
  have hne : place ≠ [] := by
    rintro rfl
    cases ha
  intro path
  rw [find_eq, find_eq, placeOf?_rewrite ha]
  cases tree.placeOf? path with
  | none => exact .inl rfl
  | some other =>
    simp only [Option.map_some, Option.getD_some, entryAt_rewrite hne]
    by_cases ho : other = place
    · rw [if_pos ho, ho]
      exact .inr ⟨a, b, ha, rfl, h⟩
    · rw [if_neg ho]
      exact .inl rfl

/-- Lines are read as they were written, whatever end each of them has. So if a file of a tree is
written anew with other ends, whatever is read and printed then, and what is remembered of it,
stays the same. -/
theorem line_endings_unseen (lines : List String) (hl : ∀ line ∈ lines, IsLine line) :
    (∀ content, Text.Writes lines content → fileLines content = lines) ∧
    ∀ (tree : FileTree) place a b, tree.entryAt place = .file a →
      Text.Writes lines a → Text.Writes lines b →
      ∀ (s : Session) checks style path,
        s.lint checks style tree.find path =
          s.lint checks style (tree.rewrite place b).find path := by
  refine ⟨fun content h => h.fileLines hl, ?_⟩
  intro tree place a b hplace ha hb s checks style path
  have hlines : fileLines a = fileLines b := by rw [ha.fileLines hl, hb.fileLines hl]
  exact Session.lint_sameLines (FileTree.sameLines_rewrite hplace hlines) s checks style path

/-- A line with a CR inside, an empty line and a letter outside ASCII. -/
def someLines : List String := ["Title A", "U a\rb", "", "é"]

def mixedEnds : List UInt8 := encodeUtf8 "Title A\r\nU a\rb\n\r\né\r".toList

def plainEnds : List UInt8 := encodeUtf8 "Title A\nU a\rb\n\né".toList

def mixedTree : FileTree where
  entries := [(["main.txt"], .file mixedEnds)]

theorem line_endings_unseen_mixed :
    (∀ line ∈ someLines, IsLine line) ∧ Text.Writes someLines mixedEnds ∧
      Text.Writes someLines plainEnds ∧ mixedTree.entryAt ["main.txt"] = .file mixedEnds ∧
      fileLines mixedEnds = someLines ∧
      ∀ (s : Session) checks style, s.lint checks style mixedTree.find "main.txt" =
        s.lint checks style (mixedTree.rewrite ["main.txt"] plainEnds).find "main.txt" := by
  have hlines : ∀ line ∈ someLines, IsLine line := by decide
  have hmixed : Text.Writes someLines mixedEnds :=
    .crlf "Title A" (.lf "U a\rb" (.crlf "" (.cr (by decide))))
  have hplain : Text.Writes someLines plainEnds :=
    .lf "Title A" (.lf "U a\rb" (.lf "" (.unended (by decide))))
  have htree : mixedTree.entryAt ["main.txt"] = .file mixedEnds := rfl
  obtain ⟨hread, hlint⟩ := line_endings_unseen someLines hlines
  refine ⟨hlines, hmixed, hplain, htree, hread mixedEnds hmixed, fun s checks style => ?_⟩
  exact hlint mixedTree _ _ _ htree hmixed hplain s checks style "main.txt"

end StanzaLint
