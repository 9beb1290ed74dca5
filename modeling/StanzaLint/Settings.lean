/-!
# Settings

Which checks run, how included files are found, and how much is printed.
-/

namespace StanzaLint

structure Settings where
  /-- Lines that end in a space or tab. -/
  whitespace : Bool := false
  /-- Labels in the wrong letter case. -/
  directiveCase : Bool := false
  /-- Starting points that do not use `https`. -/
  https : Bool := false
  /-- Origins that occur twice in one stanza. -/
  origins : Bool := false
  /-- Form and order of hostname edits. -/
  hostnameEdits : Bool := false
  /-- Titles against the pages that source comments name. -/
  source : Bool := false
  followIncludes : Bool := true
  /-- Where relative include paths start; otherwise at the including file's directory. -/
  includeDirectory : Option String := none
  maxIncludeDepth : Option Nat := none
  /-- Lines without findings are printed too. -/
  annotate : Bool := false
  /-- The state before each line is printed. -/
  verbose : Bool := false
  deriving DecidableEq, Repr

end StanzaLint
