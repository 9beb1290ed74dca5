import StanzaLint.Proofs.Findings
import StanzaLint.Proofs.Profile

/-!
# The title and the starting point of a stanza

A stanza has the title that its first `Title` line with a text names, and the
address that its first readable `URL` line gives. Empty titles and lines without
an address leave both as they were. A second title, a starting point without a
title, a second starting point, and a title that no starting point follows are
judged by the lines of the stanza alone (`title_and_url`).
-/

namespace StanzaLint

open Diagnostic (coded)

theorem Profile.getD_eq_empty_iff {f : Entry → Option String} (hf : ∀ e, f e ≠ some "")
    {h : List Entry} : (h.findSome? f).getD "" = "" ↔ ¬∃ e ∈ h, (f e).isSome := by
  cases hs : h.findSome? f with
  | none =>
    have hn := List.findSome?_eq_none_iff.mp hs
    simp only [Option.getD_none, true_iff]
    rintro ⟨e, he, h⟩
    rw [hn e he] at h
    cases h
  | some text =>
    have ht : text ≠ "" := fun he => findSome?_ne_empty hf h (he ▸ hs)
    obtain ⟨e, he, hn⟩ := List.exists_of_findSome?_eq_some hs
    simp only [Option.getD_some, ht, false_iff, not_not]
    exact ⟨e, he, by rw [hn]; rfl⟩

namespace Processor

variable (p : Processor) (settings : Settings)

theorem coded_duplicateTitle (e : Entry) :
    coded .duplicateTitle (p.valueFindings settings e) =
      if e.directive = .title ∧ p.stanza.title ≠ "" then [.duplicateTitle] else [] := by
  by_cases hd : e.directive = .title
  · rw [p.valueFindings_title settings hd]
    have hs : coded .duplicateTitle (p.stanza.sourceFindings e.payload) = [] := by
      simp [Stanza.sourceFindings, Diagnostic.code]
    by_cases ht : p.stanza.title = "" <;>
      simp [titleFindings, hs, hd, ht, Diagnostic.code]
  · rw [(p.valueFindings_isFor settings e).coded_eq_nil (by simpa [Code.isFor] using hd)]
    simp [hd]

theorem coded_startingPoint (hc : c = .urlBeforeTitle ∨ c = .duplicateUrl) (value : String) :
    coded c (p.startingPointFindings settings value) = [] := by
  have hk : Diagnostic.AllOf (· != c) (p.startingPointFindings settings value) := by
    unfold startingPointFindings
    split
    · exact .singleton (by rcases hc with rfl | rfl <;> rfl)
    · exact .singleton (by rcases hc with rfl | rfl <;> rfl)
    · refine .append (.ite (.singleton ?_) .nil) (.map (fun _ => ?_) _)
      · rcases hc with rfl | rfl <;> rfl
      · rcases hc with rfl | rfl <;> rfl
  exact hk.coded_eq_nil (by simp)

theorem coded_urlBeforeTitle (e : Entry) :
    coded .urlBeforeTitle (p.valueFindings settings e) =
      if e.directive = .url ∧ p.stanza.title = "" then [.urlBeforeTitle] else [] := by
  by_cases hd : e.directive = .url
  · rw [p.valueFindings_url settings hd]
    simp [urlFindings, hd, Diagnostic.code, coded_startingPoint]
  · rw [(p.valueFindings_isFor settings e).coded_eq_nil (by simpa [Code.isFor] using hd)]
    simp [hd]

theorem coded_duplicateUrl (e : Entry) :
    coded .duplicateUrl (p.valueFindings settings e) =
      if e.directive = .url ∧ p.stanza.url ≠ "" then [.duplicateUrl] else [] := by
  by_cases hd : e.directive = .url
  · rw [p.valueFindings_url settings hd]
    by_cases hu : p.stanza.url = "" <;>
      simp [urlFindings, hd, hu, Diagnostic.code, coded_startingPoint]
  · rw [(p.valueFindings_isFor settings e).coded_eq_nil (by simpa [Code.isFor] using hd)]
    simp [hd]

end Processor

/-- Of what is said at the end of a stanza, only one thing is about its starting point. -/
theorem Stanza.coded_titleWithoutUrl (s : Stanza) :
    coded .titleWithoutUrl s.closingFindings =
      if s.title ≠ "" ∧ s.url = "" ∧ ¬s.isSeparator then [.titleWithoutUrl s.title] else [] := by
  simp [closingFindings, Diagnostic.code]

namespace Progress

/-- Title and starting point of a stanza are those of its first lines that name one, whatever
lines stand before and between, and whatever was found about them. So a further title, a starting
point without a title, a further starting point and a stanza that lacks one are judged by the
lines since the stanza began. -/
theorem title_and_url (checks : Checks) (history : List Action) :
    let s := (run {} checks history).1
    let sheet := (Ledger.of history).sheet
    let h := sheet.entries
    s.processor.stanza.title = (h.findSome? Entry.title?).getD "" ∧
      s.processor.stanza.url = (h.findSome? Entry.url?).getD "" ∧
      s.processor.stanza.isSeparator = sheet.endsInDescription ∧
      (∀ text location,
        let completed := sheet.completes? location (Line.read text)
        let found := (s.perform checks (.line text location)).2
        coded .duplicateTitle found =
            (if completed.any (·.directive == .title) ∧ ∃ t ∈ h, t.title?.isSome then
              [.duplicateTitle] else []) ∧
          coded .urlBeforeTitle found =
            (if completed.any (·.directive == .url) ∧ ¬∃ t ∈ h, t.title?.isSome then
              [.urlBeforeTitle] else []) ∧
          coded .duplicateUrl found =
            (if completed.any (·.directive == .url) ∧ ∃ u ∈ h, u.url?.isSome then
              [.duplicateUrl] else [])) ∧
      (∀ text location, Text.trim text.toList = [] ∨ Text.trim text.toList = ['#'] →
        coded .titleWithoutUrl (s.perform checks (.line text location)).2 =
          if (∃ t ∈ h, t.title?.isSome) ∧ (¬∃ u ∈ h, u.url?.isSome) ∧
              ¬sheet.endsInDescription then
            [.titleWithoutUrl s.processor.stanza.title] else []) ∧
      Code.duplicateTitle.text = "L2001" ∧ Code.urlBeforeTitle.text = "L1010" ∧
      Code.duplicateUrl.text = "L2003" ∧ Code.titleWithoutUrl.text = "L4003" := by
  intro s sheet h
  have told : s.Told checks.settings (Ledger.of history) := run_told checks history
  have hp := told.current.profile
  simp only [Stanza.profile, Profile.of, Profile.mk.injEq] at hp
  obtain ⟨ht, hu, hs, -⟩ := hp
  change _ = sheet.endsInDescription at hs
  have titled : s.processor.stanza.title = "" ↔ ¬∃ t ∈ h, t.title?.isSome := by
    rw [ht]
    exact Profile.getD_eq_empty_iff Entry.title?_ne_empty
  have started : s.processor.stanza.url = "" ↔ ¬∃ u ∈ h, u.url?.isSome := by
    rw [hu]
    exact Profile.getD_eq_empty_iff Entry.url?_ne_empty
  refine ⟨ht, hu, hs, fun text location => ?_, fun text location hl => ?_, rfl, rfl, rfl, rfl⟩
  · intro completed found
    have coded_found (c : Code) (hc : c.isOfForm = false) : coded c found =
        completed.elim [] fun e => coded c (s.processor.valueFindings checks.settings e) :=
      perform_coded hc told (.line text location)
    rw [coded_found _ rfl, coded_found _ rfl, coded_found _ rfl]
    cases completed with
    | none => simp
    | some e =>
      simp only [Option.elim_some, Option.any_some, beq_iff_eq, Processor.coded_duplicateTitle,
        Processor.coded_urlBeforeTitle, Processor.coded_duplicateUrl, ne_eq, titled, started,
        not_not, and_self]
  · have hr : Line.read text = .closing := by rw [Line.read, Line.ofText, if_pos hl]
    have hf : (s.perform checks (.line text location)).2 =
        Processor.blankFindings checks.settings text ++ s.processor.stanza.closingFindings := by
      simp only [perform, Processor.step_eq, hr, Processor.read, Processor.close]
    have hb : coded .titleWithoutUrl (Processor.blankFindings checks.settings text) = [] := by
      simp [Processor.blankFindings, Diagnostic.code]
    rw [hf, Diagnostic.coded_append, hb, List.nil_append, Stanza.coded_titleWithoutUrl]
    simp only [ne_eq, titled, started, not_not, hs]

/-- An empty title and lines without an address come first, a whole stanza of another file in
between, and a malformed option after the description. -/
def lateTitle : List Action := [
  .line "Title" "f:1",
  .line "URL" "f:2",
  .line "URL a b c" "f:3",
  .suspend,
  .line "Title B" "g:1",
  .line "URL https://b.org" "g:2",
  .line "#" "g:3",
  .resume,
  .line "Title \\" "f:4",
  .line "A" "f:5",
  .line "Description C" "f:6",
  .line "# note" "f:7",
  .line "Option A B" "f:8"]

theorem title_and_url_late :
    let checks : Checks := ⟨{ whitespace := true }, .pages fun _ => .ok none⟩
    let s := (run {} checks lateTitle).1
    (Text.trim "# ".toList = [] ∨ Text.trim "# ".toList = ['#']) ∧
      coded .titleWithoutUrl (s.perform checks (.line "# " "f:9")).2 = [.titleWithoutUrl "A"] ∧
      coded .duplicateTitle (s.perform checks (.line "T B" "f:9")).2 = [.duplicateTitle] ∧
      coded .urlBeforeTitle (s.perform checks (.line "URL https://a.org" "f:9")).2 = [] ∧
      coded .duplicateUrl (s.perform checks (.line "URL https://a.org" "f:9")).2 = [] := by
  have hall := title_and_url ⟨{ whitespace := true }, .pages fun _ => .ok none⟩ lateTitle
  have hsharp : Text.trim "# ".toList = [] ∨ Text.trim "# ".toList = ['#'] :=
    .inr (by decide +kernel)
  have ht : (run {} ⟨{ whitespace := true }, .pages fun _ => .ok none⟩
      lateTitle).1.processor.stanza.title = "A" := by decide +kernel
  have hclose := hall.2.2.2.2.1 "# " "f:9" hsharp
  have htitle := (hall.2.2.2.1 "T B" "f:9").1
  have hurl := (hall.2.2.2.1 "URL https://a.org" "f:9").2
  rw [if_pos (by decide +kernel), ht] at hclose
  rw [if_pos (by decide +kernel)] at htitle
  rw [if_neg (by decide +kernel), if_neg (by decide +kernel)] at hurl
  exact ⟨hsharp, hclose, htitle, hurl.1, hurl.2⟩

end Progress

end StanzaLint
