import Mathlib.Data.List.TakeWhile
import StanzaLint.Proofs.PlainHosts

/-!
# Bare domains

What counts of a text is what is left between the blanks and controls around it,
without tabs and line ends (`Framed`). If this starts with a scheme, it is read by that
scheme, and whatever goes wrong then goes wrong behind the colon. So a text is found
to have no scheme exactly if it has none (`parse_eq_noScheme_iff`), and only then it
can be a bare domain. A path is looked for in the text as it stands.
-/

namespace StanzaLint

open Text

-- ---------------------------------------------------------------------------
-- What counts of a text
-- ---------------------------------------------------------------------------

namespace Url

/-- A text in three parts, of which the outer ones are blanks and controls. The inner one is as
small as it can be. -/
structure Framed where
  lead : List Char
  body : List Char
  trail : List Char
  edges : ∀ c ∈ lead ++ trail, c.toNat ≤ 0x20
  first : ∀ c, body.head? = some c → 0x20 < c.toNat
  last : ∀ c, body.getLast? = some c → 0x20 < c.toNat

namespace Framed

def text (f : Framed) : String := String.ofList (f.lead ++ f.body ++ f.trail)

def kept (f : Framed) : List Char := f.body.filter fun c => c ≠ '\t' ∧ c ≠ '\n' ∧ c ≠ '\r'

end Framed

theorem isEdge_iff {c : Char} : isEdge c = true ↔ c.toNat ≤ 0x20 := by simp [isEdge]

theorem dropWhile_edges {as bs : List Char} (ha : ∀ c ∈ as, c.toNat ≤ 0x20)
    (hb : ∀ c, bs.head? = some c → 0x20 < c.toNat) : (as ++ bs).dropWhile isEdge = bs := by
  rw [List.dropWhile_append_of_pos fun c hc => isEdge_iff.mpr (ha c hc)]
  cases bs with
  | nil => rfl
  | cons c cs =>
    have hc : ¬isEdge c = true := by
      rw [isEdge_iff]
      exact Nat.not_le.mpr (hb c rfl)
    exact List.dropWhile_cons_of_neg hc

theorem Framed.clean_text (f : Framed) : clean f.text.toList = f.kept := by
  have hlead : ∀ c ∈ f.lead, c.toNat ≤ 0x20 := fun c hc => f.edges c (List.mem_append_left _ hc)
  have htrail : ∀ c ∈ f.trail, c.toNat ≤ 0x20 := fun c hc => f.edges c (List.mem_append_right _ hc)
  have hbody : ((f.lead ++ f.body ++ f.trail).dropWhile isEdge).reverse.dropWhile isEdge =
      f.body.reverse := by
    by_cases hb : f.body = []
    · -- nothing but blanks and controls
      have hnone : ∀ c, ([] : List Char).head? = some c → 0x20 < c.toNat := by simp
      have hall : (f.lead ++ f.trail).dropWhile isEdge = [] := by
        simpa using dropWhile_edges f.edges hnone
      rw [hb, List.append_nil, hall]
      rfl
    · have hstart : (f.lead ++ f.body ++ f.trail).dropWhile isEdge = f.body ++ f.trail := by
        rw [List.append_assoc]
        obtain ⟨c, cs, hcs⟩ := List.exists_cons_of_ne_nil hb
        refine dropWhile_edges hlead fun d hd => f.first d ?_
        simpa [hcs] using hd
      rw [hstart, List.reverse_append]
      refine dropWhile_edges (fun c hc => htrail c (List.mem_reverse.mp hc)) fun c hc => f.last c ?_
      rwa [List.head?_reverse] at hc
  rw [text, String.toList_ofList, clean, hbody, List.reverse_reverse, kept]
  congr 1
  funext c
  simp [isSkipped, Bool.beq_eq_decide_eq, Bool.and_assoc]

theorem exists_framed (value : String) : ∃ f : Framed, f.text = value := by
  let body := (value.toList.dropWhile isEdge).reverse.dropWhile isEdge |>.reverse
  let trail := (value.toList.dropWhile isEdge).reverse.takeWhile isEdge |>.reverse
  have hbody : body ++ trail = value.toList.dropWhile isEdge := by
    rw [← List.reverse_append, List.takeWhile_append_dropWhile, List.reverse_reverse]
  have hedge : ∀ {cs : List Char} {c}, c ∈ cs.takeWhile isEdge → c.toNat ≤ 0x20 :=
    fun hc => isEdge_iff.mp (List.mem_takeWhile_imp hc)
  have hhead : ∀ (cs : List Char) c, (cs.dropWhile isEdge).head? = some c → 0x20 < c.toNat := by
    intro cs c hc
    have hn := List.head?_dropWhile_not isEdge cs
    simpa [hc, isEdge] using hn
  refine ⟨⟨value.toList.takeWhile isEdge, body, trail, ?_, fun c hc => ?_, fun c hc => ?_⟩, ?_⟩
  · intro c hc
    rcases List.mem_append.mp hc with hc | hc
    · exact hedge hc
    · exact hedge (List.mem_reverse.mp hc)
  · refine hhead value.toList c ?_
    rw [← hbody, List.head?_append, show body.head? = some c from hc, Option.some_or]
  · refine hhead (value.toList.dropWhile isEdge).reverse c ?_
    rwa [List.getLast?_reverse] at hc
  · have htext : value.toList.takeWhile isEdge ++ body ++ trail = value.toList := by
      rw [List.append_assoc, hbody, List.takeWhile_append_dropWhile]
    exact (congrArg String.ofList htext).trans (String.ofList_toList)

-- ---------------------------------------------------------------------------
-- Schemes
-- ---------------------------------------------------------------------------

structure IsScheme (name : List Char) : Prop where
  letter : ∃ c, name.head? = some c ∧ c.isAlpha = true
  signs : ∀ c ∈ name, c.isAlphanum = true ∨ c = '+' ∨ c = '-' ∨ c = '.'

def HasScheme (cs : List Char) : Prop := ∃ name rest, IsScheme name ∧ cs = name ++ ':' :: rest

theorem isSchemeChar_iff {c : Char} :
    isSchemeChar c = true ↔ c.isAlphanum = true ∨ c = '+' ∨ c = '-' ∨ c = '.' := by
  simp [isSchemeChar, or_assoc]

theorem splitScheme?_eq_some_iff {cs rest : List Char} {scheme : String} :
    splitScheme? cs = some (scheme, rest) ↔ ∃ name, IsScheme name ∧ cs = name ++ ':' :: rest ∧
      scheme = String.ofList (name.map Char.toLower) := by
  constructor
  · intro h
    simp only [splitScheme?, List.span_eq_takeWhile_dropWhile, Option.ite_none_right_eq_some] at h
    obtain ⟨hletter, h⟩ := h
    split at h
    next name behind heq =>
      obtain ⟨rfl, hbehind⟩ := Prod.mk.inj heq
      obtain ⟨rfl, rfl⟩ := Prod.mk.inj (Option.some.inj h)
      refine ⟨_, ⟨?_, fun c hc => isSchemeChar_iff.mp (List.mem_takeWhile_imp hc)⟩, ?_, rfl⟩
      · -- a letter may stand in a scheme, so the first one does
        obtain ⟨c, hc, ha⟩ := (Option.any_eq_true _ _).mp hletter
        refine ⟨c, ?_, ha⟩
        rw [List.head?_takeWhile, hc]
        simp [isSchemeChar, Char.isAlphanum, ha]
      · rw [← hbehind, List.takeWhile_append_dropWhile]
    next => cases h
  · rintro ⟨name, ⟨⟨c, hc, ha⟩, hsigns⟩, rfl, rfl⟩
    refine splitScheme?_colon ?_ (fun c hc => isSchemeChar_iff.mpr (hsigns c hc)) rest
    rw [hc]
    exact ha

theorem splitScheme?_eq_none_iff {cs : List Char} : splitScheme? cs = none ↔ ¬HasScheme cs := by
  constructor
  · rintro h ⟨name, rest, hname, hcs⟩
    rw [splitScheme?_eq_some_iff.mpr ⟨name, hname, hcs, rfl⟩] at h
    cases h
  · intro h
    cases hs : splitScheme? cs with
    | none => rfl
    | some found =>
      obtain ⟨name, hname, hcs, -⟩ := splitScheme?_eq_some_iff.mp (show _ = some (_, found.2) from hs)
      exact absurd ⟨name, _, hname, hcs⟩ h

instance (cs : List Char) : Decidable (HasScheme cs) :=
  decidable_of_iff (splitScheme? cs ≠ none) (by rw [ne_eq, splitScheme?_eq_none_iff, not_not])

-- ---------------------------------------------------------------------------
-- What goes wrong behind a scheme
-- ---------------------------------------------------------------------------

/-- Reading came to its end, or failed over something else than a scheme. -/
def Schemed (r : Except Fault α) : Prop := r ≠ .error .noScheme

namespace Schemed

theorem ok (a : α) : Schemed (.ok a : Except Fault α) := fun h => by cases h

theorem error {fault : Fault} (h : fault ≠ .noScheme) : Schemed (.error fault : Except Fault α) :=
  fun he => h (Except.error.inj he)

theorem bind {r : Except Fault α} {next : α → Except Fault β} (hr : Schemed r)
    (hn : ∀ a, Schemed (next a)) : Schemed (r >>= next) := by
  cases r with
  | ok a => exact hn a
  | error fault => exact error fun he => hr (he ▸ rfl)

theorem ite {p : Prop} [Decidable p] {r s : Except Fault α} (hr : Schemed r) (hs : Schemed s) :
    Schemed (if p then r else s) := by
  split
  · exact hr
  · exact hs

end Schemed

theorem Host.parseBracketed_schemed (cs : List Char) : Schemed (parseBracketed cs) := by
  unfold parseBracketed
  split
  · split
    · exact .ok _
    · exact .error (by decide)
  · exact .error (by decide)

theorem Host.ofDomain_schemed (domain : List Char) : Schemed (ofDomain domain) := by
  unfold ofDomain
  refine .ite (.error (by decide)) (.ite ?_ (.ok _))
  split
  · exact .ok _
  · exact .error (by decide)

theorem Host.parse_schemed (cs : List Char) : Schemed (Host.parse cs) := by
  unfold Host.parse
  split
  · exact parseBracketed_schemed _
  · split
    · exact ofDomain_schemed _
    · exact .error (by decide)

theorem Host.parseOpaque_schemed (cs : List Char) : Schemed (parseOpaque cs) := by
  unfold parseOpaque
  split
  · exact parseBracketed_schemed _
  · exact .ite (.error (by decide)) (.ok _)

theorem readHost_schemed (scheme : String) (cs : List Char) : Schemed (readHost scheme cs) :=
  .ite (.ite (.error (by decide)) (Host.parse_schemed cs)) (Host.parseOpaque_schemed cs)

theorem readPort_schemed (cs : List Char) : Schemed (readPort cs) :=
  .ite (.error (by decide)) (.ok _)

theorem readHostPort_schemed (scheme : String) (cs : List Char) :
    Schemed (readHostPort scheme cs) := by
  unfold readHostPort
  refine .bind (readHost_schemed scheme _) fun host => ?_
  split
  · exact .error (by decide)
  · exact .bind (readPort_schemed _) fun _ => .ok _
  · exact .ok _

theorem readAuthority_schemed (scheme : String) (region after : List Char) :
    Schemed (readAuthority scheme region after) := by
  unfold readAuthority
  split
  · exact .bind (readHostPort_schemed scheme region) fun _ => .ok _
  · exact .ite (.bind (readHostPort_schemed scheme []) fun _ => .ok _) (.error (by decide))
  next info behind _ _ =>
    exact .bind (readHostPort_schemed scheme behind) fun _ => .ite (.error (by decide)) (.ok _)

theorem parseHosted_schemed (scheme : String) (cs : List Char) : Schemed (parseHosted scheme cs) :=
  .bind (readAuthority_schemed scheme _ _) fun _ => .ok _

theorem parseFile_schemed (cs : List Char) : Schemed (parseFile cs) := by
  unfold parseFile
  split
  · refine .ite ?_ (.ok _)
    exact .ite (.ok _) (.bind (Host.parse_schemed _) fun _ => .ok _)
  · exact .ok _

theorem parseOther_schemed (scheme : String) (cs : List Char) : Schemed (parseOther scheme cs) := by
  unfold parseOther
  split
  · exact parseHosted_schemed scheme _
  · exact .ok _
  · exact .ok _

theorem parse_eq_noScheme_iff (text : String) :
    parse text = .error .noScheme ↔ ¬HasScheme (clean text.toList) := by
  rw [← splitScheme?_eq_none_iff, parse]
  split
  next hs => simp [hs]
  next rest hs =>
    simp only [hs, reduceCtorEq, iff_false]
    exact parseFile_schemed rest
  next scheme rest _ hs =>
    have hread : Schemed (if isSpecial scheme then
        parseHosted scheme (rest.dropWhile (isSlash true)) else parseOther scheme rest) :=
      .ite (parseHosted_schemed scheme _) (parseOther_schemed scheme rest)
    simp only [hs, reduceCtorEq, iff_false]
    exact hread

end Url

-- ---------------------------------------------------------------------------
-- Domains
-- ---------------------------------------------------------------------------

namespace Address

def HasPath (cs : List Char) : Prop :=
  ∃ before after, cs = before ++ '/' :: after ∧ ∀ c ∈ before, c ≠ '?' ∧ c ≠ '#'

theorem hasPath_iff {cs : List Char} :
    HasPath cs ↔ '/' ∈ cs.takeWhile fun c => c != '?' && c != '#' := by
  constructor
  · rintro ⟨before, after, rfl, hb⟩
    rw [List.takeWhile_append_of_pos (by simpa using hb)]
    simp
  · intro h
    obtain ⟨before, after, hsplit⟩ := List.append_of_mem h
    refine ⟨before, after ++ cs.dropWhile fun c => c != '?' && c != '#', ?_, fun c hc => ?_⟩
    · rw [← List.cons_append, ← List.append_assoc, ← hsplit, List.takeWhile_append_dropWhile]
    · have hm : c ∈ cs.takeWhile fun c => c != '?' && c != '#' := by
        rw [hsplit]
        exact List.mem_append_left _ hc
      simpa using List.mem_takeWhile_imp hm

open Url

/-- A text is a bare domain exactly if it has neither a scheme nor a path. With a scheme it is none,
or cannot be read; without one it can always be judged. The scheme may be hidden by characters that
do not count. -/
theorem bare_domains :
    (∀ value, ∃ f : Framed, f.text = value) ∧
    ∀ f : Framed,
      (HasScheme f.kept →
        isBareDomain f.text = .ok false ∨
          ∃ fault, isBareDomain f.text = .error fault ∧ fault ≠ .noScheme) ∧
      (¬HasScheme f.kept → ∃ bare, isBareDomain f.text = .ok bare ∧
        (bare = true ↔ ¬HasPath f.text.toList)) := by
  refine ⟨exists_framed, fun f => ?_⟩
  have hparse := parse_eq_noScheme_iff f.text
  rw [f.clean_text] at hparse
  constructor
  · intro hs
    unfold isBareDomain
    split
    · exact .inl rfl
    next h => exact absurd hs (hparse.mp h)
    next fault hfault _ => exact .inr ⟨fault, rfl, hfault⟩
  · intro hs
    refine ⟨_, by rw [isBareDomain, hparse.mpr hs], ?_⟩
    rw [hasPath_iff]
    simp

/-- A scheme behind a control and with a tab in it, and a host that cannot be read. -/
def hiddenScheme : Framed where
  lead := [' ', '\x01']
  body := "H\tttp:\\a\n b".toList
  trail := ['\n']
  edges := by simp
  first := by
    rintro c ⟨⟩
    decide
  last := by
    rintro c ⟨⟩
    decide

/-- A name that starts with a digit, with a colon, and a slash in its query. -/
def bareName : Framed where
  lead := []
  body := "7a.org:80?x/y".toList
  trail := []
  edges := by simp
  first := by
    rintro c ⟨⟩
    decide
  last := by
    rintro c ⟨⟩
    decide

theorem bare_domains_hidden :
    (∃ f : Framed, f.text = " \x01H\tttp:\\a\n b\n") ∧
    HasScheme hiddenScheme.kept ∧
    (isBareDomain hiddenScheme.text = .ok false ∨
      ∃ fault, isBareDomain hiddenScheme.text = .error fault ∧ fault ≠ .noScheme) ∧
    ¬HasScheme bareName.kept ∧
    ∃ bare, isBareDomain bareName.text = .ok bare ∧
      (bare = true ↔ ¬HasPath bareName.text.toList) := by
  have hscheme : HasScheme hiddenScheme.kept := by decide +kernel
  have hnone : ¬HasScheme bareName.kept := by decide +kernel
  obtain ⟨hframed, hall⟩ := bare_domains
  exact ⟨hframed _, hscheme, (hall hiddenScheme).1 hscheme, hnone, (hall bareName).2 hnone⟩

end Address

end StanzaLint
