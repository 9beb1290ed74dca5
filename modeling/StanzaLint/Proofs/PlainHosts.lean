import StanzaLint.Address
import StanzaLint.Proofs.Casing
import StanzaLint.Proofs.Trimming

/-!
# Plain hosts

A host of plain labels has one form, whatever its spelling: its letters in lower case,
and its port in decimal unless the scheme implies it. It does not matter whether it is
given alone or in a URL. Alone, a host with a port first reads as a scheme with its
colon, and a host without one as no URL at all; both are then read again as a name
(`plain_origins`).
-/

namespace StanzaLint

open Text

-- ---------------------------------------------------------------------------
-- Characters
-- ---------------------------------------------------------------------------

/-- What holds of every ASCII character can be checked. -/
theorem Text.ascii_all {P : Char → Bool}
    (h : ((List.range 0x80).map Char.ofNat).all P = true) {c : Char} (hc : c.toNat < 0x80) :
    P c = true := by
  refine List.all_eq_true.mp h c (List.mem_map.mpr ⟨c.toNat, List.mem_range.mpr hc, ?_⟩)
  exact Char.ofNat_toNat c

theorem Text.mapM_eq_some {f : α → Option β} {g : α → β} {as : List α}
    (h : ∀ a ∈ as, f a = some (g a)) : as.mapM f = some (as.map g) := by
  induction as with
  | nil => rfl
  | cons a as ih =>
    rw [List.forall_mem_cons] at h
    rw [List.mapM_cons, h.1, ih h.2]
    rfl

namespace Url

def isLabelChar (c : Char) : Bool := c.isAlphanum || c == '-'

def isNameChar (c : Char) : Bool := isLabelChar c || c == '.'

theorem isNameChar_ascii (h : isNameChar c = true) : c.toNat < 0x80 := by
  simp only [isNameChar, isLabelChar, Char.isAlphanum, Bool.or_eq_true, beq_iff_eq, isAlpha_iff,
    isUpper_iff, isLower_iff] at h
  rcases h with ((h | h) | rfl) | rfl
  · omega
  · have hd : 48 ≤ c.toNat ∧ c.toNat ≤ 57 := by
      simpa [Char.isDigit, UInt32.le_iff_toNat_le] using h
    omega
  · decide
  · decide

theorem name_all {P : Char → Bool}
    (h : ((List.range 0x80).map Char.ofNat).all (fun c => !isNameChar c || P c) = true)
    (hc : isNameChar c = true) : P c = true := by
  simpa [hc] using ascii_all h (isNameChar_ascii hc)

theorem isNameChar_toLower (h : isNameChar c = true) : isNameChar c.toLower = true :=
  name_all (P := fun c => isNameChar c.toLower) (by decide +kernel) h

theorem toLower_eq_point_iff (h : isNameChar c = true) : c.toLower = '.' ↔ c = '.' := by
  have hp : decide (c.toLower = '.' ↔ c = '.') = true :=
    name_all (P := fun c => decide (c.toLower = '.' ↔ c = '.')) (by decide +kernel) h
  exact of_decide_eq_true hp

-- ---------------------------------------------------------------------------
-- Names
-- ---------------------------------------------------------------------------

/-- A domain name of several labels that are not encoded. It does not end in a number. -/
structure IsPlainName (name : List Char) : Prop where
  several : 2 ≤ (split '.' name).length
  nonempty : [] ∉ split '.' name
  chars : ∀ label ∈ split '.' name, label.all isLabelChar = true
  decoded : ∀ label ∈ split '.' name, ¬Idna.mark <+: label.map Char.toLower
  last : (split '.' name).getLast?.any (·.head?.any Char.isAlpha) = true

variable {name : List Char}

namespace IsPlainName

theorem isNameChar (h : IsPlainName name) (hc : c ∈ name) : isNameChar c = true := by
  rcases mem_split_of_mem '.' hc with rfl | ⟨label, hl, hc⟩
  · rfl
  · simp [Url.isNameChar, List.all_eq_true.mp (h.chars label hl) c hc]

theorem ne_nil (h : IsPlainName name) : name ≠ [] := by
  rintro rfl
  exact h.nonempty (List.mem_singleton_self [])

theorem point_mem (h : IsPlainName name) : '.' ∈ name := by
  by_contra hn
  have hs := h.several
  rw [split_of_not_mem hn] at hs
  simp at hs

theorem split_lower (h : IsPlainName name) :
    split '.' (name.map Char.toLower) = (split '.' name).map (List.map Char.toLower) :=
  split_map fun _ hc => toLower_eq_point_iff (h.isNameChar hc)

theorem label_lower (h : IsPlainName name) (hl : label ∈ split '.' name) :
    ∀ c ∈ label.map Char.toLower, Url.isNameChar c = true := by
  intro c hc
  obtain ⟨d, hd, rfl⟩ := List.mem_map.mp hc
  have hd := List.all_eq_true.mp (h.chars label hl) d hd
  exact isNameChar_toLower (by simp [Url.isNameChar, hd])

end IsPlainName

namespace Idna

theorem isAscii_of_name (h : ∀ c ∈ label, isNameChar c = true) : isAscii label = true := by
  rw [isAscii, List.all_eq_true]
  intro c hc
  exact decide_eq_true (isNameChar_ascii (h c hc))

theorem decodeLabel?_plain (hc : ∀ c ∈ label, isNameChar c = true) (hm : ¬mark <+: label) :
    decodeLabel? label = some label := by
  have hnone : dropPrefix? mark label = none :=
    Option.not_isSome_iff_eq_none.mp fun hs => hm (isSome_dropPrefix?.mp hs)
  simp only [decodeLabel?, hnone, isAscii_of_name hc, Bool.true_or, if_true]

theorem any_of_name {P : Char → Bool} {labels : List (List Char)}
    (hn : ∀ c, isNameChar c = true → P c = false)
    (h : ∀ label ∈ labels, ∀ c ∈ label, isNameChar c = true) :
    labels.any (·.any P) = false := by
  simp only [List.any_eq_false, List.any_eq_true, not_exists, not_and, Bool.not_eq_true]
  intro label hl c hc
  exact hn c (h label hl c hc)

theorem normalize_mapped (h : ∀ c ∈ name, isNameChar c = true) :
    (name.mapM map?).map (fun mapped => Text.normalize mapped.flatten) =
      some (name.map Char.toLower) := by
  have hmapped : name.mapM map? = some (name.map fun c => [c.toLower]) := by
    refine mapM_eq_some fun c hc => ?_
    rw [map?, if_pos (isNameChar_ascii (h c hc))]
  have hflat : (name.map fun c => [c.toLower]).flatten = name.map Char.toLower := by
    rw [← List.flatMap_def, ← List.map_eq_flatMap]
  have hall : (name.map Char.toLower).all (·.toNat < 0x300) = true := by
    simp only [List.all_map, List.all_eq_true, Function.comp_apply, decide_eq_true_eq]
    intro c hc
    have hlt := isNameChar_ascii (isNameChar_toLower (h c hc))
    omega
  rw [hmapped, Option.map_some, hflat, Text.normalize, if_pos hall]

theorem toAscii?_plain (h : IsPlainName name) : toAscii? name = some (name.map Char.toLower) := by
  obtain ⟨mapped, hmapped, hnormal⟩ :=
    Option.map_eq_some_iff.mp (normalize_mapped fun c hc => h.isNameChar hc)
  have hlabels : ∀ label ∈ split '.' (name.map Char.toLower),
      (∀ c ∈ label, isNameChar c = true) ∧ ¬mark <+: label := by
    rw [h.split_lower]
    intro label hl
    obtain ⟨first, hf, rfl⟩ := List.mem_map.mp hl
    exact ⟨h.label_lower hf, h.decoded first hf⟩
  have hdecoded : (split '.' (name.map Char.toLower)).mapM decodeLabel? =
      some (split '.' (name.map Char.toLower)) := by
    have hd := mapM_eq_some (g := id) fun label hl =>
      decodeLabel?_plain (hlabels label hl).1 (hlabels label hl).2
    rwa [List.map_id] at hd
  have hencoded : (split '.' (name.map Char.toLower)).mapM encodeLabel? =
      some (split '.' (name.map Char.toLower)) := by
    have he := mapM_eq_some (f := encodeLabel?) (g := id) fun label hl =>
      if_pos (isAscii_of_name (hlabels label hl).1)
    rwa [List.map_id] at he
  have hright := any_of_name (P := isRightToLeft)
    (fun c hc => by
      have hlt := isNameChar_ascii hc
      simp only [isRightToLeft, Bool.and_eq_false_iff, decide_eq_false_iff_not]
      omega)
    fun label hl => (hlabels label hl).1
  have hallowed := any_of_name (P := isForbidden)
    (fun c hc => by
      simpa using name_all (P := fun c => !isForbidden c) (by decide +kernel) hc)
    fun label hl => (hlabels label hl).1
  rw [toAscii?, hmapped, Option.bind_eq_bind, Option.bind_some, hnormal, hdecoded,
    Option.bind_eq_bind, Option.bind_some, hright, hallowed, hencoded]
  exact congrArg some (intercalate_split '.' _)

end Idna

theorem isNameChar_of_isAlpha {c : Char} (h : c.isAlpha = true) : isNameChar c = true := by
  simp [isNameChar, isLabelChar, Char.isAlphanum, h]

namespace Ipv4

theorem readNumber?_letter {c : Char} (h : c.isAlpha = true) (cs : List Char) :
    readNumber? (c.toLower :: cs) = none := by
  have hd : digitIn? 10 c.toLower = none := by
    have hn := name_all (P := fun c => !c.isAlpha || (digitIn? 10 c.toLower).isNone)
      (by decide +kernel) (isNameChar_of_isAlpha h)
    simpa [h] using hn
  have hz : c.toLower ≠ '0' := by
    intro hz
    rw [hz] at hd
    cases hd
  unfold readNumber?
  split
  next heq => cases heq
  next heq => exact absurd (List.cons.inj heq).1 hz
  next heq => exact absurd (List.cons.inj heq).1 hz
  next heq => exact absurd (List.cons.inj heq).1 hz
  next => rw [readDigits?, hd, Option.bind_eq_bind, Option.bind_none]

theorem endsInNumber_plain (h : IsPlainName name) :
    endsInNumber (name.map Char.toLower) = false := by
  obtain ⟨last, hlast, hletter⟩ := (Option.any_eq_true _ _).mp h.last
  cases last with
  | nil => cases hletter
  | cons c cs =>
    have hc : c.isAlpha = true := hletter
    have hend : (split '.' (name.map Char.toLower)).getLast? =
        some (c.toLower :: cs.map Char.toLower) := by
      rw [h.split_lower, List.getLast?_map, hlast]
      rfl
    have hparts : parts (name.map Char.toLower) = split '.' (name.map Char.toLower) := by
      simp [parts, hend]
    have hdigit : c.toLower.isDigit = false := by
      have hn := name_all (P := fun c => !c.isAlpha || !c.toLower.isDigit) (by decide +kernel)
        (isNameChar_of_isAlpha hc)
      simpa [hc] using hn
    simp only [endsInNumber, hparts, hend, readNumber?_letter hc, List.all_cons, hdigit]
    rfl

end Ipv4

theorem IsPlainName.parse (h : IsPlainName name) :
    Host.parse name = .ok (.name (String.ofList (name.map Char.toLower))) := by
  have hbracket : ∀ cs, name ≠ '[' :: cs := by
    rintro cs rfl
    exact absurd (h.isNameChar List.mem_cons_self) (by decide)
  have hpercent : name.contains '%' = false := by
    rw [List.contains_eq_mem, decide_eq_false_iff_not]
    exact fun hm => absurd (h.isNameChar hm) (by decide)
  have hne : (name.map Char.toLower).isEmpty = false := by simpa using h.ne_nil
  rw [Host.parse]
  · simp only [percentDecode?, hpercent, Bool.false_eq_true, if_false, Option.bind_some,
      Idna.toAscii?_plain h, Host.ofDomain, hne, Ipv4.endsInNumber_plain h]
  · exact hbracket

end Url

-- ---------------------------------------------------------------------------
-- Hosts with ports
-- ---------------------------------------------------------------------------

structure Site where
  host : List Char
  port : Option (List Char)
  suffix : List Char
  plain : Url.IsPlainName host
  inRange : ∀ digits ∈ port, digits ≠ [] ∧ digits.all Char.isDigit = true ∧
    Nat.ofDigitChars 10 digits 0 ≤ 65535
  apart : ∀ c ∈ suffix.head?, c ∈ ['/', '?', '#']

namespace Site

def authority (s : Site) : List Char := s.host ++ s.port.elim [] (':' :: ·)

def text (s : Site) : String := String.ofList (s.authority ++ s.suffix)

def number? (s : Site) : Option Nat := s.port.map (Nat.ofDigitChars 10 · 0)

def name (s : Site) : String := String.ofList (s.host.map Char.toLower)

end Site

namespace Url

theorem readPort_digits (hd : digits.all Char.isDigit = true) (hne : digits ≠ [])
    (hr : Nat.ofDigitChars 10 digits 0 ≤ 65535) :
    readPort digits = .ok (some (Nat.ofDigitChars 10 digits 0), []) := by
  have hspan : digits.span Char.isDigit = (digits, []) := span_self (List.all_eq_true.mp hd)
  have hfold : digits.foldl (fun n c => 10 * n + (c.toNat - '0'.toNat)) 0 =
      Nat.ofDigitChars 10 digits 0 := rfl
  simp only [readPort, hspan, hfold]
  simp [hne, hr]

theorem splitHost_plain {host rest : List Char} (hh : ∀ c ∈ host, isNameChar c = true)
    (hr : rest.head?.all (· == ':') = true) : splitHost false (host ++ rest) = (host, rest) := by
  induction host with
  | nil =>
    cases rest with
    | nil => rfl
    | cons c cs =>
      have hc : c = ':' := by simpa using hr
      simp [splitHost, hc]
  | cons c host ih =>
    rw [List.forall_mem_cons] at hh
    have hcolon : c ≠ ':' := by
      rintro rfl
      cases hh.1
    have hbracket : (c == '[') = false := by
      rw [beq_eq_false_iff_ne]
      rintro rfl
      cases hh.1
    simp [splitHost, hcolon, hbracket, ih hh.2]

theorem splitLast_none (h : c ∉ cs) : splitLast c cs = none := by
  have hspan : cs.reverse.span (· != c) = (cs.reverse, []) := by
    refine span_self fun d hd => ?_
    rw [bne_iff_ne]
    rintro rfl
    exact h (List.mem_reverse.mp hd)
  simp only [splitLast, hspan]

end Url

namespace Site

open Url

variable (s : Site)

theorem name_ne_empty : s.name ≠ "" := by
  simp [name, s.plain.ne_nil]

theorem readHost_special {scheme : String} (hs : isSpecial scheme = true) :
    readHost scheme s.host = .ok (.name s.name) := by
  have hempty : s.host.isEmpty = false := by simpa using s.plain.ne_nil
  simp only [readHost, hs, hempty, s.plain.parse]
  rfl

theorem readHostPort {scheme text : String} (hh : readHost scheme s.host = .ok (.name text))
    (hne : text ≠ "") :
    Url.readHostPort scheme s.authority =
      .ok (some (.name text), s.number?.filter (some · ≠ defaultPort? scheme), []) := by
  have hsplit : splitHost false s.authority = (s.host, s.port.elim [] (':' :: ·)) := by
    refine splitHost_plain (fun c hc => s.plain.isNameChar hc) ?_
    cases s.port <;> rfl
  have hnonempty : (Host.name text).nonempty? = some (.name text) := by
    unfold Host.nonempty?
    split
    next heq => exact absurd (Host.name.inj heq) hne
    next => rfl
  rw [Url.readHostPort, hsplit]
  simp only [hh, hnonempty, bind, Except.bind]
  cases hp : s.port with
  | none => simp [number?, hp, pure, Except.pure]
  | some digits =>
    obtain ⟨hne, hd, hr⟩ := s.inRange digits hp
    simp only [Option.elim_some, readPort_digits hd hne hr, number?, hp, Option.map_some]
    generalize Nat.ofDigitChars 10 digits 0 = n
    by_cases hdefault : some n = defaultPort? scheme
    · rw [Option.filter_some, if_pos hdefault, if_neg (by simpa using hdefault)]
      rfl
    · rw [Option.filter_some, if_neg hdefault, if_pos (decide_eq_true hdefault)]
      rfl

theorem authority_all {P : Char → Bool} (hcolon : P ':' = true)
    (h : ((List.range 0x80).map Char.ofNat).all (fun c => !isNameChar c || P c) = true) :
    ∀ c ∈ s.authority, P c = true := by
  intro c hc
  rcases List.mem_append.mp hc with hc | hc
  · exact name_all h (s.plain.isNameChar hc)
  · cases hp : s.port with
    | none => simp [hp] at hc
    | some digits =>
      rw [hp, Option.elim_some, List.mem_cons] at hc
      rcases hc with rfl | hc
      · exact hcolon
      · have hd := List.all_eq_true.mp (s.inRange digits hp).2.1 c hc
        exact name_all h (by simp [isNameChar, isLabelChar, Char.isAlphanum, hd])

theorem authority_ne_nil : s.authority ≠ [] := by
  simp [authority, s.plain.ne_nil]

theorem head_all {P : Char → Bool} (h : ['/', '?', '#'].all P = true) {rest : List Char}
    (hr : rest.head? = s.suffix.head?) : rest.head?.all P = true := by
  rw [hr]
  cases hs : s.suffix.head? with
  | none => rfl
  | some c => exact List.all_eq_true.mp h c (s.apart c hs)

theorem parseHosted {scheme text : String} (hh : readHost scheme s.host = .ok (.name text))
    (hne : text ≠ "") {rest : List Char} (hr : rest.head? = s.suffix.head?) :
    Url.parseHosted scheme (s.authority ++ rest) = .ok (finish scheme
      (some ⟨"", "", some (.name text), s.number?.filter (some · ≠ defaultPort? scheme)⟩)
      (hostPath (isSpecial scheme)) rest) := by
  have hspan : ∀ special, (s.authority ++ rest).span (!endsAuthority special ·) =
      (s.authority, rest) := by
    intro special
    cases special
    · exact span_append (s.authority_all rfl (by decide +kernel)) (s.head_all rfl hr)
    · exact span_append (s.authority_all rfl (by decide +kernel)) (s.head_all rfl hr)
  have hat : splitLast '@' s.authority = none := by
    refine splitLast_none fun hm => ?_
    exact absurd (s.authority_all (P := (· != '@')) rfl (by decide +kernel) '@' hm) (by decide)
  simp only [Url.parseHosted, hspan, readAuthority, hat, s.readHostPort hh hne, bind, Except.bind,
    pure, Except.pure, List.nil_append]

end Site

-- ---------------------------------------------------------------------------
-- Whole texts
-- ---------------------------------------------------------------------------

namespace Url

def trail (cs : List Char) : List Char :=
  (cs.reverse.dropWhile isEdge).reverse.filter (!isSkipped ·)

theorem trail_cons (h : isEdge c = false) (cs : List Char) : trail (c :: cs) = c :: trail cs := by
  have hkept : isSkipped c = false := by
    have hn : 0x20 < c.toNat := by simpa [isEdge] using h
    simp only [isSkipped, Bool.or_eq_false_iff, beq_eq_false_iff_ne]
    refine ⟨⟨?_, ?_⟩, ?_⟩ <;> rintro rfl <;> simp at hn
  have hdrop : (cs.reverse ++ [c]).dropWhile isEdge = cs.reverse.dropWhile isEdge ++ [c] := by
    rw [List.dropWhile_append]
    split
    next he => simp [List.isEmpty_iff.mp he, h]
    next => rfl
  simp [trail, hdrop, hkept]

theorem trail_append {as : List Char} (h : ∀ c ∈ as, isEdge c = false) (cs : List Char) :
    trail (as ++ cs) = as ++ trail cs := by
  induction as with
  | nil => rfl
  | cons c as ih =>
    rw [List.forall_mem_cons] at h
    rw [List.cons_append, trail_cons h.1, ih h.2, List.cons_append]

theorem clean_append {as : List Char} (hne : as ≠ []) (h : ∀ c ∈ as, isEdge c = false)
    (cs : List Char) : clean (as ++ cs) = as ++ trail cs := by
  rw [← trail_append h]
  obtain ⟨c, as, rfl⟩ := List.exists_cons_of_ne_nil hne
  have hc : isEdge c = false := h c List.mem_cons_self
  rw [clean, List.cons_append, List.dropWhile_cons_of_neg (by simp [hc])]
  rfl

theorem splitScheme?_colon {scheme : List Char} (hh : scheme.head?.any Char.isAlpha = true)
    (hs : ∀ c ∈ scheme, isSchemeChar c = true) (rest : List Char) :
    splitScheme? (scheme ++ ':' :: rest) =
      some (String.ofList (scheme.map Char.toLower), rest) := by
  have hhead : (scheme ++ ':' :: rest).head?.any Char.isAlpha = true := by
    cases scheme with
    | nil => cases hh
    | cons c cs => exact hh
  have hspan : (scheme ++ ':' :: rest).span isSchemeChar = (scheme, ':' :: rest) :=
    span_append hs rfl
  simp only [splitScheme?, hhead, if_true, hspan]

theorem parse_of_scheme {text scheme : String}
    (hs : splitScheme? (clean text.toList) = some (scheme, rest)) (hf : scheme ≠ "file") :
    parse text = if isSpecial scheme then parseHosted scheme (rest.dropWhile (isSlash true))
      else parseOther scheme rest := by
  unfold parse
  split
  next h =>
    rw [hs] at h
    cases h
  next h =>
    rw [hs] at h
    cases h
    exact absurd rfl hf
  next h =>
    rw [hs] at h
    cases h
    rfl

/-- The schemes with hosts that are looked up. A file may do without one. -/
def lookedUp : List String := ["http", "https", "ws", "wss", "ftp"]

theorem special_of_lookedUp {scheme : String} (h : scheme ∈ lookedUp) :
    isSpecial scheme = true ∧ scheme ≠ "file" := by
  have hall : ∀ scheme ∈ lookedUp, isSpecial scheme = true ∧ scheme ≠ "file" := by decide
  exact hall scheme h

theorem letters_of_lookedUp {plain : String} (hp : plain ∈ lookedUp) {written : List Char}
    (hl : written.map Char.toLower = plain.toList) :
    written.head?.any Char.isAlpha = true ∧ ∀ c ∈ written, c.isAlpha = true := by
  have hall : ∀ plain ∈ lookedUp,
      plain.toList ≠ [] ∧ plain.toList.all Char.isLower = true := by decide
  obtain ⟨hne, hlower⟩ := hall plain hp
  have hletters : ∀ c ∈ written, c.isAlpha = true := by
    intro c hc
    have hm : c.toLower ∈ plain.toList := hl ▸ List.mem_map.mpr ⟨c, hc, rfl⟩
    exact (isLower_toLower c).mp (List.all_eq_true.mp hlower _ hm)
  refine ⟨?_, hletters⟩
  cases written with
  | nil => exact absurd hl.symm hne
  | cons c cs => exact hletters c List.mem_cons_self

theorem not_special_of_point {scheme : String} (h : '.' ∈ scheme.toList) :
    isSpecial scheme = false ∧ scheme ≠ "file" := by
  have hne : ∀ other : String, '.' ∉ other.toList → scheme ≠ other := by
    rintro other ho rfl
    exact ho h
  have hfile : scheme ≠ "file" := hne "file" (by decide)
  have hport : defaultPort? scheme = none := by
    unfold defaultPort?
    split
    · exact absurd rfl (hne "http" (by decide))
    · exact absurd rfl (hne "ws" (by decide))
    · exact absurd rfl (hne "https" (by decide))
    · exact absurd rfl (hne "wss" (by decide))
    · exact absurd rfl (hne "ftp" (by decide))
    · rfl
  simp [isSpecial, hport, hfile]

theorem parseOther_hostless {cs : List Char} (h : cs.head? ≠ some '/') (scheme : String) :
    ∃ url, parseOther scheme cs = .ok url ∧ url.host? = none := by
  unfold parseOther
  split
  · exact absurd rfl h
  · exact absurd rfl h
  · exact ⟨_, rfl, rfl⟩

end Url

namespace Site

open Url

variable (s : Site)

/-- The origin of a site, with its port unless the scheme implies it. -/
def origin (scheme : String) (default : Nat) : String :=
  scheme ++ "://" ++ s.name ++ (s.number?.filter (· ≠ default)).elim "" (":" ++ toString ·)

def url (scheme : String) : Url :=
  finish scheme
    (some ⟨"", "", some (.name s.name), s.number?.filter (some · ≠ defaultPort? scheme)⟩)
    (hostPath true) (trail s.suffix)

theorem origin_url {scheme : String} {default : Nat}
    (hd : defaultPort? scheme = some default) :
    (s.url scheme).origin = s.origin scheme default := by
  have hport : s.number?.filter (some · ≠ defaultPort? scheme) =
      s.number?.filter (· ≠ default) := by simp [hd]
  change scheme ++ "://" ++ s.name ++ portText (s.number?.filter (some · ≠ defaultPort? scheme)) = _
  rw [hport, origin]
  cases s.number?.filter (· ≠ default) <;> rfl

theorem trail_head : (trail s.suffix).head? = s.suffix.head? := by
  have hall := s.head_all (P := fun c => !isEdge c) rfl rfl
  cases hs : s.suffix with
  | nil => rfl
  | cons c cs =>
    have hc : isEdge c = false := by simpa [hs] using hall
    rw [trail_cons hc]
    rfl

theorem authority_visible : ∀ c ∈ s.authority, isEdge c = false := by
  intro c hc
  simpa using s.authority_all (P := fun c => !isEdge c) rfl (by decide +kernel) c hc

theorem splitScheme?_alone :
    splitScheme? (s.authority ++ trail s.suffix) = none ∨ ∃ digits, s.port = some digits ∧
      splitScheme? (s.authority ++ trail s.suffix) = some (s.name, digits ++ trail s.suffix) := by
  have hscheme : ∀ c ∈ s.host, isSchemeChar c = true := fun c hc =>
    name_all (by decide +kernel) (s.plain.isNameChar hc)
  have hhead : (s.authority ++ trail s.suffix).head? = s.host.head? := by
    obtain ⟨c, cs, hc⟩ := List.exists_cons_of_ne_nil s.plain.ne_nil
    simp [authority, hc]
  -- a scheme starts with a letter and ends at a colon
  by_cases ha : s.host.head?.any Char.isAlpha = true
  · cases hp : s.port with
    | none =>
      refine .inl ?_
      have hspan : (s.authority ++ trail s.suffix).span isSchemeChar =
          (s.host, trail s.suffix) := by
        rw [authority, hp, Option.elim_none, List.append_nil]
        exact span_append hscheme (s.head_all rfl s.trail_head)
      have hcolon := s.head_all (P := (· != ':')) rfl s.trail_head
      simp only [splitScheme?, hhead, ha, if_true, hspan]
      split
      next heq =>
        rw [(Prod.mk.inj heq).2] at hcolon
        cases hcolon
      next => rfl
    | some digits =>
      refine .inr ⟨digits, rfl, ?_⟩
      rw [authority, hp, Option.elim_some, List.append_assoc, List.cons_append]
      exact splitScheme?_colon ha hscheme _
  · refine .inl ?_
    rw [splitScheme?, hhead, if_neg ha]

theorem parse_alone :
    Url.parse s.text = .error .noScheme ∨ ∃ url, Url.parse s.text = .ok url ∧ url.host? = none := by
  have hclean : clean s.text.toList = s.authority ++ trail s.suffix := by
    rw [text, String.toList_ofList, clean_append s.authority_ne_nil s.authority_visible]
  rcases s.splitScheme?_alone with hn | ⟨digits, hp, hs⟩
  · refine .inl ?_
    rw [Url.parse, hclean, hn]
  · refine .inr ?_
    rw [← hclean] at hs
    -- the point in the name keeps it from being a scheme with a host
    have hpoint : '.' ∈ s.name.toList := by
      rw [name, String.toList_ofList]
      exact List.mem_map.mpr ⟨'.', s.plain.point_mem, rfl⟩
    obtain ⟨hspecial, hfile⟩ := not_special_of_point hpoint
    have hhead : (digits ++ trail s.suffix).head? ≠ some '/' := by
      obtain ⟨hne, hd, -⟩ := s.inRange digits hp
      obtain ⟨c, cs, rfl⟩ := List.exists_cons_of_ne_nil hne
      rintro hc
      cases hc
      simp at hd
    rw [parse_of_scheme hs hfile, hspecial]
    exact parseOther_hostless hhead s.name

theorem dropWhile_slashes {slashes : List Char} (h : ∀ c ∈ slashes, isSlash true c = true)
    (rest : List Char) :
    (slashes ++ (s.authority ++ rest)).dropWhile (isSlash true) = s.authority ++ rest := by
  have hall := s.authority_all (P := fun c => !isSlash true c) rfl (by decide +kernel)
  obtain ⟨c, cs, hc⟩ := List.exists_cons_of_ne_nil s.authority_ne_nil
  rw [hc] at hall ⊢
  have hslash : isSlash true c = false := by simpa using hall c List.mem_cons_self
  rw [List.dropWhile_append_of_pos h, List.cons_append,
    List.dropWhile_cons_of_neg (by simp [hslash])]

/-- Behind a scheme with hosts that are looked up, in any letter case, a site is the host of a URL,
whatever slashes stand before it. -/
theorem parse_slashed {text plain : String} {name slashes rest : List Char}
    (hclean : clean text.toList = name ++ ':' :: (slashes ++ (s.authority ++ rest)))
    (hp : plain ∈ lookedUp) (hl : name.map Char.toLower = plain.toList)
    (hs : ∀ c ∈ slashes, isSlash true c = true) (hr : rest.head? = s.suffix.head?) :
    Url.parse text = .ok (finish plain
      (some ⟨"", "", some (.name s.name), s.number?.filter (some · ≠ defaultPort? plain)⟩)
      (hostPath true) rest) := by
  obtain ⟨hspecial, hfile⟩ := special_of_lookedUp hp
  obtain ⟨hhead, hletters⟩ := letters_of_lookedUp hp hl
  have hsplit : splitScheme? (clean text.toList) =
      some (plain, slashes ++ (s.authority ++ rest)) := by
    rw [hclean, splitScheme?_colon hhead, hl, String.ofList_toList]
    exact fun c hc => name_all (by decide +kernel) (isNameChar_of_isAlpha (hletters c hc))
  rw [parse_of_scheme hsplit hfile, if_pos hspecial, s.dropWhile_slashes hs,
    s.parseHosted (s.readHost_special hspecial) s.name_ne_empty hr, hspecial]

theorem clean_behind {scheme : List Char} (h : ∀ c ∈ scheme, c.isAlpha = true) :
    clean (scheme ++ ':' :: '/' :: '/' :: (s.authority ++ s.suffix)) =
      scheme ++ ':' :: '/' :: '/' :: (s.authority ++ trail s.suffix) := by
  -- the end of the text is cleaned alone, as what stands before the suffix is visible
  have hvisible : ∀ c ∈ scheme ++ ':' :: '/' :: '/' :: s.authority, isEdge c = false := by
    intro c hc
    rcases List.mem_append.mp hc with hc | hc
    · have hn := isNameChar_of_isAlpha (h c hc)
      simpa using name_all (P := fun c => !isEdge c) (by decide +kernel) hn
    · simp only [List.mem_cons] at hc
      rcases hc with rfl | rfl | rfl | hc
      · rfl
      · rfl
      · rfl
      · exact s.authority_visible c hc
  have hclean := clean_append (by simp) hvisible s.suffix
  simpa using hclean

/-- Behind a scheme, in any letter case, a site is the host of a URL. -/
theorem parse_behind (scheme plain : String) (hp : plain ∈ ["http", "https"])
    (hl : scheme.toList.map Char.toLower = plain.toList) :
    Url.parse (scheme ++ "://" ++ s.text) = .ok (s.url plain) := by
  have hlooked : plain ∈ lookedUp := by
    simp only [List.mem_cons, List.not_mem_nil, or_false] at hp
    rcases hp with rfl | rfl <;> decide
  have htext : (scheme ++ "://" ++ s.text).toList =
      scheme.toList ++ ':' :: '/' :: '/' :: (s.authority ++ s.suffix) := by
    simp [text]
  have hclean : clean (scheme ++ "://" ++ s.text).toList =
      scheme.toList ++ ':' :: (['/', '/'] ++ (s.authority ++ trail s.suffix)) := by
    rw [htext]
    exact s.clean_behind (letters_of_lookedUp hlooked hl).2
  exact s.parse_slashed hclean hlooked hl (by simp [isSlash]) s.trail_head

/-- A host that is given by name leads where it leads behind the scheme that is meant. -/
theorem parseHost_alone {found : Url} (h : Address.parseName s.text = .ok found) :
    Address.parseHost s.text = .ok found := by
  unfold Address.parseHost
  rcases s.parse_alone with he | ⟨other, ho, hn⟩
  · rw [he]
    exact h
  · rw [ho]
    simpa [hn] using h

/-- A site has one origin, whether it is given by name or behind a scheme, in whatever letter
case, and with whatever zeros before its port. -/
theorem plain_origins :
    (∃ url, Address.parseHost s.text = .ok url ∧ Address.parseHost ("http://" ++ s.text) = .ok url ∧
      url.origin = s.origin "http" 80) ∧
    ∀ scheme plain default, (plain, default) ∈ [("http", 80), ("https", 443)] →
      scheme.toList.map Char.toLower = plain.toList →
      ∃ url, Address.startingPoint? (scheme ++ "://" ++ s.text) = .ok (some url) ∧
        url.origin = s.origin plain default := by
  constructor
  · have hparse : Url.parse ("http://" ++ s.text) = .ok (s.url "http") :=
      s.parse_behind "http" "http" (by decide) rfl
    have hname : Address.parseName s.text = .ok (s.url "http") := by
      rw [Address.parseName, hparse]
      rfl
    refine ⟨s.url "http", s.parseHost_alone hname, ?_, s.origin_url rfl⟩
    rw [Address.parseHost, hparse]
    rfl
  · intro scheme plain default hp hl
    have hcheck : [("http", 80), ("https", 443)].all (fun (pair : String × Nat) =>
        ["http", "https"].contains pair.1 && defaultPort? pair.1 == some pair.2) = true := by decide
    have hpair := List.all_eq_true.mp hcheck _ hp
    simp only [Bool.and_eq_true, List.contains_eq_mem, decide_eq_true_eq, beq_iff_eq] at hpair
    refine ⟨s.url plain, ?_, s.origin_url hpair.2⟩
    rw [Address.startingPoint?, s.parse_behind scheme plain hpair.1 hl]
    rfl

def padded : Site where
  host := "7-A.b--2.Org".toList
  port := some "00080".toList
  suffix := "?@x:1 ".toList
  plain := ⟨by decide, by decide, by decide, by decide, by decide⟩
  inRange := by
    rintro digits ⟨⟩
    exact ⟨by decide, by decide, by decide⟩
  apart := by
    rintro c ⟨⟩
    decide

theorem plain_origins_padded :
    (∃ url, Address.parseHost "7-A.b--2.Org:00080?@x:1 " = .ok url ∧
      Address.parseHost "http://7-A.b--2.Org:00080?@x:1 " = .ok url ∧
      url.origin = "http://7-a.b--2.org") ∧
    "HttpS".toList.map Char.toLower = "https".toList ∧
    ∃ url, Address.startingPoint? "HttpS://7-A.b--2.Org:00080?@x:1 " = .ok (some url) ∧
      url.origin = "https://7-a.b--2.org:80" := by
  have htext : padded.text = "7-A.b--2.Org:00080?@x:1 " := by decide +kernel
  have hhttp : padded.origin "http" 80 = "http://7-a.b--2.org" := by decide +kernel
  have hhttps : padded.origin "https" 443 = "https://7-a.b--2.org:80" := by decide +kernel
  have hlower : "HttpS".toList.map Char.toLower = "https".toList := by decide
  obtain ⟨alone, behind⟩ := plain_origins padded
  have hbehind := behind "HttpS" "https" 443 (by decide) hlower
  rw [htext, hhttp] at alone
  rw [htext, hhttps] at hbehind
  exact ⟨alone, hlower, hbehind⟩

end Site

end StanzaLint
