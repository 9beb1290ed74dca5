import Mathlib.Data.List.Basic
import StanzaLint.Proofs.Utf8
import StanzaLint.Text.Blank

/-!
# Cutting before decoding

What decoding makes of bytes is said without a decoder (`Decodes`): the bytes of a
character become the character, and where no character stands, the longest part that a
character could start with, or else one byte, becomes one U+FFFD. The decoder does just
that (`decodes_iff`). A byte of ASCII ends whatever is unfinished before it
(`decodeUtf8_ascii`), so a file can be cut into lines before or after it is decoded.
-/

namespace StanzaLint.Text

open String (utf8EncodeChar)

-- ---------------------------------------------------------------------------
-- What decoding means
-- ---------------------------------------------------------------------------

/-- Some of the first bytes of a character, but not all of them. -/
structure IsOpening (part : List UInt8) : Prop where
  ne_nil : part ≠ []
  goes_on : ∃ c rest, rest ≠ [] ∧ utf8EncodeChar c = part ++ rest

/-- No character stands at the beginning of `part ++ rest`, and `part` is what is given up
there: as much as a character could start with, but at least one byte. -/
structure IsInvalid (part rest : List UInt8) : Prop where
  no_char : ∀ c, ¬utf8EncodeChar c <+: part ++ rest
  start : IsOpening part ∨ part.length = 1
  longest : ∀ other, other <+: part ++ rest → IsOpening other → other.length ≤ part.length

inductive Decodes : (bytes : List UInt8) → (text : List Char) → Prop
  | nil : Decodes [] []
  | char (c : Char) : Decodes bytes text → Decodes (utf8EncodeChar c ++ bytes) (c :: text)
  | invalid : IsInvalid part bytes → Decodes bytes text →
    Decodes (part ++ bytes) (replacement :: text)

-- ---------------------------------------------------------------------------
-- Characters of two, three and four bytes
-- ---------------------------------------------------------------------------

theorem encodeChar_ofNat (h : n.isValidChar) :
    utf8EncodeChar (Char.ofNat n) =
      if n ≤ 0x7F then [UInt8.ofNat n]
      else if n ≤ 0x7FF then [UInt8.ofNat (n / 64 % 32 + 0xC0), UInt8.ofNat (n % 64 + 0x80)]
      else if n ≤ 0xFFFF then [UInt8.ofNat (n / 4096 % 16 + 0xE0),
        UInt8.ofNat (n / 64 % 64 + 0x80), UInt8.ofNat (n % 64 + 0x80)]
      else [UInt8.ofNat (n / 262144 % 8 + 0xF0), UInt8.ofNat (n / 4096 % 64 + 0x80),
        UInt8.ofNat (n / 64 % 64 + 0x80), UInt8.ofNat (n % 64 + 0x80)] := by
  have hn : (Char.ofNat n).toNat = n := by
    rw [Char.ofNat, dif_pos h]
    rfl
  rw [utf8EncodeChar, Char.toNat_val, hn]

theorem ofNat_eq_of_toNat {b : UInt8} (h : n = b.toNat) : UInt8.ofNat n = b := by
  rw [h, UInt8.ofNat_toNat]

def IsTrail (b : UInt8) : Prop := 0x80 ≤ b ∧ b ≤ 0xBF

theorem IsTrail.toNat {b : UInt8} (h : IsTrail b) : 0x80 ≤ b.toNat ∧ b.toNat ≤ 0xBF := h

theorem encodeChar_two {b x : UInt8} (hl : 0xC2 ≤ b.toNat) (hh : b.toNat < 0xE0) (hx : IsTrail x) :
    ∃ c, utf8EncodeChar c = [b, x] := by
  have hx := hx.toNat
  refine ⟨Char.ofNat ((b.toNat - 0xC0) * 64 + (x.toNat - 0x80)), ?_⟩
  rw [encodeChar_ofNat (.inl (by omega)), if_neg (by omega), if_pos (by omega),
    ofNat_eq_of_toNat (b := b) (by omega), ofNat_eq_of_toNat (b := x) (by omega)]

theorem encodeChar_three {b x y : UInt8} (hl : 0xE0 ≤ b.toNat) (hh : b.toNat < 0xF0)
    (hx : IsTrail x) (hlow : b.toNat = 0xE0 → 0xA0 ≤ x.toNat)
    (hhigh : b.toNat = 0xED → x.toNat ≤ 0x9F) (hy : IsTrail y) :
    ∃ c, utf8EncodeChar c = [b, x, y] := by
  have hx := hx.toNat
  have hy := hy.toNat
  refine ⟨Char.ofNat ((b.toNat - 0xE0) * 4096 + (x.toNat - 0x80) * 64 + (y.toNat - 0x80)), ?_⟩
  have hvalid : Nat.isValidChar
      ((b.toNat - 0xE0) * 4096 + (x.toNat - 0x80) * 64 + (y.toNat - 0x80)) := by
    unfold Nat.isValidChar
    omega
  rw [encodeChar_ofNat hvalid, if_neg (by omega), if_neg (by omega), if_pos (by omega),
    ofNat_eq_of_toNat (b := b) (by omega), ofNat_eq_of_toNat (b := x) (by omega),
    ofNat_eq_of_toNat (b := y) (by omega)]

theorem encodeChar_four {b x y z : UInt8} (hl : 0xF0 ≤ b.toNat) (hh : b.toNat < 0xF5)
    (hx : IsTrail x) (hlow : b.toNat = 0xF0 → 0x90 ≤ x.toNat)
    (hhigh : b.toNat = 0xF4 → x.toNat ≤ 0x8F) (hy : IsTrail y) (hz : IsTrail z) :
    ∃ c, utf8EncodeChar c = [b, x, y, z] := by
  have hx := hx.toNat
  have hy := hy.toNat
  have hz := hz.toNat
  refine ⟨Char.ofNat ((b.toNat - 0xF0) * 262144 + (x.toNat - 0x80) * 4096 +
    (y.toNat - 0x80) * 64 + (z.toNat - 0x80)), ?_⟩
  have hvalid : Nat.isValidChar ((b.toNat - 0xF0) * 262144 + (x.toNat - 0x80) * 4096 +
      (y.toNat - 0x80) * 64 + (z.toNat - 0x80)) := by
    unfold Nat.isValidChar
    omega
  rw [encodeChar_ofNat hvalid, if_neg (by omega), if_neg (by omega), if_neg (by omega),
    ofNat_eq_of_toNat (b := b) (by omega), ofNat_eq_of_toNat (b := x) (by omega),
    ofNat_eq_of_toNat (b := y) (by omega), ofNat_eq_of_toNat (b := z) (by omega)]

-- ---------------------------------------------------------------------------
-- Unfinished characters
-- ---------------------------------------------------------------------------

theorem decodeUtf8From_some_ne_nil (u : Unfinished) (bs : List UInt8) :
    decodeUtf8From (some u) bs ≠ [] := by
  induction bs generalizing u with
  | nil => simp [decodeUtf8From]
  | cons b bs ih =>
    rw [decodeUtf8From_feed, Unfinished.feed]
    split
    · split
      · simp
      · simpa using ih _
    · simp

/-- A first byte stands for itself, is no first byte, or leaves a character unfinished. -/
theorem beginUtf8_cases (b : UInt8) :
    (∃ c, beginUtf8 b = ([c], none) ∧ (b < 0x80 ∨ c = replacement)) ∨
      ∃ u, beginUtf8 b = ([], some u) ∧ 0x80 ≤ u.low ∧ u.low ≤ u.high := by
  unfold beginUtf8
  split
  · next hlt => exact .inl ⟨_, rfl, .inl hlt⟩
  split
  · exact .inl ⟨_, rfl, .inr rfl⟩
  split
  · exact .inr ⟨_, rfl, UInt8.le_refl 0x80, show (0x80 : UInt8) ≤ 0xBF by decide⟩
  split
  · refine .inr ⟨_, rfl, ?_⟩
    by_cases h : b = 0xE0
    · subst h
      decide
    · simp only [if_neg h]
      split <;> decide
  split
  · refine .inr ⟨_, rfl, ?_⟩
    by_cases h : b = 0xF0
    · subst h
      decide
    · simp only [if_neg h]
      split <;> decide
  · exact .inl ⟨_, rfl, .inr rfl⟩

theorem decodeUtf8_ne_nil {bs : List UInt8} (h : bs ≠ []) : decodeUtf8 bs ≠ [] := by
  obtain ⟨b, bs, rfl⟩ := List.exists_cons_of_ne_nil h
  rw [decodeUtf8, decodeUtf8From_begin]
  rcases beginUtf8_cases b with ⟨c, hb, -⟩ | ⟨u, hb, -⟩
  · simp [hb]
  · simpa [hb] using decodeUtf8From_some_ne_nil u bs

/-- The decoder has read `part` and waits for the rest of a character. Whatever it waits for
is the rest of one. -/
structure Awaits (part : List UInt8) (u : Unfinished) : Prop where
  reads : ∀ bs, decodeUtf8 (part ++ bs) = decodeUtf8From (some u) bs
  completes : ∀ b bs, u.low ≤ b → b ≤ u.high → bs.length = u.missing → (∀ x ∈ bs, IsTrail x) →
    ∃ c, utf8EncodeChar c = part ++ b :: bs

theorem Awaits.first (h : beginUtf8 b = ([], some u)) : Awaits [b] u := by
  refine ⟨fun bs => ?_, fun x bs hl hh hlen ht => ?_⟩
  · rw [List.singleton_append, decodeUtf8, decodeUtf8From_begin, h, List.nil_append]
  unfold beginUtf8 at h
  split at h
  · cases h
  split at h
  · cases h
  next hC2 =>
  rw [UInt8.lt_iff_toNat_lt, Nat.not_lt] at hC2
  split at h
  · next hE0 =>
    cases h
    cases List.eq_nil_of_length_eq_zero hlen
    exact encodeChar_two hC2 hE0 ⟨hl, hh⟩
  next hE0 =>
  rw [UInt8.lt_iff_toNat_lt, Nat.not_lt] at hE0
  split at h
  · next hF0 =>
    cases h
    dsimp only at hl hh hlen
    obtain ⟨y, rfl⟩ := List.length_eq_one_iff.mp hlen
    have hlow : b.toNat = 0xE0 → 0xA0 ≤ x.toNat := fun he => by
      rwa [if_pos (UInt8.toNat_inj.mp he)] at hl
    have hhigh : b.toNat = 0xED → x.toNat ≤ 0x9F := fun he => by
      rwa [if_pos (UInt8.toNat_inj.mp he)] at hh
    have hx : IsTrail x := by
      refine ⟨UInt8.le_trans ?_ hl, UInt8.le_trans hh ?_⟩ <;> split <;> decide
    exact encodeChar_three hE0 hF0 hx hlow hhigh (ht y (List.mem_singleton_self y))
  next hF0 =>
  rw [UInt8.lt_iff_toNat_lt, Nat.not_lt] at hF0
  split at h
  · next hF5 =>
    cases h
    dsimp only at hl hh hlen
    obtain ⟨y, z, rfl⟩ := List.length_eq_two.mp hlen
    have hlow : b.toNat = 0xF0 → 0x90 ≤ x.toNat := fun he => by
      rwa [if_pos (UInt8.toNat_inj.mp he)] at hl
    have hhigh : b.toNat = 0xF4 → x.toNat ≤ 0x8F := fun he => by
      rwa [if_pos (UInt8.toNat_inj.mp he)] at hh
    have hx : IsTrail x := by
      refine ⟨UInt8.le_trans ?_ hl, UInt8.le_trans hh ?_⟩ <;> split <;> decide
    exact encodeChar_four hF0 hF5 hx hlow hhigh (ht y (by simp)) (ht z (by simp))
  · cases h

theorem Awaits.exists_char (h : Awaits part u) (hl : u.low ≤ b) (hh : b ≤ u.high) :
    ∃ c rest, utf8EncodeChar c = part ++ b :: rest := by
  have htrail : ∀ x ∈ List.replicate u.missing (0x80 : UInt8), IsTrail x := by
    intro x hx
    rw [List.eq_of_mem_replicate hx]
    exact ⟨UInt8.le_refl _, by decide⟩
  obtain ⟨c, hc⟩ := h.completes b _ hl hh List.length_replicate htrail
  exact ⟨c, _, hc⟩

theorem Awaits.next (h : Awaits part ⟨m + 1, low, high, bits⟩) (hl : low ≤ b) (hh : b ≤ high) :
    Awaits (part ++ [b]) ⟨m, 0x80, 0xBF, bits * 64 + (b.toNat - 0x80)⟩ := by
  refine ⟨fun bs => ?_, fun x bs hxl hxh hlen ht => ?_⟩
  · rw [List.append_assoc, h.reads, List.singleton_append, decodeUtf8From_feed]
    simp only [Unfinished.feed, if_pos (And.intro hl hh), List.nil_append]
  · have hbs : (x :: bs).length = m + 1 := congrArg (· + 1) hlen
    have htrail : ∀ y ∈ x :: bs, IsTrail y := List.forall_mem_cons.mpr ⟨⟨hxl, hxh⟩, ht⟩
    rw [List.append_assoc]
    exact h.completes b (x :: bs) hl hh hbs htrail

/-- The next byte of a character is one that the decoder waits for, and not the last one if more
of them follow. -/
theorem Awaits.expects (h : Awaits part u) (hc : utf8EncodeChar c = part ++ b :: rest) :
    u.low ≤ b ∧ b ≤ u.high ∧ (u.missing = 0 → rest = []) := by
  have hd : decodeUtf8 (utf8EncodeChar c ++ []) = [c] := decodeUtf8From_encodeChar c []
  rw [List.append_nil, hc, h.reads, decodeUtf8From_feed, Unfinished.feed] at hd
  split at hd
  · next hr =>
    refine ⟨hr.1, hr.2, fun hm => ?_⟩
    rw [hm] at hd
    simp only [List.singleton_append, List.cons.injEq] at hd
    exact Classical.byContradiction fun hne => decodeUtf8_ne_nil hne hd.2
  · -- a byte that is cut off is read again, and gives a second character
    simp only [List.cons_append, List.cons.injEq] at hd
    rw [← decodeUtf8From_begin] at hd
    exact absurd hd.2 (decodeUtf8_ne_nil (List.cons_ne_nil b rest))

theorem Awaits.more (h : Awaits part u) (hc : utf8EncodeChar c = part ++ (left ++ rest))
    (hrest : rest ≠ []) : ∃ v, Awaits (part ++ left) v := by
  induction left generalizing part u with
  | nil => exact ⟨u, by rwa [List.append_nil]⟩
  | cons b left ih =>
    obtain ⟨hl, hh, hm⟩ := h.expects hc
    obtain ⟨missing, low, high, bits⟩ := u
    cases missing with
    | zero => exact absurd (List.append_eq_nil_iff.mp (hm rfl)).2 hrest
    | succ m =>
      obtain ⟨v, hv⟩ := ih (h.next hl hh) (by simpa using hc)
      exact ⟨v, by simpa using hv⟩

theorem IsOpening.awaits (h : IsOpening part) : ∃ u, Awaits part u := by
  obtain ⟨b, left, rfl⟩ := List.exists_cons_of_ne_nil h.ne_nil
  obtain ⟨c, rest, hrest, hc⟩ := h.goes_on
  rcases beginUtf8_cases b with ⟨d, hb, -⟩ | ⟨u, hb, -⟩
  · have hd : decodeUtf8 (utf8EncodeChar c ++ []) = [c] := decodeUtf8From_encodeChar c []
    rw [List.append_nil, hc, decodeUtf8, List.cons_append, decodeUtf8From_begin, hb] at hd
    have hnil : decodeUtf8 (left ++ rest) = [] := (List.cons.inj hd).2
    exact absurd hnil (decodeUtf8_ne_nil (by simp [hrest]))
  · exact (Awaits.first hb).more hc hrest

-- ---------------------------------------------------------------------------
-- The decoder
-- ---------------------------------------------------------------------------

theorem beginUtf8_of_invalid (hchar : ¬∃ c, utf8EncodeChar c = [b]) (hopen : ¬IsOpening [b]) :
    beginUtf8 b = ([replacement], none) := by
  rcases beginUtf8_cases b with ⟨c, hb, hlt | rfl⟩ | ⟨u, hb, -, hu⟩
  · rw [UInt8.lt_iff_toNat_lt] at hlt
    refine absurd ⟨Char.ofNat b.toNat, ?_⟩ hchar
    rw [encodeChar_ofNat (.inl (Nat.lt_trans hlt (by decide))), if_pos (Nat.le_of_lt_succ hlt),
      UInt8.ofNat_toNat]
  · exact hb
  · obtain ⟨c, rest, hc⟩ := (Awaits.first hb).exists_char (UInt8.le_refl _) hu
    exact absurd ⟨List.cons_ne_nil b [], c, _, List.cons_ne_nil _ _, hc⟩ hopen

theorem decodeUtf8_invalid (h : IsInvalid part rest) :
    decodeUtf8 (part ++ rest) = replacement :: decodeUtf8 rest := by
  by_cases hopen : IsOpening part
  · obtain ⟨u, hu⟩ := hopen.awaits
    rw [hu.reads]
    cases rest with
    | nil => rfl
    | cons b rest =>
      -- with a byte that the decoder waits for there were a character, or a longer opening
      have hr : ¬(u.low ≤ b ∧ b ≤ u.high) := by
        rintro ⟨hl, hh⟩
        obtain ⟨c, left, hc⟩ := hu.exists_char hl hh
        have hstart : part ++ [b] <+: part ++ b :: rest := ⟨rest, by simp⟩
        by_cases hleft : left = []
        · rw [hleft] at hc
          exact h.no_char c (hc ▸ hstart)
        · have hlonger : IsOpening (part ++ [b]) := ⟨by simp, c, left, hleft, by simp [hc]⟩
          have hlen := h.longest _ hstart hlonger
          rw [List.length_append] at hlen
          exact absurd hlen (Nat.not_succ_le_self _)
      rw [decodeUtf8From_feed, Unfinished.feed, if_neg hr]
      rfl
  · obtain ⟨b, rfl⟩ := List.length_eq_one_iff.mp (h.start.resolve_left hopen)
    have hchar : ¬∃ c, utf8EncodeChar c = [b] := by
      rintro ⟨c, hc⟩
      exact h.no_char c ⟨rest, by rw [hc]⟩
    rw [List.singleton_append, decodeUtf8, decodeUtf8From_begin, beginUtf8_of_invalid hchar hopen]
    rfl

theorem Decodes.eq_decodeUtf8 (h : Decodes bytes text) : text = decodeUtf8 bytes := by
  induction h with
  | nil => rfl
  | char c _ ih => rw [ih, decodeUtf8, decodeUtf8, decodeUtf8From_encodeChar]
  | invalid hpart _ ih => rw [decodeUtf8_invalid hpart, ih]

theorem IsOpening.shorten (h : IsOpening other) (hp : part <+: other) (hne : part ≠ []) :
    IsOpening part := by
  obtain ⟨more, rfl⟩ := hp
  obtain ⟨c, rest, hrest, hc⟩ := h.goes_on
  exact ⟨hne, c, more ++ rest, by simp [hrest], by rw [hc, List.append_assoc]⟩

theorem IsOpening.exists_longest (h : IsOpening part) (rest : List UInt8) :
    ∃ longest left, part ++ rest = longest ++ left ∧ IsOpening longest ∧
      ∀ other, other <+: part ++ rest → IsOpening other → other.length ≤ longest.length := by
  induction rest generalizing part with
  | nil =>
    refine ⟨part, [], rfl, h, fun other hp _ => ?_⟩
    rw [List.append_nil] at hp
    exact hp.length_le
  | cons b rest ih =>
    have hsplit : part ++ b :: rest = (part ++ [b]) ++ rest := by simp
    by_cases hb : IsOpening (part ++ [b])
    · rw [hsplit]
      exact ih hb
    · refine ⟨part, b :: rest, rfl, h, fun other hp ho => Nat.le_of_not_lt fun hlt => hb ?_⟩
      have hle : (part ++ [b]).length ≤ other.length := by rwa [List.length_append]
      rw [hsplit] at hp
      exact ho.shorten (List.prefix_of_prefix_length_le (List.prefix_append _ _) hp hle) (by simp)

theorem exists_invalid {b : UInt8} {bytes : List UInt8}
    (h : ∀ c, ¬utf8EncodeChar c <+: b :: bytes) :
    ∃ part rest, b :: bytes = part ++ rest ∧ part ≠ [] ∧ IsInvalid part rest := by
  by_cases hb : IsOpening [b]
  · obtain ⟨longest, left, heq, ho, hlongest⟩ := hb.exists_longest bytes
    rw [List.singleton_append] at heq hlongest
    exact ⟨longest, left, heq, ho.ne_nil, heq ▸ h, .inl ho, heq ▸ hlongest⟩
  · refine ⟨[b], bytes, rfl, List.cons_ne_nil b [], h, .inr rfl, fun other hp ho => ?_⟩
    have hlen := List.length_pos_iff.mpr ho.ne_nil
    have hstart : [b] <+: other :=
      List.prefix_of_prefix_length_le (List.prefix_append [b] bytes) hp hlen
    exact absurd (ho.shorten hstart (List.cons_ne_nil b [])) hb

theorem exists_decodes (bytes : List UInt8) : ∃ text, Decodes bytes text := by
  induction hn : bytes.length using Nat.strongRecOn generalizing bytes with
  | ind n ih =>
    subst hn
    cases bytes with
    | nil => exact ⟨[], .nil⟩
    | cons b bytes =>
      by_cases hchar : ∃ c, utf8EncodeChar c <+: b :: bytes
      · obtain ⟨c, rest, heq⟩ := hchar
        have hpos := List.length_pos_iff.mpr (encodeChar_ne_nil c)
        rw [← heq] at ih ⊢
        obtain ⟨text, htext⟩ := ih rest.length (by rw [List.length_append]; omega) rest rfl
        exact ⟨c :: text, .char c htext⟩
      · obtain ⟨part, rest, heq, hpart, hinvalid⟩ := exists_invalid (not_exists.mp hchar)
        have hpos := List.length_pos_iff.mpr hpart
        rw [heq] at ih ⊢
        obtain ⟨text, htext⟩ := ih rest.length (by rw [List.length_append]; omega) rest rfl
        exact ⟨replacement :: text, .invalid hinvalid htext⟩

theorem decodes_iff {bytes : List UInt8} {text : List Char} :
    Decodes bytes text ↔ text = decodeUtf8 bytes := by
  refine ⟨Decodes.eq_decodeUtf8, ?_⟩
  rintro rfl
  obtain ⟨text, h⟩ := exists_decodes bytes
  exact h.eq_decodeUtf8 ▸ h

-- ---------------------------------------------------------------------------
-- Bytes of ASCII
-- ---------------------------------------------------------------------------

theorem decodeUtf8From_ascii {b : UInt8} (hb : b < 0x80) (xs ys : List UInt8)
    (state : Option Unfinished) (hs : ∀ u ∈ state, 0x80 ≤ u.low) :
    decodeUtf8From state (xs ++ b :: ys) =
      decodeUtf8From state xs ++ Char.ofNat b.toNat :: decodeUtf8 ys := by
  have hbegin : beginUtf8 b = ([Char.ofNat b.toNat], none) := if_pos hb
  have hnext : ∀ x, ∀ u ∈ (beginUtf8 x).2, 0x80 ≤ u.low := by
    intro x u hu
    rcases beginUtf8_cases x with ⟨c, hx, -⟩ | ⟨v, hx, hv, -⟩
    · simp [hx] at hu
    · rw [hx] at hu
      cases hu
      exact hv
  induction xs generalizing state with
  | nil =>
    cases state with
    | none =>
      rw [List.nil_append, decodeUtf8From_begin, hbegin]
      rfl
    | some u =>
      have hr : ¬(u.low ≤ b ∧ b ≤ u.high) := fun hr =>
        absurd (UInt8.le_trans (hs u rfl) hr.1) (UInt8.not_le.mpr hb)
      rw [List.nil_append, decodeUtf8From_feed, Unfinished.feed, if_neg hr, hbegin]
      rfl
  | cons x xs ih =>
    cases state with
    | none =>
      rw [List.cons_append, decodeUtf8From_begin, ih _ (hnext x), decodeUtf8From_begin,
        List.append_assoc]
    | some u =>
      have hfeed : ∀ v ∈ (u.feed x).2, 0x80 ≤ v.low := by
        intro v hv
        unfold Unfinished.feed at hv
        split at hv
        · split at hv
          · cases hv
          · cases hv
            exact UInt8.le_refl 0x80
        · exact hnext x v hv
      rw [List.cons_append, decodeUtf8From_feed, ih _ hfeed, decodeUtf8From_feed,
        List.append_assoc]

theorem decodeUtf8_ascii {b : UInt8} (hb : b < 0x80) (xs ys : List UInt8) :
    decodeUtf8 (xs ++ b :: ys) = decodeUtf8 xs ++ Char.ofNat b.toNat :: decodeUtf8 ys :=
  decodeUtf8From_ascii hb xs ys none fun u hu => by cases hu

theorem Decodes.of_ascii (h : Decodes bytes text) (ht : text = front ++ c :: after)
    (hc : c.toNat < 0x80) :
    ∃ xs ys, bytes = xs ++ UInt8.ofNat c.toNat :: ys ∧ Decodes ys after := by
  induction h generalizing front with
  | nil => simp at ht
  | @char bytes text d hd ih =>
    cases front with
    | nil =>
      cases ht
      exact ⟨[], bytes, by rw [encodeChar_ascii hc]; rfl, hd⟩
    | cons e front =>
      cases ht
      obtain ⟨xs, ys, rfl, hys⟩ := ih rfl
      exact ⟨utf8EncodeChar d ++ xs, ys, (List.append_assoc ..).symm, hys⟩
  | @invalid part bytes text hpart hd ih =>
    cases front with
    | nil =>
      cases ht
      exact absurd hc (by decide)
    | cons e front =>
      cases ht
      obtain ⟨xs, ys, rfl, hys⟩ := ih rfl
      exact ⟨part ++ xs, ys, (List.append_assoc ..).symm, hys⟩

theorem mem_of_mem_decodeUtf8 {c : Char} (hc : c.toNat < 0x80) {bytes : List UInt8}
    (h : c ∈ decodeUtf8 bytes) : UInt8.ofNat c.toNat ∈ bytes := by
  obtain ⟨front, after, heq⟩ := List.append_of_mem h
  obtain ⟨xs, ys, rfl, -⟩ := (decodes_iff.mpr rfl).of_ascii heq hc
  simp

theorem getLast?_of_decodeUtf8 {c : Char} (hc : c.toNat < 0x80) {bytes : List UInt8}
    (h : (decodeUtf8 bytes).getLast? = some c) : bytes.getLast? = some (UInt8.ofNat c.toNat) := by
  obtain ⟨front, heq⟩ := List.getLast?_eq_some_iff.mp h
  obtain ⟨xs, ys, rfl, hys⟩ := (decodes_iff.mpr rfl).of_ascii heq hc
  have hnil : ys = [] := Classical.byContradiction fun hne =>
    decodeUtf8_ne_nil hne hys.eq_decodeUtf8.symm
  simp [hnil]

-- ---------------------------------------------------------------------------
-- Lines
-- ---------------------------------------------------------------------------

def textLines (text : List Char) : List String :=
  if text.isEmpty then []
  else (split '\n' (dropFinal '\n' text)).map fun line => String.ofList (dropFinal '\r' line)

theorem textLines_ended {front : List Char} (h : '\n' ∉ front) (text : List Char) :
    textLines (front ++ '\n' :: text) =
      String.ofList (dropFinal '\r' front) :: textLines text := by
  rw [textLines, if_neg (by simp)]
  cases text with
  | nil =>
    rw [dropFinal_concat, split_of_not_mem h]
    rfl
  | cons c text =>
    have hd : dropFinal '\n' (front ++ '\n' :: c :: text) =
        front ++ '\n' :: dropFinal '\n' (c :: text) := dropFinal_append '\n' front (by simp)
    rw [hd, split_append_cons, split_of_not_mem h, textLines, if_neg (by simp)]
    rfl

theorem textLines_unended {text : List Char} (h : '\n' ∉ text) (hne : text ≠ []) :
    textLines text = [String.ofList (dropFinal '\r' text)] := by
  have hlast : text.getLast? ≠ some '\n' := fun hl => h (List.mem_of_getLast? hl)
  rw [textLines, if_neg (by simpa using hne), dropFinal_of_getLast?_ne hlast, split_of_not_mem h]
  rfl

theorem readLine_eq (bytes : List UInt8) :
    readLine bytes = String.ofList (dropFinal '\r' (decodeUtf8 bytes)) := by
  by_cases hlast : bytes.getLast? = some 0x0D
  · obtain ⟨front, rfl⟩ := List.getLast?_eq_some_iff.mp hlast
    have hd : decodeUtf8 (front ++ [0x0D]) = decodeUtf8 front ++ ['\r'] :=
      decodeUtf8_ascii (by decide) front []
    rw [readLine, hd, dropFinal_concat, dropFinal_concat]
  · have hd : (decodeUtf8 bytes).getLast? ≠ some '\r' := fun hd =>
      hlast (getLast?_of_decodeUtf8 (by decide) hd)
    rw [readLine, dropFinal_of_getLast?_ne hlast, dropFinal_of_getLast?_ne hd]

theorem fileLines_eq (content : List UInt8) :
    fileLines content = textLines (decodeUtf8 content) := by
  induction hn : content.length using Nat.strongRecOn generalizing content with
  | ind n ih =>
    subst hn
    have hunbroken : ∀ bytes : List UInt8, 0x0A ∉ bytes → '\n' ∉ decodeUtf8 bytes :=
      fun bytes hb hd => hb (mem_of_mem_decodeUtf8 (by decide) hd)
    by_cases hlf : 0x0A ∈ content
    · obtain ⟨line, rest, rfl, hline⟩ := List.eq_append_cons_of_mem hlf
      have hd : decodeUtf8 (line ++ 0x0A :: rest) = decodeUtf8 line ++ '\n' :: decodeUtf8 rest :=
        decodeUtf8_ascii (by decide) line rest
      rw [fileLines_ended hline, hd, textLines_ended (hunbroken line hline), readLine_eq,
        ih rest.length (by rw [List.length_append, List.length_cons]; omega) rest rfl]
    · by_cases hne : content = []
      · rw [hne]
        rfl
      · rw [fileLines_unended hlf hne, readLine_eq,
          textLines_unended (hunbroken content hlf) (decodeUtf8_ne_nil hne)]

/-- Bytes mean exactly one text, and the lines of a file are those of the text that all of it
means: whatever is invalid stays inside its line. -/
theorem lines_of_decoded (content : List UInt8) :
    ∃ text, (∀ other, Decodes content other ↔ other = text) ∧ fileLines content = textLines text :=
  ⟨decodeUtf8 content, fun _ => decodes_iff, fileLines_eq content⟩

/-- Characters that CR and LF cut short, and bytes that never start one. -/
example : fileLines [0x54, 0xE2, 0x82, 0x0D, 0x0A, 0xF0, 0x9F, 0x0A, 0xC0, 0xAF] =
    ["T\uFFFD", "\uFFFD", "\uFFFD\uFFFD"] := by decide

end StanzaLint.Text
