import StanzaLint.Text.Lines

/-!
# Encoded text can be read back

Decoding undoes encoding (`decodeUtf8_encodeUtf8`). The bytes of ASCII characters
occur in encoded text only where these characters do, so text that is written one
line after the other is cut into the same lines (`fileLines_written`).
-/

namespace StanzaLint.Text

-- ---------------------------------------------------------------------------
-- Characters
-- ---------------------------------------------------------------------------

theorem toNat_ofNat_of_lt (h : n < 256) : (UInt8.ofNat n).toNat = n := by
  rw [UInt8.toNat_ofNat']
  exact Nat.mod_eq_of_lt h

theorem decodeUtf8From_begin (b : UInt8) (bs : List UInt8) :
    decodeUtf8From none (b :: bs) = (beginUtf8 b).1 ++ decodeUtf8From (beginUtf8 b).2 bs := rfl

theorem decodeUtf8From_feed (u : Unfinished) (b : UInt8) (bs : List UInt8) :
    decodeUtf8From (some u) (b :: bs) = (u.feed b).1 ++ decodeUtf8From (u.feed b).2 bs := rfl

theorem Unfinished.feed_of_mem {u : Unfinished} {n : Nat} (hn : n < 64)
    (hl : u.low.toNat ≤ n + 0x80) (hh : n + 0x80 ≤ u.high.toNat) :
    u.feed (UInt8.ofNat (n + 0x80)) = match u.missing with
      | 0 => ([Char.ofNat (u.bits * 64 + n)], none)
      | m + 1 => ([], some ⟨m, 0x80, 0xBF, u.bits * 64 + n⟩) := by
  have ht : (UInt8.ofNat (n + 0x80)).toNat = n + 0x80 := toNat_ofNat_of_lt (by omega)
  have hr : u.low ≤ UInt8.ofNat (n + 0x80) ∧ UInt8.ofNat (n + 0x80) ≤ u.high := by
    rw [UInt8.le_iff_toNat_le, UInt8.le_iff_toNat_le, ht]
    exact ⟨hl, hh⟩
  cases hm : u.missing with
  | zero => simp only [feed, if_pos hr, ht, Nat.add_sub_cancel, hm]
  | succ m => simp only [feed, if_pos hr, ht, Nat.add_sub_cancel, hm]

theorem decodeUtf8From_last (hn : n < 64) (hl : low.toNat ≤ n + 0x80)
    (hh : n + 0x80 ≤ high.toNat) (bits : Nat) (bs : List UInt8) :
    decodeUtf8From (some ⟨0, low, high, bits⟩) (UInt8.ofNat (n + 0x80) :: bs) =
      Char.ofNat (bits * 64 + n) :: decodeUtf8From none bs := by
  rw [decodeUtf8From_feed, Unfinished.feed_of_mem hn hl hh]
  rfl

theorem decodeUtf8From_next (hn : n < 64) (hl : low.toNat ≤ n + 0x80)
    (hh : n + 0x80 ≤ high.toNat) (missing bits : Nat) (bs : List UInt8) :
    decodeUtf8From (some ⟨missing + 1, low, high, bits⟩) (UInt8.ofNat (n + 0x80) :: bs) =
      decodeUtf8From (some ⟨missing, 0x80, 0xBF, bits * 64 + n⟩) bs := by
  rw [decodeUtf8From_feed, Unfinished.feed_of_mem hn hl hh]
  rfl

theorem beginUtf8_one : ∀ n < 0x80, beginUtf8 (UInt8.ofNat n) = ([Char.ofNat n], none) := by
  decide

theorem beginUtf8_two : ∀ n < 0x20, 2 ≤ n →
    beginUtf8 (UInt8.ofNat (n + 0xC0)) = ([], some ⟨0, 0x80, 0xBF, n⟩) := by
  decide

/-- The second byte must not spell a character that has a shorter form, nor a surrogate. -/
theorem beginUtf8_three : ∀ n < 0x10, beginUtf8 (UInt8.ofNat (n + 0xE0)) =
    ([], some ⟨1, if n = 0 then 0xA0 else 0x80, if n = 0xD then 0x9F else 0xBF, n⟩) := by
  decide

/-- The second byte must not spell a character that has a shorter form, nor go past the last one. -/
theorem beginUtf8_four : ∀ n < 5, beginUtf8 (UInt8.ofNat (n + 0xF0)) =
    ([], some ⟨2, if n = 0 then 0x90 else 0x80, if n = 4 then 0x8F else 0xBF, n⟩) := by
  decide

theorem decodeUtf8From_two (hl : 0x7F < n) (hh : n ≤ 0x7FF) (bs : List UInt8) :
    decodeUtf8From none (UInt8.ofNat (n / 64 % 32 + 0xC0) :: UInt8.ofNat (n % 64 + 0x80) :: bs) =
      Char.ofNat n :: decodeUtf8From none bs := by
  have h80 : (0x80 : UInt8).toNat = 0x80 := rfl
  have hBF : (0xBF : UInt8).toNat = 0xBF := rfl
  have hbits : n / 64 % 32 * 64 + n % 64 = n := by omega
  rw [decodeUtf8From_begin, beginUtf8_two _ (by omega) (by omega), List.nil_append,
    decodeUtf8From_last (by omega) (by omega) (by omega), hbits]

theorem decodeUtf8From_three (hl : 0x7FF < n) (hh : n ≤ 0xFFFF)
    (hs : n < 0xD800 ∨ 0xDFFF < n) (bs : List UInt8) :
    decodeUtf8From none (UInt8.ofNat (n / 4096 % 16 + 0xE0) ::
        UInt8.ofNat (n / 64 % 64 + 0x80) :: UInt8.ofNat (n % 64 + 0x80) :: bs) =
      Char.ofNat n :: decodeUtf8From none bs := by
  have h80 : (0x80 : UInt8).toNat = 0x80 := rfl
  have hBF : (0xBF : UInt8).toNat = 0xBF := rfl
  have hbits : (n / 4096 % 16 * 64 + n / 64 % 64) * 64 + n % 64 = n := by omega
  have hlow : (if n / 4096 % 16 = 0 then (0xA0 : UInt8) else 0x80).toNat ≤
      n / 64 % 64 + 0x80 := by
    split
    · show 0xA0 ≤ _
      omega
    · omega
  have hhigh : n / 64 % 64 + 0x80 ≤
      (if n / 4096 % 16 = 0xD then (0x9F : UInt8) else 0xBF).toNat := by
    split
    · show _ ≤ 0x9F
      omega
    · omega
  rw [decodeUtf8From_begin, beginUtf8_three _ (by omega), List.nil_append,
    decodeUtf8From_next (by omega) hlow hhigh,
    decodeUtf8From_last (by omega) (by omega) (by omega), hbits]

theorem decodeUtf8From_four (hl : 0xFFFF < n) (hh : n < 0x110000) (bs : List UInt8) :
    decodeUtf8From none (UInt8.ofNat (n / 262144 % 8 + 0xF0) ::
        UInt8.ofNat (n / 4096 % 64 + 0x80) :: UInt8.ofNat (n / 64 % 64 + 0x80) ::
        UInt8.ofNat (n % 64 + 0x80) :: bs) =
      Char.ofNat n :: decodeUtf8From none bs := by
  have h80 : (0x80 : UInt8).toNat = 0x80 := rfl
  have hBF : (0xBF : UInt8).toNat = 0xBF := rfl
  have hbits : ((n / 262144 % 8 * 64 + n / 4096 % 64) * 64 + n / 64 % 64) * 64 + n % 64 = n := by
    omega
  have hlow : (if n / 262144 % 8 = 0 then (0x90 : UInt8) else 0x80).toNat ≤
      n / 4096 % 64 + 0x80 := by
    split
    · show 0x90 ≤ _
      omega
    · omega
  have hhigh : n / 4096 % 64 + 0x80 ≤
      (if n / 262144 % 8 = 4 then (0x8F : UInt8) else 0xBF).toNat := by
    split
    · show _ ≤ 0x8F
      omega
    · omega
  rw [decodeUtf8From_begin, beginUtf8_four _ (by omega), List.nil_append,
    decodeUtf8From_next (by omega) hlow hhigh,
    decodeUtf8From_next (by omega) (by omega) (by omega),
    decodeUtf8From_last (by omega) (by omega) (by omega), hbits]

theorem decodeUtf8From_encodeChar (c : Char) (bs : List UInt8) :
    decodeUtf8From none (String.utf8EncodeChar c ++ bs) = c :: decodeUtf8From none bs := by
  have hvalid : c.toNat < 0xD800 ∨ 0xDFFF < c.toNat ∧ c.toNat < 0x110000 := c.valid
  have hc : Char.ofNat c.toNat = c := Char.ofNat_toNat c
  rw [String.utf8EncodeChar, Char.toNat_val]
  generalize c.toNat = n at hvalid hc
  subst hc
  split
  · rw [List.singleton_append, decodeUtf8From_begin, beginUtf8_one n (by omega)]
    rfl
  split
  · exact decodeUtf8From_two (by omega) (by omega) bs
  split
  · exact decodeUtf8From_three (by omega) (by omega) (by omega) bs
  · exact decodeUtf8From_four (by omega) (by omega) bs

theorem decodeUtf8_encodeUtf8 (cs : List Char) : decodeUtf8 (encodeUtf8 cs) = cs := by
  induction cs with
  | nil => rfl
  | cons c cs ih =>
    have hc : encodeUtf8 (c :: cs) = String.utf8EncodeChar c ++ encodeUtf8 cs := rfl
    rw [hc, decodeUtf8, decodeUtf8From_encodeChar]
    exact congrArg (c :: ·) ih

theorem encodeChar_ne_nil (c : Char) : String.utf8EncodeChar c ≠ [] := by
  intro hnil
  have hd := decodeUtf8From_encodeChar c []
  rw [hnil] at hd
  cases hd

theorem encodeChar_ascii {c : Char} (h : c.toNat < 0x80) :
    String.utf8EncodeChar c = [UInt8.ofNat c.toNat] := by
  rw [String.utf8EncodeChar, Char.toNat_val, if_pos (Nat.le_of_lt_succ h)]

theorem toNat_of_mem_encodeChar {c : Char} {b : UInt8} (h : b ∈ String.utf8EncodeChar c) :
    b.toNat = c.toNat ∨ 0x80 ≤ b.toNat := by
  rw [String.utf8EncodeChar, Char.toNat_val] at h
  generalize c.toNat = n at h ⊢
  split at h
  · rw [List.mem_singleton.mp h, UInt8.toNat_ofNat']
    omega
  -- every other byte has a part of `n` below its mark
  right
  have hpart : ∀ part mark, part < mark → 0x80 ≤ mark → mark + part < 256 →
      0x80 ≤ (UInt8.ofNat (part + mark)).toNat := by
    intro part mark _ hm hlt
    rw [toNat_ofNat_of_lt (by omega)]
    omega
  split at h
  · simp only [List.mem_cons, List.not_mem_nil, or_false] at h
    rcases h with rfl | rfl <;> exact hpart _ _ (by omega) (by omega) (by omega)
  split at h
  · simp only [List.mem_cons, List.not_mem_nil, or_false] at h
    rcases h with rfl | rfl | rfl <;> exact hpart _ _ (by omega) (by omega) (by omega)
  · simp only [List.mem_cons, List.not_mem_nil, or_false] at h
    rcases h with rfl | rfl | rfl | rfl <;> exact hpart _ _ (by omega) (by omega) (by omega)

theorem not_mem_encodeUtf8 {b : UInt8} (hb : b < 0x80) {cs : List Char}
    (h : ∀ c ∈ cs, c.toNat ≠ b.toNat) : b ∉ encodeUtf8 cs := by
  intro hm
  obtain ⟨c, hc, hm⟩ := List.mem_flatMap.mp hm
  rcases toNat_of_mem_encodeChar hm with he | hle
  · exact h c hc he.symm
  · rw [UInt8.lt_iff_toNat_lt] at hb
    exact absurd hb (Nat.not_lt.mpr hle)

-- ---------------------------------------------------------------------------
-- Lines
-- ---------------------------------------------------------------------------

theorem dropFinal_append [DecidableEq α] (x : α) (xs : List α) {ys : List α} (h : ys ≠ []) :
    dropFinal x (xs ++ ys) = xs ++ dropFinal x ys := by
  induction xs with
  | nil => rfl
  | cons y xs ih =>
    cases hz : xs ++ ys with
    | nil => exact absurd (List.append_eq_nil_iff.mp hz).2 h
    | cons z zs =>
      have hd : dropFinal x (y :: z :: zs) = y :: dropFinal x (z :: zs) := rfl
      rw [List.cons_append, hz, hd, ← hz, ih, List.cons_append]

theorem dropFinal_concat [DecidableEq α] (x : α) (xs : List α) : dropFinal x (xs ++ [x]) = xs := by
  rw [dropFinal_append x xs (by simp)]
  simp [dropFinal]

theorem dropFinal_of_getLast?_ne [DecidableEq α] {x : α} {xs : List α} (h : xs.getLast? ≠ some x) :
    dropFinal x xs = xs := by
  rcases List.eq_nil_or_concat xs with rfl | ⟨front, y, rfl⟩
  · rfl
  · have hy : y ≠ x := by simpa using h
    rw [List.concat_eq_append, dropFinal_append x front (by simp)]
    simp [dropFinal, hy]

theorem splitBytes_of_not_mem {sep : UInt8} {bs : List UInt8} (h : sep ∉ bs) :
    splitBytes sep bs = [bs] := by
  induction bs with
  | nil => rfl
  | cons b bs ih =>
    have hn : sep ≠ b ∧ sep ∉ bs := by simpa using h
    simp [splitBytes, hn.1.symm, ih hn.2]

theorem splitBytes_append {sep : UInt8} {bs : List UInt8} (h : sep ∉ bs) (rest : List UInt8) :
    splitBytes sep (bs ++ sep :: rest) = bs :: splitBytes sep rest := by
  induction bs with
  | nil => simp [splitBytes]
  | cons b bs ih =>
    have hn : sep ≠ b ∧ sep ∉ bs := by simpa using h
    simp [splitBytes, hn.1.symm, ih hn.2]

def readLine (bytes : List UInt8) : String := String.ofList (decodeUtf8 (dropFinal 0x0D bytes))

theorem fileLines_of_ne_nil {content : List UInt8} (h : content ≠ []) :
    fileLines content = (splitBytes 0x0A (dropFinal 0x0A content)).map readLine := by
  rw [fileLines, if_neg (by simpa using h)]
  rfl

/-- A line that ends in LF stands before the lines of the rest, of which there may be none. -/
theorem fileLines_ended {bytes : List UInt8} (h : 0x0A ∉ bytes) (content : List UInt8) :
    fileLines (bytes ++ 0x0A :: content) = readLine bytes :: fileLines content := by
  rw [fileLines_of_ne_nil (by simp)]
  cases content with
  | nil =>
    rw [dropFinal_concat, splitBytes_of_not_mem h]
    rfl
  | cons b content =>
    have hd : dropFinal 0x0A (bytes ++ 0x0A :: b :: content) =
        bytes ++ 0x0A :: dropFinal 0x0A (b :: content) := dropFinal_append 0x0A bytes (by simp)
    rw [hd, splitBytes_append h, List.map_cons, fileLines_of_ne_nil (by simp)]

theorem fileLines_unended {bytes : List UInt8} (h : 0x0A ∉ bytes) (hne : bytes ≠ []) :
    fileLines bytes = [readLine bytes] := by
  have hlast : bytes.getLast? ≠ some 0x0A := fun hl => h (List.mem_of_getLast? hl)
  rw [fileLines_of_ne_nil hne, dropFinal_of_getLast?_ne hlast, splitBytes_of_not_mem h]
  rfl

-- ---------------------------------------------------------------------------
-- Lines that are written
-- ---------------------------------------------------------------------------

/-- A text that is one line, whatever end is put behind it. -/
structure IsLine (line : String) : Prop where
  unbroken : '\n' ∉ line.toList
  ending : line.toList.getLast? ≠ some '\r'

instance (line : String) : Decidable (IsLine line) :=
  decidable_of_iff ('\n' ∉ line.toList ∧ line.toList.getLast? ≠ some '\r')
    ⟨fun h => ⟨h.1, h.2⟩, fun h => ⟨h.unbroken, h.ending⟩⟩

theorem unbroken_encodeUtf8 {cs : List Char} (h : '\n' ∉ cs) : 0x0A ∉ encodeUtf8 cs := by
  refine not_mem_encodeUtf8 (by decide) fun c hc hn => h ?_
  rwa [← show c = '\n' from Char.toNat_inj.mp hn]

theorem getLast?_encodeUtf8 {cs : List Char} (h : cs.getLast? ≠ some '\r') :
    (encodeUtf8 cs).getLast? ≠ some 0x0D := by
  rcases List.eq_nil_or_concat cs with rfl | ⟨front, c, rfl⟩
  · simp [encodeUtf8]
  · have hc : c ≠ '\r' := by simpa using h
    intro hlast
    have hmem : 0x0D ∈ String.utf8EncodeChar c := by
      apply List.mem_of_getLast?
      rw [← hlast]
      simp [encodeUtf8, List.getLast?_eq_some_getLast (encodeChar_ne_nil c)]
    rcases toNat_of_mem_encodeChar hmem with he | hle
    · exact hc (Char.toNat_inj.mp he.symm)
    · exact absurd hle (by decide)

theorem IsLine.readLine {line : String} (h : IsLine line) :
    readLine (encodeUtf8 line.toList) = line := by
  rw [Text.readLine, dropFinal_of_getLast?_ne (getLast?_encodeUtf8 h.ending),
    decodeUtf8_encodeUtf8, String.ofList_toList]

theorem readLine_cr (line : String) : readLine (encodeUtf8 line.toList ++ [0x0D]) = line := by
  rw [readLine, dropFinal_concat, decodeUtf8_encodeUtf8, String.ofList_toList]

theorem fileLines_written (texts : List String)
    (h : ∀ t ∈ texts, ∀ c ∈ t.toList, c ≠ '\n' ∧ c ≠ '\r') :
    fileLines (texts.flatMap fun t => encodeUtf8 t.toList ++ [0x0A]) = texts := by
  induction texts with
  | nil => rfl
  | cons text texts ih =>
    rw [List.forall_mem_cons] at h
    have hline : IsLine text :=
      ⟨fun hm => (h.1 _ hm).1 rfl, fun hl => (h.1 _ (List.mem_of_getLast? hl)).2 rfl⟩
    rw [List.flatMap_cons, List.append_assoc, List.singleton_append,
      fileLines_ended (unbroken_encodeUtf8 hline.unbroken), hline.readLine, ih h.2]

end StanzaLint.Text
