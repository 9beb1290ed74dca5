import Mathlib.Data.List.Forall2
import Mathlib.Data.List.TakeDrop
import StanzaLint.Proofs.Casing
import StanzaLint.Proofs.Trimming

/-!
# The shapes of a starting point

A line that names a starting point is a label, blanks, and an address that stands
alone, or behind switches and a name, or behind a form and a name. A word that looks
like a switch may also be the name, and where one part of the line needs a space
another takes any blank, so a line can be read in more than one way. All readings end
in the same address, the last word of the line, and the readers find it exactly if
there is a reading (`find?_eq_some_iff`). So it does not matter which shape is tried
first.
-/

namespace StanzaLint.UrlLine

open Text

-- ---------------------------------------------------------------------------
-- Words in any case
-- ---------------------------------------------------------------------------

/-- Simple case folding identifies `c` with `w`, an ASCII character in lower case. Besides its
capital, the `s` has a long form, and the `k` that of the Kelvin sign. -/
def IsCaseOf (w c : Char) : Prop := c.toLower = w ∨ w = 's' ∧ c = '\u017F' ∨ w = 'k' ∧ c = '\u212A'

/-- The text is the word, which is given in lower case, in any case. -/
def Spells (word : String) (text : List Char) : Prop := List.Forall₂ IsCaseOf word.toList text

def IsLetter (c : Char) : Prop := c.isAlpha = true ∨ c = '\u017F' ∨ c = '\u212A'

theorem fold_cases (c : Char) :
    c = '\u017F' ∧ fold c = 's' ∨ c = '\u212A' ∧ fold c = 'k' ∨
      c ≠ '\u017F' ∧ c ≠ '\u212A' ∧ fold c = c.toLower := by
  unfold fold
  split
  next h => exact .inl ⟨Char.toNat_inj.mp h, rfl⟩
  next hs =>
    split
    next h => exact .inr (.inl ⟨Char.toNat_inj.mp h, rfl⟩)
    next hk =>
      refine .inr (.inr ⟨?_, ?_, rfl⟩)
      · rintro rfl
        exact hs rfl
      · rintro rfl
        exact hk rfl

theorem fold_eq_iff {w : Char} (hw : w.toNat < 0x80) (c : Char) : fold c = w ↔ IsCaseOf w c := by
  have hs : '\u017F' ≠ w := by
    rintro rfl
    exact absurd hw (by decide)
  have hk : '\u212A' ≠ w := by
    rintro rfl
    exact absurd hw (by decide)
  unfold IsCaseOf
  rcases fold_cases c with ⟨rfl, hf⟩ | ⟨rfl, hf⟩ | ⟨hcs, hck, hf⟩
  · simp [hf, hs, eq_comm (b := w)]
  · simp [hf, hk, eq_comm (b := w)]
  · simp [hf, hcs, hck]

theorem isLower_fold (c : Char) : (fold c).isLower = true ↔ IsLetter c := by
  unfold IsLetter
  rcases fold_cases c with ⟨rfl, hf⟩ | ⟨rfl, hf⟩ | ⟨hcs, hck, hf⟩
  · simp [hf]
  · simp [hf]
  · simp only [hf, isLower_toLower, hcs, hck, or_false]

theorem IsCaseOf.eq {w c : Char} (h : IsCaseOf w c) (hw : w.isLower = false) : c = w := by
  rcases h with h | ⟨rfl, -⟩ | ⟨rfl, -⟩
  · have hc : ¬c.isAlpha = true := by
      rw [← isLower_toLower, h, hw]
      exact Bool.false_ne_true
    rw [isAlpha_iff, not_or] at hc
    rw [← h, toLower_of_not_isUpper (by simpa using hc.1)]
  · cases hw
  · cases hw

theorem readWord?_eq_some_iff {word : List Char} (hw : ∀ w ∈ word, w.toNat < 0x80)
    {cs rest : List Char} :
    readWord? word cs = some rest ↔
      ∃ front, List.Forall₂ IsCaseOf word front ∧ cs = front ++ rest := by
  induction word generalizing cs with
  | nil => simp [readWord?]
  | cons w word ih =>
    rw [List.forall_mem_cons] at hw
    cases cs with
    | nil => simp [readWord?, List.forall₂_cons_left_iff]
    | cons c cs =>
      simp only [readWord?, Option.ite_none_right_eq_some, fold_eq_iff hw.1, ih hw.2]
      constructor
      · rintro ⟨hc, front, hf, rfl⟩
        exact ⟨c :: front, .cons hc hf, rfl⟩
      · rintro ⟨_, hf, he⟩
        cases hf with
        | cons hc hf =>
          obtain ⟨rfl, rfl⟩ := List.cons.inj he
          exact ⟨hc, _, hf, rfl⟩

-- ---------------------------------------------------------------------------
-- Blanks and tokens
-- ---------------------------------------------------------------------------

def Blanks (cs : List Char) : Prop := ∀ c ∈ cs, isBlank c = true

def Token (cs : List Char) : Prop := cs ≠ [] ∧ ∀ c ∈ cs, isBlank c = false

def Started (cs : List Char) : Prop := ∀ c, cs.head? = some c → isBlank c = false

theorem isToken_iff {cs : List Char} : isToken cs = true ↔ Token cs := by
  simp [isToken, Token]

theorem Token.started {cs : List Char} (h : Token cs) (rest : List Char) :
    Started (cs ++ rest) := by
  obtain ⟨hne, hb⟩ := h
  obtain ⟨c, cs, rfl⟩ := List.exists_cons_of_ne_nil hne
  rintro _ ⟨⟩
  exact hb c List.mem_cons_self

theorem started_trimStart (cs : List Char) : Started (trimStart cs) := fun _ => trimStart_head

theorem exists_blanks (cs : List Char) : ∃ gap, Blanks gap ∧ cs = gap ++ trimStart cs := by
  refine ⟨cs.takeWhile isBlank, ?_, List.takeWhile_append_dropWhile.symm⟩
  exact fun c hc => List.mem_takeWhile_imp hc

theorem trimStart_append {gap rest : List Char} (hg : Blanks gap) (hr : Started rest) :
    trimStart (gap ++ rest) = rest := by
  rw [trimStart, List.dropWhile_append_of_pos hg]
  cases rest with
  | nil => rfl
  | cons c rest => exact List.dropWhile_cons_of_neg (by simp [hr c rfl])

theorem trimStart_of_started {cs : List Char} (h : Started cs) : trimStart cs = cs :=
  trimStart_append (List.forall_mem_nil _) h

structure EndsIn (cs word : List Char) : Prop where
  suffix : word <:+ cs
  unblank : ∀ c ∈ word, isBlank c = false
  longest : ∀ other, other <:+ cs → (∀ c ∈ other, isBlank c = false) → other <:+ word

theorem EndsIn.unique (h : EndsIn cs word) (h' : EndsIn cs other) : word = other :=
  (h'.longest word h.suffix h.unblank).eq_of_length_le
    (h.longest other h'.suffix h'.unblank).length_le

theorem endsIn_append {front gap word : List Char} (hg : gap ≠ []) (hb : Blanks gap)
    (hw : ∀ c ∈ word, isBlank c = false) : EndsIn (front ++ (gap ++ word)) word := by
  refine ⟨⟨front ++ gap, List.append_assoc ..⟩, hw, fun other ho hu => ?_⟩
  obtain ⟨init, b, rfl⟩ := (List.eq_nil_or_concat gap).resolve_left hg
  have hblank : isBlank b = true := hb b (by simp)
  have hs : b :: word <:+ front ++ (init.concat b ++ word) := ⟨front ++ init, by simp⟩
  -- a longer suffix would hold the blank
  rcases List.suffix_or_suffix_of_suffix ho hs with hlong | hshort
  · rcases List.suffix_cons_iff.mp hlong with rfl | hlong
    · rw [hu b List.mem_cons_self] at hblank
      cases hblank
    · exact hlong
  · rw [hu b (hshort.subset List.mem_cons_self)] at hblank
    cases hblank

def Pair (cs address : List Char) : Prop :=
  ∃ name gap, Token name ∧ gap ≠ [] ∧ Blanks gap ∧ Token address ∧ cs = name ++ (gap ++ address)

theorem Pair.started (h : Pair cs address) : Started cs := by
  obtain ⟨name, gap, hn, -, -, -, rfl⟩ := h
  exact hn.started _

theorem Pair.endsIn (h : Pair cs address) (front : List Char) : EndsIn (front ++ cs) address := by
  obtain ⟨name, gap, -, hg, hb, ha, rfl⟩ := h
  rw [← List.append_assoc]
  exact endsIn_append hg hb ha.2

theorem readPair?_eq_some_iff : readPair? cs = some address ↔ Pair cs address := by
  simp only [readPair?, List.span_eq_takeWhile_dropWhile, Option.ite_none_right_eq_some,
    Bool.and_eq_true, isToken_iff, bne_iff_ne, Option.some.injEq]
  constructor
  · rintro ⟨⟨⟨hf, hl⟩, hne⟩, rfl⟩
    obtain ⟨gap, hb, hs⟩ := exists_blanks (cs.dropWhile (!isBlank ·))
    refine ⟨_, gap, hf, ?_, hb, hl, ?_⟩
    · rintro rfl
      exact hne hs
    · rw [← hs, List.takeWhile_append_dropWhile]
  · rintro ⟨name, gap, hn, hg, hb, ha, rfl⟩
    obtain ⟨b, gap, rfl⟩ := List.exists_cons_of_ne_nil hg
    have hname : ∀ c ∈ name, (!isBlank c) = true := fun c hc => by rw [hn.2 c hc]; rfl
    have hblank : isBlank b = true := hb b List.mem_cons_self
    have hfirst : (name ++ (b :: gap ++ address)).takeWhile (!isBlank ·) = name := by
      simp [List.takeWhile_append_of_pos hname, hblank]
    have hrest : (name ++ (b :: gap ++ address)).dropWhile (!isBlank ·) = b :: gap ++ address := by
      simp [List.dropWhile_append_of_pos hname, hblank]
    have htrim : trimStart (b :: gap ++ address) = address :=
      trimStart_append hb (by simpa using ha.started [])
    rw [hfirst, hrest, htrim]
    refine ⟨⟨⟨hn, ha⟩, fun he => ?_⟩, rfl⟩
    have hlength := congrArg List.length he
    simp only [List.length_append, List.length_cons] at hlength
    omega

-- ---------------------------------------------------------------------------
-- The parts of a line
-- ---------------------------------------------------------------------------

/-- A word that may be left out. A space follows it, and any further blanks. -/
def Switch (word : String) (cs : List Char) : Prop :=
  cs = [] ∨ ∃ text gap, Spells word text ∧ Blanks gap ∧ cs = text ++ ' ' :: gap

def isFlag (word : List Char) : Bool := word.head? == some '-' && word.all (·.toNat < 0x80)

theorem toNat_of_isFlag (h : isFlag word = true) : ∀ w ∈ word, w.toNat < 0x80 := by
  simp only [isFlag, Bool.and_eq_true, List.all_eq_true, decide_eq_true_eq] at h
  exact h.2

theorem Spells.started (h : Spells word text) (hw : isFlag word.toList = true)
    (rest : List Char) : Started (text ++ rest) := by
  simp only [isFlag, Bool.and_eq_true, beq_iff_eq] at hw
  obtain ⟨tail, hword⟩ := List.head?_eq_some_iff.mp hw.1
  rw [Spells, hword] at h
  cases h with
  | cons hc _ =>
    obtain rfl := hc.eq rfl
    rintro _ ⟨⟩
    rfl

theorem Switch.started (h : Switch word cs) (hw : isFlag word.toList = true)
    (hr : Started rest) : Started (cs ++ rest) := by
  rcases h with rfl | ⟨text, gap, ht, -, rfl⟩
  · exact hr
  · rw [List.append_assoc]
    exact ht.started hw _

theorem readWord?_concat (word : List Char) (w : Char) (cs : List Char) :
    readWord? (word ++ [w]) cs = (readWord? word cs).bind (readWord? [w]) := by
  induction word generalizing cs with
  | nil => rfl
  | cons v word ih =>
    cases cs with
    | nil => rfl
    | cons c cs =>
      simp only [List.cons_append, readWord?, ih]
      split <;> rfl

theorem readWord?_space : readWord? [' '] cs = some rest ↔ cs = ' ' :: rest := by
  rw [readWord?_eq_some_iff (by simp)]
  constructor
  · rintro ⟨front, hf, rfl⟩
    cases hf with
    | cons hc hf =>
      cases hf
      rw [hc.eq rfl]
      rfl
  · rintro rfl
    exact ⟨[' '], .cons (.inl rfl) .nil, rfl⟩

theorem mem_readOption (word : String) (hw : isFlag word.toList = true)
    (hs : spaced.toList = word.toList ++ [' ']) (hc : Started cs) :
    rest ∈ readOption spaced cs ↔
      Started rest ∧ ∃ front, Switch word front ∧ cs = front ++ rest := by
  simp only [readOption, hs, readWord?_concat, List.mem_cons, Option.mem_toList,
    Option.map_eq_some_iff, Option.bind_eq_some_iff, readWord?_space,
    readWord?_eq_some_iff (toNat_of_isFlag hw), trimStart_of_started hc]
  constructor
  · rintro (rfl | ⟨_, ⟨_, ⟨text, ht, rfl⟩, rfl⟩, rfl⟩)
    · exact ⟨hc, [], .inl rfl, rfl⟩
    · rename_i left
      obtain ⟨gap, hb, hg⟩ := exists_blanks left
      refine ⟨started_trimStart left, text ++ ' ' :: gap, .inr ⟨text, gap, ht, hb, rfl⟩, ?_⟩
      rw [List.append_assoc, List.cons_append, ← hg]
  · rintro ⟨hr, front, rfl | ⟨text, gap, ht, hb, rfl⟩, rfl⟩
    · exact .inl rfl
    · refine .inr ⟨gap ++ rest, ⟨' ' :: (gap ++ rest), ⟨text, ht, ?_⟩, rfl⟩,
        trimStart_append hb hr⟩
      rw [List.append_assoc, List.cons_append]

def Label (cs : List Char) : Prop :=
  ∃ label gap, (Spells "u" label ∨ Spells "url" label) ∧ gap ≠ [] ∧ Blanks gap ∧ cs = label ++ gap

theorem mem_readLabel :
    rest ∈ readLabel cs ↔ Started rest ∧ ∃ label, Label label ∧ cs = label ++ rest := by
  have hall : ["u", "url"].all (·.toList.all (·.toNat < 0x80)) = true := by decide
  have hword : ∀ word ∈ ["u", "url"], ∀ w ∈ word.toList, w.toNat < 0x80 := by
    intro word hm w hw
    exact of_decide_eq_true (List.all_eq_true.mp (List.all_eq_true.mp hall word hm) w hw)
  simp only [readLabel, List.mem_filterMap, Option.bind_eq_bind, Option.bind_eq_some_iff,
    Option.ite_none_right_eq_some, Option.some.injEq]
  constructor
  · rintro ⟨word, hm, left, hleft, hb, rfl⟩
    obtain ⟨text, ht, rfl⟩ := (readWord?_eq_some_iff (hword word hm)).mp hleft
    obtain ⟨gap, hg, hs⟩ := exists_blanks left
    refine ⟨started_trimStart left, text ++ gap, ⟨text, gap, ?_, ?_, hg, rfl⟩, ?_⟩
    · simp only [List.mem_cons, List.not_mem_nil, or_false] at hm
      rcases hm with rfl | rfl
      · exact .inl ht
      · exact .inr ht
    · rintro rfl
      have hstarted : Started left := (congrArg Started hs).mpr (started_trimStart left)
      cases hh : left.head? with
      | none =>
        rw [hh] at hb
        cases hb
      | some c =>
        rw [hh, Option.any_some, hstarted c hh] at hb
        cases hb
    · rw [List.append_assoc, ← hs]
  · rintro ⟨hr, _, ⟨text, gap, ht, hne, hg, rfl⟩, rfl⟩
    obtain ⟨b, gap, rfl⟩ := List.exists_cons_of_ne_nil hne
    have hread : ∀ word ∈ ["u", "url"], Spells word text →
        readWord? word.toList (text ++ (b :: gap ++ rest)) = some (b :: gap ++ rest) :=
      fun word hm ht => (readWord?_eq_some_iff (hword word hm)).mpr ⟨text, ht, rfl⟩
    rw [List.append_assoc]
    rcases ht with ht | ht
    · exact ⟨"u", by simp, _, hread _ (by simp) ht, hg b List.mem_cons_self,
        trimStart_append hg hr⟩
    · exact ⟨"url", by simp, _, hread _ (by simp) ht, hg b List.mem_cons_self,
        trimStart_append hg hr⟩

/-- The method of a form, the space behind it, and any further blanks. -/
def Method (cs : List Char) : Prop :=
  ∃ lead method gap, Spells "-form=" lead ∧ method ≠ [] ∧ (∀ c ∈ method, IsLetter c) ∧
    Blanks gap ∧ cs = lead ++ (method ++ ' ' :: gap)

theorem readMethod?_eq_some_iff :
    readMethod? cs = some rest ↔ Started rest ∧ ∃ front, Method front ∧ cs = front ++ rest := by
  have hword : ∀ w ∈ "-form=".toList, w.toNat < 0x80 := toNat_of_isFlag (by decide)
  unfold readMethod?
  simp only [List.span_eq_takeWhile_dropWhile, Option.bind_eq_bind, Option.bind_eq_some_iff,
    readWord?_eq_some_iff hword]
  constructor
  · rintro ⟨left, ⟨lead, hl, rfl⟩, h⟩
    split at h
    · cases h
    next hne =>
      split at h
      next more hmore =>
        cases h
        obtain ⟨gap, hb, hg⟩ := exists_blanks more
        refine ⟨started_trimStart more, _, ⟨lead, left.takeWhile fun c => (fold c).isLower, gap,
          hl, ?_, ?_, hb, rfl⟩, ?_⟩
        · simpa using hne
        · intro c hc
          have hlower := List.mem_takeWhile_imp (p := fun c => (fold c).isLower) hc
          exact (isLower_fold c).mp hlower
        · rw [List.append_assoc, List.append_assoc, List.cons_append, ← hg, ← hmore,
            List.takeWhile_append_dropWhile]
      · cases h
  · rintro ⟨hr, _, ⟨lead, method, gap, hl, hne, hm, hb, rfl⟩, rfl⟩
    have hletters : ∀ c ∈ method, (fold c).isLower = true :=
      fun c hc => (isLower_fold c).mpr (hm c hc)
    have hspace : (fold ' ').isLower = false := by decide
    have hfirst : (method ++ ' ' :: (gap ++ rest)).takeWhile (fun c => (fold c).isLower) =
        method := by
      simp [List.takeWhile_append_of_pos hletters, hspace]
    have hmore : (method ++ ' ' :: (gap ++ rest)).dropWhile (fun c => (fold c).isLower) =
        ' ' :: (gap ++ rest) := by
      simp [List.dropWhile_append_of_pos hletters, hspace]
    refine ⟨method ++ ' ' :: (gap ++ rest), ⟨lead, hl, by simp⟩, ?_⟩
    rw [hfirst, hmore, if_neg (by simpa using hne)]
    exact congrArg some (trimStart_append hb hr)

-- ---------------------------------------------------------------------------
-- The shapes
-- ---------------------------------------------------------------------------

def Alone (cs address : List Char) : Prop := Token address ∧ cs = address

def Switched (cs address : List Char) : Prop :=
  ∃ refresh redirect append pair, Switch "-refresh" refresh ∧ Switch "-redirect" redirect ∧
    Switch "-append -encoded" append ∧ Pair pair address ∧
    cs = refresh ++ (redirect ++ (append ++ pair))

def Form (cs address : List Char) : Prop :=
  ∃ method rewrite pair, Method method ∧ Switch "-rewritehost" rewrite ∧ Pair pair address ∧
    cs = method ++ (rewrite ++ pair)

/-- If all that can be found is the same, it does not matter where it is found first. -/
theorem findSome?_eq_some_iff_of_unique {f : α → Option β} {as : List α} {P : β → Prop}
    (hP : ∀ b b', P b → P b' → b = b') (h : ∀ a ∈ as, ∀ b, f a = some b → P b) :
    as.findSome? f = some b ↔ ∃ a ∈ as, f a = some b := by
  refine ⟨List.exists_of_findSome?_eq_some, fun ⟨a, ha, hb⟩ => ?_⟩
  have hsome : (as.findSome? f).isSome := by
    rw [List.findSome?_isSome_iff]
    exact ⟨a, ha, by rw [hb]; rfl⟩
  obtain ⟨b', hf⟩ := Option.isSome_iff_exists.mp hsome
  obtain ⟨a', ha', hb'⟩ := List.exists_of_findSome?_eq_some hf
  rw [hf, hP b' b (h a' ha' b' hb') (h a ha b hb)]

/-- Of several ends of a text, each that is a pair ends in the same address. -/
theorem findSome?_readPair? {rests : List (List Char)}
    (h : ∀ rest ∈ rests, ∃ front, cs = front ++ rest) :
    rests.findSome? readPair? = some address ↔ ∃ pair ∈ rests, Pair pair address := by
  have hends : ∀ rest ∈ rests, ∀ found, readPair? rest = some found → EndsIn cs found := by
    intro rest hr found hf
    obtain ⟨front, rfl⟩ := h rest hr
    exact (readPair?_eq_some_iff.mp hf).endsIn front
  simp only [findSome?_eq_some_iff_of_unique (fun _ _ => EndsIn.unique) hends,
    readPair?_eq_some_iff]

theorem readAlone?_eq_some_iff : readAlone? cs = some address ↔ Alone cs address := by
  simp only [readAlone?, Option.ite_none_right_eq_some, isToken_iff, Option.some.injEq, Alone]
  constructor
  · rintro ⟨h, rfl⟩
    exact ⟨h, rfl⟩
  · rintro ⟨h, rfl⟩
    exact ⟨h, rfl⟩

theorem Switched.endsIn (h : Switched cs address) (front : List Char) :
    EndsIn (front ++ cs) address := by
  obtain ⟨refresh, redirect, append, pair, -, -, -, hp, rfl⟩ := h
  have he := hp.endsIn (front ++ (refresh ++ (redirect ++ append)))
  simpa only [List.append_assoc] using he

theorem Form.endsIn (h : Form cs address) (front : List Char) : EndsIn (front ++ cs) address := by
  obtain ⟨method, rewrite, pair, -, -, hp, rfl⟩ := h
  have he := hp.endsIn (front ++ (method ++ rewrite))
  simpa only [List.append_assoc] using he

theorem mem_readOptions (hc : Started cs) :
    rest ∈ ((readOption "-refresh " cs).flatMap (readOption "-redirect ")).flatMap
        (readOption "-append -encoded ") ↔
      Started rest ∧ ∃ refresh redirect append, Switch "-refresh" refresh ∧
        Switch "-redirect" redirect ∧ Switch "-append -encoded" append ∧
        cs = refresh ++ (redirect ++ (append ++ rest)) := by
  simp only [List.mem_flatMap]
  constructor
  · rintro ⟨second, ⟨first, hf, hs⟩, hr⟩
    obtain ⟨hfirst, refresh, h1, rfl⟩ := (mem_readOption "-refresh" rfl rfl hc).mp hf
    obtain ⟨hsecond, redirect, h2, rfl⟩ := (mem_readOption "-redirect" rfl rfl hfirst).mp hs
    obtain ⟨hrest, append, h3, rfl⟩ := (mem_readOption "-append -encoded" rfl rfl hsecond).mp hr
    exact ⟨hrest, refresh, redirect, append, h1, h2, h3, rfl⟩
  · rintro ⟨hrest, refresh, redirect, append, h1, h2, h3, rfl⟩
    have hsecond : Started (append ++ rest) := h3.started rfl hrest
    have hfirst : Started (redirect ++ (append ++ rest)) := h2.started rfl hsecond
    exact ⟨_, ⟨_, (mem_readOption "-refresh" rfl rfl hc).mpr ⟨hfirst, refresh, h1, rfl⟩,
      (mem_readOption "-redirect" rfl rfl hfirst).mpr ⟨hsecond, redirect, h2, rfl⟩⟩,
      (mem_readOption "-append -encoded" rfl rfl hsecond).mpr ⟨hrest, append, h3, rfl⟩⟩

theorem readSwitched?_eq_some_iff (hc : Started cs) :
    readSwitched? cs = some address ↔ Switched cs address := by
  have hrests : ∀ rest ∈ ((readOption "-refresh " cs).flatMap
      (readOption "-redirect ")).flatMap (readOption "-append -encoded "),
      ∃ front, cs = front ++ rest := by
    intro rest hr
    obtain ⟨-, refresh, redirect, append, -, -, -, he⟩ := (mem_readOptions hc).mp hr
    exact ⟨refresh ++ (redirect ++ append), by simpa only [List.append_assoc] using he⟩
  simp only [readSwitched?, findSome?_readPair? hrests, mem_readOptions hc]
  constructor
  · rintro ⟨pair, ⟨-, refresh, redirect, append, h1, h2, h3, rfl⟩, hp⟩
    exact ⟨refresh, redirect, append, pair, h1, h2, h3, hp, rfl⟩
  · rintro ⟨refresh, redirect, append, pair, h1, h2, h3, hp, rfl⟩
    exact ⟨pair, ⟨hp.started, refresh, redirect, append, h1, h2, h3, rfl⟩, hp⟩

theorem readForm?_eq_some_iff : readForm? cs = some address ↔ Form cs address := by
  simp only [readForm?, Option.bind_eq_bind, Option.bind_eq_some_iff, readMethod?_eq_some_iff]
  have hrests : ∀ left, Started left → ∀ rest ∈ readOption "-rewritehost " left,
      ∃ front, left = front ++ rest := by
    intro left hl rest hr
    obtain ⟨-, rewrite, -, he⟩ := (mem_readOption "-rewritehost" rfl rfl hl).mp hr
    exact ⟨rewrite, he⟩
  constructor
  · rintro ⟨left, ⟨hl, method, hm, rfl⟩, h⟩
    obtain ⟨pair, hr, hp⟩ := (findSome?_readPair? (hrests left hl)).mp h
    obtain ⟨-, rewrite, hw, rfl⟩ := (mem_readOption "-rewritehost" rfl rfl hl).mp hr
    exact ⟨method, rewrite, pair, hm, hw, hp, rfl⟩
  · rintro ⟨method, rewrite, pair, hm, hw, hp, rfl⟩
    have hl : Started (rewrite ++ pair) := hw.started rfl hp.started
    refine ⟨rewrite ++ pair, ⟨hl, method, hm, rfl⟩, (findSome?_readPair? (hrests _ hl)).mpr ?_⟩
    exact ⟨pair, (mem_readOption "-rewritehost" rfl rfl hl).mpr ⟨hp.started, rewrite, hw, rfl⟩, hp⟩

/-- What may follow the label of a line, and the address that it ends with. -/
def Shape (cs address : List Char) : Prop :=
  Alone cs address ∨ Switched cs address ∨ Form cs address

theorem Shape.started (h : Shape cs address) : Started cs := by
  rcases h with ⟨ha, rfl⟩ | h | h
  · simpa using ha.started []
  · obtain ⟨refresh, redirect, append, pair, h1, h2, h3, hp, rfl⟩ := h
    exact h1.started rfl (h2.started rfl (h3.started rfl hp.started))
  · obtain ⟨method, rewrite, pair, ⟨lead, name, gap, hl, -, -, -, rfl⟩, -, -, rfl⟩ := h
    rw [List.append_assoc]
    exact hl.started rfl _

def Reading (cs address : List Char) : Prop :=
  ∃ label rest, cs = label ++ rest ∧ Label label ∧ Shape rest address

theorem Reading.endsIn (h : Reading cs address) : EndsIn cs address := by
  obtain ⟨label, rest, rfl, hl, hs⟩ := h
  rcases hs with ⟨ha, rfl⟩ | hs | hs
  · obtain ⟨name, gap, -, hg, hb, rfl⟩ := hl
    rw [List.append_assoc]
    exact endsIn_append hg hb ha.2
  · exact hs.endsIn label
  · exact hs.endsIn label

def readers : List (List Char → Option (List Char)) := [readAlone?, readSwitched?, readForm?]

theorem exists_mem_readers_iff (hc : Started cs) :
    (∃ read ∈ readers, read cs = some address) ↔ Shape cs address := by
  simp only [readers, List.mem_cons, List.not_mem_nil, or_false, exists_eq_or_imp,
    exists_eq_left, readAlone?_eq_some_iff, readSwitched?_eq_some_iff hc, readForm?_eq_some_iff,
    Shape]

theorem reading_iff : Reading cs address ↔
    ∃ rest ∈ readLabel cs, ∃ read ∈ readers, read rest = some address := by
  simp only [mem_readLabel]
  constructor
  · rintro ⟨label, rest, rfl, hl, hs⟩
    exact ⟨rest, ⟨hs.started, label, hl, rfl⟩, (exists_mem_readers_iff hs.started).mpr hs⟩
  · rintro ⟨rest, ⟨hr, label, hl, rfl⟩, h⟩
    exact ⟨label, rest, rfl, hl, (exists_mem_readers_iff hr).mp h⟩

theorem findSome?_findSome? {f : α → β → Option (List Char)} {as : List α} {bs : List β}
    (h : ∀ a ∈ as, ∀ b ∈ bs, ∀ found, f a b = some found → EndsIn cs found) :
    (as.findSome? fun a => bs.findSome? (f a)) = some address ↔
      ∃ a ∈ as, ∃ b ∈ bs, f a b = some address := by
  have hin : ∀ a ∈ as, ∀ found, bs.findSome? (f a) = some found ↔ ∃ b ∈ bs, f a b = some found :=
    fun a ha found => findSome?_eq_some_iff_of_unique (fun _ _ => EndsIn.unique) (h a ha)
  rw [findSome?_eq_some_iff_of_unique (P := EndsIn cs) (fun _ _ => EndsIn.unique)]
  · exact exists_congr fun a => and_congr_right fun ha => hin a ha address
  · intro a ha found hf
    obtain ⟨b, hb, hfound⟩ := (hin a ha found).mp hf
    exact h a ha b hb found hfound

theorem find?_eq_some_iff {line u : String} :
    find? line = some u ↔ Reading line.toList u.toList := by
  have hread : ∀ rest, (readAlone? rest <|> readSwitched? rest <|> readForm? rest) =
      readers.findSome? fun read => read rest := by
    intro rest
    simp only [readers, List.findSome?_cons, List.findSome?_nil]
    cases readAlone? rest <;> cases readSwitched? rest <;> cases readForm? rest <;> rfl
  have hends : ∀ rest ∈ readLabel line.toList, ∀ read ∈ readers, ∀ found,
      read rest = some found → EndsIn line.toList found :=
    fun rest hr read hm found hf => Reading.endsIn (reading_iff.mpr ⟨rest, hr, read, hm, hf⟩)
  simp only [find?, hread, Option.map_eq_some_iff, findSome?_findSome? hends, ← reading_iff]
  constructor
  · rintro ⟨cs, hc, rfl⟩
    rwa [String.toList_ofList]
  · exact fun h => ⟨u.toList, h, String.ofList_toList⟩

theorem find?_of_perm (line : String) {order : List (List Char → Option (List Char))}
    (h : order.Perm readers) :
    (order.findSome? fun read => (readLabel line.toList).findSome? read).map String.ofList =
      find? line := by
  have hends : ∀ read ∈ order, ∀ rest ∈ readLabel line.toList, ∀ found,
      read rest = some found → EndsIn line.toList found :=
    fun read hm rest hr found hf =>
      Reading.endsIn (reading_iff.mpr ⟨rest, hr, read, h.mem_iff.mp hm, hf⟩)
  ext u
  simp only [find?_eq_some_iff, reading_iff, Option.map_eq_some_iff, findSome?_findSome? hends,
    h.mem_iff]
  constructor
  · rintro ⟨cs, ⟨read, hm, rest, hr, hf⟩, rfl⟩
    exact ⟨rest, hr, read, hm, by rwa [String.toList_ofList]⟩
  · rintro ⟨rest, hr, read, hm, hf⟩
    exact ⟨u.toList, ⟨read, hm, rest, hr, hf⟩, String.ofList_toList⟩

/-- A line has an address exactly if it is a label, blanks and one of the three shapes, which is
the longest end of the line without blanks. So the order in which the shapes are tried does not
matter. -/
theorem address_shapes (line : String) :
    (∀ u, find? line = some u ↔
      ∃ label gap rest, line.toList = label ++ gap ++ rest ∧
        (Spells "u" label ∨ Spells "url" label) ∧ gap ≠ [] ∧ Blanks gap ∧
        (Alone rest u.toList ∨ Switched rest u.toList ∨ Form rest u.toList)) ∧
    (∀ u, find? line = some u → EndsIn line.toList u.toList) ∧
    ∀ order : List (List Char → Option (List Char)),
      order.Perm [readAlone?, readSwitched?, readForm?] →
        (order.findSome? fun read => (readLabel line.toList).findSome? read).map String.ofList =
          find? line := by
  refine ⟨fun u => ?_, fun u h => (find?_eq_some_iff.mp h).endsIn,
    fun order h => find?_of_perm line h⟩
  rw [find?_eq_some_iff]
  constructor
  · rintro ⟨_, rest, hline, ⟨label, gap, hl, hg, hb, rfl⟩, hs⟩
    exact ⟨label, gap, rest, hline, hl, hg, hb, hs⟩
  · rintro ⟨label, gap, rest, hline, hl, hg, hb, hs⟩
    exact ⟨label ++ gap, rest, hline, ⟨label, gap, hl, hg, hb, rfl⟩, hs⟩

/-- The first switch is spelled with a long s. A tab follows the second one, so it is the name. -/
def misleadingLine : String := "uRl\u3000-ReFre\u017Fh \u2003-Redirect\thttp://a.org/"

theorem address_shapes_misleading :
    find? misleadingLine = some "http://a.org/" ∧
      EndsIn misleadingLine.toList "http://a.org/".toList ∧
      ([readForm?, readAlone?, readSwitched?].findSome? fun read =>
        (readLabel misleadingLine.toList).findSome? read).map String.ofList =
          some "http://a.org/" := by
  have hall := address_shapes misleadingLine
  have hfind : find? misleadingLine = some "http://a.org/" := by decide +kernel
  have hperm : ([readForm?] ++ [readAlone?, readSwitched?]).Perm
      ([readAlone?, readSwitched?] ++ [readForm?]) := List.perm_append_comm
  refine ⟨hfind, hall.2.1 _ hfind, ?_⟩
  rw [← hfind]
  exact hall.2.2 _ hperm

end StanzaLint.UrlLine
