import StanzaLint.Text.Blank

/-!
# Punycode

Text beyond ASCII written with ASCII letters, digits and hyphens: first the
ASCII characters, then, behind a hyphen, where to insert the others. The
insertions are in increasing order of code points; each is a distance from the
one before, written with variable-length digits whose thresholds adapt.
-/

namespace StanzaLint.Url.Punycode

open Text

def digitChar (d : Nat) : Char := Char.ofNat (if d < 26 then 0x61 + d else 0x30 + (d - 26))

def digitValue? (c : Char) : Option Nat :=
  if 'a' ≤ c ∧ c ≤ 'z' then some (c.toNat - 'a'.toNat)
  else if 'A' ≤ c ∧ c ≤ 'Z' then some (c.toNat - 'A'.toNat)
  else if '0' ≤ c ∧ c ≤ '9' then some (c.toNat - '0'.toNat + 26)
  else none

def threshold (k bias : Nat) : Nat := if k ≤ bias then 1 else min (k - bias) 26

theorem threshold_pos (k bias : Nat) : 0 < threshold k bias := by
  unfold threshold
  split <;> omega

def scaleDown (delta k : Nat) : Nat × Nat :=
  if 455 < delta then scaleDown (delta / 35) (k + 36) else (delta, k)
termination_by delta

def adapt (delta size : Nat) (first : Bool) : Nat :=
  let delta := if first then delta / 700 else delta / 2
  let (delta, k) := scaleDown (delta + delta / size) 0
  k + 36 * delta / (delta + 38)

def encodeDigits (bias k q : Nat) : List Char :=
  let t := threshold k bias
  if q < t then [digitChar q]
  else digitChar (t + (q - t) % (36 - t)) :: encodeDigits bias (k + 36) ((q - t) / (36 - t))
termination_by q
decreasing_by
  have := threshold_pos k bias
  exact Nat.lt_of_le_of_lt (Nat.div_le_self _ _) (by omega)

/-- Where an encoder stands: the characters written so far, the distance since the last
insertion, and the bias. -/
structure Writer where
  written : Nat
  delta : Nat
  bias : Nat
  first : Bool

def encodePass (n : Nat) (w : Writer) : List Char → Writer × List Char
  | [] => (w, [])
  | c :: cs =>
    if c.toNat < n then encodePass n { w with delta := w.delta + 1 } cs
    else if c.toNat = n then
      let digits := encodeDigits w.bias 36 w.delta
      let next : Writer := ⟨w.written + 1, 0, adapt w.delta (w.written + 1) w.first, false⟩
      let (w, rest) := encodePass n next cs
      (w, digits ++ rest)
    else encodePass n w cs

/-- The insertions for the code points `todo`, in increasing order, when all below `n`
are done. -/
def encodeInsertions (text : List Char) (n : Nat) (w : Writer) : (todo : List Nat) → List Char
  | [] => []
  | m :: todo =>
    let (w, digits) := encodePass m { w with delta := w.delta + (m - n) * (w.written + 1) } text
    digits ++ encodeInsertions text (m + 1) { w with delta := w.delta + 1 } todo

def encode (text : List Char) : List Char :=
  let basic := text.filter (·.toNat < 0x80)
  let others := ((text.map Char.toNat).filter (0x80 ≤ ·)).mergeSort.eraseDups
  basic ++ (if basic.isEmpty then [] else ['-']) ++
    encodeInsertions text 0x80 ⟨basic.length, 0, 72, true⟩ others

def decodeNumber (bias k weight value : Nat) : List Char → Option (Nat × List Char)
  | [] => none
  | c :: cs => do
    let d ← digitValue? c
    let value := value + d * weight
    let t := threshold k bias
    if d < t then some (value, cs)
    else decodeNumber bias (k + 36) (weight * (36 - t)) value cs

theorem decodeNumber_length {bias k weight value : Nat} {cs rest : List Char} {n : Nat}
    (h : decodeNumber bias k weight value cs = some (n, rest)) : rest.length < cs.length := by
  induction cs generalizing k weight value with
  | nil => simp [decodeNumber] at h
  | cons c cs ih =>
    simp only [decodeNumber, Option.bind_eq_bind, Option.bind_eq_some_iff] at h
    obtain ⟨d, -, h⟩ := h
    split at h
    · simp only [Option.some.injEq, Prod.mk.injEq] at h
      simp [← h.2]
    · exact Nat.lt_succ_of_lt (ih h)

/-- Carries out the insertions, starting with the code point `n` at position `i`. -/
def decodeInsertions (text : List Char) (n i bias : Nat) (cs : List Char) : Option (List Char) :=
  if cs.isEmpty then some text
  else match h : decodeNumber bias 36 1 0 cs with
    | none => none
    | some (delta, rest) =>
      let size := text.length + 1
      let i' := i + delta
      let n' := n + i' / size
      if n'.isValidChar then
        have := decodeNumber_length h
        decodeInsertions (text.insertIdx (i' % size) (Char.ofNat n')) n' (i' % size + 1)
          (adapt delta size (i == 0)) rest
      else none
termination_by cs.length

def decode? (cs : List Char) : Option (List Char) :=
  match split '-' cs |>.reverse with
  | [] => none
  | insertions :: basic =>
    let basic := ['-'].intercalate basic.reverse
    if cs.any (0x80 ≤ ·.toNat) then none
    else if basic.isEmpty then decodeInsertions [] 0x80 0 72 cs
    else decodeInsertions basic 0x80 0 72 insertions

end StanzaLint.Url.Punycode
