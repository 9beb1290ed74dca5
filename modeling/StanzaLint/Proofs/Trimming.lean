import Mathlib.Data.List.DropRight
import Mathlib.Data.List.TakeDrop
import StanzaLint.Text.Blank

/-!
# Trimmed text

Trimming leaves a text that neither starts nor ends with a blank, and leaves
such a text as it is. A text can also be cut where its characters first change kind
(`span_append`).
-/

namespace StanzaLint.Text

def Trimmed (cs : List Char) : Prop :=
  (∀ c, cs.head? = some c → isBlank c = false) ∧ ∀ c, cs.getLast? = some c → isBlank c = false

theorem trimStart_head (h : (trimStart cs).head? = some c) : isBlank c = false := by
  have hd := List.head?_dropWhile_not isBlank cs
  rw [show cs.dropWhile isBlank = trimStart cs from rfl, h] at hd
  exact hd

theorem trimEnd_getLast (h : (trimEnd cs).getLast? = some c) : isBlank c = false := by
  rw [trimEnd, List.getLast?_reverse] at h
  have hd := List.head?_dropWhile_not isBlank cs.reverse
  rw [h] at hd
  exact hd

theorem trimEnd_append {front : List Char}
    (h : ∀ c, front.getLast? = some c → isBlank c = false) (cs : List Char) :
    trimEnd (front ++ cs) = front ++ trimEnd cs := by
  have hfront : front.reverse.dropWhile isBlank = front.reverse := by
    cases hr : front.reverse with
    | nil => rfl
    | cons c rest =>
      have hc : front.getLast? = some c := by rw [List.getLast?_eq_head?_reverse, hr]; rfl
      simp [h c hc]
  simp only [trimEnd, List.reverse_append, List.dropWhile_append]
  split
  next hn =>
    have hnil : cs.reverse.dropWhile isBlank = [] := by simpa using hn
    simp [hnil, hfront]
  next => simp

theorem trimEnd_cons (h : isBlank c = false) : trimEnd (c :: cs) = c :: trimEnd cs := by
  have hlast : ∀ d, [c].getLast? = some d → isBlank d = false := by simpa using h
  exact trimEnd_append hlast cs

theorem trim_head (cs : List Char) : (trim cs).head? = (trimStart cs).head? := by
  cases hs : trimStart cs with
  | nil => simp [trim, hs, trimEnd]
  | cons c rest =>
    have hh : (trimStart cs).head? = some c := by simp [hs]
    simp [trim, hs, trimEnd_cons (trimStart_head hh)]

theorem trim_trimmed (cs : List Char) : Trimmed (trim cs) := by
  refine ⟨fun c h => ?_, fun c h => trimEnd_getLast h⟩
  rw [trim_head] at h
  exact trimStart_head h

theorem trim_eq_self (h : Trimmed cs) : trim cs = cs := by
  have hs : trimStart cs = cs := by
    cases cs with
    | nil => rfl
    | cons c rest => simp [trimStart, h.1 c rfl]
  have he : trimEnd cs = cs := by
    rw [show trimEnd cs = cs.rdropWhile isBlank from rfl, List.rdropWhile_eq_self_iff]
    intro hn hb
    have := h.2 (cs.getLast hn) (List.getLast?_eq_some_getLast hn)
    simp [this] at hb
  rw [trim, hs, he]

/-- A text ends with `c` if and only if what precedes `c` can be taken from it. -/
theorem dropSuffix?_singleton (c : Char) (cs : List Char) :
    dropSuffix? [c] cs = if cs.getLast? = some c then some cs.dropLast else none := by
  split
  next h =>
    rw [dropSuffix?_eq_some_iff]
    exact (List.dropLast_append_getLast? c h).symm
  next h =>
    rw [Option.eq_none_iff_forall_ne_some]
    intro rest hr
    rw [dropSuffix?_eq_some_iff] at hr
    exact h (by simp [hr])

theorem span_append {p : α → Bool} {as bs : List α} (ha : ∀ a ∈ as, p a = true)
    (hb : bs.head?.all (!p ·) = true) : (as ++ bs).span p = (as, bs) := by
  rw [List.span_eq_takeWhile_dropWhile, List.takeWhile_append_of_pos ha,
    List.dropWhile_append_of_pos ha]
  cases bs <;> simp_all

theorem span_self {p : α → Bool} {as : List α} (h : ∀ a ∈ as, p a = true) :
    as.span p = (as, []) := by
  simpa using span_append h (rfl : (List.head? []).all (!p ·) = true)

end StanzaLint.Text
