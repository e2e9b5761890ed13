import Mathlib.Data.List.Basic
import Mathlib.Data.List.Infix
import Mathlib.Tactic.Common

/-!
# Texts with a separator

A text that is split at a separator, and put together again from its first components, is cut
before one of its separators: what is left has as many separators as were put in.

## Main definitions

* `cutAt c n l`: the text up to its separator number `n`, counted from zero

## Main results

* `eq_cutAt_append`: what is cut off is nothing, or starts with the separator
* `count_cutAt`, `cutAt_eq_self_iff`: how many separators are left, and when nothing is cut off
* `cutAt_takeWhile`: cutting a text that ends early
* `intercalate_take_splitOn`: the first components put together again
-/

variable {α : Type} [DecidableEq α]

/-- The text up to its separator number `n`, counted from zero; the whole text, when it has not as
many. -/
def cutAt (c : α) : ℕ → List α → List α
  | _, [] => []
  | 0, a :: l => if a = c then [] else a :: cutAt c 0 l
  | n + 1, a :: l => a :: cutAt c (if a = c then n else n + 1) l

section Cut

variable {c : α}

@[simp] theorem cutAt_nil (n : ℕ) : cutAt c n [] = [] := by cases n <;> rfl

@[simp] theorem cutAt_zero_cons_self (l : List α) : cutAt c 0 (c :: l) = [] := by
  simp [cutAt]

@[simp] theorem cutAt_succ_cons_self (n : ℕ) (l : List α) :
    cutAt c (n + 1) (c :: l) = c :: cutAt c n l := by simp [cutAt]

theorem cutAt_cons_of_ne {a : α} (h : a ≠ c) (n : ℕ) (l : List α) :
    cutAt c n (a :: l) = a :: cutAt c n l := by cases n <;> simp [cutAt, h]

/-- **What is cut off** is nothing, or starts with the separator. -/
theorem eq_cutAt_append (n : ℕ) (l : List α) :
    ∃ t, l = cutAt c n l ++ t ∧ (t = [] ∨ ∃ t', t = c :: t') := by
  induction l generalizing n with
  | nil => exact ⟨[], by simp, .inl rfl⟩
  | cons a l ih =>
    by_cases ha : a = c
    · subst ha
      cases n with
      | zero => exact ⟨a :: l, by simp, .inr ⟨l, rfl⟩⟩
      | succ n =>
        obtain ⟨t, ht, hstart⟩ := ih n
        refine ⟨t, ?_, hstart⟩
        rw [cutAt_succ_cons_self, List.cons_append, ← ht]
    · obtain ⟨t, ht, hstart⟩ := ih n
      refine ⟨t, ?_, hstart⟩
      rw [cutAt_cons_of_ne ha, List.cons_append, ← ht]

theorem count_cutAt (n : ℕ) (l : List α) : (cutAt c n l).count c = min n (l.count c) := by
  induction l generalizing n with
  | nil => simp
  | cons a l ih =>
    by_cases ha : a = c
    · subst ha
      cases n with
      | zero => simp
      | succ n => simp only [cutAt_succ_cons_self, List.count_cons_self, ih]; omega
    · rw [cutAt_cons_of_ne ha, List.count_cons_of_ne ha, List.count_cons_of_ne ha, ih]

theorem cutAt_eq_self_iff {n : ℕ} {l : List α} : cutAt c n l = l ↔ l.count c ≤ n := by
  constructor
  · intro h
    have hcount := count_cutAt (c := c) n l
    rw [h] at hcount
    omega
  · intro h
    obtain ⟨t, ht, hstart⟩ := eq_cutAt_append (c := c) n l
    rcases hstart with rfl | ⟨t', rfl⟩
    · rw [List.append_nil] at ht
      exact ht.symm
    · -- a separator that is cut off comes after `n` others
      have hcount := congrArg (List.count c) ht
      rw [List.count_append, count_cutAt, List.count_cons_self] at hcount
      omega

/-- A text with separators enough is cut before any that is put behind it. -/
theorem cutAt_append_cons_self {n : ℕ} {l : List α} (h : n ≤ l.count c) (t : List α) :
    cutAt c n (l ++ c :: t) = cutAt c n l := by
  induction l generalizing n with
  | nil =>
    obtain rfl : n = 0 := by simpa using h
    simp
  | cons a l ih =>
    rw [List.cons_append]
    by_cases ha : a = c
    · subst ha
      cases n with
      | zero => simp
      | succ n =>
        rw [List.count_cons_self] at h
        rw [cutAt_succ_cons_self, cutAt_succ_cons_self, ih (by omega)]
    · rw [List.count_cons_of_ne ha] at h
      rw [cutAt_cons_of_ne ha, cutAt_cons_of_ne ha, ih h]

/-- A text that ends early is cut as the whole text is, and ends early again. -/
theorem cutAt_takeWhile {p : α → Bool} (n : ℕ) (l : List α) :
    cutAt c n (l.takeWhile p) = (cutAt c n l).takeWhile p := by
  induction l generalizing n with
  | nil => simp
  | cons a l ih =>
    by_cases hp : p a
    · rw [List.takeWhile_cons_of_pos hp]
      by_cases ha : a = c
      · subst ha
        cases n with
        | zero => simp
        | succ n =>
          rw [cutAt_succ_cons_self, cutAt_succ_cons_self, List.takeWhile_cons_of_pos hp, ih]
      · rw [cutAt_cons_of_ne ha, cutAt_cons_of_ne ha, List.takeWhile_cons_of_pos hp, ih]
    · rw [List.takeWhile_cons_of_neg hp, cutAt_nil]
      by_cases ha : a = c
      · subst ha
        cases n with
        | zero => simp
        | succ n => rw [cutAt_succ_cons_self, List.takeWhile_cons_of_neg hp]
      · rw [cutAt_cons_of_ne ha, List.takeWhile_cons_of_neg hp]

/-- **The first components put together** are the text, cut at a separator. -/
theorem intercalate_take_splitOn (n : ℕ) (l : List α) :
    [c].intercalate ((l.splitOn c).take (n + 1)) = cutAt c n l := by
  induction l generalizing n with
  | nil => simp
  | cons a l ih =>
    rw [List.splitOn_cons_eq_if_modifyHead]
    by_cases ha : a = c
    · subst ha
      rw [if_pos (beq_self_eq_true a), List.take_succ_cons]
      cases n with
      | zero => simp
      | succ n =>
        have hne : (l.splitOn a).take (n + 1) ≠ [] := by simp
        rw [List.intercalate_cons_of_ne_nil hne, ih, cutAt_succ_cons_self]
        rfl
    · rw [if_neg (by simpa using ha), cutAt_cons_of_ne ha, ← ih]
      obtain ⟨x, xs, hx⟩ := List.exists_cons_of_ne_nil (List.splitOn_ne_nil c l)
      rw [hx, List.modifyHead_cons, List.take_succ_cons, List.take_succ_cons]
      cases xs.take n <;> simp

end Cut
