import Mathlib.Data.List.Infix

/-!
# What follows the last occurrence of a marker

A parameter at the end of a text is introduced by a marker. Whatever stands before it, it is read
back from the text, as long as it does not contain the first letter of the marker itself.

## Main definitions

* `afterLast m l`: what follows the last occurrence of `m` in `l`

## Main results

* `afterLast_append`: the parameter put at the end of a text is read back
* `afterLast_append_of_notMem`: what may stand before the text
* `append_marker_inj`: the text and its parameter are determined by the two together
-/

variable {α : Type} [DecidableEq α]

/-- What follows the last occurrence of the marker, if there is one. -/
def afterLast (m : List α) : List α → Option (List α)
  | [] => none
  | a :: l =>
    match afterLast m l with
    | some t => some t
    | none => if m <+: a :: l then some ((a :: l).drop m.length) else none

theorem afterLast_eq_none {a : α} {m l : List α} (h : a ∉ l) : afterLast (a :: m) l = none := by
  induction l with
  | nil => rfl
  | cons b l ih =>
    have hne : a ≠ b := fun he => h (he ▸ List.mem_cons_self)
    rw [afterLast, ih fun hl => h (List.mem_cons_of_mem b hl)]
    simp [List.cons_prefix_cons, hne]

/-- **The parameter at the end of a text** is read back. -/
theorem afterLast_append {a : α} {m t : List α} (hm : a ∉ m) (ht : a ∉ t) (l : List α) :
    afterLast (a :: m) (l ++ (a :: m ++ t)) = some t := by
  induction l with
  | nil =>
    -- no later occurrence: the first letter of the marker does not come again
    have hnone : afterLast (a :: m) (m ++ t) = none :=
      afterLast_eq_none (by simp [hm, ht])
    simp [afterLast, hnone]
  | cons b l ih => rw [List.cons_append, afterLast, ih]

/-- What has no first letter of the marker may stand before the text. -/
theorem afterLast_append_of_notMem {a : α} {m s : List α} (hs : a ∉ s) (l : List α) :
    afterLast (a :: m) (s ++ l) = afterLast (a :: m) l := by
  induction s with
  | nil => rfl
  | cons b s ih =>
    have hne : a ≠ b := fun he => hs (he ▸ List.mem_cons_self)
    rw [List.cons_append, afterLast, ih fun hmem => hs (List.mem_cons_of_mem b hmem)]
    cases afterLast (a :: m) l with
    | some t => rfl
    | none => simp [List.cons_prefix_cons, hne]

/-- Texts with a parameter at their end are equal only when both parts are. -/
theorem append_marker_inj {a : α} {m t t' l l' : List α} (hm : a ∉ m) (ht : a ∉ t) (ht' : a ∉ t')
    (h : l ++ (a :: m ++ t) = l' ++ (a :: m ++ t')) : l = l' ∧ t = t' := by
  have hread := congrArg (afterLast (a :: m)) h
  rw [afterLast_append hm ht, afterLast_append hm ht'] at hread
  obtain rfl := Option.some.inj hread
  exact ⟨List.append_cancel_right h, rfl⟩
