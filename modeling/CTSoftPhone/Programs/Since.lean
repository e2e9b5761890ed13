import CTSoftPhone.Programs.History

/-!
# What has held since

A state that some inputs switch on and some switch off is on exactly when the last of them switched
it on: one did, and none has switched it off since. Both are conditions on an input given the inputs
before it, so the state is read off the history.

## Main definitions

* `Since P Q is`: some input met `P`, and none after it has met `Q`

## Main results

* `since_snoc`: what one more input does to it
* `iff_since`: a property that inputs switch on and off holds since it was switched on last
-/

variable {I : Type}

/-- Some input of the history met `P` where it was read, and no input after it met `Q`. -/
def Since (P Q : List I → I → Prop) (is : List I) : Prop :=
  ∃ js i ks, is = js ++ i :: ks ∧ P js i ∧ Along (fun ls j => ¬ Q (js ++ i :: ls) j) ks

section Since

variable {P Q : List I → I → Prop}

theorem not_since_nil : ¬ Since P Q [] := by
  rintro ⟨js, i, ks, he, -⟩
  exact List.append_ne_nil_of_right_ne_nil js (List.cons_ne_nil i ks) he.symm

/-- One more input switches on, or does not switch off what was on. -/
theorem since_snoc {is : List I} {i : I} :
    Since P Q (is ++ [i]) ↔ P is i ∨ Since P Q is ∧ ¬ Q is i := by
  constructor
  · rintro ⟨js, j, ks, he, hP, hQ⟩
    -- the last input is the one that met `P`, or one of those after it
    rcases List.eq_nil_or_concat ks with rfl | ⟨ks, k, rfl⟩
    · obtain ⟨rfl, hij⟩ := List.append_inj' he rfl
      exact .inl (List.singleton_inj.mp hij ▸ hP)
    · rw [List.concat_eq_append] at he hQ
      obtain ⟨hrest, hlast⟩ := along_snoc.mp hQ
      rw [← List.cons_append, ← List.append_assoc] at he
      obtain ⟨rfl, hik⟩ := List.append_inj' he rfl
      exact .inr ⟨⟨js, j, ks, rfl, hP, hrest⟩, List.singleton_inj.mp hik ▸ hlast⟩
  · rintro (hP | ⟨⟨js, j, ks, rfl, hP, hQ⟩, hi⟩)
    · exact ⟨is, i, [], rfl, hP, along_nil⟩
    · refine ⟨js, j, ks ++ [i], ?_, hP, along_snoc.mpr ⟨hQ, hi⟩⟩
      rw [List.append_assoc, List.cons_append]

/-- **A property that inputs switch on and off**, and that does not hold at the start, holds exactly
when it has been switched on and not been switched off since. -/
theorem iff_since {R : List I → Prop} (h₀ : ¬ R [])
    (hstep : ∀ is i, R (is ++ [i]) ↔ P is i ∨ R is ∧ ¬ Q is i) (is : List I) :
    R is ↔ Since P Q is := by
  induction is using List.reverseRecOn with
  | nil => exact iff_of_false h₀ not_since_nil
  | append_singleton is i ih => rw [hstep, since_snoc, ih]

end Since
