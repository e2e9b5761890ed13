import CTSoftPhone.Programs.Program
import Mathlib.Data.List.Induction
import Mathlib.Data.List.Infix

/-!
# Histories of a machine

A machine reads inputs one after another, changing its state and emitting events. Its behaviour
is stated over histories, the inputs read so far: a property holds always along a history when it
holds after every part of it, and a condition is met along a history when every input meets it
given the inputs before.

## Main definitions

* `Machine S I E`: a step function with events
* `Machine.after`, `Machine.trace`: the state and the events after a history
* `Always P is`, `Along R is`: a property of every part of a history, a condition on every input

## Main results

* `Machine.after_simulates`, `Machine.after_refines`: a simulation, and a refinement by a view,
  extend from steps to histories
* `Machine.trace_simulates`: so does a simulation of what the steps show
* `Machine.trace_unwinds`: inputs that are alike step by step are alike over histories
* `always_iff_along`: a property that each input keeps exactly under a condition holds always
  exactly when the condition is met along the history
-/

variable {S I E : Type}

/-- A machine: on an input, in a state, the next state and the events emitted. -/
structure Machine (S I E : Type) where
  step : I → S → Outcome Unit S E

namespace Machine

variable (M : Machine S I E) (s : S)

/-- The machine run on a history. -/
def exec : List I → S → Outcome Unit S E
  | [], s => ⟨(), s, []⟩
  | i :: is, s => (M.step i s).andThen fun _ s => exec is s

/-- The state after a history. -/
def after (is : List I) : S := (M.exec is s).state

/-- The events of a history, in order. -/
def trace (is : List I) : List E := (M.exec is s).events

@[simp] theorem trace_nil : M.trace s [] = [] := rfl

theorem after_append (is js : List I) : M.after s (is ++ js) = M.after (M.after s is) js := by
  induction is generalizing s with
  | nil => rfl
  | cons i is ih => exact ih (M.step i s).state

theorem trace_append (is js : List I) :
    M.trace s (is ++ js) = M.trace s is ++ M.trace (M.after s is) js := by
  induction is generalizing s with
  | nil => rfl
  | cons i is ih =>
    have h := ih (M.step i s).state
    simp only [trace, after, List.cons_append, exec, Outcome.andThen_events,
      Outcome.andThen_state] at h ⊢
    rw [h, List.append_assoc]

@[simp] theorem after_snoc (is : List I) (i : I) :
    M.after s (is ++ [i]) = (M.step i (M.after s is)).state := by
  rw [after_append]; rfl

@[simp] theorem trace_snoc (is : List I) (i : I) :
    M.trace s (is ++ [i]) = M.trace s is ++ (M.step i (M.after s is)).events := by
  rw [trace_append]
  simp [trace, exec]

/-- A relation to the states of another system that every step keeps, when the other system moves
along, holds after every history. -/
theorem after_simulates {T : Type} {R : S → T → Prop} {N : I → T → T} {t : T} (h₀ : R s t)
    (hstep : ∀ i s t, R s t → R (M.step i s).state (N i t)) (is : List I) :
    R (M.after s is) (is.foldl (fun t i => N i t) t) := by
  induction is using List.reverseRecOn with
  | nil => exact h₀
  | append_singleton is i ih =>
    rw [after_snoc, List.foldl_append]
    exact hstep i _ _ ih

/-- A view whose next value each step determines from the view is, after every history, what the
history makes of it. -/
theorem after_refines {T : Type} {f : S → T} {N : I → T → T}
    (hstep : ∀ i s, f (M.step i s).state = N i (f s)) (is : List I) :
    f (M.after s is) = is.foldl (fun t i => N i t) (f s) :=
  M.after_simulates (R := fun s t => f s = t) s rfl (fun i s _ h => h ▸ hstep i s) is

/-- When each step shows what a step of another machine emits, and keeps a relation to its states,
every history shows what a history of that machine emits. -/
theorem trace_simulates {T F : Type} {N : Machine T I F} {R : S → T → Prop} {obs : E → Option F}
    {t : T} (h₀ : R s t)
    (hstep : ∀ i s t, R s t → R (M.step i s).state (N.step i t).state ∧
      (M.step i s).events.filterMap obs = (N.step i t).events) (is : List I) :
    R (M.after s is) (N.after t is) ∧ (M.trace s is).filterMap obs = N.trace t is := by
  induction is using List.reverseRecOn with
  | nil => exact ⟨h₀, rfl⟩
  | append_singleton is i ih =>
    obtain ⟨hstate, hevents⟩ := hstep i _ _ ih.1
    rw [after_snoc, after_snoc, trace_snoc, trace_snoc, List.filterMap_append, ih.2, hevents]
    exact ⟨hstate, rfl⟩

/-- **Unwinding**: when inputs that are alike take related states to related states and emit the
same events, histories of inputs that are alike emit the same events. -/
theorem trace_unwinds {S' I' : Type} {M' : Machine S' I' E} {R : S → S' → Prop} {Q : I → I' → Prop}
    (hstep : ∀ i i' s s', Q i i' → R s s' → R (M.step i s).state (M'.step i' s').state ∧
      (M.step i s).events = (M'.step i' s').events)
    {s' : S'} (h₀ : R s s') {is : List I} {is' : List I'} (his : List.Forall₂ Q is is') :
    M.trace s is = M'.trace s' is' := by
  induction his generalizing s s' with
  | nil => rfl
  | cons hi _ ih =>
    obtain ⟨hstate, hevents⟩ := hstep _ _ s s' hi h₀
    exact congrArg₂ (· ++ ·) hevents (ih _ hstate)

end Machine

/-! ## Properties along a history -/

/-- The property holds of every part of the history. -/
def Always (P : List I → Prop) (is : List I) : Prop := ∀ js, js <+: is → P js

/-- Every input of the history meets the condition, given the inputs before it. -/
def Along (R : List I → I → Prop) (is : List I) : Prop := ∀ js i, js ++ [i] <+: is → R js i

instance {P : List I → Prop} [DecidablePred P] (is : List I) : Decidable (Always P is) :=
  decidable_of_iff (∀ js ∈ is.inits, P js) <| forall_congr' fun js =>
    imp_congr_left (List.mem_inits js is)

theorem always_nil {P : List I → Prop} : Always P [] ↔ P [] :=
  ⟨fun h => h [] List.prefix_rfl, fun h _ hjs => List.prefix_nil.mp hjs ▸ h⟩

theorem always_snoc {P : List I → Prop} {is : List I} {i : I} :
    Always P (is ++ [i]) ↔ Always P is ∧ P (is ++ [i]) := by
  constructor
  · intro h
    refine ⟨fun js hjs => ?_, h _ List.prefix_rfl⟩
    exact h js (hjs.trans (List.prefix_append is [i]))
  · rintro ⟨h, hi⟩ js hjs
    rcases List.prefix_concat_iff.mp hjs with rfl | hjs
    · exact hi
    · exact h js hjs

theorem along_nil {R : List I → I → Prop} : Along R [] := by
  intro js i hjs
  simp at hjs

theorem along_snoc {R : List I → I → Prop} {is : List I} {i : I} :
    Along R (is ++ [i]) ↔ Along R is ∧ R is i := by
  constructor
  · intro h
    refine ⟨fun js j hjs => ?_, h is i List.prefix_rfl⟩
    exact h js j (hjs.trans (List.prefix_append is [i]))
  · rintro ⟨h, hi⟩ js j hjs
    rcases List.prefix_concat_iff.mp hjs with he | hjs
    · obtain ⟨rfl, hj⟩ := List.append_inj' he rfl
      exact List.singleton_inj.mp hj ▸ hi
    · exact h js j hjs

theorem along_singleton {R : List I → I → Prop} {i : I} : Along R [i] ↔ R [] i := by
  rw [← List.nil_append [i], along_snoc]
  exact and_iff_right along_nil

theorem along_congr {R R' : List I → I → Prop} (h : ∀ js i, R js i ↔ R' js i) {is : List I} :
    Along R is ↔ Along R' is :=
  forall_congr' fun js => forall_congr' fun i => imp_congr_right fun _ => h js i

/-- All events of a history satisfy what the events of each input, read where it is, satisfy. -/
theorem Machine.forall_mem_trace_iff_along (M : Machine S I E) (s : S) {φ : E → Prop}
    (is : List I) :
    (∀ e ∈ M.trace s is, φ e) ↔
      Along (fun js i => ∀ e ∈ (M.step i (M.after s js)).events, φ e) is := by
  induction is using List.reverseRecOn with
  | nil => exact iff_of_true (by simp) along_nil
  | append_singleton is i ih =>
    rw [along_snoc, ← ih, M.trace_snoc]
    exact List.forall_mem_append

/-- **Exact conditions**: when the property holds at the start, and an input of the history read
while it holds keeps it exactly when the condition is met, then it holds always exactly when the
condition is met along the history. -/
theorem always_iff_along {P : List I → Prop} {R : List I → I → Prop} {is : List I} (h₀ : P [])
    (hstep : ∀ js i, js ++ [i] <+: is → P js → (P (js ++ [i]) ↔ R js i)) :
    Always P is ↔ Along R is := by
  induction is using List.reverseRecOn with
  | nil => exact iff_of_true (always_nil.mpr h₀) along_nil
  | append_singleton is i ih =>
    -- the last input matters only when the property has held so far
    rw [always_snoc, along_snoc,
      ← ih fun js j hjs => hstep js j (hjs.trans (List.prefix_append is [i]))]
    exact and_congr_right fun h => hstep is i List.prefix_rfl (h is List.prefix_rfl)
