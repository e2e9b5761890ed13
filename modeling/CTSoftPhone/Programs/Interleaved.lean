import CTSoftPhone.Programs.History
import Mathlib.Logic.Function.Basic

/-!
# Programs that are interleaved

Threads run programs over a shared state, one command at a time and in any order. The scheduler
picks a thread, the thread executes its next command, and the others keep what they have still to
do. A thread that is at the end of its program stays there.

## Main definitions

* `Prog.advance`: one command of a program
* `Prog.result`, `Prog.next`: the value of a program at its end, the command of one that is not
* `Threads`, `Threads.machine`: threads over a shared state, and the machine a scheduler drives

## Main results

* `Prog.run_advance`: a program run as a whole runs its commands one after another
* `Threads.rest_step_of_ne`: a step of one thread leaves the others what they have to do
-/

variable {C : Type} {A : C → Type} {S E α ι : Type}

namespace Prog

/-- One command of a program: what is left of the program, the next state and the events. -/
def advance (h : Handler A S E) : Prog A α → S → Outcome (Prog A α) S E
  | .ret a, s => ⟨.ret a, s, []⟩
  | .call c k, s => ⟨k (h c s).val, (h c s).state, (h c s).events⟩

/-- The value of a program that is at its end. -/
def result : Prog A α → Option α
  | .ret a => some a
  | .call .. => none

/-- The next command of a program that is not at its end. -/
def next : Prog A α → Option C
  | .ret _ => none
  | .call c _ => some c

@[simp] theorem result_ret (a : α) : (.ret a : Prog A α).result = some a := rfl

@[simp] theorem result_call (c : C) (k : A c → Prog A α) : (Prog.call c k).result = none := rfl

theorem result_eq_some {p : Prog A α} {a : α} : p.result = some a ↔ p = .ret a := by
  cases p with
  | ret b => simp
  | call c k => simp

@[simp] theorem advance_ret (h : Handler A S E) (a : α) (s : S) :
    advance h (.ret a) s = ⟨.ret a, s, []⟩ := rfl

/-- **A run** starts with one command, and goes on with what is left. -/
theorem run_advance (h : Handler A S E) (p : Prog A α) (s : S) :
    run h p s = (advance h p s).andThen fun p s => run h p s := by
  cases p with
  | ret a => simp [Outcome.andThen]
  | call c k => rfl

end Prog

/-- Threads over a shared state, with what each of them has still to do. -/
structure Threads (ι : Type) {C : Type} (A : C → Type) (S α : Type) where
  shared : S
  rest : ι → Prog A α

namespace Threads

variable [DecidableEq ι] (h : Handler A S E) (i : ι) (t : Threads ι A S α)

/-- The scheduler picks a thread, which executes one command. -/
def step : Outcome Unit (Threads ι A S α) E :=
  -- at the end of its program a thread has nothing to execute, and stutters
  let o := (t.rest i).advance h t.shared
  ⟨(), ⟨o.state, Function.update t.rest i o.val⟩, o.events⟩

/-- The threads, driven by a scheduler. -/
def machine : Machine (Threads ι A S α) ι E := ⟨step h⟩

@[simp] theorem shared_step : (step h i t).state.shared = ((t.rest i).advance h t.shared).state :=
  rfl

@[simp] theorem rest_step_self :
    (step h i t).state.rest i = ((t.rest i).advance h t.shared).val :=
  Function.update_self i _ _

theorem rest_step_of_ne {j : ι} (hj : j ≠ i) : (step h i t).state.rest j = t.rest j :=
  Function.update_of_ne hj _ _

end Threads
