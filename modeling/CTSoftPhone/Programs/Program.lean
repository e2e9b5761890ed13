import Mathlib.Data.List.Basic
import Mathlib.Tactic.Common

/-!
# Programs that issue commands

A program issues commands one after another, and each next command may depend on the answers
so far. It is the syntax only: a handler says what a command does to a state, what it answers
and which events it leaves in the trace. One program thus has several meanings: run as a whole
(`run`, below), re-entered by its clients, or interleaved with other activity.

## Main definitions

* `Prog A α`: programs over commands `c` answered in `A c`
* `Outcome α S E`: the value, the state and the events a run leaves
* `Handler A S E`: the meaning of the commands
* `run h p s`: the program `p` run as a whole from the state `s`

## Main results

* `run_bind`, `run_forM_cons`: runs of sequences and of loops
* `run_invariant`: what every command preserves, a run preserves
-/

variable {C : Type} {A : C → Type} {S E α β : Type}

/-- A program over the commands `C`, the command `c` being answered in `A c`. -/
inductive Prog {C : Type} (A : C → Type) (α : Type) : Type
  | ret (a : α)
  | call (c : C) (k : A c → Prog A α)

/-- What a run leaves: its value, the state it ends in, and the events it emitted, in order. -/
structure Outcome (α S E : Type) where
  val : α
  state : S
  events : List E

/-- The meaning of the commands: in a state, each gives an answer, a next state and events. -/
abbrev Handler (A : C → Type) (S E : Type) := (c : C) → S → Outcome (A c) S E

namespace Outcome

/-- Continue from an outcome, keeping the events so far. -/
def andThen (o : Outcome α S E) (f : α → S → Outcome β S E) : Outcome β S E :=
  { f o.val o.state with events := o.events ++ (f o.val o.state).events }

@[simp] theorem andThen_state (o : Outcome α S E) (f : α → S → Outcome β S E) :
    (o.andThen f).state = (f o.val o.state).state := rfl

@[simp] theorem andThen_events (o : Outcome α S E) (f : α → S → Outcome β S E) :
    (o.andThen f).events = o.events ++ (f o.val o.state).events := rfl

end Outcome

namespace Prog

/-- Sequencing: the commands of `p`, then those of its continuation. -/
def bind : Prog A α → (α → Prog A β) → Prog A β
  | .ret a, f => f a
  | .call c k, f => .call c fun x => (k x).bind f

instance : Monad (Prog A) where
  pure := .ret
  bind := .bind

@[simp] theorem bind_def (p : Prog A α) (f : α → Prog A β) : p >>= f = p.bind f := rfl

@[simp] theorem pure_def (a : α) : (pure a : Prog A α) = .ret a := rfl

@[simp] theorem ret_bind (a : α) (f : α → Prog A β) : (Prog.ret a).bind f = f a := rfl

@[simp] theorem call_bind (c : C) (k : A c → Prog A α) (f : α → Prog A β) :
    (Prog.call c k).bind f = .call c fun x => (k x).bind f := rfl

theorem bind_assoc {γ : Type} (p : Prog A α) (f : α → Prog A β) (g : β → Prog A γ) :
    (p.bind f).bind g = p.bind fun a => (f a).bind g := by
  induction p with
  | ret a => rfl
  | call c k ih => simp only [call_bind, ih]

theorem bind_ret (p : Prog A α) : p.bind .ret = p := by
  induction p with
  | ret a => rfl
  | call c k ih => simp only [call_bind, ih]

theorem ite_bind (P : Prop) [Decidable P] (p q : Prog A α) (f : α → Prog A β) :
    (if P then p else q).bind f = if P then p.bind f else q.bind f := by
  split <;> rfl

section Run

variable (h : Handler A S E)

/-- The program run as a whole, each command answered by the handler. -/
def run : Prog A α → S → Outcome α S E
  | .ret a, s => ⟨a, s, []⟩
  | .call c k, s => (h c s).andThen fun x s => (k x).run s

@[simp] theorem run_ret (a : α) (s : S) : run h (.ret a : Prog A α) s = ⟨a, s, []⟩ := rfl

@[simp] theorem run_call (c : C) (k : A c → Prog A α) (s : S) :
    run h (.call c k) s = (h c s).andThen fun x s => run h (k x) s := rfl

@[simp] theorem run_bind (p : Prog A α) (f : α → Prog A β) (s : S) :
    run h (p.bind f) s = (run h p s).andThen fun a s => run h (f a) s := by
  induction p generalizing s with
  | ret a => simp [Outcome.andThen]
  | call c k ih => simp [Outcome.andThen, ih]

@[simp] theorem run_ite (P : Prop) [Decidable P] (p q : Prog A α) (s : S) :
    run h (if P then p else q) s = if P then run h p s else run h q s := by
  split <;> rfl

@[simp] theorem run_forM_cons (f : β → Prog A PUnit) (b : β) (bs : List β) (s : S) :
    run h (forM (b :: bs) f) s = (run h (f b) s).andThen fun _ s => run h (forM bs f) s := by
  rw [List.forM_cons, bind_def, run_bind]

/-- What every command preserves, and every event it emits satisfies, a run preserves and its
events satisfy. -/
theorem run_invariant {I : S → Prop} {φ : E → Prop}
    (hstep : ∀ c s, I s → I (h c s).state ∧ ∀ e ∈ (h c s).events, φ e)
    (p : Prog A α) {s : S} (hs : I s) :
    I (run h p s).state ∧ ∀ e ∈ (run h p s).events, φ e := by
  induction p generalizing s with
  | ret a => simpa using hs
  | call c k ih =>
    -- the command keeps the invariant, and the rest of the program starts from there
    obtain ⟨hI, hφ⟩ := hstep c s hs
    obtain ⟨hI', hφ'⟩ := ih (h c s).val hI
    refine ⟨by simpa using hI', fun e he => ?_⟩
    rcases List.mem_append.mp he with he | he
    · exact hφ e he
    · exact hφ' e he

end Run

end Prog
