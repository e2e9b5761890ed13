import CTSoftPhone.Programs.Interleaved
import CTSoftPhone.Wrapper.Config

/-!
# The shared instance

`sharedInstanceWithDelegate:config:` reads the shared instance, and creates and sets one when there
is none. The getter and the setter are each synchronized, the method is not, so callers interleave
between the two. A caller that has found none sets its own instance even when another has done so
meanwhile, and the two return different ones. All calls return the same instance exactly when none
is ever set over another.

## Main definitions

* `sharedInstanceWithDelegate`: the method, as a program over the getter, the setter and `init`
* `callers`: any number of calls of the method, interleaved
* `OneInstance`: all calls that have returned did so with the shared instance
* `SetsFirst`: the condition on a step

## Main results

* `describes_callersAfter`: what each call has still to do, computed from the schedule
* `always_oneInstance_iff`: the schedules on which all calls return the same instance
-/

namespace CTSoftPhone

/-! ## The method -/

/-- The commands of the class: the two synchronized accessors, and the allocation of an instance.
Instances are told apart by a number. -/
inductive ClassCmd (D : Type)
  | sharedInstance
  | setSharedInstance (x : Option ℕ)
  | initWithDelegate (delegate : D) (config : CTSoftPhoneConfig)
  deriving DecidableEq

def ClassCmd.Ans {D : Type} : ClassCmd D → Type
  | .sharedInstance => Option ℕ
  | .setSharedInstance _ => Unit
  | .initWithDelegate .. => ℕ

/-- The class: the instances allocated so far, each with its delegate and its configuration, and
the shared one. -/
structure ClassState (D : Type) where
  instances : List (D × CTSoftPhoneConfig)
  shared : Option ℕ

variable {D : Type}

/-- The class before any call. -/
def ClassState.initial : ClassState D := ⟨[], none⟩

/-- The meaning of the commands. -/
def ClassCmd.handle : Handler (ClassCmd.Ans (D := D)) (ClassState D) Empty
  | .sharedInstance, s => ⟨s.shared, s, []⟩
  | .setSharedInstance x, s => ⟨(), { s with shared := x }, []⟩
  | .initWithDelegate delegate config, s =>
    ⟨s.instances.length, { s with instances := s.instances ++ [(delegate, config)] }, []⟩

/-- Programs of the class, returning an instance. -/
abbrev ClassProg (D : Type) := Prog (ClassCmd.Ans (D := D)) ℕ

/-- The end of the method: the instance is set and returned. -/
def publish (x : ℕ) : ClassProg D := .call (.setSharedInstance (some x)) fun _ => .ret x

/-- The branch of the method that has found no instance. -/
def create (delegate : D) (config : CTSoftPhoneConfig) : ClassProg D :=
  .call (.initWithDelegate delegate config) publish

/-- `sharedInstanceWithDelegate:config:`. -/
def sharedInstanceWithDelegate (delegate : D) (config : CTSoftPhoneConfig) : ClassProg D :=
  .call .sharedInstance fun found : Option ℕ =>
    -- the lock of the getter is released here, others may run before what follows
    match found with
    | some x => .ret x
    | none => create delegate config

/-! ## Callers -/

section Callers

variable {ι : Type} [DecidableEq ι]

/-- The calls before any of them has run, one for each name, with its delegate and its
configuration. -/
def callsInitial (args : ι → D × CTSoftPhoneConfig) :
    Threads ι (ClassCmd.Ans (D := D)) (ClassState D) ℕ :=
  ⟨.initial, fun i => sharedInstanceWithDelegate (args i).1 (args i).2⟩

/-- Calls of the method, interleaved: each input lets one of them execute its next command. -/
def callers : Machine (Threads ι (ClassCmd.Ans (D := D)) (ClassState D) ℕ) ι Empty :=
  Threads.machine ClassCmd.handle

/-- The calls after a schedule. -/
abbrev callsAfter (args : ι → D × CTSoftPhoneConfig) (schedule : List ι) :
    Threads ι (ClassCmd.Ans (D := D)) (ClassState D) ℕ :=
  callers.after (callsInitial args) schedule

/-- All calls that have returned did so with the same instance, and it is the shared one. -/
structure OneInstance (args : ι → D × CTSoftPhoneConfig) (schedule : List ι) : Prop where
  same : ∀ i j x y, ((callsAfter args schedule).rest i).result = some x →
    ((callsAfter args schedule).rest j).result = some y → x = y
  shared_eq : ∀ i x, ((callsAfter args schedule).rest i).result = some x →
    (callsAfter args schedule).shared.shared = some x

/-- The condition on a step: an instance is set only while there is none. -/
def SetsFirst (args : ι → D × CTSoftPhoneConfig) (schedule : List ι) (i : ι) : Prop :=
  ∀ x, ((callsAfter args schedule).rest i).next = some (.setSharedInstance x) →
    (callsAfter args schedule).shared.shared = none

end Callers

/-! ## What each call has still to do -/

/-- Where a call is: before its read, having found none, having created an instance, or at its
end. -/
inductive Caller
  | start
  | creating
  | publishing (x : ℕ)
  | returned (x : ℕ)
  deriving DecidableEq

namespace Caller

/-- What a call has still to do. -/
def program (arg : D × CTSoftPhoneConfig) : Caller → ClassProg D
  | .start => sharedInstanceWithDelegate arg.1 arg.2
  | .creating => create arg.1 arg.2
  | .publishing x => publish x
  | .returned x => .ret x

/-- Where one command takes a call. -/
def step (s : ClassState D) : Caller → Caller
  | .start =>
    match s.shared with
    | some x => .returned x
    | none => .creating
  | .creating => .publishing s.instances.length
  | .publishing x | .returned x => .returned x

/-- What one command of a call does to the class. -/
def effect (arg : D × CTSoftPhoneConfig) (s : ClassState D) : Caller → ClassState D
  | .start | .returned _ => s
  | .creating => { s with instances := s.instances ++ [arg] }
  | .publishing x => { s with shared := some x }

theorem advance_program (arg : D × CTSoftPhoneConfig) (c : Caller) (s : ClassState D) :
    ((c.program arg).advance ClassCmd.handle s).val = (c.step s).program arg ∧
      ((c.program arg).advance ClassCmd.handle s).state = c.effect arg s := by
  cases c with
  | start =>
    refine ⟨?_, rfl⟩
    change (match s.shared with
      | some x => Prog.ret x
      | none => create arg.1 arg.2) = (step s .start).program arg
    rw [step]
    cases s.shared <;> rfl
  | _ => exact ⟨rfl, rfl⟩

theorem result_program_eq_some {arg : D × CTSoftPhoneConfig} {c : Caller} {x : ℕ} :
    (c.program arg).result = some x ↔ c = .returned x := by
  cases c with
  | returned y =>
    exact ⟨fun h => congrArg returned (Option.some.inj h), fun h => congrArg some (returned.inj h)⟩
  | _ => exact iff_of_false (Option.some_ne_none x).symm (by simp)

theorem next_program_eq_some {arg : D × CTSoftPhoneConfig} {c : Caller} {x : Option ℕ} :
    (c.program arg).next = some (.setSharedInstance x) ↔ ∃ y, c = .publishing y ∧ x = some y := by
  cases c with
  | start =>
    refine iff_of_false (fun h => ?_) (by simp)
    cases (Option.some.inj h : ClassCmd.sharedInstance = .setSharedInstance x)
  | creating =>
    refine iff_of_false (fun h => ?_) (by simp)
    cases (Option.some.inj h : ClassCmd.initWithDelegate arg.1 arg.2 = .setSharedInstance x)
  | publishing y =>
    constructor
    · intro h
      exact ⟨y, rfl, (ClassCmd.setSharedInstance.inj (Option.some.inj h)).symm⟩
    · rintro ⟨y', hy, rfl⟩
      cases hy
      rfl
  | returned y => exact iff_of_false (Option.some_ne_none _).symm (by simp)

end Caller

/-- The class, and where each call is. -/
structure Calls (ι D : Type) where
  state : ClassState D
  caller : ι → Caller

section Calls

variable {ι : Type} [DecidableEq ι] (args : ι → D × CTSoftPhoneConfig)

/-- A call executes its next command. -/
def Calls.step (i : ι) (t : Calls ι D) : Calls ι D :=
  ⟨(t.caller i).effect (args i) t.state, Function.update t.caller i ((t.caller i).step t.state)⟩

/-- The calls after a schedule, by where they are. -/
def callersAfter (schedule : List ι) : Calls ι D :=
  schedule.foldl (fun t i => t.step args i) ⟨.initial, fun _ => .start⟩

theorem caller_step_self {t : Calls ι D} {i : ι} :
    (t.step args i).caller i = (t.caller i).step t.state :=
  Function.update_self i _ _

theorem caller_step_of_ne {t : Calls ι D} {i j : ι} (hj : j ≠ i) :
    (t.step args i).caller j = t.caller j :=
  Function.update_of_ne hj _ _

theorem callersAfter_snoc (schedule : List ι) (i : ι) :
    callersAfter args (schedule ++ [i]) = (callersAfter args schedule).step args i := by
  simp [callersAfter]

/-- What each call has still to do is given by where it is. -/
structure Calls.Describes (t : Calls ι D)
    (t' : Threads ι (ClassCmd.Ans (D := D)) (ClassState D) ℕ) : Prop where
  shared_eq : t'.shared = t.state
  rest_eq : ∀ i, t'.rest i = (t.caller i).program (args i)

theorem Calls.Describes.step {t : Calls ι D}
    {t' : Threads ι (ClassCmd.Ans (D := D)) (ClassState D) ℕ} (h : t.Describes args t') (i : ι) :
    (t.step args i).Describes args (callers.step i t').state := by
  have hadvance := (t.caller i).advance_program (args i) t.state
  rw [← h.rest_eq i, ← h.shared_eq] at hadvance
  constructor
  · rw [Calls.step, ← h.shared_eq]
    exact hadvance.2
  · intro j
    by_cases hj : j = i
    · subst hj
      rw [caller_step_self, ← h.shared_eq, ← hadvance.1]
      exact Threads.rest_step_self ClassCmd.handle j t'
    · rw [caller_step_of_ne args hj, ← h.rest_eq j]
      exact Threads.rest_step_of_ne ClassCmd.handle i t' hj

/-- **What the calls have still to do** after a schedule is computed from the schedule. -/
theorem describes_callersAfter (schedule : List ι) :
    (callersAfter args schedule).Describes args (callsAfter args schedule) :=
  callers.after_simulates (callsInitial args) (R := fun t' t => Calls.Describes args t t')
    (N := Calls.step args) ⟨rfl, fun _ => rfl⟩ (fun i _ _ h => h.step args i) schedule

/-! ## What a step changes -/

section Step

variable {args} {t : Calls ι D} {i j : ι} {x : ℕ}

theorem length_instances_le_step :
    t.state.instances.length ≤ (t.step args i).state.instances.length := by
  rw [Calls.step]
  cases t.caller i <;> simp [Caller.effect]

/-- An instance that is to be set was so before, or has just been created. -/
theorem publishing_step (h : (t.step args i).caller j = .publishing x) :
    t.caller j = .publishing x ∧ j ≠ i ∨
      x = t.state.instances.length ∧ j = i ∧ t.caller i = .creating := by
  by_cases hj : j = i
  · subst hj
    rw [caller_step_self] at h
    cases hc : t.caller j with
    | start =>
      rw [hc, Caller.step] at h
      split at h <;> cases h
    | creating =>
      rw [hc] at h
      exact .inr ⟨(Caller.publishing.inj h).symm, rfl, rfl⟩
    | publishing y => rw [hc] at h; cases h
    | returned y => rw [hc] at h; cases h
  · rw [caller_step_of_ne args hj] at h
    exact .inl ⟨h, hj⟩

/-- The shared instance was so before, or has just been set. -/
theorem shared_step (h : (t.step args i).state.shared = some x) :
    t.state.shared = some x ∨ t.caller i = .publishing x := by
  rw [Calls.step] at h
  cases hc : t.caller i with
  | publishing y =>
    rw [hc] at h
    exact .inr (congrArg Caller.publishing (Option.some.inj h))
  | _ =>
    rw [hc] at h
    exact .inl h

theorem shared_step_of_publishing (h : t.caller i = .publishing x) :
    (t.step args i).state.shared = some x := by
  rw [Calls.step, h]
  rfl

/-- A call that has returned stays at its end. -/
theorem returned_step (h : t.caller j = .returned x) :
    (t.step args i).caller j = .returned x := by
  by_cases hj : j = i
  · subst hj
    rw [caller_step_self, h]
    rfl
  · rw [caller_step_of_ne args hj, h]

/-- A call returns the instance it sets, or the one it reads. -/
theorem returned_of_step (h : (t.step args i).caller j = .returned x) :
    t.caller j = .returned x ∨ j = i ∧ t.caller i = .publishing x ∨
      j = i ∧ t.caller i = .start ∧ t.state.shared = some x := by
  by_cases hj : j = i
  · subst hj
    rw [caller_step_self] at h
    cases hc : t.caller j with
    | start =>
      rw [hc, Caller.step] at h
      split at h
      · next hs => exact .inr (.inr ⟨rfl, rfl, hs.trans (congrArg some (Caller.returned.inj h))⟩)
      · cases h
    | creating => rw [hc] at h; cases h
    | publishing y =>
      rw [hc] at h
      exact .inr (.inl ⟨rfl, congrArg Caller.publishing (Caller.returned.inj h)⟩)
    | returned y => rw [hc] at h; exact .inl h
  · rw [caller_step_of_ne args hj] at h
    exact .inl h

end Step

/-! ## One instance -/

/-- Every instance is created by one call; one that is not set yet is held by that call only, and
the shared one has been returned. -/
structure Calls.Tracked (t : Calls ι D) : Prop where
  publishing_lt : ∀ i x, t.caller i = .publishing x → x < t.state.instances.length
  shared_lt : ∀ x, t.state.shared = some x → x < t.state.instances.length
  publishing_inj : ∀ i j x, t.caller i = .publishing x → t.caller j = .publishing x → i = j
  unpublished : ∀ i x, t.caller i = .publishing x → t.state.shared ≠ some x
  returned : ∀ x, t.state.shared = some x → ∃ i, t.caller i = .returned x

theorem Calls.Tracked.step {t : Calls ι D} (h : t.Tracked) (i : ι) : (t.step args i).Tracked where
  publishing_lt j x hx := by
    rcases publishing_step hx with ⟨hx, -⟩ | ⟨rfl, rfl, hc⟩
    · exact Nat.lt_of_lt_of_le (h.publishing_lt j x hx) length_instances_le_step
    · rw [Calls.step, hc]
      simp [Caller.effect]
  shared_lt x hx := by
    refine Nat.lt_of_lt_of_le ?_ length_instances_le_step
    rcases shared_step hx with hx | hx
    · exact h.shared_lt x hx
    · exact h.publishing_lt i x hx
  publishing_inj j k x hj hk := by
    rcases publishing_step hj with ⟨hj, -⟩ | ⟨rfl, rfl, -⟩
    · rcases publishing_step hk with ⟨hk, -⟩ | ⟨rfl, -, -⟩
      · exact h.publishing_inj j k x hj hk
      · exact absurd (h.publishing_lt j _ hj) (Nat.lt_irrefl _)
    · -- the new instance is in no other hands
      rcases publishing_step hk with ⟨hk, -⟩ | ⟨-, rfl, -⟩
      · exact absurd (h.publishing_lt k _ hk) (Nat.lt_irrefl _)
      · rfl
  unpublished j x hj hx := by
    -- an instance is set by the call that has created it, which does not set it again
    rcases publishing_step hj with ⟨hj, hji⟩ | ⟨rfl, rfl, hc⟩
    · rcases shared_step hx with hx | hx
      · exact h.unpublished j x hj hx
      · exact hji (h.publishing_inj j i x hj hx)
    · rcases shared_step hx with hx | hx
      · exact absurd (h.shared_lt _ hx) (Nat.lt_irrefl _)
      · rw [hc] at hx
        cases hx
  returned x hx := by
    -- who sets an instance returns it in the same step
    rcases shared_step hx with hx | hx
    · obtain ⟨j, hj⟩ := h.returned x hx
      exact ⟨j, returned_step hj⟩
    · refine ⟨i, ?_⟩
      rw [caller_step_self, hx]
      rfl

theorem tracked_callersAfter (schedule : List ι) : (callersAfter args schedule).Tracked := by
  induction schedule using List.reverseRecOn with
  | nil => constructor <;> simp [callersAfter, ClassState.initial]
  | append_singleton schedule i ih =>
    rw [callersAfter_snoc]
    exact ih.step args i

/-- All calls that have returned did so with the shared instance. -/
def Calls.AllShared (t : Calls ι D) : Prop :=
  ∀ i x, t.caller i = .returned x → t.state.shared = some x

/-- A step keeps it so exactly when it does not set an instance over another. -/
theorem Calls.AllShared.step_iff {t : Calls ι D} (h : t.AllShared) (htracked : t.Tracked) (i : ι) :
    (t.step args i).AllShared ↔ ∀ x, t.caller i = .publishing x → t.state.shared = none := by
  constructor
  · intro hstep x hx
    rw [Option.eq_none_iff_forall_ne_some]
    intro y hy
    -- the call that has returned the other instance gives the contradiction
    obtain ⟨j, hj⟩ := htracked.returned y hy
    have hyx := hstep j y (returned_step hj)
    rw [shared_step_of_publishing hx] at hyx
    obtain rfl := Option.some.inj hyx
    exact htracked.unpublished i x hx hy
  · intro hfirst j x hj
    cases hc : t.caller i with
    | publishing y =>
      have hnone := hfirst y hc
      rw [shared_step_of_publishing hc]
      rcases returned_of_step hj with hj | ⟨-, hx⟩ | ⟨-, hx, -⟩
      · have hshared := h j x hj
        rw [hnone] at hshared
        cases hshared
      · rw [hc] at hx
        rw [Caller.publishing.inj hx]
      · rw [hc] at hx
        cases hx
    | _ =>
      -- no other step sets an instance
      have hsame : (t.step args i).state.shared = t.state.shared := by
        rw [Calls.step, hc]
        rfl
      rw [hsame]
      rcases returned_of_step hj with hj | ⟨-, hx⟩ | ⟨-, -, hx⟩
      · exact h j x hj
      · rw [hc] at hx
        cases hx
      · exact hx

variable (schedule : List ι)

theorem oneInstance_iff :
    OneInstance args schedule ↔ (callersAfter args schedule).AllShared := by
  have hd := describes_callersAfter args schedule
  have hresult : ∀ i x, ((callsAfter args schedule).rest i).result = some x ↔
      (callersAfter args schedule).caller i = .returned x := by
    intro i x
    rw [hd.rest_eq i]
    exact Caller.result_program_eq_some
  constructor
  · intro h i x hi
    rw [← hd.shared_eq]
    exact h.shared_eq i x ((hresult i x).mpr hi)
  · intro h
    have hshared : ∀ i x, ((callsAfter args schedule).rest i).result = some x →
        (callsAfter args schedule).shared.shared = some x := by
      intro i x hi
      rw [hd.shared_eq]
      exact h i x ((hresult i x).mp hi)
    refine ⟨fun i j x y hi hj => ?_, hshared⟩
    exact Option.some.inj ((hshared i x hi).symm.trans (hshared j y hj))

theorem setsFirst_iff (i : ι) :
    SetsFirst args schedule i ↔ ∀ x, (callersAfter args schedule).caller i = .publishing x →
      (callersAfter args schedule).state.shared = none := by
  have hd := describes_callersAfter args schedule
  rw [SetsFirst, hd.rest_eq i, hd.shared_eq]
  constructor
  · intro h x hx
    exact h (some x) (Caller.next_program_eq_some.mpr ⟨x, hx, rfl⟩)
  · intro h x hx
    obtain ⟨y, hy, -⟩ := Caller.next_program_eq_some.mp hx
    exact h y hy

/-- **One shared instance**: in every state of a schedule all calls that have returned did so with
the same instance, which is the shared one, exactly when no instance is set over another. -/
theorem always_oneInstance_iff :
    Always (OneInstance args) schedule ↔ Along (SetsFirst args) schedule := by
  refine always_iff_along ?_ fun schedule i _ h => ?_
  · rw [oneInstance_iff]
    intro i x hi
    cases hi
  · rw [oneInstance_iff] at h ⊢
    rw [callersAfter_snoc, setsFirst_iff]
    exact h.step_iff args (tracked_callersAfter args schedule) i

end Calls

/-- Two callers that both find no instance return different ones. -/
theorem not_oneInstance_two_callers :
    ¬ OneInstance (fun _ : ℕ => ((), ⟨5060, .udp⟩)) [0, 1, 0, 0, 1, 1] := by
  intro h
  exact absurd (h.same 0 1 0 1 rfl rfl) (by decide)

end CTSoftPhone
