import CTSoftPhone.Session.Phase

/-!
# The flag of the phone

`pjsuaInitialized` is set before the set-up and cleared by `destroy` only. A registration that
fails tears the library down and leaves the flag up, so the flag tells whether the library is
running exactly as long as no registration fails.

## Main definitions

* `World.FlagCoherent`: the flag tells whether the library is running

## Main results

* `flagCoherent_iff_phase`: the flag is coherent exactly outside the stale phase
* `always_flagCoherent_iff`: the histories along which the flag is always coherent
* `stale_of_not_destroyed`: a failed registration is never repaired by another one
-/

namespace CTSoftPhone

/-- The flag is up exactly when the library is created, initialised and started. -/
def World.FlagCoherent (w : World) : Prop :=
  w.vars.pjsuaInitialized = true ↔ w.pjsua.state = .running

instance : DecidablePred World.FlagCoherent := fun w => by
  unfold World.FlagCoherent; infer_instance

/-- A registration made in the history so far succeeds. -/
def RegisterSucceeds (steps : List Step) (st : Step) : Prop :=
  st.Registers → (phaseAfter steps).RegisterOk st.answers

theorem flagCoherent_iff_phase (config : CTSoftPhoneConfig) (steps : List Step) :
    (worldAfter config steps).FlagCoherent ↔ phaseAfter steps ≠ .stale := by
  rw [World.FlagCoherent, pjsuaInitialized_iff, state_eq_running_iff]
  cases phaseAfter steps <;> decide

/-- Outside the stale phase, only a registration that fails leads into it. -/
theorem step_ne_stale_iff {p : Phase} (h : p ≠ .stale) (st : Step) :
    p.step st ≠ .stale ↔ (st.Registers → p.RegisterOk st.answers) := by
  obtain ⟨act, a, locals⟩ := st
  cases act with
  | op o =>
    cases o with
    | registerWithNumber number host credentials =>
      by_cases hok : p.RegisterOk a <;> simp [Phase.step, Step.Registers, hok]
    | destroy => simp [Phase.step, Step.Registers]
    | handleIpChange transport => simpa [Phase.step, Step.Registers] using h
    | hangup => simpa [Phase.step, Step.Registers] using h
    | answercall => simpa [Phase.step, Step.Registers] using h
    | mute => simpa [Phase.step, Step.Registers] using h
    | unmute => simpa [Phase.step, Step.Registers] using h
  | callback cb => simpa [Phase.step, Step.Registers] using h

/-- **The flag is coherent** in every state of a history exactly when every registration of the
history succeeds. -/
theorem always_flagCoherent_iff (config : CTSoftPhoneConfig) (steps : List Step) :
    Always (fun js => (worldAfter config js).FlagCoherent) steps ↔
      Along RegisterSucceeds steps := by
  -- the flag is coherent outside the stale phase, and only a failed registration leads there
  refine always_iff_along ?_ fun js st _ h => ?_
  · rw [flagCoherent_iff_phase]
    decide
  · rw [flagCoherent_iff_phase, phaseAfter_snoc]
    exact step_ne_stale_iff ((flagCoherent_iff_phase config js).mp h) st

/-- After `pjsua_create` has failed once, the flag is up over a library that is not created, and
a registration whose calls would all succeed is refused. -/
theorem not_flagCoherent_after_failed_create :
    ¬ (worldAfter ⟨5060, .udp⟩
        [(Act.op (.registerWithNumber [] [] [])).answered
          { Answers.success with create := 1 }]).FlagCoherent ∧
      ¬ (worldAfter ⟨5060, .udp⟩
        [(Act.op (.registerWithNumber [] [] [])).answered { Answers.success with create := 1 },
          (Act.op (.registerWithNumber [] [] [])).answered .success]).FlagCoherent := by
  decide

/-- Only `destroy` leaves the stale phase. -/
theorem stale_step {st : Step} (h : st.act ≠ .op .destroy) : Phase.stale.step st = .stale := by
  obtain ⟨act, a, locals⟩ := st
  cases act with
  | op o => cases o <;> first | rfl | exact absurd rfl h
  | callback cb => rfl

/-- **A failed registration is never repaired** by another one: until `destroy`, the library
stays down and the flag up. -/
theorem stale_of_not_destroyed {steps : List Step} (h : phaseAfter steps = .stale)
    (more : List Step) (hmore : ∀ st ∈ more, st.act ≠ .op .destroy) :
    phaseAfter (steps ++ more) = .stale := by
  induction more using List.reverseRecOn with
  | nil => simpa using h
  | append_singleton more st ih =>
    rw [← List.append_assoc, phaseAfter_snoc,
      ih fun st' hst' => hmore st' (List.mem_append_left _ hst')]
    exact stale_step (hmore st (by simp))

end CTSoftPhone
