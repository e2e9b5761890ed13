import CTSoftPhone.Calls.Media
import CTSoftPhone.Session.Phase
import Mathlib.Logic.Function.Basic

/-!
# The microphone of a call without media

Active media connects a call to the sound device in both directions. The end of the media takes one
of them away, from the call to the speaker, and leaves the microphone connected; and `unmute` looks
at the slot of the last call information only, so it connects the microphone of a call that has lost
its media again. The microphone stays closed to such calls exactly when neither happens.

## Main definitions

* `lastMediaStatus`: the media status reported last with a slot
* `NoOpenMic`: the microphone is connected to no slot without media
* `KeepsMicClosed`: the condition on a step

## Main results

* `MicClosed.connect_iff`: when acting on a report keeps the microphone closed
* `always_noOpenMic_iff`: the histories along which it stays closed
-/

namespace CTSoftPhone

/-! ## The media status of a slot -/

/-- The report of the media of a call that a step in a phase makes. -/
def mediaReport (st : Step) (p : Phase) : Option PjsuaCallInfo :=
  match st.act with
  | .callback (.callMediaState callId) =>
    if p = .up ∧ st.answers.callGetInfo callId = pjSuccess then
      some (st.answers.callInfo callId)
    else none
  | .callback (.incomingCall _) | .callback (.callState ..) | .callback (.regState2 _) | .op _ =>
    none

/-- The status of each slot, once a report has been made. -/
def noteStatus (statuses : ℤ → Option PjsuaCallMediaStatus) :
    Option PjsuaCallInfo → ℤ → Option PjsuaCallMediaStatus
  | some info => Function.update statuses info.confSlot (some info.mediaStatus)
  | none => statuses

/-- What a step makes of the phase and the status of each slot: a library that is torn down has no
calls, and so nothing is known of its slots. -/
def noteMedia (st : Step) (m : Phase × (ℤ → Option PjsuaCallMediaStatus)) :
    Phase × (ℤ → Option PjsuaCallMediaStatus) :=
  (m.1.step st, if m.1.step st = .up then noteStatus m.2 (mediaReport st m.1) else fun _ => none)

/-- The media status that `on_call_media_state` reported last with a slot, since the library was
torn down last. The slot is that of one call at a time. -/
def lastMediaStatus (steps : List Step) : ℤ → Option PjsuaCallMediaStatus :=
  (steps.foldl (fun m st => noteMedia st m) (.down, fun _ => none)).2

theorem lastMediaStatus_snoc (steps : List Step) (st : Step) :
    lastMediaStatus (steps ++ [st]) =
      if phaseAfter (steps ++ [st]) = .up then
        noteStatus (lastMediaStatus steps) (mediaReport st (phaseAfter steps))
      else fun _ => none := by
  have hphase : ∀ steps : List Step,
      (steps.foldl (fun m st => noteMedia st m) (.down, fun _ => none)).1 = phaseAfter steps := by
    intro steps
    induction steps using List.reverseRecOn with
    | nil => rfl
    | append_singleton steps st ih =>
      rw [List.foldl_append, phaseAfter_snoc, ← ih]
      rfl
  rw [lastMediaStatus, List.foldl_append, phaseAfter_snoc, ← hphase steps]
  rfl

/-- While the phone is not up, there is no media. -/
theorem lastMediaStatus_of_not_up {steps : List Step} (h : phaseAfter steps ≠ .up) :
    lastMediaStatus steps = fun _ => none := by
  rcases List.eq_nil_or_concat steps with rfl | ⟨steps, st, rfl⟩
  · rfl
  · rw [List.concat_eq_append] at h ⊢
    rw [lastMediaStatus_snoc, if_neg h]

/-! ## Connections to the microphone -/

/-- The microphone is connected to no slot without media. -/
def MicClosed (conf : Finset (ℤ × ℤ)) (statuses : ℤ → Option PjsuaCallMediaStatus) : Prop :=
  ∀ slot, (0, slot) ∈ conf → statuses slot ≠ some .none

section MicClosed

variable {conf : Finset (ℤ × ℤ)} {statuses : ℤ → Option PjsuaCallMediaStatus}

theorem MicClosed.mono {conf' : Finset (ℤ × ℤ)} (h : MicClosed conf statuses)
    (hsub : conf' ⊆ conf) : MicClosed conf' statuses :=
  fun slot hslot => h slot (hsub hslot)

theorem MicClosed.insert_iff (h : MicClosed conf statuses) (slot : ℤ) :
    MicClosed (insert (0, slot) conf) statuses ↔ statuses slot ≠ some .none := by
  constructor
  · intro hclosed
    exact hclosed slot (Finset.mem_insert_self _ _)
  · intro hslot slot' hmem
    rcases Finset.mem_insert.mp hmem with he | hmem
    · obtain rfl : slot' = slot := (Prod.mk.inj he).2
      exact hslot
    · exact h slot' hmem

/-- **Acting on a report** keeps the microphone closed, unless the report is that a slot is without
media whose microphone is connected: nothing disconnects it. -/
theorem MicClosed.connect_iff (h : MicClosed conf statuses) (info : PjsuaCallInfo) :
    MicClosed (info.connect conf) (noteStatus statuses (some info)) ↔
      (info.mediaStatus = .none → info.confSlot = 0 ∨ (0, info.confSlot) ∉ conf) := by
  have herase : info.mediaStatus = .none → ((0, info.confSlot) ∈ info.connect conf ↔
      info.confSlot ≠ 0 ∧ (0, info.confSlot) ∈ conf) := by
    intro hnone
    simp only [PjsuaCallInfo.connect, hnone, Finset.mem_erase, ne_eq, Prod.mk.injEq]
    refine and_congr_left fun _ => not_congr ?_
    exact ⟨fun he => he.2, fun he => ⟨he.symm, he⟩⟩
  constructor
  · intro hclosed hnone
    by_contra hopen
    rw [not_or, not_not] at hopen
    -- only the connection from the slot is taken away, not the one to it
    refine hclosed info.confSlot ((herase hnone).mpr hopen) ?_
    rw [noteStatus, Function.update_self, hnone]
  · intro hcond slot hmem
    by_cases hslot : slot = info.confSlot
    · subst hslot
      rw [noteStatus, Function.update_self]
      intro hnone
      obtain ⟨h0, hmem⟩ := (herase (Option.some.inj hnone)).mp hmem
      exact (hcond (Option.some.inj hnone)).elim h0 fun hnot => hnot hmem
    · -- another slot keeps its status, and is not connected now
      rw [noteStatus, Function.update_of_ne hslot]
      rcases mic_connect hmem with hmem | ⟨-, he⟩
      · exact h slot hmem
      · exact absurd he.symm hslot

/-- When the query has failed, the report before is acted on again. -/
theorem MicClosed.connect_again_iff (h : MicClosed conf statuses) (ci : PjsuaCallInfo) :
    MicClosed (ci.connect conf) statuses ↔
      (ci.mediaStatus = .active → statuses ci.confSlot ≠ some .none) := by
  constructor
  · intro hclosed hactive
    -- the information left over is of an active slot, which is connected again
    refine hclosed ci.confSlot ?_
    simp only [PjsuaCallInfo.connect, hactive]
    exact Finset.mem_insert_self _ _
  · intro hcond slot hmem
    rcases mic_connect hmem with hmem | ⟨hactive, rfl⟩
    · exact h slot hmem
    · exact hcond hactive

end MicClosed

/-! ## Histories -/

/-- The microphone is connected to no slot whose media status, as reported last, is that there is
no media. -/
def NoOpenMic (config : CTSoftPhoneConfig) (steps : List Step) : Prop :=
  MicClosed (worldAfter config steps).pjsua.conf (lastMediaStatus steps)

/-- The condition on a step, of a phone that is up: no media is reported to have ended for a slot
the microphone is connected to; and neither `unmute`, nor a callback whose query fails, connects
the microphone to a slot without media. -/
def KeepsMicClosed (config : CTSoftPhoneConfig) (steps : List Step) (st : Step) : Prop :=
  let w := worldAfter config steps
  match st.act with
  | .op .unmute =>
    phaseAfter steps = .up →
      w.vars.ci.HasSlot → lastMediaStatus steps w.vars.ci.confSlot ≠ some .none
  | .callback (.callMediaState callId) =>
    phaseAfter steps = .up →
      if st.answers.callGetInfo callId = pjSuccess then
        (st.answers.callInfo callId).mediaStatus = .none →
          (st.answers.callInfo callId).confSlot = 0 ∨
            (0, (st.answers.callInfo callId).confSlot) ∉ w.pjsua.conf
      else
        w.vars.ci.mediaStatus = .active → lastMediaStatus steps w.vars.ci.confSlot ≠ some .none
  | _ => True

/-- Of a phone that is not up nothing is asked: there are no calls. -/
theorem noOpenMic_of_not_up (config : CTSoftPhoneConfig) {steps : List Step}
    (h : phaseAfter steps ≠ .up) : NoOpenMic config steps := by
  intro slot _
  rw [lastMediaStatus_of_not_up h]
  exact nofun

section Step

variable {config : CTSoftPhoneConfig} {steps : List Step} (h : NoOpenMic config steps)
  (a : Answers) (locals : Locals)
include h

theorem noOpenMic_snoc_of_subset {st : Step} (hreport : mediaReport st (phaseAfter steps) = none)
    (hconf : (World.step st (worldAfter config steps)).state.pjsua.conf ⊆
      (worldAfter config steps).pjsua.conf) : NoOpenMic config (steps ++ [st]) := by
  by_cases hup : phaseAfter (steps ++ [st]) = .up
  · rw [NoOpenMic, lastMediaStatus_snoc, if_pos hup, hreport, worldAfter, phone.after_snoc]
    exact h.mono hconf
  · exact noOpenMic_of_not_up config hup

theorem noOpenMic_unmute_iff (hup : phaseAfter steps = .up) :
    NoOpenMic config (steps ++ [⟨.op .unmute, a, locals⟩]) ↔
      KeepsMicClosed config steps ⟨.op .unmute, a, locals⟩ := by
  have hinit := (initialised_iff config steps).mpr hup
  have hup' : phaseAfter (steps ++ [⟨.op .unmute, a, locals⟩]) = .up :=
    (phaseAfter_snoc _ _).trans hup
  rw [NoOpenMic, lastMediaStatus_snoc, if_pos hup', worldAfter, phone.after_snoc]
  change MicClosed (World.step ⟨.op .unmute, a, locals⟩
    (worldAfter config steps)).state.pjsua.conf (lastMediaStatus steps) ↔ (_ → _ → _)
  rw [step_op, Op.program, conf_unmute]
  -- `unmute` looks at the slot, not at its media
  by_cases hslot : (worldAfter config steps).vars.ci.HasSlot
  · rw [if_pos ⟨hslot, hinit⟩]
    exact (h.insert_iff _).trans ⟨fun hne _ _ => hne, fun hne => hne hup hslot⟩
  · rw [if_neg fun hand => hslot hand.1]
    exact iff_of_true h fun _ hslot' => absurd hslot' hslot

theorem noOpenMic_callMediaState_iff (hup : phaseAfter steps = .up) (callId : ℕ) :
    NoOpenMic config (steps ++ [⟨.callback (.callMediaState callId), a, locals⟩]) ↔
      KeepsMicClosed config steps ⟨.callback (.callMediaState callId), a, locals⟩ := by
  have hrun := state_of_up config steps hup
  have hup' : phaseAfter (steps ++ [⟨.callback (.callMediaState callId), a, locals⟩]) = .up :=
    (phaseAfter_snoc _ _).trans hup
  rw [NoOpenMic, lastMediaStatus_snoc, if_pos hup', worldAfter, phone.after_snoc]
  change MicClosed (World.step ⟨.callback (.callMediaState callId), a, locals⟩
    (worldAfter config steps)).state.pjsua.conf _ ↔ (_ → _)
  rw [step_callback_of_running _ a locals hrun, Outcome.andThen_state, Callback.program,
    run_onCallMediaState_state a _ ((raise_state _ _).trans hrun)]
  refine Iff.trans ?_ ⟨fun hcond _ => hcond, fun hcond => hcond hup⟩
  -- when the query fails nothing is reported, and `ci` is acted on as it is
  by_cases hok : a.callGetInfo callId = pjSuccess
  · simp only [mediaReport, Answers.info, hup, hok, and_self, if_true]
    exact h.connect_iff (a.callInfo callId)
  · simp only [mediaReport, Answers.info, hok, and_false, if_false]
    exact h.connect_again_iff (worldAfter config steps).vars.ci

/-- **A step keeps the microphone closed** exactly under its condition. -/
theorem noOpenMic_step_iff (st : Step) :
    NoOpenMic config (steps ++ [st]) ↔ KeepsMicClosed config steps st := by
  obtain ⟨act, a, locals⟩ := st
  cases act with
  | op o =>
    by_cases ho : o = .unmute
    · subst ho
      by_cases hup : phaseAfter steps = .up
      · exact noOpenMic_unmute_iff h a locals hup
      · refine iff_of_true (noOpenMic_of_not_up config ?_) (absurd · hup)
        rw [phaseAfter_snoc]
        exact hup
    · refine iff_of_true (noOpenMic_snoc_of_subset h rfl (keepsMedia_op ho a locals _).2) ?_
      cases o <;> first | exact absurd rfl ho | trivial
  | callback cb =>
    by_cases hup : phaseAfter steps = .up
    · have hrun := state_of_up config steps hup
      have hother : (∀ callId, cb ≠ .callMediaState callId) →
          (World.step ⟨.callback cb, a, locals⟩ (worldAfter config steps)).state.pjsua.conf ⊆
            (worldAfter config steps).pjsua.conf := by
        intro hcb
        rw [step_callback_of_running cb a locals hrun, Outcome.andThen_state]
        exact raise_conf (worldAfter config steps).pjsua cb ▸ (keepsMedia_callback hcb a _).2
      cases cb with
      | callMediaState callId => exact noOpenMic_callMediaState_iff h a locals hup callId
      | incomingCall callId =>
        exact iff_of_true (noOpenMic_snoc_of_subset h rfl (hother (by simp))) trivial
      | callState callId state =>
        exact iff_of_true (noOpenMic_snoc_of_subset h rfl (hother (by simp))) trivial
      | regState2 info =>
        exact iff_of_true (noOpenMic_snoc_of_subset h rfl (hother (by simp))) trivial
    · -- a library that does not run raises nothing
      refine iff_of_true (noOpenMic_of_not_up config ?_) ?_
      · rw [phaseAfter_snoc]
        exact hup
      · cases cb with
        | callMediaState callId => exact (absurd · hup)
        | _ => trivial

end Step

/-- **No open microphone without media**, in any state of a history, exactly when every step meets
its condition. -/
theorem always_noOpenMic_iff (config : CTSoftPhoneConfig) (steps : List Step) :
    Always (NoOpenMic config) steps ↔ Along (KeepsMicClosed config) steps :=
  always_iff_along (fun _ hmem => absurd hmem (Finset.notMem_empty _))
    fun _ st _ h => noOpenMic_step_iff h st

/-- A call whose media was active, and has ended, keeps the microphone. -/
theorem not_noOpenMic_media_ended :
    ¬ NoOpenMic ⟨5060, .udp⟩
      [(Act.op (.registerWithNumber [] [] [])).answered .success,
        (Act.callback (.callMediaState 0)).answered .success,
        (Act.callback (.callMediaState 0)).answered
          { Answers.success with callInfo := fun _ => ⟨.confirmed, .none, 1⟩ }] := by
  intro h
  exact h 1 (by decide) (by decide)

end CTSoftPhone
