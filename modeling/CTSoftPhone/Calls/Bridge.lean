import CTSoftPhone.Calls.Media
import CTSoftPhone.Programs.Since
import CTSoftPhone.Session.Phase

/-!
# The conference bridge

The speaker plays a call, and the microphone is open to it, by connections of the conference bridge
that several steps make and take away, each acting on the call information it finds. Both directions
are read off the history: a slot is heard when the last report acted on for it, holds and errors
apart, was of active media; the microphone is open to a slot when it was opened by such a report or
by `unmute`, and not muted since. Tearing the library down takes all connections away.

## Main definitions

* `acted`: the call information that a step acts on
* `Hears`, `Silences`, `OpensMic`, `ShutsMic`: the steps that connect a slot, and disconnect it

## Main results

* `conf_step`: the connections that a step leaves
* `heard_iff`: when the speaker plays a slot
* `mic_iff`: when the microphone is open to a slot
-/

namespace CTSoftPhone

/-! ## The connections that a step leaves -/

/-- The connections that a step makes of those there are, in a phase of the phone. -/
def Step.wires (st : Step) (p : Phase) (ci : PjsuaCallInfo) (conf : Finset (ℤ × ℤ)) :
    Finset (ℤ × ℤ) :=
  match st.act with
  | .op (.registerWithNumber ..) => if p.RegisterOk st.answers then conf else ∅
  | .op .destroy => ∅
  | .op .mute => if ci.HasSlot then conf.erase (0, ci.confSlot) else conf
  | .op .unmute => if p = .up ∧ ci.HasSlot then insert (0, ci.confSlot) conf else conf
  | .callback (.callMediaState callId) =>
    if p = .up then (st.answers.info callId ci).connect conf else conf
  | .op (.handleIpChange _) | .op .hangup | .op .answercall | .callback (.incomingCall _)
  | .callback (.callState ..) | .callback (.regState2 _) => conf

section Step

variable (a : Answers) {w : World}

theorem conf_put (cfg : PjsuaAccConfig) (w : World) : (w.put a cfg).pjsua.conf = w.pjsua.conf := by
  unfold World.put
  split <;> rfl

theorem conf_putAccount_of_failed (cfg : PjsuaAccConfig)
    (h : ¬ PutOk a w.pjsua.state w.vars.accId) :
    ((putAccount cfg).run (Cmd.handle a) w).state.pjsua.conf = ∅ := by
  obtain ⟨status, ci, es, hrun, -⟩ := run_putAccount_of_failed a w cfg h
  rw [hrun]
  rfl

/-- A registration of a phone that is down. -/
theorem conf_registerWithNumber_of_down (h : w.session.In .down)
    (number host credentials : NSString) :
    ((registerWithNumber number host credentials).run (Cmd.handle a) w).state.pjsua.conf =
      if Phase.RegisterOk a .down then w.pjsua.conf else ∅ := by
  by_cases hs : a.SetUpOk
  · by_cases hput : a.accAdd = pjSuccess
    · rw [if_pos ⟨hs, hput⟩, run_registerWithNumber_of_setUp a w number host credentials h.1 hs
        ((h.2.putOk_running_iff a).mpr hput)]
      exact conf_put a _ (w.setUp a)
    · rw [if_neg fun hok => hput hok.2, run_registerWithNumber_of_not_initialized a w _ _ _ h.1,
        run_setUp_of_ok a w hs]
      refine conf_putAccount_of_failed a (w := w.setUp a) _ fun hok => hput ?_
      exact (h.2.putOk_running_iff a).mp hok
  · obtain ⟨status, ci, es, hrun, -⟩ := run_setUp_of_failed a w hs
    rw [if_neg fun hok => hs hok.1, run_registerWithNumber_of_not_initialized a w _ _ _ h.1, hrun]
    rfl

/-- A registration keeps the connections, or takes them all away. -/
theorem conf_registerWithNumber {p : Phase} (h : w.session.In p)
    (number host credentials : NSString) :
    ((registerWithNumber number host credentials).run (Cmd.handle a) w).state.pjsua.conf =
      if p.RegisterOk a then w.pjsua.conf else ∅ := by
  cases p with
  | down => exact conf_registerWithNumber_of_down a h number host credentials
  | up =>
    rw [run_registerWithNumber_of_initialized a w _ _ _ h.1]
    by_cases hok : a.accModify = pjSuccess
    · rw [if_pos (show Phase.RegisterOk a .up from hok),
        run_putAccount_of_ok a w _ ((h.2.putOk_iff a).mpr hok)]
      exact conf_put a _ w
    · rw [if_neg (show ¬ Phase.RegisterOk a .up from hok)]
      exact conf_putAccount_of_failed a _ ((h.2.putOk_iff a).not.mpr hok)
  | stale =>
    rw [run_registerWithNumber_of_initialized a w _ _ _ h.1,
      if_neg (show ¬ Phase.RegisterOk a .stale from id)]
    exact conf_putAccount_of_failed a _ (h.2.not_putOk a)

theorem conf_op {p : Phase} (h : w.session.In p) (o : Op) (locals : Locals) :
    ((o.program locals).run (Cmd.handle a) w).state.pjsua.conf =
      (⟨.op o, a, locals⟩ : Step).wires p w.vars.ci w.pjsua.conf := by
  cases o with
  | registerWithNumber number host credentials =>
    exact conf_registerWithNumber a h number host credentials
  | handleIpChange transport =>
    rw [Op.program]
    by_cases hs : w.session.Switches transport
    · rw [run_handleIpChange_of_switch a w locals transport hs]
      rfl
    · rw [run_handleIpChange_of_not_switch a w locals transport hs]
      rfl
  | destroy =>
    obtain ⟨ci, hci, -⟩ := run_ctPjsuaDestroy a w
    rw [Op.program, destroy, Prog.bind_def, Prog.run_bind, Outcome.andThen_state, hci]
    rfl
  | hangup =>
    rw [Op.program, run_hangup, Outcome.andThen_state]
    by_cases hlive : w.vars.callId ∈ w.pjsua.calls
    · rw [run_disconnect_of_mem a w hlive, run_onCallState]
      rfl
    · rw [run_disconnect_of_notMem a w hlive]
      rfl
  | answercall =>
    rw [Op.program, run_answercall]
    rfl
  | mute =>
    rw [Op.program, run_mute]
    dsimp only [Step.wires]
    split <;> rfl
  | unmute =>
    rw [Op.program, conf_unmute]
    -- the library is initialised while the phone is up
    have hup : w.pjsua.state.Initialised ↔ p = .up := h.initialised_iff
    simp only [Step.wires, hup, and_comm]

/-- **The connections** that a step leaves. -/
theorem conf_step {p : Phase} (h : w.session.In p) (st : Step) :
    (World.step st w).state.pjsua.conf = st.wires p w.vars.ci w.pjsua.conf := by
  obtain ⟨act, a, locals⟩ := st
  cases act with
  | op o => exact conf_op a h o locals
  | callback cb =>
    by_cases hp : p = .up
    · subst hp
      rw [step_callback_of_running cb a locals h.2.state_eq, Outcome.andThen_state]
      cases cb with
      | incomingCall callId => rfl
      | callState callId state =>
        rw [Callback.program, run_onCallState]
        cases state <;> rfl
      | callMediaState callId =>
        rw [Callback.program, run_onCallMediaState_state a _ ((raise_state _ _).trans h.2.state_eq)]
        rfl
      | regState2 info =>
        rw [Callback.program, onRegState2, Prog.run_ite]
        split <;> rfl
    · -- outside the phase the library is down, and raises nothing
      have hstate : w.pjsua.state ≠ .running := by
        cases p with
        | up => exact absurd rfl hp
        | down => simp [show w.pjsua.state = .null from h.2.state_eq]
        | stale => simp [show w.pjsua.state = .null from h.2.state_eq]
      rw [step_callback_of_not_running cb a locals hstate]
      cases cb with
      | callMediaState callId => exact (if_neg hp).symm
      | _ => rfl

end Step

/-! ## The steps that connect and disconnect a slot -/

section Conditions

variable (config : CTSoftPhoneConfig) (slot : ℤ) (steps : List Step) (st : Step)

/-- The call information after a history: the one reported last, or that at start-up. -/
def lastInfo : PjsuaCallInfo := (lastReport config steps).getD (Vars.initial config).ci

/-- The call information that a step acts on: a running library reports the media of a call, and the
information is the one returned for it, or what the last report left. -/
def acted : Option PjsuaCallInfo :=
  match st.act with
  | .callback (.callMediaState callId) =>
    if phaseAfter steps = .up then some (st.answers.info callId (lastInfo config steps)) else none
  | .callback (.incomingCall _) | .callback (.callState ..) | .callback (.regState2 _) | .op _ =>
    none

/-- The step acts on a status of the media at the slot. -/
def ActsOnMedia (status : PjsuaCallMediaStatus) : Prop :=
  ∃ info, acted config steps st = some info ∧ info.mediaStatus = status ∧ info.confSlot = slot

/-- The step makes the speaker play the slot. -/
def Hears : Prop := ActsOnMedia config slot steps st .active

/-- The step makes the speaker play the slot no longer. -/
def Silences : Prop := TearsDown steps st ∨ ActsOnMedia config slot steps st .none

/-- The last call information has an audio slot, and it is this one. -/
def AtSlot : Prop := (lastInfo config steps).HasSlot ∧ (lastInfo config steps).confSlot = slot

/-- The step opens the microphone to the slot, of a phone that is up. -/
def OpensMic : Prop :=
  ActsOnMedia config slot steps st .active ∨
    st.act = .op .unmute ∧ phaseAfter steps = .up ∧ AtSlot config slot steps

/-- The step shuts the microphone to the slot. -/
def ShutsMic : Prop := TearsDown steps st ∨ st.act = .op .mute ∧ AtSlot config slot steps

end Conditions

/-! ## Histories -/

theorem mem_connect_from {slot : ℤ} (hslot : slot ≠ 0) (info : PjsuaCallInfo)
    (conf : Finset (ℤ × ℤ)) :
    (slot, 0) ∈ info.connect conf ↔
      (info.mediaStatus = .active ∧ info.confSlot = slot) ∨
        (slot, 0) ∈ conf ∧ ¬ (info.mediaStatus = .none ∧ info.confSlot = slot) := by
  obtain ⟨state, status, slot'⟩ := info
  have hne : ¬ ((slot, 0) : ℤ × ℤ) = (0, slot') := fun he => hslot (Prod.mk.inj he).1
  cases status with
  | active => simp [PjsuaCallInfo.connect, hne, eq_comm]
  | none => simp [PjsuaCallInfo.connect, and_comm, eq_comm]
  | _ => simp [PjsuaCallInfo.connect]

theorem mem_connect_to {slot : ℤ} (hslot : slot ≠ 0) (info : PjsuaCallInfo)
    (conf : Finset (ℤ × ℤ)) :
    (0, slot) ∈ info.connect conf ↔
      (info.mediaStatus = .active ∧ info.confSlot = slot) ∨ (0, slot) ∈ conf := by
  obtain ⟨state, status, slot'⟩ := info
  have hne : ¬ ((0, slot) : ℤ × ℤ) = (slot', 0) := fun he => hslot (Prod.mk.inj he).2
  cases status with
  | active => simp [PjsuaCallInfo.connect, hne, eq_comm]
  | none => simp [PjsuaCallInfo.connect, hne]
  | _ => simp [PjsuaCallInfo.connect]

section Step

variable (config : CTSoftPhoneConfig) {slot : ℤ} {steps : List Step} (a : Answers)
  (locals : Locals) (ci : PjsuaCallInfo) (conf : Finset (ℤ × ℤ))

theorem wires_of_tearsDown {st : Step} (h : TearsDown steps st) :
    st.wires (phaseAfter steps) ci conf = ∅ := by
  obtain ⟨act, a, locals⟩ := st
  cases act with
  | op o =>
    cases o with
    | registerWithNumber number host credentials => exact if_neg h
    | destroy => rfl
    | _ => exact h.elim
  | callback cb => exact h.elim

/-- An operation that does not tear down leaves what the speaker plays. -/
theorem mem_wires_from_op (hslot : slot ≠ 0) {o : Op}
    (h : ¬ TearsDown steps ⟨.op o, a, locals⟩) :
    (slot, 0) ∈ (⟨.op o, a, locals⟩ : Step).wires (phaseAfter steps) ci conf ↔
      (slot, 0) ∈ conf := by
  have hne : ((slot, 0) : ℤ × ℤ) ≠ (0, ci.confSlot) := fun he => hslot (Prod.mk.inj he).1
  cases o with
  | registerWithNumber number host credentials =>
    rw [Step.wires, if_pos (not_not.mp h)]
  | destroy => exact absurd trivial h
  | mute =>
    dsimp only [Step.wires]
    split
    · simp [hne]
    · rfl
  | unmute =>
    dsimp only [Step.wires]
    split
    · simp [hne]
    · rfl
  | _ => rfl

/-- An operation that does not tear down opens the microphone by `unmute`, and shuts it by
`mute`. -/
theorem mem_wires_to_op {o : Op} (h : ¬ TearsDown steps ⟨.op o, a, locals⟩) :
    (0, slot) ∈ (⟨.op o, a, locals⟩ : Step).wires (phaseAfter steps) ci conf ↔
      (o = .unmute ∧ phaseAfter steps = .up ∧ ci.HasSlot ∧ ci.confSlot = slot) ∨
        (0, slot) ∈ conf ∧ ¬ (o = .mute ∧ ci.HasSlot ∧ ci.confSlot = slot) := by
  cases o with
  | registerWithNumber number host credentials =>
    rw [Step.wires, if_pos (not_not.mp h)]
    simp
  | destroy => exact absurd trivial h
  | mute =>
    dsimp only [Step.wires]
    by_cases hci : ci.HasSlot
    · simp [hci, and_comm, eq_comm]
    · simp [hci]
  | unmute =>
    dsimp only [Step.wires]
    by_cases hci : phaseAfter steps = .up ∧ ci.HasSlot
    · simp [hci, eq_comm]
    · rw [if_neg hci]
      simp only [reduceCtorEq, false_and, not_false_eq_true, and_true, true_and]
      exact ⟨.inr, fun hor => hor.resolve_left fun hopen => hci ⟨hopen.1, hopen.2.1⟩⟩
  | _ => simp [Step.wires]

variable {st : Step} {status : PjsuaCallMediaStatus}

/-- Only a callback acts on media. -/
theorem not_actsOnMedia_op (o : Op) :
    ¬ ActsOnMedia config slot steps ⟨.op o, a, locals⟩ status := by
  rintro ⟨info, hacted, -⟩
  cases hacted

theorem actsOnMedia_callMediaState_iff (callId : ℕ) :
    ActsOnMedia config slot steps ⟨.callback (.callMediaState callId), a, locals⟩ status ↔
      phaseAfter steps = .up ∧ (a.info callId (lastInfo config steps)).mediaStatus = status ∧
        (a.info callId (lastInfo config steps)).confSlot = slot := by
  by_cases hup : phaseAfter steps = .up
  · simp [ActsOnMedia, acted, hup]
  · simp [ActsOnMedia, acted, hup]

variable (slot steps) in
/-- The other callbacks act on no media, and make no connection. -/
theorem wires_callback {cb : Callback} (h : ∀ callId, cb ≠ .callMediaState callId) :
    (∀ status, ¬ ActsOnMedia config slot steps ⟨.callback cb, a, locals⟩ status) ∧
      (⟨.callback cb, a, locals⟩ : Step).wires (phaseAfter steps) ci conf = conf := by
  cases cb with
  | callMediaState callId => exact absurd rfl (h callId)
  | _ =>
    refine ⟨?_, rfl⟩
    rintro status ⟨info, hacted, -⟩
    cases hacted

end Step

section Histories

variable (config : CTSoftPhoneConfig) {slot : ℤ} (steps : List Step) (st : Step)

theorem conf_snoc :
    (worldAfter config (steps ++ [st])).pjsua.conf =
      st.wires (phaseAfter steps) (lastInfo config steps) (worldAfter config steps).pjsua.conf := by
  rw [worldAfter, phone.after_snoc, lastInfo, ← ci_eq_lastReport]
  exact conf_step (in_phaseAfter config steps) st

theorem heard_snoc (hslot : slot ≠ 0) :
    (slot, 0) ∈ (worldAfter config (steps ++ [st])).pjsua.conf ↔
      Hears config slot steps st ∨
        (slot, 0) ∈ (worldAfter config steps).pjsua.conf ∧ ¬ Silences config slot steps st := by
  rw [conf_snoc, Hears, Silences]
  obtain ⟨act, a, locals⟩ := st
  cases act with
  | op o =>
    have hacts : ∀ status, ¬ ActsOnMedia config slot steps ⟨.op o, a, locals⟩ status :=
      fun _ => not_actsOnMedia_op config a locals o
    by_cases htears : TearsDown steps ⟨.op o, a, locals⟩
    · simp [wires_of_tearsDown _ _ htears, hacts, htears]
    · rw [mem_wires_from_op a locals _ _ hslot htears]
      simp [hacts, htears]
  | callback cb =>
    have htears : ¬ TearsDown steps ⟨.callback cb, a, locals⟩ := id
    by_cases hcb : ∃ callId, cb = .callMediaState callId
    · obtain ⟨callId, rfl⟩ := hcb
      rw [actsOnMedia_callMediaState_iff, actsOnMedia_callMediaState_iff, Step.wires]
      by_cases hup : phaseAfter steps = .up
      · simp [hup, htears, mem_connect_from hslot]
      · simp [hup, htears]
    · obtain ⟨hacts, hwires⟩ := wires_callback config slot steps a locals
        (lastInfo config steps) (worldAfter config steps).pjsua.conf (not_exists.mp hcb)
      simp [hwires, hacts, htears]

theorem mic_snoc (hslot : slot ≠ 0) :
    (0, slot) ∈ (worldAfter config (steps ++ [st])).pjsua.conf ↔
      OpensMic config slot steps st ∨
        (0, slot) ∈ (worldAfter config steps).pjsua.conf ∧ ¬ ShutsMic config slot steps st := by
  rw [conf_snoc, OpensMic, ShutsMic, AtSlot]
  obtain ⟨act, a, locals⟩ := st
  cases act with
  | op o =>
    have hacts : ¬ ActsOnMedia config slot steps ⟨.op o, a, locals⟩ .active :=
      not_actsOnMedia_op config a locals o
    by_cases htears : TearsDown steps ⟨.op o, a, locals⟩
    · have hunmute : o ≠ .unmute := by
        rintro rfl
        exact htears
      simp [wires_of_tearsDown _ _ htears, hacts, htears, hunmute]
    · rw [mem_wires_to_op a locals _ _ htears]
      simp [hacts, htears]
  | callback cb =>
    have htears : ¬ TearsDown steps ⟨.callback cb, a, locals⟩ := id
    by_cases hcb : ∃ callId, cb = .callMediaState callId
    · obtain ⟨callId, rfl⟩ := hcb
      rw [actsOnMedia_callMediaState_iff, Step.wires]
      by_cases hup : phaseAfter steps = .up
      · simp [hup, htears, mem_connect_to hslot]
      · simp [hup, htears]
    · obtain ⟨hacts, hwires⟩ := wires_callback config slot steps a locals
        (lastInfo config steps) (worldAfter config steps).pjsua.conf (not_exists.mp hcb)
      simp [hwires, hacts, htears]

theorem notMem_conf_nil (pair : ℤ × ℤ) : pair ∉ (worldAfter config []).pjsua.conf :=
  Finset.notMem_empty pair

/-- **The speaker** plays a slot exactly when the media at it were reported active, and since then
neither were they reported to have ended, nor was the library torn down. -/
theorem heard_iff (hslot : slot ≠ 0) :
    (slot, 0) ∈ (worldAfter config steps).pjsua.conf ↔
      Since (Hears config slot) (Silences config slot) steps :=
  iff_since (R := fun steps => (slot, 0) ∈ (worldAfter config steps).pjsua.conf)
    (notMem_conf_nil config _) (fun is i => heard_snoc config is i hslot) steps

/-- **The microphone** is open to a slot exactly when a report of active media at it, or `unmute`
with the last report about it, opened it, and since then neither did `mute` shut it, nor was the
library torn down. -/
theorem mic_iff (hslot : slot ≠ 0) :
    (0, slot) ∈ (worldAfter config steps).pjsua.conf ↔
      Since (OpensMic config slot) (ShutsMic config slot) steps :=
  iff_since (R := fun steps => (0, slot) ∈ (worldAfter config steps).pjsua.conf)
    (notMem_conf_nil config _) (fun is i => mic_snoc config is i hslot) steps

end Histories

/-- A registration, a call with active media at slot 1, and a request to mute it. -/
def mutedCall : List Step :=
  [(Act.op (.registerWithNumber [] [] [])).answered .success,
    (Act.callback (.callMediaState 0)).answered .success, (Act.op .mute).answered .success]

/-- A muted call is still heard. -/
theorem heard_mutedCall :
    Since (Hears ⟨5060, .udp⟩ 1) (Silences ⟨5060, .udp⟩ 1) mutedCall :=
  (heard_iff ⟨5060, .udp⟩ mutedCall (by decide)).mp (by decide)

/-- A muted call does not hear. -/
theorem not_mic_mutedCall :
    ¬ Since (OpensMic ⟨5060, .udp⟩ 1) (ShutsMic ⟨5060, .udp⟩ 1) mutedCall :=
  (mic_iff ⟨5060, .udp⟩ mutedCall (by decide)).not.mp (by decide)

end CTSoftPhone
