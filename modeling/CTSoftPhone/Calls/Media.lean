import CTSoftPhone.Calls.CurrentCall
import CTSoftPhone.Wrapper.Operations

/-!
# Call information and the microphone

The call information `ci` is overwritten by every query that succeeds, for whatever call. The
conference bridge is connected by `on_call_media_state`, on active media, and by `unmute`; every
other operation leaves the connections or takes some away.

## Main definitions

* `reported`, `lastReport`: the call information pjsua returned last
* `mediaRelation`: the information is the last reported, and no connection is made

## Main results

* `ci_eq_lastReport`: the call information is the one reported last
* `mic_step`: what a step may connect the microphone to
-/

namespace CTSoftPhone

/-- The call information that an event reports. -/
def reported : Event → Option PjsuaCallInfo
  | .api (.callGetInfo _) _ reply => reply.info
  | _ => none

/-- The call information reported last in a history. -/
def lastReport (config : CTSoftPhoneConfig) (steps : List Step) : Option PjsuaCallInfo :=
  lastSeen reported (traceOf config steps)

/-- The call information is what is reported last, and no connection is made. -/
def mediaRelation : RunRelation World Event where
  rel w es w' :=
    w'.vars.ci = (lastSeen reported es).getD w.vars.ci ∧ w'.pjsua.conf ⊆ w.pjsua.conf
  refl _ := ⟨rfl, Finset.Subset.refl _⟩
  trans h h' :=
    ⟨(RunRelation.shows reported fun w : World => w.vars.ci).trans h.1 h'.1,
      fun _ he => h.2 (h'.2 he)⟩

/-- A program that keeps the call information up to date and makes no connection. -/
abbrev KeepsMedia {α : Type} (a : Answers) (p : Phone α) : Prop :=
  p.Meets (Cmd.handle a) mediaRelation

/-! ## Programs that keep the media -/

/-- The functions that neither report call information nor connect. -/
def Api.LeavesMedia : Api → Prop
  | .callGetInfo _ | .confConnect .. => False
  | _ => True

namespace KeepsMedia

variable {a : Answers}

theorem assign {f : Vars → Vars} (h : ∀ v, (f v).ci = v.ci) :
    KeepsMedia a (CTSoftPhone.assign f) := .call fun _ => ⟨h _, Finset.Subset.refl _⟩

theorem endCall (callId : ℤ) : KeepsMedia a (CTSoftPhone.endCall callId) :=
  .call fun _ => ⟨rfl, Finset.Subset.refl _⟩

theorem onRegistrationState (state : CTSoftPhoneRegistrationState) :
    KeepsMedia a (Delegate.onRegistrationState state) := .call fun _ => mediaRelation.refl _

theorem delegate_onCallState (state : CTSoftPhoneCallState) :
    KeepsMedia a (Delegate.onCallState state) := .call fun _ => mediaRelation.refl _

/-- A call that neither reports call information nor connects. -/
theorem api {c : Api} (h : c.LeavesMedia) : KeepsMedia a (CTSoftPhone.api c) := by
  refine .call fun w => ⟨?_, ?_⟩
  · cases c <;> first | rfl | exact h.elim
  · change (w.pjsua.after c _).conf ⊆ w.pjsua.conf
    cases c <;> simp only [Pjsua.after] <;>
      first
      | exact Finset.Subset.refl _
      | exact Finset.empty_subset _
      | exact Finset.erase_subset _ _
      | exact h.elim
      | (split <;> exact Finset.Subset.refl _)

theorem getInfo (callId : ℤ) : KeepsMedia a (CTSoftPhone.getInfo callId) := by
  intro w
  rw [run_getInfo]
  refine ⟨?_, Finset.Subset.refl _⟩
  by_cases h : a.callGetInfo callId = pjSuccess <;>
    simp [Answers.info, Pjsua.reply, lastSeen, reported, h]

theorem onCallState (callId : ℤ) : KeepsMedia a (CTSoftPhone.onCallState callId) :=
  (getInfo callId).bind fun _ => (meets_vars a mediaRelation).bind fun _ => delegate_onCallState _

theorem pjsuaCallHangupAll : KeepsMedia a CTSoftPhone.pjsuaCallHangupAll :=
  (api (by trivial)).bind fun _ => (meets_activeCalls a mediaRelation).bind fun callIds =>
    .forM (fun callId => (endCall callId).bind fun _ => .ite (onCallState callId) (.ret ())) callIds

theorem ctPjsuaDestroy : KeepsMedia a CTSoftPhone.ctPjsuaDestroy := by
  have hdelete : KeepsMedia a ctPjsuaDeleteAccount :=
    (meets_vars a mediaRelation).bind fun _ => .ite (.ret ()) <|
      pjsuaCallHangupAll.bind fun _ => (meets_vars a mediaRelation).bind fun _ =>
        (api (by trivial)).bind fun _ => assign fun _ => by rfl
  exact hdelete.bind fun _ => (api (by trivial)).bind fun _ => .ret ()

end KeepsMedia

/-- The parts of the operations keep the media. -/
theorem hasParts_mediaRelation (a : Answers) : HasParts a mediaRelation where
  assign h := KeepsMedia.assign h
  api {c} h := KeepsMedia.api (by cases c <;> trivial)
  endCall := KeepsMedia.endCall
  onCallState := KeepsMedia.onCallState
  tellFail := KeepsMedia.onRegistrationState .fail
  registrationFailed :=
    KeepsMedia.ctPjsuaDestroy.bind fun _ => KeepsMedia.onRegistrationState .fail
  destroy := KeepsMedia.ctPjsuaDestroy.bind fun _ => (KeepsMedia.assign fun _ => by rfl).bind
    fun _ => KeepsMedia.onRegistrationState .destroyed

/-- Every operation but `unmute` keeps the media. -/
theorem keepsMedia_op {o : Op} (h : o ≠ .unmute) (a : Answers) (locals : Locals) :
    KeepsMedia a (o.program locals) := (hasParts_mediaRelation a).op h locals

/-- Every callback but `on_call_media_state` keeps the media. -/
theorem keepsMedia_callback {cb : Callback} (h : ∀ callId, cb ≠ .callMediaState callId)
    (a : Answers) : KeepsMedia a cb.program := by
  cases cb with
  | incomingCall callId =>
    exact (KeepsMedia.assign fun _ => by rfl).bind fun _ => (KeepsMedia.api (by trivial)).bind
      fun _ => .ret ()
  | callState callId state => exact KeepsMedia.onCallState callId
  | callMediaState callId => exact absurd rfl (h callId)
  | regState2 info =>
    exact .ite (KeepsMedia.onRegistrationState .success) (KeepsMedia.onRegistrationState .fail)

/-! ## Steps -/

theorem raise_conf (p : Pjsua) (cb : Callback) : (p.raise cb).conf = p.conf := by
  unfold Pjsua.raise
  split <;> rfl

/-- After its query, `on_call_media_state` reports nothing more. -/
theorem run_onCallMediaState_events (a : Answers) (w : World) (callId : ℤ) :
    ∃ es, ((onCallMediaState callId).run (Cmd.handle a) w).events =
      .api (.callGetInfo callId) w.pjsua.state (w.pjsua.reply a (.callGetInfo callId)) :: es ∧
      ∀ e ∈ es, reported e = none := by
  simp only [onCallMediaState, Prog.bind_def, Prog.run_bind, run_getInfo, run_vars, Outcome.andThen,
    List.cons_append, List.nil_append]
  refine ⟨_, rfl, ?_⟩
  split <;> simp [reported]

theorem ci_step (st : Step) (w : World) :
    (World.step st w).state.vars.ci =
      (lastSeen reported (World.step st w).events).getD w.vars.ci := by
  obtain ⟨act, a, locals⟩ := st
  cases act with
  | op o =>
    by_cases ho : o = .unmute
    · subst ho
      rw [step_op, Op.program, run_unmute]
      split <;> rfl
    · exact (keepsMedia_op ho a locals w).1
  | callback cb =>
    by_cases h : w.pjsua.state = .running
    · rw [step_callback_of_running cb a locals h]
      have hraised : ∀ es, lastSeen reported (.raised cb :: es) = lastSeen reported es :=
        fun es => rfl
      rw [Outcome.andThen_events, List.singleton_append, hraised]
      cases cb with
      | callMediaState callId =>
        -- the query comes first, and nothing after it reports
        obtain ⟨es, hes, hnone⟩ := run_onCallMediaState_events a
          { w with pjsua := w.pjsua.raise (.callMediaState callId) } callId
        rw [Callback.program, Outcome.andThen_state,
          run_onCallMediaState_state a _ ((raise_state _ _).trans h)]
        simp only [hes]
        rw [← List.singleton_append, lastSeen_append, lastSeen_eq_none hnone, Option.none_or]
        by_cases hinfo : a.callGetInfo callId = pjSuccess <;>
          simp [Answers.info, Pjsua.reply, lastSeen, reported, hinfo]
      | incomingCall callId => exact (keepsMedia_callback (by simp) a _).1
      | callState callId state => exact (keepsMedia_callback (by simp) a _).1
      | regState2 info => exact (keepsMedia_callback (by simp) a _).1
    · rw [step_callback_of_not_running cb a locals h]
      rfl

/-- **The call information** is the one reported last, or the initial one. -/
theorem ci_eq_lastReport (config : CTSoftPhoneConfig) (steps : List Step) :
    (worldAfter config steps).vars.ci =
      (lastReport config steps).getD (Vars.initial config).ci :=
  phone.view_after (fun w => w.vars.ci) ci_step (World.initial config) steps

/-- The step connects the microphone to the slot: `unmute` does, to the slot of the last call
information, and `on_call_media_state`, to the slot reported with active media. -/
def Step.ConnectsMic (st : Step) (w : World) (slot : ℤ) : Prop :=
  match st.act with
  | .op .unmute => w.vars.ci.confSlot = slot
  | .callback (.callMediaState callId) =>
    (st.answers.info callId w.vars.ci).mediaStatus = .active ∧
      (st.answers.info callId w.vars.ci).confSlot = slot
  | _ => False

instance (st : Step) (w : World) (slot : ℤ) : Decidable (st.ConnectsMic w slot) := by
  unfold Step.ConnectsMic
  split <;> infer_instance

theorem mic_connect {ci : PjsuaCallInfo} {conf : Finset (ℤ × ℤ)} {slot : ℤ}
    (h : (0, slot) ∈ ci.connect conf) :
    (0, slot) ∈ conf ∨ ci.mediaStatus = .active ∧ ci.confSlot = slot := by
  unfold PjsuaCallInfo.connect at h
  split at h
  · next hactive =>
    simp only [Finset.mem_insert, Prod.mk.injEq] at h
    -- the connection to the call, the one from it (when it has slot 0), or an older one
    rcases h with ⟨-, rfl⟩ | ⟨h0, rfl⟩ | h
    · exact .inr ⟨hactive, rfl⟩
    · exact .inr ⟨hactive, h0.symm⟩
    · exact .inl h
  · exact .inl (Finset.mem_of_mem_erase h)
  · exact .inl h
  · exact .inl h
  · exact .inl h

/-- **What connects the microphone**: only the two steps above. -/
theorem mic_step {st : Step} {w : World} {slot : ℤ}
    (h : (0, slot) ∈ (World.step st w).state.pjsua.conf) :
    (0, slot) ∈ w.pjsua.conf ∨ st.ConnectsMic w slot := by
  obtain ⟨act, a, locals⟩ := st
  cases act with
  | op o =>
    by_cases ho : o = .unmute
    · subst ho
      rw [step_op, Op.program, conf_unmute] at h
      split at h
      · rcases Finset.mem_insert.mp h with h | h
        · exact .inr (Prod.mk.inj h).2.symm
        · exact .inl h
      · exact .inl h
    · exact .inl ((keepsMedia_op ho a locals w).2 h)
  | callback cb =>
    by_cases hrun : w.pjsua.state = .running
    · rw [step_callback_of_running cb a locals hrun, Outcome.andThen_state] at h
      have hother : (∀ callId, cb ≠ .callMediaState callId) → (0, slot) ∈ w.pjsua.conf := fun hcb =>
        raise_conf w.pjsua cb ▸ (keepsMedia_callback hcb a _).2 h
      cases cb with
      | callMediaState callId =>
        rw [Callback.program, run_onCallMediaState_state a _ ((raise_state _ _).trans hrun)] at h
        exact mic_connect h
      | incomingCall callId => exact .inl (hother (by simp))
      | callState callId state => exact .inl (hother (by simp))
      | regState2 info => exact .inl (hother (by simp))
    · rw [step_callback_of_not_running cb a locals hrun] at h
      exact .inl h

end CTSoftPhone
