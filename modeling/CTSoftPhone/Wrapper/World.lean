import CTSoftPhone.Programs.History
import CTSoftPhone.Wrapper.Phone

/-!
# Runs of the phone

The world is the globals of the phone and the library under it. It moves by steps: an operation
run as a whole on the serial queue, or a callback raised by a running library. A step carries how
the library answers in it, so that a history of steps is any order of operations and callbacks
with any outcome of every call.

## Main definitions

* `World`: the phone and the library
* `Event`: a call to pjsua, a callback it raised, a notification of the delegate
* `Cmd.handle a`: the meaning of the commands, when the library answers `a`
* `Step`, `phone`: the steps, and the machine they drive

## Main results

* `run_pjsuaCallHangupAll_state`, `run_pjsuaCallHangupAll_events`: hanging up all calls ends every
  call, and changes nothing else of the library
* `run_ctPjsuaDestroy`: tearing the library down leaves it down and the phone without account
-/

namespace CTSoftPhone

/-- The globals of the phone, and the library. -/
structure World where
  vars : Vars
  pjsua : Pjsua
  deriving DecidableEq

/-- The world at start-up. -/
def World.initial (config : CTSoftPhoneConfig) : World := ⟨.initial config, .down⟩

/-- What happens in a run: a call to pjsua, with the state of the library it is made in and its
reply; a callback; a notification of the delegate. -/
inductive Event
  | api (c : Api) (state : PjsuaState) (reply : Reply)
  | raised (callback : Callback)
  | notified (n : Notification)
  deriving DecidableEq

/-- A call that failed. -/
def Event.Failed : Event → Prop
  | .api _ _ reply => reply.status ≠ pjSuccess
  | .raised _ | .notified _ => False

instance : DecidablePred Event.Failed := fun e => by
  cases e <;> unfold Event.Failed <;> infer_instance

/-- The meaning of the commands, when the library answers `a`. -/
def Cmd.handle (a : Answers) : Handler Cmd.Ans World Event
  | .vars, w => ⟨w.vars, w, []⟩
  | .assign f, w => ⟨(), { w with vars := f w.vars }, []⟩
  | .api c, w =>
    let r := w.pjsua.reply a c
    ⟨r, { w with pjsua := w.pjsua.after c r }, [.api c w.pjsua.state r]⟩
  | .activeCalls, w => ⟨w.pjsua.calls, w, []⟩
  | .endCall c, w => ⟨decide (c ∈ w.pjsua.calls), { w with pjsua := w.pjsua.endCall c }, []⟩
  | .notify n, w => ⟨(), w, [.notified n]⟩

/-- What a step does: an operation, or a callback. -/
inductive Act
  | op (o : Op)
  | callback (cb : Callback)
  deriving DecidableEq

/-- A step, with the answers of the library and the contents of uninitialised locals. -/
structure Step where
  act : Act
  answers : Answers
  locals : Locals

/-- An act with given answers, nothing being known of the locals. -/
def Act.answered (act : Act) (a : Answers) : Step := ⟨act, a, ⟨0, pjsuaAccConfigDefault⟩⟩

/-- The step registers. -/
def Step.Registers (st : Step) : Prop :=
  match st.act with
  | .op (.registerWithNumber ..) => True
  | _ => False

/-- An operation runs as a whole. A callback is raised only by a running library. -/
def World.step (st : Step) (w : World) : Outcome Unit World Event :=
  match st.act with
  | .op o => (o.program st.locals).run (Cmd.handle st.answers) w
  | .callback cb =>
    -- the library has changed already when it calls back
    if w.pjsua.state = .running then
      let o := cb.program.run (Cmd.handle st.answers) { w with pjsua := w.pjsua.raise cb }
      { o with events := .raised cb :: o.events }
    else ⟨(), w, []⟩

theorem step_op (o : Op) (a : Answers) (locals : Locals) (w : World) :
    World.step ⟨.op o, a, locals⟩ w = (o.program locals).run (Cmd.handle a) w := rfl

theorem step_callback_of_running (cb : Callback) (a : Answers) (locals : Locals) {w : World}
    (h : w.pjsua.state = .running) :
    World.step ⟨.callback cb, a, locals⟩ w =
      (⟨(), { w with pjsua := w.pjsua.raise cb }, [.raised cb]⟩ : Outcome Unit World Event).andThen
        fun _ w => cb.program.run (Cmd.handle a) w := by
  simp [World.step, Outcome.andThen, h]

theorem step_callback_of_not_running (cb : Callback) (a : Answers) (locals : Locals) {w : World}
    (h : w.pjsua.state ≠ .running) : World.step ⟨.callback cb, a, locals⟩ w = ⟨(), w, []⟩ := by
  simp [World.step, h]

/-- A callback reports no change of the state of the library. -/
theorem raise_state (p : Pjsua) (cb : Callback) : (p.raise cb).state = p.state := by
  unfold Pjsua.raise
  split <;> rfl

/-- The phone, driven by its steps. -/
def phone : Machine World Step Event := ⟨World.step⟩

/-- The world after a history. -/
abbrev worldAfter (config : CTSoftPhoneConfig) (steps : List Step) : World :=
  phone.after (.initial config) steps

/-- The events of a history. -/
abbrev traceOf (config : CTSoftPhoneConfig) (steps : List Step) : List Event :=
  phone.trace (.initial config) steps

/-! ## Runs of the commands -/

section Commands

variable (a : Answers) (w : World)

@[simp] theorem run_vars : vars.run (Cmd.handle a) w = ⟨w.vars, w, []⟩ := rfl

@[simp] theorem run_assign (f : Vars → Vars) :
    (assign f).run (Cmd.handle a) w = ⟨(), { w with vars := f w.vars }, []⟩ := rfl

@[simp] theorem run_setStatus (status : PjStatus) :
    (setStatus status).run (Cmd.handle a) w =
      ⟨(), { w with vars := { w.vars with status := status } }, []⟩ := rfl

@[simp] theorem run_api (c : Api) :
    (api c).run (Cmd.handle a) w =
      ⟨w.pjsua.reply a c, { w with pjsua := w.pjsua.after c (w.pjsua.reply a c) },
        [.api c w.pjsua.state (w.pjsua.reply a c)]⟩ := rfl

@[simp] theorem run_activeCalls :
    activeCalls.run (Cmd.handle a) w = ⟨w.pjsua.calls, w, []⟩ := rfl

@[simp] theorem run_endCall (callId : ℤ) :
    (endCall callId).run (Cmd.handle a) w =
      ⟨decide (callId ∈ w.pjsua.calls), { w with pjsua := w.pjsua.endCall callId }, []⟩ := rfl

@[simp] theorem run_onRegistrationState (state : CTSoftPhoneRegistrationState) :
    (Delegate.onRegistrationState state).run (Cmd.handle a) w =
      ⟨(), w, [.notified (.registration state)]⟩ := rfl

@[simp] theorem run_delegate_onCallState (state : CTSoftPhoneCallState) :
    (Delegate.onCallState state).run (Cmd.handle a) w = ⟨(), w, [.notified (.call state)]⟩ := rfl

end Commands

/-! ## Ending calls and tearing down -/

/-- The information a query of a call leaves: what is reported, or on failure what was there. -/
def Answers.info (a : Answers) (callId : ℤ) (ci : PjsuaCallInfo) : PjsuaCallInfo :=
  if a.callGetInfo callId = pjSuccess then a.callInfo callId else ci

/-- The events of ending calls in a library in state `state`: queries of call information, and
call states delivered. -/
def Event.OfEndedCall (state : PjsuaState) : Event → Prop
  | .api (.callGetInfo _) s _ => s = state
  | .notified (.call _) => True
  | _ => False

section Teardown

variable (a : Answers) (w : World)

@[simp] theorem run_getInfo (callId : ℤ) :
    (getInfo callId).run (Cmd.handle a) w =
      ⟨(), { w with vars := { w.vars with ci := a.info callId w.vars.ci } },
        [.api (.callGetInfo callId) w.pjsua.state (w.pjsua.reply a (.callGetInfo callId))]⟩ := by
  simp only [getInfo, Prog.bind_def, Prog.run_bind, run_api, Outcome.andThen, run_assign,
    Pjsua.after, Pjsua.reply, Reply.ofInfo_info, Answers.info, List.append_nil]
  split <;> rfl

theorem run_onCallState (callId : ℤ) :
    (onCallState callId).run (Cmd.handle a) w =
      ⟨(), { w with vars := { w.vars with ci := a.info callId w.vars.ci } },
        [.api (.callGetInfo callId) w.pjsua.state (w.pjsua.reply a (.callGetInfo callId)),
          .notified (.call (a.info callId w.vars.ci).state.toCallState)]⟩ := by
  simp [onCallState, Outcome.andThen]

/-- The connections once a report of the media of a call is acted on. -/
def PjsuaCallInfo.connect (ci : PjsuaCallInfo) (conf : Finset (ℤ × ℤ)) : Finset (ℤ × ℤ) :=
  match ci.mediaStatus with
  | .active => insert (0, ci.confSlot) (insert (ci.confSlot, 0) conf)
  | .none => conf.erase (ci.confSlot, 0)
  | .localHold | .remoteHold | .error => conf

theorem run_onCallMediaState_state (h : w.pjsua.state = .running) (callId : ℤ) :
    ((onCallMediaState callId).run (Cmd.handle a) w).state =
      ⟨{ w.vars with ci := a.info callId w.vars.ci },
        { w.pjsua with conf := (a.info callId w.vars.ci).connect w.pjsua.conf }⟩ := by
  have hinit : w.pjsua.state.Initialised := h ▸ trivial
  clear h
  simp only [onCallMediaState, Prog.bind_def, Prog.run_bind, run_getInfo, run_vars,
    Outcome.andThen_state]
  unfold PjsuaCallInfo.connect
  split <;> simp [*, Pjsua.after, Pjsua.reply]

theorem endCall_of_notMem (p : Pjsua) {callId : ℤ} (h : callId ∉ p.calls) :
    p.endCall callId = p := by
  have hf : p.calls.filter (fun c => c ≠ callId) = p.calls :=
    List.filter_eq_self.mpr fun c hc => by simpa using fun he : c = callId => h (he ▸ hc)
  simp only [Pjsua.endCall, hf]

theorem run_disconnect_of_mem {callId : ℤ} (h : callId ∈ w.pjsua.calls) :
    (disconnect callId).run (Cmd.handle a) w =
      (onCallState callId).run (Cmd.handle a) { w with pjsua := w.pjsua.endCall callId } := by
  simp [disconnect, Outcome.andThen, h]

theorem run_disconnect_of_notMem {callId : ℤ} (h : callId ∉ w.pjsua.calls) :
    (disconnect callId).run (Cmd.handle a) w = ⟨(), w, []⟩ := by
  simp [disconnect, Outcome.andThen, h, endCall_of_notMem]

theorem run_disconnect_events (callId : ℤ) :
    ∀ e ∈ ((disconnect callId).run (Cmd.handle a) w).events, e.OfEndedCall w.pjsua.state := by
  by_cases h : callId ∈ w.pjsua.calls
  · rw [run_disconnect_of_mem a w h, run_onCallState]
    simp [Event.OfEndedCall, Pjsua.endCall]
  · simp [run_disconnect_of_notMem a w h]

/-- Ending calls changes the call information and the live calls only. -/
theorem run_forM_disconnect_state (callIds : List ℤ) :
    ∃ ci, ((forM callIds disconnect : Phone PUnit).run (Cmd.handle a) w).state =
      ⟨{ w.vars with ci := ci },
        { w.pjsua with calls := w.pjsua.calls.filter fun c => c ∉ callIds }⟩ := by
  induction callIds generalizing w with
  | nil => exact ⟨w.vars.ci, by simp⟩
  | cons c cs ih =>
    rw [Prog.run_forM_cons, Outcome.andThen_state]
    -- a call that has ended meanwhile is passed over
    by_cases hc : c ∈ w.pjsua.calls
    · rw [run_disconnect_of_mem a w hc, run_onCallState]
      obtain ⟨ci, hci⟩ := ih ⟨{ w.vars with ci := a.info c w.vars.ci }, w.pjsua.endCall c⟩
      refine ⟨ci, hci.trans ?_⟩
      simp [Pjsua.endCall, List.filter_filter, Bool.and_comm]
    · rw [run_disconnect_of_notMem a w hc]
      obtain ⟨ci, hci⟩ := ih w
      refine ⟨ci, hci.trans ?_⟩
      have hf : ∀ d ∈ w.pjsua.calls, (d ∉ cs ↔ d ∉ c :: cs) := fun d hd => by
        simp [List.mem_cons, show d ≠ c from fun he => hc (he ▸ hd)]
      rw [List.filter_congr fun d hd => decide_eq_decide.mpr (hf d hd)]

theorem run_forM_disconnect_events (callIds : List ℤ) :
    ∀ e ∈ ((forM callIds disconnect : Phone PUnit).run (Cmd.handle a) w).events,
      e.OfEndedCall w.pjsua.state := by
  induction callIds generalizing w with
  | nil => simp
  | cons c cs ih =>
    rw [Prog.run_forM_cons, Outcome.andThen_events]
    refine List.forall_mem_append.mpr ⟨run_disconnect_events a w c, ?_⟩
    have hstate : ((disconnect c).run (Cmd.handle a) w).state.pjsua.state = w.pjsua.state := by
      by_cases hc : c ∈ w.pjsua.calls
      · rw [run_disconnect_of_mem a w hc, run_onCallState]
        rfl
      · rw [run_disconnect_of_notMem a w hc]
    exact hstate ▸ ih _

/-- **Hanging up all calls** ends every live call, and changes no more than the call
information. -/
theorem run_pjsuaCallHangupAll_state :
    ∃ ci, (pjsuaCallHangupAll.run (Cmd.handle a) w).state =
      ⟨{ w.vars with ci := ci }, { w.pjsua with calls := [] }⟩ := by
  obtain ⟨ci, hci⟩ := run_forM_disconnect_state a w w.pjsua.calls
  have hf : (w.pjsua.calls.filter fun c => c ∉ w.pjsua.calls) = [] :=
    List.filter_eq_nil_iff.mpr (by simp)
  rw [hf] at hci
  exact ⟨ci, hci⟩

theorem run_pjsuaCallHangupAll_events :
    ∃ es, (pjsuaCallHangupAll.run (Cmd.handle a) w).events =
      .api .callHangupAll w.pjsua.state (.ofStatus pjSuccess) :: es ∧
        ∀ e ∈ es, e.OfEndedCall w.pjsua.state :=
  ⟨_, by simp [pjsuaCallHangupAll, Pjsua.after, Pjsua.reply],
    run_forM_disconnect_events a w w.pjsua.calls⟩

/-- The events of tearing down a library in state `state`: with an account, the calls are ended
and the account is deleted first. -/
def Event.OfTeardown (state : PjsuaState) (accId : ℤ) : Event → Prop
  | .api .destroy _ _ => True
  | .api .callHangupAll s _ | .api (.accDel _) s _ | .api (.callGetInfo _) s _ =>
    s = state ∧ 0 ≤ accId
  | .notified (.call _) => True
  | _ => False

theorem Event.OfEndedCall.ofTeardown {state : PjsuaState} {accId : ℤ} (h : 0 ≤ accId) {e : Event}
    (he : e.OfEndedCall state) : e.OfTeardown state accId := by
  unfold Event.OfEndedCall at he
  split at he
  · exact ⟨he, h⟩
  · trivial
  · exact he.elim

theorem run_ctPjsuaDeleteAccount_of_neg (h : w.vars.accId < 0) :
    ctPjsuaDeleteAccount.run (Cmd.handle a) w = ⟨(), w, []⟩ := by
  simp [ctPjsuaDeleteAccount, Outcome.andThen, h]

theorem run_ctPjsuaDeleteAccount_of_nonneg (h : 0 ≤ w.vars.accId) :
    ∃ ci, (ctPjsuaDeleteAccount.run (Cmd.handle a) w).state =
      ⟨{ w.vars with ci := ci, accId := -1 },
        { w.pjsua with
          calls := [], accounts := w.pjsua.accounts.filter fun acc => acc.id ≠ w.vars.accId }⟩ ∧
      ∀ e ∈ (ctPjsuaDeleteAccount.run (Cmd.handle a) w).events,
        e.OfTeardown w.pjsua.state w.vars.accId := by
  obtain ⟨ci, hci⟩ := run_pjsuaCallHangupAll_state a w
  obtain ⟨es, hes, hended⟩ := run_pjsuaCallHangupAll_events a w
  refine ⟨ci, ?_, ?_⟩
  · simp [ctPjsuaDeleteAccount, Int.not_lt.mpr h, hci, Pjsua.after]
  · intro e he
    simp only [ctPjsuaDeleteAccount, Prog.bind_def, Prog.run_bind, run_vars, Prog.run_ite,
      Int.not_lt.mpr h, if_false, Outcome.andThen_events, hci, hes, run_api, run_assign,
      List.nil_append, List.append_nil, List.mem_append, List.mem_cons, List.not_mem_nil,
      or_false] at he
    rcases he with (rfl | he) | rfl
    · exact ⟨rfl, h⟩
    · exact (hended e he).ofTeardown h
    · exact ⟨rfl, h⟩

/-- The account id after tearing down: there is no account. -/
def dropAccount (accId : ℤ) : ℤ := if accId < 0 then accId else -1

/-- **Tearing down** leaves the library down and the phone without an account. -/
theorem run_ctPjsuaDestroy :
    ∃ ci, (ctPjsuaDestroy.run (Cmd.handle a) w).state =
      ⟨{ w.vars with ci := ci, accId := dropAccount w.vars.accId }, .down⟩ ∧
      ∀ e ∈ (ctPjsuaDestroy.run (Cmd.handle a) w).events,
        e.OfTeardown w.pjsua.state w.vars.accId := by
  by_cases h : w.vars.accId < 0
  · refine ⟨w.vars.ci, ?_, ?_⟩
    · simp [ctPjsuaDestroy, run_ctPjsuaDeleteAccount_of_neg a w h, Pjsua.after, dropAccount, h]
    · simp [ctPjsuaDestroy, run_ctPjsuaDeleteAccount_of_neg a w h, Event.OfTeardown]
  · obtain ⟨ci, hci, hev⟩ := run_ctPjsuaDeleteAccount_of_nonneg a w (Int.not_lt.mp h)
    refine ⟨ci, ?_, ?_⟩
    · simp [ctPjsuaDestroy, hci, Pjsua.after, dropAccount, h]
    · intro e he
      simp only [ctPjsuaDestroy, Prog.bind_def, Prog.run_bind, Outcome.andThen_events, run_api,
        Prog.pure_def, Prog.run_ret, List.append_nil, List.mem_append, List.mem_singleton] at he
      rcases he with he | rfl
      · exact hev e he
      · trivial

/-- A failed registration tears down, and then tells the delegate. -/
theorem run_registrationFailed :
    ∃ ci es, registrationFailed.run (Cmd.handle a) w =
      ⟨(), ⟨{ w.vars with ci := ci, accId := dropAccount w.vars.accId }, .down⟩,
        es ++ [.notified (.registration .fail)]⟩ ∧
      ∀ e ∈ es, e.OfTeardown w.pjsua.state w.vars.accId := by
  obtain ⟨ci, hci, hev⟩ := run_ctPjsuaDestroy a w
  refine ⟨ci, _, ?_, hev⟩
  simp [registrationFailed, errorExit, Outcome.andThen, hci]

end Teardown

/-! ## The current call -/

section CurrentCall

variable (a : Answers) (w : World)

theorem run_answercall :
    answercall.run (Cmd.handle a) w =
      ⟨(), w, [.api (.callAnswer w.vars.callId) w.pjsua.state (.ofStatus pjSuccess)]⟩ := by
  simp [answercall, getCallid, Outcome.andThen, Pjsua.reply, Pjsua.after]

theorem run_hangup :
    hangup.run (Cmd.handle a) w =
      (⟨(), w, [.api (.callHangup w.vars.callId) w.pjsua.state (.ofStatus pjSuccess)]⟩ :
        Outcome Unit World Event).andThen
          fun _ w => (disconnect w.vars.callId).run (Cmd.handle a) w := by
  simp [hangup, getCallid, pjsuaCallHangup, Outcome.andThen, Pjsua.reply, Pjsua.after]

/-- `hangup` ends the current call, if it is live. -/
theorem calls_hangup :
    (hangup.run (Cmd.handle a) w).state.pjsua.calls =
      w.pjsua.calls.filter fun c => c ≠ w.vars.callId := by
  rw [run_hangup, Outcome.andThen_state]
  by_cases h : w.vars.callId ∈ w.pjsua.calls
  · rw [run_disconnect_of_mem a w h, run_onCallState]
    rfl
  · rw [run_disconnect_of_notMem a w h]
    exact (congrArg Pjsua.calls (endCall_of_notMem w.pjsua h)).symm

end CurrentCall

/-! ## Muting -/

section Mute

variable (a : Answers) (w : World)

/-- The call information has an audio slot. -/
def PjsuaCallInfo.HasSlot (ci : PjsuaCallInfo) : Prop := ci.confSlot ≠ 0 ∧ ci.confSlot ≠ -1

instance : DecidablePred PjsuaCallInfo.HasSlot := fun ci => by
  unfold PjsuaCallInfo.HasSlot; infer_instance

theorem run_mute :
    mute.run (Cmd.handle a) w =
      if w.vars.ci.HasSlot then
        ⟨(),
          { w with pjsua := { w.pjsua with conf := w.pjsua.conf.erase (0, w.vars.ci.confSlot) } },
          [.api (.confDisconnect 0 w.vars.ci.confSlot) w.pjsua.state (.ofStatus pjSuccess)]⟩
      else ⟨(), w, []⟩ := by
  by_cases h : w.vars.ci.confSlot ≠ 0 ∧ w.vars.ci.confSlot ≠ -1 <;>
    simp [mute, Outcome.andThen, Pjsua.after, Pjsua.reply, PjsuaCallInfo.HasSlot, h]

theorem run_unmute :
    unmute.run (Cmd.handle a) w =
      if w.vars.ci.HasSlot then
        ⟨(),
          { w with pjsua := { w.pjsua with
              conf := if w.pjsua.state.Initialised then insert (0, w.vars.ci.confSlot) w.pjsua.conf
                else w.pjsua.conf } },
          [.api (.confConnect 0 w.vars.ci.confSlot) w.pjsua.state
            (w.pjsua.reply a (.confConnect 0 w.vars.ci.confSlot))]⟩
      else ⟨(), w, []⟩ := by
  by_cases h : w.vars.ci.confSlot ≠ 0 ∧ w.vars.ci.confSlot ≠ -1 <;>
    simp [unmute, Outcome.andThen, Pjsua.after_confConnect, PjsuaCallInfo.HasSlot, h]

theorem conf_unmute :
    (unmute.run (Cmd.handle a) w).state.pjsua.conf =
      if w.vars.ci.HasSlot ∧ w.pjsua.state.Initialised then
        insert (0, w.vars.ci.confSlot) w.pjsua.conf
      else w.pjsua.conf := by
  rw [run_unmute, ite_and]
  split <;> rfl

end Mute

end CTSoftPhone
