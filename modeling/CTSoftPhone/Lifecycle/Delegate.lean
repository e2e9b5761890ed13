import CTSoftPhone.Calls.StaleCall
import CTSoftPhone.Lifecycle.Reporter

/-!
# What the delegate is told

A history of the phone shows its queries of call information and its notifications. It shows what
the reporter emits on the same steps, one sight after another: nothing else of the phone, of the
library or of what failed where can be told from what the delegate hears.

## Main definitions

* `World.ShownBy`: the calls, the current call and the call information of a world are those of a
  reporter
* `Shows`: a run shows what an outcome of the reporter emits

## Main results

* `shows_step`: a step of the phone shows a step of the reporter
* `sights_traceOf`: a history of the phone shows a history of the reporter
* `ended_reported`: no call ends silently
* `refused_until_destroyed`: after a failed registration the delegate hears of refusals only
-/

namespace CTSoftPhone

/-- The calls, the current call and the call information are those of the reporter. -/
structure World.ShownBy (w : World) (r : Reporter) : Prop where
  calls_eq : w.pjsua.calls = r.line.calls
  callId_eq : w.vars.callId = r.callId
  ci_eq : w.vars.ci = r.ci

/-- A run shows what the reporter emits, and leaves what it leaves. -/
structure Shows {α : Type} (o : Outcome α World Event) (o' : Outcome Unit Reporter Sight) :
    Prop where
  state : o.state.ShownBy o'.state
  events_eq : o.events.filterMap Event.sight = o'.events

theorem Shows.andThen {α β : Type} {o : Outcome α World Event} {o' : Outcome Unit Reporter Sight}
    {f : α → World → Outcome β World Event} {g : Unit → Reporter → Outcome Unit Reporter Sight}
    (h : Shows o o') (hf : Shows (f o.val o.state) (g o'.val o'.state)) :
    Shows (o.andThen f) (o'.andThen g) := by
  refine ⟨hf.state, ?_⟩
  rw [Outcome.andThen_events, Outcome.andThen_events, List.filterMap_append, h.events_eq,
    hf.events_eq]

/-- What is done before may be unseen. -/
theorem Shows.of_silent {α β : Type} {o : Outcome α World Event} {o' : Outcome Unit Reporter Sight}
    {f : α → World → Outcome β World Event} (h : o.events.filterMap Event.sight = [])
    (hf : Shows (f o.val o.state) o') : Shows (o.andThen f) o' := by
  refine ⟨hf.state, ?_⟩
  rw [Outcome.andThen_events, List.filterMap_append, h, hf.events_eq, List.nil_append]

/-! ## Calls that end -/

section Teardown

variable (a : Answers) {w : World} {r : Reporter}

theorem shows_onCallState (h : w.ShownBy r) (callId : ℤ) :
    Shows ((onCallState callId).run (Cmd.handle a) w) (r.report a callId) := by
  rw [run_onCallState, h.ci_eq]
  exact ⟨⟨h.calls_eq, h.callId_eq, rfl⟩, rfl⟩

theorem shows_disconnect (h : w.ShownBy r) (callId : ℤ) :
    Shows ((disconnect callId).run (Cmd.handle a) w) (r.endCall a callId) := by
  rw [Reporter.endCall]
  by_cases hc : callId ∈ w.pjsua.calls
  · rw [run_disconnect_of_mem a w hc, if_pos (h.calls_eq ▸ hc)]
    have hended : World.ShownBy ⟨w.vars, w.pjsua.endCall callId⟩
        { r with line := r.line.remove callId } := by
      refine ⟨?_, h.callId_eq, h.ci_eq⟩
      rw [Line.calls_remove, ← h.calls_eq]
      rfl
    exact shows_onCallState a hended callId
  · rw [run_disconnect_of_notMem a w hc, if_neg (h.calls_eq ▸ hc)]
    exact ⟨h, rfl⟩

theorem shows_forM_disconnect (h : w.ShownBy r) (callIds : List ℤ) :
    Shows ((forM callIds disconnect : Phone PUnit).run (Cmd.handle a) w)
      (r.endCalls a callIds) := by
  induction callIds generalizing w r with
  | nil => exact ⟨h, rfl⟩
  | cons c cs ih =>
    rw [Prog.run_forM_cons, Reporter.endCalls]
    have hc := shows_disconnect a h c
    exact hc.andThen (ih hc.state)

theorem shows_pjsuaCallHangupAll (h : w.ShownBy r) :
    Shows (pjsuaCallHangupAll.run (Cmd.handle a) w) (r.endCalls a r.line.calls) := by
  rw [← h.calls_eq]
  exact (shows_forM_disconnect a h _).of_silent rfl

/-- The library goes down: the live calls end before, and there are none without an account. -/
theorem shows_ctPjsuaDestroy (h : w.ShownBy r) (hacc : w.vars.accId < 0 → w.pjsua.calls = [])
    (line : Line) (hline : line.calls = []) :
    Shows (ctPjsuaDestroy.run (Cmd.handle a) w)
      ((r.endCalls a r.line.calls).andThen fun _ r => { r with line := line }.silent) := by
  by_cases hneg : w.vars.accId < 0
  · rw [← h.calls_eq, hacc hneg]
    simp only [ctPjsuaDestroy, Prog.bind_def, Prog.run_bind,
      run_ctPjsuaDeleteAccount_of_neg a w hneg]
    exact ⟨⟨hline.symm, h.callId_eq, h.ci_eq⟩, rfl⟩
  · have hcalls := shows_pjsuaCallHangupAll a h
    have hrun : ctPjsuaDestroy.run (Cmd.handle a) w =
        (pjsuaCallHangupAll.run (Cmd.handle a) w).andThen fun _ w =>
          ⟨(), ⟨{ w.vars with accId := -1 }, .down⟩,
            [.api (.accDel w.vars.accId) w.pjsua.state (.ofStatus pjSuccess),
              .api .destroy w.pjsua.state (.ofStatus pjSuccess)]⟩ := by
      simp [ctPjsuaDestroy, ctPjsuaDeleteAccount, Outcome.andThen, hneg, Pjsua.reply, Pjsua.after]
    rw [hrun]
    exact hcalls.andThen
      ⟨⟨hline.symm, hcalls.state.callId_eq, hcalls.state.ci_eq⟩, rfl⟩

/-- The line is closed, and then the delegate is told. -/
theorem Reporter.close_eq (line : Line) (state : CTSoftPhoneRegistrationState) (r : Reporter) :
    r.close a line state =
      ((r.endCalls a r.line.calls).andThen fun _ r => { r with line := line }.silent).andThen
        fun _ r => ⟨(), r, [.told (.registration state)]⟩ := by
  simp [close, silent, Outcome.andThen]

theorem shows_registrationFailed (h : w.ShownBy r) (hacc : w.vars.accId < 0 → w.pjsua.calls = []) :
    Shows (registrationFailed.run (Cmd.handle a) w) (r.close a .stale .fail) := by
  have hdown := shows_ctPjsuaDestroy a h hacc .stale rfl
  have hrun : registrationFailed.run (Cmd.handle a) w =
      (ctPjsuaDestroy.run (Cmd.handle a) w).andThen fun _ w =>
        ⟨(), w, [.notified (.registration .fail)]⟩ := by
    simp [registrationFailed, errorExit]
  rw [hrun, Reporter.close_eq]
  exact hdown.andThen ⟨hdown.state, rfl⟩

theorem shows_destroy (h : w.ShownBy r) (hacc : w.vars.accId < 0 → w.pjsua.calls = []) :
    Shows (destroy.run (Cmd.handle a) w) (r.close a .down .destroyed) := by
  have hdown := shows_ctPjsuaDestroy a h hacc .down rfl
  have hrun : destroy.run (Cmd.handle a) w =
      (ctPjsuaDestroy.run (Cmd.handle a) w).andThen fun _ w =>
        ⟨(), { w with vars := { w.vars with pjsuaInitialized := false } },
          [.notified (.registration .destroyed)]⟩ := by
    simp [destroy, Outcome.andThen]
  rw [hrun, Reporter.close_eq]
  exact hdown.andThen ⟨⟨hdown.state.calls_eq, hdown.state.callId_eq, hdown.state.ci_eq⟩, rfl⟩

end Teardown

/-! ## Registrations -/

section Register

variable (a : Answers) {w : World} {r : Reporter}

/-- An account that is not put leaves the rest to the failure of the registration. -/
theorem exists_run_putAccount_of_failed (cfg : PjsuaAccConfig)
    (h : ¬ PutOk a w.pjsua.state w.vars.accId) :
    ∃ status, (putAccount cfg).run (Cmd.handle a) w =
      (⟨(), { w with vars := { w.vars with status := status } }, [w.putEvent a cfg]⟩ :
        Outcome Unit World Event).andThen fun _ w => registrationFailed.run (Cmd.handle a) w := by
  by_cases hacc : 0 ≤ w.vars.accId
  · have hm : a.accModify ≠ pjSuccess := by simpa [PutOk, hacc] using h
    refine ⟨a.accModify, ?_⟩
    simp [putAccount, Outcome.andThen, Pjsua.reply, Pjsua.after, World.putEvent, hacc, hm]
  · have hfailed : (if w.pjsua.state.Initialised then a.accAdd else pjEInvalidOp) ≠ pjSuccess := by
      split
      · next hi => exact fun ha => h (by simp [PutOk, hacc, hi, ha])
      · decide
    refine ⟨if w.pjsua.state.Initialised then a.accAdd else pjEInvalidOp, ?_⟩
    simp [putAccount, Outcome.andThen, Pjsua.reply, Pjsua.after, World.putEvent, hacc, hfailed]

/-- A set-up that fails leaves the rest to the failure of the registration. -/
theorem exists_run_setUp_of_failed (h : ¬ a.SetUpOk) :
    ∃ (v : Vars) (p : Pjsua) (es : List Event), setUp.run (Cmd.handle a) w =
      (⟨(), ⟨v, p⟩, es⟩ : Outcome Unit World Event).andThen (fun _ w =>
        (registrationFailed.run (Cmd.handle a) w).andThen fun _ w => ⟨false, w, []⟩) ∧
      es.filterMap Event.sight = [] ∧ v.accId = w.vars.accId ∧ v.callId = w.vars.callId ∧
      v.ci = w.vars.ci ∧ p.calls = w.pjsua.calls := by
  by_cases hc : a.create = pjSuccess
  · by_cases hi : a.init = pjSuccess
    · have hs : a.start ≠ pjSuccess := fun hs => h ⟨hc, hi, hs⟩
      refine ⟨{ w.vars with pjsuaInitialized := true, status := a.start },
        { w.pjsua with
          state := .init, transports := w.pjsua.transports ++ a.created w.vars.config },
        [.api .create w.pjsua.state (.ofStatus a.create), .api .init .created (.ofStatus a.init),
          .api (.transportCreate w.vars.config.pjTransportType w.vars.config.unsignedPort) .init
            (.ofId a.transportCreate a.transportId), .api .start .init (.ofStatus a.start)],
        ?_, rfl, rfl, rfl, rfl, rfl⟩
      by_cases ht : a.transportCreate = pjSuccess <;>
        simp_all [setUp, Outcome.andThen, Pjsua.reply, Pjsua.after, Answers.created]
    · refine ⟨{ w.vars with pjsuaInitialized := true, status := a.init },
        { w.pjsua with state := .created },
        [.api .create w.pjsua.state (.ofStatus a.create), .api .init .created (.ofStatus a.init)],
        ?_, rfl, rfl, rfl, rfl, rfl⟩
      simp [setUp, Outcome.andThen, Pjsua.reply, Pjsua.after, hc, hi]
  · refine ⟨{ w.vars with pjsuaInitialized := true, status := a.create }, w.pjsua,
      [.api .create w.pjsua.state (.ofStatus a.create)], ?_, rfl, rfl, rfl, rfl, rfl⟩
    simp [setUp, Outcome.andThen, Pjsua.reply, Pjsua.after, hc]

theorem sight_putEvent (cfg : PjsuaAccConfig) (w : World) : (w.putEvent a cfg).sight = none := by
  unfold World.putEvent
  split <;> rfl

theorem sights_setUpEvents (w : World) : (w.setUpEvents a).filterMap Event.sight = [] := rfl

theorem World.ShownBy.put (h : w.ShownBy r) (cfg : PjsuaAccConfig) : (w.put a cfg).ShownBy r := by
  unfold World.put
  split <;> exact ⟨h.calls_eq, h.callId_eq, h.ci_eq⟩

/-- Without an account there are no calls. -/
theorem calls_eq_nil_of_neg (h : w.ShownBy r) (hin : w.session.In r.line.phase)
    (hneg : w.vars.accId < 0) : w.pjsua.calls = [] := by
  obtain ⟨line, callId, ci⟩ := r
  cases line with
  | down => exact h.calls_eq
  | stale => exact h.calls_eq
  | up calls => exact absurd hneg (Int.not_lt.mpr hin.2.accId_nonneg)

theorem shows_putAccount_of_failed (h : w.ShownBy r)
    (hacc : w.vars.accId < 0 → w.pjsua.calls = []) (cfg : PjsuaAccConfig)
    (hfailed : ¬ PutOk a w.pjsua.state w.vars.accId) :
    Shows ((putAccount cfg).run (Cmd.handle a) w) (r.close a .stale .fail) := by
  obtain ⟨status, hrun⟩ := exists_run_putAccount_of_failed a cfg hfailed
  rw [hrun]
  refine Shows.of_silent ?_ (shows_registrationFailed a ⟨h.calls_eq, h.callId_eq, h.ci_eq⟩ hacc)
  simp [sight_putEvent]

theorem shows_setUp_of_failed (h : w.ShownBy r) (hacc : w.vars.accId < 0 → w.pjsua.calls = [])
    (hfailed : ¬ a.SetUpOk) :
    Shows (setUp.run (Cmd.handle a) w) (r.close a .stale .fail) ∧
      (setUp.run (Cmd.handle a) w).val = false := by
  obtain ⟨v, p, es, hrun, hes, haccId, hcallId, hci, hcalls⟩ :=
    exists_run_setUp_of_failed a (w := w) hfailed
  have hshown : World.ShownBy ⟨v, p⟩ r :=
    ⟨hcalls.trans h.calls_eq, hcallId.trans h.callId_eq, hci.trans h.ci_eq⟩
  have hteardown := shows_registrationFailed a hshown
    fun hneg => hcalls.trans (hacc (haccId ▸ hneg))
  rw [hrun]
  refine ⟨Shows.of_silent hes ⟨hteardown.state, ?_⟩, rfl⟩
  rw [Outcome.andThen_events, List.append_nil]
  exact hteardown.events_eq

/-- A registration of a phone that is down. -/
theorem shows_registerWithNumber_of_down (h : w.ShownBy r) (hin : w.session.In .down)
    (hnil : w.pjsua.calls = []) (number host credentials : NSString) :
    Shows ((registerWithNumber number host credentials).run (Cmd.handle a) w)
      (if Phase.RegisterOk a .down then Reporter.silent { r with line := .up r.line.calls }
        else r.close a .stale .fail) := by
  by_cases hs : a.SetUpOk
  · by_cases hput : a.accAdd = pjSuccess
    · rw [if_pos ⟨hs, hput⟩, run_registerWithNumber_of_setUp a w number host credentials hin.1 hs
        ((hin.2.putOk_running_iff a).mpr hput)]
      have hshown : World.ShownBy (w.setUp a) { r with line := .up r.line.calls } :=
        ⟨h.calls_eq, h.callId_eq, h.ci_eq⟩
      refine ⟨hshown.put a _, ?_⟩
      simp [sights_setUpEvents, sight_putEvent, Reporter.silent]
    · rw [if_neg fun hok => hput hok.2, run_registerWithNumber_of_not_initialized a w _ _ _ hin.1,
        run_setUp_of_ok a w hs]
      have hshown : World.ShownBy (w.setUp a) r := ⟨h.calls_eq, h.callId_eq, h.ci_eq⟩
      refine Shows.of_silent rfl (shows_putAccount_of_failed a hshown (fun _ => hnil) _ ?_)
      exact fun hok => hput ((hin.2.putOk_running_iff a).mp hok)
  · obtain ⟨hshows, hval⟩ := shows_setUp_of_failed a h (fun _ => hnil) hs
    rw [if_neg fun hok => hs hok.1, run_registerWithNumber_of_not_initialized a w _ _ _ hin.1]
    refine ⟨?_, ?_⟩
    · rw [Outcome.andThen_state, hval]
      exact hshows.state
    · rw [Outcome.andThen_events, hval]
      simp [hshows.events_eq]

/-- A registration shows what the reporter makes of it. -/
theorem shows_registerWithNumber (h : w.ShownBy r) (hin : w.session.In r.line.phase)
    (number host credentials : NSString) :
    Shows ((registerWithNumber number host credentials).run (Cmd.handle a) w)
      (if r.line.phase.RegisterOk a then Reporter.silent { r with line := .up r.line.calls }
        else r.close a .stale .fail) := by
  have hacc := calls_eq_nil_of_neg h hin
  cases hline : r.line with
  | down =>
    rw [hline] at hin
    have hdown := shows_registerWithNumber_of_down a h hin (hacc hin.2.accId_neg)
      number host credentials
    rwa [hline] at hdown
  | stale =>
    rw [hline] at hin
    rw [if_neg (show ¬ Phase.RegisterOk a Line.stale.phase from id),
      run_registerWithNumber_of_initialized a w _ _ _ hin.1]
    exact shows_putAccount_of_failed a h hacc _ (hin.2.not_putOk a)
  | up calls =>
    rw [hline] at hin
    rw [run_registerWithNumber_of_initialized a w _ _ _ hin.1]
    by_cases hok : a.accModify = pjSuccess
    · rw [if_pos (show Phase.RegisterOk a (Line.up calls).phase from hok),
        run_putAccount_of_ok a w _ ((hin.2.putOk_iff a).mpr hok)]
      have hshown : w.ShownBy { r with line := .up calls } :=
        ⟨hline ▸ h.calls_eq, h.callId_eq, h.ci_eq⟩
      refine ⟨hshown.put a _, ?_⟩
      simp [sight_putEvent, Reporter.silent]
    · rw [if_neg (show ¬ Phase.RegisterOk a (Line.up calls).phase from hok)]
      exact shows_putAccount_of_failed a h hacc _ fun hput => hok ((hin.2.putOk_iff a).mp hput)

end Register

/-! ## Steps -/

section Steps

variable (a : Answers) (locals : Locals) {w : World} {r : Reporter}

theorem shows_handleIpChange (h : w.ShownBy r) (transport : CTSoftPhoneTransportType) :
    Shows ((handleIpChange locals transport).run (Cmd.handle a) w) r.silent := by
  by_cases hs : w.session.Switches transport
  · rw [run_handleIpChange_of_switch a w locals transport hs]
    exact ⟨⟨h.calls_eq, h.callId_eq, h.ci_eq⟩, rfl⟩
  · rw [run_handleIpChange_of_not_switch a w locals transport hs]
    refine ⟨h, ?_⟩
    dsimp only
    split <;> rfl

theorem shows_hangup (h : w.ShownBy r) :
    Shows (hangup.run (Cmd.handle a) w) (r.endCall a r.callId) := by
  rw [run_hangup, ← h.callId_eq]
  exact (shows_disconnect a h _).of_silent rfl

theorem shows_mute (h : w.ShownBy r) : Shows (mute.run (Cmd.handle a) w) r.silent := by
  rw [run_mute]
  split
  · exact ⟨⟨h.calls_eq, h.callId_eq, h.ci_eq⟩, rfl⟩
  · exact ⟨h, rfl⟩

theorem shows_unmute (h : w.ShownBy r) : Shows (unmute.run (Cmd.handle a) w) r.silent := by
  rw [run_unmute]
  split
  · exact ⟨⟨h.calls_eq, h.callId_eq, h.ci_eq⟩, rfl⟩
  · exact ⟨h, rfl⟩

theorem sights_connectEvents (ci : PjsuaCallInfo) (state : PjsuaState) :
    (ci.connectEvents state).filterMap Event.sight = [] := by
  unfold PjsuaCallInfo.connectEvents
  split <;> rfl

theorem shows_onCallMediaState (h : w.ShownBy r) (hrun : w.pjsua.state = .running)
    (callId : ℤ) :
    Shows ((onCallMediaState callId).run (Cmd.handle a) w) (r.reportMedia a callId) := by
  refine ⟨?_, ?_⟩
  · rw [run_onCallMediaState_state a w hrun, h.ci_eq]
    exact ⟨h.calls_eq, h.callId_eq, rfl⟩
  · rw [run_onCallMediaState_events_eq a hrun, h.ci_eq, List.filterMap_cons,
      List.filterMap_append, sights_connectEvents]
    rfl

theorem run_onRegState2_eq (info : PjsipRegcCbparam) (w : World) :
    (onRegState2 info).run (Cmd.handle a) w =
      ⟨(), w, [.notified (.registration info.toRegistrationState)]⟩ := by
  unfold onRegState2 PjsipRegcCbparam.toRegistrationState
  split <;> rfl

/-- A callback of a running library. -/
theorem shows_callback {calls : List ℤ} (h : w.ShownBy r) (hline : r.line = .up calls)
    (hrun : w.pjsua.state = .running) (cb : Callback) :
    Shows (cb.program.run (Cmd.handle a) { w with pjsua := w.pjsua.raise cb })
      (r.raised a calls cb) := by
  have hcalls : w.pjsua.calls = calls := h.calls_eq.trans (congrArg Line.calls hline)
  cases cb with
  | incomingCall callId =>
    have hanswer : (onIncomingCall callId).run (Cmd.handle a)
        { w with pjsua := w.pjsua.raise (.incomingCall callId) } =
        ⟨(), ⟨{ w.vars with callId := callId }, w.pjsua.raise (.incomingCall callId)⟩,
          [.api (.callAnswer callId) w.pjsua.state (.ofStatus pjSuccess)]⟩ := by
      simp [onIncomingCall, setCallid, Outcome.andThen, Pjsua.reply, Pjsua.after, Pjsua.raise]
    rw [Callback.program, hanswer]
    exact ⟨⟨congrArg (List.insert (callId : ℤ)) hcalls, rfl, h.ci_eq⟩, rfl⟩
  | callState callId state =>
    rw [Callback.program]
    refine shows_onCallState a ?_ callId
    cases state with
    | disconnected =>
      refine ⟨?_, h.callId_eq, h.ci_eq⟩
      rw [if_pos rfl, Line.calls_remove, ← h.calls_eq]
      rfl
    | _ => exact ⟨h.calls_eq, h.callId_eq, h.ci_eq⟩
  | callMediaState callId =>
    rw [Callback.program]
    exact shows_onCallMediaState a ⟨h.calls_eq, h.callId_eq, h.ci_eq⟩ hrun callId
  | regState2 info =>
    rw [Callback.program, run_onRegState2_eq]
    exact ⟨h, rfl⟩

/-- **A step** of the phone shows a step of the reporter. -/
theorem shows_step (h : w.ShownBy r) (hin : w.session.In r.line.phase) (st : Step) :
    Shows (World.step st w) (r.step st) := by
  obtain ⟨act, a, locals⟩ := st
  cases act with
  | op o =>
    cases o with
    | registerWithNumber number host credentials =>
      exact shows_registerWithNumber a h hin number host credentials
    | handleIpChange transport => exact shows_handleIpChange a locals h transport
    | destroy => exact shows_destroy a h (calls_eq_nil_of_neg h hin)
    | hangup => exact shows_hangup a h
    | answercall =>
      rw [step_op, Op.program, run_answercall]
      exact ⟨h, rfl⟩
    | mute => exact shows_mute a h
    | unmute => exact shows_unmute a h
  | callback cb =>
    cases hline : r.line with
    | down =>
      rw [hline] at hin
      have hstate : w.pjsua.state ≠ .running := by
        simp [show w.pjsua.state = .null from hin.2.state_eq]
      rw [step_callback_of_not_running cb a locals hstate, Reporter.step, hline]
      exact ⟨h, rfl⟩
    | stale =>
      rw [hline] at hin
      have hstate : w.pjsua.state ≠ .running := by
        simp [show w.pjsua.state = .null from hin.2.state_eq]
      rw [step_callback_of_not_running cb a locals hstate, Reporter.step, hline]
      exact ⟨h, rfl⟩
    | up calls =>
      rw [hline] at hin
      rw [step_callback_of_running cb a locals hin.2.state_eq, Reporter.step, hline]
      exact (shows_callback a h hline hin.2.state_eq cb).of_silent rfl

end Steps

/-! ## Histories -/

/-- The reporter is in the phase of the world, and the world is shown by it. -/
def World.RefinedBy (w : World) (r : Reporter) : Prop := w.ShownBy r ∧ w.session.In r.line.phase

theorem World.RefinedBy.step {w : World} {r : Reporter} (h : w.RefinedBy r) (st : Step) :
    (World.step st w).state.RefinedBy (r.step st).state := by
  refine ⟨(shows_step h.1 h.2 st).state, ?_⟩
  rw [session_step, Reporter.phase_step]
  exact h.2.step st

/-- From a world that the reporter shows, a history shows what the reporter emits. -/
theorem World.RefinedBy.trace {w : World} {r : Reporter} (h : w.RefinedBy r) (steps : List Step) :
    (phone.after w steps).RefinedBy (reporter.after r steps) ∧
      (phone.trace w steps).filterMap Event.sight = reporter.trace r steps :=
  phone.trace_simulates w (N := reporter) (R := World.RefinedBy) h
    (fun st _ _ h => ⟨h.step st, (shows_step h.1 h.2 st).events_eq⟩) steps

theorem refinedBy_initial (config : CTSoftPhoneConfig) :
    (World.initial config).RefinedBy .initial := ⟨⟨rfl, rfl, rfl⟩, Session.in_initial config⟩

/-- **What the delegate is told**: a history of the phone shows, one after another, what the
reporter emits on its steps. -/
theorem sights_traceOf (config : CTSoftPhoneConfig) (steps : List Step) :
    (traceOf config steps).filterMap Event.sight = reporter.trace .initial steps :=
  ((refinedBy_initial config).trace steps).2

/-! ## Calls that end, and a phone that is not up -/

section Continued

variable (config : CTSoftPhoneConfig) (steps : List Step)

/-- What is seen after a history. -/
def seenAfter (more : List Step) : List Sight :=
  (phone.trace (worldAfter config steps) more).filterMap Event.sight

/-- **No call ends silently**: whatever a history is continued by, a call that is live before and
not after is asked about in between, and the delegate told of a state right then. -/
theorem ended_reported (more : List Step) :
    ∀ callId ∈ (worldAfter config steps).pjsua.calls,
      callId ∉ (worldAfter config (steps ++ more)).pjsua.calls →
      ∃ state, [.asked callId, .told (.call state)] <:+: seenAfter config steps more := by
  obtain ⟨h, -⟩ := (refinedBy_initial config).trace steps
  obtain ⟨hmore, hseen⟩ := h.trace more
  have hcalls : (worldAfter config (steps ++ more)).pjsua.calls =
      (reporter.after (reporter.after .initial steps) more).line.calls := by
    rw [worldAfter, phone.after_append, hmore.1.calls_eq]
  rw [seenAfter, hseen, hcalls, h.1.calls_eq]
  exact reporter_asks_of_ended _ more

/-- **Refusals**: as long as a history is continued without a registration that succeeds while the
phone is not up, the delegate hears that each registration fails and that each destroy is done, and
of nothing else. -/
theorem seenAfter_of_closed {more : List Step}
    (hclosed : Always (fun js => phaseAfter (steps ++ js) ≠ .up) more) :
    seenAfter config steps more = more.flatMap Step.refusal := by
  obtain ⟨h, -⟩ := (refinedBy_initial config).trace steps
  rw [seenAfter, (h.trace more).2]
  refine reporter_of_closed fun js hjs hup => hclosed js hjs ?_
  -- the line is in the phase of the history
  have hphase : ∀ is, (reporter.after .initial is).line.phase = phaseAfter is := fun is =>
    reporter.after_refines (f := fun r => r.line.phase) .initial Reporter.phase_step is
  rw [← hphase, reporter.after_append]
  exact hup

end Continued

/-- A call comes in, and is hung up. -/
theorem ended_reported_hangup :
    ∃ state, [.asked 0, .told (.call state)] <:+:
      seenAfter ⟨5060, .udp⟩
        [(Act.op (.registerWithNumber [] [] [])).answered .success,
          (Act.callback (.incomingCall 0)).answered .success]
        [(Act.op .hangup).answered .success] :=
  ended_reported _ _ _ 0 (by decide) (by decide)

/-- A registration fails, is repeated in vain, and the phone is destroyed. -/
theorem seenAfter_failed_registration :
    seenAfter ⟨5060, .udp⟩ []
        [(Act.op (.registerWithNumber [] [] [])).answered { Answers.success with create := 1 },
          (Act.op (.registerWithNumber [] [] [])).answered .success,
          (Act.callback (.incomingCall 0)).answered .success,
          (Act.op .destroy).answered .success] =
      [.told (.registration .fail), .told (.registration .fail),
        .told (.registration .destroyed)] :=
  seenAfter_of_closed _ _ (by decide)

end CTSoftPhone
