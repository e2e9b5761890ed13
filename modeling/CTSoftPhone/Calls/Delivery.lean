import CTSoftPhone.Calls.Media
import CTSoftPhone.Session.Phase

/-!
# What the delegate is told of a call

`on_call_state` passes the number of the invite state on as it is, and `on_call_media_state` adds
values of its own for the media. Both write into one enumeration, in which the number of a
disconnected call and that of a call without media are the same. So whoever reads what is delivered
can tell that a call is not over, as long as that value does not occur, and never that it is.

## Main definitions

* `Report`: a callback for a call, with the information pjsua returns in it
* `delivered`: the call states that a trace delivers
* `TellsDisconnected`: what a run delivers decides whether the call is disconnected in it

## Main results

* `run_onCallMediaState_events_eq`: the events of a media callback
* `delivered_reports`: a run delivers one value for each report
* `tellsDisconnected_iff`: the runs that tell whether the call is disconnected
-/

namespace CTSoftPhone

/-! ## The events of a media callback -/

/-- The value that a media status is delivered as. -/
def PjsuaCallMediaStatus.toCallState : PjsuaCallMediaStatus → CTSoftPhoneCallState
  | .none => .mediaNone
  | .active => .mediaActive
  | .localHold => .mediaLocalHold
  | .remoteHold => .mediaRemoteHold
  | .error => .mediaError

/-- The calls to the conference bridge once a report of the media of a call is acted on, in a
library in state `state`. -/
def PjsuaCallInfo.connectEvents (ci : PjsuaCallInfo) (state : PjsuaState) : List Event :=
  match ci.mediaStatus with
  | .active =>
    [.api (.confConnect ci.confSlot 0) state (.ofStatus pjSuccess),
      .api (.confConnect 0 ci.confSlot) state (.ofStatus pjSuccess)]
  | .none => [.api (.confDisconnect ci.confSlot 0) state (.ofStatus pjSuccess)]
  | .localHold | .remoteHold | .error => []

theorem run_onCallMediaState_events_eq (a : Answers) {w : World} (h : w.pjsua.state = .running)
    (callId : ℤ) :
    ((onCallMediaState callId).run (Cmd.handle a) w).events =
      .api (.callGetInfo callId) .running (w.pjsua.reply a (.callGetInfo callId)) ::
        ((a.info callId w.vars.ci).connectEvents .running ++
          [.notified (.call (a.info callId w.vars.ci).mediaStatus.toCallState)]) := by
  have hinit : PjsuaState.running.Initialised := trivial
  simp only [onCallMediaState, Prog.bind_def, Prog.run_bind, run_getInfo, run_vars,
    Outcome.andThen_events, List.cons_append, List.nil_append, h]
  unfold PjsuaCallInfo.connectEvents
  split <;> simp [*, PjsuaCallMediaStatus.toCallState, Pjsua.reply, Pjsua.after]

theorem exists_api_of_mem_connectEvents {ci : PjsuaCallInfo} {state : PjsuaState} {e : Event}
    (h : e ∈ ci.connectEvents state) : ∃ c reply, e = .api c state reply := by
  unfold PjsuaCallInfo.connectEvents at h
  split at h
  · rcases List.mem_pair.mp h with rfl | rfl <;> exact ⟨_, _, rfl⟩
  · exact ⟨_, _, List.mem_singleton.mp h⟩
  all_goals exact absurd h List.not_mem_nil

section Events

variable {w : World} (h : w.pjsua.state = .running) (callId : ℕ) (a : Answers) (locals : Locals)
include h

/-- The events of `on_call_state`. -/
theorem events_callState (state : PjsipInvState) :
    (World.step ⟨.callback (.callState callId state), a, locals⟩ w).events =
      [.raised (.callState callId state),
        .api (.callGetInfo callId) .running (.ofInfo (a.callGetInfo callId) (a.callInfo callId)),
        .notified (.call (a.info callId w.vars.ci).state.toCallState)] := by
  rw [step_callback_of_running _ _ _ h, Outcome.andThen_events, Callback.program, run_onCallState,
    raise_state, h]
  rfl

/-- The events of `on_call_media_state`. -/
theorem events_callMediaState :
    (World.step ⟨.callback (.callMediaState callId), a, locals⟩ w).events =
      .raised (.callMediaState callId) ::
        .api (.callGetInfo callId) .running (.ofInfo (a.callGetInfo callId) (a.callInfo callId)) ::
          ((a.info callId w.vars.ci).connectEvents .running ++
            [.notified (.call (a.info callId w.vars.ci).mediaStatus.toCallState)]) := by
  rw [step_callback_of_running _ _ _ h, Outcome.andThen_events, Callback.program,
    run_onCallMediaState_events_eq a ((raise_state _ _).trans h)]
  rfl

end Events

/-! ## Runs of the callbacks for a call -/

/-- A report on a call: one of its two callbacks, with the information pjsua returns in it. -/
inductive Report
  | state (info : PjsuaCallInfo)
  | media (info : PjsuaCallInfo)
  deriving DecidableEq, Repr

namespace Report

def info : Report → PjsuaCallInfo
  | .state info | .media info => info

/-- The callback that reports. -/
def callback (callId : ℕ) : Report → Callback
  | .state info => .callState callId info.state
  | .media _ => .callMediaState callId

/-- The step of a report: its callback, in which the query succeeds. -/
def step (callId : ℕ) (r : Report) : Step :=
  (Act.callback (r.callback callId)).answered { Answers.success with callInfo := fun _ => r.info }

/-- The value that a report is delivered as. -/
def value : Report → CTSoftPhoneCallState
  | .state info => info.state.toCallState
  | .media info => info.mediaStatus.toCallState

/-- The report is that the call is disconnected. -/
def Disconnects : Report → Prop
  | .state info => info.state = .disconnected
  | .media _ => False

/-- The report is that the call is disconnected, or that it has no media. -/
def Ambiguous : Report → Prop
  | .state info => info.state = .disconnected
  | .media info => info.mediaStatus = .none

instance : DecidablePred Ambiguous := fun r => by
  cases r <;> unfold Ambiguous <;> infer_instance

end Report

/-- The call state that an event delivers. -/
def deliveredValue : Event → Option CTSoftPhoneCallState
  | .notified (.call state) => some state
  | _ => none

/-- The call states that a trace delivers, in order. -/
def delivered (es : List Event) : List CTSoftPhoneCallState := es.filterMap deliveredValue

/-- The trace of a run of reports on a call, after a history. -/
def reportTrace (config : CTSoftPhoneConfig) (steps : List Step) (callId : ℕ)
    (run : List Report) : List Event :=
  phone.trace (worldAfter config steps) (run.map (Report.step callId))

/-- The call is disconnected in a trace. -/
def ReachesDisconnected (callId : ℕ) (es : List Event) : Prop :=
  .raised (.callState callId .disconnected) ∈ es

/-- What the run delivers decides whether the call is disconnected: any other run that delivers the
same agrees with it. -/
def TellsDisconnected (config : CTSoftPhoneConfig) (steps : List Step) (callId : ℕ)
    (run : List Report) : Prop :=
  ∀ run', delivered (reportTrace config steps callId run') =
      delivered (reportTrace config steps callId run) →
    (ReachesDisconnected callId (reportTrace config steps callId run') ↔
      ReachesDisconnected callId (reportTrace config steps callId run))

section Runs

variable (callId : ℕ) {w : World}

theorem report_state (r : Report) (h : w.pjsua.state = .running) :
    (World.step (r.step callId) w).state.pjsua.state = .running := by
  rw [Report.step, Act.answered, step_callback_of_running _ _ _ h, Outcome.andThen_state]
  cases r with
  | state info =>
    rw [Report.callback, Callback.program, run_onCallState]
    exact (raise_state _ _).trans h
  | media info =>
    rw [Report.callback, Callback.program,
      run_onCallMediaState_state _ _ ((raise_state _ _).trans h)]
    exact (raise_state _ _).trans h

theorem events_report_state (info : PjsuaCallInfo) (h : w.pjsua.state = .running) :
    (World.step ((Report.state info).step callId) w).events =
      [.raised (.callState callId info.state),
        .api (.callGetInfo callId) .running (.ofInfo pjSuccess info),
        .notified (.call info.state.toCallState)] :=
  events_callState h callId _ _ info.state

theorem events_report_media (info : PjsuaCallInfo) (h : w.pjsua.state = .running) :
    (World.step ((Report.media info).step callId) w).events =
      .raised (.callMediaState callId) ::
        .api (.callGetInfo callId) .running (.ofInfo pjSuccess info) ::
          (info.connectEvents .running ++ [.notified (.call info.mediaStatus.toCallState)]) :=
  events_callMediaState h callId _ _

/-- A report is delivered as its value. -/
theorem delivered_report (r : Report) (h : w.pjsua.state = .running) :
    delivered (World.step (r.step callId) w).events = [r.value] := by
  cases r with
  | state info =>
    rw [events_report_state callId info h]
    rfl
  | media info =>
    have hconnect : (info.connectEvents .running).filterMap deliveredValue = [] := by
      refine List.filterMap_eq_nil_iff.mpr fun e he => ?_
      obtain ⟨c, reply, rfl⟩ := exists_api_of_mem_connectEvents he
      rfl
    rw [events_report_media callId info h, delivered, List.filterMap_cons_none rfl,
      List.filterMap_cons_none rfl, List.filterMap_append, hconnect]
    rfl

theorem reachesDisconnected_report (r : Report) (h : w.pjsua.state = .running) :
    ReachesDisconnected callId (World.step (r.step callId) w).events ↔ r.Disconnects := by
  cases r with
  | state info =>
    rw [events_report_state callId info h]
    simp [ReachesDisconnected, Report.Disconnects, eq_comm]
  | media info =>
    rw [events_report_media callId info h]
    refine iff_of_false (fun hmem => ?_) id
    -- the media callback raises no other one
    have hmem' : Event.raised (.callState callId .disconnected) ∈ info.connectEvents .running := by
      simpa [ReachesDisconnected] using hmem
    obtain ⟨c, reply, he⟩ := exists_api_of_mem_connectEvents hmem'
    cases he

/-- A run of reports leaves the library running; it delivers one value for each report, and the
call is disconnected in it when a report says so. -/
theorem reports_run (run : List Report) (h : w.pjsua.state = .running) :
    (phone.after w (run.map (Report.step callId))).pjsua.state = .running ∧
    delivered (phone.trace w (run.map (Report.step callId))) = run.map Report.value ∧
    (ReachesDisconnected callId (phone.trace w (run.map (Report.step callId))) ↔
      ∃ r ∈ run, r.Disconnects) := by
  induction run using List.reverseRecOn with
  | nil => exact ⟨h, rfl, by simp [ReachesDisconnected]⟩
  | append_singleton run r ih =>
    obtain ⟨hrun, hdelivered, hreaches⟩ := ih
    rw [List.map_append, List.map_singleton, phone.after_snoc, phone.trace_snoc]
    refine ⟨report_state callId r hrun, ?_, ?_⟩
    · rw [delivered, List.filterMap_append, List.map_append]
      exact congrArg₂ _ hdelivered (delivered_report callId r hrun)
    · rw [ReachesDisconnected, List.mem_append]
      refine (or_congr hreaches (reachesDisconnected_report callId r hrun)).trans ?_
      simp [or_and_right, exists_or]

end Runs

section History

variable {config : CTSoftPhoneConfig} {steps : List Step} (h : phaseAfter steps = .up)
  (callId : ℕ) (run : List Report)
include h

/-- **A run delivers** one value for each report. -/
theorem delivered_reports :
    delivered (reportTrace config steps callId run) = run.map Report.value :=
  (reports_run callId run (state_of_up config steps h)).2.1

theorem reachesDisconnected_reports :
    ReachesDisconnected callId (reportTrace config steps callId run) ↔
      ∃ r ∈ run, r.Disconnects :=
  (reports_run callId run (state_of_up config steps h)).2.2

end History

/-! ## Telling runs apart -/

/-- The ambiguous reports are delivered as the one value. -/
theorem value_eq_mediaNone_iff (r : Report) : r.value = .mediaNone ↔ r.Ambiguous := by
  cases r with
  | state info => cases hs : info.state <;> simp [Report.value, Report.Ambiguous, hs,
      PjsipInvState.toCallState]
  | media info => cases hm : info.mediaStatus <;> simp [Report.value, Report.Ambiguous, hm,
      PjsuaCallMediaStatus.toCallState]

theorem Report.Disconnects.ambiguous {r : Report} (h : r.Disconnects) : r.Ambiguous := by
  cases r with
  | state info => exact h
  | media info => exact h.elim

/-- Put another report in the place of every ambiguous one. -/
def replaceAmbiguous (r' r : Report) : Report := if r.Ambiguous then r' else r

theorem map_value_replaceAmbiguous (r' : Report) (h : r'.Ambiguous) (run : List Report) :
    (run.map (replaceAmbiguous r')).map Report.value = run.map Report.value := by
  rw [List.map_map]
  refine List.map_congr_left fun r _ => ?_
  by_cases hr : r.Ambiguous
  · rw [Function.comp_apply, replaceAmbiguous, if_pos hr, (value_eq_mediaNone_iff r').mpr h,
      (value_eq_mediaNone_iff r).mpr hr]
  · rw [Function.comp_apply, replaceAmbiguous, if_neg hr]

/-- After the replacement, the call is disconnected exactly when the new report says so and there
was one to replace. -/
theorem disconnects_replaceAmbiguous (r' : Report) (run : List Report) :
    (∃ r ∈ run.map (replaceAmbiguous r'), r.Disconnects) ↔
      r'.Disconnects ∧ ∃ r ∈ run, r.Ambiguous := by
  constructor
  · rintro ⟨_, hmem, hdisc⟩
    obtain ⟨r, hr, rfl⟩ := List.mem_map.mp hmem
    by_cases hamb : r.Ambiguous
    · rw [replaceAmbiguous, if_pos hamb] at hdisc
      exact ⟨hdisc, r, hr, hamb⟩
    · rw [replaceAmbiguous, if_neg hamb] at hdisc
      exact absurd hdisc.ambiguous hamb
  · rintro ⟨hdisc, r, hr, hamb⟩
    refine ⟨r', List.mem_map.mpr ⟨r, hr, ?_⟩, hdisc⟩
    rw [replaceAmbiguous, if_pos hamb]

/-- **Telling that a call is over**: what a run delivers decides whether the call is disconnected
exactly when the run reports neither a disconnect nor the end of the media. -/
theorem tellsDisconnected_iff (config : CTSoftPhoneConfig) {steps : List Step}
    (h : phaseAfter steps = .up) (callId : ℕ) (run : List Report) :
    TellsDisconnected config steps callId run ↔ ∀ r ∈ run, ¬ r.Ambiguous := by
  simp only [TellsDisconnected, delivered_reports h, reachesDisconnected_reports h]
  constructor
  · intro htells r hr hamb
    -- the same values are delivered with a disconnect there, and with an end of the media
    have hover := htells (run.map (replaceAmbiguous (.state ⟨.disconnected, .none, 0⟩)))
      (map_value_replaceAmbiguous (.state ⟨.disconnected, .none, 0⟩) rfl run)
    have hmedia := htells (run.map (replaceAmbiguous (.media ⟨.confirmed, .none, 0⟩)))
      (map_value_replaceAmbiguous (.media ⟨.confirmed, .none, 0⟩) rfl run)
    rw [disconnects_replaceAmbiguous] at hover hmedia
    exact (hmedia.mpr (hover.mp ⟨rfl, r, hr, hamb⟩)).1
  · intro hnone run' hvalues
    have hnone' : ∀ r ∈ run', ¬ r.Ambiguous := by
      intro r hr hamb
      have hmem : r.value ∈ run.map Report.value := hvalues ▸ List.mem_map_of_mem hr
      obtain ⟨r₀, hr₀, hvalue⟩ := List.mem_map.mp hmem
      rw [(value_eq_mediaNone_iff r).mpr hamb] at hvalue
      exact hnone r₀ hr₀ ((value_eq_mediaNone_iff r₀).mp hvalue)
    refine iff_of_false ?_ ?_
    · rintro ⟨r, hr, hdisc⟩
      exact hnone' r hr hdisc.ambiguous
    · rintro ⟨r, hr, hdisc⟩
      exact hnone r hr hdisc.ambiguous

/-- A call that is answered and gets media is told to be not over. -/
theorem tellsDisconnected_answered :
    TellsDisconnected ⟨5060, .udp⟩ [(Act.op (.registerWithNumber [] [] [])).answered .success] 0
      [.state ⟨.confirmed, .none, 1⟩, .media ⟨.confirmed, .active, 1⟩] :=
  (tellsDisconnected_iff ⟨5060, .udp⟩ (by decide) 0 _).mpr (by decide)

/-- A disconnected call, and a call that has lost its media, are told in the same way. -/
theorem not_tellsDisconnected :
    ¬ ∀ run run' : List Report,
      delivered (reportTrace ⟨5060, .udp⟩
          [(Act.op (.registerWithNumber [] [] [])).answered .success] 0 run) =
        delivered (reportTrace ⟨5060, .udp⟩
          [(Act.op (.registerWithNumber [] [] [])).answered .success] 0 run') →
      (ReachesDisconnected 0 (reportTrace ⟨5060, .udp⟩
          [(Act.op (.registerWithNumber [] [] [])).answered .success] 0 run) ↔
        ReachesDisconnected 0 (reportTrace ⟨5060, .udp⟩
          [(Act.op (.registerWithNumber [] [] [])).answered .success] 0 run')) := by
  intro h
  have hover := h [.state ⟨.disconnected, .none, 1⟩] [.media ⟨.confirmed, .none, 1⟩] (by decide)
  unfold ReachesDisconnected at hover
  exact absurd (hover.mp (by decide)) (by decide)

end CTSoftPhone
