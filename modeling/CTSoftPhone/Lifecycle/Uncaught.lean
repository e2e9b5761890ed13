import CTSoftPhone.Lifecycle.Delegate
import CTSoftPhone.Lifecycle.Registering
import CTSoftPhone.Wrapper.Exceptions

/-!
# A delegate that raises

Every notification is the last thing that a block does inside its handler, so a delegate that raises
interrupts nothing: the phone and the library are at any time what they would be had it returned.
What is left of an exception is that a registration which failed tells so once more. Two exceptions
get past all handlers, and end the application: one that passes through `on_reg_state2`, and one
raised while the failure of a registration is told for the second time.

## Main definitions

* `CTSoftPhoneDelegate.respond`: how the exceptions of a delegate end a step
* `application`: the phone with a delegate that may raise, until an exception leaves it

## Main results

* `exec_step`: a step with a delegate that raises is the step without, and how it ends
* `unharmed`: what exceptions leave unchanged, over histories
* `terminated_iff`: the histories that an exception ends
* `unharmed_of_registration_calm`: a delegate that raises only when it hears of calls
-/

namespace CTSoftPhone

open Raising (Contained Exits)

variable {D : Type}

/-! ## Programs and their handlers -/

section Programs

variable (a : Answers) (delegate : CTSoftPhoneDelegate D)

/-- The events of the command raise nothing. -/
abbrev Cmd.Calm (c : Cmd) : Prop := ∀ w, delegate.listener.Calm (Cmd.handle a c w).events

/-- The program does what the plain one does, and no exception leaves it. -/
abbrev ContainedIn {α : Type} (p : GuardedPhone α) (q : Phone α) : Prop :=
  Contained (Cmd.handle a) delegate.listener p q

/-- The program does what the plain one does, and what is raised at its last event leaves it. -/
abbrev ExitsFrom {α : Type} (p : GuardedPhone α) (q : Phone α) : Prop :=
  Exits (Cmd.handle a) delegate.listener p q

variable {a delegate}

theorem length_events_le_one (c : Cmd) (w : World) : (Cmd.handle a c w).events.length ≤ 1 := by
  cases c <;> simp [Cmd.handle]

theorem calm_vars : vars.Only (Cmd.Calm a delegate) :=
  .call fun _ => by simp [Cmd.handle, Listener.Calm]

theorem calm_activeCalls : activeCalls.Only (Cmd.Calm a delegate) :=
  .call fun _ => by simp [Cmd.handle, Listener.Calm]

theorem calm_assign (f : Vars → Vars) : (assign f).Only (Cmd.Calm a delegate) :=
  .call fun _ => by simp [Cmd.handle, Listener.Calm]

theorem calm_endCall (callId : ℤ) : (endCall callId).Only (Cmd.Calm a delegate) :=
  .call fun _ => by simp [Cmd.handle, Listener.Calm]

/-- No delegate hears what pjsua is asked. -/
theorem calm_api (c : Api) : (api c).Only (Cmd.Calm a delegate) :=
  .call fun _ => by simp [Cmd.handle, Listener.Calm, CTSoftPhoneDelegate.listener]

theorem calm_setStatus (status : PjStatus) : (setStatus status).Only (Cmd.Calm a delegate) :=
  calm_assign _

theorem calm_getCallid : getCallid.Only (Cmd.Calm a delegate) := calm_vars.bind fun _ => .ret _

theorem calm_getInfo (callId : ℤ) : (getInfo callId).Only (Cmd.Calm a delegate) :=
  (calm_api _).bind fun _ => calm_assign _

/-! ### Callbacks -/

theorem contained_attempt_lift {q : Phone Unit} (hq : q.Tail (Cmd.Calm a delegate)) :
    ContainedIn a delegate (Raising.attempt (Raising.lift q)) q :=
  (Exits.lift length_events_le_one hq).attempt

theorem exits_onRegistrationState (state : CTSoftPhoneRegistrationState) :
    ExitsFrom a delegate (Raising.lift (Delegate.onRegistrationState state))
      (Delegate.onRegistrationState state) :=
  Exits.lift length_events_le_one (.call _)

theorem contained_onCallState (callId : ℤ) :
    ContainedIn a delegate (Guarded.onCallState callId) (onCallState callId) :=
  contained_attempt_lift <| .bind (calm_getInfo callId) fun _ => .bind calm_vars fun _ => .call _

/-- Every branch connects and disconnects before it notifies. -/
theorem contained_onCallMediaState (callId : ℤ) :
    ContainedIn a delegate (Guarded.onCallMediaState callId) (onCallMediaState callId) := by
  refine contained_attempt_lift <| .bind (calm_getInfo callId) fun _ => .bind calm_vars fun v => ?_
  dsimp only
  split
  · exact .bind (calm_api _) fun _ => .bind (calm_api _) fun _ => .call _
  · exact .bind (calm_api _) fun _ => .call _
  · exact .call _
  · exact .call _
  · exact .call _

theorem contained_onIncomingCall (callId : ℤ) :
    ContainedIn a delegate (Guarded.onIncomingCall callId) (onIncomingCall callId) :=
  contained_attempt_lift <| .bind (calm_assign _) fun _ => .bind (calm_api _) fun _ => .ret _

/-- Every callback but `on_reg_state2` contains what is raised inside it. -/
theorem contained_callback {cb : Callback} (hcb : ∀ info, cb ≠ .regState2 info) :
    ContainedIn a delegate (Guarded.callback cb) cb.program := by
  cases cb with
  | incomingCall callId => exact contained_onIncomingCall callId
  | callState callId state => exact contained_onCallState callId
  | callMediaState callId => exact contained_onCallMediaState callId
  | regState2 info => exact absurd rfl (hcb info)

theorem exits_onRegState2 (info : PjsipRegcCbparam) :
    ExitsFrom a delegate (Guarded.onRegState2 info) (onRegState2 info) :=
  Exits.lift length_events_le_one <| .ite (.call _) (.call _)

/-! ### Tearing down -/

theorem contained_disconnect (callId : ℤ) :
    ContainedIn a delegate (Guarded.disconnect callId) (disconnect callId) :=
  (Contained.lift (calm_endCall callId)).bind fun _ =>
    .ite (contained_onCallState callId) (.pure ())

theorem contained_pjsuaCallHangup (callId : ℤ) :
    ContainedIn a delegate (Guarded.pjsuaCallHangup callId) (pjsuaCallHangup callId) :=
  (Contained.lift (calm_api _)).bind fun _ => contained_disconnect callId

theorem contained_pjsuaCallHangupAll :
    ContainedIn a delegate Guarded.pjsuaCallHangupAll pjsuaCallHangupAll :=
  (Contained.lift (calm_api _)).bind fun _ => (Contained.lift calm_activeCalls).bind fun callIds =>
    .forM contained_disconnect callIds

theorem contained_ctPjsuaDestroy :
    ContainedIn a delegate Guarded.ctPjsuaDestroy ctPjsuaDestroy := by
  have hdelete : ContainedIn a delegate Guarded.ctPjsuaDeleteAccount ctPjsuaDeleteAccount :=
    (Contained.lift calm_vars).bind fun _ => .ite (.pure ()) <|
      contained_pjsuaCallHangupAll.bind fun _ => (Contained.lift calm_vars).bind fun _ =>
        (Contained.lift (calm_api _)).bind fun _ => .lift (calm_assign _)
  exact hdelete.bind fun _ => (Contained.lift (calm_api _)).bind fun _ => .pure ()

/-! ### Registering -/

theorem exits_registrationFailed :
    ExitsFrom a delegate Guarded.registrationFailed registrationFailed :=
  .contained_bind contained_ctPjsuaDestroy.attempt (fun _ => exits_onRegistrationState _) fun _ _ =>
    .inr (List.cons_ne_nil _ _)

theorem exits_setUp : ExitsFrom a delegate Guarded.setUp setUp := by
  have hfailed : ExitsFrom a delegate
      (Guarded.registrationFailed >>= fun _ => pure false)
      (registrationFailed >>= fun _ => pure false) :=
    exits_registrationFailed.bind (fun _ _ _ => rfl) fun _ => .inr ⟨false, rfl⟩
  exact .lift_bind (calm_assign _) fun _ => .lift_bind (calm_api _) fun _ =>
    .lift_bind (calm_setStatus _) fun _ => .lift_bind calm_vars fun _ => .ite hfailed <|
    .lift_bind (calm_api _) fun _ => .lift_bind (calm_setStatus _) fun _ =>
    .lift_bind calm_vars fun _ => .ite hfailed <|
    .lift_bind calm_vars fun _ => .lift_bind (calm_api _) fun _ =>
    .lift_bind (calm_setStatus _) fun _ => .lift_bind (calm_api _) fun _ =>
    .lift_bind (calm_setStatus _) fun _ => .lift_bind calm_vars fun _ => .ite hfailed fun _ _ => rfl

theorem exits_putAccount (cfg : PjsuaAccConfig) :
    ExitsFrom a delegate (Guarded.putAccount cfg) (putAccount cfg) := by
  have hend : ExitsFrom a delegate
      (do
        if (← Raising.lift vars).status = pjSuccess then return
        Guarded.registrationFailed)
      (do
        if (← vars).status = pjSuccess then return
        registrationFailed) :=
    .lift_bind calm_vars fun _ => .ite (fun _ _ => rfl) exits_registrationFailed
  exact .lift_bind calm_vars fun _ => .ite
    (.lift_bind calm_vars fun _ => .lift_bind (calm_api _) fun _ =>
      .lift_bind (calm_setStatus _) fun _ => hend)
    (.lift_bind (calm_api _) fun _ => .lift_bind (calm_assign _) fun _ => hend)

/-- A set-up that succeeds has called pjsua last. -/
theorem last_setUp (w : World) (h : (setUp.run (Cmd.handle a) w).val = true) (d : D) :
    delegate.listener.last (setUp.run (Cmd.handle a) w).events d = .ok () := by
  by_cases hs : a.SetUpOk
  · rw [run_setUp_of_ok a w hs]
    apply Listener.Calm.last
    simp [World.setUpEvents, Listener.Calm, CTSoftPhoneDelegate.listener]
  · obtain ⟨status, ci, es, hrun, -⟩ := run_setUp_of_failed a w hs
    rw [hrun] at h
    cases h

/-- The block of a registration: after a set-up that fails, nothing is done. -/
theorem exits_registration (number host credentials : NSString) :
    ExitsFrom a delegate (Guarded.registration number host credentials)
      (registerWithNumber number host credentials) := by
  refine .lift_bind calm_vars fun v => .ite
    (.bind exits_setUp (fun ok => .ite (fun _ _ => rfl) ?_) fun w => ?_) ?_
  case refine_2 =>
    cases hok : (setUp.run (Cmd.handle a) w).val with
    | true => exact .inl (last_setUp w hok)
    | false => exact .inr ⟨(), rfl⟩
  -- with or without a set-up, the account comes last
  all_goals
    refine .lift_bind calm_vars fun v => ?_
    rw [accountConfig_eq]
    exact exits_putAccount _

/-- Every operation but a registration contains what is raised inside it. -/
theorem contained_op {o : Op} (ho : ∀ number host credentials,
    o ≠ .registerWithNumber number host credentials) (locals : Locals) :
    ContainedIn a delegate (Guarded.op locals o) (o.program locals) := by
  cases o with
  | registerWithNumber number host credentials => exact absurd rfl (ho number host credentials)
  | handleIpChange transport =>
    have hlast : Prog.Tail (Cmd.Calm a delegate) (do let _ ← api .handleIpChange) :=
      .bind (calm_api _) fun _ => .ret ()
    have hswitch : (switchTransport locals transport).Only (Cmd.Calm a delegate) :=
      (calm_assign _).bind fun _ => calm_vars.bind fun _ => (calm_api _).bind fun _ =>
        (calm_setStatus _).bind fun _ => calm_vars.bind fun _ => (calm_api _).bind fun _ =>
        calm_vars.bind fun _ => (calm_api _).bind fun _ => calm_vars.bind fun _ =>
        (calm_api _).bind fun _ => .ret ()
    exact contained_attempt_lift <| .bind calm_vars fun _ => .ite (.ret ()) <|
      .ite (.bind hswitch fun _ => hlast) hlast
  | destroy =>
    refine Exits.attempt (.contained_bind contained_ctPjsuaDestroy (fun _ => ?_) fun _ _ => ?_)
    · exact .lift_bind (calm_assign _) fun _ => exits_onRegistrationState _
    · exact .inr (List.cons_ne_nil _ _)
  | hangup =>
    exact ((Contained.lift calm_getCallid).bind fun callId =>
      contained_pjsuaCallHangup callId).attempt
  | answercall =>
    exact contained_attempt_lift <| .bind calm_getCallid fun _ =>
      .bind (calm_api _) fun _ => .ret ()
  | mute =>
    exact .lift <| calm_vars.bind fun _ => .ite ((calm_api _).bind fun _ => .ret ()) (.ret ())
  | unmute =>
    exact .lift <| calm_vars.bind fun _ => .ite ((calm_api _).bind fun _ => .ret ()) (.ret ())

end Programs

/-! ## Steps -/

/-- A step of the phone with a delegate that may raise. -/
def Step.exec (delegate : CTSoftPhoneDelegate D) (st : Step) (s : World × D) :
    Outcome (Except NSException Unit) (World × D) Event :=
  match st.act with
  | .op o => Raising.exec (Cmd.handle st.answers) delegate.listener (Guarded.op st.locals o) s
  | .callback cb =>
    if s.1.pjsua.state = .running then
      let o := Raising.exec (Cmd.handle st.answers) delegate.listener (Guarded.callback cb)
        ({ s.1 with pjsua := s.1.pjsua.raise cb }, s.2)
      { o with events := .raised cb :: o.events }
    else ⟨.ok (), s, []⟩

namespace CTSoftPhoneDelegate

variable (delegate : CTSoftPhoneDelegate D)

/-- How a step ends that leaves the events to a delegate: a registration at whose end the delegate
raises tells it once more, and `on_reg_state2` lets the exception pass. -/
def respond (st : Step) (es : List Event) (d : D) :
    Outcome (Except NSException Unit) D Event :=
  match st.act with
  | .op (.registerWithNumber ..) =>
    match delegate.listener.last es d with
    | .ok _ => ⟨.ok (), delegate.listener.after es d, []⟩
    | .error _ =>
      let r := delegate.onRegistrationState .fail (delegate.listener.after es d)
      ⟨r.1, r.2, [.fail]⟩
  | .callback (.regState2 _) => ⟨delegate.listener.last es d, delegate.listener.after es d, []⟩
  | .op _ | .callback _ => ⟨.ok (), delegate.listener.after es d, []⟩

end CTSoftPhoneDelegate

section Steps

variable (delegate : CTSoftPhoneDelegate D) (w : World) (d : D)

theorem map_unit (r : Except NSException Unit) : (r.map fun _ => ()) = r := by
  cases r <;> rfl

theorem exec_onRegistrationState (a : Answers) (state : CTSoftPhoneRegistrationState) :
    Raising.exec (Cmd.handle a) delegate.listener
        (Raising.lift (Delegate.onRegistrationState state)) (w, d) =
      ⟨(delegate.onRegistrationState state d).1, (w, (delegate.onRegistrationState state d).2),
        [.notified (.registration state)]⟩ := by
  rw [exits_onRegistrationState state w d, run_onRegistrationState]
  change (⟨(delegate.onRegistrationState state d).1.map fun _ => (), _, _⟩ : Outcome _ _ Event) = _
  rw [map_unit]
  rfl

theorem exec_registerWithNumber (a : Answers) (locals : Locals)
    (number host credentials : NSString) :
    Raising.exec (Cmd.handle a) delegate.listener
        (Guarded.registerWithNumber number host credentials) (w, d) =
      let o := (registerWithNumber number host credentials).run (Cmd.handle a) w
      let r := delegate.respond ⟨.op (.registerWithNumber number host credentials), a, locals⟩
        o.events d
      ⟨r.val, (o.state, r.state), o.events ++ r.events⟩ := by
  rw [Guarded.registerWithNumber, Raising.exec_tryCatch, exits_registration _ _ _ w d]
  dsimp only [CTSoftPhoneDelegate.respond]
  cases delegate.listener.last
      ((registerWithNumber number host credentials).run (Cmd.handle a) w).events d with
  | ok u => simp [Outcome.andThen, Except.map]
  | error x =>
    simp only [Outcome.andThen, Except.map, exec_onRegistrationState]
    rfl

/-- Every operation but a registration ends as with a delegate that returns. -/
theorem respond_op {o : Op} (ho : ∀ number host credentials,
    o ≠ .registerWithNumber number host credentials) (a : Answers) (locals : Locals)
    (es : List Event) :
    delegate.respond ⟨.op o, a, locals⟩ es d = ⟨.ok (), delegate.listener.after es d, []⟩ := by
  cases o with
  | registerWithNumber number host credentials => exact absurd rfl (ho number host credentials)
  | _ => rfl

/-- So does every callback but `on_reg_state2`. -/
theorem respond_callback {cb : Callback} (hcb : ∀ info, cb ≠ .regState2 info) (a : Answers)
    (locals : Locals) (es : List Event) :
    delegate.respond ⟨.callback cb, a, locals⟩ es d =
      ⟨.ok (), delegate.listener.after es d, []⟩ := by
  cases cb with
  | regState2 info => exact absurd rfl (hcb info)
  | _ => rfl

/-- **A delegate that raises** leaves a step as it is, but for its end. -/
theorem exec_step (st : Step) :
    st.exec delegate (w, d) =
      let o := World.step st w
      let r := delegate.respond st o.events d
      ⟨r.val, (o.state, r.state), o.events ++ r.events⟩ := by
  obtain ⟨act, a, locals⟩ := st
  cases act with
  | op o =>
    by_cases ho : ∃ number host credentials, o = .registerWithNumber number host credentials
    · obtain ⟨number, host, credentials, rfl⟩ := ho
      exact exec_registerWithNumber delegate w d a locals number host credentials
    · have ho' := fun number host credentials he => ho ⟨number, host, credentials, he⟩
      simp only [respond_op delegate d ho', List.append_nil]
      exact contained_op ho' locals w d
  | callback cb =>
    by_cases hrun : w.pjsua.state = .running
    · dsimp only [Step.exec]
      rw [if_pos hrun, step_callback_of_running cb a locals hrun]
      by_cases hcb : ∃ info, cb = .regState2 info
      · obtain ⟨info, rfl⟩ := hcb
        dsimp only [Guarded.callback, Callback.program]
        rw [exits_onRegState2 info]
        simp only [Outcome.andThen, run_onRegState2_eq]
        change (⟨(delegate.onRegistrationState info.toRegistrationState d).1.map fun _ => (),
          _, _⟩ : Outcome _ _ Event) = _
        rw [map_unit]
        rfl
      · have hcb' := fun info he => hcb ⟨info, he⟩
        simp only [respond_callback delegate d hcb', List.append_nil]
        rw [contained_callback hcb' _ d]
        rfl
    · dsimp only [Step.exec]
      rw [if_neg hrun, step_callback_of_not_running cb a locals hrun]
      cases cb <;> rfl

end Steps

/-! ## Histories -/

/-- The phone with a delegate that may raise: it moves by steps until an exception leaves one, which
ends the application. -/
def application (delegate : CTSoftPhoneDelegate D) : Machine (Option (World × D)) Step Event where
  step st
    | none => ⟨(), none, []⟩
    | some s =>
      let o := st.exec delegate s
      ⟨(), o.val.toOption.map fun _ => o.state, o.events⟩

section Histories

variable (delegate : CTSoftPhoneDelegate D) (config : CTSoftPhoneConfig) (d : D)

/-- The phone and its delegate after a history, unless an exception has ended the application. -/
abbrev applicationAfter (steps : List Step) : Option (World × D) :=
  (application delegate).after (some (.initial config, d)) steps

abbrev applicationTrace (steps : List Step) : List Event :=
  (application delegate).trace (some (.initial config, d)) steps

variable {delegate config d}

theorem applicationAfter_snoc {steps : List Step} {w : World} {d' : D}
    (h : applicationAfter delegate config d steps = some (w, d')) (st : Step) :
    applicationAfter delegate config d (steps ++ [st]) =
        (delegate.respond st (World.step st w).events d').val.toOption.map
          (fun _ => ((World.step st w).state,
            (delegate.respond st (World.step st w).events d').state)) ∧
      applicationTrace delegate config d (steps ++ [st]) =
        applicationTrace delegate config d steps ++
          ((World.step st w).events ++
            (delegate.respond st (World.step st w).events d').events) := by
  rw [applicationAfter] at h
  rw [applicationAfter, applicationTrace, Machine.after_snoc, Machine.trace_snoc, h]
  dsimp only [application]
  rw [exec_step]
  exact ⟨rfl, rfl⟩

/-- An application that has ended does nothing. -/
theorem after_none (steps : List Step) : (application delegate).after none steps = none := by
  induction steps with
  | nil => rfl
  | cons st steps ih => exact ih

theorem applicationAfter_snoc_of_none {steps : List Step}
    (h : applicationAfter delegate config d steps = none) (st : Step) :
    applicationAfter delegate config d (steps ++ [st]) = none := by
  rw [applicationAfter] at h
  rw [applicationAfter, Machine.after_snoc, h]
  rfl

/-- Nothing is raised at the end of a registration that succeeds. -/
theorem last_of_registerOk {w : World} {p : Phase} (h : w.session.In p) {a : Answers}
    (hok : p.RegisterOk a) (number host credentials : NSString) (d : D) :
    delegate.listener.last
      ((registerWithNumber number host credentials).run (Cmd.handle a) w).events d = .ok () := by
  have hput : ∀ (cfg : PjsuaAccConfig) (w : World), ∀ d,
      (delegate.listener.hear (w.putEvent a cfg) d).1 = .ok () := by
    intro cfg w d
    unfold World.putEvent
    split <;> rfl
  cases p with
  | down =>
    rw [run_registerWithNumber_of_setUp a w number host credentials h.1 hok.1
      ((h.2.putOk_running_iff a).mpr hok.2),
      Listener.last_append_of_ne_nil _ (List.cons_ne_nil _ _)]
    exact hput _ _ _
  | up =>
    rw [run_registerWithNumber_of_initialized a w number host credentials h.1,
      run_putAccount_of_ok a w _ ((h.2.putOk_iff a).mpr hok)]
    exact hput _ _ _
  | stale => exact hok.elim

/-- Only the failure of a registration, which is told last, is told again. -/
theorem repeats_respond {w : World} {p : Phase} (h : w.session.In p) (st : Step) (d : D) :
    Repeats (fun e => e = .fail) (World.step st w).events
      ((World.step st w).events ++ (delegate.respond st (World.step st w).events d).events) := by
  obtain ⟨act, a, locals⟩ := st
  have hnot : ∀ {es : List Event}, es = [] → Repeats (fun e => e = .fail)
      (World.step ⟨act, a, locals⟩ w).events ((World.step ⟨act, a, locals⟩ w).events ++ es) := by
    rintro _ rfl
    rw [List.append_nil]
    exact .refl _
  cases act with
  | op o =>
    cases o with
    | registerWithNumber number host credentials =>
      rw [step_op, Op.program] at hnot ⊢
      by_cases hok : p.RegisterOk a
      · apply hnot
        dsimp only [CTSoftPhoneDelegate.respond]
        rw [last_of_registerOk h hok]
      · obtain ⟨es, hes, -⟩ := registerWithNumber_failed number host credentials h hok
        rw [hes] at hnot ⊢
        dsimp only [CTSoftPhoneDelegate.respond] at hnot ⊢
        -- the handler tells of the failure again when the delegate has raised at the first time
        split
        · exact hnot rfl
        · exact Repeats.snoc (P := fun e => e = Event.fail) rfl es
    | _ => exact hnot rfl
  | callback cb => cases cb <;> exact hnot rfl

/-- As long as the application has not ended, the phone and the library are what they are with a
delegate that returns. -/
theorem eq_worldAfter_of_applicationAfter {steps : List Step} {w : World} {d' : D}
    (h : applicationAfter delegate config d steps = some (w, d')) :
    w = worldAfter config steps := by
  induction steps using List.reverseRecOn generalizing w d' with
  | nil =>
    obtain ⟨rfl, rfl⟩ := Prod.mk.inj (Option.some.inj h)
    rfl
  | append_singleton steps st ih =>
    cases hbefore : applicationAfter delegate config d steps with
    | none =>
      rw [applicationAfter_snoc_of_none hbefore] at h
      cases h
    | some s =>
      obtain ⟨w₀, d₀⟩ := s
      obtain rfl := ih hbefore
      rw [(applicationAfter_snoc hbefore st).1] at h
      obtain ⟨u, -, hs⟩ := Option.map_eq_some_iff.mp h
      obtain ⟨rfl, -⟩ := Prod.mk.inj hs
      exact (phone.after_snoc _ steps st).symm

/-- **Exceptions harm nothing**: as long as the application has not ended, the phone and the library
are what they are with a delegate that returns, and the same has happened, except that a failure
may be told twice in a row where it is told once. -/
theorem unharmed {steps : List Step} {w : World} {d' : D}
    (h : applicationAfter delegate config d steps = some (w, d')) :
    w = worldAfter config steps ∧
      Repeats (fun e => e = .fail) (traceOf config steps)
        (applicationTrace delegate config d steps) := by
  refine ⟨eq_worldAfter_of_applicationAfter h, ?_⟩
  induction steps using List.reverseRecOn generalizing w d' with
  | nil => exact .nil
  | append_singleton steps st ih =>
    cases hbefore : applicationAfter delegate config d steps with
    | none =>
      rw [applicationAfter_snoc_of_none hbefore] at h
      cases h
    | some s =>
      obtain ⟨w₀, d₀⟩ := s
      obtain rfl := eq_worldAfter_of_applicationAfter hbefore
      rw [traceOf, phone.trace_snoc, (applicationAfter_snoc hbefore st).2]
      exact (ih hbefore).append (repeats_respond (in_phaseAfter config steps) st d₀)

/-- A delegate that raises on hearing of any call, and on hearing of a registration for the first
time. -/
def raisingDelegate : CTSoftPhoneDelegate Bool where
  onRegistrationState _ told := (if told then .ok () else .error .range, true)
  onCallState _ told := (.error .range, told)

/-- A registration that fails is told twice. -/
theorem unharmed_raisingDelegate :
    Repeats (fun e => e = .fail)
      (traceOf ⟨5060, .udp⟩
        [(Act.op (.registerWithNumber [] [] [])).answered { Answers.success with create := 1 }])
      (applicationTrace raisingDelegate ⟨5060, .udp⟩ false
        [(Act.op (.registerWithNumber [] [] [])).answered
          { Answers.success with create := 1 }]) :=
  (unharmed (show applicationAfter raisingDelegate _ false _ = some (_, true) from rfl)).2

/-! ## The exceptions that leave the phone -/

variable (delegate) in
/-- Told twice in a row of a failed registration, the delegate raises both times. -/
def RaisesTwice (d : D) : Prop :=
  ∃ x y, (delegate.onRegistrationState .fail d).1 = .error x ∧
    (delegate.onRegistrationState .fail (delegate.onRegistrationState .fail d).2).1 = .error y

variable (delegate config) in
/-- An exception leaves the step after a history: a registration fails and the delegate, which hears
so last, raises twice; or `on_reg_state2` is called by a running library and the delegate raises. -/
def Escapes (steps : List Step) (d : D) (st : Step) : Prop :=
  match st.act with
  | .op (.registerWithNumber ..) =>
    ¬ (phaseAfter steps).RegisterOk st.answers ∧
      RaisesTwice delegate (delegate.listener.after
        (World.step st (worldAfter config steps)).events.dropLast d)
  | .callback (.regState2 info) =>
    phaseAfter steps = .up ∧
      ∃ x, (delegate.onRegistrationState info.toRegistrationState d).1 = .error x
  | .op _ | .callback _ => False

/-- An exception leaves a registration that has failed when the delegate, which the handler tells of
the failure once more, raises twice. -/
theorem respond_failed_ne_ok_iff (number host credentials : NSString) (a : Answers)
    (locals : Locals) (es : List Event) (d : D) :
    (delegate.respond ⟨.op (.registerWithNumber number host credentials), a, locals⟩
        (es ++ [.notified (.registration .fail)]) d).val ≠ .ok () ↔
      RaisesTwice delegate (delegate.listener.after es d) := by
  dsimp only [CTSoftPhoneDelegate.respond]
  rw [Listener.last_append_of_ne_nil _ (List.cons_ne_nil _ _), Listener.after_append]
  generalize delegate.listener.after es d = d₁
  cases hfirst : delegate.listener.last [.notified (.registration .fail)] d₁ with
  | ok u =>
    refine iff_of_false (fun hne => hne rfl) ?_
    rintro ⟨x, y, hx, -⟩
    cases hfirst.symm.trans hx
  | error x =>
    change (delegate.onRegistrationState .fail (delegate.onRegistrationState .fail d₁).2).1 ≠
      .ok () ↔ _
    cases hsecond : (delegate.onRegistrationState .fail
        (delegate.onRegistrationState .fail d₁).2).1 with
    | ok u =>
      refine iff_of_false (fun hne => hne rfl) ?_
      rintro ⟨x, y, -, hy⟩
      cases hsecond.symm.trans hy
    | error y => exact iff_of_true (by simp) ⟨x, y, hfirst, hsecond⟩

/-- **An exception leaves a step** exactly under its condition. -/
theorem respond_ne_ok_iff (steps : List Step) (d : D) (st : Step) :
    (delegate.respond st (World.step st (worldAfter config steps)).events d).val ≠ .ok () ↔
      Escapes delegate config steps d st := by
  have hin := in_phaseAfter config steps
  obtain ⟨act, a, locals⟩ := st
  cases act with
  | op o =>
    cases o with
    | registerWithNumber number host credentials =>
      dsimp only [Escapes]
      rw [step_op]
      dsimp only [Op.program]
      by_cases hok : (phaseAfter steps).RegisterOk a
      · dsimp only [CTSoftPhoneDelegate.respond]
        rw [last_of_registerOk hin hok]
        simp [hok]
      · obtain ⟨es, hes, -⟩ := registerWithNumber_failed number host credentials hin hok
        rw [hes, List.dropLast_concat, and_iff_right hok]
        exact respond_failed_ne_ok_iff number host credentials a locals es d
    | _ => simp [CTSoftPhoneDelegate.respond, Escapes]
  | callback cb =>
    cases cb with
    | regState2 info =>
      by_cases hup : phaseAfter steps = .up
      · rw [step_callback_of_running _ a locals (state_of_up config steps hup),
          Outcome.andThen_events, Callback.program, run_onRegState2_eq]
        change (delegate.onRegistrationState info.toRegistrationState d).1 ≠ .ok () ↔ _ ∧ _
        rw [and_iff_right hup]
        cases (delegate.onRegistrationState info.toRegistrationState d).1 <;> simp
      · have hrun := (state_eq_running_iff config steps).not.mpr hup
        rw [step_callback_of_not_running _ a locals hrun]
        exact iff_of_false (fun hne => hne rfl) fun hx => hup hx.1
    | _ => simp [CTSoftPhoneDelegate.respond, Escapes]

/-- **Termination**: the application has ended exactly when an exception has left some step. -/
theorem terminated_iff (steps : List Step) :
    applicationAfter delegate config d steps = none ↔
      ∃ js st ks d', steps = js ++ st :: ks ∧
        applicationAfter delegate config d js = some (worldAfter config js, d') ∧
        Escapes delegate config js d' st := by
  constructor
  · intro h
    induction steps using List.reverseRecOn with
    | nil => cases h
    | append_singleton steps st ih =>
      cases hbefore : applicationAfter delegate config d steps with
      | none =>
        obtain ⟨js, st', ks, d', rfl, hjs, hst'⟩ := ih hbefore
        exact ⟨js, st', ks ++ [st], d', by simp, hjs, hst'⟩
      | some s =>
        obtain ⟨w, d'⟩ := s
        obtain rfl := eq_worldAfter_of_applicationAfter hbefore
        rw [(applicationAfter_snoc hbefore st).1, Option.map_eq_none_iff] at h
        refine ⟨steps, st, [], d', rfl, hbefore, (respond_ne_ok_iff steps d' st).mp fun hok => ?_⟩
        rw [hok] at h
        cases h
  · rintro ⟨js, st, ks, d', rfl, hjs, hst⟩
    have hnone : applicationAfter delegate config d (js ++ [st]) = none := by
      have hne := (respond_ne_ok_iff js d' st).mpr hst
      rw [(applicationAfter_snoc hjs st).1, Option.map_eq_none_iff]
      cases hval : (delegate.respond st (World.step st (worldAfter config js)).events d').val with
      | ok u => exact absurd hval hne
      | error x => rfl
    rw [← List.singleton_append, ← List.append_assoc, applicationAfter, Machine.after_append]
    rw [applicationAfter] at hnone
    rw [hnone, after_none]

/-- A delegate that raises only on hearing of calls raises nothing at the end of a registration. -/
theorem last_registerWithNumber_of_calm
    (h : ∀ state d, (delegate.onRegistrationState state d).1 = .ok ()) {w : World} {p : Phase}
    (hin : w.session.In p) (a : Answers) (number host credentials : NSString) (d : D) :
    delegate.listener.last
      ((registerWithNumber number host credentials).run (Cmd.handle a) w).events d = .ok () := by
  by_cases hok : p.RegisterOk a
  · exact last_of_registerOk hin hok number host credentials d
  · obtain ⟨es, hes, -⟩ := registerWithNumber_failed number host credentials hin hok
    rw [hes, Listener.last_append_of_ne_nil _ (List.cons_ne_nil _ _)]
    exact h .fail _

/-- A step at whose end nothing is raised ends as it does with a delegate that returns. -/
theorem respond_of_last {es : List Event} {d : D} (h : delegate.listener.last es d = .ok ())
    (st : Step) : delegate.respond st es d = ⟨.ok (), delegate.listener.after es d, []⟩ := by
  unfold CTSoftPhoneDelegate.respond
  split
  · rw [h]
  · rw [h]
  · rfl
  · rfl

variable (config) in
/-- With a delegate that raises only on hearing of calls, every step ends as with one that
returns. -/
theorem respond_of_registration_calm
    (h : ∀ state d, (delegate.onRegistrationState state d).1 = .ok ()) (steps : List Step) (d : D)
    (st : Step) :
    delegate.respond st (World.step st (worldAfter config steps)).events d =
      ⟨.ok (), delegate.listener.after (World.step st (worldAfter config steps)).events d, []⟩ := by
  obtain ⟨act, a, locals⟩ := st
  cases act with
  | op o =>
    cases o with
    | registerWithNumber number host credentials =>
      exact respond_of_last (last_registerWithNumber_of_calm h (in_phaseAfter config steps) a
        number host credentials d) _
    | _ => rfl
  | callback cb =>
    cases cb with
    | regState2 info =>
      apply respond_of_last
      by_cases hrun : (worldAfter config steps).pjsua.state = .running
      · rw [step_callback_of_running _ a locals hrun, Outcome.andThen_events, Callback.program,
          run_onRegState2_eq]
        exact h _ _
      · rw [step_callback_of_not_running _ a locals hrun]
        rfl
    | _ => rfl

/-- **Exceptions about calls** never show: when the delegate raises only on hearing of calls, the
application never ends, and everything is and happens as if it returned. -/
theorem unharmed_of_registration_calm
    (h : ∀ state d, (delegate.onRegistrationState state d).1 = .ok ()) (steps : List Step) :
    ∃ d', applicationAfter delegate config d steps = some (worldAfter config steps, d') ∧
      applicationTrace delegate config d steps = traceOf config steps := by
  induction steps using List.reverseRecOn with
  | nil => exact ⟨d, rfl, rfl⟩
  | append_singleton steps st ih =>
    obtain ⟨d', hafter, htrace⟩ := ih
    obtain ⟨hafter', htrace'⟩ := applicationAfter_snoc hafter st
    rw [respond_of_registration_calm config h steps d' st] at hafter' htrace'
    refine ⟨delegate.listener.after (World.step st (worldAfter config steps)).events d', ?_, ?_⟩
    · rw [hafter', show worldAfter config (steps ++ [st]) = _ from phone.after_snoc _ steps st]
      rfl
    · rw [htrace', htrace, List.append_nil]
      exact (phone.trace_snoc _ steps st).symm

/-- A delegate that raises on hearing of any call, during a call. -/
theorem unharmed_call :
    ∃ d', applicationAfter (D := Unit) ⟨fun _ d => (.ok (), d), fun _ d => (.error .range, d)⟩
        ⟨5060, .udp⟩ () [(Act.op (.registerWithNumber [] [] [])).answered .success,
          (Act.callback (.incomingCall 0)).answered .success,
          (Act.op .hangup).answered .success] =
        some (worldAfter ⟨5060, .udp⟩ [(Act.op (.registerWithNumber [] [] [])).answered .success,
          (Act.callback (.incomingCall 0)).answered .success,
          (Act.op .hangup).answered .success], d') ∧
      applicationTrace (D := Unit) ⟨fun _ d => (.ok (), d), fun _ d => (.error .range, d)⟩
        ⟨5060, .udp⟩ () [(Act.op (.registerWithNumber [] [] [])).answered .success,
          (Act.callback (.incomingCall 0)).answered .success,
          (Act.op .hangup).answered .success] =
        traceOf ⟨5060, .udp⟩ [(Act.op (.registerWithNumber [] [] [])).answered .success,
          (Act.callback (.incomingCall 0)).answered .success,
          (Act.op .hangup).answered .success] :=
  unharmed_of_registration_calm (fun _ _ => rfl) _

end Histories

end CTSoftPhone
