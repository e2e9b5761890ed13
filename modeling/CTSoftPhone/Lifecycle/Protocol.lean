import CTSoftPhone.Session.Phase

/-!
# The protocol of the library

Only the functions that set the library up or take it down may be called while it is not
initialised. A registration keeps to this unless it is made in the stale phase; `handleIpChange`,
`destroy` and the callbacks always do; the other operations have no guard that knows the state of
the library.

## Main definitions

* `Event.Permitted`: a call allowed in the state of the library it is made in
* `ProtocolSafe`: all calls of a history are allowed
* `KeepsProtocol`: the condition on a step, given the history so far

## Main results

* `registerWithNumber_failed`: the run of a registration that fails
* `permitted_step_iff`: a step keeps the protocol exactly under its condition
* `protocolSafe_iff`: the histories that keep the protocol
-/

namespace CTSoftPhone

/-- The functions that need an initialised library: all but those of its life cycle. -/
def Api.Guarded : Api → Prop
  | .create | .init | .start | .destroy => False
  | .transportCreate .. | .accAdd _ | .accModify .. | .accDel _ | .accGetConfig _
  | .accSetTransport .. | .handleIpChange | .callAnswer _ | .callHangup _ | .callHangupAll
  | .callGetInfo _ | .confConnect .. | .confDisconnect .. => True

instance : DecidablePred Api.Guarded := fun c => by
  cases c <;> unfold Api.Guarded <;> infer_instance

/-- A call made in a state of the library that allows it. -/
def Event.Permitted : Event → Prop
  | .api c state _ => c.Guarded → state.Initialised
  | .raised _ | .notified _ => True

instance : DecidablePred Event.Permitted
  | .api c state _ => instDecidableForall (p := c.Guarded) (q := state.Initialised)
  | .raised _ | .notified _ => .isTrue trivial

/-- Every call of the history is made in a state of the library that allows it. -/
def ProtocolSafe (config : CTSoftPhoneConfig) (steps : List Step) : Prop :=
  ∀ e ∈ traceOf config steps, e.Permitted

instance (config : CTSoftPhoneConfig) (steps : List Step) :
    Decidable (ProtocolSafe config steps) := by
  unfold ProtocolSafe; infer_instance

namespace Event

/-- The delegate is told the state of a registration. -/
def OfRegistration : Event → Prop
  | .notified (.registration _) => True
  | _ => False

variable {state : PjsuaState} {accId : ℤ} {e : Event}

theorem OfEndedCall.permitted (he : e.OfEndedCall state) (h : state.Initialised) : e.Permitted := by
  unfold OfEndedCall at he
  split at he
  · intro _
    exact he ▸ h
  · trivial
  · exact he.elim

theorem OfTeardown.permitted (he : e.OfTeardown state accId) (h : 0 ≤ accId → state.Initialised) :
    e.Permitted := by
  unfold OfTeardown at he
  split at he
  · exact False.elim
  · intro _
    exact he.1 ▸ h he.2
  · intro _
    exact he.1 ▸ h he.2
  · intro _
    exact he.1 ▸ h he.2
  · trivial
  · exact he.elim

theorem OfTeardown.not_ofRegistration (he : e.OfTeardown state accId) : ¬ e.OfRegistration := by
  unfold OfTeardown at he
  split at he
  · exact id
  · exact id
  · exact id
  · exact id
  · exact id
  · exact he.elim

theorem OfFailure.permitted (he : e.OfFailure accId) (h : accId < 0) : e.Permitted := by
  unfold OfFailure at he
  split at he
  · exact False.elim
  · exact False.elim
  · exact False.elim
  · intro _
    exact he
  · exact he.choose_spec.permitted fun hpos => absurd hpos (Int.not_le.mpr h)

theorem OfFailure.not_ofRegistration (he : e.OfFailure accId) : ¬ e.OfRegistration := by
  unfold OfFailure at he
  split at he
  · exact id
  · exact id
  · exact id
  · exact id
  · exact he.choose_spec.not_ofRegistration

end Event

/-! ## Registrations -/

section Register

variable {a : Answers} {w : World} (number host credentials : NSString)

theorem setUpEvents_permitted : ∀ e ∈ w.setUpEvents a, e.Permitted := by
  simp [World.setUpEvents, Event.Permitted, Api.Guarded, PjsuaState.Initialised]

theorem setUpEvents_not_ofRegistration : ∀ e ∈ w.setUpEvents a, ¬ e.OfRegistration := by
  simp [World.setUpEvents, Event.OfRegistration]

theorem putEvent_permitted (cfg : PjsuaAccConfig) (h : w.pjsua.state.Initialised) :
    (w.putEvent a cfg).Permitted := by
  unfold World.putEvent
  split <;> exact fun _ => h

theorem putEvent_not_ofRegistration (cfg : PjsuaAccConfig) :
    ¬ (w.putEvent a cfg).OfRegistration := by
  unfold World.putEvent
  split <;> exact id

/-- A first registration that fails sets up in order, or tears down what it has set up. -/
theorem registerWithNumber_failed_of_down (h : w.session.In .down)
    (hok : ¬ Phase.RegisterOk a .down) :
    ∃ es, ((registerWithNumber number host credentials).run (Cmd.handle a) w).events =
      es ++ [.notified (.registration .fail)] ∧
      ∀ e ∈ es, ¬ e.OfRegistration ∧ e.Permitted := by
  have hacc : w.vars.accId < 0 := h.2.accId_neg
  rw [run_registerWithNumber_of_not_initialized a w number host credentials h.1]
  by_cases hs : a.SetUpOk
  · -- the set-up succeeds, so it is the account that fails, in a running library
    have hput : ¬ PutOk a (w.setUp a).pjsua.state (w.setUp a).vars.accId := by
      intro hput
      exact hok ⟨hs, (h.2.putOk_running_iff a).mp hput⟩
    obtain ⟨status, ci, es, hrun, hes⟩ := run_putAccount_of_failed a (w.setUp a)
      (requestedConfig number host credentials w.vars.config) hput
    refine ⟨w.setUpEvents a ++ (w.setUp a).putEvent a
      (requestedConfig number host credentials w.vars.config) :: es, ?_, ?_⟩
    · rw [run_setUp_of_ok a w hs]
      simp [hrun]
    · intro e he
      rcases List.mem_append.mp he with he | he
      · exact ⟨setUpEvents_not_ofRegistration e he, setUpEvents_permitted e he⟩
      · rcases List.mem_cons.mp he with rfl | he
        · exact ⟨putEvent_not_ofRegistration _, putEvent_permitted _ trivial⟩
        · exact ⟨(hes e he).not_ofRegistration, (hes e he).permitted fun _ => trivial⟩
  · obtain ⟨status, ci, es, hrun, hes⟩ := run_setUp_of_failed a w hs
    refine ⟨es, by simp [hrun], fun e he => ?_⟩
    exact ⟨(hes e he).not_ofRegistration, (hes e he).permitted hacc⟩

/-- A registration of a phone that is set up puts its account, and that is the only call that may
not be allowed. -/
theorem registerWithNumber_failed_of_initialized (h : w.vars.pjsuaInitialized = true)
    (hput : ¬ PutOk a w.pjsua.state w.vars.accId)
    (hstate : 0 ≤ w.vars.accId → w.pjsua.state.Initialised) :
    ∃ es, ((registerWithNumber number host credentials).run (Cmd.handle a) w).events =
      w.putEvent a (requestedConfig number host credentials w.vars.config) :: es ++
        [.notified (.registration .fail)] ∧
      ∀ e ∈ es, ¬ e.OfRegistration ∧ e.Permitted := by
  obtain ⟨status, ci, es, hrun, hes⟩ := run_putAccount_of_failed a w
    (requestedConfig number host credentials w.vars.config) hput
  rw [run_registerWithNumber_of_initialized a w number host credentials h]
  refine ⟨es, by rw [hrun], fun e he => ?_⟩
  exact ⟨(hes e he).not_ofRegistration, (hes e he).permitted hstate⟩

/-- A registration that fails tells the delegate so at its end, and not before; its calls are
allowed, unless it is made in the stale phase. -/
theorem registerWithNumber_failed {p : Phase} (h : w.session.In p) (hok : ¬ p.RegisterOk a) :
    ∃ es, ((registerWithNumber number host credentials).run (Cmd.handle a) w).events =
      es ++ [.notified (.registration .fail)] ∧
      ∀ e ∈ es, ¬ e.OfRegistration ∧ (p ≠ .stale → e.Permitted) := by
  cases p with
  | down =>
    obtain ⟨es, hrun, hes⟩ := registerWithNumber_failed_of_down number host credentials h hok
    exact ⟨es, hrun, fun e he => ⟨(hes e he).1, fun _ => (hes e he).2⟩⟩
  | up =>
    have hstate : w.pjsua.state = .running := h.2.state_eq
    have hinit : w.pjsua.state.Initialised := hstate ▸ trivial
    have hput := (h.2.putOk_iff a).not.mpr hok
    obtain ⟨es, hrun, hes⟩ := registerWithNumber_failed_of_initialized number host credentials h.1
      hput fun _ => hinit
    refine ⟨_, hrun, fun e he => ?_⟩
    rcases List.mem_cons.mp he with rfl | he
    · exact ⟨putEvent_not_ofRegistration _, fun _ => putEvent_permitted _ hinit⟩
    · exact ⟨(hes e he).1, fun _ => (hes e he).2⟩
  | stale =>
    have hacc : w.vars.accId < 0 := h.2.accId_neg
    obtain ⟨es, hrun, hes⟩ := registerWithNumber_failed_of_initialized number host credentials h.1
      (h.2.not_putOk a) fun hpos => absurd hpos (Int.not_le.mpr hacc)
    refine ⟨_, hrun, fun e he => ?_⟩
    rcases List.mem_cons.mp he with rfl | he
    · exact ⟨putEvent_not_ofRegistration _, fun hp => absurd rfl hp⟩
    · exact ⟨(hes e he).1, fun _ => (hes e he).2⟩

/-- A registration made in the stale phase adds an account to a library that is down. -/
theorem registerWithNumber_not_permitted (h : w.session.In .stale) :
    ¬ ∀ e ∈ ((registerWithNumber number host credentials).run (Cmd.handle a) w).events,
      e.Permitted := by
  have hacc : ¬ 0 ≤ w.vars.accId := Int.not_le.mpr h.2.accId_neg
  have hstate : w.pjsua.state = .null := h.2.state_eq
  obtain ⟨es, hrun, -⟩ := registerWithNumber_failed_of_initialized number host credentials h.1
    (h.2.not_putOk a) fun hpos => absurd hpos hacc
  rw [hrun]
  intro hall
  have hperm := hall _ List.mem_cons_self
  simp [World.putEvent, hacc, hstate, Event.Permitted, Api.Guarded, PjsuaState.Initialised] at hperm

/-- A registration that succeeds makes allowed calls only. -/
theorem registerWithNumber_permitted_of_ok {p : Phase} (h : w.session.In p)
    (hok : p.RegisterOk a) :
    ∀ e ∈ ((registerWithNumber number host credentials).run (Cmd.handle a) w).events,
      e.Permitted := by
  cases p with
  | down =>
    rw [run_registerWithNumber_of_setUp a w number host credentials h.1 hok.1
      ((h.2.putOk_running_iff a).mpr hok.2)]
    refine List.forall_mem_append.mpr ⟨setUpEvents_permitted, ?_⟩
    simpa using putEvent_permitted (w := w.setUp a) _ trivial
  | up =>
    have hstate : w.pjsua.state = .running := h.2.state_eq
    rw [run_registerWithNumber_of_initialized a w number host credentials h.1,
      run_putAccount_of_ok a w _ ((h.2.putOk_iff a).mpr hok)]
    simpa using putEvent_permitted _ (hstate ▸ trivial)
  | stale => exact hok.elim

theorem registerWithNumber_permitted_iff {p : Phase} (h : w.session.In p) :
    (∀ e ∈ ((registerWithNumber number host credentials).run (Cmd.handle a) w).events,
      e.Permitted) ↔ p ≠ .stale := by
  constructor
  · rintro hall rfl
    exact registerWithNumber_not_permitted number host credentials h hall
  · intro hp
    by_cases hok : p.RegisterOk a
    · exact registerWithNumber_permitted_of_ok number host credentials h hok
    · obtain ⟨es, hes, hperm⟩ := registerWithNumber_failed number host credentials h hok
      rw [hes]
      refine List.forall_mem_append.mpr ⟨fun e he => (hperm e he).2 hp, ?_⟩
      simp [Event.Permitted]

end Register

/-! ## The other operations -/

section Operations

variable (a : Answers) (w : World)

theorem hangup_permitted_iff :
    (∀ e ∈ (hangup.run (Cmd.handle a) w).events, e.Permitted) ↔ w.pjsua.state.Initialised := by
  constructor
  · intro hall
    rw [run_hangup] at hall
    exact hall _ List.mem_cons_self trivial
  · intro h
    rw [run_hangup, Outcome.andThen_events]
    refine List.forall_mem_append.mpr ⟨by simp [Event.Permitted, h], fun e he => ?_⟩
    exact (run_disconnect_events a w w.vars.callId e he).permitted h

theorem answercall_permitted_iff :
    (∀ e ∈ (answercall.run (Cmd.handle a) w).events, e.Permitted) ↔
      w.pjsua.state.Initialised := by
  simp [run_answercall, Event.Permitted, Api.Guarded]

theorem mute_permitted_iff :
    (∀ e ∈ (mute.run (Cmd.handle a) w).events, e.Permitted) ↔
      w.pjsua.state.Initialised ∨ ¬ w.vars.ci.HasSlot := by
  rw [run_mute]
  by_cases h : w.vars.ci.HasSlot <;> simp [Event.Permitted, Api.Guarded, h]

theorem unmute_permitted_iff :
    (∀ e ∈ (unmute.run (Cmd.handle a) w).events, e.Permitted) ↔
      w.pjsua.state.Initialised ∨ ¬ w.vars.ci.HasSlot := by
  rw [run_unmute]
  by_cases h : w.vars.ci.HasSlot <;> simp [Event.Permitted, Api.Guarded, h]

theorem destroy_permitted (h : 0 ≤ w.vars.accId → w.pjsua.state.Initialised) :
    ∀ e ∈ (destroy.run (Cmd.handle a) w).events, e.Permitted := by
  obtain ⟨ci, -, hes⟩ := run_ctPjsuaDestroy a w
  simp only [destroy, Prog.bind_def, Prog.run_bind, Outcome.andThen_events, run_assign,
    run_onRegistrationState, List.nil_append]
  refine List.forall_mem_append.mpr ⟨fun e he => (hes e he).permitted h, ?_⟩
  simp [Event.Permitted]

theorem handleIpChange_permitted (locals : Locals) (transport : CTSoftPhoneTransportType)
    (h : 0 ≤ w.vars.accId → w.pjsua.state.Initialised) :
    ∀ e ∈ ((handleIpChange locals transport).run (Cmd.handle a) w).events, e.Permitted := by
  by_cases hs : w.session.Switches transport
  · rw [run_handleIpChange_of_switch a w locals transport hs]
    have hi := h hs.2.1
    simp [Session.switchEvents, Event.Permitted, World.session, hi]
  · rw [run_handleIpChange_of_not_switch a w locals transport hs]
    by_cases hpos : 0 ≤ w.vars.callId ∧ 0 ≤ w.vars.accId
    · simp [hpos, Event.Permitted, h hpos.2]
    · simp [hpos]

theorem callback_permitted (cb : Callback) (h : w.pjsua.state.Initialised) :
    ∀ e ∈ (cb.program.run (Cmd.handle a) w).events, e.Permitted := by
  cases cb with
  | incomingCall callId =>
    simp [Callback.program, onIncomingCall, setCallid, Event.Permitted, h]
  | callState callId state =>
    rw [Callback.program, run_onCallState]
    simp [Event.Permitted, h]
  | callMediaState callId =>
    simp only [Callback.program, onCallMediaState, Prog.bind_def, Prog.run_bind, run_getInfo,
      run_vars, Outcome.andThen]
    split <;> simp [Event.Permitted, h, Pjsua.after_confConnect]
  | regState2 info =>
    simp only [Callback.program, onRegState2, Prog.run_ite]
    split <;> simp [Event.Permitted]

end Operations

/-! ## Histories -/

/-- The condition on a step: a registration is not made in the stale phase, `hangup` and
`answercall` are made while the phone is up, and `mute` and `unmute` too, unless the last call
information has no slot. -/
def KeepsProtocol (config : CTSoftPhoneConfig) (steps : List Step) (st : Step) : Prop :=
  match st.act with
  | .op (.registerWithNumber ..) => phaseAfter steps ≠ .stale
  | .op .hangup | .op .answercall => phaseAfter steps = .up
  | .op .mute | .op .unmute =>
    phaseAfter steps = .up ∨ ¬ (worldAfter config steps).vars.ci.HasSlot
  | .op (.handleIpChange _) | .op .destroy | .callback _ => True

/-- A step keeps the protocol exactly under its condition. -/
theorem permitted_step_iff (config : CTSoftPhoneConfig) (steps : List Step) (st : Step) :
    (∀ e ∈ (World.step st (worldAfter config steps)).events, e.Permitted) ↔
      KeepsProtocol config steps st := by
  obtain ⟨act, a, locals⟩ := st
  have hin := in_phaseAfter config steps
  have hinit := initialised_iff config steps
  have hacc : 0 ≤ (worldAfter config steps).vars.accId →
      (worldAfter config steps).pjsua.state.Initialised := fun h =>
    hinit.mpr ((accId_nonneg_iff config steps).mp h)
  cases act with
  | op o =>
    cases o with
    | registerWithNumber number host credentials =>
      exact registerWithNumber_permitted_iff number host credentials hin
    | handleIpChange transport =>
      exact iff_of_true (handleIpChange_permitted a _ locals transport hacc) trivial
    | destroy => exact iff_of_true (destroy_permitted a _ hacc) trivial
    | hangup => exact (hangup_permitted_iff a _).trans hinit
    | answercall => exact (answercall_permitted_iff a _).trans hinit
    | mute => exact (mute_permitted_iff a _).trans (or_congr_left hinit)
    | unmute => exact (unmute_permitted_iff a _).trans (or_congr_left hinit)
  | callback cb =>
    refine iff_of_true ?_ trivial
    by_cases h : (worldAfter config steps).pjsua.state = .running
    · rw [step_callback_of_running cb a locals h, Outcome.andThen_events]
      refine List.forall_mem_append.mpr ⟨by simp [Event.Permitted], ?_⟩
      apply callback_permitted a _ cb
      rw [raise_state, h]
      trivial
    · rw [step_callback_of_not_running cb a locals h]
      simp

/-- **The protocol is kept** along a history exactly when each of its steps meets its
condition. -/
theorem protocolSafe_iff (config : CTSoftPhoneConfig) (steps : List Step) :
    ProtocolSafe config steps ↔ Along (KeepsProtocol config) steps :=
  (phone.forall_mem_trace_iff_along (World.initial config) steps).trans
    (along_congr (permitted_step_iff config))

/-- `hangup` before any registration calls a library that is not created. -/
theorem not_protocolSafe_hangup_first :
    ¬ ProtocolSafe ⟨5060, .udp⟩ [(Act.op .hangup).answered .success] := by
  decide

end CTSoftPhone
