import CTSoftPhone.Session.Registration

/-!
# Sessions

What an operation leaves, calls and notifications apart, depends on little of the world: the flag,
the account, the current call and the configuration of the phone, and the state, the transports
and the accounts of the library. This view of the world is a session, and every step moves it by
a function of the session alone.

## Main definitions

* `Session`, `World.session`: the view
* `Session.step`: what a step makes of a session

## Main results

* `session_step`: steps of the world refine steps of the session
* `session_worldAfter`: so do histories
-/

namespace CTSoftPhone

/-- The flag, the account, the current call and the configuration of the phone; the state, the
transports and the accounts of the library. -/
structure Session where
  pjsuaInitialized : Bool
  accId : ℤ
  callId : ℤ
  config : CTSoftPhoneConfig
  state : PjsuaState
  transports : List PjsuaTransport
  accounts : List PjsuaAccount
  deriving DecidableEq

/-- The session of a world. -/
def World.session (w : World) : Session where
  pjsuaInitialized := w.vars.pjsuaInitialized
  accId := w.vars.accId
  callId := w.vars.callId
  config := w.vars.config
  state := w.pjsua.state
  transports := w.pjsua.transports
  accounts := w.pjsua.accounts

namespace Session

/-- The session at start-up. -/
def initial (config : CTSoftPhoneConfig) : Session := (World.initial config).session

/-- The library is torn down. -/
def tearDown (s : Session) : Session :=
  { s with accId := dropAccount s.accId, state := .null, transports := [], accounts := [] }

/-- The library is set up, with the transports created. -/
def setUp (a : Answers) (s : Session) : Session :=
  { s with
    pjsuaInitialized := true
    state := .running
    transports := s.transports ++ a.created s.config }

/-- The account is modified or added, or the library torn down. -/
def putAccount (a : Answers) (cfg : PjsuaAccConfig) (s : Session) : Session :=
  if PutOk a s.state s.accId then
    if 0 ≤ s.accId then
      { s with accounts := PjsuaAccount.modify s.accounts s.accId fun _ => cfg }
    else { s with accId := a.accId, accounts := s.accounts ++ [⟨a.accId, cfg⟩] }
  else s.tearDown

/-- A registration, given the account configuration it asks for. -/
def registerWithNumber (a : Answers) (cfg : PjsuaAccConfig) (s : Session) : Session :=
  if s.pjsuaInitialized then s.putAccount a cfg
  else if a.SetUpOk then (s.setUp a).putAccount a cfg
  else { s.tearDown with pjsuaInitialized := true }

/-- The transport an account is bound to by a switch: the one created, or what the uninitialised
local held. -/
def switchedTransport (a : Answers) (locals : Locals) : ℤ :=
  if a.transportCreate = pjSuccess then a.transportId else locals.transportId

/-- The accounts once the account is bound to its transport. -/
def bound (a : Answers) (locals : Locals) (s : Session) : List PjsuaAccount :=
  if a.accSetTransport = pjSuccess then
    PjsuaAccount.modify s.accounts s.accId fun config =>
      { config with transportId := switchedTransport a locals }
  else s.accounts

/-- The reply to a switch that reads the configuration back. -/
def readReply (a : Answers) (locals : Locals) (s : Session) : Reply :=
  match PjsuaAccount.configOf (s.bound a locals) s.accId with
  | some config => .ofConfig a.accGetConfig config
  | none => .ofStatus pjEInvalidOp

/-- The configuration a switch stores: the one read back, or what the uninitialised local held,
with two fields set. -/
def switchedConfig (a : Answers) (locals : Locals) (s : Session) : PjsuaAccConfig :=
  { (s.readReply a locals).config.getD locals.accCfg with
    ipv6MediaUse := true
    hangupCalls := true }

/-- The configuration of the phone once a transport is selected. -/
def select (transport : CTSoftPhoneTransportType) (s : Session) : CTSoftPhoneConfig :=
  { s.config with transport := transport }

/-- A switch of the transport. -/
def switchTransport (a : Answers) (locals : Locals) (transport : CTSoftPhoneTransportType)
    (s : Session) : Session :=
  { s with
    config := s.select transport
    transports := s.transports ++ a.created (s.select transport)
    accounts :=
      if a.accModify = pjSuccess then
        PjsuaAccount.modify (s.bound a locals) s.accId fun _ => s.switchedConfig a locals
      else s.bound a locals }

/-- A change of IP switches when there is a call, an account and another transport to use. -/
def Switches (s : Session) (transport : CTSoftPhoneTransportType) : Prop :=
  0 ≤ s.callId ∧ 0 ≤ s.accId ∧ s.config.transport ≠ transport

instance (s : Session) (transport : CTSoftPhoneTransportType) :
    Decidable (s.Switches transport) := by
  unfold Switches; infer_instance

/-- A change of IP. -/
def handleIpChange (a : Answers) (locals : Locals) (transport : CTSoftPhoneTransportType)
    (s : Session) : Session :=
  if s.Switches transport then s.switchTransport a locals transport else s

/-- What a step makes of a session. -/
def step (st : Step) (s : Session) : Session :=
  match st.act with
  | .op (.registerWithNumber number host credentials) =>
    s.registerWithNumber st.answers (requestedConfig number host credentials s.config)
  | .op (.handleIpChange transport) => s.handleIpChange st.answers st.locals transport
  | .op .destroy => { s.tearDown with pjsuaInitialized := false }
  | .callback (.incomingCall callId) =>
    if s.state = .running then { s with callId := callId } else s
  | .op .hangup | .op .answercall | .op .mute | .op .unmute
  | .callback (.callState ..) | .callback (.callMediaState _) | .callback (.regState2 _) => s

end Session

/-! ## The steps of the world -/

namespace Pjsua

theorem after_transportCreate (a : Answers) (p : Pjsua) (config : CTSoftPhoneConfig) :
    p.after (.transportCreate config.pjTransportType config.unsignedPort)
        (.ofId a.transportCreate a.transportId) =
      { p with transports := p.transports ++ a.created config } := by
  by_cases h : a.transportCreate = pjSuccess <;> simp [Pjsua.after, Answers.created, h]

theorem after_accModify (p : Pjsua) (accId : ℤ) (config : PjsuaAccConfig) (r : Reply) :
    p.after (.accModify accId config) r =
      { p with accounts :=
          if r.status = pjSuccess then PjsuaAccount.modify p.accounts accId fun _ => config
          else p.accounts } := by
  by_cases h : r.status = pjSuccess <;> simp [Pjsua.after, Pjsua.modifyAcc, h]

theorem after_accSetTransport (p : Pjsua) (accId transportId : ℤ) (r : Reply) :
    p.after (.accSetTransport accId transportId) r =
      { p with accounts :=
          if r.status = pjSuccess then
            PjsuaAccount.modify p.accounts accId fun config =>
              { config with transportId := transportId }
          else p.accounts } := by
  by_cases h : r.status = pjSuccess <;> simp [Pjsua.after, Pjsua.modifyAcc, h]

end Pjsua

section Refinement

variable (a : Answers) (w : World)

theorem session_setUp (h : a.SetUpOk) :
    (setUp.run (Cmd.handle a) w).state.session = w.session.setUp a := by
  rw [run_setUp_of_ok a w h]
  rfl

theorem session_putAccount (cfg : PjsuaAccConfig) :
    ((putAccount cfg).run (Cmd.handle a) w).state.session = w.session.putAccount a cfg := by
  by_cases h : PutOk a w.pjsua.state w.vars.accId
  · rw [run_putAccount_of_ok a w cfg h]
    by_cases hacc : 0 ≤ w.vars.accId <;>
      simp [Session.putAccount, World.session, World.put, Pjsua.modifyAcc, h, hacc]
  · obtain ⟨status, ci, es, hrun, -⟩ := run_putAccount_of_failed a w cfg h
    rw [hrun]
    simp [Session.putAccount, Session.tearDown, World.session, Pjsua.down, h]

theorem session_registerWithNumber (number host credentials : NSString) :
    ((registerWithNumber number host credentials).run (Cmd.handle a) w).state.session =
      w.session.registerWithNumber a
        (requestedConfig number host credentials w.vars.config) := by
  cases h : w.vars.pjsuaInitialized with
  | true =>
    rw [run_registerWithNumber_of_initialized a w number host credentials h, session_putAccount]
    simp [Session.registerWithNumber, World.session, h]
  | false =>
    rw [run_registerWithNumber_of_not_initialized a w number host credentials h]
    by_cases hs : a.SetUpOk
    -- the account is put in the world that the set-up leaves
    · have hsession := session_setUp a w hs
      rw [run_setUp_of_ok a w hs] at hsession ⊢
      simp only [Outcome.andThen_state, if_true, session_putAccount, hsession]
      simp [Session.registerWithNumber, World.session, h, hs]
    · obtain ⟨status, ci, es, hrun, -⟩ := run_setUp_of_failed a w hs
      rw [hrun]
      simp [Session.registerWithNumber, Session.tearDown, World.session, Pjsua.down, h, hs]

/-- The world a switch leaves. -/
def World.switchTransport (a : Answers) (locals : Locals) (transport : CTSoftPhoneTransportType)
    (w : World) : World :=
  let s := w.session.switchTransport a locals transport
  ⟨{ w.vars with config := s.config, status := a.transportCreate },
    { w.pjsua with transports := s.transports, accounts := s.accounts }⟩

/-- The calls of a switch, and their replies. -/
def Session.switchEvents (a : Answers) (locals : Locals) (transport : CTSoftPhoneTransportType)
    (s : Session) : List Event :=
  [.api (.transportCreate (s.select transport).pjTransportType (s.select transport).unsignedPort)
      s.state (.ofId a.transportCreate a.transportId),
    .api (.accSetTransport s.accId (Session.switchedTransport a locals)) s.state
      (.ofStatus a.accSetTransport),
    .api (.accGetConfig s.accId) s.state (s.readReply a locals),
    .api (.accModify s.accId (s.switchedConfig a locals)) s.state (.ofStatus a.accModify)]

theorem run_switchTransport (locals : Locals) (transport : CTSoftPhoneTransportType) :
    (switchTransport locals transport).run (Cmd.handle a) w =
      ⟨(), w.switchTransport a locals transport,
        w.session.switchEvents a locals transport⟩ := by
  have hid : (if a.transportCreate = pjSuccess then some a.transportId else none).getD
      locals.transportId = Session.switchedTransport a locals := by
    unfold Session.switchedTransport
    split <;> rfl
  simp only [switchTransport, Prog.bind_def, Prog.run_bind, run_vars, run_assign, run_api,
    run_setStatus, Outcome.andThen, Pjsua.reply, Pjsua.after_transportCreate,
    Pjsua.after_accSetTransport, Pjsua.after_accModify, Reply.ofId_id, Reply.ofId_status,
    Reply.ofStatus_status, hid, Prog.pure_def, Prog.run_ret, List.nil_append, List.append_nil,
    List.cons_append]
  rfl

theorem run_handleIpChange_of_switch (locals : Locals) (transport : CTSoftPhoneTransportType)
    (h : w.session.Switches transport) :
    (handleIpChange locals transport).run (Cmd.handle a) w =
      ⟨(), w.switchTransport a locals transport,
        w.session.switchEvents a locals transport ++
          [.api .handleIpChange w.pjsua.state (.ofStatus pjSuccess)]⟩ := by
  obtain ⟨hcall, hacc, ht⟩ :
    0 ≤ w.vars.callId ∧ 0 ≤ w.vars.accId ∧ w.vars.config.transport ≠ transport := h
  have hguard : ¬ (w.vars.callId < 0 ∨ w.vars.accId < 0) := by omega
  simp only [handleIpChange, Prog.bind_def, Prog.run_bind, run_vars, hguard, if_false, ht, ne_eq,
    not_false_eq_true, if_true, run_switchTransport, Outcome.andThen]
  simp [World.switchTransport, Pjsua.reply, Pjsua.after]

/-- Without a switch, nothing but the library is told. -/
theorem run_handleIpChange_of_not_switch (locals : Locals) (transport : CTSoftPhoneTransportType)
    (h : ¬ w.session.Switches transport) :
    (handleIpChange locals transport).run (Cmd.handle a) w =
      ⟨(), w, if 0 ≤ w.vars.callId ∧ 0 ≤ w.vars.accId then
        [.api .handleIpChange w.pjsua.state (.ofStatus pjSuccess)] else []⟩ := by
  by_cases hguard : w.vars.callId < 0 ∨ w.vars.accId < 0
  · have hnot : ¬ (0 ≤ w.vars.callId ∧ 0 ≤ w.vars.accId) := by omega
    simp [handleIpChange, Outcome.andThen, hguard, hnot]
  · have hpos : 0 ≤ w.vars.callId ∧ 0 ≤ w.vars.accId := by omega
    have ht : w.vars.config.transport = transport := by
      by_contra hne
      exact h ⟨hpos.1, hpos.2, hne⟩
    simp [handleIpChange, Outcome.andThen, hguard, hpos, ht, Pjsua.reply, Pjsua.after]

theorem session_handleIpChange (locals : Locals) (transport : CTSoftPhoneTransportType) :
    ((handleIpChange locals transport).run (Cmd.handle a) w).state.session =
      w.session.handleIpChange a locals transport := by
  by_cases h : w.session.Switches transport
  · rw [run_handleIpChange_of_switch a w locals transport h, Session.handleIpChange, if_pos h]
    rfl
  · rw [run_handleIpChange_of_not_switch a w locals transport h, Session.handleIpChange, if_neg h]

theorem session_destroy :
    (destroy.run (Cmd.handle a) w).state.session =
      { w.session.tearDown with pjsuaInitialized := false } := by
  obtain ⟨ci, hci, -⟩ := run_ctPjsuaDestroy a w
  simp [destroy, hci, World.session, Session.tearDown, Pjsua.down]

theorem session_disconnect (callId : ℤ) :
    ((disconnect callId).run (Cmd.handle a) w).state.session = w.session := by
  by_cases h : callId ∈ w.pjsua.calls
  · rw [run_disconnect_of_mem a w h, run_onCallState]
    rfl
  · rw [run_disconnect_of_notMem a w h]

theorem session_hangup : (hangup.run (Cmd.handle a) w).state.session = w.session := by
  rw [run_hangup, Outcome.andThen_state, session_disconnect]

theorem session_answercall : (answercall.run (Cmd.handle a) w).state.session = w.session := by
  rw [run_answercall]

theorem session_mute : (mute.run (Cmd.handle a) w).state.session = w.session := by
  rw [run_mute]
  split <;> rfl

theorem session_unmute : (unmute.run (Cmd.handle a) w).state.session = w.session := by
  rw [run_unmute]
  split <;> rfl

theorem session_callback (h : w.pjsua.state = .running) (cb : Callback) :
    (cb.program.run (Cmd.handle a) { w with pjsua := w.pjsua.raise cb }).state.session =
      match cb with
      | .incomingCall callId => { w.session with callId := callId }
      | _ => w.session := by
  cases cb with
  | incomingCall callId =>
    simp [Callback.program, onIncomingCall, setCallid, World.session, Pjsua.raise, Pjsua.after]
  | callState callId state =>
    rw [Callback.program, run_onCallState]
    cases state <;> rfl
  | callMediaState callId =>
    rw [Callback.program, run_onCallMediaState_state a _ ((raise_state _ _).trans h)]
    rfl
  | regState2 info =>
    simp only [Callback.program, onRegState2, Prog.run_ite]
    split <;> rfl

/-- **Steps refine**: a step of the world is a step of its session. -/
theorem session_step (st : Step) (w : World) :
    (World.step st w).state.session = w.session.step st := by
  obtain ⟨act, answers, locals⟩ := st
  cases act with
  | op o =>
    cases o with
    | registerWithNumber number host credentials => exact session_registerWithNumber ..
    | handleIpChange transport => exact session_handleIpChange ..
    | destroy => exact session_destroy ..
    | hangup => exact session_hangup ..
    | answercall => exact session_answercall ..
    | mute => exact session_mute ..
    | unmute => exact session_unmute ..
  | callback cb =>
    by_cases h : w.pjsua.state = .running
    · rw [step_callback_of_running cb answers locals h]
      apply (session_callback answers w h cb).trans
      cases cb <;> simp [Session.step, World.session, h]
    · rw [step_callback_of_not_running cb answers locals h]
      cases cb <;> simp [Session.step, World.session, h]

/-- **Histories refine**: the session after a history is what the history makes of the session at
start-up. -/
theorem session_worldAfter (config : CTSoftPhoneConfig) (steps : List Step) :
    (worldAfter config steps).session =
      steps.foldl (fun s st => s.step st) (Session.initial config) :=
  phone.after_refines (World.initial config) session_step steps

end Refinement

end CTSoftPhone
