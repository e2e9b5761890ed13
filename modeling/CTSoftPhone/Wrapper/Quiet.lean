import CTSoftPhone.Programs.Interference
import CTSoftPhone.Wrapper.Rereading

/-!
# Commands that leave the life cycle alone

The life cycle of the library and its account is what the operations decide on: the flag, the
status, the account and the configuration of the phone, and the state, the transports and the
accounts of the library. The callbacks, and the operations on calls, issue no command that writes
it.

## Main definitions

* `Vars.Agree`, `Pjsua.Agree`: globals, and libraries, with the same life cycle
* `Cmd.Quiet`: the commands that neither change nor need it
* `Cmd.Discreet`: the quiet commands that tell nothing of the registration

## Main results

* `discreet_callOp`: the operations on calls are discreet
* `quiet_callback`: the callbacks are quiet
-/

namespace CTSoftPhone

/-! ## The life cycle -/

/-- The same globals, except for the call information and the current call. -/
structure Vars.Agree (v v' : Vars) : Prop where
  pjsuaInitialized_eq : v.pjsuaInitialized = v'.pjsuaInitialized
  status_eq : v.status = v'.status
  accId_eq : v.accId = v'.accId
  config_eq : v.config = v'.config
  callId_nonneg : 0 ≤ v.callId ∧ 0 ≤ v'.callId

/-- The same library, except for its calls and connections. -/
structure Pjsua.Agree (p p' : Pjsua) : Prop where
  state_eq : p.state = p'.state
  transports_eq : p.transports = p'.transports
  accounts_eq : p.accounts = p'.accounts

theorem Vars.Agree.symm {v v' : Vars} (h : v.Agree v') : v'.Agree v :=
  ⟨h.pjsuaInitialized_eq.symm, h.status_eq.symm, h.accId_eq.symm, h.config_eq.symm,
    h.callId_nonneg.symm⟩

theorem Vars.Agree.trans {v v' v'' : Vars} (h : v.Agree v') (h' : v'.Agree v'') : v.Agree v'' :=
  ⟨h.pjsuaInitialized_eq.trans h'.pjsuaInitialized_eq, h.status_eq.trans h'.status_eq,
    h.accId_eq.trans h'.accId_eq, h.config_eq.trans h'.config_eq, h.callId_nonneg.1,
    h'.callId_nonneg.2⟩

theorem Pjsua.Agree.symm {p p' : Pjsua} (h : p.Agree p') : p'.Agree p :=
  ⟨h.state_eq.symm, h.transports_eq.symm, h.accounts_eq.symm⟩

theorem Pjsua.Agree.trans {p p' p'' : Pjsua} (h : p.Agree p') (h' : p'.Agree p'') : p.Agree p'' :=
  ⟨h.state_eq.trans h'.state_eq, h.transports_eq.trans h'.transports_eq,
    h.accounts_eq.trans h'.accounts_eq⟩

/-! ## Commands that leave the life cycle alone -/

/-- The functions that neither change nor need the life cycle. -/
def Api.Quiet : Api → Prop
  | .callAnswer _ | .callHangup _ | .callHangupAll | .callGetInfo _ | .confConnect ..
  | .confDisconnect .. => True
  | _ => False

/-- The commands that neither change nor need the life cycle. -/
def Cmd.Quiet : Cmd → Prop
  | .vars | .activeCalls | .endCall _ | .notify _ => True
  | .assign f => ∀ v : Vars, 0 ≤ v.callId → v.Agree (f v)
  | .api c => c.Quiet

/-- The quiet commands that tell the delegate nothing of the registration. -/
def Cmd.Discreet : Cmd → Prop
  | .notify (.registration _) => False
  | c => c.Quiet

theorem Cmd.Discreet.quiet {c : Cmd} (h : c.Discreet) : c.Quiet := by
  cases c with
  | notify n => trivial
  | _ => exact h

section Quiet

variable (callId : ℤ)

theorem discreet_getInfo : (getInfo callId).Only Cmd.Discreet :=
  (Prog.Only.call (by trivial)).bind fun _ => .call fun _ h => ⟨rfl, rfl, rfl, rfl, h, h⟩

theorem discreet_onCallState : (onCallState callId).Only Cmd.Discreet :=
  (discreet_getInfo callId).bind fun _ => (Prog.Only.call (by trivial)).bind fun _ =>
    .call (by trivial)

theorem discreet_onCallMediaStateRereading :
    (onCallMediaStateRereading callId).Only Cmd.Discreet := by
  have htold : ∀ state, (Delegate.onCallState state).Only Cmd.Discreet := fun _ =>
    .call (by trivial)
  have hread : vars.Only Cmd.Discreet := .call (by trivial)
  have hcall : ∀ {c : Api}, c.Quiet → (api c).Only Cmd.Discreet := fun h => .call h
  exact (discreet_getInfo callId).bind fun _ => hread.bind fun _ => .ite
    (hread.bind fun _ => (hcall (by trivial)).bind fun _ => hread.bind fun _ =>
      (hcall (by trivial)).bind fun _ => htold _) <|
    hread.bind fun _ => .ite
      (hread.bind fun _ => (hcall (by trivial)).bind fun _ => htold _) <|
    hread.bind fun _ => .ite (htold _) <| hread.bind fun _ => .ite (htold _) <|
    hread.bind fun _ => .ite (htold _) (.ret ())

theorem discreet_disconnect : (disconnect callId).Only Cmd.Discreet := by
  have hend : (endCall callId).Only Cmd.Discreet := .call (by trivial)
  exact hend.bind fun _ => .ite (discreet_onCallState callId) (.ret ())

theorem discreet_pjsuaCallHangupAll : pjsuaCallHangupAll.Only Cmd.Discreet :=
  (Prog.Only.call (by trivial)).bind fun _ => (Prog.Only.call (by trivial)).bind fun callIds =>
    .forM discreet_disconnect callIds

/-- **The callbacks** leave the life cycle alone. -/
theorem quiet_callback (cb : Callback) : cb.rereading.Only Cmd.Quiet := by
  cases cb with
  | incomingCall callId =>
    refine Prog.Only.bind (.call fun v h => ⟨rfl, rfl, rfl, rfl, h, ?_⟩) fun _ =>
      (Prog.Only.call (by trivial)).bind fun _ => .ret ()
    -- the ids that pjsua announces are not negative
    exact Int.natCast_nonneg callId
  | callState callId state => exact (discreet_onCallState callId).mono fun _ hc => hc.quiet
  | callMediaState callId =>
    exact (discreet_onCallMediaStateRereading callId).mono fun _ hc => hc.quiet
  | regState2 info => exact .ite (.call (by trivial)) (.call (by trivial))

/-- The operations on calls leave the life cycle alone, and tell nothing of the registration. -/
theorem discreet_callOp {o : Op} (h : o = .hangup ∨ o = .answercall ∨ o = .mute ∨ o = .unmute)
    (locals : Locals) : (o.rereading locals).Only Cmd.Discreet := by
  have hread : vars.Only Cmd.Discreet := .call (by trivial)
  have hcall : ∀ {c : Api}, c.Quiet → (api c).Only Cmd.Discreet := fun h => .call h
  rcases h with rfl | rfl | rfl | rfl
  · exact (hread.bind fun _ => .ret _).bind fun callId => (hcall (by trivial)).bind fun _ =>
      discreet_disconnect callId
  · exact (hread.bind fun _ => .ret _).bind fun _ => (hcall (by trivial)).bind fun _ => .ret ()
  · exact hread.bind fun _ => .ite (hread.bind fun _ => .ite
      (hread.bind fun _ => (hcall (by trivial)).bind fun _ => .ret ()) (.ret ())) (.ret ())
  · exact hread.bind fun _ => .ite (hread.bind fun _ => .ite
      (hread.bind fun _ => (hcall (by trivial)).bind fun _ => .ret ()) (.ret ())) (.ret ())

end Quiet

end CTSoftPhone
