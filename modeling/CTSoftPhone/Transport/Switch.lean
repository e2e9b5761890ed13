import CTSoftPhone.Session.Phase

/-!
# Switching the transport

A switch makes four calls that may fail, and tests none of them. The selected transport is
recorded before the first, so a failure leaves a configuration that the account does not follow,
and that no retry repairs; the locals of the switch may reach the library uninitialised.

## Main definitions

* `AtomicOnFailure`: a failed call changes nothing, and only values the library produced reach it
* `Answers.SwitchOk`: all calls of a switch succeed

## Main results

* `atomicOnFailure_iff`: a change of IP is atomic exactly when there is no switch or it succeeds
-/

namespace CTSoftPhone

/-- A failed call leaves the selected transport and the accounts as they were; and the library is
only given a transport id that it created, and an account configuration that it returned. -/
structure AtomicOnFailure (w : World) (o : Outcome Unit World Event) : Prop where
  of_failed : (∃ e ∈ o.events, e.Failed) →
    o.state.vars.config.transport = w.vars.config.transport ∧
      o.state.pjsua.accounts = w.pjsua.accounts
  transport_created : ∀ accId transportId state reply,
    .api (.accSetTransport accId transportId) state reply ∈ o.events →
      ∃ type port state' reply', .api (.transportCreate type port) state' reply' ∈ o.events ∧
        reply'.id = some transportId
  config_read : ∀ accId config state reply,
    .api (.accModify accId config) state reply ∈ o.events →
      ∃ state' reply' config', .api (.accGetConfig accId) state' reply' ∈ o.events ∧
        reply'.config = some config' ∧
        config = { config' with ipv6MediaUse := true, hangupCalls := true }

/-- Every call of a switch succeeds. -/
def Answers.SwitchOk (a : Answers) : Prop :=
  a.transportCreate = pjSuccess ∧ a.accSetTransport = pjSuccess ∧ a.accGetConfig = pjSuccess ∧
    a.accModify = pjSuccess

instance (a : Answers) : Decidable a.SwitchOk := by
  unfold Answers.SwitchOk; infer_instance

section Outcomes

variable {a : Answers} {w : World} {locals : Locals} {transport : CTSoftPhoneTransportType}

theorem atomicOnFailure_of_not_switches (h : ¬ w.session.Switches transport) :
    AtomicOnFailure w ((handleIpChange locals transport).run (Cmd.handle a) w) := by
  rw [run_handleIpChange_of_not_switch a w locals transport h]
  refine ⟨fun _ => ⟨rfl, rfl⟩, ?_, ?_⟩
  · intro accId transportId state reply hmem
    by_cases hpos : 0 ≤ w.vars.callId ∧ 0 ≤ w.vars.accId <;> simp [hpos] at hmem
  · intro accId config state reply hmem
    by_cases hpos : 0 ≤ w.vars.callId ∧ 0 ≤ w.vars.accId <;> simp [hpos] at hmem

/-- A call of a switch with an account fails unless all succeed. -/
theorem exists_failed_iff (hw : w.session.Running) :
    (∃ e ∈ w.session.switchEvents a locals transport ++
      [.api .handleIpChange w.pjsua.state (.ofStatus pjSuccess)], e.Failed) ↔ ¬ a.SwitchOk := by
  obtain ⟨cfg, hread⟩ := hw.readReply a locals
  simp [Session.switchEvents, hread, Event.Failed, Answers.SwitchOk]
  tauto

theorem atomicOnFailure_of_switchOk (hw : w.session.Running) (h : w.session.Switches transport)
    (hok : a.SwitchOk) :
    AtomicOnFailure w ((handleIpChange locals transport).run (Cmd.handle a) w) := by
  rw [run_handleIpChange_of_switch a w locals transport h]
  refine ⟨fun hf => absurd hok ((exists_failed_iff hw).mp hf), ?_, ?_⟩
  · intro accId transportId state reply hmem
    obtain ⟨⟨-, rfl⟩, -, -⟩ : (accId = w.session.accId ∧
        transportId = Session.switchedTransport a locals) ∧ state = w.session.state ∧
        reply = .ofStatus a.accSetTransport := by
      simpa [Session.switchEvents] using hmem
    exact ⟨_, _, _, _, List.mem_cons_self, by simp [Session.switchedTransport, hok.1]⟩
  · intro accId config state reply hmem
    obtain ⟨⟨rfl, rfl⟩, -, -⟩ : (accId = w.session.accId ∧
        config = w.session.switchedConfig a locals) ∧ state = w.session.state ∧
        reply = .ofStatus a.accModify := by
      simpa [Session.switchEvents] using hmem
    obtain ⟨cfg, hread⟩ := hw.readReply a locals
    refine ⟨w.session.state, w.session.readReply a locals, cfg, ?_, ?_, ?_⟩
    · simp [Session.switchEvents]
    · simp [hread, hok.2.2.1]
    · simp [Session.switchedConfig, hread, hok.2.2.1]

/-- The first effect of a switch, recording the transport, outlives its failures. -/
theorem not_atomicOnFailure_of_not_switchOk (hw : w.session.Running)
    (h : w.session.Switches transport) (hok : ¬ a.SwitchOk) :
    ¬ AtomicOnFailure w ((handleIpChange locals transport).run (Cmd.handle a) w) := by
  rw [run_handleIpChange_of_switch a w locals transport h]
  intro hatomic
  -- the transport selected before differs from the one given
  exact h.2.2 (hatomic.of_failed ((exists_failed_iff hw).mpr hok)).1.symm

end Outcomes

/-- **A change of IP is atomic** exactly when there is no switch, or all its calls succeed. -/
theorem atomicOnFailure_iff (config : CTSoftPhoneConfig) (steps : List Step) (a : Answers)
    (locals : Locals) (transport : CTSoftPhoneTransportType) :
    AtomicOnFailure (worldAfter config steps)
        (World.step ⟨.op (.handleIpChange transport), a, locals⟩ (worldAfter config steps)) ↔
      ((worldAfter config steps).session.Switches transport → a.SwitchOk) := by
  rw [step_op, Op.program]
  by_cases h : (worldAfter config steps).session.Switches transport
  · have hw : (worldAfter config steps).session.Running := by
      have hin := in_phaseAfter config steps
      rw [(accId_nonneg_iff config steps).mp h.2.1] at hin
      exact hin.2
    -- with a failed call, the selected transport is the new one
    constructor
    · intro hatomic _
      by_contra hok
      exact not_atomicOnFailure_of_not_switchOk hw h hok hatomic
    · intro hok
      apply atomicOnFailure_of_switchOk hw h
      exact hok h
  · exact iff_of_true (atomicOnFailure_of_not_switches h) fun hs => absurd hs h

/-- With a call and an account, a switch from UDP to TCP whose `pjsua_transport_create` fails
leaves TCP selected. -/
theorem not_atomicOnFailure_transport_create_failed :
    ¬ AtomicOnFailure
      (worldAfter ⟨5060, .udp⟩ [(Act.op (.registerWithNumber [] [] [])).answered .success,
        (Act.callback (.incomingCall 0)).answered .success])
      (World.step
        ((Act.op (.handleIpChange .tcp)).answered { Answers.success with transportCreate := 1 })
        (worldAfter ⟨5060, .udp⟩ [(Act.op (.registerWithNumber [] [] [])).answered .success,
          (Act.callback (.incomingCall 0)).answered .success])) := by
  intro h
  exact absurd (h.of_failed (by decide)).1 (by decide)

end CTSoftPhone
