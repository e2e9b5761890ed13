import CTSoftPhone.Lifecycle.Protocol

/-!
# What a registration reports

A registration that does not tell the delegate of a failure should have set everything up. The
status of `pjsua_transport_create` is overwritten before it is tested, so it may leave a running
library without the transport; and a later registration takes over whatever transports there are.

## Main definitions

* `Reported`: what a registration reports is what happened
* `TransportReady`: the condition on a registration that succeeds

## Main results

* `reported_iff`: a registration reports what happened exactly under this condition
-/

namespace CTSoftPhone

/-- The delegate is told of a failed registration. -/
def Event.fail : Event := .notified (.registration .fail)

/-- What the outcome of a registration reports is what happened: without a report of failure the
library is running with the selected transport and the account asked for, and a failed call is
reported once and leaves no account. -/
structure Reported (cfg : PjsuaAccConfig) (o : Outcome Unit World Event) : Prop where
  of_silent : Event.fail ∉ o.events →
    o.state.pjsua.state = .running ∧
    (∃ t ∈ o.state.pjsua.transports, t.type = o.state.vars.config.pjTransportType) ∧
    PjsuaAccount.configOf o.state.pjsua.accounts o.state.vars.accId = some cfg
  of_failed : (∃ e ∈ o.events, e.Failed) →
    o.events.count Event.fail = 1 ∧ o.state.vars.accId < 0 ∧ o.state.pjsua.accounts = []

/-- When the registration succeeds, the transport selected is created by its set-up, or there
already. -/
def TransportReady (config : CTSoftPhoneConfig) (steps : List Step) (a : Answers) : Prop :=
  (phaseAfter steps).RegisterOk a →
    match phaseAfter steps with
    | .down => a.transportCreate = pjSuccess
    | .up | .stale => ∃ t ∈ (worldAfter config steps).pjsua.transports,
      t.type = (worldAfter config steps).vars.config.pjTransportType

section Register

variable {a : Answers} {w : World} (number host credentials : NSString)

/-- A registration that fails is reported. -/
theorem reported_of_failed {p : Phase} (h : w.session.In p) (hok : ¬ p.RegisterOk a)
    (cfg : PjsuaAccConfig) :
    Reported cfg ((registerWithNumber number host credentials).run (Cmd.handle a) w) := by
  obtain ⟨es, hes, hall⟩ := registerWithNumber_failed number host credentials h hok
  have hcount : es.count Event.fail = 0 :=
    List.count_eq_zero.mpr fun hmem => (hall _ hmem).1 trivial
  have htorn : Session.In
      ((registerWithNumber number host credentials).run (Cmd.handle a) w).state.session .stale := by
    have hin := h.registerWithNumber a (requestedConfig number host credentials w.vars.config)
    rwa [if_neg hok, ← session_registerWithNumber] at hin
  constructor
  · intro hsilent
    exact absurd (by rw [hes]; exact List.mem_append_right es List.mem_cons_self) hsilent
  · intro _
    refine ⟨?_, htorn.2.accId_neg, htorn.2.accounts_eq⟩
    rw [hes, List.count_append, hcount]
    rfl

theorem setUpEvents_not_failed (h : a.transportCreate = pjSuccess) :
    ∀ e ∈ w.setUpEvents a, ¬ e.Failed := by
  simp [World.setUpEvents, Event.Failed, h]

theorem putEvent_not_failed {cfg : PjsuaAccConfig} (h : PutOk a w.pjsua.state w.vars.accId) :
    ¬ (w.putEvent a cfg).Failed := by
  intro hf
  by_cases hacc : 0 ≤ w.vars.accId
  · rw [PutOk, if_pos hacc] at h
    rw [World.putEvent, if_pos hacc] at hf
    exact hf h
  · rw [PutOk, if_neg hacc] at h
    rw [World.putEvent, if_neg hacc, if_pos h.1] at hf
    exact hf h.2

theorem putEvent_ne_fail (cfg : PjsuaAccConfig) : w.putEvent a cfg ≠ Event.fail := by
  intro h
  have hnot := putEvent_not_ofRegistration (a := a) (w := w) cfg
  rw [h] at hnot
  exact hnot trivial

/-- Setting the library up and putting the account reports no failure. -/
theorem fail_notMem_of_setUp (cfg : PjsuaAccConfig) :
    Event.fail ∉ w.setUpEvents a ++ [(w.setUp a).putEvent a cfg] := by
  intro hmem
  rcases List.mem_append.mp hmem with hmem | hmem
  · exact setUpEvents_not_ofRegistration _ hmem trivial
  · exact putEvent_ne_fail cfg (List.mem_singleton.mp hmem).symm

/-- A registration that sets the library up is reported exactly when the transport is created. -/
theorem reported_iff_of_down (h : w.session.In .down) (hok : Phase.RegisterOk a .down) :
    Reported (requestedConfig number host credentials w.vars.config)
      ((registerWithNumber number host credentials).run (Cmd.handle a) w) ↔
      a.transportCreate = pjSuccess := by
  obtain ⟨hs, ha⟩ := hok
  have hacc : ¬ 0 ≤ w.vars.accId := Int.not_le.mpr h.2.accId_neg
  have hput : PutOk a .running w.vars.accId := (h.2.putOk_running_iff a).mpr ha
  have htransports : w.pjsua.transports = [] := h.2.transports_eq
  have haccounts : w.pjsua.accounts = [] := h.2.accounts_eq
  rw [run_registerWithNumber_of_setUp a w number host credentials h.1 hs hput]
  -- the account is the only one, and the transports are those the set-up creates
  have hworld : (w.setUp a).put a (requestedConfig number host credentials w.vars.config) =
      ⟨{ (w.setUp a).vars with accId := a.accId },
        { (w.setUp a).pjsua with
          accounts := [⟨a.accId, requestedConfig number host credentials w.vars.config⟩] }⟩ := by
    simp [World.put, World.setUp, hacc, haccounts]
  rw [hworld]
  constructor
  · intro hr
    obtain ⟨-, ⟨t, ht, -⟩, -⟩ := hr.of_silent (fail_notMem_of_setUp _)
    by_contra hne
    simp [World.setUp, htransports, Answers.created, hne] at ht
  · intro ht
    constructor
    · intro _
      simp [World.setUp, htransports, Answers.created, ht]
    · rintro ⟨e, he, hf⟩
      rcases List.mem_append.mp he with he | he
      · exact absurd hf (setUpEvents_not_failed ht e he)
      · rw [List.mem_singleton.mp he] at hf
        exact absurd hf (putEvent_not_failed hput)

/-- A registration that modifies the account is reported exactly when the transport is there. -/
theorem reported_iff_of_up (h : w.session.In .up) (hok : Phase.RegisterOk a .up) :
    Reported (requestedConfig number host credentials w.vars.config)
      ((registerWithNumber number host credentials).run (Cmd.handle a) w) ↔
      ∃ t ∈ w.pjsua.transports, t.type = w.vars.config.pjTransportType := by
  have hacc : 0 ≤ w.vars.accId := h.2.accId_nonneg
  have hput : PutOk a w.pjsua.state w.vars.accId := (h.2.putOk_iff a).mpr hok
  obtain ⟨cfg, haccounts⟩ : ∃ cfg, w.pjsua.accounts = [⟨w.vars.accId, cfg⟩] := h.2.accounts_eq
  rw [run_registerWithNumber_of_initialized a w number host credentials h.1,
    run_putAccount_of_ok a w _ hput]
  have hstate : w.pjsua.state = .running := h.2.state_eq
  constructor
  · intro hr
    obtain ⟨-, ht, -⟩ := hr.of_silent fun hmem =>
      putEvent_ne_fail _ (List.mem_singleton.mp hmem).symm
    simpa [World.put, hacc, Pjsua.modifyAcc] using ht
  · intro ht
    constructor
    · intro _
      simpa [World.put, hacc, Pjsua.modifyAcc, haccounts, hstate] using ht
    · rintro ⟨e, he, hf⟩
      rw [List.mem_singleton.mp he] at hf
      exact absurd hf (putEvent_not_failed hput)

end Register

/-- **A registration reports what happened** exactly when, if it succeeds, the selected transport
is created by its set-up or was there before. -/
theorem reported_iff (config : CTSoftPhoneConfig) (steps : List Step) (a : Answers)
    (locals : Locals) (number host credentials : NSString) :
    Reported (requestedConfig number host credentials (worldAfter config steps).vars.config)
        (World.step ⟨.op (.registerWithNumber number host credentials), a, locals⟩
          (worldAfter config steps)) ↔
      TransportReady config steps a := by
  have hin := in_phaseAfter config steps
  rw [TransportReady, step_op, Op.program]
  by_cases hok : (phaseAfter steps).RegisterOk a
  · cases hp : phaseAfter steps with
    | down =>
      rw [hp] at hin hok
      simpa [hok] using reported_iff_of_down number host credentials hin hok
    | up =>
      rw [hp] at hin hok
      simpa [hok] using reported_iff_of_up number host credentials hin hok
    | stale => exact (hp ▸ hok).elim
  · exact iff_of_true (reported_of_failed number host credentials hin hok _) fun h => absurd h hok

/-- A registration after a switch whose `pjsua_transport_create` failed reports nothing, and there
is no transport of the type selected. -/
theorem not_reported_transport_create_failed :
    ¬ Reported (requestedConfig [] [] [] ⟨5060, .tcp⟩)
      (World.step ((Act.op (.registerWithNumber [] [] [])).answered .success)
        (worldAfter ⟨5060, .udp⟩
          [(Act.op (.registerWithNumber [] [] [])).answered .success,
            (Act.op (.handleIpChange .tcp)).answered
              { Answers.success with transportCreate := 1 }])) := by
  intro h
  have hnone := (h.of_silent (by decide)).2.1
  revert hnone
  decide

end CTSoftPhone
