import CTSoftPhone.Lifecycle.Registering

/-!
# The account of the phone

`acc_id` is written by `pjsua_acc_add` and cleared by the tear-down, whichever path leads there, so
between steps it is the one account of the library, or negative when there is none. `destroy`
clears whatever was left, from every phase: the registration that follows sets everything up anew.

## Main definitions

* `World.SingleAccount`: the library holds the account of the phone, if it has one, and no other
* `World.Registered`: the library is running, with one transport and one account

## Main results

* `singleAccount_worldAfter`: after every history the phone tracks the only account
* `registered_after_destroy`: after every history, `destroy` and one registration recover
-/

namespace CTSoftPhone

/-- The library holds an account exactly when the phone has one, and then it is the only one. -/
structure World.SingleAccount (w : World) : Prop where
  accId_nonneg_iff : 0 ≤ w.vars.accId ↔ w.pjsua.accounts ≠ []
  ids_eq : w.pjsua.accounts ≠ [] → w.pjsua.accounts.map PjsuaAccount.id = [w.vars.accId]

theorem singleAccount_of_torn {w : World} (h : w.session.Torn) : w.SingleAccount := by
  have hacc : w.vars.accId < 0 := h.accId_neg
  have hnil : w.pjsua.accounts = [] := h.accounts_eq
  exact ⟨iff_of_false (Int.not_le.mpr hacc) fun hne => hne hnil, fun hne => absurd hnil hne⟩

theorem singleAccount_of_running {w : World} (h : w.session.Running) : w.SingleAccount := by
  obtain ⟨cfg, hcfg⟩ : ∃ cfg, w.pjsua.accounts = [⟨w.vars.accId, cfg⟩] := h.accounts_eq
  refine ⟨iff_of_true h.accId_nonneg ?_, fun _ => ?_⟩
  · rw [hcfg]
    exact List.cons_ne_nil _ _
  · rw [hcfg]
    rfl

theorem singleAccount_of_in {w : World} {p : Phase} (h : w.session.In p) : w.SingleAccount := by
  cases p with
  | down => exact singleAccount_of_torn h.2
  | up => exact singleAccount_of_running h.2
  | stale => exact singleAccount_of_torn h.2

/-- **One account**: after every history, whatever the library answered, the phone tracks the only
account there is. -/
theorem singleAccount_worldAfter (config : CTSoftPhoneConfig) (steps : List Step) :
    (worldAfter config steps).SingleAccount := by
  have hin := in_phaseAfter config steps
  cases hp : phaseAfter steps with
  | down =>
    rw [hp] at hin
    exact singleAccount_of_torn hin.2
  | up =>
    rw [hp] at hin
    exact singleAccount_of_running hin.2
  | stale =>
    -- the flag is left up by a failed registration, the account is not left
    rw [hp] at hin
    exact singleAccount_of_torn hin.2

/-! ## Recovery -/

/-- The library is running and the flag up, with one transport, of the selected type, and one
account, that of the phone, with the given configuration. -/
structure World.Registered (cfg : PjsuaAccConfig) (w : World) : Prop where
  pjsuaInitialized_eq : w.vars.pjsuaInitialized = true
  state_eq : w.pjsua.state = .running
  transports_eq : ∃ id port, w.pjsua.transports = [⟨id, w.vars.config.pjTransportType, port⟩]
  accounts_eq : 0 ≤ w.vars.accId ∧ w.pjsua.accounts = [⟨w.vars.accId, cfg⟩]

/-- `destroy` reports no failure. -/
theorem fail_notMem_destroy (a : Answers) (w : World) :
    Event.fail ∉ (destroy.run (Cmd.handle a) w).events := by
  obtain ⟨ci, -, hes⟩ := run_ctPjsuaDestroy a w
  simp only [destroy, Prog.bind_def, Prog.run_bind, Outcome.andThen_events, run_assign,
    run_onRegistrationState, List.nil_append]
  intro hmem
  -- the tear-down tells of ended calls only
  rcases List.mem_append.mp hmem with hmem | hmem
  · exact (hes _ hmem).not_ofRegistration trivial
  · simp [Event.fail] at hmem

theorem session_in_down_of_destroy {s : Session} :
    ({ s.tearDown with pjsuaInitialized := false } : Session).In .down :=
  ⟨rfl, (Session.torn_tearDown s).setFlag false⟩

/-- A first registration all of whose calls succeed registers, and reports no failure. -/
theorem registered_of_down {w : World} (h : w.session.In .down) {a : Answers} (hs : a.SetUpOk)
    (ht : a.transportCreate = pjSuccess) (ha : a.accAdd = pjSuccess)
    (number host credentials : NSString) :
    ((registerWithNumber number host credentials).run (Cmd.handle a) w).state.Registered
        (requestedConfig number host credentials w.vars.config) ∧
      Event.fail ∉ ((registerWithNumber number host credentials).run (Cmd.handle a) w).events := by
  have hacc : ¬ 0 ≤ w.vars.accId := Int.not_le.mpr h.2.accId_neg
  have htransports : w.pjsua.transports = [] := h.2.transports_eq
  have haccounts : w.pjsua.accounts = [] := h.2.accounts_eq
  rw [run_registerWithNumber_of_setUp a w number host credentials h.1 hs
    ((h.2.putOk_running_iff a).mpr ha)]
  refine ⟨?_, fail_notMem_of_setUp _⟩
  -- without an account id, the account is added and not modified
  rw [World.put, World.setUp_accId, if_neg hacc]
  constructor
  · rfl
  · rfl
  · refine ⟨a.transportId, w.vars.config.unsignedPort, ?_⟩
    simp [World.setUp, Answers.created, htransports, ht]
  · exact ⟨Int.natCast_nonneg a.accId, by simp [World.setUp, haccounts]⟩

/-- `destroy`, and then a registration. -/
def destroyAndRegister (number host credentials : NSString) (d r : Answers × Locals) : List Step :=
  [⟨.op .destroy, d.1, d.2⟩, ⟨.op (.registerWithNumber number host credentials), r.1, r.2⟩]

/-- **`destroy` recovers**: after every history, `destroy` and a registration all of whose calls
succeed leave the phone registered, and report no failure. -/
theorem registered_after_destroy (config : CTSoftPhoneConfig) (steps : List Step)
    (number host credentials : NSString) (d r : Answers × Locals) (hs : r.1.SetUpOk)
    (ht : r.1.transportCreate = pjSuccess) (ha : r.1.accAdd = pjSuccess) :
    (worldAfter config (steps ++ destroyAndRegister number host credentials d r)).Registered
        (requestedConfig number host credentials (worldAfter config steps).vars.config) ∧
      Event.fail ∉ phone.trace (worldAfter config steps)
        (destroyAndRegister number host credentials d r) := by
  -- whatever the phase was, the library is down once it is destroyed
  have hsession := session_destroy d.1 (worldAfter config steps)
  have hdown : (destroy.run (Cmd.handle d.1) (worldAfter config steps)).state.session.In .down := by
    rw [hsession]
    exact session_in_down_of_destroy
  have hconfig : (destroy.run (Cmd.handle d.1) (worldAfter config steps)).state.vars.config =
      (worldAfter config steps).vars.config := congrArg Session.config hsession
  obtain ⟨hregistered, hsilent⟩ :=
    registered_of_down hdown hs ht ha number host credentials
  rw [hconfig] at hregistered
  constructor
  · have hafter : worldAfter config (steps ++ destroyAndRegister number host credentials d r) =
        phone.after (worldAfter config steps) (destroyAndRegister number host credentials d r) :=
      phone.after_append _ steps _
    rw [hafter]
    exact hregistered
  · intro hmem
    change Event.fail ∈ (destroy.run (Cmd.handle d.1) (worldAfter config steps)).events ++ (_ ++ [])
      at hmem
    rw [List.append_nil] at hmem
    -- neither of the two operations tells of a failure
    rcases List.mem_append.mp hmem with hmem | hmem
    · exact fail_notMem_destroy d.1 _ hmem
    · exact hsilent hmem

/-- A phone left stale by a failed registration recovers. -/
theorem registered_after_destroy_of_failed_create :
    (worldAfter ⟨5060, .udp⟩
        ([(Act.op (.registerWithNumber [] [] [])).answered { Answers.success with create := 1 }] ++
          destroyAndRegister [] [] [] (.success, ⟨0, pjsuaAccConfigDefault⟩)
            (.success, ⟨0, pjsuaAccConfigDefault⟩))).Registered
        (requestedConfig [] [] [] (worldAfter ⟨5060, .udp⟩
          [(Act.op (.registerWithNumber [] [] [])).answered
            { Answers.success with create := 1 }]).vars.config) ∧
      Event.fail ∉ phone.trace (worldAfter ⟨5060, .udp⟩
          [(Act.op (.registerWithNumber [] [] [])).answered { Answers.success with create := 1 }])
        (destroyAndRegister [] [] [] (.success, ⟨0, pjsuaAccConfigDefault⟩)
          (.success, ⟨0, pjsuaAccConfigDefault⟩)) :=
  registered_after_destroy _ _ _ _ _ _ _ (by decide) rfl rfl

end CTSoftPhone
