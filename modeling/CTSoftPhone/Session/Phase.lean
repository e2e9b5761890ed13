import CTSoftPhone.Session.Session

/-!
# Phases

Between steps the phone is in one of three phases. It is down before the first registration and
after each `destroy`; a registration that succeeds puts it up; one that fails leaves it stale, with
the library torn down and the flag still saying that it is set up. No later registration leaves
that phase. The phase after a history is computed from the history alone, and determines the flag,
the state of the library and its accounts.

## Main definitions

* `Phase`, `Phase.step`, `phaseAfter`: the phases, and the phase after a history
* `Session.In`: the sessions of a phase

## Main results

* `Session.In.step`: steps of a session are steps of its phase
* `in_phaseAfter`: after a history, the phone is in the phase of the history
-/

namespace CTSoftPhone

/-- The phases of the phone: down, up, or stale after a failed registration. -/
inductive Phase
  | down
  | up
  | stale
  deriving DecidableEq, Repr

namespace Phase

/-- The answers on which a registration succeeds. -/
def RegisterOk (a : Answers) : Phase → Prop
  | .down => a.SetUpOk ∧ a.accAdd = pjSuccess
  | .up => a.accModify = pjSuccess
  | .stale => False

instance (a : Answers) : DecidablePred (RegisterOk a) := fun p => by
  cases p <;> unfold RegisterOk <;> infer_instance

/-- What a step makes of a phase. -/
def step (st : Step) (p : Phase) : Phase :=
  match st.act with
  | .op (.registerWithNumber ..) => if p.RegisterOk st.answers then .up else .stale
  | .op .destroy => .down
  | .op (.handleIpChange _) | .op .hangup | .op .answercall | .op .mute | .op .unmute
  | .callback _ => p

end Phase

/-- The phase after a history. -/
def phaseAfter (steps : List Step) : Phase := steps.foldl (fun p st => p.step st) .down

@[simp] theorem phaseAfter_snoc (steps : List Step) (st : Step) :
    phaseAfter (steps ++ [st]) = (phaseAfter steps).step st := by
  simp [phaseAfter]

/-- The step tears the library down after the history: it destroys, or is a registration that
fails. -/
def TearsDown (steps : List Step) (st : Step) : Prop :=
  match st.act with
  | .op (.registerWithNumber ..) => ¬ (phaseAfter steps).RegisterOk st.answers
  | .op .destroy => True
  | .op (.handleIpChange _) | .op .hangup | .op .answercall | .op .mute | .op .unmute
  | .callback _ => False

namespace Session

/-- The library is down, and there is no account. -/
structure Torn (s : Session) : Prop where
  accId_neg : s.accId < 0
  state_eq : s.state = .null
  transports_eq : s.transports = []
  accounts_eq : s.accounts = []

/-- The library is running with one account, that of the phone. -/
structure Running (s : Session) : Prop where
  accId_nonneg : 0 ≤ s.accId
  state_eq : s.state = .running
  accounts_eq : ∃ cfg, s.accounts = [⟨s.accId, cfg⟩]

/-- The sessions of a phase. -/
def In (s : Session) : Phase → Prop
  | .down => s.pjsuaInitialized = false ∧ s.Torn
  | .up => s.pjsuaInitialized = true ∧ s.Running
  | .stale => s.pjsuaInitialized = true ∧ s.Torn

variable {s : Session}

theorem dropAccount_neg (accId : ℤ) : dropAccount accId < 0 := by
  unfold dropAccount
  split <;> omega

theorem torn_tearDown (s : Session) : s.tearDown.Torn :=
  ⟨dropAccount_neg s.accId, rfl, rfl, rfl⟩

theorem Torn.setFlag (h : s.Torn) (flag : Bool) : ({ s with pjsuaInitialized := flag }).Torn :=
  ⟨h.accId_neg, h.state_eq, h.transports_eq, h.accounts_eq⟩

@[simp] theorem modify_singleton (accId : ℤ) (cfg : PjsuaAccConfig)
    (f : PjsuaAccConfig → PjsuaAccConfig) :
    PjsuaAccount.modify [⟨accId, cfg⟩] accId f = [⟨accId, f cfg⟩] := by
  simp [PjsuaAccount.modify]

@[simp] theorem configOf_singleton (accId : ℤ) (cfg : PjsuaAccConfig) :
    PjsuaAccount.configOf [⟨accId, cfg⟩] accId = some cfg := by
  simp [PjsuaAccount.configOf]

/-- With an account, putting it modifies it. -/
theorem Running.putOk_iff (h : s.Running) (a : Answers) :
    PutOk a s.state s.accId ↔ a.accModify = pjSuccess := by
  simp [PutOk, h.accId_nonneg]

/-- Once the library runs, putting the first account adds it. -/
theorem Torn.putOk_running_iff (h : s.Torn) (a : Answers) :
    PutOk a .running s.accId ↔ a.accAdd = pjSuccess := by
  simp [PutOk, Int.not_le.mpr h.accId_neg, PjsuaState.Initialised]

/-- No account is put in a library that is down. -/
theorem Torn.not_putOk (h : s.Torn) (a : Answers) : ¬ PutOk a s.state s.accId := by
  simp [PutOk, Int.not_le.mpr h.accId_neg, h.state_eq, PjsuaState.Initialised]

/-- Putting the first account of an initialised library. -/
theorem putAccount_of_neg (a : Answers) (cfg : PjsuaAccConfig) (hacc : s.accId < 0) :
    s.putAccount a cfg =
      if s.state.Initialised ∧ a.accAdd = pjSuccess then
        { s with accId := a.accId, accounts := s.accounts ++ [⟨a.accId, cfg⟩] }
      else s.tearDown := by
  simp [putAccount, PutOk, Int.not_le.mpr hacc]

/-- Putting the account again. -/
theorem Running.putAccount (h : s.Running) (a : Answers) (cfg : PjsuaAccConfig) :
    s.putAccount a cfg =
      if a.accModify = pjSuccess then { s with accounts := [⟨s.accId, cfg⟩] }
      else s.tearDown := by
  obtain ⟨hacc, -, cfg', haccounts⟩ := h
  simp [Session.putAccount, PutOk, hacc, haccounts]

/-- A registration of a phone that is down. -/
theorem Torn.registerWithNumber (h : s.Torn) (hflag : s.pjsuaInitialized = false) (a : Answers)
    (cfg : PjsuaAccConfig) :
    s.registerWithNumber a cfg =
      if a.SetUpOk ∧ a.accAdd = pjSuccess then
        { s.setUp a with accId := a.accId, accounts := [⟨a.accId, cfg⟩] }
      else { s.tearDown with pjsuaInitialized := true } := by
  obtain ⟨hacc, -, -, haccounts⟩ := h
  by_cases hs : a.SetUpOk
  · have hput := putAccount_of_neg (s := s.setUp a) a cfg hacc
    simp only [Session.registerWithNumber, hflag, Bool.false_eq_true, if_false, hs, if_true, hput,
      true_and]
    by_cases ha : a.accAdd = pjSuccess <;>
      simp [setUp, tearDown, PjsuaState.Initialised, haccounts, ha]
  · simp [Session.registerWithNumber, hflag, hs]

/-- A registration of a stale phone tears down what is down. -/
theorem Torn.registerWithNumber_of_flag (h : s.Torn) (hflag : s.pjsuaInitialized = true)
    (a : Answers) (cfg : PjsuaAccConfig) : s.registerWithNumber a cfg = s.tearDown := by
  simp [Session.registerWithNumber, hflag, putAccount_of_neg a cfg h.accId_neg, h.state_eq,
    PjsuaState.Initialised]

/-- Binding the account to a transport keeps it. -/
theorem Running.bound (h : s.Running) (a : Answers) (locals : Locals) :
    ∃ cfg, s.bound a locals = [⟨s.accId, cfg⟩] := by
  obtain ⟨cfg, haccounts⟩ := h.accounts_eq
  by_cases hb : a.accSetTransport = pjSuccess
  · exact ⟨_, by rw [Session.bound, if_pos hb, haccounts, modify_singleton]⟩
  · exact ⟨_, by rw [Session.bound, if_neg hb, haccounts]⟩

/-- A switch keeps the library running with the account of the phone. -/
theorem Running.switchTransport (h : s.Running) (a : Answers) (locals : Locals)
    (transport : CTSoftPhoneTransportType) : (s.switchTransport a locals transport).Running := by
  obtain ⟨cfg, hbound⟩ := h.bound a locals
  refine ⟨h.accId_nonneg, h.state_eq, ?_⟩
  by_cases hm : a.accModify = pjSuccess <;> simp [Session.switchTransport, hbound, hm]

/-- The account of a running library can be read back. -/
theorem Running.readReply (h : s.Running) (a : Answers) (locals : Locals) :
    ∃ cfg, s.readReply a locals = .ofConfig a.accGetConfig cfg := by
  obtain ⟨cfg, hbound⟩ := h.bound a locals
  exact ⟨cfg, by simp only [Session.readReply, hbound, configOf_singleton]⟩

theorem In.registerWithNumber {p : Phase} (h : s.In p) (a : Answers) (cfg : PjsuaAccConfig) :
    (s.registerWithNumber a cfg).In (if p.RegisterOk a then .up else .stale) := by
  cases p with
  | down =>
    rw [h.2.registerWithNumber h.1]
    by_cases hok : a.SetUpOk ∧ a.accAdd = pjSuccess
    · rw [if_pos hok, if_pos (show Phase.RegisterOk a .down from hok)]
      exact ⟨rfl, Int.natCast_nonneg a.accId, rfl, cfg, rfl⟩
    · rw [if_neg hok, if_neg (show ¬ Phase.RegisterOk a .down from hok)]
      exact ⟨rfl, (torn_tearDown s).setFlag true⟩
  | up =>
    rw [Session.registerWithNumber, if_pos h.1, h.2.putAccount]
    by_cases hok : a.accModify = pjSuccess
    · rw [if_pos hok, if_pos (show Phase.RegisterOk a .up from hok)]
      exact ⟨h.1, h.2.accId_nonneg, h.2.state_eq, cfg, rfl⟩
    · rw [if_neg hok, if_neg (show ¬ Phase.RegisterOk a .up from hok)]
      exact ⟨h.1, torn_tearDown s⟩
  | stale =>
    -- the flag skips the set-up, and no account is put in a library that is down
    rw [h.2.registerWithNumber_of_flag h.1, if_neg (show ¬ Phase.RegisterOk a .stale from id)]
    exact ⟨h.1, torn_tearDown s⟩

theorem In.handleIpChange {p : Phase} (h : s.In p) (a : Answers) (locals : Locals)
    (transport : CTSoftPhoneTransportType) : (s.handleIpChange a locals transport).In p := by
  rw [Session.handleIpChange]
  split
  · next hguard =>
    cases p with
    | up => exact ⟨h.1, h.2.switchTransport a locals transport⟩
    -- without an account there is no switch
    | down => exact absurd hguard.2.1 (Int.not_le.mpr h.2.accId_neg)
    | stale => exact absurd hguard.2.1 (Int.not_le.mpr h.2.accId_neg)
  · exact h

theorem In.setCallId {p : Phase} (h : s.In p) (callId : ℤ) :
    ({ s with callId := callId }).In p := by
  cases p with
  | up => exact ⟨h.1, h.2.accId_nonneg, h.2.state_eq, h.2.accounts_eq⟩
  | down => exact ⟨h.1, h.2.accId_neg, h.2.state_eq, h.2.transports_eq, h.2.accounts_eq⟩
  | stale => exact ⟨h.1, h.2.accId_neg, h.2.state_eq, h.2.transports_eq, h.2.accounts_eq⟩

/-- **A step of a session is a step of its phase.** -/
theorem In.step {p : Phase} (h : s.In p) (st : Step) : (s.step st).In (p.step st) := by
  obtain ⟨act, a, locals⟩ := st
  cases act with
  | op o =>
    cases o with
    | registerWithNumber number host credentials => exact h.registerWithNumber a _
    | handleIpChange transport => exact h.handleIpChange a locals transport
    | destroy => exact ⟨rfl, (torn_tearDown s).setFlag false⟩
    | hangup => exact h
    | answercall => exact h
    | mute => exact h
    | unmute => exact h
  | callback cb =>
    cases cb with
    | incomingCall callId =>
      change (if s.state = .running then { s with callId := callId } else s).In p
      split
      · exact h.setCallId callId
      · exact h
    | callState callId state => exact h
    | callMediaState callId => exact h
    | regState2 info => exact h

/-- The library is initialised while the phone is up. -/
theorem In.initialised_iff {p : Phase} (h : s.In p) : s.state.Initialised ↔ p = .up := by
  cases p with
  | up => simp [h.2.state_eq, PjsuaState.Initialised]
  | down => simp [h.2.state_eq, PjsuaState.Initialised]
  | stale => simp [h.2.state_eq, PjsuaState.Initialised]

theorem in_initial (config : CTSoftPhoneConfig) : (initial config).In .down :=
  ⟨rfl, show (-1 : ℤ) < 0 by decide, rfl, rfl, rfl⟩

end Session

/-- **The phase of the phone** after a history is that of the history. -/
theorem in_phaseAfter (config : CTSoftPhoneConfig) (steps : List Step) :
    (worldAfter config steps).session.In (phaseAfter steps) :=
  phone.after_simulates (R := fun w p => w.session.In p) (World.initial config)
    (Session.in_initial config) (fun st w _ h => session_step st w ▸ h.step st) steps

/-! ## What the phase determines -/

section Phase

variable (config : CTSoftPhoneConfig) (steps : List Step)

theorem pjsuaInitialized_iff :
    (worldAfter config steps).vars.pjsuaInitialized = true ↔ phaseAfter steps ≠ .down := by
  have h := in_phaseAfter config steps
  cases hp : phaseAfter steps <;> rw [hp] at h <;> simpa [World.session] using h.1

theorem state_of_up (h : phaseAfter steps = .up) :
    (worldAfter config steps).pjsua.state = .running := by
  have hin := in_phaseAfter config steps
  rw [h] at hin
  exact hin.2.state_eq

theorem state_of_ne_up (h : phaseAfter steps ≠ .up) :
    (worldAfter config steps).pjsua.state = .null := by
  have hin := in_phaseAfter config steps
  cases hp : phaseAfter steps <;> rw [hp] at hin
  · exact hin.2.state_eq
  · exact absurd hp h
  · exact hin.2.state_eq

theorem state_eq_running_iff :
    (worldAfter config steps).pjsua.state = .running ↔ phaseAfter steps = .up := by
  by_cases h : phaseAfter steps = .up
  · simp [h, state_of_up config steps h]
  · simp [h, state_of_ne_up config steps h]

theorem initialised_iff :
    (worldAfter config steps).pjsua.state.Initialised ↔ phaseAfter steps = .up :=
  (in_phaseAfter config steps).initialised_iff

theorem accId_nonneg_iff :
    0 ≤ (worldAfter config steps).vars.accId ↔ phaseAfter steps = .up := by
  have h := in_phaseAfter config steps
  cases hp : phaseAfter steps <;> rw [hp] at h
  · simpa [World.session] using h.2.accId_neg
  · simpa [World.session] using h.2.accId_nonneg
  · simpa [World.session] using h.2.accId_neg

end Phase

end CTSoftPhone
