import CTSoftPhone.Session.AccountConfig
import CTSoftPhone.Wrapper.World

/-!
# Runs of a registration

A registration sets the library up unless the flag says it is, and then puts its account. Each
part either succeeds, or tears the library down and tells the delegate. The two outcomes of each
part are given exactly: the world they end in, and what they do on the way.

## Main definitions

* `Answers.SetUpOk`, `PutOk`: the answers on which the set-up, and the account, succeed
* `World.setUp`, `World.put`: the worlds once the library is set up, and once the account is put
* `Event.OfFailure`: what a failed set-up does before the delegate is told

## Main results

* `run_setUp_of_ok`, `run_setUp_of_failed`: the outcomes of the set-up
* `run_putAccount_of_ok`, `run_putAccount_of_failed`: the outcomes of putting the account
* `run_registerWithNumber_of_initialized`, `run_registerWithNumber_of_not_initialized`: a
  registration is its parts
-/

namespace CTSoftPhone

/-- The answers on which the set-up succeeds; that of `pjsua_transport_create` is not among
them, as `pjsua_start` overwrites it before it is tested. -/
def Answers.SetUpOk (a : Answers) : Prop :=
  a.create = pjSuccess ∧ a.init = pjSuccess ∧ a.start = pjSuccess

instance (a : Answers) : Decidable a.SetUpOk := by
  unfold Answers.SetUpOk; infer_instance

/-- The answers on which an account is put: it is modified when there is one, and otherwise added
to an initialised library. -/
def PutOk (a : Answers) (state : PjsuaState) (accId : ℤ) : Prop :=
  if 0 ≤ accId then a.accModify = pjSuccess else state.Initialised ∧ a.accAdd = pjSuccess

instance (a : Answers) (state : PjsuaState) (accId : ℤ) : Decidable (PutOk a state accId) := by
  unfold PutOk; infer_instance

/-- The transports a set-up leaves. -/
def Answers.created (a : Answers) (config : CTSoftPhoneConfig) : List PjsuaTransport :=
  if a.transportCreate = pjSuccess then
    [⟨a.transportId, config.pjTransportType, config.unsignedPort⟩]
  else []

/-- The events of a part of a registration that fails, the notification at its end apart. -/
def Event.OfFailure (accId : ℤ) : Event → Prop
  | .api .create _ _ | .api .init _ _ | .api .start _ _ => True
  | .api (.transportCreate ..) s _ => s.Initialised
  | e => ∃ s, e.OfTeardown s accId

theorem Event.OfTeardown.ofFailure {state : PjsuaState} {accId : ℤ} {e : Event}
    (he : e.OfTeardown state accId) : e.OfFailure accId := by
  unfold Event.OfFailure
  split
  · trivial
  · trivial
  · trivial
  · exact he.elim
  · exact ⟨state, he⟩

section SetUp

variable (a : Answers) (w : World)

/-- The world once the library is set up. -/
def World.setUp (a : Answers) (w : World) : World :=
  ⟨{ w.vars with pjsuaInitialized := true, status := pjSuccess },
    { w.pjsua with
      state := .running
      transports := w.pjsua.transports ++ a.created w.vars.config }⟩

@[simp] theorem World.setUp_config : (w.setUp a).vars.config = w.vars.config := rfl

@[simp] theorem World.setUp_accId : (w.setUp a).vars.accId = w.vars.accId := rfl

/-- The calls that set the library up, and their replies. -/
def World.setUpEvents (a : Answers) (w : World) : List Event :=
  [.api .create w.pjsua.state (.ofStatus pjSuccess),
    .api .init .created (.ofStatus pjSuccess),
    .api (.transportCreate w.vars.config.pjTransportType w.vars.config.unsignedPort) .init
      (.ofId a.transportCreate a.transportId),
    .api .start .init (.ofStatus pjSuccess)]

theorem run_setUp_of_ok (h : a.SetUpOk) :
    setUp.run (Cmd.handle a) w = ⟨true, w.setUp a, w.setUpEvents a⟩ := by
  obtain ⟨hc, hi, hs⟩ := h
  by_cases ht : a.transportCreate = pjSuccess <;>
    simp [setUp, Outcome.andThen, Pjsua.reply, Pjsua.after, Answers.created, World.setUp,
      World.setUpEvents, hc, hi, hs, ht]

/-- A failed set-up has torn the library down, leaving the flag up, and told the delegate. -/
theorem run_setUp_of_failed (h : ¬ a.SetUpOk) :
    ∃ status ci es, setUp.run (Cmd.handle a) w =
      ⟨false, ⟨{ w.vars with
          pjsuaInitialized := true, status := status, ci := ci, accId := dropAccount w.vars.accId },
          .down⟩, es ++ [.notified (.registration .fail)]⟩ ∧
      ∀ e ∈ es, e.OfFailure w.vars.accId := by
  -- the first call that fails decides which calls were made
  by_cases hc : a.create = pjSuccess
  · by_cases hi : a.init = pjSuccess
    · have hs : a.start ≠ pjSuccess := fun hs => h ⟨hc, hi, hs⟩
      obtain ⟨ci, es, hrun, hes⟩ := run_registrationFailed a
        ⟨{ w.vars with pjsuaInitialized := true, status := a.start },
          { w.pjsua with
            state := .init, transports := w.pjsua.transports ++ a.created w.vars.config }⟩
      refine ⟨a.start, ci, [.api .create w.pjsua.state (.ofStatus a.create),
        .api .init .created (.ofStatus a.init),
        .api (.transportCreate w.vars.config.pjTransportType w.vars.config.unsignedPort) .init
          (.ofId a.transportCreate a.transportId),
        .api .start .init (.ofStatus a.start)] ++ es, ?_, ?_⟩
      · by_cases ht : a.transportCreate = pjSuccess <;>
          simp_all [setUp, Outcome.andThen, Pjsua.reply, Pjsua.after, Answers.created, dropAccount]
      · simpa [Event.OfFailure, PjsuaState.Initialised] using fun e he => (hes e he).ofFailure
    · obtain ⟨ci, es, hrun, hes⟩ := run_registrationFailed a
        ⟨{ w.vars with pjsuaInitialized := true, status := a.init },
          { w.pjsua with state := .created }⟩
      refine ⟨a.init, ci, [.api .create w.pjsua.state (.ofStatus a.create),
        .api .init .created (.ofStatus a.init)] ++ es, ?_, ?_⟩
      · simp [setUp, Outcome.andThen, Pjsua.reply, Pjsua.after, hc, hi, hrun, dropAccount]
      · simpa [Event.OfFailure] using fun e he => (hes e he).ofFailure
  · obtain ⟨ci, es, hrun, hes⟩ := run_registrationFailed a
      { w with vars := { w.vars with pjsuaInitialized := true, status := a.create } }
    refine ⟨a.create, ci, .api .create w.pjsua.state (.ofStatus a.create) :: es, ?_, ?_⟩
    · simp [setUp, Outcome.andThen, Pjsua.reply, Pjsua.after, hc, hrun, dropAccount]
    · simpa [Event.OfFailure] using fun e he => (hes e he).ofFailure

end SetUp

section PutAccount

variable (a : Answers) (w : World) (cfg : PjsuaAccConfig)

/-- The world once the account is put. -/
def World.put (a : Answers) (cfg : PjsuaAccConfig) (w : World) : World :=
  if 0 ≤ w.vars.accId then
    ⟨{ w.vars with status := pjSuccess }, w.pjsua.modifyAcc w.vars.accId fun _ => cfg⟩
  else
    ⟨{ w.vars with status := pjSuccess, accId := a.accId },
      { w.pjsua with accounts := w.pjsua.accounts ++ [⟨a.accId, cfg⟩] }⟩

/-- The call that puts the account, and its reply. -/
def World.putEvent (a : Answers) (cfg : PjsuaAccConfig) (w : World) : Event :=
  if 0 ≤ w.vars.accId then .api (.accModify w.vars.accId cfg) w.pjsua.state (.ofStatus a.accModify)
  else .api (.accAdd cfg) w.pjsua.state
    (.ofId (if w.pjsua.state.Initialised then a.accAdd else pjEInvalidOp) a.accId)

theorem run_putAccount_of_ok (h : PutOk a w.pjsua.state w.vars.accId) :
    (putAccount cfg).run (Cmd.handle a) w = ⟨(), w.put a cfg, [w.putEvent a cfg]⟩ := by
  by_cases hacc : 0 ≤ w.vars.accId
  · have hm : a.accModify = pjSuccess := by simpa [PutOk, hacc] using h
    simp [putAccount, Outcome.andThen, Pjsua.reply, Pjsua.after, World.put, World.putEvent, hacc,
      hm]
  · obtain ⟨hi, ha⟩ : w.pjsua.state.Initialised ∧ a.accAdd = pjSuccess := by
      simpa [PutOk, hacc] using h
    simp [putAccount, Outcome.andThen, Pjsua.reply, Pjsua.after, World.put, World.putEvent, hacc,
      hi, ha]

/-- Putting the account failed: the library is torn down, and the delegate told. -/
theorem run_putAccount_of_failed (h : ¬ PutOk a w.pjsua.state w.vars.accId) :
    ∃ status ci es, (putAccount cfg).run (Cmd.handle a) w =
      ⟨(), ⟨{ w.vars with status := status, ci := ci, accId := dropAccount w.vars.accId }, .down⟩,
        w.putEvent a cfg :: es ++ [.notified (.registration .fail)]⟩ ∧
      ∀ e ∈ es, e.OfTeardown w.pjsua.state w.vars.accId := by
  by_cases hacc : 0 ≤ w.vars.accId
  · have hm : a.accModify ≠ pjSuccess := by simpa [PutOk, hacc] using h
    obtain ⟨ci, es, hrun, hes⟩ := run_registrationFailed a
      { w with vars := { w.vars with status := a.accModify } }
    refine ⟨a.accModify, ci, es, ?_, hes⟩
    simp [putAccount, Outcome.andThen, Pjsua.reply, Pjsua.after, World.putEvent, hacc, hm, hrun]
  · have ha : ¬ (w.pjsua.state.Initialised ∧ a.accAdd = pjSuccess) := by
      simpa [PutOk, hacc] using h
    -- the library refuses the account, or is not initialised
    by_cases hi : w.pjsua.state.Initialised
    · have ha : a.accAdd ≠ pjSuccess := fun he => ha ⟨hi, he⟩
      obtain ⟨ci, es, hrun, hes⟩ := run_registrationFailed a
        { w with vars := { w.vars with status := a.accAdd } }
      refine ⟨a.accAdd, ci, es, ?_, hes⟩
      simp [putAccount, Outcome.andThen, Pjsua.reply, Pjsua.after, World.putEvent, hacc, hi, ha,
        hrun]
    · have hne : pjEInvalidOp ≠ pjSuccess := by decide
      obtain ⟨ci, es, hrun, hes⟩ := run_registrationFailed a
        { w with vars := { w.vars with status := pjEInvalidOp } }
      refine ⟨pjEInvalidOp, ci, es, ?_, hes⟩
      simp [putAccount, Outcome.andThen, Pjsua.reply, Pjsua.after, World.putEvent, hacc, hi, hne,
        hrun]

end PutAccount

section Register

variable (a : Answers) (w : World) (number host credentials : NSString)

theorem run_registerWithNumber_of_initialized (h : w.vars.pjsuaInitialized = true) :
    (registerWithNumber number host credentials).run (Cmd.handle a) w =
      (putAccount (requestedConfig number host credentials w.vars.config)).run
        (Cmd.handle a) w := by
  simp [registerWithNumber, Outcome.andThen, h, accountConfig_eq]

theorem run_registerWithNumber_of_not_initialized (h : w.vars.pjsuaInitialized = false) :
    (registerWithNumber number host credentials).run (Cmd.handle a) w =
      (setUp.run (Cmd.handle a) w).andThen fun ok w =>
        if ok then
          (putAccount (requestedConfig number host credentials w.vars.config)).run (Cmd.handle a) w
        else ⟨(), w, []⟩ := by
  simp only [registerWithNumber, Prog.bind_def, Prog.run_bind, run_vars, h, Bool.not_false,
    if_true, Outcome.andThen, List.nil_append]
  cases (setUp.run (Cmd.handle a) w).val <;> simp [Outcome.andThen, accountConfig_eq]

/-- A registration that sets the library up and adds the account. -/
theorem run_registerWithNumber_of_setUp (h : w.vars.pjsuaInitialized = false) (hs : a.SetUpOk)
    (hput : PutOk a .running w.vars.accId) :
    (registerWithNumber number host credentials).run (Cmd.handle a) w =
      ⟨(), (w.setUp a).put a (requestedConfig number host credentials w.vars.config),
        w.setUpEvents a ++
          [(w.setUp a).putEvent a (requestedConfig number host credentials w.vars.config)]⟩ := by
  rw [run_registerWithNumber_of_not_initialized a w number host credentials h,
    run_setUp_of_ok a w hs]
  simp only [Outcome.andThen, if_true, World.setUp_config]
  rw [run_putAccount_of_ok a (w.setUp a) _ hput]

end Register

end CTSoftPhone
