import CTSoftPhone.Lifecycle.Account
import CTSoftPhone.Lifecycle.Order
import CTSoftPhone.Lifecycle.Serial
import CTSoftPhone.Programs.Observed
import CTSoftPhone.Wrapper.Rereading

/-!
# Operations among callbacks

The serial queue executes the operations, in the order in which they are requested, while any number
of callbacks run on the worker threads of pjsua. Each of them executes one command at a time, in any
order, and a callback that has been raised may go on at any later time.

What the operations decide on, the life cycle of the library and its account, is nothing a callback
writes. So the operations lead where they lead one after another, undisturbed, and every function of
pjsua that needs the library in some state, or an account, finds them as it needs.

## Main definitions

* `phoneThreads`: the operations as jobs of the queue, the callbacks as tasks of the workers
* `lifecycleView`: what the operations decide on
* `Event.watched`: what of the events concerns it, or tells of the registration

## Main results

* `steady_op`: the operations are insensitive to whatever keeps the life cycle, and so is what they
  show of it
* `lifecycle_serial`: in every interleaving they lead where they lead one after another
* `inOrder_next`: in every interleaving they call the library in order
-/

namespace CTSoftPhone

/-! ## The threads -/

/-- A callback that pjsua raises, with the answers to its queries. -/
structure Raised where
  callback : Callback
  answers : Answers

/-- The operations are the jobs of the queue, the callbacks the tasks of the workers. A callback is
raised by a running library. -/
def phoneThreads : Concurrent Cmd.Ans World Event Queued Raised where
  body q := q.op.rereading q.locals
  handle q := Cmd.handle q.answers
  task r := r.callback.rereading
  taskHandle r := Cmd.handle r.answers
  spawn r w :=
    if w.pjsua.state = .running then
      some ⟨(), { w with pjsua := w.pjsua.raise r.callback }, [.raised r.callback]⟩
    else none

/-- The threads of the phone after some moves. -/
abbrev threadsAfter (config : CTSoftPhoneConfig) (moves : List (Concurrent.Move Queued Raised)) :
    Concurrent.Running Cmd.Ans World Queued Raised :=
  phoneThreads.machine.after (Concurrent.initial (.initial config)) moves

/-- The steps that operations are. -/
def stepsOf (qs : List Queued) : List Step := qs.map Queued.step

theorem stepsOf_snoc (qs : List Queued) (q : Queued) :
    stepsOf (qs ++ [q]) = stepsOf qs ++ [q.step] := List.map_append

/-- **Operations done one after another** are the history of their steps. -/
theorem serial_eq_worldAfter (config : CTSoftPhoneConfig) (qs : List Queued) :
    phoneThreads.serial qs (.initial config) = worldAfter config (stepsOf qs) := by
  induction qs using List.reverseRecOn with
  | nil => rfl
  | append_singleton qs q ih =>
    rw [Concurrent.serial_snoc, ih, stepsOf_snoc, worldAfter, worldAfter, phone.after_snoc]
    exact congrArg Outcome.state (q.op.run_rereading q.answers _ q.locals)

/-! ## The life cycle -/

/-- What the operations decide on: the life cycle of the library and its account. -/
def lifecycleView : View World where
  rel w w' := w.vars.Agree w'.vars ∧ w.pjsua.Agree w'.pjsua
  symm h := ⟨h.1.symm, h.2.symm⟩
  trans h h' := ⟨h.1.trans h'.1, h.2.trans h'.2⟩

theorem Pjsua.Agree.inOrder {p p' : Pjsua} (h : p.Agree p') {c : Api} (hc : c.InOrder p') :
    c.InOrder p := by
  unfold Api.InOrder at hc ⊢
  rw [h.state_eq, h.accounts_eq]
  exact hc

/-! ## Calls that the life cycle answers -/

theorem Pjsua.Agree.reply {p p' : Pjsua} (h : p.Agree p') (a : Answers) (c : Api) :
    p.reply a c = p'.reply a c := by
  unfold Pjsua.reply
  rw [h.state_eq, h.accounts_eq]

theorem Pjsua.Agree.after {p p' : Pjsua} (h : p.Agree p') (c : Api) (r : Reply) :
    (p.after c r).Agree (p'.after c r) := by
  obtain ⟨state, transports, accounts, calls, conf⟩ := p
  obtain ⟨state', transports', accounts', calls', conf'⟩ := p'
  obtain ⟨hstate, htransports, haccounts⟩ := h
  dsimp only at hstate htransports haccounts
  subst hstate htransports haccounts
  unfold Pjsua.after
  split <;> first | exact ⟨rfl, rfl, rfl⟩ | (split <;> exact ⟨rfl, rfl, rfl⟩)

/-! ## Commands that leave the life cycle alone -/

theorem Cmd.Quiet.hides {c : Cmd} (h : c.Quiet) (a : Answers) :
    lifecycleView.Hides (Cmd.handle a) c := by
  intro w hw
  cases c with
  | assign f => exact ⟨h w.vars hw.1.callId_nonneg.1, hw.2⟩
  | api c =>
    cases c with
    | confConnect source sink =>
      have hsame : w.pjsua.Agree (w.pjsua.after (.confConnect source sink)
          (w.pjsua.reply a (.confConnect source sink))) := by
        rw [Pjsua.after_confConnect]
        exact ⟨rfl, rfl, rfl⟩
      exact ⟨hw.1, hsame⟩
    | _ => first | exact hw | exact ⟨hw.1, rfl, rfl, rfl⟩ | exact h.elim
  | endCall callId => exact ⟨hw.1, rfl, rfl, rfl⟩
  | _ => exact hw

/-- What the queue is watched for: what it does to the life cycle, and tells of the registration. -/
def Event.OfLifecycle : Event → Prop
  | .api c _ _ => ¬ c.Quiet
  | .notified (.registration _) => True
  | .notified (.call _) | .raised _ => False

instance : DecidablePred Api.Quiet
  | .callAnswer _ | .callHangup _ | .callHangupAll | .callGetInfo _ | .confConnect ..
  | .confDisconnect .. => .isTrue trivial
  | .create | .init | .start | .destroy | .transportCreate .. | .accAdd _ | .accModify ..
  | .accDel _ | .accGetConfig _ | .accSetTransport .. | .handleIpChange => .isFalse id

instance : DecidablePred Event.OfLifecycle
  | .api c _ _ => instDecidableNot (p := c.Quiet)
  | .notified (.registration _) => .isTrue trivial
  | .notified (.call _) | .raised _ => .isFalse id

/-- An event that is watched for. -/
def Event.watched (e : Event) : Option Event := if e.OfLifecycle then some e else none

theorem Cmd.Discreet.unwatched {c : Cmd} (h : c.Discreet) (a : Answers) (w : World) :
    (Cmd.handle a c w).events.filterMap Event.watched = [] := by
  cases c with
  | api c => simp [Cmd.handle, Event.watched, Event.OfLifecycle, show c.Quiet from h]
  | notify n =>
    cases n with
    | registration state => exact h.elim
    | call state => rfl
  | _ => rfl

/-! ## Operations under interference -/

/-- A program that is insensitive to whatever keeps the life cycle, and shows what it shows
undisturbed. -/
abbrev Steady {α : Type} (a : Answers) (p : Phone α) : Prop :=
  p.Insensitive ((Cmd.handle a).logged Event.watched) (lifecycleView.logged Event)
    fun c s => c.InOrder s.1

section Steady

variable {a : Answers}

theorem steady_of_discreet {p : Phone Unit} (h : p.Only Cmd.Discreet) : Steady a p :=
  .of_only (h.mono fun _ hc (s : World × List Event) => hc.quiet.inOrder s.1) <|
    h.mono fun _ hc => (hc.quiet.hides a).logged (hc.unwatched a)

theorem steady_vars {α : Type} {f : Vars → Phone α} (hf : ∀ v v' : Vars, v.Agree v' → f v = f v')
    (h : ∀ v, Steady a (f v)) : Steady a (vars >>= f) :=
  Prog.Insensitive.observe
    (fun _ _ hst => ⟨hf _ _ hst.1.1, ⟨hst.1, congrArg (· ++ []) hst.2⟩, id⟩) h

theorem steady_assign {f : Vars → Vars} (hf : ∀ v v' : Vars, v.Agree v' → (f v).Agree (f v')) :
    Steady a (assign f) :=
  .call fun _ _ hst => ⟨rfl, ⟨⟨hf _ _ hst.1.1, hst.1.2⟩, congrArg (· ++ []) hst.2⟩, id⟩

/-- The library answers, and shows its state, as the life cycle has it. -/
theorem steady_api (c : Api) : Steady a (api c) := by
  refine .call fun s t hst => ?_
  have hreply := hst.1.2.reply a c
  have hafter := hst.1.2.after c (t.1.pjsua.reply a c)
  refine ⟨hreply, ⟨⟨hst.1.1, ?_⟩, ?_⟩, hst.1.2.inOrder⟩
  · change (s.1.pjsua.after c (s.1.pjsua.reply a c)).Agree _
    rw [hreply]
    exact hafter
  · change s.2 ++ [Event.api c s.1.pjsua.state (s.1.pjsua.reply a c)].filterMap Event.watched = _
    rw [hst.2, hst.1.2.state_eq, hreply]
    rfl

theorem steady_onRegistrationState (state : CTSoftPhoneRegistrationState) :
    Steady a (Delegate.onRegistrationState state) :=
  .call fun _ _ hst => ⟨rfl, ⟨hst.1, congrArg (· ++ _) hst.2⟩, id⟩

theorem steady_setStatus (status : PjStatus) : Steady a (setStatus status) :=
  steady_assign fun _ _ h => ⟨h.pjsuaInitialized_eq, rfl, h.accId_eq, h.config_eq, h.callId_nonneg⟩

theorem steady_ctPjsuaDestroy : Steady a ctPjsuaDestroy := by
  have hdelete : Steady a ctPjsuaDeleteAccount := by
    refine steady_vars (fun v v' h => by rw [h.accId_eq]) fun v => .ite (.ret ()) ?_
    refine (steady_of_discreet discreet_pjsuaCallHangupAll).bind fun _ => ?_
    refine steady_vars (fun v v' h => by rw [h.accId_eq]) fun v => (steady_api _).bind fun _ => ?_
    exact steady_assign fun _ _ h =>
      ⟨h.pjsuaInitialized_eq, h.status_eq, rfl, h.config_eq, h.callId_nonneg⟩
  exact hdelete.bind fun _ => (steady_api _).bind fun _ => .ret ()

theorem steady_registrationFailed : Steady a registrationFailed :=
  steady_ctPjsuaDestroy.bind fun _ => steady_onRegistrationState .fail

/-- The end of a step of the set-up: go on, or give up. -/
theorem steady_unlessFailed {p : Phone Bool} (hp : Steady a p) :
    Steady a (do
      if (← vars).status ≠ pjSuccess then
        registrationFailed
        return false
      p) :=
  steady_vars (fun v v' h => by rw [h.status_eq]) fun _ =>
    .ite (steady_registrationFailed.bind fun _ => .ret false) hp

theorem steady_setUp : Steady a setUp := by
  refine Prog.Insensitive.bind (steady_assign fun _ _ h =>
    ⟨rfl, h.status_eq, h.accId_eq, h.config_eq, h.callId_nonneg⟩) fun _ => ?_
  refine (steady_api .create).bind fun _ => (steady_setStatus _).bind fun _ =>
    steady_unlessFailed ?_
  refine (steady_api .init).bind fun _ => (steady_setStatus _).bind fun _ =>
    steady_unlessFailed ?_
  refine steady_vars (fun v v' h => by rw [h.config_eq]) fun v => ?_
  exact (steady_api _).bind fun _ => (steady_setStatus _).bind fun _ =>
    (steady_api .start).bind fun _ => (steady_setStatus _).bind fun _ =>
      steady_unlessFailed (.ret true)

theorem steady_putAccount (cfg : PjsuaAccConfig) : Steady a (putAccount cfg) := by
  have hend : Steady a (do
      if (← vars).status = pjSuccess then return
      registrationFailed) :=
    steady_vars (fun v v' h => by rw [h.status_eq]) fun _ =>
      .ite (.ret ()) steady_registrationFailed
  refine steady_vars (fun v v' h => by rw [h.accId_eq]) fun v => .ite ?_ ?_
  · refine steady_vars (fun v v' h => by rw [h.accId_eq]) fun v => ?_
    exact (steady_api _).bind fun _ => (steady_setStatus _).bind fun _ => hend
  · refine (steady_api _).bind fun r => Prog.Insensitive.bind ?_ fun _ => hend
    refine steady_assign fun v v' h =>
      ⟨h.pjsuaInitialized_eq, rfl, ?_, h.config_eq, h.callId_nonneg⟩
    exact congrArg r.id.getD h.accId_eq

theorem steady_registerWithNumber (number host credentials : NSString) :
    Steady a (registerWithNumber number host credentials) := by
  refine steady_vars (fun v v' h => by rw [h.pjsuaInitialized_eq]) fun v =>
    .ite (steady_setUp.bind fun _ => .ite (.ret ()) ?_) ?_
  -- with or without a set-up, the account comes last
  all_goals
    refine steady_vars (fun v v' h => by rw [h.config_eq]) fun v => ?_
    cases accountConfig number host credentials v.config with
    | some cfg => exact steady_putAccount cfg
    | none => exact steady_onRegistrationState .fail

theorem steady_switchTransport (locals : Locals) (transport : CTSoftPhoneTransportType) :
    Steady a (switchTransport locals transport) := by
  refine Prog.Insensitive.bind (steady_assign fun v v' h =>
    ⟨h.pjsuaInitialized_eq, h.status_eq, h.accId_eq, ?_, h.callId_nonneg⟩) fun _ => ?_
  · rw [h.config_eq]
  refine steady_vars (fun v v' h => by rw [h.config_eq]) fun v => ?_
  refine (steady_api _).bind fun created => (steady_setStatus _).bind fun _ => ?_
  refine steady_vars (fun v v' h => by rw [h.accId_eq]) fun v => (steady_api _).bind fun _ => ?_
  refine steady_vars (fun v v' h => by rw [h.accId_eq]) fun v => (steady_api _).bind fun _ => ?_
  refine steady_vars (fun v v' h => by rw [h.accId_eq]) fun v => ?_
  exact (steady_api _).bind fun _ => .ret ()

theorem steady_handleIpChange (locals : Locals) (transport : CTSoftPhoneTransportType) :
    Steady a (handleIpChange locals transport) := by
  have hnotify : Steady a (do let _ ← api .handleIpChange) := (steady_api _).bind fun _ => .ret ()
  refine steady_vars (fun v v' h => ?_) fun v => .ite (.ret ()) <|
    .ite ((steady_switchTransport locals transport).bind fun _ => hnotify) hnotify
  -- of the current call it matters only that its id is not negative
  simp only [h.accId_eq, h.config_eq, Int.not_lt.mpr h.callId_nonneg.1,
    Int.not_lt.mpr h.callId_nonneg.2]

theorem steady_destroy : Steady a destroy :=
  steady_ctPjsuaDestroy.bind fun _ => Prog.Insensitive.bind (steady_assign fun _ _ h =>
    ⟨rfl, h.status_eq, h.accId_eq, h.config_eq, h.callId_nonneg⟩) fun _ =>
      steady_onRegistrationState .destroyed

/-- **Every operation** is insensitive to whatever keeps the life cycle, and so is what it shows. -/
theorem steady_op (o : Op) (locals : Locals) : Steady a (o.rereading locals) := by
  cases o with
  | registerWithNumber number host credentials =>
    exact steady_registerWithNumber number host credentials
  | handleIpChange transport => exact steady_handleIpChange locals transport
  | destroy => exact steady_destroy
  | hangup => exact steady_of_discreet (discreet_callOp (.inl rfl) locals)
  | answercall => exact steady_of_discreet (discreet_callOp (.inr (.inl rfl)) locals)
  | mute => exact steady_of_discreet (discreet_callOp (.inr (.inr (.inl rfl))) locals)
  | unmute => exact steady_of_discreet (discreet_callOp (.inr (.inr (.inr rfl))) locals)

end Steady

/-! ## The phone among callbacks -/

/-- **The operations and the callbacks**: the operations are insensitive to the callbacks, and call
the library in order. -/
theorem isolated_phoneThreads (config : CTSoftPhoneConfig) :
    phoneThreads.Isolated lifecycleView Cmd.InOrder (.initial config) where
  rel_self := ⟨⟨rfl, rfl, rfl, rfl, le_rfl, le_rfl⟩, rfl, rfl, rfl⟩
  job q := (steady_op q.op q.locals).of_logged
  safe qs q := by
    rw [serial_eq_worldAfter]
    exact inOrder_op (in_phaseAfter config (stepsOf qs)) q.op q.locals
  task r := (quiet_callback r.callback).mono fun _ hc => hc.hides r.answers
  spawn r w o hw hspawn := by
    dsimp only [phoneThreads] at hspawn
    split at hspawn
    · cases hspawn
      refine ⟨hw.1, ?_⟩
      -- what a callback reports is a change of the calls
      cases r.callback with
      | callState callId state => cases state <;> exact ⟨rfl, rfl, rfl⟩
      | _ => exact ⟨rfl, rfl, rfl⟩
    · cases hspawn

/-- **In every interleaving** of operations, executed command by command, with callbacks running at
any time between the commands, the operations requested are done in the order of the requests, each
once; and when none is executing, the life cycle of the library and its account is the one that the
operations done leave one after another, undisturbed. -/
theorem lifecycle_serial (config : CTSoftPhoneConfig)
    (moves : List (Concurrent.Move Queued Raised))
    (hidle : (threadsAfter config moves).current = none) :
    ∃ qs, Concurrent.submitted moves = qs ++ (threadsAfter config moves).pending ∧
      (threadsAfter config moves).shared.vars.Agree (worldAfter config (stepsOf qs)).vars ∧
      (threadsAfter config moves).shared.pjsua.Agree (worldAfter config (stepsOf qs)).pjsua := by
  obtain ⟨qs, hqs, hrel⟩ := (isolated_phoneThreads config).exists_done moves hidle
  rw [serial_eq_worldAfter] at hrel
  exact ⟨qs, hqs, hrel⟩

/-- A registration is executing on a library that runs already, and a call comes in: the account is
what comes next. -/
def callWhileRegistering : List (Concurrent.Move Queued Raised) :=
  [.submit ⟨.registerWithNumber [] [] [], .success, ⟨0, pjsuaAccConfigDefault⟩⟩, .dequeue] ++
    List.replicate 14 .command ++ [.spawn ⟨.incomingCall 7, .success⟩, .work 0] ++
    List.replicate 2 .command

/-- The registration is done while the call is still to be answered. -/
theorem lifecycle_serial_callWhileRegistering :
    ∃ qs, Concurrent.submitted (callWhileRegistering ++ List.replicate 4 .command) =
        qs ++ (threadsAfter ⟨5060, .udp⟩
          (callWhileRegistering ++ List.replicate 4 .command)).pending ∧
      (threadsAfter ⟨5060, .udp⟩
        (callWhileRegistering ++ List.replicate 4 .command)).shared.vars.Agree
          (worldAfter ⟨5060, .udp⟩ (stepsOf qs)).vars ∧
      (threadsAfter ⟨5060, .udp⟩
        (callWhileRegistering ++ List.replicate 4 .command)).shared.pjsua.Agree
          (worldAfter ⟨5060, .udp⟩ (stepsOf qs)).pjsua :=
  lifecycle_serial _ _ rfl

/-- **Calls in order**: in every interleaving, whatever function of pjsua the operation executing is
about to call, the library and its accounts are as the function needs them. -/
theorem inOrder_next (config : CTSoftPhoneConfig)
    (moves : List (Concurrent.Move Queued Raised)) {q : Queued} {c : Api} {k : Reply → Phone Unit}
    (hnext : (threadsAfter config moves).current = some (q, .call (.api c) k)) :
    c.InOrder (threadsAfter config moves).shared.pjsua :=
  (isolated_phoneThreads config).safe_next moves hnext

/-- The account is added when there is none. -/
theorem inOrder_next_callWhileRegistering :
    (threadsAfter ⟨5060, .udp⟩ callWhileRegistering).shared.pjsua.accounts = [] :=
  inOrder_next (c := .accAdd _) _ _ rfl

theorem in_of_agree {w w' : World} (hvars : w.vars.Agree w'.vars) (hpjsua : w.pjsua.Agree w'.pjsua)
    {p : Phase} (h : w'.session.In p) : w.session.In p := by
  have hacc : w.session.accId = w'.session.accId := hvars.accId_eq
  have hstate : w.session.state = w'.session.state := hpjsua.state_eq
  have htransports : w.session.transports = w'.session.transports := hpjsua.transports_eq
  have haccounts : w.session.accounts = w'.session.accounts := hpjsua.accounts_eq
  have htorn : w'.session.Torn → w.session.Torn := fun ht =>
    ⟨hacc ▸ ht.accId_neg, hstate.trans ht.state_eq, htransports.trans ht.transports_eq,
      haccounts.trans ht.accounts_eq⟩
  cases p with
  | down => exact ⟨hvars.pjsuaInitialized_eq.trans h.1, htorn h.2⟩
  | stale => exact ⟨hvars.pjsuaInitialized_eq.trans h.1, htorn h.2⟩
  | up =>
    obtain ⟨cfg, hcfg⟩ := h.2.accounts_eq
    refine ⟨hvars.pjsuaInitialized_eq.trans h.1, hacc ▸ h.2.accId_nonneg,
      hstate.trans h.2.state_eq, cfg, ?_⟩
    rw [haccounts, hacc, hcfg]

/-- The library and its account are in a consistent state: there is one account, that of the phone,
and the library is running with it and the flag up; or there is none, and the library is down. -/
structure World.Consistent (w : World) : Prop where
  singleAccount : w.SingleAccount
  running_iff : w.pjsua.state = .running ↔ 0 ≤ w.vars.accId
  null_iff : w.pjsua.state = .null ↔ w.vars.accId < 0
  flag_of_running : w.pjsua.state = .running → w.vars.pjsuaInitialized = true

theorem consistent_of_in {w : World} {p : Phase} (h : w.session.In p) : w.Consistent := by
  have hsingle := singleAccount_of_in h
  have htorn : w.session.Torn → w.Consistent := by
    intro ht
    have hstate : w.pjsua.state = .null := ht.state_eq
    have hacc : w.vars.accId < 0 := ht.accId_neg
    refine ⟨hsingle, ?_, iff_of_true hstate hacc, ?_⟩ <;> rw [hstate]
    · exact iff_of_false (by decide) (Int.not_le.mpr hacc)
    · exact fun he => absurd he (by decide)
  cases p with
  | down => exact htorn h.2
  | stale => exact htorn h.2
  | up =>
    have hstate : w.pjsua.state = .running := h.2.state_eq
    have hacc : 0 ≤ w.vars.accId := h.2.accId_nonneg
    refine ⟨hsingle, iff_of_true hstate hacc, ?_, fun _ => h.1⟩
    rw [hstate]
    exact iff_of_false (by decide) (Int.not_lt.mpr hacc)

/-- **Consistency**: in every interleaving, when no operation is executing, the library and its
account are in a consistent state, whatever failed before and whatever callbacks are running. -/
theorem consistent_idle (config : CTSoftPhoneConfig)
    (moves : List (Concurrent.Move Queued Raised))
    (hidle : (threadsAfter config moves).current = none) :
    (threadsAfter config moves).shared.Consistent := by
  obtain ⟨qs, -, hrel⟩ := (isolated_phoneThreads config).exists_done moves hidle
  rw [serial_eq_worldAfter] at hrel
  exact consistent_of_in (in_of_agree hrel.1 hrel.2 (in_phaseAfter config (stepsOf qs)))

theorem consistent_callWhileRegistering :
    (threadsAfter ⟨5060, .udp⟩
      (callWhileRegistering ++ List.replicate 4 .command)).shared.Consistent :=
  consistent_idle _ _ rfl

end CTSoftPhone
