import CTSoftPhone.Lifecycle.Account
import CTSoftPhone.Lifecycle.Interleaving
import CTSoftPhone.Wrapper.Operations

/-!
# The last word on a registration

While an account is there, or is being added, a callback may tell the delegate of a success at any
time. Once the library is destroyed none can, and what was told before is taken back: every path
that destroys the library tells the delegate of a failure, or of the destruction, after it. So a
success is never the last word when the account is gone.

## Main definitions

* `Mood`: what can still be told, and what has been, as the events of the operations have it
* `Interleaving.Quiet`: the phone is as quiet as the events of the operations say
* `lastWord`: the registration state told last

## Main results

* `mood_settled_of_accounts_eq_nil`: between operations, without an account, the mood is settled
* `quiet_after`: in every interleaving the phone is as quiet as its operations say
* `account_of_lastWord_success`: after a success as the last word, the account is there
-/

namespace CTSoftPhone

/-! ## Moods -/

/-- Callbacks may tell the delegate anything; none can any more; or none can, and the delegate has
been told of something else than a success since. -/
inductive Mood
  | loud
  | silent
  | settled
  deriving DecidableEq, Repr

namespace Mood

/-- No callback is left once the library is destroyed. -/
def destroyed : Mood → Mood
  | .loud => .silent
  | .silent => .silent
  | .settled => .settled

/-- The delegate is told of a registration state. -/
def told (state : CTSoftPhoneRegistrationState) : Mood → Mood
  | .loud => .loud
  | .silent | .settled => if state = .success then .silent else .settled

/-- What an event of an operation makes of the mood. -/
def note (m : Mood) : Event → Mood
  | .api (.accAdd _) _ reply => if reply.status = pjSuccess then .loud else m
  | .api .destroy _ _ => m.destroyed
  | .notified (.registration state) => m.told state
  | _ => m

/-- The mood after some events of operations. -/
def after (es : List Event) (m : Mood) : Mood := es.foldl note m

theorem after_append (es fs : List Event) (m : Mood) : m.after (es ++ fs) = (m.after es).after fs :=
  List.foldl_append

theorem told_destroyed {state : CTSoftPhoneRegistrationState} (h : state ≠ .success) (m : Mood) :
    m.destroyed.told state = .settled := by
  cases m <;> exact if_neg h

end Mood

/-! ## What the operations do to the mood -/

/-- When there is no account after the run, the mood is settled, provided it was so before if there
was none. -/
def settledRelation : RunRelation World Event where
  rel w es w' := ∀ m : Mood, (w.pjsua.accounts = [] → m = .settled) →
    w'.pjsua.accounts = [] → m.after es = .settled
  refl _ _ h := h
  trans h h' m hm hnil := by
    rw [Mood.after_append]
    exact h' _ (h m hm) hnil

/-- A program that leaves the mood settled when it leaves no account. -/
abbrev Settles {α : Type} (a : Answers) (p : Phone α) : Prop :=
  p.Meets (Cmd.handle a) settledRelation

/-- The functions that take no account away. -/
def Api.KeepsAccounts : Api → Prop
  | .accDel _ | .destroy => False
  | _ => True

theorem after_accounts_eq_nil_iff {c : Api} (hc : c.KeepsAccounts)
    (hadd : ∀ config, c ≠ .accAdd config) {p : Pjsua} {r : Reply} :
    (p.after c r).accounts = [] ↔ p.accounts = [] := by
  cases c with
  | accAdd config => exact absurd rfl (hadd config)
  | accModify accId config =>
    rw [Pjsua.after]
    split
    · exact List.map_eq_nil_iff
    · exact Iff.rfl
  | accSetTransport accId transportId =>
    rw [Pjsua.after]
    split
    · exact List.map_eq_nil_iff
    · exact Iff.rfl
  | create | init | start | transportCreate type port | confConnect source sink =>
    rw [Pjsua.after]
    split <;> exact Iff.rfl
  | accDel accId => exact hc.elim
  | destroy => exact hc.elim
  | _ => exact Iff.rfl

theorem accounts_eq_nil_of_after {c : Api} (hc : c.KeepsAccounts) {p : Pjsua} {r : Reply}
    (h : (p.after c r).accounts = []) : p.accounts = [] := by
  by_cases hadd : ∃ config, c = .accAdd config
  · obtain ⟨config, rfl⟩ := hadd
    rw [Pjsua.after] at h
    split at h
    · simp at h
    · exact h
  · exact (after_accounts_eq_nil_iff hc (not_exists.mp hadd)).mp h

theorem accounts_after_eq_nil {c : Api} (hadd : ∀ config, c ≠ .accAdd config) {p : Pjsua}
    {r : Reply} (h : p.accounts = []) : (p.after c r).accounts = [] := by
  by_cases hc : c.KeepsAccounts
  · exact (after_accounts_eq_nil_iff hc hadd).mpr h
  · cases c with
    | accDel accId =>
      change p.accounts.filter _ = []
      rw [h]
      rfl
    | destroy => rfl
    | _ => exact absurd trivial hc

namespace Settles

variable {a : Answers}

theorem assign (f : Vars → Vars) : Settles a (CTSoftPhone.assign f) := .call fun _ _ h => h

theorem endCall (callId : ℤ) : Settles a (CTSoftPhone.endCall callId) := .call fun _ _ h => h

theorem delegate_onCallState (state : CTSoftPhoneCallState) :
    Settles a (Delegate.onCallState state) := .call fun _ _ h => h

/-- Other news than a success leave a settled mood settled. -/
theorem onRegistrationState {state : CTSoftPhoneRegistrationState} (h : state ≠ .success) :
    Settles a (Delegate.onRegistrationState state) := by
  refine .call fun w m hm hnil => ?_
  change m.told state = .settled
  rw [hm hnil]
  exact if_neg h

/-- A call that takes no account away. -/
theorem api {c : Api} (h : c.KeepsAccounts) : Settles a (CTSoftPhone.api c) := by
  refine .call fun w m hm hnil => ?_
  have hbefore := accounts_eq_nil_of_after h hnil
  cases c with
  | accAdd config =>
    change (w.pjsua.after (.accAdd config) (w.pjsua.reply a (.accAdd config))).accounts = [] at hnil
    change (if (w.pjsua.reply a (.accAdd config)).status = pjSuccess then Mood.loud else m) = _
    split
    · next hok =>
      -- the account added would be there
      have hid : (w.pjsua.reply a (.accAdd config)).id = some (a.accId : ℤ) := by
        simp only [Pjsua.reply, Reply.ofId_status, Reply.ofId_id] at hok ⊢
        exact if_pos hok
      rw [Pjsua.after, hid] at hnil
      simp at hnil
    · exact hm hbefore
  | destroy => exact h.elim
  | _ => exact hm hbefore

/-- Whatever is done before, the tear-down ends with the library destroyed. -/
theorem after_ctPjsuaDestroy (w : World) (m : Mood) :
    ∃ m' : Mood, m.after (ctPjsuaDestroy.run (Cmd.handle a) w).events = m'.destroyed := by
  refine ⟨m.after (ctPjsuaDeleteAccount.run (Cmd.handle a) w).events, ?_⟩
  simp only [ctPjsuaDestroy, Prog.bind_def, Prog.run_bind, Outcome.andThen_events, run_api,
    Prog.pure_def, Prog.run_ret, List.append_nil, Mood.after_append]
  rfl

/-- The delegate is told of a failure once the library is destroyed. -/
theorem registrationFailed : Settles a CTSoftPhone.registrationFailed := by
  intro w m _ _
  obtain ⟨m', hm'⟩ := after_ctPjsuaDestroy (a := a) w m
  simp only [CTSoftPhone.registrationFailed, errorExit, Prog.bind_def, Prog.run_bind,
    Outcome.andThen_events, run_onRegistrationState, Mood.after_append, hm']
  exact Mood.told_destroyed (by decide) m'

/-- The delegate is told of the destruction once the library is destroyed. -/
theorem destroy : Settles a CTSoftPhone.destroy := by
  intro w m _ _
  obtain ⟨m', hm'⟩ := after_ctPjsuaDestroy (a := a) w m
  simp only [CTSoftPhone.destroy, Prog.bind_def, Prog.run_bind, Outcome.andThen_events, run_assign,
    run_onRegistrationState, List.nil_append, Mood.after_append, hm']
  exact Mood.told_destroyed (by decide) m'

/-- The end of a call is told, and takes no account away. -/
theorem onCallState (callId : ℤ) : Settles a (CTSoftPhone.onCallState callId) :=
  ((api (by trivial)).bind fun _ => assign _).bind fun _ =>
    (meets_vars a settledRelation).bind fun _ => delegate_onCallState _

end Settles

/-- The parts of the operations leave the mood settled. -/
theorem hasParts_settledRelation (a : Answers) : HasParts a settledRelation where
  assign _ := Settles.assign _
  api {c} h := Settles.api (by cases c <;> trivial)
  endCall := Settles.endCall
  onCallState := Settles.onCallState
  tellFail := Settles.onRegistrationState (by decide)
  registrationFailed := Settles.registrationFailed
  destroy := Settles.destroy

/-- **Every operation** leaves the mood settled when it leaves no account. -/
theorem settles_op (o : Op) (a : Answers) (locals : Locals) : Settles a (o.program locals) := by
  by_cases ho : o = .unmute
  · subst ho
    exact (meets_vars a settledRelation).bind fun _ =>
      .ite ((Settles.api (by trivial)).bind fun _ => .ret ()) (.ret ())
  · exact (hasParts_settledRelation a).op ho locals

/-- **Between operations** the mood is settled when there is no account. -/
theorem mood_settled_of_accounts_eq_nil (config : CTSoftPhoneConfig) {steps : List Step}
    (hops : ∀ st ∈ steps, ∃ o a locals, st = ⟨.op o, a, locals⟩)
    (h : (worldAfter config steps).pjsua.accounts = []) :
    Mood.settled.after (traceOf config steps) = .settled := by
  refine phone.rel_after_of_mem settledRelation (World.initial config) ?_ .settled (fun _ => rfl) h
  intro st hst w
  obtain ⟨o, a, locals, rfl⟩ := hops st hst
  exact settles_op o a locals w

/-! ## What callbacks can still tell -/

/-- The registration state that is told. -/
def registrationTold : Source × Event → Option CTSoftPhoneRegistrationState
  | (_, .notified (.registration state)) => some state
  | _ => none

/-- The registration state told last. -/
def lastWord (es : List (Source × Event)) : Option CTSoftPhoneRegistrationState :=
  lastSeen registrationTold es

theorem lastWord_append_of_none {es fs : List (Source × Event)}
    (h : ∀ e ∈ fs, registrationTold e = none) : lastWord (es ++ fs) = lastWord es := by
  rw [lastWord, lastSeen_append, lastSeen_eq_none h]
  rfl

namespace Interleaving

/-- The phone is as quiet as a mood says, given what was told last. -/
def Holds (s : Interleaving) (last : Option CTSoftPhoneRegistrationState) : Mood → Prop
  | .loud => True
  | .silent => s.world.pjsua.accounts = [] ∧ s.running = []
  | .settled => s.world.pjsua.accounts = [] ∧ s.running = [] ∧ last ≠ some .success

/-- The phone is as quiet as the events of the operations say, unless it is just adding an
account. -/
def Quiet (s : Interleaving) (es : List (Source × Event)) : Prop :=
  s.addsAccount = true ∨ s.Holds (lastWord es) (Mood.settled.after (queueEvents es))

variable {s : Interleaving} {last : Option CTSoftPhoneRegistrationState} {m : Mood}

theorem Holds.eq_loud (h : s.Holds last m) (hs : s.world.pjsua.accounts ≠ [] ∨ s.running ≠ []) :
    m = .loud := by
  cases m with
  | loud => rfl
  | silent => exact (hs.elim (fun hne => hne h.1) fun hne => hne h.2).elim
  | settled => exact (hs.elim (fun hne => hne h.1) fun hne => hne h.2.1).elim

theorem Holds.mono {s' : Interleaving} (h : s.Holds last m)
    (haccounts : s.world.pjsua.accounts = [] → s'.world.pjsua.accounts = [])
    (hrunning : s'.running = s.running) : s'.Holds last m := by
  cases m with
  | loud => trivial
  | silent => exact ⟨haccounts h.1, hrunning.trans h.2⟩
  | settled => exact ⟨haccounts h.1, hrunning.trans h.2.1, h.2.2⟩

theorem Idle.addsAccount_eq_false (h : s.Idle) : s.addsAccount = false := by
  rw [addsAccount, Prog.result_eq_some.mp h]
  rfl

/-! ### Commands of the operations -/

/-- A call to the library makes the phone as quiet as the call makes the mood. -/
theorem Holds.api {w : World} {a : Answers} {running : List PjsipRegcCbparam} {c : Api}
    {k : Reply → Phone Unit}
    (h : (Interleaving.mk w (.call (.api c) k) a running).addsAccount = true ∨
      (Interleaving.mk w (.call (.api c) k) a running).Holds last m) :
    ((Interleaving.mk w (.call (.api c) k) a running).step .command).state.Holds last
      (m.note (.api c w.pjsua.state (w.pjsua.reply a c))) := by
  cases c with
  | accAdd config =>
    by_cases hok : (w.pjsua.reply a (.accAdd config)).status = pjSuccess
    -- with the account there, callbacks may tell anything
    · rw [Mood.note, if_pos hok]
      trivial
    · -- an account that is not added changes nothing
      have hsame : w.pjsua.after (.accAdd config) (w.pjsua.reply a (.accAdd config)) = w.pjsua := by
        rw [Pjsua.after, ((w.pjsua.reply a (.accAdd config)).silent_of_failed hok).1]
      rw [Mood.note, if_neg hok]
      rcases h with hadd | h
      · exact absurd (of_decide_eq_true hadd) hok
      · exact h.mono (fun hnil => (congrArg Pjsua.accounts hsame).trans hnil) rfl
  | destroy =>
    rcases h with hadd | h
    · cases hadd
    -- the account is gone with the library, and no callback is left
    cases m with
    | loud => exact ⟨rfl, rfl⟩
    | silent => exact ⟨rfl, rfl⟩
    | settled => exact ⟨rfl, rfl, h.2.2⟩
  | _ =>
    rcases h with hadd | h
    · cases hadd
    · exact h.mono (fun hnil => accounts_after_eq_nil (by simp) hnil) rfl

/-- Telling the delegate of a registration settles a silent mood, unless it is a success. -/
theorem Holds.told {w : World} {a : Answers} {running : List PjsipRegcCbparam}
    {state : CTSoftPhoneRegistrationState} {k : Unit → Phone Unit}
    (h : (Interleaving.mk w (.call (.notify (.registration state)) k) a running).Holds last m) :
    ((Interleaving.mk w (.call (.notify (.registration state)) k) a running).step
      .command).state.Holds (some state) (m.told state) := by
  cases m with
  | loud => trivial
  | silent =>
    rw [Mood.told]
    split
    · exact h
    · next hne => exact ⟨h.1, h.2, fun he => hne (Option.some.inj he)⟩
  | settled =>
    rw [Mood.told]
    split
    · exact ⟨h.1, h.2.1⟩
    · next hne => exact ⟨h.1, h.2.1, fun he => hne (Option.some.inj he)⟩

/-- A command without events keeps the phone quiet when it leaves the accounts and the callbacks. -/
theorem Quiet.command_silent {es : List (Source × Event)} (h : s.Quiet es)
    (hadd : s.addsAccount = false)
    (haccounts : (s.step .command).state.world.pjsua.accounts = s.world.pjsua.accounts)
    (hrunning : (s.step .command).state.running = s.running)
    (hevents : (s.step .command).events = []) :
    (s.step .command).state.Quiet (es ++ (s.step .command).events) := by
  rw [hevents, List.append_nil]
  rcases h with hadd' | h
  · rw [hadd] at hadd'
    cases hadd'
  · exact .inr (h.mono (fun hnil => haccounts.trans hnil) hrunning)

/-- **A command** of the operation executing leaves the phone as quiet as its events say. -/
theorem Quiet.command {es : List (Source × Event)} (h : s.Quiet es) :
    (s.step .command).state.Quiet (es ++ (s.step .command).events) := by
  obtain ⟨w, rest, a, running⟩ := s
  cases rest with
  | ret u => exact h.command_silent rfl rfl rfl rfl
  | call c k =>
    cases c with
    | api c =>
      refine .inr ?_
      change Holds _ (lastWord (es ++ [(.queue, .api c w.pjsua.state (w.pjsua.reply a c))]))
        (Mood.settled.after (queueEvents
          (es ++ [(.queue, .api c w.pjsua.state (w.pjsua.reply a c))])))
      rw [lastWord_append_of_none (by simp [registrationTold]), queueEvents_append,
        Mood.after_append]
      exact Holds.api h
    | notify n =>
      rcases h with hadd | h
      · cases hadd
      refine .inr ?_
      change Holds _ (lastWord (es ++ [(.queue, .notified n)]))
        (Mood.settled.after (queueEvents (es ++ [(.queue, .notified n)])))
      rw [queueEvents_append, Mood.after_append]
      cases n with
      | registration state =>
        have hlast : lastWord (es ++ [(.queue, .notified (.registration state))]) = some state := by
          rw [lastWord, lastSeen_append]
          rfl
        rw [hlast]
        exact Holds.told h
      | call state =>
        rw [lastWord_append_of_none (by simp [registrationTold])]
        exact h.mono id rfl
    | vars => exact h.command_silent rfl rfl rfl rfl
    | assign f => exact h.command_silent rfl rfl rfl rfl
    | activeCalls => exact h.command_silent rfl rfl rfl rfl
    | endCall callId => exact h.command_silent rfl rfl rfl rfl

/-- **A move** leaves the phone as quiet as the events of the operations say. -/
theorem Quiet.step {es : List (Source × Event)} (h : s.Quiet es) (move : Move) :
    (s.step move).state.Quiet (es ++ (s.step move).events) := by
  cases move with
  | start o a locals =>
    rw [Interleaving.step, List.append_nil]
    by_cases hidle : s.Idle
    · rw [if_pos hidle]
      rcases h with hadd | h
      · rw [hidle.addsAccount_eq_false] at hadd
        cases hadd
      · exact .inr (h.mono id rfl)
    · rw [if_neg hidle]
      exact h
  | command => exact h.command
  | raise info =>
    rw [Interleaving.step]
    by_cases hraise : s.MayRaise
    · rw [if_pos hraise]
      rcases h with hadd | h
      · exact .inl hadd
      rcases hraise with hacc | hadd
      · -- with an account the mood is loud
        refine .inr ?_
        rw [queueEvents_append_worker, h.eq_loud (.inl hacc)]
        trivial
      · exact .inl hadd
    · rw [if_neg hraise, List.append_nil]
      exact h
  | deliver k =>
    rcases s.step_deliver k with ⟨info, state, hinfo, hk⟩ | hk
    · rw [hk]
      rcases h with hadd | h
      · exact .inl hadd
      · -- a callback that runs has kept the mood loud
        refine .inr ?_
        rw [queueEvents_append_worker, h.eq_loud (.inr (List.ne_nil_of_mem hinfo))]
        trivial
    · rw [hk, List.append_nil]
      exact h

end Interleaving

/-- **In every interleaving** the phone is as quiet as the events of the operations say. -/
theorem quiet_after (config : CTSoftPhoneConfig) (moves : List Move) :
    (interleavingAfter config moves).Quiet (interleavingTrace config moves) := by
  induction moves using List.reverseRecOn with
  | nil => exact .inr ⟨rfl, rfl, (Option.some_ne_none _).symm⟩
  | append_singleton moves move ih =>
    rw [interleavingAfter, interleavingTrace, interleaving.after_snoc, interleaving.trace_snoc]
    exact ih.step move

/-- **The last word**: in every interleaving, when no operation is executing and the delegate was
told last of a success, the phone has an account, and the library is running with it. -/
theorem account_of_lastWord_success (config : CTSoftPhoneConfig) (moves : List Move)
    (hidle : (interleavingAfter config moves).Idle)
    (hlast : lastWord (interleavingTrace config moves) = some .success) :
    0 ≤ (interleavingAfter config moves).world.vars.accId ∧
      (∃ acc ∈ (interleavingAfter config moves).world.pjsua.accounts,
        acc.id = (interleavingAfter config moves).world.vars.accId) ∧
      (interleavingAfter config moves).world.pjsua.state = .running := by
  obtain ⟨steps, hops, hworld, htrace⟩ := exists_serial config moves
  rw [hidle.finish] at hworld htrace
  rw [List.append_nil] at htrace
  have hholds : (interleavingAfter config moves).Holds
      (lastWord (interleavingTrace config moves)) (Mood.settled.after (traceOf config steps)) := by
    rcases quiet_after config moves with hadd | h
    · rw [hidle.addsAccount_eq_false] at hadd
      cases hadd
    · rwa [htrace]
  -- without an account, the last word would not be a success
  have hne : (worldAfter config steps).pjsua.accounts ≠ [] := by
    intro hnil
    rw [mood_settled_of_accounts_eq_nil config hops hnil] at hholds
    exact hholds.2.2 hlast
  have hsingle := singleAccount_of_in (in_phaseAfter config steps)
  have hacc := hsingle.accId_nonneg_iff.mpr hne
  have hrun := state_of_up config steps ((accId_nonneg_iff config steps).mp hacc)
  have hmem : (worldAfter config steps).vars.accId ∈
      (worldAfter config steps).pjsua.accounts.map PjsuaAccount.id := by
    rw [hsingle.ids_eq hne]
    exact List.mem_singleton_self _
  obtain ⟨acc, hacc_mem, hid⟩ := List.mem_map.mp hmem
  rw [hworld] at hacc hrun hacc_mem hid
  exact ⟨hacc, ⟨acc, hacc_mem, hid⟩, hrun⟩

/-- A registration whose success is reported while its account is being added, and told once the
registration is over. -/
def registerReported : List Move :=
  .start (.registerWithNumber [] [] []) .success ⟨0, pjsuaAccConfigDefault⟩ ::
    (List.replicate 16 .command ++ .raise ⟨0, 200, 3600, 1⟩ ::
      (List.replicate 3 .command ++ [.deliver 0]))

/-- After such a registration the account is there. -/
theorem account_of_registerReported :
    0 ≤ (interleavingAfter ⟨5060, .udp⟩ registerReported).world.vars.accId ∧
      (∃ acc ∈ (interleavingAfter ⟨5060, .udp⟩ registerReported).world.pjsua.accounts,
        acc.id = (interleavingAfter ⟨5060, .udp⟩ registerReported).world.vars.accId) ∧
      (interleavingAfter ⟨5060, .udp⟩ registerReported).world.pjsua.state = .running :=
  account_of_lastWord_success ⟨5060, .udp⟩ registerReported (by decide) (by decide)

end CTSoftPhone
