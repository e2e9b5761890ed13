import CTSoftPhone.Lifecycle.Concurrency
import CTSoftPhone.Programs.Resilient

/-!
# Any request inside an operation

Inside an operation the delegate may request any other, and what it requests there runs before the
operation goes on. However deep the requests, the phone is in one of its phases at each
notification, and ends in one. The operations call the library in order all the same, but for one
call: when a request inside `pjsua_call_hangup_all` takes the library down, `pjsua_acc_del` is
called on the library that is down, for an account that is gone.

## Main definitions

* `World.Settled`: the phone is in one of its phases
* `Cmd.Belated`: the deletion of an account that is gone

## Main results

* `resilient_phoneService`: the operations withstand any delegate
* `consistent_inlinePhone`: whatever is requested inside operations, the phone ends consistent
* `inOrder_inlinePhone`: and calls the library in order, belated deletions apart
-/

namespace CTSoftPhone

/-- The phone is in one of its phases. -/
def World.Settled (w : World) : Prop := ∃ p, w.session.In p

/-- The deletion of an account that is gone, in a library that is down. -/
def Cmd.Belated : Cmd → World → Prop
  | .api (.accDel accId), w => accId < 0 ∧ w.pjsua.state = .null
  | _, _ => False

instance : ∀ c w, Decidable (Cmd.Belated c w)
  | .api (.accDel accId), w =>
    @instDecidableAnd _ _ (Int.decLt accId 0) (instDecidableEqPjsuaState w.pjsua.state .null)
  | .api .create, _ | .api .init, _ | .api .start, _ | .api .destroy, _
  | .api (.transportCreate ..), _ | .api (.accAdd _), _ | .api (.accModify ..), _
  | .api (.accGetConfig _), _ | .api (.accSetTransport ..), _ | .api .handleIpChange, _
  | .api (.callAnswer _), _ | .api (.callHangup _), _ | .api .callHangupAll, _
  | .api (.callGetInfo _), _ | .api (.confConnect ..), _ | .api (.confDisconnect ..), _
  | .vars, _ | .assign _, _ | .activeCalls, _ | .endCall _, _ | .notify _, _ => .isFalse id

/-- A command that calls pjsua calls it in order, or deletes an account that is gone. -/
def Cmd.Orderly (c : Cmd) (w : World) : Prop := c.InOrder w ∨ c.Belated w

/-- The program withstands any delegate, and ends as `Q` says. -/
abbrev Withstands {α : Type} (a : Answers) (p : Phone α) (Q : α → World → Prop) (w : World) :
    Prop :=
  phoneService.Withstands (Cmd.handle a) World.Settled Cmd.Orderly p Q w

theorem World.Settled.of_session {w w' : World} (h : w.Settled) (he : w'.session = w.session) :
    w'.Settled := by
  obtain ⟨p, hp⟩ := h
  exact ⟨p, he ▸ hp⟩

theorem settled_of_torn {w : World} (h : w.session.Torn) : w.Settled := by
  cases hflag : w.vars.pjsuaInitialized with
  | false => exact ⟨.down, hflag, h⟩
  | true => exact ⟨.stale, hflag, h⟩

namespace World.Settled

variable {w : World} (h : w.Settled)
include h

/-- Without an account the library is down, and with one it is running. -/
theorem account : w.vars.accId < 0 ∧ w.pjsua.state = .null ∧ w.pjsua.accounts = [] ∨
    0 ≤ w.vars.accId ∧ w.pjsua.state = .running ∧
      ∃ cfg, w.pjsua.accounts = [⟨w.vars.accId, cfg⟩] := by
  obtain ⟨p, hp⟩ := h
  cases p with
  | down => exact .inl ⟨hp.2.accId_neg, hp.2.state_eq, hp.2.accounts_eq⟩
  | up => exact .inr ⟨hp.2.accId_nonneg, hp.2.state_eq, hp.2.accounts_eq⟩
  | stale => exact .inl ⟨hp.2.accId_neg, hp.2.state_eq, hp.2.accounts_eq⟩

theorem down (hneg : w.vars.accId < 0) : w.pjsua.state = .null ∧ w.pjsua.accounts = [] :=
  h.account.elim And.right fun hacc => absurd hneg (Int.not_lt.mpr hacc.1)

theorem running (hacc : 0 ≤ w.vars.accId) :
    w.pjsua.state = .running ∧ ∃ cfg, w.pjsua.accounts = [⟨w.vars.accId, cfg⟩] :=
  h.account.elim (fun hneg => absurd hneg.1 (Int.not_lt.mpr hacc)) And.right

/-- Without the flag there is no account. -/
theorem neg_of_flag (hflag : w.vars.pjsuaInitialized = false) : w.vars.accId < 0 := by
  obtain ⟨p, hp⟩ := h
  cases p with
  | down => exact hp.2.accId_neg
  | up => exact absurd (hflag.symm.trans hp.1) Bool.false_ne_true
  | stale => exact hp.2.accId_neg

theorem flag_of_nonneg (hacc : 0 ≤ w.vars.accId) : w.vars.pjsuaInitialized = true := by
  by_contra hflag
  have hneg := h.neg_of_flag (eq_false_of_ne_true hflag)
  exact absurd hneg (Int.not_lt.mpr hacc)

/-- The account of the phone is deleted in order, unless it is gone. -/
theorem orderly_accDel : (Cmd.api (.accDel w.vars.accId)).Orderly w := by
  rcases h.account with ⟨hneg, hnull, -⟩ | ⟨-, hrun, cfg, haccounts⟩
  · exact .inr ⟨hneg, hnull⟩
  · exact .inl ⟨hrun, _, haccounts ▸ List.mem_singleton_self _, rfl⟩

/-- No account is left when that of the phone is deleted. -/
theorem accounts_accDel :
    (w.pjsua.accounts.filter fun acc => acc.id ≠ w.vars.accId) = [] := by
  rcases h.account with ⟨-, -, hnil⟩ | ⟨-, -, cfg, haccounts⟩
  · rw [hnil, List.filter_nil]
  · simp [haccounts]

end World.Settled

/-- An account is added to an initialised library, under the id the library hands out. -/
theorem accAdd_of_success {a : Answers} {p : Pjsua} {cfg : PjsuaAccConfig}
    (h : (p.reply a (.accAdd cfg)).status = pjSuccess) :
    p.state.Initialised ∧ (p.reply a (.accAdd cfg)).id = some (a.accId : ℤ) := by
  refine ⟨?_, if_pos h⟩
  by_contra hinit
  change (if p.state.Initialised then a.accAdd else pjEInvalidOp) = pjSuccess at h
  rw [if_neg hinit] at h
  exact absurd h (by decide)

section Programs

variable {a : Answers} {w : World}

section Rules

variable {α : Type} {Q : α → World → Prop}

theorem withstands_vars {f : Vars → Phone α} (h : Withstands a (f w.vars) Q w) :
    Withstands a (vars >>= f) Q w := .command rfl (.inl trivial) h

theorem withstands_assign {f : Vars → Vars} {K : Unit → Phone α}
    (h : Withstands a (K ()) Q { w with vars := f w.vars }) :
    Withstands a (assign f >>= K) Q w := .command rfl (.inl trivial) h

theorem withstands_call {c : Api} {f : Reply → Phone α} (hc : c.InOrder w.pjsua)
    (h : Withstands a (f (w.pjsua.reply a c)) Q ⟨w.vars, w.pjsua.after c (w.pjsua.reply a c)⟩) :
    Withstands a (api c >>= f) Q w := .command rfl (.inl hc) h

theorem withstands_ite {P : Prop} [Decidable P] {p q : Phone α} (hp : Withstands a p Q w)
    (hq : Withstands a q Q w) : Withstands a (if P then p else q) Q w := by
  split
  · exact hp
  · exact hq

/-- The delegate is told of a phone in one of its phases, and leaves it in one. -/
theorem withstands_notify {n : Notification} {K : Unit → Phone α} (hw : w.Settled)
    (h : ∀ w' : World, w'.Settled → Withstands a (K ()) Q w') :
    Withstands a (.call (.notify n) K) Q w := .callback rfl (.inl trivial) hw h

end Rules

/-! ## Tearing down -/

theorem withstands_disconnect (callId : ℤ) (h : w.Settled) :
    Withstands a (disconnect callId) (fun _ => World.Settled) w := by
  have hended : World.Settled { w with pjsua := w.pjsua.endCall callId } := h.of_session rfl
  refine .command rfl (.inl trivial) ?_
  change Withstands a (if decide (callId ∈ w.pjsua.calls) = true then _ else _) _ _
  refine withstands_ite ?_ hended
  -- the report of the end of the call
  refine withstands_call trivial (withstands_assign (withstands_vars ?_))
  exact withstands_notify (hended.of_session rfl) fun _ hw' => hw'

theorem withstands_pjsuaCallHangupAll (h : w.Settled) :
    Withstands a pjsuaCallHangupAll (fun _ => World.Settled) w := by
  refine withstands_call trivial (.command rfl (.inl trivial) ?_)
  exact .forM (fun callId _ hw => withstands_disconnect callId hw) _ (h.of_session rfl)

/-- Whatever was requested while the calls ended, there is no account once it is deleted. -/
theorem withstands_ctPjsuaDeleteAccount (h : w.Bare ∨ w.Settled) :
    Withstands a ctPjsuaDeleteAccount (fun _ => World.Bare) w := by
  refine withstands_vars ?_
  by_cases hneg : w.vars.accId < 0
  · rw [if_pos hneg]
    exact h.elim id fun hw => ⟨hneg, (hw.down hneg).2⟩
  rw [if_neg hneg]
  have hw : w.Settled := h.resolve_left fun hbare => hneg hbare.1
  refine .bind ((withstands_pjsuaCallHangupAll hw).mono ?_)
  -- the account is read anew, after the requests
  intro _ w hw
  refine withstands_vars (.command rfl hw.orderly_accDel (.command rfl (.inl trivial) ?_))
  exact ⟨show (-1 : ℤ) < 0 by decide, hw.accounts_accDel⟩

theorem withstands_ctPjsuaDestroy (h : w.Bare ∨ w.Settled) :
    Withstands a ctPjsuaDestroy (fun _ w => w.session.Torn) w := by
  refine .bind ((withstands_ctPjsuaDeleteAccount h).mono ?_)
  intro _ w hbare
  exact withstands_call hbare.2 ⟨hbare.1, rfl, rfl, rfl⟩

theorem withstands_registrationFailed (h : w.Bare ∨ w.Settled) :
    Withstands a registrationFailed (fun _ => World.Settled) w := by
  refine .bind ((withstands_ctPjsuaDestroy h).mono ?_)
  exact fun _ w htorn => withstands_notify (settled_of_torn htorn) fun _ hw' => hw'

theorem withstands_destroy (h : w.Settled) :
    Withstands a destroy (fun _ => World.Settled) w := by
  refine .bind ((withstands_ctPjsuaDestroy (.inr h)).mono ?_)
  intro _ w htorn
  exact withstands_assign (withstands_notify ⟨.down, rfl, htorn.setFlag false⟩ fun _ hw' => hw')

/-! ## Registering -/

/-- The flag is up, and the account can be modified, or added once the library is running. -/
structure World.Ready (w : World) : Prop where
  flag : w.vars.pjsuaInitialized = true
  account : w.Settled ∨ w.Bare ∧ w.pjsua.state = .running

theorem World.Ready.bare (h : w.Ready) (hneg : w.vars.accId < 0) : w.Bare :=
  h.account.elim (fun hw => ⟨hneg, (hw.down hneg).2⟩) And.left

/-- A set-up leaves a library that runs, or one torn down. -/
def SetUpLeaves : Bool → World → Prop
  | true, w => w.Ready
  | false, w => w.Settled

/-- A stage of the set-up: the library is in its next state, or the registration gives up. -/
theorem withstands_stage {c : Api} {p : Phone Bool} (state : PjsuaState) (hbare : w.Bare)
    (hflag : w.vars.pjsuaInitialized = true) (hc : c.SetsUp) (hneeds : c.InOrder w.pjsua)
    (hstate : ∀ (q : Pjsua) (r : Reply), r.status = pjSuccess → (q.after c r).state = state)
    (hp : ∀ w' : World, w'.Bare → w'.vars.pjsuaInitialized = true → w'.pjsua.state = state →
      Withstands a p SetUpLeaves w') :
    Withstands a (do
      setStatus (← api c).status
      if (← vars).status ≠ pjSuccess then
        registrationFailed
        return false
      p) SetUpLeaves w := by
  refine withstands_call hneeds (withstands_assign (withstands_vars ?_))
  have hafter := World.Bare.after hbare hc (w.pjsua.reply a c) (w.pjsua.reply a c).status
  by_cases hs : (w.pjsua.reply a c).status = pjSuccess
  · rw [if_neg (not_not_intro hs)]
    exact hp _ hafter hflag (hstate _ _ hs)
  · rw [if_pos hs]
    exact .bind ((withstands_registrationFailed (.inl hafter)).mono fun _ _ hw' => hw')

/-- The library is set up stage by stage. -/
theorem withstands_setUp (hnull : w.pjsua.state = .null) (hbare : w.Bare) :
    Withstands a setUp SetUpLeaves w := by
  refine withstands_assign (withstands_stage .created hbare rfl trivial hnull ?_ ?_)
  · intro q r hr
    rw [Pjsua.after, if_pos hr]
  intro w hbare hflag hcreated
  refine withstands_stage .init hbare hflag trivial hcreated ?_ ?_
  · intro q r hr
    rw [Pjsua.after, if_pos hr]
  intro w hbare hflag hinit
  -- the transport is created in between, and its status is not looked at
  refine withstands_vars (withstands_call ?_ (withstands_assign ?_))
  · change w.pjsua.state.Initialised
    rw [hinit]
    trivial
  refine withstands_stage .running ?_ hflag trivial ?_ ?_ ?_
  · exact World.Bare.after (c := .transportCreate _ _) hbare trivial _ _
  · change (w.pjsua.after (.transportCreate _ _) _).state = .init
    rw [Pjsua.after]
    split <;> exact hinit
  · intro q r hr
    rw [Pjsua.after, if_pos hr]
  · exact fun w' hbare' hflag' hrun => ⟨hflag', .inr ⟨hbare', hrun⟩⟩

/-- Modifying the account keeps the phone in its phase, whether it succeeds or not. -/
theorem World.Settled.accModify (h : w.Settled) (hacc : 0 ≤ w.vars.accId) (cfg : PjsuaAccConfig)
    (r : Reply) :
    World.Settled
      ⟨{ w.vars with status := r.status }, w.pjsua.after (.accModify w.vars.accId cfg) r⟩ := by
  by_cases hs : r.status = pjSuccess
  · rw [Pjsua.after, if_pos hs]
    obtain ⟨hstate, cfg', haccounts⟩ := h.running hacc
    refine ⟨.up, h.flag_of_nonneg hacc, hacc, hstate, cfg, ?_⟩
    dsimp only [Pjsua.modifyAcc, World.session]
    rw [haccounts, Session.modify_singleton]
  · rw [Pjsua.after, if_neg hs]
    exact h.of_session rfl

/-- The phone without an account, once the library has been asked to add one. -/
def World.added (w : World) (cfg : PjsuaAccConfig) (r : Reply) : World :=
  ⟨{ w.vars with status := r.status, accId := r.id.getD w.vars.accId },
    w.pjsua.after (.accAdd cfg) r⟩

theorem World.Ready.accAdd (h : w.Ready) (hneg : w.vars.accId < 0) (cfg : PjsuaAccConfig)
    (hs : (w.pjsua.reply a (.accAdd cfg)).status = pjSuccess) :
    (w.added cfg (w.pjsua.reply a (.accAdd cfg))).Settled := by
  obtain ⟨hinit, hid⟩ := accAdd_of_success hs
  refine ⟨.up, h.flag, ?_⟩
  dsimp only [World.added, Pjsua.after, World.session]
  rw [hid]
  refine ⟨Int.natCast_nonneg a.accId, ?_, cfg, ?_⟩
  · -- the library is initialised: it is not down
    refine h.account.elim (fun hw => ?_) And.right
    rw [(hw.down hneg).1] at hinit
    exact hinit.elim
  · rw [(h.bare hneg).2]
    rfl

/-- An account that is not added leaves no id. -/
theorem World.Bare.accAdd (h : w.Bare) (cfg : PjsuaAccConfig) {r : Reply}
    (hs : r.status ≠ pjSuccess) : (w.added cfg r).Bare := by
  have hid := (r.silent_of_failed hs).1
  refine ⟨?_, ?_⟩ <;> dsimp only [World.added, Pjsua.after] <;> rw [hid]
  · exact h.1
  · exact h.2

/-- The end of a registration: a failure tears the library down. -/
theorem withstands_putEnd (hok : w.vars.status = pjSuccess → w.Settled)
    (hfailed : w.vars.status ≠ pjSuccess → w.Bare ∨ w.Settled) :
    Withstands a (do
      if (← vars).status = pjSuccess then return
      registrationFailed) (fun _ => World.Settled) w := by
  refine withstands_vars ?_
  by_cases hs : w.vars.status = pjSuccess
  · rw [if_pos hs]
    exact hok hs
  · rw [if_neg hs]
    exact withstands_registrationFailed (hfailed hs)

theorem withstands_putAccount (h : w.Ready) (cfg : PjsuaAccConfig) :
    Withstands a (putAccount cfg) (fun _ => World.Settled) w := by
  refine withstands_vars ?_
  by_cases hacc : 0 ≤ w.vars.accId
  · rw [if_pos hacc]
    have hw : w.Settled := h.account.resolve_right fun hbare => Int.not_le.mpr hbare.1.1 hacc
    obtain ⟨hstate, cfg', haccounts⟩ := hw.running hacc
    have hmodified := hw.accModify hacc cfg (w.pjsua.reply a (.accModify w.vars.accId cfg))
    refine withstands_vars (withstands_call ⟨hstate, ?_⟩ (withstands_assign ?_))
    · exact ⟨_, haccounts ▸ List.mem_singleton_self _, rfl⟩
    · exact withstands_putEnd (fun _ => hmodified) fun _ => .inr hmodified
  · rw [if_neg hacc]
    have hneg : w.vars.accId < 0 := Int.not_le.mp hacc
    refine withstands_call (h.bare hneg).2 (withstands_assign ?_)
    exact withstands_putEnd (h.accAdd hneg cfg) fun hs => .inl ((h.bare hneg).accAdd cfg hs)

theorem withstands_registerWithNumber (h : w.Settled) (number host credentials : NSString) :
    Withstands a (registerWithNumber number host credentials) (fun _ => World.Settled) w := by
  refine withstands_vars ?_
  cases hflag : w.vars.pjsuaInitialized with
  | false =>
    have hneg := h.neg_of_flag hflag
    obtain ⟨hnull, hnil⟩ := h.down hneg
    refine .bind ((withstands_setUp hnull ⟨hneg, hnil⟩).mono ?_)
    intro ok w hleaves
    cases ok with
    | false => exact hleaves
    | true =>
      refine withstands_vars ?_
      rw [accountConfig_eq]
      exact withstands_putAccount hleaves _
  | true =>
    refine withstands_vars ?_
    rw [accountConfig_eq]
    exact withstands_putAccount ⟨hflag, .inl h⟩ _

/-! ## The operations -/

/-- `handleIpChange` tells the delegate nothing, and does what it does undisturbed. -/
theorem withstands_handleIpChange (h : w.Settled) (locals : Locals)
    (transport : CTSoftPhoneTransportType) :
    Withstands a (handleIpChange locals transport) (fun _ => World.Settled) w := by
  have hread : vars.Only fun c => phoneService.point c = false := .call rfl
  have hset : ∀ f, (assign f).Only fun c => phoneService.point c = false := fun _ => .call rfl
  have hcall : ∀ c, (api c).Only fun c => phoneService.point c = false := fun _ => .call rfl
  have hlast : Prog.Only (fun c => phoneService.point c = false)
      (do let _ ← api .handleIpChange) := (hcall _).bind fun _ => .ret ()
  have hswitch : (switchTransport locals transport).Only fun c => phoneService.point c = false :=
    (hset _).bind fun _ => hread.bind fun _ => (hcall _).bind fun _ => (hset _).bind fun _ =>
      hread.bind fun _ => (hcall _).bind fun _ => hread.bind fun _ => (hcall _).bind fun _ =>
      hread.bind fun _ => (hcall _).bind fun _ => .ret ()
  have honly : (handleIpChange locals transport).Only fun c => phoneService.point c = false :=
    hread.bind fun _ => .ite (.ret ()) (.ite (hswitch.bind fun _ => hlast) hlast)
  obtain ⟨p, hp⟩ := h
  refine .of_run honly ((inOrder_handleIpChange hp locals transport).mono fun _ _ => .inl) ⟨p, ?_⟩
  rw [session_handleIpChange]
  exact hp.handleIpChange a locals transport

/-- **Every operation** withstands any delegate. -/
theorem withstands_op (o : Op) (locals : Locals) (h : w.Settled) :
    Withstands a (o.program locals) (fun _ => World.Settled) w := by
  cases o with
  | registerWithNumber number host credentials =>
    exact withstands_registerWithNumber h number host credentials
  | handleIpChange transport => exact withstands_handleIpChange h locals transport
  | destroy => exact withstands_destroy h
  | hangup =>
    exact withstands_vars (withstands_call trivial (withstands_disconnect _ (h.of_session rfl)))
  | answercall => exact withstands_vars (withstands_call trivial (h.of_session rfl))
  | mute => exact withstands_vars (withstands_ite (withstands_call trivial (h.of_session rfl)) h)
  | unmute =>
    have hconnect : World.Settled ⟨w.vars, w.pjsua.after (.confConnect 0 w.vars.ci.confSlot)
        (w.pjsua.reply a (.confConnect 0 w.vars.ci.confSlot))⟩ := by
      rw [Pjsua.after_confConnect]
      exact h.of_session rfl
    exact withstands_vars (withstands_ite (withstands_call trivial hconnect) h)

end Programs

/-- The operations withstand any delegate. -/
theorem resilient_phoneService : phoneService.Resilient World.Settled Cmd.Orderly :=
  fun q _ hw => withstands_op q.op q.locals hw

/-! ## The queue that runs a request at once -/

theorem World.Settled.callback {w : World} (h : w.Settled) (cb : Callback) (a : Answers) :
    (inlinePhone.step (.callback cb a) w).state.Settled := by
  obtain ⟨p, hp⟩ := h
  refine ⟨p.step ((Act.callback cb).answered a), ?_⟩
  change (World.step ((Act.callback cb).answered a) w).state.session.In _
  rw [session_step]
  exact hp.step _

/-- Whatever the delegate requests inside operations, the phone ends in one of its phases. -/
theorem settled_inlinePhone (config : CTSoftPhoneConfig) (acts : List Activity) :
    (inlinePhone.after (.initial config) acts).Settled := by
  induction acts using List.reverseRecOn with
  | nil => exact ⟨.down, Session.in_initial config⟩
  | append_singleton acts act ih =>
    rw [inlinePhone.after_snoc]
    cases act with
    | submit r => exact resilient_phoneService.exec r ih
    | callback cb a => exact ih.callback cb a

/-- **Consistency under re-entrance**: whatever the delegate requests inside operations, and inside
those, the library and its account end in a consistent state. -/
theorem consistent_inlinePhone (config : CTSoftPhoneConfig) (acts : List Activity) :
    (inlinePhone.after (.initial config) acts).Consistent := by
  obtain ⟨p, hp⟩ := settled_inlinePhone config acts
  exact consistent_of_in hp

/-- **Order under re-entrance**: whatever the delegate requests inside an operation, the library is
called in order, except that an account that is gone may be deleted in a library that is down. -/
theorem inOrder_inlinePhone (config : CTSoftPhoneConfig) (acts : List Activity)
    (r : Request Queued) :
    ∀ e ∈ phoneService.issued r (inlinePhone.after (.initial config) acts),
      e.1.InOrder e.2 ∨ e.1.Belated e.2 :=
  resilient_phoneService.issued r (settled_inlinePhone config acts)

/-- A registered phone with a call. -/
def ringing : List Activity :=
  [.submit (.mk ⟨.registerWithNumber [] [] [], .success, ⟨0, pjsuaAccConfigDefault⟩⟩ []),
    .callback (.incomingCall 0) .success]

/-- A destroy within which the delegate, told of the end of a call, destroys as well. -/
def destroyInDestroy : Request Queued :=
  let destroys : Queued := ⟨.destroy, .success, ⟨0, pjsuaAccConfigDefault⟩⟩
  .mk destroys [[.mk destroys []]]

/-- The inner destroy deletes the account in order. -/
theorem inOrder_destroyInDestroy :
    ∃ e ∈ phoneService.issued destroyInDestroy (inlinePhone.after (.initial ⟨5060, .udp⟩) ringing),
      e.1 = .api (.accDel 0) ∧ e.1.InOrder e.2 := by
  have hlen : 12 < (phoneService.issued destroyInDestroy
    (inlinePhone.after (.initial ⟨5060, .udp⟩) ringing)).length := by decide +kernel
  have hmem := List.get_mem _ (⟨12, hlen⟩ : Fin _)
  refine ⟨_, hmem, rfl, (inOrder_inlinePhone _ _ _ _ hmem).resolve_right ?_⟩
  intro (h : (0 : ℤ) < 0 ∧ _)
  exact absurd h.1 (lt_irrefl 0)

-- The outer destroy goes on to delete an account that the inner one has deleted.
example :
    ∃ e ∈ phoneService.issued destroyInDestroy (inlinePhone.after (.initial ⟨5060, .udp⟩) ringing),
      e.1.Belated e.2 := by decide +kernel

end CTSoftPhone
