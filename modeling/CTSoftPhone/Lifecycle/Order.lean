import CTSoftPhone.Session.Phase
import CTSoftPhone.Wrapper.Quiet

/-!
# Calls in order

The library is set up in steps, each of which needs the one before, and an account is used only
while it is there. What a function needs is what the state of the library and its accounts show.
Every operation, from every world that a history leads to, calls the functions in this order,
whatever they answer.

## Main definitions

* `Api.InOrder`: what a function needs of the library and its accounts
* `World.Accounted`: the phone has no account, or the library is running with it

## Main results

* `inOrder_op`: the operations call the library in order
-/

namespace CTSoftPhone

/-- What a function needs of the library and its accounts: the library is set up step by step, and
destroyed without an account; an account is added when there is none, and used while it is there and
the library running. -/
def Api.InOrder (p : Pjsua) : Api → Prop
  | .create => p.state = .null
  | .init => p.state = .created
  | .transportCreate .. => p.state.Initialised
  | .start => p.state = .init
  | .handleIpChange => p.state = .running
  | .accAdd _ | .destroy => p.accounts = []
  | .accModify accId _ | .accDel accId | .accGetConfig accId | .accSetTransport accId _ =>
    p.state = .running ∧ ∃ acc ∈ p.accounts, acc.id = accId
  | .callAnswer _ | .callHangup _ | .callHangupAll | .callGetInfo _ | .confConnect ..
  | .confDisconnect .. => True

/-- A command that calls pjsua calls it in order. -/
def Cmd.InOrder : Cmd → World → Prop
  | .api c, w => c.InOrder w.pjsua
  | .vars, _ | .assign _, _ | .activeCalls, _ | .endCall _, _ | .notify _, _ => True

/-- A program calls the library in order. -/
abbrev InOrder {α : Type} (a : Answers) (p : Phone α) (w : World) : Prop :=
  p.Issues (Cmd.handle a) Cmd.InOrder w

/-- There is no account. -/
def World.Bare (w : World) : Prop := w.vars.accId < 0 ∧ w.pjsua.accounts = []

/-- There is no account, or the library is running with it. -/
def World.Accounted (w : World) : Prop :=
  w.Bare ∨ 0 ≤ w.vars.accId ∧ w.pjsua.state = .running ∧
      ∃ cfg, w.pjsua.accounts = [⟨w.vars.accId, cfg⟩]

theorem accounted_of_in {w : World} {p : Phase} (h : w.session.In p) : w.Accounted := by
  cases p with
  | down => exact .inl ⟨h.2.accId_neg, h.2.accounts_eq⟩
  | up => exact .inr ⟨h.2.accId_nonneg, h.2.state_eq, h.2.accounts_eq⟩
  | stale => exact .inl ⟨h.2.accId_neg, h.2.accounts_eq⟩

theorem Cmd.Quiet.inOrder {c : Cmd} (h : c.Quiet) (w : World) : c.InOrder w := by
  cases c with
  | api c => cases c <;> trivial
  | _ => trivial

section Programs

variable {a : Answers} {w : World}

theorem inOrder_bind {α β : Type} {p : Phone α} {f : α → Phone β} :
    InOrder a (p >>= f) w ↔ InOrder a p w ∧
      InOrder a (f (p.run (Cmd.handle a) w).val) (p.run (Cmd.handle a) w).state :=
  Prog.issues_bind

theorem inOrder_vars {α : Type} {f : Vars → Phone α} (h : InOrder a (f w.vars) w) :
    InOrder a (vars >>= f) w := ⟨trivial, h⟩

theorem inOrder_assign {α : Type} {f : Vars → Vars} {k : Unit → Phone α}
    (h : InOrder a (k ()) { w with vars := f w.vars }) : InOrder a (assign f >>= k) w :=
  ⟨trivial, h⟩

theorem inOrder_call {α : Type} {c : Api} {f : Reply → Phone α} (hc : c.InOrder w.pjsua)
    (h : InOrder a (f (w.pjsua.reply a c)) ⟨w.vars, w.pjsua.after c (w.pjsua.reply a c)⟩) :
    InOrder a (api c >>= f) w := ⟨hc, h⟩

theorem inOrder_api {c : Api} : InOrder a (api c) w ↔ c.InOrder w.pjsua := and_iff_left trivial

theorem inOrder_of_discreet {α : Type} {p : Phone α} (h : p.Only Cmd.Discreet) : InOrder a p w :=
  (h.mono fun _ hc => hc.quiet.inOrder).issues w

theorem inOrder_ctPjsuaDestroy (h : w.Accounted) : InOrder a ctPjsuaDestroy w := by
  refine inOrder_bind.mpr ⟨?_, inOrder_bind.mpr ⟨inOrder_api.mpr ?_, trivial⟩⟩
  · refine inOrder_vars ?_
    rcases h with ⟨hneg, -⟩ | ⟨hacc, hstate, cfg, haccounts⟩
    · rw [if_pos hneg]
      trivial
    · rw [if_neg (Int.not_lt.mpr hacc)]
      obtain ⟨ci, hci⟩ := run_pjsuaCallHangupAll_state a w
      refine inOrder_bind.mpr ⟨inOrder_of_discreet discreet_pjsuaCallHangupAll, ?_⟩
      rw [hci]
      refine inOrder_vars (inOrder_bind.mpr ⟨inOrder_api.mpr ⟨hstate, ?_⟩, trivial, trivial⟩)
      exact ⟨⟨w.vars.accId, cfg⟩, haccounts ▸ List.mem_singleton_self _, rfl⟩
  · rcases h with ⟨hneg, haccounts⟩ | ⟨hacc, hstate, cfg, haccounts⟩
    · rw [run_ctPjsuaDeleteAccount_of_neg a w hneg]
      exact haccounts
    · obtain ⟨ci, hci, -⟩ := run_ctPjsuaDeleteAccount_of_nonneg a w hacc
      rw [hci]
      -- the account deleted was the only one
      simp [Api.InOrder, haccounts]

theorem inOrder_registrationFailed (h : w.Accounted) : InOrder a registrationFailed w :=
  inOrder_bind.mpr ⟨inOrder_ctPjsuaDestroy h, trivial, trivial⟩

theorem inOrder_destroy (h : w.Accounted) : InOrder a destroy w :=
  inOrder_bind.mpr ⟨inOrder_ctPjsuaDestroy h, trivial, trivial, trivial⟩

/-! ## Setting the library up -/

/-- The functions that set the library up. -/
def Api.SetsUp : Api → Prop
  | .create | .init | .start | .transportCreate .. => True
  | _ => False

theorem World.Bare.after {c : Api} (h : w.Bare) (hc : c.SetsUp) (r : Reply) (status : PjStatus) :
    World.Bare ⟨{ w.vars with status := status }, w.pjsua.after c r⟩ := by
  refine ⟨h.1, ?_⟩
  cases c with
  | create | init | start | transportCreate type port =>
    dsimp only [Pjsua.after]
    split <;> exact h.2
  | _ => exact hc.elim

/-- A stage of the set-up: the library is in its next state, or the registration gives up. -/
theorem inOrder_stage {c : Api} {p : Phone Bool} (state : PjsuaState) (hbare : w.Bare)
    (hc : c.SetsUp) (hneeds : c.InOrder w.pjsua)
    (hstate : ∀ (q : Pjsua) (r : Reply), r.status = pjSuccess → (q.after c r).state = state)
    (hp : ∀ w' : World, w'.Bare → w'.pjsua.state = state → InOrder a p w') :
    InOrder a (do
      setStatus (← api c).status
      if (← vars).status ≠ pjSuccess then
        registrationFailed
        return false
      p) w := by
  refine inOrder_call hneeds (inOrder_assign (inOrder_vars ?_))
  have hafter := World.Bare.after hbare hc (w.pjsua.reply a c) (w.pjsua.reply a c).status
  by_cases hs : (w.pjsua.reply a c).status = pjSuccess
  · rw [if_neg (not_not_intro hs)]
    exact hp _ hafter (hstate _ _ hs)
  · rw [if_pos hs]
    exact inOrder_bind.mpr ⟨inOrder_registrationFailed (.inl hafter), trivial⟩

/-- The library is set up stage by stage. -/
theorem inOrder_setUp (hnull : w.pjsua.state = .null) (hbare : w.Bare) : InOrder a setUp w := by
  refine inOrder_assign (inOrder_stage .created hbare trivial hnull ?_ ?_)
  · intro q r hr
    rw [Pjsua.after, if_pos hr]
  intro w hbare hcreated
  refine inOrder_stage .init hbare trivial hcreated ?_ ?_
  · intro q r hr
    rw [Pjsua.after, if_pos hr]
  intro w hbare hinit
  -- the transport is created in between, and its status is not looked at
  refine inOrder_vars (inOrder_call ?_ (inOrder_assign ?_))
  · change w.pjsua.state.Initialised
    rw [hinit]
    trivial
  refine inOrder_stage .running ?_ trivial ?_ ?_ ?_
  · exact World.Bare.after (c := .transportCreate _ _) hbare trivial _ _
  · change (w.pjsua.after (.transportCreate _ _) _).state = .init
    rw [Pjsua.after]
    split <;> exact hinit
  · intro q r hr
    rw [Pjsua.after, if_pos hr]
  · exact fun _ _ _ => trivial

/-! ## The operations -/

/-- The account is modified or added, and the library destroyed in order when that fails. -/
theorem inOrder_putAccount (h : w.Accounted) (cfg : PjsuaAccConfig) :
    InOrder a (putAccount cfg) w := by
  have hend : ∀ w' : World, (w'.vars.status ≠ pjSuccess → w'.Accounted) →
      InOrder a (do
        if (← vars).status = pjSuccess then return
        registrationFailed) w' := by
    intro w' h'
    refine inOrder_vars ?_
    by_cases hs : w'.vars.status = pjSuccess
    · rw [if_pos hs]
      trivial
    · rw [if_neg hs]
      exact inOrder_registrationFailed (h' hs)
  refine inOrder_vars ?_
  rcases h with ⟨hneg, hnil⟩ | ⟨hacc, hstate, cfg', haccounts⟩
  · rw [if_neg (Int.not_le.mpr hneg)]
    refine inOrder_call hnil (inOrder_assign (hend _ fun hfailed => .inl ?_))
    -- an account that is not added leaves no id
    have hid := ((w.pjsua.reply a (.accAdd cfg)).silent_of_failed hfailed).1
    refine ⟨?_, ?_⟩
    · dsimp only
      rw [hid]
      exact hneg
    · dsimp only [Pjsua.after]
      rw [hid]
      exact hnil
  · rw [if_pos hacc]
    refine inOrder_vars (inOrder_call ⟨hstate, ?_⟩ (inOrder_assign (hend _ fun hfailed => .inr ?_)))
    · exact ⟨⟨w.vars.accId, cfg'⟩, haccounts ▸ List.mem_singleton_self _, rfl⟩
    · refine ⟨hacc, ?_⟩
      dsimp only [Pjsua.after]
      rw [if_neg hfailed]
      exact ⟨hstate, cfg', haccounts⟩

theorem inOrder_registerWithNumber {p : Phase} (h : w.session.In p)
    (number host credentials : NSString) :
    InOrder a (registerWithNumber number host credentials) w := by
  refine inOrder_vars ?_
  cases p with
  | down =>
    rw [show w.vars.pjsuaInitialized = false from h.1]
    refine inOrder_bind.mpr ⟨inOrder_setUp h.2.state_eq ⟨h.2.accId_neg, h.2.accounts_eq⟩, ?_⟩
    by_cases hs : a.SetUpOk
    · rw [run_setUp_of_ok a w hs]
      refine inOrder_vars ?_
      rw [accountConfig_eq]
      exact inOrder_putAccount (w := w.setUp a) (.inl ⟨h.2.accId_neg, h.2.accounts_eq⟩) _
    · -- after a failed set-up nothing is left to do
      obtain ⟨status, ci, es, hrun, -⟩ := run_setUp_of_failed a w hs
      rw [hrun]
      trivial
  | up =>
    rw [show w.vars.pjsuaInitialized = true from h.1]
    refine inOrder_vars ?_
    rw [accountConfig_eq]
    exact inOrder_putAccount (accounted_of_in h) _
  | stale =>
    rw [show w.vars.pjsuaInitialized = true from h.1]
    refine inOrder_vars ?_
    rw [accountConfig_eq]
    exact inOrder_putAccount (accounted_of_in h) _

/-- The library is running with the account. -/
def Pjsua.Serves (p : Pjsua) (accId : ℤ) : Prop :=
  p.state = .running ∧ ∃ acc ∈ p.accounts, acc.id = accId

/-- The functions that a switch calls. -/
def Api.Switches : Api → Prop
  | .transportCreate .. | .accSetTransport .. | .accGetConfig _ | .accModify .. => True
  | _ => False

theorem Pjsua.Serves.modifyAcc {p : Pjsua} {accId : ℤ} (h : p.Serves accId) (accId' : ℤ)
    (f : PjsuaAccConfig → PjsuaAccConfig) : (p.modifyAcc accId' f).Serves accId := by
  obtain ⟨hrun, acc, hacc, rfl⟩ := h
  refine ⟨hrun, _, List.mem_map_of_mem hacc, ?_⟩
  split <;> rfl

theorem Pjsua.Serves.after {p : Pjsua} {accId : ℤ} (h : p.Serves accId) {c : Api} (hc : c.Switches)
    (r : Reply) : (p.after c r).Serves accId := by
  cases c with
  | transportCreate type port =>
    rw [Pjsua.after]
    split <;> exact h
  | accSetTransport accId' transportId =>
    rw [Pjsua.after]
    split
    · exact h.modifyAcc _ _
    · exact h
  | accModify accId' cfg =>
    rw [Pjsua.after]
    split
    · exact h.modifyAcc _ _
    · exact h
  | accGetConfig accId' => exact h
  | _ => exact hc.elim

/-- A call of a switch leaves the account there for the calls after it. -/
theorem inOrder_switchCall {α : Type} {c : Api} {f : Reply → Phone α}
    (h : w.pjsua.Serves w.vars.accId) (hc : c.Switches) (hneeds : c.InOrder w.pjsua)
    (hf : ∀ r (q : Pjsua), q.Serves w.vars.accId → InOrder a (f r) ⟨w.vars, q⟩) :
    InOrder a (api c >>= f) w := inOrder_call hneeds (hf _ _ (h.after hc _))

theorem inOrder_switchTransport (h : w.pjsua.Serves w.vars.accId) (locals : Locals)
    (transport : CTSoftPhoneTransportType) : InOrder a (switchTransport locals transport) w := by
  refine inOrder_assign (inOrder_vars (inOrder_switchCall h trivial ?_ fun created q hq => ?_))
  · change w.pjsua.state.Initialised
    rw [h.1]
    trivial
  refine inOrder_assign (inOrder_vars (inOrder_switchCall hq trivial hq fun _ q hq => ?_))
  refine inOrder_vars (inOrder_switchCall hq trivial hq fun _ q hq => ?_)
  exact inOrder_vars (inOrder_call hq trivial)

theorem inOrder_handleIpChange {p : Phase} (h : w.session.In p) (locals : Locals)
    (transport : CTSoftPhoneTransportType) : InOrder a (handleIpChange locals transport) w := by
  refine inOrder_vars ?_
  by_cases hguard : w.vars.callId < 0 ∨ w.vars.accId < 0
  · rw [if_pos hguard]
    trivial
  rw [if_neg hguard]
  -- with an account the library is running
  have hserves : w.pjsua.Serves w.vars.accId := by
    rcases accounted_of_in h with hbare | ⟨-, hrun, cfg, haccounts⟩
    · exact absurd (.inr hbare.1) hguard
    · exact ⟨hrun, _, haccounts ▸ List.mem_singleton_self _, rfl⟩
  by_cases ht : w.vars.config.transport ≠ transport
  · rw [if_pos ht]
    refine inOrder_bind.mpr ⟨inOrder_switchTransport hserves locals transport, ?_⟩
    rw [run_switchTransport]
    exact inOrder_call hserves.1 trivial
  · rw [if_neg ht]
    exact inOrder_call hserves.1 trivial

/-- **The operations** call the library in order, from every world that a history leads to. -/
theorem inOrder_op {p : Phase} (h : w.session.In p) (o : Op) (locals : Locals) :
    InOrder a (o.rereading locals) w := by
  cases o with
  | registerWithNumber number host credentials =>
    exact inOrder_registerWithNumber h number host credentials
  | handleIpChange transport => exact inOrder_handleIpChange h locals transport
  | destroy => exact inOrder_destroy (accounted_of_in h)
  | hangup => exact inOrder_of_discreet (discreet_callOp (.inl rfl) locals)
  | answercall => exact inOrder_of_discreet (discreet_callOp (.inr (.inl rfl)) locals)
  | mute => exact inOrder_of_discreet (discreet_callOp (.inr (.inr (.inl rfl))) locals)
  | unmute => exact inOrder_of_discreet (discreet_callOp (.inr (.inr (.inr rfl))) locals)

end Programs

end CTSoftPhone
