import CTSoftPhone.Programs.Reentrant
import CTSoftPhone.Session.Session

/-!
# Operations requested by the delegate

`runAsync:` runs a block at once when it is requested on the serial queue. The delegate is told of
calls and registrations on the queue, inside the operations, so what it requests there runs in the
middle of them: when `pjsua_call_hangup_all` tells it that a call has ended, the rest of the
tear-down is still to come.

## Main definitions

* `Queued`: an operation requested of the queue, with the answers to its calls
* `phoneService`: the operations as jobs, with the notifications as callbacks
* `Step.Harmless`: neither a registration nor a change of IP
* `inlinePhone`: the phone whose queue runs a request at once, logging the steps requested

## Main results

* `phoneService_viewed`: each operation calls back where what may be requested commutes with what
  is left of it
* `session_inlinePhone`: with harmless requests inside `pjsua_call_hangup_all`, the session is that
  of the requested steps, one after another
-/

namespace CTSoftPhone

/-- An operation requested of the queue, with the answers to its calls. -/
structure Queued where
  op : Op
  answers : Answers
  locals : Locals

/-- The step that an operation is. -/
def Queued.step (q : Queued) : Step := ⟨.op q.op, q.answers, q.locals⟩

/-- A step that is neither a registration nor a change of IP. -/
def Step.Harmless (st : Step) : Prop :=
  match st.act with
  | .op (.registerWithNumber ..) | .op (.handleIpChange _) => False
  | _ => True

instance : DecidablePred Step.Harmless
  | ⟨.op (.registerWithNumber ..), _, _⟩ | ⟨.op (.handleIpChange _), _, _⟩ => .isFalse id
  | ⟨.op .destroy, _, _⟩ | ⟨.op .hangup, _, _⟩ | ⟨.op .answercall, _, _⟩ | ⟨.op .mute, _, _⟩
  | ⟨.op .unmute, _, _⟩ | ⟨.callback _, _, _⟩ => .isTrue trivial

/-- An operation that may be requested inside `pjsua_call_hangup_all`. -/
def Queued.Harmless (q : Queued) : Prop := q.step.Harmless

/-- The operations as jobs: the delegate is called back at its notifications, and the window is
open while `pjsua_call_hangup_all` is executing, which `pjsua_acc_del` follows. -/
def phoneService : Service Cmd.Ans World Event Queued where
  body q := q.op.program q.locals
  handle q := Cmd.handle q.answers
  point
    -- the delegate is called on the queue, inside the operation
    | .notify _ => true
    | _ => false
  window
    | .api .callHangupAll, _ => true
    | .api (.accDel _), _ => false
    | _, o => o

section Placed

variable (a : Answers)

/-- The callbacks of a program are well placed. -/
abbrev Placed {α : Type} (a : Answers) (p : Phone α) (o : Bool) : Prop :=
  phoneService.Placed World.session (fun q s => s.step q.step) Queued.Harmless (Cmd.handle a) p o

/-- The program absorbs the operations that may be requested before it. -/
abbrev Absorbed {α : Type} (a : Answers) (p : Phone α) (o : Bool) : Prop :=
  Service.Absorbs World.session (fun q s => Session.step q.step s) Queued.Harmless
    (Cmd.handle a) p o

/-- The program acts on sessions by a function. -/
def ActsBy {α : Type} (a : Answers) (p : Phone α) (g : Session → Session) : Prop :=
  ∀ w, (p.run (Cmd.handle a) w).state.session = g w.session

section Rules

variable {a} {α : Type} {o : Bool}

theorem placed_vars {f : Vars → Phone α} (h : ∀ v, Placed a (f v) o) :
    Placed a (vars.bind f) o := phoneService.placed_call rfl h

theorem placed_assign {f : Vars → Vars} {K : Unit → Phone α} (h : Placed a (K ()) o) :
    Placed a ((assign f).bind K) o := phoneService.placed_call rfl fun _ => h

theorem placed_api {c : Api} {f : Reply → Phone α}
    (h : ∀ r, Placed a (f r) (phoneService.window (.api c) o)) : Placed a ((api c).bind f) o :=
  phoneService.placed_call rfl h

theorem placed_activeCalls {f : List ℤ → Phone α} (h : ∀ callIds, Placed a (f callIds) o) :
    Placed a (activeCalls.bind f) o := phoneService.placed_call rfl h

theorem placed_endCall {callId : ℤ} {f : Bool → Phone α} (h : ∀ live, Placed a (f live) o) :
    Placed a ((endCall callId).bind f) o := phoneService.placed_call rfl h

theorem placed_ite {P : Prop} [Decidable P] {p q : Phone α} (hp : Placed a p o)
    (hq : Placed a q o) : Placed a (if P then p else q) o := by
  split
  · exact hp
  · exact hq

/-- A notification is well placed where what follows absorbs the requests made there. -/
theorem placed_notify {n : Notification} {K : Unit → Phone α} (h : Placed a (K ()) o)
    (habsorbs : Absorbed a (K ()) o) : Placed a (.call (.notify n) K) o :=
  fun _ => ⟨fun _ => habsorbs, h⟩

theorem placed_onCallState {callId : ℤ} {K : Unit → Phone α} (h : Placed a (K ()) o)
    (habsorbs : Absorbed a (K ()) o) : Placed a ((onCallState callId).bind K) o := by
  simp only [onCallState, getInfo, Prog.bind_def, Prog.bind_assoc]
  exact placed_api fun _ => placed_assign <| placed_vars fun _ => placed_notify h habsorbs

theorem placed_disconnect_bind {callId : ℤ} {K : Unit → Phone α} (h : Placed a (K ()) o)
    (habsorbs : Absorbed a (K ()) o) : Placed a ((disconnect callId).bind K) o := by
  simp only [disconnect, Prog.bind_def, Prog.bind_assoc, Prog.ite_bind, Prog.pure_def,
    Prog.ret_bind]
  exact placed_endCall fun _ => placed_ite (placed_onCallState h habsorbs) h

end Rules

/-! ### Inside `pjsua_call_hangup_all` -/

/-- What the tear-down of an account does after `pjsua_call_hangup_all`, and then `K`. -/
def afterHangupAll {β : Type} (K : Phone β) : Phone β :=
  vars.bind fun v => (api (.accDel v.accId)).bind fun _ =>
    (assign fun v => { v with accId := -1 }).bind fun _ => (api .destroy).bind fun _ => K

theorem ctPjsuaDestroy_bind {β : Type} (K : Phone β) :
    (ctPjsuaDestroy.bind fun _ => K) =
      vars.bind fun v => if v.accId < 0 then (api .destroy).bind fun _ => K
        else pjsuaCallHangupAll.bind fun _ => afterHangupAll K := by
  simp only [ctPjsuaDestroy, ctPjsuaDeleteAccount, Prog.bind_def, Prog.bind_assoc, Prog.ite_bind,
    Prog.pure_def, Prog.ret_bind, afterHangupAll]

/-- What is left after `pjsua_call_hangup_all` makes of a session. -/
def Session.removed (s : Session) : Session :=
  { s with accId := -1, state := .null, transports := [], accounts := [] }

theorem actsBy_afterHangupAll {β : Type} {K : Phone β} {g : Session → Session}
    (hK : ActsBy a K g) : ActsBy a (afterHangupAll K) fun s => g s.removed := by
  intro w
  simp only [afterHangupAll, Prog.run_bind, run_vars, run_api, run_assign, Outcome.andThen_state]
  exact hK _

theorem actsBy_forM_disconnect {β : Type} {q : Phone β} {g : Session → Session}
    (hq : ActsBy a q g) (callIds : List ℤ) :
    ActsBy a ((forM callIds disconnect : Phone PUnit).bind fun _ => q) g := by
  intro w
  obtain ⟨ci, hci⟩ := run_forM_disconnect_state a w callIds
  rw [Prog.run_bind, Outcome.andThen_state, hci, hq]
  rfl

/-- The function commutes with the harmless operations. -/
def Commutes (g : Session → Session) : Prop :=
  ∀ q : Queued, q.Harmless → ∀ s, g (s.step q.step) = (g s).step q.step

/-- The calls ended in `pjsua_call_hangup_all` call back where harmless operations commute with
what is left. -/
theorem placed_forM_disconnect {β : Type} {q : Phone β} {g : Session → Session}
    (hg : Commutes g) (hq : ActsBy a q g) (hplaced : Placed a q true) (callIds : List ℤ) :
    Placed a ((forM callIds disconnect : Phone PUnit).bind fun _ => q) true := by
  induction callIds with
  | nil => exact hplaced
  | cons c cs ih =>
    rw [List.forM_cons, Prog.bind_def, Prog.bind_assoc]
    exact placed_disconnect_bind ih
      ⟨g, actsBy_forM_disconnect a hq cs, fun j hj => hg j (hj rfl)⟩

theorem placed_ctPjsuaDestroy_bind {β : Type} {K : Phone β} {g : Session → Session}
    (hK : ActsBy a K g) (hplaced : Placed a K false) (hg : Commutes fun s => g s.removed) :
    Placed a (ctPjsuaDestroy.bind fun _ => K) false := by
  rw [ctPjsuaDestroy_bind]
  refine placed_vars fun v => placed_ite (placed_api fun _ => hplaced) ?_
  simp only [pjsuaCallHangupAll, Prog.bind_def, Prog.bind_assoc]
  refine placed_api fun _ => placed_activeCalls fun callIds => ?_
  -- the calls end in the window; what follows it calls back outside
  refine placed_forM_disconnect a hg (actsBy_afterHangupAll a hK) ?_ callIds
  exact placed_vars fun v => placed_api fun _ => placed_assign <| placed_api fun _ => hplaced

/-! ### The operations -/

/-- What commutes with a destroy commutes with the harmless operations: the others leave the
session as it was. -/
theorem commutes_of_destroy {g : Session → Session}
    (h : ∀ s : Session, g { s.tearDown with pjsuaInitialized := false } =
      { (g s).tearDown with pjsuaInitialized := false }) : Commutes g := by
  rintro ⟨op, answers, locals⟩ hq s
  cases op with
  | registerWithNumber number host credentials => exact hq.elim
  | handleIpChange transport => exact hq.elim
  | destroy => exact h s
  | hangup => rfl
  | answercall => rfl
  | mute => rfl
  | unmute => rfl

theorem placed_destroy : Placed a destroy false := by
  apply placed_ctPjsuaDestroy_bind a (g := fun s => { s with pjsuaInitialized := false })
  · exact fun _ => rfl
  · exact placed_assign (placed_notify trivial Service.absorbs_ret)
  · exact commutes_of_destroy fun _ => rfl

/-- A failed registration calls back where harmless operations commute with what is left. -/
theorem placed_registrationFailed_bind {β : Type} (b : β) :
    Placed a (registrationFailed.bind fun _ => .ret b) false := by
  rw [registrationFailed, Prog.bind_def, Prog.bind_assoc]
  apply placed_ctPjsuaDestroy_bind a (g := id)
  · exact fun _ => rfl
  · exact placed_notify trivial Service.absorbs_ret
  · exact commutes_of_destroy fun _ => rfl

theorem placed_registrationFailed : Placed a registrationFailed false := by
  have h := placed_registrationFailed_bind a ()
  rwa [Prog.bind_ret] at h

theorem placed_putAccount (cfg : PjsuaAccConfig) : Placed a (putAccount cfg) false := by
  have hrest : Placed a (vars.bind fun v => if v.status = pjSuccess then .ret ()
      else registrationFailed) false :=
    placed_vars fun _ => placed_ite trivial (placed_registrationFailed a)
  simp only [putAccount, setStatus, Prog.bind_def, Prog.pure_def]
  refine placed_vars fun v => placed_ite ?_ ?_
  · exact placed_vars fun _ => placed_api fun _ => placed_assign hrest
  · exact placed_api fun _ => placed_assign hrest

/-- A set-up that fails ends the registration. -/
theorem placed_setUp_bind {K : Bool → Phone Unit} (hfalse : K false = .ret ())
    (htrue : Placed a (K true) false) : Placed a (setUp.bind K) false := by
  have hfailed := placed_registrationFailed_bind a ()
  simp only [setUp, setStatus, Prog.bind_def, Prog.bind_assoc, Prog.ite_bind, Prog.pure_def,
    Prog.ret_bind, hfalse]
  refine placed_assign <| placed_api fun _ => placed_assign <| placed_vars fun _ =>
    placed_ite hfailed ?_
  refine placed_api fun _ => placed_assign <| placed_vars fun _ => placed_ite hfailed ?_
  refine placed_vars fun _ => placed_api fun _ => placed_assign <| placed_api fun _ =>
    placed_assign <| placed_vars fun _ => placed_ite hfailed htrue

theorem placed_registerWithNumber (number host credentials : NSString) :
    Placed a (registerWithNumber number host credentials) false := by
  simp only [registerWithNumber, Prog.bind_def]
  refine placed_vars fun v => placed_ite (placed_setUp_bind a rfl ?_) ?_
  -- with or without a set-up, the account comes last
  all_goals
    refine placed_vars fun v => ?_
    cases accountConfig number host credentials v.config with
    | some cfg => exact placed_putAccount a cfg
    | none => exact placed_notify trivial Service.absorbs_ret

theorem placed_handleIpChange (locals : Locals) (transport : CTSoftPhoneTransportType) :
    Placed a (handleIpChange locals transport) false := by
  have hlast : Placed a ((api .handleIpChange).bind fun _ => .ret ()) false :=
    placed_api fun _ => trivial
  simp only [handleIpChange, switchTransport, setStatus, Prog.bind_def, Prog.bind_assoc,
    Prog.pure_def, Prog.ret_bind]
  refine placed_vars fun v => placed_ite trivial (placed_ite ?_ hlast)
  refine placed_assign <| placed_vars fun _ => placed_api fun _ => placed_assign ?_
  refine placed_vars fun _ => placed_api fun _ => placed_vars fun _ => placed_api fun _ => ?_
  exact placed_vars fun _ => placed_api fun _ => hlast

theorem placed_hangup : Placed a hangup false := by
  simp only [hangup, getCallid, pjsuaCallHangup, Prog.bind_def, Prog.bind_assoc, Prog.pure_def,
    Prog.ret_bind]
  refine placed_vars fun v => placed_api fun _ => ?_
  rw [← Prog.bind_ret (disconnect v.callId)]
  exact placed_disconnect_bind trivial Service.absorbs_ret

theorem placed_answercall : Placed a answercall false := by
  simp only [answercall, getCallid, Prog.bind_def, Prog.bind_assoc, Prog.pure_def, Prog.ret_bind]
  exact placed_vars fun _ => placed_api fun _ => trivial

theorem placed_mute : Placed a mute false :=
  placed_vars fun _ => placed_ite (placed_api fun _ => trivial) trivial

theorem placed_unmute : Placed a unmute false :=
  placed_vars fun _ => placed_ite (placed_api fun _ => trivial) trivial

end Placed

/-- Sessions view the operations: each acts on the session as its step, and calls back where what
may be requested commutes with what is left. -/
theorem phoneService_viewed :
    phoneService.Viewed World.session (fun q s => s.step q.step) Queued.Harmless where
  placed
    | ⟨.registerWithNumber .., a, _⟩ => placed_registerWithNumber a _ _ _
    | ⟨.handleIpChange _, a, _⟩ => placed_handleIpChange a _ _
    | ⟨.destroy, a, _⟩ => placed_destroy a
    | ⟨.hangup, a, _⟩ => placed_hangup a
    | ⟨.answercall, a, _⟩ => placed_answercall a
    | ⟨.mute, a, _⟩ => placed_mute a
    | ⟨.unmute, a, _⟩ => placed_unmute a
  step q := session_step q.step

/-! ## The queue -/

/-- What the application and the library do: submit an operation, with what the delegate requests
when it is notified, or raise a callback. A callback is raised off the queue, where a request of
the delegate is submitted. -/
inductive Activity
  | submit (r : Request Queued)
  | callback (cb : Callback) (a : Answers)

/-- The phone whose queue runs a request at once. It logs the steps, each with whether it was
requested inside `pjsua_call_hangup_all`. -/
def inlinePhone : Machine World Activity (Step × Bool) where
  step
    | .submit r, w =>
      let o := phoneService.exec r w
      { o with events := o.events.map fun e => (e.1.step, e.2) }
    | .callback cb a, w =>
      let st := (Act.callback cb).answered a
      ⟨(), (World.step st w).state, [(st, false)]⟩

/-- The session in which the phone ends whose queue runs a request at once. -/
def inlineSession (config : CTSoftPhoneConfig) (acts : List Activity) : Session :=
  (inlinePhone.after (.initial config) acts).session

/-- The steps requested, in order. -/
def requested (config : CTSoftPhoneConfig) (acts : List Activity) : List (Step × Bool) :=
  inlinePhone.trace (.initial config) acts

/-- The session after the requested steps, each as a whole. -/
def serialSession (config : CTSoftPhoneConfig) (acts : List Activity) : Session :=
  (worldAfter config ((requested config acts).map Prod.fst)).session

/-- One activity makes of the session what its steps do, one after another. -/
theorem session_inlinePhone_step (act : Activity) (w : World)
    (h : ∀ e ∈ (inlinePhone.step act w).events, e.2 = true → e.1.Harmless) :
    (inlinePhone.step act w).state.session =
      ((inlinePhone.step act w).events.map Prod.fst).foldl (fun s st => s.step st) w.session := by
  cases act with
  | submit r =>
    have hmild : Service.MildInWindows Queued.Harmless (phoneService.exec r w).events :=
      fun e he hw => h (e.1.step, e.2) (List.mem_map_of_mem he) hw
    have hview := phoneService.view_exec phoneService_viewed r w hmild
    simp only [inlinePhone, List.map_map, List.foldl_map, Function.comp_apply]
    exact hview
  | callback cb a => exact session_step _ w

/-- **Serial execution**: with harmless requests inside `pjsua_call_hangup_all`, the phone whose
queue runs a request at once ends in the session of the requested steps, one after another. -/
theorem session_inlinePhone (config : CTSoftPhoneConfig) (acts : List Activity)
    (h : ∀ e ∈ requested config acts, e.2 = true → e.1.Harmless) :
    inlineSession config acts = serialSession config acts := by
  unfold inlineSession serialSession requested at *
  rw [session_worldAfter]
  induction acts using List.reverseRecOn with
  | nil => rfl
  | append_singleton acts act ih =>
    rw [inlinePhone.trace_snoc, List.forall_mem_append] at h
    rw [inlinePhone.after_snoc, inlinePhone.trace_snoc, List.map_append, List.foldl_append,
      ← ih h.1]
    exact session_inlinePhone_step act _ h.2

/-- A registered phone with a call, and then an operation, during which the delegate, told of the
end of the call, requests others. -/
def endingCall (op : Op) (a : Answers) (nested : List Op) : List Activity :=
  let queued (op : Op) (a : Answers) : Queued := ⟨op, a, ⟨0, pjsuaAccConfigDefault⟩⟩
  [.submit (.mk (queued (.registerWithNumber [] [] []) .success) []),
    .callback (.incomingCall 0) .success,
    .submit (.mk (queued op a) [nested.map fun op => .mk (queued op .success) []])]

/-- A delegate that hangs up and destroys while the phone is destroyed. -/
theorem session_inlinePhone_destroy :
    inlineSession ⟨5060, .udp⟩ (endingCall .destroy .success [.hangup, .destroy, .mute]) =
      serialSession ⟨5060, .udp⟩ (endingCall .destroy .success [.hangup, .destroy, .mute]) :=
  session_inlinePhone _ _ (by decide)

/-- The answers that make a registered phone give up a registration. -/
def Answers.modifyFails : Answers := { Answers.success with accModify := pjEInvalidOp }

/-- A delegate that registers, or changes the IP, while the phone is destroyed or gives up a
registration: the flag, the transport or the account are not what they are one step after
another. -/
theorem session_inlinePhone_ne :
    (let acts := endingCall .destroy .success [.registerWithNumber [] [] []];
      (inlineSession ⟨5060, .udp⟩ acts).pjsuaInitialized = false ∧
        (serialSession ⟨5060, .udp⟩ acts).pjsuaInitialized = true) ∧
    (let acts := endingCall .destroy .success [.handleIpChange .tcp];
      (inlineSession ⟨5060, .udp⟩ acts).config.transport = .tcp ∧
        (serialSession ⟨5060, .udp⟩ acts).config.transport = .udp) ∧
    (let acts := endingCall (.registerWithNumber [] [] []) .modifyFails
        [.destroy, .registerWithNumber [] [] []];
      (inlineSession ⟨5060, .udp⟩ acts).accId = -1 ∧
        (serialSession ⟨5060, .udp⟩ acts).accId = 0) ∧
    (let acts := endingCall (.registerWithNumber [] [] []) .modifyFails [.handleIpChange .tcp];
      (inlineSession ⟨5060, .udp⟩ acts).config.transport = .tcp ∧
        (serialSession ⟨5060, .udp⟩ acts).config.transport = .udp) := by
  decide +kernel

end CTSoftPhone
