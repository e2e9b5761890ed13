import CTSoftPhone.Calls.Media
import CTSoftPhone.Lifecycle.Concurrency
import CTSoftPhone.Lifecycle.Reporter
import Mathlib.Data.Set.Basic

/-!
# What the phone names and tells

The phone names calls, conference slots and transports to pjsua, and tells the delegate of calls and
registrations, with values it has read some commands before. Whoever has written its globals
meanwhile, nothing is of its own making: every call was announced to it, every connection has the
sound device at one end and a slot that was reported at the other, every transport has the port of
the configuration and a type that was selected, every state of a call was reported of some call, and
every state of a registration has its cause. The exceptions are the current call and the call
information before the first ones, and the transport id that a failed switch leaves uninitialised.

What was announced, reported and handed out is read off what has happened, so that a thread learns
from the replies to its own calls, and from those to the calls of the others.

## Main definitions

* `Scope`: the port, and the transports, transport ids, calls, call information and states of a
  registration that may be named and told
* `Cmd.Within`, `World.Within`: a command names and tells what is in a scope, a world holds no other
* `scopeOf`: the scope of some moves and what has happened

## Main results

* `within_op`, `within_callback`: operations and callbacks stay within the scope of what happens
* `within_next`: in every interleaving, every thread names and tells what is in the scope only
* `joins_soundDevice`: in every interleaving, every connection has the sound device at one end
* `bound_to_port`: in every interleaving, every transport is bound to the port of the configuration
-/

namespace CTSoftPhone

/-! ## Scopes -/

/-- What may be named and told: a port, transports, transport ids, calls, call information, and the
states of a registration. -/
structure Scope where
  port : ℤ
  transports : Set CTSoftPhoneTransportType
  transportIds : Set ℤ
  calls : Set ℤ
  infos : Set PjsuaCallInfo
  registrations : Set CTSoftPhoneRegistrationState

namespace Scope

variable (sc : Scope)

/-- The conference slots of the call information in the scope. -/
def slots : Set ℤ := {slot | ∃ info ∈ sc.infos, info.confSlot = slot}

/-- One end of the connection is the sound device, and the other a slot of the scope. -/
def Joins (source sink : ℤ) : Prop := source = 0 ∧ sink ∈ sc.slots ∨ source ∈ sc.slots ∧ sink = 0

/-- The type is that of a transport of the scope, and the port that of the scope, as an unsigned
one. -/
def Binds (type : PjsipTransportType) (port : ℤ) : Prop :=
  ∃ transport ∈ sc.transports,
    type = (⟨sc.port, transport⟩ : CTSoftPhoneConfig).pjTransportType ∧
      port = (⟨sc.port, transport⟩ : CTSoftPhoneConfig).unsignedPort

variable {sc} {sc' : Scope}

theorem joins_to {slot : ℤ} (h : slot ∈ sc.slots) : sc.Joins 0 slot := .inl ⟨rfl, h⟩

theorem joins_from {slot : ℤ} (h : slot ∈ sc.slots) : sc.Joins slot 0 := .inr ⟨h, rfl⟩

/-- What is in the one scope is in the other. -/
structure Le (sc sc' : Scope) : Prop where
  port_eq : sc.port = sc'.port
  transports : sc.transports ⊆ sc'.transports
  transportIds : sc.transportIds ⊆ sc'.transportIds
  calls : sc.calls ⊆ sc'.calls
  infos : sc.infos ⊆ sc'.infos
  registrations : sc.registrations ⊆ sc'.registrations

theorem Le.slots (h : sc.Le sc') : sc.slots ⊆ sc'.slots := by
  rintro slot ⟨info, hinfo, hslot⟩
  exact ⟨info, h.infos hinfo, hslot⟩

theorem Le.joins (h : sc.Le sc') {source sink : ℤ} (hjoins : sc.Joins source sink) :
    sc'.Joins source sink := by
  rcases hjoins with ⟨hsource, hsink⟩ | ⟨hsource, hsink⟩
  · exact .inl ⟨hsource, h.slots hsink⟩
  · exact .inr ⟨h.slots hsource, hsink⟩

theorem Le.binds (h : sc.Le sc') {type : PjsipTransportType} {port : ℤ}
    (hbinds : sc.Binds type port) : sc'.Binds type port := by
  obtain ⟨transport, htransport, htype, hport⟩ := hbinds
  exact ⟨transport, h.transports htransport, h.port_eq ▸ htype, h.port_eq ▸ hport⟩

end Scope

section Within

variable (sc : Scope)

/-- A call to pjsua names what is in the scope only. -/
def Api.Within : Api → Prop
  | .confConnect source sink | .confDisconnect source sink => sc.Joins source sink
  | .transportCreate type port => sc.Binds type port
  | .accSetTransport _ transportId => transportId ∈ sc.transportIds
  | .callAnswer callId | .callHangup callId | .callGetInfo callId => callId ∈ sc.calls
  | .create | .init | .start | .destroy | .accAdd _ | .accModify .. | .accDel _ | .accGetConfig _
  | .handleIpChange | .callHangupAll => True

/-- The delegate is told a state of some call information of the scope, or a state of a registration
in it. -/
def Notification.Within : Notification → Prop
  | .registration state => state ∈ sc.registrations
  | .call state => ∃ info ∈ sc.infos,
      state = info.state.toCallState ∨ state = info.mediaStatus.toCallState

/-- A command names and tells what is in the scope only. -/
def Cmd.Within : Cmd → Prop
  | .api c => c.Within sc
  | .notify n => n.Within sc
  | .vars | .assign _ | .activeCalls | .endCall _ => True

/-- The globals that names are read from are within the scope. -/
structure Vars.Within (v : Vars) : Prop where
  ci_mem : v.ci ∈ sc.infos
  callId_mem : v.callId ∈ sc.calls
  port_eq : v.config.port = sc.port
  transport_mem : v.config.transport ∈ sc.transports

/-- The calls, the connections and the transports of a world, and the globals that names are read
from, are within the scope. -/
structure World.Within (w : World) : Prop where
  vars : w.vars.Within sc
  calls : ∀ callId ∈ w.pjsua.calls, callId ∈ sc.calls
  joins : ∀ e ∈ w.pjsua.conf, sc.Joins e.1 e.2
  binds : ∀ t ∈ w.pjsua.transports, sc.Binds t.type t.port

/-- The call that a callback is about. -/
def Callback.callId : Callback → Option ℤ
  | .incomingCall callId | .callState callId _ | .callMediaState callId => some callId
  | .regState2 _ => none

/-- The state of the registration that a callback reports. -/
def Callback.registration : Callback → Option CTSoftPhoneRegistrationState
  | .regState2 info => some info.toRegistrationState
  | .incomingCall _ | .callState .. | .callMediaState _ => none

/-- The call that a callback is about, or the state of the registration, is in the scope. -/
structure Callback.Within (cb : Callback) : Prop where
  call : ∀ callId, cb.callId = some callId → callId ∈ sc.calls
  registration : ∀ state, cb.registration = some state → state ∈ sc.registrations

variable {sc} {sc' : Scope} (hle : sc.Le sc')
include hle

theorem Api.Within.mono {c : Api} (h : c.Within sc) : c.Within sc' := by
  cases c with
  | confConnect source sink => exact hle.joins h
  | confDisconnect source sink => exact hle.joins h
  | transportCreate type port => exact hle.binds h
  | accSetTransport accId transportId => exact hle.transportIds h
  | callAnswer callId => exact hle.calls h
  | callHangup callId => exact hle.calls h
  | callGetInfo callId => exact hle.calls h
  | _ => trivial

theorem Vars.Within.mono {v : Vars} (h : v.Within sc) : v.Within sc' :=
  ⟨hle.infos h.ci_mem, hle.calls h.callId_mem, h.port_eq.trans hle.port_eq,
    hle.transports h.transport_mem⟩

theorem World.Within.mono {w : World} (h : w.Within sc) : w.Within sc' :=
  ⟨h.vars.mono hle, fun c hc => hle.calls (h.calls c hc), fun e he => hle.joins (h.joins e he),
    fun t ht => hle.binds (h.binds t ht)⟩

end Within

section Scopes

variable {sc : Scope}

theorem Vars.Within.confSlot_mem {v : Vars} (h : v.Within sc) : v.ci.confSlot ∈ sc.slots :=
  ⟨v.ci, h.ci_mem, rfl⟩

theorem Vars.Within.binds {v : Vars} (h : v.Within sc) :
    sc.Binds v.config.pjTransportType v.config.unsignedPort := by
  refine ⟨v.config.transport, h.transport_mem, ?_⟩
  rw [← h.port_eq]
  exact ⟨rfl, rfl⟩

/-- A call that is within the scope adds connections and transports of the scope only. -/
theorem World.Within.after {w : World} (h : w.Within sc) {c : Api} (hc : c.Within sc) (r : Reply) :
    World.Within sc ⟨w.vars, w.pjsua.after c r⟩ := by
  cases c with
  | confConnect source sink =>
    dsimp only [Pjsua.after]
    split
    · refine ⟨h.vars, h.calls, fun e he => ?_, h.binds⟩
      rcases Finset.mem_insert.mp he with rfl | he
      · exact hc
      · exact h.joins e he
    · exact h
  | confDisconnect source sink =>
    exact ⟨h.vars, h.calls, fun e he => h.joins e (Finset.mem_of_mem_erase he), h.binds⟩
  | transportCreate type port =>
    dsimp only [Pjsua.after]
    split
    · refine ⟨h.vars, h.calls, h.joins, fun t ht => ?_⟩
      rcases List.mem_append.mp ht with ht | ht
      · exact h.binds t ht
      · rw [List.mem_singleton.mp ht]
        exact hc
    · exact h
  | destroy =>
    refine ⟨h.vars, fun c hc => ?_, fun e he => ?_, fun t ht => ?_⟩
    · exact absurd hc List.not_mem_nil
    · exact absurd he (Finset.notMem_empty e)
    · exact absurd ht List.not_mem_nil
  | create | init | start | accAdd config | accModify accId config
  | accSetTransport accId transportId =>
    dsimp only [Pjsua.after]
    split <;> exact ⟨h.vars, h.calls, h.joins, h.binds⟩
  | _ => exact ⟨h.vars, h.calls, h.joins, h.binds⟩

end Scopes

/-! ## What has happened -/

/-- The transport that an operation may select. -/
def Op.selected : Op → Option CTSoftPhoneTransportType
  | .handleIpChange transport => some transport
  | .registerWithNumber .. | .destroy | .hangup | .answercall | .mute | .unmute => none

/-- The state of the registration that an operation may tell: that it failed, or was torn down. -/
def Op.tells : Op → Option CTSoftPhoneRegistrationState
  | .registerWithNumber .. => some .fail
  | .destroy => some .destroyed
  | .handleIpChange _ | .hangup | .answercall | .mute | .unmute => none

section ScopeOf

variable (config : CTSoftPhoneConfig) (moves : List (Concurrent.Move Queued Raised))
  (es : List Event)

/-- The call information is that at start-up, or some query was answered with it. -/
def InfoIn (info : PjsuaCallInfo) : Prop :=
  info = (Vars.initial config).ci ∨ ∃ e ∈ es, reported e = some info

/-- The slot is that of some call information. -/
def SlotIn (slot : ℤ) : Prop := ∃ info, InfoIn config es info ∧ info.confSlot = slot

/-- The call is the one before all others, or a callback was raised that is about it. -/
def CallIn (callId : ℤ) : Prop :=
  callId = 0 ∨ ∃ cb, .raised cb ∈ es ∧ cb.callId = some callId

/-- The transport is the one at start-up, or an operation was submitted that selects it. -/
def SelectedIn (transport : CTSoftPhoneTransportType) : Prop :=
  transport = config.transport ∨ ∃ q, .submit q ∈ moves ∧ q.op.selected = some transport

/-- The transport id was handed out by the creation of a transport, or left uninitialised in an
operation that was submitted and selects a transport. -/
def TransportIdIn (transportId : ℤ) : Prop :=
  (∃ type port state reply, .api (.transportCreate type port) state reply ∈ es ∧
      reply.id = some transportId) ∨
    ∃ q, .submit q ∈ moves ∧ q.op.selected ≠ none ∧ q.locals.transportId = transportId

/-- An operation was submitted that tells the state of the registration, or a callback was raised
that reports it. -/
def ToldIn (state : CTSoftPhoneRegistrationState) : Prop :=
  (∃ q, .submit q ∈ moves ∧ q.op.tells = some state) ∨
    ∃ cb, .raised cb ∈ es ∧ cb.registration = some state

/-- The scope of some moves and what has happened. -/
def scopeOf : Scope where
  port := config.port
  transports := {transport | SelectedIn config moves transport}
  transportIds := {transportId | TransportIdIn moves es transportId}
  calls := {callId | CallIn es callId}
  infos := {info | InfoIn config es info}
  registrations := {state | ToldIn moves es state}

variable {config moves es} {es' : List Event} (hes : es ⊆ es')
include hes

theorem InfoIn.mono {info : PjsuaCallInfo} (h : InfoIn config es info) : InfoIn config es' info :=
  h.imp_right fun ⟨e, hmem, hinfo⟩ => ⟨e, hes hmem, hinfo⟩

theorem CallIn.mono {callId : ℤ} (h : CallIn es callId) : CallIn es' callId :=
  h.imp_right fun ⟨cb, hmem, hcall⟩ => ⟨cb, hes hmem, hcall⟩

theorem TransportIdIn.mono {transportId : ℤ} (h : TransportIdIn moves es transportId) :
    TransportIdIn moves es' transportId :=
  h.imp_left fun ⟨type, port, state, reply, hmem, hid⟩ =>
    ⟨type, port, state, reply, hes hmem, hid⟩

theorem ToldIn.mono {state : CTSoftPhoneRegistrationState} (h : ToldIn moves es state) :
    ToldIn moves es' state :=
  h.imp_right fun ⟨cb, hmem, htold⟩ => ⟨cb, hes hmem, htold⟩

/-- The scope grows with what happens. -/
theorem scopeOf_le : (scopeOf config moves es).Le (scopeOf config moves es') where
  port_eq := rfl
  transports := Set.Subset.refl _
  transportIds := fun _ h => TransportIdIn.mono hes h
  calls := fun _ h => CallIn.mono hes h
  infos := fun _ h => InfoIn.mono hes h
  registrations := fun _ h => ToldIn.mono hes h

end ScopeOf

/-- A program stays within the scope of what has happened, whatever others do within it. -/
abbrev StaysWithin {α : Type} (config : CTSoftPhoneConfig)
    (moves : List (Concurrent.Move Queued Raised)) (a : Answers) (p : Phone α)
    (es : List Event) : Prop :=
  p.Learns (Cmd.handle a) (fun es => World.Within (scopeOf config moves es))
    (fun es => Cmd.Within (scopeOf config moves es)) es

section Rules

variable {config : CTSoftPhoneConfig} {moves : List (Concurrent.Move Queued Raised)} {a : Answers}
  {es : List Event}

theorem within_vars {α : Type} {f : Vars → Phone α}
    (h : ∀ v es', es ⊆ es' → v.Within (scopeOf config moves es') →
      StaysWithin config moves a (f v) es') : StaysWithin config moves a (vars >>= f) es :=
  .ask_silent (fun _ => rfl) fun es' hes w hw => ⟨trivial, hw, h w.vars es' hes hw.vars⟩

theorem within_getCallid {α : Type} {f : ℤ → Phone α}
    (h : ∀ callId es', es ⊆ es' → callId ∈ (scopeOf config moves es').calls →
      StaysWithin config moves a (f callId) es') :
    StaysWithin config moves a (getCallid >>= f) es :=
  .ask_silent (fun _ => rfl) fun es' hes w hw =>
    ⟨trivial, hw, h w.vars.callId es' hes hw.vars.callId_mem⟩

theorem within_activeCalls {α : Type} {f : List ℤ → Phone α}
    (h : ∀ callIds es', es ⊆ es' → (∀ callId ∈ callIds, callId ∈ (scopeOf config moves es').calls) →
      StaysWithin config moves a (f callIds) es') :
    StaysWithin config moves a (activeCalls >>= f) es :=
  .ask_silent (fun _ => rfl) fun es' hes w hw => ⟨trivial, hw, h w.pjsua.calls es' hes hw.calls⟩

theorem within_assign {f : Vars → Vars}
    (hf : ∀ es', es ⊆ es' → ∀ v, v.Within (scopeOf config moves es') →
      (f v).Within (scopeOf config moves es')) : StaysWithin config moves a (assign f) es :=
  .ask_silent (fun _ => rfl) fun es' hes w hw =>
    ⟨trivial, ⟨hf es' hes w.vars hw.vars, hw.calls, hw.joins, hw.binds⟩, trivial⟩

/-- Most globals are not what names are read from. -/
theorem within_assign_of_eq {f : Vars → Vars}
    (hf : ∀ v, (f v).ci = v.ci ∧ (f v).callId = v.callId ∧ (f v).config = v.config) :
    StaysWithin config moves a (assign f) es := by
  refine within_assign fun es' _ v hv => ?_
  obtain ⟨hci, hcall, hconfig⟩ := hf v
  exact ⟨hci ▸ hv.ci_mem, hcall ▸ hv.callId_mem, hconfig ▸ hv.port_eq, hconfig ▸ hv.transport_mem⟩

theorem within_setStatus (status : PjStatus) : StaysWithin config moves a (setStatus status) es :=
  within_assign_of_eq fun _ => ⟨rfl, rfl, rfl⟩

/-- A call whose reply the rest of the program may rely on. -/
theorem within_reply {α : Type} {c : Api} {f : Reply → Phone α}
    (hc : c.Within (scopeOf config moves es))
    (hf : ∀ (p : Pjsua) (state : PjsuaState) (es' : List Event), es ⊆ es' →
      .api c state (p.reply a c) ∈ es' → StaysWithin config moves a (f (p.reply a c)) es') :
    StaysWithin config moves a (api c >>= f) es := by
  refine .ask fun es' hes w hw => ?_
  -- the others may have made more happen since the call was named, and its reply is part of it
  have hc' := hc.mono (scopeOf_le hes)
  have hgrows := List.subset_append_left es' [Event.api c w.pjsua.state (w.pjsua.reply a c)]
  refine ⟨hc', (hw.after hc' _).mono (scopeOf_le hgrows), ?_⟩
  exact hf w.pjsua w.pjsua.state _ (List.Subset.trans hes hgrows)
    (List.mem_append_right _ List.mem_cons_self)

theorem within_api {c : Api} (hc : c.Within (scopeOf config moves es)) :
    StaysWithin config moves a (api c) es := within_reply hc fun _ _ _ _ _ => .ret _

theorem within_confConnect {source sink : ℤ} (h : (scopeOf config moves es).Joins source sink) :
    StaysWithin config moves a (api (.confConnect source sink)) es := within_api h

theorem within_confDisconnect {source sink : ℤ}
    (h : (scopeOf config moves es).Joins source sink) :
    StaysWithin config moves a (api (.confDisconnect source sink)) es := within_api h

theorem within_callAnswer {callId : ℤ} (h : callId ∈ (scopeOf config moves es).calls) :
    StaysWithin config moves a (api (.callAnswer callId)) es := within_api h

theorem within_callHangup {callId : ℤ} (h : callId ∈ (scopeOf config moves es).calls) :
    StaysWithin config moves a (api (.callHangup callId)) es := within_api h

theorem within_onRegistrationState {state : CTSoftPhoneRegistrationState}
    (h : ToldIn moves es state) :
    StaysWithin config moves a (Delegate.onRegistrationState state) es :=
  .ask fun _ hes _ hw => ⟨h.mono hes,
    hw.mono (scopeOf_le (List.subset_append_left _ _)), trivial⟩

theorem within_delegate_onCallState {info : PjsuaCallInfo} (h : InfoIn config es info)
    {state : CTSoftPhoneCallState}
    (hstate : state = info.state.toCallState ∨ state = info.mediaStatus.toCallState) :
    StaysWithin config moves a (Delegate.onCallState state) es :=
  .ask fun _ hes _ hw => ⟨⟨info, h.mono hes, hstate⟩,
    hw.mono (scopeOf_le (List.subset_append_left _ _)), trivial⟩

theorem within_endCall (callId : ℤ) : StaysWithin config moves a (endCall callId) es :=
  .ask_silent (fun _ => rfl) fun _ _ _ hw => ⟨trivial,
    ⟨hw.vars, fun c hc => hw.calls c (List.mem_of_mem_filter hc), hw.joins, hw.binds⟩, trivial⟩

/-- What a query reports has been reported then, and what a failed one leaves was so before. -/
theorem within_getInfo {callId : ℤ} (hcall : callId ∈ (scopeOf config moves es).calls) :
    StaysWithin config moves a (getInfo callId) es := by
  refine within_reply hcall fun p state es' _ hmem => within_assign fun es'' hes v hv => ?_
  refine ⟨?_, hv.callId_mem, hv.port_eq, hv.transport_mem⟩
  cases hinfo : (p.reply a (.callGetInfo callId)).info with
  -- a failed query leaves what is there by now, of whatever call
  | none => exact hv.ci_mem
  | some info => exact .inr ⟨_, hes hmem, hinfo⟩

end Rules

/-! ## Operations and callbacks -/

section Programs

variable {config : CTSoftPhoneConfig} {moves : List (Concurrent.Move Queued Raised)} {a : Answers}
  {es : List Event}

theorem within_onCallState {callId : ℤ} (hcall : callId ∈ (scopeOf config moves es).calls) :
    StaysWithin config moves a (onCallState callId) es :=
  (within_getInfo hcall).bind fun _ _ _ => within_vars fun _ _ _ hv =>
    within_delegate_onCallState hv.ci_mem (.inl rfl)

theorem within_onCallMediaStateRereading {callId : ℤ}
    (hcall : callId ∈ (scopeOf config moves es).calls) :
    StaysWithin config moves a (onCallMediaStateRereading callId) es := by
  -- a branch tells the status that its condition has read
  have htold : ∀ {v : Vars} {status : PjsuaCallMediaStatus} {es es' : List Event},
      v.Within (scopeOf config moves es) → v.ci.mediaStatus = status → es ⊆ es' →
        StaysWithin config moves a (Delegate.onCallState status.toCallState) es' :=
    fun hv hstatus hes =>
      within_delegate_onCallState (hv.mono (scopeOf_le hes)).ci_mem (.inr (by rw [hstatus]))
  refine (within_getInfo hcall).bind fun _ _ _ => within_vars fun v es₀ _ hv => ?_
  split
  · next hactive =>
    -- the slot is read again for each direction
    refine within_vars fun v' es₁ h₁ hv' => ?_
    refine (within_confConnect (Scope.joins_from hv'.confSlot_mem)).bind fun _ es₂ h₂ =>
      within_vars fun v' es₃ h₃ hv' => ?_
    exact (within_confConnect (Scope.joins_to hv'.confSlot_mem)).bind fun _ _ h₄ =>
      htold hv hactive (List.Subset.trans h₁ (List.Subset.trans h₂ (List.Subset.trans h₃ h₄)))
  refine within_vars fun v es₀ _ hv => ?_
  split
  · next hnone =>
    refine within_vars fun v' es₁ h₁ hv' => ?_
    exact (within_confDisconnect (Scope.joins_from hv'.confSlot_mem)).bind fun _ _ h₂ =>
      htold hv hnone (List.Subset.trans h₁ h₂)
  refine within_vars fun v es₀ _ hv => ?_
  split
  · next hlocal => exact htold hv hlocal (List.Subset.refl _)
  refine within_vars fun v es₀ _ hv => ?_
  split
  · next hremote => exact htold hv hremote (List.Subset.refl _)
  refine within_vars fun v es₀ _ hv => ?_
  split
  · next herror => exact htold hv herror (List.Subset.refl _)
  · exact .ret ()

theorem within_disconnect {callId : ℤ} (hcall : callId ∈ (scopeOf config moves es).calls) :
    StaysWithin config moves a (disconnect callId) es :=
  (within_endCall callId).bind fun _ _ hes =>
    .ite (within_onCallState ((scopeOf_le hes).calls hcall)) (.ret ())

theorem within_pjsuaCallHangupAll : StaysWithin config moves a pjsuaCallHangupAll es :=
  (within_api (by trivial)).bind fun _ _ _ => within_activeCalls fun _ _ _ hcalls =>
    .forM fun callId hcall _ hes => within_disconnect ((scopeOf_le hes).calls (hcalls callId hcall))

theorem within_ctPjsuaDestroy : StaysWithin config moves a ctPjsuaDestroy es := by
  have hdelete : StaysWithin config moves a ctPjsuaDeleteAccount es :=
    within_vars fun _ _ _ _ => .ite (.ret ()) <| within_pjsuaCallHangupAll.bind fun _ _ _ =>
      within_vars fun _ _ _ _ => (within_api (by trivial)).bind fun _ _ _ =>
        within_assign_of_eq fun _ => ⟨rfl, rfl, rfl⟩
  exact hdelete.bind fun _ _ _ => (within_api (by trivial)).bind fun _ _ _ => .ret ()

theorem within_destroy (h : ∀ es, ToldIn moves es .destroyed) :
    StaysWithin config moves a destroy es :=
  within_ctPjsuaDestroy.bind fun _ _ _ =>
    Prog.Learns.bind (within_assign_of_eq fun _ => ⟨rfl, rfl, rfl⟩) fun _ es' _ =>
      within_onRegistrationState (h es')

section Register

variable (hfail : ∀ es, ToldIn moves es .fail)
include hfail

theorem within_registrationFailed : StaysWithin config moves a registrationFailed es :=
  within_ctPjsuaDestroy.bind fun _ es' _ => within_onRegistrationState (hfail es')

theorem within_setUp : StaysWithin config moves a setUp es := by
  have hfailed : ∀ es, StaysWithin config moves a (do
      registrationFailed
      return false) es :=
    fun es => (within_registrationFailed hfail).bind fun _ _ _ => .ret false
  refine Prog.Learns.bind (within_assign_of_eq fun _ => ⟨rfl, rfl, rfl⟩) fun _ _ _ => ?_
  refine (within_api (by trivial)).bind fun _ _ _ => (within_setStatus _).bind fun _ _ _ =>
    within_vars fun _ es' _ _ => .ite (hfailed es') ?_
  refine (within_api (by trivial)).bind fun _ _ _ => (within_setStatus _).bind fun _ _ _ =>
    within_vars fun _ es' _ _ => .ite (hfailed es') ?_
  refine within_vars fun v _ _ hv => Prog.Learns.bind (within_api hv.binds) fun _ _ _ =>
    (within_setStatus _).bind fun _ _ _ => ?_
  exact (within_api (by trivial)).bind fun _ _ _ => (within_setStatus _).bind fun _ _ _ =>
    within_vars fun _ es' _ _ => .ite (hfailed es') (.ret true)

theorem within_putAccount (cfg : PjsuaAccConfig) :
    StaysWithin config moves a (putAccount cfg) es := by
  have hend : ∀ es, StaysWithin config moves a (do
      if (← vars).status = pjSuccess then return
      registrationFailed) es :=
    fun es => within_vars fun _ _ _ _ => .ite (.ret ()) (within_registrationFailed hfail)
  refine within_vars fun _ _ _ _ => .ite ?_ ?_
  · exact within_vars fun _ _ _ _ => (within_api (by trivial)).bind fun _ _ _ =>
      (within_setStatus _).bind fun _ es' _ => hend es'
  · exact (within_api (by trivial)).bind fun _ _ _ =>
      Prog.Learns.bind (within_assign_of_eq fun _ => ⟨rfl, rfl, rfl⟩) fun _ es' _ => hend es'

theorem within_registerWithNumber (number host credentials : NSString) :
    StaysWithin config moves a (registerWithNumber number host credentials) es := by
  refine within_vars fun _ _ _ _ =>
    .ite ((within_setUp hfail).bind fun _ _ _ => .ite (.ret ()) ?_) ?_
  -- with or without a set-up, the account comes last
  all_goals
    refine within_vars fun v es' _ _ => ?_
    cases accountConfig number host credentials v.config with
    | some cfg => exact within_putAccount hfail cfg
    | none => exact within_onRegistrationState (hfail es')

end Register

section Switch

variable {transport : CTSoftPhoneTransportType} (htransport : SelectedIn config moves transport)
  {locals : Locals} (hlocals : ∀ es, TransportIdIn moves es locals.transportId)
include htransport hlocals

theorem within_switchTransport :
    StaysWithin config moves a (switchTransport locals transport) es := by
  have hselect : StaysWithin config moves a
      (assign fun v => { v with config := { v.config with transport := transport } }) es :=
    within_assign fun _ _ v hv => ⟨hv.ci_mem, hv.callId_mem, hv.port_eq, htransport⟩
  refine hselect.bind fun _ _ _ => within_vars fun v _ _ hv => ?_
  refine within_reply hv.binds fun p state es' _ hmem => ?_
  -- the id is the one created, or what the local held
  have hid : TransportIdIn moves es'
      ((p.reply a (.transportCreate v.config.pjTransportType v.config.unsignedPort)).id.getD
        locals.transportId) := by
    cases hreply : (p.reply a
        (.transportCreate v.config.pjTransportType v.config.unsignedPort)).id with
    | none => exact hlocals es'
    | some transportId => exact .inl ⟨_, _, state, _, hmem, hreply⟩
  refine (within_setStatus _).bind fun _ es₁ h₁ => within_vars fun _ es₂ h₂ _ => ?_
  have hbound : ∀ accId : ℤ, Api.Within (scopeOf config moves es₂) (.accSetTransport accId _) :=
    fun _ => hid.mono (List.Subset.trans h₁ h₂)
  refine (within_api (hbound _)).bind fun _ _ _ => within_vars fun _ _ _ _ => ?_
  exact (within_api (by trivial)).bind fun _ _ _ => within_vars fun _ _ _ _ =>
    (within_api (by trivial)).bind fun _ _ _ => .ret ()

theorem within_handleIpChange :
    StaysWithin config moves a (handleIpChange locals transport) es := by
  have hnotify : ∀ es, StaysWithin config moves a (do let _ ← api .handleIpChange) es :=
    fun es => (within_api (by trivial)).bind fun _ _ _ => .ret ()
  exact within_vars fun _ _ _ _ => .ite (.ret ()) <|
    .ite ((within_switchTransport htransport hlocals).bind fun _ es' _ => hnotify es') (hnotify _)

end Switch

/-- **Operations** that were submitted stay within the scope. -/
theorem within_op {q : Queued} (hq : .submit q ∈ moves) :
    StaysWithin config moves a (q.op.rereading q.locals) es := by
  cases ho : q.op with
  | registerWithNumber number host credentials =>
    exact within_registerWithNumber (fun _ => .inl ⟨q, hq, by rw [ho, Op.tells]⟩)
      number host credentials
  | handleIpChange transport =>
    refine within_handleIpChange (.inr ⟨q, hq, by rw [ho, Op.selected]⟩) fun _ => ?_
    exact .inr ⟨q, hq, by simp [ho, Op.selected], rfl⟩
  | destroy => exact within_destroy fun _ => .inl ⟨q, hq, by rw [ho, Op.tells]⟩
  | hangup =>
    exact within_getCallid fun callId _ _ hcall => (within_callHangup hcall).bind fun _ _ hes =>
      within_disconnect ((scopeOf_le hes).calls hcall)
  | answercall =>
    exact within_getCallid fun callId _ _ hcall =>
      (within_callAnswer hcall).bind fun _ _ _ => .ret ()
  | mute =>
    refine within_vars fun _ _ _ _ =>
      .ite (within_vars fun _ _ _ _ => .ite ?_ (.ret ())) (.ret ())
    exact within_vars fun v _ _ hv =>
      (within_confDisconnect (Scope.joins_to hv.confSlot_mem)).bind fun _ _ _ => .ret ()
  | unmute =>
    refine within_vars fun _ _ _ _ =>
      .ite (within_vars fun _ _ _ _ => .ite ?_ (.ret ())) (.ret ())
    exact within_vars fun v _ _ hv =>
      (within_confConnect (Scope.joins_to hv.confSlot_mem)).bind fun _ _ _ => .ret ()

/-- **Callbacks** that were raised stay within the scope. -/
theorem within_callback {cb : Callback} (hcb : cb.Within (scopeOf config moves es)) :
    StaysWithin config moves a cb.rereading es := by
  cases cb with
  | incomingCall callId =>
    have hcall : CallIn es callId := hcb.call _ rfl
    -- it answers the call it was raised for, and not the current one
    refine Prog.Learns.bind (within_assign fun es' hes v hv => ?_) fun _ es' hes =>
      (within_callAnswer (hcall.mono hes)).bind fun _ _ _ => .ret ()
    exact ⟨hv.ci_mem, hcall.mono hes, hv.port_eq, hv.transport_mem⟩
  | callState callId state => exact within_onCallState (hcb.call _ rfl)
  | callMediaState callId => exact within_onCallMediaStateRereading (hcb.call _ rfl)
  | regState2 info =>
    have htold : ToldIn moves es info.toRegistrationState := hcb.registration _ rfl
    change StaysWithin config moves a (onRegState2 info) es
    unfold PjsipRegcCbparam.toRegistrationState at htold
    unfold onRegState2
    split at htold
    · next hok =>
      rw [if_pos hok]
      exact within_onRegistrationState htold
    · next hok =>
      rw [if_neg hok]
      exact within_onRegistrationState htold

end Programs

/-! ## Interleavings -/

section Interleavings

variable (config : CTSoftPhoneConfig) (moves : List (Concurrent.Move Queued Raised))

/-- What has happened in some moves: the calls to pjsua with their replies, the callbacks raised and
the notifications, of the queue and the workers. -/
abbrev happenedIn : List Event := phoneThreads.happened (.initial config) moves

/-- A callback that is raised reports a change of the calls. -/
theorem World.Within.raise {w : World} {sc : Scope} (h : w.Within sc) {cb : Callback}
    (hcb : cb.Within sc) : World.Within sc { w with pjsua := w.pjsua.raise cb } := by
  cases cb with
  | incomingCall callId =>
    refine ⟨h.vars, fun c hc => ?_, h.joins, h.binds⟩
    rcases List.mem_insert_iff.mp hc with rfl | hc
    · exact hcb.call _ rfl
    · exact h.calls c hc
  | callState callId state =>
    cases state with
    | disconnected =>
      exact ⟨h.vars, fun c hc => h.calls c (List.mem_of_mem_filter hc), h.joins, h.binds⟩
    | _ => exact h
  | callMediaState callId => exact h
  | regState2 info => exact h

theorem preserves_within :
    phoneThreads.Preserves (fun es => World.Within (scopeOf config moves es))
      (fun es => Cmd.Within (scopeOf config moves es)) (fun q => .submit q ∈ moves) where
  body q hq := within_op hq
  task r es w o hw hspawn := by
    dsimp only [phoneThreads] at hspawn
    split at hspawn
    · cases hspawn
      -- that the callback was raised has happened before its program starts
      have hraised : Event.raised r.callback ∈ es ++ [.raised r.callback] :=
        List.mem_append_right _ List.mem_cons_self
      have hcb : r.callback.Within (scopeOf config moves (es ++ [.raised r.callback])) :=
        ⟨fun callId hcall => .inr ⟨_, hraised, hcall⟩,
          fun state htold => .inr ⟨_, hraised, htold⟩⟩
      refine ⟨?_, within_callback hcb⟩
      exact (hw.mono (scopeOf_le (List.subset_append_left _ _))).raise hcb
    · cases hspawn

theorem World.Within.initial : (World.initial config).Within (scopeOf config moves []) := by
  refine ⟨⟨.inl rfl, .inl rfl, rfl, .inl rfl⟩, fun c hc => ?_, fun e he => ?_, fun t ht => ?_⟩
  · exact absurd hc List.not_mem_nil
  · exact absurd he (Finset.notMem_empty e)
  · exact absurd ht List.not_mem_nil

/-- What the moves submit is submitted. -/
theorem allowed_moves : ∀ m ∈ moves, m.Allowed fun q => .submit q ∈ moves := by
  intro m hm
  cases m with
  | submit q => exact hm
  | _ => trivial

theorem within_scopeOf :
    (threadsAfter config moves).shared.Within (scopeOf config moves (happenedIn config moves)) :=
  (preserves_within config moves).invariant_after (World.Within.initial config moves)
    (allowed_moves moves)

/-- **Nothing is made up**: in every interleaving, whatever command any thread is about to issue,
the call it names to pjsua was announced, the connection it makes or takes away has the sound device
at one end and a reported slot at the other, the transport it creates has the port of the
configuration and a selected type, and the transport id it binds was handed out, or was never
initialised; the state of a call that it tells the delegate was reported, and that of a registration
has its cause. -/
theorem within_next {c : Cmd} (hnext : (threadsAfter config moves).Next c) :
    c.Within (scopeOf config moves (happenedIn config moves)) :=
  (preserves_within config moves).safe_next (World.Within.initial config moves)
    (allowed_moves moves) hnext

/-- **The bridge is a star**: in every interleaving, at any time, every connection joins the sound
device with a slot that some query was answered with, or with itself. So no call is ever connected
to another one, whatever the callbacks of other calls write in between. -/
theorem joins_soundDevice :
    ∀ e ∈ (threadsAfter config moves).shared.pjsua.conf,
      e.1 = 0 ∧ SlotIn config (happenedIn config moves) e.2 ∨
        SlotIn config (happenedIn config moves) e.1 ∧ e.2 = 0 :=
  (within_scopeOf config moves).joins

/-- **Transports**: in every interleaving, at any time, the port of the configuration is the one at
start-up, the transport in use was selected, and every transport of the library is bound to that
port, as an unsigned one, and has the type of a transport that was selected. -/
theorem bound_to_port :
    (threadsAfter config moves).shared.vars.config.port = config.port ∧
      SelectedIn config moves (threadsAfter config moves).shared.vars.config.transport ∧
      ∀ t ∈ (threadsAfter config moves).shared.pjsua.transports, t.port = config.unsignedPort ∧
        ∃ transport, SelectedIn config moves transport ∧
          t.type = (⟨config.port, transport⟩ : CTSoftPhoneConfig).pjTransportType := by
  have h := within_scopeOf config moves
  refine ⟨h.vars.port_eq, h.vars.transport_mem, fun t ht => ?_⟩
  obtain ⟨transport, hselected, htype, hport⟩ := h.binds t ht
  exact ⟨hport, transport, hselected, htype⟩

end Interleavings

/-- The account is added next, and the call that came in meanwhile is answered next. -/
theorem within_next_callWhileRegistering :
    Cmd.Within (scopeOf ⟨5060, .udp⟩ callWhileRegistering
      (happenedIn ⟨5060, .udp⟩ callWhileRegistering)) (.api (.callAnswer 7)) :=
  within_next _ _ (.inr ⟨_, List.mem_singleton_self _, _, rfl⟩)

/-- A registration is executing on a library that runs already, and a call is connected. -/
def connectWhileRegistering : List (Concurrent.Move Queued Raised) :=
  [.submit ⟨.registerWithNumber [] [] [], .success, ⟨0, pjsuaAccConfigDefault⟩⟩, .dequeue] ++
    List.replicate 14 .command ++ .spawn ⟨.callMediaState 7, .success⟩ ::
    List.replicate 5 (.work 0)

/-- The slot of the call, which the speaker plays now, was reported. -/
theorem joins_soundDevice_connectWhileRegistering :
    SlotIn ⟨5060, .udp⟩ (happenedIn ⟨5060, .udp⟩ connectWhileRegistering) 1 := by
  have hjoins := joins_soundDevice ⟨5060, .udp⟩ connectWhileRegistering (1, 0) (by decide)
  exact (hjoins.resolve_left fun h => absurd h.1 (by decide)).1

end CTSoftPhone
