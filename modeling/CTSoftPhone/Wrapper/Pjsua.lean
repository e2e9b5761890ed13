import CTSoftPhone.Wrapper.Config
import Mathlib.Data.Finset.Erase
import Mathlib.Data.Finset.Insert
import Mathlib.Data.Int.Basic
import Mathlib.Tactic.Common

/-!
# The library under the phone

The part of pjsua the phone drives: the state of the library, its transports, accounts and live
calls, and the connections of its conference bridge. Each function succeeds or fails as the
environment answers; the effects of a success are those its header documents.

## Main definitions

* `PjsuaAccConfig`, `PjsuaCallInfo`: the records exchanged with the library
* `Api`, `Reply`: the functions the phone calls, and what they return
* `Answers`: how the library answers during one operation
* `Pjsua`, `Pjsua.reply`, `Pjsua.after`: the library, what a call returns and what it changes
* `Callback`, `Pjsua.raise`: the callbacks, and the change each one reports
-/

namespace CTSoftPhone

/-- A status: `PJ_SUCCESS` is zero, every other value an error. -/
abbrev PjStatus := ℤ

def pjSuccess : PjStatus := 0

/-- `PJ_EINVALIDOP`: the operation is not valid in the present state. -/
def pjEInvalidOp : PjStatus := 70013

/-- The character that ends a string in C. -/
def nul : Char := Char.ofNat 0

/-- `pj_str` of the `UTF8String` of a string: what stands before the first NUL. -/
def pjStr (s : NSString) : NSString := s.takeWhile fun c => c ≠ nul

/-- The state of the library between calls. -/
inductive PjsuaState
  | null
  | created
  | init
  | running
  deriving DecidableEq, Repr

/-- `pjsua_init` has succeeded, and the library has not been destroyed since. -/
def PjsuaState.Initialised : PjsuaState → Prop
  | .null | .created => False
  | .init | .running => True

instance : DecidablePred PjsuaState.Initialised := fun s => by
  cases s <;> unfold PjsuaState.Initialised <;> infer_instance

/-- The state of an invite session. -/
inductive PjsipInvState
  | null
  | calling
  | incoming
  | early
  | connecting
  | confirmed
  | disconnected
  deriving DecidableEq, Repr

inductive PjsuaCallMediaStatus
  | none
  | active
  | localHold
  | remoteHold
  | error
  deriving DecidableEq, Repr

/-- What the phone reads of a call's information. -/
structure PjsuaCallInfo where
  state : PjsipInvState
  mediaStatus : PjsuaCallMediaStatus
  confSlot : ℤ
  deriving DecidableEq, Repr

structure PjsipCredInfo where
  realm : NSString
  scheme : NSString
  username : NSString
  dataType : ℤ
  data : NSString
  deriving DecidableEq, Repr

/-- `PJSIP_CRED_DATA_PLAIN_PASSWD`. -/
def pjsipCredDataPlainPasswd : ℤ := 0

/-- The fields of an account configuration that the phone sets; `transportId` is the transport
the account is bound to, and `hangupCalls` its `ip_change_cfg.hangup_calls`. -/
structure PjsuaAccConfig where
  id : NSString
  regUri : NSString
  proxy : List NSString
  credInfo : List PjsipCredInfo
  transportId : ℤ
  ipv6MediaUse : Bool
  hangupCalls : Bool
  deriving DecidableEq, Repr

/-- `pjsua_acc_config_default`. -/
def pjsuaAccConfigDefault : PjsuaAccConfig where
  id := []
  regUri := []
  proxy := []
  credInfo := []
  transportId := -1
  ipv6MediaUse := false
  hangupCalls := false

structure PjsuaTransport where
  id : ℤ
  type : PjsipTransportType
  port : ℤ
  deriving DecidableEq, Repr

structure PjsuaAccount where
  id : ℤ
  config : PjsuaAccConfig
  deriving DecidableEq, Repr

/-- The configuration of an account among others. -/
def PjsuaAccount.configOf (accounts : List PjsuaAccount) (accId : ℤ) : Option PjsuaAccConfig :=
  (accounts.find? fun acc => acc.id = accId).map PjsuaAccount.config

/-- Change the configuration of one account among others. -/
def PjsuaAccount.modify (accounts : List PjsuaAccount) (accId : ℤ)
    (f : PjsuaAccConfig → PjsuaAccConfig) : List PjsuaAccount :=
  accounts.map fun acc => if acc.id = accId then { acc with config := f acc.config } else acc

/-- The functions of pjsua the phone calls. -/
inductive Api
  | create
  | init
  | start
  | destroy
  | transportCreate (type : PjsipTransportType) (port : ℤ)
  | accAdd (config : PjsuaAccConfig)
  | accModify (accId : ℤ) (config : PjsuaAccConfig)
  | accDel (accId : ℤ)
  | accGetConfig (accId : ℤ)
  | accSetTransport (accId : ℤ) (transportId : ℤ)
  | handleIpChange
  | callAnswer (callId : ℤ)
  | callHangup (callId : ℤ)
  | callHangupAll
  | callGetInfo (callId : ℤ)
  | confConnect (source sink : ℤ)
  | confDisconnect (source sink : ℤ)
  deriving DecidableEq

/-- What a call returns: its status, and the id, the account configuration or the call
information it wrote through its output pointer. A failed call writes nothing. -/
structure Reply where
  status : PjStatus
  id : Option ℤ
  config : Option PjsuaAccConfig
  info : Option PjsuaCallInfo
  silent_of_failed : status ≠ pjSuccess → id = none ∧ config = none ∧ info = none
  deriving DecidableEq

namespace Reply

/-- The reply of a function without output. -/
def ofStatus (status : PjStatus) : Reply := ⟨status, none, none, none, fun _ => ⟨rfl, rfl, rfl⟩⟩

/-- The reply of a call that writes an id on success. -/
def ofId (status : PjStatus) (id : ℤ) : Reply :=
  ⟨status, if status = pjSuccess then some id else none, none, none,
    fun h => ⟨if_neg h, rfl, rfl⟩⟩

/-- The reply of a call that writes an account configuration on success. -/
def ofConfig (status : PjStatus) (config : PjsuaAccConfig) : Reply :=
  ⟨status, none, if status = pjSuccess then some config else none, none,
    fun h => ⟨rfl, if_neg h, rfl⟩⟩

/-- The reply of a call that writes the information of a call on success. -/
def ofInfo (status : PjStatus) (info : PjsuaCallInfo) : Reply :=
  ⟨status, none, none, if status = pjSuccess then some info else none,
    fun h => ⟨rfl, rfl, if_neg h⟩⟩

variable (status : PjStatus)

@[simp] theorem ofStatus_status : (ofStatus status).status = status := rfl

@[simp] theorem ofId_status (id : ℤ) : (ofId status id).status = status := rfl

@[simp] theorem ofId_id (id : ℤ) :
    (ofId status id).id = if status = pjSuccess then some id else none := rfl

@[simp] theorem ofConfig_config (config : PjsuaAccConfig) :
    (ofConfig status config).config = if status = pjSuccess then some config else none := rfl

@[simp] theorem ofInfo_info (info : PjsuaCallInfo) :
    (ofInfo status info).info = if status = pjSuccess then some info else none := rfl

end Reply

/-- How the library answers during one operation: the status of each function the operation may
call, the ids it hands out, and the information of each call. -/
structure Answers where
  create : PjStatus
  init : PjStatus
  start : PjStatus
  transportCreate : PjStatus
  transportId : ℤ
  accAdd : PjStatus
  accId : ℕ
  accModify : PjStatus
  accSetTransport : PjStatus
  accGetConfig : PjStatus
  callGetInfo : ℤ → PjStatus
  callInfo : ℤ → PjsuaCallInfo

/-- Everything succeeds, and every call is reported with active media at slot 1. -/
def Answers.success : Answers where
  create := pjSuccess
  init := pjSuccess
  start := pjSuccess
  transportCreate := pjSuccess
  transportId := 0
  accAdd := pjSuccess
  accId := 0
  accModify := pjSuccess
  accSetTransport := pjSuccess
  accGetConfig := pjSuccess
  callGetInfo := fun _ => pjSuccess
  callInfo := fun _ => ⟨.confirmed, .active, 1⟩

/-- The library: its state, transports, accounts and live calls, and the connections of its
conference bridge, as pairs of a source and a sink. -/
structure Pjsua where
  state : PjsuaState
  transports : List PjsuaTransport
  accounts : List PjsuaAccount
  calls : List ℤ
  conf : Finset (ℤ × ℤ)
  deriving DecidableEq

namespace Pjsua

/-- The library before `pjsua_create`, and after `pjsua_destroy`. -/
def down : Pjsua where
  state := .null
  transports := []
  accounts := []
  calls := []
  conf := ∅

/-- Change the configuration of one account. -/
def modifyAcc (p : Pjsua) (accId : ℤ) (f : PjsuaAccConfig → PjsuaAccConfig) : Pjsua :=
  { p with accounts := PjsuaAccount.modify p.accounts accId f }

/-- A call is over: it leaves the live calls. -/
def endCall (p : Pjsua) (callId : ℤ) : Pjsua :=
  { p with calls := p.calls.filter fun c => c ≠ callId }

/-- What a call returns. Adding an account needs an initialised library, as does a connection of the
conference bridge, and reading a configuration an account; of the other functions whose status the
phone drops, the status is success. -/
def reply (p : Pjsua) (a : Answers) : Api → Reply
  | .create => .ofStatus a.create
  | .init => .ofStatus a.init
  | .start => .ofStatus a.start
  | .transportCreate .. => .ofId a.transportCreate a.transportId
  | .accAdd _ => .ofId (if p.state.Initialised then a.accAdd else pjEInvalidOp) a.accId
  | .accModify .. => .ofStatus a.accModify
  | .accSetTransport .. => .ofStatus a.accSetTransport
  | .accGetConfig accId =>
    -- the configuration is returned as it is stored
    match PjsuaAccount.configOf p.accounts accId with
    | some config => .ofConfig a.accGetConfig config
    | none => .ofStatus pjEInvalidOp
  | .callGetInfo callId => .ofInfo (a.callGetInfo callId) (a.callInfo callId)
  | .confConnect .. => .ofStatus (if p.state.Initialised then pjSuccess else pjEInvalidOp)
  | .destroy | .accDel _ | .handleIpChange | .callAnswer _ | .callHangup _ | .callHangupAll
  | .confDisconnect .. => .ofStatus pjSuccess

/-- What a call changes, given its reply. The end of a call by `pjsua_call_hangup` and
`pjsua_call_hangup_all` comes with its own callback, and is `endCall`. -/
def after (p : Pjsua) : Api → Reply → Pjsua
  | .create, r => if r.status = pjSuccess then { p with state := .created } else p
  | .init, r => if r.status = pjSuccess then { p with state := .init } else p
  | .start, r => if r.status = pjSuccess then { p with state := .running } else p
  -- the library is down, whatever it was before
  | .destroy, _ => down
  | .transportCreate type port, r =>
    match r.id with
    | some id => { p with transports := p.transports ++ [⟨id, type, port⟩] }
    | none => p
  | .accAdd config, r =>
    match r.id with
    | some id => { p with accounts := p.accounts ++ [⟨id, config⟩] }
    | none => p
  | .accModify accId config, r =>
    if r.status = pjSuccess then p.modifyAcc accId fun _ => config else p
  | .accDel accId, _ => { p with accounts := p.accounts.filter fun acc => acc.id ≠ accId }
  | .accSetTransport accId transportId, r =>
    if r.status = pjSuccess then
      p.modifyAcc accId fun config => { config with transportId := transportId }
    else p
  | .confConnect source sink, r =>
    if r.status = pjSuccess then { p with conf := insert (source, sink) p.conf } else p
  -- a library that is down has no connections
  | .confDisconnect source sink, _ => { p with conf := p.conf.erase (source, sink) }
  | .accGetConfig _, _ | .handleIpChange, _ | .callAnswer _, _ | .callHangup _, _
  | .callHangupAll, _ | .callGetInfo _, _ => p

/-- A connection is made by an initialised library only. -/
theorem after_confConnect (p : Pjsua) (a : Answers) (source sink : ℤ) :
    p.after (.confConnect source sink) (p.reply a (.confConnect source sink)) =
      { p with conf := if p.state.Initialised then insert (source, sink) p.conf else p.conf } := by
  by_cases h : p.state.Initialised
  · simp [after, reply, h]
  · simp [after, reply, h, pjSuccess, pjEInvalidOp]

end Pjsua

/-- What `on_reg_state2` reads of a registration. -/
structure PjsipRegcCbparam where
  status : PjStatus
  code : ℤ
  expiration : ℕ
  contactCnt : ℤ
  deriving DecidableEq, Repr

/-- The callbacks the phone registers, raised on the worker threads of pjsua. -/
inductive Callback
  | incomingCall (callId : ℕ)
  | callState (callId : ℕ) (state : PjsipInvState)
  | callMediaState (callId : ℕ)
  | regState2 (info : PjsipRegcCbparam)
  deriving DecidableEq, Repr

/-- The change a callback reports: a call is new, or it is over. -/
def Pjsua.raise (p : Pjsua) : Callback → Pjsua
  | .incomingCall callId => { p with calls := p.calls.insert callId }
  | .callState callId .disconnected => p.endCall callId
  | .callState .. | .callMediaState _ | .regState2 _ => p

end CTSoftPhone
