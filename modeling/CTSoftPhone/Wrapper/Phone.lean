import CTSoftPhone.Programs.Program
import CTSoftPhone.Wrapper.Pjsua

/-!
# The phone

`CTSoftPhone.m`: the operations the application requests on the serial queue, and the callbacks
pjsua raises. Both are programs over the globals of the phone, the functions of pjsua and the
notifications of the delegate, in the order of the source.

`pjsua_call_hangup` and `pjsua_call_hangup_all` call `on_call_state` on the calling thread
before they return, so their programs here contain the callback.

## Main definitions

* `Vars`: the globals of the phone
* `Notification`: what the delegate is told
* `Phone`: programs of the phone, over the commands `Cmd`
* `registerWithNumber`, `handleIpChange`, `destroy`, `hangup`, `answercall`, `mute`, `unmute`:
  the operations
* `onIncomingCall`, `onCallState`, `onCallMediaState`, `onRegState2`: the callbacks
-/

namespace CTSoftPhone

/-- The globals of the phone: the flag of the instance, the static state of the file, and the
configuration. -/
structure Vars where
  pjsuaInitialized : Bool
  status : PjStatus
  accId : ℤ
  callId : ℤ
  ci : PjsuaCallInfo
  config : CTSoftPhoneConfig
  deriving DecidableEq, Repr

/-- The globals at start-up: `acc_id` is `-1`, and what has no initial value is zero. -/
def Vars.initial (config : CTSoftPhoneConfig) : Vars where
  pjsuaInitialized := false
  status := 0
  accId := -1
  callId := 0
  ci := ⟨.null, .none, 0⟩
  config := config

inductive CTSoftPhoneRegistrationState
  | success
  | fail
  | destroyed
  deriving DecidableEq, Repr

inductive CTSoftPhoneCallState
  | null
  | calling
  | incoming
  | early
  | connecting
  | confired
  | mediaNone
  | mediaActive
  | mediaLocalHold
  | mediaRemoteHold
  | mediaError
  deriving DecidableEq, Repr

/-- The state of a call as the delegate receives it: the number of the invite state, read in the
enumeration of the phone, where the sixth value is `CTSoftPhoneCallStateMediaNone`. -/
def PjsipInvState.toCallState : PjsipInvState → CTSoftPhoneCallState
  | .null => .null
  | .calling => .calling
  | .incoming => .incoming
  | .early => .early
  | .connecting => .connecting
  | .confirmed => .confired
  | .disconnected => .mediaNone

/-- What the delegate is told. -/
inductive Notification
  | registration (state : CTSoftPhoneRegistrationState)
  | call (state : CTSoftPhoneCallState)
  deriving DecidableEq, Repr

/-- The commands of the phone: reading and assigning its globals, calling pjsua, notifying the
delegate, and the two things pjsua does inside a hangup: listing its live calls and ending one,
if it is live. -/
inductive Cmd
  | vars
  | assign (f : Vars → Vars)
  | api (c : Api)
  | activeCalls
  | endCall (callId : ℤ)
  | notify (n : Notification)

def Cmd.Ans : Cmd → Type
  | .vars => Vars
  | .assign _ => Unit
  | .api _ => Reply
  | .activeCalls => List ℤ
  | .endCall _ => Bool
  | .notify _ => Unit

/-- Programs of the phone. -/
abbrev Phone := Prog Cmd.Ans

def vars : Phone Vars := .call .vars .ret

def assign (f : Vars → Vars) : Phone Unit := .call (.assign f) .ret

def api (c : Api) : Phone Reply := .call (.api c) .ret

def activeCalls : Phone (List ℤ) := .call .activeCalls .ret

def endCall (callId : ℤ) : Phone Bool := .call (.endCall callId) .ret

/-- Assign the global `status`. -/
def setStatus (status : PjStatus) : Phone Unit := assign fun v => { v with status := status }

namespace Delegate

def onRegistrationState (state : CTSoftPhoneRegistrationState) : Phone Unit :=
  .call (.notify (.registration state)) .ret

def onCallState (state : CTSoftPhoneCallState) : Phone Unit :=
  .call (.notify (.call state)) .ret

end Delegate

/-! ## Callbacks of pjsua -/

/-- `pjsua_call_get_info(call_id, &ci)`: on failure `ci` is left as it was. -/
def getInfo (callId : ℤ) : Phone Unit := do
  -- one global serves the reports of all calls
  let r ← api (.callGetInfo callId)
  assign fun v => { v with ci := r.info.getD v.ci }

/-- `on_call_state`. -/
def onCallState (callId : ℤ) : Phone Unit := do
  getInfo callId
  Delegate.onCallState (← vars).ci.state.toCallState

/-- `on_call_media_state`: active media is connected to the sound device in both directions. -/
def onCallMediaState (callId : ℤ) : Phone Unit := do
  getInfo callId
  let ci := (← vars).ci
  match ci.mediaStatus with
  | .active =>
    -- from the call to the speaker, and from the microphone to the call
    let _ ← api (.confConnect ci.confSlot 0)
    let _ ← api (.confConnect 0 ci.confSlot)
    Delegate.onCallState .mediaActive
  | .none =>
    let _ ← api (.confDisconnect ci.confSlot 0)
    Delegate.onCallState .mediaNone
  | .localHold => Delegate.onCallState .mediaLocalHold
  | .remoteHold => Delegate.onCallState .mediaRemoteHold
  | .error => Delegate.onCallState .mediaError

def getCallid : Phone ℤ := do
  return (← vars).callId

def setCallid (callId : ℤ) : Phone Unit := assign fun v => { v with callId := callId }

/-- `on_incoming_call`: every call is answered. -/
def onIncomingCall (callId : ℤ) : Phone Unit := do
  -- the only place that writes the current call
  setCallid callId
  let _ ← api (.callAnswer callId)

/-- `on_reg_state2`. -/
def onRegState2 (info : PjsipRegcCbparam) : Phone Unit :=
  if info.status = pjSuccess ∧ info.code / 100 = 2 ∧ 0 < info.expiration ∧ 0 < info.contactCnt then
    Delegate.onRegistrationState .success
  else Delegate.onRegistrationState .fail

/-- The program of a callback. -/
def Callback.program : Callback → Phone Unit
  | .incomingCall callId => onIncomingCall callId
  | .callState callId _ => onCallState callId
  | .callMediaState callId => onCallMediaState callId
  | .regState2 info => onRegState2 info

/-! ## Ending calls -/

/-- A live call ends, and `on_call_state` reports it; nothing happens to another call. -/
def disconnect (callId : ℤ) : Phone Unit := do
  if ← endCall callId then onCallState callId

/-- `pjsua_call_hangup`. -/
def pjsuaCallHangup (callId : ℤ) : Phone Unit := do
  let _ ← api (.callHangup callId)
  disconnect callId

/-- `pjsua_call_hangup_all`: a hangup of every call active when it is called. -/
def pjsuaCallHangupAll : Phone Unit := do
  let _ ← api .callHangupAll
  forM (← activeCalls) disconnect

/-! ## Tearing the library down -/

/-- `ct_pjsua_deleteAccount`. -/
def ctPjsuaDeleteAccount : Phone Unit := do
  if (← vars).accId < 0 then return
  -- the delegate hears of the calls that end while the account is still there
  pjsuaCallHangupAll
  let _ ← api (.accDel (← vars).accId)
  assign fun v => { v with accId := -1 }

/-- `ct_pjsua_destroy`. -/
def ctPjsuaDestroy : Phone Unit := do
  ctPjsuaDeleteAccount
  let _ ← api .destroy

/-- `error_exit`, less the printing of the error. -/
def errorExit : Phone Unit := ctPjsuaDestroy

/-! ## Registering -/

/-- The failure path of every step of a registration. -/
def registrationFailed : Phone Unit := do
  errorExit
  Delegate.onRegistrationState .fail

/-- The set-up of the library by the first registration. False when it failed. -/
def setUp : Phone Bool := do
  -- before any of the calls, and not taken back when one of them fails
  assign fun v => { v with pjsuaInitialized := true }
  setStatus (← api .create).status
  if (← vars).status ≠ pjSuccess then
    registrationFailed
    return false
  setStatus (← api .init).status
  if (← vars).status ≠ pjSuccess then
    registrationFailed
    return false
  let config := (← vars).config
  -- this status is overwritten before it is tested
  setStatus (← api (.transportCreate config.pjTransportType config.unsignedPort)).status
  setStatus (← api .start).status
  if (← vars).status ≠ pjSuccess then
    registrationFailed
    return false
  return true

/-- `componentsSeparatedByString:`, at a single character. -/
def componentsSeparatedByString (s : NSString) (separator : Char) : List NSString :=
  s.splitOn separator

/-- The account id: the URI up to its second `@`. An access past the end of the components
raises an exception, here `none`. -/
def accountId (number host : NSString) : Option NSString :=
  let uri := "sip:".toList ++ number
  let reg := "@".toList ++ host
  let newUri := uri ++ reg
  let namesArray := componentsSeparatedByString newUri '@'
  if 0 < namesArray.length then do
    let newChar := (← namesArray[0]?) ++ "@".toList
    return newChar ++ (← namesArray[1]?)
  else some []

/-- The URI of the registrar. -/
def registrarUri (host : NSString) (config : CTSoftPhoneConfig) : NSString :=
  "sip:".toList ++ host ++ (";transport=".toList ++ config.transportDescription)

/-- The URI of the outbound proxy, with the port. -/
def proxyUri (host : NSString) (config : CTSoftPhoneConfig) : NSString :=
  "sip:".toList ++ host ++ (":".toList ++ (toString config.port).toList ++ ";transport=".toList ++
    config.transportDescription)

/-- The account configuration a registration asks for. -/
def accountConfig (number host credentials : NSString) (config : CTSoftPhoneConfig) :
    Option PjsuaAccConfig := do
  let id ← accountId number host
  return { pjsuaAccConfigDefault with
    id := pjStr id
    regUri := pjStr (registrarUri host config)
    proxy := pjsuaAccConfigDefault.proxy ++ [pjStr (proxyUri host config)]
    credInfo := [{
      realm := pjStr "*".toList
      scheme := pjStr "digest".toList
      username := pjStr number
      dataType := pjsipCredDataPlainPasswd
      data := pjStr credentials }] }

/-- The last part of a registration: modify the account, or add it, and give up on failure. -/
def putAccount (cfg : PjsuaAccConfig) : Phone Unit := do
  if 0 ≤ (← vars).accId then
    setStatus (← api (.accModify (← vars).accId cfg)).status
  else
    let r ← api (.accAdd cfg)
    -- the id is an output, written when the account is added
    assign fun v => { v with status := r.status, accId := r.id.getD v.accId }
  if (← vars).status = pjSuccess then return
  registrationFailed

/-- `registerWithNumber:withHost:withCredentials:`. -/
def registerWithNumber (number host credentials : NSString) : Phone Unit := do
  if !(← vars).pjsuaInitialized then
    if !(← setUp) then return
  match accountConfig number host credentials (← vars).config with
  | some cfg => putAccount cfg
  | none => Delegate.onRegistrationState .fail

/-! ## The other operations -/

/-- The contents of the two locals of `handleIpChange` that the source leaves uninitialised. -/
structure Locals where
  transportId : ℤ
  accCfg : PjsuaAccConfig
  deriving DecidableEq, Repr

/-- The switch to another transport inside `handleIpChange`. -/
def switchTransport (locals : Locals) (transport : CTSoftPhoneTransportType) : Phone Unit := do
  -- selected before the calls that may fail, and whatever becomes of them
  assign fun v => { v with config := { v.config with transport := transport } }
  let config := (← vars).config
  let created ← api (.transportCreate config.pjTransportType config.unsignedPort)
  setStatus created.status
  -- a failed call leaves its output as it was, here a local without a value
  let _ ← api (.accSetTransport (← vars).accId (created.id.getD locals.transportId))
  let accCfg := (← api (.accGetConfig (← vars).accId)).config.getD locals.accCfg
  let accCfg := { accCfg with ipv6MediaUse := true, hangupCalls := true }
  let _ ← api (.accModify (← vars).accId accCfg)

/-- `handleIpChange:`. -/
def handleIpChange (locals : Locals) (transport : CTSoftPhoneTransportType) : Phone Unit := do
  let v ← vars
  -- `callId` starts at zero and no end of a call resets it
  if v.callId < 0 ∨ v.accId < 0 then return
  if v.config.transport ≠ transport then switchTransport locals transport
  let _ ← api .handleIpChange

/-- `destroy`. -/
def destroy : Phone Unit := do
  ctPjsuaDestroy
  -- the one place that clears the flag
  assign fun v => { v with pjsuaInitialized := false }
  Delegate.onRegistrationState .destroyed

/-- `answercall`. -/
def answercall : Phone Unit := do
  let callId ← getCallid
  let _ ← api (.callAnswer callId)

/-- `hangup`. -/
def hangup : Phone Unit := do
  let callId ← getCallid
  pjsuaCallHangup callId

/-- `unmute`. -/
def unmute : Phone Unit := do
  let ci := (← vars).ci
  -- slot 0 is the sound device, slot -1 none
  if ci.confSlot ≠ 0 ∧ ci.confSlot ≠ -1 then
    let _ ← api (.confConnect 0 ci.confSlot)

/-- `mute`. -/
def mute : Phone Unit := do
  let ci := (← vars).ci
  if ci.confSlot ≠ 0 ∧ ci.confSlot ≠ -1 then
    let _ ← api (.confDisconnect 0 ci.confSlot)

/-- The operations an application requests. -/
inductive Op
  | registerWithNumber (number host credentials : NSString)
  | handleIpChange (transport : CTSoftPhoneTransportType)
  | destroy
  | hangup
  | answercall
  | mute
  | unmute
  deriving DecidableEq, Repr

/-- The program of an operation. -/
def Op.program (locals : Locals) : Op → Phone Unit
  | .registerWithNumber number host credentials =>
    CTSoftPhone.registerWithNumber number host credentials
  | .handleIpChange transport => CTSoftPhone.handleIpChange locals transport
  | .destroy => CTSoftPhone.destroy
  | .hangup => CTSoftPhone.hangup
  | .answercall => CTSoftPhone.answercall
  | .mute => CTSoftPhone.mute
  | .unmute => CTSoftPhone.unmute

end CTSoftPhone
