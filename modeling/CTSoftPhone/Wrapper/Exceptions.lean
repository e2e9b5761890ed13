import CTSoftPhone.Programs.Raising
import CTSoftPhone.Wrapper.World

/-!
# The phone and its handlers

The delegate runs on the thread of the phone, and may raise. Every block of the phone that notifies
it stands in a handler, which logs the exception, except for `on_reg_state2`; that of a registration
also tells the delegate that the registration failed. The programs here have the handlers of the
source; a part of a program that has none inside is that part of the plain program.

## Main definitions

* `CTSoftPhoneDelegate D`: a delegate, with a state of its own
* `Guarded.registerWithNumber`, ..., `Guarded.onRegState2`: the operations and the callbacks, with
  their handlers
-/

namespace CTSoftPhone

structure NSException where
  name : NSString
  reason : NSString
  deriving DecidableEq, Repr

/-- An access past the end of an array. -/
def NSException.range : NSException :=
  ⟨"NSRangeException".toList, "index beyond bounds".toList⟩

/-- A delegate: what its methods do to its state, and whether they return or raise. -/
structure CTSoftPhoneDelegate (D : Type) where
  onRegistrationState : CTSoftPhoneRegistrationState → D → Except NSException Unit × D
  onCallState : CTSoftPhoneCallState → D → Except NSException Unit × D

/-- A delegate hears notifications only. -/
def CTSoftPhoneDelegate.listener {D : Type} (delegate : CTSoftPhoneDelegate D) :
    Listener Event NSException D where
  hear e d :=
    match e with
    | .notified (.registration state) => delegate.onRegistrationState state d
    | .notified (.call state) => delegate.onCallState state d
    | .api .. | .raised _ => (.ok (), d)

/-- Programs of the phone that exceptions interrupt. -/
abbrev GuardedPhone := Raising NSException Cmd.Ans

namespace Guarded

open Raising (lift attempt)

/-! ## Callbacks -/

def onCallState (callId : ℤ) : GuardedPhone Unit := attempt (lift (CTSoftPhone.onCallState callId))

def onCallMediaState (callId : ℤ) : GuardedPhone Unit :=
  attempt (lift (CTSoftPhone.onCallMediaState callId))

def onIncomingCall (callId : ℤ) : GuardedPhone Unit :=
  attempt (lift (CTSoftPhone.onIncomingCall callId))

/-- The one callback without a handler. -/
def onRegState2 (info : PjsipRegcCbparam) : GuardedPhone Unit :=
  lift (CTSoftPhone.onRegState2 info)

def callback : Callback → GuardedPhone Unit
  | .incomingCall callId => onIncomingCall callId
  | .callState callId _ => onCallState callId
  | .callMediaState callId => onCallMediaState callId
  | .regState2 info => onRegState2 info

/-! ## Ending calls and tearing down -/

def disconnect (callId : ℤ) : GuardedPhone Unit := do
  if ← lift (endCall callId) then onCallState callId

def pjsuaCallHangup (callId : ℤ) : GuardedPhone Unit := do
  let _ ← lift (api (.callHangup callId))
  disconnect callId

def pjsuaCallHangupAll : GuardedPhone Unit := do
  let _ ← lift (api .callHangupAll)
  forM (← lift activeCalls) disconnect

def ctPjsuaDeleteAccount : GuardedPhone Unit := do
  if (← lift vars).accId < 0 then return
  pjsuaCallHangupAll
  let _ ← lift (api (.accDel (← lift vars).accId))
  lift (assign fun v => { v with accId := -1 })

def ctPjsuaDestroy : GuardedPhone Unit := do
  ctPjsuaDeleteAccount
  let _ ← lift (api .destroy)

def errorExit : GuardedPhone Unit := attempt ctPjsuaDestroy

/-! ## Registering -/

def registrationFailed : GuardedPhone Unit := do
  errorExit
  lift (Delegate.onRegistrationState .fail)

def setUp : GuardedPhone Bool := do
  lift (assign fun v => { v with pjsuaInitialized := true })
  lift (setStatus (← lift (api .create)).status)
  if (← lift vars).status ≠ pjSuccess then
    registrationFailed
    return false
  lift (setStatus (← lift (api .init)).status)
  if (← lift vars).status ≠ pjSuccess then
    registrationFailed
    return false
  let config := (← lift vars).config
  let created ← lift (api (.transportCreate config.pjTransportType config.unsignedPort))
  lift (setStatus created.status)
  lift (setStatus (← lift (api .start)).status)
  if (← lift vars).status ≠ pjSuccess then
    registrationFailed
    return false
  return true

def putAccount (cfg : PjsuaAccConfig) : GuardedPhone Unit := do
  if 0 ≤ (← lift vars).accId then
    lift (setStatus (← lift (api (.accModify (← lift vars).accId cfg))).status)
  else
    let r ← lift (api (.accAdd cfg))
    lift (assign fun v => { v with status := r.status, accId := r.id.getD v.accId })
  if (← lift vars).status = pjSuccess then return
  registrationFailed

/-- The block of a registration that the handler is around. -/
def registration (number host credentials : NSString) : GuardedPhone Unit := do
  if !(← lift vars).pjsuaInitialized then
    if !(← setUp) then return
  match accountConfig number host credentials (← lift vars).config with
  | some cfg => putAccount cfg
  | none => throw .range

/-- The handler tells the delegate, whatever was raised and by whom. -/
def registerWithNumber (number host credentials : NSString) : GuardedPhone Unit :=
  tryCatch (registration number host credentials) fun _ =>
    lift (Delegate.onRegistrationState .fail)

/-! ## The other operations -/

def handleIpChange (locals : Locals) (transport : CTSoftPhoneTransportType) : GuardedPhone Unit :=
  attempt (lift (CTSoftPhone.handleIpChange locals transport))

def destroy : GuardedPhone Unit := attempt do
  ctPjsuaDestroy
  lift (assign fun v => { v with pjsuaInitialized := false })
  lift (Delegate.onRegistrationState .destroyed)

def answercall : GuardedPhone Unit := attempt (lift CTSoftPhone.answercall)

def hangup : GuardedPhone Unit := attempt do
  let callId ← lift getCallid
  pjsuaCallHangup callId

/-- The handler of the source is around the request, and not in the block that the queue runs. -/
def unmute : GuardedPhone Unit := lift CTSoftPhone.unmute

def mute : GuardedPhone Unit := lift CTSoftPhone.mute

/-- The program of an operation, with its handlers. -/
def op (locals : Locals) : Op → GuardedPhone Unit
  | .registerWithNumber number host credentials => registerWithNumber number host credentials
  | .handleIpChange transport => handleIpChange locals transport
  | .destroy => destroy
  | .hangup => hangup
  | .answercall => answercall
  | .mute => mute
  | .unmute => unmute

end Guarded

end CTSoftPhone
