import CTSoftPhone.Programs.RunRelation
import CTSoftPhone.Wrapper.World

/-!
# What operations have from their parts

The operations are put together from few parts: assignments to the globals, calls to pjsua, the
report of a call that ends, and the two ways to tear the library down and tell the delegate. A
property of runs that these parts have, the operations have. `unmute` is left out: it is the one
operation that connects.

## Main definitions

* `HasParts a R`: the parts of the operations have the property `R`

## Main results

* `HasParts.op`: every operation but `unmute` has it
-/

namespace CTSoftPhone

/-- The functions that neither report call information, nor connect, nor tear down. -/
def Api.Plain : Api → Prop
  | .callGetInfo _ | .confConnect .. | .accDel _ | .destroy => False
  | _ => True

/-- The parts of the operations have the property of runs. The call information is written by the
report of a call only. -/
structure HasParts (a : Answers) (R : RunRelation World Event) : Prop where
  assign : ∀ {f : Vars → Vars}, (∀ v, (f v).ci = v.ci) → (assign f).Meets (Cmd.handle a) R
  api : ∀ {c : Api}, c.Plain → (api c).Meets (Cmd.handle a) R
  endCall : ∀ callId, (endCall callId).Meets (Cmd.handle a) R
  onCallState : ∀ callId, (onCallState callId).Meets (Cmd.handle a) R
  tellFail : (Delegate.onRegistrationState .fail).Meets (Cmd.handle a) R
  registrationFailed : registrationFailed.Meets (Cmd.handle a) R
  destroy : destroy.Meets (Cmd.handle a) R

theorem meets_vars (a : Answers) (R : RunRelation World Event) : vars.Meets (Cmd.handle a) R :=
  .call fun _ => R.refl _

theorem meets_activeCalls (a : Answers) (R : RunRelation World Event) :
    activeCalls.Meets (Cmd.handle a) R := .call fun _ => R.refl _

namespace HasParts

variable {a : Answers} {R : RunRelation World Event} (h : HasParts a R)
include h

theorem setStatus (status : PjStatus) :
    (CTSoftPhone.setStatus status).Meets (Cmd.handle a) R := h.assign fun _ => rfl

theorem disconnect (callId : ℤ) : (CTSoftPhone.disconnect callId).Meets (Cmd.handle a) R :=
  (h.endCall callId).bind fun _ => .ite (h.onCallState callId) (.ret ())

theorem setUp : CTSoftPhone.setUp.Meets (Cmd.handle a) R :=
  (h.assign fun _ => by rfl).bind fun _ =>
  (h.api (by trivial)).bind fun _ => (h.setStatus _).bind fun _ => (meets_vars a R).bind fun _ =>
    .ite (h.registrationFailed.bind fun _ => .ret false) <|
  (h.api (by trivial)).bind fun _ => (h.setStatus _).bind fun _ => (meets_vars a R).bind fun _ =>
    .ite (h.registrationFailed.bind fun _ => .ret false) <|
  (meets_vars a R).bind fun _ => (h.api (by trivial)).bind fun _ => (h.setStatus _).bind fun _ =>
  (h.api (by trivial)).bind fun _ => (h.setStatus _).bind fun _ => (meets_vars a R).bind fun _ =>
    .ite (h.registrationFailed.bind fun _ => .ret false) (.ret true)

theorem putAccount (cfg : PjsuaAccConfig) :
    (CTSoftPhone.putAccount cfg).Meets (Cmd.handle a) R := by
  have hend : Prog.Meets (Cmd.handle a) R (do
      if (← vars).status = pjSuccess then return
      CTSoftPhone.registrationFailed) :=
    (meets_vars a R).bind fun _ => .ite (.ret ()) h.registrationFailed
  exact (meets_vars a R).bind fun _ => .ite
    ((meets_vars a R).bind fun _ => (h.api (by trivial)).bind fun _ =>
      (h.setStatus _).bind fun _ => hend)
    ((h.api (by trivial)).bind fun _ => (h.assign fun _ => by rfl).bind fun _ => hend)

theorem registerWithNumber (number host credentials : NSString) :
    (CTSoftPhone.registerWithNumber number host credentials).Meets (Cmd.handle a) R := by
  refine (meets_vars a R).bind fun v => .ite (h.setUp.bind fun _ => .ite (.ret ()) ?_) ?_
  -- with or without a set-up, the account comes last
  all_goals
    refine (meets_vars a R).bind fun v => ?_
    cases accountConfig number host credentials v.config with
    | some cfg => exact h.putAccount cfg
    | none => exact h.tellFail

theorem switchTransport (locals : Locals) (transport : CTSoftPhoneTransportType) :
    (CTSoftPhone.switchTransport locals transport).Meets (Cmd.handle a) R :=
  (h.assign fun _ => by rfl).bind fun _ => (meets_vars a R).bind fun _ =>
  (h.api (by trivial)).bind fun _ => (h.setStatus _).bind fun _ => (meets_vars a R).bind fun _ =>
  (h.api (by trivial)).bind fun _ => (meets_vars a R).bind fun _ =>
  (h.api (by trivial)).bind fun _ => (meets_vars a R).bind fun _ =>
  (h.api (by trivial)).bind fun _ => .ret ()

theorem handleIpChange (locals : Locals) (transport : CTSoftPhoneTransportType) :
    (CTSoftPhone.handleIpChange locals transport).Meets (Cmd.handle a) R := by
  have hnotify : Prog.Meets (Cmd.handle a) R (do let _ ← CTSoftPhone.api .handleIpChange) :=
    (h.api (by trivial)).bind fun _ => .ret ()
  exact (meets_vars a R).bind fun _ => .ite (.ret ()) <|
    .ite ((h.switchTransport locals transport).bind fun _ => hnotify) hnotify

/-- **Every operation** but `unmute` has what the parts have. -/
theorem op {o : Op} (ho : o ≠ .unmute) (locals : Locals) :
    (o.program locals).Meets (Cmd.handle a) R := by
  cases o with
  | registerWithNumber number host credentials => exact h.registerWithNumber number host credentials
  | handleIpChange transport => exact h.handleIpChange locals transport
  | destroy => exact h.destroy
  | hangup =>
    exact ((meets_vars a R).bind fun _ => .ret _).bind fun callId =>
      (h.api (by trivial)).bind fun _ => h.disconnect callId
  | answercall =>
    exact ((meets_vars a R).bind fun _ => .ret _).bind fun _ => (h.api (by trivial)).bind fun _ =>
      .ret ()
  | mute =>
    exact (meets_vars a R).bind fun _ => .ite ((h.api (by trivial)).bind fun _ => .ret ()) (.ret ())
  | unmute => exact absurd rfl ho

end HasParts

end CTSoftPhone
