import CTSoftPhone.Wrapper.World

/-!
# Programs that read the call information again

The source reads the global `ci` anew in every condition and in every argument, where the programs
of the operations and of the callbacks read it once. Run as a whole the two do the same. Between the
reads of a callback, or of an operation, another thread may have written `ci`.

## Main definitions

* `onCallMediaStateRereading`, `muteRereading`, `unmuteRereading`: the programs that read `ci` again
* `Op.rereading`, `Callback.rereading`: the operations and the callbacks with these

## Main results

* `Op.run_rereading`, `Callback.run_rereading`: run as a whole they are the ones that read once
-/

namespace CTSoftPhone

/-- `on_call_media_state`, reading `ci` wherever the source does. -/
def onCallMediaStateRereading (callId : ℤ) : Phone Unit := do
  getInfo callId
  if (← vars).ci.mediaStatus = .active then
    let _ ← api (.confConnect (← vars).ci.confSlot 0)
    let _ ← api (.confConnect 0 (← vars).ci.confSlot)
    Delegate.onCallState .mediaActive
  else if (← vars).ci.mediaStatus = .none then
    let _ ← api (.confDisconnect (← vars).ci.confSlot 0)
    Delegate.onCallState .mediaNone
  else if (← vars).ci.mediaStatus = .localHold then
    Delegate.onCallState .mediaLocalHold
  else if (← vars).ci.mediaStatus = .remoteHold then
    Delegate.onCallState .mediaRemoteHold
  else if (← vars).ci.mediaStatus = .error then
    Delegate.onCallState .mediaError

/-- `mute`, reading `ci` wherever the source does. -/
def muteRereading : Phone Unit := do
  if (← vars).ci.confSlot ≠ 0 then
    if (← vars).ci.confSlot ≠ -1 then
      let _ ← api (.confDisconnect 0 (← vars).ci.confSlot)

/-- `unmute`, reading `ci` wherever the source does. -/
def unmuteRereading : Phone Unit := do
  if (← vars).ci.confSlot ≠ 0 then
    if (← vars).ci.confSlot ≠ -1 then
      let _ ← api (.confConnect 0 (← vars).ci.confSlot)

/-- The program of an operation that reads `ci` wherever the source does. -/
def Op.rereading (locals : Locals) : Op → Phone Unit
  | .mute => muteRereading
  | .unmute => unmuteRereading
  | o => o.program locals

/-- The program of a callback that reads `ci` wherever the source does. -/
def Callback.rereading : Callback → Phone Unit
  | .callMediaState callId => onCallMediaStateRereading callId
  | cb => cb.program

section Run

variable (a : Answers) (w : World)

theorem run_onCallMediaStateRereading (callId : ℤ) :
    (onCallMediaStateRereading callId).run (Cmd.handle a) w =
      (onCallMediaState callId).run (Cmd.handle a) w := by
  simp only [onCallMediaStateRereading, onCallMediaState, Prog.bind_def, Prog.run_bind, run_getInfo,
    Outcome.andThen, run_vars]
  -- no command in between writes `ci`
  generalize a.info callId w.vars.ci = ci
  obtain ⟨state, mediaStatus, slot⟩ := ci
  cases mediaStatus <;> simp [Outcome.andThen]

theorem run_muteRereading : muteRereading.run (Cmd.handle a) w = mute.run (Cmd.handle a) w := by
  rw [run_mute]
  by_cases h0 : w.vars.ci.confSlot = 0 <;> by_cases h1 : w.vars.ci.confSlot = -1 <;>
    simp [muteRereading, Outcome.andThen, PjsuaCallInfo.HasSlot, Pjsua.reply, Pjsua.after, h0, h1]

theorem run_unmuteRereading :
    unmuteRereading.run (Cmd.handle a) w = unmute.run (Cmd.handle a) w := by
  rw [run_unmute]
  by_cases h0 : w.vars.ci.confSlot = 0 <;> by_cases h1 : w.vars.ci.confSlot = -1 <;>
    simp [unmuteRereading, Outcome.andThen, PjsuaCallInfo.HasSlot, Pjsua.after_confConnect, h0, h1]

/-- **Run as a whole**, an operation does not notice that it reads `ci` again. -/
theorem Op.run_rereading (o : Op) (locals : Locals) :
    (o.rereading locals).run (Cmd.handle a) w = (o.program locals).run (Cmd.handle a) w := by
  cases o with
  | mute => exact run_muteRereading a w
  | unmute => exact run_unmuteRereading a w
  | _ => rfl

/-- **Run as a whole**, a callback does not notice that it reads `ci` again. -/
theorem Callback.run_rereading (cb : Callback) :
    cb.rereading.run (Cmd.handle a) w = cb.program.run (Cmd.handle a) w := by
  cases cb with
  | callMediaState callId => exact run_onCallMediaStateRereading a w callId
  | _ => rfl

end Run

end CTSoftPhone
