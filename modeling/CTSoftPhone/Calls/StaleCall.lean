import CTSoftPhone.Calls.CurrentCall
import CTSoftPhone.Session.Phase

/-!
# Stale calls

`callId` is meant to be negative or a live call. It starts at zero and is never reset, so it is
neither before the first call, and after the end of the last one announced. The history tells which
call, if any, was announced last and has not ended since; the current call is live exactly when
there is one.

## Main definitions

* `trackedCall`: the call announced last, unless it has ended
* `World.NoStaleCall`: what the operations take for the current call is live

## Main results

* `tracks_trackedCall`: the tracked call is the current call, when it is live
* `noStaleCall_iff`: the current call is not stale exactly while there is a tracked call
-/

namespace CTSoftPhone

/-! ## The tracked call -/

/-- What a step in a phase makes of the tracked call. -/
def trackStep (st : Step) (p : Phase) (tracked : Option ℤ) : Option ℤ :=
  match st.act with
  | .op (.registerWithNumber ..) => if p.RegisterOk st.answers then tracked else none
  | .op .destroy | .op .hangup => none
  | .callback (.incomingCall callId) => if p = .up then some (callId : ℤ) else tracked
  | .callback (.callState callId .disconnected) =>
    if p = .up ∧ tracked = some (callId : ℤ) then none else tracked
  | .op (.handleIpChange _) | .op .answercall | .op .mute | .op .unmute
  | .callback (.callState ..) | .callback (.callMediaState _) | .callback (.regState2 _) => tracked

/-- What a step makes of the phase and the tracked call. -/
def track (st : Step) (t : Phase × Option ℤ) : Phase × Option ℤ :=
  (t.1.step st, trackStep st t.1 t.2)

/-- The call announced last by a history, unless it has ended: by a hangup, a disconnect, the end
of the library or a registration that failed. -/
def trackedCall (steps : List Step) : Option ℤ :=
  (steps.foldl (fun t st => track st t) (.down, none)).2

/-- The tracked call is the current one when that is live. -/
def World.Tracks (w : World) : Option ℤ → Prop
  | some callId => w.vars.callId = callId ∧ callId ∈ w.pjsua.calls
  | none => w.vars.callId ∉ w.pjsua.calls

theorem World.Tracks.of_eq {w w' : World} {tracked : Option ℤ} (h : w.Tracks tracked)
    (hcall : w'.vars.callId = w.vars.callId) (hcalls : w'.pjsua.calls = w.pjsua.calls) :
    w'.Tracks tracked := by
  cases tracked with
  | some callId => exact ⟨hcall.trans h.1, hcalls ▸ h.2⟩
  | none => rw [World.Tracks, hcall, hcalls]; exact h

theorem tracks_none_of_nil {w : World} (h : w.pjsua.calls = []) : w.Tracks none := by
  rw [World.Tracks, h]
  exact List.not_mem_nil

/-- A library that is not created has no calls. -/
def Pjsua.Silent (p : Pjsua) : Prop := p.state = .null → p.calls = []

theorem silent_after {p : Pjsua} (h : p.Silent) (c : Api) (r : Reply) : (p.after c r).Silent := by
  intro hnull
  rw [calls_after]
  split
  · rfl
  · next hc =>
    apply h
    cases c <;> simp only [Pjsua.after] at hnull <;>
      first
      | exact hnull
      | exact absurd rfl hc
      | (split at hnull <;> first | exact hnull | cases hnull)

theorem silent_run {α : Type} (p : Phone α) (a : Answers) {w : World} (h : w.pjsua.Silent) :
    (p.run (Cmd.handle a) w).state.pjsua.Silent := by
  refine (Prog.run_invariant (Cmd.handle a) (I := fun w => w.pjsua.Silent) (φ := fun _ => True)
    (fun c w h => ⟨?_, fun _ _ => trivial⟩) p h).1
  cases c with
  | api c => exact silent_after h c _
  | endCall callId =>
    intro hnull
    change w.pjsua.calls.filter _ = []
    rw [h hnull]
    rfl
  | _ => exact h

theorem silent_step (st : Step) {w : World} (h : w.pjsua.Silent) :
    (World.step st w).state.pjsua.Silent := by
  obtain ⟨act, a, locals⟩ := st
  cases act with
  | op o => exact silent_run _ a h
  | callback cb =>
    by_cases hrun : w.pjsua.state = .running
    · rw [step_callback_of_running cb a locals hrun]
      apply silent_run _ a
      intro hnull
      have hstate := raise_state w.pjsua cb
      exact absurd (hrun.symm.trans (hstate.symm.trans hnull)) (by decide)
    · rw [step_callback_of_not_running cb a locals hrun]
      exact h

/-! ### Operations -/

section Operations

variable {w : World} {tracked : Option ℤ} (a : Answers) (locals : Locals)

theorem tracks_registerWithNumber {p : Phase} (hin : w.session.In p) (hsilent : w.pjsua.Silent)
    (h : w.Tracks tracked) (number host credentials : NSString) :
    ((registerWithNumber number host credentials).run (Cmd.handle a) w).state.Tracks
      (if p.RegisterOk a then tracked else none) := by
  have hafter := silent_run (registerWithNumber number host credentials) a hsilent
  have hin' := hin.registerWithNumber a (requestedConfig number host credentials w.vars.config)
  rw [← session_registerWithNumber] at hin'
  by_cases hok : p.RegisterOk a
  · rw [if_pos hok]
    cases p with
    | down =>
      -- before the set-up there are no calls, and a registration adds none
      have hnil : w.pjsua.calls = [] := hsilent hin.2.state_eq
      have hnone : tracked = none := by
        cases tracked with
        | none => rfl
        | some callId => exact absurd (hnil ▸ h.2) List.not_mem_nil
      rw [hnone]
      refine tracks_none_of_nil (List.eq_nil_iff_forall_not_mem.mpr fun c hc => ?_)
      exact absurd (hnil ▸ mem_calls_of_run _ a w c hc) List.not_mem_nil
    | up =>
      have hacc : 0 ≤ w.vars.accId := hin.2.accId_nonneg
      rw [run_registerWithNumber_of_initialized a w number host credentials hin.1,
        run_putAccount_of_ok a w _ ((hin.2.putOk_iff a).mpr hok)]
      refine h.of_eq ?_ ?_ <;> simp [World.put, Pjsua.modifyAcc, hacc]
    | stale => exact hok.elim
  · rw [if_neg hok]
    rw [if_neg hok] at hin'
    -- a failed registration leaves the library down, without calls
    exact tracks_none_of_nil (hafter hin'.2.state_eq)

theorem tracks_handleIpChange (h : w.Tracks tracked) (transport : CTSoftPhoneTransportType) :
    ((handleIpChange locals transport).run (Cmd.handle a) w).state.Tracks tracked := by
  by_cases hsw : w.session.Switches transport
  · rw [run_handleIpChange_of_switch a w locals transport hsw]
    exact h.of_eq rfl rfl
  · rw [run_handleIpChange_of_not_switch a w locals transport hsw]
    exact h

theorem tracks_destroy (hsilent : w.pjsua.Silent) :
    (destroy.run (Cmd.handle a) w).state.Tracks none := by
  apply tracks_none_of_nil
  apply silent_run destroy a hsilent
  exact congrArg Session.state (session_destroy a w)

theorem tracks_hangup : (hangup.run (Cmd.handle a) w).state.Tracks none := by
  rw [World.Tracks, callId_hangup, calls_hangup]
  simp

end Operations

/-! ### Callbacks -/

theorem tracks_endCall {w : World} {tracked : Option ℤ} (h : w.Tracks tracked) (callId : ℤ)
    (ci : PjsuaCallInfo) :
    World.Tracks ⟨{ w.vars with ci := ci }, w.pjsua.endCall callId⟩
      (if tracked = some callId then none else tracked) := by
  cases tracked with
  | none => exact fun hmem => h (List.mem_of_mem_filter hmem)
  | some c =>
    by_cases hc : c = callId
    · subst hc
      simp [World.Tracks, Pjsua.endCall, h.1]
    · simpa [World.Tracks, Pjsua.endCall, hc] using h

theorem tracks_callback {w : World} {tracked : Option ℤ} (h : w.Tracks tracked)
    (hrun : w.pjsua.state = .running) (cb : Callback) (a : Answers) (locals : Locals) :
    (cb.program.run (Cmd.handle a) { w with pjsua := w.pjsua.raise cb }).state.Tracks
      (trackStep ⟨.callback cb, a, locals⟩ .up tracked) := by
  cases cb with
  | incomingCall callId =>
    simp [Callback.program, onIncomingCall, setCallid, trackStep, World.Tracks, Pjsua.raise,
      Pjsua.after]
  | callState callId state =>
    rw [Callback.program, run_onCallState]
    cases state with
    | disconnected =>
      simpa only [trackStep, true_and, Pjsua.raise] using
        tracks_endCall h (callId : ℤ) (a.info callId w.vars.ci)
    | _ => exact h.of_eq rfl rfl
  | callMediaState callId =>
    rw [Callback.program, run_onCallMediaState_state a _ ((raise_state _ _).trans hrun)]
    exact h.of_eq rfl rfl
  | regState2 info =>
    simp only [Callback.program, onRegState2, Prog.run_ite]
    split <;> exact h

theorem tracks_step {w : World} {p : Phase} {tracked : Option ℤ} (st : Step)
    (hin : w.session.In p) (hsilent : w.pjsua.Silent) (h : w.Tracks tracked) :
    (World.step st w).state.Tracks (trackStep st p tracked) := by
  obtain ⟨act, a, locals⟩ := st
  cases act with
  | op o =>
    rw [step_op]
    cases o with
    | registerWithNumber number host credentials =>
      exact tracks_registerWithNumber a hin hsilent h number host credentials
    | handleIpChange transport => exact tracks_handleIpChange a locals h transport
    | destroy => exact tracks_destroy a hsilent
    | hangup => exact tracks_hangup a
    | answercall => rw [Op.program, run_answercall]; exact h
    | mute =>
      rw [Op.program, run_mute]
      split
      · exact h.of_eq rfl rfl
      · exact h
    | unmute =>
      rw [Op.program, run_unmute]
      split
      · exact h.of_eq rfl rfl
      · exact h
  | callback cb =>
    by_cases hp : p = .up
    · subst hp
      rw [step_callback_of_running cb a locals hin.2.state_eq]
      exact tracks_callback h hin.2.state_eq cb a locals
    -- outside the phase the library is down, and raises nothing
    · have hrun : w.pjsua.state ≠ .running := by
        intro hrun
        cases p with
        | up => exact hp rfl
        | down => exact absurd (hrun.symm.trans hin.2.state_eq) (by decide)
        | stale => exact absurd (hrun.symm.trans hin.2.state_eq) (by decide)
      have htrack : trackStep ⟨.callback cb, a, locals⟩ p tracked = tracked := by
        cases cb with
        | callState callId state => cases state <;> simp [trackStep, hp]
        | _ => simp [trackStep, hp]
      rw [step_callback_of_not_running cb a locals hrun, htrack]
      exact h

/-- **The tracked call** after a history is the current one, when that is live. -/
theorem tracks_trackedCall (config : CTSoftPhoneConfig) (steps : List Step) :
    (worldAfter config steps).Tracks (trackedCall steps) := by
  let R (w : World) (t : Phase × Option ℤ) : Prop :=
    w.session.In t.1 ∧ w.pjsua.Silent ∧ w.Tracks t.2
  have hsim : R (worldAfter config steps) (steps.foldl (fun t st => track st t) (.down, none)) := by
    refine phone.after_simulates (World.initial config) (R := R) ?_ ?_ steps
    · exact ⟨Session.in_initial config, fun _ => rfl, tracks_none_of_nil rfl⟩
    · rintro st w ⟨p, tracked⟩ ⟨hin, hsilent, h⟩
      exact ⟨session_step st w ▸ hin.step st, silent_step st hsilent, tracks_step st hin hsilent h⟩
  exact hsim.2.2

/-! ## The current call is live -/

/-- What the operations take for the current call is live: `callId` is, unless it is negative;
`hangup` and `answercall` address live calls; and `handleIpChange` goes ahead only with one. -/
structure World.NoStaleCall (w : World) : Prop where
  callId_live : w.vars.callId < 0 ∨ w.vars.callId ∈ w.pjsua.calls
  hangup_live : ∀ a locals callId state reply,
    .api (.callHangup callId) state reply ∈ (World.step ⟨.op .hangup, a, locals⟩ w).events →
      callId ∈ w.pjsua.calls
  answercall_live : ∀ a locals callId state reply,
    .api (.callAnswer callId) state reply ∈ (World.step ⟨.op .answercall, a, locals⟩ w).events →
      callId ∈ w.pjsua.calls
  handleIpChange_live : ∀ a locals transport,
    (World.step ⟨.op (.handleIpChange transport), a, locals⟩ w).events ≠ [] → w.pjsua.calls ≠ []

theorem noStaleCall_of_mem {w : World} (h : w.vars.callId ∈ w.pjsua.calls) : w.NoStaleCall := by
  refine ⟨.inr h, ?_, ?_, fun _ _ _ _ => List.ne_nil_of_mem h⟩
  · intro a locals callId state reply hmem
    rw [step_op, Op.program, run_hangup, Outcome.andThen_events] at hmem
    rcases List.mem_append.mp hmem with hmem | hmem
    · obtain ⟨rfl, -⟩ : callId = w.vars.callId ∧ _ := by simpa using hmem
      exact h
    · exact (run_disconnect_events a w w.vars.callId _ hmem).elim
  · intro a locals callId state reply hmem
    rw [step_op, Op.program, run_answercall] at hmem
    obtain ⟨rfl, -⟩ : callId = w.vars.callId ∧ _ := by simpa using hmem
    exact h

/-- **The current call is not stale** exactly while there is a tracked call. -/
theorem noStaleCall_iff (config : CTSoftPhoneConfig) (steps : List Step) :
    (worldAfter config steps).NoStaleCall ↔ (trackedCall steps).isSome = true := by
  have htracks := tracks_trackedCall config steps
  have hnonneg : ¬ (worldAfter config steps).vars.callId < 0 :=
    Int.not_lt.mpr (callId_nonneg config steps)
  cases ht : trackedCall steps with
  | none =>
    rw [ht] at htracks
    exact iff_of_false (fun h => (h.callId_live.resolve_left hnonneg) |> htracks) (by simp)
  | some c =>
    rw [ht] at htracks
    exact iff_of_true (noStaleCall_of_mem (htracks.1 ▸ htracks.2)) rfl

/-- Before any call is announced, the current call is zero, and not live. -/
theorem not_noStaleCall_initial : ¬ (worldAfter ⟨5060, .udp⟩ []).NoStaleCall := fun h =>
  absurd h.callId_live (by decide)

end CTSoftPhone
