import CTSoftPhone.Lifecycle.Delegate
import CTSoftPhone.Programs.Since

/-!
# Live calls

A call is live from the callback that announces it. It is over when the library reports that it is
disconnected, when the phone hangs up while the call is the one announced last, or when the library
is torn down: `hangup` ends no other call, and nothing else ends any.

## Main definitions

* `Announces`, `EndsCall`: the steps that announce a call, and that end it

## Main results

* `live_iff`: the calls that are live after a history
-/

namespace CTSoftPhone

section Steps

variable (config : CTSoftPhoneConfig) (callId : ℤ) (steps : List Step) (st : Step)

/-- A running library announces the call. -/
def Announces : Prop :=
  match st.act with
  | .callback (.incomingCall c) => phaseAfter steps = .up ∧ c = callId
  | .callback _ | .op _ => False

/-- The call ends, if it is live. -/
def EndsCall : Prop :=
  match st.act with
  | .op .hangup => (lastAnnounced config steps).getD 0 = callId
  | .callback (.callState c state) => state = .disconnected ∧ c = callId
  | .callback _ | .op _ => TearsDown steps st

end Steps

/-! ## The calls of the reporter -/

namespace Reporter

variable (a : Answers) (r : Reporter) {callId : ℤ}

theorem mem_calls_endCall (c : ℤ) :
    callId ∈ (r.endCall a c).state.line.calls ↔ callId ∈ r.line.calls ∧ callId ≠ c := by
  rw [endCall]
  split
  · rw [report, Line.calls_remove, List.mem_filter, decide_eq_true_iff]
  · next hc =>
    refine ⟨fun h => ⟨h, ?_⟩, And.left⟩
    rintro rfl
    exact hc h

theorem mem_calls_raised {calls : List ℤ} (hline : r.line = .up calls) (cb : Callback) :
    callId ∈ (r.raised a calls cb).state.line.calls ↔
      match cb with
      | .incomingCall c => callId = c ∨ callId ∈ r.line.calls
      | .callState c state => callId ∈ r.line.calls ∧ ¬ (state = .disconnected ∧ c = callId)
      | .callMediaState _ | .regState2 _ => callId ∈ r.line.calls := by
  cases cb with
  | incomingCall c =>
    rw [hline]
    exact List.mem_insert_iff
  | callState c state =>
    dsimp only [raised, report]
    by_cases hover : state = .disconnected
    · rw [if_pos hover, Line.calls_remove, List.mem_filter, decide_eq_true_iff]
      simp [hover, eq_comm]
    · simp [hover]
  | callMediaState c => rfl
  | regState2 info => rfl

end Reporter

/-! ## Histories -/

section Histories

variable (config : CTSoftPhoneConfig) (callId : ℤ) (steps : List Step)

theorem live_snoc (st : Step) :
    callId ∈ (worldAfter config (steps ++ [st])).pjsua.calls ↔
      Announces callId steps st ∨
        callId ∈ (worldAfter config steps).pjsua.calls ∧ ¬ EndsCall config callId steps st := by
  obtain ⟨h, -⟩ := (refinedBy_initial config).trace steps
  have hphase : (reporter.after .initial steps).line.phase = phaseAfter steps :=
    reporter.after_refines (f := fun r => r.line.phase) .initial Reporter.phase_step steps
  have hcurrent : (reporter.after .initial steps).callId = (lastAnnounced config steps).getD 0 :=
    h.1.callId_eq.symm.trans (callId_eq_lastAnnounced config steps)
  have hafter := (h.step st).1.calls_eq
  rw [worldAfter, phone.after_snoc, h.1.calls_eq]
  change callId ∈ (World.step st _).state.pjsua.calls ↔ _
  rw [hafter]
  clear hafter h
  generalize reporter.after .initial steps = r at hphase hcurrent
  obtain ⟨act, a, locals⟩ := st
  cases act with
  | op o =>
    cases o with
    | registerWithNumber number host credentials =>
      dsimp only [Reporter.step, Announces, EndsCall, TearsDown]
      rw [hphase]
      split
      · next hok => simp [hok, Reporter.silent, Line.calls]
      · next hok => simp [hok, Reporter.close, Line.calls]
    | destroy => simp [Reporter.step, Reporter.close, Line.calls, Announces, EndsCall, TearsDown]
    | hangup =>
      dsimp only [Reporter.step, Announces, EndsCall]
      rw [r.mem_calls_endCall a, hcurrent, false_or]
      exact and_congr_right fun _ => not_congr eq_comm
    | _ => simp [Reporter.step, Reporter.silent, Announces, EndsCall, TearsDown]
  | callback cb =>
    cases hline : r.line with
    | up calls =>
      have hup : phaseAfter steps = .up := by rw [← hphase, hline]; rfl
      simp only [Reporter.step, hline]
      rw [r.mem_calls_raised a hline cb, hline]
      cases cb with
      | incomingCall c => simp [Announces, EndsCall, TearsDown, hup, eq_comm]
      | callState c state => simp [Announces, EndsCall]
      | _ => simp [Announces, EndsCall, TearsDown]
    -- outside the phase there are no calls, and none is announced
    | down =>
      have hdown : phaseAfter steps = .down := by rw [← hphase, hline]; rfl
      simp only [Reporter.step, hline]
      cases cb <;> simp [Reporter.silent, Announces, hline, Line.calls, hdown]
    | stale =>
      have hstale : phaseAfter steps = .stale := by rw [← hphase, hline]; rfl
      simp only [Reporter.step, hline]
      cases cb <;> simp [Reporter.silent, Announces, hline, Line.calls, hstale]

/-- **Live calls** are those that were announced and have not ended since. -/
theorem live_iff :
    callId ∈ (worldAfter config steps).pjsua.calls ↔
      Since (Announces callId) (EndsCall config callId) steps :=
  iff_since (R := fun steps => callId ∈ (worldAfter config steps).pjsua.calls) List.not_mem_nil
    (live_snoc config callId) steps

end Histories

end CTSoftPhone
