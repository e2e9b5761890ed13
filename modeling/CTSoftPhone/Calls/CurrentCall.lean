import CTSoftPhone.Programs.RunRelation
import CTSoftPhone.Session.Session

/-!
# The current call

`callId` is written by `on_incoming_call` only, so it is the call announced last, or zero before
the first one. Neither the end of that call nor the end of the library resets it, and a call
announced earlier is out of reach.

## Main definitions

* `announced`: the call that an event announces
* `lastAnnounced`: the call announced last in a history

## Main results

* `callId_eq_lastAnnounced`: the current call is the call announced last
* `announced_of_mem_calls`: every live call has been announced
* `hangups_end_lastAnnounced`: hangups end that call and no other
-/

namespace CTSoftPhone

/-- The call that an event announces. -/
def announced : Event → Option ℤ
  | .raised (.incomingCall callId) => some (callId : ℤ)
  | _ => none

/-- The call announced last in a history. -/
def lastAnnounced (config : CTSoftPhoneConfig) (steps : List Step) : Option ℤ :=
  lastSeen announced (traceOf config steps)

/-! ## Runs of the programs -/

/-- No program announces a call. -/
theorem announced_run {α : Type} (p : Phone α) (a : Answers) (w : World) :
    ∀ e ∈ (p.run (Cmd.handle a) w).events, announced e = none :=
  (Prog.run_invariant (Cmd.handle a) (I := fun _ => True)
    (fun c w _ => ⟨trivial, by cases c <;> simp [Cmd.handle, announced]⟩) p trivial).2

/-- Only the end of the library changes the live calls, and it ends them. -/
theorem calls_after (p : Pjsua) (c : Api) (r : Reply) :
    (p.after c r).calls = if c = .destroy then [] else p.calls := by
  cases c <;> simp only [Pjsua.after, reduceCtorEq, if_false, if_true] <;>
    first
    | rfl
    | split <;> rfl

/-- No program adds a live call. -/
theorem mem_calls_of_run {α : Type} (p : Phone α) (a : Answers) (w : World) :
    ∀ callId ∈ (p.run (Cmd.handle a) w).state.pjsua.calls, callId ∈ w.pjsua.calls := by
  refine (Prog.run_invariant (Cmd.handle a)
    (I := fun w' => ∀ callId ∈ w'.pjsua.calls, callId ∈ w.pjsua.calls)
    (φ := fun _ => True) (fun c w' h => ⟨?_, fun _ _ => trivial⟩) p fun _ => id).1
  cases c with
  | api c =>
    change ∀ callId ∈ (w'.pjsua.after c _).calls, _
    rw [calls_after]
    split
    · simp
    · exact h
  | endCall callId => exact fun c hc => h c (List.mem_of_mem_filter hc)
  | _ => exact h

/-! ## Histories -/

theorem Session.step_op_callId (o : Op) (a : Answers) (locals : Locals) (s : Session) :
    (s.step ⟨.op o, a, locals⟩).callId = s.callId := by
  have hput : ∀ (cfg : PjsuaAccConfig) (s : Session), (s.putAccount a cfg).callId = s.callId := by
    intro cfg s
    unfold Session.putAccount
    split
    · split <;> rfl
    · rfl
  cases o with
  | registerWithNumber number host credentials =>
    change (s.registerWithNumber a _).callId = s.callId
    unfold Session.registerWithNumber
    split
    · exact hput _ s
    · split
      · exact hput _ (s.setUp a)
      · rfl
  | handleIpChange transport =>
    change (s.handleIpChange a locals transport).callId = s.callId
    unfold Session.handleIpChange
    split <;> rfl
  | _ => rfl

theorem callId_step (st : Step) (w : World) :
    (World.step st w).state.vars.callId =
      (lastSeen announced (World.step st w).events).getD w.vars.callId := by
  have hsession := congrArg Session.callId (session_step st w)
  obtain ⟨act, a, locals⟩ := st
  cases act with
  | op o =>
    have hnone := lastSeen_eq_none (announced_run (o.program locals) a w)
    rw [step_op] at hsession ⊢
    rw [hnone]
    exact hsession.trans (Session.step_op_callId o a locals w.session)
  | callback cb =>
    by_cases h : w.pjsua.state = .running
    · rw [step_callback_of_running cb a locals h] at hsession ⊢
      rw [Outcome.andThen_events, lastSeen_append, lastSeen_eq_none (announced_run _ a _)]
      apply hsession.trans
      cases cb <;> simp [Session.step, World.session, lastSeen, announced, h]
    · rw [step_callback_of_not_running cb a locals h]
      rfl

/-- **The current call** is the call announced last, or zero. -/
theorem callId_eq_lastAnnounced (config : CTSoftPhoneConfig) (steps : List Step) :
    (worldAfter config steps).vars.callId = (lastAnnounced config steps).getD 0 :=
  phone.view_after (fun w => w.vars.callId) callId_step (World.initial config) steps

theorem lastAnnounced_nonneg {config : CTSoftPhoneConfig} {steps : List Step} {callId : ℤ}
    (h : lastAnnounced config steps = some callId) : 0 ≤ callId := by
  obtain ⟨e, -, he⟩ := exists_mem_of_lastSeen_eq_some h
  unfold announced at he
  split at he
  · exact Option.some.inj he ▸ Int.natCast_nonneg _
  · exact absurd he (by simp)

/-- `callId` is never negative. -/
theorem callId_nonneg (config : CTSoftPhoneConfig) (steps : List Step) :
    0 ≤ (worldAfter config steps).vars.callId := by
  rw [callId_eq_lastAnnounced]
  cases hlast : lastAnnounced config steps with
  | none => decide
  | some c => exact lastAnnounced_nonneg hlast

/-- A step adds no live call, unless it announces it. -/
theorem calls_step_subset (st : Step) (w : World) :
    ∀ c ∈ (World.step st w).state.pjsua.calls,
      c ∈ w.pjsua.calls ∨ ∃ e ∈ (World.step st w).events, announced e = some c := by
  obtain ⟨act, a, locals⟩ := st
  cases act with
  | op o => exact fun c hc => .inl (mem_calls_of_run _ a w c hc)
  | callback cb =>
    by_cases h : w.pjsua.state = .running
    · rw [step_callback_of_running cb a locals h]
      intro c hc
      have hc' : c ∈ (w.pjsua.raise cb).calls := mem_calls_of_run _ a _ c hc
      cases cb with
      -- the callback itself announces the new call
      | incomingCall callId =>
        rcases List.mem_insert_iff.mp hc' with rfl | hc'
        · exact .inr ⟨_, List.mem_cons_self, rfl⟩
        · exact .inl hc'
      | callState callId state =>
        refine .inl ?_
        cases state <;> first | exact hc' | exact List.mem_of_mem_filter hc'
      | callMediaState callId => exact .inl hc'
      | regState2 info => exact .inl hc'
    · rw [step_callback_of_not_running cb a locals h]
      intro c hc
      exact .inl hc

/-- Every live call has been announced. -/
theorem announced_of_mem_calls (config : CTSoftPhoneConfig) (steps : List Step) :
    ∀ c ∈ (worldAfter config steps).pjsua.calls,
      ∃ e ∈ traceOf config steps, announced e = some c := by
  induction steps using List.reverseRecOn with
  | nil => exact fun c hc => absurd hc List.not_mem_nil
  | append_singleton steps st ih =>
    rw [worldAfter, traceOf, phone.after_snoc, phone.trace_snoc]
    intro c hc
    rcases calls_step_subset st _ c hc with hc | ⟨e, he, hec⟩
    · obtain ⟨e, he, hec⟩ := ih c hc
      exact ⟨e, List.mem_append_left _ he, hec⟩
    · exact ⟨e, List.mem_append_right _ he, hec⟩

theorem lastAnnounced_ne_none {config : CTSoftPhoneConfig} {steps : List Step} {c : ℤ}
    (h : c ∈ (worldAfter config steps).pjsua.calls) : lastAnnounced config steps ≠ none := by
  obtain ⟨e, he, hec⟩ := announced_of_mem_calls config steps c h
  exact lastSeen_ne_none he (by rw [hec]; exact Option.some_ne_none c)

/-! ## Hanging up -/

/-- A `hangup`, with the answers to it. -/
def hangupStep (r : Answers × Locals) : Step := ⟨.op .hangup, r.1, r.2⟩

theorem callId_hangup (a : Answers) (w : World) :
    (hangup.run (Cmd.handle a) w).state.vars.callId = w.vars.callId :=
  congrArg Session.callId (session_hangup a w)

/-- After any positive number of hangups, the live calls are those before less the current one. -/
theorem calls_hangups (w : World) (r : Answers × Locals) (rs : List (Answers × Locals)) :
    (phone.after w (hangupStep r :: rs.map hangupStep)).vars.callId = w.vars.callId ∧
    (phone.after w (hangupStep r :: rs.map hangupStep)).pjsua.calls =
      w.pjsua.calls.filter fun c => c ≠ w.vars.callId := by
  induction rs using List.reverseRecOn with
  | nil => exact ⟨callId_hangup r.1 w, calls_hangup r.1 w⟩
  | append_singleton rs r' ih =>
    -- the next hangup addresses the same call again
    rw [List.map_append, List.map_singleton, ← List.cons_append, phone.after_snoc]
    obtain ⟨hcall, hcalls⟩ := ih
    refine ⟨(callId_hangup r'.1 _).trans hcall, (calls_hangup r'.1 _).trans ?_⟩
    rw [hcall, hcalls, List.filter_filter]
    simp

theorem length_filter_lt_iff (l : List ℤ) (c : ℤ) :
    (l.filter fun d => d ≠ c).length < l.length ↔ c ∈ l := by
  rw [List.length_filter_lt_length_iff_exists]
  simp

/-- **Hangups** end the call announced last, if it is live, and no other, however many there are:
the number of live calls decreases exactly in that case. -/
theorem hangups_end_lastAnnounced (config : CTSoftPhoneConfig) (steps : List Step)
    (r : Answers × Locals) (rs : List (Answers × Locals)) :
    (∀ c, c ∈ (worldAfter config (steps ++ hangupStep r :: rs.map hangupStep)).pjsua.calls ↔
      c ∈ (worldAfter config steps).pjsua.calls ∧ lastAnnounced config steps ≠ some c) ∧
    ((worldAfter config (steps ++ hangupStep r :: rs.map hangupStep)).pjsua.calls.length <
        (worldAfter config steps).pjsua.calls.length ↔
      ∃ c, lastAnnounced config steps = some c ∧ c ∈ (worldAfter config steps).pjsua.calls) := by
  have hcalls := (calls_hangups (worldAfter config steps) r rs).2
  have hcall := callId_eq_lastAnnounced config steps
  rw [worldAfter, phone.after_append, hcalls, length_filter_lt_iff, hcall]
  cases hlast : lastAnnounced config steps with
  | none =>
    have hnil : ∀ c, c ∉ (worldAfter config steps).pjsua.calls := fun c hc =>
      lastAnnounced_ne_none hc hlast
    simp [hnil]
  | some c' =>
    constructor
    · intro c
      simp [eq_comm (a := c) (b := c')]
    · simp

/-- With two live calls, a second hangup ends neither. -/
theorem not_every_hangup_ends_a_call :
    (worldAfter ⟨5060, .udp⟩
      [(Act.op (.registerWithNumber [] [] [])).answered .success,
        (Act.callback (.incomingCall 0)).answered .success,
        (Act.callback (.incomingCall 1)).answered .success,
        (Act.op .hangup).answered .success]).pjsua.calls = [0] ∧
    (worldAfter ⟨5060, .udp⟩
      [(Act.op (.registerWithNumber [] [] [])).answered .success,
        (Act.callback (.incomingCall 0)).answered .success,
        (Act.callback (.incomingCall 1)).answered .success,
        (Act.op .hangup).answered .success,
        (Act.op .hangup).answered .success]).pjsua.calls = [0] := by
  decide

end CTSoftPhone
