import CTSoftPhone.Calls.Live

/-!
# Attributing the effects of a callback

`on_call_state` and `on_call_media_state` query the call they are raised for, and act on the call
information. The query may fail, which neither of them checks; the information is then that of
another call, or what was there at start-up. What a callback delivers and connects is thus owed to
its own call exactly when the query succeeds. This goes for the callbacks of calls that end inside
an operation as well: there `on_call_state` is raised once for each, and queries it.

## Main definitions

* `Event.queried`: the query that an event is, with its reply
* `Act.IsCallEffect`, `Act.effects`: the effects of the callbacks in a step, and those that
  information on a call prescribes
* `Step.Attributed`: every effect is owed to the query before it, of a call that is reported on
* `ReportDue`, `QueriesSucceed`: the reports due in a step, and that their queries succeed

## Main results

* `reports_callback`, `reports_op`: what callbacks and operations ask about and report
* `along_attributed_iff`: all effects are attributed exactly when the queries succeed
-/

namespace CTSoftPhone

/-- The query of call information that an event is, with its reply. -/
def Event.queried : Event → Option (ℤ × Reply)
  | .api (.callGetInfo callId) _ reply => some (callId, reply)
  | _ => none

namespace Callback

/-- The call a callback reports on. -/
def reportsOn : Callback → Option ℤ
  | .callState callId _ | .callMediaState callId => some (callId : ℤ)
  | .incomingCall _ | .regState2 _ => none

/-- The effects that information on a call prescribes. -/
def effects (info : PjsuaCallInfo) : Callback → List Event
  | .callState .. => [.notified (.call info.state.toCallState)]
  | .callMediaState _ =>
    info.connectEvents .running ++ [.notified (.call info.mediaStatus.toCallState)]
  | .incomingCall _ | .regState2 _ => []

end Callback

namespace Act

/-- The effects of the callbacks raised in a step: the call states delivered, and the changes of the
connections. Those that an operation changes, it changes itself. -/
def IsCallEffect : Act → Event → Prop
  | _, .notified (.call _) => True
  | .callback _, .api (.confConnect ..) _ _ | .callback _, .api (.confDisconnect ..) _ _ => True
  | _, _ => False

/-- The effects that information on a call prescribes. Inside an operation, `on_call_state` is
raised. -/
def effects (info : PjsuaCallInfo) : Act → List Event
  | .callback cb => cb.effects info
  | .op _ => [.notified (.call info.state.toCallState)]

end Act

namespace Step

/-- A callback that reports on the call is raised in the step: it is the step, or the call ends in
an operation. -/
def ReportsOn (st : Step) (w : World) (callId : ℤ) : Prop :=
  match st.act with
  | .callback cb => cb.reportsOn = some callId
  | .op _ => callId ∈ w.pjsua.calls ∧ callId ∉ (World.step st w).state.pjsua.calls

/-- **Attribution**: before every effect in the step, the last query is of a call reported on, and
the information it returned prescribes the effect. A query that fails returns none. -/
def Attributed (st : Step) (w : World) : Prop :=
  OwedTo Event.queried st.act.IsCallEffect
    (fun q e => st.ReportsOn w q.1 ∧ ∃ info, q.2.info = some info ∧ e ∈ st.act.effects info)
    (World.step st w).events

/-- The step asks about the calls that are due, and reports on each what its query left. -/
structure Reports (st : Step) (w : World) (due : ℤ → Prop) : Prop where
  sound : OwedTo Event.queried st.act.IsCallEffect
    (fun q e => due q.1 ∧ ∃ ci, e ∈ st.act.effects (st.answers.info q.1 ci))
    (World.step st w).events
  complete : ∀ callId, due callId → ∃ pre e post reply,
    (World.step st w).events = pre ++ e :: post ∧ st.act.IsCallEffect e ∧
      lastSeen Event.queried pre = some (callId, reply)

/-- Queries return what the answers to the step say. -/
theorem queried_step (st : Step) (w : World) :
    ∀ e ∈ (World.step st w).events, ∀ q, e.queried = some q →
      q.2 = .ofInfo (st.answers.callGetInfo q.1) (st.answers.callInfo q.1) := by
  have hrun : ∀ {α : Type} (p : Phone α) (w : World),
      ∀ e ∈ (p.run (Cmd.handle st.answers) w).events, ∀ q, e.queried = some q →
        q.2 = .ofInfo (st.answers.callGetInfo q.1) (st.answers.callInfo q.1) := by
    intro α p w
    refine (Prog.run_invariant (Cmd.handle st.answers) (I := fun _ => True)
      (fun c w _ => ⟨trivial, ?_⟩) p trivial).2
    cases c with
    | api c => cases c <;> simp [Cmd.handle, Event.queried, Pjsua.reply]
    | _ => simp [Cmd.handle, Event.queried]
  obtain ⟨act, a, locals⟩ := st
  cases act with
  | op o => exact hrun _ w
  | callback cb =>
    by_cases hstate : w.pjsua.state = .running
    · rw [step_callback_of_running cb a locals hstate, Outcome.andThen_events]
      rintro e (_ | ⟨_, he⟩) q hq
      · cases hq
      · exact hrun _ _ e he q hq
    · rw [step_callback_of_not_running cb a locals hstate]
      exact fun e he => absurd he List.not_mem_nil

/-- What is reported is attributed exactly when the queries that are due succeed. -/
theorem Reports.attributed_iff {st : Step} {w : World} {due : ℤ → Prop} (h : st.Reports w due)
    (hdue : ∀ callId, due callId → st.ReportsOn w callId) :
    st.Attributed w ↔ ∀ callId, due callId → st.answers.callGetInfo callId = pjSuccess := by
  have hreply : ∀ {pre post : List Event} {e : Event} {q : ℤ × Reply},
      (World.step st w).events = pre ++ e :: post → lastSeen Event.queried pre = some q →
        q.2.info = if st.answers.callGetInfo q.1 = pjSuccess then some (st.answers.callInfo q.1)
          else none := by
    intro pre post e q he hq
    obtain ⟨e', he', hq'⟩ := exists_mem_of_lastSeen_eq_some hq
    rw [st.queried_step w e' (he ▸ List.mem_append_left _ he') q hq', Reply.ofInfo_info]
  constructor
  · intro hattr callId hcall
    obtain ⟨pre, e, post, reply, he, heffect, hlast⟩ := h.complete callId hcall
    obtain ⟨q, hq, -, info, hinfo, -⟩ := hattr pre e post he heffect
    obtain rfl := Option.some.inj (hlast.symm.trans hq)
    by_contra hfailed
    -- a failed query returns nothing to derive the effect from
    rw [hreply he hq, if_neg hfailed] at hinfo
    cases hinfo
  · intro hok pre e post he heffect
    obtain ⟨q, hq, hcall, ci, hmem⟩ := h.sound pre e post he heffect
    -- what the query left in the global is then what it returned
    rw [Answers.info, if_pos (hok q.1 hcall)] at hmem
    refine ⟨q, hq, hdue q.1 hcall, st.answers.callInfo q.1, ?_, hmem⟩
    rw [hreply he hq, if_pos (hok q.1 hcall)]

end Step

/-! ## Callbacks -/

section Callback

variable {cb : Callback} {callId : ℤ} {w : World} (a : Answers) (locals : Locals)

theorem queried_of_mem_effects {info : PjsuaCallInfo} {e : Event} (h : e ∈ cb.effects info) :
    e.queried = none := by
  cases cb with
  | callState c state =>
    obtain rfl := List.mem_singleton.mp h
    rfl
  | callMediaState c =>
    rcases List.mem_append.mp h with h | h
    · unfold PjsuaCallInfo.connectEvents at h
      -- two connections when active, one disconnection without media, nothing else
      split at h
      · rcases List.mem_pair.mp h with rfl | rfl <;> rfl
      · obtain rfl := List.mem_singleton.mp h
        rfl
      all_goals exact absurd h List.not_mem_nil
    · obtain rfl := List.mem_singleton.mp h
      rfl
  | incomingCall c => exact absurd h List.not_mem_nil
  | regState2 info => exact absurd h List.not_mem_nil

/-- Every report delivers a call state. -/
theorem exists_notified_mem_effects (h : cb.reportsOn = some callId) (info : PjsuaCallInfo) :
    ∃ state, .notified (.call state) ∈ cb.effects info := by
  cases cb with
  | callState c state => exact ⟨_, List.mem_singleton_self _⟩
  | callMediaState c => exact ⟨_, List.mem_append_right _ (List.mem_singleton_self _)⟩
  | incomingCall c => cases h
  | regState2 info => cases h

/-- **A callback that reports on a call** queries it, and does what the call information then
prescribes. -/
theorem events_report (hrun : w.pjsua.state = .running) (hcall : cb.reportsOn = some callId) :
    (World.step ⟨.callback cb, a, locals⟩ w).events =
      .raised cb ::
        .api (.callGetInfo callId) .running (.ofInfo (a.callGetInfo callId) (a.callInfo callId)) ::
          cb.effects (a.info callId w.vars.ci) := by
  cases cb with
  | callState c state =>
    obtain rfl := Option.some.inj hcall
    exact events_callState hrun c a locals state
  | callMediaState c =>
    obtain rfl := Option.some.inj hcall
    exact events_callMediaState hrun c a locals
  | incomingCall c => cases hcall
  | regState2 info => cases hcall

/-- The other callbacks have no such effects. -/
theorem not_isCallEffect_of_reportsOn_eq_none (hcall : cb.reportsOn = none) :
    ∀ e ∈ (World.step ⟨.callback cb, a, locals⟩ w).events,
      ¬ (Act.callback cb).IsCallEffect e := by
  by_cases hrun : w.pjsua.state = .running
  · rw [step_callback_of_running cb a locals hrun, Outcome.andThen_events]
    cases cb with
    | incomingCall c =>
      simp [Callback.program, onIncomingCall, setCallid, Act.IsCallEffect]
    | regState2 info =>
      rw [Callback.program, onRegState2, Prog.run_ite]
      split <;> simp [Act.IsCallEffect]
    | callState c state => cases hcall
    | callMediaState c => cases hcall
  · rw [step_callback_of_not_running cb a locals hrun]
    exact fun e he => absurd he List.not_mem_nil

/-- A callback of a running library reports on its call, if it has one. -/
theorem reports_callback (hrun : w.pjsua.state = .running) :
    Step.Reports ⟨.callback cb, a, locals⟩ w fun callId => cb.reportsOn = some callId := by
  cases hcall : cb.reportsOn with
  | none =>
    -- an incoming call, or a registration, is told without a query
    refine ⟨.of_not_kind (not_isCallEffect_of_reportsOn_eq_none a locals hcall), ?_⟩
    exact fun callId hsome => absurd hsome (Option.some_ne_none callId).symm
  | some callId =>
    have hevents := events_report a locals hrun hcall
    constructor
    · rw [hevents, ← List.singleton_append]
      refine (OwedTo.of_not_kind fun e he heffect => ?_).append (.cons id rfl ?_ ?_)
      · obtain rfl := List.mem_singleton.mp he
        exact heffect
      · exact fun e he => queried_of_mem_effects he
      · exact fun e he _ => ⟨rfl, w.vars.ci, he⟩
    · intro callId' hcall'
      obtain rfl := Option.some.inj hcall'
      -- a call state is delivered in any case
      obtain ⟨state, hstate⟩ := exists_notified_mem_effects hcall (a.info callId w.vars.ci)
      obtain ⟨xs, ys, hsplit⟩ := List.append_of_mem hstate
      have hxs : ∀ e ∈ xs, e.queried = none := fun e he =>
        queried_of_mem_effects (hsplit ▸ List.mem_append_left _ he)
      rw [hsplit, ← List.cons_append, ← List.cons_append] at hevents
      refine ⟨_, _, ys, .ofInfo (a.callGetInfo callId) (a.callInfo callId), hevents, ?_, ?_⟩
      · trivial
      · have hquery : ∀ reply, (Event.api (.callGetInfo callId) .running reply).queried =
            some (callId, reply) := fun _ => rfl
        rw [← List.singleton_append, lastSeen_append, lastSeen_cons_of_none (hquery _) hxs]
        rfl

end Callback

/-! ## Operations -/

section Operations

variable (a : Answers)

/-- The call that a sight asks about. -/
def Sight.asks : Sight → Option ℤ
  | .asked callId => some callId
  | .told _ => none

/-- A call state told. -/
def Sight.IsCall : Sight → Prop
  | .told (.call _) => True
  | _ => False

/-- Every call state told is what the query before it left, of a call that is over. -/
def tellsEnded (a : Answers) : RunRelation Reporter Sight where
  rel r es r' := r'.line.calls ⊆ r.line.calls ∧
    OwedTo Sight.asks Sight.IsCall (fun callId x => (callId ∈ r.line.calls ∧
      callId ∉ r'.line.calls) ∧ ∃ ci, x = .told (.call (a.info callId ci).state.toCallState)) es
  refl r := ⟨List.Subset.refl _, .of_not_kind fun _ h => absurd h List.not_mem_nil⟩
  trans := by
    rintro r r' r'' es es' ⟨hcalls, howed⟩ ⟨hcalls', howed'⟩
    refine ⟨List.Subset.trans hcalls' hcalls, ?_⟩
    refine (howed.mono ?_).append (howed'.mono ?_)
    -- a call that is over stays over, and one that is live was live before
    · rintro callId x ⟨⟨hlive, hover⟩, hx⟩
      exact ⟨⟨hlive, fun h => hover (hcalls' h)⟩, hx⟩
    · rintro callId x ⟨⟨hlive, hover⟩, hx⟩
      exact ⟨⟨hcalls hlive, hover⟩, hx⟩

namespace Reporter

theorem tellsEnded_endCall (r : Reporter) (callId : ℤ) :
    (tellsEnded a).rel r (r.endCall a callId).events (r.endCall a callId).state := by
  rw [endCall]
  split
  · next hlive =>
    refine ⟨?_, .cons id rfl ?_ ?_⟩
    · dsimp only [report]
      rw [Line.calls_remove]
      exact List.filter_subset_self _
    · simp [Sight.asks]
    · intro x hx _
      obtain rfl := List.mem_singleton.mp hx
      dsimp only [report]
      rw [Line.calls_remove]
      exact ⟨⟨hlive, by simp⟩, r.ci, rfl⟩
  · exact (tellsEnded a).refl r

theorem tellsEnded_endCalls (r : Reporter) (cs : List ℤ) :
    (tellsEnded a).rel r (r.endCalls a cs).events (r.endCalls a cs).state := by
  induction cs generalizing r with
  | nil => exact (tellsEnded a).refl r
  | cons c cs ih => exact (tellsEnded a).trans (tellsEnded_endCall a r c) (ih _)

/-- A registration told, and a line with no further calls. -/
theorem tellsEnded_of_subset {r r' : Reporter} {es : List Sight}
    (hcalls : r'.line.calls ⊆ r.line.calls) (htold : ∀ x ∈ es, ¬ x.IsCall) :
    (tellsEnded a).rel r es r' := ⟨hcalls, .of_not_kind htold⟩

theorem tellsEnded_close (r : Reporter) {line : Line} (hline : line.calls = [])
    (state : CTSoftPhoneRegistrationState) :
    (tellsEnded a).rel r (r.close a line state).events (r.close a line state).state := by
  refine (tellsEnded a).trans (tellsEnded_endCalls a r r.line.calls)
    (tellsEnded_of_subset a ?_ ?_)
  · change line.calls ⊆ _
    rw [hline]
    exact List.nil_subset _
  · simp [Sight.IsCall]

/-- **An operation** tells of the calls that end in it, and asks about each before. -/
theorem tellsEnded_op (o : Op) (locals : Locals) (r : Reporter) :
    (tellsEnded a).rel r (r.step ⟨.op o, a, locals⟩).events
      (r.step ⟨.op o, a, locals⟩).state := by
  cases o with
  | registerWithNumber number host credentials =>
    dsimp only [step]
    split
    · exact (tellsEnded a).refl r
    · exact tellsEnded_close a r rfl .fail
  | destroy => exact tellsEnded_close a r rfl .destroyed
  | hangup => exact tellsEnded_endCall a r r.callId
  | _ => exact (tellsEnded a).refl r

end Reporter

theorem sight_bind_asks (e : Event) : e.sight.bind Sight.asks = e.queried.map Prod.fst := by
  cases e with
  | api c state reply => cases c <;> rfl
  | _ => rfl

theorem isCallEffect_op_iff (o : Op) (e : Event) :
    (Act.op o).IsCallEffect e ↔ ∃ x, e.sight = some x ∧ x.IsCall := by
  cases e with
  | notified n => cases n <;> simp [Act.IsCallEffect, Event.sight, Sight.IsCall]
  | api c state reply => cases c <;> simp [Act.IsCallEffect, Event.sight, Sight.IsCall]
  | raised cb => simp [Act.IsCallEffect, Event.sight]

/-- What is asked last is what is queried last. -/
theorem lastSeen_asks_eq_some {es : List Event} {callId : ℤ} :
    lastSeen (fun e => e.sight.bind Sight.asks) es = some callId ↔
      ∃ reply, lastSeen Event.queried es = some (callId, reply) := by
  rw [funext sight_bind_asks, lastSeen_map, Option.map_eq_some_iff]
  constructor
  · rintro ⟨q, hq, rfl⟩
    exact ⟨q.2, hq⟩
  · rintro ⟨reply, hq⟩
    exact ⟨_, hq, rfl⟩

/-- **An operation** reports on the calls that end in it. -/
theorem reports_op {w : World} {r : Reporter} (h : w.RefinedBy r) (o : Op) (locals : Locals) :
    Step.Reports ⟨.op o, a, locals⟩ w (Step.ReportsOn ⟨.op o, a, locals⟩ w) := by
  have hshows := shows_step h.1 h.2 ⟨.op o, a, locals⟩
  have hbefore := h.1.calls_eq
  have hafter := hshows.state.calls_eq
  constructor
  · have howed := (r.tellsEnded_op a o locals).2
    rw [← hshows.events_eq] at howed
    intro pre e post he heffect
    obtain ⟨callId, hlast, x, hx, ⟨hlive, hover⟩, ci, rfl⟩ :=
      howed.of_filterMap pre e post he ((isCallEffect_op_iff o e).mp heffect)
    obtain ⟨reply, hq⟩ := lastSeen_asks_eq_some.mp hlast
    refine ⟨(callId, reply), hq, ⟨hbefore ▸ hlive, hafter ▸ hover⟩, ci, ?_⟩
    -- the only event that is seen so is the notification
    cases e with
    | notified n =>
      obtain rfl := Sight.told.inj (Option.some.inj hx)
      exact List.mem_singleton_self _
    | api c state reply => cases c <;> cases hx
    | raised cb => cases hx
  · rintro callId ⟨hlive, hover⟩
    obtain ⟨state, xs, ys, hsplit⟩ :=
      Reporter.endsReported_step r ⟨.op o, a, locals⟩ callId (hbefore ▸ hlive) (hafter ▸ hover)
    rw [← hshows.events_eq, List.append_assoc, List.cons_append, List.singleton_append,
      List.append_cons] at hsplit
    obtain ⟨pre, e, post, he, hx, hpre⟩ := exists_split_of_filterMap hsplit.symm
    have hlast : lastSeen (fun e => e.sight.bind Sight.asks) pre = some callId := by
      rw [lastSeen, ← List.filterMap_filterMap, hpre, List.filterMap_append, List.getLast?_append]
      rfl
    obtain ⟨reply, hq⟩ := lastSeen_asks_eq_some.mp hlast
    exact ⟨pre, e, post, reply, he, (isCallEffect_op_iff o e).mpr ⟨_, hx, trivial⟩, hq⟩

end Operations

/-! ## Histories -/

section Histories

variable (config : CTSoftPhoneConfig) (steps : List Step) (st : Step)

/-- A report on the call is due in the step after the history: its callback is raised by a running
library, or the step is an operation and ends the call, which is live. -/
def ReportDue (callId : ℤ) : Prop :=
  match st.act with
  | .callback cb => phaseAfter steps = .up ∧ cb.reportsOn = some callId
  | .op _ => callId ∈ (worldAfter config steps).pjsua.calls ∧ EndsCall config callId steps st

/-- The condition on a step: the query of every report that is due succeeds. -/
def QueriesSucceed : Prop :=
  ∀ callId, ReportDue config steps st callId → st.answers.callGetInfo callId = pjSuccess

/-- The effects in the step after the history are attributed. -/
def StepAttributed : Prop := st.Attributed (worldAfter config steps)

theorem reportsOn_op_iff (o : Op) (a : Answers) (locals : Locals) (callId : ℤ) :
    Step.ReportsOn ⟨.op o, a, locals⟩ (worldAfter config steps) callId ↔
      ReportDue config steps ⟨.op o, a, locals⟩ callId := by
  have hlive := live_snoc config callId steps ⟨.op o, a, locals⟩
  rw [worldAfter, phone.after_snoc] at hlive
  refine and_congr_right fun hmem => ?_
  refine (not_congr hlive).trans ?_
  simp [Announces, hmem]

theorem stepAttributed_iff : StepAttributed config steps st ↔ QueriesSucceed config steps st := by
  obtain ⟨act, a, locals⟩ := st
  cases act with
  | op o =>
    have hreports := reports_op a ((refinedBy_initial config).trace steps).1 o locals
    refine (hreports.attributed_iff fun _ => id).trans (forall_congr' fun callId => ?_)
    exact imp_congr_left (reportsOn_op_iff config steps o a locals callId)
  | callback cb =>
    by_cases hup : phaseAfter steps = .up
    · have hreports : Step.Reports ⟨.callback cb, a, locals⟩ _ _ :=
        reports_callback a locals (state_of_up config steps hup)
      refine (hreports.attributed_iff fun _ => id).trans (forall_congr' fun callId => ?_)
      exact imp_congr_left (and_iff_right hup).symm
    · -- a library that does not run raises nothing
      refine iff_of_true ?_ fun _ hdue => absurd hdue.1 hup
      have hrun := (state_eq_running_iff config steps).not.mpr hup
      rw [StepAttributed, Step.Attributed, step_callback_of_not_running cb a locals hrun]
      exact .of_not_kind fun e he => absurd he List.not_mem_nil

end Histories

/-- **Attribution**: whatever the operations and the order of the callbacks, every effect of a
callback is owed to information returned for its call, and none follows a failed query, exactly
when no query fails. -/
theorem along_attributed_iff (config : CTSoftPhoneConfig) (steps : List Step) :
    Along (StepAttributed config) steps ↔ Along (QueriesSucceed config) steps :=
  along_congr (stepAttributed_iff config)

/-- A second call, whose query fails, is reported with what was returned for the first. -/
theorem not_along_attributed :
    ¬ Along (StepAttributed ⟨5060, .udp⟩)
      [(Act.op (.registerWithNumber [] [] [])).answered .success,
        (Act.callback (.callMediaState 0)).answered .success,
        (Act.callback (.callMediaState 1)).answered
          { Answers.success with callGetInfo := fun _ => pjEInvalidOp }] := by
  intro h
  have hlast := h
    [(Act.op (.registerWithNumber [] [] [])).answered .success,
      (Act.callback (.callMediaState 0)).answered .success] _ List.prefix_rfl
  have hqueries := (stepAttributed_iff ⟨5060, .udp⟩ _ _).mp hlast
  exact absurd (hqueries 1 ⟨by decide, rfl⟩) (by decide)

end CTSoftPhone
