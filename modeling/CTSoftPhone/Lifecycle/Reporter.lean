import CTSoftPhone.Calls.Delivery
import CTSoftPhone.Session.Phase

/-!
# The reporter

What the delegate is told, and which call is asked about before, is decided by little: whether the
phone is down, up or stale, the live calls while it is up, the current call, and the call
information that the last query left. The reporter is a machine over these alone. It knows of no
account, of no transport and of none of the functions that set the library up.

## Main definitions

* `Sight`: a query of call information, or a notification
* `Reporter`, `reporter`: what decides them, and the machine that emits them

## Main results

* `reporter_asks_of_ended`: a call that is live and later not is asked about and reported in between
* `reporter_of_closed`: while the phone is not up, nothing but refusals is reported
-/

namespace CTSoftPhone

/-- A query of call information, or a notification of the delegate. -/
inductive Sight
  | asked (callId : ℤ)
  | told (n : Notification)
  deriving DecidableEq, Repr

/-- What of an event is seen. -/
def Event.sight : Event → Option Sight
  | .api (.callGetInfo callId) _ _ => some (.asked callId)
  | .notified n => some (.told n)
  | _ => none

/-- The phone is down, up with its live calls, or stale. Without a running library there are no
calls. -/
inductive Line
  | down
  | up (calls : List ℤ)
  | stale
  deriving DecidableEq, Repr

namespace Line

/-- The phase of the phone. -/
def phase : Line → Phase
  | .down => .down
  | .up _ => .up
  | .stale => .stale

/-- The live calls. -/
def calls : Line → List ℤ
  | .up calls => calls
  | .down | .stale => []

/-- A call is over. -/
def remove (callId : ℤ) : Line → Line
  | .up calls => .up (calls.filter fun c => c ≠ callId)
  | .down => .down
  | .stale => .stale

@[simp] theorem phase_remove (callId : ℤ) (l : Line) : (l.remove callId).phase = l.phase := by
  cases l <;> rfl

@[simp] theorem calls_remove (callId : ℤ) (l : Line) :
    (l.remove callId).calls = l.calls.filter fun c => c ≠ callId := by
  cases l <;> rfl

end Line

/-- What `on_reg_state2` makes of a registration. -/
def PjsipRegcCbparam.toRegistrationState (info : PjsipRegcCbparam) : CTSoftPhoneRegistrationState :=
  if info.status = pjSuccess ∧ info.code / 100 = 2 ∧ 0 < info.expiration ∧ 0 < info.contactCnt then
    .success
  else .fail

/-- The state of the line, the current call and the information that the last query left. -/
structure Reporter where
  line : Line
  callId : ℤ
  ci : PjsuaCallInfo
  deriving DecidableEq, Repr

namespace Reporter

/-- Nothing has happened yet. -/
def initial : Reporter := ⟨.down, 0, ⟨.null, .none, 0⟩⟩

/-- Nothing is seen, and nothing changes. -/
def silent (r : Reporter) : Outcome Unit Reporter Sight := ⟨(), r, []⟩

/-- A call is asked about, and its state reported. A query that fails reports what was left. -/
def report (a : Answers) (callId : ℤ) (r : Reporter) : Outcome Unit Reporter Sight :=
  let ci := a.info callId r.ci
  ⟨(), { r with ci := ci }, [.asked callId, .told (.call ci.state.toCallState)]⟩

/-- A call is asked about, and the state of its media reported. -/
def reportMedia (a : Answers) (callId : ℤ) (r : Reporter) : Outcome Unit Reporter Sight :=
  let ci := a.info callId r.ci
  ⟨(), { r with ci := ci }, [.asked callId, .told (.call ci.mediaStatus.toCallState)]⟩

/-- A live call ends. -/
def endCall (a : Answers) (callId : ℤ) (r : Reporter) : Outcome Unit Reporter Sight :=
  if callId ∈ r.line.calls then report a callId { r with line := r.line.remove callId }
  else r.silent

/-- Calls end one after another. -/
def endCalls (a : Answers) : List ℤ → Reporter → Outcome Unit Reporter Sight
  | [], r => r.silent
  | c :: cs, r => (r.endCall a c).andThen fun _ r => r.endCalls a cs

/-- The live calls end, and then the delegate is told of the registration. -/
def close (a : Answers) (line : Line) (state : CTSoftPhoneRegistrationState) (r : Reporter) :
    Outcome Unit Reporter Sight :=
  (r.endCalls a r.line.calls).andThen fun _ r =>
    ⟨(), { r with line := line }, [.told (.registration state)]⟩

/-- A callback while the phone is up with some calls. -/
def raised (a : Answers) (calls : List ℤ) (r : Reporter) : Callback → Outcome Unit Reporter Sight
  | .incomingCall callId => silent { r with line := .up (calls.insert callId), callId := callId }
  | .callState callId state =>
    report a callId { r with
      line := if state = .disconnected then r.line.remove callId else r.line }
  | .callMediaState callId => r.reportMedia a callId
  | .regState2 info => ⟨(), r, [.told (.registration info.toRegistrationState)]⟩

/-- A step. -/
def step (st : Step) (r : Reporter) : Outcome Unit Reporter Sight :=
  match st.act with
  | .op (.registerWithNumber ..) =>
    if r.line.phase.RegisterOk st.answers then silent { r with line := .up r.line.calls }
    else r.close st.answers .stale .fail
  | .op .destroy => r.close st.answers .down .destroyed
  | .op .hangup => r.endCall st.answers r.callId
  | .op (.handleIpChange _) | .op .answercall | .op .mute | .op .unmute => r.silent
  | .callback cb =>
    match r.line with
    | .up calls => r.raised st.answers calls cb
    | .down | .stale => r.silent

theorem phase_endCall (a : Answers) (callId : ℤ) (r : Reporter) :
    (r.endCall a callId).state.line.phase = r.line.phase := by
  rw [endCall]
  split
  · exact Line.phase_remove callId r.line
  · rfl

/-- A step of the reporter is a step of its phase. -/
theorem phase_step (st : Step) (r : Reporter) :
    (r.step st).state.line.phase = r.line.phase.step st := by
  obtain ⟨act, a, locals⟩ := st
  cases act with
  | op o =>
    cases o with
    | registerWithNumber number host credentials =>
      dsimp only [step, Phase.step]
      split <;> rfl
    | hangup => exact phase_endCall a r.callId r
    | _ => rfl
  | callback cb =>
    cases hline : r.line with
    | down => simp only [step, hline, silent, Phase.step]
    | stale => simp only [step, hline, silent, Phase.step]
    | up calls =>
      simp only [step, hline, Phase.step]
      cases cb with
      | callState callId state =>
        dsimp only [raised, report]
        split
        · rw [Line.phase_remove, hline]
        · rw [hline]
      | incomingCall callId => rfl
      | callMediaState callId => exact congrArg Line.phase hline
      | regState2 info => exact congrArg Line.phase hline

end Reporter

/-- The reporter, driven by the steps of the phone. -/
def reporter : Machine Reporter Step Sight := ⟨Reporter.step⟩

/-! ## Calls that end -/

/-- Every call that is over is asked about, and its state reported right after. -/
def endsReported : RunRelation Reporter Sight where
  rel r es r' := ∀ callId ∈ r.line.calls, callId ∉ r'.line.calls →
    ∃ state, [.asked callId, .told (.call state)] <:+: es
  refl r callId hlive hover := absurd hlive hover
  trans {r r' r'' es es'} h h' callId hlive hover := by
    by_cases hmid : callId ∈ r'.line.calls
    · obtain ⟨state, hin⟩ := h' callId hmid hover
      exact ⟨state, hin.trans (List.suffix_append es es').isInfix⟩
    · obtain ⟨state, hin⟩ := h callId hlive hmid
      exact ⟨state, hin.trans (List.prefix_append es es').isInfix⟩

namespace Reporter

variable (a : Answers) (r : Reporter)

theorem endsReported_of_subset {es : List Sight} {r r' : Reporter}
    (h : r.line.calls ⊆ r'.line.calls) : endsReported.rel r es r' :=
  fun _ hlive hover => absurd (h hlive) hover

theorem endsReported_report {callId : ℤ} {line : Line}
    (h : ∀ c ∈ r.line.calls, c ∉ line.calls → c = callId) :
    endsReported.rel r (report a callId { r with line := line }).events
      (report a callId { r with line := line }).state := by
  intro c hlive hover
  rw [h c hlive hover]
  exact ⟨_, List.infix_rfl⟩

theorem eq_of_notMem_remove {l : Line} {c callId : ℤ} (hlive : c ∈ l.calls)
    (hover : c ∉ (l.remove callId).calls) : c = callId := by
  rw [Line.calls_remove] at hover
  by_contra hne
  exact hover (List.mem_filter.mpr ⟨hlive, decide_eq_true hne⟩)

theorem endsReported_endCall (callId : ℤ) :
    endsReported.rel r (r.endCall a callId).events (r.endCall a callId).state := by
  rw [endCall]
  split
  · exact endsReported_report a r fun c hlive hover => eq_of_notMem_remove hlive hover
  · exact endsReported.refl r

theorem endsReported_endCalls (cs : List ℤ) :
    endsReported.rel r (r.endCalls a cs).events (r.endCalls a cs).state := by
  induction cs generalizing r with
  | nil => exact endsReported.refl r
  | cons c cs ih => exact endsReported.trans (endsReported_endCall a r c) (ih _)

/-- Ending calls leaves the others. -/
theorem calls_endCalls (cs : List ℤ) :
    (r.endCalls a cs).state.line.calls = r.line.calls.filter fun c => c ∉ cs := by
  induction cs generalizing r with
  | nil => simp [endCalls, silent]
  | cons c cs ih =>
    rw [endCalls, Outcome.andThen_state, ih, endCall]
    by_cases hc : c ∈ r.line.calls
    · rw [if_pos hc, report, Line.calls_remove, List.filter_filter]
      refine List.filter_congr fun d _ => ?_
      simp [Bool.and_comm]
    · rw [if_neg hc, silent]
      refine List.filter_congr fun d hd => ?_
      simp [show d ≠ c from fun he => hc (he ▸ hd)]

theorem endsReported_close (line : Line) (state : CTSoftPhoneRegistrationState) :
    endsReported.rel r (r.close a line state).events (r.close a line state).state := by
  refine endsReported.trans (endsReported_endCalls a r r.line.calls)
    (endsReported_of_subset fun c hc => ?_)
  -- no call is left
  rw [calls_endCalls] at hc
  simp at hc

theorem endsReported_step (st : Step) :
    endsReported.rel r (r.step st).events (r.step st).state := by
  obtain ⟨act, a, locals⟩ := st
  cases act with
  | op o =>
    cases o with
    | registerWithNumber number host credentials =>
      dsimp only [step]
      split
      · exact endsReported_of_subset (List.Subset.refl _)
      · exact endsReported_close a r _ _
    | destroy => exact endsReported_close a r _ _
    | hangup => exact endsReported_endCall a r r.callId
    | _ => exact endsReported.refl r
  | callback cb =>
    cases hline : r.line with
    | down =>
      simp only [step, hline]
      exact endsReported.refl r
    | stale =>
      simp only [step, hline]
      exact endsReported.refl r
    | up calls =>
      simp only [step, hline]
      cases cb with
      | incomingCall callId =>
        refine endsReported_of_subset ?_
        rw [hline]
        exact fun c hc => List.mem_insert_of_mem hc
      | callState callId state =>
        refine endsReported_report a r fun c hlive hover => ?_
        by_cases hs : state = .disconnected
        · rw [if_pos hs] at hover
          exact eq_of_notMem_remove hlive hover
        · rw [if_neg hs] at hover
          exact absurd hlive hover
      | callMediaState callId => exact endsReported_of_subset (List.Subset.refl _)
      | regState2 info => exact endsReported_of_subset (List.Subset.refl _)

end Reporter

/-- **A call that ends** is asked about, and its state is reported right after. -/
theorem reporter_asks_of_ended (r : Reporter) (steps : List Step) :
    endsReported.rel r (reporter.trace r steps) (reporter.after r steps) :=
  reporter.rel_after endsReported (fun st r => r.endsReported_step st) r steps

/-! ## A closed line -/

/-- What a step shows while the line is closed: a registration fails, and a destroy is confirmed. -/
def Step.refusal (st : Step) : List Sight :=
  match st.act with
  | .op (.registerWithNumber ..) => [.told (.registration .fail)]
  | .op .destroy => [.told (.registration .destroyed)]
  | _ => []

theorem Line.calls_of_closed {l : Line} (h : l.phase ≠ .up) : l.calls = [] := by
  cases l with
  | up calls => exact absurd rfl h
  | down => rfl
  | stale => rfl

theorem Reporter.step_of_closed {st : Step} {r : Reporter} (h : r.line.phase ≠ .up)
    (h' : (r.step st).state.line.phase ≠ .up) : (r.step st).events = st.refusal := by
  obtain ⟨act, a, locals⟩ := st
  have hcalls := Line.calls_of_closed h
  have hclose : ∀ line state, (r.close a line state).events = [.told (.registration state)] :=
    fun line state => by rw [close, hcalls]; rfl
  cases act with
  | op o =>
    cases o with
    | registerWithNumber number host credentials =>
      rw [phase_step] at h'
      by_cases hok : r.line.phase.RegisterOk a
      · exact absurd (if_pos hok) h'
      · rw [Reporter.step, if_neg hok]
        exact hclose .stale .fail
    | destroy => exact hclose .down .destroyed
    | hangup =>
      rw [Reporter.step, endCall, hcalls, if_neg List.not_mem_nil]
      rfl
    | _ => rfl
  | callback cb =>
    cases hline : r.line with
    | up calls => exact absurd (congrArg Line.phase hline) h
    | down => simp only [Reporter.step, hline, silent, Step.refusal]
    | stale => simp only [Reporter.step, hline, silent, Step.refusal]

/-- **A closed line** shows the refusals only. -/
theorem reporter_of_closed {r : Reporter} {steps : List Step}
    (h : Always (fun js => (reporter.after r js).line.phase ≠ .up) steps) :
    reporter.trace r steps = steps.flatMap Step.refusal := by
  induction steps using List.reverseRecOn with
  | nil => rfl
  | append_singleton steps st ih =>
    obtain ⟨hbefore, hlast⟩ := always_snoc.mp h
    rw [reporter.after_snoc] at hlast
    rw [reporter.trace_snoc, ih hbefore, List.flatMap_append, List.flatMap_singleton]
    exact congrArg _ (Reporter.step_of_closed (hbefore steps List.prefix_rfl) hlast)

end CTSoftPhone
