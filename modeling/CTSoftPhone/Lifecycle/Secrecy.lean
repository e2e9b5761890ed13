import CTSoftPhone.Lifecycle.Delegate

/-!
# What the delegate cannot tell

The delegate hears the same, and the same calls are asked about, whatever number, host and
credentials are registered, whatever the configuration is and whichever transports are selected,
whether a transport is created or bound or not, and whatever ids and conference slots pjsua hands
out. What it hears depends on the kind of each step, on whether the set-up and the account of a
registration succeed, and on the states that queries report.

## Main definitions

* `Act.heard`: what can be told of an act
* `Step.Alike`: steps that cannot be told apart

## Main results

* `Reporter.hear_alike`: reporters that are alike make the same of what can be told
* `sights_eq_of_alike`: histories of steps that are alike show the same
-/

namespace CTSoftPhone

/-- What can be told of an act: that it registers, destroys or hangs up, or what a callback says. -/
inductive Heard
  | registers
  | destroys
  | hangsUp
  | incoming (callId : ℕ)
  | callState (callId : ℕ) (ended : Bool)
  | media (callId : ℕ)
  | registered (state : CTSoftPhoneRegistrationState)
  | nothing

/-- What can be told of an act. -/
def Act.heard : Act → Heard
  | .op (.registerWithNumber ..) => .registers
  | .op .destroy => .destroys
  | .op .hangup => .hangsUp
  | .op (.handleIpChange _) | .op .answercall | .op .mute | .op .unmute => .nothing
  | .callback (.incomingCall callId) => .incoming callId
  | .callback (.callState callId state) => .callState callId (state = .disconnected)
  | .callback (.callMediaState callId) => .media callId
  | .callback (.regState2 info) => .registered info.toRegistrationState

/-- The same call information, except for the conference slot. -/
structure PjsuaCallInfo.Alike (ci ci' : PjsuaCallInfo) : Prop where
  state_eq : ci.state = ci'.state
  mediaStatus_eq : ci.mediaStatus = ci'.mediaStatus

/-- The set-up and the account of a registration succeed alike, and queries report alike. -/
structure Answers.Alike (a a' : Answers) : Prop where
  setUpOk_iff : a.SetUpOk ↔ a'.SetUpOk
  accAdd_iff : a.accAdd = pjSuccess ↔ a'.accAdd = pjSuccess
  accModify_iff : a.accModify = pjSuccess ↔ a'.accModify = pjSuccess
  query_iff : ∀ callId, a.callGetInfo callId = pjSuccess ↔ a'.callGetInfo callId = pjSuccess
  callInfo : ∀ callId, (a.callInfo callId).Alike (a'.callInfo callId)

/-- Steps that cannot be told apart. -/
structure Step.Alike (st st' : Step) : Prop where
  heard_eq : st.act.heard = st'.act.heard
  answers : st.answers.Alike st'.answers

/-- The same reporter, except for the conference slot that the last query left. -/
structure Reporter.Alike (r r' : Reporter) : Prop where
  line_eq : r.line = r'.line
  callId_eq : r.callId = r'.callId
  ci : r.ci.Alike r'.ci

/-- The same is seen, and what is left is alike. -/
structure SeenAlike (o o' : Outcome Unit Reporter Sight) : Prop where
  state : o.state.Alike o'.state
  events_eq : o.events = o'.events

namespace Reporter

/-- What a reporter makes of what can be told of an act. -/
def hear (a : Answers) (heard : Heard) (r : Reporter) : Outcome Unit Reporter Sight :=
  match heard with
  | .registers =>
    if r.line.phase.RegisterOk a then silent { r with line := .up r.line.calls }
    else r.close a .stale .fail
  | .destroys => r.close a .down .destroyed
  | .hangsUp => r.endCall a r.callId
  | .nothing => r.silent
  | .incoming callId =>
    match r.line with
    | .up calls => silent { r with line := .up (calls.insert callId), callId := callId }
    | .down | .stale => r.silent
  | .callState callId ended =>
    match r.line with
    | .up _ => report a callId { r with line := if ended then r.line.remove callId else r.line }
    | .down | .stale => r.silent
  | .media callId =>
    match r.line with
    | .up _ => r.reportMedia a callId
    | .down | .stale => r.silent
  | .registered state =>
    match r.line with
    | .up _ => ⟨(), r, [.told (.registration state)]⟩
    | .down | .stale => r.silent

theorem step_eq_hear (st : Step) (r : Reporter) : r.step st = r.hear st.answers st.act.heard := by
  obtain ⟨act, a, locals⟩ := st
  cases act with
  | op o => cases o <;> rfl
  | callback cb =>
    cases hline : r.line with
    | up calls =>
      cases cb with
      | callState callId state => cases state <;> simp [step, hear, Act.heard, raised, hline]
      | _ => simp only [step, hear, Act.heard, raised, hline]
    | down => cases cb <;> simp only [step, hear, Act.heard, hline]
    | stale => cases cb <;> simp only [step, hear, Act.heard, hline]

end Reporter

theorem Reporter.Alike.setLine {r r' : Reporter} (h : r.Alike r') (line : Line) :
    ({ r with line := line }).Alike { r' with line := line } := ⟨rfl, h.callId_eq, h.ci⟩

theorem SeenAlike.andThen {o o' : Outcome Unit Reporter Sight}
    {f f' : Unit → Reporter → Outcome Unit Reporter Sight} (h : SeenAlike o o')
    (hf : ∀ r r', r.Alike r' → SeenAlike (f () r) (f' () r')) :
    SeenAlike (o.andThen f) (o'.andThen f') :=
  ⟨(hf _ _ h.state).state, congrArg₂ (· ++ ·) h.events_eq (hf _ _ h.state).events_eq⟩

section Alike

variable {a a' : Answers} (ha : a.Alike a')
include ha

theorem Answers.Alike.info {ci ci' : PjsuaCallInfo} (h : ci.Alike ci') (callId : ℤ) :
    (a.info callId ci).Alike (a'.info callId ci') := by
  unfold Answers.info
  by_cases hs : a.callGetInfo callId = pjSuccess
  · rw [if_pos hs, if_pos ((ha.query_iff callId).mp hs)]
    exact ha.callInfo callId
  · rw [if_neg hs, if_neg fun hs' => hs ((ha.query_iff callId).mpr hs')]
    exact h

theorem Answers.Alike.registerOk_iff (p : Phase) : p.RegisterOk a ↔ p.RegisterOk a' := by
  cases p with
  | down => exact and_congr ha.setUpOk_iff ha.accAdd_iff
  | up => exact ha.accModify_iff
  | stale => exact Iff.rfl

namespace Reporter

variable {r r' : Reporter}

theorem report_alike (h : r.Alike r') (callId : ℤ) :
    SeenAlike (r.report a callId) (r'.report a' callId) := by
  have hci := ha.info h.ci callId
  exact ⟨⟨h.line_eq, h.callId_eq, hci⟩, by rw [report, report, hci.state_eq]⟩

theorem reportMedia_alike (h : r.Alike r') (callId : ℤ) :
    SeenAlike (r.reportMedia a callId) (r'.reportMedia a' callId) := by
  have hci := ha.info h.ci callId
  exact ⟨⟨h.line_eq, h.callId_eq, hci⟩, by rw [reportMedia, reportMedia, hci.mediaStatus_eq]⟩

theorem endCall_alike (h : r.Alike r') (callId : ℤ) :
    SeenAlike (r.endCall a callId) (r'.endCall a' callId) := by
  rw [endCall, endCall, h.line_eq]
  split
  · exact report_alike ha (h.setLine _) callId
  · exact ⟨h, rfl⟩

theorem endCalls_alike (h : r.Alike r') (callIds : List ℤ) :
    SeenAlike (r.endCalls a callIds) (r'.endCalls a' callIds) := by
  induction callIds generalizing r r' with
  | nil => exact ⟨h, rfl⟩
  | cons c cs ih => exact (endCall_alike ha h c).andThen fun _ _ h' => ih h'

theorem close_alike (h : r.Alike r') (line : Line) (state : CTSoftPhoneRegistrationState) :
    SeenAlike (r.close a line state) (r'.close a' line state) := by
  rw [close, close, h.line_eq]
  exact (endCalls_alike ha h _).andThen fun _ _ h' => ⟨h'.setLine line, rfl⟩

/-- **Reporters that are alike** make the same of what can be told of an act. -/
theorem hear_alike (h : r.Alike r') (heard : Heard) :
    SeenAlike (r.hear a heard) (r'.hear a' heard) := by
  have hsilent : SeenAlike r.silent r'.silent := ⟨h, rfl⟩
  cases heard with
  | registers =>
    dsimp only [hear]
    rw [h.line_eq]
    by_cases hok : r'.line.phase.RegisterOk a
    · rw [if_pos hok, if_pos ((ha.registerOk_iff _).mp hok)]
      exact ⟨h.setLine _, rfl⟩
    · rw [if_neg hok, if_neg fun hok' => hok ((ha.registerOk_iff _).mpr hok')]
      exact close_alike ha h .stale .fail
  | destroys => exact close_alike ha h .down .destroyed
  | hangsUp =>
    dsimp only [hear]
    rw [h.callId_eq]
    exact endCall_alike ha h r'.callId
  | nothing => exact hsilent
  | incoming callId =>
    dsimp only [hear]
    rw [h.line_eq]
    split
    · exact ⟨⟨rfl, rfl, h.ci⟩, rfl⟩
    · exact hsilent
    · exact hsilent
  | callState callId ended =>
    dsimp only [hear]
    rw [h.line_eq]
    split
    · exact report_alike ha (h.setLine _) callId
    · exact hsilent
    · exact hsilent
  | media callId =>
    dsimp only [hear]
    rw [h.line_eq]
    split
    · exact reportMedia_alike ha h callId
    · exact hsilent
    · exact hsilent
  | registered state =>
    dsimp only [hear]
    rw [h.line_eq]
    split
    · exact ⟨h, rfl⟩
    · exact hsilent
    · exact hsilent

end Reporter

end Alike

/-- **Secrecy**: two histories whose steps are alike, under any two configurations, show the same
queries and notifications, one after another. -/
theorem sights_eq_of_alike (config config' : CTSoftPhoneConfig) {steps steps' : List Step}
    (h : List.Forall₂ Step.Alike steps steps') :
    (traceOf config steps).filterMap Event.sight =
      (traceOf config' steps').filterMap Event.sight := by
  rw [sights_traceOf, sights_traceOf]
  refine reporter.trace_unwinds .initial (R := Reporter.Alike) ?_ ⟨rfl, rfl, rfl, rfl⟩ h
  intro st st' r r' hst hr
  have hseen := Reporter.hear_alike hst.answers hr st.act.heard
  change (r.step st).state.Alike (r'.step st').state ∧ (r.step st).events = (r'.step st').events
  rw [Reporter.step_eq_hear, Reporter.step_eq_hear, ← hst.heard_eq]
  exact ⟨hseen.state, hseen.events_eq⟩

/-- Another user of another host, over TLS instead of UDP, with a transport that could not be
created: the delegate hears the same. -/
theorem sights_eq_of_other_user :
    (traceOf ⟨5060, .udp⟩
        [(Act.op (.registerWithNumber "1".toList "a".toList "x".toList)).answered .success,
          (Act.callback (.incomingCall 0)).answered .success,
          (Act.op (.handleIpChange .tcp)).answered .success,
          (Act.op .hangup).answered .success]).filterMap Event.sight =
      (traceOf ⟨5061, .tls⟩
        [(Act.op (.registerWithNumber "2".toList "b".toList "y".toList)).answered
            { Answers.success with transportCreate := 1 },
          (Act.callback (.incomingCall 0)).answered .success,
          (Act.op .mute).answered .success,
          (Act.op .hangup).answered .success]).filterMap Event.sight := by
  have hsame : ∀ a : Answers, a.Alike a := fun a =>
    ⟨Iff.rfl, Iff.rfl, Iff.rfl, fun _ => Iff.rfl, fun _ => ⟨rfl, rfl⟩⟩
  have hcreate : Answers.success.Alike { Answers.success with transportCreate := 1 } :=
    ⟨Iff.rfl, Iff.rfl, Iff.rfl, fun _ => Iff.rfl, fun _ => ⟨rfl, rfl⟩⟩
  exact sights_eq_of_alike _ _
    (.cons ⟨rfl, hcreate⟩ (.cons ⟨rfl, hsame _⟩ (.cons ⟨rfl, hsame _⟩ (.cons ⟨rfl, hsame _⟩ .nil))))

end CTSoftPhone
