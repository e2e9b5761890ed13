import CTSoftPhone.Lifecycle.Concurrency
import CTSoftPhone.Lifecycle.Delegate

/-!
# What the queue shows

Watch the serial queue for what it does to the life cycle of the library and its account, and for
what it tells of the registration. In every interleaving with callbacks it shows what the operations
show one after another, with no callback at all: the same functions of pjsua are called in the same
order, with the same arguments and in the same states, and they return the same; and the delegate
hears the same of each registration and each destroy, once and in the order of the requests.

What is told of the registration depends on the phase of the phone only. The registrar is a machine
over the phases that tells it.

## Main definitions

* `queueShows`: what is watched of the queue, in an interleaving
* `registrar`: what is told of the registration, phase by phase

## Main results

* `queueShows_serial`: the queue shows what the operations show one after another
* `registrations_traceOf`: a history tells what the registrar tells
* `queueTells_registrar`: so does the queue, in every interleaving
-/

namespace CTSoftPhone

/-! ## The operations one after another -/

/-- Operations done one after another show what the history of their steps shows. -/
theorem trace_jobs (config : CTSoftPhoneConfig) (qs : List Queued) :
    phoneThreads.jobs.trace (.initial config) qs = traceOf config (stepsOf qs) := by
  induction qs using List.reverseRecOn with
  | nil => rfl
  | append_singleton qs q ih =>
    rw [phoneThreads.jobs.trace_snoc, ih, ← phoneThreads.serial_eq_after, serial_eq_worldAfter,
      stepsOf_snoc, show traceOf config (stepsOf qs ++ [q.step]) = _ from phone.trace_snoc _ _ _]
    exact congrArg (fun o => traceOf config (stepsOf qs) ++ o.events)
      (q.op.run_rereading q.answers _ q.locals)

/-- What is watched of the queue, in an interleaving. -/
abbrev queueShows (config : CTSoftPhoneConfig) (moves : List (Concurrent.Move Queued Raised)) :
    List Event :=
  phoneThreads.shown Event.watched .queue (Concurrent.initial (.initial config)) moves

/-- **What the queue shows**: in every interleaving of the operations with callbacks, the operations
taken up are those requested first, and what they have done to the life cycle and told of the
registration is a part of what they do and tell one after another, undisturbed; when none is
executing, it is all of that. -/
theorem queueShows_serial (config : CTSoftPhoneConfig)
    (moves : List (Concurrent.Move Queued Raised)) :
    ∃ qs, Concurrent.submitted moves = qs ++ (threadsAfter config moves).pending ∧
      queueShows config moves <+: (traceOf config (stepsOf qs)).filterMap Event.watched ∧
      ((threadsAfter config moves).current = none →
        queueShows config moves = (traceOf config (stepsOf qs)).filterMap Event.watched) := by
  obtain ⟨qs, hqs, hshown⟩ :=
    (isolated_phoneThreads config).shows (fun q => steady_op q.op q.locals) moves
  rw [trace_jobs] at hshown
  exact ⟨qs, hqs, hshown⟩

/-! ## What is told of the registration -/

/-- What an event tells of the registration. -/
def Event.registration : Event → Option CTSoftPhoneRegistrationState
  | .notified (.registration state) => some state
  | .notified (.call _) | .api .. | .raised _ => none

/-- What a sight tells of the registration. -/
def Sight.registration : Sight → Option CTSoftPhoneRegistrationState
  | .told (.registration state) => some state
  | .told (.call _) | .asked _ => none

/-- What a step tells of the registration: a registration that fails, a destroy, and a callback of
the library that reports one. -/
def Step.tells (st : Step) (p : Phase) : List CTSoftPhoneRegistrationState :=
  match st.act with
  | .op (.registerWithNumber ..) => if p.RegisterOk st.answers then [] else [.fail]
  | .op .destroy => [.destroyed]
  | .callback (.regState2 info) => if p = .up then [info.toRegistrationState] else []
  | .op _ | .callback _ => []

/-- The registrar, driven by the steps of the phone. -/
def registrar : Machine Phase Step CTSoftPhoneRegistrationState :=
  ⟨fun st p => ⟨(), p.step st, st.tells p⟩⟩

namespace Reporter

variable (a : Answers) (r : Reporter)

theorem registration_endCall (callId : ℤ) :
    (r.endCall a callId).events.filterMap Sight.registration = [] := by
  rw [endCall]
  split <;> rfl

theorem registration_endCalls (callIds : List ℤ) :
    (r.endCalls a callIds).events.filterMap Sight.registration = [] := by
  induction callIds generalizing r with
  | nil => rfl
  | cons c cs ih =>
    rw [endCalls, Outcome.andThen_events, List.filterMap_append, registration_endCall, ih]
    rfl

theorem registration_close (line : Line) (state : CTSoftPhoneRegistrationState) :
    (r.close a line state).events.filterMap Sight.registration = [state] := by
  rw [close, Outcome.andThen_events, List.filterMap_append, registration_endCalls]
  rfl

/-- A step of the reporter tells of the registration what its phase says. -/
theorem registration_step (st : Step) :
    (r.step st).events.filterMap Sight.registration = st.tells r.line.phase := by
  obtain ⟨act, a, locals⟩ := st
  cases act with
  | op o =>
    cases o with
    | registerWithNumber number host credentials =>
      dsimp only [step, Step.tells]
      split
      · rfl
      · exact registration_close a r .stale .fail
    | destroy => exact registration_close a r .down .destroyed
    | hangup => exact registration_endCall a r r.callId
    | _ => rfl
  | callback cb =>
    cases hline : r.line with
    | up calls =>
      simp only [step, hline]
      cases cb <;> rfl
    | down =>
      simp only [step, hline]
      cases cb <;> rfl
    | stale =>
      simp only [step, hline]
      cases cb <;> rfl

end Reporter

theorem registration_sight (es : List Event) :
    (es.filterMap Event.sight).filterMap Sight.registration = es.filterMap Event.registration := by
  rw [List.filterMap_filterMap]
  refine List.filterMap_congr fun e _ => ?_
  cases e with
  | api c state reply => cases c <;> rfl
  | raised cb => rfl
  | notified n => cases n <;> rfl

/-- **What is told of the registration** in a history is what the registrar tells. -/
theorem registrations_traceOf (config : CTSoftPhoneConfig) (steps : List Step) :
    (traceOf config steps).filterMap Event.registration = registrar.trace .down steps := by
  rw [← registration_sight, sights_traceOf]
  exact (reporter.trace_simulates (N := registrar) (R := fun r p => r.line.phase = p) .initial rfl
    (fun st r p hp => hp ▸ ⟨r.phase_step st, r.registration_step st⟩) steps).2

/-- What is told of the registration is watched for. -/
theorem watched_registration (e : Event) : e.watched.bind Event.registration = e.registration := by
  cases e with
  | api c state reply =>
    unfold Event.watched
    split <;> rfl
  | raised cb => rfl
  | notified n => cases n <;> rfl

/-! ## What the queue tells -/

/-- What the queue tells of the registration, in an interleaving. -/
abbrev queueTells (config : CTSoftPhoneConfig) (moves : List (Concurrent.Move Queued Raised)) :
    List CTSoftPhoneRegistrationState :=
  phoneThreads.shown Event.registration .queue (Concurrent.initial (.initial config)) moves

/-- **What the queue tells**: in every interleaving of the operations with callbacks, the delegate
is told by the queue of each registration that fails, and of each destroy, once and in the order of
the requests; which registrations fail is what their phases say. -/
theorem queueTells_registrar (config : CTSoftPhoneConfig)
    (moves : List (Concurrent.Move Queued Raised)) :
    ∃ qs, Concurrent.submitted moves = qs ++ (threadsAfter config moves).pending ∧
      queueTells config moves <+: registrar.trace .down (stepsOf qs) ∧
      ((threadsAfter config moves).current = none →
        queueTells config moves = registrar.trace .down (stepsOf qs)) := by
  have htells : (queueShows config moves).filterMap Event.registration =
      queueTells config moves := by
    rw [queueShows, Concurrent.filterMap_shown, funext watched_registration]
  obtain ⟨qs, hqs, hprefix, hidle⟩ := queueShows_serial config moves
  have hserial : ((traceOf config (stepsOf qs)).filterMap Event.watched).filterMap
      Event.registration = registrar.trace .down (stepsOf qs) := by
    rw [List.filterMap_filterMap, funext watched_registration, registrations_traceOf]
  refine ⟨qs, hqs, ?_, fun h => ?_⟩
  · rw [← htells, ← hserial]
    exact hprefix.filterMap Event.registration
  · rw [← htells, ← hserial, hidle h]

end CTSoftPhone
