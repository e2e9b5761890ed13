import CTSoftPhone.Lifecycle.Shown

/-!
# Callbacks that overlap

A callback asks pjsua about its call, and reads the answer from the global `ci`, command by command,
while other threads execute theirs. It does for its call what it does when it runs as a whole,
whatever the others do to the calls, the connections, the account and the library, as long as none
of them writes `ci` in between. Where another query overlaps, a report can be lost. A callback that
does not read `ci` does what it does as a whole in every interleaving.

## Main definitions

* `ciView`, `blindView`: the view that shows the call information left last, and the one that shows
  nothing
* `Request`: what a thread asks of pjsua, and tells the delegate
* `requestsOf`: the requests of the worker that executes a callback

## Main results

* `unmoved_callback`: the callbacks are insensitive to whatever keeps the call information
* `callback_undisturbed`: a callback that no other query overlaps acts as one step
* `callback_blind`: an incoming call, and a registration, are reported as one step always
-/

namespace CTSoftPhone

/-! ## Requests -/

/-- The call information left last. -/
def ciView : View World where
  rel w w' := w.vars.ci = w'.vars.ci
  symm := Eq.symm
  trans := Eq.trans

instance : DecidableRel ciView.rel := fun w w' => decEq w.vars.ci w'.vars.ci

/-- Nothing is shown. -/
def blindView : View World where
  rel _ _ := True
  symm _ := trivial
  trans _ _ := trivial

/-- What a thread does: it calls a function of pjsua, or tells the delegate. -/
inductive Request
  | called (c : Api)
  | told (n : Notification)
  deriving DecidableEq

/-- What an event shows of this. -/
def Event.request : Event → Option Request
  | .api c _ _ => some (.called c)
  | .notified n => some (.told n)
  | .raised _ => none

/-! ## Programs that are not moved -/

section Programs

/-- A program makes the requests that it makes undisturbed, under interference that keeps the
view. -/
abbrev Unmoved (V : View World) (a : Answers) {α : Type} (p : Phone α) : Prop :=
  p.Insensitive ((Cmd.handle a).logged Event.request) (V.logged Request) fun _ _ => True

variable {V : View World} {a : Answers}

/-- A call whose reply the program drops. -/
theorem unmoved_dropped (hV : ∀ w w' p p', V.rel w w' → V.rel ⟨w.vars, p⟩ ⟨w'.vars, p'⟩) (c : Api)
    {p : Phone Unit} (hp : Unmoved V a p) : Unmoved V a (api c >>= fun _ => p) :=
  Prog.Insensitive.observe
    (fun _ _ hst => ⟨rfl, ⟨hV _ _ _ _ hst.1, congrArg (· ++ _) hst.2⟩, id⟩) fun _ => hp

theorem unmoved_assign {f : Vars → Vars}
    (hV : ∀ w w', V.rel w w' → V.rel ⟨f w.vars, w.pjsua⟩ ⟨f w'.vars, w'.pjsua⟩) :
    Unmoved V a (assign f) :=
  .call fun _ _ hst => ⟨rfl, ⟨hV _ _ hst.1, congrArg (· ++ []) hst.2⟩, id⟩

theorem unmoved_told (n : Notification) : Unmoved V a (.call (.notify n) .ret) :=
  .call fun _ _ hst => ⟨rfl, ⟨hst.1, congrArg (· ++ _) hst.2⟩, id⟩

theorem unmoved_vars {α : Type} {f : Vars → Phone α}
    (hf : ∀ v v' : Vars, v.ci = v'.ci → f v = f v') (h : ∀ v, Unmoved ciView a (f v)) :
    Unmoved ciView a (vars >>= f) :=
  Prog.Insensitive.observe
    (fun _ _ hst => ⟨hf _ _ hst.1, ⟨hst.1, congrArg (· ++ []) hst.2⟩, id⟩) h

theorem unmoved_request (c : Api) {p : Phone Unit} (hp : Unmoved ciView a p) :
    Unmoved ciView a (api c >>= fun _ => p) := unmoved_dropped (fun _ _ _ _ h => h) c hp

/-- The query is answered alike in any state of the library. -/
theorem unmoved_query (callId : ℤ) : Unmoved ciView a (api (.callGetInfo callId)) :=
  .call fun _ _ hst => ⟨rfl, ⟨hst.1, congrArg (· ++ _) hst.2⟩, id⟩

/-- The query writes what it is answered, or leaves what there was. -/
theorem unmoved_getInfo (callId : ℤ) : Unmoved ciView a (getInfo callId) :=
  (unmoved_query callId).bind fun r => unmoved_assign fun _ _ h => congrArg r.info.getD h

theorem unmoved_onCallState (callId : ℤ) : Unmoved ciView a (onCallState callId) :=
  (unmoved_getInfo callId).bind fun _ =>
    unmoved_vars (fun v v' h => by rw [h]) fun _ => unmoved_told _

theorem unmoved_onCallMediaState (callId : ℤ) :
    Unmoved ciView a (onCallMediaStateRereading callId) := by
  refine (unmoved_getInfo callId).bind fun _ =>
    unmoved_vars (fun v v' h => by rw [h]) fun _ => .ite ?_ <|
    unmoved_vars (fun v v' h => by rw [h]) fun _ => .ite ?_ <|
    unmoved_vars (fun v v' h => by rw [h]) fun _ => .ite (unmoved_told _) <|
    unmoved_vars (fun v v' h => by rw [h]) fun _ => .ite (unmoved_told _) <|
    unmoved_vars (fun v v' h => by rw [h]) fun _ => .ite (unmoved_told _) (.ret ())
  · refine unmoved_vars (fun v v' h => by rw [h]) fun _ => unmoved_request _ ?_
    exact unmoved_vars (fun v v' h => by rw [h]) fun _ => unmoved_request _ (unmoved_told _)
  · exact unmoved_vars (fun v v' h => by rw [h]) fun _ => unmoved_request _ (unmoved_told _)

/-- The callbacks that do not read the call information. -/
def Callback.Blind : Callback → Prop
  | .incomingCall _ | .regState2 _ => True
  | .callState .. | .callMediaState _ => False

/-- **A callback that reads no call information** is not moved by anything. -/
theorem unmoved_of_blind {cb : Callback} (h : cb.Blind) : Unmoved blindView a cb.rereading := by
  cases cb with
  | incomingCall callId =>
    exact Prog.Insensitive.bind (unmoved_assign fun _ _ _ => trivial) fun _ =>
      unmoved_dropped (fun _ _ _ _ _ => trivial) _ (.ret ())
  | callState callId state => exact h.elim
  | callMediaState callId => exact h.elim
  | regState2 info => exact .ite (unmoved_told _) (unmoved_told _)

/-- **A callback** is not moved by whatever keeps the call information. -/
theorem unmoved_callback (cb : Callback) : Unmoved ciView a cb.rereading := by
  cases cb with
  | incomingCall callId =>
    exact Prog.Insensitive.bind (unmoved_assign fun _ _ h => h) fun _ =>
      unmoved_request _ (.ret ())
  | callState callId state => exact unmoved_onCallState callId
  | callMediaState callId => exact unmoved_onCallMediaState callId
  | regState2 info => exact .ite (unmoved_told _) (unmoved_told _)

end Programs

/-! ## A callback among the threads -/

section Threads

variable (config : CTSoftPhoneConfig) (moves : List (Concurrent.Move Queued Raised)) (r : Raised)
  (more : List (Concurrent.Move Queued Raised))

/-- The worker that executes the callback raised after some moves. -/
abbrev workerAfter : ℕ := (threadsAfter config moves).workers.length

/-- The threads once the callback has been raised. -/
abbrev raisedAfter : Concurrent.Running Cmd.Ans World Queued Raised :=
  (phoneThreads.step (threadsAfter config moves) (.spawn r)).state

/-- What the worker that executes the callback asks of pjsua and tells the delegate in the moves
that follow. -/
abbrev requestsOf : List Request :=
  phoneThreads.shown Event.request (.worker (workerAfter config moves)) (raisedAfter config moves r)
    more

/-- The worker has executed the callback to its end. -/
abbrev DoneAfter : Prop :=
  (phoneThreads.machine.after (raisedAfter config moves r) more).workers[workerAfter config moves]?
    = some (r, .ret ())

variable {config moves r more}

theorem requestsOf_of_unmoved {V : View World}
    (hrunning : (threadsAfter config moves).shared.pjsua.state = .running)
    (hself : ∀ w, V.rel w w) (hr : Unmoved V r.answers r.callback.rereading)
    (hmore : phoneThreads.Undisturbed V (workerAfter config moves) (raisedAfter config moves r)
      more)
    (hdone : DoneAfter config moves r more) :
    requestsOf config moves r more =
        (World.step ((Act.callback r.callback).answered r.answers)
          (threadsAfter config moves).shared).events.filterMap Event.request ∧
      V.rel (phoneThreads.machine.after (raisedAfter config moves r) more).shared
        (World.step ((Act.callback r.callback).answered r.answers)
          (threadsAfter config moves).shared).state := by
  have hspawn : raisedAfter config moves r =
      ⟨⟨(threadsAfter config moves).shared.vars,
          (threadsAfter config moves).shared.pjsua.raise r.callback⟩,
        (threadsAfter config moves).pending, (threadsAfter config moves).current,
        (threadsAfter config moves).workers ++ [(r, r.callback.rereading)]⟩ := by
    simp [raisedAfter, Concurrent.step, phoneThreads, hrunning]
  have hworker : (raisedAfter config moves r).workers[workerAfter config moves]? =
      some (r, r.callback.rereading) := by
    rw [hspawn]
    exact List.getElem?_concat_length
  have hshows := hmore.shows hworker (hself _) hr hdone
  rw [congrArg Concurrent.Running.shared hspawn] at hshows
  rw [Act.answered, step_callback_of_running r.callback r.answers _ hrunning,
    Outcome.andThen_events, Outcome.andThen_state, ← r.callback.run_rereading r.answers]
  exact hshows

/-- A worker executes a callback about media, while another answers a call and the queue takes up a
request to mute. -/
def mutedMeanwhile : List (Concurrent.Move Queued Raised) :=
  [.work 1, .work 0, .work 1, .submit ⟨.mute, .success, ⟨0, pjsuaAccConfigDefault⟩⟩, .dequeue,
    .work 1, .work 1, .command, .work 1, .work 1, .work 1, .work 1]

/-- **A callback that no other query overlaps** acts as one step: while no other thread writes the
call information, it asks of pjsua and tells the delegate what it does when it runs as a whole where
it is raised, whatever the others do, and leaves the same call information. -/
theorem callback_undisturbed (hrunning : (threadsAfter config moves).shared.pjsua.state = .running)
    (hmore : phoneThreads.Undisturbed ciView (workerAfter config moves) (raisedAfter config moves r)
      more)
    (hdone : DoneAfter config moves r more) :
    requestsOf config moves r more =
        (World.step ((Act.callback r.callback).answered r.answers)
          (threadsAfter config moves).shared).events.filterMap Event.request ∧
      (phoneThreads.machine.after (raisedAfter config moves r) more).shared.vars.ci =
        (World.step ((Act.callback r.callback).answered r.answers)
          (threadsAfter config moves).shared).state.vars.ci :=
  requestsOf_of_unmoved hrunning (fun _ => rfl) (unmoved_callback _) hmore hdone

/-- A call is up, and the media of another one become active while the first is answered and the
phone muted. -/
theorem callback_undisturbed_mediaState :
    requestsOf ⟨5060, .udp⟩ (callWhileRegistering ++ List.replicate 4 .command)
        ⟨.callMediaState 8, .success⟩ mutedMeanwhile =
      [.called (.callGetInfo 8), .called (.confConnect 1 0), .called (.confConnect 0 1),
        .told (.call .mediaActive)] :=
  (callback_undisturbed rfl (by decide +kernel) rfl).1

/-- **A callback that reads no call information** acts as one step in every interleaving: it asks of
pjsua and tells the delegate, each once, what it does when it runs as a whole. -/
theorem callback_blind (hrunning : (threadsAfter config moves).shared.pjsua.state = .running)
    (hblind : r.callback.Blind) (hdone : DoneAfter config moves r more) :
    requestsOf config moves r more =
      (World.step ((Act.callback r.callback).answered r.answers)
        (threadsAfter config moves).shared).events.filterMap Event.request :=
  (requestsOf_of_unmoved hrunning (fun _ => trivial) (unmoved_of_blind hblind)
    (phoneThreads.undisturbed_of_forall (fun _ _ => trivial) _ _ more) hdone).1

/-- The registration of a phone with a call succeeds once more. -/
theorem callback_blind_regState2 :
    requestsOf ⟨5060, .udp⟩ (callWhileRegistering ++ List.replicate 4 .command)
        ⟨.regState2 ⟨pjSuccess, 200, 300, 1⟩, .success⟩
        [.spawn ⟨.callMediaState 8, .success⟩, .work 2, .work 1, .work 2] =
      [.told (.registration .success)] :=
  callback_blind rfl trivial rfl

/-- A call is put on hold, and before the callback has come to that, the media of another call
become active: nobody hears of the hold. -/
example : requestsOf ⟨5060, .udp⟩ (callWhileRegistering ++ List.replicate 4 .command)
      ⟨.callMediaState 7, { Answers.success with callInfo := fun _ => ⟨.confirmed, .localHold, 1⟩ }⟩
      ([.work 1, .work 1, .work 1, .work 1, .spawn ⟨.callMediaState 8, .success⟩, .work 2,
        .work 2] ++ List.replicate 3 (.work 1)) =
    [.called (.callGetInfo 7)] := rfl

end Threads

end CTSoftPhone
