import CTSoftPhone.Programs.Interleaved
import CTSoftPhone.Wrapper.World

/-!
# Operations and registration callbacks, interleaved

The serial queue executes one operation at a time, command by command, while `on_reg_state2` runs on
the worker threads of pjsua. A callback is raised for an account there is, or for one that is being
added, and may be running for a while before it tells the delegate; none is left running by
`pjsua_destroy`. The callbacks do not touch what the operations work on, so the operations do what
they do one after another, undisturbed.

## Main definitions

* `Interleaving`: the phone, with the operation that is executing and the callbacks that run
* `Move`, `interleaving`: what may happen next, and the machine it drives
* `queueEvents`: the events of the operations

## Main results

* `exists_serial`: an interleaving is seen by the operations as a serial history
-/

namespace CTSoftPhone

/-- Where something happens: on the serial queue, or on a worker thread. -/
inductive Source
  | queue
  | worker
  deriving DecidableEq, Repr

/-- The phone between two commands: what the operation executing has still to do, how the library
answers it, and the callbacks that are running. -/
structure Interleaving where
  world : World
  rest : Phone Unit
  answers : Answers
  running : List PjsipRegcCbparam

/-- What may happen next: an operation starts, the one executing goes on with a command, a callback
is raised, or one that is running tells the delegate. -/
inductive Move
  | start (o : Op) (a : Answers) (locals : Locals)
  | command
  | raise (info : PjsipRegcCbparam)
  | deliver (k : ℕ)

namespace Interleaving

/-- The phone at start-up. -/
def initial (config : CTSoftPhoneConfig) : Interleaving := ⟨.initial config, .ret (), .success, []⟩

variable (s : Interleaving)

/-- No operation is executing. -/
def Idle : Prop := s.rest.result = some ()

instance : Decidable s.Idle := inferInstanceAs (Decidable (s.rest.result = some ()))

/-- The operation executing is about to add an account, and succeeds. -/
def addsAccount : Bool :=
  match s.rest.next with
  | some (.api (.accAdd config)) =>
    decide ((s.world.pjsua.reply s.answers (.accAdd config)).status = pjSuccess)
  | _ => false

/-- The operation executing is about to destroy the library. -/
def destroysLibrary : Bool :=
  match s.rest.next with
  | some (.api .destroy) => true
  | _ => false

/-- A callback may be raised: there is an account, or one is being added. -/
def MayRaise : Prop := s.world.pjsua.accounts ≠ [] ∨ s.addsAccount = true

instance : Decidable s.MayRaise :=
  inferInstanceAs (Decidable (s.world.pjsua.accounts ≠ [] ∨ s.addsAccount = true))

/-- The operation executing goes on with its next command. -/
def advance : Outcome (Phone Unit) World Event := s.rest.advance (Cmd.handle s.answers) s.world

/-- What is left of the operation executing, run as a whole. -/
def finish : Outcome Unit World Event := s.rest.run (Cmd.handle s.answers) s.world

/-- A move, and what happens in it. The library answers an operation, once it has started, in one
way; a move that is not possible changes nothing. -/
def step (s : Interleaving) : Move → Outcome Unit Interleaving (Source × Event)
  | .start o a locals =>
    ⟨(), if s.Idle then { s with rest := o.program locals, answers := a } else s, []⟩
  | .command =>
    -- when `pjsua_destroy` has returned, no callback runs
    ⟨(), ⟨s.advance.state, s.advance.val, s.answers, if s.destroysLibrary then [] else s.running⟩,
      s.advance.events.map (Prod.mk .queue)⟩
  | .raise info =>
    if s.MayRaise then
      ⟨(), { s with running := s.running ++ [info] }, [(.worker, .raised (.regState2 info))]⟩
    else ⟨(), s, []⟩
  | .deliver k =>
    match s.running[k]? with
    | some info =>
      let o := (onRegState2 info).run (Cmd.handle s.answers) s.world
      ⟨(), { s with world := o.state, running := s.running.eraseIdx k },
        o.events.map (Prod.mk .worker)⟩
    | none => ⟨(), s, []⟩

end Interleaving

/-- The interleaving phone, driven by its moves. -/
def interleaving : Machine Interleaving Move (Source × Event) := ⟨fun m s => s.step m⟩

/-- The phone after some moves. -/
abbrev interleavingAfter (config : CTSoftPhoneConfig) (moves : List Move) : Interleaving :=
  interleaving.after (.initial config) moves

/-- What happens in some moves. -/
abbrev interleavingTrace (config : CTSoftPhoneConfig) (moves : List Move) :
    List (Source × Event) :=
  interleaving.trace (.initial config) moves

/-! ## The serial history -/

/-- The event, when it is one of an operation. -/
def queueEvent : Source × Event → Option Event
  | (.queue, e) => some e
  | (.worker, _) => none

/-- The events of the operations. -/
def queueEvents (es : List (Source × Event)) : List Event := es.filterMap queueEvent

theorem queueEvents_append (es fs : List (Source × Event)) :
    queueEvents (es ++ fs) = queueEvents es ++ queueEvents fs := List.filterMap_append

@[simp] theorem queueEvents_map_queue (es : List Event) :
    queueEvents (es.map (Prod.mk .queue)) = es := by
  rw [queueEvents, List.filterMap_map]
  exact List.filterMap_some

theorem queueEvents_append_worker (es : List (Source × Event)) (e : Event) :
    queueEvents (es ++ [(.worker, e)]) = queueEvents es := by
  rw [queueEvents_append]
  exact List.append_nil _

/-- A callback tells the delegate, and changes nothing the operations work on. -/
theorem run_onRegState2 (info : PjsipRegcCbparam) (a : Answers) (w : World) :
    ∃ state, (onRegState2 info).run (Cmd.handle a) w =
      ⟨(), w, [.notified (.registration state)]⟩ := by
  rw [onRegState2, Prog.run_ite]
  split
  · exact ⟨.success, rfl⟩
  · exact ⟨.fail, rfl⟩

/-- A callback that is running tells the delegate; there may be none. -/
theorem Interleaving.step_deliver (s : Interleaving) (k : ℕ) :
    (∃ info state, info ∈ s.running ∧ s.step (.deliver k) =
      ⟨(), { s with running := s.running.eraseIdx k },
        [(.worker, .notified (.registration state))]⟩) ∨
      s.step (.deliver k) = ⟨(), s, []⟩ := by
  rw [Interleaving.step]
  split
  · next info hk =>
    obtain ⟨state, hrun⟩ := run_onRegState2 info s.answers s.world
    rw [hrun]
    exact .inl ⟨info, state, List.mem_of_getElem? hk, rfl⟩
  · exact .inr rfl

/-- The operations have done what a serial history of operations does, once the one executing is
finished. -/
structure SerialSo (config : CTSoftPhoneConfig) (steps : List Step) (s : Interleaving)
    (es : List (Source × Event)) : Prop where
  ops : ∀ st ∈ steps, ∃ o a locals, st = ⟨.op o, a, locals⟩
  world_eq : worldAfter config steps = s.finish.state
  trace_eq : traceOf config steps = queueEvents es ++ s.finish.events

theorem Interleaving.Idle.finish {s : Interleaving} (h : s.Idle) :
    s.finish = ⟨(), s.world, []⟩ := by
  rw [Interleaving.finish, Prog.result_eq_some.mp h]
  rfl

theorem SerialSo.step {config : CTSoftPhoneConfig} {steps : List Step} {s : Interleaving}
    {es : List (Source × Event)} (h : SerialSo config steps s es) (m : Move) :
    ∃ steps', SerialSo config steps' (s.step m).state (es ++ (s.step m).events) := by
  cases m with
  | start o a locals =>
    by_cases hidle : s.Idle
    · refine ⟨steps ++ [⟨.op o, a, locals⟩], ?_⟩
      have hworld := h.world_eq
      have htrace := h.trace_eq
      rw [hidle.finish] at hworld htrace
      -- the new operation is the next step of the history
      rw [Interleaving.step, if_pos hidle, List.append_nil]
      constructor
      · intro st hst
        rcases List.mem_append.mp hst with hst | hst
        · exact h.ops st hst
        · exact ⟨o, a, locals, List.mem_singleton.mp hst⟩
      · rw [worldAfter, phone.after_snoc, ← worldAfter, hworld]
        rfl
      · rw [traceOf, phone.trace_snoc, ← traceOf, htrace, ← worldAfter, hworld, List.append_nil]
        rfl
    · refine ⟨steps, ?_⟩
      rw [Interleaving.step, if_neg hidle, List.append_nil]
      exact h
  | command =>
    refine ⟨steps, ?_⟩
    have hrun := Prog.run_advance (Cmd.handle s.answers) s.rest s.world
    refine ⟨h.ops, ?_, ?_⟩
    -- what the command does was done by the rest of the operation before
    · rw [h.world_eq, Interleaving.finish, hrun]
      rfl
    · rw [h.trace_eq, Interleaving.finish, hrun, queueEvents_append, List.append_assoc]
      exact congrArg (queueEvents es ++ ·) (congrArg (· ++ _) (queueEvents_map_queue _).symm)
  | raise info =>
    refine ⟨steps, ?_⟩
    rw [Interleaving.step]
    split
    · exact ⟨h.ops, h.world_eq, (queueEvents_append_worker es _).symm ▸ h.trace_eq⟩
    · rw [List.append_nil]
      exact h
  | deliver k =>
    refine ⟨steps, ?_⟩
    rcases s.step_deliver k with ⟨info, state, -, hk⟩ | hk
    · rw [hk]
      exact ⟨h.ops, h.world_eq, (queueEvents_append_worker es _).symm ▸ h.trace_eq⟩
    · rw [hk, List.append_nil]
      exact h

/-- **An interleaving** is seen by the operations as a serial history: there is one whose world and
whose events are theirs, once the operation executing is finished. -/
theorem exists_serial (config : CTSoftPhoneConfig) (moves : List Move) :
    ∃ steps, SerialSo config steps (interleavingAfter config moves)
      (interleavingTrace config moves) := by
  induction moves using List.reverseRecOn with
  | nil => exact ⟨[], by simp, rfl, rfl⟩
  | append_singleton moves m ih =>
    obtain ⟨steps, h⟩ := ih
    rw [interleavingAfter, interleavingTrace, interleaving.after_snoc, interleaving.trace_snoc]
    exact h.step m

end CTSoftPhone
