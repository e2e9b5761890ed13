import CTSoftPhone.Programs.Interference

/-!
# A serial queue among workers

Clients submit jobs to a serial queue, which executes them one at a time, in the order in which they
were submitted. Meanwhile workers run tasks over the same state. The queue and the workers execute
one command at a time, in any order.

Where the workers do not change what a view of the state shows, and the jobs are insensitive to the
view, the jobs do what they do one after another, each as a whole: no job is lost, done twice or
overtaken, and none issues a command it would not issue safely there.

## Main definitions

* `Concurrent`: the jobs and the tasks, their programs and handlers, and when a task is spawned
* `Concurrent.Running`, `Concurrent.Move`, `Concurrent.machine`: the queue and the workers between
  two commands, what may happen next, and the machine it drives
* `Concurrent.Isolated`: the jobs are insensitive to a view that the tasks do not change
* `Concurrent.serial`: jobs run one after another
* `Concurrent.OnWay`: where the queue is, when jobs done and submitted are given
* `Concurrent.happened`: what has happened in some moves, whoever did it

## Main results

* `Isolated.onWay_after`: in every interleaving the queue is where its serial run is
* `Isolated.exists_done`: when no job is executing, the jobs done have been done serially
* `Isolated.safe_next`: the next command of the queue is safe
* `Preserves.invariant_after`: what the jobs and the tasks keep, an interleaving keeps
* `Preserves.safe_next`: and what their commands meet, the next command of every thread meets
-/

variable {C : Type} {A : C → Type} {S E J K : Type}

/-- Jobs for a serial queue, and tasks for the workers beside it. A task that is spawned may change
the state at once; it is not spawned in every state. -/
structure Concurrent {C : Type} (A : C → Type) (S E J K : Type) where
  body : J → Prog A Unit
  handle : J → Handler A S E
  task : K → Prog A Unit
  taskHandle : K → Handler A S E
  spawn : K → S → Option (Outcome Unit S E)

namespace Concurrent

/-- The state, the jobs that wait, the job executing with what it has still to do, and the workers,
each with its task and what it has still to do. -/
structure Running {C : Type} (A : C → Type) (S J K : Type) where
  shared : S
  pending : List J
  current : Option (J × Prog A Unit)
  workers : List (K × Prog A Unit)

/-- What may happen next: a job is submitted, the queue takes the next one, it executes a command
of the one it has, a task is spawned, a worker executes a command. -/
inductive Move (J K : Type)
  | submit (j : J)
  | dequeue
  | command
  | spawn (k : K)
  | work (n : ℕ)

/-- Who does something: the queue, or a worker. -/
inductive Thread
  | queue
  | worker (n : ℕ)
  deriving DecidableEq, Repr

variable (M : Concurrent A S E J K)

/-- Nothing has happened yet. -/
def initial (s : S) : Running A S J K := ⟨s, [], none, []⟩

/-- A move. One that is not possible changes nothing. -/
def step (t : Running A S J K) : Move J K → Outcome Unit (Running A S J K) (Thread × E)
  | .submit j => ⟨(), { t with pending := t.pending ++ [j] }, []⟩
  | .dequeue =>
    match t.current, t.pending with
    | none, j :: js => ⟨(), { t with pending := js, current := some (j, M.body j) }, []⟩
    | _, _ => ⟨(), t, []⟩
  | .command =>
    match t.current with
    -- a job at its end makes way for the next one
    | some (_, .ret _) => ⟨(), { t with current := none }, []⟩
    | some (j, .call c k) =>
      let o := M.handle j c t.shared
      ⟨(), { t with shared := o.state, current := some (j, k o.val) },
        o.events.map (Prod.mk .queue)⟩
    | none => ⟨(), t, []⟩
  | .spawn k =>
    match M.spawn k t.shared with
    | some o =>
      ⟨(), { t with shared := o.state, workers := t.workers ++ [(k, M.task k)] },
        o.events.map (Prod.mk (.worker t.workers.length))⟩
    | none => ⟨(), t, []⟩
  | .work n =>
    match t.workers[n]? with
    | some (k, p) =>
      let o := p.advance (M.taskHandle k) t.shared
      ⟨(), { t with shared := o.state, workers := t.workers.set n (k, o.val) },
        o.events.map (Prod.mk (.worker n))⟩
    | none => ⟨(), t, []⟩

/-- The queue and the workers, driven by moves. -/
def machine : Machine (Running A S J K) (Move J K) (Thread × E) := ⟨fun m t => M.step t m⟩

/-- The job that a move submits. -/
def Move.submitted : Move J K → Option J
  | .submit j => some j
  | .dequeue | .command | .spawn _ | .work _ => none

/-- The jobs submitted in some moves. -/
def submitted (ms : List (Move J K)) : List J := ms.filterMap Move.submitted

theorem submitted_snoc (ms : List (Move J K)) (m : Move J K) :
    submitted (ms ++ [m]) = submitted ms ++ m.submitted.toList := by
  rw [submitted, List.filterMap_append]
  cases h : m.submitted <;> simp [h, submitted]

/-- A job run as a whole. -/
def done (j : J) (s : S) : S := ((M.body j).run (M.handle j) s).state

/-- Jobs run one after another, each as a whole. -/
def serial (js : List J) (s : S) : S := js.foldl (fun s j => M.done j s) s

theorem serial_snoc (js : List J) (j : J) (s : S) :
    M.serial (js ++ [j]) s = M.done j (M.serial js s) := by simp [serial]

/-! ## Isolation -/

section Isolation

variable (V : View S) (φ : C → S → Prop)

/-- From the state on, the jobs are insensitive to a view that the tasks do not change, and safe
wherever jobs done one after another lead. -/
structure Isolated (s : S) : Prop where
  rel_self : V.rel s s
  job : ∀ j, (M.body j).Insensitive (M.handle j) V φ
  safe : ∀ js j, (M.body j).Issues (M.handle j) φ (M.serial js s)
  task : ∀ k, (M.task k).Only (V.Hides (M.taskHandle k))
  spawn : ∀ k s o, V.rel s s → M.spawn k s = some o → V.rel s o.state

/-- The queue is on its way: the jobs done, the one executing and those that wait are the jobs
submitted, in order; under the view, the state is the one the jobs done leave one after another, and
the job executing will end as it does after them. -/
structure OnWay (s : S) (js ds : List J) (t : Running A S J K) : Prop where
  jobs_eq : js = ds ++ (t.current.map Prod.fst).toList ++ t.pending
  rel_self : V.rel t.shared t.shared
  idle : t.current = none → V.rel t.shared (M.serial ds s)
  busy : ∀ j p, t.current = some (j, p) →
    p.Ends (M.handle j) V φ (fun _ s' => V.rel s' (M.serial (ds ++ [j]) s)) t.shared
  workers : ∀ e ∈ t.workers, e.2.Only (V.Hides (M.taskHandle e.1))

variable {M V φ} {s : S} {js ds : List J} {t : Running A S J K}

/-- A change by others within the view leaves the queue on its way. -/
theorem OnWay.others (h : M.OnWay V φ s js ds t) {s' : S} (hs : V.rel t.shared s')
    {workers : List (K × Prog A Unit)}
    (hw : ∀ e ∈ workers, e.2.Only (V.Hides (M.taskHandle e.1))) :
    M.OnWay V φ s js ds { t with shared := s', workers := workers } where
  jobs_eq := h.jobs_eq
  rel_self := View.rel_right hs
  idle hidle := V.trans (V.symm hs) (h.idle hidle)
  busy j p hcurrent :=
    (h.busy j p hcurrent).stable (fun _ _ _ hrel hend => V.trans (V.symm hrel) hend) hs
  workers := hw

/-- The queue executes a command of its job, or is done with it. -/
theorem OnWay.command (h : M.OnWay V φ s js ds t) :
    ∃ ds', M.OnWay V φ s js ds' (M.step t .command).state := by
  obtain ⟨shared, pending, current, workers⟩ := t
  cases current with
  | none => exact ⟨ds, h⟩
  | some jp =>
    obtain ⟨j, p⟩ := jp
    cases p with
    | ret u =>
      refine ⟨ds ++ [j], ?_, h.rel_self, fun _ => h.busy j _ rfl, ?_, h.workers⟩
      · rw [h.jobs_eq]
        exact congrArg (· ++ pending) (List.append_nil _).symm
      · intro j' p' hcurrent
        cases hcurrent
    | call c k =>
      obtain ⟨hends, hself⟩ := (h.busy j _ rfl).advance h.rel_self
      refine ⟨ds, h.jobs_eq, hself, ?_, ?_, h.workers⟩
      · intro hidle
        cases hidle
      · intro j' p' hcurrent
        cases hcurrent
        exact hends

/-- The queue takes its next job. -/
theorem OnWay.dequeue (hM : M.Isolated V φ s) (h : M.OnWay V φ s js ds t) :
    M.OnWay V φ s js ds (M.step t .dequeue).state := by
  obtain ⟨shared, pending, current, workers⟩ := t
  cases current with
  | some jp => exact h
  | none =>
    cases pending with
    | nil => exact h
    | cons j pending =>
      refine ⟨?_, h.rel_self, ?_, ?_, h.workers⟩
      · rw [h.jobs_eq]
        simp [step]
      · intro hidle
        cases hidle
      · intro j' p' hcurrent
        cases hcurrent
        -- the job starts where the jobs done lead, under the view
        refine (hM.job j shared _ (h.idle rfl) (hM.safe ds j)).mono fun _ s' hend => ?_
        rw [serial_snoc]
        exact hend.2

/-- **A move** leaves the queue on its way. -/
theorem OnWay.step (hM : M.Isolated V φ s) (h : M.OnWay V φ s js ds t) (m : Move J K) :
    ∃ ds', M.OnWay V φ s (js ++ m.submitted.toList) ds' (M.step t m).state := by
  cases m with
  | submit j =>
    refine ⟨ds, ?_, h.rel_self, h.idle, h.busy, h.workers⟩
    rw [h.jobs_eq]
    simp [Concurrent.step, Move.submitted]
  | dequeue =>
    rw [Move.submitted, Option.toList_none, List.append_nil]
    exact ⟨ds, h.dequeue hM⟩
  | command =>
    rw [Move.submitted, Option.toList_none, List.append_nil]
    exact h.command
  | spawn k =>
    rw [Move.submitted, Option.toList_none, List.append_nil, Concurrent.step]
    refine ⟨ds, ?_⟩
    split
    · next o hspawn =>
      refine h.others (hM.spawn k _ o h.rel_self hspawn) fun e he => ?_
      rcases List.mem_append.mp he with he | he
      · exact h.workers e he
      · rw [List.mem_singleton.mp he]
        exact hM.task k
    · exact h
  | work n =>
    rw [Move.submitted, Option.toList_none, List.append_nil, Concurrent.step]
    refine ⟨ds, ?_⟩
    split
    · next k p hworker =>
      have hp := h.workers _ (List.mem_of_getElem? hworker)
      refine h.others (hp.advance_rel h.rel_self) fun e he => ?_
      rcases List.mem_or_eq_of_mem_set he with he | rfl
      · exact h.workers e he
      · exact hp.advance _ _
    · exact h

/-- **In every interleaving** the queue is where its jobs lead, done one after another. -/
theorem Isolated.onWay_after (hM : M.Isolated V φ s) (ms : List (Move J K)) :
    ∃ ds, M.OnWay V φ s (submitted ms) ds (M.machine.after (initial s) ms) := by
  induction ms using List.reverseRecOn with
  | nil =>
    refine ⟨[], rfl, hM.rel_self, fun _ => hM.rel_self, ?_, ?_⟩
    · intro j p hcurrent
      cases hcurrent
    · intro e he
      cases he
  | append_singleton ms m ih =>
    obtain ⟨ds, h⟩ := ih
    rw [submitted_snoc, M.machine.after_snoc]
    exact h.step hM m

/-- When no job is executing, the jobs done are those submitted first, and under the view the state
is the one they leave one after another. -/
theorem Isolated.exists_done (hM : M.Isolated V φ s) (ms : List (Move J K))
    (hidle : (M.machine.after (initial s) ms).current = none) :
    ∃ ds, submitted ms = ds ++ (M.machine.after (initial s) ms).pending ∧
      V.rel (M.machine.after (initial s) ms).shared (M.serial ds s) := by
  obtain ⟨ds, h⟩ := hM.onWay_after ms
  refine ⟨ds, ?_, h.idle hidle⟩
  have hjobs := h.jobs_eq
  rwa [hidle, Option.map_none, Option.toList_none, List.append_nil] at hjobs

/-- **The next command** of the queue is safe. -/
theorem Isolated.safe_next (hM : M.Isolated V φ s) (ms : List (Move J K)) {j : J} {c : C}
    {k : A c → Prog A Unit}
    (hnext : (M.machine.after (initial s) ms).current = some (j, .call c k)) :
    φ c (M.machine.after (initial s) ms).shared := by
  obtain ⟨ds, h⟩ := hM.onWay_after ms
  exact (h.busy j _ hnext).safe h.rel_self

end Isolation

/-! ## Invariants -/

/-- What has happened in some moves, whoever did it. -/
def happened (s : S) (ms : List (Move J K)) : List E :=
  (M.machine.trace (initial s) ms).map Prod.snd

theorem map_snd_mk (th : Thread) (es : List E) : (es.map (Prod.mk th)).map Prod.snd = es := by
  rw [List.map_map]
  exact List.map_id es

theorem happened_snoc (s : S) (ms : List (Move J K)) (m : Move J K) :
    M.happened s (ms ++ [m]) =
      M.happened s ms ++ (M.step (M.machine.after (initial s) ms) m).events.map Prod.snd := by
  rw [happened, M.machine.trace_snoc, List.map_append]
  rfl

section Invariant

variable (I : List E → S → Prop) (φ : List E → C → Prop) (okJob : J → Prop)

/-- A move that submits only what is allowed. -/
def Move.Allowed : Move J K → Prop
  | .submit j => okJob j
  | .dequeue | .command | .spawn _ | .work _ => True

/-- The allowed jobs, and the tasks that are spawned, keep an invariant of the state and what has
happened, and their commands meet a condition. -/
structure Preserves : Prop where
  body : ∀ j, okJob j → (M.body j).Learns (M.handle j) I φ []
  task : ∀ k es s o, I es s → M.spawn k s = some o →
    I (es ++ o.events) o.state ∧ (M.task k).Learns (M.taskHandle k) I φ (es ++ o.events)

/-- The invariant holds, and everything still to do keeps it. -/
structure Kept (es : List E) (t : Running A S J K) : Prop where
  shared : I es t.shared
  pending : ∀ j ∈ t.pending, okJob j
  current : ∀ j p, t.current = some (j, p) → p.Learns (M.handle j) I φ es
  workers : ∀ e ∈ t.workers, e.2.Learns (M.taskHandle e.1) I φ es

variable {M I φ okJob} {s : S} {es : List E} {t : Running A S J K}

/-- After a move, what has happened is what happened before, and the events of the move. -/
abbrev Kept.After (M : Concurrent A S E J K) (I : List E → S → Prop) (φ : List E → C → Prop)
    (okJob : J → Prop) (es : List E) (o : Outcome Unit (Running A S J K) (Thread × E)) : Prop :=
  M.Kept I φ okJob (es ++ o.events.map Prod.snd) o.state

theorem Kept.unchanged (h : M.Kept I φ okJob es t) : Kept.After M I φ okJob es ⟨(), t, []⟩ := by
  rwa [Kept.After, List.map_nil, List.append_nil]

theorem Kept.command (h : M.Kept I φ okJob es t) :
    Kept.After M I φ okJob es (M.step t .command) := by
  obtain ⟨shared, pending, current, workers⟩ := t
  cases current with
  | none => exact h.unchanged
  | some jp =>
    obtain ⟨j, p⟩ := jp
    have hp := h.current j p rfl
    cases p with
    | ret u =>
      refine Kept.unchanged ⟨h.shared, h.pending, fun j' p' hcurrent => ?_, h.workers⟩
      cases hcurrent
    | call c k =>
      -- the job goes on with the reply, and the workers knew less before it
      obtain ⟨⟨-, hshared⟩, hrest⟩ := hp es (List.Subset.refl es) shared h.shared
      rw [Kept.After, Concurrent.step, map_snd_mk]
      refine ⟨hshared, h.pending, fun j' p' hcurrent => ?_, fun e he => ?_⟩
      · cases hcurrent
        exact hrest
      · exact (h.workers e he).mono (List.subset_append_left _ _)

theorem Kept.dequeue (hM : M.Preserves I φ okJob) (h : M.Kept I φ okJob es t) :
    Kept.After M I φ okJob es (M.step t .dequeue) := by
  rw [Concurrent.step]
  split
  · next j js _ hpending =>
    refine Kept.unchanged ⟨h.shared, fun j' hj' => ?_, fun j' p hcurrent => ?_, h.workers⟩
    · exact h.pending j' (hpending ▸ List.mem_cons_of_mem j hj')
    · cases hcurrent
      -- a job relies on nothing that has happened before it
      exact (hM.body j (h.pending j (hpending ▸ List.mem_cons_self))).mono (List.nil_subset es)
  · exact h.unchanged

theorem Kept.spawn (hM : M.Preserves I φ okJob) (h : M.Kept I φ okJob es t) (k : K) :
    Kept.After M I φ okJob es (M.step t (.spawn k)) := by
  rw [Concurrent.step]
  split
  · next o hspawn =>
    -- a task may rely on what has spawned it
    obtain ⟨hshared, htask⟩ := hM.task k es _ o h.shared hspawn
    rw [Kept.After, map_snd_mk]
    refine ⟨hshared, h.pending, fun j p hcurrent => ?_, fun e he => ?_⟩
    · exact (h.current j p hcurrent).mono (List.subset_append_left _ _)
    · rcases List.mem_append.mp he with he | he
      · exact (h.workers e he).mono (List.subset_append_left _ _)
      · rw [List.mem_singleton.mp he]
        exact htask
  · exact h.unchanged

theorem Kept.work (h : M.Kept I φ okJob es t) (n : ℕ) :
    Kept.After M I φ okJob es (M.step t (.work n)) := by
  rw [Concurrent.step]
  split
  · next k p hworker =>
    obtain ⟨hrest, hshared⟩ := (h.workers _ (List.mem_of_getElem? hworker)).advance h.shared
    rw [Kept.After, map_snd_mk]
    refine ⟨hshared, h.pending, fun j p' hcurrent => ?_, fun e he => ?_⟩
    · exact (h.current j p' hcurrent).mono (List.subset_append_left _ _)
    · rcases List.mem_or_eq_of_mem_set he with he | rfl
      · exact (h.workers e he).mono (List.subset_append_left _ _)
      · exact hrest
  · exact h.unchanged

/-- **A move** keeps the invariant. -/
theorem Kept.step (hM : M.Preserves I φ okJob) (h : M.Kept I φ okJob es t) {m : Move J K}
    (hm : m.Allowed okJob) : Kept.After M I φ okJob es (M.step t m) := by
  cases m with
  | submit j =>
    refine Kept.unchanged ⟨h.shared, fun j' hj' => ?_, h.current, h.workers⟩
    rcases List.mem_append.mp hj' with hj' | hj'
    · exact h.pending j' hj'
    · rw [List.mem_singleton.mp hj']
      exact hm
  | dequeue => exact h.dequeue hM
  | command => exact h.command
  | spawn k => exact h.spawn hM k
  | work n => exact h.work n

theorem Preserves.kept_after (hM : M.Preserves I φ okJob) (hs : I [] s) {ms : List (Move J K)}
    (hms : ∀ m ∈ ms, m.Allowed okJob) :
    M.Kept I φ okJob (M.happened s ms) (M.machine.after (initial s) ms) := by
  induction ms using List.reverseRecOn with
  | nil =>
    refine ⟨hs, fun j hj => ?_, fun j p hcurrent => ?_, fun e he => ?_⟩
    · cases hj
    · cases hcurrent
    · cases he
  | append_singleton ms m ih =>
    have h := ih fun m' hm' => hms m' (List.mem_append_left _ hm')
    rw [M.machine.after_snoc, happened_snoc]
    exact h.step hM (hms m (List.mem_append_right _ List.mem_cons_self))

/-- **An invariant** that the jobs and the tasks keep holds in every state of every interleaving,
between any two commands, of that state and what has happened. -/
theorem Preserves.invariant_after (hM : M.Preserves I φ okJob) (hs : I [] s)
    {ms : List (Move J K)} (hms : ∀ m ∈ ms, m.Allowed okJob) :
    I (M.happened s ms) (M.machine.after (initial s) ms).shared := (hM.kept_after hs hms).shared

/-- A command that the job executing, or some worker, is about to execute. -/
def Running.Next (t : Running A S J K) (c : C) : Prop :=
  (∃ j k, t.current = some (j, .call c k)) ∨ ∃ e ∈ t.workers, ∃ k, e.2 = .call c k

/-- **The next commands** of all threads meet the condition, in every state of every
interleaving. -/
theorem Preserves.safe_next (hM : M.Preserves I φ okJob) (hs : I [] s) {ms : List (Move J K)}
    (hms : ∀ m ∈ ms, m.Allowed okJob) {c : C}
    (hnext : (M.machine.after (initial s) ms).Next c) : φ (M.happened s ms) c := by
  have h := hM.kept_after hs hms
  rcases hnext with ⟨j, k, hcurrent⟩ | ⟨e, he, k, hrest⟩
  · exact (h.current j _ hcurrent).safe h.shared
  · have hlearns := h.workers e he
    rw [hrest] at hlearns
    exact hlearns.safe h.shared

end Invariant

end Concurrent
