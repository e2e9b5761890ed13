import CTSoftPhone.Programs.Concurrent

/-!
# What threads show

An observer sees some of the events. With a log of what it sees as a part of the state, and a view
that shows the log, what holds of the states of a program under interference holds of what the
program shows. So jobs that are insensitive to the view with the log show in every interleaving, one
after another, what they show undisturbed; in the middle of a job, a part of that. A task shows what
it shows undisturbed as long as the others leave the view as it is.

## Main definitions

* `Handler.logged`, `View.logged`: handlers that keep a log of what is seen, and views that show it
* `Concurrent.jobs`: the machine that does jobs one after another
* `Concurrent.logged`: the queue with a log of what its jobs show
* `Concurrent.shown`: what a thread shows in an interleaving
* `Concurrent.Undisturbed`: only one worker changes what a view shows

## Main results

* `Insensitive.of_logged`: programs insensitive to more are insensitive to less
* `Isolated.shows`: in every interleaving the queue shows what its jobs show one after another
* `Undisturbed.shows`: a worker that is undisturbed shows what its task shows as a whole
-/

variable {C : Type} {A : C → Type} {S E J K O α : Type}

/-- The meaning of commands that log what is seen of their events. -/
def Handler.logged (h : Handler A S E) (obs : E → Option O) : Handler A (S × List O) E := fun c s =>
  ⟨(h c s.1).val, ((h c s.1).state, s.2 ++ (h c s.1).events.filterMap obs), (h c s.1).events⟩

/-- The view that shows the log as well. -/
def View.logged (V : View S) (O : Type) : View (S × List O) where
  rel s t := V.rel s.1 t.1 ∧ s.2 = t.2
  symm h := ⟨V.symm h.1, h.2.symm⟩
  trans h h' := ⟨V.trans h.1 h'.1, h.2.trans h'.2⟩

/-! ## Programs with a log -/

namespace Prog

variable {h : Handler A S E} {obs : E → Option O} {V : View S} {φ : C → S → Prop}

theorem run_logged (p : Prog A α) (s : S) (l : List O) :
    p.run (h.logged obs) (s, l) = ⟨(p.run h s).val,
      ((p.run h s).state, l ++ (p.run h s).events.filterMap obs), (p.run h s).events⟩ := by
  induction p generalizing s l with
  | ret a => simp
  | call c k ih =>
    simp only [run_call, Handler.logged, Outcome.andThen, ih, List.filterMap_append,
      List.append_assoc]

theorem advance_logged (p : Prog A α) (s : S) (l : List O) :
    p.advance (h.logged obs) (s, l) = ⟨(p.advance h s).val,
      ((p.advance h s).state, l ++ (p.advance h s).events.filterMap obs),
      (p.advance h s).events⟩ := by
  cases p with
  | ret a => simp
  | call c f => rfl

theorem issues_logged {p : Prog A α} {s : S} {l : List O} :
    p.Issues (h.logged obs) (fun c s => φ c s.1) (s, l) ↔ p.Issues h φ s := by
  induction p generalizing s l with
  | ret a => exact Iff.rfl
  | call c k ih => exact and_congr_right fun _ => ih _

theorem Ends.of_logged {p : Prog A α} {Q : α → S × List O → Prop} {s : S} {l : List O}
    (hp : p.Ends (h.logged obs) (V.logged O) (fun c s => φ c s.1) Q (s, l)) :
    p.Ends h V φ (fun a s => ∃ l, Q a (s, l)) s := by
  induction p generalizing s l with
  | ret a => exact ⟨l, hp⟩
  | call c k ih =>
    intro s' hs'
    obtain ⟨⟨hφ, hrel⟩, hrest⟩ := hp (s', l) ⟨hs', rfl⟩
    exact ⟨⟨hφ, hrel.1⟩, ih _ hrest⟩

/-- **Insensitive** to what a view shows and to the log, a program is insensitive to the view. -/
theorem Insensitive.of_logged {p : Prog A α}
    (hp : p.Insensitive (h.logged obs) (V.logged O) fun c s => φ c s.1) :
    p.Insensitive h V φ := by
  intro s t hst hsafe
  refine (hp (s, []) (t, []) ⟨hst, rfl⟩ (issues_logged.mpr hsafe)).of_logged.mono ?_
  rintro a s' ⟨l, hval, hrel⟩
  rw [run_logged] at hval hrel
  exact ⟨hval, hrel.1⟩

theorem issues_of_forall (hφ : ∀ c s, φ c s) (p : Prog A α) (s : S) : p.Issues h φ s := by
  induction p generalizing s with
  | ret a => trivial
  | call c k ih => exact ⟨hφ c s, ih _ _⟩

/-- Left alone, a program ends as it does under interference. -/
theorem Ends.run {p : Prog A α} {Q : α → S → Prop} {s : S} (hp : p.Ends h V φ Q s)
    (hs : V.rel s s) : Q (p.run h s).val (p.run h s).state := by
  induction p generalizing s with
  | ret a => exact hp
  | call c k ih => exact ih _ (hp s hs).2 (hp s hs).1.2

end Prog

/-- A command that the view does not show, and of which nothing is logged. -/
theorem View.Hides.logged {V : View S} {h : Handler A S E} {obs : E → Option O} {c : C}
    (hc : V.Hides h c) (hobs : ∀ s, (h c s).events.filterMap obs = []) :
    (V.logged O).Hides (h.logged obs) c := by
  intro s hs
  refine ⟨hc s.1 hs.1, ?_⟩
  rw [Handler.logged, hobs, List.append_nil]

/-! ## The queue with a log -/

namespace Concurrent

variable (M : Concurrent A S E J K) (obs : E → Option O)

/-- The machine that does jobs one after another, each as a whole. -/
def jobs : Machine S J E := ⟨fun j s => (M.body j).run (M.handle j) s⟩

theorem serial_eq_after (js : List J) (s : S) : M.serial js s = M.jobs.after s js := by
  induction js using List.reverseRecOn with
  | nil => rfl
  | append_singleton js j ih => rw [serial_snoc, M.jobs.after_snoc, ih]; rfl

/-- The queue with a log of what its jobs show; the tasks log nothing. -/
def logged : Concurrent A (S × List O) E J K where
  body := M.body
  handle j := (M.handle j).logged obs
  task := M.task
  taskHandle k := (M.taskHandle k).logged fun _ => none
  spawn k s := (M.spawn k s.1).map fun o => ⟨(), (o.state, s.2), o.events⟩

theorem serial_logged (js : List J) (s : S) :
    (M.logged obs).serial js (s, []) = (M.serial js s, (M.jobs.trace s js).filterMap obs) := by
  induction js using List.reverseRecOn with
  | nil => rfl
  | append_singleton js j ih =>
    rw [serial_snoc, ih, serial_snoc, M.jobs.trace_snoc, List.filterMap_append,
      ← M.serial_eq_after]
    exact congrArg Outcome.state (Prog.run_logged _ _ _)

/-- What is seen of the events of a thread. -/
def seenOf (th : Thread) (e : Thread × E) : Option O := if e.1 = th then obs e.2 else none

/-- What a thread shows in an interleaving. -/
def shown (th : Thread) (t : Running A S J K) (ms : List (Move J K)) : List O :=
  (M.machine.trace t ms).filterMap (seenOf obs th)

theorem filterMap_seenOf (th : Thread) (es : List E) :
    (es.map (Prod.mk th)).filterMap (seenOf obs th) = es.filterMap obs := by
  rw [List.filterMap_map]
  exact List.filterMap_congr fun e _ => if_pos rfl

theorem filterMap_seenOf_of_ne {th th' : Thread} (h : th' ≠ th) (es : List E) :
    (es.map (Prod.mk th')).filterMap (seenOf obs th) = [] := by
  rw [List.filterMap_map, List.filterMap_eq_nil_iff]
  exact fun e _ => if_neg h

/-- Less of what is shown. -/
theorem filterMap_shown {O' : Type} (obs' : O → Option O') (th : Thread) (t : Running A S J K)
    (ms : List (Move J K)) :
    (M.shown obs th t ms).filterMap obs' = M.shown (fun e => (obs e).bind obs') th t ms := by
  rw [shown, List.filterMap_filterMap]
  refine List.filterMap_congr fun e _ => ?_
  unfold seenOf
  split <;> rfl

/-- The queue and the workers, without the log. -/
def Running.unlogged (t : Running A (S × List O) J K) : Running A S J K :=
  ⟨t.shared.1, t.pending, t.current, t.workers⟩

/-- **A move** does with the log what it does without, and logs what the queue shows. -/
theorem step_logged (t : Running A (S × List O) J K) (m : Move J K) :
    ((M.logged obs).step t m).state.unlogged = (M.step t.unlogged m).state ∧
      ((M.logged obs).step t m).state.shared.2 =
        t.shared.2 ++ (M.step t.unlogged m).events.filterMap (seenOf obs .queue) := by
  obtain ⟨⟨s, l⟩, pending, current, workers⟩ := t
  cases m with
  | submit j => exact ⟨rfl, (List.append_nil l).symm⟩
  | dequeue =>
    cases current with
    | some jp => exact ⟨rfl, (List.append_nil l).symm⟩
    | none => cases pending <;> exact ⟨rfl, (List.append_nil l).symm⟩
  | command =>
    cases current with
    | none => exact ⟨rfl, (List.append_nil l).symm⟩
    | some jp =>
      obtain ⟨j, p⟩ := jp
      cases p with
      | ret u => exact ⟨rfl, (List.append_nil l).symm⟩
      | call c k => exact ⟨rfl, congrArg (l ++ ·) (filterMap_seenOf obs .queue _).symm⟩
  | spawn k =>
    cases hspawn : M.spawn k s with
    | none => simp [step, logged, Running.unlogged, hspawn]
    | some o => simp [step, logged, Running.unlogged, hspawn, seenOf]
  | work n =>
    cases hworker : workers[n]? with
    | none => simp [step, Running.unlogged, hworker]
    | some e =>
      obtain ⟨k, p⟩ := e
      cases p with
      | ret u => simp [step, Running.unlogged, hworker]
      | call c f =>
        simp [step, Running.unlogged, hworker, logged, Prog.advance, Handler.logged, seenOf]

/-- **In every interleaving** the log is what the queue shows. -/
theorem after_logged (s : S) (ms : List (Move J K)) :
    ((M.logged obs).machine.after (initial (s, [])) ms).unlogged =
        M.machine.after (initial s) ms ∧
      ((M.logged obs).machine.after (initial (s, [])) ms).shared.2 =
        M.shown obs .queue (initial s) ms := by
  induction ms using List.reverseRecOn with
  | nil => exact ⟨rfl, rfl⟩
  | append_singleton ms m ih =>
    obtain ⟨hstate, hlog⟩ :=
      M.step_logged obs ((M.logged obs).machine.after (initial (s, [])) ms) m
    rw [ih.1] at hstate hlog
    rw [ih.2] at hlog
    rw [(M.logged obs).machine.after_snoc, M.machine.after_snoc, shown, M.machine.trace_snoc,
      List.filterMap_append]
    exact ⟨hstate, hlog⟩

section Isolation

variable {M obs} {V : View S} {φ : C → S → Prop} {s : S}

/-- The queue with a log is isolated when the queue is, and the jobs are insensitive to the view
with the log. -/
theorem Isolated.logged (hM : M.Isolated V φ s) (hjob : ∀ j,
    (M.body j).Insensitive ((M.handle j).logged obs) (V.logged O) fun c s => φ c s.1) :
    (M.logged obs).Isolated (V.logged O) (fun c s => φ c s.1) (s, []) where
  rel_self := ⟨hM.rel_self, rfl⟩
  job := hjob
  safe js j := by
    rw [serial_logged]
    exact Prog.issues_logged.mpr (hM.safe js j)
  task k := (hM.task k).mono fun c hc => hc.logged fun s => by simp
  spawn k s' o hs' hspawn := by
    obtain ⟨o', ho', rfl⟩ := Option.map_eq_some_iff.mp hspawn
    exact ⟨hM.spawn k s'.1 o' hs'.1 ho', rfl⟩

/-- **What the queue shows**: in every interleaving, the jobs that it has taken are those submitted
first; what it has shown is a part of what they show one after another, undisturbed, and all of it
when no job is executing. -/
theorem Isolated.shows (hM : M.Isolated V φ s) (hjob : ∀ j,
    (M.body j).Insensitive ((M.handle j).logged obs) (V.logged O) fun c s => φ c s.1)
    (ms : List (Move J K)) :
    ∃ js, submitted ms = js ++ (M.machine.after (initial s) ms).pending ∧
      M.shown obs .queue (initial s) ms <+: (M.jobs.trace s js).filterMap obs ∧
      ((M.machine.after (initial s) ms).current = none →
        M.shown obs .queue (initial s) ms = (M.jobs.trace s js).filterMap obs) := by
  obtain ⟨ds, h⟩ := (hM.logged hjob).onWay_after ms
  obtain ⟨hstate, hlog⟩ := M.after_logged obs s ms
  generalize (M.logged obs).machine.after (initial (s, [])) ms = t at h hstate hlog
  rw [← hstate, ← hlog]
  obtain ⟨⟨s', l⟩, pending, current, workers⟩ := t
  cases current with
  | none =>
    have hend := (h.idle rfl).2
    rw [serial_logged] at hend
    refine ⟨ds, ?_, ?_, fun _ => hend⟩
    · rw [h.jobs_eq]
      exact congrArg (· ++ pending) (List.append_nil ds)
    · exact hend ▸ List.prefix_rfl
  | some jp =>
    obtain ⟨j, p⟩ := jp
    refine ⟨ds ++ [j], h.jobs_eq, ?_, fun hidle => ?_⟩
    · -- left alone, the job executing goes on to show the rest
      have hend := ((h.busy j p rfl).run h.rel_self).2
      change (p.run ((M.handle j).logged obs) (s', l)).state.2 = _ at hend
      rw [serial_logged, Prog.run_logged] at hend
      exact ⟨_, hend⟩
    · cases hidle

end Isolation

/-! ## A worker that is undisturbed -/

/-- Among some moves, only one worker changes what the view shows. -/
def Undisturbed (V : View S) (n : ℕ) : Running A S J K → List (Move J K) → Prop
  | _, [] => True
  | t, m :: ms =>
    (m ≠ .work n → V.rel t.shared (M.step t m).state.shared) ∧
      Undisturbed V n (M.step t m).state ms

instance (m : Move J K) (n : ℕ) : Decidable (m = .work n) :=
  match m with
  | .work k => decidable_of_iff (k = n) ⟨congrArg _, fun h => by injection h⟩
  | .submit _ | .dequeue | .command | .spawn _ => .isFalse nofun

instance decidableUndisturbed (V : View S) [h : DecidableRel V.rel] (n : ℕ) :
    (t : Running A S J K) → (ms : List (Move J K)) → Decidable (M.Undisturbed V n t ms)
  | _, [] => .isTrue trivial
  | t, m :: ms =>
    have := h t.shared (M.step t m).state.shared
    have := decidableUndisturbed V n (M.step t m).state ms
    instDecidableAnd (p := m ≠ .work n → V.rel t.shared (M.step t m).state.shared)

/-- To a view that shows nothing, nothing is a change. -/
theorem undisturbed_of_forall {V : View S} (hV : ∀ s t, V.rel s t) (n : ℕ) (t : Running A S J K)
    (ms : List (Move J K)) : M.Undisturbed V n t ms := by
  induction ms generalizing t with
  | nil => trivial
  | cons m ms ih => exact ⟨fun _ => hV _ _, ih _⟩

section Undisturbed

variable {n : ℕ} {t : Running A S J K} {k : K} {p : Prog A Unit}

/-- A move of the others leaves a worker what it has still to do, and it shows nothing. -/
theorem step_of_ne (hworker : t.workers[n]? = some (k, p)) {m : Move J K} (hm : m ≠ .work n) :
    (M.step t m).state.workers[n]? = some (k, p) ∧
      (M.step t m).events.filterMap (seenOf obs (.worker n)) = [] := by
  obtain ⟨s, pending, current, workers⟩ := t
  cases m with
  | submit j => exact ⟨hworker, rfl⟩
  | dequeue =>
    cases current with
    | some jp => exact ⟨hworker, rfl⟩
    | none => cases pending <;> exact ⟨hworker, rfl⟩
  | command =>
    cases current with
    | none => exact ⟨hworker, rfl⟩
    | some jp =>
      obtain ⟨j, q⟩ := jp
      cases q with
      | ret u => exact ⟨hworker, rfl⟩
      | call c f => exact ⟨hworker, filterMap_seenOf_of_ne obs (by simp) _⟩
  | spawn k' =>
    have hn : n < workers.length := (List.getElem?_eq_some_iff.mp hworker).1
    rw [step]
    split
    · exact ⟨(List.getElem?_append_left hn).trans hworker,
        filterMap_seenOf_of_ne obs (by simpa using hn.ne') _⟩
    · exact ⟨hworker, rfl⟩
  | work n' =>
    have hne : n' ≠ n := fun he => hm (he ▸ rfl)
    rw [step]
    split
    · exact ⟨(List.getElem?_set_ne hne).trans hworker,
        filterMap_seenOf_of_ne obs (by simpa using hne) _⟩
    · exact ⟨hworker, rfl⟩

theorem step_self (hworker : t.workers[n]? = some (k, p)) :
    (M.step t (.work n)).state.workers[n]? =
        some (k, (p.advance (M.taskHandle k) t.shared).val) ∧
      (M.step t (.work n)).state.shared = (p.advance (M.taskHandle k) t.shared).state ∧
      (M.step t (.work n)).events.filterMap (seenOf obs (.worker n)) =
        (p.advance (M.taskHandle k) t.shared).events.filterMap obs := by
  have hn : n < t.workers.length := (List.getElem?_eq_some_iff.mp hworker).1
  rw [step]
  split
  · next k' p' hworker' =>
    cases hworker'.symm.trans hworker
    exact ⟨List.getElem?_set_self hn, rfl, filterMap_seenOf obs _ _⟩
  · next hnone => cases hnone.symm.trans hworker

variable {M obs} {V : View S}

/-- **A worker on its way** stays there, and shows what it logs. -/
theorem Undisturbed.ends {φ : C → S × List O → Prop} {Q : Unit → S × List O → Prop}
    (hQ : ∀ u s s', (V.logged O).rel s s' → Q u s → Q u s') {l : List O} {ms : List (Move J K)}
    (hworker : t.workers[n]? = some (k, p)) (hself : V.rel t.shared t.shared)
    (hends : p.Ends ((M.taskHandle k).logged obs) (V.logged O) φ Q (t.shared, l))
    (hms : M.Undisturbed V n t ms) :
    ∃ p', (M.machine.after t ms).workers[n]? = some (k, p') ∧
      p'.Ends ((M.taskHandle k).logged obs) (V.logged O) φ Q
        ((M.machine.after t ms).shared, l ++ M.shown obs (.worker n) t ms) := by
  induction ms generalizing t p l with
  | nil => exact ⟨p, hworker, by rwa [shown, Machine.trace_nil, List.filterMap_nil,
      List.append_nil]⟩
  | cons m ms ih =>
    obtain ⟨hm, hrest⟩ := hms
    have htrace : M.machine.trace t (m :: ms) =
        (M.step t m).events ++ M.machine.trace (M.step t m).state ms := rfl
    rw [shown, htrace, List.filterMap_append, ← List.append_assoc]
    by_cases hwork : m = .work n
    · subst hwork
      obtain ⟨hworker', hshared, hevents⟩ := step_self M obs hworker
      obtain ⟨hends', hself'⟩ := hends.advance ⟨hself, rfl⟩
      rw [Prog.advance_logged] at hends' hself'
      rw [hevents]
      rw [← hshared] at hends' hself'
      exact ih hworker' hself'.1 hends' hrest
    · obtain ⟨hworker', hevents⟩ := step_of_ne M obs hworker hwork
      have hrel := hm hwork
      rw [hevents, List.append_nil]
      exact ih hworker' (View.rel_right hrel) (hends.stable hQ ⟨hrel, rfl⟩) hrest

/-- **A worker that is undisturbed** shows, when it is done, what its task shows as a whole, and
leaves what the task leaves. -/
theorem Undisturbed.shows {ms : List (Move J K)} (hworker : t.workers[n]? = some (k, p))
    (hself : V.rel t.shared t.shared)
    (hp : p.Insensitive ((M.taskHandle k).logged obs) (V.logged O) fun _ _ => True)
    (hms : M.Undisturbed V n t ms) {u : Unit}
    (hdone : (M.machine.after t ms).workers[n]? = some (k, .ret u)) :
    M.shown obs (.worker n) t ms = (p.run (M.taskHandle k) t.shared).events.filterMap obs ∧
      V.rel (M.machine.after t ms).shared (p.run (M.taskHandle k) t.shared).state := by
  have hstart := hp (t.shared, []) (t.shared, []) ⟨hself, rfl⟩
    (Prog.issues_of_forall (fun _ _ => trivial) p _)
  obtain ⟨p', hp', hends⟩ := hms.ends (fun _ _ _ hrel hq => ⟨hq.1, (V.logged O).trans
    ((V.logged O).symm hrel) hq.2⟩) hworker hself hstart
  rw [hdone, Option.some.injEq, Prod.mk.injEq] at hp'
  obtain ⟨-, rfl⟩ := hp'
  rw [Prog.run_logged] at hends
  exact ⟨hends.2.2, hends.2.1⟩

end Undisturbed

end Concurrent
