import CTSoftPhone.Programs.Interference

/-!
# Programs interrupted by exceptions

A listener hears the events of a program, and may raise an exception when it hears one. The
exception interrupts the program up to the next handler. A program that handles what is raised
inside it does what the plain program does, which no exception interrupts; so does one that is
interrupted only at its end, except that the exception leaves it.

## Main definitions

* `Listener E X D`: what hears events, and raises exceptions
* `Raising X A α`: programs that exceptions interrupt; `lift`, `attempt`: a plain program without a
  handler, and one around a program
* `Raising.Contained`: a program does what a plain program does, and no exception leaves it
* `Raising.Exits`: it does what a plain program does, and an exception raised at the last event
  leaves it
* `Prog.Tail`: the commands that may raise are the last ones
* `Repeats P es fs`: a trace, and the same in which events of the kind may occur twice in a row

## Main results

* `Contained.lift`, `Exits.lift`: plain programs without a handler
* `Contained.bind`, `Exits.contained_bind`, `Exits.bind`: sequences
* `Exits.attempt`: a handler contains a program that raises at its end
-/

variable {C : Type} {A : C → Type} {S E X D α β : Type}

/-- A listener, with a state of its own: it hears an event, and may raise an exception. -/
structure Listener (E X D : Type) where
  hear : E → D → Except X Unit × D

/-- Programs that exceptions interrupt: a command is answered, or raises. -/
abbrev Raising {C : Type} (X : Type) (A : C → Type) (α : Type) :=
  ExceptT X (Prog fun c => Except X (A c)) α

/-! ## Listeners -/

namespace Listener

variable (L : Listener E X D)

/-- The state of the listener once it has heard events. -/
def after : List E → D → D
  | [], d => d
  | e :: es, d => after es (L.hear e d).2

/-- What the listener raises when it hears events, up to the first exception. -/
def raised : List E → D → Except X Unit
  | [], _ => .ok ()
  | e :: es, d => (L.hear e d).1.bind fun _ => raised es (L.hear e d).2

/-- What the listener raises at the last of the events. -/
def last : List E → D → Except X Unit
  | [], _ => .ok ()
  | [e], d => (L.hear e d).1
  | e :: e' :: es, d => last (e' :: es) (L.hear e d).2

/-- The listener hears the events without raising anything. -/
def Calm (es : List E) : Prop := ∀ e ∈ es, ∀ d, (L.hear e d).1 = .ok ()

/-- The meaning of commands whose events are heard. -/
def handle (h : Handler A S E) : Handler (fun c => Except X (A c)) (S × D) E := fun c s =>
  let o := h c s.1
  ⟨(L.raised o.events s.2).map fun _ => o.val, (o.state, L.after o.events s.2), o.events⟩

variable {L}

@[simp] theorem after_append (es es' : List E) (d : D) :
    L.after (es ++ es') d = L.after es' (L.after es d) := by
  induction es generalizing d with
  | nil => rfl
  | cons e es ih => exact ih _

theorem Calm.raised {es : List E} (h : L.Calm es) (d : D) : L.raised es d = .ok () := by
  induction es generalizing d with
  | nil => rfl
  | cons e es ih =>
    rw [Listener.raised, h e List.mem_cons_self]
    exact ih (fun e' he' => h e' (List.mem_cons_of_mem _ he')) _

theorem last_append_of_ne_nil (es : List E) {es' : List E} (h : es' ≠ []) (d : D) :
    L.last (es ++ es') d = L.last es' (L.after es d) := by
  induction es generalizing d with
  | nil => rfl
  | cons e es ih =>
    obtain ⟨e', es'', he⟩ := List.exists_cons_of_ne_nil (List.append_ne_nil_of_right_ne_nil es h)
    have hrest := ih (L.hear e d).2
    rw [he] at hrest
    rw [List.cons_append, he]
    exact hrest

/-- What is raised at the end is raised by what comes last. -/
theorem last_append {es es' : List E} {d : D} (h : L.last es d = .ok () ∨ es' ≠ []) :
    L.last (es ++ es') d = L.last es' (L.after es d) := by
  by_cases hnil : es' = []
  · rw [hnil, List.append_nil, h.resolve_right fun hne => hne hnil]
    rfl
  · exact last_append_of_ne_nil es hnil d

theorem Calm.last {es : List E} (h : L.Calm es) (d : D) : L.last es d = .ok () := by
  rcases List.eq_nil_or_concat es with rfl | ⟨es, e, rfl⟩
  · rfl
  · rw [List.concat_eq_append, last_append_of_ne_nil es (List.cons_ne_nil e [])]
    exact h e (by simp) _

theorem raised_of_length_le_one {es : List E} (h : es.length ≤ 1) (d : D) :
    L.raised es d = L.last es d := by
  rcases es with _ | ⟨e, _ | ⟨e', es⟩⟩
  · rfl
  · change (L.hear e d).1.bind (fun _ => .ok ()) = (L.hear e d).1
    cases (L.hear e d).1 <;> rfl
  · simp at h

end Listener

/-! ## Programs -/

/-- Every command of the program meets the condition, except perhaps the last one. -/
def Prog.Tail (φ : C → Prop) : Prog A α → Prop
  | .ret _ => True
  | .call c k => (φ c ∧ ∀ x, (k x).Tail φ) ∨ ∀ x, ∃ a, k x = .ret a

namespace Prog.Tail

variable {φ : C → Prop}

theorem ret (a : α) : (Prog.ret a : Prog A α).Tail φ := trivial

theorem call (c : C) : (Prog.call c .ret : Prog A (A c)).Tail φ := .inr fun x => ⟨x, rfl⟩

theorem bind {p : Prog A α} {f : α → Prog A β} (hp : p.Only φ) (hf : ∀ a, (f a).Tail φ) :
    (p >>= f).Tail φ := by
  rw [bind_def]
  induction p with
  | ret a => exact hf a
  | call c k ih => exact .inl ⟨hp.1, fun x => ih x (hp.2 x)⟩

theorem ite {P : Prop} [Decidable P] {p q : Prog A α} (hp : p.Tail φ) (hq : q.Tail φ) :
    (if P then p else q).Tail φ := by
  split
  · exact hp
  · exact hq

end Prog.Tail

namespace Raising

/-- One command. -/
def perform (c : C) : Raising X A (A c) := ExceptT.mk (.call c .ret)

/-- A plain program, without a handler. -/
def lift : Prog A α → Raising X A α
  | .ret a => pure a
  | .call c k => perform c >>= fun x => lift (k x)

/-- A program whose exceptions are handled by doing nothing. -/
def attempt (p : Raising X A Unit) : Raising X A Unit := tryCatch p fun _ => pure ()

section Exec

variable (h : Handler A S E) (L : Listener E X D)

/-- The program run as a whole, its events being heard. -/
def exec (p : Raising X A α) (s : S × D) : Outcome (Except X α) (S × D) E :=
  Prog.run (L.handle h) (ExceptT.run p) s

/-- Continue from an outcome, unless it is an exception. -/
def resume (f : α → Raising X A β) (r : Except X α) (s : S × D) :
    Outcome (Except X β) (S × D) E :=
  match r with
  | .ok a => exec h L (f a) s
  | .error x => ⟨.error x, s, []⟩

@[simp] theorem exec_pure (a : α) (s : S × D) :
    exec h L (pure a : Raising X A α) s = ⟨.ok a, s, []⟩ := rfl

@[simp] theorem exec_bind (p : Raising X A α) (f : α → Raising X A β) (s : S × D) :
    exec h L (p >>= f) s = (exec h L p s).andThen (resume h L f) := by
  change Prog.run _ (Prog.bind (ExceptT.run p) (ExceptT.bindCont f)) s = _
  rw [Prog.run_bind]
  refine congrArg (Outcome.andThen _) ?_
  funext r s
  cases r <;> rfl

@[simp] theorem exec_tryCatch (p : Raising X A α) (f : X → Raising X A α) (s : S × D) :
    exec h L (tryCatch p f) s = (exec h L p s).andThen fun r s =>
      match r with
      | .ok a => ⟨.ok a, s, []⟩
      | .error x => exec h L (f x) s := by
  change Prog.run _ (Prog.bind (ExceptT.run p) _) s = _
  rw [Prog.run_bind]
  refine congrArg (Outcome.andThen _) ?_
  funext r s
  cases r <;> rfl

theorem exec_perform (c : C) (s : S × D) :
    exec h L (perform c : Raising X A (A c)) s = L.handle h c s := by
  change (L.handle h c s).andThen (fun x s => ⟨x, s, []⟩) = _
  rw [Outcome.andThen, List.append_nil]

end Exec

/-! ## What exceptions leave unchanged -/

section Relations

variable (h : Handler A S E) (L : Listener E X D)

/-- The program does what the plain program does, and no exception leaves it. -/
def Contained (p : Raising X A α) (q : Prog A α) : Prop := ∀ s d,
  exec h L p (s, d) =
    ⟨.ok (q.run h s).val, ((q.run h s).state, L.after (q.run h s).events d), (q.run h s).events⟩

/-- The program does what the plain program does, and raises what is raised at its last event. -/
def Exits (p : Raising X A α) (q : Prog A α) : Prop := ∀ s d,
  exec h L p (s, d) =
    ⟨(L.last (q.run h s).events d).map fun _ => (q.run h s).val,
      ((q.run h s).state, L.after (q.run h s).events d), (q.run h s).events⟩

variable {h L} {p : Raising X A α} {q : Prog A α}

/-- A sequence of programs that no exception leaves. -/
theorem Contained.bind {k : α → Raising X A β} {l : α → Prog A β} (hp : Contained h L p q)
    (hk : ∀ a, Contained h L (k a) (l a)) : Contained h L (p >>= k) (q >>= l) := by
  intro s d
  rw [exec_bind, hp s d, Prog.bind_def, Prog.run_bind]
  simp only [Outcome.andThen, resume, hk _ _ _, Listener.after_append]

theorem Contained.pure (a : α) : Contained h L (Pure.pure a : Raising X A α) (.ret a) :=
  fun _ _ => rfl

theorem Contained.ite {P : Prop} [Decidable P] {p' : Raising X A α} {q' : Prog A α}
    (hp : Contained h L p q) (hp' : Contained h L p' q') :
    Contained h L (if P then p else p') (if P then q else q') := by
  split
  · exact hp
  · exact hp'

theorem Contained.forM {f : β → Raising X A PUnit} {g : β → Prog A PUnit}
    (hf : ∀ b, Contained h L (f b) (g b)) (bs : List β) :
    Contained h L (ForM.forM bs f) (ForM.forM bs g) := by
  induction bs with
  | nil => exact Contained.pure PUnit.unit
  | cons b bs ih =>
    rw [List.forM_cons, List.forM_cons]
    exact (hf b).bind fun _ => ih

/-- A plain program none of whose events raises anything. -/
theorem Contained.lift (hq : q.Only fun c => ∀ s, L.Calm (h c s).events) :
    Contained h L (Raising.lift q) q := by
  induction q with
  | ret a => exact Contained.pure a
  | call c k ih =>
    intro s d
    have hrest := ih _ (hq.2 (h c s).val) (h c s).state (L.after (h c s).events d)
    rw [Raising.lift, exec_bind, exec_perform, Prog.run_call]
    simp only [Listener.handle, (hq.1 s).raised, Outcome.andThen, Except.map, resume, hrest,
      Listener.after_append]

/-- A sequence whose first program no exception leaves: nothing is raised at the end of that, or
there is more to come. -/
theorem Exits.contained_bind {k : α → Raising X A β} {l : α → Prog A β} (hp : Contained h L p q)
    (hk : ∀ a, Exits h L (k a) (l a))
    (hlast : ∀ s d, L.last (q.run h s).events d = .ok () ∨
      ((l (q.run h s).val).run h (q.run h s).state).events ≠ []) :
    Exits h L (p >>= k) (q >>= l) := by
  intro s d
  rw [exec_bind, hp s d, Prog.bind_def, Prog.run_bind]
  simp only [Outcome.andThen, resume, hk _ _ _, Listener.after_append,
    Listener.last_append (hlast s d)]

/-- A plain program whose last command alone may raise. -/
theorem Exits.lift (hone : ∀ c s, (h c s).events.length ≤ 1)
    (hq : q.Tail fun c => ∀ s, L.Calm (h c s).events) : Exits h L (Raising.lift q) q := by
  induction q with
  | ret a => exact fun _ _ => rfl
  | call c k ih =>
    rcases hq with ⟨hcalm, hk⟩ | hret
    · refine Exits.contained_bind (q := .call c .ret) ?_ (fun x => ih x (hk x)) ?_
      · intro s d
        simp [exec_perform, Listener.handle, (hcalm s).raised, Outcome.andThen, Except.map]
      · exact fun s d => .inl (by simpa using (hcalm s).last d)
    · intro s d
      obtain ⟨a, ha⟩ := hret (h c s).val
      rw [Raising.lift, exec_bind, exec_perform, Prog.run_call]
      simp only [Listener.handle, Listener.raised_of_length_le_one (hone c s), ha, Outcome.andThen,
        Prog.run_ret, List.append_nil]
      cases L.last (h c s).events d <;> simp [Except.map, resume, ha, Raising.lift]

/-- The events of a program none of whose commands raises anything. -/
theorem calm_run (hq : q.Only fun c => ∀ s, L.Calm (h c s).events) (s : S) :
    L.Calm (q.run h s).events := by
  induction q generalizing s with
  | ret a => exact fun e he => absurd he List.not_mem_nil
  | call c k ih =>
    intro e he
    rcases List.mem_append.mp he with he | he
    · exact hq.1 s e he
    · exact ih _ (hq.2 _) _ e he

/-- A sequence that starts with a plain program none of whose events raises anything. -/
theorem Exits.lift_bind {k : α → Raising X A β} {l : α → Prog A β}
    (hq : q.Only fun c => ∀ s, L.Calm (h c s).events) (hk : ∀ a, Exits h L (k a) (l a)) :
    Exits h L (Raising.lift q >>= k) (q >>= l) :=
  Exits.contained_bind (Contained.lift hq) hk fun s d => .inl ((calm_run hq s).last d)

/-- A sequence whose first program an exception leaves only when nothing is to come. -/
theorem Exits.bind {k : α → Raising X A β} {l : α → Prog A β} (hp : Exits h L p q)
    (hk : ∀ a, Exits h L (k a) (l a))
    (hlast : ∀ s, (∀ d, L.last (q.run h s).events d = .ok ()) ∨ ∃ b, l (q.run h s).val = .ret b) :
    Exits h L (p >>= k) (q >>= l) := by
  intro s d
  rw [exec_bind, hp s d, Prog.bind_def, Prog.run_bind]
  have hrest := hk (q.run h s).val (q.run h s).state (L.after (q.run h s).events d)
  cases hraised : L.last (q.run h s).events d with
  | ok u =>
    -- nothing is raised at the end of the first program, so the second goes on
    simp only [Outcome.andThen, Except.map, resume, hrest, Listener.after_append,
      Listener.last_append (.inl hraised)]
  | error x =>
    rcases hlast s with hcalm | ⟨b, hb⟩
    · rw [hcalm d] at hraised
      cases hraised
    · simp [Outcome.andThen, Except.map, resume, hb, hraised]

theorem Exits.ite {P : Prop} [Decidable P] {p' : Raising X A α} {q' : Prog A α}
    (hp : Exits h L p q) (hp' : Exits h L p' q') :
    Exits h L (if P then p else p') (if P then q else q') := by
  split
  · exact hp
  · exact hp'

/-- **A handler contains** a program that raises at its end. -/
theorem Exits.attempt {p : Raising X A Unit} {q : Prog A Unit} (hp : Exits h L p q) :
    Contained h L (attempt p) q := by
  intro s d
  rw [Raising.attempt, exec_tryCatch, hp s d]
  cases L.last (q.run h s).events d <;> simp [Outcome.andThen, Except.map]

theorem Contained.attempt {p : Raising X A Unit} {q : Prog A Unit} (hp : Contained h L p q) :
    Contained h L (Raising.attempt p) q := by
  intro s d
  rw [Raising.attempt, exec_tryCatch, hp s d]
  simp [Outcome.andThen]

end Relations

end Raising

/-! ## Events that occur twice -/

/-- The second trace is the first, except that an event of the kind may occur twice in a row where
it occurs once. -/
inductive Repeats (P : E → Prop) : List E → List E → Prop
  | nil : Repeats P [] []
  | once (e : E) {es fs : List E} : Repeats P es fs → Repeats P (e :: es) (e :: fs)
  | twice {e : E} {es fs : List E} : P e → Repeats P es fs → Repeats P (e :: es) (e :: e :: fs)

namespace Repeats

variable {P : E → Prop}

theorem refl (es : List E) : Repeats P es es := by
  induction es with
  | nil => exact nil
  | cons e es ih => exact once e ih

theorem append {es es' fs fs' : List E} (h : Repeats P es fs) (h' : Repeats P es' fs') :
    Repeats P (es ++ es') (fs ++ fs') := by
  induction h with
  | nil => exact h'
  | once e _ ih => exact once e ih
  | twice he _ ih => exact twice he ih

/-- The last event occurs once more. -/
theorem snoc {e : E} (he : P e) (es : List E) : Repeats P (es ++ [e]) (es ++ [e] ++ [e]) := by
  rw [List.append_assoc]
  exact (refl es).append (twice he nil)

end Repeats
