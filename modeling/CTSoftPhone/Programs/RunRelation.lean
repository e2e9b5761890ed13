import CTSoftPhone.Programs.History

/-!
# Properties of runs

A property of runs relates the state before a run, its events and the state after it. When it holds
of the empty run and composes, it holds of a program as soon as it holds of its parts, and of a
history as soon as it holds of its steps. One such property is that some part of the state is the
last value the events show.

## Main definitions

* `RunRelation S E`: a composable property of runs
* `Prog.Meets h R p`: every run of a program has the property
* `RunRelation.folds`: the property that a part of the state is the events folded over it
* `lastSeen obs es`, `RunRelation.shows`: the last value shown in a trace, and the property that a
  part of the state is the last value shown
* `OwedTo obs kind owed es`: every event of a kind is owed to the last value shown before it

## Main results

* `Prog.Meets.bind`: sequences have what their parts have
* `Machine.rel_after`: histories have what their steps have
* `Machine.view_after`: a view kept up to date by every step is the last value shown
* `OwedTo.append`, `OwedTo.of_filterMap`: what is owed in the parts of a trace, and in what is seen
  of it
-/

variable {C : Type} {A : C → Type} {S E I V α β : Type}

/-- A property of runs that holds of the empty run and composes. -/
structure RunRelation (S E : Type) where
  rel : S → List E → S → Prop
  refl : ∀ s, rel s [] s
  trans : ∀ {s t u es fs}, rel s es t → rel t fs u → rel s (es ++ fs) u

/-- Every run of the program has the property. -/
def Prog.Meets (h : Handler A S E) (R : RunRelation S E) (p : Prog A α) : Prop :=
  ∀ s, R.rel s (p.run h s).events (p.run h s).state

namespace Prog.Meets

variable {h : Handler A S E} {R : RunRelation S E}

theorem ret (a : α) : (Prog.ret a : Prog A α).Meets h R := R.refl

theorem call {c : C} (hc : ∀ s, R.rel s (h c s).events (h c s).state) :
    (Prog.call c .ret : Prog A (A c)).Meets h R := by
  intro s
  simpa using hc s

theorem bind {p : Prog A α} {f : α → Prog A β} (hp : p.Meets h R) (hf : ∀ a, (f a).Meets h R) :
    (p >>= f).Meets h R := by
  intro s
  rw [bind_def, run_bind]
  exact R.trans (hp s) (hf _ _)

/-- Programs have what their commands have. -/
theorem of_commands (hc : ∀ c s, R.rel s (h c s).events (h c s).state) (p : Prog A α) :
    p.Meets h R := by
  intro s
  induction p generalizing s with
  | ret a => exact R.refl s
  | call c k ih => exact R.trans (hc c s) (ih _ _)

theorem ite {P : Prop} [Decidable P] {p q : Prog A α} (hp : p.Meets h R) (hq : q.Meets h R) :
    (if P then p else q).Meets h R := by
  split
  · exact hp
  · exact hq

theorem forM {f : β → Prog A PUnit} (hf : ∀ b, (f b).Meets h R) (bs : List β) :
    (ForM.forM bs f : Prog A PUnit).Meets h R := by
  induction bs with
  | nil => exact ret PUnit.unit
  | cons b bs ih =>
    rw [List.forM_cons]
    exact (hf b).bind fun _ => ih

end Prog.Meets

/-- Histories have what their steps have. -/
theorem Machine.rel_after_of_mem (M : Machine S I E) (R : RunRelation S E) (s : S) {is : List I}
    (hstep : ∀ i ∈ is, ∀ s, R.rel s (M.step i s).events (M.step i s).state) :
    R.rel s (M.trace s is) (M.after s is) := by
  induction is using List.reverseRecOn with
  | nil => exact R.refl s
  | append_singleton is i ih =>
    rw [after_snoc, trace_snoc]
    have hbefore := ih fun j hj => hstep j (List.mem_append_left _ hj)
    exact R.trans hbefore (hstep i (List.mem_append_right _ List.mem_cons_self) _)

theorem Machine.rel_after (M : Machine S I E) (R : RunRelation S E)
    (hstep : ∀ i s, R.rel s (M.step i s).events (M.step i s).state) (s : S) (is : List I) :
    R.rel s (M.trace s is) (M.after s is) :=
  M.rel_after_of_mem R s fun i _ => hstep i

/-- The view is the events folded over what it was. -/
def RunRelation.folds (note : V → E → V) (view : S → V) : RunRelation S E where
  rel s es t := view t = es.foldl note (view s)
  refl _ := rfl
  trans h h' := by rw [h', h, List.foldl_append]

/-! ## The last value seen -/

/-- The last value that the events show. -/
def lastSeen (obs : E → Option V) (es : List E) : Option V := (es.filterMap obs).getLast?

section LastSeen

variable {obs : E → Option V}

theorem lastSeen_append (es fs : List E) :
    lastSeen obs (es ++ fs) = (lastSeen obs fs).or (lastSeen obs es) := by
  rw [lastSeen, List.filterMap_append, List.getLast?_append]
  rfl

theorem lastSeen_eq_none {es : List E} (h : ∀ e ∈ es, obs e = none) : lastSeen obs es = none := by
  rw [lastSeen, List.filterMap_eq_nil_iff.mpr h]
  rfl

/-- What is shown first is seen last, when nothing after it is shown. -/
theorem lastSeen_cons_of_none {e : E} {v : V} {es : List E} (he : obs e = some v)
    (hnone : ∀ e' ∈ es, obs e' = none) : lastSeen obs (e :: es) = some v := by
  rw [lastSeen, List.filterMap_cons_some he, List.filterMap_eq_nil_iff.mpr hnone]
  rfl

theorem exists_mem_of_lastSeen_eq_some {es : List E} {v : V} (h : lastSeen obs es = some v) :
    ∃ e ∈ es, obs e = some v :=
  List.mem_filterMap.mp (List.mem_of_getLast? h)

theorem lastSeen_ne_none {es : List E} {e : E} (he : e ∈ es) (h : obs e ≠ none) :
    lastSeen obs es ≠ none := by
  intro hnone
  rw [lastSeen, List.getLast?_eq_none_iff, List.filterMap_eq_nil_iff] at hnone
  exact h (hnone e he)

/-- The view is the last value shown, or what it was. -/
def RunRelation.shows (obs : E → Option V) (view : S → V) : RunRelation S E where
  rel s es t := view t = (lastSeen obs es).getD (view s)
  refl _ := rfl
  trans {s t u es fs} h h' := by
    rw [h', h, lastSeen_append]
    cases lastSeen obs fs <;> rfl

end LastSeen

/-- **A view kept up to date** by every step is, after every history, the last value shown. -/
theorem Machine.view_after (M : Machine S I E) {obs : E → Option V} (view : S → V)
    (hstep : ∀ i s, view (M.step i s).state = (lastSeen obs (M.step i s).events).getD (view s))
    (s : S) (is : List I) :
    view (M.after s is) = (lastSeen obs (M.trace s is)).getD (view s) :=
  M.rel_after (.shows obs view) hstep s is

/-! ## Events owed to what was seen last -/

/-- Every event of the kind is owed to the last value shown before it. -/
def OwedTo (obs : E → Option V) (kind : E → Prop) (owed : V → E → Prop) (es : List E) : Prop :=
  ∀ pre e post, es = pre ++ e :: post → kind e → ∃ v, lastSeen obs pre = some v ∧ owed v e

theorem lastSeen_map {obs : E → Option V} {W : Type} (f : V → W) (es : List E) :
    lastSeen (fun e => (obs e).map f) es = (lastSeen obs es).map f := by
  rw [lastSeen, lastSeen, ← List.map_filterMap, List.getLast?_map]

namespace OwedTo

variable {obs : E → Option V} {kind : E → Prop} {owed : V → E → Prop}

theorem of_not_kind {es : List E} (h : ∀ e ∈ es, ¬ kind e) : OwedTo obs kind owed es := by
  rintro pre e post rfl hkind
  exact absurd hkind (h e (List.mem_append_right pre List.mem_cons_self))

theorem mono {owed' : V → E → Prop} {es : List E} (h : OwedTo obs kind owed es)
    (howed : ∀ v e, owed v e → owed' v e) : OwedTo obs kind owed' es := by
  intro pre e post he hkind
  obtain ⟨v, hv, hve⟩ := h pre e post he hkind
  exact ⟨v, hv, howed v e hve⟩

/-- A value shown, and then what is owed to it. -/
theorem cons {e : E} {v : V} {es : List E} (he : ¬ kind e) (hv : obs e = some v)
    (hnone : ∀ e' ∈ es, obs e' = none) (howed : ∀ e' ∈ es, kind e' → owed v e') :
    OwedTo obs kind owed (e :: es) := by
  rintro (_ | ⟨e', pre⟩) e'' post hes hkind
  · obtain ⟨rfl, -⟩ := List.cons.inj hes
    exact absurd hkind he
  · obtain ⟨rfl, rfl⟩ := List.cons.inj hes
    refine ⟨v, ?_, howed e'' (List.mem_append_right pre List.mem_cons_self) hkind⟩
    exact lastSeen_cons_of_none hv fun e' he' => hnone e' (List.mem_append_left _ he')

/-- What is owed in the parts of a trace is owed in the trace. -/
theorem append {es fs : List E} (h : OwedTo obs kind owed es) (h' : OwedTo obs kind owed fs) :
    OwedTo obs kind owed (es ++ fs) := by
  intro pre e post he hkind
  -- the event is in the second part, or in the first
  rcases List.append_eq_append_iff.mp he with ⟨mid, rfl, rfl⟩ | ⟨mid, rfl, hmid⟩
  · obtain ⟨v, hv, howed⟩ := h' mid e post rfl hkind
    exact ⟨v, by rw [lastSeen_append, hv]; rfl, howed⟩
  · cases mid with
    | nil =>
      -- at the head of the second part, there is nothing before it to be owed to
      obtain ⟨v, hv, -⟩ := h' [] e post hmid.symm hkind
      cases hv
    | cons e' mid =>
      obtain ⟨rfl, rfl⟩ := List.cons.inj hmid
      exact h pre e mid rfl hkind

/-- What is owed in what is seen of a trace is owed in the trace. -/
theorem of_filterMap {F : Type} {f : E → Option F} {obs : F → Option V} {kind : F → Prop}
    {owed : V → F → Prop} {es : List E} (h : OwedTo obs kind owed (es.filterMap f)) :
    OwedTo (fun e => (f e).bind obs) (fun e => ∃ x, f e = some x ∧ kind x)
      (fun v e => ∃ x, f e = some x ∧ owed v x) es := by
  rintro pre e post rfl ⟨x, hx, hkind⟩
  rw [List.filterMap_append, List.filterMap_cons_some hx] at h
  obtain ⟨v, hv, howed⟩ := h _ x _ rfl hkind
  rw [lastSeen, List.filterMap_filterMap] at hv
  exact ⟨v, hv, x, hx, howed⟩

end OwedTo

/-- What is seen last before something seen of a trace. -/
theorem exists_split_of_filterMap {F : Type} {f : E → Option F} {es : List E} {xs ys : List F}
    {x : F} (h : es.filterMap f = xs ++ x :: ys) :
    ∃ pre e post, es = pre ++ e :: post ∧ f e = some x ∧ pre.filterMap f = xs := by
  obtain ⟨pre, rest, rfl, hpre, hrest⟩ := List.filterMap_eq_append_iff.mp h
  obtain ⟨pre', e, post, rfl, hnone, he, -⟩ := List.filterMap_eq_cons_iff.mp hrest
  refine ⟨pre ++ pre', e, post, (List.append_assoc pre pre' (e :: post)).symm, he, ?_⟩
  rw [List.filterMap_append, hpre, List.filterMap_eq_nil_iff.mpr hnone, List.append_nil]
