import CTSoftPhone.Programs.Interleaved

/-!
# Programs under interference

Between two commands of a program, others may change the state. A view says which changes a program
does not notice: a partial equivalence of states, whose domain is what all of them keep. A program
is insensitive to the view when, whatever others do within it, the program returns what it returns
when it runs undisturbed, ends in a state with the same view, and issues no command it would not be
safe to issue undisturbed.

## Main definitions

* `Prog.Only φ`: every command a program may issue meets a condition
* `Prog.Issues h φ`: every command an undisturbed run issues is safe in the state it is issued in
* `View S`: what a program can tell apart
* `Prog.Learns h I φ`: the commands of a program keep an invariant that others keep, and meet a
  condition, both of which may refer to all that has happened
* `Prog.Ends`: what a program does under interference
* `Prog.Insensitive`: under interference it does what it does undisturbed

## Main results

* `Learns.bind`, `Learns.ask`, `Learns.ask_silent`: the rules for a program that learns from its
  commands
* `Insensitive.bind`, `Insensitive.call`, `Insensitive.observe`: the rules for sequences and
  commands
* `Insensitive.of_only`: programs that the view does not show at all
* `Ends.advance`, `Ends.stable`: one command of a program, and a change by others, on the way
-/

variable {C : Type} {A : C → Type} {S E α β : Type}

namespace Prog

/-- Every command that the program may issue, whatever it is answered, meets the condition. -/
def Only (φ : C → Prop) : Prog A α → Prop
  | .ret _ => True
  | .call c k => φ c ∧ ∀ x, (k x).Only φ

namespace Only

variable {φ : C → Prop}

theorem ret (a : α) : (Prog.ret a : Prog A α).Only φ := trivial

theorem call {c : C} (hc : φ c) : (Prog.call c .ret : Prog A (A c)).Only φ := ⟨hc, ret⟩

theorem bind {p : Prog A α} {f : α → Prog A β} (hp : p.Only φ) (hf : ∀ a, (f a).Only φ) :
    (p >>= f).Only φ := by
  rw [bind_def]
  induction p with
  | ret a => exact hf a
  | call c k ih => exact ⟨hp.1, fun x => ih x (hp.2 x)⟩

theorem ite {P : Prop} [Decidable P] {p q : Prog A α} (hp : p.Only φ) (hq : q.Only φ) :
    (if P then p else q).Only φ := by
  split
  · exact hp
  · exact hq

theorem forM {f : β → Prog A PUnit} (hf : ∀ b, (f b).Only φ) (bs : List β) :
    (ForM.forM bs f : Prog A PUnit).Only φ := by
  induction bs with
  | nil => exact ret PUnit.unit
  | cons b bs ih =>
    rw [List.forM_cons]
    exact (hf b).bind fun _ => ih

theorem mono {ψ : C → Prop} (h : ∀ c, φ c → ψ c) {p : Prog A α} (hp : p.Only φ) : p.Only ψ := by
  induction p with
  | ret a => trivial
  | call c k ih => exact ⟨h c hp.1, fun x => ih x (hp.2 x)⟩

theorem advance {p : Prog A α} (hp : p.Only φ) (h : Handler A S E) (s : S) :
    (p.advance h s).val.Only φ := by
  cases p with
  | ret a => exact hp
  | call c k => exact hp.2 _

end Only

section Issues

variable (h : Handler A S E) (φ : C → S → Prop)

/-- Every command of an undisturbed run is safe in the state it is issued in. -/
def Issues : Prog A α → S → Prop
  | .ret _, _ => True
  | .call c k, s => φ c s ∧ (k (h c s).val).Issues (h c s).state

variable {h φ}

theorem issues_bind {p : Prog A α} {f : α → Prog A β} {s : S} :
    (p.bind f).Issues h φ s ↔
      p.Issues h φ s ∧ (f (p.run h s).val).Issues h φ (p.run h s).state := by
  induction p generalizing s with
  | ret a => simp [Issues]
  | call c k ih => exact (and_congr_right fun _ => ih _).trans and_assoc.symm

theorem Issues.mono {ψ : C → S → Prop} (hψ : ∀ c s, φ c s → ψ c s) {p : Prog A α} {s : S}
    (hp : p.Issues h φ s) : p.Issues h ψ s := by
  induction p generalizing s with
  | ret a => trivial
  | call c k ih => exact ⟨hψ c s hp.1, ih _ hp.2⟩

/-- A program all of whose commands are safe everywhere. -/
theorem Only.issues {p : Prog A α} (hp : p.Only fun c => ∀ s, φ c s) (s : S) :
    p.Issues h φ s := by
  induction p generalizing s with
  | ret a => trivial
  | call c k ih => exact ⟨hp.1 s, ih _ (hp.2 _) _⟩

end Issues

end Prog

/-- What a program can tell apart: states that are related look the same to it. Those that are not
related to themselves do not arise. -/
structure View (S : Type) where
  rel : S → S → Prop
  symm : ∀ {s t}, rel s t → rel t s
  trans : ∀ {s t u}, rel s t → rel t u → rel s u

namespace View

variable {V : View S} {s t : S}

theorem rel_left (h : V.rel s t) : V.rel s s := V.trans h (V.symm h)

theorem rel_right (h : V.rel s t) : V.rel t t := V.trans (V.symm h) h

/-- The view does not show the command. -/
def Hides (V : View S) (h : Handler A S E) (c : C) : Prop :=
  ∀ s, V.rel s s → V.rel s (h c s).state

end View

namespace Prog

section Learns

variable (h : Handler A S E) (I : List E → S → Prop) (φ : List E → C → Prop)

/-- Whatever has happened since, and wherever within the invariant others have left the state, the
next command meets the condition and keeps the invariant, and what is left of the program does so
too once its events have happened. -/
def Learns : Prog A α → List E → Prop
  | .ret _, _ => True
  | .call c k, es => ∀ es', es ⊆ es' → ∀ s, I es' s →
    (φ es' c ∧ I (es' ++ (h c s).events) (h c s).state) ∧
      (k (h c s).val).Learns (es' ++ (h c s).events)

variable {h I φ}

namespace Learns

variable {es es' : List E}

theorem ret (a : α) : (Prog.ret a : Prog A α).Learns h I φ es := trivial

/-- What has happened is not forgotten. -/
theorem mono {p : Prog A α} (hp : p.Learns h I φ es) (hes : es ⊆ es') : p.Learns h I φ es' := by
  cases p with
  | ret a => trivial
  | call c k => exact fun es'' hes'' => hp es'' (List.Subset.trans hes hes'')

/-- A command whose answer, and whose events, the rest of the program may rely on. -/
theorem ask {c : C} {f : A c → Prog A α}
    (hc : ∀ es', es ⊆ es' → ∀ s, I es' s → φ es' c ∧
      I (es' ++ (h c s).events) (h c s).state ∧
        (f (h c s).val).Learns h I φ (es' ++ (h c s).events)) :
    (Prog.call c f).Learns h I φ es := by
  intro es' hes s hs
  obtain ⟨hφ, hstate, hrest⟩ := hc es' hes s hs
  exact ⟨⟨hφ, hstate⟩, hrest⟩

/-- A command without events. -/
theorem ask_silent {c : C} {f : A c → Prog A α} (hsilent : ∀ s, (h c s).events = [])
    (hc : ∀ es', es ⊆ es' → ∀ s, I es' s → φ es' c ∧ I es' (h c s).state ∧
      (f (h c s).val).Learns h I φ es') :
    (Prog.call c f).Learns h I φ es := by
  refine ask fun es' hes s hs => ?_
  rw [hsilent s, List.append_nil]
  exact hc es' hes s hs

theorem bind {p : Prog A α} {f : α → Prog A β} (hp : p.Learns h I φ es)
    (hf : ∀ a es', es ⊆ es' → (f a).Learns h I φ es') : (p >>= f).Learns h I φ es := by
  rw [bind_def]
  induction p generalizing es with
  | ret a => exact hf a es (List.Subset.refl es)
  | call c k ih =>
    intro es' hes s hs
    refine ⟨(hp es' hes s hs).1, ih _ (hp es' hes s hs).2 fun a es'' hes'' => hf a es'' ?_⟩
    exact List.Subset.trans hes (List.Subset.trans (List.subset_append_left _ _) hes'')

theorem ite {P : Prop} [Decidable P] {p q : Prog A α} (hp : p.Learns h I φ es)
    (hq : q.Learns h I φ es) : (if P then p else q).Learns h I φ es := by
  split
  · exact hp
  · exact hq

theorem forM {f : β → Prog A PUnit} {bs : List β}
    (hf : ∀ b ∈ bs, ∀ es', es ⊆ es' → (f b).Learns h I φ es') :
    (ForM.forM bs f : Prog A PUnit).Learns h I φ es := by
  induction bs generalizing es with
  | nil => exact ret PUnit.unit
  | cons b bs ih =>
    rw [List.forM_cons]
    refine (hf b List.mem_cons_self es (List.Subset.refl es)).bind fun _ es' hes => ?_
    exact ih fun b' hb' es'' hes'' =>
      hf b' (List.mem_cons_of_mem b hb') es'' (List.Subset.trans hes hes'')

theorem advance {p : Prog A α} (hp : p.Learns h I φ es) {s : S} (hs : I es s) :
    (p.advance h s).val.Learns h I φ (es ++ (p.advance h s).events) ∧
      I (es ++ (p.advance h s).events) (p.advance h s).state := by
  cases p with
  | ret a =>
    refine ⟨trivial, ?_⟩
    change I (es ++ []) s
    rwa [List.append_nil]
  | call c k =>
    have hc := hp es (List.Subset.refl es) s hs
    exact ⟨hc.2, hc.1.2⟩

/-- The next command meets the condition. -/
theorem safe {c : C} {k : A c → Prog A α} (hp : (Prog.call c k).Learns h I φ es) {s : S}
    (hs : I es s) : φ es c := (hp es (List.Subset.refl es) s hs).1.1

end Learns

end Learns

section Ends

variable (h : Handler A S E) (V : View S) (φ : C → S → Prop)

/-- Whatever others do within the view before each command, the commands are safe and lead to states
that may arise, and the program ends as `Q` says. -/
def Ends : Prog A α → (α → S → Prop) → S → Prop
  | .ret a, Q, s => Q a s
  | .call c k, Q, s => ∀ s', V.rel s s' →
    (φ c s' ∧ V.rel (h c s').state (h c s').state) ∧ (k (h c s').val).Ends Q (h c s').state

/-- Under interference within the view, the program returns what it returns undisturbed, ends where
it ends undisturbed, and is as safe. -/
def Insensitive (p : Prog A α) : Prop :=
  ∀ s t, V.rel s t → p.Issues h φ t →
    p.Ends h V φ (fun a s' => a = (p.run h t).val ∧ V.rel s' (p.run h t).state) s

variable {h V φ}

namespace Ends

variable {p : Prog A α} {Q Q' : α → S → Prop} {s s' : S}

theorem mono (hQ : ∀ a s, Q a s → Q' a s) (hp : p.Ends h V φ Q s) : p.Ends h V φ Q' s := by
  induction p generalizing s with
  | ret a => exact hQ a s hp
  | call c k ih => exact fun s' hs' => ⟨(hp s' hs').1, ih _ (hp s' hs').2⟩

theorem bind {f : α → Prog A β} {R : β → S → Prop}
    (hp : p.Ends h V φ (fun a s => (f a).Ends h V φ R s) s) : (p.bind f).Ends h V φ R s := by
  induction p generalizing s with
  | ret a => exact hp
  | call c k ih => exact fun s' hs' => ⟨(hp s' hs').1, ih _ (hp s' hs').2⟩

/-- **A change by others** within the view leaves a program on its way. -/
theorem stable (hQ : ∀ a s s', V.rel s s' → Q a s → Q a s') (hp : p.Ends h V φ Q s)
    (hs : V.rel s s') : p.Ends h V φ Q s' := by
  cases p with
  | ret a => exact hQ a s s' hs hp
  | call c k => exact fun s'' hs'' => hp s'' (V.trans hs hs'')

/-- **A command** of the program leaves it on its way. -/
theorem advance (hp : p.Ends h V φ Q s) (hs : V.rel s s) :
    (p.advance h s).val.Ends h V φ Q (p.advance h s).state ∧
      V.rel (p.advance h s).state (p.advance h s).state := by
  cases p with
  | ret a => exact ⟨hp, hs⟩
  | call c k => exact ⟨(hp s hs).2, (hp s hs).1.2⟩

/-- The next command is safe. -/
theorem safe {c : C} {k : A c → Prog A α} (hp : (Prog.call c k).Ends h V φ Q s) (hs : V.rel s s) :
    φ c s := (hp s hs).1.1

end Ends

/-- A program the view does not show stays where it is, under interference or not. -/
theorem Only.ends {p : Prog A α} (hsafe : p.Only fun c => ∀ s, φ c s) (hp : p.Only (V.Hides h))
    {s t : S} (hst : V.rel s t) : p.Ends h V φ (fun _ s' => V.rel s' t) s := by
  induction p generalizing s with
  | ret a => exact hst
  | call c k ih =>
    intro s' hs'
    have hsame := hp.1 s' (View.rel_right hs')
    refine ⟨⟨hsafe.1 s', View.rel_right hsame⟩, ih _ (hsafe.2 _) (hp.2 _) ?_⟩
    exact V.trans (V.symm hsame) (V.trans (V.symm hs') hst)

theorem Only.run_rel {p : Prog A α} (hp : p.Only (V.Hides h)) {s : S} (hs : V.rel s s) :
    V.rel s (p.run h s).state := by
  induction p generalizing s with
  | ret a => exact hs
  | call c k ih =>
    have hc := hp.1 s hs
    exact V.trans hc (ih _ (hp.2 _) (View.rel_right hc))

theorem Only.advance_rel {p : Prog A α} (hp : p.Only (V.Hides h)) {s : S} (hs : V.rel s s) :
    V.rel s (p.advance h s).state := by
  cases p with
  | ret a => exact hs
  | call c k => exact hp.1 s hs

namespace Insensitive

theorem ret (a : α) : (Prog.ret a : Prog A α).Insensitive h V φ := fun _ _ hst _ => ⟨rfl, hst⟩

theorem bind {p : Prog A α} {f : α → Prog A β} (hp : p.Insensitive h V φ)
    (hf : ∀ a, (f a).Insensitive h V φ) : (p >>= f).Insensitive h V φ := by
  intro s t hst hsafe
  rw [bind_def, issues_bind] at hsafe
  rw [bind_def, run_bind]
  refine Ends.bind ((hp s t hst hsafe.1).mono fun a s' ha => ?_)
  -- the continuation is the undisturbed one, from a state with the same view
  rw [ha.1]
  exact hf _ s' _ ha.2 hsafe.2

/-- A command that is answered, and acts, as the view shows. -/
theorem call {c : C} (hc : ∀ s t, V.rel s t → (h c s).val = (h c t).val ∧
    V.rel (h c s).state (h c t).state ∧ (φ c t → φ c s)) :
    (Prog.call c .ret : Prog A (A c)).Insensitive h V φ := by
  intro s t hst hsafe s' hs'
  obtain ⟨hval, hstate, hφ⟩ := hc s' t (V.trans (V.symm hs') hst)
  exact ⟨⟨hφ hsafe.1, View.rel_left hstate⟩, hval, hstate⟩

/-- A command whose answer the view does not show, when the program does not depend on more of it
than that. -/
theorem observe {c : C} {f : A c → Prog A α} (hc : ∀ s t, V.rel s t →
    f (h c s).val = f (h c t).val ∧ V.rel (h c s).state (h c t).state ∧ (φ c t → φ c s))
    (hf : ∀ x, (f x).Insensitive h V φ) : (Prog.call c f).Insensitive h V φ := by
  intro s t hst hsafe s' hs'
  obtain ⟨hrest, hstate, hφ⟩ := hc s' t (V.trans (V.symm hs') hst)
  refine ⟨⟨hφ hsafe.1, View.rel_left hstate⟩, ?_⟩
  rw [hrest]
  exact hf _ _ _ hstate hsafe.2

theorem ite {P : Prop} [Decidable P] {p q : Prog A α} (hp : p.Insensitive h V φ)
    (hq : q.Insensitive h V φ) : (if P then p else q).Insensitive h V φ := by
  split
  · exact hp
  · exact hq

/-- **Programs the view does not show**, whatever they are answered. -/
theorem of_only {p : Prog A Unit} (hsafe : p.Only fun c => ∀ s, φ c s) (hp : p.Only (V.Hides h)) :
    p.Insensitive h V φ := by
  intro s t hst _
  have hrun := hp.run_rel (View.rel_right hst)
  exact (hsafe.ends hp hst).mono fun a s' hs' => ⟨rfl, V.trans hs' hrun⟩

end Insensitive

end Ends

end Prog
