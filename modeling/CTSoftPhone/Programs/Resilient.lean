import CTSoftPhone.Programs.Interference
import CTSoftPhone.Programs.Reentrant

/-!
# Programs that withstand their clients

What a client requests at a callback runs before the program goes on. A program withstands any
client, for an invariant, when the invariant holds at each of its callbacks, from whatever state of
the invariant it went on at those before. When every job ends within the invariant in this way, a
request keeps the invariant whatever is requested within it, and every command issued on the way,
by the job or by those within it, is safe.

## Main definitions

* `Service.Withstands`: what a program does, whatever is requested at its callbacks
* `Service.Resilient`: every job withstands any client, and ends within the invariant
* `Service.recorded`, `Service.issued`: the commands issued by a request, with those requested
  within it

## Main results

* `Withstands.bind`, `Withstands.command`, `Withstands.callback`: the rules for sequences and
  commands
* `Resilient.exec`: every request keeps the invariant
* `Resilient.issued`: every command it issues is safe
-/

variable {C : Type} {A : C → Type} {S E J α β : Type}

/-- The meaning of commands that records each with the state it is issued in. -/
def Handler.recorded (h : Handler A S E) : Handler A (S × List (C × S)) E := fun c s =>
  ⟨(h c s.1).val, ((h c s.1).state, s.2 ++ [(c, s.1)]), (h c s.1).events⟩

namespace Service

variable (V : Service A S E J)

section Withstands

variable (h : Handler A S E) (I : S → Prop) (φ : C → S → Prop)

/-- The states in which a program goes on after a command: the one it led to, or any of the
invariant, if the command calls back. -/
def Resumes (c : C) (s s' : S) : Prop := if V.point c then I s' else s' = s

/-- Whatever is requested at the callbacks within the invariant, the commands are safe, each
callback is made within the invariant, and the program ends as `Q` says. -/
def Withstands : Prog A α → (α → S → Prop) → S → Prop
  | .ret a, Q, s => Q a s
  | .call c k, Q, s => (φ c s ∧ (V.point c = true → I (h c s).state)) ∧
    ∀ s', V.Resumes I c (h c s).state s' → Withstands (k (h c s).val) Q s'

variable {V h I φ}

namespace Withstands

variable {p : Prog A α} {Q Q' : α → S → Prop} {s : S}

theorem mono (hQ : ∀ a s, Q a s → Q' a s) (hp : V.Withstands h I φ p Q s) :
    V.Withstands h I φ p Q' s := by
  induction p generalizing s with
  | ret a => exact hQ a s hp
  | call c k ih => exact ⟨hp.1, fun s' hs' => ih _ (hp.2 s' hs')⟩

theorem bind {f : α → Prog A β} {R : β → S → Prop}
    (hp : V.Withstands h I φ p (fun a s => V.Withstands h I φ (f a) R s) s) :
    V.Withstands h I φ (p.bind f) R s := by
  induction p generalizing s with
  | ret a => exact hp
  | call c k ih => exact ⟨hp.1, fun s' hs' => ih _ (hp.2 s' hs')⟩

/-- A command that does not call back. -/
theorem command {c : C} {k : A c → Prog A α} (hc : V.point c = false) (hφ : φ c s)
    (hk : V.Withstands h I φ (k (h c s).val) Q (h c s).state) :
    V.Withstands h I φ (.call c k) Q s := by
  refine ⟨⟨hφ, fun hpoint => ?_⟩, fun s' hs' => ?_⟩
  · rw [hc] at hpoint
    exact absurd hpoint Bool.false_ne_true
  · rw [Resumes, hc] at hs'
    exact hs' ▸ hk

/-- A command that calls back within the invariant. -/
theorem callback {c : C} {k : A c → Prog A α} (hc : V.point c = true) (hφ : φ c s)
    (hI : I (h c s).state) (hk : ∀ s', I s' → V.Withstands h I φ (k (h c s).val) Q s') :
    V.Withstands h I φ (.call c k) Q s := by
  refine ⟨⟨hφ, fun _ => hI⟩, fun s' hs' => hk s' ?_⟩
  rwa [Resumes, if_pos hc] at hs'

/-- A program without callbacks does what it does undisturbed. -/
theorem of_run (hp : p.Only fun c => V.point c = false) (hsafe : p.Issues h φ s)
    (hQ : Q (p.run h s).val (p.run h s).state) : V.Withstands h I φ p Q s := by
  induction p generalizing s with
  | ret a => exact hQ
  | call c k ih => exact command hp.1 hsafe.1 (ih _ (hp.2 _) hsafe.2 hQ)

theorem forM {f : β → Prog A PUnit} {K : S → Prop}
    (hf : ∀ b s, K s → V.Withstands h I φ (f b) (fun _ => K) s) (bs : List β) (hs : K s) :
    V.Withstands h I φ (ForM.forM bs f) (fun _ => K) s := by
  induction bs generalizing s with
  | nil => exact hs
  | cons b bs ih =>
    rw [List.forM_cons, Prog.bind_def]
    exact bind ((hf b s hs).mono fun _ s' hs' => ih hs')

end Withstands

end Withstands

/-- Every job withstands any client, and ends within the invariant. -/
def Resilient (I : S → Prop) (φ : C → S → Prop) : Prop :=
  ∀ j s, I s → V.Withstands (V.handle j) I φ (V.body j) (fun _ => I) s

/-! ## The commands issued -/

/-- The service that records the commands issued. -/
def recorded : Service A (S × List (C × S)) E J where
  body := V.body
  handle j := (V.handle j).recorded
  point := V.point
  window := V.window

/-- The commands issued by a request, and by those within it, each with the state it is issued
in. -/
def issued (r : Request J) (s : S) : List (C × S) := (V.recorded.exec r (s, [])).state.2

section Recorded

variable {V}

/-- A reaction acts alike with the record and without. -/
def SameState (f : S × List (C × S) → Outcome Unit (S × List (C × S)) (J × Bool))
    (g : S → Outcome Unit S (J × Bool)) : Prop :=
  ∀ s l, (f (s, l)).state.1 = (g s).state

variable {fs : List (S × List (C × S) → Outcome Unit (S × List (C × S)) (J × Bool))}
  {gs : List (S → Outcome Unit S (J × Bool))}

theorem sameState_reactionTo (hfs : List.Forall₂ SameState fs gs) (c : C) :
    SameState (V.recorded.reactionTo c fs) (V.reactionTo c gs) := by
  unfold reactionTo
  change SameState (if V.point c then _ else _) _
  split
  · cases hfs with
    | nil => exact fun _ _ => rfl
    | cons hf _ => exact hf
  · exact fun _ _ => rfl

theorem sameState_reactionsAfter (hfs : List.Forall₂ SameState fs gs) (c : C) :
    List.Forall₂ SameState (V.recorded.reactionsAfter c fs) (V.reactionsAfter c gs) := by
  unfold reactionsAfter
  change List.Forall₂ SameState (if V.point c then _ else _) _
  split
  · cases hfs with
    | nil => exact .nil
    | cons _ hfs => exact hfs
  · exact hfs

theorem runWith_recorded (h : Handler A S E) (p : Prog A α) {o : Bool}
    (hfs : List.Forall₂ SameState fs gs) (s : S) (l : List (C × S)) :
    (V.recorded.runWith h.recorded p o fs (s, l)).val = (V.runWith h p o gs s).val ∧
      (V.recorded.runWith h.recorded p o fs (s, l)).state.1 = (V.runWith h p o gs s).state := by
  induction p generalizing o fs gs s l with
  | ret a => exact ⟨rfl, rfl⟩
  | call c k ih =>
    have hreact := sameState_reactionTo (V := V) hfs c (h c s).state (l ++ [(c, s)])
    have hrest := ih (h c s).val (o := V.window c o) (sameState_reactionsAfter (V := V) hfs c)
      (V.reactionTo c gs (h c s).state).state
      (V.recorded.reactionTo c fs ((h c s).state, l ++ [(c, s)])).state.2
    rw [← hreact] at hrest
    simp only [runWith, ← hreact]
    exact hrest

mutual

/-- The record changes nothing. -/
theorem sameState_exec : ∀ r : Request J, SameState (V.recorded.exec r) (V.exec r)
  | .mk j rss => fun s l =>
    (runWith_recorded (V.handle j) (V.body j) (sameState_reactions rss) s l).2

theorem sameState_execAll :
    ∀ rs : List (Request J), SameState (V.recorded.execAll rs) (V.execAll rs)
  | [] => fun _ _ => rfl
  | r :: rs => fun s l => by
    have hhead := sameState_exec r s l
    have htail := sameState_execAll rs (V.exec r s).state (V.recorded.exec r (s, l)).state.2
    rw [← hhead] at htail
    simp only [execAll, Outcome.andThen_state, ← hhead]
    exact htail

theorem sameState_reactions : ∀ rss : List (List (Request J)),
    List.Forall₂ SameState (V.recorded.reactions rss) (V.reactions rss)
  | [] => .nil
  | rs :: rss => .cons (sameState_execAll rs) (sameState_reactions rss)

end

end Recorded

/-! ## Requests -/

section Keeping

variable (I : S → Prop) (φ : C → S → Prop)

/-- The invariant holds, and every command recorded was safe. -/
def Sane (s : S × List (C × S)) : Prop := I s.1 ∧ ∀ e ∈ s.2, φ e.1 e.2

/-- A reaction keeps the invariant, by safe commands. -/
def Keeping (f : S × List (C × S) → Outcome Unit (S × List (C × S)) (J × Bool)) : Prop :=
  ∀ s, Sane I φ s → Sane I φ (f s).state

variable {V I φ}
variable {fs : List (S × List (C × S) → Outcome Unit (S × List (C × S)) (J × Bool))}

theorem keeping_of_mem_reactionsAfter (hfs : ∀ f ∈ fs, Keeping I φ f) (c : C) :
    ∀ f ∈ V.recorded.reactionsAfter c fs, Keeping I φ f := by
  unfold reactionsAfter
  split
  · intro f hf
    exact hfs f (List.mem_of_mem_tail hf)
  · exact hfs

/-- After a reaction the program goes on where it may. -/
theorem resumes_reactionTo (hfs : ∀ f ∈ fs, Keeping I φ f) {c : C} {s : S} {l : List (C × S)}
    (hI : V.point c = true → I s) (hl : ∀ e ∈ l, φ e.1 e.2) :
    V.Resumes I c s (V.recorded.reactionTo c fs (s, l)).state.1 ∧
      ∀ e ∈ (V.recorded.reactionTo c fs (s, l)).state.2, φ e.1 e.2 := by
  cases hc : V.point c with
  | true =>
    have hkeep : Keeping I φ (fs.headD idle) := by
      cases fs with
      | nil => exact fun _ hs => hs
      | cons f fs => exact hfs f List.mem_cons_self
    have hreaction : V.recorded.reactionTo c fs = fs.headD idle := if_pos hc
    rw [hreaction]
    obtain ⟨hI', hl'⟩ := hkeep (s, l) ⟨hI hc, hl⟩
    exact ⟨by rwa [Resumes, if_pos hc], hl'⟩
  | false =>
    have hreaction : V.recorded.reactionTo c fs = idle := if_neg (ne_true_of_eq_false hc)
    rw [hreaction]
    exact ⟨by rw [Resumes, hc]; rfl, hl⟩

/-- A program that withstands any client ends as it says, by safe commands. -/
theorem Withstands.runWith {h : Handler A S E} {p : Prog A α} {o : Bool} {Q : α → S → Prop} {s : S}
    (hp : V.Withstands h I φ p Q s) (hfs : ∀ f ∈ fs, Keeping I φ f) {l : List (C × S)}
    (hl : ∀ e ∈ l, φ e.1 e.2) :
    Q (V.recorded.runWith h.recorded p o fs (s, l)).val
        (V.recorded.runWith h.recorded p o fs (s, l)).state.1 ∧
      ∀ e ∈ (V.recorded.runWith h.recorded p o fs (s, l)).state.2, φ e.1 e.2 := by
  induction p generalizing o fs s l with
  | ret a => exact ⟨hp, hl⟩
  | call c k ih =>
    obtain ⟨⟨hφ, hI⟩, hrest⟩ := hp
    have hrecord : ∀ e ∈ l ++ [(c, s)], φ e.1 e.2 :=
      List.forall_mem_append.mpr ⟨hl, fun e he => List.mem_singleton.mp he ▸ hφ⟩
    -- the reaction leaves a state in which the program may go on
    obtain ⟨hresumes, hl'⟩ := resumes_reactionTo hfs hI hrecord
    exact ih _ (hrest _ hresumes) (keeping_of_mem_reactionsAfter hfs c) hl'

mutual

theorem Resilient.keeping_exec (hV : V.Resilient I φ) :
    ∀ r : Request J, Keeping I φ (V.recorded.exec r)
  | .mk j rss => fun s hs =>
    Withstands.runWith (Q := fun _ => I) (hV j s.1 hs.1) (Resilient.keeping_reactions hV rss) hs.2

theorem Resilient.keeping_execAll (hV : V.Resilient I φ) :
    ∀ rs : List (Request J), Keeping I φ (V.recorded.execAll rs)
  | [] => fun _ hs => hs
  | r :: rs => fun s hs =>
    Resilient.keeping_execAll hV rs _ (Resilient.keeping_exec hV r s hs)

theorem Resilient.keeping_reactions (hV : V.Resilient I φ) : ∀ rss : List (List (Request J)),
    ∀ f ∈ V.recorded.reactions rss, Keeping I φ f
  | [] => fun f hf => absurd hf List.not_mem_nil
  | rs :: rss => fun f hf => by
    rcases List.mem_cons.mp hf with rfl | hf
    · exact Resilient.keeping_execAll hV rs
    · exact Resilient.keeping_reactions hV rss f hf

end

namespace Resilient

/-- **Every request** keeps the invariant, whatever is requested within it. -/
theorem exec (hV : V.Resilient I φ) (r : Request J) {s : S} (hs : I s) : I (V.exec r s).state := by
  rw [← sameState_exec r s []]
  exact (hV.keeping_exec r (s, []) ⟨hs, fun _ he => absurd he List.not_mem_nil⟩).1

/-- **Every command** issued by a request, or by those within it, is safe. -/
theorem issued (hV : V.Resilient I φ) (r : Request J) {s : S} (hs : I s) :
    ∀ e ∈ V.issued r s, φ e.1 e.2 :=
  (hV.keeping_exec r (s, []) ⟨hs, fun _ he => absurd he List.not_mem_nil⟩).2

end Resilient

end Keeping

end Service
