import CTSoftPhone.Programs.Program

/-!
# Programs that are re-entered

The jobs of a service are programs, and some of their commands call back to the client, who may
request further jobs there. A service that runs a request as soon as it is made runs whole jobs in
the middle of others. Between certain commands of a job a window is open; the log of a run says, for
each job requested, in order, whether it was requested in a window.

Seen through a view of the state, the run is the same as running the jobs of the log one after
another, when at every callback the rest of the program acts on the view by a function that commutes
with the jobs that may be requested there.

## Main definitions

* `Request J`: a job, with the requests made at each of its callbacks
* `Service`: the programs of the jobs, their handlers, callbacks and windows
* `Service.exec`: a request run as soon as it is made, and its log
* `Service.Placed`: the callbacks of a program are placed where jobs commute with the rest
* `Service.Viewed`: a view under which each job acts by a function, with its callbacks so placed

## Main results

* `Service.view_exec`: a run is seen as the jobs of its log, one after another
-/

variable {C : Type} {A : C → Type} {S E J T α : Type}

/-- A request: a job, and the requests made at each of its callbacks, in order. -/
inductive Request (J : Type) : Type
  | mk (job : J) (reactions : List (List (Request J)))

/-- The jobs of a service: their programs and handlers, the commands that call back to the client,
and whether a window is open after a command, given whether one was before. -/
structure Service (A : C → Type) (S E J : Type) where
  body : J → Prog A Unit
  handle : J → Handler A S E
  point : C → Bool
  window : C → Bool → Bool

namespace Service

variable (V : Service A S E J)

/-- Requests made while a window is open were made in a window. -/
def mark (o : Bool) (e : J × Bool) : J × Bool := (e.1, e.2 || o)

/-- No reaction. -/
def idle (s : S) : Outcome Unit S (J × Bool) := ⟨(), s, []⟩

/-- The reaction to a command: the next one, if the command calls back. -/
def reactionTo (c : C) (fs : List (S → Outcome Unit S (J × Bool))) :
    S → Outcome Unit S (J × Bool) := if V.point c then fs.headD idle else idle

/-- The reactions left after a command. -/
def reactionsAfter (c : C) (fs : List (S → Outcome Unit S (J × Bool))) :
    List (S → Outcome Unit S (J × Bool)) := if V.point c then fs.tail else fs

/-- A program run with a reaction at each callback, and the log of the jobs requested there. -/
def runWith (h : Handler A S E) : Prog A α → Bool → List (S → Outcome Unit S (J × Bool)) → S →
    Outcome α S (J × Bool)
  | .ret a, _, _, s => ⟨a, s, []⟩
  | .call c k, o, fs, s =>
    let r := h c s
    let r' := V.reactionTo c fs r.state
    let rest := runWith h (k r.val) (V.window c o) (V.reactionsAfter c fs) r'.state
    { rest with events := r'.events.map (mark (V.window c o)) ++ rest.events }

mutual

/-- A request run as soon as it is made. -/
def exec : Request J → S → Outcome Unit S (J × Bool)
  | .mk j rss, s =>
    let r := V.runWith (V.handle j) (V.body j) false (reactions rss) s
    { r with events := (j, false) :: r.events }

/-- Requests run one after another. -/
def execAll : List (Request J) → S → Outcome Unit S (J × Bool)
  | [], s => ⟨(), s, []⟩
  | r :: rs, s => (exec r s).andThen fun _ s => execAll rs s

/-- The reactions at the callbacks of a run. -/
def reactions : List (List (Request J)) → List (S → Outcome Unit S (J × Bool))
  | [] => []
  | rs :: rss => (fun s => execAll rs s) :: reactions rss

end

/-! ## The view of a run -/

section View

variable (π : S → T) (δ : J → T → T) (mild : J → Prop)

/-- The jobs of a log, one after another. -/
def serial (log : List (J × Bool)) (t : T) : T := log.foldl (fun t e => δ e.1 t) t

/-- Only mild jobs were requested in windows. -/
def MildInWindows (log : List (J × Bool)) : Prop := ∀ e ∈ log, e.2 = true → mild e.1

/-- The program acts on the view by a function that commutes with every job that may be requested
before it: in a window, the mild ones. -/
def Absorbs (h : Handler A S E) (p : Prog A α) (o : Bool) : Prop :=
  ∃ g : T → T, (∀ s, π (p.run h s).state = g (π s)) ∧
    ∀ j, (o = true → mild j) → ∀ t, g (δ j t) = δ j (g t)

/-- At every callback, what is left of the program absorbs the jobs requested there. -/
def Placed (h : Handler A S E) : Prog A α → Bool → Prop
  | .ret _, _ => True
  | .call c k, o => ∀ x,
    (V.point c = true → Absorbs π δ mild h (k x) (V.window c o)) ∧
      Placed h (k x) (V.window c o)

/-- A reaction is seen as the jobs of its log, when only mild ones were requested in windows. -/
def Sound (f : S → Outcome Unit S (J × Bool)) : Prop :=
  ∀ s, MildInWindows mild (f s).events → π (f s).state = serial δ (f s).events (π s)

variable {π δ mild}

/-- A command that does not call back is well placed when what follows is. -/
theorem placed_call {h : Handler A S E} {c : C} {k : A c → Prog A α} {o : Bool}
    (hc : V.point c = false) (hk : ∀ x, V.Placed π δ mild h (k x) (V.window c o)) :
    V.Placed π δ mild h (.call c k) o := by
  intro x
  refine ⟨fun hpoint => ?_, hk x⟩
  rw [hc] at hpoint
  exact absurd hpoint Bool.false_ne_true

/-- The end of a program absorbs every job. -/
theorem absorbs_ret {h : Handler A S E} {a : α} {o : Bool} :
    Absorbs π δ mild h (.ret a : Prog A α) o := ⟨id, fun _ => rfl, fun _ _ _ => rfl⟩

theorem serial_append (log log' : List (J × Bool)) (t : T) :
    serial δ (log ++ log') t = serial δ log' (serial δ log t) := List.foldl_append

theorem serial_mark (o : Bool) (log : List (J × Bool)) (t : T) :
    serial δ (log.map (mark o)) t = serial δ log t := by
  simp only [serial, List.foldl_map, mark]

/-- What commutes with the jobs of a log commutes with the log. -/
theorem serial_comm {g : T → T} {log : List (J × Bool)}
    (h : ∀ e ∈ log, ∀ t, g (δ e.1 t) = δ e.1 (g t)) (t : T) :
    g (serial δ log t) = serial δ log (g t) := by
  induction log generalizing t with
  | nil => rfl
  | cons e log ih =>
    have hlog := ih (fun e he => h e (List.mem_cons_of_mem _ he)) (δ e.1 t)
    rw [h e List.mem_cons_self] at hlog
    exact hlog

theorem MildInWindows.append {log log' : List (J × Bool)} (h : MildInWindows mild (log ++ log')) :
    MildInWindows mild log ∧ MildInWindows mild log' :=
  List.forall_mem_append.mp h

/-- In a window, the whole of a reaction is. -/
theorem MildInWindows.of_mark {o : Bool} {log : List (J × Bool)}
    (h : MildInWindows mild (log.map (mark o))) :
    MildInWindows mild log ∧ ∀ e ∈ log, o = true → mild e.1 := by
  refine ⟨fun e he hw => ?_, fun e he ho => ?_⟩
  · exact h (mark o e) (List.mem_map_of_mem he) (by simp [mark, hw])
  · exact h (mark o e) (List.mem_map_of_mem he) (by simp [mark, ho])

theorem sound_idle : Sound π δ mild (idle (S := S)) := fun _ _ => rfl

theorem sound_reactionTo {fs : List (S → Outcome Unit S (J × Bool))}
    (hfs : ∀ f ∈ fs, Sound π δ mild f) (c : C) : Sound π δ mild (V.reactionTo c fs) := by
  unfold reactionTo
  split
  · cases fs with
    | nil => exact sound_idle
    | cons f fs => exact hfs f List.mem_cons_self
  · exact sound_idle

theorem sound_of_mem_reactionsAfter {fs : List (S → Outcome Unit S (J × Bool))}
    (hfs : ∀ f ∈ fs, Sound π δ mild f) (c : C) :
    ∀ f ∈ V.reactionsAfter c fs, Sound π δ mild f := by
  unfold reactionsAfter
  split
  · intro f hf
    exact hfs f (List.mem_of_mem_tail hf)
  · exact hfs

/-- What is left of a program after a callback absorbs the reaction. -/
theorem view_run_after {h : Handler A S E} {p : Prog A α} {c : C} {o : Bool}
    (hp : V.point c = true → Absorbs π δ mild h p o)
    {fs : List (S → Outcome Unit S (J × Bool))} (hfs : ∀ f ∈ fs, Sound π δ mild f) (s : S)
    (hmild : MildInWindows mild ((V.reactionTo c fs s).events.map (mark o))) :
    π (p.run h (V.reactionTo c fs s).state).state =
      serial δ (V.reactionTo c fs s).events (π (p.run h s).state) := by
  obtain ⟨hwindows, hall⟩ := hmild.of_mark
  by_cases hc : V.point c = true
  · obtain ⟨g, hg, hcomm⟩ := hp hc
    -- the jobs of the reaction move behind what is left, one by one
    rw [hg, hg, V.sound_reactionTo hfs c s hwindows]
    exact serial_comm (fun e he => hcomm e.1 (hall e he)) (π s)
  · rw [reactionTo, if_neg hc]
    rfl

/-- A program with its callbacks well placed, run with sound reactions, is seen as the program
followed by the jobs of the log. -/
theorem view_runWith (h : Handler A S E) (p : Prog A α) {o : Bool}
    (hp : V.Placed π δ mild h p o) {fs : List (S → Outcome Unit S (J × Bool))}
    (hfs : ∀ f ∈ fs, Sound π δ mild f) (s : S)
    (hmild : MildInWindows mild (V.runWith h p o fs s).events) :
    π (V.runWith h p o fs s).state =
      serial δ (V.runWith h p o fs s).events (π (p.run h s).state) := by
  induction p generalizing o fs s with
  | ret a => rfl
  | call c k ih =>
    -- the rest of the program is run after the reaction, and seen as if run before it
    obtain ⟨hpoint, hrest⟩ := hp (h c s).val
    obtain ⟨hmild, hmild'⟩ := MildInWindows.append hmild
    have hlater := ih _ hrest (V.sound_of_mem_reactionsAfter hfs c) _ hmild'
    have hnow := V.view_run_after hpoint hfs (h c s).state hmild
    simp only [runWith, serial_append, serial_mark, Prog.run_call, Outcome.andThen_state]
    rw [hlater, hnow]

variable (π δ mild) in
/-- A view of the jobs of a service: each acts on it by a function, and its callbacks are well
placed. -/
structure Viewed : Prop where
  placed : ∀ j, V.Placed π δ mild (V.handle j) (V.body j) false
  step : ∀ j s, π ((V.body j).run (V.handle j) s).state = δ j (π s)

mutual

/-- **A run is seen** as the jobs of its log, one after another. -/
theorem view_exec (hV : V.Viewed π δ mild) : ∀ r : Request J, Sound π δ mild (V.exec r)
  | .mk j rss => fun s hmild => by
    have hrun := V.view_runWith (V.handle j) (V.body j) (hV.placed j) (sound_reactions hV rss) s
      (fun e he => hmild e (List.mem_cons_of_mem _ he))
    simp only [exec, serial, List.foldl_cons]
    rw [hrun, hV.step]
    rfl

theorem view_execAll (hV : V.Viewed π δ mild) :
    ∀ rs : List (Request J), Sound π δ mild (V.execAll rs)
  | [] => fun _ _ => rfl
  | r :: rs => fun s hmild => by
    obtain ⟨hr, hrs⟩ := MildInWindows.append hmild
    have hhead := view_exec hV r s hr
    have htail := view_execAll hV rs _ hrs
    simp only [execAll, Outcome.andThen_state, Outcome.andThen_events, serial_append]
    rw [htail, hhead]

theorem sound_reactions (hV : V.Viewed π δ mild) : ∀ rss : List (List (Request J)),
    ∀ f ∈ V.reactions rss, Sound π δ mild f
  | [] => fun f hf => absurd hf List.not_mem_nil
  | rs :: rss => fun f hf => by
    rcases List.mem_cons.mp hf with rfl | hf
    · exact view_execAll hV rs
    · exact sound_reactions hV rss f hf

end

end View

end Service
