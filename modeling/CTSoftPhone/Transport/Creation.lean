import Mathlib.Data.Fintype.Card
import CTSoftPhone.Calls.CurrentCall
import CTSoftPhone.Transport.Settings

/-!
# Creating transports

A switch creates a transport whenever the one given is not the one selected, whether or not the
library has it already. So switching back creates it again, bound to the same port. Each type is
created once, at most, along the histories that never select again what they selected before.

## Main definitions

* `createdTypes`: the types created since the library was last destroyed
* `OnePerType`: no type is created twice
* `Selections`, `selectionsAfter`: the transports a history selects, computed from its steps

## Main results

* `transportTypes_eq_createdTypes`: without failures, the transports are those created
* `describes_selectionsAfter`: and these are the transports selected
* `always_onePerType_iff`: the histories along which no type is created twice
-/

namespace CTSoftPhone

/-- The types created once an event has happened. -/
def noteCreated (types : List PjsipTransportType) : Event → List PjsipTransportType
  | .api (.transportCreate type _) _ _ => types ++ [type]
  | .api .destroy _ _ => []
  | _ => types

/-- The types of the calls to `pjsua_transport_create` since the library was last destroyed. -/
def createdTypes (es : List Event) : List PjsipTransportType := es.foldl noteCreated []

/-- The types of the transports there are. -/
def World.transportTypes (w : World) : List PjsipTransportType :=
  w.pjsua.transports.map PjsuaTransport.type

instance : Fintype PjsipTransportType where
  elems := {.udp, .tcp, .tls, .udp6, .tcp6, .tls6}
  complete type := by cases type <;> decide

/-- No type is created twice since the library was last destroyed, so there are not more
transports than types. -/
structure OnePerType (config : CTSoftPhoneConfig) (steps : List Step) : Prop where
  created_nodup : (createdTypes (traceOf config steps)).Nodup
  transports_le : (worldAfter config steps).pjsua.transports.length ≤
    Fintype.card PjsipTransportType

/-! ## The transports there are -/

/-- The types of the transports there are follow the calls. -/
def createdRelation : RunRelation World Event := .folds noteCreated World.transportTypes

section Created

variable {a : Answers}

theorem created_api (h : a.AllOk) (c : Api) (w : World) :
    createdRelation.rel w (Cmd.handle a (.api c) w).events (Cmd.handle a (.api c) w).state := by
  cases c with
  | transportCreate type port =>
    simp [createdRelation, RunRelation.folds, Cmd.handle, World.transportTypes, noteCreated,
      Pjsua.reply, Pjsua.after, h.transportCreate]
  | destroy => rfl
  | create | init | start =>
    simp only [createdRelation, RunRelation.folds, Cmd.handle, Pjsua.after]
    split <;> rfl
  | accAdd config =>
    simp only [createdRelation, RunRelation.folds, Cmd.handle, Pjsua.after]
    split <;> rfl
  | accModify accId config =>
    simp only [createdRelation, RunRelation.folds, Cmd.handle, Pjsua.after]
    split <;> rfl
  | accSetTransport accId transportId =>
    simp only [createdRelation, RunRelation.folds, Cmd.handle, Pjsua.after]
    split <;> rfl
  | confConnect source sink =>
    simp only [createdRelation, RunRelation.folds, Cmd.handle, Pjsua.after]
    split <;> rfl
  | _ => rfl

theorem created_program {α : Type} (h : a.AllOk) (p : Phone α) :
    p.Meets (Cmd.handle a) createdRelation := by
  apply Prog.Meets.of_commands
  intro c w
  cases c with
  | api c => exact created_api h c w
  | _ => rfl

end Created

theorem created_step {st : Step} (h : st.answers.AllOk) (w : World) :
    createdRelation.rel w (World.step st w).events (World.step st w).state := by
  obtain ⟨act, a, locals⟩ := st
  cases act with
  | op o => exact created_program h (o.program locals) w
  | callback cb =>
    by_cases hrun : w.pjsua.state = .running
    · rw [step_callback_of_running cb a locals hrun]
      -- what a callback reports does not change the transports
      have hraise : createdRelation.rel w [.raised cb] { w with pjsua := w.pjsua.raise cb } := by
        cases cb with
        | callState callId state => cases state <;> rfl
        | _ => rfl
      exact createdRelation.trans hraise (created_program h cb.program _)
    · rw [step_callback_of_not_running cb a locals hrun]
      exact createdRelation.refl w

/-- **Without failures, the transports** are those created. -/
theorem transportTypes_eq_createdTypes (config : CTSoftPhoneConfig) {steps : List Step}
    (h : ∀ st ∈ steps, st.answers.AllOk) :
    (worldAfter config steps).transportTypes = createdTypes (traceOf config steps) :=
  phone.rel_after_of_mem createdRelation (World.initial config) fun st hst w =>
    created_step (h st hst) w

/-! ## The transports selected -/

/-- The type of a transport in pjsip. -/
def CTSoftPhoneTransportType.pjType (transport : CTSoftPhoneTransportType) : PjsipTransportType :=
  CTSoftPhoneConfig.pjTransportType ⟨0, transport⟩

theorem pjType_injective : Function.Injective CTSoftPhoneTransportType.pjType := by
  intro t t' h
  cases t <;> cases t' <;> first | rfl | cases h

/-- The transport that is selected, and those that were since the library was set up. -/
structure Selections where
  current : CTSoftPhoneTransportType
  used : List CTSoftPhoneTransportType

namespace Selections

/-- What a step selects, when all its calls succeed. -/
def step (st : Step) (sel : Selections) : Selections :=
  match st.act with
  | .op (.registerWithNumber ..) =>
    if sel.used = [] then { sel with used := [sel.current] } else sel
  | .op (.handleIpChange transport) =>
    if sel.used ≠ [] ∧ sel.current ≠ transport then ⟨transport, sel.used ++ [transport]⟩ else sel
  | .op .destroy => { sel with used := [] }
  | .op .hangup | .op .answercall | .op .mute | .op .unmute | .callback _ => sel

theorem step_registerWithNumber (sel : Selections) (number host credentials : NSString)
    (a : Answers) (locals : Locals) :
    sel.step ⟨.op (.registerWithNumber number host credentials), a, locals⟩ =
      if sel.used = [] then { sel with used := [sel.current] } else sel :=
  rfl

theorem step_handleIpChange (sel : Selections) (transport : CTSoftPhoneTransportType)
    (a : Answers) (locals : Locals) :
    sel.step ⟨.op (.handleIpChange transport), a, locals⟩ =
      if sel.used ≠ [] ∧ sel.current ≠ transport then ⟨transport, sel.used ++ [transport]⟩
      else sel :=
  rfl

/-- The selections describe a session in a phase. -/
structure Describes (sel : Selections) (s : Session) (p : Phase) : Prop where
  current_eq : s.config.transport = sel.current
  types_eq : s.transports.map PjsuaTransport.type =
    sel.used.map CTSoftPhoneTransportType.pjType
  used_eq_nil_iff : sel.used = [] ↔ p = .down

variable {sel : Selections} {s : Session} {p : Phase} {a : Answers}

theorem Describes.registerWithNumber (h : sel.Describes s p) (hin : s.In p) (hp : p ≠ .stale)
    (ha : a.AllOk) (locals : Locals) (number host credentials : NSString) :
    (sel.step ⟨.op (.registerWithNumber number host credentials), a, locals⟩).Describes
      (s.registerWithNumber a (requestedConfig number host credentials s.config)) .up := by
  cases p with
  | down =>
    have hused : sel.used = [] := h.used_eq_nil_iff.mpr rfl
    rw [hin.2.registerWithNumber hin.1, if_pos ⟨ha.setUp, ha.accAdd⟩,
      step_registerWithNumber, if_pos hused]
    refine ⟨h.current_eq, ?_, by simp⟩
    simp only [Session.setUp, Answers.created, if_pos ha.transportCreate, hin.2.transports_eq,
      List.nil_append, List.map_cons, List.map_nil, ← h.current_eq]
    rfl
  | up =>
    -- the library is set up already, and no transport is created
    have hused : sel.used ≠ [] := by
      intro he
      cases h.used_eq_nil_iff.mp he
    rw [Session.registerWithNumber, if_pos hin.1, hin.2.putAccount, if_pos ha.accModify,
      step_registerWithNumber, if_neg hused]
    exact ⟨h.current_eq, h.types_eq, h.used_eq_nil_iff⟩
  | stale => exact absurd rfl hp

theorem Describes.handleIpChange (h : sel.Describes s p) (hin : s.In p) (hp : p ≠ .stale)
    (hcall : 0 ≤ s.callId) (ha : a.AllOk) (locals : Locals)
    (transport : CTSoftPhoneTransportType) :
    (sel.step ⟨.op (.handleIpChange transport), a, locals⟩).Describes
      (s.handleIpChange a locals transport) p := by
  have hiff : s.Switches transport ↔ sel.used ≠ [] ∧ sel.current ≠ transport := by
    rw [Ne, h.used_eq_nil_iff, ← h.current_eq]
    cases p with
    | down => simp [Session.Switches, Int.not_le.mpr hin.2.accId_neg]
    | up => simp [Session.Switches, hcall, hin.2.accId_nonneg]
    | stale => exact absurd rfl hp
  by_cases hsw : s.Switches transport
  -- a transport is created without a look at those there are
  · have hp' : p ≠ .down := fun he => (hiff.mp hsw).1 (h.used_eq_nil_iff.mpr he)
    rw [Session.handleIpChange, if_pos hsw, step_handleIpChange, if_pos (hiff.mp hsw)]
    refine ⟨rfl, ?_, by simp [hp']⟩
    simp only [Session.switchTransport, Answers.created, if_pos ha.transportCreate,
      List.map_append, h.types_eq, List.map_cons, List.map_nil]
    rfl
  · have hstays : ¬ (sel.used ≠ [] ∧ sel.current ≠ transport) := fun hs => hsw (hiff.mpr hs)
    rw [Session.handleIpChange, if_neg hsw, step_handleIpChange, if_neg hstays]
    exact h

theorem Describes.step (h : sel.Describes s p) (hin : s.In p) (hp : p ≠ .stale)
    (hcall : 0 ≤ s.callId) {st : Step} (hst : st.answers.AllOk) :
    (sel.step st).Describes (s.step st) (p.step st) := by
  obtain ⟨act, a, locals⟩ := st
  cases act with
  | op o =>
    cases o with
    | registerWithNumber number host credentials =>
      have hok : p.RegisterOk a := by
        cases p with
        | down => exact ⟨hst.setUp, hst.accAdd⟩
        | up => exact hst.accModify
        | stale => exact absurd rfl hp
      have hup : p.step ⟨.op (.registerWithNumber number host credentials), a, locals⟩ = .up :=
        if_pos hok
      rw [hup]
      exact h.registerWithNumber hin hp hst locals number host credentials
    | handleIpChange transport => exact h.handleIpChange hin hp hcall hst locals transport
    | destroy => exact ⟨h.current_eq, rfl, iff_of_true rfl rfl⟩
    | hangup => exact h
    | answercall => exact h
    | mute => exact h
    | unmute => exact h
  | callback cb =>
    cases cb with
    | incomingCall callId =>
      -- the call id is none of what is selected
      change sel.Describes (if s.state = .running then { s with callId := callId } else s) p
      split
      · exact ⟨h.current_eq, h.types_eq, h.used_eq_nil_iff⟩
      · exact h
    | callState callId state => exact h
    | callMediaState callId => exact h
    | regState2 info => exact h

end Selections

/-- What a history selects. -/
def selectionsAfter (config : CTSoftPhoneConfig) (steps : List Step) : Selections :=
  steps.foldl (fun sel st => sel.step st) ⟨config.transport, []⟩

theorem selectionsAfter_snoc (config : CTSoftPhoneConfig) (steps : List Step) (st : Step) :
    selectionsAfter config (steps ++ [st]) = (selectionsAfter config steps).step st := by
  simp [selectionsAfter]

/-- **Without failures, the selections** describe the session. -/
theorem describes_selectionsAfter (config : CTSoftPhoneConfig) {steps : List Step}
    (h : ∀ st ∈ steps, st.answers.AllOk) :
    (selectionsAfter config steps).Describes (worldAfter config steps).session
      (phaseAfter steps) := by
  induction steps using List.reverseRecOn with
  | nil => exact ⟨rfl, rfl, iff_of_true rfl rfl⟩
  | append_singleton steps st ih =>
    have hsteps : ∀ st' ∈ steps, st'.answers.AllOk := fun st' hst' =>
      h st' (List.mem_append_left _ hst')
    rw [selectionsAfter_snoc, phaseAfter_snoc, worldAfter, phone.after_snoc]
    change Selections.Describes _ (World.step st (worldAfter config steps)).state.session _
    rw [session_step]
    exact (ih hsteps).step (in_phaseAfter config steps) (phaseAfter_ne_stale hsteps)
      (callId_nonneg config steps) (h st (by simp))

/-! ## Histories -/

/-- The condition on a step: a change of IP does not select again what was selected before, since
the library was set up. -/
def SelectsUnused (config : CTSoftPhoneConfig) (steps : List Step) (st : Step) : Prop :=
  match st.act with
  | .op (.handleIpChange transport) =>
    (selectionsAfter config steps).used ≠ [] → (selectionsAfter config steps).current ≠ transport →
      transport ∉ (selectionsAfter config steps).used
  | _ => True

/-- A step keeps what is selected free of repetitions exactly under its condition. -/
theorem used_nodup_step_iff {config : CTSoftPhoneConfig} {steps : List Step} {st : Step}
    (h : (selectionsAfter config steps).used.Nodup) :
    (selectionsAfter config (steps ++ [st])).used.Nodup ↔ SelectsUnused config steps st := by
  rw [selectionsAfter_snoc]
  obtain ⟨act, a, locals⟩ := st
  cases act with
  | op o =>
    cases o with
    | registerWithNumber number host credentials =>
      refine iff_of_true ?_ trivial
      rw [Selections.step_registerWithNumber]
      split
      · exact List.nodup_singleton _
      · exact h
    | handleIpChange transport =>
      rw [Selections.step_handleIpChange]
      by_cases hs : (selectionsAfter config steps).used ≠ [] ∧
          (selectionsAfter config steps).current ≠ transport
      · rw [if_pos hs, ← List.concat_eq_append, List.nodup_concat]
        exact ⟨fun hn _ _ => hn.1, fun hn => ⟨hn hs.1 hs.2, h⟩⟩
      · rw [if_neg hs]
        exact iff_of_true h fun hused hne => absurd ⟨hused, hne⟩ hs
    -- the next set-up starts without transports
    | destroy => exact iff_of_true List.nodup_nil trivial
    | hangup => exact iff_of_true h trivial
    | answercall => exact iff_of_true h trivial
    | mute => exact iff_of_true h trivial
    | unmute => exact iff_of_true h trivial
  | callback cb => exact iff_of_true h trivial

/-- Without failures, no type is created twice exactly when no transport is selected twice. -/
theorem onePerType_iff (config : CTSoftPhoneConfig) {steps : List Step}
    (h : ∀ st ∈ steps, st.answers.AllOk) :
    OnePerType config steps ↔ (selectionsAfter config steps).used.Nodup := by
  have htypes := (describes_selectionsAfter config h).types_eq
  have hcreated := transportTypes_eq_createdTypes config h
  constructor
  · intro hone
    have hnodup := hone.created_nodup
    rw [← hcreated, show (worldAfter config steps).transportTypes = _ from htypes] at hnodup
    exact hnodup.of_map _
  · intro hused
    have hnodup : (worldAfter config steps).transportTypes.Nodup := by
      rw [show (worldAfter config steps).transportTypes = _ from htypes]
      -- different transports are of different types in pjsip
      exact hused.map pjType_injective
    refine ⟨hcreated ▸ hnodup, ?_⟩
    rw [← List.length_map (f := PjsuaTransport.type)]
    exact hnodup.length_le_card

/-- **One transport of each type**: in every state of a history without failures no type has been
created twice, exactly when no change of IP selects a transport again. -/
theorem always_onePerType_iff (config : CTSoftPhoneConfig) (steps : List Step)
    (h : ∀ st ∈ steps, st.answers.AllOk) :
    Always (OnePerType config) steps ↔ Along (SelectsUnused config) steps := by
  refine always_iff_along ?_ fun js st hjs hone => ?_
  · exact ⟨List.nodup_nil, Nat.zero_le _⟩
  · have hsnoc : ∀ st' ∈ js ++ [st], st'.answers.AllOk := fun st' hst' => h st' (hjs.subset hst')
    have hbefore : ∀ st' ∈ js, st'.answers.AllOk := fun st' hst' =>
      hsnoc st' (List.mem_append_left _ hst')
    rw [onePerType_iff config hsnoc]
    exact used_nodup_step_iff ((onePerType_iff config hbefore).mp hone)

/-- A phone registered over UDP switches to TCP, which it has not selected before. -/
theorem always_onePerType_register_switch :
    Always (OnePerType ⟨5060, .udp⟩)
      [(Act.op (.registerWithNumber [] [] [])).answered .success,
        (Act.op (.handleIpChange .tcp)).answered .success] := by
  refine (always_onePerType_iff ⟨5060, .udp⟩ _ ?_).mpr ?_
  · simp [Act.answered, Answers.allOk_success]
  · have hregister : Along (SelectsUnused ⟨5060, .udp⟩)
        [(Act.op (.registerWithNumber [] [] [])).answered .success] := along_singleton.mpr trivial
    rw [← List.singleton_append, along_snoc]
    exact ⟨hregister, fun _ _ => by decide⟩

/-- A phone registered over UDP that switches to TCP and back creates UDP twice. -/
theorem not_onePerType_switch_back :
    ¬ OnePerType ⟨5060, .udp⟩
      [(Act.op (.registerWithNumber [] [] [])).answered .success,
        (Act.op (.handleIpChange .tcp)).answered .success,
        (Act.op (.handleIpChange .udp)).answered .success] := by
  intro h
  exact absurd h.created_nodup (by decide)

end CTSoftPhone
