import CTSoftPhone.Calls.Media

/-!
# Muting

`mute` and `unmute` act on the slot of the last call information, not on the current call, and that
a call is muted is recorded nowhere: active media connects the microphone again. A mute lasts until
one of the two steps that connect the microphone; it acts on the current call exactly while the last
call information has the slot of that call.

## Main definitions

* `CurrentSlot`: the slot last reported for the current call, while it is live
* `World.ActsOn`: `mute` and `unmute` act on a slot

## Main results

* `muted_until_connected`: a slot stays muted until a step connects the microphone to it
* `actsOn_currentSlot_iff`: `mute` and `unmute` act on the current call exactly while the last
  report has its slot
-/

namespace CTSoftPhone

/-! ## How long a mute lasts -/

section Muted

variable (config : CTSoftPhoneConfig)

/-- A slot that the microphone is not connected to stays so until a step connects it. -/
theorem mic_notMem_of_along {steps : List Step} {slot : ℤ}
    (h : (0, slot) ∉ (worldAfter config steps).pjsua.conf) {rest : List Step}
    (hrest : Along (fun js st => ¬ st.ConnectsMic (worldAfter config (steps ++ js)) slot) rest) :
    (0, slot) ∉ (worldAfter config (steps ++ rest)).pjsua.conf := by
  induction rest using List.reverseRecOn with
  | nil => simpa using h
  | append_singleton rest st ih =>
    obtain ⟨hrest, hst⟩ := along_snoc.mp hrest
    rw [← List.append_assoc, worldAfter, phone.after_snoc]
    intro hmem
    rcases mic_step hmem with hbefore | hconnects
    · exact ih hrest hbefore
    · exact hst hconnects

/-- **A mute lasts** until a step connects the microphone: `mute` disconnects it from the slot of
the last call information; and it stays disconnected from every slot it then is disconnected from,
until `unmute`, or active media reported with that slot. -/
theorem muted_until_connected (steps rest : List Step) (a : Answers) (locals : Locals) :
    ((worldAfter config steps).vars.ci.HasSlot →
      (0, (worldAfter config steps).vars.ci.confSlot) ∉
        (worldAfter config (steps ++ [⟨.op .mute, a, locals⟩])).pjsua.conf) ∧
    ∀ slot, (0, slot) ∉ (worldAfter config (steps ++ [⟨.op .mute, a, locals⟩])).pjsua.conf →
      Along (fun js st => ¬ st.ConnectsMic
        (worldAfter config (steps ++ [⟨.op .mute, a, locals⟩] ++ js)) slot) rest →
      (0, slot) ∉ (worldAfter config (steps ++ [⟨.op .mute, a, locals⟩] ++ rest)).pjsua.conf := by
  refine ⟨fun hslot => ?_, fun slot h hrest => mic_notMem_of_along config h hrest⟩
  rw [worldAfter, phone.after_snoc]
  change _ ∉ (mute.run (Cmd.handle a) (worldAfter config steps)).state.pjsua.conf
  rw [run_mute, if_pos hslot]
  exact Finset.notMem_erase _ _

end Muted

/-- A call that is muted, and then put on hold, stays muted. -/
theorem muted_through_hold :
    (0, 1) ∉ (worldAfter ⟨5060, .udp⟩
      ([(Act.op (.registerWithNumber [] [] [])).answered .success,
        (Act.callback (.incomingCall 0)).answered .success,
        (Act.callback (.callMediaState 0)).answered .success] ++
      [(Act.op .mute).answered .success] ++
      [(Act.callback (.callMediaState 0)).answered
        { Answers.success with callInfo := fun _ => ⟨.confirmed, .localHold, 1⟩ }])).pjsua.conf :=
  (muted_until_connected ⟨5060, .udp⟩ _ _ .success _).2 1 (by decide)
    (along_singleton.mpr (by decide))

/-- A call that is muted, and whose media is then reported active again, is not. -/
theorem not_muted_after_active :
    (0, 1) ∉ (worldAfter ⟨5060, .udp⟩
      [(Act.op (.registerWithNumber [] [] [])).answered .success,
        (Act.callback (.incomingCall 0)).answered .success,
        (Act.callback (.callMediaState 0)).answered .success,
        (Act.op .mute).answered .success]).pjsua.conf ∧
    (0, 1) ∈ (worldAfter ⟨5060, .udp⟩
      [(Act.op (.registerWithNumber [] [] [])).answered .success,
        (Act.callback (.incomingCall 0)).answered .success,
        (Act.callback (.callMediaState 0)).answered .success,
        (Act.op .mute).answered .success,
        (Act.callback (.callMediaState 0)).answered .success]).pjsua.conf := by
  decide

/-! ## What a mute acts on -/

/-- What is known of one call after an event: nothing when it is announced, and then the call
information that is reported for it. -/
def knownOf (callId : ℤ) : Event → Option (Option PjsuaCallInfo)
  | .raised (.incomingCall c) => if (c : ℤ) = callId then some none else none
  | .api (.callGetInfo c) _ reply => if c = callId then reply.info.map some else none
  | _ => none

theorem reported_of_knownOf {callId : ℤ} {e : Event} {info : PjsuaCallInfo}
    (h : knownOf callId e = some (some info)) : reported e = some info := by
  unfold knownOf at h
  split at h
  · split at h <;> simp at h
  · split at h
    · simpa [reported] using h
    · simp at h
  · simp at h

/-- The connection that an event takes away. -/
def disconnected : Event → Option (ℤ × ℤ)
  | .api (.confDisconnect source sink) _ _ => some (source, sink)
  | _ => none

/-- The connection that an event makes. -/
def connected : Event → Option (ℤ × ℤ)
  | .api (.confConnect source sink) _ _ => some (source, sink)
  | _ => none

/-- The current call is live, and the information last reported for it has this audio slot. -/
def CurrentSlot (config : CTSoftPhoneConfig) (steps : List Step) (slot : ℤ) : Prop :=
  (worldAfter config steps).vars.callId ∈ (worldAfter config steps).pjsua.calls ∧
    ∃ info, lastSeen (knownOf (worldAfter config steps).vars.callId) (traceOf config steps) =
      some (some info) ∧ info.HasSlot ∧ info.confSlot = slot

/-- `mute` takes away exactly the connection of the microphone to the slot, and `unmute` makes
exactly this connection. -/
structure World.ActsOn (w : World) (slot : ℤ) : Prop where
  mute_disconnects : ∀ a locals,
    (World.step ⟨.op .mute, a, locals⟩ w).events.filterMap disconnected = [(0, slot)]
  unmute_connects : ∀ a locals,
    (World.step ⟨.op .unmute, a, locals⟩ w).events.filterMap connected = [(0, slot)]

theorem actsOn_iff {w : World} {slot : ℤ} :
    w.ActsOn slot ↔ w.vars.ci.HasSlot ∧ w.vars.ci.confSlot = slot := by
  constructor
  · intro h
    have hmute := h.mute_disconnects .success ⟨0, pjsuaAccConfigDefault⟩
    rw [step_op, Op.program, run_mute] at hmute
    by_cases hslot : w.vars.ci.HasSlot
    · exact ⟨hslot, by simpa [hslot, disconnected] using hmute⟩
    · simp [hslot] at hmute
  · rintro ⟨hslot, rfl⟩
    constructor
    · intro a locals
      rw [step_op, Op.program, run_mute, if_pos hslot]
      rfl
    · intro a locals
      rw [step_op, Op.program, run_unmute, if_pos hslot]
      rfl

/-- **Muting acts on the current call** exactly while the information reported last, for whatever
call, has the slot last reported for the current call. -/
theorem actsOn_currentSlot_iff (config : CTSoftPhoneConfig) (steps : List Step) :
    (∀ slot, CurrentSlot config steps slot → (worldAfter config steps).ActsOn slot) ↔
      ∀ slot, CurrentSlot config steps slot →
        ∃ info, lastReport config steps = some info ∧ info.confSlot = slot := by
  have hci := ci_eq_lastReport config steps
  refine forall_congr' fun slot => imp_congr_right ?_
  rintro ⟨-, info, hinfo, hslot, rfl⟩
  rw [actsOn_iff]
  cases hlast : lastReport config steps with
  | none =>
    -- what is known of the current call has been reported
    obtain ⟨e, he, hei⟩ := exists_mem_of_lastSeen_eq_some hinfo
    exact absurd hlast (lastSeen_ne_none he (by simp [reported_of_knownOf hei]))
  | some last =>
    rw [hci, hlast, Option.getD_some]
    constructor
    · intro h
      exact ⟨last, rfl, h.2⟩
    · rintro ⟨last', hlast', heq⟩
      obtain rfl := Option.some.inj hlast'
      exact ⟨by unfold PjsuaCallInfo.HasSlot at hslot ⊢; rwa [heq], heq⟩

/-- With a second call, whose media was reported before the first changed state, `mute` takes the
microphone from the first. -/
theorem not_actsOn_currentSlot :
    CurrentSlot ⟨5060, .udp⟩
      [(Act.op (.registerWithNumber [] [] [])).answered .success,
        (Act.callback (.incomingCall 0)).answered .success,
        (Act.callback (.incomingCall 1)).answered .success,
        (Act.callback (.callMediaState 1)).answered
          { Answers.success with callInfo := fun _ => ⟨.confirmed, .active, 2⟩ },
        (Act.callback (.callState 0 .confirmed)).answered .success] 2 ∧
    ¬ (worldAfter ⟨5060, .udp⟩
      [(Act.op (.registerWithNumber [] [] [])).answered .success,
        (Act.callback (.incomingCall 0)).answered .success,
        (Act.callback (.incomingCall 1)).answered .success,
        (Act.callback (.callMediaState 1)).answered
          { Answers.success with callInfo := fun _ => ⟨.confirmed, .active, 2⟩ },
        (Act.callback (.callState 0 .confirmed)).answered .success]).ActsOn 2 := by
  refine ⟨⟨by decide, ⟨.confirmed, .active, 2⟩, by decide, by decide, rfl⟩, ?_⟩
  rw [actsOn_iff]
  decide

end CTSoftPhone
