import CTSoftPhone.Calls.CurrentCall
import CTSoftPhone.Programs.Since
import CTSoftPhone.Transport.AccountUri

/-!
# What the account says

The account of the phone says who the phone is, which transport it is bound to, and how its media
are set up. A registration writes all of this. A change of IP that switches writes some of it,
depending on which of its calls succeed: it binds the account, it turns on the use of IPv6, and when
the configuration cannot be read back it stores a local that was never initialised. Each of these
is, after a history, what was written last, if the library has not been torn down since.

## Main definitions

* `AccountIdentity`: who an account says the phone is
* `configAfter`: the configuration of the phone after a history
* `switched`: what a switch leaves of the configuration of the account
* `World.Reads f x`: there is an account, and the reading `f` of its configuration gives `x`
* `written f sw`: what a step writes under a reading, of which a switch writes `sw`

## Main results

* `identity_requestedConfig_inj`: what a registration writes, and what it is written from
* `reads_iff`: a reading gives what was written last
* `identity_iff`, `transportId_iff`, `media_iff`: who the phone is, its transport and its media
-/

namespace CTSoftPhone

/-- Who an account says the phone is: its user, and the servers. -/
structure AccountIdentity where
  id : NSString
  regUri : NSString
  proxy : List NSString
  credInfo : List PjsipCredInfo
  deriving DecidableEq, Repr

def PjsuaAccConfig.identity (cfg : PjsuaAccConfig) : AccountIdentity :=
  ⟨cfg.id, cfg.regUri, cfg.proxy, cfg.credInfo⟩

/-! ## What a registration asks for -/

theorem identity_requestedConfig (number host credentials : NSString) (config : CTSoftPhoneConfig) :
    (requestedConfig number host credentials config).identity =
      ⟨pjStr (cutAt '@' 1 (accountUri number host)), pjStr (registrarUri host config),
        [pjStr (proxyUri host config)],
        [{ realm := pjStr "*".toList, scheme := pjStr "digest".toList, username := pjStr number
           dataType := pjsipCredDataPlainPasswd, data := pjStr credentials }]⟩ := by
  have heq := accountConfig_eq number host credentials config
  simp only [accountConfig, accountId_eq, Option.bind_eq_bind, Option.bind_some, Option.pure_def,
    Option.some.injEq] at heq
  rw [← heq]
  rfl

/-- With a NUL the URIs of the two servers are the same, and without one they are not. -/
theorem not_stored_servers_eq {host host' : NSString} {config config' : CTSoftPhoneConfig}
    (h : nul ∈ host) (h' : nul ∉ host') :
    ¬ (pjStr (registrarUri host config) = pjStr (registrarUri host' config') ∧
      pjStr (proxyUri host config) = pjStr (proxyUri host' config')) := by
  rw [pjStr_registrarUri, pjStr_registrarUri, pjStr_proxyUri, pjStr_proxyUri, if_pos h, if_neg h',
    if_pos h, if_neg h']
  rintro ⟨hreg, hproxy⟩
  have hsame := List.append_cancel_left (List.append_cancel_left (hreg.symm.trans hproxy))
  have hhead : some ';' = some ':' := congrArg List.head? hsame
  exact absurd hhead (by decide)

/-- What is stored of the two servers: with a NUL in the host, no more than what stands before
it. -/
theorem stored_servers_inj {host host' : NSString} {config config' : CTSoftPhoneConfig} :
    pjStr (registrarUri host config) = pjStr (registrarUri host' config') ∧
        pjStr (proxyUri host config) = pjStr (proxyUri host' config') ↔
      (nul ∈ host ↔ nul ∈ host') ∧ pjStr host = pjStr host' ∧
        (nul ∉ host → config.port = config'.port ∧
          config.transportDescription = config'.transportDescription) := by
  by_cases h : nul ∈ host
  · by_cases h' : nul ∈ host'
    · rw [pjStr_registrarUri, pjStr_registrarUri, pjStr_proxyUri, pjStr_proxyUri]
      simp only [h, h', if_true, List.append_right_inj, and_self, true_and, not_true,
        false_imp_iff, and_true]
    · refine iff_of_false (not_stored_servers_eq h h') fun hiff => h' (hiff.1.mp h)
  · by_cases h' : nul ∈ host'
    · refine iff_of_false ?_ fun hiff => h (hiff.1.mpr h')
      rintro ⟨hreg, hproxy⟩
      exact not_stored_servers_eq h' h ⟨hreg.symm, hproxy.symm⟩
    · have hreg := pjStr_registrarUri host config
      have hreg' := pjStr_registrarUri host' config'
      rw [if_neg h, ← List.append_assoc] at hreg
      rw [if_neg h', ← List.append_assoc] at hreg'
      rw [hreg, hreg', (pjStr_proxyUri_eq_iff host config).mpr h,
        (pjStr_proxyUri_eq_iff host' config').mpr h', pjStr_eq_self_iff.mpr h,
        pjStr_eq_self_iff.mpr h', proxyUri_inj]
      constructor
      · rintro ⟨-, hhost, hport, hdesc⟩
        exact ⟨iff_of_false h h', hhost, fun _ => ⟨hport, hdesc⟩⟩
      · rintro ⟨-, rfl, hconfig⟩
        obtain ⟨hport, hdesc⟩ := hconfig h
        exact ⟨by rw [hdesc], rfl, hport, hdesc⟩

/-- What is stored of the account id: an `@` of the number before its first NUL hides whether it has
one. -/
theorem stored_id_inj {number number' host host' : NSString} (h : pjStr number = pjStr number')
    (hhost : pjStr host = pjStr host') :
    pjStr (cutAt '@' 1 (accountUri number host)) = pjStr (cutAt '@' 1 (accountUri number' host')) ↔
      '@' ∈ pjStr number ∨ (nul ∈ number ↔ nul ∈ number') := by
  constructor
  · intro hid
    have hcount := count_storedId_iff number host
    rw [hid, count_storedId_iff number' host', ← h] at hcount
    by_cases hat : '@' ∈ pjStr number
    · exact .inl hat
    · simp only [hat, imp_false] at hcount
      exact .inr (not_iff_not.mp hcount).symm
  · intro hnul
    rw [pjStr_cutAt, pjStr_cutAt, pjStr_accountUri, pjStr_accountUri, ← h, ← hhost]
    -- what stands behind an `@` of the number is cut off
    have hcut : '@' ∈ pjStr number → ∀ b : Bool,
        cutAt '@' 1 ("sip:".toList ++ pjStr number ++ if b then [] else '@' :: pjStr host) =
          cutAt '@' 1 ("sip:".toList ++ pjStr number) := by
      intro hat b
      have hcount : 1 ≤ ("sip:".toList ++ pjStr number).count '@' :=
        List.one_le_count_iff.mpr (List.mem_append_right _ hat)
      cases b with
      | true => simp
      | false => exact cutAt_append_cons_self hcount _
    rcases hnul with hat | hiff
    · have hnumber := hcut hat (decide (nul ∈ number))
      have hnumber' := hcut hat (decide (nul ∈ number'))
      simp only [decide_eq_true_eq] at hnumber hnumber'
      rw [hnumber, hnumber']
    · simp only [hiff]

/-- **Registrations are told apart** by what they write: the arguments up to their first NUL, and
whether there is one; and, without one in the host, the port and the name of the transport. A NUL
of the number that comes after an `@` leaves no trace. -/
theorem identity_requestedConfig_inj {number number' host host' credentials credentials' : NSString}
    {config config' : CTSoftPhoneConfig} :
    (requestedConfig number host credentials config).identity =
        (requestedConfig number' host' credentials' config').identity ↔
      (pjStr number = pjStr number' ∧ ('@' ∈ pjStr number ∨ (nul ∈ number ↔ nul ∈ number'))) ∧
        pjStr credentials = pjStr credentials' ∧
        (nul ∈ host ↔ nul ∈ host') ∧ pjStr host = pjStr host' ∧
        (nul ∉ host → config.port = config'.port ∧
          config.transportDescription = config'.transportDescription) := by
  rw [identity_requestedConfig, identity_requestedConfig]
  constructor
  · intro h
    obtain ⟨hid, hreg, hproxy, hcred⟩ := AccountIdentity.mk.inj h
    obtain ⟨-, -, hnumber, -, hdata⟩ := PjsipCredInfo.mk.inj (List.singleton_inj.mp hcred)
    have hservers := stored_servers_inj.mp ⟨hreg, List.singleton_inj.mp hproxy⟩
    exact ⟨⟨hnumber, (stored_id_inj hnumber hservers.2.1).mp hid⟩, hdata, hservers⟩
  · rintro ⟨⟨hnumber, hnul⟩, hdata, hservers⟩
    obtain ⟨hreg, hproxy⟩ := stored_servers_inj.mpr hservers
    rw [hreg, hproxy, hnumber, hdata, (stored_id_inj hnumber hservers.2.1).mpr hnul]

/-! ## The configuration of the phone -/

/-- What a step in a phase makes of the configuration: a change of IP of a phone that is up selects
its transport, whatever becomes of the calls of the switch. -/
def Step.select (st : Step) (p : Phase) (config : CTSoftPhoneConfig) : CTSoftPhoneConfig :=
  match st.act with
  | .op (.handleIpChange transport) =>
    if p = .up then { config with transport := transport } else config
  | _ => config

/-- The configuration of the phone after a history. -/
def configAfter (config : CTSoftPhoneConfig) (steps : List Step) : CTSoftPhoneConfig :=
  (steps.foldl (fun t st => (t.1.step st, st.select t.1 t.2)) (Phase.down, config)).2

namespace Session

variable {s : Session} {p : Phase}

theorem putAccount_config (a : Answers) (cfg : PjsuaAccConfig) (s : Session) :
    (s.putAccount a cfg).config = s.config := by
  unfold putAccount
  split
  · split <;> rfl
  · rfl

theorem registerWithNumber_config (a : Answers) (cfg : PjsuaAccConfig) (s : Session) :
    (s.registerWithNumber a cfg).config = s.config := by
  unfold registerWithNumber
  split
  · exact putAccount_config a cfg s
  · split
    · exact putAccount_config a cfg (s.setUp a)
    · rfl

/-- A change of IP of a phone that is up switches to any transport but the selected one. -/
theorem In.switches_iff (h : s.In p) (hcall : 0 ≤ s.callId) (transport : CTSoftPhoneTransportType) :
    s.Switches transport ↔ p = .up ∧ s.config.transport ≠ transport := by
  cases p with
  | up => exact ⟨fun hs => ⟨rfl, hs.2.2⟩, fun hs => ⟨hcall, h.2.accId_nonneg, hs.2⟩⟩
  | down => exact iff_of_false (fun hs => absurd hs.2.1 (Int.not_le.mpr h.2.accId_neg)) (by simp)
  | stale => exact iff_of_false (fun hs => absurd hs.2.1 (Int.not_le.mpr h.2.accId_neg)) (by simp)

theorem In.config_step (h : s.In p) (hcall : 0 ≤ s.callId) (st : Step) :
    (s.step st).config = st.select p s.config := by
  obtain ⟨act, a, locals⟩ := st
  cases act with
  | op o =>
    cases o with
    | registerWithNumber number host credentials => exact registerWithNumber_config a _ s
    | handleIpChange transport =>
      change (s.handleIpChange a locals transport).config =
        if p = .up then { s.config with transport := transport } else s.config
      rw [Session.handleIpChange]
      by_cases hs : s.Switches transport
      · rw [if_pos hs, if_pos ((h.switches_iff hcall transport).mp hs).1]
        rfl
      · rw [if_neg hs]
        split
        -- the transport is the selected one already
        · next hp =>
          have ht : s.config.transport = transport := by
            by_contra hne
            exact hs ((h.switches_iff hcall transport).mpr ⟨hp, hne⟩)
          rw [← ht]
        · rfl
    | _ => rfl
  | callback cb =>
    cases cb with
    | incomingCall callId =>
      change (if s.state = .running then { s with callId := callId } else s).config = s.config
      split <;> rfl
    | _ => rfl

end Session

section Config

variable (config : CTSoftPhoneConfig) (steps : List Step) (st : Step)

theorem configAfter_fst :
    (steps.foldl (fun t st => (t.1.step st, st.select t.1 t.2)) (Phase.down, config)).1 =
      phaseAfter steps := by
  induction steps using List.reverseRecOn with
  | nil => rfl
  | append_singleton steps st ih => rw [List.foldl_append, phaseAfter_snoc, ← ih]; rfl

theorem configAfter_snoc :
    configAfter config (steps ++ [st]) =
      st.select (phaseAfter steps) (configAfter config steps) := by
  rw [← configAfter_fst config, configAfter, List.foldl_append]
  rfl

/-- **The configuration of the phone** keeps its port, and has the transport selected last. -/
theorem config_worldAfter : (worldAfter config steps).vars.config = configAfter config steps := by
  induction steps using List.reverseRecOn with
  | nil => rfl
  | append_singleton steps st ih =>
    rw [configAfter_snoc, ← ih, worldAfter, phone.after_snoc]
    have hstep := (in_phaseAfter config steps).config_step (callId_nonneg config steps) st
    rw [← session_step] at hstep
    exact hstep

end Config

/-! ## The steps that write -/

/-- What a switch leaves of the configuration of the account: it binds the account, reads the
configuration back, and stores what it has read, or the uninitialised local. -/
def switched (a : Answers) (locals : Locals) (cfg : PjsuaAccConfig) : PjsuaAccConfig :=
  let bound :=
    if a.accSetTransport = pjSuccess then
      { cfg with transportId := Session.switchedTransport a locals }
    else cfg
  if a.accModify = pjSuccess then
    { (if a.accGetConfig = pjSuccess then bound else locals.accCfg) with
      ipv6MediaUse := true
      hangupCalls := true }
  else bound

theorem accounts_switchTransport {s : Session} {cfg : PjsuaAccConfig}
    (h : s.accounts = [⟨s.accId, cfg⟩]) (a : Answers) (locals : Locals)
    (transport : CTSoftPhoneTransportType) :
    (s.switchTransport a locals transport).accounts = [⟨s.accId, switched a locals cfg⟩] := by
  have hbound : s.bound a locals = [⟨s.accId, if a.accSetTransport = pjSuccess then
      { cfg with transportId := Session.switchedTransport a locals } else cfg⟩] := by
    by_cases hb : a.accSetTransport = pjSuccess
    · rw [Session.bound, if_pos hb, if_pos hb, h, Session.modify_singleton]
    · rw [Session.bound, if_neg hb, if_neg hb, h]
  by_cases hm : a.accModify = pjSuccess
  · rw [Session.switchTransport, if_pos hm, hbound, Session.modify_singleton, switched, if_pos hm]
    by_cases hg : a.accGetConfig = pjSuccess <;>
      simp [Session.switchedConfig, Session.readReply, hbound, hg]
  · rw [Session.switchTransport, if_neg hm, hbound, switched, if_neg hm]

section Written

variable {X : Type} (f : PjsuaAccConfig → X) (sw : Answers → Locals → Option X)
variable (config : CTSoftPhoneConfig) (steps : List Step) (st : Step)

/-- What a step writes under a reading of the configuration: a registration that succeeds writes
what it asks for, and a switch writes `sw`, or leaves the reading as it is. -/
def written : Option X :=
  match st.act with
  | .op (.registerWithNumber number host credentials) =>
    if (phaseAfter steps).RegisterOk st.answers then
      some (f (requestedConfig number host credentials (configAfter config steps)))
    else none
  | .op (.handleIpChange transport) =>
    if phaseAfter steps = .up ∧ (configAfter config steps).transport ≠ transport then
      sw st.answers st.locals
    else none
  | .op .destroy | .op .hangup | .op .answercall | .op .mute | .op .unmute | .callback _ => none

/-- The step writes this under the reading. -/
def Writes (x : X) : Prop := written f sw config steps st = some x

/-- The step takes away what is written: it tears the library down, or writes anew. -/
def Unwrites : Prop := TearsDown steps st ∨ written f sw config steps st ≠ none

end Written

/-! ## Histories -/

section Reads

variable {X : Type}

/-- The phone has an account, and the reading of its configuration gives this. -/
def Session.Reads (f : PjsuaAccConfig → X) (x : X) (s : Session) : Prop :=
  ∃ cfg, s.accounts = [⟨s.accId, cfg⟩] ∧ f cfg = x

def World.Reads (f : PjsuaAccConfig → X) (x : X) (w : World) : Prop := w.session.Reads f x

namespace Session

variable {s : Session} {p : Phase} {f : PjsuaAccConfig → X} {x : X}

theorem reads_of_eq {cfg : PjsuaAccConfig} (h : s.accounts = [⟨s.accId, cfg⟩]) :
    s.Reads f x ↔ f cfg = x := by
  constructor
  · rintro ⟨cfg', h', rfl⟩
    rw [h, List.singleton_inj, PjsuaAccount.mk.injEq] at h'
    rw [h'.2]
  · exact fun hx => ⟨cfg, h, hx⟩

theorem Torn.not_reads (h : s.Torn) : ¬ s.Reads f x := by
  rintro ⟨cfg, hcfg, -⟩
  exact List.cons_ne_nil _ _ (hcfg.symm.trans h.accounts_eq)

/-- A registration writes, or leaves no account. -/
theorem In.reads_registerWithNumber (h : s.In p) (a : Answers) (cfg : PjsuaAccConfig) :
    (s.registerWithNumber a cfg).Reads f x ↔ p.RegisterOk a ∧ f cfg = x := by
  by_cases hok : p.RegisterOk a
  · rw [and_iff_right hok]
    apply reads_of_eq
    cases p with
    | down =>
      rw [h.2.registerWithNumber h.1, if_pos (show a.SetUpOk ∧ a.accAdd = pjSuccess from hok)]
    | up =>
      rw [Session.registerWithNumber, if_pos h.1, h.2.putAccount,
        if_pos (show a.accModify = pjSuccess from hok)]
    | stale => exact hok.elim
  · have hin := h.registerWithNumber a cfg
    rw [if_neg hok] at hin
    exact iff_of_false hin.2.not_reads fun hx => hok hx.1

/-- A switch writes, or leaves what is said. -/
theorem Running.reads_switchTransport (h : s.Running) {sw : Answers → Locals → Option X}
    (hsw : ∀ a locals cfg, f (switched a locals cfg) = (sw a locals).getD (f cfg)) (a : Answers)
    (locals : Locals) (transport : CTSoftPhoneTransportType) :
    (s.switchTransport a locals transport).Reads f x ↔
      sw a locals = some x ∨ s.Reads f x ∧ sw a locals = none := by
  obtain ⟨cfg, hcfg⟩ := h.accounts_eq
  have hswitched := accounts_switchTransport hcfg a locals transport
  rw [reads_of_eq (s := s.switchTransport a locals transport) hswitched, reads_of_eq hcfg, hsw]
  cases sw a locals <;> simp

end Session

section Histories

variable {f : PjsuaAccConfig → X} {sw : Answers → Locals → Option X}
  (hsw : ∀ a locals cfg, f (switched a locals cfg) = (sw a locals).getD (f cfg))
  (config : CTSoftPhoneConfig) (steps : List Step) (x : X)
include hsw

theorem reads_snoc (st : Step) :
    (worldAfter config (steps ++ [st])).Reads f x ↔
      Writes f sw config steps st x ∨
        (worldAfter config steps).Reads f x ∧ ¬ Unwrites f sw config steps st := by
  have hin := in_phaseAfter config steps
  have hcall : 0 ≤ (worldAfter config steps).session.callId := callId_nonneg config steps
  have hconfig : (worldAfter config steps).session.config = configAfter config steps :=
    config_worldAfter config steps
  have hstep := session_step st (worldAfter config steps)
  rw [worldAfter, phone.after_snoc, World.Reads, World.Reads]
  change (World.step st (worldAfter config steps)).state.session.Reads f x ↔ _
  rw [hstep]
  generalize (worldAfter config steps).session = s at hin hcall hconfig ⊢
  obtain ⟨act, a, locals⟩ := st
  cases act with
  | op o =>
    cases o with
    | registerWithNumber number host credentials =>
      change (s.registerWithNumber a _).Reads f x ↔ _
      rw [hin.reads_registerWithNumber, hconfig]
      by_cases hok : (phaseAfter steps).RegisterOk a <;>
        simp [Writes, written, Unwrites, TearsDown, hok]
    | handleIpChange transport =>
      change (s.handleIpChange a locals transport).Reads f x ↔ _
      have hswitches := hin.switches_iff hcall transport
      rw [hconfig] at hswitches
      rw [Session.handleIpChange]
      by_cases hs : s.Switches transport
      · have hrun : s.Running := by
          rw [(hswitches.mp hs).1] at hin
          exact hin.2
        rw [if_pos hs, hrun.reads_switchTransport hsw]
        simp [Writes, written, Unwrites, TearsDown, hswitches.mp hs]
      · rw [if_neg hs]
        have hc := hswitches.not.mp hs
        simp only [Writes, written, Unwrites, TearsDown, hc, if_false]
        simp
    | destroy =>
      refine iff_of_false ((Session.torn_tearDown s).setFlag false).not_reads ?_
      simp [Writes, written, Unwrites, TearsDown]
    | _ => simp [Session.step, Writes, written, Unwrites, TearsDown]
  | callback cb =>
    cases cb with
    | incomingCall callId =>
      have hkeeps : (s.step ⟨.callback (.incomingCall callId), a, locals⟩).Reads f x ↔
          s.Reads f x := by
        change (if s.state = .running then { s with callId := callId } else s).Reads f x ↔ _
        split <;> rfl
      simp [hkeeps, Writes, written, Unwrites, TearsDown]
    | _ => simp [Session.step, Writes, written, Unwrites, TearsDown]

/-- A reading gives what was written last, if the library has not been torn down since; otherwise
there is no account. -/
theorem reads_iff :
    (worldAfter config steps).Reads f x ↔
      Since (fun js st => Writes f sw config js st x) (Unwrites f sw config) steps :=
  iff_since (R := fun steps => (worldAfter config steps).Reads f x)
    ((Session.in_initial config).2.not_reads) (fun js st => reads_snoc hsw config js x st) steps

end Histories

end Reads

/-! ## Identity, transport and media -/

/-- A switch writes an identity when it stores a configuration that it could not read. -/
def switchedIdentity (a : Answers) (locals : Locals) : Option AccountIdentity :=
  if a.accGetConfig ≠ pjSuccess ∧ a.accModify = pjSuccess then some locals.accCfg.identity else none

/-- A switch binds the account to its transport, which the configuration it could not read replaces
when it is stored. -/
def switchedTransportId (a : Answers) (locals : Locals) : Option ℤ :=
  if a.accGetConfig ≠ pjSuccess ∧ a.accModify = pjSuccess then some locals.accCfg.transportId
  else if a.accSetTransport = pjSuccess then some (Session.switchedTransport a locals)
  else none

/-- A switch that stores a configuration has turned both on, whatever transport it switches to. -/
def switchedMedia (a : Answers) : Option (Bool × Bool) :=
  if a.accModify = pjSuccess then some (true, true) else none

/-- The use of IPv6 for media, and whether a change of IP hangs up. -/
def PjsuaAccConfig.media (cfg : PjsuaAccConfig) : Bool × Bool := (cfg.ipv6MediaUse, cfg.hangupCalls)

section Readings

variable (config : CTSoftPhoneConfig) (steps : List Step)

/-- **Who the phone is**: its account says the identity that was written last, by a registration or
by a switch that stored what it could not read. -/
theorem identity_iff (x : AccountIdentity) :
    (worldAfter config steps).Reads PjsuaAccConfig.identity x ↔
      Since (fun js st => Writes PjsuaAccConfig.identity switchedIdentity config js st x)
        (Unwrites PjsuaAccConfig.identity switchedIdentity config) steps := by
  apply reads_iff
  intro a locals cfg
  unfold switched switchedIdentity
  by_cases hm : a.accModify = pjSuccess <;> by_cases hg : a.accGetConfig = pjSuccess <;>
    by_cases hb : a.accSetTransport = pjSuccess <;> simp [PjsuaAccConfig.identity, hm, hg, hb]

/-- **The transport** of the account is the one it was bound to last, by a switch, or none (`-1`)
since a registration; a switch that stored what it could not read has bound it to anything. -/
theorem transportId_iff (transportId : ℤ) :
    (worldAfter config steps).Reads PjsuaAccConfig.transportId transportId ↔
      Since (fun js st =>
          Writes PjsuaAccConfig.transportId switchedTransportId config js st transportId)
        (Unwrites PjsuaAccConfig.transportId switchedTransportId config) steps := by
  apply reads_iff
  intro a locals cfg
  unfold switched switchedTransportId
  by_cases hm : a.accModify = pjSuccess <;> by_cases hg : a.accGetConfig = pjSuccess <;>
    by_cases hb : a.accSetTransport = pjSuccess <;> simp [hm, hg, hb]

/-- **The media** of the account use IPv6, and a change of IP hangs up, since a switch stored its
configuration, until a registration. -/
theorem media_iff (media : Bool × Bool) :
    (worldAfter config steps).Reads PjsuaAccConfig.media media ↔
      Since (fun js st =>
          Writes PjsuaAccConfig.media (fun a _ => switchedMedia a) config js st media)
        (Unwrites PjsuaAccConfig.media (fun a _ => switchedMedia a) config) steps := by
  apply reads_iff
  intro a locals cfg
  unfold switched switchedMedia
  by_cases hm : a.accModify = pjSuccess <;> by_cases hb : a.accSetTransport = pjSuccess <;>
    simp [PjsuaAccConfig.media, hm, hb]

end Readings

end CTSoftPhone
