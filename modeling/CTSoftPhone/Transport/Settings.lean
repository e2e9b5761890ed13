import CTSoftPhone.Text.AfterLast
import CTSoftPhone.Transport.Switch

/-!
# The transport settings of the account

The account carries the transport in three places: the parameters of its registrar and proxy URIs,
and the use of IPv6 for media. A registration writes the URIs and leaves IPv6 off; a switch turns
IPv6 on and leaves the URIs. So the account follows the configuration only along histories in which
registrations are made under IPv4 and switches go to the IPv6 transport of the same name. A NUL in
the host of a registration cuts its URIs off before the transport.

## Main definitions

* `StoresTransport`: the stored URIs of a registration have its transport
* `PjsuaAccConfig.Follows`: the settings agree with a configuration
* `World.SettingsFollow`: those of the account agree with the configuration of the phone
* `KeepsSettings`: the condition on a step

## Main results

* `follows_requestedConfig_iff`, `follows_switched_iff`: the settings after a registration and
  after a switch
* `always_settingsFollow_iff`: the histories along which the account follows the configuration
-/

namespace CTSoftPhone

/-- The `;transport=` parameter at the end of a URI. -/
def transportParameter (uri : NSString) : Option NSString := afterLast ";transport=".toList uri

/-- The transport settings of an account agree with a configuration. -/
structure PjsuaAccConfig.Follows (cfg : PjsuaAccConfig) (config : CTSoftPhoneConfig) : Prop where
  regUri_eq : transportParameter cfg.regUri = some config.transportDescription
  proxy_eq : cfg.proxy.map transportParameter = [some config.transportDescription]
  ipv6_iff : cfg.ipv6MediaUse = true ↔ config.isIPv6 = true

/-- Every call succeeds. -/
structure Answers.AllOk (a : Answers) : Prop where
  setUp : a.SetUpOk
  transportCreate : a.transportCreate = pjSuccess
  accAdd : a.accAdd = pjSuccess
  accModify : a.accModify = pjSuccess
  accSetTransport : a.accSetTransport = pjSuccess
  accGetConfig : a.accGetConfig = pjSuccess
  callGetInfo : ∀ callId, a.callGetInfo callId = pjSuccess

/-! ## The two ways to write the settings -/

theorem semicolon_notMem_transportDescription (config : CTSoftPhoneConfig) :
    ';' ∉ config.transportDescription := by
  unfold CTSoftPhoneConfig.transportDescription
  cases config.transport <;> decide

theorem transportParameter_append (uri : NSString) (config : CTSoftPhoneConfig) :
    transportParameter (uri ++ (";transport=".toList ++ config.transportDescription)) =
      some config.transportDescription :=
  afterLast_append (by decide) (semicolon_notMem_transportDescription config) uri

/-- The URIs of a registration are stored with the transport: the host has no NUL, or what stands
before the first one happens to end in the same transport. -/
def StoresTransport (host : NSString) (config : CTSoftPhoneConfig) : Prop :=
  nul ∈ host → transportParameter (pjStr host) = some config.transportDescription

/-- Both URIs are stored with the transport, or neither is. -/
theorem transportParameter_stored_iff (host : NSString) (config : CTSoftPhoneConfig) :
    (transportParameter (pjStr (registrarUri host config)) = some config.transportDescription ↔
      StoresTransport host config) ∧
    (transportParameter (pjStr (proxyUri host config)) = some config.transportDescription ↔
      StoresTransport host config) := by
  rw [pjStr_registrarUri, pjStr_proxyUri]
  by_cases hhost : nul ∈ host
  · have hcut : transportParameter ("sip:".toList ++ pjStr host) =
        transportParameter (pjStr host) := afterLast_append_of_notMem (by decide) _
    simp only [hhost, if_true, hcut, StoresTransport, true_imp_iff, and_self]
  · simp only [hhost, if_false, StoresTransport, false_imp_iff, iff_true]
    constructor
    · rw [← List.append_assoc]
      exact transportParameter_append ("sip:".toList ++ host) config
    -- the parameter ends the proxy too, behind the port
    · have hassoc : "sip:".toList ++ (host ++ (":".toList ++ (toString config.port).toList ++
          ";transport=".toList ++ config.transportDescription)) =
          "sip:".toList ++ host ++ (":".toList ++ (toString config.port).toList) ++
            (";transport=".toList ++ config.transportDescription) := by
        simp only [List.append_assoc]
      rw [hassoc]
      exact transportParameter_append _ config

/-- A registration under IPv4 makes the settings follow, if its URIs are stored with the
transport. -/
theorem follows_requestedConfig_iff (number host credentials : NSString)
    (config : CTSoftPhoneConfig) :
    (requestedConfig number host credentials config).Follows config ↔
      config.isIPv6 = false ∧ StoresTransport host config := by
  obtain ⟨hreg, hproxy, hipv6⟩ := requestedConfig_transport number host credentials config
  obtain ⟨hregStored, hproxyStored⟩ := transportParameter_stored_iff host config
  constructor
  · intro h
    exact ⟨by simpa [hipv6] using h.ipv6_iff, hregStored.mp (hreg ▸ h.regUri_eq)⟩
  · rintro ⟨h4, hstored⟩
    refine ⟨?_, ?_, by simp [hipv6, h4]⟩
    · rw [hreg]
      exact hregStored.mpr hstored
    · rw [hproxy, List.map_singleton, hproxyStored.mpr hstored]

/-- A switch to the IPv6 transport of the same name makes settings that followed follow. -/
theorem follows_switched_iff {cfg cfg' : PjsuaAccConfig} {config config' : CTSoftPhoneConfig}
    (h : cfg.Follows config) (hreg : cfg'.regUri = cfg.regUri) (hproxy : cfg'.proxy = cfg.proxy)
    (hipv6 : cfg'.ipv6MediaUse = true) :
    cfg'.Follows config' ↔
      config'.transportDescription = config.transportDescription ∧ config'.isIPv6 = true := by
  constructor
  · intro h'
    refine ⟨?_, h'.ipv6_iff.mp hipv6⟩
    have heq := h'.regUri_eq
    rw [hreg, h.regUri_eq, Option.some.injEq] at heq
    exact heq.symm
  · rintro ⟨hdesc, h6⟩
    exact ⟨by rw [hreg, h.regUri_eq, hdesc], by rw [hproxy, h.proxy_eq, hdesc],
      iff_of_true hipv6 h6⟩

/-! ## Histories -/

/-- The account of a session, when there is one, follows its configuration. -/
def Session.SettingsFollow (s : Session) : Prop :=
  0 ≤ s.accId → ∃ cfg, PjsuaAccount.configOf s.accounts s.accId = some cfg ∧ cfg.Follows s.config

/-- The account of the phone, when there is one, follows the configuration of the phone. -/
def World.SettingsFollow (w : World) : Prop := w.session.SettingsFollow

namespace Session

variable {s : Session}

theorem settingsFollow_of_neg (h : s.accId < 0) : s.SettingsFollow := fun hpos =>
  absurd hpos (Int.not_le.mpr h)

theorem settingsFollow_iff {cfg : PjsuaAccConfig} (hacc : 0 ≤ s.accId)
    (h : s.accounts = [⟨s.accId, cfg⟩]) : s.SettingsFollow ↔ cfg.Follows s.config := by
  simp [SettingsFollow, hacc, h]

/-- A registration that succeeds makes the account follow exactly under IPv4, with its URIs stored
with the transport. -/
theorem In.settingsFollow_registerWithNumber {p : Phase} (h : s.In p) (hp : p ≠ .stale)
    {a : Answers} (ha : a.AllOk) (number host credentials : NSString) :
    (s.registerWithNumber a (requestedConfig number host credentials s.config)).SettingsFollow ↔
      s.config.isIPv6 = false ∧ StoresTransport host s.config := by
  rw [← follows_requestedConfig_iff number host credentials s.config]
  cases p with
  | down =>
    rw [h.2.registerWithNumber h.1, if_pos ⟨ha.setUp, ha.accAdd⟩]
    exact settingsFollow_iff (Int.natCast_nonneg a.accId) rfl
  | up =>
    rw [Session.registerWithNumber, if_pos h.1, h.2.putAccount, if_pos ha.accModify]
    exact settingsFollow_iff h.2.accId_nonneg rfl
  | stale => exact absurd rfl hp

/-- A switch that succeeds keeps the URIs of the account and turns IPv6 on. -/
theorem switchTransport_accounts {a : Answers} (ha : a.AllOk) (locals : Locals)
    (transport : CTSoftPhoneTransportType) {cfg : PjsuaAccConfig}
    (hcfg : s.accounts = [⟨s.accId, cfg⟩]) :
    (s.switchTransport a locals transport).accounts =
      [⟨s.accId, { cfg with
        transportId := a.transportId, ipv6MediaUse := true, hangupCalls := true }⟩] := by
  simp [Session.switchTransport, switchedConfig, Session.readReply, Session.bound,
    switchedTransport, hcfg, ha.accModify, ha.accSetTransport, ha.accGetConfig, ha.transportCreate]

theorem Running.settingsFollow_switchTransport (h : s.Running) (hs : s.SettingsFollow)
    {a : Answers} (ha : a.AllOk) (locals : Locals) (transport : CTSoftPhoneTransportType) :
    (s.switchTransport a locals transport).SettingsFollow ↔
      (s.select transport).transportDescription = s.config.transportDescription ∧
        (s.select transport).isIPv6 = true := by
  obtain ⟨cfg, hcfg⟩ := h.accounts_eq
  have hfollow := (settingsFollow_iff h.accId_nonneg hcfg).mp hs
  rw [settingsFollow_iff (s := s.switchTransport a locals transport) h.accId_nonneg
    (switchTransport_accounts ha locals transport hcfg)]
  exact follows_switched_iff hfollow rfl rfl rfl

end Session

/-- The condition on a step: a registration is made under IPv4, and its URIs are stored with the
transport; and a switch goes to the IPv6 transport of the same name. -/
def KeepsSettings (config : CTSoftPhoneConfig) (steps : List Step) (st : Step) : Prop :=
  let s := (worldAfter config steps).session
  match st.act with
  | .op (.registerWithNumber _ host _) => s.config.isIPv6 = false ∧ StoresTransport host s.config
  | .op (.handleIpChange transport) =>
    s.Switches transport →
      (s.select transport).transportDescription = s.config.transportDescription ∧
        (s.select transport).isIPv6 = true
  | .op .destroy | .op .hangup | .op .answercall | .op .mute | .op .unmute | .callback _ => True

/-- The phone is never stale while every call succeeds. -/
theorem phaseAfter_ne_stale {steps : List Step} (h : ∀ st ∈ steps, st.answers.AllOk) :
    phaseAfter steps ≠ .stale := by
  induction steps using List.reverseRecOn with
  | nil => decide
  | append_singleton steps st ih =>
    have hst := h st (by simp)
    have hp := ih fun st' hst' => h st' (List.mem_append_left _ hst')
    rw [phaseAfter_snoc]
    obtain ⟨act, a, locals⟩ := st
    cases act with
    | op o =>
      cases o with
      | registerWithNumber number host credentials =>
        have hok : (phaseAfter steps).RegisterOk a := by
          cases hq : phaseAfter steps with
          | down => exact ⟨hst.setUp, hst.accAdd⟩
          | up => exact hst.accModify
          | stale => exact absurd hq hp
        simp [Phase.step, hok]
      | destroy => simp [Phase.step]
      | handleIpChange transport => exact hp
      | hangup => exact hp
      | answercall => exact hp
      | mute => exact hp
      | unmute => exact hp
    | callback cb => exact hp

theorem settingsFollow_step_iff {config : CTSoftPhoneConfig} {steps : List Step} {st : Step}
    (h : ∀ st' ∈ steps ++ [st], st'.answers.AllOk)
    (hs : (worldAfter config steps).SettingsFollow) :
    (worldAfter config (steps ++ [st])).SettingsFollow ↔ KeepsSettings config steps st := by
  have hst := h st (by simp)
  have hp := phaseAfter_ne_stale fun st' hst' => h st' (List.mem_append_left _ hst')
  have hin := in_phaseAfter config steps
  rw [World.SettingsFollow, worldAfter, phone.after_snoc]
  rw [World.SettingsFollow] at hs
  change (World.step st (worldAfter config steps)).state.session.SettingsFollow ↔ _
  rw [session_step]
  obtain ⟨act, a, locals⟩ := st
  cases act with
  | op o =>
    cases o with
    | registerWithNumber number host credentials =>
      exact hin.settingsFollow_registerWithNumber hp hst number host credentials
    | handleIpChange transport =>
      change (Session.handleIpChange a locals transport _).SettingsFollow ↔
        ((worldAfter config steps).session.Switches transport → _)
      -- only a switch writes the settings
      by_cases hsw : (worldAfter config steps).session.Switches transport
      · have hrun : (worldAfter config steps).session.Running := by
          rw [(accId_nonneg_iff config steps).mp hsw.2.1] at hin
          exact hin.2
        rw [Session.handleIpChange, if_pos hsw]
        simpa [hsw] using hrun.settingsFollow_switchTransport hs hst locals transport
      · rw [Session.handleIpChange, if_neg hsw]
        exact iff_of_true hs fun h => absurd h hsw
    | destroy =>
      exact iff_of_true (Session.settingsFollow_of_neg (Session.dropAccount_neg _)) trivial
    | hangup => exact iff_of_true hs trivial
    | answercall => exact iff_of_true hs trivial
    | mute => exact iff_of_true hs trivial
    | unmute => exact iff_of_true hs trivial
  | callback cb =>
    cases cb with
    | incomingCall callId =>
      refine iff_of_true ?_ trivial
      change (if _ then _ else _ : Session).SettingsFollow
      split
      · exact hs
      · exact hs
    | callState callId state => exact iff_of_true hs trivial
    | callMediaState callId => exact iff_of_true hs trivial
    | regState2 info => exact iff_of_true hs trivial

/-- **The account follows the configuration** in every state of a history without failures exactly
when registrations are made under IPv4, with their URIs stored with the transport, and switches go
to the IPv6 transport of the same name. -/
theorem always_settingsFollow_iff (config : CTSoftPhoneConfig) (steps : List Step)
    (h : ∀ st ∈ steps, st.answers.AllOk) :
    Always (fun js => (worldAfter config js).SettingsFollow) steps ↔
      Along (KeepsSettings config) steps := by
  refine always_iff_along ?_ fun js st hjs hs => ?_
  · exact Session.settingsFollow_of_neg (show (-1 : ℤ) < 0 by decide)
  · exact settingsFollow_step_iff (fun st' hst' => h st' (hjs.subset hst')) hs

theorem Answers.allOk_success : Answers.success.AllOk :=
  ⟨by decide, rfl, rfl, rfl, rfl, rfl, fun _ => rfl⟩

/-- A registration over UDP, and a switch to UDP over IPv6. -/
def registerAndSwitch : List Step :=
  [(Act.op (.registerWithNumber [] [] [])).answered .success,
    (Act.op (.handleIpChange .udpIPv6)).answered .success]

/-- A registration over UDP follows, a switch to UDP over IPv6 follows it. -/
theorem always_settingsFollow_register_switch :
    Always (fun js => (worldAfter ⟨5060, .udp⟩ js).SettingsFollow) registerAndSwitch := by
  refine (always_settingsFollow_iff ⟨5060, .udp⟩ registerAndSwitch ?_).mpr ?_
  · simp [registerAndSwitch, Act.answered, Answers.allOk_success]
  · refine along_snoc.mpr ⟨along_singleton.mpr ?_, fun _ => by decide⟩
    exact ⟨rfl, fun hmem => absurd hmem List.not_mem_nil⟩

/-- A registration over UDP with IPv6 leaves IPv6 off. -/
theorem not_settingsFollow_register_ipv6 :
    ¬ (worldAfter ⟨5060, .udpIPv6⟩
      [(Act.op (.registerWithNumber [] [] [])).answered .success]).SettingsFollow := by
  intro h
  obtain ⟨cfg, hcfg, hfollow⟩ := h (by decide)
  have hoff : (PjsuaAccount.configOf (worldAfter ⟨5060, .udpIPv6⟩
      [(Act.op (.registerWithNumber [] [] [])).answered .success]).pjsua.accounts 0).map
        PjsuaAccConfig.ipv6MediaUse = some false := by
    decide
  have hsome := congrArg (Option.map PjsuaAccConfig.ipv6MediaUse) hcfg
  have heq : cfg.ipv6MediaUse = false := Option.some.inj (hsome.symm.trans hoff)
  rw [hfollow.ipv6_iff.mpr rfl] at heq
  exact absurd heq (by decide)

end CTSoftPhone
