import CTSoftPhone.Text.Separated
import CTSoftPhone.Transport.Settings

/-!
# The URIs of an account

A registration cuts the account id out of a URI, at its second `@`, and writes the host, the port
and the transport into the URI of the proxy. Neither raises, whatever the strings are, and the proxy
determines what it was written from. What is stored of either ends before the first NUL, so the id
of a number with a NUL can be without its `@`.

## Main definitions

* `accountUri`: the URI the account id is cut out of

## Main results

* `accountId_eq`: the account id is that URI, cut at its second `@`
* `proxyUri_inj`: the proxy determines the host, the port and the transport name
* `count_storedId_iff`: when the id has an `@` as it is stored
* `account_uris`: what a registration makes of its strings
-/

namespace CTSoftPhone

/-- The URI that the account id is cut out of. -/
def accountUri (number host : NSString) : NSString :=
  "sip:".toList ++ number ++ ("@".toList ++ host)

section AccountId

variable (number host : NSString)

theorem count_accountUri :
    (accountUri number host).count '@' = number.count '@' + 1 + host.count '@' := by
  have hscheme : "sip:".toList.count '@' = 0 := by decide
  have hat : "@".toList.count '@' = 1 := by decide
  rw [accountUri, List.count_append, List.count_append, List.count_append, hscheme, hat]
  omega

/-- **The account id** is the URI, cut at its second `@`. -/
theorem accountId_eq : accountId number host = some (cutAt '@' 1 (accountUri number host)) := by
  have hl : 2 ≤ ((accountUri number host).splitOn '@').length :=
    two_le_length_componentsSeparatedByString ("sip:".toList ++ number) host '@'
  rw [← intercalate_take_splitOn]
  change (let names := (accountUri number host).splitOn '@'
    if 0 < names.length then do
      let newChar := (← names[0]?) ++ "@".toList
      return newChar ++ (← names[1]?)
    else some []) = _
  -- the first two components are there, so the lookups do not raise
  generalize (accountUri number host).splitOn '@' = names at hl ⊢
  obtain ⟨x, y, rest, rfl⟩ : ∃ x y rest, names = x :: y :: rest := by
    rcases names with _ | ⟨x, _ | ⟨y, rest⟩⟩
    · simp at hl
    · simp at hl
    · exact ⟨x, y, rest, rfl⟩
  simp

/-- Before it is stored, the account id has one `@`. -/
theorem count_accountId : (cutAt '@' 1 (accountUri number host)).count '@' = 1 := by
  rw [count_cutAt, count_accountUri]
  omega

/-- The account id is the whole URI exactly when neither part has an `@` of its own. -/
theorem accountId_eq_accountUri_iff :
    cutAt '@' 1 (accountUri number host) = accountUri number host ↔ '@' ∉ number ∧ '@' ∉ host := by
  rw [cutAt_eq_self_iff, count_accountUri, ← List.count_eq_zero, ← List.count_eq_zero]
  omega

theorem pjStr_cutAt (n : ℕ) (s : NSString) : pjStr (cutAt '@' n s) = cutAt '@' n (pjStr s) :=
  (cutAt_takeWhile n s).symm

/-- What is stored of the URI: of a number with a NUL, no more than what stands before it. -/
theorem pjStr_accountUri :
    pjStr (accountUri number host) =
      "sip:".toList ++ pjStr number ++ if nul ∈ number then [] else '@' :: pjStr host := by
  rw [accountUri, List.append_assoc, pjStr_append (by decide), List.append_assoc]
  by_cases hnumber : nul ∈ number
  · rw [if_pos hnumber, pjStr_append_of_mem hnumber, List.append_nil]
  · have hat : nul ∉ "@".toList := by decide
    rw [if_neg hnumber, pjStr_append hnumber, pjStr_append hat, pjStr_eq_self_iff.mpr hnumber]
    rfl

theorem mem_pjStr_accountUri_iff :
    '@' ∈ pjStr (accountUri number host) ↔ (nul ∈ number → '@' ∈ pjStr number) := by
  have hscheme : '@' ∉ "sip:".toList := by decide
  rw [pjStr_accountUri, List.mem_append, List.mem_append, or_iff_right hscheme]
  by_cases hnumber : nul ∈ number
  · simp [hnumber]
  · simp [hnumber]

/-- **The account id as it is stored** has its `@`, unless a NUL of the number stands before it. -/
theorem count_storedId_iff :
    (pjStr (cutAt '@' 1 (accountUri number host))).count '@' = 1 ↔
      (nul ∈ number → '@' ∈ pjStr number) := by
  rw [← mem_pjStr_accountUri_iff number host, pjStr_cutAt, count_cutAt, ← List.one_le_count_iff]
  omega

/-- The id as it is stored is the whole URI exactly when neither part has an `@` of its own, or a
NUL. -/
theorem storedId_eq_accountUri_iff :
    pjStr (cutAt '@' 1 (accountUri number host)) = accountUri number host ↔
      ('@' ∉ number ∧ nul ∉ number) ∧ '@' ∉ host ∧ nul ∉ host := by
  have hnul : nul ∉ accountUri number host ↔ nul ∉ number ∧ nul ∉ host := by
    have hscheme : nul ∉ "sip:".toList := by decide
    have hat : nul ∉ "@".toList := by decide
    simp only [accountUri, List.mem_append, hscheme, hat, false_or, not_or]
  constructor
  · intro h
    have hfree : nul ∉ accountUri number host := h ▸ nul_notMem_pjStr _
    -- nothing is lost, so nothing is cut off either
    have hcut : cutAt '@' 1 (accountUri number host) = accountUri number host := by
      rw [pjStr_cutAt, pjStr_eq_self_iff.mpr hfree] at h
      exact h
    obtain ⟨hnumber, hhost⟩ := (accountId_eq_accountUri_iff number host).mp hcut
    exact ⟨⟨hnumber, (hnul.mp hfree).1⟩, hhost, (hnul.mp hfree).2⟩
  · rintro ⟨⟨hnumber, hnumber'⟩, hhost, hhost'⟩
    rw [(accountId_eq_accountUri_iff number host).mpr ⟨hnumber, hhost⟩]
    exact pjStr_eq_self_iff.mpr (hnul.mpr ⟨hnumber', hhost'⟩)

end AccountId

/-! ## The proxy -/

theorem natRepr_injective {m n : ℕ} (h : m.repr = n.repr) : m = n := by
  have hdigits : Nat.toDigits 10 m = Nat.toDigits 10 n := by
    rw [← Nat.toList_repr, ← Nat.toList_repr, h]
  -- the digits are read back
  rw [← Nat.ofDigitChars_ten_toDigits (n := m), hdigits, Nat.ofDigitChars_ten_toDigits]

theorem toString_port_injective {m n : ℤ} (h : toString m = toString n) : m = n := by
  -- the sign is no digit
  have hsign : ∀ k l : ℕ, k.repr ≠ "-" ++ l.repr := by
    intro k l he
    have hmem : '-' ∈ k.repr.toList := by simp [he]
    rw [Nat.toList_repr] at hmem
    exact absurd (Nat.isDigit_of_mem_toDigits (by omega) (by omega) hmem) (by decide)
  rw [Int.toString_eq_repr, Int.toString_eq_repr, Int.repr_eq_if, Int.repr_eq_if] at h
  split at h
  · split at h
    · have := natRepr_injective h
      omega
    · exact absurd h (hsign _ _)
  · split at h
    · exact absurd h.symm (hsign _ _)
    · have := natRepr_injective (String.append_right_inj _ |>.mp h)
      omega

theorem proxyUri_eq (host : NSString) (config : CTSoftPhoneConfig) :
    proxyUri host config =
      ("sip:".toList ++ host ++ (":".toList ++ (toString config.port).toList)) ++
        (";transport=".toList ++ config.transportDescription) := by
  simp only [proxyUri, List.append_assoc]

/-- **The proxy is unambiguous**: it determines the host, the port and the name of the
transport. -/
theorem proxyUri_inj {host host' : NSString} {config config' : CTSoftPhoneConfig} :
    proxyUri host config = proxyUri host' config' ↔
      host = host' ∧ config.port = config'.port ∧
        config.transportDescription = config'.transportDescription := by
  constructor
  · intro h
    rw [proxyUri_eq, proxyUri_eq] at h
    -- the transport is behind the last `;`, and the port behind the last `:` before it
    obtain ⟨haddress, htransport⟩ := append_marker_inj (a := ';') (m := "transport=".toList)
      (by decide) (semicolon_notMem_transportDescription config)
      (semicolon_notMem_transportDescription config') h
    obtain ⟨hhost, hport⟩ := append_marker_inj (a := ':') (m := []) (by decide)
      (notMem_toString (by decide) (by decide) config.port)
      (notMem_toString (by decide) (by decide) config'.port) haddress
    refine ⟨List.append_cancel_left hhost, ?_, htransport⟩
    exact toString_port_injective (String.toList_inj.mp hport)
  · rintro ⟨rfl, hport, htransport⟩
    rw [proxyUri, proxyUri, hport, htransport]

/-! ## What a registration makes of its strings -/

theorem id_requestedConfig (number host credentials : NSString) (config : CTSoftPhoneConfig) :
    (requestedConfig number host credentials config).id =
      pjStr (cutAt '@' 1 (accountUri number host)) := by
  have heq := accountConfig_eq number host credentials config
  simp only [accountConfig, accountId_eq, Option.bind_eq_bind, Option.bind_some, Option.pure_def,
    Option.some.injEq] at heq
  rw [← heq]

theorem pjStr_proxyUri_eq_iff (host : NSString) (config : CTSoftPhoneConfig) :
    pjStr (proxyUri host config) = proxyUri host config ↔ nul ∉ host := by
  constructor
  · intro h hmem
    have hnul : nul ∈ proxyUri host config := by simp [proxyUri, hmem]
    exact pjStr_eq_self_iff.mp h hnul
  · intro h
    rw [pjStr_proxyUri, if_neg h, proxyUri, ← List.append_assoc]

/-- **The URIs of an account**, whatever the strings: there are components enough for the account
id; it is the URI up to its second `@`, or all of it, and has one `@`. What is stored of it ends
before its first NUL, and has the `@` unless a NUL of the number stands before it; it is the whole
URI exactly when neither part has an `@` of its own, or a NUL. And the proxy is unambiguous, and
stored as it is when the host has no NUL. -/
theorem account_uris :
    (∀ (number host credentials : NSString) (config : CTSoftPhoneConfig),
      2 ≤ (componentsSeparatedByString (accountUri number host) '@').length ∧
      ∃ cfg id t, accountConfig number host credentials config = some cfg ∧
        accountUri number host = id ++ t ∧ (t = [] ∨ ∃ t', t = '@' :: t') ∧ id.count '@' = 1 ∧
        cfg.id = pjStr id ∧
        (cfg.id = id ↔ nul ∉ id) ∧
        (cfg.id.count '@' = 1 ↔ (nul ∈ number → '@' ∈ pjStr number)) ∧
        (cfg.id = accountUri number host ↔
          ('@' ∉ number ∧ nul ∉ number) ∧ '@' ∉ host ∧ nul ∉ host) ∧
        cfg.proxy = [pjStr (proxyUri host config)] ∧
        (cfg.proxy = [proxyUri host config] ↔ nul ∉ host)) ∧
    ∀ (host host' : NSString) (config config' : CTSoftPhoneConfig),
      proxyUri host config = proxyUri host' config' ↔
        host = host' ∧ config.port = config'.port ∧
          config.transportDescription = config'.transportDescription := by
  constructor
  · intro number host credentials config
    obtain ⟨t, ht, hstart⟩ := eq_cutAt_append (c := '@') 1 (accountUri number host)
    obtain ⟨-, hproxy, -⟩ := requestedConfig_transport number host credentials config
    refine ⟨two_le_length_componentsSeparatedByString ("sip:".toList ++ number) host '@', _, _, t,
      accountConfig_eq number host credentials config, ht, hstart, count_accountId number host, ?_⟩
    rw [id_requestedConfig, hproxy]
    refine ⟨rfl, pjStr_eq_self_iff, count_storedId_iff number host,
      storedId_eq_accountUri_iff number host, rfl, ?_⟩
    exact List.singleton_inj.trans (pjStr_proxyUri_eq_iff host config)
  · intro host host' config config'
    exact proxyUri_inj

/-- Of a number with a NUL, what is stored of the account id has no `@`. -/
theorem not_count_accountId_nul :
    ∃ cfg, accountConfig ['1', nul] "h".toList [] ⟨5060, .udp⟩ = some cfg ∧
      cfg.id = "sip:1".toList ∧ ¬ cfg.id.count '@' = 1 ∧
      ¬ cfg.id = cutAt '@' 1 (accountUri ['1', nul] "h".toList) :=
  ⟨_, rfl, by decide, by decide, by decide⟩

end CTSoftPhone
