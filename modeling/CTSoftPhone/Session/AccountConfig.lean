import Mathlib.Data.List.TakeWhile
import CTSoftPhone.Wrapper.Phone

/-!
# The account a registration asks for

The account id is cut out of a URI at its separators, which raises when there are too few. The
URI always has enough of them, so a registration always reaches its account. What is stored of a
string is what stands before its first NUL, so of a URI whose host has one the rest is lost.

## Main definitions

* `requestedConfig`: the account configuration of a registration

## Main results

* `accountConfig_eq`: building the configuration never raises
* `requestedConfig_transport`: what of the configuration depends on the transport
* `pjStr_registrarUri`, `pjStr_proxyUri`: what is stored of the two URIs
-/

namespace CTSoftPhone

/-! ## Strings as they are stored -/

theorem nul_notMem_pjStr (s : NSString) : nul ∉ pjStr s := by
  intro hmem
  have hne := List.mem_takeWhile_imp hmem
  simp at hne

theorem pjStr_eq_self_iff {s : NSString} : pjStr s = s ↔ nul ∉ s := by
  rw [pjStr, List.takeWhile_eq_self_iff]
  constructor
  · intro h hmem
    simpa using h nul hmem
  · intro h c hc
    simpa using fun he : c = nul => h (he ▸ hc)

theorem pjStr_append {s : NSString} (h : nul ∉ s) (t : NSString) :
    pjStr (s ++ t) = s ++ pjStr t := by
  refine List.takeWhile_append_of_pos fun c hc => ?_
  simpa using fun he : c = nul => h (he ▸ hc)

/-- Nothing is stored of what follows a NUL. -/
theorem pjStr_append_of_mem {s : NSString} (h : nul ∈ s) (t : NSString) :
    pjStr (s ++ t) = pjStr s := by
  obtain ⟨s₁, s₂, rfl, hs₁⟩ := List.eq_append_cons_of_mem h
  rw [List.append_assoc, pjStr_append hs₁, pjStr_append hs₁]
  simp [pjStr]

/-- What is stored of a URI with a host. -/
theorem pjStr_uri (host : NSString) {parameters : NSString} (h : nul ∉ parameters) :
    pjStr ("sip:".toList ++ host ++ parameters) =
      "sip:".toList ++ if nul ∈ host then pjStr host else host ++ parameters := by
  rw [List.append_assoc, pjStr_append (by decide)]
  by_cases hhost : nul ∈ host
  · rw [if_pos hhost, pjStr_append_of_mem hhost]
  · rw [if_neg hhost, pjStr_append hhost, pjStr_eq_self_iff.mpr h]

theorem nul_notMem_transportDescription (config : CTSoftPhoneConfig) :
    nul ∉ config.transportDescription := by
  unfold CTSoftPhoneConfig.transportDescription
  cases config.transport <;> decide

theorem notMem_toString {c : Char} (hdigit : c.isDigit = false) (hsign : c ≠ '-') (port : ℤ) :
    c ∉ (toString port).toList := by
  have hnat : ∀ n : ℕ, c ∉ n.repr.toList := by
    intro n hmem
    rw [Nat.toList_repr] at hmem
    rw [Nat.isDigit_of_mem_toDigits (by omega) (by omega) hmem] at hdigit
    exact absurd hdigit (by decide)
  rw [Int.toString_eq_repr, Int.repr_eq_if]
  split
  · exact hnat _
  -- a negative port has a sign before its digits
  · rw [String.toList_append, List.mem_append, not_or]
    exact ⟨by simpa using hsign, hnat _⟩

/-- What is stored of the registrar: with a NUL in the host the transport is lost. -/
theorem pjStr_registrarUri (host : NSString) (config : CTSoftPhoneConfig) :
    pjStr (registrarUri host config) =
      "sip:".toList ++ if nul ∈ host then pjStr host
        else host ++ (";transport=".toList ++ config.transportDescription) := by
  refine pjStr_uri host ?_
  rw [List.mem_append, not_or]
  exact ⟨by decide, nul_notMem_transportDescription config⟩

/-- What is stored of the proxy: with a NUL in the host the port and the transport are lost. -/
theorem pjStr_proxyUri (host : NSString) (config : CTSoftPhoneConfig) :
    pjStr (proxyUri host config) =
      "sip:".toList ++ if nul ∈ host then pjStr host
        else host ++ (":".toList ++ (toString config.port).toList ++ ";transport=".toList ++
          config.transportDescription) := by
  refine pjStr_uri host ?_
  simp only [List.mem_append, not_or]
  exact ⟨⟨⟨by decide, notMem_toString (by decide) (by decide) config.port⟩, by decide⟩,
    nul_notMem_transportDescription config⟩

/-! ## The configuration -/

/-- Splitting at a separator that occurs gives at least two components. -/
theorem two_le_length_componentsSeparatedByString (s t : NSString) (c : Char) :
    2 ≤ (componentsSeparatedByString (s ++ c :: t) c).length := by
  have hs := List.length_pos_iff.mpr (List.splitOn_ne_nil c s)
  have ht := List.length_pos_iff.mpr (List.splitOn_ne_nil c t)
  rw [componentsSeparatedByString, List.splitOn_append_cons_self, List.length_append]
  omega

theorem accountId_isSome (number host : NSString) : (accountId number host).isSome := by
  -- the separator stands before the host, so there are two components at least
  have hl : 2 ≤ (componentsSeparatedByString
      ("sip:".toList ++ number ++ ("@".toList ++ host)) '@').length :=
    two_le_length_componentsSeparatedByString ("sip:".toList ++ number) host '@'
  rw [accountId]
  generalize componentsSeparatedByString
    ("sip:".toList ++ number ++ ("@".toList ++ host)) '@' = names at hl ⊢
  match names, hl with
  | _ :: _ :: _, _ => simp

theorem accountConfig_isSome (number host credentials : NSString) (config : CTSoftPhoneConfig) :
    (accountConfig number host credentials config).isSome := by
  obtain ⟨id, hid⟩ := Option.isSome_iff_exists.mp (accountId_isSome number host)
  simp [accountConfig, hid]

/-- The account configuration a registration asks for. -/
def requestedConfig (number host credentials : NSString) (config : CTSoftPhoneConfig) :
    PjsuaAccConfig :=
  (accountConfig number host credentials config).get
    (accountConfig_isSome number host credentials config)

/-- **Building the configuration never raises.** -/
theorem accountConfig_eq (number host credentials : NSString) (config : CTSoftPhoneConfig) :
    accountConfig number host credentials config =
      some (requestedConfig number host credentials config) :=
  (Option.some_get _).symm

/-- The fields of the configuration that depend on the transport. -/
theorem requestedConfig_transport (number host credentials : NSString)
    (config : CTSoftPhoneConfig) :
    (requestedConfig number host credentials config).regUri = pjStr (registrarUri host config) ∧
    (requestedConfig number host credentials config).proxy = [pjStr (proxyUri host config)] ∧
    (requestedConfig number host credentials config).ipv6MediaUse = false := by
  obtain ⟨id, hid⟩ := Option.isSome_iff_exists.mp (accountId_isSome number host)
  have heq := accountConfig_eq number host credentials config
  simp only [accountConfig, hid, Option.bind_eq_bind, Option.bind_some, Option.pure_def,
    Option.some.injEq] at heq
  rw [← heq]
  exact ⟨rfl, rfl, rfl⟩

end CTSoftPhone
