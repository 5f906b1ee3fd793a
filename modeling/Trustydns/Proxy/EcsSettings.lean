import Trustydns.Net.CIDR
import Trustydns.Resolver.Doh

/-! # The proxy's ECS settings at start-up

`mainExecute` checks the ECS options before it builds the DoH resolver, so that its messages can
name the command-line options (`validateECS`), and then hands the network `--ecs-set` names to
`doh.New` as `ECSSetCIDR`. `New` checks the same settings again in its own terms.

The two sets of checks agree on everything but one setting (`New_ecs_checks_of_validateECS`):
whatever the proxy accepts passes `New`'s GET check and its prefix-length ranges, and
`New` derives its ECS settings from it, unless `--ecs-set` names an IPv4-mapped network in IPv6
notation, such as `::ffff:192.0.2.0/120`. `net.ParseCIDR` keeps such a network sixteen bytes
long with a mask of at least 96 bits, `ecsSetFamily` files it under family 1 by its IPv4
address, and the mask is then over the family's limit of 32: the proxy stops at `New`'s generic
message instead of its own.
-/

namespace Trustydns.Proxy

open Trustydns.Net

/-- The ECS block of `mainExecute`: the settings the DoH resolver is built with, `ECSSetCIDR`
set from `--ecs-set` (`ecsSet`), or the message `fatal` prints. -/
def validateECS (config : Doh.Config) (ecsSet : String) : Except String Doh.Config :=
  if config.useGetMethod ∧ (ecsSet.length > 0 ∨ config.ecsRequestIPv4PrefixLen > 0 ∨
      config.ecsRequestIPv6PrefixLen > 0) then
    .error "Cannot have any ECS synthesis options when using HTTP GET"
  else
    let ecsIPNet : Except String (Option IPNet) :=
      if ecsSet.length > 0 then
        match ParseCIDR ecsSet with
        | .error err => .error ("--ecs-set " ++ err)
        | .ok (_, ipNet) =>
            if config.ecsRequestIPv4PrefixLen ≠ 0 ∨ config.ecsRequestIPv6PrefixLen ≠ 0 then
              .error "Cannot have both --ecs-set and --ecs-request-* options set at the same time"
            else .ok (some ipNet)
      else .ok none
    match ecsIPNet with
    | .error err => .error err
    | .ok ipNet =>
        if config.ecsRequestIPv4PrefixLen < 0 ∨ config.ecsRequestIPv4PrefixLen > 32 then
          .error ("--ecs-request-ipv4-prefixlen " ++ toString config.ecsRequestIPv4PrefixLen ++
            " must be between 0 and 32")
        else if config.ecsRequestIPv6PrefixLen < 0 ∨ config.ecsRequestIPv6PrefixLen > 128 then
          .error ("--ecs-request-ipv6-prefixlen " ++ toString config.ecsRequestIPv6PrefixLen ++
            " must be between 0 and 128")
        else .ok { config with ecsSetCIDR := ipNet }

/-- What `validateECS` accepting says: no ECS option with GET, both request prefix lengths in
range, and `ECSSetCIDR` either unset or the network `ParseCIDR` reads from `--ecs-set`, with
neither request prefix length given. -/
theorem validateECS_eq_ok {config config' : Doh.Config} {ecsSet : String}
    (validated : validateECS config ecsSet = .ok config') :
    ¬(config.useGetMethod = true ∧ (ecsSet.length > 0 ∨ config.ecsRequestIPv4PrefixLen > 0 ∨
        config.ecsRequestIPv6PrefixLen > 0)) ∧
      0 ≤ config.ecsRequestIPv4PrefixLen ∧ config.ecsRequestIPv4PrefixLen ≤ 32 ∧
      0 ≤ config.ecsRequestIPv6PrefixLen ∧ config.ecsRequestIPv6PrefixLen ≤ 128 ∧
      (ecsSet.length = 0 ∧ config' = { config with ecsSetCIDR := none } ∨
        ecsSet.length > 0 ∧ ∃ ip ipNet, ParseCIDR ecsSet = .ok (ip, ipNet) ∧
          config.ecsRequestIPv4PrefixLen = 0 ∧
          config.ecsRequestIPv6PrefixLen = 0 ∧ config' = { config with ecsSetCIDR := some ipNet }) := by
  unfold validateECS at validated
  by_cases get : config.useGetMethod = true ∧ (ecsSet.length > 0 ∨
    config.ecsRequestIPv4PrefixLen > 0 ∨ config.ecsRequestIPv6PrefixLen > 0)
  · rw [if_pos get] at validated
    cases validated
  rw [if_neg get] at validated
  dsimp only at validated
  by_cases given : ecsSet.length > 0
  · rw [if_pos given] at validated
    cases parsed : ParseCIDR ecsSet with
    | error err => simp [parsed] at validated
    | ok result =>
      obtain ⟨ip, ipNet⟩ := result
      simp only [parsed] at validated
      split_ifs at validated with both ipv4 ipv6
      cases validated
      exact ⟨get, by omega, by omega, by omega, by omega,
        .inr ⟨given, ip, ipNet, rfl, by omega, by omega, rfl⟩⟩
  · rw [if_neg given] at validated
    split_ifs at validated with ipv4 ipv6
    cases validated
    exact ⟨get, by omega, by omega, by omega, by omega, .inl ⟨by omega, rfl⟩⟩

/-- `New`'s ECS settings for a network `ParseCIDR` read, with neither request prefix length
given: an error exactly when the network is sixteen bytes long and IPv4-mapped. -/
theorem ecsSettings_error_iff_mapped {config : Doh.Config} {ecsSet : String} {ip : IP}
    {ipNet : IPNet} (parsed : ParseCIDR ecsSet = .ok (ip, ipNet))
    (zero4 : config.ecsRequestIPv4PrefixLen = 0) (zero6 : config.ecsRequestIPv6PrefixLen = 0) :
    (∃ err, Doh.ecsSettings { config with ecsSetCIDR := some ipNet } = .error err) ↔
      ipNet.IP.length = IPv6len ∧ (To4 ipNet.IP).isSome := by
  obtain ⟨n, size, fits, family⟩ := ParseCIDR_network parsed
  simp only [Doh.ecsSettings, Doh.ecsSetFamily, zero4, zero6, size]
  rcases family with four | ⟨sixteen, mapped⟩
  · have v4 : (To4 ipNet.IP).isSome := by simp [To4, four]
    simp only [four, IPv4len] at fits
    simp [v4, four, IPv4len, IPv6len, show ¬32 < n by omega]
  · simp only [sixteen, IPv6len] at fits mapped
    by_cases v4 : (To4 ipNet.IP).isSome
    · simp [v4, sixteen, Nat.lt_of_lt_of_le (show 32 < 96 by decide) (mapped v4)]
    · simp [v4, sixteen, show ¬128 < n by omega]

/-- **The proxy's ECS checks against `New`'s**: settings the proxy accepts pass `New`'s GET check
and both of its prefix-length ranges, and `New` fails to derive its ECS settings from them
exactly when `ECSSetCIDR` is a sixteen-byte IPv4-mapped network, which the proxy lets through. -/
theorem New_ecs_checks_of_validateECS {config config' : Doh.Config} {ecsSet : String}
    (validated : validateECS config ecsSet = .ok config') :
    ¬(config'.useGetMethod = true ∧ (config'.ecsSetCIDR.isSome = true ∨
        config'.ecsRequestIPv4PrefixLen ≠ 0 ∨ config'.ecsRequestIPv6PrefixLen ≠ 0)) ∧
      ¬(config'.ecsRequestIPv4PrefixLen < 0 ∨ config'.ecsRequestIPv4PrefixLen > 32) ∧
      ¬(config'.ecsRequestIPv6PrefixLen < 0 ∨ config'.ecsRequestIPv6PrefixLen > 128) ∧
      ((∃ err, Doh.ecsSettings config' = .error err) ↔ ∃ ipNet, config'.ecsSetCIDR = some ipNet ∧
        ipNet.IP.length = IPv6len ∧ (To4 ipNet.IP).isSome) := by
  obtain ⟨get, low4, high4, low6, high6,
    ⟨empty, rfl⟩ | ⟨given, ip, ipNet, parsed, zero4, zero6, rfl⟩⟩ := validateECS_eq_ok validated
  all_goals dsimp only
  · refine ⟨fun ⟨g, r⟩ => get ⟨g, ?_⟩, by omega, by omega, by simp [Doh.ecsSettings]⟩
    simp only [Option.isSome_none, Bool.false_eq_true, false_or] at r
    omega
  · refine ⟨fun ⟨g, _⟩ => get ⟨g, .inl given⟩, by omega, by omega, ?_⟩
    rw [ecsSettings_error_iff_mapped parsed zero4 zero6]
    simp

theorem New_ecs_checks_of_validateECS_mapped :
    ∃ config', validateECS ⟨false, false, false, false, 0, 0, none,
        BestServer.defaultLatencyConfig, ["https://dns.example/dns-query"]⟩
        "::ffff:192.0.2.0/120" = .ok config' ∧
      ¬(config'.useGetMethod = true ∧ (config'.ecsSetCIDR.isSome = true ∨
        config'.ecsRequestIPv4PrefixLen ≠ 0 ∨ config'.ecsRequestIPv6PrefixLen ≠ 0)) ∧
      ¬(config'.ecsRequestIPv4PrefixLen < 0 ∨ config'.ecsRequestIPv4PrefixLen > 32) ∧
      ¬(config'.ecsRequestIPv6PrefixLen < 0 ∨ config'.ecsRequestIPv6PrefixLen > 128) ∧
      ((∃ err, Doh.ecsSettings config' = .error err) ↔ ∃ ipNet, config'.ecsSetCIDR = some ipNet ∧
        ipNet.IP.length = IPv6len ∧ (To4 ipNet.IP).isSome) :=
  ⟨_, rfl, @New_ecs_checks_of_validateECS ⟨false, false, false, false, 0, 0, none,
    BestServer.defaultLatencyConfig, ["https://dns.example/dns-query"]⟩ _ "::ffff:192.0.2.0/120"
    rfl⟩

end Trustydns.Proxy
