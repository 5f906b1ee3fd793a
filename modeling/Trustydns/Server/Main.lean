import Trustydns.Server.Handler

/-! # The server's ECS settings at start-up

`mainExecute` checks the ECS settings before it starts a server (`validateECS`): giving either
prefix-length flag turns `--ecs-set` on, and with it on each prefix length must lie within its
family's range. The handler reads the settings so checked. Synthesis takes its prefix lengths
from the client's `X-trustydns-Synth` header, which `extractPrefixLengths` bounds the same way,
or from these settings, and so every ECS option the server synthesises carries exactly the
prefix length asked for, within its family's limit: the conversion `CreateECS` makes to the
option's `uint8` field never wraps (`synthesizedECS_within_family`).
-/

namespace Trustydns.Server

open Trustydns.Dns Trustydns.DnsUtil Trustydns.Net Trustydns.Go Trustydns.Constants Trustydns.Http

/-- The flags whose presence on the command line turns `--ecs-set` on. -/
def ecsSetFlag (name : String) : Bool :=
  name == "ecs-set-ipv4-prefixlen" || name == "ecs-set-ipv6-prefixlen"

/-- The ECS block of `mainExecute`, with `visited` the flags given on the command line as
`flagSet.Visit` walks them: the settings the servers read, or the message `fatal` prints. -/
def validateECS (cfg : Config) (visited : List String) : Except String Config :=
  let cfg := { cfg with ecsSet := cfg.ecsSet || visited.any ecsSetFlag }
  if cfg.ecsSet then
    if cfg.ecsSetIPv4PrefixLen < 0 ∨ cfg.ecsSetIPv4PrefixLen > 32 then
      .error ("--ecs-set-ipv4-prefixlen " ++ toString cfg.ecsSetIPv4PrefixLen ++
        " must be between 0 and 32")
    else if cfg.ecsSetIPv6PrefixLen < 0 ∨ cfg.ecsSetIPv6PrefixLen > 128 then
      .error ("--ecs-set-ipv6-prefixlen " ++ toString cfg.ecsSetIPv6PrefixLen ++
        " must be between 0 and 128")
    else .ok cfg
  else .ok cfg

/-- Settings `validateECS` accepts with `--ecs-set` on have both prefix lengths in range. -/
theorem validateECS_ranges {cfg0 cfg : Config} {visited : List String}
    (validated : validateECS cfg0 visited = .ok cfg) (set : cfg.ecsSet = true) :
    0 ≤ cfg.ecsSetIPv4PrefixLen ∧ cfg.ecsSetIPv4PrefixLen ≤ 32 ∧
      0 ≤ cfg.ecsSetIPv6PrefixLen ∧ cfg.ecsSetIPv6PrefixLen ≤ 128 := by
  unfold validateECS at validated
  dsimp only at validated
  -- the two rejections are closed by the split; what is left is accepted with the flag on or off
  split_ifs at validated with enabled ipv4 ipv6
  · cases validated
    dsimp only
    omega
  · cases validated
    exact absurd set enabled

/-- The prefix lengths synthesis uses are in range: the header's by `extractPrefixLengths`, the
configured ones by `validateECS`. -/
theorem prefixLengths_within {cfg0 cfg : Config} {visited : List String}
    (validated : validateECS cfg0 visited = .ok cfg) {ecsRequestData : String}
    {ipv4PrefixLen ipv6PrefixLen : Int}
    (lengths : prefixLengths cfg ecsRequestData = .ok (ipv4PrefixLen, ipv6PrefixLen))
    (synthesis : 0 < ecsRequestData.length ∨ cfg.ecsSet = true) :
    0 ≤ ipv4PrefixLen ∧ ipv4PrefixLen ≤ 32 ∧ 0 ≤ ipv6PrefixLen ∧ ipv6PrefixLen ≤ 128 := by
  unfold prefixLengths at lengths
  split_ifs at lengths with header
  · obtain ⟨d1, d2, -, -, -, ipv4, ipv6, same⟩ := (extractPrefixLengths_eq_ok_iff _ _).mp lengths
    obtain ⟨rfl, rfl⟩ := Prod.mk.inj same
    omega
  · obtain ⟨rfl, rfl⟩ := Prod.mk.inj (Except.ok.inj lengths)
    exact validateECS_ranges validated (synthesis.resolve_left header)

/-- **Synthesised ECS options stay within their family**: with the settings `mainExecute`
accepts, every query the handler lets the local resolver see, when synthesis is on, carries at
most the one ECS option `synthesizeECS`'s `switch` picks for the peer, and its source prefix
length is exactly the header's or the configured one: at most 32 under family 1, at most 128
under family 2. -/
theorem synthesizedECS_within_family {cfg0 cfg : Config} {visited : List String}
    (validated : validateECS cfg0 visited = .ok cfg) {wire : Wire} {newId : Nat} {req : Request}
    {pending : Pending} (ok : localQuery wire cfg newId req = .ok pending)
    (mutable : pending.msgIsMutable = true)
    (synthesis : 0 < req.synthesizeECS.length ∨ cfg.ecsSet = true) :
    ∃ ipv4PrefixLen ipv6PrefixLen : Nat, ∃ ip,
      prefixLengths cfg req.synthesizeECS = .ok (ipv4PrefixLen, ipv6PrefixLen) ∧
      parseRemoteAddr req.remoteAddr = .ok ip ∧ ipv4PrefixLen ≤ 32 ∧ ipv6PrefixLen ≤ 128 ∧
      ecsOptions pending.query =
        if (To4 ip).isSome ∧ 0 < ipv4PrefixLen then [.subnet 1 ipv4PrefixLen 0 ip]
        else if (To16 ip).isSome ∧ 0 < ipv6PrefixLen then [.subnet 2 ipv6PrefixLen 0 ip]
        else [] := by
  obtain ⟨ipv4PrefixLen, ipv6PrefixLen, ip, lengths, peer, ecs⟩ :=
    ecsOptions_localQuery ok mutable synthesis
  obtain ⟨low4, high4, low6, high6⟩ := prefixLengths_within validated lengths synthesis
  refine ⟨ipv4PrefixLen.toNat, ipv6PrefixLen.toNat, ip, ?_, peer, by omega, by omega, ?_⟩
  · rw [Int.toNat_of_nonneg low4, Int.toNat_of_nonneg low6]
    exact lengths
  · rw [ecs, peerECS, Int.emod_eq_of_lt low4 (by omega), Int.emod_eq_of_lt low6 (by omega)]
    simp only [gt_iff_lt, Int.lt_toNat, Nat.cast_zero]

theorem synthesizedECS_within_family_implied_set :
    ∃ ipv4PrefixLen ipv6PrefixLen : Nat, ∃ ip,
      prefixLengths ⟨false, true, 24, 56⟩ "" = .ok (ipv4PrefixLen, ipv6PrefixLen) ∧
      parseRemoteAddr "192.0.2.1:443" = .ok ip ∧ ipv4PrefixLen ≤ 32 ∧ ipv6PrefixLen ≤ 128 ∧
      ecsOptions (⟨⟨⟨7, OpcodeQuery, false, 0⟩, [⟨"example.com.", 1, ClassINET⟩], [], [],
          [⟨⟨".", TypeOPT, DefaultMsgSize, 0⟩, .opt [.subnet 1 24 0 (IPv4 192 0 2 1)]⟩]⟩,
          7, true, -1⟩ : Pending).query =
        if (To4 ip).isSome ∧ 0 < ipv4PrefixLen then [.subnet 1 ipv4PrefixLen 0 ip]
        else if (To16 ip).isSome ∧ 0 < ipv6PrefixLen then [.subnet 2 ipv6PrefixLen 0 ip]
        else [] :=
  @synthesizedECS_within_family ⟨false, false, 24, 56⟩ ⟨false, true, 24, 56⟩
    ["ecs-set-ipv4-prefixlen"] rfl
    ⟨fun _ => .ok [],
      fun _ => .ok ⟨⟨7, OpcodeQuery, false, 0⟩, [⟨"example.com.", 1, ClassINET⟩], [], [], []⟩,
      fun m _ => m⟩
    9 ⟨MethodPost, Rfc8484AcceptValue, "", .ok [], [], "192.0.2.1:443"⟩ _ rfl rfl (.inr rfl)

end Trustydns.Server
