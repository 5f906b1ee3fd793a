import Trustydns.Resolver.Doh

/-! # The proxy's DNS handler

`ServeDNS` answers one DNS query from a client: it hands the query to the resolver the routing
picked, the DoH resolver or the local one, and writes the reply back, truncated for UDP when it
exceeds the client's limit. The limit (`truncationLimit`) is 512 bytes, or the UDP payload size
of the query's OPT record when that is larger. `ServeDNS` reads it from the query object after
resolution, and Go's resolvers receive that object by pointer, so the query the limit is read
from is the one the resolver leaves. Truncation is miekg/dns's `Truncate`, part of the codec
parameter (`Trustydns.Dns.Wire`); whatever it does, `ServeDNS` keeps the TC flag of a reply that
had it.
-/

namespace Trustydns.Proxy

open Trustydns.Dns Trustydns.DnsUtil Trustydns.Constants Trustydns.Resolver Trustydns.BestServer
  Trustydns.Http

/-- The limit `ServeDNS` truncates to: `DNSTruncateThreshold`, or the UDP payload size of the
query's OPT record when that is larger. -/
def truncationLimit (query : Msg) : Nat :=
  match query.IsEdns0 with
  | some opt =>
      if opt.hdr.UDPSize > DNSTruncateThreshold then opt.hdr.UDPSize else DNSTruncateThreshold
  | none => DNSTruncateThreshold

/-- The truncation of a reply to `limit`: `Truncate`, with TC set when it was set before or
when records were dropped. -/
def truncateReply (wire : Wire) (resp : Msg) (limit : Nat) : Msg :=
  let preserveTruncated := resp.hdr.truncated
  let beforeCount := resp.answer.length + resp.ns.length + resp.extra.length
  let resp' := wire.truncate resp limit
  let afterCount := resp'.answer.length + resp'.ns.length + resp'.extra.length
  { resp' with hdr := { resp'.hdr with
      truncated := resp'.hdr.truncated || preserveTruncated || beforeCount ≠ afterCount } }

/-- `ServeDNS` of a query received over `transport`, with the resolver the routing picked,
which returns the query as it leaves it: the reply written, or nothing when resolution
fails. -/
def ServeDNS (transport : String) (wire : Wire)
    (resolve : Msg → Msg × Except String (Msg × ResponseMetaData)) (query : Msg) : Option Msg :=
  let resolved := resolve query
  let query := resolved.1
  match resolved.2 with
  | .error _ => none
  | .ok (resp, respMeta) =>
      if transport = DNSUDPTransport ∧ respMeta.payloadSize > DNSTruncateThreshold then
        let limit := truncationLimit query
        if respMeta.payloadSize > limit then some (truncateReply wire resp limit) else some resp
      else some resp

/-- The DoH resolver as `ServeDNS` calls it. -/
def dohResolver (t : Doh.Remote) (wire : Wire) (client : Doh.HTTPClient) (startTime endTime : Int)
    (query : Msg) : Msg × Except String (Msg × ResponseMetaData) :=
  let outcome := Doh.Resolve t wire client query startTime endTime
  (outcome.query, outcome.reply)

/-! ## What `ServeDNS` writes -/

/-- The limit is the larger of 512 and the UDP payload size of the query's OPT record, 512
when it has none. -/
theorem truncationLimit_eq (query : Msg) : truncationLimit query =
    max DNSTruncateThreshold ((query.IsEdns0.map (·.hdr.UDPSize)).getD DNSTruncateThreshold) := by
  unfold truncationLimit
  cases query.IsEdns0 with
  | none => exact (max_self _).symm
  | some opt =>
      simp only [Option.map_some', Option.getD_some, max_def]
      split_ifs <;> omega

theorem threshold_le_truncationLimit (query : Msg) : DNSTruncateThreshold ≤ truncationLimit query := by
  rw [truncationLimit_eq]
  exact le_max_left _ _

/-- **`ServeDNS` applies the limit of the query the resolver leaves**: a UDP reply past it is
truncated to it, any other reply is written as it came. -/
theorem ServeDNS_of_ok {transport : String} {wire : Wire}
    {resolve : Msg → Msg × Except String (Msg × ResponseMetaData)} {query resp : Msg}
    {respMeta : ResponseMetaData} (resolved : (resolve query).2 = .ok (resp, respMeta)) :
    ServeDNS transport wire resolve query =
      if transport = DNSUDPTransport ∧ truncationLimit (resolve query).1 < respMeta.payloadSize
      then some (truncateReply wire resp (truncationLimit (resolve query).1))
      else some resp := by
  unfold ServeDNS
  simp only [resolved, gt_iff_lt]
  by_cases past : truncationLimit (resolve query).1 < respMeta.payloadSize
  · have over : DNSTruncateThreshold < respMeta.payloadSize :=
      lt_of_le_of_lt (threshold_le_truncationLimit _) past
    simp only [over, past, and_true, if_true]
  · simp only [past, and_false, if_false, ite_self]

/-- **`ServeDNS` never clears TC**: a reply the resolver returns with TC set is written with TC
set, whether or not it is truncated. -/
theorem ServeDNS_of_truncated {transport : String} {wire : Wire}
    {resolve : Msg → Msg × Except String (Msg × ResponseMetaData)} {query resp : Msg}
    {respMeta : ResponseMetaData} (resolved : (resolve query).2 = .ok (resp, respMeta))
    (tc : resp.hdr.truncated = true) :
    ∃ written, ServeDNS transport wire resolve query = some written ∧
      written.hdr.truncated = true := by
  rw [ServeDNS_of_ok resolved]
  split_ifs
  · exact ⟨_, rfl, by simp [truncateReply, tc]⟩
  · exact ⟨_, rfl, tc⟩

/-! ## The limit after a DoH resolution -/

/-- **The DoH resolver raises the limit of a query without OPT to 4096**: when `ECSSetCIDR` or
`GeneratePadding` is configured, `Resolve` adds `NewOPT` to the client's query object, and
`ServeDNS` then reads the limit from it: 4096 where the client, which sent no OPT, asked for
512. A UDP reply of up to 4096 bytes is written untruncated. -/
theorem dohResolveRaisesTruncationLimit {config : Doh.Config} {t : Doh.Remote}
    (created : Doh.New config = .ok t)
    (adds : config.ecsSetCIDR.isSome ∨ config.generatePadding = true) {dnsQ : Msg}
    (plain : Doh.adjustable dnsQ) (noOPT : optRecords dnsQ.extra = [])
    (typed : WellTyped dnsQ.extra) (rcodeRange : 0 ≤ dnsQ.hdr.rcode ∧ dnsQ.hdr.rcode ≤ 0xFFF)
    (wire : Wire) (client : Doh.HTTPClient) (startTime endTime : Int) :
    truncationLimit dnsQ = DNSTruncateThreshold ∧
      truncationLimit (dohResolver t wire client startTime endTime dnsQ).1 = DefaultMsgSize ∧
      ∀ resp respMeta, (dohResolver t wire client startTime endTime dnsQ).2 = .ok (resp, respMeta) →
        respMeta.payloadSize ≤ DefaultMsgSize →
        ServeDNS DNSUDPTransport wire (dohResolver t wire client startTime endTime) dnsQ =
          some resp := by
  have sent : (dohResolver t wire client startTime endTime dnsQ).1.IsEdns0.map (·.hdr.UDPSize) =
      some DefaultMsgSize := by
    rw [dohResolver, Doh.Resolve_query]
    exact Doh.prepareQuery_udpSize created adds plain noOPT typed rcodeRange wire
  have raised : truncationLimit (dohResolver t wire client startTime endTime dnsQ).1 =
      DefaultMsgSize := by
    rw [truncationLimit_eq, sent]
    rfl
  have received : dnsQ.IsEdns0 = none := by
    have absent := IsEdns0_hdr typed
    rw [noOPT] at absent
    exact Option.map_eq_none'.mp absent
  refine ⟨by rw [truncationLimit_eq, received]; rfl, raised, fun resp respMeta resolved within => ?_⟩
  rw [ServeDNS_of_ok resolved, raised, if_neg fun past => absurd past.2 (Nat.not_lt.mpr within)]

theorem dohResolveRaisesTruncationLimit_ecs_set :
    truncationLimit ⟨⟨23, OpcodeQuery, false, 0⟩, [⟨"example.com.", 1, ClassINET⟩], [], [], []⟩ =
        DNSTruncateThreshold ∧
      truncationLimit (dohResolver
        ⟨⟨false, false, false, false, 0, 0, some ⟨[192, 0, 2, 0], [255, 255, 255, 0]⟩,
            defaultLatencyConfig, ["https://dns.example/dns-query"]⟩, MethodPost, 1, 24,
          [192, 0, 2, 0], "0/0",
          ⟨Latency.withDefaults defaultLatencyConfig, [⟨0, "https://dns.example/dns-query"⟩], 1,
            0, [{}], 0, 0, 0, 0, 0, .algNone⟩⟩
        ⟨fun _ => .ok [0, 23], fun _ => .error "", fun m _ => m⟩
        ⟨fun _ _ => none, fun _ => .error "timeout"⟩ 100 250
        ⟨⟨23, OpcodeQuery, false, 0⟩, [⟨"example.com.", 1, ClassINET⟩], [], [], []⟩).1 =
        DefaultMsgSize ∧
      ∀ resp respMeta, (dohResolver
        ⟨⟨false, false, false, false, 0, 0, some ⟨[192, 0, 2, 0], [255, 255, 255, 0]⟩,
            defaultLatencyConfig, ["https://dns.example/dns-query"]⟩, MethodPost, 1, 24,
          [192, 0, 2, 0], "0/0",
          ⟨Latency.withDefaults defaultLatencyConfig, [⟨0, "https://dns.example/dns-query"⟩], 1,
            0, [{}], 0, 0, 0, 0, 0, .algNone⟩⟩
        ⟨fun _ => .ok [0, 23], fun _ => .error "", fun m _ => m⟩
        ⟨fun _ _ => none, fun _ => .error "timeout"⟩ 100 250
        ⟨⟨23, OpcodeQuery, false, 0⟩, [⟨"example.com.", 1, ClassINET⟩], [], [], []⟩).2 =
          .ok (resp, respMeta) → respMeta.payloadSize ≤ DefaultMsgSize →
        ServeDNS DNSUDPTransport ⟨fun _ => .ok [0, 23], fun _ => .error "", fun m _ => m⟩
          (dohResolver
            ⟨⟨false, false, false, false, 0, 0, some ⟨[192, 0, 2, 0], [255, 255, 255, 0]⟩,
                defaultLatencyConfig, ["https://dns.example/dns-query"]⟩, MethodPost, 1, 24,
              [192, 0, 2, 0], "0/0",
              ⟨Latency.withDefaults defaultLatencyConfig, [⟨0, "https://dns.example/dns-query"⟩],
                1, 0, [{}], 0, 0, 0, 0, 0, .algNone⟩⟩
            ⟨fun _ => .ok [0, 23], fun _ => .error "", fun m _ => m⟩
            ⟨fun _ _ => none, fun _ => .error "timeout"⟩ 100 250)
          ⟨⟨23, OpcodeQuery, false, 0⟩, [⟨"example.com.", 1, ClassINET⟩], [], [], []⟩ = some resp :=
  by
  refine @dohResolveRaisesTruncationLimit
    ⟨false, false, false, false, 0, 0, some ⟨[192, 0, 2, 0], [255, 255, 255, 0]⟩,
      defaultLatencyConfig, ["https://dns.example/dns-query"]⟩ _ ?_ (.inl rfl) _ ?_ ?_ ?_ ?_ _ _ _ _
  all_goals first | rfl | decide

end Trustydns.Proxy
