import Trustydns.Server.Handler
import Trustydns.Resolver.Doh

/-! # What the DoH server receives of a request the resolver sends

The resolver's `Resolve` and the server's `serveDoH` meet at one HTTP request. Of it the
server's handler reads the method, the `Content-Type` header, which the resolver always sets to
`application/dns-message`, the `X-trustydns-Synth` header, the body and the URL's parameters;
`received` puts these together, the parameters given as `URL.Query()` parses them (URL parsing
and the transport are not modelled).

Both ends encode the `dns` parameter of a GET with the padded `base64.URLEncoding`, so the
server takes from every request the resolver sends exactly the bytes the resolver packed, from
a POST body or from a GET URL (`Trustydns.Base64.URLEncoding_decode_encode`). RFC 8484
prescribes the unpadded form instead, which differs on every query whose length is not a
multiple of 3 and which the server's decoder rejects there
(`Trustydns.Base64.URLEncoding_decode_rawEncode`).

`New` sets the synthesis request to `p4/p6` whatever the prefix lengths, so a resolver
configured without an ECS request sends `X-trustydns-Synth: 0/0` with every query that has no
ECS option. The server takes the prefix lengths from that header in preference to its own
`--ecs-set` ones, and the query its local resolver receives carries no ECS option.

The server's `extractPrefixLengths` accepts exactly the texts `d1/d2` of two decimal numbers of
at most 32 and 128, leading zeros allowed, and returns their values, so it reads back the header
of every resolver `New` creates (`Trustydns.Exchange.prefixLengthsHeaderGrammar`).

A query signed with TSIG is immutable at both ends: the resolver applies no ECS rule to it and
sends no synthesis request, and, over a codec whose decoder inverts its encoder, the server
hands its local resolver the message the resolver packed, with only a zero Id replaced.
-/

namespace Trustydns.Exchange

open Trustydns.Base64 Trustydns.Constants Trustydns.Http Trustydns.Dns Trustydns.DnsUtil
  Trustydns.BestServer

/-- The parts of a request the resolver sends that the server's handler reads, from the peer
address `remoteAddr`, with `params` the parameters of its URL. -/
def received (request : Doh.HTTPRequest) (params : List (String × String)) (remoteAddr : String) :
    Server.Request :=
  ⟨request.method, Rfc8484AcceptValue, request.synthesizeECS.getD "", .ok request.body, params,
    remoteAddr⟩

/-! ## The query -/

/-- The server's decoding of a GET request whose only parameter is `dns`. -/
theorem decodeQueryParam_single (param : String) :
    Server.decodeQueryParam [(Rfc8484QueryParam, param)] =
      (URLEncoding.DecodeString param).mapError fun err =>
        (.serBadQueryParamDecode, "Error: Query Param '" ++ Rfc8484QueryParam ++ "': " ++ err) := by
  simp [Server.decodeQueryParam, Server.valuesOf, Server.paramCount]
  cases URLEncoding.DecodeString param <;> rfl

theorem append_left_cancel_iff (s t u : String) : s ++ t = s ++ u ↔ t = u :=
  ⟨fun same => String.ext (List.append_cancel_left (congrArg String.data same)),
    congrArg (s ++ ·)⟩

/-- **The GET parameter is the padded form, and the server decodes only that**: the server
decodes the unpadded base64url form of a byte string only when its length is a multiple of 3,
and otherwise rejects it at the first character of its final block; the `dns` parameter of a
GET URL is the unpadded form exactly for those same lengths. -/
theorem getParamRejectsUnpadded (b : List UInt8) :
    Server.decodeQueryParam [(Rfc8484QueryParam, RawURLEncoding.EncodeToString b)] =
        (if b.length % 3 = 0 then .ok b else
          .error (.serBadQueryParamDecode, "Error: Query Param '" ++ Rfc8484QueryParam ++ "': " ++
            corruptInputError (4 * (b.length / 3)))) ∧
      ∀ (t : Doh.Remote) (server : Doh.BestServer), t.httpMethod = MethodGet →
        (Doh.requestURL t server b =
            server.name ++ "?" ++ Rfc8484QueryParam ++ "=" ++ RawURLEncoding.EncodeToString b ↔
          b.length % 3 = 0) := by
  refine ⟨?_, fun t server get => ?_⟩
  · rw [decodeQueryParam_single, URLEncoding_decode_rawEncode]
    split_ifs <;> rfl
  · rw [Doh.requestURL, if_pos get, append_left_cancel_iff, EncodeToString_eq_raw_iff]

theorem getParamRejectsUnpadded_single_byte :
    Server.decodeQueryParam [(Rfc8484QueryParam, RawURLEncoding.EncodeToString [0])] =
        .error (.serBadQueryParamDecode,
          "Error: Query Param 'dns': illegal base64 data at input byte 0") ∧
      Doh.requestURL ⟨⟨true, false, false, false, 0, 0, none, defaultLatencyConfig,
            ["https://dns.example/dns-query"]⟩, MethodGet, 0, 0, [], "0/0",
          ⟨Latency.withDefaults defaultLatencyConfig, [⟨0, "https://dns.example/dns-query"⟩], 1,
            0, [{}], 0, 0, 0, 0, 0, .algNone⟩⟩
        ⟨0, "https://dns.example/dns-query"⟩ [0] ≠
        "https://dns.example/dns-query" ++ "?" ++ Rfc8484QueryParam ++ "=" ++
          RawURLEncoding.EncodeToString [0] := by
  obtain ⟨rejected, unpadded⟩ := getParamRejectsUnpadded [0]
  refine ⟨by rw [rejected, if_neg (by decide)]; rfl, fun same => ?_⟩
  exact absurd ((unpadded _ ⟨0, "https://dns.example/dns-query"⟩ rfl).mp same) (by decide)

/-- The server accepts the method, the content type and the body of every request a resolver
from `New` sends. -/
theorem validateRequest_received {config : Doh.Config} {t : Doh.Remote}
    (created : Doh.New config = .ok t) (server : Doh.BestServer) (binary : List UInt8)
    (ecsRequestData : String) (msgIsMutable : Bool) (params : List (String × String))
    (remoteAddr : String) :
    Server.validateRequest
        (received (Doh.buildRequest t server binary ecsRequestData msgIsMutable) params remoteAddr) =
      .ok (Doh.buildRequest t server binary ecsRequestData msgIsMutable).body := by
  obtain ⟨-, method, -⟩ := Doh.New_eq_ok created
  simp only [Server.validateRequest, received, Doh.buildRequest, method]
  split_ifs <;> simp_all [MethodGet, MethodPost]

/-- The server reads the packed query back from every request the resolver builds: from the
body of a POST, or from the `dns` parameter of a GET. -/
theorem requestBody_buildRequest {config : Doh.Config} {t : Doh.Remote}
    (created : Doh.New config = .ok t) (server : Doh.BestServer) (binary : List UInt8)
    (ecsRequestData : String) (msgIsMutable : Bool) (remoteAddr : String) :
    (t.httpMethod = MethodPost ∧ Server.requestBody
        (received (Doh.buildRequest t server binary ecsRequestData msgIsMutable) [] remoteAddr) =
          .ok binary) ∨
      (t.httpMethod = MethodGet ∧ Server.requestBody
        (received (Doh.buildRequest t server binary ecsRequestData msgIsMutable)
          [(Rfc8484QueryParam, URLEncoding.EncodeToString binary)] remoteAddr) = .ok binary) := by
  have valid := validateRequest_received created server binary ecsRequestData msgIsMutable
  by_cases get : t.httpMethod = MethodGet
  · refine .inr ⟨get, ?_⟩
    rw [Server.requestBody, valid]
    simp only [received, Doh.buildRequest, get, if_true, decodeQueryParam_single,
      URLEncoding_decode_encode]
    rfl
  · have post : t.httpMethod = MethodPost := by
      obtain ⟨-, method, -⟩ := Doh.New_eq_ok created
      rw [method] at get ⊢
      split_ifs at get ⊢
      · exact absurd rfl get
      · rfl
    refine .inl ⟨post, ?_⟩
    rw [Server.requestBody, valid]
    simp only [received, Doh.buildRequest, get, if_false]

/-- **A resolver without an ECS request turns the server's ECS synthesis off**: it sends
`X-trustydns-Synth: 0/0` with every query that has no ECS option, and whatever the server's
configuration, `--ecs-set` included, the query the server's local resolver receives for it
carries no ECS option. -/
theorem zeroSynthesisRequestSuppressesECS {config : Doh.Config} {t : Doh.Remote}
    (created : Doh.New config = .ok t)
    (noRequest : config.ecsRequestIPv4PrefixLen = 0 ∧ config.ecsRequestIPv6PrefixLen = 0)
    (noSet : config.ecsSetCIDR = none) {wire : Wire} {client : Doh.HTTPClient} {dnsQ : Msg}
    {startTime endTime : Int} {request : Doh.HTTPRequest} (plain : Doh.adjustable dnsQ)
    (noECS : FindECS dnsQ = none)
    (sent : (Doh.Resolve t wire client dnsQ startTime endTime).sent = some request)
    {serverWire : Wire} {cfg : Server.Config} {newId : Nat} {params : List (String × String)}
    {remoteAddr : String} {pending : Server.Pending}
    (accepted : Server.localQuery serverWire cfg newId (received request params remoteAddr) =
      .ok pending)
    (mutable : pending.msgIsMutable = true) :
    request.synthesizeECS = some "0/0" ∧ Server.ecsOptions pending.query = [] := by
  obtain ⟨configured, -, requestData⟩ := Doh.New_eq_ok created
  have zeroes : t.ecsRequestData = "0/0" := by
    rw [requestData, noRequest.1, noRequest.2]
    rfl
  have nonempty : 0 < "0/0".length := by decide
  have rules : (Doh.applyECSRules t dnsQ).2.ecsRequestData = "0/0" := by
    simp [Doh.applyECSRules, noECS, configured, noSet, zeroes, nonempty]
  obtain ⟨server, -, binary, -, -, rfl⟩ := Doh.Resolve_sent sent
  have header : (Doh.buildRequest t server binary (Doh.prepareQuery t wire dnsQ).2.1.ecsRequestData
      !dnsQ.IsTsig).synthesizeECS = some "0/0" := by
    rw [Doh.prepareQuery_rules t wire plain, rules]
    simp [Doh.buildRequest, plain.2.2.2, nonempty]
  refine ⟨header, ?_⟩
  have zeroLengths : Server.prefixLengths cfg "0/0" = .ok (0, 0) := rfl
  obtain ⟨ipv4PrefixLen, ipv6PrefixLen, ip, lengths, -, ecs⟩ :=
    Server.ecsOptions_localQuery accepted mutable (.inl (by simpa [received, header] using nonempty))
  simp only [received, header, Option.getD_some] at lengths
  obtain ⟨rfl, rfl⟩ := Prod.mk.inj (Except.ok.inj (zeroLengths.symm.trans lengths))
  rw [ecs]
  simp [Server.peerECS]

theorem zeroSynthesisRequestSuppressesECS_server_ecs_set :
    (⟨MethodPost, "https://dns.example/dns-query", [0, 23], some "0/0"⟩ :
        Doh.HTTPRequest).synthesizeECS = some "0/0" ∧
      Server.ecsOptions (⟨⟨⟨23, OpcodeQuery, false, 0⟩, [⟨"example.com.", 1, ClassINET⟩], [], [],
        []⟩, 23, true, -1⟩ : Server.Pending).query = [] :=
  @zeroSynthesisRequestSuppressesECS ⟨false, false, false, false, 0, 0, none, defaultLatencyConfig,
      ["https://dns.example/dns-query"]⟩ ⟨⟨false, false, false, false, 0, 0, none, defaultLatencyConfig,
            ["https://dns.example/dns-query"]⟩, MethodPost, 0, 0, [], "0/0",
          ⟨Latency.withDefaults defaultLatencyConfig, [⟨0, "https://dns.example/dns-query"⟩], 1,
            0, [{}], 0, 0, 0, 0, 0, .algNone⟩⟩ rfl ⟨rfl, rfl⟩ rfl
    ⟨fun _ => .ok [0, 23], fun _ => .error "", fun m _ => m⟩
    ⟨fun _ _ => none, fun _ => .error "timeout"⟩
    ⟨⟨23, OpcodeQuery, false, 0⟩, [⟨"example.com.", 1, ClassINET⟩], [], [], []⟩ 100 250 _
    (by decide) rfl rfl
    ⟨fun _ => .ok [], fun _ => .ok ⟨⟨23, OpcodeQuery, false, 0⟩, [⟨"example.com.", 1, ClassINET⟩],
      [], [], []⟩, fun m _ => m⟩
    ⟨false, true, 24, 64⟩ 9 [] "192.0.2.1:443" _ rfl rfl

/-! ## The prefix-length header -/

/-- **The server's grammar for the prefix-length header, and the resolver's header read
back**: `extractPrefixLengths` succeeds exactly on the texts `d1/d2` of two non-empty strings of
ASCII digits with values at most 32 and 128, and returns those values; so it reads back
`%d/%d` of every pair of lengths in range, and in particular the header of every resolver that
`New` creates. -/
theorem prefixLengthsHeaderGrammar :
    (∀ (s : String) (lengths : Int × Int), Server.extractPrefixLengths s = .ok lengths ↔
      ∃ d1 d2 : List Char, s.toList = d1 ++ '/' :: d2 ∧ Go.Decimal d1 ∧ Go.Decimal d2 ∧
        Go.decimalValue d1 ≤ 32 ∧ Go.decimalValue d2 ≤ 128 ∧
        lengths = ((Go.decimalValue d1 : Int), (Go.decimalValue d2 : Int))) ∧
    (∀ p4 p6 : Nat, p4 ≤ 32 → p6 ≤ 128 →
      Server.extractPrefixLengths (toString p4 ++ "/" ++ toString p6) = .ok (p4, p6)) ∧
    (∀ (config : Doh.Config) (t : Doh.Remote), Doh.New config = .ok t →
      Server.extractPrefixLengths t.ecsRequestData =
        .ok (config.ecsRequestIPv4PrefixLen, config.ecsRequestIPv6PrefixLen)) := by
  refine ⟨Server.extractPrefixLengths_eq_ok_iff, Server.extractPrefixLengths_format,
    fun config t created => ?_⟩
  obtain ⟨-, -, requestData⟩ := Doh.New_eq_ok created
  obtain ⟨nonneg4, small4, nonneg6, small6⟩ := Doh.New_prefixLengths created
  rw [requestData, Go.toString_of_nonneg nonneg4, Go.toString_of_nonneg nonneg6,
    Server.extractPrefixLengths_format _ _ (by omega) (by omega), Int.toNat_of_nonneg nonneg4,
    Int.toNat_of_nonneg nonneg6]

theorem prefixLengthsHeaderGrammar_default_resolver :
    (24 : Nat) ≤ 32 ∧ (64 : Nat) ≤ 128 ∧
      Server.extractPrefixLengths (toString (24 : Nat) ++ "/" ++ toString (64 : Nat)) =
        .ok (24, 64) ∧
      Server.extractPrefixLengths "0/0" = .ok (0, 0) :=
  ⟨by decide, by decide, prefixLengthsHeaderGrammar.2.1 24 64 (by decide) (by decide),
    prefixLengthsHeaderGrammar.2.2 ⟨false, false, false, false, 0, 0, none, defaultLatencyConfig,
        ["https://dns.example/dns-query"]⟩
      ⟨⟨false, false, false, false, 0, 0, none, defaultLatencyConfig,
          ["https://dns.example/dns-query"]⟩, MethodPost, 0, 0, [], "0/0",
        ⟨Latency.withDefaults defaultLatencyConfig, [⟨0, "https://dns.example/dns-query"⟩], 1,
          0, [{}], 0, 0, 0, 0, 0, .algNone⟩⟩ rfl⟩
end Trustydns.Exchange
