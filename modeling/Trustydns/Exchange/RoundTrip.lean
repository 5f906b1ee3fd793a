import Trustydns.Exchange.Request

/-! # A DoH round trip

A query the proxy's resolver sends reaches the server's local resolver, and that resolver's
reply comes back to the proxy's client. On the way only the Extra section, where the OPT and
TSIG records live, is rewritten (`Trustydns.Dns.Msg.ExtraOnly`): by the resolver's ECS rules and
padding (`Trustydns.Doh.prepareQuery_extraOnly`), by the server's ECS synthesis and padding
(`Trustydns.Server.serveDoH_extraOnly`), and by the resolver's redaction of the reply
(`Trustydns.Doh.decodeReply_extraOnly`). The header travels whole but for the Id: the server's
resolver sees the client's, or `dns.Id()`'s when GET zeroed it or the client sent zero, and the
client gets its own back.

The HTTP transport is a parameter: `dohRoundTripIsTransparent` takes the response `Do` returns
to be the one the server wrote, with status 200, the DNS content type and no `Age` header, which
a cache on the way may add.
-/

namespace Trustydns.Exchange

open Trustydns.Constants Trustydns.Http Trustydns.Dns Trustydns.BestServer

/-- The Id the server's resolver sees: `dns.Id()`'s for a zero Id, which GET always sends. -/
theorem assignedId (get : Prop) [Decidable get] (id newId : Nat) :
    (if (if get then 0 else id) = 0 then newId else if get then 0 else id) =
      if get ∨ id = 0 then newId else id := by
  by_cases sent : get
  · simp [sent]
  · simp [sent]

/-- **A DoH round trip changes only Extra**: for every request the resolver sends, over a codec
whose decoder inverts its encoder, when the server answers it with the parameters its URL
carries and the client's `Do` returns that answer as the server wrote it, the resolution
succeeds; the server's local resolver receives the client's query, with its header but for an
Id that is the client's unless GET zeroed it or it was zero, and the client receives that
resolver's reply, with its header but for the client's own Id. Question, Answer and Authority
travel unchanged both ways. -/
theorem dohRoundTripIsTransparent {config : Doh.Config} {t : Doh.Remote}
    (created : Doh.New config = .ok t) {wire : Wire} {client : Doh.HTTPClient} {dnsQ : Msg}
    {startTime endTime : Int} {request : Doh.HTTPRequest}
    (sent : (Doh.Resolve t wire client dnsQ startTime endTime).sent = some request)
    (roundTrip : ∀ m bytes, wire.encode m = .ok bytes → wire.unpack bytes = .ok m)
    (cfg : Server.Config) (resolve : Msg → Except String Msg) (newId : Nat)
    (remoteAddr : String) :
    ∃ params, ((request.method = MethodPost ∧ params = []) ∨
        (request.method = MethodGet ∧ ∃ server param,
          request.url = server ++ "?" ++ Rfc8484QueryParam ++ "=" ++ param ∧
          params = [(Rfc8484QueryParam, param)])) ∧
      ∀ body, Server.serveDoH wire cfg resolve newId (received request params remoteAddr) =
          .ok body → MinimumViableDNSMessage ≤ body.length →
        ∀ status duration, client.Do request =
            .ok ⟨StatusOK, status, Rfc8484AcceptValue, "", duration, .ok body⟩ →
          ∃ query dnsR reply respMeta,
            ({ dnsQ with hdr := { dnsQ.hdr with
                id := if t.httpMethod = MethodGet ∨ dnsQ.hdr.id = 0 then newId
                  else dnsQ.hdr.id } } : Msg).ExtraOnly query ∧
            resolve query = .ok dnsR ∧
            (Doh.Resolve t wire client dnsQ startTime endTime).reply = .ok (reply, respMeta) ∧
            ({ dnsR with hdr := { dnsR.hdr with id := dnsQ.hdr.id } } : Msg).ExtraOnly reply := by
  obtain ⟨server, -, binary, -, packed, built⟩ := Doh.Resolve_sent sent
  obtain ⟨server', -, -, -, decoded⟩ := Doh.Resolve_of_sent sent
  -- the server reads the packed query from the body of a POST or the parameter of a GET
  obtain ⟨params, carried, bodyEq⟩ : ∃ params, ((request.method = MethodPost ∧ params = []) ∨
      (request.method = MethodGet ∧ ∃ server param,
        request.url = server ++ "?" ++ Rfc8484QueryParam ++ "=" ++ param ∧
        params = [(Rfc8484QueryParam, param)])) ∧
      Server.requestBody (received request params remoteAddr) = .ok binary := by
    subst built
    rcases requestBody_buildRequest created server binary _ (!dnsQ.IsTsig) remoteAddr with
      ⟨post, body⟩ | ⟨get, body⟩
    · exact ⟨[], .inl ⟨post, rfl⟩, body⟩
    · exact ⟨_, .inr ⟨get, server.name, _, if_pos get, rfl⟩, body⟩
  refine ⟨params, carried, fun body served viable status duration delivered => ?_⟩
  have prepared := Doh.prepareQuery_extraOnly t wire dnsQ
  obtain ⟨requestBytes, packedQ, query, dnsR, m, bodyEq', unpacked, receivedQ, resolved,
    encoded, replied⟩ := Server.serveDoH_extraOnly served
  rw [bodyEq] at bodyEq'
  cases bodyEq'
  rw [roundTrip _ _ (Doh.prepareQuery_encodes packed)] at unpacked
  cases unpacked
  -- the client decodes what the server encoded
  obtain ⟨result, ok⟩ : ∃ result, Doh.decodeReply t wire (Doh.prepareQuery t wire dnsQ).1
      (Doh.prepareQuery t wire dnsQ).2.1 dnsQ.hdr.id server'
      ⟨StatusOK, status, Rfc8484AcceptValue, "", duration, .ok body⟩ (endTime - startTime) =
        .ok result :=
    Doh.decodeReply_isOk _ _ _ _ _ _ _ rfl rfl rfl viable (roundTrip _ _ encoded)
  obtain ⟨_, httpR, ⟨⟩, unpackedR, reply⟩ := Doh.decodeReply_extraOnly ok rfl
  rw [roundTrip _ _ encoded] at unpackedR
  cases unpackedR
  have queryHdr : (Doh.prepareQuery t wire dnsQ).1.hdr =
      { dnsQ.hdr with id := if t.httpMethod = MethodGet then 0 else dnsQ.hdr.id } :=
    (congrArg Msg.hdr prepared).symm
  have replyHdr : m.hdr = { dnsR.hdr with id := (Doh.prepareQuery t wire dnsQ).1.hdr.id } :=
    (congrArg Msg.hdr replied).symm
  refine ⟨query, dnsR, result.1, result.2, ?_, resolved, (decoded _ (built ▸ delivered)).trans ok,
    ?_⟩
  · rw [Server.assignId_eq, queryHdr] at receivedQ
    rw [← assignedId]
    exact (prepared.withHdr _).trans receivedQ
  · rw [replyHdr] at reply
    exact (replied.withHdr _).trans reply

theorem dohRoundTripIsTransparent_echo :
    ∃ request, (Doh.Resolve ⟨⟨false, false, false, false, 0, 0, none, defaultLatencyConfig,
            ["https://dns.example/dns-query"]⟩, MethodPost, 0, 0, [], "0/0",
          ⟨Latency.withDefaults defaultLatencyConfig, [⟨0, "https://dns.example/dns-query"⟩], 1,
            0, [{}], 0, 0, 0, 0, 0, .algNone⟩⟩
        ⟨fun m => if m = ⟨⟨7, OpcodeQuery, false, 0⟩, [⟨"example.com.", 1, ClassINET⟩], [], [], []⟩
            then .ok (List.replicate 16 7) else .error "",
          fun bytes => if bytes = List.replicate 16 7 then
            .ok ⟨⟨7, OpcodeQuery, false, 0⟩, [⟨"example.com.", 1, ClassINET⟩], [], [], []⟩
            else .error "", fun m _ => m⟩
        ⟨fun _ _ => none, fun _ => .ok ⟨StatusOK, "200 OK", Rfc8484AcceptValue, "", 5,
          .ok (List.replicate 16 7)⟩⟩
        ⟨⟨7, OpcodeQuery, false, 0⟩, [⟨"example.com.", 1, ClassINET⟩], [], [], []⟩ 100
          250).sent = some request ∧
      Server.serveDoH ⟨fun m => if m = ⟨⟨7, OpcodeQuery, false, 0⟩, [⟨"example.com.", 1, ClassINET⟩], [], [], []⟩
            then .ok (List.replicate 16 7) else .error "",
          fun bytes => if bytes = List.replicate 16 7 then
            .ok ⟨⟨7, OpcodeQuery, false, 0⟩, [⟨"example.com.", 1, ClassINET⟩], [], [], []⟩
            else .error "", fun m _ => m⟩
          ⟨false, false, 0, 0⟩ (fun q => .ok q) 4660 (received request [] "192.0.2.1:443") =
        .ok (List.replicate 16 7) ∧
      ∃ reply respMeta, (Doh.Resolve ⟨⟨false, false, false, false, 0, 0, none, defaultLatencyConfig,
            ["https://dns.example/dns-query"]⟩, MethodPost, 0, 0, [], "0/0",
          ⟨Latency.withDefaults defaultLatencyConfig, [⟨0, "https://dns.example/dns-query"⟩], 1,
            0, [{}], 0, 0, 0, 0, 0, .algNone⟩⟩
        ⟨fun m => if m = ⟨⟨7, OpcodeQuery, false, 0⟩, [⟨"example.com.", 1, ClassINET⟩], [], [], []⟩
            then .ok (List.replicate 16 7) else .error "",
          fun bytes => if bytes = List.replicate 16 7 then
            .ok ⟨⟨7, OpcodeQuery, false, 0⟩, [⟨"example.com.", 1, ClassINET⟩], [], [], []⟩
            else .error "", fun m _ => m⟩
        ⟨fun _ _ => none, fun _ => .ok ⟨StatusOK, "200 OK", Rfc8484AcceptValue, "", 5,
          .ok (List.replicate 16 7)⟩⟩
        ⟨⟨7, OpcodeQuery, false, 0⟩, [⟨"example.com.", 1, ClassINET⟩], [], [], []⟩ 100
          250).reply = .ok (reply, respMeta) ∧
      reply.hdr.id = 7 ∧ reply.question = [⟨"example.com.", 1, ClassINET⟩] := by
  obtain ⟨params, carried, answered⟩ := @dohRoundTripIsTransparent
    ⟨false, false, false, false, 0, 0, none, defaultLatencyConfig,
      ["https://dns.example/dns-query"]⟩ _ rfl
    ⟨fun m => if m = ⟨⟨7, OpcodeQuery, false, 0⟩, [⟨"example.com.", 1, ClassINET⟩], [], [], []⟩
            then .ok (List.replicate 16 7) else .error "",
          fun bytes => if bytes = List.replicate 16 7 then
            .ok ⟨⟨7, OpcodeQuery, false, 0⟩, [⟨"example.com.", 1, ClassINET⟩], [], [], []⟩
            else .error "", fun m _ => m⟩
    ⟨fun _ _ => none, fun _ => .ok ⟨StatusOK, "200 OK", Rfc8484AcceptValue, "", 5,
          .ok (List.replicate 16 7)⟩⟩
    ⟨⟨7, OpcodeQuery, false, 0⟩, [⟨"example.com.", 1, ClassINET⟩], [], [], []⟩ 100 250 _ rfl
    (fun m bytes encoded => by
      by_cases same :
          m = ⟨⟨7, OpcodeQuery, false, 0⟩, [⟨"example.com.", 1, ClassINET⟩], [], [], []⟩
      · subst same
        cases encoded
        rfl
      · simp only [same, if_false] at encoded
        cases encoded)
    ⟨false, false, 0, 0⟩ (fun q => .ok q) 4660 "192.0.2.1:443"
  rcases carried with ⟨-, rfl⟩ | ⟨get, -⟩
  · obtain ⟨query, dnsR, reply, respMeta, received, ⟨⟩, replied, extra⟩ :=
      answered (List.replicate 16 7) rfl (by decide) "200 OK" 5 rfl
    exact ⟨_, rfl, rfl, reply, respMeta, replied, (congrArg (·.hdr.id) extra).symm,
      (congrArg Msg.question extra).symm.trans (congrArg Msg.question received).symm⟩
  · exact absurd get (by decide)

end Trustydns.Exchange
