import Trustydns.BestServer.Latency
import Trustydns.DnsUtil.Padding
import Trustydns.Encoding.Base64
import Trustydns.Foundation.Go

/-! # The DoH resolver

`doh.Resolve` sends one DNS query to the best of its DoH servers and turns the HTTPS reply
back into a DNS reply. It adjusts the query's ECS option by three rules, packs the query
(padded when so configured), asks the latency best-server manager (`Trustydns.BestServer.Latency`)
for a server, issues the request, reports the outcome back to the manager with `Result`, and
validates and post-processes the reply.

The HTTP client is a parameter (`HTTPClient`): `http.NewRequest`'s URL check and
`httpClient.Do`. `Resolve` returns everything the caller and the rest of the system can see:
the query object as it leaves it (Go changes the caller's `*dns.Msg` in place), the request it
sent, the `Result` calls made on the manager, and the reply or the error.

`Trustydns.Doh.Resolve_results` says which `Result` calls a resolution makes: one, for the
server `Best` returned, exactly when the request was sent, and its success flag is whether
`Do` returned a response.
-/

namespace Trustydns.Resolver

/-- `resolver.ResponseMetaData`. -/
structure ResponseMetaData where
  transportType : String
  transportDuration : Int
  resolutionDuration : Int
  payloadSize : Nat
  queryTries : Nat
  serverTries : Nat
  finalServerUsed : String
deriving DecidableEq, Repr

/-- `resolver.DNSTransportHTTP`. -/
def DNSTransportHTTP : String := "http"

end Trustydns.Resolver

namespace Trustydns.Doh

open Trustydns.Dns Trustydns.DnsUtil Trustydns.Net Trustydns.Constants Trustydns.Base64
  Trustydns.Go Trustydns.Http Trustydns.BestServer Trustydns.Resolver

/-- `me`: the prefix of the resolver's messages. -/
def me : String := "resolver/doh"

/-- `doh.Config`. -/
structure Config where
  useGetMethod : Bool
  generatePadding : Bool
  ecsRedactResponse : Bool
  ecsRemove : Bool
  ecsRequestIPv4PrefixLen : Int
  ecsRequestIPv6PrefixLen : Int
  ecsSetCIDR : Option IPNet
  latencyConfig : LatencyConfig
  serverURLs : List String

/-- A `*bestServer`: Go compares them by pointer, so a server is its position in
`bsList` together with its URL. -/
structure BestServer where
  index : Nat
  name : String
deriving DecidableEq, Repr

/-- The state of a `remote` that `Resolve` reads, and its best-server manager. -/
structure Remote where
  config : Config
  httpMethod : String
  ecsFamily : Int
  ecsPrefixLength : Int
  ecsIP : IP
  ecsRequestData : String
  bestServer : Latency BestServer

/-- The family and the mask limit of the `ECSSetCIDR` address, or the error. -/
def ecsSetFamily (cidr : IPNet) : Except String (Int × Nat) :=
  if (To4 cidr.IP).isSome then .ok (1, 32)
  else if (To16 cidr.IP).isSome then .ok (2, 128)
  else .error (me ++ ":Unknown IP family in ECSSetCIDR: " ++ IPNet.String cidr)

/-- The ECS settings `New` derives from `ECSSetCIDR`: family, prefix length and address. -/
def ecsSettings (config : Config) : Except String (Int × Int × IP) :=
  match config.ecsSetCIDR with
  | none => .ok (0, 0, [])
  | some cidr =>
      if config.ecsRequestIPv4PrefixLen ≠ 0 ∨ config.ecsRequestIPv6PrefixLen ≠ 0 then
        .error "Cannot have ECSSetCIDR active with ECSRequest*PrefixLen settings"
      else
        match ecsSetFamily cidr with
        | .error err => .error err
        | .ok (family, maxMaskSize) =>
            let maskSize := (IPMask.Size cidr.Mask).1
            if maskSize > maxMaskSize then
              .error (me ++ "Mask size of " ++ toString maskSize ++ " exceeds family limit of " ++
                toString maxMaskSize ++ " in ECSSetCIDR: " ++ IPNet.String cidr)
            else .ok (family, maskSize, cidr.IP)

/-- `New`: the configuration checks in the source's order, then the latency manager over the
servers. -/
def New (config : Config) : Except String Remote :=
  if config.useGetMethod ∧ (config.ecsSetCIDR.isSome ∨ config.ecsRequestIPv4PrefixLen ≠ 0 ∨
      config.ecsRequestIPv6PrefixLen ≠ 0) then
    .error "Cannot have ECS settings active when using HTTP GET"
  else
    match ecsSettings config with
    | .error err => .error err
    | .ok (ecsFamily, ecsPrefixLength, ecsIP) =>
        if config.ecsRequestIPv4PrefixLen < 0 ∨ config.ecsRequestIPv4PrefixLen > 32 then
          .error (me ++ ": Invalid IPv4 Prefix Length: " ++
            toString config.ecsRequestIPv4PrefixLen ++ ". Must be in range 0-32")
        else if config.ecsRequestIPv6PrefixLen < 0 ∨ config.ecsRequestIPv6PrefixLen > 128 then
          .error (me ++ ": Invalid IPv6 Prefix Length: " ++
            toString config.ecsRequestIPv6PrefixLen ++ ". Must be in range 0-128")
        else
          let servers := config.serverURLs.enum.map fun (index, name) => BestServer.mk index name
          match Latency.NewLatency BestServer.name config.latencyConfig servers with
          | .error err => .error (me ++ ": Could not construct bestServer Manager" ++ err)
          | .ok bestServer =>
              .ok ⟨config, if config.useGetMethod then MethodGet else MethodPost, ecsFamily,
                ecsPrefixLength, ecsIP,
                toString config.ecsRequestIPv4PrefixLen ++ "/" ++
                  toString config.ecsRequestIPv6PrefixLen,
                bestServer⟩

/-! ## The query -/

/-- What the ECS rules leave besides the query: whether the client's ECS goes upstream as it
was, the synthesis request for the server, and whether an ECS is present or requested. -/
structure EcsRules where
  originalECSRetained : Bool
  ecsRequestData : String
  ecsPresent : Bool
deriving DecidableEq, Repr

/-- `Resolve`'s guard for the ECS rules: a query of opcode QUERY with one question, of class
`IN`, and no TSIG. -/
def adjustable (dnsQ : Msg) : Prop :=
  dnsQ.hdr.opcode = OpcodeQuery ∧ dnsQ.question.length = 1 ∧
    (dnsQ.question.head?.map (·.qclass)) = some ClassINET ∧ dnsQ.IsTsig = false

instance (dnsQ : Msg) : Decidable (adjustable dnsQ) :=
  inferInstanceAs (Decidable (_ ∧ _ ∧ _ ∧ _))

/-- Rules 1 to 3: remove the client's ECS when `ECSRemove` is set, set the configured one when
none is left, and otherwise ask the server to synthesise one. -/
def applyECSRules (t : Remote) (dnsQ : Msg) : Msg × EcsRules :=
  let ecsPresent := (FindECS dnsQ).isSome
  let (dnsQ, retained, ecsPresent) :=
    if t.config.ecsRemove ∧ ecsPresent then
      ((RemoveEDNS0FromOPT dnsQ EDNS0SUBNET).1, false, false)
    else (dnsQ, true, ecsPresent)
  let (dnsQ, retained, ecsPresent) :=
    if t.config.ecsSetCIDR.isSome ∧ !ecsPresent then
      ((CreateECS dnsQ t.ecsFamily t.ecsPrefixLength t.ecsIP).1, false, true)
    else (dnsQ, retained, ecsPresent)
  if t.ecsRequestData.length > 0 ∧ !ecsPresent then (dnsQ, ⟨false, t.ecsRequestData, true⟩)
  else (dnsQ, ⟨retained, "", ecsPresent⟩)

/-- The query up to its packing: the ECS rules, the Id zeroed for GET, then `PadAndPack` or
`Pack`, which change it too. -/
def prepareQuery (t : Remote) (wire : Wire) (dnsQ : Msg) :
    Msg × EcsRules × Except String (List UInt8) :=
  let msgIsMutable := !dnsQ.IsTsig
  let adjusted := if adjustable dnsQ then applyECSRules t dnsQ else (dnsQ, ⟨true, "", false⟩)
  let dnsQ := adjusted.1
  let dnsQ :=
    if t.httpMethod = MethodGet then { dnsQ with hdr := { dnsQ.hdr with id := 0 } } else dnsQ
  let packed :=
    if t.config.generatePadding ∧ msgIsMutable then PadAndPack wire dnsQ Rfc8467ClientPadModulo
    else dnsQ.Pack wire
  (packed.1, adjusted.2, packed.2)

theorem prepareQuery_rules (t : Remote) (wire : Wire) {dnsQ : Msg} (plain : adjustable dnsQ) :
    (prepareQuery t wire dnsQ).2.1 = (applyECSRules t dnsQ).2 := by
  simp only [prepareQuery, if_pos plain]

/-- The ECS rules change Extra only. -/
theorem applyECSRules_extraOnly (t : Remote) (dnsQ : Msg) :
    dnsQ.ExtraOnly (applyECSRules t dnsQ).1 := by
  unfold applyECSRules
  dsimp only
  -- rule 1 may remove the client's option and rule 2 add one; rule 3 leaves the query alone
  by_cases removed : t.config.ecsRemove = true ∧ (FindECS dnsQ).isSome = true
  · rw [if_pos removed]
    dsimp only
    split_ifs
    all_goals first
      | exact (RemoveEDNS0FromOPT_extraOnly _ _).trans (CreateECS_extraOnly _ _ _ _)
      | exact RemoveEDNS0FromOPT_extraOnly _ _
  · rw [if_neg removed]
    dsimp only
    split_ifs
    all_goals first
      | exact CreateECS_extraOnly _ _ _ _
      | exact .refl _

/-- The query that is packed is the client's, with the Id zeroed for GET, and only Extra
changed. -/
theorem prepareQuery_extraOnly (t : Remote) (wire : Wire) (dnsQ : Msg) :
    ({ dnsQ with hdr := { dnsQ.hdr with
        id := if t.httpMethod = MethodGet then 0 else dnsQ.hdr.id } } : Msg).ExtraOnly
      (prepareQuery t wire dnsQ).1 := by
  unfold prepareQuery
  dsimp only
  generalize adjustedEq : (if adjustable dnsQ then applyECSRules t dnsQ
    else (dnsQ, ⟨true, "", false⟩)) = adjusted
  have rules : dnsQ.ExtraOnly adjusted.1 := by
    subst adjustedEq
    split_ifs
    · exact applyECSRules_extraOnly t dnsQ
    · exact .refl dnsQ
  have same : adjusted.1.hdr = dnsQ.hdr := (congrArg Msg.hdr rules).symm
  have zeroed : ({ dnsQ with hdr := { dnsQ.hdr with
      id := if t.httpMethod = MethodGet then 0 else dnsQ.hdr.id } } : Msg).ExtraOnly
      (if t.httpMethod = MethodGet then { adjusted.1 with hdr := { adjusted.1.hdr with id := 0 } }
        else adjusted.1) := by
    split_ifs
    · rw [same]
      exact rules.withHdr _
    · exact rules
  generalize (if t.httpMethod = MethodGet then
    { adjusted.1 with hdr := { adjusted.1.hdr with id := 0 } } else adjusted.1) = query at zeroed ⊢
  by_cases padded : t.config.generatePadding = true ∧ (!dnsQ.IsTsig) = true
  · rw [if_pos padded]
    exact zeroed.trans (PadAndPack_extraOnly _ _ _)
  · rw [if_neg padded]
    exact zeroed.trans (Pack_extraOnly _ _)

/-- The bytes `prepareQuery` packs are the encoding of the query it returns. -/
theorem prepareQuery_encodes {t : Remote} {wire : Wire} {dnsQ : Msg} {binary : List UInt8}
    (packed : (prepareQuery t wire dnsQ).2.2 = .ok binary) :
    wire.encode (prepareQuery t wire dnsQ).1 = .ok binary := by
  revert packed
  unfold prepareQuery
  dsimp only
  by_cases padded : t.config.generatePadding = true ∧ (!dnsQ.IsTsig) = true
  · rw [if_pos padded]
    exact fun packed => (PadAndPack_encodes packed).1
  · rw [if_neg padded]
    exact Pack_encodes

/-! ## The exchange -/

/-- The `*http.Request` `Resolve` builds: method, URL, body, and the `X-trustydns-Synth`
header if it is set. -/
structure HTTPRequest where
  method : String
  url : String
  body : List UInt8
  synthesizeECS : Option String
deriving DecidableEq, Repr

/-- The parts of an `*http.Response` `Resolve` reads: the status code and text, the
`Content-Type` and `Age` headers (empty when absent), the duration
`time.ParseDuration` reads from `X-trustydns-Duration` (zero when it is absent or does not
parse), and the body as `ioutil.ReadAll` returns it. -/
structure HTTPResponse where
  statusCode : Nat
  status : String
  contentType : String
  age : String
  trustyDuration : Int
  body : Except String (List UInt8)

/-- The HTTP client: the error of `http.NewRequest` for a method and URL, if any, and
`httpClient.Do`. -/
structure HTTPClient where
  newRequest : String → String → Option String
  Do : HTTPRequest → Except String HTTPResponse

/-- The URL of a request to `server`: for GET, the query in the `dns` parameter, encoded with
the padded `base64.URLEncoding`. -/
def requestURL (t : Remote) (server : BestServer) (binary : List UInt8) : String :=
  if t.httpMethod = MethodGet then
    server.name ++ "?" ++ Rfc8484QueryParam ++ "=" ++ URLEncoding.EncodeToString binary
  else server.name

/-- The request to `server`: the query as the body of a POST, the synthesis header when one
is requested of a mutable query. -/
def buildRequest (t : Remote) (server : BestServer) (binary : List UInt8) (ecsRequestData : String)
    (msgIsMutable : Bool) : HTTPRequest :=
  ⟨t.httpMethod, requestURL t server binary, if t.httpMethod = MethodGet then [] else binary,
    if ecsRequestData.length > 0 ∧ msgIsMutable then some ecsRequestData else none⟩

/-- The validation of the response and the post-processing of the reply: status, body,
content type, length, unpacking, then the Age adjustment, the original Id, and the ECS and
padding redaction, with the metadata of the reply. -/
def decodeReply (t : Remote) (wire : Wire) (dnsQ : Msg) (rules : EcsRules) (originalId : Nat)
    (server : BestServer) (resp : HTTPResponse) (totalDuration : Int) :
    Except String (Msg × ResponseMetaData) :=
  if resp.statusCode ≠ StatusOK then
    .error (me ++ ": Bad HTTP Status: " ++ resp.status ++ " with " ++ server.name ++
      " query id=" ++ toString dnsQ.hdr.id ++ " qName=" ++
      ((dnsQ.question.head?.map (·.name)).getD "?"))
  else
    match resp.body with
    | .error err => .error (me ++ ": Body Read Error: " ++ err)
    | .ok body =>
        if resp.contentType ≠ Rfc8484AcceptValue then
          .error (me ++ ": Expected Content-Type of '" ++ Rfc8484AcceptValue ++ "' but got '" ++
            resp.contentType ++ "'")
        else if body.length < MinimumViableDNSMessage then
          .error (me ++ ": Response message length of " ++ toString body.length ++
            " is less than minimum viable of " ++ toString MinimumViableDNSMessage)
        else
          match wire.unpack body with
          | .error err => .error (me ++ ": dns.Unpack of reply failed: " ++ err)
          | .ok httpR =>
              let msgIsMutable := !httpR.IsTsig
              let httpR :=
                if msgIsMutable ∧ resp.age.length > 0 then
                  match ParseUint resp.age 32 with
                  | .ok ttlAdjust => if ttlAdjust > 0 then (ReduceTTL httpR ttlAdjust 1).1 else httpR
                  | .error _ => httpR
                else httpR
              let httpR := { httpR with hdr := { httpR.hdr with id := originalId } }
              let httpR :=
                if msgIsMutable ∧ !rules.originalECSRetained ∧ t.config.ecsRedactResponse then
                  (RemoveEDNS0FromOPT httpR EDNS0SUBNET).1
                else httpR
              let httpR :=
                if msgIsMutable ∧ t.config.generatePadding then
                  (RemoveEDNS0FromOPT httpR EDNS0PADDING).1
                else httpR
              let transportDuration := totalDuration - resp.trustyDuration
              .ok (httpR, ⟨DNSTransportHTTP, if transportDuration ≤ 0 then 1 else transportDuration,
                if resp.trustyDuration ≤ 0 then 1 else resp.trustyDuration, httpR.Len, 1, 1,
                server.name⟩)

/-- What a `Resolve` call does that its caller and the rest of the system can see. -/
structure Outcome where
  query : Msg
  sent : Option HTTPRequest
  results : List (Call BestServer)
  reply : Except String (Msg × ResponseMetaData)

/-- `Resolve` with the query given at `startTime` and `Do` returning at `endTime`; the
manager that follows is `t.bestServer.run` of the outcome's `results`. A manager without a
best server stands for Go's out-of-range panic. -/
def Resolve (t : Remote) (wire : Wire) (client : HTTPClient) (dnsQ : Msg)
    (startTime endTime : Int) : Outcome :=
  let originalId := dnsQ.hdr.id
  let msgIsMutable := !dnsQ.IsTsig
  let (dnsQ, rules, packed) := prepareQuery t wire dnsQ
  match packed with
  | .error err => ⟨dnsQ, none, [], .error (me ++ ":Msg Pack" ++ err)⟩
  | .ok binary =>
      match t.bestServer.Best with
      | none => ⟨dnsQ, none, [], .error "index out of range"⟩
      | some (server, _) =>
          match client.newRequest t.httpMethod (requestURL t server binary) with
          | some err => ⟨dnsQ, none, [], .error err⟩
          | none =>
              let request := buildRequest t server binary rules.ecsRequestData msgIsMutable
              match client.Do request with
              | .error err => ⟨dnsQ, some request, [⟨server, false, endTime, 0⟩], .error err⟩
              | .ok resp =>
                  ⟨dnsQ, some request, [⟨server, true, endTime, endTime - startTime⟩],
                    decodeReply t wire dnsQ rules originalId server resp (endTime - startTime)⟩

/-! ## What `New` builds -/

theorem New_eq_ok {config : Config} {t : Remote} (created : New config = .ok t) :
    t.config = config ∧ t.httpMethod = (if config.useGetMethod then MethodGet else MethodPost) ∧
      t.ecsRequestData = toString config.ecsRequestIPv4PrefixLen ++ "/" ++
        toString config.ecsRequestIPv6PrefixLen := by
  unfold New at created
  -- the GET check, the ECS settings, the two prefix lengths and the manager each reject
  split at created
  · cases created
  split at created
  · cases created
  split at created
  · cases created
  split at created
  · cases created
  dsimp only at created
  split at created
  · cases created
  cases created
  exact ⟨rfl, rfl, rfl⟩

/-- The manager of a remote `New` makes is reachable: `NewLatency` made it. -/
theorem New_reachable {config : Config} {t : Remote} (created : New config = .ok t) :
    t.bestServer.Reachable := by
  unfold New at created
  split at created
  · cases created
  split at created
  · cases created
  split at created
  · cases created
  split at created
  · cases created
  dsimp only at created
  split at created
  · cases created
  rename_i made
  cases created
  exact .new made

/-- `New` accepts only prefix lengths of the families' ranges. -/
theorem New_prefixLengths {config : Config} {t : Remote} (created : New config = .ok t) :
    0 ≤ config.ecsRequestIPv4PrefixLen ∧ config.ecsRequestIPv4PrefixLen ≤ 32 ∧
      0 ≤ config.ecsRequestIPv6PrefixLen ∧ config.ecsRequestIPv6PrefixLen ≤ 128 := by
  unfold New at created
  split at created
  · cases created
  split at created
  · cases created
  split_ifs at created with ipv4Range ipv6Range <;> first | cases created | omega

/-! ## The OPT record of the query a resolution leaves -/

theorem FindECS_eq_none {msg : Msg} (noOPT : optRecords msg.extra = []) : FindECS msg = none := by
  rw [FindECS, List.findSome?_eq_none_iff]
  intro rr member
  have absent := List.filterMap_eq_nil_iff.mp noOPT rr member
  obtain ⟨hdr, data⟩ := rr
  cases data <;> simp_all [optRecord]

/-- Without an OPT record, the ECS rules change a query only by setting the configured
option. -/
theorem applyECSRules_of_nil (t : Remote) {dnsQ : Msg} (noOPT : optRecords dnsQ.extra = []) :
    (applyECSRules t dnsQ).1 =
      if t.config.ecsSetCIDR.isSome then (CreateECS dnsQ t.ecsFamily t.ecsPrefixLength t.ecsIP).1
      else dnsQ := by
  unfold applyECSRules
  simp only [FindECS_eq_none noOPT, Option.isSome_none, Bool.false_eq_true, and_false,
    ↓reduceIte, Bool.not_false, and_true]
  split_ifs <;> rfl

/-- What the ECS rules leave of a query without an OPT record: its header, well-typed records,
and `NewOPT`'s record with the configured option when `ECSSetCIDR` is set. -/
theorem applyECSRules_of_nil_records (t : Remote) {dnsQ : Msg} (noOPT : optRecords dnsQ.extra = [])
    (typed : WellTyped dnsQ.extra) :
    (applyECSRules t dnsQ).1.hdr = dnsQ.hdr ∧ WellTyped (applyECSRules t dnsQ).1.extra ∧
      optRecords (applyECSRules t dnsQ).1.extra = if t.config.ecsSetCIDR.isSome then
        [(NewOPT.hdr, [(CreateECS dnsQ t.ecsFamily t.ecsPrefixLength t.ecsIP).2])] else [] := by
  rw [applyECSRules_of_nil t noOPT]
  split_ifs
  · exact ⟨CreateECS_hdr _ _ _ _, typed.createECS _ _ _,
      by simp [optRecords_CreateECS, noOPT, appendToFirst]⟩
  · exact ⟨rfl, typed, noOPT⟩

/-- **A query without an OPT record leaves `Resolve` with `NewOPT`'s**, of UDP payload size
4096, when the resolver sets an ECS option or pads. -/
theorem prepareQuery_udpSize {config : Config} {t : Remote} (created : New config = .ok t)
    (adds : config.ecsSetCIDR.isSome ∨ config.generatePadding = true) {dnsQ : Msg}
    (plain : adjustable dnsQ) (noOPT : optRecords dnsQ.extra = []) (typed : WellTyped dnsQ.extra)
    (rcodeRange : 0 ≤ dnsQ.hdr.rcode ∧ dnsQ.hdr.rcode ≤ 0xFFF) (wire : Wire) :
    (prepareQuery t wire dnsQ).1.IsEdns0.map (·.hdr.UDPSize) = some DefaultMsgSize := by
  obtain ⟨configured, -, -⟩ := New_eq_ok created
  subst configured
  obtain ⟨queryHdr, queryTyped, records⟩ := applyECSRules_of_nil_records t noOPT typed
  set query := (applyECSRules t dnsQ).1
  -- zeroing the Id for GET keeps the records and the RCODE
  set zeroed :=
    if t.httpMethod = MethodGet then { query with hdr := { query.hdr with id := 0 } } else query
  have zeroedExtra : zeroed.extra = query.extra := by simp only [zeroed]; split_ifs <;> rfl
  have zeroedRcode : 0 ≤ zeroed.hdr.rcode ∧ zeroed.hdr.rcode ≤ 0xFFF := by
    simp only [zeroed]
    split_ifs <;> simpa [queryHdr] using rcodeRange
  rw [← zeroedExtra] at records queryTyped
  have leaves : (prepareQuery t wire dnsQ).1 = (if t.config.generatePadding ∧ !dnsQ.IsTsig then
      PadAndPack wire zeroed Rfc8467ClientPadModulo else zeroed.Pack wire).1 := by
    simp only [prepareQuery, if_pos plain]
  rw [leaves]
  split_ifs with padding
  · split_ifs at records
    · exact udpSize_PadAndPack_NewOPT wire queryTyped zeroedRcode (by decide) (.inr ⟨_, records⟩)
    · exact udpSize_PadAndPack_NewOPT wire queryTyped zeroedRcode (by decide) (.inl records)
  · have cidr : t.config.ecsSetCIDR.isSome := by
      refine adds.resolve_right fun padded => padding ⟨padded, ?_⟩
      rw [plain.2.2.2]
      rfl
    rw [if_pos cidr] at records
    exact udpSize_Pack_NewOPT wire queryTyped zeroedRcode records

/-! ## What a resolution leaves and reports -/

/-- The query `Resolve` leaves is the one it packed. -/
theorem Resolve_query (t : Remote) (wire : Wire) (client : HTTPClient) (dnsQ : Msg)
    (startTime endTime : Int) :
    (Resolve t wire client dnsQ startTime endTime).query = (prepareQuery t wire dnsQ).1 := by
  unfold Resolve
  dsimp only
  split
  · rfl
  · split
    · rfl
    · split
      · rfl
      · split <;> rfl

/-- A resolution that sends no request makes no `Result` call. -/
theorem Resolve_results_of_not_sent {t : Remote} {wire : Wire} {client : HTTPClient} {dnsQ : Msg}
    {startTime endTime : Int} (notSent : (Resolve t wire client dnsQ startTime endTime).sent = none) :
    (Resolve t wire client dnsQ startTime endTime).results = [] := by
  revert notSent
  unfold Resolve
  dsimp only
  split
  · exact fun _ => rfl
  · split
    · exact fun _ => rfl
    · split
      · exact fun _ => rfl
      · split <;> exact fun sent => by cases sent

/-- A request that is sent is the one built for the server `Best` returned, from the packed
query. -/
theorem Resolve_sent {t : Remote} {wire : Wire} {client : HTTPClient} {dnsQ : Msg}
    {startTime endTime : Int} {request : HTTPRequest}
    (sent : (Resolve t wire client dnsQ startTime endTime).sent = some request) :
    ∃ server ix binary, t.bestServer.Best = some (server, ix) ∧
      (prepareQuery t wire dnsQ).2.2 = .ok binary ∧
      request = buildRequest t server binary (prepareQuery t wire dnsQ).2.1.ecsRequestData
        !dnsQ.IsTsig := by
  revert sent
  unfold Resolve
  dsimp only
  split
  · exact fun sent => by cases sent
  · rename_i binary packed
    split
    · exact fun sent => by cases sent
    · rename_i server ix best
      split
      · exact fun sent => by cases sent
      · split <;> exact fun sent => by cases sent; exact ⟨server, ix, binary, best, packed, rfl⟩

/-- A resolution that sends a request makes one `Result` call, for the server `Best`
returned, a success exactly when `Do` returns a response; the reply is then decoded from that
response. -/
theorem Resolve_of_sent {t : Remote} {wire : Wire} {client : HTTPClient} {dnsQ : Msg}
    {startTime endTime : Int} {request : HTTPRequest}
    (sent : (Resolve t wire client dnsQ startTime endTime).sent = some request) :
    ∃ server ix, t.bestServer.Best = some (server, ix) ∧
      (Resolve t wire client dnsQ startTime endTime).results =
        [⟨server, (client.Do request).isOk, endTime,
          if (client.Do request).isOk then endTime - startTime else 0⟩] ∧
      ∀ resp, client.Do request = .ok resp →
        (Resolve t wire client dnsQ startTime endTime).reply =
          decodeReply t wire (prepareQuery t wire dnsQ).1 (prepareQuery t wire dnsQ).2.1
            dnsQ.hdr.id server resp (endTime - startTime) := by
  revert sent
  unfold Resolve
  dsimp only
  split
  · exact fun sent => by cases sent
  · split
    · exact fun sent => by cases sent
    · rename_i server ix best
      split
      · exact fun sent => by cases sent
      · split <;> intro sent <;> cases sent <;> rename_i outcome <;>
          refine ⟨server, ix, best, by simp [outcome, Except.isOk, Except.toBool],
            fun resp answered => ?_⟩
        · cases answered.symm.trans outcome
        · cases answered.symm.trans outcome
          rfl

/-- **One `Result` call per request sent**: a resolution either sends no request and reports
nothing, or sends one and reports once, on the server `Best` returned, a success exactly when
`Do` returns a response, with the time `Do` returned and the latency since the query came. -/
theorem Resolve_results (t : Remote) (wire : Wire) (client : HTTPClient) (dnsQ : Msg)
    (startTime endTime : Int) :
    ((Resolve t wire client dnsQ startTime endTime).sent = none ∧
        (Resolve t wire client dnsQ startTime endTime).results = []) ∨
      ∃ request server ix, (Resolve t wire client dnsQ startTime endTime).sent = some request ∧
        t.bestServer.Best = some (server, ix) ∧
        (Resolve t wire client dnsQ startTime endTime).results =
          [⟨server, (client.Do request).isOk, endTime,
            if (client.Do request).isOk then endTime - startTime else 0⟩] := by
  cases sent : (Resolve t wire client dnsQ startTime endTime).sent with
  | none => exact .inl ⟨rfl, Resolve_results_of_not_sent sent⟩
  | some request =>
      obtain ⟨server, ix, best, results, -⟩ := Resolve_of_sent sent
      exact .inr ⟨request, server, ix, rfl, best, results⟩

/-- A response whose status is not 200 is rejected. -/
theorem decodeReply_of_status {t : Remote} {wire : Wire} {dnsQ : Msg} {rules : EcsRules}
    {originalId : Nat} {server : BestServer} {resp : HTTPResponse} {totalDuration : Int}
    (notOK : resp.statusCode ≠ StatusOK) :
    ∃ err, decodeReply t wire dnsQ rules originalId server resp totalDuration = .error err := by
  unfold decodeReply
  exact ⟨_, if_pos notOK⟩

/-- A response that passes the checks is unpacked and post-processed: the Age adjustment, the
original Id, then the ECS and padding redaction of a mutable reply. -/
theorem decodeReply_of_unpacked {t : Remote} {wire : Wire} {dnsQ : Msg} {rules : EcsRules}
    {originalId : Nat} {server : BestServer} {resp : HTTPResponse} {totalDuration : Int}
    {result : Msg × ResponseMetaData}
    (decoded : decodeReply t wire dnsQ rules originalId server resp totalDuration = .ok result) :
    ∃ bytes httpR, resp.body = .ok bytes ∧ wire.unpack bytes = .ok httpR ∧
      result.1 =
        (let msgIsMutable := !httpR.IsTsig
        let httpR :=
          if msgIsMutable ∧ resp.age.length > 0 then
            match ParseUint resp.age 32 with
            | .ok ttlAdjust => if ttlAdjust > 0 then (ReduceTTL httpR ttlAdjust 1).1 else httpR
            | .error _ => httpR
          else httpR
        let httpR := { httpR with hdr := { httpR.hdr with id := originalId } }
        let httpR :=
          if msgIsMutable ∧ !rules.originalECSRetained ∧ t.config.ecsRedactResponse then
            (RemoveEDNS0FromOPT httpR EDNS0SUBNET).1
          else httpR
        if msgIsMutable ∧ t.config.generatePadding then (RemoveEDNS0FromOPT httpR EDNS0PADDING).1
        else httpR) ∧
      result.2.payloadSize = result.1.Len := by
  unfold decodeReply at decoded
  by_cases status : resp.statusCode ≠ StatusOK
  · rw [if_pos status] at decoded
    cases decoded
  rw [if_neg status] at decoded
  cases body : resp.body with
  | error err =>
      rw [body] at decoded
      cases decoded
  | ok bytes =>
      rw [body] at decoded
      dsimp only at decoded
      by_cases contentType : resp.contentType ≠ Rfc8484AcceptValue
      · rw [if_pos contentType] at decoded
        cases decoded
      rw [if_neg contentType] at decoded
      by_cases short : bytes.length < MinimumViableDNSMessage
      · rw [if_pos short] at decoded
        cases decoded
      rw [if_neg short] at decoded
      cases unpacked : wire.unpack bytes with
      | error err =>
          rw [unpacked] at decoded
          cases decoded
      | ok httpR =>
          rw [unpacked] at decoded
          cases decoded
          exact ⟨bytes, httpR, rfl, unpacked, rfl, rfl⟩

/-- A response with status 200, the DNS content type and a body of a viable length that
unpacks is decoded. -/
theorem decodeReply_isOk (t : Remote) (wire : Wire) (dnsQ : Msg) (rules : EcsRules)
    (originalId : Nat) (server : BestServer) {resp : HTTPResponse} (totalDuration : Int)
    {bytes : List UInt8} {httpR : Msg} (status : resp.statusCode = StatusOK)
    (contentType : resp.contentType = Rfc8484AcceptValue) (body : resp.body = .ok bytes)
    (viable : MinimumViableDNSMessage ≤ bytes.length) (unpacked : wire.unpack bytes = .ok httpR) :
    ∃ result, decodeReply t wire dnsQ rules originalId server resp totalDuration = .ok result := by
  unfold decodeReply
  rw [if_neg (not_not.mpr status), body]
  dsimp only
  rw [if_neg (not_not.mpr contentType), if_neg (Nat.not_lt.mpr viable), unpacked]
  exact ⟨_, rfl⟩

/-- Without an `Age` header, the reply `decodeReply` returns is the unpacked response with the
original Id, and only Extra changed. -/
theorem decodeReply_extraOnly {t : Remote} {wire : Wire} {dnsQ : Msg} {rules : EcsRules}
    {originalId : Nat} {server : BestServer} {resp : HTTPResponse} {totalDuration : Int}
    {result : Msg × ResponseMetaData}
    (decoded : decodeReply t wire dnsQ rules originalId server resp totalDuration = .ok result)
    (unaged : resp.age = "") :
    ∃ bytes httpR, resp.body = .ok bytes ∧ wire.unpack bytes = .ok httpR ∧
      ({ httpR with hdr := { httpR.hdr with id := originalId } } : Msg).ExtraOnly result.1 := by
  obtain ⟨bytes, httpR, body, unpacked, replied, -⟩ := decodeReply_of_unpacked decoded
  refine ⟨bytes, httpR, body, unpacked, ?_⟩
  have noAge : ¬ ((!httpR.IsTsig) = true ∧ resp.age.length > 0) := fun aged => by
    rw [unaged] at aged
    exact absurd aged.2 (by decide)
  rw [replied]
  dsimp only
  rw [if_neg noAge]
  have redacted := Msg.ExtraOnly.ite
    ((!httpR.IsTsig) = true ∧ (!rules.originalECSRetained) = true ∧
      t.config.ecsRedactResponse = true)
    (RemoveEDNS0FromOPT_extraOnly { httpR with hdr := { httpR.hdr with id := originalId } }
      EDNS0SUBNET) (.refl _)
  exact .ite _ (redacted.trans (RemoveEDNS0FromOPT_extraOnly _ _)) redacted

/-- The Age adjustment: a reduction by the header's value when it is a decimal `uint32`, and
none otherwise, a reduction by zero changing nothing. -/
theorem ageAdjusted_eq (httpR : Msg) (age : String) (fits : TTLsFit httpR) :
    (if age.length > 0 then
        match ParseUint age 32 with
        | .ok ttlAdjust => if ttlAdjust > 0 then (ReduceTTL httpR ttlAdjust 1).1 else httpR
        | .error _ => httpR
      else httpR) =
      (ReduceTTL httpR (if Decimal age.toList ∧ decimalValue age.toList ≤ 2 ^ 32 - 1 then
        decimalValue age.toList else 0) 1).1 := by
  have unreduced : (ReduceTTL httpR 0 1).1 = httpR := by
    rw [ReduceTTL_eq httpR 0 1 fits]
    simp [reduceRR_zero]
  by_cases nonempty : age.length > 0
  · rw [if_pos nonempty]
    cases parsed : ParseUint age 32 with
    | ok v =>
        obtain ⟨decimal, bounded, rfl⟩ := (ParseUint_eq_ok_iff age (by decide) v).mp parsed
        rw [if_pos ⟨decimal, bounded⟩]
        dsimp only
        split_ifs with positive
        · rfl
        · rw [Nat.eq_zero_of_not_pos positive, unreduced]
    | error err =>
        have rejected : ¬ (Decimal age.toList ∧ decimalValue age.toList ≤ 2 ^ 32 - 1) :=
          fun ⟨decimal, bounded⟩ => nomatch parsed.symm.trans
            ((ParseUint_eq_ok_iff age (by decide) _).mpr ⟨decimal, bounded, rfl⟩)
        rw [if_neg rejected, unreduced]
  · have length : age.length = age.toList.length := rfl
    have absent : ¬ Decimal age.toList := fun ⟨digits, _⟩ =>
      digits (List.length_eq_zero.mp (by omega))
    rw [if_neg nonempty, if_neg fun accepted => absent accepted.1, unreduced]


/-- A reply `decodeReply` returns carries the original query Id, and its metadata the reply's
length. -/
theorem decodeReply_eq_ok {t : Remote} {wire : Wire} {dnsQ : Msg} {rules : EcsRules}
    {originalId : Nat} {server : BestServer} {resp : HTTPResponse} {totalDuration : Int}
    {reply : Msg} {respMeta : ResponseMetaData}
    (decoded : decodeReply t wire dnsQ rules originalId server resp totalDuration =
      .ok (reply, respMeta)) :
    reply.hdr.id = originalId ∧ respMeta.payloadSize = reply.Len := by
  obtain ⟨_, _, -, -, replied, payload⟩ := decodeReply_of_unpacked decoded
  refine ⟨?_, payload⟩
  dsimp only at replied
  rw [replied]
  simp only [apply_ite Msg.hdr, RemoveEDNS0FromOPT_hdr, ite_self]

/-- **What the resolver makes of a reply**: a reply signed with TSIG comes back unchanged but
for the client's Id. Any other reply keeps its header, with the client's Id, and its question;
every TTL of Answer and Ns is lowered by the `Age` header, with a floor of one second, when that
header is a decimal `uint32`, and left alone otherwise; the reply keeps no padding option when
padding is configured, and no ECS option when the client's ECS was not passed on and the
response is to be redacted. -/
theorem decodeReply_post_processing {t : Remote} {wire : Wire} {dnsQ : Msg} {rules : EcsRules}
    {originalId : Nat} {server : BestServer} {resp : HTTPResponse} {totalDuration : Int}
    {reply : Msg} {respMeta : ResponseMetaData}
    (decoded : decodeReply t wire dnsQ rules originalId server resp totalDuration =
      .ok (reply, respMeta)) :
    ∃ bytes httpR, resp.body = .ok bytes ∧ wire.unpack bytes = .ok httpR ∧
      (httpR.IsTsig = true → reply = { httpR with hdr := { httpR.hdr with id := originalId } }) ∧
      (httpR.IsTsig = false → TTLsFit httpR →
        reply.hdr = { httpR.hdr with id := originalId } ∧ reply.question = httpR.question ∧
        reply.answer = httpR.answer.map (reduceRR (if Decimal resp.age.toList ∧
          decimalValue resp.age.toList ≤ 2 ^ 32 - 1 then decimalValue resp.age.toList else 0) 1) ∧
        reply.ns = httpR.ns.map (reduceRR (if Decimal resp.age.toList ∧
          decimalValue resp.age.toList ≤ 2 ^ 32 - 1 then decimalValue resp.age.toList else 0) 1) ∧
        (t.config.generatePadding = true → optionsOf EDNS0.isPadding reply = []) ∧
        (rules.originalECSRetained = false → t.config.ecsRedactResponse = true →
          optionsOf (fun o => o.Option = EDNS0SUBNET) reply = [])) := by
  obtain ⟨bytes, httpR, body, unpacked, replied, -⟩ := decodeReply_of_unpacked decoded
  refine ⟨bytes, httpR, body, unpacked, fun signed => ?_, fun unsigned fits => ?_⟩
  · simpa [signed] using replied
  · simp only [unsigned, Bool.not_false, true_and] at replied
    rw [ageAdjusted_eq httpR resp.age fits] at replied
    generalize (if Decimal resp.age.toList ∧ decimalValue resp.age.toList ≤ 2 ^ 32 - 1 then
      decimalValue resp.age.toList else 0) = ageBy at replied ⊢
    rw [ReduceTTL_eq httpR ageBy 1 fits] at replied
    subst replied
    refine ⟨by simp only [apply_ite Msg.hdr, RemoveEDNS0FromOPT_hdr, ite_self], by
      simp only [apply_ite Msg.question, RemoveEDNS0FromOPT_question, ite_self], by
      simp only [apply_ite Msg.answer, RemoveEDNS0FromOPT_answer, ite_self], by
      simp only [apply_ite Msg.ns, RemoveEDNS0FromOPT_ns, ite_self], fun padded => ?_,
      fun replaced redacted => ?_⟩
    · rw [if_pos padded]
      exact optionsOf_RemoveEDNS0FromOPT_of_code _ _ (fun _ => EDNS0.Option_of_isPadding) _
    · have unpadded : ∀ msg : Msg, optionsOf (fun o => o.Option = EDNS0SUBNET)
          (if t.config.generatePadding = true then (RemoveEDNS0FromOPT msg EDNS0PADDING).1
            else msg) = optionsOf (fun o => o.Option = EDNS0SUBNET) msg := fun msg => by
        split_ifs
        · exact optionsOf_RemoveEDNS0FromOPT_of_ne _ _ (fun o ecs => by
            simp only [decide_eq_true_eq] at ecs
            rw [ecs]
            decide) msg
        · rfl
      rw [unpadded, if_pos ⟨by simp [replaced], redacted⟩]
      exact optionsOf_RemoveEDNS0FromOPT_of_code _ _ (fun _ ecs => of_decide_eq_true ecs) _

theorem decodeReply_post_processing_age :
    ∃ reply respMeta, decodeReply
        ⟨⟨true, false, false, false, 0, 0, none, defaultLatencyConfig,
            ["https://dns.example/dns-query"]⟩, MethodGet, 0, 0, [], "0/0",
          ⟨Latency.withDefaults defaultLatencyConfig, [⟨0, "https://dns.example/dns-query"⟩], 1,
            0, [{}], 0, 0, 0, 0, 0, .algNone⟩⟩
        ⟨fun _ => .ok [], fun _ => .ok ⟨⟨0, OpcodeQuery, false, 0⟩, [⟨"example.com.", 1, ClassINET⟩],
          [⟨⟨"example.com.", 1, ClassINET, 300⟩, .other [192, 0, 2, 1]⟩], [], []⟩, fun m _ => m⟩
        ⟨⟨23, OpcodeQuery, false, 0⟩, [⟨"example.com.", 1, ClassINET⟩], [], [], []⟩
        ⟨true, "", false⟩ 23 ⟨0, "https://dns.example/dns-query"⟩
        ⟨200, "200 OK", Rfc8484AcceptValue, "10", 0, .ok (List.replicate 20 0)⟩ 150 =
          .ok (reply, respMeta) ∧
      reply.hdr.id = 23 ∧ reply.answer.map (·.hdr.ttl) = [290] := by
  obtain ⟨bytes, httpR, -, unpacked, -, processed⟩ := @decodeReply_post_processing
    ⟨⟨true, false, false, false, 0, 0, none, defaultLatencyConfig,
        ["https://dns.example/dns-query"]⟩, MethodGet, 0, 0, [], "0/0",
      ⟨Latency.withDefaults defaultLatencyConfig, [⟨0, "https://dns.example/dns-query"⟩], 1,
        0, [{}], 0, 0, 0, 0, 0, .algNone⟩⟩
    ⟨fun _ => .ok [], fun _ => .ok ⟨⟨0, OpcodeQuery, false, 0⟩, [⟨"example.com.", 1, ClassINET⟩],
      [⟨⟨"example.com.", 1, ClassINET, 300⟩, .other [192, 0, 2, 1]⟩], [], []⟩, fun m _ => m⟩
    ⟨⟨23, OpcodeQuery, false, 0⟩, [⟨"example.com.", 1, ClassINET⟩], [], [], []⟩
    ⟨true, "", false⟩ 23 ⟨0, "https://dns.example/dns-query"⟩
    ⟨200, "200 OK", Rfc8484AcceptValue, "10", 0, .ok (List.replicate 20 0)⟩ 150 _ _ rfl
  cases unpacked
  obtain ⟨header, -, answered, -⟩ := processed rfl (by decide)
  refine ⟨_, _, rfl, congrArg MsgHdr.id header, ?_⟩
  rw [answered]
  decide

/-- **The client's Id comes back**: every reply a resolution returns carries the Id of the
query the client sent, whatever Id went on the wire (zero for GET), and its metadata gives the
length of the reply as returned. -/
theorem Resolve_reply_id_and_payloadSize {t : Remote} {wire : Wire} {client : HTTPClient}
    {dnsQ : Msg} {startTime endTime : Int} {reply : Msg} {respMeta : ResponseMetaData}
    (resolved : (Resolve t wire client dnsQ startTime endTime).reply = .ok (reply, respMeta)) :
    reply.hdr.id = dnsQ.hdr.id ∧ respMeta.payloadSize = reply.Len := by
  revert resolved
  unfold Resolve
  dsimp only
  split
  · exact fun resolved => by cases resolved
  · split
    · exact fun resolved => by cases resolved
    · split
      · exact fun resolved => by cases resolved
      · split
        · exact fun resolved => by cases resolved
        · exact decodeReply_eq_ok

/-- **An HTTP failure is reported to the manager as a success**: `Result` is called with
`true` as soon as `Do` returns a response, before its status is looked at, so a server that
answers every query with, say, 503 is never marked as failing, while `Resolve` returns an
error for each of them. -/
theorem httpFailureReportedAsSuccess {t : Remote} {wire : Wire} {client : HTTPClient}
    {dnsQ : Msg} {startTime endTime : Int} {request : HTTPRequest} {resp : HTTPResponse}
    (sent : (Resolve t wire client dnsQ startTime endTime).sent = some request)
    (answered : client.Do request = .ok resp) (notOK : resp.statusCode ≠ StatusOK) :
    (∃ server ix, t.bestServer.Best = some (server, ix) ∧
        (Resolve t wire client dnsQ startTime endTime).results =
          [⟨server, true, endTime, endTime - startTime⟩]) ∧
      ∃ err, (Resolve t wire client dnsQ startTime endTime).reply = .error err := by
  obtain ⟨server, ix, best, results, decoded⟩ := Resolve_of_sent sent
  rw [answered] at results
  refine ⟨⟨server, ix, best, results⟩, ?_⟩
  rw [decoded resp answered]
  exact decodeReply_of_status notOK

theorem httpFailureReportedAsSuccess_service_unavailable :
    (∃ server ix,
        (⟨⟨false, false, false, false, 0, 0, none, defaultLatencyConfig,
            ["https://dns.example/dns-query"]⟩, MethodPost, 0, 0, [], "0/0",
            ⟨Latency.withDefaults defaultLatencyConfig, [⟨0, "https://dns.example/dns-query"⟩], 1,
              0, [{}], 0, 0, 0, 0, 0, .algNone⟩⟩ : Remote).bestServer.Best = some (server, ix) ∧
        (Resolve ⟨⟨false, false, false, false, 0, 0, none, defaultLatencyConfig,
            ["https://dns.example/dns-query"]⟩, MethodPost, 0, 0, [], "0/0",
            ⟨Latency.withDefaults defaultLatencyConfig, [⟨0, "https://dns.example/dns-query"⟩], 1,
              0, [{}], 0, 0, 0, 0, 0, .algNone⟩⟩
          ⟨fun _ => .ok [0, 23], fun _ => .error "", fun m _ => m⟩
          ⟨fun _ _ => none, fun _ => .ok ⟨503, "503 Service Unavailable", "text/plain", "", 0, .ok []⟩⟩
          ⟨⟨23, OpcodeQuery, false, 0⟩, [⟨"example.com.", 2, ClassINET⟩], [], [], []⟩ 100 250).results =
          [⟨server, true, 250, 250 - 100⟩]) ∧
      ∃ err, (Resolve ⟨⟨false, false, false, false, 0, 0, none, defaultLatencyConfig,
            ["https://dns.example/dns-query"]⟩, MethodPost, 0, 0, [], "0/0",
            ⟨Latency.withDefaults defaultLatencyConfig, [⟨0, "https://dns.example/dns-query"⟩], 1,
              0, [{}], 0, 0, 0, 0, 0, .algNone⟩⟩
          ⟨fun _ => .ok [0, 23], fun _ => .error "", fun m _ => m⟩
          ⟨fun _ _ => none, fun _ => .ok ⟨503, "503 Service Unavailable", "text/plain", "", 0, .ok []⟩⟩
          ⟨⟨23, OpcodeQuery, false, 0⟩, [⟨"example.com.", 2, ClassINET⟩], [], [], []⟩ 100 250).reply = .error err :=
  httpFailureReportedAsSuccess rfl rfl (by decide)

end Trustydns.Doh
