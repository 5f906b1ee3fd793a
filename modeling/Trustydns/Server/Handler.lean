import Trustydns.DnsUtil.Padding
import Trustydns.Encoding.Base64
import Trustydns.Foundation.Go
import Trustydns.Net.IPv6Text
import Mathlib.Data.List.Dedup

/-! # The DoH server's request handler

`serveDoH` answers one HTTPS request. It validates the request, takes the DNS query from the
POST body or from the `dns` parameter of a GET, and, when the query has no TSIG, removes and
synthesises its ECS option and takes its padding off. It then hands the query to the local
resolver and packs the reply, padded when the query was. The handler is modelled as a function
of the request, the configuration, the local resolver and miekg/dns's codec
(`Trustydns.Dns.Wire`), in two halves: `localQuery`, up to the query the local resolver
receives, and `respond`, from there on. A rejection is what `t.error` writes: the HTTP status,
the message and the failure counter.

The options of the query the local resolver receives are fixed by `mutateQuery`
(`Trustydns.Server.ecsOptions_mutateQuery`, `Trustydns.Server.paddingOptions_mutateQuery`):
the client's ECS options are gone and the only one left is the one `synthesizeECS`'s `switch`
picks for the peer's address (`Trustydns.Server.peerECS`); no padding option is left, and the
reply is padded exactly when the client's query carried one.
-/

namespace Trustydns.Server

open Trustydns.Dns Trustydns.DnsUtil Trustydns.Net Trustydns.Constants Trustydns.Base64
  Trustydns.Go Trustydns.Http

/-- `serFailureIndex`: the failure counter of a rejected request. -/
inductive SerFailureIndex
  | serBadContentType
  | serBadMethod
  | serBadPrefixLengths
  | serBadQueryParamDecode
  | serBodyReadError
  | serDNSPackResponseFailed
  | serDNSUnpackRequestFailed
  | serECSSynthesisFailed
  | serLocalResolutionFailed
  | serQueryParamMissing
deriving DecidableEq, Repr

/-- A rejection as `t.error` writes it and `addFailureStats` counts it. -/
structure Rejection where
  status : Nat
  msg : String
  serx : SerFailureIndex
deriving DecidableEq, Repr

/-- The settings of `cfg` that `serveDoH` reads. -/
structure Config where
  ecsRemove : Bool
  ecsSet : Bool
  ecsSetIPv4PrefixLen : Int
  ecsSetIPv6PrefixLen : Int

/-- The parts of an `*http.Request` that `serveDoH` reads: the method, the `Content-Type` and
`X-trustydns-Synth` headers (empty when absent), the body as `ioutil.ReadAll` returns it, the
query parameters as `URL.Query()` parses them, in order, and the peer's address. -/
structure Request where
  method : String
  contentType : String
  synthesizeECS : String
  body : Except String (List UInt8)
  query : List (String × String)
  remoteAddr : String

/-! ## The prefix lengths and the peer's address -/

/-- `extractPrefixLengths`: the header's `ipv4prefixlen/ipv6prefixlen`. -/
def extractPrefixLengths (requestData : String) : Except String (Int × Int) :=
  match Split requestData '/' with
  | [ipv4Param, ipv6Param] =>
      match ParseUint ipv4Param 8 with
      | .error err => .error ("Could not convert ipv4prefixlen: " ++ err.Error ipv4Param)
      | .ok ipv4PrefixLen =>
          match ParseUint ipv6Param 8 with
          | .error err => .error ("Could not convert ipv6prefixlen: " ++ err.Error ipv6Param)
          | .ok ipv6PrefixLen =>
              if ipv4PrefixLen > 32 then
                .error ("IPv4 prefix length of " ++ toString ipv4PrefixLen ++
                  " is not in range 0-32")
              else if ipv6PrefixLen > 128 then
                .error ("IPv6 prefix length of " ++ toString ipv6PrefixLen ++
                  " is not in range 0-128")
              else .ok (ipv4PrefixLen, ipv6PrefixLen)
  | _ => .error ("Expected ipv4prefixlen/ipv6prefixlen, not '" ++ requestData ++ "'")

example : extractPrefixLengths "24/64" = .ok (24, 64) := rfl

example : extractPrefixLengths "33/64" = .error "IPv4 prefix length of 33 is not in range 0-32" :=
  rfl

/-- The texts `extractPrefixLengths` accepts: one slash between two decimal texts of at most 32
and at most 128, leading zeros allowed; it returns their values. -/
theorem extractPrefixLengths_eq_ok_iff (s : String) (lengths : Int × Int) :
    extractPrefixLengths s = .ok lengths ↔
      ∃ d1 d2 : List Char, s.toList = d1 ++ '/' :: d2 ∧ Decimal d1 ∧ Decimal d2 ∧
        decimalValue d1 ≤ 32 ∧ decimalValue d2 ≤ 128 ∧
        lengths = ((decimalValue d1 : Int), (decimalValue d2 : Int)) := by
  have parse := fun (param : String) (v : Nat) => ParseUint_eq_ok_iff param (by decide : 8 ≤ 64) v
  constructor
  · intro accepted
    unfold extractPrefixLengths at accepted
    split at accepted
    case h_2 => cases accepted
    rename_i ipv4Param ipv6Param split
    split at accepted
    · cases accepted
    rename_i ipv4PrefixLen ipv4Parsed
    split at accepted
    · cases accepted
    rename_i ipv6PrefixLen ipv6Parsed
    obtain ⟨text, -, -⟩ := Split_eq_pair.mp split
    obtain ⟨decimal4, -, rfl⟩ := (parse _ _).mp ipv4Parsed
    obtain ⟨decimal6, -, rfl⟩ := (parse _ _).mp ipv6Parsed
    split_ifs at accepted with over4 over6
    cases accepted
    exact ⟨_, _, text, decimal4, decimal6, by omega, by omega, rfl⟩
  · rintro ⟨d1, d2, text, decimal1, decimal2, small1, small2, rfl⟩
    have noSlash : ∀ {d : List Char}, Decimal d → '/' ∉ d := fun decimal slash =>
      absurd (decimal.2 '/' slash) (by decide)
    have split : Split s '/' = [⟨d1⟩, ⟨d2⟩] :=
      Split_eq_pair.mpr ⟨text, noSlash decimal1, noSlash decimal2⟩
    have parsed1 : ParseUint ⟨d1⟩ 8 = .ok (decimalValue d1) :=
      (parse _ _).mpr ⟨decimal1, show decimalValue d1 ≤ 255 by omega, rfl⟩
    have parsed2 : ParseUint ⟨d2⟩ 8 = .ok (decimalValue d2) :=
      (parse _ _).mpr ⟨decimal2, show decimalValue d2 ≤ 255 by omega, rfl⟩
    unfold extractPrefixLengths
    rw [split]
    simp only [parsed1, parsed2]
    rw [if_neg (by omega), if_neg (by omega)]

/-- The server reads back the text `%d/%d` of every pair of prefix lengths in range. -/
theorem extractPrefixLengths_format (p4 p6 : Nat) (ipv4 : p4 ≤ 32) (ipv6 : p6 ≤ 128) :
    extractPrefixLengths (toString p4 ++ "/" ++ toString p6) = .ok (p4, p6) := by
  obtain ⟨decimal4, value4⟩ := decimal_toDigits p4
  obtain ⟨decimal6, value6⟩ := decimal_toDigits p6
  refine (extractPrefixLengths_eq_ok_iff _ _).mpr
    ⟨_, _, by simp, decimal4, decimal6, by omega, by omega, by rw [value4, value6]⟩

/-- `parseRemoteAddr`: the address before the last colon, brackets removed. -/
def parseRemoteAddr (ra : String) : Except String IP :=
  match LastIndexByte ra.toList ':' with
  | none => .error ("No colon separating port " ++ ra)
  | some colon =>
      let ipString := ra.toList.take colon
      if ipString.length < 2 then .error ("IP Address too short: " ++ ra)
      else
        let ipString :=
          if ipString.head? = some '[' ∧ ipString.getLast? = some ']' then
            (ipString.drop 1).dropLast
          else ipString
        match ParseIP (String.mk ipString) with
        | none => .error ("Invalid IP Address: " ++ String.mk ipString)
        | some ip => .ok ip

example : parseRemoteAddr "[2001:db8::1]:443" =
    .ok [0x20, 0x01, 0x0d, 0xb8, 0, 0, 0, 0, 0, 0, 0, 0, 0, 0, 0, 1] := rfl

/-- **A peer's IPv4 address is read back**: for every peer with an IPv4 address and no zone,
`parseRemoteAddr` returns the address from the text `net/http` writes for it, whatever the
port. -/
theorem parseRemoteAddr_IPv4_peer (a b c d : UInt8) (port : Int) :
    parseRemoteAddr (TCPAddr.String ⟨IPv4 a b c d, port, ""⟩) = .ok (IPv4 a b c d) := by
  have digits := (octet_text ⟨a.toNat, a.toNat_lt_size⟩).2.2
  dsimp only at digits
  obtain ⟨first, more, split⟩ := List.exists_cons_of_ne_nil digits.2
  have notBracket : first ≠ '[' := fun same => absurd
    (List.all_eq_true.mp digits.1 first (by simp [split])) (by simp [same])
  have long : ¬(IP.String (IPv4 a b c d)).toList.length < 2 := by
    simp only [IP_String_IPv4, List.length_append, List.length_cons]
    omega
  have bracketed : ¬((IP.String (IPv4 a b c d)).toList.head? = some '[' ∧
      (IP.String (IPv4 a b c d)).toList.getLast? = some ']') := by
    rw [IP_String_IPv4, split]
    simp [notBracket]
  unfold parseRemoteAddr
  rw [TCPAddr_String_IPv4, LastIndexByte_append_cons _ _ (colon_not_mem_toString port)]
  dsimp only
  rw [List.take_left, if_neg long, if_neg bracketed]
  rw [show String.mk (IP.String (IPv4 a b c d)).toList = IP.String (IPv4 a b c d) from rfl,
    ParseIP_String_IPv4]

/-- **A peer's IPv6 address is read back**: for every peer with a sixteen-byte address that is
not IPv4-mapped and no zone, `parseRemoteAddr` returns the address from the bracketed text
`net/http` writes for it, whatever the port. -/
theorem parseRemoteAddr_IPv6_peer {ip : IP} (sixteen : ip.length = IPv6len)
    (unmapped : To4 ip = none) (port : Int) :
    parseRemoteAddr (TCPAddr.String ⟨ip, port, ""⟩) = .ok ip := by
  obtain ⟨ds, more, text, -, -⟩ := parseIPv6_String sixteen unmapped
  have colon : ':' ∈ (IP.String ip).data := by
    rw [show (IP.String ip).data = (IP.String ip).toList from rfl, text]
    simp
  have nonempty : ip.isEmpty = false := by
    cases ip with
    | nil => exact absurd sixteen (by decide)
    | cons => rfl
  have written : (TCPAddr.String ⟨ip, port, ""⟩).toList =
      ('[' :: (IP.String ip).toList ++ [']']) ++ ':' :: (toString port).toList := by
    simp [TCPAddr.String, ipEmptyString, JoinHostPort, nonempty, colon]
  unfold parseRemoteAddr
  rw [written, LastIndexByte_append_cons _ _ (colon_not_mem_toString port)]
  dsimp only
  rw [List.take_left, if_neg (by simp),
    if_pos ⟨rfl, by rw [List.getLast?_concat]⟩]
  simp [ParseIP_String_IPv6 sixteen unmapped]

theorem parseRemoteAddr_IPv6_peer_documentation :
    [0x20, 0x01, 0x0d, 0xb8, 0, 0, 0, 0, 0, 0, 0, 0, 0, 0, 0, 1].length = IPv6len ∧
      To4 [0x20, 0x01, 0x0d, 0xb8, 0, 0, 0, 0, 0, 0, 0, 0, 0, 0, 0, 1] = none ∧
      parseRemoteAddr (TCPAddr.String ⟨[0x20, 0x01, 0x0d, 0xb8, 0, 0, 0, 0, 0, 0, 0, 0, 0, 0, 0, 1],
        443, ""⟩) = .ok [0x20, 0x01, 0x0d, 0xb8, 0, 0, 0, 0, 0, 0, 0, 0, 0, 0, 0, 1] :=
  ⟨rfl, by decide, @parseRemoteAddr_IPv6_peer [0x20, 0x01, 0x0d, 0xb8, 0, 0, 0, 0, 0, 0, 0, 0, 0, 0, 0, 1]
    rfl (by decide) 443⟩

/-- **A zoned peer's address is rejected**: `net/http` writes the link-local peer `fe80::1` on
the interface `eth0` as `[fe80::1%eth0]:443`, and `ParseIP` reads no zone, so `parseRemoteAddr`
fails on the address of a peer it could have parsed without its zone. -/
theorem zonedPeerAddressRejected :
    TCPAddr.String ⟨[0xfe, 0x80, 0, 0, 0, 0, 0, 0, 0, 0, 0, 0, 0, 0, 0, 1], 443, "eth0"⟩ =
        "[fe80::1%eth0]:443" ∧
      parseRemoteAddr (TCPAddr.String
        ⟨[0xfe, 0x80, 0, 0, 0, 0, 0, 0, 0, 0, 0, 0, 0, 0, 0, 1], 443, "eth0"⟩) =
        .error "Invalid IP Address: fe80::1%eth0" ∧
      parseRemoteAddr (TCPAddr.String
        ⟨[0xfe, 0x80, 0, 0, 0, 0, 0, 0, 0, 0, 0, 0, 0, 0, 0, 1], 443, ""⟩) =
        .ok [0xfe, 0x80, 0, 0, 0, 0, 0, 0, 0, 0, 0, 0, 0, 0, 0, 1] :=
  ⟨by decide, rfl, rfl⟩

/-! ## ECS synthesis -/

/-- The prefix lengths `synthesizeECS` uses: the header's when there is one, otherwise the
configured ones. -/
def prefixLengths (cfg : Config) (ecsRequestData : String) : Except String (Int × Int) :=
  if ecsRequestData.length > 0 then extractPrefixLengths ecsRequestData
  else .ok (cfg.ecsSetIPv4PrefixLen, cfg.ecsSetIPv6PrefixLen)

/-- The `switch` of `synthesizeECS`: an IPv4 option when the address has a four-byte form and
the IPv4 prefix length is positive, otherwise an IPv6 option when it has a sixteen-byte form
and the IPv6 prefix length is positive. -/
def synthesizeForPeer (dnsQ : Msg) (ipv4PrefixLen ipv6PrefixLen : Int) (ip : IP) : Msg :=
  if (To4 ip).isSome ∧ ipv4PrefixLen > 0 then (CreateECS dnsQ 1 ipv4PrefixLen ip).1
  else if (To16 ip).isSome ∧ ipv6PrefixLen > 0 then (CreateECS dnsQ 2 ipv6PrefixLen ip).1
  else dnsQ

/-- `synthesizeECS`: the failure counter and message, or the query with the synthesised
option. -/
def synthesizeECS (cfg : Config) (dnsQ : Msg) (ecsRequestData remoteAddr : String) :
    Except (SerFailureIndex × String) Msg :=
  match prefixLengths cfg ecsRequestData with
  | .error err =>
      .error (.serBadPrefixLengths,
        "Error: Invalid Prefix Lengths " ++ ecsRequestData ++ ": " ++ err)
  | .ok (ipv4PrefixLen, ipv6PrefixLen) =>
      match parseRemoteAddr remoteAddr with
      | .error err => .error (.serECSSynthesisFailed, "Error: Invalid RemoteAddr: " ++ err)
      | .ok ip => .ok (synthesizeForPeer dnsQ ipv4PrefixLen ipv6PrefixLen ip)

/-- The ECS part of the block of `serveDoH` run on a query without TSIG: the client's option
removed, then one synthesised. -/
def adjustECS (cfg : Config) (ecsRequestData remoteAddr : String) (dnsQ : Msg) :
    Except (SerFailureIndex × String) Msg :=
  let dnsQ :=
    if cfg.ecsRemove || ecsRequestData.length > 0 || cfg.ecsSet then
      (RemoveEDNS0FromOPT dnsQ EDNS0SUBNET).1
    else dnsQ
  if ecsRequestData.length > 0 || cfg.ecsSet then synthesizeECS cfg dnsQ ecsRequestData remoteAddr
  else .ok dnsQ

/-- The block of `serveDoH` run on a query without TSIG: `adjustECS`, then the padding signal
`addServerPadding` read and the padding removed. -/
def mutateQuery (cfg : Config) (ecsRequestData remoteAddr : String) (dnsQ : Msg) :
    Except (SerFailureIndex × String) (Msg × Int) :=
  match adjustECS cfg ecsRequestData remoteAddr dnsQ with
  | .error failure => .error failure
  | .ok dnsQ =>
      let addServerPadding := FindPadding dnsQ
      .ok (if addServerPadding ≥ 0 then (RemoveEDNS0FromOPT dnsQ EDNS0PADDING).1 else dnsQ,
        addServerPadding)

/-! ## The handler -/

/-- `validateRequest`: the method, the content type, then the body. -/
def validateRequest (req : Request) : Except Rejection (List UInt8) :=
  if req.method ≠ MethodPost ∧ req.method ≠ MethodGet then
    .error ⟨StatusMethodNotAllowed, "Error: Expected Method '" ++ MethodPost ++ "' or '" ++
      MethodGet ++ "', not '" ++ req.method ++ "'", .serBadMethod⟩
  else if req.contentType ≠ Rfc8484AcceptValue then
    .error ⟨StatusUnsupportedMediaType, "Error: Expected " ++ ContentTypeHeader ++ ": '" ++
      Rfc8484AcceptValue ++ "' not '" ++ req.contentType ++ "'", .serBadContentType⟩
  else
    match req.body with
    | .error err =>
        .error ⟨StatusBadRequest, "Error: Could not ReadAll request body: " ++ err,
          .serBodyReadError⟩
    | .ok body => .ok body

/-- `qp[key]` of `url.Values`: the values given for `key`, in order. -/
def valuesOf (query : List (String × String)) (key : String) : List String :=
  (query.filter (·.1 = key)).map (·.2)

/-- `len(qp)`: the number of distinct parameter names. -/
def paramCount (query : List (String × String)) : Nat :=
  (query.map (·.1)).dedup.length

/-- `decodeQueryParam`: the only parameter must be `dns`, and its first value is decoded with
the padded `base64.URLEncoding`. -/
def decodeQueryParam (query : List (String × String)) :
    Except (SerFailureIndex × String) (List UInt8) :=
  match valuesOf query Rfc8484QueryParam with
  | [] =>
      .error (.serQueryParamMissing, "Error: Query Param '" ++ Rfc8484QueryParam ++
        "' not present in '" ++ MethodGet ++ "' request")
  | qpData :: _ =>
      if paramCount query ≠ 1 then
        .error (.serQueryParamMissing, "Error: Superfluous Query Params beyond the singular '" ++
          Rfc8484QueryParam ++ "' (" ++ toString (paramCount query) ++ ")")
      else
        match URLEncoding.DecodeString qpData with
        | .error err =>
            .error (.serBadQueryParamDecode, "Error: Query Param '" ++ Rfc8484QueryParam ++
              "': " ++ err)
        | .ok body => .ok body

/-- The DNS message of a request: the POST body, or the decoded parameter of a GET. -/
def requestBody (req : Request) : Except Rejection (List UInt8) :=
  match validateRequest req with
  | .error rejection => .error rejection
  | .ok body =>
      if req.method = MethodGet then
        match decodeQueryParam req.query with
        | .error (serx, errMsg) => .error ⟨StatusBadRequest, errMsg, serx⟩
        | .ok body => .ok body
      else .ok body

/-- A query Id of zero replaced by `dns.Id()`'s value `newId`. -/
def assignId (dnsQ : Msg) (newId : Nat) : Msg :=
  if dnsQ.hdr.id = 0 then { dnsQ with hdr := { dnsQ.hdr with id := newId } } else dnsQ

/-- What the first half of `serveDoH` hands on: the query for the local resolver, the Id to
restore, and the mutability and padding signal that decide how the reply is packed. -/
structure Pending where
  query : Msg
  originalId : Nat
  msgIsMutable : Bool
  addServerPadding : Int
deriving DecidableEq, Repr

/-- The first half of `serveDoH`: the request up to the query the local resolver receives. -/
def localQuery (wire : Wire) (cfg : Config) (newId : Nat) (req : Request) :
    Except Rejection Pending :=
  match requestBody req with
  | .error rejection => .error rejection
  | .ok body =>
      match wire.unpack body with
      | .error err =>
          .error ⟨StatusBadRequest, "Error: dns.Unpack failed: " ++ err,
            .serDNSUnpackRequestFailed⟩
      | .ok dnsQ =>
          let msgIsMutable := !dnsQ.IsTsig
          if msgIsMutable then
            match mutateQuery cfg req.synthesizeECS req.remoteAddr (assignId dnsQ newId) with
            | .error (serx, errMsg) => .error ⟨StatusBadRequest, errMsg, serx⟩
            | .ok (query, addServerPadding) => .ok ⟨query, dnsQ.hdr.id, true, addServerPadding⟩
          else .ok ⟨assignId dnsQ newId, dnsQ.hdr.id, false, -1⟩

/-- The second half of `serveDoH`: local resolution, the original Id restored, and the reply
packed, padded to `Rfc8467ServerPadModulo` when the query was mutable and padded. -/
def respond (wire : Wire) (resolve : Msg → Except String Msg) (pending : Pending) :
    Except Rejection (List UInt8) :=
  match resolve pending.query with
  | .error err =>
      .error ⟨StatusServiceUnavailable, "Error: local resolution failed: " ++ err,
        .serLocalResolutionFailed⟩
  | .ok dnsR =>
      let dnsR := { dnsR with hdr := { dnsR.hdr with id := pending.originalId } }
      let packed :=
        if pending.msgIsMutable ∧ pending.addServerPadding ≥ 0 then
          PadAndPack wire dnsR Rfc8467ServerPadModulo
        else dnsR.Pack wire
      match packed.2 with
      | .error err =>
          .error ⟨StatusServiceUnavailable, "DNS Pack Failed: " ++ err, .serDNSPackResponseFailed⟩
      | .ok body => .ok body

/-- `serveDoH`: the body written with status 200, or the rejection. -/
def serveDoH (wire : Wire) (cfg : Config) (resolve : Msg → Except String Msg) (newId : Nat)
    (req : Request) : Except Rejection (List UInt8) :=
  (localQuery wire cfg newId req).bind (respond wire resolve)

/-! ## The options of the query the local resolver receives -/

/-- The options of a message that carry the ECS code. -/
def ecsOptions (msg : Msg) : List EDNS0 :=
  optionsOf (fun o => o.Option = EDNS0SUBNET) msg

/-- The padding options of a message. -/
def paddingOptions (msg : Msg) : List EDNS0 :=
  optionsOf EDNS0.isPadding msg

/-- The ECS option `synthesizeECS`'s `switch` gives a peer, as `CreateECS` builds it. -/
def peerECS (ipv4PrefixLen ipv6PrefixLen : Int) (ip : IP) : List EDNS0 :=
  if (To4 ip).isSome ∧ ipv4PrefixLen > 0 then [.subnet 1 (ipv4PrefixLen % 2 ^ 8).toNat 0 ip]
  else if (To16 ip).isSome ∧ ipv6PrefixLen > 0 then [.subnet 2 (ipv6PrefixLen % 2 ^ 8).toNat 0 ip]
  else []

theorem ecs_coded (o : EDNS0) (ecs : decide (o.Option = EDNS0SUBNET) = true) :
    o.Option ≠ EDNS0PADDING := by
  simp only [decide_eq_true_eq] at ecs
  rw [ecs]
  decide

theorem padding_uncoded (o : EDNS0) (padding : o.isPadding = true) : o.Option ≠ EDNS0SUBNET := by
  rw [EDNS0.Option_of_isPadding padding]
  decide

theorem ecsOptions_synthesizeForPeer {dnsQ : Msg} (absent : ecsOptions dnsQ = [])
    (ipv4PrefixLen ipv6PrefixLen : Int) (ip : IP) :
    ecsOptions (synthesizeForPeer dnsQ ipv4PrefixLen ipv6PrefixLen ip) =
      peerECS ipv4PrefixLen ipv6PrefixLen ip := by
  unfold synthesizeForPeer peerECS
  split_ifs
  · exact optionsOf_CreateECS_of_true _ _ _ _ _ rfl absent
  · exact optionsOf_CreateECS_of_true _ _ _ _ _ rfl absent
  · exact absent

theorem paddingOptions_synthesizeForPeer (dnsQ : Msg) (ipv4PrefixLen ipv6PrefixLen : Int)
    (ip : IP) :
    paddingOptions (synthesizeForPeer dnsQ ipv4PrefixLen ipv6PrefixLen ip) =
      paddingOptions dnsQ := by
  unfold synthesizeForPeer
  split_ifs
  · exact optionsOf_CreateECS_of_false _ _ _ _ _ rfl
  · exact optionsOf_CreateECS_of_false _ _ _ _ _ rfl
  · rfl

theorem synthesizeECS_eq_ok {cfg : Config} {dnsQ query : Msg} {ecsRequestData remoteAddr : String}
    (ok : synthesizeECS cfg dnsQ ecsRequestData remoteAddr = .ok query) :
    ∃ ipv4PrefixLen ipv6PrefixLen ip,
      prefixLengths cfg ecsRequestData = .ok (ipv4PrefixLen, ipv6PrefixLen) ∧
      parseRemoteAddr remoteAddr = .ok ip ∧
      query = synthesizeForPeer dnsQ ipv4PrefixLen ipv6PrefixLen ip := by
  unfold synthesizeECS at ok
  split at ok
  · cases ok
  · rename_i ipv4PrefixLen ipv6PrefixLen lengths
    split at ok
    · cases ok
    · rename_i ip peer
      cases ok
      exact ⟨ipv4PrefixLen, ipv6PrefixLen, ip, lengths, peer, rfl⟩

/-- `adjustECS` leaves the padding options alone. -/
theorem paddingOptions_adjustECS {cfg : Config} {ecsRequestData remoteAddr : String}
    {dnsQ query : Msg} (ok : adjustECS cfg ecsRequestData remoteAddr dnsQ = .ok query) :
    paddingOptions query = paddingOptions dnsQ := by
  have removal : paddingOptions (RemoveEDNS0FromOPT dnsQ EDNS0SUBNET).1 = paddingOptions dnsQ :=
    optionsOf_RemoveEDNS0FromOPT_of_ne _ _ padding_uncoded dnsQ
  simp only [adjustECS] at ok
  split_ifs at ok with synthesis removed
  · obtain ⟨_, _, _, -, -, rfl⟩ := synthesizeECS_eq_ok ok
    rw [paddingOptions_synthesizeForPeer, removal]
  · obtain ⟨_, _, _, -, -, rfl⟩ := synthesizeECS_eq_ok ok
    rw [paddingOptions_synthesizeForPeer]
  · cases ok
    exact removal
  · cases ok
    rfl

/-- **When an ECS option is synthesised, it is the only one**: the client's options are
removed, and what is left is the option the `switch` picks for the peer. -/
theorem ecsOptions_adjustECS_of_synthesis {cfg : Config} {ecsRequestData remoteAddr : String}
    {dnsQ query : Msg} (ok : adjustECS cfg ecsRequestData remoteAddr dnsQ = .ok query)
    (synthesis : 0 < ecsRequestData.length ∨ cfg.ecsSet = true) :
    ∃ ipv4PrefixLen ipv6PrefixLen ip,
      prefixLengths cfg ecsRequestData = .ok (ipv4PrefixLen, ipv6PrefixLen) ∧
      parseRemoteAddr remoteAddr = .ok ip ∧
      ecsOptions query = peerECS ipv4PrefixLen ipv6PrefixLen ip := by
  have removed : (cfg.ecsRemove || decide (ecsRequestData.length > 0) || cfg.ecsSet) = true := by
    rcases synthesis with header | configured <;> simp [*]
  have synthesized : (decide (ecsRequestData.length > 0) || cfg.ecsSet) = true := by
    rcases synthesis with header | configured <;> simp [*]
  unfold adjustECS at ok
  simp only [removed, synthesized, ↓reduceIte] at ok
  obtain ⟨ipv4PrefixLen, ipv6PrefixLen, ip, lengths, peer, rfl⟩ := synthesizeECS_eq_ok ok
  exact ⟨ipv4PrefixLen, ipv6PrefixLen, ip, lengths, peer, ecsOptions_synthesizeForPeer
    (optionsOf_RemoveEDNS0FromOPT_of_code _ _ (fun _ coded => of_decide_eq_true coded) dnsQ) _ _ _⟩

/-- Without synthesis the client's ECS options stay, unless `ecsRemove` removes them. -/
theorem ecsOptions_adjustECS_of_no_synthesis {cfg : Config} {ecsRequestData remoteAddr : String}
    {dnsQ query : Msg} (ok : adjustECS cfg ecsRequestData remoteAddr dnsQ = .ok query)
    (noHeader : ecsRequestData.length = 0) (notSet : cfg.ecsSet = false) :
    ecsOptions query = if cfg.ecsRemove then [] else ecsOptions dnsQ := by
  simp only [adjustECS, noHeader, notSet, gt_iff_lt, lt_self_iff_false, decide_False,
    Bool.or_false, Bool.false_eq_true, ↓reduceIte, Except.ok.injEq] at ok
  subst ok
  split_ifs
  · exact optionsOf_RemoveEDNS0FromOPT_of_code _ _ (fun _ coded => of_decide_eq_true coded) dnsQ
  · rfl

theorem mutateQuery_eq_ok {cfg : Config} {ecsRequestData remoteAddr : String}
    {dnsQ query : Msg} {addServerPadding : Int}
    (ok : mutateQuery cfg ecsRequestData remoteAddr dnsQ = .ok (query, addServerPadding)) :
    ∃ adjusted, adjustECS cfg ecsRequestData remoteAddr dnsQ = .ok adjusted ∧
      addServerPadding = FindPadding adjusted ∧
      query = if addServerPadding ≥ 0 then (RemoveEDNS0FromOPT adjusted EDNS0PADDING).1
        else adjusted := by
  unfold mutateQuery at ok
  split at ok
  · cases ok
  · rename_i adjusted adjustedEq
    simp only [Except.ok.injEq, Prod.mk.injEq] at ok
    obtain ⟨rfl, rfl⟩ := ok
    exact ⟨adjusted, adjustedEq, rfl, rfl⟩

/-- **The padding is hop-by-hop**: the query keeps no padding option, and the reply is
padded exactly when the client's query carried one. -/
theorem paddingOptions_mutateQuery {cfg : Config} {ecsRequestData remoteAddr : String}
    {dnsQ query : Msg} {addServerPadding : Int}
    (ok : mutateQuery cfg ecsRequestData remoteAddr dnsQ = .ok (query, addServerPadding)) :
    paddingOptions query = [] ∧ (0 ≤ addServerPadding ↔ paddingOptions dnsQ ≠ []) := by
  obtain ⟨adjusted, adjustedEq, rfl, rfl⟩ := mutateQuery_eq_ok ok
  have signal := FindPadding_nonneg_iff adjusted
  refine ⟨?_, by rw [signal, ← paddingOptions_adjustECS adjustedEq]; rfl⟩
  split_ifs with padded
  · exact optionsOf_RemoveEDNS0FromOPT_of_code _ _ (fun _ => EDNS0.Option_of_isPadding) adjusted
  · simpa [paddingOptions, signal] using padded

/-- Taking the padding off leaves the ECS options alone. -/
theorem ecsOptions_mutateQuery {cfg : Config} {ecsRequestData remoteAddr : String}
    {dnsQ query adjusted : Msg} {addServerPadding : Int}
    (ok : mutateQuery cfg ecsRequestData remoteAddr dnsQ = .ok (query, addServerPadding))
    (adjustedEq : adjustECS cfg ecsRequestData remoteAddr dnsQ = .ok adjusted) :
    ecsOptions query = ecsOptions adjusted := by
  obtain ⟨adjusted', adjustedEq', -, rfl⟩ := mutateQuery_eq_ok ok
  obtain rfl := Except.ok.inj (adjustedEq.symm.trans adjustedEq')
  split_ifs
  · exact optionsOf_RemoveEDNS0FromOPT_of_ne _ _ ecs_coded adjusted
  · rfl

@[simp] theorem assignId_extra (dnsQ : Msg) (newId : Nat) : (assignId dnsQ newId).extra = dnsQ.extra := by
  unfold assignId
  split_ifs <;> rfl

theorem localQuery_eq_ok {wire : Wire} {cfg : Config} {newId : Nat} {req : Request}
    {pending : Pending} (ok : localQuery wire cfg newId req = .ok pending) :
    ∃ body dnsQ, requestBody req = .ok body ∧ wire.unpack body = .ok dnsQ ∧
      pending.originalId = dnsQ.hdr.id ∧ pending.msgIsMutable = !dnsQ.IsTsig ∧
      if pending.msgIsMutable then
        mutateQuery cfg req.synthesizeECS req.remoteAddr (assignId dnsQ newId) =
          .ok (pending.query, pending.addServerPadding)
      else pending.query = assignId dnsQ newId ∧ pending.addServerPadding = -1 := by
  unfold localQuery at ok
  split at ok
  · cases ok
  · rename_i body bodyEq
    split at ok
    · cases ok
    · rename_i dnsQ unpacked
      refine ⟨body, dnsQ, bodyEq, unpacked, ?_⟩
      dsimp only at ok
      split_ifs at ok with mutable
      · split at ok
        · cases ok
        · rename_i query addServerPadding mutated
          cases ok
          exact ⟨rfl, mutable.symm, mutated⟩
      · cases ok
        exact ⟨rfl, (Bool.of_not_eq_true mutable).symm, rfl, rfl⟩

/-- The ECS law of the handler, as the code has it: when the header is present or `ecsSet` is
on, the query the local resolver receives carries exactly the options of `peerECS` at the
prefix lengths in force and the peer's address. -/
theorem ecsOptions_localQuery {wire : Wire} {cfg : Config} {newId : Nat} {req : Request}
    {pending : Pending} (ok : localQuery wire cfg newId req = .ok pending)
    (mutable : pending.msgIsMutable = true)
    (synthesis : 0 < req.synthesizeECS.length ∨ cfg.ecsSet = true) :
    ∃ ipv4PrefixLen ipv6PrefixLen ip,
      prefixLengths cfg req.synthesizeECS = .ok (ipv4PrefixLen, ipv6PrefixLen) ∧
      parseRemoteAddr req.remoteAddr = .ok ip ∧
      ecsOptions pending.query = peerECS ipv4PrefixLen ipv6PrefixLen ip := by
  obtain ⟨_, _, -, -, -, -, mutated⟩ := localQuery_eq_ok ok
  rw [if_pos mutable] at mutated
  obtain ⟨adjusted, adjustedEq, -, -⟩ := mutateQuery_eq_ok mutated
  rw [ecsOptions_mutateQuery mutated adjustedEq]
  exact ecsOptions_adjustECS_of_synthesis adjustedEq synthesis

/-- **An IPv4 peer with an IPv4 prefix length of zero gets an IPv6 option**: the second case
of `synthesizeECS`'s `switch` tests `To16`, which every IPv4 address passes, so the peer's
address goes out in its IPv4-mapped form under family 2 with the IPv6 prefix length. -/
theorem ipv4PeerGetsFamilyTwoECS {wire : Wire} {cfg : Config} {newId : Nat} {req : Request}
    {pending : Pending} {ip : IP} {ipv6PrefixLen : Int}
    (ok : localQuery wire cfg newId req = .ok pending) (mutable : pending.msgIsMutable = true)
    (synthesis : 0 < req.synthesizeECS.length ∨ cfg.ecsSet = true)
    (lengths : prefixLengths cfg req.synthesizeECS = .ok (0, ipv6PrefixLen))
    (positive : 0 < ipv6PrefixLen) (range : ipv6PrefixLen ≤ 128)
    (peer : parseRemoteAddr req.remoteAddr = .ok ip) (ipv4 : (To4 ip).isSome = true) :
    ecsOptions pending.query = [.subnet 2 ipv6PrefixLen.toNat 0 ip] := by
  obtain ⟨_, _, _, lengths', peer', ecs⟩ := ecsOptions_localQuery ok mutable synthesis
  obtain ⟨rfl, rfl⟩ := Prod.mk.inj (Except.ok.inj (lengths.symm.trans lengths'))
  obtain rfl := Except.ok.inj (peer.symm.trans peer')
  rw [ecs, peerECS, if_neg (by simp), if_pos ⟨isSome_To16_of_isSome_To4 ipv4, positive⟩,
    Int.emod_eq_of_lt (by omega) (by omega)]

theorem ipv4PeerGetsFamilyTwoECS_documentation_peer :
    ecsOptions (⟨⟨⟨7, OpcodeQuery, false, 0⟩, [⟨"example.com.", 1, ClassINET⟩], [], [],
        [⟨⟨".", TypeOPT, DefaultMsgSize, 0⟩, .opt [.subnet 2 24 0 (IPv4 192 0 2 1)]⟩]⟩,
        7, true, -1⟩ : Pending).query = [.subnet 2 24 0 (IPv4 192 0 2 1)] :=
  @ipv4PeerGetsFamilyTwoECS
    ⟨fun _ => .ok [],
      fun _ => .ok ⟨⟨7, OpcodeQuery, false, 0⟩, [⟨"example.com.", 1, ClassINET⟩], [], [], []⟩,
      fun m _ => m⟩
    ⟨false, false, 0, 0⟩ 9 ⟨MethodPost, Rfc8484AcceptValue, "0/24", .ok [], [], "192.0.2.1:443"⟩
    _ (IPv4 192 0 2 1) 24 rfl rfl (.inl (by decide)) rfl (by decide) (by decide) rfl rfl

theorem paddingOptions_assignId (dnsQ : Msg) (newId : Nat) :
    paddingOptions (assignId dnsQ newId) = paddingOptions dnsQ := by
  simp only [paddingOptions, optionsOf, assignId_extra]

/-- **Padding is hop-by-hop through the handler**: the local resolver never receives a padding
option in a query the handler may change, and the reply is padded exactly when the client's
query carried one. -/
theorem localQuery_padding {wire : Wire} {cfg : Config} {newId : Nat} {req : Request}
    {pending : Pending} (ok : localQuery wire cfg newId req = .ok pending)
    (mutable : pending.msgIsMutable = true) :
    paddingOptions pending.query = [] ∧
      ∃ body dnsQ, requestBody req = .ok body ∧ wire.unpack body = .ok dnsQ ∧
        (0 ≤ pending.addServerPadding ↔ paddingOptions dnsQ ≠ []) := by
  obtain ⟨body, dnsQ, bodyEq, unpacked, -, -, mutated⟩ := localQuery_eq_ok ok
  rw [if_pos mutable] at mutated
  obtain ⟨stripped, signal⟩ := paddingOptions_mutateQuery mutated
  exact ⟨stripped, body, dnsQ, bodyEq, unpacked, by rw [signal, paddingOptions_assignId]⟩

theorem localQuery_padding_padded_query :
    paddingOptions (⟨⟨⟨9, OpcodeQuery, false, 0⟩, [⟨"example.com.", 1, ClassINET⟩], [], [], []⟩,
        0, true, 3⟩ : Pending).query = [] ∧
      ∃ body dnsQ, requestBody ⟨MethodPost, Rfc8484AcceptValue, "", .ok [], [], "192.0.2.1:443"⟩ =
          .ok body ∧
        (⟨fun _ => .ok [], fun _ => .ok ⟨⟨0, OpcodeQuery, false, 0⟩,
          [⟨"example.com.", 1, ClassINET⟩], [], [],
          [⟨⟨".", TypeOPT, 1232, 0⟩, .opt [.padding [0, 0, 0]]⟩]⟩, fun m _ => m⟩ : Wire).unpack
          body = .ok dnsQ ∧
        ((0 : Int) ≤ 3 ↔ paddingOptions dnsQ ≠ []) :=
  @localQuery_padding _ ⟨false, false, 0, 0⟩ 9 _ _ rfl rfl

/-! ## The header of the reply -/

theorem assignId_eq (dnsQ : Msg) (newId : Nat) :
    assignId dnsQ newId =
      { dnsQ with hdr := { dnsQ.hdr with id := if dnsQ.hdr.id = 0 then newId else dnsQ.hdr.id } } := by
  unfold assignId
  split_ifs <;> rfl

theorem assignId_hdr (dnsQ : Msg) (newId : Nat) :
    (assignId dnsQ newId).hdr =
      { dnsQ.hdr with id := if dnsQ.hdr.id = 0 then newId else dnsQ.hdr.id } :=
  congrArg Msg.hdr (assignId_eq dnsQ newId)

theorem synthesizeForPeer_extraOnly (dnsQ : Msg) (ipv4PrefixLen ipv6PrefixLen : Int) (ip : IP) :
    dnsQ.ExtraOnly (synthesizeForPeer dnsQ ipv4PrefixLen ipv6PrefixLen ip) := by
  unfold synthesizeForPeer
  split_ifs
  · exact CreateECS_extraOnly _ _ _ _
  · exact CreateECS_extraOnly _ _ _ _
  · exact .refl dnsQ

/-- The ECS removal and synthesis change Extra only. -/
theorem adjustECS_extraOnly {cfg : Config} {ecsRequestData remoteAddr : String}
    {dnsQ adjusted : Msg} (ok : adjustECS cfg ecsRequestData remoteAddr dnsQ = .ok adjusted) :
    dnsQ.ExtraOnly adjusted := by
  have removed := Msg.ExtraOnly.ite ((cfg.ecsRemove || ecsRequestData.length > 0 || cfg.ecsSet) = true)
    (RemoveEDNS0FromOPT_extraOnly dnsQ EDNS0SUBNET) (.refl dnsQ)
  unfold adjustECS at ok
  by_cases synthesis : (ecsRequestData.length > 0 || cfg.ecsSet) = true
  · rw [if_pos synthesis] at ok
    obtain ⟨_, _, _, -, -, rfl⟩ := synthesizeECS_eq_ok ok
    exact removed.trans (synthesizeForPeer_extraOnly _ _ _ _)
  · rw [if_neg synthesis] at ok
    cases ok
    exact removed

/-- The ECS and padding changes confine themselves to Extra. -/
theorem mutateQuery_extraOnly {cfg : Config} {ecsRequestData remoteAddr : String}
    {dnsQ query : Msg} {addServerPadding : Int}
    (ok : mutateQuery cfg ecsRequestData remoteAddr dnsQ = .ok (query, addServerPadding)) :
    dnsQ.ExtraOnly query := by
  obtain ⟨adjusted, adjustedEq, -, rfl⟩ := mutateQuery_eq_ok ok
  exact (adjustECS_extraOnly adjustedEq).trans (.ite _ (RemoveEDNS0FromOPT_extraOnly _ _) (.refl _))

/-- The ECS and padding changes leave the header alone. -/
theorem mutateQuery_hdr {cfg : Config} {ecsRequestData remoteAddr : String}
    {dnsQ query : Msg} {addServerPadding : Int}
    (ok : mutateQuery cfg ecsRequestData remoteAddr dnsQ = .ok (query, addServerPadding)) :
    query.hdr = dnsQ.hdr :=
  (congrArg Msg.hdr (mutateQuery_extraOnly ok)).symm

/-- The local resolver receives the client's query, with a zero Id replaced by `newId`, and
only Extra changed. -/
theorem localQuery_extraOnly {wire : Wire} {cfg : Config} {newId : Nat} {req : Request}
    {pending : Pending} (ok : localQuery wire cfg newId req = .ok pending) :
    ∃ body dnsQ, requestBody req = .ok body ∧ wire.unpack body = .ok dnsQ ∧
      pending.originalId = dnsQ.hdr.id ∧ (assignId dnsQ newId).ExtraOnly pending.query := by
  obtain ⟨body, dnsQ, bodyEq, unpacked, original, -, query⟩ := localQuery_eq_ok ok
  refine ⟨body, dnsQ, bodyEq, unpacked, original, ?_⟩
  split_ifs at query
  · exact mutateQuery_extraOnly query
  · rw [query.1]
    exact .refl _

/-- The local resolver receives the client's header, with a zero Id replaced by `newId`. -/
theorem localQuery_hdr {wire : Wire} {cfg : Config} {newId : Nat} {req : Request}
    {pending : Pending} (ok : localQuery wire cfg newId req = .ok pending) :
    ∃ body dnsQ, requestBody req = .ok body ∧ wire.unpack body = .ok dnsQ ∧
      pending.originalId = dnsQ.hdr.id ∧ pending.query.hdr = (assignId dnsQ newId).hdr := by
  obtain ⟨body, dnsQ, bodyEq, unpacked, original, query⟩ := localQuery_extraOnly ok
  exact ⟨body, dnsQ, bodyEq, unpacked, original, (congrArg Msg.hdr query).symm⟩

/-- What `respond` writes is the encoding of the resolver's reply under the original Id, with
only Extra changed. -/
theorem respond_extraOnly {wire : Wire} {resolve : Msg → Except String Msg} {pending : Pending}
    {body : List UInt8} (ok : respond wire resolve pending = .ok body) :
    ∃ dnsR m, resolve pending.query = .ok dnsR ∧ wire.encode m = .ok body ∧
      ({ dnsR with hdr := { dnsR.hdr with id := pending.originalId } } : Msg).ExtraOnly m := by
  unfold respond at ok
  split at ok
  · cases ok
  · rename_i dnsR resolved
    dsimp only at ok
    split at ok
    · cases ok
    · rename_i bytes packed
      cases ok
      split_ifs at packed
      · exact ⟨dnsR, _, resolved, (PadAndPack_encodes packed).1, PadAndPack_extraOnly _ _ _⟩
      · exact ⟨dnsR, _, resolved, Pack_encodes packed, Pack_extraOnly _ _⟩

/-- What `respond` writes is the encoding of the resolver's reply under the original Id. -/
theorem respond_encodes {wire : Wire} {resolve : Msg → Except String Msg} {pending : Pending}
    {body : List UInt8} (ok : respond wire resolve pending = .ok body) :
    ∃ dnsR m, resolve pending.query = .ok dnsR ∧ wire.encode m = .ok body ∧
      m.hdr = { dnsR.hdr with id := pending.originalId } := by
  obtain ⟨dnsR, m, resolved, encoded, reply⟩ := respond_extraOnly ok
  exact ⟨dnsR, m, resolved, encoded, (congrArg Msg.hdr reply).symm⟩

/-- What `serveDoH` does to a request it answers: the local resolver receives the client's
query with a zero Id replaced and only Extra changed, and the body written encodes the
resolver's reply with the client's Id and only Extra changed. -/
theorem serveDoH_extraOnly {wire : Wire} {cfg : Config} {resolve : Msg → Except String Msg}
    {newId : Nat} {req : Request} {body : List UInt8}
    (served : serveDoH wire cfg resolve newId req = .ok body) :
    ∃ requestBytes dnsQ query dnsR m, requestBody req = .ok requestBytes ∧
      wire.unpack requestBytes = .ok dnsQ ∧ (assignId dnsQ newId).ExtraOnly query ∧
      resolve query = .ok dnsR ∧ wire.encode m = .ok body ∧
      ({ dnsR with hdr := { dnsR.hdr with id := dnsQ.hdr.id } } : Msg).ExtraOnly m := by
  unfold serveDoH at served
  cases accepted : localQuery wire cfg newId req with
  | error rejection =>
      rw [accepted] at served
      cases served
  | ok pending =>
      rw [accepted] at served
      obtain ⟨requestBytes, dnsQ, bodyEq, unpacked, original, query⟩ :=
        localQuery_extraOnly accepted
      obtain ⟨dnsR, m, resolved, encoded, replied⟩ := respond_extraOnly served
      exact ⟨requestBytes, dnsQ, pending.query, dnsR, m, bodyEq, unpacked, query, resolved,
        encoded, original ▸ replied⟩

/-- **The reply carries the client's Id**: for every request `serveDoH` answers, the local
resolver receives the client's query header with a zero Id replaced by `dns.Id()`'s, and the
body written is the encoding of the resolver's reply with its header unchanged but for the Id,
which is the client's own. -/
theorem serveDoH_restores_client_id {wire : Wire} {cfg : Config}
    {resolve : Msg → Except String Msg} {newId : Nat} {req : Request} {body : List UInt8}
    (served : serveDoH wire cfg resolve newId req = .ok body) :
    ∃ requestBytes dnsQ query dnsR m, requestBody req = .ok requestBytes ∧
      wire.unpack requestBytes = .ok dnsQ ∧
      query.hdr = { dnsQ.hdr with id := if dnsQ.hdr.id = 0 then newId else dnsQ.hdr.id } ∧
      resolve query = .ok dnsR ∧ wire.encode m = .ok body ∧
      m.hdr = { dnsR.hdr with id := dnsQ.hdr.id } := by
  obtain ⟨requestBytes, dnsQ, query, dnsR, m, bodyEq, unpacked, received, resolved, encoded,
    replied⟩ := serveDoH_extraOnly served
  exact ⟨requestBytes, dnsQ, query, dnsR, m, bodyEq, unpacked,
    (congrArg Msg.hdr received).symm.trans (assignId_hdr dnsQ newId), resolved, encoded,
    (congrArg Msg.hdr replied).symm⟩

/-! ## Rejections -/

/-- The status a failure counter is reported with: 405 for the method, 415 for the content
type, 503 when local resolution or packing the reply fails, 400 for every fault of the
request. -/
def SerFailureIndex.status : SerFailureIndex → Nat
  | .serBadMethod => StatusMethodNotAllowed
  | .serBadContentType => StatusUnsupportedMediaType
  | .serLocalResolutionFailed => StatusServiceUnavailable
  | .serDNSPackResponseFailed => StatusServiceUnavailable
  | _ => StatusBadRequest

theorem validateRequest_rejection {req : Request} {rejection : Rejection}
    (rejected : validateRequest req = .error rejection) :
    rejection.status = rejection.serx.status := by
  unfold validateRequest at rejected
  split_ifs at rejected
  · cases rejected; rfl
  · cases rejected; rfl
  · split at rejected <;> cases rejected; rfl

theorem decodeQueryParam_failure {query : List (String × String)}
    {failure : SerFailureIndex × String} (rejected : decodeQueryParam query = .error failure) :
    failure.1.status = StatusBadRequest := by
  unfold decodeQueryParam at rejected
  split at rejected
  · cases rejected; rfl
  · split_ifs at rejected
    · cases rejected; rfl
    · split at rejected <;> cases rejected; rfl

theorem synthesizeECS_failure {cfg : Config} {dnsQ : Msg} {ecsRequestData remoteAddr : String}
    {failure : SerFailureIndex × String}
    (rejected : synthesizeECS cfg dnsQ ecsRequestData remoteAddr = .error failure) :
    failure.1.status = StatusBadRequest := by
  cases lengths : prefixLengths cfg ecsRequestData with
  | error err =>
      simp only [synthesizeECS, lengths, Except.error.injEq] at rejected
      rw [← rejected]; rfl
  | ok pair =>
      obtain ⟨ipv4PrefixLen, ipv6PrefixLen⟩ := pair
      cases peer : parseRemoteAddr remoteAddr <;>
        simp only [synthesizeECS, lengths, peer, Except.error.injEq, reduceCtorEq] at rejected
      rw [← rejected]; rfl

theorem mutateQuery_failure {cfg : Config} {ecsRequestData remoteAddr : String} {dnsQ : Msg}
    {failure : SerFailureIndex × String}
    (rejected : mutateQuery cfg ecsRequestData remoteAddr dnsQ = .error failure) :
    failure.1.status = StatusBadRequest := by
  unfold mutateQuery at rejected
  rcases adjusted : adjustECS cfg ecsRequestData remoteAddr dnsQ with err | query <;>
    simp only [adjusted, Except.error.injEq, reduceCtorEq] at rejected
  subst rejected
  simp only [adjustECS] at adjusted
  split_ifs at adjusted <;> exact synthesizeECS_failure adjusted

theorem requestBody_rejection {req : Request} {rejection : Rejection}
    (rejected : requestBody req = .error rejection) :
    rejection.status = rejection.serx.status := by
  unfold requestBody at rejected
  split at rejected
  · cases rejected
    exact validateRequest_rejection ‹_›
  · split_ifs at rejected
    split at rejected
    · cases rejected
      exact (decodeQueryParam_failure ‹_›).symm
    · cases rejected

theorem localQuery_rejection {wire : Wire} {cfg : Config} {newId : Nat} {req : Request}
    {rejection : Rejection} (rejected : localQuery wire cfg newId req = .error rejection) :
    rejection.status = rejection.serx.status := by
  unfold localQuery at rejected
  split at rejected
  · cases rejected
    exact requestBody_rejection ‹_›
  · split at rejected
    · cases rejected; rfl
    · dsimp only at rejected
      split_ifs at rejected
      split at rejected
      · cases rejected
        exact (mutateQuery_failure ‹_›).symm
      · cases rejected

theorem respond_rejection {wire : Wire} {resolve : Msg → Except String Msg} {pending : Pending}
    {rejection : Rejection} (rejected : respond wire resolve pending = .error rejection) :
    rejection.status = rejection.serx.status := by
  simp only [respond] at rejected
  split at rejected
  · cases rejected; rfl
  · split at rejected <;> cases rejected; rfl

/-- **Every rejection of the handler carries its counter's status**: a fault of the request
is a 400 (405 and 415 for the method and the content type), and a failure past it, in local
resolution or in packing the reply, is a 503. -/
theorem serveDoH_rejection_status {wire : Wire} {cfg : Config}
    {resolve : Msg → Except String Msg} {newId : Nat} {req : Request} {rejection : Rejection}
    (rejected : serveDoH wire cfg resolve newId req = .error rejection) :
    rejection.status = rejection.serx.status := by
  unfold serveDoH at rejected
  cases pending : localQuery wire cfg newId req with
  | error first =>
      rw [pending] at rejected
      cases rejected
      exact localQuery_rejection pending
  | ok pending =>
      rw [pending] at rejected
      exact respond_rejection rejected

end Trustydns.Server
