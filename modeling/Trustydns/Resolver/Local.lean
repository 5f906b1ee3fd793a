import Trustydns.BestServer.Traditional
import Trustydns.Resolver.Doh
import Trustydns.Foundation.Unicode

/-! # The local resolver

`local.Resolve` re-implements `res_send(3)` over the name servers of a `resolv.conf`. Each
attempt asks the traditional best-server manager (`Trustydns.BestServer.Traditional`) for a
server, exchanges the query with it over UDP, and re-exchanges it over TCP when the UDP reply is
a truncated NOERROR. A transport error, SERVFAIL, REFUSED or NOTIMP leads to another attempt
while attempts remain and the round trips have not used up the timeout; any other reply is
returned. `InBailiwick` decides which names the proxy hands to this resolver rather than to
DoH.

miekg/dns's `ClientConfigFromFile` and the exchangers are parameters: `ClientConfig` is the
parsed `resolv.conf`, and `Exchanger` gives what each attempt's exchanges return. `Resolve`
returns what the rest of the system can see: the manager after its `Result` calls, the
`Exchange` calls made, in order, with their network and server, and the reply or the error.
-/

namespace Trustydns.Resolver

/-- `resolver.DNSTransportUDP`. -/
def DNSTransportUDP : String := "udp"

/-- `resolver.DNSTransportTCP`. -/
def DNSTransportTCP : String := "tcp"

/-- `resolver.QueryMetaData`. -/
structure QueryMetaData where
  transportType : String

end Trustydns.Resolver

namespace Trustydns.LocalResolver

open Trustydns.Dns Trustydns.Resolver Trustydns.BestServer

/-- `me`: the prefix of the resolver's messages. -/
def me : String := "localresolver"

/-- The fields of miekg/dns's `ClientConfig` that `New` reads. -/
structure ClientConfig where
  servers : List String
  search : List String
  port : String
  attempts : Int
  timeout : Int

/-- `local.Config`; the exchanger factory is `Resolve`'s `Exchanger`. -/
structure Config where
  resolvConfPath : String
  localDomains : List String

/-- A `*bestServer`: Go compares them by pointer, so a server is its position in `bsList`
together with its `host:port` name. -/
structure BestServer where
  index : Nat
  name : String
deriving DecidableEq, Repr

/-- The state of a `local` resolver that `InBailiwick` and `Resolve` read. -/
structure Local where
  config : Config
  attempts : Int
  timeout : Int
  domains : List String
  bestServer : Traditional BestServer

/-! ## `New` -/

/-- `strings.ToLower`: `unicode.ToLower` on every rune. -/
def ToLower (s : String) : String :=
  ⟨s.data.map Unicode.ToLower⟩

/-- Whether a text has two dots in a row: `strings.Contains(s, "..")`. -/
def hasDoubleDot : List Char → Bool
  | '.' :: '.' :: _ => true
  | _ :: rest => hasDoubleDot rest
  | [] => false

/-- A domain as `loadResolvConf` stores it: lower case, with a guarding dot at each end. -/
def guardDomain (domain : String) : String :=
  let domain := ToLower domain
  let domain := if domain.data.head? ≠ some '.' then "." ++ domain else domain
  if domain.data.getLast? ≠ some '.' then domain ++ "." else domain

/-- The domain loop of `loadResolvConf` over the entries left, the domains kept so far in
`kept`: empty entries are skipped, a double dot is an error, repeats are dropped. -/
def addDomains (kept : List String) : List String → Except String (List String)
  | [] => .ok kept
  | domain :: rest =>
      if domain.length > 0 then
        let domain := guardDomain domain
        if hasDoubleDot domain.data then .error (me ++ ": Double dots in local domain name: " ++ domain)
        else addDomains (if domain ∈ kept then kept else kept ++ [domain]) rest
      else addDomains kept rest

/-- `loadResolvConf`, given what `ClientConfigFromFile` makes of the file: the configuration
with `Attempts` and `Timeout` at least one, and the local domains. -/
def loadResolvConf (config : Config) (parsed : Except String ClientConfig) :
    Except String (ClientConfig × List String) :=
  if config.resolvConfPath.length = 0 then .error (me ++ ": Empty resolv.conf path is invalid")
  else
    match parsed with
    | .error err => .error (me ++ ": " ++ err)
    | .ok resolverConfig =>
        let resolverConfig := { resolverConfig with
          attempts := if resolverConfig.attempts ≤ 0 then 1 else resolverConfig.attempts,
          timeout := if resolverConfig.timeout ≤ 0 then 1 else resolverConfig.timeout }
        (addDomains [] (resolverConfig.search ++ config.localDomains)).map
          fun domains => (resolverConfig, domains)

/-- The name `New` gives a name server: IPv6 addresses bracketed, then the port. -/
def serverName (port server : String) : String :=
  (if ':' ∈ server.data then "[" ++ server ++ "]" else server) ++ ":" ++ port

/-- `New`, given what `ClientConfigFromFile` makes of the configured file. -/
def New (config : Config) (parsed : Except String ClientConfig) : Except String Local :=
  match loadResolvConf config parsed with
  | .error err => .error err
  | .ok (resolverConfig, domains) =>
      let servers := (resolverConfig.servers.map (serverName resolverConfig.port)).enum.map
        fun (index, name) => BestServer.mk index name
      match Traditional.NewTraditional BestServer.name servers with
      | .error err => .error (me ++ ":Loading '" ++ config.resolvConfPath ++ "' " ++ err)
      | .ok bestServer =>
          .ok ⟨config, resolverConfig.attempts, resolverConfig.timeout, domains, bestServer⟩

/-! ## The local domains

`loadResolvConf`'s loop keeps, in order of first appearance, the guarded form of every
non-empty search domain and `LocalDomains` entry, and stops at the first one with a double dot.
`loadResolvConf_domains` says so over every configuration. -/

/-- What one entry does to the domain loop: an error for a double dot, the guarded entry
added unless already kept, or, for an empty entry, nothing. -/
theorem addDomains_cons {kept : List String} {domain : String} {rest : List String}
    {result : Except String (List String)} (added : addDomains kept (domain :: rest) = result) :
    (0 < domain.length ∧ hasDoubleDot (guardDomain domain).data = true ∧
        result = .error (me ++ ": Double dots in local domain name: " ++ guardDomain domain)) ∨
      (0 < domain.length ∧ hasDoubleDot (guardDomain domain).data = false ∧
        addDomains (if guardDomain domain ∈ kept then kept else kept ++ [guardDomain domain]) rest =
          result) ∨
      (domain.length = 0 ∧ addDomains kept rest = result) := by
  subst added
  by_cases nonempty : 0 < domain.length
  · cases bad : hasDoubleDot (guardDomain domain).data
    · exact .inr (.inl ⟨nonempty, rfl, by simp only [addDomains, gt_iff_lt, nonempty, bad]; rfl⟩)
    · exact .inl ⟨nonempty, rfl, by simp only [addDomains, gt_iff_lt, nonempty, bad]; rfl⟩
  · exact .inr (.inr ⟨by omega, by simp only [addDomains, gt_iff_lt, nonempty]; rfl⟩)

theorem mem_dedupe {kept : List String} {g d : String} :
    d ∈ (if g ∈ kept then kept else kept ++ [g]) ↔ d ∈ kept ∨ g = d := by
  split_ifs with seen
  · exact ⟨.inl, fun | .inl h => h | .inr rfl => seen⟩
  · simp [eq_comm]

theorem nodup_dedupe {kept : List String} (g : String) (nodup : kept.Nodup) :
    (if g ∈ kept then kept else kept ++ [g]).Nodup := by
  split_ifs with seen
  · exact nodup
  · exact nodup.append (List.nodup_singleton g) (List.disjoint_singleton.mpr seen)


section Domains

variable {kept domains entries : List String}

theorem mem_addDomains (added : addDomains kept entries = .ok domains) (d : String) :
    d ∈ domains ↔ d ∈ kept ∨ ∃ e ∈ entries, 0 < e.length ∧ guardDomain e = d := by
  induction entries generalizing kept with
  | nil => cases added; simp
  | cons e rest ih =>
      rcases addDomains_cons added with ⟨-, -, failed⟩ | ⟨nonempty, -, next⟩ | ⟨empty, next⟩
      · cases failed
      · rw [ih next, mem_dedupe]
        simp [nonempty, or_assoc]
      · rw [ih next]
        simp [empty]

theorem nodup_addDomains (added : addDomains kept entries = .ok domains) (nodup : kept.Nodup) :
    domains.Nodup := by
  induction entries generalizing kept with
  | nil => cases added; exact nodup
  | cons e rest ih =>
      rcases addDomains_cons added with ⟨-, -, failed⟩ | ⟨-, -, next⟩ | ⟨-, next⟩
      · cases failed
      · exact ih next (nodup_dedupe _ nodup)
      · exact ih next nodup

theorem addDomains_eq_error {msg : String} (failed : addDomains kept entries = .error msg) :
    ∃ e ∈ entries, 0 < e.length ∧ hasDoubleDot (guardDomain e).data = true ∧
      msg = me ++ ": Double dots in local domain name: " ++ guardDomain e := by
  induction entries generalizing kept with
  | nil => cases failed
  | cons e rest ih =>
      rcases addDomains_cons failed with ⟨nonempty, bad, named⟩ | ⟨-, -, next⟩ | ⟨-, next⟩
      · cases named
        exact ⟨e, List.mem_cons_self _ _, nonempty, bad, rfl⟩
      all_goals
        obtain ⟨e', mem, found⟩ := ih next
        exact ⟨e', List.mem_cons_of_mem _ mem, found⟩

theorem addDomains_clean (added : addDomains kept entries = .ok domains) :
    ∀ e ∈ entries, 0 < e.length → hasDoubleDot (guardDomain e).data = false := by
  induction entries generalizing kept with
  | nil => exact fun _ absent => nomatch absent
  | cons e rest ih =>
      rw [List.forall_mem_cons]
      rcases addDomains_cons added with ⟨-, -, failed⟩ | ⟨-, clean, next⟩ | ⟨empty, next⟩
      · cases failed
      · exact ⟨fun _ => clean, ih next⟩
      · exact ⟨fun nonempty => absurd empty (by omega), ih next⟩

theorem addDomains_isOk
    (clean : ∀ e ∈ entries, 0 < e.length → hasDoubleDot (guardDomain e).data = false) :
    ∃ domains, addDomains kept entries = .ok domains := by
  induction entries generalizing kept with
  | nil => exact ⟨kept, rfl⟩
  | cons e rest ih =>
      have clean' := fun e' mem => clean e' (List.mem_cons_of_mem _ mem)
      rcases addDomains_cons (rfl : addDomains kept (e :: rest) = _) with
        ⟨nonempty, bad, -⟩ | ⟨-, -, next⟩ | ⟨-, next⟩
      · simp [clean e (List.mem_cons_self _ _) nonempty] at bad
      all_goals
        rw [← next]
        exact ih clean'

end Domains

/-- A guarded domain begins with a dot. -/
theorem head_guardDomain (domain : String) : (guardDomain domain).data.head? = some '.' := by
  unfold guardDomain
  dsimp only
  split_ifs with unguarded <;> simp_all [List.head?_append]

/-- A guarded domain ends with a dot. -/
theorem getLast_guardDomain (domain : String) : (guardDomain domain).data.getLast? = some '.' := by
  unfold guardDomain
  dsimp only
  split_ifs with front back back
  · exact List.getLast?_concat ('.' :: (ToLower domain).data)
  · simpa using back
  · exact List.getLast?_concat (ToLower domain).data
  · simpa using back

/-- The lower-case entry stands whole inside its guarded form. -/
theorem infix_guardDomain (domain : String) : (ToLower domain).data <:+: (guardDomain domain).data := by
  unfold guardDomain
  dsimp only
  split_ifs
  · exact List.infix_append ['.'] _ ['.']
  · exact (List.suffix_cons '.' _).isInfix
  · exact (List.prefix_append _ ['.']).isInfix
  · exact List.infix_refl _

/-- The only non-empty entry whose guarded form is one character long is ".". -/
theorem guardDomain_eq_dot {domain : String} (nonempty : 0 < domain.length) :
    guardDomain domain = "." ↔ domain = "." := by
  constructor
  · intro dot
    have inside := infix_guardDomain domain
    rw [dot] at inside
    obtain ⟨_ | ⟨c, _ | ⟨c', rest⟩⟩⟩ := domain
    · cases nonempty
    · have lowered : [Unicode.ToLower c] = ['.'] := inside.eq_of_length rfl
      rw [Unicode.ToLower_eq_dot (List.head_eq_of_cons_eq lowered)]
    · have := inside.length_le
      simp [ToLower] at this
  · rintro rfl
    rfl

/-- `loadResolvConf` on a parsed file: the domain loop over the search domains and then the
`LocalDomains`. -/
theorem loadResolvConf_ok (config : Config) (resolverConfig : ClientConfig)
    (named : 0 < config.resolvConfPath.length) :
    ∃ loadedConfig, loadResolvConf config (.ok resolverConfig) =
      (addDomains [] (resolverConfig.search ++ config.localDomains)).map (Prod.mk loadedConfig) :=
  ⟨_, by rw [loadResolvConf, if_neg (Nat.pos_iff_ne_zero.mp named)]⟩

/-- The domains of a resolver `New` makes: the domain loop over the parsed file's search domains
and the `LocalDomains`. -/
theorem New_domains {config : Config} {parsed : Except String ClientConfig} {t : Local}
    (created : New config parsed = .ok t) :
    ∃ resolverConfig, parsed = .ok resolverConfig ∧ 0 < config.resolvConfPath.length ∧
      addDomains [] (resolverConfig.search ++ config.localDomains) = .ok t.domains := by
  unfold New at created
  split at created
  · cases created
  · rename_i loaded
    dsimp only at created
    split at created
    · cases created
    · cases created
      unfold loadResolvConf at loaded
      split_ifs at loaded with empty
      split at loaded
      · cases loaded
      · refine ⟨_, rfl, Nat.pos_of_ne_zero empty, ?_⟩
        dsimp only at loaded
        cases added : addDomains [] _ <;> rw [added] at loaded <;> cases loaded
        rfl

/-- The manager of a resolver `New` makes is reachable: `NewTraditional` made it. -/
theorem New_reachable {config : Config} {parsed : Except String ClientConfig} {t : Local}
    (created : New config parsed = .ok t) : t.bestServer.Reachable := by
  unfold New at created
  split at created
  · cases created
  · dsimp only at created
    split at created
    · cases created
    · rename_i made
      cases created
      exact .new made

/-- **`loadResolvConf` keeps exactly the guarded non-empty domains**: it succeeds on a parsed
file exactly when the path is non-empty and no non-empty search or `LocalDomains` entry, lower
case and guarded, holds a double dot, and otherwise names such an entry; the domains it keeps
are distinct, each begins and ends with a dot and holds no double dot, and they are the guarded
forms of the non-empty entries. -/
theorem loadResolvConf_domains (config : Config) (resolverConfig : ClientConfig) :
    ((∃ loaded, loadResolvConf config (.ok resolverConfig) = .ok loaded) ↔
        0 < config.resolvConfPath.length ∧
          ∀ e ∈ resolverConfig.search ++ config.localDomains, 0 < e.length →
            hasDoubleDot (guardDomain e).data = false) ∧
      (∀ loaded, loadResolvConf config (.ok resolverConfig) = .ok loaded →
        loaded.2.Nodup ∧
          (∀ d, d ∈ loaded.2 ↔
            ∃ e ∈ resolverConfig.search ++ config.localDomains, 0 < e.length ∧ guardDomain e = d) ∧
          ∀ d ∈ loaded.2, d.data.head? = some '.' ∧ d.data.getLast? = some '.' ∧
            hasDoubleDot d.data = false) ∧
      (∀ msg, 0 < config.resolvConfPath.length →
        loadResolvConf config (.ok resolverConfig) = .error msg →
        ∃ e ∈ resolverConfig.search ++ config.localDomains, 0 < e.length ∧
          hasDoubleDot (guardDomain e).data = true ∧
          msg = me ++ ": Double dots in local domain name: " ++ guardDomain e) := by
  by_cases named : 0 < config.resolvConfPath.length
  · obtain ⟨loadedConfig, load⟩ := loadResolvConf_ok config resolverConfig named
    rw [load]
    cases added : addDomains [] (resolverConfig.search ++ config.localDomains) with
    | error msg =>
        obtain ⟨e, entry, nonempty, bad, message⟩ := addDomains_eq_error added
        refine ⟨iff_of_false (fun ⟨_, ok⟩ => (nomatch ok))
          (fun ⟨_, clean⟩ => by simp [clean e entry nonempty] at bad),
          fun _ ok => (nomatch ok), fun _ _ failed => ?_⟩
        cases failed
        exact ⟨e, entry, nonempty, bad, message⟩
    | ok domains =>
        have clean := addDomains_clean added
        refine ⟨iff_of_true ⟨_, rfl⟩ ⟨named, clean⟩, fun loaded ok => ?_,
          fun _ _ failed => (nomatch failed)⟩
        cases ok
        have mem := mem_addDomains added
        refine ⟨nodup_addDomains added List.nodup_nil, fun d => by simpa using mem d,
          fun d kept => ?_⟩
        obtain ⟨e, entry, nonempty, rfl⟩ : ∃ e ∈ resolverConfig.search ++ config.localDomains,
            0 < e.length ∧ guardDomain e = d := by simpa using (mem d).mp kept
        exact ⟨head_guardDomain e, getLast_guardDomain e, clean e entry nonempty⟩
  · have empty : loadResolvConf config (.ok resolverConfig) =
        .error (me ++ ": Empty resolv.conf path is invalid") := by
      rw [loadResolvConf, if_pos (Nat.eq_zero_of_not_pos named)]
    rw [empty]
    exact ⟨iff_of_false (fun ⟨_, ok⟩ => (nomatch ok)) (fun ⟨unnamed, _⟩ => named unnamed),
      fun _ ok => (nomatch ok), fun _ unnamed => absurd unnamed named⟩

theorem loadResolvConf_domains_dedupe :
    ∃ loaded, loadResolvConf ⟨"/etc/resolv.conf", ["Corp.Example", ""]⟩
        (.ok ⟨["192.0.2.1"], ["corp.example."], "53", 2, 5⟩) = .ok loaded ∧
      loaded.2 = [".corp.example."] ∧ loaded.2.Nodup :=
  ⟨_, rfl, rfl, ((loadResolvConf_domains ⟨"/etc/resolv.conf", ["Corp.Example", ""]⟩
    ⟨["192.0.2.1"], ["corp.example."], "53", 2, 5⟩).2.1 _ rfl).1⟩

/-! ## `InBailiwick` -/

/-- `InBailiwick`: a name without a dot is local when any domain is; any other name is local
when, lower case and guarded by dots, it ends with a local domain. -/
def InBailiwick (t : Local) (qName : String) : Bool :=
  if '.' ∉ qName.data then t.domains.length > 0
  else
    let qName := "." ++ ToLower qName
    let qName := if qName.data.getLast? ≠ some '.' then qName ++ "." else qName
    t.domains.any fun d => d.data.isSuffixOf qName.data

/-- The name `InBailiwick` compares with the domains: lower case, with a dot before it, and one
after it unless it ends with one. -/
def guardName (qName : String) : String :=
  let qName := "." ++ ToLower qName
  if qName.data.getLast? ≠ some '.' then qName ++ "." else qName

/-- A name is in bailiwick when some domain is, and, if the name has a dot, ends its guarded
form. -/
theorem InBailiwick_iff (t : Local) (qName : String) :
    InBailiwick t qName = true ↔
      ∃ d ∈ t.domains, '.' ∈ qName.data → d.data <:+ (guardName qName).data := by
  by_cases dotted : '.' ∈ qName.data
  · rw [InBailiwick, if_neg (not_not.mpr dotted)]
    show (t.domains.any fun d => d.data.isSuffixOf (guardName qName).data) = true ↔ _
    simp [dotted]
  · rw [InBailiwick, if_pos dotted]
    simpa [dotted, List.length_pos] using
      ⟨List.exists_mem_of_ne_nil _, fun ⟨_, mem⟩ => List.ne_nil_of_mem mem⟩

/-! ## `InBailiwickDomains` -/

/-- The slice `d[1:len(d)-1]` that trims a domain's guard dots. On a domain of fewer than two
characters it panics, with Go's message. -/
def trimGuards (d : String) : Except String String :=
  match d.data with
  | [] => .error "runtime error: slice bounds out of range [:-1]"
  | [_] => .error "runtime error: slice bounds out of range [1:0]"
  | _ :: rest => .ok ⟨rest.dropLast⟩

/-- `InBailiwickDomains`: the domains with their guard dots trimmed. -/
def InBailiwickDomains (t : Local) : Except String (List String) :=
  t.domains.mapM trimGuards

/-- Over domains that begin with a dot, the trimming panics exactly when one of them is ".". -/
theorem mapM_trimGuards (ds : List String) (guarded : ∀ d ∈ ds, d.data.head? = some '.') :
    ds.mapM trimGuards =
      if "." ∈ ds then .error "runtime error: slice bounds out of range [1:0]"
      else .ok (ds.map fun d => ⟨(d.data.drop 1).dropLast⟩) := by
  induction ds with
  | nil => rfl
  | cons d rest ih =>
      rcases d with ⟨_ | ⟨c, chars⟩⟩
      · cases guarded _ (List.mem_cons_self _ _)
      · have dot : c = '.' := by simpa using guarded _ (List.mem_cons_self _ _)
        subst dot
        rw [List.mapM_cons, ih fun d mem => guarded d (List.mem_cons_of_mem _ mem)]
        cases chars with
        | nil => rfl
        | cons c' chars =>
            have other : (⟨'.' :: c' :: chars⟩ : String) ≠ "." := fun same =>
              nomatch congrArg String.data same
            by_cases root : "." ∈ rest
            · rw [if_pos root, if_pos (List.mem_cons_of_mem _ root)]
              rfl
            · rw [if_neg root, if_neg fun mem => (List.mem_cons.mp mem).elim (Ne.symm other) root]
              rfl

/-! ## `Resolve` -/

/-- What one `Exchange` call returns: the reply or the error, and the round-trip time. -/
structure Exchanged where
  reply : Except String Msg
  rtt : Int

/-- The exchangers one `Resolve` call creates and the clock it reads: what the UDP and the TCP
exchange of the `k`-th attempt with a server return, and what `time.Now()` reads when that
attempt is reported to the manager. -/
structure Exchanger where
  udp : Nat → String → Exchanged
  tcp : Nat → String → Exchanged
  now : Nat → Int

/-- The exchanges of one attempt: the reply `Resolve` goes on with, the round-trip time of the
exchanges made, whether the TCP fallback ran and whether its reply replaced the UDP one. -/
structure Attempt where
  reply : Except String Msg
  rtt : Int
  tcpFallback : Bool
  tcpSuperior : Bool

/-- The `k`-th attempt's exchanges with the server named `name`. -/
def Exchanger.attempt (ex : Exchanger) (k : Nat) (name : String) : Attempt :=
  let udp := ex.udp k name
  match udp.reply with
  | .ok r =>
      if r.hdr.rcode = RcodeSuccess ∧ r.hdr.truncated then
        let tcp := ex.tcp k name
        match tcp.reply with
        | .ok tcpReply =>
            if tcpReply.hdr.rcode = RcodeSuccess then ⟨.ok tcpReply, udp.rtt + tcp.rtt, true, true⟩
            else ⟨.ok r, udp.rtt + tcp.rtt, true, false⟩
        | .error _ => ⟨.ok r, udp.rtt + tcp.rtt, true, false⟩
      else ⟨.ok r, udp.rtt, false, false⟩
  | .error err => ⟨.error err, udp.rtt, false, false⟩

/-- How `Resolve`'s `switch` judges an attempt: the success it reports to the manager and
whether it tries again. -/
structure Verdict where
  bsSuccess : Bool
  iterate : Bool

/-- `Resolve`'s `switch`. -/
def classify : Except String Msg → Verdict
  | .error _ => ⟨false, true⟩
  | .ok r =>
      if r.hdr.rcode = RcodeSuccess then ⟨true, false⟩
      else if r.hdr.rcode = RcodeFormatError then ⟨true, false⟩
      else if r.hdr.rcode = RcodeServerFailure then ⟨false, true⟩
      else if r.hdr.rcode = RcodeNameError then ⟨true, false⟩
      else if r.hdr.rcode = RcodeRefused then ⟨false, true⟩
      else if r.hdr.rcode = RcodeNotImplemented then ⟨true, true⟩
      else ⟨true, false⟩

/-- The `Exchange` calls of an attempt with the server named `name`: network (`""` for UDP)
and server. -/
def Attempt.exchanges (tried : Attempt) (name : String) : List (String × String) :=
  ("", name) :: if tried.tcpFallback then [(DNSTransportTCP, name)] else []

/-- The metadata after an attempt with the server named `name`. -/
def Attempt.note (tried : Attempt) (name : String) (respMeta : ResponseMetaData) :
    ResponseMetaData :=
  { respMeta with
    serverTries := respMeta.serverTries + 1, finalServerUsed := name,
    transportType := if tried.tcpSuperior then DNSTransportTCP else DNSTransportUDP,
    queryTries := respMeta.queryTries + if tried.tcpFallback then 2 else 1 }

/-- What a resolution leaves: the manager after the `Result` calls, the `Exchange` calls made,
and the reply with its metadata or the error. -/
structure Outcome where
  bestServer : Traditional BestServer
  exchanges : List (String × String)
  reply : Except String (Msg × ResponseMetaData)

/-- The loop of `Resolve` at attempt `attempt`, with `remaining` attempts left, `timeUsed`
nanoseconds of round trips so far and the metadata so far. `Best`'s `none` stands for the
panic of an out-of-range read, which no well-formed manager makes. -/
def attempts (t : Local) (ex : Exchanger) (timeAvailable : Int) :
    Nat → Nat → Traditional BestServer → List (String × String) → Int → ResponseMetaData →
      Outcome
  | 0, _, bestServer, exchanges, _, _ =>
      ⟨bestServer, exchanges, .error (me ++ ":Query attempts exceeded: " ++ toString t.attempts)⟩
  | remaining + 1, attempt, bestServer, exchanges, timeUsed, respMeta =>
      match bestServer.Best with
      | none => ⟨bestServer, exchanges, .error "runtime error: index out of range"⟩
      | some (server, _) =>
          let tried := ex.attempt attempt server.name
          let exchanges := exchanges ++ tried.exchanges server.name
          let respMeta := tried.note server.name respMeta
          let verdict := classify tried.reply
          let timeUsed := timeUsed + tried.rtt
          let bestServer :=
            (bestServer.Result server verdict.bsSuccess (ex.now attempt) tried.rtt).1
          match tried.reply, verdict.iterate with
          | .ok r, false =>
              ⟨bestServer, exchanges,
                .ok (r, { respMeta with resolutionDuration := timeUsed, payloadSize := r.Len })⟩
          | _, _ =>
              if timeUsed > timeAvailable then
                ⟨bestServer, exchanges,
                  .error (me ++ ": Query timeout: " ++ toString t.timeout ++ "s")⟩
              else attempts t ex timeAvailable remaining (attempt + 1) bestServer exchanges timeUsed
                respMeta

/-- `Resolve`: at most one attempt per server, and `Timeout` seconds of round trips, as the
`time.Duration` product `time.Second * time.Duration(Timeout)` holds them: wrapped to `int64`. -/
def Resolve (t : Local) (ex : Exchanger) (qMeta : QueryMetaData) : Outcome :=
  let maxAttempts :=
    if t.attempts > t.bestServer.servers.length then (t.bestServer.servers.length : Int)
    else t.attempts
  attempts t ex (Go.mul64 1000000000 t.timeout) maxAttempts.toNat 1 t.bestServer [] 0
    ⟨qMeta.transportType, 1, 0, 0, 0, 0, ""⟩

/-- The attempt loop leaves a reachable manager reachable: each attempt is one `Result` call. -/
theorem attempts_reachable (t : Local) (ex : Exchanger) (timeAvailable : Int) (remaining : Nat) :
    ∀ attempt bestServer exchanges timeUsed respMeta, Traditional.Reachable bestServer →
      (attempts t ex timeAvailable remaining attempt bestServer exchanges timeUsed
        respMeta).bestServer.Reachable := by
  induction remaining with
  | zero => exact fun _ _ _ _ _ reachable => reachable
  | succ remaining ih =>
      intro attempt bestServer exchanges timeUsed respMeta reachable
      unfold attempts
      split
      · exact reachable
      · rename_i server _ _
        have next := reachable.step ⟨server,
          (classify (ex.attempt attempt server.name).reply).bsSuccess, ex.now attempt,
          (ex.attempt attempt server.name).rtt⟩
        dsimp only
        split
        · exact next
        · split_ifs
          · exact next
          · exact ih _ _ _ _ _ next

/-- `Resolve` leaves a reachable manager reachable. -/
theorem Resolve_reachable {t : Local} (reachable : t.bestServer.Reachable) (ex : Exchanger)
    (qMeta : QueryMetaData) : (Resolve t ex qMeta).bestServer.Reachable :=
  attempts_reachable t ex _ _ _ _ _ _ _ reachable

/-! ## An attempt as `res_send`'s contract describes it -/

/-- Whether a UDP reply calls for the TCP fallback: a truncated NOERROR. -/
def fallsBack (udp : Exchanged) : Bool :=
  match udp.reply with
  | .ok r => r.hdr.rcode == RcodeSuccess && r.hdr.truncated
  | .error _ => false

/-- The effective reply of an attempt, and whether it is the TCP one: the TCP reply when the
fallback ran and returned NOERROR, the UDP reply otherwise. -/
def effectiveReply (udp tcp : Exchanged) : Except String Msg × Bool :=
  if fallsBack udp then
    match tcp.reply with
    | .ok tcpReply =>
        if tcpReply.hdr.rcode = RcodeSuccess then (.ok tcpReply, true) else (udp.reply, false)
    | .error _ => (udp.reply, false)
  else (udp.reply, false)

/-- The round-trip time of an attempt: the UDP exchange's, and the TCP one's after a
fallback. -/
def attemptRtt (udp tcp : Exchanged) : Int :=
  if fallsBack udp then udp.rtt + tcp.rtt else udp.rtt

/-- Whether a reply ends the resolution: the exchange succeeded, with an RCODE other than
SERVFAIL, REFUSED and NOTIMP. -/
def ends : Except String Msg → Bool
  | .ok r =>
      r.hdr.rcode != RcodeServerFailure && r.hdr.rcode != RcodeRefused &&
        r.hdr.rcode != RcodeNotImplemented
  | .error _ => false

/-- A reply that ends the resolution is a message. -/
theorem exists_ok_of_ends {reply : Except String Msg} (ending : ends reply = true) :
    ∃ r, reply = .ok r := by
  cases reply with
  | ok r => exact ⟨r, rfl⟩
  | error err => cases ending

/-- An attempt's exchanges are its effective reply, its round trips, the fallback and whether
the TCP reply won. -/
theorem Exchanger.attempt_eq (ex : Exchanger) (k : Nat) (name : String) :
    ex.attempt k name =
      ⟨(effectiveReply (ex.udp k name) (ex.tcp k name)).1, attemptRtt (ex.udp k name) (ex.tcp k name),
        fallsBack (ex.udp k name), (effectiveReply (ex.udp k name) (ex.tcp k name)).2⟩ := by
  unfold Exchanger.attempt effectiveReply attemptRtt fallsBack
  dsimp only
  cases (ex.udp k name).reply with
  | error err => rfl
  | ok r =>
      by_cases fallback : r.hdr.rcode = RcodeSuccess ∧ r.hdr.truncated = true
      · have flag : (r.hdr.rcode == RcodeSuccess && r.hdr.truncated) = true := by simpa using fallback
        simp only [fallback, and_self, if_true, flag]
        cases (ex.tcp k name).reply with
        | error err => rfl
        | ok tcpReply => by_cases good : tcpReply.hdr.rcode = RcodeSuccess <;> simp [good]
      · have flag : (r.hdr.rcode == RcodeSuccess && r.hdr.truncated) = false := by simpa using fallback
        simp only [fallback, if_false, flag, Bool.false_eq_true]

/-- `Resolve` tries again exactly after a reply that does not end the resolution. -/
theorem classify_iterate (reply : Except String Msg) : (classify reply).iterate = !ends reply := by
  cases reply with
  | error err => rfl
  | ok r =>
      simp only [classify, ends]
      split_ifs <;> simp_all [RcodeSuccess, RcodeFormatError, RcodeServerFailure, RcodeNameError,
        RcodeRefused, RcodeNotImplemented]

section Turn

variable {t : Local} {ex : Exchanger} {timeAvailable : Int} {remaining attempt : Nat}
  {bestServer : Traditional BestServer} {exchanges : List (String × String)} {timeUsed : Int}
  {respMeta : ResponseMetaData} {server : BestServer} {index : Int} {tried : Attempt}

/-- A turn whose reply ends the resolution returns it. -/
theorem attempts_of_ends (best : bestServer.Best = some (server, index))
    (exchanged : ex.attempt attempt server.name = tried) {r : Msg} (replied : tried.reply = .ok r)
    (ending : ends (.ok r) = true) :
    attempts t ex timeAvailable (remaining + 1) attempt bestServer exchanges timeUsed respMeta =
      ⟨(bestServer.Result server (classify tried.reply).bsSuccess (ex.now attempt) tried.rtt).1,
        exchanges ++ tried.exchanges server.name,
        .ok (r, { tried.note server.name respMeta with
          resolutionDuration := timeUsed + tried.rtt, payloadSize := r.Len })⟩ := by
  have stop : (classify (.ok r)).iterate = false := by rw [classify_iterate, ending]; rfl
  simp only [attempts, best, exchanged, replied, stop]

/-- A turn whose reply does not end the resolution, after which the round trips exceed the
budget, fails with `Query timeout`. -/
theorem attempts_eq_of_timeout (best : bestServer.Best = some (server, index))
    (exchanged : ex.attempt attempt server.name = tried) (failing : ends tried.reply = false)
    (over : timeAvailable < timeUsed + tried.rtt) :
    attempts t ex timeAvailable (remaining + 1) attempt bestServer exchanges timeUsed respMeta =
      ⟨(bestServer.Result server (classify tried.reply).bsSuccess (ex.now attempt) tried.rtt).1,
        exchanges ++ tried.exchanges server.name,
        .error (me ++ ": Query timeout: " ++ toString t.timeout ++ "s")⟩ := by
  have again : (classify tried.reply).iterate = true := by rw [classify_iterate, failing]; rfl
  simp only [attempts, best, exchanged, again]
  cases tried.reply <;> simp [over]

/-- A turn whose reply does not end the resolution, within the budget, goes on to the next
attempt. -/
theorem attempts_of_retry (best : bestServer.Best = some (server, index))
    (exchanged : ex.attempt attempt server.name = tried) (failing : ends tried.reply = false)
    (within : timeUsed + tried.rtt ≤ timeAvailable) :
    attempts t ex timeAvailable (remaining + 1) attempt bestServer exchanges timeUsed respMeta =
      attempts t ex timeAvailable remaining (attempt + 1)
        (bestServer.Result server (classify tried.reply).bsSuccess (ex.now attempt) tried.rtt).1
        (exchanges ++ tried.exchanges server.name) (timeUsed + tried.rtt)
        (tried.note server.name respMeta) := by
  have again : (classify tried.reply).iterate = true := by rw [classify_iterate, failing]; rfl
  have notOver : ¬ timeAvailable < timeUsed + tried.rtt := not_lt.mpr within
  simp only [attempts, best, exchanged, again]
  cases tried.reply <;> simp [notOver]

end Turn

/-! ## The loop against `res_send`'s contract -/

/-- Exchangers whose outcomes form a sequence: the `k`-th attempt's exchanges return the same
whichever server they go to. -/
def Exchanger.ofSequence (udp tcp : Nat → Exchanged) (now : Nat → Int) : Exchanger :=
  ⟨fun k _ => udp k, fun k _ => tcp k, now⟩

section Contract

variable (t : Local) (udp tcp : Nat → Exchanged) (now : Nat → Int) (budget : Int)

theorem Exchanger.ofSequence_attempt (k : Nat) (name : String) :
    (Exchanger.ofSequence udp tcp now).attempt k name =
      ⟨(effectiveReply (udp k) (tcp k)).1, attemptRtt (udp k) (tcp k), fallsBack (udp k),
        (effectiveReply (udp k) (tcp k)).2⟩ :=
  Exchanger.attempt_eq _ k name

end Contract

/-- The servers of the `Exchange` calls made over UDP, in order. -/
def udpServers (exchanges : List (String × String)) : List String :=
  (exchanges.filter fun exchange => exchange.1 == "").map Prod.snd

/-- The name of the server `i` places into a manager's list, round-robin. -/
def nameAt (bestServer : Traditional BestServer) (i : Nat) : String :=
  (bestServer.servers.map BestServer.name).getD (i % bestServer.servers.length) ""

@[simp] theorem udpServers_append (first second : List (String × String)) :
    udpServers (first ++ second) = udpServers first ++ udpServers second := by
  simp [udpServers]

@[simp] theorem udpServers_exchanges (tried : Attempt) (name : String) :
    udpServers (tried.exchanges name) = [name] := by
  unfold udpServers Attempt.exchanges
  cases tried.tcpFallback <;> rfl

/-- A reply that does not end the resolution and is not NOTIMP is reported as a failure. -/
theorem classify_bsSuccess_of_failing {reply : Except String Msg} (failing : ends reply = false)
    (implemented : ∀ r, reply = .ok r → r.hdr.rcode ≠ RcodeNotImplemented) :
    (classify reply).bsSuccess = false := by
  cases reply with
  | error err => rfl
  | ok r =>
      have := implemented r rfl
      simp only [ends, classify, RcodeSuccess, RcodeFormatError, RcodeServerFailure,
        RcodeNameError, RcodeRefused, RcodeNotImplemented] at failing this ⊢
      split_ifs <;> simp_all

/-- Round-robin positions `b + i` for `i < n` are distinct modulo `n`. -/
theorem eq_of_add_mod_eq {b i j n : Nat} (hi : i < n) (hj : j < n)
    (same : (b + i) % n = (b + j) % n) : i = j := by
  have forward := Nat.sub_mod_eq_zero_of_mod_eq same
  have backward := Nat.sub_mod_eq_zero_of_mod_eq same.symm
  rw [Nat.add_sub_add_left, Nat.mod_eq_of_lt (by omega)] at forward backward
  omega

/-- A well-formed manager's best server is the one `nameAt` names at its best index. -/
theorem nameAt_of_best {bestServer : Traditional BestServer} (valid : bestServer.Valid)
    {server : BestServer} (atBest : bestServer.servers.get? bestServer.bestIndex.toNat = some server) :
    server.name = nameAt bestServer bestServer.bestIndex.toNat := by
  have nonneg := valid.bestIndex_nonneg
  have below := valid.bestIndex_lt
  rw [valid.count] at below
  unfold nameAt
  rw [Nat.mod_eq_of_lt (by omega), List.getD_eq_getElem?_getD, List.getElem?_map,
    ← List.get?_eq_getElem?, atBest]
  rfl

/-- The best index after a failure of the best server, as a position of the list. -/
theorem toNat_rem_succ {bestServer : Traditional BestServer}
    (valid : bestServer.Valid) :
    (Go.rem (bestServer.bestIndex + 1) bestServer.serverCount).toNat =
      (bestServer.bestIndex.toNat + 1) % bestServer.servers.length := by
  have nonneg := valid.bestIndex_nonneg
  have positive : (0 : Int) < bestServer.servers.length := by
    have := valid.bestIndex_lt
    rw [valid.count] at this
    omega
  rw [valid.count, Go.rem_eq_emod (by omega) (by omega),
    show bestServer.bestIndex + 1 = ((bestServer.bestIndex.toNat + 1 : Nat) : Int) by omega,
    ← Int.ofNat_emod, Int.toNat_ofNat]

/-- After a failure of the best server the round robin goes on from the next position. -/
theorem nameAt_after_failure {bestServer : Traditional BestServer} (valid : bestServer.Valid)
    {server : BestServer} {index : Int} (best : bestServer.Best = some (server, index))
    (now latency : Int) (i : Nat) :
    nameAt (bestServer.Result server false now latency).1
        ((bestServer.Result server false now latency).1.bestIndex.toNat + i) =
      nameAt bestServer (bestServer.bestIndex.toNat + (i + 1)) := by
  rw [Traditional.result_best_failure valid best, toNat_rem_succ valid]
  simp only [nameAt, Traditional.result_servers, Nat.mod_add_mod, Nat.add_right_comm _ 1,
    Nat.add_assoc]

section Servers

variable (t : Local) (udp tcp : Nat → Exchanged) (now : Nat → Int) (budget : Int)
  (implemented : ∀ k r, (effectiveReply (udp k) (tcp k)).1 = .ok r →
    r.hdr.rcode ≠ RcodeNotImplemented)
include implemented

/-- **Without NOTIMP, the attempts go round the servers**: from a manager whose best is `b`,
the loop exchanges over UDP with the servers `b, b + 1, …` round-robin, one per attempt and at
most `remaining` of them, and a reply it returns counts them in `ServerTries`. -/
theorem attempts_udpServers (remaining attempt : Nat) (bestServer : Traditional BestServer)
    (exchanges : List (String × String)) (timeUsed : Int) (respMeta : ResponseMetaData)
    (valid : bestServer.Valid) :
    ∃ m ≤ remaining,
      udpServers (attempts t (.ofSequence udp tcp now) budget remaining attempt bestServer exchanges
          timeUsed respMeta).exchanges =
        udpServers exchanges ++
          (List.range m).map (fun i => nameAt bestServer (bestServer.bestIndex.toNat + i)) ∧
      ∀ r meta, (attempts t (.ofSequence udp tcp now) budget remaining attempt bestServer exchanges
          timeUsed respMeta).reply = .ok (r, meta) → meta.serverTries = respMeta.serverTries + m := by
  induction remaining generalizing attempt bestServer exchanges timeUsed respMeta with
  | zero => exact ⟨0, le_refl 0, by simp [attempts], fun r meta replied => by cases replied⟩
  | succ remaining ih =>
      obtain ⟨server, best, atBest⟩ := valid.best_spec
      have named := nameAt_of_best valid atBest
      set tried : Attempt := ⟨(effectiveReply (udp attempt) (tcp attempt)).1,
        attemptRtt (udp attempt) (tcp attempt), fallsBack (udp attempt),
        (effectiveReply (udp attempt) (tcp attempt)).2⟩
      have exchanged : (Exchanger.ofSequence udp tcp now).attempt attempt server.name = tried :=
        Exchanger.ofSequence_attempt udp tcp now attempt server.name
      have first : udpServers (exchanges ++ tried.exchanges server.name) =
          udpServers exchanges ++ (List.range 1).map
            (fun i => nameAt bestServer (bestServer.bestIndex.toNat + i)) := by
        rw [udpServers_append, udpServers_exchanges, named]
        rfl
      by_cases ending : ends tried.reply = true
      · obtain ⟨r, replied⟩ := exists_ok_of_ends ending
        rw [attempts_of_ends best exchanged replied (replied ▸ ending)]
        refine ⟨1, by omega, first, fun r' meta done => ?_⟩
        obtain ⟨-, rfl⟩ := Prod.mk.inj (Except.ok.inj done)
        rfl
      · have failing : ends tried.reply = false := by simpa using ending
        by_cases over : budget < timeUsed + tried.rtt
        · rw [attempts_eq_of_timeout best exchanged failing over]
          exact ⟨1, by omega, first, fun r meta done => by cases done⟩
        · rw [attempts_of_retry best exchanged failing (not_lt.mp over),
            classify_bsSuccess_of_failing failing (implemented attempt)]
          obtain ⟨m, fewer, servers, counted⟩ := ih (attempt + 1)
            (bestServer.Result server false ((Exchanger.ofSequence udp tcp now).now attempt)
              tried.rtt).1
            (exchanges ++ tried.exchanges server.name) (timeUsed + tried.rtt)
            (tried.note server.name respMeta) (valid.step ⟨server, false, now attempt, tried.rtt⟩)
          refine ⟨m + 1, by omega, ?_, fun r meta done => ?_⟩
          · rw [servers, udpServers_append, udpServers_exchanges, List.range_succ_eq_map]
            simp only [List.map_cons, List.map_map, Nat.add_zero, ← named, List.append_assoc,
              List.singleton_append, Function.comp_def, nameAt_after_failure valid best]
          · rw [counted r meta done]
            simp only [Attempt.note]
            omega

/-- **Without NOTIMP, `Resolve` tries each server at most once**: for a resolver with a
well-formed manager whose name servers are distinct, and every sequence of attempt outcomes
none of whose effective replies is NOTIMP, the servers of the UDP exchanges are pairwise
distinct, and a reply's `ServerTries` is their number. -/
theorem resolveTriesDistinctServers {t : Local} (valid : t.bestServer.Valid)
    (distinct : (t.bestServer.servers.map BestServer.name).Nodup) (qMeta : QueryMetaData) :
    (udpServers (Resolve t (.ofSequence udp tcp now) qMeta).exchanges).Nodup ∧
      ∀ r respMeta, (Resolve t (.ofSequence udp tcp now) qMeta).reply = .ok (r, respMeta) →
        respMeta.serverTries =
          (udpServers (Resolve t (.ofSequence udp tcp now) qMeta).exchanges).length := by
  have capped : (if t.attempts > t.bestServer.servers.length then
      (t.bestServer.servers.length : Int) else t.attempts).toNat ≤ t.bestServer.servers.length := by
    split_ifs <;> omega
  obtain ⟨m, fewer, servers, counted⟩ := attempts_udpServers t udp tcp now
    (Go.mul64 1000000000 t.timeout) implemented _ 1 t.bestServer [] 0
    ⟨qMeta.transportType, 1, 0, 0, 0, 0, ""⟩ valid
  have within := le_trans fewer capped
  unfold Resolve
  refine ⟨?_, fun r respMeta replied => ?_⟩
  · rw [servers]
    refine List.Nodup.map_on (fun i member j member' same => ?_) (List.nodup_range m)
    rw [List.mem_range] at member member'
    unfold nameAt at same
    have length := List.length_map t.bestServer.servers BestServer.name
    have positive : 0 < t.bestServer.servers.length := by omega
    rw [List.getD_eq_getElem _ _ (by rw [length]; exact Nat.mod_lt _ positive),
      List.getD_eq_getElem _ _ (by rw [length]; exact Nat.mod_lt _ positive),
      List.Nodup.getElem_inj_iff distinct] at same
    exact eq_of_add_mod_eq (by omega) (by omega) same
  · rw [counted r respMeta replied, servers]
    simp [udpServers]

end Servers

/-- Two servers that both answer SERVFAIL: the attempts go to each once. -/
theorem resolveTriesDistinctServers_servfail :
    udpServers (Resolve ⟨⟨"/etc/resolv.conf", []⟩, 2, 5, [],
        ⟨[⟨0, "192.0.2.1:53"⟩, ⟨1, "192.0.2.2:53"⟩], 2, 0⟩⟩
      (.ofSequence (fun _ => ⟨.ok ⟨⟨7, OpcodeQuery, false, RcodeServerFailure⟩, [], [], [], []⟩, 10⟩)
        (fun _ => ⟨.error "unused", 0⟩) fun _ => 0) ⟨DNSTransportUDP⟩).exchanges =
        ["192.0.2.1:53", "192.0.2.2:53"] ∧
      (udpServers (Resolve ⟨⟨"/etc/resolv.conf", []⟩, 2, 5, [],
        ⟨[⟨0, "192.0.2.1:53"⟩, ⟨1, "192.0.2.2:53"⟩], 2, 0⟩⟩
      (.ofSequence (fun _ => ⟨.ok ⟨⟨7, OpcodeQuery, false, RcodeServerFailure⟩, [], [], [], []⟩, 10⟩)
        (fun _ => ⟨.error "unused", 0⟩) fun _ => 0) ⟨DNSTransportUDP⟩).exchanges).Nodup :=
  ⟨rfl, (resolveTriesDistinctServers
    (fun _ => ⟨.ok ⟨⟨7, OpcodeQuery, false, RcodeServerFailure⟩, [], [], [], []⟩, 10⟩)
    (fun _ => ⟨.error "unused", 0⟩) (fun _ => 0) (fun _ _ replied => by cases replied; decide)
    ⟨by decide, rfl, by simp, le_refl 0, by decide⟩ (by decide) ⟨DNSTransportUDP⟩).1⟩

/-! ## Retrying after NOTIMP -/

/-- **A NOTIMP reply is retried on the same server**: `Resolve` reports NOTIMP to the manager as a
success, so the traditional best does not move, and the second attempt goes to the server that
just answered NOTIMP. Two attempts reach one server, and `ServerTries` counts two. -/
theorem notImplementedRetriesSameServer :
    ∃ t, New ⟨"/etc/resolv.conf", []⟩ (.ok ⟨["192.0.2.1", "192.0.2.2"], [], "53", 2, 5⟩) = .ok t ∧
      (Resolve t ⟨fun k _ => ⟨.ok ⟨⟨7, OpcodeQuery, false,
          if k = 1 then RcodeNotImplemented else RcodeSuccess⟩, [], [], [], []⟩, 10⟩,
        fun _ _ => ⟨.error "unused", 0⟩, fun _ => 0⟩ ⟨DNSTransportUDP⟩).exchanges =
        [("", "192.0.2.1:53"), ("", "192.0.2.1:53")] ∧
      (Resolve t ⟨fun k _ => ⟨.ok ⟨⟨7, OpcodeQuery, false,
          if k = 1 then RcodeNotImplemented else RcodeSuccess⟩, [], [], [], []⟩, 10⟩,
        fun _ _ => ⟨.error "unused", 0⟩, fun _ => 0⟩ ⟨DNSTransportUDP⟩).reply.map
        (·.2.serverTries) = .ok 2 :=
  ⟨_, rfl, rfl, rfl⟩

/-! ## Label boundaries -/

/-- The labels of a presentation-format name: the text split at the dots that no backslash
escapes, so that `\.` is a dot inside a label. -/
def labels : List Char → List (List Char)
  | [] => [[]]
  | '\\' :: c :: rest =>
      match labels rest with
      | l :: ls => ('\\' :: c :: l) :: ls
      | [] => [['\\', c]]
  | '.' :: rest => [] :: labels rest
  | c :: rest =>
      match labels rest with
      | l :: ls => (c :: l) :: ls
      | [] => [[c]]

/-- **An escaped dot counts as a label boundary**: with the local domain `example.com`, the
name `a\.example.com`, whose labels are `a\.example` and `com`, is in bailiwick, although the
domain's labels `example`, `com` are not a suffix of its labels. `InBailiwick` compares guarded
texts, and the escaped dot of the name passes for the guard dot before `example`. -/
theorem escapedDotMatchesAcrossLabels :
    ∃ t, New ⟨"/etc/resolv.conf", ["example.com"]⟩ (.ok ⟨["192.0.2.1"], [], "53", 2, 5⟩) = .ok t ∧
      InBailiwick t "a\\.example.com" = true ∧
      labels "a\\.example.com".data = ["a\\.example".data, "com".data] ∧
      ¬ labels "example.com".data <:+ labels "a\\.example.com".data :=
  ⟨_, rfl, rfl, by decide, by decide⟩

end Trustydns.LocalResolver
