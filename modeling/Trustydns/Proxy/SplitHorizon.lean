import Trustydns.Proxy.Server
import Trustydns.Resolver.Local

/-! # Split-horizon routing in the proxy

The proxy resolves some names with the name servers of a `resolv.conf` rather than over DoH.
`mainExecute` sets a local resolver up when `-c` names the file (`localResolverSetup`), and
`ServeDNS` hands it every query whose first question's name is in its bailiwick
(`routesLocal`, `serveRouted`).

`serveRouted_split_horizon` says which queries go to the local resolver in terms of the
configuration alone: a name with a dot when, lower case and guarded by dots, it ends with a
non-empty search domain or `-e` entry guarded the same way; a name without a dot as soon as one
such entry exists. `localResolverSetup_eq` says when the setup panics: exactly when one of the
entries is ".", whose guarded form `InBailiwickDomains` cannot trim.
-/

namespace Trustydns.Proxy

open Trustydns.Dns Trustydns.Constants Trustydns.Resolver Trustydns.LocalResolver

/-- The local resolver `mainExecute` sets up from `-c` (`localResolvConf`) and `-e`
(`localDomains`), given what `ClientConfigFromFile` makes of the file: none without `-c`, a fatal
error for `-e` without `-c` or when `local.New` fails, and the panic of `InBailiwickDomains`,
whose result only the verbose log prints. -/
def localResolverSetup (localResolvConf : String) (localDomains : List String)
    (parsed : Except String ClientConfig) : Except String (Option Local) :=
  if localResolvConf.length = 0 ∧ localDomains.length > 0 then
    .error "Local Domains (-e) cannot be resolved without a resolv.conf (-c)"
  else if localResolvConf.length > 0 then
    match New ⟨localResolvConf, localDomains⟩ parsed with
    | .error err => .error err
    | .ok lr => (InBailiwickDomains lr).map fun _ => some lr
  else .ok none

/-- Whether `ServeDNS` hands a query to the local resolver: there is one, the query has a
question, and the first question's name is in the resolver's bailiwick. -/
def routesLocal (localResolver : Option Local) (query : Msg) : Bool :=
  match localResolver, query.question with
  | some lr, q :: _ => InBailiwick lr q.name
  | _, _ => false

/-- `ServeDNS` with the resolver it picks: `resolveLocal` when `routesLocal` holds, the DoH
resolver `resolveRemote` otherwise. -/
def serveRouted (transport : String) (wire : Wire) (localResolver : Option Local)
    (resolveLocal resolveRemote : Msg → Msg × Except String (Msg × ResponseMetaData))
    (query : Msg) : Option Msg :=
  ServeDNS transport wire (if routesLocal localResolver query then resolveLocal else resolveRemote)
    query

/-! ## The setup -/

/-- A setup that succeeds with `-c` gives the resolver `local.New` makes; without `-c` it gives
none. -/
theorem localResolverSetup_eq_ok {localResolvConf : String} {localDomains : List String}
    {parsed : Except String ClientConfig} {localResolver : Option Local}
    (setup : localResolverSetup localResolvConf localDomains parsed = .ok localResolver) :
    (0 < localResolvConf.length ∧ ∃ lr, New ⟨localResolvConf, localDomains⟩ parsed = .ok lr ∧
        localResolver = some lr) ∨
      (localResolvConf.length = 0 ∧ localResolver = none) := by
  unfold localResolverSetup at setup
  split_ifs at setup with orphan named
  · split at setup
    · cases setup
    · rename_i lr created
      cases trimmed : InBailiwickDomains lr <;> rw [trimmed] at setup <;> cases setup
      exact .inl ⟨named, lr, created, rfl⟩
  · cases setup
    exact .inr ⟨by omega, rfl⟩

/-- The domains of a resolver `New` makes begin with a dot. -/
theorem New_guarded {config : Config} {parsed : Except String ClientConfig} {lr : Local}
    (created : New config parsed = .ok lr) : ∀ d ∈ lr.domains, d.data.head? = some '.' := by
  obtain ⟨_, -, -, added⟩ := New_domains created
  intro d kept
  obtain ⟨e, -, -, rfl⟩ := by simpa using (mem_addDomains added d).mp kept
  exact head_guardDomain e

/-- **The setup panics exactly when "." is a local domain**: for every `resolv.conf` and `-e`
list that `local.New` accepts, `InBailiwickDomains` panics on the slice `[1:0]` when a search
domain or `-e` entry is ".", whose guarded form is one character long, and the setup gives the
resolver otherwise. -/
theorem localResolverSetup_eq {localResolvConf : String} {localDomains : List String}
    {resolverConfig : ClientConfig} {lr : Local}
    (created : New ⟨localResolvConf, localDomains⟩ (.ok resolverConfig) = .ok lr) :
    localResolverSetup localResolvConf localDomains (.ok resolverConfig) =
      if "." ∈ resolverConfig.search ++ localDomains then
        .error "runtime error: slice bounds out of range [1:0]"
      else .ok (some lr) := by
  obtain ⟨_, parsed, named, added⟩ := New_domains created
  cases parsed
  have named : 0 < localResolvConf.length := named
  have root : "." ∈ lr.domains ↔ "." ∈ resolverConfig.search ++ localDomains := by
    rw [mem_addDomains added]
    constructor
    · rintro (absent | ⟨e, entry, nonempty, dot⟩)
      · cases absent
      · rwa [← (guardDomain_eq_dot nonempty).mp dot]
    · exact fun entry => .inr ⟨".", entry, by decide, rfl⟩
  have trimmed := mapM_trimGuards lr.domains (New_guarded created)
  rw [localResolverSetup, if_neg fun orphan => absurd orphan.1 (by omega), if_pos named, created]
  show (lr.domains.mapM trimGuards).map _ = _
  rw [trimmed]
  by_cases dotted : "." ∈ resolverConfig.search ++ localDomains
  · rw [if_pos (root.mpr dotted), if_pos dotted]
    rfl
  · rw [if_neg (mt root.mp dotted), if_neg dotted]
    rfl

theorem localResolverSetup_root_domain :
    localResolverSetup "/etc/resolv.conf" ["."] (.ok ⟨["192.0.2.1"], [], "53", 2, 5⟩) =
      .error "runtime error: slice bounds out of range [1:0]" :=
  (@localResolverSetup_eq "/etc/resolv.conf" ["."] ⟨["192.0.2.1"], [], "53", 2, 5⟩ _ rfl).trans
    (if_pos (by decide))

/-! ## The routing -/

/-- With the local resolver the setup gives, `ServeDNS` picks it exactly when `-c` names a file
that parses, the query has a question, and some non-empty search domain or `-e` entry, guarded,
ends the first question's guarded name, or that name has no dot. -/
theorem routesLocal_iff {localResolvConf : String} {localDomains : List String}
    {parsed : Except String ClientConfig} {localResolver : Option Local}
    (setup : localResolverSetup localResolvConf localDomains parsed = .ok localResolver)
    (query : Msg) :
    routesLocal localResolver query = true ↔
      ∃ resolverConfig, parsed = .ok resolverConfig ∧ 0 < localResolvConf.length ∧
        ∃ q ∈ query.question.head?, ∃ e ∈ resolverConfig.search ++ localDomains,
          0 < e.length ∧ ('.' ∈ q.name.data → (guardDomain e).data <:+ (guardName q.name).data) := by
  rcases localResolverSetup_eq_ok setup with ⟨named, lr, created, rfl⟩ | ⟨unnamed, rfl⟩
  · obtain ⟨resolverConfig, rfl, -, added⟩ := New_domains created
    rcases query with ⟨hdr, _ | ⟨q, questions⟩, answer, ns, extra⟩
    · simp [routesLocal]
    · show InBailiwick lr q.name = true ↔ _
      rw [InBailiwick_iff]
      constructor
      · rintro ⟨d, kept, ends⟩
        obtain ⟨e, entry, nonempty, rfl⟩ : ∃ e ∈ resolverConfig.search ++ localDomains,
            0 < e.length ∧ guardDomain e = d := by simpa using (mem_addDomains added d).mp kept
        exact ⟨resolverConfig, rfl, named, q, rfl, e, entry, nonempty, ends⟩
      · rintro ⟨_, ⟨⟩, -, _, ⟨⟩, e, entry, nonempty, ends⟩
        exact ⟨guardDomain e, (mem_addDomains added _).mpr (.inr ⟨e, entry, nonempty, rfl⟩), ends⟩
  · simp [routesLocal, unnamed]

/-- **Which queries the proxy resolves locally**: with the local resolver the setup gives,
`ServeDNS` hands a query to it exactly when `-c` names a file that parses, the query has a
question, and some non-empty search domain or `-e` entry, lower case and guarded by dots, ends
the first question's name guarded the same way, or the name has no dot; every other query goes
to the DoH resolver. -/
theorem serveRouted_split_horizon {localResolvConf : String} {localDomains : List String}
    {parsed : Except String ClientConfig} {localResolver : Option Local}
    (setup : localResolverSetup localResolvConf localDomains parsed = .ok localResolver)
    (transport : String) (wire : Wire)
    (resolveLocal resolveRemote : Msg → Msg × Except String (Msg × ResponseMetaData))
    (query : Msg) :
    ((∃ resolverConfig, parsed = .ok resolverConfig ∧ 0 < localResolvConf.length ∧
        ∃ q ∈ query.question.head?, ∃ e ∈ resolverConfig.search ++ localDomains,
          0 < e.length ∧ ('.' ∈ q.name.data → (guardDomain e).data <:+ (guardName q.name).data)) →
      serveRouted transport wire localResolver resolveLocal resolveRemote query =
        ServeDNS transport wire resolveLocal query) ∧
    (¬ (∃ resolverConfig, parsed = .ok resolverConfig ∧ 0 < localResolvConf.length ∧
        ∃ q ∈ query.question.head?, ∃ e ∈ resolverConfig.search ++ localDomains,
          0 < e.length ∧ ('.' ∈ q.name.data → (guardDomain e).data <:+ (guardName q.name).data)) →
      serveRouted transport wire localResolver resolveLocal resolveRemote query =
        ServeDNS transport wire resolveRemote query) := by
  rw [← routesLocal_iff setup]
  refine ⟨fun routed => ?_, fun routed => ?_⟩
  · rw [serveRouted, if_pos routed]
  · rw [serveRouted, if_neg routed]

theorem serveRouted_split_horizon_search :
    ∃ localResolver, localResolverSetup "/etc/resolv.conf" [] (.ok ⟨["192.0.2.1"], ["corp.example."],
        "53", 2, 5⟩) = .ok localResolver ∧
      serveRouted DNSUDPTransport ⟨fun _ => .ok [], fun _ => .error "", fun m _ => m⟩ localResolver
          (fun q => (q, .error "local")) (fun q => (q, .error "remote"))
          ⟨⟨7, OpcodeQuery, false, 0⟩, [⟨"Host.Corp.Example", 1, ClassINET⟩], [], [], []⟩ =
        ServeDNS DNSUDPTransport ⟨fun _ => .ok [], fun _ => .error "", fun m _ => m⟩
          (fun q => (q, .error "local"))
          ⟨⟨7, OpcodeQuery, false, 0⟩, [⟨"Host.Corp.Example", 1, ClassINET⟩], [], [], []⟩ :=
  ⟨_, rfl, (@serveRouted_split_horizon "/etc/resolv.conf" [] (.ok ⟨["192.0.2.1"], ["corp.example."],
    "53", 2, 5⟩) _ rfl _ _ _ _ _).1 ⟨_, rfl, by decide, _, rfl, "corp.example.", by decide, by decide,
      fun _ => by decide⟩⟩

end Trustydns.Proxy
