import Trustydns.Proxy.SplitHorizon
import Trustydns.BestServer.LatencyInvariant

/-! # The proxy over a run of queries

Between queries the proxy's state is the two resolvers that every listener's `server` shares: the
DoH `remote`, and the `local` one when `-c` names a `resolv.conf`. `ServeDNS` hands each query to the resolver `routesLocal`
picks, and apart from the statistics only `Report` reads, all a resolution changes is that
resolver's best-server manager, through its `Result` calls. `Server.serve` is one query and
`Server.run` a sequence of them.

Go serves each query in a goroutine of its own, and each manager takes its lock around `Best`
and `Result`. A manager's reachability is closed under `Result` calls with any arguments in any
order, so what is proved here of the managers a run leaves holds of those every interleaving
leaves as well.

`Server.run_keeps_resolvers` says what every run from the startup state keeps: both managers
well formed, so that `Best` never takes the branch of Go's out-of-range panic, the resolvers'
configuration, and the routing of every query.
-/

namespace Trustydns.Proxy

open Trustydns.Dns Trustydns.Constants Trustydns.Resolver Trustydns.LocalResolver
  Trustydns.BestServer

/-- The resolvers that the `server` of every listener shares: `local`, when there is one, and
`remote`. -/
structure Server where
  localResolver : Option Local
  remote : Doh.Remote

/-- One query as `ServeDNS` receives it, with what its resolution meets: the transport it came
over, the exchangers and clock of a local resolution, the HTTP client of a DoH one, and the
times at which a DoH resolution starts and its `Do` returns. -/
structure Query where
  transport : String
  query : Msg
  exchanger : Exchanger
  client : Doh.HTTPClient
  startTime : Int
  endTime : Int

/-- The local resolver as `ServeDNS` calls it: `Resolve` leaves the query as it is. -/
def localResolve (lr : Local) (ex : Exchanger) (transport : String) (query : Msg) :
    Msg × Except String (Msg × ResponseMetaData) :=
  (query, (Resolve lr ex ⟨transport⟩).reply)

namespace Server

/-- One `ServeDNS` call: the proxy with the manager of the resolver that served the query
advanced by the resolution's `Result` calls, and the reply written, if any. -/
def serve (p : Server) (wire : Wire) (q : Query) : Server × Option Msg :=
  match p.localResolver, routesLocal p.localResolver q.query with
  | some lr, true =>
      let outcome := Resolve lr q.exchanger ⟨q.transport⟩
      ({ p with localResolver := some { lr with bestServer := outcome.bestServer } },
        ServeDNS q.transport wire (localResolve lr q.exchanger q.transport) q.query)
  | _, _ =>
      let outcome := Doh.Resolve p.remote wire q.client q.query q.startTime q.endTime
      ({ p with remote := { p.remote with bestServer := p.remote.bestServer.run outcome.results } },
        ServeDNS q.transport wire (dohResolver p.remote wire q.client q.startTime q.endTime)
          q.query)

/-- `ServeDNS` over a sequence of queries, one after another. -/
def run (p : Server) (wire : Wire) : List Query → Server
  | [] => p
  | q :: rest => (p.serve wire q).1.run wire rest

/-- What one served query changes: the local resolver's manager when the routing picks it,
the remote's otherwise. -/
theorem serve_cases (p : Server) (wire : Wire) (q : Query) :
    (∃ lr, p.localResolver = some lr ∧ routesLocal p.localResolver q.query = true ∧
      (p.serve wire q).1 = { p with
        localResolver := some { lr with bestServer := (Resolve lr q.exchanger ⟨q.transport⟩).bestServer } }) ∨
    (p.serve wire q).1 = { p with
      remote := { p.remote with
        bestServer := p.remote.bestServer.run
          (Doh.Resolve p.remote wire q.client q.query q.startTime q.endTime).results } } := by
  unfold serve
  split
  · rename_i lr located routed
    exact .inl ⟨lr, located, routed, rfl⟩
  · exact .inr rfl

/-- The routing reads only the local resolver's domains. -/
theorem routesLocal_of_domains {lr lr' : Local} (domains : lr.domains = lr'.domains)
    (query : Msg) : routesLocal (some lr) query = routesLocal (some lr') query := by
  rcases query with ⟨_, _ | ⟨q, _⟩, _, _, _⟩
  · rfl
  · show InBailiwick lr q.name = InBailiwick lr' q.name
    rw [InBailiwick, InBailiwick, domains]

/-! ## What a run keeps -/

/-- What a run keeps of the proxy it starts from: the resolvers, all but their managers, and
managers reachable from their constructors. -/
structure Keeps (start p : Server) : Prop where
  remote : { p.remote with bestServer := start.remote.bestServer } = start.remote
  remoteReachable : p.remote.bestServer.Reachable
  localResolver :
    Option.Rel (fun lr lr0 => { lr with bestServer := lr0.bestServer } = lr0) p.localResolver
      start.localResolver
  localReachable : ∀ lr ∈ p.localResolver, lr.bestServer.Reachable

/-- The startup state keeps itself when both managers are reachable. -/
theorem Keeps.start {lr0 : Option Local} {remote0 : Doh.Remote}
    (remoteReachable : remote0.bestServer.Reachable)
    (localReachable : ∀ lr ∈ lr0, lr.bestServer.Reachable) :
    Keeps ⟨lr0, remote0⟩ ⟨lr0, remote0⟩ where
  remote := rfl
  remoteReachable := remoteReachable
  localResolver := match lr0 with
    | none => .none
    | some _ => .some rfl
  localReachable := localReachable

/-- The routing of a state a run keeps is the routing of the state it started from. -/
theorem Keeps.routesLocal_eq {start p : Server} (keeps : start.Keeps p) (query : Msg) :
    routesLocal p.localResolver query = routesLocal start.localResolver query := by
  obtain ⟨_, _⟩ := p
  obtain ⟨_, _⟩ := start
  obtain ⟨-, -, kept, -⟩ := keeps
  cases kept with
  | none => rfl
  | some same => exact routesLocal_of_domains (by rw [← same]) query

/-- One served query keeps what a run keeps. -/
theorem Keeps.serve {start p : Server} (keeps : start.Keeps p) (wire : Wire) (q : Query) :
    start.Keeps (p.serve wire q).1 := by
  obtain ⟨_, _⟩ := start
  obtain ⟨remoteKept, remoteReachable, localKept, localReachable⟩ := keeps
  rcases serve_cases p wire q with ⟨lr, located, -, served⟩ | served <;> rw [served]
  · refine ⟨remoteKept, remoteReachable, ?_, ?_⟩
    · rw [located] at localKept
      cases localKept with
      | some same => exact .some same
    · rintro _ ⟨⟩
      exact Resolve_reachable (localReachable lr located) _ _
  · exact ⟨remoteKept, remoteReachable.run _, localKept, localReachable⟩

/-- A run keeps what each served query keeps. -/
theorem Keeps.run {start p : Server} (keeps : start.Keeps p) (wire : Wire) (queries : List Query) :
    start.Keeps (p.run wire queries) := by
  induction queries generalizing p with
  | nil => exact keeps
  | cons q rest ih => exact ih (keeps.serve wire q)

/-- The resolvers the startup gives keep themselves: `local.New` and `doh.New` make reachable
managers. -/
theorem Keeps.startup {localResolvConf : String} {localDomains : List String}
    {parsed : Except String ClientConfig} {localResolver : Option Local} {config : Doh.Config}
    {remote : Doh.Remote}
    (setup : localResolverSetup localResolvConf localDomains parsed = .ok localResolver)
    (created : Doh.New config = .ok remote) :
    Keeps ⟨localResolver, remote⟩ ⟨localResolver, remote⟩ := by
  refine Keeps.start (Doh.New_reachable created) fun lr located => ?_
  rcases localResolverSetup_eq_ok setup with ⟨-, lr0, made, rfl⟩ | ⟨-, rfl⟩
  · cases located
    exact New_reachable made
  · cases located

/-! ## Every run -/

/-- **Every run keeps the proxy's resolvers sound**: from the resolvers the setup and `doh.New`
give at startup, over every sequence of served queries, both best-server managers stay well
formed, so that `Best` returns the server at the best index and never panics, the resolvers keep
everything but their managers, and every query is routed as it would have been at startup. -/
theorem run_keeps_resolvers {localResolvConf : String} {localDomains : List String}
    {parsed : Except String ClientConfig} {localResolver : Option Local} {config : Doh.Config}
    {remote : Doh.Remote}
    (setup : localResolverSetup localResolvConf localDomains parsed = .ok localResolver)
    (created : Doh.New config = .ok remote) (wire : Wire) (queries : List Query) :
    ((⟨localResolver, remote⟩ : Server).run wire queries).remote.bestServer.Valid ∧
      (∀ lr ∈ ((⟨localResolver, remote⟩ : Server).run wire queries).localResolver,
        lr.bestServer.Valid) ∧
      { ((⟨localResolver, remote⟩ : Server).run wire queries).remote with
          bestServer := remote.bestServer } = remote ∧
      Option.Rel (fun lr lr0 => { lr with bestServer := lr0.bestServer } = lr0)
        ((⟨localResolver, remote⟩ : Server).run wire queries).localResolver localResolver ∧
      ∀ query, routesLocal ((⟨localResolver, remote⟩ : Server).run wire queries).localResolver
        query = routesLocal localResolver query := by
  have keeps := (Keeps.startup setup created).run wire queries
  exact ⟨keeps.remoteReachable.valid, fun lr located => (keeps.localReachable lr located).valid,
    keeps.remote, keeps.localResolver, keeps.routesLocal_eq⟩

theorem run_keeps_resolvers_local_timeout :
    ∃ localResolver remote,
      localResolverSetup "/etc/resolv.conf" [] (.ok ⟨["192.0.2.1"], ["corp.example."], "53", 2, 5⟩) =
        .ok localResolver ∧
      Doh.New ⟨false, false, false, false, 0, 0, none, defaultLatencyConfig,
        ["https://dns.example/dns-query"]⟩ = .ok remote ∧
      ∀ lr ∈ ((⟨localResolver, remote⟩ : Server).run
          ⟨fun _ => .ok [], fun _ => .error "", fun m _ => m⟩
          [⟨DNSUDPTransport, ⟨⟨7, OpcodeQuery, false, 0⟩, [⟨"Host.Corp.Example", 1, ClassINET⟩], [],
              [], []⟩,
            ⟨fun _ _ => ⟨.error "i/o timeout", 5000000000⟩, fun _ _ => ⟨.error "", 0⟩, fun _ => 0⟩,
            ⟨fun _ _ => none, fun _ => .error "timeout"⟩, 100, 250⟩]).localResolver,
        lr.bestServer.Valid :=
  ⟨_, _, rfl, rfl, (@run_keeps_resolvers "/etc/resolv.conf" []
    (.ok ⟨["192.0.2.1"], ["corp.example."], "53", 2, 5⟩) _
    ⟨false, false, false, false, 0, 0, none, defaultLatencyConfig,
      ["https://dns.example/dns-query"]⟩ _ rfl rfl _ _).2.1⟩

end Server

end Trustydns.Proxy
