import Trustydns.BestServer.Base

/-! # The traditional best-server algorithm

`bestserver.traditional` fails over as `res_send` does: the best server stays the best until
a failure is reported for it, and then the next server of the list, round-robin, takes its
place. Successes and reports on other servers change nothing.

A manager reachable from `NewTraditional` keeps its best index inside the list
(`Trustydns.BestServer.Traditional.Reachable.valid`), and a failure reported for any server
leaves the best on another server (`Trustydns.BestServer.Traditional.best_ne_of_failure`).
-/

namespace Trustydns.BestServer

/-- The state of a `traditional` manager: the `baseManager` fields it uses. -/
structure Traditional (Server : Type) where
  servers : List Server
  serverCount : Int
  bestIndex : Int

namespace Traditional

variable {Server : Type} [DecidableEq Server]

/-- `NewTraditional`: `init`, then a manager whose best is the first server. -/
def NewTraditional (name : Server → String) (servers : List Server) :
    Except String (Traditional Server) :=
  match init name servers with
  | .error message => .error message
  | .ok () => .ok { servers, serverCount := servers.length, bestIndex := 0 }

/-- `Best` of a traditional manager. -/
def Best (t : Traditional Server) : Option (Server × Int) :=
  best t.servers t.bestIndex

/-- `traditional.Result`: a failure of the best server moves the best to the next one. -/
def Result (t : Traditional Server) (server : Server) (success : Bool) (_now _latency : Int) :
    Traditional Server × Bool :=
  match serverToIndex t.servers server with
  | none => (t, false)
  | some ix =>
      if success then (t, true)
      else if (ix : Int) = t.bestIndex then
        ({ t with bestIndex := Go.rem (t.bestIndex + 1) t.serverCount }, true)
      else (t, true)

/-- The manager after one caller's `Result` call. -/
def step (t : Traditional Server) (call : Call Server) : Traditional Server :=
  (t.Result call.server call.success call.now call.latency).1

/-- Managers reachable from `NewTraditional` by `Result` calls with any arguments, in any
order: the interleavings of every set of callers. -/
inductive Reachable : Traditional Server → Prop
  | new {name : Server → String} {servers : List Server} {t : Traditional Server} :
      NewTraditional name servers = .ok t → Reachable t
  | step {t : Traditional Server} (call : Call Server) : Reachable t → Reachable (t.step call)

/-- The well-formedness every reachable traditional manager keeps. -/
structure Valid (t : Traditional Server) : Prop where
  nodup : t.servers.Nodup
  count : t.serverCount = t.servers.length
  nonempty : t.servers ≠ []
  bestIndex_nonneg : 0 ≤ t.bestIndex
  bestIndex_lt : t.bestIndex < t.serverCount

theorem valid_newTraditional {name : Server → String} {servers : List Server}
    {t : Traditional Server} (created : NewTraditional name servers = .ok t) : t.Valid := by
  unfold NewTraditional at created
  cases accepted : init name servers with
  | error message => simp [accepted] at created
  | ok _ =>
      obtain ⟨nonempty, nodup⟩ := (init_eq_ok_iff name servers).mp accepted
      simp only [accepted, Except.ok.injEq] at created
      subst created
      exact ⟨nodup, rfl, nonempty, le_refl 0, by simpa [List.length_pos] using nonempty⟩

@[simp] theorem result_servers (t : Traditional Server) (server : Server) (success : Bool)
    (now latency : Int) : (t.Result server success now latency).1.servers = t.servers := by
  unfold Result; split <;> (try split) <;> (try split) <;> rfl

@[simp] theorem result_serverCount (t : Traditional Server) (server : Server) (success : Bool)
    (now latency : Int) : (t.Result server success now latency).1.serverCount = t.serverCount := by
  unfold Result; split <;> (try split) <;> (try split) <;> rfl

/-- A failure report for a server of the list moves the best index exactly when that server
is the best. -/
theorem result_failure {t : Traditional Server} {server : Server} {ix : Nat}
    (found : serverToIndex t.servers server = some ix) (now latency : Int) :
    t.Result server false now latency =
      (if (ix : Int) = t.bestIndex then { t with bestIndex := Go.rem (t.bestIndex + 1) t.serverCount }
        else t, true) := by
  unfold Result
  split_ifs <;> simp_all

/-- What one `Result` call does: nothing, or, on a failure of the best server, the best
index moves on round-robin. -/
theorem result_cases (t : Traditional Server) (server : Server) (success : Bool)
    (now latency : Int) :
    (t.Result server success now latency).1 = t ∨
      (serverToIndex t.servers server = some t.bestIndex.toNat ∧ 0 ≤ t.bestIndex ∧
        success = false ∧
        (t.Result server success now latency).1 =
          { t with bestIndex := Go.rem (t.bestIndex + 1) t.serverCount }) := by
  unfold Result
  cases found : serverToIndex t.servers server with
  | none => exact .inl rfl
  | some ix =>
      by_cases succeeded : success
      · simp [succeeded]
      · by_cases isBest : (ix : Int) = t.bestIndex
        · refine .inr ⟨by congr 1; omega, by omega, by simpa using succeeded, ?_⟩
          simp [succeeded, isBest]
        · simp [succeeded, isBest]

theorem Valid.step {t : Traditional Server} (valid : t.Valid) (call : Call Server) :
    (t.step call).Valid := by
  rcases result_cases t call.server call.success call.now call.latency with same | ⟨-, -, -, moved⟩
  · rwa [Traditional.step, same]
  · rw [Traditional.step, moved]
    have range := Go.rem_mem_range (show 0 ≤ t.bestIndex + 1 by have := valid.bestIndex_nonneg; omega)
      (lt_of_le_of_lt valid.bestIndex_nonneg valid.bestIndex_lt)
    exact { valid with bestIndex_nonneg := range.1, bestIndex_lt := range.2 }

/-- **Every reachable traditional manager is well formed.** -/
theorem Reachable.valid {t : Traditional Server} (reachable : t.Reachable) : t.Valid := by
  induction reachable with
  | new created => exact valid_newTraditional created
  | step call _ ih => exact ih.step call

omit [DecidableEq Server] in
/-- A well-formed manager's `Best` returns the server at its index. -/
theorem Valid.best_spec {t : Traditional Server} (valid : t.Valid) :
    ∃ server, t.Best = some (server, t.bestIndex) ∧
      t.servers.get? t.bestIndex.toNat = some server :=
  best_of_mem_range valid.bestIndex_nonneg (valid.count ▸ valid.bestIndex_lt)

/-- A failure reported for the server `Best` returns moves the best on round-robin. -/
theorem result_best_failure {t : Traditional Server} (valid : t.Valid) {server : Server}
    {index : Int} (best : t.Best = some (server, index)) (now latency : Int) :
    (t.Result server false now latency).1.bestIndex = Go.rem (t.bestIndex + 1) t.serverCount := by
  obtain ⟨current, bestEq, atBest⟩ := valid.best_spec
  rw [bestEq] at best
  obtain ⟨rfl, -⟩ := Prod.mk.inj (Option.some.inj best)
  obtain ⟨ix, found⟩ := Option.isSome_iff_exists.mp (serverToIndex_isSome (List.get?_mem atBest))
  have same := index_eq_of_get? valid.nodup (serverToIndex_spec found).2 atBest
  rw [result_failure found, if_pos (by have := valid.bestIndex_nonneg; omega)]

/-- **A failure reported for any server leaves the best on another server**, provided the
list has two servers or more. -/
theorem best_ne_of_failure {t : Traditional Server} (valid : t.Valid) (two : 2 ≤ t.serverCount)
    {server best : Server} {now latency index : Int}
    (accepted : (t.Result server false now latency).2 = true)
    (next : (t.Result server false now latency).1.Best = some (best, index)) :
    best ≠ server := by
  obtain ⟨ix, found⟩ : ∃ ix, serverToIndex t.servers server = some ix := by
    cases found : serverToIndex t.servers server with
    | none => simp [Result, found] at accepted
    | some ix => exact ⟨ix, rfl⟩
  have moved : (t.Result server false now latency).1.bestIndex ≠ ix := by
    rw [result_failure found]
    split_ifs with isBest
    · dsimp only
      rw [← isBest]
      exact Go.rem_succ_ne (by omega) (by rw [isBest]; exact valid.bestIndex_lt) two
    · exact Ne.symm isBest
  obtain ⟨current, bestEq, atBest⟩ := (valid.step ⟨server, false, now, latency⟩).best_spec
  change (t.step ⟨server, false, now, latency⟩).Best = _ at next
  rw [bestEq] at next
  obtain ⟨rfl, -⟩ := Prod.mk.inj (Option.some.inj next)
  intro same
  rw [same] at atBest
  have nonneg := (valid.step ⟨server, false, now, latency⟩).bestIndex_nonneg
  simp only [step, result_servers] at atBest nonneg
  have same := index_eq_of_get? valid.nodup atBest (serverToIndex_spec found).2
  exact moved (by omega)

end Traditional

end Trustydns.BestServer
