import Trustydns.Foundation.Go
import Mathlib.Data.List.Nodup

/-! # Best-server collections: the shared base

`bestserver.baseManager` holds the server list fixed at construction, the map from a server
back to its position, and the index of the current best server. `init` rejects an empty or
repeated list, and `Best` reads the list at the best index. Both selection algorithms
(`Trustydns.BestServer.Traditional`, `Trustydns.BestServer.Latency`) are built on it.
-/

namespace Trustydns.BestServer

variable {Server : Type} [DecidableEq Server]

/-- The first server of a list that repeats one seen before it: the server `baseManager.init`
reports while it fills `serverToIndex`. -/
def firstDuplicate : List Server → List Server → Option Server
  | _, [] => none
  | seen, server :: rest =>
      if server ∈ seen then some server else firstDuplicate (server :: seen) rest

/-- `baseManager.init`: an empty list and a repeated server are rejected. -/
def init (name : Server → String) (servers : List Server) : Except String Unit :=
  if servers.isEmpty then .error "bestserver:No servers in list"
  else
    match firstDuplicate [] servers with
    | some server => .error ("bestserver.New: Duplicate Server in list: " ++ name server)
    | none => .ok ()

/-- `serverToIndex`: the position of a server in the list, as the map built by `init` holds
it for a list without repeats. -/
def serverToIndex (servers : List Server) (server : Server) : Option Nat :=
  servers.indexOf? server

/-- `baseManager.Best`: the server at `bestIndex` together with the index; `none` stands
for the panic of Go's out-of-range slice read. -/
def best (servers : List Server) (bestIndex : Int) : Option (Server × Int) :=
  if 0 ≤ bestIndex then (servers.get? bestIndex.toNat).map fun server => (server, bestIndex)
  else none

/-- One `Result` call of a caller: the server it was given by `Best`, the outcome, the time
of the report and the measured latency (both in nanoseconds). -/
structure Call (Server : Type) where
  server : Server
  success : Bool
  now : Int
  latency : Int

theorem firstDuplicate_eq_none_iff (seen servers : List Server) :
    firstDuplicate seen servers = none ↔ servers.Nodup ∧ ∀ server ∈ servers, server ∉ seen := by
  induction servers generalizing seen with
  | nil => simp [firstDuplicate]
  | cons server rest ih =>
      by_cases repeated : server ∈ seen
      · simp [firstDuplicate, repeated]
      · simp only [firstDuplicate, repeated, ↓reduceIte, ih, List.nodup_cons, List.forall_mem_cons]
        simp only [List.mem_cons, not_or]
        constructor
        · rintro ⟨nodup, fresh⟩
          exact ⟨⟨fun member => (fresh server member).1 rfl, nodup⟩, not_false,
            fun other member => (fresh other member).2⟩
        · rintro ⟨⟨notMem, nodup⟩, -, fresh⟩
          exact ⟨nodup, fun other member =>
            ⟨fun same => notMem (same ▸ member), fresh other member⟩⟩

/-- **`init` accepts exactly the non-empty lists without repeats.** -/
theorem init_eq_ok_iff (name : Server → String) (servers : List Server) :
    init name servers = .ok () ↔ servers ≠ [] ∧ servers.Nodup := by
  unfold init
  cases servers with
  | nil => simp
  | cons server rest =>
      have spec := firstDuplicate_eq_none_iff [] (server :: rest)
      cases duplicate : firstDuplicate [] (server :: rest) with
      | none => simp_all
      | some repeated =>
          simp only [List.isEmpty_cons, Bool.false_eq_true, ↓reduceIte, ne_eq,
            reduceCtorEq, not_false_eq_true, true_and, false_iff]
          intro nodup
          simp [nodup] at spec
          simp [spec] at duplicate

/-- A server found by `serverToIndex` sits at the index found. -/
theorem serverToIndex_spec {servers : List Server} {server : Server} {ix : Nat}
    (found : serverToIndex servers server = some ix) :
    ix < servers.length ∧ servers.get? ix = some server := by
  obtain ⟨bound, same, -⟩ := List.findIdx?_eq_some_iff_getElem.mp found
  refine ⟨bound, ?_⟩
  rw [List.get?_eq_getElem? , List.getElem?_eq_getElem bound]
  simpa using same

/-- Every server of the list is found by `serverToIndex`. -/
theorem serverToIndex_isSome {servers : List Server} {server : Server}
    (member : server ∈ servers) : (serverToIndex servers server).isSome := by
  unfold serverToIndex List.indexOf?
  rw [List.findIdx?_isSome]
  exact List.any_eq_true.mpr ⟨server, member, by simp⟩

omit [DecidableEq Server] in
/-- In a list without repeats a position determines its server. -/
theorem index_eq_of_get? {servers : List Server} (nodup : servers.Nodup) {i j : Nat}
    {server : Server} (first : servers.get? i = some server)
    (second : servers.get? j = some server) : i = j := by
  rw [List.get?_eq_getElem?] at first second
  obtain ⟨hi, rfl⟩ := List.getElem?_eq_some_iff.mp first
  obtain ⟨hj, same⟩ := List.getElem?_eq_some_iff.mp second
  exact (List.Nodup.getElem_inj_iff nodup).mp same.symm

omit [DecidableEq Server] in
/-- **`Best` reads the list at any index in range**, and the pair it returns satisfies
`Servers()[index] == server`. -/
theorem best_of_mem_range {servers : List Server} {bestIndex : Int}
    (nonneg : 0 ≤ bestIndex) (below : bestIndex < servers.length) :
    ∃ server, best servers bestIndex = some (server, bestIndex) ∧
      servers.get? bestIndex.toNat = some server := by
  have inRange : bestIndex.toNat < servers.length := by omega
  refine ⟨servers[bestIndex.toNat], ?_, ?_⟩ <;>
    simp [best, nonneg, List.getElem?_eq_getElem inRange]

end Trustydns.BestServer
