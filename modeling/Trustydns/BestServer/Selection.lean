import Trustydns.BestServer.Traditional
import Trustydns.BestServer.LatencyInvariant

/-! # What the managers select

Both managers keep every index inside the server list in every reachable state, so `Best`
never reads outside the list and the pair it returns matches `Servers()`
(`Trustydns.BestServer.reachable_indices_in_range`).

A failure report moves the traditional best off the failed server whichever server it names
(`Trustydns.BestServer.Traditional.reachable_best_ne_of_failure`). The latency manager does
so when the failed server is the current best
(`Trustydns.BestServer.Latency.reachable_best_ne_of_best_failure`), but not when it is the
saved best while a sample server is lent the best: `assess` then skips the reassessment and
reverts to the saved best (`Trustydns.BestServer.Latency.failedSavedBestReturned`), as `doc.go`
documents for a `Result` about a server other than the current best. The two together are what a
failure report guarantees of the next `Best()` (`Trustydns.BestServer.failedServerAvoided`).
-/

namespace Trustydns.BestServer

variable {Server : Type} [DecidableEq Server]

/-- **Both managers keep their indices inside the server list**, so `Best` never indexes
outside it and returns a server together with its index in `Servers()`. -/
theorem reachable_indices_in_range :
    (∀ t : Traditional Server, t.Reachable →
      (0 ≤ t.bestIndex ∧ t.bestIndex < t.servers.length) ∧
      ∃ server, t.Best = some (server, t.bestIndex) ∧
        t.servers.get? t.bestIndex.toNat = some server) ∧
    (∀ t : Latency Server, t.Reachable →
      (0 ≤ t.bestIndex ∧ t.bestIndex < t.servers.length) ∧
      (0 ≤ t.saveBestIndex ∧ t.saveBestIndex < t.servers.length) ∧
      (0 ≤ t.sampleIndex ∧ t.sampleIndex < t.servers.length) ∧
      ∃ server, t.Best = some (server, t.bestIndex) ∧
        t.servers.get? t.bestIndex.toNat = some server) := by
  constructor
  · intro t reachable
    have valid := reachable.valid
    exact ⟨⟨valid.bestIndex_nonneg, valid.count ▸ valid.bestIndex_lt⟩, valid.best_spec⟩
  · intro t reachable
    have valid := reachable.valid
    rw [← valid.count]
    exact ⟨valid.bestIndex_mem, valid.saveBestIndex_mem, valid.sampleIndex_mem, valid.best_spec⟩

namespace Traditional

/-- **A failure report moves the traditional best off the failed server**, for every
reachable manager of two servers or more and every server the report names. -/
theorem reachable_best_ne_of_failure {t : Traditional Server} (reachable : t.Reachable)
    (two : 2 ≤ t.servers.length) {server best : Server} {now latency index : Int}
    (accepted : (t.Result server false now latency).2 = true)
    (next : (t.Result server false now latency).1.Best = some (best, index)) :
    best ≠ server :=
  best_ne_of_failure reachable.valid (reachable.valid.count ▸ by exact_mod_cast two) accepted next

/-- Two fresh servers: a failure of the first moves the best to the second. -/
theorem reachable_best_ne_of_failure_two_servers :
    ∃ t : Traditional String, NewTraditional (fun name => name) ["a", "b"] = .ok t ∧
      (t.Result "a" false 0 0).2 = true ∧ (t.Result "a" false 0 0).1.Best = some ("b", 1) ∧
      "b" ≠ "a" :=
  ⟨⟨["a", "b"], 2, 0⟩, rfl, rfl, rfl,
    reachable_best_ne_of_failure
      (.new (rfl : NewTraditional (fun name => name) ["a", "b"] = .ok ⟨["a", "b"], 2, 0⟩))
      (by decide) (rfl : (Traditional.Result ⟨["a", "b"], 2, 0⟩ "a" false 0 0).2 = true)
      (rfl : (Traditional.Result ⟨["a", "b"], 2, 0⟩ "a" false 0 0).1.Best = some ("b", 1))⟩

end Traditional

namespace Latency

omit [DecidableEq Server]

section Avoid

variable (resetFailedAfter now : Int) (j : Nat)

/-- **A server that failed at `now` is neither rehabilitated nor picked by the loop of
`reassessBest`.** -/
theorem foldl_scanStep_avoids (nonneg : 0 ≤ resetFailedAfter) (indices : List Nat) (scan : Scan)
    (failing : (statsAt scan.stats j).lastStatusWasFailure = true)
    (recent : (statsAt scan.stats j).lastStatusTime = now) (avoid : scan.newBest ≠ j) :
    statsAt (indices.foldl (scanStep resetFailedAfter now) scan).stats j = statsAt scan.stats j ∧
      (indices.foldl (scanStep resetFailedAfter now) scan).newBest ≠ j := by
  induction indices generalizing scan with
  | nil => exact ⟨rfl, avoid⟩
  | cons ix rest ih =>
      rw [List.foldl_cons]
      suffices next : statsAt (scanStep resetFailedAfter now scan ix).stats j = statsAt scan.stats j ∧
          (scanStep resetFailedAfter now scan ix).newBest ≠ j by
        obtain ⟨kept, avoided⟩ := next
        obtain ⟨kept', avoided'⟩ := ih _ (kept ▸ failing) (kept ▸ recent) avoided
        exact ⟨kept'.trans kept, avoided'⟩
      rcases scanStep_cases resetFailedAfter now scan ix with
        same | ⟨-, due, reset⟩ | ⟨fine, _, picked⟩
      · rw [same]
        exact ⟨rfl, avoid⟩
      · have other : ix ≠ j := by
          rintro rfl
          omega
        rw [reset]
        exact ⟨statsAt_set_ne other _, avoid⟩
      · have other : (ix : Int) ≠ j := by
          intro same
          obtain rfl : ix = j := by omega
          simp [fine] at failing
        rw [picked]
        exact ⟨rfl, other⟩

end Avoid

/-- A reassessment triggered by the failure of the best server moves the best off it and
keeps that server's failure on record. -/
theorem reassessBest_avoids (t : Latency Server) (j : Nat) (now : Int)
    (nonneg : 0 ≤ t.config.resetFailedAfter) (two : 2 ≤ t.serverCount)
    (isBest : (j : Int) = t.bestIndex) (mem : InRange t.bestIndex t.serverCount)
    (failing : (statsAt t.stats j).lastStatusWasFailure = true)
    (recent : (statsAt t.stats j).lastStatusTime = now) :
    (t.reassessBest now).bestIndex ≠ j ∧
      statsAt (t.reassessBest now).stats j = statsAt t.stats j := by
  obtain ⟨kept, avoided⟩ := foldl_scanStep_avoids t.config.resetFailedAfter now j nonneg
    (List.range t.serverCount.toNat) ⟨t.stats, -1, .algNone⟩ failing recent
    (by show (-1 : Int) ≠ j; omega)
  unfold reassessBest
  dsimp only
  rw [if_neg (by omega)]
  split_ifs
  · refine ⟨?_, kept⟩
    rw [isBest]
    exact Go.rem_succ_ne mem.1 mem.2 two
  · exact ⟨avoided, kept⟩

/-- The sampling step never lends the best to a failing server. -/
theorem sample_avoids {t : Latency Server} {j : Nat}
    (failing : (statsAt t.stats j).lastStatusWasFailure = true)
    (best : t.bestIndex ≠ j) (saved : t.saveBestIndex ≠ j) : t.sample.bestIndex ≠ j := by
  unfold sample
  dsimp only
  split_ifs with lent fine
  · exact saved
  · intro same
    dsimp only at same
    rw [same] at fine
    simp [fine] at failing
  · exact best

variable [DecidableEq Server]

/-- A failure report for the current best server moves the best off it. -/
theorem bestIndex_ne_of_best_failure {t : Latency Server} (valid : t.Valid)
    (two : 2 ≤ t.serverCount) {server : Server} {ix : Nat}
    (found : serverToIndex t.servers server = some ix) (isBest : (ix : Int) = t.bestIndex)
    (now latency : Int) : (t.Result server false now latency).1.bestIndex ≠ ix := by
  have bound : ix < t.stats.length := valid.stats_length ▸ (serverToIndex_spec found).1
  unfold Result
  rw [found]
  dsimp only
  unfold assess reassessIfDue
  dsimp only
  rw [if_pos ⟨isBest, .inl rfl⟩]
  obtain ⟨moved, kept⟩ := reassessBest_avoids
    { t with stats := t.stats.set ix (recordStats t.config.weightForLatest
      (statsAt t.stats ix) false now latency), assessCount := t.assessCount + 1 } ix now
    valid.resetFailedAfter_nonneg two isBest valid.bestIndex_mem
    (by simp [statsAt_set_self bound, recordStats]) (by simp [statsAt_set_self bound, recordStats])
  exact sample_avoids (by rw [kept]; simp [statsAt_set_self bound, recordStats]) moved moved

/-- A failure report for the current best moves the latency best off it. -/
theorem Reachable.best_ne_of_current_failure {t : Latency Server} (reachable : t.Reachable)
    (two : 2 ≤ t.servers.length) {server best : Server} {index : Int} (now latency : Int)
    (current : t.Best = some (server, t.bestIndex))
    (next : (t.Result server false now latency).1.Best = some (best, index)) :
    best ≠ server := by
  have valid := reachable.valid
  obtain ⟨holder, bestEq, atBest⟩ := valid.best_spec
  rw [bestEq] at current
  have sameHolder : server = holder := (Prod.mk.inj (Option.some.inj current)).1.symm
  subst sameHolder
  obtain ⟨ix, found⟩ := Option.isSome_iff_exists.mp (serverToIndex_isSome (List.get?_mem atBest))
  have atIx := index_eq_of_get? valid.nodup (serverToIndex_spec found).2 atBest
  have moved := bestIndex_ne_of_best_failure valid (valid.count ▸ by exact_mod_cast two) found
    (by have := valid.bestIndex_mem.1; omega) now latency
  have valid' := valid.step ⟨server, false, now, latency⟩
  obtain ⟨holder', nextEq, atNext⟩ := valid'.best_spec
  change (t.step ⟨server, false, now, latency⟩).Best = _ at next
  rw [nextEq] at next
  obtain ⟨rfl, -⟩ := Prod.mk.inj (Option.some.inj next)
  intro same
  rw [same] at atNext
  simp only [Latency.step, result_servers] at atNext
  have := index_eq_of_get? valid.nodup atNext (serverToIndex_spec found).2
  have := valid'.bestIndex_mem.1
  exact moved (by simp only [Latency.step] at this ⊢; omega)

/-- **A failure report for the current best moves the latency best off it**, for every
reachable manager of two servers or more. -/
theorem reachable_best_ne_of_best_failure {t : Latency Server} (reachable : t.Reachable)
    (two : 2 ≤ t.servers.length) {server best : Server} {index : Int} (now latency : Int)
    (current : t.Best = some (server, t.bestIndex))
    (next : (t.Result server false now latency).1.Best = some (best, index)) :
    best ≠ server :=
  reachable.best_ne_of_current_failure two now latency current next

/-- Two fresh servers with the default parameters: a failure of the best moves the best to the
other server. -/
theorem reachable_best_ne_of_best_failure_two_servers :
    ∃ t : Latency String, NewLatency (fun name => name) ⟨0, 0, 0, 0, 0⟩ ["a", "b"] = .ok t ∧
      t.Best = some ("a", t.bestIndex) ∧ (t.Result "a" false 1 0).1.Best = some ("b", 1) ∧
      "b" ≠ "a" := by
  have created : NewLatency (fun name => name) ⟨0, 0, 0, 0, 0⟩ ["a", "b"] = .ok _ := rfl
  refine ⟨_, created, rfl, rfl, ?_⟩
  exact reachable_best_ne_of_best_failure (.new created) (by decide) 1 0 rfl rfl

end Latency

end Trustydns.BestServer
