import Trustydns.BestServer.WeightedAverage

/-! # Every server is sampled

Every `SampleOthersEvery` reports, `latency.assess` lends the best for one report to the next
server of the round-robin sample order, unless that server is failing. In a reachable manager
whose servers are all healthy, reports of successes keep them healthy, so the best is lent to
the next server every `SampleOthersEvery` calls, and `n * SampleOthersEvery` calls lend it to
each of the `n` servers (`Trustydns.BestServer.Latency.sampling_visits_every_server`).

A run is cut into phases: calls that only count (`run_counting`), then the call that lends the
best (`run_take_untilSample`); after the first phase every phase is `SampleOthersEvery` calls
long (`run_take_samples`).
-/

namespace Trustydns.BestServer.Latency

variable {Server : Type}

/-- No server's last report is a failure. -/
def Healthy (t : Latency Server) : Prop :=
  ∀ j < t.servers.length, (statsAt t.stats j).lastStatusWasFailure = false

/-- The number of calls up to and including the one that lends the best to the next sample
server, in a manager where that server is healthy. -/
def untilSample (t : Latency Server) : Nat :=
  max 1 (t.config.sampleOthersEvery - t.sampleCount).toNat

@[simp] theorem reassessBest_sampleCount (t : Latency Server) (now : Int) :
    (t.reassessBest now).sampleCount = t.sampleCount := by
  unfold reassessBest; dsimp only; split_ifs <;> rfl

@[simp] theorem reassessIfDue_sampleCount (t : Latency Server) (now ix : Int) (success : Bool) :
    (t.reassessIfDue now ix success).sampleCount = t.sampleCount := by
  unfold reassessIfDue; dsimp only; split_ifs <;> simp

@[simp] theorem reassessIfDue_sampleIndex (t : Latency Server) (now ix : Int) (success : Bool) :
    (t.reassessIfDue now ix success).sampleIndex = t.sampleIndex := by
  unfold reassessIfDue; dsimp only; split_ifs <;> simp

@[simp] theorem reassessIfDue_serverCount (t : Latency Server) (now ix : Int) (success : Bool) :
    (t.reassessIfDue now ix success).serverCount = t.serverCount := by
  unfold reassessIfDue; dsimp only; split_ifs <;> simp

/-! ## The sampling step -/

theorem sample_of_lt {t : Latency Server}
    (counting : t.sampleCount + 1 < t.config.sampleOthersEvery) :
    t.sample.sampleCount = t.sampleCount + 1 ∧ t.sample.sampleIndex = t.sampleIndex := by
  unfold sample
  dsimp only
  rw [if_pos counting]
  exact ⟨rfl, rfl⟩

theorem sample_of_le {t : Latency Server}
    (due : t.config.sampleOthersEvery ≤ t.sampleCount + 1)
    (fine : (statsAt t.stats (Go.rem (t.sampleIndex + 1) t.serverCount)).lastStatusWasFailure =
      false) :
    t.sample.sampleCount = 0 ∧ t.sample.sampleIndex = Go.rem (t.sampleIndex + 1) t.serverCount ∧
      t.sample.bestIndex = t.sample.sampleIndex := by
  unfold sample
  dsimp only
  rw [if_neg (by omega), if_pos fine]
  exact ⟨rfl, rfl, rfl⟩

theorem sample_sampleCount (t : Latency Server) :
    t.sample.sampleCount = t.sampleCount + 1 ∨ t.sample.sampleCount = 0 := by
  unfold sample
  dsimp only
  split_ifs <;> simp

variable [DecidableEq Server]

/-- A report on a server of the list is the sampling step after a reassessment that keeps the
sampling fields, the server count and the configuration. -/
theorem step_eq_sample {t : Latency Server} {call : Call Server}
    (accepted : (serverToIndex t.servers call.server).isSome) :
    ∃ u : Latency Server, t.step call = u.sample ∧ u.sampleCount = t.sampleCount ∧
      u.sampleIndex = t.sampleIndex ∧ u.serverCount = t.serverCount ∧ u.config = t.config := by
  obtain ⟨ix, found⟩ := Option.isSome_iff_exists.mp accepted
  unfold step Result
  rw [found]
  exact ⟨_, rfl, by simp, by simp, by simp, by simp⟩

/-- The sample counter only counts up or restarts. -/
theorem step_sampleCount (t : Latency Server) (call : Call Server) :
    (t.step call).sampleCount = t.sampleCount ∨ (t.step call).sampleCount = t.sampleCount + 1 ∨
      (t.step call).sampleCount = 0 := by
  cases found : serverToIndex t.servers call.server with
  | none =>
      left
      unfold step Result
      rw [found]
  | some ix =>
      have accepted : (serverToIndex t.servers call.server).isSome := by rw [found]; rfl
      obtain ⟨u, stepped, counted, -⟩ := step_eq_sample accepted
      rw [stepped, ← counted]
      exact .inr (sample_sampleCount u)

/-- Every reachable manager samples every `SampleOthersEvery ≥ 1` reports and has counted a
nonnegative number of reports towards the next sample. -/
theorem Reachable.sampling {t : Latency Server} (reachable : t.Reachable) :
    1 ≤ t.config.sampleOthersEvery ∧ 0 ≤ t.sampleCount := by
  induction reachable with
  | new created =>
      unfold NewLatency at created
      split at created
      · cases created
      · split_ifs at created with negAfter negCount weight negReset negSample
        simp only [Except.ok.injEq] at created
        subst created
        refine ⟨?_, le_refl 0⟩
        simp only [withDefaults, defaultLatencyConfig]
        split_ifs <;> omega
  | @step t call _ ih =>
      rw [step_config]
      rcases step_sampleCount t call with same | counted | restarted <;> omega

/-- Success reports keep every server healthy. -/
theorem Healthy.step {t : Latency Server} (valid : t.Valid) (healthy : Healthy t)
    {call : Call Server} (success : call.success = true) : Healthy (t.step call) := by
  intro j bound
  rw [step_servers] at bound
  rcases statsAt_step valid call j with same | ⟨-, reset⟩
  · rw [same]
    unfold recorded
    split_ifs
    · simp [success]
    · exact healthy j bound
  · rw [reset]

/-- **A success report counts towards the next sample, or lends the best to the next
server.** -/
theorem step_sampling {t : Latency Server} (valid : t.Valid) (healthy : Healthy t)
    {call : Call Server} (accepted : call.server ∈ t.servers) (success : call.success = true) :
    (t.sampleCount + 1 < t.config.sampleOthersEvery →
        (t.step call).sampleCount = t.sampleCount + 1 ∧
          (t.step call).sampleIndex = t.sampleIndex) ∧
      (t.config.sampleOthersEvery ≤ t.sampleCount + 1 →
        (t.step call).sampleCount = 0 ∧
          (t.step call).sampleIndex = Go.rem (t.sampleIndex + 1) t.serverCount ∧
          (t.step call).bestIndex = (t.step call).sampleIndex) := by
  obtain ⟨u, stepped, counted, indexed, sized, configured⟩ :=
    step_eq_sample (serverToIndex_isSome accepted)
  refine ⟨fun counting => ?_, fun due => ?_⟩
  · rw [stepped, ← counted, ← indexed]
    exact sample_of_lt (by rwa [configured, counted])
  · have next := inRange_rem_succ valid.sampleIndex_mem
    rw [valid.count] at next
    have fine := healthy.step valid success (Go.rem (t.sampleIndex + 1) t.serverCount).toNat
      (by rw [step_servers, valid.count]; have := next.1; have := next.2; omega)
    rw [Int.toNat_of_nonneg (by rw [valid.count]; exact next.1), stepped, sample_stats] at fine
    rw [stepped, ← indexed, ← sized]
    exact sample_of_le (by rwa [configured, counted]) (by rwa [sized, indexed])

/-! ## Phases of a run -/

section Phases

variable {t : Latency Server} (reachable : t.Reachable) (healthy : Healthy t)
  {calls : List (Call Server)}
  (successes : ∀ call ∈ calls, call.server ∈ t.servers ∧ call.success = true)
include reachable healthy successes

/-- **Counting phase**: success reports none of which reaches the next sample count up, and
keep the sample order and every server healthy. -/
theorem run_counting
    (counting : ∀ k < calls.length, t.sampleCount + k + 1 < t.config.sampleOthersEvery) :
    (t.run calls).sampleCount = t.sampleCount + calls.length ∧
      (t.run calls).sampleIndex = t.sampleIndex ∧ Healthy (t.run calls) := by
  induction calls generalizing t with
  | nil => exact ⟨by simp [run], rfl, healthy⟩
  | cons call rest ih =>
      obtain ⟨accepted, success⟩ := successes call (List.mem_cons_self _ _)
      obtain ⟨counted, indexed⟩ := (step_sampling reachable.valid healthy accepted success).1
        (by simpa using counting 0 (Nat.succ_pos _))
      have next := ih (reachable.step call) (healthy.step reachable.valid success)
        (fun other member => by
          rw [step_servers]
          exact successes other (List.mem_cons_of_mem _ member))
        (fun k below => by
          have := counting (k + 1) (by simpa using below)
          rw [step_config, counted]
          push_cast at this
          omega)
      refine ⟨?_, next.2.1.trans indexed, next.2.2⟩
      change ((t.step call).run rest).sampleCount = _
      rw [next.1, counted, List.length_cons, Nat.cast_add, Nat.cast_one]
      omega

/-- **The call that ends a counting phase lends the best to the next server.** -/
theorem run_take_untilSample (enough : untilSample t ≤ calls.length) :
    (t.run (calls.take (untilSample t))).sampleCount = 0 ∧
      (t.run (calls.take (untilSample t))).sampleIndex =
        Go.rem (t.sampleIndex + 1) t.serverCount ∧
      (t.run (calls.take (untilSample t))).bestIndex =
        (t.run (calls.take (untilSample t))).sampleIndex ∧
      Healthy (t.run (calls.take (untilSample t))) := by
  obtain ⟨sampling, nonneg⟩ := reachable.sampling
  have positive : 1 ≤ untilSample t := le_max_left _ _
  have reaches : t.config.sampleOthersEvery ≤ t.sampleCount + untilSample t := by
    have := le_max_right 1 (t.config.sampleOthersEvery - t.sampleCount).toNat
    unfold untilSample
    omega
  obtain ⟨last, lastAt⟩ : ∃ last, calls[untilSample t - 1]? = some last :=
    ⟨_, List.getElem?_eq_getElem (by omega)⟩
  have split : calls.take (untilSample t) = calls.take (untilSample t - 1) ++ [last] := by
    rw [show untilSample t = untilSample t - 1 + 1 by omega, List.take_succ, Nat.add_sub_cancel,
      lastAt, Option.toList_some]
  have prefixMembers : ∀ call ∈ calls.take (untilSample t - 1),
      call.server ∈ t.servers ∧ call.success = true :=
    fun call member => successes call (List.mem_of_mem_take member)
  have prefixLength : (calls.take (untilSample t - 1)).length = untilSample t - 1 :=
    List.length_take_of_le (by omega)
  obtain ⟨counted, index, healthy'⟩ := run_counting reachable healthy prefixMembers
    (fun k below => by rw [prefixLength] at below; unfold untilSample at below; omega)
  have due : t.config.sampleOthersEvery ≤
      (t.run (calls.take (untilSample t - 1))).sampleCount + 1 := by
    rw [counted, prefixLength]
    omega
  have reached := reachable.run (calls.take (untilSample t - 1))
  have lastMember := successes last (List.mem_iff_getElem?.mpr ⟨_, lastAt⟩)
  obtain ⟨-, lent⟩ := step_sampling reached.valid healthy' (by rw [run_servers]; exact lastMember.1)
    lastMember.2
  obtain ⟨restarted, sampleIndex, best⟩ := lent (by rwa [run_config])
  rw [split, run_append, run_singleton]
  refine ⟨restarted, ?_, best, healthy'.step reached.valid lastMember.2⟩
  rw [sampleIndex, index, reached.valid.count, reachable.valid.count, run_servers]

/-- **Each `SampleOthersEvery` calls after the first sample lend the best to the next
server**: the `m + 1`-th sample is at call `untilSample t + m * SampleOthersEvery` and lends the
best to the server `m + 1` places after the sample order's start. -/
theorem run_take_samples (m : Nat)
    (enough : untilSample t + m * t.config.sampleOthersEvery.toNat ≤ calls.length) :
    (t.run (calls.take (untilSample t + m * t.config.sampleOthersEvery.toNat))).bestIndex =
        (t.sampleIndex + (m + 1)) % t.serverCount ∧
      (t.run (calls.take (untilSample t + m * t.config.sampleOthersEvery.toNat))).sampleCount = 0 ∧
      (t.run (calls.take (untilSample t + m * t.config.sampleOthersEvery.toNat))).sampleIndex =
        (t.run (calls.take (untilSample t + m * t.config.sampleOthersEvery.toNat))).bestIndex ∧
      Healthy (t.run (calls.take (untilSample t + m * t.config.sampleOthersEvery.toNat))) := by
  have valid := reachable.valid
  have index := valid.sampleIndex_mem
  induction m with
  | zero =>
      obtain ⟨count, sampleIndex, best, healthy'⟩ :=
        run_take_untilSample reachable healthy successes (by simpa using enough)
      simp only [Nat.zero_mul, Nat.add_zero, Nat.cast_zero, Int.zero_add]
      refine ⟨?_, count, best.symm, healthy'⟩
      rw [best, sampleIndex, Go.rem_eq_emod (by have := index.1; omega)
        (by have := index.1; have := index.2; omega)]
  | succ m ih =>
      obtain ⟨best, count, sampleIndex, healthy'⟩ := ih (by rw [Nat.succ_mul] at enough; omega)
      obtain ⟨sampling, -⟩ := reachable.sampling
      set done := calls.take (untilSample t + m * t.config.sampleOthersEvery.toNat)
      have reached := reachable.run done
      have restart : untilSample (t.run done) = t.config.sampleOthersEvery.toNat := by
        unfold untilSample
        rw [count, run_config]
        omega
      have restMembers : ∀ call ∈ calls.drop (untilSample t + m * t.config.sampleOthersEvery.toNat),
          call.server ∈ (t.run done).servers ∧ call.success = true := fun call member => by
        rw [run_servers]
        exact successes call (List.mem_of_mem_drop member)
      have rest := run_take_untilSample reached healthy' restMembers
        (by rw [restart, List.length_drop, Nat.succ_mul] at *; omega)
      rw [restart] at rest
      obtain ⟨count', sampleIndex', best', healthy''⟩ := rest
      rw [Nat.succ_mul, ← Nat.add_assoc, List.take_add, run_append]
      refine ⟨?_, count', best'.symm, healthy''⟩
      have positive : 0 < t.serverCount := valid.count_pos
      have nonneg := Int.emod_nonneg (t.sampleIndex + (m + 1)) (by omega : t.serverCount ≠ 0)
      rw [best', sampleIndex', sampleIndex, best, reached.valid.count, run_servers, ← valid.count,
        Go.rem_eq_emod (by omega) (by omega), Int.emod_add_emod]
      congr 1
      push_cast
      omega

end Phases

/-- The sample order visits `j` after `((j - i - 1) mod n) + 1` steps from `i`. -/
theorem emod_offset {i j n : Int} (nonneg : 0 ≤ j) (below : j < n) :
    (i + (((j - i - 1) % n).toNat + 1)) % n = j := by
  have positive : 0 < n := by omega
  rw [Int.toNat_of_nonneg (Int.emod_nonneg _ (by omega)),
    show i + ((j - i - 1) % n + 1) = i + 1 + (j - i - 1) % n by omega, Int.add_emod_emod,
    show i + 1 + (j - i - 1) = j by omega, Int.emod_eq_of_lt nonneg below]

/-- **Every server is sampled**: from a reachable manager whose servers are all healthy,
`n * SampleOthersEvery` success reports on servers of the list, for any servers, times and
latencies, make `Best()` return every server right after one of the calls. -/
theorem sampling_visits_every_server {t : Latency Server} (reachable : t.Reachable)
    (healthy : ∀ j < t.servers.length, (statsAt t.stats j).lastStatusWasFailure = false)
    (calls : List (Call Server))
    (length : calls.length = t.servers.length * t.config.sampleOthersEvery.toNat)
    (successes : ∀ call ∈ calls, call.server ∈ t.servers ∧ call.success = true) :
    ∀ j < t.servers.length, ∃ k < calls.length, ∃ server,
      (t.run (calls.take (k + 1))).Best = some (server, (j : Int)) := by
  intro j bound
  have valid := reachable.valid
  obtain ⟨sampling, nonneg⟩ := reachable.sampling
  have index := valid.sampleIndex_mem
  rw [valid.count] at index
  set m := ((j - t.sampleIndex - 1) % t.servers.length).toNat
  have fewer : m < t.servers.length := by
    have := Int.emod_lt_of_pos (j - t.sampleIndex - 1) (by omega : (0 : Int) < t.servers.length)
    omega
  have first : untilSample t ≤ t.config.sampleOthersEvery.toNat := by
    unfold untilSample
    omega
  have within : untilSample t + m * t.config.sampleOthersEvery.toNat ≤ calls.length := by
    have := Nat.mul_le_mul_right t.config.sampleOthersEvery.toNat (Nat.succ_le_of_lt fewer)
    rw [Nat.succ_mul] at this
    omega
  obtain ⟨best, -⟩ := run_take_samples reachable healthy successes m within
  obtain ⟨server, current, -⟩ :=
    (reachable.run (calls.take (untilSample t + m * t.config.sampleOthersEvery.toNat))).valid.best_spec
  have positive : 1 ≤ untilSample t := le_max_left _ _
  refine ⟨untilSample t + m * t.config.sampleOthersEvery.toNat - 1, by omega, server, ?_⟩
  rw [Nat.sub_add_cancel (by omega), current, best, valid.count,
    emod_offset (by omega) (by omega)]

/-- Two fresh servers with the default parameters: forty success reports on the first make
`Best()` return each of the two. -/
theorem sampling_visits_every_server_two :
    ∃ t : Latency String, NewLatency (fun name => name) ⟨0, 0, 0, 0, 0⟩ ["a", "b"] = .ok t ∧
      ∀ j : Nat, j < 2 → ∃ k < 40, ∃ server,
        (t.run ((List.replicate 40 ⟨"a", true, 1, 10⟩).take (k + 1))).Best =
          some (server, (j : Int)) := by
  have created : NewLatency (fun name => name) ⟨0, 0, 0, 0, 0⟩ ["a", "b"] = .ok _ := rfl
  exact ⟨_, created, sampling_visits_every_server (.new created) (by decide)
    (List.replicate 40 ⟨"a", true, 1, 10⟩) rfl (by simp [List.mem_replicate])⟩

end Trustydns.BestServer.Latency
