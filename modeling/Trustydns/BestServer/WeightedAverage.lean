import Trustydns.BestServer.Reassess

/-! # The weighted average stays within the latencies reported

`latency.Result` folds the latency of a success into the server's weighted average as
`(latency * WeightForLatest + average * (100 - WeightForLatest)) / 100` in Go's `int64`
arithmetic, or takes the latency as it is while the average is `0`. A server's statistics are
zero when the manager is created and again when `reassessBest` rehabilitates it.

When every latency reported with a success for a server since its statistics were last zero
lies in `[lo, hi]`, with `0 ≤ lo` and `100 * hi` an `int64`, no product or sum of an update
leaves the `int64` range and the average is `0` or in `[lo, hi]`; it is not `0` once such a
success was reported, when `lo > 0`
(`Trustydns.BestServer.Latency.weightedAverage_within_latencies`). The step lemma is
`recordStats_success`; `statsAt_step` says that a `Result` call changes a server's statistics
only by recording the call and by the reset of a failing server.
-/

namespace Trustydns.BestServer.Latency

variable {Server : Type}

/-- A weighted average that is unknown (`0`) or within `[lo, hi]`. -/
def Bounded (lo hi average : Int) : Prop :=
  average = 0 ∨ lo ≤ average ∧ average ≤ hi

/-- The products and the sum of the update `recordStats` makes on a success are `int64`
values. -/
def UpdateFits (weightForLatest latency average : Int) : Prop :=
  Go.InInt64 (latency * weightForLatest) ∧ Go.InInt64 (average * (100 - weightForLatest)) ∧
    Go.InInt64 (latency * weightForLatest + average * (100 - weightForLatest))

/-! ## One update -/

section Update

/-- The two weights of an update add up to `100`. -/
theorem weighted_sum (weightForLatest x : Int) :
    x * weightForLatest + x * (100 - weightForLatest) = 100 * x := by
  rw [← Int.mul_add, show weightForLatest + (100 - weightForLatest) = 100 by omega, Int.mul_comm]

variable {weightForLatest lo hi latency : Int}

/-- With latencies and averages in `[lo, hi]`, the update stays between `100 * lo` and
`100 * hi`, and so within `int64` when `100 * hi` is. -/
theorem updateFits_of_bounded (weight : 0 ≤ weightForLatest ∧ weightForLatest ≤ 100)
    (nonneg : 0 ≤ lo) (fits : 100 * hi ≤ Go.MaxInt64) (latencyIn : lo ≤ latency ∧ latency ≤ hi)
    {average : Int} (bounded : Bounded lo hi average) :
    UpdateFits weightForLatest latency average := by
  have latest := Int.mul_le_mul_of_nonneg_right latencyIn.2 weight.1
  have latestNonneg : 0 ≤ latency * weightForLatest := Int.mul_nonneg (by omega) weight.1
  have historic : 0 ≤ average * (100 - weightForLatest) ∧
      average * (100 - weightForLatest) ≤ hi * (100 - weightForLatest) := by
    rcases bounded with unknown | ⟨lower, upper⟩
    · rw [unknown, Int.zero_mul]
      exact ⟨le_refl 0, Int.mul_nonneg (by omega) (by omega)⟩
    · exact ⟨Int.mul_nonneg (by omega) (by omega),
        Int.mul_le_mul_of_nonneg_right upper (by omega)⟩
  have whole := weighted_sum weightForLatest hi
  unfold UpdateFits Go.InInt64
  omega

/-- **A success within `[lo, hi]` leaves the average within `[lo, hi]`.** -/
theorem recordStats_success (weight : 0 ≤ weightForLatest ∧ weightForLatest ≤ 100)
    (nonneg : 0 ≤ lo) (fits : 100 * hi ≤ Go.MaxInt64) (latencyIn : lo ≤ latency ∧ latency ≤ hi)
    {stats : LatencyServerStats} (bounded : Bounded lo hi stats.weightedAverage) (now : Int) :
    lo ≤ (recordStats weightForLatest stats true now latency).weightedAverage ∧
      (recordStats weightForLatest stats true now latency).weightedAverage ≤ hi := by
  unfold recordStats
  dsimp only
  rw [if_pos rfl]
  split_ifs with unknown
  · exact latencyIn
  · obtain ⟨latest, historic, sum⟩ := updateFits_of_bounded weight nonneg fits latencyIn bounded
    obtain ⟨lower, upper⟩ := bounded.resolve_left unknown
    have low := Int.mul_le_mul_of_nonneg_right latencyIn.1 weight.1
    have lowHistoric := Int.mul_le_mul_of_nonneg_right lower (by omega : 0 ≤ 100 - weightForLatest)
    have high := Int.mul_le_mul_of_nonneg_right latencyIn.2 weight.1
    have highHistoric := Int.mul_le_mul_of_nonneg_right upper (by omega : 0 ≤ 100 - weightForLatest)
    have wholeLow := weighted_sum weightForLatest lo
    have wholeHigh := weighted_sum weightForLatest hi
    simp only [Go.quo, Go.mul64, Go.add64, Go.wrapInt64_of_inInt64 latest,
      Go.wrapInt64_of_inInt64 historic, Go.wrapInt64_of_inInt64 sum]
    rw [Int.tdiv_eq_ediv (by omega) (by decide)]
    omega

@[simp] theorem recordStats_failure_weightedAverage (stats : LatencyServerStats) (now : Int) :
    (recordStats weightForLatest stats false now latency).weightedAverage =
      stats.weightedAverage := by
  simp [recordStats]

@[simp] theorem recordStats_lastStatusWasFailure (stats : LatencyServerStats) (success : Bool)
    (now : Int) :
    (recordStats weightForLatest stats success now latency).lastStatusWasFailure = !success := by
  unfold recordStats
  dsimp only
  split_ifs <;> rfl

end Update

/-! ## One `Result` call -/

theorem sample_stats (t : Latency Server) : t.sample.stats = t.stats := by
  unfold sample
  dsimp only
  split_ifs <;> rfl

@[simp] theorem sample_config (t : Latency Server) : t.sample.config = t.config := by
  unfold sample
  dsimp only
  split_ifs <;> rfl

@[simp] theorem reassessIfDue_config (t : Latency Server) (now ix : Int) (success : Bool) :
    (t.reassessIfDue now ix success).config = t.config := by
  unfold reassessIfDue
  dsimp only
  split_ifs <;> simp

/-- The first half of `assess` leaves a server's statistics, or resets a failing server. -/
theorem statsAt_reassessIfDue (t : Latency Server) (now ix : Int) (success : Bool) (j : Nat) :
    statsAt (t.reassessIfDue now ix success).stats j = statsAt t.stats j ∨
      (statsAt t.stats j).lastStatusWasFailure = true ∧
        statsAt (t.reassessIfDue now ix success).stats j = {} := by
  unfold reassessIfDue
  dsimp only
  split_ifs
  · exact statsAt_reassessBest _ now j
  · exact .inl rfl

variable [DecidableEq Server]

@[simp] theorem step_config (t : Latency Server) (call : Call Server) :
    (t.step call).config = t.config := by
  unfold step Result assess
  split <;> simp

@[simp] theorem step_servers (t : Latency Server) (call : Call Server) :
    (t.step call).servers = t.servers :=
  result_servers t call.server call.success call.now call.latency

theorem run_append (t : Latency Server) (first second : List (Call Server)) :
    t.run (first ++ second) = (t.run first).run second :=
  List.foldl_append _ _ _ _

@[simp] theorem run_singleton (t : Latency Server) (call : Call Server) :
    t.run [call] = t.step call :=
  rfl

@[simp] theorem run_config (t : Latency Server) (calls : List (Call Server)) :
    (t.run calls).config = t.config := by
  induction calls generalizing t with
  | nil => rfl
  | cons call rest ih => exact (ih (t.step call)).trans (step_config t call)

@[simp] theorem run_servers (t : Latency Server) (calls : List (Call Server)) :
    (t.run calls).servers = t.servers := by
  induction calls generalizing t with
  | nil => rfl
  | cons call rest ih => exact (ih (t.step call)).trans (step_servers t call)

/-- Every reachable manager weighs the latest latency by a percentage. -/
theorem Reachable.weight {t : Latency Server} (reachable : t.Reachable) :
    0 ≤ t.config.weightForLatest ∧ t.config.weightForLatest ≤ 100 := by
  induction reachable with
  | new created =>
      unfold NewLatency at created
      split at created
      · cases created
      · split_ifs at created with negAfter negCount weight
        simp only [Except.ok.injEq] at created
        subst created
        simp only [withDefaults, defaultLatencyConfig]
        split_ifs <;> omega
  | step call _ ih => rwa [step_config]

/-- The statistics of the server at `ix` once `Result` has recorded `call`, before the
reassessment. -/
def recorded (t : Latency Server) (call : Call Server) (ix : Nat) : LatencyServerStats :=
  if serverToIndex t.servers call.server = some ix then
    recordStats t.config.weightForLatest (statsAt t.stats ix) call.success call.now call.latency
  else statsAt t.stats ix

/-- **What one `Result` call does to a server's statistics**: it records the call when the
call is about that server, and the reassessment may then reset the server if it is failing. -/
theorem statsAt_step {t : Latency Server} (valid : t.Valid) (call : Call Server) (ix : Nat) :
    statsAt (t.step call).stats ix = recorded t call ix ∨
      (recorded t call ix).lastStatusWasFailure = true ∧ statsAt (t.step call).stats ix = {} := by
  unfold step Result recorded
  cases found : serverToIndex t.servers call.server with
  | none => exact .inl (by simp)
  | some jx =>
      have bound : jx < t.stats.length := valid.stats_length ▸ (serverToIndex_spec found).1
      have written : statsAt (t.stats.set jx (recordStats t.config.weightForLatest
          (statsAt t.stats jx) call.success call.now call.latency)) ix =
          if some jx = some ix then recordStats t.config.weightForLatest (statsAt t.stats ix)
            call.success call.now call.latency
          else statsAt t.stats ix := by
        by_cases same : jx = ix
        · subst same
          rw [if_pos rfl, statsAt_set_self bound]
        · rw [if_neg (by simpa using same), statsAt_set_ne same]
      dsimp only
      unfold assess
      rw [sample_stats, ← written]
      exact statsAt_reassessIfDue _ _ _ _ ix

/-- A call that sets the statistics of the server at `ix` to zero where they were not: the reset
of a rehabilitation. -/
def Zeroes (t : Latency Server) (call : Call Server) (ix : Nat) : Prop :=
  statsAt t.stats ix ≠ {} ∧ statsAt (t.step call).stats ix = {}

/-! ## Along a run -/

section Run

variable {lo hi : Int} {ix : Nat}

/-- Recording a call keeps the average of the server at `ix` bounded, and a success recorded
for that server leaves it in `[lo, hi]`. -/
theorem recorded_bounded {t : Latency Server} (weight : 0 ≤ t.config.weightForLatest ∧
      t.config.weightForLatest ≤ 100) (nonneg : 0 ≤ lo) (fits : 100 * hi ≤ Go.MaxInt64)
    (bounded : Bounded lo hi (averageAt t.stats ix)) {call : Call Server}
    (latencyIn : serverToIndex t.servers call.server = some ix → call.success = true →
      lo ≤ call.latency ∧ call.latency ≤ hi) :
    Bounded lo hi (recorded t call ix).weightedAverage ∧
      (serverToIndex t.servers call.server = some ix → call.success = true →
        lo ≤ (recorded t call ix).weightedAverage) := by
  unfold recorded
  split_ifs with found
  · cases success : call.success
    · simpa using bounded
    · have inside := recordStats_success weight nonneg fits (latencyIn found success) bounded
        call.now
      exact ⟨.inr inside, fun _ _ => inside.1⟩
  · exact ⟨bounded, fun found' => absurd found' found⟩

/-- A call that is not a success for the server at `ix` leaves its average. -/
theorem recorded_weightedAverage_of_not {t : Latency Server} {call : Call Server}
    (other : ¬(serverToIndex t.servers call.server = some ix ∧ call.success = true)) :
    (recorded t call ix).weightedAverage = averageAt t.stats ix := by
  unfold recorded
  split_ifs with found
  · cases success : call.success
    · simp [averageAt]
    · exact absurd ⟨found, success⟩ other
  · rfl

/-- **One call keeps the average bounded.** -/
theorem bounded_step {t : Latency Server} (valid : t.Valid)
    (weight : 0 ≤ t.config.weightForLatest ∧ t.config.weightForLatest ≤ 100) (nonneg : 0 ≤ lo)
    (fits : 100 * hi ≤ Go.MaxInt64) (bounded : Bounded lo hi (averageAt t.stats ix))
    {call : Call Server} (latencyIn : serverToIndex t.servers call.server = some ix →
      call.success = true → lo ≤ call.latency ∧ call.latency ≤ hi) :
    Bounded lo hi (averageAt (t.step call).stats ix) := by
  rcases statsAt_step valid call ix with kept | ⟨-, reset⟩
  · rw [averageAt, kept]
    exact (recorded_bounded weight nonneg fits bounded latencyIn).1
  · rw [averageAt, reset]
    exact .inl rfl

/-- A known average stays known, and a success makes it known, over a call that does not reset
the server. -/
theorem averageAt_step_ne_zero {t : Latency Server} (valid : t.Valid)
    (weight : 0 ≤ t.config.weightForLatest ∧ t.config.weightForLatest ≤ 100) (positive : 0 < lo)
    (fits : 100 * hi ≤ Go.MaxInt64) (bounded : Bounded lo hi (averageAt t.stats ix))
    {call : Call Server} (latencyIn : serverToIndex t.servers call.server = some ix →
      call.success = true → lo ≤ call.latency ∧ call.latency ≤ hi)
    (known : averageAt t.stats ix ≠ 0 ∨
      serverToIndex t.servers call.server = some ix ∧ call.success = true)
    (kept : ¬Zeroes t call ix) : averageAt (t.step call).stats ix ≠ 0 := by
  have raised := (recorded_bounded weight (le_of_lt positive) fits bounded latencyIn).2
  have recordedKnown : (recorded t call ix).weightedAverage ≠ 0 := by
    by_cases fresh : serverToIndex t.servers call.server = some ix ∧ call.success = true
    · have := raised fresh.1 fresh.2
      omega
    · rw [recorded_weightedAverage_of_not fresh]
      exact known.resolve_right fresh
  rcases statsAt_step valid call ix with same | ⟨failing, reset⟩
  · rwa [averageAt, same]
  · rcases known with nonzero | ⟨found, success⟩
    · exact absurd ⟨fun zero => nonzero (by rw [averageAt, zero]), reset⟩ kept
    · simp [recorded, found, success] at failing

/-- **A run keeps the average bounded**, and every update along it fits in `int64`. -/
theorem run_bounded {t : Latency Server} (valid : t.Valid)
    (weight : 0 ≤ t.config.weightForLatest ∧ t.config.weightForLatest ≤ 100) (nonneg : 0 ≤ lo)
    (fits : 100 * hi ≤ Go.MaxInt64) (bounded : Bounded lo hi (averageAt t.stats ix))
    (calls : List (Call Server))
    (inRange : ∀ call ∈ calls, serverToIndex t.servers call.server = some ix →
      call.success = true → lo ≤ call.latency ∧ call.latency ≤ hi) :
    (∀ mid call rest, calls = mid ++ call :: rest →
        serverToIndex t.servers call.server = some ix → call.success = true →
        UpdateFits t.config.weightForLatest call.latency (averageAt (t.run mid).stats ix)) ∧
      Bounded lo hi (averageAt (t.run calls).stats ix) := by
  induction calls generalizing t with
  | nil => exact ⟨fun mid call rest split => by simp at split, bounded⟩
  | cons first rest ih =>
      have next := ih (valid.step first) (by rwa [step_config])
        (bounded_step valid weight nonneg fits bounded (inRange first (List.mem_cons_self _ _)))
        (fun call member => by
          rw [step_servers]
          exact inRange call (List.mem_cons_of_mem _ member))
      refine ⟨fun mid call rest' split found success => ?_, next.2⟩
      cases mid with
      | nil =>
          obtain ⟨rfl, -⟩ := List.cons.inj split
          exact updateFits_of_bounded weight nonneg fits
            (inRange _ (List.mem_cons_self _ _) found success) bounded
      | cons head mid =>
          obtain ⟨rfl, tail⟩ := List.cons.inj split
          have := next.1 mid call rest' tail (by rwa [step_servers]) success
          rwa [step_config] at this

/-- **Over a run without a reset, a known average stays known**, and a success makes it
known. -/
theorem run_averageAt_ne_zero {t : Latency Server} (valid : t.Valid)
    (weight : 0 ≤ t.config.weightForLatest ∧ t.config.weightForLatest ≤ 100) (positive : 0 < lo)
    (fits : 100 * hi ≤ Go.MaxInt64) (bounded : Bounded lo hi (averageAt t.stats ix))
    (calls : List (Call Server))
    (inRange : ∀ call ∈ calls, serverToIndex t.servers call.server = some ix →
      call.success = true → lo ≤ call.latency ∧ call.latency ≤ hi)
    (known : averageAt t.stats ix ≠ 0 ∨
      ∃ call ∈ calls, serverToIndex t.servers call.server = some ix ∧ call.success = true)
    (kept : ∀ mid call rest, calls = mid ++ call :: rest → ¬Zeroes (t.run mid) call ix) :
    averageAt (t.run calls).stats ix ≠ 0 := by
  induction calls generalizing t with
  | nil =>
      rcases known with nonzero | ⟨call, member, -⟩
      · exact nonzero
      · cases member
  | cons first rest ih =>
      have latencyIn := inRange first (List.mem_cons_self _ _)
      have known' : averageAt (t.step first).stats ix ≠ 0 ∨
          ∃ call ∈ rest, serverToIndex (t.step first).servers call.server = some ix ∧
            call.success = true := by
        rw [step_servers]
        by_cases fresh : serverToIndex t.servers first.server = some ix ∧ first.success = true
        · exact .inl (averageAt_step_ne_zero valid weight positive fits bounded latencyIn
            (.inr fresh) (kept [] first rest rfl))
        · rcases known with nonzero | ⟨call, member, found, success⟩
          · exact .inl (averageAt_step_ne_zero valid weight positive fits bounded latencyIn
              (.inl nonzero) (kept [] first rest rfl))
          · rcases List.mem_cons.mp member with rfl | later
            · exact absurd ⟨found, success⟩ fresh
            · exact .inr ⟨call, later, found, success⟩
      exact ih (valid.step first) (by rwa [step_config])
        (bounded_step valid weight (le_of_lt positive) fits bounded latencyIn)
        (fun call member => by
          rw [step_servers]
          exact inRange call (List.mem_cons_of_mem _ member))
        known' (fun mid call rest' split => kept (first :: mid) call rest' (by rw [split]; rfl))

end Run

/-- **The weighted average stays within the latencies reported.** Take a reachable manager, a
run split where the statistics of the server at `ix` are zero (at creation, or right after a
rehabilitation), and latencies `[lo, hi]` with `0 ≤ lo` and `100 * hi` an `int64` that bound
every success reported for that server after the split. Then every update of the average after
the split computes its products and their sum within `int64`; the average at the end is `0` or
in `[lo, hi]`; and when `lo > 0`, a success was reported after the split and no call after it
resets the server, the average at the end is not `0`. -/
theorem weightedAverage_within_latencies {t : Latency Server} (reachable : t.Reachable) (ix : Nat)
    {lo hi : Int} (nonneg : 0 ≤ lo) (fits : 100 * hi ≤ Go.MaxInt64)
    (pre post : List (Call Server)) (zeroed : statsAt (t.run pre).stats ix = {})
    (inRange : ∀ call ∈ post, serverToIndex t.servers call.server = some ix →
      call.success = true → lo ≤ call.latency ∧ call.latency ≤ hi) :
    (∀ mid call rest, post = mid ++ call :: rest →
        serverToIndex t.servers call.server = some ix → call.success = true →
        UpdateFits t.config.weightForLatest call.latency
          (averageAt (t.run (pre ++ mid)).stats ix)) ∧
      Bounded lo hi (averageAt (t.run (pre ++ post)).stats ix) ∧
      (0 < lo → (∃ call ∈ post, serverToIndex t.servers call.server = some ix ∧
          call.success = true) →
        (∀ mid call rest, post = mid ++ call :: rest → ¬Zeroes (t.run (pre ++ mid)) call ix) →
        averageAt (t.run (pre ++ post)).stats ix ≠ 0) := by
  have reached := reachable.run pre
  have weight := reached.weight
  have bounded : Bounded lo hi (averageAt (t.run pre).stats ix) := by
    rw [averageAt, zeroed]
    exact .inl rfl
  rw [run_config] at weight
  have sameServers := run_servers t pre
  have sameConfig := run_config t pre
  simp only [run_append]
  obtain ⟨updates, final⟩ := run_bounded reached.valid (by rwa [sameConfig]) nonneg fits bounded
    post (by rwa [sameServers])
  refine ⟨fun mid call rest split found success => ?_, final,
    fun positive success kept => run_averageAt_ne_zero reached.valid (by rwa [sameConfig])
      positive fits bounded post (by rwa [sameServers]) (.inr (by rwa [sameServers])) kept⟩
  rw [← sameConfig]
  exact updates mid call rest split (by rwa [sameServers]) success

/-- Two successes of 50 and 99 on a fresh server: the average stays within `[50, 99]`. -/
theorem weightedAverage_within_latencies_fresh :
    ∃ t : Latency String, NewLatency (fun name => name) ⟨0, 0, 0, 0, 0⟩ ["a", "b"] = .ok t ∧
      Bounded 50 99 (averageAt (t.run ([] ++ [⟨"a", true, 1, 50⟩, ⟨"a", true, 2, 99⟩])).stats 0) := by
  have created : NewLatency (fun name => name) ⟨0, 0, 0, 0, 0⟩ ["a", "b"] = .ok _ := rfl
  exact ⟨_, created, (weightedAverage_within_latencies (.new created) 0 (by decide)
    (by decide) [] [⟨"a", true, 1, 50⟩, ⟨"a", true, 2, 99⟩] rfl (by decide)).2.1⟩

end Trustydns.BestServer.Latency
