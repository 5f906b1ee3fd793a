import Trustydns.BestServer.LatencyInvariant

/-! # What `reassessBest` chooses

`reassessBest` walks the servers once. A server whose last report was a failure is passed
over, and its statistics are reset when it has been idle for `ResetFailedAfter`; every other
server is a candidate, and the walk keeps the first candidate with the least non-zero average,
or the first candidate when none has an average. The walk reads a server's failure flag before
it resets it, so a server rehabilitated by a walk is not a candidate of that walk: when every
server was failing the best moves on round-robin, past the servers just rehabilitated.

`Trustydns.BestServer.Latency.reassessBest_picks_preferred` states the whole choice against the
declarative `Preferred`. It rests on the invariant of the walk over the indices it has visited
(`Trustydns.BestServer.Latency.Scanned`), kept by every iteration (`Scanned.scanStep`).
-/

namespace Trustydns.BestServer.Latency

variable {Server : Type}

/-- A server `reassessBest` may choose: its last report was not a failure. -/
def Candidate (stats : List LatencyServerStats) (ix : Nat) : Prop :=
  (statsAt stats ix).lastStatusWasFailure = false

instance (stats : List LatencyServerStats) (ix : Nat) : Decidable (Candidate stats ix) :=
  inferInstanceAs (Decidable (_ = false))

/-- The weighted average `reassessBest` compares, `0` while it is unknown. -/
def averageAt (stats : List LatencyServerStats) (ix : Int) : Int :=
  (statsAt stats ix).weightedAverage

/-- A server's statistics after the rehabilitation of `reassessBest`: reset when its last
report failed and it has been idle for `resetFailedAfter`. -/
def rehabilitate (resetFailedAfter now : Int) (stats : LatencyServerStats) : LatencyServerStats :=
  if stats.lastStatusWasFailure ∧ stats.lastStatusTime + resetFailedAfter < now then {} else stats

/-- The server among the first `n` that `reassessBest` should settle on: a candidate whose
average is the least non-zero average of the candidates, non-zero unless no candidate has one,
and that comes before every other candidate it ties with. -/
structure Preferred (stats : List LatencyServerStats) (n b : Nat) : Prop where
  lt : b < n
  candidate : Candidate stats b
  least : ∀ j < n, Candidate stats j → averageAt stats j ≠ 0 →
    averageAt stats b ≠ 0 ∧ averageAt stats b ≤ averageAt stats j
  first : ∀ j < b, Candidate stats j →
    averageAt stats b ≠ 0 ∧ (averageAt stats j ≠ 0 → averageAt stats b < averageAt stats j)

@[simp] theorem rehabilitate_empty (resetFailedAfter now : Int) :
    rehabilitate resetFailedAfter now {} = {} := by
  simp [rehabilitate]

theorem statsAt_of_le {stats : List LatencyServerStats} {ix : Nat} (beyond : stats.length ≤ ix) :
    statsAt stats ix = {} := by
  simp [statsAt, List.getElem?_eq_none beyond]

theorem statsAt_set_empty (stats : List LatencyServerStats) (ix : Nat) :
    statsAt (stats.set ix {}) ix = {} := by
  by_cases bound : ix < stats.length
  · exact statsAt_set_self bound {}
  · exact statsAt_of_le (by rw [List.length_set]; omega)

theorem statsAt_map_rehabilitate (resetFailedAfter now : Int) (stats : List LatencyServerStats)
    (ix : Nat) :
    statsAt (stats.map (rehabilitate resetFailedAfter now)) ix =
      rehabilitate resetFailedAfter now (statsAt stats ix) := by
  by_cases bound : ix < stats.length
  · simp [statsAt, bound]
  · rw [statsAt_of_le (by simpa using bound), statsAt_of_le (by omega), rehabilitate_empty]

/-- Two statistics lists of one length that agree at every index are equal. -/
theorem eq_of_statsAt {stats stats' : List LatencyServerStats} (length : stats.length = stats'.length)
    (pointwise : ∀ ix : Nat, statsAt stats ix = statsAt stats' ix) : stats = stats' := by
  apply List.ext_getElem length
  intro ix bound bound'
  simpa [statsAt, bound, bound'] using pointwise ix

/-! ## One iteration of the loop -/

section Step

variable (resetFailedAfter now : Int)

/-- An iteration resets the server it visits when that server failed and has been idle. -/
theorem scanStep_stats (scan : Scan) (ix : Nat) :
    (scanStep resetFailedAfter now scan ix).stats =
      if (statsAt scan.stats ix).lastStatusWasFailure ∧
          (statsAt scan.stats ix).lastStatusTime + resetFailedAfter < now
      then scan.stats.set ix {} else scan.stats := by
  unfold scanStep
  dsimp only
  split_ifs <;> simp_all

/-- An iteration rehabilitates the server it visits and leaves the others. -/
theorem statsAt_scanStep (scan : Scan) (ix j : Nat) :
    statsAt (scanStep resetFailedAfter now scan ix).stats j =
      if j = ix then rehabilitate resetFailedAfter now (statsAt scan.stats ix)
      else statsAt scan.stats j := by
  rw [scanStep_stats]
  unfold rehabilitate
  by_cases here : j = ix
  · subst here
    rw [if_pos rfl]
    split_ifs <;> simp [statsAt_set_empty]
  · split_ifs <;> simp [statsAt_set_ne (Ne.symm here), here]

/-- An iteration takes the candidate it visits when there is no tentative best yet, or when it
has an average and the tentative best has none or a larger one. -/
theorem scanStep_newBest_eq (scan : Scan) (ix : Nat) :
    (scanStep resetFailedAfter now scan ix).newBest =
      if (statsAt scan.stats ix).lastStatusWasFailure then scan.newBest
      else if scan.newBest = -1 then ix
      else if averageAt scan.stats ix ≠ 0 ∧ (averageAt scan.stats scan.newBest = 0 ∨
          averageAt scan.stats ix < averageAt scan.stats scan.newBest) then ix
      else scan.newBest := by
  unfold scanStep averageAt
  dsimp only
  split_ifs <;> first | omega | simp_all

end Step

/-! ## The choice among the servers visited -/

section Prefix

variable {stats : List LatencyServerStats} {k : Nat}

/-- The first candidate is preferred among the servers up to it. -/
theorem preferred_first_candidate (absent : ∀ j < k, ¬Candidate stats j)
    (candidate : Candidate stats k) : Preferred stats (k + 1) k where
  lt := Nat.lt_succ_self k
  candidate := candidate
  least j bound candidate' nonzero := by
    rcases Nat.lt_succ_iff_lt_or_eq.mp bound with earlier | rfl
    · exact absurd candidate' (absent j earlier)
    · exact ⟨nonzero, le_refl _⟩
  first j earlier candidate' := absurd candidate' (absent j earlier)

/-- The preferred server stays preferred past a server that is no better. -/
theorem Preferred.keep {b : Nat} (preferred : Preferred stats k b)
    (worse : Candidate stats k → averageAt stats k ≠ 0 →
      averageAt stats b ≠ 0 ∧ averageAt stats b ≤ averageAt stats k) :
    Preferred stats (k + 1) b where
  lt := Nat.lt_succ_of_lt preferred.lt
  candidate := preferred.candidate
  least j bound candidate nonzero := by
    rcases Nat.lt_succ_iff_lt_or_eq.mp bound with earlier | rfl
    · exact preferred.least j earlier candidate nonzero
    · exact worse candidate nonzero
  first := preferred.first

/-- A candidate with an average replaces a preferred server that has none or a larger one. -/
theorem Preferred.replace {b : Nat} (preferred : Preferred stats k b) (candidate : Candidate stats k)
    (nonzero : averageAt stats k ≠ 0)
    (better : averageAt stats b = 0 ∨ averageAt stats k < averageAt stats b) :
    Preferred stats (k + 1) k := by
  have faster : ∀ j < k, Candidate stats j → averageAt stats j ≠ 0 →
      averageAt stats k < averageAt stats j := by
    intro j earlier candidate' nonzero'
    obtain ⟨known, least⟩ := preferred.least j earlier candidate' nonzero'
    rcases better with unknown | faster
    · exact absurd unknown known
    · omega
  refine ⟨Nat.lt_succ_self k, candidate, fun j bound candidate' nonzero' => ⟨nonzero, ?_⟩,
    fun j earlier candidate' => ⟨nonzero, faster j earlier candidate'⟩⟩
  rcases Nat.lt_succ_iff_lt_or_eq.mp bound with earlier | rfl
  · exact le_of_lt (faster j earlier candidate' nonzero')
  · exact le_refl _

end Prefix

/-! ## The invariant of the loop -/

/-- What `reassessBest`'s loop has established once it has visited the indices below `k`,
starting from `stats`: those servers are rehabilitated, the others untouched, and the tentative
best is the preferred server among the visited ones, or `-1` when none was a candidate. -/
structure Scanned (resetFailedAfter now : Int) (stats : List LatencyServerStats) (k : Nat)
    (scan : Scan) : Prop where
  rehabilitated : ∀ j : Nat, statsAt scan.stats j =
    if j < k then rehabilitate resetFailedAfter now (statsAt stats j) else statsAt stats j
  chosen : (scan.newBest = -1 ∧ ∀ j < k, ¬Candidate stats j) ∨
    ∃ b : Nat, scan.newBest = b ∧ Preferred stats k b

section Loop

variable {resetFailedAfter now : Int} {stats : List LatencyServerStats}

theorem scanned_start (rationale : ReassessAlgorithm) :
    Scanned resetFailedAfter now stats 0 ⟨stats, -1, rationale⟩ where
  rehabilitated j := (if_neg (Nat.not_lt_zero j)).symm
  chosen := .inl ⟨rfl, fun j bound => absurd bound (Nat.not_lt_zero j)⟩

/-- The server being visited has its statistics from the start. -/
theorem Scanned.statsAt_visited {k : Nat} {scan : Scan}
    (scanned : Scanned resetFailedAfter now stats k scan) :
    statsAt scan.stats k = statsAt stats k := by
  rw [scanned.rehabilitated, if_neg (Nat.lt_irrefl k)]

/-- A candidate already visited has its statistics from the start. -/
theorem Scanned.statsAt_candidate {k b : Nat} {scan : Scan}
    (scanned : Scanned resetFailedAfter now stats k scan) (visited : b < k)
    (candidate : Candidate stats b) : statsAt scan.stats b = statsAt stats b := by
  rw [scanned.rehabilitated, if_pos visited, rehabilitate, if_neg]
  unfold Candidate at candidate
  simp [candidate]

/-- **One iteration keeps the invariant.** -/
theorem Scanned.scanStep {k : Nat} {scan : Scan}
    (scanned : Scanned resetFailedAfter now stats k scan) :
    Scanned resetFailedAfter now stats (k + 1) (scanStep resetFailedAfter now scan k) where
  rehabilitated j := by
    rw [statsAt_scanStep, scanned.statsAt_visited, scanned.rehabilitated]
    by_cases here : j = k
    · simp [here]
    · by_cases earlier : j < k
      · simp [here, earlier, show j < k + 1 by omega]
      · simp [here, earlier, show ¬j < k + 1 by omega]
  chosen := by
    rw [scanStep_newBest_eq, scanned.statsAt_visited]
    by_cases failed : (statsAt stats k).lastStatusWasFailure
    · have passed : ¬Candidate stats k := by simp [Candidate, failed]
      rw [if_pos failed]
      rcases scanned.chosen with ⟨unset, absent⟩ | ⟨b, picked, preferred⟩
      · refine .inl ⟨unset, fun j bound => ?_⟩
        rcases Nat.lt_succ_iff_lt_or_eq.mp bound with earlier | rfl
        · exact absent j earlier
        · exact passed
      · exact .inr ⟨b, picked, preferred.keep fun candidate => absurd candidate passed⟩
    · have candidate : Candidate stats k := by simpa [Candidate] using failed
      rw [if_neg failed]
      rcases scanned.chosen with ⟨unset, absent⟩ | ⟨b, picked, preferred⟩
      · rw [if_pos unset]
        exact .inr ⟨k, rfl, preferred_first_candidate absent candidate⟩
      · have atBest : averageAt scan.stats scan.newBest = averageAt stats b := by
          rw [picked, averageAt, averageAt,
            scanned.statsAt_candidate preferred.lt preferred.candidate]
        have visiting : averageAt scan.stats k = averageAt stats k := by
          rw [averageAt, averageAt, scanned.statsAt_visited]
        rw [if_neg (by omega), atBest, visiting]
        split_ifs with better
        · exact .inr ⟨k, rfl, preferred.replace candidate better.1 better.2⟩
        · refine .inr ⟨b, picked, preferred.keep fun _ nonzero => ?_⟩
          have known := (not_and.mp better nonzero)
          omega

/-- **The whole loop keeps the invariant.** -/
theorem scanned_range (n : Nat) :
    Scanned resetFailedAfter now stats n
      ((List.range n).foldl (scanStep resetFailedAfter now) ⟨stats, -1, .algNone⟩) := by
  induction n with
  | zero => exact scanned_start _
  | succ n ih =>
      rw [List.range_succ, List.foldl_append, List.foldl_cons, List.foldl_nil]
      exact ih.scanStep

end Loop

/-! ## `reassessBest` -/

theorem reassessBest_stats_of_ne_one {t : Latency Server} (several : t.serverCount ≠ 1) (now : Int) :
    (t.reassessBest now).stats = (t.scan now).stats := by
  unfold reassessBest
  rw [if_neg several]
  dsimp only
  split_ifs <;> rfl

theorem reassessBest_bestIndex_of_ne_one {t : Latency Server} (several : t.serverCount ≠ 1)
    (now : Int) : (t.reassessBest now).bestIndex =
      if (t.scan now).newBest = -1 then Go.rem (t.bestIndex + 1) t.serverCount
      else (t.scan now).newBest := by
  unfold reassessBest
  rw [if_neg several]
  dsimp only
  split_ifs <;> rfl

/-- A reassessment leaves a server's statistics as they are, or resets those of a server whose
last report failed. -/
theorem statsAt_reassessBest (t : Latency Server) (now : Int) (j : Nat) :
    statsAt (t.reassessBest now).stats j = statsAt t.stats j ∨
      (statsAt t.stats j).lastStatusWasFailure = true ∧
        statsAt (t.reassessBest now).stats j = {} := by
  by_cases one : t.serverCount = 1
  · left
    unfold reassessBest
    rw [if_pos one]
  · have scanned : Scanned t.config.resetFailedAfter now t.stats t.serverCount.toNat
        (t.scan now) := scanned_range _
    rw [reassessBest_stats_of_ne_one one, scanned.rehabilitated j]
    unfold rehabilitate
    split_ifs with visited due
    · exact .inr ⟨due.1, rfl⟩
    · exact .inl rfl
    · exact .inl rfl

/-- **What `reassessBest` does** on a manager of at least two servers whose statistics list has
one entry per server: every server whose last report failed and that has been idle for
`ResetFailedAfter` is reset; the best becomes the preferred server among those whose last
report was not a failure before the reset; and only when there is no such server does the best
move on round-robin. -/
theorem reassessBest_picks_preferred {t : Latency Server} (two : 2 ≤ t.serverCount)
    (count : t.stats.length = t.serverCount) (now : Int) :
    (t.reassessBest now).stats = t.stats.map (rehabilitate t.config.resetFailedAfter now) ∧
      ((∃ j < t.serverCount.toNat, Candidate t.stats j) →
        ∃ b : Nat, (t.reassessBest now).bestIndex = b ∧
          Preferred t.stats t.serverCount.toNat b) ∧
      ((∀ j < t.serverCount.toNat, ¬Candidate t.stats j) →
        (t.reassessBest now).bestIndex = Go.rem (t.bestIndex + 1) t.serverCount) := by
  have several : t.serverCount ≠ 1 := by omega
  have scanned : Scanned t.config.resetFailedAfter now t.stats t.serverCount.toNat (t.scan now) :=
    scanned_range _
  refine ⟨?_, fun ⟨j, bound, candidate⟩ => ?_, fun absent => ?_⟩
  · rw [reassessBest_stats_of_ne_one several]
    apply eq_of_statsAt (by rw [scan_stats_length, List.length_map])
    intro j
    rw [scanned.rehabilitated, statsAt_map_rehabilitate]
    split_ifs with visited
    · rfl
    · rw [statsAt_of_le (by omega), rehabilitate_empty]
  · rw [reassessBest_bestIndex_of_ne_one several]
    rcases scanned.chosen with ⟨-, absent⟩ | ⟨b, picked, preferred⟩
    · exact absurd candidate (absent j bound)
    · exact ⟨b, by rw [picked, if_neg (by omega)], preferred⟩
  · rw [reassessBest_bestIndex_of_ne_one several]
    rcases scanned.chosen with ⟨unset, -⟩ | ⟨b, -, preferred⟩
    · rw [if_pos unset]
    · exact absurd preferred.candidate (absent b preferred.lt)

/-- Three servers whose last reports succeeded, the second and the third with averages. -/
theorem reassessBest_picks_preferred_healthy :
    ∃ b : Nat, ((⟨defaultLatencyConfig, ["a", "b", "c"], 3, 0,
        [⟨0, false, 0⟩, ⟨0, false, 7⟩, ⟨0, false, 5⟩], 0, 0, 0, 0, 0, .algNone⟩ :
          Latency String).reassessBest 0).bestIndex = b ∧
      Preferred [⟨0, false, 0⟩, ⟨0, false, 7⟩, ⟨0, false, 5⟩] 3 b :=
  (@reassessBest_picks_preferred String ⟨defaultLatencyConfig, ["a", "b", "c"], 3, 0,
    [⟨0, false, 0⟩, ⟨0, false, 7⟩, ⟨0, false, 5⟩], 0, 0, 0, 0, 0, .algNone⟩
    (by decide) (by decide) 0).2.1 ⟨0, by decide, by decide⟩

/-- A server rehabilitated by a reassessment is not chosen by it: of three failing servers, the
first has been idle past `ResetFailedAfter` and is reset, and still the best moves on from the
second to the third, which is failing. -/
theorem reassessBest_passes_over_rehabilitated :
    ((⟨⟨0, 0, 10, 0, 0⟩, ["a", "b", "c"], 3, 1, [⟨0, true, 0⟩, ⟨20, true, 0⟩, ⟨15, true, 0⟩],
        0, 0, 0, 1, 0, .algFirstCab⟩ : Latency String).reassessBest 20).stats =
        [{}, ⟨20, true, 0⟩, ⟨15, true, 0⟩] ∧
      ((⟨⟨0, 0, 10, 0, 0⟩, ["a", "b", "c"], 3, 1, [⟨0, true, 0⟩, ⟨20, true, 0⟩, ⟨15, true, 0⟩],
        0, 0, 0, 1, 0, .algFirstCab⟩ : Latency String).reassessBest 20).bestIndex = 2 := by
  decide

end Trustydns.BestServer.Latency
