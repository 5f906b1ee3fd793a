import Trustydns.BestServer.Base

/-! # The latency best-server algorithm

`bestserver.latency` keeps, per server, the time and outcome of its last report and an
exponentially weighted average of its latencies. A report on the best server that is a
failure, or that comes after `ReassessCount` reports or past `bestExpires`, rescans the list
(`reassessBest`): failed servers idle for `ResetFailedAfter` are rehabilitated, and the best
becomes the fastest server not failing, or the next server round-robin when all fail. Every
`SampleOthersEvery` reports the best is lent for one report to the next sample server that is
not failing, and it reverts to the saved best (`saveBestIndex`) on the report after.

`Result` is split as the source splits it: the statistics update, then `assess`, itself the
reassessment of `reassessBest` followed by the sampling step.
-/

namespace Trustydns.BestServer

/-- `LatencyConfig`: the tuning parameters, durations in nanoseconds. -/
structure LatencyConfig where
  reassessAfter : Int
  reassessCount : Int
  resetFailedAfter : Int
  sampleOthersEvery : Int
  weightForLatest : Int
deriving DecidableEq, Repr

/-- `DefaultLatencyConfig`. -/
def defaultLatencyConfig : LatencyConfig where
  reassessCount := 1061
  reassessAfter := 61 * 1000000000
  weightForLatest := 67
  resetFailedAfter := 3 * 60 * 1000000000
  sampleOthersEvery := 20

/-- `reassessAlgorithm`: why `reassessBest` chose the best it chose. -/
inductive ReassessAlgorithm
  | algNone
  | algOnlyOne
  | algFirstCab
  | algSecondCab
  | algFastest
  | algAllBad
deriving DecidableEq, Repr

/-- `latencyServerStats`; the defaults are Go's zero values. -/
structure LatencyServerStats where
  lastStatusTime : Int := 0
  lastStatusWasFailure : Bool := false
  weightedAverage : Int := 0
deriving DecidableEq, Repr

/-- The state of a `latency` manager: its `baseManager` fields and its own. -/
structure Latency (Server : Type) where
  config : LatencyConfig
  servers : List Server
  serverCount : Int
  bestIndex : Int
  stats : List LatencyServerStats
  assessCount : Int
  sampleCount : Int
  sampleIndex : Int
  saveBestIndex : Int
  bestExpires : Int
  reassessRationale : ReassessAlgorithm

namespace Latency

variable {Server : Type} [DecidableEq Server]

/-- The zero values `NewLatency` leaves in place of a zero parameter are the defaults. -/
def withDefaults (config : LatencyConfig) : LatencyConfig where
  reassessAfter :=
    if config.reassessAfter = 0 then defaultLatencyConfig.reassessAfter else config.reassessAfter
  reassessCount :=
    if config.reassessCount = 0 then defaultLatencyConfig.reassessCount else config.reassessCount
  weightForLatest :=
    if config.weightForLatest = 0 then defaultLatencyConfig.weightForLatest
    else config.weightForLatest
  resetFailedAfter :=
    if config.resetFailedAfter = 0 then defaultLatencyConfig.resetFailedAfter
    else config.resetFailedAfter
  sampleOthersEvery :=
    if config.sampleOthersEvery = 0 then defaultLatencyConfig.sampleOthersEvery
    else config.sampleOthersEvery

/-- `NewLatency`: `init`, the parameter checks in the source's order, then the defaults. -/
def NewLatency (name : Server → String) (config : LatencyConfig) (servers : List Server) :
    Except String (Latency Server) :=
  match init name servers with
  | .error message => .error message
  | .ok () =>
      if config.reassessAfter < 0 then
        .error ("ReassessAfter is  negative: " ++ toString config.reassessAfter)
      else if config.reassessCount < 0 then
        .error ("ReassessCount is negative: " ++ toString config.reassessCount)
      else if config.weightForLatest < 0 ∨ config.weightForLatest > 100 then
        .error ("WeightForLatest is not in range 0-100: " ++ toString config.weightForLatest)
      else if config.resetFailedAfter < 0 then
        .error ("ResetFailedAfter is negative: " ++ toString config.resetFailedAfter)
      else if config.sampleOthersEvery < 0 then
        .error ("SampleOthersEvery is negative: " ++ toString config.sampleOthersEvery)
      else
        .ok { config := withDefaults config, servers, serverCount := servers.length,
              bestIndex := 0, stats := List.replicate servers.length {}, assessCount := 0,
              sampleCount := 0, sampleIndex := 0, saveBestIndex := 0, bestExpires := 0,
              reassessRationale := .algNone }

/-- `Best` of a latency manager. -/
def Best (t : Latency Server) : Option (Server × Int) :=
  best t.servers t.bestIndex

/-- `t.stats[ix]`; the default stands for Go's out-of-range panic, which the well-formedness
invariant rules out. -/
def statsAt (stats : List LatencyServerStats) (ix : Int) : LatencyServerStats :=
  stats.getD ix.toNat {}

@[simp] theorem statsAt_set_ne {stats : List LatencyServerStats} {ix j : Nat} (other : ix ≠ j)
    (value : LatencyServerStats) : statsAt (stats.set ix value) j = statsAt stats j := by
  simp [statsAt, other]

theorem statsAt_set_self {stats : List LatencyServerStats} {ix : Nat} (bound : ix < stats.length)
    (value : LatencyServerStats) : statsAt (stats.set ix value) ix = value := by
  simp [statsAt, bound]

/-- The statistics update at the head of `latency.Result`: the status is recorded, and a
success folds the latency into the weighted average with Go's `int64` arithmetic. -/
def recordStats (weightForLatest : Int) (stats : LatencyServerStats) (success : Bool)
    (now latency : Int) : LatencyServerStats :=
  let stats := { stats with lastStatusWasFailure := !success, lastStatusTime := now }
  if success then
    if stats.weightedAverage = 0 then { stats with weightedAverage := latency }
    else
      let current := Go.mul64 latency weightForLatest
      let historic := Go.mul64 stats.weightedAverage (100 - weightForLatest)
      { stats with weightedAverage := Go.quo (Go.add64 current historic) 100 }
  else stats

/-- The variables of `reassessBest`'s loop: the statistics it may reset, the tentative best
`newBest` (`-1` for none yet) and the rationale. -/
structure Scan where
  stats : List LatencyServerStats
  newBest : Int
  rationale : ReassessAlgorithm

/-- One iteration of `reassessBest`'s loop, at index `ix`: the first `switch` case that
holds. -/
def scanStep (resetFailedAfter now : Int) (scan : Scan) (ix : Nat) : Scan :=
  let stats := statsAt scan.stats ix
  if stats.lastStatusWasFailure then
    if stats.lastStatusTime + resetFailedAfter < now then
      { scan with stats := scan.stats.set ix {} }
    else scan
  else if scan.newBest = -1 then { scan with rationale := .algFirstCab, newBest := ix }
  else if stats.weightedAverage = 0 then scan
  else if (statsAt scan.stats scan.newBest).weightedAverage = 0 then
    { scan with rationale := .algSecondCab, newBest := ix }
  else if stats.weightedAverage < (statsAt scan.stats scan.newBest).weightedAverage then
    { scan with rationale := .algFastest, newBest := ix }
  else scan

/-- `reassessBest`'s loop over the indices `0 ≤ ix < serverCount`. -/
def scan (t : Latency Server) (now : Int) : Scan :=
  (List.range t.serverCount.toNat).foldl (scanStep t.config.resetFailedAfter now)
    ⟨t.stats, -1, .algNone⟩

/-- `reassessBest`: rehabilitate the failed servers idle long enough and pick the fastest
server not failing, or the next server round-robin when every server fails. -/
def reassessBest (t : Latency Server) (now : Int) : Latency Server :=
  if t.serverCount = 1 then { t with reassessRationale := .algOnlyOne }
  else
    let scanned := t.scan now
    if scanned.newBest = -1 then
      { t with stats := scanned.stats, reassessRationale := .algAllBad,
               bestIndex := Go.rem (t.bestIndex + 1) t.serverCount,
               bestExpires := now + t.config.reassessAfter }
    else
      { t with stats := scanned.stats, reassessRationale := scanned.rationale,
               bestIndex := scanned.newBest, bestExpires := now + t.config.reassessAfter }

/-- The first half of `assess`: count the report and, when it is on the best server and is a
failure or a threshold is reached, reassess and save the new best. -/
def reassessIfDue (t : Latency Server) (now ix : Int) (success : Bool) : Latency Server :=
  let t := { t with assessCount := t.assessCount + 1 }
  if ix = t.bestIndex ∧
      (success = false ∨ t.assessCount ≥ t.config.reassessCount ∨ now > t.bestExpires) then
    let t := t.reassessBest now
    { t with saveBestIndex := t.bestIndex, assessCount := 0 }
  else t

/-- The second half of `assess`: revert to the saved best, or every `SampleOthersEvery`
reports lend the best to the next sample server that is not failing. -/
def sample (t : Latency Server) : Latency Server :=
  let t := { t with sampleCount := t.sampleCount + 1 }
  if t.sampleCount < t.config.sampleOthersEvery then { t with bestIndex := t.saveBestIndex }
  else
    let t := { t with sampleIndex := Go.rem (t.sampleIndex + 1) t.serverCount }
    if (statsAt t.stats t.sampleIndex).lastStatusWasFailure = false then
      { t with bestIndex := t.sampleIndex, sampleCount := 0 }
    else t

/-- `latency.assess`. -/
def assess (t : Latency Server) (now ix : Int) (success : Bool) : Latency Server :=
  (t.reassessIfDue now ix success).sample

/-- `latency.Result`: `false` for a server not in the list, which changes nothing. -/
def Result (t : Latency Server) (server : Server) (success : Bool) (now latency : Int) :
    Latency Server × Bool :=
  match serverToIndex t.servers server with
  | none => (t, false)
  | some ix =>
      let recorded :=
        recordStats t.config.weightForLatest (statsAt t.stats ix) success now latency
      ({ t with stats := t.stats.set ix recorded }.assess now ix success, true)

/-- The manager after one caller's `Result` call. -/
def step (t : Latency Server) (call : Call Server) : Latency Server :=
  (t.Result call.server call.success call.now call.latency).1

/-- The manager after a sequence of `Result` calls. -/
def run (t : Latency Server) (calls : List (Call Server)) : Latency Server :=
  calls.foldl step t

/-- Managers reachable from `NewLatency` by `Result` calls with any arguments, in any order:
the interleavings of every set of callers. -/
inductive Reachable : Latency Server → Prop
  | new {name : Server → String} {config : LatencyConfig} {servers : List Server}
      {t : Latency Server} : NewLatency name config servers = .ok t → Reachable t
  | step {t : Latency Server} (call : Call Server) : Reachable t → Reachable (t.step call)

end Latency

end Trustydns.BestServer
