import Trustydns.BestServer.Latency

/-! # Well-formedness of latency managers

Every index a latency manager keeps (`bestIndex`, `saveBestIndex`, `sampleIndex`) stays an
index of its server list in every state reachable from `NewLatency`
(`Trustydns.BestServer.Latency.Reachable.valid`). The proof goes one layer at a time: the
loop of `reassessBest` only ever picks an index it visits, `reassessBest` and the sampling
step only assign indices reduced modulo the server count, and `Result` is their composition.
-/

namespace Trustydns.BestServer.Latency

variable {Server : Type}

/-- An index of a list of `n` servers. -/
def InRange (i n : Int) : Prop :=
  0 ≤ i ∧ i < n

/-- The well-formedness every reachable latency manager keeps. -/
structure Valid (t : Latency Server) : Prop where
  nodup : t.servers.Nodup
  nonempty : t.servers ≠ []
  count : t.serverCount = t.servers.length
  stats_length : t.stats.length = t.servers.length
  bestIndex_mem : InRange t.bestIndex t.serverCount
  saveBestIndex_mem : InRange t.saveBestIndex t.serverCount
  sampleIndex_mem : InRange t.sampleIndex t.serverCount
  resetFailedAfter_nonneg : 0 ≤ t.config.resetFailedAfter

theorem Valid.count_pos {t : Latency Server} (valid : t.Valid) : 0 < t.serverCount := by
  have := valid.bestIndex_mem
  unfold InRange at this
  omega

/-- The round-robin successor of an index is an index. -/
theorem inRange_rem_succ {i n : Int} (mem : InRange i n) : InRange (Go.rem (i + 1) n) n :=
  Go.rem_mem_range (by have := mem.1; omega) (by have := mem.1; have := mem.2; omega)

/-! ## The loop of `reassessBest` -/

section Scan

variable (resetFailedAfter now : Int)

/-- **What one iteration of the loop can do**: nothing, rehabilitate the failed server it
visits, or make the server it visits, which is not failing, the tentative best. -/
theorem scanStep_cases (scan : Scan) (ix : Nat) :
    scanStep resetFailedAfter now scan ix = scan ∨
      ((statsAt scan.stats ix).lastStatusWasFailure = true ∧
        (statsAt scan.stats ix).lastStatusTime + resetFailedAfter < now ∧
        scanStep resetFailedAfter now scan ix = { scan with stats := scan.stats.set ix {} }) ∨
      ((statsAt scan.stats ix).lastStatusWasFailure = false ∧
        ∃ rationale, scanStep resetFailedAfter now scan ix =
          { scan with newBest := ix, rationale := rationale }) := by
  unfold scanStep
  dsimp only
  split_ifs <;> simp_all

@[simp] theorem scanStep_stats_length (scan : Scan) (ix : Nat) :
    (scanStep resetFailedAfter now scan ix).stats.length = scan.stats.length := by
  rcases scanStep_cases resetFailedAfter now scan ix with same | ⟨-, -, reset⟩ | ⟨-, _, picked⟩
  · rw [same]
  · rw [reset, List.length_set]
  · rw [picked]

/-- An iteration keeps the tentative best or takes the index it visits. -/
theorem scanStep_newBest (scan : Scan) (ix : Nat) :
    (scanStep resetFailedAfter now scan ix).newBest = scan.newBest ∨
      (scanStep resetFailedAfter now scan ix).newBest = ix := by
  rcases scanStep_cases resetFailedAfter now scan ix with same | ⟨-, -, reset⟩ | ⟨-, _, picked⟩
  · exact .inl (by rw [same])
  · exact .inl (by rw [reset])
  · exact .inr (by rw [picked])

theorem foldl_scanStep_stats_length (indices : List Nat) (scan : Scan) :
    (indices.foldl (scanStep resetFailedAfter now) scan).stats.length = scan.stats.length := by
  induction indices generalizing scan with
  | nil => rfl
  | cons ix rest ih => rw [List.foldl_cons, ih, scanStep_stats_length]

/-- **The loop only ever picks an index it visits.** -/
theorem foldl_scanStep_newBest (indices : List Nat) (scan : Scan) :
    (indices.foldl (scanStep resetFailedAfter now) scan).newBest = scan.newBest ∨
      ∃ ix ∈ indices, (indices.foldl (scanStep resetFailedAfter now) scan).newBest = ix := by
  induction indices generalizing scan with
  | nil => exact .inl rfl
  | cons ix rest ih =>
      rw [List.foldl_cons]
      rcases ih (scanStep resetFailedAfter now scan ix) with same | ⟨later, member, picked⟩
      · rcases scanStep_newBest resetFailedAfter now scan ix with kept | visited
        · exact .inl (same.trans kept)
        · exact .inr ⟨ix, List.mem_cons_self _ _, same.trans visited⟩
      · exact .inr ⟨later, List.mem_cons_of_mem _ member, picked⟩

end Scan

theorem scan_stats_length (t : Latency Server) (now : Int) :
    (t.scan now).stats.length = t.stats.length :=
  foldl_scanStep_stats_length _ _ _ _

/-- The tentative best after the whole loop is `-1` or an index of the list. -/
theorem scan_newBest (t : Latency Server) (now : Int) :
    (t.scan now).newBest = -1 ∨ InRange (t.scan now).newBest t.serverCount := by
  rcases foldl_scanStep_newBest t.config.resetFailedAfter now _ _ with none | ⟨ix, member, picked⟩
  · exact .inl none
  · right
    rw [List.mem_range] at member
    unfold scan
    rw [picked]
    constructor <;> omega

/-! ## `reassessBest`, `assess` and `Result` -/

@[simp] theorem reassessBest_servers (t : Latency Server) (now : Int) :
    (t.reassessBest now).servers = t.servers := by
  unfold reassessBest; dsimp only; split_ifs <;> rfl

@[simp] theorem reassessBest_serverCount (t : Latency Server) (now : Int) :
    (t.reassessBest now).serverCount = t.serverCount := by
  unfold reassessBest; dsimp only; split_ifs <;> rfl

@[simp] theorem reassessBest_config (t : Latency Server) (now : Int) :
    (t.reassessBest now).config = t.config := by
  unfold reassessBest; dsimp only; split_ifs <;> rfl

@[simp] theorem reassessBest_sampleIndex (t : Latency Server) (now : Int) :
    (t.reassessBest now).sampleIndex = t.sampleIndex := by
  unfold reassessBest; dsimp only; split_ifs <;> rfl

theorem reassessBest_stats_length (t : Latency Server) (now : Int) :
    (t.reassessBest now).stats.length = t.stats.length := by
  unfold reassessBest; dsimp only; split_ifs <;> simp [scan_stats_length]

/-- `reassessBest` leaves the best on an index of the list. -/
theorem reassessBest_bestIndex_mem {t : Latency Server} (mem : InRange t.bestIndex t.serverCount)
    (now : Int) : InRange (t.reassessBest now).bestIndex t.serverCount := by
  unfold reassessBest
  dsimp only
  split_ifs with one none
  · exact mem
  · exact inRange_rem_succ mem
  · exact (scan_newBest t now).resolve_left none

@[simp] theorem reassessBest_saveBestIndex (t : Latency Server) (now : Int) :
    (t.reassessBest now).saveBestIndex = t.saveBestIndex := by
  unfold reassessBest; dsimp only; split_ifs <;> rfl

theorem Valid.reassessBest {t : Latency Server} (valid : t.Valid) (now : Int) :
    (t.reassessBest now).Valid where
  nodup := by simpa using valid.nodup
  nonempty := by simpa using valid.nonempty
  count := by simpa using valid.count
  stats_length := by rw [reassessBest_stats_length, reassessBest_servers, valid.stats_length]
  bestIndex_mem := by simpa using reassessBest_bestIndex_mem valid.bestIndex_mem now
  saveBestIndex_mem := by simpa using valid.saveBestIndex_mem
  sampleIndex_mem := by simpa using valid.sampleIndex_mem
  resetFailedAfter_nonneg := by simpa using valid.resetFailedAfter_nonneg

theorem Valid.reassessIfDue {t : Latency Server} (valid : t.Valid) (now ix : Int)
    (success : Bool) : (t.reassessIfDue now ix success).Valid := by
  unfold Latency.reassessIfDue
  dsimp only
  split_ifs
  · have reassessed := Valid.reassessBest
      (show ({ t with assessCount := t.assessCount + 1 } : Latency Server).Valid from { valid with })
      now
    exact { reassessed with saveBestIndex_mem := reassessed.bestIndex_mem }
  · exact { valid with }

theorem Valid.sample {t : Latency Server} (valid : t.Valid) : t.sample.Valid := by
  unfold Latency.sample
  dsimp only
  have next := inRange_rem_succ valid.sampleIndex_mem
  split_ifs
  · exact { valid with bestIndex_mem := valid.saveBestIndex_mem }
  · exact { valid with bestIndex_mem := next, sampleIndex_mem := next }
  · exact { valid with sampleIndex_mem := next }

theorem Valid.assess {t : Latency Server} (valid : t.Valid) (now ix : Int) (success : Bool) :
    (t.assess now ix success).Valid :=
  (valid.reassessIfDue now ix success).sample

@[simp] theorem reassessIfDue_servers (t : Latency Server) (now ix : Int) (success : Bool) :
    (t.reassessIfDue now ix success).servers = t.servers := by
  unfold Latency.reassessIfDue; dsimp only; split_ifs <;> simp

@[simp] theorem sample_servers (t : Latency Server) : t.sample.servers = t.servers := by
  unfold Latency.sample; dsimp only; split_ifs <;> rfl

variable [DecidableEq Server]

@[simp] theorem result_servers (t : Latency Server) (server : Server) (success : Bool)
    (now latency : Int) : (t.Result server success now latency).1.servers = t.servers := by
  unfold Latency.Result assess; split <;> simp

theorem Valid.step {t : Latency Server} (valid : t.Valid) (call : Call Server) :
    (t.step call).Valid := by
  unfold Latency.step Latency.Result
  split
  · exact valid
  · dsimp only
    apply Valid.assess
    exact { valid with stats_length := by simpa using valid.stats_length }

theorem valid_newLatency {name : Server → String} {config : LatencyConfig}
    {servers : List Server} {t : Latency Server}
    (created : NewLatency name config servers = .ok t) : t.Valid := by
  unfold NewLatency at created
  cases accepted : init name servers with
  | error message => simp [accepted] at created
  | ok _ =>
      obtain ⟨nonempty, nodup⟩ := (init_eq_ok_iff name servers).mp accepted
      have positive : (0 : Int) < servers.length := by
        simpa [List.length_pos] using nonempty
      simp only [accepted] at created
      split_ifs at created with negAfter negCount weight negReset negSample
      simp only [Except.ok.injEq] at created
      subst created
      refine ⟨nodup, nonempty, rfl, by simp, ⟨le_refl 0, positive⟩, ⟨le_refl 0, positive⟩,
        ⟨le_refl 0, positive⟩, ?_⟩
      simp only [withDefaults, defaultLatencyConfig]
      split_ifs <;> omega

theorem Reachable.run {t : Latency Server} (reachable : t.Reachable) (calls : List (Call Server)) :
    (t.run calls).Reachable := by
  induction calls generalizing t with
  | nil => exact reachable
  | cons call rest ih => exact ih (reachable.step call)

/-- **Every reachable latency manager is well formed.** -/
theorem Reachable.valid {t : Latency Server} (reachable : t.Reachable) : t.Valid := by
  induction reachable with
  | new created => exact valid_newLatency created
  | step call _ ih => exact ih.step call

omit [DecidableEq Server] in
/-- A well-formed manager's `Best` returns the server at its index. -/
theorem Valid.best_spec {t : Latency Server} (valid : t.Valid) :
    ∃ server, t.Best = some (server, t.bestIndex) ∧
      t.servers.get? t.bestIndex.toNat = some server :=
  best_of_mem_range valid.bestIndex_mem.1 (valid.count ▸ valid.bestIndex_mem.2)

end Trustydns.BestServer.Latency
