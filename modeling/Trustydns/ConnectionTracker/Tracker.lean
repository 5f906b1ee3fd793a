import Mathlib.Data.List.AList
import Mathlib.Algebra.Group.Int
import Mathlib.Algebra.Ring.Int.Defs
import Mathlib.Algebra.Order.Ring.Nat
import Mathlib.Algebra.BigOperators.Group.List

/-! # Connection tracking

`connectiontracker.Tracker` follows the connections of one listen address through the states
`net/http` reports (`ConnState`), counts the sessions multiplexed on each (`SessionAdd`,
`SessionDone`), and reports the counts (`Report`), optionally resetting its statistics. Every
call holds the tracker's mutex, so a run is an interleaving of whole calls.

Between resets the peak connection count is at least the number of open connections
(`Trustydns.ConnectionTracker.report_curr_le_pk`). A reset zeroes the peak
while connections stay open, and the next report then shows a peak below the current count
(`Trustydns.ConnectionTracker.resetWhileOpenReport`).

Each call that returns `false` counts exactly one error, and no other call counts one
(`Tracker.step_counted`), so the error total a report shows is the number of calls since the
last reset that returned `false` (`Trustydns.ConnectionTracker.report_errs_counts_failures`).
-/

namespace Trustydns.ConnectionTracker

/-- `http.ConnState`; `unknown` is a state newer than the tracker knows of. -/
inductive ConnState
  | stateNew
  | stateActive
  | stateIdle
  | stateHijacked
  | stateClosed
  | unknown (code : Nat)
deriving DecidableEq, Repr

/-- `connectionStats`; times are nanoseconds since Go's zero time, so `0` is `IsZero`. -/
structure Connection where
  connStart : Int := 0
  activeStart : Int := 0
  activeFor : Int := 0
  currentSessions : Int := 0
  peakSessions : Int := 0
deriving DecidableEq, Repr

/-- `errIx`: the positions of the error counters. -/
def errNoConnInMap : Nat := 0
def errNoConnForSession : Nat := 1
def errDanglingConn : Nat := 2
def errNegativeConcurrency : Nat := 3
def errConnsLost : Nat := 4
def errUnknownState : Nat := 5
def errArSize : Nat := 6

/-- `trackerStats`; the zero value is what `Report(true)` resets to. -/
structure TrackerStats where
  peakConns : Int := 0
  peakSessions : Int := 0
  connFor : Int := 0
  activeFor : Int := 0
  errors : List Int := List.replicate errArSize 0
deriving DecidableEq, Repr

/-- `Tracker`: its name, the connections by key, and its statistics. -/
structure Tracker where
  name : String
  connMap : AList fun _ : String => Connection
  stats : TrackerStats

/-- The values `Report` prints, in its order. -/
structure TrackerReport where
  curr : Int
  pk : Int
  sess : Int
  errs : Int
  counters : List Int
  connFor : Int
  activeFor : Int
  name : String
deriving DecidableEq, Repr

namespace Tracker

/-- `New`. -/
def New (name : String) : Tracker :=
  ⟨name, ∅, {}⟩

/-- `len(t.connMap)`. -/
def size (t : Tracker) : Nat :=
  t.connMap.keys.length

/-- One more error at position `ix`. -/
def bump (t : Tracker) (ix : Nat) : Tracker :=
  let errors := t.stats.errors.set ix (t.stats.errors.getD ix 0 + 1)
  { t with stats := { t.stats with errors } }

/-- `ConnState`: `true` when the transition made sense for the connection. -/
def ConnState (t : Tracker) (key : String) (now : Int) (state : ConnectionTracker.ConnState) :
    Tracker × Bool :=
  match state, t.connMap.lookup key with
  | .stateNew, found =>
      let t := { t with connMap := t.connMap.insert key { connStart := now } }
      let t := if found.isSome then t.bump errDanglingConn else t
      let cc : Int := t.size
      let t := if cc > t.stats.peakConns then { t with stats := { t.stats with peakConns := cc } }
        else t
      (t, found.isNone)
  | _, none => (t.bump errNoConnInMap, false)
  | .stateActive, some cs =>
      ({ t with connMap := t.connMap.replace key { cs with activeStart := now } }, true)
  | .stateIdle, some cs =>
      if cs.activeStart ≠ 0 then
        let cs := { cs with activeFor := cs.activeFor + (now - cs.activeStart), activeStart := 0 }
        ({ t with connMap := t.connMap.replace key cs }, true)
      else (t, true)
  | .stateHijacked, some cs | .stateClosed, some cs =>
      let activeFor := if cs.activeStart ≠ 0 then cs.activeFor + (now - cs.activeStart)
        else cs.activeFor
      let t := { t with stats := { t.stats with connFor := t.stats.connFor + (now - cs.connStart),
                                                activeFor := t.stats.activeFor + activeFor },
                        connMap := t.connMap.erase key }
      if cs.currentSessions > 0 then (t.bump errConnsLost, false)
      else if cs.peakSessions > t.stats.peakSessions then
        ({ t with stats := { t.stats with peakSessions := cs.peakSessions } }, true)
      else (t, true)
  | .unknown _, some _ => (t.bump errUnknownState, false)

/-- `SessionAdd`. -/
def SessionAdd (t : Tracker) (key : String) : Tracker × Bool :=
  match t.connMap.lookup key with
  | none => (t.bump errNoConnForSession, false)
  | some cs =>
      let currentSessions := cs.currentSessions + 1
      let peakSessions := if currentSessions > cs.peakSessions then currentSessions
        else cs.peakSessions
      ({ t with connMap := t.connMap.replace key { cs with currentSessions, peakSessions } }, true)

/-- `SessionDone`. -/
def SessionDone (t : Tracker) (key : String) : Tracker × Bool :=
  match t.connMap.lookup key with
  | none => (t.bump errNoConnForSession, false)
  | some cs =>
      if cs.currentSessions ≤ 0 then (t.bump errNegativeConcurrency, false)
      else
        let cs := { cs with currentSessions := cs.currentSessions - 1 }
        ({ t with connMap := t.connMap.replace key cs }, true)

/-- `Report`: the values printed, and the tracker after an optional reset of its statistics
(the per-connection `resetCounters` does nothing). -/
def Report (t : Tracker) (resetCounters : Bool) : Tracker × TrackerReport :=
  let report : TrackerReport :=
    { curr := t.size, pk := t.stats.peakConns, sess := t.stats.peakSessions,
      errs := t.stats.errors.sum, counters := t.stats.errors, connFor := t.stats.connFor,
      activeFor := t.stats.activeFor, name := t.name }
  (if resetCounters then { t with stats := {} } else t, report)

end Tracker

/-- A call on the tracker. -/
inductive Call
  | connState (key : String) (now : Int) (state : ConnState)
  | sessionAdd (key : String)
  | sessionDone (key : String)
  | report (resetCounters : Bool)
deriving DecidableEq, Repr

/-- The tracker after one call. -/
def Tracker.step (t : Tracker) : Call → Tracker
  | .connState key now state => (t.ConnState key now state).1
  | .sessionAdd key => (t.SessionAdd key).1
  | .sessionDone key => (t.SessionDone key).1
  | .report resetCounters => (t.Report resetCounters).1

/-- The tracker after a sequence of calls. -/
def Tracker.run (t : Tracker) (calls : List Call) : Tracker :=
  calls.foldl Tracker.step t

/-! ## The peak connection count -/

namespace Tracker

@[simp] theorem bump_connMap (t : Tracker) (ix : Nat) : (t.bump ix).connMap = t.connMap := rfl

@[simp] theorem bump_peakConns (t : Tracker) (ix : Nat) :
    (t.bump ix).stats.peakConns = t.stats.peakConns := rfl

/-- What `Report` shows in its first two columns, `curr ≤ pk`. -/
def PeakCovers (t : Tracker) : Prop :=
  (t.size : Int) ≤ t.stats.peakConns

theorem peakCovers_iff_report (t : Tracker) (resetCounters : Bool) :
    t.PeakCovers ↔ (t.Report resetCounters).2.curr ≤ (t.Report resetCounters).2.pk :=
  Iff.rfl

theorem peakCovers_new (name : String) : (New name).PeakCovers :=
  le_refl 0

/-- A new connection lifts the peak to at least the connection count. -/
theorem ConnState_stateNew_covers (t : Tracker) (key : String) (now : Int) :
    (t.ConnState key now .stateNew).1.PeakCovers := by
  simp only [ConnState, PeakCovers]
  split_ifs <;> simp_all [size]

/-- Every other transition keeps the peak and never adds a connection. -/
theorem ConnState_size_peak (t : Tracker) (key : String) (now : Int)
    {state : ConnectionTracker.ConnState} (notNew : state ≠ .stateNew) :
    (t.ConnState key now state).1.size ≤ t.size ∧
      (t.ConnState key now state).1.stats.peakConns = t.stats.peakConns := by
  unfold ConnState
  cases state
  case stateNew => exact absurd rfl notNew
  all_goals
    cases t.connMap.lookup key <;> simp only [size] <;> (try split_ifs) <;>
      simp [List.length_erase_le]

/-- Sessions never change the connections or the peak. -/
theorem SessionAdd_size_peak (t : Tracker) (key : String) :
    (t.SessionAdd key).1.size = t.size ∧
      (t.SessionAdd key).1.stats.peakConns = t.stats.peakConns := by
  unfold SessionAdd
  cases t.connMap.lookup key <;> simp [size]

theorem SessionDone_size_peak (t : Tracker) (key : String) :
    (t.SessionDone key).1.size = t.size ∧
      (t.SessionDone key).1.stats.peakConns = t.stats.peakConns := by
  unfold SessionDone
  cases t.connMap.lookup key <;> simp only [size] <;> (try split_ifs) <;> simp

/-- `Report(true)` zeroes the peak and keeps every connection. -/
theorem Report_reset (t : Tracker) :
    (t.Report true).1.size = t.size ∧ (t.Report true).1.stats.peakConns = 0 :=
  ⟨rfl, rfl⟩

theorem PeakCovers.of_size_le {t t' : Tracker} (covers : t.PeakCovers) (fewer : t'.size ≤ t.size)
    (same : t'.stats.peakConns = t.stats.peakConns) : t'.PeakCovers := by
  unfold PeakCovers at *
  omega

/-- **Every call but a reset keeps the peak at least the connection count.** -/
theorem PeakCovers.step {t : Tracker} (covers : t.PeakCovers) {call : Call}
    (notReset : call ≠ .report true) : (t.step call).PeakCovers := by
  cases call with
  | connState key now state =>
      by_cases isNew : state = .stateNew
      · subst isNew
        exact ConnState_stateNew_covers t key now
      · obtain ⟨fewer, same⟩ := ConnState_size_peak t key now isNew
        exact covers.of_size_le fewer same
  | sessionAdd key =>
      obtain ⟨same, peak⟩ := SessionAdd_size_peak t key
      exact covers.of_size_le same.le peak
  | sessionDone key =>
      obtain ⟨same, peak⟩ := SessionDone_size_peak t key
      exact covers.of_size_le same.le peak
  | report resetCounters =>
      cases resetCounters
      · exact covers
      · exact absurd rfl notReset

theorem run_append (t : Tracker) (before after : List Call) :
    t.run (before ++ after) = (t.run before).run after :=
  List.foldl_append _ _ _ _

theorem PeakCovers.run {t : Tracker} (covers : t.PeakCovers) {calls : List Call}
    (noReset : Call.report true ∉ calls) : (t.run calls).PeakCovers := by
  induction calls generalizing t with
  | nil => exact covers
  | cons call rest ih =>
      rw [List.mem_cons, not_or] at noReset
      exact ih (covers.step (Ne.symm noReset.1)) noReset.2

end Tracker

/-- **Between resets every report shows a peak at least its connection count**: in a run from
`New`, a report made when no `Report(true)` has come since the start, or since a new
connection, shows `curr ≤ pk`. -/
theorem report_curr_le_pk (name : String) (pre post : List Call) (resetCounters : Bool)
    (restarted : pre = [] ∨ ∃ before key now, pre = before ++ [.connState key now .stateNew])
    (noReset : Call.report true ∉ post) :
    (((Tracker.New name).run (pre ++ post)).Report resetCounters).2.curr ≤
      (((Tracker.New name).run (pre ++ post)).Report resetCounters).2.pk := by
  have start : ((Tracker.New name).run pre).PeakCovers := by
    rcases restarted with rfl | ⟨before, key, now, rfl⟩
    · exact Tracker.peakCovers_new name
    · rw [Tracker.run_append]
      exact Tracker.ConnState_stateNew_covers _ key now
  rw [Tracker.run_append]
  exact (Tracker.peakCovers_iff_report _ resetCounters).mp (start.run noReset)

theorem report_curr_le_pk_after_reconnect :
    Call.report true ∉ [Call.sessionAdd "b", .connState "a" 3 .stateClosed] ∧
      (((Tracker.New "Filo").run ([.connState "a" 1 .stateNew, .report true,
          .connState "b" 2 .stateNew] ++ [.sessionAdd "b", .connState "a" 3 .stateClosed])).Report
          false).2.curr ≤
        (((Tracker.New "Filo").run ([.connState "a" 1 .stateNew, .report true,
          .connState "b" 2 .stateNew] ++ [.sessionAdd "b", .connState "a" 3 .stateClosed])).Report
          false).2.pk :=
  ⟨by decide, report_curr_le_pk "Filo" _ _ false
    (.inr ⟨[.connState "a" 1 .stateNew, .report true], "b", 2, rfl⟩) (by decide)⟩


/-- **A reset while a connection is open leaves a peak below the count**: after a new
connection and `Report(true)`, the next report shows `curr=1 pk=0`. -/
theorem resetWhileOpenReport :
    (((Tracker.New "Filo").run [.connState "one" 1 .stateNew, .report true]).Report
        false).2.curr = 1 ∧
      (((Tracker.New "Filo").run [.connState "one" 1 .stateNew, .report true]).Report
        false).2.pk = 0 := by
  decide

/-! ## The error counters -/

namespace Tracker

/-- What a call returns: `ConnState`, `SessionAdd` and `SessionDone` their `bool`; `Report`
returns its text and fails for no connection. -/
def succeeds (t : Tracker) : Call → Bool
  | .connState key now state => (t.ConnState key now state).2
  | .sessionAdd key => (t.SessionAdd key).2
  | .sessionDone key => (t.SessionDone key).2
  | .report _ => true

/-- The calls of a run that return `false`. -/
def failures (t : Tracker) : List Call → Nat
  | [] => 0
  | call :: rest => (if t.succeeds call then 0 else 1) + (t.step call).failures rest

/-- What a call does to the error counters: it keeps their positions, and counts one more error
exactly when it returns `false`. -/
def Counted (t t' : Tracker) (ok : Bool) : Prop :=
  t'.stats.errors.length = t.stats.errors.length ∧
    t'.stats.errors.sum = t.stats.errors.sum + if ok then 0 else 1

theorem Counted.bump (t : Tracker) {ix : Nat} (within : ix < t.stats.errors.length) :
    Counted t (t.bump ix) false := by
  refine ⟨List.length_set .., ?_⟩
  simp only [Tracker.bump, List.sum_set', dif_pos within, List.getD_eq_getElem?_getD,
    List.getElem?_eq_getElem within, Option.getD_some, Bool.false_eq_true, ↓reduceIte]
  omega

theorem Counted.of_errors {t t' : Tracker} (same : t'.stats.errors = t.stats.errors) :
    Counted t t' true := by
  simp [Counted, same]

/-- The positions of the error counters: `errArSize` of them. -/
def Sized (t : Tracker) : Prop :=
  t.stats.errors.length = errArSize

variable {t : Tracker} (sized : t.Sized)
include sized

/-- A call that counts an error on a tracker with the same counters. -/
theorem Sized.bump {t' : Tracker} (same : t'.stats.errors = t.stats.errors) {ix : Nat}
    (within : ix < errArSize) : Counted t (t'.bump ix) false := by
  have counted := Counted.bump t' (by rw [same, sized]; exact within)
  unfold Counted at *
  rwa [same] at counted

theorem ConnState_counted (key : String) (now : Int) (state : ConnectionTracker.ConnState) :
    Counted t (t.ConnState key now state).1 (t.ConnState key now state).2 := by
  unfold ConnState
  cases found : t.connMap.lookup key with
  | none =>
      cases state
      case stateNew =>
        dsimp only
        simp only [Option.isSome_none, Bool.false_eq_true, ↓reduceIte, Option.isNone_none]
        split_ifs <;> exact Counted.of_errors rfl
      all_goals exact sized.bump rfl (by decide)
  | some cs =>
      cases state
      case stateNew =>
        dsimp only
        simp only [Option.isSome_some, ↓reduceIte, Option.isNone_some]
        split_ifs <;> exact sized.bump rfl (by decide)
      case stateActive => exact Counted.of_errors rfl
      case stateIdle =>
        dsimp only
        split_ifs <;> exact Counted.of_errors rfl
      case unknown => exact sized.bump rfl (by decide)
      -- hijacked or closed: an error only when sessions are lost with the connection
      all_goals
        dsimp only
        by_cases lost : cs.currentSessions > 0
        · rw [if_pos lost]
          exact sized.bump rfl (by decide)
        · rw [if_neg lost]
          split_ifs <;> exact Counted.of_errors rfl

theorem SessionAdd_counted (key : String) :
    Counted t (t.SessionAdd key).1 (t.SessionAdd key).2 := by
  unfold SessionAdd
  cases t.connMap.lookup key
  · exact sized.bump rfl (by decide)
  · exact Counted.of_errors rfl

theorem SessionDone_counted (key : String) :
    Counted t (t.SessionDone key).1 (t.SessionDone key).2 := by
  unfold SessionDone
  cases t.connMap.lookup key with
  | none => exact sized.bump rfl (by decide)
  | some cs =>
      dsimp only
      split_ifs
      · exact sized.bump rfl (by decide)
      · exact Counted.of_errors rfl

/-- **Every call but a reset counts one error exactly when it returns `false`.** -/
theorem step_counted {call : Call} (notReset : call ≠ .report true) :
    Counted t (t.step call) (t.succeeds call) := by
  cases call with
  | connState key now state => exact ConnState_counted sized key now state
  | sessionAdd key => exact SessionAdd_counted sized key
  | sessionDone key => exact SessionDone_counted sized key
  | report resetCounters =>
      cases resetCounters
      · exact Counted.of_errors rfl
      · exact absurd rfl notReset

omit sized in
/-- A reset leaves `errArSize` counters, all zero. -/
theorem reset_counters (t : Tracker) :
    (t.step (.report true)).Sized ∧ (t.step (.report true)).stats.errors.sum = 0 :=
  ⟨rfl, rfl⟩

/-- Between resets the counters grow by the calls that return `false`. -/
theorem run_counted {calls : List Call} (noReset : Call.report true ∉ calls) :
    (t.run calls).Sized ∧
      (t.run calls).stats.errors.sum = t.stats.errors.sum + t.failures calls := by
  induction calls generalizing t with
  | nil => exact ⟨sized, by simp [run, failures]⟩
  | cons call rest ih =>
      rw [List.mem_cons, not_or] at noReset
      obtain ⟨same, counted⟩ := step_counted sized (Ne.symm noReset.1)
      obtain ⟨sized', grown⟩ := ih (same.trans sized) noReset.2
      refine ⟨sized', ?_⟩
      rw [show t.run (call :: rest) = (t.step call).run rest from rfl, grown, counted]
      simp only [failures, Nat.cast_add, Nat.cast_ite, Nat.cast_zero, Nat.cast_one]
      exact add_assoc _ _ _

end Tracker

/-- **The report's error total counts the failed calls since the last reset**: in a run from
`New`, a report made when no `Report(true)` has come since the start, or since the last
`Report(true)`, shows as `errs` the number of calls since then that returned `false`. -/
theorem report_errs_counts_failures (name : String) (pre post : List Call) (resetCounters : Bool)
    (restarted : pre = [] ∨ ∃ before, pre = before ++ [.report true])
    (noReset : Call.report true ∉ post) :
    (((Tracker.New name).run (pre ++ post)).Report resetCounters).2.errs =
      ((Tracker.New name).run pre).failures post := by
  have start : ((Tracker.New name).run pre).Sized ∧
      ((Tracker.New name).run pre).stats.errors.sum = 0 := by
    rcases restarted with rfl | ⟨before, rfl⟩
    · exact ⟨rfl, rfl⟩
    · rw [Tracker.run_append]
      exact Tracker.reset_counters _
  rw [Tracker.run_append]
  obtain ⟨-, counted⟩ := Tracker.run_counted start.1 noReset
  simp only [Tracker.Report, counted, start.2, zero_add]

theorem report_errs_counts_failures_three :
    ([Call.connState "a" 1 .stateNew, .report true] = [] ∨
        ∃ before, [Call.connState "a" 1 .stateNew, .report true] = before ++ [.report true]) ∧
      Call.report true ∉ [.sessionDone "a", .connState "a" 2 .stateNew, .sessionAdd "b"] ∧
      (((Tracker.New "Filo").run ([.connState "a" 1 .stateNew, .report true] ++
          [.sessionDone "a", .connState "a" 2 .stateNew, .sessionAdd "b"])).Report false).2.errs =
        ((Tracker.New "Filo").run [.connState "a" 1 .stateNew, .report true]).failures
          [.sessionDone "a", .connState "a" 2 .stateNew, .sessionAdd "b"] :=
  ⟨.inr ⟨[.connState "a" 1 .stateNew], rfl⟩, by decide,
    report_errs_counts_failures "Filo" _ _ false (.inr ⟨[.connState "a" 1 .stateNew], rfl⟩)
      (by decide)⟩

example : ((Tracker.New "Filo").run [.connState "a" 1 .stateNew, .report true]).failures
    [.sessionDone "a", .connState "a" 2 .stateNew, .sessionAdd "b"] = 3 := by
  decide

end Trustydns.ConnectionTracker
