import Mathlib.Data.List.Nodup

/-! # Peak concurrency of request handlers

`concurrencytracker.Counter` counts the requests in progress (`current`) and the most it has
seen (`peak`). Every request handler of the proxy and of the server calls `Add` on entry and
`Done` on exit, and the reporter reads `Peak`, resetting the peak to the current count. Each
call holds the counter's mutex, so a run of a daemon is an interleaving of whole calls.

The system is the counter together with the handlers between their `Add` and their `Done`.
Along every interleaving `Done` never panics, `current` counts those handlers and never
exceeds `peak`, and `Peak(false)` returns the largest `current` of the states visited since
the last `Peak(true)`, its own state included
(`Trustydns.ConcurrencyTracker.interleaving_spec`).
-/

namespace Trustydns.ConcurrencyTracker

/-- `concurrencytracker.Counter`; the zero value is a fresh counter. -/
structure Counter where
  current : Int := 0
  peak : Int := 0
deriving DecidableEq, Repr

namespace Counter

/-- `Add`: count one more request; report whether the peak rose. -/
def Add (t : Counter) : Counter × Bool :=
  let current := t.current + 1
  if current > t.peak then ({ current, peak := current }, true) else ({ t with current }, false)

/-- `Done`: count one request less; the error is the panic of a `Done` without an `Add`. -/
def Done (t : Counter) : Except String Counter :=
  if t.current = 0 then .error "concurrencytracker.Done() lacks matching .Add()"
  else .ok { t with current := t.current - 1 }

/-- `Peak`: the peak before the call, and, on a reset, a peak lowered to the current count. -/
def Peak (t : Counter) (resetCounters : Bool) : Counter × Int :=
  (if resetCounters then { t with peak := t.current } else t, t.peak)

@[simp] theorem Add_current (t : Counter) : t.Add.1.current = t.current + 1 := by
  unfold Add; dsimp only; split_ifs <;> rfl

@[simp] theorem Add_peak (t : Counter) : t.Add.1.peak = max t.peak (t.current + 1) := by
  unfold Add; dsimp only; split_ifs <;> simp only <;> omega

theorem Done_eq_ok {t : Counter} (positive : t.current ≠ 0) :
    t.Done = .ok { t with current := t.current - 1 } := by
  simp [Done, positive]

@[simp] theorem Peak_current (t : Counter) (resetCounters : Bool) :
    (t.Peak resetCounters).1.current = t.current := by
  unfold Peak; split_ifs <;> rfl

@[simp] theorem Peak_peak (t : Counter) (resetCounters : Bool) :
    (t.Peak resetCounters).1.peak = if resetCounters then t.current else t.peak := by
  unfold Peak; split_ifs <;> rfl

end Counter

/-- A call of one party: handler `handler` entering (`Add`) or leaving (`Done`), or the
reporter reading the peak. -/
inductive Event
  | add (handler : Nat)
  | done (handler : Nat)
  | peak (resetCounters : Bool)
deriving DecidableEq, Repr

/-- The daemon: its counter and the handlers between their `Add` and their `Done`. -/
structure System where
  counter : Counter
  active : List Nat
deriving DecidableEq, Repr

/-- The daemon before any request. -/
def initial : System :=
  ⟨{}, []⟩

/-- The calls a party may make: a handler enters when it is not in progress and leaves only
when it is; the reporter may read at any time. -/
def Enabled (s : System) : Event → Prop
  | .add handler => handler ∉ s.active
  | .done handler => handler ∈ s.active
  | .peak _ => True

/-- One call; a panic of `Done` is the error. -/
def step (s : System) : Event → Except String System
  | .add handler => .ok ⟨s.counter.Add.1, handler :: s.active⟩
  | .done handler => s.counter.Done.map fun counter => ⟨counter, s.active.erase handler⟩
  | .peak resetCounters => .ok ⟨(s.counter.Peak resetCounters).1, s.active⟩

/-- A run of calls, stopped by the first panic. -/
def execute (s : System) : List Event → Except String System
  | [] => .ok s
  | event :: rest => (step s event).bind fun next => execute next rest

/-- An interleaving: every call is one its party may make in the state it meets. -/
def Admissible (s : System) : List Event → Prop
  | [] => True
  | event :: rest =>
      Enabled s event ∧
        match step s event with
        | .ok next => Admissible next rest
        | .error _ => True

instance (s : System) : (event : Event) → Decidable (Enabled s event)
  | .add handler => inferInstanceAs (Decidable (handler ∉ s.active))
  | .done handler => inferInstanceAs (Decidable (handler ∈ s.active))
  | .peak _ => inferInstanceAs (Decidable True)

/-- Admissibility of an interleaving is decided by running it. -/
instance decidableAdmissible : (s : System) → (events : List Event) → Decidable (Admissible s events)
  | _, [] => isTrue trivial
  | s, event :: rest =>
      match stepped : step s event with
      | .ok next =>
          match decidableAdmissible next rest with
          | isTrue later =>
              if enabled : Enabled s event then isTrue ⟨enabled, by rw [stepped]; exact later⟩
              else isFalse fun admissible => enabled admissible.1
          | isFalse later =>
              isFalse fun admissible => later (by have := admissible.2; rwa [stepped] at this)
      | .error _ =>
          if enabled : Enabled s event then isTrue ⟨enabled, by rw [stepped]; trivial⟩
          else isFalse fun admissible => enabled admissible.1

/-- The states a run visits, its first state included. -/
def visited (s : System) : List Event → List System
  | [] => [s]
  | event :: rest =>
      s :: match step s event with
        | .ok next => visited next rest
        | .error _ => []

/-- The bookkeeping the counter keeps: the handlers in progress are distinct, `current`
counts them, and `peak` is at least `current`. -/
structure Inv (s : System) : Prop where
  nodup : s.active.Nodup
  current_eq : s.counter.current = s.active.length
  current_le_peak : s.counter.current ≤ s.counter.peak

theorem inv_initial : Inv initial :=
  ⟨List.nodup_nil, rfl, le_refl 0⟩

/-- **One call keeps the bookkeeping**, and in particular an enabled `Done` never panics. -/
theorem Inv.step {s : System} (inv : Inv s) {event : Event} (enabled : Enabled s event) :
    ∃ next, step s event = .ok next ∧ Inv next := by
  cases event with
  | add handler =>
      refine ⟨_, rfl, List.nodup_cons.mpr ⟨enabled, inv.nodup⟩, ?_, ?_⟩
      · simp [inv.current_eq]
      · simp
  | done handler =>
      have positive : s.counter.current ≠ 0 := by
        have := List.length_pos_of_mem enabled
        rw [inv.current_eq]
        omega
      refine ⟨_, by simp [ConcurrencyTracker.step, Counter.Done_eq_ok positive]; rfl,
        inv.nodup.erase handler, ?_, ?_⟩
      · simp [List.length_erase_of_mem enabled, inv.current_eq]
        have := List.length_pos_of_mem enabled
        omega
      · have := inv.current_le_peak
        dsimp only
        omega
  | peak resetCounters =>
      refine ⟨_, rfl, inv.nodup, by simpa using inv.current_eq, ?_⟩
      have := inv.current_le_peak
      cases resetCounters <;> simp [this]

/-- **Every interleaving runs to its end**, keeping the bookkeeping. -/
theorem Inv.execute {s : System} (inv : Inv s) {events : List Event}
    (admissible : Admissible s events) : ∃ final, execute s events = .ok final ∧ Inv final := by
  induction events generalizing s with
  | nil => exact ⟨s, rfl, inv⟩
  | cons event rest ih =>
      obtain ⟨enabled, later⟩ := admissible
      obtain ⟨next, stepped, inv'⟩ := inv.step enabled
      rw [stepped] at later
      obtain ⟨final, ran, invFinal⟩ := ih inv' later
      exact ⟨final, by rw [ConcurrencyTracker.execute, stepped]; exact ran, invFinal⟩

theorem execute_append (s : System) (first second : List Event) :
    execute s (first ++ second) = (execute s first).bind fun middle => execute middle second := by
  induction first generalizing s with
  | nil => rfl
  | cons event rest ih =>
      simp only [List.cons_append, ConcurrencyTracker.execute]
      cases step s event with
      | error message => rfl
      | ok next => exact ih next

theorem admissible_append {s : System} {first second : List Event}
    (admissible : Admissible s (first ++ second)) {middle : System}
    (ran : execute s first = .ok middle) : Admissible middle second := by
  induction first generalizing s with
  | nil => cases ran; exact admissible
  | cons event rest ih =>
      obtain ⟨-, later⟩ := admissible
      simp only [ConcurrencyTracker.execute] at ran
      cases stepped : step s event with
      | error message => rw [stepped] at ran; cases ran
      | ok next =>
          rw [stepped] at later ran
          exact ih later ran

theorem admissible_of_append {s : System} {first second : List Event}
    (admissible : Admissible s (first ++ second)) : Admissible s first := by
  induction first generalizing s with
  | nil => trivial
  | cons event rest ih =>
      obtain ⟨enabled, later⟩ := admissible
      refine ⟨enabled, ?_⟩
      cases stepped : step s event with
      | error message => trivial
      | ok next =>
          rw [stepped] at later
          exact ih later

/-- Without a reset, one call leaves the peak where it was or raises it to the new count. -/
theorem step_peak {s next : System} {event : Event} (stepped : step s event = .ok next)
    (noReset : event ≠ .peak true) :
    s.counter.peak ≤ next.counter.peak ∧
      (next.counter.peak = s.counter.peak ∨ next.counter.peak = next.counter.current) := by
  cases event with
  | add handler =>
      cases stepped
      simp only [Counter.Add_peak, Counter.Add_current]
      omega
  | done handler =>
      simp only [ConcurrencyTracker.step, Counter.Done, Except.map] at stepped
      split_ifs at stepped
      cases stepped
      exact ⟨le_refl _, .inl rfl⟩
  | peak resetCounters =>
      cases resetCounters
      · cases stepped
        exact ⟨le_refl _, .inl rfl⟩
      · exact absurd rfl noReset

/-- **Without a reset, the peak at the end of a run is the largest count the run visits, or
the peak it started with.** -/
theorem peak_of_no_reset {s : System} (inv : Inv s) {events : List Event}
    (admissible : Admissible s events) (noReset : .peak true ∉ events) {final : System}
    (ran : execute s events = .ok final) :
    s.counter.peak ≤ final.counter.peak ∧
      (∀ state ∈ visited s events, state.counter.current ≤ final.counter.peak) ∧
      (final.counter.peak = s.counter.peak ∨
        ∃ state ∈ visited s events, state.counter.current = final.counter.peak) := by
  induction events generalizing s with
  | nil =>
      cases ran
      exact ⟨le_refl _, by simpa [visited] using inv.current_le_peak, .inl rfl⟩
  | cons event rest ih =>
      obtain ⟨enabled, later⟩ := admissible
      obtain ⟨next, stepped, inv'⟩ := inv.step enabled
      rw [stepped] at later
      rw [ConcurrencyTracker.execute, stepped] at ran
      have fresh : event ≠ .peak true := fun same => noReset (same ▸ List.mem_cons_self _ _)
      obtain ⟨raised, reached⟩ := step_peak stepped fresh
      obtain ⟨monotone, bounded, attained⟩ :=
        ih inv' later (fun member => noReset (List.mem_cons_of_mem _ member)) ran
      have visitedEq : visited s (event :: rest) = s :: visited next rest := by
        simp [visited, stepped]
      rw [visitedEq]
      refine ⟨raised.trans monotone, ?_, ?_⟩
      · rintro state (_ | ⟨_, member⟩)
        · exact inv.current_le_peak.trans (raised.trans monotone)
        · exact bounded state member
      · rcases attained with same | ⟨state, member, equal⟩
        · rcases reached with kept | current
          · exact .inl (same.trans kept)
          · refine .inr ⟨next, List.mem_cons_of_mem _ ?_, (same.trans current).symm⟩
            cases rest <;> simp [visited]
        · exact .inr ⟨state, List.mem_cons_of_mem _ member, equal⟩

/-- A reset leaves the peak equal to the current count. -/
theorem peak_after_reset {before : List Event} {start : System}
    (ran : execute initial (before ++ [.peak true]) = .ok start) :
    start.counter.peak = start.counter.current := by
  rw [execute_append] at ran
  cases first : execute initial before with
  | error message => rw [first] at ran; cases ran
  | ok middle =>
      simp only [first, Except.bind, ConcurrencyTracker.execute, ConcurrencyTracker.step] at ran
      cases ran
      simp

/-- **The counter along every interleaving of handlers and reports.** Every interleaving runs
without a panic of `Done`; in its last state `current` is the number of handlers between
their `Add` and their `Done` and is at most `peak`; and when the run is split after its last
`Peak(true)` (or at its start, when it has none), `Peak(false)` then returns the largest
`current` of the states visited since, the state at the split included. -/
theorem interleaving_spec (pre post : List Event) (admissible : Admissible initial (pre ++ post)) :
    ∃ start final, execute initial pre = .ok start ∧ execute start post = .ok final ∧
      final.counter.current = final.active.length ∧
      final.counter.current ≤ final.counter.peak ∧
      ((pre = [] ∨ ∃ before, pre = before ++ [.peak true]) → .peak true ∉ post →
        (∀ state ∈ visited start post, state.counter.current ≤ (final.counter.Peak false).2) ∧
        ∃ state ∈ visited start post, state.counter.current = (final.counter.Peak false).2) := by
  obtain ⟨start, ranPre, invStart⟩ := inv_initial.execute (admissible_of_append admissible)
  have later := admissible_append admissible ranPre
  obtain ⟨final, ranPost, invFinal⟩ := invStart.execute later
  refine ⟨start, final, ranPre, ranPost, invFinal.current_eq, invFinal.current_le_peak, ?_⟩
  intro split noReset
  have reset : start.counter.peak = start.counter.current := by
    rcases split with rfl | ⟨before, rfl⟩
    · cases ranPre
      rfl
    · exact peak_after_reset ranPre
  obtain ⟨-, bounded, attained⟩ := peak_of_no_reset invStart later noReset ranPost
  refine ⟨bounded, ?_⟩
  rcases attained with same | found
  · refine ⟨start, ?_, (same.trans reset).symm⟩
    cases post <;> simp [visited]
  · exact found

/-- Handlers 1 and 2 enter, the reporter resets, handler 1 leaves and handlers 3 and 4 enter:
the interleaving is admissible and the law above applies to it. -/
theorem interleaving_spec_after_reset :
    Admissible initial ([Event.add 1, .add 2, .peak true] ++ [Event.done 1, .add 3, .add 4]) ∧
      ∃ start final, execute initial [Event.add 1, .add 2, .peak true] = .ok start ∧
        execute start [Event.done 1, .add 3, .add 4] = .ok final ∧
        final.counter.current = final.active.length ∧
        final.counter.current ≤ final.counter.peak ∧
        (([Event.add 1, .add 2, .peak true] = [] ∨
            ∃ before, [Event.add 1, .add 2, .peak true] = before ++ [Event.peak true]) →
          Event.peak true ∉ [Event.done 1, .add 3, .add 4] →
          (∀ state ∈ visited start [Event.done 1, .add 3, .add 4],
              state.counter.current ≤ (final.counter.Peak false).2) ∧
            ∃ state ∈ visited start [Event.done 1, .add 3, .add 4],
              state.counter.current = (final.counter.Peak false).2) :=
  ⟨by decide, interleaving_spec [Event.add 1, .add 2, .peak true] [Event.done 1, .add 3, .add 4]
    (by decide)⟩

end Trustydns.ConcurrencyTracker
