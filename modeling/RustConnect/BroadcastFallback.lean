import Mathlib

namespace RustConnect

/-- The durations that `run_fallback_schedule` is given, in units of time. -/
structure FallbackIntervals where
  initialInterval : Nat
  maxInterval : Nat
  pollInterval : Nat
  positive : 0 < initialInterval
  within : initialInterval ≤ maxInterval

/-- A broadcast, and the sleep that is started after it. -/
structure FallbackBroadcast where
  time : Nat
  wait : Nat
  deriving DecidableEq, Repr

/-- The head of the loop. -/
structure FallbackState where
  now : Nat
  currentInterval : Nat
  deriving DecidableEq, Repr

namespace BroadcastFallback

variable (eligible : Nat → Bool) (intervals : FallbackIntervals)

/-- One round of the loop, with the broadcast that it makes. -/
def round (s : FallbackState) : FallbackState × Option FallbackBroadcast :=
  if !eligible s.now then
    (⟨s.now + intervals.pollInterval, intervals.initialInterval⟩, none)
  else
    (⟨s.now + s.currentInterval, min (s.currentInterval * 2) intervals.maxInterval⟩, some ⟨s.now, s.currentInterval⟩)

/-- The head of the loop before round `k` of `run_fallback_schedule`. The shutdown ends
a run in the sleep of some round, so that a run is made of the first rounds. -/
def atRound (start : Nat) : Nat → FallbackState
  | 0 => ⟨start, intervals.initialInterval⟩
  | k + 1 => (round eligible intervals (atRound start k)).1

/-- The broadcast of round `k`. -/
def broadcastAt (start k : Nat) : Option FallbackBroadcast := (round eligible intervals (atRound eligible intervals start k)).2

/-- The signal is true at all moments from one time to another. -/
def Steady (first last : Nat) : Prop := ∀ t, first ≤ t → t ≤ last → eligible t = true

/-- The broadcasts of two rounds, with none between. -/
structure Successive (start i j : Nat) (earlier later : FallbackBroadcast) : Prop where
  order : i < j
  earlier : broadcastAt eligible intervals start i = some earlier
  later : broadcastAt eligible intervals start j = some later
  between : ∀ k, i < k → k < j → broadcastAt eligible intervals start k = none

/-- The broadcast of round `j` is number `n`, from 0 on, of its stretch: the signal has been
true since the first of the stretch, and false at some moment between that and the broadcast before. -/
inductive Numbered (start : Nat) : Nat → Nat → FallbackBroadcast → Prop
  | first {j : Nat} {broadcast : FallbackBroadcast} (now : broadcastAt eligible intervals start j = some broadcast)
      (silent : ∀ i < j, broadcastAt eligible intervals start i = none) : Numbered start 0 j broadcast
  | fresh {i j : Nat} {earlier later : FallbackBroadcast} (next : Successive eligible intervals start i j earlier later)
      (dropped : ¬Steady eligible earlier.time later.time) : Numbered start 0 j later
  | again {n i j : Nat} {earlier later : FallbackBroadcast} (number : Numbered start n i earlier)
      (next : Successive eligible intervals start i j earlier later) (steady : Steady eligible earlier.time later.time) :
      Numbered start (n + 1) j later

/-- The cadence of the first `rounds` rounds: a broadcast comes only where the signal is true, and the wait
after number `n` of a stretch is the initial interval doubled `n` times, up to the longest. -/
structure Cadenced (start rounds : Nat) : Prop where
  whenTrue : ∀ j broadcast, broadcastAt eligible intervals start j = some broadcast → eligible broadcast.time = true
  backoff : ∀ n j broadcast, j < rounds → Numbered eligible intervals start n j broadcast →
    broadcast.wait = min (intervals.initialInterval * 2 ^ n) intervals.maxInterval

variable {eligible intervals} {start : Nat}

theorem broadcastAt_some {k : Nat} {broadcast : FallbackBroadcast} :
    broadcastAt eligible intervals start k = some broadcast ↔
      eligible (atRound eligible intervals start k).now = true ∧
        broadcast = ⟨(atRound eligible intervals start k).now, (atRound eligible intervals start k).currentInterval⟩ := by
  unfold broadcastAt round
  cases isOpen : eligible (atRound eligible intervals start k).now with
  | true => simp [eq_comm]
  | false => simp

theorem broadcastAt_none {k : Nat} :
    broadcastAt eligible intervals start k = none ↔ eligible (atRound eligible intervals start k).now = false := by
  unfold broadcastAt round
  cases isOpen : eligible (atRound eligible intervals start k).now with
  | true => simp
  | false => simp

theorem atRound_succ_true {k : Nat} (isOpen : eligible (atRound eligible intervals start k).now = true) :
    atRound eligible intervals start (k + 1) =
      ⟨(atRound eligible intervals start k).now + (atRound eligible intervals start k).currentInterval,
        min ((atRound eligible intervals start k).currentInterval * 2) intervals.maxInterval⟩ := by
  rw [atRound, round]
  simp [isOpen]

theorem atRound_succ_false {k : Nat} (closed : eligible (atRound eligible intervals start k).now = false) :
    atRound eligible intervals start (k + 1) =
      ⟨(atRound eligible intervals start k).now + intervals.pollInterval, intervals.initialInterval⟩ := by
  rw [atRound, round]
  simp [closed]

/-- The interval stays between the initial and the longest. -/
theorem interval_bounds (eligible : Nat → Bool) (intervals : FallbackIntervals) (start k : Nat) :
    intervals.initialInterval ≤ (atRound eligible intervals start k).currentInterval ∧
      (atRound eligible intervals start k).currentInterval ≤ intervals.maxInterval := by
  have within := intervals.within
  induction k with
  | zero => exact ⟨le_rfl, within⟩
  | succ k ih =>
    cases isOpen : eligible (atRound eligible intervals start k).now with
    | true =>
      rw [atRound_succ_true isOpen]
      show _ ≤ min _ _ ∧ min _ _ ≤ _
      omega
    | false =>
      rw [atRound_succ_false isOpen]
      exact ⟨le_rfl, within⟩

theorem now_le {i j : Nat} (order : i ≤ j) :
    (atRound eligible intervals start i).now ≤ (atRound eligible intervals start j).now := by
  induction order with
  | refl => exact le_rfl
  | step _ ih =>
    rename_i k _
    refine Nat.le_trans ih ?_
    cases isOpen : eligible (atRound eligible intervals start k).now with
    | true =>
      rw [atRound_succ_true isOpen]
      exact Nat.le_add_right _ _
    | false =>
      rw [atRound_succ_false isOpen]
      exact Nat.le_add_right _ _

/-- After a round without a broadcast the interval is the initial one. -/
theorem interval_after_none {k : Nat} (silent : broadcastAt eligible intervals start k = none) :
    (atRound eligible intervals start (k + 1)).currentInterval = intervals.initialInterval := by
  rw [atRound_succ_false (broadcastAt_none.mp silent)]

/-- A broadcast follows the one before in the next round, with the wait doubled, or a round between
them has found the signal false, and the wait is the initial one. -/
theorem Successive.cases {i j : Nat} {earlier later : FallbackBroadcast}
    (next : Successive eligible intervals start i j earlier later) :
    (j = i + 1 ∧ later.wait = min (earlier.wait * 2) intervals.maxInterval) ∨
      (¬Steady eligible earlier.time later.time ∧ later.wait = intervals.initialInterval) := by
  obtain ⟨openEarlier, rfl⟩ := broadcastAt_some.mp next.earlier
  obtain ⟨openLater, rfl⟩ := broadcastAt_some.mp next.later
  have order := next.order
  by_cases adjacent : j = i + 1
  · subst adjacent
    refine .inl ⟨rfl, ?_⟩
    show (atRound eligible intervals start (i + 1)).currentInterval = _
    rw [atRound_succ_true openEarlier]
  · obtain ⟨k, rfl⟩ : ∃ k, j = k + 1 := ⟨j - 1, by omega⟩
    have silent := next.between k (by omega) (by omega)
    refine .inr ⟨fun steady => ?_, interval_after_none silent⟩
    have closed := broadcastAt_none.mp silent
    rw [steady _ (now_le (by omega)) (now_le (Nat.le_succ k))] at closed
    cases closed

theorem first_wait {j : Nat} {broadcast : FallbackBroadcast} (now : broadcastAt eligible intervals start j = some broadcast)
    (silent : ∀ i < j, broadcastAt eligible intervals start i = none) : broadcast.wait = intervals.initialInterval := by
  obtain ⟨-, rfl⟩ := broadcastAt_some.mp now
  cases j with
  | zero => rfl
  | succ k => exact interval_after_none (silent k (Nat.lt_succ_self k))

/-- Doubling an interval that is capped gives the capped next one. -/
theorem doubled_capped (initial limit n : Nat) : min (min (initial * 2 ^ n) limit * 2) limit = min (initial * 2 ^ (n + 1)) limit := by
  rw [pow_succ, ← Nat.mul_assoc]
  omega

variable (eligible intervals start) in
/-- The signal does not drop and come back within the sleep after a broadcast, unless that is the last one of the rounds. -/
def NoDip (rounds : Nat) : Prop :=
  ∀ k, k + 1 < rounds → eligible (atRound eligible intervals start k).now = true →
    eligible ((atRound eligible intervals start k).now + (atRound eligible intervals start k).currentInterval) = true →
    Steady eligible (atRound eligible intervals start k).now
      ((atRound eligible intervals start k).now + (atRound eligible intervals start k).currentInterval)

/-- A dip that goes unnoticed leaves the wait after it doubled. -/
theorem no_dip_of_cadenced {rounds : Nat} (cadenced : Cadenced eligible intervals start rounds)
    (room : intervals.maxInterval ≠ intervals.initialInterval) : NoDip eligible intervals start rounds := by
  intro k inside isOpen again
  by_contra dipped
  let earlier : FallbackBroadcast :=
    ⟨(atRound eligible intervals start k).now, (atRound eligible intervals start k).currentInterval⟩
  let later : FallbackBroadcast :=
    ⟨(atRound eligible intervals start (k + 1)).now, (atRound eligible intervals start (k + 1)).currentInterval⟩
  have next : Successive eligible intervals start k (k + 1) earlier later := by
    refine ⟨Nat.lt_succ_self k, broadcastAt_some.mpr ⟨isOpen, rfl⟩, broadcastAt_some.mpr ⟨?_, rfl⟩, fun i low high => by omega⟩
    rw [atRound_succ_true isOpen]
    exact again
  have dropped : ¬Steady eligible earlier.time later.time := by
    show ¬Steady eligible _ (atRound eligible intervals start (k + 1)).now
    rw [atRound_succ_true isOpen]
    exact dipped
  have reset : (atRound eligible intervals start (k + 1)).currentInterval = _ :=
    cadenced.backoff 0 (k + 1) later inside (.fresh next dropped)
  rw [atRound_succ_true isOpen, pow_zero, Nat.mul_one, min_eq_left intervals.within] at reset
  have doubled : min ((atRound eligible intervals start k).currentInterval * 2) intervals.maxInterval =
      intervals.initialInterval := reset
  have bounds := interval_bounds eligible intervals start k
  have positive := intervals.positive
  omega

/-- A broadcast comes only where the signal is true; and the waits keep the cadence over the first rounds exactly
when the initial interval is the longest already, or the signal has not dropped and come back within one of the sleeps
after a broadcast. -/
theorem cadenced_iff_no_dip (eligible : Nat → Bool) (intervals : FallbackIntervals) (start rounds : Nat) :
    Cadenced eligible intervals start rounds ↔
      intervals.maxInterval = intervals.initialInterval ∨ NoDip eligible intervals start rounds := by
  constructor
  · exact fun cadenced => or_iff_not_imp_left.mpr (no_dip_of_cadenced cadenced)
  · intro kept
    refine ⟨fun j broadcast made => ?_, fun n j broadcast inside number => ?_⟩
    · obtain ⟨isOpen, rfl⟩ := broadcastAt_some.mp made
      exact isOpen
    · rcases kept with capped | steadily
      · have bounds : broadcast.wait = intervals.initialInterval := by
          have made : broadcastAt eligible intervals start j = some broadcast := by
            cases number with
            | first now _ => exact now
            | fresh next _ => exact next.later
            | again _ next _ => exact next.later
          obtain ⟨-, rfl⟩ := broadcastAt_some.mp made
          have both := interval_bounds eligible intervals start j
          exact le_antisymm (both.2.trans capped.le) both.1
        have longer : intervals.initialInterval ≤ intervals.initialInterval * 2 ^ n := Nat.le_mul_of_pos_right _ (Nat.two_pow_pos n)
        rw [bounds, capped]
        omega
      · induction number with
        | first now silent =>
          rw [first_wait now silent, pow_zero, Nat.mul_one]
          exact (min_eq_left intervals.within).symm
        | @fresh i j earlier later next dropped =>
          have reset : later.wait = intervals.initialInterval := by
            rcases next.cases with ⟨rfl, -⟩ | ⟨-, wait⟩
            · exfalso
              obtain ⟨openEarlier, rfl⟩ := broadcastAt_some.mp next.earlier
              obtain ⟨openLater, rfl⟩ := broadcastAt_some.mp next.later
              have time : (atRound eligible intervals start (i + 1)).now =
                  (atRound eligible intervals start i).now + (atRound eligible intervals start i).currentInterval := by
                rw [atRound_succ_true openEarlier]
              rw [time] at openLater dropped
              exact dropped (steadily i inside openEarlier openLater)
            · exact wait
          rw [reset, pow_zero, Nat.mul_one]
          exact (min_eq_left intervals.within).symm
        | again number next steady ih =>
          have before := ih (next.order.trans inside)
          rcases next.cases with ⟨-, doubled⟩ | ⟨dropped, -⟩
          · rw [doubled, before, doubled_capped]
          · exact absurd steady dropped

/-- Five seconds at first, five minutes at most, and a look every two seconds while nothing is to be sent. -/
def productionIntervals : FallbackIntervals := ⟨5, 300, 2, by decide, by decide⟩

/-- The signal drops for a moment within the first sleep. -/
def dipping (t : Nat) : Bool := t != 3

theorem dip_unnoticed : ¬∀ (eligible : Nat → Bool) (intervals : FallbackIntervals) (start rounds : Nat),
    Cadenced eligible intervals start rounds := by
  intro always
  have steadily := no_dip_of_cadenced (always dipping productionIntervals 0 2) (by decide)
  exact absurd (steadily 0 (by decide) rfl rfl 3 (by decide) (by decide)) (by decide)

end BroadcastFallback

end RustConnect
