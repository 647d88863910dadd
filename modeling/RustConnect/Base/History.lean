import Mathlib

namespace History

variable {σ ε : Type} {step : σ → ε → σ} {start : σ} {events : List ε}

/-- The state a system is in after the first `k` of a list of events. -/
def stateAt (step : σ → ε → σ) (start : σ) (events : List ε) (k : Nat) : σ := (events.take k).foldl step start

@[simp] theorem stateAt_zero : stateAt step start events 0 = start := by
  simp [stateAt]

theorem stateAt_succ {k : Nat} {event : ε} (here : events[k]? = some event) :
    stateAt step start events (k + 1) = step (stateAt step start events k) event := by
  simp [stateAt, List.take_add_one, here]

theorem stateAt_past_end {k : Nat} (here : events[k]? = none) :
    stateAt step start events (k + 1) = stateAt step start events k := by
  simp [stateAt, List.take_add_one, here]

/-- What holds at the start and is kept by every event holds after every prefix. -/
theorem invariant {I : σ → Prop} (first : I start) (kept : ∀ event ∈ events, ∀ s, I s → I (step s event)) (k : Nat) :
    I (stateAt step start events k) := by
  induction k with
  | zero => simpa using first
  | succ k ih =>
    cases here : events[k]? with
    | none => rw [stateAt_past_end here]; exact ih
    | some event => rw [stateAt_succ here]; exact kept event (List.mem_of_getElem? here) _ ih

/-- A property that does not hold at first but holds at `i` began to hold at
some event, and has held ever since. -/
theorem exists_onset {P : Nat → Prop} (first : ¬P 0) {i : Nat} (holds : P i) :
    ∃ j < i, ¬P j ∧ ∀ k, j < k → k ≤ i → P k := by
  induction i with
  | zero => exact absurd holds first
  | succ i ih =>
    by_cases before : P i
    · obtain ⟨j, earlier, absent, since⟩ := ih before
      refine ⟨j, by omega, absent, fun k after bound => ?_⟩
      rcases Nat.lt_or_ge i k with last | older
      · rwa [show k = i + 1 by omega]
      · exact since k after older
    · refine ⟨i, by omega, before, fun k after bound => ?_⟩
      rwa [show k = i + 1 by omega]

end History
