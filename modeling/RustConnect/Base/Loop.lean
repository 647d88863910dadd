import Mathlib

/-- A loop that ends: one pass either leaves another state, smaller than the
one it found, or ends the loop with a result. -/
structure Loop (σ α : Type) where
  pass : σ → σ ⊕ α
  size : σ → Nat
  shrinks : ∀ s t, pass s = .inl t → size t < size s

namespace Loop

variable {σ α : Type} (loop : Loop σ α)

/-- The result after fewer than `n` passes. -/
def resultWithin : (n : Nat) → (s : σ) → loop.size s < n → α
  | n + 1, s, bound =>
    match same : loop.pass s with
    | .inl t => resultWithin n t (by have smaller := loop.shrinks s t same; omega)
    | .inr value => value

def result (s : σ) : α := loop.resultWithin (loop.size s + 1) s (Nat.lt_succ_self _)

theorem resultWithin_eq (n m : Nat) (s : σ) (first : loop.size s < n) (second : loop.size s < m) :
    loop.resultWithin n s first = loop.resultWithin m s second := by
  induction n generalizing m s with
  | zero => omega
  | succ n ih =>
    cases m with
    | zero => omega
    | succ m =>
      unfold resultWithin
      split
      · exact ih _ _ _ _
      · rfl

variable {loop} {s t : σ} {value : α}

theorem result_again (again : loop.pass s = .inl t) : loop.result s = loop.result t := by
  rw [result, resultWithin]
  split
  · rename_i next same
    obtain rfl := Sum.inl.inj (same.symm.trans again)
    exact resultWithin_eq loop _ _ _ _ _
  · rename_i other same
    cases same.symm.trans again

theorem result_ended (ended : loop.pass s = .inr value) : loop.result s = value := by
  rw [result, resultWithin]
  split
  · rename_i next same
    cases same.symm.trans ended
  · rename_i other same
    exact Sum.inr.inj (same.symm.trans ended)

theorem result_congr (same : loop.pass s = loop.pass t) : loop.result s = loop.result t := by
  cases passed : loop.pass t with
  | inl u => rw [result_again passed, result_again (same.trans passed)]
  | inr value => rw [result_ended passed, result_ended (same.trans passed)]

/-- What the last pass establishes and every earlier pass carries back holds of the loop. -/
theorem result_rule {P : σ → α → Prop} (ended : ∀ s value, loop.pass s = .inr value → P s value)
    (again : ∀ s t, loop.pass s = .inl t → P t (loop.result t) → P s (loop.result t)) (s : σ) : P s (loop.result s) := by
  induction bound : loop.size s using Nat.strongRecOn generalizing s with
  | ind n ih =>
    cases same : loop.pass s with
    | inl t =>
      have smaller := loop.shrinks s t same
      rw [result_again same]
      exact again s t same (ih _ (by omega) t rfl)
    | inr value =>
      rw [result_ended same]
      exact ended s value same

/-- Two loops whose passes agree, over states that are related, come to the same result. -/
theorem result_simulation {τ : Type} {other : Loop τ α} {R : σ → τ → Prop}
    (agree : ∀ s t, R s t → (∃ s' t', loop.pass s = .inl s' ∧ other.pass t = .inl t' ∧ R s' t') ∨
      ∃ value, loop.pass s = .inr value ∧ other.pass t = .inr value)
    {s : σ} {t : τ} (related : R s t) : loop.result s = other.result t := by
  induction bound : loop.size s using Nat.strongRecOn generalizing s t with
  | ind n ih =>
    rcases agree s t related with ⟨s', t', again, again', related'⟩ | ⟨value, ended, ended'⟩
    · have smaller := loop.shrinks s s' again
      rw [result_again again, result_again again']
      exact ih _ (by omega) related' rfl
    · rw [result_ended ended, result_ended ended']

variable (loop) in
/-- The states the loop comes through, its first one among them. -/
inductive Visits : σ → σ → Prop
  | here (s : σ) : Visits s s
  | later {s t u : σ} (again : loop.pass s = .inl t) (rest : Visits t u) : Visits s u

/-- An invariant of the passes holds wherever the loop comes through. -/
theorem Visits.invariant {I : σ → Prop} (visits : loop.Visits s t)
    (kept : ∀ s t, loop.pass s = .inl t → I s → I t) (holds : I s) : I t := by
  induction visits with
  | here s => exact holds
  | later again rest ih => exact ih (kept _ _ again holds)

end Loop
