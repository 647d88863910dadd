import Mathlib

namespace Lines

variable {α : Type} [DecidableEq α]

/-- The lines of a sequence that are closed by the delimiter, each with its delimiter. -/
def complete (stop : α) : List α → List (List α)
  | [] => []
  | a :: rest =>
    if a = stop then [a] :: complete stop rest
    else match complete stop rest with
      | [] => []
      | line :: more => (a :: line) :: more

/-- What follows the last delimiter. -/
def unfinished (stop : α) : List α → List α
  | [] => []
  | a :: rest =>
    if a = stop then unfinished stop rest
    else match complete stop rest with
      | [] => a :: unfinished stop rest
      | _ :: _ => unfinished stop rest

/-- A line closed by the delimiter and nowhere else broken by it. -/
def Closed (stop : α) (line : List α) : Prop := ∃ body, line = body ++ [stop] ∧ stop ∉ body

variable {stop : α} {body rest line : List α}

theorem complete_closed (unbroken : stop ∉ body) (rest : List α) :
    complete stop (body ++ stop :: rest) = (body ++ [stop]) :: complete stop rest := by
  induction body with
  | nil => simp [complete]
  | cons a body ih =>
    obtain ⟨other, later⟩ := not_or.mp (List.mem_cons.not.mp unbroken)
    simp [complete, Ne.symm other, ih later]

theorem unfinished_closed (unbroken : stop ∉ body) (rest : List α) :
    unfinished stop (body ++ stop :: rest) = unfinished stop rest := by
  induction body with
  | nil => simp [unfinished]
  | cons a body ih =>
    obtain ⟨other, later⟩ := not_or.mp (List.mem_cons.not.mp unbroken)
    simp [unfinished, Ne.symm other, ih later, complete_closed later]

theorem complete_open (unbroken : stop ∉ body) : complete stop body = [] := by
  induction body with
  | nil => rfl
  | cons a body ih =>
    obtain ⟨other, later⟩ := not_or.mp (List.mem_cons.not.mp unbroken)
    simp [complete, Ne.symm other, ih later]

theorem unfinished_open (unbroken : stop ∉ body) : unfinished stop body = body := by
  induction body with
  | nil => rfl
  | cons a body ih =>
    obtain ⟨other, later⟩ := not_or.mp (List.mem_cons.not.mp unbroken)
    simp [unfinished, Ne.symm other, ih later, complete_open later]

/-- Closed lines followed by an open rest are read back as they were put together. -/
theorem complete_flatten {lines : List (List α)} (closed : ∀ line ∈ lines, Closed stop line) (rest : List α) :
    complete stop (lines.flatten ++ rest) = lines ++ complete stop rest := by
  induction lines with
  | nil => rfl
  | cons line lines ih =>
    obtain ⟨body, rfl, unbroken⟩ := closed line List.mem_cons_self
    have later := ih fun line member => closed line (List.mem_cons_of_mem _ member)
    simp [complete_closed unbroken, later]

theorem unfinished_flatten {lines : List (List α)} (closed : ∀ line ∈ lines, Closed stop line) (rest : List α) :
    unfinished stop (lines.flatten ++ rest) = unfinished stop rest := by
  induction lines with
  | nil => rfl
  | cons line lines ih =>
    obtain ⟨body, rfl, unbroken⟩ := closed line List.mem_cons_self
    have later := ih fun line member => closed line (List.mem_cons_of_mem _ member)
    simp [unfinished_closed unbroken, later]

/-- A sequence either has no delimiter or begins with a closed line. -/
theorem broken_or_open (stop : α) (whole : List α) :
    stop ∉ whole ∨ ∃ body rest, whole = body ++ stop :: rest ∧ stop ∉ body := by
  by_cases broken : stop ∈ whole
  · obtain ⟨body, rest, split, unbroken⟩ := List.eq_append_cons_of_mem broken
    exact .inr ⟨body, rest, split, unbroken⟩
  · exact .inl broken

omit [DecidableEq α] in
theorem Closed.drop (closed : Closed stop line) {n : Nat} (inside : n < line.length) : Closed stop (line.drop n) := by
  obtain ⟨body, rfl, unbroken⟩ := closed
  rw [List.length_append, List.length_singleton] at inside
  refine ⟨body.drop n, ?_, fun member => unbroken (List.mem_of_mem_drop member)⟩
  exact List.drop_append_of_le_length (by omega)

omit [DecidableEq α] in
/-- What is left of some lines without their first elements is lines again, and no more of them. -/
theorem drop_flatten {lines : List (List α)} (closed : ∀ line ∈ lines, Closed stop line) (n : Nat) :
    ∃ kept : List (List α), (∀ line ∈ kept, Closed stop line) ∧ lines.flatten.drop n = kept.flatten ∧
      kept.length ≤ lines.length := by
  induction lines generalizing n with
  | nil => exact ⟨[], closed, by simp, Nat.le.refl⟩
  | cons line lines ih =>
    have later : ∀ line ∈ lines, Closed stop line := fun line member => closed line (List.mem_cons_of_mem _ member)
    rcases Nat.lt_or_ge n line.length with inside | beyond
    · refine ⟨line.drop n :: lines, ?_, ?_, Nat.le.refl⟩
      · exact List.forall_mem_cons.mpr ⟨(closed line List.mem_cons_self).drop inside, later⟩
      · exact List.drop_append_of_le_length (Nat.le_of_lt inside)
    · obtain ⟨kept, stays, same, fewer⟩ := ih later (n - line.length)
      refine ⟨kept, stays, ?_, Nat.le_succ_of_le fewer⟩
      rw [List.flatten_cons, List.drop_append, List.drop_eq_nil_of_le beyond, same, List.nil_append]

end Lines
