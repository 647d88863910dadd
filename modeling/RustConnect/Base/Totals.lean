import RustConnect.Base.Table

namespace Table

variable {κ α : Type}

/-- The sum of what the entries weigh. -/
def total (weight : α → Nat) (t : Table κ α) : Nat := (t.entries.map fun e => weight e.2).sum

theorem len_eq_total (t : Table κ α) : t.len = t.total fun _ => 1 := by
  simp [len, total]

theorem sum_filter_le (weight : α → Nat) (keep : κ → α → Bool) (l : List (Sigma fun _ : κ => α)) :
    ((l.filter fun e => keep e.1 e.2).map fun e => weight e.2).sum ≤ (l.map fun e => weight e.2).sum := by
  induction l with
  | nil => exact Nat.le_refl 0
  | cons e l ih =>
    rw [List.filter_cons]
    split_ifs
    · rw [List.map_cons, List.map_cons, List.sum_cons, List.sum_cons]
      omega
    · rw [List.map_cons, List.sum_cons]
      omega

theorem total_retain_le (weight : α → Nat) (keep : κ → α → Bool) (t : Table κ α) :
    (t.retain keep).total weight ≤ t.total weight := sum_filter_le weight keep t.entries

variable [DecidableEq κ]

theorem sum_kerase (weight : α → Nat) (k : κ) (l : List (Sigma fun _ : κ => α)) :
    ((l.kerase k).map fun e => weight e.2).sum + (List.dlookup k l).elim 0 weight = (l.map fun e => weight e.2).sum := by
  induction l with
  | nil => rfl
  | cons e l ih =>
    obtain ⟨k', v⟩ := e
    by_cases same : k = k'
    · subst same
      have erased : List.kerase k (⟨k, v⟩ :: l) = l := List.kerase_cons_eq rfl
      rw [erased, List.dlookup_cons_eq, List.map_cons, List.sum_cons]
      exact Nat.add_comm _ _
    · rw [List.kerase_cons_ne same, List.dlookup_cons_ne l ⟨k', v⟩ same, List.map_cons, List.map_cons, List.sum_cons,
        List.sum_cons, Nat.add_assoc, ih]

/-- An entry takes the place of the one with the same key. -/
theorem total_insert (weight : α → Nat) (k : κ) (v : α) (t : Table κ α) :
    total weight (t.insert k v) + (t.lookup k).elim 0 weight = t.total weight + weight v := by
  have erased := sum_kerase weight k t.entries
  show (((⟨k, v⟩ : Sigma fun _ : κ => α) :: t.entries.kerase k).map fun e => weight e.2).sum + _ = _
  rw [List.map_cons, List.sum_cons, total, ← erased]
  show weight v + _ + (List.dlookup k t.entries).elim 0 weight = _
  omega

theorem lookup_le_total (weight : α → Nat) (k : κ) (t : Table κ α) : (t.lookup k).elim 0 weight ≤ t.total weight := by
  rw [total, ← sum_kerase weight k t.entries]
  exact Nat.le_add_left _ _

theorem len_insert (k : κ) (v : α) (t : Table κ α) :
    len (t.insert k v) + (t.lookup k).elim 0 (fun _ => 1) = t.len + 1 := by
  rw [len_eq_total, len_eq_total]
  exact total_insert (fun _ => 1) k v t

end Table
