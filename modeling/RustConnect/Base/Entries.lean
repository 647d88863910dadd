import RustConnect.Base.Table

namespace Table

variable {κ α : Type} [DecidableEq κ]

theorem kerase_eq_filter (k : κ) (l : List (Σ _ : κ, α)) (distinct : l.NodupKeys) : List.kerase k l = l.filter fun e => e.1 ≠ k := by
  induction l with
  | nil => rfl
  | cons e l ih =>
    obtain ⟨absent, rest⟩ := List.nodupKeys_cons.mp distinct
    by_cases same : k = e.1
    · have others : ∀ other ∈ l, decide (other.1 ≠ k) = true := by
        intro other member
        have different : other.1 ≠ k := fun here => absent (same ▸ here ▸ List.mem_keys_of_mem member)
        simp [different]
      rw [List.kerase_cons_eq same, List.filter_cons_of_neg (by simp [same]), List.filter_eq_self.mpr others]
    · rw [List.kerase_cons_ne same, List.filter_cons_of_pos (by simpa using Ne.symm same), ih rest]

theorem entries_foldl_erase (ks : List κ) (t : Table κ α) :
    (ks.foldl (fun t k => t.erase k) t).entries = t.entries.filter fun e => e.1 ∉ ks := by
  induction ks generalizing t with
  | nil => simp
  | cons k ks ih =>
    have erased : (t.erase k).entries = t.entries.filter fun e => e.1 ≠ k := kerase_eq_filter k t.entries t.nodupKeys
    rw [List.foldl_cons, ih, erased, List.filter_filter]
    refine List.filter_congr fun e _ => ?_
    by_cases same : e.1 = k <;> simp [same]

/-- What is left of a list without repetition when its first elements are taken out by their names. -/
theorem filter_not_mem_take {β : Type} (f : β → κ) (l : List β) (distinct : (l.map f).Nodup) (n : Nat) :
    (l.filter fun x => f x ∉ (l.take n).map f) = l.drop n := by
  have split : (l.take n).map f ++ (l.drop n).map f = l.map f := by rw [← List.map_append, List.take_append_drop]
  have apart := (List.nodup_append.mp (split ▸ distinct)).2.2
  conv_lhs =>
    enter [2]
    rw [← List.take_append_drop n l]
  rw [List.filter_append]
  have none : ((l.take n).filter fun x => f x ∉ (l.take n).map f) = [] := by
    rw [List.filter_eq_nil_iff]
    intro x member
    simpa using List.mem_map_of_mem member
  have all : ((l.drop n).filter fun x => f x ∉ (l.take n).map f) = l.drop n := by
    rw [List.filter_eq_self]
    intro x member
    have different : f x ∉ (l.take n).map f := fun there => apart _ there _ (List.mem_map_of_mem member) rfl
    simpa using different
  rw [none, all, List.nil_append]

end Table
