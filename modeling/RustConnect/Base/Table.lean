import Mathlib

/-- A finite map, as a list of entries with distinct keys. -/
abbrev Table (κ α : Type) := AList (fun _ : κ => α)

namespace Table

variable {κ α : Type}

/-- The entries that pass the test, in place. -/
def retain (keep : κ → α → Bool) (t : Table κ α) : Table κ α :=
  ⟨t.entries.filter fun e => keep e.1 e.2, t.nodupKeys.sublist List.filter_sublist⟩

/-- The number of entries. -/
def len (t : Table κ α) : Nat := t.entries.length

theorem len_retain_le (keep : κ → α → Bool) (t : Table κ α) : (t.retain keep).len ≤ t.len :=
  List.length_filter_le _ _

/-- Dropping entries leaves the size as it was only when every entry passes the test. -/
theorem len_retain_eq (keep : κ → α → Bool) (t : Table κ α) :
    (t.retain keep).len = t.len ↔ ∀ e ∈ t.entries, keep e.1 e.2 = true := by
  unfold len retain
  exact List.length_filter_eq_length_iff

variable [DecidableEq κ]

/-- The entries of `second` are added to those of `first` and replace those with the same key. -/
def extend (first second : Table κ α) : Table κ α :=
  second.entries.foldr (fun e t => t.insert e.1 e.2) first

theorem lookup_insert_of (k k' : κ) (v : α) (t : Table κ α) :
    (t.insert k' v).lookup k = if k = k' then some v else t.lookup k := by
  split
  · rename_i same
    subst same
    exact AList.lookup_insert t
  · rename_i other
    exact AList.lookup_insert_ne other

theorem lookup_erase_of (k k' : κ) (t : Table κ α) :
    (t.erase k').lookup k = if k = k' then none else t.lookup k := by
  split
  · rename_i same
    subst same
    exact AList.lookup_erase k t
  · rename_i other
    exact AList.lookup_erase_ne other

theorem erase_of_absent {k : κ} {t : Table κ α} (absent : t.lookup k = none) : t.erase k = t := by
  apply AList.ext
  exact List.kerase_of_notMem_keys (AList.lookup_eq_none.mp absent)

theorem dlookup_filter (keep : κ → α → Bool) (k : κ) (l : List (Sigma fun _ : κ => α))
    (distinct : l.NodupKeys) :
    List.dlookup k (l.filter fun e => keep e.1 e.2) = (List.dlookup k l).filter (keep k) := by
  induction l with
  | nil => rfl
  | cons e l ih =>
    obtain ⟨k', v⟩ := e
    have rest := ih (List.nodupKeys_cons.mp distinct).2
    by_cases same : k = k'
    · subst same
      by_cases kept : keep k v
      · simp [kept, Option.filter_some]
      · have absent : List.dlookup k l = none :=
          List.dlookup_eq_none.mpr (List.nodupKeys_cons.mp distinct).1
        simp [kept, rest, absent, Option.filter_some]
    · have skip (l' : List (Sigma fun _ : κ => α)) : List.dlookup k (⟨k', v⟩ :: l') = List.dlookup k l' :=
        List.dlookup_cons_ne l' ⟨k', v⟩ same
      by_cases kept : keep k' v
      · simp [kept, skip, rest]
      · simp [kept, skip, rest]

@[simp] theorem lookup_retain (keep : κ → α → Bool) (k : κ) (t : Table κ α) :
    (t.retain keep).lookup k = (t.lookup k).filter (keep k) :=
  dlookup_filter keep k t.entries t.nodupKeys

theorem lookup_foldr_insert (k : κ) (l : List (Sigma fun _ : κ => α)) (t : Table κ α) :
    (l.foldr (fun e (t : Table κ α) => t.insert e.1 e.2) t).lookup k =
      (List.dlookup k l).or (t.lookup k) := by
  induction l with
  | nil => rfl
  | cons e l ih =>
    obtain ⟨k', v⟩ := e
    rw [List.foldr_cons, lookup_insert_of, ih]
    by_cases same : k = k'
    · subst same; simp
    · simp [same, List.dlookup_cons_ne l ⟨k', v⟩ same]

/-- What inserting the entries of a map, each changed, leaves of another one. -/
theorem lookup_foldl_insert {β : Type} (make : α → β) (k : κ) (entries : List (Sigma fun _ : κ => α))
    (distinct : entries.NodupKeys) (t : Table κ β) :
    (entries.foldl (fun t entry => t.insert entry.1 (make entry.2)) t).lookup k =
      ((List.dlookup k entries).map make).or (t.lookup k) := by
  induction entries generalizing t with
  | nil => rfl
  | cons entry rest ih =>
    obtain ⟨k', v⟩ := entry
    obtain ⟨apart, distinctRest⟩ := List.nodupKeys_cons.mp distinct
    rw [List.foldl_cons, ih distinctRest, lookup_insert_of]
    by_cases same : k = k'
    · subst same
      rw [List.dlookup_eq_none.mpr apart]
      simp
    · simp [same, List.dlookup_cons_ne rest ⟨k', v⟩ same]

theorem lookup_extend (k : κ) (first second : Table κ α) :
    (first.extend second).lookup k = (second.lookup k).or (first.lookup k) :=
  lookup_foldr_insert k second.entries first

/-- Erasing several keys leaves the other entries as they were. -/
theorem lookup_foldl_erase (k : κ) (ks : List κ) (t : Table κ α) :
    (ks.foldl (fun t k => t.erase k) t).lookup k = if k ∈ ks then none else t.lookup k := by
  induction ks generalizing t with
  | nil => simp
  | cons k' ks ih =>
    rw [List.foldl_cons, ih, lookup_erase_of]
    by_cases later : k ∈ ks
    · simp [later]
    · by_cases same : k = k' <;> simp [later, same]

theorem mem_keys_iff (k : κ) (t : Table κ α) : k ∈ t.keys ↔ (t.lookup k).isSome := by
  rw [AList.lookup_isSome]
  rfl

end Table
