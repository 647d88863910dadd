import Mathlib

/-- `m` is a least one of the items, and the first of these. -/
def FirstLeast {α : Type} (r : α → α → Prop) (items : List α) (m : α) : Prop :=
  ∃ before after, items = before ++ m :: after ∧ (∀ x ∈ before, ¬r x m) ∧ ∀ x ∈ after, r m x

namespace FirstLeast

variable {α β : Type} {r : α → α → Prop}

/-- A stable sort puts the first of the least items in front. -/
theorem head_insertionSort [DecidableRel r] (total : ∀ a b, r a b ∨ r b a) (trans : ∀ a b c, r a b → r b c → r a c)
    {items : List α} (nonempty : items ≠ []) : ∃ m, (items.insertionSort r).head? = some m ∧ FirstLeast r items m := by
  induction items with
  | nil => exact absurd rfl nonempty
  | cons a rest ih =>
    by_cases alone : rest = []
    · subst alone
      exact ⟨a, rfl, [], [], rfl, nofun, nofun⟩
    · obtain ⟨m, front, before, after, whole, earlier, later⟩ := ih alone
      obtain ⟨others, sorted⟩ := List.head?_eq_some_iff.mp front
      rw [List.insertionSort_cons, sorted, List.orderedInsert_cons]
      by_cases first : r a m
      · rw [if_pos first]
        refine ⟨a, rfl, [], rest, rfl, nofun, fun x member => ?_⟩
        rw [whole, List.mem_append, List.mem_cons] at member
        rcases member with inside | rfl | inside
        · exact trans a m x first ((total m x).resolve_right (earlier x inside))
        · exact first
        · exact trans a m x first (later x inside)
      · rw [if_neg first]
        refine ⟨m, rfl, a :: before, after, by rw [whole, List.cons_append], fun x member => ?_, later⟩
        rcases List.mem_cons.mp member with rfl | inside
        · exact first
        · exact earlier x inside

theorem map {f : β → α} {items : List β} {m : β} (least : FirstLeast (fun a b => r (f a) (f b)) items m) :
    FirstLeast r (items.map f) (f m) := by
  obtain ⟨before, after, whole, earlier, later⟩ := least
  refine ⟨before.map f, after.map f, by rw [whole, List.map_append, List.map_cons], fun x member => ?_, fun x member => ?_⟩
  · obtain ⟨y, inside, rfl⟩ := List.mem_map.mp member
    exact earlier y inside
  · obtain ⟨y, inside, rfl⟩ := List.mem_map.mp member
    exact later y inside

theorem mem {items : List α} {m : α} (least : FirstLeast r items m) : m ∈ items := by
  obtain ⟨before, after, whole, -, -⟩ := least
  rw [whole]
  exact List.mem_append_right before List.mem_cons_self

end FirstLeast
