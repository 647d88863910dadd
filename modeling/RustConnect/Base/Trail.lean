import RustConnect.Base.Pool

namespace Program

variable {A : Type} {R : A → Type} {α β ε : Type}

/-- The program comes to the other one when its actions get the answers of the trace. -/
inductive Trail : Program A R α → List (Σ action, R action) → Program A R α → Prop
  | refl (program : Program A R α) : Trail program [] program
  | act {action : A} {next : R action → Program A R α} {answer : R action} {trace : List (Σ action, R action)}
      {last : Program A R α} (rest : Trail (next answer) trace last) : Trail (.act action next) (⟨action, answer⟩ :: trace) last

namespace Trail

variable {program last : Program A R α} {trace : List (Σ action, R action)} {value : α}

theorem of_done (trail : Trail (.done value) trace last) : trace = [] ∧ .done value = last := by
  cases trail with
  | refl => exact ⟨rfl, rfl⟩

/-- A program that has come to its end has had an answer to its first action. -/
theorem of_act {action : A} {next : R action → Program A R α} (trail : Trail (.act action next) trace (.done value)) :
    ∃ answer rest, trace = ⟨action, answer⟩ :: rest ∧ Trail (next answer) rest (.done value) := by
  cases trail with
  | act rest => exact ⟨_, _, rfl, rest⟩

/-- A program that has come to its end has first come to the end of its first part. -/
theorem of_bind {program : Program A R α} {f : α → Program A R β} {value : β} (trail : Trail (program >>= f) trace (.done value)) :
    ∃ first rest middle, trace = first ++ rest ∧ Trail program first (.done middle) ∧ Trail (f middle) rest (.done value) := by
  induction program generalizing trace with
  | done middle => exact ⟨[], trace, middle, rfl, .refl _, trail⟩
  | act action next ih =>
    obtain ⟨answer, rest, rfl, later⟩ := of_act trail
    obtain ⟨first, rest, middle, rfl, part, after⟩ := ih answer later
    exact ⟨⟨action, answer⟩ :: first, rest, middle, rfl, .act part, after⟩

theorem of_call {action : A} {answer : R action} (trail : Trail (call action) trace (.done answer)) : trace = [⟨action, answer⟩] := by
  obtain ⟨given, rest, rfl, later⟩ := of_act trail
  obtain ⟨rfl, same⟩ := of_done later
  cases same
  rfl

theorem snoc {action : A} {next : R action → Program A R α} (trail : Trail program trace (.act action next)) (answer : R action) :
    Trail program (trace ++ [⟨action, answer⟩]) (next answer) := by
  induction trace generalizing program with
  | nil =>
    cases trail with
    | refl => exact .act (.refl _)
  | cons entry trace ih =>
    cases trail with
    | act rest => exact .act (ih rest)

theorem only_last {P : A → Prop} {Q : α → Prop} (trail : Trail program trace last) (within : program.Only P Q) : last.Only P Q := by
  induction trail with
  | refl => exact within
  | act rest ih => exact ih (within.2 _)

theorem only {P : A → Prop} {Q : α → Prop} (trail : Trail program trace last) (within : program.Only P Q) : ∀ entry ∈ trace, P entry.1 := by
  induction trail with
  | refl => exact fun _ member => nomatch member
  | act rest ih =>
    intro entry member
    rcases List.mem_cons.mp member with rfl | later
    · exact within.1
    · exact ih (within.2 _) entry later

end Trail

end Program

namespace Pool

variable {A Op : Type} {R : A → Type} {σ : Type} {exec : (action : A) → σ → R action × σ} {program : Op → Program A R Unit}
  {shared : σ} {turns : List (Turn Op)}

/-- What one task has performed. -/
def own (trace : List (Nat × Σ action, R action)) (task : Nat) : List (Σ action, R action) :=
  (trace.filter fun entry => entry.1 = task).map Prod.snd

/-- The operations that are spawned, in their order. -/
def spawned (turns : List (Turn Op)) : List Op :=
  turns.filterMap fun turn => match turn with
    | .spawn op => some op
    | .take _ => none

theorem spawned_later {k m task : Nat} {op : Op} (later : k ≤ m) (asked : (spawned (turns.take k))[task]? = some op) :
    (spawned (turns.take m))[task]? = some op := by
  have split : turns.take m = turns.take k ++ (turns.take m).drop k := by
    conv_lhs => rw [← List.take_append_drop k (turns.take m), List.take_take, Nat.min_eq_left later]
  obtain ⟨inside, -⟩ := List.getElem?_eq_some_iff.mp asked
  rw [split, spawned, List.filterMap_append]
  exact (List.getElem?_append_left inside).trans asked

theorem mem_own {trace : List (Nat × Σ action, R action)} {task : Nat} {entry : Σ action, R action} :
    entry ∈ own trace task ↔ (task, entry) ∈ trace := by
  simp only [own, List.mem_map, List.mem_filter, decide_eq_true_eq]
  constructor
  · rintro ⟨⟨other, found⟩, ⟨member, rfl⟩, rfl⟩
    exact member
  · exact fun member => ⟨(task, entry), ⟨member, rfl⟩, rfl⟩

theorem own_concat (trace : List (Nat × Σ action, R action)) (task : Nat) (entry : Σ action, R action) :
    own (trace ++ [(task, entry)]) task = own trace task ++ [entry] := by
  simp [own]

theorem own_concat_ne (trace : List (Nat × Σ action, R action)) {task other : Nat} (apart : other ≠ task) (entry : Σ action, R action) :
    own (trace ++ [(task, entry)]) other = own trace other := by
  simp [own, Ne.symm apart]

/-- Every task is on the trail of the operation it was spawned for. -/
structure OnTrail (program : Op → Program A R Unit) (ops : List Op) (pool : Pool A R σ) : Prop where
  length : pool.tasks.length = ops.length
  trail : ∀ task op body, ops[task]? = some op → pool.tasks[task]? = some body → Program.Trail (program op) (own pool.trace task) body
  fresh : ∀ task, pool.tasks.length ≤ task → own pool.trace task = []

theorem OnTrail.step {ops : List Op} {pool : Pool A R σ} (onTrail : OnTrail program ops pool) (turn : Turn Op) :
    OnTrail program (ops ++ spawned [turn]) (pool.step exec program turn) := by
  cases turn with
  | spawn op =>
    refine ⟨by simp [Pool.step, spawned, onTrail.length], fun task other body asked found => ?_, fun task beyond => onTrail.fresh task ?_⟩
    · rcases Nat.lt_or_ge task pool.tasks.length with old | new
      · refine onTrail.trail task other body ?_ (by simpa [Pool.step, List.getElem?_append_left old] using found)
        simpa [spawned, List.getElem?_append_left (onTrail.length ▸ old)] using asked
      · obtain rfl : task = pool.tasks.length := by
          have inside := (List.getElem?_eq_some_iff.mp found).1
          simp only [Pool.step, List.length_append, List.length_singleton] at inside
          omega
        obtain rfl : program op = body := by simpa [Pool.step] using found
        obtain rfl : op = other := by simpa [spawned, onTrail.length] using asked
        have none : own (pool.step exec program (.spawn op)).trace pool.tasks.length = [] := onTrail.fresh _ (Nat.le_refl _)
        rw [none]
        exact .refl _
    · simp only [Pool.step, List.length_append, List.length_singleton] at beyond
      omega
  | take task =>
    have same : ops ++ spawned [.take task] = ops := by simp [spawned]
    rw [same]
    cases here : pool.tasks[task]? with
    | none => simpa only [Pool.step, here] using onTrail
    | some body =>
      cases body with
      | done value => simpa only [Pool.step, here] using onTrail
      | act action next =>
        have inside := (List.getElem?_eq_some_iff.mp here).1
        simp only [Pool.step, here]
        refine ⟨by simp [perform, onTrail.length], fun other op body asked found => ?_, fun other beyond => ?_⟩
        · by_cases apart : other = task
          · subst apart
            obtain rfl : next (exec action pool.shared).1 = body := by simpa [perform, List.getElem?_set_self inside] using found
            rw [perform, own_concat]
            exact (onTrail.trail other op _ asked here).snoc _
          · rw [perform, own_concat_ne _ apart]
            exact onTrail.trail other op body asked (by simpa [perform, List.getElem?_set_ne (Ne.symm apart)] using found)
        · have length : (pool.perform exec task action next).tasks.length = pool.tasks.length := by simp [perform]
          have apart : other ≠ task := by omega
          rw [perform, own_concat_ne _ apart]
          exact onTrail.fresh other (length ▸ beyond)

variable (exec program shared turns) in
theorem onTrail (k : Nat) : OnTrail program (spawned (turns.take k)) (after exec program shared turns k) := by
  induction k with
  | zero => exact ⟨by simp [after, start, spawned], by simp [after, start], by simp [after, start, own]⟩
  | succ k ih =>
    cases here : turns[k]? with
    | none =>
      have same : turns.take (k + 1) = turns.take k := by
        rw [List.take_add_one, here, Option.toList_none, List.append_nil]
      rw [after, History.stateAt_past_end here, same]
      exact ih
    | some turn =>
      have grown : spawned (turns.take (k + 1)) = spawned (turns.take k) ++ spawned [turn] := by
        rw [List.take_add_one, here, Option.toList_some, spawned, List.filterMap_append]
        rfl
      rw [after, History.stateAt_succ here, grown]
      exact ih.step turn

/-- What a task is about to do is one of the actions that its operation keeps to. -/
theorem next_within {P : A → Prop} {Q : Unit → Prop} {k task : Nat} {op : Op} {action : A} (within : (program op).Only P Q)
    (asked : (spawned (turns.take k))[task]? = some op) (about : (after exec program shared turns k).next task = some action) :
    P action := by
  cases here : (after exec program shared turns k).tasks[task]? with
  | none => simp [Pool.next, here] at about
  | some body =>
    cases body with
    | done value => simp [Pool.next, here] at about
    | act other next =>
      obtain rfl : other = action := by simpa [Pool.next, here] using about
      exact (((onTrail exec program shared turns k).trail task op _ asked here).only_last within).1

/-- What is kept by all actions that the operations keep to is kept in every run. -/
theorem kept_within {P : A → Prop} {Q : Unit → Prop} {I : σ → Prop} (within : ∀ op, (program op).Only P Q)
    (kept : ∀ action s, P action → I s → I (exec action s).2) (first : I shared) (k : Nat) :
    I (after exec program shared turns k).shared := by
  induction k with
  | zero => exact first
  | succ k ih =>
    cases here : turns[k]? with
    | none =>
      rw [after, History.stateAt_past_end here]
      exact ih
    | some turn =>
      have onward : after exec program shared turns (k + 1) = (after exec program shared turns k).step exec program turn :=
        History.stateAt_succ here
      rw [onward]
      cases turn with
      | spawn op => exact ih
      | take task =>
        cases found : (after exec program shared turns k).tasks[task]? with
        | none => simpa only [step, found] using ih
        | some body =>
          cases body with
          | done value => simpa only [step, found] using ih
          | act action next =>
            have trails := onTrail exec program shared turns k
            obtain ⟨op, asked⟩ : ∃ op, (spawned (turns.take k))[task]? = some op :=
              ⟨_, List.getElem?_eq_getElem (trails.length ▸ (List.getElem?_eq_some_iff.mp found).1)⟩
            have fitting : P action := ((trails.trail task op _ asked found).only_last (within op)).1
            simp only [step, found, perform]
            exact kept action _ fitting ih

/-- Every answer in the trace was given by the shared state of an earlier turn of the task. -/
theorem answered {k task : Nat} {action : A} {answer : R action}
    (member : (task, ⟨action, answer⟩) ∈ (after exec program shared turns k).trace) :
    ∃ j < k, turns[j]? = some (.take task) ∧ (after exec program shared turns j).next task = some action ∧
      answer = (exec action (after exec program shared turns j).shared).1 := by
  induction k with
  | zero => simp [after, start] at member
  | succ k ih =>
    cases here : turns[k]? with
    | none =>
      rw [after, History.stateAt_past_end here] at member
      obtain ⟨j, earlier, found⟩ := ih member
      exact ⟨j, by omega, found⟩
    | some turn =>
      rw [after, History.stateAt_succ here] at member
      have before (old : (task, ⟨action, answer⟩) ∈ (after exec program shared turns k).trace) :
          ∃ j < k + 1, turns[j]? = some (.take task) ∧ (after exec program shared turns j).next task = some action ∧
            answer = (exec action (after exec program shared turns j).shared).1 := by
        obtain ⟨j, earlier, found⟩ := ih old
        exact ⟨j, by omega, found⟩
      cases turn with
      | spawn op => exact before member
      | take other =>
        have member : (task, ⟨action, answer⟩) ∈ ((after exec program shared turns k).step exec program (.take other)).trace := member
        cases found : (after exec program shared turns k).tasks[other]? with
        | none => exact before (by simpa only [step, found] using member)
        | some body =>
          cases body with
          | done value => exact before (by simpa only [step, found] using member)
          | act performed next =>
            have grown : (task, ⟨action, answer⟩) ∈ (after exec program shared turns k).trace ++
                [(other, ⟨performed, (exec performed (after exec program shared turns k).shared).1⟩)] := by
              simpa only [step, found, perform] using member
            rcases List.mem_append.mp grown with old | new
            · exact before old
            · have same := List.mem_singleton.mp new
              simp only [Prod.mk.injEq, Sigma.mk.injEq] at same
              obtain ⟨rfl, rfl, same⟩ := same
              exact ⟨k, Nat.lt_succ_self k, here, by simp [Pool.next, found], eq_of_heq same⟩

end Pool
