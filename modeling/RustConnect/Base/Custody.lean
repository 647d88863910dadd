import Mathlib
import RustConnect.Base.Pool

variable {H I : Type}

/-- Every live item is in the hands of exactly one holder, and only live items are held. -/
structure Custody (live : Set I) (holds : H → Option I) : Prop where
  alive : ∀ holder item, holds holder = some item → item ∈ live
  exclusive : ∀ holder other item, holds holder = some item → holds other = some item → holder = other
  covered : ∀ item ∈ live, ∃ holder, holds holder = some item

namespace Custody

variable [DecidableEq H] {live : Set I} {holds : H → Option I} {holder : H} {item : I}

omit [DecidableEq H] in
theorem empty : Custody (∅ : Set I) fun _ : H => none where
  alive _ _ holding := nomatch holding
  exclusive _ _ _ holding := nomatch holding
  covered _ member := nomatch member

/-- Emptying empty hands changes nothing. -/
theorem update_none {holds : H → Option I} {holder : H} (free : holds holder = none) : Function.update holds holder none = holds := by
  rw [← free]
  exact Function.update_eq_self ..

/-- A holder with empty hands gets a new item. -/
theorem receive (custody : Custody live holds) (free : holds holder = none) (fresh : item ∉ live) :
    Custody (insert item live) (Function.update holds holder (some item)) where
  alive other found holding := by
    by_cases same : other = holder
    · subst same
      rw [Function.update_self, Option.some.injEq] at holding
      exact holding ▸ Set.mem_insert _ _
    · rw [Function.update_of_ne same] at holding
      exact Set.mem_insert_of_mem _ (custody.alive other found holding)
  exclusive first second found one two := by
    have elsewhere (other : H) (apart : other ≠ holder) : Function.update holds holder (some item) other ≠ some item := by
      rw [Function.update_of_ne apart]
      exact fun holding => fresh (custody.alive other item holding)
    by_cases here : first = holder
    · subst here
      obtain rfl : item = found := by simpa using one
      by_contra apart
      exact elsewhere second (Ne.symm apart) two
    · by_cases there : second = holder
      · subst there
        obtain rfl : item = found := by simpa using two
        exact absurd one (elsewhere first here)
      · rw [Function.update_of_ne here] at one
        rw [Function.update_of_ne there] at two
        exact custody.exclusive first second found one two
  covered found member := by
    rcases Set.mem_insert_iff.mp member with rfl | old
    · exact ⟨holder, Function.update_self ..⟩
    · obtain ⟨other, holding⟩ := custody.covered found old
      have apart : other ≠ holder := by
        rintro rfl
        rw [free] at holding
        cases holding
      exact ⟨other, by rw [Function.update_of_ne apart, holding]⟩

/-- A holder gives its item out of all hands. -/
theorem release (custody : Custody live holds) (holding : holds holder = some item) :
    Custody (live \ {item}) (Function.update holds holder none) where
  alive other found other_holding := by
    by_cases same : other = holder
    · subst same
      simp at other_holding
    · rw [Function.update_of_ne same] at other_holding
      refine ⟨custody.alive other found other_holding, fun equal => same ?_⟩
      rw [Set.mem_singleton_iff] at equal
      exact custody.exclusive other holder item (equal ▸ other_holding) holding
  exclusive first second found one two := by
    by_cases here : first = holder
    · subst here
      simp at one
    · by_cases there : second = holder
      · subst there
        simp at two
      · rw [Function.update_of_ne here] at one
        rw [Function.update_of_ne there] at two
        exact custody.exclusive first second found one two
  covered found member := by
    obtain ⟨other, other_holding⟩ := custody.covered found member.1
    have apart : other ≠ holder := by
      rintro rfl
      rw [holding, Option.some.injEq] at other_holding
      exact member.2 other_holding.symm
    exact ⟨other, by rw [Function.update_of_ne apart, other_holding]⟩

/-- A holder gives its item to one with empty hands. -/
theorem pass (custody : Custody live holds) {receiver : H} (holding : holds holder = some item)
    (free : receiver = holder ∨ holds receiver = none) :
    Custody live (Function.update (Function.update holds holder none) receiver (some item)) := by
  have empty : Function.update holds holder none receiver = none := by
    rcases free with rfl | free
    · exact Function.update_self ..
    · by_cases same : receiver = holder
      · subst same
        exact Function.update_self ..
      · rw [Function.update_of_ne same, free]
  have passed := (custody.release holding).receive empty (fun member => member.2 rfl)
  rwa [Set.insert_sdiff_self_of_mem (custody.alive holder item holding)] at passed

/-- A holder gives what it has, if anything, to one with empty hands. -/
theorem give (custody : Custody live holds) {receiver : H} (holder : H) (free : holds receiver = none) :
    Custody live (Function.update (Function.update holds holder none) receiver (holds holder)) := by
  cases holding : holds holder with
  | some item => exact custody.pass holding (.inr free)
  | none =>
    rw [update_none holding, update_none free]
    exact custody

end Custody

/-- Who can hold something in a system of tasks: a task, a task that is
spawned and has not begun, or a place of the shared state. -/
inductive Holder (κ : Type)
  | task (task : Nat)
  | spawned (index : Nat)
  | slot (place : κ)
  deriving DecidableEq

namespace Holder

variable {κ φ τ : Type} [DecidableEq κ]

/-- What each holder has, by the phases of the tasks, the spawned tasks and the places. -/
def held (ofPhase : φ → Option I) (ofSpawned : τ → Option I) (slots : κ → Option I) (phases : Nat → φ) (spawned : List (Option τ)) :
    Holder κ → Option I
  | task own => ofPhase (phases own)
  | .spawned index => spawned[index]?.join.bind ofSpawned
  | slot place => slots place

variable {ofPhase : φ → Option I} {ofSpawned : τ → Option I} {slots : κ → Option I} {phases : Nat → φ} {waiting : List (Option τ)}

theorem held_move (moving : Nat) (phase : φ) :
    held ofPhase ofSpawned slots (Function.update phases moving phase) waiting =
      Function.update (held ofPhase ofSpawned slots phases waiting) (.task moving) (ofPhase phase) := by
  funext holder
  cases holder with
  | task other =>
    by_cases same : other = moving
    · subst same
      simp [held]
    · simp [held, Function.update_of_ne, same]
  | spawned index => simp [held]
  | slot place => simp [held]

theorem held_spawn (new : τ) :
    held ofPhase ofSpawned slots phases (waiting ++ [some new]) =
      Function.update (held ofPhase ofSpawned slots phases waiting) (.spawned waiting.length) (ofSpawned new) := by
  funext holder
  cases holder with
  | task other => simp [held]
  | spawned index =>
    by_cases same : index = waiting.length
    · subst same
      simp [held]
    · have elsewhere : (waiting ++ [some new])[index]?.join = waiting[index]?.join := by
        rcases Nat.lt_or_gt_of_ne same with before | after
        · rw [List.getElem?_append_left before]
        · rw [List.getElem?_eq_none (by simp; omega), List.getElem?_eq_none (by omega)]
      simp [held, elsewhere, Function.update_of_ne, same]
  | slot place => simp [held]

theorem held_begin (index : Nat) :
    held ofPhase ofSpawned slots phases (waiting.set index none) =
      Function.update (held ofPhase ofSpawned slots phases waiting) (.spawned index) none := by
  funext holder
  cases holder with
  | task other => simp [held]
  | spawned other =>
    by_cases same : other = index
    · subst same
      rcases Nat.lt_or_ge other waiting.length with inside | outside
      · simp [held, inside]
      · simp [held, outside]
    · simp [held, Function.update_of_ne, same, List.getElem?_set_ne (Ne.symm same)]
  | slot place => simp [held]

theorem held_place (place : κ) (item : Option I) :
    held ofPhase ofSpawned (Function.update slots place item) phases waiting =
      Function.update (held ofPhase ofSpawned slots phases waiting) (.slot place) item := by
  funext holder
  cases holder with
  | task other => simp [held]
  | spawned index => simp [held]
  | slot other =>
    by_cases same : other = place
    · subst same
      simp [held]
    · simp [held, Function.update_of_ne, same]

end Holder

namespace Pool

variable {A : Type} {R : A → Type} {σ φ : Type} {move : φ → (action : A) → R action → Option φ} {initial : φ} {final : φ → Prop}
  {pool : Pool A R σ} {phases : Nat → φ}

/-- A move under a condition has been made under it. -/
theorem of_guard {c : Prop} [Decidable c] {phase later : φ} (moved : (if c then some phase else none) = some later) : c ∧ phase = later := by
  obtain ⟨guard, same⟩ := Option.ite_none_right_eq_some.mp moved
  exact ⟨guard, Option.some.inj same⟩

/-- A task that is neither at the beginning nor at the end of its phases is about to make a move. -/
theorem Phased.busy (phased : Phased move initial final pool phases) {task : Nat} (begun : phases task ≠ initial)
    (open_ : ¬ final (phases task)) :
    ∃ action, pool.next task = some action ∧ ∀ answer, ∃ later, move (phases task) action answer = some later := by
  cases about : pool.next task with
  | some action => exact ⟨action, rfl, phased.moves about⟩
  | none =>
    cases here : pool.tasks[task]? with
    | none => exact absurd (phased.fresh task (List.getElem?_eq_none_iff.mp here)) begun
    | some body =>
      cases body with
      | done value => exact absurd (phased.follows task _ here) open_
      | act action next => simp [Pool.next, here] at about

variable {Op : Type} {exec : (action : A) → σ → R action × σ} {program : Op → Program A R Unit}
  {permitted : Pool A R σ → Turn Op → Prop} {I : σ → (Nat → φ) → List (Nat × Σ action, R action) → Prop}

/-- A task that is about to perform an action is there with a program that starts with it. -/
theorem body_of_next {task : Nat} {action : A} (about : pool.next task = some action) :
    ∃ body ∈ pool.tasks, ∃ next, body = .act action next := by
  cases found : pool.tasks[task]? with
  | none => simp [Pool.next, found] at about
  | some body =>
    cases body with
    | done value => simp [Pool.next, found] at about
    | act performed next =>
      obtain rfl : performed = action := by simpa [Pool.next, found] using about
      exact ⟨_, List.mem_of_getElem? found, next, rfl⟩

/-- Every task that has begun has ended. -/
def Resting (pool : Pool A R σ) : Prop := ∀ entry ∈ pool.trace, (pool.next entry.1).isNone

instance (pool : Pool A R σ) : Decidable pool.Resting := List.decidableBAll _ _

/-- At rest every task is at the beginning of its phases or at the end. -/
theorem Phased.resting (phased : Phased move initial final pool phases) (same : ∀ task, reached move initial pool.trace task = phases task)
    (rest : pool.Resting) (task : Nat) : phases task = initial ∨ final (phases task) := by
  by_cases begun : ∃ entry ∈ pool.trace, entry.1 = task
  · obtain ⟨entry, member, rfl⟩ := begun
    by_contra neither
    rw [not_or] at neither
    obtain ⟨action, about, -⟩ := phased.busy neither.1 neither.2
    have ended := rest entry member
    rw [about] at ended
    cases ended
  · rw [← same task]
    exact .inl (reached_absent fun entry member here => begun ⟨entry, member, here⟩)

/-- In one turn the shared state stays as it is, or a task performs its next action. -/
theorem after_succ (exec : (action : A) → σ → R action × σ) (program : Op → Program A R Unit) (shared : σ) (turns : List (Turn Op)) (k : Nat) :
    (after exec program shared turns (k + 1)).shared = (after exec program shared turns k).shared ∨
      ∃ task action, turns[k]? = some (.take task) ∧ (after exec program shared turns k).next task = some action ∧
        (after exec program shared turns (k + 1)).shared = (exec action (after exec program shared turns k).shared).2 := by
  cases here : turns[k]? with
  | none => exact .inl (congrArg Pool.shared (History.stateAt_past_end here))
  | some turn =>
    have onward : after exec program shared turns (k + 1) = (after exec program shared turns k).step exec program turn :=
      History.stateAt_succ here
    cases turn with
    | spawn op => exact .inl (by simp only [onward, step])
    | take task =>
      cases found : (after exec program shared turns k).tasks[task]? with
      | none => exact .inl (by simp only [onward, step, found])
      | some body =>
        cases body with
        | done value => exact .inl (by simp only [onward, step, found])
        | act action next => exact .inr ⟨task, action, rfl, by simp [Pool.next, found], by simp only [onward, step, found, perform]⟩

/-- A turn of a task that has something to do leads it to the next phase. -/
theorem Phased.onward {shared : σ} {turns : List (Turn Op)} {k task : Nat} {action : A}
    (phased : Phased move initial final (after exec program shared turns k) phases) (here : turns[k]? = some (.take task))
    (about : (after exec program shared turns k).next task = some action) :
    ∃ later, move (phases task) action (exec action (after exec program shared turns k).shared).1 = some later ∧
      Phased move initial final (after exec program shared turns (k + 1)) (Function.update phases task later) ∧
      (after exec program shared turns (k + 1)).trace = (after exec program shared turns k).trace ++
        [(task, ⟨action, (exec action (after exec program shared turns k).shared).1⟩)] := by
  have onward : after exec program shared turns (k + 1) = (after exec program shared turns k).step exec program (.take task) :=
    History.stateAt_succ here
  cases found : (after exec program shared turns k).tasks[task]? with
  | none => simp [Pool.next, found] at about
  | some body =>
    cases body with
    | done value => simp [Pool.next, found] at about
    | act other next =>
      obtain rfl : other = action := by simpa [Pool.next, found] using about
      obtain ⟨later, moved, stays⟩ := phased.perform exec found
      rw [onward]
      simp only [step, found]
      exact ⟨later, moved, stays, rfl⟩

/-- An invariant whose steps rest on what the phases tell of the other tasks. -/
theorem Phased.run (follows : ∀ op, Program.Follows move initial (program op) fun later _ => final later)
    (kept : ∀ (pool : Pool A R σ) phases task action later, Phased move initial final pool phases →
      I pool.shared phases pool.trace → pool.next task = some action → permitted pool (.take task) →
      move (phases task) action (exec action pool.shared).1 = some later →
      I (exec action pool.shared).2 (Function.update phases task later)
        (pool.trace ++ [(task, ⟨action, (exec action pool.shared).1⟩)]))
    {shared : σ} (first : I shared (fun _ => initial) []) {turns : List (Turn Op)}
    (allowed : ∀ k turn, turns[k]? = some turn → permitted (after exec program shared turns k) turn) (k : Nat) :
    ∃ phases, Phased move initial final (after exec program shared turns k) phases ∧
      I (after exec program shared turns k).shared phases (after exec program shared turns k).trace := by
  refine after_induction (I := fun pool => ∃ phases, Phased move initial final pool phases ∧ I pool.shared phases pool.trace)
    ⟨fun _ => initial, ⟨by simp [start], fun _ _ => rfl⟩, first⟩ (fun pool turn here permission => ?_) allowed k
  obtain ⟨phases, phased, holds⟩ := here
  cases turn with
  | spawn op => exact ⟨phases, phased.spawn op (follows op), holds⟩
  | take task =>
    cases found : pool.tasks[task]? with
    | none =>
      simp only [Pool.step, found]
      exact ⟨phases, phased, holds⟩
    | some body =>
      cases body with
      | done value =>
        simp only [Pool.step, found]
        exact ⟨phases, phased, holds⟩
      | act action next =>
        obtain ⟨later, moved, stays⟩ := phased.perform exec found
        simp only [Pool.step, found]
        exact ⟨_, stays, kept pool phases task action later phased holds (by simp [Pool.next, found]) permission moved⟩

end Pool
