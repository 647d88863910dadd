import RustConnect.Base.Program
import RustConnect.Base.History

namespace Program

variable {A : Type} {R : A → Type} {α β φ ε : Type} (move : φ → (action : A) → R action → Option φ)

/-- Whatever the answers, the program only makes moves that its phase allows,
and it ends in a phase and with a value that satisfy `Q`. -/
def Follows : φ → Program A R α → (φ → α → Prop) → Prop
  | phase, .done value, Q => Q phase value
  | phase, .act action next, Q => ∀ answer, ∃ later, move phase action answer = some later ∧ (next answer).Follows later Q

variable {move} {phase : φ}

@[simp] theorem follows_pure (value : α) (Q : φ → α → Prop) :
    Follows move phase (pure value : Program A R α) Q ↔ Q phase value := Iff.rfl

@[simp] theorem follows_done (value : α) (Q : φ → α → Prop) : Follows move phase (.done value : Program A R α) Q ↔ Q phase value :=
  Iff.rfl

@[simp] theorem follows_call (action : A) (Q : φ → R action → Prop) :
    Follows move phase (call action) Q ↔ ∀ answer, ∃ later, move phase action answer = some later ∧ Q later answer := Iff.rfl

@[simp] theorem follows_bind (program : Program A R α) (f : α → Program A R β) (Q : φ → β → Prop) :
    Follows move phase (program >>= f) Q ↔ Follows move phase program fun later value => Follows move later (f value) Q := by
  induction program generalizing phase with
  | done value => exact Iff.rfl
  | act action next ih =>
    refine forall_congr' fun answer => exists_congr fun later => and_congr_right fun _ => ?_
    exact ih answer

@[simp] theorem follows_map (f : α → β) (program : Program A R α) (Q : φ → β → Prop) :
    Follows move phase (f <$> program) Q ↔ Follows move phase program fun later value => Q later (f value) :=
  follows_bind program (fun value => pure (f value)) Q

@[simp] theorem follows_ite (c : Prop) [Decidable c] (first second : Program A R α) (Q : φ → α → Prop) :
    Follows move phase (if c then first else second) Q ↔ (c → Follows move phase first Q) ∧ (¬c → Follows move phase second Q) := by
  split <;> simp_all

@[simp] theorem follows_except_ite (c : Prop) [Decidable c] (first second : ExceptT ε (Program A R) α) (Q : φ → Except ε α → Prop) :
    Follows move phase (if c then first else second).run Q ↔
      (c → Follows move phase first.run Q) ∧ (¬c → Follows move phase second.run Q) := by
  split <;> simp_all

@[simp] theorem follows_except_throw (e : ε) (Q : φ → Except ε α → Prop) :
    Follows move phase (throw e : ExceptT ε (Program A R) α).run Q ↔ Q phase (.error e) := Iff.rfl

@[simp] theorem follows_except_pure (value : α) (Q : φ → Except ε α → Prop) :
    Follows move phase (pure value : ExceptT ε (Program A R) α).run Q ↔ Q phase (.ok value) := Iff.rfl

@[simp] theorem follows_except_bind (program : ExceptT ε (Program A R) α) (f : α → ExceptT ε (Program A R) β)
    (Q : φ → Except ε β → Prop) :
    Follows move phase (program >>= f).run Q ↔ Follows move phase program.run fun later result =>
      match result with
      | .ok value => Follows move later (f value).run Q
      | .error e => Q later (.error e) := by
  rw [ExceptT.run_bind, follows_bind]
  refine iff_of_eq (congrArg (Follows move phase program.run) (funext fun later => funext fun result => ?_))
  cases result <;> rfl

@[simp] theorem follows_except_lift (program : Program A R α) (Q : φ → Except ε α → Prop) :
    Follows move phase (liftM program : ExceptT ε (Program A R) α).run Q ↔
      Follows move phase program fun later value => Q later (.ok value) :=
  follows_map Except.ok program Q

@[simp] theorem follows_except_ofExcept (result : Except ε α) (Q : φ → Except ε α → Prop) :
    Follows move phase (liftM result : ExceptT ε (Program A R) α).run Q ↔ Q phase result := Iff.rfl

@[simp] theorem follows_attempt (program : ExceptT ε (Program A R) α) (Q : φ → Unit → Prop) :
    Follows move phase (attempt program) Q ↔ Follows move phase program.run fun later _ => Q later () :=
  follows_map (fun _ => ()) program.run Q

theorem follows_except_adapt {ε' : Type} (f : ε → ε') (program : ExceptT ε (Program A R) α) (Q : φ → Except ε' α → Prop) :
    Follows move phase (program.adapt f).run Q ↔
      Follows move phase program.run fun later result => Q later (result.mapError f) :=
  follows_map _ program.run Q

/-- A program keeps to its moves when it is cut off, and then makes the move of the alarm. -/
theorem Follows.cutOff {program : Program A R α} {Q : φ → α → Prop} (follows : Follows move phase program Q) {alarm : A}
    {T : φ → Prop} (strikes : ∀ phase answer, ∃ later, move phase alarm answer = some later ∧ T later) (n : Nat) :
    Follows move phase (program.cutOff alarm n) fun later value => value.elim (T later) (Q later) := by
  induction program generalizing phase n with
  | done value => cases n <;> exact follows
  | act action next ih =>
    cases n with
    | zero => exact fun answer => strikes phase answer
    | succ n =>
      intro answer
      obtain ⟨later, moved, rest⟩ := follows answer
      exact ⟨later, moved, ih answer rest n⟩

theorem Follows.weaken {program : Program A R α} {Q Q' : φ → α → Prop} (follows : Follows move phase program Q)
    (weaker : ∀ later value, Q later value → Q' later value) : Follows move phase program Q' := by
  induction program generalizing phase with
  | done value => exact weaker _ _ follows
  | act action next ih =>
    intro answer
    obtain ⟨later, moved, rest⟩ := follows answer
    exact ⟨later, moved, ih answer rest⟩

/-- Calls to a layer below keep to the moves of the program that is translated into them. -/
theorem Follows.hoist {B : Type} {S : B → Type} {inner : φ → (action : B) → S action → Option φ} {program : Program B S α}
    {Q : φ → α → Prop} {f : (action : B) → Program A R (S action)} (follows : Follows inner phase program Q)
    (each : ∀ phase action, (∀ answer, (inner phase action answer).isSome) →
      Follows move phase (f action) fun later answer => inner phase action answer = some later) :
    Follows move phase (program.hoist f) Q := by
  induction program generalizing phase with
  | done value => exact follows
  | act action next ih =>
    have defined (answer : S action) : (inner phase action answer).isSome := by
      obtain ⟨later, moved, -⟩ := follows answer
      simp [moved]
    refine (follows_bind _ _ _).mpr ((each phase action defined).weaken fun later answer came => ?_)
    obtain ⟨later', moved, rest⟩ := follows answer
    obtain rfl : later' = later := Option.some.inj (moved.symm.trans came)
    exact ih answer rest

/-- A program whose actions leave the phase alone stays in it. -/
theorem Only.follows {P : A → Prop} {T : α → Prop} {program : Program A R α} (only : program.Only P T)
    (still : ∀ action, P action → ∀ answer, move phase action answer = some phase) :
    Follows move phase program fun later value => later = phase ∧ T value := by
  induction program with
  | done value => exact ⟨rfl, only⟩
  | act action next ih => exact fun answer => ⟨phase, still action only.1 answer, ih answer (only.2 answer)⟩

end Program

/-- Tasks that share a state and run in turns: in one turn a task performs one
action. The trace tells which task has performed what and the answer it got. -/
structure Pool (A : Type) (R : A → Type) (σ : Type) where
  shared : σ
  tasks : List (Program A R Unit)
  trace : List (Nat × Σ action, R action)

inductive Turn (Op : Type)
  | spawn (op : Op)
  | take (task : Nat)

namespace Pool

variable {A Op : Type} {R : A → Type} {σ φ : Type}

section Step

variable (exec : (action : A) → σ → R action × σ) (program : Op → Program A R Unit)

def perform (pool : Pool A R σ) (task : Nat) (action : A) (next : R action → Program A R Unit) : Pool A R σ where
  shared := (exec action pool.shared).2
  tasks := pool.tasks.set task (next (exec action pool.shared).1)
  trace := pool.trace ++ [(task, ⟨action, (exec action pool.shared).1⟩)]

/-- A turn given to a task that has ended, or to none, is lost. -/
def step (pool : Pool A R σ) : Turn Op → Pool A R σ
  | .spawn op => { pool with tasks := pool.tasks ++ [program op] }
  | .take task =>
    match pool.tasks[task]? with
    | some (.act action next) => pool.perform exec task action next
    | _ => pool

def start (shared : σ) : Pool A R σ := { shared, tasks := [], trace := [] }

/-- The pool after the first `k` of the given turns. -/
def after (shared : σ) (turns : List (Turn Op)) (k : Nat) : Pool A R σ :=
  History.stateAt (step exec program) (start shared) turns k

/-- What every permitted turn keeps holds all along a run whose turns are permitted. -/
theorem after_induction {exec : (action : A) → σ → R action × σ} {program : Op → Program A R Unit} {shared : σ}
    {permitted : Pool A R σ → Turn Op → Prop} {I : Pool A R σ → Prop} (first : I (start shared))
    (kept : ∀ pool turn, I pool → permitted pool turn → I (pool.step exec program turn)) {turns : List (Turn Op)}
    (allowed : ∀ k turn, turns[k]? = some turn → permitted (after exec program shared turns k) turn) (k : Nat) :
    I (after exec program shared turns k) := by
  induction k with
  | zero => exact first
  | succ k ih =>
    cases here : turns[k]? with
    | none =>
      rw [after, History.stateAt_past_end here]
      exact ih
    | some turn =>
      rw [after, History.stateAt_succ here]
      exact kept _ turn ih (allowed k turn here)

/-- A check that is made before every turn, and one at the end, in one pass over the turns. -/
def along (check : Pool A R σ → Turn Op → Bool) (final : Pool A R σ → Bool) : Pool A R σ → List (Turn Op) → Bool
  | pool, [] => final pool
  | pool, turn :: rest => check pool turn && along check final (pool.step exec program turn) rest

theorem along_stateAt {exec : (action : A) → σ → R action × σ} {program : Op → Program A R Unit} {pool : Pool A R σ}
    {check : Pool A R σ → Turn Op → Bool} {final : Pool A R σ → Bool} {turns : List (Turn Op)}
    (passes : along exec program check final pool turns = true) :
    (∀ k turn, turns[k]? = some turn → check (History.stateAt (step exec program) pool turns k) turn = true) ∧
      final (History.stateAt (step exec program) pool turns turns.length) = true := by
  induction turns generalizing pool with
  | nil => exact ⟨fun k turn here => by simp at here, passes⟩
  | cons first rest ih =>
    simp only [along, Bool.and_eq_true] at passes
    obtain ⟨before, last⟩ := ih passes.2
    refine ⟨fun k turn here => ?_, last⟩
    cases k with
    | zero =>
      obtain rfl : first = turn := by simpa using here
      simpa using passes.1
    | succ k => exact before k turn (by simpa using here)

theorem along_after {exec : (action : A) → σ → R action × σ} {program : Op → Program A R Unit} {shared : σ}
    {check : Pool A R σ → Turn Op → Bool} {final : Pool A R σ → Bool} {turns : List (Turn Op)}
    (passes : along exec program check final (start shared) turns = true) :
    (∀ k turn, turns[k]? = some turn → check (after exec program shared turns k) turn = true) ∧
      final (after exec program shared turns turns.length) = true :=
  along_stateAt passes

/-- Only the programs of the operations that are spawned matter. -/
theorem after_congr {exec : (action : A) → σ → R action × σ} {program program' : Op → Program A R Unit} {shared : σ}
    {turns : List (Turn Op)} (same : ∀ op, .spawn op ∈ turns → program op = program' op) (k : Nat) :
    after exec program shared turns k = after exec program' shared turns k := by
  induction k with
  | zero => rfl
  | succ k ih =>
    unfold after at ih ⊢
    cases here : turns[k]? with
    | none => rw [History.stateAt_past_end here, History.stateAt_past_end here, ih]
    | some turn =>
      rw [History.stateAt_succ here, History.stateAt_succ here, ih]
      cases turn with
      | spawn op => simp only [step, same op (List.mem_of_getElem? here)]
      | take task => rfl

end Step

/-- The action that a task would perform in its next turn. -/
def next (pool : Pool A R σ) (task : Nat) : Option A :=
  match pool.tasks[task]? with
  | some (.act action _) => some action
  | _ => none

theorem shared_of_next {exec : (action : A) → σ → R action × σ} {program : Op → Program A R Unit} {pool : Pool A R σ} {task : Nat}
    {action : A} (about : pool.next task = some action) :
    (pool.step exec program (.take task)).shared = (exec action pool.shared).2 := by
  unfold next at about
  split at about
  · rename_i found
    cases about
    simp only [step, found, perform]
  · cases about

theorem after_take {exec : (action : A) → σ → R action × σ} {program : Op → Program A R Unit} {shared : σ} {turns : List (Turn Op)}
    {k task : Nat} {action : A} (here : turns[k]? = some (.take task))
    (about : (after exec program shared turns k).next task = some action) :
    (after exec program shared turns (k + 1)).shared = (exec action (after exec program shared turns k).shared).2 := by
  have onward : after exec program shared turns (k + 1) = (after exec program shared turns k).step exec program (.take task) :=
    History.stateAt_succ here
  rw [onward]
  exact shared_of_next about

theorem step_of_none {exec : (action : A) → σ → R action × σ} {program : Op → Program A R Unit} {pool : Pool A R σ} {task : Nat}
    (rests : pool.next task = none) : pool.step exec program (.take task) = pool := by
  simp only [step]
  split
  · rename_i found
    simp [next, found] at rests
  · rfl

/-- A task comes no further in the turn of another one. -/
theorem next_take_ne {exec : (action : A) → σ → R action × σ} {program : Op → Program A R Unit} {pool : Pool A R σ} {task other : Nat}
    (apart : other ≠ task) : (pool.step exec program (.take task)).next other = pool.next other := by
  simp only [step]
  split
  · simp only [next, perform, List.getElem?_set_ne (Ne.symm apart)]
  · rfl

theorem next_spawn {exec : (action : A) → σ → R action × σ} {program : Op → Program A R Unit} {pool : Pool A R σ} {op : Op} {task : Nat}
    (inside : task < pool.tasks.length) : (pool.step exec program (.spawn op)).next task = pool.next task := by
  simp only [step, next, List.getElem?_append_left inside]

theorem trace_of_next {exec : (action : A) → σ → R action × σ} {program : Op → Program A R Unit} {pool : Pool A R σ} {task : Nat}
    {action : A} (about : pool.next task = some action) :
    (pool.step exec program (.take task)).trace = pool.trace ++ [(task, ⟨action, (exec action pool.shared).1⟩)] := by
  unfold next at about
  split at about
  · rename_i found
    cases about
    simp only [step, found, perform]
  · cases about

def Idle (pool : Pool A R σ) : Prop := ∀ task, pool.next task = none

theorem idle_of_ended {pool : Pool A R σ} (ended : ∀ task < pool.tasks.length, (pool.next task).isNone) : pool.Idle := by
  intro task
  by_cases inside : task < pool.tasks.length
  · exact Option.isNone_iff_eq_none.mp (ended task inside)
  · simp only [next, List.getElem?_eq_none (Nat.le_of_not_lt inside)]

section Phases

variable (move : φ → (action : A) → R action → Option φ) (initial : φ) (final : φ → Prop)

/-- Every task is in a phase whose moves it keeps to until it ends in a final
one, and no phase is given to a task that is not there yet. -/
structure Phased (pool : Pool A R σ) (phases : Nat → φ) : Prop where
  follows : ∀ task program, pool.tasks[task]? = some program →
    Program.Follows move (phases task) program fun later _ => final later
  fresh : ∀ task, pool.tasks.length ≤ task → phases task = initial

variable {move initial final} {exec : (action : A) → σ → R action × σ} {program : Op → Program A R Unit} {pool : Pool A R σ}
  {phases : Nat → φ}

theorem Phased.spawn (phased : Phased move initial final pool phases) (op : Op)
    (follows : Program.Follows move initial (program op) fun later _ => final later) :
    Phased move initial final (pool.step exec program (.spawn op)) phases where
  follows task body found := by
    rcases Nat.lt_trichotomy task pool.tasks.length with old | same | later
    · exact phased.follows task body (by simpa [step, List.getElem?_append_left old] using found)
    · subst same
      obtain rfl : program op = body := by simpa [step] using found
      rw [phased.fresh _ Nat.le.refl]
      exact follows
    · have absent : (pool.tasks ++ [program op])[task]? = none := by
        rw [List.getElem?_eq_none_iff, List.length_append, List.length_singleton]
        omega
      exact absurd (absent.symm.trans found) (by simp)
  fresh task beyond := by
    refine phased.fresh task ?_
    have length : (pool.step exec program (.spawn op)).tasks.length = pool.tasks.length + 1 := by simp [step]
    omega

variable (exec) in
/-- A task that performs an action moves to the phase its move leads to. -/
theorem Phased.perform (phased : Phased move initial final pool phases) {task : Nat} {action : A}
    {next : R action → Program A R Unit} (here : pool.tasks[task]? = some (.act action next)) :
    ∃ later, move (phases task) action (exec action pool.shared).1 = some later ∧
      Phased move initial final (pool.perform exec task action next) (Function.update phases task later) := by
  obtain ⟨later, moved, rest⟩ := phased.follows task _ here (exec action pool.shared).1
  obtain ⟨inside, -⟩ := List.getElem?_eq_some_iff.mp here
  refine ⟨later, moved, fun other body found => ?_, fun other beyond => ?_⟩
  · by_cases same : other = task
    · subst same
      obtain rfl : next (exec action pool.shared).1 = body := by
        simpa [Pool.perform, List.getElem?_set_self inside] using found
      simpa using rest
    · have kept : pool.tasks[other]? = some body := by
        simpa [Pool.perform, List.getElem?_set_ne (Ne.symm same)] using found
      simpa [Function.update_of_ne same] using phased.follows other body kept
  · have length : (pool.perform exec task action next).tasks.length = pool.tasks.length := by simp [Pool.perform]
    have other_ne : other ≠ task := by omega
    rw [Function.update_of_ne other_ne]
    exact phased.fresh other (by omega)

/-- What a task is about to do is a move of its phase. -/
theorem Phased.moves (phased : Phased move initial final pool phases) {task : Nat} {action : A} (about : pool.next task = some action)
    (answer : R action) : ∃ later, move (phases task) action answer = some later := by
  cases here : pool.tasks[task]? with
  | none => simp [Pool.next, here] at about
  | some body =>
    cases body with
    | done value => simp [Pool.next, here] at about
    | act other next =>
      obtain rfl : other = action := by simpa [Pool.next, here] using about
      obtain ⟨later, moved, -⟩ := phased.follows task _ here answer
      exact ⟨later, moved⟩

/-- A task that has nothing left to do, if it was there, has come to a final phase. -/
theorem Phased.rests (phased : Phased move initial final pool phases) {task : Nat} (rests : pool.next task = none) :
    phases task = initial ∨ final (phases task) := by
  cases here : pool.tasks[task]? with
  | none => exact .inl (phased.fresh task (List.getElem?_eq_none_iff.mp here))
  | some body =>
    right
    cases body with
    | done value => exact phased.follows task _ here
    | act action next => simp [Pool.next, here] at rests

theorem Phased.idle (phased : Phased move initial final pool phases) (idle : pool.Idle) (task : Nat) :
    phases task = initial ∨ final (phases task) :=
  phased.rests (idle task)

variable (move initial) in
/-- The phase that its own moves have led a task to. -/
def reached (trace : List (Nat × Σ action, R action)) (task : Nat) : φ :=
  trace.foldl (fun phase entry => if entry.1 = task then (move phase entry.2.1 entry.2.2).getD phase else phase) initial

theorem reached_absent {trace : List (Nat × Σ action, R action)} {task : Nat} (absent : ∀ entry ∈ trace, entry.1 ≠ task) :
    reached move initial trace task = initial := by
  unfold reached
  generalize initial = phase
  induction trace generalizing phase with
  | nil => rfl
  | cons entry trace ih =>
    rw [List.foldl_cons, if_neg (absent entry List.mem_cons_self)]
    exact ih (fun later member => absent later (List.mem_cons_of_mem _ member)) phase

theorem reached_concat (trace : List (Nat × Σ action, R action)) (task : Nat) (action : A) (answer : R action) :
    reached move initial (trace ++ [(task, ⟨action, answer⟩)]) task =
      (move (reached move initial trace task) action answer).getD (reached move initial trace task) := by
  unfold reached
  rw [List.foldl_append]
  exact if_pos rfl

theorem reached_concat_ne (trace : List (Nat × Σ action, R action)) {task other : Nat} (apart : task ≠ other) (action : A)
    (answer : R action) : reached move initial (trace ++ [(task, ⟨action, answer⟩)]) other = reached move initial trace other := by
  unfold reached
  rw [List.foldl_append]
  exact if_neg apart

theorem reached_append {trace : List (Nat × Σ action, R action)} (same : ∀ task, reached move initial trace task = phases task)
    {task : Nat} {action : A} {answer : R action} {later : φ} (moved : move (phases task) action answer = some later) (other : Nat) :
    reached move initial (trace ++ [(task, ⟨action, answer⟩)]) other = Function.update phases task later other := by
  by_cases here : task = other
  · subst here
    rw [reached_concat, same, moved, Option.getD_some, Function.update_self]
  · rw [reached_concat_ne trace here, same, Function.update_of_ne (Ne.symm here)]

/-- A turn in which a task does nothing leaves it in its phase. -/
theorem reached_still {task : Nat} {turn : Turn Op} (still : turn = .take task → pool.next task = none) :
    reached move initial (pool.step exec program turn).trace task = reached move initial pool.trace task := by
  cases turn with
  | spawn op => rfl
  | take taken =>
    cases about : pool.next taken with
    | none => rw [step_of_none about]
    | some action =>
      rw [trace_of_next about]
      refine reached_concat_ne pool.trace ?_ action _
      rintro rfl
      exact absurd (about.symm.trans (still rfl)) nofun

variable (move initial final exec program) in
/-- What is to be shown of a system of tasks: every task keeps to its phases,
and whatever a task does in a permitted turn keeps the invariant between the
shared state, the phases of all tasks and the trace. -/
structure Invariant (permitted : Pool A R σ → Turn Op → Prop)
    (I : σ → (Nat → φ) → List (Nat × Σ action, R action) → Prop) : Prop where
  follows : ∀ op, Program.Follows move initial (program op) fun later _ => final later
  kept : ∀ (pool : Pool A R σ) phases task action later, I pool.shared phases pool.trace → pool.next task = some action →
    permitted pool (.take task) → move (phases task) action (exec action pool.shared).1 = some later →
    I (exec action pool.shared).2 (Function.update phases task later)
      (pool.trace ++ [(task, ⟨action, (exec action pool.shared).1⟩)])

variable {permitted : Pool A R σ → Turn Op → Prop} {I : σ → (Nat → φ) → List (Nat × Σ action, R action) → Prop}

theorem Invariant.step (invariant : Invariant move initial final exec program permitted I) {turn : Turn Op}
    (phased : Phased move initial final pool phases) (holds : I pool.shared phases pool.trace) (allowed : permitted pool turn) :
    ∃ later, Phased move initial final (pool.step exec program turn) later ∧
      I (pool.step exec program turn).shared later (pool.step exec program turn).trace := by
  cases turn with
  | spawn op => exact ⟨phases, phased.spawn op (invariant.follows op), holds⟩
  | take task =>
    cases here : pool.tasks[task]? with
    | none =>
      simp only [Pool.step, here]
      exact ⟨phases, phased, holds⟩
    | some body =>
      cases body with
      | done value =>
        simp only [Pool.step, here]
        exact ⟨phases, phased, holds⟩
      | act action next =>
        obtain ⟨later, moved, stays⟩ := phased.perform exec here
        simp only [Pool.step, here]
        exact ⟨_, stays, invariant.kept pool phases task action later holds (by simp [Pool.next, here]) allowed moved⟩

/-- In a run whose turns are all permitted the invariant holds all along. -/
theorem Invariant.run (invariant : Invariant move initial final exec program permitted I) {shared : σ}
    (first : I shared (fun _ => initial) []) {turns : List (Turn Op)}
    (allowed : ∀ k turn, turns[k]? = some turn → permitted (after exec program shared turns k) turn) (k : Nat) :
    ∃ phases, Phased move initial final (after exec program shared turns k) phases ∧
      I (after exec program shared turns k).shared phases (after exec program shared turns k).trace := by
  refine after_induction (I := fun pool => ∃ phases, Phased move initial final pool phases ∧ I pool.shared phases pool.trace)
    ⟨fun _ => initial, ⟨by simp [start], fun _ _ => rfl⟩, first⟩ (fun pool turn here permission => ?_) allowed k
  obtain ⟨phases, phased, holds⟩ := here
  exact invariant.step phased holds permission

end Phases

end Pool
