import Mathlib

/-- A computation over an interface of atomic actions `A`, each answered by
a value of its own type: it has ended, or it performs one action and goes on
with the answer. Nothing happens between two actions of one program, so an
action is also the grain at which other programs can interfere. -/
inductive Program (A : Type) (R : A → Type) (α : Type) where
  | done (value : α)
  | act (action : A) (next : R action → Program A R α)

namespace Program

variable {A B : Type} {R : A → Type} {Q : B → Type} {σ α β : Type}

protected def bind : Program A R α → (α → Program A R β) → Program A R β
  | .done value, f => f value
  | .act action next, f => .act action fun answer => (next answer).bind f

instance : Monad (Program A R) where
  pure := done
  bind := Program.bind

/-- The program of a single action. -/
def call (action : A) : Program A R (R action) := .act action .done

@[simp] theorem done_bind (value : α) (f : α → Program A R β) : (done value >>= f) = f value := rfl

@[simp] theorem act_bind (action : A) (next : R action → Program A R α) (f : α → Program A R β) :
    (act action next >>= f) = act action fun answer => next answer >>= f := rfl

theorem map_id (program : Program A R α) : id <$> program = program := by
  induction program with
  | done value => rfl
  | act action next ih => exact congrArg (act action) (funext ih)

theorem bind_assoc {γ : Type} (program : Program A R α) (f : α → Program A R β) (g : β → Program A R γ) :
    program >>= f >>= g = program >>= fun value => f value >>= g := by
  induction program with
  | done value => rfl
  | act action next ih => exact congrArg (act action) (funext ih)

instance : LawfulMonad (Program A R) :=
  .mk' (Program A R) map_id (fun _ _ => rfl) bind_assoc

section Run

variable (exec : (action : A) → σ → R action × σ)

/-- The undisturbed run: every action is executed on the state its predecessor left. -/
def run : Program A R α → σ → α × σ
  | .done value, s => (value, s)
  | .act action next, s => run (next (exec action s).1) (exec action s).2

/-- The actions of the undisturbed run, in order. -/
def actions : Program A R α → σ → List A
  | .done _, _ => []
  | .act action next, s => action :: actions (next (exec action s).1) (exec action s).2

/-- The state in which the undisturbed run stands after its first `n` actions. -/
def stateAfter : Nat → Program A R α → σ → σ
  | 0, _, s => s
  | _ + 1, .done _, s => s
  | n + 1, .act action next, s => stateAfter n (next (exec action s).1) (exec action s).2

@[simp] theorem run_pure (value : α) (s : σ) : run exec (pure value) s = (value, s) := (rfl)

@[simp] theorem run_call (action : A) (s : σ) : run exec (call action) s = exec action s := (rfl)

@[simp] theorem run_bind (program : Program A R α) (f : α → Program A R β) (s : σ) :
    run exec (program >>= f) s = run exec (f (run exec program s).1) (run exec program s).2 := by
  induction program generalizing s with
  | done value => rfl
  | act action next ih => exact ih _ _

@[simp] theorem run_map (f : α → β) (program : Program A R α) (s : σ) :
    run exec (f <$> program) s = (f (run exec program s).1, (run exec program s).2) :=
  run_bind exec program (fun value => pure (f value)) s

@[simp] theorem run_ite (c : Prop) [Decidable c] (first second : Program A R α) (s : σ) :
    run exec (if c then first else second) s = if c then run exec first s else run exec second s := by
  split <;> rfl

@[simp] theorem actions_pure (value : α) (s : σ) : actions exec (pure value) s = [] := (rfl)

@[simp] theorem actions_call (action : A) (s : σ) : actions exec (call action) s = [action] := (rfl)

@[simp] theorem actions_bind (program : Program A R α) (f : α → Program A R β) (s : σ) :
    actions exec (program >>= f) s =
      actions exec program s ++ actions exec (f (run exec program s).1) (run exec program s).2 := by
  induction program generalizing s with
  | done value => rfl
  | act action next ih => exact congrArg (action :: ·) (ih _ _)

@[simp] theorem actions_map (f : α → β) (program : Program A R α) (s : σ) :
    actions exec (f <$> program) s = actions exec program s := by
  have bound := actions_bind exec program (fun value => pure (f value)) s
  simpa using bound

/-- What the performed actions keep, the run keeps. -/
theorem run_invariant {I : σ → Prop} {program : Program A R α} {s : σ}
    (kept : ∀ action ∈ actions exec program s, ∀ t, I t → I (exec action t).2) (holds : I s) :
    I (run exec program s).2 := by
  induction program generalizing s with
  | done value => exact holds
  | act action next ih =>
    refine ih _ (fun later member => kept later (List.mem_cons_of_mem _ member)) ?_
    exact kept action List.mem_cons_self s holds

@[simp] theorem actions_ite (c : Prop) [Decidable c] (first second : Program A R α) (s : σ) :
    actions exec (if c then first else second) s =
      if c then actions exec first s else actions exec second s := by
  split <;> rfl

end Run

section Hoist

/-- The same program over another interface: each of its actions is replaced by a program there. -/
def hoist (translate : (action : A) → Program B Q (R action)) : Program A R α → Program B Q α
  | .done value => .done value
  | .act action next => translate action >>= fun answer => hoist translate (next answer)

/-- The program under a timeout, which strikes instead of the action after the first `n`. -/
def cutOff (alarm : A) : Nat → Program A R α → Program A R (Option α)
  | _, .done value => .done (some value)
  | 0, .act _ _ => .act alarm fun _ => .done none
  | n + 1, .act action next => .act action fun answer => cutOff alarm n (next answer)

/-- The program when an action of the kind fails: the first `n` of them come
about, and instead of the next one the program ends with the error. -/
def failOn {ε : Type} (kind : A → Bool) (e : ε) : Nat → Program A R (Except ε α) → Program A R (Except ε α)
  | _, .done result => .done result
  | 0, .act action next => if kind action then .done (.error e) else .act action fun answer => failOn kind e 0 (next answer)
  | n + 1, .act action next =>
    .act action fun answer => failOn kind e (if kind action then n else n + 1) (next answer)

theorem hoist_bind (translate : (action : A) → Program B Q (R action)) (program : Program A R α)
    (f : α → Program A R β) :
    (program >>= f).hoist translate = program.hoist translate >>= fun value => (f value).hoist translate := by
  induction program with
  | done value => rfl
  | act action next ih =>
    simp only [act_bind, hoist, bind_assoc]
    exact congrArg (translate action >>= ·) (funext ih)

variable {τ : Type} {execA : (action : A) → τ → R action × τ} {execB : (action : B) → σ → Q action × σ}
  {translate : (action : A) → Program B Q (R action)}

/-- When every translated action acts on a part of the larger state as the
action itself acts on that part, so does the whole program. -/
theorem run_hoist (view : σ → τ) (put : σ → τ → σ) (viewPut : ∀ s t, view (put s t) = t) (putView : ∀ s, put s (view s) = s)
    (putPut : ∀ s t u, put (put s t) u = put s u)
    (agrees : ∀ action s, run execB (translate action) s =
      ((execA action (view s)).1, put s (execA action (view s)).2))
    (program : Program A R α) (s : σ) :
    run execB (program.hoist translate) s = ((run execA program (view s)).1, put s (run execA program (view s)).2) := by
  induction program generalizing s with
  | done value => simp only [hoist, run, putView]
  | act action next ih =>
    simp only [hoist, run_bind, agrees, run]
    rw [ih, viewPut, putPut]

/-- A program that ends before the timeout strikes ends as it does without one. -/
theorem run_of_cutOff {exec : (action : A) → σ → R action × σ} {alarm : A} {n : Nat} {program : Program A R α} {s : σ} {value : α}
    (ended : (run exec (program.cutOff alarm n) s).1 = some value) :
    run exec program s = (value, (run exec (program.cutOff alarm n) s).2) := by
  induction program generalizing n s with
  | done final =>
    cases n <;> cases ended <;> rfl
  | act action next ih =>
    cases n with
    | zero => cases ended
    | succ n => exact ih _ ended

/-- A translation action by action keeps the sequence of actions. -/
theorem actions_hoist (view : σ → τ) (put : σ → τ → σ) (embed : A → B) (same : ∀ action, actions execB (translate action) = fun _ => [embed action])
    (viewPut : ∀ s t, view (put s t) = t)
    (agrees : ∀ action s, run execB (translate action) s =
      ((execA action (view s)).1, put s (execA action (view s)).2))
    (program : Program A R α) (s : σ) :
    actions execB (program.hoist translate) s = (actions execA program (view s)).map embed := by
  induction program generalizing s with
  | done value => rfl
  | act action next ih =>
    simp only [hoist, actions_bind, same, agrees, actions, List.map_cons, List.singleton_append]
    rw [ih, viewPut]

end Hoist

section Fallible

variable {ε : Type} (exec : (action : A) → σ → R action × σ)

@[simp] theorem run_except_bind (program : ExceptT ε (Program A R) α) (f : α → ExceptT ε (Program A R) β) (s : σ) :
    run exec (program >>= f).run s =
      match run exec program.run s with
      | (.ok value, s') => run exec (f value).run s'
      | (.error e, s') => (.error e, s') := by
  rw [ExceptT.run_bind, run_bind]
  rcases run exec program.run s with ⟨_ | _, _⟩ <;> rfl

@[simp] theorem run_except_lift (program : Program A R α) (s : σ) :
    run exec (liftM program : ExceptT ε (Program A R) α).run s =
      (.ok (run exec program s).1, (run exec program s).2) :=
  run_map exec Except.ok program s

@[simp] theorem run_except_ofExcept (result : Except ε α) (s : σ) :
    run exec (liftM result : ExceptT ε (Program A R) α).run s = (result, s) := (rfl)

@[simp] theorem run_except_ite (c : Prop) [Decidable c] (first second : ExceptT ε (Program A R) α) :
    (if c then first else second).run = if c then first.run else second.run := by
  split <;> rfl

@[simp] theorem run_except_adapt {ε' : Type} (f : ε → ε') (program : ExceptT ε (Program A R) α) (s : σ) :
    run exec (program.adapt f).run s = ((run exec program.run s).1.mapError f, (run exec program.run s).2) :=
  run_map exec (Except.mapError f) program.run s

@[simp] theorem actions_except_bind (program : ExceptT ε (Program A R) α) (f : α → ExceptT ε (Program A R) β) (s : σ) :
    actions exec (program >>= f).run s =
      actions exec program.run s ++
        match run exec program.run s with
        | (.ok value, s') => actions exec (f value).run s'
        | (.error _, _) => [] := by
  rw [ExceptT.run_bind, actions_bind]
  rcases run exec program.run s with ⟨_ | _, _⟩ <;> rfl

@[simp] theorem actions_except_lift (program : Program A R α) (s : σ) :
    actions exec (liftM program : ExceptT ε (Program A R) α).run s = actions exec program s :=
  actions_map exec Except.ok program s

@[simp] theorem actions_except_ofExcept (result : Except ε α) (s : σ) :
    actions exec (liftM result : ExceptT ε (Program A R) α).run s = [] := (rfl)

section Checks

variable {exec} {s : σ} {Q : α → Prop}

variable (exec s) in
/-- The fallible program changes nothing: it fails, or ends with a value that satisfies `Q`. -/
def Checks (program : ExceptT ε (Program A R) α) (Q : α → Prop) : Prop :=
  ∃ result, run exec program.run s = (result, s) ∧ ∀ value, result = .ok value → Q value

theorem Checks.bind {program : ExceptT ε (Program A R) α} {f : α → ExceptT ε (Program A R) β} {Q' : β → Prop}
    (first : Checks exec s program Q) (rest : ∀ value, Q value → Checks exec s (f value) Q') :
    Checks exec s (program >>= f) Q' := by
  obtain ⟨result, ran, holds⟩ := first
  unfold Checks
  rw [run_except_bind, ran]
  cases result with
  | error e => exact ⟨.error e, rfl, nofun⟩
  | ok value => exact rest value (holds value rfl)

theorem Checks.pure {value : α} (holds : Q value) : Checks exec s (Pure.pure value : ExceptT ε (Program A R) α) Q :=
  ⟨.ok value, rfl, fun _ same => by cases same; exact holds⟩

theorem Checks.throw (e : ε) : Checks exec s (throw e : ExceptT ε (Program A R) α) Q :=
  ⟨.error e, rfl, nofun⟩

theorem Checks.ofExcept {result : Except ε α} (holds : ∀ value, result = .ok value → Q value) :
    Checks exec s (liftM result : ExceptT ε (Program A R) α) Q :=
  ⟨result, rfl, holds⟩

theorem Checks.lift {program : Program A R α} {value : α} (ran : run exec program s = (value, s)) :
    Checks exec s (liftM program : ExceptT ε (Program A R) α) fun found => found = value :=
  ⟨.ok value, by rw [run_except_lift, ran], fun _ same => by cases same; rfl⟩

theorem Checks.adapt {ε' : Type} {f : ε → ε'} {program : ExceptT ε (Program A R) α} (checks : Checks exec s program Q) :
    Checks exec s (program.adapt f) Q := by
  obtain ⟨result, ran, holds⟩ := checks
  refine ⟨result.mapError f, by rw [run_except_adapt, ran], fun value same => ?_⟩
  cases result with
  | error e => cases same
  | ok value' => exact holds value (by cases same; rfl)

end Checks

/-- A fallible step has succeeded only through its parts. -/
theorem except_bind_ok {result : Except ε α} {f : α → Except ε β} {value : β} :
    (result >>= f) = .ok value ↔ ∃ first, result = .ok first ∧ f first = .ok value := by
  cases result with
  | error e => exact ⟨nofun, nofun⟩
  | ok first => exact ⟨fun same => ⟨first, rfl, same⟩, fun ⟨_, same, rest⟩ => by cases same; exact rest⟩

theorem ok_bind (value : α) (f : α → ExceptT ε (Program A R) β) :
    ((liftM (Except.ok value : Except ε α) : ExceptT ε (Program A R) α) >>= f) = f value := rfl

/-- A fallible program run for its effect: that it failed is not noticed. -/
def attempt (program : ExceptT ε (Program A R) α) : Program A R Unit := (fun _ => ()) <$> program.run

@[simp] theorem run_attempt (program : ExceptT ε (Program A R) α) (s : σ) :
    run exec (attempt program) s = ((), (run exec program.run s).2) :=
  run_map exec _ program.run s

@[simp] theorem actions_attempt (program : ExceptT ε (Program A R) α) (s : σ) :
    actions exec (attempt program) s = actions exec program.run s :=
  actions_map exec _ program.run s

theorem attempt_lift_bind (program : Program A R α) (f : α → ExceptT ε (Program A R) β) :
    attempt (liftM program >>= f) = program >>= fun value => attempt (f value) := by
  induction program with
  | done value => rfl
  | act action next ih => exact congrArg (act action) (funext ih)

theorem attempt_lift (program : Program A R Unit) : attempt (liftM program : ExceptT ε (Program A R) Unit) = program := by
  induction program with
  | done value => rfl
  | act action next ih => exact congrArg (act action) (funext ih)

end Fallible

section Only

/-- Whatever the answers, every action the program performs satisfies `P`,
and the value it ends with satisfies `Q`. -/
def Only : Program A R α → (A → Prop) → (α → Prop) → Prop
  | .done value, _, Q => Q value
  | .act action next, P, Q => P action ∧ ∀ answer, (next answer).Only P Q

variable {P : A → Prop} {ε : Type}

@[simp] theorem only_pure (value : α) (Q : α → Prop) : (pure value : Program A R α).Only P Q ↔ Q value := Iff.rfl

@[simp] theorem only_call (action : A) (Q : R action → Prop) :
    (call action).Only P Q ↔ P action ∧ ∀ answer, Q answer := Iff.rfl

@[simp] theorem only_bind (program : Program A R α) (f : α → Program A R β) (Q : β → Prop) :
    (program >>= f).Only P Q ↔ program.Only P fun value => (f value).Only P Q := by
  induction program with
  | done value => exact Iff.rfl
  | act action next ih => exact and_congr_right fun _ => forall_congr' ih

@[simp] theorem only_map (f : α → β) (program : Program A R α) (Q : β → Prop) :
    (f <$> program).Only P Q ↔ program.Only P fun value => Q (f value) :=
  only_bind program (fun value => pure (f value)) Q

@[simp] theorem only_ite (c : Prop) [Decidable c] (first second : Program A R α) (Q : α → Prop) :
    (if c then first else second).Only P Q ↔ (c → first.Only P Q) ∧ (¬c → second.Only P Q) := by
  split <;> simp [*]

@[simp] theorem only_except_bind (program : ExceptT ε (Program A R) α) (f : α → ExceptT ε (Program A R) β)
    (Q : Except ε β → Prop) :
    Only (program >>= f).run P Q ↔
      Only program.run P fun | .ok value => Only (f value).run P Q | .error e => Q (.error e) := by
  rw [ExceptT.run_bind, only_bind]
  refine iff_of_eq (congrArg (Only program.run P) (funext fun result => ?_))
  cases result <;> rfl

@[simp] theorem only_except_lift (program : Program A R α) (Q : Except ε α → Prop) :
    Only (liftM program : ExceptT ε (Program A R) α).run P Q ↔ program.Only P fun value => Q (.ok value) :=
  only_map Except.ok program Q

@[simp] theorem only_except_ofExcept (result : Except ε α) (Q : Except ε α → Prop) :
    Only (liftM result : ExceptT ε (Program A R) α).run P Q ↔ Q result := Iff.rfl

@[simp] theorem only_attempt (program : ExceptT ε (Program A R) α) (Q : Unit → Prop) :
    (attempt program).Only P Q ↔ Only program.run P fun _ => Q () :=
  only_map _ program.run Q

variable {Q : α → Prop} {program : Program A R α}

theorem Only.weaken {P' : A → Prop} {Q' : α → Prop} (only : program.Only P Q)
    (actions : ∀ action, P action → P' action) (values : ∀ value, Q value → Q' value) : program.Only P' Q' := by
  induction program with
  | done value => exact values value only
  | act action next ih => exact ⟨actions action only.1, fun answer => ih answer (only.2 answer)⟩

theorem only_trivial (program : Program A R α) : program.Only (fun _ => True) fun _ => True := by
  induction program with
  | done value => trivial
  | act action next ih => exact ⟨trivial, ih⟩

theorem Only.followedBy (only : program.Only P fun _ => True) (values : ∀ value, Q value) : program.Only P Q :=
  only.weaken (fun _ same => same) fun value _ => values value

theorem Only.except_bind {first : ExceptT ε (Program A R) α} {rest : α → ExceptT ε (Program A R) β}
    (only : Only first.run P fun _ => True) (others : ∀ value, Only (rest value).run P fun _ => True) :
    Only (first >>= rest).run P fun _ => True := by
  refine (only_except_bind _ _ _).mpr (only.followedBy fun result => ?_)
  cases result with
  | ok value => exact others value
  | error e => trivial

theorem Only.except_lift {lifted : Program A R α} (only : lifted.Only P fun _ => True) :
    Only (liftM lifted : ExceptT ε (Program A R) α).run P fun _ => True :=
  (only_except_lift _ _).mpr only

theorem Only.adapt {ε' : Type} {f : ε → ε'} {adapted : ExceptT ε (Program A R) α} (only : Only adapted.run P fun _ => True) :
    Only (adapted.adapt f).run P fun _ => True :=
  (only_map (Except.mapError f) adapted.run _).mpr only

theorem Only.cutOff (only : program.Only P fun _ => True) {alarm : A} (strikes : P alarm) (n : Nat) :
    (program.cutOff alarm n).Only P fun _ => True := by
  induction program generalizing n with
  | done value => cases n <;> trivial
  | act action next ih =>
    cases n with
    | zero => exact ⟨strikes, fun _ => trivial⟩
    | succ n => exact ⟨only.1, fun answer => ih answer (only.2 answer) n⟩

theorem Only.of_mem_actions (only : program.Only P Q) {exec : (action : A) → σ → R action × σ} {s : σ} {action : A}
    (performed : action ∈ actions exec program s) : P action := by
  induction program generalizing s with
  | done value => exact absurd performed List.not_mem_nil
  | act first next ih =>
    rcases List.mem_cons.mp performed with same | later
    · exact same ▸ only.1
    · exact ih _ (only.2 _) later

theorem Only.of_run (only : program.Only P Q) (exec : (action : A) → σ → R action × σ) (s : σ) :
    Q (run exec program s).1 := by
  induction program generalizing s with
  | done value => exact only
  | act action next ih => exact ih _ (only.2 _) _

/-- A translated program keeps to what each translated action keeps to. -/
theorem Only.hoist {P' : B → Prop} {S : B → Type} {translate : (action : A) → Program B S (R action)}
    (only : program.Only P Q) (kept : ∀ action, P action → (translate action).Only P' fun _ => True) :
    (program.hoist translate).Only P' Q := by
  induction program with
  | done value => exact only
  | act action next ih =>
    refine (only_bind _ _ _).mpr ((kept action only.1).weaken (fun _ same => same) fun answer _ => ?_)
    exact ih answer (only.2 answer)

/-- Actions that keep `I` keep it over the whole undisturbed run. -/
theorem Only.invariant {I : σ → Prop} (only : program.Only P Q) {exec : (action : A) → σ → R action × σ}
    (kept : ∀ action s, P action → I s → I (exec action s).2) {s : σ} (holds : I s) :
    I (run exec program s).2 := by
  induction program generalizing s with
  | done value => exact holds
  | act action next ih => exact ih _ (only.2 _) (kept action s only.1 holds)

end Only

section Commits

/-- Once an action that satisfies `P` has been performed, the program can only
end in `Q`, whatever the answers. -/
def Commits : Program A R α → (A → Prop) → (α → Prop) → Prop
  | .done _, _, _ => True
  | .act action next, P, Q =>
    ∀ answer, (next answer).Commits P Q ∧ (P action → (next answer).Only (fun _ => True) Q)

variable {P : A → Prop} {Q : α → Prop} {program : Program A R α} {ε : Type}

theorem Only.commits (only : program.Only (fun action => ¬P action) fun _ => True) : program.Commits P Q := by
  induction program with
  | done value => trivial
  | act action next ih => exact fun answer => ⟨ih answer (only.2 answer), fun holds => absurd holds only.1⟩

theorem Only.commits_result (only : program.Only (fun _ => True) Q) : program.Commits P Q := by
  induction program with
  | done value => trivial
  | act action next ih => exact fun answer => ⟨ih answer (only.2 answer), fun _ => only.2 answer⟩

theorem Commits.bind {Q : β → Prop} {Q' : α → Prop} {f : α → Program A R β} (first : program.Commits P Q')
    (rest : ∀ value, (f value).Commits P Q) (after : ∀ value, Q' value → (f value).Only (fun _ => True) Q) :
    (program >>= f).Commits P Q := by
  induction program with
  | done value => exact rest value
  | act action next ih =>
    refine fun answer => ⟨ih answer (first answer).1, fun holds => ?_⟩
    exact (only_bind _ _ _).mpr (((first answer).2 holds).weaken (fun _ same => same) after)

/-- What comes before the first such action need not be looked at again. -/
theorem Only.commits_bind {Q : β → Prop} {f : α → Program A R β}
    (first : program.Only (fun action => ¬P action) fun value => (f value).Commits P Q) :
    (program >>= f).Commits P Q := by
  induction program with
  | done value => exact first
  | act action next ih => exact fun answer => ⟨ih answer (first.2 answer), fun holds => absurd holds first.1⟩

theorem Only.commits_except_bind {Q : Except ε β → Prop} {program : ExceptT ε (Program A R) α}
    {f : α → ExceptT ε (Program A R) β}
    (first : Only program.run (fun action => ¬P action) fun | .ok value => Commits (f value).run P Q | .error _ => True) :
    Commits (program >>= f).run P Q := by
  rw [ExceptT.run_bind]
  refine Only.commits_bind (first.weaken (fun _ same => same) fun result holds => ?_)
  cases result with
  | ok value => exact holds
  | error e => trivial

theorem Commits.except_bind {Q : Except ε β → Prop} {program : ExceptT ε (Program A R) α}
    {f : α → ExceptT ε (Program A R) β} (first : Commits program.run P fun result => ∃ value, result = .ok value)
    (rest : ∀ value, Only (f value).run (fun _ => True) Q) : Commits (program >>= f).run P Q := by
  rw [ExceptT.run_bind]
  refine first.bind (fun result => ?_) ?_
  · cases result with
    | ok value => exact (rest value).commits_result
    | error e => trivial
  · rintro _ ⟨value, rfl⟩
    exact rest value

theorem Commits.hoist {P' : B → Prop} {S : B → Type} {translate : (action : A) → Program B S (R action)}
    (commits : program.Commits P Q) (kept : ∀ action, (translate action).Only (fun b => P' b → P action) fun _ => True) :
    (program.hoist translate).Commits P' Q := by
  induction program with
  | done value => trivial
  | act action next ih =>
    by_cases holds : P action
    · refine Only.commits_result ((only_bind _ _ _).mpr ((kept action).weaken (fun _ _ => trivial) fun answer _ => ?_))
      exact ((commits answer).2 holds).hoist fun other _ => (kept other).weaken (fun _ _ => trivial) fun _ _ => trivial
    · refine Only.commits_bind ((kept action).weaken (fun _ only reached => holds (only reached)) fun answer _ => ?_)
      exact ih answer (commits answer).1

theorem Commits.result (commits : program.Commits P Q) {exec : (action : A) → σ → R action × σ} {s : σ} {action : A}
    (performed : action ∈ actions exec program s) (holds : P action) : Q (run exec program s).1 := by
  induction program generalizing s with
  | done value => exact absurd performed List.not_mem_nil
  | act first next ih =>
    rcases List.mem_cons.mp performed with same | later
    · exact ((commits _).2 (same ▸ holds)).of_run _ _
    · exact ih _ (commits _).1 later

end Commits

section Throughout

variable {exec : (action : A) → σ → R action × σ} {Q : List A → σ → Prop}

/-- Before the first action of the undisturbed run and after each one, `Q`
holds of the actions so far, counted from `past`, and of the state. -/
def Throughout (exec : (action : A) → σ → R action × σ) (Q : List A → σ → Prop) :
    List A → Program A R α → σ → Prop
  | past, .done _, s => Q past s
  | past, .act action next, s =>
    Q past s ∧ Throughout exec Q (past ++ [action]) (next (exec action s).1) (exec action s).2

theorem throughout_here {past : List A} {program : Program A R α} {s : σ}
    (all : Throughout exec Q past program s) : Q past s := by
  cases program with
  | done value => exact all
  | act action next => exact all.1

theorem throughout_bind {past : List A} {program : Program A R α} {f : α → Program A R β} {s : σ} :
    Throughout exec Q past (program >>= f) s ↔ Throughout exec Q past program s ∧
      Throughout exec Q (past ++ actions exec program s) (f (run exec program s).1) (run exec program s).2 := by
  induction program generalizing past s with
  | done value =>
    simp only [done_bind, Throughout, actions, run, List.append_nil]
    exact ⟨fun all => ⟨throughout_here all, all⟩, And.right⟩
  | act action next ih =>
    simp only [act_bind, Throughout, actions, run, ih, and_assoc, List.append_assoc, List.singleton_append]

theorem throughout_end {past : List A} {program : Program A R α} {s : σ} (all : Throughout exec Q past program s) :
    Q (past ++ actions exec program s) (run exec program s).2 := by
  induction program generalizing past s with
  | done value => simpa [Throughout, actions, run] using all
  | act action next ih => simpa [actions, run] using ih _ all.2

/-- Actions that keep `Q` keep it throughout. -/
theorem Only.throughout {P : A → Prop} {T : α → Prop} {program : Program A R α} (only : program.Only P T)
    (kept : ∀ past action s, P action → Q past s → Q (past ++ [action]) (exec action s).2) {past : List A} {s : σ}
    (holds : Q past s) : Throughout exec Q past program s := by
  induction program generalizing past s with
  | done value => exact holds
  | act action next ih => exact ⟨holds, ih _ (only.2 _) (kept past action s only.1 holds)⟩

theorem Throughout.weaken {Q' : List A → σ → Prop} {past : List A} {program : Program A R α} {s : σ}
    (all : Throughout exec Q past program s) (weaker : ∀ past s, Q past s → Q' past s) :
    Throughout exec Q' past program s := by
  induction program generalizing past s with
  | done value => exact weaker _ _ all
  | act action next ih => exact ⟨weaker _ _ all.1, ih _ all.2⟩

theorem throughout_except_bind {ε : Type} {past : List A} {program : ExceptT ε (Program A R) α}
    {f : α → ExceptT ε (Program A R) β} {s : σ} (first : Throughout exec Q past program.run s)
    (rest : ∀ value, (run exec program.run s).1 = .ok value →
      Throughout exec Q (past ++ actions exec program.run s) (f value).run (run exec program.run s).2) :
    Throughout exec Q past (program >>= f).run s := by
  rw [ExceptT.run_bind]
  refine throughout_bind.mpr ⟨first, ?_⟩
  cases result : (run exec program.run s).1 with
  | ok value => exact rest value result
  | error e => exact throughout_end first

theorem throughout_except_lift {ε : Type} {past : List A} {program : Program A R α} {s : σ}
    (all : Throughout exec Q past program s) :
    Throughout exec Q past (liftM program : ExceptT ε (Program A R) α).run s := by
  refine throughout_bind.mpr ⟨all, ?_⟩
  exact throughout_end all

theorem throughout_lift_bind {ε : Type} {past : List A} {program : Program A R α}
    {f : α → ExceptT ε (Program A R) β} {s : σ} (first : Throughout exec Q past program s)
    (rest : Throughout exec Q (past ++ actions exec program s) (f (run exec program s).1).run (run exec program s).2) :
    Throughout exec Q past (liftM program >>= f : ExceptT ε (Program A R) β).run s := by
  refine throughout_except_bind (throughout_except_lift first) fun value same => ?_
  simp only [run_except_lift, Except.ok.injEq] at same
  subst same
  simpa only [run_except_lift, actions_except_lift] using rest

/-- From wherever `Q` holds, it holds throughout the program. -/
def Keeps (exec : (action : A) → σ → R action × σ) (Q : List A → σ → Prop) (program : Program A R α) : Prop :=
  ∀ past s, Q past s → Throughout exec Q past program s

theorem Keeps.pure (value : α) : Keeps exec Q (Pure.pure value : Program A R α) := fun _ _ holds => holds

theorem Keeps.throw {ε : Type} (e : ε) : Keeps exec Q (throw e : ExceptT ε (Program A R) α).run := fun _ _ holds => holds

theorem Keeps.bind {program : Program A R α} {f : α → Program A R β} (first : Keeps exec Q program)
    (rest : ∀ value, Keeps exec Q (f value)) : Keeps exec Q (program >>= f) :=
  fun past s holds => throughout_bind.mpr ⟨first past s holds, rest _ _ _ (throughout_end (first past s holds))⟩

theorem Keeps.lift_bind {ε : Type} {program : Program A R α} {f : α → ExceptT ε (Program A R) β}
    (first : Keeps exec Q program) (rest : ∀ value, Keeps exec Q (f value).run) :
    Keeps exec Q (liftM program >>= f : ExceptT ε (Program A R) β).run :=
  fun past s holds => throughout_lift_bind (first past s holds) (rest _ _ _ (throughout_end (first past s holds)))

theorem Keeps.except_bind {ε : Type} {program : ExceptT ε (Program A R) α} {f : α → ExceptT ε (Program A R) β}
    (first : Keeps exec Q program.run) (rest : ∀ value, Keeps exec Q (f value).run) :
    Keeps exec Q (program >>= f).run :=
  fun past s holds => throughout_except_bind (first past s holds)
    fun value _ => rest value _ _ (throughout_end (first past s holds))

theorem Keeps.lift {ε : Type} {program : Program A R α} (first : Keeps exec Q program) :
    Keeps exec Q (liftM program : ExceptT ε (Program A R) α).run :=
  fun past s holds => throughout_except_lift (first past s holds)

theorem Keeps.attempt {ε : Type} {program : ExceptT ε (Program A R) α} (first : Keeps exec Q program.run) :
    Keeps exec Q (attempt program) :=
  first.bind fun _ => .pure ()

theorem Keeps.ite {c : Prop} [Decidable c] {first second : Program A R α} (yes : Keeps exec Q first)
    (no : Keeps exec Q second) : Keeps exec Q (if c then first else second) := by
  split
  · exact yes
  · exact no

theorem Only.keeps {P : A → Prop} {T : α → Prop} {program : Program A R α} (only : program.Only P T)
    (kept : ∀ past action s, P action → Q past s → Q (past ++ [action]) (exec action s).2) : Keeps exec Q program :=
  fun _ _ holds => only.throughout kept holds

/-- `T` holds throughout the undisturbed run, and `Q` when it has ended. -/
def Passes (exec : (action : A) → σ → R action × σ) (T Q : List A → σ → Prop) (past : List A) (program : Program A R α)
    (s : σ) : Prop :=
  Throughout exec T past program s ∧ Q (past ++ actions exec program s) (run exec program s).2

theorem Keeps.passes {T : List A → σ → Prop} {past : List A} {program : Program A R α} {s : σ}
    (keeps : Keeps exec Q program) (weaker : ∀ past s, Q past s → T past s) (holds : Q past s) :
    Passes exec T Q past program s :=
  ⟨(keeps past s holds).weaken weaker, throughout_end (keeps past s holds)⟩

theorem Passes.call {T : List A → σ → Prop} {past : List A} {action : A} {s : σ} (before : T past s)
    (after : T (past ++ [action]) (exec action s).2) (ends : Q (past ++ [action]) (exec action s).2) :
    Passes exec T Q past (call action) s :=
  ⟨⟨before, after⟩, ends⟩

theorem Passes.bind {T Q' : List A → σ → Prop} {past : List A} {program : Program A R α} {f : α → Program A R β} {s : σ}
    (first : Passes exec T Q past program s)
    (rest : Passes exec T Q' (past ++ actions exec program s) (f (run exec program s).1) (run exec program s).2) :
    Passes exec T Q' past (program >>= f) s := by
  refine ⟨throughout_bind.mpr ⟨first.1, rest.1⟩, ?_⟩
  simpa using rest.2

theorem Passes.lift {ε : Type} {T : List A → σ → Prop} {past : List A} {program : Program A R α} {s : σ}
    (passes : Passes exec T Q past program s) :
    Passes exec T Q past (liftM program : ExceptT ε (Program A R) α).run s := by
  refine ⟨throughout_except_lift passes.1, ?_⟩
  simpa using passes.2

theorem Passes.lift_bind {ε : Type} {T Q' : List A → σ → Prop} {past : List A} {program : Program A R α}
    {f : α → ExceptT ε (Program A R) β} {s : σ} (first : Passes exec T Q past program s)
    (rest : Passes exec T Q' (past ++ actions exec program s) (f (run exec program s).1).run (run exec program s).2) :
    Passes exec T Q' past (liftM program >>= f : ExceptT ε (Program A R) β).run s := by
  refine ⟨throughout_lift_bind first.1 rest.1, ?_⟩
  simpa using rest.2

theorem Passes.attempt {ε : Type} {T : List A → σ → Prop} {past : List A} {program : ExceptT ε (Program A R) α} {s : σ}
    (passes : Passes exec T Q past program.run s) : Passes exec T Q past (attempt program) s := by
  refine ⟨throughout_bind.mpr ⟨passes.1, throughout_end passes.1⟩, ?_⟩
  simpa using passes.2

/-- What holds throughout holds wherever the run is cut off. -/
theorem throughout_iff_stateAfter {past : List A} {program : Program A R α} {s : σ} :
    Throughout exec Q past program s ↔
      ∀ n, Q (past ++ (actions exec program s).take n) (stateAfter exec n program s) := by
  induction program generalizing past s with
  | done value =>
    simp only [Throughout, actions, List.take_nil, List.append_nil]
    refine ⟨fun here n => ?_, fun all => all 0⟩
    cases n <;> exact here
  | act action next ih =>
    simp only [Throughout, ih, actions]
    constructor
    · rintro ⟨here, rest⟩ n
      cases n with
      | zero => simpa [stateAfter] using here
      | succ n => simpa [stateAfter] using rest n
    · intro all
      refine ⟨by simpa [stateAfter] using all 0, fun n => ?_⟩
      simpa [stateAfter] using all (n + 1)

end Throughout

end Program
