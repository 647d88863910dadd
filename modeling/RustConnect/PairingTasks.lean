import RustConnect.PairingCalls
import RustConnect.Base.Pool

namespace RustConnect

/-- The lock scopes of the pairing handler, and the passing of time. -/
inductive TimedAction
  | pairing (action : PairingAction)
  | pass (duration : Time)

@[reducible] def TimedAction.Answer : TimedAction → Type
  | pairing action => action.Answer
  | pass _ => Unit

def TimedAction.exec : (action : TimedAction) → PairingState → action.Answer × PairingState
  | pairing action, s => action.exec s
  | pass duration, s => ((), { s with now := s.now + duration })

abbrev TimedProgram := Program TimedAction TimedAction.Answer

abbrev PairingPool := Pool TimedAction TimedAction.Answer PairingState

namespace PairingTasks

open Program

variable (platform : Platform) (settings : PairingSettings)

/-- The calls of the handler's operations by any number of tasks; their results are not looked at. -/
def onHandler {α : Type} (program : PairingProgram α) : TimedProgram α := program.hoist fun action => call (TimedAction.pairing action)

def program : PairingOp → TimedProgram Unit
  | .advance duration => call (TimedAction.pass duration)
  | op => do let _ ← onHandler (op.program platform settings).run

/-- The handler and its callers after the first `k` turns. -/
def atTurn (start : PairingState) (turns : List (Turn PairingOp)) (k : Nat) : PairingPool :=
  Pool.after TimedAction.exec (program platform settings) start turns k

variable {φ : Type} {inner : φ → (action : PairingAction) → action.Answer → Option φ}

/-- The moves of the handler's programs; time passes in any phase. -/
def timedMove (inner : φ → (action : PairingAction) → action.Answer → Option φ) (phase : φ) :
    (action : TimedAction) → action.Answer → Option φ
  | .pairing action, answer => inner phase action answer
  | .pass _, _ => some phase

theorem follows_onHandler {α : Type} {program : PairingProgram α} {phase : φ} {Q : φ → α → Prop}
    (follows : Follows inner phase program Q) : Follows (timedMove inner) phase (onHandler program) Q := by
  refine follows.hoist fun phase action defined answer => ?_
  obtain ⟨later, moved⟩ := Option.isSome_iff_exists.mp (defined answer)
  exact ⟨later, moved, moved⟩

variable {platform settings}

/-- The phases of a task are those of the operation that it calls. -/
theorem follows_program {phase : φ} (each : ∀ op : PairingOp, Follows inner phase (op.program platform settings).run fun _ _ => True)
    (op : PairingOp) : Follows (timedMove inner) phase (program platform settings op) fun _ _ => True := by
  cases op with
  | advance duration => exact fun _ => ⟨phase, rfl, trivial⟩
  | asks call =>
    refine (follows_bind _ _ _).mpr ((follows_onHandler (each (.asks call))).weaken fun _ _ _ => trivial)
  | receive d timestamp certDer =>
    exact (follows_bind _ _ _).mpr ((follows_onHandler (each (.receive d timestamp certDer))).weaken fun _ _ _ => trivial)

end PairingTasks

end RustConnect
