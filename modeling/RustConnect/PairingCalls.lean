import RustConnect.PairingRuns

namespace RustConnect

/-- What the user and the daemon itself ask of the pairing handler. -/
inductive LocalCall
  | initiatePairing (deviceId : DeviceId)
  | setPendingPeerCert (deviceId : DeviceId) (certDer : Bytes)
  | acceptPairing (deviceId : DeviceId)
  | forceAcceptPairing (deviceId : DeviceId)
  | rejectPairing (deviceId : DeviceId)
  | unpair (deviceId : DeviceId)
  | cleanupExpired
  deriving DecidableEq, Repr

namespace LocalCall

open Program PairingAction

variable (platform : Platform) (settings : PairingSettings)

def program : LocalCall → ExceptT Error PairingProgram Unit
  | initiatePairing d => do let _ ← PairingHandler.initiatePairing settings d
  | setPendingPeerCert d certDer => PairingHandler.setPendingPeerCert d certDer
  | acceptPairing d => PairingHandler.acceptPairing platform settings d
  | forceAcceptPairing d => PairingHandler.forceAcceptPairing platform settings d
  | rejectPairing d => PairingHandler.rejectPairing d
  | unpair d => PairingHandler.unpair platform settings d
  | cleanupExpired => do let _ ← PairingHandler.cleanupExpired

/-- The actions a call is made of. -/
def footprint : LocalCall → PairingAction → Prop
  | initiatePairing d => initiates d
  | setPendingPeerCert d certDer => (· = certInsert d certDer)
  | acceptPairing d | forceAcceptPairing d => accepts d
  | rejectPairing d => drops d
  | unpair d => unpairs d
  | cleanupExpired => sweeps

theorem only_footprint (call : LocalCall) : Only (call.program platform settings).run call.footprint fun _ => True := by
  cases call with
  | initiatePairing d =>
    refine (only_except_bind _ _ _).mpr ((PairingHandler.only_initiatePairing settings d).followedBy fun result => ?_)
    cases result <;> trivial
  | setPendingPeerCert d certDer => exact ⟨rfl, fun _ => trivial⟩
  | acceptPairing d => exact PairingHandler.only_acceptPairing platform settings d
  | forceAcceptPairing d => exact PairingHandler.only_forceAcceptPairing platform settings d
  | rejectPairing d => exact PairingHandler.only_rejectPairing d
  | unpair d => exact PairingHandler.only_unpair platform settings d
  | cleanupExpired =>
    simp only [program, only_except_bind, only_except_lift]
    exact PairingHandler.only_cleanupExpired.followedBy fun _ => trivial

end LocalCall

/-- The operations of the pairing handler one after the other, with the time
that passes between them. -/
inductive PairingOp
  | asks (call : LocalCall)
  | receive (deviceId : DeviceId) (timestamp : Option Int) (certDer : Option Bytes)
  | advance (duration : Time)
  deriving DecidableEq, Repr

/-- A state together with every action that led to it. -/
structure Journal where
  past : List PairingAction
  state : PairingState

namespace PairingOp

open Program

variable (platform : Platform) (settings : PairingSettings)

def program : PairingOp → ExceptT Error PairingProgram Unit
  | asks call => call.program platform settings
  | receive d timestamp certDer => PairingHandler.receivePairRequestWithCert platform settings d timestamp certDer
  | advance _ => pure ()

def elapsed : PairingOp → Time
  | advance duration => duration
  | _ => 0

def performed (op : PairingOp) (s : PairingState) : List PairingAction :=
  actions PairingAction.exec (op.program platform settings).run s

def result (op : PairingOp) (s : PairingState) : Except Error Unit :=
  (run PairingAction.exec (op.program platform settings).run s).1

def step (journal : Journal) (op : PairingOp) : Journal :=
  let after := (run PairingAction.exec (op.program platform settings).run journal.state).2
  ⟨journal.past ++ op.performed platform settings journal.state, { after with now := after.now + op.elapsed }⟩

end PairingOp

end RustConnect
