import RustConnect.DeviceApi

namespace RustConnect

open Program DaemonAction Daemon CertificateManager

/-- The tasks of the daemon, and calls of `pair_device` that cannot write a file of
the certificate store: after so many of them the file system refuses the next. -/
inductive AcceptTask
  | api (task : ApiTask)
  | pairDeviceRefused (deviceId : DeviceId) (written : Nat) (e : Error)

namespace PairAccept

/-- A file of the certificate store is written. -/
def writesCertificate : DaemonAction → Bool
  | pairing (.file (.write (.cert _) _)) => true
  | _ => false

/-- `pair_device`, where the error of the refused write comes back through every `?` on the way. -/
def pairDeviceRefused (config : DaemonSettings) (d : DeviceId) (written : Nat) (e : Error) : DaemonProgram Unit := do
  perform (pairCalled d)
  let result ← (DeviceApi.pairDevice config.print config.platform config.pairing d).failOn writesCertificate e written
  perform (pairReturned d result)

end PairAccept

def AcceptTask.program (config : DaemonSettings) : AcceptTask → DaemonProgram Unit
  | api task => task.program config
  | pairDeviceRefused d written e => PairAccept.pairDeviceRefused config d written e

namespace PairAccept

/-- The daemon after the first `k` turns. -/
def atTurn (config : DaemonSettings) (start : DaemonState) (turns : List (Turn AcceptTask)) (k : Nat) :
    Pool DaemonAction DaemonAction.Answer DaemonState :=
  Pool.after (DaemonAction.exec config.codec) (AcceptTask.program config) start turns k

/-- How far a call of `pair_device` has come: it has sent nothing, or it has
sent `pair: true` and `accept_pairing` still has to find the request, to see
that it is not expired and to settle the identity anchor. It is stranded when
it failed after `pair: true` was written. The other tasks make no such call. -/
inductive Stage
  | fresh
  | other
  | called
  | sent
  | searching
  | taken (request : PairingRequest)
  | live
  | staged (certDer : Bytes)
  | pinned (certDer : Bytes)
  | reading (certDer : Bytes)
  | unstaged
  | settled
  | stranded
  deriving DecidableEq, Repr

variable (platform : Platform)

/-- The pinned fingerprint is that of the certificate. -/
def fits (certDer : Bytes) : Option FileContent → Bool
  | some (.text content) => trim content == computeFingerprint platform certDer
  | _ => false

def progress : Stage → (Σ action : DaemonAction, action.Answer) → Stage
  | .fresh, ⟨pairCalled _, _⟩ => .called
  | .fresh, _ => .other
  | .called, ⟨writeFramed _ _ _, outcome⟩ =>
    if outcome.writeAll = .done then if outcome.flush = .done then .sent else .stranded else .called
  | .called, ⟨pairing (.requestInsert .outgoing _ _), _⟩ => .settled
  | .sent, ⟨pairing (.requestRemove .outgoing _), some request⟩ => .taken request
  | .sent, ⟨pairing (.requestRemove .outgoing _), none⟩ => .searching
  | .searching, ⟨pairing (.requestRemove .incoming _), some request⟩ => .taken request
  | .searching, ⟨pairing (.requestRemove .incoming _), none⟩ => .stranded
  | .taken request, ⟨pairing .now, moment⟩ => if request.expiredAt moment then .stranded else .live
  | .live, ⟨pairing (.certRemove _), some certDer⟩ => .staged certDer
  | .live, ⟨pairing (.certRemove _), none⟩ => .unstaged
  | .staged certDer, ⟨pairing (.file (.exists _)), known⟩ => if known then .pinned certDer else .settled
  | .pinned certDer, ⟨pairing (.file (.exists _)), known⟩ => if known then .reading certDer else .stranded
  | .reading certDer, ⟨pairing (.file (.read _)), content⟩ => if fits platform certDer content then .settled else .stranded
  | .unstaged, ⟨pairing (.file (.exists _)), known⟩ => if known then .settled else .stranded
  | stage, _ => stage

/-- The stage of a task. -/
def stage (trace : List (Nat × Σ action : DaemonAction, action.Answer)) (task : Nat) : Stage :=
  trace.foldl (fun stage entry => if entry.1 = task then progress platform stage entry.2 else stage) .fresh

/-- What the call is about to do goes wrong although `pair: true` is written:
the flush fails, the request is gone or expired, the fingerprint that is pinned
is another one or gone, or there is none although no certificate is staged. -/
def fails (s : DaemonState) : Stage → DaemonAction → Bool
  | .called, writeFramed _ _ _ => (s.outcomes.headD {}).writeAll == .done && (s.outcomes.headD {}).flush != .done
  | .searching, pairing (.requestRemove .incoming d) => (s.pairing.incoming.lookup d).isNone
  | .taken request, pairing .now => request.expiredAt s.pairing.now
  | .pinned _, pairing (.file (.exists path)) | .unstaged, pairing (.file (.exists path)) => (s.pairing.files.lookup path).isNone
  | .reading certDer, pairing (.file (.read path)) => !fits platform certDer (s.pairing.files.lookup path)
  | _, _ => false

/-- No call of `pair_device` that has written `pair: true` goes wrong in the
turn, and none begins to which a file of the certificate store is refused. -/
def Smooth (pool : Pool DaemonAction DaemonAction.Answer DaemonState) : Turn AcceptTask → Prop
  | .spawn (.api _) => True
  | .spawn (.pairDeviceRefused _ _ _) => False
  | .take task => ∀ action, pool.next task = some action →
    fails platform pool.shared (stage platform pool.trace task) action = false

def permits : Stage → DaemonAction → Bool
  | .fresh, pairCalled _ => true
  | _, pairCalled _ => false
  | .called, pairReturned _ _ | .stranded, pairReturned _ _ | .settled, pairReturned _ (.ok _) => true
  | _, pairReturned _ _ => false
  | _, _ => true

/-- A call returns an error only before `pair: true` is written, or when it is stranded. -/
def move (stage : Stage) (action : DaemonAction) (answer : action.Answer) : Option Stage :=
  if permits stage action then some (progress platform stage ⟨action, answer⟩) else none

section Files

variable {d : DeviceId}

def fileMove (stage : Stage) (action : FileAction) (answer : action.Answer) : Option Stage :=
  move platform stage (pairing (.file action)) answer

variable {platform}

/-- The file operation settles the anchor, or fails. -/
def Settles {ε : Type} (later : Stage) : Except ε Unit → Prop
  | .ok () => later = .settled
  | .error _ => later = .stranded

/-- The stored fingerprint is the one of the certificate, or the call is stranded. -/
theorem follows_loadPeerFingerprint (valid : validateDeviceId platform d = .ok ()) (certDer : Bytes) :
    Follows (fileMove platform) (.pinned certDer) (loadPeerFingerprint platform d).run fun later result =>
      match result with
      | .ok stored => later = if stored = computeFingerprint platform certDer then .settled else .stranded
      | .error _ => later = .stranded := by
  unfold loadPeerFingerprint
  rw [fingerprintPath_eq valid]
  intro known
  cases known with
  | false => exact ⟨.stranded, rfl, rfl⟩
  | true =>
    refine ⟨.reading certDer, rfl, fun content => ⟨_, rfl, ?_⟩⟩
    rcases content with _ | (der | content | devices)
    · exact rfl
    · exact rfl
    · by_cases same : trim content = computeFingerprint platform certDer
      · exact (if_pos (by simp [fits, same])).trans (if_pos same).symm
      · exact (if_neg (by simp [fits, same])).trans (if_neg same).symm
    · exact rfl

theorem follows_verifyPeerFingerprint (valid : validateDeviceId platform d = .ok ()) (certDer : Bytes) :
    Follows (fileMove platform) (.pinned certDer) (verifyPeerFingerprint platform d certDer).run Settles := by
  unfold verifyPeerFingerprint
  refine (follows_except_bind _ _ _).mpr ((follows_loadPeerFingerprint valid certDer).weaken fun later result came => ?_)
  cases result with
  | error e => exact came
  | ok stored =>
    dsimp only at came ⊢
    by_cases same : stored = computeFingerprint platform certDer
    · rw [if_pos same] at came
      rw [if_neg (not_not.mpr same)]
      exact came
    · rw [if_neg same] at came
      rw [if_pos same]
      exact came

theorem follows_storePeerCertificate (valid : validateDeviceId platform d = .ok ()) (certDer : Bytes) :
    Follows (fileMove platform) (.staged certDer) (storePeerCertificate platform d certDer).run Settles := by
  have looks : hasPeerFingerprint platform d = FileProgram.pathExists (fingerprintFile d) := by
    simp only [hasPeerFingerprint, fingerprintPath_eq valid]
  unfold storePeerCertificate
  rw [looks, peerCertPath_eq valid]
  intro known
  cases known with
  | false =>
    unfold storePeerFingerprint
    rw [fingerprintPath_eq valid]
    exact ⟨.settled, rfl, fun _ => ⟨.settled, rfl, fun _ => ⟨.settled, rfl, rfl⟩⟩⟩
  | true =>
    refine ⟨.pinned certDer, rfl, ?_⟩
    refine (follows_except_bind _ _ _).mpr ((follows_verifyPeerFingerprint valid certDer).weaken fun later result came => ?_)
    cases result with
    | error e => exact came
    | ok =>
      obtain rfl : later = .settled := came
      exact fun _ => ⟨.settled, rfl, rfl⟩

end Files

section Pairing

open PairingHandler

variable {d : DeviceId} {α : Type}

def pairingMove (stage : Stage) (action : PairingAction) (answer : action.Answer) : Option Stage :=
  move platform stage (pairing action) answer

variable {platform} (settings : PairingSettings)

theorem follows_onFiles {stage : Stage} {program : FileProgram α} {Q : Stage → α → Prop}
    (follows : Follows (fileMove platform) stage program Q) :
    Follows (pairingMove platform) stage (onFiles program) Q :=
  follows.hoist fun _ _ defined answer => ⟨_, Option.some_get (defined answer) |>.symm, (Option.some_get (defined answer)).symm⟩

theorem follows_removePendingRequest (d : DeviceId) :
    Follows (pairingMove platform) .sent (removePendingRequest d).run fun later result =>
      later = if result = .ok true then .live else .stranded := by
  have checks (request : PairingRequest) : Follows (pairingMove platform) (.taken request) (ExceptT.run (do
      if ← isExpired request then
        let _ ← PairingHandler.perform (.certRemove d)
        throw (.pairingTimeout d)
      return true : ExceptT Error PairingProgram Bool)) fun later result =>
        later = if result = .ok true then .live else .stranded := by
    intro moment
    refine ⟨if request.expiredAt moment then .stranded else .live, by simp [pairingMove, move, permits, progress], ?_⟩
    show Follows (pairingMove platform) _ (ExceptT.run (if request.expiredAt moment = true then _ else pure true)) _
    cases request.expiredAt moment with
    | false => rfl
    | true => exact fun _ => ⟨.stranded, rfl, rfl⟩
  intro outgoing
  cases outgoing with
  | some request => exact ⟨.taken request, rfl, checks request⟩
  | none =>
    refine ⟨.searching, rfl, fun incoming => ?_⟩
    cases incoming with
    | some request => exact ⟨.taken request, rfl, checks request⟩
    | none => exact ⟨.stranded, rfl, rfl⟩

theorem follows_settleAnchor (valid : validateDeviceId platform d = .ok ()) (refusal : String) (pendingCert : Option Bytes) :
    Follows (pairingMove platform) (pendingCert.elim .unstaged .staged) (settleAnchor platform refusal d pendingCert).run
      Settles := by
  cases pendingCert with
  | some certDer => exact follows_onFiles (follows_storePeerCertificate valid certDer)
  | none =>
    unfold settleAnchor PairingHandler.hasPeerFingerprint CertificateManager.hasPeerFingerprint
    rw [fingerprintPath_eq valid]
    intro known
    cases known with
    | false => exact ⟨.stranded, rfl, rfl⟩
    | true => exact ⟨.settled, rfl, rfl⟩

/-- Nothing goes wrong any more. -/
theorem follows_settled (program : PairingProgram α) :
    Follows (pairingMove platform) .settled program fun later _ => later = .settled :=
  ((only_trivial program).follows fun _ _ _ => rfl).weaken fun _ _ same => same.1

theorem follows_acceptPairing (valid : validateDeviceId platform d = .ok ()) :
    Follows (pairingMove platform) .sent (acceptPairing platform settings d).run Settles := by
  unfold acceptPairing completePairing
  refine (follows_except_bind _ _ _).mpr ((follows_removePendingRequest d).weaken fun later result came => ?_)
  rcases result with e | _ | _
  · exact came
  · exact came
  · obtain rfl : later = .live := came
    intro pendingCert
    refine ⟨pendingCert.elim .unstaged .staged, by cases pendingCert <;> rfl, ?_⟩
    refine (follows_except_bind _ _ _).mpr ((follows_settleAnchor valid _ pendingCert).weaken fun later result came => ?_)
    cases result with
    | error e => exact came
    | ok =>
      obtain rfl : later = .settled := came
      exact (follows_except_lift _ _).mpr ((follows_settled _).weaken fun _ _ same => same)

theorem follows_initiatePairing (d : DeviceId) :
    Follows (pairingMove platform) .called (initiatePairing settings d).run fun later result =>
      match result with
      | .ok _ => later = .settled
      | .error _ => later = .called := by
  have sweep : Follows (pairingMove platform) .called cleanupExpired fun later _ => later = .called := by
    refine (only_cleanupExpired.follows fun action sweeps answer => ?_).weaken fun _ _ same => same.1
    cases action <;> first | exact sweeps.elim | rfl
  simp only [initiatePairing, isOwnDeviceId, isPaired, PairingHandler.perform, follows_except_bind, follows_except_lift, follows_except_ite,
    follows_except_throw, follows_except_pure, follows_bind, follows_call, follows_pure]
  refine fun own => ⟨.called, rfl, fun _ => rfl, fun _ => sweep.weaken fun later removed same => ?_⟩
  subst same
  refine fun paired => ⟨.called, rfl, fun _ => rfl, fun _ outgoing => ⟨.called, rfl, fun incoming => ⟨.called, rfl, ?_⟩⟩⟩
  refine ⟨fun _ => rfl, fun _ createdAt => ⟨.called, rfl, fun stamp => ⟨.called, rfl, fun _ => ⟨.settled, rfl, rfl⟩⟩⟩⟩

end Pairing

section Calls

open DeviceApi

variable {platform} {print : Json → String} {settings : PairingSettings} {d : DeviceId} {α : Type}

theorem follows_onPairing {stage : Stage} {program : PairingProgram α} {Q : Stage → α → Prop}
    (follows : Follows (pairingMove platform) stage program Q) : Follows (move platform) stage (onPairing program) Q :=
  follows.hoist fun _ _ defined answer =>
    ⟨_, (Option.some_get (defined answer)).symm, (Option.some_get (defined answer)).symm⟩

/-- What `pair_device` does before it writes, or asks for a pairing itself. -/
def quiet : DaemonAction → Prop
  | writeFramed _ _ _ | pairing (.requestInsert .outgoing _ _) | pairCalled _ | pairReturned _ _ => False
  | _ => True

theorem follows_quiet {program : DaemonProgram α} {T : α → Prop} (only : program.Only quiet T) :
    Follows (move platform) .called program fun later value => later = .called ∧ T value := by
  refine only.follows fun action silent answer => ?_
  cases action with
  | pairing action =>
    cases action with
    | requestInsert q e request =>
      cases q with
      | outgoing => exact silent.elim
      | incoming => rfl
    | _ => rfl
  | _ => first | exact silent.elim | rfl

theorem follows_onManager {stage : Stage} (begun : stage ≠ .fresh) (program : ManagerProgram α) :
    Follows (move platform) stage (onManager program) fun later _ => later = stage := by
  have inside : (onManager program).Only (fun action => ∃ inner, action = manager inner) fun _ => True :=
    (only_trivial program).hoist fun action _ => ⟨⟨action, rfl⟩, fun _ => trivial⟩
  refine (inside.follows fun action inside answer => ?_).weaken fun _ _ same => same.1
  obtain ⟨inner, rfl⟩ := inside
  cases stage <;> first | exact absurd rfl begun | rfl

/-- How the call stands when `send_packet` has returned. -/
def Sends (later : Stage) : Except Error Unit → Prop
  | .ok () => later = .sent
  | .error _ => later = .called ∨ later = .stranded

theorem quiet_onPairing {program : PairingProgram α} (looks : program.Only PairingAction.looks fun _ => True) :
    (onPairing program).Only quiet fun _ => True := by
  refine looks.hoist fun action looking => ⟨?_, fun _ => trivial⟩
  cases action <;> first | exact looking.elim | trivial

theorem follows_deliver (link : Link) (bytes : Bytes) :
    Follows (move platform) .called (Daemon.deliver d link bytes) Sends := by
  have fails {stage : Stage} (failed : stage = .called ∨ stage = .stranded) (e : Error) :
      Follows (move platform) stage (onManager (ConnectionManager.disconnect d link.generation) >>= fun _ => pure (.error e))
        Sends := by
    have begun : stage ≠ .fresh := by rcases failed with rfl | rfl <;> simp
    refine (follows_bind _ _ _).mpr ((follows_onManager begun _).weaken fun later _ same => ?_)
    subst same
    exact failed
  refine (follows_bind _ _ _).mpr fun outcome => ⟨_, rfl, (follows_pure _ _).mpr ?_⟩
  obtain ⟨writeAll, written, flush⟩ := outcome
  cases writeAll with
  | failed message => exact fails (.inl rfl) _
  | timedOut => exact fails (.inl rfl) _
  | done =>
    cases flush with
    | failed message => exact fails (.inr rfl) _
    | timedOut => exact fails (.inr rfl) _
    | done => rfl

theorem follows_sendPacket (packet : Packet) : Follows (move platform) .called (sendPacket print d packet).run Sends := by
  have capability : Only (checkCapability d packet).run quiet fun _ => True := only_checkCapability trivial packet
  refine fun _ => ⟨.called, rfl, fun found => ⟨.called, rfl, ?_⟩⟩
  cases found with
  | none => exact .inl rfl
  | some link =>
    refine (follows_except_bind _ _ _).mpr ((follows_quiet capability).weaken fun later result came => ?_)
    obtain rfl : later = .called := came.1
    cases result with
    | error e => exact .inl rfl
    | ok => exact follows_deliver link _

theorem follows_sendAccept : Follows (move platform) .called (sendAccept print d).run Sends := by
  intro found
  refine ⟨.called, rfl, ?_⟩
  cases found with
  | none => exact .inl rfl
  | some link => exact fun now => ⟨.called, rfl, fun id => ⟨.called, rfl, follows_sendPacket _⟩⟩

theorem quiet_stagePeerCert : (stagePeerCert d).Only quiet fun _ => True := by
  have current : (getPeerCertificate d).Only quiet fun _ => True := ⟨trivial, fun _ => trivial⟩
  refine (only_bind _ _ _).mpr (current.followedBy fun certDer => ?_)
  cases certDer with
  | none => trivial
  | some certDer => exact ⟨trivial, fun _ => trivial⟩

/-- How the call stands when it returns. -/
def Returns (later : Stage) : Except Error String → Prop
  | .ok _ => later = .settled
  | .error _ => later = .called ∨ later = .stranded

theorem follows_rejectPairing {stage : Stage} (failed : stage = .called ∨ stage = .stranded) (e : Error) :
    Follows (move platform) stage (onPairing (attempt (PairingHandler.rejectPairing d)) >>= fun _ => pure (.error e))
      Returns := by
  have drops : (attempt (PairingHandler.rejectPairing d)).Only (PairingAction.drops d) fun _ => True :=
    (only_attempt _ _).mpr (PairingHandler.only_rejectPairing d)
  have still : Follows (pairingMove platform) stage (attempt (PairingHandler.rejectPairing d)) fun later _ => later = stage := by
    refine (drops.follows fun action drops answer => ?_).weaken fun _ _ same => same.1
    rcases failed with rfl | rfl
    · cases action <;> first | exact drops.elim | rfl
    · rfl
  refine (follows_bind _ _ _).mpr ((follows_onPairing still).weaken fun later _ same => ?_)
  subst same
  exact failed

theorem follows_afterSend (valid : validateDeviceId platform d = .ok ()) {stage : Stage} {sent : Except Error Unit}
    (sends : Sends stage sent) : Follows (move platform) stage (afterSend platform settings d sent) Returns := by
  cases sent with
  | error e => exact follows_rejectPairing sends e
  | ok =>
    obtain rfl : stage = .sent := sends
    refine (follows_bind _ _ _).mpr ((follows_onPairing (follows_acceptPairing settings valid)).weaken fun later result came => ?_)
    cases result with
    | error e => exact .inr came
    | ok =>
      obtain rfl : later = .settled := came
      exact fun _ => ⟨.settled, rfl, rfl⟩

theorem follows_acceptRequest (valid : validateDeviceId platform d = .ok ()) :
    Follows (move platform) .called (acceptRequest print platform settings d) Returns := by
  refine (follows_bind _ _ _).mpr ((follows_quiet quiet_stagePeerCert).weaken fun later _ came => ?_)
  obtain rfl : later = .called := came.1
  have anchor : Only (onPairing (PairingHandler.hasIdentityAnchor platform d)) quiet fun _ => True := by
    refine quiet_onPairing ⟨trivial, fun staged => ?_⟩
    cases staged with
    | none => exact PairingHandler.only_hasPeerFingerprint platform d fun _ => trivial
    | some certDer => trivial
  refine (follows_bind _ _ _).mpr ((follows_quiet anchor).weaken fun later anchored came => ?_)
  obtain rfl : later = .called := came.1
  cases anchored with
  | false => exact follows_rejectPairing (.inl rfl) _
  | true => exact (follows_bind _ _ _).mpr (follows_sendAccept.weaken fun later sent sends => follows_afterSend valid sends)

theorem follows_settledCall {program : DaemonProgram α} {T : α → Prop} (only : program.Only ordinary T) :
    Follows (move platform) .settled program fun later value => later = .settled ∧ T value := by
  refine only.follows fun action inside answer => ?_
  cases action <;> first | exact inside.elim | rfl

theorem follows_askForPairing : Follows (move platform) .called (askForPairing print settings d) Returns := by
  refine (follows_bind _ _ _).mpr ((follows_onPairing (follows_initiatePairing settings d)).weaken fun later result came => ?_)
  cases result with
  | error e => exact .inl came
  | ok pairTimestamp =>
    obtain rfl : later = .settled := came
    have stage : (stagePeerCert d).Only ordinary fun _ => True := ordinary_stagePeerCert
    refine (follows_bind _ _ _).mpr ((follows_settledCall stage).weaken fun later _ came => ?_)
    obtain rfl : later = .settled := came.1
    intro found
    refine ⟨.settled, rfl, ?_⟩
    cases found with
    | none => exact rfl
    | some link =>
      have send (id : Int64) : (attempt (sendPacket print d (.pairRequestWithTimestamp id pairTimestamp))).Only ordinary fun _ => True :=
        (only_attempt _ _).mpr (FanOut.ordinary_sendPacket d _)
      exact fun id => ⟨.settled, rfl, (follows_bind (attempt _) _ _).mpr ((follows_settledCall (send id)).weaken fun _ _ came => came.1)⟩

theorem follows_pairDevice : Follows (move platform) .called (pairDevice print platform settings d) Returns := by
  unfold pairDevice
  split
  · exact .inl rfl
  · rename_i valid
    have incoming : Only (onPairing (PairingHandler.hasIncomingRequest d)) quiet fun _ => True := by
      refine quiet_onPairing ⟨trivial, fun found => ?_⟩
      cases found with
      | none => trivial
      | some request => exact ⟨trivial, fun _ => trivial⟩
    refine (follows_bind _ _ _).mpr ((follows_quiet incoming).weaken fun later asked came => ?_)
    obtain rfl : later = .called := came.1
    cases asked with
    | false => exact follows_askForPairing
    | true => exact follows_acceptRequest valid

/-- What the tasks do that are no call of `pair_device`. -/
def apart : DaemonAction → Prop
  | pairCalled _ | pairReturned _ _ => False
  | _ => True

theorem follows_apart {program : DaemonProgram Unit} (only : program.Only apart fun _ => True) :
    Follows (move platform) .fresh program fun _ _ => True := by
  have later (program : DaemonProgram Unit) (only : program.Only apart fun _ => True) :
      Follows (move platform) .other program fun _ _ => True := by
    refine (only.follows fun action inside answer => ?_).weaken fun _ _ _ => trivial
    cases action <;> first | exact inside.elim | rfl
  cases program with
  | done value => trivial
  | act action next =>
    refine fun answer => ⟨.other, ?_, later _ (only.2 answer)⟩
    cases action <;> first | exact only.1.elim | rfl

/-- The calls of `pair_device` come to an end of their own; the other tasks make no call. -/
theorem follows_task (config : DaemonSettings) (task : ApiTask) :
    Follows (move config.platform) .fresh (task.program config) fun _ _ => True := by
  have within (action : DaemonAction) (inside : action.ordinary) : apart action := by
    cases action <;> first | exact inside.elim | trivial
  cases task with
  | pairDevice d =>
    refine fun _ => ⟨.called, rfl, (follows_bind (pairDevice _ _ _ d) _ _).mpr
      (follows_pairDevice.weaken fun later result returns _ => ?_)⟩
    cases result with
    | ok status =>
      obtain rfl : later = .settled := returns
      exact ⟨.settled, rfl, trivial⟩
    | error e =>
      rcases returns with rfl | rfl
      · exact ⟨.called, rfl, trivial⟩
      · exact ⟨.stranded, rfl, trivial⟩
  | daemon task => exact follows_apart (only_daemonTask within trivial config.codec config.our task)
  | unpairDevice d =>
    exact follows_apart ((only_bind _ _ _).mpr ((ordinary_unpairDevice.weaken within fun _ _ => trivial).followedBy fun _ => trivial))
  | showVerificationKey d => exact follows_apart (only_showVerificationKey within fun _ => trivial)

end Calls

variable {platform} {trace : List (Nat × Σ action : DaemonAction, action.Answer)} {stages : Nat → Stage} {task : Nat} {later : Stage}

theorem stage_append (entry : Nat × Σ action : DaemonAction, action.Answer) (task : Nat) :
    stage platform (trace ++ [entry]) task =
      if entry.1 = task then progress platform (stage platform trace task) entry.2 else stage platform trace task := by
  unfold stage
  rw [List.foldl_append]
  rfl

/-- Only what fails strands a call. -/
theorem progress_ne_stranded {codec : JsonCodec} {s : DaemonState} {stage : Stage} {action : DaemonAction} (unbroken : stage ≠ .stranded)
    (smooth : fails platform s stage action = false) : progress platform stage ⟨action, (action.exec codec s).1⟩ ≠ .stranded := by
  intro broken
  unfold progress at broken
  split at broken
  case h_3 same =>
    cases same
    by_cases written : (s.outcomes.headD {}).writeAll = .done
    · have flushed : (s.outcomes.headD {}).flush = .done := by
        simp only [fails, written, beq_self_eq_true, Bool.true_and, bne_eq_false_iff_eq] at smooth
        exact smooth
      exact nomatch ((if_pos written).trans (if_pos flushed)).symm.trans broken
    · exact nomatch (if_neg written).symm.trans broken
  case h_8 d same =>
    obtain ⟨rfl, answer⟩ := Sigma.mk.inj_iff.mp same
    have gone : s.pairing.incoming.lookup d = none := eq_of_heq answer
    simp [fails, gone] at smooth
  case h_9 same =>
    cases same
    have live : ¬ PairingRequest.expiredAt _ s.pairing.now = true := Bool.eq_false_iff.mp smooth
    exact nomatch (if_neg live).symm.trans broken
  case h_12 same => split at broken <;> cases broken
  case h_13 same =>
    cases same
    have present : (s.pairing.files.lookup _).isSome = true := Option.isNone_eq_false_iff.mp smooth
    exact nomatch (if_pos present).symm.trans broken
  case h_14 certDer path content same =>
    cases same
    have fitting : fits platform certDer (s.pairing.files.lookup path) = true := by simpa [fails] using smooth
    exact nomatch (if_pos fitting).symm.trans broken
  case h_15 same =>
    cases same
    have present : (s.pairing.files.lookup _).isSome = true := Option.isNone_eq_false_iff.mp smooth
    exact nomatch (if_pos present).symm.trans broken
  case h_16 => exact unbroken broken
  all_goals cases broken

/-- The call has sent nothing. -/
def Stage.early : Stage → Bool
  | .fresh | .called => true
  | _ => false

theorem early_of_progress {stage : Stage} {entry : Σ action : DaemonAction, action.Answer}
    (early : (progress platform stage entry).early) : stage.early := by
  unfold progress at early
  split at early
  case h_1 => rfl
  case h_3 => rfl
  case h_16 => exact early
  all_goals first | cases early | (split at early <;> cases early)

/-- A call that has written a packet to its end has sent something. -/
theorem written_not_early (stage : Stage) (d : DeviceId) (link : Nat) (bytes : Bytes) {outcome : WriteOutcome}
    (written : outcome.writeAll = .done) : (progress platform stage ⟨writeFramed d link bytes, outcome⟩).early = false := by
  cases stage with
  | called =>
    simp only [progress, written, if_true]
    split <;> rfl
  | _ => rfl

/-- The stages are told by the trace, no call is stranded, and a call that is
still early has not written anything to its end. -/
structure Unbroken (platform : Platform) (stages : Nat → Stage) (trace : List (Nat × Σ action : DaemonAction, action.Answer)) :
    Prop where
  same : ∀ task, stage platform trace task = stages task
  unstranded : ∀ task, stages task ≠ .stranded
  unsent : ∀ task, (stages task).early → ∀ d link bytes outcome, (task, ⟨writeFramed d link bytes, outcome⟩) ∈ trace →
    outcome.writeAll ≠ .done

theorem Unbroken.exec {codec : JsonCodec} {pool : Pool DaemonAction DaemonAction.Answer DaemonState}
    (unbroken : Unbroken platform stages pool.trace) {action : DaemonAction} (next : pool.next task = some action)
    (smooth : Smooth platform pool (.take task))
    (moved : move platform (stages task) action (action.exec codec pool.shared).1 = some later) :
    Unbroken platform (Function.update stages task later) (pool.trace ++ [(task, ⟨action, (action.exec codec pool.shared).1⟩)]) := by
  obtain rfl : progress platform (stages task) ⟨action, (action.exec codec pool.shared).1⟩ = later := by
    unfold move at moved
    split at moved
    · exact Option.some.inj moved
    · cases moved
  refine ⟨fun other => ?_, fun other => ?_, fun other early d link bytes outcome member => ?_⟩
  · rw [stage_append]
    by_cases here : task = other
    · subst here
      simp [unbroken.same]
    · simp [here, unbroken.same, Function.update_of_ne (Ne.symm here)]
  · by_cases here : other = task
    · subst here
      rw [Function.update_self]
      exact progress_ne_stranded (unbroken.unstranded other) (unbroken.same other ▸ smooth action next)
    · rw [Function.update_of_ne here]
      exact unbroken.unstranded other
  · by_cases here : other = task
    · subst here
      rw [Function.update_self] at early
      rcases List.mem_append.mp member with before | last
      · exact unbroken.unsent other (early_of_progress early) d link bytes outcome before
      · have entry : (⟨writeFramed d link bytes, outcome⟩ : Σ action : DaemonAction, action.Answer) =
            ⟨action, (action.exec codec pool.shared).1⟩ :=
          congrArg Prod.snd (List.mem_singleton.mp last)
        intro written
        rw [← entry, written_not_early _ d link bytes written] at early
        cases early
    · rw [Function.update_of_ne here] at early
      rcases List.mem_append.mp member with before | last
      · exact unbroken.unsent other early d link bytes outcome before
      · exact absurd (congrArg Prod.fst (List.mem_singleton.mp last)) here

/-- The packet, written to its end for the device, tells the peer that it is paired, or that it is not. -/
def Tells (print : Json → String) (d : DeviceId) (accepted : Bool) (entry : Σ action : DaemonAction, action.Answer) : Prop :=
  ∃ link outcome packet, entry = ⟨writeFramed d link (WholeFrames.line print packet), outcome⟩ ∧ outcome.writeAll = .done ∧
    packet.isPair ∧ pairDecision packet = some accepted

/-- When a call of `pair_device` that has told the peer `pair: true` is about
to return an error, the peer was told `pair: false` since, or it is paired. -/
def Unsplit (print : Json → String) (pool : Pool DaemonAction DaemonAction.Answer DaemonState) : Prop :=
  ∀ task d e, pool.next task = some (pairReturned d (.error e)) →
    ∀ (i : Nat) (entry : Σ action : DaemonAction, action.Answer), pool.trace[i]? = some (task, entry) → Tells print d true entry →
      (∃ (j other : Nat) (later : Σ action : DaemonAction, action.Answer), i < j ∧ pool.trace[j]? = some (other, later) ∧
        Tells print d false later) ∨ FanOut.isPaired pool.shared d

/-- The tasks to which nothing is refused. -/
def granted (config : DaemonSettings) : AcceptTask → DaemonProgram Unit
  | .api task => task.program config
  | .pairDeviceRefused _ _ _ => return

/-- In every run in which no call of `pair_device` goes wrong after `pair: true`
was written, none leaves the peer behind, in whatever order the tasks take
their turns. -/
theorem accept_never_splits (config : DaemonSettings) (start : DaemonState) (turns : List (Turn AcceptTask))
    (smooth : ∀ k turn, turns[k]? = some turn → Smooth config.platform (atTurn config start turns k) turn) (k : Nat) :
    Unsplit config.print (atTurn config start turns k) := by
  have grants : ∀ task, .spawn task ∈ turns → task.program config = granted config task := by
    intro task spawned
    obtain ⟨k, here⟩ := List.getElem?_of_mem spawned
    cases task with
    | api task => rfl
    | pairDeviceRefused d written e => exact (smooth k _ here).elim
  have same : ∀ k, atTurn config start turns k = Pool.after (DaemonAction.exec config.codec) (granted config) start turns k :=
    Pool.after_congr grants
  have invariant : Pool.Invariant (move config.platform) .fresh (fun _ => True) (DaemonAction.exec config.codec)
      (granted config) (Smooth config.platform) fun _ stages trace => Unbroken config.platform stages trace := by
    refine ⟨fun task => ?_, fun _ _ _ _ _ unbroken next allowed moved => unbroken.exec next allowed moved⟩
    cases task with
    | api task => exact follows_task config task
    | pairDeviceRefused d written e => trivial
  have first : Unbroken config.platform (fun _ => .fresh) [] := ⟨fun _ => rfl, by simp, by simp⟩
  obtain ⟨stages, phased, unbroken⟩ := invariant.run first (fun k turn here => same k ▸ smooth k turn here) k
  rw [same]
  rintro task d e returns i _ here ⟨link, outcome, packet, rfl, written, -⟩
  obtain ⟨later, moved⟩ := phased.moves returns ()
  have early : (stages task).early := by
    have stays := unbroken.unstranded task
    cases stage : stages task <;> simp_all [move, permits, Stage.early]
  exact absurd written (unbroken.unsent task early d link _ outcome (List.mem_of_getElem? here))

section Sample

def pairText (accepted : Bool) : String :=
  "\x7b" ++ ("\"id\":0,\"type\":\"kdeconnect.pair\",\"body\":\x7b\"pair\":" ++ (if accepted then "true" else "false") ++
    ",\"timestamp\":1000\x7d") ++ "\x7d"

def printPair (value : Json) : String := pairText ((value.get "body").bind (Json.get "pair") == some (.bool true))

def desktop : DaemonSettings where
  print := printPair
  codec := RefusedAttempts.phoneCodec
  platform := samplePlatform
  publicKey certDer := .ok certDer
  pairing := {}
  our := RefusedAttempts.phoneIdentity

/-- A phone has a link. -/
def linkedPhone : DaemonState where
  pairing := { now := seconds 1000 }
  manager := { connections := AList.insert samplePhone ⟨0, 1, some [0x30, 0x00]⟩ ∅, nextLink := 1 }

/-- The phone asks to be paired. -/
def phoneAsks : List (Turn AcceptTask) :=
  .spawn (.api (.daemon (.handles samplePhone 1 (.pairRequestWithTimestamp 7 1000)))) :: List.replicate 21 (.take 0)

/-- The user accepts, and `pair: true` is written. -/
def untilSent : List (Turn AcceptTask) :=
  phoneAsks ++ (.spawn (.api (.pairDevice samplePhone)) :: List.replicate 12 (.take 1) : List (Turn AcceptTask))

def inTime : List (Turn AcceptTask) := untilSent ++ List.replicate 13 (Turn.take 1)

/-- The request expires before `accept_pairing` has looked at it. -/
def tooLate : List (Turn AcceptTask) :=
  untilSent ++ ([.spawn (.api (.daemon (.waits (seconds 26)))), .take 2] : List (Turn AcceptTask)) ++ List.replicate 4 (Turn.take 1)

/-- The certificate of the phone cannot be written. -/
def fullDisk : List (Turn AcceptTask) :=
  phoneAsks ++ (.spawn (.pairDeviceRefused samplePhone 0 (.io "Failed to write peer certificate: No space left on device (os error 28)")) ::
    List.replicate 17 (.take 1) : List (Turn AcceptTask))

example : inTime.length = 48 ∧ tooLate.length = 41 ∧ fullDisk.length = 40 := by decide +kernel

def smoothTurn (pool : Pool DaemonAction DaemonAction.Answer DaemonState) : Turn AcceptTask → Bool
  | .spawn (.api _) => true
  | .spawn (.pairDeviceRefused _ _ _) => false
  | .take task => (pool.next task).all fun action =>
    !fails desktop.platform pool.shared (stage desktop.platform pool.trace task) action

theorem smooth_of_turn {pool : Pool DaemonAction DaemonAction.Answer DaemonState} {turn : Turn AcceptTask}
    (smooth : smoothTurn pool turn = true) : Smooth desktop.platform pool turn := by
  cases turn with
  | spawn task =>
    cases task with
    | api task => trivial
    | pairDeviceRefused d written e => cases smooth
  | take task =>
    intro action next
    simpa [smoothTurn, next] using smooth

theorem accepted_phone_paired :
    FanOut.isPaired (atTurn desktop linkedPhone inTime 48).shared samplePhone ∧
      Unsplit printPair (atTurn desktop linkedPhone inTime 48) := by
  have passes : Pool.along (DaemonAction.exec desktop.codec) (AcceptTask.program desktop) smoothTurn
      (fun pool => (pool.shared.pairing.paired.lookup samplePhone).isSome) (Pool.start linkedPhone) inTime = true := by
    decide +kernel
  have length : inTime.length = 48 := by decide +kernel
  obtain ⟨smooth, paired⟩ := Pool.along_after passes
  rw [length] at paired
  refine ⟨?_, accept_never_splits desktop linkedPhone inTime (fun k turn here => smooth_of_turn (smooth k turn here)) 48⟩
  unfold FanOut.isPaired atTurn
  exact paired

/-- What was written, by which task. -/
def written (trace : List (Nat × Σ action : DaemonAction, action.Answer)) : List (Nat × DeviceId × Nat × Bytes × WriteOutcome) :=
  trace.filterMap fun entry =>
    match entry with
    | (task, ⟨writeFramed d link bytes, outcome⟩) => some (task, d, link, bytes, outcome)
    | _ => none

theorem mem_written {d : DeviceId} {link : Nat} {bytes : Bytes} {outcome : WriteOutcome} :
    (task, d, link, bytes, outcome) ∈ written trace ↔ (task, ⟨writeFramed d link bytes, outcome⟩) ∈ trace := by
  unfold written
  rw [List.mem_filterMap]
  constructor
  · rintro ⟨entry, member, same⟩
    split at same
    · cases same
      exact member
    · cases same
  · exact fun member => ⟨_, member, rfl⟩

/-- The error that a call is about to return. -/
def failure : DaemonAction → Option (DeviceId × Error)
  | pairReturned d (.error e) => some (d, e)
  | _ => none

theorem eq_of_failure {action : DaemonAction} {d : DeviceId} {e : Error} (failed : failure action = some (d, e)) :
    action = pairReturned d (.error e) := by
  unfold failure at failed
  split at failed
  · cases failed
    rfl
  · cases failed

theorem line_of_decision {packet : Packet} {accepted : Bool} (decision : pairDecision packet = some accepted) :
    WholeFrames.line printPair packet = toUtf8 (pairText accepted) ++ [newline] := by
  have body : packet.encode.get "body" = some packet.body := by
    obtain ⟨id, packetType, body, size, info⟩ := packet
    cases size <;> cases info <;> rfl
  have member : packet.body.get "pair" = some (.bool accepted) := by
    obtain ⟨value, found, read⟩ := Option.bind_eq_some_iff.mp decision
    cases value <;> simp_all [Json.asBool]
  have read : (some (Json.bool accepted) == some (.bool true)) = accepted := by cases accepted <;> decide +kernel
  rw [WholeFrames.line, printPair, body, Option.bind_some, member, read]

/-- A run in which the user's call has told the phone that it is paired, and is about to return an error. -/
theorem splits_of_error {turns : List (Turn AcceptTask)} {k : Nat} {e : Error}
    (failed : ((atTurn desktop linkedPhone turns k).next 1).bind failure = some (samplePhone, e))
    (writes : written (atTurn desktop linkedPhone turns k).trace =
      [(1, samplePhone, 0, toUtf8 (pairText true) ++ [newline], {})])
    (unpaired : ((atTurn desktop linkedPhone turns k).shared.pairing.paired.lookup samplePhone).isSome = false) :
    ¬Unsplit printPair (atTurn desktop linkedPhone turns k) := by
  intro unsplit
  obtain ⟨action, next, failed⟩ := Option.bind_eq_some_iff.mp failed
  rw [eq_of_failure failed] at next
  obtain ⟨i, here⟩ := List.getElem?_of_mem (mem_written.mp (writes ▸ List.mem_singleton_self _))
  have accepts : pairDecision (.pairResponse 0 (seconds 1000) true) = some true := by decide +kernel
  have tells : Tells printPair samplePhone true ⟨writeFramed samplePhone 0 (toUtf8 (pairText true) ++ [newline]), {}⟩ :=
    ⟨0, {}, .pairResponse 0 (seconds 1000) true, by rw [line_of_decision accepts], rfl, rfl, accepts⟩
  rcases unsplit 1 samplePhone _ next i _ here tells with ⟨j, other, later, -, there, link, outcome, packet, rfl, -, -, refused⟩ | paired
  · have member := mem_written.mpr (List.mem_of_getElem? there)
    rw [writes, List.mem_singleton, line_of_decision refused] at member
    simp only [Prod.mk.injEq] at member
    exact absurd member.2.2.2.1 (by decide +kernel)
  · rw [FanOut.isPaired, unpaired] at paired
    cases paired

theorem late_accept_splits : ¬Unsplit printPair (atTurn desktop linkedPhone tooLate 41) ∧
    ¬Unsplit printPair (atTurn desktop linkedPhone fullDisk 40) := by
  have late : ((atTurn desktop linkedPhone tooLate 41).next 1).bind failure =
      some (samplePhone, .pairingTimeout samplePhone) := by decide +kernel
  have full : ((atTurn desktop linkedPhone fullDisk 40).next 1).bind failure =
      some (samplePhone, .io "Failed to write peer certificate: No space left on device (os error 28)") := by decide +kernel
  exact ⟨splits_of_error late (by decide +kernel) (by decide +kernel), splits_of_error full (by decide +kernel) (by decide +kernel)⟩

end Sample

end PairAccept

end RustConnect
