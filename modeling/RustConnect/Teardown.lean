import RustConnect.Daemon

namespace RustConnect

open Program DaemonAction Daemon

/-- What can end `run_packet_loop`: a pair packet, a read that fails, the
cancelled token, the shutdown of the daemon, and the idle timeout. -/
inductive LoopEvent
  | pairPacket (packet : Packet)
  | readError
  | cancelled
  | shutdown
  | idle

/-- Which task runs the packet loop. -/
inductive LoopCaller
  | listener
  | orchestrator

namespace Teardown

variable (print : Json → String) (codec : JsonCodec) (platform : Platform) (settings : PairingSettings) (d : DeviceId)
  (generation : UInt64)

/-- The idle arm. Its `return` only leaves the `async` block inside `select!`, and the loop goes round. -/
def idleArm : DaemonProgram Bool := do
  match ← perform (manager (.getConnection d)) with
  | some _ =>
    tearDown d generation
    return true
  | none => return false

/-- The arms of `run_packet_loop` that can end it; `none` lets the loop go on. -/
def endLoop : LoopEvent → DaemonProgram (Option LoopResult)
  | .pairPacket packet => onLoop print (PacketLoop.handlePairPacket platform settings d generation packet)
  | .readError => do
    tearDown d generation
    return some .disconnected
  | .cancelled => do
    if ← perform (manager (.removeCancelTokenIfCurrent d generation)) then
      perform (tryTransition d .disconnected)
    return some .disconnected
  | .shutdown => do
    tearDown d generation
    return some .shutdown
  | .idle => do
    if ← idleArm d generation then
      -- the round after it reads from the slot that was given up, and ends in the arm of a failed read
      match ← onManager (ConnectionManager.recvPacketCurrent d generation).run with
      | .ok _ | .error (.connectionTimeout _) => return none
      | .error _ =>
        tearDown d generation
        return some .disconnected
    else
      return none

/-- What the caller does when the loop has ended. -/
def cleanUp : LoopCaller → DaemonProgram Unit
  | .listener => do let _ ← onManager (ConnectionManager.disconnect d generation)
  | .orchestrator => return

def finish (event : LoopEvent) (caller : LoopCaller) : DaemonProgram (Option LoopResult) := do
  let result ← endLoop print platform settings d generation event
  if result.isSome then
    cleanUp d generation caller
  return result

/-- Nothing is left of the device's link, and the plugins were told once. -/
structure Complete (s t : DaemonState) : Prop where
  connection : t.manager.connections.lookup d = none
  token : t.manager.cancelTokens.lookup d = none
  registry : ∀ device, t.registry.lookup d = some device → device.state ≠ .connected
  notified : t.notified = s.notified ++ [d]

/-- The device's link, its token and its record are as they were, and the plugins were not told. -/
structure Untouched (s t : DaemonState) : Prop where
  connection : t.manager.connections.lookup d = s.manager.connections.lookup d
  token : t.manager.cancelTokens.lookup d = s.manager.cancelTokens.lookup d
  registry : t.registry.lookup d = s.registry.lookup d
  notified : t.notified = s.notified

/-- The loop ends in an arm that tears the link down, and does so once. -/
def tearsDown (s : DaemonState) : LoopEvent → Prop
  | .pairPacket _ => s.pairing.pairStateOf d = .paired
  | .cancelled | .idle => False
  | .readError | .shutdown => True

variable {print codec platform settings d generation} {s t u : DaemonState}

theorem Untouched.refl (s : DaemonState) : Untouched d s s := ⟨rfl, rfl, rfl, rfl⟩

theorem Untouched.trans (first : Untouched d s t) (second : Untouched d t u) : Untouched d s u :=
  ⟨second.connection.trans first.connection, second.token.trans first.token, second.registry.trans first.registry,
    second.notified.trans first.notified⟩

theorem Complete.after (untouched : Untouched d s t) (complete : Complete d t u) : Complete d s u :=
  ⟨complete.connection, complete.token, complete.registry, untouched.notified ▸ complete.notified⟩

/-- A link of another generation holds the slot. -/
def Replaced (d : DeviceId) (generation : UInt64) (s : DaemonState) : Prop :=
  ∃ link, s.manager.connections.lookup d = some link ∧ link.generation ≠ generation

theorem Replaced.of_untouched (replaced : Replaced d generation s) (untouched : Untouched d s t) : Replaced d generation t := by
  obtain ⟨link, found, other⟩ := replaced
  exact ⟨link, untouched.connection.trans found, other⟩

variable (codec) in
theorem disconnect_replaced (replaced : Replaced d generation s) :
    (run (exec codec) (onManager (ConnectionManager.disconnect d generation)) s).1 = false ∧
      Untouched d s (run (exec codec) (onManager (ConnectionManager.disconnect d generation)) s).2 := by
  obtain ⟨link, found, other⟩ := replaced
  have stale : s.view.removeConnection d generation = (none, s.view) := by
    simp [ManagerState.removeConnection, DaemonState.view, found, other]
  have effect : run (exec codec) (onManager (ConnectionManager.disconnect d generation)) s =
      (false, { s.putManager s.view with inbound := s.inbound }) := by
    simp [onManager_disconnect, exec, ManagerAction.exec, stale, DaemonState.noteInbound]
  rw [effect]
  exact ⟨rfl, rfl, rfl, rfl, rfl⟩

/-- The slot and the token of the device are empty, and nothing else is touched. -/
structure Cleared (d : DeviceId) (s t : DaemonState) : Prop where
  connection : t.manager.connections.lookup d = none
  token : t.manager.cancelTokens.lookup d = none
  registry : t.registry.lookup d = s.registry.lookup d
  notified : t.notified = s.notified

variable (codec) in
theorem disconnect_owned (owned : ∀ link, s.manager.connections.lookup d = some link → link.generation = generation) :
    (run (exec codec) (onManager (ConnectionManager.disconnect d generation)) s).1 = true ∧
      Cleared d s (run (exec codec) (onManager (ConnectionManager.disconnect d generation)) s).2 := by
  have removed : s.view.removeConnection d generation = (some (s.manager.connections.lookup d), { s.view with
      cancelTokens := s.manager.cancelTokens.erase d
      connections := s.manager.connections.erase d }) := by
    have own : ((s.manager.connections.lookup d).any fun link => link.generation != generation) = false := by
      cases found : s.manager.connections.lookup d with
      | none => rfl
      | some link => simp [owned link found]
    simp [ManagerState.removeConnection, DaemonState.view, own]
  cases found : s.manager.connections.lookup d <;>
    simp [onManager_disconnect, exec, ManagerAction.exec, removed, found, DaemonState.noteInbound] <;>
    exact ⟨AList.lookup_erase _ _, AList.lookup_erase _ _, rfl, rfl⟩

theorem tearDown_replaced (replaced : Replaced d generation s) :
    Untouched d s (run (exec codec) (tearDown d generation) s).2 := by
  obtain ⟨answer, untouched⟩ := disconnect_replaced codec replaced
  rw [tearDown, run_bind, answer]
  exact untouched

/-- A record that is brought to Disconnected, as far as it can be, is not Connected. -/
theorem transition_disconnected (s : DaemonState) (d : DeviceId) :
    ∀ device, (s.transition d .disconnected).registry.lookup d = some device → device.state ≠ .connected := by
  intro device found
  simp only [DaemonState.transition, DeviceRegistry.transition] at found
  cases known : s.registry.lookup d with
  | none => simp [known] at found
  | some before =>
    simp only [known] at found
    split at found
    · rename_i refused
      obtain rfl : before = device := Option.some.inj (known.symm.trans found)
      rintro connected
      simp [connected, DeviceState.canTransitionTo] at refused
    · rw [AList.lookup_insert] at found
      obtain rfl := Option.some.inj found
      simp

theorem tearDown_owned (owned : ∀ link, s.manager.connections.lookup d = some link → link.generation = generation) :
    Complete d s (run (exec codec) (tearDown d generation) s).2 := by
  obtain ⟨answer, cleared⟩ := disconnect_owned codec owned
  rw [tearDown, run_bind, answer]
  refine ⟨?_, ?_, transition_disconnected _ d, ?_⟩
  all_goals simp only [↓reduceIte, perform, run_bind, run_call, exec, DaemonState.transition_manager, DaemonState.transition_notified]
  · exact cleared.connection
  · exact cleared.token
  · rw [cleared.notified]

theorem onLoop_peerRejected_paired :
    onLoop print (PacketLoop.peerRejected platform settings d generation .paired) =
      (onPairing (attempt (PairingHandler.unpair platform settings d)) >>= fun _ =>
        tearDown d generation >>= fun _ => pure (some .disconnected)) := by
  have disconnects : onLoop print (PacketLoop.perform (.disconnect d generation)) =
      Except.ok <$> onManager (ConnectionManager.disconnect d generation) := onLoop_perform print _
  simp only [PacketLoop.peerRejected, onLoop_bind, onLoop_onPairing, tearDown, LawfulMonad.bind_assoc]
  refine congrArg _ (funext fun _ => ?_)
  rw [disconnects, map_eq_pure_bind, LawfulMonad.bind_assoc]
  refine congrArg _ (funext fun owned => ?_)
  cases owned <;> rfl

theorem onLoop_peerRejected_pending {state : PairState} (pending : state = .requested ∨ state = .requestedByPeer) :
    onLoop print (PacketLoop.peerRejected platform settings d generation state) =
      (onPairing (attempt (PairingHandler.rejectPairing d)) >>= fun _ => pure (some .disconnected)) := by
  rcases pending with rfl | rfl <;>
    simp only [PacketLoop.peerRejected, onLoop_bind, onLoop_onPairing, onLoop_pure]

variable (codec) in
/-- A pair packet ends the loop only if it takes the pairing or a request back. -/
theorem pairPacket_ends {packet : Packet}
    (ends : (run (exec codec) (endLoop print platform settings d generation (.pairPacket packet)) s).1.isSome) :
    s.pairing.pairStateOf d ≠ .notPaired ∧
      run (exec codec) (endLoop print platform settings d generation (.pairPacket packet)) s =
        run (exec codec) (onLoop print (PacketLoop.peerRejected platform settings d generation (s.pairing.pairStateOf d))) s := by
  unfold endLoop PacketLoop.handlePairPacket at *
  cases decision : pairDecision packet with
  | none =>
    simp [decision] at ends
  | some accepted =>
    simp only [decision, onLoop_bind, onLoop_onPairing, run_bind, run_onPairing, PairingHandler.run_pairState] at ends ⊢
    cases accepted with
    | true =>
      simp only [↓reduceIte] at ends
      split at ends <;> simp only [onLoop_bind, onLoop_pure, run_bind, run_pure, Option.isSome_none, Bool.false_eq_true] at ends
    | false =>
      refine ⟨fun notPaired => ?_, by simp⟩
      simp [notPaired, PacketLoop.peerRejected] at ends

theorem untouched_pairing (pairing : PairingState) : Untouched d s { s with pairing } := ⟨rfl, rfl, rfl, rfl⟩

/-- The daemon after a look at the device's link. -/
def looked (s : DaemonState) : DaemonState := { s.putManager s.view with inbound := s.inbound }

theorem untouched_looked : Untouched d s (looked s) := ⟨rfl, rfl, rfl, rfl⟩

variable (codec) in
/-- Nothing is read from a slot that is empty or holds the link of another generation. -/
theorem recv_fails (gone : ∀ link, s.manager.connections.lookup d = some link → link.generation ≠ generation) :
    ∃ message, run (exec codec) (onManager (ConnectionManager.recvPacketCurrent d generation).run) s =
      (.error (.connectionError message), looked s) := by
  have looks (next : Option Link → ManagerProgram (Except Error Packet)) :
      run (exec codec) (onManager (.act (.getConnection d) next)) s =
        run (exec codec) (onManager (next (s.manager.connections.lookup d))) (looked s) := rfl
  cases found : s.manager.connections.lookup d with
  | none =>
    refine ⟨s!"No connection for device: {d}", (looks _).trans ?_⟩
    rw [found]
    rfl
  | some link =>
    refine ⟨s!"Stale generation {generation} for device {d} (link replaced; current generation {link.generation})",
      (looks _).trans ?_⟩
    rw [found]
    exact congrArg (fun program => run (exec codec) (onManager program) _) (if_pos (gone link found))

/-- An idle link is given up twice: the round after the idle arm finds nothing of it to read. -/
theorem endLoop_idle {link : Link} (found : s.manager.connections.lookup d = some link)
    (gone : ∀ other, (run (exec codec) (tearDown d generation) (looked s)).2.manager.connections.lookup d = some other →
      other.generation ≠ generation) :
    run (exec codec) (endLoop print platform settings d generation .idle) s =
      (some .disconnected, (run (exec codec) (tearDown d generation)
        (looked (run (exec codec) (tearDown d generation) (looked s)).2)).2) := by
  have idle : run (exec codec) (idleArm d generation) s = (true, (run (exec codec) (tearDown d generation) (looked s)).2) := by
    have seen : run (exec codec) (perform (manager (.getConnection d))) s = (some link, looked s) :=
      congrArg (·, looked s) found
    rw [idleArm, run_bind, seen]
    exact run_bind _ _ _ _
  obtain ⟨message, fails⟩ := recv_fails codec gone
  rw [endLoop, run_bind, idle]
  simp only [↓reduceIte, run_bind, fails, run_pure]

theorem current_of_isCurrent (current : s.manager.isCurrent d generation = true) {link : Link}
    (found : s.manager.connections.lookup d = some link) : link.generation = generation := by
  simpa [ManagerState.isCurrent, found] using current

/-- An arm whose loop has been replaced touches nothing. -/
theorem endLoop_replaced (replaced : Replaced d generation s) {event : LoopEvent}
    (ends : (run (exec codec) (endLoop print platform settings d generation event) s).1.isSome) :
    Untouched d s (run (exec codec) (endLoop print platform settings d generation event) s).2 := by
  cases event with
  | pairPacket packet =>
    obtain ⟨known, same⟩ := pairPacket_ends codec ends
    rw [same]
    cases state : s.pairing.pairStateOf d with
    | notPaired => exact absurd state known
    | paired =>
      rw [onLoop_peerRejected_paired, run_bind, run_onPairing, run_bind]
      exact (untouched_pairing _).trans (tearDown_replaced (replaced.of_untouched (untouched_pairing _)))
    | requested =>
      rw [onLoop_peerRejected_pending (.inl rfl), run_bind, run_onPairing]
      exact untouched_pairing _
    | requestedByPeer =>
      rw [onLoop_peerRejected_pending (.inr rfl), run_bind, run_onPairing]
      exact untouched_pairing _
  | readError =>
    rw [endLoop, run_bind]
    exact tearDown_replaced replaced
  | shutdown =>
    rw [endLoop, run_bind]
    exact tearDown_replaced replaced
  | cancelled =>
    obtain ⟨link, found, other⟩ := replaced
    have stale : s.view.isCurrent d generation = false := by
      simp [ManagerState.isCurrent, DaemonState.view, found, other]
    simp [endLoop, exec, ManagerAction.exec, stale, DaemonState.noteInbound]
    exact ⟨rfl, rfl, rfl, rfl⟩
  | idle =>
    obtain ⟨link, found, other⟩ := replaced
    have replaced : Replaced d generation s := ⟨link, found, other⟩
    have first : Untouched d s (run (exec codec) (tearDown d generation) (looked s)).2 :=
      untouched_looked.trans (tearDown_replaced (replaced.of_untouched untouched_looked))
    have replaced := replaced.of_untouched first
    have gone : ∀ other, (run (exec codec) (tearDown d generation) (looked s)).2.manager.connections.lookup d = some other →
        other.generation ≠ generation := by
      obtain ⟨link, found, other⟩ := replaced
      rintro _ same
      rw [found] at same
      cases same
      exact other
    rw [endLoop_idle found gone]
    exact (first.trans untouched_looked).trans (tearDown_replaced (replaced.of_untouched untouched_looked))

/-- An arm that tears the link down leaves nothing of it. -/
theorem endLoop_owned (current : s.manager.isCurrent d generation = true) {event : LoopEvent}
    (ends : (run (exec codec) (endLoop print platform settings d generation event) s).1.isSome) (tears : tearsDown d s event) :
    Complete d s (run (exec codec) (endLoop print platform settings d generation event) s).2 := by
  cases event with
  | pairPacket packet =>
    obtain ⟨-, same⟩ := pairPacket_ends codec ends
    have state : s.pairing.pairStateOf d = .paired := tears
    rw [same, state, onLoop_peerRejected_paired, run_bind, run_onPairing, run_bind]
    exact .after (untouched_pairing _) (tearDown_owned fun link found => current_of_isCurrent current found)
  | readError =>
    rw [endLoop, run_bind]
    exact tearDown_owned fun link found => current_of_isCurrent current found
  | shutdown =>
    rw [endLoop, run_bind]
    exact tearDown_owned fun link found => current_of_isCurrent current found
  | cancelled => exact tears.elim
  | idle => exact tears.elim

/-- The idle link of the loop's own generation is reported to the plugins twice. -/
theorem endLoop_idle_notified (current : s.manager.isCurrent d generation = true) :
    (run (exec codec) (endLoop print platform settings d generation .idle) s).2.notified = s.notified ++ [d, d] := by
  obtain ⟨link, found, -⟩ := Option.any_eq_true _ _ |>.mp current
  have first : Complete d (looked s) (run (exec codec) (tearDown d generation) (looked s)).2 :=
    tearDown_owned fun link found => current_of_isCurrent current found
  have empty (other : Link) : (run (exec codec) (tearDown d generation) (looked s)).2.manager.connections.lookup d ≠ some other := by
    rw [first.connection]
    exact (Option.some_ne_none other).symm
  have second : Complete d (looked (run (exec codec) (tearDown d generation) (looked s)).2) (run (exec codec) (tearDown d generation)
      (looked (run (exec codec) (tearDown d generation) (looked s)).2)).2 :=
    tearDown_owned fun other found => absurd found (empty other)
  rw [endLoop_idle found fun other found => absurd found (empty other)]
  calc
    _ = (run (exec codec) (tearDown d generation) (looked s)).2.notified ++ [d] := second.notified
    _ = s.notified ++ [d] ++ [d] := congrArg (· ++ [d]) first.notified
    _ = s.notified ++ [d, d] := List.append_assoc ..

/-- The other arms tell the plugins nothing. -/
theorem endLoop_silent {event : LoopEvent}
    (ends : (run (exec codec) (endLoop print platform settings d generation event) s).1.isSome)
    (keeps : ¬tearsDown d s event) (busy : event ≠ .idle) :
    (run (exec codec) (endLoop print platform settings d generation event) s).2.notified = s.notified := by
  cases event with
  | pairPacket packet =>
    obtain ⟨known, same⟩ := pairPacket_ends codec ends
    rw [same]
    cases state : s.pairing.pairStateOf d with
    | notPaired => exact absurd state known
    | paired => exact absurd state keeps
    | requested =>
      rw [onLoop_peerRejected_pending (.inl rfl), run_bind, run_onPairing]
      rfl
    | requestedByPeer =>
      rw [onLoop_peerRejected_pending (.inr rfl), run_bind, run_onPairing]
      rfl
  | cancelled =>
    simp only [endLoop, perform, run_bind, run_call, exec, ManagerAction.exec]
    split
    · simp [exec, DaemonState.transition_notified]
      rfl
    · rfl
  | readError => exact absurd trivial keeps
  | shutdown => exact absurd trivial keeps
  | idle => exact absurd rfl busy

/-- But for the arms that tear the link down, the plugins are not told just once. -/
theorem endLoop_miscounts (current : s.manager.isCurrent d generation = true) {event : LoopEvent}
    (ends : (run (exec codec) (endLoop print platform settings d generation event) s).1.isSome)
    (keeps : ¬tearsDown d s event) :
    (run (exec codec) (endLoop print platform settings d generation event) s).2.notified ≠ s.notified ++ [d] := by
  by_cases idle : event = .idle
  · subst idle
    rw [endLoop_idle_notified current]
    simp
  · rw [endLoop_silent ends keeps idle]
    simp

section Caller

variable (codec) (caller : LoopCaller)

theorem cleanUp_replaced (replaced : Replaced d generation s) :
    Untouched d s (run (exec codec) (cleanUp d generation caller) s).2 := by
  cases caller with
  | listener =>
    rw [cleanUp, run_bind]
    exact (disconnect_replaced codec replaced).2
  | orchestrator => exact .refl s

/-- The caller finds nothing more to do. -/
theorem cleanUp_complete (complete : Complete d s t) :
    Complete d s (run (exec codec) (cleanUp d generation caller) t).2 := by
  cases caller with
  | listener =>
    have empty : ∀ link, t.manager.connections.lookup d = some link → link.generation = generation := by
      intro link found
      rw [complete.connection] at found
      cases found
    obtain ⟨-, cleared⟩ := disconnect_owned codec empty
    rw [cleanUp, run_bind]
    exact ⟨cleared.connection, cleared.token, fun device found => complete.registry device (cleared.registry ▸ found),
      cleared.notified.trans complete.notified⟩
  | orchestrator => exact complete

theorem cleanUp_notified : (run (exec codec) (cleanUp d generation caller) s).2.notified = s.notified := by
  cases caller with
  | listener =>
    rw [cleanUp, run_bind]
    by_cases replaced : Replaced d generation s
    · exact (disconnect_replaced codec replaced).2.notified
    · have owned : ∀ link, s.manager.connections.lookup d = some link → link.generation = generation := by
        intro link found
        by_contra other
        exact replaced ⟨link, found, other⟩
      exact (disconnect_owned codec owned).2.notified
  | orchestrator => rfl

end Caller

/-- However the packet loop of a generation ends, and whoever runs it: the
teardown is complete if the generation owns the link, and touches nothing if
another one does, just when the arm is one that tears the link down once. -/
theorem teardown_complete_iff (print : Json → String) (codec : JsonCodec) (platform : Platform) (settings : PairingSettings)
    (d : DeviceId) (generation : UInt64) (event : LoopEvent) (caller : LoopCaller) (s : DaemonState)
    (ends : (run (exec codec) (finish print platform settings d generation event caller) s).1.isSome) :
    ((s.manager.isCurrent d generation → Complete d s (run (exec codec) (finish print platform settings d generation event caller) s).2) ∧
      (Replaced d generation s → Untouched d s (run (exec codec) (finish print platform settings d generation event caller) s).2)) ↔
    (s.manager.isCurrent d generation → tearsDown d s event) := by
  have ended : (run (exec codec) (endLoop print platform settings d generation event) s).1.isSome := by
    simp only [finish, run_bind] at ends
    split at ends
    · assumption
    · exact ends
  have state : (run (exec codec) (finish print platform settings d generation event caller) s).2 =
      (run (exec codec) (cleanUp d generation caller)
        (run (exec codec) (endLoop print platform settings d generation event) s).2).2 := by
    simp only [finish, run_bind, ended, ↓reduceIte, run_pure]
  rw [state]
  constructor
  · rintro ⟨complete, -⟩ current
    by_contra keeps
    have notified := (complete current).notified
    rw [cleanUp_notified] at notified
    exact endLoop_miscounts current ended keeps notified
  · intro tears
    refine ⟨fun current => ?_, fun replaced => ?_⟩
    · exact cleanUp_complete codec caller (endLoop_owned current ended (tears current))
    · have untouched := endLoop_replaced replaced ended
      exact untouched.trans (cleanUp_replaced codec caller (replaced.of_untouched untouched))

section Sample

def phoneLink : DaemonState where
  manager := {
    connections := AList.insert "phone" ⟨0, 1, none⟩ ∅
    cancelTokens := AList.insert "phone" 0 ∅
    nextLink := 1
    nextToken := 1 }
  registry := AList.insert "phone" { Device.new "phone" "Phone" .phone 8 0 with state := .connected } ∅

/-- Our own pair request to the phone is out. -/
def askedPhone : DaemonState :=
  { phoneLink with pairing := { outgoing := AList.insert "phone" ⟨"phone", 0, seconds 30, 0⟩ ∅ } }

def rejection : Packet := .pairResponse 1 0 false

def sampleCodec : JsonCodec := PacketSerializer.sampleCodec PacketSerializer.pingText PacketSerializer.pingPacket.encode

theorem read_error_complete :
    Complete "phone" phoneLink
      (run (exec sampleCodec) (finish (fun _ => "") samplePlatform {} "phone" 1 .readError .orchestrator) phoneLink).2 :=
  ((teardown_complete_iff (fun _ => "") sampleCodec samplePlatform {} "phone" 1 .readError .orchestrator phoneLink
    (by decide +kernel)).mpr fun _ => trivial).1 (by decide +kernel)

/-- The phone turns the request down, or the token of its loop is cancelled:
the plugins are not told, and where the daemon had dialled, the link stays.
When its link is idle they are told twice. -/
theorem rejection_incomplete :
    askedPhone.manager.isCurrent "phone" 1 = true ∧ phoneLink.manager.isCurrent "phone" 1 = true ∧
    (run (exec sampleCodec) (finish (fun _ => "") samplePlatform {} "phone" 1 (.pairPacket rejection) .listener) askedPhone).1 =
      some .disconnected ∧
    (run (exec sampleCodec) (finish (fun _ => "") samplePlatform {} "phone" 1 (.pairPacket rejection) .listener)
      askedPhone).2.notified = [] ∧
    ((run (exec sampleCodec) (finish (fun _ => "") samplePlatform {} "phone" 1 (.pairPacket rejection) .orchestrator)
      askedPhone).2.manager.connections.lookup "phone").isSome ∧
    (run (exec sampleCodec) (finish (fun _ => "") samplePlatform {} "phone" 1 .cancelled .listener) phoneLink).2.notified = [] ∧
    (run (exec sampleCodec) (finish (fun _ => "") samplePlatform {} "phone" 1 .idle .listener) phoneLink).1 = some .disconnected ∧
    (run (exec sampleCodec) (finish (fun _ => "") samplePlatform {} "phone" 1 .idle .listener) phoneLink).2.notified =
      ["phone", "phone"] := by
  decide +kernel

end Sample

end Teardown

end RustConnect
