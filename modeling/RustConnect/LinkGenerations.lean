import RustConnect.Base.Pool
import RustConnect.RefusedAttempts

namespace RustConnect

open Program ManagerAction ConnectionManager

/-- The operations that tasks run on the `ConnectionManager`. -/
inductive ManagerOp
  | attempts (attempt : Attempt)
  | disconnect (deviceId : DeviceId) (generation : UInt64)
  | recvPacketCurrent (deviceId : DeviceId) (generation : UInt64)
  | startLoop (deviceId : DeviceId) (generation : UInt64)
  | removeCancelTokenIfCurrent (deviceId : DeviceId) (generation : UInt64)
  | cleanupStaleGenerations

namespace ManagerOp

def program (codec : JsonCodec) (platform : Platform) : ManagerOp → ManagerProgram Unit
  | attempts made => attempt (made.program codec platform)
  | disconnect d generation => do let _ ← ConnectionManager.disconnect d generation
  | recvPacketCurrent d generation => attempt (ConnectionManager.recvPacketCurrent d generation)
  | startLoop d generation => do let _ ← ConnectionManager.startLoop d generation
  | removeCancelTokenIfCurrent d generation => do let _ ← perform (.removeCancelTokenIfCurrent d generation)
  | cleanupStaleGenerations => ConnectionManager.cleanupStaleGenerations

end ManagerOp

namespace LinkGenerations

variable (d : DeviceId)

/-- The generation under which an action has put a link of the device into the map. -/
def registered : (Σ action : ManagerAction, action.Answer) → Option UInt64
  | ⟨registerIncoming e _ _, .ok (generation, _)⟩ => if e = d then some generation else none
  | ⟨insertConnection e generation _ _, _⟩ => if e = d then some generation else none
  | _ => none

/-- The generations of the device's links, in the order in which they were registered. -/
def registrations (trace : List (Nat × Σ action : ManagerAction, action.Answer)) : List UInt64 :=
  trace.filterMap fun entry => registered d entry.2

/-- The number that the next generation of the device is counted from. -/
def counter (s : ManagerState) : Nat := ((s.generations.lookup d).getD 0).toNat

/-- The generation that a task has counted for the device and not registered yet. -/
def move : Option UInt64 → (action : ManagerAction) → action.Answer → Option (Option UInt64)
  | held, bumpGeneration e, generation => if e = d then (if held = none then some (some generation) else none) else some held
  | held, insertConnection e generation _ _, _ =>
    if e = d then (if held = some generation then some none else none) else some held
  | held, _, _ => some held

/-- The action does not make the device's count start anew: it prunes the
device's counter only where there is none, and counts no further than the type allows. -/
def keepsCount (s : ManagerState) : ManagerAction → Prop
  | retainGenerations connected => d ∈ connected ∨ s.generations.lookup d = none
  | bumpGeneration e | registerIncoming e _ _ => e = d → counter d s + 1 < 2 ^ 64
  | _ => True

/-- Every turn of a task keeps the count of the device going. -/
def Counting (pool : Pool ManagerAction ManagerAction.Answer ManagerState) : Turn ManagerOp → Prop
  | .spawn _ => True
  | .take task => ∀ action, pool.next task = some action → keepsCount d pool.shared action

/-- Generations are counted up: none is registered twice, the link in the slot
is the last that was registered, and only a link in the slot has a token. -/
structure Counted (s : ManagerState) (phases : Nat → Option UInt64)
    (trace : List (Nat × Σ action : ManagerAction, action.Answer)) : Prop where
  bound : ∀ generation ∈ registrations d trace, generation.toNat ≤ counter d s
  held : ∀ task generation, phases task = some generation →
    generation.toNat ≤ counter d s ∧ generation ∉ registrations d trace ∧ ∀ other, phases other = some generation → other = task
  distinct : (registrations d trace).Nodup
  slot : ∀ link, s.connections.lookup d = some link → (registrations d trace).getLast? = some link.generation
  token : (s.cancelTokens.lookup d).isSome → (s.connections.lookup d).isSome

variable {d} {s t : ManagerState} {phases : Nat → Option UInt64}
  {trace : List (Nat × Σ action : ManagerAction, action.Answer)}

theorem registrations_append (entry : Nat × Σ action : ManagerAction, action.Answer) :
    registrations d (trace ++ [entry]) = registrations d trace ++ (registered d entry.2).toList := by
  unfold registrations
  rw [List.filterMap_append]
  cases found : registered d entry.2 <;> simp [found]

/-- An action that registers nothing and leaves the device's counter and slot alone. -/
theorem Counted.quiet (counted : Counted d s phases trace) (entry : Nat × Σ action : ManagerAction, action.Answer)
    (nothing : registered d entry.2 = none) (count : t.generations.lookup d = s.generations.lookup d)
    (slot : t.connections.lookup d = s.connections.lookup d)
    (token : (t.cancelTokens.lookup d).isSome → (s.connections.lookup d).isSome) :
    Counted d t phases (trace ++ [entry]) := by
  have same : registrations d (trace ++ [entry]) = registrations d trace := by simp [registrations_append, nothing]
  have counts : counter d t = counter d s := by rw [counter, counter, count]
  refine ⟨?_, ?_, ?_, ?_, ?_⟩
  · rw [same, counts]
    exact counted.bound
  · rw [same, counts]
    exact counted.held
  · rw [same]
    exact counted.distinct
  · rw [same, slot]
    exact counted.slot
  · rw [slot]
    exact token

theorem nextGeneration_toNat (room : counter d s + 1 < 2 ^ 64) : (s.nextGeneration d).toNat = counter d s + 1 := by
  unfold ManagerState.nextGeneration counter at *
  rw [UInt64.toNat_add]
  exact Nat.mod_eq_of_lt room

theorem counter_countGeneration (room : counter d s + 1 < 2 ^ 64) : counter d (s.countGeneration d) = counter d s + 1 := by
  rw [← nextGeneration_toNat room, counter, ManagerState.countGeneration]
  simp [AList.lookup_insert]

/-- The generation that is counted next was neither registered nor counted before. -/
theorem Counted.fresh (counted : Counted d s phases trace) (room : counter d s + 1 < 2 ^ 64) :
    s.nextGeneration d ∉ registrations d trace ∧ ∀ task, phases task ≠ some (s.nextGeneration d) := by
  have next := nextGeneration_toNat room
  refine ⟨fun member => ?_, fun task holding => ?_⟩
  · have bound := counted.bound _ member
    omega
  · have bound := (counted.held task _ holding).1
    omega

/-- A task counts a generation for the device. -/
theorem Counted.bump (counted : Counted d s phases trace) (room : counter d s + 1 < 2 ^ 64) (task : Nat) :
    Counted d (s.countGeneration d) (Function.update phases task (some (s.nextGeneration d)))
      (trace ++ [(task, ⟨bumpGeneration d, s.nextGeneration d⟩)]) := by
  have same : registrations d (trace ++ [(task, ⟨bumpGeneration d, s.nextGeneration d⟩)]) = registrations d trace := by
    rw [registrations_append]
    exact List.append_nil _
  have count := counter_countGeneration room
  have next := nextGeneration_toNat room
  obtain ⟨unregistered, unheld⟩ := counted.fresh room
  refine ⟨fun generation member => ?_, fun holder generation holding => ?_, ?_, ?_, counted.token⟩
  · rw [same] at member
    have bound := counted.bound generation member
    omega
  · rw [same]
    by_cases here : holder = task
    · subst here
      obtain rfl : s.nextGeneration d = generation := by simpa using holding
      refine ⟨by omega, unregistered, fun other also => ?_⟩
      by_contra apart
      rw [Function.update_of_ne apart] at also
      exact unheld other also
    · rw [Function.update_of_ne here] at holding
      obtain ⟨bound, outside, only⟩ := counted.held holder generation holding
      refine ⟨by omega, outside, fun other also => ?_⟩
      by_cases there : other = task
      · subst there
        obtain rfl : s.nextGeneration d = generation := by simpa using also
        exact absurd holding (unheld holder)
      · rw [Function.update_of_ne there] at also
        exact only other also
  · rw [same]
    exact counted.distinct
  · rw [same]
    exact counted.slot

/-- A link of the device is registered, under a generation that was counted on the spot. -/
theorem Counted.register (counted : Counted d s phases trace) (room : counter d s + 1 < 2 ^ 64) (task : Nat)
    (peerCert : Option Bytes) (stream : BufReader) (old : Option Link) :
    Counted d ((s.countGeneration d).putLink d (s.nextGeneration d) peerCert stream) phases
      (trace ++ [(task, ⟨registerIncoming d peerCert stream, .ok (s.nextGeneration d, old)⟩)]) := by
  have added : registrations d (trace ++ [(task, ⟨registerIncoming d peerCert stream, .ok (s.nextGeneration d, old)⟩)]) =
      registrations d trace ++ [s.nextGeneration d] := by
    rw [registrations_append]
    simp [registered]
  have count : counter d ((s.countGeneration d).putLink d (s.nextGeneration d) peerCert stream) = counter d s + 1 :=
    counter_countGeneration room
  have next := nextGeneration_toNat room
  obtain ⟨unregistered, unheld⟩ := counted.fresh room
  refine ⟨fun generation member => ?_, fun holder generation holding => ?_, ?_, fun link found => ?_, fun _ => ?_⟩
  · rw [added, List.mem_append, List.mem_singleton] at member
    rcases member with before | rfl
    · have bound := counted.bound generation before
      omega
    · omega
  · obtain ⟨bound, outside, only⟩ := counted.held holder generation holding
    refine ⟨by omega, fun member => ?_, only⟩
    rw [added, List.mem_append, List.mem_singleton] at member
    rcases member with before | rfl
    · exact outside before
    · exact unheld holder holding
  · rw [added]
    exact counted.distinct.append (List.nodup_singleton _) (List.disjoint_singleton.mpr unregistered)
  · have here : link = ⟨s.nextLink, s.nextGeneration d, peerCert⟩ := by
      simpa [ManagerState.putLink, ManagerState.countGeneration, AList.lookup_insert, eq_comm] using found
    rw [added, List.getLast?_concat, here]
  · simp [ManagerState.putLink, AList.lookup_insert]

/-- A link of the device is registered, under the generation that its task counted before. -/
theorem Counted.insert (counted : Counted d s phases trace) {task : Nat} {generation : UInt64}
    (holding : phases task = some generation) (peerCert : Option Bytes) (stream : BufReader) :
    Counted d (s.putLink d generation peerCert stream) (Function.update phases task none)
      (trace ++ [(task, ⟨insertConnection d generation peerCert stream, ()⟩)]) := by
  have added : registrations d (trace ++ [(task, ⟨insertConnection d generation peerCert stream, ()⟩)]) =
      registrations d trace ++ [generation] := by
    rw [registrations_append]
    simp [registered]
  obtain ⟨bound, unregistered, only⟩ := counted.held task generation holding
  refine ⟨fun other member => ?_, fun holder other also => ?_, ?_, fun link found => ?_, fun _ => ?_⟩
  · rw [added, List.mem_append, List.mem_singleton] at member
    rcases member with before | rfl
    · exact counted.bound other before
    · exact bound
  · by_cases here : holder = task
    · subst here
      simp at also
    · rw [Function.update_of_ne here] at also
      obtain ⟨within, outside, alone⟩ := counted.held holder other also
      refine ⟨within, fun member => ?_, fun third another => ?_⟩
      · rw [added, List.mem_append, List.mem_singleton] at member
        rcases member with before | rfl
        · exact outside before
        · exact here (only holder also)
      · by_cases there : third = task
        · subst there
          simp at another
        · rw [Function.update_of_ne there] at another
          exact alone third another
  · rw [added]
    exact counted.distinct.append (List.nodup_singleton _) (List.disjoint_singleton.mpr unregistered)
  · have here : link = ⟨s.nextLink, generation, peerCert⟩ := by
      simpa [ManagerState.putLink, AList.lookup_insert, eq_comm] using found
    rw [added, List.getLast?_concat, here]
  · simp [ManagerState.putLink, AList.lookup_insert]

/-- The slot of the device is emptied, and its token is taken away with it. -/
theorem Counted.remove (counted : Counted d s phases trace) (entry : Nat × Σ action : ManagerAction, action.Answer)
    (nothing : registered d entry.2 = none) :
    Counted d { s with cancelTokens := s.cancelTokens.erase d, connections := s.connections.erase d } phases
      (trace ++ [entry]) := by
  have same : registrations d (trace ++ [entry]) = registrations d trace := by simp [registrations_append, nothing]
  refine ⟨?_, ?_, ?_, fun link found => ?_, fun present => ?_⟩
  · rw [same]
    exact counted.bound
  · rw [same]
    exact counted.held
  · rw [same]
    exact counted.distinct
  · rw [AList.lookup_erase] at found
    cases found
  · rw [AList.lookup_erase] at present
    cases present

/-- Whatever a task does in its turn, generations are counted up, unless it starts the count anew. -/
theorem Counted.exec {codec : JsonCodec} (counted : Counted d s phases trace) {task : Nat} {action : ManagerAction}
    {later : Option UInt64} (keeps : keepsCount d s action)
    (moved : move d (phases task) action (action.exec codec s).1 = some later) :
    Counted d (action.exec codec s).2 (Function.update phases task later)
      (trace ++ [(task, ⟨action, (action.exec codec s).1⟩)]) := by
  have still (same : later = phases task) : Function.update phases task later = phases := by
    rw [same, Function.update_eq_self]
  cases action with
  | bumpGeneration e =>
    by_cases here : e = d
    · subst here
      simp only [move, ↓reduceIte] at moved
      split at moved
      · cases moved
        exact counted.bump (keeps rfl) task
      · cases moved
    · rw [still (by simpa [move, here, eq_comm] using moved)]
      exact counted.quiet _ rfl (AList.lookup_insert_ne (Ne.symm here)) rfl counted.token
  | insertConnection e generation peerCert stream =>
    by_cases here : e = d
    · subst here
      simp only [move, ↓reduceIte] at moved
      split at moved
      · cases moved
        exact counted.insert ‹_› peerCert stream
      · cases moved
    · rw [still (by simpa [move, here, eq_comm] using moved)]
      exact counted.quiet _ (if_neg here) rfl (AList.lookup_insert_ne (Ne.symm here)) counted.token
  | registerIncoming e peerCert stream =>
    rw [still (by simpa [move, eq_comm] using moved)]
    simp only [ManagerAction.exec, ManagerState.registerIncoming]
    split
    · exact counted.quiet _ rfl rfl rfl counted.token
    · by_cases here : e = d
      · subst here
        exact counted.register (keeps rfl) task peerCert stream _
      · exact counted.quiet _ (if_neg here) (AList.lookup_insert_ne (Ne.symm here)) (AList.lookup_insert_ne (Ne.symm here))
          counted.token
  | retainGenerations connected =>
    rw [still (by simpa [move, eq_comm] using moved)]
    refine counted.quiet _ rfl ?_ rfl counted.token
    simp only [ManagerAction.exec, Table.lookup_retain]
    rcases keeps with inside | absent
    · cases s.generations.lookup d <;> simp [Option.filter, inside]
    · rw [absent]
      rfl
  | removeConnection e generation =>
    rw [still (by simpa [move, eq_comm] using moved)]
    simp only [ManagerAction.exec, ManagerState.removeConnection]
    split
    · exact counted.quiet _ rfl rfl rfl counted.token
    · by_cases here : e = d
      · subst here
        exact counted.remove _ rfl
      · refine counted.quiet _ rfl rfl (AList.lookup_erase_ne (Ne.symm here)) fun present => ?_
        rw [AList.lookup_erase_ne (Ne.symm here)] at present
        exact counted.token present
  | cancelLoop e =>
    rw [still (by simpa [move, eq_comm] using moved)]
    simp only [ManagerAction.exec]
    split <;> exact counted.quiet _ rfl rfl rfl counted.token
  | removeCancelToken e =>
    rw [still (by simpa [move, eq_comm] using moved)]
    refine counted.quiet _ rfl rfl rfl fun present => ?_
    simp only [ManagerAction.exec, Table.lookup_erase_of] at present
    split at present
    · cases present
    · exact counted.token present
  | registerCancelTokenIfCurrent e token generation =>
    rw [still (by simpa [move, eq_comm] using moved)]
    simp only [ManagerAction.exec]
    split
    · rename_i current
      refine counted.quiet _ rfl rfl rfl fun present => ?_
      simp only [Table.lookup_insert_of] at present
      split at present
      · rename_i here
        subst here
        simp only [ManagerState.isCurrent, Option.any_eq_true] at current
        obtain ⟨link, found, -⟩ := current
        rw [found]
        rfl
      · exact counted.token present
    · exact counted.quiet _ rfl rfl rfl counted.token
  | removeCancelTokenIfCurrent e generation =>
    rw [still (by simpa [move, eq_comm] using moved)]
    simp only [ManagerAction.exec]
    split
    · refine counted.quiet _ rfl rfl rfl fun present => ?_
      simp only [Table.lookup_erase_of] at present
      split at present
      · cases present
      · exact counted.token present
    · exact counted.quiet _ rfl rfl rfl counted.token
  | admitAttempt ip =>
    rw [still (by simpa [move, eq_comm] using moved)]
    simp only [ManagerAction.exec, ManagerState.admitAttempt]
    split <;> exact counted.quiet _ rfl rfl rfl counted.token
  | _ =>
    rw [still (by simpa [move, eq_comm] using moved)]
    exact counted.quiet _ rfl rfl rfl counted.token

section Tasks

variable (codec : JsonCodec) (platform : Platform)

/-- What the checks before a registration do. -/
def vets : ManagerAction → Prop
  | file _ | ownDeviceId | admitAttempt _ | sendReverseFallback _ => True
  | _ => False

theorem only_onFiles {α : Type} (program : FileProgram α) : (onFiles program).Only vets fun _ => True :=
  (only_trivial program).hoist fun _ _ => ⟨trivial, fun _ => trivial⟩

theorem only_checkCertificate (certificate : Option Bytes) :
    Only (checkCertificate platform d certificate).run vets fun _ => True := by
  cases certificate with
  | none =>
    refine (only_onFiles _).except_lift.except_bind fun present => ?_
    cases present <;> trivial
  | some certDer =>
    refine Only.except_bind ((only_except_ofExcept _ _).mpr trivial) fun cn => ?_
    by_cases same : cn = d
    · have verify : Only (onFilesExcept (CertificateManager.verifyPeerCertificate platform d certDer)).run vets fun _ => True :=
        only_onFiles _
      simpa [same] using verify
    · simp [same]

theorem only_tlsConnect (peer : InboundPeer) : Only (tlsConnect platform d peer).run vets fun _ => True := by
  refine Only.except_bind ((only_except_ofExcept _ _).mpr trivial) fun _ => ?_
  cases peer.handshake with
  | timesOut => trivial
  | fails message => trivial
  | completes =>
    cases peer.certificate with
    | none => trivial
    | some certDer =>
      have verify : Only (verifyServerCert platform d certDer).run vets fun _ => True := by
        refine (only_onFiles _).except_lift.except_bind fun present => ?_
        cases present with
        | false => trivial
        | true => exact only_onFiles _
      exact verify.adapt.except_bind fun _ => trivial

theorem only_checkIncoming (peer : InboundPeer) : Only (checkIncoming codec platform peer).run vets fun _ => True := by
  refine Only.except_bind ((only_except_ofExcept _ _).mpr trivial) fun _ => ?_
  refine Only.except_bind ((only_except_ofExcept _ _).mpr trivial) fun line => ?_
  refine Only.except_bind ((only_except_ofExcept _ _).mpr trivial) fun identity => ?_
  refine Only.except_bind ⟨trivial, fun _ => trivial⟩ fun ourId => ?_
  refine Only.except_bind ((only_except_ofExcept _ _).mpr trivial) fun _ => ?_
  refine (only_tlsConnect platform peer).except_bind fun peerCert => ?_
  exact (only_checkCertificate platform peerCert).except_bind fun _ => trivial

theorem only_checkOutgoing (peer : OutboundPeer) : Only (checkOutgoing codec platform peer).run vets fun _ => True := by
  have dialling : Only (dial peer).run vets fun _ => True :=
    (only_dial peer).weaken (fun action inside => by cases action <;> trivial) fun _ => id
  refine dialling.except_bind fun _ => ?_
  refine Only.except_bind ((only_except_ofExcept _ _).mpr trivial) fun exchanged => ?_
  exact (only_checkCertificate platform exchanged.1).except_bind fun _ => trivial

variable (d) in
/-- The action neither counts nor registers a generation that was counted before. -/
def still (action : ManagerAction) : Prop := ∀ held answer, move d held action answer = some held

variable (d) in
theorem still_of_vets {action : ManagerAction} (vetting : vets action) : still d action := by
  cases action <;> first | exact fun _ _ => rfl | exact vetting.elim

theorem follows_still {α : Type} {program : ManagerProgram α} (only : program.Only (still d) fun _ => True)
    (held : Option UInt64) : Follows (move d) held program fun later _ => later = held :=
  (only.follows fun _ inside answer => inside held answer).weaken fun _ _ same => same.1

theorem only_recordPeerCapabilities_still (e : DeviceId) (incoming outgoing : List String) :
    (recordPeerCapabilities e incoming outgoing).Only (still d) fun _ => True := by
  unfold recordPeerCapabilities
  split
  · trivial
  · exact ⟨fun _ _ => rfl, fun _ => trivial⟩

theorem only_stopReplaced_still (e : DeviceId) (old : Link) : (stopReplaced e old).Only (still d) fun _ => True :=
  ⟨fun _ _ => rfl, fun _ => ⟨fun _ _ => rfl, fun _ => ⟨fun _ _ => rfl, fun _ => trivial⟩⟩⟩

theorem only_registerInbound_still (identity : Identity) (peerCert : Option Bytes) (stream : BufReader) :
    Only (registerInbound identity peerCert stream).run (still d) fun _ => True := by
  refine (only_recordPeerCapabilities_still ..).except_lift.except_bind fun _ => ?_
  refine Only.except_bind ⟨fun _ _ => rfl, fun _ => trivial⟩ fun registration => ?_
  obtain ⟨generation, _ | old⟩ := registration
  · trivial
  · exact (only_stopReplaced_still ..).except_lift.except_bind fun _ => trivial

/-- An outbound registration counts a generation and registers its link under it. -/
theorem follows_registerOutbound (identity : Identity) (peerCert : Option Bytes) (stream : BufReader) :
    Follows (move d) none (registerOutbound identity peerCert stream) fun _ _ => True := by
  have prunes (held : Option UInt64) (generation : UInt64) : Follows (move d) held (do
      cleanupStaleGenerations
      return generation : ManagerProgram UInt64) fun _ _ => True :=
    fun _ => ⟨held, rfl, fun _ => ⟨held, rfl, trivial⟩⟩
  have inserts (generation : UInt64) (held : Option UInt64)
      (own : identity.deviceId = d → held = some generation) : Follows (move d) held (do
      perform (insertConnection identity.deviceId generation peerCert stream)
      cleanupStaleGenerations
      return generation : ManagerProgram UInt64) fun _ _ => True := by
    intro _
    by_cases here : identity.deviceId = d
    · exact ⟨none, by simp [move, here, own here], prunes none generation⟩
    · exact ⟨held, by simp [move, here], prunes held generation⟩
  unfold registerOutbound
  rw [follows_bind]
  refine (follows_still (only_recordPeerCapabilities_still ..) none).weaken fun held _ same => ?_
  subst same
  intro generation
  have counts : ∃ held, move d none (bumpGeneration identity.deviceId) generation = some held ∧
      (identity.deviceId = d → held = some generation) := by
    by_cases here : identity.deviceId = d
    · exact ⟨some generation, by simp [move, here], fun _ => rfl⟩
    · exact ⟨none, by simp [move, here], fun same => absurd same here⟩
  obtain ⟨held, moved, own⟩ := counts
  refine ⟨held, moved, fun found => ⟨held, rfl, ?_⟩⟩
  cases found with
  | none => exact inserts generation held own
  | some old =>
    refine (follows_bind _ _ _).mpr ((follows_still (only_stopReplaced_still ..) held).weaken fun later _ same => ?_)
    subst same
    exact inserts generation later own

theorem follows_op (op : ManagerOp) : Follows (move d) none (op.program codec platform) fun _ _ => True := by
  have quiet {program : ManagerProgram Unit} (only : program.Only (still d) fun _ => True) :
      Follows (move d) none program fun _ _ => True :=
    (follows_still only none).weaken fun _ _ _ => trivial
  cases op with
  | attempts made =>
    cases made with
    | inbound peer =>
      refine quiet ((only_attempt _ _).mpr ?_)
      have check := (only_checkIncoming codec platform peer).weaken (fun _ => still_of_vets d) fun _ => id
      exact check.except_bind fun passed => (only_registerInbound_still ..).except_bind fun _ => trivial
    | outbound peer =>
      have check := (only_checkOutgoing codec platform peer).weaken (fun _ => still_of_vets d) fun _ => id
      refine (follows_map _ _ _).mpr ((follows_except_bind _ _ _).mpr ((follows_still check none).weaken ?_))
      rintro held (e | passed) rfl
      · trivial
      · refine (follows_except_bind _ _ _).mpr ((follows_except_lift _ _).mpr ?_)
        exact (follows_registerOutbound ..).weaken fun _ _ _ => trivial
  | disconnect e generation =>
    refine quiet ⟨fun _ _ => rfl, fun found => ?_⟩
    rcases found with _ | _ | link
    · trivial
    · trivial
    · exact ⟨fun _ _ => rfl, fun _ => trivial⟩
  | recvPacketCurrent e generation =>
    refine quiet ((only_attempt _ _).mpr (Only.except_bind ⟨fun _ _ => rfl, fun _ => trivial⟩ fun found => ?_))
    cases found with
    | none => trivial
    | some link =>
      dsimp only
      split
      · trivial
      · exact ⟨fun _ _ => rfl, fun _ => trivial⟩
  | startLoop e generation => exact quiet ⟨fun _ _ => rfl, fun _ => ⟨fun _ _ => rfl, fun _ => trivial⟩⟩
  | removeCancelTokenIfCurrent e generation => exact quiet ⟨fun _ _ => rfl, fun _ => trivial⟩
  | cleanupStaleGenerations => exact quiet ⟨fun _ _ => rfl, fun _ => ⟨fun _ _ => rfl, fun _ => trivial⟩⟩

end Tasks

/-- Nothing that is done under the generation touches the device's link or its
token: not a disconnect, not a read, and not the start or the end of a packet loop. -/
structure Harmless (codec : JsonCodec) (d : DeviceId) (generation : UInt64) (s : ManagerState) : Prop where
  disconnect : (run (ManagerAction.exec codec) (ConnectionManager.disconnect d generation) s).2.connections.lookup d =
      s.connections.lookup d ∧
    (run (ManagerAction.exec codec) (ConnectionManager.disconnect d generation) s).2.cancelTokens.lookup d =
      s.cancelTokens.lookup d
  recv : ∃ e, run (ManagerAction.exec codec) (ConnectionManager.recvPacketCurrent d generation).run s = (.error e, s)
  registerToken : ∀ token, (registerCancelTokenIfCurrent d token generation).exec codec s = (false, s)
  removeToken : (ManagerAction.removeCancelTokenIfCurrent d generation).exec codec s = (false, s)

theorem harmless_of_stale {codec : JsonCodec} {generation : UInt64}
    (stale : ∀ link, s.connections.lookup d = some link → link.generation ≠ generation)
    (token : (s.cancelTokens.lookup d).isSome → (s.connections.lookup d).isSome) : Harmless codec d generation s := by
  have passed : s.isCurrent d generation = false := by
    unfold ManagerState.isCurrent
    cases found : s.connections.lookup d with
    | none => rfl
    | some link => simpa using stale link found
  refine ⟨?_, ?_, fun token => ?_, ?_⟩
  · unfold ConnectionManager.disconnect
    cases found : s.connections.lookup d with
    | none =>
      have untold : s.cancelTokens.lookup d = none := by
        cases present : s.cancelTokens.lookup d with
        | none => rfl
        | some held =>
          have inside := token (by rw [present]; rfl)
          rw [found] at inside
          cases inside
      simp [ManagerAction.exec, ManagerState.removeConnection, found, untold]
    | some link =>
      have other := stale link found
      simp [ManagerAction.exec, ManagerState.removeConnection, found, other]
  · unfold ConnectionManager.recvPacketCurrent
    cases found : s.connections.lookup d with
    | none => exact ⟨_, by simp [ManagerAction.exec, found]; rfl⟩
    | some link =>
      have other := stale link found
      exact ⟨_, by simp [ManagerAction.exec, found, other]; rfl⟩
  · simp [ManagerAction.exec, passed]
  · simp [ManagerAction.exec, passed]

theorem Counted.harmless {codec : JsonCodec} (counted : Counted d s phases trace) {i : Nat} {generation : UInt64}
    (here : (registrations d trace)[i]? = some generation)
    (gone : i + 1 < (registrations d trace).length ∨ s.connections.lookup d = none) : Harmless codec d generation s := by
  refine harmless_of_stale (fun link found same => ?_) counted.token
  rcases gone with earlier | empty
  · have last := counted.slot link found
    rw [List.getLast?_eq_getElem?, same] at last
    have position := (List.getElem?_inj (by omega) counted.distinct).mp (here.trans last.symm)
    omega
  · rw [found] at empty
    cases empty

variable (codec : JsonCodec) (platform : Platform)

/-- The manager as it starts, with no links. -/
def fresh (files : Files) (deviceId : DeviceId) (now : Time) : ManagerState := { files, deviceId, now }

/-- The tasks after the first `k` turns. -/
def atTurn (files : Files) (own : DeviceId) (now : Time) (turns : List (Turn ManagerOp)) (k : Nat) :
    Pool ManagerAction ManagerAction.Answer ManagerState :=
  Pool.after (ManagerAction.exec codec) (ManagerOp.program codec platform) (fresh files own now) turns k

/-- Where the count of a device is kept going, no two of its links have the
same generation, in whatever order the tasks take their turns; and what is
done under the generation of a link that is replaced or removed does no harm
to a later one. -/
theorem generations_fresh (d : DeviceId) (files : Files) (own : DeviceId) (now : Time) (turns : List (Turn ManagerOp))
    (counting : ∀ k turn, turns[k]? = some turn → Counting d (atTurn codec platform files own now turns k) turn) (k : Nat) :
    (registrations d (atTurn codec platform files own now turns k).trace).Nodup ∧
      ∀ (i : Nat) (generation : UInt64),
        (registrations d (atTurn codec platform files own now turns k).trace)[i]? = some generation →
        i + 1 < (registrations d (atTurn codec platform files own now turns k).trace).length ∨
          (atTurn codec platform files own now turns k).shared.connections.lookup d = none →
        Harmless codec d generation (atTurn codec platform files own now turns k).shared := by
  have invariant : Pool.Invariant (move d) none (fun _ => True) (ManagerAction.exec codec) (ManagerOp.program codec platform) (Counting d)
      (Counted d) :=
    ⟨follows_op codec platform, fun _ _ _ action _ counted next allowed moved => counted.exec (allowed action next) moved⟩
  have first : Counted d (fresh files own now) (fun _ => none) [] :=
    ⟨by simp [registrations], by simp, by simp [registrations], by simp [fresh], by simp [fresh]⟩
  obtain ⟨phases, -, counted⟩ := invariant.run first counting k
  exact ⟨counted.distinct, fun i generation here gone => counted.harmless here gone⟩

section Sample

open RefusedAttempts

/-- The phone connects. -/
def phoneOp : ManagerOp := .attempts (.inbound (impostor ⟨.v4 192 168 1 66, "192.168.1.66", "192.168.1.66:1716"⟩))

/-- What is left of the operation once the identity is read. -/
def phoneArrives : ManagerProgram Unit := attempt (do
  let ourId ← perform ownDeviceId
  checkTarget ourId phoneIdentity
  let peerCert ← tlsConnect phonePlatform phoneIdentity.deviceId
    (impostor ⟨.v4 192 168 1 66, "192.168.1.66", "192.168.1.66:1716"⟩)
  checkCertificate phonePlatform phoneIdentity.deviceId peerCert
  let generation ← registerInbound phoneIdentity peerCert (.new [])
  return (phoneIdentity.deviceId, phoneIdentity, generation) : ExceptT Error ManagerProgram _)

theorem program_phoneOp : phoneOp.program phoneCodec phonePlatform = phoneArrives :=
  congrArg attempt (acceptIncoming_eq (by decide +kernel) (impostor_read _) phone_parsed)

def shortProgram : ManagerOp → ManagerProgram Unit
  | .attempts _ => phoneArrives
  | other => other.program phoneCodec phonePlatform

theorem program_short {turns : List (Turn ManagerOp)} (phones : ∀ made, .spawn (.attempts made) ∈ turns → .attempts made = phoneOp)
    (op : ManagerOp) (spawned : .spawn op ∈ turns) : op.program phoneCodec phonePlatform = shortProgram op := by
  cases op with
  | attempts made =>
    rw [phones made spawned]
    exact program_phoneOp
  | _ => rfl

/-- The turn keeps the count of the phone going. -/
def keepsPhone (pool : Pool ManagerAction ManagerAction.Answer ManagerState) : Turn ManagerOp → Bool
  | .spawn _ => true
  | .take task =>
    match pool.next task with
    | some (retainGenerations connected) => decide (phoneId ∈ connected)
    | _ => decide (counter phoneId pool.shared + 1 < 2 ^ 64)

theorem counting_of_keeps {pool : Pool ManagerAction ManagerAction.Answer ManagerState} {turn : Turn ManagerOp}
    (keeps : keepsPhone pool turn = true) : Counting phoneId pool turn := by
  cases turn with
  | spawn op => trivial
  | take task =>
    intro action next
    rw [keepsPhone, next] at keeps
    cases action with
    | retainGenerations connected => exact .inl (of_decide_eq_true keeps)
    | bumpGeneration e => exact fun _ => of_decide_eq_true keeps
    | registerIncoming e peerCert stream => exact fun _ => of_decide_eq_true keeps
    | _ => trivial

/-- The phone connects. -/
def phoneComes : List (Turn ManagerOp) := .spawn phoneOp :: List.replicate 8 (.take 0)

/-- The phone connects again while it has a link, the counters are cleaned up,
and it is disconnected and connects once more. -/
def phoneStays : List (Turn ManagerOp) :=
  phoneComes ++ (.spawn phoneOp :: List.replicate 11 (.take 1) : List (Turn ManagerOp)) ++
  (.spawn .cleanupStaleGenerations :: List.replicate 2 (.take 2) : List (Turn ManagerOp)) ++
  (.spawn (.disconnect phoneId 2) :: List.replicate 2 (.take 3) : List (Turn ManagerOp)) ++
  (.spawn phoneOp :: List.replicate 8 (.take 4) : List (Turn ManagerOp))

theorem phone_counted :
    registrations phoneId (atTurn phoneCodec phonePlatform ∅ "" 0 phoneStays 36).trace = [1, 2, 3] ∧
      (registrations phoneId (atTurn phoneCodec phonePlatform ∅ "" 0 phoneStays 36).trace).Nodup ∧
      Harmless phoneCodec phoneId 2 (atTurn phoneCodec phonePlatform ∅ "" 0 phoneStays 36).shared := by
  have short : ∀ k, atTurn phoneCodec phonePlatform ∅ "" 0 phoneStays k =
      Pool.after (ManagerAction.exec phoneCodec) shortProgram (fresh ∅ "" 0) phoneStays k :=
    Pool.after_congr (program_short (by simp [phoneStays, phoneComes, phoneOp]))
  have passes : Pool.along (ManagerAction.exec phoneCodec) shortProgram keepsPhone
      (fun pool => registrations phoneId pool.trace = [1, 2, 3]) (Pool.start (fresh ∅ "" 0)) phoneStays = true := by
    decide +kernel
  obtain ⟨keeps, final⟩ := Pool.along_after passes
  have three : registrations phoneId (atTurn phoneCodec phonePlatform ∅ "" 0 phoneStays 36).trace = [1, 2, 3] := by
    rw [short]
    exact of_decide_eq_true final
  obtain ⟨distinct, harmless⟩ := generations_fresh phoneCodec phonePlatform phoneId ∅ "" 0 phoneStays
    (fun k turn here => by rw [short]; exact counting_of_keeps (keeps k turn here)) 36
  exact ⟨three, distinct, harmless 1 2 (by rw [three]; rfl) (.inl (by rw [three]; decide))⟩

/-- The phone connects and is disconnected, and connects again after a cleanup. -/
def phoneReturns : List (Turn ManagerOp) :=
  phoneComes ++ (.spawn (.disconnect phoneId 1) :: List.replicate 2 (.take 1) : List (Turn ManagerOp)) ++
  (.spawn .cleanupStaleGenerations :: List.replicate 2 (.take 2) : List (Turn ManagerOp)) ++
  (.spawn phoneOp :: List.replicate 8 (.take 3) : List (Turn ManagerOp))

theorem generation_given_twice :
    registrations phoneId (atTurn phoneCodec phonePlatform ∅ "" 0 phoneReturns 24).trace = [1, 1] := by
  unfold atTurn
  rw [Pool.after_congr (program_short (by simp [phoneReturns, phoneComes, phoneOp]))]
  decide +kernel

end Sample

end LinkGenerations

end RustConnect
