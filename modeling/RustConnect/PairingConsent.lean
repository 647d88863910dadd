import RustConnect.Base.History
import RustConnect.PacketLoop
import RustConnect.PairingCalls
import RustConnect.PairingReceive

namespace RustConnect

open Program PairingAction PairingState

namespace PairingHandler

variable (platform : Platform) (settings : PairingSettings)

theorem accepts_no_request {d e : DeviceId} {action : PairingAction} (within : action.accepts d) (request : PairingRequest) :
    action ≠ requestInsert .outgoing e request := by
  rintro rfl
  exact within

theorem receives_no_request {d e : DeviceId} {action : PairingAction} (within : action.receives d)
    (request : PairingRequest) : action ≠ requestInsert .outgoing e request := by
  rintro rfl
  rcases within with unpairing | sweeping | admitting
  · exact unpairing
  · exact sweeping
  · exact absurd admitting.1 (by decide)

/-- An accept leaves no outgoing request behind, whether or not it succeeds. -/
theorem outgoing_after_accept (d : DeviceId) (s : PairingState) :
    (run exec (acceptPairing platform settings d).run s).2.outgoing.lookup d = none := by
  have taken : (run exec (removePendingRequest d).run s).2.outgoing.lookup d = none := by
    rw [run_removePendingRequest]
    cases outgoing : s.outgoing.lookup d with
    | some request => simp only []; split <;> exact AList.lookup_erase ..
    | none =>
      cases incoming : s.incoming.lookup d with
      | some request => simp only []; split <;> exact outgoing
      | none => exact outgoing
  have complete := (only_completePairing platform settings "Refusing pairing with" d).weaken
    (fun _ within => accepts_no_request (e := d) within) fun _ _ => trivial
  simp only [acceptPairing, run_except_bind]
  rcases removed : run exec (removePendingRequest d).run s with ⟨result, s'⟩
  rw [removed] at taken
  cases result with
  | error e => exact taken
  | ok hadRequest =>
    cases hadRequest with
    | false => simpa using taken
    | true => simpa using outgoing_absent_kept complete taken

theorem admit_pairs {d e : DeviceId} {stamp : Option Int} {certDer : Option Bytes} {s : PairingState}
    (inserts : pairedInsert e ∈ actions exec (admitPairRequest platform settings d stamp certDer).run s) :
    (s.outgoing.lookup d).isSome ∧
      (run exec (admitPairRequest platform settings d stamp certDer).run s).2.outgoing.lookup d = none := by
  obtain ⟨present, -⟩ := mem_admit inserts id nofun nofun
  rw [run_admit_auto platform settings present]
  exact ⟨present, outgoing_after_accept platform settings d _⟩

/-- Inside an incoming request a device is paired only when our own live
request to it is there to be met, and that request is used up. -/
theorem receive_pairs {d e : DeviceId} {stamp : Option Int} {certDer : Option Bytes} {s : PairingState}
    (inserts : pairedInsert e ∈ actions exec (receivePairRequestWithCert platform settings d stamp certDer).run s) :
    ∃ request, s.outgoing.lookup d = some request ∧ request.expiredAt s.now = false ∧
      (run exec (receivePairRequestWithCert platform settings d stamp certDer).run s).2.outgoing.lookup d = none := by
  obtain ⟨other, admitted⟩ := mem_receive inserts id id
  obtain ⟨present, used⟩ := admit_pairs platform settings admitted
  rw [admissionState_outgoing, live, Table.lookup_retain] at present
  obtain ⟨request, kept⟩ := Option.isSome_iff_exists.mp present
  obtain ⟨found, alive⟩ := Option.filter_eq_some_iff.mp kept
  rw [run_receivePairRequest platform settings other]
  exact ⟨request, found, by simpa using alive, used⟩

end PairingHandler

namespace PacketLoop

variable (platform : Platform) (settings : PairingSettings) (link : LinkAnswers)

theorem receives_pairs_only {d e : DeviceId} (within : (pairedInsert e).receives d) : e = d := by
  rcases within with other | other | same
  · exact other.elim
  · exact other.elim
  · exact same

theorem outgoing_absent_kept {α : Type} {d : DeviceId} {program : LoopProgram α}
    (only : program.Only (within (receives d)) fun _ => True) {s : PairingState} (absent : s.outgoing.lookup d = none) :
    (run (LoopAction.exec link) program s).2.outgoing.lookup d = none := by
  refine only.invariant (I := fun s : PairingState => s.outgoing.lookup d = none) (fun action s inside absent => ?_) absent
  cases action with
  | pairing action =>
    rcases PairingHandler.outgoing_kept (PairingHandler.receives_no_request inside) s with gone | same
    · exact gone
    · exact same.trans absent
  | _ => exact absent

theorem outgoing_after_peerAccepted (d : DeviceId) (s : PairingState) :
    (run (LoopAction.exec link) (peerAccepted platform settings d) s).2.outgoing.lookup d = none := by
  have accepted (s : PairingState) := outgoing_absent_kept link
    (only_afterAccept d (run exec (PairingHandler.acceptPairing platform settings d).run s).1)
    (PairingHandler.outgoing_after_accept platform settings d s)
  cases cert : link.peerCertificate with
  | none => simpa [peerAccepted, LoopAction.exec, cert] using accepted s
  | some certDer => simpa [peerAccepted, LoopAction.exec, cert] using accepted _

theorem timestampAdmitted_keeps (d : DeviceId) (pairTs : Option Int) (s : PairingState) :
    (run (LoopAction.exec link) (timestampAdmitted d pairTs) s).2 = s := by
  refine (only_timestampAdmitted d pairTs).invariant (I := (· = s)) (fun action t inside same => ?_) rfl
  cases action with
  | pairing action => exact (PairingHandler.looks_exec inside t).trans same
  | _ => exact same

/-- A request from the peer pairs it only when it meets our own live request, which it uses up. -/
theorem peerRequested_pairs {d e : DeviceId} {pairTs : Option Int} {s : PairingState}
    (inserts : .pairing (pairedInsert e) ∈
      actions (LoopAction.exec link) (peerRequested platform settings d pairTs) s) :
    ∃ request, s.outgoing.lookup d = some request ∧ request.expiredAt s.now = false ∧
      (run (LoopAction.exec link) (peerRequested platform settings d pairTs) s).2.outgoing.lookup d = none := by
  have looking : .pairing (pairedInsert e) ∉ actions (LoopAction.exec link) (timestampAdmitted d pairTs) s :=
    fun member => (only_timestampAdmitted d pairTs).of_mem_actions member
  have finishing (result : Except Error Unit) (t : PairingState) :
      .pairing (pairedInsert e) ∉ actions (LoopAction.exec link) (afterRequest platform settings d result) t :=
    fun member => (only_afterRequest platform settings d result).of_mem_actions member
  have kept := timestampAdmitted_keeps link d pairTs s
  cases fresh : (run (LoopAction.exec link) (timestampAdmitted d pairTs) s).1 with
  | false => simp [peerRequested, looking, fresh] at inserts
  | true =>
    simp [peerRequested, looking, fresh, kept, finishing, LoopAction.exec] at inserts
    obtain ⟨request, found, alive, used⟩ := PairingHandler.receive_pairs platform settings inserts
    refine ⟨request, found, alive, ?_⟩
    have after := outgoing_absent_kept link ((only_afterRequest platform settings d
      (run exec (PairingHandler.receivePairRequestWithCert platform settings d pairTs link.peerCertificate).run s).1).weaken
        (within_mono fun _ => unpairs_receives) fun _ _ => trivial) used
    simpa [peerRequested, fresh, kept, LoopAction.exec] using after

/-- A pair packet pairs a device only as the answer to our own live request, which it uses up. -/
theorem packet_pairs {d e : DeviceId} {generation : UInt64} {packet : Packet} {s : PairingState}
    (inserts : .pairing (pairedInsert e) ∈
      actions (LoopAction.exec link) (handlePairPacket platform settings d generation packet) s) :
    e = d ∧ pairDecision packet = some true ∧
      ∃ request, s.outgoing.lookup d = some request ∧ request.expiredAt s.now = false ∧
        (run (LoopAction.exec link) (handlePairPacket platform settings d generation packet) s).2.outgoing.lookup d =
          none := by
  refine ⟨receives_pairs_only ((only_handlePairPacket platform settings d generation packet).of_mem_actions inserts), ?_⟩
  have looking : pairedInsert e ∉ actions exec (PairingHandler.pairState d) s :=
    fun member => (PairingHandler.only_pairState d).of_mem_actions member
  cases decision : pairDecision packet with
  | none => simp [handlePairPacket, decision] at inserts
  | some accepted =>
    cases accepted with
    | false =>
      simp only [handlePairPacket, decision, Bool.false_eq_true, ↓reduceIte, actions_bind, actions_onPairing, run_onPairing,
        PairingHandler.run_pairState, List.mem_append, List.mem_map] at inserts
      rcases inserts with ⟨action, member, same⟩ | member
      · exact absurd (LoopAction.pairing.inj same ▸ member) looking
      · rcases (only_peerRejected platform settings d generation _).of_mem_actions member with other | other <;>
          exact other.elim
    | true =>
      refine ⟨rfl, ?_⟩
      by_cases requested : s.pairStateOf d = .requested
      · obtain ⟨request, found, alive⟩ := PairingHandler.requested_live requested
        refine ⟨request, found, alive, ?_⟩
        simpa [handlePairPacket, decision, PairingHandler.run_pairState, requested] using
          outgoing_after_peerAccepted platform settings link d s
      · simp [handlePairPacket, decision, looking, PairingHandler.run_pairState, requested] at inserts
        simpa [handlePairPacket, decision, PairingHandler.run_pairState, requested] using
          peerRequested_pairs platform settings link inserts

end PacketLoop

end RustConnect
