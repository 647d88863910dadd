import RustConnect.PairingRuns

namespace RustConnect

open Program PairingAction PairingState

namespace PairingHandler

variable (platform : Platform) (settings : PairingSettings)

/-- The state in which `receive_pair_request_with_cert` comes to look for requests. -/
def admissionState (d : DeviceId) (s : PairingState) : PairingState :=
  if (s.paired.lookup d).isSome then (run exec (unpair platform settings d).run s).2.sweep else s.sweep

theorem run_receivePairRequest {d : DeviceId} {s : PairingState} (other : s.ownDeviceId ≠ some d)
    (stamp : Option Int) (certDer : Option Bytes) :
    run exec (receivePairRequestWithCert platform settings d stamp certDer).run s =
      run exec (admitPairRequest platform settings d stamp certDer).run (admissionState platform settings d s) := by
  by_cases paired : (s.paired.lookup d).isSome <;>
    simp [receivePairRequestWithCert, admissionState, other, paired, run_cleanupExpired]

theorem unpair_keeps_requests (d : DeviceId) (s : PairingState) :
    (run exec (unpair platform settings d).run s).2.outgoing = s.outgoing ∧
      (run exec (unpair platform settings d).run s).2.now = s.now := by
  refine (only_unpair platform settings d).invariant
    (I := fun t : PairingState => t.outgoing = s.outgoing ∧ t.now = s.now)
    (fun action t within same => ?_) ⟨rfl, rfl⟩
  cases action <;> first | exact same | exact within.elim

theorem admissionState_outgoing (d : DeviceId) (s : PairingState) :
    (admissionState platform settings d s).outgoing = s.live .outgoing := by
  obtain ⟨requests, clock⟩ := unpair_keeps_requests platform settings d s
  unfold admissionState
  split
  · simp only [sweep, live, queue, requests, clock]
  · rfl

/-- The state in which `receive_pair_request_with_cert` calls `accept_pairing`. -/
def stagedState (d : DeviceId) (certDer : Option Bytes) (s : PairingState) : PairingState :=
  match certDer with
  | some certDer => { s with pendingCerts := s.pendingCerts.insert d certDer }
  | none => s

/-- Where our own request is out, an incoming one is the call of `accept_pairing`. -/
theorem run_admit_auto {d : DeviceId} {stamp : Option Int} {certDer : Option Bytes} {s : PairingState}
    (present : (s.outgoing.lookup d).isSome) :
    run exec (admitPairRequest platform settings d stamp certDer).run s =
      run exec (acceptPairing platform settings d).run (stagedState d certDer s) := by
  cases certDer <;> simp [admitPairRequest, stagedState, exec, queue, present]

variable {platform settings}

/-- What an incoming request does beyond unpairing and sweeping, it does when it comes to look for requests. -/
theorem mem_receive {d : DeviceId} {stamp : Option Int} {certDer : Option Bytes} {s : PairingState}
    {action : PairingAction}
    (member : action ∈ actions exec (receivePairRequestWithCert platform settings d stamp certDer).run s)
    (noUnpair : ¬action.unpairs d) (noSweep : ¬action.sweeps) :
    s.ownDeviceId ≠ some d ∧ action ∈
      actions exec (admitPairRequest platform settings d stamp certDer).run (admissionState platform settings d s) := by
  have unpairing (t : PairingState) : action ∉ actions exec (unpair platform settings d).run t :=
    fun member => noUnpair ((only_unpair platform settings d).of_mem_actions member)
  have sweeping (t : PairingState) : action ∉ actions exec cleanupExpired t :=
    fun member => noSweep (only_cleanupExpired.of_mem_actions member)
  have noOwn : action ≠ .ownDeviceId := fun same => noSweep (same ▸ trivial)
  have noContains : action ≠ pairedContains d := fun same => noSweep (same ▸ trivial)
  by_cases own : s.ownDeviceId = some d
  · simp [receivePairRequestWithCert, isOwnDeviceId, exec, own, noOwn] at member
  · by_cases paired : (s.paired.lookup d).isSome <;>
      simp [receivePairRequestWithCert, isOwnDeviceId, isPaired, exec, own, paired, run_cleanupExpired, unpairing,
        sweeping, noOwn, noContains] at member <;>
      simpa [admissionState, own, paired] using member

/-- What admission does beyond recording the request, it does in the call of `accept_pairing`. -/
theorem mem_admit {d : DeviceId} {stamp : Option Int} {certDer : Option Bytes} {s : PairingState}
    {action : PairingAction}
    (member : action ∈ actions exec (admitPairRequest platform settings d stamp certDer).run s)
    (noSweep : ¬action.sweeps) (noStage : ∀ certDer, action ≠ certInsert d certDer)
    (noRequest : ∀ request, action ≠ requestInsert .incoming d request) :
    (s.outgoing.lookup d).isSome ∧
      action ∈ actions exec (acceptPairing platform settings d).run (stagedState d certDer s) := by
  have noGet (q : Queue) : action ≠ requestGet q d := fun same => noSweep (same ▸ trivial)
  have noLen (q : Queue) : action ≠ requestLen q := fun same => noSweep (same ▸ trivial)
  have noNow : action ≠ .now := fun same => noSweep (same ▸ trivial)
  cases outgoing : s.outgoing.lookup d with
  | some request =>
    refine ⟨rfl, ?_⟩
    cases certDer <;>
      simpa [admitPairRequest, setPendingPeerCert, stagedState, exec, queue, outgoing, noGet, noStage] using member
  | none =>
    cases certDer <;>
      simp [admitPairRequest, setPendingPeerCert, exec, queue, outgoing, noGet, noLen, noNow, noStage, noRequest] at member

end PairingHandler

end RustConnect
