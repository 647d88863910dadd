import RustConnect.Base.History
import RustConnect.PairingReceive
import RustConnect.PairingCalls

namespace RustConnect

open Program PairingAction PairingHandler

/-- The device has a request in both maps. -/
def PairingState.Doubled (s : PairingState) (d : DeviceId) : Prop :=
  (s.outgoing.lookup d).isSome ∧ (s.incoming.lookup d).isSome

/-- Nothing is pending for the device. -/
structure PairingState.Cleared (s : PairingState) (d : DeviceId) : Prop where
  outgoing : s.outgoing.lookup d = none
  incoming : s.incoming.lookup d = none
  pendingCerts : s.pendingCerts.lookup d = none

namespace PairingHandler

variable {platform : Platform} {settings : PairingSettings} {d : DeviceId}

variable (platform d) in
theorem run_settleAnchor (refusal : String) (pendingCert : Option Bytes) (s : PairingState) :
    ∃ files, (run exec (settleAnchor platform refusal d pendingCert).run s).2 = { s with files } := by
  cases pendingCert with
  | some certDer => exact ⟨_, by simp only [settleAnchor, ExceptT.run_mk, run_onFiles]; rfl⟩
  | none =>
    unfold settleAnchor PairingHandler.hasPeerFingerprint
    rw [run_except_bind, run_except_lift, run_onFiles]
    cases (run FileAction.exec (CertificateManager.hasPeerFingerprint platform d) s.files).1 with
    | false => exact ⟨_, rfl⟩
    | true => exact ⟨_, rfl⟩

variable (platform settings) in
/-- Completing a pairing takes the staged certificate; the device is paired when it succeeds. -/
theorem run_completePairing (refusal : String) (s : PairingState) :
    ∃ result files, run exec (completePairing platform settings refusal d).run s =
      (result, { s with
        pendingCerts := s.pendingCerts.erase d
        paired := if result.isOk then s.paired.insert d s.now else s.paired
        files }) := by
  obtain ⟨files, settled⟩ := run_settleAnchor platform d refusal (s.pendingCerts.lookup d)
    { s with pendingCerts := s.pendingCerts.erase d }
  have taken : run exec (perform (certRemove d)) s =
    (s.pendingCerts.lookup d, { s with pendingCerts := s.pendingCerts.erase d }) := rfl
  unfold completePairing
  rw [run_except_bind, run_except_lift, taken]
  dsimp only
  rw [run_except_bind]
  rcases ran : run exec (settleAnchor platform refusal d (s.pendingCerts.lookup d)).run
    { s with pendingCerts := s.pendingCerts.erase d } with ⟨e | ⟨⟩, t⟩
  · rw [ran] at settled
    exact ⟨.error e, files, by rw [show t = _ from settled]; rfl⟩
  · rw [ran] at settled
    refine ⟨.ok (), PairingState.savedFiles settings (s.paired.insert d s.now) files, ?_⟩
    rw [show t = _ from settled]
    simp [recordPairing, exec, Except.isOk, Except.toBool]

/-- What an accept of the device has done to the maps: the outgoing request is
gone, the incoming one only where there was no outgoing one, and success
leaves the device paired and no certificate staged. -/
structure Took (d : DeviceId) (s t : PairingState) (result : Except Error Unit) : Prop where
  outgoing : t.outgoing = s.outgoing.erase d
  incoming : t.incoming = if (s.outgoing.lookup d).isSome then s.incoming else s.incoming.erase d
  paired : t.paired = if result.isOk then s.paired.insert d s.now else s.paired
  pendingCerts : result.isOk → t.pendingCerts.lookup d = none

variable (d) in
theorem run_removePendingRequest_took (s : PairingState) :
    Took d s (run exec (removePendingRequest d).run s).2 (.error (.pairingTimeout d)) := by
  rw [run_removePendingRequest]
  cases outgoing : s.outgoing.lookup d with
  | some request =>
    dsimp only
    split <;> exact ⟨rfl, by simp [outgoing], rfl, nofun⟩
  | none =>
    have untouched := Table.erase_of_absent outgoing
    cases incoming : s.incoming.lookup d with
    | some request =>
      dsimp only
      split <;> exact ⟨untouched.symm, by simp [outgoing], rfl, nofun⟩
    | none => exact ⟨untouched.symm, by simp [outgoing, Table.erase_of_absent incoming], rfl, nofun⟩

theorem Took.complete {s t : PairingState} {e : Error} (took : Took d s t (.error e)) (clock : t.now = s.now)
    (refusal : String) :
    Took d s (run exec (completePairing platform settings refusal d).run t).2
      (run exec (completePairing platform settings refusal d).run t).1 := by
  obtain ⟨result, files, ran⟩ := run_completePairing platform settings refusal t
  rw [ran]
  refine ⟨took.outgoing, took.incoming, ?_, fun _ => AList.lookup_erase d _⟩
  have same : t.paired = s.paired := took.paired
  simp only [same, clock]

variable (d) in
theorem removePendingRequest_now (s : PairingState) : (run exec (removePendingRequest d).run s).2.now = s.now := by
  rw [run_removePendingRequest]
  repeat' split
  all_goals rfl

variable (platform settings d) in
theorem run_acceptPairing (s : PairingState) :
    Took d s (run exec (acceptPairing platform settings d).run s).2 (run exec (acceptPairing platform settings d).run s).1 := by
  have took := run_removePendingRequest_took d s
  have clock := removePendingRequest_now d s
  unfold acceptPairing
  rw [run_except_bind]
  rcases ran : run exec (removePendingRequest d).run s with ⟨e | hadRequest, t⟩
  · rw [ran] at took
    exact ⟨took.outgoing, took.incoming, took.paired, nofun⟩
  · rw [ran] at took clock
    cases hadRequest with
    | false => exact ⟨took.outgoing, took.incoming, took.paired, nofun⟩
    | true => exact took.complete clock _

variable (platform settings) in
theorem run_forceAcceptPairing {s : PairingState} (other : s.ownDeviceId ≠ some d) :
    Took d s (run exec (forceAcceptPairing platform settings d).run s).2
      (run exec (forceAcceptPairing platform settings d).run s).1 := by
  have took := run_removePendingRequest_took d s
  have clock := removePendingRequest_now d s
  unfold forceAcceptPairing
  simp only [run_except_bind, run_except_lift, run_isOwnDeviceId, run_attempt, beq_iff_eq, other, ↓reduceIte]
  exact took.complete clock _

theorem Took.cleared_iff {s t : PairingState} {result : Except Error Unit} (took : Took d s t result) (done : result = .ok ()) :
    t.Cleared d ↔ ¬s.Doubled d := by
  have outgoing : t.outgoing.lookup d = none := by rw [took.outgoing, AList.lookup_erase]
  have certs : t.pendingCerts.lookup d = none := took.pendingCerts (by rw [done]; rfl)
  have incoming : t.incoming.lookup d = none ↔ ¬s.Doubled d := by
    rw [took.incoming]
    by_cases present : (s.outgoing.lookup d).isSome
    · simp [PairingState.Doubled, present]
    · simp [PairingState.Doubled, present]
  exact ⟨fun cleared => incoming.mp cleared.incoming, fun single => ⟨outgoing, incoming.mpr single, certs⟩⟩

theorem run_rejectPairing (s : PairingState) : (run exec (rejectPairing d).run s).2.Cleared d := by
  have ran : (run exec (rejectPairing d).run s).2 =
      { s with
        pendingCerts := s.pendingCerts.erase d
        outgoing := s.outgoing.erase d
        incoming := s.incoming.erase d } := by
    unfold rejectPairing
    simp only [run_except_bind, run_except_lift]
    split <;> rfl
  rw [ran]
  exact ⟨AList.lookup_erase d _, AList.lookup_erase d _, AList.lookup_erase d _⟩

/-- Only an insertion for the device itself puts a request of it into a map. -/
theorem request_kept {q : Queue} {action : PairingAction} (other : ∀ request, action ≠ requestInsert q d request)
    (s : PairingState) :
    ((action.exec s).2.queue q).lookup d = none ∨ ((action.exec s).2.queue q).lookup d = (s.queue q).lookup d := by
  cases action with
  | requestInsert q' e request =>
    by_cases same : q' = q
    · subst same
      have apart : d ≠ e := fun same => other request (same ▸ rfl)
      cases q' <;> simp [exec, PairingState.setQueue, PairingState.queue, apart]
    · cases q <;> cases q' <;> first | exact absurd rfl same | exact .inr rfl
  | requestRemove q' e =>
    by_cases same : q' = q
    · subst same
      have removed : ((exec (requestRemove q' e) s).2.queue q').lookup d = if d = e then none else (s.queue q').lookup d := by
        cases q' <;> exact Table.lookup_erase_of d e _
      rw [removed]
      split <;> simp
    · cases q <;> cases q' <;> first | exact absurd rfl same | exact .inr rfl
  | requestRetain q' =>
    by_cases same : q' = q
    · subst same
      have kept : ((exec (requestRetain q') s).2.queue q').lookup d = ((s.queue q').lookup d).filter (!·.expiredAt s.now) := by
        cases q' <;> exact Table.lookup_retain (fun _ (request : PairingRequest) => !request.expiredAt s.now) d _
      rw [kept]
      cases (s.queue q').lookup d with
      | none => exact .inl rfl
      | some request =>
        rw [Option.filter_some]
        split <;> simp
    · cases q <;> cases q' <;> first | exact absurd rfl same | exact .inr rfl
  | _ => exact .inr (by cases q <;> rfl)

variable (settings d) in
/-- `initiate_pairing` fails without a request, or leaves a new one that runs from now. -/
theorem run_initiatePairing (s : PairingState) :
    (∃ e, (run exec (initiatePairing settings d).run s).1 = .error e ∧
      ((run exec (initiatePairing settings d).run s).2 = s ∨ (run exec (initiatePairing settings d).run s).2 = s.sweep)) ∨
    s.ownDeviceId ≠ some d ∧ s.paired.lookup d = none ∧ run exec (initiatePairing settings d).run s =
      (.ok (timestamp s.now),
        { s.sweep with outgoing := s.sweep.outgoing.insert d ⟨d, s.now, settings.timeout, timestamp s.now⟩ }) := by
  by_cases own : s.ownDeviceId = some d
  · exact .inl ⟨_, by simp [initiatePairing, own]; rfl, .inl (by simp [initiatePairing, own])⟩
  · obtain ⟨removed, swept⟩ : ∃ removed, run exec cleanupExpired s = (removed, s.sweep) :=
      ⟨_, Prod.ext rfl (run_cleanupExpired s)⟩
    have paired : s.sweep.paired = s.paired := rfl
    cases found : s.paired.lookup d with
    | some since =>
      have ran : run exec (initiatePairing settings d).run s =
          (.error (.deviceAlreadyExists s!"Device {d} is already paired"), s.sweep) := by
        simp [initiatePairing, own, swept, paired, found]
      exact .inl ⟨_, by rw [ran], .inr (by rw [ran])⟩
    | none =>
      by_cases full : s.sweep.outgoing.len + s.sweep.incoming.len ≥ settings.maxPending
      · have ran : run exec (initiatePairing settings d).run s =
            (.error (.pairingRejected s!"Too many pending pairing requests (max {settings.maxPending})"), s.sweep) := by
          simp [initiatePairing, own, swept, paired, found, exec, PairingState.queue, full]
        exact .inl ⟨_, by rw [ran], .inr (by rw [ran])⟩
      · refine .inr ⟨own, rfl, ?_⟩
        simp [initiatePairing, own, swept, paired, found, exec, PairingState.queue, PairingState.setQueue, full]
        exact ⟨rfl, rfl⟩

variable (platform settings) in
/-- A request that meets none of ours is recorded, unless one is there already. -/
theorem run_admit_quiet (stamp : Option Int) (certDer : Option Bytes) {s : PairingState}
    (absent : s.outgoing.lookup d = none) :
    ∃ result incoming pendingCerts, run exec (admitPairRequest platform settings d stamp certDer).run s =
        (result, { s with incoming, pendingCerts }) ∧
      (incoming = s.incoming ∨ s.incoming.lookup d = none ∧
        incoming = s.incoming.insert d ⟨d, s.now, settings.acceptTimeout, stamp.getD 0⟩) := by
  cases found : s.incoming.lookup d with
  | some request =>
    refine ⟨.ok (), s.incoming, s.pendingCerts, ?_, .inl rfl⟩
    simp [admitPairRequest, exec, PairingState.queue, absent, found]
  | none =>
    by_cases full : s.outgoing.len + s.incoming.len ≥ settings.maxPending
    · refine ⟨.error (.pairingRejected s!"Too many pending pairing requests (max {settings.maxPending})"), s.incoming,
        s.pendingCerts, ?_, .inl rfl⟩
      simp [admitPairRequest, exec, PairingState.queue, absent, found, full]
    · cases certDer with
      | none =>
        refine ⟨.ok (), _, s.pendingCerts, ?_, .inr ⟨rfl, rfl⟩⟩
        simp [admitPairRequest, exec, PairingState.queue, PairingState.setQueue, absent, found, full]
      | some certDer =>
        refine ⟨.ok (), _, s.pendingCerts.insert d certDer, ?_, .inr ⟨rfl, rfl⟩⟩
        simp [admitPairRequest, exec, PairingState.queue, PairingState.setQueue, absent, found, full]

variable (platform settings d) in
/-- Unpairing takes the device out of `paired` and leaves the incoming requests and the clock alone. -/
theorem run_unpair (s : PairingState) :
    (run exec (unpair platform settings d).run s).2.paired.lookup d = none ∧
      (run exec (unpair platform settings d).run s).2.incoming = s.incoming ∧
      (run exec (unpair platform settings d).run s).2.now = s.now := by
  have kept : (run exec (unpair platform settings d).run s).2.incoming = s.incoming ∧
      (run exec (unpair platform settings d).run s).2.now = s.now := by
    refine (only_unpair platform settings d).invariant (I := fun t : PairingState => t.incoming = s.incoming ∧ t.now = s.now)
      (fun action t within same => ?_) ⟨rfl, rfl⟩
    cases action <;> first | exact same | exact within.elim
  refine ⟨?_, kept⟩
  cases found : s.paired.lookup d with
  | none =>
    have ran : (run exec (unpair platform settings d).run s).2 =
        { s with pendingCerts := s.pendingCerts.erase d, paired := s.paired.erase d } := by
      simp [unpair, exec, found]
    rw [ran, AList.lookup_erase]
  | some since =>
    have ran : (run exec (unpair platform settings d).run s).2 = (run exec (forgetDevice platform settings d)
        { s with pendingCerts := s.pendingCerts.erase d, paired := s.paired.erase d }).2 := by
      simp [unpair, exec, found]
    rw [ran]
    refine (only_forgetDevice platform settings d).invariant (I := fun t : PairingState => t.paired.lookup d = none)
      (fun action t within absent => ?_) (AList.lookup_erase d _)
    exact paired_absent_kept (by rintro rfl; exact within) absent

variable (platform settings d) in
/-- Where an incoming request comes to look for requests, its device is not paired and expired requests are gone. -/
theorem admissionState_view (s : PairingState) :
    (admissionState platform settings d s).paired.lookup d = none ∧
      (admissionState platform settings d s).incoming = s.live .incoming ∧
      (admissionState platform settings d s).now = s.now := by
  obtain ⟨unpaired, incoming, clock⟩ := run_unpair platform settings d s
  unfold admissionState
  cases found : s.paired.lookup d with
  | none => exact ⟨found, rfl, rfl⟩
  | some since => exact ⟨unpaired, by simp [PairingState.sweep, PairingState.live, PairingState.queue, incoming, clock], clock⟩

theorem stagedState_outgoing (certDer : Option Bytes) (s : PairingState) : (stagedState d certDer s).outgoing = s.outgoing := by
  cases certDer <;> rfl

theorem stagedState_incoming (certDer : Option Bytes) (s : PairingState) : (stagedState d certDer s).incoming = s.incoming := by
  cases certDer <;> rfl

end PairingHandler

/-- A device that is paired has no request pending. -/
def PairingState.Settled (s : PairingState) (d : DeviceId) : Prop :=
  (s.paired.lookup d).isSome → s.outgoing.lookup d = none ∧ s.incoming.lookup d = none

namespace PairingAction

/-- The action neither pairs the device nor records a request of it. -/
def unrelated (d : DeviceId) (action : PairingAction) : Prop :=
  action ≠ pairedInsert d ∧ ∀ q request, action ≠ requestInsert q d request

theorem settled_kept {d : DeviceId} {action : PairingAction} (other : action.unrelated d) {s : PairingState}
    (settled : s.Settled d) : (action.exec s).2.Settled d := by
  intro paired
  have before : (s.paired.lookup d).isSome := by
    cases absent : s.paired.lookup d with
    | some since => rfl
    | none =>
      rw [PairingHandler.paired_absent_kept other.1 absent] at paired
      exact paired
  obtain ⟨outgoing, incoming⟩ := settled before
  refine ⟨?_, ?_⟩
  · rcases PairingHandler.request_kept (q := .outgoing) (other.2 _) s with gone | same
    · exact gone
    · exact same.trans outgoing
  · rcases PairingHandler.request_kept (q := .incoming) (other.2 _) s with gone | same
    · exact gone
    · exact same.trans incoming

theorem unrelated_of {d : DeviceId} {action : PairingAction} {P : PairingAction → Prop} (inside : P action)
    (noPairing : ¬P (pairedInsert d)) (noRequest : ∀ q request, ¬P (requestInsert q d request)) : action.unrelated d :=
  ⟨fun same => noPairing (same ▸ inside), fun q request same => noRequest q request (same ▸ inside)⟩

end PairingAction

namespace PairingOp

variable (platform : Platform) (settings : PairingSettings)

/-- The operation does not accept the device out of two requests. -/
def Single (s : PairingState) : PairingOp → Prop
  | asks (.acceptPairing d) | asks (.forceAcceptPairing d) => ¬s.Doubled d
  | receive d _ _ => ¬((s.live .outgoing).lookup d).isSome ∨ ¬((s.live .incoming).lookup d).isSome
  | _ => True

/-- What the operation leaves behind, before time goes on. -/
def leaves (op : PairingOp) (s : PairingState) : PairingState := (run exec (op.program platform settings).run s).2

variable {platform settings} {s : PairingState} {d : DeviceId}

theorem settled_of_only {op : PairingOp} {P : PairingAction → Prop}
    (only : Only (op.program platform settings).run P fun _ => True) (noPairing : ¬P (pairedInsert d))
    (noRequest : ∀ q request, ¬P (requestInsert q d request)) (settled : s.Settled d) :
    (op.leaves platform settings s).Settled d :=
  only.invariant (I := fun t : PairingState => t.Settled d) (fun _ _ inside => settled_kept (unrelated_of inside noPairing noRequest)) settled

theorem settled_took {t : PairingState} {result : Except Error Unit} (took : Took d s t result)
    (single : ¬s.Doubled d) : t.Settled d := by
  intro _
  have outgoing : t.outgoing.lookup d = none := by rw [took.outgoing, AList.lookup_erase]
  refine ⟨outgoing, ?_⟩
  rw [took.incoming]
  by_cases present : (s.outgoing.lookup d).isSome
  · rw [if_pos present]
    simpa [PairingState.Doubled, present] using single
  · rw [if_neg present, AList.lookup_erase]

theorem settled_receive {stamp : Option Int} {certDer : Option Bytes} (settled : s.Settled d)
    (single : (receive d stamp certDer).Single s) : ((receive d stamp certDer).leaves platform settings s).Settled d := by
  obtain ⟨unpaired, incoming, clock⟩ := admissionState_view platform settings d s
  have outgoing := admissionState_outgoing platform settings d s
  unfold leaves program
  by_cases own : s.ownDeviceId = some d
  · simpa [receivePairRequestWithCert, own] using settled
  · rw [run_receivePairRequest platform settings own]
    cases found : (admissionState platform settings d s).outgoing.lookup d with
    | some request =>
      rw [run_admit_auto platform settings (by rw [found]; rfl)]
      refine settled_took (run_acceptPairing platform settings d _) ?_
      rintro ⟨first, second⟩
      rw [stagedState_outgoing, outgoing] at first
      rw [stagedState_incoming, incoming] at second
      exact single.elim (absurd first) (absurd second)
    | none =>
      obtain ⟨result, requests, certs, ran, -⟩ := run_admit_quiet platform settings stamp certDer found
      rw [ran]
      intro paired
      rw [unpaired] at paired
      cases paired

variable (platform settings s d) in
theorem leaves_initiate :
    (asks (.initiatePairing d)).leaves platform settings s = (run exec (initiatePairing settings d).run s).2 := by
  unfold leaves program LocalCall.program
  rw [run_except_bind]
  rcases run exec (initiatePairing settings d).run s with ⟨e | stamp, t⟩ <;> rfl

theorem settled_initiate (settled : s.Settled d) : ((asks (.initiatePairing d)).leaves platform settings s).Settled d := by
  have swept : s.sweep.Settled d := by
    have kept := only_cleanupExpired.invariant (I := fun t : PairingState => t.Settled d) (s := s)
      (fun _ _ inside => settled_kept (unrelated_of inside id fun _ _ => id)) settled
    rwa [run_cleanupExpired] at kept
  rw [leaves_initiate]
  rcases run_initiatePairing settings d s with ⟨e, -, same | same⟩ | ⟨-, unpaired, done⟩
  · rwa [same]
  · rwa [same]
  · rw [done]
    intro paired
    have absent : s.sweep.paired.lookup d = none := unpaired
    rw [absent] at paired
    cases paired

/-- An operation for another device leaves the requests and the pairing of this one alone. -/
theorem settled_call {call : LocalCall} (settled : s.Settled d) (single : (asks call).Single s) :
    ((asks call).leaves platform settings s).Settled d := by
  have other (noPairing : ¬call.footprint (pairedInsert d))
      (noRequest : ∀ q request, ¬call.footprint (requestInsert q d request)) :
      ((asks call).leaves platform settings s).Settled d :=
    settled_of_only (call.only_footprint platform settings) noPairing noRequest settled
  cases call with
  | initiatePairing e =>
    by_cases same : e = d
    · subst same
      exact settled_initiate settled
    · exact other id fun _ _ inside => same inside.2.symm
  | setPendingPeerCert e certDer => exact other nofun nofun
  | acceptPairing e =>
    by_cases same : e = d
    · subst same
      exact settled_took (run_acceptPairing platform settings e s) single
    · exact other (fun inside => same inside.symm) fun _ _ => id
  | forceAcceptPairing e =>
    by_cases same : e = d
    · subst same
      by_cases own : s.ownDeviceId = some e
      · have ran : (asks (.forceAcceptPairing e)).leaves platform settings s = s := by
          simp [leaves, program, LocalCall.program, forceAcceptPairing, own]
        rwa [ran]
      · exact settled_took (run_forceAcceptPairing platform settings own) single
    · exact other (fun inside => same inside.symm) fun _ _ => id
  | rejectPairing e => exact other id fun _ _ => id
  | unpair e => exact other id fun _ _ => id
  | cleanupExpired => exact other id fun _ _ => id

theorem settled_step {op : PairingOp} {journal : Journal} (settled : journal.state.Settled d)
    (single : op.Single journal.state) : (op.step platform settings journal).state.Settled d := by
  show (op.leaves platform settings journal.state).Settled d
  cases op with
  | asks call => exact settled_call settled single
  | receive e stamp certDer =>
    by_cases same : e = d
    · subst same
      exact settled_receive settled single
    · refine settled_of_only (only_receivePairRequest platform settings e stamp certDer) ?_ (fun q request => ?_) settled
      · rintro (inside | inside | inside)
        · exact inside
        · exact inside
        · exact same inside.symm
      · rintro (inside | inside | inside)
        · exact inside
        · exact inside
        · exact same inside.2.symm
  | advance duration => exact settled

end PairingOp

namespace PendingHistory

open History PairingOp

variable (platform : Platform) (settings : PairingSettings)

/-- The handler as it starts over the saved pairings, with nothing requested or staged. -/
def restarted (own : Option DeviceId) (paired : Table DeviceId Time) (files : Files) (now : Time) : PairingState :=
  { ownDeviceId := own, paired := paired, files := files, now := now }

variable (start : PairingState) (ops : List PairingOp)

/-- The state after the first `k` operations. -/
def atOp (k : Nat) : PairingState := (stateAt (PairingOp.step platform settings) ⟨[], start⟩ ops k).state

variable {platform settings start ops}

theorem settled_throughout (quiet : start.outgoing = ∅ ∧ start.incoming = ∅)
    (single : ∀ (k : Nat) (op : PairingOp), ops[k]? = some op → op.Single (atOp platform settings start ops k)) (k : Nat) (d : DeviceId) :
    (atOp platform settings start ops k).Settled d := by
  induction k with
  | zero =>
    intro _
    simp [atOp, quiet]
  | succ k ih =>
    unfold atOp at ih ⊢
    cases here : ops[k]? with
    | none => rwa [stateAt_past_end here]
    | some op =>
      rw [stateAt_succ here]
      exact PairingOp.settled_step ih (single k op here)

theorem unpaired_state {s : PairingState} {d : DeviceId} (settled : s.Settled d) (paired : (s.paired.lookup d).isSome) :
    (run exec (unpair platform settings d).run s).2.pairStateOf d = .notPaired := by
  obtain ⟨unpaired, incoming, -⟩ := run_unpair platform settings d s
  obtain ⟨outgoing, -⟩ := unpair_keeps_requests platform settings d s
  obtain ⟨noOutgoing, noIncoming⟩ := settled paired
  simp [PairingState.pairStateOf, unpaired, outgoing, incoming, noOutgoing, noIncoming]

/-- A completed accept clears what was pending exactly when the device had no
request in both maps, and a completed reject always does. Where no accept
finds two requests, no paired device ever has one, and an unpair leaves it
`NotPaired`. -/
theorem completion_clears_iff (platform : Platform) (settings : PairingSettings) :
    (∀ s d, (asks (.acceptPairing d)).result platform settings s = .ok () →
      (((asks (.acceptPairing d)).leaves platform settings s).Cleared d ↔ ¬s.Doubled d)) ∧
    (∀ s d, (asks (.forceAcceptPairing d)).result platform settings s = .ok () →
      (((asks (.forceAcceptPairing d)).leaves platform settings s).Cleared d ↔ ¬s.Doubled d)) ∧
    (∀ s d, ((asks (.rejectPairing d)).leaves platform settings s).Cleared d) ∧
    ∀ (own : Option DeviceId) (paired : Table DeviceId Time) (files : Files) (now : Time) (ops : List PairingOp),
      (∀ (k : Nat) (op : PairingOp), ops[k]? = some op → op.Single (atOp platform settings (restarted own paired files now) ops k)) →
      ∀ k d, ((atOp platform settings (restarted own paired files now) ops k).paired.lookup d).isSome →
        (atOp platform settings (restarted own paired files now) ops k).outgoing.lookup d = none ∧
        (atOp platform settings (restarted own paired files now) ops k).incoming.lookup d = none ∧
        ((asks (.unpair d)).leaves platform settings
          (atOp platform settings (restarted own paired files now) ops k)).pairStateOf d = .notPaired := by
  refine ⟨fun s d done => (run_acceptPairing platform settings d s).cleared_iff done, fun s d done => ?_,
    fun s d => run_rejectPairing s, fun own paired files now ops single k d member => ?_⟩
  · have other : s.ownDeviceId ≠ some d := by
      intro own
      have refused : ∃ e, (asks (.forceAcceptPairing d)).result platform settings s = .error e :=
        ⟨_, by simp [result, program, LocalCall.program, forceAcceptPairing, own]; rfl⟩
      obtain ⟨e, failed⟩ := refused
      rw [done] at failed
      cases failed
    exact (run_forceAcceptPairing platform settings other).cleared_iff done
  · have settled := settled_throughout ⟨rfl, rfl⟩ single k d
    obtain ⟨outgoing, incoming⟩ := settled member
    exact ⟨outgoing, incoming, unpaired_state settled member⟩

/-- A phone asks to pair and the user accepts. -/
theorem accept_clears_single :
    ¬(atOp samplePlatform {} (restarted none ∅ ∅ 0) [receive samplePhone (some 5) (some [0x30, 0x00])] 1).Doubled samplePhone ∧
      ((asks (.acceptPairing samplePhone)).leaves samplePlatform {}
        (atOp samplePlatform {} (restarted none ∅ ∅ 0) [receive samplePhone (some 5) (some [0x30, 0x00])] 1)).Cleared
          samplePhone := by
  have single : ¬(atOp samplePlatform {} (restarted none ∅ ∅ 0)
      [receive samplePhone (some 5) (some [0x30, 0x00])] 1).Doubled samplePhone := by
    unfold PairingState.Doubled
    decide +kernel
  exact ⟨single, ((completion_clears_iff samplePlatform {}).1 _ _ (by decide +kernel)).mpr single⟩

/-- A phone asks to pair, the user asks it back, and then accepts. -/
def crossedOps : List PairingOp :=
  [.receive samplePhone (some 5) (some [0x30, 0x00]), .asks (.initiatePairing samplePhone), .asks (.acceptPairing samplePhone)]

theorem accept_leaves_request :
    (asks (.acceptPairing samplePhone)).result samplePlatform {} (atOp samplePlatform {} (restarted none ∅ ∅ 0) crossedOps 2) =
        .ok () ∧
      ¬(atOp samplePlatform {} (restarted none ∅ ∅ 0) crossedOps 3).Cleared samplePhone ∧
      ((asks (.unpair samplePhone)).leaves samplePlatform {}
        (atOp samplePlatform {} (restarted none ∅ ∅ 0) crossedOps 3)).pairStateOf samplePhone = .requestedByPeer := by
  refine ⟨by decide +kernel, fun cleared => ?_, by decide +kernel⟩
  have left : ((atOp samplePlatform {} (restarted none ∅ ∅ 0) crossedOps 3).incoming.lookup samplePhone).isSome = true := by
    decide +kernel
  rw [cleared.incoming] at left
  cases left

end PendingHistory

end RustConnect
