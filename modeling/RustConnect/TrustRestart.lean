import RustConnect.TrustCrash

namespace RustConnect

open Program PairingAction CertificateManager

namespace TrustCrash

variable {platform : Platform} {past : List PairingAction} {s t : PairingState} {action : PairingAction} {d : DeviceId}

section Sync

variable (settings : PairingSettings)

/-- The program leaves the list in step with the pairings, if it found it so. -/
def KeepsSync {α : Type} (program : PairingProgram α) : Prop := ∀ s, Synced s → Synced (run exec program s).2

/-- An action that neither pairs a device nor touches the list. -/
def listless (action : PairingAction) : Prop :=
  ∀ s, (action.exec s).2.files.lookup pairedPath = s.files.lookup pairedPath ∧
    ∀ d, ((action.exec s).2.paired.lookup d).isSome → (s.paired.lookup d).isSome

theorem listless_of_steady (still : steady action) : listless action :=
  fun s => ⟨steady_list still s, quiet_paired (steady_quiet still) s⟩

theorem keepsSync_of_only {α : Type} {P : PairingAction → Prop} {program : PairingProgram α}
    (only : program.Only P fun _ => True) (inside : ∀ action, P action → listless action) : KeepsSync program := by
  intro s synced
  refine only.invariant (fun action t within synced d member => ?_) synced
  obtain ⟨list, paired⟩ := inside action within t
  obtain ⟨devices, found, listed⟩ := synced d (paired d member)
  exact ⟨devices, list.trans found, listed⟩

theorem KeepsSync.bind {α β : Type} {program : PairingProgram α} {f : α → PairingProgram β} (first : KeepsSync program)
    (rest : ∀ value, KeepsSync (f value)) : KeepsSync (program >>= f) := by
  intro s synced
  rw [run_bind]
  exact rest _ _ (first s synced)

theorem KeepsSync.except_bind {α β : Type} {program : ExceptT Error PairingProgram α}
    {f : α → ExceptT Error PairingProgram β} (first : KeepsSync program.run) (rest : ∀ value, KeepsSync (f value).run) :
    KeepsSync (program >>= f).run := by
  rw [ExceptT.run_bind]
  refine first.bind fun result => ?_
  cases result with
  | ok value => exact rest value
  | error e => exact fun _ synced => synced

theorem KeepsSync.lift {α : Type} {program : PairingProgram α} (keeps : KeepsSync program) :
    KeepsSync (liftM program : ExceptT Error PairingProgram α).run :=
  keeps.bind fun _ _ synced => synced

theorem keepsSync_perform (action : PairingAction) (still : steady action) :
    KeepsSync (PairingHandler.perform action) :=
  keepsSync_of_only (P := steady) ⟨still, fun _ => trivial⟩ fun _ => listless_of_steady

theorem listless_of_stores {certDer : Bytes} {write : FileAction} (storing : stores platform d certDer write) :
    listless (file write) := by
  cases write with
  | write path content =>
    have apart : pairedPath ≠ path := by
      rintro rfl
      rcases storing with same | ⟨same, -⟩ <;> cases same
    exact fun s => ⟨AList.lookup_insert_ne apart, fun _ => id⟩
  | remove path => exact storing.elim
  | rename source target => exact storing.elim
  | _ => exact fun s => ⟨rfl, fun _ => id⟩

theorem keepsSync_settleAnchor (refusal : String) (d : DeviceId) (pendingCert : Option Bytes) :
    KeepsSync (PairingHandler.settleAnchor platform refusal d pendingCert).run := by
  cases pendingCert with
  | none =>
    refine keepsSync_of_only (P := looks) ?_ fun _ inside => listless_of_steady (steady_of_looks inside)
    simpa [PairingHandler.settleAnchor] using
      PairingHandler.only_hasPeerFingerprint platform d (P := looks) fun _ => trivial
  | some certDer =>
    exact keepsSync_of_only (P := listless) (PairingHandler.only_onFiles
      (PairingHandler.only_storePeerCertificate platform d certDer) fun _ => listless_of_stores) fun _ => id

variable {settings} (persistent : settings.persistent = true)

include persistent

theorem synced_saveToDisk (s : PairingState) : Synced (run exec (PairingHandler.saveToDisk settings) s).2 := by
  intro d paired
  rw [PairingHandler.run_saveToDisk] at paired ⊢
  exact ⟨s.paired, saved_list persistent _ _, paired⟩

theorem keepsSync_recordPairing (d : DeviceId) : KeepsSync (PairingHandler.recordPairing settings d) := by
  intro s _
  simp only [PairingHandler.recordPairing, run_bind]
  exact synced_saveToDisk persistent _

theorem keepsSync_forgetDevice (d : DeviceId) : KeepsSync (PairingHandler.forgetDevice platform settings d) := by
  intro s _
  simp only [PairingHandler.forgetDevice, run_bind]
  exact synced_saveToDisk persistent _

theorem keepsSync_completePairing (refusal : String) (d : DeviceId) :
    KeepsSync (PairingHandler.completePairing platform settings refusal d).run :=
  .except_bind (keepsSync_perform (certRemove d) trivial).lift fun pendingCert =>
    .except_bind (keepsSync_settleAnchor refusal d pendingCert) fun _ => (keepsSync_recordPairing persistent d).lift

theorem syncRules : CallRules platform settings fun _ program => KeepsSync program where
  pure _ := fun _ synced => synced
  bind := KeepsSync.bind
  steadily only := keepsSync_of_only only fun _ => listless_of_steady
  complete := keepsSync_completePairing persistent

theorem keepsSync_unpair (d : DeviceId) : KeepsSync (PairingHandler.unpair platform settings d).run := by
  refine .except_bind (keepsSync_perform (certRemove d) trivial).lift fun _ => ?_
  refine .except_bind (keepsSync_perform (pairedRemove d) trivial).lift fun found => ?_
  cases found with
  | true => exact (keepsSync_forgetDevice persistent d).lift
  | false => exact fun _ synced => synced

theorem keepsSync_op (op : PairingOp) : KeepsSync (op.program platform settings).run := by
  cases op with
  | receive d stamp certDer =>
    exact (syncRules persistent).receivePairRequest stamp certDer (keepsSync_unpair persistent d)
  | advance duration => exact fun _ synced => synced
  | asks asked => exact (syncRules persistent).call fun d _ => keepsSync_unpair persistent d

end Sync

section Restart

open History

variable (platform) (settings : PairingSettings)

/-- Wherever an operation is cut off, the listed devices are covered exactly when no fingerprint is exposed. -/
theorem passes_op {settings : PairingSettings} (persistent : settings.persistent = true) (op : PairingOp)
    (sound : Sound platform s) (synced : Synced s) :
    Passes exec (Covered platform) (Calm platform) [] (op.program platform settings).run s := by
  have calm : Calm platform [] s := ⟨sound, fun ⟨_, before, _, split, _⟩ => by simp at split⟩
  have rules : AcceptRules platform settings _ (Calm platform) := Calm.rules persistent
  have weaker (past : List PairingAction) (t : PairingState) (calm : Calm platform past t) : Covered platform past t :=
    calm.covered
  cases op with
  | receive d stamp certDer =>
    exact rules.passes_receivePairRequest stamp certDer weaker (fun _ calm => passes_unpair persistent calm synced) calm
  | advance duration => exact (Keeps.pure _).passes weaker calm
  | asks asked =>
    by_cases unpairing : ∃ d, asked = .unpair d
    · obtain ⟨d, rfl⟩ := unpairing
      exact passes_unpair persistent calm synced
    · exact (rules.calls.call fun d same => absurd ⟨d, same⟩ unpairing).passes weaker calm

theorem step_sound {settings : PairingSettings} (persistent : settings.persistent = true) {journal : Journal}
    (op : PairingOp) (before : Sound platform journal.state ∧ Synced journal.state) :
    Sound platform (op.step platform settings journal).state ∧ Synced (op.step platform settings journal).state := by
  obtain ⟨pins, anchored, covered⟩ := (passes_op platform persistent op before.1 before.2).2.1
  exact ⟨⟨pins, anchored, covered⟩, keepsSync_op persistent op _ before.2⟩

theorem atOp_sound {settings : PairingSettings} (persistent : settings.persistent = true) (own : Option DeviceId)
    (now : Time) (ops : List PairingOp) (k : Nat) :
    Sound platform (TrustHistory.atOp platform settings own now ops k).state ∧
      Synced (TrustHistory.atOp platform settings own now ops k).state := by
  refine invariant (I := fun journal : Journal => Sound platform journal.state ∧ Synced journal.state) ?_
    (fun op _ journal before => step_sound platform persistent op before) k
  exact ⟨⟨by simp, by simp, fun d ⟨devices, found, _⟩ => by simp at found⟩, by simp [Synced]⟩

/-- After a restart over the files, every paired device has a stored
fingerprint, and no certificate with another one is accepted for it. -/
def StillTrusted (files : Files) : Prop :=
  ∀ d, ((restart settings files).paired.lookup d).isSome →
    (run FileAction.exec (hasPeerFingerprint platform d) files).1 = true ∧
      ∃ pinned, ∀ certDer, (run FileAction.exec (verifyPeerCertificate platform d certDer).run files).1 = .ok () ↔
        computeFingerprint platform certDer = computeFingerprint platform pinned

theorem stillTrusted_iff {settings : PairingSettings} (persistent : settings.persistent = true)
    (covered : Covered platform past s) : StillTrusted platform settings s.files ↔ ¬Exposed past := by
  rw [← covered.complete]
  refine forall_congr' fun d => ?_
  rw [restart_paired persistent]
  refine imp_congr_right fun listed => ⟨fun trusted => run_hasPeerFingerprint_iff.mp trusted.1, fun anchor => ?_⟩
  refine ⟨run_hasPeerFingerprint_iff.mpr anchor, ?_⟩
  obtain ⟨content, found⟩ := Option.isSome_iff_exists.mp anchor.2
  obtain ⟨pinned, rfl⟩ := covered.pins d content found
  exact ⟨pinned, fun certDer => run_verifyPeerCertificate anchor.1 certDer found⟩

/-- The files as a crash leaves them that comes after all of `ops` and the first `n` actions of `op`. -/
def crashFiles (own : Option DeviceId) (now : Time) (ops : List PairingOp) (op : PairingOp) (n : Nat) : Files :=
  (stateAfter exec n (op.program platform settings).run (TrustHistory.atOp platform settings own now ops ops.length).state).files

/-- Trust survives a crash wherever it comes, unless it comes after an
operation has removed a fingerprint and before it has replaced the saved list. -/
theorem trust_survives_crash_iff (own : Option DeviceId) (now : Time) (ops : List PairingOp) (op : PairingOp) (n : Nat) :
    StillTrusted platform settings (crashFiles platform settings own now ops op n) ↔
      ¬(settings.persistent = true ∧ Exposed ((op.performed platform settings
        (TrustHistory.atOp platform settings own now ops ops.length).state).take n)) := by
  by_cases persistent : settings.persistent = true
  · obtain ⟨sound, synced⟩ := atOp_sound platform persistent own now ops ops.length
    have cut := throughout_iff_stateAfter.mp (passes_op platform persistent op sound synced).1 n
    rw [crashFiles, stillTrusted_iff platform persistent cut]
    simp [persistent, PairingOp.performed]
  · have volatile : settings.persistent = false := by simpa using persistent
    refine iff_of_true (fun d paired => ?_) fun exposed => persistent exposed.1
    rw [restart_volatile volatile] at paired
    simp at paired

end Restart

section Exposure

/-- A phone is paired and unpaired again, and the crash comes while its
fingerprint is gone and the saved list still names it. -/
theorem trust_lost_in_unpair : ¬StillTrusted samplePlatform {} (crashFiles samplePlatform {} none 0
    [.asks (.setPendingPeerCert samplePhone [0x30, 0x00]), .asks (.forceAcceptPairing samplePhone)]
    (.asks (.unpair samplePhone)) 8) := by
  intro trusted
  have listed : ((restart {} (crashFiles samplePlatform {} none 0
      [.asks (.setPendingPeerCert samplePhone [0x30, 0x00]), .asks (.forceAcceptPairing samplePhone)]
      (.asks (.unpair samplePhone)) 8)).paired.lookup samplePhone).isSome = true := by decide +kernel
  have unpinned : (run FileAction.exec (hasPeerFingerprint samplePlatform samplePhone) (crashFiles samplePlatform {} none 0
      [.asks (.setPendingPeerCert samplePhone [0x30, 0x00]), .asks (.forceAcceptPairing samplePhone)]
      (.asks (.unpair samplePhone)) 8)).1 = false := by decide +kernel
  have pinned := (trusted samplePhone listed).1
  rw [unpinned] at pinned
  exact Bool.false_ne_true pinned

end Exposure

end TrustCrash

end RustConnect
