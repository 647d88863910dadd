import RustConnect.Base.History
import RustConnect.AcceptRules

namespace RustConnect

open Program PairingAction CertificateManager

variable (platform : Platform)

/-- In the past a certificate was staged for the device and later its digest was written as the device's fingerprint. -/
def StagedThenPinned (past : List PairingAction) (d : DeviceId) (certDer : Bytes) : Prop :=
  ∃ before after, certInsert d certDer ∈ before ∧
    past = before ++ file (.write (fingerprintFile d) (.text (computeFingerprint platform certDer))) :: after

/-- Every staged certificate and every fingerprint has its origin in the past,
and every paired device has a fingerprint. -/
structure Trusted (past : List PairingAction) (s : PairingState) : Prop where
  staged : ∀ d certDer, s.pendingCerts.lookup d = some certDer → certInsert d certDer ∈ past
  pinned : ∀ d content, s.files.lookup (fingerprintFile d) = some content →
    ∃ certDer, content = .text (computeFingerprint platform certDer) ∧ StagedThenPinned platform past d certDer
  anchored : ∀ d, (s.paired.lookup d).isSome →
    validateDeviceId platform d = .ok () ∧ (s.files.lookup (fingerprintFile d)).isSome

variable {platform}

theorem StagedThenPinned.later {past : List PairingAction} {d : DeviceId} {certDer : Bytes}
    (pinned : StagedThenPinned platform past d certDer) (action : PairingAction) :
    StagedThenPinned platform (past ++ [action]) d certDer := by
  obtain ⟨before, after, staged, split⟩ := pinned
  exact ⟨before, after ++ [action], staged, by simp [split]⟩

namespace Trusted

variable {past : List PairingAction} {s t : PairingState}

/-- An action that stages nothing, touches no fingerprint and pairs nobody leaves everything as trusted as it was. -/
theorem keep {action : PairingAction} (trusted : Trusted platform past s)
    (staged : ∀ d certDer, t.pendingCerts.lookup d = some certDer →
      s.pendingCerts.lookup d = some certDer ∨ action = certInsert d certDer)
    (pinned : ∀ d, t.files.lookup (fingerprintFile d) = s.files.lookup (fingerprintFile d))
    (anchored : ∀ d, (t.paired.lookup d).isSome → (s.paired.lookup d).isSome) :
    Trusted platform (past ++ [action]) t where
  staged d certDer found := by
    rcases staged d certDer found with before | same
    · exact List.mem_append_left _ (trusted.staged d certDer before)
    · exact List.mem_append_right _ (List.mem_singleton.mpr same.symm)
  pinned d content found := by
    obtain ⟨certDer, same, origin⟩ := trusted.pinned d content ((pinned d).symm.trans found)
    exact ⟨certDer, same, origin.later action⟩
  anchored d paired := by
    rw [pinned d]
    exact trusted.anchored d (anchored d paired)

theorem step_quiet (trusted : Trusted platform past s) (action : PairingAction) (still : quiet action) :
    Trusted platform (past ++ [action]) (action.exec s).2 :=
  trusted.keep (fun _ _ => staged_origin action s) (quiet_fingerprints still s) (quiet_paired still s)

/-- The digest of a staged certificate may be written as the fingerprint. -/
theorem step_pin {d : DeviceId} {certDer : Bytes} (staged : certInsert d certDer ∈ past)
    (trusted : Trusted platform past s) :
    Trusted platform (past ++ [file (.write (fingerprintFile d) (.text (computeFingerprint platform certDer)))])
      (exec (file (.write (fingerprintFile d) (.text (computeFingerprint platform certDer)))) s).2 where
  staged e other found := List.mem_append_left _ (trusted.staged e other found)
  pinned e content found := by
    simp only [exec, FileAction.exec, Table.lookup_insert_of] at found
    split at found
    · rename_i same
      cases found
      obtain rfl := fingerprintFile_injective same
      exact ⟨certDer, rfl, past, [], staged, rfl⟩
    · obtain ⟨other, same, origin⟩ := trusted.pinned e content found
      exact ⟨other, same, origin.later _⟩
  anchored e paired := by
    obtain ⟨valid, present⟩ := trusted.anchored e paired
    refine ⟨valid, ?_⟩
    simp only [exec, FileAction.exec, Table.lookup_insert_of]
    split
    · rfl
    · exact present

/-- A device with a fingerprint may be paired. -/
theorem step_pair {d : DeviceId} (valid : validateDeviceId platform d = .ok ())
    (present : (s.files.lookup (fingerprintFile d)).isSome) (trusted : Trusted platform past s) :
    Trusted platform (past ++ [pairedInsert d]) (exec (pairedInsert d) s).2 where
  staged e other found := List.mem_append_left _ (trusted.staged e other found)
  pinned e content found := by
    obtain ⟨other, same, origin⟩ := trusted.pinned e content found
    exact ⟨other, same, origin.later _⟩
  anchored e paired := by
    simp only [exec, Table.lookup_insert_of] at paired
    split at paired
    · rename_i same
      subst same
      exact ⟨valid, present⟩
    · exact trusted.anchored e paired

/-- The fingerprint of a device that is not paired may go. -/
theorem step_unpin {d : DeviceId} (unpaired : s.paired.lookup d = none) (trusted : Trusted platform past s) :
    Trusted platform (past ++ [file (.remove (fingerprintFile d))]) (exec (file (.remove (fingerprintFile d))) s).2 where
  staged e other found := List.mem_append_left _ (trusted.staged e other found)
  pinned e content found := by
    simp only [exec, FileAction.exec, Table.lookup_erase_of] at found
    split at found
    · cases found
    · obtain ⟨other, same, origin⟩ := trusted.pinned e content found
      exact ⟨other, same, origin.later _⟩
  anchored e paired := by
    obtain ⟨valid, present⟩ := trusted.anchored e paired
    refine ⟨valid, ?_⟩
    have apart : fingerprintFile e ≠ fingerprintFile d := by
      intro same
      obtain rfl := fingerprintFile_injective same
      simp [exec, unpaired] at paired
    simpa only [exec, FileAction.exec, AList.lookup_erase_ne apart] using present

theorem rules (settings : PairingSettings) :
    AcceptRules platform settings (fun past d certDer => certInsert d certDer ∈ past) (Trusted platform) where
  still action steady trusted := trusted.step_quiet action (steady_quiet steady)
  origin trusted found := trusted.staged _ _ found
  later _ staged := List.mem_append_left _ staged
  pin staged trusted := trusted.step_pin staged
  pair valid present trusted := trusted.step_pair valid present
  save := (PairingHandler.only_saveToDisk settings (P := quiet) trivial fun _ => quiet_of_saves).keeps
    fun _ action _ still trusted => trusted.step_quiet action still

theorem throughout_forgetDevice (settings : PairingSettings) {d : DeviceId} (trusted : Trusted platform past s)
    (unpaired : s.paired.lookup d = none) :
    Throughout exec (Trusted platform) past (PairingHandler.forgetDevice platform settings d) s := by
  have kept (past : List PairingAction) (action : PairingAction) (t : PairingState) (inside : action.forgets d)
      (holds : Trusted platform past t ∧ t.paired.lookup d = none) :
      Trusted platform (past ++ [action]) (action.exec t).2 ∧ (action.exec t).2.paired.lookup d = none := by
    obtain ⟨trusted, unpaired⟩ := holds
    refine ⟨?_, PairingHandler.paired_absent_kept (fun same => by subst same; exact inside) unpaired⟩
    cases action with
    | file action =>
      cases action with
      | remove path =>
        rcases inside with rfl | rfl | rfl | rfl
        · exact trusted.step_quiet _ fun e => fingerprintFile_ne_certFile e d
        · exact trusted.step_quiet _ fun e => fingerprintFile_ne_keyFile e d
        · exact trusted.step_quiet _ fun e => fingerprintFile_ne_peerFile e d
        · exact trusted.step_unpin unpaired
      | _ => exact trusted.step_quiet _ (quiet_of_saves inside)
    | _ => exact trusted.step_quiet _ (quiet_of_looks inside)
  exact ((PairingHandler.only_forgetDevice platform settings d).throughout kept ⟨trusted, unpaired⟩).weaken
    fun _ _ => And.left

/-- From the removal on, the device is no longer paired, so that its fingerprint may go. -/
theorem keeps_unpair (settings : PairingSettings) (d : DeviceId) :
    Keeps exec (Trusted platform) (PairingHandler.unpair platform settings d).run := by
  refine .lift_bind ((rules settings).keeps_perform _ trivial) fun _ past s trusted => ?_
  have removed := trusted.step_quiet (pairedRemove d) trivial
  refine throughout_lift_bind ⟨trusted, removed⟩ ?_
  split
  · exact throughout_except_lift (removed.throughout_forgetDevice settings (AList.lookup_erase ..))
  · exact removed

end Trusted

theorem PairingOp.keeps_trust (settings : PairingSettings) (op : PairingOp) :
    Keeps exec (Trusted platform) (op.program platform settings).run := by
  cases op with
  | receive d stamp certDer =>
    exact (Trusted.rules settings).calls.receivePairRequest stamp certDer (Trusted.keeps_unpair settings d)
  | advance duration => exact Keeps.pure _
  | asks asked => exact (Trusted.rules settings).calls.call fun d _ => Trusted.keeps_unpair settings d

end RustConnect
