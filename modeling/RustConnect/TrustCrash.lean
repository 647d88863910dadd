import RustConnect.TrustHistory

namespace RustConnect

open Program PairingAction CertificateManager

namespace TrustCrash

/-- The saved pairing list names the device. -/
def Listed (files : Files) (d : DeviceId) : Prop :=
  ∃ devices, files.lookup pairedPath = some (.paired devices) ∧ (devices.lookup d).isSome

/-- The handler after a restart over the files as they were left. -/
def restart (settings : PairingSettings) (files : Files) : PairingState :=
  PairingHandler.loadFromDisk settings { files := files }

theorem restart_paired {settings : PairingSettings} (persistent : settings.persistent = true) (files : Files)
    (d : DeviceId) : ((restart settings files).paired.lookup d).isSome ↔ Listed files d := by
  unfold restart PairingHandler.loadFromDisk Listed
  simp only [persistent, ↓reduceIte]
  cases found : files.lookup pairedPath with
  | none => simp
  | some content => cases content <;> simp [Table.lookup_extend]

theorem restart_volatile {settings : PairingSettings} (volatile : settings.persistent = false) (files : Files) :
    (restart settings files).paired = ∅ := by
  simp [restart, PairingHandler.loadFromDisk, volatile]

/-- A fingerprint has been removed and the pairing list has not been replaced since. -/
def Exposed (past : List PairingAction) : Prop :=
  ∃ d before after, past = before ++ file (.remove (fingerprintFile d)) :: after ∧
    file (.rename pairedTempPath pairedPath) ∉ after

theorem exposed_append {past : List PairingAction} {action : PairingAction}
    (other : ∀ d, action ≠ file (.remove (fingerprintFile d))) (exposed : Exposed (past ++ [action])) :
    Exposed past ∧ action ≠ file (.rename pairedTempPath pairedPath) := by
  obtain ⟨d, before, after, split, unsaved⟩ := exposed
  rcases List.eq_nil_or_concat after with rfl | ⟨after, last, rfl⟩
  · have same := (List.append_inj' split rfl).2
    exact absurd (List.cons.inj same).1 (other d)
  · have whole : past ++ [action] = (before ++ file (.remove (fingerprintFile d)) :: after) ++ [last] := by
      simpa using split
    obtain ⟨earlier, same⟩ := List.append_inj' whole rfl
    obtain rfl := (List.cons.inj same).1
    refine ⟨⟨d, before, after, earlier, fun member => unsaved (by simp [member])⟩, ?_⟩
    rintro rfl
    exact unsaved (by simp)

variable (platform : Platform)

/-- Every fingerprint is the digest of a certificate, and whatever is paired in
memory or listed on disk has one. -/
structure Sound (s : PairingState) : Prop where
  pins : ∀ d content, s.files.lookup (fingerprintFile d) = some content →
    ∃ certDer, content = .text (computeFingerprint platform certDer)
  anchored : ∀ d, (s.paired.lookup d).isSome →
    validateDeviceId platform d = .ok () ∧ (s.files.lookup (fingerprintFile d)).isSome
  covered : ∀ d, Listed s.files d →
    validateDeviceId platform d = .ok () ∧ (s.files.lookup (fingerprintFile d)).isSome

/-- The state is sound and no fingerprint has gone missing behind the list. -/
def Calm (past : List PairingAction) (s : PairingState) : Prop := Sound platform s ∧ ¬Exposed past

variable {platform} {past : List PairingAction} {s t : PairingState} {action : PairingAction} {d : DeviceId}

theorem Sound.keep (sound : Sound platform s)
    (pinned : ∀ d, t.files.lookup (fingerprintFile d) = s.files.lookup (fingerprintFile d))
    (list : t.files.lookup pairedPath = s.files.lookup pairedPath)
    (paired : ∀ d, (t.paired.lookup d).isSome → (s.paired.lookup d).isSome) : Sound platform t where
  pins d content found := sound.pins d content ((pinned d).symm.trans found)
  anchored d member := by
    rw [pinned d]
    exact sound.anchored d (paired d member)
  covered d listed := by
    rw [pinned d]
    obtain ⟨devices, found, member⟩ := listed
    exact sound.covered d ⟨devices, list.symm.trans found, member⟩

theorem steady_exposed (still : steady action) (calm : ¬Exposed past) : ¬Exposed (past ++ [action]) := by
  refine fun exposed => calm (exposed_append (fun d same => ?_) exposed).1
  subst same
  exact still.2 d rfl

theorem Calm.step (calm : Calm platform past s) (action : PairingAction) (still : steady action) :
    Calm platform (past ++ [action]) (action.exec s).2 :=
  ⟨calm.1.keep (quiet_fingerprints (steady_quiet still) s) (steady_list still s) (quiet_paired (steady_quiet still) s),
    steady_exposed still calm.2⟩

theorem saved_unexposed (past : List PairingAction) : ¬Exposed (past ++ [file (.rename pairedTempPath pairedPath)]) :=
  fun exposed => (exposed_append (fun _ same => by cases same) exposed).2 rfl

section Save

variable {settings : PairingSettings} (persistent : settings.persistent = true)

include persistent

theorem throughout_saveToDisk {Q : List PairingAction → PairingState → Prop} (first : Q past s)
    (snapshot : Q (past ++ [pairedSnapshot]) s)
    (written : Q (past ++ [pairedSnapshot] ++ [file (.write pairedTempPath (.paired s.paired))])
      (exec (file (.write pairedTempPath (.paired s.paired))) s).2)
    (renamed : Q (past ++ [pairedSnapshot] ++ [file (.write pairedTempPath (.paired s.paired))] ++
      [file (.rename pairedTempPath pairedPath)])
      { s with files := PairingState.savedFiles settings s.paired s.files }) :
    Throughout exec Q past (PairingHandler.saveToDisk settings) s := by
  have files : (exec (file (.rename pairedTempPath pairedPath))
      (exec (file (.write pairedTempPath (.paired s.paired))) s).2).2 =
      { s with files := PairingState.savedFiles settings s.paired s.files } := by
    simp [exec, FileAction.exec, PairingState.savedFiles, persistent]
  unfold PairingHandler.saveToDisk
  rw [persistent]
  exact ⟨first, snapshot, written, files ▸ renamed⟩

theorem actions_saveToDisk (s : PairingState) : actions exec (PairingHandler.saveToDisk settings) s =
    [pairedSnapshot, file (.write pairedTempPath (.paired s.paired)), file (.rename pairedTempPath pairedPath)] := by
  unfold PairingHandler.saveToDisk
  rw [persistent]
  rfl

theorem saved_list (paired : Table DeviceId Time) (files : Files) :
    (PairingState.savedFiles settings paired files).lookup pairedPath = some (.paired paired) := by
  simp [PairingState.savedFiles, persistent]

theorem saved_fingerprint (paired : Table DeviceId Time) (files : Files) (d : DeviceId) :
    (PairingState.savedFiles settings paired files).lookup (fingerprintFile d) = files.lookup (fingerprintFile d) := by
  have temp : fingerprintFile d ≠ pairedTempPath := Path.noConfusion
  have list : fingerprintFile d ≠ pairedPath := Path.noConfusion
  simp [PairingState.savedFiles, persistent, temp, list]

/-- Once the list is saved, it names the paired devices and no others. -/
theorem saved_sound (pins : ∀ d content, s.files.lookup (fingerprintFile d) = some content →
      ∃ certDer, content = .text (computeFingerprint platform certDer))
    (anchored : ∀ d, (s.paired.lookup d).isSome →
      validateDeviceId platform d = .ok () ∧ (s.files.lookup (fingerprintFile d)).isSome) :
    Sound platform { s with files := PairingState.savedFiles settings s.paired s.files } where
  pins d content found := pins d content (by rwa [saved_fingerprint persistent] at found)
  anchored d paired := by
    rw [saved_fingerprint persistent]
    exact anchored d paired
  covered d listed := by
    obtain ⟨devices, found, member⟩ := listed
    rw [saved_list persistent] at found
    cases found
    rw [saved_fingerprint persistent]
    exact anchored d member

theorem calm_saveToDisk : Keeps exec (Calm platform) (PairingHandler.saveToDisk settings) := by
  intro past s calm
  have snapshot := calm.step pairedSnapshot trivial
  have written := snapshot.step _ (steady_write_temp (.paired s.paired))
  exact throughout_saveToDisk persistent calm snapshot written
    ⟨saved_sound persistent calm.1.pins calm.1.anchored, saved_unexposed _⟩

end Save

section Accept

theorem Calm.step_pin (calm : Calm platform past s) (d : DeviceId) (certDer : Bytes) :
    Calm platform (past ++ [file (.write (fingerprintFile d) (.text (computeFingerprint platform certDer)))])
      (exec (file (.write (fingerprintFile d) (.text (computeFingerprint platform certDer)))) s).2 := by
  have present (e : DeviceId) (before : (s.files.lookup (fingerprintFile e)).isSome) :
      ((s.files.insert (fingerprintFile d) (.text (computeFingerprint platform certDer))).lookup
        (fingerprintFile e)).isSome := by
    rw [Table.lookup_insert_of]
    split
    · rfl
    · exact before
  refine ⟨⟨fun e content found => ?_, fun e paired => ?_, fun e listed => ?_⟩, fun exposed => ?_⟩
  · simp only [exec, FileAction.exec, Table.lookup_insert_of] at found
    split at found
    · cases found
      exact ⟨certDer, rfl⟩
    · exact calm.1.pins e content found
  · exact (calm.1.anchored e paired).imp id (present e)
  · have list : pairedPath ≠ fingerprintFile d := Path.noConfusion
    obtain ⟨devices, found, member⟩ := listed
    simp only [exec, FileAction.exec, AList.lookup_insert_ne list] at found
    exact (calm.1.covered e ⟨devices, found, member⟩).imp id (present e)
  · exact calm.2 (exposed_append (fun _ same => by cases same) exposed).1

theorem Calm.step_pair (calm : Calm platform past s) (valid : validateDeviceId platform d = .ok ())
    (present : (s.files.lookup (fingerprintFile d)).isSome) :
    Calm platform (past ++ [pairedInsert d]) (exec (pairedInsert d) s).2 := by
  refine ⟨⟨calm.1.pins, fun e paired => ?_, calm.1.covered⟩, fun exposed => ?_⟩
  · simp only [exec, Table.lookup_insert_of] at paired
    split at paired
    · rename_i same
      subst same
      exact ⟨valid, present⟩
    · exact calm.1.anchored e paired
  · exact calm.2 (exposed_append (fun _ same => by cases same) exposed).1

theorem Calm.rules {settings : PairingSettings} (persistent : settings.persistent = true) :
    AcceptRules platform settings (fun _ _ _ => True) (Calm platform) where
  still action steady calm := calm.step action steady
  origin _ _ := trivial
  later _ _ := trivial
  pin _ calm := calm.step_pin _ _
  pair valid present calm := calm.step_pair valid present
  save := calm_saveToDisk persistent

end Accept

section Unpair

/-- The saved list names every paired device. -/
def Synced (s : PairingState) : Prop := ∀ d, (s.paired.lookup d).isSome → Listed s.files d

/-- Every fingerprint is the digest of a certificate, and every listed device
has one exactly when none is exposed. -/
structure Covered (platform : Platform) (past : List PairingAction) (s : PairingState) : Prop where
  pins : ∀ d content, s.files.lookup (fingerprintFile d) = some content →
    ∃ certDer, content = .text (computeFingerprint platform certDer)
  complete : (∀ d, Listed s.files d → validateDeviceId platform d = .ok () ∧ (s.files.lookup (fingerprintFile d)).isSome) ↔
    ¬Exposed past

theorem Calm.covered (calm : Calm platform past s) : Covered platform past s :=
  ⟨calm.1.pins, iff_of_true calm.1.covered calm.2⟩

/-- Between the removal of its fingerprint and the saving of the list: the device is listed but has none. -/
structure Torn (platform : Platform) (d : DeviceId) (past : List PairingAction) (s : PairingState) : Prop where
  pins : ∀ d content, s.files.lookup (fingerprintFile d) = some content →
    ∃ certDer, content = .text (computeFingerprint platform certDer)
  anchored : ∀ d, (s.paired.lookup d).isSome →
    validateDeviceId platform d = .ok () ∧ (s.files.lookup (fingerprintFile d)).isSome
  listed : Listed s.files d
  unpinned : s.files.lookup (fingerprintFile d) = none
  exposed : Exposed past

theorem Torn.covered (torn : Torn platform d past s) : Covered platform past s := by
  refine ⟨torn.pins, iff_of_false (fun all => ?_) fun calm => calm torn.exposed⟩
  have present := (all d torn.listed).2
  rw [torn.unpinned] at present
  cases present

theorem Torn.step (torn : Torn platform d past s) (action : PairingAction) (still : steady action) :
    Torn platform d (past ++ [action]) (action.exec s).2 := by
  have pinned := quiet_fingerprints (steady_quiet still) s
  refine ⟨fun e content found => torn.pins e content ((pinned e).symm.trans found), fun e paired => ?_, ?_,
    (pinned d).trans torn.unpinned, ?_⟩
  · rw [pinned e]
    exact torn.anchored e (quiet_paired (steady_quiet still) s e paired)
  · obtain ⟨devices, found, member⟩ := torn.listed
    exact ⟨devices, (steady_list still s).trans found, member⟩
  · obtain ⟨e, before, after, rfl, unsaved⟩ := torn.exposed
    refine ⟨e, before, after ++ [action], by simp, fun member => ?_⟩
    rcases List.mem_append.mp member with earlier | last
    · exact unsaved earlier
    · rw [← List.mem_singleton.mp last] at still
      exact still

/-- Saving the list mends what the removal tore. -/
theorem Torn.save {settings : PairingSettings} (persistent : settings.persistent = true)
    (torn : Torn platform d past s) :
    Passes exec (Covered platform) (Calm platform) past (PairingHandler.saveToDisk settings) s := by
  have snapshot := torn.step pairedSnapshot trivial
  have written := snapshot.step _ (steady_write_temp (.paired s.paired))
  have saved : Calm platform (past ++ [pairedSnapshot] ++ [file (.write pairedTempPath (.paired s.paired))] ++
      [file (.rename pairedTempPath pairedPath)]) { s with files := PairingState.savedFiles settings s.paired s.files } :=
    ⟨saved_sound persistent torn.pins torn.anchored, saved_unexposed _⟩
  refine ⟨throughout_saveToDisk persistent torn.covered snapshot.covered written.covered saved.covered, ?_⟩
  rw [actions_saveToDisk persistent, PairingHandler.run_saveToDisk]
  simpa using saved

/-- The device is out of `paired` but still listed, and still has its fingerprint. -/
structure Leaving (platform : Platform) (d : DeviceId) (past : List PairingAction) (s : PairingState) : Prop where
  calm : Calm platform past s
  listed : Listed s.files d
  pinned : (s.files.lookup (fingerprintFile d)).isSome
  unpaired : s.paired.lookup d = none

theorem Leaving.step (leaving : Leaving platform d past s) (action : PairingAction) (still : steady action) :
    Leaving platform d (past ++ [action]) (action.exec s).2 := by
  refine ⟨leaving.calm.step action still, ?_, ?_, ?_⟩
  · obtain ⟨devices, found, member⟩ := leaving.listed
    exact ⟨devices, (steady_list still s).trans found, member⟩
  · rw [quiet_fingerprints (steady_quiet still) s]
    exact leaving.pinned
  · refine PairingHandler.paired_absent_kept (fun same => ?_) leaving.unpaired
    subst same
    exact still

theorem Leaving.tear (leaving : Leaving platform d past s) :
    Torn platform d (past ++ [file (.remove (fingerprintFile d))]) (exec (file (.remove (fingerprintFile d))) s).2 := by
  refine ⟨fun e content found => ?_, fun e paired => ?_, ?_, AList.lookup_erase .., d, past, [], rfl, List.not_mem_nil⟩
  · simp only [exec, FileAction.exec, Table.lookup_erase_of] at found
    split at found
    · cases found
    · exact leaving.calm.1.pins e content found
  · have apart : fingerprintFile e ≠ fingerprintFile d := by
      intro same
      obtain rfl := fingerprintFile_injective same
      simp [exec, leaving.unpaired] at paired
    simpa only [exec, FileAction.exec, AList.lookup_erase_ne apart] using leaving.calm.1.anchored e paired
  · have list : pairedPath ≠ fingerprintFile d := Path.noConfusion
    obtain ⟨devices, found, member⟩ := leaving.listed
    exact ⟨devices, by simpa only [exec, FileAction.exec, AList.lookup_erase_ne list] using found, member⟩

theorem passes_remove (leaving : Leaving platform d past s) :
    Passes exec (Covered platform) (Torn platform d) past (PairingHandler.onFiles
      (FileProgram.removeIfExists (fingerprintFile d))) s := by
  rw [PairingHandler.onFiles_removeIfExists]
  have looked := leaving.step (file (.exists (fingerprintFile d))) trivial
  have torn := looked.tear
  refine Passes.bind (Passes.call leaving.calm.covered looked.calm.covered looked) ?_
  have found : (run exec (PairingHandler.perform (file (.exists (fingerprintFile d)))) s).1 = true := leaving.pinned
  rw [if_pos found]
  exact Passes.call looked.calm.covered torn.covered torn

/-- While a device is forgotten, the listed devices are covered except between
the removal of its fingerprint and the saving of the list. -/
theorem passes_forgetDevice {settings : PairingSettings} (persistent : settings.persistent = true)
    (leaving : Leaving platform d past s) :
    Passes exec (Covered platform) (Calm platform) past (PairingHandler.forgetDevice platform settings d) s := by
  have keeps {α : Type} {T : α → Prop} {program : PairingProgram α} (only : program.Only steady T) :
      Keeps exec (Leaving platform d) program :=
    only.keeps fun _ action _ still leaving => leaving.step action still
  have weaker (past : List PairingAction) (t : PairingState) (leaving : Leaving platform d past t) :
      Covered platform past t := leaving.calm.covered
  have valid := (leaving.calm.1.covered d leaving.listed).1
  have cert := (keeps (PairingHandler.only_deleteCertificate platform d (P := steady) (fun _ => trivial)
    ⟨Path.noConfusion, fun e => fingerprintFile_ne_certFile e d⟩
    ⟨Path.noConfusion, fun e => fingerprintFile_ne_keyFile e d⟩)).passes weaker leaving
  have onlyPeer : (PairingHandler.onFiles (FileProgram.removeIfExists (peerFile d))).Only steady fun _ => True := by
    rw [PairingHandler.onFiles_removeIfExists]
    have removes : steady (file (.remove (peerFile d))) := ⟨Path.noConfusion, fun e => fingerprintFile_ne_peerFile e d⟩
    have looks : steady (file (.exists (peerFile d))) := steady_of_looks trivial
    simp [removes, looks]
  refine cert.bind ?_
  rw [PairingHandler.ignoreResult_deletePeerCertificate valid]
  have peer := (keeps onlyPeer).passes weaker cert.2
  have torn := peer.bind (f := fun _ => PairingHandler.onFiles (FileProgram.removeIfExists (fingerprintFile d)))
    (passes_remove peer.2)
  refine torn.bind ((torn.2.save persistent).bind ?_)
  have saved := (torn.2.save persistent).2
  have told := saved.step (broadcast (.unpaired d)) trivial
  exact Passes.call saved.covered told.covered told

theorem passes_unpair {settings : PairingSettings} (persistent : settings.persistent = true) (calm : Calm platform past s)
    (synced : Synced s) :
    Passes exec (Covered platform) (Calm platform) past (PairingHandler.unpair platform settings d).run s := by
  have cert := calm.step (certRemove d) trivial
  have removed := cert.step (pairedRemove d) trivial
  refine (Passes.call calm.covered cert.covered cert).lift_bind ?_
  refine (Passes.call cert.covered removed.covered removed).lift_bind ?_
  split
  · rename_i found
    refine (passes_forgetDevice persistent ⟨removed, synced d found, ?_, AList.lookup_erase ..⟩).lift
    exact (calm.1.anchored d found).2
  · exact ⟨removed.covered, by simpa using removed⟩

end Unpair

end TrustCrash

end RustConnect
