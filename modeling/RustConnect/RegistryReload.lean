import Mathlib
import RustConnect.RegistryFile

namespace RustConnect

/-- What the registry and the pairing handler keep on disk, each with the file
that a save writes before it is renamed. -/
structure StoreFiles where
  devices : Option Json := none
  devicesTemp : Option Json := none
  paired : Option (Table DeviceId Time) := none
  pairedTemp : Option (Table DeviceId Time) := none

/-- How far a `save_to_disk` of the registry is, which has the save lock: it
looks at one record after the other, with the records locked, and then writes
and renames. -/
inductive SaveStage
  | idle
  | filtering (todo : List (DeviceId × Device)) (kept : Devices)
  | serialized (kept : Devices)
  | written (kept : Devices)

/-- The registry and the pairings in memory, the files, the clock, and the
records that the last completed save has written. -/
structure StoreState where
  devices : Devices := ∅
  paired : Table DeviceId Time := ∅
  saving : SaveStage := .idle
  files : StoreFiles := {}
  now : Time := 0
  saved : Devices := ∅

/-- The changes of the records. -/
inductive RegistryEdit
  | registry (action : RegistryAction)
  | transition (deviceId : DeviceId) (state : DeviceState)
  | update (device : Device)
  | remove (deviceId : DeviceId)

def RegistryEdit.apply (paired : Table DeviceId Time) (now : Time) (devices : Devices) : RegistryEdit → Devices
  | registry action => (action.exec paired now devices).2
  | transition d state => DeviceRegistry.transition now d state devices
  | update device => if (devices.lookup device.id).isSome then devices.insert device.id device else devices
  | remove d => devices.erase d

/-- What happens to the store, one lock scope or file operation at a time. -/
inductive StoreEvent
  | edit (edit : RegistryEdit)
  | pair (deviceId : DeviceId) (moment : Time)
  | unpair (deviceId : DeviceId)
  | pass (duration : Time)
  | beginSave
  | checkNext
  | writeTemp
  | renameTemp
  | writePaired
  | renamePaired
  | restart

namespace RegistryReload

def staleDeviceTtl : Time := seconds (30 * 86400)

/-- `prune_stale_devices`. -/
def keepsRecord (paired : Table DeviceId Time) (now : Time) (id : DeviceId) (device : Device) : Bool :=
  (paired.lookup id).isSome || device.state == .connected || decide (now - staleDeviceTtl ≤ device.lastSeen)

variable (clock : TimeText)

/-- `DeviceRegistry::load_from_disk`: a file that is missing or cannot be read leaves the new registry empty. -/
def loadDevices (files : StoreFiles) : Devices := (files.devices.bind (RegistryFile.decodeDevices clock)).getD ∅

/-- `PairingHandler::load_from_disk`. -/
def loadPaired (files : StoreFiles) : Table DeviceId Time := (∅ : Table DeviceId Time).extend (files.paired.getD ∅)

/-- `load_persisted_data` in a new process. -/
def loadPersistedData (s : StoreState) : StoreState where
  devices := (loadDevices clock s.files).retain (keepsRecord (loadPaired s.files) s.now)
  paired := loadPaired s.files
  files := s.files
  now := s.now
  saved := s.saved

/-- The records are read-locked while a save looks at them. -/
def locked : SaveStage → Bool
  | .filtering _ _ => true
  | _ => false

/-- What is not possible at the moment changes nothing. -/
def step (s : StoreState) : StoreEvent → StoreState
  | .edit edit => if locked s.saving then s else { s with devices := edit.apply s.paired s.now s.devices }
  | .pair d moment => { s with paired := s.paired.insert d moment }
  | .unpair d => { s with paired := s.paired.erase d }
  | .pass duration => { s with now := s.now + duration }
  | .beginSave =>
    match s.saving with
    | .idle => { s with saving := .filtering (s.devices.entries.map fun entry => (entry.1, entry.2)) ∅ }
    | _ => s
  | .checkNext =>
    match s.saving with
    | .filtering ((id, device) :: todo) kept =>
      { s with saving := .filtering todo (if (s.paired.lookup device.id).isSome then kept.insert id device else kept) }
    | .filtering [] kept => { s with saving := .serialized kept }
    | _ => s
  | .writeTemp =>
    match s.saving with
    | .serialized kept =>
      { s with
        saving := .written kept
        files := { s.files with devicesTemp := some (RegistryFile.encodeDevices clock kept) } }
    | _ => s
  | .renameTemp =>
    match s.saving with
    | .written kept =>
      { s with
        saving := .idle
        files := { s.files with devices := s.files.devicesTemp, devicesTemp := none }
        saved := kept }
    | _ => s
  | .writePaired => { s with files := { s.files with pairedTemp := some s.paired } }
  | .renamePaired =>
    match s.files.pairedTemp with
    | some paired => { s with files := { s.files with paired := some paired, pairedTemp := none } }
    | none => s
  | .restart => loadPersistedData clock s

def run (events : List StoreEvent) (s : StoreState) : StoreState := events.foldl (step clock) s

section Keyed

/-- Every record is under its own id. -/
def Keyed (devices : Devices) : Prop := ∀ d device, devices.lookup d = some device → device.id = d

variable {devices : Devices} {paired : Table DeviceId Time} {now : Time}

theorem Keyed.insert (keyed : Keyed devices) {d : DeviceId} {device : Device} (own : device.id = d) : Keyed (devices.insert d device) := by
  intro e found there
  rw [Table.lookup_insert_of] at there
  split at there
  · cases there
    exact own.trans (Eq.symm ‹_›)
  · exact keyed e found there

theorem Keyed.of_subset (keyed : Keyed devices) {fewer : Devices}
    (within : ∀ d device, fewer.lookup d = some device → devices.lookup d = some device) : Keyed fewer :=
  fun d device found => keyed d device (within d device found)

theorem keyed_empty : Keyed ∅ := fun _ _ found => by simp at found

theorem Keyed.enforceUnpairedCap (keyed : Keyed devices) (incoming : Device) :
    Keyed (DeviceRegistry.enforceUnpairedCap paired devices incoming) := by
  obtain ⟨evicted, -, lookup⟩ := DeviceRegistry.enforceUnpairedCap_erases paired devices incoming
  refine keyed.of_subset fun d device found => ?_
  rw [lookup] at found
  split at found
  · cases found
  · exact found

theorem adopt_id (device : Device) (name : String) (deviceType : DeviceType) (version : UInt32) (incoming outgoing : List String) :
    (device.adopt name deviceType version incoming outgoing).id = device.id := by
  unfold Device.adopt Device.applyCapabilityUpdate
  split <;> rfl

theorem Keyed.edit (keyed : Keyed devices) (edit : RegistryEdit) : Keyed (edit.apply paired now devices) := by
  cases edit with
  | registry action =>
    cases action with
    | contains d => exact keyed
    | add device =>
      simp only [RegistryEdit.apply, RegistryAction.exec, DeviceRegistry.add]
      split
      · exact keyed
      · exact (keyed.enforceUnpairedCap device).insert rfl
    | upsertDevice device =>
      simp only [RegistryEdit.apply, RegistryAction.exec, DeviceRegistry.upsertDevice]
      split
      · rename_i existing found
        exact keyed.insert ((adopt_id existing _ _ _ _ _).trans (keyed _ _ found))
      · exact (keyed.enforceUnpairedCap device).insert rfl
    | adoptIdentity d identity =>
      simp only [RegistryEdit.apply, RegistryAction.exec, DeviceRegistry.adoptIdentity]
      split
      · rename_i existing found
        exact keyed.insert ((adopt_id existing _ _ _ _ _).trans (keyed _ _ found))
      · exact keyed
  | transition d state =>
    simp only [RegistryEdit.apply, DeviceRegistry.transition]
    split
    · rename_i device found
      split
      · exact keyed
      · exact keyed.insert (keyed _ device found)
    · exact keyed
  | update device =>
    simp only [RegistryEdit.apply]
    split
    · exact keyed.insert rfl
    · exact keyed
  | remove d =>
    refine keyed.of_subset fun e device found => ?_
    rw [RegistryEdit.apply, Table.lookup_erase_of] at found
    split at found
    · cases found
    · exact found

end Keyed

/-- What a save under way has gathered is under its own id, and what it has written is what it has gathered. -/
def StageSound (temp : Option Json) : SaveStage → Prop
  | .idle => True
  | .filtering todo kept => (∀ entry ∈ todo, entry.2.id = entry.1) ∧ Keyed kept
  | .serialized kept => Keyed kept
  | .written kept => Keyed kept ∧ temp = some (RegistryFile.encodeDevices clock kept)

/-- The records are under their own ids, and the file holds what the last completed save has written. -/
structure Sound (s : StoreState) : Prop where
  keyed : Keyed s.devices
  savedKeyed : Keyed s.saved
  onDisk : ∀ d, (loadDevices clock s.files).lookup d = s.saved.lookup d
  stage : StageSound clock s.files.devicesTemp s.saving

variable {clock} {s : StoreState}

theorem Sound.restart (sound : Sound clock s) : Sound clock (loadPersistedData clock s) where
  keyed := by
    refine sound.savedKeyed.of_subset fun d device found => ?_
    rw [loadPersistedData, Table.lookup_retain, sound.onDisk] at found
    exact (Option.filter_eq_some_iff.mp found).1
  savedKeyed := sound.savedKeyed
  onDisk := sound.onDisk
  stage := trivial

theorem Sound.step (sound : Sound clock s) (event : StoreEvent) : Sound clock (step clock s event) := by
  cases event with
  | edit edit =>
    simp only [RegistryReload.step]
    split
    · exact sound
    · exact { sound with keyed := sound.keyed.edit edit }
  | pair d moment => exact { sound with }
  | unpair d => exact { sound with }
  | pass duration => exact { sound with }
  | restart => exact sound.restart
  | writePaired => exact { sound with }
  | renamePaired =>
    simp only [RegistryReload.step]
    split
    · exact { sound with }
    · exact sound
  | beginSave =>
    simp only [RegistryReload.step]
    split
    · refine ⟨sound.keyed, sound.savedKeyed, sound.onDisk, fun entry member => ?_, keyed_empty⟩
      obtain ⟨found, inside, rfl⟩ := List.mem_map.mp member
      exact sound.keyed found.1 found.2 ((AList.mem_lookup_iff).mpr inside)
    · exact sound
  | checkNext =>
    have stage := sound.stage
    simp only [RegistryReload.step]
    split
    · rename_i id device todo kept filtering
      rw [filtering] at stage
      obtain ⟨own, keyed⟩ := stage
      refine ⟨sound.keyed, sound.savedKeyed, sound.onDisk, fun entry member => own entry (List.mem_cons_of_mem _ member), ?_⟩
      split
      · exact keyed.insert (own (id, device) List.mem_cons_self)
      · exact keyed
    · rename_i kept filtered
      rw [filtered] at stage
      exact ⟨sound.keyed, sound.savedKeyed, sound.onDisk, stage.2⟩
    · exact sound
  | writeTemp =>
    have stage := sound.stage
    simp only [RegistryReload.step]
    split
    · rename_i kept serialized
      rw [serialized] at stage
      exact ⟨sound.keyed, sound.savedKeyed, sound.onDisk, stage, rfl⟩
    · exact sound
  | renameTemp =>
    have stage := sound.stage
    simp only [RegistryReload.step]
    split
    · rename_i kept written
      rw [written] at stage
      obtain ⟨keyed, temp⟩ := stage
      obtain ⟨read, decoded, found⟩ := RegistryFile.decodeDevices_encode clock kept
      refine ⟨sound.keyed, keyed, fun d => ?_, trivial⟩
      simp [loadDevices, temp, decoded, found]
    · exact sound

theorem sound_run (sound : Sound clock s) (events : List StoreEvent) : Sound clock (run clock events s) := by
  induction events generalizing s with
  | nil => exact sound
  | cons event events ih => exact ih (sound.step event)

/-- Wherever the process stops, a new one has exactly one record for each
device that was paired in the last completed save, under its id and as it was
saved, unless the device is off the pairing list by then, was not saved as
connected, and was last seen more than thirty days ago. -/
theorem reload_exact (sound : Sound clock s) (events : List StoreEvent) (d : DeviceId) (device : Device) :
    ((loadPersistedData clock (run clock events s)).devices.lookup d = some device ↔
      (run clock events s).saved.lookup d = some device ∧
        (((loadPaired (run clock events s).files).lookup d).isSome ∨ device.state = .connected ∨
          (run clock events s).now - staleDeviceTtl ≤ device.lastSeen)) ∧
    ((loadPersistedData clock (run clock events s)).devices.lookup d = some device → device.id = d) := by
  have after := sound_run sound events
  refine ⟨?_, fun found => after.restart.keyed d device found⟩
  rw [loadPersistedData, Table.lookup_retain, after.onDisk, Option.filter_eq_some_iff]
  simp [keepsRecord, or_assoc]

section Save

variable (clock) in
theorem run_checks (s : StoreState) (todo : List (DeviceId × Device)) (kept : Devices) (filtering : s.saving = .filtering todo kept) :
    run clock (List.replicate (todo.length + 1) .checkNext) s =
      { s with saving := .serialized (todo.foldl (fun kept (id, device) =>
        if (s.paired.lookup device.id).isSome then kept.insert id device else kept) kept) } := by
  induction todo generalizing s kept with
  | nil => simp [run, RegistryReload.step, filtering]
  | cons entry todo ih =>
    rw [List.length_cons, List.replicate_succ, run, List.foldl_cons, ← run]
    simp only [RegistryReload.step, filtering]
    rw [ih _ _ rfl]
    rfl

theorem lookup_gathered (paired : Table DeviceId Time) (entries : List (Sigma fun _ : DeviceId => Device)) (distinct : entries.NodupKeys)
    (kept : Devices) (d : DeviceId) :
    ((entries.map fun entry => (entry.1, entry.2)).foldl (fun (kept : Devices) (id, device) =>
        if (paired.lookup device.id).isSome then kept.insert id device else kept) kept).lookup d =
      ((List.dlookup d entries).filter fun device => (paired.lookup device.id).isSome).or (kept.lookup d) := by
  induction entries generalizing kept with
  | nil => simp
  | cons entry entries ih =>
    obtain ⟨id, device⟩ := entry
    obtain ⟨absent, others⟩ := List.nodupKeys_cons.mp distinct
    rw [List.map_cons, List.foldl_cons, ih others]
    by_cases same : d = id
    · subst same
      have gone : List.dlookup d entries = none := List.dlookup_eq_none.mpr absent
      by_cases here : (paired.lookup device.id).isSome <;> simp [gone, here, Option.filter_some]
    · rw [List.dlookup_cons_ne entries ⟨id, device⟩ same]
      dsimp only
      split
      · rw [AList.lookup_insert_ne same]
      · rfl

/-- A save that nothing comes between writes the records of the paired devices. -/
theorem run_save (idle : s.saving = .idle) (d : DeviceId) :
    (run clock (.beginSave :: List.replicate (s.devices.len + 1) .checkNext ++ [.writeTemp, .renameTemp]) s).saved.lookup d =
      (s.devices.lookup d).filter fun device => (s.paired.lookup device.id).isSome := by
  have gathered := lookup_gathered s.paired s.devices.entries s.devices.nodupKeys ∅ d
  rw [AList.lookup_empty, Option.or_none] at gathered
  refine Eq.trans ?_ gathered
  have begun : step clock s .beginSave = { s with saving := .filtering (s.devices.entries.map fun entry => (entry.1, entry.2)) ∅ } := by
    simp only [RegistryReload.step, idle]
  have length : s.devices.len = (s.devices.entries.map fun entry => (entry.1, entry.2)).length := by simp [Table.len]
  have checked := run_checks clock (step clock s .beginSave) _ ∅ (congrArg StoreState.saving begun)
  rw [← length, begun] at checked
  rw [run, List.cons_append, List.foldl_cons, List.foldl_append, begun]
  change (run clock _ (run clock _ _)).saved.lookup d = _
  rw [checked]
  rfl

end Save

section Sample

def sampleMoment : Time := seconds 1000

/-- The sample moment as `chrono` writes it; other moments in some other way. -/
def sampleClock : TimeText where
  text t := if t = sampleMoment then "1970-01-01T00:16:40Z" else String.ofList (List.replicate (Encodable.encode t) 'x')
  parse text := if text = "1970-01-01T00:16:40Z" then some sampleMoment else Encodable.decode text.toList.length
  round t := by
    by_cases same : t = sampleMoment
    · simp [same]
    · have other : String.ofList (List.replicate (Encodable.encode t) 'x') ≠ "1970-01-01T00:16:40Z" := by
        intro equal
        have letters : List.replicate (Encodable.encode t) 'x' = "1970-01-01T00:16:40Z".toList := by
          rw [← equal, String.toList_ofList]
        have first : '1' ∈ List.replicate (Encodable.encode t) 'x' := by
          rw [letters]
          decide
        exact absurd (List.eq_of_mem_replicate first) (by decide)
      rw [if_neg same, if_neg other, String.toList_ofList, List.length_replicate, Encodable.encodek]

def connectedRecord : Device := { Device.new "phone" "Phone" .phone 8 sampleMoment with state := .connected }

def awayRecord : Device := { Device.new "tablet" "Tablet" .tablet 8 sampleMoment with state := .disconnected }

/-- A phone that is connected and a tablet that is not, both paired. -/
def sampleStore : StoreState where
  devices := AList.insert "phone" connectedRecord (AList.insert "tablet" awayRecord ∅)
  paired := AList.insert "phone" sampleMoment (AList.insert "tablet" sampleMoment ∅)
  now := sampleMoment

theorem sampleStore_sound : Sound sampleClock sampleStore where
  keyed := by
    have tablet : Keyed (AList.insert "tablet" awayRecord ∅) := keyed_empty.insert rfl
    exact tablet.insert rfl
  savedKeyed := keyed_empty
  onDisk _ := rfl
  stage := trivial

def sampleSave : List StoreEvent := [.beginSave, .checkNext, .checkNext, .checkNext, .writeTemp, .renameTemp]

/-- The tablet is unpaired, the pairings are saved, and a month goes by. -/
def sampleUnpair : List StoreEvent := sampleSave ++ [.unpair "tablet", .writePaired, .renamePaired, .pass (seconds (31 * 86400))]

/-- The process stops after a second save has written its file and before the file is renamed. -/
theorem tablet_reloaded :
    (loadPersistedData sampleClock (run sampleClock (sampleSave ++ sampleSave.take 5) sampleStore)).devices.lookup "tablet" =
      some awayRecord := by
  refine (reload_exact sampleStore_sound (sampleSave ++ sampleSave.take 5) "tablet" awayRecord).1.mpr ⟨rfl, .inr (.inr ?_)⟩
  decide

/-- A record comes back as connected, and one that was saved does not come back. -/
theorem reload_not_as_claimed :
    ¬(∀ (s : StoreState) (events : List StoreEvent), Sound sampleClock s → ∀ d device,
      (loadPersistedData sampleClock (run sampleClock events s)).devices.lookup d = some device → device.state ≠ .connected) ∧
    ¬(∀ (s : StoreState) (events : List StoreEvent), Sound sampleClock s → ∀ d device,
      (run sampleClock events s).saved.lookup d = some device →
      ((loadPersistedData sampleClock (run sampleClock events s)).devices.lookup d).isSome) := by
  refine ⟨fun always => ?_, fun always => ?_⟩
  · exact always sampleStore sampleSave sampleStore_sound "phone" connectedRecord (by decide +kernel) rfl
  · have found := always sampleStore sampleUnpair sampleStore_sound "tablet" awayRecord (by decide +kernel)
    exact absurd found (by decide +kernel)

end Sample

end RegistryReload

end RustConnect
