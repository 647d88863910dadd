import RustConnect.Base.Entries
import RustConnect.Base.History
import RustConnect.RegistryReload

namespace RustConnect

open RegistryReload

namespace DeviceRegistry

/-- `modify`: the closure sees the record and may change it; a record whose id it has changed is put back. -/
def modify {ε α : Type} (fail : Error → ε) (deviceId : DeviceId) (f : Device → Except ε α × Device) (devices : Devices) :
    Except ε α × Devices :=
  match devices.lookup deviceId with
  | none => (.error (fail (.deviceNotFound deviceId)), devices)
  | some original =>
    if (f original).2.id ≠ original.id then
      (.error (fail (.invalidRequest "DeviceRegistry::modify must not change the device id")), devices)
    else
      ((f original).1, devices.insert deviceId (f original).2)

end DeviceRegistry

/-- The registry, the shared set of paired devices and the clock. -/
structure CapState where
  devices : Devices := ∅
  paired : Table DeviceId Time := ∅
  now : Time := 0

/-- What is done to the registry, and what happens around it. The order in
which a `HashMap` shows its entries can be any and can change at any time. -/
inductive RegistryOp
  | edit (edit : RegistryEdit)
  | modify (deviceId : DeviceId) (f : Device → Except Error Unit × Device)
  | pair (deviceId : DeviceId) (moment : Time)
  | unpair (deviceId : DeviceId)
  | pass (duration : Time)
  | reorder (order : List (Σ _ : DeviceId, Device))

namespace RegistryCap

def reorder (order : List (Σ _ : DeviceId, Device)) (devices : Devices) : Devices :=
  if same : order.Perm devices.entries then ⟨order, (List.perm_nodupKeys same).mpr devices.nodupKeys⟩ else devices

def step (s : CapState) : RegistryOp → CapState
  | .edit edit => { s with devices := edit.apply s.paired s.now s.devices }
  | .modify d f => { s with devices := (DeviceRegistry.modify id d f s.devices).2 }
  | .pair d moment => { s with paired := s.paired.insert d moment }
  | .unpair d => { s with paired := s.paired.erase d }
  | .pass duration => { s with now := s.now + duration }
  | .reorder order => { s with devices := reorder order s.devices }

/-- The state after the first `k` of the operations, with an empty registry at first. -/
def stateAt (ops : List RegistryOp) (k : Nat) : CapState := History.stateAt step {} ops k

def records (devices : Devices) : List Device := devices.entries.map Sigma.snd

/-- The records of devices that are not truly paired. -/
def unpaired (paired : Table DeviceId Time) (devices : Devices) : List Device :=
  (records devices).filter fun device => !(paired.lookup device.id).isSome

/-- The records that are gone. -/
def evicted (before after : Devices) : List Device := (records before).filter fun device => (after.lookup device.id).isNone

/-- A new record has been put in, for which as many of the unpaired records as
needed have made room, those seen longest ago first. -/
structure Capped (paired : Table DeviceId Time) (before after : Devices) (device : Device) : Prop where
  present : after.lookup device.id = some device
  capped : (unpaired paired after).length ≤ DeviceRegistry.maxUnpairedDevices
  trusted : ∀ gone ∈ evicted before after, paired.lookup gone.id = none
  count : (evicted before after).length = (unpaired paired before).length + 1 - DeviceRegistry.maxUnpairedDevices
  oldest : ∀ gone ∈ evicted before after, ∀ kept ∈ unpaired paired before, kept ∉ evicted before after →
    gone.lastSeen ≤ kept.lastSeen
  others : ∀ d, d ≠ device.id → (∀ gone ∈ evicted before after, gone.id ≠ d) → after.lookup d = before.lookup d

variable {devices : Devices} {paired : Table DeviceId Time}

theorem mem_records {device : Device} (keyed : Keyed devices) : device ∈ records devices ↔ devices.lookup device.id = some device := by
  unfold records
  rw [List.mem_map]
  constructor
  · rintro ⟨⟨d, _⟩, member, rfl⟩
    have found := AList.mem_lookup_iff.mpr member
    rw [← keyed d _ found] at found
    exact found
  · exact fun found => ⟨⟨device.id, device⟩, AList.mem_lookup_iff.mp found, rfl⟩

theorem map_id_records (keyed : Keyed devices) : (records devices).map Device.id = devices.keys := by
  unfold records AList.keys List.keys
  rw [List.map_map]
  refine List.map_congr_left fun entry member => ?_
  exact keyed entry.1 entry.2 (AList.mem_lookup_iff.mpr member)

theorem nodup_unpaired (keyed : Keyed devices) : ((unpaired paired devices).map Device.id).Nodup := by
  have all : ((records devices).map Device.id).Nodup := by
    rw [map_id_records keyed]
    exact devices.keys_nodup
  exact all.sublist (List.filter_sublist.map _)

/-- The records that make room for a new one. -/
structure MakesRoom (paired : Table DeviceId Time) (before after : Devices) (gone : List Device) : Prop where
  count : gone.length = (unpaired paired before).length + 1 - DeviceRegistry.maxUnpairedDevices
  left : (unpaired paired after).length = (unpaired paired before).length - gone.length
  distinct : (gone.map Device.id).Nodup
  within : ∀ device ∈ gone, device ∈ unpaired paired before
  oldest : ∀ device ∈ gone, ∀ kept ∈ unpaired paired before, kept ∉ gone → device.lastSeen ≤ kept.lastSeen
  lookup : ∀ d, after.lookup d = if d ∈ gone.map Device.id then none else before.lookup d

theorem unpaired_filter (keyed : Keyed devices) {fewer : Devices} {ids : List DeviceId}
    (entries : fewer.entries = devices.entries.filter fun e => e.1 ∉ ids) :
    unpaired paired fewer = (unpaired paired devices).filter fun device => device.id ∉ ids := by
  have same : records fewer = (records devices).filter fun device => device.id ∉ ids := by
    unfold records
    rw [entries, List.filter_map]
    refine congrArg _ (List.filter_congr fun entry member => ?_)
    rw [Function.comp_apply, keyed entry.1 entry.2 (AList.mem_lookup_iff.mpr member)]
  unfold unpaired
  rw [same, List.filter_filter, List.filter_filter]
  exact List.filter_congr fun device _ => Bool.and_comm _ _

/-- The first of the unpaired records, in an order by the time they were seen, make room. -/
theorem makesRoom_of_order (keyed : Keyed devices) {order : List Device} (permuted : order.Perm (unpaired paired devices))
    (sorted : order.Pairwise fun one other => one.lastSeen ≤ other.lastSeen) {n : Nat}
    (needed : n = (unpaired paired devices).length + 1 - DeviceRegistry.maxUnpairedDevices) :
    MakesRoom paired devices ((order.take n).foldl (fun devices gone => devices.erase gone.id) devices) (order.take n) := by
  have ids : (order.map Device.id).Nodup := (permuted.map Device.id).nodup_iff.mpr (nodup_unpaired keyed)
  have long : order.length = (unpaired paired devices).length := permuted.length_eq
  have fits : n ≤ order.length := by
    unfold DeviceRegistry.maxUnpairedDevices at needed
    omega
  have entries : ((order.take n).foldl (fun devices gone => devices.erase gone.id) devices).entries =
      devices.entries.filter fun e => e.1 ∉ (order.take n).map Device.id := by
    rw [← Table.entries_foldl_erase, List.foldl_map]
  refine ⟨?_, ?_, ?_, fun device member => ?_, fun device member kept there stays => ?_, fun d => ?_⟩
  · rw [List.length_take, Nat.min_eq_left fits, needed]
  · have rest : ((unpaired paired devices).filter fun device => device.id ∉ (order.take n).map Device.id).Perm (order.drop n) := by
      have same := permuted.symm.filter fun device => decide (device.id ∉ (order.take n).map Device.id)
      rwa [Table.filter_not_mem_take Device.id order ids n] at same
    rw [unpaired_filter keyed entries, rest.length_eq, List.length_drop, long, List.length_take, long, Nat.min_eq_left (long ▸ fits)]
  · exact ids.sublist ((List.take_sublist n order).map _)
  · exact permuted.mem_iff.mp (List.mem_of_mem_take member)
  · rw [← List.take_append_drop n order, List.pairwise_append] at sorted
    have split : kept ∈ order.take n ∨ kept ∈ order.drop n := by
      rw [← List.mem_append, List.take_append_drop]
      exact permuted.mem_iff.mpr there
    exact sorted.2.2 device member kept (split.resolve_left stays)
  · have erased := Table.lookup_foldl_erase d ((order.take n).map Device.id) devices
    rwa [List.foldl_map] at erased

theorem enforceUnpairedCap_makesRoom (keyed : Keyed devices) {incoming : Device} (stranger : paired.lookup incoming.id = none) :
    ∃ gone, MakesRoom paired devices (DeviceRegistry.enforceUnpairedCap paired devices incoming) gone := by
  have notPaired : ¬(paired.lookup incoming.id).isSome = true := by simp [stranger]
  have unfolded : DeviceRegistry.enforceUnpairedCap paired devices incoming =
      if (unpaired paired devices).length < DeviceRegistry.maxUnpairedDevices then devices
      else (((unpaired paired devices).mergeSort fun one other => one.lastSeen ≤ other.lastSeen).take
        ((unpaired paired devices).length - DeviceRegistry.maxUnpairedDevices + 1)).foldl
        (fun devices gone => devices.erase gone.id) devices := if_neg notPaired
  rw [unfolded]
  split
  case isTrue few =>
    have none : (unpaired paired devices).length + 1 - DeviceRegistry.maxUnpairedDevices = 0 := by omega
    exact ⟨[], ⟨none.symm, rfl, List.nodup_nil, by simp, by simp, by simp⟩⟩
  case isFalse many =>
    have transitive (a b c : Device) (first : decide (a.lastSeen ≤ b.lastSeen) = true) (second : decide (b.lastSeen ≤ c.lastSeen) = true) :
        decide (a.lastSeen ≤ c.lastSeen) = true :=
      decide_eq_true (Int.le_trans (of_decide_eq_true first) (of_decide_eq_true second))
    have total (a b : Device) : (decide (a.lastSeen ≤ b.lastSeen) || decide (b.lastSeen ≤ a.lastSeen)) = true := by
      simpa using Int.le_total a.lastSeen b.lastSeen
    have sorted := List.pairwise_mergeSort transitive total (unpaired paired devices)
    refine ⟨_, makesRoom_of_order keyed (List.mergeSort_perm _ _) (sorted.imp fun le => of_decide_eq_true le) ?_⟩
    omega

theorem MakesRoom.mem_evicted {before after : Devices} {gone : List Device} (room : MakesRoom paired before after gone)
    (keyed : Keyed before) {device : Device} (new : before.lookup device.id = none) {record : Device} :
    record ∈ evicted before (after.insert device.id device) ↔ record ∈ gone := by
  have known {found : Device} (member : found ∈ gone) : before.lookup found.id = some found :=
    (mem_records keyed).mp (List.mem_of_mem_filter (room.within found member))
  have lookup {found : Device} (there : before.lookup found.id = some found) :
      (after.insert device.id device).lookup found.id = if found.id ∈ gone.map Device.id then none else before.lookup found.id := by
    have other : found.id ≠ device.id := by
      intro same
      rw [same, new] at there
      cases there
    rw [Table.lookup_insert_of, if_neg other, room.lookup]
  unfold evicted
  rw [List.mem_filter, mem_records keyed]
  constructor
  · rintro ⟨there, missing⟩
    by_contra stays
    have unnamed : record.id ∉ gone.map Device.id := by
      intro named
      obtain ⟨found, member, same⟩ := List.mem_map.mp named
      have record_eq : some found = some record := (known member).symm.trans (same ▸ there)
      exact stays (Option.some.inj record_eq ▸ member)
    rw [lookup there, if_neg unnamed, there] at missing
    cases missing
  · intro member
    refine ⟨known member, ?_⟩
    rw [lookup (known member), if_pos (List.mem_map_of_mem member)]
    rfl

/-- A new record of a stranger is put in where others have made room for it. -/
theorem MakesRoom.insert {before after : Devices} {gone : List Device} (room : MakesRoom paired before after gone) (keyed : Keyed before)
    {device : Device} (new : before.lookup device.id = none) : Capped paired before (after.insert device.id device) device := by
  have members {record : Device} : record ∈ evicted before (after.insert device.id device) ↔ record ∈ gone := room.mem_evicted keyed new
  have distinct : (evicted before (after.insert device.id device)).Nodup := by
    refine List.Nodup.sublist List.filter_sublist (List.Nodup.of_map Device.id ?_)
    rw [map_id_records keyed]
    exact before.keys_nodup
  have absent : device.id ∉ after := by
    rw [← AList.lookup_eq_none, room.lookup, new, ite_self]
  have count : (evicted before (after.insert device.id device)).length = gone.length :=
    ((List.perm_ext_iff_of_nodup distinct (List.Nodup.of_map _ room.distinct)).mpr fun _ => members).length_eq
  have grown : (unpaired paired (after.insert device.id device)).length ≤ (unpaired paired after).length + 1 := by
    unfold unpaired records
    rw [AList.entries_insert_of_notMem absent, List.map_cons, List.filter_cons]
    split
    · rw [List.length_cons]
    · exact Nat.le_succ _
  refine ⟨AList.lookup_insert _, ?_, fun lost member => ?_, count.trans room.count, fun lost member kept there stays => ?_, fun d other stays => ?_⟩
  · have left := room.left
    have taken := room.count
    unfold DeviceRegistry.maxUnpairedDevices at taken ⊢
    omega
  · have stranger := (List.mem_filter.mp (room.within lost (members.mp member))).2
    simpa using stranger
  · exact room.oldest lost (members.mp member) kept there fun gone => stays (members.mpr gone)
  · have unnamed : d ∉ gone.map Device.id := by
      intro named
      obtain ⟨found, member, same⟩ := List.mem_map.mp named
      exact stays found (members.mpr member) same
    rw [Table.lookup_insert_of, if_neg other, room.lookup, if_neg unnamed]

theorem lookup_reorder (order : List (Σ _ : DeviceId, Device)) (d : DeviceId) : (reorder order devices).lookup d = devices.lookup d := by
  unfold reorder
  split
  · rename_i same
    exact AList.perm_lookup same
  · rfl

theorem Keyed.modify (keyed : Keyed devices) (d : DeviceId) (f : Device → Except Error Unit × Device) :
    Keyed (DeviceRegistry.modify id d f devices).2 := by
  unfold DeviceRegistry.modify
  split
  · exact keyed
  · rename_i original found
    split
    · exact keyed
    · rename_i same
      exact keyed.insert ((not_not.mp same).trans (keyed d original found))

/-- Every record stays under its own id. -/
theorem keyed_stateAt (ops : List RegistryOp) (k : Nat) : Keyed (stateAt ops k).devices := by
  refine History.invariant (I := fun s : CapState => Keyed s.devices) keyed_empty (fun op _ s keyed => ?_) k
  cases op with
  | edit edit => exact keyed.edit edit
  | modify d f => exact Keyed.modify keyed d f
  | pair d moment => exact keyed
  | unpair d => exact keyed
  | pass duration => exact keyed
  | reorder order => exact keyed.of_subset fun d device found => (lookup_reorder order d).symm.trans found

/-- The operation puts the record in if there is none of the device. -/
def Inserts (device : Device) (op : RegistryOp) : Prop :=
  op = .edit (.registry (.add device)) ∨ op = .edit (.registry (.upsertDevice device))

/-- Whatever was done to the registry before, a new record of a device that is
not paired keeps to the cap, and one of a known device changes no ids. -/
theorem registry_capped (ops : List RegistryOp) (k : Nat) (device : Device) :
    (∀ op, ops[k]? = some op → Inserts device op → (stateAt ops k).devices.lookup device.id = none →
      (stateAt ops k).paired.lookup device.id = none →
      Capped (stateAt ops k).paired (stateAt ops k).devices (stateAt ops (k + 1)).devices device) ∧
    (ops[k]? = some (.edit (.registry (.upsertDevice device))) → (stateAt ops k).devices.lookup device.id ≠ none →
      ∀ d, d ∈ (stateAt ops (k + 1)).devices ↔ d ∈ (stateAt ops k).devices) := by
  have keyed := keyed_stateAt ops k
  refine ⟨fun op here inserts new stranger => ?_, fun here known d => ?_⟩
  · obtain ⟨gone, room⟩ := enforceUnpairedCap_makesRoom keyed stranger
    have onward : (stateAt ops (k + 1)).devices = (DeviceRegistry.enforceUnpairedCap (stateAt ops k).paired (stateAt ops k).devices
        device).insert device.id device := by
      have stepped : stateAt ops (k + 1) = step (stateAt ops k) op := History.stateAt_succ here
      rw [stepped]
      rcases inserts with rfl | rfl
      · simp [step, RegistryEdit.apply, RegistryAction.exec, DeviceRegistry.add, new]
      · simp [step, RegistryEdit.apply, RegistryAction.exec, DeviceRegistry.upsertDevice, new]
    rw [onward]
    exact room.insert keyed new
  · obtain ⟨existing, found⟩ := Option.ne_none_iff_exists'.mp known
    have stepped : stateAt ops (k + 1) = step (stateAt ops k) _ := History.stateAt_succ here
    have member : device.id ∈ (stateAt ops k).devices := AList.lookup_isSome.mp (by rw [found]; rfl)
    rw [stepped]
    simp only [step, RegistryEdit.apply, RegistryAction.exec, DeviceRegistry.upsertDevice, found, AList.mem_insert]
    constructor
    · rintro (rfl | there)
      · exact member
      · exact there
    · exact .inr

section Sample

def sampleDevice (n : Nat) : Device := .new (String.ofList (List.replicate n 'a')) "phone" .phone 8 n

def adds (n : Nat) : RegistryOp := .edit (.registry (.add (sampleDevice n)))

example : (sampleDevice 3).id = "aaa" := by decide +kernel

/-- A device is found and paired, and then sixty-five strangers are found one after the other. -/
def crowd : List RegistryOp := [adds 0, .pair "" 0] ++ (List.range 65).map fun n => adds (n + 1)

theorem crowd_capped : (stateAt crowd 66).devices.len = 65 ∧
    Capped (stateAt crowd 66).paired (stateAt crowd 66).devices (stateAt crowd 67).devices (sampleDevice 65) := by
  refine ⟨by decide +kernel, (registry_capped crowd 66 (sampleDevice 65)).1 (adds 65) rfl (.inl rfl) ?_ ?_⟩
  · decide +kernel
  · decide +kernel

end Sample

end RegistryCap

end RustConnect
