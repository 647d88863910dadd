import RustConnect.JsonFields
import RustConnect.Base.Table

namespace RustConnect

/-- One audio sink as the desktop peer describes it. -/
structure SinkState where
  name : String
  description : Option String := none
  volume : Option Int64 := none
  maxVolume : Option Int64 := none
  muted : Option Bool := none
  enabled : Option Bool := none
  deriving DecidableEq

/-- One sink as the backend of this desktop reports it. -/
structure LocalSinkState where
  name : String
  description : Option String := none
  volume : Option Int64 := none
  maxVolume : Option Int64 := none
  muted : Option Bool := none
  enabled : Option Bool := none
  deriving DecidableEq

abbrev SinkMap := Table String SinkState

/-- What is shown of a sink besides its name. -/
structure SinkLevels where
  volume : Option Int64
  muted : Option Bool
  enabled : Option Bool
  deriving DecidableEq

/-- The levels that the fields of a delta replace. -/
def SinkLevels.update (body : Json) (levels : SinkLevels) : SinkLevels :=
  ⟨((body.get "volume").bind Json.asInt64).or levels.volume, ((body.get "muted").bind Json.asBool).or levels.muted,
    ((body.get "enabled").bind Json.asBool).or levels.enabled⟩

namespace SinkState

def ofLocal (s : LocalSinkState) : SinkState :=
  ⟨s.name, s.description, s.volume, s.maxVolume, s.muted, s.enabled⟩

def levels (s : SinkState) : SinkLevels := ⟨s.volume, s.muted, s.enabled⟩

def encode (s : SinkState) : Json :=
  .obj [("name", .str s.name), ("description", .ofOption .str s.description),
    ("volume", .ofOption (.ofInt ·.toInt) s.volume), ("maxVolume", .ofOption (.ofInt ·.toInt) s.maxVolume),
    ("muted", .ofOption .bool s.muted), ("enabled", .ofOption .bool s.enabled)]

def ofFields (name description volume maxVolume muted enabled : Option Json) : Option SinkState := do
  let name ← name.bind Json.asStr
  let description ← Json.optional Json.asStr description
  let volume ← Json.optional Json.asInt64 volume
  let maxVolume ← Json.optional Json.asInt64 maxVolume
  let muted ← Json.optional Json.asBool muted
  let enabled ← Json.optional Json.asBool enabled
  return ⟨name, description, volume, maxVolume, muted, enabled⟩

/-- The derived `Deserialize`, which also reads the fields from an array, in their order. -/
def decode : Json → Option SinkState
  | .obj members =>
    let field (key : String) := (Json.obj members).get key
    ofFields (field "name") (field "description") (field "volume") (field "maxVolume") (field "muted") (field "enabled")
  | .arr items =>
    if items.length ≤ 6 then ofFields items[0]? items[1]? items[2]? items[3]? items[4]? items[5]? else none
  | _ => none

theorem decode_encode (s : SinkState) : decode (encode s) = some s := by
  have visible (n : Int64) : Json.ofInt n.toInt ≠ .null := nofun
  have text (value : Option String) : Json.optional Json.asStr (some (.ofOption .str value)) = some value :=
    @Json.optional_ofOption String Json.asStr Json.str (fun _ => rfl) (fun _ => nofun) value
  have number (value : Option Int64) : Json.optional Json.asInt64 (some (.ofOption (.ofInt ·.toInt) value)) = some value :=
    Json.optional_ofOption Json.asInt64_ofInt visible value
  have flag (value : Option Bool) : Json.optional Json.asBool (some (.ofOption .bool value)) = some value :=
    @Json.optional_ofOption Bool Json.asBool Json.bool (fun _ => rfl) (fun _ => nofun) value
  show ofFields (some (.str s.name)) (some (.ofOption .str s.description)) (some (.ofOption (.ofInt ·.toInt) s.volume))
    (some (.ofOption (.ofInt ·.toInt) s.maxVolume)) (some (.ofOption .bool s.muted)) (some (.ofOption .bool s.enabled)) = _
  simp only [ofFields, text, number, flag, Option.bind_some]
  rfl

/-- The fields that a delta carries replace those of the sink. -/
def update (body : Json) (s : SinkState) : SinkState :=
  { s with
    volume := ((body.get "volume").bind Json.asInt64).or s.volume
    muted := ((body.get "muted").bind Json.asBool).or s.muted
    enabled := ((body.get "enabled").bind Json.asBool).or s.enabled }

end SinkState

namespace SystemVolume

/-- The sinks under their names: of several with one name the last counts. -/
def collect (sinks : List SinkState) : SinkMap := sinks.foldl (fun t s => t.insert s.name s) ∅

/-- The entries of a `sinkList` that are read: those with a name. -/
def parseList (list : List Json) : List SinkState := (list.filterMap SinkState.decode).filter fun sink => sink.name ≠ ""

/-- `handle_controller_state` for the packet with this body, on the sinks of all devices. -/
def handleControllerState (deviceId : DeviceId) (sinks : Table DeviceId SinkMap) (body : Json) : Table DeviceId SinkMap :=
  match (body.get "sinkList").bind Json.asArray with
  | some list => sinks.insert deviceId (collect (parseList list))
  | none =>
    match (body.get "name").bind Json.asStr with
    | none => sinks
    | some name =>
      match sinks.lookup deviceId with
      | none => sinks
      | some mirror =>
        match mirror.lookup name with
        | none => sinks
        | some sink => sinks.insert deviceId (mirror.insert name (sink.update body))

/-- The body `{ "name": name, field: value }`. -/
def delta (name field : String) (value : Json) : Json := .obj [("name", .str name), (field, value)]

def sinkDeltas (prev : SinkState) (sink : SinkState) : List Json :=
  (if prev.volume ≠ sink.volume then [delta sink.name "volume" (.ofOption (.ofInt ·.toInt) sink.volume)] else []) ++
    (if prev.muted ≠ sink.muted then [delta sink.name "muted" (.ofOption .bool sink.muted)] else []) ++
    (if prev.enabled ≠ sink.enabled then [delta sink.name "enabled" (.ofOption .bool sink.enabled)] else [])

/-- The bodies of the packets of `build_deltas`. -/
def buildDeltas (old : SinkMap) (new : List LocalSinkState) : List Json :=
  new.flatMap fun s =>
    match old.lookup s.name with
    | none => []
    | some prev => sinkDeltas prev (.ofLocal s)

def sinkListBody (sinks : List SinkState) : Json := .obj [("sinkList", .arr (sinks.map SinkState.encode))]

/-- What the supervisor compares with, and what the plugin answers with. -/
structure Snapshots where
  localSinks : SinkMap := ∅
  defaultSink : Option String := none
  liveSinks : SinkMap := ∅
  liveDefault : Option String := none

variable (iterate : SinkMap → List SinkState)

def newMap (newList : List LocalSinkState) : SinkMap := collect (newList.map .ofLocal)

def newDefault (newList : List LocalSinkState) : Option String :=
  ((iterate (newMap newList)).find? fun s => s.enabled = some true).map SinkState.name

def setChanged (old new : SinkMap) : Bool := old.len ≠ new.len || new.keys.any fun name => name ∉ old.keys

/-- `push_local_state`: the new snapshots and the bodies of the packets that go to every connected device. `iterate` is
the order in which a map's values are visited. -/
def pushLocalState (newList : List LocalSinkState) (s : Snapshots) : Snapshots × List Json :=
  let new := newMap newList
  let default := newDefault iterate newList
  let list := if s.defaultSink ≠ default || setChanged s.localSinks new then [sinkListBody (iterate new)] else []
  (⟨new, default, new, default⟩, buildDeltas s.localSinks newList ++ list)

theorem lookup_foldl_insert (sinks : List SinkState) (distinct : (sinks.map SinkState.name).Nodup) (t : SinkMap) (name : String)
    (sink : SinkState) : (sinks.foldl (fun t s => t.insert s.name s) t).lookup name = some sink ↔
      (sink ∈ sinks ∧ sink.name = name) ∨ (name ∉ sinks.map SinkState.name ∧ t.lookup name = some sink) := by
  induction sinks generalizing t with
  | nil => simp
  | cons first rest ih =>
    obtain ⟨apart, distinctRest⟩ := List.nodup_cons.mp distinct
    rw [List.foldl_cons, ih distinctRest, Table.lookup_insert_of]
    by_cases here : name = first.name
    · subst here
      rw [if_pos rfl]
      constructor
      · rintro (⟨member, same⟩ | ⟨-, found⟩)
        · exact absurd (same ▸ List.mem_map_of_mem member) apart
        · obtain rfl : first = sink := Option.some.inj found
          exact .inl ⟨List.mem_cons_self, rfl⟩
      · rintro (⟨member, same⟩ | ⟨missing, -⟩)
        · rcases List.mem_cons.mp member with rfl | later
          · exact .inr ⟨apart, rfl⟩
          · exact absurd (same ▸ List.mem_map_of_mem later) apart
        · exact absurd List.mem_cons_self missing
    · rw [if_neg here]
      have other : sink.name = name → sink ≠ first := fun same equal => here (equal ▸ same.symm)
      simp only [List.mem_cons, List.map_cons, not_or]
      constructor
      · rintro (⟨member, same⟩ | ⟨missing, found⟩)
        · exact .inl ⟨.inr member, same⟩
        · exact .inr ⟨⟨here, missing⟩, found⟩
      · rintro (⟨member, same⟩ | ⟨⟨-, missing⟩, found⟩)
        · exact .inl ⟨member.resolve_left (other same), same⟩
        · exact .inr ⟨missing, found⟩

theorem lookup_collect {sinks : List SinkState} (distinct : (sinks.map SinkState.name).Nodup) (name : String) (sink : SinkState) :
    (collect sinks).lookup name = some sink ↔ sink ∈ sinks ∧ sink.name = name := by
  have folded := lookup_foldl_insert sinks distinct ∅ name sink
  have empty : (∅ : SinkMap).lookup name = none := AList.lookup_empty name
  rw [empty] at folded
  simp only [reduceCtorEq, and_false, or_false] at folded
  exact folded

theorem name_of_collected {sinks : List SinkState} (distinct : (sinks.map SinkState.name).Nodup) :
    ((collect sinks).entries.map (·.2)).map SinkState.name = (collect sinks).keys := by
  rw [List.map_map]
  refine List.map_congr_left fun entry member => ?_
  have found : (collect sinks).lookup entry.1 = some entry.2 := AList.mem_lookup_iff.mpr member
  exact ((lookup_collect distinct entry.1 entry.2).mp found).2

theorem mem_values {t : SinkMap} {sink : SinkState} : sink ∈ t.entries.map (·.2) ↔ ∃ name, t.lookup name = some sink := by
  constructor
  · intro member
    obtain ⟨entry, there, rfl⟩ := List.mem_map.mp member
    exact ⟨entry.1, AList.mem_lookup_iff.mpr there⟩
  · rintro ⟨name, found⟩
    exact List.mem_map.mpr ⟨⟨name, sink⟩, AList.mem_lookup_iff.mp found, rfl⟩

theorem parseList_encode {sinks : List SinkState} (named : ∀ sink ∈ sinks, sink.name ≠ "") :
    parseList (sinks.map SinkState.encode) = sinks := by
  have decoded : (sinks.map SinkState.encode).filterMap SinkState.decode = sinks := by
    rw [List.filterMap_map]
    have same : SinkState.decode ∘ SinkState.encode = some := funext SinkState.decode_encode
    rw [same, List.filterMap_some]
  rw [parseList, decoded, List.filter_eq_self]
  intro sink member
  simpa using named sink member

/-- Whatever the order of the list, the peer reads the map that was sent. -/
theorem lookup_sent {sinks visited : List SinkState} (distinct : (sinks.map SinkState.name).Nodup)
    (named : ∀ sink ∈ sinks, sink.name ≠ "") (visits : visited.Perm ((collect sinks).entries.map (·.2))) (name : String) :
    (collect (parseList (visited.map SinkState.encode))).lookup name = (collect sinks).lookup name := by
  have member (sink : SinkState) : sink ∈ visited ↔ sink ∈ sinks := by
    rw [visits.mem_iff, mem_values]
    simp only [lookup_collect distinct]
    exact ⟨fun ⟨_, here, _⟩ => here, fun here => ⟨sink.name, here, rfl⟩⟩
  have distinctVisited : (visited.map SinkState.name).Nodup := by
    rw [(visits.map SinkState.name).nodup_iff, name_of_collected distinct]
    exact (collect sinks).nodupKeys
  rw [parseList_encode fun sink here => named sink ((member sink).mp here)]
  ext sink
  rw [lookup_collect distinctVisited, lookup_collect distinct, member]

/-- What the mirror of a device shows under a name. -/
def shown (sinks : Table DeviceId SinkMap) (deviceId : DeviceId) (name : String) : Option SinkLevels :=
  ((sinks.lookup deviceId).bind (·.lookup name)).map SinkState.levels

/-- A body without a list, about the sink of this name. -/
def About (name : String) (body : Json) : Prop :=
  (body.get "sinkList").bind Json.asArray = none ∧ (body.get "name").bind Json.asStr = some name

theorem shown_about {name : String} {body : Json} (about : About name body) (deviceId : DeviceId)
    (sinks : Table DeviceId SinkMap) (other : String) : shown (handleControllerState deviceId sinks body) deviceId other =
      if other = name then (shown sinks deviceId name).map (SinkLevels.update body) else shown sinks deviceId other := by
  simp only [handleControllerState, about.1, about.2]
  cases known : sinks.lookup deviceId with
  | none => simp [shown, known]
  | some mirror =>
    cases here : mirror.lookup name with
    | none =>
      by_cases same : other = name
      · subst same
        simp [shown, known, here]
      · simp [here, same]
    | some sink =>
      by_cases same : other = name
      · subst same
        simp [shown, known, here, SinkState.levels, SinkState.update, SinkLevels.update]
      · simp [shown, known, here, same, AList.lookup_insert_ne same]

theorem shown_foldl_about {name : String} {bodies : List Json} (about : ∀ body ∈ bodies, About name body) (deviceId : DeviceId)
    (sinks : Table DeviceId SinkMap) (other : String) :
    shown (bodies.foldl (handleControllerState deviceId) sinks) deviceId other =
      if other = name then (shown sinks deviceId name).map (bodies.foldl fun levels body => levels.update body)
      else shown sinks deviceId other := by
  induction bodies generalizing sinks with
  | nil =>
    by_cases same : other = name
    · simp [same]
    · simp [same]
  | cons body rest ih =>
    have first := shown_about (about body List.mem_cons_self) deviceId sinks
    rw [List.foldl_cons, ih fun body later => about body (List.mem_cons_of_mem _ later)]
    by_cases same : other = name
    · rw [if_pos same, if_pos same, first, if_pos rfl, Option.map_map]
      rfl
    · rw [if_neg same, if_neg same, first, if_neg same]

theorem about_delta (name field : String) (value : Json) (apart : field ≠ "sinkList" ∧ field ≠ "name") :
    About name (delta name field value) := by
  refine ⟨?_, ?_⟩
  · simp [delta, Json.get, apart.1]
  · simp [delta, Json.get, apart.2, Json.asStr]

theorem about_sinkDeltas (prev sink : SinkState) : ∀ body ∈ sinkDeltas prev sink, About sink.name body := by
  intro body member
  simp only [sinkDeltas, List.mem_append] at member
  rcases member with (volume | muted) | enabled
  · split at volume
    · rw [List.mem_singleton.mp volume]
      exact about_delta _ _ _ (by decide)
    · exact absurd volume List.not_mem_nil
  · split at muted
    · rw [List.mem_singleton.mp muted]
      exact about_delta _ _ _ (by decide)
    · exact absurd muted List.not_mem_nil
  · split at enabled
    · rw [List.mem_singleton.mp enabled]
      exact about_delta _ _ _ (by decide)
    · exact absurd enabled List.not_mem_nil

def mapped (t : SinkMap) (name : String) : Option SinkLevels := (t.lookup name).map SinkState.levels

theorem update_if {changed : Prop} [Decidable changed] {body : Json} {levels after : SinkLevels}
    (same : ¬ changed → levels = after) (replaced : levels.update body = after) :
    (if changed then [body] else []).foldl (fun levels body => levels.update body) levels = after := by
  split
  · exact replaced
  · exact same ‹_›

theorem update_sinkDeltas (prev sink : SinkState) (volume : sink.volume.isSome) (muted : sink.muted.isSome)
    (enabled : sink.enabled.isSome) :
    (sinkDeltas prev sink).foldl (fun levels body => levels.update body) prev.levels = sink.levels := by
  obtain ⟨v, volume⟩ := Option.isSome_iff_exists.mp volume
  obtain ⟨m, muted⟩ := Option.isSome_iff_exists.mp muted
  obtain ⟨e, enabled⟩ := Option.isSome_iff_exists.mp enabled
  let first : SinkLevels := ⟨sink.volume, prev.muted, prev.enabled⟩
  let second : SinkLevels := ⟨sink.volume, sink.muted, prev.enabled⟩
  have atVolume : prev.levels.update (delta sink.name "volume" (.ofOption (.ofInt ·.toInt) sink.volume)) = first := by
    simp [SinkLevels.update, delta, Json.get, volume, Json.ofOption, first, SinkState.levels]
  have atMuted : first.update (delta sink.name "muted" (.ofOption .bool sink.muted)) = second := by
    simp [SinkLevels.update, delta, Json.get, muted, Json.ofOption, Json.asBool, first, second]
  have atEnabled : second.update (delta sink.name "enabled" (.ofOption .bool sink.enabled)) = sink.levels := by
    simp [SinkLevels.update, delta, Json.get, enabled, Json.ofOption, Json.asBool, second, SinkState.levels]
  rw [sinkDeltas, List.foldl_append, List.foldl_append, update_if _ atVolume, update_if _ atMuted, update_if _ atEnabled]
  · intro same
    simp only [second, SinkState.levels, not_not.mp same]
  · intro same
    simp only [first, second, not_not.mp same]
  · intro same
    simp only [first, SinkState.levels, not_not.mp same]

def listed (list : List LocalSinkState) (name : String) : Option SinkLevels :=
  (list.find? (·.name = name)).map fun s => (SinkState.ofLocal s).levels

theorem mapped_newMap {newList : List LocalSinkState} (distinct : (newList.map LocalSinkState.name).Nodup) (name : String) :
    mapped (newMap newList) name = listed newList name := by
  have names : (newList.map SinkState.ofLocal).map SinkState.name = newList.map LocalSinkState.name := by
    rw [List.map_map]
    rfl
  have found := @lookup_collect (newList.map SinkState.ofLocal) (names ▸ distinct) name
  cases search : newList.find? (·.name = name) with
  | some s =>
    have member := List.mem_of_find?_eq_some search
    have same : s.name = name := by simpa using List.find?_some search
    have present := (found (SinkState.ofLocal s)).mpr ⟨List.mem_map_of_mem member, same⟩
    rw [mapped, listed, search, newMap, present]
    rfl
  | none =>
    have absent : (newMap newList).lookup name = none := by
      rw [Option.eq_none_iff_forall_ne_some]
      intro sink present
      obtain ⟨member, same⟩ := (found sink).mp present
      obtain ⟨s, there, rfl⟩ := List.mem_map.mp member
      have other : ¬ s.name = name := by simpa using List.find?_eq_none.mp search s there
      exact other same
    rw [mapped, listed, search, absent]
    rfl

/-- The deltas about sinks that the mirror knew as the old map has them bring it to the new levels of these sinks. -/
theorem shown_deltas {old : SinkMap} {newList : List LocalSinkState} (distinct : (newList.map LocalSinkState.name).Nodup)
    (complete : ∀ s ∈ newList, s.volume.isSome ∧ s.muted.isSome ∧ s.enabled.isSome) (deviceId : DeviceId)
    {sinks : Table DeviceId SinkMap} (known : ∀ s ∈ newList, (old.lookup s.name).isSome)
    (agrees : ∀ s ∈ newList, shown sinks deviceId s.name = mapped old s.name) (name : String) :
    shown ((buildDeltas old newList).foldl (handleControllerState deviceId) sinks) deviceId name =
      (listed newList name).or (shown sinks deviceId name) := by
  induction newList generalizing sinks with
  | nil => rfl
  | cons s rest ih =>
    obtain ⟨apart, distinctRest⟩ := List.nodup_cons.mp distinct
    obtain ⟨prev, found⟩ := Option.isSome_iff_exists.mp (known s List.mem_cons_self)
    obtain ⟨volume, muted, enabled⟩ := complete s List.mem_cons_self
    let sink := SinkState.ofLocal s
    let after := (sinkDeltas prev sink).foldl (handleControllerState deviceId) sinks
    have before : shown sinks deviceId s.name = some prev.levels := by
      rw [agrees s List.mem_cons_self, mapped, found]
      rfl
    have stepped (other : String) : shown after deviceId other =
        if other = s.name then some sink.levels else shown sinks deviceId other := by
      have folded := shown_foldl_about (about_sinkDeltas prev sink) deviceId sinks other
      have here : shown sinks deviceId sink.name = some prev.levels := before
      rw [here, Option.map_some, update_sinkDeltas prev sink volume muted enabled] at folded
      exact folded
    have untouched : ∀ later ∈ rest, later.name ≠ s.name :=
      fun later member same => apart (same ▸ List.mem_map_of_mem member)
    have split : buildDeltas old (s :: rest) = sinkDeltas prev sink ++ buildDeltas old rest := by
      rw [buildDeltas, List.flatMap_cons, found]
      rfl
    have step := @ih distinctRest (fun later member => complete later (List.mem_cons_of_mem _ member)) after
      (fun later member => known later (List.mem_cons_of_mem _ member)) fun later member => by
        rw [stepped, if_neg (untouched later member)]
        exact agrees later (List.mem_cons_of_mem _ member)
    rw [split, List.foldl_append, step, stepped]
    by_cases here : name = s.name
    · subst here
      have absent : listed rest s.name = none := by
        have missing : rest.find? (·.name = s.name) = none := by
          rw [List.find?_eq_none]
          intro later member
          simpa using untouched later member
        rw [listed, missing]
        rfl
      rw [absent, if_pos rfl, listed, List.find?_cons_of_pos (by simp)]
      rfl
    · have skipped : listed (s :: rest) name = listed rest name := by
        rw [listed, List.find?_cons_of_neg (by simpa using Ne.symm here)]
        rfl
      rw [if_neg here, skipped]

theorem keys_newMap {newList : List LocalSinkState} (distinct : (newList.map LocalSinkState.name).Nodup) (name : String) :
    name ∈ (newMap newList).keys ↔ name ∈ newList.map LocalSinkState.name := by
  have same := mapped_newMap distinct name
  have present : (mapped (newMap newList) name).isSome = ((newMap newList).lookup name).isSome := Option.isSome_map
  have searched : (listed newList name).isSome = (newList.find? (·.name = name)).isSome := Option.isSome_map
  rw [Table.mem_keys_iff, ← present, same, searched, List.find?_isSome]
  simp

/-- When neither the size nor a new name tells the two maps apart they have the same names. -/
theorem keys_of_unchanged {old new : SinkMap} (unchanged : setChanged old new = false) (name : String) :
    name ∈ old.keys ↔ name ∈ new.keys := by
  simp only [setChanged, Bool.or_eq_false_iff, decide_eq_false_iff_not, not_not, List.any_eq_false] at unchanged
  obtain ⟨size, inside⟩ := unchanged
  have subset : new.keys ⊆ old.keys := fun name member => by simpa using inside name member
  have perm : new.keys.Perm old.keys := by
    refine (List.subperm_of_subset new.nodupKeys subset).perm_of_length_le ?_
    have sizes : old.entries.length = new.entries.length := by simpa [Table.len] using size
    simpa [AList.keys, List.keys] using Nat.le_of_eq sizes
  exact perm.mem_iff.symm

theorem shown_sinkList (deviceId : DeviceId) (sinks : Table DeviceId SinkMap) (visited : List SinkState) (name : String) :
    shown (handleControllerState deviceId sinks (sinkListBody visited)) deviceId name =
      mapped (collect (parseList (visited.map SinkState.encode))) name := by
  have read : ((sinkListBody visited).get "sinkList").bind Json.asArray = some (visited.map SinkState.encode) := rfl
  simp only [handleControllerState, read, shown, AList.lookup_insert, Option.bind_some]
  rfl

theorem mirror_follows {iterate : SinkMap → List SinkState} (visits : ∀ t, (iterate t).Perm (t.entries.map (·.2)))
    {newList : List LocalSinkState} (distinct : (newList.map LocalSinkState.name).Nodup) (named : ∀ s ∈ newList, s.name ≠ "")
    (complete : ∀ s ∈ newList, s.volume.isSome ∧ s.muted.isSome ∧ s.enabled.isSome) (s : Snapshots) {deviceId : DeviceId}
    {sinks : Table DeviceId SinkMap} (agrees : ∀ name, shown sinks deviceId name = mapped s.localSinks name) (name : String) :
    shown ((pushLocalState iterate newList s).2.foldl (handleControllerState deviceId) sinks) deviceId name =
      listed newList name := by
  have names : (newList.map SinkState.ofLocal).map SinkState.name = newList.map LocalSinkState.name := by
    rw [List.map_map]
    rfl
  simp only [pushLocalState, List.foldl_append]
  split
  · rw [List.foldl_cons, List.foldl_nil, shown_sinkList, mapped, newMap, lookup_sent (names ▸ distinct) _ (visits _)]
    · exact mapped_newMap distinct name
    · intro sink member
      obtain ⟨local', there, rfl⟩ := List.mem_map.mp member
      exact named local' there
  · rename_i quiet
    rw [Bool.or_eq_true, not_or] at quiet
    have unchanged : setChanged s.localSinks (newMap newList) = false := by simpa using quiet.2
    have sameNames (name : String) : name ∈ s.localSinks.keys ↔ name ∈ newList.map LocalSinkState.name :=
      (keys_of_unchanged unchanged name).trans (keys_newMap distinct name)
    have known (sink : LocalSinkState) (member : sink ∈ newList) : (s.localSinks.lookup sink.name).isSome := by
      rw [← Table.mem_keys_iff, sameNames]
      exact List.mem_map_of_mem member
    rw [List.foldl_nil, shown_deltas distinct complete deviceId known (fun sink _ => agrees sink.name)]
    cases found : listed newList name with
    | some levels => rfl
    | none =>
      have absent : s.localSinks.lookup name = none := by
        have gone : (newMap newList).lookup name = none := by
          have same := mapped_newMap distinct name
          rw [found, mapped, Option.map_eq_none_iff] at same
          exact same
        rw [AList.lookup_eq_none] at gone ⊢
        exact fun member => gone ((keys_of_unchanged unchanged name).mp member)
      rw [Option.none_or, agrees, mapped, absent]
      rfl

def speakers : LocalSinkState := ⟨"speakers", none, some 40, some 65536, some false, some true⟩

def headset : LocalSinkState := ⟨"headset", none, some 10, some 65536, some false, some false⟩

theorem turned_up :
    let old : Snapshots := { localSinks := newMap [speakers, headset], defaultSink := some "speakers" }
    let mirror : Table DeviceId SinkMap := (∅ : Table DeviceId SinkMap).insert "desktop" (newMap [speakers, headset])
    let iterate : SinkMap → List SinkState := fun t => t.entries.map (·.2)
    shown ((pushLocalState iterate [{ speakers with volume := some 90 }, headset] old).2.foldl
      (handleControllerState "desktop") mirror) "desktop" "speakers" = some ⟨some 90, some false, some true⟩ := by
  intro old mirror iterate
  refine (mirror_follows (fun _ => .refl _) (by decide) (by decide) (by decide) old ?_ "speakers").trans (by decide)
  intro name
  rfl

end SystemVolume

end RustConnect
