import Mathlib
import RustConnect.JsonFields
import RustConnect.Base.Table

namespace RustConnect

/-- What the phone is shown of a command, and what is run. -/
structure CommandEntry where
  name : String
  command : String
  deriving DecidableEq, Repr

/-- An entry under `[[runcommand.commands]]`. -/
structure RuncommandCommand where
  key : String
  name : String
  command : String
  deriving DecidableEq, Repr

structure RuncommandConfig where
  commands : List RuncommandCommand := []

/-- An order in which a `HashMap` gives its entries. -/
structure Iteration where
  entries : Table String CommandEntry → List (Sigma fun _ : String => CommandEntry)
  perm (commands : Table String CommandEntry) : (entries commands).Perm commands.entries

/-- An object of objects. -/
def objectOfMaps (maps : List (String × List (String × Json))) : Json := .obj (maps.map fun member => (member.1, .obj member.2))

structure RuncommandPlugin where
  allowedCommands : Table DeviceId (Table String CommandEntry) := ∅
  globalCommands : Table String CommandEntry := ∅

namespace CommandEntry

/-- The fields that the derived `Serialize` writes. -/
def fields (entry : CommandEntry) : List (String × Json) := [("name", .str entry.name), ("command", .str entry.command)]

/-- The derived `Deserialize` of an object. -/
def decode (value : Json) : Option CommandEntry := do
  return { name := ← (value.get "name").bind Json.asStr, command := ← (value.get "command").bind Json.asStr }

end CommandEntry

def decodeMember (member : String × Json) : Option (Sigma fun _ : String => CommandEntry) :=
  (CommandEntry.decode member.2).map fun entry => ⟨member.1, entry⟩

/-- A `HashMap` of the entries of an object. -/
def decodeCommandList : Json → Option (Table String CommandEntry)
  | .obj members => do
    let entries ← members.mapM decodeMember
    return entries.foldl (fun commands entry => commands.insert entry.1 entry.2) ∅
  | _ => none

namespace RuncommandPlugin

def allowCommand (s : RuncommandPlugin) (deviceId : DeviceId) (key name command : String) : RuncommandPlugin :=
  { s with allowedCommands :=
      s.allowedCommands.insert deviceId (((s.allowedCommands.lookup deviceId).getD ∅).insert key ⟨name, command⟩) }

/-- One turn of the loop of `register_from_config`. -/
def registerEntry (global : Table String CommandEntry) (entry : RuncommandCommand) : Table String CommandEntry :=
  if entry.key.isEmpty || entry.name.isEmpty || entry.command.isEmpty then global
  else if (global.lookup entry.key).isSome then global
  else global.insert entry.key ⟨entry.name, entry.command⟩

def registerFromConfig (s : RuncommandPlugin) (cfg : RuncommandConfig) : RuncommandPlugin :=
  { s with globalCommands := cfg.commands.foldl registerEntry ∅ }

def lookup (s : RuncommandPlugin) (deviceId : DeviceId) (key : String) : Option CommandEntry :=
  match (s.allowedCommands.lookup deviceId).bind (·.lookup key) with
  | some entry => some entry
  | none => s.globalCommands.lookup key

/-- `entry(key).or_insert_with`. -/
def orInsert (entries : Table String CommandEntry) (entry : Sigma fun _ : String => CommandEntry) : Table String CommandEntry :=
  if (entries.lookup entry.1).isSome then entries else entries.insert entry.1 entry.2

/-- The `entries` that `command_list_json` collects. -/
def commandEntries (perDevice global : Iteration) (s : RuncommandPlugin) (deviceId : DeviceId) : Table String CommandEntry :=
  let entries : Table String CommandEntry :=
    match s.allowedCommands.lookup deviceId with
    | some deviceEntries => (perDevice.entries deviceEntries).foldl (fun entries entry => entries.insert entry.1 entry.2) ∅
    | none => ∅
  (global.entries s.globalCommands).foldl orInsert entries

/-- The entries in the order in which they are written. -/
def commandMaps (written : Iteration) (entries : Table String CommandEntry) : List (String × List (String × Json)) :=
  (written.entries entries).map fun entry => (entry.1, entry.2.fields)

/-- `command_list_json`, with `serde_json::to_string` as a parameter. -/
def commandListJson (toString : Json → Option String) (perDevice global written : Iteration) (s : RuncommandPlugin)
    (deviceId : DeviceId) : String :=
  let entries := s.commandEntries perDevice global deviceId
  if entries.entries.isEmpty then "\x7b\x7d"
  else (toString (objectOfMaps (commandMaps written entries))).getD "\x7b\x7d"

/-- The command that a request has run. -/
def requested (s : RuncommandPlugin) (deviceId : DeviceId) (packet : Packet) : Option String :=
  if ((packet.body.get "requestCommandList").bind Json.asBool).getD false then none
  else ((packet.body.get "key").bind Json.asStr).bind fun key => (s.lookup deviceId key).map CommandEntry.command

end RuncommandPlugin

inductive RuncommandCall
  | allowCommand (deviceId : DeviceId) (key name command : String)
  | registerFromConfig (cfg : RuncommandConfig)

namespace RuncommandCall

def exec (s : RuncommandPlugin) : RuncommandCall → RuncommandPlugin
  | allowCommand deviceId key name command => s.allowCommand deviceId key name command
  | registerFromConfig cfg => s.registerFromConfig cfg

end RuncommandCall

namespace RunCommands

open RuncommandPlugin

/-- The plugin after a run of calls. -/
def after (calls : List RuncommandCall) : RuncommandPlugin := calls.foldl RuncommandCall.exec {}

def laterConfig (last : RuncommandConfig) : RuncommandCall → RuncommandConfig
  | .registerFromConfig cfg => cfg
  | .allowCommand .. => last

/-- The configuration that was registered last; before one is, there are no commands. -/
def lastConfig (calls : List RuncommandCall) : RuncommandConfig := calls.foldl laterConfig {}

/-- An entry with a key, a name and a command. -/
def Complete (entry : RuncommandCommand) : Bool := !entry.key.isEmpty && !entry.name.isEmpty && !entry.command.isEmpty

/-- The first complete entry of a key. -/
def firstEntry (cfg : RuncommandConfig) (key : String) : Option CommandEntry :=
  (cfg.commands.find? fun entry => Complete entry && entry.key == key).map fun entry => ⟨entry.name, entry.command⟩

/-- The same members, in any order. -/
def Reordered {α : Type} (same : α → α → Prop) (members others : List (String × α)) : Prop :=
  ∃ between, List.Forall₂ (fun member other => member.1 = other.1 ∧ same member.2 other.2) members between ∧
    between.Perm others

/-- What is relied on of `serde_json` for a map of maps of strings: its text is
read back with the same members, in an order of its own. -/
def Faithful (codec : JsonCodec) (toString : Json → Option String) (maps : List (String × List (String × Json))) : Prop :=
  ∃ text others, toString (objectOfMaps maps) = some text ∧ codec.parse text = .ok (objectOfMaps others) ∧
    Reordered List.Perm maps others

section Reading

theorem decode_fields {entry : CommandEntry} {fields : List (String × Json)} (perm : entry.fields.Perm fields) :
    CommandEntry.decode (.obj fields) = some entry := by
  rcases List.pair_perm.mp perm with rfl | rfl
  · rfl
  · rfl

theorem mapM_of_forall₂ {α β : Type} {f : α → Option β} {items : List α} {results : List β}
    (each : List.Forall₂ (fun item result => f item = some result) items results) : items.mapM f = some results := by
  induction each with
  | nil => rfl
  | cons here _ ih => simp [List.mapM_cons, here, ih]

/-- What is read of the members is the entries that they were written for, in
the order of the text. -/
theorem decodeMember_reordered {entries : List (Sigma fun _ : String => CommandEntry)}
    {others : List (String × List (String × Json))}
    (reordered : Reordered List.Perm (entries.map fun entry => (entry.1, entry.2.fields)) others) :
    ∃ results, (others.map fun member => (member.1, Json.obj member.2)).mapM decodeMember = some results ∧
      results.Perm entries := by
  obtain ⟨between, each, perm⟩ := reordered
  have read : List.Forall₂ (fun (member : String × List (String × Json)) entry =>
      decodeMember (member.1, .obj member.2) = some entry) between entries := by
    refine (List.forall₂_map_left_iff.mp each).flip.imp fun member entry ⟨key, fields⟩ => ?_
    rw [decodeMember, decode_fields fields, Option.map_some, ← key]
  obtain ⟨results, found, same⟩ := List.perm_comp_forall₂ perm.symm read
  exact ⟨results, mapM_of_forall₂ (List.forall₂_map_left_iff.mpr found), same⟩

theorem lookup_copied (key : String) {entries : List (Sigma fun _ : String => CommandEntry)} (distinct : entries.NodupKeys) :
    (entries.foldl (fun commands entry => commands.insert entry.1 entry.2) (∅ : Table String CommandEntry)).lookup key =
      List.dlookup key entries := by
  refine (Table.lookup_foldl_insert id key entries distinct ∅).trans ?_
  rw [AList.lookup_empty, Option.or_none, Option.map_id, id]

theorem decodeCommandList_reordered {commands : Table String CommandEntry} (written : Iteration)
    {others : List (String × List (String × Json))} (reordered : Reordered List.Perm (commandMaps written commands) others) :
    ∃ back, decodeCommandList (objectOfMaps others) = some back ∧ ∀ key, back.lookup key = commands.lookup key := by
  obtain ⟨results, read, same⟩ := decodeMember_reordered reordered
  have perm := same.trans (written.perm commands)
  have distinct : results.NodupKeys := (List.perm_nodupKeys perm).mpr commands.nodupKeys
  refine ⟨_, by rw [objectOfMaps, decodeCommandList, read]; rfl, fun key => ?_⟩
  rw [lookup_copied key distinct, List.perm_dlookup key distinct perm]
  rfl

end Reading

section Lists

theorem lookup_orInsert (key : String) (entries : Table String CommandEntry) (entry : Sigma fun _ : String => CommandEntry) :
    (orInsert entries entry).lookup key = (entries.lookup key).or (if key = entry.1 then some entry.2 else none) := by
  unfold orInsert
  by_cases same : key = entry.1
  · subst same
    cases held : entries.lookup entry.1 with
    | none => simp [AList.lookup_insert]
    | some old => simp [held]
  · rw [if_neg same, Option.or_none]
    split
    · rfl
    · exact AList.lookup_insert_ne same

/-- What is there stays, and of the others the first of a key is taken. -/
theorem lookup_foldl_orInsert (key : String) (added : List (Sigma fun _ : String => CommandEntry))
    (entries : Table String CommandEntry) :
    (added.foldl orInsert entries).lookup key = (entries.lookup key).or (List.dlookup key added) := by
  induction added generalizing entries with
  | nil => simp
  | cons entry rest ih =>
    rw [List.foldl_cons, ih, lookup_orInsert, Option.or_assoc]
    by_cases same : key = entry.1
    · obtain ⟨name, value⟩ := entry
      subst same
      simp
    · simp [same, List.dlookup_cons_ne rest entry same]

theorem dlookup_iteration (order : Iteration) (commands : Table String CommandEntry) (key : String) :
    List.dlookup key (order.entries commands) = commands.lookup key := by
  have perm := order.perm commands
  exact List.perm_dlookup key ((List.perm_nodupKeys perm).mpr commands.nodupKeys) perm

/-- The two functions put the tables together to the same map. -/
theorem lookup_commandEntries (perDevice global : Iteration) (s : RuncommandPlugin) (deviceId : DeviceId) (key : String) :
    (s.commandEntries perDevice global deviceId).lookup key = s.lookup deviceId key := by
  rw [commandEntries, lookup_foldl_orInsert, dlookup_iteration, lookup]
  cases own : s.allowedCommands.lookup deviceId with
  | none => simp
  | some deviceEntries =>
    have perm := perDevice.perm deviceEntries
    have distinct := (List.perm_nodupKeys perm).mpr deviceEntries.nodupKeys
    simp only [lookup_copied key distinct, dlookup_iteration, Option.bind_some]
    cases deviceEntries.lookup key <;> rfl

/-- What a request has run is a command that the device is shown. -/
theorem shown_of_requested (perDevice global : Iteration) {s : RuncommandPlugin} {deviceId : DeviceId} {packet : Packet}
    {command : String} (ran : s.requested deviceId packet = some command) :
    ∃ key entry, (s.commandEntries perDevice global deviceId).lookup key = some entry ∧ entry.command = command := by
  unfold requested at ran
  split at ran
  · cases ran
  · obtain ⟨key, _, found⟩ := Option.bind_eq_some_iff.mp ran
    obtain ⟨entry, held, same⟩ := Option.map_eq_some_iff.mp found
    exact ⟨key, entry, (lookup_commandEntries perDevice global s deviceId key).trans held, same⟩

end Lists

section Registration

theorem lookup_registerEntry (key : String) (global : Table String CommandEntry) (entry : RuncommandCommand) :
    (registerEntry global entry).lookup key =
      (global.lookup key).or (if Complete entry && entry.key == key then some ⟨entry.name, entry.command⟩ else none) := by
  unfold registerEntry
  by_cases empty : (entry.key.isEmpty || entry.name.isEmpty || entry.command.isEmpty) = true
  · have partly : Complete entry = false := by
      rw [Complete, ← Bool.not_or, ← Bool.not_or, empty, Bool.not_true]
    simp [empty, partly]
  · have whole : Complete entry = true := by
      simpa [Complete] using empty
    rw [if_neg empty]
    by_cases same : key = entry.key
    · subst same
      cases held : global.lookup entry.key with
      | none => simp [AList.lookup_insert, whole]
      | some old => simp [held]
    · have other : (entry.key == key) = false := by simpa using Ne.symm same
      split
      · simp [other]
      · rw [AList.lookup_insert_ne same]
        simp [other]

theorem lookup_registered (key : String) (entries : List RuncommandCommand) (global : Table String CommandEntry) :
    (entries.foldl registerEntry global).lookup key = (global.lookup key).or (firstEntry ⟨entries⟩ key) := by
  induction entries generalizing global with
  | nil => simp [firstEntry]
  | cons entry rest ih =>
    rw [List.foldl_cons, ih, lookup_registerEntry, Option.or_assoc]
    cases here : Complete entry && entry.key == key <;> simp [firstEntry, here]

theorem globalCommands_after (calls : List RuncommandCall) :
    (after calls).globalCommands = (lastConfig calls).commands.foldl registerEntry ∅ := by
  suffices kept : ∀ (s : RuncommandPlugin) (cfg : RuncommandConfig), s.globalCommands = cfg.commands.foldl registerEntry ∅ →
      (calls.foldl RuncommandCall.exec s).globalCommands = (calls.foldl laterConfig cfg).commands.foldl registerEntry ∅ from
    kept {} {} rfl
  induction calls with
  | nil => exact fun s cfg same => same
  | cons call rest ih =>
    intro s cfg same
    cases call with
    | allowCommand deviceId key name command => exact ih _ cfg same
    | registerFromConfig other => exact ih _ other rfl

theorem allowedCommands_after {calls : List RuncommandCall} {deviceId : DeviceId}
    (none_allowed : ∀ key name command, .allowCommand deviceId key name command ∉ calls) :
    (after calls).allowedCommands.lookup deviceId = none := by
  suffices kept : ∀ s : RuncommandPlugin, s.allowedCommands.lookup deviceId = none →
      (calls.foldl RuncommandCall.exec s).allowedCommands.lookup deviceId = none from kept {} (AList.lookup_empty deviceId)
  induction calls with
  | nil => exact fun s absent => absent
  | cons call rest ih =>
    intro s absent
    have later := ih fun key name command among => none_allowed key name command (.tail _ among)
    cases call with
    | registerFromConfig cfg => exact later _ absent
    | allowCommand other key name command =>
      have apart : deviceId ≠ other := by
        rintro rfl
        exact none_allowed key name command (.head _)
      exact later _ ((AList.lookup_insert_ne apart).trans absent)

end Registration

/-- After any run of calls a device is sent exactly the commands that are run
for it; and one that no command was allowed for is sent those of the
configuration that was registered last. -/
theorem advertised_are_executable (codec : JsonCodec) (toString : Json → Option String) (perDevice global written : Iteration)
    (calls : List RuncommandCall) (deviceId : DeviceId)
    (faithful : Faithful codec toString (commandMaps written ((after calls).commandEntries perDevice global deviceId)))
    (empty : codec.parse "\x7b\x7d" = .ok (.obj [])) :
    ∃ value commands, codec.parse ((after calls).commandListJson toString perDevice global written deviceId) = .ok value ∧
      decodeCommandList value = some commands ∧
      (∀ key, commands.lookup key = (after calls).lookup deviceId key) ∧
      ((∀ key name command, .allowCommand deviceId key name command ∉ calls) →
        ∀ key, commands.lookup key = firstEntry (lastConfig calls) key) := by
  have configured (none_allowed : ∀ key name command, .allowCommand deviceId key name command ∉ calls) (key : String) :
      (after calls).lookup deviceId key = firstEntry (lastConfig calls) key := by
    rw [lookup, allowedCommands_after none_allowed, Option.bind_none, globalCommands_after, lookup_registered,
      AList.lookup_empty, Option.none_or]
  suffices sent : ∃ value commands,
      codec.parse ((after calls).commandListJson toString perDevice global written deviceId) = .ok value ∧
        decodeCommandList value = some commands ∧ ∀ key, commands.lookup key = (after calls).lookup deviceId key by
    obtain ⟨value, commands, parsed, decoded, same⟩ := sent
    exact ⟨value, commands, parsed, decoded, same, fun none_allowed key => (same key).trans (configured none_allowed key)⟩
  have merged := lookup_commandEntries perDevice global (after calls) deviceId
  by_cases nothing : ((after calls).commandEntries perDevice global deviceId).entries.isEmpty = true
  · rw [commandListJson, if_pos nothing]
    have bare : (after calls).commandEntries perDevice global deviceId = ∅ := AList.ext (List.isEmpty_iff.mp nothing)
    exact ⟨_, ∅, empty, rfl, fun key => by rw [← merged key, bare]⟩
  · obtain ⟨text, others, printed, parsed, reordered⟩ := faithful
    obtain ⟨commands, decoded, same⟩ := decodeCommandList_reordered written reordered
    have text_of : (after calls).commandListJson toString perDevice global written deviceId = text := by
      rw [commandListJson, if_neg nothing, printed, Option.getD_some]
    exact ⟨objectOfMaps others, commands, text_of ▸ parsed, decoded, fun key => (same key).trans (merged key)⟩

section Sample

def inOrder : Iteration := ⟨fun commands => commands.entries, fun _ => .refl _⟩

/-- A row without a name, a row of a key that is taken, and a command that another device is allowed. -/
def deskCalls : List RuncommandCall :=
  [.registerFromConfig ⟨[⟨"lock", "Lock", "loginctl lock-session"⟩, ⟨"bare", "", "true"⟩, ⟨"lock", "Again", "false"⟩]⟩,
    .allowCommand "phone" "lock" "Phone lock" "loginctl lock-sessions"]

def deskText : String :=
  "\x7b\"lock\":\x7b\"name\":\"Lock\",\"command\":\"loginctl lock-session\"\x7d\x7d"

/-- The members of a `serde_json::Value` are sorted. -/
def deskMaps : List (String × List (String × Json)) :=
  [("lock", [("command", .str "loginctl lock-session"), ("name", .str "Lock")])]

def deskCodec : JsonCodec where
  parse text :=
    if text = "\x7b\x7d" then .ok (.obj [])
    else if text = deskText then .ok (objectOfMaps deskMaps)
    else .error "expected value"
  decodeErrorText _ _ := ""
  valueErrorText _ := ""
  utf8ErrorText _ := ""

theorem deskMaps_reordered :
    Reordered List.Perm (commandMaps inOrder ((after deskCalls).commandEntries inOrder inOrder "tablet")) deskMaps :=
  ⟨deskMaps, .cons ⟨rfl, .swap _ _ _⟩ .nil, .refl _⟩

theorem tablet_is_sent_lock : ∃ value commands,
    deskCodec.parse ((after deskCalls).commandListJson (fun _ => some deskText) inOrder inOrder inOrder "tablet") = .ok value ∧
      decodeCommandList value = some commands ∧ commands.lookup "lock" = (after deskCalls).lookup "tablet" "lock" ∧
      commands.lookup "lock" = some ⟨"Lock", "loginctl lock-session"⟩ ∧ commands.lookup "bare" = none := by
  have parsed : deskCodec.parse deskText = .ok (objectOfMaps deskMaps) := by decide +kernel
  obtain ⟨value, commands, found, decoded, run, configured⟩ := advertised_are_executable deskCodec (fun _ => some deskText)
    inOrder inOrder inOrder deskCalls "tablet" ⟨deskText, deskMaps, rfl, parsed, deskMaps_reordered⟩ rfl
  have last := configured (by simp [deskCalls])
  exact ⟨value, commands, found, decoded, run "lock", (last "lock").trans (by decide), (last "bare").trans (by decide)⟩

end Sample

end RunCommands

end RustConnect
