import RustConnect.Base.History
import RustConnect.Base.Table
import RustConnect.JsonFields

namespace RustConnect

structure NotificationBody where
  id : Option String
  appName : Option String
  title : Option String
  text : Option String
  ticker : Option String
  isCancel : Option Bool
  silent : Option Bool
  actions : Option (List String)
  conversation : Option Json
  groupName : Option String
  requestReplyId : Option String
  payloadHash : Option String

structure NotificationEntry where
  deviceId : DeviceId
  id : String
  appName : String
  title : String
  text : String
  isCancel : Bool
  silent : Bool
  actions : Option (List String)
  conversation : Option Json
  groupName : Option String
  replyId : Option String
  iconHash : Option String
  iconUrl : Option String

abbrev NotificationKey := DeviceId × String

/-- The last desktop post, with the server's id of it, 0 when it has not been shown. -/
structure DedupeEntry (σ : Type) where
  signature : σ
  replacesId : UInt32

structure ShadowEntry (σ : Type) where
  signature : σ
  replacesId : UInt32
  expires : Nat

inductive DesktopAction
  | post
  | suppress
  | replace (replacesId : UInt32)
  deriving DecidableEq

structure NotificationPlugin (σ : Type) where
  history : List NotificationEntry := []
  dedupe : Table NotificationKey (DedupeEntry σ) := ∅
  dedupeShadow : Table NotificationKey (ShadowEntry σ) := ∅

namespace NotificationBody

/-- The fields in the order of their declaration, as they are named on the wire. -/
def fieldNames : List String :=
  ["id", "appName", "title", "text", "ticker", "isCancel", "silent", "actions", "conversation", "groupName",
    "requestReplyId", "payloadHash"]

def ofFields (field : String → Option Json) : Option NotificationBody := do
  return {
    id := ← Json.optional Json.asStr (field "id")
    appName := ← Json.optional Json.asStr (field "appName")
    title := ← Json.optional Json.asStr (field "title")
    text := ← Json.optional Json.asStr (field "text")
    ticker := ← Json.optional Json.asStr (field "ticker")
    isCancel := ← Json.optional Json.asBool (field "isCancel")
    silent := ← Json.optional Json.asBool (field "silent")
    actions := ← Json.optional (fun value => value.asArray.bind fun items => items.mapM Json.asStr) (field "actions")
    conversation := ← Json.optional some (field "conversation")
    groupName := ← Json.optional Json.asStr (field "groupName")
    requestReplyId := ← Json.optional Json.asStr (field "requestReplyId")
    payloadHash := ← Json.optional Json.asStr (field "payloadHash") }

/-- The derived `Deserialize`, which also reads the fields from an array, in their order. -/
def decode : Json → Option NotificationBody
  | .obj members => ofFields fun key => (Json.obj members).get key
  | .arr items => if items.length ≤ fieldNames.length then ofFields fun key => items[fieldNames.idxOf key]? else none
  | _ => none

def ident (body : NotificationBody) : String := body.id.getD ""

/-- What the user sees of a notification: the application, the title and the text. -/
def content (body : NotificationBody) : String × String × String :=
  (body.appName.getD "unknown", body.title.getD "", body.text.getD "")

def cancels (body : NotificationBody) : Bool := body.isCancel.getD false

end NotificationBody

/-- What the desktop answers while a notification is handled: whether popups are shown at all, the server's id of a popup
that was shown, and whether the icon is cached. -/
structure Desktop where
  display : Bool
  shown : Option UInt32
  icon : Bool

/-- What handling a packet leaves: the state, the popup that was tried and the popup that is closed. -/
structure NotificationOutcome (σ : Type) where
  plugin : NotificationPlugin σ
  popup : Option DesktopAction := none
  closed : Option UInt32 := none

namespace NotificationEntry

def key (entry : NotificationEntry) : NotificationKey := (entry.deviceId, entry.id)

end NotificationEntry

namespace NotificationPlugin

def maxNotificationHistory : Nat := 100

/-- A day, in nanoseconds. -/
def dedupeShadowTtl : Nat := 24 * 3600 * 10 ^ 9

def isHexDigit (c : Char) : Bool := ('0' ≤ c && c ≤ '9') || ('a' ≤ c && c ≤ 'f') || ('A' ≤ c && c ≤ 'F')

def validIconHash (hash : String) : Bool := hash.utf8ByteSize == 32 && hash.toList.all isHexDigit

def lowered (hash : String) : String := .ofList (hash.toList.map Char.toLower)

def iconApiUrl (deviceId : DeviceId) (hash : String) : String :=
  "/api/v1/devices/" ++ deviceId ++ "/notification-icons/" ++ lowered hash

variable {σ : Type}

def withEntry (s : NotificationPlugin σ) (key : NotificationKey) (signature : σ) (replacesId : UInt32) : NotificationPlugin σ :=
  { s with dedupe := s.dedupe.insert key ⟨signature, replacesId⟩ }

/-- The shadow entry of a key; one that has expired is removed. -/
def consultShadow (now : Nat) (key : NotificationKey) (s : NotificationPlugin σ) : Option (ShadowEntry σ) × NotificationPlugin σ :=
  match s.dedupeShadow.lookup key with
  | some entry =>
    if entry.expires ≤ now then (none, { s with dedupeShadow := s.dedupeShadow.erase key }) else (some entry, s)
  | none => (none, s)

def dedupeTrack [DecidableEq σ] (now : Nat) (deviceId : DeviceId) (id : String) (signature : σ) (s : NotificationPlugin σ) :
    DesktopAction × NotificationPlugin σ :=
  match s.dedupe.lookup (deviceId, id) with
  | some entry =>
    if entry.signature = signature then (.suppress, s)
    else (.replace entry.replacesId, s.withEntry (deviceId, id) signature entry.replacesId)
  | none =>
    match consultShadow now (deviceId, id) s with
    | (some shadow, s) =>
      if shadow.signature = signature then (.suppress, s.withEntry (deviceId, id) shadow.signature shadow.replacesId)
      else if shadow.replacesId ≠ 0 then (.replace shadow.replacesId, s.withEntry (deviceId, id) signature shadow.replacesId)
      else (.post, s.withEntry (deviceId, id) signature 0)
    | (none, s) => (.post, s.withEntry (deviceId, id) signature 0)

def dedupeRecordShown (deviceId : DeviceId) (id : String) (replacesId : UInt32) (s : NotificationPlugin σ) :
    NotificationPlugin σ :=
  match s.dedupe.lookup (deviceId, id) with
  | some entry => s.withEntry (deviceId, id) entry.signature replacesId
  | none => s

def dedupeTake (deviceId : DeviceId) (id : String) (s : NotificationPlugin σ) : Option UInt32 × NotificationPlugin σ :=
  ((s.dedupe.lookup (deviceId, id)).map DedupeEntry.replacesId,
    { s with
      dedupe := s.dedupe.erase (deviceId, id)
      dedupeShadow := s.dedupeShadow.erase (deviceId, id) })

/-- The entries of the history that are not of this device and id. -/
def without (deviceId : DeviceId) (id : String) (history : List NotificationEntry) : List NotificationEntry :=
  history.filter fun entry => !(entry.deviceId = deviceId && entry.id = id)

/-- `dismiss`, with whether the notification was held. -/
def dismiss (deviceId : DeviceId) (id : String) (s : NotificationPlugin σ) : Bool × NotificationPlugin σ :=
  let removed := (without deviceId id s.history).length ≠ s.history.length
  (removed, (dedupeTake deviceId id { s with history := without deviceId id s.history }).2)

/-- `on_disconnected`, with the time that passes between its two looks at the clock. -/
def onDisconnected (now pause : Nat) (deviceId : DeviceId) (s : NotificationPlugin σ) : NotificationPlugin σ :=
  let collected := s.dedupe.entries.filter fun entry => entry.1.1 = deviceId
  let shadow := s.dedupeShadow.retain fun _ entry => entry.expires > now + pause
  { history := s.history.filter fun entry => entry.deviceId ≠ deviceId
    dedupe := s.dedupe.retain fun key _ => key.1 ≠ deviceId
    dedupeShadow := collected.foldl
      (fun shadow entry => shadow.insert entry.1 ⟨entry.2.signature, entry.2.replacesId, now + dedupeShadowTtl⟩) shadow }

/-- The branch for a cancelled notification. -/
def handleCancel (deviceId : DeviceId) (body : NotificationBody) (s : NotificationPlugin σ) : NotificationOutcome σ :=
  let (desktopId, later) := dedupeTake deviceId body.ident { s with history := without deviceId body.ident s.history }
  { plugin := later, closed := desktopId.filter (· ≠ 0) }

def iconHash (body : NotificationBody) : Option String := (body.payloadHash.filter validIconHash).map lowered

def entryOf (deviceId : DeviceId) (body : NotificationBody) (desktop : Desktop) : NotificationEntry where
  deviceId := deviceId
  id := body.ident
  appName := body.content.1
  title := body.content.2.1
  text := body.content.2.2
  isCancel := false
  silent := body.silent.getD false
  actions := body.actions
  conversation := body.conversation
  groupName := body.groupName
  replyId := body.requestReplyId
  iconHash := iconHash body
  iconUrl := if desktop.icon then (iconHash body).map (iconApiUrl deviceId) else none

/-- The history with a new entry, before the oldest ones are given up. -/
def recorded (entry : NotificationEntry) (history : List NotificationEntry) : List NotificationEntry :=
  (if entry.id = "" then history else without entry.deviceId entry.id history) ++ [entry]

/-- How many entries are more than the history may hold. -/
def excess (history : List NotificationEntry) : Nat := history.length - maxNotificationHistory

/-- The keys that have a place in the dedupe map. -/
def keysOf (history : List NotificationEntry) : List NotificationKey :=
  (history.map NotificationEntry.key).filter fun key => key.2 ≠ ""

/-- The keys whose entries are given up for a new one. -/
def evicted (entry : NotificationEntry) (history : List NotificationEntry) : List NotificationKey :=
  keysOf ((recorded entry history).take (excess (recorded entry history)))

/-- A new entry takes its place in the history. -/
def remember (entry : NotificationEntry) (s : NotificationPlugin σ) : NotificationPlugin σ :=
  { s with
    history := (recorded entry s.history).drop (excess (recorded entry s.history))
    dedupe := (evicted entry s.history).foldl (fun dedupe key => dedupe.erase key) s.dedupe }

section Signed

variable [DecidableEq σ] (signature : String × String × String → σ)

/-- The branch for a notification that is not cancelled. -/
def handleNotification (now : Nat) (deviceId : DeviceId) (body : NotificationBody) (desktop : Desktop)
    (s : NotificationPlugin σ) : NotificationOutcome σ :=
  let (action, tracked) :=
    if body.ident = "" then (.post, s) else dedupeTrack now deviceId body.ident (signature body.content) s
  let popup := if desktop.display && action ≠ .suppress then some action else none
  let posted :=
    match popup, desktop.shown with
    | some _, some replacesId => if body.ident = "" then tracked else dedupeRecordShown deviceId body.ident replacesId tracked
    | _, _ => tracked
  { plugin := remember (entryOf deviceId body desktop) posted, popup := popup }

/-- The body of a packet of the type that the plugin handles. -/
def readPacket (packet : Packet) : Option NotificationBody :=
  if packet.packetType = "kdeconnect.notification" then NotificationBody.decode packet.body else none

def handlePacket (now : Nat) (deviceId : DeviceId) (packet : Packet) (desktop : Desktop) (s : NotificationPlugin σ) :
    NotificationOutcome σ :=
  match readPacket packet with
  | none => { plugin := s }
  | some body =>
    if body.cancels then handleCancel deviceId body s else handleNotification signature now deviceId body desktop s

end Signed

/-- What the plugin takes the last notification of a key for: its live entry, or a shadow entry that has not expired. -/
def recalled (now : Nat) (key : NotificationKey) (s : NotificationPlugin σ) : Option σ :=
  ((s.dedupe.lookup key).map DedupeEntry.signature).or
    (((s.dedupeShadow.lookup key).filter fun entry => entry.expires > now).map ShadowEntry.signature)

/-- What tracking a notification does. -/
structure Tracks (now : Nat) (key : NotificationKey) (signature : σ) (before : NotificationPlugin σ) (action : DesktopAction)
    (after : NotificationPlugin σ) : Prop where
  history : after.history = before.history
  live : ∃ replacesId, ∀ key', after.dedupe.lookup key' =
    if key' = key then some ⟨signature, replacesId⟩ else before.dedupe.lookup key'
  shadow : ∀ key', key' ≠ key → after.dedupeShadow.lookup key' = before.dedupeShadow.lookup key'
  repeated : action = .suppress ↔ recalled now key before = some signature

theorem lookup_withEntry (s : NotificationPlugin σ) (key : NotificationKey) (signature : σ) (replacesId : UInt32)
    (key' : NotificationKey) : (s.withEntry key signature replacesId).dedupe.lookup key' =
      if key' = key then some ⟨signature, replacesId⟩ else s.dedupe.lookup key' :=
  Table.lookup_insert_of key' key _ s.dedupe

theorem consultShadow_spec (now : Nat) (key : NotificationKey) (s : NotificationPlugin σ) :
    (consultShadow now key s).1 = (s.dedupeShadow.lookup key).filter (fun entry => entry.expires > now) ∧
      (consultShadow now key s).2.history = s.history ∧ (consultShadow now key s).2.dedupe = s.dedupe ∧
      ∀ key', key' ≠ key → (consultShadow now key s).2.dedupeShadow.lookup key' = s.dedupeShadow.lookup key' := by
  unfold consultShadow
  cases found : s.dedupeShadow.lookup key with
  | none => exact ⟨rfl, rfl, rfl, fun _ _ => rfl⟩
  | some entry =>
    by_cases expired : entry.expires ≤ now
    · refine ⟨?_, ?_, ?_, fun key' other => ?_⟩
      · simp [expired, Option.filter_some]
      · simp [expired]
      · simp [expired]
      · simp [expired, AList.lookup_erase_ne other]
    · refine ⟨?_, ?_, ?_, fun key' _ => ?_⟩
      · simp [expired, Option.filter_some, Nat.not_le.mp expired]
      · simp [expired]
      · simp [expired]
      · simp [expired]

theorem dedupeTrack_spec [DecidableEq σ] (now : Nat) (deviceId : DeviceId) (id : String) (signature : σ)
    (s : NotificationPlugin σ) : Tracks now (deviceId, id) signature s (dedupeTrack now deviceId id signature s).1
      (dedupeTrack now deviceId id signature s).2 := by
  unfold dedupeTrack
  cases live : s.dedupe.lookup (deviceId, id) with
  | some entry =>
    have known : recalled now (deviceId, id) s = some entry.signature := by rw [recalled, live]; rfl
    by_cases same : entry.signature = signature
    · simp only [if_pos same]
      refine ⟨rfl, ⟨entry.replacesId, fun key' => ?_⟩, fun _ _ => rfl, by simp [known, same]⟩
      split_ifs with here
      · rw [here, live, ← same]
      · rfl
    · simp only [if_neg same]
      exact ⟨rfl, ⟨_, lookup_withEntry s _ _ _⟩, fun _ _ => rfl, by simp [known, same]⟩
  | none =>
    obtain ⟨consulted, history, dedupe, others⟩ := consultShadow_spec now (deviceId, id) s
    have known : recalled now (deviceId, id) s = (consultShadow now (deviceId, id) s).1.map ShadowEntry.signature := by
      rw [recalled, live, consulted]; rfl
    generalize consultShadow now (deviceId, id) s = result at *
    obtain ⟨shadow, later⟩ := result
    have tracks {action : DesktopAction} (replacesId : UInt32)
        (repeated : action = .suppress ↔ shadow.map ShadowEntry.signature = some signature) :
        Tracks now (deviceId, id) signature s action (later.withEntry (deviceId, id) signature replacesId) :=
      ⟨history, ⟨replacesId, fun key' => by rw [lookup_withEntry, dedupe]⟩, others, by rw [known]; exact repeated⟩
    cases shadow with
    | none => exact tracks 0 (by simp)
    | some entry =>
      by_cases same : entry.signature = signature
      · simp only [if_pos same]
        rw [same]
        exact tracks entry.replacesId (by simp [same])
      · simp only [if_neg same]
        split_ifs with shown
        · exact tracks entry.replacesId (by simp [same])
        · exact tracks 0 (by simp [same])

/-- The history is bounded, holds no key twice, and the dedupe map has just its keys. -/
structure Agrees (s : NotificationPlugin σ) : Prop where
  bounded : s.history.length ≤ maxNotificationHistory
  distinct : (keysOf s.history).Nodup
  tracked : ∀ key, key ∈ s.dedupe.keys ↔ key ∈ keysOf s.history

theorem keysOf_append (first second : List NotificationEntry) : keysOf (first ++ second) = keysOf first ++ keysOf second := by
  rw [keysOf, List.map_append, List.filter_append, ← keysOf, ← keysOf]

theorem keysOf_filter (keep : NotificationKey → Bool) (history : List NotificationEntry) :
    keysOf (history.filter fun entry => keep entry.key) = (keysOf history).filter keep := by
  have mapped : (history.filter fun entry => keep entry.key).map NotificationEntry.key =
      (history.map NotificationEntry.key).filter keep := by
    rw [List.filter_map]
    rfl
  rw [keysOf, mapped, keysOf, List.filter_comm]

theorem keysOf_without (deviceId : DeviceId) (id : String) (history : List NotificationEntry) :
    keysOf (without deviceId id history) = (keysOf history).filter fun key => key ≠ (deviceId, id) := by
  rw [← keysOf_filter]
  congr 1
  refine List.filter_congr fun entry _ => ?_
  simp [NotificationEntry.key, Prod.ext_iff]

theorem keysOf_recorded (entry : NotificationEntry) (history : List NotificationEntry) :
    keysOf (recorded entry history) =
      if entry.id = "" then keysOf history else ((keysOf history).filter fun key => key ≠ entry.key) ++ [entry.key] := by
  rw [recorded, keysOf_append]
  split_ifs with blank
  · simp [keysOf, NotificationEntry.key, blank]
  · have alone : keysOf [entry] = [entry.key] := by simp [keysOf, NotificationEntry.key, blank]
    rw [keysOf_without, alone]
    rfl

theorem length_recorded_le (entry : NotificationEntry) (history : List NotificationEntry) :
    (recorded entry history).length ≤ history.length + 1 := by
  rw [recorded, List.length_append, List.length_singleton]
  split_ifs with blank
  · rfl
  · exact Nat.add_le_add_right (List.length_filter_le _ _) 1

theorem nodup_recorded (entry : NotificationEntry) {history : List NotificationEntry} (distinct : (keysOf history).Nodup) :
    (keysOf (recorded entry history)).Nodup := by
  rw [keysOf_recorded]
  split_ifs with blank
  · exact distinct
  · refine List.nodup_append.mpr ⟨distinct.filter _, List.nodup_singleton _, fun key member other single => ?_⟩
    rw [List.mem_singleton.mp single]
    simpa using (List.mem_filter.mp member).2

theorem mem_keysOf_recorded (entry : NotificationEntry) (history : List NotificationEntry) (key : NotificationKey) :
    key ∈ keysOf (recorded entry history) ↔ (entry.id ≠ "" ∧ key = entry.key) ∨ key ∈ keysOf history := by
  rw [keysOf_recorded]
  split_ifs with blank
  · simp [blank]
  · by_cases same : key = entry.key
    · simp [same, blank]
    · simp [same]

/-- What is given up and what is kept of a longer history. -/
theorem mem_kept_iff {history : List NotificationEntry} (distinct : (keysOf history).Nodup) (n : Nat) (key : NotificationKey) :
    key ∈ keysOf (history.drop n) ↔ key ∈ keysOf history ∧ key ∉ keysOf (history.take n) := by
  have parts : keysOf history = keysOf (history.take n) ++ keysOf (history.drop n) := by
    rw [← keysOf_append, List.take_append_drop]
  rw [parts] at distinct ⊢
  have apart := (List.nodup_append.mp distinct).2.2
  rw [List.mem_append]
  constructor
  · intro kept
    exact ⟨.inr kept, fun given => apart key given key kept rfl⟩
  · rintro ⟨given | kept, absent⟩
    · exact absurd given absent
    · exact kept

theorem mem_keys_foldl_erase (keys : List NotificationKey) (dedupe : Table NotificationKey (DedupeEntry σ))
    (key : NotificationKey) :
    key ∈ (keys.foldl (fun dedupe key => dedupe.erase key) dedupe).keys ↔ key ∈ dedupe.keys ∧ key ∉ keys := by
  rw [Table.mem_keys_iff, Table.lookup_foldl_erase, Table.mem_keys_iff]
  split_ifs with listed
  · simp [listed]
  · simp [listed]

/-- A new entry is remembered once its key has been tracked. -/
theorem Agrees.remember {s tracked : NotificationPlugin σ} (agrees : s.Agrees) {entry : NotificationEntry}
    (history : tracked.history = s.history)
    (keys : ∀ key, key ∈ tracked.dedupe.keys ↔ (entry.id ≠ "" ∧ key = entry.key) ∨ key ∈ s.dedupe.keys) :
    (remember entry tracked).Agrees := by
  have distinct := nodup_recorded entry agrees.distinct
  refine ⟨?_, ?_, fun key => ?_⟩
  · show ((recorded entry tracked.history).drop (excess (recorded entry tracked.history))).length ≤ _
    rw [List.length_drop, excess]
    omega
  · show (keysOf ((recorded entry tracked.history).drop _)).Nodup
    rw [history]
    refine distinct.sublist ?_
    exact ((List.drop_sublist _ _).map _).filter _
  · show key ∈ ((evicted entry tracked.history).foldl _ tracked.dedupe).keys ↔
      key ∈ keysOf ((recorded entry tracked.history).drop (excess (recorded entry tracked.history)))
    rw [mem_keys_foldl_erase, keys, history, mem_kept_iff distinct, mem_keysOf_recorded, agrees.tracked, evicted]

theorem Agrees.take {s : NotificationPlugin σ} (agrees : s.Agrees) (deviceId : DeviceId) (id : String) :
    (dedupeTake deviceId id { s with history := without deviceId id s.history }).2.Agrees := by
  refine ⟨Nat.le_trans (List.length_filter_le _ _) agrees.bounded, ?_, fun key => ?_⟩
  · show (keysOf (without deviceId id s.history)).Nodup
    rw [keysOf_without]
    exact agrees.distinct.filter _
  · show key ∈ (s.dedupe.erase (deviceId, id)).keys ↔ key ∈ keysOf (without deviceId id s.history)
    rw [keysOf_without, List.mem_filter, ← agrees.tracked, Table.mem_keys_iff, Table.lookup_erase_of, Table.mem_keys_iff]
    split_ifs with same <;> simp [same]

theorem Agrees.onDisconnected {s : NotificationPlugin σ} (agrees : s.Agrees) (now pause : Nat) (deviceId : DeviceId) :
    (onDisconnected now pause deviceId s).Agrees := by
  have keys : keysOf (s.history.filter fun entry => entry.deviceId ≠ deviceId) =
      (keysOf s.history).filter fun key => key.1 ≠ deviceId := keysOf_filter (fun key => key.1 ≠ deviceId) s.history
  refine ⟨Nat.le_trans (List.length_filter_le _ _) agrees.bounded, ?_, fun key => ?_⟩
  · show (keysOf (s.history.filter fun entry => entry.deviceId ≠ deviceId)).Nodup
    rw [keys]
    exact agrees.distinct.filter _
  · show key ∈ (s.dedupe.retain fun key _ => key.1 ≠ deviceId).keys ↔
      key ∈ keysOf (s.history.filter fun entry => entry.deviceId ≠ deviceId)
    rw [keys, List.mem_filter, ← agrees.tracked, Table.mem_keys_iff, Table.lookup_retain, Table.mem_keys_iff]
    cases s.dedupe.lookup key <;> simp [Option.filter_some]

theorem dedupeRecordShown_spec (deviceId : DeviceId) (id : String) (replacesId : UInt32) (s : NotificationPlugin σ) :
    (dedupeRecordShown deviceId id replacesId s).history = s.history ∧
      (dedupeRecordShown deviceId id replacesId s).dedupeShadow = s.dedupeShadow ∧
      ∀ key, ((dedupeRecordShown deviceId id replacesId s).dedupe.lookup key).map DedupeEntry.signature =
        (s.dedupe.lookup key).map DedupeEntry.signature := by
  unfold dedupeRecordShown
  cases live : s.dedupe.lookup (deviceId, id) with
  | none => exact ⟨rfl, rfl, fun _ => rfl⟩
  | some entry =>
    refine ⟨rfl, rfl, fun key => ?_⟩
    rw [lookup_withEntry]
    split_ifs with same
    · rw [same, live]
      rfl
    · rfl

variable [DecidableEq σ] (signature : String × String × String → σ)

/-- A notification is tracked under its id, if it has one, and then remembered. -/
theorem handleNotification_spec (now : Nat) (deviceId : DeviceId) (body : NotificationBody) (desktop : Desktop)
    (s : NotificationPlugin σ) :
    ∃ posted : NotificationPlugin σ,
      (handleNotification signature now deviceId body desktop s).plugin = remember (entryOf deviceId body desktop) posted ∧
      posted.history = s.history ∧
      (∀ key, (posted.dedupe.lookup key).map DedupeEntry.signature =
        if body.ident ≠ "" ∧ key = (deviceId, body.ident) then some (signature body.content)
        else (s.dedupe.lookup key).map DedupeEntry.signature) ∧
      ∀ key, key ≠ (deviceId, body.ident) → posted.dedupeShadow.lookup key = s.dedupeShadow.lookup key := by
  by_cases blank : body.ident = ""
  · refine ⟨s, ?_, rfl, fun key => ?_, fun _ _ => rfl⟩
    · simp only [handleNotification, if_pos blank]
      split <;> rfl
    · simp [blank]
  · have tracks := dedupeTrack_spec now deviceId body.ident (signature body.content) s
    simp only [handleNotification, if_neg blank]
    generalize dedupeTrack now deviceId body.ident (signature body.content) s = result at tracks ⊢
    obtain ⟨action, tracked⟩ := result
    obtain ⟨replacesId, live⟩ := tracks.live
    have signed (key : NotificationKey) : (tracked.dedupe.lookup key).map DedupeEntry.signature =
        if body.ident ≠ "" ∧ key = (deviceId, body.ident) then some (signature body.content)
        else (s.dedupe.lookup key).map DedupeEntry.signature := by
      rw [live]
      by_cases here : key = (deviceId, body.ident) <;> simp [here, blank]
    split
    · obtain ⟨history, shadow, kept⟩ := dedupeRecordShown_spec deviceId body.ident ‹UInt32› tracked
      refine ⟨_, rfl, history.trans tracks.history, fun key => (kept key).trans (signed key), fun key other => ?_⟩
      rw [shadow, tracks.shadow key other]
    · exact ⟨tracked, rfl, tracks.history, signed, tracks.shadow⟩

theorem Agrees.handlePacket {s : NotificationPlugin σ} (agrees : s.Agrees) (now : Nat) (deviceId : DeviceId)
    (packet : Packet) (desktop : Desktop) : (handlePacket signature now deviceId packet desktop s).plugin.Agrees := by
  unfold NotificationPlugin.handlePacket
  split
  · exact agrees
  · rename_i body _
    split_ifs with cancels
    · exact agrees.take deviceId body.ident
    · obtain ⟨posted, result, history, signed, -⟩ := handleNotification_spec signature now deviceId body desktop s
      rw [result]
      refine agrees.remember history fun key => ?_
      have here := congrArg Option.isSome (signed key)
      rw [Option.isSome_map] at here
      rw [Table.mem_keys_iff, here, Table.mem_keys_iff]
      split_ifs with same
      · exact ⟨fun _ => .inl same, fun _ => rfl⟩
      · rw [Option.isSome_map]
        exact ⟨.inr, fun either => either.resolve_left same⟩

end NotificationPlugin

inductive NotificationEvent
  | packet (deviceId : DeviceId) (packet : Packet) (desktop : Desktop)
  | dismiss (deviceId : DeviceId) (id : String)
  | disconnected (deviceId : DeviceId) (pause : Nat)
  | advance (nanoseconds : Nat)

/-- The plugin and the monotonic clock. -/
structure Notifications (σ : Type) where
  plugin : NotificationPlugin σ := {}
  now : Nat := 0

namespace Notifications

open NotificationPlugin

variable {σ : Type} [DecidableEq σ] (signature : String × String × String → σ)

def step (s : Notifications σ) : NotificationEvent → Notifications σ
  | .packet deviceId packet desktop => { s with plugin := (handlePacket signature s.now deviceId packet desktop s.plugin).plugin }
  | .dismiss deviceId id => { s with plugin := (NotificationPlugin.dismiss deviceId id s.plugin).2 }
  | .disconnected deviceId pause => ⟨onDisconnected s.now pause deviceId s.plugin, s.now + pause⟩
  | .advance nanoseconds => { s with now := s.now + nanoseconds }

/-- The state after the first `k` events. -/
def during (events : List NotificationEvent) (k : Nat) : Notifications σ := History.stateAt (step signature) {} events k

theorem agrees_step {s : Notifications σ} (agrees : s.plugin.Agrees) (event : NotificationEvent) :
    (step signature s event).plugin.Agrees := by
  cases event with
  | packet deviceId packet desktop => exact agrees.handlePacket signature s.now deviceId packet desktop
  | dismiss deviceId id => exact agrees.take deviceId id
  | disconnected deviceId pause => exact agrees.onDisconnected s.now pause deviceId
  | advance nanoseconds => exact agrees

/-- The history never holds more than it may, no key twice, and the live dedupe
map has exactly the keys of its entries that have an id. -/
theorem history_and_dedupe_agree (events : List NotificationEvent) (k : Nat) :
    (during signature events k).plugin.history.length ≤ maxNotificationHistory ∧
      (keysOf (during signature events k).plugin.history).Nodup ∧
      ∀ key, key ∈ (during signature events k).plugin.dedupe.keys ↔ key ∈ keysOf (during signature events k).plugin.history := by
  have empty : ({} : NotificationPlugin σ).Agrees := ⟨Nat.zero_le _, List.nodup_nil, fun _ => Iff.rfl⟩
  have agrees : (during signature events k).plugin.Agrees :=
    History.invariant (I := fun s : Notifications σ => s.plugin.Agrees) empty (fun event _ _ agrees => agrees_step signature agrees event) k
  exact ⟨agrees.bounded, agrees.distinct, agrees.tracked⟩

end Notifications

end RustConnect
