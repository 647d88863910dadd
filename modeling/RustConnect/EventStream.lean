import Std.Data.String.ToNat
import RustConnect.Base.ServerSentEvents
import RustConnect.InputCapture

namespace RustConnect

inductive PluginEventKind
  | notification
  | battery
  | mprisUpdate
  | telephonyUpdate
  | clipboardUpdate
  | sftpUpdate
  | remoteKeyboardEcho
  | remoteKeyboardState
  | remoteCommandsUpdate
  | shareText
  | shareUrl
  | shareProgress
  | systemVolumeUpdate
  deriving DecidableEq, Repr

/-- The variant of an event, and its fields as they are serialized beside the tag. -/
structure TaggedEvent (κ : Type) where
  kind : κ
  fields : List (String × Json)

inductive ServerEvent
  | device (event : TaggedEvent DeviceEventKind)
  | plugin (event : TaggedEvent PluginEventKind)

namespace EventStream

inductive StreamItem
  | event (event : ServerEvent)
  | lagged (dropped : UInt64)
  | keepalive
  | snapshot (json : String)

/-- What the merged streams yield: an item of one of the two broadcast streams, which are
behind by so many events when it is an error, or a tick of the interval. -/
inductive Polled
  | device (received : Except UInt64 (TaggedEvent DeviceEventKind))
  | plugin (received : Except UInt64 (TaggedEvent PluginEventKind))
  | tick

/-- An item, and the list of devices at that time. -/
structure Poll where
  polled : Polled
  devices : Json

/-- The tag `event_type`, in snake case. -/
def deviceTag : DeviceEventKind → String
  | .discovered => "discovered"
  | .stateChanged => "state_changed"
  | .paired => "paired"
  | .unpaired => "unpaired"
  | .pairRequested => "pair_requested"
  | .connected => "connected"
  | .disconnected => "disconnected"
  | .removed => "removed"

/-- The tag `type`, as the variant is called. -/
def pluginTag : PluginEventKind → String
  | .notification => "Notification"
  | .battery => "Battery"
  | .mprisUpdate => "MprisUpdate"
  | .telephonyUpdate => "TelephonyUpdate"
  | .clipboardUpdate => "ClipboardUpdate"
  | .sftpUpdate => "SftpUpdate"
  | .remoteKeyboardEcho => "RemoteKeyboardEcho"
  | .remoteKeyboardState => "RemoteKeyboardState"
  | .remoteCommandsUpdate => "RemoteCommandsUpdate"
  | .shareText => "ShareText"
  | .shareUrl => "ShareUrl"
  | .shareProgress => "ShareProgress"
  | .systemVolumeUpdate => "SystemVolumeUpdate"

def kind : ServerEvent → String
  | .device event =>
    match event.kind with
    | .discovered => "device.discovered"
    | .stateChanged => "device.state_changed"
    | .paired => "device.paired"
    | .unpaired => "device.unpaired"
    | .pairRequested => "device.pair_requested"
    | .connected => "device.connected"
    | .disconnected => "device.disconnected"
    | .removed => "device.removed"
  | .plugin event =>
    match event.kind with
    | .notification => "plugin.notification"
    | .battery => "plugin.battery"
    | .mprisUpdate => "plugin.mpris_update"
    | .telephonyUpdate => "plugin.telephony_update"
    | .clipboardUpdate => "plugin.clipboard_update"
    | .sftpUpdate => "plugin.sftp_update"
    | .remoteKeyboardEcho => "plugin.remote_keyboard_echo"
    | .remoteKeyboardState => "plugin.remote_keyboard_state"
    | .remoteCommandsUpdate => "plugin.remote_commands_update"
    | .shareText => "plugin.share_text"
    | .shareUrl => "plugin.share_url"
    | .shareProgress => "plugin.share_progress"
    | .systemVolumeUpdate => "plugin.system_volume_update"

/-- The members of `serde_json::to_value`: the fields after the tag of the enumeration. -/
def toMembers : ServerEvent → List (String × Json)
  | .device event => ("event_type", .str (deviceTag event.kind)) :: event.fields
  | .plugin event => ("type", .str (pluginTag event.kind)) :: event.fields

/-- The value that an event frame carries, with its `kind`. -/
def eventValue (event : ServerEvent) : Json :=
  .obj ((toMembers event).filter (fun member => member.1 != "kind") ++ [("kind", .str (kind event))])

def wrapBroadcast {α : Type} (map : α → ServerEvent) : Except UInt64 α → StreamItem
  | .ok event => .event (map event)
  | .error dropped => .lagged dropped

def item : Polled → StreamItem
  | .device received => wrapBroadcast .device received
  | .plugin received => wrapBroadcast .plugin received
  | .tick => .keepalive

variable (toString : Json → Option String)

/-- `render_sse_item`, with `serde_json::to_string` as a parameter. -/
def renderSseItem (item : StreamItem) (nextId : UInt64) : Option String :=
  match item with
  | .event event => do
    let json ← toString (eventValue event)
    return "id: " ++ nextId.toNat.repr ++ "\ndata: " ++ json ++ "\n\n"
  | .lagged dropped =>
    some ("id: " ++ nextId.toNat.repr ++ "\nevent: lagged\ndata: \x7b\"dropped\":" ++ dropped.toNat.repr ++ "\x7d\n\n")
  | .keepalive => some ": keepalive\n\n"
  | .snapshot json => some ("id: " ++ nextId.toNat.repr ++ "\nevent: snapshot\ndata: " ++ json ++ "\n\n")

def snapshotItem (devices : Json) : Option StreamItem := (toString devices).map .snapshot

/-- The head of the stream, and the next id. -/
def firstFrame (devices : Json) : UInt64 × Option String :=
  match snapshotItem toString devices with
  | some item => (2, renderSseItem toString item 1)
  | none => (1, none)

/-- What an item is sent as, and the next id. -/
def liveChunk (ids : UInt64) (poll : Poll) : UInt64 × Option String :=
  match item poll.polled with
  | .keepalive => (ids, renderSseItem toString .keepalive 0)
  | .lagged dropped =>
    match renderSseItem toString (.lagged dropped) ids with
    | none => (ids + 1, none)
    | some chunk =>
      match snapshotItem toString poll.devices with
      | none => (ids + 1, some chunk)
      | some snapshot =>
        match renderSseItem toString snapshot (ids + 1) with
        | none => (ids + 1 + 1, some chunk)
        | some frame => (ids + 1 + 1, some (chunk ++ frame))
  | other => (ids + 1, renderSseItem toString other ids)

def live (ids : UInt64) : List Poll → List String
  | [] => []
  | poll :: rest => (liveChunk toString ids poll).2.toList ++ live (liveChunk toString ids poll).1 rest

/-- The chunks of a connection that is opened while `devices` is the list of devices. -/
def buildEventStream (devices : Json) (polls : List Poll) : List String :=
  (firstFrame toString devices).2.toList ++ live toString (firstFrame toString devices).1 polls

/-- What is relied on of `serde_json` for a value: it has a text, and in it
no control character. -/
def Serializable (value : Json) : Prop := ∃ json, toString value = some json ∧ ∀ c ∈ json.toList, 0x20 ≤ c.toNat

/-- A frame of the stream, with the texts that it carries. -/
inductive Frame
  | event (id : UInt64) (json : String)
  | lagged (id dropped : UInt64)
  | snapshot (id : UInt64) (json : String)
  | keepalive
  deriving DecidableEq, Repr

namespace Frame

def id : Frame → Option UInt64
  | event id _ | lagged id _ | snapshot id _ => some id
  | keepalive => none

def idLine (id : UInt64) : List Char := ['i', 'd'] ++ ':' :: ' ' :: id.toNat.repr.toList

def eventLine (name : String) : List Char := ['e', 'v', 'e', 'n', 't'] ++ ':' :: ' ' :: name.toList

def dataLine (json : String) : List Char := ['d', 'a', 't', 'a'] ++ ':' :: ' ' :: json.toList

def droppedText (dropped : UInt64) : String := "\x7b\"dropped\":" ++ dropped.toNat.repr ++ "\x7d"

def lines : Frame → List (List Char)
  | event id json => [idLine id, dataLine json]
  | lagged id dropped => [idLine id, eventLine "lagged", dataLine (droppedText dropped)]
  | snapshot id json => [idLine id, eventLine "snapshot", dataLine json]
  | keepalive => [": keepalive".toList]

/-- What a reader of the stream makes of the frame. -/
def block : Frame → ServerSentEvents.Block
  | event id json => { id := some id.toNat.repr, data := [json] }
  | lagged id dropped => { id := some id.toNat.repr, event := some "lagged", data := [droppedText dropped] }
  | snapshot id json => { id := some id.toNat.repr, event := some "snapshot", data := [json] }
  | keepalive => { comments := [" keepalive"] }

/-- The texts of the frame have no control character. -/
def Printable : Frame → Prop
  | event _ json | snapshot _ json => ∀ c ∈ json.toList, 0x20 ≤ c.toNat
  | lagged _ _ | keepalive => True

end Frame

/-- The text of a value that is serializable. -/
def textOf (value : Json) : String := (toString value).getD ""

/-- The frames of an item, when the next id is this one. -/
def pollFrames (ids : UInt64) (poll : Poll) : List Frame :=
  match item poll.polled with
  | .event event => [.event ids (textOf toString (eventValue event))]
  | .lagged dropped => [.lagged ids dropped, .snapshot (ids + 1) (textOf toString poll.devices)]
  | .keepalive => [.keepalive]
  | .snapshot json => [.snapshot ids json]

/-- The id after some frames. -/
def idAfter (ids : UInt64) (frames : List Frame) : UInt64 := ids + UInt64.ofNat (frames.filterMap Frame.id).length

def liveFrames (ids : UInt64) : List Poll → List Frame
  | [] => []
  | poll :: rest => pollFrames toString ids poll ++ liveFrames (idAfter ids (pollFrames toString ids poll)) rest

/-- The frames of a connection. -/
def frames (devices : Json) (polls : List Poll) : List Frame :=
  .snapshot 1 (textOf toString devices) :: liveFrames toString 2 polls

/-- The values of a connection are serializable. -/
structure AllSerializable (devices : Json) (polls : List Poll) : Prop where
  first : Serializable toString devices
  lists : ∀ poll ∈ polls, Serializable toString poll.devices
  events : ∀ poll ∈ polls, ∀ event, item poll.polled = .event event → Serializable toString (eventValue event)

variable {toString}

section Text

theorem repr_plain (n : Nat) : ∀ c ∈ n.repr.toList, c.isDigit = true := by
  intro c member
  rw [Nat.toList_repr] at member
  exact Nat.isDigit_of_mem_toDigits (by decide) (by decide) member

theorem digit_plain {c : Char} (digit : c.isDigit = true) : 0x20 ≤ c.toNat := by
  simp only [Char.isDigit, Bool.and_eq_true, decide_eq_true_eq] at digit
  have low : (48 : UInt32) ≤ c.val := digit.1
  exact Nat.le_trans (by decide) (UInt32.le_iff_toNat_le.mp low)

theorem plain_of_printable {c : Char} (printable : 0x20 ≤ c.toNat) : c ≠ '\n' ∧ c ≠ '\r' := by
  constructor
  · rintro rfl
    exact absurd printable (by decide)
  · rintro rfl
    exact absurd printable (by decide)

theorem field_printable {name value : List Char} (named : ∀ c ∈ name, 0x20 ≤ c.toNat) (valued : ∀ c ∈ value, 0x20 ≤ c.toNat) :
    ∀ c ∈ name ++ ':' :: ' ' :: value, 0x20 ≤ c.toNat := by
  intro c member
  rcases List.mem_append.mp member with inside | inside
  · exact named c inside
  · rcases List.mem_cons.mp inside with rfl | inside
    · decide
    · rcases List.mem_cons.mp inside with rfl | inside
      · decide
      · exact valued c inside

theorem printable_of_all {line : List Char} (all : line.all (fun c => 0x20 ≤ c.toNat) = true) :
    ∀ c ∈ line, 0x20 ≤ c.toNat := by
  simpa using all

theorem idLine_printable (id : UInt64) : ∀ c ∈ Frame.idLine id, 0x20 ≤ c.toNat :=
  field_printable (printable_of_all (by decide)) fun c member => digit_plain (repr_plain _ c member)

theorem dataLine_printable {json : String} (printable : ∀ c ∈ json.toList, 0x20 ≤ c.toNat) :
    ∀ c ∈ Frame.dataLine json, 0x20 ≤ c.toNat :=
  field_printable (printable_of_all (by decide)) printable

theorem droppedText_printable (dropped : UInt64) : ∀ c ∈ (Frame.droppedText dropped).toList, 0x20 ≤ c.toNat := by
  intro c member
  simp only [Frame.droppedText, String.toList_append, List.mem_append] at member
  rcases member with (opening | digits) | closing
  · exact printable_of_all (by decide) c opening
  · exact digit_plain (repr_plain _ c digits)
  · exact printable_of_all (by decide) c closing

theorem lines_printable {frame : Frame} (printable : frame.Printable) :
    ∀ line ∈ frame.lines, ∀ c ∈ line, 0x20 ≤ c.toNat := by
  cases frame with
  | event id json => simpa [Frame.lines] using ⟨idLine_printable id, dataLine_printable printable⟩
  | lagged id dropped =>
    have named : ∀ c ∈ Frame.eventLine "lagged", 0x20 ≤ c.toNat :=
      field_printable (printable_of_all (by decide)) (printable_of_all (by decide))
    simpa [Frame.lines] using ⟨idLine_printable id, named, dataLine_printable (droppedText_printable dropped)⟩
  | snapshot id json =>
    have named : ∀ c ∈ Frame.eventLine "snapshot", 0x20 ≤ c.toNat :=
      field_printable (printable_of_all (by decide)) (printable_of_all (by decide))
    simpa [Frame.lines] using ⟨idLine_printable id, named, dataLine_printable printable⟩
  | keepalive => simp [Frame.lines]

theorem lines_nonempty (frame : Frame) : ∀ line ∈ frame.lines, line ≠ [] := by
  have field (name value : List Char) : name ++ ':' :: ' ' :: value ≠ [] := by simp
  cases frame with
  | event id json => simpa [Frame.lines] using ⟨field _ _, field _ _⟩
  | lagged id dropped => simpa [Frame.lines] using ⟨field _ _, field _ _, field _ _⟩
  | snapshot id json => simpa [Frame.lines] using ⟨field _ _, field _ _, field _ _⟩
  | keepalive => simp [Frame.lines]

theorem lines_plain {frame : Frame} (printable : frame.Printable) : ∀ line ∈ frame.lines, ServerSentEvents.Plain line :=
  fun line member => ⟨lines_nonempty frame line member, fun c inside =>
    plain_of_printable (lines_printable printable line member c inside)⟩

end Text

section Blocks

open ServerSentEvents

variable (start : Block)

theorem add_idLine (id : UInt64) : start.add (Frame.idLine id) = { start with id := some id.toNat.repr } := by
  have digits : '\x00' ∉ id.toNat.repr.toList := fun member => absurd (repr_plain _ _ member) (by decide)
  have added := start.add_field (show ['i', 'd'] ≠ [] by decide) (by decide) id.toNat.repr.toList
  rw [Frame.idLine, added, Block.field, if_pos (by decide), if_neg digits, String.ofList_toList]

theorem add_eventLine (name : String) : start.add (Frame.eventLine name) = { start with event := some name } := by
  have added := start.add_field (show ['e', 'v', 'e', 'n', 't'] ≠ [] by decide) (by decide) name.toList
  rw [Frame.eventLine, added, Block.field, if_neg (by decide), if_pos (by decide), String.ofList_toList]

theorem add_dataLine (json : String) : start.add (Frame.dataLine json) = { start with data := start.data ++ [json] } := by
  have added := start.add_field (show ['d', 'a', 't', 'a'] ≠ [] by decide) (by decide) json.toList
  rw [Frame.dataLine, added, Block.field, if_neg (by decide), if_neg (by decide), if_pos (by decide), String.ofList_toList]

theorem foldl_lines (frame : Frame) : frame.lines.foldl Block.add {} = frame.block := by
  cases frame with
  | event id json => simp [Frame.lines, add_idLine, add_dataLine, Frame.block]
  | lagged id dropped => simp [Frame.lines, add_idLine, add_eventLine, add_dataLine, Frame.block]
  | snapshot id json => simp [Frame.lines, add_idLine, add_eventLine, add_dataLine, Frame.block]
  | keepalive => decide

theorem repr_toNat_injective {id other : UInt64} (same : id.toNat.repr = other.toNat.repr) : id = other :=
  UInt64.toNat_inj.mp (Nat.repr_injective same)

theorem droppedText_injective {dropped other : UInt64} (same : Frame.droppedText dropped = Frame.droppedText other) :
    dropped = other := by
  have lists := congrArg String.toList same
  simp only [Frame.droppedText, String.toList_append, List.append_cancel_right_eq, List.append_cancel_left_eq] at lists
  exact repr_toNat_injective (String.toList_inj.mp lists)

theorem block_injective : Function.Injective Frame.block := by
  intro frame other same
  cases frame <;> cases other <;> simp only [Frame.block, Block.mk.injEq, reduceCtorEq, Option.some.injEq, List.cons.injEq,
    and_true, true_and, false_and, and_false] at same
  case event.event => rw [repr_toNat_injective same.1, same.2]
  case lagged.lagged => rw [repr_toNat_injective same.1, droppedText_injective same.2]
  case snapshot.snapshot => rw [repr_toNat_injective same.1, same.2]
  case lagged.snapshot => exact absurd same.2.1 (by decide)
  case snapshot.lagged => exact absurd same.2.1 (by decide)
  case keepalive.keepalive => rfl

end Blocks

section Chunks

open ServerSentEvents

/-- The text of a frame. -/
def frameText (frame : Frame) : String := String.ofList (written frame.lines)

theorem idText : "id: ".toList = ['i', 'd', ':', ' '] := rfl

theorem dataText : "\ndata: ".toList = ['\n', 'd', 'a', 't', 'a', ':', ' '] := rfl

theorem laggedText : "\nevent: lagged\ndata: \x7b\"dropped\":".toList =
    '\n' :: ['e', 'v', 'e', 'n', 't', ':', ' '] ++ "lagged".toList ++ ['\n', 'd', 'a', 't', 'a', ':', ' '] ++
      "\x7b\"dropped\":".toList := rfl

theorem snapshotText : "\nevent: snapshot\ndata: ".toList =
    '\n' :: ['e', 'v', 'e', 'n', 't', ':', ' '] ++ "snapshot".toList ++ ['\n', 'd', 'a', 't', 'a', ':', ' '] := rfl

theorem endText : "\n\n".toList = ['\n', '\n'] := rfl

theorem closeText : "\x7d\n\n".toList = "\x7d".toList ++ ['\n', '\n'] := rfl

theorem frameText_event (id : UInt64) (json : String) :
    "id: " ++ id.toNat.repr ++ "\ndata: " ++ json ++ "\n\n" = frameText (.event id json) := by
  apply String.toList_inj.mp
  simp only [frameText, String.toList_ofList, written, Frame.lines, Frame.idLine, Frame.dataLine, List.map_cons, List.map_nil,
    List.flatten_cons, List.flatten_nil, String.toList_append, idText, dataText, endText, List.append_assoc, List.cons_append,
    List.nil_append]

theorem frameText_lagged (id dropped : UInt64) :
    "id: " ++ id.toNat.repr ++ "\nevent: lagged\ndata: \x7b\"dropped\":" ++ dropped.toNat.repr ++ "\x7d\n\n" =
      frameText (.lagged id dropped) := by
  apply String.toList_inj.mp
  simp only [frameText, String.toList_ofList, written, Frame.lines, Frame.idLine, Frame.eventLine, Frame.dataLine,
    Frame.droppedText, List.map_cons, List.map_nil, List.flatten_cons, List.flatten_nil, String.toList_append, idText, laggedText,
    closeText, List.append_assoc, List.cons_append, List.nil_append]

theorem frameText_snapshot (id : UInt64) (json : String) :
    "id: " ++ id.toNat.repr ++ "\nevent: snapshot\ndata: " ++ json ++ "\n\n" = frameText (.snapshot id json) := by
  apply String.toList_inj.mp
  simp only [frameText, String.toList_ofList, written, Frame.lines, Frame.idLine, Frame.eventLine, Frame.dataLine, List.map_cons,
    List.map_nil, List.flatten_cons, List.flatten_nil, String.toList_append, idText, snapshotText, endText, List.append_assoc,
    List.cons_append, List.nil_append]

variable {ids : UInt64} {poll : Poll} {polls : List Poll} {devices value : Json}

theorem Serializable.text (serializable : Serializable toString value) : toString value = some (textOf toString value) := by
  obtain ⟨json, printed, _⟩ := serializable
  rw [textOf, printed, Option.getD_some]

theorem Serializable.printable (serializable : Serializable toString value) :
    ∀ c ∈ (textOf toString value).toList, 0x20 ≤ c.toNat := by
  obtain ⟨json, printed, escaped⟩ := serializable
  rw [textOf, printed, Option.getD_some]
  exact escaped

/-- An item is sent as the text of its frames, and takes an id for each of them that carries one. -/
theorem liveChunk_frames (listed : Serializable toString poll.devices)
    (told : ∀ event, item poll.polled = .event event → Serializable toString (eventValue event)) :
    liveChunk toString ids poll = (idAfter ids (pollFrames toString ids poll),
      some (String.join ((pollFrames toString ids poll).map frameText))) := by
  unfold liveChunk pollFrames
  cases kind : item poll.polled with
  | event event =>
    simp [renderSseItem, (told event kind).text, frameText_event, idAfter, Frame.id, String.join]
  | lagged dropped =>
    have counted : idAfter ids [.lagged ids dropped, .snapshot (ids + 1) (textOf toString poll.devices)] = ids + 1 + 1 :=
      (UInt64.add_assoc ids 1 1).symm
    simp only [renderSseItem, snapshotItem, listed.text, Option.map_some, frameText_lagged, frameText_snapshot, counted,
      List.map_cons, List.map_nil, String.join_cons, String.join_nil, String.append_empty]
  | keepalive =>
    have counted : idAfter ids [.keepalive] = ids := UInt64.add_zero ids
    simp [renderSseItem, counted, String.join, frameText, written, Frame.lines]
  | snapshot json =>
    simp [renderSseItem, frameText_snapshot, idAfter, Frame.id, String.join]

theorem live_frames (listed : ∀ poll ∈ polls, Serializable toString poll.devices)
    (told : ∀ poll ∈ polls, ∀ event, item poll.polled = .event event → Serializable toString (eventValue event))
    (ids : UInt64) :
    String.join (live toString ids polls) = String.join ((liveFrames toString ids polls).map frameText) := by
  induction polls generalizing ids with
  | nil => rfl
  | cons poll rest ih =>
    have here := @liveChunk_frames toString ids poll (listed poll List.mem_cons_self) (told poll List.mem_cons_self)
    have later := ih (fun other member => listed other (List.mem_cons_of_mem poll member))
      (fun other member => told other (List.mem_cons_of_mem poll member)) (idAfter ids (pollFrames toString ids poll))
    simp only [live, here, liveFrames, List.map_append, String.join_append, Option.toList_some, List.singleton_append,
      String.join_cons, later]

end Chunks

section Runs

variable {ids : UInt64} {first second : List Frame}

/-- The frames that carry an id carry the next ones, from this one on. -/
def Numbered (ids : UInt64) (frames : List Frame) : Prop :=
  frames.filterMap Frame.id = (List.range (frames.filterMap Frame.id).length).map fun k => ids + UInt64.ofNat k

theorem Numbered.append (numbered : Numbered ids first) (later : Numbered (idAfter ids first) second) :
    Numbered ids (first ++ second) := by
  unfold Numbered at *
  rw [List.filterMap_append, List.length_append, List.range_add, List.map_append, ← numbered, List.map_map]
  refine congrArg (first.filterMap Frame.id ++ ·) (later.trans (List.map_congr_left fun k _ => ?_))
  rw [idAfter, Function.comp_apply, UInt64.ofNat_add, UInt64.add_assoc]

theorem numbered_pollFrames (ids : UInt64) (poll : Poll) : Numbered ids (pollFrames toString ids poll) := by
  unfold pollFrames Numbered
  cases item poll.polled with
  | event event => exact congrArg (fun id => [id]) (UInt64.add_zero ids).symm
  | lagged dropped => exact congrArg (fun id => [id, ids + 1]) (UInt64.add_zero ids).symm
  | keepalive => rfl
  | snapshot json => exact congrArg (fun id => [id]) (UInt64.add_zero ids).symm

theorem numbered_liveFrames (ids : UInt64) (polls : List Poll) : Numbered ids (liveFrames toString ids polls) := by
  induction polls generalizing ids with
  | nil => rfl
  | cons poll rest ih => exact (numbered_pollFrames ids poll).append (ih _)

theorem numbered_frames (devices : Json) (polls : List Poll) : Numbered 1 (frames toString devices polls) :=
  have snapshot : Numbered 1 [.snapshot 1 (textOf toString devices)] := rfl
  snapshot.append (numbered_liveFrames 2 polls)

theorem toNat_ids (few : (first.filterMap Frame.id).length < 2 ^ 64) (numbered : Numbered 1 first) :
    (first.filterMap Frame.id).map UInt64.toNat = List.range' 1 (first.filterMap Frame.id).length := by
  rw [numbered, List.map_map, List.length_map, List.length_range, List.range'_eq_map_range]
  refine List.map_congr_left fun k member => ?_
  have small : k + 1 < 2 ^ 64 := Nat.lt_of_le_of_lt (List.mem_range.mp member) few
  rw [Function.comp_apply, UInt64.add_comm, show UInt64.ofNat k + 1 = UInt64.ofNat (k + 1) from (UInt64.ofNat_add k 1).symm,
    UInt64.toNat_ofNat_of_lt' small, Nat.add_comm]

/-- A frame that tells of lost events is followed by a snapshot with the next id. -/
def Followed (frames : List Frame) : Prop :=
  ∀ k id dropped, frames[k]? = some (.lagged id dropped) → ∃ json, frames[k + 1]? = some (.snapshot (id + 1) json)

theorem Followed.append (followed : Followed first) (later : Followed second) : Followed (first ++ second) := by
  intro k id dropped found
  rcases Nat.lt_or_ge k first.length with inside | beyond
  · rw [List.getElem?_append_left inside] at found
    obtain ⟨json, next⟩ := followed k id dropped found
    exact ⟨json, (List.getElem?_append_left (List.getElem?_eq_some_iff.mp next).1).trans next⟩
  · rw [List.getElem?_append_right beyond] at found
    obtain ⟨json, next⟩ := later _ id dropped found
    refine ⟨json, ?_⟩
    rw [List.getElem?_append_right (Nat.le_succ_of_le beyond), Nat.succ_sub beyond]
    exact next

theorem followed_liveFrames (ids : UInt64) (polls : List Poll) : Followed (liveFrames toString ids polls) := by
  induction polls generalizing ids with
  | nil => exact fun k id dropped found => by simp [liveFrames] at found
  | cons poll rest ih =>
    refine Followed.append ?_ (ih _)
    unfold pollFrames
    cases item poll.polled with
    | event event => exact fun k id dropped found => by simp [List.getElem?_singleton] at found
    | keepalive => exact fun k id dropped found => by simp [List.getElem?_singleton] at found
    | snapshot json => exact fun k id dropped found => by simp [List.getElem?_singleton] at found
    | lagged lost =>
      intro k id dropped found
      match k with
      | 0 =>
        obtain ⟨rfl, rfl⟩ := Frame.lagged.inj (Option.some.inj found)
        exact ⟨_, rfl⟩
      | 1 => cases found
      | k + 2 => simp at found

theorem printable_frames {devices : Json} {polls : List Poll} (serializable : AllSerializable toString devices polls) :
    ∀ frame ∈ frames toString devices polls, frame.Printable := by
  suffices later : ∀ (polls : List Poll) ids, (∀ poll ∈ polls, Serializable toString poll.devices) →
      (∀ poll ∈ polls, ∀ event, item poll.polled = .event event → Serializable toString (eventValue event)) →
      ∀ frame ∈ liveFrames toString ids polls, frame.Printable by
    intro frame member
    rcases List.mem_cons.mp member with rfl | inside
    · exact serializable.first.printable
    · exact later polls 2 serializable.lists serializable.events frame inside
  intro polls
  induction polls with
  | nil => exact fun ids _ _ frame member => absurd member List.not_mem_nil
  | cons poll rest ih =>
    intro ids listed told frame member
    rcases List.mem_append.mp member with here | inside
    · have list := listed poll List.mem_cons_self
      have event := told poll List.mem_cons_self
      unfold pollFrames at here
      cases kind : item poll.polled with
      | event sent =>
        simp only [kind, List.mem_singleton] at here
        exact here ▸ (event sent kind).printable
      | lagged dropped =>
        simp only [kind, List.mem_cons, List.not_mem_nil, or_false] at here
        rcases here with rfl | rfl
        · trivial
        · exact list.printable
      | keepalive =>
        simp only [kind, List.mem_singleton] at here
        exact here ▸ trivial
      | snapshot json => exact absurd kind (by cases poll.polled with
        | device received => cases received <;> simp [item, wrapBroadcast]
        | plugin received => cases received <;> simp [item, wrapBroadcast]
        | tick => simp [item])
    · exact ih _ (fun other among => listed other (List.mem_cons_of_mem poll among))
        (fun other among => told other (List.mem_cons_of_mem poll among)) frame inside

/-- A reader gets the blocks of the frames. -/
theorem parse_stream {devices : Json} {polls : List Poll} (serializable : AllSerializable toString devices polls)
    (plain : ∀ frame ∈ frames toString devices polls, ∀ line ∈ frame.lines, ServerSentEvents.Plain line) :
    ServerSentEvents.parse (String.join (buildEventStream toString devices polls)) =
      (frames toString devices polls).map Frame.block := by
  have sent : String.join (buildEventStream toString devices polls) =
      String.join ((frames toString devices polls).map frameText) := by
    have later := live_frames serializable.lists serializable.events 2
    simp only [buildEventStream, firstFrame, snapshotItem, serializable.first.text, Option.map_some, renderSseItem,
      frameText_snapshot, Option.toList_some, List.singleton_append, String.join_cons, later, frames, List.map_cons]
  have chars : (String.join (buildEventStream toString devices polls)).toList =
      (((frames toString devices polls).map Frame.lines).map ServerSentEvents.written).flatten := by
    rw [sent, String.toList_join, List.flatMap_map, List.map_map, ← List.flatMap_def]
    exact List.flatMap_congr fun frame _ => String.toList_ofList
  have whole : ∀ block ∈ (frames toString devices polls).map Frame.lines, ∀ line ∈ block, ServerSentEvents.Plain line := by
    intro block member line inside
    obtain ⟨frame, among, rfl⟩ := List.mem_map.mp member
    exact plain frame among line inside
  have unmarked : (String.join (buildEventStream toString devices polls)).toList.head? ≠
      some ServerSentEvents.byteOrderMark := by
    rw [chars]
    exact fun same => absurd (Option.some.inj same) (by decide)
  rw [ServerSentEvents.parse_written whole chars unmarked, List.map_map]
  exact List.map_congr_left fun frame _ => foldl_lines frame

end Runs

/-- The stream of a connection is the text of its frames: a snapshot comes
first, the ids are counted from 1 and come round after 2^64 of them, a frame
that tells of lost events is followed by a snapshot, no line is broken, and a
reader of the stream gets these frames and no others. -/
theorem stream_framed {devices : Json} {polls : List Poll} (serializable : AllSerializable toString devices polls) :
    (∃ json, (frames toString devices polls).head? = some (.snapshot 1 json)) ∧
      ((frames toString devices polls).filterMap Frame.id =
        (List.range ((frames toString devices polls).filterMap Frame.id).length).map fun k => UInt64.ofNat (k + 1)) ∧
      (((frames toString devices polls).filterMap Frame.id).length < 2 ^ 64 →
        ((frames toString devices polls).filterMap Frame.id).map UInt64.toNat =
          List.range' 1 ((frames toString devices polls).filterMap Frame.id).length) ∧
      (∀ frame ∈ frames toString devices polls, frame.block.id = frame.id.map fun id => id.toNat.repr) ∧
      (∀ k id dropped, (frames toString devices polls)[k]? = some (.lagged id dropped) →
        ∃ json, (frames toString devices polls)[k + 1]? = some (.snapshot (id + 1) json)) ∧
      (∀ frame ∈ frames toString devices polls, ∀ line ∈ frame.lines, ServerSentEvents.Plain line) ∧
      ∀ others, ServerSentEvents.parse (String.join (buildEventStream toString devices polls)) = others.map Frame.block ↔
        others = frames toString devices polls := by
  have numbered : Numbered 1 (frames toString devices polls) := numbered_frames devices polls
  have snapshot : Followed [.snapshot 1 (textOf toString devices)] :=
    fun k id dropped found => by simp [List.getElem?_singleton] at found
  have printable := printable_frames serializable
  have plain : ∀ frame ∈ frames toString devices polls, ∀ line ∈ frame.lines, ServerSentEvents.Plain line :=
    fun frame member => lines_plain (printable frame member)
  refine ⟨⟨_, rfl⟩, ?_, fun few => toNat_ids few numbered, fun frame _ => ?_, ?_, plain, fun others => ?_⟩
  · refine numbered.trans (List.map_congr_left fun k _ => ?_)
    rw [UInt64.ofNat_add, UInt64.add_comm]
    rfl
  · cases frame <;> rfl
  · exact snapshot.append (followed_liveFrames 2 polls)
  · rw [parse_stream serializable plain]
    exact ⟨fun same => List.map_injective_iff.mpr block_injective same.symm, fun same => by rw [same]⟩

section Sample

/-- A list of devices without any. -/
def noDevices : Json := .obj [("devices", .arr []), ("total", .num (.posInt 0))]

/-- An unpaired device, some events that were lost, and a tick of the interval. -/
def quietPolls : List Poll :=
  [⟨.device (.ok ⟨.unpaired, [("device_id", .str "phone")]⟩), noDevices⟩, ⟨.plugin (.error 3), noDevices⟩, ⟨.tick, noDevices⟩]

def unpairedText : String :=
  "\x7b\"device_id\":\"phone\",\"event_type\":\"unpaired\",\"kind\":\"device.unpaired\"\x7d"

/-- The texts of the event and of the list. -/
def quietTexts (value : Json) : Option String :=
  if (value.get "kind").isSome then some unpairedText else some "\x7b\"devices\":[],\"total\":0\x7d"

theorem quiet_serializable : AllSerializable quietTexts noDevices quietPolls where
  first := ⟨_, rfl, printable_of_all (by decide)⟩
  lists := by
    intro poll member
    have bare : poll.devices = noDevices := by
      rcases List.mem_cons.mp member with rfl | member
      · rfl
      · rcases List.mem_cons.mp member with rfl | member
        · rfl
        · exact List.mem_singleton.mp member ▸ rfl
    exact bare ▸ ⟨_, rfl, printable_of_all (by decide)⟩
  events := by
    intro poll _ event _
    have texts : ∀ c ∈ unpairedText.toList, 0x20 ≤ c.toNat := printable_of_all (by decide +kernel)
    have told : quietTexts (eventValue event) = some unpairedText := by
      simp [quietTexts, eventValue, Json.get]
    exact ⟨_, told, texts⟩

theorem quiet_stream_read : ServerSentEvents.parse (String.join (buildEventStream quietTexts noDevices quietPolls)) =
    [Frame.snapshot 1 "\x7b\"devices\":[],\"total\":0\x7d", .event 2 unpairedText, .lagged 3 3,
      .snapshot 4 "\x7b\"devices\":[],\"total\":0\x7d", .keepalive].map Frame.block :=
  ((stream_framed quiet_serializable).2.2.2.2.2.2 _).mpr rfl

theorem length_ids (event : ServerEvent) (devices : Json) (ids : UInt64) (n : Nat) {polled : Polled}
    (sent : item polled = .event event) :
    ((liveFrames toString ids (List.replicate n ⟨polled, devices⟩)).filterMap Frame.id).length = n := by
  induction n generalizing ids with
  | zero => rfl
  | succ n ih =>
    rw [List.replicate_succ, liveFrames, List.filterMap_append, List.length_append, ih]
    simp only [pollFrames, sent]
    exact Nat.add_comm 1 n

/-- With so many events the last frame carries the id 0. -/
theorem ids_come_round :
    ¬(∀ (toString : Json → Option String) (devices : Json) (polls : List Poll), AllSerializable toString devices polls →
      ((frames toString devices polls).filterMap Frame.id).map UInt64.toNat =
        List.range' 1 ((frames toString devices polls).filterMap Frame.id).length) := by
  intro always
  let poll : Poll := ⟨.device (.ok ⟨.unpaired, []⟩), .obj []⟩
  have bare (value : Json) : Serializable (fun _ => some "\x7b\x7d") value := ⟨_, rfl, printable_of_all (by decide)⟩
  have counted := always (fun _ => some "\x7b\x7d") (.obj []) (List.replicate (2 ^ 64 - 1) poll)
    ⟨bare _, fun _ _ => bare _, fun _ _ _ _ => bare _⟩
  have numbered : Numbered 1 (frames (fun _ => some "\x7b\x7d") (.obj []) (List.replicate (2 ^ 64 - 1) poll)) :=
    numbered_frames (.obj []) (List.replicate (2 ^ 64 - 1) poll)
  have length : ((frames (fun _ => some "\x7b\x7d") (.obj []) (List.replicate (2 ^ 64 - 1) poll)).filterMap Frame.id).length =
      2 ^ 64 := by
    have rest : ((liveFrames (fun _ => some "\x7b\x7d") 2 (List.replicate (2 ^ 64 - 1) poll)).filterMap Frame.id).length =
        2 ^ 64 - 1 := length_ids (.device ⟨.unpaired, []⟩) (.obj []) 2 (2 ^ 64 - 1) rfl
    rw [frames, List.filterMap_cons_some (by rfl), List.length_cons]
    exact congrArg (· + 1) rest
  rw [numbered, length, List.length_map, List.length_range] at counted
  have last := congrArg (fun ids => ids[2 ^ 64 - 1]?) counted
  simp only [List.map_map, List.getElem?_map, List.getElem?_range (show 2 ^ 64 - 1 < 2 ^ 64 by decide), Option.map_some,
    List.getElem?_range' (show 2 ^ 64 - 1 < 2 ^ 64 by decide), Function.comp_apply] at last
  exact absurd (Option.some.inj last) (by decide)

end Sample

end EventStream

end RustConnect
