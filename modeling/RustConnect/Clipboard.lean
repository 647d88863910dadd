import RustConnect.JsonFields

namespace RustConnect

/-- The content is absent until one has been observed; the time is that of the last accepted change. -/
structure ClipboardState where
  content : Option String := none
  timestamp : Int64 := 0
  deriving DecidableEq

/-- What the plugin tells the rest of the daemon, and what it writes into the session's clipboard. -/
inductive ClipboardEffect
  | clipboardUpdate (deviceId : DeviceId) (content : String)
  | writeToSession (content : String)
  deriving DecidableEq

namespace Clipboard

/-- `apply_local_change` at the moment `now`: the body of the packet that is sent to all, if any. -/
def applyLocalChange (s : ClipboardState) (content : String) (now : Int64) : Option Json × ClipboardState :=
  if content = "" then (none, s)
  else if s.content = some content then (none, s)
  else (some (.obj [("content", .str content)]), { content := some content, timestamp := now })

def applyRemote (_ : ClipboardState) (content : String) (now : Int64) : ClipboardState :=
  { content := some content, timestamp := now }

/-- `none` when the packet is stale or its time is not known. -/
def applyRemoteConnect (s : ClipboardState) (content : String) (timestamp : Int64) : Option ClipboardState :=
  if timestamp = 0 ∨ timestamp < s.timestamp then none
  else some { content := some content, timestamp := timestamp }

def connectBody (content : String) (timestamp : Int64) : Json :=
  .obj [("content", .str content), ("timestamp", .ofInt timestamp.toInt)]

/-- `on_connected`, with the id that `generate_packet_id` drew. -/
def onConnected (id : Int64) (s : ClipboardState) : List Packet :=
  match s.content with
  | none => []
  | some content =>
    if content ≠ "" ∧ 0 < s.timestamp then [.new id "kdeconnect.clipboard.connect" (connectBody content s.timestamp)] else []

/-- `handle_packet` at the moment `now`. -/
def handlePacket (deviceId : DeviceId) (now : Int64) (s : ClipboardState) (packet : Packet) :
    ClipboardState × List ClipboardEffect :=
  if packet.packetType = "kdeconnect.clipboard" then
    match (packet.body.get "content").bind Json.asStr with
    | none => (s, [])
    | some content => (applyRemote s content now, [.clipboardUpdate deviceId content, .writeToSession content])
  else if packet.packetType = "kdeconnect.clipboard.connect" then
    let timestamp := ((packet.body.get "timestamp").bind Json.asInt64).getD 0
    match (packet.body.get "content").bind Json.asStr with
    | none => (s, [])
    | some content =>
      match applyRemoteConnect s content timestamp with
      | none => (s, [])
      | some later => (later, [.clipboardUpdate deviceId content, .writeToSession content])
  else (s, [])

def handlePackets (deviceId : DeviceId) (now : Int64) (s : ClipboardState) (packets : List Packet) : ClipboardState :=
  packets.foldl (fun s packet => (handlePacket deviceId now s packet).1) s

/-- What a peer that shows `content`, changed at `timestamp`, does to the state. -/
def taken (s : ClipboardState) (content : String) (timestamp : Int64) : ClipboardState :=
  (applyRemoteConnect s content timestamp).getD s

theorem onConnected_shown {content : String} {timestamp : Int64} (shown : content ≠ "") (dated : 0 < timestamp) (id : Int64) :
    onConnected id ⟨some content, timestamp⟩ = [.new id "kdeconnect.clipboard.connect" (connectBody content timestamp)] := by
  show (if content ≠ "" ∧ 0 < timestamp then _ else _) = _
  rw [if_pos ⟨shown, dated⟩]

@[simp] theorem connectBody_content (content : String) (timestamp : Int64) :
    ((connectBody content timestamp).get "content").bind Json.asStr = some content := rfl

@[simp] theorem connectBody_timestamp (content : String) (timestamp : Int64) :
    ((connectBody content timestamp).get "timestamp").bind Json.asInt64 = some timestamp := by
  show (Json.ofInt timestamp.toInt).asInt64 = _
  rw [Json.asInt64_ofInt]

theorem handlePackets_connect (deviceId : DeviceId) (now id : Int64) (s : ClipboardState) (content : String)
    (timestamp : Int64) :
    handlePackets deviceId now s [.new id "kdeconnect.clipboard.connect" (connectBody content timestamp)] =
      taken s content timestamp := by
  show (handlePacket deviceId now s _).1 = _
  simp only [handlePacket, Packet.new, String.reduceEq, if_false, if_true, connectBody_content, connectBody_timestamp,
    Option.getD_some, taken]
  cases applyRemoteConnect s content timestamp <;> rfl

end Clipboard

/-- Two daemons that run this code, with the names they have for each other. -/
structure ClipboardPair where
  left : ClipboardState
  right : ClipboardState
  deriving DecidableEq

namespace ClipboardPair

open Clipboard

/-- The ids of the packets, the moments at which they are handled and which side handles first. -/
structure Circumstances where
  leftName : DeviceId
  rightName : DeviceId
  leftPacket : Int64
  rightPacket : Int64
  leftNow : Int64
  rightNow : Int64
  leftFirst : Bool

/-- Both packets are built from the states before the exchange, then each side handles the other's. -/
def exchange (how : Circumstances) (s : ClipboardPair) : ClipboardPair :=
  let fromLeft := onConnected how.leftPacket s.left
  let fromRight := onConnected how.rightPacket s.right
  let leftHandles (s : ClipboardPair) := { s with left := handlePackets how.rightName how.leftNow s.left fromRight }
  let rightHandles (s : ClipboardPair) := { s with right := handlePackets how.leftName how.rightNow s.right fromLeft }
  if how.leftFirst then rightHandles (leftHandles s) else leftHandles (rightHandles s)

/-- Each side shows a text and knows since when. -/
def holding (a : String) (atA : Int64) (b : String) (atB : Int64) : ClipboardPair := ⟨⟨some a, atA⟩, ⟨some b, atB⟩⟩

theorem exchange_holding {a b : String} {atA atB : Int64} (shownA : a ≠ "") (shownB : b ≠ "") (datedA : 0 < atA)
    (datedB : 0 < atB) (how : Circumstances) :
    exchange how (holding a atA b atB) = ⟨taken ⟨some a, atA⟩ b atB, taken ⟨some b, atB⟩ a atA⟩ := by
  have fromLeft := onConnected_shown shownA datedA how.leftPacket
  have fromRight := onConnected_shown shownB datedB how.rightPacket
  simp only [exchange, holding, fromLeft, fromRight, handlePackets_connect]
  cases how.leftFirst <;> rfl

theorem taken_newer {own content : String} {since timestamp : Int64} (dated : 0 < timestamp) (newer : since ≤ timestamp) :
    taken ⟨some own, since⟩ content timestamp = ⟨some content, timestamp⟩ := by
  have fresh : ¬ (timestamp = 0 ∨ timestamp < since) := by
    rintro (zero | older)
    · exact absurd dated (by rw [zero]; decide)
    · exact Int64.not_lt.mpr newer older
  rw [taken, applyRemoteConnect, if_neg fresh, Option.getD_some]

theorem taken_older {own content : String} {since timestamp : Int64} (older : timestamp < since) :
    taken ⟨some own, since⟩ content timestamp = ⟨some own, since⟩ := by
  have stale : timestamp = 0 ∨ timestamp < since := .inr older
  rw [taken, applyRemoteConnect, if_pos stale, Option.getD_none]

/-- Both sides show the same text with the same time, and another exchange leaves the texts alone. -/
def Converges (first second : Circumstances) (s : ClipboardPair) : Prop :=
  let after := exchange first s
  let again := exchange second after
  after.left.content = after.right.content ∧ after.left.timestamp = after.right.timestamp ∧
    again.left.content = after.left.content ∧ again.right.content = after.right.content

theorem exchange_left_newer {a b : String} {atA atB : Int64} (shownA : a ≠ "") (shownB : b ≠ "") (datedA : 0 < atA)
    (datedB : 0 < atB) (newer : atB < atA) (how : Circumstances) :
    exchange how (holding a atA b atB) = holding a atA a atA := by
  rw [exchange_holding shownA shownB datedA datedB, taken_older newer, taken_newer datedA (Int64.le_of_lt newer),
    holding]

theorem exchange_right_newer {a b : String} {atA atB : Int64} (shownA : a ≠ "") (shownB : b ≠ "") (datedA : 0 < atA)
    (datedB : 0 < atB) (newer : atA < atB) (how : Circumstances) :
    exchange how (holding a atA b atB) = holding b atB b atB := by
  rw [exchange_holding shownA shownB datedA datedB, taken_older newer, taken_newer datedB (Int64.le_of_lt newer),
    holding]

/-- Each side takes what the other one had. -/
theorem exchange_tie {a b : String} {time : Int64} (shownA : a ≠ "") (shownB : b ≠ "") (dated : 0 < time)
    (how : Circumstances) : exchange how (holding a time b time) = holding b time a time := by
  have same : time ≤ time := Int64.le_refl time
  rw [exchange_holding shownA shownB dated dated, taken_newer dated same, taken_newer dated same, holding]

theorem converges_of_exchange {first second : Circumstances} {s : ClipboardPair} {a : String} {time : Int64} (shown : a ≠ "")
    (dated : 0 < time) (settled : exchange first s = holding a time a time) : Converges first second s := by
  have again : exchange second (holding a time a time) = holding a time a time := exchange_tie shown shown dated second
  rw [Converges, settled]
  simp only [again]
  exact ⟨rfl, rfl, trivial, trivial⟩

/-- Two sides come to agree unless they hold different contents from the same
moment; from the same moment each side takes what the other one had. -/
theorem connect_converges {a b : String} {atA atB : Int64} (shownA : a ≠ "") (shownB : b ≠ "") (datedA : 0 < atA)
    (datedB : 0 < atB) (first second : Circumstances) :
    (Converges first second (holding a atA b atB) ↔ (atA ≠ atB ∨ a = b)) ∧
      (atA = atB → exchange first (holding a atA b atB) = holding b atB a atA) := by
  have swaps (tie : atA = atB) : exchange first (holding a atA b atB) = holding b atB a atA := by
    subst tie
    exact exchange_tie shownA shownB datedA first
  refine ⟨⟨fun converges => ?_, fun settled => ?_⟩, swaps⟩
  · by_cases tie : atA = atB
    · simp only [Converges, swaps tie] at converges
      exact .inr (Option.some.inj converges.1).symm
    · exact .inl tie
  · by_cases tie : atA = atB
    · have same : a = b := settled.resolve_left fun apart => apart tie
      subst same tie
      exact converges_of_exchange shownA datedA (exchange_tie shownA shownA datedA first)
    · by_cases older : atA < atB
      · exact converges_of_exchange shownB datedB (exchange_right_newer shownA shownB datedA datedB older first)
      · have newer : atB < atA := Int64.lt_of_le_of_ne (Int64.not_lt.mp older) (Ne.symm tie)
        exact converges_of_exchange shownA datedA (exchange_left_newer shownA shownB datedA datedB newer first)

/-- The left side handles first. -/
def plain : Circumstances := ⟨"left", "right", 1, 2, 9, 9, true⟩

theorem newer_wins : Converges plain plain (holding "old" 5 "new" 7) ∧
    exchange plain (holding "here" 5 "there" 5) = holding "there" 5 "here" 5 :=
  ⟨(connect_converges (by decide) (by decide) (by decide) (by decide) plain plain).1.mpr (.inl (by decide)),
    (connect_converges (by decide) (by decide) (by decide) (by decide) plain plain).2 rfl⟩

theorem tie_swaps : ¬ Converges plain plain (holding "a" 5 "b" 5) := by
  have swapped : exchange plain (holding "a" 5 "b" 5) = holding "b" 5 "a" 5 := by decide +kernel
  rintro ⟨same, -⟩
  rw [swapped] at same
  exact absurd same (by decide)

end ClipboardPair

end RustConnect
