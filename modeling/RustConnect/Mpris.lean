import Mathlib
import RustConnect.JsonFields
import RustConnect.Base.Table

namespace RustConnect

/-- Snapshot of one media player of this session. -/
structure LocalPlayerState where
  service : String
  name : String
  title : String := ""
  artist : String := ""
  album : String := ""
  albumArtUrl : String := ""
  url : String := ""
  lengthMs : Int64 := 0
  positionMs : Int64 := 0
  isPlaying : Bool := false
  volume : Int64 := 0
  canPlay : Bool := false
  canPause : Bool := false
  canGoNext : Bool := false
  canGoPrevious : Bool := false
  canSeek : Bool := false
  loopStatus : Option String := none
  shuffle : Option Bool := none
  deriving DecidableEq

/-- Which properties one signal carried. -/
structure PlayerPropsChanged where
  volume : Option Int64 := none
  metadata : Bool := false
  playbackStatus : Option Bool := none
  loopStatus : Option String := none
  shuffle : Option Bool := none
  canPause : Option Bool := none
  canPlay : Option Bool := none
  canGoNext : Option Bool := none
  canGoPrevious : Option Bool := none
  canSeek : Option Bool := none

/-- The players of this session under their display names. -/
abbrev MprisCore := Table String LocalPlayerState

namespace MprisCore

/-- The order in which the entries of a map are visited. -/
abbrev Visit := MprisCore → List (Σ _ : String, LocalPlayerState)

def startsWith (beginning text : String) : Bool := beginning.toList.isPrefixOf text.toList

def contains (part text : String) : Bool := decide (part.toList <:+: text.toList)

def fromPlasma (p : LocalPlayerState) : Bool := startsWith "org.mpris.MediaPlayer2.plasma-browser-integration" p.service

def hidden (players : List LocalPlayerState) (p : LocalPlayerState) : Bool :=
  (players.any (fun q => fromPlasma q && contains "Firefox" q.name) && startsWith "org.mpris.MediaPlayer2.firefox" p.service) ||
    (players.any (fun q => fromPlasma q && (contains "Chrome" q.name || contains "Chromium" q.name)) &&
      startsWith "org.mpris.MediaPlayer2.chromium" p.service)

def filteredPlayerNames (visit : Visit) (core : MprisCore) : List String :=
  let players := (visit core).map (·.2)
  ((players.filter fun p => !hidden players p).map LocalPlayerState.name).insertionSort (· ≤ ·)

def number (value : Int64) : Json := .ofInt value.toInt

def playerListBody (visit : Visit) (core : MprisCore) : Json :=
  .obj [("playerList", .arr ((filteredPlayerNames visit core).map .str)), ("supportAlbumArtPayload", .bool true)]

/-- `apply_player_removed`: nothing is sent for a service that is not known. -/
def applyPlayerRemoved (visit : Visit) (service : String) (core : MprisCore) : MprisCore × Option Json :=
  match (visit core).find? fun entry => entry.2.service = service with
  | none => (core, none)
  | some entry =>
    let later := core.erase entry.2.name
    (later, some (playerListBody visit later))

/-- The members that depend on what changed. -/
def changedMembers (state : LocalPlayerState) (changed : PlayerPropsChanged) : List (String × Option Json) :=
  let metadata (value : Json) := if changed.metadata then some value else none
  [("volume", changed.volume.map number), ("title", metadata (.str state.title)), ("artist", metadata (.str state.artist)),
    ("album", metadata (.str state.album)), ("albumArtUrl", metadata (.str state.albumArtUrl)), ("url", metadata (.str state.url)),
    ("length", metadata (number state.lengthMs)), ("isPlaying", changed.playbackStatus.map .bool),
    ("loopStatus", changed.loopStatus.map .str), ("shuffle", changed.shuffle.map .bool),
    ("canPause", changed.canPause.map .bool), ("canPlay", changed.canPlay.map .bool),
    ("canGoNext", changed.canGoNext.map .bool), ("canGoPrevious", changed.canGoPrevious.map .bool)]

def somethingToSend (changed : PlayerPropsChanged) : Bool :=
  changed.volume.isSome || changed.metadata || changed.playbackStatus.isSome || changed.loopStatus.isSome ||
    changed.shuffle.isSome || changed.canPause.isSome || changed.canPlay.isSome || changed.canGoNext.isSome ||
    changed.canGoPrevious.isSome || changed.canSeek.isSome

/-- Every update also carries the name and `canSeek`, and the position when the player can seek. -/
def propsMembers (state : LocalPlayerState) (changed : PlayerPropsChanged) : List (String × Option Json) :=
  changedMembers state changed ++ [("player", some (.str state.name)), ("canSeek", some (.bool state.canSeek)),
    ("pos", if state.canSeek then some (number state.positionMs) else none)]

def applyPropsChanged (state : LocalPlayerState) (changed : PlayerPropsChanged) (core : MprisCore) : MprisCore × Option Json :=
  (core.insert state.name state, if somethingToSend changed then some (.present (propsMembers state changed)) else none)

def seekedMembers (player : LocalPlayerState) : List (String × Option Json) :=
  [("pos", some (number player.positionMs)), ("player", some (.str player.name))]

/-- `apply_seeked`, with the position in microseconds. -/
def applySeeked (visit : Visit) (service : String) (positionUs : Int64) (core : MprisCore) : MprisCore × Option Json :=
  match (visit core).find? fun entry => entry.2.service = service with
  | none => (core, none)
  | some entry =>
    let player := { entry.2 with positionMs := positionUs / 1000 }
    (core.insert entry.1 player, some (.present (seekedMembers player)))

def answerMembers (state : LocalPlayerState) (includeVolume : Bool) : List (String × Option Json) :=
  [("player", some (.str state.name)), ("title", some (.str state.title)), ("artist", some (.str state.artist)),
    ("album", some (.str state.album)), ("albumArtUrl", some (.str state.albumArtUrl)), ("url", some (.str state.url)),
    ("length", some (number state.lengthMs)), ("pos", some (number state.positionMs)),
    ("isPlaying", some (.bool state.isPlaying)), ("canPause", some (.bool state.canPause)),
    ("canPlay", some (.bool state.canPlay)), ("canGoNext", some (.bool state.canGoNext)),
    ("canGoPrevious", some (.bool state.canGoPrevious)), ("canSeek", some (.bool state.canSeek)),
    ("loopStatus", state.loopStatus.map .str), ("shuffle", state.shuffle.map .bool),
    ("volume", if includeVolume then some (number state.volume) else none)]

def nowPlayingAnswer (state : LocalPlayerState) (includeVolume : Bool) : Json := .present (answerMembers state includeVolume)

/-- The part of `handle_control_request` that answers `requestNowPlaying` and `requestVolume` for a player that was known
when the request came, with what the backend knows of the player now. -/
def answerRequest (player : String) (fresh : Option LocalPlayerState) (wantVolume : Bool) (core : MprisCore) : Option Json :=
  (fresh.or (core.lookup player)).map (nowPlayingAnswer · wantVolume)

end MprisCore

/-- What the backend reports, and the requests that are answered. -/
inductive MprisEvent
  | playerAdded (state : LocalPlayerState)
  | playerRemoved (service : String)
  | propertiesChanged (state : LocalPlayerState) (changed : PlayerPropsChanged)
  | seeked (service : String) (positionUs : Int64)
  | backendLost
  | requestPlayerList
  | requestNowPlaying (player : String) (fresh : Option LocalPlayerState) (wantVolume : Bool)

namespace MprisCore

/-- One event at the host: the players afterwards and the body of the packet that is sent, if any. -/
def handle (visit : Visit) (core : MprisCore) : MprisEvent → MprisCore × Option Json
  | .playerAdded state =>
    let later := core.insert state.name state
    (later, some (playerListBody visit later))
  | .playerRemoved service => applyPlayerRemoved visit service core
  | .propertiesChanged state changed => applyPropsChanged state changed core
  | .seeked service positionUs => applySeeked visit service positionUs core
  | .backendLost => (∅, some (playerListBody visit ∅))
  | .requestPlayerList => (core, some (playerListBody visit core))
  | .requestNowPlaying player fresh wantVolume => (core, answerRequest player fresh wantVolume core)

end MprisCore

/-- What a controller keeps of a player of another device. -/
structure MprisInfo where
  player : Option String
  playerList : Option (List String)
  title : Option String
  artist : Option String
  album : Option String
  length : Option Int64
  position : Option Int64
  canPlay : Bool
  canGoNext : Bool
  canGoPrevious : Bool
  isPlaying : Bool
  volume : Option Float
  canSeek : Option Bool
  loopStatus : Option String
  shuffle : Option Bool
  albumArtUrl : Option String
  transferringAlbumArt : Bool

namespace MprisInfo

/-- The fields in the order of their declaration, as they are named on the wire. -/
def fieldNames : List String :=
  ["player", "playerList", "title", "artist", "album", "length", "pos", "canPlay", "canGoNext", "canGoPrevious", "isPlaying",
    "volume", "canSeek", "loopStatus", "shuffle", "albumArtUrl", "transferringAlbumArt"]

/-- A field of type `bool` with a default. -/
def flag : Option Json → Option Bool
  | none => some false
  | some value => value.asBool

def texts (value : Json) : Option (List String) := value.asArray.bind fun items => items.mapM Json.asStr

def ofFields (field : String → Option Json) : Option MprisInfo := do
  return {
    player := ← Json.optional Json.asStr (field "player")
    playerList := ← Json.optional texts (field "playerList")
    title := ← Json.optional Json.asStr (field "title")
    artist := ← Json.optional Json.asStr (field "artist")
    album := ← Json.optional Json.asStr (field "album")
    length := ← Json.optional Json.asInt64 (field "length")
    position := ← Json.optional Json.asInt64 (field "pos")
    canPlay := ← flag (field "canPlay")
    canGoNext := ← flag (field "canGoNext")
    canGoPrevious := ← flag (field "canGoPrevious")
    isPlaying := ← flag (field "isPlaying")
    volume := ← Json.optional Json.asF64 (field "volume")
    canSeek := ← Json.optional Json.asBool (field "canSeek")
    loopStatus := ← Json.optional Json.asStr (field "loopStatus")
    shuffle := ← Json.optional Json.asBool (field "shuffle")
    albumArtUrl := ← Json.optional Json.asStr (field "albumArtUrl")
    transferringAlbumArt := ← flag (field "transferringAlbumArt") }

/-- The derived `Deserialize`, which also reads the fields from an array, in their order. -/
def decode : Json → Option MprisInfo
  | .obj members => ofFields fun key => (Json.obj members).get key
  | .arr items => if items.length ≤ fieldNames.length then ofFields fun key => items[fieldNames.idxOf key]? else none
  | _ => none

end MprisInfo

/-- The players of the other devices. -/
abbrev RemotePlayers := Table DeviceId (List MprisInfo)

namespace RemotePlayers

def maxPlayersPerDevice : Nat := 32

/-- A player list drops the players that it does not name; the second component lists those that are asked for. -/
def applyList (list : List String) (players : List MprisInfo) : List MprisInfo × List String :=
  let kept := players.filter fun p => p.player.any (· ∈ list)
  (kept, list.filter fun name => !kept.any fun p => p.player = some name)

def applyUpdate (name : String) (info : MprisInfo) (players : List MprisInfo) : List MprisInfo :=
  match players.findIdx? fun p => p.player = some name with
  | some pos => players.set pos info
  | none => if players.length < maxPlayersPerDevice then players ++ [info] else players

def requestBody (name : String) : Json :=
  .obj [("player", .str name), ("requestNowPlaying", .bool true), ("requestVolume", .bool true)]

/-- `handle_remote_update`, with the bodies of the requests that it returns. -/
def handleRemoteUpdate (deviceId : DeviceId) (body : Json) (players : RemotePlayers) : RemotePlayers × List Json :=
  match MprisInfo.decode body with
  | none => (players, [])
  | some info =>
    let (pruned, asked) := match info.playerList with
      | none => (players, [])
      | some list =>
        let (kept, unknown) := applyList list ((players.lookup deviceId).getD [])
        (players.insert deviceId kept, unknown.map requestBody)
    match info.player with
    | none => (pruned, asked)
    | some name => (pruned.insert deviceId (applyUpdate name info ((pruned.lookup deviceId).getD [])), asked)

end RemotePlayers

end RustConnect
