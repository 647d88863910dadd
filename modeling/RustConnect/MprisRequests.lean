import RustConnect.Mpris
import RustConnect.Router

namespace RustConnect

open Program

/-- Where the backend has found the art of a player. -/
structure AlbumArtSource where
  path : String
  size : UInt64
  currentUrl : String

/-- Where a payload is to be fetched from. -/
structure PayloadTransferInfo where
  ip : Option String
  port : UInt16
  availableStreams : Nat
  totalStreams : Nat

inductive MprisCommand
  | transport (action : String)
  | setLoopStatus (loopStatus : String)
  | setShuffle (shuffle : Bool)
  | setVolume (volume : Int)
  | seek (offset : Int)
  | setPosition (position : Int)
  deriving DecidableEq

/-- What the handler of `kdeconnect.mpris.request` asks of the players, of the
backend and of the connection manager. -/
inductive MprisAction
  | hasPlayer (player : String)
  | readPlayers
  | cachedState (player : String)
  | generatePacketId
  | backend
  | albumArt (player requestedUrl : String)
  | playerState (player : String)
  | command (player : String) (command : MprisCommand)
  | connectionManager
  | getLocalAddr (deviceId : DeviceId)
  | sendFile (path localIp : String)
  | sendPacket (deviceId : DeviceId) (packet : Packet)

namespace MprisAction

@[reducible] def Answer : MprisAction → Type
  | hasPlayer _ | backend | connectionManager => Bool
  | readPlayers => MprisCore.Visit × MprisCore
  | cachedState _ | playerState _ => Option LocalPlayerState
  | generatePacketId => Int64
  | albumArt _ _ => Option AlbumArtSource
  | command _ _ | sendPacket _ _ => Except Error Unit
  | getLocalAddr _ => Option String
  | sendFile _ _ => Except Error PayloadTransferInfo

def sentPacket : MprisAction → Option Packet
  | sendPacket _ packet => some packet
  | _ => none

end MprisAction

abbrev MprisProgram := Program MprisAction MprisAction.Answer

namespace MprisRequests

open MprisAction

def perform (action : MprisAction) : MprisProgram action.Answer := call action

def allowedActions : List String := ["PlayPause", "Play", "Pause", "Next", "Previous", "Stop"]

def albumArtMaxBytes : UInt64 := 32 * 1024 * 1024

def buildAlbumArtEnvelope (id : Int64) (player : String) (source : AlbumArtSource) (transferInfo : PayloadTransferInfo) : Packet where
  id := id
  packetType := "kdeconnect.mpris"
  body := .obj [("player", .str player), ("transferringAlbumArt", .bool true), ("albumArtUrl", .str source.currentUrl)]
  payloadSize := some (.known source.size)
  payloadTransferInfo := some (.obj [("ip", Json.ofOption .str transferInfo.ip), ("port", .ofInt transferInfo.port.toNat),
    ("availableStreams", .ofInt transferInfo.availableStreams), ("totalStreams", .ofInt transferInfo.totalStreams)])

/-- The envelope is sent here, and returned as well. -/
def handleAlbumArtRequest (deviceId : DeviceId) (player requestedUrl : String) : MprisProgram (Option (List Packet)) := do
  if !(← perform backend) then return none
  match ← perform (albumArt player requestedUrl) with
  | none => return none
  | some source =>
    if source.size > albumArtMaxBytes then return none
    if !(← perform connectionManager) then return none
    match ← perform (getLocalAddr deviceId) with
    | none => return none
    | some localIp =>
      match ← perform (sendFile source.path localIp) with
      | .error _ => return none
      | .ok transferInfo =>
        let id ← perform generatePacketId
        let packet := buildAlbumArtEnvelope id player source transferInfo
        match ← perform (sendPacket deviceId packet) with
        | .error _ => return none
        | .ok () => return some [packet]

def playerOf (body : Json) : String := ((body.get "player").bind Json.asStr).getD ""

def wanted (body : Json) (key : String) : Bool := ((body.get key).bind Json.asBool).getD false

/-- The commands of a request, in the order in which they are relayed. -/
def commandsOf (body : Json) : List MprisCommand :=
  (((body.get "action").bind Json.asStr).filter (· ∈ allowedActions)).toList.map .transport ++
    ((body.get "setLoopStatus").bind Json.asStr).toList.map .setLoopStatus ++
    ((body.get "setShuffle").bind Json.asBool).toList.map .setShuffle ++
    ((body.get "setVolume").bind Json.asI64).toList.map .setVolume ++
    ((body.get "Seek").bind Json.asI64).toList.map .seek ++
    ((body.get "SetPosition").bind Json.asI64).toList.map .setPosition

/-- A command that fails is logged only. -/
def relay (player : String) : List MprisCommand → MprisProgram Unit
  | [] => pure ()
  | first :: rest => do
    let _ ← perform (command player first)
    relay player rest

/-- `player_list_packet`. -/
def playerListPacket : MprisProgram Packet := do
  let (visit, core) ← perform readPlayers
  let id ← perform generatePacketId
  return .new id "kdeconnect.mpris" (MprisCore.playerListBody visit core)

/-- The answer with what the backend knows of the player now, or else with what is cached. -/
def information (player : String) (wantVolume : Bool) : MprisProgram (List Packet) := do
  let fresh ← if ← perform backend then perform (playerState player) else pure none
  let state ← match fresh with
    | some state => pure (some state)
    | none => perform (cachedState player)
  match state with
  | none => return []
  | some state =>
    let id ← perform generatePacketId
    return [.new id "kdeconnect.mpris" (MprisCore.nowPlayingAnswer state wantVolume)]

def knows (player : String) : MprisProgram Bool := if player.isEmpty then pure false else perform (hasPlayer player)

/-- The player list is sent when it is asked for, and when the player is not known. -/
def listing (body : Json) (knownPlayer : Bool) : MprisProgram (List Packet) :=
  if !knownPlayer || wanted body "requestPlayerList" then (fun packet => [packet]) <$> playerListPacket else pure []

/-- Without a backend the commands are dropped. -/
def obey (body : Json) : MprisProgram Unit := do
  match ← perform backend with
  | true => relay (playerOf body) (commandsOf body)
  | false => pure ()

def informing (body : Json) : MprisProgram (List Packet) :=
  if wanted body "requestNowPlaying" || wanted body "requestVolume" then
    information (playerOf body) (wanted body "requestVolume")
  else pure []

/-- The part of `handle_control_request` behind the requests for album art. -/
def handleRest (body : Json) : MprisProgram (Option (List Packet)) := do
  let knownPlayer ← knows (playerOf body)
  let list ← listing body knownPlayer
  if !knownPlayer then return some list
  obey body
  let informed ← informing body
  return if (list ++ informed).isEmpty then none else some (list ++ informed)

def handleControlRequest (deviceId : DeviceId) (packet : Packet) : MprisProgram (Option (List Packet)) :=
  if (packet.body.get "playerList").isSome then return none
  else match (packet.body.get "albumArtUrl").bind Json.asStr with
    | some albumArtUrl => handleAlbumArtRequest deviceId (playerOf packet.body) albumArtUrl
    | none => handleRest packet.body

def sendAll (deviceId : DeviceId) : List Packet → MprisProgram Unit
  | [] => pure ()
  | packet :: rest => do
    let _ ← perform (sendPacket deviceId packet)
    sendAll deviceId rest

/-- What `run_packet_loop` does with a request: it is routed to this plugin alone,
and what the dispatchers make of the plugin's answer is sent. -/
def routeRequest (deviceId : DeviceId) (packet : Packet) : MprisProgram Unit := do
  let replies ← handleControlRequest deviceId packet
  match (({} : Collected).take (.ok replies)).result with
  | .ok (some packets) => sendAll deviceId packets
  | _ => pure ()

end MprisRequests

/-- The players, the backend and the connection manager at one moment. -/
structure MprisHost where
  core : MprisCore
  visit : MprisCore.Visit
  clock : Int64
  backend : Bool
  albumArt : String → String → Option AlbumArtSource
  playerState : String → Option LocalPlayerState
  obeys : String → MprisCommand → Except Error Unit
  connectionManager : Bool
  localAddr : DeviceId → Option String
  sendFile : String → String → Except Error PayloadTransferInfo

/-- Each action is answered as things are at its own moment, and every packet is sent. -/
def MprisAction.exec (action : MprisAction) (hosts : Nat → MprisHost) : action.Answer × (Nat → MprisHost) :=
  (match action with
    | hasPlayer player => ((hosts 0).core.lookup player).isSome
    | readPlayers => ((hosts 0).visit, (hosts 0).core)
    | cachedState player => (hosts 0).core.lookup player
    | generatePacketId => (hosts 0).clock
    | backend => (hosts 0).backend
    | albumArt player requestedUrl => (hosts 0).albumArt player requestedUrl
    | playerState player => (hosts 0).playerState player
    | command player order => (hosts 0).obeys player order
    | connectionManager => (hosts 0).connectionManager
    | getLocalAddr d => (hosts 0).localAddr d
    | sendFile path localIp => (hosts 0).sendFile path localIp
    | sendPacket _ _ => .ok (), fun k => hosts (k + 1))

inductive MprisReply
  | playerList
  | nowPlaying
  | albumArt
  deriving DecidableEq

namespace MprisRequests

open MprisAction

def kindOf (packet : Packet) : MprisReply :=
  if (packet.body.get "playerList").isSome then .playerList
  else if (packet.body.get "transferringAlbumArt").isSome then .albumArt
  else .nowPlaying

/-- The packets that a program sends. -/
def sentBy {α : Type} (program : MprisProgram α) (hosts : Nat → MprisHost) : List Packet :=
  (actions exec program hosts).filterMap sentPacket

/-- The peer receives at most one packet of each kind. -/
def AnsweredOnce (hosts : Nat → MprisHost) (deviceId : DeviceId) (packet : Packet) : Prop :=
  ∀ kind, (sentBy (routeRequest deviceId packet) hosts).countP (kindOf · == kind) ≤ 1

/-- The backend resolves the art to a file that is not too large, and the transfer is set up at the address of the link. -/
def ArtFound (hosts : Nat → MprisHost) (deviceId : DeviceId) (player url : String) : Prop :=
  ∃ source localIp transferInfo, (hosts 0).backend = true ∧ (hosts 1).albumArt player url = some source ∧
    source.size ≤ albumArtMaxBytes ∧ (hosts 2).connectionManager = true ∧ (hosts 3).localAddr deviceId = some localIp ∧
    (hosts 4).sendFile source.path localIp = .ok transferInfo

/-- A request for album art that is found. -/
def ArtServed (hosts : Nat → MprisHost) (deviceId : DeviceId) (body : Json) : Prop :=
  body.get "playerList" = none ∧ ∃ url, (body.get "albumArtUrl").bind Json.asStr = some url ∧
    ArtFound hosts deviceId (playerOf body) url

variable {hosts : Nat → MprisHost} {d : DeviceId} {body : Json}

theorem sentBy_bind {α β : Type} (program : MprisProgram α) (f : α → MprisProgram β) (hosts : Nat → MprisHost) :
    sentBy (program >>= f) hosts =
      sentBy program hosts ++ sentBy (f (run exec program hosts).1) (run exec program hosts).2 := by
  rw [sentBy, actions_bind, List.filterMap_append]
  rfl

theorem sentBy_of_only {α : Type} {program : MprisProgram α} {Q : α → Prop}
    (quiet : program.Only (fun action => action.sentPacket = none) Q) : sentBy program hosts = [] :=
  List.filterMap_eq_nil_iff.mpr fun _ member => quiet.of_mem_actions member

theorem sentBy_sendAll (packets : List Packet) (hosts : Nat → MprisHost) : sentBy (sendAll d packets) hosts = packets := by
  induction packets generalizing hosts with
  | nil => rfl
  | cons packet rest ih =>
    rw [sendAll, sentBy_bind, ih]
    rfl

theorem sentBy_routeRequest (packet : Packet) :
    sentBy (routeRequest d packet) hosts =
      sentBy (handleControlRequest d packet) hosts ++ (run exec (handleControlRequest d packet) hosts).1.getD [] := by
  rw [routeRequest, sentBy_bind]
  congr 1
  rcases (run exec (handleControlRequest d packet) hosts).1 with _ | _ | ⟨first, rest⟩
  · rfl
  · rfl
  · exact sentBy_sendAll _ _

theorem kindOf_envelope (id : Int64) (player : String) (source : AlbumArtSource) (transferInfo : PayloadTransferInfo) :
    kindOf (buildAlbumArtEnvelope id player source transferInfo) = .albumArt := by
  simp [kindOf, buildAlbumArtEnvelope, Json.get]

/-- Art that is found is sent for and returned, and otherwise nothing is. -/
theorem album_cases (hosts : Nat → MprisHost) (d : DeviceId) (player url : String) :
    (ArtFound hosts d player url ∧ ∃ envelope, kindOf envelope = .albumArt ∧
        sentBy (handleAlbumArtRequest d player url) hosts = [envelope] ∧
        (run exec (handleAlbumArtRequest d player url) hosts).1 = some [envelope]) ∨
      (¬ArtFound hosts d player url ∧ sentBy (handleAlbumArtRequest d player url) hosts = [] ∧
        (run exec (handleAlbumArtRequest d player url) hosts).1 = none) := by
  unfold handleAlbumArtRequest sentBy perform
  cases alive : (hosts 0).backend with
  | false => exact .inr ⟨by simp [ArtFound, alive], by simp [exec, alive, sentPacket], by simp [exec, alive]⟩
  | true =>
    cases found : (hosts 1).albumArt player url with
    | none => exact .inr ⟨by simp [ArtFound, found], by simp [exec, alive, found, sentPacket], by simp [exec, alive, found]⟩
    | some source =>
      by_cases large : source.size > albumArtMaxBytes
      · have small : ¬source.size ≤ albumArtMaxBytes := UInt64.not_le.mpr large
        exact .inr ⟨by simp [ArtFound, found, small], by simp [exec, alive, found, large, sentPacket],
          by simp [exec, alive, found, large]⟩
      · cases managed : (hosts 2).connectionManager with
        | false =>
          exact .inr ⟨by simp [ArtFound, managed], by simp [exec, alive, found, large, managed, sentPacket],
            by simp [exec, alive, found, large, managed]⟩
        | true =>
          cases address : (hosts 3).localAddr d with
          | none =>
            exact .inr ⟨by simp [ArtFound, address], by simp [exec, alive, found, large, managed, address, sentPacket],
              by simp [exec, alive, found, large, managed, address]⟩
          | some localIp =>
            cases begun : (hosts 4).sendFile source.path localIp with
            | error e =>
              exact .inr ⟨by simp [ArtFound, found, address, begun],
                by simp [exec, alive, found, large, managed, address, begun, sentPacket],
                by simp [exec, alive, found, large, managed, address, begun]⟩
            | ok transferInfo =>
              have fits : source.size ≤ albumArtMaxBytes := UInt64.not_lt.mp large
              refine .inl ⟨⟨source, localIp, transferInfo, alive, found, fits, managed, address, begun⟩,
                buildAlbumArtEnvelope (hosts 5).clock player source transferInfo, kindOf_envelope _ _ _ _, ?_, ?_⟩
              · have acted : actions exec (handleAlbumArtRequest d player url) hosts =
                    [backend, albumArt player url, connectionManager, getLocalAddr d, sendFile source.path localIp, generatePacketId,
                      sendPacket d (buildAlbumArtEnvelope (hosts 5).clock player source transferInfo)] := by
                  simp [handleAlbumArtRequest, perform, exec, alive, found, large, managed, address, begun]
                exact congrArg (List.filterMap sentPacket) acted
              · simp [exec, alive, found, large, managed, address, begun]

/-- The packets that a request is answered with, other than for album art. -/
def Orderly (replies : List Packet) : Prop :=
  ∃ list informed, replies = list ++ informed ∧ list.map kindOf <+: [.playerList] ∧ informed.map kindOf <+: [.nowPlaying]

theorem only_relay (player : String) (commands : List MprisCommand) :
    (relay player commands).Only (fun action => action.sentPacket = none) fun _ => True := by
  induction commands with
  | nil => trivial
  | cons first rest ih => exact ⟨rfl, fun _ => ih⟩

theorem kindOf_playerList (id : Int64) (visit : MprisCore.Visit) (core : MprisCore) :
    kindOf (.new id "kdeconnect.mpris" (MprisCore.playerListBody visit core)) = .playerList := rfl

theorem kindOf_nowPlaying (id : Int64) (state : LocalPlayerState) (wantVolume : Bool) :
    kindOf (.new id "kdeconnect.mpris" (MprisCore.nowPlayingAnswer state wantVolume)) = .nowPlaying := by
  have distinct : ((MprisCore.answerMembers state wantVolume).map Prod.fst).Nodup := by simp [MprisCore.answerMembers]
  have absent (key : String) (other : key = "playerList" ∨ key = "transferringAlbumArt") :
      (MprisCore.nowPlayingAnswer state wantVolume).get key = none := by
    rw [MprisCore.nowPlayingAnswer, Json.get_present distinct]
    rcases other with rfl | rfl <;> simp [MprisCore.answerMembers]
  simp [kindOf, Packet.new, absent]

theorem only_information (player : String) (wantVolume : Bool) :
    (information player wantVolume).Only (fun action => action.sentPacket = none) fun informed =>
      informed.map kindOf <+: [.nowPlaying] := by
  have answered (found : Option LocalPlayerState) :
      Only (match found with
        | none => pure []
        | some state => do
          let id ← perform generatePacketId
          return [.new id "kdeconnect.mpris" (MprisCore.nowPlayingAnswer state wantVolume)] : MprisProgram (List Packet))
        (fun action => action.sentPacket = none) fun informed => informed.map kindOf <+: [.nowPlaying] := by
    cases found with
    | none => exact List.nil_prefix
    | some state =>
      refine ⟨rfl, fun id => ?_⟩
      show [kindOf _] <+: _
      simp only [kindOf_nowPlaying, List.prefix_rfl]
  refine ⟨rfl, fun alive => ?_⟩
  cases alive with
  | false => exact ⟨rfl, answered⟩
  | true =>
    refine ⟨rfl, fun fresh => ?_⟩
    cases fresh with
    | none => exact ⟨rfl, answered⟩
    | some state => exact answered (some state)

theorem only_obey (body : Json) : (obey body).Only (fun action => action.sentPacket = none) fun _ => True := by
  refine ⟨rfl, fun alive => ?_⟩
  cases alive with
  | false => trivial
  | true => exact only_relay _ _

theorem only_informing (body : Json) :
    (informing body).Only (fun action => action.sentPacket = none) fun informed => informed.map kindOf <+: [.nowPlaying] :=
  (only_ite _ _ _ _).mpr ⟨fun _ => only_information _ _, fun _ => List.nil_prefix⟩

theorem only_listing (body : Json) (knownPlayer : Bool) :
    (listing body knownPlayer).Only (fun action => action.sentPacket = none) fun list => list.map kindOf <+: [.playerList] := by
  refine (only_ite _ _ _ _).mpr ⟨fun _ => (only_map _ _ _).mpr ⟨rfl, fun players => ⟨rfl, fun id => ?_⟩⟩, fun _ => List.nil_prefix⟩
  show [kindOf _] <+: _
  simp only [kindOf_playerList, List.prefix_rfl]

/-- Every way through the rest of the handler ends with an orderly answer. -/
theorem only_handleRest (body : Json) :
    (handleRest body).Only (fun action => action.sentPacket = none) fun replies => Orderly (replies.getD []) := by
  have quiet {action : MprisAction} (silent : action.sentPacket = none) : action.sentPacket = none := silent
  have known : (knows (playerOf body)).Only (fun action => action.sentPacket = none) fun _ => True :=
    (only_ite _ _ _ _).mpr ⟨fun _ => trivial, fun _ => ⟨rfl, fun _ => trivial⟩⟩
  refine (only_bind _ _ _).mpr (known.weaken (fun _ => quiet) fun knownPlayer _ => ?_)
  refine (only_bind _ _ _).mpr ((only_listing body knownPlayer).weaken (fun _ => quiet) fun list listed => ?_)
  cases knownPlayer with
  | false => exact ⟨list, [], (List.append_nil _).symm, listed, List.nil_prefix⟩
  | true =>
    refine (only_bind _ _ _).mpr ((only_obey body).weaken (fun _ => quiet) fun _ _ => ?_)
    refine (only_bind _ _ _).mpr ((only_informing body).weaken (fun _ => quiet) fun informed one => ?_)
    refine ⟨list, informed, ?_, listed, one⟩
    split
    · rename_i empty
      exact (List.isEmpty_iff.mp empty).symm
    · rfl

theorem Orderly.once {replies : List Packet} (orderly : Orderly replies) (kind : MprisReply) :
    replies.countP (kindOf · == kind) ≤ 1 := by
  obtain ⟨list, informed, rfl, listed, one⟩ := orderly
  have count (packets : List Packet) : packets.countP (kindOf · == kind) = (packets.map kindOf).count kind := by
    rw [List.count, List.countP_map]
    rfl
  rw [List.countP_append, count, count]
  have first := listed.sublist.count_le kind
  have second := one.sublist.count_le kind
  cases kind <;> simp at first second <;> omega

/-- The envelope that was sent by the handler is sent by the loop again. -/
theorem not_once_of_served {packet : Packet} (served : ArtServed hosts d packet.body) : ¬AnsweredOnce hosts d packet := by
  obtain ⟨listed, url, asked, found⟩ := served
  rcases album_cases hosts d (playerOf packet.body) url with ⟨-, envelope, kind, sent, returned⟩ | ⟨missing, -⟩
  · intro once
    have twice := once .albumArt
    rw [sentBy_routeRequest] at twice
    simp only [handleControlRequest, listed, asked, Option.isSome_none, Bool.false_eq_true, if_false, sent, returned,
      Option.getD_some] at twice
    simp [kind] at twice
  · exact absurd found missing

/-- Each request is answered once with every kind of packet, except exactly where art is asked for and served:
that is announced twice. -/
theorem answered_once_iff (hosts : Nat → MprisHost) (deviceId : DeviceId) (packet : Packet) :
    AnsweredOnce hosts deviceId packet ↔ ¬ArtServed hosts deviceId packet.body := by
  by_cases served : ArtServed hosts deviceId packet.body
  · exact iff_of_false (not_once_of_served served) (not_not.mpr served)
  · refine iff_of_true (fun kind => ?_) served
    rw [sentBy_routeRequest]
    unfold handleControlRequest
    unfold ArtServed at served
    cases listed : packet.body.get "playerList" with
    | some list => exact Nat.zero_le 1
    | none =>
      cases asked : (packet.body.get "albumArtUrl").bind Json.asStr with
      | none =>
        have quiet := only_handleRest packet.body
        show (sentBy (handleRest packet.body) hosts ++ (run exec (handleRest packet.body) hosts).1.getD []).countP _ ≤ 1
        rw [sentBy_of_only quiet, List.nil_append]
        exact (quiet.of_run exec hosts).once kind
      | some url =>
        rcases album_cases hosts deviceId (playerOf packet.body) url with ⟨found, -⟩ | ⟨-, sent, returned⟩
        · exact absurd ⟨listed, url, asked, found⟩ served
        · simp only [Option.isSome_none, Bool.false_eq_true, if_false, sent, returned, Option.getD_none]
          exact Nat.zero_le 1

/-- A player with a cover of a hundred thousand bytes, over a link of the local network. -/
def coveredHost : MprisHost where
  core := ∅
  visit core := core.entries
  clock := 1
  backend := true
  albumArt _ requestedUrl := some ⟨"/tmp/cover.png", 100000, requestedUrl⟩
  playerState _ := none
  obeys _ _ := .ok ()
  connectionManager := true
  localAddr _ := some "192.168.1.10"
  sendFile _ localIp := .ok ⟨some localIp, 1739, 1, 1⟩

def artRequest : Packet :=
  .new 1 "kdeconnect.mpris.request" (.obj [("player", .str "VLC"), ("albumArtUrl", .str "file:///tmp/cover.png")])

theorem cover_announced_twice :
    ¬∀ (hosts : Nat → MprisHost) (deviceId : DeviceId) (packet : Packet), packet.packetType = "kdeconnect.mpris.request" →
      AnsweredOnce hosts deviceId packet := by
  intro always
  refine absurd (always (fun _ => coveredHost) "phone" artRequest rfl) (not_once_of_served ?_)
  exact ⟨rfl, "file:///tmp/cover.png", rfl, ⟨"/tmp/cover.png", 100000, "file:///tmp/cover.png"⟩, "192.168.1.10",
    ⟨some "192.168.1.10", 1739, 1, 1⟩, rfl, rfl, by decide, rfl, rfl, rfl⟩

end MprisRequests

end RustConnect
