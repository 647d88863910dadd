import RustConnect.Mpris

namespace RustConnect

/-- The fields of a player that a controller keeps. -/
inductive PlayerField
  | title | artist | album | albumArtUrl | length | pos | isPlaying | canPlay | canGoNext | canGoPrevious | canSeek
  | loopStatus | shuffle | volume
  deriving DecidableEq

namespace PlayerField

def key : PlayerField → String
  | title => "title"
  | artist => "artist"
  | album => "album"
  | albumArtUrl => "albumArtUrl"
  | length => "length"
  | pos => "pos"
  | isPlaying => "isPlaying"
  | canPlay => "canPlay"
  | canGoNext => "canGoNext"
  | canGoPrevious => "canGoPrevious"
  | canSeek => "canSeek"
  | loopStatus => "loopStatus"
  | shuffle => "shuffle"
  | volume => "volume"

abbrev Value : PlayerField → Type
  | title | artist | album | albumArtUrl | loopStatus => Option String
  | length | pos => Option Int64
  | isPlaying | canPlay | canGoNext | canGoPrevious => Bool
  | canSeek | shuffle => Option Bool
  | volume => Option Float

/-- How the field is read from the member under its key. -/
def read : (field : PlayerField) → Option Json → Option field.Value
  | title | artist | album | albumArtUrl | loopStatus => Json.optional Json.asStr
  | length | pos => Json.optional Json.asInt64
  | isPlaying | canPlay | canGoNext | canGoPrevious => MprisInfo.flag
  | canSeek | shuffle => Json.optional Json.asBool
  | volume => Json.optional Json.asF64

end PlayerField

namespace MprisInfo

def recorded (info : MprisInfo) : (field : PlayerField) → field.Value
  | .title => info.title
  | .artist => info.artist
  | .album => info.album
  | .albumArtUrl => info.albumArtUrl
  | .length => info.length
  | .pos => info.position
  | .isPlaying => info.isPlaying
  | .canPlay => info.canPlay
  | .canGoNext => info.canGoNext
  | .canGoPrevious => info.canGoPrevious
  | .canSeek => info.canSeek
  | .loopStatus => info.loopStatus
  | .shuffle => info.shuffle
  | .volume => info.volume

/-- A body whose members all have the type of their field is read, member by member. -/
theorem ofFields_read {source : String → Option Json} (player : (Json.optional Json.asStr (source "player")).isSome)
    (playerList : (Json.optional texts (source "playerList")).isSome) (art : (flag (source "transferringAlbumArt")).isSome)
    (fields : ∀ field : PlayerField, (field.read (source field.key)).isSome) : ∃ info, ofFields source = some info ∧
      Json.optional Json.asStr (source "player") = some info.player ∧
      Json.optional texts (source "playerList") = some info.playerList ∧
      ∀ field : PlayerField, field.read (source field.key) = some (info.recorded field) := by
  obtain ⟨a, player⟩ := Option.isSome_iff_exists.mp player
  obtain ⟨b, playerList⟩ := Option.isSome_iff_exists.mp playerList
  obtain ⟨c, art⟩ := Option.isSome_iff_exists.mp art
  have value (field : PlayerField) := Option.isSome_iff_exists.mp (fields field)
  obtain ⟨title, atTitle⟩ := value .title
  obtain ⟨artist, atArtist⟩ := value .artist
  obtain ⟨album, atAlbum⟩ := value .album
  obtain ⟨albumArtUrl, atAlbumArtUrl⟩ := value .albumArtUrl
  obtain ⟨length, atLength⟩ := value .length
  obtain ⟨pos, atPos⟩ := value .pos
  obtain ⟨isPlaying, atIsPlaying⟩ := value .isPlaying
  obtain ⟨canPlay, atCanPlay⟩ := value .canPlay
  obtain ⟨canGoNext, atCanGoNext⟩ := value .canGoNext
  obtain ⟨canGoPrevious, atCanGoPrevious⟩ := value .canGoPrevious
  obtain ⟨canSeek, atCanSeek⟩ := value .canSeek
  obtain ⟨loopStatus, atLoopStatus⟩ := value .loopStatus
  obtain ⟨shuffle, atShuffle⟩ := value .shuffle
  obtain ⟨volume, atVolume⟩ := value .volume
  let info : MprisInfo := ⟨a, b, title, artist, album, length, pos, canPlay, canGoNext, canGoPrevious, isPlaying, volume,
    canSeek, loopStatus, shuffle, albumArtUrl, c⟩
  refine ⟨info, ?_, player, playerList, ?_⟩
  · simp only [PlayerField.read, PlayerField.key] at *
    simp only [ofFields, Option.bind_eq_bind, Option.bind_some, Option.pure_def, *]
    rfl
  · intro field
    cases field <;> assumption

/-- The body of an update of one player, and what is read from it. -/
structure Tells (name : String) (body : Json) (info : MprisInfo) : Prop where
  decoded : decode body = some info
  about : (body.get "player").bind Json.asStr = some name
  player : info.player = some name
  playerList : info.playerList = none
  fields : ∀ field : PlayerField, field.read (body.get field.key) = some (info.recorded field)

theorem Tells.of_present {name : String} {members : List (String × Option Json)} (distinct : (members.map Prod.fst).Nodup)
    (player : (members.find? (·.1 == "player")).bind Prod.snd = some (.str name))
    (playerList : (members.find? (·.1 == "playerList")).bind Prod.snd = none)
    (art : (members.find? (·.1 == "transferringAlbumArt")).bind Prod.snd = none)
    (suits : ∀ field : PlayerField, (field.read ((members.find? (·.1 == field.key)).bind Prod.snd)).isSome) :
    ∃ info, Tells name (.present members) info := by
  have source (key : String) := Json.get_present distinct key
  obtain ⟨info, decoded, named, listed, fields⟩ := @ofFields_read (fun key => (Json.present members).get key)
    (by rw [source, player]; rfl) (by rw [source, playerList]; rfl) (by rw [source, art]; rfl)
    fun field => by rw [source]; exact suits field
  rw [source, player] at named
  rw [source, playerList] at listed
  exact ⟨info, decoded, by rw [source, player]; rfl, (Option.some.inj named).symm, (Option.some.inj listed).symm, fields⟩

end MprisInfo

namespace MprisCore

open MprisInfo

theorem number_suits (value : Int64) :
    (Json.optional Json.asInt64 (some (number value))).isSome ∧ (Json.optional Json.asF64 (some (number value))).isSome := by
  constructor
  · show ((Json.asInt64 (number value)).map some).isSome
    rw [number, Json.asInt64_ofInt]
    rfl
  · show ((Json.asF64 (number value)).map some).isSome
    rw [number, Json.ofInt]
    split <;> rfl

theorem isSome_if {α : Type} {read : Option Json → Option α} {c : Prop} [Decidable c] {value : Json}
    (given : (read (some value)).isSome) (missing : (read none).isSome) :
    (read (if c then some value else none)).isSome := by
  split <;> assumption

theorem isSome_map {α β : Type} {read : Option Json → Option α} {write : β → Json} {value : Option β}
    (given : ∀ x, (read (some (write x))).isSome) (missing : (read none).isSome) : (read (value.map write)).isSome := by
  cases value with
  | none => exact missing
  | some value => exact given value

theorem propsChanged_tells (state : LocalPlayerState) (changed : PlayerPropsChanged) :
    ∃ info, Tells state.name (.present (propsMembers state changed)) info := by
  refine Tells.of_present (by simp [propsMembers, changedMembers]) (by simp [propsMembers, changedMembers])
    (by simp [propsMembers, changedMembers]) (by simp [propsMembers, changedMembers]) fun field => ?_
  cases field
  all_goals simp only [propsMembers, changedMembers, PlayerField.read, PlayerField.key, List.cons_append, List.nil_append,
    List.find?_cons, String.reduceBEq, Option.bind_some]
  case title | artist | album | albumArtUrl => exact isSome_if rfl rfl
  case length | pos => exact isSome_if (number_suits _).1 rfl
  case isPlaying | canPlay | canGoNext | canGoPrevious => exact isSome_map (fun _ => rfl) rfl
  case canSeek => rfl
  case loopStatus | shuffle => exact isSome_map (fun _ => rfl) rfl
  case volume => exact isSome_map (fun value => (number_suits value).2) rfl

theorem seeked_tells (player : LocalPlayerState) : ∃ info, Tells player.name (.present (seekedMembers player)) info := by
  refine Tells.of_present (by simp [seekedMembers]) (by simp [seekedMembers]) (by simp [seekedMembers])
    (by simp [seekedMembers]) fun field => ?_
  cases field
  case pos => exact (number_suits player.positionMs).1
  all_goals rfl

theorem nowPlaying_tells (state : LocalPlayerState) (includeVolume : Bool) :
    ∃ info, Tells state.name (nowPlayingAnswer state includeVolume) info := by
  refine Tells.of_present (by simp [answerMembers]) (by simp [answerMembers]) (by simp [answerMembers])
    (by simp [answerMembers]) fun field => ?_
  cases field
  all_goals simp only [answerMembers, PlayerField.read, PlayerField.key, List.find?_cons, String.reduceBEq, Option.bind_some]
  case length | pos => exact (number_suits _).1
  case loopStatus | shuffle => exact isSome_map (fun _ => rfl) rfl
  case volume => exact isSome_if (number_suits _).2 rfl
  all_goals rfl

theorem list_tells (visit : Visit) (core : MprisCore) : ∃ info, decode (playerListBody visit core) = some info ∧
    info.player = none ∧ info.playerList = some (filteredPlayerNames visit core) := by
  have names (list : List String) : (list.map Json.str).mapM Json.asStr = some list := by
    induction list with
    | nil => rfl
    | cons name rest ih => simp [ih, Json.asStr]
  have listed : Json.optional texts ((playerListBody visit core).get "playerList") = some (some (filteredPlayerNames visit core)) := by
    show ((texts (.arr ((filteredPlayerNames visit core).map .str))).map some) = _
    rw [texts, Json.asArray, Option.bind_some, names]
    rfl
  obtain ⟨info, decoded, named, same, -⟩ := @ofFields_read (fun key => (playerListBody visit core).get key) rfl
    (by rw [listed]; rfl) rfl fun field => by cases field <;> rfl
  refine ⟨info, decoded, (Option.some.inj named).symm, ?_⟩
  rw [listed] at same
  exact (Option.some.inj same).symm

/-- What is sent is the list of the players or the update of one of them. -/
theorem handle_cases {visit : Visit} {core : MprisCore} {event : MprisEvent} {body : Json}
    (sent : (handle visit core event).2 = some body) :
    (∃ later, body = playerListBody visit later) ∨ ∃ name info, Tells name body info := by
  cases event with
  | playerAdded state => exact .inl ⟨_, (Option.some.inj sent).symm⟩
  | playerRemoved service =>
    simp only [handle, applyPlayerRemoved] at sent
    split at sent
    · exact absurd sent nofun
    · exact .inl ⟨_, (Option.some.inj sent).symm⟩
  | propertiesChanged state changed =>
    simp only [handle, applyPropsChanged] at sent
    split at sent
    · obtain rfl := Option.some.inj sent
      exact .inr ⟨_, propsChanged_tells state changed⟩
    · exact absurd sent nofun
  | seeked service positionUs =>
    simp only [handle, applySeeked] at sent
    split at sent
    · exact absurd sent nofun
    · obtain rfl := Option.some.inj sent
      exact .inr ⟨_, seeked_tells _⟩
  | backendLost => exact .inl ⟨_, (Option.some.inj sent).symm⟩
  | requestPlayerList => exact .inl ⟨_, (Option.some.inj sent).symm⟩
  | requestNowPlaying player fresh wantVolume =>
    obtain ⟨state, -, rfl⟩ := Option.map_eq_some_iff.mp sent
    exact .inr ⟨_, nowPlaying_tells state wantVolume⟩

end MprisCore

namespace RemotePlayers

open MprisInfo

def of (deviceId : DeviceId) (players : RemotePlayers) : List MprisInfo := (players.lookup deviceId).getD []

/-- An update of this player is taken: it is listed, or there is room for it. -/
def takes (name : String) (players : List MprisInfo) : Prop :=
  (∃ info ∈ players, info.player = some name) ∨ players.length < maxPlayersPerDevice

theorem of_list {body : Json} {info : MprisInfo} {list : List String} (decoded : decode body = some info)
    (player : info.player = none) (listed : info.playerList = some list) (deviceId : DeviceId) (players : RemotePlayers) :
    of deviceId (handleRemoteUpdate deviceId body players).1 = (applyList list (of deviceId players)).1 := by
  simp only [handleRemoteUpdate, decoded, player, listed, of, AList.lookup_insert, Option.getD_some]

theorem of_update {name : String} {body : Json} {info : MprisInfo} (tells : Tells name body info) (deviceId : DeviceId)
    (players : RemotePlayers) :
    of deviceId (handleRemoteUpdate deviceId body players).1 = applyUpdate name info (of deviceId players) := by
  simp only [handleRemoteUpdate, tells.decoded, tells.player, tells.playerList, of, AList.lookup_insert, Option.getD_some]

/-- The update becomes the only record of its player; the others stay. -/
theorem mem_applyUpdate {name : String} {info : MprisInfo} {players : List MprisInfo}
    (distinct : (players.map MprisInfo.player).Nodup) {other : MprisInfo} (member : other ∈ applyUpdate name info players) :
    (other = info ∧ takes name players) ∨ (other ∈ players ∧ other.player ≠ some name) := by
  unfold applyUpdate at member
  split at member
  · rename_i pos found
    obtain ⟨bound, here, -⟩ := List.findIdx?_eq_some_iff_getElem.mp found
    have atPos : (players[pos]).player = some name := by simpa using here
    obtain ⟨i, inside, rfl⟩ := List.mem_iff_getElem.mp member
    rw [List.length_set] at inside
    rw [List.getElem_set]
    split
    · exact .inl ⟨rfl, .inl ⟨players[pos], List.getElem_mem bound, atPos⟩⟩
    · rename_i apart
      refine .inr ⟨List.getElem_mem inside, fun same => apart ?_⟩
      have names : (players.map MprisInfo.player)[pos]? = (players.map MprisInfo.player)[i]? := by
        simp [bound, inside, atPos, same]
      exact (List.getElem?_inj (by simpa using bound) distinct).mp names
  · rename_i missing
    have unnamed (q : MprisInfo) (there : q ∈ players) : q.player ≠ some name := by
      simpa using List.findIdx?_eq_none_iff.mp missing q there
    split at member
    · rename_i room
      rcases List.mem_append.mp member with old | new
      · exact .inr ⟨old, unnamed other old⟩
      · exact .inl ⟨List.mem_singleton.mp new, .inr room⟩
    · exact .inr ⟨member, unnamed other member⟩

theorem nodup_applyUpdate {name : String} {info : MprisInfo} {players : List MprisInfo} (named : info.player = some name)
    (distinct : (players.map MprisInfo.player).Nodup) : ((applyUpdate name info players).map MprisInfo.player).Nodup := by
  unfold applyUpdate
  split
  · rename_i pos found
    obtain ⟨bound, here, -⟩ := List.findIdx?_eq_some_iff_getElem.mp found
    have atPos : (players[pos]).player = some name := by simpa using here
    have same : (players.set pos info).map MprisInfo.player = players.map MprisInfo.player := by
      rw [List.map_set, named, ← atPos, ← List.getElem_map MprisInfo.player, List.set_getElem_self]
      simpa using bound
    rw [same]
    exact distinct
  · rename_i missing
    split
    · rw [List.map_append, List.nodup_append]
      refine ⟨distinct, List.nodup_singleton _, ?_⟩
      intro one member other new same
      obtain ⟨q, there, rfl⟩ := List.mem_map.mp member
      have atEnd : other = some name := by simpa [named] using new
      have unnamed : q.player ≠ some name := by simpa using List.findIdx?_eq_none_iff.mp missing q there
      exact unnamed (same.trans atEnd)
    · exact distinct

end RemotePlayers

/-- What the host has sent of each player since it was last added: the last value of each field. -/
abbrev SentFields := String → PlayerField → Option Json

namespace SentFields

/-- A player that is added starts again. -/
def forget (event : MprisEvent) (sent : SentFields) : SentFields :=
  match event with
  | .playerAdded state => Function.update sent state.name fun _ => none
  | _ => sent

def note (body : Json) (sent : SentFields) : SentFields :=
  match (body.get "player").bind Json.asStr with
  | none => sent
  | some name => Function.update sent name fun field => (body.get field.key).or (sent name field)

theorem of_forget {event : MprisEvent} {sent : SentFields} {name : String} {field : PlayerField} {value : Json}
    (kept : sent.forget event name field = some value) : sent name field = some value := by
  unfold forget at kept
  split at kept
  · rename_i state
    by_cases same : name = state.name
    · subst same
      rw [Function.update_self] at kept
      exact absurd kept nofun
    · rwa [Function.update_of_ne same] at kept
  · exact kept

end SentFields

/-- A host of players and a controller that has handled every packet of the host. -/
structure MprisLink where
  host : MprisCore := ∅
  controller : RemotePlayers := ∅
  sent : SentFields := fun _ _ => none

namespace MprisLink

open MprisInfo MprisCore RemotePlayers

variable (visit : Visit) (deviceId : DeviceId)

def step (s : MprisLink) (event : MprisEvent) : MprisLink :=
  let (host, body) := handle visit s.host event
  match body with
  | none => ⟨host, s.controller, s.sent.forget event⟩
  | some body => ⟨host, (handleRemoteUpdate deviceId body s.controller).1, (s.sent.forget event).note body⟩

def run (events : List MprisEvent) (s : MprisLink) : MprisLink := events.foldl (step visit deviceId) s

/-- The controller's records have the last value that was sent of each field. -/
def Agrees (s : MprisLink) : Prop :=
  ∀ info ∈ of deviceId s.controller, ∀ name, info.player = some name → ∀ field value, s.sent name field = some value →
    PlayerField.read field (some value) = some (info.recorded field)

/-- When the event makes the host send an update that is taken, then it carries each field that was sent of the player
since it was added, unless the last value of that field is the one that a missing field has. -/
def Whole (s : MprisLink) (event : MprisEvent) : Prop :=
  ∀ body, (handle visit s.host event).2 = some body → ∀ name, (body.get "player").bind Json.asStr = some name →
    takes name (of deviceId s.controller) → ∀ field value, s.sent name field = some value →
      body.get field.key = none → PlayerField.read field (some value) = PlayerField.read field none

variable {visit deviceId}

structure Mirrored (deviceId : DeviceId) (s : MprisLink) : Prop where
  agrees : s.Agrees deviceId
  distinct : ((of deviceId s.controller).map MprisInfo.player).Nodup

theorem Mirrored.silent {s : MprisLink} (mirrored : Mirrored deviceId s) (host : MprisCore) (event : MprisEvent) :
    Mirrored deviceId ⟨host, s.controller, s.sent.forget event⟩ :=
  ⟨fun info member name named field value kept =>
    mirrored.agrees info member name named field value (SentFields.of_forget kept), mirrored.distinct⟩

theorem Mirrored.list {s : MprisLink} (mirrored : Mirrored deviceId s) (host later : MprisCore) :
    Mirrored deviceId ⟨host, (handleRemoteUpdate deviceId (playerListBody visit later) s.controller).1,
      s.sent.note (playerListBody visit later)⟩ := by
  obtain ⟨info, decoded, player, listed⟩ := list_tells visit later
  have records := of_list decoded player listed deviceId s.controller
  have fewer : (of deviceId (handleRemoteUpdate deviceId (playerListBody visit later) s.controller).1).Sublist
      (of deviceId s.controller) := by
    rw [records]
    exact List.filter_sublist
  exact ⟨fun info member => mirrored.agrees info (fewer.subset member), mirrored.distinct.sublist (fewer.map _)⟩

theorem Mirrored.update {s : MprisLink} (mirrored : Mirrored deviceId s) {name : String} {body : Json} {info : MprisInfo}
    (tells : Tells name body info) (whole : takes name (of deviceId s.controller) → ∀ field value,
      s.sent name field = some value → body.get field.key = none → PlayerField.read field (some value) = PlayerField.read field none)
    (host : MprisCore) :
    Mirrored deviceId ⟨host, (handleRemoteUpdate deviceId body s.controller).1, s.sent.note body⟩ := by
  have records := of_update tells deviceId s.controller
  have noted : s.sent.note body = Function.update s.sent name fun field => (body.get field.key).or (s.sent name field) := by
    rw [SentFields.note, tells.about]
  refine ⟨?_, ?_⟩
  · intro other member player named field value sent
    have sent : s.sent.note body player field = some value := sent
    rw [records] at member
    rw [noted] at sent
    rcases mem_applyUpdate mirrored.distinct member with ⟨rfl, taken⟩ | ⟨old, unnamed⟩
    · obtain rfl : name = player := Option.some.inj (tells.player.symm.trans named)
      rw [Function.update_self] at sent
      have read := tells.fields field
      cases carried : body.get field.key with
      | some now =>
        rw [carried, Option.some_or] at sent
        obtain rfl := Option.some.inj sent
        rw [carried] at read
        exact read
      | none =>
        rw [carried, Option.none_or] at sent
        rw [carried] at read
        rw [whole taken field value sent carried, read]
    · have apart : player ≠ name := fun same => unnamed (same ▸ named)
      rw [Function.update_of_ne apart] at sent
      exact mirrored.agrees other old player named field value sent
  · show ((of deviceId (handleRemoteUpdate deviceId body s.controller).1).map MprisInfo.player).Nodup
    rw [records]
    exact nodup_applyUpdate tells.player mirrored.distinct

theorem Mirrored.step {s : MprisLink} {event : MprisEvent} (mirrored : Mirrored deviceId s) (whole : s.Whole visit deviceId event) :
    Mirrored deviceId (s.step visit deviceId event) := by
  simp only [MprisLink.step]
  split
  · exact mirrored.silent _ event
  · rename_i body sent
    have forgot := mirrored.silent s.host event
    rcases handle_cases sent with ⟨later, rfl⟩ | ⟨name, info, tells⟩
    · exact forgot.list _ later
    · exact forgot.update tells (fun taken field value kept =>
        whole body sent name tells.about taken field value (SentFields.of_forget kept)) _

theorem Mirrored.run {events : List MprisEvent} {s : MprisLink} (mirrored : Mirrored deviceId s)
    (whole : ∀ before event after, events = before ++ event :: after → (s.run visit deviceId before).Whole visit deviceId event) :
    Mirrored deviceId (s.run visit deviceId events) := by
  induction events generalizing s with
  | nil => exact mirrored
  | cons event rest ih =>
    refine ih (mirrored.step (whole [] event rest rfl)) fun before one after split => ?_
    exact whole (event :: before) one after (by rw [split, List.cons_append])

/-- While every update that is taken is whole, the controller has the last value of each field that was sent. -/
theorem mirror_agrees {events : List MprisEvent} {s : MprisLink} (start : of deviceId s.controller = [])
    (whole : ∀ before event after, events = before ++ event :: after → (s.run visit deviceId before).Whole visit deviceId event) :
    (s.run visit deviceId events).Agrees deviceId := by
  have mirrored : Mirrored deviceId s := by
    refine ⟨fun info member => ?_, ?_⟩
    · exact absurd (start ▸ member) List.not_mem_nil
    · rw [start]
      exact List.nodup_nil
  exact (mirrored.run whole).agrees

/-- One player with a title, which can seek. -/
def radio : LocalPlayerState := { service := "org.mpris.MediaPlayer2.radio", name := "radio", title := "Song", canSeek := true }

def inOrder : Visit := fun core => core.entries

theorem answers_agree : (run inOrder "desktop" [.playerAdded radio, .requestNowPlaying "radio" none true,
    .requestNowPlaying "radio" none true] {}).Agrees "desktop" := by
  have added : (run inOrder "desktop" [.playerAdded radio] {}).sent = Function.update (fun _ _ => none) "radio" fun _ => none := rfl
  have unsent (name : String) (field : PlayerField) : (run inOrder "desktop" [.playerAdded radio] {}).sent name field = none := by
    rw [added]
    by_cases same : name = "radio"
    · rw [same, Function.update_self]
    · rw [Function.update_of_ne same]
  refine mirror_agrees rfl fun before event after split body sent name about taken field value earlier missing => ?_
  match before, split with
  | [], _ => exact absurd earlier nofun
  | [_], split =>
    obtain ⟨rfl, -⟩ := List.cons.inj split
    rw [unsent] at earlier
    exact absurd earlier nofun
  | [_, _], split =>
    obtain ⟨rfl, later⟩ := List.cons.inj split
    obtain ⟨rfl, last⟩ := List.cons.inj later
    obtain ⟨rfl, -⟩ := List.cons.inj last
    obtain rfl : nowPlayingAnswer radio true = body := Option.some.inj sent
    obtain rfl : "radio" = name := Option.some.inj about
    have again : (run inOrder "desktop" [.playerAdded radio, .requestNowPlaying "radio" none true] {}).sent "radio" field =
        ((nowPlayingAnswer radio true).get field.key).or ((run inOrder "desktop" [.playerAdded radio] {}).sent "radio" field) :=
      rfl
    rw [again, missing, unsent] at earlier
    exact absurd earlier nofun
  | _ :: _ :: _ :: before, split =>
    have sizes := congrArg List.length split
    simp only [List.length_cons, List.length_append, List.length_nil] at sizes
    omega

/-- The answer tells the title; the signal that follows tells the position only, and the title is gone. -/
theorem seek_loses_title : ¬ (run inOrder "desktop"
    [.playerAdded radio, .requestNowPlaying "radio" none true, .seeked radio.service 5000000] {}).Agrees "desktop" := by
  intro agrees
  have titles : (of "desktop" (run inOrder "desktop" [.playerAdded radio, .requestNowPlaying "radio" none true,
      .seeked radio.service 5000000] {}).controller).map (fun info => (info.player, info.title)) = [(some "radio", none)] := by
    decide +kernel
  have sent : (run inOrder "desktop" [.playerAdded radio, .requestNowPlaying "radio" none true,
      .seeked radio.service 5000000] {}).sent "radio" .title = some (.str "Song") := by
    decide +kernel
  obtain ⟨info, member, seen⟩ := List.mem_map.mp (titles ▸ List.mem_singleton.mpr rfl : (some "radio", none) ∈ _)
  have kept := agrees info member "radio" (congrArg Prod.fst seen) .title (.str "Song") sent
  have gone : info.recorded .title = none := congrArg Prod.snd seen
  rw [gone] at kept
  exact absurd (Option.some.inj kept) nofun

end MprisLink

end RustConnect
