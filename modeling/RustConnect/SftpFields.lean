import RustConnect.JsonFields
import RustConnect.SftpMounts

namespace RustConnect

open Program

/-- What the plugin does about a packet: the address of the link is asked for, and the connection is stored. -/
inductive SftpPacketAction
  | mounts (action : SftpAction)
  | getPeerAddr (deviceId : DeviceId)
  | setConnection (deviceId : DeviceId) (info : SftpConnectionInfo)

namespace SftpPacketAction

@[reducible] def Answer : SftpPacketAction → Type
  | mounts action => action.Answer
  | getPeerAddr _ => Option String
  | setConnection _ _ => Unit

/-- What is stored, if anything. -/
def stored : SftpPacketAction → Option SftpConnectionInfo
  | setConnection _ info => some info
  | _ => none

end SftpPacketAction

abbrev SftpPacketProgram := Program SftpPacketAction SftpPacketAction.Answer

/-- The plugin and the addresses of the live links. -/
structure SftpHost where
  mounts : SftpState
  addresses : DeviceId → Option String

def SftpHost.exec : (action : SftpPacketAction) → SftpHost → action.Answer × SftpHost
  | .mounts action, s => ((action.exec s.mounts).1, { s with mounts := (action.exec s.mounts).2 })
  | .getPeerAddr d, s => (s.addresses d, s)
  | .setConnection d info, s => ((), { s with mounts := { s.mounts with connections := s.mounts.connections.insert d info } })

/-- `Value::as_u64`. -/
def Json.asU64 : Json → Option Nat
  | num value => value.asU64
  | _ => none

namespace Sftp

open SftpPacketAction

def onMounts {α : Type} (program : SftpProgram α) : SftpPacketProgram α := program.hoist fun action => call (mounts action)

/-- `validate_sshfs_fields`. -/
def validateSshfsFields (user path : String) : Except String Unit :=
  if user.isEmpty then .error "empty user"
  else if user.toList.head? = some '-' then .error "user starts with '-' (sshfs option)"
  else if !user.toList.all fun c => c.isAlphanum || c == '.' || c == '_' || c == '-' then
    .error "user contains characters outside [A-Za-z0-9._-]"
  else if path.toList.head? ≠ some '/' then .error "remote path is not absolute"
  else .ok ()

/-- A member that is a text, or else the default. -/
def textField (body : Json) (key default : String) : String := ((body.get key).bind Json.asStr).getD default

/-- The texts of a member that is an array. -/
def textsField (body : Json) (key : String) : List String :=
  (((body.get key).bind Json.asArray).map fun items => items.filterMap Json.asStr).getD []

/-- The port, cast to 16 bits. -/
def portField (body : Json) : UInt16 := (((body.get "port").bind Json.asU64).getD 1740).toUInt16

def connectionInfo (ip : String) (body : Json) : SftpConnectionInfo where
  ip := ip
  port := portField body
  user := textField body "user" "kdeconnect"
  password := textField body "password" ""
  path := textField body "path" "/"
  multiPaths := textsField body "multiPaths"
  pathNames := textsField body "pathNames"

variable (plugin : SftpPlugin)

/-- What the host of the mount is to be: without a connection manager it is the one that the packet names. -/
def hostOf (deviceId : DeviceId) (body : Json) : SftpPacketProgram (Option String) :=
  if plugin.connectionManager then call (getPeerAddr deviceId) else pure (some (textField body "ip" "127.0.0.1"))

/-- The connection is stored, and a mount that there is goes over to it. -/
def rotate (deviceId : DeviceId) (info : SftpConnectionInfo) : SftpPacketProgram (Except Error (Option (List Packet))) := do
  let status ← onMounts (getMountStatus plugin deviceId)
  call (setConnection deviceId info)
  match status.state with
  | .mounted | .mounting =>
    match ← onMounts (reMountIfMounted plugin deviceId info) with
    | .ok _ => return .ok none
    | .error e => return .error e
  | _ =>
    onMounts (broadcastUpdate deviceId info .unmounted none)
    return .ok none

def handlePacket (deviceId : DeviceId) (packet : Packet) : SftpPacketProgram (Except Error (Option (List Packet))) :=
  if packet.packetType ≠ "kdeconnect.sftp" then return .ok none
  else if (packet.body.get "errorMessage").isSome then return .ok none
  else do
    match ← hostOf plugin deviceId packet.body with
    | none => return .ok none
    | some ip =>
      let info := connectionInfo ip packet.body
      match validateSshfsFields info.user info.path with
      | .error _ => return .ok none
      | .ok () => rotate plugin deviceId info

/-- A name that `sshfs` takes for a user and nothing else. -/
structure SshUser (user : String) : Prop where
  nonempty : user ≠ ""
  noOption : user.toList.head? ≠ some '-'
  letters : ∀ c ∈ user.toList, c.isAlphanum = true ∨ c = '.' ∨ c = '_' ∨ c = '-'

/-- What a program stores. -/
def storedBy {α σ : Type} (exec : (action : SftpPacketAction) → σ → action.Answer × σ) (program : SftpPacketProgram α) (s : σ) :
    List SftpConnectionInfo :=
  (actions exec program s).filterMap stored

/-- A member that is an integer from 1 to 65535. -/
def IsPort (value : Json) : Prop := ∃ n, value.asU64 = some n ∧ 1 ≤ n ∧ n ≤ 65535

section Taken

variable {σ : Type} (exec : (action : SftpPacketAction) → σ → action.Answer × σ) (deviceId : DeviceId) (packet : Packet) (s : σ)

/-- What is stored has the port that the packet names, a user and an absolute path; and with another port nothing is stored. -/
structure TakenFaithfully : Prop where
  port : ∀ info ∈ storedBy exec (handlePacket plugin deviceId packet) s, ∀ value, packet.body.get "port" = some value →
    value.asU64 = some info.port.toNat ∧ 1 ≤ info.port.toNat
  user : ∀ info ∈ storedBy exec (handlePacket plugin deviceId packet) s, SshUser info.user
  path : ∀ info ∈ storedBy exec (handlePacket plugin deviceId packet) s, info.path.toList.head? = some '/'
  refused : ∀ value, packet.body.get "port" = some value → ¬IsPort value → storedBy exec (handlePacket plugin deviceId packet) s = []

end Taken

variable {plugin} {σ α β : Type} {exec : (action : SftpPacketAction) → σ → action.Answer × σ} {d : DeviceId} {packet : Packet} {s : σ}

theorem storedBy_bind (program : SftpPacketProgram α) (f : α → SftpPacketProgram β) (s : σ) :
    storedBy exec (program >>= f) s =
      storedBy exec program s ++ storedBy exec (f (run exec program s).1) (run exec program s).2 := by
  rw [storedBy, actions_bind, List.filterMap_append]
  rfl

theorem storedBy_onMounts (program : SftpProgram α) (s : σ) : storedBy exec (onMounts program) s = [] := by
  have inside : (onMounts program).Only (fun action => action.stored = none) fun _ => True :=
    (only_trivial program).hoist fun action _ => ⟨rfl, fun _ => trivial⟩
  exact List.filterMap_eq_nil_iff.mpr fun _ member => inside.of_mem_actions member

theorem storedBy_rotate (info : SftpConnectionInfo) (s : σ) : storedBy exec (rotate plugin d info) s = [info] := by
  rw [rotate, storedBy_bind, storedBy_onMounts, storedBy_bind, List.nil_append]
  refine congrArg (info :: ·) ?_
  split
  · rw [storedBy_bind, storedBy_onMounts]
    split <;> rfl
  · rw [storedBy_bind, storedBy_onMounts]
    split <;> rfl
  · rw [storedBy_bind, storedBy_onMounts]
    rfl

theorem validateSshfsFields_ok {user path : String} (valid : validateSshfsFields user path = .ok ()) :
    SshUser user ∧ path.toList.head? = some '/' := by
  unfold validateSshfsFields at valid
  split at valid
  · cases valid
  · rename_i nonempty
    split at valid
    · cases valid
    · rename_i noOption
      split at valid
      · cases valid
      · rename_i letters
        split at valid
        · cases valid
        · rename_i absolute
          refine ⟨⟨fun empty => nonempty (String.isEmpty_iff.mpr empty), noOption, fun c member => ?_⟩, not_not.mp absolute⟩
          rw [Bool.not_eq_true, Bool.not_eq_false'] at letters
          simpa [or_assoc] using List.all_eq_true.mp letters c member

/-- Over a live link the fields of the packet are stored exactly when they pass the check. -/
theorem storedBy_handlePacket (typed : packet.packetType = "kdeconnect.sftp") (silent : packet.body.get "errorMessage" = none)
    (live : plugin.connectionManager = true → (exec (getPeerAddr d) s).1.isSome) :
    ∃ ip, storedBy exec (handlePacket plugin d packet) s =
      match validateSshfsFields (connectionInfo ip packet.body).user (connectionInfo ip packet.body).path with
      | .ok () => [connectionInfo ip packet.body]
      | .error _ => [] := by
  have answers (ip : String) (later : σ) :
      storedBy exec (match validateSshfsFields (connectionInfo ip packet.body).user (connectionInfo ip packet.body).path with
        | .error _ => return .ok none
        | .ok () => rotate plugin d (connectionInfo ip packet.body) : SftpPacketProgram (Except Error (Option (List Packet)))) later =
      match validateSshfsFields (connectionInfo ip packet.body).user (connectionInfo ip packet.body).path with
      | .ok () => [connectionInfo ip packet.body]
      | .error _ => [] := by
    cases validateSshfsFields (connectionInfo ip packet.body).user (connectionInfo ip packet.body).path with
    | error reason => rfl
    | ok => exact storedBy_rotate _ _
  unfold handlePacket hostOf
  rw [if_neg (not_not.mpr typed), silent, if_neg (by simp), storedBy_bind]
  cases managed : plugin.connectionManager with
  | false => exact ⟨textField packet.body "ip" "127.0.0.1", answers _ _⟩
  | true =>
    obtain ⟨ip, address⟩ := Option.isSome_iff_exists.mp (live managed)
    refine ⟨ip, ?_⟩
    rw [← answers ip (exec (getPeerAddr d) s).2]
    simp only [if_true, run_call, address]
    rfl

theorem portField_eq {value : Json} {n : Nat} (given : packet.body.get "port" = some value) (read : value.asU64 = some n) :
    (portField packet.body).toNat = n % 65536 := by
  rw [portField, given, Option.bind_some, read]
  rfl

/-- Over a live link a packet is taken faithfully exactly when it names no port, or an
integer from 1 to 65535, or is refused for its user or its path. -/
theorem taken_faithfully_iff (typed : packet.packetType = "kdeconnect.sftp") (silent : packet.body.get "errorMessage" = none)
    (live : plugin.connectionManager = true → (exec (getPeerAddr d) s).1.isSome) :
    TakenFaithfully plugin exec d packet s ↔
      (∀ value, packet.body.get "port" = some value → IsPort value) ∨
        ∃ reason, validateSshfsFields (textField packet.body "user" "kdeconnect") (textField packet.body "path" "/") = .error reason := by
  obtain ⟨ip, taken⟩ := storedBy_handlePacket typed silent live
  cases valid : validateSshfsFields (textField packet.body "user" "kdeconnect") (textField packet.body "path" "/") with
  | error reason =>
    have nothing : storedBy exec (handlePacket plugin d packet) s = [] := by
      rw [taken]
      dsimp only [connectionInfo]
      rw [valid]
    refine iff_of_true ?_ (.inr ⟨reason, rfl⟩)
    constructor <;> simp [nothing]
  | ok =>
    have only : storedBy exec (handlePacket plugin d packet) s = [connectionInfo ip packet.body] := by
      rw [taken]
      dsimp only [connectionInfo]
      rw [valid]
    have sound := validateSshfsFields_ok valid
    constructor
    · intro faithful
      refine .inl fun value given => ?_
      by_contra other
      have nothing := faithful.refused value given other
      rw [only] at nothing
      cases nothing
    · rintro (named | ⟨reason, refused⟩)
      · refine ⟨fun info member value given => ?_, fun info member => ?_, fun info member => ?_, fun value given other => ?_⟩
        · rw [only] at member
          obtain rfl := List.mem_singleton.mp member
          obtain ⟨n, read, low, high⟩ := named value given
          have exactly : (connectionInfo ip packet.body).port.toNat = n := by
            rw [connectionInfo, portField_eq given read]
            exact Nat.mod_eq_of_lt (by omega)
          rw [exactly]
          exact ⟨read, low⟩
        · rw [only] at member
          obtain rfl := List.mem_singleton.mp member
          exact sound.1
        · rw [only] at member
          obtain rfl := List.mem_singleton.mp member
          exact sound.2
        · exact absurd (named value given) other
      · cases refused

def linkedHost : SftpHost where
  mounts := { choices := fun _ => true }
  addresses _ := some "192.168.1.20"

/-- The credentials of a phone that names a port. -/
def credentials (port : Nat) : Packet :=
  .new 1 "kdeconnect.sftp" (.obj [("ip", .str "192.168.1.20"), ("port", .ofInt port), ("user", .str "kdeconnect"),
    ("password", .str "secret"), ("path", .str "/")])

theorem credentials_taken :
    TakenFaithfully { dataDir := "/data" } SftpHost.exec "phone" (credentials 1741) linkedHost := by
  refine (taken_faithfully_iff rfl rfl fun _ => rfl).mpr (.inl fun value given => ?_)
  obtain rfl : Json.ofInt 1741 = value := Option.some.inj given
  exact ⟨1741, rfl, by decide, by decide⟩

/-- There is no port 67277, and 1741 is stored for it. -/
theorem wrapped_port_stored :
    ¬∀ (packet : Packet), packet.packetType = "kdeconnect.sftp" → packet.body.get "errorMessage" = none →
      TakenFaithfully { dataDir := "/data" } SftpHost.exec "phone" packet linkedHost := by
  intro always
  have faithful := always (credentials 67277) rfl rfl
  have live : ((SftpHost.exec (getPeerAddr "phone") linkedHost).1).isSome := rfl
  obtain ⟨ip, taken⟩ := @storedBy_handlePacket { dataDir := "/data" } _ SftpHost.exec "phone" (credentials 67277) linkedHost rfl rfl
    fun _ => live
  have beyond : ¬IsPort (.ofInt 67277) := by
    rintro ⟨n, read, low, high⟩
    obtain rfl : 67277 = n := Option.some.inj read
    omega
  have nothing := faithful.refused (.ofInt 67277) rfl beyond
  rw [taken] at nothing
  have valid : validateSshfsFields "kdeconnect" "/" = .ok () := by decide +kernel
  have accepted : validateSshfsFields (connectionInfo ip (credentials 67277).body).user
      (connectionInfo ip (credentials 67277).body).path = .ok () := valid
  rw [accepted] at nothing
  cases nothing

end Sftp

end RustConnect
