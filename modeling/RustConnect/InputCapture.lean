import RustConnect.Base.Custody
import RustConnect.Base.Table
import RustConnect.Types

namespace RustConnect

open Program

/-- Portal sessions are numbered in the order in which they are started. -/
abbrev SessionId := Nat

/-- The kinds of events the device broadcaster carries. -/
inductive DeviceEventKind
  | discovered
  | stateChanged
  | paired
  | unpaired
  | pairRequested
  | connected
  | disconnected
  | removed
  deriving DecidableEq, Repr

def consumerIncomingCaps : List String := ["kdeconnect.shareinputdevices.request", "kdeconnect.mousepad.request"]

/-- What the plugin `shareinputdevices` is made with. -/
structure CapturePlugin where
  connectionManager : Bool := true
  pairingHandler : Bool := true
  broadcastCapacity : Nat := 256

/-- The cells that the activations and the teardowns share, the connection
manager and the pairing store that the gate looks at, and the gate's
subscription. The choices are which starts of a session succeed. -/
structure CaptureState where
  portalConn : Bool := false
  portalSession : Option SessionId := none
  releaseCallback : Option SessionId := none
  backendAvailable : Bool := false
  activationInFlight : Bool := false
  started : Nat := 0
  onDisabled : List SessionId := []
  pendingDisabled : List SessionId := []
  disconnected : List SessionId := []
  watchers : List (Option SessionId) := []
  closed : List SessionId := []
  advertised : Bool := false
  connections : List DeviceId := []
  peerCapabilities : Table DeviceId (List String) := ∅
  paired : List DeviceId := []
  events : List DeviceEventKind := []
  lagged : Bool := false
  receiving : Bool := false
  choices : Nat → Bool
  chosen : Nat := 0

/-- What the gate's subscription gives: an event, or that some were missed. -/
inductive Received
  | event (kind : DeviceEventKind)
  | lagged
  deriving DecidableEq, Repr

/-- What the activations, the teardowns and the gate do, one lock scope, atomic
access or await at a time. A teardown is told for which session's
disconnect or `Disabled` signal it runs, which the code does not know. -/
inductive CaptureAction
  | swapInFlight
  | clearInFlight
  | sessionIsSome
  | connIsSome
  | startSession
  | wireRelease (session : SessionId)
  | storeSession (session : SessionId)
  | setOnDisabled (session : SessionId)
  | swapPendingDisabled (session : SessionId)
  | latchPendingDisabled (session : SessionId)
  | getOnDisabled (session : SessionId)
  | dropRelease (owner : Option SessionId)
  | takeSession (owner : Option SessionId)
  | storeUnavailable (owner : Option SessionId)
  | storeAvailable
  | closeSession (session : SessionId)
  | addCapabilities
  | spawnWatcher (session : SessionId)
  | pollWatcher (index : Nat)
  | disconnects (session : SessionId)
  | connectedIds
  | anyCapable (ids : List DeviceId)
  | peerIncomingCapabilities (deviceId : DeviceId)
  | isPaired (deviceId : DeviceId)
  | recv
  | roundEnds
  | connect (deviceId : DeviceId)
  | disconnect (deviceId : DeviceId)
  | recordPeerCapabilities (deviceId : DeviceId) (capabilities : List String)
  | pair (deviceId : DeviceId)
  | unpair (deviceId : DeviceId)
  | broadcast (kind : DeviceEventKind)

namespace CaptureAction

@[reducible] def Answer : CaptureAction → Type
  | swapInFlight => Bool
  | sessionIsSome => Bool
  | connIsSome => Bool
  | startSession => Option SessionId
  | swapPendingDisabled _ => Bool
  | getOnDisabled _ => Bool
  | takeSession _ => Option SessionId
  | pollWatcher _ => Option SessionId
  | connectedIds => List DeviceId
  | anyCapable _ => List DeviceId
  | peerIncomingCapabilities _ => Option (List String)
  | isPaired _ => Bool
  | recv => Option Received
  | _ => Unit

variable (plugin : CapturePlugin)

def exec : (action : CaptureAction) → CaptureState → action.Answer × CaptureState
  | swapInFlight, s => (s.activationInFlight, { s with activationInFlight := true })
  | clearInFlight, s => ((), { s with activationInFlight := false })
  | sessionIsSome, s => (s.portalSession.isSome, s)
  | connIsSome, s => (s.portalConn, s)
  | startSession, s =>
    if s.choices s.chosen then (some s.started, { s with started := s.started + 1, chosen := s.chosen + 1 })
    else (none, { s with chosen := s.chosen + 1 })
  | wireRelease session, s => ((), { s with releaseCallback := some session })
  | storeSession session, s => ((), { s with portalSession := some session })
  | setOnDisabled session, s => ((), { s with onDisabled := session :: s.onDisabled })
  | swapPendingDisabled session, s =>
    (decide (session ∈ s.pendingDisabled), { s with pendingDisabled := s.pendingDisabled.filter (· ≠ session) })
  | latchPendingDisabled session, s =>
    ((), if session < s.started then { s with pendingDisabled := session :: s.pendingDisabled } else s)
  | getOnDisabled session, s => (decide (session ∈ s.onDisabled), s)
  | dropRelease _, s => ((), { s with releaseCallback := none })
  | takeSession _, s => (s.portalSession, { s with portalSession := none })
  | storeUnavailable _, s => ((), { s with backendAvailable := false })
  | storeAvailable, s => ((), { s with backendAvailable := true })
  | closeSession session, s => ((), { s with closed := session :: s.closed })
  | addCapabilities, s => ((), { s with advertised := true })
  | spawnWatcher session, s => ((), { s with watchers := s.watchers ++ [some session] })
  | pollWatcher index, s =>
    match s.watchers[index]?.join with
    | some session =>
      if session ∈ s.disconnected then (some session, { s with watchers := s.watchers.set index none }) else (none, s)
    | none => (none, s)
  | disconnects session, s => ((), { s with disconnected := session :: s.disconnected })
  | connectedIds, s => (s.connections, s)
  | anyCapable ids, s =>
    (ids.filter fun d => match s.peerCapabilities.lookup d with
      | some incoming => consumerIncomingCaps.any fun wanted => incoming.contains wanted
      | none => false, s)
  | peerIncomingCapabilities d, s => (s.peerCapabilities.lookup d, s)
  | isPaired d, s => (decide (d ∈ s.paired), s)
  | recv, s =>
    if s.receiving then (none, s)
    else if s.lagged then (some .lagged, { s with lagged := false, receiving := true })
    else match s.events with
      | kind :: rest => (some (.event kind), { s with events := rest, receiving := true })
      | [] => (none, s)
  | roundEnds, s => ((), { s with receiving := false })
  | connect d, s => ((), { s with connections := d :: s.connections.filter (· ≠ d) })
  | disconnect d, s => ((), { s with connections := s.connections.filter (· ≠ d) })
  | recordPeerCapabilities d capabilities, s => ((), { s with peerCapabilities := s.peerCapabilities.insert d capabilities })
  | pair d, s => ((), { s with paired := d :: s.paired.filter (· ≠ d) })
  | unpair d, s => ((), { s with paired := s.paired.filter (· ≠ d) })
  | broadcast kind, s =>
    ((), if s.events.length < plugin.broadcastCapacity then { s with events := s.events ++ [kind] }
      else { s with events := s.events.drop 1 ++ [kind], lagged := true })

end CaptureAction

abbrev CaptureProgram := Program CaptureAction CaptureAction.Answer

namespace InputCapture

open CaptureAction

def perform (action : CaptureAction) : CaptureProgram action.Answer := call action

variable (plugin : CapturePlugin)

/-- Whether one device that advertises some of the capabilities has them all and is paired. -/
def isConsumer (d : DeviceId) : CaptureProgram Bool := do
  match ← perform (peerIncomingCapabilities d) with
  | none => return false
  | some incoming =>
    if !(consumerIncomingCaps.all fun wanted => incoming.contains wanted) then return false
    if plugin.pairingHandler then perform (isPaired d) else return true

def filterConsumers : List DeviceId → CaptureProgram (List DeviceId)
  | [] => return []
  | d :: rest => do
    let keep ← isConsumer plugin d
    let kept ← filterConsumers rest
    return if keep then d :: kept else kept

def capableConsumerIds : CaptureProgram (List DeviceId) := do
  let ids ← perform connectedIds
  let anyMatch ← perform (anyCapable ids)
  filterConsumers plugin anyMatch

def doDeactivate (owner : Option SessionId) : CaptureProgram Unit := do
  perform (dropRelease owner)
  match ← perform (takeSession owner) with
  | none => return
  | some session =>
    perform (storeUnavailable owner)
    perform (closeSession session)

/-- The callback for the portal's `Disabled` signal does what a teardown does, the close in a task of its own. -/
def disabledCallback (session : SessionId) : CaptureProgram Unit := doDeactivate (some session)

def setOnDisabledCallback (session : SessionId) : CaptureProgram Unit := do
  perform (setOnDisabled session)
  if ← perform (swapPendingDisabled session) then
    disabledCallback session

/-- What an activation does with a session that it has started and with its EI receiver. -/
def installSession (session : SessionId) : CaptureProgram Unit := do
  perform (wireRelease session)
  perform (storeSession session)
  setOnDisabledCallback session
  if ← perform sessionIsSome then
    perform storeAvailable
    if plugin.connectionManager then
      perform addCapabilities
      let postConsumers ← capableConsumerIds plugin
      if postConsumers.isEmpty then
        doDeactivate none
      else perform (spawnWatcher session)
    else perform (spawnWatcher session)

/-- What an activation does while it holds the in-flight flag. -/
def activateInFlight : CaptureProgram Unit := do
  if ← perform sessionIsSome then return
  if ← perform connIsSome then
    match ← perform startSession with
    | none => return
    | some session => installSession plugin session

def doActivate : CaptureProgram Unit := do
  if ← perform swapInFlight then return
  activateInFlight plugin
  perform clearInFlight

def doEvaluateAfterEvent : CaptureProgram Unit := do
  let consumers ← capableConsumerIds plugin
  let sessionLive ← perform sessionIsSome
  if !sessionLive then
    let probePassed ← perform connIsSome
    if probePassed && !consumers.isEmpty then doActivate plugin
  else if consumers.isEmpty then doDeactivate none

def shouldEvaluate : Received → Bool
  | .event .stateChanged => true
  | .event .paired => true
  | .event .unpaired => true
  | .event _ => false
  | .lagged => true

/-- One round of the gate's loop, which has one round at a time. -/
def gateRound : CaptureProgram Unit := do
  match ← perform recv with
  | none => return
  | some received =>
    if shouldEvaluate received then doEvaluateAfterEvent plugin
    perform roundEnds

/-- The task that an activation leaves behind, when the runtime polls it. -/
def watchDisconnect (index : Nat) : CaptureProgram Unit := do
  match ← perform (pollWatcher index) with
  | some session => doDeactivate (some session)
  | none => return

/-- The portal's `Disabled` signal for a session comes to its signal handler. -/
def handleDisabled (session : SessionId) : CaptureProgram Unit := do
  if ← perform (getOnDisabled session) then disabledCallback session
  else perform (latchPendingDisabled session)

inductive Call
  | activatePortalSession
  | deactivatePortalSession
  | evaluate
  | gateRound
  | watchDisconnect (index : Nat)
  | handleDisabled (session : SessionId)
  | disconnects (session : SessionId)
  | connect (deviceId : DeviceId)
  | disconnect (deviceId : DeviceId)
  | recordPeerCapabilities (deviceId : DeviceId) (capabilities : List String)
  | pair (deviceId : DeviceId)
  | unpair (deviceId : DeviceId)
  | broadcast (kind : DeviceEventKind)

def program : Call → CaptureProgram Unit
  | .activatePortalSession => doActivate plugin
  | .deactivatePortalSession => doDeactivate none
  | .evaluate => doEvaluateAfterEvent plugin
  | .gateRound => gateRound plugin
  | .watchDisconnect index => watchDisconnect index
  | .handleDisabled session => handleDisabled session
  | .disconnects session => perform (.disconnects session)
  | .connect d => perform (.connect d)
  | .disconnect d => perform (.disconnect d)
  | .recordPeerCapabilities d capabilities => perform (.recordPeerCapabilities d capabilities)
  | .pair d => perform (.pair d)
  | .unpair d => perform (.unpair d)
  | .broadcast kind => perform (.broadcast kind)

abbrev Tasks := Pool CaptureAction CaptureAction.Answer CaptureState

/-- The plugin after its probe, which has passed or not. -/
def new (portalConn : Bool) (choices : Nat → Bool) : CaptureState := { portalConn, choices }

def atTurn (portalConn : Bool) (choices : Nat → Bool) (turns : List (Turn Call)) (k : Nat) : Tasks :=
  Pool.after (CaptureAction.exec plugin) (program plugin) (new portalConn choices) turns k

/-- The action reads the connection manager or the pairing store. -/
def Reads : CaptureAction → Prop
  | connectedIds => True
  | anyCapable _ => True
  | peerIncomingCapabilities _ => True
  | isPaired _ => True
  | _ => False

theorem only_isConsumer (d : DeviceId) : (isConsumer plugin d).Only Reads fun _ => True := by
  refine ⟨trivial, fun incoming => ?_⟩
  cases incoming with
  | none => trivial
  | some incoming =>
    refine (only_ite _ _ _ _).mpr ⟨fun _ => trivial, fun _ => (only_ite _ _ _ _).mpr ⟨fun _ => ?_, fun _ => trivial⟩⟩
    exact ⟨trivial, fun _ => trivial⟩

theorem only_filterConsumers (ids : List DeviceId) : (filterConsumers plugin ids).Only Reads fun _ => True := by
  induction ids with
  | nil => trivial
  | cons d rest ih =>
    refine (only_bind _ _ _).mpr ((only_isConsumer plugin d).followedBy fun keep => ?_)
    exact (only_bind _ _ _).mpr (ih.followedBy fun kept => trivial)

/-- The consumers are found by reading alone. -/
theorem only_capableConsumerIds : (capableConsumerIds plugin).Only Reads fun _ => True :=
  ⟨trivial, fun _ => ⟨trivial, fun anyMatch => only_filterConsumers plugin anyMatch⟩⟩

end InputCapture

end RustConnect
