import RustConnect.Base.History
import RustConnect.Identity

namespace RustConnect

def defaultTcpPort : UInt16 := 1716

/-- `Identity::new`, for a desktop. -/
def Identity.new (deviceId : DeviceId) (deviceName : String) (incoming outgoing : List String) : Identity where
  deviceId := deviceId
  deviceName := deviceName
  deviceType := "desktop"
  protocolVersion := RustConnect.protocolVersion
  incomingCapabilities := incoming
  outgoingCapabilities := outgoing
  tcpPort := some defaultTcpPort
  targetDeviceId := none
  targetProtocolVersion := none

/-- An identity, and the step at which it was made. -/
structure Taken where
  identity : Identity
  step : Nat
  deriving DecidableEq

/-- What our own identity is made of, and who holds a copy of it: the daemon
after loading it, the listener, and every connection that is being set up. -/
structure OwnState where
  deviceId : DeviceId := ""
  deviceName : String := ""
  incomingCaps : List String := []
  outgoingCaps : List String := []
  tcpPort : Option UInt16 := none
  loaded : Option Taken := none
  listener : Option Taken := none
  setUps : List Taken := []
  sent : List Packet := []
  steps : Nat := 0

/-- What happens to it: the writes of `set_device_identity`, of
`set_capabilities` and of `add_capabilities`, the end of `load_identity` with
the capabilities it collected, the start of the services on a port, a
connection accepted, a dial, and the identity sent inside TLS. -/
inductive OwnEvent
  | setDeviceIdentity (deviceId : DeviceId) (deviceName : String)
  | setIncoming (incoming : List String)
  | setOutgoing (outgoing : List String)
  | addCapabilities (incoming outgoing : List String)
  | identityLoaded (deviceId : DeviceId) (deviceName : String) (incoming outgoing : List String)
  | startServices (port : UInt16)
  | accept
  | dial
  | established (setUp : Nat) (packetId : Int64)
  deriving DecidableEq

namespace OwnState

/-- The loop of `add_capabilities`. -/
def merge (caps added : List String) : List String :=
  added.foldl (fun caps cap => if caps.contains cap then caps else caps ++ [cap]) caps

def getIdentity (s : OwnState) : Option Identity :=
  if s.deviceId.isEmpty then none
  else
    let identity := Identity.new s.deviceId s.deviceName s.incomingCaps s.outgoingCaps
    match s.tcpPort with
    | some port => some { identity with tcpPort := some port }
    | none => some identity

def perform (s : OwnState) : OwnEvent → OwnState
  | .setDeviceIdentity deviceId deviceName => { s with deviceId, deviceName }
  | .setIncoming incoming => { s with incomingCaps := incoming }
  | .setOutgoing outgoing => { s with outgoingCaps := outgoing }
  | .addCapabilities incoming outgoing =>
    { s with incomingCaps := merge s.incomingCaps incoming, outgoingCaps := merge s.outgoingCaps outgoing }
  | .identityLoaded deviceId deviceName incoming outgoing =>
    { s with loaded := some ⟨.new deviceId deviceName incoming outgoing, s.steps⟩ }
  | .startServices port =>
    match s.loaded with
    | some taken => { s with
        tcpPort := some port
        listener := some { taken with identity := { taken.identity with tcpPort := some port } } }
    | none => s
  | .accept =>
    match s.listener with
    | some taken => { s with setUps := s.setUps ++ [taken] }
    | none => s
  | .dial =>
    match s.getIdentity with
    | some identity => { s with setUps := s.setUps ++ [⟨identity, s.steps⟩] }
    | none => s
  | .established setUp packetId =>
    match s.setUps[setUp]? with
    | some taken => { s with sent := s.sent ++ [taken.identity.toTcpPacket packetId] }
    | none => s

def step (s : OwnState) (event : OwnEvent) : OwnState :=
  let after := s.perform event
  { after with steps := s.steps + 1 }

end OwnState

namespace OwnEvent

/-- Part of a call of `set_capabilities`. -/
def sets : OwnEvent → Bool
  | setIncoming _ => true
  | setOutgoing _ => true
  | _ => false

/-- The capabilities that an identity made by this event lists. -/
def madeFrom (s : OwnState) : OwnEvent → List String × List String
  | identityLoaded _ _ incoming outgoing => (incoming, outgoing)
  | _ => (s.incomingCaps, s.outgoingCaps)

end OwnEvent

/-- The packet names every one of these capabilities. -/
def Packet.Lists (packet : Packet) (incoming outgoing : List String) : Prop :=
  ∃ inc out, packet.body.get "incomingCapabilities" = some (.arr inc) ∧ packet.body.get "outgoingCapabilities" = some (.arr out) ∧
    (∀ cap ∈ incoming, .str cap ∈ inc) ∧ ∀ cap ∈ outgoing, .str cap ∈ out

namespace OwnState

theorem mem_merge {caps added : List String} {cap : String} : cap ∈ merge caps added ↔ cap ∈ caps ∨ cap ∈ added := by
  unfold merge
  induction added generalizing caps with
  | nil => simp
  | cons first rest ih =>
    rw [List.foldl_cons, ih]
    by_cases known : first ∈ caps
    · have same : cap = first → cap ∈ caps := fun same => same ▸ known
      simp only [List.contains_eq_mem, known, decide_true, if_true, List.mem_cons]
      tauto
    · simp [known, or_assoc]

theorem lists_toTcpPacket (identity : Identity) (packetId : Int64) (incoming outgoing : List String) :
    (identity.toTcpPacket packetId).Lists incoming outgoing ↔
      (∀ cap ∈ incoming, cap ∈ identity.incomingCapabilities) ∧ ∀ cap ∈ outgoing, cap ∈ identity.outgoingCapabilities := by
  have inc : (identity.toTcpPacket packetId).body.get "incomingCapabilities" =
      some (.arr (identity.incomingCapabilities.map .str)) := by
    cases target : identity.targetDeviceId <;> cases version : identity.targetProtocolVersion <;>
      simp [Identity.toTcpPacket, Identity.toPacket, Packet.new, Json.get, target, version]
  have out : (identity.toTcpPacket packetId).body.get "outgoingCapabilities" =
      some (.arr (identity.outgoingCapabilities.map .str)) := by
    cases target : identity.targetDeviceId <;> cases version : identity.targetProtocolVersion <;>
      simp [Identity.toTcpPacket, Identity.toPacket, Packet.new, Json.get, target, version]
  unfold Packet.Lists
  rw [inc, out]
  simp

def stateAt (events : List OwnEvent) (k : Nat) : OwnState := History.stateAt step {} events k

/-- The identity that is sent at this step names all of these capabilities. -/
def AdvertisedAt (events : List OwnEvent) (k : Nat) (incoming outgoing : List String) : Prop :=
  ∃ packet, (stateAt events (k + 1)).sent = (stateAt events k).sent ++ [packet] ∧ packet.Lists incoming outgoing

/-- The identity was made at an earlier step, of the capabilities of that step. -/
def Made (events : List OwnEvent) (k : Nat) (taken : Taken) : Prop :=
  taken.step < k ∧ ∃ event, events[taken.step]? = some event ∧
    event.madeFrom (stateAt events taken.step) = (taken.identity.incomingCapabilities, taken.identity.outgoingCapabilities)

/-- Every copy of our identity comes from the step it tells. -/
structure Traced (events : List OwnEvent) (k : Nat) (s : OwnState) : Prop where
  steps : s.steps = k
  loaded : ∀ taken, s.loaded = some taken → Made events k taken
  listener : ∀ taken, s.listener = some taken → Made events k taken
  setUps : ∀ taken ∈ s.setUps, Made events k taken

variable {events : List OwnEvent} {k : Nat} {s : OwnState} {event : OwnEvent}

theorem Made.later {taken : Taken} (made : Made events k taken) : Made events (k + 1) taken :=
  ⟨Nat.lt_succ_of_lt made.1, made.2⟩

theorem Traced.later (traced : Traced events k s) : Traced events (k + 1) { s with steps := k + 1 } where
  steps := rfl
  loaded taken same := (traced.loaded taken same).later
  listener taken same := (traced.listener taken same).later
  setUps taken member := (traced.setUps taken member).later

theorem getIdentity_capabilities {identity : Identity} (known : s.getIdentity = some identity) :
    identity.incomingCapabilities = s.incomingCaps ∧ identity.outgoingCapabilities = s.outgoingCaps := by
  unfold getIdentity at known
  split at known
  · cases known
  · split at known
    · obtain rfl := Option.some.inj known
      exact ⟨rfl, rfl⟩
    · obtain rfl := Option.some.inj known
      exact ⟨rfl, rfl⟩

theorem traced_step (here : events[k]? = some event) (traced : Traced events k (stateAt events k)) :
    Traced events (k + 1) (step (stateAt events k) event) := by
  have after := traced.later
  have count : (step (stateAt events k) event).steps = k + 1 := by
    rw [step, traced.steps]
  cases event with
  | setDeviceIdentity deviceId deviceName => exact ⟨count, after.loaded, after.listener, after.setUps⟩
  | setIncoming incoming => exact ⟨count, after.loaded, after.listener, after.setUps⟩
  | setOutgoing outgoing => exact ⟨count, after.loaded, after.listener, after.setUps⟩
  | addCapabilities incoming outgoing => exact ⟨count, after.loaded, after.listener, after.setUps⟩
  | identityLoaded deviceId deviceName incoming outgoing =>
    refine ⟨count, fun taken same => ?_, after.listener, after.setUps⟩
    obtain rfl := Option.some.inj same
    refine ⟨by rw [traced.steps]; exact Nat.lt_succ_self k, .identityLoaded deviceId deviceName incoming outgoing, ?_, rfl⟩
    rw [traced.steps]
    exact here
  | startServices port =>
    cases found : (stateAt events k).loaded with
    | none =>
      have same : step (stateAt events k) (.startServices port) = { stateAt events k with steps := k + 1 } := by
        simp only [step, perform, found, traced.steps]
      rw [same]
      exact after
    | some taken =>
      refine ⟨count, ?_, ?_, ?_⟩
      · simpa only [step, perform, found] using after.loaded
      · simp only [step, perform, found]
        intro copy same
        obtain rfl := Option.some.inj same
        exact after.loaded taken found
      · simpa only [step, perform, found] using after.setUps
  | accept =>
    cases found : (stateAt events k).listener with
    | none =>
      have same : step (stateAt events k) .accept = { stateAt events k with steps := k + 1 } := by
        simp only [step, perform, found, traced.steps]
      rw [same]
      exact after
    | some taken =>
      refine ⟨count, ?_, ?_, ?_⟩
      · simpa only [step, perform, found] using after.loaded
      · simpa only [step, perform, found] using after.listener
      · simp only [step, perform, found]
        intro copy member
        rcases List.mem_append.mp member with old | new
        · exact after.setUps copy old
        · rw [List.mem_singleton.mp new]
          exact after.listener taken found
  | dial =>
    cases found : (stateAt events k).getIdentity with
    | none =>
      have same : step (stateAt events k) .dial = { stateAt events k with steps := k + 1 } := by
        simp only [step, perform, found, traced.steps]
      rw [same]
      exact after
    | some identity =>
      refine ⟨count, ?_, ?_, ?_⟩
      · simpa only [step, perform, found] using after.loaded
      · simpa only [step, perform, found] using after.listener
      · simp only [step, perform, found]
        intro copy member
        rcases List.mem_append.mp member with old | new
        · exact after.setUps copy old
        · obtain ⟨sameInc, sameOut⟩ := getIdentity_capabilities found
          rw [List.mem_singleton.mp new, traced.steps]
          exact ⟨Nat.lt_succ_self k, .dial, here, by rw [sameInc, sameOut]; rfl⟩
  | established setUp packetId =>
    cases found : (stateAt events k).setUps[setUp]? with
    | none =>
      have same : step (stateAt events k) (.established setUp packetId) = { stateAt events k with steps := k + 1 } := by
        simp only [step, perform, found, traced.steps]
      rw [same]
      exact after
    | some taken =>
      refine ⟨count, ?_, ?_, ?_⟩
      · simpa only [step, perform, found] using after.loaded
      · simpa only [step, perform, found] using after.listener
      · simpa only [step, perform, found] using after.setUps

theorem traced (events : List OwnEvent) {k : Nat} (within : k ≤ events.length) : Traced events k (stateAt events k) := by
  induction k with
  | zero => exact ⟨rfl, (fun _ same => nomatch same), (fun _ same => nomatch same), (fun _ member => nomatch member)⟩
  | succ k ih =>
    have here : events[k]? = some (events.get ⟨k, within⟩) := List.getElem?_eq_getElem within
    have now := traced_step here (ih (Nat.le_of_succ_le within))
    rwa [stateAt, History.stateAt_succ here]

/-- Without a call that sets them, capabilities are only added. -/
theorem capabilities_step {cap : String} (unset : event.sets = false) :
    (cap ∈ s.incomingCaps → cap ∈ (step s event).incomingCaps) ∧ (cap ∈ s.outgoingCaps → cap ∈ (step s event).outgoingCaps) := by
  cases event with
  | setDeviceIdentity deviceId deviceName => exact ⟨id, id⟩
  | setIncoming incoming => cases unset
  | setOutgoing outgoing => cases unset
  | addCapabilities incoming outgoing => exact ⟨fun old => mem_merge.mpr (.inl old), fun old => mem_merge.mpr (.inl old)⟩
  | identityLoaded deviceId deviceName incoming outgoing => exact ⟨id, id⟩
  | startServices port => cases found : s.loaded <;> simp [step, perform, found]
  | accept => cases found : s.listener <;> simp [step, perform, found]
  | dial => cases found : s.getIdentity <;> simp [step, perform, found]
  | established setUp packetId => cases found : s.setUps[setUp]? <;> simp [step, perform, found]

/-- What was added is there until a call sets the capabilities. -/
theorem added_stays {p m : Nat} {incoming outgoing : List String} (added : events[p]? = some (.addCapabilities incoming outgoing))
    (later : p < m) (unset : ∀ k event, p < k → k < m → events[k]? = some event → event.sets = false) :
    (∀ cap ∈ incoming, cap ∈ (stateAt events m).incomingCaps) ∧ ∀ cap ∈ outgoing, cap ∈ (stateAt events m).outgoingCaps := by
  induction m with
  | zero => omega
  | succ m ih =>
    rcases Nat.lt_succ_iff_lt_or_eq.mp later with before | rfl
    · obtain ⟨inc, out⟩ := ih before fun k event after bound here => unset k event after (by omega) here
      cases here : events[m]? with
      | none =>
        rw [stateAt, History.stateAt_past_end here]
        exact ⟨inc, out⟩
      | some event =>
        rw [stateAt, History.stateAt_succ here]
        have keeps := unset m event before (Nat.lt_succ_self m) here
        exact ⟨fun cap member => (capabilities_step keeps).1 (inc cap member), fun cap member => (capabilities_step keeps).2 (out cap member)⟩
    · rw [stateAt, History.stateAt_succ added]
      exact ⟨fun cap member => mem_merge.mpr (.inr member), fun cap member => mem_merge.mpr (.inr member)⟩

/-- After some capabilities were added, and none set since, the identity that a
link sends lists them exactly when the link's identity was read for a dial
since then, or was made of capabilities that already had them. -/
theorem sent_identity_lists_iff (events : List OwnEvent) (p q setUp : Nat) (packetId : Int64) (incoming outgoing : List String)
    (taken : Taken) (added : events[p]? = some (.addCapabilities incoming outgoing))
    (link : events[q]? = some (.established setUp packetId)) (prepared : (stateAt events q).setUps[setUp]? = some taken)
    (unset : ∀ k event, p < k → k < q → events[k]? = some event → event.sets = false) :
    AdvertisedAt events q incoming outgoing ↔
      p < taken.step ∧ events[taken.step]? = some .dial ∨
        ∃ event, events[taken.step]? = some event ∧
          (∀ cap ∈ incoming, cap ∈ (event.madeFrom (stateAt events taken.step)).1) ∧
          ∀ cap ∈ outgoing, cap ∈ (event.madeFrom (stateAt events taken.step)).2 := by
  have bound : q < events.length := (List.getElem?_eq_some_iff.mp link).1
  obtain ⟨earlier, event, made, same⟩ :=
    (traced events (Nat.le_of_lt bound)).setUps taken (List.mem_of_getElem? prepared)
  have sends : (stateAt events (q + 1)).sent = (stateAt events q).sent ++ [taken.identity.toTcpPacket packetId] := by
    rw [stateAt, History.stateAt_succ link]
    simp only [stateAt] at prepared
    simp only [step, perform, prepared]
    rfl
  have lists : AdvertisedAt events q incoming outgoing ↔
      (∀ cap ∈ incoming, cap ∈ taken.identity.incomingCapabilities) ∧ ∀ cap ∈ outgoing, cap ∈ taken.identity.outgoingCapabilities := by
    rw [AdvertisedAt, sends, ← lists_toTcpPacket taken.identity packetId]
    constructor
    · rintro ⟨packet, shown, listed⟩
      obtain rfl : taken.identity.toTcpPacket packetId = packet := by simpa using shown
      exact listed
    · exact fun listed => ⟨_, rfl, listed⟩
  rw [lists]
  constructor
  · intro listed
    refine .inr ⟨event, made, ?_⟩
    rw [same]
    exact listed
  · rintro (⟨since, dialled⟩ | ⟨event', made', listed⟩)
    · have stays := added_stays added since fun k other after before here => unset k other after (by omega) here
      obtain rfl : OwnEvent.dial = event := Option.some.inj (dialled.symm.trans made)
      simp only [OwnEvent.madeFrom, Prod.mk.injEq] at same
      rwa [← same.1, ← same.2]
    · obtain rfl : event' = event := Option.some.inj (made'.symm.trans made)
      rwa [same] at listed

/-- The daemon starts with one capability, another is added, and then there is a link. -/
def startThen (connect : OwnEvent) : List OwnEvent :=
  [.setDeviceIdentity "0123456789abcdef0123456789abcdef" "Desk", .setIncoming ["kdeconnect.ping"], .setOutgoing ["kdeconnect.ping"],
    .identityLoaded "0123456789abcdef0123456789abcdef" "Desk" ["kdeconnect.ping"] ["kdeconnect.ping"], .startServices 1716,
    .addCapabilities [] ["kdeconnect.shareinputdevices.request"], connect, .established 0 7]

def startIdentity (outgoing : List String) : Identity :=
  .new "0123456789abcdef0123456789abcdef" "Desk" ["kdeconnect.ping"] outgoing

theorem unset_startThen (connect : OwnEvent) (connects : connect.sets = false) :
    ∀ k event, 5 < k → k < 7 → (startThen connect)[k]? = some event → event.sets = false := by
  intro k event after before here
  obtain rfl : k = 6 := by omega
  obtain rfl : connect = event := Option.some.inj here
  exact connects

/-- A link that is dialled afterwards tells the added capability. -/
theorem dialled_link_advertises :
    (stateAt (startThen .dial) 7).setUps[0]? =
        some ⟨startIdentity ["kdeconnect.ping", "kdeconnect.shareinputdevices.request"], 6⟩ ∧
      AdvertisedAt (startThen .dial) 7 [] ["kdeconnect.shareinputdevices.request"] := by
  have prepared : (stateAt (startThen .dial) 7).setUps[0]? =
      some ⟨startIdentity ["kdeconnect.ping", "kdeconnect.shareinputdevices.request"], 6⟩ := by decide +kernel
  exact ⟨prepared, (sent_identity_lists_iff (startThen .dial) 5 7 0 7 [] ["kdeconnect.shareinputdevices.request"] _ rfl rfl prepared
    (unset_startThen .dial rfl)).mpr (.inl ⟨by decide, rfl⟩)⟩

/-- A link that the peer opens afterwards does not. -/
theorem accepted_link_omits :
    ¬(∀ (events : List OwnEvent) (p q setUp : Nat) (packetId : Int64) (incoming outgoing : List String) (taken : Taken),
      events[p]? = some (.addCapabilities incoming outgoing) → p < q → events[q]? = some (.established setUp packetId) →
      (stateAt events q).setUps[setUp]? = some taken →
      (∀ k event, p < k → k < q → events[k]? = some event → event.sets = false) → AdvertisedAt events q incoming outgoing) := by
  intro always
  have prepared : (stateAt (startThen .accept) 7).setUps[0]? = some ⟨startIdentity ["kdeconnect.ping"], 3⟩ := by decide +kernel
  obtain ⟨packet, sends, listed⟩ := always (startThen .accept) 5 7 0 7 [] ["kdeconnect.shareinputdevices.request"] _ rfl (by decide) rfl
    prepared (unset_startThen .accept rfl)
  have only : (stateAt (startThen .accept) 8).sent = (stateAt (startThen .accept) 7).sent ++
      [(startIdentity ["kdeconnect.ping"]).toTcpPacket 7] := by decide +kernel
  obtain rfl : (startIdentity ["kdeconnect.ping"]).toTcpPacket 7 = packet := by simpa using only.symm.trans sends
  exact absurd (((lists_toTcpPacket _ _ _ _).mp listed).2 _ List.mem_cons_self) (by decide)

end OwnState

end RustConnect
