import RustConnect.Base.History
import RustConnect.Base.Totals
import RustConnect.JsonFields
import RustConnect.VCard

namespace RustConnect

structure Contact where
  uid : String
  name : Option String
  phoneNumbers : List String
  emails : List String
  vcard : String
  deriving DecidableEq

/-- What is kept of a device: the timestamps of its last report, the contacts and the size of their vCards. -/
structure DeviceContacts where
  timestamps : Table String String := ∅
  contacts : Table String Contact := ∅
  totalVcardBytes : Nat := 0

/-- What becomes of a vCard that arrives. -/
inductive VcardVerdict
  | unreported
  | capped
  | stored
  deriving DecidableEq

namespace Contacts

def maxContactsPerDevice : Nat := 10000

def maxVcardBytesPerDevice : Nat := 64 * 1024 * 1024

def vcardLen (contact : Contact) : Nat := contact.vcard.utf8ByteSize

/-- `text` is how a number is written. -/
def timestampString (text : JsonNumber → String) : Json → Option String
  | .str value => some value
  | .num value => some (text value)
  | _ => none

def uidsOf (body : Json) : Option (List String) :=
  ((body.get "uids").bind Json.asArray).map fun uids => uids.filterMap Json.asStr

def parseUidsTimestamps (text : JsonNumber → String) (body : Json) : Option (Table String String) :=
  (uidsOf body).map fun uids =>
    uids.foldl (fun (out : Table String String) uid =>
      out.insert uid (((body.get uid).bind (timestampString text)).getD "")) ∅

/-- The contacts of a response, for the uids that come with a vCard. -/
def parseVcards (body : Json) : Option (List (String × Contact)) :=
  (uidsOf body).map fun uids =>
    uids.filterMap fun uid =>
      ((body.get uid).bind Json.asStr).map fun vcard =>
        let fields := VCard.parseVcardFields vcard
        (uid, ⟨uid, fields.name, fields.phones, fields.emails, vcard⟩)

def oldBytes (s : DeviceContacts) (uid : String) : Nat := (s.contacts.lookup uid).elim 0 vcardLen

/-- `total + new - old`, on machine integers. -/
def prospectiveBytes (s : DeviceContacts) (uid : String) (contact : Contact) : Nat :=
  s.totalVcardBytes + vcardLen contact - oldBytes s uid

def verdict (reported : List String) (maxContacts maxBytes : Nat) (s : DeviceContacts) (uid : String) (contact : Contact) :
    VcardVerdict :=
  if uid ∉ reported then .unreported
  else if (s.contacts.lookup uid).isNone ∧ maxContacts ≤ s.contacts.len then .capped
  else if maxBytes < prospectiveBytes s uid contact then .capped
  else .stored

/-- One round of the loop of `store_vcards_inner`. -/
def storeVcard (reported : List String) (maxContacts maxBytes : Nat) (s : DeviceContacts) (vcard : String × Contact) :
    DeviceContacts :=
  match verdict reported maxContacts maxBytes s vcard.1 vcard.2 with
  | .stored =>
    { s with totalVcardBytes := prospectiveBytes s vcard.1 vcard.2, contacts := s.contacts.insert vcard.1 vcard.2 }
  | _ => s

/-- How many of the vCards were stored and how many were dropped. -/
structure VcardCounts where
  stored : Nat := 0
  droppedUnreported : Nat := 0
  droppedCap : Nat := 0
  deriving DecidableEq

def VcardCounts.add (counts : VcardCounts) : VcardVerdict → VcardCounts
  | .stored => { counts with stored := counts.stored + 1 }
  | .unreported => { counts with droppedUnreported := counts.droppedUnreported + 1 }
  | .capped => { counts with droppedCap := counts.droppedCap + 1 }

def storeVcardsInner (s : DeviceContacts) (reported : List String) (parsed : List (String × Contact))
    (maxContacts maxBytes : Nat) : VcardCounts × DeviceContacts :=
  parsed.foldl (fun (counts, s) vcard =>
    (counts.add (verdict reported maxContacts maxBytes s vcard.1 vcard.2),
      storeVcard reported maxContacts maxBytes s vcard)) ({}, s)

def storeVcards (s : DeviceContacts) (reported : List String) (parsed : List (String × Contact)) :
    VcardCounts × DeviceContacts :=
  storeVcardsInner s reported parsed maxContactsPerDevice maxVcardBytesPerDevice

/-- The uids whose vCards are requested for a report. -/
def toFetch (s : DeviceContacts) (reported : Table String String) : List String :=
  (reported.entries.filter fun e => s.timestamps.lookup e.1 ≠ some e.2 || (s.contacts.lookup e.1).isNone).map Sigma.fst

def pruned (s : DeviceContacts) (reported : Table String String) : Table String Contact :=
  s.contacts.retain fun uid _ => (reported.lookup uid).isSome

/-- What a report leaves. -/
def takeReport (s : DeviceContacts) (reported : Table String String) : DeviceContacts :=
  { timestamps := reported, contacts := pruned s reported, totalVcardBytes := (pruned s reported).total vcardLen }

/-- What a response leaves; only the uids of the last report are stored. -/
def takeVcards (s : DeviceContacts) (parsed : List (String × Contact)) : DeviceContacts :=
  (storeVcards s s.timestamps.keys parsed).2

/-- What a packet is, when it is well formed. -/
inductive ContactsPacket
  | report (reported : Table String String)
  | vcards (parsed : List (String × Contact))

def readPacket (text : JsonNumber → String) (packet : Packet) : Option ContactsPacket :=
  if packet.packetType = "kdeconnect.contacts.response_uids_timestamps" then
    (parseUidsTimestamps text packet.body).map .report
  else if packet.packetType = "kdeconnect.contacts.response_vcards" then (parseVcards packet.body).map .vcards
  else none

def requestVcardsByUid (id : Int64) (uids : List String) : Packet :=
  .new id "kdeconnect.contacts.request_vcards_by_uid" (.obj [("uids", .arr (uids.map .str))])

def take (s : DeviceContacts) : ContactsPacket → List String × DeviceContacts
  | .report reported => (toFetch s reported, takeReport s reported)
  | .vcards parsed => ([], takeVcards s parsed)

abbrev Devices := Table DeviceId DeviceContacts

def stateOf (devices : Devices) (d : DeviceId) : DeviceContacts := (devices.lookup d).getD {}

/-- `handle_packet`, with the id that a request would get. -/
def handlePacket (text : JsonNumber → String) (id : Int64) (d : DeviceId) (devices : Devices) (packet : Packet) :
    List Packet × Devices :=
  match readPacket text packet with
  | none => ([], devices)
  | some read =>
    let (wanted, later) := take (stateOf devices d) read
    (if wanted = [] then [] else [requestVcardsByUid id wanted], devices.insert d later)

def onDisconnected (d : DeviceId) (devices : Devices) : Devices := devices.erase d

/-- A packet of a device, with the id that an answer would get, or the end of its connection. -/
inductive ContactsEvent
  | packet (deviceId : DeviceId) (id : Int64) (packet : Packet)
  | disconnected (deviceId : DeviceId)

def step (text : JsonNumber → String) (devices : Devices) : ContactsEvent → Devices
  | .packet d id packet => (handlePacket text id d devices packet).2
  | .disconnected d => onDisconnected d devices

theorem storeVcards_eq (s : DeviceContacts) (reported : List String) (parsed : List (String × Contact)) :
    (storeVcards s reported parsed).2 =
      parsed.foldl (storeVcard reported maxContactsPerDevice maxVcardBytesPerDevice) s := by
  have run (counts : VcardCounts) (s : DeviceContacts) :
      (parsed.foldl (fun (counts, s) vcard =>
        (counts.add (verdict reported maxContactsPerDevice maxVcardBytesPerDevice s vcard.1 vcard.2),
          storeVcard reported maxContactsPerDevice maxVcardBytesPerDevice s vcard)) (counts, s)).2 =
        parsed.foldl (storeVcard reported maxContactsPerDevice maxVcardBytesPerDevice) s := by
    induction parsed generalizing counts s with
    | nil => rfl
    | cons vcard rest ih => exact ih _ _
  exact run {} s

/-- The running total is right, only reported contacts are stored, and both caps are kept. -/
structure Sound (s : DeviceContacts) : Prop where
  total : s.totalVcardBytes = s.contacts.total vcardLen
  reported : ∀ uid contact, s.contacts.lookup uid = some contact → (s.timestamps.lookup uid).isSome
  count : s.contacts.len ≤ maxContactsPerDevice
  bytes : s.totalVcardBytes ≤ maxVcardBytesPerDevice

/-- The old vCard is part of the total, so that nothing is taken off below zero. -/
theorem Sound.oldBytes_le {s : DeviceContacts} (sound : Sound s) (uid : String) : oldBytes s uid ≤ s.totalVcardBytes := by
  rw [sound.total]
  exact Table.lookup_le_total vcardLen uid s.contacts

theorem storeVcard_refused {reported : List String} {maxContacts maxBytes : Nat} {s : DeviceContacts}
    {vcard : String × Contact} (refused : verdict reported maxContacts maxBytes s vcard.1 vcard.2 ≠ .stored) :
    storeVcard reported maxContacts maxBytes s vcard = s := by
  rw [storeVcard]
  split
  · rename_i stored
    exact absurd stored refused
  · rfl

theorem storeVcard_timestamps (reported : List String) (maxContacts maxBytes : Nat) (s : DeviceContacts)
    (vcard : String × Contact) : (storeVcard reported maxContacts maxBytes s vcard).timestamps = s.timestamps := by
  rw [storeVcard]
  split <;> rfl

theorem Sound.storeVcard {s : DeviceContacts} (sound : Sound s) (vcard : String × Contact) :
    Sound (storeVcard s.timestamps.keys maxContactsPerDevice maxVcardBytesPerDevice s vcard) := by
  obtain ⟨uid, contact⟩ := vcard
  by_cases stored : verdict s.timestamps.keys maxContactsPerDevice maxVcardBytesPerDevice s uid contact = .stored
  · have known : uid ∈ s.timestamps.keys ∧ ¬ ((s.contacts.lookup uid).isNone ∧ maxContactsPerDevice ≤ s.contacts.len) ∧
        ¬ maxVcardBytesPerDevice < prospectiveBytes s uid contact := by
      rw [verdict] at stored
      split_ifs at stored with unreported full heavy
      exact ⟨unreported, full, heavy⟩
    obtain ⟨member, room, light⟩ := known
    have whole := Table.total_insert vcardLen uid contact s.contacts
    have size := Table.len_insert uid contact s.contacts
    have part : oldBytes s uid ≤ s.totalVcardBytes := sound.oldBytes_le uid
    have sum := sound.total
    have count := sound.count
    simp only [Contacts.storeVcard, stored]
    refine ⟨?_, fun uid' contact' present => ?_, ?_, Nat.not_lt.mp light⟩
    · show prospectiveBytes s uid contact = Table.total vcardLen (s.contacts.insert uid contact)
      rw [prospectiveBytes]
      rw [oldBytes] at part ⊢
      omega
    · have entries : (s.contacts.insert uid contact).lookup uid' = some contact' := present
      rw [Table.lookup_insert_of] at entries
      split_ifs at entries with same
      · rw [same]
        exact (Table.mem_keys_iff uid s.timestamps).mp member
      · exact sound.reported uid' contact' entries
    · show Table.len (s.contacts.insert uid contact) ≤ _
      cases old : s.contacts.lookup uid with
      | some before =>
        rw [old] at size
        simp only [Option.elim_some] at size
        omega
      | none =>
        rw [old] at size room
        simp only [Option.elim_none] at size
        have few : ¬ maxContactsPerDevice ≤ s.contacts.len := fun full => room ⟨rfl, full⟩
        omega
  · rw [storeVcard_refused stored]
    exact sound

/-- The state after the first vCards of a response. -/
def storing (s : DeviceContacts) (parsed : List (String × Contact)) (count : Nat) : DeviceContacts :=
  (parsed.take count).foldl (storeVcard s.timestamps.keys maxContactsPerDevice maxVcardBytesPerDevice) s

theorem storing_succ (s : DeviceContacts) (parsed : List (String × Contact)) {count : Nat} {vcard : String × Contact}
    (here : parsed[count]? = some vcard) :
    storing s parsed (count + 1) =
      storeVcard s.timestamps.keys maxContactsPerDevice maxVcardBytesPerDevice (storing s parsed count) vcard := by
  simp [storing, List.take_add_one, here]

theorem storing_past_end (s : DeviceContacts) (parsed : List (String × Contact)) {count : Nat} (here : parsed[count]? = none) :
    storing s parsed (count + 1) = storing s parsed count := by
  simp [storing, List.take_add_one, here]

theorem takeVcards_eq (s : DeviceContacts) (parsed : List (String × Contact)) :
    takeVcards s parsed = storing s parsed parsed.length := by
  rw [takeVcards, storeVcards_eq, storing, List.take_length]

theorem Sound.storing {s : DeviceContacts} (sound : Sound s) (parsed : List (String × Contact)) (count : Nat) :
    Sound (storing s parsed count) ∧ (Contacts.storing s parsed count).timestamps = s.timestamps := by
  induction count with
  | zero => exact ⟨sound, rfl⟩
  | succ count ih =>
    obtain ⟨before, same⟩ := ih
    cases here : parsed[count]? with
    | none =>
      rw [storing_past_end s parsed here]
      exact ⟨before, same⟩
    | some vcard =>
      rw [storing_succ s parsed here]
      refine ⟨?_, (storeVcard_timestamps ..).trans same⟩
      have after := before.storeVcard vcard
      rwa [same] at after

theorem Sound.takeReport {s : DeviceContacts} (sound : Sound s) (reported : Table String String) :
    Sound (takeReport s reported) := by
  have less : (pruned s reported).total vcardLen ≤ s.contacts.total vcardLen := Table.total_retain_le ..
  refine ⟨rfl, fun uid contact present => ?_, (Table.len_retain_le ..).trans sound.count, ?_⟩
  · have kept : (pruned s reported).lookup uid = some contact := present
    rw [pruned, Table.lookup_retain] at kept
    exact (Option.filter_eq_some_iff.mp kept).2
  · have bytes := sound.bytes
    rw [sound.total] at bytes
    exact less.trans bytes

theorem sound_empty : Sound {} :=
  ⟨rfl, fun _ _ absent => (nomatch absent), Nat.zero_le _, Nat.zero_le _⟩

theorem Sound.take {s : DeviceContacts} (sound : Sound s) (read : ContactsPacket) : Sound (take s read).2 := by
  cases read with
  | report reported => exact sound.takeReport reported
  | vcards parsed =>
    show Sound (takeVcards s parsed)
    rw [takeVcards_eq]
    exact (sound.storing parsed parsed.length).1

/-- What a packet does to the states of the devices. -/
theorem stateOf_handlePacket (text : JsonNumber → String) (id : Int64) (d d' : DeviceId) (devices : Devices) (packet : Packet) :
    stateOf (handlePacket text id d devices packet).2 d' =
      match readPacket text packet with
      | some read => if d' = d then (take (stateOf devices d) read).2 else stateOf devices d'
      | none => stateOf devices d' := by
  rw [handlePacket]
  cases readPacket text packet with
  | none => rfl
  | some read =>
    show ((devices.insert d _).lookup d').getD {} = _
    rw [Table.lookup_insert_of]
    by_cases same : d' = d
    · simp [same]
    · simp [same, stateOf]

theorem stateOf_onDisconnected (d d' : DeviceId) (devices : Devices) :
    stateOf (onDisconnected d devices) d' = if d' = d then {} else stateOf devices d' := by
  rw [stateOf, onDisconnected, Table.lookup_erase_of]
  split_ifs <;> rfl

theorem sound_step (text : JsonNumber → String) (event : ContactsEvent) (devices : Devices)
    (sound : ∀ d, Sound (stateOf devices d)) (d : DeviceId) : Sound (stateOf (step text devices event) d) := by
  cases event with
  | packet d' id packet =>
    rw [step, stateOf_handlePacket]
    split
    · split_ifs
      · exact (sound d').take _
      · exact sound d
    · exact sound d
  | disconnected d' =>
    rw [step, stateOf_onDisconnected]
    split_ifs
    · exact sound_empty
    · exact sound d

/-- What is known of a device after the first `k` events. -/
def known (text : JsonNumber → String) (events : List ContactsEvent) (d : DeviceId) (k : Nat) : DeviceContacts :=
  stateOf (History.stateAt (step text) ∅ events k) d

theorem known_sound (text : JsonNumber → String) (events : List ContactsEvent) (d : DeviceId) (k : Nat) :
    Sound (known text events d k) :=
  History.invariant (I := fun devices => ∀ d, Sound (stateOf devices d))
    (show ∀ d, Sound (stateOf ∅ d) from fun _ => sound_empty)
    (fun event _ devices sound => sound_step text event devices sound) k d

/-- The accounting of every device in every run, and at every vCard of every
response that may come next: the subtraction stays above zero, and a vCard
that is not stored leaves everything as it was. -/
theorem contact_accounting (text : JsonNumber → String) (events : List ContactsEvent) (d : DeviceId) (k : Nat) :
    Sound (known text events d k) ∧
      ∀ (parsed : List (String × Contact)) (count : Nat) (vcard : String × Contact), parsed[count]? = some vcard →
        let s := storing (known text events d k) parsed count
        Sound s ∧ oldBytes s vcard.1 ≤ s.totalVcardBytes + vcardLen vcard.2 ∧
          (verdict (known text events d k).timestamps.keys maxContactsPerDevice maxVcardBytesPerDevice s vcard.1 vcard.2 ≠
            .stored → storing (known text events d k) parsed (count + 1) = s) := by
  have sound := known_sound text events d k
  refine ⟨sound, fun parsed count vcard here => ?_⟩
  have inner := (sound.storing parsed count).1
  refine ⟨inner, (inner.oldBytes_le vcard.1).trans (Nat.le_add_right _ _), fun refused => ?_⟩
  rw [storing_succ _ _ here]
  exact storeVcard_refused refused

def reportPacket (timestamps : List (String × String)) : Packet :=
  .new 1 "kdeconnect.contacts.response_uids_timestamps"
    (.obj (("uids", .arr (timestamps.map fun entry => .str entry.1)) :: timestamps.map fun entry => (entry.1, .str entry.2)))

def vcardsPacket (vcards : List (String × String)) : Packet :=
  .new 2 "kdeconnect.contacts.response_vcards"
    (.obj (("uids", .arr (vcards.map fun entry => .str entry.1)) :: vcards.map fun entry => (entry.1, .str entry.2)))

def contactNamed (uid name : String) : Contact := ⟨uid, some name, [], [], "FN:" ++ name⟩

/-- The phone has reported and sent one contact; then it sends another. -/
theorem unreported_vcard_ignored :
    let events := [.packet "phone" 1 (reportPacket [("1", "5")]), .packet "phone" 2 (vcardsPacket [("1", "FN:Ann")])]
    storing (known (fun _ => "") events "phone" 2) [("7", contactNamed "7" "Bob")] 1 =
      storing (known (fun _ => "") events "phone" 2) [("7", contactNamed "7" "Bob")] 0 :=
  ((contact_accounting (fun _ => "") [.packet "phone" 1 (reportPacket [("1", "5")]),
    .packet "phone" 2 (vcardsPacket [("1", "FN:Ann")])] "phone" 2).2 [("7", contactNamed "7" "Bob")] 0
      ("7", contactNamed "7" "Bob") rfl).2.2 (by decide +kernel)

end Contacts

end RustConnect
