import RustConnect.Contacts

namespace RustConnect

namespace Contacts

section Connection

variable (text : JsonNumber → String)

/-- What a packet of the device leaves. -/
def received (s : DeviceContacts) (packet : Packet) : DeviceContacts :=
  match readPacket text packet with
  | some read => (take s read).2
  | none => s

/-- The uids that a packet makes the plugin ask for. -/
def requested (s : DeviceContacts) (packet : Packet) : List String :=
  match readPacket text packet with
  | some read => (take s read).1
  | none => []

theorem handlePacket_eq (id : Int64) (d : DeviceId) (devices : Devices) (packet : Packet) :
    (handlePacket text id d devices packet).1 =
        (if requested text (stateOf devices d) packet = [] then []
          else [requestVcardsByUid id (requested text (stateOf devices d) packet)]) ∧
      stateOf (handlePacket text id d devices packet).2 d = received text (stateOf devices d) packet := by
  constructor
  · rw [handlePacket, requested]
    cases readPacket text packet with
    | none => rfl
    | some read => rfl
  · rw [stateOf_handlePacket, received]
    cases readPacket text packet with
    | none => rfl
    | some read => exact if_pos rfl

/-- The timestamp that a packet reports for a contact. -/
def reports (packet : Packet) (uid : String) : Option String :=
  match readPacket text packet with
  | some (.report reported) => reported.lookup uid
  | _ => none

/-- A vCard of the contact comes with the packet and is stored. -/
def stores (s : DeviceContacts) (packet : Packet) (uid : String) : Bool :=
  match readPacket text packet with
  | some (.vcards parsed) =>
    (List.range parsed.length).any fun count =>
      parsed[count]?.any fun vcard =>
        vcard.1 = uid && verdict s.timestamps.keys maxContactsPerDevice maxVcardBytesPerDevice (storing s parsed count) uid
          vcard.2 = .stored
  | _ => false

/-- The state after the first `k` packets of a connection. -/
def during (packets : List Packet) (k : Nat) : DeviceContacts := History.stateAt (received text) {} packets k

variable (packets : List Packet) (uid : String)

/-- The timestamp in force when the vCard that is kept was stored. -/
def receivedUnder : Nat → Option String
  | 0 => none
  | k + 1 =>
    match packets[k]? with
    | some packet =>
      if stores text (during text packets k) packet uid then (during text packets k).timestamps.lookup uid
      else receivedUnder k
    | none => receivedUnder k

/-- The timestamp has changed since a vCard was stored last. -/
def awaited : Nat → Bool
  | 0 => false
  | k + 1 =>
    match packets[k]? with
    | some packet =>
      if stores text (during text packets k) packet uid then false
      else
        awaited k ||
          ((reports text packet uid).isSome && reports text packet uid ≠ (during text packets k).timestamps.lookup uid)
    | none => awaited k

/-- A report of this timestamp shows that the vCard is missing or was stored under another one. -/
def Stale (k : Nat) (timestamp : String) : Prop :=
  (during text packets k).contacts.lookup uid = none ∨ receivedUnder text packets uid k ≠ some timestamp

/-- No vCard of the contact is stored from packet `j` on, before packet `k`. -/
def NothingStored (j k : Nat) : Prop :=
  ∀ i packet, j ≤ i → i < k → packets[i]? = some packet → stores text (during text packets i) packet uid = false

/-- From a report on that shows a stale vCard, every report makes the plugin
ask for it until one is stored. -/
def FetchedUntilStored : Prop :=
  ∀ j packet timestamp, packets[j]? = some packet → reports text packet uid = some timestamp →
    Stale text packets uid j timestamp → ∀ k ≥ j, NothingStored text packets uid j k →
    ∀ packet' timestamp', packets[k]? = some packet' → reports text packet' uid = some timestamp' →
      uid ∈ requested text (during text packets k) packet'

/-- No report repeats the timestamp of the report before while the vCard that is
kept is older than the last change of it. -/
def ChangesAnswered : Prop :=
  ∀ k packet timestamp, packets[k]? = some packet → reports text packet uid = some timestamp →
    (during text packets k).timestamps.lookup uid = some timestamp →
    (during text packets k).contacts.lookup uid ≠ none → awaited text packets uid k = false

variable {text packets uid}

theorem mem_toFetch {s : DeviceContacts} {reported : Table String String} {timestamp : String}
    (here : reported.lookup uid = some timestamp) :
    uid ∈ toFetch s reported ↔ s.timestamps.lookup uid ≠ some timestamp ∨ s.contacts.lookup uid = none := by
  have entry (other : String) : (⟨uid, other⟩ : Sigma fun _ : String => String) ∈ reported.entries ↔ other = timestamp := by
    rw [← AList.mem_lookup_iff, Option.mem_def, here, Option.some_inj, eq_comm]
  rw [toFetch, List.mem_map]
  constructor
  · rintro ⟨⟨uid', other⟩, member, rfl⟩
    obtain ⟨listed, wanted⟩ := List.mem_filter.mp member
    obtain rfl := (entry other).mp listed
    simpa using wanted
  · intro wanted
    refine ⟨⟨uid, timestamp⟩, List.mem_filter.mpr ⟨(entry timestamp).mpr rfl, ?_⟩, rfl⟩
    simpa using wanted

theorem mem_requested {s : DeviceContacts} {packet : Packet} {timestamp : String}
    (here : reports text packet uid = some timestamp) :
    uid ∈ requested text s packet ↔ s.timestamps.lookup uid ≠ some timestamp ∨ s.contacts.lookup uid = none := by
  rw [reports] at here
  rw [requested]
  split at here
  · rename_i reported read
    rw [read]
    exact mem_toFetch here
  · cases here

theorem during_succ {k : Nat} {packet : Packet} (here : packets[k]? = some packet) :
    during text packets (k + 1) = received text (during text packets k) packet := History.stateAt_succ here

theorem during_past_end {k : Nat} (here : packets[k]? = none) : during text packets (k + 1) = during text packets k :=
  History.stateAt_past_end here

theorem awaited_succ {k : Nat} {packet : Packet} (here : packets[k]? = some packet) :
    awaited text packets uid (k + 1) =
      if stores text (during text packets k) packet uid then false
      else
        awaited text packets uid k ||
          ((reports text packet uid).isSome && reports text packet uid ≠ (during text packets k).timestamps.lookup uid) := by
  rw [awaited, here]

theorem receivedUnder_succ {k : Nat} {packet : Packet} (here : packets[k]? = some packet) :
    receivedUnder text packets uid (k + 1) =
      if stores text (during text packets k) packet uid then (during text packets k).timestamps.lookup uid
      else receivedUnder text packets uid k := by
  rw [receivedUnder, here]

/-- The vCards of a response change what is kept of a contact only when one of them is stored for it. -/
theorem storing_contacts (s : DeviceContacts) (parsed : List (String × Contact)) (count : Nat)
    (idle : ∀ j < count, ∀ vcard, parsed[j]? = some vcard → vcard.1 = uid →
      verdict s.timestamps.keys maxContactsPerDevice maxVcardBytesPerDevice (storing s parsed j) uid vcard.2 ≠ .stored) :
    (storing s parsed count).contacts.lookup uid = s.contacts.lookup uid := by
  induction count with
  | zero => rfl
  | succ count ih =>
    have before := ih fun j earlier => idle j (by omega)
    cases here : parsed[count]? with
    | none => rw [storing_past_end s parsed here, before]
    | some vcard =>
      rw [storing_succ s parsed here]
      by_cases stored : verdict s.timestamps.keys maxContactsPerDevice maxVcardBytesPerDevice (storing s parsed count) vcard.1
          vcard.2 = .stored
      · have other : uid ≠ vcard.1 := by
          intro same
          rw [← same] at stored
          exact idle count (by omega) vcard here same.symm stored
        simp only [storeVcard, stored]
        rw [AList.lookup_insert_ne other, before]
      · rw [storeVcard_refused stored, before]

theorem takeVcards_timestamps (s : DeviceContacts) (parsed : List (String × Contact)) :
    (takeVcards s parsed).timestamps = s.timestamps := by
  have run (count : Nat) : (storing s parsed count).timestamps = s.timestamps := by
    induction count with
    | zero => rfl
    | succ count ih =>
      cases here : parsed[count]? with
      | none => rw [storing_past_end s parsed here, ih]
      | some vcard => rw [storing_succ s parsed here, storeVcard_timestamps, ih]
  rw [takeVcards_eq, run]

variable (text) in
/-- What a packet can do to what is kept of a contact. -/
theorem received_cases (s : DeviceContacts) (packet : Packet) (uid : String) :
    (received text s packet = s ∧ reports text packet uid = none ∧ stores text s packet uid = false) ∨
    (∃ reported, readPacket text packet = some (.report reported) ∧ stores text s packet uid = false ∧
      (received text s packet).timestamps = reported ∧ reports text packet uid = reported.lookup uid ∧
      (received text s packet).contacts.lookup uid =
        (s.contacts.lookup uid).filter fun _ => (reported.lookup uid).isSome) ∨
    (reports text packet uid = none ∧ (received text s packet).timestamps = s.timestamps ∧
      (stores text s packet uid = false → (received text s packet).contacts.lookup uid = s.contacts.lookup uid)) := by
  cases read : readPacket text packet with
  | none => exact .inl ⟨by rw [received, read], by rw [reports, read], by rw [stores, read]⟩
  | some content =>
    cases content with
    | report reported =>
      refine .inr (.inl ⟨reported, rfl, by rw [stores, read], by rw [received, read]; rfl, by rw [reports, read], ?_⟩)
      rw [received, read]
      exact Table.lookup_retain ..
    | vcards parsed =>
      refine .inr (.inr ⟨by rw [reports, read], ?_, fun idle => ?_⟩)
      · rw [received, read]
        exact takeVcards_timestamps s parsed
      · rw [received, read]
        show (takeVcards s parsed).contacts.lookup uid = _
        rw [takeVcards_eq]
        refine storing_contacts s parsed parsed.length fun j earlier vcard here same stored => ?_
        rw [stores, read] at idle
        have none_stored := List.any_eq_false.mp idle j (List.mem_range.mpr earlier)
        rw [here] at none_stored
        simp [same, stored] at none_stored

/-- A contact that is kept after a packet that stores nothing was kept before,
under the timestamp of that packet if it reports one. -/
theorem kept_before {s : DeviceContacts} {packet : Packet} (idle : stores text s packet uid = false)
    (kept : (received text s packet).contacts.lookup uid ≠ none) :
    s.contacts.lookup uid ≠ none ∧
      (received text s packet).timestamps.lookup uid = (reports text packet uid).or (s.timestamps.lookup uid) := by
  rcases received_cases text s packet uid with ⟨same, silent, -⟩ | ⟨reported, -, -, after, here, filtered⟩ |
    ⟨silent, after, unchanged⟩
  · rw [same] at kept
    rw [same, silent, Option.none_or]
    exact ⟨kept, rfl⟩
  · rw [filtered] at kept
    obtain ⟨contact, present⟩ := Option.ne_none_iff_exists'.mp kept
    obtain ⟨before, listed⟩ := Option.filter_eq_some_iff.mp present
    obtain ⟨timestamp, listed⟩ := Option.isSome_iff_exists.mp listed
    rw [after, here, listed, Option.some_or, before]
    exact ⟨nofun, rfl⟩
  · rw [unchanged idle] at kept
    rw [after, silent, Option.none_or]
    exact ⟨kept, rfl⟩

/-- While no change is awaited, the vCard that is kept was stored under the timestamp in force. -/
theorem settled {k : Nat} (kept : (during text packets k).contacts.lookup uid ≠ none)
    (quiet : awaited text packets uid k = false) :
    receivedUnder text packets uid k = (during text packets k).timestamps.lookup uid := by
  induction k with
  | zero => exact absurd rfl kept
  | succ k ih =>
    cases here : packets[k]? with
    | none =>
      rw [during_past_end here] at kept ⊢
      rw [awaited, here] at quiet
      rw [receivedUnder, here]
      exact ih kept quiet
    | some packet =>
      rw [during_succ here] at kept ⊢
      rw [awaited_succ here] at quiet
      rw [receivedUnder_succ here]
      cases stored : stores text (during text packets k) packet uid with
      | true =>
        rw [if_pos rfl]
        rcases received_cases text (during text packets k) packet uid with ⟨same, -, -⟩ | ⟨_, -, idle, -⟩ | ⟨-, after, -⟩
        · rw [same]
        · rw [stored] at idle
          cases idle
        · rw [after]
      | false =>
        rw [stored] at quiet
        obtain ⟨before, unchanged⟩ := Bool.or_eq_false_iff.mp quiet
        obtain ⟨keptBefore, after⟩ := kept_before stored kept
        rw [if_neg Bool.false_ne_true, ih keptBefore before, after]
        cases report : reports text packet uid with
        | none => rfl
        | some timestamp =>
          rw [report] at unchanged
          have same : some timestamp = (during text packets k).timestamps.lookup uid := by simpa using unchanged
          exact same.symm

theorem nothing_while_awaited {j k : Nat} (still : ∀ i, j < i → i ≤ k → awaited text packets uid i = true) :
    NothingStored text packets uid j k := by
  intro i packet from_ below here
  have later := still (i + 1) (by omega) (by omega)
  rw [awaited_succ here] at later
  cases stored : stores text (during text packets i) packet uid with
  | false => rfl
  | true =>
    rw [stored, if_pos rfl] at later
    cases later

/-- A change that is awaited was reported by a packet since which nothing was stored. -/
theorem awaited_since {k : Nat} (waits : awaited text packets uid k = true) :
    ∃ j < k, ∃ packet timestamp, packets[j]? = some packet ∧ reports text packet uid = some timestamp ∧
      Stale text packets uid j timestamp ∧ NothingStored text packets uid j k := by
  have onset := History.exists_onset (P := fun k => awaited text packets uid k = true) (by simp [awaited]) waits
  obtain ⟨j, earlier, quiet, still⟩ := onset
  have begun := still (j + 1) (by omega) (by omega)
  cases here : packets[j]? with
  | none =>
    rw [awaited, here] at begun
    exact absurd begun quiet
  | some packet =>
    rw [awaited_succ here] at begun
    split_ifs at begun
    rcases Bool.or_eq_true_iff.mp begun with before | changed
    · exact absurd before quiet
    · obtain ⟨reported, other⟩ := Bool.and_eq_true_iff.mp changed
      obtain ⟨timestamp, report⟩ := Option.isSome_iff_exists.mp reported
      refine ⟨j, earlier, packet, timestamp, here, report, ?_, nothing_while_awaited still⟩
      by_cases kept : (during text packets j).contacts.lookup uid = none
      · exact .inl kept
      · refine .inr ?_
        rw [settled kept (Bool.eq_false_iff.mpr quiet)]
        rw [report] at other
        have apart : some timestamp ≠ (during text packets j).timestamps.lookup uid := by simpa using other
        exact apart.symm

/-- A report of a stale vCard is awaited until a vCard is stored. -/
theorem awaited_of_stale {j k : Nat} (earlier : j < k) {packet : Packet} {timestamp : String} (here : packets[j]? = some packet)
    (report : reports text packet uid = some timestamp) (stale : Stale text packets uid j timestamp)
    (idle : NothingStored text packets uid j k) (kept : (during text packets k).contacts.lookup uid ≠ none) :
    awaited text packets uid k = true := by
  induction k with
  | zero => omega
  | succ k ih =>
    have idleBefore : NothingStored text packets uid j k := fun i packet from_ below => idle i packet from_ (by omega)
    cases there : packets[k]? with
    | none =>
      have apart : j ≠ k := by
        rintro rfl
        rw [here] at there
        cases there
      rw [during_past_end there] at kept
      rw [awaited, there]
      exact ih (by omega) idleBefore kept
    | some last =>
      have quiet := idle k last (by omega) (by omega) there
      rw [during_succ there] at kept
      obtain ⟨keptBefore, -⟩ := kept_before quiet kept
      rw [awaited_succ there, quiet, if_neg Bool.false_ne_true, Bool.or_eq_true]
      by_cases waits : awaited text packets uid k = true
      · exact .inl waits
      · have same : j = k := by
          by_contra apart
          exact waits (ih (by omega) idleBefore keptBefore)
        subst same
        obtain rfl : packet = last := Option.some.inj (here.symm.trans there)
        have under := settled keptBefore (Bool.eq_false_iff.mpr waits)
        rcases stale with missing | other
        · exact absurd missing keptBefore
        · rw [under] at other
          refine .inr ?_
          have apart : some timestamp ≠ (during text packets j).timestamps.lookup uid := other.symm
          rw [report]
          simpa using apart

theorem fetched_until_stored_iff : FetchedUntilStored text packets uid ↔ ChangesAnswered text packets uid := by
  constructor
  · intro fetched k packet timestamp here report same kept
    by_contra waits
    obtain ⟨j, earlier, first, changed, there, begun, stale, idle⟩ := awaited_since (Bool.not_eq_false _ ▸ waits)
    have asked := fetched j first changed there begun stale k (by omega) idle packet timestamp here report
    rcases (mem_requested report).mp asked with other | missing
    · exact other same
    · exact kept missing
  · intro answered j packet timestamp here report stale k from_ idle packet' timestamp' there report'
    rw [mem_requested report']
    by_contra silent
    obtain ⟨same, kept⟩ := not_or.mp silent
    have same := not_not.mp same
    have quiet := answered k packet' timestamp' there report' same kept
    rcases Nat.eq_or_lt_of_le from_ with rfl | earlier
    · obtain rfl : packet = packet' := Option.some.inj (here.symm.trans there)
      obtain rfl : timestamp = timestamp' := Option.some.inj (report.symm.trans report')
      rcases stale with missing | other
      · exact kept missing
      · exact other ((settled kept quiet).trans same)
    · rw [awaited_of_stale earlier here report stale idle kept] at quiet
      cases quiet

end Connection

/-- The phone changes a contact, and the answer to the request is lost. -/
def lostAnswer : List Packet :=
  [reportPacket [("1", "5")], vcardsPacket [("1", "FN:Ann")], reportPacket [("1", "6")], reportPacket [("1", "6")]]

/-- The changed contact is not asked for again. -/
theorem change_forgotten : ¬ ∀ (packets : List Packet) (uid : String), FetchedUntilStored (fun _ => "") packets uid := by
  intro fetched
  have changed : Stale (fun _ => "") lostAnswer "1" 2 "6" := .inr (by decide +kernel)
  have lost : NothingStored (fun _ => "") lostAnswer "1" 2 3 := by
    intro i packet from_ below here
    obtain rfl : i = 2 := by omega
    obtain rfl := Option.some.inj here
    decide +kernel
  have asked := fetched lostAnswer "1" 2 (reportPacket [("1", "6")]) "6" rfl (by decide +kernel) changed 3 (by omega) lost
    (reportPacket [("1", "6")]) "6" rfl (by decide +kernel)
  exact absurd asked (by decide +kernel)

end Contacts

end RustConnect
