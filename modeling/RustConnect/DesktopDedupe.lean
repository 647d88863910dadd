import RustConnect.Notifications

namespace RustConnect

namespace NotificationEvent

open NotificationPlugin

/-- What an event says of a key. -/
inductive Mention
  | posted (content : String × String × String)
  | ended
  deriving DecidableEq

/-- A packet posts or cancels the notification of its id; a dismissal ends it. -/
def mention (key : NotificationKey) : NotificationEvent → Option Mention
  | .packet deviceId received _ =>
    match readPacket received with
    | some body =>
      if (deviceId, body.ident) = key then some (if body.cancels then .ended else .posted body.content) else none
    | none => none
  | .dismiss deviceId id => if (deviceId, id) = key then some .ended else none
  | .disconnected _ _ => none
  | .advance _ => none

end NotificationEvent

open NotificationEvent NotificationPlugin

/-- The last of the first `k` events that says anything of the key posts this content. -/
def LastPosted (events : List NotificationEvent) (k : Nat) (key : NotificationKey) (content : String × String × String) : Prop :=
  ∃ j < k, (events[j]?.bind (mention key)) = some (.posted content) ∧
    ∀ i, j < i → i < k → (events[i]?.bind (mention key)) = none

namespace NotificationPlugin

variable {σ : Type}

/-- A live entry beside which a shadow entry of another content has not expired. -/
def Outlived (now : Nat) (key : NotificationKey) (s : NotificationPlugin σ) : Prop :=
  ∃ live shadow, s.dedupe.lookup key = some live ∧ s.dedupeShadow.lookup key = some shadow ∧
    shadow.expires > now ∧ shadow.signature ≠ live.signature

theorem recalled_congr {s t : NotificationPlugin σ} {key : NotificationKey}
    (live : (t.dedupe.lookup key).map DedupeEntry.signature = (s.dedupe.lookup key).map DedupeEntry.signature)
    (shadow : t.dedupeShadow.lookup key = s.dedupeShadow.lookup key) (now : Nat) :
    recalled now key t = recalled now key s := by
  rw [recalled, live, shadow, recalled]

/-- As time goes on, nothing is recalled that was not recalled before. -/
theorem recalled_later {s : NotificationPlugin σ} {key : NotificationKey} {now later : Nat} (after : now ≤ later)
    {signature : σ} (remembered : recalled later key s = some signature) : recalled now key s = some signature := by
  rw [recalled, Option.or_eq_some_iff] at remembered ⊢
  refine remembered.imp id fun kept => ⟨kept.1, ?_⟩
  obtain ⟨entry, found, same⟩ := Option.map_eq_some_iff.mp kept.2
  obtain ⟨here, fresh⟩ := Option.filter_eq_some_iff.mp found
  refine Option.map_eq_some_iff.mpr ⟨entry, Option.filter_eq_some_iff.mpr ⟨here, ?_⟩, same⟩
  have beyond : later < entry.expires := of_decide_eq_true fresh
  exact decide_eq_true (Nat.lt_of_le_of_lt after beyond)

theorem recalled_take (now : Nat) (deviceId : DeviceId) (id : String) (s : NotificationPlugin σ) (key : NotificationKey) :
    recalled now key (dedupeTake deviceId id s).2 = if key = (deviceId, id) then none else recalled now key s := by
  rw [recalled, dedupeTake, Table.lookup_erase_of, Table.lookup_erase_of]
  split_ifs <;> rfl

theorem onDisconnected_dedupe (now pause : Nat) (deviceId : DeviceId) (s : NotificationPlugin σ) (key : NotificationKey) :
    (onDisconnected now pause deviceId s).dedupe.lookup key = if key.1 = deviceId then none else s.dedupe.lookup key := by
  show (s.dedupe.retain fun key _ => key.1 ≠ deviceId).lookup key = _
  rw [Table.lookup_retain]
  split_ifs with same <;> cases s.dedupe.lookup key <;> simp [Option.filter_some, same]

theorem onDisconnected_shadow (now pause : Nat) (deviceId : DeviceId) (s : NotificationPlugin σ) (key : NotificationKey) :
    ∃ expires, (onDisconnected now pause deviceId s).dedupeShadow.lookup key =
      (if key.1 = deviceId then (s.dedupe.lookup key).map fun live => ⟨live.signature, live.replacesId, expires⟩ else none).or
        ((s.dedupeShadow.lookup key).filter fun entry => entry.expires > now + pause) := by
  refine ⟨now + dedupeShadowTtl, ?_⟩
  have distinct : (s.dedupe.entries.filter fun entry => entry.1.1 = deviceId).NodupKeys :=
    s.dedupe.nodupKeys.sublist List.filter_sublist
  have collected : List.dlookup key (s.dedupe.entries.filter fun entry => entry.1.1 = deviceId) =
      (s.dedupe.lookup key).filter fun _ => key.1 = deviceId :=
    Table.dlookup_filter (fun key _ => key.1 = deviceId) key s.dedupe.entries s.dedupe.nodupKeys
  rw [onDisconnected, Table.lookup_foldl_insert (fun live : DedupeEntry σ => (⟨live.signature, live.replacesId, _⟩ : ShadowEntry σ))
    key _ distinct, collected, Table.lookup_retain]
  congr 1
  split_ifs with same <;> cases s.dedupe.lookup key <;> simp [Option.filter_some, same]

/-- What is recalled after a disconnection was recalled before it. -/
theorem recalled_onDisconnected {now pause : Nat} {deviceId : DeviceId} {s : NotificationPlugin σ} {key : NotificationKey}
    {signature : σ} (remembered : recalled (now + pause) key (onDisconnected now pause deviceId s) = some signature) :
    recalled now key s = some signature := by
  refine recalled_later (Nat.le_add_right now pause) ?_
  obtain ⟨expires, shadow⟩ := onDisconnected_shadow now pause deviceId s key
  rw [recalled, onDisconnected_dedupe, shadow] at remembered
  rw [recalled]
  cases live : s.dedupe.lookup key with
  | none =>
    simp only [live, Option.map_none, ite_self, Option.none_or, Option.filter_filter, Bool.and_self] at remembered ⊢
    exact remembered
  | some entry =>
    by_cases same : key.1 = deviceId
    · simp only [live, if_pos same, Option.map_none, Option.none_or, Option.map_some, Option.some_or, Option.filter_some] at remembered ⊢
      split at remembered
      · exact remembered
      · cases remembered
    · simpa only [live, if_neg same, Option.map_some, Option.some_or] using remembered

theorem not_mem_evicted (entry : NotificationEntry) (history : List NotificationEntry) : entry.key ∉ evicted entry history := by
  by_cases blank : entry.id = ""
  · intro member
    exact absurd blank (of_decide_eq_true (List.mem_filter.mp member).2)
  · have shape : recorded entry history = without entry.deviceId entry.id history ++ [entry] := by rw [recorded, if_neg blank]
    have bound : excess (recorded entry history) ≤ (without entry.deviceId entry.id history).length := by
      rw [excess, shape, List.length_append, List.length_singleton, maxNotificationHistory]
      omega
    rw [evicted, shape, List.take_append_of_le_length (by rw [← shape]; exact bound)]
    intro member
    have given : entry.key ∈ keysOf (without entry.deviceId entry.id history) :=
      (((List.take_sublist _ _).map NotificationEntry.key).filter _).subset member
    rw [keysOf_without] at given
    exact absurd rfl (of_decide_eq_true (List.mem_filter.mp given).2)

theorem lookup_remember (entry : NotificationEntry) (s : NotificationPlugin σ) (key : NotificationKey) :
    (remember entry s).dedupe.lookup key = if key ∈ evicted entry s.history then none else s.dedupe.lookup key := by
  have erased := Table.lookup_foldl_erase key (evicted entry s.history) s.dedupe
  by_cases given : key ∈ evicted entry s.history
  · rw [if_pos given] at erased ⊢
    exact erased
  · rw [if_neg given] at erased ⊢
    exact erased

variable [DecidableEq σ] (signature : String × String × String → σ)

/-- The notification that is handled is recalled by what it shows. -/
theorem recalled_handled (now : Nat) (deviceId : DeviceId) {body : NotificationBody} (desktop : Desktop)
    (s : NotificationPlugin σ) (named : body.ident ≠ "") :
    recalled now (deviceId, body.ident) (handleNotification signature now deviceId body desktop s).plugin =
      some (signature body.content) := by
  obtain ⟨posted, result, -, signed, -⟩ := handleNotification_spec signature now deviceId body desktop s
  have kept : (deviceId, body.ident) ∉ evicted (entryOf deviceId body desktop) posted.history :=
    not_mem_evicted (entryOf deviceId body desktop) posted.history
  rw [result, recalled, lookup_remember, if_neg kept, signed, if_pos ⟨named, rfl⟩]
  rfl

/-- Handling another notification brings nothing back, unless it gives up a live
entry that a shadow entry of another content outlives. -/
theorem recalled_beside {now : Nat} {deviceId : DeviceId} {body : NotificationBody} {desktop : Desktop}
    {s : NotificationPlugin σ} {key : NotificationKey} {sign : σ} (other : key ≠ (deviceId, body.ident))
    (steady : key ∈ evicted (entryOf deviceId body desktop) s.history → ¬Outlived now key s)
    (remembered : recalled now key (handleNotification signature now deviceId body desktop s).plugin = some sign) :
    recalled now key s = some sign := by
  obtain ⟨posted, result, history, signed, shadow⟩ := handleNotification_spec signature now deviceId body desktop s
  have live := signed key
  rw [if_neg fun both => other both.2] at live
  have unchanged : (remember (entryOf deviceId body desktop) posted).dedupeShadow.lookup key = s.dedupeShadow.lookup key :=
    shadow key other
  rw [result] at remembered
  by_cases given : key ∈ evicted (entryOf deviceId body desktop) s.history
  · rw [recalled, lookup_remember, history, if_pos given, unchanged, Option.map_none, Option.none_or] at remembered
    cases held : s.dedupe.lookup key with
    | none => rw [recalled, held, Option.map_none, Option.none_or, remembered]
    | some entry =>
      obtain ⟨outliving, found, same⟩ := Option.map_eq_some_iff.mp remembered
      obtain ⟨here, fresh⟩ := Option.filter_eq_some_iff.mp found
      have alike : outliving.signature = entry.signature := by
        by_contra apart
        exact steady given ⟨entry, outliving, held, here, of_decide_eq_true fresh, apart⟩
      rw [recalled, held, Option.map_some, Option.some_or, ← alike, same]
  · rwa [recalled_congr (s := s) (by rw [lookup_remember, history, if_neg given, live]) unchanged] at remembered

end NotificationPlugin

namespace Notifications

variable {σ : Type} [DecidableEq σ] (signature : String × String × String → σ)

/-- The notification of the event pushes out of the history one whose live entry
a shadow entry of another content outlives. -/
def GivesUpOutlived (s : Notifications σ) : NotificationEvent → Prop
  | .packet deviceId received desktop =>
    ∃ body key, readPacket received = some body ∧ body.cancels = false ∧
      key ∈ evicted (entryOf deviceId body desktop) s.plugin.history ∧ Outlived s.now key s.plugin
  | _ => False

/-- `dedupe_track` answers that a notification is a repeat only when the last
notification of its key showed the same and has not been ended since. -/
def SuppressesRepeatsOnly (events : List NotificationEvent) : Prop :=
  ∀ k deviceId received desktop body, events[k]? = some (.packet deviceId received desktop) →
    readPacket received = some body → body.cancels = false → body.ident ≠ "" →
    (dedupeTrack (during signature events k).now deviceId body.ident (signature body.content)
      (during signature events k).plugin).1 = .suppress →
    LastPosted events k (deviceId, body.ident) body.content

variable {signature}

/-- What is recalled after an event was posted by it, or recalled before it. -/
theorem recalled_step {s : Notifications σ} {event : NotificationEvent} (steady : ¬GivesUpOutlived s event) {key : NotificationKey}
    (named : key.2 ≠ "") {sign : σ}
    (remembered : recalled (step signature s event).now key (step signature s event).plugin = some sign) :
    (∃ content, event.mention key = some (.posted content) ∧ signature content = sign) ∨
      (event.mention key = none ∧ recalled s.now key s.plugin = some sign) := by
  have forgotten (deviceId : DeviceId) (id : String) (history : List NotificationEntry)
      (left : recalled s.now key (dedupeTake deviceId id { s.plugin with history := history }).2 = some sign) :
      (deviceId, id) ≠ key ∧ recalled s.now key s.plugin = some sign := by
    rw [recalled_take] at left
    split_ifs at left with same
    exact ⟨fun back => same back.symm, left⟩
  cases event with
  | packet deviceId received desktop =>
    rw [step, handlePacket] at remembered
    rw [mention]
    cases read : readPacket received with
    | none => exact .inr ⟨rfl, by simpa only [read] using remembered⟩
    | some body =>
      simp only [read] at remembered ⊢
      cases cancels : body.cancels with
      | true =>
        rw [if_pos cancels] at remembered
        obtain ⟨other, before⟩ := forgotten deviceId body.ident _ remembered
        exact .inr ⟨if_neg other, before⟩
      | false =>
        rw [if_neg (by rw [cancels]; exact Bool.false_ne_true)] at remembered
        by_cases here : (deviceId, body.ident) = key
        · rw [if_pos here]
          subst here
          have handled := recalled_handled signature s.now deviceId desktop s.plugin named
          exact .inl ⟨body.content, rfl, Option.some.inj (handled.symm.trans remembered)⟩
        · refine .inr ⟨if_neg here, recalled_beside signature (fun back => here back.symm) (fun given outlived => ?_) remembered⟩
          exact steady ⟨body, key, read, cancels, given, outlived⟩
  | dismiss deviceId id =>
    obtain ⟨other, before⟩ := forgotten deviceId id _ remembered
    exact .inr ⟨if_neg other, before⟩
  | disconnected deviceId pause => exact .inr ⟨rfl, recalled_onDisconnected remembered⟩
  | advance nanoseconds => exact .inr ⟨rfl, recalled_later (Nat.le_add_right _ _) remembered⟩

/-- What is recalled was posted last. -/
theorem recalled_posted {events : List NotificationEvent}
    (steady : ∀ k event, events[k]? = some event → ¬GivesUpOutlived (during signature events k) event)
    (key : NotificationKey) (named : key.2 ≠ "") (k : Nat) {sign : σ}
    (remembered : recalled (during signature events k).now key (during signature events k).plugin = some sign) :
    ∃ content, LastPosted events k key content ∧ signature content = sign := by
  induction k with
  | zero => cases remembered
  | succ k ih =>
    have extended {content : String × String × String} (last : LastPosted events k key content)
        (silent : (events[k]?.bind (mention key)) = none) : LastPosted events (k + 1) key content := by
      obtain ⟨j, before, posted, since⟩ := last
      refine ⟨j, by omega, posted, fun i after bound => ?_⟩
      rcases Nat.lt_succ_iff_lt_or_eq.mp bound with earlier | rfl
      · exact since i after earlier
      · exact silent
    cases here : events[k]? with
    | none =>
      have same : during signature events (k + 1) = during signature events k := History.stateAt_past_end here
      rw [same] at remembered
      obtain ⟨content, last, signed⟩ := ih remembered
      exact ⟨content, extended last (by rw [here]; rfl), signed⟩
    | some event =>
      have next : during signature events (k + 1) = step signature (during signature events k) event := History.stateAt_succ here
      rw [next] at remembered
      rcases recalled_step (steady k event here) named remembered with ⟨content, posted, signed⟩ | ⟨silent, before⟩
      · refine ⟨content, ⟨k, Nat.lt_succ_self k, by rw [here]; exact posted, fun i after bound => ?_⟩, signed⟩
        omega
      · obtain ⟨content, last, signed⟩ := ih before
        exact ⟨content, extended last (by rw [here]; exact silent), signed⟩

/-- Unless a live entry is given up while an older shadow entry of its key
remains, only repeats are suppressed. -/
theorem suppressed_repeats (injective : Function.Injective signature) (events : List NotificationEvent)
    (steady : ∀ k event, events[k]? = some event → ¬GivesUpOutlived (during signature events k) event) :
    SuppressesRepeatsOnly signature events := by
  intro k deviceId received desktop body here read cancels named suppressed
  have remembered := (dedupeTrack_spec _ deviceId body.ident (signature body.content) _).repeated.mp suppressed
  obtain ⟨content, last, signed⟩ := recalled_posted steady (deviceId, body.ident) named k remembered
  rwa [injective signed] at last

def titled (id title : String) : Packet :=
  .new 0 "kdeconnect.notification" (.obj [("id", .str id), ("title", .str title)])

def popupShown : Desktop := ⟨true, some 7, false⟩

/-- The phone posts a notification, reconnects and changes it; a hundred
notifications without an id follow, and the notification changes back. -/
def changedBack : List NotificationEvent :=
  [.packet "phone" (titled "chat" "one") popupShown, .disconnected "phone" 0, .packet "phone" (titled "chat" "two") popupShown] ++
    List.replicate 100 (.packet "phone" (titled "" "") popupShown) ++ [.packet "phone" (titled "chat" "one") popupShown]

/-- The notification that changed back is swallowed, though the last one shown was another. -/
theorem changed_back_swallowed :
    ¬∀ signature : String × String × String → String × String × String, Function.Injective signature →
      ∀ events, SuppressesRepeatsOnly signature events := by
  intro all
  obtain ⟨body, read⟩ : ∃ body, readPacket (titled "chat" "one") = some body := ⟨_, rfl⟩
  have content : body.content = ("unknown", "one", "") := by cases read; rfl
  have ident : body.ident = "chat" := by cases read; rfl
  have cancels : body.cancels = false := by cases read; rfl
  have suppressed : (dedupeTrack (during id changedBack 103).now "phone" "chat" ("unknown", "one", "")
      (during id changedBack 103).plugin).1 = .suppress := by decide +kernel
  have last := all id Function.injective_id changedBack 103 "phone" _ popupShown body rfl read cancels
    (by rw [ident]; decide) (by rw [ident, content]; exact suppressed)
  rw [ident, content] at last
  obtain ⟨j, before, posted, since⟩ := last
  have first : ∀ j < 103, (changedBack[j]?.bind (mention ("phone", "chat"))) = some (.posted ("unknown", "one", "")) → j = 0 := by
    decide +kernel
  have between := since 2 (by have := first j before posted; omega) (by omega)
  exact absurd between (by decide +kernel)

/-- The same notification again after the phone has come back is suppressed, and it is a repeat. -/
theorem resent_after_reconnect :
    SuppressesRepeatsOnly (σ := String × String × String) id
      [.packet "phone" (titled "chat" "one") popupShown, .disconnected "phone" 0, .packet "phone" (titled "chat" "one") popupShown] := by
  refine suppressed_repeats Function.injective_id _ fun k event here => ?_
  have unharmed (s : Notifications (String × String × String)) (title : String) (few : s.plugin.history.length < 100) :
      ¬GivesUpOutlived s (.packet "phone" (titled "chat" title) popupShown) := by
    rintro ⟨body, key, read, cancels, given, outlived⟩
    have size := length_recorded_le (entryOf "phone" body popupShown) s.plugin.history
    rw [evicted, show excess (recorded (entryOf "phone" body popupShown) s.plugin.history) = 0 by
      rw [excess, maxNotificationHistory]; omega] at given
    exact absurd given List.not_mem_nil
  rcases k with _ | _ | _ | k
  · cases here
    exact unharmed _ "one" (by decide)
  · cases here
    exact id
  · cases here
    exact unharmed _ "one" (by decide +kernel)
  · cases here

end Notifications

end RustConnect
