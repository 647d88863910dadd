import RustConnect.Base.Runs
import RustConnect.Base.Table
import RustConnect.JsonFields

namespace RustConnect

namespace PauseMusic

/-- `is_cancel`. -/
def isCancel (body : Json) : Bool :=
  match body.get "isCancel" with
  | some (.bool b) => b
  | some (.str s) => s.toList.map Char.toLower == ['t', 'r', 'u', 'e']
  | _ => false

/-- The events that `handle_packet` looks at. -/
def isTrigger (body : Json) : Bool :=
  let event := ((body.get "event").bind Json.asStr).getD ""
  event == "ringing" || event == "talking"

/-- Where a call of `handle_packet` has got to: it waits for the lock or for the session bus. -/
inductive CallPhase
  | locking
  | pausing
  | resuming
  | returned
  deriving DecidableEq, Repr

structure TelephonyCall where
  deviceId : DeviceId
  cancels : Bool
  phase : CallPhase
  deriving DecidableEq, Repr

inductive PauseNote
  | began (call : Nat) (deviceId : DeviceId)
  | paused (call : Nat) (deviceId : DeviceId) (services : List String)
  | resumed (deviceId : DeviceId) (services : List String)
  | disconnected (deviceId : DeviceId)
  deriving DecidableEq, Repr

/-- The plugin with the calls of `handle_packet` that it has seen, and what has happened, newest first. -/
structure Plugin where
  paused : Table DeviceId (List String)
  callLock : Option Nat
  calls : List TelephonyCall
  log : List PauseNote

def new : Plugin := ⟨∅, none, [], []⟩

/-- What a call or a disconnect does between two awaits. A call that gets the lock also reads whether
there is a backend. -/
inductive Event
  | handlePacket (deviceId : DeviceId) (body : Json)
  | locks (call : Nat) (backend : Bool)
  | pausePlaying (call : Nat) (acted : List String)
  | resumes (call : Nat)
  | onDisconnected (deviceId : DeviceId)

/-- A call goes on to its next await. -/
def Plugin.goto (plugin : Plugin) (index : Nat) (call : TelephonyCall) (phase : CallPhase) : Plugin :=
  { plugin with calls := plugin.calls.set index { call with phase := phase } }

/-- A call returns, and its guard is dropped. -/
def Plugin.finish (plugin : Plugin) (index : Nat) (call : TelephonyCall) : Plugin :=
  { plugin.goto index call .returned with callLock := none }

/-- The services that were acted on join those that are there. -/
def record (entry acted : List String) : List String :=
  acted.foldl (fun entry service => if service ∈ entry then entry else entry ++ [service]) entry

/-- What a call does when it gets the lock. The mute action is off. -/
def Plugin.lock (plugin : Plugin) (index : Nat) (call : TelephonyCall) (backend : Bool) : Plugin :=
  let plugin := { plugin with callLock := some index }
  if call.cancels then
    let services := (plugin.paused.lookup call.deviceId).getD []
    let plugin := { plugin with paused := plugin.paused.erase call.deviceId }
    if services.isEmpty then plugin.finish index call
    else if backend then
      { plugin.goto index call .resuming with log := .resumed call.deviceId services :: plugin.log }
    else plugin.finish index call
  else if backend then plugin.goto index call .pausing
  else plugin.finish index call

/-- The session bus has paused what was playing. -/
def Plugin.pause (plugin : Plugin) (index : Nat) (call : TelephonyCall) (acted : List String) : Plugin :=
  if acted.isEmpty then plugin.finish index call
  else
    let entry := (plugin.paused.lookup call.deviceId).getD []
    { plugin.finish index call with
      paused := plugin.paused.insert call.deviceId (record entry acted)
      log := .paused index call.deviceId acted :: plugin.log }

def move (plugin : Plugin) : Event → Option Plugin
  | .handlePacket deviceId body =>
    if isTrigger body then
      some { plugin with
        calls := plugin.calls ++ [⟨deviceId, isCancel body, .locking⟩]
        log := .began plugin.calls.length deviceId :: plugin.log }
    else some plugin
  | .locks index backend =>
    match plugin.calls[index]? with
    | some call => if call.phase = .locking ∧ plugin.callLock = none then some (plugin.lock index call backend) else none
    | none => none
  | .pausePlaying index acted =>
    match plugin.calls[index]? with
    | some call => if call.phase = .pausing then some (plugin.pause index call acted) else none
    | none => none
  | .resumes index =>
    match plugin.calls[index]? with
    | some call => if call.phase = .resuming then some (plugin.finish index call) else none
    | none => none
  | .onDisconnected deviceId =>
    some { plugin with paused := plugin.paused.erase deviceId, log := .disconnected deviceId :: plugin.log }

/-- The services that are recorded for a device. -/
def Plugin.pausedFor (plugin : Plugin) (d : DeviceId) : List String := (plugin.paused.lookup d).getD []

/-- What has happened since a device was last disconnected, newest first. -/
def sinceDisconnect (d : DeviceId) (log : List PauseNote) : List PauseNote := log.takeWhile (· ≠ .disconnected d)

/-- A service was paused by a call whose handling began after the device was last disconnected. -/
def Fresh (d : DeviceId) (service : String) (log : List PauseNote) : Prop :=
  ∃ call services, .began call d ∈ sinceDisconnect d log ∧ .paused call d services ∈ sinceDisconnect d log ∧
    service ∈ services

/-- The start of a call is still handled. -/
def Plugin.Starting (plugin : Plugin) (d : DeviceId) : Prop :=
  ∃ call ∈ plugin.calls, call.deviceId = d ∧ call.cancels = false ∧ call.phase ≠ .returned

/-- A device is disconnected while none of its calls is being started. -/
def Undisturbed (plugin : Plugin) : Event → Prop
  | .onDisconnected d => ¬plugin.Starting d
  | _ => True

/-- A service is not resumed again for a device before another pause of it has been recorded for the device. -/
def ResumedOnce (log : List PauseNote) : Prop :=
  ∀ newest between oldest d again once service,
    log = newest ++ .resumed d again :: (between ++ .resumed d once :: oldest) → service ∈ again → service ∈ once →
      ∃ call services, .paused call d services ∈ between ∧ service ∈ services

variable {plugin later : Plugin} {event : Event} {d : DeviceId} {service : String} {log : List PauseNote} {note : PauseNote}

theorem mem_record {entry acted : List String} : service ∈ record entry acted ↔ service ∈ entry ∨ service ∈ acted := by
  induction acted generalizing entry with
  | nil => simp [record]
  | cons first acted ih =>
    rw [record, List.foldl_cons, ← record, ih]
    by_cases known : first ∈ entry
    · rw [if_pos known, List.mem_cons]
      constructor
      · exact fun either => either.imp_right .inr
      · rintro (there | rfl | acted)
        · exact .inl there
        · exact .inl known
        · exact .inr acted
    · rw [if_neg known, List.mem_append, List.mem_singleton, List.mem_cons, or_assoc]

/-- What an event can do to the plugin. -/
theorem move_cases (moved : move plugin event = some later) :
    later = plugin ∨
    (∃ d cancels, later = { plugin with
      calls := plugin.calls ++ [⟨d, cancels, .locking⟩], log := .began plugin.calls.length d :: plugin.log }) ∨
    (∃ i call phase lock paused, plugin.calls[i]? = some call ∧ call.phase ≠ .returned ∧
      (phase = .pausing → call.cancels = false) ∧ (paused = plugin.paused ∨ paused = plugin.paused.erase call.deviceId) ∧
      later = ⟨paused, lock, plugin.calls.set i { call with phase := phase }, plugin.log⟩) ∨
    (∃ i call lock, plugin.calls[i]? = some call ∧ call.phase ≠ .returned ∧
      later = ⟨plugin.paused.erase call.deviceId, lock, plugin.calls.set i { call with phase := .resuming },
        .resumed call.deviceId (plugin.pausedFor call.deviceId) :: plugin.log⟩) ∨
    (∃ i call acted, plugin.calls[i]? = some call ∧ call.phase = .pausing ∧
      later = ⟨plugin.paused.insert call.deviceId (record (plugin.pausedFor call.deviceId) acted), none,
        plugin.calls.set i { call with phase := .returned }, .paused i call.deviceId acted :: plugin.log⟩) ∨
    ∃ d, event = .onDisconnected d ∧
      later = { plugin with paused := plugin.paused.erase d, log := .disconnected d :: plugin.log } := by
  cases event with
  | handlePacket d body =>
    simp only [move] at moved
    split at moved
    · exact .inr (.inl ⟨d, isCancel body, (Option.some.inj moved).symm⟩)
    · exact .inl (Option.some.inj moved).symm
  | locks i backend =>
    simp only [move] at moved
    split at moved
    · rename_i call found
      obtain ⟨⟨waits, -⟩, rfl⟩ := Option.ite_none_right_eq_some.mp moved |>.imp_right Option.some.inj
      have unfinished : call.phase ≠ .returned := by simp [waits]
      simp only [Plugin.lock, Plugin.finish, Plugin.goto]
      cases cancels : call.cancels with
      | true =>
        simp only [if_true]
        split
        · exact .inr (.inr (.inl ⟨i, call, .returned, _, _, found, unfinished, (fun same => by cases same), .inr rfl,
            by rw [cancels]⟩))
        · cases backend with
          | true => exact .inr (.inr (.inr (.inl ⟨i, call, _, found, unfinished, by rw [cancels]; rfl⟩)))
          | false =>
            exact .inr (.inr (.inl ⟨i, call, .returned, none, _, found, unfinished, (fun same => by cases same), .inr rfl,
              by simp [cancels]⟩))
      | false =>
        cases backend with
        | true =>
          exact .inr (.inr (.inl ⟨i, call, .pausing, _, _, found, unfinished, fun _ => cancels, .inl rfl,
            by rw [cancels]; rfl⟩))
        | false =>
          exact .inr (.inr (.inl ⟨i, call, .returned, _, _, found, unfinished, (fun same => by cases same), .inl rfl,
            by rw [cancels]; rfl⟩))
    · cases moved
  | pausePlaying i acted =>
    simp only [move] at moved
    split at moved
    · rename_i call found
      obtain ⟨pauses, rfl⟩ := Option.ite_none_right_eq_some.mp moved |>.imp_right Option.some.inj
      have unfinished : call.phase ≠ .returned := by simp [pauses]
      simp only [Plugin.pause, Plugin.finish, Plugin.goto]
      split
      · exact .inr (.inr (.inl ⟨i, call, .returned, _, _, found, unfinished, (fun same => by cases same), .inl rfl, rfl⟩))
      · exact .inr (.inr (.inr (.inr (.inl ⟨i, call, acted, found, pauses, rfl⟩))))
    · cases moved
  | resumes i =>
    simp only [move] at moved
    split at moved
    · rename_i call found
      obtain ⟨resumes, rfl⟩ := Option.ite_none_right_eq_some.mp moved |>.imp_right Option.some.inj
      have unfinished : call.phase ≠ .returned := by simp [resumes]
      exact .inr (.inr (.inl ⟨i, call, .returned, _, _, found, unfinished, (fun same => by cases same), .inl rfl, rfl⟩))
    · cases moved
  | onDisconnected d => exact .inr (.inr (.inr (.inr (.inr ⟨d, rfl, (Option.some.inj moved).symm⟩))))

theorem sinceDisconnect_cons (other : note ≠ .disconnected d) :
    sinceDisconnect d (note :: log) = note :: sinceDisconnect d log := by
  rw [sinceDisconnect, List.takeWhile_cons_of_pos (by simpa using other), sinceDisconnect]

theorem mem_sinceDisconnect_self (other : note ≠ .disconnected d) : note ∈ sinceDisconnect d (note :: log) :=
  sinceDisconnect_cons other ▸ List.mem_cons_self

theorem mem_sinceDisconnect {entry : PauseNote} (member : entry ∈ sinceDisconnect d log) (other : note ≠ .disconnected d) :
    entry ∈ sinceDisconnect d (note :: log) :=
  sinceDisconnect_cons other ▸ List.mem_cons_of_mem note member

theorem Fresh.cons (fresh : Fresh d service log) (other : note ≠ .disconnected d) : Fresh d service (note :: log) := by
  obtain ⟨call, services, began, paused, among⟩ := fresh
  exact ⟨call, services, mem_sinceDisconnect began other, mem_sinceDisconnect paused other, among⟩

theorem mem_pausedFor_erase {paused : Table DeviceId (List String)} {e : DeviceId}
    (recorded : service ∈ ((paused.erase e).lookup d).getD []) : d ≠ e ∧ service ∈ (paused.lookup d).getD [] := by
  rw [Table.lookup_erase_of] at recorded
  split at recorded
  · simp at recorded
  · exact ⟨‹_›, recorded⟩

/-- The calls that may still record something began after their devices were last disconnected. -/
structure Tracked (calls : List TelephonyCall) (log : List PauseNote) : Prop where
  starts : ∀ (i : Nat) (call : TelephonyCall), calls[i]? = some call → call.phase = .pausing → call.cancels = false
  began : ∀ (i : Nat) (call : TelephonyCall), calls[i]? = some call → call.cancels = false → call.phase ≠ .returned →
    .began i call.deviceId ∈ sinceDisconnect call.deviceId log

namespace Tracked

variable {calls : List TelephonyCall} {i : Nat} {call : TelephonyCall}

theorem cons (tracked : Tracked calls log) (other : ∀ d, note ≠ .disconnected d) : Tracked calls (note :: log) :=
  ⟨tracked.starts, fun i call found starts unfinished =>
    mem_sinceDisconnect (tracked.began i call found starts unfinished) (other call.deviceId)⟩

theorem advance (phase : CallPhase) (tracked : Tracked calls log) (found : calls[i]? = some call)
    (unfinished : call.phase ≠ .returned) (pausing : phase = .pausing → call.cancels = false) :
    Tracked (calls.set i { call with phase := phase }) log := by
  have of_set {j : Nat} {other : TelephonyCall} (there : (calls.set i { call with phase := phase })[j]? = some other) :
      i = j ∧ other = { call with phase := phase } ∨ calls[j]? = some other := by
    rw [List.getElem?_set] at there
    split at there
    · split at there
      · exact .inl ⟨‹_›, (Option.some.inj there).symm⟩
      · cases there
    · exact .inr there
  refine ⟨fun j other there pauses => ?_, fun j other there starts open_ => ?_⟩
  · rcases of_set there with ⟨rfl, rfl⟩ | there
    · exact pausing pauses
    · exact tracked.starts j other there pauses
  · rcases of_set there with ⟨rfl, rfl⟩ | there
    · exact tracked.began i call found starts unfinished
    · exact tracked.began j other there starts open_

theorem add {cancels : Bool} (tracked : Tracked calls log) :
    Tracked (calls ++ [⟨d, cancels, .locking⟩]) (.began calls.length d :: log) := by
  have of_append {j : Nat} {other : TelephonyCall} (there : (calls ++ [⟨d, cancels, .locking⟩])[j]? = some other) :
      calls[j]? = some other ∨ j = calls.length ∧ other = ⟨d, cancels, .locking⟩ := by
    rw [List.getElem?_append] at there
    split at there
    · exact .inl there
    · rw [List.getElem?_singleton] at there
      split at there
      · exact .inr ⟨by omega, (Option.some.inj there).symm⟩
      · cases there
  refine ⟨fun j other there pauses => ?_, fun j other there starts open_ => ?_⟩
  · rcases of_append there with there | ⟨rfl, rfl⟩
    · exact tracked.starts j other there pauses
    · cases pauses
  · rcases of_append there with there | ⟨rfl, rfl⟩
    · exact mem_sinceDisconnect (tracked.began j other there starts open_) (by simp)
    · exact mem_sinceDisconnect_self (by simp)

/-- A disconnect leaves the calls of other devices as they are. -/
theorem disconnect (tracked : Tracked calls log)
    (none_ : ¬∃ call ∈ calls, call.deviceId = d ∧ call.cancels = false ∧ call.phase ≠ .returned) :
    Tracked calls (.disconnected d :: log) := by
  refine ⟨tracked.starts, fun i call found starts unfinished => ?_⟩
  have other : PauseNote.disconnected d ≠ .disconnected call.deviceId := by
    rintro ⟨⟩
    exact none_ ⟨call, List.mem_of_getElem? found, rfl, starts, unfinished⟩
  exact mem_sinceDisconnect (tracked.began i call found starts unfinished) other

end Tracked

structure Kept (plugin : Plugin) : Prop where
  recorded : ∀ d service, service ∈ plugin.pausedFor d → Fresh d service plugin.log
  tracked : Tracked plugin.calls plugin.log

theorem Kept.move (kept : Kept plugin) (undisturbed : Undisturbed plugin event) (moved : move plugin event = some later) :
    Kept later := by
  obtain rfl | ⟨d, cancels, rfl⟩ | ⟨i, call, phase, lock, paused, found, unfinished, pausing, erased, rfl⟩ |
    ⟨i, call, lock, found, unfinished, rfl⟩ | ⟨i, call, acted, found, pauses, rfl⟩ | ⟨d, rfl, rfl⟩ := move_cases moved
  · exact kept
  · exact ⟨fun e service there => (kept.recorded e service there).cons (by simp), kept.tracked.add⟩
  · refine ⟨fun e service there => ?_, kept.tracked.advance phase found unfinished pausing⟩
    rcases erased with rfl | rfl
    · exact kept.recorded e service there
    · exact kept.recorded e service (mem_pausedFor_erase there).2
  · exact ⟨fun e service there => (kept.recorded e service (mem_pausedFor_erase there).2).cons (by simp),
      (kept.tracked.advance .resuming found unfinished (by simp)).cons (by simp)⟩
  · have unfinished : call.phase ≠ .returned := by simp [pauses]
    refine ⟨fun e service there => ?_, (kept.tracked.advance .returned found unfinished (by simp)).cons (by simp)⟩
    rw [Plugin.pausedFor, Table.lookup_insert_of] at there
    split at there
    · rename_i same
      subst same
      rcases mem_record.mp there with before | now
      · exact (kept.recorded _ service before).cons (by simp)
      · have began := kept.tracked.began i call found (kept.tracked.starts i call found pauses) unfinished
        exact ⟨i, acted, mem_sinceDisconnect began (by simp), mem_sinceDisconnect_self (by simp), now⟩
    · exact (kept.recorded e service there).cons (by simp)
  · refine ⟨fun e service there => ?_, kept.tracked.disconnect undisturbed⟩
    obtain ⟨other, before⟩ := mem_pausedFor_erase there
    exact (kept.recorded e service before).cons (by simpa using other.symm)

/-- A pause of a service is recorded that has not been resumed. -/
def Owed (d : DeviceId) (service : String) (log : List PauseNote) : Prop :=
  ∃ newer call services older, log = newer ++ .paused call d services :: older ∧ service ∈ services ∧
    ∀ resumed, .resumed d resumed ∈ newer → service ∉ resumed

theorem Owed.cons (owed : Owed d service log) (other : ∀ resumed, note = .resumed d resumed → service ∉ resumed) :
    Owed d service (note :: log) := by
  obtain ⟨newer, call, services, older, rfl, among, left⟩ := owed
  refine ⟨note :: newer, call, services, older, rfl, among, fun resumed member => ?_⟩
  rcases List.mem_cons.mp member with same | before
  · exact other resumed same.symm
  · exact left resumed before

/-- What a call resumes was owed, and what is recorded is owed. -/
structure Balanced (plugin : Plugin) : Prop where
  recorded : ∀ d service, service ∈ plugin.pausedFor d → Owed d service plugin.log
  resumed : Logged (fun note older =>
    ∀ d resumed service, note = .resumed d resumed → service ∈ resumed → Owed d service older) plugin.log

theorem Balanced.move (balanced : Balanced plugin) (moved : move plugin event = some later) : Balanced later := by
  obtain rfl | ⟨d, cancels, rfl⟩ | ⟨i, call, phase, lock, paused, found, unfinished, pausing, erased, rfl⟩ |
    ⟨i, call, lock, found, unfinished, rfl⟩ | ⟨i, call, acted, found, pauses, rfl⟩ | ⟨d, rfl, rfl⟩ := move_cases moved
  · exact balanced
  · exact ⟨fun e service there => (balanced.recorded e service there).cons (by simp), by simp, balanced.resumed⟩
  · refine ⟨fun e service there => ?_, balanced.resumed⟩
    rcases erased with rfl | rfl
    · exact balanced.recorded e service there
    · exact balanced.recorded e service (mem_pausedFor_erase there).2
  · refine ⟨fun e service there => ?_, fun e resumed service same among => ?_, balanced.resumed⟩
    · obtain ⟨other, before⟩ := mem_pausedFor_erase there
      refine (balanced.recorded e service before).cons fun resumed same => ?_
      exact absurd (PauseNote.resumed.inj same).1.symm other
    · obtain ⟨rfl, rfl⟩ := PauseNote.resumed.inj same
      exact balanced.recorded _ service among
  · refine ⟨fun e service there => ?_, by simp, balanced.resumed⟩
    rw [Plugin.pausedFor, Table.lookup_insert_of] at there
    split at there
    · rename_i same
      subst same
      rcases mem_record.mp there with before | now
      · exact (balanced.recorded _ service before).cons (by simp)
      · exact ⟨[], i, acted, plugin.log, rfl, now, by simp⟩
    · exact (balanced.recorded e service there).cons (by simp)
  · refine ⟨fun e service there => ?_, by simp, balanced.resumed⟩
    exact (balanced.recorded e service (mem_pausedFor_erase there).2).cons (by simp)

theorem Balanced.resumedOnce (balanced : Balanced plugin) : ResumedOnce plugin.log := by
  intro newest between oldest d again once service same among before
  obtain ⟨newer, call, services, older, split_, there, left⟩ :=
    logged_iff.mp balanced.resumed newest (.resumed d again) (between ++ .resumed d once :: oldest) same d again service
      rfl among
  rcases List.append_eq_append_iff.mp split_ with ⟨more, rfl, rest⟩ | ⟨more, rfl, rest⟩
  · cases more with
    | nil => cases rest
    | cons first more =>
      obtain ⟨rfl, -⟩ := List.cons.inj rest
      exact absurd before (left once (by simp))
  · cases more with
    | nil => cases rest
    | cons first more =>
      obtain ⟨rfl, -⟩ := List.cons.inj rest
      exact ⟨call, services, by simp, there⟩

/-- A telephony packet, from Android when it takes back an event. -/
def telephony (event : String) (cancels : Bool) : Json :=
  .obj (("event", .str event) :: if cancels then [("isCancel", .str "true")] else [])

/-- A phone that is lost while its call is being started leaves behind what the call has paused. -/
theorem stale_record : ¬∀ (events : List Event) (later : Plugin), Runs move new events later →
    (∀ d service, service ∈ later.pausedFor d → Fresh d service later.log) ∧ ResumedOnce later.log := by
  intro always
  have run : Runs move new
      [.handlePacket "phone" (telephony "ringing" false), .locks 0 true, .onDisconnected "phone", .pausePlaying 0 ["vlc"]]
      ⟨AList.insert "phone" ["vlc"] ∅, none, [⟨"phone", false, .returned⟩],
        [.paused 0 "phone" ["vlc"], .disconnected "phone", .began 0 "phone"]⟩ :=
    Runs.iff_foldlM.mpr rfl
  obtain ⟨call, services, began, -⟩ := (always _ _ run).1 "phone" "vlc" (by decide)
  simp [sinceDisconnect] at began

/-- Where no device is disconnected while a call of its own is being started, what is recorded for a device was paused by
a call that began after its last disconnect; and in every run it is resumed once for it. -/
theorem no_stale_record {events : List Event} (run : Runs move new events later) :
    ((∀ before event after plugin, events = before ++ event :: after → Runs move new before plugin → Undisturbed plugin event) →
      ∀ d service, service ∈ later.pausedFor d → Fresh d service later.log) ∧ ResumedOnce later.log := by
  refine ⟨fun undisturbed => ?_, ?_⟩
  · have first : Kept new := ⟨by simp [new, Plugin.pausedFor], by simp [new], by simp [new]⟩
    have kept : Kept later := run.invariant_when (fun kept undisturbed moved => kept.move undisturbed moved) first undisturbed
    exact kept.recorded
  · have start : Balanced new := ⟨by simp [new, Plugin.pausedFor], trivial⟩
    have balanced : Balanced later := run.invariant (fun balanced moved => balanced.move moved) start
    exact balanced.resumedOnce

theorem no_stale_record_ringing : ∃ events later, "vlc" ∈ later.pausedFor "phone" ∧ Runs move new events later ∧
    Fresh "phone" "vlc" later.log ∧ ResumedOnce later.log := by
  let events : List Event :=
    [.onDisconnected "phone", .handlePacket "phone" (telephony "ringing" false), .locks 0 true, .pausePlaying 0 ["vlc"]]
  let later : Plugin := ⟨AList.insert "phone" ["vlc"] ∅, none, [⟨"phone", false, .returned⟩],
    [.paused 0 "phone" ["vlc"], .began 0 "phone", .disconnected "phone"]⟩
  have run : Runs move new events later := Runs.iff_foldlM.mpr rfl
  have recorded : "vlc" ∈ later.pausedFor "phone" := by decide
  have fresh := (no_stale_record run).1 fun before event after plugin same reached => by
    cases before with
    | nil =>
      cases reached
      obtain rfl := (List.cons.inj same).1
      rintro ⟨call, member, -⟩
      cases member
    | cons first before =>
      have member : event ∈ events.tail := by
        rw [same, List.cons_append, List.tail_cons]
        exact List.mem_append_right before List.mem_cons_self
      simp only [events, List.tail_cons, List.mem_cons, List.not_mem_nil, or_false] at member
      rcases member with rfl | rfl | rfl <;> trivial
  exact ⟨events, later, recorded, run, fresh "phone" "vlc" recorded, (no_stale_record run).2⟩

end PauseMusic

end RustConnect
