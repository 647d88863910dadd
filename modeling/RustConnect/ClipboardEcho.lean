import RustConnect.Base.History
import RustConnect.Clipboard

namespace RustConnect

/-- What happens to the clipboard while nobody copies anything at this machine:
a packet of a device is handled, the next content that was accepted is written to
the session, or the watcher's next report reaches the plugin. -/
inductive EchoEvent
  | receive (deviceId : DeviceId) (now : Int64) (packet : Packet)
  | write
  | report (now : Int64)
  deriving DecidableEq

/-- The plugin's state, the accepted contents that are not written yet and the
written ones that the watcher has not reported yet, each the oldest first. -/
structure EchoState where
  clipboard : ClipboardState
  unwritten : List String
  written : List String
  deriving DecidableEq

namespace Clipboard

def sessionWrites (effects : List ClipboardEffect) : List String :=
  effects.filterMap fun
    | .writeToSession content => some content
    | .clipboardUpdate _ _ => none

/-- The body of the packet that the watcher's report is sent out with, if any. -/
def reported (s : EchoState) (now : Int64) : Option Json × EchoState :=
  match s.written with
  | [] => (none, s)
  | content :: rest =>
    ((applyLocalChange s.clipboard content now).1,
      { s with clipboard := (applyLocalChange s.clipboard content now).2, written := rest })

def echoStep (s : EchoState) : EchoEvent → EchoState
  | .receive deviceId now packet =>
    { s with
      clipboard := (handlePacket deviceId now s.clipboard packet).1
      unwritten := s.unwritten ++ sessionWrites (handlePacket deviceId now s.clipboard packet).2 }
  | .write =>
    match s.unwritten with
    | [] => s
    | content :: rest => { s with unwritten := rest, written := s.written ++ [content] }
  | .report now => (reported s now).2

/-- The state after the first `k` events of a run that begins with nothing under way. -/
def echoAt (start : ClipboardState) (events : List EchoEvent) (k : Nat) : EchoState :=
  History.stateAt echoStep ⟨start, [], []⟩ events k

def EchoState.inFlight (s : EchoState) : List String := s.written ++ s.unwritten

/-- The plugin holds the content that was accepted last, as long as its report is still to come. -/
def Primed (s : EchoState) : Prop := ∀ content, (EchoState.inFlight s).getLast? = some content → s.clipboard.content = some content

/-- The next report is empty or is that of the content that was accepted last. -/
def ReportsLatest (s : EchoState) : Prop :=
  ∀ content, s.written.head? = some content → content = "" ∨ (EchoState.inFlight s).getLast? = some content

theorem handlePacket_writes (deviceId : DeviceId) (now : Int64) (s : ClipboardState) (packet : Packet) :
    handlePacket deviceId now s packet = (s, []) ∨
      ∃ content, (handlePacket deviceId now s packet).1.content = some content ∧
        sessionWrites (handlePacket deviceId now s packet).2 = [content] := by
  rw [handlePacket]
  split
  · split
    · exact .inl rfl
    · rename_i content _
      exact .inr ⟨content, rfl, rfl⟩
  · split
    · split
      · exact .inl rfl
      · rename_i content _
        simp only [applyRemoteConnect]
        split_ifs
        · exact .inl rfl
        · exact .inr ⟨content, rfl, rfl⟩
    · exact .inl rfl

theorem applyLocalChange_eq_none {s : ClipboardState} {content : String} {now : Int64} :
    (applyLocalChange s content now).1 = none ↔ content = "" ∨ s.content = some content := by
  rw [applyLocalChange]
  split_ifs <;> simp_all

theorem applyLocalChange_state {s : ClipboardState} {content : String} {now : Int64}
    (suppressed : (applyLocalChange s content now).1 = none) : (applyLocalChange s content now).2 = s := by
  rw [applyLocalChange] at suppressed ⊢
  split_ifs at suppressed ⊢ <;> simp_all

theorem Primed.receive {s : EchoState} (primed : Primed s) (deviceId : DeviceId) (now : Int64) (packet : Packet) :
    Primed (echoStep s (.receive deviceId now packet)) := by
  intro last latest
  rcases handlePacket_writes deviceId now s.clipboard packet with ignored | ⟨content, holds, written⟩
  · simp only [EchoState.inFlight, echoStep, ignored, sessionWrites, List.filterMap_nil, List.append_nil] at latest ⊢
    exact primed last latest
  · simp only [EchoState.inFlight, echoStep, written] at latest ⊢
    rw [← List.append_assoc, List.getLast?_concat] at latest
    rw [holds, latest]

theorem inFlight_write (s : EchoState) :
    EchoState.inFlight (echoStep s .write) = EchoState.inFlight s ∧ (echoStep s .write).clipboard = s.clipboard := by
  rcases s with ⟨clipboard, _ | ⟨content, rest⟩, written⟩
  · exact ⟨rfl, rfl⟩
  · exact ⟨by simp [echoStep, EchoState.inFlight], rfl⟩

theorem Primed.write {s : EchoState} (primed : Primed s) : Primed (echoStep s .write) := by
  obtain ⟨same, kept⟩ := inFlight_write s
  intro last latest
  rw [same] at latest
  rw [kept]
  exact primed last latest

theorem Primed.report {s : EchoState} (primed : Primed s) {now : Int64} (silent : (reported s now).1 = none) :
    Primed (echoStep s (.report now)) := by
  rcases s with ⟨clipboard, unwritten, _ | ⟨content, rest⟩⟩
  · exact primed
  · intro last latest
    have kept : (applyLocalChange clipboard content now).2 = clipboard := applyLocalChange_state silent
    have before : (EchoState.inFlight ⟨clipboard, unwritten, content :: rest⟩).getLast? = some last := by
      have shorter : (rest ++ unwritten).getLast? = some last := latest
      show (content :: (rest ++ unwritten)).getLast? = some last
      rw [List.getLast?_cons, shorter, Option.getD_some]
    show (applyLocalChange clipboard content now).2.content = some last
    rw [kept]
    exact primed last before

theorem reported_eq_none_iff {s : EchoState} (primed : Primed s) (now : Int64) :
    (reported s now).1 = none ↔ ReportsLatest s := by
  rcases s with ⟨clipboard, unwritten, _ | ⟨content, rest⟩⟩
  · exact ⟨fun _ _ nothing => (nomatch nothing), fun _ => rfl⟩
  · obtain ⟨last, latest⟩ : ∃ last, (EchoState.inFlight ⟨clipboard, unwritten, content :: rest⟩).getLast? = some last :=
      Option.isSome_iff_exists.mp (by simp [EchoState.inFlight])
    have holds : clipboard.content = some last := primed last latest
    have suppressed : (reported ⟨clipboard, unwritten, content :: rest⟩ now).1 = none ↔
        content = "" ∨ clipboard.content = some content := applyLocalChange_eq_none
    rw [suppressed, ReportsLatest, holds, latest]
    simp

/-- As long as the reports were silent the plugin is primed. -/
theorem primed_of_silent {start : ClipboardState} {events : List EchoEvent} {k : Nat}
    (silent : ∀ j < k, ∀ now, events[j]? = some (.report now) → (reported (echoAt start events j) now).1 = none) :
    Primed (echoAt start events k) := by
  induction k with
  | zero => exact fun _ nothing => nomatch nothing
  | succ k ih =>
    have before := ih fun j earlier => silent j (by omega)
    cases here : events[k]? with
    | none =>
      rw [echoAt, History.stateAt_past_end here]
      exact before
    | some event =>
      rw [echoAt, History.stateAt_succ here]
      cases event with
      | receive deviceId now packet => exact before.receive deviceId now packet
      | write => exact before.write
      | report now => exact before.report (silent k (by omega) now here)

/-- No report of the watcher is sent out to the devices. -/
def NoEcho (start : ClipboardState) (events : List EchoEvent) : Prop :=
  ∀ k now, events[k]? = some (.report now) → (reported (echoAt start events k) now).1 = none

theorem no_echo_iff (start : ClipboardState) (events : List EchoEvent) :
    NoEcho start events ↔ ∀ k now, events[k]? = some (.report now) → ReportsLatest (echoAt start events k) := by
  constructor
  · intro silent k now here
    exact (reported_eq_none_iff (primed_of_silent fun j _ now => silent j now) now).mp (silent k now here)
  · intro latest k
    induction k using Nat.strongRecOn with
    | ind k ih =>
      intro now here
      exact (reported_eq_none_iff (primed_of_silent fun j earlier now => ih j earlier now) now).mpr (latest k now here)

/-- Two devices change the clipboard before the watcher has reported the first change. -/
def crossing : List EchoEvent :=
  [.receive "phone" 5 (.new 1 "kdeconnect.clipboard" (.obj [("content", .str "first")])), .write,
    .receive "tablet" 6 (.new 2 "kdeconnect.clipboard" (.obj [("content", .str "second")])), .write, .report 7]

theorem crossing_echoes : ¬ NoEcho {} crossing := by
  intro silent
  exact absurd (silent 4 7 rfl) (by decide +kernel)

end Clipboard

end RustConnect
