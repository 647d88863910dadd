import RustConnect.Base.History
import RustConnect.Base.Table
import RustConnect.Types

namespace RustConnect

def maxTransfersPerDevice : Nat := 3

def maxTransfersGlobal : Nat := 8

def maxTransferDevices : Nat := 64

/-- Where a call of `try_acquire_transfer_permits` stands: before the global
semaphore, before the map, before the semaphore of its device and before it
gives the global permit back; and once it has answered, where its permits are. -/
inductive TransferPhase
  | entered
  | counted
  | known
  | refusing
  | refused
  | live
  | dropping
  | dropped
  deriving DecidableEq

structure TransferCall where
  deviceId : DeviceId
  phase : TransferPhase
  deriving DecidableEq

/-- The permits that are left, and every call there has been. An entry of the map is never removed. -/
structure Transfers where
  global : Nat
  devices : Table DeviceId Nat
  calls : List TransferCall

inductive TransferEvent
  | call (deviceId : DeviceId)
  | step (index : Nat)
  deriving DecidableEq

namespace Transfers

open TransferPhase

def fresh : Transfers := ⟨maxTransfersGlobal, ∅, []⟩

/-- What is left of a semaphore: of the global one, or of that of a device,
which is made with all its permits. -/
def available (s : Transfers) : Option DeviceId → Nat
  | none => s.global
  | some d => (s.devices.lookup d).getD maxTransfersPerDevice

def setDevice (d : DeviceId) (left : Nat) (s : Transfers) : Transfers := { s with devices := s.devices.insert d left }

/-- The next step of a call; that of a live transfer is the drop of its permits, the global one first. -/
def proceed (d : DeviceId) (s : Transfers) : TransferPhase → TransferPhase × Transfers
  | entered => if s.global = 0 then (refused, s) else (counted, { s with global := s.global - 1 })
  | counted =>
    match s.devices.lookup d with
    | some _ => (known, s)
    | none =>
      if maxTransferDevices ≤ s.devices.len then (refusing, s) else (known, s.setDevice d maxTransfersPerDevice)
  | known =>
    if s.available (some d) = 0 then (refusing, s) else (live, s.setDevice d (s.available (some d) - 1))
  | refusing => (refused, { s with global := s.global + 1 })
  | live => (dropping, { s with global := s.global + 1 })
  | dropping => (dropped, s.setDevice d (s.available (some d) + 1))
  | refused => (refused, s)
  | dropped => (dropped, s)

def step (s : Transfers) : TransferEvent → Transfers
  | .call d => { s with calls := s.calls ++ [⟨d, entered⟩] }
  | .step index =>
    match s.calls[index]? with
    | none => s
    | some call =>
      let (phase, later) := s.proceed call.deviceId call.phase
      { later with calls := s.calls.set index { call with phase := phase } }

/-- The state after the first `k` events. -/
def after (events : List TransferEvent) (k : Nat) : Transfers := History.stateAt step fresh events k

def capacity : Option DeviceId → Nat
  | none => maxTransfersGlobal
  | some _ => maxTransfersPerDevice

/-- A call at this point has a permit of the semaphore. -/
def Holds : Option DeviceId → TransferCall → Bool
  | none, call => call.phase = counted || call.phase = known || call.phase = refusing || call.phase = live
  | some d, call => call.deviceId = d && (call.phase = live || call.phase = dropping)

def IsLive (call : TransferCall) : Bool := call.phase = live

theorem available_setDevice (d : DeviceId) (left : Nat) (s : Transfers) (semaphore : Option DeviceId) :
    (s.setDevice d left).available semaphore = if semaphore = some d then left else s.available semaphore := by
  cases semaphore with
  | none => rfl
  | some d' =>
    show ((s.devices.insert d left).lookup d').getD maxTransfersPerDevice = _
    rw [Table.lookup_insert_of]
    split_ifs with same same' same'
    · rfl
    · exact absurd (congrArg some same) same'
    · exact absurd (Option.some.inj same') same
    · rfl

/-- What a call takes from a semaphore is what it then holds. -/
theorem proceed_available (d : DeviceId) (s : Transfers) (phase : TransferPhase) (semaphore : Option DeviceId) :
    (s.proceed d phase).2.available semaphore + (Holds semaphore ⟨d, (s.proceed d phase).1⟩).toNat =
      s.available semaphore + (Holds semaphore ⟨d, phase⟩).toNat := by
  cases phase with
  | entered =>
    simp only [proceed]
    split_ifs with exhausted
    · cases semaphore <;> simp [Holds]
    · cases semaphore with
      | none =>
        simp only [Holds, available]
        simp
        omega
      | some d' => simp [Holds, available]
  | counted =>
    simp only [proceed]
    cases entry : s.devices.lookup d with
    | some left => cases semaphore <;> simp [Holds]
    | none =>
      dsimp only
      split_ifs
      · cases semaphore <;> simp [Holds]
      · have same : (s.setDevice d maxTransfersPerDevice).available semaphore = s.available semaphore := by
          rw [available_setDevice]
          split_ifs with here
          · rw [here, available, entry, Option.getD_none]
          · rfl
        rw [same]
        cases semaphore <;> simp [Holds]
  | known =>
    simp only [proceed]
    split_ifs with exhausted
    · cases semaphore <;> simp [Holds]
    · rw [available_setDevice]
      split_ifs with here
      · subst here
        simp [Holds]
        omega
      · cases semaphore with
        | none => simp [Holds]
        | some d' =>
          have other : d ≠ d' := fun same => here (congrArg some same.symm)
          simp [Holds, other]
  | refusing => cases semaphore <;> simp [proceed, Holds, available]
  | live => cases semaphore <;> simp [proceed, Holds, available]
  | dropping =>
    simp only [proceed, available_setDevice]
    split_ifs with here
    · subst here
      simp [Holds]
    · cases semaphore with
      | none => simp [Holds]
      | some d' =>
        have other : d ≠ d' := fun same => here (congrArg some same.symm)
        simp [Holds, other]
  | refused => rfl
  | dropped => rfl

theorem step_call (d : DeviceId) (s : Transfers) : s.step (.call d) = { s with calls := s.calls ++ [⟨d, entered⟩] } := rfl

theorem step_step {s : Transfers} {index : Nat} {call : TransferCall} (here : s.calls[index]? = some call) :
    s.step (.step index) = { (s.proceed call.deviceId call.phase).2 with
      calls := s.calls.set index { call with phase := (s.proceed call.deviceId call.phase).1 } } := by
  rw [step]
  simp only [here]

theorem step_absent {s : Transfers} {index : Nat} (absent : s.calls[index]? = none) : s.step (.step index) = s := by
  rw [step]
  simp only [absent]

theorem countP_set (p : TransferCall → Bool) {calls : List TransferCall} {index : Nat} {before : TransferCall}
    (later : TransferCall) (here : calls[index]? = some before) :
    (calls.set index later).countP p + (p before).toNat = calls.countP p + (p later).toNat := by
  obtain ⟨inside, rfl⟩ := List.getElem?_eq_some_iff.mp here
  have least := List.boole_getElem_le_countP (p := p) inside
  rw [List.countP_set inside]
  simp only [Bool.toNat, cond_eq_ite]
  split_ifs at least ⊢ <;> omega

theorem holds_entered (semaphore : Option DeviceId) (d : DeviceId) : Holds semaphore ⟨d, entered⟩ = false := by
  cases semaphore <;> simp [Holds]

/-- Every permit is left or is held by one of the calls. -/
def Balanced (s : Transfers) : Prop :=
  ∀ semaphore, s.available semaphore + s.calls.countP (Holds semaphore) = capacity semaphore

/-- What a step of a call changes at a semaphore is what the call holds less or more. -/
theorem step_available {s : Transfers} {index : Nat} {call : TransferCall} (here : s.calls[index]? = some call)
    (semaphore : Option DeviceId) :
    ∃ later, (s.step (.step index)).calls[index]? = some later ∧ later.deviceId = call.deviceId ∧
      (s.step (.step index)).calls = s.calls.set index later ∧
      (s.step (.step index)).available semaphore + (Holds semaphore later).toNat =
        s.available semaphore + (Holds semaphore call).toNat := by
  obtain ⟨inside, -⟩ := List.getElem?_eq_some_iff.mp here
  have moved := proceed_available call.deviceId s call.phase semaphore
  rw [step_step here]
  refine ⟨{ call with phase := (s.proceed call.deviceId call.phase).1 }, List.getElem?_set_self inside, rfl, rfl, ?_⟩
  cases semaphore with
  | none => exact moved
  | some d => exact moved

theorem Balanced.step {s : Transfers} (balanced : Balanced s) (event : TransferEvent) : Balanced (s.step event) := by
  intro semaphore
  have before := balanced semaphore
  cases event with
  | call d =>
    have none_held := holds_entered semaphore d
    have counted : (s.calls ++ [(⟨d, entered⟩ : TransferCall)]).countP (Holds semaphore) = s.calls.countP (Holds semaphore) := by
      rw [List.countP_append, List.countP_singleton, none_held]
      rfl
    rw [step_call, counted]
    exact before
  | step index =>
    cases here : s.calls[index]? with
    | none => rwa [step_absent here]
    | some call =>
      obtain ⟨later, -, -, calls, moved⟩ := step_available here semaphore
      have counted := countP_set (Holds semaphore) later here
      rw [calls]
      omega

theorem after_balanced (events : List TransferEvent) (k : Nat) : Balanced (after events k) :=
  History.invariant (I := Balanced) (fun semaphore => by cases semaphore <;> rfl)
    (fun event _ _ balanced => balanced.step event) k

def liveOf (d : DeviceId) (s : Transfers) : Nat := s.calls.countP fun call => call.deviceId = d && IsLive call

def liveCount (s : Transfers) : Nat := s.calls.countP IsLive

theorem Balanced.live_le {s : Transfers} (balanced : Balanced s) :
    (∀ d, s.liveOf d ≤ maxTransfersPerDevice) ∧ s.liveCount ≤ maxTransfersGlobal := by
  constructor
  · intro d
    have held : s.liveOf d ≤ s.calls.countP (Holds (some d)) :=
      List.countP_mono_left fun call _ live => by
        simp only [IsLive, Bool.and_eq_true, decide_eq_true_eq] at live
        simp [Holds, live]
    have total := balanced (some d)
    exact Nat.le_trans held (by rw [← show capacity (some d) = maxTransfersPerDevice from rfl]; omega)
  · have held : s.liveCount ≤ s.calls.countP (Holds none) :=
      List.countP_mono_left fun call _ live => by
        simp only [IsLive, decide_eq_true_eq] at live
        simp [Holds, live]
    have total := balanced none
    exact Nat.le_trans held (by rw [← show capacity none = maxTransfersGlobal from rfl]; omega)

/-- What the steps of a call have changed at a semaphore in the first `k` events. -/
def netChange (events : List TransferEvent) (index : Nat) (semaphore : Option DeviceId) : Nat → Int
  | 0 => 0
  | k + 1 =>
    netChange events index semaphore k +
      if events[k]? = some (.step index) then
        ((after events (k + 1)).available semaphore : Int) - (after events k).available semaphore
      else 0

def heldBy (index : Nat) (semaphore : Option DeviceId) (s : Transfers) : Nat :=
  s.calls[index]?.elim 0 fun call => (Holds semaphore call).toNat

theorem heldBy_call (index : Nat) (semaphore : Option DeviceId) (d : DeviceId) (s : Transfers) :
    heldBy index semaphore (s.step (.call d)) = heldBy index semaphore s := by
  rw [step_call, heldBy, heldBy]
  rcases Nat.lt_trichotomy index s.calls.length with inside | last | outside
  · rw [List.getElem?_append_left inside]
  · have before : s.calls[index]? = none := List.getElem?_eq_none (by omega)
    rw [last, List.getElem?_concat_length, ← last, before]
    simp [holds_entered]
  · have before : s.calls[index]? = none := List.getElem?_eq_none (by omega)
    have after : (s.calls ++ [(⟨d, entered⟩ : TransferCall)])[index]? = none :=
      List.getElem?_eq_none (by rw [List.length_append, List.length_singleton]; omega)
    rw [before, after]

theorem heldBy_step_ne {index other : Nat} (apart : other ≠ index) (semaphore : Option DeviceId) (s : Transfers) :
    heldBy index semaphore (s.step (.step other)) = heldBy index semaphore s := by
  cases here : s.calls[other]? with
  | none => rw [step_absent here]
  | some call =>
    obtain ⟨later, -, -, calls, -⟩ := step_available here semaphore
    rw [heldBy, heldBy, calls, List.getElem?_set_ne apart]

theorem heldBy_step_self (index : Nat) (semaphore : Option DeviceId) (s : Transfers) :
    (s.step (.step index)).available semaphore + heldBy index semaphore (s.step (.step index)) =
      s.available semaphore + heldBy index semaphore s := by
  cases here : s.calls[index]? with
  | none => rw [step_absent here]
  | some call =>
    obtain ⟨later, there, -, -, moved⟩ := step_available here semaphore
    rw [heldBy, heldBy, there, here]
    exact moved

/-- A call has taken from a semaphore the permit that it holds, and nothing else. -/
theorem netChange_eq (events : List TransferEvent) (index : Nat) (semaphore : Option DeviceId) (k : Nat) :
    netChange events index semaphore k = - (heldBy index semaphore (after events k) : Int) := by
  induction k with
  | zero => rfl
  | succ k ih =>
    rw [netChange, ih]
    cases here : events[k]? with
    | none =>
      rw [if_neg (by simp), after, after, History.stateAt_past_end here, Int.add_zero]
    | some event =>
      have next : after events (k + 1) = (after events k).step event := History.stateAt_succ here
      rw [next]
      cases event with
      | call d => rw [if_neg (by simp), heldBy_call, Int.add_zero]
      | step other =>
        by_cases same : other = index
        · subst same
          have moved := heldBy_step_self other semaphore (after events k)
          rw [if_pos rfl]
          omega
        · have apart : ¬ (some (TransferEvent.step other) = some (.step index)) := by simpa using same
          rw [if_neg apart, heldBy_step_ne same, Int.add_zero]

theorem heldBy_refused {index : Nat} {d : DeviceId} {s : Transfers} (refused : s.calls[index]? = some ⟨d, refused⟩)
    (semaphore : Option DeviceId) : heldBy index semaphore s = 0 := by
  rw [heldBy, refused]
  cases semaphore <;> simp [Holds]

/-- No call and no drop is under way. -/
def Quiet (s : Transfers) : Prop := ∀ call ∈ s.calls, call.phase = refused ∨ call.phase = live ∨ call.phase = dropped

/-- The device has a semaphore or there is room for one. -/
def HasRoom (d : DeviceId) (s : Transfers) : Prop :=
  (s.devices.lookup d).isSome ∨ s.devices.len < maxTransferDevices

/-- A call that runs on its own: what it holds and how it answers. -/
def callAlone (d : DeviceId) (s : Transfers) : Transfers :=
  [TransferEvent.call d, .step s.calls.length, .step s.calls.length, .step s.calls.length].foldl step s

theorem Quiet.available {s : Transfers} (quiet : Quiet s) (balanced : Balanced s) :
    s.available none + s.liveCount = maxTransfersGlobal ∧
      ∀ d, s.available (some d) + s.liveOf d = maxTransfersPerDevice := by
  constructor
  · have held : s.calls.countP (Holds none) = s.liveCount := List.countP_congr fun call here => by
      rcases quiet call here with phase | phase | phase <;> simp [Holds, IsLive, phase]
    rw [← held]
    exact balanced none
  · intro d
    have held : s.calls.countP (Holds (some d)) = s.liveOf d := List.countP_congr fun call here => by
      rcases quiet call here with phase | phase | phase <;> simp [Holds, IsLive, phase]
    rw [← held]
    exact balanced (some d)

theorem proceed_entered {d : DeviceId} {s : Transfers} (global : 0 < s.available none) :
    s.proceed d entered = (counted, { s with global := s.global - 1 }) := by
  have some_left : ¬ s.global = 0 := Nat.pos_iff_ne_zero.mp global
  rw [proceed, if_neg some_left]

theorem proceed_counted {d : DeviceId} {s : Transfers} (roomy : HasRoom d s) :
    ∃ later, s.proceed d counted = (known, later) ∧ later.available (some d) = s.available (some d) := by
  cases entry : s.devices.lookup d with
  | some left => exact ⟨s, by simp only [proceed, entry], rfl⟩
  | none =>
    have few : ¬ maxTransferDevices ≤ s.devices.len := by
      rcases roomy with has | few
      · rw [entry] at has
        cases has
      · exact Nat.not_le.mpr few
    refine ⟨s.setDevice d maxTransfersPerDevice, by simp only [proceed, entry, if_neg few], ?_⟩
    rw [available_setDevice, if_pos rfl, Transfers.available, entry, Option.getD_none]

theorem proceed_known {d : DeviceId} {s : Transfers} (device : 0 < s.available (some d)) :
    s.proceed d known = (live, s.setDevice d (s.available (some d) - 1)) := by
  rw [proceed, if_neg (Nat.pos_iff_ne_zero.mp device)]

/-- The step of the call that entered last. -/
theorem step_last {s : Transfers} {calls : List TransferCall} {d : DeviceId} {phase later : TransferPhase} {next : Transfers}
    (here : s.calls = calls ++ [⟨d, phase⟩]) (proceeds : s.proceed d phase = (later, next)) :
    s.step (.step calls.length) = { next with calls := calls ++ [⟨d, later⟩] } := by
  have there : s.calls[calls.length]? = some ⟨d, phase⟩ := by rw [here, List.getElem?_concat_length]
  rw [step_step there, proceeds, here, List.set_append_right _ _ (Nat.le_refl _), Nat.sub_self]
  rfl

theorem callAlone_live {d : DeviceId} {s : Transfers} (roomy : HasRoom d s) (global : 0 < s.available none)
    (device : 0 < s.available (some d)) : (s.callAlone d).calls[s.calls.length]? = some ⟨d, live⟩ := by
  have entering : 0 < (s.step (.call d)).available none := global
  have first : (s.step (.call d)).step (.step s.calls.length) =
      { s with global := s.global - 1, calls := s.calls ++ [⟨d, counted⟩] } :=
    step_last rfl (proceed_entered entering)
  generalize middle : ({ s with global := s.global - 1, calls := s.calls ++ [⟨d, counted⟩] } : Transfers) = at_ at first
  have calls : at_.calls = s.calls ++ [⟨d, counted⟩] := by rw [← middle]
  have kept : at_.available (some d) = s.available (some d) := by rw [← middle]; rfl
  have room : HasRoom d at_ := by rw [← middle]; exact roomy
  obtain ⟨looked, counts, same⟩ := proceed_counted room
  have second := step_last calls counts
  have still : 0 < ({ looked with calls := s.calls ++ [⟨d, known⟩] } : Transfers).available (some d) := by
    show 0 < looked.available (some d)
    rw [same, kept]
    exact device
  have third := step_last rfl (proceed_known still)
  show ((((s.step (.call d)).step (.step s.calls.length)).step (.step s.calls.length)).step
    (.step s.calls.length)).calls[s.calls.length]? = _
  rw [first, second, third]
  exact List.getElem?_concat_length

/-- Admission over every run: the caps, what a refused call leaves, and that a
call with room is admitted when nothing else is under way. -/
theorem transfer_admission (events : List TransferEvent) (k : Nat) :
    ((∀ d, (after events k).liveOf d ≤ maxTransfersPerDevice) ∧ (after events k).liveCount ≤ maxTransfersGlobal) ∧
    (∀ index d, (after events k).calls[index]? = some ⟨d, refused⟩ →
      ∀ semaphore, netChange events index semaphore k = 0) ∧
    (∀ d, (after events k).Quiet → (after events k).liveOf d < maxTransfersPerDevice →
      (after events k).liveCount < maxTransfersGlobal → (after events k).HasRoom d →
      ((after events k).callAlone d).calls[(after events k).calls.length]? = some ⟨d, live⟩) := by
  have balanced := after_balanced events k
  refine ⟨balanced.live_le, fun index d refused semaphore => ?_, fun d quiet device global roomy => ?_⟩
  · rw [netChange_eq, heldBy_refused refused]
    rfl
  · obtain ⟨total, each⟩ := quiet.available balanced
    have one := each d
    exact callAlone_live roomy (by omega) (by omega)

/-- Devices that each send one file, one after the other. -/
def visitor (n : Nat) : DeviceId := String.ofList (List.replicate n 'a')

def visits (count : Nat) : List TransferEvent :=
  (List.range count).flatMap fun n => TransferEvent.call (visitor n) :: List.replicate 5 (.step n)

instance (s : Transfers) : Decidable s.Quiet := by unfold Quiet; infer_instance

/-- Nothing is live any more after as many devices as there is room for, and the next one is refused. -/
theorem newcomer_refused :
    ¬ ∀ (events : List TransferEvent) (k : Nat) (d : DeviceId), (after events k).Quiet →
      (after events k).liveOf d < maxTransfersPerDevice → (after events k).liveCount < maxTransfersGlobal →
      ((after events k).callAlone d).calls[(after events k).calls.length]? = some ⟨d, live⟩ := by
  intro admitted
  have full : (after (visits 64) 384).Quiet ∧ (after (visits 64) 384).liveOf "new" < maxTransfersPerDevice ∧
      (after (visits 64) 384).liveCount < maxTransfersGlobal ∧
      ¬ ((after (visits 64) 384).callAlone "new").calls[(after (visits 64) 384).calls.length]? = some ⟨"new", live⟩ := by
    decide +kernel
  exact full.2.2.2 (admitted (visits 64) 384 "new" full.1 full.2.1 full.2.2.1)

/-- A phone that sends a fourth file while the first three are on their way. -/
def busyPhone : List TransferEvent :=
  ((List.range 4).flatMap fun n => TransferEvent.call "phone" :: List.replicate 3 (.step n)) ++ [.step 3]

theorem busyPhone_admission :
    (∀ semaphore, netChange busyPhone 3 semaphore 17 = 0) ∧
      ((after busyPhone 17).callAlone "tablet").calls[(after busyPhone 17).calls.length]? = some ⟨"tablet", live⟩ := by
  obtain ⟨-, unchanged, admitted⟩ := transfer_admission busyPhone 17
  exact ⟨unchanged 3 "phone" (by decide +kernel),
    admitted "tablet" (by decide +kernel) (by decide +kernel) (by decide +kernel) (.inr (by decide +kernel))⟩

end Transfers

end RustConnect
