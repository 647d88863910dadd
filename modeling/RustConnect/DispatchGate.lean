import RustConnect.Discovery
import RustConnect.Teardown

namespace RustConnect

open Program

/-- What the packet loop of a link does: what it does to the daemon, the
packets it has received and those it hands to the router, what a notice to the
peer came to, and the look at `paired` that is meant for one packet. -/
inductive GateAction
  | daemon (action : DaemonAction)
  | received (deviceId : DeviceId) (packet : Packet)
  | isPaired (deviceId : DeviceId) (packet : Packet)
  | route (deviceId : DeviceId) (packet : Packet)
  | noticed (deviceId : DeviceId) (result : Except Error Unit)

@[reducible] def GateAction.Answer : GateAction → Type
  | daemon action => action.Answer
  | isPaired _ _ => Bool
  | route _ _ => Except Error (Option (List Packet))
  | _ => Unit

/-- The daemon, and what the router is going to answer. -/
structure GateState where
  daemon : DaemonState := {}
  replies : List (Except Error (Option (List Packet))) := []

def GateAction.exec (codec : JsonCodec) : (action : GateAction) → GateState → action.Answer × GateState
  | daemon action, s => ((action.exec codec s.daemon).1, { s with daemon := (action.exec codec s.daemon).2 })
  | received _ _, s => ((), s)
  | isPaired d _, s => ((s.daemon.pairing.paired.lookup d).isSome, s)
  | route _ _, s => (s.replies.headD (.ok none), { s with replies := s.replies.tail })
  | noticed _ _, s => ((), s)

abbrev GateProgram := Program GateAction GateAction.Answer

/-- What a round of the loop is about. -/
inductive LoopInput
  | packet (packet : Packet)
  | timeout
  | readError
  | cancelled
  | shutdown
  | idle

/-- The packets that the rounds of a loop are about. -/
def packetsOf (inputs : List LoopInput) : List Packet :=
  inputs.filterMap fun input => match input with
    | .packet packet => some packet
    | _ => none

namespace DispatchGate

open GateAction

@[simp] def perform (action : GateAction) : GateProgram action.Answer := Program.call action

def onDaemon {α : Type} (program : DaemonProgram α) : GateProgram α := program.hoist fun action => perform (daemon action)

variable (config : DaemonSettings) (d : DeviceId) (generation : UInt64)

/-- The peer is told `pair: false`. -/
def notifyUnpaired : GateProgram Unit := do
  let result ← onDaemon (Daemon.onLoop config.print (PacketLoop.sendPairResponse d false))
  perform (noticed d result)

/-- The packet goes to the router, and what comes back to the peer. -/
def dispatch (packet : Packet) : GateProgram Unit := do
  if let .ok (some packets) ← perform (route d packet) then
    onDaemon (BackgroundEvent.sendAll config.print d packets)

/-- An arm of the loop that can end it. -/
def endsWith (event : LoopEvent) : GateProgram (Option LoopResult) :=
  onDaemon (Teardown.endLoop config.print config.platform config.pairing d generation event)

/-- `run_packet_loop` from a round on, with what its rounds are about. -/
def runPacketLoop : Bool → List LoopInput → GateProgram (Option LoopResult)
  | _, [] => return none
  | unpairNotified, .timeout :: rest => runPacketLoop unpairNotified rest
  | unpairNotified, .packet packet :: rest => do
    perform (.received d packet)
    if packet.isPair then
      match ← endsWith config d generation (.pairPacket packet) with
      | some result => return some result
      | none => runPacketLoop false rest
    else if ← perform (isPaired d packet) then
      dispatch config d packet
      runPacketLoop unpairNotified rest
    else
      if !unpairNotified then
        notifyUnpaired config d
      runPacketLoop true rest
  | _, .readError :: _ => endsWith config d generation .readError
  | _, .cancelled :: _ => endsWith config d generation .cancelled
  | _, .shutdown :: _ => endsWith config d generation .shutdown
  | unpairNotified, .idle :: rest => do
    let _ ← onDaemon (Teardown.idleArm d generation)
    runPacketLoop unpairNotified rest

end DispatchGate

/-- The packet loop of a link, and whatever else the daemon does. -/
inductive GateTask
  | loop (deviceId : DeviceId) (generation : UInt64) (inputs : List LoopInput)
  | other (task : DiscoveryTask)

def GateTask.program (config : DaemonSettings) : GateTask → GateProgram Unit
  | loop d generation inputs => do let _ ← DispatchGate.runPacketLoop config d generation false inputs
  | other task => DispatchGate.onDaemon (task.program config)

namespace DispatchGate

open GateAction

/-- The daemon after the first `k` turns. -/
def atTurn (config : DaemonSettings) (start : GateState) (turns : List (Turn GateTask)) (k : Nat) :
    Pool GateAction GateAction.Answer GateState :=
  Pool.after (GateAction.exec config.codec) (GateTask.program config) start turns k

section Record

/-- What a task has done, with the answers it got. -/
abbrev Doings := List (Σ action : GateAction, action.Answer)

def routedPacket : (Σ action : GateAction, action.Answer) → Option (DeviceId × Packet)
  | ⟨route d packet, _⟩ => some (d, packet)
  | _ => none

def receivedPacket : (Σ action : GateAction, action.Answer) → Option (DeviceId × Packet)
  | ⟨.received d packet, _⟩ => some (d, packet)
  | _ => none

def otherPacket : (Σ action : GateAction, action.Answer) → Option (DeviceId × Packet)
  | ⟨.received d packet, _⟩ => if packet.isPair then none else some (d, packet)
  | _ => none

def lookedPacket : (Σ action : GateAction, action.Answer) → Option (DeviceId × Packet)
  | ⟨isPaired d packet, _⟩ => some (d, packet)
  | _ => none

def droppedPacket : (Σ action : GateAction, action.Answer) → Option Packet
  | ⟨isPaired _ packet, false⟩ => some packet
  | _ => none

def noticeResult : (Σ action : GateAction, action.Answer) → Option (Except Error Unit)
  | ⟨noticed _ result, _⟩ => some result
  | _ => none

def isPairPacket : (Σ action : GateAction, action.Answer) → Bool
  | ⟨.received _ packet, _⟩ => packet.isPair
  | _ => false

/-- The packets that were handed to the router, with the device they are from. -/
def routed (doings : Doings) : List (DeviceId × Packet) := doings.filterMap routedPacket

/-- The packets that were received. -/
def received (doings : Doings) : List (DeviceId × Packet) := doings.filterMap receivedPacket

/-- The packets that were received and are no pair packets. -/
def receivedOthers (doings : Doings) : List (DeviceId × Packet) := doings.filterMap otherPacket

/-- The packets for which the loop has looked whether the device is paired. -/
def lookedAt (doings : Doings) : List (DeviceId × Packet) := doings.filterMap lookedPacket

/-- What was done since the last pair packet was received. -/
def stretch (doings : Doings) : Doings :=
  doings.foldl (fun since entry => if isPairPacket entry then [] else since ++ [entry]) []

/-- The packets that the gate has not let through in a stretch. -/
def dropped (since : Doings) : List Packet := since.filterMap droppedPacket

/-- What the notices of a stretch came to. -/
def notices (since : Doings) : List (Except Error Unit) := since.filterMap noticeResult

/-- The packet that a task is about to hand to the router. -/
def onItsWay (pool : Pool GateAction GateAction.Answer GateState) (task : Nat) : List (DeviceId × Packet) :=
  match pool.next task with
  | some (route d packet) => [(d, packet)]
  | _ => []

/-- The packet that a task has just received and is about to look at. -/
def justReceived (pool : Pool GateAction GateAction.Answer GateState) (task : Nat) : List (DeviceId × Packet) :=
  match pool.next task with
  | some (isPaired d packet) => [(d, packet)]
  | _ => []

/-- The loop waits for its next packet, or has ended. -/
def Resting (pool : Pool GateAction GateAction.Answer GateState) (task : Nat) : Prop :=
  pool.next task = none ∨ ∃ d packet, pool.next task = some (.received d packet)

/-- The packet that a task is about to look at while its device is paired. -/
def admits (task : Nat) (pool : Pool GateAction GateAction.Answer GateState) : Option (DeviceId × Packet) :=
  match pool.next task with
  | some (isPaired d packet) => if (pool.shared.daemon.pairing.paired.lookup d).isSome then some (d, packet) else none
  | _ => none

/-- The packet, other than a pair packet, that a task is about to receive while its device is paired. -/
def receives (task : Nat) (pool : Pool GateAction GateAction.Answer GateState) : Option (DeviceId × Packet) :=
  match pool.next task with
  | some (.received d packet) =>
    if !packet.isPair && (pool.shared.daemon.pairing.paired.lookup d).isSome then some (d, packet) else none
  | _ => none

def isTurnOf (task : Nat) : Option (Turn GateTask) → Bool
  | some (.take taken) => taken == task
  | _ => false

variable (config : DaemonSettings) (start : GateState) (turns : List (Turn GateTask)) (task : Nat)

/-- What the first `k` turns of a task are about, in their order. -/
def inTurns (about : Nat → Pool GateAction GateAction.Answer GateState → Option (DeviceId × Packet)) (k : Nat) :
    List (DeviceId × Packet) :=
  (List.range k).filterMap fun j => if isTurnOf task turns[j]? then about task (atTurn config start turns j) else none

end Record

/-- Where a loop stands, and whether the peer was told in this stretch. -/
inductive GatePhase
  | waiting (told : Bool)
  | took (told : Bool) (deviceId : DeviceId) (packet : Packet)
  | passing (told : Bool) (deviceId : DeviceId) (packet : Packet)
  | telling

open GatePhase

def move : GatePhase → (action : GateAction) → action.Answer → Option GatePhase
  | waiting told, .received d packet, _ => some (if packet.isPair then waiting false else took told d packet)
  | waiting told, daemon _, _ => some (waiting told)
  | took told d packet, isPaired e other, paired =>
    if e = d ∧ other = packet then
      some (if paired then passing told d packet else if told then waiting true else telling)
    else none
  | passing told d packet, route e other, _ => if e = d ∧ other = packet then some (waiting told) else none
  | telling, daemon _, _ => some telling
  | telling, noticed _ _, _ => some (waiting true)
  | _, _, _ => none

section Follows

variable {config : DaemonSettings} {d : DeviceId} {generation : UInt64} {α : Type}

/-- Everything is done with a packet before the loop can end. -/
def Waits : GatePhase → Prop
  | waiting _ => True
  | _ => False

theorem follows_onDaemon (program : DaemonProgram α) (told : Bool) :
    Follows move (waiting told) (onDaemon program) fun later _ => later = waiting told := by
  induction program with
  | done value => rfl
  | act action next ih => exact fun answer => ⟨waiting told, rfl, ih answer⟩

theorem follows_notifyUnpaired :
    Follows move telling (notifyUnpaired config d) fun later _ => later = waiting true := by
  have sends (program : DaemonProgram (Except Error Unit)) :
      Follows move telling (onDaemon program) fun later _ => later = telling := by
    induction program with
    | done value => rfl
    | act action next ih => exact fun answer => ⟨telling, rfl, ih answer⟩
  refine (follows_bind _ _ _).mpr ((sends _).weaken ?_)
  rintro _ result rfl
  exact fun _ => ⟨waiting true, rfl, rfl⟩

theorem follows_dispatch (told : Bool) (packet : Packet) :
    Follows move (passing told d packet) (dispatch config d packet) fun later _ => later = waiting told := by
  refine fun answer => ⟨waiting told, if_pos ⟨rfl, rfl⟩, ?_⟩
  rcases answer with e | _ | packets
  · rfl
  · rfl
  · exact follows_onDaemon _ told

theorem follows_runPacketLoop (inputs : List LoopInput) (told : Bool) :
    Follows move (waiting told) (runPacketLoop config d generation told inputs) fun later _ => Waits later := by
  have ends (told : Bool) (event : LoopEvent) :
      Follows move (waiting told) (endsWith config d generation event) fun later _ => later = waiting told :=
    follows_onDaemon _ told
  have ended (told : Bool) (event : LoopEvent) :
      Follows move (waiting told) (endsWith config d generation event) fun later _ => Waits later := by
    refine (ends told event).weaken ?_
    rintro _ - rfl
    trivial
  induction inputs generalizing told with
  | nil => trivial
  | cons input rest ih =>
    cases input with
    | timeout => exact ih told
    | readError => exact ended told .readError
    | cancelled => exact ended told .cancelled
    | shutdown => exact ended told .shutdown
    | idle =>
      refine (follows_bind (onDaemon _) _ _).mpr ((follows_onDaemon _ told).weaken ?_)
      rintro _ - rfl
      exact ih told
    | packet packet =>
      refine fun _ => ⟨if packet.isPair then waiting false else took told d packet, rfl, ?_⟩
      refine (follows_ite _ _ _ _).mpr ⟨fun pair => ?_, fun other => ?_⟩
      · rw [if_pos pair]
        refine (follows_bind _ _ _).mpr ((ends false (.pairPacket packet)).weaken ?_)
        rintro _ result rfl
        cases result with
        | none => exact ih false
        | some result => trivial
      · rw [if_neg other]
        refine fun paired => ⟨_, if_pos ⟨rfl, rfl⟩, ?_⟩
        cases paired with
        | true =>
          refine (follows_bind (dispatch config d packet) _ _).mpr ((follows_dispatch told packet).weaken ?_)
          rintro _ - rfl
          exact ih told
        | false =>
          cases told with
          | true => exact ih true
          | false =>
            refine (follows_bind (notifyUnpaired config d) _ _).mpr (follows_notifyUnpaired.weaken ?_)
            rintro _ - rfl
            exact ih true

theorem follows_task (task : GateTask) : Follows move (waiting false) (task.program config) fun later _ => Waits later := by
  cases task with
  | loop d generation inputs =>
    exact (follows_bind _ _ _).mpr ((follows_runPacketLoop inputs false).weaken fun _ _ waits => waits)
  | other task =>
    refine (follows_onDaemon _ false).weaken ?_
    rintro _ - rfl
    trivial

end Follows

def passedPacket : (Σ action : GateAction, action.Answer) → Option (DeviceId × Packet)
  | ⟨isPaired d packet, true⟩ => some (d, packet)
  | _ => none

/-- The packets that the gate has let through. -/
def passed (doings : Doings) : List (DeviceId × Packet) := doings.filterMap passedPacket

def GatePhase.told : GatePhase → Bool
  | waiting told | took told _ _ | passing told _ _ => told
  | telling => false

/-- No packet was dropped in this stretch. -/
def GatePhase.spared : GatePhase → Bool
  | waiting told | took told _ _ | passing told _ _ => !told
  | telling => false

def GatePhase.carried : GatePhase → List (DeviceId × Packet)
  | passing _ d packet => [(d, packet)]
  | _ => []

def GatePhase.taken : GatePhase → List (DeviceId × Packet)
  | took _ d packet => [(d, packet)]
  | _ => []

/-- What a task in the phase has done. -/
structure Recorded (phase : GatePhase) (doings : Doings) : Prop where
  looks : receivedOthers doings = lookedAt doings ++ phase.taken
  passes : passed doings = routed doings ++ phase.carried
  tells : (notices (stretch doings)).length = phase.told.toNat
  spares : dropped (stretch doings) = [] ↔ phase.spared = true

section Note

variable {phase later : GatePhase} {doings : Doings} {entry : Σ action : GateAction, action.Answer}

theorem filterMap_concat {α β : Type} (f : α → Option β) (entries : List α) (entry : α) :
    (entries ++ [entry]).filterMap f = entries.filterMap f ++ (f entry).toList := by
  rw [List.filterMap_append]
  cases found : f entry <;> simp [found]

theorem stretch_concat (doings : Doings) (entry : Σ action : GateAction, action.Answer) :
    stretch (doings ++ [entry]) = if isPairPacket entry then [] else stretch doings ++ [entry] := by
  simp only [stretch, List.foldl_append, List.foldl_cons, List.foldl_nil]

/-- What is done within a stretch, by what it adds to each account. -/
theorem Recorded.within (recorded : Recorded phase doings) (inside : isPairPacket entry = false)
    (takes : phase.taken ++ (otherPacket entry).toList = (lookedPacket entry).toList ++ later.taken)
    (carries : phase.carried ++ (passedPacket entry).toList = (routedPacket entry).toList ++ later.carried)
    (tells : phase.told.toNat + (noticeResult entry).toList.length = later.told.toNat)
    (spares : later.spared = (phase.spared && (droppedPacket entry).isNone)) : Recorded later (doings ++ [entry]) where
  looks := by
    calc
      receivedOthers (doings ++ [entry]) = lookedAt doings ++ (phase.taken ++ (otherPacket entry).toList) := by
        rw [receivedOthers, filterMap_concat, ← receivedOthers, recorded.looks, List.append_assoc]
      _ = lookedAt (doings ++ [entry]) ++ later.taken := by
        rw [takes, ← List.append_assoc, lookedAt, lookedAt, filterMap_concat]
  passes := by
    calc
      passed (doings ++ [entry]) = routed doings ++ (phase.carried ++ (passedPacket entry).toList) := by
        rw [passed, filterMap_concat, ← passed, recorded.passes, List.append_assoc]
      _ = routed (doings ++ [entry]) ++ later.carried := by
        rw [carries, ← List.append_assoc, routed, routed, filterMap_concat]
  tells := by
    rw [stretch_concat, inside, if_neg Bool.false_ne_true, notices, filterMap_concat, List.length_append, ← notices,
      recorded.tells, tells]
  spares := by
    rw [stretch_concat, inside, if_neg Bool.false_ne_true, dropped, filterMap_concat, List.append_eq_nil_iff, ← dropped,
      recorded.spares, spares, Bool.and_eq_true]
    cases droppedPacket entry <;> simp

theorem Recorded.pairPacket {told : Bool} (recorded : Recorded (waiting told) doings) {d : DeviceId} {packet : Packet}
    (pair : packet.isPair = true) : Recorded (waiting false) (doings ++ [⟨.received d packet, ()⟩]) where
  looks := by
    rw [receivedOthers, filterMap_concat, otherPacket, if_pos pair, lookedAt, filterMap_concat, ← receivedOthers, ← lookedAt,
      recorded.looks]
    rfl
  passes := by
    rw [passed, filterMap_concat, routed, filterMap_concat, ← passed, ← routed, recorded.passes]
    rfl
  tells := by
    rw [stretch_concat, isPairPacket, if_pos pair]
    rfl
  spares := by
    rw [stretch_concat, isPairPacket, if_pos pair]
    exact iff_of_true rfl rfl

theorem Recorded.note (recorded : Recorded phase doings) {action : GateAction} {answer : action.Answer}
    (moved : move phase action answer = some later) : Recorded later (doings ++ [⟨action, answer⟩]) := by
  unfold move at moved
  split at moved
  · rename_i told d packet _
    cases moved
    by_cases pair : packet.isPair = true
    · rw [if_pos pair]
      exact recorded.pairPacket pair
    · rw [if_neg pair]
      have takes : [] ++ (otherPacket ⟨.received d packet, ()⟩).toList = [] ++ [(d, packet)] := by
        rw [otherPacket, if_neg pair]
        rfl
      exact recorded.within (by simpa [isPairPacket] using pair) takes rfl rfl (Bool.and_true _).symm
  · cases moved
    exact recorded.within rfl rfl rfl rfl (Bool.and_true _).symm
  · rename_i told d packet e other paired
    split at moved
    · rename_i same
      obtain ⟨rfl, rfl⟩ := same
      cases moved
      cases paired with
      | true => exact recorded.within rfl rfl rfl rfl (Bool.and_true _).symm
      | false =>
        cases told with
        | true => exact recorded.within rfl rfl rfl rfl rfl
        | false => exact recorded.within rfl rfl rfl rfl rfl
    · cases moved
  · rename_i told d packet e other _
    split at moved
    · rename_i same
      obtain ⟨rfl, rfl⟩ := same
      cases moved
      exact recorded.within rfl rfl rfl rfl (Bool.and_true _).symm
    · cases moved
  · cases moved
    exact recorded.within rfl rfl rfl rfl rfl
  · cases moved
    exact recorded.within rfl rfl rfl rfl rfl
  · cases moved

end Note

theorem recorded_all (config : DaemonSettings) (start : GateState) (turns : List (Turn GateTask)) (k : Nat) :
    ∃ phases, Pool.Phased move (waiting false) Waits (atTurn config start turns k) phases ∧
      ∀ task, Recorded (phases task) (Pool.own (atTurn config start turns k).trace task) := by
  have invariant : Pool.Invariant move (waiting false) Waits (GateAction.exec config.codec) (GateTask.program config)
      (fun _ _ => True) (fun _ phases trace => ∀ task, Recorded (phases task) (Pool.own trace task)) := by
    refine ⟨follows_task, fun pool phases task action later recorded next _ moved other => ?_⟩
    by_cases same : other = task
    · subst same
      rw [Function.update_self, Pool.own_concat]
      exact (recorded other).note moved
    · rw [Function.update_of_ne same, Pool.own_concat_ne _ same]
      exact recorded other
  exact invariant.run (fun task => ⟨rfl, rfl, rfl, iff_of_true rfl rfl⟩) (fun _ _ _ => trivial) k

/-- An action lets a packet through exactly when the packet is looked at while its device is paired. -/
theorem passedPacket_exec (codec : JsonCodec) (pool : Pool GateAction GateAction.Answer GateState) {task : Nat} {action : GateAction}
    (next : pool.next task = some action) :
    passedPacket ⟨action, (action.exec codec pool.shared).1⟩ = admits task pool := by
  rw [admits, next]
  cases action with
  | isPaired d packet =>
    show passedPacket ⟨isPaired d packet, (pool.shared.daemon.pairing.paired.lookup d).isSome⟩ =
      if (pool.shared.daemon.pairing.paired.lookup d).isSome = true then some (d, packet) else none
    cases (pool.shared.daemon.pairing.paired.lookup d).isSome <;> rfl
  | _ => rfl

/-- What the gate lets through is what it looks at while the device is paired. -/
theorem passed_eq_admitted (config : DaemonSettings) (start : GateState) (turns : List (Turn GateTask)) (task k : Nat) :
    passed (Pool.own (atTurn config start turns k).trace task) = inTurns config start turns task admits k := by
  induction k with
  | zero => rfl
  | succ k ih =>
    have grows : inTurns config start turns task admits (k + 1) = inTurns config start turns task admits k ++
        (if isTurnOf task turns[k]? then admits task (atTurn config start turns k) else none).toList := by
      rw [inTurns, List.range_succ, filterMap_concat, ← inTurns]
    rw [grows, ← ih]
    cases here : turns[k]? with
    | none =>
      rw [atTurn, Pool.after, History.stateAt_past_end here]
      exact (List.append_nil _).symm
    | some turn =>
      have onward : atTurn config start turns (k + 1) =
          (atTurn config start turns k).step (GateAction.exec config.codec) (GateTask.program config) turn :=
        History.stateAt_succ here
      rw [onward]
      cases turn with
      | spawn op => exact (List.append_nil _).symm
      | take taken =>
        cases found : (atTurn config start turns k).next taken with
        | none =>
          rw [Pool.step_of_none found]
          by_cases same : taken = task
          · subst same
            simp [admits, found]
          · simp [isTurnOf, same]
        | some action =>
          rw [Pool.trace_of_next found]
          by_cases same : taken = task
          · subst same
            rw [Pool.own_concat, passed, filterMap_concat, ← passed, passedPacket_exec config.codec _ found]
            simp [isTurnOf]
          · rw [Pool.own_concat_ne _ (Ne.symm same)]
            simp [isTurnOf, same]

theorem waits_of_none {pool : Pool GateAction GateAction.Answer GateState} {phases : Nat → GatePhase} {task : Nat}
    (phased : Pool.Phased move (waiting false) Waits pool phases) (rests : pool.next task = none) : Waits (phases task) := by
  rcases phased.rests rests with first | waits
  · rw [first]
    trivial
  · exact waits

/-- A packet that was let through and is not with the router yet is on its way. -/
theorem carried_eq (codec : JsonCodec) {pool : Pool GateAction GateAction.Answer GateState} {phases : Nat → GatePhase}
    {task : Nat} (phased : Pool.Phased move (waiting false) Waits pool phases) : (phases task).carried = onItsWay pool task := by
  unfold onItsWay
  cases about : pool.next task with
  | none =>
    have waits := waits_of_none phased about
    cases phase : phases task with
    | waiting told => rfl
    | _ => rw [phase] at waits; exact waits.elim
  | some action =>
    obtain ⟨later, moved⟩ := phased.moves about (action.exec codec pool.shared).1
    generalize phases task = phase at moved ⊢
    unfold move at moved
    split at moved
    · rfl
    · rfl
    · rfl
    · rename_i told d packet e other
      split at moved
      · rename_i same
        obtain ⟨rfl, rfl⟩ := same
        rfl
      · cases moved
    · rfl
    · rfl
    · cases moved

/-- A packet that was received and not looked at yet has just been received. -/
theorem taken_eq (codec : JsonCodec) {pool : Pool GateAction GateAction.Answer GateState} {phases : Nat → GatePhase}
    {task : Nat} (phased : Pool.Phased move (waiting false) Waits pool phases) : (phases task).taken = justReceived pool task := by
  unfold justReceived
  cases about : pool.next task with
  | none =>
    have waits := waits_of_none phased about
    cases phase : phases task with
    | waiting told => rfl
    | _ => rw [phase] at waits; exact waits.elim
  | some action =>
    obtain ⟨later, moved⟩ := phased.moves about (action.exec codec pool.shared).1
    generalize phases task = phase at moved ⊢
    unfold move at moved
    split at moved
    · rfl
    · rfl
    · rename_i told d packet e other
      split at moved
      · rename_i same
        obtain ⟨rfl, rfl⟩ := same
        rfl
      · cases moved
    · rfl
    · rfl
    · rfl
    · cases moved

theorem waits_of_resting {pool : Pool GateAction GateAction.Answer GateState} {phases : Nat → GatePhase} {task : Nat}
    (phased : Pool.Phased move (waiting false) Waits pool phases) (resting : Resting pool task) : Waits (phases task) := by
  rcases resting with rests | ⟨d, packet, about⟩
  · exact waits_of_none phased rests
  · obtain ⟨later, moved⟩ := phased.moves about ()
    cases phase : phases task with
    | waiting told => trivial
    | _ =>
      rw [phase] at moved
      cases moved

section Inputs

variable {config : DaemonSettings} {d : DeviceId} {generation : UInt64} {α : Type}

variable (d) in
/-- A loop of the device receives the packets in their order. -/
def receive : List Packet → (action : GateAction) → action.Answer → Option (List Packet)
  | packet :: rest, .received e other, _ => if e = d ∧ other = packet then some rest else none
  | [], .received _ _, _ => none
  | left, _, _ => some left

theorem receives_onDaemon (program : DaemonProgram α) (left : List Packet) :
    Follows (receive d) left (onDaemon program) fun later _ => later = left := by
  induction program with
  | done value => rfl
  | act action next ih => exact fun answer => ⟨left, by cases left <;> rfl, ih answer⟩

theorem receives_notifyUnpaired (left : List Packet) :
    Follows (receive d) left (notifyUnpaired config d) fun later _ => later = left := by
  refine (follows_bind _ _ _).mpr ((receives_onDaemon _ left).weaken fun later result same => ?_)
  rw [same]
  exact fun _ => ⟨left, by cases left <;> rfl, rfl⟩

theorem receives_dispatch (packet : Packet) (left : List Packet) :
    Follows (receive d) left (dispatch config d packet) fun later _ => later = left := by
  refine fun answer => ⟨left, by cases left <;> rfl, ?_⟩
  rcases answer with e | _ | packets
  · rfl
  · rfl
  · exact receives_onDaemon _ left

theorem receives_runPacketLoop (inputs : List LoopInput) (told : Bool) :
    Follows (receive d) (packetsOf inputs) (runPacketLoop config d generation told inputs) fun _ _ => True := by
  have ends (event : LoopEvent) (left : List Packet) :
      Follows (receive d) left (endsWith config d generation event) fun later _ => later = left := receives_onDaemon _ left
  have ended (event : LoopEvent) (left : List Packet) :
      Follows (receive d) left (endsWith config d generation event) fun _ _ => True := (ends event left).weaken fun _ _ _ => trivial
  induction inputs generalizing told with
  | nil => trivial
  | cons input rest ih =>
    cases input with
    | timeout => exact ih told
    | readError => exact ended .readError _
    | cancelled => exact ended .cancelled _
    | shutdown => exact ended .shutdown _
    | idle =>
      refine (follows_bind (onDaemon _) _ _).mpr ((receives_onDaemon _ _).weaken ?_)
      rintro _ - rfl
      exact ih told
    | packet packet =>
      refine fun _ => ⟨packetsOf rest, if_pos ⟨rfl, rfl⟩, ?_⟩
      refine (follows_ite _ _ _ _).mpr ⟨fun _ => ?_, fun _ => ?_⟩
      · refine (follows_bind _ _ _).mpr ((ends (.pairPacket packet) _).weaken ?_)
        rintro _ result rfl
        cases result with
        | none => exact ih false
        | some result => trivial
      · refine fun paired => ⟨packetsOf rest, by cases packetsOf rest <;> rfl, ?_⟩
        cases paired with
        | true =>
          refine (follows_bind (dispatch config d packet) _ _).mpr ((receives_dispatch packet _).weaken ?_)
          rintro _ - rfl
          exact ih told
        | false =>
          cases told with
          | true => exact ih true
          | false =>
            refine (follows_bind (notifyUnpaired config d) _ _).mpr ((receives_notifyUnpaired _).weaken ?_)
            rintro _ - rfl
            exact ih true

/-- What has been received and what is left to be received are the packets of the rounds. -/
theorem received_of_trail {left : List Packet} {program last : GateProgram Unit} {doings : Doings}
    (trail : Trail program doings last) (follows : Follows (receive d) left program fun _ _ => True) :
    ∃ rest, left.map (d, ·) = received doings ++ rest := by
  induction trail generalizing left with
  | refl => exact ⟨left.map (d, ·), rfl⟩
  | @act action next answer doings last trail ih =>
    obtain ⟨later, moved, follows⟩ := follows answer
    obtain ⟨rest, same⟩ := ih follows
    cases action with
    | received e other =>
      cases left with
      | nil => cases moved
      | cons packet others =>
        obtain ⟨⟨rfl, rfl⟩, onward⟩ := Option.ite_none_right_eq_some.mp moved
        cases onward
        exact ⟨rest, congrArg ((e, other) :: ·) same⟩
    | _ =>
      obtain rfl : left = later := by cases left <;> exact Option.some.inj moved
      exact ⟨rest, same⟩

/-- A loop receives packets of its device only, in the order in which they come. -/
theorem received_prefix {start : GateState} {turns : List (Turn GateTask)} {k task : Nat} {inputs : List LoopInput}
    (asked : (Pool.spawned (turns.take k))[task]? = some (.loop d generation inputs)) :
    received (Pool.own (atTurn config start turns k).trace task) <+: (packetsOf inputs).map (d, ·) := by
  have trails := Pool.onTrail (GateAction.exec config.codec) (GateTask.program config) start turns k
  have inside : task < (atTurn config start turns k).tasks.length := by
    have spawned := (List.getElem?_eq_some_iff.mp asked).1
    rw [← trails.length] at spawned
    exact spawned
  have follows : Follows (receive d) (packetsOf inputs) ((GateTask.loop d generation inputs).program config) fun _ _ => True :=
    (follows_bind _ _ _).mpr ((receives_runPacketLoop inputs false).weaken fun _ _ _ => trivial)
  obtain ⟨rest, same⟩ := received_of_trail (trails.trail task _ _ asked (List.getElem?_eq_getElem inside)) follows
  exact ⟨rest, same.symm⟩

end Inputs

/-- A loop receives packets of its device as they come, and looks at the pairing
for each of them that is no pair packet, in their order, up to the one that it
has just received. The packets handed to the router are exactly, in their order,
those that were looked at while the device was paired, up to one that is on its
way. Since the last pair packet the peer is told once at most, and it is told
when a packet was dropped. -/
theorem gate_dispatches (config : DaemonSettings) (start : GateState) (turns : List (Turn GateTask)) (k task : Nat) :
    (∀ d generation inputs, (Pool.spawned (turns.take k))[task]? = some (.loop d generation inputs) →
      received (Pool.own (atTurn config start turns k).trace task) <+: (packetsOf inputs).map (d, ·)) ∧
      receivedOthers (Pool.own (atTurn config start turns k).trace task) =
        lookedAt (Pool.own (atTurn config start turns k).trace task) ++ justReceived (atTurn config start turns k) task ∧
      inTurns config start turns task admits k =
        routed (Pool.own (atTurn config start turns k).trace task) ++ onItsWay (atTurn config start turns k) task ∧
      (notices (stretch (Pool.own (atTurn config start turns k).trace task))).length ≤ 1 ∧
      (Resting (atTurn config start turns k) task → dropped (stretch (Pool.own (atTurn config start turns k).trace task)) ≠ [] →
        ∃ result, notices (stretch (Pool.own (atTurn config start turns k).trace task)) = [result]) := by
  obtain ⟨phases, phased, recorded⟩ := recorded_all config start turns k
  refine ⟨fun d generation inputs asked => ?_, ?_, ?_, ?_, fun resting drops => ?_⟩
  · exact received_prefix asked
  · rw [(recorded task).looks, taken_eq config.codec phased]
  · rw [← passed_eq_admitted, (recorded task).passes, carried_eq config.codec phased]
  · rw [(recorded task).tells]
    exact Bool.toNat_le _
  · have waits := waits_of_resting phased resting
    have told : (phases task).told = true := by
      have drops := mt (recorded task).spares.mpr drops
      cases phase : phases task with
      | waiting told => simpa [phase, GatePhase.spared, GatePhase.told] using drops
      | _ =>
        rw [phase] at waits
        exact waits.elim
    have once := (recorded task).tells
    rw [told] at once
    exact List.length_eq_one_iff.mp once

section Sample

open RefusedAttempts PacketSerializer

/-- A phone that is not paired sends two pings. -/
def strangerPings : List (Turn GateTask) :=
  .spawn (.loop phoneId 1 [.packet pingPacket, .packet pingPacket]) :: List.replicate 9 (.take 0)

theorem stranger_told_once :
    dropped (stretch (Pool.own (atTurn ConnectionSetup.desktop {} strangerPings 10).trace 0)) = [pingPacket, pingPacket] ∧
      ∃ result, notices (stretch (Pool.own (atTurn ConnectionSetup.desktop {} strangerPings 10).trace 0)) = [result] := by
  have drops : dropped (stretch (Pool.own (atTurn ConnectionSetup.desktop {} strangerPings 10).trace 0)) =
      [pingPacket, pingPacket] := by decide +kernel
  have rests : ((atTurn ConnectionSetup.desktop {} strangerPings 10).next 0).isNone = true := by decide +kernel
  have resting : Resting (atTurn ConnectionSetup.desktop {} strangerPings 10) 0 := .inl (Option.isNone_iff_eq_none.mp rests)
  refine ⟨drops, (gate_dispatches ConnectionSetup.desktop {} strangerPings 10 0).2.2.2.2 resting ?_⟩
  rw [drops]
  exact List.cons_ne_nil _ _

/-- A paired phone sends a ping, and is unpaired before the loop looks. -/
def unpairedMeanwhile : List (Turn GateTask) :=
  (.spawn (.loop phoneId 1 [.packet pingPacket]) :: .take 0 ::
    .spawn (.other (.setUp (.api (.daemon (.asks (.unpair phoneId)))))) :: List.replicate 10 (.take 1) : List (Turn GateTask)) ++
  List.replicate 6 (Turn.take 0)

/-- The ping was received while the phone was paired, and is dropped. -/
theorem received_ping_dropped :
    ¬(∀ (config : DaemonSettings) (start : GateState) (turns : List (Turn GateTask)) (k task : Nat),
      Resting (atTurn config start turns k) task →
      routed (Pool.own (atTurn config start turns k).trace task) = inTurns config start turns task receives k) := by
  intro always
  have rests : ((atTurn ConnectionSetup.desktop { daemon := Discovery.pairedPhone } unpairedMeanwhile 19).next 0).isNone = true := by
    decide +kernel
  have all := always ConnectionSetup.desktop { daemon := Discovery.pairedPhone } unpairedMeanwhile 19 0
    (.inl (Option.isNone_iff_eq_none.mp rests))
  have none : (routed (Pool.own (atTurn ConnectionSetup.desktop { daemon := Discovery.pairedPhone } unpairedMeanwhile 19).trace
      0)).length = 0 := by decide +kernel
  have one : (inTurns ConnectionSetup.desktop { daemon := Discovery.pairedPhone } unpairedMeanwhile 0 receives 19).length = 1 := by
    decide +kernel
  rw [all, one] at none
  cases none

end Sample

end DispatchGate

end RustConnect
