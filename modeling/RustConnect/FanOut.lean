import RustConnect.PairingCalls
import RustConnect.WholeFrames

namespace RustConnect

open Program DaemonAction Daemon

/-- An event of a background sender, with what its plugin makes of it: the
packet of a clipboard change or of an MPRIS event, the deltas and, if it has to
be sent, the sink list of a system-volume event, and the sink list and the
peers that were synced before of a peer-sync tick. -/
inductive BackgroundEvent
  | clipboard (packet : Packet)
  | mpris (packet : Packet)
  | pushLocalState (deltas : List Packet) (sinkList : Option Json)
  | syncPeers (synced : List DeviceId) (sinkList : Json)

namespace BackgroundEvent

variable (print : Json → String)

def sendAll (d : DeviceId) : List Packet → DaemonProgram Unit
  | [] => return
  | packet :: rest => do
    attempt (sendPacket print d packet)
    sendAll d rest

/-- `Packet::new`, sent. -/
def sendNew (d : DeviceId) (packetType : String) (body : Json) : DaemonProgram Unit := do
  let id ← perform generatePacketId
  attempt (sendPacket print d (.new id packetType body))

def fanOut (packet : Packet) : List DeviceId → DaemonProgram Unit
  | [] => return
  | d :: rest => do
    attempt (sendPacket print d packet)
    fanOut packet rest

def pushTo (deltas : List Packet) (sinkList : Option Json) : List DeviceId → DaemonProgram Unit
  | [] => return
  | d :: rest => do
    sendAll print d deltas
    if let some body := sinkList then
      sendNew print d "kdeconnect.systemvolume" body
    pushTo deltas sinkList rest

def syncPeer (sinkList : Json) (d : DeviceId) (peer : Device) : DaemonProgram Unit := do
  if peer.incomingCapabilities.contains "kdeconnect.systemvolume" then
    sendNew print d "kdeconnect.systemvolume" sinkList
  if peer.outgoingCapabilities.contains "kdeconnect.systemvolume" then
    sendNew print d "kdeconnect.systemvolume.request" (.obj [("requestSinks", .bool true)])

def syncEach (synced : List DeviceId) (sinkList : Json) : List DeviceId → DaemonProgram Unit
  | [] => return
  | d :: rest => do
    if !synced.contains d then
      if let some peer ← perform (registryGet d) then
        syncPeer print sinkList d peer
    syncEach synced sinkList rest

/-- The targets are the devices with a link at that moment. -/
def program : BackgroundEvent → DaemonProgram Unit
  | clipboard packet | mpris packet => do fanOut print packet (← perform fanOutTargets)
  | pushLocalState deltas sinkList => do pushTo print deltas sinkList (← perform fanOutTargets)
  | syncPeers synced sinkList => do
    let connected ← perform fanOutTargets
    syncEach print (synced.filter connected.contains) sinkList connected

end BackgroundEvent

/-- The tasks of the daemon: background senders, what goes on on the links,
the calls to the pairing handler, the pair packets of the packet loops, and
the time that passes. -/
inductive DaemonTask
  | background (event : BackgroundEvent)
  | links (task : LinkTask)
  | asks (call : LocalCall)
  | handles (deviceId : DeviceId) (generation : UInt64) (packet : Packet)
  | waits (duration : Time)

def DaemonTask.program (print : Json → String) (codec : JsonCodec) (platform : Platform) (settings : PairingSettings)
    (our : Identity) : DaemonTask → DaemonProgram Unit
  | background event => event.program print
  | links task => task.program print codec platform our
  | asks call => onPairing (attempt (call.program platform settings))
  | handles d generation packet => do let _ ← onLoop print (PacketLoop.handlePairPacket platform settings d generation packet)
  | waits duration => perform (pass duration)

namespace FanOut

/-- Whatever the answers, the program hands no packet for the device to `send_packet`. -/
def HandsNothing {α : Type} (d : DeviceId) (program : DaemonProgram α) : Prop :=
  program.Only (fun action => ∀ packet, action ≠ sendStart d packet) fun _ => True

def isPaired (s : DaemonState) (d : DeviceId) : Prop := (s.pairing.paired.lookup d).isSome

/-- The task is a background sender that has its targets. -/
def Aiming (trace : List (Nat × Σ action : DaemonAction, action.Answer)) (task : Nat) : Prop :=
  ∃ targets : List DeviceId, (task, ⟨fanOutTargets, targets⟩) ∈ trace

/-- A background sender takes its targets while every device with a link is
paired, and no device is unpaired for which one may still have a packet. -/
def Reserved (pool : Pool DaemonAction DaemonAction.Answer DaemonState) : Turn DaemonTask → Prop
  | .spawn _ => True
  | .take task => ∀ action, pool.next task = some action →
    match action with
    | fanOutTargets => ∀ d link, pool.shared.manager.connections.lookup d = some link → isPaired pool.shared d
    | pairing (.pairedRemove d) => ∀ sender program, pool.tasks[sender]? = some program → Aiming pool.trace sender →
      HandsNothing d program
    | _ => True

/-- Once the program has targets, it hands packets only for them. -/
def Targeted : DaemonProgram Unit → Prop
  | .done _ => True
  | .act fanOutTargets next => ∀ targets : List DeviceId, ∀ d ∉ targets, HandsNothing d (next targets)
  | .act _ next => ∀ answer, Targeted (next answer)

section Programs

variable {print : Json → String} {P : DaemonAction → Prop} {d : DeviceId} {targets : List DeviceId}

/-- `send_packet` to the device does only what `P` allows. -/
def SendsWithin (print : Json → String) (P : DaemonAction → Prop) (d : DeviceId) : Prop :=
  ∀ packet, (attempt (sendPacket print d packet)).Only P fun _ => True

theorem only_sendNew (sends : SendsWithin print P d) (ids : P generatePacketId) (packetType : String) (body : Json) :
    (BackgroundEvent.sendNew print d packetType body).Only P fun _ => True :=
  ⟨ids, fun _ => sends _⟩

theorem only_sendAll (sends : SendsWithin print P d) (packets : List Packet) :
    (BackgroundEvent.sendAll print d packets).Only P fun _ => True := by
  induction packets with
  | nil => trivial
  | cons packet rest ih => exact (only_bind _ _ _).mpr ((sends packet).followedBy fun _ => ih)

theorem only_fanOut (packet : Packet) (sends : ∀ d ∈ targets, SendsWithin print P d) :
    (BackgroundEvent.fanOut print packet targets).Only P fun _ => True := by
  induction targets with
  | nil => trivial
  | cons d rest ih =>
    obtain ⟨here, beyond⟩ := List.forall_mem_cons.mp sends
    exact (only_bind _ _ _).mpr ((here packet).followedBy fun _ => ih beyond)

theorem only_pushTo (deltas : List Packet) (sinkList : Option Json) (sends : ∀ d ∈ targets, SendsWithin print P d)
    (ids : P generatePacketId) : (BackgroundEvent.pushTo print deltas sinkList targets).Only P fun _ => True := by
  induction targets with
  | nil => trivial
  | cons d rest ih =>
    obtain ⟨here, beyond⟩ := List.forall_mem_cons.mp sends
    refine (only_bind _ _ _).mpr ((only_sendAll here deltas).followedBy fun _ => ?_)
    cases sinkList with
    | none => exact ih beyond
    | some body => exact (only_bind _ _ _).mpr ((only_sendNew here ids _ body).followedBy fun _ => ih beyond)

theorem only_syncPeer (sends : SendsWithin print P d) (ids : P generatePacketId) (sinkList : Json) (peer : Device) :
    (BackgroundEvent.syncPeer print sinkList d peer).Only P fun _ => True := by
  have request : Only (if peer.outgoingCapabilities.contains "kdeconnect.systemvolume" then
      BackgroundEvent.sendNew print d "kdeconnect.systemvolume.request" (.obj [("requestSinks", .bool true)]) else pure ()) P
      fun _ => True := by
    split
    · exact only_sendNew sends ids _ _
    · trivial
  unfold BackgroundEvent.syncPeer
  dsimp only
  by_cases consumes : peer.incomingCapabilities.contains "kdeconnect.systemvolume" = true
  · rw [if_pos consumes]
    exact (only_bind _ _ _).mpr ((only_sendNew sends ids _ _).followedBy fun _ => request)
  · rw [if_neg consumes]
    exact request

theorem only_syncEach (synced : List DeviceId) (sinkList : Json) (sends : ∀ d ∈ targets, SendsWithin print P d)
    (ids : P generatePacketId) (looks : ∀ d, P (registryGet d)) :
    (BackgroundEvent.syncEach print synced sinkList targets).Only P fun _ => True := by
  induction targets with
  | nil => trivial
  | cons d rest ih =>
    obtain ⟨here, beyond⟩ := List.forall_mem_cons.mp sends
    unfold BackgroundEvent.syncEach
    split
    · refine ⟨looks d, fun known => ?_⟩
      cases known with
      | none => exact ih beyond
      | some peer =>
        show Only (BackgroundEvent.syncPeer print sinkList d peer >>= fun _ => BackgroundEvent.syncEach print synced sinkList rest) P _
        exact (only_bind _ _ _).mpr ((only_syncPeer here ids sinkList peer).followedBy fun _ => ih beyond)
    · exact ih beyond

theorem sendsWithin_apart {e : DeviceId} (apart : e ≠ d) :
    SendsWithin print (fun action => ∀ packet, action ≠ sendStart d packet) e := fun packet =>
  (only_attempt _ _).mpr (only_sendPacket (fun other same => apart (by injection same)) (fun _ => nofun) (fun _ => nofun)
    (fun _ _ _ => nofun) fun _ _ _ => nofun)

theorem targeted_event (event : BackgroundEvent) : Targeted (event.program print) := by
  have apart {targets : List DeviceId} {d : DeviceId} (outside : d ∉ targets) :
      ∀ e ∈ targets, SendsWithin print (fun action => ∀ packet, action ≠ sendStart d packet) e :=
    fun e member => sendsWithin_apart fun same => outside (same ▸ member)
  cases event with
  | clipboard packet => exact fun targets d outside => only_fanOut packet (apart outside)
  | mpris packet => exact fun targets d outside => only_fanOut packet (apart outside)
  | pushLocalState deltas sinkList => exact fun targets d outside => only_pushTo deltas sinkList (apart outside) fun _ => nofun
  | syncPeers synced sinkList =>
    exact fun targets d outside => only_syncEach _ sinkList (apart outside) (fun _ => nofun) fun _ _ => nofun

/-- A task that takes no targets has none. -/
theorem targeted_of_only {program : DaemonProgram Unit} (only : program.Only ordinary fun _ => True) :
    Targeted program := by
  induction program with
  | done value => trivial
  | act action next ih =>
    cases action with
    | fanOutTargets => exact only.1.elim
    | _ => exact fun answer => ih answer (only.2 answer)

variable (codec : JsonCodec) (platform : Platform) (settings : PairingSettings) (our : Identity)

theorem ordinary_sendPacket (d : DeviceId) (packet : Packet) :
    Only (sendPacket print d packet).run ordinary fun _ => True :=
  only_sendPacket trivial trivial trivial (fun _ _ => trivial) fun _ _ => trivial

theorem ordinary_links (task : LinkTask) : (task.program print codec platform our).Only ordinary fun _ => True := by
  cases task with
  | manager op => exact only_onManager (fun _ => trivial) _
  | send d packet => exact (only_attempt _ _).mpr (ordinary_sendPacket d packet)
  | exchange patience plaintextIdentity d generation =>
    refine (only_bind _ _ _).mpr (Only.followedBy ?_ fun _ => trivial)
    exact only_runExchange codec platform (fun _ _ => trivial) trivial (fun _ => ordinary_sendPacket d _) trivial trivial trivial patience
      plaintextIdentity generation

theorem ordinary_translate (action : LoopAction) : (translate print action).Only ordinary fun _ => True := by
  cases action with
  | sendPacket d packet => exact ordinary_sendPacket d packet
  | disconnect d generation =>
    exact (only_map _ _ _).mpr ((only_onManager (fun _ => trivial) _).followedBy fun _ => trivial)
  | registryGet d => exact (only_map _ _ _).mpr ⟨trivial, fun _ => trivial⟩
  | _ => exact ⟨trivial, fun _ => trivial⟩

theorem ordinary_asks (call : LocalCall) :
    Only (onPairing (attempt (call.program platform settings))) ordinary fun _ => True :=
  only_onPairing (fun _ => trivial) _

theorem ordinary_handles (d : DeviceId) (generation : UInt64) (packet : Packet) :
    Only (onLoop print (PacketLoop.handlePairPacket platform settings d generation packet)) ordinary fun _ => True :=
  (only_trivial _).hoist fun action _ => ordinary_translate action

theorem targeted_task (task : DaemonTask) : Targeted (task.program print codec platform settings our) := by
  cases task with
  | background event => exact targeted_event event
  | links task => exact targeted_of_only (ordinary_links codec platform our task)
  | asks call => exact targeted_of_only (ordinary_asks platform settings call)
  | handles d generation packet =>
    exact targeted_of_only ((only_bind _ _ _).mpr ((ordinary_handles platform settings d generation packet).followedBy
      fun _ => trivial))
  | waits duration => exact fun _ => trivial

end Programs

variable {codec : JsonCodec} {d : DeviceId} {pool : Pool DaemonAction DaemonAction.Answer DaemonState}
  {trace : List (Nat × Σ action : DaemonAction, action.Answer)} {task : Nat}

/-- A device stays paired, unless it is just that which is undone. -/
theorem isPaired_exec {s : DaemonState} {action : DaemonAction} (paired : isPaired s d)
    (kept : action ≠ pairing (.pairedRemove d)) : isPaired (action.exec codec s).2 d := by
  cases action with
  | pairing action =>
    cases action with
    | pairedInsert e =>
      simp only [isPaired, exec, PairingAction.exec, Table.lookup_insert_of]
      split
      · rfl
      · exact paired
    | pairedRemove e =>
      have apart : d ≠ e := fun same => kept (by rw [same])
      simp only [isPaired, exec, PairingAction.exec, AList.lookup_erase_ne apart]
      exact paired
    | requestInsert q e request => cases q <;> exact paired
    | requestRemove q e => cases q <;> exact paired
    | requestRetain q => cases q <;> exact paired
    | _ => exact paired
  | _ => exact paired

theorem HandsNothing.next {action : DaemonAction} {next : action.Answer → DaemonProgram Unit}
    (nothing : HandsNothing d (.act action next)) (answer : action.Answer) : HandsNothing d (next answer) :=
  nothing.2 answer

theorem aiming_append {entry : Nat × Σ action : DaemonAction, action.Answer} :
    Aiming (trace ++ [entry]) task ↔ Aiming trace task ∨ ∃ targets : List DeviceId, entry = (task, ⟨fanOutTargets, targets⟩) := by
  constructor
  · rintro ⟨targets, member⟩
    rcases List.mem_append.mp member with before | last
    · exact .inl ⟨targets, before⟩
    · exact .inr ⟨targets, (List.mem_singleton.mp last).symm⟩
  · rintro (⟨targets, before⟩ | ⟨targets, rfl⟩)
    · exact ⟨targets, List.mem_append_left _ before⟩
    · exact ⟨targets, by simp⟩

/-- Every background sender that has its targets has packets for paired devices only. -/
structure Aimed (pool : Pool DaemonAction DaemonAction.Answer DaemonState) : Prop where
  there : ∀ task, Aiming pool.trace task → task < pool.tasks.length
  targeted : ∀ task program, pool.tasks[task]? = some program → Aiming pool.trace task ∨ Targeted program
  paired : ∀ task program, pool.tasks[task]? = some program → Aiming pool.trace task →
    ∀ d, isPaired pool.shared d ∨ HandsNothing d program

theorem Aimed.perform (aimed : Aimed pool) {action : DaemonAction} {next : action.Answer → DaemonProgram Unit}
    (here : pool.tasks[task]? = some (.act action next)) (reserved : Reserved pool (.take task)) :
    Aimed (pool.perform (DaemonAction.exec codec) task action next) := by
  have allowed := reserved action (by simp [Pool.next, here])
  have stays {other : Nat} {program : DaemonProgram Unit} (found : pool.tasks[other]? = some program)
      (aiming : Aiming pool.trace other) (d : DeviceId) :
      isPaired (action.exec codec pool.shared).2 d ∨ HandsNothing d program := by
    rcases aimed.paired other program found aiming d with paired | nothing
    · by_cases removes : action = pairing (.pairedRemove d)
      · subst removes
        exact .inr (allowed other program found aiming)
      · exact .inl (isPaired_exec paired removes)
    · exact .inr nothing
  have inside : task < pool.tasks.length := (List.getElem?_eq_some_iff.mp here).1
  have others {other : Nat} (apart : other ≠ task) {program : DaemonProgram Unit}
      (found : (pool.perform (DaemonAction.exec codec) task action next).tasks[other]? = some program) :
      pool.tasks[other]? = some program := by
    simpa [Pool.perform, List.getElem?_set_ne (Ne.symm apart)] using found
  have own {program : DaemonProgram Unit}
      (found : (pool.perform (DaemonAction.exec codec) task action next).tasks[task]? = some program) :
      program = next (action.exec codec pool.shared).1 := by
    simpa [Pool.perform, List.getElem?_set_self inside, eq_comm] using found
  refine ⟨fun other aiming => ?_, fun other program found => ?_, fun other program found aiming d => ?_⟩
  · have length : (pool.perform (DaemonAction.exec codec) task action next).tasks.length = pool.tasks.length := by
      simp [Pool.perform]
    rw [length]
    rcases aiming_append.mp aiming with before | ⟨targets, same⟩
    · exact aimed.there other before
    · obtain rfl : task = other := congrArg Prod.fst same
      exact inside
  · rcases eq_or_ne other task with rfl | apart
    · obtain rfl := own found
      rcases aimed.targeted other _ here with aiming | targeted
      · exact .inl (aiming_append.mpr (.inl aiming))
      · cases action with
        | fanOutTargets => exact .inl (aiming_append.mpr (.inr ⟨_, rfl⟩))
        | _ => exact .inr (targeted _)
    · rcases aimed.targeted other program (others apart found) with aiming | targeted
      · exact .inl (aiming_append.mpr (.inl aiming))
      · exact .inr targeted
  · rcases eq_or_ne other task with rfl | apart
    · obtain rfl := own found
      by_cases before : Aiming pool.trace other
      · rcases stays here before d with paired | nothing
        · exact .inl paired
        · exact .inr (nothing.next _)
      · rcases aiming_append.mp aiming with already | ⟨targets, same⟩
        · exact absurd already before
        · obtain rfl : action = fanOutTargets := congrArg (fun entry => entry.2.1) same
          have targeted := (aimed.targeted other _ here).resolve_left before
          by_cases member : d ∈ pool.shared.manager.connections.keys
          · obtain ⟨link, found⟩ := Option.isSome_iff_exists.mp ((Table.mem_keys_iff d _).mp member)
            exact .inl (allowed d link found)
          · exact .inr (targeted _ d member)
    · have aimedBefore : Aiming pool.trace other := by
        rcases aiming_append.mp aiming with before | ⟨targets, same⟩
        · exact before
        · exact absurd (congrArg Prod.fst same).symm apart
      exact stays (others apart found) aimedBefore d

variable (print : Json → String) (codec : JsonCodec) (platform : Platform) (settings : PairingSettings) (our : Identity)

theorem Aimed.step (aimed : Aimed pool) (turn : Turn DaemonTask) (reserved : Reserved pool turn) :
    Aimed (pool.step (DaemonAction.exec codec) (DaemonTask.program print codec platform settings our) turn) := by
  cases turn with
  | take task =>
    simp only [Pool.step]
    cases here : pool.tasks[task]? with
    | none => exact aimed
    | some program =>
      cases program with
      | done value => exact aimed
      | act action next => exact aimed.perform here reserved
  | spawn op =>
    refine ⟨fun task aiming => ?_, fun task program found => ?_, fun task program found aiming d => ?_⟩
    · have inside := aimed.there task aiming
      simp only [Pool.step, List.length_append, List.length_singleton]
      omega
    · rcases Nat.lt_or_ge task pool.tasks.length with old | new
      · exact aimed.targeted task program (by simpa [Pool.step, List.getElem?_append_left old] using found)
      · right
        have member := List.mem_of_getElem? (List.getElem?_append_right new ▸ found)
        obtain rfl : program = _ := List.mem_singleton.mp member
        exact targeted_task codec platform settings our op
    · have old := aimed.there task aiming
      exact aimed.paired task program (by simpa [Pool.step, List.getElem?_append_left old] using found) aiming d

/-- The tasks after the first `k` turns. -/
def atTurn (start : DaemonState) (turns : List (Turn DaemonTask)) (k : Nat) :
    Pool DaemonAction DaemonAction.Answer DaemonState :=
  Pool.after (DaemonAction.exec codec) (DaemonTask.program print codec platform settings our) start turns k

/-- Where every background sender finds only paired devices with a link, and
none is unpaired while it is a target, every packet that a background sender
hands to `send_packet` is for a device that is paired at that moment. -/
theorem fan_out_reaches_paired (start : DaemonState) (turns : List (Turn DaemonTask))
    (reserved : ∀ k turn, turns[k]? = some turn → Reserved (atTurn print codec platform settings our start turns k) turn)
    (k task : Nat) (d : DeviceId) (packet : Packet)
    (sender : Aiming (atTurn print codec platform settings our start turns k).trace task)
    (hands : (atTurn print codec platform settings our start turns k).next task = some (sendStart d packet)) :
    isPaired (atTurn print codec platform settings our start turns k).shared d := by
  have first : Aimed (Pool.start start) := by
    refine ⟨fun task aiming => ?_, by simp [Pool.start], by simp [Pool.start]⟩
    obtain ⟨targets, member⟩ := aiming
    cases member
  have aimed : Aimed (atTurn print codec platform settings our start turns k) :=
    Pool.after_induction first (fun pool turn here permission => here.step print codec platform settings our turn permission)
      reserved k
  cases found : (atTurn print codec platform settings our start turns k).tasks[task]? with
  | none => simp [Pool.next, found] at hands
  | some program =>
    cases program with
    | done value => simp [Pool.next, found] at hands
    | act action next =>
      obtain rfl : action = sendStart d packet := by simpa [Pool.next, found] using hands
      rcases aimed.paired task _ found sender d with paired | nothing
      · exact paired
      · exact absurd rfl (nothing.1 packet)

section Sample

/-- A phone has a link; it is paired or not. -/
def linkedPhone (paired : Table DeviceId Time) : DaemonState where
  pairing := { paired }
  manager := { connections := AList.insert "phone" ⟨0, 1, none⟩ ∅, nextLink := 1 }

def clipboardPacket : Packet := .new 1 "kdeconnect.clipboard" (.obj [("content", .str "secret")])

/-- The clipboard changes, and its sender takes its targets. -/
def clipboardChanges : List (Turn DaemonTask) := [.spawn (.background (.clipboard clipboardPacket)), .take 0]

abbrev phoneAt (paired : Table DeviceId Time) (k : Nat) : Pool DaemonAction DaemonAction.Answer DaemonState :=
  atTurn (fun _ => "") RefusedAttempts.phoneCodec RefusedAttempts.phonePlatform {} RefusedAttempts.phoneIdentity (linkedPhone paired)
    clipboardChanges k

theorem aiming_phone (paired : Table DeviceId Time) : Aiming (phoneAt paired 2).trace 0 := ⟨_, List.mem_singleton.mpr rfl⟩

theorem hands_phone (paired : Table DeviceId Time) : (phoneAt paired 2).next 0 = some (sendStart "phone" clipboardPacket) := rfl

theorem paired_phone_reached :
    (phoneAt (AList.insert "phone" 0 ∅) 2).next 0 = some (sendStart "phone" clipboardPacket) ∧
      isPaired (phoneAt (AList.insert "phone" 0 ∅) 2).shared "phone" := by
  refine ⟨hands_phone _, fan_out_reaches_paired _ _ _ _ _ _ clipboardChanges (fun k turn here => ?_) 2 0 "phone" clipboardPacket
    (aiming_phone _) (hands_phone _)⟩
  match k with
  | 0 =>
    cases here
    trivial
  | 1 =>
    cases here
    intro action next
    obtain rfl : fanOutTargets = action := Option.some.inj next
    intro d link found
    have phone : d = "phone" := by
      by_contra other
      have absent : (linkedPhone (AList.insert "phone" 0 ∅)).manager.connections.lookup d = none :=
        (AList.lookup_insert_ne other).trans (AList.lookup_empty d)
      exact absurd (absent.symm.trans found) (by simp)
    subst phone
    rfl
  | k + 2 => cases here

/-- The clipboard goes to a phone that was never paired. -/
theorem unpaired_phone_reached :
    Aiming (phoneAt ∅ 2).trace 0 ∧ (phoneAt ∅ 2).next 0 = some (sendStart "phone" clipboardPacket) ∧
      ¬isPaired (phoneAt ∅ 2).shared "phone" :=
  ⟨aiming_phone ∅, hands_phone ∅, nofun⟩

end Sample

end FanOut

end RustConnect
