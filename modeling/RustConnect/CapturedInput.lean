import RustConnect.EiReceiver
import RustConnect.Base.Trail

namespace RustConnect

section Contents

variable {K S : Type} (xkb : Xkb K S)

theorem PendingInput.live_of_pressKey {key : UInt32} {isPress : Bool} {state : S} {input : PendingInput}
    (pressed : (pressKey xkb key isPress state).2 = some (.input input)) : input.live = input.planned := by
  unfold pressKey at pressed
  cases isPress with
  | false => cases pressed
  | true =>
    simp only [Bool.not_true, Bool.false_eq_true, if_false] at pressed
    split at pressed
    · cases pressed
    · split at pressed
      · cases pressed
      · rename_i content
        obtain rfl := Notice.input.inj (Option.some.inj pressed)
        simp only [planned, live, if_neg content]

/-- What comes to the gate is sent directly as it would be replayed. -/
theorem PendingInput.live_of_interpret {event : EiEvent K} {state : Option S} {input : PendingInput}
    (came : (interpret xkb event state).2 = some (.input input)) : input.live = input.planned := by
  cases event with
  | deviceAdded keymap => cases keymap <;> cases came
  | pointerMotion dx dy =>
    obtain rfl := Notice.input.inj (Option.some.inj came)
    rfl
  | button code isPress =>
    obtain ⟨mapped, -, same⟩ := Option.map_eq_some_iff.mp came
    obtain rfl := Notice.input.inj same
    rfl
  | scrollDelta dx dy =>
    obtain rfl := Notice.input.inj (Option.some.inj came)
    rfl
  | scrollDiscrete dx dy =>
    obtain rfl := Notice.input.inj (Option.some.inj came)
    rfl
  | keyboardKey key isPress =>
    cases state with
    | none => cases came
    | some state => exact live_of_pressKey xkb came
  | _ => cases came

end Contents

/-- Which of the two parties does it. -/
def EiAction.party : EiAction → Party
  | lockGate party => party
  | lockWire party => party
  | noteActivated _ => .activated
  | send party _ => party
  | unlockWire party => party
  | _ => .pump

namespace EiReceiver

open Program EiAction

/-- Where a task is: the one that starts the receiver and pumps, with what the
stream still has for the gate, or a call for a signal. The lists of bodies
have been taken from the queue and are not sent yet. -/
inductive Phase
  | idle
  | installed
  | gateHeld
  | bothHeld
  | draining (rest : List WireBody)
  | drained
  | pumping (rest : List Notice)
  | live (body : WireBody) (rest : List Notice)
  | asking
  | activating
  | replaying (rest : List WireBody)
  | replayed

/-- A task ends when the stream is over, or when the call has been served. -/
def Phase.Ended (phase : Phase) : Prop := phase = .pumping [] ∨ phase = .replayed

open Classical in
noncomputable def advance (all : List Notice) : Phase → (action : EiAction) → action.Answer → Option Phase
  | .idle, installWire, _ => some .installed
  | .installed, lockGate .pump, _ => some .gateHeld
  | .gateHeld, lockWire .pump, _ => some .bothHeld
  | .bothHeld, drainPending, pending => some (.draining (pending.filterMap PendingInput.planned))
  | .draining (body :: rest), send .pump sent, _ => if sent = body then some (.draining rest) else none
  | .draining [], unlockWire .pump, _ => some .drained
  | .drained, unlockGate, _ => some (.pumping all)
  | .pumping (.startEmulating sequence :: rest), noteStartEmulating noted, _ => if noted = sequence then some (.pumping rest) else none
  | .pumping (.input input :: rest), gateInput gated, queued =>
    if gated = input then some (if queued then .pumping rest else match input.planned with
      | none => .pumping rest
      | some body => .live body rest) else none
  | .live body rest, sendLive sent, _ => if sent = body then some (.pumping rest) else none
  | .idle, lockGate .activated, _ => some .asking
  | .asking, lockWire .activated, _ => some .activating
  | .activating, noteActivated _, pending => some (.replaying (pending.filterMap PendingInput.planned))
  | .replaying (body :: rest), send .activated sent, _ => if sent = body then some (.replaying rest) else none
  | .replaying [], unlockWire .activated, _ => some .replayed
  | _, _, _ => none

section Follows

variable {all : List Notice} {Q : Phase → Unit → Prop}

/-- A replay sends the bodies of the drained input one after the other. -/
theorem follows_replay {party : Party} {sending : List WireBody → Phase}
    (sends : ∀ body rest, advance all (sending (body :: rest)) (send party body) () = some (sending rest)) (pending : List PendingInput)
    (after : Q (sending []) ()) : Follows (advance all) (sending (pending.filterMap PendingInput.planned)) (replay party pending) Q := by
  induction pending with
  | nil => exact after
  | cons input pending ih =>
    rw [List.filterMap_cons]
    unfold replay
    cases input.planned with
    | none => exact ih
    | some body => exact fun _ => ⟨_, sends body _, ih⟩

theorem follows_handleActivated (id : UInt32) : Follows (advance all) .idle (handleActivated id) fun later _ => later.Ended := by
  refine fun _ => ⟨.asking, rfl, fun _ => ⟨.activating, rfl, fun pending => ⟨_, rfl, ?_⟩⟩⟩
  refine (follows_bind (replay .activated pending) _ _).mpr (follows_replay (fun body rest => ?_) pending ?_)
  · exact if_pos rfl
  · exact fun _ => ⟨.replayed, rfl, .inr rfl⟩

variable {K S : Type} (xkb : Xkb K S)

theorem follows_gated {input : PendingInput} (same : input.live = input.planned) {rest : List Notice} (after : Q (.pumping rest) ()) :
    Follows (advance all) (.pumping (.input input :: rest)) (gated input) Q := by
  intro queued
  refine ⟨_, if_pos rfl, ?_⟩
  cases queued with
  | true => exact after
  | false =>
    simp only [Bool.false_eq_true, if_false]
    rw [same]
    cases input.planned with
    | none => exact after
    | some body => exact fun _ => ⟨_, if_pos rfl, after⟩

theorem follows_pump (stream : List (StreamItem K)) (state : Option S) :
    Follows (advance all) (.pumping (notices xkb stream state)) (pump xkb stream state) fun later _ => later.Ended := by
  induction stream generalizing state with
  | nil => exact .inl rfl
  | cons item rest ih =>
    cases item with
    | disconnected => exact .inl rfl
    | error => exact .inl rfl
    | event event =>
      unfold pump dispatch notices
      refine (follows_bind _ _ _).mpr ?_
      cases came : (interpret xkb event state).2 with
      | none => exact ih _
      | some notice =>
        cases notice with
        | startEmulating sequence => exact fun _ => ⟨_, if_pos rfl, ih _⟩
        | input input =>
          refine (follows_bind (gated input) _ _).mpr ?_
          exact follows_gated (PendingInput.live_of_interpret xkb came) (ih _)

theorem follows_start (stream : List (StreamItem K)) :
    Follows (advance (notices xkb stream none)) .idle (start xkb stream) fun later _ => later.Ended := by
  refine fun _ => ⟨.installed, rfl, fun _ => ⟨.gateHeld, rfl, fun _ => ⟨.bothHeld, rfl, fun pending => ⟨_, rfl, ?_⟩⟩⟩⟩
  refine (follows_bind (replay .pump pending) _ _).mpr (follows_replay (fun body rest => ?_) pending ?_)
  · exact if_pos rfl
  · exact fun _ => ⟨.drained, rfl, fun _ => ⟨_, rfl, follows_pump xkb stream none⟩⟩

theorem follows_program (stream : List (StreamItem K)) (call : Call) :
    Follows (advance (notices xkb stream none)) .idle (program xkb stream call) fun later _ => later.Ended := by
  cases call with
  | start => exact follows_start xkb stream
  | handleActivated id => exact follows_handleActivated id

end Follows

section Order

namespace Phase

/-- What a task that has the mutex of `wire_tx` has yet to send. -/
def rest : Phase → Option (List WireBody)
  | bothHeld => some []
  | draining rest => some rest
  | activating => some []
  | replaying rest => some rest
  | _ => none

def party : Phase → Option Party
  | idle => none
  | asking => some .activated
  | activating => some .activated
  | replaying _ => some .activated
  | replayed => some .activated
  | _ => some .pump

variable (all : List Notice)

/-- What the stream still has for the gate. -/
def left : Phase → List Notice
  | pumping rest => rest
  | live _ rest => rest
  | _ => all

/-- The bodies of the input that has not come to the gate, and of the one that has passed it. -/
def due : Phase → List WireBody
  | live body rest => body :: (inputs rest).filterMap PendingInput.planned
  | phase => (inputs (phase.left all)).filterMap PendingInput.planned

/-- What the task that pumps knows of the queue. -/
def Fits (gate : ActivationGate) : Phase → Prop
  | draining _ => gate.pending = []
  | drained => gate.pending = []
  | live _ _ => gate.pending = []
  | pumping _ => gate.pending ≠ [] → gate.shouldQueue = true
  | _ => True

end Phase

/-- One task at most has the mutex of `wire_tx`, and `held` is what it has yet to send. -/
structure Lock (locked : Bool) (phases : Nat → Phase) (owner : Option Nat) (held : List WireBody) : Prop where
  sides : ∀ task party, (phases task).party = some party → (party = .pump ↔ task = 0)
  rests : ∀ task, (phases task).rest = if owner = some task then some held else none
  free : owner = none → held = []
  locked : owner ≠ none → locked = true

/-- What is on the wire, what has been taken from the queue, what is in it and
what the pump has yet to bring is the whole input, in this order. -/
structure Flow (all : List Notice) (whole : List WireBody) (s : EiReceiver) (pump : Phase) (held : List WireBody) : Prop where
  installed : pump ≠ .idle → s.wireTx = true
  fits : pump.Fits s.gate
  rising : (s.gate.eisSequence :: sequences (pump.left all)).Pairwise (· ≤ ·)
  whole : s.wire ++ held ++ s.gate.pending.filterMap PendingInput.planned ++ pump.due all = whole

variable {locked : Bool} {phases : Nat → Phase} {owner : Option Nat} {held : List WireBody} {task : Nat} {later : Phase}

namespace Lock

theorem holder (lock : Lock locked phases owner held) {rest : List WireBody} (holding : (phases task).rest = some rest) :
    owner = some task ∧ held = rest := by
  have found := lock.rests task
  rw [holding] at found
  split at found
  · rename_i own
    exact ⟨own, (Option.some.inj found).symm⟩
  · cases found

theorem moved (lock : Lock locked phases owner held) (side : ∀ party, later.party = some party → (party = .pump ↔ task = 0)) :
    ∀ other party, (Function.update phases task later other).party = some party → (party = .pump ↔ other = 0) := by
  refine (Function.forall_update_iff phases (fun other phase => ∀ party, phase.party = some party → (party = .pump ↔ other = 0))).mpr ?_
  exact ⟨side, fun other _ => lock.sides other⟩

theorem stay (lock : Lock locked phases owner held) (side : ∀ party, later.party = some party → (party = .pump ↔ task = 0))
    (same : later.rest = (phases task).rest) : Lock locked (Function.update phases task later) owner held where
  sides := lock.moved side
  rests := by
    refine (Function.forall_update_iff phases (fun other phase => phase.rest = if owner = some other then some held else none)).mpr ?_
    exact ⟨same.trans (lock.rests task), fun other _ => lock.rests other⟩
  free := lock.free
  locked := lock.locked

theorem acquire (lock : Lock false phases owner held) (later : Phase) (side : ∀ party, later.party = some party → (party = .pump ↔ task = 0))
    (holding : later.rest = some []) : held = [] ∧ Lock true (Function.update phases task later) (some task) [] := by
  obtain rfl : owner = none := by
    by_contra owned
    cases lock.locked owned
  refine ⟨lock.free rfl, lock.moved side, ?_, nofun, fun _ => rfl⟩
  refine (Function.forall_update_iff phases (fun other phase => phase.rest = if some task = some other then some [] else none)).mpr ?_
  refine ⟨by rw [if_pos rfl, holding], fun other apart => ?_⟩
  rw [if_neg fun same => apart (Option.some.inj same).symm]
  exact lock.rests other

theorem change (lock : Lock locked phases owner held) (later : Phase) (side : ∀ party, later.party = some party → (party = .pump ↔ task = 0))
    {rest new : List WireBody} (holding : (phases task).rest = some rest) (next : later.rest = some new) :
    held = rest ∧ Lock locked (Function.update phases task later) owner new := by
  obtain ⟨rfl, rfl⟩ := lock.holder holding
  refine ⟨rfl, lock.moved side, ?_, nofun, lock.locked⟩
  refine (Function.forall_update_iff phases (fun other phase => phase.rest = if some task = some other then some new else none)).mpr ?_
  refine ⟨by rw [if_pos rfl, next], fun other apart => ?_⟩
  have elsewhere : ¬ some task = some other := fun same => apart (Option.some.inj same).symm
  rw [if_neg elsewhere, lock.rests other, if_neg elsewhere]

theorem leave (lock : Lock locked phases owner held) (later : Phase) (side : ∀ party, later.party = some party → (party = .pump ↔ task = 0))
    (holding : (phases task).rest = some []) (next : later.rest = none) :
    held = [] ∧ Lock false (Function.update phases task later) none [] := by
  obtain ⟨rfl, rfl⟩ := lock.holder holding
  refine ⟨rfl, lock.moved side, ?_, fun _ => rfl, fun owned => absurd rfl owned⟩
  refine (Function.forall_update_iff phases (fun other phase => phase.rest = if none = some other then some [] else none)).mpr ?_
  refine ⟨next, fun other apart => ?_⟩
  rw [lock.rests other, if_neg fun same => apart (Option.some.inj same).symm, if_neg nofun]

end Lock

namespace Flow

variable {all rest : List Notice} {whole : List WireBody} {s : EiReceiver} {pump : Phase} {body : WireBody} {bodies : List WireBody}

/-- The next of the bodies that were taken from the queue is sent. -/
theorem send (flow : Flow all whole s pump (body :: bodies)) : Flow all whole { s with wire := s.wire ++ [body] } pump bodies where
  installed := flow.installed
  fits := flow.fits
  rising := flow.rising
  whole := by simpa using flow.whole

/-- The queue is taken as a whole. -/
theorem drain (flow : Flow all whole s pump []) (locked : Bool) (id : UInt32) :
    Flow all whole { s with gate := (s.gate.noteActivated id).2, gateLocked := locked } pump
      (s.gate.pending.filterMap PendingInput.planned) where
  installed := flow.installed
  fits := by
    cases pump with
    | pumping rest => exact fun some => absurd rfl some
    | _ => first | exact rfl | trivial
  rising := flow.rising
  whole := by simpa [ActivationGate.noteActivated] using flow.whole

/-- Before the receiver is started the queue is left alone. -/
theorem retain (flow : Flow all whole s .idle []) (locked : Bool) (id : UInt32) :
    Flow all whole { s with gate := s.gate.noteActivatedRetainPending id, gateLocked := locked } .idle [] where
  installed := flow.installed
  fits := trivial
  rising := flow.rising
  whole := flow.whole

theorem noteStartEmulating {sequence : UInt32} (flow : Flow all whole s (.pumping (.startEmulating sequence :: rest)) held) :
    Flow all whole { s with gate := s.gate.noteStartEmulating sequence } (.pumping rest) held where
  installed _ := flow.installed nofun
  fits some := by
    have later : s.gate.eisSequence ≤ sequence := (List.pairwise_cons.mp flow.rising).1 sequence List.mem_cons_self
    have queues : s.gate.activationId < s.gate.eisSequence := of_decide_eq_true (flow.fits some)
    exact decide_eq_true (UInt32.lt_of_lt_of_le queues later)
  rising := (List.pairwise_cons.mp flow.rising).2
  whole := flow.whole

theorem queue {input : PendingInput} (flow : Flow all whole s (.pumping (.input input :: rest)) held) (queues : s.gate.shouldQueue = true) :
    Flow all whole { s with gate := s.gate.queue input } (.pumping rest) held where
  installed _ := flow.installed nofun
  fits _ := queues
  rising := flow.rising
  whole := by
    have split : s.wire ++ held ++ s.gate.pending.filterMap PendingInput.planned ++
        (input :: inputs rest).filterMap PendingInput.planned = whole := flow.whole
    rw [← List.singleton_append, List.filterMap_append, ← List.append_assoc, List.append_assoc _ _ ([input].filterMap _),
      ← List.filterMap_append] at split
    exact split

/-- What passes the gate passes an empty queue. -/
theorem pass {input : PendingInput} (flow : Flow all whole s (.pumping (.input input :: rest)) held) (open_ : s.gate.shouldQueue = false) :
    Flow all whole s (match input.planned with | none => .pumping rest | some body => .live body rest) held := by
  have empty : s.gate.pending = [] := by
    by_contra some
    rw [flow.fits some] at open_
    cases open_
  have split : s.wire ++ held ++ s.gate.pending.filterMap PendingInput.planned ++
      (input :: inputs rest).filterMap PendingInput.planned = whole := flow.whole
  rw [List.filterMap_cons] at split
  cases planned : input.planned with
  | none =>
    rw [planned] at split
    exact ⟨fun _ => flow.installed nofun, fun some => absurd empty some, flow.rising, split⟩
  | some body =>
    rw [planned] at split
    exact ⟨fun _ => flow.installed nofun, empty, flow.rising, split⟩

theorem sendLive (flow : Flow all whole s (.live body rest) []) :
    Flow all whole { s with wire := s.wire ++ [body] } (.pumping rest) [] where
  installed _ := flow.installed nofun
  fits some := absurd flow.fits some
  rising := flow.rising
  whole := by
    have empty : s.gate.pending = [] := flow.fits
    have split : s.wire ++ [] ++ s.gate.pending.filterMap PendingInput.planned ++
        body :: (inputs rest).filterMap PendingInput.planned = whole := flow.whole
    simp only [empty, List.filterMap_nil, List.append_nil] at split ⊢
    rw [List.append_assoc]
    exact split

end Flow

end Order

/-- Whether the task does not wait for a mutex. -/
def awake (pool : Tasks) (task : Nat) : Bool :=
  match pool.next task with
  | some action => !action.waits pool.shared
  | none => true

/-- A call that has taken input from the queue and has yet to send some of it. -/
def replays : EiProgram Unit → Bool
  | .act (.send .activated _) _ => true
  | _ => false

/-- The pump does not send directly while a call has yet to send what it has taken from the queue. -/
def inOrder (pool : Tasks) (task : Nat) : Bool :=
  match pool.next task with
  | some (.sendLive _) => !pool.tasks.any replays
  | _ => true

section Run

variable {all : List Notice} {whole : List WireBody} {pool : Tasks} {phases : Nat → Phase} {owner : Option Nat} {held : List WireBody}
  {task : Nat} {action : EiAction} {later : Phase}

/-- When the pump sends directly in order nobody has anything to replay. -/
theorem nothing_held (phased : Pool.Phased (advance all) .idle Phase.Ended pool phases) (lock : Lock locked phases owner held)
    (silent : pool.tasks.any replays = false) (pumping : ∀ rest, phases 0 ≠ .draining rest) : held = [] := by
  cases owner with
  | none => exact lock.free rfl
  | some other =>
    have rests := lock.rests other
    rw [if_pos rfl] at rests
    have sides := lock.sides other
    cases phase : phases other with
    | bothHeld =>
      rw [phase] at rests
      exact (Option.some.inj rests).symm
    | activating =>
      rw [phase] at rests
      exact (Option.some.inj rests).symm
    | draining rest =>
      rw [phase] at sides
      obtain rfl := (sides .pump rfl).mp rfl
      exact absurd phase (pumping rest)
    | replaying rest =>
      rw [phase] at rests
      obtain rfl : rest = held := Option.some.inj rests
      cases rest with
      | nil => rfl
      | cons body rest =>
        have ended : ¬ Phase.Ended (phases other) := by
          rw [phase]
          rintro (same | same) <;> cases same
        obtain ⟨action, about, moves⟩ := phased.busy (by rw [phase]; nofun) ended
        rw [phase] at moves
        obtain ⟨found, member, next, rfl⟩ := Pool.body_of_next about
        refine absurd (List.any_eq_true.mpr ⟨_, member, ?_⟩) (by rw [silent]; nofun)
        cases action with
        | send party sent =>
          cases party with
          | pump =>
            obtain ⟨later, moved⟩ := moves ()
            cases moved
          | activated => rfl
        | drainPending =>
          obtain ⟨later, moved⟩ := moves []
          cases moved
        | noteActivated id =>
          obtain ⟨later, moved⟩ := moves []
          cases moved
        | gateInput input =>
          obtain ⟨later, moved⟩ := moves true
          cases moved
        | unlockWire party =>
          obtain ⟨later, moved⟩ := moves ()
          cases party <;> cases moved
        | _ =>
          obtain ⟨later, moved⟩ := moves ()
          cases moved
    | _ =>
      rw [phase] at rests
      cases rests

/-- Whatever is done next by a task that does not wait, it keeps the order. -/
theorem ordered_exec (phased : Pool.Phased (advance all) .idle Phase.Ended pool phases)
    (lock : Lock pool.shared.wireLocked phases owner held) (flow : Flow all whole pool.shared (phases 0) held)
    (about : pool.next task = some action) (mine : action.party = .pump ↔ task = 0) (runs : awake pool task = true)
    (ordered : inOrder pool task = true) (moved : advance all (phases task) action (action.exec pool.shared).1 = some later) :
    ∃ owner held, Lock (action.exec pool.shared).2.wireLocked (Function.update phases task later) owner held ∧
      Flow all whole (action.exec pool.shared).2 (Function.update phases task later 0) held := by
  classical
  have ready : action.waits pool.shared = false := by
    unfold awake at runs
    rw [about] at runs
    simpa using runs
  have pumps (same : action.party = .pump) : ∀ party, some Party.pump = some party → (party = .pump ↔ task = 0) := by
    rintro party ⟨⟩
    simpa [same] using mine
  have serves (same : action.party = .activated) : ∀ party, some Party.activated = some party → (party = .pump ↔ task = 0) := by
    rintro party ⟨⟩
    rw [same] at mine
    exact mine
  cases phase : phases task with
  | idle =>
    rw [phase] at moved
    cases action with
    | installWire =>
      obtain rfl := mine.mp rfl
      obtain rfl := Option.some.inj moved
      rw [phase] at flow
      refine ⟨owner, held, lock.stay (pumps rfl) (by rw [phase]; rfl), ?_⟩
      rw [Function.update_self]
      exact ⟨fun _ => rfl, trivial, flow.rising, flow.whole⟩
    | lockGate party =>
      cases party with
      | pump => cases moved
      | activated =>
        obtain rfl := Option.some.inj moved
        refine ⟨owner, held, lock.stay (serves rfl) (by rw [phase]; rfl), ?_⟩
        rw [Function.update_of_ne fun same => nomatch mine.mpr same.symm]
        exact ⟨flow.installed, flow.fits, flow.rising, flow.whole⟩
    | _ => cases moved
  | installed =>
    rw [phase] at moved
    cases action with
    | lockGate party =>
      cases party with
      | activated => cases moved
      | pump =>
        obtain rfl := mine.mp rfl
        obtain rfl := Option.some.inj moved
        rw [phase] at flow
        refine ⟨owner, held, lock.stay (pumps rfl) (by rw [phase]; rfl), ?_⟩
        rw [Function.update_self]
        exact ⟨fun _ => flow.installed nofun, trivial, flow.rising, flow.whole⟩
    | _ => cases moved
  | gateHeld =>
    rw [phase] at moved
    cases action with
    | lockWire party =>
      cases party with
      | activated => cases moved
      | pump =>
        obtain rfl := mine.mp rfl
        obtain rfl := Option.some.inj moved
        rw [phase] at flow
        rw [show pool.shared.wireLocked = false from ready] at lock
        obtain ⟨rfl, acquired⟩ := lock.acquire .bothHeld (pumps rfl) rfl
        refine ⟨_, _, acquired, ?_⟩
        rw [Function.update_self]
        exact ⟨fun _ => flow.installed nofun, trivial, flow.rising, flow.whole⟩
    | _ => cases moved
  | bothHeld =>
    rw [phase] at moved
    cases action with
    | drainPending =>
      obtain rfl := mine.mp rfl
      obtain rfl := Option.some.inj moved
      obtain ⟨rfl, changed⟩ := lock.change (.draining _) (pumps rfl) (by rw [phase]; rfl) rfl
      rw [phase] at flow
      refine ⟨_, _, changed, ?_⟩
      rw [Function.update_self]
      have drained := flow.drain pool.shared.gateLocked pool.shared.gate.activationId
      exact ⟨fun _ => flow.installed nofun, rfl, drained.rising, drained.whole⟩
    | _ => cases moved
  | draining rest =>
    rw [phase] at moved
    cases rest with
    | nil =>
      cases action with
      | unlockWire party =>
        cases party with
        | activated => cases moved
        | pump =>
          obtain rfl := mine.mp rfl
          obtain rfl := Option.some.inj moved
          obtain ⟨rfl, left⟩ := lock.leave .drained (pumps rfl) (by rw [phase]; rfl) rfl
          rw [phase] at flow
          refine ⟨_, _, left, ?_⟩
          rw [Function.update_self]
          exact ⟨fun _ => flow.installed nofun, flow.fits, flow.rising, flow.whole⟩
      | _ => cases moved
    | cons body rest =>
      cases action with
      | send party sent =>
        cases party with
        | activated => cases moved
        | pump =>
          obtain rfl := mine.mp rfl
          obtain ⟨rfl, rfl⟩ := Pool.of_guard moved
          obtain ⟨rfl, changed⟩ := lock.change (.draining _) (pumps rfl) (by rw [phase]; rfl) rfl
          rw [phase] at flow
          refine ⟨_, _, changed, ?_⟩
          rw [Function.update_self]
          have sent := flow.send
          exact ⟨fun _ => flow.installed nofun, flow.fits, sent.rising, sent.whole⟩
      | _ => cases moved
  | drained =>
    rw [phase] at moved
    cases action with
    | unlockGate =>
      obtain rfl := mine.mp rfl
      obtain rfl := Option.some.inj moved
      rw [phase] at flow
      refine ⟨owner, held, lock.stay (pumps rfl) (by rw [phase]; rfl), ?_⟩
      rw [Function.update_self]
      exact ⟨fun _ => flow.installed nofun, fun some => absurd flow.fits some, flow.rising, flow.whole⟩
    | _ => cases moved
  | pumping rest =>
    rw [phase] at moved
    cases rest with
    | nil => cases action <;> cases moved
    | cons notice rest =>
      cases notice with
      | startEmulating sequence =>
        cases action with
        | noteStartEmulating noted =>
          obtain rfl := mine.mp rfl
          obtain ⟨rfl, rfl⟩ := Pool.of_guard moved
          rw [phase] at flow
          refine ⟨owner, held, lock.stay (pumps rfl) (by rw [phase]; rfl), ?_⟩
          rw [Function.update_self]
          exact flow.noteStartEmulating
        | _ => cases moved
      | input input =>
        cases action with
        | gateInput gated =>
          obtain rfl := mine.mp rfl
          obtain ⟨rfl, rfl⟩ := Pool.of_guard moved
          rw [phase] at flow
          cases queues : pool.shared.gate.shouldQueue with
          | true =>
            simp only [EiAction.exec, queues, if_true]
            refine ⟨owner, held, lock.stay (pumps rfl) (by rw [phase]; rfl), ?_⟩
            rw [Function.update_self]
            exact flow.queue queues
          | false =>
            simp only [EiAction.exec, queues, Bool.false_eq_true, if_false]
            refine ⟨owner, held, lock.stay ?_ ?_, ?_⟩
            · cases gated.planned <;> exact pumps rfl
            · rw [phase]
              cases gated.planned <;> rfl
            · rw [Function.update_self]
              exact flow.pass queues
        | _ => cases moved
  | live body rest =>
    rw [phase] at moved
    cases action with
    | sendLive sent =>
      obtain rfl := mine.mp rfl
      obtain ⟨rfl, rfl⟩ := Pool.of_guard moved
      have silent : pool.tasks.any replays = false := by
        unfold inOrder at ordered
        rw [about] at ordered
        simpa using ordered
      obtain rfl := nothing_held phased lock silent fun rest same => by rw [phase] at same; cases same
      rw [phase] at flow
      refine ⟨owner, [], lock.stay (pumps rfl) (by rw [phase]; rfl), ?_⟩
      rw [Function.update_self]
      exact flow.sendLive
    | _ => cases moved
  | asking =>
    rw [phase] at moved
    cases action with
    | lockWire party =>
      cases party with
      | pump => cases moved
      | activated =>
        obtain rfl := Option.some.inj moved
        rw [show pool.shared.wireLocked = false from ready] at lock
        obtain ⟨rfl, acquired⟩ := lock.acquire .activating (serves rfl) rfl
        refine ⟨_, _, acquired, ?_⟩
        rw [Function.update_of_ne fun same => nomatch mine.mpr same.symm]
        exact ⟨flow.installed, flow.fits, flow.rising, flow.whole⟩
    | _ => cases moved
  | activating =>
    rw [phase] at moved
    cases action with
    | noteActivated id =>
      obtain rfl := Option.some.inj moved
      rw [Function.update_of_ne fun same => nomatch mine.mpr same.symm]
      cases there : pool.shared.wireTx with
      | true =>
        rw [show (noteActivated id).exec pool.shared = _ from if_pos there]
        obtain ⟨rfl, changed⟩ := lock.change (.replaying _) (serves rfl) (by rw [phase]; rfl) rfl
        exact ⟨_, _, changed, flow.drain false id⟩
      | false =>
        have before : phases 0 = .idle := by
          by_contra begun
          rw [flow.installed begun] at there
          cases there
        rw [show (noteActivated id).exec pool.shared = _ from if_neg (by rw [there]; nofun)]
        obtain ⟨rfl, changed⟩ := lock.change (.replaying _) (serves rfl) (by rw [phase]; rfl) rfl
        rw [before] at flow ⊢
        exact ⟨_, _, changed, flow.retain false id⟩
    | _ => cases moved
  | replaying rest =>
    rw [phase] at moved
    cases rest with
    | nil =>
      cases action with
      | unlockWire party =>
        cases party with
        | pump => cases moved
        | activated =>
          obtain rfl := Option.some.inj moved
          obtain ⟨rfl, left⟩ := lock.leave .replayed (serves rfl) (by rw [phase]; rfl) rfl
          refine ⟨_, _, left, ?_⟩
          rw [Function.update_of_ne fun same => nomatch mine.mpr same.symm]
          exact ⟨flow.installed, flow.fits, flow.rising, flow.whole⟩
      | _ => cases moved
    | cons body rest =>
      cases action with
      | send party sent =>
        cases party with
        | pump => cases moved
        | activated =>
          obtain ⟨rfl, rfl⟩ := Pool.of_guard moved
          obtain ⟨rfl, changed⟩ := lock.change (.replaying _) (serves rfl) (by rw [phase]; rfl) rfl
          refine ⟨_, _, changed, ?_⟩
          rw [Function.update_of_ne fun same => nomatch mine.mpr same.symm]
          exact flow.send
      | _ => cases moved
  | replayed =>
    rw [phase] at moved
    cases action <;> cases moved

end Run

section Parties

variable {K S : Type} (xkb : Xkb K S)

theorem only_replay (party : Party) (pending : List PendingInput) :
    (replay party pending).Only (fun action => action.party = party) fun _ => True := by
  induction pending with
  | nil => trivial
  | cons input pending ih =>
    unfold replay
    cases input.planned with
    | none => exact ih
    | some body => exact ⟨rfl, fun _ => ih⟩

theorem only_pump (stream : List (StreamItem K)) (state : Option S) :
    (pump xkb stream state).Only (fun action => action.party = .pump) fun _ => True := by
  induction stream generalizing state with
  | nil => trivial
  | cons item rest ih =>
    cases item with
    | disconnected => trivial
    | error => trivial
    | event event =>
      unfold pump dispatch
      refine (only_bind _ _ _).mpr ?_
      cases (interpret xkb event state).2 with
      | none => exact ih _
      | some notice =>
        cases notice with
        | startEmulating sequence => exact ⟨rfl, fun _ => ih _⟩
        | input input =>
          refine ⟨rfl, fun queued => ?_⟩
          cases queued with
          | true => exact ih _
          | false =>
            cases input.live with
            | none => exact ih _
            | some body => exact ⟨rfl, fun _ => ih _⟩

theorem only_start (stream : List (StreamItem K)) : (start xkb stream).Only (fun action => action.party = .pump) fun _ => True := by
  refine ⟨rfl, fun _ => ⟨rfl, fun _ => ⟨rfl, fun _ => ⟨rfl, fun pending => ?_⟩⟩⟩⟩
  refine (only_bind (replay .pump pending) _ _).mpr ((only_replay .pump pending).followedBy fun _ => ?_)
  exact ⟨rfl, fun _ => ⟨rfl, fun _ => only_pump xkb stream none⟩⟩

theorem only_handleActivated (id : UInt32) : (handleActivated id).Only (fun action => action.party = .activated) fun _ => True := by
  refine ⟨rfl, fun _ => ⟨rfl, fun _ => ⟨rfl, fun pending => ?_⟩⟩⟩
  refine (only_bind (replay .activated pending) _ _).mpr ((only_replay .activated pending).followedBy fun _ => ?_)
  exact ⟨rfl, fun _ => trivial⟩

def Call.party : Call → Party
  | start => .pump
  | handleActivated _ => .activated

theorem only_program (stream : List (StreamItem K)) (call : Call) :
    (program xkb stream call).Only (fun action => action.party = call.party) fun _ => True := by
  cases call with
  | start => exact only_start xkb stream
  | handleActivated id => exact only_handleActivated id

variable {xkb} {gate : ActivationGate} {stream : List (StreamItem K)} {turns : List (Turn UInt32)} {k task : Nat} {action : EiAction}

/-- The first task starts and pumps, and the others are calls for signals. -/
theorem party_next (about : (atTurn xkb gate stream turns k).next task = some action) : action.party = .pump ↔ task = 0 := by
  have trails := Pool.onTrail exec (program xkb stream) { gate } (.spawn .start :: signals turns) (k + 1)
  have split : Pool.spawned ((.spawn .start :: signals turns).take (k + 1)) = .start :: Pool.spawned ((signals turns).take k) := rfl
  cases task with
  | zero =>
    have asked : (Pool.spawned ((.spawn .start :: signals turns).take (k + 1)))[0]? = some .start := by rw [split]; rfl
    have pumps := Pool.next_within (only_program xkb stream .start) asked about
    exact ⟨fun _ => rfl, fun _ => pumps⟩
  | succ task =>
    have inside : task + 1 < (Pool.spawned ((.spawn .start :: signals turns).take (k + 1))).length := by
      rw [← trails.length]
      by_contra beyond
      simp only [atTurn, Pool.next, List.getElem?_eq_none (Nat.le_of_not_lt beyond)] at about
      cases about
    obtain ⟨call, asked⟩ : ∃ call, (Pool.spawned ((.spawn .start :: signals turns).take (k + 1)))[task + 1]? = some call :=
      ⟨_, List.getElem?_eq_getElem inside⟩
    obtain ⟨turn, came, spawns⟩ := List.mem_filterMap.mp (List.mem_of_getElem? (by rw [split] at asked; exact asked))
    obtain ⟨signal, -, rfl⟩ := List.mem_map.mp (List.mem_of_mem_take came)
    cases signal with
    | take other => cases spawns
    | spawn id =>
      obtain rfl := Option.some.inj spawns
      have serves := Pool.next_within (only_program xkb stream (.handleActivated id)) asked about
      refine ⟨fun pumps => ?_, fun first => absurd first (Nat.succ_ne_zero task)⟩
      cases serves.symm.trans pumps

end Parties

/-- A turn of a task that does not wait and sends in order, the first task's if it is the pump that acts. -/
def Permitted (pool : Tasks) (turn : Turn Call) : Prop :=
  ∀ task, turn = .take task → awake pool task = true ∧ inOrder pool task = true ∧
    ∀ action, pool.next task = some action → (action.party = .pump ↔ task = 0)

section Claim

variable {K S : Type} (xkb : Xkb K S) (gate : ActivationGate) (stream : List (StreamItem K)) (turns : List (Turn UInt32))

/-- The bodies of all the input, in the order of its arrival. -/
def plannedBodies : List WireBody := (gate.pending ++ inputs (notices xkb stream none)).filterMap PendingInput.planned

variable {xkb gate stream turns}

theorem ordered_run (rising : (gate.eisSequence :: sequences (notices xkb stream none)).Pairwise (· ≤ ·))
    (runs : ∀ k task, turns[k]? = some (.take task) → awake (atTurn xkb gate stream turns k) task = true)
    (ordered : ∀ k task, turns[k]? = some (.take task) → inOrder (atTurn xkb gate stream turns k) task = true) (k : Nat) :
    ∃ phases, Pool.Phased (advance (notices xkb stream none)) .idle Phase.Ended (atTurn xkb gate stream turns k) phases ∧
      ∃ owner held, Lock (atTurn xkb gate stream turns k).shared.wireLocked phases owner held ∧
        Flow (notices xkb stream none) (plannedBodies xkb gate stream) (atTurn xkb gate stream turns k).shared (phases 0) held := by
  have allowed (k : Nat) (turn : Turn Call) (here : (.spawn .start :: signals turns)[k]? = some turn) :
      Permitted (Pool.after exec (program xkb stream) { gate } (.spawn .start :: signals turns) k) turn := by
    rintro task rfl
    cases k with
    | zero => cases here
    | succ k =>
      have taken : turns[k]? = some (.take task) := by
        simp only [signals, List.getElem?_cons_succ, List.getElem?_map, Option.map_eq_some_iff] at here
        obtain ⟨turn, found, same⟩ := here
        cases turn with
        | spawn id => cases same
        | take other =>
          cases same
          exact found
      exact ⟨runs k task taken, ordered k task taken, fun action about => party_next about⟩
  refine Pool.Phased.run (I := fun s phases _ => ∃ owner held, Lock s.wireLocked phases owner held ∧
      Flow (notices xkb stream none) (plannedBodies xkb gate stream) s (phases 0) held)
    (follows_program xkb stream) (fun pool phases task action later phased here about permitted moved => ?_) ?_ allowed (k + 1)
  · obtain ⟨owner, held, lock, flow⟩ := here
    obtain ⟨runs, ordered, mine⟩ : awake pool task = true ∧ inOrder pool task = true ∧ _ := permitted task rfl
    exact ordered_exec phased lock flow about (mine action about) runs ordered moved
  · refine ⟨none, [], ⟨fun _ _ side => (nomatch side), fun _ => rfl, fun _ => rfl, fun owned => absurd rfl owned⟩, ?_⟩
    refine ⟨fun begun => absurd rfl begun, trivial, rising, ?_⟩
    simp [plannedBodies, Phase.due, Phase.left]

/-- When everything is done the stream is over. -/
theorem pumping_over {phases : Nat → Phase} {locked : Bool} {owner : Option Nat} {held : List WireBody} {k : Nat}
    (phased : Pool.Phased (advance (notices xkb stream none)) .idle Phase.Ended (atTurn xkb gate stream turns k) phases)
    (lock : Lock locked phases owner held) (idle : (atTurn xkb gate stream turns k).Idle) : phases 0 = .pumping [] := by
  have trails := Pool.onTrail exec (program xkb stream) { gate } (.spawn .start :: signals turns) (k + 1)
  have there : 0 < (atTurn xkb gate stream turns k).tasks.length := by
    rw [atTurn, trails.length]
    exact Nat.succ_pos _
  have found := List.getElem?_eq_getElem there
  have quiet := idle 0
  cases body : (atTurn xkb gate stream turns k).tasks[0] with
  | act action next => simp [Pool.next, found, body] at quiet
  | done value =>
    rw [body] at found
    rcases phased.follows 0 _ found with finished | served
    · exact finished
    · have sides := lock.sides 0 .activated
      rw [served] at sides
      cases (sides rfl).mpr rfl

/-- In a run in which the pump never sends directly while a call has yet to
send what it has taken from the queue, the wire has the bodies of the input
in the order of its arrival; when everything is done and the last
activation has come, it has them all. -/
theorem captured_input_in_order (xkb : Xkb K S) (gate : ActivationGate) (stream : List (StreamItem K)) (turns : List (Turn UInt32))
    (rising : (gate.eisSequence :: sequences (notices xkb stream none)).Pairwise (· ≤ ·))
    (runs : ∀ k task, turns[k]? = some (.take task) → awake (atTurn xkb gate stream turns k) task = true)
    (ordered : ∀ k task, turns[k]? = some (.take task) → inOrder (atTurn xkb gate stream turns k) task = true) (k : Nat) :
    (atTurn xkb gate stream turns k).shared.wire <+: plannedBodies xkb gate stream ∧
      ((atTurn xkb gate stream turns k).Idle → (atTurn xkb gate stream turns k).shared.gate.shouldQueue = false →
        (atTurn xkb gate stream turns k).shared.wire = plannedBodies xkb gate stream) := by
  obtain ⟨phases, phased, owner, held, lock, flow⟩ := ordered_run rising runs ordered k
  refine ⟨?_, fun idle delivered => ?_⟩
  · refine ⟨held ++ (atTurn xkb gate stream turns k).shared.gate.pending.filterMap PendingInput.planned ++
      (phases 0).due (notices xkb stream none), ?_⟩
    rw [← flow.whole]
    simp only [List.append_assoc]
  · have ended := phased.idle idle
    have nothing : held = [] := by
      cases owner with
      | none => exact lock.free rfl
      | some other =>
        have rests := lock.rests other
        rw [if_pos rfl] at rests
        rcases ended other with same | same | same <;>
        · rw [same] at rests
          cases rests
    have finished := pumping_over phased lock idle
    have empty : (atTurn xkb gate stream turns k).shared.gate.pending = [] := by
      have fits := flow.fits
      rw [finished] at fits
      by_contra some
      rw [fits some] at delivered
      cases delivered
    have whole := flow.whole
    rw [nothing, empty, finished] at whole
    simpa [Phase.due, Phase.left, inputs] using whole

end Claim

section Sample

/-- A keyboard library without keymaps. -/
def noKeymap : Xkb Unit Unit where
  buildXkbState _ := none
  updateMask _ _ _ _ state := state
  updateKey _ _ state := state
  keyGetOneSym _ _ := 0
  keysymToUtf8 _ := ""
  modNameIsActive _ _ := false

/-- The left button is pressed before the activation has come and released after it. -/
def pressRelease : List (StreamItem Unit) :=
  [.event (.deviceStartEmulating 1), .event (.button btnLeft true), .event (.button btnLeft false)]

def presses : List WireBody :=
  [.button (.obj [("singlehold", .bool true)]), .button (.obj [("singlerelease", .bool true)])]

def wireIs (bodies : List WireBody) (pool : Tasks) : Bool := decide (pool.shared.wire = bodies)

/-- The call for the activation is done before the button is released. -/
def releasedAfter : List (Turn UInt32) :=
  List.replicate 8 (Turn.take 0) ++ ([.spawn 1] : List (Turn UInt32)) ++ List.replicate 5 (Turn.take 1) ++
  List.replicate 2 (Turn.take 0)

theorem button_in_order : plannedBodies noKeymap {} pressRelease = presses ∧
    (atTurn noKeymap {} pressRelease releasedAfter releasedAfter.length).shared.wire <+: plannedBodies noKeymap {} pressRelease ∧
    (atTurn noKeymap {} pressRelease releasedAfter releasedAfter.length).shared.wire = presses := by
  have passes : Pool.along exec (program noKeymap pressRelease)
      (fun pool turn => match turn with
        | .take task => awake pool task && inOrder pool task
        | .spawn _ => true) (wireIs presses) (Pool.start { gate := {} }) (.spawn .start :: signals releasedAfter) = true := by
    decide +kernel
  have each (k task : Nat) (here : releasedAfter[k]? = some (.take task)) :
      (awake (atTurn noKeymap {} pressRelease releasedAfter k) task && inOrder (atTurn noKeymap {} pressRelease releasedAfter k) task) =
        true := by
    refine (Pool.along_after passes).1 (k + 1) (.take task) ?_
    simp only [signals, List.getElem?_cons_succ, List.getElem?_map, here, Option.map_some]
  have sent : wireIs presses (atTurn noKeymap {} pressRelease releasedAfter releasedAfter.length) = true := by
    have last := (Pool.along_after passes).2
    rw [List.length_cons, signals, List.length_map] at last
    exact last
  refine ⟨by decide +kernel, ?_, of_decide_eq_true sent⟩
  refine (captured_input_in_order noKeymap {} pressRelease releasedAfter (by decide +kernel) (fun k task here => ?_) (fun k task here => ?_) _).1
  · exact (Bool.and_eq_true_iff.mp (each k task here)).1
  · exact (Bool.and_eq_true_iff.mp (each k task here)).2

/-- The call for the activation has taken the press from the queue when the release passes the open gate. -/
def releasedBetween : List (Turn UInt32) :=
  List.replicate 8 (Turn.take 0) ++ ([.spawn 1] : List (Turn UInt32)) ++ List.replicate 3 (Turn.take 1) ++
  List.replicate 2 (Turn.take 0)

theorem release_overtakes : ¬ ∀ (xkb : Xkb Unit Unit) (gate : ActivationGate) (stream : List (StreamItem Unit)) (turns : List (Turn UInt32)),
    (gate.eisSequence :: sequences (notices xkb stream none)).Pairwise (· ≤ ·) →
    (∀ k task, turns[k]? = some (.take task) → awake (atTurn xkb gate stream turns k) task = true) →
    ∀ k, (atTurn xkb gate stream turns k).shared.wire <+: plannedBodies xkb gate stream := by
  intro always
  have passes : Pool.along exec (program noKeymap pressRelease)
      (fun pool turn => match turn with
        | .take task => awake pool task
        | .spawn _ => true) (wireIs [.button (.obj [("singlerelease", .bool true)])]) (Pool.start { gate := {} })
      (.spawn .start :: signals releasedBetween) = true := by
    decide +kernel
  have sent : wireIs [.button (.obj [("singlerelease", .bool true)])]
      (atTurn noKeymap {} pressRelease releasedBetween releasedBetween.length) = true := by
    have last := (Pool.along_after passes).2
    rw [List.length_cons, signals, List.length_map] at last
    exact last
  have ahead := always noKeymap {} pressRelease releasedBetween (by decide +kernel) (fun k task here => by
    refine (Pool.along_after passes).1 (k + 1) (.take task) ?_
    simp only [signals, List.getElem?_cons_succ, List.getElem?_map, here, Option.map_some]) releasedBetween.length
  rw [of_decide_eq_true sent] at ahead
  revert ahead
  decide +kernel

end Sample

end EiReceiver

end RustConnect
