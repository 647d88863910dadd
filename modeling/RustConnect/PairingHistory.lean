import RustConnect.PairingConsent

namespace RustConnect

open Program PairingAction

/-- What happens to the pairing while the daemon runs: a pair packet comes in
over some link, a call is made on this side, or time goes by. -/
inductive PairingEvent
  | packet (deviceId : DeviceId) (generation : UInt64) (packet : Packet) (link : LinkAnswers)
  | asks (call : LocalCall)
  | advance (duration : Time)

namespace PairingEvent

variable (platform : Platform) (settings : PairingSettings)

def link : PairingEvent → LinkAnswers
  | packet _ _ _ link => link
  | _ => {}

def program : PairingEvent → LoopProgram Unit
  | packet d generation received _ => do let _ ← PacketLoop.handlePairPacket platform settings d generation received
  | asks asked => PacketLoop.onPairing (attempt (asked.program platform settings))
  | advance _ => pure ()

def elapsed : PairingEvent → Time
  | advance duration => duration
  | _ => 0

def step (s : PairingState) (event : PairingEvent) : PairingState :=
  let after := (run (LoopAction.exec event.link) (event.program platform settings) s).2
  { after with now := after.now + event.elapsed }

/-- The event inserts the device into `paired`. -/
def Inserts (event : PairingEvent) (d : DeviceId) (s : PairingState) : Prop :=
  .pairing (pairedInsert d) ∈ actions (LoopAction.exec event.link) (event.program platform settings) s

/-- The event inserts the device without a local accept of it. -/
def InsertsUnasked (event : PairingEvent) (d : DeviceId) (s : PairingState) : Prop :=
  event.Inserts platform settings d s ∧ event ≠ asks (.acceptPairing d) ∧ event ≠ asks (.forceAcceptPairing d)

/-- The event is not a local call. -/
def Remote : PairingEvent → Prop
  | asks _ => False
  | _ => True

theorem footprint_requests {asked : LocalCall} {d : DeviceId} {request : PairingRequest}
    (inside : asked.footprint (requestInsert .outgoing d request)) : asked = .initiatePairing d := by
  cases asked with
  | initiatePairing e => exact congrArg _ inside.2.symm
  | setPendingPeerCert e certDer => cases inside
  | _ => exact inside.elim

theorem footprint_pairs {asked : LocalCall} {d : DeviceId} (inside : asked.footprint (pairedInsert d)) :
    asked = .acceptPairing d ∨ asked = .forceAcceptPairing d := by
  cases asked with
  | acceptPairing e => exact .inl (congrArg _ inside.symm)
  | forceAcceptPairing e => exact .inr (congrArg _ inside.symm)
  | setPendingPeerCert e certDer => cases inside
  | _ => exact inside.elim

theorem only_program {event : PairingEvent} {d : DeviceId} (other : event ≠ asks (.initiatePairing d)) :
    (event.program platform settings).Only
      (PacketLoop.within fun action => ∀ request, action ≠ requestInsert .outgoing d request) fun _ => True := by
  cases event with
  | packet e generation received answers =>
    simpa [program] using (PacketLoop.only_handlePairPacket platform settings e generation received).weaken
      (PacketLoop.within_mono fun _ => PairingHandler.receives_no_request) fun _ _ => trivial
  | asks asked =>
    refine PacketLoop.only_onPairing ((only_attempt _ _).mpr ((asked.only_footprint platform settings).weaken
      (fun action inside request same => ?_) fun _ _ => trivial))
    subst same
    exact other (congrArg _ (footprint_requests inside))
  | advance duration => trivial

/-- An outgoing request that is there after an event was there before it, or the event is the call that made it. -/
theorem outgoing_step {event : PairingEvent} {s : PairingState} {d : DeviceId} {request : PairingRequest}
    (after : (step platform settings s event).outgoing.lookup d = some request) :
    s.outgoing.lookup d = some request ∨ event = asks (.initiatePairing d) := by
  by_cases other : event = asks (.initiatePairing d)
  · exact .inr other
  · left
    have kept (action : LoopAction) (t : PairingState)
        (inside : PacketLoop.within (fun action => ∀ request, action ≠ requestInsert .outgoing d request) action)
        (before : t.outgoing.lookup d = none ∨ t.outgoing.lookup d = s.outgoing.lookup d) :
        (action.exec event.link t).2.outgoing.lookup d = none ∨
          (action.exec event.link t).2.outgoing.lookup d = s.outgoing.lookup d := by
      cases action with
      | pairing action =>
        rcases PairingHandler.outgoing_kept inside t with gone | same
        · exact .inl gone
        · exact before.imp same.trans same.trans
      | _ => exact before
    rcases (only_program platform settings other).invariant kept (s := s) (.inr rfl) with gone | same
    · exact absurd (gone.symm.trans after) (by simp)
    · exact same.symm.trans after

/-- Without a local accept, a device is paired only by the peer's `pair: true`
in answer to our own live request, which is used up. -/
theorem unasked_insert {event : PairingEvent} {s : PairingState} {d : DeviceId}
    (unasked : event.InsertsUnasked platform settings d s) :
    ∃ generation received answers request, event = packet d generation received answers ∧
      pairDecision received = some true ∧ s.outgoing.lookup d = some request ∧ request.expiredAt s.now = false ∧
      (step platform settings s event).outgoing.lookup d = none := by
  obtain ⟨inserts, notAccept, notForce⟩ := unasked
  cases event with
  | packet e generation received answers =>
    simp only [Inserts, program, link, actions_bind, actions_pure, List.append_nil] at inserts
    obtain ⟨rfl, decision, request, found, alive, used⟩ := PacketLoop.packet_pairs platform settings answers inserts
    refine ⟨generation, received, answers, request, rfl, decision, found, alive, ?_⟩
    simpa [step, program, link] using used
  | asks asked =>
    simp only [Inserts, program, PacketLoop.actions_onPairing, actions_attempt, List.mem_map] at inserts
    obtain ⟨action, member, same⟩ := inserts
    have inside := (asked.only_footprint platform settings).of_mem_actions member
    rw [LoopAction.pairing.inj same] at inside
    rcases footprint_pairs inside with accept | force
    · exact absurd (congrArg asks accept) notAccept
    · exact absurd (congrArg asks force) notForce
  | advance duration => simp [Inserts, program] at inserts

end PairingEvent

namespace PairingHistory

open PairingEvent History

variable (platform : Platform) (settings : PairingSettings)

/-- The handler as it starts, with nothing requested, paired or staged. -/
def fresh (ownDeviceId : Option DeviceId) (files : Files) (now : Time) : PairingState :=
  { ownDeviceId := ownDeviceId, files := files, now := now }

variable (own : Option DeviceId) (files : Files) (now : Time) (events : List PairingEvent)

/-- The state after the first `k` events. -/
def atEvent (k : Nat) : PairingState := stateAt (step platform settings) (fresh own files now) events k

/-- Event `i` is the peer's `pair: true` for a live request, which the local
`initiate_pairing` of event `j` made, which was there ever since, and which
the event uses up. -/
def AnswersRequest (i j : Nat) (d : DeviceId) : Prop :=
  j < i ∧ events[j]? = some (asks (.initiatePairing d)) ∧
    ∃ generation received answers request, events[i]? = some (packet d generation received answers) ∧
      pairDecision received = some true ∧
      request.expiredAt (atEvent platform settings own files now events i).now = false ∧
      (∀ k, j < k → k ≤ i → (atEvent platform settings own files now events k).outgoing.lookup d = some request) ∧
      (atEvent platform settings own files now events (i + 1)).outgoing.lookup d = none

variable {platform settings own files now events}

theorem request_has_origin {i : Nat} {d : DeviceId} {request : PairingRequest}
    (found : (atEvent platform settings own files now events i).outgoing.lookup d = some request) :
    ∃ j < i, events[j]? = some (asks (.initiatePairing d)) ∧
      ∀ k, j < k → k ≤ i → (atEvent platform settings own files now events k).outgoing.lookup d = some request := by
  have absent : ¬(atEvent platform settings own files now events 0).outgoing.lookup d = some request := by
    simp [atEvent, fresh]
  obtain ⟨j, earlier, missing, since⟩ := exists_onset
    (P := fun k => (atEvent platform settings own files now events k).outgoing.lookup d = some request) absent found
  refine ⟨j, earlier, ?_, since⟩
  have after := since (j + 1) (by omega) (by omega)
  unfold atEvent at after missing
  cases here : events[j]? with
  | none =>
    rw [stateAt_past_end here] at after
    exact absurd after missing
  | some event =>
    rw [stateAt_succ here] at after
    rcases outgoing_step platform settings after with before | initiated
    · exact absurd before missing
    · rw [initiated]

theorem insert_answers {i : Nat} {event : PairingEvent} {d : DeviceId} (here : events[i]? = some event)
    (unasked : event.InsertsUnasked platform settings d (atEvent platform settings own files now events i)) :
    ∃ j, AnswersRequest platform settings own files now events i j d := by
  obtain ⟨generation, received, answers, request, same, decision, found, alive, used⟩ :=
    unasked_insert platform settings unasked
  obtain ⟨j, earlier, initiated, since⟩ := request_has_origin found
  refine ⟨j, earlier, initiated, generation, received, answers, request, same ▸ here, decision, alive, since, ?_⟩
  unfold atEvent at used ⊢
  rwa [stateAt_succ here]

theorem nobody_paired (remote : ∀ event ∈ events, event.Remote) (k : Nat) (d : DeviceId) :
    (atEvent platform settings own files now events k).paired.lookup d = none := by
  induction k with
  | zero => simp [atEvent, fresh]
  | succ k ih =>
    cases here : events[k]? with
    | none =>
      unfold atEvent at ih ⊢
      rwa [stateAt_past_end here]
    | some event =>
      have distant := remote event (List.mem_of_getElem? here)
      have noInsert (e : DeviceId) :
          ¬event.Inserts platform settings e (atEvent platform settings own files now events k) := by
        intro inserts
        obtain ⟨j, -, initiated, -⟩ := insert_answers here
          ⟨inserts, fun same => by rw [same] at distant; exact distant, fun same => by rw [same] at distant; exact distant⟩
        exact remote _ (List.mem_of_getElem? initiated)
      have kept (action : LoopAction) (member : action ∈ actions (LoopAction.exec event.link)
          (event.program platform settings) (atEvent platform settings own files now events k))
          (t : PairingState) (absent : t.paired.lookup d = none) :
          (action.exec event.link t).2.paired.lookup d = none := by
        cases action with
        | pairing action =>
          have other : action ≠ pairedInsert d := by
            rintro rfl
            exact noInsert d member
          exact PairingHandler.paired_absent_kept other absent
        | _ => exact absent
      have after := run_invariant (LoopAction.exec event.link) kept ih
      unfold atEvent at after ⊢
      rw [stateAt_succ here]
      exact after

/-- Pairing needs local consent. A device enters `paired` only by a local
accept of it or by the peer's answer to a live request that a local
`initiate_pairing` made; one request is answered at most once; and peers alone
pair nobody. -/
theorem pairing_needs_consent (platform : Platform) (settings : PairingSettings) (own : Option DeviceId) (files : Files)
    (now : Time) (events : List PairingEvent) :
    (∀ i event d, events[i]? = some event →
      event.Inserts platform settings d (atEvent platform settings own files now events i) →
      event = asks (.acceptPairing d) ∨ event = asks (.forceAcceptPairing d) ∨
        ∃ j, AnswersRequest platform settings own files now events i j d) ∧
    (∀ i i' j d, AnswersRequest platform settings own files now events i j d →
      AnswersRequest platform settings own files now events i' j d → i = i') ∧
    ((∀ event ∈ events, event.Remote) →
      ∀ k d, (atEvent platform settings own files now events k).paired.lookup d = none) := by
  refine ⟨fun i event d here inserts => ?_, fun i i' j d first second => ?_, nobody_paired⟩
  · by_cases accept : event = asks (.acceptPairing d)
    · exact .inl accept
    · by_cases force : event = asks (.forceAcceptPairing d)
      · exact .inr (.inl force)
      · exact .inr (.inr (insert_answers here ⟨inserts, accept, force⟩))
  · obtain ⟨before, -, -, -, -, request, -, -, -, since, used⟩ := first
    obtain ⟨before', -, -, -, -, request', -, -, -, since', used'⟩ := second
    rcases Nat.lt_trichotomy i i' with less | same | more
    · exact absurd ((since' (i + 1) (by omega) (by omega)).symm.trans used) (by simp)
    · exact same
    · exact absurd ((since (i' + 1) (by omega) (by omega)).symm.trans used') (by simp)

end PairingHistory

end RustConnect
