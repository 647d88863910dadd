import RustConnect.LinkGenerations

namespace RustConnect

open Program ManagerAction ConnectionManager

namespace LinkReplacement

open LinkGenerations

/-- A link that has passed its checks is registered, and its packet loop is started. -/
inductive Registration
  | inbound (identity : Identity) (peerCert : Option Bytes) (stream : BufReader)
  | outbound (identity : Identity) (peerCert : Option Bytes) (stream : BufReader)

namespace Registration

def deviceId : Registration → DeviceId
  | inbound identity _ _ | outbound identity _ _ => identity.deviceId

def program : Registration → ManagerProgram Unit
  | inbound identity peerCert stream => do
    match ← (registerInbound identity peerCert stream).run with
    | .ok generation => let _ ← startLoop identity.deviceId generation
    | .error _ => return
  | outbound identity peerCert stream => do
    let generation ← registerOutbound identity peerCert stream
    let _ ← startLoop identity.deviceId generation

end Registration

/-- The registrations of one device. -/
abbrev Registrations (d : DeviceId) := { registration : Registration // registration.deviceId = d }

/-- How far a registration has come. -/
inductive Stage
  | begun
  | counted (generation : UInt64)
  | registered (generation : UInt64)
  | listed (generation : UInt64) (connected : List DeviceId)
  | armed (generation : UInt64) (token : Token)
  | finished

namespace Stage

def generation : Stage → Option UInt64
  | counted generation | registered generation | listed generation _ | armed generation _ => some generation
  | begun | finished => none

/-- The generation that is counted and not registered yet. -/
def held : Stage → Option UInt64
  | counted generation => some generation
  | _ => none

/-- The stages in which the loop of the replaced link may be stopped. -/
def stops : Stage → Bool
  | counted _ | registered _ => true
  | _ => false

end Stage

variable (d : DeviceId)

/-- The steps of a registration of the device. -/
def advance : Stage → (action : ManagerAction) → action.Answer → Option Stage
  | stage, recordCapabilities _ _, _ => some stage
  | .begun, registerIncoming e _ _, answer =>
    if e = d then some (match answer with
      | .ok (generation, _) => .registered generation
      | .error _ => .finished) else none
  | .begun, bumpGeneration e, generation => if e = d then some (.counted generation) else none
  | .counted generation, getConnection _, _ => some (.counted generation)
  | .counted generation, insertConnection e own _ _, _ =>
    if e = d ∧ own = generation then some (.registered generation) else none
  | .registered generation, connectedDeviceIds, connected => some (.listed generation connected)
  | .listed generation connected, retainGenerations listed, _ =>
    if listed = connected then some (.registered generation) else none
  | .registered generation, newToken, token => some (.armed generation token)
  | .armed generation token, registerCancelTokenIfCurrent e drawn own, _ =>
    if e = d ∧ drawn = token ∧ own = generation then some .finished else none
  | stage, cancelLoop e, _ | stage, removeCancelToken e, _ => if e = d ∧ stage.stops then some stage else none
  | stage, shutdownWrite _, _ => some stage
  | _, _, _ => none

example : advance d (.counted 2) (getConnection d) none = some (.counted 2) := by simp [advance]

/-- The generation that an action has counted for the device. -/
def counts : (Σ action : ManagerAction, action.Answer) → Option UInt64
  | ⟨registerIncoming e _ _, .ok (generation, _)⟩ => if e = d then some generation else none
  | ⟨bumpGeneration e, generation⟩ => if e = d then some generation else none
  | _ => none

/-- The generation that a task has counted last. -/
def ownGeneration (trace : List (Nat × Σ action : ManagerAction, action.Answer)) (task : Nat) : Option UInt64 :=
  (trace.filterMap fun entry => if entry.1 = task then counts d entry.2 else none).getLast?

/-- The token that a packet loop of the device has registered, and for which generation. -/
def starts : (Σ action : ManagerAction, action.Answer) → Option (Token × UInt64)
  | ⟨registerCancelTokenIfCurrent e token generation, true⟩ => if e = d then some (token, generation) else none
  | _ => none

/-- The loops of the device that were started, in order. -/
def started (trace : List (Nat × Σ action : ManagerAction, action.Answer)) : List (Token × UInt64) :=
  trace.filterMap fun entry => starts d entry.2

/-- The action comes in order: a link is put into the slot only while its
generation is the newest that was counted, and a registration stops no loop
of a link that is not older than its own. -/
def inOrder (s : ManagerState) (trace : List (Nat × Σ action : ManagerAction, action.Answer)) (task : Nat) :
    ManagerAction → Bool
  | insertConnection _ generation _ _ => s.generations.lookup d == some generation
  | cancelLoop _ | removeCancelToken _ => (s.cancelTokens.lookup d).isNone ||
    (started d trace).getLast?.any fun start => (ownGeneration d trace task).any fun own => start.2 < own
  | bumpGeneration _ | registerIncoming _ _ _ => counter d s + 1 < 2 ^ 64
  | _ => true

def Orderly (pool : Pool ManagerAction ManagerAction.Answer ManagerState) : Turn (Registrations d) → Prop
  | .spawn _ => True
  | .take task => ∀ action, pool.next task = some action → inOrder d pool.shared pool.trace task action

/-- The link in the slot is the newest that was registered, and the token of
its loop is alive, unless a newer link is about to take the slot. -/
structure Newest (s : ManagerState) (stages : Nat → Stage) (trace : List (Nat × Σ action : ManagerAction, action.Answer)) :
    Prop where
  counted : Counted d s (fun task => (stages task).held) trace
  bound : ∀ task generation, (stages task).generation = some generation → generation.toNat ≤ counter d s
  single : ∀ task other generation, (stages task).generation = some generation →
    (stages other).generation = some generation → other = task
  own : ∀ task generation, (stages task).generation = some generation → ownGeneration d trace task = some generation
  member : ∀ task generation, (stages task).generation = some generation → (stages task).held = none →
    generation ∈ registrations d trace
  top : ∀ link, s.connections.lookup d = some link → ∀ generation ∈ registrations d trace,
    generation.toNat ≤ link.generation.toNat
  present : registrations d trace ≠ [] → (s.connections.lookup d).isSome
  listed : ∀ task generation connected, stages task = .listed generation connected → d ∈ connected
  begun : ∀ start ∈ started d trace, start.2 ∈ registrations d trace ∧ ∀ task, (stages task).generation ≠ some start.2
  current : ∀ token, s.cancelTokens.lookup d = some token → ∃ generation, (started d trace).getLast? = some (token, generation)
  alive : ∀ link token, s.connections.lookup d = some link → (token, link.generation) ∈ started d trace →
    (started d trace).getLast? = some (token, link.generation) ∧ s.cancelTokens.lookup d = some token ∧ token ∉ s.cancelled ∨
      ∃ task generation, (stages task).held = some generation ∧ link.generation.toNat < generation.toNat
  drawn : ∀ token, token ∈ s.cancelled ∨ s.cancelTokens.lookup d = some token → token < s.nextToken
  armed : ∀ task generation token, stages task = .armed generation token →
    token < s.nextToken ∧ token ∉ s.cancelled ∧ s.cancelTokens.lookup d ≠ some token ∧
      ∀ other generation', stages other = .armed generation' token → other = task

variable {d} {s t : ManagerState} {stages : Nat → Stage} {trace : List (Nat × Σ action : ManagerAction, action.Answer)}
  {task : Nat} {later : Stage}

theorem started_append (entry : Nat × Σ action : ManagerAction, action.Answer) :
    started d (trace ++ [entry]) = started d trace ++ (starts d entry.2).toList := by
  unfold started
  rw [List.filterMap_append]
  cases found : starts d entry.2 <;> simp [found]

theorem ownGeneration_append (entry : Nat × Σ action : ManagerAction, action.Answer) (task : Nat) :
    ownGeneration d (trace ++ [entry]) task =
      (if entry.1 = task then counts d entry.2 else none).or (ownGeneration d trace task) := by
  unfold ownGeneration
  rw [List.filterMap_append]
  cases found : (if entry.1 = task then counts d entry.2 else none) with
  | none => simp [found]
  | some generation => simp [found]

theorem held_update (stages : Nat → Stage) (task : Nat) (later : Stage) :
    (fun other => (Function.update stages task later other).held) =
      Function.update (fun other => (stages other).held) task later.held := by
  funext other
  by_cases here : other = task
  · subst here
    simp
  · simp [here]

theorem update_cases (stages : Nat → Stage) (task : Nat) (later : Stage) (other : Nat) :
    other = task ∧ Function.update stages task later other = later ∨
      other ≠ task ∧ Function.update stages task later other = stages other := by
  by_cases here : other = task
  · subst here
    exact .inl ⟨rfl, by simp⟩
  · exact .inr ⟨here, by simp [here]⟩

/-- A registration that stops a loop out of which no newer link came does no harm to the loop of the link in the slot. -/
theorem Newest.outlived (newest : Newest d s stages trace) {own : UInt64} (stage : (stages task).generation = some own)
    {link : Link} (found : s.connections.lookup d = some link) (older : link.generation.toNat < own.toNat) :
    (stages task).held = some own := by
  cases held : (stages task).held with
  | some generation =>
    cases here : stages task with
    | counted generation =>
      rw [here] at stage
      rw [here] at held
      exact held.symm.trans stage
    | _ =>
      rw [here] at held
      cases held
  | none =>
    have top := newest.top link found own (newest.member task own stage held)
    omega

/-- An action that counts, registers and starts nothing and leaves the device's link alone; if it
touches the device's token, the loop that was started last belongs to an older link than the task's. -/
theorem Newest.frame (newest : Newest d s stages trace) {entry : Σ action : ManagerAction, action.Answer}
    (counted : Counted d t (fun other => (Function.update stages task later other).held) (trace ++ [(task, entry)]))
    (quiet : registered d entry = none ∧ counts d entry = none ∧ starts d entry = none)
    (count : counter d t = counter d s) (slot : t.connections.lookup d = s.connections.lookup d)
    (tokens : ∀ token, t.cancelTokens.lookup d = some token → s.cancelTokens.lookup d = some token)
    (cancelled : ∀ token ∈ t.cancelled, token ∈ s.cancelled ∨ s.cancelTokens.lookup d = some token)
    (calm : t.cancelTokens.lookup d = s.cancelTokens.lookup d ∧ t.cancelled = s.cancelled ∨
      ∃ own token generation, (stages task).generation = some own ∧ (started d trace).getLast? = some (token, generation) ∧
        generation.toNat < own.toNat)
    (next : s.nextToken ≤ t.nextToken)
    (known : ∀ generation, later.generation = some generation → (stages task).generation = some generation)
    (held : later.held = (stages task).held)
    (fresh : later = stages task ∨ (∀ generation connected, later = .listed generation connected → d ∈ connected) ∧
      ∀ generation token, later = .armed generation token → s.nextToken ≤ token ∧ token < t.nextToken) :
    Newest d t (Function.update stages task later) (trace ++ [(task, entry)]) := by
  obtain ⟨noRegistration, noCount, noStart⟩ := quiet
  have registrations' : registrations d (trace ++ [(task, entry)]) = registrations d trace := by
    simp [registrations_append, noRegistration]
  have started' : started d (trace ++ [(task, entry)]) = started d trace := by simp [started_append, noStart]
  have own' (other : Nat) : ownGeneration d (trace ++ [(task, entry)]) other = ownGeneration d trace other := by
    simp [ownGeneration_append, noCount]
  have known' (other : Nat) (generation : UInt64)
      (stage : (Function.update stages task later other).generation = some generation) :
      (stages other).generation = some generation := by
    rcases update_cases stages task later other with ⟨rfl, same⟩ | ⟨-, same⟩
    · exact known generation (same ▸ stage)
    · exact same ▸ stage
  have held' (other : Nat) : (Function.update stages task later other).held = (stages other).held := by
    rcases update_cases stages task later other with ⟨rfl, same⟩ | ⟨-, same⟩
    · rw [same, held]
    · rw [same]
  have armed' (other : Nat) (generation : UInt64) (token : Token)
      (stage : Function.update stages task later other = .armed generation token) :
      stages other = .armed generation token ∨ other = task ∧ s.nextToken ≤ token ∧ token < t.nextToken := by
    rcases update_cases stages task later other with ⟨rfl, same⟩ | ⟨-, same⟩
    · rcases fresh with unchanged | ⟨-, new⟩
      · exact .inl (unchanged ▸ same ▸ stage)
      · exact .inr ⟨rfl, new generation token (same ▸ stage)⟩
    · exact .inl (same ▸ stage)
  refine ⟨counted, ?_, ?_, ?_, ?_, ?_, ?_, ?_, ?_, ?_, ?_, ?_, ?_⟩
  · intro other generation stage
    rw [count]
    exact newest.bound other generation (known' other generation stage)
  · intro other third generation first second
    exact newest.single other third generation (known' _ _ first) (known' _ _ second)
  · intro other generation stage
    rw [own']
    exact newest.own other generation (known' _ _ stage)
  · intro other generation stage none
    rw [registrations']
    exact newest.member other generation (known' _ _ stage) (held' other ▸ none)
  · rw [slot, registrations']
    exact newest.top
  · rw [slot, registrations']
    exact newest.present
  · intro other generation connected stage
    rcases update_cases stages task later other with ⟨rfl, same⟩ | ⟨-, same⟩
    · rcases fresh with unchanged | ⟨new, -⟩
      · exact newest.listed other generation connected (unchanged ▸ same ▸ stage)
      · exact new generation connected (same ▸ stage)
    · exact newest.listed other generation connected (same ▸ stage)
  · intro start member
    rw [started'] at member
    rw [registrations']
    obtain ⟨among, free⟩ := newest.begun start member
    exact ⟨among, fun other stage => free other (known' _ _ stage)⟩
  · intro token present
    rw [started']
    exact newest.current token (tokens token present)
  · intro link token found member
    rw [slot] at found
    rw [started'] at member
    rw [started']
    rcases newest.alive link token found member with ⟨last, present, uncancelled⟩ | ⟨other, generation, holding, older⟩
    · rcases calm with ⟨sameToken, sameCancelled⟩ | ⟨own, token', generation, stage, last', older⟩
      · rw [sameToken, sameCancelled]
        exact .inl ⟨last, present, uncancelled⟩
      · obtain ⟨rfl, rfl⟩ : token = token' ∧ link.generation = generation := by simpa using last.symm.trans last'
        exact .inr ⟨task, own, (held' task).trans (newest.outlived stage found older), older⟩
    · exact .inr ⟨other, generation, (held' other).trans holding, older⟩
  · intro drawn place
    refine Nat.lt_of_lt_of_le (newest.drawn drawn ?_) next
    rcases place with inside | present
    · exact cancelled drawn inside
    · exact .inr (tokens drawn present)
  · intro other generation drawn stage
    rcases armed' other generation drawn stage with before | ⟨rfl, low, high⟩
    · obtain ⟨below, uncancelled, elsewhere, only⟩ := newest.armed other generation drawn before
      refine ⟨Nat.lt_of_lt_of_le below next, fun inside => ?_, fun present => elsewhere (tokens drawn present),
        fun third generation' stage' => ?_⟩
      · rcases cancelled drawn inside with already | present
        · exact uncancelled already
        · exact elsewhere present
      · rcases armed' third generation' drawn stage' with also | ⟨rfl, low, -⟩
        · exact only third generation' also
        · exact absurd below (Nat.not_lt_of_le low)
    · have unseen : ¬ (drawn ∈ s.cancelled ∨ s.cancelTokens.lookup d = some drawn) := fun place =>
        Nat.not_lt_of_le low (newest.drawn drawn place)
      refine ⟨high, fun inside => unseen (cancelled drawn inside), fun present => unseen (.inr (tokens drawn present)),
        fun third generation' stage' => ?_⟩
      rcases armed' third generation' drawn stage' with also | ⟨rfl, -, -⟩
      · exact absurd (newest.armed third generation' drawn also).1 (Nat.not_lt_of_le low)
      · rfl

/-- Only what a trace counts, registers and starts matters. -/
theorem Newest.congr {trace' : List (Nat × Σ action : ManagerAction, action.Answer)} (newest : Newest d s stages trace)
    (sameRegistrations : registrations d trace' = registrations d trace) (sameStarted : started d trace' = started d trace)
    (sameOwn : ∀ other, ownGeneration d trace' other = ownGeneration d trace other) : Newest d s stages trace' := by
  obtain ⟨⟨bound, held, distinct, slot, token⟩, bound', single, own, member, top, present, listed, begun, current, alive, drawn,
    armed⟩ := newest
  refine ⟨⟨?_, ?_, ?_, ?_, token⟩, bound', single, ?_, ?_, ?_, ?_, listed, ?_, ?_, ?_, drawn, armed⟩
  all_goals simp only [sameRegistrations, sameStarted, sameOwn]
  all_goals assumption

/-- A registration counts its generation. -/
theorem Newest.bump (newest : Newest d s stages trace) (stage : stages task = .begun) (room : counter d s + 1 < 2 ^ 64) :
    Newest d (s.countGeneration d) (Function.update stages task (.counted (s.nextGeneration d)))
      (trace ++ [(task, ⟨bumpGeneration d, s.nextGeneration d⟩)]) := by
  have count := counter_countGeneration room
  have next := nextGeneration_toNat room
  have counted := newest.counted.bump room task
  have registrations' : registrations d (trace ++ [(task, ⟨bumpGeneration d, s.nextGeneration d⟩)]) = registrations d trace := by
    simp [registrations_append, registered]
  have started' : started d (trace ++ [(task, ⟨bumpGeneration d, s.nextGeneration d⟩)]) = started d trace := by
    simp [started_append, starts]
  have own' (other : Nat) : ownGeneration d (trace ++ [(task, ⟨bumpGeneration d, s.nextGeneration d⟩)]) other =
      if task = other then some (s.nextGeneration d) else ownGeneration d trace other := by
    rw [ownGeneration_append]
    by_cases here : task = other <;> simp [here, counts]
  have unused (other : Nat) : (stages other).generation ≠ some (s.nextGeneration d) := fun same => by
    have bound := newest.bound other _ same
    omega
  have kept {other : Nat} {generation : UInt64} {P : Prop}
      (found : (Function.update stages task (.counted (s.nextGeneration d)) other).generation = some generation)
      (new : other = task → generation = s.nextGeneration d → P)
      (old : other ≠ task → (stages other).generation = some generation → P) : P := by
    rcases update_cases stages task (.counted (s.nextGeneration d)) other with ⟨here, same⟩ | ⟨there, same⟩
    · rw [same] at found
      exact new here (Option.some.inj found).symm
    · exact old there (same ▸ found)
  refine ⟨held_update stages task _ ▸ counted, ?_, ?_, ?_, ?_, ?_, ?_, ?_, ?_, ?_, ?_, newest.drawn, ?_⟩
  · intro other generation found
    refine kept found (fun _ same => by rw [same]; omega) fun _ before => ?_
    have bound := newest.bound other generation before
    omega
  · intro other third generation first second
    refine kept first (fun here same => ?_) fun _ before => kept second (fun _ same => ?_) fun _ also => ?_
    · exact kept second (fun there _ => there.trans here.symm) fun _ also => absurd (same ▸ also) (unused third)
    · exact absurd (same ▸ before) (unused other)
    · exact newest.single other third generation before also
  · intro other generation found
    rw [own']
    refine kept found (fun here same => by rw [if_pos here.symm, same]) fun there before => ?_
    rw [if_neg (Ne.symm there)]
    exact newest.own other generation before
  · intro other generation found holding
    rw [registrations']
    rcases update_cases stages task (.counted (s.nextGeneration d)) other with ⟨-, same⟩ | ⟨-, same⟩
    · rw [same] at holding
      cases holding
    · exact newest.member other generation (same ▸ found) (same ▸ holding)
  · rw [registrations']
    exact newest.top
  · rw [registrations']
    exact newest.present
  · intro other generation connected found
    rcases update_cases stages task (.counted (s.nextGeneration d)) other with ⟨-, same⟩ | ⟨-, same⟩
    · rw [same] at found
      cases found
    · exact newest.listed other generation connected (same ▸ found)
  · intro start member
    rw [started'] at member
    rw [registrations']
    obtain ⟨among, free⟩ := newest.begun start member
    refine ⟨among, fun other found => kept found (fun _ same => ?_) fun _ before => free other before⟩
    have bound := newest.counted.bound start.2 among
    rw [same] at bound
    omega
  · rw [started']
    exact newest.current
  · intro link token found member
    rw [started'] at member
    rw [started']
    rcases newest.alive link token found member with alive | ⟨other, generation, holding, older⟩
    · exact .inl alive
    · refine .inr ⟨other, generation, ?_, older⟩
      rcases update_cases stages task (.counted (s.nextGeneration d)) other with ⟨here, -⟩ | ⟨-, same⟩
      · rw [here, stage] at holding
        cases holding
      · exact same ▸ holding
  · intro other generation token found
    rcases update_cases stages task (.counted (s.nextGeneration d)) other with ⟨-, same⟩ | ⟨-, same⟩
    · rw [same] at found
      cases found
    · obtain ⟨below, uncancelled, elsewhere, only⟩ := newest.armed other generation token (same ▸ found)
      refine ⟨below, uncancelled, elsewhere, fun third generation' also => ?_⟩
      rcases update_cases stages task (.counted (s.nextGeneration d)) third with ⟨-, same'⟩ | ⟨-, same'⟩
      · rw [same'] at also
        cases also
      · exact only third generation' (same' ▸ also)

/-- A registration whose generation is the newest puts its link into the slot. -/
theorem Newest.insert (newest : Newest d s stages trace) {generation : UInt64} (stage : stages task = .counted generation)
    (last : s.generations.lookup d = some generation) (peerCert : Option Bytes) (stream : BufReader) :
    Newest d (s.putLink d generation peerCert stream) (Function.update stages task (.registered generation))
      (trace ++ [(task, ⟨insertConnection d generation peerCert stream, ()⟩)]) := by
  have count : counter d s = generation.toNat := by simp [counter, last]
  have holding : (stages task).held = some generation := by rw [stage]; rfl
  have knows : (stages task).generation = some generation := by rw [stage]; rfl
  have counted := newest.counted.insert holding peerCert stream
  obtain ⟨-, unregistered, -⟩ := newest.counted.held task generation holding
  have unstarted (token : Token) : (token, generation) ∉ started d trace := fun member =>
    unregistered (newest.begun (token, generation) member).1
  have registrations' : registrations d (trace ++ [(task, ⟨insertConnection d generation peerCert stream, ()⟩)]) =
      registrations d trace ++ [generation] := by simp [registrations_append, registered]
  have started' : started d (trace ++ [(task, ⟨insertConnection d generation peerCert stream, ()⟩)]) = started d trace := by
    simp [started_append, starts]
  have own' (other : Nat) : ownGeneration d (trace ++ [(task, ⟨insertConnection d generation peerCert stream, ()⟩)]) other =
      ownGeneration d trace other := by simp [ownGeneration_append, counts]
  have slot : (s.putLink d generation peerCert stream).connections.lookup d = some ⟨s.nextLink, generation, peerCert⟩ :=
    AList.lookup_insert _
  have known (other : Nat) (generation' : UInt64)
      (found : (Function.update stages task (.registered generation) other).generation = some generation') :
      (stages other).generation = some generation' := by
    rcases update_cases stages task (.registered generation) other with ⟨here, same⟩ | ⟨-, same⟩
    · rw [same] at found
      rw [here, knows]
      exact found
    · exact same ▸ found
  refine ⟨held_update stages task _ ▸ counted, ?_, ?_, ?_, ?_, ?_, ?_, ?_, ?_, ?_, ?_, newest.drawn, ?_⟩
  · intro other generation' found
    exact newest.bound other generation' (known _ _ found)
  · intro other third generation' first second
    exact newest.single other third generation' (known _ _ first) (known _ _ second)
  · intro other generation' found
    rw [own']
    exact newest.own other generation' (known _ _ found)
  · intro other generation' found unheld
    rw [registrations', List.mem_append, List.mem_singleton]
    rcases update_cases stages task (.registered generation) other with ⟨-, same⟩ | ⟨-, same⟩
    · rw [same] at found
      exact .inr (Option.some.inj found).symm
    · exact .inl (newest.member other generation' (same ▸ found) (same ▸ unheld))
  · intro link found generation' member
    obtain rfl : ⟨s.nextLink, generation, peerCert⟩ = link := Option.some.inj (slot.symm.trans found)
    rw [registrations', List.mem_append, List.mem_singleton] at member
    rcases member with before | rfl
    · exact count ▸ newest.counted.bound generation' before
    · exact Nat.le_refl _
  · intro _
    rw [slot]
    rfl
  · intro other generation' connected found
    rcases update_cases stages task (.registered generation) other with ⟨-, same⟩ | ⟨-, same⟩
    · rw [same] at found
      cases found
    · exact newest.listed other generation' connected (same ▸ found)
  · intro start member
    rw [started'] at member
    rw [registrations']
    obtain ⟨among, free⟩ := newest.begun start member
    exact ⟨List.mem_append_left _ among, fun other found => free other (known _ _ found)⟩
  · rw [started']
    exact newest.current
  · intro link token found member
    obtain rfl : ⟨s.nextLink, generation, peerCert⟩ = link := Option.some.inj (slot.symm.trans found)
    rw [started'] at member
    exact absurd member (unstarted token)
  · intro other generation' token found
    rcases update_cases stages task (.registered generation) other with ⟨-, same⟩ | ⟨-, same⟩
    · rw [same] at found
      cases found
    · obtain ⟨below, uncancelled, elsewhere, only⟩ := newest.armed other generation' token (same ▸ found)
      refine ⟨below, uncancelled, elsewhere, fun third generation'' also => ?_⟩
      rcases update_cases stages task (.registered generation) third with ⟨-, same'⟩ | ⟨-, same'⟩
      · rw [same'] at also
        cases also
      · exact only third generation'' (same' ▸ also)

/-- A link that is registered in the scope that counts its generation comes to
the same as one that is put into the slot right after. -/
theorem Newest.register (newest : Newest d s stages trace) (stage : stages task = .begun) (room : counter d s + 1 < 2 ^ 64)
    (peerCert : Option Bytes) (stream : BufReader) (old : Option Link) :
    Newest d ((s.countGeneration d).putLink d (s.nextGeneration d) peerCert stream)
      (Function.update stages task (.registered (s.nextGeneration d)))
      (trace ++ [(task, ⟨registerIncoming d peerCert stream, .ok (s.nextGeneration d, old)⟩)]) := by
  have counted : Function.update stages task (.counted (s.nextGeneration d)) task = .counted (s.nextGeneration d) := by simp
  have last : (s.countGeneration d).generations.lookup d = some (s.nextGeneration d) := AList.lookup_insert _
  have inserted := (newest.bump stage room).insert counted last peerCert stream
  rw [Function.update_idem] at inserted
  refine inserted.congr ?_ ?_ fun other => ?_
  · rw [registrations_append, registrations_append, registrations_append]
    simp [registered]
  · rw [started_append, started_append, started_append]
    simp [starts]
  · rw [ownGeneration_append, ownGeneration_append, ownGeneration_append]
    by_cases here : task = other <;> simp [counts, here]

/-- The loop of a link that is still the device's is started. -/
theorem Newest.start (newest : Newest d s stages trace) {generation : UInt64} {token : Token}
    (stage : stages task = .armed generation token) (current : s.isCurrent d generation = true) :
    Newest d { s with cancelTokens := s.cancelTokens.insert d token } (Function.update stages task .finished)
      (trace ++ [(task, ⟨registerCancelTokenIfCurrent d token generation, true⟩)]) := by
  have knows : (stages task).generation = some generation := by rw [stage]; rfl
  have unheld : (stages task).held = none := by rw [stage]; rfl
  obtain ⟨link, slot, own⟩ : ∃ link, s.connections.lookup d = some link ∧ link.generation = generation := by
    simpa [ManagerState.isCurrent, Option.any_eq_true] using current
  obtain ⟨below, uncancelled, elsewhere, only⟩ := newest.armed task generation token stage
  have registrations' : registrations d (trace ++ [(task, ⟨registerCancelTokenIfCurrent d token generation, true⟩)]) =
      registrations d trace := by simp [registrations_append, registered]
  have started' : started d (trace ++ [(task, ⟨registerCancelTokenIfCurrent d token generation, true⟩)]) =
      started d trace ++ [(token, generation)] := by simp [started_append, starts]
  have own' (other : Nat) : ownGeneration d (trace ++ [(task, ⟨registerCancelTokenIfCurrent d token generation, true⟩)]) other =
      ownGeneration d trace other := by simp [ownGeneration_append, counts]
  have tokens : (s.cancelTokens.insert d token).lookup d = some token := AList.lookup_insert _
  have known (other : Nat) (generation' : UInt64)
      (found : (Function.update stages task .finished other).generation = some generation') :
      other ≠ task ∧ (stages other).generation = some generation' := by
    rcases update_cases stages task .finished other with ⟨-, same⟩ | ⟨there, same⟩
    · rw [same] at found
      cases found
    · exact ⟨there, same ▸ found⟩
  have held (other : Nat) : (Function.update stages task .finished other).held = (stages other).held := by
    rcases update_cases stages task .finished other with ⟨here, same⟩ | ⟨-, same⟩
    · rw [same, here, unheld]
      rfl
    · rw [same]
  refine ⟨?_, ?_, ?_, ?_, ?_, ?_, ?_, ?_, ?_, ?_, ?_, ?_, ?_⟩
  · have counted := newest.counted
    refine ⟨?_, ?_, ?_, ?_, fun _ => ?_⟩
    · rw [registrations']
      exact counted.bound
    · simp only [held, registrations']
      exact counted.held
    · rw [registrations']
      exact counted.distinct
    · rw [registrations']
      exact counted.slot
    · rw [slot]
      rfl
  · intro other generation' found
    exact newest.bound other generation' (known _ _ found).2
  · intro other third generation' first second
    exact newest.single other third generation' (known _ _ first).2 (known _ _ second).2
  · intro other generation' found
    rw [own']
    exact newest.own other generation' (known _ _ found).2
  · intro other generation' found unheld'
    rw [registrations']
    exact newest.member other generation' (known _ _ found).2 (held other ▸ unheld')
  · rw [registrations']
    exact newest.top
  · rw [registrations']
    exact newest.present
  · intro other generation' connected found
    rcases update_cases stages task .finished other with ⟨-, same⟩ | ⟨-, same⟩
    · rw [same] at found
      cases found
    · exact newest.listed other generation' connected (same ▸ found)
  · intro begun member
    rw [started', List.mem_append, List.mem_singleton] at member
    rw [registrations']
    rcases member with before | rfl
    · obtain ⟨among, free⟩ := newest.begun begun before
      exact ⟨among, fun other found => free other (known _ _ found).2⟩
    · refine ⟨newest.member task generation knows unheld, fun other found => ?_⟩
      obtain ⟨there, before⟩ := known _ _ found
      exact there (newest.single task other generation knows before)
  · intro token' found
    obtain rfl : token = token' := Option.some.inj (tokens.symm.trans found)
    exact ⟨generation, by rw [started', List.getLast?_concat]⟩
  · intro link' token' found member
    obtain rfl : link = link' := Option.some.inj (slot.symm.trans found)
    rw [started', List.mem_append, List.mem_singleton] at member
    rcases member with before | new
    · exact absurd (own ▸ knows) ((newest.begun _ before).2 task)
    · obtain ⟨rfl, -⟩ : token' = token ∧ link.generation = generation := by simpa using new
      refine .inl ⟨?_, tokens, uncancelled⟩
      rw [started', List.getLast?_concat, own]
  · intro drawn place
    rcases place with inside | present
    · exact newest.drawn drawn (.inl inside)
    · exact Option.some.inj (tokens.symm.trans present) ▸ below
  · intro other generation' drawn found
    rcases update_cases stages task .finished other with ⟨-, same⟩ | ⟨there, same⟩
    · rw [same] at found
      cases found
    · rw [same] at found
      obtain ⟨below', uncancelled', -, only'⟩ := newest.armed other generation' drawn found
      refine ⟨below', uncancelled', fun present => ?_, fun third generation'' also => ?_⟩
      · obtain rfl : token = drawn := Option.some.inj (tokens.symm.trans present)
        exact there (only other generation' found)
      · rcases update_cases stages task .finished third with ⟨-, same'⟩ | ⟨-, same'⟩
        · rw [same'] at also
          cases also
        · exact only' third generation'' (same' ▸ also)

/-- What a registration holds moves along with its stage. -/
theorem move_of_advance {stage : Stage} {action : ManagerAction} {answer : action.Answer}
    (advanced : advance d stage action answer = some later) : move d stage.held action answer = some later.held := by
  cases action with
  | registerIncoming e peerCert stream =>
    cases stage <;> simp only [advance, reduceCtorEq] at advanced
    split at advanced
    · obtain rfl := Option.some.inj advanced
      cases answer <;> rfl
    · cases advanced
  | _ => cases stage <;> simp_all [advance, move, Stage.held, Stage.stops] <;> (obtain ⟨-, rfl⟩ := advanced; rfl)

theorem Newest.keepsCount (newest : Newest d s stages trace) {action : ManagerAction} {answer : action.Answer}
    (ordered : inOrder d s trace task action) (advanced : advance d (stages task) action answer = some later) :
    keepsCount d s action := by
  cases action with
  | bumpGeneration e => exact fun _ => of_decide_eq_true ordered
  | registerIncoming e peerCert stream => exact fun _ => of_decide_eq_true ordered
  | retainGenerations connected =>
    cases stage : stages task with
    | listed generation listed =>
      rw [stage] at advanced
      simp only [advance] at advanced
      split at advanced
      · rename_i same
        exact .inl (same ▸ newest.listed task generation listed stage)
      · cases advanced
    | _ => simp [stage, advance] at advanced
  | _ => trivial

/-- An action that has nothing to do with the device. -/
theorem Newest.idle (newest : Newest d s stages trace) {entry : Σ action : ManagerAction, action.Answer}
    (counted : Counted d t (fun other => (Function.update stages task (stages task) other).held) (trace ++ [(task, entry)]))
    (quiet : registered d entry = none ∧ counts d entry = none ∧ starts d entry = none)
    (count : counter d t = counter d s) (slot : t.connections = s.connections) (tokens : t.cancelTokens = s.cancelTokens)
    (cancelled : t.cancelled = s.cancelled) (next : t.nextToken = s.nextToken) :
    Newest d t (Function.update stages task (stages task)) (trace ++ [(task, entry)]) :=
  newest.frame counted quiet count (by rw [slot]) (fun token found => tokens ▸ found) (fun token inside => .inl (cancelled ▸ inside))
    (.inl ⟨by rw [tokens], cancelled⟩) (Nat.le_of_eq next.symm) (fun _ => id) rfl (.inl rfl)

section Steps

variable {stage : Stage} {e : DeviceId}

theorem advance_recordCapabilities (stage : Stage) (e : DeviceId) (incoming : List String) :
    advance d stage (recordCapabilities e incoming) () = some stage := by
  cases stage <;> rfl

theorem advance_shutdownWrite (stage : Stage) (stream : Nat) : advance d stage (shutdownWrite stream) () = some stage := by
  cases stage <;> rfl

theorem advance_getConnection {answer : (getConnection e).Answer}
    (advanced : advance d stage (getConnection e) answer = some later) : stage = later := by
  cases stage <;> simp only [advance, reduceCtorEq] at advanced
  exact Option.some.inj advanced

theorem advance_stop
    (stop : advance d stage (cancelLoop e) () = some later ∨ advance d stage (removeCancelToken e) () = some later) :
    e = d ∧ later = stage ∧ ∃ own, stage.generation = some own := by
  cases stage <;> simp_all [advance, Stage.stops, Stage.generation]

end Steps

/-- Whatever a registration does in order, the newest link stays in the slot and its loop alive. -/
theorem Newest.exec {codec : JsonCodec} (newest : Newest d s stages trace) {action : ManagerAction}
    (ordered : inOrder d s trace task action)
    (advanced : advance d (stages task) action (action.exec codec s).1 = some later) :
    Newest d (action.exec codec s).2 (Function.update stages task later)
      (trace ++ [(task, ⟨action, (action.exec codec s).1⟩)]) := by
  have counted : Counted d (action.exec codec s).2 (fun other => (Function.update stages task later other).held)
      (trace ++ [(task, ⟨action, (action.exec codec s).1⟩)]) := by
    rw [held_update]
    exact newest.counted.exec (newest.keepsCount ordered advanced) (move_of_advance advanced)
  have older (own : UInt64) (stage : (stages task).generation = some own)
      (stop : inOrder d s trace task (cancelLoop d) = true) {held : Token} (found : s.cancelTokens.lookup d = some held) :
      ∃ own token generation, (stages task).generation = some own ∧ (started d trace).getLast? = some (token, generation) ∧
        generation.toNat < own.toNat := by
    obtain ⟨token, generation, last, less⟩ : ∃ token generation, (started d trace).getLast? = some (token, generation) ∧
        generation < own := by
      simpa [inOrder, found, newest.own task own stage, Option.any_eq_true] using stop
    exact ⟨own, token, generation, stage, last, less⟩
  cases action with
  | recordCapabilities e incoming =>
    obtain rfl := Option.some.inj ((advance_recordCapabilities (stages task) e incoming).symm.trans advanced)
    exact newest.idle counted ⟨rfl, rfl, rfl⟩ rfl rfl rfl rfl rfl
  | shutdownWrite stream =>
    obtain rfl := Option.some.inj ((advance_shutdownWrite (stages task) stream).symm.trans advanced)
    exact newest.idle counted ⟨rfl, rfl, rfl⟩ rfl rfl rfl rfl rfl
  | getConnection e =>
    obtain rfl := advance_getConnection advanced
    exact newest.idle counted ⟨rfl, rfl, rfl⟩ rfl rfl rfl rfl rfl
  | bumpGeneration e =>
    cases stage : stages task <;> simp only [stage, advance, reduceCtorEq] at advanced
    split at advanced
    · rename_i here
      subst here
      obtain rfl := Option.some.inj advanced
      exact newest.bump stage (of_decide_eq_true ordered)
    · cases advanced
  | insertConnection e own peerCert stream =>
    cases stage : stages task <;> simp only [stage, advance, reduceCtorEq] at advanced
    split at advanced
    · rename_i here
      obtain ⟨rfl, rfl⟩ := here
      obtain rfl := Option.some.inj advanced
      exact newest.insert stage (eq_of_beq ordered) peerCert stream
    · cases advanced
  | registerIncoming e peerCert stream =>
    cases stage : stages task <;> simp only [stage, advance, reduceCtorEq] at advanced
    split at advanced
    · rename_i here
      subst here
      obtain rfl := Option.some.inj advanced
      by_cases refused : (s.connections.lookup e).any fun link => !(link.peerCert.isSome && link.peerCert == peerCert)
      · simp only [ManagerAction.exec, ManagerState.registerIncoming, refused, ↓reduceIte] at counted ⊢
        exact newest.frame counted ⟨rfl, rfl, rfl⟩ rfl rfl (fun _ => id) (fun _ => .inl) (.inl ⟨rfl, rfl⟩) (Nat.le_refl _)
          (fun _ impossible => by cases impossible) (by rw [stage]; rfl) (.inr ⟨by simp, by simp⟩)
      · simp only [ManagerAction.exec, ManagerState.registerIncoming, refused, Bool.false_eq_true, ↓reduceIte]
        exact newest.register stage (of_decide_eq_true ordered) peerCert stream _
    · cases advanced
  | connectedDeviceIds =>
    cases stage : stages task <;> simp only [stage, advance, reduceCtorEq] at advanced
    rename_i generation
    obtain rfl := Option.some.inj advanced
    have member := newest.member task generation (by rw [stage]; rfl) (by rw [stage]; rfl)
    have connected : d ∈ s.connections.keys := by
      have present := newest.present (List.ne_nil_of_mem member)
      exact AList.mem_keys.mp (AList.lookup_isSome.mp present)
    refine newest.frame counted ⟨rfl, rfl, rfl⟩ rfl rfl (fun _ => id) (fun _ => .inl) (.inl ⟨rfl, rfl⟩) (Nat.le_refl _)
      (fun _ same => by rw [stage]; exact same) (by rw [stage]; rfl) (.inr ⟨fun _ _ same => ?_, by simp⟩)
    injection same with _ listed
    exact listed ▸ connected
  | retainGenerations connected =>
    have keeps := newest.keepsCount ordered advanced
    cases stage : stages task <;> simp only [stage, advance, reduceCtorEq] at advanced
    split at advanced
    · obtain rfl := Option.some.inj advanced
      have count : counter d ((retainGenerations connected).exec codec s).2 = counter d s := by
        simp only [counter, ManagerAction.exec, Table.lookup_retain]
        rcases keeps with inside | absent
        · cases s.generations.lookup d <;> simp [Option.filter, inside]
        · rw [absent]
          rfl
      exact newest.frame counted ⟨rfl, rfl, rfl⟩ count rfl (fun _ => id) (fun _ => .inl) (.inl ⟨rfl, rfl⟩) (Nat.le_refl _)
        (fun _ same => by rw [stage]; exact same) (by rw [stage]; rfl) (.inr ⟨by simp, by simp⟩)
    · cases advanced
  | newToken =>
    cases stage : stages task <;> simp only [stage, advance, reduceCtorEq] at advanced
    obtain rfl := Option.some.inj advanced
    refine newest.frame counted ⟨rfl, rfl, rfl⟩ rfl rfl (fun _ => id) (fun _ => .inl) (.inl ⟨rfl, rfl⟩) (Nat.le_succ _)
      (fun _ same => by rw [stage]; exact same) (by rw [stage]; rfl) (.inr ⟨by simp, fun _ _ same => ?_⟩)
    injection same with _ drawn
    exact drawn ▸ ⟨Nat.le_refl _, Nat.lt_succ_self _⟩
  | registerCancelTokenIfCurrent e drawn own =>
    cases stage : stages task <;> simp only [stage, advance, reduceCtorEq] at advanced
    split at advanced
    · rename_i here
      obtain ⟨rfl, rfl, rfl⟩ := here
      obtain rfl := Option.some.inj advanced
      by_cases current : s.isCurrent e own = true
      · simp only [ManagerAction.exec, current, ↓reduceIte]
        exact newest.start stage current
      · simp only [ManagerAction.exec, current, Bool.false_eq_true, ↓reduceIte] at counted ⊢
        exact newest.frame counted ⟨rfl, rfl, rfl⟩ rfl rfl (fun _ => id) (fun _ => .inl) (.inl ⟨rfl, rfl⟩) (Nat.le_refl _)
          (fun _ impossible => by cases impossible) (by rw [stage]; rfl) (.inr ⟨by simp, by simp⟩)
    · cases advanced
  | cancelLoop e =>
    obtain ⟨rfl, rfl, own, stage⟩ := advance_stop (.inl advanced)
    cases found : s.cancelTokens.lookup e with
    | none =>
      simp only [ManagerAction.exec, found] at counted ⊢
      exact newest.idle counted ⟨rfl, rfl, rfl⟩ rfl rfl rfl rfl rfl
    | some token =>
      simp only [ManagerAction.exec, found] at counted ⊢
      refine newest.frame counted ⟨rfl, rfl, rfl⟩ rfl rfl (fun _ => id) (fun other inside => ?_)
        (.inr (older own stage ordered found)) (Nat.le_refl _) (fun _ => id) rfl (.inl rfl)
      rcases List.mem_cons.mp inside with rfl | before
      · exact .inr found
      · exact .inl before
  | removeCancelToken e =>
    obtain ⟨rfl, rfl, own, stage⟩ := advance_stop (.inr advanced)
    have erased : ((removeCancelToken e).exec codec s).2.cancelTokens.lookup e = none := AList.lookup_erase _ _
    cases found : s.cancelTokens.lookup e with
    | none =>
      exact newest.frame counted ⟨rfl, rfl, rfl⟩ rfl rfl (fun _ present => by rw [erased] at present; cases present)
        (fun _ => .inl) (.inl ⟨erased.trans found.symm, rfl⟩) (Nat.le_refl _) (fun _ => id) rfl (.inl rfl)
    | some token =>
      exact newest.frame counted ⟨rfl, rfl, rfl⟩ rfl rfl (fun _ present => by rw [erased] at present; cases present)
        (fun _ => .inl) (.inr (older own stage ordered found)) (Nat.le_refl _) (fun _ => id) rfl (.inl rfl)
  | _ => cases stage : stages task <;> simp [advance] at advanced

section Tasks

theorem follows_recordPeerCapabilities (stage : Stage) (e : DeviceId) (incoming outgoing : List String) :
    Follows (advance d) stage (recordPeerCapabilities e incoming outgoing) fun later _ => later = stage := by
  have records : Follows (advance d) stage (perform (recordCapabilities e incoming)) fun later _ => later = stage :=
    fun _ => ⟨stage, by simp [advance], rfl⟩
  unfold recordPeerCapabilities
  split
  · rfl
  · exact records

theorem follows_stopReplaced {stage : Stage} (stops : stage.stops) (old : Link) :
    Follows (advance d) stage (stopReplaced d old) fun later _ => later = stage := by
  have cancels : advance d stage (cancelLoop d) () = some stage := by cases stage <;> simp_all [advance, Stage.stops]
  have removes : advance d stage (removeCancelToken d) () = some stage := by cases stage <;> simp_all [advance, Stage.stops]
  have shuts : advance d stage (shutdownWrite old.id) () = some stage := by cases stage <;> simp [advance]
  exact fun _ => ⟨stage, cancels, fun _ => ⟨stage, removes, fun _ => ⟨stage, shuts, rfl⟩⟩⟩

theorem follows_startLoop (generation : UInt64) :
    Follows (advance d) (.registered generation) (startLoop d generation) fun later _ => later = .finished :=
  fun token => ⟨.armed generation token, rfl, fun _ => ⟨.finished, by simp [advance], rfl⟩⟩

theorem follows_registerInbound (identity : Identity) (peerCert : Option Bytes) (stream : BufReader) :
    Follows (advance identity.deviceId) .begun (registerInbound identity peerCert stream).run fun later result =>
      match result with
      | .ok generation => later = .registered generation
      | .error _ => later = .finished := by
  unfold registerInbound
  rw [follows_except_bind, follows_except_lift]
  refine (follows_recordPeerCapabilities ..).weaken fun stage _ same => ?_
  subst same
  rw [follows_except_bind]
  intro answer
  rcases answer with e | ⟨generation, _ | old⟩
  · exact ⟨.finished, by simp [advance], rfl⟩
  · exact ⟨.registered generation, by simp [advance], rfl⟩
  · refine ⟨.registered generation, by simp [advance], ?_⟩
    refine (follows_except_bind _ _ _).mpr ((follows_except_lift _ _).mpr ?_)
    refine (follows_stopReplaced rfl old).weaken fun later _ same => ?_
    subst same
    rfl

theorem follows_registerOutbound (identity : Identity) (peerCert : Option Bytes) (stream : BufReader) :
    Follows (advance identity.deviceId) .begun (registerOutbound identity peerCert stream) fun later generation =>
      later = .registered generation := by
  have inserts (generation : UInt64) : Follows (advance identity.deviceId) (.counted generation) (do
      perform (insertConnection identity.deviceId generation peerCert stream)
      cleanupStaleGenerations
      return generation : ManagerProgram UInt64) fun later own => later = .registered own :=
    fun _ => ⟨.registered generation, by simp [advance], fun connected => ⟨.listed generation connected, rfl,
      fun _ => ⟨.registered generation, by simp [advance], rfl⟩⟩⟩
  unfold registerOutbound
  rw [follows_bind]
  refine (follows_recordPeerCapabilities ..).weaken fun stage _ same => ?_
  subst same
  intro generation
  refine ⟨.counted generation, by simp [advance], fun found => ⟨.counted generation, rfl, ?_⟩⟩
  cases found with
  | none => exact inserts generation
  | some old =>
    refine (follows_bind _ _ _).mpr ((follows_stopReplaced rfl old).weaken fun later _ same => ?_)
    subst same
    exact inserts generation

theorem follows_registration (registration : Registrations d) :
    Follows (advance d) .begun registration.1.program fun later _ => later = .finished := by
  obtain ⟨registration, rfl⟩ := registration
  cases registration with
  | inbound identity peerCert stream =>
    refine (follows_bind _ _ _).mpr ((follows_registerInbound identity peerCert stream).weaken fun stage result came => ?_)
    cases result with
    | error e =>
      subst came
      rfl
    | ok generation =>
      subst came
      exact (follows_bind _ _ _).mpr ((follows_startLoop generation).weaken fun _ _ same => same)
  | outbound identity peerCert stream =>
    refine (follows_bind _ _ _).mpr ((follows_registerOutbound identity peerCert stream).weaken fun stage generation came => ?_)
    subst came
    exact (follows_bind _ _ _).mpr ((follows_startLoop generation).weaken fun _ _ same => same)

end Tasks

/-- The registrations after the first `k` turns. -/
def atTurn (codec : JsonCodec) (d : DeviceId) (files : Files) (own : DeviceId) (now : Time) (turns : List (Turn (Registrations d)))
    (k : Nat) : Pool ManagerAction ManagerAction.Answer ManagerState :=
  Pool.after (ManagerAction.exec codec) (fun registration => registration.1.program) (fresh files own now) turns k

/-- Where everything is done in order, the link that is left when all
registrations have finished is the newest, and its loop has not been stopped. -/
theorem newest_link_lives (codec : JsonCodec) (d : DeviceId) (files : Files) (own : DeviceId) (now : Time)
    (turns : List (Turn (Registrations d)))
    (orderly : ∀ k turn, turns[k]? = some turn → Orderly d (atTurn codec d files own now turns k) turn) (k : Nat)
    (finished : (atTurn codec d files own now turns k).Idle) :
    (registrations d (atTurn codec d files own now turns k).trace ≠ [] →
      ∃ link, (atTurn codec d files own now turns k).shared.connections.lookup d = some link ∧
        link.generation ∈ registrations d (atTurn codec d files own now turns k).trace ∧
        ∀ generation ∈ registrations d (atTurn codec d files own now turns k).trace,
          generation.toNat ≤ link.generation.toNat) ∧
      ∀ link token, (atTurn codec d files own now turns k).shared.connections.lookup d = some link →
        (token, link.generation) ∈ started d (atTurn codec d files own now turns k).trace →
        (atTurn codec d files own now turns k).shared.cancelTokens.lookup d = some token ∧
          token ∉ (atTurn codec d files own now turns k).shared.cancelled := by
  have invariant : Pool.Invariant (advance d) .begun (· = .finished) (ManagerAction.exec codec)
      (fun registration : Registrations d => registration.1.program) (Orderly d) (Newest d) :=
    ⟨follows_registration, fun _ _ _ action _ newest next ordered advanced => newest.exec (ordered action next) advanced⟩
  have first : Newest d (fresh files own now) (fun _ => .begun) [] :=
    ⟨⟨by simp [registrations], by simp [Stage.held], by simp [registrations], by simp [fresh], by simp [fresh]⟩,
      by simp [Stage.generation], by simp [Stage.generation], by simp [Stage.generation], by simp [Stage.generation],
      by simp [fresh], by simp [registrations], by simp, by simp [started], by simp [fresh], by simp [fresh], by simp [fresh],
      by simp⟩
  obtain ⟨stages, phased, newest⟩ := invariant.run first orderly k
  have done (task : Nat) : (stages task).held = none := by
    rcases phased.idle finished task with same | same <;> rw [same] <;> rfl
  refine ⟨fun some => ?_, fun link token found member => ?_⟩
  · obtain ⟨link, found⟩ := Option.isSome_iff_exists.mp (newest.present some)
    exact ⟨link, found, List.mem_of_getLast? (newest.counted.slot link found), newest.top link found⟩
  · rcases newest.alive link token found member with ⟨-, alive⟩ | ⟨task, generation, holding, -⟩
    · exact alive
    · rw [done task] at holding
      cases holding

section Sample

open RefusedAttempts

def comesIn : Registrations phoneId := ⟨.inbound phoneIdentity (some [48, 1]) (.new []), rfl⟩

def isDialled : Registrations phoneId := ⟨.outbound phoneIdentity (some [48, 1]) (.new []), rfl⟩

/-- The phone connects and is dialled, one after the other. -/
def oneByOne : List (Turn (Registrations phoneId)) :=
  (.spawn comesIn :: List.replicate 4 (.take 0) : List (Turn (Registrations phoneId))) ++
  (.spawn isDialled :: List.replicate 11 (.take 1) : List (Turn (Registrations phoneId)))

abbrev phoneAt (turns : List (Turn (Registrations phoneId))) (k : Nat) :
    Pool ManagerAction ManagerAction.Answer ManagerState := atTurn phoneCodec phoneId ∅ "" 0 turns k

theorem newest_phone_lives :
    ((phoneAt oneByOne 17).shared.connections.lookup phoneId).map Link.generation = some 2 ∧
      registrations phoneId (phoneAt oneByOne 17).trace = [1, 2] ∧ (phoneAt oneByOne 17).shared.cancelled = [0] ∧
      ∀ link token, (phoneAt oneByOne 17).shared.connections.lookup phoneId = some link →
        (token, link.generation) ∈ started phoneId (phoneAt oneByOne 17).trace →
        (phoneAt oneByOne 17).shared.cancelTokens.lookup phoneId = some token ∧
          token ∉ (phoneAt oneByOne 17).shared.cancelled := by
  have ordered : ∀ k < 17, ∀ task < 2, ((phoneAt oneByOne k).next task).all
      (inOrder phoneId (phoneAt oneByOne k).shared (phoneAt oneByOne k).trace task) = true := by decide +kernel
  refine ⟨by decide +kernel, by decide +kernel, by decide +kernel,
    (newest_link_lives phoneCodec phoneId ∅ "" 0 oneByOne (fun k turn here => ?_) 17
      (Pool.idle_of_ended (by decide +kernel))).2⟩
  have inside : k < 17 := (List.getElem?_eq_some_iff.mp here).1
  cases turn with
  | spawn op => trivial
  | take task =>
    have member := List.mem_of_getElem? here
    have small : task < 2 := by
      have cases : task = 0 ∨ task = 1 := by simpa [oneByOne] using member
      omega
    intro action next
    have fine := ordered k inside task small
    rwa [next] at fine

/-- Two dials cross: the first counts its generation, the second registers its link, and then the first its own. -/
def crossed : List (Turn (Registrations phoneId)) :=
  ([.spawn isDialled, .spawn isDialled] : List (Turn (Registrations phoneId))) ++ List.replicate 2 (Turn.take 0) ++
  List.replicate 8 (Turn.take 1) ++ List.replicate 9 (Turn.take 0)

/-- Two incoming links replace one another, and the loop of the newer one is
started before the older one has stopped the loop that it replaces. -/
def overtaken : List (Turn (Registrations phoneId)) :=
  (.spawn comesIn :: List.replicate 4 (.take 0) : List (Turn (Registrations phoneId))) ++
  ([.spawn comesIn, .spawn comesIn] : List (Turn (Registrations phoneId))) ++ List.replicate 2 (Turn.take 1) ++
  List.replicate 7 (Turn.take 2) ++ List.replicate 5 (Turn.take 1)

theorem newest_phone_lost :
    ((phoneAt crossed 21).Idle ∧ registrations phoneId (phoneAt crossed 21).trace = [2, 1] ∧
      ((phoneAt crossed 21).shared.connections.lookup phoneId).map Link.generation = some 1) ∧
      (phoneAt overtaken 21).Idle ∧ ((phoneAt overtaken 21).shared.connections.lookup phoneId).map Link.generation = some 3 ∧
      started phoneId (phoneAt overtaken 21).trace = [(0, 1), (1, 3)] ∧ 1 ∈ (phoneAt overtaken 21).shared.cancelled ∧
      (phoneAt overtaken 21).shared.cancelTokens.lookup phoneId = none := by
  refine ⟨⟨Pool.idle_of_ended (by decide +kernel), by decide +kernel, by decide +kernel⟩,
    Pool.idle_of_ended (by decide +kernel), by decide +kernel, by decide +kernel, by decide +kernel, by decide +kernel⟩

end Sample

end LinkReplacement

end RustConnect
