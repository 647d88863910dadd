import RustConnect.PendingRequests

namespace Program

variable {A : Type} {R : A → Type} {σ α : Type} {exec : (action : A) → σ → R action × σ}

/-- What the performed actions keep, holds between any two of them. -/
theorem stateAfter_invariant {I : σ → Prop} {program : Program A R α} {s : σ}
    (kept : ∀ action ∈ actions exec program s, ∀ t, I t → I (exec action t).2) (holds : I s) (n : Nat) :
    I (stateAfter exec n program s) := by
  induction program generalizing n s with
  | done value => cases n <;> exact holds
  | act action next ih =>
    cases n with
    | zero => exact holds
    | succ n =>
      refine ih _ (fun later member => kept later (List.mem_cons_of_mem _ member)) ?_ n
      exact kept action List.mem_cons_self s holds

end Program

namespace RustConnect

open Program PairingAction CertificateManager

namespace PairingState

/-- The request that `accept_pairing` takes is still live. -/
def awaits (s : PairingState) (d : DeviceId) : Bool :=
  match s.outgoing.lookup d with
  | some request => !request.expiredAt s.now
  | none => (s.incoming.lookup d).any fun request => !request.expiredAt s.now

/-- A certificate is staged for the device, or a fingerprint is on file. -/
def anchored (platform : Platform) (s : PairingState) (d : DeviceId) : Prop :=
  (s.pendingCerts.lookup d).isSome ∨
    validateDeviceId platform d = .ok () ∧ (s.files.lookup (fingerprintFile d)).isSome

end PairingState

namespace PairingHandler

/-- `set_own_device_id`: an entry under this id is dropped, and the file written again when there was one. -/
def setOwnDeviceId (settings : PairingSettings) (d : DeviceId) (s : PairingState) : PairingState :=
  let pruned := { s with ownDeviceId := some d, paired := s.paired.erase d }
  if (s.paired.lookup d).isSome then (run exec (saveToDisk settings) pruned).2 else pruned

variable {platform : Platform} {settings : PairingSettings} {d : DeviceId} {s : PairingState}

theorem completing_needs_anchor {refusal : String} (bare : ¬ s.anchored platform d) :
    pairedInsert d ∉ actions exec (completePairing platform settings refusal d).run s := by
  have unstaged : s.pendingCerts.lookup d = none := by
    rw [← Option.not_isSome_iff_eq_none]
    exact fun staged => bare (.inl staged)
  let t : PairingState := { s with pendingCerts := s.pendingCerts.erase d }
  have refused : ∃ e, (run exec (settleAnchor platform refusal d none).run t).1 = .error e := by
    have unchanged : (run exec (hasPeerFingerprint platform d) t).1 = false := by
      rw [Bool.eq_false_iff, hasPeerFingerprint, run_onFiles]
      intro found
      exact bare (.inr (run_hasPeerFingerprint_iff.mp found))
    simp only [settleAnchor, run_except_bind, run_except_lift, unchanged]
    exact ⟨_, rfl⟩
  obtain ⟨e, refused⟩ := refused
  have looking : Only (settleAnchor platform refusal d none).run looks fun _ => True := by
    simpa [settleAnchor] using only_hasPeerFingerprint platform d (P := looks) fun _ => trivial
  intro member
  unfold completePairing at member
  rw [actions_except_bind] at member
  have taken : run exec (liftM (perform (certRemove d)) : ExceptT Error PairingProgram _).run s = (.ok none, t) := by
    rw [run_except_lift]
    exact congrArg (fun found => (Except.ok found, t)) unstaged
  rw [taken] at member
  rcases List.mem_append.mp member with first | rest
  · rw [actions_except_lift] at first
    cases List.mem_singleton.mp first
  · simp only [actions_except_bind] at rest
    rcases ran : run exec (settleAnchor platform refusal d none).run t with ⟨result, u⟩
    rw [ran] at refused rest
    obtain rfl : result = .error e := refused
    rcases List.mem_append.mp rest with settling | recording
    · exact looking.of_mem_actions settling
    · exact absurd recording List.not_mem_nil

/-- An accept pairs the device only where a live request and an anchor of its identity are there. -/
theorem accepting_needs_request (idle : ¬ (s.awaits d ∧ s.anchored platform d)) :
    pairedInsert d ∉ actions exec (acceptPairing platform settings d).run s := by
  intro member
  unfold acceptPairing at member
  rw [actions_except_bind] at member
  rcases List.mem_append.mp member with taking | rest
  · exact (only_removePendingRequest d).of_mem_actions taking
  · have complete (t : PairingState) (waiting : s.awaits d) (certs : t.pendingCerts = s.pendingCerts) (files : t.files = s.files)
        (rest : pairedInsert d ∈ actions exec (completePairing platform settings "Refusing pairing with" d).run t) : False := by
      refine completing_needs_anchor (fun anchor => idle ⟨waiting, ?_⟩) rest
      rw [PairingState.anchored, certs, files] at anchor
      exact anchor
    rw [run_removePendingRequest] at rest
    cases outgoing : s.outgoing.lookup d with
    | some request =>
      cases expired : request.expiredAt s.now with
      | true => simp [outgoing, expired] at rest
      | false =>
        simp only [outgoing, expired, Bool.false_eq_true, if_false, Bool.not_true] at rest
        exact complete { s with outgoing := s.outgoing.erase d } (by simp [PairingState.awaits, outgoing, expired]) rfl rfl
          (by simpa using rest)
    | none =>
      cases incoming : s.incoming.lookup d with
      | some request =>
        cases expired : request.expiredAt s.now with
        | true => simp [outgoing, incoming, expired] at rest
        | false =>
          simp only [outgoing, incoming, expired, Bool.false_eq_true, if_false, Bool.not_true] at rest
          exact complete { s with incoming := s.incoming.erase d } (by simp [PairingState.awaits, outgoing, incoming, expired])
            rfl rfl (by simpa using rest)
      | none => simp [outgoing, incoming] at rest

end PairingHandler

/-- The operations of the handler, with those that give it its own id and its saved pairings. -/
inductive HandlerOp
  | perform (op : PairingOp)
  | setOwnDeviceId (deviceId : DeviceId)
  | restore (devices : Table DeviceId Time)
  | loadFromDisk

namespace HandlerOp

open PairingOp PairingHandler

variable (platform : Platform) (settings : PairingSettings)

/-- `restore` puts a file with these pairings in place. -/
def step (s : PairingState) : HandlerOp → PairingState
  | perform op =>
    let after := (run exec (op.program platform settings).run s).2
    { after with now := after.now + op.elapsed }
  | setOwnDeviceId d => PairingHandler.setOwnDeviceId settings d s
  | restore devices => { s with files := s.files.insert pairedPath (.paired devices) }
  | loadFromDisk => PairingHandler.loadFromDisk settings s

/-- The state in which the operation stands after its first `n` actions. -/
def during (op : HandlerOp) (n : Nat) (s : PairingState) : PairingState :=
  match op with
  | perform op => stateAfter exec n (op.program platform settings).run s
  | _ => s

/-- The own id stays what it is and no file is read. -/
def keepsIdentity (own : DeviceId) : HandlerOp → Prop
  | setOwnDeviceId d => d = own
  | loadFromDisk => False
  | _ => True

/-- No accept for this device finds a live request of it with an anchor of its identity. -/
def unanswered (own : DeviceId) (s : PairingState) (op : HandlerOp) : Prop :=
  op = perform (asks (.acceptPairing own)) → ¬ (s.awaits own ∧ s.anchored platform own)

variable {platform settings} {own : DeviceId} {s : PairingState}

theorem call_keeps_apart {call : LocalCall} (identity : s.ownDeviceId = some own)
    (idle : unanswered platform own s (perform (asks call))) :
    pairedInsert own ∉ actions exec (call.program platform settings).run s := by
  intro member
  have inside := (call.only_footprint platform settings).of_mem_actions member
  cases call with
  | acceptPairing d =>
    obtain rfl : own = d := inside
    exact accepting_needs_request (idle rfl) member
  | forceAcceptPairing d =>
    obtain rfl : own = d := inside
    simp [LocalCall.program, forceAcceptPairing, isOwnDeviceId, exec, identity] at member
  | setPendingPeerCert d certDer => cases inside
  | _ => exact inside

theorem op_keeps_apart {op : PairingOp} (identity : s.ownDeviceId = some own) (idle : unanswered platform own s (perform op)) :
    pairedInsert own ∉ actions exec (op.program platform settings).run s := by
  cases op with
  | asks call => exact call_keeps_apart identity idle
  | advance duration => exact List.not_mem_nil
  | receive d timestamp certDer =>
    intro member
    by_cases same : d = own
    · subst same
      simp [PairingOp.program, receivePairRequestWithCert, isOwnDeviceId, exec, identity] at member
    · rcases (only_receivePairRequest platform settings d timestamp certDer).of_mem_actions member with unpairing | sweeping | admitting
      · exact unpairing
      · exact sweeping
      · exact same (Eq.symm admitting)

theorem own_kept (action : PairingAction) (s : PairingState) : (action.exec s).2.ownDeviceId = s.ownDeviceId := by
  cases action with
  | requestInsert q e request => cases q <;> rfl
  | requestRemove q e => cases q <;> rfl
  | requestRetain q => cases q <;> rfl
  | _ => rfl

/-- The handler knows its own id and is not paired with it. -/
structure Apart (own : DeviceId) (s : PairingState) : Prop where
  identity : s.ownDeviceId = some own
  absent : s.paired.lookup own = none

theorem apart_setOwn (settings : PairingSettings) (own : DeviceId) (s : PairingState) :
    Apart own (PairingHandler.setOwnDeviceId settings own s) := by
  have pruned : (s.paired.erase own).lookup own = none := AList.lookup_erase own s.paired
  unfold PairingHandler.setOwnDeviceId
  dsimp only
  split
  · rw [run_saveToDisk]
    exact ⟨rfl, pruned⟩
  · exact ⟨rfl, pruned⟩

theorem Apart.acts {op : PairingOp} (apart : Apart own s) (idle : unanswered platform own s (perform op)) :
    ∀ action ∈ actions exec (op.program platform settings).run s, ∀ t, Apart own t → Apart own (action.exec t).2 := by
  intro action member t before
  have other : action ≠ pairedInsert own := fun same => op_keeps_apart apart.identity idle (same ▸ member)
  exact ⟨(own_kept action t).trans before.identity, paired_absent_kept other before.absent⟩

theorem Apart.during {op : HandlerOp} (apart : Apart own s) (idle : op.unanswered platform own s) (n : Nat) :
    Apart own (op.during platform settings n s) := by
  cases op with
  | perform op => exact stateAfter_invariant (apart.acts idle) apart n
  | _ => exact apart

theorem Apart.step {op : HandlerOp} (apart : Apart own s) (idle : op.unanswered platform own s) (same : op.keepsIdentity own) :
    Apart own (op.step platform settings s) := by
  cases op with
  | perform op =>
    obtain ⟨identity, absent⟩ := run_invariant exec (apart.acts idle) apart
    exact ⟨identity, absent⟩
  | setOwnDeviceId d =>
    obtain rfl : d = own := same
    exact apart_setOwn settings d s
  | restore devices => exact ⟨apart.identity, apart.absent⟩
  | loadFromDisk => exact same.elim

end HandlerOp

namespace SelfPairing

open History HandlerOp PairingOp

variable (platform : Platform) (settings : PairingSettings) (start : PairingState) (ops : List HandlerOp)

/-- The state after the first `k` operations. -/
def atOp (k : Nat) : PairingState := stateAt (HandlerOp.step platform settings) start ops k

/-- The own id is not in `paired` after the first `k` operations, nor at any moment of the next one. -/
def Absent (own : DeviceId) (k : Nat) : Prop :=
  (atOp platform settings start ops k).paired.lookup own = none ∧
    ∀ op n, ops[k]? = some op → (op.during platform settings n (atOp platform settings start ops k)).paired.lookup own = none

variable {platform settings start ops} {own : DeviceId} {i k : Nat}

theorem apart_since (given : ops[i]? = some (.setOwnDeviceId own)) (later : i < k)
    (same : ∀ j, i < j → j < k → ∀ op, ops[j]? = some op → op.keepsIdentity own)
    (idle : ∀ j, i < j → j < k → ∀ op, ops[j]? = some op → op.unanswered platform own (atOp platform settings start ops j)) :
    Apart own (atOp platform settings start ops k) := by
  induction k with
  | zero => exact absurd later (Nat.not_lt_zero i)
  | succ k ih =>
    rcases Nat.eq_or_lt_of_le (Nat.le_of_lt_succ later) with here | earlier
    · subst here
      rw [atOp, stateAt_succ given]
      exact apart_setOwn settings own _
    · have before := ih earlier (fun j after bound => same j after (Nat.lt_succ_of_lt bound))
        fun j after bound => idle j after (Nat.lt_succ_of_lt bound)
      cases found : ops[k]? with
      | none =>
        rw [atOp, stateAt_past_end found]
        exact before
      | some op =>
        rw [atOp, stateAt_succ found]
        exact before.step (idle k earlier (Nat.lt_succ_self k) op found) (same k earlier (Nat.lt_succ_self k) op found)

/-- Once the handler was given its own id it is not paired with it, as long as no accept for it finds a live request
with an anchor, until it is given another id or reads a file. -/
theorem never_paired_with_itself (given : ops[i]? = some (.setOwnDeviceId own)) (later : i < k)
    (same : ∀ j, i < j → j < k → ∀ op, ops[j]? = some op → op.keepsIdentity own)
    (idle : ∀ j, i < j → j ≤ k → ∀ op, ops[j]? = some op → op.unanswered platform own (atOp platform settings start ops j)) :
    Absent platform settings start ops own k := by
  have apart := apart_since given later same fun j after bound => idle j after (Nat.le_of_lt bound)
  exact ⟨apart.absent, fun op n here => (apart.during (idle k later (Nat.le_refl k) op here) n).absent⟩

/-- The id is in the saved file, and is dropped when it turns out to be the own one. -/
def restoredOps : List HandlerOp :=
  [.restore ((∅ : Table DeviceId Time).insert samplePhone 3), .loadFromDisk, .setOwnDeviceId samplePhone,
    .perform (asks (.initiatePairing samplePhone))]

theorem restored_entry_pruned : (atOp samplePlatform {} {} restoredOps 2).paired.lookup samplePhone = some 3 ∧
    Absent samplePlatform {} {} restoredOps samplePhone 4 := by
  refine ⟨by decide +kernel, never_paired_with_itself (i := 2) rfl (by decide) ?_ ?_⟩
  · intro j after bound op here
    obtain rfl : j = 3 := by omega
    obtain rfl := Option.some.inj here
    trivial
  · intro j after bound op here
    have last : j = 3 ∨ j = 4 := by omega
    rcases last with rfl | rfl
    · obtain rfl := Option.some.inj here
      exact nofun
    · exact absurd here nofun

/-- A request that claims the own id comes before the handler knows that id, and is accepted afterwards. -/
def earlyOps : List HandlerOp :=
  [.perform (receive samplePhone (some 5) (some [0x30, 0x00])), .setOwnDeviceId samplePhone,
    .perform (asks (.acceptPairing samplePhone))]

theorem early_request_pairs : earlyOps[1]? = some (.setOwnDeviceId samplePhone) ∧
    (∀ j, 1 < j → j < 3 → ∀ op, earlyOps[j]? = some op → op.keepsIdentity samplePhone) ∧
    ¬ Absent samplePlatform {} {} earlyOps samplePhone 3 := by
  refine ⟨rfl, ?_, ?_⟩
  · intro j after bound op here
    obtain rfl : j = 2 := by omega
    obtain rfl := Option.some.inj here
    trivial
  · rintro ⟨absent, -⟩
    have paired : ((atOp samplePlatform {} {} earlyOps 3).paired.lookup samplePhone).isSome = true := by decide +kernel
    rw [absent] at paired
    cases paired

end SelfPairing

end RustConnect
