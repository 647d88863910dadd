import RustConnect.PairingCalls

namespace RustConnect

open Program PairingAction CertificateManager

section Frames

variable {action : PairingAction}

/-- The actions that pair nobody and touch no fingerprint. -/
def quiet : PairingAction → Prop
  | pairedInsert _ => False
  | file (.write path _) => ∀ d, fingerprintFile d ≠ path
  | file (.remove path) => ∀ d, fingerprintFile d ≠ path
  | file (.rename source target) => ∀ d, fingerprintFile d ≠ source ∧ fingerprintFile d ≠ target
  | _ => True

theorem quiet_of_looks (looking : action.looks) : quiet action := by
  cases action with
  | file action => cases action <;> trivial
  | _ => trivial

theorem quiet_of_saves {action : FileAction} (saving : saves action) : quiet (file action) := by
  cases action with
  | write path content =>
    rintro d rfl
    cases saving
  | rename source target =>
    obtain ⟨rfl, rfl⟩ := saving
    exact fun d => ⟨Path.noConfusion, Path.noConfusion⟩
  | remove path => exact saving.elim
  | _ => trivial

theorem quiet_fingerprints (still : quiet action) (s : PairingState) (d : DeviceId) :
    (action.exec s).2.files.lookup (fingerprintFile d) = s.files.lookup (fingerprintFile d) := by
  cases action with
  | requestInsert q d request => cases q <;> rfl
  | requestRemove q d => cases q <;> rfl
  | requestRetain q => cases q <;> rfl
  | file action =>
    cases action with
    | write path content => exact AList.lookup_insert_ne (still d)
    | remove path => exact AList.lookup_erase_ne (still d)
    | rename source target =>
      simp only [exec, FileAction.exec]
      split
      · rw [AList.lookup_insert_ne (still d).2, AList.lookup_erase_ne (still d).1]
      · rfl
    | _ => rfl
  | _ => rfl

theorem quiet_paired (still : quiet action) (s : PairingState) (d : DeviceId)
    (paired : ((action.exec s).2.paired.lookup d).isSome) : (s.paired.lookup d).isSome := by
  cases unpaired : s.paired.lookup d with
  | some since => rfl
  | none =>
    have other : action ≠ pairedInsert d := by
      rintro rfl
      exact still
    rw [PairingHandler.paired_absent_kept other unpaired] at paired
    exact paired

theorem staged_origin (action : PairingAction) (s : PairingState) {d : DeviceId} {certDer : Bytes}
    (found : (action.exec s).2.pendingCerts.lookup d = some certDer) :
    s.pendingCerts.lookup d = some certDer ∨ action = certInsert d certDer := by
  cases action with
  | requestInsert q e request => cases q <;> exact .inl found
  | requestRemove q e => cases q <;> exact .inl found
  | requestRetain q => cases q <;> exact .inl found
  | certInsert e other =>
    simp only [exec, Table.lookup_insert_of] at found
    split at found
    · rename_i same
      cases found
      exact .inr (same ▸ rfl)
    · exact .inl found
  | certRemove e =>
    simp only [exec, Table.lookup_erase_of] at found
    split at found
    · cases found
    · exact .inl found
  | certRemoveAll ids =>
    simp only [exec, Table.lookup_foldl_erase] at found
    split at found
    · cases found
    · exact .inl found
  | _ => exact .inl found


/-- The actions that leave fingerprints and the saved list alone and pair nobody. -/
def steady : PairingAction → Prop
  | file (.rename _ _) => False
  | file (.write path content) => path ≠ pairedPath ∧ quiet (file (.write path content))
  | file (.remove path) => path ≠ pairedPath ∧ quiet (file (.remove path))
  | action => quiet action

theorem steady_quiet (still : steady action) : quiet action := by
  cases action with
  | file action => cases action <;> first | exact still.2 | exact still.elim | trivial
  | _ => exact still

theorem steady_list (still : steady action) (s : PairingState) :
    (action.exec s).2.files.lookup pairedPath = s.files.lookup pairedPath := by
  cases action with
  | requestInsert q d request => cases q <;> rfl
  | requestRemove q d => cases q <;> rfl
  | requestRetain q => cases q <;> rfl
  | file action =>
    cases action with
    | write path content => exact AList.lookup_insert_ne still.1.symm
    | remove path => exact AList.lookup_erase_ne still.1.symm
    | rename source target => exact still.elim
    | _ => rfl
  | _ => rfl


theorem steady_of_looks (looking : action.looks) : steady action := by
  cases action with
  | file action => cases action <;> trivial
  | _ => trivial

theorem steady_of_sweeps (inside : action.sweeps) : steady action := by
  cases action with
  | requestRetain q => trivial
  | certRemoveAll ids => trivial
  | _ => exact steady_of_looks inside

theorem steady_of_drops {d : DeviceId} (inside : action.drops d) : steady action := by
  cases action with
  | requestRemove q e => trivial
  | certRemove e => trivial
  | _ => exact steady_of_looks inside

theorem steady_write_temp (content : FileContent) : steady (file (.write pairedTempPath content)) :=
  ⟨by decide, fun _ => Path.noConfusion⟩

theorem steady_write_peer (d : DeviceId) (content : FileContent) : steady (file (.write (peerFile d) content)) :=
  ⟨Path.noConfusion, fun e => fingerprintFile_ne_peerFile e d⟩

end Frames

/-- A property of programs that goes with their composition, that every
program of steady actions has, and that the completing of a pairing has: then
all the calls have it that do not unpair. -/
structure CallRules (platform : Platform) (settings : PairingSettings) (K : (α : Type) → PairingProgram α → Prop) :
    Prop where
  pure : ∀ {α} (value : α), K α (pure value)
  bind : ∀ {α β} {program : PairingProgram α} {f : α → PairingProgram β}, K α program → (∀ value, K β (f value)) →
    K β (program >>= f)
  steadily : ∀ {α} {program : PairingProgram α}, (program.Only steady fun _ => True) → K α program
  complete : ∀ refusal d, K _ (PairingHandler.completePairing platform settings refusal d).run

namespace CallRules

variable {platform : Platform} {settings : PairingSettings} {K : (α : Type) → PairingProgram α → Prop}
  (rules : CallRules platform settings K)

include rules

theorem except_bind {α β : Type} {program : ExceptT Error PairingProgram α} {f : α → ExceptT Error PairingProgram β}
    (first : K _ program.run) (rest : ∀ value, K _ (f value).run) : K _ (program >>= f).run := by
  rw [ExceptT.run_bind]
  refine rules.bind first fun result => ?_
  cases result with
  | ok value => exact rest value
  | error e => exact rules.pure _

theorem lift {α : Type} {program : PairingProgram α} (keeps : K _ program) :
    K _ (liftM program : ExceptT Error PairingProgram α).run :=
  rules.bind keeps fun _ => rules.pure _

theorem perform (action : PairingAction) (still : steady action) : K _ (PairingHandler.perform action) :=
  rules.steadily ⟨still, fun _ => trivial⟩

theorem removePendingRequest (d : DeviceId) : K _ (PairingHandler.removePendingRequest d).run :=
  rules.steadily ((PairingHandler.only_removePendingRequest d).weaken (fun _ => steady_of_drops) fun _ => id)

theorem isOwnDeviceId (d : DeviceId) : K _ (PairingHandler.isOwnDeviceId d) :=
  rules.steadily ((PairingHandler.only_isOwnDeviceId d).weaken (fun _ => steady_of_looks) fun _ => id)

theorem acceptPairing (d : DeviceId) : K _ (PairingHandler.acceptPairing platform settings d).run := by
  refine rules.except_bind (rules.removePendingRequest d) fun hadRequest => ?_
  cases hadRequest with
  | false => exact rules.pure _
  | true => exact rules.complete _ d

theorem forceAcceptPairing (d : DeviceId) : K _ (PairingHandler.forceAcceptPairing platform settings d).run := by
  refine rules.except_bind (rules.lift (rules.isOwnDeviceId d)) fun own => ?_
  cases own with
  | true => exact rules.pure _
  | false =>
    refine rules.except_bind (rules.lift (rules.bind (rules.removePendingRequest d) fun _ => rules.pure _)) fun _ => ?_
    exact rules.complete _ d

theorem admitPairRequest (d : DeviceId) (stamp : Option Int) (certDer : Option Bytes) :
    K _ (PairingHandler.admitPairRequest platform settings d stamp certDer).run := by
  have perform {action : PairingAction} (still : steady action) :
      K _ (liftM (PairingHandler.perform action) : ExceptT Error PairingProgram _).run :=
    rules.lift (rules.perform action still)
  have stage (certDer : Bytes) := rules.lift (rules.perform (certInsert d certDer) trivial)
  have accept := rules.acceptPairing d
  refine rules.except_bind (perform trivial) fun outgoing => ?_
  cases outgoing with
  | some request =>
    cases certDer with
    | none => exact accept
    | some certDer => exact rules.except_bind (stage certDer) fun _ => accept
  | none =>
    refine rules.except_bind (perform trivial) fun incoming => ?_
    cases incoming with
    | some request => exact rules.pure _
    | none =>
      refine rules.except_bind (perform trivial) fun outgoingLen => ?_
      refine rules.except_bind (perform trivial) fun incomingLen => ?_
      by_cases full : settings.maxPending ≤ outgoingLen + incomingLen
      · simp only [ge_iff_le, full, ↓reduceIte]
        exact rules.pure _
      · simp only [ge_iff_le, full, ↓reduceIte]
        refine rules.except_bind (perform trivial) fun createdAt => ?_
        refine rules.except_bind (rules.lift (rules.perform (requestInsert .incoming d _) trivial)) fun _ => ?_
        cases certDer with
        | none => exact rules.pure _
        | some certDer => exact stage certDer

theorem receivePairRequest {d : DeviceId} (stamp : Option Int) (certDer : Option Bytes)
    (unpair : K _ (PairingHandler.unpair platform settings d).run) :
    K _ (PairingHandler.receivePairRequestWithCert platform settings d stamp certDer).run := by
  have sweep : K _ PairingHandler.cleanupExpired :=
    rules.steadily (PairingHandler.only_cleanupExpired.weaken (fun _ => steady_of_sweeps) fun _ => id)
  have fresh := rules.except_bind (rules.lift sweep) fun _ => rules.admitPairRequest d stamp certDer
  refine rules.except_bind (rules.lift (rules.isOwnDeviceId d)) fun own => ?_
  cases own with
  | true => exact rules.pure _
  | false =>
    refine rules.except_bind (rules.lift (rules.perform (pairedContains d) trivial)) fun paired => ?_
    cases paired with
    | false => exact fresh
    | true => exact rules.except_bind (rules.lift (rules.bind unpair fun _ => rules.pure _)) fun _ => fresh

theorem call {asked : LocalCall} (unpair : ∀ d, asked = .unpair d → K _ (PairingHandler.unpair platform settings d).run) :
    K _ (asked.program platform settings).run := by
  have only := asked.only_footprint platform settings
  cases asked with
  | acceptPairing d => exact rules.acceptPairing d
  | forceAcceptPairing d => exact rules.forceAcceptPairing d
  | unpair d => exact unpair d rfl
  | rejectPairing d => exact rules.steadily (only.weaken (fun _ => steady_of_drops) fun _ => id)
  | cleanupExpired => exact rules.steadily (only.weaken (fun _ => steady_of_sweeps) fun _ => id)
  | setPendingPeerCert d certDer =>
    refine rules.steadily (only.weaken (fun action inside => ?_) fun _ => id)
    subst inside
    trivial
  | initiatePairing d =>
    refine rules.steadily (only.weaken (fun action inside => ?_) fun _ => id)
    rcases initiates_cases inside with ⟨request, rfl⟩ | sweeping
    · trivial
    · exact steady_of_sweeps sweeping

end CallRules

/-- What an assertion about the past and the state has to stand so that it
stands the accepting operations: `Origin` is what it knows about the staged
certificates. -/
structure AcceptRules (platform : Platform) (settings : PairingSettings)
    (Origin : List PairingAction → DeviceId → Bytes → Prop) (Q : List PairingAction → PairingState → Prop) : Prop where
  still : ∀ {past s} action, steady action → Q past s → Q (past ++ [action]) (action.exec s).2
  origin : ∀ {past s d certDer}, Q past s → s.pendingCerts.lookup d = some certDer → Origin past d certDer
  later : ∀ {past d certDer} action, Origin past d certDer → Origin (past ++ [action]) d certDer
  pin : ∀ {past s d certDer}, Origin past d certDer → Q past s →
    Q (past ++ [file (.write (fingerprintFile d) (.text (computeFingerprint platform certDer)))])
      (exec (file (.write (fingerprintFile d) (.text (computeFingerprint platform certDer)))) s).2
  pair : ∀ {past s d}, validateDeviceId platform d = .ok () → (s.files.lookup (fingerprintFile d)).isSome → Q past s →
    Q (past ++ [pairedInsert d]) (exec (pairedInsert d) s).2
  save : Keeps exec Q (PairingHandler.saveToDisk settings)

namespace AcceptRules

variable {platform : Platform} {settings : PairingSettings} {Origin : List PairingAction → DeviceId → Bytes → Prop}
  {Q : List PairingAction → PairingState → Prop} (rules : AcceptRules platform settings Origin Q)

include rules

open PairingHandler

theorem steadily {α : Type} {P : PairingAction → Prop} {T : α → Prop} {program : PairingProgram α}
    (only : program.Only P T) (still : ∀ action, P action → steady action) : Keeps exec Q program :=
  only.keeps fun _ action _ inside before => rules.still action (still action inside) before

theorem keeps_perform (action : PairingAction) (still : steady action) : Keeps exec Q (perform action) :=
  fun _ _ before => ⟨before, rules.still action still before⟩

theorem keeps_isOwnDeviceId (d : DeviceId) : Keeps exec Q (isOwnDeviceId d) :=
  rules.steadily (only_isOwnDeviceId d) fun _ => steady_of_looks

theorem keeps_cleanupExpired : Keeps exec Q cleanupExpired :=
  rules.steadily only_cleanupExpired fun _ => steady_of_sweeps

theorem throughout_recordPairing {past : List PairingAction} {s : PairingState} {d : DeviceId}
    (valid : validateDeviceId platform d = .ok ()) (present : (s.files.lookup (fingerprintFile d)).isSome)
    (holds : Q past s) : Throughout exec Q past (recordPairing settings d) s := by
  have paired := rules.pair valid present holds
  have finish := rules.save.bind fun _ => rules.keeps_perform (broadcast (.paired d "")) trivial
  exact throughout_bind.mpr ⟨⟨holds, paired⟩, finish _ _ paired⟩

/-- The anchor is settled by storing a certificate that was staged for the device, or by looking for a pin. -/
theorem throughout_settleAnchor (refusal : String) {past : List PairingAction} {s : PairingState} {d : DeviceId}
    {pendingCert : Option Bytes} (staged : ∀ certDer, pendingCert = some certDer → Origin past d certDer)
    (holds : Q past s) : Throughout exec Q past (settleAnchor platform refusal d pendingCert).run s := by
  cases pendingCert with
  | some certDer =>
    have kept (past : List PairingAction) (action : PairingAction) (t : PairingState)
        (inside : ∃ write, action = file write ∧ stores platform d certDer write)
        (holds : Q past t ∧ Origin past d certDer) :
        Q (past ++ [action]) (action.exec t).2 ∧ Origin (past ++ [action]) d certDer := by
      obtain ⟨write, rfl, storing⟩ := inside
      refine ⟨?_, rules.later _ holds.2⟩
      cases write with
      | write path content =>
        rcases storing with rfl | ⟨rfl, rfl⟩
        · exact rules.still _ (steady_write_peer d content) holds.1
        · exact rules.pin holds.2 holds.1
      | remove path => exact storing.elim
      | rename source target => exact storing.elim
      | _ => exact rules.still _ trivial holds.1
    have only : (onFiles (storePeerCertificate platform d certDer).run).Only
        (fun action => ∃ write, action = file write ∧ stores platform d certDer write) fun _ => True :=
      only_onFiles (only_storePeerCertificate platform d certDer) fun action inside => ⟨action, rfl, inside⟩
    exact (only.throughout kept ⟨holds, staged certDer rfl⟩).weaken fun _ _ => And.left
  | none =>
    have known : Keeps exec Q (hasPeerFingerprint platform d) :=
      rules.steadily (only_hasPeerFingerprint platform d (P := looks) fun _ => trivial) fun _ => steady_of_looks
    exact Keeps.lift_bind known (fun _ => .ite (.throw _) (.pure _)) past s holds

theorem keeps_completePairing (refusal : String) (d : DeviceId) :
    Keeps exec Q (completePairing platform settings refusal d).run := by
  intro past s holds
  have cert := rules.still (certRemove d) trivial holds
  have anchor : Throughout exec Q (past ++ [certRemove d])
      (settleAnchor platform refusal d (s.pendingCerts.lookup d)).run ((certRemove d).exec s).2 :=
    rules.throughout_settleAnchor refusal (fun certDer found => rules.later _ (rules.origin holds found)) cert
  refine throughout_lift_bind ⟨holds, cert⟩ (throughout_except_bind anchor fun _ settled => ?_)
  obtain ⟨valid, present⟩ := settleAnchor_ok settled
  exact throughout_except_lift (rules.throughout_recordPairing valid present (throughout_end anchor))

theorem calls : CallRules platform settings fun _ program => Keeps exec Q program where
  pure := Keeps.pure
  bind := Keeps.bind
  steadily only := rules.steadily only fun _ => id
  complete := rules.keeps_completePairing

/-- An incoming request comes down to the unpairing of a paired device and the admission. -/
theorem passes_receivePairRequest {T : List PairingAction → PairingState → Prop} {d : DeviceId}
    {past : List PairingAction} {s : PairingState} (stamp : Option Int) (certDer : Option Bytes)
    (weaker : ∀ past s, Q past s → T past s)
    (unpairing : ∀ past, Q past s → Passes exec T Q past (unpair platform settings d).run s) (holds : Q past s) :
    Passes exec T Q past (receivePairRequestWithCert platform settings d stamp certDer).run s := by
  have fresh (past : List PairingAction) (t : PairingState) (holds : Q past t) :=
    (Keeps.lift_bind rules.keeps_cleanupExpired fun _ => rules.calls.admitPairRequest d stamp certDer).passes weaker holds
  have own := (rules.keeps_isOwnDeviceId d).passes weaker holds
  refine own.lift_bind ?_
  cases (run exec (isOwnDeviceId d) s).1 with
  | true => exact (Keeps.throw _).passes weaker own.2
  | false =>
    have contains := (rules.keeps_perform (pairedContains d) trivial).passes weaker own.2
    refine contains.lift_bind ?_
    have forgotten := (unpairing _ contains.2).attempt
    split
    · exact forgotten.lift_bind (fresh _ _ forgotten.2)
    · exact fresh _ _ contains.2

end AcceptRules

end RustConnect
