import RustConnect.Base.History
import RustConnect.Router

namespace RustConnect

open Program

namespace PluginRegistry

variable {Handler : Type}

/-- The names that the index has for a packet type. -/
def consumers (index : Table String (List String)) (packetType : String) : List String := (index.lookup packetType).getD []

/-- A name is taken off one capability's list; an empty list goes with its key. -/
def stripOne (name : String) (index : Table String (List String)) (cap : String) : Table String (List String) :=
  match index.lookup cap with
  | none => index
  | some names =>
    let kept := names.filter (· ≠ name)
    if kept.isEmpty then index.erase cap else index.insert cap kept

def indexOne (name : String) (index : Table String (List String)) (cap : String) : Table String (List String) :=
  let names := consumers index cap
  index.insert cap (if name ∈ names then names else names ++ [name])

variable (nameOf : Handler → String) (reports : Handler → List String)

/-- `register`: what a plugin of the same name reports now is stripped, then what the new one reports is added. -/
def register (registry : PluginRegistry Handler) (plugin : Handler) : PluginRegistry Handler :=
  let name := nameOf plugin
  let stripped := match registry.plugins.lookup name with
    | some old => (reports old).foldl (stripOne name) registry.capabilityIndex
    | none => registry.capabilityIndex
  ⟨registry.plugins.insert name plugin, (reports plugin).foldl (indexOne name) stripped⟩

def unregister (registry : PluginRegistry Handler) (name : String) : PluginRegistry Handler × Bool :=
  match registry.plugins.lookup name with
  | some plugin => (⟨registry.plugins.erase name, (reports plugin).foldl (stripOne name) registry.capabilityIndex⟩, true)
  | none => (registry, false)

theorem consumers_insert (index : Table String (List String)) (cap packetType : String) (names : List String) :
    consumers (index.insert cap names) packetType = if packetType = cap then names else consumers index packetType := by
  unfold consumers
  rw [Table.lookup_insert_of]
  split <;> rfl

theorem consumers_stripOne (name : String) (index : Table String (List String)) (cap packetType : String) :
    consumers (stripOne name index cap) packetType =
      if packetType = cap then (consumers index packetType).filter (· ≠ name) else consumers index packetType := by
  unfold stripOne
  cases found : index.lookup cap with
  | none =>
    have nobody : consumers index cap = [] := congrArg (Option.getD · []) found
    dsimp only
    split
    · rename_i same
      rw [same, nobody]
      rfl
    · rfl
  | some names =>
    dsimp only
    split
    · rename_i empty
      unfold consumers
      rw [Table.lookup_erase_of]
      split
      · rename_i same
        rw [same, found]
        exact (List.isEmpty_iff.mp empty).symm
      · rfl
    · rw [consumers_insert]
      split
      · rename_i same
        rw [consumers, same, found]
        rfl
      · rfl

theorem consumers_strip (name : String) (caps : List String) (index : Table String (List String)) (packetType : String) :
    consumers (caps.foldl (stripOne name) index) packetType =
      if packetType ∈ caps then (consumers index packetType).filter (· ≠ name) else consumers index packetType := by
  induction caps generalizing index with
  | nil => rfl
  | cons cap rest ih =>
    rw [List.foldl_cons, ih, consumers_stripOne]
    by_cases here : packetType = cap
    · simp [here]
    · simp [here]

theorem mem_consumers_strip {name : String} {caps : List String} {index : Table String (List String)} {packetType other : String} :
    other ∈ consumers (caps.foldl (stripOne name) index) packetType ↔
      other ∈ consumers index packetType ∧ ¬(other = name ∧ packetType ∈ caps) := by
  rw [consumers_strip]
  by_cases listed : packetType ∈ caps
  · simp [listed]
  · simp [listed]

theorem mem_consumers_add {name : String} {caps : List String} {index : Table String (List String)} {packetType other : String} :
    other ∈ consumers (caps.foldl (indexOne name) index) packetType ↔
      other ∈ consumers index packetType ∨ other = name ∧ packetType ∈ caps := by
  induction caps generalizing index with
  | nil => simp
  | cons cap rest ih =>
    rw [List.foldl_cons, ih, indexOne, consumers_insert]
    by_cases here : packetType = cap
    · subst here
      by_cases present : name ∈ consumers index packetType
      · simp only [if_true, present, List.mem_cons_self]
        constructor
        · rintro (inside | ⟨rfl, later⟩)
          · exact .inl inside
          · exact .inl present
        · rintro (inside | ⟨rfl, -⟩)
          · exact .inl inside
          · exact .inl present
      · simp only [if_true, present, if_false, List.mem_append, List.mem_cons, true_or, and_true]
        tauto
    · simp [here]

theorem nodup_strip {name : String} {caps : List String} {index : Table String (List String)}
    (apart : ∀ packetType, (consumers index packetType).Nodup) (packetType : String) :
    (consumers (caps.foldl (stripOne name) index) packetType).Nodup := by
  rw [consumers_strip]
  split
  · exact (apart packetType).filter _
  · exact apart packetType

theorem nodup_add {name : String} {caps : List String} {index : Table String (List String)}
    (apart : ∀ packetType, (consumers index packetType).Nodup) (packetType : String) :
    (consumers (caps.foldl (indexOne name) index) packetType).Nodup := by
  induction caps generalizing index with
  | nil => exact apart packetType
  | cons cap rest ih =>
    refine ih fun other => ?_
    rw [indexOne, consumers_insert]
    split
    · split
      · exact apart cap
      · rename_i absent
        exact List.nodup_append.mpr ⟨apart cap, List.nodup_singleton _, fun a inside b only same => by
          rw [List.mem_singleton.mp only] at same
          exact absent (same ▸ inside)⟩
    · exact apart other

end PluginRegistry

/-- A call of the registry, or a plugin that comes to report other capabilities. -/
inductive RegistryCall (Handler : Type)
  | register (plugin : Handler)
  | unregister (name : String)
  | reports (plugin : Handler) (capabilities : List String)

/-- The registry, what each plugin reports at present, and what it declared when the registration
that its name has at present was made. -/
structure RegistryState (Handler : Type) where
  registry : PluginRegistry Handler := {}
  reports : Handler → List String
  declared : Table String (List String) := ∅

namespace RegistryState

variable {Handler : Type} [DecidableEq Handler] (nameOf : Handler → String)

def step (s : RegistryState Handler) : RegistryCall Handler → RegistryState Handler
  | .register plugin =>
    { s with
      registry := s.registry.register nameOf s.reports plugin
      declared := s.declared.insert (nameOf plugin) (s.reports plugin) }
  | .unregister name =>
    { s with
      registry := (s.registry.unregister s.reports name).1
      declared := s.declared.erase name }
  | .reports plugin capabilities => { s with reports := fun other => if other = plugin then capabilities else s.reports other }

/-- The name of a plugin that a call takes out of the registry, or replaces. -/
def removes : RegistryCall Handler → Option String
  | .register plugin => some (nameOf plugin)
  | .unregister name => some name
  | .reports _ _ => none

/-- A plugin that is taken out or replaced still reports all that it declared. -/
def StillReported (s : RegistryState Handler) (call : RegistryCall Handler) : Prop :=
  ∀ name plugin capabilities, removes nameOf call = some name → s.registry.plugins.lookup name = some plugin →
    s.declared.lookup name = some capabilities → ∀ cap ∈ capabilities, cap ∈ s.reports plugin

/-- The plugins that are registered at present for a packet type. -/
def Declares (s : RegistryState Handler) (packetType : String) (plugin : Handler) : Prop :=
  ∃ name capabilities, s.registry.plugins.lookup name = some plugin ∧ s.declared.lookup name = some capabilities ∧
    packetType ∈ capabilities

/-- A packet goes, once each, to the plugins that are registered for its type, and to no others;
where no plugin panics, it goes to all of them. -/
def Follows (s : RegistryState Handler) : Prop :=
  ∀ packetType, ∃ called : List Handler, called.Nodup ∧ (∀ plugin, plugin ∈ called ↔ s.Declares packetType plugin) ∧
    ∀ {σ : Type} (exec : (action : HandlerAction Handler) → σ → HandlerAction.Answer action × σ) (deviceId : DeviceId)
      (packet : Packet) (start : σ),
      actions exec (s.registry.handlePacket deviceId packet packetType).run start <+:
          called.map (HandlerAction.invoke · deviceId packet) ∧
        ((∃ result, (run exec (s.registry.handlePacket deviceId packet packetType).run start).1 = .ok result) →
          actions exec (s.registry.handlePacket deviceId packet packetType).run start =
            called.map (HandlerAction.invoke · deviceId packet))

/-- The index has a name for a packet type exactly when the name's registration declared it. -/
structure Indexed (s : RegistryState Handler) : Prop where
  named : ∀ name plugin, s.registry.plugins.lookup name = some plugin → nameOf plugin = name
  known : ∀ name, (s.registry.plugins.lookup name).isSome = (s.declared.lookup name).isSome
  apart : ∀ packetType, (PluginRegistry.consumers s.registry.capabilityIndex packetType).Nodup
  listed : ∀ packetType name, name ∈ PluginRegistry.consumers s.registry.capabilityIndex packetType ↔
    ∃ capabilities, s.declared.lookup name = some capabilities ∧ packetType ∈ capabilities

end RegistryState

section Calls

variable {Handler σ : Type} (exec : (action : HandlerAction Handler) → σ → HandlerAction.Answer action × σ) (deviceId : DeviceId)
  (packet : Packet)

namespace PluginRegistry

theorem actions_handleEach (plugins : List Handler) (collected : Collected) (s : σ) :
    actions exec (handleEach deviceId packet plugins collected).run s <+: plugins.map (HandlerAction.invoke · deviceId packet) ∧
      ((∃ result, (run exec (handleEach deviceId packet plugins collected).run s).1 = .ok result) →
        actions exec (handleEach deviceId packet plugins collected).run s = plugins.map (HandlerAction.invoke · deviceId packet)) := by
  induction plugins generalizing collected s with
  | nil => exact ⟨List.prefix_rfl, fun _ => rfl⟩
  | cons plugin rest ih =>
    simp only [handleEach, run_except_bind, run_except_lift, run_call, actions_except_bind, actions_except_lift, actions_call,
      List.map_cons]
    rcases exec (.invoke plugin deviceId packet) s with ⟨outcome, later⟩
    cases outcome with
    | returned result =>
      obtain ⟨begun, all⟩ := ih (collected.take result) later
      exact ⟨List.cons_prefix_cons.mpr ⟨rfl, begun⟩, fun returned => congrArg _ (all returned)⟩
    | panicked payload =>
      refine ⟨List.cons_prefix_cons.mpr ⟨rfl, List.nil_prefix⟩, ?_⟩
      rintro ⟨result, returned⟩
      cases returned

theorem actions_handlePacket (registry : PluginRegistry Handler) (packetType : String) (s : σ) :
    actions exec (registry.handlePacket deviceId packet packetType).run s <+:
        (registry.getAllByCapability packetType).map (HandlerAction.invoke · deviceId packet) ∧
      ((∃ result, (run exec (registry.handlePacket deviceId packet packetType).run s).1 = .ok result) →
        actions exec (registry.handlePacket deviceId packet packetType).run s =
          (registry.getAllByCapability packetType).map (HandlerAction.invoke · deviceId packet)) := by
  unfold handlePacket
  dsimp only
  cases empty : (registry.getAllByCapability packetType).isEmpty with
  | true =>
    rw [List.isEmpty_iff.mp empty]
    exact ⟨List.prefix_rfl, fun _ => rfl⟩
  | false =>
    obtain ⟨begun, all⟩ := actions_handleEach exec deviceId packet (registry.getAllByCapability packetType) {} s
    simp only [Bool.false_eq_true, if_false, run_except_bind, actions_except_bind]
    rcases ran : run exec (handleEach deviceId packet (registry.getAllByCapability packetType) {}).run s with ⟨ended, later⟩
    rw [ran] at all
    cases ended with
    | ok collected =>
      have whole := all ⟨collected, rfl⟩
      simp only [whole]
      exact ⟨(List.append_nil _) ▸ List.prefix_rfl, fun _ => List.append_nil _⟩
    | error payload =>
      refine ⟨?_, ?_⟩
      · simpa using begun
      · rintro ⟨result, returned⟩
        cases returned

end PluginRegistry

end Calls

namespace RegistryState

variable {Handler : Type} [DecidableEq Handler] {nameOf : Handler → String} {s : RegistryState Handler}

omit [DecidableEq Handler] in
/-- Where the index is right, packets go where they are declared to go. -/
theorem Indexed.follows (indexed : s.Indexed nameOf) : s.Follows := by
  intro packetType
  refine ⟨s.registry.getAllByCapability packetType, ?_, fun plugin => ?_,
    fun exec deviceId packet start => PluginRegistry.actions_handlePacket exec deviceId packet s.registry packetType start⟩
  · refine List.Nodup.filterMap (fun first second plugin one two => ?_) (indexed.apart packetType)
    exact (indexed.named _ _ one).symm.trans (indexed.named _ _ two)
  · show plugin ∈ (PluginRegistry.consumers s.registry.capabilityIndex packetType).filterMap s.registry.plugins.lookup ↔ _
    rw [List.mem_filterMap]
    constructor
    · rintro ⟨name, member, found⟩
      obtain ⟨capabilities, declared, inside⟩ := (indexed.listed packetType name).mp member
      exact ⟨name, capabilities, found, declared, inside⟩
    · rintro ⟨name, capabilities, found, declared, inside⟩
      exact ⟨name, (indexed.listed packetType name).mpr ⟨capabilities, declared, inside⟩, found⟩

theorem Indexed.register (indexed : s.Indexed nameOf) (plugin : Handler) (reported : s.StillReported nameOf (.register plugin)) :
    (s.step nameOf (.register plugin)).Indexed nameOf := by
  have stripped (packetType other : String) :
      other ∈ PluginRegistry.consumers (match s.registry.plugins.lookup (nameOf plugin) with
        | some old => (s.reports old).foldl (PluginRegistry.stripOne (nameOf plugin)) s.registry.capabilityIndex
        | none => s.registry.capabilityIndex) packetType ↔
        other ∈ PluginRegistry.consumers s.registry.capabilityIndex packetType ∧ other ≠ nameOf plugin := by
    cases found : s.registry.plugins.lookup (nameOf plugin) with
    | none =>
      refine ⟨fun member => ⟨member, ?_⟩, And.left⟩
      rintro rfl
      obtain ⟨capabilities, declared, -⟩ := (indexed.listed packetType _).mp member
      have known := indexed.known (nameOf plugin)
      rw [found, declared] at known
      cases known
    | some old =>
      rw [PluginRegistry.mem_consumers_strip]
      refine and_congr_right fun member => not_congr ⟨And.left, ?_⟩
      rintro rfl
      obtain ⟨capabilities, declared, inside⟩ := (indexed.listed packetType _).mp member
      exact ⟨rfl, reported _ old capabilities rfl found declared packetType inside⟩
  refine ⟨fun name other found => ?_, fun name => ?_, ?_, fun packetType name => ?_⟩
  · rw [show (s.step nameOf (.register plugin)).registry.plugins = s.registry.plugins.insert (nameOf plugin) plugin from rfl,
      Table.lookup_insert_of] at found
    split at found
    · rename_i same
      rw [← Option.some.inj found, same]
    · exact indexed.named name other found
  · show ((s.registry.plugins.insert (nameOf plugin) plugin).lookup name).isSome =
      ((s.declared.insert (nameOf plugin) (s.reports plugin)).lookup name).isSome
    rw [Table.lookup_insert_of, Table.lookup_insert_of]
    split
    · rfl
    · exact indexed.known name
  · refine PluginRegistry.nodup_add ?_
    cases s.registry.plugins.lookup (nameOf plugin) with
    | none => exact indexed.apart
    | some old => exact PluginRegistry.nodup_strip indexed.apart
  · show name ∈ PluginRegistry.consumers ((s.reports plugin).foldl (PluginRegistry.indexOne (nameOf plugin)) _) packetType ↔
      ∃ capabilities, (s.declared.insert (nameOf plugin) (s.reports plugin)).lookup name = some capabilities ∧ _
    rw [PluginRegistry.mem_consumers_add, stripped, indexed.listed, Table.lookup_insert_of]
    by_cases same : name = nameOf plugin
    · simp [same]
    · simp [same]

theorem Indexed.unregister (indexed : s.Indexed nameOf) (name : String) (reported : s.StillReported nameOf (.unregister name)) :
    (s.step nameOf (.unregister name)).Indexed nameOf := by
  cases found : s.registry.plugins.lookup name with
  | none =>
    have undeclared : s.declared.lookup name = none := by
      have known := indexed.known name
      rw [found] at known
      exact Option.isNone_iff_eq_none.mp (by simpa using known.symm)
    have same : s.step nameOf (.unregister name) = s := by
      simp only [RegistryState.step, PluginRegistry.unregister, found, Table.erase_of_absent undeclared]
    rw [same]
    exact indexed
  | some plugin =>
    have later : s.step nameOf (.unregister name) =
        { s with
          registry := ⟨s.registry.plugins.erase name,
            (s.reports plugin).foldl (PluginRegistry.stripOne name) s.registry.capabilityIndex⟩
          declared := s.declared.erase name } := by
      simp only [RegistryState.step, PluginRegistry.unregister, found]
    rw [later]
    refine ⟨fun other held looked => ?_, fun other => ?_, PluginRegistry.nodup_strip indexed.apart, fun packetType other => ?_⟩
    · dsimp only at looked
      rw [Table.lookup_erase_of] at looked
      split at looked
      · cases looked
      · exact indexed.named other held looked
    · dsimp only
      rw [Table.lookup_erase_of, Table.lookup_erase_of]
      split
      · rfl
      · exact indexed.known other
    · dsimp only
      rw [PluginRegistry.mem_consumers_strip, indexed.listed, Table.lookup_erase_of]
      by_cases same : other = name
      · subst same
        simp only [if_true, reduceCtorEq, false_and, exists_false, iff_false, not_and, not_not, true_and]
        rintro ⟨capabilities, declared, inside⟩
        exact reported _ plugin capabilities rfl found declared packetType inside
      · simp [same]

theorem Indexed.step (indexed : s.Indexed nameOf) {call : RegistryCall Handler} (reported : s.StillReported nameOf call) :
    (s.step nameOf call).Indexed nameOf := by
  cases call with
  | register plugin => exact indexed.register plugin reported
  | unregister name => exact indexed.unregister name reported
  | reports plugin capabilities => exact ⟨indexed.named, indexed.known, indexed.apart, indexed.listed⟩

/-- The state after the first `k` calls. -/
def atCall (nameOf : Handler → String) (reports : Handler → List String) (calls : List (RegistryCall Handler)) (k : Nat) :
    RegistryState Handler := History.stateAt (step nameOf) { reports } calls k

variable (nameOf)

/-- While every plugin that is taken out or replaced still reports what it declared
at its registration, packets go to the plugins registered for their type. -/
theorem packets_follow_registrations (reports : Handler → List String) (calls : List (RegistryCall Handler))
    (reported : ∀ k call, calls[k]? = some call → (atCall nameOf reports calls k).StillReported nameOf call) (k : Nat) :
    (atCall nameOf reports calls k).Follows := by
  have indexed : (atCall nameOf reports calls k).Indexed nameOf := by
    induction k with
    | zero =>
      refine ⟨fun name plugin found => ?_, fun name => ?_, fun packetType => ?_, fun packetType name => ?_⟩
      all_goals simp_all [atCall, PluginRegistry.consumers]
    | succ k ih =>
      unfold atCall at ih ⊢
      cases here : calls[k]? with
      | none =>
        rw [History.stateAt_past_end here]
        exact ih
      | some call =>
        rw [History.stateAt_succ here]
        exact ih.step (reported k call here)
  exact indexed.follows

/-- The plugin is registered again once it reports that it can answer requests. -/
theorem grown_plugin_follows :
    (atCall (fun _ : Nat => "systemvolume") (fun _ => ["kdeconnect.systemvolume"])
      [.register 0, .reports 0 ["kdeconnect.systemvolume", "kdeconnect.systemvolume.request"], .register 0] 3).Follows := by
  refine packets_follow_registrations _ _ _ (fun k call here => ?_) 3
  rcases k with _ | _ | _ | k
  · cases here
    intro name plugin capabilities _ found
    cases found
  · cases here
    intro name plugin capabilities removed
    cases removed
  · cases here
    intro name plugin capabilities removed found declared cap member
    obtain rfl : "systemvolume" = name := Option.some.inj removed
    obtain rfl : 0 = plugin := Option.some.inj found
    obtain rfl : ["kdeconnect.systemvolume"] = capabilities := Option.some.inj declared
    obtain rfl := List.mem_singleton.mp member
    exact List.mem_cons_self
  · cases here

/-- The plugin no longer reports that it answers requests, and one that does not answer any replaces it. -/
def shrinking : List (RegistryCall Nat) :=
  [.register 0, .reports 0 ["kdeconnect.systemvolume"], .reports 1 ["kdeconnect.systemvolume"], .register 1]

def requestSinks : Packet := .new 1 "kdeconnect.systemvolume.request" (.obj [("requestSinks", .bool true)])

/-- Every plugin takes the packet and answers nothing. -/
def takesAll : (action : HandlerAction Nat) → Unit → HandlerAction.Answer action × Unit
  | .invoke _ _ _, s => (.returned (.ok none), s)

/-- The index still has the request for the one that does not answer any. -/
theorem shrunk_plugin_called :
    ¬∀ (reports : Nat → List String) (calls : List (RegistryCall Nat)) (k : Nat),
      (atCall (fun _ => "systemvolume") reports calls k).Follows := by
  intro always
  let s := atCall (fun _ : Nat => "systemvolume") (fun _ => ["kdeconnect.systemvolume", "kdeconnect.systemvolume.request"])
    shrinking 4
  obtain ⟨called, -, declares, sends⟩ := always _ shrinking 4 "kdeconnect.systemvolume.request"
  have sent : actions takesAll (s.registry.handlePacket "phone" requestSinks "kdeconnect.systemvolume.request").run () =
      called.map (HandlerAction.invoke · "phone" requestSinks) := (sends takesAll "phone" requestSinks ()).2 ⟨_, rfl⟩
  have invoked : actions takesAll (s.registry.handlePacket "phone" requestSinks "kdeconnect.systemvolume.request").run () =
      [.invoke 1 "phone" requestSinks] := rfl
  have first : HandlerAction.invoke 1 "phone" requestSinks ∈ called.map (HandlerAction.invoke · "phone" requestSinks) := by
    rw [← sent, invoked]
    exact List.mem_cons_self
  obtain ⟨plugin, member, same⟩ := List.mem_map.mp first
  obtain ⟨rfl, -⟩ := HandlerAction.invoke.inj same
  obtain ⟨name, capabilities, -, declared, inside⟩ := (declares 1).mp member
  have latest : capabilities = ["kdeconnect.systemvolume"] := by
    have registrations : s.declared = ((∅ : Table String (List String)).insert "systemvolume"
        ["kdeconnect.systemvolume", "kdeconnect.systemvolume.request"]).insert "systemvolume" ["kdeconnect.systemvolume"] := rfl
    rw [registrations, Table.lookup_insert_of, Table.lookup_insert_of] at declared
    split at declared
    · exact (Option.some.inj declared).symm
    · cases declared
  rw [latest] at inside
  exact absurd inside (by decide)

end RegistryState

end RustConnect
