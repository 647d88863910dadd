import Mathlib
import RustConnect.Base.Program
import RustConnect.Base.Table
import RustConnect.PacketCodec

namespace RustConnect

open Program

/-- What comes of a handler that is given a packet. A panic carries the text of its payload, if it is one. -/
inductive HandlerOutcome
  | returned (result : Except Error (Option (List Packet)))
  | panicked (payload : Option String)

/-- The failure that a panic counts as. -/
def panicError (packetType : String) (payload : Option String) : Error :=
  let panicMsg := payload.getD "unknown panic payload"
  .internal s!"Plugin panicked handling {packetType}: {panicMsg}"

/-- A handler is called with a packet. -/
inductive HandlerAction (Handler : Type)
  | invoke (handler : Handler) (deviceId : DeviceId) (packet : Packet)

@[reducible] def HandlerAction.Answer {Handler : Type} : HandlerAction Handler → Type
  | invoke _ _ _ => HandlerOutcome

abbrev HandlerProgram (Handler : Type) := Program (HandlerAction Handler) HandlerAction.Answer

/-- What has come of the handlers called so far. -/
structure Collected where
  allResponses : List Packet := []
  firstError : Option Error := none
  anyOk : Bool := false

namespace Collected

def fail (collected : Collected) (e : Error) : Collected := { collected with firstError := collected.firstError.or (some e) }

/-- What both dispatchers make of a handler's return value. -/
def take (collected : Collected) : Except Error (Option (List Packet)) → Collected
  | .ok (some responses) => { collected with anyOk := true, allResponses := collected.allResponses ++ responses }
  | .ok none => { collected with anyOk := true }
  | .error e => collected.fail e

def result (collected : Collected) : Except Error (Option (List Packet)) :=
  if !collected.allResponses.isEmpty then .ok (some collected.allResponses)
  else if !collected.anyOk then
    match collected.firstError with
    | some e => .error e
    | none => .ok none
  else .ok none

end Collected

/-- The handlers by packet type, in the order of their registration, and those
for every other type. -/
structure PacketRouter (Handler : Type) where
  handlers : Table String (List Handler) := ∅
  defaultHandlers : List Handler := []
  registered : ∀ packetType list, handlers.lookup packetType = some list → list ≠ [] := by simp

namespace PacketRouter

variable {Handler : Type}

def new : PacketRouter Handler := {}

def register (router : PacketRouter Handler) (packetType : String) (handler : Handler) : PacketRouter Handler where
  handlers := router.handlers.insert packetType ((router.handlers.lookup packetType).getD [] ++ [handler])
  defaultHandlers := router.defaultHandlers
  registered other list found := by
    rw [Table.lookup_insert_of] at found
    split at found
    · cases found
      simp
    · exact router.registered other list found

def registerDefault (router : PacketRouter Handler) (handler : Handler) : PacketRouter Handler :=
  { router with defaultHandlers := router.defaultHandlers ++ [handler] }

def unregister (router : PacketRouter Handler) (packetType : String) : PacketRouter Handler where
  handlers := router.handlers.erase packetType
  defaultHandlers := router.defaultHandlers
  registered other list found := by
    rw [Table.lookup_erase_of] at found
    split at found
    · cases found
    · exact router.registered other list found

variable (deviceId : DeviceId) (packet : Packet)

/-- A panic is caught and counts as a failure. -/
def runOne (handler : Handler) (collected : Collected) : HandlerProgram Handler Collected := do
  match ← call (HandlerAction.invoke handler deviceId packet) with
  | .returned result => return collected.take result
  | .panicked payload =>
    return collected.fail (panicError packet.packetType payload)

def runEach : List Handler → Collected → HandlerProgram Handler Collected
  | [], collected => return collected
  | handler :: rest, collected => do
    let collected ← runOne deviceId packet handler collected
    runEach rest collected

/-- The packet is cloned for all handlers but the last. -/
def callHandlers (handlers : List Handler) : HandlerProgram Handler (Except Error (Option (List Packet))) := do
  let collected ← runEach deviceId packet handlers.dropLast {}
  match handlers.getLast? with
  | some handler => return (← runOne deviceId packet handler collected).result
  | none => return collected.result

def route (router : PacketRouter Handler) : HandlerProgram Handler (Except Error (Option (List Packet))) :=
  match router.handlers.lookup packet.packetType with
  | some handlers => callHandlers deviceId packet handlers
  | none =>
    if !router.defaultHandlers.isEmpty then callHandlers deviceId packet router.defaultHandlers
    else return .error (.noPluginForPacketType packet.packetType)

end PacketRouter

/-- The plugins by name, and the names of those that take a packet type, in the order of their registration. -/
structure PluginRegistry (Handler : Type) where
  plugins : Table String Handler := ∅
  capabilityIndex : Table String (List String) := ∅

namespace PluginRegistry

variable {Handler : Type}

/-- Names that no longer resolve are skipped. -/
def getAllByCapability (registry : PluginRegistry Handler) (capability : String) : List Handler :=
  ((registry.capabilityIndex.lookup capability).getD []).filterMap registry.plugins.lookup

variable (deviceId : DeviceId) (packet : Packet)

/-- The loop of `handle_packet`; a panic unwinds out of it, with its payload. -/
def handleEach : List Handler → Collected → ExceptT (Option String) (HandlerProgram Handler) Collected
  | [], collected => return collected
  | plugin :: rest, collected => do
    let outcome : HandlerOutcome ← liftM (call (HandlerAction.invoke plugin deviceId packet) : HandlerProgram Handler HandlerOutcome)
    match outcome with
    | .returned result => handleEach rest (collected.take result)
    | .panicked payload => throw payload

def handlePacket (registry : PluginRegistry Handler) (packetType : String) :
    ExceptT (Option String) (HandlerProgram Handler) (Except Error (Option (List Packet))) := do
  let plugins := registry.getAllByCapability packetType
  if plugins.isEmpty then
    return .error (.noPluginForPacketType packetType)
  return (← handleEach deviceId packet plugins {}).result

end PluginRegistry


/-- The calls that make a router out of an empty one. -/
inductive Registration (Handler : Type)
  | handler (packetType : String) (added : Handler)
  | fallback (added : Handler)
  | removal (packetType : String)

namespace Registration

variable {Handler : Type}

def apply (router : PacketRouter Handler) : Registration Handler → PacketRouter Handler
  | handler packetType added => router.register packetType added
  | fallback added => router.registerDefault added
  | removal packetType => router.unregister packetType

def build (registrations : List (Registration Handler)) : PacketRouter Handler := registrations.foldl apply .new

/-- The handlers registered for a packet type since it was last unregistered. -/
def registeredFor (packetType : String) (registrations : List (Registration Handler)) : List Handler :=
  registrations.foldl (fun list registration => match registration with
    | handler other added => if packetType = other then list ++ [added] else list
    | fallback _ => list
    | removal other => if packetType = other then [] else list) []

def defaults (registrations : List (Registration Handler)) : List Handler :=
  registrations.filterMap fun registration => match registration with
    | fallback added => some added
    | _ => none

/-- The handlers that a packet of the type is for. -/
def chosen (packetType : String) (registrations : List (Registration Handler)) : List Handler :=
  if registeredFor packetType registrations = [] then defaults registrations else registeredFor packetType registrations

end Registration

namespace HandlerOutcome

def responses : HandlerOutcome → List Packet
  | returned (.ok (some packets)) => packets
  | _ => []

/-- The error as which a failure counts: the handler's own, or the one made of its panic. -/
def failure (packetType : String) : HandlerOutcome → Option Error
  | returned (.ok _) => none
  | returned (.error e) => some e
  | panicked payload =>
    some (panicError packetType payload)

theorem responses_of_failed {packetType : String} {outcome : HandlerOutcome} (failed : outcome.failure packetType ≠ none) :
    outcome.responses = [] := by
  rcases outcome with (_ | _) | _
  · rfl
  · exact absurd rfl failed
  · rfl

end HandlerOutcome

namespace Collected

/-- The outcomes of several handlers, one after the other. -/
def takeAll (packetType : String) (collected : Collected) (outcomes : List HandlerOutcome) : Collected where
  allResponses := collected.allResponses ++ outcomes.flatMap HandlerOutcome.responses
  firstError := collected.firstError.or (outcomes.findSome? (HandlerOutcome.failure packetType))
  anyOk := collected.anyOk || outcomes.any fun outcome => (outcome.failure packetType).isNone

theorem takeAll_nil (packetType : String) (collected : Collected) : collected.takeAll packetType [] = collected := by
  simp [takeAll]

theorem takeAll_cons (packetType : String) (collected : Collected) (outcome : HandlerOutcome) (rest : List HandlerOutcome) :
    collected.takeAll packetType (outcome :: rest) = (collected.takeAll packetType [outcome]).takeAll packetType rest := by
  simp only [takeAll, List.flatMap_cons, List.flatMap_nil, List.append_nil, List.append_assoc, List.any_cons, List.any_nil,
    Bool.or_false, Bool.or_assoc, Collected.mk.injEq, true_and, and_true]
  rw [Option.or_assoc]
  congr 1
  cases failed : outcome.failure packetType with
  | none => simp [failed]
  | some e => simp [failed]

theorem takeAll_append (packetType : String) (collected : Collected) (first second : List HandlerOutcome) :
    collected.takeAll packetType (first ++ second) = (collected.takeAll packetType first).takeAll packetType second := by
  induction first generalizing collected with
  | nil => rw [takeAll_nil, List.nil_append]
  | cons outcome rest ih => rw [List.cons_append, takeAll_cons, ih, takeAll_cons packetType collected outcome rest]

theorem take_eq (packetType : String) (collected : Collected) (result : Except Error (Option (List Packet))) :
    collected.take result = collected.takeAll packetType [.returned result] := by
  cases result with
  | error e => simp [take, fail, takeAll, HandlerOutcome.responses, HandlerOutcome.failure]
  | ok packets => cases packets <;> simp [take, takeAll, HandlerOutcome.responses, HandlerOutcome.failure]

section Merged

variable (packetType : String) {outcomes : List HandlerOutcome}

/-- With one success among them the outcomes merge into their responses, if there are any. -/
theorem result_of_success (succeeded : ∃ outcome ∈ outcomes, outcome.failure packetType = none) :
    (takeAll packetType {} outcomes).result =
      .ok (if outcomes.flatMap HandlerOutcome.responses = [] then none else some (outcomes.flatMap HandlerOutcome.responses)) := by
  have ok : (outcomes.any fun outcome => (outcome.failure packetType).isNone) = true := by
    obtain ⟨outcome, member, done⟩ := succeeded
    exact List.any_eq_true.mpr ⟨outcome, member, by rw [done, Option.isNone_none]⟩
  by_cases silent : outcomes.flatMap HandlerOutcome.responses = []
  · simp [result, takeAll, silent, ok]
  · simp [result, takeAll, silent]

/-- Without a success they merge into the first error. -/
theorem result_of_failures (failed : ∀ outcome ∈ outcomes, outcome.failure packetType ≠ none) :
    (takeAll packetType {} outcomes).result =
      match outcomes.findSome? (HandlerOutcome.failure packetType) with
      | some e => .error e
      | none => .ok none := by
  have silent : outcomes.flatMap HandlerOutcome.responses = [] :=
    List.flatMap_eq_nil_iff.mpr fun outcome member => HandlerOutcome.responses_of_failed (failed outcome member)
  have none : (outcomes.any fun outcome => (outcome.failure packetType).isNone) = false := by
    refine List.any_eq_false.mpr fun outcome member => ?_
    rw [Option.isNone_iff_eq_none]
    exact failed outcome member
  simp only [result, takeAll, silent, none, List.append_nil, List.isEmpty_nil, Bool.not_true, Bool.false_eq_true, if_false,
    Bool.or_false, Bool.not_false, if_true, Option.none_or]

theorem findSome_failure (called : outcomes ≠ []) (failed : ∀ outcome ∈ outcomes, outcome.failure packetType ≠ none) :
    ∃ e, outcomes.findSome? (HandlerOutcome.failure packetType) = some e := by
  cases outcomes with
  | nil => exact absurd rfl called
  | cons outcome rest =>
    obtain ⟨e, here⟩ := Option.ne_none_iff_exists'.mp (failed outcome List.mem_cons_self)
    exact ⟨e, by simp [here]⟩

theorem result_merged (called : outcomes ≠ []) :
    let responses := outcomes.flatMap HandlerOutcome.responses
    let result := (takeAll packetType {} outcomes).result
    (responses ≠ [] → result = .ok (some responses)) ∧
    (result = .ok none ↔ (∃ outcome ∈ outcomes, outcome.failure packetType = none) ∧ responses = []) ∧
    ∀ e, result = .error e ↔ (∀ outcome ∈ outcomes, outcome.failure packetType ≠ none) ∧
      outcomes.findSome? (HandlerOutcome.failure packetType) = some e := by
  intro responses result
  by_cases succeeded : ∃ outcome ∈ outcomes, outcome.failure packetType = none
  · have merged : result = .ok (if responses = [] then none else some responses) := result_of_success packetType succeeded
    have notAll : ¬ ∀ outcome ∈ outcomes, outcome.failure packetType ≠ none := by simpa using succeeded
    refine ⟨fun some => by rw [merged, if_neg some], ?_, fun e => by simp [merged, notAll]⟩
    by_cases silent : responses = []
    · simp [merged, silent, succeeded]
    · simp [merged, silent]
  · have failed : ∀ outcome ∈ outcomes, outcome.failure packetType ≠ none := by simpa using succeeded
    obtain ⟨first, found⟩ := findSome_failure packetType called failed
    have merged : result = .error first := by
      rw [show result = _ from result_of_failures packetType failed, found]
    have silent : responses = [] :=
      List.flatMap_eq_nil_iff.mpr fun outcome member => HandlerOutcome.responses_of_failed (failed outcome member)
    refine ⟨fun some => absurd silent some, by simp [merged, succeeded], fun e => ?_⟩
    rw [merged, found, Except.error.injEq, Option.some.injEq]
    exact ⟨fun same => ⟨failed, same⟩, And.right⟩

end Merged

end Collected

section Calls

variable {Handler σ : Type} (exec : (action : HandlerAction Handler) → σ → HandlerAction.Answer action × σ) (deviceId : DeviceId)
  (packet : Packet)

/-- What comes of the handlers, called one after the other with the same packet. -/
def outcomes : List Handler → σ → List HandlerOutcome
  | [], _ => []
  | handler :: rest, s =>
    (exec (.invoke handler deviceId packet) s).1 :: outcomes rest (exec (.invoke handler deviceId packet) s).2

/-- The state the handlers leave. -/
def calledAll (handlers : List Handler) (s : σ) : σ :=
  handlers.foldl (fun s handler => (exec (.invoke handler deviceId packet) s).2) s

theorem outcomes_append (first second : List Handler) (s : σ) :
    outcomes exec deviceId packet (first ++ second) s =
      outcomes exec deviceId packet first s ++ outcomes exec deviceId packet second (calledAll exec deviceId packet first s) := by
  induction first generalizing s with
  | nil => rfl
  | cons handler rest ih =>
    simp only [List.cons_append, outcomes, calledAll, List.foldl_cons]
    rw [ih]
    rfl

theorem run_runOne (handler : Handler) (collected : Collected) (s : σ) :
    run exec (PacketRouter.runOne deviceId packet handler collected) s =
      (collected.takeAll packet.packetType (outcomes exec deviceId packet [handler] s), calledAll exec deviceId packet [handler] s) := by
  simp only [PacketRouter.runOne, run_bind, run_call, outcomes, calledAll, List.foldl_cons, List.foldl_nil]
  generalize exec (.invoke handler deviceId packet) s = answered
  obtain ⟨outcome, s'⟩ := answered
  cases outcome with
  | returned result => simp only [run_pure, Collected.take_eq packet.packetType]
  | panicked payload => simp [Collected.fail, Collected.takeAll, HandlerOutcome.responses, HandlerOutcome.failure]

theorem run_runEach (handlers : List Handler) (collected : Collected) (s : σ) :
    run exec (PacketRouter.runEach deviceId packet handlers collected) s =
      (collected.takeAll packet.packetType (outcomes exec deviceId packet handlers s), calledAll exec deviceId packet handlers s) := by
  induction handlers generalizing collected s with
  | nil => simp [PacketRouter.runEach, outcomes, calledAll, Collected.takeAll_nil]
  | cons handler rest ih =>
    rw [PacketRouter.runEach, run_bind, run_runOne]
    simp only []
    rw [ih, ← Collected.takeAll_append, ← outcomes_append]
    rfl

theorem actions_runOne (handler : Handler) (collected : Collected) (s : σ) :
    actions exec (PacketRouter.runOne deviceId packet handler collected) s = [.invoke handler deviceId packet] := by
  simp only [PacketRouter.runOne, actions_bind, actions_call, run_call]
  cases (exec (.invoke handler deviceId packet) s).1 <;> rfl

theorem actions_runEach (handlers : List Handler) (collected : Collected) (s : σ) :
    actions exec (PacketRouter.runEach deviceId packet handlers collected) s =
      handlers.map fun handler => .invoke handler deviceId packet := by
  induction handlers generalizing collected s with
  | nil => rfl
  | cons handler rest ih =>
    rw [PacketRouter.runEach, actions_bind, ih, actions_runOne]
    rfl

theorem runEach_append (first second : List Handler) (collected : Collected) :
    PacketRouter.runEach deviceId packet (first ++ second) collected =
      PacketRouter.runEach deviceId packet first collected >>= PacketRouter.runEach deviceId packet second := by
  induction first generalizing collected with
  | nil => rfl
  | cons handler rest ih =>
    simp only [List.cons_append, PacketRouter.runEach, LawfulMonad.bind_assoc]
    exact congrArg (_ >>= ·) (funext ih)

/-- That the last handler gets the packet itself makes no difference. -/
theorem callHandlers_eq (handlers : List Handler) :
    PacketRouter.callHandlers deviceId packet handlers = Collected.result <$> PacketRouter.runEach deviceId packet handlers {} := by
  rcases List.eq_nil_or_concat handlers with rfl | ⟨before, last, rfl⟩
  · rfl
  · simp only [PacketRouter.callHandlers, List.concat_eq_append, List.dropLast_concat, List.getLast?_concat]
    rw [runEach_append, map_bind]
    congr 1
    funext collected
    simp only [PacketRouter.runEach, bind_pure, map_eq_pure_bind]

theorem run_callHandlers (handlers : List Handler) (s : σ) :
    run exec (PacketRouter.callHandlers deviceId packet handlers) s =
      ((Collected.takeAll packet.packetType {} (outcomes exec deviceId packet handlers s)).result,
        calledAll exec deviceId packet handlers s) := by
  rw [callHandlers_eq, run_map, run_runEach]

theorem actions_callHandlers (handlers : List Handler) (s : σ) :
    actions exec (PacketRouter.callHandlers deviceId packet handlers) s =
      handlers.map fun handler => .invoke handler deviceId packet := by
  rw [callHandlers_eq, actions_map, actions_runEach]

end Calls

namespace Registration

variable {Handler : Type}

/-- The router's list for a type is the handlers registered for it, in that order. -/
theorem build_chooses (registrations : List (Registration Handler)) (packetType : String) :
    ((build registrations).handlers.lookup packetType).getD [] = registeredFor packetType registrations ∧
      (build registrations).defaultHandlers = defaults registrations := by
  induction registrations using List.reverseRecOn with
  | nil => exact ⟨by simp [build, PacketRouter.new, registeredFor], rfl⟩
  | append_singleton before last ih =>
    obtain ⟨handlers, others⟩ := ih
    have step : build (before ++ [last]) = apply (build before) last := by simp [build, List.foldl_append]
    rw [step]
    cases last with
    | handler other added =>
      refine ⟨?_, by simpa [apply, PacketRouter.register, defaults] using others⟩
      simp only [apply, PacketRouter.register, Table.lookup_insert_of, registeredFor, List.foldl_append, List.foldl_cons, List.foldl_nil]
      split
      · rename_i same
        subst same
        rw [Option.getD_some, handlers]
        rfl
      · exact handlers
    | fallback added => exact ⟨by simpa [apply, PacketRouter.registerDefault, registeredFor] using handlers,
        by simp [apply, PacketRouter.registerDefault, defaults, others]⟩
    | removal other =>
      refine ⟨?_, by simpa [apply, PacketRouter.unregister, defaults] using others⟩
      simp only [apply, PacketRouter.unregister, Table.lookup_erase_of, registeredFor, List.foldl_append, List.foldl_cons, List.foldl_nil]
      split
      · rfl
      · exact handlers

/-- A packet goes to the handlers chosen for its type; without any it is refused. -/
theorem route_eq (deviceId : DeviceId) (packet : Packet) (registrations : List (Registration Handler)) :
    PacketRouter.route deviceId packet (build registrations) =
      if chosen packet.packetType registrations = [] then pure (.error (.noPluginForPacketType packet.packetType))
      else PacketRouter.callHandlers deviceId packet (chosen packet.packetType registrations) := by
  obtain ⟨handlers, others⟩ := build_chooses registrations packet.packetType
  unfold PacketRouter.route chosen
  cases found : (build registrations).handlers.lookup packet.packetType with
  | some list =>
    have same : list = registeredFor packet.packetType registrations := by simpa [found] using handlers
    have some := (build registrations).registered _ _ found
    rw [← same, if_neg some, if_neg some]
  | none =>
    have none : registeredFor packet.packetType registrations = [] := by simpa [found] using handlers.symm
    rw [if_pos none, others]
    by_cases empty : defaults registrations = []
    · simp [empty]
    · simp [empty]

end Registration

namespace PluginRegistry

variable {Handler σ : Type} (exec : (action : HandlerAction Handler) → σ → HandlerAction.Answer action × σ) (deviceId : DeviceId)
  (packet : Packet)

theorem run_handleEach (plugins : List Handler) (collected : Collected) (s : σ)
    (returned : ∀ outcome ∈ outcomes exec deviceId packet plugins s, ∃ result, outcome = .returned result) :
    run exec (handleEach deviceId packet plugins collected).run s =
      (.ok (collected.takeAll packet.packetType (outcomes exec deviceId packet plugins s)), calledAll exec deviceId packet plugins s) := by
  induction plugins generalizing collected s with
  | nil =>
    simp only [outcomes, Collected.takeAll_nil, calledAll, List.foldl_nil]
    rfl
  | cons plugin rest ih =>
    obtain ⟨result, first⟩ := returned _ List.mem_cons_self
    have later := ih (collected.take result) (exec (.invoke plugin deviceId packet) s).2
      fun outcome member => returned outcome (List.mem_cons_of_mem _ member)
    simp only [handleEach, run_except_bind, run_except_lift, run_call, first]
    rw [later, outcomes, first, Collected.takeAll_cons, ← Collected.take_eq]
    rfl

/-- Where no plugin panics the registry merges the same outcomes as the router. -/
theorem run_handlePacket (registry : PluginRegistry Handler) (s : σ)
    (some : registry.getAllByCapability packet.packetType ≠ [])
    (returned : ∀ outcome ∈ outcomes exec deviceId packet (registry.getAllByCapability packet.packetType) s,
      ∃ result, outcome = .returned result) :
    run exec (handlePacket deviceId packet registry packet.packetType).run s =
      (.ok (run exec (PacketRouter.callHandlers deviceId packet (registry.getAllByCapability packet.packetType)) s).1,
        (run exec (PacketRouter.callHandlers deviceId packet (registry.getAllByCapability packet.packetType)) s).2) := by
  have each := run_handleEach exec deviceId packet _ {} s returned
  rw [run_callHandlers]
  simp only [handlePacket, List.isEmpty_iff, some, if_false, run_except_bind, each]
  rfl

end PluginRegistry

namespace Router

open Registration

variable {Handler σ : Type}

/-- Every handler for the packet is called once, in order and with the same
packet, whatever comes of the others. The responses are merged, the first
error is told only when no handler succeeded, and the plugin registry does the
same. -/
theorem route_fans_out (registrations : List (Registration Handler)) (deviceId : DeviceId) (packet : Packet)
    (exec : (action : HandlerAction Handler) → σ → HandlerAction.Answer action × σ) (s : σ) :
    let handlers := chosen packet.packetType registrations
    let outcomes := outcomes exec deviceId packet handlers s
    let responses := outcomes.flatMap HandlerOutcome.responses
    let program := PacketRouter.route deviceId packet (build registrations)
    let result := (run exec program s).1
    actions exec program s = (handlers.map fun handler => .invoke handler deviceId packet) ∧
    (responses ≠ [] → result = .ok (some responses)) ∧
    (result = .ok none ↔ (∃ outcome ∈ outcomes, outcome.failure packet.packetType = none) ∧ responses = []) ∧
    (handlers ≠ [] → ∀ e, result = .error e ↔ (∀ outcome ∈ outcomes, outcome.failure packet.packetType ≠ none) ∧
      outcomes.findSome? (HandlerOutcome.failure packet.packetType) = some e) ∧
    (handlers = [] → result = .error (.noPluginForPacketType packet.packetType)) ∧
    ∀ registry : PluginRegistry Handler, defaults registrations = [] → registry.getAllByCapability packet.packetType = handlers →
      (∀ outcome ∈ outcomes, ∃ result, outcome = .returned result) →
      run exec (registry.handlePacket deviceId packet packet.packetType).run s = (.ok result, (run exec program s).2) := by
  intro handlers outcomes responses program result
  by_cases none : handlers = []
  · have refused : program = pure (.error (.noPluginForPacketType packet.packetType)) := by
      rw [show program = _ from route_eq deviceId packet registrations, if_pos none]
    have silent : outcomes = [] := by
      simp only [outcomes, none]
      rfl
    have error : result = .error (.noPluginForPacketType packet.packetType) := by simp only [result, refused, run_pure]
    refine ⟨by simp [refused, none], fun some => absurd (by simp [responses, silent]) some, ?_, fun some => absurd none some,
      fun _ => error, fun registry _ same _ => ?_⟩
    · simp [error, silent]
    · simp only [PluginRegistry.handlePacket, same, none, List.isEmpty_nil, if_true, refused, run_pure, result]
      rfl
  · have called : program = PacketRouter.callHandlers deviceId packet handlers := by
      rw [show program = _ from route_eq deviceId packet registrations, if_neg none]
    have merged : result = (Collected.takeAll packet.packetType {} outcomes).result := by
      simp only [result, called, run_callHandlers, outcomes]
    have invoked : actions exec program s = handlers.map fun handler => .invoke handler deviceId packet := by
      rw [called, actions_callHandlers]
    have registry (registry : PluginRegistry Handler) (same : registry.getAllByCapability packet.packetType = handlers)
        (returned : ∀ outcome ∈ outcomes, ∃ result, outcome = .returned result) :
        run exec (registry.handlePacket deviceId packet packet.packetType).run s = (.ok result, (run exec program s).2) := by
      have ran := registry.run_handlePacket exec deviceId packet s (same ▸ none) (same ▸ returned)
      simp only [result, called]
      rw [ran, same]
    have answered : outcomes ≠ [] := by
      obtain ⟨first, rest, some⟩ := List.exists_cons_of_ne_nil none
      simp only [outcomes, some]
      exact List.cons_ne_nil _ _
    obtain ⟨concatenated, silent, failed⟩ := Collected.result_merged packet.packetType answered
    rw [← merged] at concatenated silent
    exact ⟨invoked, concatenated, silent, fun _ e => merged ▸ failed e, fun some => absurd some none,
      fun other _ same returned => registry other same returned⟩

def ping : Packet :=
  { id := 1, packetType := "kdeconnect.ping", body := .obj [], payloadSize := none, payloadTransferInfo := none }

/-- The first of two handlers fails, the second one answers with the packet. -/
def halfFailing : (action : HandlerAction Bool) → Unit → HandlerAction.Answer action × Unit
  | .invoke true _ packet, _ => (.returned (.ok (some [packet])), ())
  | .invoke false _ _, _ => (.returned (.error (.internal "broken")), ())

theorem sibling_answers :
    (run halfFailing (PacketRouter.route "phone" ping
      (build [.handler "kdeconnect.ping" false, .handler "kdeconnect.ping" true])) ()).1 = .ok (some [ping]) :=
  (route_fans_out [.handler "kdeconnect.ping" false, .handler "kdeconnect.ping" true] "phone" ping halfFailing ()).2.1 (by decide)

/-- A handler that fails with an error of its own that reads like the router's. -/
def refusing : (action : HandlerAction Unit) → Unit → HandlerAction.Answer action × Unit
  | .invoke _ _ packet, _ => (.returned (.error (.noPluginForPacketType packet.packetType)), ())

theorem refusal_passed_on : ¬ ∀ (registrations : List (Registration Unit)) (packet : Packet)
    (exec : (action : HandlerAction Unit) → Unit → HandlerAction.Answer action × Unit),
    (run exec (PacketRouter.route "phone" packet (build registrations)) ()).1 =
        .error (.noPluginForPacketType packet.packetType) ↔
      chosen packet.packetType registrations = [] := by
  intro told
  have found : chosen ping.packetType [.handler "kdeconnect.ping" ()] = [()] := by decide
  have refused : (run refusing (PacketRouter.route "phone" ping (build [.handler "kdeconnect.ping" ()])) ()).1 =
      .error (.noPluginForPacketType ping.packetType) := rfl
  have none := (told [.handler "kdeconnect.ping" ()] ping refusing).mp refused
  rw [found] at none
  cases none

end Router

end RustConnect
