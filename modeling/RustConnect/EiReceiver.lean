import RustConnect.Types
import RustConnect.Base.Custody

namespace RustConnect

open Program

/-- `plan_button` and its callers know three buttons. -/
inductive Button
  | left
  | right
  | middle
  deriving DecidableEq

inductive ButtonEdge
  | press
  | release
  deriving DecidableEq

structure Modifiers where
  shift : Bool
  ctrl : Bool
  alt : Bool
  superKey : Bool
  deriving DecidableEq

/-- What the activation gate holds back: input that is ready for the planners. -/
inductive PendingInput
  | motion (dx dy : Float)
  | button (button : Button) (edge : ButtonEdge)
  | scrollDelta (dx dy : Float)
  | scrollDiscrete (dx dy : Int32)
  | key (text : String) (specialKey : Int32) (mods : Modifiers)

inductive WireBody
  | motion (body : Json)
  | button (body : Json)
  | scroll (body : Json)
  | key (body : Json)
  deriving DecidableEq

section Plans

/-- A number that is not finite has no JSON number and becomes `null`. -/
def Json.ofFloat (value : Float) : Json := if value.isFinite then .num (.float value.toBits) else .null

def planMotion (dx dy : Float) : Json := .obj [("dx", .ofFloat dx), ("dy", .ofFloat dy)]

def planButton : Button → ButtonEdge → Json
  | .left, .press => .obj [("singlehold", .bool true)]
  | .left, .release => .obj [("singlerelease", .bool true)]
  | .right, .press => .obj [("rightclick", .bool true)]
  | .right, .release => .null
  | .middle, _ => .obj [("middleclick", .bool true)]

def anglePer120Step : Float := 15.0 / 120.0

def planScroll (deltaDx deltaDy : Float) (discreteX discreteY : Int32) : Json :=
  .obj [("scroll", .bool true), ("dx", .ofFloat (deltaDx + Float.ofInt discreteX.toInt * anglePer120Step)),
    ("dy", .ofFloat (deltaDy + Float.ofInt (-discreteY).toInt * anglePer120Step))]

def planScrollDiscrete (discreteX discreteY : Int32) : Json :=
  .obj [("scroll", .bool true), ("dx", .ofFloat (Float.ofInt discreteX.toInt * anglePer120Step)),
    ("dy", .ofFloat (Float.ofInt (-discreteY).toInt * anglePer120Step))]

def planKey (text : String) (specialKey : Int32) (shift ctrl alt superKey : Bool) : Json :=
  .obj [("key", .str text), ("specialKey", .ofInt specialKey.toInt), ("shift", .bool shift), ("ctrl", .bool ctrl),
    ("alt", .bool alt), ("super", .bool superKey)]

namespace PendingInput

/-- The body that the two replays send for an input, which they drop when it has no content. -/
def planned : PendingInput → Option WireBody
  | motion dx dy => some (.motion (planMotion dx dy))
  | .button which edge => if planButton which edge = .null then none else some (.button (planButton which edge))
  | scrollDelta dx dy => some (.scroll (planScroll dx dy 0 0))
  | scrollDiscrete dx dy => some (.scroll (planScrollDiscrete dx dy))
  | key text specialKey mods =>
    if text.isEmpty ∧ specialKey = 0 then none
    else some (.key (planKey text specialKey mods.shift mods.ctrl mods.alt mods.superKey))

/-- The body that `dispatch` sends for an input that is not held back. A key
without content does not come this far. -/
def live : PendingInput → Option WireBody
  | motion dx dy => some (.motion (planMotion dx dy))
  | .button which edge => if planButton which edge = .null then none else some (.button (planButton which edge))
  | scrollDelta dx dy => some (.scroll (planScroll dx dy 0 0))
  | scrollDiscrete dx dy => some (.scroll (planScrollDiscrete dx dy))
  | key text specialKey mods => some (.key (planKey text specialKey mods.shift mods.ctrl mods.alt mods.superKey))

end PendingInput

end Plans

section Keys

def f1Code : Int32 := 21

def fKeyCount : UInt32 := 12

/-- The codes of the named keys, by the numbers of their keysyms. -/
def specialKeyForKeysym (raw : UInt32) : Int32 :=
  if 0xffbe ≤ raw ∧ raw ≤ 0xffe0 then
    if raw - 0xffbe < fKeyCount then f1Code + (raw - 0xffbe).toInt32 else 0
  else if raw = 0xff08 then 1
  else if raw = 0xff09 ∨ raw = 0xff89 then 2
  else if raw = 0xff51 ∨ raw = 0xff96 then 4
  else if raw = 0xff52 ∨ raw = 0xff97 then 5
  else if raw = 0xff53 ∨ raw = 0xff98 then 6
  else if raw = 0xff54 ∨ raw = 0xff99 then 7
  else if raw = 0xff55 ∨ raw = 0xff9a then 8
  else if raw = 0xff56 ∨ raw = 0xff9b then 9
  else if raw = 0xff50 ∨ raw = 0xff95 then 10
  else if raw = 0xff57 ∨ raw = 0xff9c then 11
  else if raw = 0xff0d ∨ raw = 0xff8d then 12
  else if raw = 0xffff ∨ raw = 0xff0b ∨ raw = 0xff9f then 13
  else if raw = 0xff1b then 14
  else if raw = 0xff15 ∨ raw = 0x1005ff60 ∨ raw = 0x1007ff00 then 15
  else if raw = 0xff14 then 16
  else if raw = 0x1005ff10 then 31
  else if raw = 0x1005ff11 then 32
  else 0

/-- The modifiers `from_xkb_state` asks for by name. -/
inductive ModName
  | shift
  | ctrl
  | alt
  | logo

/-- What the receiver has from the keyboard library: keymaps of type `K` and
the keyboard states of type `S` that are built of them. -/
structure Xkb (K S : Type) where
  buildXkbState : K → Option S
  updateMask : (depressed latched locked group : UInt32) → S → S
  updateKey : UInt32 → (isPress : Bool) → S → S
  keyGetOneSym : S → UInt32 → UInt32
  keysymToUtf8 : UInt32 → String
  modNameIsActive : S → ModName → Bool

variable {K S : Type} (xkb : Xkb K S)

def Modifiers.fromXkbState (state : S) : Modifiers where
  shift := xkb.modNameIsActive state .shift
  ctrl := xkb.modNameIsActive state .ctrl
  alt := xkb.modNameIsActive state .alt
  superKey := xkb.modNameIsActive state .logo

def isControlByte (byte : UInt8) : Bool := byte < 0x20 || byte == 0x7f

def keysymToText (keysym : UInt32) : String :=
  if (xkb.keysymToUtf8 keysym).toUTF8.toList.any isControlByte then "" else xkb.keysymToUtf8 keysym

def xkbKeycodeOffset : UInt32 := 8

def btnLeft : UInt32 := 0x110

def btnRight : UInt32 := 0x111

def btnMiddle : UInt32 := 0x112

def mapButton (button : UInt32) (isPress : Bool) : Option (Button × ButtonEdge) :=
  let edge : ButtonEdge := if isPress then .press else .release
  if button = btnLeft then some (.left, edge)
  else if button = btnRight then some (.right, edge)
  else if button = btnMiddle then some (.middle, edge)
  else none

end Keys

/-- The events of the EI stream that do something; `ignored` are the others. -/
inductive EiEvent (K : Type)
  | deviceAdded (keymap : Option K)
  | deviceStartEmulating (sequence : UInt32)
  | pointerMotion (dx dy : Float32)
  | button (button : UInt32) (isPress : Bool)
  | scrollDelta (dx dy : Float32)
  | scrollDiscrete (dx dy : Int32)
  | keyboardModifiers (depressed latched locked group : UInt32)
  | keyboardKey (key : UInt32) (isPress : Bool)
  | ignored

/-- What the pump gets from the stream. -/
inductive StreamItem (K : Type)
  | event (event : EiEvent K)
  | disconnected
  | error

/-- What an event gives the gate to do. -/
inductive Notice
  | startEmulating (sequence : UInt32)
  | input (input : PendingInput)

section Dispatch

variable {K S : Type} (xkb : Xkb K S)

/-- The `KeyboardKey` arm of `dispatch` up to the gate. -/
def pressKey (key : UInt32) (isPress : Bool) (state : S) : S × Option Notice :=
  let keycode := key + xkbKeycodeOffset
  let state := xkb.updateKey keycode isPress state
  if !isPress then (state, none)
  else
    let keysym := xkb.keyGetOneSym state keycode
    if keysym = 0 then (state, none)
    else
      let text := keysymToText xkb keysym
      let specialKey := specialKeyForKeysym keysym
      if text.isEmpty ∧ specialKey = 0 then (state, none)
      else (state, some (.input (.key text specialKey (.fromXkbState xkb state))))

/-- The arms of `dispatch` up to the gate: the keyboard state after the event,
and what the gate gets to do. -/
def interpret : EiEvent K → Option S → Option S × Option Notice
  | .deviceAdded none, state => (state, none)
  | .deviceAdded (some keymap), state => ((xkb.buildXkbState keymap).orElse fun _ => state, none)
  | .deviceStartEmulating sequence, state => (state, some (.startEmulating sequence))
  | .pointerMotion dx dy, state => (state, some (.input (.motion dx.toFloat dy.toFloat)))
  | .button button isPress, state => (state, (mapButton button isPress).map fun mapped => .input (.button mapped.1 mapped.2))
  | .scrollDelta dx dy, state => (state, some (.input (.scrollDelta dx.toFloat dy.toFloat)))
  | .scrollDiscrete dx dy, state => (state, some (.input (.scrollDiscrete dx dy)))
  | .keyboardModifiers depressed latched locked group, state => (state.map (xkb.updateMask depressed latched locked group), none)
  | .keyboardKey _ _, none => (none, none)
  | .keyboardKey key isPress, some state => (some (pressKey xkb key isPress state).1, (pressKey xkb key isPress state).2)
  | .ignored, state => (state, none)

/-- What the events of a stream give the gate to do, until the stream is over. -/
def notices : List (StreamItem K) → Option S → List Notice
  | .event event :: rest, state => (interpret xkb event state).2.toList ++ notices rest (interpret xkb event state).1
  | .disconnected :: _, _ => []
  | .error :: _, _ => []
  | [], _ => []

/-- The input among them, in the order of its arrival. -/
def inputs (notices : List Notice) : List PendingInput :=
  notices.filterMap fun notice => match notice with
    | .input input => some input
    | .startEmulating _ => none

/-- The EIS sequences among them. -/
def sequences (notices : List Notice) : List UInt32 :=
  notices.filterMap fun notice => match notice with
    | .input _ => none
    | .startEmulating sequence => some sequence

end Dispatch

structure ActivationGate where
  eisSequence : UInt32 := 0
  activationId : UInt32 := 0
  pending : List PendingInput := []

namespace ActivationGate

def noteStartEmulating (gate : ActivationGate) (sequence : UInt32) : ActivationGate := { gate with eisSequence := sequence }

def noteActivated (gate : ActivationGate) (id : UInt32) : List PendingInput × ActivationGate :=
  (gate.pending, { gate with activationId := id, pending := [] })

def noteActivatedRetainPending (gate : ActivationGate) (id : UInt32) : ActivationGate := { gate with activationId := id }

def shouldQueue (gate : ActivationGate) : Bool := decide (gate.activationId < gate.eisSequence)

def queue (gate : ActivationGate) (input : PendingInput) : ActivationGate := { gate with pending := gate.pending ++ [input] }

end ActivationGate

/-- Who has to do with the gate and the channel: the task that starts the
receiver and then is its pump, and the calls for `Activated` signals. -/
inductive Party
  | pump
  | activated
  deriving DecidableEq

/-- What the tasks do to the receiver, one lock scope or send at a time. -/
inductive EiAction
  | installWire
  | lockGate (party : Party)
  | lockWire (party : Party)
  | drainPending
  | noteActivated (id : UInt32)
  | send (party : Party) (body : WireBody)
  | sendLive (body : WireBody)
  | unlockWire (party : Party)
  | unlockGate
  | noteStartEmulating (sequence : UInt32)
  | gateInput (input : PendingInput)

/-- The receiver: whether its two mutexes are locked, whether `wire_tx` is
there, and everything that has been sent into the channel. -/
structure EiReceiver where
  gate : ActivationGate
  gateLocked : Bool := false
  wireLocked : Bool := false
  wireTx : Bool := false
  wire : List WireBody := []

namespace EiAction

abbrev Answer : EiAction → Type
  | drainPending => List PendingInput
  | noteActivated _ => List PendingInput
  | gateInput _ => Bool
  | _ => Unit

/-- `drainPending` is the `note_activated` of `start`, with the id that the
gate has; `noteActivated` is the one of `handle_activated`, which gives the
gate back. `gateInput` tells whether the input has been queued. -/
def exec : (action : EiAction) → EiReceiver → action.Answer × EiReceiver
  | installWire, s => ((), { s with wireTx := true })
  | lockGate _, s => ((), { s with gateLocked := true })
  | lockWire _, s => ((), { s with wireLocked := true })
  | drainPending, s => ((s.gate.noteActivated s.gate.activationId).1, { s with gate := (s.gate.noteActivated s.gate.activationId).2 })
  | noteActivated id, s =>
    if s.wireTx then ((s.gate.noteActivated id).1, { s with gate := (s.gate.noteActivated id).2, gateLocked := false })
    else ([], { s with gate := s.gate.noteActivatedRetainPending id, gateLocked := false })
  | send _ body, s => ((), { s with wire := s.wire ++ [body] })
  | sendLive body, s => ((), { s with wire := s.wire ++ [body] })
  | unlockWire _, s => ((), { s with wireLocked := false })
  | unlockGate, s => ((), { s with gateLocked := false })
  | noteStartEmulating sequence, s => ((), { s with gate := s.gate.noteStartEmulating sequence })
  | gateInput input, s => if s.gate.shouldQueue then (true, { s with gate := s.gate.queue input }) else (false, s)

/-- Whether the action waits for a mutex. -/
def waits (s : EiReceiver) : EiAction → Bool
  | installWire => s.wireLocked
  | lockGate _ => s.gateLocked
  | lockWire _ => s.wireLocked
  | noteStartEmulating _ => s.gateLocked
  | gateInput _ => s.gateLocked
  | _ => false

end EiAction

abbrev EiProgram := Program EiAction EiAction.Answer

namespace EiReceiver

open EiAction

def perform (action : EiAction) : EiProgram action.Answer := call action

/-- The loop over the drained input of both replays. -/
def replay (party : Party) : List PendingInput → EiProgram Unit
  | [] => pure ()
  | input :: rest => do
    match input.planned with
    | none => pure ()
    | some body => perform (send party body)
    replay party rest

def handleActivated (id : UInt32) : EiProgram Unit := do
  perform (lockGate .activated)
  perform (lockWire .activated)
  replay .activated (← perform (noteActivated id))
  perform (unlockWire .activated)

section Pump

variable {K S : Type} (xkb : Xkb K S)

/-- An input is queued, or sent when the gate has been left. -/
def gated (input : PendingInput) : EiProgram Unit := do
  if ← perform (gateInput input) then pure ()
  else match input.live with
    | none => pure ()
    | some body => perform (sendLive body)

def dispatch (event : EiEvent K) (state : Option S) : EiProgram (Option S) := do
  match (interpret xkb event state).2 with
  | none => pure ()
  | some (.startEmulating sequence) => perform (noteStartEmulating sequence)
  | some (.input input) => gated input
  pure (interpret xkb event state).1

def pump : List (StreamItem K) → Option S → EiProgram Unit
  | .event event :: rest, state => do pump rest (← dispatch xkb event state)
  | .disconnected :: _, _ => pure ()
  | .error :: _, _ => pure ()
  | [], _ => pure ()

/-- `start` after the handshake, and the pump that the caller drives then. -/
def start (stream : List (StreamItem K)) : EiProgram Unit := do
  perform installWire
  perform (lockGate .pump)
  perform (lockWire .pump)
  replay .pump (← perform drainPending)
  perform (unlockWire .pump)
  perform unlockGate
  pump xkb stream none

inductive Call
  | start
  | handleActivated (id : UInt32)

def program (stream : List (StreamItem K)) : Call → EiProgram Unit
  | .start => start xkb stream
  | .handleActivated id => handleActivated id

abbrev Tasks : Type := Pool EiAction EiAction.Answer EiReceiver

/-- The turns of the calls for `Activated` signals, with the ids that the signals carry. -/
def signals (turns : List (Turn UInt32)) : List (Turn Call) :=
  turns.map fun turn => match turn with
    | .spawn id => .spawn (.handleActivated id)
    | .take task => .take task

/-- One receiver whose gate is as given, the EI stream that it will get, and
any number of `Activated` signals: the first task starts the receiver. -/
def atTurn (gate : ActivationGate) (stream : List (StreamItem K)) (turns : List (Turn UInt32)) (k : Nat) : Tasks :=
  Pool.after EiAction.exec (program xkb stream) { gate } (.spawn .start :: signals turns) (k + 1)

end Pump

end EiReceiver

end RustConnect
