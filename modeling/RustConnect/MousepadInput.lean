import Mathlib
import RustConnect.JsonFields

namespace RustConnect

/-- `evdev::KeyCode`, by the number of the key. -/
structure KeyCode where
  code : UInt16
  deriving DecidableEq, Repr

namespace KeyCode

def keyEsc : KeyCode := ⟨1⟩
def keyBackspace : KeyCode := ⟨14⟩
def keyTab : KeyCode := ⟨15⟩
def keyEnter : KeyCode := ⟨28⟩
def keyLeftCtrl : KeyCode := ⟨29⟩
def keyLeftShift : KeyCode := ⟨42⟩
def keyLeftAlt : KeyCode := ⟨56⟩
def keySpace : KeyCode := ⟨57⟩
def keyScrollLock : KeyCode := ⟨70⟩
def keySysrq : KeyCode := ⟨99⟩
def keyLinefeed : KeyCode := ⟨101⟩
def keyHome : KeyCode := ⟨102⟩
def keyUp : KeyCode := ⟨103⟩
def keyPageUp : KeyCode := ⟨104⟩
def keyLeft : KeyCode := ⟨105⟩
def keyRight : KeyCode := ⟨106⟩
def keyEnd : KeyCode := ⟨107⟩
def keyDown : KeyCode := ⟨108⟩
def keyPageDown : KeyCode := ⟨109⟩
def keyDelete : KeyCode := ⟨111⟩
def keyMute : KeyCode := ⟨113⟩
def keyVolumeDown : KeyCode := ⟨114⟩
def keyVolumeUp : KeyCode := ⟨115⟩
def keyLeftMeta : KeyCode := ⟨125⟩
def keyNextSong : KeyCode := ⟨163⟩
def keyPlayPause : KeyCode := ⟨164⟩
def keyPreviousSong : KeyCode := ⟨165⟩
def btnLeft : KeyCode := ⟨0x110⟩
def btnRight : KeyCode := ⟨0x111⟩
def btnMiddle : KeyCode := ⟨0x112⟩

/-- The numbers of `KEY_F1` to `KEY_F12`. -/
def functionKeys : List UInt16 := [59, 60, 61, 62, 63, 64, 65, 66, 67, 68, 87, 88]

/-- The numbers of `KEY_A` to `KEY_Z`. -/
def letterKeys : List UInt16 :=
  [30, 48, 46, 32, 18, 33, 34, 35, 23, 36, 37, 38, 50, 49, 24, 25, 16, 19, 31, 20, 22, 47, 17, 45, 21, 44]

/-- `KeyCode::from_str` of `KEY_` and an uppercase letter. -/
def ofLetter (letter : Char) : Option KeyCode := letterKeys[letter.toNat - 'A'.toNat]?.map KeyCode.mk

end KeyCode

/-- The body of `kdeconnect.mousepad.request`. -/
structure MousepadRequest where
  key : Option String := none
  specialKey : Option Int32 := none
  dx : Option Float := none
  dy : Option Float := none
  x : Option Float := none
  y : Option Float := none
  singleclick : Bool := false
  doubleclick : Bool := false
  middleclick : Bool := false
  rightclick : Bool := false
  singlehold : Bool := false
  singlerelease : Bool := false
  scroll : Bool := false
  ctrl : Bool := false
  alt : Bool := false
  shift : Bool := false
  superKey : Bool := false
  isAck : Bool := false

namespace MousepadRequest

def asI32 (value : Json) : Option Int32 :=
  (value.asI64.filter fun n => -2 ^ 31 ≤ n ∧ n < 2 ^ 31).map Int32.ofInt

/-- The fields in the order of their declaration, as they are named on the wire. -/
def fieldNames : List String :=
  ["key", "specialKey", "dx", "dy", "x", "y", "singleclick", "doubleclick", "middleclick", "rightclick", "singlehold",
    "singlerelease", "scroll", "ctrl", "alt", "shift", "super", "isAck"]

/-- A field of type `bool` with a default. -/
def flag : Option Json → Option Bool
  | none => some false
  | some value => value.asBool

def ofFields (field : String → Option Json) : Option MousepadRequest := do
  return {
    key := ← Json.optional Json.asStr (field "key")
    specialKey := ← Json.optional asI32 (field "specialKey")
    dx := ← Json.optional Json.asF64 (field "dx")
    dy := ← Json.optional Json.asF64 (field "dy")
    x := ← Json.optional Json.asF64 (field "x")
    y := ← Json.optional Json.asF64 (field "y")
    singleclick := ← flag (field "singleclick")
    doubleclick := ← flag (field "doubleclick")
    middleclick := ← flag (field "middleclick")
    rightclick := ← flag (field "rightclick")
    singlehold := ← flag (field "singlehold")
    singlerelease := ← flag (field "singlerelease")
    scroll := ← flag (field "scroll")
    ctrl := ← flag (field "ctrl")
    alt := ← flag (field "alt")
    shift := ← flag (field "shift")
    superKey := ← flag (field "super")
    isAck := ← flag (field "isAck") }

/-- The derived `Deserialize`, which also reads the fields from an array, in their order. -/
def decode : Json → Option MousepadRequest
  | .obj members => ofFields fun key => (Json.obj members).get key
  | .arr items => if items.length ≤ fieldNames.length then ofFields fun key => items[fieldNames.idxOf key]? else none
  | _ => none

end MousepadRequest

structure MousepadModifiers where
  ctrl : Bool
  alt : Bool
  shift : Bool
  superKey : Bool
  deriving DecidableEq, Repr

namespace MousepadModifiers

open KeyCode

def fromRequest (req : MousepadRequest) : MousepadModifiers := ⟨req.ctrl, req.alt, req.shift, req.superKey⟩

def keys (mods : MousepadModifiers) : List KeyCode :=
  (if mods.ctrl then [keyLeftCtrl] else []) ++ (if mods.alt then [keyLeftAlt] else []) ++
    (if mods.shift then [keyLeftShift] else []) ++ (if mods.superKey then [keyLeftMeta] else [])

end MousepadModifiers

inductive InputAction
  | click (key : KeyCode)
  | doubleClick (key : KeyCode)
  | buttonDown (key : KeyCode)
  | buttonUp (key : KeyCode)
  | wheel (horizontal : Bool) (clicks : Int32)
  | keyPress (key : KeyCode) (mods : MousepadModifiers)
  | move (dx dy : Int32)
  deriving DecidableEq, Repr

/-- The events that the virtual device is given: keys with value 1 for a press and 0 for a
release, the relative axes, and the report that ends each group. -/
inductive InputEvent
  | key (key : KeyCode) (value : Int32)
  | relX (value : Int32)
  | relY (value : Int32)
  | relWheel (value : Int32)
  | relHWheel (value : Int32)
  | synReport
  deriving DecidableEq, Repr

namespace Mousepad

open KeyCode InputAction

/-- `apply`, with the events of its `emit`. -/
def apply : InputAction → List InputEvent
  | click key => [.key key 1, .key key 0, .synReport]
  | doubleClick key => [.key key 1, .key key 0, .key key 1, .key key 0, .synReport]
  | buttonDown key => [.key key 1, .synReport]
  | buttonUp key => [.key key 0, .synReport]
  | wheel horizontal clicks => [if horizontal then .relHWheel clicks else .relWheel clicks, .synReport]
  | keyPress key mods =>
    mods.keys.map (InputEvent.key · 1) ++ [.key key 1, .key key 0] ++ mods.keys.map (InputEvent.key · 0) ++ [.synReport]
  | move dx dy => [.relX dx, .relY dy, .synReport]

def specialKeyCode (code : Int32) : Option KeyCode :=
  match code.toInt with
  | 1 => some keyBackspace
  | 2 => some keyTab
  | 3 => some keyLinefeed
  | 4 => some keyLeft
  | 5 => some keyUp
  | 6 => some keyRight
  | 7 => some keyDown
  | 8 => some keyPageUp
  | 9 => some keyPageDown
  | 10 => some keyHome
  | 11 => some keyEnd
  | 12 => some keyEnter
  | 13 => some keyDelete
  | 14 => some keyEsc
  | 15 => some keySysrq
  | 16 => some keyScrollLock
  | 17 => some keyLeftCtrl
  | 18 => some keyLeftAlt
  | 19 => some keyLeftShift
  | 20 => some keyLeftMeta
  | n => if 21 ≤ n then functionKeys[(n - 21).toNat]?.map KeyCode.mk else none

/-- The names that `parse_key_code` knows. -/
def namedKeys : List (String × KeyCode) :=
  [("enter", keyEnter), ("return", keyEnter), ("esc", keyEsc), ("escape", keyEsc), ("backspace", keyBackspace), ("tab", keyTab),
    ("space", keySpace), ("delete", keyDelete), ("del", keyDelete), ("home", keyHome), ("end", keyEnd), ("pageup", keyPageUp),
    ("page_up", keyPageUp), ("pagedown", keyPageDown), ("page_down", keyPageDown), ("left", keyLeft), ("arrowleft", keyLeft),
    ("right", keyRight), ("arrowright", keyRight), ("up", keyUp), ("arrowup", keyUp), ("down", keyDown), ("arrowdown", keyDown),
    ("volumemute", keyMute), ("mute", keyMute), ("volumeup", keyVolumeUp), ("volumedown", keyVolumeDown),
    ("playpause", keyPlayPause), ("play", keyPlayPause), ("pause", keyPlayPause), ("nextsong", keyNextSong), ("next", keyNextSong),
    ("previoussong", keyPreviousSong), ("previous", keyPreviousSong)]

variable (toLowercase : String → String)

/-- `parse_key_code`, with `str::to_lowercase` as a parameter. -/
def parseKeyCode (key : String) : Option KeyCode :=
  let lowered := toLowercase key
  match namedKeys.lookup lowered with
  | some code => some code
  | none =>
    match lowered.toList with
    | [ch] => if ch.isAlpha then ofLetter ch.toUpper else none
    | _ => none

def wheelActions (dx dy : Float) : List InputAction :=
  (if 0 < dy then [wheel false 1] else if dy < 0 then [wheel false (-1)] else []) ++
    (if 0 < dx then [wheel true 1] else if dx < 0 then [wheel true (-1)] else [])

def keyActions (req : MousepadRequest) (hasKey : Bool) (special : Int32) : List InputAction :=
  let mods := MousepadModifiers.fromRequest req
  match specialKeyCode special with
  | some keyCode => [keyPress keyCode mods]
  | none =>
    if hasKey then
      match req.key.bind (parseKeyCode toLowercase) with
      | some keyCode => [keyPress keyCode mods]
      | none => []
    else []

def planActions (req : MousepadRequest) : List InputAction :=
  let hasKey := req.key.any fun key => !key.isEmpty
  let special := req.specialKey.getD 0
  if req.singleclick || req.doubleclick || req.middleclick || req.rightclick || req.singlehold || req.singlerelease ||
      req.scroll || hasKey || special != 0 then
    if req.singleclick then [click KeyCode.btnLeft]
    else if req.doubleclick then [doubleClick KeyCode.btnLeft]
    else if req.middleclick then [click KeyCode.btnMiddle]
    else if req.rightclick then [click KeyCode.btnRight]
    else if req.singlehold then [buttonDown KeyCode.btnLeft]
    else if req.singlerelease then [buttonUp KeyCode.btnLeft]
    else if req.scroll then wheelActions (req.dx.getD 0) (req.dy.getD 0)
    else keyActions toLowercase req hasKey special
  else if req.dx.isSome || req.dy.isSome then
    let dx := (req.dx.getD 0).toInt32
    let dy := (req.dy.getD 0).toInt32
    if dx = 0 ∧ dy = 0 then [] else [move dx dy]
  else []

end Mousepad

/-- What the plugin is called for. -/
inductive MousepadCall
  | handlePacket (deviceId : DeviceId) (packet : Packet)
  | onDisconnected (deviceId : DeviceId)

namespace Mousepad

open KeyCode InputAction

variable (toLowercase : String → String)

/-- The events that a call gives the virtual device, which is missing when `/dev/uinput` could not be opened. The
absolute pointer has a device of its own, which is given no keys; and the plugin leaves `on_disconnected` as it is. -/
def emitted (device : Bool) : MousepadCall → List InputEvent
  | .handlePacket _ packet =>
    match MousepadRequest.decode packet.body with
    | some req => if device then (planActions toLowercase req).flatMap apply else []
    | none => []
  | .onDisconnected _ => []

/-- What a key was set to, in order. -/
def valuesOf (key : KeyCode) (events : List InputEvent) : List Int32 :=
  events.filterMap fun event =>
    match event with
    | .key other value => if other = key then some value else none
    | _ => none

/-- The last event of each key is a release. -/
def AllReleased (events : List InputEvent) : Prop := ∀ key value, (valuesOf key events).getLast? = some value → value = 0

/-- A request that holds the left button. -/
def Holds (req : MousepadRequest) : Bool :=
  !req.singleclick && !req.doubleclick && !req.middleclick && !req.rightclick && req.singlehold

/-- A request that clicks the left button or releases it. -/
def Frees (req : MousepadRequest) : Bool :=
  req.singleclick || req.doubleclick || (!req.middleclick && !req.rightclick && !req.singlehold && req.singlerelease)

def requestOf : MousepadCall → Option MousepadRequest
  | .handlePacket _ packet => MousepadRequest.decode packet.body
  | .onDisconnected _ => none

/-- Every packet that holds the left button is followed by one that frees it. -/
def HoldsEnd (calls : List MousepadCall) : Prop :=
  ∀ before call after, calls = before ++ call :: after → (requestOf call).any Holds = true →
    ∃ later ∈ after, (requestOf later).any Frees = true

/-- The events of a run of calls. -/
def allEmitted (device : Bool) (calls : List MousepadCall) : List InputEvent := calls.flatMap (emitted toLowercase device)

/-- Whether the left button is held after a run of calls. -/
def heldAfter (calls : List MousepadCall) : Bool :=
  calls.foldl (fun held call =>
    if (requestOf call).any Holds then true else if (requestOf call).any Frees then false else held) false

/-- An action that leaves the left button alone, and holds no key. -/
def Aside : InputAction → Prop
  | click key | doubleClick key | buttonUp key | keyPress key _ => key ≠ KeyCode.btnLeft
  | buttonDown _ => False
  | wheel _ _ | move _ _ => True

section Values

variable {toLowercase : String → String} (key : KeyCode)

theorem valuesOf_append (first second : List InputEvent) :
    valuesOf key (first ++ second) = valuesOf key first ++ valuesOf key second := List.filterMap_append

theorem valuesOf_keys (keys : List KeyCode) (value : Int32) :
    valuesOf key (keys.map (InputEvent.key · value)) = List.replicate (keys.count key) value := by
  induction keys with
  | nil => rfl
  | cons other rest ih =>
    by_cases same : other = key
    · subst same
      rw [List.map_cons, List.count_cons_self, List.replicate_succ, ← ih]
      simp [valuesOf]
    · rw [List.map_cons, List.count_cons_of_ne same, ← ih]
      simp [valuesOf, same]

theorem valuesOf_keyPress (pressed : KeyCode) (mods : MousepadModifiers) :
    valuesOf key (apply (keyPress pressed mods)) =
      List.replicate (mods.keys.count key) 1 ++ (if pressed = key then [1, 0] else []) ++
        List.replicate (mods.keys.count key) 0 := by
  have stroke : valuesOf key [.key pressed 1, .key pressed 0] = if pressed = key then [1, 0] else [] := by
    by_cases same : pressed = key
    · simp [valuesOf, same]
    · simp [valuesOf, same]
  have report : valuesOf key [.synReport] = [] := rfl
  simp only [apply, valuesOf_append, valuesOf_keys, stroke, report, List.append_nil]

theorem released_keyPress (pressed : KeyCode) (mods : MousepadModifiers) {value : Int32}
    (last : (valuesOf key (apply (keyPress pressed mods))).getLast? = some value) : value = 0 := by
  rw [valuesOf_keyPress] at last
  cases counted : mods.keys.count key with
  | zero =>
    rw [counted] at last
    by_cases same : pressed = key
    · simpa [same] using last.symm
    · simp [same] at last
  | succ n =>
    rw [counted, List.getLast?_append, List.getLast?_replicate, if_neg (Nat.succ_ne_zero n), Option.some_or] at last
    exact (Option.some.inj last).symm

/-- An action that is not a hold leaves every key released. -/
theorem released_apply {action : InputAction} (holdsNone : ∀ held, action ≠ buttonDown held) {value : Int32}
    (last : (valuesOf key (apply action)).getLast? = some value) : value = 0 := by
  cases action with
  | click pressed =>
    by_cases same : pressed = key
    · simpa [apply, valuesOf, same] using last.symm
    · simp [apply, valuesOf, same] at last
  | doubleClick pressed =>
    by_cases same : pressed = key
    · simpa [apply, valuesOf, same] using last.symm
    · simp [apply, valuesOf, same] at last
  | buttonDown held => exact absurd rfl (holdsNone held)
  | buttonUp pressed =>
    by_cases same : pressed = key
    · simpa [apply, valuesOf, same] using last.symm
    · simp [apply, valuesOf, same] at last
  | wheel horizontal clicks => cases horizontal <;> cases last
  | keyPress pressed mods => exact released_keyPress key pressed mods last
  | move dx dy => cases last

theorem count_btnLeft (mods : MousepadModifiers) : mods.keys.count KeyCode.btnLeft = 0 := by
  obtain ⟨ctrl, alt, shift, superKey⟩ := mods
  cases ctrl <;> cases alt <;> cases shift <;> cases superKey <;> rfl

theorem Aside.values {action : InputAction} (aside : Aside action) : valuesOf KeyCode.btnLeft (apply action) = [] := by
  cases action with
  | click pressed => simp [apply, valuesOf, show pressed ≠ KeyCode.btnLeft from aside]
  | doubleClick pressed => simp [apply, valuesOf, show pressed ≠ KeyCode.btnLeft from aside]
  | buttonDown held => exact aside.elim
  | buttonUp pressed => simp [apply, valuesOf, show pressed ≠ KeyCode.btnLeft from aside]
  | wheel horizontal clicks => cases horizontal <;> rfl
  | keyPress pressed mods =>
    rw [valuesOf_keyPress, count_btnLeft, if_neg aside]
    rfl
  | move dx dy => rfl

theorem Aside.no_hold {action : InputAction} (aside : Aside action) (held : KeyCode) : action ≠ buttonDown held := by
  rintro rfl
  exact aside

end Values

section Plans

variable {toLowercase : String → String} {req : MousepadRequest}

theorem specialKeyCode_ne (code : Int32) : specialKeyCode code ≠ some KeyCode.btnLeft := by
  have none : ∀ code ∈ functionKeys, KeyCode.mk code ≠ KeyCode.btnLeft := by simp [functionKeys, KeyCode.btnLeft]
  unfold specialKeyCode
  split
  case h_21 =>
    split
    · intro same
      obtain ⟨code, found, key⟩ := Option.map_eq_some_iff.mp same
      exact none code (List.mem_of_getElem? found) key
    · exact nofun
  all_goals decide

theorem ofLetter_ne (letter : Char) : ofLetter letter ≠ some KeyCode.btnLeft := by
  intro same
  obtain ⟨code, member, key⟩ := Option.map_eq_some_iff.mp same
  have none : ∀ code ∈ letterKeys, KeyCode.mk code ≠ KeyCode.btnLeft := by simp [letterKeys, KeyCode.btnLeft]
  exact none code (List.mem_of_getElem? member) key

theorem parseKeyCode_ne (key : String) : parseKeyCode toLowercase key ≠ some KeyCode.btnLeft := by
  unfold parseKeyCode
  dsimp only
  cases found : namedKeys.lookup (toLowercase key) with
  | some code =>
    have none : ∀ entry ∈ namedKeys, entry.2 ≠ KeyCode.btnLeft := by decide
    have listed : (toLowercase key, code) ∈ namedKeys := by
      obtain ⟨before, after, whole, -⟩ := List.lookup_eq_some_iff.mp found
      rw [whole]
      exact List.mem_append_right before List.mem_cons_self
    exact fun same => none _ listed (Option.some.inj same)
  | none =>
    dsimp only
    split
    · split
      · exact ofLetter_ne _
      · exact nofun
    · exact nofun

theorem aside_wheelActions (dx dy : Float) : ∀ action ∈ wheelActions dx dy, Aside action := by
  intro action member
  unfold wheelActions at member
  rcases List.mem_append.mp member with vertical | horizontal
  · split at vertical
    · rw [List.mem_singleton.mp vertical]
      trivial
    · split at vertical
      · rw [List.mem_singleton.mp vertical]
        trivial
      · cases vertical
  · split at horizontal
    · rw [List.mem_singleton.mp horizontal]
      trivial
    · split at horizontal
      · rw [List.mem_singleton.mp horizontal]
        trivial
      · cases horizontal

theorem aside_keyActions (hasKey : Bool) (special : Int32) :
    ∀ action ∈ keyActions toLowercase req hasKey special, Aside action := by
  intro action member
  unfold keyActions at member
  dsimp only at member
  split at member
  · rename_i code found
    rw [List.mem_singleton.mp member]
    exact fun same => specialKeyCode_ne special (found.trans (congrArg some same))
  · split at member
    · split at member
      · rename_i code found
        rw [List.mem_singleton.mp member]
        obtain ⟨key, -, parsed⟩ := Option.bind_eq_some_iff.mp found
        exact fun same => parseKeyCode_ne key (parsed.trans (congrArg some same))
      · cases member
    · cases member

/-- What is planned for a request does one of three things to the left button. -/
theorem planActions_cases (toLowercase : String → String) (req : MousepadRequest) :
    (Holds req = true ∧ planActions toLowercase req = [buttonDown KeyCode.btnLeft]) ∨
      (Holds req = false ∧ Frees req = true ∧ ∃ action, planActions toLowercase req = [action] ∧
        (action = click KeyCode.btnLeft ∨ action = doubleClick KeyCode.btnLeft ∨ action = buttonUp KeyCode.btnLeft)) ∨
      (Holds req = false ∧ Frees req = false ∧ ∀ action ∈ planActions toLowercase req, Aside action) := by
  unfold planActions Holds Frees
  cases single : req.singleclick with
  | true => exact .inr (.inl ⟨rfl, rfl, _, rfl, .inl rfl⟩)
  | false =>
    cases double : req.doubleclick with
    | true => exact .inr (.inl ⟨rfl, rfl, _, rfl, .inr (.inl rfl)⟩)
    | false =>
      cases middle : req.middleclick with
      | true =>
        refine .inr (.inr ⟨rfl, rfl, fun action member => ?_⟩)
        rw [List.mem_singleton.mp member]
        exact (by decide : KeyCode.btnMiddle ≠ KeyCode.btnLeft)
      | false =>
        cases right : req.rightclick with
        | true =>
          refine .inr (.inr ⟨rfl, rfl, fun action member => ?_⟩)
          rw [List.mem_singleton.mp member]
          exact (by decide : KeyCode.btnRight ≠ KeyCode.btnLeft)
        | false =>
          cases hold : req.singlehold with
          | true => exact .inl ⟨rfl, rfl⟩
          | false =>
            cases release : req.singlerelease with
            | true => exact .inr (.inl ⟨rfl, rfl, _, rfl, .inr (.inr rfl)⟩)
            | false =>
              refine .inr (.inr ⟨rfl, rfl, fun action member => ?_⟩)
              simp only [Bool.false_or, Bool.false_eq_true, if_false] at member
              split at member
              · split at member
                · exact aside_wheelActions _ _ action member
                · exact aside_keyActions _ _ action member
              · split at member
                · split at member
                  · cases member
                  · rw [List.mem_singleton.mp member]
                    trivial
                · cases member

end Plans

section Runs

variable {toLowercase : String → String} {call : MousepadCall}

/-- What a call does to the left button and to the other keys. -/
theorem emitted_cases (toLowercase : String → String) (call : MousepadCall) :
    ((requestOf call).any Holds = true ∧ (valuesOf KeyCode.btnLeft (emitted toLowercase true call)).getLast? = some 1) ∨
      ((requestOf call).any Holds = false ∧ (requestOf call).any Frees = true ∧
        (valuesOf KeyCode.btnLeft (emitted toLowercase true call)).getLast? = some 0) ∨
      ((requestOf call).any Holds = false ∧ (requestOf call).any Frees = false ∧
        valuesOf KeyCode.btnLeft (emitted toLowercase true call) = []) := by
  cases call with
  | onDisconnected d => exact .inr (.inr ⟨rfl, rfl, rfl⟩)
  | handlePacket d packet =>
    dsimp only [requestOf, emitted]
    cases MousepadRequest.decode packet.body with
    | none => exact .inr (.inr ⟨rfl, rfl, rfl⟩)
    | some req =>
      rcases planActions_cases toLowercase req with ⟨holds, planned⟩ | ⟨holds, frees, action, planned, kind⟩ | ⟨holds, frees, aside⟩
      · refine .inl ⟨holds, ?_⟩
        simp only [if_true, planned]
        rfl
      · refine .inr (.inl ⟨holds, frees, ?_⟩)
        simp only [if_true, planned]
        rcases kind with rfl | rfl | rfl <;> rfl
      · refine .inr (.inr ⟨holds, frees, ?_⟩)
        simp only [if_true, valuesOf, List.filterMap_eq_nil_iff]
        intro event member
        obtain ⟨action, inside, made⟩ := List.mem_flatMap.mp member
        exact List.filterMap_eq_nil_iff.mp (aside action inside).values event made

/-- Only the left button can be left pressed by a call. -/
theorem emitted_released {key : KeyCode} (other : key ≠ KeyCode.btnLeft) {value : Int32}
    (last : (valuesOf key (emitted toLowercase true call)).getLast? = some value) : value = 0 := by
  cases call with
  | onDisconnected d => cases last
  | handlePacket d packet =>
    dsimp only [emitted] at last
    cases decoded : MousepadRequest.decode packet.body with
    | none =>
      rw [decoded] at last
      cases last
    | some req =>
      rw [decoded] at last
      simp only [if_true] at last
      rcases planActions_cases toLowercase req with ⟨-, planned⟩ | ⟨-, -, action, planned, kind⟩ | ⟨-, -, aside⟩
      · rw [planned] at last
        simp [apply, valuesOf, other.symm] at last
      · rw [planned, List.flatMap_singleton] at last
        refine released_apply key ?_ last
        rcases kind with rfl | rfl | rfl <;> exact nofun
      · revert last
        generalize planActions toLowercase req = actions at aside ⊢
        intro last
        induction actions using List.reverseRecOn with
        | nil => cases last
        | append_singleton before action ih =>
          rw [List.flatMap_append, List.flatMap_singleton, valuesOf_append, List.getLast?_append] at last
          rcases Option.or_eq_some_iff.mp last with here | ⟨-, earlier⟩
          · exact released_apply key (aside action (List.mem_append_right _ List.mem_cons_self)).no_hold here
          · exact ih (fun action inside => aside action (List.mem_append_left _ inside)) earlier

theorem heldAfter_concat (calls : List MousepadCall) (call : MousepadCall) :
    heldAfter (calls ++ [call]) =
      if (requestOf call).any Holds then true else if (requestOf call).any Frees then false else heldAfter calls := by
  unfold heldAfter
  rw [List.foldl_append]
  rfl

theorem holdsEnd_iff (calls : List MousepadCall) : HoldsEnd calls ↔ heldAfter calls = false := by
  induction calls using List.reverseRecOn with
  | nil =>
    refine ⟨fun _ => rfl, fun _ before call after whole => ?_⟩
    exact absurd whole.symm (by simp)
  | append_singleton calls last ih =>
    rw [heldAfter_concat]
    cases holds : (requestOf last).any Holds with
    | true =>
      refine iff_of_false (fun ends => ?_) (by simp)
      obtain ⟨later, inside, -⟩ := ends calls last [] rfl holds
      cases inside
    | false =>
      have split (before after : List MousepadCall) (call : MousepadCall) (whole : calls ++ [last] = before ++ call :: after)
          (held : (requestOf call).any Holds = true) : ∃ rest, after = rest ++ [last] ∧ calls = before ++ call :: rest := by
        rcases List.eq_nil_or_concat after with rfl | ⟨rest, final, rfl⟩
        · obtain ⟨-, same⟩ := List.append_inj' whole rfl
          rw [← List.head_eq_of_cons_eq same, holds] at held
          cases held
        · rw [List.concat_eq_append, ← List.cons_append, ← List.append_assoc] at whole
          rw [List.concat_eq_append]
          obtain ⟨front, same⟩ := List.append_inj' whole rfl
          rw [List.head_eq_of_cons_eq same]
          exact ⟨rest, rfl, front⟩
      cases frees : (requestOf last).any Frees with
      | true =>
        refine iff_of_true (fun before call after whole held => ?_) (by simp)
        obtain ⟨rest, rfl, -⟩ := split before after call whole held
        exact ⟨last, List.mem_append_right _ List.mem_cons_self, frees⟩
      | false =>
        simp only [Bool.false_eq_true, if_false]
        rw [← ih]
        constructor
        · intro ends before call after whole held
          obtain ⟨later, inside, freed⟩ := ends before call (after ++ [last]) (by rw [whole]; simp) held
          rcases List.mem_append.mp inside with member | member
          · exact ⟨later, member, freed⟩
          · rw [List.mem_singleton.mp member, frees] at freed
            cases freed
        · intro ends before call after whole held
          obtain ⟨rest, rfl, front⟩ := split before after call whole held
          obtain ⟨later, inside, freed⟩ := ends before call rest front held
          exact ⟨later, List.mem_append_left _ inside, freed⟩

/-- What the left button was set to last. -/
theorem lastLeft (toLowercase : String → String) (calls : List MousepadCall) :
    (heldAfter calls = true ∧ (valuesOf KeyCode.btnLeft (allEmitted toLowercase true calls)).getLast? = some 1) ∨
      (heldAfter calls = false ∧
        ∀ value, (valuesOf KeyCode.btnLeft (allEmitted toLowercase true calls)).getLast? = some value → value = 0) := by
  induction calls using List.reverseRecOn with
  | nil => exact .inr ⟨rfl, nofun⟩
  | append_singleton calls call ih =>
    rw [heldAfter_concat, allEmitted, List.flatMap_append, List.flatMap_singleton, valuesOf_append, List.getLast?_append]
    rcases emitted_cases toLowercase call with ⟨holds, last⟩ | ⟨holds, frees, last⟩ | ⟨holds, frees, none⟩
    · rw [holds, last]
      exact .inl ⟨rfl, rfl⟩
    · rw [holds, frees, last]
      exact .inr ⟨rfl, fun value same => (Option.some.inj same).symm⟩
    · rw [holds, frees, none]
      simpa [allEmitted] using ih

theorem othersReleased (calls : List MousepadCall) {key : KeyCode} (other : key ≠ KeyCode.btnLeft) {value : Int32}
    (last : (valuesOf key (allEmitted toLowercase true calls)).getLast? = some value) : value = 0 := by
  induction calls using List.reverseRecOn with
  | nil => cases last
  | append_singleton calls call ih =>
    rw [allEmitted, List.flatMap_append, List.flatMap_singleton, valuesOf_append, List.getLast?_append] at last
    rcases Option.or_eq_some_iff.mp last with here | ⟨-, earlier⟩
    · exact emitted_released other here
    · exact ih earlier

end Runs

/-- Every key is released at the end of a run exactly when there is no device to hold one, or every packet
that holds the left button is followed by one that frees it; a link that goes frees nothing. -/
theorem all_released_iff (toLowercase : String → String) (device : Bool) (calls : List MousepadCall) :
    AllReleased (allEmitted toLowercase device calls) ↔ device = false ∨ HoldsEnd calls := by
  cases device with
  | false =>
    have nothing : allEmitted toLowercase false calls = [] := by
      refine List.flatMap_eq_nil_iff.mpr fun call _ => ?_
      cases call with
      | onDisconnected d => rfl
      | handlePacket d packet =>
        dsimp only [emitted]
        cases MousepadRequest.decode packet.body <;> rfl
    rw [nothing]
    exact iff_of_true (fun key value last => nomatch last) (.inl rfl)
  | true =>
    rw [holdsEnd_iff]
    simp only [Bool.true_eq_false, false_or]
    rcases lastLeft toLowercase calls with ⟨held, last⟩ | ⟨free, released⟩
    · rw [held]
      exact iff_of_false (fun all => absurd (all KeyCode.btnLeft 1 last) (by decide)) (by simp)
    · rw [free]
      refine iff_of_true (fun key value last => ?_) rfl
      by_cases same : key = KeyCode.btnLeft
      · exact released value (same ▸ last)
      · exact othersReleased calls same last

/-- A drag is begun, and the phone goes away. -/
def dragLost : List MousepadCall :=
  [.handlePacket "phone" (.new 1 "kdeconnect.mousepad.request" (.obj [("singlehold", .bool true)])), .onDisconnected "phone"]

theorem drag_lost_held : ¬∀ (toLowercase : String → String) (calls : List MousepadCall),
    AllReleased (allEmitted toLowercase true calls) := by
  intro always
  have released := always id dragLost KeyCode.btnLeft 1 rfl
  exact absurd released (by decide)

end Mousepad

end RustConnect
