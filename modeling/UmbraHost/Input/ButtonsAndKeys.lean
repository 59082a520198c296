import UmbraHost.Input.Packets
import UmbraHost.Strokes.Down

/-! # Mouse buttons, keys and `input::reset`

The handlers of `input.cpp` that press and release, the delayed tasks they
leave behind and the task that `reset` queues.  Identifiers of delayed tasks are
addresses in the source; here they are never used twice. -/

namespace UmbraHost.Input

open UmbraHost.Strokes

inductive Target where
  | button (button : Nat)
  | key (keyCode : Nat)
deriving DecidableEq, Repr

structure InputConfig where
  mouse : Bool := true
  keyboard : Bool := true
  keybindings : List (Nat × Nat) := []
  keyRepeat : Bool := true

/-- `platf::button_mouse` and `platf::keyboard_update`. -/
inductive PressCall where
  | buttonMouse (button : Nat) (release : Bool)
  | keyboardUpdate (keyCode : Nat) (release : Bool) (flags : Nat)
deriving DecidableEq, Repr

def PressCall.stroke : PressCall → Stroke Target
  | .buttonMouse button release => { target := .button button, release }
  | .keyboardUpdate keyCode release _ => { target := .key keyCode, release }

structure KeyPressId where
  keyCode : Nat
  flags : Nat
deriving DecidableEq, Repr

structure SyntheticModifiers where
  shift : Bool := false
  ctrl : Bool := false
  alt : Bool := false
deriving DecidableEq, Repr

structure KeyRepeat where
  task : Nat
  keyCode : Nat
  flags : Nat
  modifiers : SyntheticModifiers
deriving DecidableEq, Repr

/-- `mouse_left_button_timeout`; the delay is enabled by a null pointer. -/
inductive LeftButtonTimeout where
  | enabled
  | disabled
  | task (task : Nat)
deriving DecidableEq, Repr

structure Pressed where
  mousePress : Nat → Bool := fun _ => false
  keyPress : List KeyPressId := []
  shortcutFlags : SyntheticModifiers := {}
  mouseLeftButtonTimeout : LeftButtonTimeout := .enabled
  keyPressRepeatId : Option Nat := none
  leftReleases : List Nat := []
  keyRepeats : List KeyRepeat := []
  nextTask : Nat := 0
  resetTasks : Nat := 0
  calls : List PressCall := []

inductive InputEvent where
  | mouseButton (packet : MouseButtonPacket)
  | keyboard (packet : KeyboardPacket)
  | relMouseMove
  | absMouseMove
  | leftRelease (task : Nat)
  | repeatKey (task : Nat)
  | reset
  | resetTask
deriving DecidableEq, Repr

def InputEvent.isPacket : InputEvent → Bool
  | .mouseButton _ | .keyboard _ | .relMouseMove | .absMouseMove => true
  | _ => false

def buttonLeft : Nat := 1

def buttonRight : Nat := 3

def mousePressSize : Nat := 5

def vkeyShift : Nat := 0x10

def vkeyControl : Nat := 0x11

def vkeyMenu : Nat := 0x12

def modifierShift : Nat := 1

def modifierCtrl : Nat := 2

def modifierAlt : Nat := 4

def mapKeycode (config : InputConfig) (keyCode : Nat) : Nat :=
  (config.keybindings.lookup keyCode).getD keyCode

def isShift (keyCode : Nat) : Bool := keyCode = vkeyShift || keyCode = 0xA0 || keyCode = 0xA1

def isControl (keyCode : Nat) : Bool := keyCode = vkeyControl || keyCode = 0xA2 || keyCode = 0xA3

def isMenu (keyCode : Nat) : Bool := keyCode = vkeyMenu || keyCode = 0xA4 || keyCode = 0xA5

def isModifier (keyCode : Nat) : Bool := isShift keyCode || isControl keyCode || isMenu keyCode

def updateShortcutFlags (keyCode : Nat) (release : Bool) (flags : SyntheticModifiers) :
    SyntheticModifiers :=
  if isShift keyCode then { flags with shift := !release }
  else if isControl keyCode then { flags with ctrl := !release }
  else if isMenu keyCode then { flags with alt := !release }
  else flags

/-- F1 to F13 switch the display and N toggles the cursor. -/
def applyShortcut (keyCode : Nat) : Bool :=
  (0x70 ≤ keyCode && keyCode ≤ 0x7C) || keyCode = 0x4E

def SyntheticModifiers.keys (modifiers : SyntheticModifiers) : List Nat :=
  (if modifiers.shift then [vkeyShift] else []) ++
    (if modifiers.ctrl then [vkeyControl] else []) ++
      (if modifiers.alt then [vkeyMenu] else [])

/-- Modifiers asked for by the packet that are not pressed. -/
def syntheticModifiers (packet : KeyboardPacket) (flags : SyntheticModifiers) :
    SyntheticModifiers :=
  if packet.release || isModifier (packet.keyCode % 256) then {}
  else
    { shift := !flags.shift && packet.modifiers &&& modifierShift ≠ 0
      ctrl := !flags.ctrl && packet.modifiers &&& modifierCtrl ≠ 0
      alt := !flags.alt && packet.modifiers &&& modifierAlt ≠ 0 }

def sendKeyAndModifiers (config : InputConfig) (keyCode : Nat) (release : Bool) (flags : Nat)
    (modifiers : SyntheticModifiers) : List PressCall :=
  let main := [.keyboardUpdate (mapKeycode config keyCode) release flags]
  if release then main
  else
    modifiers.keys.map (.keyboardUpdate · false flags) ++ main ++
      modifiers.keys.map (.keyboardUpdate · true flags)

namespace Pressed

def press (button : Nat) (pressed : Bool) (input : Pressed) : Pressed :=
  { input with
    mousePress := fun other => if other = button then pressed else input.mousePress other }

def send (calls : List PressCall) (input : Pressed) : Pressed :=
  { input with calls := input.calls ++ calls }

/-- The end of the button handler: the left button's release may be delayed, and
a right click during that delay is sent whole. -/
def sendButton (button : Nat) (release : Bool) (input : Pressed) : Pressed :=
  if button = buttonLeft ∧ release = true ∧ input.mouseLeftButtonTimeout = .enabled then
    { input with
      leftReleases := input.leftReleases ++ [input.nextTask]
      mouseLeftButtonTimeout := .task input.nextTask
      nextTask := input.nextTask + 1 }
  else match input.mouseLeftButtonTimeout with
    | .task _ =>
        if button = buttonRight ∧ release = false then
          (input.send [.buttonMouse buttonRight false, .buttonMouse buttonRight true]).press
            buttonRight false
        else input.send [.buttonMouse button release]
    | _ => input.send [.buttonMouse button release]

def mouseButton (config : InputConfig) (packet : MouseButtonPacket) (input : Pressed) : Pressed :=
  if !config.mouse then input
  else if 0 < packet.button ∧ packet.button < mousePressSize then
    if input.mousePress packet.button ≠ packet.release then input
    else (input.press packet.button (!packet.release)).sendButton packet.button packet.release
  else input.sendButton packet.button packet.release

/-- The task that releases the left button. -/
def leftRelease (task : Nat) (input : Pressed) : Pressed :=
  if task ∉ input.leftReleases then input
  else
    let fired := { input with leftReleases := input.leftReleases.erase task }
    if input.mousePress buttonLeft then fired
    else
      { (fired.send [.buttonMouse buttonLeft true]).press buttonLeft false with
        mouseLeftButtonTimeout := .enabled }

def scheduleRepeat (keyCode flags : Nat) (modifiers : SyntheticModifiers) (input : Pressed) :
    Pressed :=
  { input with
    keyRepeats := input.keyRepeats ++ [{ task := input.nextTask, keyCode, flags, modifiers }]
    keyPressRepeatId := some input.nextTask
    nextTask := input.nextTask + 1 }

def cancelRepeat (input : Pressed) : Pressed :=
  { input with
    keyRepeats := input.keyRepeats.filter fun repeated =>
      some repeated.task ≠ input.keyPressRepeatId }

def repeatKey (config : InputConfig) (task : Nat) (input : Pressed) : Pressed :=
  match input.keyRepeats.find? (·.task = task) with
  | none => input
  | some repeated =>
      let fired := { input with keyRepeats := input.keyRepeats.erase repeated }
      if { keyCode := repeated.keyCode, flags := repeated.flags } ∉ input.keyPress then
        { fired with keyPressRepeatId := none }
      else
        let calls :=
          sendKeyAndModifiers config repeated.keyCode false repeated.flags repeated.modifiers
        (fired.send calls).scheduleRepeat repeated.keyCode repeated.flags repeated.modifiers

def keyboard (config : InputConfig) (packet : KeyboardPacket) (input : Pressed) : Pressed :=
  let keyCode := packet.keyCode % 256
  let id : KeyPressId := { keyCode, flags := packet.flags }
  let modifiers := syntheticModifiers packet input.shortcutFlags
  let sent (input : Pressed) : Pressed :=
    { input.send (sendKeyAndModifiers config keyCode packet.release packet.flags modifiers) with
      shortcutFlags :=
        updateShortcutFlags (mapKeycode config keyCode) packet.release input.shortcutFlags }
  if !config.keyboard then input
  else if id ∈ input.keyPress then
    if packet.release then sent { input with keyPress := input.keyPress.filter (· ≠ id) }
    else input
  else if packet.release then input
  else if input.shortcutFlags = { shift := true, ctrl := true, alt := true } ∧
      applyShortcut keyCode then
    input
  else
    let cancelled := input.cancelRepeat
    let repeating :=
      if config.keyRepeat then cancelled.scheduleRepeat keyCode packet.flags modifiers
      else cancelled
    sent { repeating with keyPress := id :: input.keyPress }

def reset (input : Pressed) : Pressed :=
  { input.cancelRepeat with
    leftReleases := input.leftReleases.filter fun task =>
      .task task ≠ input.mouseLeftButtonTimeout
    resetTasks := input.resetTasks + 1 }

/-- The task of `reset`. -/
def resetTask (input : Pressed) : Pressed :=
  if input.resetTasks = 0 then input
  else
    let buttons := (List.range mousePressSize).filter input.mousePress
    { input with
      mousePress := fun button => if button < mousePressSize then false else input.mousePress button
      keyPress := []
      resetTasks := input.resetTasks - 1
      calls := input.calls ++ buttons.map (.buttonMouse · true) ++
        input.keyPress.map fun id => .keyboardUpdate (id.keyCode % 256) true id.flags }

def step (config : InputConfig) : InputEvent → Pressed → Pressed
  | .mouseButton packet, input => input.mouseButton config packet
  | .keyboard packet, input => input.keyboard config packet
  | .relMouseMove, input =>
      if config.mouse then { input with mouseLeftButtonTimeout := .disabled } else input
  | .absMouseMove, input =>
      if config.mouse && input.mouseLeftButtonTimeout = .disabled then
        { input with mouseLeftButtonTimeout := .enabled }
      else input
  | .leftRelease task, input => input.leftRelease task
  | .repeatKey task, input => input.repeatKey config task
  | .reset, input => input.reset
  | .resetTask, input => input.resetTask

def strokes (input : Pressed) : List (Stroke Target) :=
  input.calls.map PressCall.stroke

@[simp] theorem strokes_send (calls : List PressCall) (input : Pressed) :
    (input.send calls).strokes = input.strokes ++ calls.map PressCall.stroke := by
  simp [strokes, send]

end Pressed

end UmbraHost.Input
