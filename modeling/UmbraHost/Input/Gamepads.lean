import UmbraHost.Input.Packets
import UmbraHost.Tables.Holders
import UmbraHost.Transition.Run

/-! # Gamepads of all sessions

`gamepadMask` of `input.cpp` numbers the gamepads of the host.  The slots of a session take
numbers when a controller arrives and give them back when it goes, at once or, when the session
is destroyed, by a task.  A delayed task presses the home button of whatever is in its slot
then. -/

namespace UmbraHost.Input

open UmbraHost.Tables UmbraHost.Transition

def maxGamepads : Nat := 16

def back : UInt32 := 0x0020

def home : UInt32 := 0x0400

structure GamepadConfig where
  controller : Bool := true
  backButtonTimeout : Int := 2000
deriving DecidableEq, Repr

/-- `platf::gamepad_state_t`. -/
structure GamepadState where
  buttonFlags : UInt32 := 0
  leftTrigger : UInt8 := 0
  rightTrigger : UInt8 := 0
  leftStickX : Int16 := 0
  leftStickY : Int16 := 0
  rightStickX : Int16 := 0
  rightStickY : Int16 := 0
deriving DecidableEq, Repr

def GamepadState.without (button : UInt32) (state : GamepadState) : GamepadState :=
  { state with buttonFlags := state.buttonFlags &&& ~~~button }

def GamepadState.with (button : UInt32) (state : GamepadState) : GamepadState :=
  { state with buttonFlags := state.buttonFlags ||| button }

def GamepadState.has (button : UInt32) (state : GamepadState) : Bool :=
  state.buttonFlags &&& button ≠ 0

/-- `platf::gamepad_arrival_t`. -/
structure GamepadArrival where
  type : Nat := 0
  capabilities : Nat := 0
  supportedButtons : Nat := 0
deriving DecidableEq, Repr

structure ControllerArrivalPacket where
  controllerNumber : Nat
  arrival : GamepadArrival := {}
deriving DecidableEq, Repr

/-- The whole packet of `NV_MULTI_CONTROLLER_PACKET`. -/
structure ControllerStatePacket extends MultiControllerPacket where
  leftTrigger : UInt8 := 0
  rightTrigger : UInt8 := 0
  leftStickX : Int16 := 0
  leftStickY : Int16 := 0
  rightStickX : Int16 := 0
  rightStickY : Int16 := 0
deriving DecidableEq, Repr

def ControllerStatePacket.active (packet : ControllerStatePacket) : Bool :=
  packet.activeGamepadMask.testBit packet.controllerNumber

def ControllerStatePacket.state (packet : ControllerStatePacket) : GamepadState where
  buttonFlags :=
    UInt32.ofNat (packet.buttonFlags % 2 ^ 16) ||| UInt32.ofNat packet.buttonFlags2 <<< 16
  leftTrigger := packet.leftTrigger
  rightTrigger := packet.rightTrigger
  leftStickX := packet.leftStickX
  leftStickY := packet.leftStickY
  rightStickX := packet.rightStickX
  rightStickY := packet.rightStickY

structure ControllerBatteryPacket where
  controllerNumber : Nat
  batteryState : Nat := 0
  batteryPercentage : Nat := 0
deriving DecidableEq, Repr

inductive ButtonState where
  | none
  | down
  | up
deriving DecidableEq, Repr

/-- `gamepad_t`; without a gamepad `id` is -1 in the source. -/
structure Gamepad where
  gamepadState : GamepadState := {}
  backTimeoutId : Option Nat := none
  id : Option Nat := none
  backButtonState : ButtonState := .none
deriving DecidableEq, Repr

structure HomeTask where
  task : Nat
  session : Nat
  controllerNumber : Nat
deriving DecidableEq, Repr

/-- Calls of the platform, and those that change `gamepadMask`. -/
inductive GamepadCall where
  | allocId (id : Nat)
  | freeId (id : Nat)
  | allocGamepad (id controllerNumber : Nat) (arrival : GamepadArrival)
  | freeGamepad (id : Nat)
  | gamepadUpdate (id : Option Nat) (state : GamepadState)
  | gamepadTouch (id : Option Nat) (packet : ControllerTouchPacket)
  | gamepadMotion (id : Option Nat) (packet : ControllerMotionPacket)
  | gamepadBattery (id : Option Nat) (packet : ControllerBatteryPacket)
deriving DecidableEq, Repr

def GamepadCall.marks : GamepadCall → (Nat → Bool) → Nat → Bool
  | .allocId id, mask => Function.update mask id true
  | .freeId id, mask => Function.update mask id false
  | _, mask => mask

structure Gamepads where
  config : GamepadConfig := {}
  gamepadMask : Nat → Bool := fun _ => false
  /-- The slots of each session; none before it is allocated and after it is destroyed. -/
  inputs : Nat → List Gamepad := fun _ => []
  homeTasks : List HomeTask := []
  freeTasks : Nat → Option Nat := fun _ => none
  nextTask : Nat := 0
  calls : List GamepadCall := []

inductive GamepadEvent where
  | applyConfig (config : GamepadConfig)
  | alloc (session : Nat)
  | controllerArrival (session : Nat) (packet : ControllerArrivalPacket) (allocated : Bool)
  | multiController (session : Nat) (packet : ControllerStatePacket) (allocated : Bool)
  | controllerTouch (session : Nat) (packet : ControllerTouchPacket)
  | controllerMotion (session : Nat) (packet : ControllerMotionPacket)
  | controllerBattery (session : Nat) (packet : ControllerBatteryPacket)
  | homeTask (task : Nat)
  | freeTask (task : Nat)
  | destroy (session : Nat)
deriving DecidableEq, Repr

def allocId (mask : Nat → Bool) : Option Nat :=
  (List.range maxGamepads).find? fun id => !mask id

namespace Gamepads

def perform (call : GamepadCall) (state : Gamepads) : Gamepads :=
  { state with
    gamepadMask := call.marks state.gamepadMask
    calls := state.calls ++ [call] }

def gamepad? (session controllerNumber : Nat) (state : Gamepads) : Option Gamepad :=
  (state.inputs session)[controllerNumber]?

def setGamepad (session controllerNumber : Nat) (gamepad : Gamepad) (state : Gamepads) :
    Gamepads :=
  { state with
    inputs :=
      Function.update state.inputs session
        ((state.inputs session).set controllerNumber gamepad) }

/-- The part that both handlers of a new controller share. -/
def createGamepad (session controllerNumber : Nat) (gamepad : Gamepad) (arrival : GamepadArrival)
    (allocated : Bool) (state : Gamepads) : Gamepads :=
  match allocId state.gamepadMask with
  | none => state
  | some id =>
      let tried :=
        (state.perform (.allocId id)).perform (.allocGamepad id controllerNumber arrival)
      if allocated then tried.setGamepad session controllerNumber { gamepad with id := some id }
      else tried.perform (.freeId id)

def controllerArrival (session : Nat) (packet : ControllerArrivalPacket) (allocated : Bool)
    (state : Gamepads) : Gamepads :=
  if !state.config.controller then state
  else match state.gamepad? session packet.controllerNumber with
    | none => state
    | some gamepad =>
        if gamepad.id.isSome then state
        else state.createGamepad session packet.controllerNumber gamepad packet.arrival allocated

/-- Touch, motion and battery packets are passed on for a gamepad that is there. -/
def forward (session controllerNumber : Nat) (call : Option Nat → GamepadCall)
    (state : Gamepads) : Gamepads :=
  if !state.config.controller then state
  else match state.gamepad? session controllerNumber with
    | none => state
    | some gamepad => if gamepad.id.isNone then state else state.perform (call gamepad.id)

/-- `free_gamepad`. -/
def freeGamepad (id : Nat) (state : Gamepads) : Gamepads :=
  ((state.perform (.gamepadUpdate (some id) {})).perform (.freeGamepad id)).perform (.freeId id)

/-- The back button is kept as it was forced until the client agrees. -/
def forceBack (given : GamepadState) (gamepad : Gamepad) : GamepadState × Gamepad :=
  match gamepad.backButtonState with
  | .up =>
      (given.without back,
        if given.has back then gamepad else { gamepad with backButtonState := .none })
  | .down =>
      (given.with back,
        if given.has back then { gamepad with backButtonState := .none } else gamepad)
  | .none => (given, gamepad)

/-- A change of the back button starts or cancels the delayed home button. -/
def delayHome (session controllerNumber : Nat) (sent : GamepadState) (gamepad : Gamepad)
    (state : Gamepads) : Gamepad × Gamepads :=
  if sent.has back = gamepad.gamepadState.has back then (gamepad, state)
  else if sent.has back then
    if 0 ≤ state.config.backButtonTimeout then
      ({ gamepad with backTimeoutId := some state.nextTask },
        { state with
          homeTasks := state.homeTasks ++ [⟨state.nextTask, session, controllerNumber⟩]
          nextTask := state.nextTask + 1 })
    else (gamepad, state)
  else match gamepad.backTimeoutId with
    | none => (gamepad, state)
    | some task =>
        ({ gamepad with backTimeoutId := none },
          { state with homeTasks := state.homeTasks.filter (·.task ≠ task) })

def updateState (session : Nat) (packet : ControllerStatePacket) (state : Gamepads) : Gamepads :=
  match state.gamepad? session packet.controllerNumber with
  | none => state
  | some gamepad =>
      if gamepad.id.isNone then state
      else
        let (sent, forced) := forceBack packet.state gamepad
        let (delayed, state) := state.delayHome session packet.controllerNumber sent forced
        (state.perform (.gamepadUpdate delayed.id sent)).setGamepad session
          packet.controllerNumber { delayed with gamepadState := sent }

def multiController (session : Nat) (packet : ControllerStatePacket) (allocated : Bool)
    (state : Gamepads) : Gamepads :=
  if !state.config.controller then state
  else match state.gamepad? session packet.controllerNumber with
    | none => state
    | some gamepad =>
        match gamepad.id with
        | none =>
            if packet.active then
              (state.createGamepad session packet.controllerNumber gamepad {}
                allocated).updateState session packet
            else state
        | some id =>
            if packet.active then state.updateState session packet
            else
              (state.freeGamepad id).setGamepad session packet.controllerNumber
                { gamepad with id := none }

/-- The delayed task of the home button, which looks its slot up again. -/
def homeTask (task : Nat) (state : Gamepads) : Gamepads :=
  match state.homeTasks.find? (·.task = task) with
  | none => state
  | some pending =>
      let fired := { state with homeTasks := state.homeTasks.erase pending }
      match state.gamepad? pending.session pending.controllerNumber with
      | none => fired
      | some gamepad =>
          let released := gamepad.gamepadState.without back
          let pressed := released.with home
          let lifted := pressed.without home
          (((fired.perform (.gamepadUpdate gamepad.id released)).perform
            (.gamepadUpdate gamepad.id pressed)).perform
              (.gamepadUpdate gamepad.id lifted)).setGamepad pending.session
                pending.controllerNumber
                { gamepad with
                  gamepadState := lifted, backTimeoutId := none, backButtonState := .up }

def freeTask (task : Nat) (state : Gamepads) : Gamepads :=
  match state.freeTasks task with
  | none => state
  | some id =>
      { state with freeTasks := Function.update state.freeTasks task none }.freeGamepad id

/-- `~gamepad_t`; the id goes with the task. -/
def destroyGamepad (session controllerNumber : Nat) (state : Gamepads) : Gamepads :=
  match state.gamepad? session controllerNumber with
  | none => state
  | some gamepad =>
      match gamepad.id with
      | none => state
      | some id =>
          { state.setGamepad session controllerNumber { gamepad with id := none } with
            freeTasks := Function.update state.freeTasks state.nextTask (some id)
            nextTask := state.nextTask + 1 }

def destroyGamepads (session count : Nat) (state : Gamepads) : Gamepads :=
  (List.range count).foldl
    (fun state controllerNumber => state.destroyGamepad session controllerNumber) state

/-- The last reference to a session is released; a delayed task holds one too. -/
def destroy (session : Nat) (state : Gamepads) : Gamepads :=
  if state.homeTasks.any (·.session = session) then state
  else
    let emptied := state.destroyGamepads session (state.inputs session).length
    { emptied with inputs := Function.update emptied.inputs session [] }

/-- `input::alloc`. -/
def alloc (session : Nat) (state : Gamepads) : Gamepads :=
  if state.inputs session = [] then
    { state with
      inputs := Function.update state.inputs session (List.replicate maxGamepads {}) }
  else state

def step : GamepadEvent → Gamepads → Gamepads
  | .applyConfig config, state => { state with config }
  | .alloc session, state => state.alloc session
  | .controllerArrival session packet allocated, state =>
      state.controllerArrival session packet allocated
  | .multiController session packet allocated, state =>
      state.multiController session packet allocated
  | .controllerTouch session packet, state =>
      state.forward session packet.controllerNumber (.gamepadTouch · packet)
  | .controllerMotion session packet, state =>
      state.forward session packet.controllerNumber (.gamepadMotion · packet)
  | .controllerBattery session packet, state =>
      state.forward session packet.controllerNumber (.gamepadBattery · packet)
  | .homeTask task, state => state.homeTask task
  | .freeTask task, state => state.freeTask task
  | .destroy session, state => state.destroy session

end Gamepads

end UmbraHost.Input
