import Mathlib.Data.Int.Basic
import Mathlib.Algebra.Group.Nat.Defs
import Mathlib.Algebra.Group.Int.Defs

/-! # Input packets

The validated packets of `input.cpp`, in host byte order and with the fields
that batching and the handlers look at, and `batch`, which merges a later packet
of the queue into an earlier one. -/

namespace UmbraHost.Input

inductive TouchEvent where
  | hover
  | down
  | up
  | move
  | cancel
  | buttonOnly
  | hoverLeave
  | cancelAll
deriving DecidableEq, Repr

/-- `LI_TOUCH_EVENT_MOVE` and `LI_TOUCH_EVENT_HOVER`. -/
def TouchEvent.moves : TouchEvent → Bool
  | .move | .hover => true
  | _ => false

structure MouseButtonPacket where
  button : Nat
  release : Bool
deriving DecidableEq, Repr

structure KeyboardPacket where
  keyCode : Nat
  release : Bool
  flags : Nat := 0
  modifiers : Nat := 0
deriving DecidableEq, Repr

structure MultiControllerPacket where
  activeGamepadMask : Nat
  controllerNumber : Nat
  buttonFlags : Nat
  buttonFlags2 : Nat
deriving DecidableEq, Repr

structure TouchPacket where
  eventType : TouchEvent
  pointerId : Nat
deriving DecidableEq, Repr

structure PenPacket where
  eventType : TouchEvent
  penButtons : Nat
  toolType : Nat
deriving DecidableEq, Repr

structure ControllerTouchPacket where
  controllerNumber : Nat
  eventType : TouchEvent
  pointerId : Nat
deriving DecidableEq, Repr

structure ControllerMotionPacket where
  controllerNumber : Nat
  motionType : Nat
deriving DecidableEq, Repr

inductive Packet where
  | relMouseMove (deltaX deltaY : Int16)
  | absMouseMove (width height : Nat)
  | mouseButton (packet : MouseButtonPacket)
  | scroll (amount : Int16)
  | hscroll (amount : Int16)
  | keyboard (packet : KeyboardPacket)
  | unicode
  | multiController (packet : MultiControllerPacket)
  | touch (packet : TouchPacket)
  | pen (packet : PenPacket)
  | controllerArrival
  | controllerTouch (packet : ControllerTouchPacket)
  | controllerMotion (packet : ControllerMotionPacket)
  | controllerBattery
deriving DecidableEq, Repr

/-! ## Batching -/

inductive BatchResult where
  | batched (dest : Packet)
  | notBatchable
  | terminateBatch
deriving DecidableEq, Repr

/-- `__builtin_add_overflow` on 16-bit integers: the flag it returns. -/
def addOverflow (left right : Int16) : Bool :=
  (left + right).toInt ≠ left.toInt + right.toInt

/-- The guards are the source's: the batch ends unless the builtin reports an
overflow. -/
def batchRelMouseMove (destX destY srcX srcY : Int16) : BatchResult :=
  if !addOverflow destX srcX then .terminateBatch
  else if !addOverflow destY srcY then .terminateBatch
  else .batched (.relMouseMove (destX + srcX) (destY + srcY))

def batchScroll (axis : Int16 → Packet) (dest src : Int16) : BatchResult :=
  if !addOverflow dest src then .terminateBatch else .batched (axis (dest + src))

def batchMultiController (dest src : MultiControllerPacket) : BatchResult :=
  if dest.activeGamepadMask ≠ src.activeGamepadMask then .terminateBatch
  else if dest.controllerNumber ≠ src.controllerNumber then .notBatchable
  else if dest.buttonFlags ≠ src.buttonFlags ∨ dest.buttonFlags2 ≠ src.buttonFlags2 then
    .terminateBatch
  else .batched (.multiController src)

def batchTouch (dest src : TouchPacket) : BatchResult :=
  if !dest.eventType.moves || !src.eventType.moves then .terminateBatch
  else if dest.pointerId ≠ src.pointerId then .notBatchable
  else if dest.eventType ≠ src.eventType then .terminateBatch
  else .batched (.touch src)

def batchPen (dest src : PenPacket) : BatchResult :=
  if !dest.eventType.moves || dest.eventType ≠ src.eventType then .terminateBatch
  else if dest.penButtons ≠ src.penButtons ∨ dest.toolType ≠ src.toolType then .terminateBatch
  else .batched (.pen src)

def batchControllerTouch (dest src : ControllerTouchPacket) : BatchResult :=
  if !dest.eventType.moves then .terminateBatch
  else if dest.controllerNumber ≠ src.controllerNumber then .notBatchable
  else if !src.eventType.moves then .terminateBatch
  else if dest.pointerId ≠ src.pointerId then .notBatchable
  else if dest.eventType ≠ src.eventType then .terminateBatch
  else .batched (.controllerTouch src)

def batchControllerMotion (dest src : ControllerMotionPacket) : BatchResult :=
  if dest.controllerNumber ≠ src.controllerNumber ∨ dest.motionType ≠ src.motionType then
    .notBatchable
  else .batched (.controllerMotion src)

def batch : Packet → Packet → BatchResult
  | .relMouseMove destX destY, .relMouseMove srcX srcY => batchRelMouseMove destX destY srcX srcY
  | .absMouseMove destWidth destHeight, .absMouseMove srcWidth srcHeight =>
      if destWidth ≠ srcWidth ∨ destHeight ≠ srcHeight then .terminateBatch
      else .batched (.absMouseMove srcWidth srcHeight)
  | .scroll dest, .scroll src => batchScroll .scroll dest src
  | .hscroll dest, .hscroll src => batchScroll .hscroll dest src
  | .multiController dest, .multiController src => batchMultiController dest src
  | .touch dest, .touch src => batchTouch dest src
  | .pen dest, .pen src => batchPen dest src
  | .controllerTouch dest, .controllerTouch src => batchControllerTouch dest src
  | .controllerMotion dest, .controllerMotion src => batchControllerMotion dest src
  | _, _ => .terminateBatch

/-! ## Relative amounts -/

inductive Axis where
  | mouseX
  | mouseY
  | vertical
  | horizontal
deriving DecidableEq, Repr

/-- What a packet asks for on an axis. -/
def Packet.amount : Axis → Packet → Int
  | .mouseX, .relMouseMove deltaX _ => deltaX.toInt
  | .mouseY, .relMouseMove _ deltaY => deltaY.toInt
  | .vertical, .scroll amount => amount.toInt
  | .horizontal, .hscroll amount => amount.toInt
  | _, _ => 0

/-- Two packets whose merged amounts do not fit into 16 bits. -/
def Overflows : Packet → Packet → Prop
  | .relMouseMove destX destY, .relMouseMove srcX srcY =>
      addOverflow destX srcX ∧ addOverflow destY srcY
  | .scroll dest, .scroll src => addOverflow dest src
  | .hscroll dest, .hscroll src => addOverflow dest src
  | _, _ => False

def Packet.relative : Packet → Bool
  | .relMouseMove _ _ | .scroll _ | .hscroll _ => true
  | _ => false

theorem Overflows.relative {dest src : Packet} (overflow : Overflows dest src) :
    dest.relative = true := by
  cases dest <;> first | rfl | (cases src <;> exact overflow.elim)

theorem Packet.amount_of_not_relative {packet : Packet} (still : packet.relative = false)
    (axis : Axis) : packet.amount axis = 0 := by
  cases packet <;> cases axis <;> first | rfl | cases still

theorem batchTouch_merged {dest src : TouchPacket} {merged : Packet}
    (result : batchTouch dest src = .batched merged) : merged = .touch src := by
  unfold batchTouch at result
  split at result <;> [cases result; skip]
  split at result <;> [cases result; skip]
  split at result <;> cases result
  rfl

theorem batchControllerTouch_merged {dest src : ControllerTouchPacket} {merged : Packet}
    (result : batchControllerTouch dest src = .batched merged) :
    merged = .controllerTouch src := by
  unfold batchControllerTouch at result
  split at result <;> [cases result; skip]
  split at result <;> [cases result; skip]
  split at result <;> [cases result; skip]
  split at result <;> [cases result; skip]
  split at result <;> cases result
  rfl

theorem batchMultiController_merged {dest src : MultiControllerPacket} {merged : Packet}
    (result : batchMultiController dest src = .batched merged) : merged = .multiController src := by
  unfold batchMultiController at result
  split at result <;> [cases result; skip]
  split at result <;> [cases result; skip]
  split at result <;> cases result
  rfl

theorem batchPen_merged {dest src : PenPacket} {merged : Packet}
    (result : batchPen dest src = .batched merged) : merged = .pen src := by
  unfold batchPen at result
  split at result <;> [cases result; skip]
  split at result <;> cases result
  rfl

theorem batchScroll_overflow {axis : Int16 → Packet} {dest src : Int16} {merged : Packet}
    (result : batchScroll axis dest src = .batched merged) : addOverflow dest src = true := by
  unfold batchScroll at result
  split at result
  · cases result
  · rename_i overflow
    simpa using overflow

theorem batchRelMouseMove_overflow {destX destY srcX srcY : Int16} {merged : Packet}
    (result : batchRelMouseMove destX destY srcX srcY = .batched merged) :
    addOverflow destX srcX = true ∧ addOverflow destY srcY = true := by
  unfold batchRelMouseMove at result
  split at result
  · cases result
  · rename_i overflowX
    split at result
    · cases result
    · rename_i overflowY
      exact ⟨by simpa using overflowX, by simpa using overflowY⟩

/-- A batch of relative amounts is one that overflows. -/
theorem batch_cases {dest src merged : Packet} (result : batch dest src = .batched merged) :
    Overflows dest src ∨
      dest.relative = false ∧ src.relative = false ∧ merged.relative = false := by
  unfold batch at result
  split at result
  · exact .inl (batchRelMouseMove_overflow result)
  · split at result <;> cases result
    exact .inr ⟨rfl, rfl, rfl⟩
  · exact .inl (batchScroll_overflow result)
  · exact .inl (batchScroll_overflow result)
  · cases batchMultiController_merged result
    exact .inr ⟨rfl, rfl, rfl⟩
  · cases batchTouch_merged result
    exact .inr ⟨rfl, rfl, rfl⟩
  · cases batchPen_merged result
    exact .inr ⟨rfl, rfl, rfl⟩
  · cases batchControllerTouch_merged result
    exact .inr ⟨rfl, rfl, rfl⟩
  · unfold batchControllerMotion at result
    split at result <;> cases result
    exact .inr ⟨rfl, rfl, rfl⟩
  · cases result

/-- Relative packets are never passed over. -/
theorem batch_relative {dest : Packet} (src : Packet) (relative : dest.relative = true) :
    batch dest src = .terminateBatch ∨ ∃ merged, batch dest src = .batched merged := by
  cases found : batch dest src with
  | terminateBatch => exact .inl rfl
  | batched merged => exact .inr ⟨merged, rfl⟩
  | notBatchable =>
      exfalso
      cases dest <;> cases relative <;> cases src <;>
        simp only [batch, batchRelMouseMove, batchScroll, reduceCtorEq] at found <;>
        grind

end UmbraHost.Input
