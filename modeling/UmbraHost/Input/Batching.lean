import UmbraHost.Input.MessageQueue

/-! # Batching by device

What `batch` does with two packets, told by the message type and the logical device that
they are about, and the scan of `passthrough_next_message` over numbered packets. -/

namespace UmbraHost.Input

/-- The message types. -/
inductive Magic where
  | mouseMoveRel
  | mouseMoveAbs
  | mouseButtonDown
  | mouseButtonUp
  | scroll
  | hscroll
  | keyDown
  | keyUp
  | utf8Text
  | multiController
  | touch
  | pen
  | controllerArrival
  | controllerTouch
  | controllerMotion
  | controllerBattery
deriving DecidableEq, Repr

def Packet.magic : Packet → Magic
  | .relMouseMove _ _ => .mouseMoveRel
  | .absMouseMove _ _ => .mouseMoveAbs
  | .mouseButton packet => if packet.release then .mouseButtonUp else .mouseButtonDown
  | .scroll _ => .scroll
  | .hscroll _ => .hscroll
  | .keyboard packet => if packet.release then .keyUp else .keyDown
  | .unicode => .utf8Text
  | .multiController _ => .multiController
  | .touch _ => .touch
  | .pen _ => .pen
  | .controllerArrival => .controllerArrival
  | .controllerTouch _ => .controllerTouch
  | .controllerMotion _ => .controllerMotion
  | .controllerBattery => .controllerBattery

/-- The logical devices. -/
inductive Device where
  | absMouse
  | controller (controllerNumber : Nat)
  | pointer (pointerId : Nat)
  | pen
  | controllerPointer (controllerNumber pointerId : Nat)
  | sensor (controllerNumber motionType : Nat)
deriving DecidableEq, Repr

def Packet.device : Packet → Option Device
  | .absMouseMove _ _ => some .absMouse
  | .multiController packet => some (.controller packet.controllerNumber)
  | .touch packet => some (.pointer packet.pointerId)
  | .pen _ => some .pen
  | .controllerTouch packet => some (.controllerPointer packet.controllerNumber packet.pointerId)
  | .controllerMotion packet => some (.sensor packet.controllerNumber packet.motionType)
  | _ => none

/-- Updates of one device that leave its state as it is. -/
def SameUpdate : Packet → Packet → Prop
  | .absMouseMove width height, .absMouseMove width' height' => width = width' ∧ height = height'
  | .multiController packet, .multiController next =>
      packet.controllerNumber = next.controllerNumber ∧
        packet.activeGamepadMask = next.activeGamepadMask ∧
        packet.buttonFlags = next.buttonFlags ∧ packet.buttonFlags2 = next.buttonFlags2
  | .touch packet, .touch next =>
      packet.pointerId = next.pointerId ∧ packet.eventType.moves = true ∧
        packet.eventType = next.eventType
  | .pen packet, .pen next =>
      packet.eventType.moves = true ∧ packet.eventType = next.eventType ∧
        packet.penButtons = next.penButtons ∧ packet.toolType = next.toolType
  | .controllerTouch packet, .controllerTouch next =>
      packet.controllerNumber = next.controllerNumber ∧ packet.pointerId = next.pointerId ∧
        packet.eventType.moves = true ∧ packet.eventType = next.eventType
  | .controllerMotion packet, .controllerMotion next =>
      packet.controllerNumber = next.controllerNumber ∧ packet.motionType = next.motionType
  | _, _ => False

theorem SameUpdate.device {packet next : Packet} (same : SameUpdate packet next) :
    packet.device = next.device := by
  unfold SameUpdate at same
  split at same
  · rfl
  · rw [Packet.device, Packet.device, same.1]
  · rw [Packet.device, Packet.device, same.1]
  · rfl
  · rw [Packet.device, Packet.device, same.1, same.2.1]
  · rw [Packet.device, Packet.device, same.1, same.2]
  · exact same.elim

theorem Packet.device_of_relative {packet : Packet} (relative : packet.relative = true) :
    packet.device = none := by
  cases packet <;> first | rfl | cases relative

/-! ## The outcomes of a batching attempt -/

/-- What a merge says about the two packets. -/
structure Merges (dest src merged : Packet) : Prop where
  magic : dest.magic = src.magic
  kept : merged.magic = dest.magic
  latest : dest.relative = false → SameUpdate dest src ∧ merged = src
  sum : dest.relative = true → src.relative = true ∧ merged.relative = true

theorem Merges.of_sameUpdate {dest src : Packet} (magic : dest.magic = src.magic)
    (still : dest.relative = false) (same : SameUpdate dest src) : Merges dest src src where
  magic := magic
  kept := magic.symm
  latest _ := ⟨same, rfl⟩
  sum relative := absurd (still.symm.trans relative) (by decide)

theorem batchMultiController_same {dest src : MultiControllerPacket} {merged : Packet}
    (result : batchMultiController dest src = .batched merged) :
    SameUpdate (.multiController dest) (.multiController src) := by
  unfold batchMultiController at result
  split at result <;> [cases result; skip]
  rename_i mask
  split at result <;> [cases result; skip]
  rename_i number
  split at result <;> [cases result; skip]
  rename_i buttons
  rw [not_or] at buttons
  exact ⟨not_not.mp number, not_not.mp mask, not_not.mp buttons.1, not_not.mp buttons.2⟩

theorem batchTouch_same {dest src : TouchPacket} {merged : Packet}
    (result : batchTouch dest src = .batched merged) : SameUpdate (.touch dest) (.touch src) := by
  unfold batchTouch at result
  split at result <;> [cases result; skip]
  rename_i moves
  split at result <;> [cases result; skip]
  rename_i pointer
  split at result <;> [cases result; skip]
  rename_i event
  simp only [Bool.or_eq_true, Bool.not_eq_true', not_or, Bool.not_eq_false] at moves
  exact ⟨not_not.mp pointer, moves.1, not_not.mp event⟩

theorem batchPen_same {dest src : PenPacket} {merged : Packet}
    (result : batchPen dest src = .batched merged) : SameUpdate (.pen dest) (.pen src) := by
  unfold batchPen at result
  split at result <;> [cases result; skip]
  rename_i event
  split at result <;> [cases result; skip]
  rename_i state
  simp only [Bool.or_eq_true, Bool.not_eq_true', not_or, Bool.not_eq_false,
    decide_eq_true_eq] at event
  rw [not_or] at state
  exact ⟨event.1, not_not.mp event.2, not_not.mp state.1, not_not.mp state.2⟩

theorem batchControllerTouch_same {dest src : ControllerTouchPacket} {merged : Packet}
    (result : batchControllerTouch dest src = .batched merged) :
    SameUpdate (.controllerTouch dest) (.controllerTouch src) := by
  unfold batchControllerTouch at result
  split at result <;> [cases result; skip]
  rename_i moves
  split at result <;> [cases result; skip]
  rename_i number
  split at result <;> [cases result; skip]
  split at result <;> [cases result; skip]
  rename_i pointer
  split at result <;> [cases result; skip]
  rename_i event
  exact ⟨not_not.mp number, not_not.mp pointer, by simpa using moves, not_not.mp event⟩

theorem batchControllerMotion_same {dest src : ControllerMotionPacket} {merged : Packet}
    (result : batchControllerMotion dest src = .batched merged) :
    SameUpdate (.controllerMotion dest) (.controllerMotion src) ∧
      merged = .controllerMotion src := by
  unfold batchControllerMotion at result
  split at result <;> [cases result; skip]
  rename_i sensor
  rw [not_or] at sensor
  cases result
  exact ⟨⟨not_not.mp sensor.1, not_not.mp sensor.2⟩, rfl⟩

theorem batch_merges {dest src merged : Packet} (result : batch dest src = .batched merged) :
    Merges dest src merged := by
  unfold batch at result
  split at result
  · unfold batchRelMouseMove at result
    split at result <;> [cases result; skip]
    split at result <;> cases result
    exact ⟨rfl, rfl, nofun, fun _ => ⟨rfl, rfl⟩⟩
  · split at result <;> [cases result; skip]
    rename_i size
    rw [not_or] at size
    cases result
    exact .of_sameUpdate rfl rfl ⟨not_not.mp size.1, not_not.mp size.2⟩
  · unfold batchScroll at result
    split at result <;> cases result
    exact ⟨rfl, rfl, nofun, fun _ => ⟨rfl, rfl⟩⟩
  · unfold batchScroll at result
    split at result <;> cases result
    exact ⟨rfl, rfl, nofun, fun _ => ⟨rfl, rfl⟩⟩
  · obtain rfl := batchMultiController_merged result
    exact .of_sameUpdate rfl rfl (batchMultiController_same result)
  · obtain rfl := batchTouch_merged result
    exact .of_sameUpdate rfl rfl (batchTouch_same result)
  · obtain rfl := batchPen_merged result
    exact .of_sameUpdate rfl rfl (batchPen_same result)
  · obtain rfl := batchControllerTouch_merged result
    exact .of_sameUpdate rfl rfl (batchControllerTouch_same result)
  · obtain ⟨same, rfl⟩ := batchControllerMotion_same result
    exact .of_sameUpdate rfl rfl same
  · cases result

/-- A packet that is passed over has the same type and is about another device. -/
theorem batch_passes {dest src : Packet} (result : batch dest src = .notBatchable) :
    dest.magic = src.magic ∧ dest.device ≠ src.device := by
  unfold batch at result
  split at result
  · unfold batchRelMouseMove at result
    split at result <;> [cases result; (split at result <;> cases result)]
  · split at result <;> cases result
  · unfold batchScroll at result
    split at result <;> cases result
  · unfold batchScroll at result
    split at result <;> cases result
  · rename_i dest src
    unfold batchMultiController at result
    split at result <;> [cases result; skip]
    split at result
    · rename_i number
      refine ⟨rfl, fun same => number ?_⟩
      exact Device.controller.inj (Option.some.inj same)
    · split at result <;> cases result
  · rename_i dest src
    unfold batchTouch at result
    split at result <;> [cases result; skip]
    split at result
    · rename_i pointer
      refine ⟨rfl, fun same => pointer ?_⟩
      exact Device.pointer.inj (Option.some.inj same)
    · split at result <;> cases result
  · unfold batchPen at result
    split at result <;> [cases result; (split at result <;> cases result)]
  · rename_i dest src
    unfold batchControllerTouch at result
    split at result <;> [cases result; skip]
    split at result
    · rename_i number
      refine ⟨rfl, fun same => number ?_⟩
      exact (Device.controllerPointer.inj (Option.some.inj same)).1
    split at result <;> [cases result; skip]
    split at result
    · rename_i pointer
      refine ⟨rfl, fun same => pointer ?_⟩
      exact (Device.controllerPointer.inj (Option.some.inj same)).2
    · split at result <;> cases result
  · rename_i dest src
    unfold batchControllerMotion at result
    split at result
    · rename_i sensor
      refine ⟨rfl, fun same => ?_⟩
      have alike := Device.sensor.inj (Option.some.inj same)
      exact sensor.elim (fun differs => differs alike.1) (fun differs => differs alike.2)
    · cases result
  · cases result

/-! ## Numbered packets -/

/-- A packet with its place among those that were accepted. -/
structure QueuedPacket where
  index : Nat
  packet : Packet
deriving DecidableEq, Repr

namespace QueuedPacket

def magic (queued : QueuedPacket) : Magic := queued.packet.magic

def isFor (device : Device) (queued : QueuedPacket) : Bool := queued.packet.device = some device

/-- A merge takes the later packet as it is, except that amounts are added in place. -/
def merge (dest src : QueuedPacket) (merged : Packet) : QueuedPacket :=
  { index := if dest.packet.relative then dest.index else src.index, packet := merged }

theorem merge_latest {dest src : QueuedPacket} {merged : Packet}
    (merges : Merges dest.packet src.packet merged) (still : dest.packet.relative = false) :
    dest.merge src merged = src := by
  rw [merge, (merges.latest still).2, still]
  rfl

end QueuedPacket

/-- The scan of the queue with the packet being sent. -/
def scan (dest : QueuedPacket) : List QueuedPacket → QueuedPacket × List QueuedPacket
  | [] => (dest, [])
  | src :: rest =>
      match batch dest.packet src.packet with
      | .terminateBatch => (dest, src :: rest)
      | .batched merged => scan (dest.merge src merged) rest
      | .notBatchable => ((scan dest rest).1, src :: (scan dest rest).2)

/-- Without the numbers it is the scan of the packets. -/
theorem scan_packets (dest : QueuedPacket) (rest : List QueuedPacket) :
    ((scan dest rest).1.packet, (scan dest rest).2.map QueuedPacket.packet) =
      batchAll dest.packet (rest.map QueuedPacket.packet) := by
  induction rest generalizing dest with
  | nil => rfl
  | cons src rest ih =>
      cases result : batch dest.packet src.packet with
      | terminateBatch => simp only [scan, batchAll, result, List.map_cons]
      | batched merged =>
          simp only [scan, batchAll, result, List.map_cons]
          exact ih (dest.merge src merged)
      | notBatchable =>
          simp only [scan, batchAll, result, List.map_cons, ← ih dest]

theorem scan_sublist (dest : QueuedPacket) (rest : List QueuedPacket) :
    (scan dest rest).2.Sublist rest := by
  induction rest generalizing dest with
  | nil => exact .refl _
  | cons src rest ih =>
      cases result : batch dest.packet src.packet with
      | terminateBatch =>
          simp only [scan, result]
          exact .refl _
      | batched merged =>
          simp only [scan, result]
          exact (ih _).cons src
      | notBatchable =>
          simp only [scan, result]
          exact (ih dest).cons_cons src

end UmbraHost.Input
