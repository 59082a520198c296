import Mathlib.Data.Finset.Card
import UmbraHost.Transition.Run

/-! # Input surfaces of the AMF encoder

The ring of input textures of `amf_d3d11.cpp`.  The encode thread reserves a slot to render into
or to encode the last picture again; AMF owns it from an accepted submission until it releases
the wrapper of that submission, which it reports once, on any thread and at any time.  Every
section under the mutex is one step.  Whether a texture or a wrapper can be made and whether AMF
accepts a submission is part of the event. -/

namespace UmbraHost.Amf.InputSurfaces

open UmbraHost.Transition

inductive SlotState where
  | free
  | reserved
  | inFlight
deriving DecidableEq, Repr

/-- `generation` counts the reservations of the slot and `freed` how often it became free. -/
structure Slot where
  state : SlotState := .free
  releaseNotified : Bool := false
  frameIndex : Nat := 0
  generation : Nat := 0
  freed : Nat := 0
deriving DecidableEq, Repr

/-- The surface made of a slot's texture in one reservation. -/
structure Wrapper where
  slot : Nat
  generation : Nat
deriving DecidableEq, Repr

def minimumInputSurfaceCount : Nat := 4

def inputSurfaceRingSize : Nat := 34

def initialInputSurfaceCount (lookaheadDepth : Int) : Nat :=
  min (max (minimumInputSurfaceCount + lookaheadDepth.toNat * 2) minimumInputSurfaceCount)
    inputSurfaceRingSize

/-- Where the encode thread is between two sections. -/
inductive Position where
  | idle
  | creatingRender
  | waitingRender
  | creatingRepeat (source : Nat)
  | waitingRepeat (source : Nat)
  | holding (slot : Nat)
  | submitting (slot : Nat)
  | accepted (slot : Nat)
deriving DecidableEq, Repr

/-- The reservation that `encode_frame` has to end. -/
def Position.slot? : Position → Option Nat
  | .holding slot | .submitting slot | .accepted slot => some slot
  | _ => none

structure Ring where
  slots : Nat → Slot := fun _ => {}
  activeInputSurfaceCount : Nat := minimumInputSurfaceCount
  nextInputSurfaceSlot : Nat := 0
  preparedInputSurfaceSlot : Option Nat := none
  lastRenderedInputSurfaceSlot : Option Nat := none
  inputSurfacesInFlight : Nat := 0
  outputFatal : Bool := false
  position : Position := .idle
  /-- Wrappers whose release AMF has not reported. -/
  wrappers : List Wrapper := []
  /-- Wrappers that AMF has accepted. -/
  accepted : List Wrapper := []

inductive RingEvent where
  | acquireInputTextureForRender
  | cancelInputTextureForRender
  | encodeFrame
  | textureCreated (created : Bool)
  | woken
  | createSurface (created : Bool)
  | giveUp
  | submitInput (accepted : Bool)
  | commit (frameIndex : Nat)
  | surfaceDataRelease (wrapper : Wrapper)
  | fatal
deriving DecidableEq, Repr

namespace Slot

def reserve (frameIndex : Nat) (slot : Slot) : Slot :=
  { slot with
    state := .reserved, releaseNotified := false, frameIndex
    generation := slot.generation + 1 }

def free (slot : Slot) : Slot :=
  { slot with state := .free, frameIndex := 0, freed := slot.freed + 1 }

/-- The end of a reservation that AMF did not accept. -/
def giveUp (slot : Slot) : Slot :=
  if slot.state = .reserved then slot.free else slot

/-- `on_surface_released`; the flag says whether the slot became reusable. -/
def onSurfaceReleased (slot : Slot) : Bool × Slot :=
  let notified := { slot with releaseNotified := true }
  if slot.state = .inFlight then (true, notified.free) else (false, notified)

/-- `on_input_accepted`; the flag says whether AMF has released the surface already. -/
def onInputAccepted (frameIndex : Nat) (slot : Slot) : Bool × Slot :=
  let submitted := { slot with state := .inFlight, frameIndex }
  if slot.releaseNotified then (true, submitted.free) else (false, submitted)

end Slot

namespace Ring

/-- The state of `create_encoder`. -/
def created (lookaheadDepth : Int) : Ring :=
  { activeInputSurfaceCount := initialInputSurfaceCount lookaheadDepth }

def setSlot (index : Nat) (slot : Slot) (ring : Ring) : Ring :=
  { ring with slots := Function.update ring.slots index slot }

def isFree (ring : Ring) (index : Nat) : Bool := (ring.slots index).state = .free

/-- The first free slot of the first `count`, from the next one on. -/
def freeFrom (count : Nat) (ring : Ring) : Option Nat :=
  ((List.range count).map fun offset => (ring.nextInputSurfaceSlot + offset) % count).find?
    ring.isFree

def findFreeSlot (ring : Ring) : Option Nat := ring.freeFrom ring.activeInputSurfaceCount

/-- `select_repeat_surface`. -/
def selectRepeatSurface (source : Nat) (ring : Ring) : Option Nat :=
  let count := min (max ring.activeInputSurfaceCount 1) inputSurfaceRingSize
  if count ≤ source then none
  else if ring.isFree source then some source
  else ring.freeFrom count

def mayExpand (ring : Ring) : Bool :=
  !ring.outputFatal && ring.activeInputSurfaceCount < inputSurfaceRingSize

def reserve (index frameIndex : Nat) (ring : Ring) : Ring :=
  { ring.setSlot index ((ring.slots index).reserve frameIndex) with
    nextInputSurfaceSlot := (index + 1) % ring.activeInputSurfaceCount }

/-- The end of `acquire_input_texture_for_render`. -/
def finishRender (found : Option Nat) (ring : Ring) : Ring :=
  match found with
  | none => { ring with position := .idle }
  | some index =>
      if ring.outputFatal then { ring with position := .idle }
      else
        { ring.reserve index 0 with
          preparedInputSurfaceSlot := some index
          position := .idle }

/-- The end of the slot selection of `encode_frame` for a repeated picture. -/
def finishRepeat (found : Option Nat) (ring : Ring) : Ring :=
  if ring.outputFatal then { ring with position := .idle }
  else match found with
    | none => { ring with position := .idle }
    | some index =>
        { ring.reserve index (ring.slots index).frameIndex with
          lastRenderedInputSurfaceSlot := some index
          position := .holding index }

def acquireInputTextureForRender (ring : Ring) : Ring :=
  if ring.preparedInputSurfaceSlot.isSome then ring
  else match ring.findFreeSlot with
    | some index => ring.finishRender (some index)
    | none =>
        if ring.mayExpand then { ring with position := .creatingRender }
        else { ring with position := .waitingRender }

def cancelInputTextureForRender (ring : Ring) : Ring :=
  match ring.preparedInputSurfaceSlot with
  | none => ring
  | some index =>
      { ring.setSlot index (ring.slots index).giveUp with preparedInputSurfaceSlot := none }

/-- The slot selection of `encode_frame`. -/
def encodeFrame (ring : Ring) : Ring :=
  if ring.outputFatal then ring
  else match ring.preparedInputSurfaceSlot with
    | some index =>
        { ring with
          preparedInputSurfaceSlot := none
          lastRenderedInputSurfaceSlot := some index
          position := .holding index }
    | none =>
        match ring.lastRenderedInputSurfaceSlot with
        | none => ring
        | some source =>
            match ring.selectRepeatSurface source with
            | some index => ring.finishRepeat (some index)
            | none =>
                if ring.mayExpand then { ring with position := .creatingRepeat source }
                else { ring with position := .waitingRepeat source }

/-- A texture was made without the mutex: the slots are looked at again, and the ring grows only
if none is free. -/
def textureCreated (created : Bool) (ring : Ring) : Ring :=
  let grown :=
    { ring with activeInputSurfaceCount := ring.activeInputSurfaceCount + 1 }
  match ring.position with
  | .creatingRender =>
      match ring.findFreeSlot with
      | some index => ring.finishRender (some index)
      | none =>
          if created && ring.mayExpand then grown.finishRender (some ring.activeInputSurfaceCount)
          else { ring with position := .waitingRender }
  | .creatingRepeat source =>
      match ring.selectRepeatSurface source with
      | some index => ring.finishRepeat (some index)
      | none =>
          if created && ring.mayExpand then grown.finishRepeat (some ring.activeInputSurfaceCount)
          else { ring with position := .waitingRepeat source }
  | _ => ring

/-- A bounded wait is over. -/
def woken (ring : Ring) : Ring :=
  match ring.position with
  | .waitingRender => ring.finishRender ring.findFreeSlot
  | .waitingRepeat source => ring.finishRepeat (ring.selectRepeatSurface source)
  | _ => ring

/-- `release_reserved_slot`, on every return before the commit. -/
def leave (index : Nat) (ring : Ring) : Ring :=
  { ring.setSlot index (ring.slots index).giveUp with position := .idle }

def giveUp (ring : Ring) : Ring :=
  match ring.position with
  | .holding index | .submitting index => ring.leave index
  | _ => ring

def wrapper (index : Nat) (ring : Ring) : Wrapper :=
  { slot := index, generation := (ring.slots index).generation }

def createSurface (created : Bool) (ring : Ring) : Ring :=
  match ring.position with
  | .holding index =>
      if created then
        { ring with
          wrappers := ring.wrapper index :: ring.wrappers
          position := .submitting index }
      else ring.leave index
  | _ => ring

/-- The result of the last `SubmitInput`. -/
def submitInput (accepted : Bool) (ring : Ring) : Ring :=
  match ring.position with
  | .submitting index =>
      if accepted then
        { ring with
          accepted := ring.wrapper index :: ring.accepted
          position := .accepted index }
      else ring.leave index
  | _ => ring

/-- The section of `encode_frame` after an accepted submission. -/
def commit (frameIndex : Nat) (ring : Ring) : Ring :=
  match ring.position with
  | .accepted index =>
      let (released, slot) := (ring.slots index).onInputAccepted frameIndex
      { ring.setSlot index slot with
        inputSurfacesInFlight :=
          if released then ring.inputSurfacesInFlight else ring.inputSurfacesInFlight + 1
        position := .idle }
  | _ => ring

/-- `on_input_surface_released`; a release of an earlier reservation is stale. -/
def surfaceDataRelease (wrapper : Wrapper) (ring : Ring) : Ring :=
  if wrapper ∉ ring.wrappers then ring
  else
    let reported := { ring with wrappers := ring.wrappers.erase wrapper }
    if wrapper.generation ≠ (ring.slots wrapper.slot).generation then reported
    else
      let (reusable, slot) := (ring.slots wrapper.slot).onSurfaceReleased
      { reported.setSlot wrapper.slot slot with
        inputSurfacesInFlight :=
          if reusable then ring.inputSurfacesInFlight - 1 else ring.inputSurfacesInFlight }

def step : RingEvent → Ring → Ring
  | .acquireInputTextureForRender, ring =>
      if ring.position = .idle then ring.acquireInputTextureForRender else ring
  | .cancelInputTextureForRender, ring =>
      if ring.position = .idle then ring.cancelInputTextureForRender else ring
  | .encodeFrame, ring => if ring.position = .idle then ring.encodeFrame else ring
  | .textureCreated created, ring => ring.textureCreated created
  | .woken, ring => ring.woken
  | .createSurface created, ring => ring.createSurface created
  | .giveUp, ring => ring.giveUp
  | .submitInput accepted, ring => ring.submitInput accepted
  | .commit frameIndex, ring => ring.commit frameIndex
  | .surfaceDataRelease wrapper, ring => ring.surfaceDataRelease wrapper
  | .fatal, ring => { ring with outputFatal := true }

end Ring

end UmbraHost.Amf.InputSurfaces
