import UmbraHost.Amf.FrameLog
import UmbraHost.Transition.Run

/-! # Loss recovery of the AMF encoder

The recovery plan of `encode_frame`, its commit once a submission is accepted
and `invalidate_ref_frames` (`amf_d3d11.cpp`, `amf_lifecycle.h`), driven as the
session of `video.cpp` drives them: all on one thread, with a forced IDR kept
until a submission is accepted.  An IDR is owed from an invalidation that found
no anchor until then. -/

namespace UmbraHost.Amf

def maxLtrSlots : Nat := 4

def ltrMarkInterval : Nat := 4

structure Encoder where
  rfiEnabled : Bool
  effectiveLtrSlots : Nat
  rfiPending : Bool := false
  lastRfiLtrIndex : Nat := 0
  currentLtrSlot : Nat := 0
  ltrSlotsValid : Nat → Bool := fun _ => false
  ltrSlotFrameIndex : Nat → Nat := fun _ => 0
  lastSubmittedFrameIndex : Nat := 0
  forceIdr : Bool := false
  idrOwed : Bool := false
  log : FrameLog := []

/-- The state of `create_encoder` with the frames the driver granted. -/
def Encoder.created (maxLtrFrames : Nat) : Encoder :=
  { rfiEnabled := 0 < maxLtrFrames, effectiveLtrSlots := min maxLtrFrames maxLtrSlots }

/-- How the driver answers a submission. -/
structure Answer where
  idrProperties : Bool := true
  ltrProperty : Bool := true
  inputAccepted : Bool := true
deriving DecidableEq, Repr

inductive EncoderEvent where
  | requestIdr
  | encodeFrame (frameIndex : Nat) (answer : Answer)
  | invalidateRefFrames (firstFrame lastFrame : Nat)
deriving DecidableEq, Repr

structure Plan where
  ltrSlotToCommit : Option Nat := none
  nextLtrSlot : Nat
  consumeRfi : Bool := false
  resetLtrCache : Bool := false
  ltrSlotToPreserve : Option Nat := none
  ltrReferenceSlot : Option Nat := none
  idr : Bool := false

namespace Encoder

def ltrSlots (encoder : Encoder) : Nat :=
  if encoder.rfiEnabled then encoder.effectiveLtrSlots else 0

/-- The slot to mark after a periodic one; slot 0 is kept for IDR frames. -/
def nextPeriodicSlot (encoder : Encoder) : Nat :=
  if 1 < encoder.ltrSlots then
    if encoder.ltrSlots ≤ encoder.currentLtrSlot + 1 then 1 else encoder.currentLtrSlot + 1
  else encoder.currentLtrSlot

def plan (frameIndex : Nat) (encoder : Encoder) : Plan :=
  if encoder.forceIdr then
    { ltrSlotToCommit := if 0 < encoder.ltrSlots then some 0 else none
      nextLtrSlot :=
        if 0 < encoder.ltrSlots then if 1 < encoder.ltrSlots then 1 else 0
        else encoder.currentLtrSlot
      consumeRfi := true
      resetLtrCache := true
      idr := true }
  else if encoder.rfiPending ∧ 0 < encoder.ltrSlots then
    { nextLtrSlot := encoder.currentLtrSlot
      consumeRfi := true
      resetLtrCache := true
      ltrSlotToPreserve := some encoder.lastRfiLtrIndex
      ltrReferenceSlot := some encoder.lastRfiLtrIndex }
  else if 0 < encoder.ltrSlots ∧ frameIndex % ltrMarkInterval = 0 then
    { ltrSlotToCommit := some encoder.currentLtrSlot
      nextLtrSlot := encoder.nextPeriodicSlot }
  else { nextLtrSlot := encoder.currentLtrSlot }

/-- `disable_rfi_after_property_failure`. -/
def disableRfi (encoder : Encoder) : Encoder :=
  { encoder with
    rfiEnabled := false
    effectiveLtrSlots := 0
    rfiPending := false
    ltrSlotsValid := fun _ => false
    ltrSlotFrameIndex := fun _ => 0 }

/-- The properties set on the surface: the state and what is submitted, `none`
if the submission is given up. -/
def prepare (plan : Plan) (answer : Answer) (encoder : Encoder) : Encoder × Option Plan :=
  if plan.idr then
    if !answer.idrProperties then (encoder, none)
    else if plan.ltrSlotToCommit.isSome && !answer.ltrProperty then
      (encoder.disableRfi, some { plan with ltrSlotToCommit := none })
    else (encoder, some plan)
  else if plan.ltrReferenceSlot.isSome then
    if answer.ltrProperty then (encoder, some plan)
    else if !answer.idrProperties then (encoder.disableRfi, none)
    else
      -- the same submission becomes an IDR
      (encoder.disableRfi,
        some { plan with consumeRfi := false, ltrSlotToPreserve := none, idr := true })
  else if plan.ltrSlotToCommit.isSome && !answer.ltrProperty then
    (encoder.disableRfi, some { plan with ltrSlotToCommit := none })
  else (encoder, some plan)

def lastAccepted (encoder : Encoder) : Option Nat :=
  encoder.log.reverse.findSome? fun
    | .accepted index _ => some index
    | .invalidated _ _ => none

/-- What an accepted frame refers to. -/
def reference (plan : Plan) (encoder : Encoder) : Reference :=
  if plan.idr then .idr
  else match plan.ltrReferenceSlot with
    | some slot => .ltr slot (encoder.ltrSlotFrameIndex slot)
    | none => .predecessor encoder.lastAccepted

/-- `commit_recovery_state` of an accepted submission. -/
def commitRecoveryState (frameIndex : Nat) (plan : Plan) (encoder : Encoder) : Encoder :=
  let boundedSlots := min encoder.effectiveLtrSlots maxLtrSlots
  let cleared (slot : Nat) : Bool :=
    plan.resetLtrCache && slot < boundedSlots && plan.ltrSlotToPreserve ≠ some slot
  let marked (slot : Nat) : Bool := plan.ltrSlotToCommit = some slot && slot < boundedSlots
  { encoder with
    ltrSlotsValid := fun slot => marked slot || (!cleared slot && encoder.ltrSlotsValid slot)
    ltrSlotFrameIndex := fun slot =>
      if marked slot then frameIndex
      else if cleared slot then 0 else encoder.ltrSlotFrameIndex slot
    currentLtrSlot :=
      if plan.ltrSlotToCommit.any (· < boundedSlots) then plan.nextLtrSlot
      else encoder.currentLtrSlot
    rfiPending := !plan.consumeRfi && encoder.rfiPending }

def accept (frameIndex : Nat) (plan : Plan) (encoder : Encoder) : Encoder :=
  { encoder.commitRecoveryState frameIndex plan with
    lastSubmittedFrameIndex := max encoder.lastSubmittedFrameIndex frameIndex
    forceIdr := false
    idrOwed := false
    log := encoder.log ++ [Entry.accepted frameIndex (encoder.reference plan)] }

def encodeFrame (frameIndex : Nat) (answer : Answer) (encoder : Encoder) : Encoder :=
  match encoder.prepare (encoder.plan frameIndex) answer with
  | (prepared, none) => prepared
  | (prepared, some plan) =>
      if answer.inputAccepted then prepared.accept frameIndex plan else prepared

/-- The loop over the slots: the latest valid frame before the first one. -/
def bestLtr (firstFrame : Nat) (encoder : Encoder) : Nat → Option Nat
  | 0 => none
  | slot + 1 =>
      let eligible := encoder.ltrSlotsValid slot && encoder.ltrSlotFrameIndex slot < firstFrame
      match encoder.bestLtr firstFrame slot with
      | none => if eligible then some slot else none
      | some best =>
          if eligible && encoder.ltrSlotFrameIndex best < encoder.ltrSlotFrameIndex slot then
            some slot
          else some best

def invalidateSlots (firstFrame lastFrame : Nat) (encoder : Encoder) : Encoder :=
  let effectiveLastFrame := max lastFrame encoder.lastSubmittedFrameIndex
  { encoder with
    ltrSlotsValid := fun slot =>
      encoder.ltrSlotsValid slot &&
        !(slot < encoder.effectiveLtrSlots && firstFrame ≤ encoder.ltrSlotFrameIndex slot &&
          encoder.ltrSlotFrameIndex slot ≤ effectiveLastFrame) }

/-- `invalidate_ref_frames`, with the forced IDR of the session where it
returns false. -/
def invalidateRefFrames (firstFrame lastFrame : Nat) (encoder : Encoder) : Encoder :=
  let logged := { encoder with log := encoder.log ++ [Entry.invalidated firstFrame lastFrame] }
  if !encoder.rfiEnabled || encoder.effectiveLtrSlots = 0 then
    { logged with forceIdr := true, idrOwed := true }
  else match encoder.bestLtr firstFrame encoder.effectiveLtrSlots with
    | none => { logged with forceIdr := true, idrOwed := true }
    | some best =>
        { logged.invalidateSlots firstFrame lastFrame with
          lastRfiLtrIndex := best, rfiPending := true }

def step : EncoderEvent → Encoder → Encoder
  | .requestIdr, encoder => { encoder with forceIdr := true }
  | .encodeFrame frameIndex answer, encoder => encoder.encodeFrame frameIndex answer
  | .invalidateRefFrames firstFrame lastFrame, encoder =>
      encoder.invalidateRefFrames firstFrame lastFrame

end Encoder

end UmbraHost.Amf
