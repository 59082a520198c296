import Mathlib.Algebra.Group.Nat.Defs
import Mathlib.Algebra.Group.Int.Defs
import UmbraHost.Transition.Run

/-! # Reference invalidation of the NVENC encoder

`encode_frame` and `invalidate_ref_frames` of `nvenc_base.cpp`, driven as a session of `video.cpp`
drives them: frame numbers increase, and a call that returned false makes the next encoded frame
an IDR.  What the driver answers is part of the event. -/

namespace UmbraHost.Nvenc

open UmbraHost.Transition

inductive DriverCall where
  | encoded (frameIndex : Nat) (idr afterRefFrameInvalidation : Bool)
  | invalidated (frameIndex : Nat)
deriving DecidableEq, Repr

/-- The successful calls of the driver, the latest first. -/
abbrev DriverLog := List DriverCall

namespace DriverLog

/-- The frame is the most recent IDR or was encoded after it. -/
def encodedSinceIdr : DriverLog → Nat → Bool
  | [], _ => false
  | .encoded frameIndex idr _ :: earlier, index =>
      frameIndex = index || (!idr && encodedSinceIdr earlier index)
  | .invalidated _ :: earlier, index => encodedSinceIdr earlier index

/-- `nvEncInvalidateRefFrames` has succeeded for the frame since it was encoded. -/
def invalidatedSince : DriverLog → Nat → Bool
  | [], _ => false
  | .encoded frameIndex _ _ :: earlier, index =>
      frameIndex ≠ index && invalidatedSince earlier index
  | .invalidated frameIndex :: earlier, index =>
      frameIndex = index || invalidatedSince earlier index

/-- A frame was invalidated after the last encoded one. -/
def unconfirmed : DriverLog → Bool
  | .invalidated _ :: _ => true
  | _ => false

/-- The frame encoded next after an invalidation says so. -/
def confirmed : DriverLog → Bool
  | [] => true
  | .encoded _ _ afterRefFrameInvalidation :: earlier =>
      (!unconfirmed earlier || afterRefFrameInvalidation) && confirmed earlier
  | .invalidated _ :: earlier => confirmed earlier

end DriverLog

open DriverLog

structure Encoder where
  rfi : Bool
  refFramesInDpb : Nat
  lastEncodedFrameIndex : Nat := 0
  rfiNeedsConfirmation : Bool := false
  lastRfiRange : Nat × Nat := (0, 0)
  /-- A call has returned false since the last encoded frame. -/
  forceIdr : Bool := false
  log : DriverLog := []
deriving Repr

/-- A frame is encoded with the picture type of the driver's answer, unless an IDR was forced. -/
inductive EncoderEvent where
  | encodeFrame (frameIndex : Nat) (idr : Option Bool)
  | invalidateRefFrames (firstFrame lastFrame : Nat) (answers : List Bool)
deriving DecidableEq, Repr

/-- The size of a request in 64 bits. -/
def requestSize (firstFrame lastFrame : Nat) : Nat :=
  ((lastFrame + 2 ^ 64 - firstFrame) % 2 ^ 64 + 1) % 2 ^ 64

namespace Encoder

def created (rfi : Bool) (refFramesInDpb : Nat) : Encoder := { rfi, refFramesInDpb }

def encodeFrame (frameIndex : Nat) (answer : Option Bool) (encoder : Encoder) : Encoder :=
  match answer with
  | none => encoder
  | some idr =>
      { encoder with
        rfiNeedsConfirmation := false
        lastEncodedFrameIndex := frameIndex
        forceIdr := false
        log := .encoded frameIndex (encoder.forceIdr || idr) encoder.rfiNeedsConfirmation ::
          encoder.log }

/-- The loop of `invalidate_ref_frames`. -/
def invalidateFrames : List Nat → List Bool → Encoder → Bool × Encoder
  | [], _, encoder => (true, encoder)
  | frameIndex :: frames, true :: answers, encoder =>
      invalidateFrames frames answers
        { encoder with log := .invalidated frameIndex :: encoder.log }
  | _ :: _, _, encoder => (false, encoder)

def invalidateRefFrames (firstFrame lastFrame : Nat) (answers : List Bool) (encoder : Encoder) :
    Bool × Encoder :=
  if !encoder.rfi then (false, encoder)
  else if encoder.lastRfiRange.1 ≤ firstFrame ∧ lastFrame ≤ encoder.lastRfiRange.2 then
    (true, encoder)
  else if lastFrame < firstFrame then (false, { encoder with rfiNeedsConfirmation := true })
  else
    let expanded := encoder.lastEncodedFrameIndex
    let requested :=
      { encoder with rfiNeedsConfirmation := true, lastRfiRange := (firstFrame, expanded) }
    if encoder.refFramesInDpb ≤ requestSize firstFrame expanded then (false, requested)
    else requested.invalidateFrames (List.range' firstFrame (expanded + 1 - firstFrame)) answers

/-- Frame numbers are signed and increase. -/
def Numbered (encoder : Encoder) (frameIndex : Nat) : Prop :=
  encoder.lastEncodedFrameIndex < frameIndex ∧ frameIndex < 2 ^ 63

def Requested (encoder : Encoder) (firstFrame lastFrame : Nat) : Prop :=
  1 ≤ firstFrame ∧ firstFrame ≤ lastFrame ∧ firstFrame ≤ encoder.lastEncodedFrameIndex

instance (encoder : Encoder) (frameIndex : Nat) : Decidable (encoder.Numbered frameIndex) :=
  inferInstanceAs (Decidable (_ ∧ _))

instance (encoder : Encoder) (firstFrame lastFrame : Nat) :
    Decidable (encoder.Requested firstFrame lastFrame) :=
  inferInstanceAs (Decidable (_ ∧ _))

def step : EncoderEvent → Encoder → Encoder
  | .encodeFrame frameIndex idr, encoder =>
      if encoder.Numbered frameIndex then encoder.encodeFrame frameIndex idr else encoder
  | .invalidateRefFrames firstFrame lastFrame answers, encoder =>
      if encoder.Requested firstFrame lastFrame then
        let (granted, after) := encoder.invalidateRefFrames firstFrame lastFrame answers
        { after with forceIdr := after.forceIdr || !granted }
      else encoder

/-- What a request that returns true answers for. -/
structure Covered (encoder : Encoder) : Prop where
  covered : ∀ firstFrame lastFrame answers, encoder.Requested firstFrame lastFrame →
    (encoder.invalidateRefFrames firstFrame lastFrame answers).1 = true →
      encoder.forceIdr = true ∨ ∀ index, firstFrame ≤ index → index ≤ lastFrame →
        encodedSinceIdr encoder.log index = true →
          invalidatedSince
            (encoder.invalidateRefFrames firstFrame lastFrame answers).2.log index = true
  unwrapped : ∀ firstFrame lastFrame, encoder.Requested firstFrame lastFrame →
    requestSize firstFrame encoder.lastEncodedFrameIndex + firstFrame =
      encoder.lastEncodedFrameIndex + 1
  confirmed : confirmed encoder.log = true

structure Tracked (encoder : Encoder) : Prop where
  numbered : encoder.lastEncodedFrameIndex < 2 ^ 63
  encoded : ∀ index, encodedSinceIdr encoder.log index = true →
    0 < index ∧ index ≤ encoder.lastEncodedFrameIndex
  range : encoder.lastRfiRange.2 ≤ encoder.lastEncodedFrameIndex
  answered : encoder.forceIdr = true ∨ ∀ index, encoder.lastRfiRange.1 ≤ index →
    index ≤ encoder.lastRfiRange.2 → encodedSinceIdr encoder.log index = true →
      invalidatedSince encoder.log index = true
  unconfirmed : unconfirmed encoder.log = true → encoder.rfiNeedsConfirmation = true
  confirmed : confirmed encoder.log = true

variable {encoder : Encoder}

/-- What the loop over the frames does. -/
theorem invalidateFrames_spec (frames : List Nat) (answers : List Bool) (encoder : Encoder) :
    ∃ passed : List Nat,
      (encoder.invalidateFrames frames answers).2 =
        { encoder with log := passed.map .invalidated ++ encoder.log } ∧
      ((encoder.invalidateFrames frames answers).1 = true → ∀ index ∈ frames, index ∈ passed) := by
  induction frames generalizing answers encoder with
  | nil => exact ⟨[], rfl, nofun⟩
  | cons frameIndex frames ih =>
      rcases answers with _ | ⟨_ | _, answers⟩
      · exact ⟨[], rfl, nofun⟩
      · exact ⟨[], rfl, nofun⟩
      · obtain ⟨passed, after, all⟩ :=
          ih answers { encoder with log := .invalidated frameIndex :: encoder.log }
        refine ⟨passed ++ [frameIndex], ?_, fun granted index member => ?_⟩
        · rw [invalidateFrames, after]
          simp
        · rcases List.mem_cons.mp member with rfl | later
          · exact List.mem_append_right _ (List.mem_singleton_self _)
          · exact List.mem_append_left _ (all granted index later)

section Invalidated

variable (log : DriverLog) (passed : List Nat)

theorem encodedSinceIdr_invalidated (index : Nat) :
    encodedSinceIdr (passed.map .invalidated ++ log) index = encodedSinceIdr log index := by
  induction passed with
  | nil => rfl
  | cons frameIndex rest ih => exact ih

theorem confirmed_invalidated :
    DriverLog.confirmed (passed.map .invalidated ++ log) = DriverLog.confirmed log := by
  induction passed with
  | nil => rfl
  | cons frameIndex rest ih => exact ih

theorem invalidatedSince_invalidated (index : Nat) :
    invalidatedSince (passed.map .invalidated ++ log) index =
      (decide (index ∈ passed) || invalidatedSince log index) := by
  induction passed with
  | nil => rfl
  | cons frameIndex rest ih =>
      simp only [List.map_cons, List.cons_append, invalidatedSince, ih, List.mem_cons,
        Bool.decide_or, Bool.or_assoc, eq_comm]

end Invalidated

theorem Tracked.unwrapped (tracked : encoder.Tracked) {firstFrame : Nat}
    (inside : firstFrame ≤ encoder.lastEncodedFrameIndex) (positive : 1 ≤ firstFrame) :
    requestSize firstFrame encoder.lastEncodedFrameIndex + firstFrame =
      encoder.lastEncodedFrameIndex + 1 := by
  have bound := tracked.numbered
  unfold requestSize
  omega

/-- What `invalidateRefFrames` does with a request that the caller may make. -/
theorem invalidateRefFrames_cases {firstFrame lastFrame : Nat} (answers : List Bool)
    (requested : encoder.Requested firstFrame lastFrame) :
    (encoder.invalidateRefFrames firstFrame lastFrame answers = (false, encoder)) ∨
    (encoder.lastRfiRange.1 ≤ firstFrame ∧ lastFrame ≤ encoder.lastRfiRange.2 ∧
      encoder.invalidateRefFrames firstFrame lastFrame answers = (true, encoder)) ∨
    ∃ (granted : Bool) (passed : List Nat),
      (granted = true → ∀ index, firstFrame ≤ index → index ≤ encoder.lastEncodedFrameIndex →
        index ∈ passed) ∧
      encoder.invalidateRefFrames firstFrame lastFrame answers =
        (granted,
          { encoder with
            rfiNeedsConfirmation := true
            lastRfiRange := (firstFrame, encoder.lastEncodedFrameIndex)
            log := passed.map .invalidated ++ encoder.log }) := by
  unfold invalidateRefFrames
  split
  · exact .inl rfl
  split
  · next done => exact .inr (.inl ⟨done.1, done.2, rfl⟩)
  split
  · next reversed => exact absurd requested.2.1 (Nat.not_le.mpr reversed)
  dsimp only
  split
  · exact .inr (.inr ⟨false, [], nofun, rfl⟩)
  · obtain ⟨passed, after, all⟩ := invalidateFrames_spec
      (List.range' firstFrame (encoder.lastEncodedFrameIndex + 1 - firstFrame)) answers
      { encoder with
        rfiNeedsConfirmation := true
        lastRfiRange := (firstFrame, encoder.lastEncodedFrameIndex) }
    refine .inr (.inr ⟨_, passed, fun granted index low high => all granted index ?_,
      Prod.ext rfl after⟩)
    rw [List.mem_range'_1]
    omega

theorem Tracked.encodeFrame (tracked : encoder.Tracked) {frameIndex : Nat}
    (numbered : encoder.Numbered frameIndex) (answer : Option Bool) :
    (encoder.encodeFrame frameIndex answer).Tracked := by
  obtain ⟨later, bounded⟩ := numbered
  cases answer with
  | none => exact tracked
  | some idr =>
      have range := tracked.range
      constructor
      · exact bounded
      · intro index since
        simp only [Encoder.encodeFrame, encodedSinceIdr, Bool.or_eq_true, decide_eq_true_eq,
          Bool.and_eq_true] at since ⊢
        rcases since with rfl | ⟨_, earlier⟩
        · exact ⟨Nat.lt_of_le_of_lt (Nat.zero_le _) later, Nat.le_refl _⟩
        · obtain ⟨positive, before⟩ := tracked.encoded index earlier
          exact ⟨positive, Nat.le_trans before (Nat.le_of_lt later)⟩
      · exact Nat.le_trans range (Nat.le_of_lt later)
      · right
        intro index low high since
        have apart : frameIndex ≠ index :=
          Nat.ne_of_gt (Nat.lt_of_le_of_lt (Nat.le_trans high range) later)
        simp only [Encoder.encodeFrame, encodedSinceIdr, invalidatedSince, apart, ne_eq,
          not_false_eq_true, decide_true, decide_false, Bool.true_and, Bool.false_or,
          Bool.and_eq_true, Bool.not_eq_true', Bool.or_eq_false_iff] at since ⊢
        have answered := tracked.answered.resolve_left (by simp [since.1.1])
        exact answered index low high since.2
      · nofun
      · simp only [Encoder.encodeFrame, DriverLog.confirmed, tracked.confirmed, Bool.and_true,
          Bool.or_eq_true, Bool.not_eq_true']
        cases before : DriverLog.unconfirmed encoder.log with
        | false => exact .inl rfl
        | true => exact .inr (tracked.unconfirmed before)

theorem Tracked.invalidateRefFrames (tracked : encoder.Tracked) {firstFrame lastFrame : Nat}
    (answers : List Bool) (requested : encoder.Requested firstFrame lastFrame) :
    (step (.invalidateRefFrames firstFrame lastFrame answers) encoder).Tracked := by
  simp only [step, if_pos requested]
  rcases invalidateRefFrames_cases answers requested with
    refused | ⟨_, _, done⟩ | ⟨granted, passed, all, after⟩
  · rw [refused]
    exact { tracked with answered := .inl (Bool.or_true _) }
  · rw [done]
    exact { tracked with answered := by simpa using tracked.answered }
  · rw [after]
    refine { tracked with
      encoded := ?_, range := Nat.le_refl _, answered := ?_, unconfirmed := fun _ => rfl
      confirmed := ?_ }
    · intro index since
      rw [encodedSinceIdr_invalidated] at since
      exact tracked.encoded index since
    · cases granted with
      | false => exact .inl (Bool.or_true _)
      | true =>
          right
          intro index low high _
          rw [invalidatedSince_invalidated, decide_eq_true (all rfl index low high)]
          rfl
    · rw [confirmed_invalidated]
      exact tracked.confirmed

theorem Tracked.step (tracked : encoder.Tracked) (event : EncoderEvent) :
    (step event encoder).Tracked := by
  cases event with
  | encodeFrame frameIndex idr =>
      simp only [Encoder.step]
      split
      · next numbered => exact tracked.encodeFrame numbered idr
      · exact tracked
  | invalidateRefFrames firstFrame lastFrame answers =>
      by_cases requested : encoder.Requested firstFrame lastFrame
      · exact tracked.invalidateRefFrames answers requested
      · simpa only [Encoder.step, if_neg requested] using tracked

theorem Tracked.covered (tracked : encoder.Tracked) : encoder.Covered where
  covered firstFrame lastFrame answers requested granted := by
    rcases invalidateRefFrames_cases answers requested with
      refused | ⟨low, high, done⟩ | ⟨_, passed, all, after⟩
    · rw [refused] at granted
      cases granted
    · refine tracked.answered.imp_right fun answered index first last since => ?_
      rw [done]
      exact answered index (Nat.le_trans low first) (Nat.le_trans last high) since
    · right
      intro index first _ since
      rw [after] at granted ⊢
      rw [invalidatedSince_invalidated,
        decide_eq_true (all granted index first (tracked.encoded index since).2)]
      rfl
  unwrapped _ _ requested := tracked.unwrapped requested.2.2 requested.1
  confirmed := tracked.confirmed

theorem tracked_created (rfi : Bool) (refFramesInDpb : Nat) :
    (created rfi refFramesInDpb).Tracked where
  numbered := Nat.two_pow_pos 63
  encoded _ := nofun
  range := Nat.le_refl _
  answered := .inr nofun
  unconfirmed := nofun
  confirmed := rfl

/-- A request that is granted covers the loss, unless an IDR is still to come. -/
theorem reached_covered (rfi : Bool) (refFramesInDpb : Nat) (events : List EncoderEvent) :
    (run step events (created rfi refFramesInDpb)).Covered :=
  (run_preserves step Tracked (fun event _ tracked => tracked.step event) events
    (tracked_created rfi refFramesInDpb)).covered

/-- The driver fails to invalidate frame 2, and no frame is encoded since. -/
def refusedRequest : Encoder :=
  run step [.encodeFrame 1 (some true), .encodeFrame 2 (some false),
    .invalidateRefFrames 2 2 [false]] (created true 5)

theorem refusedRequest_repeated :
    ¬ ∀ firstFrame lastFrame answers, refusedRequest.Requested firstFrame lastFrame →
      (refusedRequest.invalidateRefFrames firstFrame lastFrame answers).1 = true →
        ∀ index, firstFrame ≤ index → index ≤ lastFrame →
          encodedSinceIdr refusedRequest.log index = true →
            invalidatedSince
              (refusedRequest.invalidateRefFrames firstFrame lastFrame answers).2.log index =
                true := by
  intro all
  have invalidated := all 2 2 [] (by decide) (by decide) 2 (by decide) (by decide) (by decide)
  exact absurd invalidated (by decide)

end Encoder

end UmbraHost.Nvenc
