import UmbraHost.Amf.Recovery

/-! # Recovery marks of the AMF output pump

The encode thread submits a frame, and later commits it under the mutex; the pump takes outputs
from the encoder and completes each under the mutex.  The mark of a recovered frame is in
`frame_rfi_flags` from the commit to the completion.  The frame that `QueryOutput` returns, an
output without data and the entries that `begin()` names are part of the event. -/

namespace UmbraHost.Amf

open UmbraHost.Transition

/-- A frame refers to the forced LTR frame after an invalidation. -/
def Plan.frameAfterRefFrameInvalidation (plan : Plan) : Bool :=
  plan.ltrReferenceSlot.isSome && !plan.idr

structure Submission where
  frameIndex : Nat
  forced : Bool
deriving DecidableEq, Repr

structure EncodedFrame where
  frameIndex : Nat
  afterRefFrameInvalidation : Bool
deriving DecidableEq, Repr

structure OutputPump where
  encoder : Encoder
  /-- What AMF has accepted and `encode_frame` has not committed. -/
  committing : Option (Nat × Plan) := none
  lastFrameIndex : Nat := 0
  accepted : List Submission := []
  inEncoder : List Submission := []
  queried : Option Submission := none
  frameRfiFlags : List Nat := []
  evicted : List Nat := []
  completedOutputs : List EncodedFrame := []
  results : List EncodedFrame := []

inductive PumpEvent where
  | requestIdr
  | invalidateRefFrames (firstFrame lastFrame : Nat)
  | submitInput (frameIndex : Nat) (answer : Answer)
  | commit
  | queryOutput (frameIndex : Nat)
  | completeOutput (empty : Bool) (victims : List Nat)
  | drainCompletedOutputs
deriving DecidableEq, Repr

def maxFrameRfiFlags : Nat := 256

/-- The loop that bounds `frame_rfi_flags`. -/
def evictFlags : List Nat → List Nat → List Nat
  | victim :: victims, flags =>
      if maxFrameRfiFlags < flags.length then evictFlags victims (flags.erase victim) else flags
  | [], flags => flags.drop (flags.length - maxFrameRfiFlags)

namespace OutputPump

def created (maxLtrFrames : Nat) : OutputPump := { encoder := .created maxLtrFrames }

/-- The calls between two frames are on the thread of `encode_frame`. -/
def betweenFrames (change : Encoder → Encoder) (pump : OutputPump) : OutputPump :=
  match pump.committing with
  | none => { pump with encoder := change pump.encoder }
  | some _ => pump

/-- `encode_frame` to the return of the last `SubmitInput`. -/
def submitInput (frameIndex : Nat) (answer : Answer) (pump : OutputPump) : OutputPump :=
  if pump.committing.isSome || frameIndex ≤ pump.lastFrameIndex then pump
  else match pump.encoder.prepare (pump.encoder.plan frameIndex) answer with
    | (prepared, none) => { pump with encoder := prepared, lastFrameIndex := frameIndex }
    | (prepared, some plan) =>
        if answer.inputAccepted then
          let submission : Submission := ⟨frameIndex, plan.frameAfterRefFrameInvalidation⟩
          { pump with
            encoder := prepared
            lastFrameIndex := frameIndex
            committing := some (frameIndex, plan)
            accepted := submission :: pump.accepted
            inEncoder := submission :: pump.inEncoder }
        else { pump with encoder := prepared, lastFrameIndex := frameIndex }

/-- The section of `encode_frame` after an accepted submission. -/
def commit (pump : OutputPump) : OutputPump :=
  match pump.committing with
  | none => pump
  | some (frameIndex, plan) =>
      { pump with
        encoder := pump.encoder.accept frameIndex plan
        committing := none
        frameRfiFlags :=
          if plan.frameAfterRefFrameInvalidation then pump.frameRfiFlags.insert frameIndex
          else pump.frameRfiFlags }

def queryOutput (frameIndex : Nat) (pump : OutputPump) : OutputPump :=
  if pump.queried.isSome then pump
  else match pump.inEncoder.find? fun frame => frame.frameIndex = frameIndex with
    | none => pump
    | some frame =>
        { pump with queried := some frame, inEncoder := pump.inEncoder.erase frame }

/-- The section of `output_pump` after an output. -/
def completeOutput (empty : Bool) (victims : List Nat) (pump : OutputPump) : OutputPump :=
  match pump.queried with
  | none => pump
  | some frame =>
      if empty then { pump with queried := none }
      else
        let others := pump.frameRfiFlags.filter (· ≠ frame.frameIndex)
        let kept := evictFlags victims others
        { pump with
          queried := none
          frameRfiFlags := kept
          evicted := pump.evicted ++ others.filter (· ∉ kept)
          completedOutputs := pump.completedOutputs ++
            [⟨frame.frameIndex, decide (frame.frameIndex ∈ pump.frameRfiFlags)⟩] }

/-- `drain_completed_outputs_locked`. -/
def drainCompletedOutputs (pump : OutputPump) : OutputPump :=
  { pump with results := pump.results ++ pump.completedOutputs, completedOutputs := [] }

def step : PumpEvent → OutputPump → OutputPump
  | .requestIdr, pump => pump.betweenFrames (Encoder.step .requestIdr)
  | .invalidateRefFrames firstFrame lastFrame, pump =>
      pump.betweenFrames (Encoder.step (.invalidateRefFrames firstFrame lastFrame))
  | .submitInput frameIndex answer, pump => pump.submitInput frameIndex answer
  | .commit, pump => pump.commit
  | .queryOutput frameIndex, pump => pump.queryOutput frameIndex
  | .completeOutput empty victims, pump => pump.completeOutput empty victims
  | .drainCompletedOutputs, pump => pump.drainCompletedOutputs

/-- Every frame the pump has completed, in order. -/
def outputs (pump : OutputPump) : List EncodedFrame := pump.results ++ pump.completedOutputs

def outputsOf (frameIndex : Nat) (pump : OutputPump) : List EncodedFrame :=
  pump.outputs.filter fun output => output.frameIndex = frameIndex

/-- A frame whose output is still to come. -/
def Pending (pump : OutputPump) (frame : Submission) : Prop :=
  frame ∈ pump.inEncoder ∨ pump.queried = some frame

structure MarksDelivered (pump : OutputPump) : Prop where
  once : ∀ frame ∈ pump.accepted, frame.forced = true →
    pump.Pending frame ∨ pump.outputsOf frame.frameIndex = [⟨frame.frameIndex, true⟩]
  only : ∀ output ∈ pump.outputs, output.afterRefFrameInvalidation = true →
    ⟨output.frameIndex, true⟩ ∈ pump.accepted
  cleared : ∀ output ∈ pump.outputs, output.frameIndex ∉ pump.frameRfiFlags

/-- A recovered frame is completed with its data, after its commit, and before its entry is
evicted. -/
def CompletedInTime : PumpEvent → OutputPump → Prop
  | .completeOutput empty _, pump => ∀ frame, pump.queried = some frame → frame.forced = true →
      empty = false ∧ (∀ plan, pump.committing ≠ some (frame.frameIndex, plan)) ∧
        frame.frameIndex ∉ pump.evicted
  | _, _ => True

/-! ## Where each frame is -/

structure Tracked (pump : OutputPump) : Prop where
  bounded : ∀ frame ∈ pump.accepted, frame.frameIndex ≤ pump.lastFrameIndex
  unique : ∀ frame ∈ pump.accepted, ∀ other ∈ pump.accepted,
    frame.frameIndex = other.frameIndex → frame = other
  pending : ∀ frame, pump.Pending frame →
    frame ∈ pump.accepted ∧ ∀ output ∈ pump.outputs, output.frameIndex ≠ frame.frameIndex
  distinct : pump.inEncoder.Nodup ∧ ∀ frame, pump.queried = some frame → frame ∉ pump.inEncoder
  completed : ∀ output ∈ pump.outputs, output.frameIndex ≤ pump.lastFrameIndex ∧
    (output.afterRefFrameInvalidation = true →
      ∀ plan, pump.committing ≠ some (output.frameIndex, plan))
  committing : ∀ frameIndex plan, pump.committing = some (frameIndex, plan) →
    ⟨frameIndex, plan.frameAfterRefFrameInvalidation⟩ ∈ pump.accepted
  entries : ∀ frameIndex, frameIndex ∈ pump.frameRfiFlags ∨ frameIndex ∈ pump.evicted →
    ⟨frameIndex, true⟩ ∈ pump.accepted ∧ ∀ plan, pump.committing ≠ some (frameIndex, plan)
  evicted : ∀ frameIndex ∈ pump.evicted, frameIndex ∉ pump.frameRfiFlags
  marked : ∀ frame, pump.Pending frame → frame.forced = true →
    (∃ plan, pump.committing = some (frame.frameIndex, plan)) ∨
      frame.frameIndex ∈ pump.frameRfiFlags ∨ frame.frameIndex ∈ pump.evicted

variable {pump : OutputPump}

@[simp] theorem drainCompletedOutputs_outputs (pump : OutputPump) :
    pump.drainCompletedOutputs.outputs = pump.outputs := by
  simp [drainCompletedOutputs, outputs]

theorem evictFlags_subset (victims flags : List Nat) : evictFlags victims flags ⊆ flags := by
  induction victims generalizing flags with
  | nil => exact List.drop_subset _ _
  | cons victim victims ih =>
      unfold evictFlags
      split
      · exact List.Subset.trans (ih _) List.erase_subset
      · exact List.Subset.refl _

theorem Tracked.betweenFrames (tracked : pump.Tracked) (change : Encoder → Encoder) :
    (pump.betweenFrames change).Tracked := by
  unfold OutputPump.betweenFrames
  split
  · exact { tracked with }
  · exact tracked

/-- A submission that AMF did not accept. -/
theorem Tracked.skip (tracked : pump.Tracked) (encoder : Encoder) {frameIndex : Nat}
    (later : pump.lastFrameIndex < frameIndex) :
    Tracked { pump with encoder, lastFrameIndex := frameIndex } :=
  { tracked with
    bounded := fun frame member => Nat.le_trans (tracked.bounded frame member) (Nat.le_of_lt later)
    completed := fun output member =>
      (tracked.completed output member).imp_left fun bound =>
        Nat.le_trans bound (Nat.le_of_lt later) }

theorem Tracked.take (tracked : pump.Tracked) (encoder : Encoder) {frameIndex : Nat} (plan : Plan)
    (later : pump.lastFrameIndex < frameIndex) (idle : pump.committing = none) :
    Tracked { pump with
      encoder
      lastFrameIndex := frameIndex
      committing := some (frameIndex, plan)
      accepted := ⟨frameIndex, plan.frameAfterRefFrameInvalidation⟩ :: pump.accepted
      inEncoder := ⟨frameIndex, plan.frameAfterRefFrameInvalidation⟩ :: pump.inEncoder } := by
  have fresh : ∀ frame ∈ pump.accepted, frame.frameIndex ≠ frameIndex :=
    fun frame member => Nat.ne_of_lt (Nat.lt_of_le_of_lt (tracked.bounded frame member) later)
  have uncommitted : ∀ index, index ≠ frameIndex → ∀ other : Plan,
      some (frameIndex, plan) ≠ some (index, other) := by
    intro index apart other same
    cases same
    exact apart rfl
  have split : ∀ frame, Pending { pump with
        inEncoder := ⟨frameIndex, plan.frameAfterRefFrameInvalidation⟩ :: pump.inEncoder } frame →
      frame = ⟨frameIndex, plan.frameAfterRefFrameInvalidation⟩ ∨ pump.Pending frame := by
    intro frame waits
    rcases waits with member | asked
    · exact (List.mem_cons.mp member).imp_right .inl
    · exact .inr (.inr asked)
  constructor
  · intro frame member
    rcases List.mem_cons.mp member with rfl | earlier
    · exact Nat.le_refl _
    · exact Nat.le_trans (tracked.bounded frame earlier) (Nat.le_of_lt later)
  · intro frame member other others same
    rcases List.mem_cons.mp member with rfl | earlier
    · rcases List.mem_cons.mp others with rfl | second
      · rfl
      · exact absurd same.symm (fresh other second)
    · rcases List.mem_cons.mp others with rfl | second
      · exact absurd same (fresh frame earlier)
      · exact tracked.unique frame earlier other second same
  · intro frame waits
    rcases split frame waits with rfl | before
    · refine ⟨List.mem_cons_self, fun output member => ?_⟩
      exact Nat.ne_of_lt (Nat.lt_of_le_of_lt (tracked.completed output member).1 later)
    · exact (tracked.pending frame before).imp_left (List.mem_cons_of_mem _)
  · have first : (⟨frameIndex, plan.frameAfterRefFrameInvalidation⟩ : Submission) ∉
        pump.inEncoder :=
      fun member => fresh _ (tracked.pending _ (.inl member)).1 rfl
    refine ⟨List.nodup_cons.mpr ⟨first, tracked.distinct.1⟩, fun frame asked member => ?_⟩
    rcases List.mem_cons.mp member with rfl | earlier
    · exact fresh _ (tracked.pending _ (.inr asked)).1 rfl
    · exact tracked.distinct.2 frame asked earlier
  · intro output member
    have bound := (tracked.completed output member).1
    exact ⟨Nat.le_trans bound (Nat.le_of_lt later),
      fun _ => uncommitted _ (Nat.ne_of_lt (Nat.lt_of_le_of_lt bound later))⟩
  · intro index other same
    cases same
    exact List.mem_cons_self
  · intro index entry
    have accepted := (tracked.entries index entry).1
    exact ⟨List.mem_cons_of_mem _ accepted, uncommitted _ (fresh _ accepted)⟩
  · exact tracked.evicted
  · intro frame waits forced
    rcases split frame waits with rfl | before
    · exact .inl ⟨plan, rfl⟩
    · refine .inr ((tracked.marked frame before forced).resolve_left ?_)
      rw [idle]
      nofun

theorem Tracked.submitInput (tracked : pump.Tracked) (frameIndex : Nat) (answer : Answer) :
    (pump.submitInput frameIndex answer).Tracked := by
  unfold OutputPump.submitInput
  split
  · exact tracked
  next ready =>
    simp only [Bool.or_eq_true, Option.isSome_iff_ne_none, decide_eq_true_eq, not_or, Nat.not_le,
      ne_eq, not_not] at ready
    split
    · exact tracked.skip _ ready.2
    · next plan _ =>
        split
        · exact tracked.take _ plan ready.2 ready.1
        · exact tracked.skip _ ready.2

theorem Tracked.commit (tracked : pump.Tracked) : pump.commit.Tracked := by
  unfold OutputPump.commit
  split
  · exact tracked
  next frameIndex plan committing =>
    have accepted := tracked.committing frameIndex plan committing
    have entry : ∀ index, index ∈ (if plan.frameAfterRefFrameInvalidation then
        pump.frameRfiFlags.insert frameIndex else pump.frameRfiFlags) ↔
        index ∈ pump.frameRfiFlags ∨
          index = frameIndex ∧ plan.frameAfterRefFrameInvalidation = true := by
      intro index
      split
      · next forced => simp [forced, or_comm]
      · next unforced => simp [unforced]
    refine { tracked with
      completed := ?_, committing := nofun, entries := ?_, evicted := ?_, marked := ?_ }
    · intro output member
      exact ⟨(tracked.completed output member).1, nofun⟩
    · intro index there
      refine ⟨?_, nofun⟩
      rcases there with flagged | evicted
      · rcases (entry index).mp flagged with before | ⟨rfl, forced⟩
        · exact (tracked.entries index (.inl before)).1
        · rwa [forced] at accepted
      · exact (tracked.entries index (.inr evicted)).1
    · intro index evicted flagged
      rcases (entry index).mp flagged with before | ⟨rfl, _⟩
      · exact tracked.evicted index evicted before
      · exact (tracked.entries index (.inr evicted)).2 plan committing
    · intro frame waits forced
      right
      rcases tracked.marked frame waits forced with ⟨other, same⟩ | flagged | evicted
      · obtain ⟨rfl, rfl⟩ := Prod.mk.inj (Option.some.inj (committing.symm.trans same))
        have same := tracked.unique frame (tracked.pending frame waits).1 _ accepted rfl
        have marked : plan.frameAfterRefFrameInvalidation = true :=
          (congrArg Submission.forced same).symm.trans forced
        exact .inl ((entry _).mpr (.inr ⟨rfl, marked⟩))
      · exact .inl ((entry _).mpr (.inl flagged))
      · exact .inr evicted

/-- What `queryOutput` does. -/
theorem queryOutput_cases (frameIndex : Nat) (pump : OutputPump) :
    pump.queryOutput frameIndex = pump ∨
      ∃ frame ∈ pump.inEncoder, pump.queried = none ∧
        pump.queryOutput frameIndex =
          { pump with queried := some frame, inEncoder := pump.inEncoder.erase frame } := by
  unfold queryOutput
  split
  · exact .inl rfl
  · next unasked =>
      split
      · exact .inl rfl
      · next frame found =>
          exact .inr ⟨frame, List.mem_of_find?_eq_some found, by simpa using unasked, rfl⟩

theorem Tracked.queryOutput (tracked : pump.Tracked) (frameIndex : Nat) :
    (pump.queryOutput frameIndex).Tracked := by
  rcases queryOutput_cases frameIndex pump with same | ⟨frame, member, _, moved⟩
  · rw [same]
    exact tracked
  · rw [moved]
    have before : ∀ other, Pending { pump with
        queried := some frame, inEncoder := pump.inEncoder.erase frame } other →
        pump.Pending other := by
      intro other waits
      rcases waits with inside | asked
      · exact .inl (List.mem_of_mem_erase inside)
      · cases asked
        exact .inl member
    refine { tracked with pending := ?_, distinct := ?_, marked := ?_ }
    · intro other waits
      exact tracked.pending other (before other waits)
    · refine ⟨tracked.distinct.1.erase frame, fun other asked => ?_⟩
      cases asked
      exact tracked.distinct.1.not_mem_erase
    · intro other waits forced
      exact tracked.marked other (before other waits) forced

/-- What `completeOutput` does. -/
theorem completeOutput_cases (empty : Bool) (victims : List Nat) (pump : OutputPump) :
    (pump.queried = none ∧ pump.completeOutput empty victims = pump) ∨
      ∃ frame, pump.queried = some frame ∧
        (empty = true ∧ pump.completeOutput empty victims = { pump with queried := none } ∨
          empty = false ∧ ∃ kept lost,
            kept ⊆ pump.frameRfiFlags ∧ lost ⊆ pump.frameRfiFlags ∧
            frame.frameIndex ∉ kept ∧ (∀ index ∈ lost, index ∉ kept) ∧
            (∀ index ∈ pump.frameRfiFlags, index ≠ frame.frameIndex →
              index ∈ kept ∨ index ∈ lost) ∧
            pump.completeOutput empty victims =
              { pump with
                queried := none
                frameRfiFlags := kept
                evicted := pump.evicted ++ lost
                completedOutputs := pump.completedOutputs ++
                  [⟨frame.frameIndex, decide (frame.frameIndex ∈ pump.frameRfiFlags)⟩] }) := by
  unfold completeOutput
  cases queried : pump.queried with
  | none => exact .inl ⟨rfl, rfl⟩
  | some frame =>
      right
      refine ⟨frame, rfl, ?_⟩
      cases empty with
      | true => exact .inl ⟨rfl, rfl⟩
      | false =>
          have inside := evictFlags_subset victims
            (pump.frameRfiFlags.filter (· ≠ frame.frameIndex))
          refine .inr ⟨rfl, _, _, ?_, ?_, ?_, ?_, ?_, rfl⟩
          · exact fun index member => List.mem_of_mem_filter (inside member)
          · exact fun index member => List.mem_of_mem_filter (List.mem_of_mem_filter member)
          · intro member
            simpa using List.of_mem_filter (inside member)
          · intro index member
            simpa using List.of_mem_filter member
          · intro index member apart
            by_cases stays : index ∈ evictFlags victims
                (pump.frameRfiFlags.filter (· ≠ frame.frameIndex))
            · exact .inl stays
            · exact .inr (List.mem_filter.mpr
                ⟨List.mem_filter.mpr ⟨member, by simpa using apart⟩, by simpa using stays⟩)

theorem mem_outputs_append (pump : OutputPump) (latest : EncodedFrame) {output : EncodedFrame} :
    output ∈ pump.results ++ (pump.completedOutputs ++ [latest]) ↔
      output ∈ pump.outputs ∨ output = latest := by
  simp [outputs, or_assoc]

theorem Tracked.completeOutput (tracked : pump.Tracked) (empty : Bool) (victims : List Nat) :
    (pump.completeOutput empty victims).Tracked := by
  rcases completeOutput_cases empty victims pump with
    ⟨_, same⟩ | ⟨frame, queried, ⟨_, dropped⟩ | ⟨_, kept, lost, keeps, loses, gone, apart, others,
      completed⟩⟩
  · rw [same]
    exact tracked
  · rw [dropped]
    have before : ∀ other, Pending { pump with queried := none } other → pump.Pending other :=
      fun other waits => .inl (waits.resolve_right nofun)
    exact { tracked with
      pending := fun other waits => tracked.pending other (before other waits)
      distinct := ⟨tracked.distinct.1, nofun⟩
      marked := fun other waits => tracked.marked other (before other waits) }
  · rw [completed]
    have before : ∀ other, Pending { pump with queried := none } other → pump.Pending other :=
      fun other waits => .inl (waits.resolve_right nofun)
    obtain ⟨accepted, _⟩ := tracked.pending frame (.inr queried)
    -- the frame has left the encoder
    have elsewhere : ∀ other, Pending { pump with queried := none } other →
        other.frameIndex ≠ frame.frameIndex := by
      intro other waits same
      have inside := waits.resolve_right nofun
      rw [tracked.unique other (tracked.pending other (before other waits)).1 frame accepted same]
        at inside
      exact tracked.distinct.2 frame queried inside
    have entry : ∀ index, index ∈ kept ∨ index ∈ pump.evicted ++ lost →
        index ∈ pump.frameRfiFlags ∨ index ∈ pump.evicted := by
      intro index there
      rcases there with member | member
      · exact .inl (keeps member)
      · rcases List.mem_append.mp member with earlier | now
        · exact .inr earlier
        · exact .inl (loses now)
    refine { tracked with
      pending := ?_, distinct := ⟨tracked.distinct.1, nofun⟩, completed := ?_, entries := ?_
      evicted := ?_, marked := ?_ }
    · intro other waits
      refine (tracked.pending other (before other waits)).imp_right fun earlier output member => ?_
      rcases (mem_outputs_append pump ⟨frame.frameIndex, _⟩).mp member with old | rfl
      · exact earlier output old
      · exact (elsewhere other waits).symm
    · intro output member
      rcases (mem_outputs_append pump ⟨frame.frameIndex, _⟩).mp member with old | rfl
      · exact tracked.completed output old
      · refine ⟨tracked.bounded frame accepted, fun marked => ?_⟩
        exact (tracked.entries frame.frameIndex (.inl (of_decide_eq_true marked))).2
    · exact fun index there => tracked.entries index (entry index there)
    · intro index there member
      rcases List.mem_append.mp there with earlier | now
      · exact tracked.evicted index earlier (keeps member)
      · exact apart index now member
    · intro other waits forced
      refine (tracked.marked other (before other waits) forced).imp_right fun entry => ?_
      rcases entry with flagged | evicted
      · exact (others _ flagged (elsewhere other waits)).imp_right
          (List.mem_append_right pump.evicted)
      · exact .inr (List.mem_append_left lost evicted)

theorem Tracked.step (tracked : pump.Tracked) (event : PumpEvent) : (step event pump).Tracked := by
  cases event with
  | requestIdr => exact tracked.betweenFrames _
  | invalidateRefFrames firstFrame lastFrame => exact tracked.betweenFrames _
  | submitInput frameIndex answer => exact tracked.submitInput frameIndex answer
  | commit => exact tracked.commit
  | queryOutput frameIndex => exact tracked.queryOutput frameIndex
  | completeOutput empty victims => exact tracked.completeOutput empty victims
  | drainCompletedOutputs =>
      exact { tracked with
        pending := by rw [OutputPump.step, drainCompletedOutputs_outputs]; exact tracked.pending
        completed := by
          rw [OutputPump.step, drainCompletedOutputs_outputs]
          exact tracked.completed }

/-! ## Which marks are delivered -/

theorem MarksDelivered.submitInput (marks : pump.MarksDelivered) (frameIndex : Nat)
    (answer : Answer) : (pump.submitInput frameIndex answer).MarksDelivered := by
  unfold OutputPump.submitInput
  split
  · exact marks
  · split
    · exact { marks with }
    · split
      · refine { marks with once := ?_, only := ?_ }
        · intro frame member forced
          rcases List.mem_cons.mp member with rfl | earlier
          · exact .inl (.inl List.mem_cons_self)
          · exact (marks.once frame earlier forced).imp_left fun waits =>
              waits.imp_left (List.mem_cons_of_mem _)
        · intro output member marked
          exact List.mem_cons_of_mem _ (marks.only output member marked)
      · exact { marks with }

theorem MarksDelivered.commit (marks : pump.MarksDelivered) (tracked : pump.Tracked) :
    pump.commit.MarksDelivered := by
  unfold OutputPump.commit
  split
  · exact marks
  next frameIndex plan committing =>
    refine { marks with cleared := ?_ }
    intro output member flagged
    cases forced : plan.frameAfterRefFrameInvalidation with
    | false => exact marks.cleared output member (by simpa [forced] using flagged)
    | true =>
        have accepted := tracked.committing frameIndex plan committing
        rw [forced] at accepted
        have entry : output.frameIndex = frameIndex ∨ output.frameIndex ∈ pump.frameRfiFlags := by
          simpa [forced] using flagged
        rcases entry with same | before
        · rcases marks.once _ accepted rfl with waits | delivered
          · exact (tracked.pending _ waits).2 output member same
          · -- it would have been delivered with its mark before the commit
            have first : (⟨frameIndex, true⟩ : EncodedFrame) ∈ pump.outputsOf frameIndex := by
              rw [delivered]
              exact List.mem_singleton_self _
            exact (tracked.completed _ (List.mem_of_mem_filter first)).2 rfl plan committing
        · exact marks.cleared output member before

theorem MarksDelivered.queryOutput (marks : pump.MarksDelivered) (frameIndex : Nat) :
    (pump.queryOutput frameIndex).MarksDelivered := by
  rcases queryOutput_cases frameIndex pump with same | ⟨frame, _, unasked, moved⟩
  · rw [same]
    exact marks
  · rw [moved]
    refine { marks with once := ?_ }
    intro other accepted forced
    refine (marks.once other accepted forced).imp_left fun waits => ?_
    have inside := waits.resolve_right (by rw [unasked]; nofun)
    by_cases same : other = frame
    · exact .inr (congrArg some same.symm)
    · exact .inl ((List.mem_erase_of_ne same).mpr inside)

theorem outputsOf_append (pump : OutputPump) (latest : EncodedFrame) (frameIndex : Nat) :
    (pump.results ++ (pump.completedOutputs ++ [latest])).filter
        (fun output => output.frameIndex = frameIndex) =
      pump.outputsOf frameIndex ++ if latest.frameIndex = frameIndex then [latest] else [] := by
  simp [outputsOf, outputs, List.filter_cons]

theorem Tracked.outputsOf_pending (tracked : pump.Tracked) {frame : Submission}
    (waits : pump.Pending frame) : pump.outputsOf frame.frameIndex = [] :=
  List.filter_eq_nil_iff.mpr fun output member => by
    simpa using (tracked.pending frame waits).2 output member

theorem marksDelivered_completeOutput_iff (tracked : pump.Tracked) (marks : pump.MarksDelivered)
    (empty : Bool) (victims : List Nat) :
    (pump.completeOutput empty victims).MarksDelivered ↔
      CompletedInTime (.completeOutput empty victims) pump := by
  rcases completeOutput_cases empty victims pump with
    ⟨idle, same⟩ | ⟨frame, queried, step⟩
  · rw [same]
    refine iff_of_true marks fun frame queried => ?_
    rw [idle] at queried
    cases queried
  have accepted := (tracked.pending frame (.inr queried)).1
  have none := tracked.outputsOf_pending (.inr queried)
  have outside := tracked.distinct.2 frame queried
  have stays : ∀ other, other ≠ frame → pump.Pending other →
      Pending { pump with queried := Option.none } other := by
    intro other apart waits
    refine .inl (waits.resolve_right fun asked => apart ?_)
    exact (Option.some.inj (queried.symm.trans asked)).symm
  rcases step with ⟨rfl, dropped⟩ | ⟨rfl, kept, lost, keeps, _, gone, _, _, completed⟩
  · rw [dropped]
    constructor
    · intro after other asked forced
      obtain rfl := Option.some.inj (queried.symm.trans asked)
      rcases after.once frame accepted forced with (inside | asked) | delivered
      · exact absurd inside outside
      · cases asked
      · exact absurd (none.symm.trans delivered) nofun
    · intro inTime
      refine { marks with once := ?_ }
      intro other member forced
      refine (marks.once other member forced).imp_left (stays other ?_)
      intro same
      subst same
      exact absurd (inTime other queried forced).1 nofun
  · rw [completed]
    constructor
    · intro after other asked forced
      obtain rfl := Option.some.inj (queried.symm.trans asked)
      rcases after.once frame accepted forced with (inside | asked) | delivered
      · exact absurd inside outside
      · cases asked
      · have latest : (⟨frame.frameIndex, decide (frame.frameIndex ∈ pump.frameRfiFlags)⟩ :
            EncodedFrame) = ⟨frame.frameIndex, true⟩ := by
          have only := (outputsOf_append pump ⟨frame.frameIndex, _⟩ _).symm.trans delivered
          rw [none, List.nil_append, if_pos rfl] at only
          exact List.singleton_inj.mp only
        have flagged : frame.frameIndex ∈ pump.frameRfiFlags :=
          of_decide_eq_true (congrArg EncodedFrame.afterRefFrameInvalidation latest)
        exact ⟨rfl, (tracked.entries _ (.inl flagged)).2,
          fun evicted => tracked.evicted _ evicted flagged⟩
    · intro inTime
      have flagged : frame.forced = true → frame.frameIndex ∈ pump.frameRfiFlags := by
        intro forced
        obtain ⟨_, committed, unevicted⟩ := inTime frame queried forced
        rcases tracked.marked frame (.inr queried) forced with ⟨plan, waits⟩ | flagged | evicted
        · exact absurd waits (committed plan)
        · exact flagged
        · exact absurd evicted unevicted
      constructor
      · intro other member forced
        by_cases same : other = frame
        · subst same
          right
          refine (outputsOf_append pump ⟨other.frameIndex, _⟩ _).trans ?_
          rw [none, List.nil_append, if_pos rfl, decide_eq_true (flagged forced)]
        · have apart : frame.frameIndex ≠ other.frameIndex := fun equal =>
            same (tracked.unique frame accepted other member equal).symm
          refine (marks.once other member forced).imp (stays other same) fun delivered => ?_
          refine (outputsOf_append pump ⟨frame.frameIndex, _⟩ _).trans ?_
          rw [if_neg apart, List.append_nil, delivered]
      · intro output member marked
        rcases (mem_outputs_append pump ⟨frame.frameIndex, _⟩).mp member with earlier | rfl
        · exact marks.only output earlier marked
        · exact (tracked.entries _ (.inl (of_decide_eq_true marked))).1
      · intro output member flagged
        rcases (mem_outputs_append pump ⟨frame.frameIndex, _⟩).mp member with earlier | rfl
        · exact marks.cleared output earlier (keeps flagged)
        · exact gone flagged

theorem marksDelivered_step_iff (tracked : pump.Tracked) (marks : pump.MarksDelivered)
    (event : PumpEvent) : (step event pump).MarksDelivered ↔ CompletedInTime event pump := by
  have between : ∀ change, (pump.betweenFrames change).MarksDelivered := by
    intro change
    unfold betweenFrames
    split
    · exact { marks with }
    · exact marks
  cases event with
  | requestIdr => exact iff_of_true (between _) trivial
  | invalidateRefFrames firstFrame lastFrame => exact iff_of_true (between _) trivial
  | submitInput frameIndex answer => exact iff_of_true (marks.submitInput frameIndex answer) trivial
  | commit => exact iff_of_true (marks.commit tracked) trivial
  | queryOutput frameIndex => exact iff_of_true (marks.queryOutput frameIndex) trivial
  | completeOutput empty victims =>
      exact marksDelivered_completeOutput_iff tracked marks empty victims
  | drainCompletedOutputs =>
      refine iff_of_true ?_ trivial
      exact {
        once := by
          unfold outputsOf
          rw [OutputPump.step, drainCompletedOutputs_outputs]
          exact marks.once
        only := by rw [OutputPump.step, drainCompletedOutputs_outputs]; exact marks.only
        cleared := by rw [OutputPump.step, drainCompletedOutputs_outputs]; exact marks.cleared }

theorem tracked_created (maxLtrFrames : Nat) : (created maxLtrFrames).Tracked where
  bounded := nofun
  unique := nofun
  pending _ := nofun
  distinct := ⟨List.nodup_nil, nofun⟩
  completed := nofun
  committing := nofun
  entries _ := nofun
  evicted := nofun
  marked _ := nofun

theorem marksDelivered_created (maxLtrFrames : Nat) : (created maxLtrFrames).MarksDelivered where
  once := nofun
  only := nofun
  cleared := nofun

/-- Every recovery mark is delivered with its frame if and only if the pump completes no recovered
frame before `encode_frame` has committed it. -/
theorem marksDelivered_iff (maxLtrFrames : Nat) (events : List PumpEvent) :
    (∀ past, past <+: events → (run step past (created maxLtrFrames)).MarksDelivered) ↔
      Meets step CompletedInTime events (created maxLtrFrames) :=
  reached_iff_meets step Tracked MarksDelivered (fun event _ tracked => tracked.step event)
    (fun event _ tracked marks => marksDelivered_step_iff tracked marks event) events
    (tracked_created maxLtrFrames) (marksDelivered_created maxLtrFrames)

/-- Frame 3 recovers the loss of frame 2, and the pump completes it before its commit. -/
def overtakenCommit : List PumpEvent :=
  [.requestIdr, .submitInput 1 {}, .commit, .queryOutput 1, .completeOutput false [],
    .submitInput 2 {}, .commit, .queryOutput 2, .completeOutput false [],
    .invalidateRefFrames 2 2, .submitInput 3 {}, .queryOutput 3, .completeOutput false [], .commit]

theorem overtakenCommit_unmarked :
    ¬ (run step overtakenCommit (created 2)).MarksDelivered := by
  intro marks
  have left : (3 : Nat) ∉ (run step overtakenCommit (created 2)).frameRfiFlags :=
    marks.cleared ⟨3, false⟩ (by decide)
  exact left (by decide)

end OutputPump

end UmbraHost.Amf
