import UmbraHost.DisplayHelper.StraightLine
import UmbraHost.DisplayHelper.TakeUp
import UmbraHost.Queue.Superseding

/-! # What the handlers do to the deferred queue

`deferred_mutation_commands_` is a queue of barriers and superseding intents:
a RESET keeps its place, and of APPLY, REVERT and DISARM only the newest waits.
Handlers leave it as it is, or enqueue one command behind a raised fence; only
the drain takes commands out. -/

namespace UmbraHost.DisplayHelper

open Queue (Move enqueue Ledger)

def Effect.move? : Effect → Option (Move DeferredMutationCommand)
  | .queued command => some (.push command)
  | .drained command => some (.pop command)
  | _ => none

def moves (effects : List Effect) : List (Move DeferredMutationCommand) :=
  effects.filterMap Effect.move?

@[simp] theorem moves_append (first second : List Effect) :
    moves (first ++ second) = moves first ++ moves second := by
  simp [moves]

@[simp] theorem moves_nil : moves [] = [] := rfl

@[simp] theorem moves_cons (effect : Effect) (rest : List Effect) :
    moves (effect :: rest) = effect.move?.toList ++ moves rest := by
  cases effect <;> rfl

attribute [simp] Effect.move?

@[simp] theorem moves_ite (condition : Prop) [Decidable condition] (first second : List Effect) :
    moves (if condition then first else second) =
      if condition then moves first else moves second :=
  apply_ite moves condition first second

@[simp] theorem moves_dispatched (tasks : List Task) : moves (tasks.map .dispatched) = [] :=
  filterMap_dispatched _ (fun _ => rfl) tasks

@[simp] theorem moves_applyReply (status : ApplyStatus) (world : World) :
    moves (world.applyReply status) = [] :=
  filterMap_applyReply _ (fun _ _ _ => rfl) status world

@[simp] theorem moves_verificationReply (success : Bool) (world : World) :
    moves (world.verificationReply success) = [] :=
  filterMap_verificationReply _ (fun _ _ _ => rfl) success world

@[simp] theorem moves_captureFilteredAndSave (reading : Reading) (tier : SnapshotTier)
    (exclusions : List String) (remaining attempt : Nat) :
    moves (World.captureFilteredAndSave reading tier exclusions remaining attempt).1 = [] :=
  filterMap_captureFilteredAndSave _ (fun _ _ _ _ => rfl) reading tier exclusions remaining attempt

@[simp] theorem moves_refreshCurrentPreservingPrevious (reading : Reading)
    (exclusions : List String) :
    moves (World.refreshCurrentPreservingPrevious reading exclusions).1 = [] :=
  filterMap_refreshCurrentPreservingPrevious _ (fun _ _ _ _ => rfl) reading exclusions

/-- The queue and how it came about. -/
structure Backlog where
  queue : List DeferredMutationCommand
  moves : List (Move DeferredMutationCommand)

namespace Backlog

@[simp] def push (command : DeferredMutationCommand) (backlog : Backlog) : Backlog :=
  { queue := enqueue DeferredMutationCommand.isReset command backlog.queue
    moves := backlog.moves ++ [.push command] }

def Recorded (backlog : Backlog) : Prop :=
  Ledger DeferredMutationCommand.isReset backlog.moves backlog.queue

theorem Recorded.push {backlog : Backlog} (recorded : backlog.Recorded)
    (command : DeferredMutationCommand) : (backlog.push command).Recorded :=
  Ledger.push recorded command

end Backlog

namespace World

@[simp] def backlog (world : World) : Backlog :=
  { queue := world.fence.deferredMutationCommands
    moves := moves world.ports.effects }

theorem queue_of_backlog {before after : World} (same : after.backlog = before.backlog) :
    after.fence.deferredMutationCommands = before.fence.deferredMutationCommands :=
  congrArg Backlog.queue same

/-- A command that waits has something to wait for. -/
def Fenced (world : World) : Prop :=
  world.fence.deferredMutationCommands = [] ∨ world.fenceDown = false
deriving Decidable

/-- The queue is as it was, and a raised fence stays up. -/
structure Still (before after : World) : Prop where
  backlog : after.backlog = before.backlog
  fence : before.fenceDown = false → after.fenceDown = false

theorem Still.unchanged {world : World} : Still world world :=
  ⟨rfl, id⟩

theorem Still.trans {before between after : World} (first : Still before between)
    (second : Still between after) : Still before after :=
  ⟨second.backlog.trans first.backlog, second.fence ∘ first.fence⟩

/-- What a handler that returns without a drain does to the queue: nothing, or it
enqueues the command that its message offers. -/
inductive Defers (offer : Option DeferredMutationCommand) (before after : World) : Prop where
  | still (still : Still before after)
  | enqueued (command : DeferredMutationCommand) (offered : offer = some command)
      (backlog : after.backlog = before.backlog.push command) (up : after.fenceDown = false)

theorem Defers.recorded {offer : Option DeferredMutationCommand} {before after : World}
    (defers : Defers offer before after)
    (recorded : before.backlog.Recorded) : after.backlog.Recorded := by
  cases defers with
  | still still => exact still.backlog ▸ recorded
  | enqueued command _ same _ => exact same ▸ recorded.push command

theorem Defers.fenced {offer : Option DeferredMutationCommand} {before after : World}
    (defers : Defers offer before after)
    (fenced : before.Fenced) : after.Fenced := by
  cases defers with
  | still still =>
      exact fenced.imp (queue_of_backlog still.backlog).trans still.fence
  | enqueued _ _ _ up => exact .inr up

/-! ## Commands -/

/-- A command handled behind the fence is refused or enqueued; with the fence
down it leaves the queue alone. -/
inductive Behind (command : DeferredMutationCommand) (before after : World) : Prop where
  | refused (still : Still before after) (tasks : after.ports.tasks = before.ports.tasks)
  | enqueued (backlog : after.backlog = before.backlog.push command)
      (tasks : after.ports.tasks = before.ports.tasks) (raised : before.fenceDown = false)
      (up : after.fenceDown = false)
  | accepted (down : before.fenceDown = true) (backlog : after.backlog = before.backlog)

theorem acceptApplyCommand_backlog (reading : Reading) (command : ApplyCommand) (world : World) :
    (world.acceptApplyCommand reading command).backlog = world.backlog := by
  simp only [acceptApplyCommand]
  split
  · simp
  · simp

theorem acceptRevertCommand_backlog (reading : Reading) (command : RevertCommand) (world : World) :
    (world.acceptRevertCommand reading command).backlog = world.backlog := by
  simp only [acceptRevertCommand]
  split
  · simp
  · split
    · simp
    · simp

theorem acceptDisarmCommand_backlog (world : World) :
    world.acceptDisarmCommand.backlog = world.backlog := by
  simp only [acceptDisarmCommand]
  split
  · simp
  · simp

theorem handleApplyCommand_behind (reading : Reading) (command : ApplyCommand) (world : World) :
    Behind (.apply command) world (world.handleApplyCommand reading command) := by
  simp only [handleApplyCommand]
  split
  · exact .refused .unchanged rfl
  · split
    next up =>
      simp only [resetTransientDisconnectSettlement, mutationWorkerActive] at up
      exact .enqueued (by simp [enqueue]) (by simp) (by simp [up]) (by simp [up])
    next down =>
      split
      next pending =>
        simp only [resetTransientDisconnectSettlement] at pending
        exact .enqueued (by simp [enqueue]) (by simp) (by simp [pending]) (by simp [pending])
      · exact .accepted (by simp_all) ((acceptApplyCommand_backlog _ _ _).trans (by simp))

theorem handleRevertCommand_behind (reading : Reading) (command : RevertCommand) (world : World) :
    Behind (.revert command) world (world.handleRevertCommand reading command) := by
  simp only [handleRevertCommand]
  split
  · exact .refused .unchanged rfl
  · split
    · exact .refused ⟨by simp, by simp⟩ (by simp)
    · split
      next up =>
        simp only [noteRevert_eq, mutationWorkerActive] at up
        exact .enqueued (by simp [enqueue]) (by simp) (by simp [up]) (by simp [up])
      next down =>
        split
        next pending =>
          simp only [noteRevert_eq] at pending
          exact .enqueued (by simp [enqueue]) (by simp) (by simp [pending]) (by simp [pending])
        · exact .accepted (by simp_all) ((acceptRevertCommand_backlog _ _ _).trans (by simp))

theorem handleDisarmCommand_behind (reading : Reading) (command : DisarmCommand) (world : World) :
    Behind (.disarm command) world (world.handleDisarmCommand reading command) := by
  simp only [handleDisarmCommand]
  split
  · exact .refused .unchanged rfl
  · split
    · exact .refused .unchanged rfl
    · split
      next pending =>
        simp only [resetTransientDisconnectSettlement] at pending
        exact .enqueued (by simp [enqueue]) (by simp) (by simp [pending]) (by simp [pending])
      next settled =>
        split
        next up =>
          simp only [resetTransientDisconnectSettlement, mutationWorkerActive] at up
          exact .enqueued (by simp [enqueue]) (by simp) (by simp [up]) (by simp [up])
        · exact .accepted (by simp_all) ((acceptDisarmCommand_backlog _).trans (by simp))

theorem handleResetCommand_behind (reading : Reading) (command : ResetCommand) (world : World) :
    Behind (.reset command) world (world.handleResetCommand reading command) := by
  simp only [handleResetCommand]
  split
  · exact .refused .unchanged rfl
  · split
    next pending => exact .enqueued (by simp [enqueue]) (by simp) (by simp [pending]) (by simp [pending])
    next settled =>
      split
      next up =>
        simp only [mutationWorkerActive] at up
        exact .enqueued (by simp [enqueue]) (by simp) (by simp [up]) (by simp [up])
      · exact .accepted (by simp_all) (by simp)

theorem handleDeferred_behind (reading : Reading) (command : DeferredMutationCommand)
    (world : World) : Behind command world (world.handleDeferred reading command) := by
  cases command with
  | apply command => exact handleApplyCommand_behind reading command world
  | revert command => exact handleRevertCommand_behind reading command world
  | disarm command => exact handleDisarmCommand_behind reading command world
  | reset command => exact handleResetCommand_behind reading command world

theorem Behind.defers {command : DeferredMutationCommand} {before after : World}
    (behind : Behind command before after) : Defers (some command) before after := by
  cases behind with
  | refused still _ => exact .still still
  | enqueued backlog _ _ up => exact .enqueued command rfl backlog up
  | accepted down backlog =>
      exact .still ⟨backlog, fun up => absurd (down.symm.trans up) (by simp)⟩

theorem handleExportGolden_still (reading : Reading) (command : ExportGoldenCommand)
    (world : World) : Still world (world.handleExportGolden reading command) := by
  simp only [handleExportGolden]
  split
  · exact .unchanged
  · split
    · exact .unchanged
    · split
      · exact ⟨by simp, by simp⟩
      · exact ⟨by simp, by simp⟩

theorem handleSnapshotCurrent_still (reading : Reading) (command : SnapshotCurrentCommand)
    (world : World) : Still world (world.handleSnapshotCurrent reading command) := by
  simp only [handleSnapshotCurrent]
  split
  · exact .unchanged
  · split
    · exact ⟨by simp, by simp⟩
    · exact ⟨by simp, by simp⟩

theorem handlePingCommand_still (reading : Reading) (command : PingCommand) (world : World) :
    Still world (world.handlePingCommand reading command) := by
  simp only [handlePingCommand]
  split
  · exact .unchanged
  · exact ⟨by simp, by simp⟩

theorem handleStopCommand_still (reading : Reading) (command : StopCommand) (world : World) :
    Still world (world.handleStopCommand reading command) := by
  simp only [handleStopCommand]
  split
  · exact .unchanged
  · exact ⟨by simp, by simp⟩

theorem handleRefreshRateCommand_still (reading : Reading) (command : RefreshRateCommand)
    (world : World) : Still world (world.handleRefreshRateCommand reading command) := by
  simp only [handleRefreshRateCommand]
  split
  · exact .unchanged
  · split
    · exact ⟨by simp, by simp⟩
    · split
      · exact ⟨by simp, by simp⟩
      · split
        · exact ⟨by simp, by simp⟩
        · split
          · exact ⟨by simp, by simp⟩
          · exact ⟨by simp, by simp⟩

/-! ## Verifications -/

theorem dispatchNextTransientDisconnectVerification_still (world : World) :
    Still world world.dispatchNextTransientDisconnectVerification.2 := by
  rcases world.dispatchNextTransientDisconnectVerification_cases with
    ⟨pending, _⟩ | done | ⟨_, delay, next⟩
  · rw [pending]
    exact .unchanged
  · rw [done]
    exact ⟨by simp, by simp⟩
  · rw [next]
    exact ⟨by simp, by simp⟩

theorem scheduleNextPostApplyStabilization_still (world : World) :
    Still world world.scheduleNextPostApplyStabilization := by
  rcases world.scheduleNextPostApplyStabilization_cases with same | ⟨_, delay, next⟩
  · rw [same]
    exact .unchanged
  · rw [next]
    exact ⟨by simp, by simp⟩

theorem enterSteadyState_still (world : World) : Still world world.enterSteadyState :=
  ⟨by simp, by simp⟩

theorem releaseCaptureGate_still (world : World) : Still world world.releaseCaptureGate := by
  simp only [releaseCaptureGate]
  split
  · exact .unchanged
  · simp only [openCaptureGate]
    split
    · split
      · exact ⟨by simp, by simp⟩
      · exact ⟨by simp, by simp⟩
    · split
      · exact ⟨by simp, by simp⟩
      · exact ⟨by simp, by simp⟩

theorem settleDisconnectedCheck_still (world : World) : Still world world.settleDisconnectedCheck := by
  have next := world.dispatchNextTransientDisconnectVerification_still
  simp only [settleDisconnectedCheck]
  split
  · exact next
  · split
    · exact next.trans (enterSteadyState_still _)
    · exact next.trans ⟨by simp, by simp⟩

theorem handleTransientDisconnectCheck_still (success : Bool) (world : World) :
    Still world (world.handleTransientDisconnectCheck success) := by
  simp only [handleTransientDisconnectCheck]
  split
  · split
    · exact ⟨by simp, by simp⟩
    · exact ⟨by simp, by simp⟩
  · split
    · exact ⟨by simp, by simp⟩
    · exact ⟨by simp, by simp⟩

theorem handleInitialSuccess_still (world : World) : Still world world.handleInitialSuccess := by
  have released := world.releaseCaptureGate_still
  simp only [handleInitialSuccess]
  split
  · have next := released.trans (dispatchNextTransientDisconnectVerification_still _)
    split
    · exact next
    · exact next.trans (enterSteadyState_still _)
  · exact (released.trans (scheduleNextPostApplyStabilization_still _)).trans
      (enterSteadyState_still _)

theorem dispatchNextVerificationReapply_still (world : World) :
    Still world world.dispatchNextVerificationReapply.2 := by
  simp only [dispatchNextVerificationReapply]
  split
  · exact .unchanged
  · split
    · exact ⟨by simp, by simp⟩
    · exact ⟨by simp, by simp⟩

theorem handleInitialFailure_still (world : World) : Still world world.handleInitialFailure := by
  simp only [handleInitialFailure]
  split
  · exact world.settleDisconnectedCheck_still
  · have rewound : Still world world.rewindPostApplyStabilization := ⟨by simp, by simp⟩
    have next := rewound.trans (dispatchNextVerificationReapply_still _)
    split
    · exact next
    · split
      · exact next.trans (enterSteadyState_still _)
      · exact next.trans ⟨by simp, by simp⟩

theorem handleStabilizationSuccess_still (world : World) :
    Still world world.handleStabilizationSuccess := by
  simp only [handleStabilizationSuccess]
  split
  · have next := world.dispatchNextTransientDisconnectVerification_still
    split
    · exact next
    · exact next.trans (enterSteadyState_still _)
  · exact world.scheduleNextPostApplyStabilization_still

theorem handleStabilizationFailure_still (world : World) :
    Still world world.handleStabilizationFailure := by
  simp only [handleStabilizationFailure]
  split
  · exact world.settleDisconnectedCheck_still
  · exact ⟨by simp, by simp⟩

theorem handleVerificationCompleted_still (completed : VerificationCompleted) (world : World) :
    Still world (world.handleVerificationCompleted completed) := by
  have checked : Still world { world with settling :=
      { world.settling with postApplyCheckPending := false } } := ⟨by simp, by simp⟩
  simp only [handleVerificationCompleted]
  split
  · exact .unchanged
  · split
    · exact world.handleTransientDisconnectCheck_still _
    · split
      · exact checked.trans (handleStabilizationSuccess_still _)
      · exact checked.trans (handleStabilizationFailure_still _)
    · split
      · exact world.handleInitialSuccess_still
      · exact world.handleInitialFailure_still

/-! ## Events -/

/-- The display event queues the current request again, behind an active
mutation. -/
def requeues (reading : Reading) (event : DisplayEventMessage) (world : World) : Bool :=
  !world.isStale event.generation && world.mutationWorkerActive &&
    !world.sameVirtualDevice reading &&
    (world.fence.state == .virtualDisplayMonitoring ||
      ((world.fence.state == .inProgress || world.fence.state == .verification) &&
        world.session.currentRequest.virtualLayout.isSome && !world.debounced (reading.now 0)))

/-- The APPLY that it queues. -/
def restarted (reading : Reading) (world : World) : ApplyCommand :=
  (world.retargetVirtualDisplayDeviceIdIfNeeded (reading.virtualDeviceId 1)).restartCommand

theorem queueRestart_backlog (reading : Reading) (world : World) :
    (world.queueRestart reading).backlog = world.backlog.push (.apply (world.restarted reading)) := by
  simp [enqueue, restarted]

theorem displayEventInEventLoop_still (reading : Reading) (world : World) :
    Still world (world.displayEventInEventLoop reading) := by
  simp only [displayEventInEventLoop]
  split
  · split
    · exact ⟨by simp, by simp⟩
    · exact ⟨by simp, by simp⟩
  · exact .unchanged

theorem handleDisplayEvent_of_requeues {reading : Reading} {event : DisplayEventMessage}
    {world : World} (again : world.requeues reading event = true) :
    (world.handleDisplayEvent reading event).backlog =
        world.backlog.push (.apply (world.restarted reading)) ∧
      (world.handleDisplayEvent reading event).fenceDown = false := by
  simp only [requeues, mutationWorkerActive, Bool.and_eq_true, Bool.or_eq_true,
    Bool.not_eq_true', beq_iff_eq] at again
  obtain ⟨⟨⟨fresh, up⟩, other⟩, place⟩ := again
  rcases place with monitoring | ⟨⟨applying | verifying, virtual⟩, spaced⟩
  · simp only [handleDisplayEvent, fresh, monitoring, displayEventWhileMonitoring,
      mutationWorkerActive, up, other]
    exact ⟨queueRestart_backlog reading world, by simp [up]⟩
  · simp only [handleDisplayEvent, fresh, applying, virtual, displayEventDuringApply, spaced,
      mutationWorkerActive, up, other]
    exact ⟨queueRestart_backlog reading _, by simp [up]⟩
  · simp only [handleDisplayEvent, fresh, verifying, virtual, displayEventDuringApply, spaced,
      mutationWorkerActive, up, other]
    exact ⟨queueRestart_backlog reading _, by simp [up]⟩

theorem displayEventWhileMonitoring_still {reading : Reading} {world : World}
    (lone : (world.mutationWorkerActive && !world.sameVirtualDevice reading) = false) :
    Still world (world.displayEventWhileMonitoring reading) := by
  simp only [displayEventWhileMonitoring]
  split
  next up =>
    rw [up] at lone
    rw [if_pos (by simpa using lone)]
    exact .unchanged
  · split
    · split
      · exact .unchanged
      · exact ⟨by simp, by simp⟩
    · exact ⟨by simp, by simp⟩

theorem displayEventDuringApply_still {reading : Reading} {world : World}
    (lone : (world.mutationWorkerActive && !world.sameVirtualDevice reading &&
      !world.debounced (reading.now 0)) = false) :
    Still world (world.displayEventDuringApply reading) := by
  simp only [displayEventDuringApply]
  split
  · exact .unchanged
  next other =>
    split
    · exact .unchanged
    next spaced =>
      have down : world.mutationWorkerActive = false := by
        simpa only [other, spaced, Bool.not_false, Bool.and_true] using lone
      rw [if_neg (by simpa using down)]
      exact ⟨by simp, by simp⟩

theorem handleDisplayEvent_of_not_requeues {reading : Reading} {event : DisplayEventMessage}
    {world : World} (alone : world.requeues reading event = false) :
    Still world (world.handleDisplayEvent reading event) := by
  simp only [requeues] at alone
  simp only [handleDisplayEvent]
  split
  · exact .unchanged
  next fresh =>
    split
    next monitoring =>
      refine displayEventWhileMonitoring_still ?_
      simpa only [fresh, monitoring, beq_self_eq_true, Bool.true_or, Bool.and_true, Bool.not_false,
        Bool.true_and] using alone
    next applying =>
      split
      next virtual =>
        refine displayEventDuringApply_still ?_
        simp only [fresh, applying, virtual] at alone
        simpa using alone
      · exact .unchanged
    next verifying =>
      split
      next virtual =>
        refine displayEventDuringApply_still ?_
        simp only [fresh, verifying, virtual] at alone
        simpa using alone
      · exact .unchanged
    · exact world.displayEventInEventLoop_still reading
    · exact .unchanged

theorem handleDisplayEvent_defers (reading : Reading) (event : DisplayEventMessage)
    (world : World) :
    Defers (some (.apply (world.restarted reading))) world
      (world.handleDisplayEvent reading event) := by
  cases again : world.requeues reading event with
  | true =>
      obtain ⟨backlog, up⟩ := handleDisplayEvent_of_requeues again
      exact .enqueued _ rfl backlog up
  | false => exact .still (handleDisplayEvent_of_not_requeues again)

theorem handleHelperEvent_defers (reading : Reading) (event : HelperEventMessage)
    (world : World) :
    Defers (some (world.heartbeatIntent event.connectionEpoch)) world
      (world.handleHelperEvent reading event) := by
  simp only [handleHelperEvent]
  split
  · exact .still .unchanged
  · split
    · exact .still .unchanged
    · split
      · exact .still .unchanged
      · split
        · exact .still .unchanged
        · split
          next up =>
            split
            · exact .still .unchanged
            · exact .enqueued _ rfl (by simp [enqueue]) (by simp_all)
          · split
            · exact .still ⟨by simp, by simp⟩
            · exact .still ⟨by simp, by simp⟩

theorem handleTick_still (reading : Reading) (world : World) :
    Still world (world.handleTick reading) := by
  simp only [handleTick]
  split
  · exact .unchanged
  · split
    · exact ⟨by simp, by simp⟩
    · split
      · exact ⟨by simp, by simp⟩
      · exact ⟨by simp, by simp⟩

theorem replacePostApplyStabilization_still (world : World) :
    Still world world.replacePostApplyStabilizationWithTransientDisconnectSettlement := by
  rcases world.replacePostApplyStabilization_cases with ⟨_, same⟩ | ⟨_, same⟩
  · rw [same]
    exact ⟨by simp, by simp⟩
  · rw [same]
    exact ⟨by simp, by simp⟩

theorem beginTransientDisconnectSettlement_still (reading : Reading) (world : World) :
    Still world (world.beginTransientDisconnectSettlement reading).2 := by
  have noted : Still world world.noteTransientDisconnect := ⟨by simp, by simp⟩
  have requested : Still world world.requestTransientDisconnectSettlement := by
    rcases world.requestTransientDisconnectSettlement_cases with ⟨_, same⟩ | ⟨_, same⟩
    · exact same ▸ noted
    · exact same ▸ noted.trans (replacePostApplyStabilization_still _)
  simp only [beginTransientDisconnectSettlement]
  split
  · exact .unchanged
  · split
    · exact .unchanged
    · split
      · exact requested
      · exact requested.trans (dispatchNextTransientDisconnectVerification_still _)

theorem markRestoreAttempted_still (world : World) : Still world world.markRestoreAttempted := by
  simp only [markRestoreAttempted]
  split
  · exact ⟨rfl, id⟩
  · exact .unchanged

/-! ## Completions -/

/-- How a completion leaves the queue: the next worker takes the fence, the
handler drains, or it returns with the fence lowered although commands may wait. -/
inductive Leaves (before : World) (reason : Prop) : Ending → Prop where
  | raises {after : World} (backlog : after.backlog = before.backlog)
      (up : after.fenceDown = false) : Leaves before reason (.returns after)
  | drains {after : World} {epilogue : Epilogue} (backlog : after.backlog = before.backlog) :
      Leaves before reason (.drains after epilogue)
  | abandons {after : World} (abandoned : reason) (backlog : after.backlog = before.backlog) :
      Leaves before reason (.returns after)

theorem Leaves.imp {before between : World} {weaker stronger : Prop} {ending : Ending}
    (same : between.backlog = before.backlog) (implied : stronger → weaker)
    (leaves : Leaves between stronger ending) : Leaves before weaker ending := by
  cases leaves with
  | raises backlog up => exact .raises (backlog.trans same) up
  | drains backlog => exact .drains (backlog.trans same)
  | abandons abandoned backlog => exact .abandons (implied abandoned) (backlog.trans same)

/-- The disconnect ladder has a check to go on with. -/
def nextDisconnectCheck (world : World) : Bool :=
  world.settling.transientDisconnectCheckPending ||
    (world.settling.transientDisconnectSettlementRequested &&
      world.session.currentRequest.configuration.isSome &&
      world.settling.nextTransientDisconnectCheck < transientDisconnectDelays.length)

theorem dispatchNextTransientDisconnectVerification_fst (world : World) :
    world.dispatchNextTransientDisconnectVerification.1 = world.nextDisconnectCheck := by
  simp only [dispatchNextTransientDisconnectVerification, nextDisconnectCheck]
  split
  next pending => simp [pending]
  next free =>
    have clear : world.settling.transientDisconnectCheckPending = false := by simpa using free
    rw [clear, Bool.false_or]
    split
    next ended =>
      rcases Bool.or_eq_true_iff.mp ended with quiet | bare
      · simp [show world.settling.transientDisconnectSettlementRequested = false by simpa using quiet]
      · simp [Option.isNone_iff_eq_none.mp bare]
    next climbing =>
      rw [Bool.or_eq_true, not_or] at climbing
      obtain ⟨requested, configured⟩ := climbing
      split
      next none => simp [List.getElem?_eq_none_iff.mp none]
      next delay found =>
        obtain ⟨bound, _⟩ := List.getElem?_eq_some_iff.mp found
        simp_all [Option.isSome_iff_ne_none]

/-- The apply completion hands its session over to the next disconnect check. -/
def handsOver (reading : Reading) (completed : ApplyCompleted) (world : World) : Bool :=
  world.ownsActiveWorker .apply completed.generation && !world.isStale completed.generation &&
    world.nextDisconnectCheck &&
    if completed.status = .ok then world.settling.transientDisconnectRepairInFlight
    else
      world.settling.transientDisconnectSettlementRequested &&
        (world.ports.policy.maybeResetVirtualDisplay (reading.now 0) completed.status
          completed.virtualDisplayRequested).1 ≠ .resetVirtualDisplay

/-- The failed staged-state reset of a finished recovery retires the helper. -/
def retiresHelper (completed : ResetCompleted) (world : World) : Bool :=
  world.fence.exitAfterStagedStateReset && !completed.success

theorem settleSuccessfulApply_leaves (world : World) :
    Leaves world (world.nextDisconnectCheck = true ∧
      world.settling.transientDisconnectRepairInFlight = true) world.settleSuccessfulApply := by
  simp only [settleSuccessfulApply]
  split
  next repairing =>
    have next := world.landTransientDisconnectRepair.dispatchNextTransientDisconnectVerification_still
    have fst := world.landTransientDisconnectRepair.dispatchNextTransientDisconnectVerification_fst
    split
    next more => exact .abandons ⟨fst.symm.trans more, repairing⟩ (next.backlog.trans (by simp))
    · exact .drains (Eq.trans (by simp) (next.backlog.trans (by simp)))
  · exact .drains (by simp)

theorem concludeFailedApply_leaves (completed : ApplyCompleted) (world : World) (reason : Prop) :
    Leaves world reason (world.concludeFailedApply completed) := by
  simp only [concludeFailedApply]
  split
  · exact .drains (by simp)
  · exact .drains (by simp)

theorem retryFailedApply_leaves (completed : ApplyCompleted) (world : World) (reason : Prop) :
    Leaves world reason (world.retryFailedApply completed) := by
  simp only [retryFailedApply]
  split
  · exact .raises (by simp) (by simp)
  · split
    · exact .raises (by simp [fallbackToSdr]) (by simp [fallbackToSdr])
    · exact concludeFailedApply_leaves completed world reason

theorem settleOrRetryFailedApply_leaves (completed : ApplyCompleted) (world : World) :
    Leaves world (world.nextDisconnectCheck = true ∧
      world.settling.transientDisconnectSettlementRequested = true)
      (world.settleOrRetryFailedApply completed) := by
  simp only [settleOrRetryFailedApply]
  split
  next requested =>
    have next := world.landTransientDisconnectRepair.dispatchNextTransientDisconnectVerification_still
    have fst := world.landTransientDisconnectRepair.dispatchNextTransientDisconnectVerification_fst
    have landed : Still world world.landTransientDisconnectRepair := ⟨by simp, by simp⟩
    split
    next more => exact .abandons ⟨fst.symm.trans more, requested⟩ (next.backlog.trans (by simp))
    · exact .imp (landed.trans next).backlog id (retryFailedApply_leaves completed _ _)
  · exact retryFailedApply_leaves completed world _

theorem handleApplyCompleted_leaves (reading : Reading) {completed : ApplyCompleted}
    {world : World} (owns : world.ownsActiveWorker .apply completed.generation = true) :
    Leaves world (world.handsOver reading completed = true)
      (world.handleApplyCompleted reading completed) := by
  simp only [handleApplyCompleted, owns, ↓reduceIte]
  split
  · simp only [retireCancelledApply]
    split
    · exact .drains (by simp [retainRecoveryAfterDisplayMutation])
    · exact .drains (by simp)
  next fresh =>
    have current : world.isStale completed.generation = false := by simpa using fresh
    simp only [settleApply]
    split
    next ok =>
      refine .imp (by simp) ?_ (settleSuccessfulApply_leaves _)
      rintro ⟨more, repairing⟩
      have more : world.nextDisconnectCheck = true := by simpa [nextDisconnectCheck] using more
      have repairing : world.settling.transientDisconnectRepairInFlight = true := by
        simpa using repairing
      simp only [handsOver, owns, current, more, ok, repairing]
      rfl
    next failed =>
      simp only [settleFailedApply]
      split
      · exact .raises (by simp) (by simp)
      next kept =>
        refine .imp (by simp) ?_ (settleOrRetryFailedApply_leaves completed _)
        rintro ⟨more, requested⟩
        have more : world.nextDisconnectCheck = true := by simpa [nextDisconnectCheck] using more
        have requested : world.settling.transientDisconnectSettlementRequested = true := by
          simpa using requested
        simp only [handsOver, owns, current, more, failed, requested]
        simpa using kept

theorem handleResetCompleted_leaves (completed : ResetCompleted) (world : World) :
    Leaves world (world.retiresHelper completed = true) (world.handleResetCompleted completed) := by
  simp only [handleResetCompleted]
  split
  next retires => exact .abandons retires (by simp)
  · exact .drains (by simp)

theorem restartSettlingAfterRefresh_still (completed : RefreshRateCompleted) (world : World) :
    Still world (world.restartSettlingAfterRefresh completed) := by
  simp only [restartSettlingAfterRefresh]
  split
  · exact .trans ⟨by simp, by simp⟩ (replacePostApplyStabilization_still _)
  · exact .trans ⟨by simp, by simp⟩ (scheduleNextPostApplyStabilization_still _)

theorem settleAfterRefresh_still (completed : RefreshRateCompleted) (world : World) :
    Still world (world.settleAfterRefresh completed) := by
  have settles : ∀ {refreshed : World}, Still world refreshed →
      Still world (if refreshed.settling.transientDisconnectSettlementRequested then
        refreshed.dispatchNextTransientDisconnectVerification.2 else refreshed) := by
    intro refreshed still
    split
    · exact still.trans (dispatchNextTransientDisconnectVerification_still _)
    · exact still
  simp only [settleAfterRefresh]
  refine settles ?_
  split
  · exact world.restartSettlingAfterRefresh_still completed
  · exact .unchanged

theorem handleRefreshRateCompleted_leaves {completed : RefreshRateCompleted} {world : World}
    (owns : world.ownsActiveWorker .refreshRate completed.generation = true) :
    Leaves world False (world.handleRefreshRateCompleted completed) := by
  simp only [handleRefreshRateCompleted, owns, ↓reduceIte]
  split
  · exact .drains (by simp)
  · have settled := (settleAfterRefresh_still completed (world.setActiveMutationWorker none)).backlog
    exact .drains (Eq.trans (by simp) (settled.trans (by simp)))

theorem handleRecoveryCompleted_leaves (reading : Reading) {completed : RecoveryCompleted}
    {world : World} (owns : world.ownsActiveWorker .recovery completed.generation = true) :
    Leaves world False (world.handleRecoveryCompleted reading completed) := by
  simp only [handleRecoveryCompleted, owns, ↓reduceIte]
  split
  · split
    · exact .drains (by simp)
    · exact .drains (by simp)
  · split
    · exact .raises (by simp [startRecoveryValidation]) (by simp [startRecoveryValidation])
    · exact .drains (by simp)

theorem handleRecoveryValidationCompleted_leaves (reading : Reading)
    {completed : RecoveryValidationCompleted} {world : World}
    (owns : world.ownsActiveWorker .recovery completed.generation = true) :
    Leaves world False (world.handleRecoveryValidationCompleted reading completed) := by
  simp only [handleRecoveryValidationCompleted, owns, ↓reduceIte]
  split
  · exact .drains (by simp)
  · split
    · exact .drains (by simp)
    · exact .drains (by simp)

end World

end UmbraHost.DisplayHelper
