import UmbraHost.DisplayHelper.StraightLine

/-! # Handlers that neither save a snapshot nor decide an exit

Snapshots are saved by APPLY, EXPORT_GOLDEN and SNAPSHOT_CURRENT, and the exit
that waits for a staged-state reset is decided where a recovery is confirmed and
where a reset completes.  All else is quiet. -/

namespace UmbraHost.DisplayHelper

structure Save where
  tier : SnapshotTier
  snapshot : Snapshot
  layouts : LayoutRotations
  written : Bool
deriving DecidableEq, Repr

def Effect.save? : Effect → Option Save
  | .saved tier snapshot layouts written => some { tier, snapshot, layouts, written }
  | _ => none

def saves (effects : List Effect) : List Save :=
  effects.filterMap Effect.save?

@[simp] theorem saves_nil : saves [] = [] := rfl

@[simp] theorem saves_append (first second : List Effect) :
    saves (first ++ second) = saves first ++ saves second := by
  simp [saves]

@[simp] theorem saves_cons (effect : Effect) (rest : List Effect) :
    saves (effect :: rest) = effect.save?.toList ++ saves rest := by
  cases effect <;> rfl

attribute [simp] Effect.save?

@[simp] theorem saves_ite (condition : Prop) [Decidable condition] (first second : List Effect) :
    saves (if condition then first else second) =
      if condition then saves first else saves second :=
  apply_ite saves condition first second

@[simp] theorem saves_dispatched (tasks : List Task) : saves (tasks.map .dispatched) = [] :=
  filterMap_dispatched _ (fun _ => rfl) tasks

@[simp] theorem saves_applyReply (status : ApplyStatus) (world : World) :
    saves (world.applyReply status) = [] :=
  filterMap_applyReply _ (fun _ _ _ => rfl) status world

@[simp] theorem saves_verificationReply (success : Bool) (world : World) :
    saves (world.verificationReply success) = [] :=
  filterMap_verificationReply _ (fun _ _ _ => rfl) success world

namespace World

structure Quiet (before after : World) : Prop where
  saves : saves after.ports.effects = DisplayHelper.saves before.ports.effects
  exit : after.fence.exitAfterStagedStateReset = before.fence.exitAfterStagedStateReset

theorem Quiet.unchanged {world : World} : Quiet world world :=
  ⟨rfl, rfl⟩

theorem Quiet.trans {before between after : World} (first : Quiet before between)
    (second : Quiet between after) : Quiet before after :=
  ⟨second.saves.trans first.saves, second.exit.trans first.exit⟩

/-! ## Commands -/

/-- What the baseline of an accepted APPLY saves. -/
def baselineSaves (reading : Reading) (command : ApplyCommand) (world : World) : List Save :=
  if command.request.configuration.isSome && !reading.tierExists .current then
    saves (captureFilteredAndSave reading .current
      (world.adoptExclusions command.request.snapshotExclusions).ports.snapshotBlacklist
      maxCaptureAttempts 0).1
  else []

theorem acceptApplyCommand_saves (reading : Reading) (command : ApplyCommand) (world : World) :
    saves (world.acceptApplyCommand reading command).ports.effects =
      saves world.ports.effects ++ world.baselineSaves reading command := by
  simp only [acceptApplyCommand, baselineSaves]
  split
  next unconfigured => simp [unconfigured]
  next configuration configured =>
    cases missing : reading.tierExists .current <;> simp [configured, missing]

theorem acceptApplyCommand_exit (reading : Reading) (command : ApplyCommand) (world : World) :
    (world.acceptApplyCommand reading command).fence.exitAfterStagedStateReset =
      world.fence.exitAfterStagedStateReset := by
  simp only [acceptApplyCommand]
  split
  · simp
  · simp

theorem acceptRevertCommand_quiet (reading : Reading) (command : RevertCommand) (world : World) :
    Quiet world (world.acceptRevertCommand reading command) := by
  simp only [acceptRevertCommand]
  split
  · exact ⟨by simp, by simp⟩
  · split
    · exact ⟨by simp, by simp⟩
    · exact ⟨by simp, by simp⟩

theorem handleRevertCommand_quiet (reading : Reading) (command : RevertCommand) (world : World) :
    Quiet world (world.handleRevertCommand reading command) := by
  have noted : Quiet world (world.noteRevert command) := ⟨by simp, by simp⟩
  simp only [handleRevertCommand]
  split
  · exact .unchanged
  · split
    · exact noted
    · split
      · exact noted.trans ⟨by simp, by simp⟩
      · split
        · exact noted.trans ⟨by simp, by simp⟩
        · exact noted.trans (acceptRevertCommand_quiet reading command _)

theorem acceptDisarmCommand_quiet (world : World) : Quiet world world.acceptDisarmCommand := by
  simp only [acceptDisarmCommand]
  split
  · exact ⟨by simp, by simp⟩
  · exact ⟨by simp, by simp⟩

theorem handleDisarmCommand_quiet (reading : Reading) (command : DisarmCommand) (world : World) :
    Quiet world (world.handleDisarmCommand reading command) := by
  simp only [handleDisarmCommand]
  split
  · exact .unchanged
  · split
    · exact .unchanged
    · split
      · exact ⟨by simp, by simp⟩
      · split
        · exact ⟨by simp, by simp⟩
        · exact .trans ⟨by simp, by simp⟩ (acceptDisarmCommand_quiet _)

theorem handleResetCommand_quiet (reading : Reading) (command : ResetCommand) (world : World) :
    Quiet world (world.handleResetCommand reading command) := by
  simp only [handleResetCommand]
  split
  · exact .unchanged
  · split
    · exact ⟨by simp, by simp⟩
    · split
      · exact ⟨by simp, by simp⟩
      · exact ⟨by simp, by simp⟩

theorem handleApplyCommand_exit (reading : Reading) (command : ApplyCommand) (world : World) :
    (world.handleApplyCommand reading command).fence.exitAfterStagedStateReset =
      world.fence.exitAfterStagedStateReset := by
  simp only [handleApplyCommand]
  split
  · rfl
  · split
    · simp
    · split
      · simp
      · exact (acceptApplyCommand_exit reading command _).trans (by simp)

theorem handleDeferred_exit (reading : Reading) (command : DeferredMutationCommand)
    (world : World) :
    (world.handleDeferred reading command).fence.exitAfterStagedStateReset =
      world.fence.exitAfterStagedStateReset := by
  cases command with
  | apply command => exact handleApplyCommand_exit reading command world
  | revert command => exact (handleRevertCommand_quiet reading command world).exit
  | disarm command => exact (handleDisarmCommand_quiet reading command world).exit
  | reset command => exact (handleResetCommand_quiet reading command world).exit

theorem handlePingCommand_quiet (reading : Reading) (command : PingCommand) (world : World) :
    Quiet world (world.handlePingCommand reading command) := by
  simp only [handlePingCommand]
  split
  · exact .unchanged
  · exact ⟨by simp, by simp⟩

theorem handleStopCommand_quiet (reading : Reading) (command : StopCommand) (world : World) :
    Quiet world (world.handleStopCommand reading command) := by
  simp only [handleStopCommand]
  split
  · exact .unchanged
  · exact ⟨by simp, by simp⟩

theorem handleRefreshRateCommand_quiet (reading : Reading) (command : RefreshRateCommand)
    (world : World) : Quiet world (world.handleRefreshRateCommand reading command) := by
  simp only [handleRefreshRateCommand]
  split
  · exact .unchanged
  · split
    · exact ⟨by simp, by simp⟩
    · split
      · exact ⟨by simp, by simp⟩
      · split
        · exact ⟨by simp, by simp⟩
        · split
          · exact ⟨by simp, by simp⟩
          · exact ⟨by simp, by simp⟩

/-! ## Verifications -/

theorem dispatchNextTransientDisconnectVerification_quiet (world : World) :
    Quiet world world.dispatchNextTransientDisconnectVerification.2 := by
  rcases world.dispatchNextTransientDisconnectVerification_cases with
    ⟨pending, _⟩ | done | ⟨_, delay, next⟩
  · rw [pending]
    exact .unchanged
  · rw [done]
    exact ⟨by simp, by simp⟩
  · rw [next]
    exact ⟨by simp, by simp⟩

theorem scheduleNextPostApplyStabilization_quiet (world : World) :
    Quiet world world.scheduleNextPostApplyStabilization := by
  rcases world.scheduleNextPostApplyStabilization_cases with same | ⟨_, delay, next⟩
  · rw [same]
    exact .unchanged
  · rw [next]
    exact ⟨by simp, by simp⟩

theorem replacePostApplyStabilization_quiet (world : World) :
    Quiet world world.replacePostApplyStabilizationWithTransientDisconnectSettlement := by
  rcases world.replacePostApplyStabilization_cases with ⟨_, same⟩ | ⟨_, same⟩
  · rw [same]
    exact ⟨by simp, by simp⟩
  · rw [same]
    exact ⟨by simp, by simp⟩

theorem enterSteadyState_quiet (world : World) : Quiet world world.enterSteadyState :=
  ⟨by simp, by simp⟩

theorem releaseCaptureGate_quiet (world : World) : Quiet world world.releaseCaptureGate := by
  simp only [releaseCaptureGate]
  split
  · exact .unchanged
  · simp only [openCaptureGate]
    split
    · split
      · exact ⟨by simp, by simp⟩
      · exact ⟨by simp, by simp⟩
    · split
      · exact ⟨by simp, by simp⟩
      · exact ⟨by simp, by simp⟩

theorem settleDisconnectedCheck_quiet (world : World) :
    Quiet world world.settleDisconnectedCheck := by
  have next := world.dispatchNextTransientDisconnectVerification_quiet
  simp only [settleDisconnectedCheck]
  split
  · exact next
  · split
    · exact next.trans (enterSteadyState_quiet _)
    · exact next.trans ⟨by simp, by simp⟩

theorem handleTransientDisconnectCheck_quiet (success : Bool) (world : World) :
    Quiet world (world.handleTransientDisconnectCheck success) := by
  simp only [handleTransientDisconnectCheck]
  split
  · split
    · exact ⟨by simp, by simp⟩
    · exact ⟨by simp, by simp⟩
  · split
    · exact ⟨by simp, by simp⟩
    · exact ⟨by simp, by simp⟩

theorem handleInitialSuccess_quiet (world : World) : Quiet world world.handleInitialSuccess := by
  have released := world.releaseCaptureGate_quiet
  simp only [handleInitialSuccess]
  split
  · have next := released.trans (dispatchNextTransientDisconnectVerification_quiet _)
    split
    · exact next
    · exact next.trans (enterSteadyState_quiet _)
  · exact (released.trans (scheduleNextPostApplyStabilization_quiet _)).trans
      (enterSteadyState_quiet _)

theorem dispatchNextVerificationReapply_quiet (world : World) :
    Quiet world world.dispatchNextVerificationReapply.2 := by
  simp only [dispatchNextVerificationReapply]
  split
  · exact .unchanged
  · split
    · exact ⟨by simp, by simp⟩
    · exact ⟨by simp, by simp⟩

theorem handleInitialFailure_quiet (world : World) : Quiet world world.handleInitialFailure := by
  simp only [handleInitialFailure]
  split
  · exact world.settleDisconnectedCheck_quiet
  · have rewound : Quiet world world.rewindPostApplyStabilization := ⟨by simp, by simp⟩
    have next := rewound.trans (dispatchNextVerificationReapply_quiet _)
    split
    · exact next
    · split
      · exact next.trans (enterSteadyState_quiet _)
      · exact next.trans ⟨by simp, by simp⟩

theorem handleStabilizationSuccess_quiet (world : World) :
    Quiet world world.handleStabilizationSuccess := by
  simp only [handleStabilizationSuccess]
  split
  · have next := world.dispatchNextTransientDisconnectVerification_quiet
    split
    · exact next
    · exact next.trans (enterSteadyState_quiet _)
  · exact world.scheduleNextPostApplyStabilization_quiet

theorem handleStabilizationFailure_quiet (world : World) :
    Quiet world world.handleStabilizationFailure := by
  simp only [handleStabilizationFailure]
  split
  · exact world.settleDisconnectedCheck_quiet
  · exact ⟨by simp, by simp⟩

theorem handleVerificationCompleted_quiet (completed : VerificationCompleted) (world : World) :
    Quiet world (world.handleVerificationCompleted completed) := by
  have checked : Quiet world { world with settling :=
      { world.settling with postApplyCheckPending := false } } := ⟨by simp, by simp⟩
  simp only [handleVerificationCompleted]
  split
  · exact .unchanged
  · split
    · exact world.handleTransientDisconnectCheck_quiet _
    · split
      · exact checked.trans (handleStabilizationSuccess_quiet _)
      · exact checked.trans (handleStabilizationFailure_quiet _)
    · split
      · exact world.handleInitialSuccess_quiet
      · exact world.handleInitialFailure_quiet

/-! ## Events -/

theorem displayEventWhileMonitoring_quiet (reading : Reading) (world : World) :
    Quiet world (world.displayEventWhileMonitoring reading) := by
  simp only [displayEventWhileMonitoring]
  split
  · split
    · exact .unchanged
    · exact ⟨by simp, by simp⟩
  · split
    · split
      · exact .unchanged
      · exact ⟨by simp, by simp⟩
    · exact ⟨by simp, by simp⟩

theorem displayEventDuringApply_quiet (reading : Reading) (world : World) :
    Quiet world (world.displayEventDuringApply reading) := by
  simp only [displayEventDuringApply]
  split
  · exact .unchanged
  · split
    · exact .unchanged
    · split
      · exact ⟨by simp, by simp⟩
      · exact ⟨by simp, by simp⟩

theorem displayEventInEventLoop_quiet (reading : Reading) (world : World) :
    Quiet world (world.displayEventInEventLoop reading) := by
  simp only [displayEventInEventLoop]
  split
  · split
    · exact ⟨by simp, by simp⟩
    · exact ⟨by simp, by simp⟩
  · exact .unchanged

theorem handleDisplayEvent_quiet (reading : Reading) (event : DisplayEventMessage)
    (world : World) : Quiet world (world.handleDisplayEvent reading event) := by
  simp only [handleDisplayEvent]
  split
  · exact .unchanged
  · split
    · exact world.displayEventWhileMonitoring_quiet reading
    · split
      · exact world.displayEventDuringApply_quiet reading
      · exact .unchanged
    · split
      · exact world.displayEventDuringApply_quiet reading
      · exact .unchanged
    · exact world.displayEventInEventLoop_quiet reading
    · exact .unchanged

theorem handleHelperEvent_quiet (reading : Reading) (event : HelperEventMessage)
    (world : World) : Quiet world (world.handleHelperEvent reading event) := by
  simp only [handleHelperEvent]
  split
  · exact .unchanged
  · split
    · exact .unchanged
    · split
      · exact .unchanged
      · split
        · exact .unchanged
        · split
          · split
            · exact .unchanged
            · exact ⟨by simp, by simp⟩
          · split
            · exact ⟨by simp, by simp⟩
            · exact ⟨by simp, by simp⟩

theorem handleTick_quiet (reading : Reading) (world : World) :
    Quiet world (world.handleTick reading) := by
  simp only [handleTick]
  split
  · exact .unchanged
  · split
    · exact ⟨by simp, by simp⟩
    · split
      · exact ⟨by simp, by simp⟩
      · exact ⟨by simp, by simp⟩

theorem beginTransientDisconnectSettlement_quiet (reading : Reading) (world : World) :
    Quiet world (world.beginTransientDisconnectSettlement reading).2 := by
  have noted : Quiet world world.noteTransientDisconnect := ⟨by simp, by simp⟩
  have requested : Quiet world world.requestTransientDisconnectSettlement := by
    rcases world.requestTransientDisconnectSettlement_cases with ⟨_, same⟩ | ⟨_, same⟩
    · exact same ▸ noted
    · exact same ▸ noted.trans (replacePostApplyStabilization_quiet _)
  simp only [beginTransientDisconnectSettlement]
  split
  · exact .unchanged
  · split
    · exact .unchanged
    · split
      · exact requested
      · exact requested.trans (dispatchNextTransientDisconnectVerification_quiet _)

theorem markRestoreAttempted_quiet (world : World) : Quiet world world.markRestoreAttempted := by
  simp only [markRestoreAttempted]
  split
  · exact ⟨rfl, rfl⟩
  · exact .unchanged

/-! ## Completions -/

theorem landedRepair_quiet (world : World) :
    Quiet world
      world.landTransientDisconnectRepair.dispatchNextTransientDisconnectVerification.2 :=
  .trans ⟨by simp, by simp⟩ (dispatchNextTransientDisconnectVerification_quiet _)

theorem settleSuccessfulApply_quiet (world : World) :
    Quiet world world.settleSuccessfulApply.world := by
  simp only [settleSuccessfulApply]
  split
  · have next := world.landedRepair_quiet
    split
    · exact next
    · exact next.trans ⟨by simp, by simp⟩
  · exact ⟨by simp, by simp⟩

theorem concludeFailedApply_quiet (completed : ApplyCompleted) (world : World) :
    Quiet world (world.concludeFailedApply completed).world := by
  simp only [concludeFailedApply]
  split
  · exact ⟨by simp, by simp⟩
  · exact ⟨by simp, by simp⟩

theorem retryFailedApply_quiet (completed : ApplyCompleted) (world : World) :
    Quiet world (world.retryFailedApply completed).world := by
  simp only [retryFailedApply]
  split
  · exact ⟨by simp, by simp⟩
  · split
    · exact ⟨by simp [fallbackToSdr], by simp [fallbackToSdr]⟩
    · exact world.concludeFailedApply_quiet completed

theorem settleOrRetryFailedApply_quiet (completed : ApplyCompleted) (world : World) :
    Quiet world (world.settleOrRetryFailedApply completed).world := by
  simp only [settleOrRetryFailedApply]
  split
  · have next := world.landedRepair_quiet
    split
    · exact next
    · exact next.trans (retryFailedApply_quiet completed _)
  · exact world.retryFailedApply_quiet completed

theorem settleApply_quiet (reading : Reading) (completed : ApplyCompleted) (world : World) :
    Quiet world (world.settleApply reading completed).world := by
  have recorded : Quiet world (world.recordApplyOutcome reading completed) :=
    ⟨by simp, by simp⟩
  simp only [settleApply]
  split
  · exact recorded.trans (settleSuccessfulApply_quiet _)
  · simp only [settleFailedApply]
    split
    · exact recorded.trans ⟨by simp, by simp⟩
    · exact recorded.trans (.trans ⟨by simp, by simp⟩ (settleOrRetryFailedApply_quiet completed _))

theorem handleApplyCompleted_quiet (reading : Reading) (completed : ApplyCompleted)
    (world : World) : Quiet world (world.handleApplyCompleted reading completed).world := by
  simp only [handleApplyCompleted]
  split
  · split
    · simp only [retireCancelledApply]
      split
      · exact ⟨by simp [retainRecoveryAfterDisplayMutation],
          by simp [retainRecoveryAfterDisplayMutation]⟩
      · exact ⟨by simp, by simp⟩
    · exact .trans ⟨by simp, by simp⟩ (settleApply_quiet reading completed _)
  · exact .unchanged

theorem restartSettlingAfterRefresh_quiet (completed : RefreshRateCompleted) (world : World) :
    Quiet world (world.restartSettlingAfterRefresh completed) := by
  simp only [restartSettlingAfterRefresh]
  split
  · exact .trans ⟨by simp, by simp⟩ (replacePostApplyStabilization_quiet _)
  · exact .trans ⟨by simp, by simp⟩ (scheduleNextPostApplyStabilization_quiet _)

theorem settleAfterRefresh_quiet (completed : RefreshRateCompleted) (world : World) :
    Quiet world (world.settleAfterRefresh completed) := by
  have settles : ∀ {refreshed : World}, Quiet world refreshed →
      Quiet world (if refreshed.settling.transientDisconnectSettlementRequested then
        refreshed.dispatchNextTransientDisconnectVerification.2 else refreshed) := by
    intro refreshed quiet
    split
    · exact quiet.trans (dispatchNextTransientDisconnectVerification_quiet _)
    · exact quiet
  simp only [settleAfterRefresh]
  refine settles ?_
  split
  · exact world.restartSettlingAfterRefresh_quiet completed
  · exact .unchanged

theorem handleRefreshRateCompleted_quiet (completed : RefreshRateCompleted) (world : World) :
    Quiet world (world.handleRefreshRateCompleted completed).world := by
  simp only [handleRefreshRateCompleted]
  split
  · split
    · exact ⟨by simp, by simp⟩
    · have settled : Quiet world ((world.setActiveMutationWorker none).settleAfterRefresh completed) :=
        .trans ⟨by simp, by simp⟩ (settleAfterRefresh_quiet completed _)
      exact settled.trans ⟨by simp, by simp⟩
  · exact .unchanged

theorem handleRecoveryCompleted_quiet (reading : Reading) (completed : RecoveryCompleted)
    (world : World) : Quiet world (world.handleRecoveryCompleted reading completed).world := by
  simp only [handleRecoveryCompleted]
  split
  · split
    · split
      · exact ⟨by simp, by simp⟩
      · exact ⟨by simp, by simp⟩
    · split
      · exact ⟨by simp [startRecoveryValidation], by simp [startRecoveryValidation]⟩
      · exact ⟨by simp, by simp⟩
  · exact .unchanged

end World

end UmbraHost.DisplayHelper
