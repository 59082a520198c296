import UmbraHost.DisplayHelper.HandlerCustody
import UmbraHost.DisplayHelper.TakeUp

/-! # The recovery lease of an unconfirmed mutation

A cancelled APPLY or recovery that may have changed the desktop keeps the lease
armed and the durable restore task in place.  DISARM respects that; a
disconnect or a lost heartbeat whose policy keeps the display, and a REVERT
with nothing to restore from, clear the lease all the same. -/

namespace UmbraHost.DisplayHelper

/-- The flag of a restore task's deletion. -/
def Effect.guardDeletion? : Effect → Option Bool
  | .deleteRestoreTask unconfirmed => some unconfirmed
  | _ => none

def guardDeletions (effects : List Effect) : List Bool :=
  effects.filterMap Effect.guardDeletion?

@[simp] theorem guardDeletions_nil : guardDeletions [] = [] := rfl

@[simp] theorem guardDeletions_append (first second : List Effect) :
    guardDeletions (first ++ second) = guardDeletions first ++ guardDeletions second := by
  simp [guardDeletions]

@[simp] theorem guardDeletions_cons (effect : Effect) (rest : List Effect) :
    guardDeletions (effect :: rest) = effect.guardDeletion?.toList ++ guardDeletions rest := by
  cases effect <;> rfl

attribute [simp] Effect.guardDeletion?

@[simp] theorem guardDeletions_ite (condition : Prop) [Decidable condition]
    (first second : List Effect) :
    guardDeletions (if condition then first else second) =
      if condition then guardDeletions first else guardDeletions second :=
  apply_ite guardDeletions condition first second

@[simp] theorem guardDeletions_dispatched (tasks : List Task) :
    guardDeletions (tasks.map .dispatched) = [] :=
  filterMap_dispatched _ (fun _ => rfl) tasks

@[simp] theorem guardDeletions_applyReply (status : ApplyStatus) (world : World) :
    guardDeletions (world.applyReply status) = [] :=
  filterMap_applyReply _ (fun _ _ _ => rfl) status world

@[simp] theorem guardDeletions_verificationReply (success : Bool) (world : World) :
    guardDeletions (world.verificationReply success) = [] :=
  filterMap_verificationReply _ (fun _ _ _ => rfl) success world

@[simp] theorem guardDeletions_captureFilteredAndSave (reading : Reading) (tier : SnapshotTier)
    (exclusions : List String) (remaining attempt : Nat) :
    guardDeletions (World.captureFilteredAndSave reading tier exclusions remaining attempt).1 = [] :=
  filterMap_captureFilteredAndSave _ (fun _ _ _ _ => rfl) reading tier exclusions remaining attempt

@[simp] theorem guardDeletions_refreshCurrentPreservingPrevious (reading : Reading)
    (exclusions : List String) :
    guardDeletions (World.refreshCurrentPreservingPrevious reading exclusions).1 = [] :=
  filterMap_refreshCurrentPreservingPrevious _ (fun _ _ _ _ => rfl) reading exclusions

namespace World

/-- An unconfirmed mutation is leased, and no deletion has removed its guard. -/
structure Guarded (world : World) : Prop where
  leased : world.lease.unconfirmedCancelledMutation = true →
    world.lease.recoveryArmed = true ∧ world.lease.displayChangesPendingRecovery = true
  kept : true ∉ guardDeletions world.ports.effects

/-- The lease flags and the deletions are as they were. -/
theorem Guarded.same {before after : World} (guarded : before.Guarded)
    (unconfirmed : after.lease.unconfirmedCancelledMutation =
      before.lease.unconfirmedCancelledMutation)
    (armed : after.lease.recoveryArmed = before.lease.recoveryArmed)
    (pending : after.lease.displayChangesPendingRecovery =
      before.lease.displayChangesPendingRecovery)
    (deletions : guardDeletions after.ports.effects = guardDeletions before.ports.effects) :
    after.Guarded := by
  refine ⟨?_, ?_⟩
  · rw [unconfirmed, armed, pending]
    exact guarded.leased
  · rw [deletions]
    exact guarded.kept

/-- The lease is armed, whatever is unconfirmed. -/
theorem Guarded.armed {before after : World} (guarded : before.Guarded)
    (armed : after.lease.recoveryArmed = true)
    (pending : after.lease.displayChangesPendingRecovery = true)
    (deletions : guardDeletions after.ports.effects = guardDeletions before.ports.effects) :
    after.Guarded :=
  ⟨fun _ => ⟨armed, pending⟩, deletions ▸ guarded.kept⟩

/-- Nothing is unconfirmed. -/
theorem Guarded.confirmed {before after : World} (guarded : before.Guarded)
    (unconfirmed : after.lease.unconfirmedCancelledMutation = false)
    (deletions : guardDeletions after.ports.effects = guardDeletions before.ports.effects ∨
      guardDeletions after.ports.effects = guardDeletions before.ports.effects ++ [false]) :
    after.Guarded := by
  refine ⟨fun set => absurd (unconfirmed.symm.trans set) (by simp), ?_⟩
  rcases deletions with same | one
  · exact same ▸ guarded.kept
  · rw [one]
    simpa using guarded.kept

/-! ## Commands -/

theorem acceptApplyCommand_guarded (reading : Reading) (command : ApplyCommand) {world : World}
    (guarded : world.Guarded) : (world.acceptApplyCommand reading command).Guarded := by
  simp only [acceptApplyCommand]
  split
  · exact guarded.same (by simp) (by simp) (by simp) (by simp)
  · exact guarded.same (by simp) (by simp) (by simp) (by simp)

theorem handleApplyCommand_guarded (reading : Reading) (command : ApplyCommand) {world : World}
    (guarded : world.Guarded) : (world.handleApplyCommand reading command).Guarded := by
  simp only [handleApplyCommand]
  split
  · exact guarded
  · split
    · exact guarded.same (by simp) (by simp) (by simp) (by simp)
    · split
      · exact guarded.same (by simp) (by simp) (by simp) (by simp)
      · exact acceptApplyCommand_guarded reading command
          (guarded.same (by simp) (by simp) (by simp) (by simp))

/-- The REVERT ends the session without a recovery: the disconnect policy keeps
the display, or there is nothing to restore from. -/
def endsSession (reading : Reading) (command : RevertCommand) (world : World) : Bool :=
  (command.fromDisconnect && world.keepsDisplayOnDisconnect) || nothingToRestore reading

theorem acceptRevertCommand_guarded (reading : Reading) (command : RevertCommand) {world : World}
    (guarded : world.Guarded)
    (covered : (world.lease.unconfirmedCancelledMutation &&
      world.endsSession reading command) = false) :
    (world.acceptRevertCommand reading command).Guarded := by
  simp only [acceptRevertCommand]
  split
  next keeps =>
    have confirmed : world.lease.unconfirmedCancelledMutation = false := by
      simpa [endsSession, keeps] using covered
    exact guarded.confirmed (by simpa using confirmed) (.inr (by simp [confirmed]))
  · split
    next nothing =>
      have confirmed : world.lease.unconfirmedCancelledMutation = false := by
        simpa [endsSession, nothing] using covered
      exact guarded.confirmed (by simpa using confirmed) (.inr (by simp [confirmed]))
    · exact guarded.armed (by simp) (by simp) (by simp)

/-- The command is a REVERT that is taken up and ends the session. -/
def endsSessionOn (reading : Reading) (world : World) : DeferredMutationCommand → Bool
  | .revert command =>
      world.fenceDown && !world.refuses reading (.revert command) &&
        world.endsSession reading command
  | _ => false

theorem noteRevert_endsSession (reading : Reading) (command : RevertCommand) (world : World) :
    (world.noteRevert command).endsSession reading command = world.endsSession reading command := by
  simp only [endsSession, noteRevert_keepsDisplay]

theorem handleRevertCommand_guarded (reading : Reading) (command : RevertCommand) {world : World}
    (guarded : world.Guarded)
    (covered : (world.lease.unconfirmedCancelledMutation &&
      world.endsSessionOn reading (.revert command)) = false) :
    (world.handleRevertCommand reading command).Guarded := by
  have noted : (world.noteRevert command).Guarded :=
    guarded.same (by simp) (by simp) (by simp) (by simp)
  simp only [handleRevertCommand]
  split
  · exact guarded
  next live =>
    split
    · exact noted
    next alone =>
      split
      · exact noted.same (by simp) (by simp) (by simp) (by simp)
      next down =>
        split
        · exact noted.same (by simp) (by simp) (by simp) (by simp)
        next settled =>
          refine acceptRevertCommand_guarded reading command noted ?_
          have lowered : world.fenceDown = true := by simp_all
          have taken : world.refuses reading (.revert command) = false := by
            cases disconnect : command.fromDisconnect <;>
              simp_all [refuses, noteRevert]
          rw [noteRevert_endsSession]
          simp only [endsSessionOn, taken, lowered] at covered
          simpa using covered

theorem acceptDisarmCommand_guarded {world : World} (guarded : world.Guarded) :
    world.acceptDisarmCommand.Guarded := by
  simp only [acceptDisarmCommand]
  split
  · exact guarded.same (by simp) (by simp) (by simp) (by simp)
  next confirmed =>
    exact guarded.confirmed (by simpa using confirmed) (.inr (by simpa using confirmed))

theorem handleDisarmCommand_guarded (reading : Reading) (command : DisarmCommand) {world : World}
    (guarded : world.Guarded) : (world.handleDisarmCommand reading command).Guarded := by
  simp only [handleDisarmCommand]
  split
  · exact guarded
  · split
    · exact guarded
    · split
      · exact guarded.same (by simp) (by simp) (by simp) (by simp)
      · split
        · exact guarded.same (by simp) (by simp) (by simp) (by simp)
        · exact acceptDisarmCommand_guarded (guarded.same (by simp) (by simp) (by simp) (by simp))

theorem handleResetCommand_guarded (reading : Reading) (command : ResetCommand) {world : World}
    (guarded : world.Guarded) : (world.handleResetCommand reading command).Guarded := by
  simp only [handleResetCommand]
  split
  · exact guarded
  · split
    · exact guarded.same (by simp) (by simp) (by simp) (by simp)
    · split
      · exact guarded.same (by simp) (by simp) (by simp) (by simp)
      · exact guarded.same (by simp) (by simp) (by simp) (by simp)

theorem handleDeferred_guarded (reading : Reading) (command : DeferredMutationCommand)
    {world : World} (guarded : world.Guarded)
    (covered : (world.lease.unconfirmedCancelledMutation &&
      world.endsSessionOn reading command) = false) :
    (world.handleDeferred reading command).Guarded := by
  cases command with
  | apply command => exact handleApplyCommand_guarded reading command guarded
  | revert command => exact handleRevertCommand_guarded reading command guarded covered
  | disarm command => exact handleDisarmCommand_guarded reading command guarded
  | reset command => exact handleResetCommand_guarded reading command guarded

theorem handleExportGolden_guarded (reading : Reading) (command : ExportGoldenCommand)
    {world : World} (guarded : world.Guarded) :
    (world.handleExportGolden reading command).Guarded := by
  simp only [handleExportGolden]
  split
  · exact guarded
  · split
    · exact guarded
    · split
      · exact guarded.same (by simp) (by simp) (by simp) (by simp)
      · exact guarded.same (by simp) (by simp) (by simp) (by simp)

theorem handleSnapshotCurrent_guarded (reading : Reading) (command : SnapshotCurrentCommand)
    {world : World} (guarded : world.Guarded) :
    (world.handleSnapshotCurrent reading command).Guarded := by
  simp only [handleSnapshotCurrent]
  split
  · exact guarded
  · split
    · exact guarded.same (by simp) (by simp) (by simp) (by simp)
    · exact guarded.same (by simp) (by simp) (by simp) (by simp)

theorem handlePingCommand_guarded (reading : Reading) (command : PingCommand) {world : World}
    (guarded : world.Guarded) : (world.handlePingCommand reading command).Guarded := by
  simp only [handlePingCommand]
  split
  · exact guarded
  · exact guarded.same (by simp) (by simp) (by simp) (by simp)

theorem handleStopCommand_guarded (reading : Reading) (command : StopCommand) {world : World}
    (guarded : world.Guarded) : (world.handleStopCommand reading command).Guarded := by
  simp only [handleStopCommand]
  split
  · exact guarded
  · exact guarded.same (by simp) (by simp) (by simp) (by simp)

theorem handleRefreshRateCommand_guarded (reading : Reading) (command : RefreshRateCommand)
    {world : World} (guarded : world.Guarded) :
    (world.handleRefreshRateCommand reading command).Guarded := by
  simp only [handleRefreshRateCommand]
  split
  · exact guarded
  · split
    · exact guarded.same (by simp) (by simp) (by simp) (by simp)
    · split
      · exact guarded.same (by simp) (by simp) (by simp) (by simp)
      · split
        · exact guarded.same (by simp) (by simp) (by simp) (by simp)
        · split
          · exact guarded.same (by simp) (by simp) (by simp) (by simp)
          · exact guarded.same (by simp) (by simp) (by simp) (by simp)

/-! ## Events -/

theorem displayEventWhileMonitoring_guarded (reading : Reading) {world : World}
    (guarded : world.Guarded) : (world.displayEventWhileMonitoring reading).Guarded := by
  simp only [displayEventWhileMonitoring]
  split
  · split
    · exact guarded
    · exact guarded.same (by simp) (by simp) (by simp) (by simp)
  · split
    · split
      · exact guarded
      · exact guarded.same (by simp) (by simp) (by simp) (by simp)
    · exact guarded.same (by simp) (by simp) (by simp) (by simp)

theorem displayEventDuringApply_guarded (reading : Reading) {world : World}
    (guarded : world.Guarded) : (world.displayEventDuringApply reading).Guarded := by
  simp only [displayEventDuringApply]
  split
  · exact guarded
  · split
    · exact guarded
    · split
      · exact guarded.same (by simp) (by simp) (by simp) (by simp)
      · exact guarded.same (by simp) (by simp) (by simp) (by simp)

theorem displayEventInEventLoop_guarded (reading : Reading) {world : World}
    (guarded : world.Guarded) : (world.displayEventInEventLoop reading).Guarded := by
  simp only [displayEventInEventLoop]
  split
  · split
    · exact guarded.same (by simp) (by simp) (by simp) (by simp)
    · exact guarded.same (by simp) (by simp) (by simp) (by simp)
  · exact guarded

theorem handleDisplayEvent_guarded (reading : Reading) (event : DisplayEventMessage)
    {world : World} (guarded : world.Guarded) :
    (world.handleDisplayEvent reading event).Guarded := by
  simp only [handleDisplayEvent]
  split
  · exact guarded
  · split
    · exact displayEventWhileMonitoring_guarded reading guarded
    · split
      · exact displayEventDuringApply_guarded reading guarded
      · exact guarded
    · split
      · exact displayEventDuringApply_guarded reading guarded
      · exact guarded
    · exact displayEventInEventLoop_guarded reading guarded
    · exact guarded

/-- The lost heartbeat ends the session without a recovery. -/
def heartbeatEndsSession (reading : Reading) (event : HelperEventMessage) (world : World) : Bool :=
  !world.isStale event.generation && !reading.isStaleConnection event.connectionEpoch &&
    world.lease.recoveryArmed && !world.mutationWorkerActive && world.keepsDisplayOnDisconnect

theorem handleHelperEvent_guarded (reading : Reading) (event : HelperEventMessage)
    {world : World} (guarded : world.Guarded)
    (covered : (world.lease.unconfirmedCancelledMutation &&
      world.heartbeatEndsSession reading event) = false) :
    (world.handleHelperEvent reading event).Guarded := by
  simp only [handleHelperEvent]
  split
  · exact guarded
  next fresh =>
    split
    · exact guarded
    next live =>
      split
      · exact guarded
      next armed =>
        split
        · exact guarded
        · split
          · split
            · exact guarded
            · exact guarded.same (by simp) (by simp) (by simp) (by simp)
          next down =>
            split
            next keeps =>
              have ends : world.heartbeatEndsSession reading event = true := by
                simp only [heartbeatEndsSession, keeps]
                simp_all
              have confirmed : world.lease.unconfirmedCancelledMutation = false := by
                simpa only [ends, Bool.and_true] using covered
              exact guarded.confirmed (by simpa using confirmed) (.inr (by simp [confirmed]))
            · exact guarded.same (by simp) (by simp) (by simp) (by simp)

theorem handleTick_guarded (reading : Reading) {world : World} (guarded : world.Guarded) :
    (world.handleTick reading).Guarded := by
  simp only [handleTick]
  split
  · exact guarded
  · split
    · exact guarded.same (by simp) (by simp) (by simp) (by simp)
    · split
      · exact guarded.same (by simp) (by simp) (by simp) (by simp)
      · exact guarded.same (by simp) (by simp) (by simp) (by simp)

/-! ## Ladders and verifications -/

theorem dispatchNextTransientDisconnectVerification_guarded {world : World}
    (guarded : world.Guarded) : world.dispatchNextTransientDisconnectVerification.2.Guarded := by
  rcases world.dispatchNextTransientDisconnectVerification_cases with
    ⟨pending, _⟩ | done | ⟨_, delay, next⟩
  · rw [pending]
    exact guarded
  · rw [done]
    exact guarded.same (by simp) (by simp) (by simp) (by simp)
  · rw [next]
    exact guarded.same (by simp) (by simp) (by simp) (by simp)

theorem scheduleNextPostApplyStabilization_guarded {world : World} (guarded : world.Guarded) :
    world.scheduleNextPostApplyStabilization.Guarded := by
  rcases world.scheduleNextPostApplyStabilization_cases with same | ⟨_, delay, next⟩
  · rw [same]
    exact guarded
  · rw [next]
    exact guarded.same (by simp) (by simp) (by simp) (by simp)

theorem replacePostApplyStabilization_guarded {world : World} (guarded : world.Guarded) :
    world.replacePostApplyStabilizationWithTransientDisconnectSettlement.Guarded := by
  rcases world.replacePostApplyStabilization_cases with ⟨_, same⟩ | ⟨_, same⟩
  · rw [same]
    exact guarded.same (by simp) (by simp) (by simp) (by simp)
  · rw [same]
    exact guarded.same (by simp) (by simp) (by simp) (by simp)

theorem transition_guarded (next : State) {world : World} (guarded : world.Guarded) :
    (world.transition next).Guarded :=
  guarded.same (by simp) (by simp) (by simp) (by simp)

theorem enterSteadyState_guarded {world : World} (guarded : world.Guarded) :
    world.enterSteadyState.Guarded :=
  guarded.same (by simp) (by simp) (by simp) (by simp)

theorem confirmSession_guarded {world : World} (guarded : world.Guarded) :
    world.confirmSession.Guarded :=
  guarded.confirmed (by simp) (.inl (by simp))

theorem beginTransientDisconnectSettlement_guarded (reading : Reading) {world : World}
    (guarded : world.Guarded) : (world.beginTransientDisconnectSettlement reading).2.Guarded := by
  have noted : world.noteTransientDisconnect.Guarded :=
    guarded.same (by simp) (by simp) (by simp) (by simp)
  have requested : world.requestTransientDisconnectSettlement.Guarded := by
    rcases world.requestTransientDisconnectSettlement_cases with ⟨_, same⟩ | ⟨_, same⟩
    · exact same ▸ noted
    · exact same ▸ replacePostApplyStabilization_guarded noted
  simp only [beginTransientDisconnectSettlement]
  split
  · exact guarded
  · split
    · exact guarded
    · split
      · exact requested
      · exact dispatchNextTransientDisconnectVerification_guarded requested

theorem releaseCaptureGate_guarded {world : World} (guarded : world.Guarded) :
    world.releaseCaptureGate.Guarded := by
  simp only [releaseCaptureGate]
  split
  · exact guarded
  · simp only [openCaptureGate]
    split
    · split
      · exact guarded.confirmed (by simp) (.inl (by simp))
      · exact guarded.confirmed (by simp) (.inl (by simp))
    · split
      · exact guarded.confirmed (by simp) (.inl (by simp))
      · exact guarded.confirmed (by simp) (.inl (by simp))

theorem settleDisconnectedCheck_guarded {world : World} (guarded : world.Guarded) :
    world.settleDisconnectedCheck.Guarded := by
  have next := dispatchNextTransientDisconnectVerification_guarded guarded
  simp only [settleDisconnectedCheck]
  split
  · exact next
  · split
    · exact enterSteadyState_guarded next
    · exact transition_guarded _ next

theorem handleTransientDisconnectCheck_guarded (success : Bool) {world : World}
    (guarded : world.Guarded) : (world.handleTransientDisconnectCheck success).Guarded := by
  simp only [handleTransientDisconnectCheck]
  split
  · split
    · exact guarded.same (by simp) (by simp) (by simp) (by simp)
    · exact guarded.confirmed (by simp) (.inl (by simp))
  · split
    · exact guarded.same (by simp) (by simp) (by simp) (by simp)
    · exact guarded.same (by simp) (by simp) (by simp) (by simp)

theorem handleInitialSuccess_guarded {world : World} (guarded : world.Guarded) :
    world.handleInitialSuccess.Guarded := by
  have released := releaseCaptureGate_guarded guarded
  simp only [handleInitialSuccess]
  split
  · have next := dispatchNextTransientDisconnectVerification_guarded released
    split
    · exact next
    · exact enterSteadyState_guarded next
  · exact enterSteadyState_guarded (scheduleNextPostApplyStabilization_guarded released)

theorem dispatchNextVerificationReapply_guarded {world : World} (guarded : world.Guarded) :
    world.dispatchNextVerificationReapply.2.Guarded := by
  simp only [dispatchNextVerificationReapply]
  split
  · exact guarded
  · split
    · exact guarded.same (by simp) (by simp) (by simp) (by simp)
    · exact guarded.same (by simp) (by simp) (by simp) (by simp)

theorem handleInitialFailure_guarded {world : World} (guarded : world.Guarded) :
    world.handleInitialFailure.Guarded := by
  simp only [handleInitialFailure]
  split
  · exact settleDisconnectedCheck_guarded guarded
  · have rewound : world.rewindPostApplyStabilization.Guarded :=
      guarded.same (by simp) (by simp) (by simp) (by simp)
    have next := dispatchNextVerificationReapply_guarded rewound
    split
    · exact next
    · split
      · exact enterSteadyState_guarded next
      · exact next.same (by simp) (by simp) (by simp) (by simp)

theorem handleStabilizationSuccess_guarded {world : World} (guarded : world.Guarded) :
    world.handleStabilizationSuccess.Guarded := by
  simp only [handleStabilizationSuccess]
  split
  · have next := dispatchNextTransientDisconnectVerification_guarded guarded
    split
    · exact next
    · exact enterSteadyState_guarded next
  · exact scheduleNextPostApplyStabilization_guarded guarded

theorem handleStabilizationFailure_guarded {world : World} (guarded : world.Guarded) :
    world.handleStabilizationFailure.Guarded := by
  simp only [handleStabilizationFailure]
  split
  · exact settleDisconnectedCheck_guarded guarded
  · exact guarded.same (by simp) (by simp) (by simp) (by simp)

theorem handleVerificationCompleted_guarded (completed : VerificationCompleted) {world : World}
    (guarded : world.Guarded) : (world.handleVerificationCompleted completed).Guarded := by
  have checked : World.Guarded { world with settling :=
      { world.settling with postApplyCheckPending := false } } :=
    guarded.same (by simp) (by simp) (by simp) (by simp)
  simp only [handleVerificationCompleted]
  split
  · exact guarded
  · split
    · exact handleTransientDisconnectCheck_guarded _ guarded
    · split
      · exact handleStabilizationSuccess_guarded checked
      · exact handleStabilizationFailure_guarded checked
    · split
      · exact handleInitialSuccess_guarded guarded
      · exact handleInitialFailure_guarded guarded

/-! ## Workers -/

theorem settleSuccessfulApply_guarded {world : World} (guarded : world.Guarded) :
    world.settleSuccessfulApply.world.Guarded := by
  simp only [settleSuccessfulApply]
  split
  · have next := dispatchNextTransientDisconnectVerification_guarded
      (show world.landTransientDisconnectRepair.Guarded from
        guarded.same (by simp) (by simp) (by simp) (by simp))
    split
    · exact next
    · exact enterSteadyState_guarded (confirmSession_guarded next)
  · exact guarded.same (by simp) (by simp) (by simp) (by simp)

/-- Staged state that no lease covers is reset without an unconfirmed mutation. -/
theorem uncommittedStagedState_confirmed {world : World}
    (uncommitted : world.uncommittedStagedState = true) :
    world.lease.unconfirmedCancelledMutation = false := by
  simp only [uncommittedStagedState, Bool.and_eq_true, Bool.not_eq_true'] at uncommitted
  exact uncommitted.2

theorem resetUncommittedStagedStateIfNeeded_guarded {world : World} (guarded : world.Guarded) :
    world.resetUncommittedStagedStateIfNeeded.Guarded := by
  cases uncommitted : world.uncommittedStagedState with
  | false => exact guarded.same (by simp) (by simp) (by simp) (by simp [uncommitted])
  | true =>
      have confirmed := uncommittedStagedState_confirmed uncommitted
      refine guarded.confirmed (by simpa using confirmed) ?_
      cases created : world.lease.restoreTaskCreated with
      | false => exact .inl (by simp [created])
      | true => exact .inr (by simp [uncommitted, created, confirmed])

theorem releaseFailedApply_guarded (completed : ApplyCompleted) {world : World}
    (guarded : world.Guarded) : (world.releaseFailedApply completed).Guarded := by
  have reset : ∀ {settled : World}, settled.Guarded →
      World.Guarded (if completed.displayMayHaveChanged then settled
        else settled.resetUncommittedStagedStateIfNeeded) := by
    intro settled guarded
    split
    · exact guarded
    · exact resetUncommittedStagedStateIfNeeded_guarded guarded
  simp only [releaseFailedApply]
  refine reset ?_
  split
  · exact guarded
  · exact guarded.same (by simp) (by simp) (by simp) (by simp)

theorem concludeFailedApply_guarded (completed : ApplyCompleted) {world : World}
    (guarded : world.Guarded) : (world.concludeFailedApply completed).world.Guarded := by
  have reported : (world.reportFailedApply completed.status).Guarded :=
    guarded.same (by simp) (by simp) (by simp) (by simp)
  have released := releaseFailedApply_guarded completed reported
  simp only [concludeFailedApply]
  split
  · exact enterSteadyState_guarded released
  · exact transition_guarded _ released

theorem retryFailedApply_guarded (completed : ApplyCompleted) {world : World}
    (guarded : world.Guarded) : (world.retryFailedApply completed).world.Guarded := by
  simp only [retryFailedApply]
  split
  · exact guarded.same (by simp) (by simp) (by simp) (by simp)
  · split
    · simp only [fallbackToSdr]
      exact guarded.same (by simp) (by simp) (by simp) (by simp)
    · exact concludeFailedApply_guarded completed guarded

theorem settleOrRetryFailedApply_guarded (completed : ApplyCompleted) {world : World}
    (guarded : world.Guarded) : (world.settleOrRetryFailedApply completed).world.Guarded := by
  simp only [settleOrRetryFailedApply]
  split
  · have next := dispatchNextTransientDisconnectVerification_guarded
      (show world.landTransientDisconnectRepair.Guarded from
        guarded.same (by simp) (by simp) (by simp) (by simp))
    split
    · exact next
    · exact retryFailedApply_guarded completed next
  · exact retryFailedApply_guarded completed guarded

theorem settleApply_guarded (reading : Reading) (completed : ApplyCompleted) {world : World}
    (guarded : world.Guarded) : (world.settleApply reading completed).world.Guarded := by
  have recorded : (world.recordApplyOutcome reading completed).Guarded := by
    refine ⟨?_, by simpa using guarded.kept⟩
    intro unconfirmed
    obtain ⟨armed, pending⟩ := guarded.leased (by simpa using unconfirmed)
    simp [armed, pending]
  simp only [settleApply]
  split
  · exact settleSuccessfulApply_guarded recorded
  · simp only [settleFailedApply]
    split
    · exact recorded.same (by simp) (by simp) (by simp) (by simp)
    · exact settleOrRetryFailedApply_guarded completed
        (recorded.same (by simp) (by simp) (by simp) (by simp))

theorem handleApplyCompleted_guarded (reading : Reading) (completed : ApplyCompleted)
    {world : World} (guarded : world.Guarded) :
    (world.handleApplyCompleted reading completed).world.Guarded := by
  simp only [handleApplyCompleted]
  split
  · split
    · simp only [retireCancelledApply]
      split
      · exact guarded.armed (by simp [retainRecoveryAfterDisplayMutation])
          (by simp [retainRecoveryAfterDisplayMutation])
          (by simp [retainRecoveryAfterDisplayMutation])
      · exact resetUncommittedStagedStateIfNeeded_guarded
          (guarded.same (by simp) (by simp) (by simp) (by simp))
    · exact settleApply_guarded reading completed
        (guarded.same (by simp) (by simp) (by simp) (by simp))
  · exact guarded

theorem handleResetCompleted_guarded (completed : ResetCompleted) {world : World}
    (guarded : world.Guarded) : (world.handleResetCompleted completed).world.Guarded := by
  simp only [handleResetCompleted]
  split
  · exact guarded.same (by simp) (by simp) (by simp) (by simp)
  · exact guarded.same (by simp) (by simp) (by simp) (by simp)

theorem restartSettlingAfterRefresh_guarded (completed : RefreshRateCompleted) {world : World}
    (guarded : world.Guarded) : (world.restartSettlingAfterRefresh completed).Guarded := by
  simp only [restartSettlingAfterRefresh]
  split
  · exact replacePostApplyStabilization_guarded
      (guarded.same (by simp) (by simp) (by simp) (by simp))
  · exact scheduleNextPostApplyStabilization_guarded
      (guarded.same (by simp) (by simp) (by simp) (by simp))

theorem settleAfterRefresh_guarded (completed : RefreshRateCompleted) {world : World}
    (guarded : world.Guarded) : (world.settleAfterRefresh completed).Guarded := by
  have settles : ∀ {refreshed : World}, refreshed.Guarded →
      World.Guarded (if refreshed.settling.transientDisconnectSettlementRequested then
        refreshed.dispatchNextTransientDisconnectVerification.2 else refreshed) := by
    intro refreshed guarded
    split
    · exact dispatchNextTransientDisconnectVerification_guarded guarded
    · exact guarded
  simp only [settleAfterRefresh]
  refine settles ?_
  split
  · exact restartSettlingAfterRefresh_guarded completed guarded
  · exact guarded

theorem handleRefreshRateCompleted_guarded (completed : RefreshRateCompleted) {world : World}
    (guarded : world.Guarded) : (world.handleRefreshRateCompleted completed).world.Guarded := by
  have lowered : (world.setActiveMutationWorker none).Guarded :=
    guarded.same (by simp) (by simp) (by simp) (by simp)
  simp only [handleRefreshRateCompleted]
  split
  · split
    · exact lowered
    · have settled := settleAfterRefresh_guarded completed lowered
      exact settled.same (by simp) (by simp) (by simp) (by simp)
  · exact guarded

theorem handleRecoveryCompleted_guarded (reading : Reading) (completed : RecoveryCompleted)
    {world : World} (guarded : world.Guarded) :
    (world.handleRecoveryCompleted reading completed).world.Guarded := by
  simp only [handleRecoveryCompleted]
  split
  · split
    · split
      · exact guarded.armed (by simp) (by simp) (by simp)
      · exact guarded.same (by simp) (by simp) (by simp) (by simp)
    · split
      · simp only [startRecoveryValidation]
        exact guarded.same (by simp) (by simp) (by simp) (by simp)
      · exact guarded.same (by simp) (by simp) (by simp) (by simp)
  · exact guarded

theorem handleRecoveryValidationCompleted_guarded (reading : Reading)
    (completed : RecoveryValidationCompleted) {world : World} (guarded : world.Guarded) :
    (world.handleRecoveryValidationCompleted reading completed).world.Guarded := by
  simp only [handleRecoveryValidationCompleted]
  split
  · split
    · exact guarded.armed (by simp) (by simp) (by simp)
    · split
      · exact guarded.confirmed (by simp) (.inr (by simp))
      · exact guarded.same (by simp) (by simp) (by simp) (by simp)
  · exact guarded

/-! ## Steps and runs -/

theorem dispatchMessage_guarded (reading : Reading) (message : Message) {world : World}
    (guarded : world.Guarded)
    (commands : ∀ command, message.command? = some command →
      (world.lease.unconfirmedCancelledMutation && world.endsSessionOn reading command) = false)
    (heartbeats : ∀ event, message = .helperEvent event →
      (world.lease.unconfirmedCancelledMutation && world.heartbeatEndsSession reading event) =
        false) :
    (world.dispatchMessage reading message).world.Guarded := by
  cases message with
  | apply command => exact handleApplyCommand_guarded reading command guarded
  | revert command =>
      exact handleRevertCommand_guarded reading command guarded (commands _ rfl)
  | disarm command => exact handleDisarmCommand_guarded reading command guarded
  | exportGolden command => exact handleExportGolden_guarded reading command guarded
  | snapshotCurrent command => exact handleSnapshotCurrent_guarded reading command guarded
  | refreshRate command => exact handleRefreshRateCommand_guarded reading command guarded
  | reset command => exact handleResetCommand_guarded reading command guarded
  | ping command => exact handlePingCommand_guarded reading command guarded
  | stop command => exact handleStopCommand_guarded reading command guarded
  | applyCompleted completed => exact handleApplyCompleted_guarded reading completed guarded
  | verificationCompleted completed => exact handleVerificationCompleted_guarded completed guarded
  | resetCompleted completed => exact handleResetCompleted_guarded completed guarded
  | refreshRateCompleted completed => exact handleRefreshRateCompleted_guarded completed guarded
  | recoveryCompleted completed => exact handleRecoveryCompleted_guarded reading completed guarded
  | recoveryValidationCompleted completed =>
      exact handleRecoveryValidationCompleted_guarded reading completed guarded
  | displayEvent event => exact handleDisplayEvent_guarded reading event guarded
  | helperEvent event => exact handleHelperEvent_guarded reading event guarded (heartbeats event rfl)

end World

/-- The command ends the session although a mutation is unconfirmed. -/
def TakeUp.forfeits (takeUp : TakeUp) : Bool :=
  takeUp.world.lease.unconfirmedCancelledMutation &&
    takeUp.world.endsSessionOn takeUp.reading takeUp.command

namespace World

/-- The step ends the session although a mutation is unconfirmed. -/
def forfeits (environment : Environment) (event : Event) (world : World) : Bool :=
  (world.takeUps environment event).any (·.forfeits) ||
    match event with
    | .deliver (.helperEvent event) =>
        world.lease.unconfirmedCancelledMutation &&
          world.heartbeatEndsSession (environment world.ports.moment) event
    | _ => false

theorem dispatchEvent_guarded (environment : Environment) (event : Event) {world : World}
    (guarded : world.Guarded) (kept : world.forfeits environment event = false) :
    (world.dispatchEvent (environment world.ports.moment) event).world.Guarded := by
  simp only [forfeits, Bool.or_eq_false_iff, takeUps, List.any_append] at kept
  obtain ⟨⟨arrived, _⟩, beats⟩ := kept
  have advanced : world.advance.Guarded := guarded.same rfl rfl rfl rfl
  cases event with
  | deliver message =>
      simp only [dispatchEvent]
      split
      · refine dispatchMessage_guarded _ message advanced ?_ ?_
        · intro command asks
          simp only [arrivals, asks, Option.toList_some, List.map_cons, List.any_cons,
            Bool.or_eq_false_iff] at arrived
          exact arrived.1
        · rintro event rfl
          exact beats
      · exact guarded
  | complete index outcome =>
      simp only [dispatchEvent]
      split
      · exact guarded
      next message posted =>
        obtain ⟨task, found, completed⟩ := Option.bind_eq_some_iff.mp posted
        have completes := Task.completes_of_completion completed
        refine dispatchMessage_guarded _ message (guarded.same rfl rfl rfl rfl) ?_ ?_
        · intro command asks
          cases completes <;> simp [Message.command?] at asks
        · rintro event rfl
          cases completes
  | restoreAttempted =>
      simp only [dispatchEvent, markRestoreAttempted]
      split
      · exact guarded.same rfl rfl rfl rfl
      · exact guarded
  | tick => exact handleTick_guarded _ advanced
  | beginTransientDisconnectSettlement =>
      exact beginTransientDisconnectSettlement_guarded _ advanced

theorem conclude_guarded (epilogue : Epilogue) {world : World} (guarded : world.Guarded) :
    (conclude epilogue world).Guarded := by
  cases epilogue with
  | nothing => exact guarded
  | exitOnceReset =>
      simp only [conclude, exitOnceReset]
      split
      · exact guarded.same (by simp) (by simp) (by simp) (by simp)
      · exact guarded
  | exitAfterRecovery superseded =>
      simp only [conclude, exitAfterRecovery]
      split
      · exact guarded.same (by simp) (by simp) (by simp) (by simp)
      · split
        · exact guarded
        · exact guarded.same (by simp) (by simp) (by simp) (by simp)

theorem step_guarded (environment : Environment) (event : Event) {world : World}
    (kept : world.forfeits environment event = false) (guarded : world.Guarded) :
    (world.step environment event).Guarded := by
  refine finish_preserves Guarded (fun takeUp => takeUp.forfeits = false) environment ?_
    (fun epilogue _ => conclude_guarded epilogue) _ ?_
    (dispatchEvent_guarded environment event guarded kept)
  · intro world command rest guarded _ _ covered
    exact handleDeferred_guarded _ command
      (guarded.same (by simp) (by simp) (by simp) (by simp)) covered
  · intro takeUp member
    simp only [forfeits, Bool.or_eq_false_iff, List.any_eq_false] at kept
    simpa using kept.1 takeUp (List.mem_append_right _ member)

theorem mem_guardDeletions {unconfirmed : Bool} {effects : List Effect} :
    unconfirmed ∈ guardDeletions effects ↔ .deleteRestoreTask unconfirmed ∈ effects := by
  simp only [guardDeletions, List.mem_filterMap]
  constructor
  · rintro ⟨effect, member, seen⟩
    cases effect <;> simp_all
  · intro member
    exact ⟨_, member, rfl⟩

/-- In every run in which no session ends while a mutation is unconfirmed, an
unconfirmed mutation keeps its lease armed and its restore task in place. -/
theorem run_lease_survives (environment : Environment) (events : List Event)
    (kept : Transition.Meets (step environment)
      (fun event world => world.forfeits environment event = false) events initial) :
    ((run environment events).lease.unconfirmedCancelledMutation = true →
        (run environment events).lease.recoveryArmed = true ∧
          (run environment events).lease.displayChangesPendingRecovery = true) ∧
      Effect.deleteRestoreTask true ∉ (run environment events).ports.effects := by
  have guarded : (run environment events).Guarded :=
    Transition.run_preserves_of_meets (step environment) Guarded
      (fun event _ kept => step_guarded environment event kept) kept
      ⟨by simp [initial], by simp [initial]⟩
  exact ⟨guarded.leased, fun member => guarded.kept (mem_guardDeletions.mpr member)⟩

/-- An APPLY that changed the desktop is cancelled by a DISARM. -/
def cancelledApply : List Event :=
  [.deliver (.apply
      { request := { configuration := some {}, restoreOnDisconnect := false }
        connectionEpoch := 1 }),
    .deliver (.disarm { connectionEpoch := 1 }),
    .complete 0 (.apply { displayMayHaveChanged := true })]

def liveConnection : Environment := fun _ => { connectionEpoch := 1 }

theorem run_lease_survives_cancelledApply :
    (run liveConnection cancelledApply).lease.unconfirmedCancelledMutation = true ∧
      (run liveConnection cancelledApply).lease.recoveryArmed = true :=
  have unconfirmed :
      (run liveConnection cancelledApply).lease.unconfirmedCancelledMutation = true := by
    decide
  ⟨unconfirmed, ((run_lease_survives liveConnection cancelledApply ⟨by decide, by decide, by decide, trivial⟩).1
    unconfirmed).1⟩

/-- The connection of the cancelled APPLY breaks; its policy keeps the display. -/
def brokenConnection : List Event :=
  cancelledApply ++ [.deliver (.revert { fromDisconnect := true })]

theorem brokenConnection_forfeits :
    (run liveConnection brokenConnection).lease.unconfirmedCancelledMutation = true ∧
      (run liveConnection brokenConnection).lease.recoveryArmed = false ∧
      Effect.deleteRestoreTask true ∈ (run liveConnection brokenConnection).ports.effects := by
  decide

end World

end UmbraHost.DisplayHelper
