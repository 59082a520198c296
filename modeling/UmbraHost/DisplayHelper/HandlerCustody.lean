import UmbraHost.DisplayHelper.Custody

/-! # What the handlers do to the work in flight

One result for each handler: it keeps the work in flight as it is, or it ends
with one worker or one check in flight, or the machine rests. -/

namespace UmbraHost.DisplayHelper

namespace World

/-! ## Starting work -/

theorem dispatchApplyWorker_settled {world : World} (idle : world.custody.Idle) (delay : Nat)
    (resetVirtualDisplay : Bool) :
    ((world.transition .inProgress).dispatchApplyWorker delay resetVirtualDisplay).Settled :=
  .working _ (by simpa using idle.start .apply) (by simp) (by simp)

theorem startRecovery_settled {world : World} (idle : world.custody.Idle) (delay : Nat) :
    (world.startRecovery delay).Settled :=
  .working _ (by simpa using idle.start .recovery) (by simp) (by simp)

theorem startRecoveryValidation_settled {completed : RecoveryCompleted} {snapshot : Snapshot}
    {world : World} (idle : (world.setActiveMutationWorker none).custody.Idle) :
    (world.startRecoveryValidation completed snapshot).Settled := by
  simp only [startRecoveryValidation]
  exact .working _ (by simpa using idle.start .recovery) (by simp) (by simp)

theorem dispatchVerification_settled {world : World} (idle : world.custody.Idle) (delay : Nat)
    {purpose : VerificationPurpose}
    (awaited : purpose.Awaited world.fence.state world.settling.postApplyCheckPending) :
    (world.dispatchVerification delay purpose).Settled :=
  .checking purpose (by simpa using idle.verify purpose) (by simpa using awaited)

theorem acceptApplyCommand_settled {reading : Reading} {command : ApplyCommand} {world : World}
    (free : world.custody.Free) : (world.acceptApplyCommand reading command).Settled := by
  have idle := free.cancel
  simp only [acceptApplyCommand]
  split
  · exact .resting (by simpa using idle) (by simp)
  · exact dispatchApplyWorker_settled (by simpa using idle) _ _

theorem acceptDisarmCommand_settled {world : World} (free : world.custody.Free) :
    world.acceptDisarmCommand.Settled := by
  have idle := free.cancel
  simp only [acceptDisarmCommand]
  split
  · exact .resting (by simpa using idle) (by simp)
  · exact .resting (by simpa using idle) (by simp)

/-- A REVERT taken up with the fence down starts a recovery, ends the session,
or finds nothing to restore and leaves the state as it is. -/
theorem acceptRevertCommand_lands (reading : Reading) (command : RevertCommand) {world : World}
    (free : world.custody.Free) :
    (world.acceptRevertCommand reading command).Settled ∨
      ((command.fromDisconnect && world.keepsDisplayOnDisconnect) = false ∧
        nothingToRestore reading = true ∧
        (world.acceptRevertCommand reading command).custody.Idle ∧
        (world.acceptRevertCommand reading command).fence.state = world.fence.state) := by
  have idle := free.cancel
  simp only [acceptRevertCommand]
  split
  · exact .inl (.resting (by simpa using idle) (by simp))
  next stays =>
    split
    next nothing => exact .inr ⟨by simpa using stays, nothing, by simpa using idle, by simp⟩
    · exact .inl (startRecovery_settled (by simpa using idle) _)

/-! ## Commands -/

/-- A session command is refused: its connection is retired, a recovery with an
unconfirmed attempt ignores DISARM, or a disconnect joins the live recovery. -/
def refuses (reading : Reading) (world : World) : DeferredMutationCommand → Bool
  | .apply command => reading.isStaleConnection command.connectionEpoch
  | .revert command => reading.isStaleConnection command.connectionEpoch ||
      (command.fromDisconnect && world.recoveryWorkerInProgress)
  | .disarm command => reading.isStaleConnection command.connectionEpoch || world.disarmIgnored
  | .reset command => reading.isStaleConnection command.connectionEpoch

/-- A REVERT that finds no snapshot to restore from. -/
def findsNothing (reading : Reading) (world : World) : DeferredMutationCommand → Bool
  | .revert command => nothingToRestore reading &&
      !(command.fromDisconnect && world.keepsDisplayOnDisconnect)
  | _ => false

/-- What taking up a command that waits behind the fence can do. -/
inductive TakenUp (reading : Reading) (command : DeferredMutationCommand) (before after : World) :
    Prop where
  | refused (refused : before.refuses reading command = true) (same : after = before)
  | waits (up : before.fenceDown = false) (kept : Kept before after)
  | resets (reset : command.isReset = true) (kept : Kept before after)
  | accepted (settled : after.Settled)
  | nothing (down : before.fenceDown = true) (accepted : before.refuses reading command = false)
      (nothing : before.findsNothing reading command = true)
      (idle : after.custody.Idle) (state : after.fence.state = before.fence.state)

theorem handleApplyCommand_takenUp (reading : Reading) (command : ApplyCommand) {world : World}
    (owned : world.Owned) :
    TakenUp reading (.apply command) world (world.handleApplyCommand reading command) := by
  simp only [handleApplyCommand]
  split
  next stale => exact .refused stale rfl
  · split
    next up =>
      simp only [resetTransientDisconnectSettlement, mutationWorkerActive] at up
      exact .waits (by simp [up]) (.cancelled up (by simp) (by simp) (by simp))
    next down =>
      split
      next pending =>
        simp only [resetTransientDisconnectSettlement] at pending
        exact .waits (by simp [pending]) (.same (by simp) (by simp) (by simp) (by simp))
      · refine .accepted (acceptApplyCommand_settled ?_)
        have free := owned.free (by simpa using down)
        simpa using free

theorem noteRevert_keepsDisplay (command : RevertCommand) (world : World) :
    (command.fromDisconnect && (world.noteRevert command).keepsDisplayOnDisconnect) =
      (command.fromDisconnect && world.keepsDisplayOnDisconnect) := by
  cases disconnect : command.fromDisconnect <;> simp [noteRevert, disconnect]

theorem noteRevert_kept (command : RevertCommand) (world : World) :
    Kept world (world.noteRevert command) :=
  .same (by simp) (by simp) (by simp) (by simp)

theorem handleRevertCommand_takenUp (reading : Reading) (command : RevertCommand) {world : World}
    (owned : world.Owned) :
    TakenUp reading (.revert command) world (world.handleRevertCommand reading command) := by
  simp only [handleRevertCommand]
  split
  next stale => exact .refused (by simp [refuses, stale]) rfl
  next live =>
    split
    next joins =>
      obtain ⟨disconnect, joined⟩ := Bool.and_eq_true_iff.mp joins
      simp only [noteRevert_eq, disconnect, recoveryWorkerInProgress] at joined
      exact .refused (by simp [refuses, disconnect, recoveryWorkerInProgress, joined])
        (by simp [disconnect])
    next alone =>
      have unrefused : world.refuses reading (.revert command) = false := by
        simpa [refuses, live] using alone
      split
      next up =>
        simp only [noteRevert_eq, mutationWorkerActive] at up
        exact .waits (by simp [up]) (.cancelled up (by simp) (by simp) (by simp))
      next down =>
        split
        next pending =>
          simp only [noteRevert_eq] at pending
          exact .waits (by simp [pending]) (.same (by simp) (by simp) (by simp) (by simp))
        next settled =>
          have free := owned.free (by simpa using down)
          have lowered : world.fenceDown = true := by simp_all
          have lands := acceptRevertCommand_lands reading command
            (show (world.noteRevert command).custody.Free by simpa using free)
          rw [noteRevert_keepsDisplay] at lands
          rcases lands with settled | ⟨stays, nothing, idle, state⟩
          · exact .accepted settled
          · exact .nothing lowered unrefused (by simp [findsNothing, nothing, stays]) idle
              (by simpa using state)

theorem handleDisarmCommand_takenUp (reading : Reading) (command : DisarmCommand) {world : World}
    (owned : world.Owned) :
    TakenUp reading (.disarm command) world (world.handleDisarmCommand reading command) := by
  simp only [handleDisarmCommand]
  split
  next stale => exact .refused (by simp [refuses, stale]) rfl
  · split
    next ignored => exact .refused (by simp [refuses, ignored]) rfl
    · split
      next pending =>
        simp only [resetTransientDisconnectSettlement] at pending
        exact .waits (by simp [pending]) (.same (by simp) (by simp) (by simp) (by simp))
      · split
        next up =>
          simp only [resetTransientDisconnectSettlement, mutationWorkerActive] at up
          exact .waits (by simp [up]) (.cancelled up (by simp) (by simp) (by simp))
        next down =>
          have free := owned.free (by simpa using down)
          exact .accepted (acceptDisarmCommand_settled (by simpa using free))

theorem handleResetCommand_kept (reading : Reading) (command : ResetCommand) (world : World) :
    Kept world (world.handleResetCommand reading command) := by
  simp only [handleResetCommand]
  split
  · exact .unchanged
  · split
    · exact .same (by simp) (by simp) (by simp) (by simp)
    · split
      · exact .same (by simp) (by simp) (by simp) (by simp)
      · exact .same (by simp) (by simp) (by simp) (by simp)

theorem handleDeferred_takenUp (reading : Reading) (command : DeferredMutationCommand)
    {world : World} (owned : world.Owned) :
    TakenUp reading command world (world.handleDeferred reading command) := by
  cases command with
  | apply command => exact handleApplyCommand_takenUp reading command owned
  | revert command => exact handleRevertCommand_takenUp reading command owned
  | disarm command => exact handleDisarmCommand_takenUp reading command owned
  | reset command => exact .resets rfl (handleResetCommand_kept reading command world)

theorem TakenUp.lands {reading : Reading} {command : DeferredMutationCommand}
    {before after : World} (taken : TakenUp reading command before after)
    (something : before.findsNothing reading command = false) :
    Kept before after ∨ after.Settled := by
  cases taken with
  | refused _ same => exact .inl (.of_eq same)
  | waits _ kept => exact .inl kept
  | resets _ kept => exact .inl kept
  | accepted settled => exact .inr settled
  | nothing _ _ nothing => simp [something] at nothing

theorem TakenUp.owned {reading : Reading} {command : DeferredMutationCommand}
    {before after : World} (owned : before.Owned)
    (taken : TakenUp reading command before after) : after.Owned := by
  cases taken with
  | refused _ same => exact same ▸ owned
  | waits _ kept => exact kept.owned owned
  | resets _ kept => exact kept.owned owned
  | accepted settled => exact settled.owned
  | nothing _ _ _ idle _ => exact .idle idle

/-- A machine at rest has no worker and no check in flight, or a stabilization
check that says so. -/
theorem Owned.idle_of_still {world : World} (owned : world.Owned)
    (down : world.fence.activeMutationWorker = none)
    (still : world.fence.state ≠ .verification)
    (unchecked : world.settling.postApplyCheckPending = false) : world.custody.Idle := by
  cases owned with
  | idle idle => exact idle
  | working worker working _ => exact absurd (working.holder.symm.trans down) (by simp)
  | checking purpose checking awaited =>
      cases purpose with
      | stabilization => exact absurd (awaited.2.symm.trans unchecked) (by simp)
      | initial => exact absurd awaited still
      | transientDisconnect => exact absurd awaited still

theorem handleExportGolden_kept (reading : Reading) (command : ExportGoldenCommand)
    (world : World) : Kept world (world.handleExportGolden reading command) := by
  simp only [handleExportGolden]
  split
  · exact .unchanged
  · split
    · exact .unchanged
    · exact .same (by simp) (by simp) (by simp) (by simp)

theorem handleSnapshotCurrent_kept (reading : Reading) (command : SnapshotCurrentCommand)
    (world : World) : Kept world (world.handleSnapshotCurrent reading command) := by
  simp only [handleSnapshotCurrent]
  split
  · exact .unchanged
  · split
    · exact .same (by simp) (by simp) (by simp) (by simp)
    · exact .same (by simp) (by simp) (by simp) (by simp)

theorem handlePingCommand_kept (reading : Reading) (command : PingCommand) (world : World) :
    Kept world (world.handlePingCommand reading command) := by
  simp only [handlePingCommand]
  split
  · exact .unchanged
  · exact .same (by simp) (by simp) (by simp) (by simp)

theorem handleStopCommand_kept (reading : Reading) (command : StopCommand) (world : World) :
    Kept world (world.handleStopCommand reading command) := by
  simp only [handleStopCommand]
  split
  · exact .unchanged
  · exact .same (by simp) (by simp) (by simp) (by simp)

theorem handleRefreshRateCommand_lands (reading : Reading) (command : RefreshRateCommand)
    {world : World} (owned : world.Owned) :
    Kept world (world.handleRefreshRateCommand reading command) ∨
      (world.handleRefreshRateCommand reading command).Settled := by
  simp only [handleRefreshRateCommand]
  split
  · exact .inl .unchanged
  split
  · exact .inl (.same (by simp) (by simp) (by simp) (by simp))
  split
  · exact .inl (.same (by simp) (by simp) (by simp) (by simp))
  next still =>
    simp only [applyInFlight, mutationWorkerActive, restorePending, Bool.or_eq_true,
      Option.isSome_iff_ne_none, beq_iff_eq, not_or, ne_eq, not_not] at still
    obtain ⟨⟨⟨down, applying⟩, verifying⟩, ⟨recovering, validating⟩, polling⟩ := still
    have rests : world.fence.state = .waiting ∨ world.fence.state = .virtualDisplayMonitoring := by
      cases state : world.fence.state <;> simp_all
    split
    · exact .inl (.same (by simp) (by simp) (by simp) (by simp))
    · right
      cases pending : world.settling.postApplyCheckPending with
      | true =>
          have idle := (owned.free down).cancel
          exact .working _ (by simpa using idle.start .refreshRate) (by simpa using rests) (by simp)
      | false =>
          have idle := owned.idle_of_still down verifying pending
          exact .working _ (by simpa using idle.start .refreshRate) (by simpa using rests) (by simp)

/-! ## Completions -/

/-- The result of a handler that finds nothing in flight: it settles, unless the
excuse holds and nothing was started. -/
def SettledUnless (state : State) (excuse : Prop) (world : World) : Prop :=
  world.Settled ∨ excuse ∧ world.custody.Idle ∧ world.fence.state = state

theorem SettledUnless.imp {state before : State} {weaker stronger : Prop} {world : World}
    (same : before = state) (implied : stronger → weaker)
    (settled : world.SettledUnless before stronger) : world.SettledUnless state weaker :=
  Or.imp_right (And.imp implied (And.imp_right (·.trans same))) settled

theorem SettledUnless.of_resting {state : State} {excuse : Prop} {world : World}
    (settled : world.SettledUnless state excuse) (rests : state.Rests) : world.Settled := by
  rcases settled with settled | ⟨_, idle, same⟩
  · exact settled
  · exact .resting idle (same ▸ rests)

theorem steadyState_rests (world : World) : world.steadyState.Rests := by
  rcases world.steadyState_cases with waiting | monitoring
  · simp [waiting]
  · simp [monitoring]

/-- What the next check of a disconnect settlement comes to: it is dispatched, or
one is pending already, or the settlement is over. -/
theorem dispatchNextTransientDisconnectVerification_lands (world : World)
    (idle : world.custody.Idle) :
    world.dispatchNextTransientDisconnectVerification.1 = true ∧
        world.dispatchNextTransientDisconnectVerification.2.SettledUnless world.fence.state
          (world.settling.transientDisconnectCheckPending = true) ∨
      world.dispatchNextTransientDisconnectVerification =
        (false, world.resetTransientDisconnectSettlement) := by
  rcases world.dispatchNextTransientDisconnectVerification_cases with
    ⟨pending, flag⟩ | done | ⟨_, delay, next⟩
  · exact .inl (by rw [pending]; exact ⟨rfl, .inr ⟨flag, idle, rfl⟩⟩)
  · exact .inr done
  · have settled : (world.dispatchTransientDisconnectCheck delay).Settled :=
      dispatchVerification_settled (by simpa using idle) delay (by simp)
    exact .inl (by rw [next]; exact ⟨rfl, .inl settled⟩)

theorem settleSuccessfulApply_settled {world : World} (idle : world.custody.Idle) :
    world.settleSuccessfulApply.world.SettledUnless world.fence.state
      (world.settling.transientDisconnectCheckPending = true) := by
  simp only [settleSuccessfulApply]
  split
  · rcases dispatchNextTransientDisconnectVerification_lands world.landTransientDisconnectRepair
      (by simpa using idle) with ⟨more, settled⟩ | done
    · rw [if_pos more]
      exact settled
    · rw [done]
      exact .inl (.resting (by simpa using idle) (by simpa using steadyState_rests _))
  · exact .inl (dispatchVerification_settled (by simpa using idle) _ (by simp))

theorem concludeFailedApply_settled {completed : ApplyCompleted} {world : World}
    (idle : world.custody.Idle) : (world.concludeFailedApply completed).world.Settled := by
  simp only [concludeFailedApply]
  split
  · exact .resting (by simpa using idle) (by simpa using steadyState_rests _)
  · exact .resting (by simpa using idle) (by simp)

theorem retryFailedApply_settled {completed : ApplyCompleted} {world : World}
    (idle : world.custody.Idle) (applying : world.fence.state = .inProgress) :
    (world.retryFailedApply completed).world.Settled := by
  simp only [retryFailedApply]
  split
  · exact .working _ (by simpa using idle.start .apply) (by simpa using applying) (by simp)
  · split
    · exact dispatchApplyWorker_settled (by simpa using idle) _ _
    · exact concludeFailedApply_settled idle

theorem settleOrRetryFailedApply_settled {completed : ApplyCompleted} {world : World}
    (idle : world.custody.Idle) (applying : world.fence.state = .inProgress) :
    (world.settleOrRetryFailedApply completed).world.SettledUnless world.fence.state
      (world.settling.transientDisconnectCheckPending = true) := by
  simp only [settleOrRetryFailedApply]
  split
  · rcases dispatchNextTransientDisconnectVerification_lands world.landTransientDisconnectRepair
      (by simpa using idle) with ⟨more, settled⟩ | done
    · rw [if_pos more]
      exact settled
    · rw [done]
      exact .inl (retryFailedApply_settled (by simpa using idle) (by simpa using applying))
  · exact .inl (retryFailedApply_settled idle applying)

theorem settleFailedApply_settled {reading : Reading} {completed : ApplyCompleted} {world : World}
    (idle : world.custody.Idle) (applying : world.fence.state = .inProgress) :
    (world.settleFailedApply reading completed).world.SettledUnless world.fence.state
      (world.settling.transientDisconnectCheckPending = true) := by
  simp only [settleFailedApply]
  split
  · exact .inl (.working _ (by simpa using idle.start .apply) (by simpa using applying) (by simp))
  · exact settleOrRetryFailedApply_settled (by simpa using idle) (by simpa using applying)

theorem settleApply_settled {reading : Reading} {completed : ApplyCompleted} {world : World}
    (idle : world.custody.Idle) (applying : world.fence.state = .inProgress) :
    (world.settleApply reading completed).world.SettledUnless world.fence.state
      (world.settling.transientDisconnectCheckPending = true) := by
  simp only [settleApply]
  split
  · exact .imp (by simp) (by simp) (settleSuccessfulApply_settled (by simpa using idle))
  · exact .imp (by simp) (by simp)
      (settleFailedApply_settled (by simpa using idle) (by simpa using applying))

/-- What the completion of the active worker comes to: a cancelled worker leaves
nothing in flight and the queue as it was, any other settles. -/
inductive Retired (generation : Nat) (before after : World) : Prop where
  | cancelled (stale : generation ≠ before.ports.generation) (idle : after.custody.Idle)
      (queue : after.fence.deferredMutationCommands = before.fence.deferredMutationCommands)
  | settled (settled : after.SettledUnless before.fence.state
      (before.settling.transientDisconnectCheckPending = true ∧ before.fence.state = .inProgress))

theorem handleApplyCompleted_retired (reading : Reading) (completed : ApplyCompleted)
    {world : World} (owns : world.ownsActiveWorker .apply completed.generation = true)
    (idle : (world.setActiveMutationWorker none).custody.Idle)
    (applying : world.fence.state = .inProgress) :
    Retired completed.generation world (world.handleApplyCompleted reading completed).world := by
  simp only [handleApplyCompleted, owns, ↓reduceIte]
  split
  next stale =>
    simp only [retireCancelledApply, retainRecoveryAfterDisplayMutation]
    split
    · exact .cancelled (by simpa using stale) (by simpa using idle) (by simp)
    · exact .cancelled (by simpa using stale) (by simpa using idle) (by simp)
  · exact .settled (.imp (by simp) (by simp [applying])
      (settleApply_settled (by simpa using idle) (by simpa using applying)))

theorem handleRecoveryCompleted_retired (reading : Reading) (completed : RecoveryCompleted)
    {world : World} (owns : world.ownsActiveWorker .recovery completed.generation = true)
    (idle : (world.setActiveMutationWorker none).custody.Idle) :
    Retired completed.generation world
      (world.handleRecoveryCompleted reading completed).world := by
  simp only [handleRecoveryCompleted, owns, ↓reduceIte]
  split
  next stale =>
    split
    · exact .cancelled (by simpa using stale) (by simpa using idle) (by simp)
    · exact .cancelled (by simpa using stale) (by simpa using idle) (by simp)
  · split
    · exact .settled (.inl (startRecoveryValidation_settled idle))
    · exact .settled (.inl (.resting (by simpa using idle) (by simp)))

theorem handleRecoveryValidationCompleted_retired (reading : Reading)
    (completed : RecoveryValidationCompleted) {world : World}
    (owns : world.ownsActiveWorker .recovery completed.generation = true)
    (idle : (world.setActiveMutationWorker none).custody.Idle) :
    Retired completed.generation world
      (world.handleRecoveryValidationCompleted reading completed).world := by
  simp only [handleRecoveryValidationCompleted, owns, ↓reduceIte]
  split
  next stale => exact .cancelled (by simpa using stale) (by simpa using idle) (by simp)
  · split
    · exact .settled (.inl (.resting (by simpa using idle) (by simp)))
    · exact .settled (.inl (.resting (by simpa using idle) (by simp)))

theorem scheduleNextPostApplyStabilization_settled {world : World} (idle : world.custody.Idle)
    (steady : world.fence.state = .waiting ∨ world.fence.state = .virtualDisplayMonitoring) :
    world.scheduleNextPostApplyStabilization.Settled := by
  rcases world.scheduleNextPostApplyStabilization_cases with same | ⟨_, delay, next⟩
  · rw [same]
    exact .resting idle (by rcases steady with state | state <;> simp [state])
  · rw [next]
    exact dispatchVerification_settled (by simpa using idle) delay (by simpa using steady)

/-- The next check of a settlement whose machine rests. -/
theorem dispatchNextTransientDisconnectVerification_settled {world : World}
    (idle : world.custody.Idle) (rests : world.fence.state.Rests) :
    world.dispatchNextTransientDisconnectVerification.2.Settled := by
  rcases world.dispatchNextTransientDisconnectVerification_cases with
    ⟨pending, _⟩ | done | ⟨_, delay, next⟩
  · rw [pending]
    exact .resting idle rests
  · rw [done]
    exact .resting (by simpa using idle) (by simpa using rests)
  · rw [next]
    exact dispatchVerification_settled (by simpa using idle) delay (by simp)

theorem restartSettlingAfterRefresh_settled (completed : RefreshRateCompleted) {world : World}
    (idle : world.custody.Idle)
    (steady : world.fence.state = .waiting ∨ world.fence.state = .virtualDisplayMonitoring)
    (undisturbed : world.settling.transientDisconnectSettlementRequested = false) :
    (world.restartSettlingAfterRefresh completed).Settled ∧
      (world.restartSettlingAfterRefresh completed).settling.transientDisconnectSettlementRequested
        = false := by
  have cancelled := idle.cancel
  simp only [restartSettlingAfterRefresh]
  split
  next requested => simp [undisturbed] at requested
  · refine ⟨scheduleNextPostApplyStabilization_settled (by simpa using cancelled)
      (by simpa using steady), ?_⟩
    rw [(scheduleNextPostApplyStabilization_frame _).2.2.2]
    exact undisturbed

/-- Under a disconnect settlement the refreshed session starts no ordinary check. -/
theorem restartSettlingAfterRefresh_idle (completed : RefreshRateCompleted) {world : World}
    (idle : world.custody.Idle)
    (requested : world.settling.transientDisconnectSettlementRequested = true) :
    (world.restartSettlingAfterRefresh completed).custody.Idle ∧
      (world.restartSettlingAfterRefresh completed).fence = world.fence ∧
      (world.restartSettlingAfterRefresh completed).settling.transientDisconnectSettlementRequested
        = true := by
  have cancelled := idle.cancel
  simp only [restartSettlingAfterRefresh]
  split
  · rcases replacePostApplyStabilization_cases _ with ⟨_, replaced⟩ | ⟨_, kept⟩
    · rw [replaced]
      exact ⟨by simpa using cancelled.cancel, by simp, by simpa using requested⟩
    · rw [kept]
      exact ⟨by simpa using cancelled, by simp, by simpa using requested⟩
  next undisturbed => simp [requested] at undisturbed

theorem settleAfterRefresh_settled (completed : RefreshRateCompleted) {world : World}
    (idle : world.custody.Idle)
    (steady : world.fence.state = .waiting ∨ world.fence.state = .virtualDisplayMonitoring) :
    (world.settleAfterRefresh completed).Settled := by
  have rests : world.fence.state.Rests := by rcases steady with state | state <;> simp [state]
  cases requested : world.settling.transientDisconnectSettlementRequested with
  | true =>
      simp only [settleAfterRefresh]
      split
      · obtain ⟨idle, fence, requested⟩ := restartSettlingAfterRefresh_idle completed idle requested
        rw [if_pos requested]
        exact dispatchNextTransientDisconnectVerification_settled idle (by rw [fence]; exact rests)
      · exact dispatchNextTransientDisconnectVerification_settled idle rests
  | false =>
      simp only [settleAfterRefresh]
      split
      · obtain ⟨settled, undisturbed⟩ := restartSettlingAfterRefresh_settled completed idle steady requested
        rw [if_neg (by simp [undisturbed])]
        exact settled
      · rw [if_neg (by simp [requested])]
        exact .resting idle rests

theorem handleRefreshRateCompleted_retired (completed : RefreshRateCompleted) {world : World}
    (owns : world.ownsActiveWorker .refreshRate completed.generation = true)
    (idle : (world.setActiveMutationWorker none).custody.Idle)
    (steady : world.fence.state = .waiting ∨ world.fence.state = .virtualDisplayMonitoring) :
    Retired completed.generation world (world.handleRefreshRateCompleted completed).world := by
  simp only [handleRefreshRateCompleted, owns, ↓reduceIte]
  split
  next stale => exact .cancelled (by simpa using stale) (by simpa using idle) (by simp)
  · have settled := settleAfterRefresh_settled completed idle (by simpa using steady)
    exact .settled (.inl (Kept.settled (.same (by simp) (by simp) (by simp) (by simp)) settled))

/-! ## Verifications -/

/-- A check of the current generation has reported; nothing else is in flight. -/
theorem handleTransientDisconnectCheck_settled (success : Bool) {world : World}
    (idle : world.custody.Idle) : (world.handleTransientDisconnectCheck success).Settled := by
  simp only [handleTransientDisconnectCheck]
  split
  · split
    · exact .resting (by simpa using idle) (by simpa using steadyState_rests _)
    · exact .resting (by simpa using idle) (by simpa using steadyState_rests _)
  · split
    · exact dispatchApplyWorker_settled (by simpa using idle.cancel) _ _
    · exact .resting (by simpa using idle) (by simp)

theorem settleDisconnectedCheck_settled {world : World} (idle : world.custody.Idle) :
    world.settleDisconnectedCheck.SettledUnless world.fence.state
      (world.settling.transientDisconnectCheckPending = true) := by
  simp only [settleDisconnectedCheck]
  rcases dispatchNextTransientDisconnectVerification_lands world idle with ⟨more, settled⟩ | done
  · rw [if_pos more]
    exact settled
  · rw [done]
    simp only [Bool.false_eq_true, ↓reduceIte]
    split
    · exact .inl (.resting (by simpa using idle) (by simpa using steadyState_rests _))
    · exact .inl (.resting (by simpa using idle) (by simp))

theorem scheduleNextPostApplyStabilization_enterSteadyState_settled {world : World}
    (idle : world.custody.Idle) :
    world.scheduleNextPostApplyStabilization.enterSteadyState.Settled := by
  rcases world.scheduleNextPostApplyStabilization_cases with same | ⟨_, delay, next⟩
  · rw [same]
    exact .resting (by simpa using idle) (by simpa using steadyState_rests _)
  · rw [next]
    exact .checking .stabilization (by simpa using idle.verify .stabilization)
      (by simpa using steadyState_cases _)

/-- A settlement takes over from a check that has reported, or the session
settles. -/
theorem dispatchNextTransientDisconnectVerification_or_steady_settled {world : World}
    (idle : world.custody.Idle) :
    (if world.dispatchNextTransientDisconnectVerification.1 then
      world.dispatchNextTransientDisconnectVerification.2
    else world.dispatchNextTransientDisconnectVerification.2.enterSteadyState).SettledUnless world.fence.state
      (world.settling.transientDisconnectCheckPending = true) := by
  rcases dispatchNextTransientDisconnectVerification_lands world idle with ⟨more, settled⟩ | done
  · rw [if_pos more]
    exact settled
  · rw [done]
    exact .inl (.resting (by simpa using idle) (by simpa using steadyState_rests _))

theorem handleInitialSuccess_settled {world : World} (idle : world.custody.Idle) :
    world.handleInitialSuccess.SettledUnless world.fence.state
      (world.settling.transientDisconnectCheckPending = true) := by
  obtain ⟨fence, settling, generation, tasks, _⟩ := world.releaseCaptureGate_frame
  have idle : world.releaseCaptureGate.custody.Idle := by
    simpa [fence, generation, tasks] using idle
  simp only [handleInitialSuccess]
  split
  · exact .imp (by rw [fence]) (by simp [settling])
      (dispatchNextTransientDisconnectVerification_or_steady_settled idle)
  · exact .inl (scheduleNextPostApplyStabilization_enterSteadyState_settled idle)

theorem handleStabilizationSuccess_settled {world : World} (idle : world.custody.Idle)
    (steady : world.fence.state = .waiting ∨ world.fence.state = .virtualDisplayMonitoring) :
    world.handleStabilizationSuccess.Settled := by
  have rests : world.fence.state.Rests := by rcases steady with state | state <;> simp [state]
  simp only [handleStabilizationSuccess]
  split
  · exact (dispatchNextTransientDisconnectVerification_or_steady_settled idle).of_resting rests
  · exact scheduleNextPostApplyStabilization_settled idle steady

theorem handleStabilizationFailure_settled {world : World} (idle : world.custody.Idle)
    (steady : world.fence.state = .waiting ∨ world.fence.state = .virtualDisplayMonitoring) :
    world.handleStabilizationFailure.Settled := by
  have rests : world.fence.state.Rests := by rcases steady with state | state <;> simp [state]
  simp only [handleStabilizationFailure]
  split
  · exact (settleDisconnectedCheck_settled idle).of_resting rests
  · exact dispatchApplyWorker_settled (by simpa using idle) _ _

theorem handleInitialFailure_settled {world : World} (idle : world.custody.Idle) :
    world.handleInitialFailure.SettledUnless world.fence.state
      (world.settling.transientDisconnectCheckPending = true) := by
  simp only [handleInitialFailure]
  split
  · exact settleDisconnectedCheck_settled idle
  · left
    rcases world.rewindPostApplyStabilization.dispatchNextVerificationReapply_cases with
      ended | omitted | ⟨delay, next⟩
    · rw [ended]
      simp only [Bool.false_eq_true, ↓reduceIte]
      split
      · exact .resting (by simpa using idle) (by simpa using steadyState_rests _)
      · exact .resting (by simpa using idle) (by simp)
    · rw [omitted]
      simp only [Bool.false_eq_true, ↓reduceIte]
      split
      · exact .resting (by simpa using idle) (by simpa using steadyState_rests _)
      · exact .resting (by simpa using idle) (by simp)
    · rw [next]
      exact dispatchApplyWorker_settled (by simpa using idle) _ _

theorem handleVerificationCompleted_settled (completed : VerificationCompleted) {world : World}
    (current : world.isStale completed.generation = false) (idle : world.custody.Idle)
    (awaited : completed.purpose.Awaited world.fence.state
      world.settling.postApplyCheckPending) :
    (world.handleVerificationCompleted completed).SettledUnless world.fence.state
      (completed.purpose = .initial ∧ world.settling.transientDisconnectCheckPending = true) := by
  simp only [handleVerificationCompleted, current, Bool.false_eq_true, ↓reduceIte]
  cases purpose : completed.purpose with
  | transientDisconnect => exact .inl (handleTransientDisconnectCheck_settled _ idle)
  | stabilization =>
      simp only [purpose, VerificationPurpose.Awaited] at awaited
      dsimp only
      split
      · exact .inl (handleStabilizationSuccess_settled (by simpa using idle)
          (by simpa using awaited.1))
      · exact .inl (handleStabilizationFailure_settled (by simpa using idle)
          (by simpa using awaited.1))
  | initial =>
      dsimp only
      split
      · exact .imp (by simp) (by simp) (handleInitialSuccess_settled idle)
      · exact .imp (by simp) (by simp) (handleInitialFailure_settled idle)

/-! ## Events -/

/-- A machine that polls or rests outside a session has nothing in flight. -/
theorem Owned.idle_of_polling {world : World} (owned : world.Owned)
    (polling : world.fence.state = .eventLoop) : world.custody.Idle := by
  cases owned with
  | idle idle => exact idle
  | working worker working hosted =>
      cases kind : worker.kind <;> simp [kind, polling] at hosted
  | checking purpose checking awaited =>
      cases purpose <;> simp [polling] at awaited

theorem displayEventWhileMonitoring_lands {reading : Reading} {world : World}
    (owned : world.Owned) (monitoring : world.fence.state = .virtualDisplayMonitoring) :
    Kept world (world.displayEventWhileMonitoring reading) ∨
      (world.displayEventWhileMonitoring reading).Settled := by
  simp only [displayEventWhileMonitoring]
  split
  next up =>
    simp only [mutationWorkerActive] at up
    left
    split
    · exact .unchanged
    · exact .cancelled up (by simp) (by simp) (by simp)
  next down =>
    have lowered : world.fence.activeMutationWorker = none := by simpa using down
    split
    · split
      · exact .inl .unchanged
      next unchecked =>
        have idle := owned.idle_of_still lowered (by simp [monitoring]) (by simpa using unchecked)
        exact .inr (dispatchVerification_settled (by simpa using idle) 0 (by simp [monitoring]))
    · right
      exact dispatchApplyWorker_settled (by simpa using (owned.free lowered).cancel) 0 false

theorem displayEventDuringApply_lands {reading : Reading} {world : World}
    (owned : world.Owned) :
    Kept world (world.displayEventDuringApply reading) ∨
      (world.displayEventDuringApply reading).Settled := by
  simp only [displayEventDuringApply]
  split
  · exact .inl .unchanged
  split
  · exact .inl .unchanged
  split
  next up =>
    simp only [mutationWorkerActive] at up
    exact .inl (.cancelled up (by simp) (by simp) (by simp))
  next down =>
    have lowered : world.fence.activeMutationWorker = none := by simpa using down
    exact .inr (dispatchApplyWorker_settled (by simpa using (owned.free lowered).cancel) 100 false)

theorem displayEventInEventLoop_lands {reading : Reading} {world : World}
    (owned : world.Owned) (polling : world.fence.state = .eventLoop) :
    Kept world (world.displayEventInEventLoop reading) ∨
      (world.displayEventInEventLoop reading).Settled := by
  simp only [displayEventInEventLoop]
  split
  · split
    · exact .inr (startRecovery_settled (by simpa using owned.idle_of_polling polling) 0)
    · exact .inl (.same (by simp) (by simp) (by simp) (by simp))
  · exact .inl .unchanged

theorem handleDisplayEvent_lands (reading : Reading) (event : DisplayEventMessage) {world : World}
    (owned : world.Owned) :
    Kept world (world.handleDisplayEvent reading event) ∨
      (world.handleDisplayEvent reading event).Settled := by
  simp only [handleDisplayEvent]
  split
  · exact .inl .unchanged
  · split
    next monitoring => exact displayEventWhileMonitoring_lands owned monitoring
    · split
      · exact displayEventDuringApply_lands owned
      · exact .inl .unchanged
    · split
      · exact displayEventDuringApply_lands owned
      · exact .inl .unchanged
    next polling => exact displayEventInEventLoop_lands owned polling
    · exact .inl .unchanged

theorem handleHelperEvent_lands (reading : Reading) (event : HelperEventMessage) {world : World}
    (owned : world.Owned) :
    Kept world (world.handleHelperEvent reading event) ∨
      (world.handleHelperEvent reading event).Settled := by
  simp only [handleHelperEvent]
  split
  · exact .inl .unchanged
  split
  · exact .inl .unchanged
  split
  · exact .inl .unchanged
  split
  · exact .inl .unchanged
  split
  next up =>
    left
    split
    · exact .unchanged
    · refine .cancelled (by simpa using up) (by simp) (by simp) ?_
      simp only [heartbeatIntent]
      split <;> simp
  next down =>
    right
    have idle := (owned.free (by simpa using down)).cancel
    split
    · exact .resting (by simpa using idle) (by simp)
    · exact startRecovery_settled (by simpa using idle) 5000

theorem handleTick_lands (reading : Reading) {world : World} (owned : world.Owned) :
    Kept world (world.handleTick reading) ∨ (world.handleTick reading).Settled := by
  simp only [handleTick]
  split
  · exact .inl .unchanged
  next polls =>
    have polling : world.fence.state = .eventLoop := by
      simp only [not_or, ne_eq, not_not] at polls
      exact polls.1
    split
    · exact .inl (.same (by simp) (by simp) (by simp) (by simp))
    · split
      · exact .inr (startRecovery_settled (by simpa using owned.idle_of_polling polling) 0)
      · exact .inl (.same (by simp) (by simp) (by simp) (by simp))

/-! ## Transient disconnects -/

/-- What could keep a new settlement from starting its first check: one is pending
or a stage was used already, or an ordinary check hides behind the initial gate. -/
def SettlementSpent (world : World) : Prop :=
  world.settling.transientDisconnectSettlementRequested = false ∧
    (world.settling.transientDisconnectCheckPending = true ∨
      world.settling.nextTransientDisconnectCheck ≠ 0 ∨
      world.settling.postApplyCheckPending = true ∧ world.fence.state = .verification)

/-- The first check of a settlement is dispatched. -/
theorem dispatchNextTransientDisconnectVerification_first {world : World}
    (idle : world.custody.Idle)
    (requested : world.settling.transientDisconnectSettlementRequested = true)
    (configured : world.session.currentRequest.configuration.isNone = false) :
    world.dispatchNextTransientDisconnectVerification.2.SettledUnless world.fence.state
      (world.settling.transientDisconnectCheckPending = true ∨
        world.settling.nextTransientDisconnectCheck ≠ 0) := by
  simp only [dispatchNextTransientDisconnectVerification]
  split
  next pending => exact .inr ⟨.inl pending, idle, rfl⟩
  · simp only [requested, configured, Bool.not_true, Bool.or_self, Bool.false_eq_true, ↓reduceIte]
    split
    next spent =>
      refine .inr ⟨.inr ?_, by simpa using idle⟩
      intro first
      simp [first, transientDisconnectDelays] at spent
    next delay _ =>
      exact .inl (dispatchVerification_settled (by simpa using idle) delay (by simp))

/-- A settlement that goes on to its first check has nothing else in flight. -/
theorem requestTransientDisconnectSettlement_idle {world : World} (owned : world.Owned)
    (decides : world.requestTransientDisconnectSettlement.awaitsDecision = false) :
    world.requestTransientDisconnectSettlement.custody.Idle := by
  rcases world.requestTransientDisconnectSettlement_cases with ⟨up, requested⟩ | ⟨down, replaced⟩
  · rw [requested] at decides
    simp [awaitsDecision, up] at decides
  rw [replaced] at decides ⊢
  rcases world.noteTransientDisconnect.replacePostApplyStabilization_cases with
    ⟨_, cancelled⟩ | ⟨replaces, kept⟩
  · rw [cancelled]
    simpa using (owned.free down).cancel
  · rw [kept] at decides ⊢
    have unchecked : world.settling.postApplyCheckPending = false := by
      simp_all [replacesCheck]
    have unverifying : world.fence.state ≠ .verification := by
      intro verifying
      cases verified : world.session.sessionWasVerified <;>
        simp_all [replacesCheck, awaitsDecision]
    simpa using owned.idle_of_still down unverifying unchecked

/-- A settlement that leaves the decision to the work in flight changes none of
it, unless an ordinary check was marked pending behind the initial gate. -/
theorem requestTransientDisconnectSettlement_awaits {world : World} (owned : world.Owned)
    (awaits : world.requestTransientDisconnectSettlement.awaitsDecision = true) :
    Kept world world.requestTransientDisconnectSettlement ∨
      (world.settling.postApplyCheckPending = true ∧ world.fence.state = .verification) ∧
        world.requestTransientDisconnectSettlement.custody.Idle ∧
        world.requestTransientDisconnectSettlement.fence.state = world.fence.state := by
  rcases world.requestTransientDisconnectSettlement_cases with ⟨up, requested⟩ | ⟨down, replaced⟩
  · rw [requested]
    exact .inl (.same (by simp) (by simp) (by simp) (by simp))
  rw [replaced] at awaits ⊢
  rcases world.noteTransientDisconnect.replacePostApplyStabilization_cases with
    ⟨replaces, cancelled⟩ | ⟨replaces, kept⟩
  · rw [cancelled] at awaits ⊢
    refine .inr ⟨?_, by simpa using (owned.free down).cancel, rfl⟩
    simp_all [awaitsDecision, replacesCheck]
  · rw [kept] at awaits ⊢
    have unchecked : world.settling.postApplyCheckPending = false := by
      simp_all [replacesCheck]
    exact .inl (.same (by simp) (by simp) (by simp [unchecked]) (by simp))

theorem requestTransientDisconnectSettlement_frame (world : World) :
    world.requestTransientDisconnectSettlement.settling.transientDisconnectSettlementRequested =
        true ∧
      world.requestTransientDisconnectSettlement.settling.transientDisconnectCheckPending =
        world.settling.transientDisconnectCheckPending ∧
      world.requestTransientDisconnectSettlement.settling.nextTransientDisconnectCheck =
        world.settling.nextTransientDisconnectCheck ∧
      world.requestTransientDisconnectSettlement.session = world.session ∧
      world.requestTransientDisconnectSettlement.fence = world.fence := by
  rcases world.requestTransientDisconnectSettlement_cases with ⟨_, requested⟩ | ⟨_, replaced⟩
  · rw [requested]
    exact ⟨rfl, rfl, rfl, rfl, rfl⟩
  rw [replaced]
  rcases world.noteTransientDisconnect.replacePostApplyStabilization_cases with
    ⟨_, cancelled⟩ | ⟨_, kept⟩
  · rw [cancelled]
    exact ⟨rfl, rfl, rfl, rfl, rfl⟩
  · rw [kept]
    exact ⟨rfl, rfl, rfl, rfl, rfl⟩

theorem beginTransientDisconnectSettlement_lands (reading : Reading) {world : World}
    (owned : world.Owned) :
    Kept world (world.beginTransientDisconnectSettlement reading).2 ∨
      (world.beginTransientDisconnectSettlement reading).2.SettledUnless
        world.fence.state world.SettlementSpent := by
  simp only [beginTransientDisconnectSettlement]
  split
  · exact .inl .unchanged
  next defers =>
    have configured : world.session.currentRequest.configuration.isNone = false := by
      cases configuration : world.session.currentRequest.configuration <;> simp_all
    split
    · exact .inl .unchanged
    next fresh =>
      have fresh : world.settling.transientDisconnectSettlementRequested = false := by
        simpa using fresh
      obtain ⟨requested, pending, next, session, fence⟩ :=
        world.requestTransientDisconnectSettlement_frame
      split
      next awaits =>
        rcases requestTransientDisconnectSettlement_awaits owned awaits with
          kept | ⟨hidden, idle, state⟩
        · exact .inl kept
        · exact .inr (.inr ⟨⟨fresh, .inr (.inr hidden)⟩, idle, state⟩)
      next decides =>
        have idle := requestTransientDisconnectSettlement_idle owned (by simpa using decides)
        have first := dispatchNextTransientDisconnectVerification_first idle requested
          (by rw [session]; exact configured)
        rw [pending, next, fence] at first
        exact .inr (.imp rfl (fun spent => ⟨fresh, spent.imp_right Or.inl⟩) first)

end World

end UmbraHost.DisplayHelper
