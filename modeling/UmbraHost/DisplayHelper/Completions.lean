import UmbraHost.DisplayHelper.Commands

/-! # Completion handlers

A mutation completion first retires the worker fence and only then looks at its
generation: a cancelled worker still reports whether Windows was touched.  A
handler that drains the deferred queue is given up to its drain and says what
follows it, so that the drain is one operation shared by all of them. -/

namespace UmbraHost.DisplayHelper

namespace World

/-! ## APPLY workers -/

/-- A stale completion of the owned apply worker, up to the drain. -/
def retireCancelledApply (reading : Reading) (completed : ApplyCompleted) (world : World) :
    World :=
  if completed.displayMayHaveChanged then
    let world := world.retainRecoveryAfterDisplayMutation reading completed
    ({ world with lease := { world.lease with unconfirmedCancelledMutation := true } }).emit
      .armHeartbeat
  else
    let world := { world with lease := { world.lease with
      restoreTaskCreated := world.lease.restoreTaskCreated || completed.durableRecoveryArmed } }
    world.resetUncommittedStagedStateIfNeeded

def recordApplyOutcome (reading : Reading) (completed : ApplyCompleted) (world : World) : World :=
  let world := { world with session := { world.session with
    expectedTopology := completed.expectedTopology
    resolvedTarget := completed.resolvedTarget } }
  let mutated := completed.status == .ok || completed.displayMayHaveChanged
  let world := if mutated then world.activateRecoveryLease else world
  let world := { world with lease := { world.lease with
    restoreTaskCreated := world.lease.restoreTaskCreated || completed.durableRecoveryArmed } }
  if mutated then world.createRestoreTask reading else world

/-- The session becomes verified and no cancelled mutation is left unconfirmed. -/
def confirmSession (world : World) : World :=
  let world := { world with session := { world.session with sessionWasVerified := true } }
  let world := world.activateRecoveryLease
  { world with lease := { world.lease with unconfirmedCancelledMutation := false } }

/-- The exit that waited for a staged-state reset. -/
def exitOnceReset (world : World) : World :=
  if world.fence.exitAfterStagedStateReset && !world.fence.stagedStateResetPending then
    ({ world with fence := { world.fence with exitAfterStagedStateReset := false } }).emit (.exit 0)
  else world

/-- The exit decision after a confirmed recovery.  `superseded` says that a
newer session intent was queued and the backend reset had not failed. -/
def exitAfterRecovery (superseded : Bool) (world : World) : World :=
  if superseded then
    { world with fence := { world.fence with exitAfterStagedStateReset := false } }
  else if world.fence.exitAfterStagedStateReset then world
  else world.emit (.exit 0)

/-- What a handler still does after its drain. -/
inductive Epilogue where
  | nothing
  | exitOnceReset
  | exitAfterRecovery (superseded : Bool)

def conclude : Epilogue → World → World
  | .nothing, world => world
  | .exitOnceReset, world => world.exitOnceReset
  | .exitAfterRecovery superseded, world => world.exitAfterRecovery superseded

/-- How a handler ends: by returning, or by draining the deferred queue. -/
inductive Ending where
  | returns (world : World)
  | drains (world : World) (epilogue : Epilogue)

@[simp] def Ending.world : Ending → World
  | .returns world => world
  | .drains world _ => world

def Ending.finish (environment : Environment) : Ending → World
  | .returns world => world
  | .drains world epilogue => (world.drainDeferredMutationCommands environment).conclude epilogue

def landTransientDisconnectRepair (world : World) : World :=
  { world with settling := { world.settling with transientDisconnectRepairInFlight := false } }

def settleSuccessfulApply (world : World) : Ending :=
  if world.settling.transientDisconnectRepairInFlight then
    -- The repair of a disconnected session is checked by the next 250/750 ms slot.
    let next := world.landTransientDisconnectRepair.dispatchNextTransientDisconnectVerification
    if next.1 then .returns next.2
    else .drains next.2.confirmSession.enterSteadyState .nothing
  else
    .drains (((world.sendApplyResult .ok).transition .verification).dispatchVerification 0 .initial)
      .nothing

/-- A virtual-display APPLY that keeps failing with HDR enabled is retried in
SDR once. -/
def canFallbackVirtualHdr (completed : ApplyCompleted) (world : World) : Bool :=
  !world.settling.virtualHdrFallbackAttempted && completed.virtualDisplayRequested &&
    (match world.session.currentRequest.configuration with
      | none => false
      | some configuration => configuration.hdrState == some .enabled) &&
    (completed.status == .retryable || completed.status == .verificationFailed)

def disableHdr (request : ApplyRequest) : ApplyRequest :=
  { request with configuration :=
      request.configuration.map fun configuration =>
        { configuration with hdrState := some .disabled } }

def fallbackToSdr (world : World) : World :=
  let world := { world with
    settling := { world.settling with virtualHdrFallbackAttempted := true, applyAttempt := 1 }
    session := { world.session with currentRequest := disableHdr world.session.currentRequest } }
  (world.transition .inProgress).dispatchApplyWorker 0 false

def reportFailedApply (status : ApplyStatus) (world : World) : World :=
  let world := world.sendApplyResult status
  if world.session.applyResultSent && !world.session.verificationResultSent then
    world.sendVerificationResult false
  else world

/-- Without a recovery lease a failed APPLY leaves nothing to watch over. -/
def releaseFailedApply (completed : ApplyCompleted) (world : World) : World :=
  let world := if world.lease.recoveryArmed then world else world.emit .disarmHeartbeat
  if completed.displayMayHaveChanged then world else world.resetUncommittedStagedStateIfNeeded

/-- A failed APPLY with no retry left. -/
def concludeFailedApply (completed : ApplyCompleted) (world : World) : Ending :=
  let world := (world.reportFailedApply completed.status).releaseFailedApply completed
  if world.session.sessionWasVerified then .drains world.enterSteadyState .nothing
  else .drains (world.transition .waiting) .nothing

def isRetryable (status : ApplyStatus) : Bool :=
  status == .retryable || status == .verificationFailed

/-- The retries of a failed APPLY that no disconnect ladder takes over. -/
def retryFailedApply (completed : ApplyCompleted) (world : World) : Ending :=
  if isRetryable completed.status && ApplyPolicy.canRetryApply world.settling.applyAttempt then
    let delay := ApplyPolicy.retryDelay world.settling.applyAttempt
    let world := { world with settling := { world.settling with
      applyAttempt := world.settling.applyAttempt + 1 } }
    .returns (world.dispatchApplyWorker delay false)
  else if world.canFallbackVirtualHdr completed then .returns world.fallbackToSdr
  else world.concludeFailedApply completed

/-- A failed repair of a disconnected session waits for the next slot; any other
failure is retried. -/
def settleOrRetryFailedApply (completed : ApplyCompleted) (world : World) : Ending :=
  if world.settling.transientDisconnectSettlementRequested then
    let next := world.landTransientDisconnectRepair.dispatchNextTransientDisconnectVerification
    if next.1 then .returns next.2 else next.2.retryFailedApply completed
  else world.retryFailedApply completed

def adoptPolicy (policy : ApplyPolicy) (world : World) : World :=
  { world with ports := { world.ports with policy } }

def settleFailedApply (reading : Reading) (completed : ApplyCompleted) (world : World) : Ending :=
  let policy := world.ports.policy.maybeResetVirtualDisplay (reading.now 0) completed.status
    completed.virtualDisplayRequested
  let world := world.adoptPolicy policy.2
  if policy.1 = .resetVirtualDisplay then .returns (world.dispatchApplyWorker 0 true)
  else world.settleOrRetryFailedApply completed

/-- The owned apply completion of the current generation. -/
def settleApply (reading : Reading) (completed : ApplyCompleted) (world : World) : Ending :=
  let world := world.recordApplyOutcome reading completed
  if completed.status = .ok then world.settleSuccessfulApply
  else world.settleFailedApply reading completed

def handleApplyCompleted (reading : Reading) (completed : ApplyCompleted) (world : World) :
    Ending :=
  if world.ownsActiveWorker .apply completed.generation then
    let world := world.setActiveMutationWorker none
    let world := { world with lease := { world.lease with
      stagedStatePrepared := world.lease.stagedStatePrepared || completed.stagedStatePrepared } }
    if world.isStale completed.generation then
      .drains (world.retireCancelledApply reading completed) .nothing
    else world.settleApply reading completed
  else .returns world

/-! ## Verifications -/

/-- Take the next disconnect check, or end in the state the session allows. -/
def settleDisconnectedCheck (world : World) : World :=
  let next := world.dispatchNextTransientDisconnectVerification
  if next.1 then next.2
  else if next.2.session.sessionWasVerified then next.2.enterSteadyState
  else next.2.transition .waiting

def handleTransientDisconnectCheck (success : Bool) (world : World) : World :=
  let world := { world with settling := { world.settling with
    transientDisconnectCheckPending := false } }
  if success then
    let world := if world.session.sessionWasVerified then world else world.confirmSession
    world.resetTransientDisconnectSettlement.enterSteadyState
  else if world.session.currentRequest.configuration.isSome then
    world.dispatchTransientDisconnectRepair
  else world.resetTransientDisconnectSettlement.transition .waiting

/-- The gate of a transaction that has not reported a verification result. -/
def openCaptureGate (world : World) : World :=
  let world := world.confirmSession
  let world :=
    if world.settling.transientDisconnectSettlementRequested then world
    else world.emit .armHeartbeat
  let world := (world.emit .refreshShell).sendVerificationResult true
  if world.session.currentRequest.hdrBlank then world.emit (.blankHdrStates 1000) else world

def releaseCaptureGate (world : World) : World :=
  if world.session.verificationResultSent then world else world.openCaptureGate

def handleInitialSuccess (world : World) : World :=
  let world := world.releaseCaptureGate
  if world.settling.transientDisconnectSettlementRequested then
    let next := world.dispatchNextTransientDisconnectVerification
    if next.1 then next.2 else next.2.enterSteadyState
  else world.scheduleNextPostApplyStabilization.enterSteadyState

def handleStabilizationSuccess (world : World) : World :=
  if world.settling.transientDisconnectSettlementRequested then
    let next := world.dispatchNextTransientDisconnectVerification
    if next.1 then next.2 else next.2.enterSteadyState
  else world.scheduleNextPostApplyStabilization

def handleStabilizationFailure (world : World) : World :=
  if world.settling.transientDisconnectSettlementRequested then world.settleDisconnectedCheck
  else world.dispatchImmediateRepairAfterStabilizationFailure

def handleInitialFailure (world : World) : World :=
  if world.settling.transientDisconnectSettlementRequested then world.settleDisconnectedCheck
  else
    let next := world.rewindPostApplyStabilization.dispatchNextVerificationReapply
    if next.1 then next.2
    else if next.2.session.sessionWasVerified then next.2.enterSteadyState
    else (next.2.sendVerificationResult false).transition .waiting

def handleVerificationCompleted (completed : VerificationCompleted) (world : World) : World :=
  if world.isStale completed.generation then world
  else
    match completed.purpose with
    | .transientDisconnect => world.handleTransientDisconnectCheck completed.success
    | .stabilization =>
        let world := { world with settling := { world.settling with
          postApplyCheckPending := false } }
        if completed.success then world.handleStabilizationSuccess
        else world.handleStabilizationFailure
    | .initial =>
        if completed.success then world.handleInitialSuccess else world.handleInitialFailure

/-! ## Staged-state reset -/

def hasDeferredIntent (world : World) : Bool :=
  world.fence.deferredMutationCommands.any (!·.isReset)

def handleResetCompleted (completed : ResetCompleted) (world : World) : Ending :=
  let world := { world with
    fence := { world.fence with stagedStateResetPending := false }
    lease := { world.lease with
      stagedStatePrepared := world.lease.stagedStatePrepared && !completed.success } }
  if world.fence.exitAfterStagedStateReset && !completed.success then
    -- A stale backend must not receive the queued APPLY; this helper is retired first.
    .returns (({ world with fence :=
      { world.fence with exitAfterStagedStateReset := false } }).emit (.exit 1))
  else
    .drains { world with
      fence := { world.fence with
        exitAfterStagedStateReset :=
          world.fence.exitAfterStagedStateReset && !world.hasDeferredIntent } } .exitOnceReset

/-! ## Refresh rate -/

def recordRefreshRate (completed : RefreshRateCompleted) (request : ApplyRequest) : ApplyRequest :=
  if completed.success then
    let confirmed : Rational :=
      { numerator := completed.numerator, denominator := completed.denominator }
    { request with configuration :=
        request.configuration.map fun configuration =>
          { configuration with refreshRate := some confirmed } }
  else request

/-- A refresh of the session's own device restarts its settling envelope. -/
def restartSettlingAfterRefresh (completed : RefreshRateCompleted) (world : World) : World :=
  let world := { world with session := { world.session with
    currentRequest := recordRefreshRate completed world.session.currentRequest } }
  let world := world.cancelOperations.rewindPostApplyStabilization
  if world.settling.transientDisconnectSettlementRequested then
    world.replacePostApplyStabilizationWithTransientDisconnectSettlement
  else world.scheduleNextPostApplyStabilization

def settleAfterRefresh (completed : RefreshRateCompleted) (world : World) : World :=
  let world :=
    if world.refreshTargetsActiveRequest completed.deviceId then
      world.restartSettlingAfterRefresh completed
    else world
  if world.settling.transientDisconnectSettlementRequested then
    world.dispatchNextTransientDisconnectVerification.2
  else world

def handleRefreshRateCompleted (completed : RefreshRateCompleted) (world : World) : Ending :=
  if world.ownsActiveWorker .refreshRate completed.generation then
    let world := world.setActiveMutationWorker none
    if world.isStale completed.generation then .drains world .nothing
    else
      .drains ((world.settleAfterRefresh completed).emit (.refreshRateResult completed.success
        completed.connectionEpoch completed.requestId)) .nothing
  else .returns world

/-! ## Recovery -/

/-- A failed recovery or validation polls on from the event loop. -/
def enterEventLoop (reading : Reading) (world : World) : World :=
  let world := { world with ports := { world.ports with
    scheduler := world.ports.scheduler.onAttemptFailed (reading.now 0) } }
  world.transition .eventLoop

def startRecoveryValidation (completed : RecoveryCompleted) (snapshot : Snapshot)
    (world : World) : World :=
  let world := { world with
    lease := { world.lease with
      recoveryStagedStateResetSucceeded :=
        if completed.stagedStateResetAttempted then some completed.stagedStateResetSucceeded
        else world.lease.recoveryStagedStateResetSucceeded }
    ports := { world.ports with recoverySnapshot := some snapshot } }
  let world := (world.transition .recoveryValidation).setActiveMutationWorker
    (some { kind := .recovery, generation := world.ports.generation })
  world.dispatch (.recoveryValidation snapshot world.ports.generation)

def handleRecoveryCompleted (reading : Reading) (completed : RecoveryCompleted) (world : World) :
    Ending :=
  if world.ownsActiveWorker .recovery completed.generation then
    if world.isStale completed.generation then
      let world := world.setActiveMutationWorker none
      if completed.displayMayHaveChanged then .drains world.retainRecoveryAfterCancelledRecovery .nothing
      -- Cancelled during the grace period: the operation was never entered.
      else .drains world.resetRequestProgress .nothing
    else
      match completed.success, completed.snapshot with
      | true, some snapshot => .returns (world.startRecoveryValidation completed snapshot)
      | _, _ => .drains ((world.setActiveMutationWorker none).enterEventLoop reading) .nothing
  else .returns world

def stagedStateResetFailed (world : World) : Bool :=
  world.lease.stagedStatePrepared && world.lease.recoveryStagedStateResetSucceeded == some false

def retryStagedStateReset (failed : Bool) (world : World) : World :=
  if failed then world.beginStagedStateReset else world

/-- The success branch of a validation, up to its drain. -/
def concludeRecovery (world : World) : World :=
  let world := { world with lease := { world.lease with
    recoveryArmed := false
    displayChangesPendingRecovery := false
    unconfirmedCancelledMutation := false } }
  let world := world.disarmScheduler.resetRequestProgress.emit .disarmHeartbeat
  let world := (world.emit .refreshShell).deleteRestoreTask
  let resetFailed := world.stagedStateResetFailed
  let world := { world with lease := { world.lease with
    restoreTaskCreated := false
    stagedStatePrepared := world.lease.stagedStatePrepared && resetFailed } }
  let world := (world.transition .waiting).retryStagedStateReset resetFailed
  { world with fence := { world.fence with
      exitAfterStagedStateReset := world.fence.stagedStateResetPending ||
        world.fence.deferredMutationCommands.any DeferredMutationCommand.isReset } }

def handleRecoveryValidationCompleted (reading : Reading)
    (completed : RecoveryValidationCompleted) (world : World) : Ending :=
  if world.ownsActiveWorker .recovery completed.generation then
    let stale := world.isStale completed.generation
    let world := world.setActiveMutationWorker none
    if stale then .drains world.retainRecoveryAfterCancelledRecovery .nothing
    else if completed.success then
      .drains world.concludeRecovery
        (.exitAfterRecovery (world.hasDeferredIntent && !world.stagedStateResetFailed))
    else .drains (world.enterEventLoop reading) .nothing
  else .returns world

end World

end UmbraHost.DisplayHelper
