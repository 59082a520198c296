import UmbraHost.DisplayHelper.Machine

/-! # Command handlers

Each handler takes the reading of the moment it runs at.  The commands that can
replace or destroy recovery state wait behind an active mutation worker or a
pending staged-state reset; `drainDeferredMutationCommands` takes them up once
the fence is down. -/

namespace UmbraHost.DisplayHelper

namespace World

/-! ## APPLY -/

/-- The delays of the verification ladders of a request; HDR transitions get
the longer envelope. -/
def postApplyStabilizationDelaysOf (configuration : SingleDisplayConfiguration) : List Nat :=
  if configuration.hdrState.isSome then [750, 2500, 5500] else [750]

def verificationReapplyDelaysOf (configuration : SingleDisplayConfiguration) : List Nat :=
  if configuration.hdrState.isSome then [0, 750, 2500, 5500] else [0, 750]

/-- A request that names no exclusions keeps the present blacklist. -/
def adoptExclusions (snapshotExclusions : Option (List String)) (world : World) : World :=
  match snapshotExclusions with
  | none => world
  | some excludeDevices => world.updateBlacklist excludeDevices

/-- The part of `handle_apply_command` that installs the new request and
forgets the previous transaction. -/
def installRequest (command : ApplyCommand) (world : World) : World :=
  let world := { world with lease := { world.lease with
    recoveryLeaseBeforeApply :=
      world.lease.recoveryArmed || world.lease.displayChangesPendingRecovery } }
  let world := world.cancelOperations.disarmScheduler.resetRequestProgress.emit .armHeartbeat
  let world := { world with
    settling := { world.settling with applyAttempt := 1, virtualHdrFallbackAttempted := false }
    session :=
      { currentRequest := command.request
        currentConnectionEpoch := command.connectionEpoch
        applyResultSent := false
        verificationResultSent := false
        sessionWasVerified := false
        expectedTopology := none
        resolvedTarget := none } }
  world.resetPostApplyStabilization.adoptExclusions command.request.snapshotExclusions

def captureMissingBaseline (reading : Reading) (world : World) : World :=
  if reading.tierExists .current then world
  else
    world.emitAll (captureFilteredAndSave reading .current world.ports.snapshotBlacklist
      maxCaptureAttempts 0).1

/-- `handle_apply_command` past the fences. -/
def acceptApplyCommand (reading : Reading) (command : ApplyCommand) (world : World) : World :=
  let world := (world.emit (.applyAccepted command.connectionEpoch
    command.request.requestId)).installRequest command
  match command.request.configuration with
  | none => (world.sendApplyResult .invalidRequest).transition .waiting
  | some configuration =>
      let world := { world with settling := { world.settling with
        lastApplyStarted := some (reading.now 0) } }
      let world := world.applyRecoveryPolicyFromCurrentRequest
      let world := { world with settling := { world.settling with
        postApplyStabilizationDelays := postApplyStabilizationDelaysOf configuration
        verificationReapplyDelays := verificationReapplyDelaysOf configuration } }
      let world := world.captureMissingBaseline reading
      (world.transition .inProgress).dispatchApplyWorker 0 false

def handleApplyCommand (reading : Reading) (command : ApplyCommand) (world : World) : World :=
  if reading.isStaleConnection command.connectionEpoch then world
  else
    -- The newest desired session clears older recovery intent even when it has to wait.
    let world := { world with lease := { world.lease with explicitRecoveryRequired := false } }
    let world := world.resetTransientDisconnectSettlement
    if world.mutationWorkerActive then world.queueAfterActiveMutation (.apply command) true
    else if world.fence.stagedStateResetPending then
      world.enqueueDeferredMutationCommand (.apply command)
    else world.acceptApplyCommand reading command

/-! ## REVERT -/

def nothingToRestore (reading : Reading) : Bool :=
  !reading.tierExists .current && !reading.tierExists .previous && !reading.tierExists .golden

/-- The disconnect policy of a session that opted out of restoring. -/
def keepsDisplayOnDisconnect (world : World) : Bool :=
  !world.lease.explicitRecoveryRequired && !world.ports.restoreState.restoreOnDisconnect &&
    !world.recoveryWorkerInProgress

/-- `handle_revert_command` past the fences. -/
def acceptRevertCommand (reading : Reading) (command : RevertCommand) (world : World) : World :=
  if command.fromDisconnect && world.keepsDisplayOnDisconnect then
    world.cancelOperations.clearRecoveryState.resetPostApplyStabilization.transition .waiting
  else if nothingToRestore reading then
    world.cancelOperations.clearRecoveryState.emit (.exit 0)
  else
    let world := { world with ports := { world.ports with
      restoreState := { world.ports.restoreState with
        preferGoldenIfCurrentMissing := command.preferGoldenIfCurrentMissing
        alwaysRestoreFromGolden := command.alwaysRestoreFromGolden.getD
          world.ports.restoreState.alwaysRestoreFromGolden } } }
    let world := (world.emit .goldenTrackingReset).cancelOperations
    let world := { world with lease := { world.lease with
      recoveryArmed := true
      displayChangesPendingRecovery := true } }
    let world := (world.emit .disarmHeartbeat).resetPostApplyStabilization
    let grace := if command.immediate then 0 else 5000
    let world := { world with ports := { world.ports with
      scheduler := world.ports.scheduler.armPrimary (reading.now 0) grace } }
    world.startRecovery grace

/-- Only an explicit REVERT makes the recovery mandatory and ends a disconnect
settlement. -/
def noteRevert (command : RevertCommand) (world : World) : World :=
  if command.fromDisconnect then world
  else
    ({ world with lease := { world.lease with
        explicitRecoveryRequired := true } }).resetTransientDisconnectSettlement

def handleRevertCommand (reading : Reading) (command : RevertCommand) (world : World) : World :=
  if reading.isStaleConnection command.connectionEpoch then world
  else
    let world := world.noteRevert command
    -- A repeated disconnect joins the live recovery instead of restarting its grace.
    if command.fromDisconnect && world.recoveryWorkerInProgress then world
    else if world.mutationWorkerActive then
      world.queueAfterActiveMutation (.revert command) true
    else if world.fence.stagedStateResetPending then
      world.enqueueDeferredMutationCommand (.revert command)
    else world.acceptRevertCommand reading command

/-! ## DISARM -/

/-- An unconfirmed restore attempt must not be cancelled by a later probe. -/
def disarmIgnored (world : World) : Bool :=
  world.restorePending && world.ports.restoreState.restoreAttemptedUnconfirmed

/-- `handle_disarm_command` past the fences. -/
def acceptDisarmCommand (world : World) : World :=
  let world := world.cancelOperations
  let world :=
    if world.lease.unconfirmedCancelledMutation then world else world.clearRecoveryState
  let world := { world with
    settling := { world.settling with applyAttempt := 0, lastApplyStarted := none }
    session := { world.session with
      applyResultSent := false
      verificationResultSent := false
      sessionWasVerified := false
      expectedTopology := none
      resolvedTarget := none }
    lease := { world.lease with restoreTaskCreated :=
      world.lease.restoreTaskCreated && world.lease.unconfirmedCancelledMutation } }
  world.resetPostApplyStabilization.transition .waiting

def handleDisarmCommand (reading : Reading) (command : DisarmCommand) (world : World) : World :=
  if reading.isStaleConnection command.connectionEpoch then world
  else if world.disarmIgnored then world
  else
    let world := { world with lease := { world.lease with explicitRecoveryRequired := false } }
    let world := world.resetTransientDisconnectSettlement
    if world.fence.stagedStateResetPending then
      world.enqueueDeferredMutationCommand (.disarm command)
    else if world.mutationWorkerActive then
      world.disarmScheduler.queueAfterActiveMutation (.disarm command) true
    else world.acceptDisarmCommand

/-! ## Snapshots and liveness -/

def updateExclusions (payload : SnapshotCommandPayload) (world : World) : World :=
  if payload.updateExclusions || !payload.excludeDevices.isEmpty then
    world.updateBlacklist payload.excludeDevices
  else world

def handleExportGolden (reading : Reading) (command : ExportGoldenCommand) (world : World) :
    World :=
  if reading.isStaleConnection command.connectionEpoch then world
  else if world.applyInFlight || world.restorePending then world
  else
    let world := world.updateExclusions command.payload
    let saved := captureFilteredAndSave reading .golden world.ports.snapshotBlacklist
      maxCaptureAttempts 0
    world.emitAll (if saved.2 then saved.1 ++ [.goldenStatusCleared] else saved.1)

def handleSnapshotCurrent (reading : Reading) (command : SnapshotCurrentCommand)
    (world : World) : World :=
  if reading.isStaleConnection command.connectionEpoch then world
  else if world.restorePending || world.applyInFlight then
    world.emit (.snapshotResult false command.connectionEpoch command.requestId)
  else
    let world := world.updateExclusions command.payload
    let saved := refreshCurrentPreservingPrevious reading world.ports.snapshotBlacklist
    world.emitAll (saved.1 ++ [.snapshotResult saved.2 command.connectionEpoch command.requestId])

def handlePingCommand (reading : Reading) (command : PingCommand) (world : World) : World :=
  if reading.isStaleConnection command.connectionEpoch then world else world.emit .recordPing

def handleStopCommand (reading : Reading) (command : StopCommand) (world : World) : World :=
  if reading.isStaleConnection command.connectionEpoch then world else world.emit (.exit 0)

/-! ## Refresh rate and RESET -/

def rejectRefreshRate (command : RefreshRateCommand) (world : World) : World :=
  world.emit (.refreshRateResult false command.connectionEpoch command.requestId)

def handleRefreshRateCommand (reading : Reading) (command : RefreshRateCommand)
    (world : World) : World :=
  if reading.isStaleConnection command.connectionEpoch then world
  else if command.deviceId.isEmpty || command.numerator == 0 || command.denominator == 0 then
    world.rejectRefreshRate command
  else if world.applyInFlight || world.restorePending then world.rejectRefreshRate command
  else if world.settling.postApplyCheckPending &&
      !world.refreshTargetsActiveRequest command.deviceId then
    world.rejectRefreshRate command
  else
    -- A pending check carries the request from before the refresh.
    let world :=
      if world.settling.postApplyCheckPending then
        world.cancelOperations.rewindPostApplyStabilization
      else world
    (world.setActiveMutationWorker
        (some { kind := .refreshRate, generation := world.ports.generation })).dispatch
      (.refreshRate command world.ports.generation)

/-- RESET serializes behind a mutation without cancelling it. -/
def handleResetCommand (reading : Reading) (command : ResetCommand) (world : World) : World :=
  if reading.isStaleConnection command.connectionEpoch then world
  else if world.fence.stagedStateResetPending then
    world.enqueueDeferredMutationCommand (.reset command)
  else if world.mutationWorkerActive then
    world.queueAfterActiveMutation (.reset command) false
  else world.beginStagedStateReset

/-! ## Draining the deferred queue -/

def handleDeferred (reading : Reading) : DeferredMutationCommand → World → World
  | .apply command => handleApplyCommand reading command
  | .revert command => handleRevertCommand reading command
  | .disarm command => handleDisarmCommand reading command
  | .reset command => handleResetCommand reading command

/-- The loop condition of the drain, the empty queue apart. -/
def fenceDown (world : World) : Bool :=
  !world.mutationWorkerActive && !world.fence.stagedStateResetPending

def popDeferred (command : DeferredMutationCommand) (rest : List DeferredMutationCommand)
    (world : World) : World :=
  ({ world with fence := { world.fence with deferredMutationCommands := rest } }).emit
    (.drained command)

/-- One iteration of the drain: the front command is handled with the reading
of its own moment. -/
def drainOne (environment : Environment) (command : DeferredMutationCommand)
    (rest : List DeferredMutationCommand) (world : World) : World :=
  handleDeferred (environment world.ports.moment) command
    (world.popDeferred command rest).advance

def drainLoop (environment : Environment) : Nat → World → World
  | 0, world => world
  | fuel + 1, world =>
      match world.fence.deferredMutationCommands with
      | [] => world
      | command :: rest =>
          if world.fenceDown then drainLoop environment fuel (world.drainOne environment command rest)
          else world

/-- A command handled with the fence down never re-enters the queue, so the
length of the queue is enough iterations. -/
def drainDeferredMutationCommands (environment : Environment) (world : World) : World :=
  drainLoop environment world.fence.deferredMutationCommands.length world

end World

end UmbraHost.DisplayHelper
