import UmbraHost.DisplayHelper.World

/-! # Private operations of the state machine

The helpers of `state_machine.cpp` that the message handlers share, in the
order of the source.  Trigger and status arguments that only feed log lines
are left out. -/

namespace UmbraHost.DisplayHelper

/-- `is_stale_connection`: zero is exempt. -/
def Reading.isStaleConnection (reading : Reading) (connectionEpoch : Nat) : Bool :=
  connectionEpoch != 0 && connectionEpoch != reading.connectionEpoch

namespace World

/-! ## Predicates -/

def mutationWorkerActive (world : World) : Bool :=
  world.fence.activeMutationWorker.isSome

def ownsActiveWorker (kind : MutationWorkerKind) (generation : Nat) (world : World) : Bool :=
  world.fence.activeMutationWorker == some { kind, generation }

def isStale (generation : Nat) (world : World) : Bool :=
  generation != world.ports.generation

def restorePending (world : World) : Bool :=
  world.fence.state == .recovery || world.fence.state == .recoveryValidation ||
    world.fence.state == .eventLoop

def recoveryWorkerInProgress (world : World) : Bool :=
  world.fence.state == .recovery || world.fence.state == .recoveryValidation

def applyInFlight (world : World) : Bool :=
  world.mutationWorkerActive || world.fence.state == .inProgress ||
    world.fence.state == .verification

def requiresDisconnectRecovery (world : World) : Bool :=
  world.lease.recoveryArmed || world.lease.displayChangesPendingRecovery ||
    world.applyInFlight || world.restorePending

def hasDeferredApplyIntent (world : World) : Bool :=
  world.fence.deferredMutationCommands.any DeferredMutationCommand.isApply

/-- The target of a refresh request is the configured device, or a member of
the resolved primary group when the request named no device. -/
def refreshTargetsActiveRequest (deviceId : String) (world : World) : Bool :=
  match world.session.currentRequest.configuration with
  | none => false
  | some configuration =>
      iequals configuration.deviceId deviceId ||
        (configuration.deviceId.isEmpty &&
          match world.session.resolvedTarget with
          | none => false
          | some target => target.duplicateDeviceIds.any (iequals · deviceId))

/-! ## Ports -/

def cancelOperations (world : World) : World :=
  { world with ports := { world.ports with generation := world.ports.generation + 1 } }

def disarmScheduler (world : World) : World :=
  { world with ports := { world.ports with scheduler := world.ports.scheduler.disarm } }

def resetRequestProgress (world : World) : World :=
  { world with ports := { world.ports with
      restoreState := world.ports.restoreState.resetRequestProgress } }

def setExclusions (blacklist : List String) (world : World) : World :=
  { world with ports := { world.ports with
      snapshotBlacklist := blacklist
      restoreState := { world.ports.restoreState with exclusions := blacklist } } }

/-- The blacklist of the source is a set; its order is immaterial. -/
def updateBlacklist (excludeDevices : List String) (world : World) : World :=
  world.setExclusions (excludeDevices.filter fun id => !id.isEmpty).dedup

def transition (next : State) (world : World) : World :=
  { world with fence := { world.fence with state := next } }

def setActiveMutationWorker (worker : Option ActiveMutationWorker) (world : World) : World :=
  { world with fence := { world.fence with activeMutationWorker := worker } }

def startRecovery (delay : Nat) (world : World) : World :=
  let world := { world with lease :=
    { world.lease with recoveryStagedStateResetSucceeded := none } }
  (world.transition .recovery).setActiveMutationWorker
      (some { kind := .recovery, generation := world.ports.generation })
    |>.dispatch (.recovery delay world.ports.generation)

def resetTransientDisconnectSettlement (world : World) : World :=
  { world with settling := { world.settling with
      transientDisconnectSettlementRequested := false
      transientDisconnectCheckPending := false
      transientDisconnectRepairInFlight := false
      nextTransientDisconnectCheck := 0 } }

def deleteRestoreTask (world : World) : World :=
  world.emit (.deleteRestoreTask world.lease.unconfirmedCancelledMutation)

/-- `clear_recovery_state(true)`; no caller keeps the restore task. -/
def clearRecoveryState (world : World) : World :=
  let world := world.disarmScheduler.resetRequestProgress
  let world := { world with
    lease := { world.lease with
      recoveryArmed := false
      displayChangesPendingRecovery := false
      explicitRecoveryRequired := false }
    settling := { world.settling with lastApplyStarted := none } }
  let world := world.resetTransientDisconnectSettlement.emit .disarmHeartbeat
  let world := { world with ports := { world.ports with recoverySnapshot := none } }
  let world := world.deleteRestoreTask
  { world with lease := { world.lease with restoreTaskCreated := false } }

def applyRecoveryPolicyFromCurrentRequest (world : World) : World :=
  let request := world.session.currentRequest
  ({ world with ports := { world.ports with
      restoreState := { world.ports.restoreState with
        alwaysRestoreFromGolden := request.preferGoldenFirst
        restoreOnDisconnect := request.restoreOnDisconnect } } }).emit
    (.preferGoldenFirst request.preferGoldenFirst)

/-- A verified APPLY or a partial mutation stays recoverable until a DISARM or
a confirmed restore clears it. -/
def activateRecoveryLease (world : World) : World :=
  ({ world with lease := { world.lease with
      recoveryArmed := true
      displayChangesPendingRecovery := true } }).applyRecoveryPolicyFromCurrentRequest

/-! ## Replies -/

def sendApplyResult (status : ApplyStatus) (world : World) : World :=
  if world.session.applyResultSent then world
  else
    let world := world.emit (.applyResult status world.session.currentConnectionEpoch
      world.session.currentRequest.requestId)
    { world with session := { world.session with applyResultSent := true } }

def sendVerificationResult (success : Bool) (world : World) : World :=
  if world.session.verificationResultSent then world
  else
    let world := world.emit (.verificationResult success world.session.currentConnectionEpoch
      world.session.currentRequest.requestId)
    { world with session := { world.session with verificationResultSent := true } }

/-! ## Settling ladders -/

def enterSteadyState (world : World) : World :=
  if world.session.currentRequest.virtualLayout.isSome then
    world.transition .virtualDisplayMonitoring
  else world.transition .waiting

def resetPostApplyStabilization (world : World) : World :=
  { world with settling := { world.settling with
      postApplyCheckPending := false
      nextPostApplyStabilization := 0
      postApplyStabilizationDelays := []
      nextVerificationReapply := 0
      verificationReapplyDelays := [] } }

/-- An already queued ordinary check must not race the transient sequence. -/
def replacePostApplyStabilizationWithTransientDisconnectSettlement (world : World) : World :=
  (if world.settling.postApplyCheckPending ||
      (world.session.sessionWasVerified && world.fence.state == .verification) then
    world.cancelOperations
  else world).resetPostApplyStabilization

def rewindPostApplyStabilization (world : World) : World :=
  { world with settling := { world.settling with
      postApplyCheckPending := false
      nextPostApplyStabilization := 0 } }

def dispatchVerification (delay : Nat) (purpose : VerificationPurpose) (world : World) : World :=
  world.dispatch (.verification world.session.currentRequest world.session.expectedTopology
    world.session.resolvedTarget delay purpose world.ports.generation)

def dispatchApplyWorker (delay : Nat) (resetVirtualDisplay : Bool) (world : World) : World :=
  (world.setActiveMutationWorker (some { kind := .apply, generation := world.ports.generation }))
    |>.dispatch (.apply world.session.currentRequest delay resetVirtualDisplay
      world.ports.generation)

def dispatchStabilization (delay : Nat) (world : World) : World :=
  ({ world with settling := { world.settling with
      nextPostApplyStabilization := world.settling.nextPostApplyStabilization + 1
      postApplyCheckPending := true } }).dispatchVerification delay .stabilization

def scheduleNextPostApplyStabilization (world : World) : World :=
  if world.settling.postApplyCheckPending then world
  else
    match world.settling.postApplyStabilizationDelays[
        world.settling.nextPostApplyStabilization]? with
    | none => world
    | some delay => world.dispatchStabilization delay

def dispatchReapply (delay stage : Nat) (world : World) : World :=
  let world := { world with settling := { world.settling with
    nextPostApplyStabilization := max world.settling.nextPostApplyStabilization stage } }
  (world.transition .inProgress).dispatchApplyWorker delay false

/-- The request asked to skip the last HDR stage of its first verification. -/
def omitsReapply (delay : Nat) (world : World) : Bool :=
  world.session.currentRequest.omitFinalInitialHdrReapply &&
    !world.session.sessionWasVerified && delay == 5500

/-- The first component says whether a reapply was dispatched. -/
def dispatchNextVerificationReapply (world : World) : Bool × World :=
  let stage := world.settling.nextVerificationReapply
  match world.settling.verificationReapplyDelays[stage]? with
  | none => (false, world)
  | some delay =>
      let world := { world with settling :=
        { world.settling with nextVerificationReapply := stage + 1 } }
      if world.omitsReapply delay then (false, world)
      else (true, world.dispatchReapply delay stage)

/-- The 250/750 ms verify-before-repair sequence after a recent disconnect. -/
def transientDisconnectDelays : List Nat := [250, 750]

def dispatchTransientDisconnectCheck (delay : Nat) (world : World) : World :=
  let world := { world with settling := { world.settling with
    nextTransientDisconnectCheck := world.settling.nextTransientDisconnectCheck + 1
    transientDisconnectCheckPending := true } }
  (world.transition .verification).dispatchVerification delay .transientDisconnect

def dispatchNextTransientDisconnectVerification (world : World) : Bool × World :=
  if world.settling.transientDisconnectCheckPending then (true, world)
  else if !world.settling.transientDisconnectSettlementRequested ||
      world.session.currentRequest.configuration.isNone then
    (false, world.resetTransientDisconnectSettlement)
  else
    match transientDisconnectDelays[world.settling.nextTransientDisconnectCheck]? with
    | none => (false, world.resetTransientDisconnectSettlement)
    | some delay => (true, world.dispatchTransientDisconnectCheck delay)

def dispatchTransientDisconnectRepair (world : World) : World :=
  let world := world.cancelOperations
  let world := { world with settling := { world.settling with
    transientDisconnectCheckPending := false
    transientDisconnectRepairInFlight := true } }
  (world.transition .inProgress).dispatchApplyWorker 0 false

/-- The failed check consumed its stage; the next delayed stage is reserved in
case the immediate verification of this repair fails. -/
def dispatchImmediateRepairAfterStabilizationFailure (world : World) : World :=
  let world := { world with settling := { world.settling with
    nextVerificationReapply := max world.settling.nextVerificationReapply
      (world.settling.nextPostApplyStabilization + 1) } }
  (world.transition .inProgress).dispatchApplyWorker 0 false

/-! ## The deferred queue -/

/-- A newer session intent supersedes the queued one; RESETs keep their place. -/
def enqueueDeferredMutationCommand (command : DeferredMutationCommand) (world : World) : World :=
  let queued := world.fence.deferredMutationCommands
  let kept := if command.isReset then queued else queued.filter DeferredMutationCommand.isReset
  ({ world with fence := { world.fence with
      deferredMutationCommands := kept ++ [command] } }).emit (.queued command)

def queueAfterActiveMutation (command : DeferredMutationCommand) (cancelActiveMutation : Bool)
    (world : World) : World :=
  (if cancelActiveMutation then world.cancelOperations else world)
    |>.enqueueDeferredMutationCommand command

def beginStagedStateReset (world : World) : World :=
  if world.fence.stagedStateResetPending then world
  else
    ({ world with fence := { world.fence with stagedStateResetPending := true } }).dispatch
      (.resetStagedApplyState world.ports.generation)

/-! ## Recovery lease -/

def createRestoreTask (reading : Reading) (world : World) : World :=
  if world.lease.restoreTaskCreated then world
  else
    let world := world.emit (.createRestoreTask reading.createRestoreTask)
    { world with lease := { world.lease with restoreTaskCreated := reading.createRestoreTask } }

def retainRecoveryAfterDisplayMutation (reading : Reading) (completed : ApplyCompleted)
    (world : World) : World :=
  let world := { world with lease := { world.lease with
    restoreTaskCreated := world.lease.restoreTaskCreated || completed.durableRecoveryArmed } }
  world.activateRecoveryLease.createRestoreTask reading

def retainRecoveryAfterCancelledRecovery (world : World) : World :=
  ({ world with lease := { world.lease with
      recoveryArmed := true
      displayChangesPendingRecovery := true
      unconfirmedCancelledMutation := true } }).emit .armHeartbeat

def resetUncommittedStagedStateIfNeeded (world : World) : World :=
  if !world.lease.stagedStatePrepared || world.lease.recoveryLeaseBeforeApply ||
      world.lease.recoveryArmed || world.lease.unconfirmedCancelledMutation then world
  else
    let world :=
      if world.lease.restoreTaskCreated then
        let world := world.deleteRestoreTask
        { world with lease := { world.lease with restoreTaskCreated := false } }
      else world
    world.beginStagedStateReset

/-! ## Virtual display -/

def replaceDeviceId (previous resolved deviceId : String) : String :=
  if !previous.isEmpty && iequals deviceId previous then resolved else deviceId

/-- The current request with the virtual display's new device id in every place
that named the old one. -/
def retargetRequest (resolved : String) (request : ApplyRequest) : ApplyRequest :=
  match request.virtualLayout, request.configuration with
  | some _, some configuration =>
      let previous := configuration.deviceId
      if resolved.isEmpty || (!previous.isEmpty && iequals previous resolved) then request
      else
        { request with
          configuration := some { configuration with deviceId := resolved }
          topology := request.topology.map (·.map (·.map (replaceDeviceId previous resolved)))
          monitorPositions := request.monitorPositions.map fun entry =>
            (replaceDeviceId previous resolved entry.1, entry.2) }
  | _, _ => request

def retargetVirtualDisplayDeviceIdIfNeeded (resolved : String) (world : World) : World :=
  { world with session := { world.session with
      currentRequest := retargetRequest resolved world.session.currentRequest } }

/-! ## Snapshot ledger -/

/-- `capture_filtered_and_save`: what it writes and whether a write succeeded. -/
def captureFilteredAndSave (reading : Reading) (tier : SnapshotTier) (exclusions : List String) :
    (remaining attempt : Nat) → List Effect × Bool
  | 0, _ => ([], false)
  | remaining + 1, attempt =>
      match reading.captureFiltered attempt exclusions with
      | none => captureFilteredAndSave reading tier exclusions remaining (attempt + 1)
      | some (snapshot, layouts) =>
          if reading.saveSucceeds attempt then ([.saved tier snapshot layouts true], true)
          else
            let later := captureFilteredAndSave reading tier exclusions remaining (attempt + 1)
            (.saved tier snapshot layouts false :: later.1, later.2)

def maxCaptureAttempts : Nat := 3

/-- The first successful capture of at most three. -/
def captureCurrent (reading : Reading) (exclusions : List String) :
    (remaining attempt : Nat) → Option (Snapshot × LayoutRotations)
  | 0, _ => none
  | remaining + 1, attempt =>
      (reading.captureFiltered attempt exclusions).or
        (captureCurrent reading exclusions remaining (attempt + 1))

/-- `refresh_current_preserving_previous`: a failed capture destroys nothing. -/
def refreshCurrentPreservingPrevious (reading : Reading) (exclusions : List String) :
    List Effect × Bool :=
  match captureCurrent reading exclusions maxCaptureAttempts 0 with
  | none => ([], false)
  | some (snapshot, layouts) =>
      let kept := match reading.loadCurrent with
        | none => []
        | some (current, rotations) =>
            [Effect.saved .previous current rotations (reading.saveSucceeds 0)]
      let replaced := reading.saveSucceeds 1
      (kept ++ [.saved .current snapshot layouts replaced], replaced)

end World

end UmbraHost.DisplayHelper
