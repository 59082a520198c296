import UmbraHost.DisplayHelper.Completions

/-! # Display events, heartbeats, ticks and transient disconnects -/

namespace UmbraHost.DisplayHelper

namespace World

/-! ## Display events -/

/-- The APPLY the machine queues for itself when the virtual display changed
under an active mutation. -/
def restartCommand (world : World) : ApplyCommand :=
  { request := world.session.currentRequest
    generation := world.ports.generation
    connectionEpoch := world.session.currentConnectionEpoch }

/-- The virtual display still has the device id of the current request. -/
def sameVirtualDevice (reading : Reading) (world : World) : Bool :=
  match world.session.currentRequest.configuration with
  | none => false
  | some configuration =>
      !(reading.virtualDeviceId 0).isEmpty &&
        iequals configuration.deviceId (reading.virtualDeviceId 0)

def queueRestart (reading : Reading) (world : World) : World :=
  let world := world.retargetVirtualDisplayDeviceIdIfNeeded (reading.virtualDeviceId 1)
  world.queueAfterActiveMutation (.apply world.restartCommand) true

/-- The check of a display event that kept the virtual display's device id. -/
def dispatchDisplayEventCheck (world : World) : World :=
  ({ world with settling := { world.settling with
      postApplyCheckPending := true } }).dispatchVerification 0 .stabilization

/-- Restart the current request on a virtual display that changed. -/
def restartWhileMonitoring (reading : Reading) (world : World) : World :=
  let world := world.cancelOperations.retargetVirtualDisplayDeviceIdIfNeeded
    (reading.virtualDeviceId 1)
  let world := { world with settling := { world.settling with applyAttempt := 1 } }
  (world.rewindPostApplyStabilization.transition .inProgress).dispatchApplyWorker 0 false

def displayEventWhileMonitoring (reading : Reading) (world : World) : World :=
  if world.mutationWorkerActive then
    -- A refresh keeps the monitoring state; its completion covers a same-id event.
    if world.sameVirtualDevice reading then world else world.queueRestart reading
  else if world.sameVirtualDevice reading then
    if world.settling.postApplyCheckPending then world else world.dispatchDisplayEventCheck
  else world.restartWhileMonitoring reading

def debounce : Time := milliseconds 250

/-- A restart is coalesced with one that happened within the debounce time. -/
def debounced (now : Time) (world : World) : Bool :=
  world.settling.lastVirtualApplyDisplayEventRestart != 0 &&
    now - world.settling.lastVirtualApplyDisplayEventRestart < debounce

def restartDuringVerification (reading : Reading) (world : World) : World :=
  let world := world.cancelOperations
  let world := { world with
    settling := { world.settling with applyAttempt := 1 }
    session := { world.session with expectedTopology := none } }
  let world := world.rewindPostApplyStabilization.retargetVirtualDisplayDeviceIdIfNeeded
    (reading.virtualDeviceId 1)
  (world.transition .inProgress).dispatchApplyWorker 100 false

def displayEventDuringApply (reading : Reading) (world : World) : World :=
  if world.sameVirtualDevice reading then world
  else if world.debounced (reading.now 0) then world
  else
    let world := { world with settling := { world.settling with
      lastVirtualApplyDisplayEventRestart := reading.now 0 } }
    if world.mutationWorkerActive then world.queueRestart reading
    else world.restartDuringVerification reading

def displayEventInEventLoop (reading : Reading) (world : World) : World :=
  if world.lease.recoveryArmed then
    let world := { world with ports := { world.ports with
      scheduler := world.ports.scheduler.onDisplayEvent (reading.now 0) } }
    if world.ports.scheduler.shouldAttempt (reading.now 1) then world.startRecovery 0 else world
  else world

def handleDisplayEvent (reading : Reading) (event : DisplayEventMessage) (world : World) : World :=
  if world.isStale event.generation then world
  else
    match world.fence.state with
    | .virtualDisplayMonitoring => world.displayEventWhileMonitoring reading
    | .inProgress | .verification =>
        if world.session.currentRequest.virtualLayout.isSome then
          world.displayEventDuringApply reading
        else world
    | .eventLoop => world.displayEventInEventLoop reading
    | _ => world

/-! ## Heartbeat -/

/-- The intent a heartbeat queues behind an active worker. -/
def heartbeatIntent (connectionEpoch : Nat) (world : World) : DeferredMutationCommand :=
  if !world.lease.explicitRecoveryRequired && !world.ports.restoreState.restoreOnDisconnect then
    .disarm { connectionEpoch }
  else .revert { connectionEpoch, immediate := true, fromDisconnect := true }

def handleHelperEvent (reading : Reading) (event : HelperEventMessage) (world : World) : World :=
  if world.isStale event.generation then world
  else if reading.isStaleConnection event.connectionEpoch then world
  else if !world.lease.recoveryArmed then world
  else if world.recoveryWorkerInProgress then world
  else if world.mutationWorkerActive then
    if world.hasDeferredApplyIntent then world
    else world.queueAfterActiveMutation (world.heartbeatIntent event.connectionEpoch) true
  else if world.keepsDisplayOnDisconnect then
    world.cancelOperations.clearRecoveryState.resetPostApplyStabilization.transition .waiting
  else
    let world := (world.cancelOperations.emit .disarmHeartbeat).resetPostApplyStabilization
    let world := world.emit .goldenTrackingReset
    let world := { world with ports := { world.ports with
      scheduler := world.ports.scheduler.armPrimary (reading.now 0) 5000 } }
    world.startRecovery 5000

/-! ## Ticks -/

def handleTick (reading : Reading) (world : World) : World :=
  if world.fence.state ≠ .eventLoop ∨ world.lease.recoveryArmed = false then world
  else
    let expired := world.ports.scheduler.windowJustExpired (reading.now 0)
    let world := { world with ports := { world.ports with scheduler := expired.2 } }
    if expired.1 then world.emit .goldenUnresolved
    else if world.ports.scheduler.shouldAttempt (reading.now 0) then world.startRecovery 0
    else world

/-! ## Transient disconnects -/

def applyDisconnectGrace : Time := seconds 5

def shouldDeferDisconnectRecovery (reading : Reading) (world : World) : Bool :=
  match world.settling.lastApplyStarted with
  | none => false
  | some started =>
      !world.lease.explicitRecoveryRequired && world.ports.restoreState.restoreOnDisconnect &&
        0 ≤ reading.now 0 - started && reading.now 0 - started ≤ applyDisconnectGrace

def noteTransientDisconnect (world : World) : World :=
  { world with settling := { world.settling with transientDisconnectSettlementRequested := true } }

/-- Ordinary checks are only replaced once no mutation is active. -/
def requestTransientDisconnectSettlement (world : World) : World :=
  let world := world.noteTransientDisconnect
  if world.mutationWorkerActive then world
  else world.replacePostApplyStabilizationWithTransientDisconnectSettlement

/-- An active mutation or the initial gate owns the next decision. -/
def awaitsDecision (world : World) : Bool :=
  world.mutationWorkerActive ||
    (!world.session.sessionWasVerified && world.fence.state == .verification)

/-- The first component is the reply to the pipe owner: whether recovery is
deferred. -/
def beginTransientDisconnectSettlement (reading : Reading) (world : World) : Bool × World :=
  if !world.shouldDeferDisconnectRecovery reading ||
      world.session.currentRequest.configuration.isNone then (false, world)
  else if world.settling.transientDisconnectSettlementRequested then (true, world)
  else
    let world := world.requestTransientDisconnectSettlement
    if world.awaitsDecision then (true, world)
    else world.dispatchNextTransientDisconnectVerification

/-! ## Messages -/

/-- `handle_message` up to the drain of the handler it calls. -/
def dispatchMessage (reading : Reading) (message : Message) (world : World) : Ending :=
  match message with
  | .apply command => .returns (world.handleApplyCommand reading command)
  | .revert command => .returns (world.handleRevertCommand reading command)
  | .disarm command => .returns (world.handleDisarmCommand reading command)
  | .exportGolden command => .returns (world.handleExportGolden reading command)
  | .snapshotCurrent command => .returns (world.handleSnapshotCurrent reading command)
  | .refreshRate command => .returns (world.handleRefreshRateCommand reading command)
  | .reset command => .returns (world.handleResetCommand reading command)
  | .ping command => .returns (world.handlePingCommand reading command)
  | .stop command => .returns (world.handleStopCommand reading command)
  | .applyCompleted completed => world.handleApplyCompleted reading completed
  | .verificationCompleted completed => .returns (world.handleVerificationCompleted completed)
  | .resetCompleted completed => world.handleResetCompleted completed
  | .refreshRateCompleted completed => world.handleRefreshRateCompleted completed
  | .recoveryCompleted completed => world.handleRecoveryCompleted reading completed
  | .recoveryValidationCompleted completed =>
      world.handleRecoveryValidationCompleted reading completed
  | .displayEvent event => .returns (world.handleDisplayEvent reading event)
  | .helperEvent event => .returns (world.handleHelperEvent reading event)

end World

end UmbraHost.DisplayHelper
