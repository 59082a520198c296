import UmbraHost.DisplayHelper.RuntimeSupport

/-! # The state of the helper

The fields of `StateMachine`, grouped by what they are about, and the ports it
acts on.  The helper is taken as `run_v2_helper` wires it: every result
callback is installed and no state observer is.  What a handler reads from
outside (clock, virtual display driver, connection epoch, snapshot files) is
one `Reading` per handled command, so a run is determined by its events and by
the sequence of readings. -/

namespace UmbraHost.DisplayHelper

inductive MutationWorkerKind where
  | apply
  | refreshRate
  | recovery
deriving DecidableEq, Repr

structure ActiveMutationWorker where
  kind : MutationWorkerKind
  generation : Nat
deriving DecidableEq, Repr

/-- Work handed to the dispatcher whose completion has not been handled.  The
generation is that of the cancellation token the task carries. -/
inductive Task where
  | apply (request : ApplyRequest) (delay : Nat) (resetVirtualDisplay : Bool) (generation : Nat)
  | verification (request : ApplyRequest) (expectedTopology : Option ActiveTopology)
      (resolvedTarget : Option ResolvedConfigurationTarget) (delay : Nat)
      (purpose : VerificationPurpose) (generation : Nat)
  | resetStagedApplyState (generation : Nat)
  | refreshRate (command : RefreshRateCommand) (generation : Nat)
  | recovery (delay : Nat) (generation : Nat)
  | recoveryValidation (snapshot : Snapshot) (generation : Nat)
deriving DecidableEq, Repr

/-- What the machine does to the world outside, in order. -/
inductive Effect where
  | dispatched (task : Task)
  /-- An APPLY passed its fences; the source logs it. -/
  | applyAccepted (connectionEpoch requestId : Nat)
  | applyResult (status : ApplyStatus) (connectionEpoch requestId : Nat)
  | verificationResult (success : Bool) (connectionEpoch requestId : Nat)
  | snapshotResult (success : Bool) (connectionEpoch requestId : Nat)
  | refreshRateResult (success : Bool) (connectionEpoch requestId : Nat)
  | exit (code : Nat)
  | createRestoreTask (created : Bool)
  /-- The flag is `unconfirmed_cancelled_mutation_` at the moment of the call. -/
  | deleteRestoreTask (unconfirmed : Bool)
  | armHeartbeat
  | disarmHeartbeat
  | recordPing
  | refreshShell
  | blankHdrStates (delay : Nat)
  | saved (tier : SnapshotTier) (snapshot : Snapshot) (layouts : LayoutRotations) (written : Bool)
  | preferGoldenFirst (prefer : Bool)
  | goldenTrackingReset
  | goldenStatusCleared
  | goldenUnresolved
  | queued (command : DeferredMutationCommand)
  | drained (command : DeferredMutationCommand)
deriving DecidableEq, Repr

/-- The worker fence and the queue behind it. -/
structure Fence where
  state : State := .waiting
  activeMutationWorker : Option ActiveMutationWorker := none
  deferredMutationCommands : List DeferredMutationCommand := []
  stagedStateResetPending : Bool := false
  exitAfterStagedStateReset : Bool := false

/-- The recovery lease and what is known about the staged settings state. -/
structure Lease where
  recoveryArmed : Bool := false
  displayChangesPendingRecovery : Bool := false
  explicitRecoveryRequired : Bool := false
  restoreTaskCreated : Bool := false
  unconfirmedCancelledMutation : Bool := false
  recoveryLeaseBeforeApply : Bool := false
  stagedStatePrepared : Bool := false
  recoveryStagedStateResetSucceeded : Option Bool := none

/-- Counters of the retry, stabilization and disconnect ladders. -/
structure Settling where
  applyAttempt : Nat := 0
  virtualHdrFallbackAttempted : Bool := false
  postApplyCheckPending : Bool := false
  postApplyStabilizationDelays : List Nat := []
  nextPostApplyStabilization : Nat := 0
  verificationReapplyDelays : List Nat := []
  nextVerificationReapply : Nat := 0
  transientDisconnectSettlementRequested : Bool := false
  transientDisconnectCheckPending : Bool := false
  transientDisconnectRepairInFlight : Bool := false
  nextTransientDisconnectCheck : Nat := 0
  lastApplyStarted : Option Time := none
  lastVirtualApplyDisplayEventRestart : Time := 0

/-- The request being served and the replies already sent for it. -/
structure Session where
  currentRequest : ApplyRequest := {}
  currentConnectionEpoch : Nat := 0
  applyResultSent : Bool := false
  verificationResultSent : Bool := false
  sessionWasVerified : Bool := false
  expectedTopology : Option ActiveTopology := none
  resolvedTarget : Option ResolvedConfigurationTarget := none

/-- The cancellation source, the shared restore state, the dispatcher's
outstanding tasks and everything emitted so far.  `moment` numbers the
readings. -/
structure Ports where
  generation : Nat := 0
  restoreState : RestoreState := {}
  scheduler : RestoreScheduler := {}
  policy : ApplyPolicy := {}
  recoverySnapshot : Option Snapshot := none
  snapshotBlacklist : List String := []
  tasks : List Task := []
  effects : List Effect := []
  moment : Nat := 0

structure World where
  fence : Fence := {}
  lease : Lease := {}
  settling : Settling := {}
  session : Session := {}
  ports : Ports := {}

/-- What one handled command can observe outside the machine.  The functions of
a number give the successive answers of one source within the same handler. -/
structure Reading where
  connectionEpoch : Nat := 0
  now : Nat → Time := fun _ => 0
  virtualDeviceId : Nat → String := fun _ => ""
  tierExists : SnapshotTier → Bool := fun _ => false
  captureFiltered : Nat → List String → Option (Snapshot × LayoutRotations) := fun _ _ => none
  saveSucceeds : Nat → Bool := fun _ => false
  loadCurrent : Option (Snapshot × LayoutRotations) := none
  createRestoreTask : Bool := false

/-- The outside world over a whole run. -/
abbrev Environment := Nat → Reading

namespace World

def emit (effect : Effect) (world : World) : World :=
  { world with ports := { world.ports with effects := world.ports.effects ++ [effect] } }

def emitAll (effects : List Effect) (world : World) : World :=
  { world with ports := { world.ports with effects := world.ports.effects ++ effects } }

/-- Hand a task to the dispatcher. -/
def dispatch (task : Task) (world : World) : World :=
  { world with ports := { world.ports with
      tasks := world.ports.tasks ++ [task]
      effects := world.ports.effects ++ [.dispatched task] } }

/-- One command has been handled: later ones see later readings. -/
def advance (world : World) : World :=
  { world with ports := { world.ports with moment := world.ports.moment + 1 } }

end World

end UmbraHost.DisplayHelper
