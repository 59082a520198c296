import Mathlib.Data.List.Basic

/-! # Vocabulary of the display helper

The commands, completions and events that the helper's state machine handles
(`display_helper_v2/types.h`), together with the outcomes its workers report
(`operations.h`).  Device identifiers are the Windows device paths the host
sends over IPC; they are compared without regard to case. -/

namespace UmbraHost.DisplayHelper

inductive ApplyStatus where
  | ok
  | helperUnavailable
  | invalidRequest
  | verificationFailed
  | needsVirtualDisplayReset
  | retryable
  | fatal
deriving DecidableEq, Repr

inductive SnapshotTier where
  | current
  | previous
  | golden
deriving DecidableEq, Repr

inductive PolicyDecision where
  | proceed
  | retry
  | resetVirtualDisplay
  | skipToNextTier
deriving DecidableEq, Repr

inductive State where
  | waiting
  | inProgress
  | verification
  | recovery
  | recoveryValidation
  | eventLoop
  | virtualDisplayMonitoring
deriving DecidableEq, Repr

inductive DisplayEvent where
  | displayChange
  | powerResume
  | deviceArrival
  | deviceRemoval
deriving DecidableEq, Repr

inductive HelperEvent where
  | heartbeatTimeout
deriving DecidableEq, Repr

inductive HdrState where
  | disabled
  | enabled
deriving DecidableEq, Repr

inductive DevicePreparation where
  | verifyOnly
  | ensureActive
  | ensurePrimary
  | ensureOnlyDisplay
deriving DecidableEq, Repr

/-- `boost::iequals` on device identifiers. -/
def iequals (left right : String) : Bool :=
  left.toList.map Char.toLower == right.toList.map Char.toLower

abbrev ActiveTopology := List (List String)

structure Point where
  x : Int
  y : Int
deriving DecidableEq, Repr

structure Resolution where
  width : Nat
  height : Nat
deriving DecidableEq, Repr

structure Rational where
  numerator : Nat
  denominator : Nat
deriving DecidableEq, Repr

structure DisplayMode where
  resolution : Resolution
  refreshRate : Rational
deriving DecidableEq, Repr

/-- `display_device::DisplaySettingsSnapshot`.  The ordered maps of the source
are association lists in key order. -/
structure Snapshot where
  topology : ActiveTopology := []
  modes : List (String × DisplayMode) := []
  hdrStates : List (String × Option HdrState) := []
  primaryDevice : String := ""
  origins : List (String × Point) := []
deriving DecidableEq, Repr

abbrev LayoutRotations := List (String × Int)

structure SingleDisplayConfiguration where
  deviceId : String := ""
  devicePrep : DevicePreparation := .verifyOnly
  resolution : Option Resolution := none
  refreshRate : Option Rational := none
  hdrState : Option HdrState := none
deriving DecidableEq, Repr

inductive DeviceTargetKind where
  | none
  | explicitDevice
  | defaultPrimaryGroup
deriving DecidableEq, Repr

/-- Candidates that must survive a topology Windows adjusted on activation. -/
structure TopologyActivationTarget where
  kind : DeviceTargetKind := .none
  acceptableDeviceIds : List String := []
deriving DecidableEq, Repr

/-- The duplicate group of the topology Windows accepted. -/
structure ResolvedConfigurationTarget where
  kind : DeviceTargetKind := .none
  representativeDeviceId : String := ""
  duplicateDeviceIds : List String := []
deriving DecidableEq, Repr

structure ApplyTopologyPlan where
  topology : ActiveTopology
  activationTarget : TopologyActivationTarget
deriving DecidableEq, Repr

structure ApplyRequest where
  configuration : Option SingleDisplayConfiguration := none
  topology : Option ActiveTopology := none
  monitorPositions : List (String × Point) := []
  refreshRateOverrides : List (String × Nat × Nat) := []
  hdrBlank : Bool := false
  preferGoldenFirst : Bool := false
  restoreOnDisconnect : Bool := true
  omitFinalInitialHdrReapply : Bool := false
  virtualLayout : Option String := none
  snapshotExclusions : Option (List String) := none
  requestId : Nat := 0
deriving DecidableEq, Repr

/-! ## Commands -/

structure SnapshotCommandPayload where
  excludeDevices : List String := []
  updateExclusions : Bool := false
deriving DecidableEq, Repr

/-- A zero epoch marks a command of the helper itself; it is exempt from the
retirement of connections. -/
structure ApplyCommand where
  request : ApplyRequest
  generation : Nat := 0
  connectionEpoch : Nat := 0
deriving DecidableEq, Repr

structure RevertCommand where
  generation : Nat := 0
  connectionEpoch : Nat := 0
  preferGoldenIfCurrentMissing : Bool := true
  alwaysRestoreFromGolden : Option Bool := none
  immediate : Bool := false
  fromDisconnect : Bool := false
deriving DecidableEq, Repr

structure DisarmCommand where
  generation : Nat := 0
  connectionEpoch : Nat := 0
deriving DecidableEq, Repr

structure ExportGoldenCommand where
  payload : SnapshotCommandPayload := {}
  generation : Nat := 0
  connectionEpoch : Nat := 0
deriving DecidableEq, Repr

structure SnapshotCurrentCommand where
  payload : SnapshotCommandPayload := {}
  generation : Nat := 0
  connectionEpoch : Nat := 0
  requestId : Nat := 0
deriving DecidableEq, Repr

structure RefreshRateCommand where
  deviceId : String := ""
  numerator : Nat := 0
  denominator : Nat := 0
  generation : Nat := 0
  connectionEpoch : Nat := 0
  requestId : Nat := 0
deriving DecidableEq, Repr

structure ResetCommand where
  generation : Nat := 0
  connectionEpoch : Nat := 0
deriving DecidableEq, Repr

structure PingCommand where
  generation : Nat := 0
  connectionEpoch : Nat := 0
deriving DecidableEq, Repr

structure StopCommand where
  generation : Nat := 0
  connectionEpoch : Nat := 0
deriving DecidableEq, Repr

/-! ## Worker outcomes and completions -/

/-- Why a read-only verification was scheduled. -/
inductive VerificationPurpose where
  | initial
  | stabilization
  | transientDisconnect
deriving DecidableEq, Repr

structure ApplyOutcome where
  status : ApplyStatus := .fatal
  expectedTopology : Option ActiveTopology := none
  resolvedTarget : Option ResolvedConfigurationTarget := none
  virtualDisplayRequested : Bool := false
  displayMayHaveChanged : Bool := false
  durableRecoveryArmed : Bool := false
  stagedStatePrepared : Bool := false
deriving DecidableEq, Repr

structure RecoveryOutcome where
  success : Bool := false
  snapshot : Option Snapshot := none
  displayMayHaveChanged : Bool := false
  stagedStateResetAttempted : Bool := false
  stagedStateResetSucceeded : Bool := false
deriving DecidableEq, Repr

structure ApplyCompleted extends ApplyOutcome where
  generation : Nat := 0
deriving DecidableEq, Repr

structure VerificationCompleted where
  success : Bool := false
  purpose : VerificationPurpose := .initial
  generation : Nat := 0
deriving DecidableEq, Repr

structure ResetCompleted where
  success : Bool := false
  generation : Nat := 0
deriving DecidableEq, Repr

structure RefreshRateCompleted where
  success : Bool := false
  deviceId : String := ""
  numerator : Nat := 0
  denominator : Nat := 0
  generation : Nat := 0
  connectionEpoch : Nat := 0
  requestId : Nat := 0
deriving DecidableEq, Repr

structure RecoveryCompleted extends RecoveryOutcome where
  generation : Nat := 0
deriving DecidableEq, Repr

structure RecoveryValidationCompleted where
  success : Bool := false
  generation : Nat := 0
deriving DecidableEq, Repr

structure DisplayEventMessage where
  event : DisplayEvent := .displayChange
  generation : Nat := 0
deriving DecidableEq, Repr

structure HelperEventMessage where
  event : HelperEvent := .heartbeatTimeout
  generation : Nat := 0
  connectionEpoch : Nat := 0
deriving DecidableEq, Repr

inductive Message where
  | apply (command : ApplyCommand)
  | revert (command : RevertCommand)
  | disarm (command : DisarmCommand)
  | exportGolden (command : ExportGoldenCommand)
  | snapshotCurrent (command : SnapshotCurrentCommand)
  | refreshRate (command : RefreshRateCommand)
  | reset (command : ResetCommand)
  | ping (command : PingCommand)
  | stop (command : StopCommand)
  | applyCompleted (completed : ApplyCompleted)
  | verificationCompleted (completed : VerificationCompleted)
  | resetCompleted (completed : ResetCompleted)
  | refreshRateCompleted (completed : RefreshRateCompleted)
  | recoveryCompleted (completed : RecoveryCompleted)
  | recoveryValidationCompleted (completed : RecoveryValidationCompleted)
  | displayEvent (event : DisplayEventMessage)
  | helperEvent (event : HelperEventMessage)
deriving DecidableEq, Repr

/-- The commands that may wait behind the mutation fence. -/
inductive DeferredMutationCommand where
  | apply (command : ApplyCommand)
  | revert (command : RevertCommand)
  | disarm (command : DisarmCommand)
  | reset (command : ResetCommand)
deriving DecidableEq, Repr

/-- RESET is an ordered persistence barrier; the other three describe the
desired session and supersede one another. -/
def DeferredMutationCommand.isReset : DeferredMutationCommand → Bool
  | .reset _ => true
  | _ => false

def DeferredMutationCommand.isApply : DeferredMutationCommand → Bool
  | .apply _ => true
  | _ => false

end UmbraHost.DisplayHelper
