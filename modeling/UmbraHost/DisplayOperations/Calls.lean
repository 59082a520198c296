import Mathlib.Algebra.Group.Nat.Defs
import Mathlib.Algebra.Group.Int.Defs
import UmbraHost.DisplayHelper.RuntimeSupport
import UmbraHost.Interaction.Program

/-! # What the display operations call

The interfaces behind `operations.cpp` (`interfaces.h`): Windows display
settings, the virtual display driver, snapshot storage, the clock, the
cancellation token, the callback that arms durable recovery and the health of
the golden snapshot.  All of them are replies of the environment. -/

namespace UmbraHost.DisplayOperations

open UmbraHost.DisplayHelper UmbraHost.Interaction

/-- `display_device::EnumeratedDevice`, as far as the operations look at it. -/
structure EnumeratedDevice where
  deviceId : String := ""
  displayName : String := ""
  friendlyName : String := ""
  edidManufacturerId : Option String := none
  hasInfo : Bool := false
deriving DecidableEq, Repr

/-- `codec::ParsedSnapshot`. -/
structure ParsedSnapshot where
  snapshot : Snapshot := {}
  snapshotVersion : Int := 1
  hasLayoutData : Bool := false
  layoutRotations : LayoutRotations := []
deriving DecidableEq, Repr

inductive Call where
  | isCancelled
  | now
  | sleepFor (milliseconds : Nat)
  | apply (configuration : SingleDisplayConfiguration)
  | applyTopology (topology : ActiveTopology)
  | enumerate
  | captureTopology
  | validateTopology (topology : ActiveTopology)
  | validateTopologyForApply (topology : ActiveTopology)
  | captureSnapshot
  | applySnapshotSettings (snapshot : Snapshot)
  | snapshotMatchesCurrent (snapshot : Snapshot)
  | setDisplayOrigin (deviceId : String) (origin : Point)
  | computeApplyTopologyPlan (configuration : SingleDisplayConfiguration)
      (base : ActiveTopology)
  | isTopologySame (left right : ActiveTopology)
  | topologyIsValid (topology : ActiveTopology)
  | recoverDisplayStack
  | prepareStagedApply (topology : ActiveTopology)
  | resetStagedApplyState
  | applyLayoutRotations (rotations : LayoutRotations)
  | currentLayoutMatches (rotations : LayoutRotations)
  | setDeviceRefreshRate (deviceId : String) (numerator denominator : Nat)
  | getDisplayResolution (deviceId : String)
  | canRepositionDevice (deviceId : String)
  | disableVirtualDisplay
  | enableVirtualDisplay
  | mutationBoundary
  | loadWithMetadata (tier : SnapshotTier)
  | save (tier : SnapshotTier) (snapshot : Snapshot) (rotations : LayoutRotations)
  | remove (tier : SnapshotTier)
  | exists_ (tier : SnapshotTier)
  | exclusions
  | noteIssue (reason : String)
  | clearStatus (reason : String)
  | registerUnresolved (context : String)
deriving DecidableEq, Repr

abbrev Reply : Call → Type
  | .isCancelled => Bool
  | .now => Time
  | .sleepFor _ => Unit
  | .apply _ => ApplyStatus
  | .applyTopology _ => ApplyStatus
  | .enumerate => List EnumeratedDevice
  | .captureTopology => ActiveTopology
  | .validateTopology _ => Bool
  | .validateTopologyForApply _ => Bool
  | .captureSnapshot => Snapshot
  | .applySnapshotSettings _ => Bool
  | .snapshotMatchesCurrent _ => Bool
  | .setDisplayOrigin _ _ => Bool
  | .computeApplyTopologyPlan _ _ => Option ApplyTopologyPlan
  | .isTopologySame _ _ => Bool
  | .topologyIsValid _ => Bool
  | .recoverDisplayStack => Bool
  | .prepareStagedApply _ => Bool
  | .resetStagedApplyState => Bool
  | .applyLayoutRotations _ => Bool
  | .currentLayoutMatches _ => Bool
  | .setDeviceRefreshRate _ _ _ => Bool
  | .getDisplayResolution _ => Option Resolution
  | .canRepositionDevice _ => Bool
  | .disableVirtualDisplay => Bool
  | .enableVirtualDisplay => Bool
  | .mutationBoundary => Bool
  | .loadWithMetadata _ => Option ParsedSnapshot
  | .save _ _ _ => Bool
  | .remove _ => Bool
  | .exists_ _ => Bool
  | .exclusions => List String
  | .noteIssue _ => Unit
  | .clearStatus _ => Unit
  | .registerUnresolved _ => Unit

abbrev Operation (α : Type) := Program Call Reply α

/-- `Program.perform` at the calls of the display operations. -/
abbrev perform (request : Call) : Operation (Reply request) := Program.perform request

abbrev Trace := History Call Reply

/-! ## Calls that change the display -/

def Call.changesDisplay : Call → Bool
  | .recoverDisplayStack | .applyTopology _ | .apply _ | .applySnapshotSettings _
  | .setDisplayOrigin _ _ | .setDeviceRefreshRate _ _ _ | .applyLayoutRotations _
  | .disableVirtualDisplay | .enableVirtualDisplay => true
  | _ => false

/-! ## A desk that agrees to everything -/

/-- A display that is always as its snapshot says, with a clock that only sleeps advance. -/
structure Desk where
  clock : Time := 0
  snapshot : Snapshot := {}
  devices : List EnumeratedDevice := []
  tiers : SnapshotTier → Option ParsedSnapshot := fun _ => none
  /-- The validations of a topology that fail before the first one that succeeds. -/
  refusals : Nat := 0

def Desk.answer (desk : Desk) : (request : Call) → Reply request × Desk
  | .isCancelled => (false, desk)
  | .now => (desk.clock, desk)
  | .sleepFor duration => ((), { desk with clock := desk.clock + milliseconds duration })
  | .apply _ | .applyTopology _ => (.ok, desk)
  | .enumerate => (desk.devices, desk)
  | .captureTopology => (desk.snapshot.topology, desk)
  | .validateTopology _ => (desk.refusals = 0, { desk with refusals := desk.refusals - 1 })
  | .captureSnapshot => (desk.snapshot, desk)
  | .computeApplyTopologyPlan _ _ => (some ⟨desk.snapshot.topology, {}⟩, desk)
  | .getDisplayResolution _ => (none, desk)
  | .loadWithMetadata tier => (desk.tiers tier, desk)
  | .save tier snapshot layoutRotations =>
      (true, { desk with
        tiers := fun other =>
          if other = tier then
            some { snapshot, snapshotVersion := 2, hasLayoutData := true, layoutRotations }
          else desk.tiers other })
  | .remove tier =>
      (true, { desk with tiers := fun other => if other = tier then none else desk.tiers other })
  | .exists_ tier => ((desk.tiers tier).isSome, desk)
  | .exclusions => ([], desk)
  | .noteIssue _ | .clearStatus _ | .registerUnresolved _ => ((), desk)
  | .isTopologySame left right => (left = right, desk)
  | .snapshotMatchesCurrent snapshot => (snapshot = desk.snapshot, desk)
  | .validateTopologyForApply _ | .applySnapshotSettings _ | .setDisplayOrigin _ _
  | .topologyIsValid _ | .recoverDisplayStack | .prepareStagedApply _ | .resetStagedApplyState
  | .applyLayoutRotations _ | .currentLayoutMatches _ | .setDeviceRefreshRate _ _ _
  | .canRepositionDevice _ | .disableVirtualDisplay | .enableVirtualDisplay
  | .mutationBoundary => (true, desk)

end UmbraHost.DisplayOperations
