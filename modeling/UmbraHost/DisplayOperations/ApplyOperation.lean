import Mathlib.Data.List.Dedup
import Mathlib.Data.List.Sort
import UmbraHost.DisplayOperations.TopologyTransition

/-! # APPLY

`ApplyOperation` of `operations.cpp` and the task that
`AsyncDispatcher::dispatch_apply` queues for it.  The task may first close and
reopen the virtual display; the operation activates the planned topology,
applies the settings and goes back to the captured baseline if that fails. -/

namespace UmbraHost.DisplayOperations

open UmbraHost.DisplayHelper UmbraHost.Interaction

/-- The entries of a `std::set`. -/
def orderedSet (ids : List String) : List String :=
  ids.dedup.insertionSort fun left right => ¬ right < left

def resolveConfigurationTarget (target : TopologyActivationTarget)
    (accepted : ActiveTopology) : Option ResolvedConfigurationTarget :=
  if target.kind = .none ∨ target.acceptableDeviceIds = [] then none
  else accepted.findSome? fun group =>
    (group.find? fun activeId => target.acceptableDeviceIds.any (iequals activeId)).map
      fun activeId =>
        { kind := target.kind
          representativeDeviceId := activeId
          duplicateDeviceIds := orderedSet (group.filter (· ≠ "")) }

def armDurableRecoveryBoundary (installed : Bool) : Operation Bool :=
  if installed then perform .mutationBoundary else pure false

/-- The plan, with the topology of the request where it names one. -/
def overridePlan (configuration : SingleDisplayConfiguration) (requested : Option ActiveTopology)
    (plan : Option ApplyTopologyPlan) : Option ApplyTopologyPlan :=
  match requested with
  | none => plan
  | some topology =>
      match plan with
      | some plan => some { plan with topology }
      | none =>
          some
            { topology
              activationTarget :=
                if configuration.deviceId = "" then { kind := .defaultPrimaryGroup }
                else { kind := .explicitDevice, acceptableDeviceIds := [configuration.deviceId] } }

def restoreBaselineAfterFailedApply (fuel : Nat) (baseline : Snapshot) : Operation Bool := do
  let cancelled ← isCancelled
  if cancelled then pure false
  else do
    let valid ← perform (.topologyIsValid baseline.topology)
    if !valid then pure false
    else do
      let restore ← runTransition fuel baseline.topology .structuralRestore {} none
      if restore.status ≠ .ok then pure false
      else do
        let cancelled ← isCancelled
        if cancelled then pure false
        else do
          let cancelled ← isCancelled
          if cancelled then pure false
          else do
            let applied ← perform (.applySnapshotSettings baseline)
            if !applied then pure false
            else do
              let cancelled ← isCancelled
              if cancelled then pure false
              else perform (.snapshotMatchesCurrent baseline)

/-! ## Monitor positions and refresh rates -/

def minDisplayOrigin : Int := -32768

def maxDisplayOrigin : Int := 32767

def repositionRetryInterval : Nat := 200

def maxRepositionAttempts : Nat := 15

/-- The whole monitor has to fit into the virtual screen. -/
def maxOrigin (size : Nat) : Int :=
  max minDisplayOrigin (maxDisplayOrigin - (size : Int).bmod (2 ^ 32) + 1)

def clampOrigin (resolution : Option Resolution) (origin : Point) : Point :=
  let maxX := (resolution.map fun size => maxOrigin size.width).getD maxDisplayOrigin
  let maxY := (resolution.map fun size => maxOrigin size.height).getD maxDisplayOrigin
  { x := min (max origin.x minDisplayOrigin) maxX, y := min (max origin.y minDisplayOrigin) maxY }

/-- One attempt at all pending positions: those that stay pending, or `none`
once cancelled. -/
def repositionAll (stillPending : List (String × Point)) :
    List (String × Point) → Operation (Option (List (String × Point)))
  | [] => pure (some stillPending)
  | (deviceId, origin) :: rest => do
      let cancelled ← isCancelled
      if cancelled then pure none
      else if deviceId = "" then repositionAll stillPending rest
      else do
        let ready ← perform (.canRepositionDevice deviceId)
        if !ready then repositionAll (stillPending ++ [(deviceId, origin)]) rest
        else do
          let resolution ← perform (.getDisplayResolution deviceId)
          let moved ← perform (.setDisplayOrigin deviceId (clampOrigin resolution origin))
          repositionAll (if moved then stillPending else stillPending ++ [(deviceId, origin)]) rest

/-- The attempts that are left. -/
def repositionUntilDone : Nat → List (String × Point) → Operation Unit
  | 0, _ => pure ()
  | left + 1, positions =>
      if positions = [] then pure ()
      else do
        let cancelled ← isCancelled
        if cancelled then pure ()
        else do
          let attempted ← repositionAll [] positions
          match attempted with
          | none => pure ()
          | some stillPending =>
              if stillPending = [] ∨ left = 0 then pure ()
              else do
                let _ ← perform (.sleepFor repositionRetryInterval)
                repositionUntilDone left stillPending

def applyMonitorPositions (request : ApplyRequest) : Operation Unit :=
  repositionUntilDone maxRepositionAttempts request.monitorPositions

def overrideRefreshRates (configured : Option String) :
    List (String × Nat × Nat) → Operation Unit
  | [] => pure ()
  | (deviceId, numerator, denominator) :: rest => do
      let cancelled ← isCancelled
      if cancelled then pure ()
      else if deviceId = "" ∨ numerator = 0 ∨ denominator = 0 then
        overrideRefreshRates configured rest
      else if configured = some deviceId then overrideRefreshRates configured rest
      else do
        let _ ← perform (.setDeviceRefreshRate deviceId numerator denominator)
        overrideRefreshRates configured rest

def applyRefreshRateOverrides (request : ApplyRequest) : Operation Unit :=
  overrideRefreshRates (request.configuration.map (·.deviceId)) request.refreshRateOverrides

/-! ## The operation -/

/-- `ApplyOperation::run` from the call of the settings manager on.  The rollback
point is there if the baseline can be restored. -/
def applySettings (fuel : Nat) (request : ApplyRequest) (configuration : SingleDisplayConfiguration)
    (baseline : Snapshot) (haveRollbackBaseline : Bool) (outcome : ApplyOutcome) :
    Operation ApplyOutcome := do
  let status ← perform (.apply configuration)
  let changed : ApplyOutcome := { outcome with displayMayHaveChanged := true }
  let cancelled ← isCancelled
  if cancelled then pure { changed with status := .fatal }
  else if status = .ok then do
    applyMonitorPositions request
    applyRefreshRateOverrides request
    let cancelled ← isCancelled
    pure { changed with status := if cancelled then .fatal else status }
  else do
    let restored ←
      if haveRollbackBaseline then restoreBaselineAfterFailedApply fuel baseline else pure false
    let cancelled ← isCancelled
    pure { changed with
           status := if cancelled then .fatal else status
           displayMayHaveChanged := !restored }

/-- `ApplyOperation::run` once the topology transition succeeded. -/
def continueApply (fuel : Nat) (request : ApplyRequest) (configuration : SingleDisplayConfiguration)
    (baseline : Snapshot) (haveRollbackBaseline : Bool) (boundary : MutationBoundary)
    (outcome : ApplyOutcome) : Operation ApplyOutcome := do
  let cancelled ← isCancelled
  if cancelled then pure { outcome with status := .fatal }
  else do
    let armed ←
      if outcome.displayMayHaveChanged then pure outcome.durableRecoveryArmed
      else match boundary with
        | none => pure outcome.durableRecoveryArmed
        | some armed => ensureDurableRecovery armed
    let cancelled ← isCancelled
    let outcome := { outcome with durableRecoveryArmed := armed }
    if cancelled then pure { outcome with status := .fatal }
    else applySettings fuel request configuration baseline haveRollbackBaseline outcome

/-- `ApplyOperation::run` from the topology transition on. -/
def activateAndApply (fuel : Nat) (request : ApplyRequest)
    (configuration : SingleDisplayConfiguration) (baseline : Snapshot)
    (haveRollbackBaseline installed armed : Bool) (plan : ApplyTopologyPlan)
    (outcome : ApplyOutcome) : Operation ApplyOutcome := do
  let boundary (armed : Bool) : MutationBoundary := if installed then some armed else none
  let topologyOutcome ←
    runTransition fuel plan.topology .strictApply plan.activationTarget (boundary armed)
  let armed := armed || topologyOutcome.durableRecoveryArmed
  let outcome :=
    { outcome with
      status := topologyOutcome.status
      displayMayHaveChanged := topologyOutcome.displayMayHaveChanged
      durableRecoveryArmed := armed }
  if outcome.status ≠ .ok then pure outcome
  else match topologyOutcome.appliedTopology with
    | none => pure { outcome with status := .verificationFailed }
    | some applied =>
        let resolvedTarget := resolveConfigurationTarget plan.activationTarget applied
        let outcome := { outcome with resolvedTarget }
        if plan.activationTarget.kind ≠ .none ∧ plan.activationTarget.acceptableDeviceIds ≠ [] ∧
            resolvedTarget = none then
          pure { outcome with status := .verificationFailed }
        else
          continueApply fuel request configuration baseline haveRollbackBaseline (boundary armed)
            outcome

/-- `ApplyOperation::run`. -/
def applyOperation (fuel : Nat) (request : ApplyRequest) (installed armed : Bool) :
    Operation ApplyOutcome := do
  let started : ApplyOutcome := { virtualDisplayRequested := request.virtualLayout.isSome }
  let cancelled ← isCancelled
  if cancelled then pure { started with status := .fatal }
  else match request.configuration with
    | none => pure { started with status := .invalidRequest }
    | some configuration => do
        let baseline ← perform .captureSnapshot
        let baselineValid ← perform (.topologyIsValid baseline.topology)
        let haveRollbackBaseline := baselineValid && baseline.modes ≠ []
        let current ← perform .captureTopology
        let currentValid ← perform (.topologyIsValid current)
        if !currentValid then pure { started with status := .retryable }
        else do
          let prepared ← perform (.prepareStagedApply current)
          if !prepared then pure { started with status := .retryable }
          else do
            let staged : ApplyOutcome := { started with stagedStatePrepared := true }
            let computed ← perform (.computeApplyTopologyPlan configuration current)
            match overridePlan configuration request.topology computed with
            | none => pure { staged with status := .invalidRequest }
            | some plan => do
                let planValid ← perform (.topologyIsValid plan.topology)
                if !planValid then pure { staged with status := .invalidRequest }
                else
                  activateAndApply fuel request configuration baseline haveRollbackBaseline
                    installed armed plan staged

/-! ## The task of the worker -/

def cancellationSlice : Nat := 100

/-- The delay of the task; the token is not looked at after the last slice. -/
def delaySlices : List Nat → Operation Bool
  | [] => pure true
  | slice :: rest => do
      let cancelled ← isCancelled
      if cancelled then pure false
      else do
        let _ ← perform (.sleepFor slice)
        delaySlices rest

def sleepWithCancel (duration : Nat) : Operation Bool :=
  waitSlices (slices duration cancellationSlice)

/-- Closing and reopening the virtual display: the outcome that ends the task,
or the one to go on with. -/
def resetVirtualDisplay (installed : Bool) (started : ApplyOutcome) :
    Operation (ApplyOutcome ⊕ ApplyOutcome) := do
  let cancelled ← isCancelled
  if cancelled then pure (.inl { started with status := .fatal })
  else do
    let durable ← armDurableRecoveryBoundary installed
    let armed : ApplyOutcome := { started with durableRecoveryArmed := durable }
    let cancelled ← isCancelled
    if cancelled then pure (.inl { armed with status := .fatal })
    else do
      let changed : ApplyOutcome := { armed with displayMayHaveChanged := true }
      let disabled ← perform .disableVirtualDisplay
      if !disabled then pure (.inl { changed with status := .fatal })
      else do
        let slept ← sleepWithCancel 500
        if !slept then do
          let _ ← perform .enableVirtualDisplay
          pure (.inl { changed with status := .fatal })
        else do
          let cancelled ← isCancelled
          if cancelled then do
            let _ ← perform .enableVirtualDisplay
            pure (.inl { changed with status := .fatal })
          else do
            let enabled ← perform .enableVirtualDisplay
            if !enabled then pure (.inl { changed with status := .fatal })
            else do
              let slept ← sleepWithCancel 1000
              if slept then pure (.inr changed) else pure (.inl { changed with status := .fatal })

/-- The task of `AsyncDispatcher::dispatch_apply`. -/
def applyTask (fuel : Nat) (request : ApplyRequest) (delay : Nat) (reset installed : Bool) :
    Operation ApplyOutcome := do
  let waited ← delaySlices (slices delay cancellationSlice)
  if !waited then pure { status := .fatal }
  else do
    let started : ApplyOutcome := { virtualDisplayRequested := request.virtualLayout.isSome }
    let resetOutcome ← if reset then resetVirtualDisplay installed started else pure (.inr started)
    match resetOutcome with
    | .inl ended => pure ended
    | .inr virtualReset => do
        let outcome ← applyOperation fuel request installed virtualReset.durableRecoveryArmed
        pure { outcome with
               virtualDisplayRequested :=
                 outcome.virtualDisplayRequested || virtualReset.virtualDisplayRequested
               displayMayHaveChanged :=
                 outcome.displayMayHaveChanged || virtualReset.displayMayHaveChanged
               durableRecoveryArmed :=
                 outcome.durableRecoveryArmed || virtualReset.durableRecoveryArmed }

end UmbraHost.DisplayOperations
