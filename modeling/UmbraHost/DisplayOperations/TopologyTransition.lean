import UmbraHost.DisplayOperations.Calls

/-! # Topology transitions

`TopologyTransition` of `operations.cpp`: validation, activation in up to two
attempts with a recovery of the display stack between them, and the wait until
Windows lists the devices of the target. -/

namespace UmbraHost.DisplayOperations

open UmbraHost.DisplayHelper UmbraHost.Interaction

inductive TopologyValidationMode where
  | strictApply
  | structuralRestore
deriving DecidableEq, Repr

structure TopologyTransitionOutcome where
  status : ApplyStatus := .fatal
  appliedTopology : Option ActiveTopology := none
  displayMayHaveChanged : Bool := false
  durableRecoveryArmed : Bool := false
deriving DecidableEq, Repr

def maxTopologyAttempts : Nat := 2

def activationTimeout : Time := milliseconds 5000

def activationPollInterval : Nat := 100

def recoverySettleDelay : Nat := 500

/-- The parts, each of at most `step`, in which a wait goes to sleep. -/
def slices (duration step : Nat) : List Nat :=
  List.replicate (duration / step) step ++
    if duration % step = 0 then [] else [duration % step]

def isCancelled : Operation Bool := perform .isCancelled

def waitSlices : List Nat → Operation Bool
  | [] => do
      let cancelled ← isCancelled
      pure !cancelled
  | slice :: rest => do
      let cancelled ← isCancelled
      if cancelled then pure false
      else do
        let _ ← perform (.sleepFor slice)
        waitSlices rest

/-- `TopologyTransition::wait_with_cancel`. -/
def waitWithCancel (duration : Nat) : Operation Bool :=
  waitSlices (slices duration activationPollInterval)

/-- The target's group in a topology; without a target, all of it. -/
def requiredDeviceIds (target : TopologyActivationTarget) (current : ActiveTopology) :
    Option (List String) :=
  if target.kind ≠ .none ∧ target.acceptableDeviceIds ≠ [] then
    current.find? fun group => group.any fun activeId =>
      target.acceptableDeviceIds.any fun candidate => iequals activeId candidate
  else some current.flatten

def enumerated (devices : List EnumeratedDevice) (activeId : String) : Bool :=
  activeId ≠ "" && devices.any fun device =>
    device.deviceId ≠ "" && iequals device.deviceId activeId && device.hasInfo

def topologyReady (requested : ActiveTopology) (target : TopologyActivationTarget)
    (allowOsAdjustment : Bool) : Operation (Option ActiveTopology) := do
  let current ← perform .captureTopology
  let valid ← perform (.topologyIsValid current)
  if !valid then pure none
  else do
    let exactMatch ← perform (.isTopologySame requested current)
    if !exactMatch && !allowOsAdjustment then pure none
    else match requiredDeviceIds target current with
      | none => pure none
      | some required =>
          if required = [] then pure none
          else do
            let devices ← perform .enumerate
            if required.all (enumerated devices) then pure (some current) else pure none

/-- One round of `wait_until_ready`. -/
def pollReady (requested : ActiveTopology) (target : TopologyActivationTarget)
    (allowOsAdjustment : Bool) (deadline : Time) (_ : Unit) :
    Operation (Unit ⊕ Option ActiveTopology) := do
  let cancelled ← isCancelled
  if cancelled then pure (.inr none)
  else do
    let ready ← topologyReady requested target allowOsAdjustment
    match ready with
    | some topology => pure (.inr (some topology))
    | none => do
        let now ← perform .now
        if deadline ≤ now then pure (.inr none)
        else do
          let remaining := ((deadline - now).tdiv 1000000).toNat
          let waited ← waitWithCancel (min remaining activationPollInterval)
          if waited then pure (.inl ()) else pure (.inr none)

def waitUntilReady (fuel : Nat) (requested : ActiveTopology) (target : TopologyActivationTarget)
    (allowOsAdjustment : Bool) : Operation (Option ActiveTopology) := do
  let now ← perform .now
  Program.loop (pollReady requested target allowOsAdjustment (now + activationTimeout)) fuel ()

def recoverAndSettle : Operation Bool := do
  let cancelled ← isCancelled
  if cancelled then pure false
  else do
    let _ ← perform .recoverDisplayStack
    waitWithCancel recoverySettleDelay

/-- The callback of a mutation boundary, with whether durable recovery is armed
already; `none` if the caller has none. -/
abbrev MutationBoundary := Option Bool

/-- `ensure_durable_recovery` of `ApplyOperation::run`. -/
def ensureDurableRecovery (armed : Bool) : Operation Bool :=
  if armed then pure true else perform .mutationBoundary

structure Activation where
  outcome : TopologyTransitionOutcome := {}
  mutationBoundaryReached : Bool := false

def armMutationBoundary (boundary : MutationBoundary) (activation : Activation) :
    Operation Activation :=
  if activation.mutationBoundaryReached then pure activation
  else match boundary with
    | none => pure { activation with mutationBoundaryReached := true }
    | some armed => do
        let durable ← ensureDurableRecovery armed
        pure { outcome := { activation.outcome with durableRecoveryArmed := durable }
               mutationBoundaryReached := true }

def Activation.ended (status : ApplyStatus) (activation : Activation) :
    TopologyTransitionOutcome :=
  { activation.outcome with status }

def Activation.changing (activation : Activation) : Activation :=
  { activation with outcome := { activation.outcome with displayMayHaveChanged := true } }

/-- The attempts that are left. -/
def activate (fuel : Nat) (topology : ActiveTopology) (target : TopologyActivationTarget)
    (boundary : MutationBoundary) : Nat → Activation → Operation TopologyTransitionOutcome
  | 0, activation => pure (activation.ended .retryable)
  | left + 1, activation => do
      let cancelled ← isCancelled
      if cancelled then pure (activation.ended .fatal)
      else do
        let armed ← armMutationBoundary boundary activation
        let cancelled ← isCancelled
        if cancelled then pure (armed.ended .fatal)
        else do
          let changing := armed.changing
          let applyStatus ← perform (.applyTopology topology)
          if applyStatus = .fatal ∨ applyStatus = .helperUnavailable ∨
              applyStatus = .invalidRequest then
            pure (changing.ended applyStatus)
          else do
            let ready ← waitUntilReady fuel topology target (applyStatus = .ok)
            match ready with
            | some applied => do
                let _ ← perform (.isTopologySame topology applied)
                pure { changing.ended .ok with appliedTopology := some applied }
            | none => do
                let cancelled ← isCancelled
                if cancelled then pure (changing.ended .fatal)
                else if left = 0 then
                  activate fuel topology target boundary left changing
                else do
                  let settled ← recoverAndSettle
                  if settled then activate fuel topology target boundary left changing
                  else do
                    let cancelled ← isCancelled
                    pure (changing.ended (if cancelled then .fatal else .retryable))

/-- Strict validation, with a recovery of the display stack if it fails: the
activation so far, or the outcome that ends the transition. -/
def validateForApply (topology : ActiveTopology) (boundary : MutationBoundary) :
    Operation (TopologyTransitionOutcome ⊕ Activation) := do
  let valid ← perform (.validateTopologyForApply topology)
  if valid then pure (.inr {})
  else do
    let armed ← armMutationBoundary boundary {}
    let cancelled ← isCancelled
    if cancelled then pure (.inl (armed.ended .fatal))
    else do
      let changing := armed.changing
      let settled ← recoverAndSettle
      if !settled then do
        let cancelled ← isCancelled
        pure (.inl (changing.ended (if cancelled then .fatal else .retryable)))
      else do
        let valid ← perform (.validateTopologyForApply topology)
        if valid then pure (.inr changing) else pure (.inl (changing.ended .retryable))

/-- `TopologyTransition::run`. -/
def runTransition (fuel : Nat) (topology : ActiveTopology) (mode : TopologyValidationMode)
    (target : TopologyActivationTarget) (boundary : MutationBoundary) :
    Operation TopologyTransitionOutcome := do
  let cancelled ← isCancelled
  if cancelled then pure { status := .fatal }
  else do
    let valid ← perform (.topologyIsValid topology)
    if !valid then pure { status := .invalidRequest }
    else do
      let ready ← topologyReady topology target false
      match ready with
      | some current => pure { status := .ok, appliedTopology := some current }
      | none =>
          if mode = .strictApply then do
            let validated ← validateForApply topology boundary
            match validated with
            | .inl outcome => pure outcome
            | .inr activation =>
                activate fuel topology target boundary maxTopologyAttempts activation
          else activate fuel topology target boundary maxTopologyAttempts {}

end UmbraHost.DisplayOperations
