import UmbraHost.DisplayOperations.SnapshotFilter
import UmbraHost.DisplayOperations.TopologyTransition

/-! # Restore

`RecoveryOperation` of `operations.cpp`: a stored snapshot is applied and
confirmed by stable captures over a quiet period; the tiers are tried in the
order of the strategy. -/

namespace UmbraHost.DisplayOperations

open UmbraHost.DisplayHelper UmbraHost.Interaction

def loadFiltered (tier : SnapshotTier) : Operation (Option ParsedSnapshot) := do
  let loaded ← perform (.loadWithMetadata tier)
  match loaded with
  | none => pure none
  | some parsed => do
      let devices ← perform .enumerate
      let exclusions ← perform .exclusions
      pure (filterLoadedSnapshot parsed devices exclusions)

/-! ## Confirmation -/

def stableDeadline : Time := milliseconds 2000

def stableInterval : Nat := 150

def quietDuration : Time := milliseconds 750

def quietInterval : Nat := 150

/-- A capture without topology and modes is transient. -/
def Snapshot.emptyish (snapshot : Snapshot) : Bool :=
  snapshot.topology = [] && snapshot.modes = []

/-- One round of `read_stable_snapshot`, after the last capture. -/
def pollStable (start : Time) (last : Option Snapshot) :
    Operation (Option Snapshot ⊕ Option Snapshot) := do
  let now ← perform .now
  if stableDeadline ≤ now - start then pure (.inr none)
  else do
    let cancelled ← isCancelled
    if cancelled then pure (.inr none)
    else do
      let current ← perform .captureSnapshot
      if last = some current ∧ Snapshot.emptyish current = false then pure (.inr (some current))
      else do
        let cancelled ← isCancelled
        if cancelled then pure (.inr none)
        else do
          let _ ← perform (.sleepFor stableInterval)
          pure (.inl (some current))

def readStableSnapshot (fuel : Nat) : Operation (Option Snapshot) := do
  let start ← perform .now
  Program.loop (pollStable start) fuel none

/-- One round of `quiet_period`. -/
def pollQuiet (fuel : Nat) (base : Snapshot) (start : Time) (_ : Unit) :
    Operation (Unit ⊕ Bool) := do
  let now ← perform .now
  if quietDuration ≤ now - start then pure (.inr true)
  else do
    let cancelled ← isCancelled
    if cancelled then pure (.inr false)
    else do
      let current ← readStableSnapshot fuel
      if current ≠ some base then pure (.inr false)
      else do
        let cancelled ← isCancelled
        if cancelled then pure (.inr false)
        else do
          let _ ← perform (.sleepFor quietInterval)
          pure (.inl ())

def quietPeriod (fuel : Nat) : Operation Bool := do
  let base ← readStableSnapshot fuel
  match base with
  | none => pure false
  | some base => do
      let start ← perform .now
      Program.loop (pollQuiet fuel base start) fuel ()

/-- `confirm_matches`, and `verify_once` of `apply_and_confirm`. -/
def confirmMatches (fuel : Nat) (loaded : ParsedSnapshot) : Operation Bool := do
  let stable ← readStableSnapshot fuel
  let cancelled ← isCancelled
  if cancelled then pure false
  else do
    let layoutOk ←
      if loaded.hasLayoutData then perform (.currentLayoutMatches loaded.layoutRotations)
      else pure true
    match stable with
    | none => pure false
    | some current =>
        if equalSnapshotsStrict current loaded.snapshot && layoutOk then quietPeriod fuel
        else pure false

/-! ## Application -/

def applyOnce (fuel : Nat) (loaded : ParsedSnapshot) : Operation Bool := do
  let transition ← runTransition fuel loaded.snapshot.topology .structuralRestore {} none
  if transition.status ≠ .ok then pure false
  else do
    let cancelled ← isCancelled
    if cancelled then pure false
    else do
      let applied ← perform (.applySnapshotSettings loaded.snapshot)
      if !applied then pure false
      else do
        let cancelled ← isCancelled
        if cancelled then pure false
        else if loaded.hasLayoutData && loaded.layoutRotations ≠ [] then do
          let cancelled ← isCancelled
          if cancelled then pure false
          else perform (.applyLayoutRotations loaded.layoutRotations)
        else pure true

def applyAndVerify (fuel : Nat) (loaded : ParsedSnapshot) : Operation Bool := do
  let applied ← applyOnce fuel loaded
  if applied then confirmMatches fuel loaded else pure false

def recoveryStep : Nat := 50

def retryDelay : Nat := 700

/-- `RecoveryOperation::wait_with_cancel`. -/
def waitForRetry : Operation Bool := waitSlices (slices retryDelay recoveryStep)

/-- `apply_and_confirm` after the first attempt. -/
def retryAndConfirm (fuel : Nat) (loaded : ParsedSnapshot) : Operation Bool := do
  let cancelled ← isCancelled
  if cancelled then pure false
  else do
    let waited ← waitForRetry
    if !waited then pure false
    else do
      let confirmed ← confirmMatches fuel loaded
      if confirmed then pure true else applyAndVerify fuel loaded

def applyAndConfirm (fuel : Nat) (loaded : ParsedSnapshot) : Operation Bool := do
  let _ ← perform .captureSnapshot
  let cancelled ← isCancelled
  if cancelled then pure false
  else do
    let confirmed ← confirmMatches fuel loaded
    if confirmed then pure true
    else do
      let cancelled ← isCancelled
      if cancelled then pure false
      else do
        let verified ← applyAndVerify fuel loaded
        if verified then pure true else retryAndConfirm fuel loaded

/-! ## Tiers -/

def knownPresentDevices : Operation (List String) := do
  let snapshot ← perform .captureSnapshot
  let devices ← perform .enumerate
  let active := snapshot.modes.map fun entry => normalizeDeviceId entry.1
  let enumerated := (devices.map EnumeratedDevice.id).filter (· ≠ "")
  let known := active ++ enumerated.map normalizeDeviceId
  pure (if known = [] then snapshot.topology.flatten.map normalizeDeviceId else known)

def recentRestoreGuard : Int := 60000

def steadyMs (now : Time) : Int := now.tdiv 1000000

def shouldSkipGolden (lastSessionRestoreSuccessMs : Int) (golden : Snapshot) : Operation Bool := do
  let now ← perform .now
  if lastSessionRestoreSuccessMs ≠ 0 ∧
      steadyMs now - lastSessionRestoreSuccessMs < recentRestoreGuard then
    pure true
  else if golden.topology.flatten = [] then pure true
  else do
    let present ← knownPresentDevices
    pure (!golden.topology.flatten.all fun id => present.contains (normalizeDeviceId id))

structure Progress where
  outcome : RecoveryOutcome := {}
  restored : Option Snapshot := none
  triedGoldenBeforePrevious : Bool := false
  restoreState : RestoreState := {}

def Progress.confirmed (stagedReset : Bool) (snapshot : Snapshot) (progress : Progress) :
    Progress :=
  { progress with
    outcome :=
      { progress.outcome with
        stagedStateResetAttempted := true, stagedStateResetSucceeded := stagedReset }
    restored := some snapshot }

def clearSessionSnapshotsAfterGolden : Operation Unit := do
  let _ ← perform (.remove .current)
  let _ ← perform (.remove .previous)
  pure ()

def tryGolden (fuel : Nat) (progress : Progress) : Operation (Bool × Progress) := do
  let cancelled ← isCancelled
  if cancelled then pure (false, progress)
  else do
    let golden ← loadFiltered .golden
    match golden with
    | none => pure (false, progress)
    | some golden => do
        let skipped ←
          shouldSkipGolden progress.restoreState.lastSessionRestoreSuccessMs golden.snapshot
        if skipped then pure (false, progress)
        else do
          let valid ← perform (.validateTopology golden.snapshot.topology)
          if !valid then do
            let _ ← perform (.noteIssue "invalid_topology")
            pure (false, progress)
          else do
            let confirmed ← applyAndConfirm fuel golden
            let cancelled ← isCancelled
            if confirmed then
              if cancelled then pure (false, progress)
              else do
                let stagedReset ← perform .resetStagedApplyState
                clearSessionSnapshotsAfterGolden
                let _ ← perform (.clearStatus "restore confirmed")
                pure (true, progress.confirmed stagedReset golden.snapshot)
            else if cancelled then pure (false, progress)
            else do
              let _ ← perform (.noteIssue "restore_not_confirmed")
              pure (false, progress)

structure SessionAttempt where
  restored : Bool := false
  attempted : Bool := false

def trySession (fuel : Nat) (tier : SnapshotTier) (progress : Progress) :
    Operation (SessionAttempt × Progress) := do
  let loaded ← loadFiltered tier
  match loaded with
  | none => pure ({}, progress)
  | some loaded => do
      let valid ← perform (.topologyIsValid loaded.snapshot.topology)
      if !valid then pure ({ attempted := true }, progress)
      else do
        let confirmed ← applyAndConfirm fuel loaded
        if !confirmed then pure ({ attempted := true }, progress)
        else do
          let cancelled ← isCancelled
          if cancelled then pure ({ attempted := true }, progress)
          else do
            let stagedReset ← perform .resetStagedApplyState
            let now ← perform .now
            let restoreState :=
              { progress.restoreState with lastSessionRestoreSuccessMs := steadyMs now }
            pure ({ restored := true, attempted := true },
              { progress.confirmed stagedReset loaded.snapshot with restoreState })

/-- `ISnapshotStorage::promote_current_to_previous`. -/
def promoteCurrentToPrevious : Operation Bool := do
  let current ← perform (.loadWithMetadata .current)
  match current with
  | none => pure false
  | some current => do
      let saved ← perform (.save .previous current.snapshot current.layoutRotations)
      if !saved then pure false
      else do
        let _ ← perform (.remove .current)
        pure true

/-- The golden snapshot, if it is preferred over the previous one. -/
def tryGoldenBeforePrevious (fuel : Nat) (attemptedCurrent : Bool) (progress : Progress) :
    Operation (Bool × Progress) :=
  if progress.restoreState.preferGoldenIfCurrentMissing && !attemptedCurrent then do
    let havePrevious ← perform (.exists_ .previous)
    if !havePrevious then pure (false, progress)
    else do
      let haveGolden ← perform (.exists_ .golden)
      if !haveGolden then pure (false, progress)
      else tryGolden fuel { progress with triedGoldenBeforePrevious := true }
  else pure (false, progress)

def trySessionSnapshots (fuel : Nat) (progress : Progress) : Operation (Bool × Progress) := do
  let current ← trySession fuel .current progress
  if current.1.restored then do
    let _ ← promoteCurrentToPrevious
    pure (true, current.2)
  else do
    let golden ← tryGoldenBeforePrevious fuel current.1.attempted current.2
    if golden.1 then pure golden
    else do
      let previous ← trySession fuel .previous golden.2
      if previous.1.restored then
        if current.1.attempted then do
          let _ ← perform (.remove .current)
          pure (true, previous.2)
        else pure (true, previous.2)
      else pure (false, previous.2)

/-! ## Strategies -/

def goldenFallbackCompletionThreshold : Nat := 3

def Progress.setFallbacks (count : Nat) (progress : Progress) : Progress :=
  { progress with
    restoreState := { progress.restoreState with goldenPendingSessionFallbacks := count } }

/-- The outcome of a run that accepts what was restored. -/
def Progress.accept (progress : Progress) : Progress :=
  { progress.setFallbacks 0 with
    outcome := { progress.outcome with success := true, snapshot := progress.restored } }

/-- The golden-first strategy after a session fallback. -/
def acceptFallback (progress : Progress) : Operation Progress := do
  let pending ← loadFiltered .golden
  match pending with
  | some _ =>
      let fallbackCount := progress.restoreState.goldenPendingSessionFallbacks + 1
      if fallbackCount % 2 ^ 64 < goldenFallbackCompletionThreshold then
        pure (progress.setFallbacks (fallbackCount % 2 ^ 64))
      else pure progress.accept
  | none => do
      let _ ← perform (.registerUnresolved "session fallback accepted")
      pure progress.accept

def restoreGoldenFirst (fuel : Nat) (progress : Progress) : Operation Progress := do
  let golden ← tryGolden fuel progress
  if golden.1 then pure golden.2.accept
  else do
    let session ← trySessionSnapshots fuel golden.2
    if session.1 then acceptFallback session.2 else pure (session.2.setFallbacks 0)

def restoreSessionFirst (fuel : Nat) (progress : Progress) : Operation Progress := do
  let session ← trySessionSnapshots fuel progress
  if session.1 then
    if session.2.triedGoldenBeforePrevious then do
      let _ ← perform (.registerUnresolved "session fallback accepted")
      pure session.2.accept
    else pure session.2.accept
  else if session.2.triedGoldenBeforePrevious then pure (session.2.setFallbacks 0)
  else do
    let golden ← tryGolden fuel session.2
    if golden.1 then pure golden.2.accept
    else
      pure
        { golden.2.setFallbacks 0 with
          outcome := { golden.2.outcome with success := false, snapshot := golden.2.restored } }

/-- `RecoveryOperation::run`. -/
def recovery (fuel : Nat) (restoreState : RestoreState) : Operation Progress := do
  let cancelled ← isCancelled
  if cancelled then pure { restoreState }
  else
    let progress : Progress :=
      { outcome := { displayMayHaveChanged := true }
        restoreState := { restoreState with restoreAttemptedUnconfirmed := true } }
    if restoreState.alwaysRestoreFromGolden then restoreGoldenFirst fuel progress
    else restoreSessionFirst fuel (progress.setFallbacks 0)

end UmbraHost.DisplayOperations
