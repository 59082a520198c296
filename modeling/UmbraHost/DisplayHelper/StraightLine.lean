import UmbraHost.DisplayHelper.Run

/-! # Straight-line forms

The operations that only update fields unfold under `simp`.  Those that branch
on the way get an equation that moves the branch into the field it decides, so
that every other field of the result can be read off. -/

namespace UmbraHost.DisplayHelper

namespace World

attribute [simp] emit emitAll dispatch advance cancelOperations disarmScheduler
  resetRequestProgress setExclusions updateBlacklist transition setActiveMutationWorker
  startRecovery resetTransientDisconnectSettlement deleteRestoreTask clearRecoveryState
  applyRecoveryPolicyFromCurrentRequest activateRecoveryLease resetPostApplyStabilization
  rewindPostApplyStabilization dispatchVerification dispatchApplyWorker
  dispatchTransientDisconnectRepair dispatchImmediateRepairAfterStabilizationFailure
  enqueueDeferredMutationCommand retainRecoveryAfterCancelledRecovery
  retargetVirtualDisplayDeviceIdIfNeeded confirmSession enterEventLoop rejectRefreshRate
  popDeferred removeTask landTransientDisconnectRepair adoptPolicy

attribute [simp] mutationWorkerActive ownsActiveWorker isStale restorePending
  recoveryWorkerInProgress applyInFlight fenceDown hasDeferredIntent

@[simp] theorem queueAfterActiveMutation_true (command : DeferredMutationCommand) (world : World) :
    world.queueAfterActiveMutation command true =
      world.cancelOperations.enqueueDeferredMutationCommand command := rfl

@[simp] theorem queueAfterActiveMutation_false (command : DeferredMutationCommand)
    (world : World) :
    world.queueAfterActiveMutation command false =
      world.enqueueDeferredMutationCommand command := rfl

@[simp] theorem isReset_apply (command : ApplyCommand) :
    (DeferredMutationCommand.apply command).isReset = false := rfl

@[simp] theorem isReset_revert (command : RevertCommand) :
    (DeferredMutationCommand.revert command).isReset = false := rfl

@[simp] theorem isReset_disarm (command : DisarmCommand) :
    (DeferredMutationCommand.disarm command).isReset = false := rfl

@[simp] theorem isReset_reset (command : ResetCommand) :
    (DeferredMutationCommand.reset command).isReset = true := rfl

/-- The world after some effects and nothing else. -/
theorem emitAll_nil (world : World) : world.emitAll [] = world := by
  cases world
  simp

def applyReply (status : ApplyStatus) (world : World) : List Effect :=
  if world.session.applyResultSent then []
  else [.applyResult status world.session.currentConnectionEpoch
    world.session.currentRequest.requestId]

@[simp] theorem sendApplyResult_eq (status : ApplyStatus) (world : World) :
    world.sendApplyResult status =
      { world with
        session := { world.session with applyResultSent := true }
        ports := { world.ports with effects := world.ports.effects ++ world.applyReply status } } := by
  obtain ⟨_, _, _, session, _⟩ := world
  cases session
  simp only [sendApplyResult, applyReply]
  split <;> simp_all

def verificationReply (success : Bool) (world : World) : List Effect :=
  if world.session.verificationResultSent then []
  else [.verificationResult success world.session.currentConnectionEpoch
    world.session.currentRequest.requestId]

@[simp] theorem sendVerificationResult_eq (success : Bool) (world : World) :
    world.sendVerificationResult success =
      { world with
        session := { world.session with verificationResultSent := true }
        ports := { world.ports with
          effects := world.ports.effects ++ world.verificationReply success } } := by
  obtain ⟨_, _, _, session, _⟩ := world
  cases session
  simp only [sendVerificationResult, verificationReply]
  split <;> simp_all

/-- Where a settled session rests. -/
def steadyState (world : World) : State :=
  if world.session.currentRequest.virtualLayout.isSome then .virtualDisplayMonitoring else .waiting

@[simp] theorem enterSteadyState_eq (world : World) :
    world.enterSteadyState = world.transition world.steadyState := by
  simp only [enterSteadyState, steadyState]
  split <;> rfl

theorem steadyState_cases (world : World) :
    world.steadyState = .waiting ∨ world.steadyState = .virtualDisplayMonitoring := by
  simp only [steadyState]
  split
  · exact .inr rfl
  · exact .inl rfl

@[simp] theorem createRestoreTask_eq (reading : Reading) (world : World) :
    world.createRestoreTask reading =
      { world with
        lease := { world.lease with restoreTaskCreated :=
          world.lease.restoreTaskCreated || reading.createRestoreTask }
        ports := { world.ports with effects := world.ports.effects ++
          if world.lease.restoreTaskCreated then []
          else [.createRestoreTask reading.createRestoreTask] } } := by
  obtain ⟨_, lease, _, _, _⟩ := world
  cases lease
  simp only [createRestoreTask]
  split <;> simp_all

@[simp] theorem captureMissingBaseline_eq (reading : Reading) (world : World) :
    world.captureMissingBaseline reading =
      world.emitAll (if reading.tierExists .current then []
        else (captureFilteredAndSave reading .current world.ports.snapshotBlacklist
          maxCaptureAttempts 0).1) := by
  simp only [captureMissingBaseline]
  split
  · exact (emitAll_nil world).symm
  · rfl

@[simp] theorem adoptExclusions_eq (snapshotExclusions : Option (List String)) (world : World) :
    world.adoptExclusions snapshotExclusions =
      { world with ports := { world.ports with
          snapshotBlacklist := (snapshotExclusions.map fun devices =>
            (devices.filter fun id => !id.isEmpty).dedup).getD world.ports.snapshotBlacklist
          restoreState := { world.ports.restoreState with
            exclusions := (snapshotExclusions.map fun devices =>
              (devices.filter fun id => !id.isEmpty).dedup).getD
                world.ports.restoreState.exclusions } } } := by
  cases snapshotExclusions <;> rfl

@[simp] theorem updateExclusions_eq (payload : SnapshotCommandPayload) (world : World) :
    world.updateExclusions payload =
      world.adoptExclusions (if payload.updateExclusions || !payload.excludeDevices.isEmpty then
        some payload.excludeDevices else none) := by
  simp only [updateExclusions, adoptExclusions]
  split <;> rfl

attribute [simp] installRequest dispatchStabilization dispatchReapply
  dispatchTransientDisconnectCheck queueRestart dispatchDisplayEventCheck
  restartWhileMonitoring restartDuringVerification

@[simp] theorem noteRevert_eq (command : RevertCommand) (world : World) :
    world.noteRevert command =
      { world with
        lease := { world.lease with explicitRecoveryRequired :=
          world.lease.explicitRecoveryRequired || !command.fromDisconnect }
        settling := { world.settling with
          transientDisconnectSettlementRequested :=
            world.settling.transientDisconnectSettlementRequested && command.fromDisconnect
          transientDisconnectCheckPending :=
            world.settling.transientDisconnectCheckPending && command.fromDisconnect
          transientDisconnectRepairInFlight :=
            world.settling.transientDisconnectRepairInFlight && command.fromDisconnect
          nextTransientDisconnectCheck :=
            if command.fromDisconnect then world.settling.nextTransientDisconnectCheck else 0 } } := by
  cases disconnect : command.fromDisconnect <;> simp [noteRevert, disconnect]

/-! ## Staged-state resets -/

/-- The task of a reset that is not already pending. -/
def resetTasks (world : World) : List Task :=
  if world.fence.stagedStateResetPending then []
  else [.resetStagedApplyState world.ports.generation]

@[simp] theorem beginStagedStateReset_eq (world : World) :
    world.beginStagedStateReset =
      { world with
        fence := { world.fence with stagedStateResetPending := true }
        ports := { world.ports with
          tasks := world.ports.tasks ++ world.resetTasks
          effects := world.ports.effects ++ world.resetTasks.map .dispatched } } := by
  obtain ⟨fence, _, _, _, ports⟩ := world
  cases fence
  simp only [beginStagedStateReset, resetTasks]
  split <;> simp_all

@[simp] theorem retryStagedStateReset_eq (failed : Bool) (world : World) :
    world.retryStagedStateReset failed =
      { world with
        fence := { world.fence with
          stagedStateResetPending := world.fence.stagedStateResetPending || failed }
        ports := { world.ports with
          tasks := world.ports.tasks ++ if failed then world.resetTasks else []
          effects := world.ports.effects ++
            if failed then world.resetTasks.map .dispatched else [] } } := by
  cases failed <;> simp [retryStagedStateReset]

attribute [simp] concludeRecovery

/-- Staged settings that no recovery lease covers. -/
def uncommittedStagedState (world : World) : Bool :=
  world.lease.stagedStatePrepared && !world.lease.recoveryLeaseBeforeApply &&
    !world.lease.recoveryArmed && !world.lease.unconfirmedCancelledMutation

def uncommittedResetTasks (world : World) : List Task :=
  if world.uncommittedStagedState then world.resetTasks else []

@[simp] theorem resetUncommittedStagedStateIfNeeded_eq (world : World) :
    world.resetUncommittedStagedStateIfNeeded =
      { world with
        fence := { world.fence with stagedStateResetPending :=
          world.fence.stagedStateResetPending || world.uncommittedStagedState }
        lease := { world.lease with restoreTaskCreated :=
          world.lease.restoreTaskCreated && !world.uncommittedStagedState }
        ports := { world.ports with
          tasks := world.ports.tasks ++ world.uncommittedResetTasks
          effects := world.ports.effects ++
            (if world.uncommittedStagedState && world.lease.restoreTaskCreated then
              [.deleteRestoreTask world.lease.unconfirmedCancelledMutation] else []) ++
            world.uncommittedResetTasks.map .dispatched } } := by
  have unneeded : (!world.lease.stagedStatePrepared || world.lease.recoveryLeaseBeforeApply ||
      world.lease.recoveryArmed || world.lease.unconfirmedCancelledMutation) =
      !world.uncommittedStagedState := by
    simp [uncommittedStagedState]
  simp only [resetUncommittedStagedStateIfNeeded, uncommittedResetTasks, unneeded]
  cases needed : world.uncommittedStagedState with
  | false => simp
  | true =>
      cases created : world.lease.restoreTaskCreated with
      | false =>
          simp [resetTasks]
          simp [← created]
      | true => simp [resetTasks]

@[simp] theorem reportFailedApply_eq (status : ApplyStatus) (world : World) :
    world.reportFailedApply status =
      (world.sendApplyResult status).sendVerificationResult false := by
  simp only [reportFailedApply]
  cases sent : world.session.verificationResultSent with
  | false => simp [sent]
  | true => simp [sent, verificationReply]

@[simp] theorem releaseFailedApply_eq (completed : ApplyCompleted) (world : World) :
    world.releaseFailedApply completed =
      { world with
        fence := { world.fence with stagedStateResetPending :=
          world.fence.stagedStateResetPending ||
            (!completed.displayMayHaveChanged && world.uncommittedStagedState) }
        lease := { world.lease with restoreTaskCreated :=
          world.lease.restoreTaskCreated &&
            (completed.displayMayHaveChanged || !world.uncommittedStagedState) }
        ports := { world.ports with
          tasks := world.ports.tasks ++
            if completed.displayMayHaveChanged then [] else world.uncommittedResetTasks
          effects := world.ports.effects ++
            (if world.lease.recoveryArmed then [] else [.disarmHeartbeat]) ++
            if completed.displayMayHaveChanged then []
            else
              (if world.uncommittedStagedState && world.lease.restoreTaskCreated then
                [.deleteRestoreTask world.lease.unconfirmedCancelledMutation] else []) ++
              world.uncommittedResetTasks.map .dispatched } } := by
  obtain ⟨⟨_⟩, ⟨armed⟩, _, _, ⟨_⟩⟩ := world
  cases armed <;> cases changed : completed.displayMayHaveChanged <;>
    simp [releaseFailedApply, changed, uncommittedResetTasks, uncommittedStagedState, resetTasks]

/-- Windows was or may have been changed by the worker. -/
def mutated (completed : ApplyCompleted) : Bool :=
  completed.status == .ok || completed.displayMayHaveChanged

@[simp] theorem recordApplyOutcome_eq (reading : Reading) (completed : ApplyCompleted)
    (world : World) :
    world.recordApplyOutcome reading completed =
      { world with
        session := { world.session with
          expectedTopology := completed.expectedTopology
          resolvedTarget := completed.resolvedTarget }
        lease := { world.lease with
          recoveryArmed := world.lease.recoveryArmed || mutated completed
          displayChangesPendingRecovery :=
            world.lease.displayChangesPendingRecovery || mutated completed
          restoreTaskCreated := world.lease.restoreTaskCreated ||
            completed.durableRecoveryArmed || (mutated completed && reading.createRestoreTask) }
        ports := { world.ports with
          restoreState := { world.ports.restoreState with
            alwaysRestoreFromGolden :=
              if mutated completed then world.session.currentRequest.preferGoldenFirst
              else world.ports.restoreState.alwaysRestoreFromGolden
            restoreOnDisconnect :=
              if mutated completed then world.session.currentRequest.restoreOnDisconnect
              else world.ports.restoreState.restoreOnDisconnect }
          effects := world.ports.effects ++
            if mutated completed then
              [.preferGoldenFirst world.session.currentRequest.preferGoldenFirst] ++
                if world.lease.restoreTaskCreated || completed.durableRecoveryArmed then []
                else [.createRestoreTask reading.createRestoreTask]
            else [] } } := by
  obtain ⟨_, ⟨_⟩, _, ⟨_⟩, ⟨_, ⟨_⟩⟩⟩ := world
  cases mutation : mutated completed <;> simp_all [recordApplyOutcome, mutated]

/-! ## Ladders -/

/-- An ordinary check may be in flight that a disconnect settlement replaces. -/
def replacesCheck (world : World) : Bool :=
  world.settling.postApplyCheckPending ||
    (world.session.sessionWasVerified && world.fence.state == .verification)

theorem replacePostApplyStabilization_cases (world : World) :
    world.replacesCheck = true ∧
        world.replacePostApplyStabilizationWithTransientDisconnectSettlement =
          world.cancelOperations.resetPostApplyStabilization ∨
      world.replacesCheck = false ∧
        world.replacePostApplyStabilizationWithTransientDisconnectSettlement =
          world.resetPostApplyStabilization := by
  have folded : world.replacePostApplyStabilizationWithTransientDisconnectSettlement =
      (if world.replacesCheck then world.cancelOperations
        else world).resetPostApplyStabilization := rfl
  rw [folded]
  cases world.replacesCheck with
  | true => exact .inl ⟨rfl, rfl⟩
  | false => exact .inr ⟨rfl, rfl⟩

theorem scheduleNextPostApplyStabilization_cases (world : World) :
    world.scheduleNextPostApplyStabilization = world ∨
      world.settling.postApplyCheckPending = false ∧
        ∃ delay, world.scheduleNextPostApplyStabilization = world.dispatchStabilization delay := by
  simp only [scheduleNextPostApplyStabilization]
  split
  · exact .inl rfl
  · split
    · exact .inl rfl
    next pending _ delay _ => exact .inr ⟨by simpa using pending, delay, rfl⟩

attribute [simp] noteTransientDisconnect

theorem requestTransientDisconnectSettlement_cases (world : World) :
    world.fence.activeMutationWorker.isSome = true ∧
        world.requestTransientDisconnectSettlement = world.noteTransientDisconnect ∨
      world.fence.activeMutationWorker = none ∧
        world.requestTransientDisconnectSettlement =
          replacePostApplyStabilizationWithTransientDisconnectSettlement
            world.noteTransientDisconnect := by
  simp only [requestTransientDisconnectSettlement]
  split
  next up => exact .inl ⟨up, rfl⟩
  next down => exact .inr ⟨by simpa using down, rfl⟩

/-- The ladder moves nothing but its own stage. -/
theorem scheduleNextPostApplyStabilization_frame (world : World) :
    world.scheduleNextPostApplyStabilization.fence = world.fence ∧
      world.scheduleNextPostApplyStabilization.session = world.session ∧
      world.scheduleNextPostApplyStabilization.lease = world.lease ∧
      world.scheduleNextPostApplyStabilization.settling.transientDisconnectSettlementRequested =
        world.settling.transientDisconnectSettlementRequested := by
  rcases world.scheduleNextPostApplyStabilization_cases with same | ⟨_, delay, next⟩
  · rw [same]
    exact ⟨rfl, rfl, rfl, rfl⟩
  · rw [next]
    exact ⟨rfl, rfl, rfl, rfl⟩

theorem dispatchNextTransientDisconnectVerification_cases (world : World) :
    world.dispatchNextTransientDisconnectVerification = (true, world) ∧
        world.settling.transientDisconnectCheckPending = true ∨
      world.dispatchNextTransientDisconnectVerification =
        (false, world.resetTransientDisconnectSettlement) ∨
      world.settling.transientDisconnectSettlementRequested = true ∧
        ∃ delay, world.dispatchNextTransientDisconnectVerification =
          (true, world.dispatchTransientDisconnectCheck delay) := by
  simp only [dispatchNextTransientDisconnectVerification]
  split
  next pending => exact .inl ⟨rfl, pending⟩
  · split
    · exact .inr (.inl rfl)
    next wanted =>
      split
      · exact .inr (.inl rfl)
      next delay _ =>
        refine .inr (.inr ⟨?_, delay, rfl⟩)
        cases requested : world.settling.transientDisconnectSettlementRequested <;> simp_all

/-- Take a stage of the reapply ladder. -/
def takeReapplyStage (world : World) : World :=
  { world with settling := { world.settling with
      nextVerificationReapply := world.settling.nextVerificationReapply + 1 } }

theorem dispatchNextVerificationReapply_cases (world : World) :
    world.dispatchNextVerificationReapply = (false, world) ∨
      world.dispatchNextVerificationReapply = (false, world.takeReapplyStage) ∨
      ∃ delay, world.dispatchNextVerificationReapply =
        (true, world.takeReapplyStage.dispatchReapply delay
          world.settling.nextVerificationReapply) := by
  simp only [dispatchNextVerificationReapply]
  split
  · exact .inl rfl
  next delay _ =>
    split
    · exact .inr (.inl rfl)
    · exact .inr (.inr ⟨delay, rfl⟩)

attribute [simp] takeReapplyStage

/-- The gate changes what is known and reported about the session, not what is in
flight. -/
theorem releaseCaptureGate_frame (world : World) :
    world.releaseCaptureGate.fence = world.fence ∧
      world.releaseCaptureGate.settling = world.settling ∧
      world.releaseCaptureGate.ports.generation = world.ports.generation ∧
      world.releaseCaptureGate.ports.tasks = world.ports.tasks ∧
      world.releaseCaptureGate.session.currentRequest = world.session.currentRequest := by
  simp only [releaseCaptureGate, openCaptureGate]
  split
  · exact ⟨rfl, rfl, rfl, rfl, rfl⟩
  · split <;> split <;> simp

end World

section

/-! ## Observing the effects

A property of runs speaks about some of the effects only.  An observation that
is blind to a kind of effect sees nothing of the operations that emit only
that kind. -/

variable {α : Type} (observe : Effect → Option α)

theorem filterMap_dispatched (blind : ∀ task, observe (.dispatched task) = none)
    (tasks : List Task) : (tasks.map Effect.dispatched).filterMap observe = [] := by
  induction tasks with
  | nil => rfl
  | cons task rest ih => rw [List.map_cons, List.filterMap_cons_none (blind task), ih]

theorem filterMap_applyReply (blind : ∀ status epoch id, observe (.applyResult status epoch id) = none)
    (status : ApplyStatus) (world : World) : (world.applyReply status).filterMap observe = [] := by
  simp only [World.applyReply]
  split
  · rfl
  · exact List.filterMap_cons_none (blind _ _ _)

theorem filterMap_verificationReply
    (blind : ∀ success epoch id, observe (.verificationResult success epoch id) = none)
    (success : Bool) (world : World) : (world.verificationReply success).filterMap observe = [] := by
  simp only [World.verificationReply]
  split
  · rfl
  · exact List.filterMap_cons_none (blind _ _ _)

section Snapshots

variable (blind : ∀ tier snapshot layouts written,
  observe (.saved tier snapshot layouts written) = none)

include blind

theorem filterMap_captureFilteredAndSave (reading : Reading) (tier : SnapshotTier)
    (exclusions : List String) (remaining attempt : Nat) :
    (World.captureFilteredAndSave reading tier exclusions remaining attempt).1.filterMap observe =
      [] := by
  induction remaining generalizing attempt with
  | zero => rfl
  | succ remaining ih =>
      simp only [World.captureFilteredAndSave]
      split
      · exact ih (attempt + 1)
      · split
        · exact List.filterMap_cons_none (blind _ _ _ _)
        · rw [List.filterMap_cons_none (blind _ _ _ _), ih]

theorem filterMap_refreshCurrentPreservingPrevious (reading : Reading) (exclusions : List String) :
    (World.refreshCurrentPreservingPrevious reading exclusions).1.filterMap observe = [] := by
  simp only [World.refreshCurrentPreservingPrevious]
  split
  · rfl
  · split
    · exact List.filterMap_cons_none (blind _ _ _ _)
    · rw [List.singleton_append, List.filterMap_cons_none (blind _ _ _ _),
        List.filterMap_cons_none (blind _ _ _ _), List.filterMap_nil]

end Snapshots

end

end UmbraHost.DisplayHelper
