import UmbraHost.DisplayHelper.Ownership

/-! # The flags of the settling ladders -/

namespace UmbraHost.DisplayHelper

/-- The states a disconnect settlement can be overtaken in. -/
@[simp] def State.Away (state : State) : Prop :=
  state = .waiting ∨ state = .recovery ∨ state = .recoveryValidation ∨ state = .eventLoop

namespace World

structure Ladders (world : World) : Prop where
  unrequested : world.settling.transientDisconnectSettlementRequested = false →
    world.settling.transientDisconnectCheckPending = false ∧
      world.settling.nextTransientDisconnectCheck = 0
  disconnect : world.settling.transientDisconnectCheckPending = true →
    world.custody.current = [.transientDisconnect] ∨ world.fence.state.Away
  ordinary : world.settling.postApplyCheckPending = true →
    world.fence.activeMutationWorker = none ∧
      (world.fence.state = .waiting ∨ world.fence.state = .virtualDisplayMonitoring)

theorem Ladders.ended {world : World}
    (ended : world.settling.transientDisconnectSettlementRequested = false ∧
      world.settling.transientDisconnectCheckPending = false ∧
      world.settling.nextTransientDisconnectCheck = 0)
    (ordinary : world.settling.postApplyCheckPending = true →
      world.fence.activeMutationWorker = none ∧
        (world.fence.state = .waiting ∨ world.fence.state = .virtualDisplayMonitoring)) :
    world.Ladders where
  unrequested := fun _ => ended.2
  disconnect := fun pending => by simp [ended.2.1] at pending
  ordinary := ordinary

theorem Ladders.frame {before after : World} (ladders : before.Ladders)
    (requested : after.settling.transientDisconnectSettlementRequested =
      before.settling.transientDisconnectSettlementRequested)
    (pending : after.settling.transientDisconnectCheckPending =
      before.settling.transientDisconnectCheckPending)
    (next : after.settling.nextTransientDisconnectCheck =
      before.settling.nextTransientDisconnectCheck)
    (current : before.settling.transientDisconnectCheckPending = true →
      before.custody.current = [.transientDisconnect] →
      after.custody.current = [.transientDisconnect] ∨ after.fence.state.Away)
    (state : before.fence.state.Away → after.fence.state.Away)
    (ordinary : after.settling.postApplyCheckPending = true →
      after.fence.activeMutationWorker = none ∧
        (after.fence.state = .waiting ∨ after.fence.state = .virtualDisplayMonitoring)) :
    after.Ladders where
  unrequested := by rw [requested, pending, next]; exact ladders.unrequested
  disconnect := by
    rw [pending]
    intro pending
    rcases ladders.disconnect pending with checking | away
    · exact current pending checking
    · exact .inr (state away)
  ordinary := ordinary

/-- No disconnect check was pending and none is. -/
theorem Ladders.quiet {before after : World} (ladders : before.Ladders)
    (quiet : before.settling.transientDisconnectCheckPending = false)
    (requested : after.settling.transientDisconnectSettlementRequested =
      before.settling.transientDisconnectSettlementRequested)
    (pending : after.settling.transientDisconnectCheckPending =
      before.settling.transientDisconnectCheckPending)
    (next : after.settling.nextTransientDisconnectCheck =
      before.settling.nextTransientDisconnectCheck)
    (ordinary : after.settling.postApplyCheckPending = true →
      after.fence.activeMutationWorker = none ∧
        (after.fence.state = .waiting ∨ after.fence.state = .virtualDisplayMonitoring)) :
    after.Ladders where
  unrequested := by rw [requested, pending, next]; exact ladders.unrequested
  disconnect := by simp [pending, quiet]
  ordinary := ordinary

/-- Nothing the flags speak about has moved. -/
theorem Ladders.same {before after : World} (ladders : before.Ladders)
    (settling : after.settling = before.settling)
    (current : after.custody.current = before.custody.current)
    (state : after.fence.state = before.fence.state)
    (worker : after.fence.activeMutationWorker = before.fence.activeMutationWorker) :
    after.Ladders :=
  ladders.frame (by rw [settling]) (by rw [settling]) (by rw [settling])
    (fun _ checking => .inl (current.trans checking)) (state ▸ id)
    (by rw [settling, state, worker]; exact ladders.ordinary)

theorem Owned.unchecked {world : World} (owned : world.Owned)
    (up : world.fence.activeMutationWorker.isSome = true) :
    world.custody.current ≠ [.transientDisconnect] := by
  obtain ⟨worker, working, _⟩ := owned.held up
  rw [working.current]
  simp

/-- A disconnect check is awaited in the verification state only. -/
theorem Owned.verifying {world : World} (owned : world.Owned)
    (checking : world.custody.current = [.transientDisconnect]) :
    world.fence.state = .verification := by
  cases owned with
  | idle idle => rw [idle.current] at checking; simp at checking
  | working worker working _ => rw [working.current] at checking; simp at checking
  | checking purpose expected awaited =>
      rw [expected.current] at checking
      obtain rfl : purpose = .transientDisconnect := by simpa using checking
      exact awaited

/-- Cancelling an active worker strands no check. -/
theorem Ladders.cancel {before after : World} (ladders : before.Ladders) (owned : before.Owned)
    (up : before.fence.activeMutationWorker.isSome = true)
    (settling : after.settling = before.settling)
    (state : after.fence.state = before.fence.state)
    (worker : after.fence.activeMutationWorker = before.fence.activeMutationWorker) :
    after.Ladders :=
  ladders.frame (by rw [settling]) (by rw [settling]) (by rw [settling])
    (fun _ checking => absurd checking (owned.unchecked up)) (state ▸ id)
    (by rw [settling, state, worker]; exact ladders.ordinary)

/-! ## Commands -/

theorem handleApplyCommand_ladders (reading : Reading) (command : ApplyCommand) {world : World}
    (ladders : world.Ladders) : (world.handleApplyCommand reading command).Ladders := by
  have ordinary := ladders.ordinary
  simp only [handleApplyCommand]
  split
  · exact ladders
  · split
    · exact .ended (by simp) (by simpa using ordinary)
    · split
      · exact .ended (by simp) (by simpa using ordinary)
      · simp only [acceptApplyCommand]
        split
        · exact .ended (by simp) (by simp)
        · exact .ended (by simp) (by simp)

theorem handleRevertCommand_ladders (reading : Reading) (command : RevertCommand) {world : World}
    (owned : world.Owned) (ladders : world.Ladders) :
    (world.handleRevertCommand reading command).Ladders := by
  have owned := (noteRevert_kept command world).owned owned
  have noted : (world.noteRevert command).Ladders := by
    simp only [noteRevert]
    split
    · exact ladders
    · exact .ended (by simp) (by simpa using ladders.ordinary)
  simp only [handleRevertCommand]
  split
  · exact ladders
  · split
    · exact noted
    · split
      next up => exact noted.cancel owned up rfl rfl rfl
      · split
        · exact noted.same rfl rfl rfl rfl
        · simp only [acceptRevertCommand]
          split
          · exact .ended (by simp) (by simp)
          · split
            · exact .ended (by simp) noted.ordinary
            · exact noted.frame rfl rfl rfl (by simp) (by simp) (by simp)

theorem handleDisarmCommand_ladders (reading : Reading) (command : DisarmCommand) {world : World}
    (ladders : world.Ladders) : (world.handleDisarmCommand reading command).Ladders := by
  have ordinary := ladders.ordinary
  simp only [handleDisarmCommand]
  split
  · exact ladders
  · split
    · exact ladders
    · split
      · exact .ended (by simp) (by simpa using ordinary)
      · split
        · exact .ended (by simp) (by simpa using ordinary)
        · simp only [acceptDisarmCommand]
          split
          · exact .ended (by simp) (by simp)
          · exact .ended (by simp) (by simp)

theorem handleResetCommand_ladders (reading : Reading) (command : ResetCommand) {world : World}
    (ladders : world.Ladders) : (world.handleResetCommand reading command).Ladders := by
  simp only [handleResetCommand]
  split
  · exact ladders
  · split
    · exact ladders.same (by simp) (by simp) (by simp) (by simp)
    · split
      · exact ladders.same (by simp) (by simp) (by simp) (by simp)
      · exact ladders.same (by simp) (by simp) (by simp) (by simp)

theorem handleDeferred_ladders (reading : Reading) (command : DeferredMutationCommand)
    {world : World} (owned : world.Owned) (ladders : world.Ladders) :
    (world.handleDeferred reading command).Ladders := by
  cases command with
  | apply command => exact handleApplyCommand_ladders reading command ladders
  | revert command => exact handleRevertCommand_ladders reading command owned ladders
  | disarm command => exact handleDisarmCommand_ladders reading command ladders
  | reset command => exact handleResetCommand_ladders reading command ladders

theorem handleExportGolden_ladders (reading : Reading) (command : ExportGoldenCommand)
    {world : World} (ladders : world.Ladders) :
    (world.handleExportGolden reading command).Ladders := by
  simp only [handleExportGolden]
  split
  · exact ladders
  · split
    · exact ladders
    · exact ladders.same (by simp) (by simp) (by simp) (by simp)

theorem handleSnapshotCurrent_ladders (reading : Reading) (command : SnapshotCurrentCommand)
    {world : World} (ladders : world.Ladders) :
    (world.handleSnapshotCurrent reading command).Ladders := by
  simp only [handleSnapshotCurrent]
  split
  · exact ladders
  · split
    · exact ladders.same (by simp) (by simp) (by simp) (by simp)
    · exact ladders.same (by simp) (by simp) (by simp) (by simp)

theorem handlePingCommand_ladders (reading : Reading) (command : PingCommand) {world : World}
    (ladders : world.Ladders) : (world.handlePingCommand reading command).Ladders := by
  simp only [handlePingCommand]
  split
  · exact ladders
  · exact ladders.same rfl rfl rfl rfl

theorem handleStopCommand_ladders (reading : Reading) (command : StopCommand) {world : World}
    (ladders : world.Ladders) : (world.handleStopCommand reading command).Ladders := by
  simp only [handleStopCommand]
  split
  · exact ladders
  · exact ladders.same rfl rfl rfl rfl

theorem handleRefreshRateCommand_ladders (reading : Reading) (command : RefreshRateCommand)
    {world : World} (owned : world.Owned) (ladders : world.Ladders) :
    (world.handleRefreshRateCommand reading command).Ladders := by
  simp only [handleRefreshRateCommand]
  split
  · exact ladders
  split
  · exact ladders.same rfl rfl rfl rfl
  split
  · exact ladders.same rfl rfl rfl rfl
  next still =>
    have unverifying : world.fence.state ≠ .verification := by
      intro verifying
      simp [verifying] at still
    split
    · exact ladders.same rfl rfl rfl rfl
    · cases pending : world.settling.postApplyCheckPending with
      | true =>
          exact ladders.frame rfl rfl rfl
            (fun _ checking => absurd (owned.verifying checking) unverifying) id (by simp)
      | false =>
          exact ladders.frame rfl rfl rfl
            (fun _ checking => absurd (owned.verifying checking) unverifying) id
            (by simp [pending])

/-! ## Events -/

theorem displayEventWhileMonitoring_ladders (reading : Reading) {world : World}
    (owned : world.Owned) (ladders : world.Ladders)
    (monitoring : world.fence.state = .virtualDisplayMonitoring) :
    (world.displayEventWhileMonitoring reading).Ladders := by
  have unchecked : ∀ checked : World,
      world.settling.transientDisconnectCheckPending = true →
      world.custody.current = [.transientDisconnect] →
      checked.custody.current = [.transientDisconnect] ∨ checked.fence.state.Away := by
    intro checked _ checking
    simp [owned.verifying checking] at monitoring
  have present : ∀ state : State, world.fence.state.Away → state.Away := by
    intro state away
    simp [monitoring] at away
  simp only [displayEventWhileMonitoring]
  split
  next up =>
    split
    · exact ladders
    · exact ladders.cancel owned up rfl rfl rfl
  next down =>
    split
    · split
      · exact ladders
      · exact ladders.frame rfl rfl rfl (unchecked _) (present _)
          (fun _ => ⟨by simpa using down, .inr monitoring⟩)
    · exact ladders.frame rfl rfl rfl (unchecked _) (present _) (by simp)

/-- A display event restarts the APPLY under a pending disconnect check, which it
cancels without clearing the flag. -/
def overtakesCheck (reading : Reading) (event : DisplayEventMessage) (world : World) : Bool :=
  !world.isStale event.generation &&
    (world.fence.state == .inProgress || world.fence.state == .verification) &&
    world.session.currentRequest.virtualLayout.isSome && !world.sameVirtualDevice reading &&
    !world.debounced (reading.now 0) && !world.mutationWorkerActive &&
    world.settling.transientDisconnectCheckPending

theorem displayEventDuringApply_ladders (reading : Reading) {world : World} (owned : world.Owned)
    (ladders : world.Ladders)
    (heeded : world.sameVirtualDevice reading = false → world.debounced (reading.now 0) = false →
      world.fence.activeMutationWorker = none →
      world.settling.transientDisconnectCheckPending = false) :
    (world.displayEventDuringApply reading).Ladders := by
  simp only [displayEventDuringApply]
  split
  · exact ladders
  next other =>
    split
    · exact ladders
    next due =>
      split
      next up =>
        exact ladders.frame rfl rfl rfl (fun _ checking => absurd checking (owned.unchecked up)) id
          ladders.ordinary
      next down =>
        exact ladders.quiet (heeded (by simpa using other) (by simpa using due)
          (by simpa using down)) rfl rfl rfl (by simp)

theorem handleDisplayEvent_ladders (reading : Reading) (event : DisplayEventMessage)
    {world : World} (owned : world.Owned) (ladders : world.Ladders)
    (heeded : world.overtakesCheck reading event = false) :
    (world.handleDisplayEvent reading event).Ladders := by
  simp only [handleDisplayEvent]
  split
  · exact ladders
  next fresh =>
    have fresh : event.generation = world.ports.generation := by simpa using fresh
    split
    next monitoring => exact displayEventWhileMonitoring_ladders reading owned ladders monitoring
    next applying =>
      split
      next virtual =>
        refine displayEventDuringApply_ladders reading owned ladders ?_
        intro other due down
        simpa [overtakesCheck, fresh, applying, virtual, other, due, down] using heeded
      · exact ladders
    next verifying =>
      split
      next virtual =>
        refine displayEventDuringApply_ladders reading owned ladders ?_
        intro other due down
        simpa [overtakesCheck, fresh, verifying, virtual, other, due, down] using heeded
      · exact ladders
    next polling =>
      simp only [displayEventInEventLoop]
      split
      · split
        · refine ladders.frame rfl rfl rfl (by simp) (by simp) ?_
          intro pending
          have steady := (ladders.ordinary pending).2
          simp [polling] at steady
        · exact ladders.same rfl rfl rfl rfl
      · exact ladders
    · exact ladders

theorem handleHelperEvent_ladders (reading : Reading) (event : HelperEventMessage) {world : World}
    (owned : world.Owned) (ladders : world.Ladders) :
    (world.handleHelperEvent reading event).Ladders := by
  simp only [handleHelperEvent]
  split
  · exact ladders
  split
  · exact ladders
  split
  · exact ladders
  split
  · exact ladders
  split
  next up =>
    split
    · exact ladders
    · exact ladders.cancel owned up rfl rfl rfl
  · split
    · exact .ended (by simp) (by simp)
    · exact ladders.frame rfl rfl rfl (by simp) (by simp) (by simp)

theorem handleTick_ladders (reading : Reading) {world : World} (ladders : world.Ladders) :
    (world.handleTick reading).Ladders := by
  have ordinary := ladders.ordinary
  simp only [handleTick]
  split
  · exact ladders
  next polls =>
    simp only [not_or, ne_eq, not_not] at polls
    split
    · exact ladders.same rfl rfl rfl rfl
    · split
      · refine ladders.frame rfl rfl rfl (by simp) (by simp) ?_
        intro pending
        have steady := (ladders.ordinary pending).2
        simp [polls.1] at steady
      · exact ladders.same rfl rfl rfl rfl

/-! ## Completions -/

/-- No ordinary and no disconnect check is pending. -/
structure Calm (settling : Settling) : Prop where
  disconnect : settling.transientDisconnectCheckPending = false
  ordinary : settling.postApplyCheckPending = false
  unrequested : settling.transientDisconnectSettlementRequested = false →
    settling.nextTransientDisconnectCheck = 0

theorem Calm.ladders {world : World} (calm : Calm world.settling) : world.Ladders where
  unrequested := fun unrequested => ⟨calm.disconnect, calm.unrequested unrequested⟩
  disconnect := by simp [calm.disconnect]
  ordinary := by simp [calm.ordinary]

theorem Calm.congr {before after : Settling} (calm : Calm before)
    (pending : after.transientDisconnectCheckPending = before.transientDisconnectCheckPending)
    (ordinary : after.postApplyCheckPending = before.postApplyCheckPending)
    (requested : after.transientDisconnectSettlementRequested =
      before.transientDisconnectSettlementRequested)
    (next : after.nextTransientDisconnectCheck = before.nextTransientDisconnectCheck) :
    Calm after where
  disconnect := pending.trans calm.disconnect
  ordinary := ordinary.trans calm.ordinary
  unrequested := by rw [requested, next]; exact calm.unrequested

theorem resetTransientDisconnectSettlement_calm {world : World}
    (ordinary : world.settling.postApplyCheckPending = false) :
    Calm world.resetTransientDisconnectSettlement.settling :=
  ⟨rfl, ordinary, fun _ => rfl⟩

/-- The next check of a settlement is pending and in flight, or the settlement is
over. -/
theorem dispatchNextTransientDisconnectVerification_calm (world : World)
    (idle : world.custody.Idle) (calm : Calm world.settling) :
    world.dispatchNextTransientDisconnectVerification.2.Ladders ∧
      (world.dispatchNextTransientDisconnectVerification.1 = false →
        Calm world.dispatchNextTransientDisconnectVerification.2.settling) := by
  rcases world.dispatchNextTransientDisconnectVerification_cases with
    ⟨_, pending⟩ | done | ⟨requested, delay, next⟩
  · simp [calm.disconnect] at pending
  · have ended := resetTransientDisconnectSettlement_calm calm.ordinary
    rw [done]
    exact ⟨ended.ladders, fun _ => ended⟩
  · rw [next]
    refine ⟨⟨?_, ?_, ?_⟩, by simp⟩
    · simp [requested]
    · intro _
      exact .inl (by simpa using (idle.verify .transientDisconnect).current)
    · simp [calm.ordinary]

/-- A settlement whose flag is up leaves a machine at rest alone. -/
theorem dispatchNextTransientDisconnectVerification_ladders {world : World}
    (idle : world.custody.Idle) (ladders : world.Ladders)
    (ordinary : world.settling.postApplyCheckPending = false) :
    world.dispatchNextTransientDisconnectVerification.2.Ladders ∧
      (world.dispatchNextTransientDisconnectVerification.1 = false →
        Calm world.dispatchNextTransientDisconnectVerification.2.settling) := by
  cases pending : world.settling.transientDisconnectCheckPending with
  | true => simp [dispatchNextTransientDisconnectVerification, pending, ladders]
  | false =>
      exact dispatchNextTransientDisconnectVerification_calm world idle
        ⟨pending, ordinary, fun unrequested => (ladders.unrequested unrequested).2⟩

theorem settleSuccessfulApply_ladders {world : World} (idle : world.custody.Idle)
    (calm : Calm world.settling) : world.settleSuccessfulApply.world.Ladders := by
  simp only [settleSuccessfulApply]
  split
  · obtain ⟨ladders, ended⟩ := dispatchNextTransientDisconnectVerification_calm
      world.landTransientDisconnectRepair idle (calm.congr rfl rfl rfl rfl)
    split
    · exact ladders
    next done => exact Calm.ladders (by simpa using ended (by simpa using done))
  · exact Calm.ladders (by simpa using calm)

theorem retryFailedApply_ladders (completed : ApplyCompleted) {world : World}
    (calm : Calm world.settling) : (world.retryFailedApply completed).world.Ladders := by
  simp only [retryFailedApply]
  split
  · exact Calm.ladders (calm.congr rfl rfl rfl rfl)
  · split
    · exact Calm.ladders (calm.congr rfl rfl rfl rfl)
    · simp only [concludeFailedApply]
      split
      · exact Calm.ladders (by simpa using calm)
      · exact Calm.ladders (by simpa using calm)

theorem settleOrRetryFailedApply_ladders (completed : ApplyCompleted) {world : World}
    (idle : world.custody.Idle) (calm : Calm world.settling) :
    (world.settleOrRetryFailedApply completed).world.Ladders := by
  simp only [settleOrRetryFailedApply]
  split
  · obtain ⟨ladders, ended⟩ := dispatchNextTransientDisconnectVerification_calm
      world.landTransientDisconnectRepair idle (calm.congr rfl rfl rfl rfl)
    split
    · exact ladders
    next done => exact retryFailedApply_ladders completed (ended (by simpa using done))
  · exact retryFailedApply_ladders completed calm

theorem settleFailedApply_ladders (reading : Reading) (completed : ApplyCompleted) {world : World}
    (idle : world.custody.Idle) (calm : Calm world.settling) :
    (world.settleFailedApply reading completed).world.Ladders := by
  simp only [settleFailedApply]
  split
  · exact Calm.ladders (calm.congr rfl rfl rfl rfl)
  · exact settleOrRetryFailedApply_ladders completed idle calm

theorem handleApplyCompleted_ladders (reading : Reading) (completed : ApplyCompleted)
    {world : World} (owns : world.ownsActiveWorker .apply completed.generation = true)
    (idle : (world.setActiveMutationWorker none).custody.Idle) (calm : Calm world.settling) :
    (world.handleApplyCompleted reading completed).world.Ladders := by
  simp only [handleApplyCompleted, owns, ↓reduceIte]
  split
  · simp only [retireCancelledApply, retainRecoveryAfterDisplayMutation]
    split
    · exact Calm.ladders (by simpa using calm)
    · exact Calm.ladders (by simpa using calm)
  · simp only [settleApply]
    split
    · exact settleSuccessfulApply_ladders (by simpa using idle) (by simpa using calm)
    · exact settleFailedApply_ladders reading completed (by simpa using idle) (by simpa using calm)

/-- While something other than a disconnect check is in flight, no check is pending. -/
theorem Ladders.calm {world : World} (ladders : world.Ladders)
    (other : world.custody.current ≠ [.transientDisconnect])
    (engaged : world.fence.state = .inProgress ∨ world.fence.state = .verification) :
    Calm world.settling where
  disconnect := by
    cases pending : world.settling.transientDisconnectCheckPending with
    | false => rfl
    | true =>
        rcases ladders.disconnect pending with checking | away
        · exact absurd checking other
        · rcases engaged with state | state <;> simp [state] at away
  ordinary := by
    cases pending : world.settling.postApplyCheckPending with
    | false => rfl
    | true =>
        have steady := (ladders.ordinary pending).2
        rcases engaged with state | state <;> simp [state] at steady
  unrequested := fun unrequested => (ladders.unrequested unrequested).2

/-! ## Verifications -/

theorem settleDisconnectedCheck_ladders {world : World} (idle : world.custody.Idle)
    (ladders : world.Ladders) (ordinary : world.settling.postApplyCheckPending = false) :
    world.settleDisconnectedCheck.Ladders := by
  obtain ⟨ladders, ended⟩ := dispatchNextTransientDisconnectVerification_ladders idle ladders ordinary
  simp only [settleDisconnectedCheck]
  split
  · exact ladders
  next done =>
    have calm := ended (by simpa using done)
    split
    · exact Calm.ladders (by simpa using calm)
    · exact Calm.ladders (by simpa using calm)

theorem dispatchNextTransientDisconnectVerification_or_steady_ladders {world : World}
    (idle : world.custody.Idle) (ladders : world.Ladders)
    (ordinary : world.settling.postApplyCheckPending = false) :
    (if world.dispatchNextTransientDisconnectVerification.1 then
      world.dispatchNextTransientDisconnectVerification.2
    else world.dispatchNextTransientDisconnectVerification.2.enterSteadyState).Ladders := by
  obtain ⟨ladders, ended⟩ := dispatchNextTransientDisconnectVerification_ladders idle ladders ordinary
  split
  · exact ladders
  next done => exact Calm.ladders (by simpa using ended (by simpa using done))

/-- An ordinary check may be pending once the session has settled. -/
theorem scheduleNextPostApplyStabilization_ladders {world : World} (idle : world.custody.Idle)
    (calm : Calm world.settling)
    (steady : world.fence.state = .waiting ∨ world.fence.state = .virtualDisplayMonitoring) :
    world.scheduleNextPostApplyStabilization.Ladders := by
  rcases world.scheduleNextPostApplyStabilization_cases with same | ⟨_, delay, next⟩
  · rw [same]
    exact calm.ladders
  · rw [next]
    exact calm.ladders.quiet calm.disconnect rfl rfl rfl (fun _ => ⟨idle.worker, steady⟩)

theorem handleInitialSuccess_ladders {world : World} (idle : world.custody.Idle)
    (calm : Calm world.settling) : world.handleInitialSuccess.Ladders := by
  obtain ⟨fence, settling, generation, tasks, _⟩ := world.releaseCaptureGate_frame
  have idle : world.releaseCaptureGate.custody.Idle := by
    simpa [fence, generation, tasks] using idle
  have calm : Calm world.releaseCaptureGate.settling := settling ▸ calm
  simp only [handleInitialSuccess]
  split
  · exact dispatchNextTransientDisconnectVerification_or_steady_ladders idle calm.ladders
      calm.ordinary
  · rcases world.releaseCaptureGate.scheduleNextPostApplyStabilization_cases with
      same | ⟨_, delay, next⟩
    · rw [same]
      exact Calm.ladders (by simpa using calm)
    · rw [next]
      exact calm.ladders.quiet calm.disconnect (by simp) (by simp) (by simp)
        (fun _ => ⟨by simpa using idle.worker, by simpa using steadyState_cases _⟩)

theorem handleInitialFailure_ladders {world : World} (idle : world.custody.Idle)
    (calm : Calm world.settling) : world.handleInitialFailure.Ladders := by
  have rewound : Calm world.rewindPostApplyStabilization.settling :=
    calm.congr rfl calm.ordinary.symm rfl rfl
  simp only [handleInitialFailure]
  split
  · exact settleDisconnectedCheck_ladders idle calm.ladders calm.ordinary
  · rcases world.rewindPostApplyStabilization.dispatchNextVerificationReapply_cases with
      ended | omitted | ⟨delay, next⟩
    · rw [ended]
      simp only [Bool.false_eq_true, ↓reduceIte]
      split
      · exact Calm.ladders (by simpa using rewound)
      · exact Calm.ladders (by simpa using rewound)
    · rw [omitted]
      simp only [Bool.false_eq_true, ↓reduceIte]
      split
      · exact Calm.ladders (rewound.congr (by simp) (by simp) (by simp) (by simp))
      · exact Calm.ladders (rewound.congr (by simp) (by simp) (by simp) (by simp))
    · rw [next]
      exact Calm.ladders (rewound.congr (by simp) (by simp) (by simp) (by simp))

theorem handleTransientDisconnectCheck_ladders (success : Bool) {world : World}
    (unrequested : world.settling.transientDisconnectSettlementRequested = false →
      world.settling.nextTransientDisconnectCheck = 0)
    (ordinary : world.settling.postApplyCheckPending = false) :
    (world.handleTransientDisconnectCheck success).Ladders := by
  simp only [handleTransientDisconnectCheck]
  split
  · split
    · exact .ended (by simp) (by simp [ordinary])
    · exact .ended (by simp) (by simp [ordinary])
  · split
    · exact Calm.ladders ⟨by simp, by simpa using ordinary, by simpa using unrequested⟩
    · exact .ended (by simp) (by simp [ordinary])

theorem handleStabilizationSuccess_ladders {world : World} (idle : world.custody.Idle)
    (ladders : world.Ladders) (ordinary : world.settling.postApplyCheckPending = false)
    (steady : world.fence.state = .waiting ∨ world.fence.state = .virtualDisplayMonitoring) :
    world.handleStabilizationSuccess.Ladders := by
  simp only [handleStabilizationSuccess]
  split
  · exact dispatchNextTransientDisconnectVerification_or_steady_ladders idle ladders ordinary
  next unrequested =>
    obtain ⟨pending, next⟩ := ladders.unrequested (by simpa using unrequested)
    exact scheduleNextPostApplyStabilization_ladders idle ⟨pending, ordinary, fun _ => next⟩ steady

theorem handleStabilizationFailure_ladders {world : World} (idle : world.custody.Idle)
    (ladders : world.Ladders) (ordinary : world.settling.postApplyCheckPending = false) :
    world.handleStabilizationFailure.Ladders := by
  simp only [handleStabilizationFailure]
  split
  · exact settleDisconnectedCheck_ladders idle ladders ordinary
  next unrequested =>
    obtain ⟨pending, next⟩ := ladders.unrequested (by simpa using unrequested)
    exact Calm.ladders ⟨pending, ordinary, fun _ => next⟩

/-- The check that has reported is the only one the flags can speak of. -/
theorem handleVerificationCompleted_ladders (completed : VerificationCompleted)
    {before world : World} (ladders : before.Ladders)
    (checking : before.custody.Checking completed.purpose)
    (awaited : completed.purpose.Awaited before.fence.state before.settling.postApplyCheckPending)
    (fence : world.fence = before.fence) (settling : world.settling = before.settling)
    (fresh : world.isStale completed.generation = false) (idle : world.custody.Idle) :
    (world.handleVerificationCompleted completed).Ladders := by
  have unrequested : world.settling.transientDisconnectSettlementRequested = false →
      world.settling.nextTransientDisconnectCheck = 0 := by
    rw [settling]
    exact fun unrequested => (ladders.unrequested unrequested).2
  have ordinary : before.fence.state = .verification →
      world.settling.postApplyCheckPending = false := by
    intro verifying
    rw [settling]
    cases pending : before.settling.postApplyCheckPending with
    | false => rfl
    | true => simpa [verifying] using (ladders.ordinary pending).2
  simp only [handleVerificationCompleted, fresh, Bool.false_eq_true, ↓reduceIte]
  cases purpose : completed.purpose with
  | transientDisconnect =>
      rw [purpose] at awaited
      exact handleTransientDisconnectCheck_ladders _ unrequested (ordinary awaited)
  | stabilization =>
      rw [purpose] at awaited checking
      have reported : Ladders { world with settling := { world.settling with
          postApplyCheckPending := false } } := by
        refine ladders.frame (by simp [settling]) (by simp [settling]) (by simp [settling]) ?_
          (by simp [fence]) (by simp)
        intro _ other
        rw [checking.current] at other
        simp at other
      dsimp only
      split
      · exact handleStabilizationSuccess_ladders (by simpa using idle) reported rfl
          (fence ▸ awaited.1)
      · exact handleStabilizationFailure_ladders (by simpa using idle) reported rfl
  | initial =>
      rw [purpose] at awaited checking
      have calm : Calm world.settling := settling ▸ ladders.calm
        (by rw [checking.current]; simp) (.inr awaited)
      dsimp only
      split
      · exact handleInitialSuccess_ladders idle calm
      · exact handleInitialFailure_ladders idle calm

/-! ## Recovery and refresh -/

/-- A worker hosted outside the verification states is not disturbed by a pending
disconnect check. -/
theorem handleRecoveryCompleted_ladders (reading : Reading) (completed : RecoveryCompleted)
    {world : World} (owns : world.ownsActiveWorker .recovery completed.generation = true)
    (ladders : world.Ladders) (ordinary : world.settling.postApplyCheckPending = false)
    (recovering : world.fence.state = .recovery ∨ world.fence.state = .recoveryValidation) :
    (world.handleRecoveryCompleted reading completed).world.Ladders := by
  have away : world.fence.state.Away := by rcases recovering with state | state <;> simp [state]
  simp only [handleRecoveryCompleted, owns, ↓reduceIte]
  split
  · split
    · exact ladders.frame rfl rfl rfl (fun _ _ => .inr away) id (by simp [ordinary])
    · exact ladders.frame rfl rfl rfl (fun _ _ => .inr away) id (by simp [ordinary])
  · split
    · simp only [startRecoveryValidation]
      exact ladders.frame rfl rfl rfl (by simp) (by simp) (by simp [ordinary])
    · exact ladders.frame rfl rfl rfl (by simp) (by simp) (by simp [ordinary])

theorem handleRecoveryValidationCompleted_ladders (reading : Reading)
    (completed : RecoveryValidationCompleted) {world : World}
    (owns : world.ownsActiveWorker .recovery completed.generation = true)
    (ladders : world.Ladders) (ordinary : world.settling.postApplyCheckPending = false)
    (recovering : world.fence.state = .recovery ∨ world.fence.state = .recoveryValidation) :
    (world.handleRecoveryValidationCompleted reading completed).world.Ladders := by
  have away : world.fence.state.Away := by rcases recovering with state | state <;> simp [state]
  simp only [handleRecoveryValidationCompleted, owns, ↓reduceIte]
  split
  · exact ladders.frame rfl rfl rfl (fun _ _ => .inr away) id (by simp [ordinary])
  · split
    · exact ladders.frame (by simp) (by simp) (by simp) (by simp) (by simp) (by simp [ordinary])
    · exact ladders.frame rfl rfl rfl (by simp) (by simp) (by simp [ordinary])

theorem restartSettlingAfterRefresh_ladders (completed : RefreshRateCompleted) {world : World}
    (idle : world.custody.Idle) (ladders : world.Ladders)
    (steady : world.fence.state = .waiting ∨ world.fence.state = .virtualDisplayMonitoring) :
    (world.restartSettlingAfterRefresh completed).Ladders ∧
      (world.settling.transientDisconnectSettlementRequested = true →
        (world.restartSettlingAfterRefresh completed).settling.postApplyCheckPending = false) := by
  have unchecked : world.custody.current ≠ [.transientDisconnect] := by
    rw [idle.current]
    simp
  simp only [restartSettlingAfterRefresh]
  split
  · rcases replacePostApplyStabilization_cases _ with ⟨_, replaced⟩ | ⟨_, kept⟩
    · rw [replaced]
      exact ⟨ladders.frame rfl rfl rfl (fun _ checking => absurd checking unchecked) id (by simp),
        fun _ => rfl⟩
    · rw [kept]
      exact ⟨ladders.frame rfl rfl rfl (fun _ checking => absurd checking unchecked) id (by simp),
        fun _ => rfl⟩
  next undisturbed =>
    have undisturbed : world.settling.transientDisconnectSettlementRequested = false := by
      simpa using undisturbed
    obtain ⟨pending, next⟩ := ladders.unrequested undisturbed
    refine ⟨?_, by simp [undisturbed]⟩
    exact scheduleNextPostApplyStabilization_ladders (by simpa using idle.cancel)
      ⟨pending, rfl, fun _ => next⟩ steady

theorem settleAfterRefresh_ladders (completed : RefreshRateCompleted) {world : World}
    (idle : world.custody.Idle) (ladders : world.Ladders)
    (ordinary : world.settling.postApplyCheckPending = false)
    (steady : world.fence.state = .waiting ∨ world.fence.state = .virtualDisplayMonitoring) :
    (world.settleAfterRefresh completed).Ladders := by
  obtain ⟨restarted, replaced⟩ := restartSettlingAfterRefresh_ladders completed idle ladders steady
  cases requested : world.settling.transientDisconnectSettlementRequested with
  | true =>
      simp only [settleAfterRefresh]
      split
      · obtain ⟨idle, _, requested⟩ := restartSettlingAfterRefresh_idle completed idle requested
        rw [if_pos requested]
        exact (dispatchNextTransientDisconnectVerification_ladders idle restarted
          (replaced ‹_›)).1
      · exact (dispatchNextTransientDisconnectVerification_ladders idle ladders ordinary).1
  | false =>
      simp only [settleAfterRefresh]
      split
      · obtain ⟨_, undisturbed⟩ := restartSettlingAfterRefresh_settled completed idle steady requested
        rw [if_neg (by simp [undisturbed])]
        exact restarted
      · rw [if_neg (by simp [requested])]
        exact ladders

theorem handleRefreshRateCompleted_ladders (completed : RefreshRateCompleted) {world : World}
    (owns : world.ownsActiveWorker .refreshRate completed.generation = true)
    (idle : (world.setActiveMutationWorker none).custody.Idle) (ladders : world.Ladders)
    (ordinary : world.settling.postApplyCheckPending = false)
    (steady : world.fence.state = .waiting ∨ world.fence.state = .virtualDisplayMonitoring) :
    (world.handleRefreshRateCompleted completed).world.Ladders := by
  have retired : (world.setActiveMutationWorker none).Ladders :=
    ladders.frame rfl rfl rfl (fun _ checking => .inl checking) id (by simp [ordinary])
  simp only [handleRefreshRateCompleted, owns, ↓reduceIte]
  split
  · exact retired
  · have settled := settleAfterRefresh_ladders completed idle retired ordinary steady
    exact settled.same (by simp) (by simp) (by simp) (by simp)

/-! ## Transient disconnects -/

theorem requestTransientDisconnectSettlement_ordinary {world : World} (ladders : world.Ladders) :
    world.requestTransientDisconnectSettlement.settling.postApplyCheckPending = false := by
  rcases world.requestTransientDisconnectSettlement_cases with ⟨up, requested⟩ | ⟨_, replaced⟩
  · rw [requested]
    cases pending : world.settling.postApplyCheckPending with
    | false => simpa using pending
    | true => simp [(ladders.ordinary pending).1] at up
  rw [replaced]
  rcases world.noteTransientDisconnect.replacePostApplyStabilization_cases with
    ⟨_, cancelled⟩ | ⟨_, kept⟩
  · rw [cancelled]
    rfl
  · rw [kept]
    rfl

theorem beginTransientDisconnectSettlement_ladders (reading : Reading) {world : World}
    (owned : world.Owned) (ladders : world.Ladders) :
    (world.beginTransientDisconnectSettlement reading).2.Ladders := by
  simp only [beginTransientDisconnectSettlement]
  split
  · exact ladders
  split
  · exact ladders
  next fresh =>
    obtain ⟨pending, _⟩ := ladders.unrequested (by simpa using fresh)
    obtain ⟨requested, same, _⟩ := world.requestTransientDisconnectSettlement_frame
    have calm : Calm world.requestTransientDisconnectSettlement.settling :=
      ⟨same.trans pending, requestTransientDisconnectSettlement_ordinary ladders,
        by simp [requested]⟩
    split
    · exact calm.ladders
    next decides =>
      have idle := requestTransientDisconnectSettlement_idle owned (by simpa using decides)
      exact (dispatchNextTransientDisconnectVerification_calm _ idle calm).1

/-! ## Steps -/

theorem handleResetCompleted_ladders (completed : ResetCompleted) {world : World}
    (ladders : world.Ladders) : (world.handleResetCompleted completed).world.Ladders := by
  simp only [handleResetCompleted]
  split
  · exact ladders.same rfl rfl rfl rfl
  · exact ladders.same rfl rfl rfl rfl

/-- Flags after the active worker's task is gone. -/
theorem Ladders.ofWorker {before : World} {worker : ActiveMutationWorker}
    (ladders : before.Ladders) (index : Nat) (working : before.custody.Working worker) :
    (before.removeTask index).advance.Ladders ∧
      before.settling.postApplyCheckPending = false := by
  have ordinary : before.settling.postApplyCheckPending = false := by
    cases pending : before.settling.postApplyCheckPending with
    | false => rfl
    | true => simpa [(ladders.ordinary pending).1] using working.holder
  refine ⟨ladders.frame rfl rfl rfl ?_ id (by simp [ordinary]), ordinary⟩
  intro _ checking
  rw [working.current] at checking
  simp at checking

theorem dispatchCompletion_ladders (reading : Reading) {index : Nat} {outcome : Outcome}
    {message : Message} {world : World} (owned : world.Owned) (ladders : world.Ladders)
    (posted : world.completionMessage index outcome = some message) :
    ((world.removeTask index).advance.dispatchMessage reading message).world.Ladders := by
  obtain ⟨task, found, completes⟩ := completionMessage_eq_some posted
  cases completes with
  | apply request delay resetVirtualDisplay generation outcome =>
      obtain ⟨working, hosted, idle⟩ := owned.completesWorker found rfl
      have calm := ladders.calm (by rw [working.current]; simp) (.inl hosted)
      exact handleApplyCompleted_ladders reading _ (by simpa using working.holder) idle calm
  | refreshRate command generation success =>
      obtain ⟨working, hosted, idle⟩ := owned.completesWorker found rfl
      obtain ⟨removed, ordinary⟩ := ladders.ofWorker index working
      exact handleRefreshRateCompleted_ladders _ (by simpa using working.holder) idle removed
        ordinary hosted
  | recovery delay generation outcome =>
      obtain ⟨working, hosted, _⟩ := owned.completesWorker found rfl
      obtain ⟨removed, ordinary⟩ := ladders.ofWorker index working
      exact handleRecoveryCompleted_ladders reading _ (by simpa using working.holder) removed
        ordinary hosted
  | recoveryValidation snapshot generation success =>
      obtain ⟨working, hosted, _⟩ := owned.completesWorker found rfl
      obtain ⟨removed, ordinary⟩ := ladders.ofWorker index working
      exact handleRecoveryValidationCompleted_ladders reading _ (by simpa using working.holder)
        removed ordinary hosted
  | resetStagedApplyState generation success =>
      have like := removeTask_like found rfl (by simp)
      exact handleResetCompleted_ladders _ (ladders.same rfl like.current rfl rfl)
  | verification request topology target delay purpose generation success =>
      by_cases current : generation = world.ports.generation
      · subst current
        obtain ⟨checking, awaited, idle⟩ := owned.completesCheck found rfl
        exact handleVerificationCompleted_ladders _ ladders checking awaited rfl rfl (by simp)
          idle
      · have like := removeTask_like found rfl (by simpa using current)
        have unmoved : (world.removeTask index).advance.Ladders :=
          ladders.same rfl like.current rfl rfl
        simpa [dispatchMessage, handleVerificationCompleted, current] using unmoved

/-- The event restarts an APPLY under a pending disconnect check. -/
def overtakes (reading : Reading) (world : World) : Event → Bool
  | .deliver (.displayEvent event) => world.overtakesCheck reading event
  | _ => false

theorem dispatchMessage_ladders (reading : Reading) {message : Message} {world : World}
    (owned : world.Owned) (ladders : world.Ladders) (external : message.isExternal = true)
    (heeds : world.overtakes reading (.deliver message) = false) :
    (world.advance.dispatchMessage reading message).world.Ladders := by
  have owned := world.advance_kept.owned owned
  have ladders : world.advance.Ladders := ladders.same rfl rfl rfl rfl
  cases message with
  | apply command => exact handleApplyCommand_ladders reading command ladders
  | revert command => exact handleRevertCommand_ladders reading command owned ladders
  | disarm command => exact handleDisarmCommand_ladders reading command ladders
  | exportGolden command => exact handleExportGolden_ladders reading command ladders
  | snapshotCurrent command => exact handleSnapshotCurrent_ladders reading command ladders
  | refreshRate command => exact handleRefreshRateCommand_ladders reading command owned ladders
  | reset command => exact handleResetCommand_ladders reading command ladders
  | ping command => exact handlePingCommand_ladders reading command ladders
  | stop command => exact handleStopCommand_ladders reading command ladders
  | displayEvent event => exact handleDisplayEvent_ladders reading event owned ladders heeds
  | helperEvent event => exact handleHelperEvent_ladders reading event owned ladders
  | applyCompleted _ => simp [Message.isExternal] at external
  | verificationCompleted _ => simp [Message.isExternal] at external
  | resetCompleted _ => simp [Message.isExternal] at external
  | refreshRateCompleted _ => simp [Message.isExternal] at external
  | recoveryCompleted _ => simp [Message.isExternal] at external
  | recoveryValidationCompleted _ => simp [Message.isExternal] at external

theorem dispatchEvent_ladders (reading : Reading) (event : Event) {world : World}
    (owned : world.Owned) (ladders : world.Ladders) (heeds : world.overtakes reading event = false) :
    (world.dispatchEvent reading event).world.Ladders := by
  have advanced : world.advance.Ladders := ladders.same rfl rfl rfl rfl
  cases event with
  | deliver message =>
      simp only [dispatchEvent]
      split
      next external => exact dispatchMessage_ladders reading owned ladders external heeds
      · exact ladders
  | complete index outcome =>
      simp only [dispatchEvent]
      split
      · exact ladders
      next message posted => exact dispatchCompletion_ladders reading owned ladders posted
  | restoreAttempted =>
      simp only [dispatchEvent, markRestoreAttempted]
      split
      · exact ladders.same rfl rfl rfl rfl
      · exact ladders
  | tick => exact handleTick_ladders reading advanced
  | beginTransientDisconnectSettlement =>
      exact beginTransientDisconnectSettlement_ladders reading
        (world.advance_kept.owned owned) advanced

theorem drainOne_ladders (environment : Environment) {world : World}
    (command : DeferredMutationCommand) (rest : List DeferredMutationCommand)
    (owned : world.Owned) (ladders : world.Ladders) :
    (world.drainOne environment command rest).Ladders :=
  handleDeferred_ladders _ command (popDeferred_owned command rest owned)
    (ladders.same rfl rfl rfl rfl)

theorem conclude_ladders (epilogue : Epilogue) {world : World} (ladders : world.Ladders) :
    (conclude epilogue world).Ladders := by
  cases epilogue with
  | nothing => exact ladders
  | exitOnceReset =>
      simp only [conclude, exitOnceReset]
      split
      · exact ladders.same rfl rfl rfl rfl
      · exact ladders
  | exitAfterRecovery superseded =>
      simp only [conclude, exitAfterRecovery]
      split
      · exact ladders.same rfl rfl rfl rfl
      · split
        · exact ladders
        · exact ladders.same rfl rfl rfl rfl

end World

end UmbraHost.DisplayHelper
