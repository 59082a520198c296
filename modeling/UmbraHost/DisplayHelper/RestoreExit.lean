import UmbraHost.DisplayHelper.DeferredQueue
import UmbraHost.DisplayHelper.Ownership
import UmbraHost.DisplayHelper.QuietHandlers

/-! # The exit of a confirmed restore

A confirmed recovery exits the helper, at once or when the staged-state reset that is
pending or queued has completed.  A command that was queued meanwhile takes the exit
back.  While the exit waits, the pending reset is all that holds the machine. -/

namespace UmbraHost.DisplayHelper

open Queue (enqueue)

namespace World

/-! ## Confirming and exiting -/

/-- The validation that confirms a recovery. -/
def confirmsMessage (world : World) : Message → Bool
  | .recoveryValidationCompleted completed =>
      world.ownsActiveWorker .recovery completed.generation && !world.isStale completed.generation &&
        completed.success
  | _ => false

def confirms (event : Event) (world : World) : Bool :=
  match event with
  | .complete index outcome => (world.completionMessage index outcome).any world.confirmsMessage
  | _ => false

/-- The exit callback is invoked with code 0 behind the drain of the two handlers. -/
def Ending.exits (environment : Environment) : Ending → Bool
  | .returns _ => false
  | .drains world epilogue =>
      (conclude epilogue (world.drainDeferredMutationCommands environment)).ports.effects ==
        (world.drainDeferredMutationCommands environment).ports.effects ++ [.exit 0]

def exitsAfterRestore (environment : Environment) (event : Event) (world : World) : Bool :=
  (world.dispatchEvent (environment world.ports.moment) event).exits environment

def Ending.epilogue : Ending → Epilogue
  | .returns _ => .nothing
  | .drains _ epilogue => epilogue

/-! ## Handlers that do not decide an exit -/

theorem settleSuccessfulApply_epilogue (world : World) :
    world.settleSuccessfulApply.epilogue = .nothing := by
  simp only [settleSuccessfulApply]
  split
  · split <;> rfl
  · rfl

theorem concludeFailedApply_epilogue (completed : ApplyCompleted) (world : World) :
    (world.concludeFailedApply completed).epilogue = .nothing := by
  simp only [concludeFailedApply]
  split <;> rfl

theorem retryFailedApply_epilogue (completed : ApplyCompleted) (world : World) :
    (world.retryFailedApply completed).epilogue = .nothing := by
  simp only [retryFailedApply]
  split
  · rfl
  · split
    · rfl
    · exact world.concludeFailedApply_epilogue completed

theorem settleApply_epilogue (reading : Reading) (completed : ApplyCompleted) (world : World) :
    (world.settleApply reading completed).epilogue = .nothing := by
  simp only [settleApply]
  split
  · exact settleSuccessfulApply_epilogue _
  · simp only [settleFailedApply]
    split
    · rfl
    · simp only [settleOrRetryFailedApply]
      split
      · split
        · rfl
        · exact retryFailedApply_epilogue completed _
      · exact retryFailedApply_epilogue completed _

theorem handleApplyCompleted_epilogue (reading : Reading) (completed : ApplyCompleted)
    (world : World) : (world.handleApplyCompleted reading completed).epilogue = .nothing := by
  simp only [handleApplyCompleted]
  split
  · split
    · rfl
    · exact settleApply_epilogue reading completed _
  · rfl

theorem handleRefreshRateCompleted_epilogue (completed : RefreshRateCompleted) (world : World) :
    (world.handleRefreshRateCompleted completed).epilogue = .nothing := by
  simp only [handleRefreshRateCompleted]
  split
  · split <;> rfl
  · rfl

theorem handleRecoveryCompleted_epilogue (reading : Reading) (completed : RecoveryCompleted)
    (world : World) : (world.handleRecoveryCompleted reading completed).epilogue = .nothing := by
  simp only [handleRecoveryCompleted]
  split
  · split
    · split <;> rfl
    · split <;> rfl
  · rfl

/-- The messages of the two handlers that decide an exit. -/
def decidesExit (world : World) : Message → Bool
  | .resetCompleted _ => true
  | message => world.confirmsMessage message

/-- Any other message leaves the flag alone and has no epilogue. -/
theorem dispatchMessage_undecided (reading : Reading) {message : Message} (world : World)
    (other : world.decidesExit message = false) :
    (world.dispatchMessage reading message).epilogue = .nothing ∧
      (world.dispatchMessage reading message).world.fence.exitAfterStagedStateReset =
        world.fence.exitAfterStagedStateReset := by
  cases message with
  | apply command => exact ⟨rfl, handleApplyCommand_exit reading command world⟩
  | revert command => exact ⟨rfl, (handleRevertCommand_quiet reading command world).exit⟩
  | disarm command => exact ⟨rfl, (handleDisarmCommand_quiet reading command world).exit⟩
  | exportGolden command =>
      refine ⟨rfl, ?_⟩
      simp only [dispatchMessage, handleExportGolden]
      split
      · rfl
      · split
        · rfl
        · split <;> simp
  | snapshotCurrent command =>
      refine ⟨rfl, ?_⟩
      simp only [dispatchMessage, handleSnapshotCurrent]
      split
      · rfl
      · split <;> simp
  | refreshRate command => exact ⟨rfl, (handleRefreshRateCommand_quiet reading command world).exit⟩
  | reset command => exact ⟨rfl, (handleResetCommand_quiet reading command world).exit⟩
  | ping command => exact ⟨rfl, (handlePingCommand_quiet reading command world).exit⟩
  | stop command => exact ⟨rfl, (handleStopCommand_quiet reading command world).exit⟩
  | applyCompleted completed =>
      exact ⟨handleApplyCompleted_epilogue reading completed world,
        (handleApplyCompleted_quiet reading completed world).exit⟩
  | verificationCompleted completed =>
      exact ⟨rfl, (handleVerificationCompleted_quiet completed world).exit⟩
  | resetCompleted _ => cases other
  | refreshRateCompleted completed =>
      exact ⟨handleRefreshRateCompleted_epilogue completed world,
        (handleRefreshRateCompleted_quiet completed world).exit⟩
  | recoveryCompleted completed =>
      exact ⟨handleRecoveryCompleted_epilogue reading completed world,
        (handleRecoveryCompleted_quiet reading completed world).exit⟩
  | recoveryValidationCompleted completed =>
      simp only [decidesExit, confirmsMessage] at other
      simp only [dispatchMessage, handleRecoveryValidationCompleted]
      split
      next owns =>
        split
        · exact ⟨rfl, by simp⟩
        next current =>
          split
          next success =>
            simp only [owns, success, Bool.true_and, Bool.and_true, Bool.not_eq_false'] at other
            exact absurd other current
          · exact ⟨rfl, by simp⟩
      · exact ⟨rfl, rfl⟩
  | displayEvent event => exact ⟨rfl, (handleDisplayEvent_quiet reading event world).exit⟩
  | helperEvent event => exact ⟨rfl, (handleHelperEvent_quiet reading event world).exit⟩

theorem drainLoop_exit (environment : Environment) (fuel : Nat) (world : World) :
    (drainLoop environment fuel world).fence.exitAfterStagedStateReset =
      world.fence.exitAfterStagedStateReset := by
  induction fuel generalizing world with
  | zero => rfl
  | succ fuel ih =>
      simp only [drainLoop]
      cases world.fence.deferredMutationCommands with
      | nil => rfl
      | cons command rest =>
          dsimp only
          split
          · rw [ih, drainOne, handleDeferred_exit]
            rfl
          · rfl

theorem finish_exit (environment : Environment) {ending : Ending}
    (nothing : ending.epilogue = .nothing) :
    (ending.finish environment).fence.exitAfterStagedStateReset =
      ending.world.fence.exitAfterStagedStateReset := by
  cases ending with
  | returns world => rfl
  | drains world epilogue =>
      obtain rfl : epilogue = .nothing := nothing
      exact drainLoop_exit environment _ world

/-! ## While the exit waits -/

/-- A REFRESH_RATE passes the guards of its handler; a pending reset is not among them. -/
def acceptsRefreshRate (reading : Reading) (command : RefreshRateCommand) (world : World) : Bool :=
  !reading.isStaleConnection command.connectionEpoch &&
    !(command.deviceId.isEmpty || command.numerator == 0 || command.denominator == 0) &&
    !(world.applyInFlight || world.restorePending) &&
    !(world.settling.postApplyCheckPending && !world.refreshTargetsActiveRequest command.deviceId)

/-- A disconnect settlement goes on to its checks. -/
def settlesDisconnect (reading : Reading) (world : World) : Bool :=
  world.shouldDeferDisconnectRecovery reading &&
    world.session.currentRequest.configuration.isSome &&
    !world.settling.transientDisconnectSettlementRequested

/-- Work is started that the exit does not wait for. -/
def worksBesideExit (reading : Reading) (event : Event) (world : World) : Bool :=
  world.fence.exitAfterStagedStateReset &&
    match event with
    | .deliver (.refreshRate command) => world.acceptsRefreshRate reading command
    | .beginTransientDisconnectSettlement => world.settlesDisconnect reading
    | _ => false

/-- A recovery is confirmed with only RESETs queued, and its drain takes them up from
retired connections alone: the exit waits for a reset that nobody has started. -/
def strandsExit (environment : Environment) (event : Event) (world : World) : Bool :=
  world.confirms event && !world.hasDeferredIntent &&
    !(world.takeUps environment event).isEmpty &&
    (world.takeUps environment event).all fun takeUp =>
      takeUp.world.refuses takeUp.reading takeUp.command

/-- Only the pending reset holds the machine. -/
structure Parked (world : World) : Prop where
  pending : world.fence.stagedStateResetPending = true
  state : world.fence.state = .waiting
  idle : world.custody.Idle
  unarmed : world.lease.recoveryArmed = false

theorem Parked.same {before after : World} (parked : before.Parked)
    (pending : after.fence.stagedStateResetPending = before.fence.stagedStateResetPending)
    (state : after.fence.state = before.fence.state) (custody : after.custody = before.custody)
    (armed : after.lease.recoveryArmed = before.lease.recoveryArmed) : after.Parked where
  pending := pending.trans parked.pending
  state := state.trans parked.state
  idle := custody ▸ parked.idle
  unarmed := armed.trans parked.unarmed

theorem Parked.advance {world : World} (parked : world.Parked) : world.advance.Parked :=
  parked.same rfl rfl rfl rfl

theorem Parked.down {world : World} (parked : world.Parked) :
    world.fence.activeMutationWorker = none :=
  parked.idle.worker

theorem handleApplyCommand_parked (reading : Reading) (command : ApplyCommand) {world : World}
    (parked : world.Parked) : (world.handleApplyCommand reading command).Parked := by
  simp only [handleApplyCommand]
  split
  · exact parked
  · split
    next up => exact absurd parked.down (by simpa [Option.isSome_iff_ne_none] using up)
    · split
      · exact parked.same (by simp) (by simp) (by simp) (by simp)
      next settled => exact absurd parked.pending settled

theorem handleRevertCommand_parked (reading : Reading) (command : RevertCommand) {world : World}
    (parked : world.Parked) : (world.handleRevertCommand reading command).Parked := by
  have noted : (world.noteRevert command).Parked := parked.same (by simp) (by simp) (by simp) (by simp)
  simp only [handleRevertCommand]
  split
  · exact parked
  · split
    · exact noted
    · split
      next up => exact absurd noted.down (by simpa [Option.isSome_iff_ne_none] using up)
      · split
        · exact noted.same (by simp) (by simp) (by simp) (by simp)
        next settled => exact absurd noted.pending settled

theorem handleDisarmCommand_parked (reading : Reading) (command : DisarmCommand) {world : World}
    (parked : world.Parked) : (world.handleDisarmCommand reading command).Parked := by
  simp only [handleDisarmCommand]
  split
  · exact parked
  · split
    · exact parked
    · split
      · exact parked.same (by simp) (by simp) (by simp) (by simp)
      next settled => exact absurd parked.pending settled

theorem handleResetCommand_parked (reading : Reading) (command : ResetCommand) {world : World}
    (parked : world.Parked) : (world.handleResetCommand reading command).Parked := by
  simp only [handleResetCommand]
  split
  · exact parked
  · split
    · exact parked.same (by simp) (by simp) (by simp) (by simp)
    next settled => exact absurd parked.pending settled

theorem handleRefreshRateCommand_parked (reading : Reading) (command : RefreshRateCommand)
    {world : World} (parked : world.Parked)
    (refused : world.acceptsRefreshRate reading command = false) :
    (world.handleRefreshRateCommand reading command).Parked := by
  simp only [handleRefreshRateCommand]
  split
  · exact parked
  next live =>
    split
    · exact parked.same (by simp) (by simp) (by simp) (by simp)
    next named =>
      split
      · exact parked.same (by simp) (by simp) (by simp) (by simp)
      next free =>
        split
        · exact parked.same (by simp) (by simp) (by simp) (by simp)
        next unchecked =>
          simp only [acceptsRefreshRate] at refused
          simp only [Bool.not_eq_true] at live named free unchecked
          simp only [live, named, free, unchecked] at refused
          cases refused

theorem dispatchMessage_parked (reading : Reading) {message : Message} {world : World}
    (parked : world.Parked) (external : message.isExternal = true)
    (refused : ∀ command, message = .refreshRate command →
      world.acceptsRefreshRate reading command = false) :
    ∃ after, world.dispatchMessage reading message = .returns after ∧ after.Parked := by
  cases message with
  | apply command => exact ⟨_, rfl, handleApplyCommand_parked reading command parked⟩
  | revert command => exact ⟨_, rfl, handleRevertCommand_parked reading command parked⟩
  | disarm command => exact ⟨_, rfl, handleDisarmCommand_parked reading command parked⟩
  | reset command => exact ⟨_, rfl, handleResetCommand_parked reading command parked⟩
  | refreshRate command =>
      exact ⟨_, rfl, handleRefreshRateCommand_parked reading command parked (refused command rfl)⟩
  | exportGolden command =>
      refine ⟨_, rfl, ?_⟩
      simp only [handleExportGolden]
      split
      · exact parked
      · split
        · exact parked
        · split
          · exact parked.same (by simp) (by simp) (by simp) (by simp)
          · exact parked.same (by simp) (by simp) (by simp) (by simp)
  | snapshotCurrent command =>
      refine ⟨_, rfl, ?_⟩
      simp only [handleSnapshotCurrent]
      split
      · exact parked
      · split
        · exact parked.same (by simp) (by simp) (by simp) (by simp)
        · exact parked.same (by simp) (by simp) (by simp) (by simp)
  | ping command =>
      refine ⟨_, rfl, ?_⟩
      simp only [handlePingCommand]
      split
      · exact parked
      · exact parked.same (by simp) (by simp) (by simp) (by simp)
  | stop command =>
      refine ⟨_, rfl, ?_⟩
      simp only [handleStopCommand]
      split
      · exact parked
      · exact parked.same (by simp) (by simp) (by simp) (by simp)
  | displayEvent event =>
      refine ⟨world, ?_, parked⟩
      simp only [dispatchMessage, handleDisplayEvent, parked.state, ite_self]
  | helperEvent event =>
      refine ⟨world, ?_, parked⟩
      simp only [dispatchMessage, handleHelperEvent, parked.unarmed, Bool.not_false, if_true, ite_self]
  | applyCompleted _ | verificationCompleted _ | resetCompleted _ | refreshRateCompleted _
  | recoveryCompleted _ | recoveryValidationCompleted _ => cases external

/-- The pending reset is the only task whose completion is not ignored. -/
theorem Parked.completes {world : World} {index : Nat} {outcome : Outcome} {message : Message}
    (parked : world.Parked) (posted : world.completionMessage index outcome = some message) :
    (world.removeTask index).advance.Parked ∧
      ((∃ completed, message = .resetCompleted completed) ∨
        ∃ completed, message = .verificationCompleted completed ∧
          world.isStale completed.generation = true) := by
  obtain ⟨task, found, completes⟩ := completionMessage_eq_some posted
  have owned : world.Owned := .idle parked.idle
  have readOnly : task.owner? = none := by
    cases owner : task.owner? with
    | none => rfl
    | some worker =>
        obtain ⟨working, _, _⟩ := owned.completesWorker found owner
        exact absurd (working.holder.symm.trans parked.down) (by simp)
  have stale : ∀ check, task.check? = some check → check.generation ≠ world.ports.generation := by
    rintro ⟨purpose, generation⟩ verifies rfl
    obtain ⟨checking, _, _⟩ := owned.completesCheck found verifies
    have none := checking.current.symm.trans parked.idle.current
    simp at none
  have removed : (world.removeTask index).advance.Parked :=
    ⟨parked.pending, parked.state, (removeTask_like found readOnly stale).idle parked.idle,
      parked.unarmed⟩
  refine ⟨removed, ?_⟩
  cases completes with
  | resetStagedApplyState generation success =>
      exact .inl ⟨_, rfl⟩
  | verification request topology target delay purpose generation success =>
      exact .inr ⟨_, rfl, by simpa using stale _ rfl⟩
  | apply | refreshRate | recovery | recoveryValidation => cases readOnly

/-- The completion of the reset that the exit waits for. -/
def completesReset (event : Event) (world : World) : Bool :=
  match event with
  | .complete index outcome =>
      (world.completionMessage index outcome).any fun
        | .resetCompleted _ => true
        | _ => false
  | _ => false

/-- Every other event leaves the machine parked, without a drain. -/
theorem dispatchEvent_parked (reading : Reading) {event : Event} {world : World}
    (parked : world.Parked) (waits : world.fence.exitAfterStagedStateReset = true)
    (other : world.completesReset event = false)
    (alone : world.worksBesideExit reading event = false) :
    ∃ after, world.dispatchEvent reading event = .returns after ∧ after.Parked := by
  simp only [worksBesideExit, waits, Bool.true_and] at alone
  cases event with
  | deliver message =>
      simp only [dispatchEvent]
      split
      next external =>
        refine dispatchMessage_parked reading parked.advance external ?_
        rintro command rfl
        exact alone
      · exact ⟨world, rfl, parked⟩
  | complete index outcome =>
      simp only [completesReset] at other
      simp only [dispatchEvent]
      cases posted : world.completionMessage index outcome with
      | none => exact ⟨world, rfl, parked⟩
      | some message =>
          obtain ⟨removed, resets | ⟨completed, rfl, stale⟩⟩ := parked.completes posted
          · obtain ⟨completed, rfl⟩ := resets
            rw [posted] at other
            cases other
          · refine ⟨(world.removeTask index).advance, ?_, removed⟩
            have stale : (world.removeTask index).advance.isStale completed.generation = true := stale
            simp only [dispatchMessage, handleVerificationCompleted, stale, if_true]
  | restoreAttempted =>
      refine ⟨_, rfl, ?_⟩
      simp only [markRestoreAttempted]
      split
      · exact parked.same rfl rfl rfl rfl
      · exact parked
  | tick =>
      refine ⟨_, rfl, ?_⟩
      have elsewhere : world.advance.fence.state ≠ .eventLoop := by
        rw [parked.advance.state]
        simp
      rw [handleTick, if_pos (.inl elsewhere)]
      exact parked.advance
  | beginTransientDisconnectSettlement =>
      refine ⟨_, rfl, ?_⟩
      simp only [beginTransientDisconnectSettlement]
      split
      · exact parked.advance
      next defers =>
        split
        · exact parked.advance
        next fresh =>
          have settles : world.settlesDisconnect reading = true := by
            simp only [Bool.or_eq_true, not_or, Bool.not_eq_true, Bool.not_eq_false'] at defers
            simp only [Bool.not_eq_true] at fresh
            have fresh : world.settling.transientDisconnectSettlementRequested = false := fresh
            have defer : world.shouldDeferDisconnectRecovery reading = true := defers.1
            simp only [settlesDisconnect, defer, fresh, Bool.true_and, Bool.not_false, Bool.and_true]
            simpa using defers.2
          rw [settles] at alone
          cases alone

/-! ## Draining RESETs -/

/-- Nothing is under way and nothing but RESETs waits. -/
structure ResetsOnly (world : World) : Prop where
  state : world.fence.state = .waiting
  idle : world.custody.Idle
  unarmed : world.lease.recoveryArmed = false
  resets : world.hasDeferredIntent = false

theorem ResetsOnly.parked {world : World} (only : world.ResetsOnly)
    (pending : world.fence.stagedStateResetPending = true) : world.Parked :=
  ⟨pending, only.state, only.idle, only.unarmed⟩

theorem ResetsOnly.front {world : World} {command : DeferredMutationCommand}
    {rest : List DeferredMutationCommand} (only : world.ResetsOnly)
    (queue : world.fence.deferredMutationCommands = command :: rest) :
    (∃ reset, command = .reset reset) ∧ rest.any (!·.isReset) = false := by
  have resets := only.resets
  simp only [hasDeferredIntent, queue, List.any_cons, Bool.or_eq_false_iff] at resets
  refine ⟨?_, resets.2⟩
  cases command with
  | reset reset => exact ⟨reset, rfl⟩
  | apply _ | revert _ | disarm _ => cases resets.1

/-- A RESET of a live connection starts the reset; one of a retired connection is
dropped. -/
theorem ResetsOnly.drainOne {world : World} (only : world.ResetsOnly) (environment : Environment)
    (reset : ResetCommand) {rest : List DeferredMutationCommand} (down : world.fenceDown = true)
    (resets : rest.any (!·.isReset) = false) :
    (world.drainOne environment (.reset reset) rest).ResetsOnly ∧
      ((world.drainOne environment (.reset reset) rest).fence.stagedStateResetPending =
        !(environment world.ports.moment).isStaleConnection reset.connectionEpoch) := by
  simp only [fenceDown, mutationWorkerActive, Bool.and_eq_true, Bool.not_eq_true'] at down
  obtain ⟨lowered, settled⟩ := down
  have popped : (world.popDeferred (.reset reset) rest).advance.ResetsOnly :=
    ⟨only.state, only.idle, only.unarmed, resets⟩
  simp only [World.drainOne, handleDeferred, handleResetCommand]
  split
  next stale =>
    refine ⟨popped, ?_⟩
    rw [stale]
    exact settled
  next live =>
    have unpending : (world.popDeferred (.reset reset) rest).advance.fence.stagedStateResetPending =
      false := settled
    have free : (world.popDeferred (.reset reset) rest).advance.mutationWorkerActive = false := lowered
    simp only [Bool.not_eq_true] at live
    simp only [unpending, free, Bool.false_eq_true, if_false, live, Bool.not_false]
    refine ⟨⟨?_, ?_, ?_, ?_⟩, by simp⟩
    · exact (by simp : _ = world.fence.state).trans only.state
    · exact Custody.Like.idle ⟨by simp, by simp, by simp, by simp [Custody.current], by simp⟩ only.idle
    · exact (by simp : _ = world.lease.recoveryArmed).trans only.unarmed
    · exact (by simp [hasDeferredIntent] : _ = rest.any (!·.isReset)).trans resets

/-- The drain stops at the first RESET that starts, and drops the others. -/
theorem ResetsOnly.drainLoop {world : World} (only : world.ResetsOnly) (environment : Environment)
    (fuel : Nat) :
    (World.drainLoop environment fuel world).ResetsOnly ∧
      ((World.drainLoop environment fuel world).fence.stagedStateResetPending = true ↔
        world.fence.stagedStateResetPending = true ∨
          ∃ takeUp ∈ drainTakeUps environment fuel world,
            takeUp.world.refuses takeUp.reading takeUp.command = false) := by
  induction fuel generalizing world with
  | zero => exact ⟨only, by simp [World.drainLoop, drainTakeUps]⟩
  | succ fuel ih =>
      simp only [World.drainLoop, drainTakeUps]
      cases queue : world.fence.deferredMutationCommands with
      | nil => exact ⟨only, by simp⟩
      | cons command rest =>
          obtain ⟨⟨reset, rfl⟩, resets⟩ := only.front queue
          dsimp only
          split
          next down =>
            obtain ⟨next, pending⟩ := only.drainOne environment reset down resets
            obtain ⟨later, iff⟩ := ih next
            refine ⟨later, iff.trans ?_⟩
            have settled : world.fence.stagedStateResetPending = false := by
              simp only [fenceDown, Bool.and_eq_true, Bool.not_eq_true'] at down
              exact down.2
            rw [pending, settled, List.exists_mem_cons_iff]
            simp [refuses]
          · exact ⟨only, by simp⟩

/-! ## Behind the drain -/

theorem exits_exitOnceReset (environment : Environment) (world : World) :
    Ending.exits environment (.drains world .exitOnceReset) =
      ((world.drainDeferredMutationCommands environment).fence.exitAfterStagedStateReset &&
        !(world.drainDeferredMutationCommands environment).fence.stagedStateResetPending) := by
  generalize drained : world.drainDeferredMutationCommands environment = after
  simp only [Ending.exits, drained, conclude, exitOnceReset]
  cases exits : after.fence.exitAfterStagedStateReset &&
    !after.fence.stagedStateResetPending <;> simp

theorem exits_exitAfterRecovery (environment : Environment) (world : World) (superseded : Bool) :
    Ending.exits environment (.drains world (.exitAfterRecovery superseded)) =
      (!superseded &&
        !(world.drainDeferredMutationCommands environment).fence.exitAfterStagedStateReset) := by
  generalize drained : world.drainDeferredMutationCommands environment = after
  simp only [Ending.exits, drained, conclude, exitAfterRecovery]
  cases superseded with
  | true => simp
  | false => cases after.fence.exitAfterStagedStateReset <;> simp

theorem exits_of_epilogue (environment : Environment) {ending : Ending}
    (nothing : ending.epilogue = .nothing) : ending.exits environment = false := by
  cases ending with
  | returns world => rfl
  | drains world epilogue =>
      obtain rfl : epilogue = .nothing := nothing
      simp [Ending.exits, conclude]

/-- What a step does about the exit. -/
structure ExitKept (environment : Environment) (event : Event) (world : World) : Prop where
  waits : (world.step environment event).fence.exitAfterStagedStateReset = true →
    (world.step environment event).Parked
  exits : world.exitsAfterRestore environment event = true →
    world.hasDeferredIntent = false ∧ (world.step environment event).hasDeferredIntent = false ∧
      (world.step environment event).fence.activeMutationWorker = none ∧
      (world.step environment event).fence.stagedStateResetPending = false
  cancelled : world.hasDeferredIntent = true →
    world.fence.exitAfterStagedStateReset = true ∨ world.confirms event = true →
    (world.step environment event).fence.exitAfterStagedStateReset = false ∨
      (world.step environment event).hasDeferredIntent = true

/-! ### The reset that the exit waits for -/

theorem handleResetCompleted_of_failed {completed : ResetCompleted} {world : World}
    (waits : world.fence.exitAfterStagedStateReset = true) (failed : completed.success = false) :
    ∃ after, world.handleResetCompleted completed = .returns after ∧
      after.fence.exitAfterStagedStateReset = false ∧ .exit 1 ∈ after.ports.effects := by
  rw [handleResetCompleted, waits, failed]
  exact ⟨_, rfl, by simp, by simp⟩

/-- The state that a completed reset drains. -/
def landReset (completed : ResetCompleted) (world : World) : World :=
  { world with
    fence := { world.fence with
      stagedStateResetPending := false
      exitAfterStagedStateReset :=
        world.fence.exitAfterStagedStateReset && !world.hasDeferredIntent }
    lease := { world.lease with
      stagedStatePrepared := world.lease.stagedStatePrepared && !completed.success } }

theorem handleResetCompleted_of_continues {completed : ResetCompleted} {world : World}
    (continues : (world.fence.exitAfterStagedStateReset && !completed.success) = false) :
    world.handleResetCompleted completed = .drains (world.landReset completed) .exitOnceReset := by
  rw [handleResetCompleted, if_neg (by simp only [continues]; simp)]
  rfl

theorem Parked.landReset {world : World} (parked : world.Parked) (completed : ResetCompleted)
    (resets : world.hasDeferredIntent = false) : (world.landReset completed).ResetsOnly :=
  ⟨parked.state, parked.idle, parked.unarmed, resets⟩

/-- A drain of RESETs that ends in the exit, or leaves the machine parked. -/
theorem ResetsOnly.finish_exitOnceReset {world : World} (only : world.ResetsOnly)
    (environment : Environment) :
    let after := Ending.finish environment (.drains world .exitOnceReset)
    after.hasDeferredIntent = false ∧ after.fence.activeMutationWorker = none ∧
      (after.fence.exitAfterStagedStateReset = true → after.Parked) ∧
      (Ending.exits environment (.drains world .exitOnceReset) = true →
        after.fence.stagedStateResetPending = false) := by
  have drained := (only.drainLoop environment world.fence.deferredMutationCommands.length).1
  change (world.drainDeferredMutationCommands environment).ResetsOnly at drained
  rw [exits_exitOnceReset]
  simp only [Ending.finish, conclude, exitOnceReset]
  generalize world.drainDeferredMutationCommands environment = after at drained ⊢
  split
  next exits =>
    simp only [Bool.and_eq_true, Bool.not_eq_true'] at exits
    refine ⟨drained.resets, drained.idle.worker, ?_, fun _ => exits.2⟩
    intro still
    simp at still
  next stays =>
    refine ⟨drained.resets, drained.idle.worker, fun waits => drained.parked ?_, fun exits => ?_⟩
    · simpa [waits] using stays
    · exact absurd exits stays

/-- A drain after which the helper does not exit by itself. -/
theorem finish_exitOnceReset_of_taken {world : World} (environment : Environment)
    (taken : world.fence.exitAfterStagedStateReset = false) :
    (Ending.finish environment (.drains world .exitOnceReset)).fence.exitAfterStagedStateReset =
        false ∧ Ending.exits environment (.drains world .exitOnceReset) = false := by
  have drained : (world.drainDeferredMutationCommands environment).fence.exitAfterStagedStateReset =
      false := (drainLoop_exit environment _ world).trans taken
  rw [exits_exitOnceReset, drained]
  refine ⟨?_, rfl⟩
  simp only [Ending.finish, conclude, exitOnceReset, drained, Bool.false_and, Bool.false_eq_true,
    if_false]

theorem dispatchEvent_of_completesReset {event : Event} {world : World}
    (completes : world.completesReset event = true) :
    ∃ index outcome completed, event = .complete index outcome ∧
      world.completionMessage index outcome = some (.resetCompleted completed) := by
  cases event with
  | complete index outcome =>
      simp only [completesReset] at completes
      cases posted : world.completionMessage index outcome with
      | none => simp [posted] at completes
      | some message =>
          cases message with
          | resetCompleted completed => exact ⟨index, outcome, completed, rfl, posted⟩
          | _ => simp [posted] at completes
  | _ => cases completes

/-- A step that leaves the flag down decides nothing more. -/
theorem ExitKept.of_taken {environment : Environment} {event : Event} {world : World}
    (taken : (world.step environment event).fence.exitAfterStagedStateReset = false)
    (stays : world.exitsAfterRestore environment event = false) :
    ExitKept environment event world where
  waits := fun waits => absurd (taken.symm.trans waits) (by simp)
  exits := fun exits => absurd (stays.symm.trans exits) (by simp)
  cancelled := fun _ _ => .inl taken

theorem exitKept_of_completesReset {environment : Environment} {event : Event} {world : World}
    (completes : world.completesReset event = true)
    (parks : world.fence.exitAfterStagedStateReset = true → world.Parked) :
    ExitKept environment event world := by
  obtain ⟨index, outcome, completed, rfl, posted⟩ := dispatchEvent_of_completesReset completes
  have handled : world.dispatchEvent (environment world.ports.moment) (.complete index outcome) =
      (world.removeTask index).advance.handleResetCompleted completed := by
    simp only [dispatchEvent, posted, dispatchMessage]
  have stepped : world.step environment (.complete index outcome) =
      ((world.removeTask index).advance.handleResetCompleted completed).finish environment := by
    rw [step, handled]
  have exits : world.exitsAfterRestore environment (.complete index outcome) =
      ((world.removeTask index).advance.handleResetCompleted completed).exits environment := by
    rw [exitsAfterRestore, handled]
  cases waits : world.fence.exitAfterStagedStateReset with
  | false =>
      have continues : ((world.removeTask index).advance.fence.exitAfterStagedStateReset &&
          !completed.success) = false := by
        change (world.fence.exitAfterStagedStateReset && _) = false
        rw [waits, Bool.false_and]
      rw [handleResetCompleted_of_continues continues] at stepped exits
      have down : ((world.removeTask index).advance.landReset
          completed).fence.exitAfterStagedStateReset = false := by
        change (world.fence.exitAfterStagedStateReset && _) = false
        rw [waits, Bool.false_and]
      obtain ⟨taken, stays⟩ := finish_exitOnceReset_of_taken environment down
      exact .of_taken (by rw [stepped, taken]) (by rw [exits, stays])
  | true =>
      obtain ⟨removed, _⟩ := (parks waits).completes posted
      cases succeeds : completed.success with
      | false =>
          obtain ⟨after, retired, taken, _⟩ := handleResetCompleted_of_failed
            (show (world.removeTask index).advance.fence.exitAfterStagedStateReset = true from waits)
            succeeds
          rw [retired] at stepped exits
          exact .of_taken (by rw [stepped]; exact taken) (by rw [exits]; rfl)
      | true =>
          have continues : ((world.removeTask index).advance.fence.exitAfterStagedStateReset &&
              !completed.success) = false := by
            rw [succeeds, Bool.not_true, Bool.and_false]
          rw [handleResetCompleted_of_continues continues] at stepped exits
          cases intent : world.hasDeferredIntent with
          | true =>
              have down : ((world.removeTask index).advance.landReset
                  completed).fence.exitAfterStagedStateReset = false := by
                change (_ && !world.hasDeferredIntent) = false
                rw [intent, Bool.not_true, Bool.and_false]
              obtain ⟨taken, stays⟩ := finish_exitOnceReset_of_taken environment down
              exact .of_taken (by rw [stepped, taken]) (by rw [exits, stays])
          | false =>
              obtain ⟨resets, lowered, parked, settled⟩ :=
                (removed.landReset completed intent).finish_exitOnceReset environment
              refine ⟨?_, ?_, fun has => absurd (intent.symm.trans has) (by simp)⟩
              · rw [stepped]
                exact parked
              · rw [exits, stepped]
                exact fun exits => ⟨intent, resets, lowered, settled exits⟩

/-! ### The confirmed recovery -/

theorem dispatchEvent_of_confirms {event : Event} {world : World} (owned : world.Owned)
    (confirms : world.confirms event = true) (reading : Reading) :
    ∃ restored : World, restored.custody.Idle ∧ restored.fence.deferredMutationCommands =
        world.fence.deferredMutationCommands ∧
      world.dispatchEvent reading event =
        .drains restored.concludeRecovery
          (.exitAfterRecovery (restored.hasDeferredIntent && !restored.stagedStateResetFailed)) ∧
      world.arrivals reading event = [] := by
  cases event with
  | complete index outcome =>
      simp only [World.confirms] at confirms
      cases posted : world.completionMessage index outcome with
      | none => simp [posted] at confirms
      | some message =>
          cases message with
          | recoveryValidationCompleted completed =>
              simp only [posted, Option.any_some, confirmsMessage, Bool.and_eq_true,
                Bool.not_eq_true'] at confirms
              obtain ⟨⟨owns, current⟩, success⟩ := confirms
              obtain ⟨task, found, completes⟩ := completionMessage_eq_some posted
              have worker : ∃ worker, task.owner? = some worker := by
                cases completes
                exact ⟨_, rfl⟩
              obtain ⟨worker, mutates⟩ := worker
              obtain ⟨_, _, idle⟩ := owned.completesWorker found mutates
              refine ⟨(world.removeTask index).advance.setActiveMutationWorker none, idle, rfl, ?_,
                rfl⟩
              have owns : (world.removeTask index).advance.ownsActiveWorker .recovery
                completed.generation = true := owns
              have current : (world.removeTask index).advance.isStale completed.generation = false :=
                current
              simp only [dispatchEvent, posted, dispatchMessage, handleRecoveryValidationCompleted,
                owns, current, success, if_true, Bool.false_eq_true, if_false]
          | _ => simp [posted, confirmsMessage] at confirms
  | _ => cases confirms

theorem concludeRecovery_custody (world : World) :
    world.concludeRecovery.custody.Like world.custody :=
  ⟨by simp, by simp, by simp, by simp [Custody.current], by simp⟩

theorem concludeRecovery_fence (world : World) :
    world.concludeRecovery.fence.state = .waiting ∧
      world.concludeRecovery.fence.stagedStateResetPending =
        (world.fence.stagedStateResetPending || world.stagedStateResetFailed) ∧
      world.concludeRecovery.fence.deferredMutationCommands =
        world.fence.deferredMutationCommands ∧
      world.concludeRecovery.fence.exitAfterStagedStateReset =
        (world.concludeRecovery.fence.stagedStateResetPending ||
          world.fence.deferredMutationCommands.any DeferredMutationCommand.isReset) ∧
      world.concludeRecovery.lease.recoveryArmed = false := by
  exact ⟨by simp, by simp [stagedStateResetFailed], by simp, by simp [stagedStateResetFailed],
    by simp⟩

/-- A drain behind a pending reset takes nothing up. -/
theorem drainDeferred_of_pending {world : World} (environment : Environment)
    (pending : world.fence.stagedStateResetPending = true) :
    world.drainDeferredMutationCommands environment = world := by
  unfold drainDeferredMutationCommands
  cases queue : world.fence.deferredMutationCommands with
  | nil => rfl
  | cons command rest =>
      have up : world.fenceDown = false := by simp [pending]
      simp only [List.length_cons, drainLoop, queue, up, Bool.false_eq_true, if_false]

theorem ResetsOnly.empty {world : World} (only : world.ResetsOnly)
    (none : world.fence.deferredMutationCommands.any DeferredMutationCommand.isReset = false) :
    world.fence.deferredMutationCommands = [] := by
  rw [List.eq_nil_iff_forall_not_mem]
  intro command member
  have reset := List.any_eq_false.mp none command member
  have intent := List.any_eq_false.mp only.resets command member
  simp [reset] at intent

/-- A RESET that waits is started, unless the drain drops them all. -/
theorem ResetsOnly.starts {world : World} (only : world.ResetsOnly) (environment : Environment)
    (waits : world.fence.stagedStateResetPending = true ∨
      world.fence.deferredMutationCommands.any DeferredMutationCommand.isReset = true)
    (started : (!(drainTakeUps environment world.fence.deferredMutationCommands.length
        world).isEmpty &&
      (drainTakeUps environment world.fence.deferredMutationCommands.length world).all fun takeUp =>
        takeUp.world.refuses takeUp.reading takeUp.command) = false) :
    world.fence.stagedStateResetPending = true ∨
      ∃ takeUp ∈ drainTakeUps environment world.fence.deferredMutationCommands.length world,
        takeUp.world.refuses takeUp.reading takeUp.command = false := by
  cases pending : world.fence.stagedStateResetPending with
  | true => exact .inl rfl
  | false =>
      right
      have queued := waits.resolve_left (by simp [pending])
      have lowered : world.fence.activeMutationWorker = none := only.idle.worker
      have taken : (drainTakeUps environment world.fence.deferredMutationCommands.length
          world).isEmpty = false := by
        cases queue : world.fence.deferredMutationCommands with
        | nil => simp [queue] at queued
        | cons command rest => simp [drainTakeUps, queue, pending, lowered]
      rw [taken, Bool.not_false, Bool.true_and] at started
      obtain ⟨takeUp, member, accepted⟩ := List.all_eq_false.mp started
      exact ⟨takeUp, member, by simpa using accepted⟩

theorem exitKept_of_confirms {environment : Environment} {event : Event} {world : World}
    (owned : world.Owned) (confirms : world.confirms event = true)
    (started : world.strandsExit environment event = false) :
    ExitKept environment event world := by
  obtain ⟨restored, idle, queue, handled, arrivals⟩ :=
    dispatchEvent_of_confirms owned confirms (environment world.ports.moment)
  obtain ⟨state, pending, queued, waiting, unarmed⟩ := restored.concludeRecovery_fence
  have idle := restored.concludeRecovery_custody.idle idle
  have intents : restored.hasDeferredIntent = world.hasDeferredIntent := by
    rw [hasDeferredIntent, queue, hasDeferredIntent]
  have resets : restored.concludeRecovery.hasDeferredIntent = world.hasDeferredIntent := by
    rw [hasDeferredIntent, queued, queue, hasDeferredIntent]
  have exits : world.exitsAfterRestore environment event = Ending.exits environment _ :=
    congrArg (Ending.exits environment) handled
  have stepped : world.step environment event = Ending.finish environment _ :=
    congrArg (Ending.finish environment) handled
  rw [exits_exitAfterRecovery, intents] at exits
  rw [intents] at stepped
  cases failed : restored.stagedStateResetFailed with
  | true =>
      -- the reset is tried again, and the drain waits for it
      rw [failed, Bool.or_true] at pending
      rw [pending, Bool.true_or] at waiting
      simp only [failed, Bool.not_true, Bool.and_false, Ending.finish,
        drainDeferred_of_pending environment pending, conclude, exitAfterRecovery, waiting,
        Bool.false_eq_true, if_false, if_true] at exits stepped
      refine ⟨fun _ => ?_, fun exits' => absurd (exits.symm.trans exits') (by simp), ?_⟩
      · rw [stepped]
        exact ⟨pending, state, idle, unarmed⟩
      · intro has _
        right
        rw [stepped, resets, has]
  | false =>
      rw [failed, Bool.or_false] at pending
      cases has : world.hasDeferredIntent with
      | true =>
          -- a newer command owns the helper now
          simp only [failed, has, Bool.not_false, Bool.and_true, Ending.finish, conclude,
            exitAfterRecovery, if_true, Bool.not_true, Bool.false_and] at exits stepped
          exact .of_taken (by rw [stepped]) exits
      | false =>
          have only : restored.concludeRecovery.ResetsOnly := ⟨state, idle, unarmed, resets.trans has⟩
          obtain ⟨drained, reset⟩ := only.drainLoop environment
            restored.concludeRecovery.fence.deferredMutationCommands.length
          change (restored.concludeRecovery.drainDeferredMutationCommands
            environment).ResetsOnly at drained
          have kept := drainLoop_exit environment
            restored.concludeRecovery.fence.deferredMutationCommands.length restored.concludeRecovery
          change (restored.concludeRecovery.drainDeferredMutationCommands
            environment).fence.exitAfterStagedStateReset = _ at kept
          simp only [failed, has, Bool.not_false, Bool.false_and, Bool.true_and, Ending.finish, conclude,
            exitAfterRecovery, Bool.false_eq_true, if_false, kept] at exits stepped
          cases waits : restored.concludeRecovery.fence.exitAfterStagedStateReset with
          | true =>
              simp only [waits, if_true, Bool.not_true] at exits stepped
              refine ⟨fun _ => ?_, fun exits' => absurd (exits.symm.trans exits') (by simp),
                fun has' => absurd (has.symm.trans has') (by simp)⟩
              rw [stepped]
              simp only [strandsExit, confirms, has, takeUps, arrivals, handled, List.nil_append,
                Ending.takeUps, Bool.not_false, Bool.true_and] at started
              rw [waiting, queue, ← queued.trans queue] at waits
              exact drained.parked
                (reset.mpr (only.starts environment (by simpa using waits) started))
          | false =>
              simp only [waits, Bool.false_eq_true, if_false] at exits stepped
              rw [waits] at waiting
              obtain ⟨settled, none⟩ := Bool.or_eq_false_iff.mp waiting.symm
              rw [queue, ← queued.trans queue] at none
              have nothing : restored.concludeRecovery.drainDeferredMutationCommands environment =
                  restored.concludeRecovery := by
                rw [drainDeferredMutationCommands, only.empty none]
                rfl
              rw [nothing] at stepped drained
              refine ⟨fun exits' => ?_, fun _ => ⟨has, ?_, ?_, ?_⟩,
                fun has' => absurd (has.symm.trans has') (by simp)⟩
              · rw [stepped] at exits'
                exact absurd (waits.symm.trans exits') (by simp)
              · rw [stepped]
                exact drained.resets
              · rw [stepped]
                exact drained.idle.worker
              · rw [stepped]
                exact settled

/-! ### Every other event -/

theorem dispatchEvent_undecided (reading : Reading) {event : Event} {world : World}
    (unconfirmed : world.confirms event = false) (other : world.completesReset event = false) :
    (world.dispatchEvent reading event).epilogue = .nothing ∧
      (world.dispatchEvent reading event).world.fence.exitAfterStagedStateReset =
        world.fence.exitAfterStagedStateReset := by
  cases event with
  | deliver message =>
      simp only [dispatchEvent]
      split
      next external =>
        refine dispatchMessage_undecided reading world.advance ?_
        cases message <;> first | rfl | simp [Message.isExternal] at external
      · exact ⟨rfl, rfl⟩
  | complete index outcome =>
      simp only [confirms, completesReset] at unconfirmed other
      simp only [dispatchEvent]
      cases posted : world.completionMessage index outcome with
      | none => exact ⟨rfl, rfl⟩
      | some message =>
          rw [posted, Option.any_some] at unconfirmed other
          refine dispatchMessage_undecided reading (world.removeTask index).advance ?_
          cases message with
          | resetCompleted _ => cases other
          | recoveryValidationCompleted completed => exact unconfirmed
          | _ => rfl
  | restoreAttempted => exact ⟨rfl, world.markRestoreAttempted_quiet.exit⟩
  | tick => exact ⟨rfl, (handleTick_quiet reading world.advance).exit⟩
  | beginTransientDisconnectSettlement =>
      exact ⟨rfl, (beginTransientDisconnectSettlement_quiet reading world.advance).exit⟩

theorem hasDeferredIntent_of_queue {before after : World}
    (same : after.fence.deferredMutationCommands = before.fence.deferredMutationCommands) :
    after.hasDeferredIntent = before.hasDeferredIntent := by
  rw [hasDeferredIntent, same, hasDeferredIntent]

/-- A command that is queued leaves an intent in the queue, its own if it is one. -/
theorem Defers.intent {offer : Option DeferredMutationCommand} {before after : World}
    (defers : Defers offer before after) (has : before.hasDeferredIntent = true) :
    after.hasDeferredIntent = true := by
  cases defers with
  | still still => exact (hasDeferredIntent_of_queue (queue_of_backlog still.backlog)).trans has
  | enqueued command _ backlog _ =>
      have queue : after.fence.deferredMutationCommands = _ := congrArg Backlog.queue backlog
      rw [hasDeferredIntent, queue]
      cases reset : command.isReset with
      | true =>
          obtain ⟨waiting, member, intent⟩ := List.any_eq_true.mp has
          refine List.any_eq_true.mpr ⟨waiting, ?_, intent⟩
          rw [Backlog.push, enqueue, if_pos reset]
          exact List.mem_append_left _ member
      | false =>
          refine List.any_eq_true.mpr ⟨command, ?_, by rw [reset]; rfl⟩
          rw [Backlog.push, enqueue]
          exact List.mem_append_right _ (List.mem_singleton_self _)

theorem exitKept_of_parked {environment : Environment} {event : Event} {world : World}
    (parked : world.Parked) (waits : world.fence.exitAfterStagedStateReset = true)
    (other : world.completesReset event = false)
    (alone : world.worksBesideExit (environment world.ports.moment) event = false) :
    ExitKept environment event world := by
  obtain ⟨after, handled, still⟩ := dispatchEvent_parked _ parked waits other alone
  have stepped : world.step environment event = after :=
    congrArg (Ending.finish environment) handled
  have stays : world.exitsAfterRestore environment event = false :=
    congrArg (Ending.exits environment) handled
  have disposed := dispatchEvent_disposes (environment world.ports.moment) event world
  rw [handled] at disposed
  refine ⟨fun _ => stepped ▸ still, fun exits => absurd (stays.symm.trans exits) (by simp), ?_⟩
  intro has _
  rw [stepped]
  right
  cases disposed with
  | returns defers => exact defers.intent has
  | leaves leaves =>
      cases leaves with
      | raises backlog _ => exact (hasDeferredIntent_of_queue (queue_of_backlog backlog)).trans has
      | abandons _ backlog => exact (hasDeferredIntent_of_queue (queue_of_backlog backlog)).trans has

theorem exitKept_of_lowered {environment : Environment} {event : Event} {world : World}
    (lowered : world.fence.exitAfterStagedStateReset = false)
    (unconfirmed : world.confirms event = false) (other : world.completesReset event = false) :
    ExitKept environment event world := by
  obtain ⟨nothing, same⟩ :=
    dispatchEvent_undecided (environment world.ports.moment) unconfirmed other
  exact .of_taken ((finish_exit environment nothing).trans (same.trans lowered))
    (exits_of_epilogue environment nothing)

theorem step_exitKept {environment : Environment} {event : Event} {world : World}
    (owned : world.Owned) (parks : world.fence.exitAfterStagedStateReset = true → world.Parked)
    (alone : world.worksBesideExit (environment world.ports.moment) event = false)
    (started : world.strandsExit environment event = false) :
    ExitKept environment event world := by
  cases confirms : world.confirms event with
  | true => exact exitKept_of_confirms owned confirms started
  | false =>
      cases completes : world.completesReset event with
      | true => exact exitKept_of_completesReset completes parks
      | false =>
          cases waits : world.fence.exitAfterStagedStateReset with
          | true => exact exitKept_of_parked (parks waits) waits completes alone
          | false => exact exitKept_of_lowered waits confirms completes

/-! ## The commands that wait -/

/-- The drain takes a command up or leaves it where it is. -/
theorem drainLoop_takes (environment : Environment) (fuel : Nat) {world : World}
    {command : DeferredMutationCommand}
    (waits : command ∈ world.fence.deferredMutationCommands) :
    command ∈ (drainLoop environment fuel world).fence.deferredMutationCommands ∨
      ∃ takeUp ∈ drainTakeUps environment fuel world,
        takeUp.queued = true ∧ takeUp.command = command := by
  induction fuel generalizing world with
  | zero => exact .inl waits
  | succ fuel ih =>
      simp only [drainLoop, drainTakeUps]
      cases queue : world.fence.deferredMutationCommands with
      | nil =>
          rw [queue] at waits
          cases waits
      | cons front rest =>
          dsimp only
          split
          next down =>
            rw [queue] at waits
            rcases List.mem_cons.mp waits with rfl | later
            · exact .inr ⟨_, List.mem_cons_self, rfl, rfl⟩
            · have rests : (world.drainOne environment front rest).fence.deferredMutationCommands =
                  rest := congrArg Backlog.queue (drainOne_backlog environment front rest down)
              refine (ih (by rw [rests]; exact later)).imp_right ?_
              rintro ⟨takeUp, member, taken⟩
              exact ⟨takeUp, List.mem_cons_of_mem _ member, taken⟩
          · exact .inl waits

/-- A display event would queue the current request again in the place of an intent. -/
def requeuesIntent (reading : Reading) (event : Event) (world : World) : Bool :=
  world.hasDeferredIntent &&
    match event with
    | .deliver (.displayEvent event) => world.requeues reading event
    | _ => false

/-- An apply completion hands its session over and leaves the queue behind. -/
def leavesQueue (reading : Reading) (event : Event) (world : World) : Bool :=
  !world.fence.deferredMutationCommands.isEmpty &&
    match event with
    | .complete index outcome =>
        (world.completionMessage index outcome).any fun
          | .applyCompleted completed => world.handsOver reading completed
          | _ => false
    | _ => false

/-- The intent that a client or a lost heartbeat puts in the place of an older one. -/
def newerIntent (event : Event) (world : World) : Option DeferredMutationCommand :=
  match event with
  | .deliver (.helperEvent event) => some (world.heartbeatIntent event.connectionEpoch)
  | .deliver message => message.command?
  | _ => none

theorem newerIntent_of_offers {reading : Reading} {event : Event} {world : World}
    {command : DeferredMutationCommand} (offered : world.offers reading event = some command)
    (other : ∀ displayed, event ≠ .deliver (.displayEvent displayed)) :
    world.newerIntent event = some command := by
  cases event with
  | deliver message =>
      cases message with
      | displayEvent displayed => exact absurd rfl (other displayed)
      | _ => exact offered
  | _ => cases offered

/-- A queued intent waits on, is taken up, or is superseded by a newer one. -/
theorem step_takes {environment : Environment} {event : Event} {world : World}
    {command : DeferredMutationCommand}
    (waits : command ∈ world.fence.deferredMutationCommands) (intent : command.isReset = false)
    (kept : world.requeuesIntent (environment world.ports.moment) event = false) :
    command ∈ (world.step environment event).fence.deferredMutationCommands ∨
      (∃ takeUp ∈ world.takeUps environment event,
        takeUp.queued = true ∧ takeUp.command = command) ∨
      ∃ newer ∈ (world.step environment event).fence.deferredMutationCommands,
        newer.isReset = false ∧ world.newerIntent event = some newer := by
  have has : world.hasDeferredIntent = true :=
    List.any_eq_true.mpr ⟨command, waits, by rw [intent]; rfl⟩
  by_cases displayed : ∃ message, event = .deliver (.displayEvent message)
  · obtain ⟨message, rfl⟩ := displayed
    simp only [requeuesIntent, has, Bool.true_and] at kept
    have still : Still world.advance
        (world.advance.handleDisplayEvent (environment world.ports.moment) message) :=
      handleDisplayEvent_of_not_requeues kept
    left
    change command ∈ (world.advance.handleDisplayEvent _ message).fence.deferredMutationCommands
    rw [queue_of_backlog still.backlog]
    exact waits
  · have disposed := dispatchEvent_disposes (environment world.ports.moment) event world
    rw [step, takeUps]
    generalize world.dispatchEvent (environment world.ports.moment) event = ending at disposed ⊢
    have unmoved : ∀ {after : World}, after.backlog = world.backlog →
        command ∈ after.fence.deferredMutationCommands :=
      fun backlog => (queue_of_backlog backlog).symm ▸ waits
    cases disposed with
    | returns defers =>
        cases defers with
        | still still => exact .inl (unmoved still.backlog)
        | enqueued newer offered backlog _ =>
            have queue := congrArg Backlog.queue backlog
            simp only [World.backlog, Backlog.push, enqueue] at queue
            simp only [Ending.finish, queue]
            cases reset : newer.isReset with
            | true =>
                left
                rw [if_pos rfl]
                exact List.mem_append_left _ waits
            | false =>
                refine .inr (.inr ⟨newer, ?_, reset, newerIntent_of_offers offered ?_⟩)
                · exact List.mem_append_right _ (List.mem_singleton_self _)
                · exact fun message same => displayed ⟨message, same⟩
    | leaves leaves =>
        cases leaves with
        | raises backlog _ => exact .inl (unmoved backlog)
        | abandons _ backlog => exact .inl (unmoved backlog)
        | drains backlog =>
            rename_i next epilogue
            rw [Ending.finish, queue_of_backlog (conclude_still epilogue _).backlog]
            rcases drainLoop_takes environment next.fence.deferredMutationCommands.length
              (unmoved backlog) with stays | ⟨takeUp, member, taken⟩
            · exact .inl stays
            · exact .inr (.inl ⟨takeUp, List.mem_append_right _ member, taken⟩)

/-- The fence holds what waits, unless a failed reset has retired the helper. -/
theorem step_fenced_or_retired {environment : Environment} {event : Event} {world : World}
    (fenced : world.Fenced)
    (kept : world.leavesQueue (environment world.ports.moment) event = false) :
    (world.step environment event).Fenced ∨
      .exit 1 ∈ (world.step environment event).ports.effects := by
  cases abandoned : world.abandons (environment world.ports.moment) event with
  | false => exact .inl (step_fenced environment event abandoned fenced)
  | true =>
      right
      simp only [abandons, leavesQueue, Bool.and_eq_true] at abandoned kept
      obtain ⟨waiting, abandoned⟩ := abandoned
      rw [waiting, Bool.true_and] at kept
      cases event with
      | complete index outcome =>
          cases posted : world.completionMessage index outcome with
          | none => simp [posted] at abandoned
          | some message =>
              simp only [posted, Option.any_some] at abandoned kept
              cases message with
              | applyCompleted completed => exact absurd (kept.symm.trans abandoned) (by simp)
              | resetCompleted completed =>
                  simp only [abandonsMessage, retiresHelper, Bool.and_eq_true,
                    Bool.not_eq_true'] at abandoned
                  obtain ⟨after, retired, _, exited⟩ := handleResetCompleted_of_failed
                    (show (world.removeTask index).advance.fence.exitAfterStagedStateReset = true
                      from abandoned.1) abandoned.2
                  have stepped : world.step environment (.complete index outcome) = after := by
                    simp only [step, dispatchEvent, posted, dispatchMessage, retired, Ending.finish]
                  rw [stepped]
                  exact exited
              | _ => cases abandoned
      | _ => cases abandoned

/-! ## Runs -/

/-- Nothing is started beside an exit that waits, the exit waits for a reset that was
started, no queue is left behind and no intent replaced by the helper itself, and the
helper has not been retired. -/
def respectsExit (environment : Environment) (event : Event) (world : World) : Prop :=
  world.worksBesideExit (environment world.ports.moment) event = false ∧
    world.strandsExit environment event = false ∧
    world.leavesQueue (environment world.ports.moment) event = false ∧
    world.requeuesIntent (environment world.ports.moment) event = false ∧
    .exit 1 ∉ world.ports.effects
deriving Decidable

/-- What a step makes of the exit and of the commands that wait. -/
structure ExitRespected (environment : Environment) (event : Event) (world : World) : Prop
    extends ExitKept environment event world where
  executed : ∀ command ∈ world.fence.deferredMutationCommands, command.isReset = false →
    command ∈ (world.step environment event).fence.deferredMutationCommands ∨
      (∃ takeUp ∈ world.takeUps environment event,
        takeUp.queued = true ∧ takeUp.command = command) ∨
      ∃ newer ∈ (world.step environment event).fence.deferredMutationCommands,
        newer.isReset = false ∧ world.newerIntent event = some newer
  fenced : (world.step environment event).Fenced ∨
    .exit 1 ∈ (world.step environment event).ports.effects

/-- What holds between the steps. -/
structure ExitReady (world : World) : Prop where
  owned : world.Owned
  parks : world.fence.exitAfterStagedStateReset = true → world.Parked
  fenced : world.Fenced ∨ .exit 1 ∈ world.ports.effects

theorem step_exitRespected {environment : Environment} {event : Event} {world : World}
    (ready : world.ExitReady) (respects : respectsExit environment event world) :
    ExitRespected environment event world := by
  obtain ⟨alone, started, kept, own, alive⟩ := respects
  exact {
    toExitKept := step_exitKept ready.owned ready.parks alone started
    executed := fun _ waits intent => step_takes waits intent own
    fenced := step_fenced_or_retired (ready.fenced.resolve_right alive) kept }

theorem step_exitReady {environment : Environment} {event : Event} {world : World}
    (respects : respectsExit environment event world) (ready : world.ExitReady) :
    (world.step environment event).ExitReady where
  owned := step_owned environment event world ready.owned
  parks := (step_exitRespected ready respects).waits
  fenced := (step_exitRespected ready respects).fenced

/-- In a run that respects the exit, a confirmed restore exits the helper only when no
intent was or is queued, no mutation is active and no reset is pending; an intent that
waits takes the exit back, and it waits behind a raised fence until it is taken up. -/
theorem run_exitRespected (environment : Environment) (events : List Event) (event : Event)
    (met : Transition.Meets (step environment) (respectsExit environment) (events ++ [event])
      initial) :
    ExitRespected environment event (run environment events) := by
  obtain ⟨earlier, last⟩ := Transition.Meets.append (step environment) met
  have ready : (run environment events).ExitReady :=
    Transition.run_preserves_of_meets (step environment) ExitReady
      (fun event world respects ready => step_exitReady respects ready) earlier
      ⟨.idle initial_idle, (nomatch ·), .inl (.inl rfl)⟩
  exact step_exitRespected ready last.1

/-- A confirmed restore whose staged-state reset is tried again. -/
def awaitedReset : List Event :=
  [.deliver (.apply { request := { configuration := some {} }, connectionEpoch := 1 }),
    .complete 0 (.apply { status := .ok, stagedStatePrepared := true }),
    .complete 0 (.verification true), .complete 0 (.verification true),
    .deliver (.revert { connectionEpoch := 1, immediate := true }),
    .complete 0 (.recovery
      { success := true, snapshot := some {}, stagedStateResetAttempted := true }),
    .complete 0 (.recoveryValidation true)]

def restorable : Environment := fun _ => { connectionEpoch := 1, tierExists := fun _ => true }

theorem run_exitRespected_awaitedReset :
    ExitRespected restorable (.complete 0 (.resetStagedApplyState true))
      (run restorable awaitedReset) :=
  run_exitRespected restorable awaitedReset _ (by decide)

/-- A REFRESH_RATE is accepted while the exit waits, and its worker is active when the
reset completes. -/
theorem exit_beside_refresh :
    ¬ ∀ (environment : Environment) (events : List Event) (event : Event),
        (run environment events).exitsAfterRestore environment event = true →
          ((run environment events).step environment event).hasDeferredIntent = false ∧
            ((run environment events).step environment event).fence.activeMutationWorker = none ∧
            ((run environment events).step environment
              event).fence.stagedStateResetPending = false := by
  intro claim
  have exits := claim restorable (awaitedReset ++ [.deliver (.refreshRate
    { deviceId := "A", numerator := 60, denominator := 1, connectionEpoch := 1 })])
    (.complete 0 (.resetStagedApplyState true))
  revert exits
  decide

end World

end UmbraHost.DisplayHelper
