import UmbraHost.DisplayHelper.Ownership
import UmbraHost.DisplayHelper.QuietHandlers

/-! # The restore baseline

The Current tier is what REVERT restores.  It is written by SNAPSHOT_CURRENT
while the display is not being changed, and by an APPLY that finds none. -/

namespace UmbraHost.DisplayHelper

/-! ## Tiers -/

abbrev Tiers := SnapshotTier → Option (Snapshot × LayoutRotations)

/-- A failed save leaves its tier as it was. -/
def Save.store (save : Save) (tiers : Tiers) : Tiers :=
  if save.written then Function.update tiers save.tier (some (save.snapshot, save.layouts))
  else tiers

def stored (saves : List Save) (tiers : Tiers) : Tiers :=
  saves.foldl (fun tiers save => save.store tiers) tiers

@[simp] theorem stored_nil (tiers : Tiers) : stored [] tiers = tiers := rfl

@[simp] theorem stored_cons (save : Save) (rest : List Save) (tiers : Tiers) :
    stored (save :: rest) tiers = stored rest (save.store tiers) := rfl

namespace World

/-- The tiers after `refresh_current_preserving_previous`. -/
def refreshedTiers (reading : Reading) (exclusions : List String) (tiers : Tiers) : Tiers :=
  stored (saves (refreshCurrentPreservingPrevious reading exclusions).1) tiers

/-- What a refresh does to the tiers.  The old Current goes to Previous when it can be
loaded and the copy is saved. -/
structure Refreshes (reading : Reading) (exclusions : List String) (tiers after : Tiers) :
    Prop where
  failed : (refreshCurrentPreservingPrevious reading exclusions).2 = false →
    after .current = tiers .current
  replaced : (refreshCurrentPreservingPrevious reading exclusions).2 = true →
    ∃ captured, captureCurrent reading exclusions maxCaptureAttempts 0 = some captured ∧
      after .current = some captured ∧
      ∀ old, reading.loadCurrent = some old → reading.saveSucceeds 0 = true →
        after .previous = some old
  previous : after .previous = tiers .previous ∨
    ∃ old, reading.loadCurrent = some old ∧ after .previous = some old
  golden : after .golden = tiers .golden
  uncaptured : captureCurrent reading exclusions maxCaptureAttempts 0 = none → after = tiers

theorem refreshCurrentPreservingPrevious_of_captured {reading : Reading} {exclusions : List String}
    {snapshot : Snapshot} {layouts : LayoutRotations}
    (captured : captureCurrent reading exclusions maxCaptureAttempts 0 = some (snapshot, layouts)) :
    refreshCurrentPreservingPrevious reading exclusions =
      ((reading.loadCurrent.map fun old =>
          Effect.saved .previous old.1 old.2 (reading.saveSucceeds 0)).toList ++
        [.saved .current snapshot layouts (reading.saveSucceeds 1)], reading.saveSucceeds 1) := by
  rw [refreshCurrentPreservingPrevious, captured]
  cases reading.loadCurrent <;> rfl

theorem refreshes (reading : Reading) (exclusions : List String) (tiers : Tiers) :
    Refreshes reading exclusions tiers (refreshedTiers reading exclusions tiers) := by
  unfold refreshedTiers
  cases captured : captureCurrent reading exclusions maxCaptureAttempts 0 with
  | none =>
      have nothing : refreshCurrentPreservingPrevious reading exclusions = ([], false) := by
        rw [refreshCurrentPreservingPrevious, captured]
      rw [nothing]
      exact {
        failed := fun _ => rfl
        replaced := fun saved => by rw [nothing] at saved; cases saved
        previous := .inl rfl
        golden := rfl
        uncaptured := fun _ => rfl }
  | some capture =>
      obtain ⟨snapshot, layouts⟩ := capture
      have saved := refreshCurrentPreservingPrevious_of_captured captured
      rw [saved]
      cases loaded : reading.loadCurrent with
      | none =>
          cases written : reading.saveSucceeds 1 with
          | false =>
              refine ⟨?_, ?_, ?_, ?_, ?_⟩ <;> simp [saved, captured, loaded, written, Save.store]
          | true =>
              refine ⟨?_, ?_, ?_, ?_, ?_⟩ <;> simp [saved, captured, loaded, written, Save.store]
      | some old =>
          cases written : reading.saveSucceeds 1 with
          | false =>
              cases copied : reading.saveSucceeds 0 <;> refine ⟨?_, ?_, ?_, ?_, ?_⟩ <;>
                simp [saved, captured, loaded, written, copied, Save.store]
          | true =>
              cases copied : reading.saveSucceeds 0 <;> refine ⟨?_, ?_, ?_, ?_, ?_⟩ <;>
                simp [saved, captured, loaded, written, copied, Save.store]

/-- A capture for one tier leaves the others alone. -/
theorem tier_of_mem_captureFilteredAndSave {reading : Reading} {tier : SnapshotTier}
    {exclusions : List String} {remaining attempt : Nat} {save : Save}
    (member : save ∈ saves (captureFilteredAndSave reading tier exclusions remaining attempt).1) :
    save.tier = tier := by
  induction remaining generalizing attempt with
  | zero => cases member
  | succ remaining ih =>
      simp only [captureFilteredAndSave] at member
      split at member
      · exact ih member
      · split at member
        · simp only [saves_cons, saves_nil, Effect.save?, Option.toList_some, List.append_nil,
            List.mem_singleton] at member
          rw [member]
        · simp only [saves_cons, Effect.save?, Option.toList_some, List.singleton_append,
            List.mem_cons] at member
          rcases member with rfl | later
          · rfl
          · exact ih later

/-! ## What a step saves -/

/-- The guard of SNAPSHOT_CURRENT and EXPORT_GOLDEN. -/
def changing (world : World) : Bool :=
  world.restorePending || world.applyInFlight

def messageSaves (reading : Reading) (world : World) : Message → List Save
  | .snapshotCurrent command =>
      if reading.isStaleConnection command.connectionEpoch || world.changing then []
      else saves (refreshCurrentPreservingPrevious reading
        (world.updateExclusions command.payload).ports.snapshotBlacklist).1
  | .exportGolden command =>
      if reading.isStaleConnection command.connectionEpoch || world.changing then []
      else saves (captureFilteredAndSave reading .golden
        (world.updateExclusions command.payload).ports.snapshotBlacklist maxCaptureAttempts 0).1
  | _ => []

def eventSaves (reading : Reading) (world : World) : Event → List Save
  | .deliver message => world.messageSaves reading message
  | _ => []

end World

/-- What taking a command up saves: the baseline of an APPLY that passes the fences. -/
def TakeUp.saves (takeUp : TakeUp) : List Save :=
  match takeUp.command with
  | .apply command =>
      if takeUp.world.fenceDown && !takeUp.world.refuses takeUp.reading (.apply command) then
        takeUp.world.baselineSaves takeUp.reading command
      else []
  | _ => []

namespace World

theorem handleApplyCommand_saves (reading : Reading) (command : ApplyCommand) (queued : Bool)
    (world : World) :
    saves (world.handleApplyCommand reading command).ports.effects =
      saves world.ports.effects ++
        { reading, command := .apply command, queued, world : TakeUp }.saves := by
  simp only [handleApplyCommand, TakeUp.saves, refuses, fenceDown]
  split
  next stale => simp [stale]
  next live =>
    split
    next up =>
      simp only [resetTransientDisconnectSettlement, mutationWorkerActive] at up
      simp [up]
    next down =>
      simp only [resetTransientDisconnectSettlement, mutationWorkerActive] at down
      split
      next pending =>
        simp only [resetTransientDisconnectSettlement] at pending
        simp [pending]
      next settled =>
        simp only [resetTransientDisconnectSettlement] at settled
        rw [acceptApplyCommand_saves]
        simp [live, down, settled, baselineSaves]

theorem handleDeferred_saves (takeUp : TakeUp) :
    saves (takeUp.world.handleDeferred takeUp.reading takeUp.command).ports.effects =
      saves takeUp.world.ports.effects ++ takeUp.saves := by
  obtain ⟨reading, command, queued, world⟩ := takeUp
  cases command with
  | apply command => exact handleApplyCommand_saves reading command queued world
  | revert command =>
      exact (handleRevertCommand_quiet reading command world).saves.trans (List.append_nil _).symm
  | disarm command =>
      exact (handleDisarmCommand_quiet reading command world).saves.trans (List.append_nil _).symm
  | reset command =>
      exact (handleResetCommand_quiet reading command world).saves.trans (List.append_nil _).symm

theorem unguarded {reading : Reading} {epoch : Nat} {world : World}
    (live : ¬ reading.isStaleConnection epoch = true) (quiet : ¬ world.changing = true) :
    ¬ (reading.isStaleConnection epoch || world.changing) = true := by
  rw [Bool.or_eq_true]
  exact not_or.mpr ⟨live, quiet⟩

theorem handleSnapshotCurrent_saves (reading : Reading) (command : SnapshotCurrentCommand)
    (world : World) :
    saves (world.handleSnapshotCurrent reading command).ports.effects =
      saves world.ports.effects ++ world.messageSaves reading (.snapshotCurrent command) := by
  simp only [handleSnapshotCurrent, messageSaves]
  split
  next stale => rw [if_pos (by rw [stale, Bool.true_or]), List.append_nil]
  next live =>
    split
    next busy =>
      have busy : world.changing = true := busy
      rw [if_pos (by rw [busy, Bool.or_true])]
      simp
    next quiet =>
      simp only [if_neg (unguarded live quiet)]
      simp

theorem handleExportGolden_saves (reading : Reading) (command : ExportGoldenCommand)
    (world : World) :
    saves (world.handleExportGolden reading command).ports.effects =
      saves world.ports.effects ++ world.messageSaves reading (.exportGolden command) := by
  simp only [handleExportGolden, messageSaves, Bool.or_comm world.applyInFlight]
  split
  next stale => rw [if_pos (by rw [stale, Bool.true_or]), List.append_nil]
  next live =>
    split
    next busy =>
      have busy : world.changing = true := busy
      rw [if_pos (by rw [busy, Bool.or_true]), List.append_nil]
    next quiet =>
      simp only [if_neg (unguarded live quiet)]
      split
      · simp
      · simp

theorem handleResetCompleted_saves (completed : ResetCompleted) (world : World) :
    saves (world.handleResetCompleted completed).world.ports.effects =
      saves world.ports.effects := by
  simp only [handleResetCompleted]
  split
  · simp
  · simp

theorem handleRecoveryValidationCompleted_saves (reading : Reading)
    (completed : RecoveryValidationCompleted) (world : World) :
    saves (world.handleRecoveryValidationCompleted reading completed).world.ports.effects =
      saves world.ports.effects := by
  simp only [handleRecoveryValidationCompleted]
  split
  · split
    · simp
    · split
      · simp
      · simp
  · rfl

theorem saves_nothing {after before : World}
    (same : saves after.ports.effects = saves before.ports.effects) :
    saves after.ports.effects = saves before.ports.effects ++ [] ++ [] := by
  rw [same, List.append_nil, List.append_nil]

/-- Up to its drain a message saves what its command does; completions save nothing. -/
theorem dispatchMessage_saves (reading : Reading) (message : Message) (world : World) :
    saves (world.dispatchMessage reading message).world.ports.effects =
      saves world.ports.effects ++ world.messageSaves reading message ++
        message.command?.toList.flatMap fun command =>
          { reading, command, queued := false, world : TakeUp }.saves := by
  have taken : ∀ command : DeferredMutationCommand,
      saves (world.handleDeferred reading command).ports.effects =
        saves world.ports.effects ++ [] ++
          [command].flatMap fun command =>
            { reading, command, queued := false, world : TakeUp }.saves := by
    intro command
    rw [List.append_nil, List.flatMap_singleton]
    exact handleDeferred_saves { reading, command, queued := false, world }
  cases message with
  | apply command => exact taken (.apply command)
  | revert command => exact taken (.revert command)
  | disarm command => exact taken (.disarm command)
  | reset command => exact taken (.reset command)
  | exportGolden command =>
      exact (handleExportGolden_saves reading command world).trans (List.append_nil _).symm
  | snapshotCurrent command =>
      exact (handleSnapshotCurrent_saves reading command world).trans (List.append_nil _).symm
  | refreshRate command =>
      exact saves_nothing (handleRefreshRateCommand_quiet reading command world).saves
  | ping command => exact saves_nothing (handlePingCommand_quiet reading command world).saves
  | stop command => exact saves_nothing (handleStopCommand_quiet reading command world).saves
  | applyCompleted completed =>
      exact saves_nothing (handleApplyCompleted_quiet reading completed world).saves
  | verificationCompleted completed =>
      exact saves_nothing (handleVerificationCompleted_quiet completed world).saves
  | resetCompleted completed => exact saves_nothing (handleResetCompleted_saves completed world)
  | refreshRateCompleted completed =>
      exact saves_nothing (handleRefreshRateCompleted_quiet completed world).saves
  | recoveryCompleted completed =>
      exact saves_nothing (handleRecoveryCompleted_quiet reading completed world).saves
  | recoveryValidationCompleted completed =>
      exact saves_nothing (handleRecoveryValidationCompleted_saves reading completed world)
  | displayEvent event => exact saves_nothing (handleDisplayEvent_quiet reading event world).saves
  | helperEvent event => exact saves_nothing (handleHelperEvent_quiet reading event world).saves

theorem messageSaves_internal (reading : Reading) (world : World) {message : Message}
    (internal : message.isExternal = false) :
    world.messageSaves reading message = [] ∧ message.command? = none := by
  cases message <;> first | exact ⟨rfl, rfl⟩ | simp [Message.isExternal] at internal

theorem messageSaves_advance (reading : Reading) (world : World) (message : Message) :
    world.advance.messageSaves reading message = world.messageSaves reading message := by
  cases message with
  | snapshotCurrent command | exportGolden command => simp [messageSaves, changing]
  | _ => rfl

theorem dispatchEvent_saves (reading : Reading) (event : Event) (world : World) :
    saves (world.dispatchEvent reading event).world.ports.effects =
      saves world.ports.effects ++ world.eventSaves reading event ++
        (world.arrivals reading event).flatMap TakeUp.saves := by
  cases event with
  | deliver message =>
      simp only [dispatchEvent, arrivals, eventSaves, List.flatMap_map]
      split
      · rw [← messageSaves_advance]
        exact dispatchMessage_saves reading message world.advance
      next internal =>
        obtain ⟨unsaved, unasked⟩ := messageSaves_internal reading world (by simpa using internal)
        rw [unsaved, unasked]
        exact saves_nothing rfl
  | complete index outcome =>
      simp only [dispatchEvent]
      cases posted : world.completionMessage index outcome with
      | none => exact saves_nothing rfl
      | some message =>
          obtain ⟨task, _, completes⟩ := Option.bind_eq_some_iff.mp posted
          obtain ⟨unsaved, unasked⟩ :=
            messageSaves_internal reading (world.removeTask index).advance
              (Task.completion_internal completes)
          have saved := dispatchMessage_saves reading message (world.removeTask index).advance
          rw [unsaved, unasked] at saved
          exact saved
  | restoreAttempted => exact saves_nothing world.markRestoreAttempted_quiet.saves
  | tick => exact saves_nothing (handleTick_quiet reading world.advance).saves
  | beginTransientDisconnectSettlement =>
      exact saves_nothing (beginTransientDisconnectSettlement_quiet reading world.advance).saves

theorem drainLoop_saves (environment : Environment) (fuel : Nat) (world : World) :
    saves (drainLoop environment fuel world).ports.effects =
      saves world.ports.effects ++ (drainTakeUps environment fuel world).flatMap TakeUp.saves := by
  induction fuel generalizing world with
  | zero => exact (List.append_nil _).symm
  | succ fuel ih =>
      simp only [drainLoop, drainTakeUps]
      cases queue : world.fence.deferredMutationCommands with
      | nil => exact (List.append_nil _).symm
      | cons command rest =>
          dsimp only
          split
          · rw [ih, drainOne, List.flatMap_cons, ← List.append_assoc]
            congr 1
            refine (handleDeferred_saves
              { reading := environment world.ports.moment
                command
                queued := true
                world := (world.popDeferred command rest).advance }).trans ?_
            congr 1
            simp
          · exact (List.append_nil _).symm

theorem conclude_saves (epilogue : Epilogue) (world : World) :
    saves (conclude epilogue world).ports.effects = saves world.ports.effects := by
  cases epilogue with
  | nothing => rfl
  | exitOnceReset =>
      simp only [conclude, exitOnceReset]
      split
      · simp
      · rfl
  | exitAfterRecovery superseded =>
      simp only [conclude, exitAfterRecovery]
      split
      · rfl
      · split
        · rfl
        · simp

theorem step_saves (environment : Environment) (event : Event) (world : World) :
    saves (world.step environment event).ports.effects =
      saves world.ports.effects ++ world.eventSaves (environment world.ports.moment) event ++
        (world.takeUps environment event).flatMap TakeUp.saves := by
  have dispatched := dispatchEvent_saves (environment world.ports.moment) event world
  rw [takeUps, List.flatMap_append, ← List.append_assoc, ← dispatched, step]
  cases world.dispatchEvent (environment world.ports.moment) event with
  | returns next => exact (List.append_nil _).symm
  | drains next epilogue => exact (conclude_saves epilogue _).trans (drainLoop_saves environment _ next)

/-! ## Runs -/

/-- Nothing changes the display: no mutation and no restore polling is under way, and the
only check that may be outstanding is that of a session in place. -/
structure AtRest (world : World) : Prop where
  worker : world.fence.activeMutationWorker = none
  owners : owners world.ports.tasks = []
  state : world.fence.state = .waiting ∨ world.fence.state = .virtualDisplayMonitoring
  checks : ∀ purpose ∈ world.custody.current, purpose = .stabilization

theorem Owned.atRest {world : World} (owned : world.Owned) (idle : world.changing = false) :
    world.AtRest := by
  have down : world.fence.activeMutationWorker = none := by
    cases worker : world.fence.activeMutationWorker with
    | none => rfl
    | some worker => simp [changing, worker] at idle
  have state : world.fence.state = .waiting ∨ world.fence.state = .virtualDisplayMonitoring := by
    cases state : world.fence.state <;> simp_all [changing]
  refine ⟨down, (owned.free down).owners, state, ?_⟩
  cases owned with
  | idle idle => rw [idle.current]; simp
  | working worker working _ => exact absurd (working.holder.symm.trans down) (by simp)
  | checking purpose checking awaited =>
      rw [checking.current]
      intro other member
      rw [List.mem_singleton.mp member]
      cases purpose with
      | stabilization => rfl
      | initial | transientDisconnect =>
          simp only [VerificationPurpose.Awaited] at awaited
          simp [awaited] at state

theorem atRest_of_mem_eventSaves {reading : Reading} {event : Event} {world : World}
    {save : Save} (owned : world.Owned) (member : save ∈ world.eventSaves reading event)
    (current : save.tier = .current) :
    (∃ command, event = .deliver (.snapshotCurrent command)) ∧ world.AtRest := by
  cases event with
  | deliver message =>
      cases message with
      | snapshotCurrent command =>
          simp only [eventSaves, messageSaves] at member
          split at member
          · cases member
          next guard =>
            rw [Bool.or_eq_true, not_or] at guard
            exact ⟨⟨command, rfl⟩, owned.atRest (by simpa using guard.2)⟩
      | exportGolden command =>
          simp only [eventSaves, messageSaves] at member
          split at member
          · cases member
          · rw [tier_of_mem_captureFilteredAndSave member] at current
            cases current
      | _ => cases member
  | _ => cases member

end World

theorem TakeUp.missing_of_mem_saves {takeUp : TakeUp} {save : Save} (member : save ∈ takeUp.saves) :
    (∃ command, takeUp.command = .apply command) ∧ takeUp.reading.tierExists .current = false := by
  obtain ⟨reading, command, queued, world⟩ := takeUp
  cases command with
  | apply command =>
      simp only [TakeUp.saves, World.baselineSaves] at member
      split at member
      · split at member
        next asked =>
          simp only [Bool.and_eq_true, Bool.not_eq_true'] at asked
          exact ⟨⟨command, rfl⟩, asked.2⟩
        · cases member
      · cases member
  | revert _ | disarm _ | reset _ => cases member

namespace World

/-- Over every run the Current tier is written only by a SNAPSHOT_CURRENT that finds the
helper at rest, or by an APPLY that finds no Current tier; and a refresh never
changes a tier whose capture or save failed. -/
theorem run_baseline (environment : Environment) (events : List Event) (event : Event) :
    let world := run environment events
    let reading := environment world.ports.moment
    saves (world.step environment event).ports.effects =
        saves world.ports.effects ++ world.eventSaves reading event ++
          (world.takeUps environment event).flatMap TakeUp.saves ∧
      (∀ save ∈ world.eventSaves reading event, save.tier = .current →
        (∃ command, event = .deliver (.snapshotCurrent command)) ∧ world.AtRest) ∧
      (∀ takeUp ∈ world.takeUps environment event, ∀ save ∈ takeUp.saves,
        (∃ command, takeUp.command = .apply command) ∧
          takeUp.reading.tierExists .current = false) ∧
      ∀ exclusions tiers,
        Refreshes reading exclusions tiers (refreshedTiers reading exclusions tiers) :=
  ⟨step_saves environment event _,
    fun _ member current =>
      atRest_of_mem_eventSaves (run_owned environment events) member current,
    fun _ _ _ member => TakeUp.missing_of_mem_saves member,
    refreshes _⟩

/-- A verified session, with its first stabilization check outstanding. -/
def checkedSession : List Event :=
  [.deliver (.apply { request := { configuration := some {} }, connectionEpoch := 1 }),
    .complete 0 (.apply { status := .ok }), .complete 0 (.verification true)]

def capturable : Environment := fun _ =>
  { connectionEpoch := 1
    tierExists := fun _ => true
    captureFiltered := fun _ _ => some ({}, [])
    saveSucceeds := fun attempt => attempt == 1
    loadCurrent := some ({ primaryDevice := "A" }, []) }

/-- A SNAPSHOT_CURRENT is taken while the session is checked once more, and when only the
copy to Previous fails, the old Current is in neither tier. -/
theorem baseline_beside_check_and_uncopied :
    (¬ ∀ (environment : Environment) (events : List Event) (event : Event),
        let world := run environment events
        (∃ save ∈ (saves (world.step environment event).ports.effects).drop
            (saves world.ports.effects).length, save.tier = .current) →
          (∃ takeUp ∈ world.takeUps environment event,
            takeUp.reading.tierExists .current = false) ∨ world.custody.current = []) ∧
      ¬ ∀ (reading : Reading) (exclusions : List String) (tiers : Tiers)
          (old : Snapshot × LayoutRotations),
        tiers .current = some old → reading.loadCurrent = some old →
          refreshedTiers reading exclusions tiers .current = some old ∨
            refreshedTiers reading exclusions tiers .previous = some old := by
  refine ⟨fun claim => ?_, fun claim => ?_⟩
  · have quiet := claim capturable checkedSession
      (.deliver (.snapshotCurrent { connectionEpoch := 1 }))
    revert quiet
    decide
  · have kept := claim (capturable 0) [] (fun tier =>
      if tier = .current then some ({ primaryDevice := "A" }, []) else none)
      ({ primaryDevice := "A" }, []) rfl rfl
    revert kept
    decide

end World

end UmbraHost.DisplayHelper
