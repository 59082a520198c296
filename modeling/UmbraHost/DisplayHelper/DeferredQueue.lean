import UmbraHost.DisplayHelper.HandlerQueue

/-! # The deferred queue over whole runs

The record of the queue holds after every step.  That a command only waits
behind a raised fence does not: a helper that retires itself, and an apply
completion that hands its session over to the disconnect ladder, return without
a drain. -/

namespace UmbraHost.DisplayHelper

open Queue (enqueue_barriers mem_enqueue_of_intent Ledger)

namespace World

/-- The completion returns without a drain. -/
def abandonsMessage (reading : Reading) (world : World) : Message → Bool
  | .applyCompleted completed => world.handsOver reading completed
  | .resetCompleted completed => world.retiresHelper completed
  | _ => false

/-- The step leaves commands in the queue behind a lowered fence. -/
def abandons (reading : Reading) (event : Event) (world : World) : Bool :=
  !world.fence.deferredMutationCommands.isEmpty &&
    match event with
    | .complete index outcome =>
        (world.completionMessage index outcome).any (world.abandonsMessage reading)
    | _ => false

inductive Disposes (offer : Option DeferredMutationCommand) (before : World) (reason : Prop) :
    Ending → Prop where
  | returns {after : World} (defers : Defers offer before after) :
      Disposes offer before reason (.returns after)
  | leaves {ending : Ending} (leaves : Leaves before reason ending) :
      Disposes offer before reason ending

theorem Disposes.still {offer : Option DeferredMutationCommand} {before after : World}
    {reason : Prop} (still : Still before after) : Disposes offer before reason (.returns after) :=
  .returns (.still still)

/-- The command that a message may put into the queue. -/
def offer (reading : Reading) (world : World) : Message → Option DeferredMutationCommand
  | .displayEvent _ => some (.apply (world.restarted reading))
  | .helperEvent event => some (world.heartbeatIntent event.connectionEpoch)
  | message => message.command?

theorem dispatchMessage_disposes (reading : Reading) (message : Message) (world : World) :
    Disposes (world.offer reading message) world (world.abandonsMessage reading message = true)
      (world.dispatchMessage reading message) := by
  cases message with
  | apply command => exact .returns (handleApplyCommand_behind reading command world).defers
  | revert command => exact .returns (handleRevertCommand_behind reading command world).defers
  | disarm command => exact .returns (handleDisarmCommand_behind reading command world).defers
  | reset command => exact .returns (handleResetCommand_behind reading command world).defers
  | exportGolden command => exact .still (handleExportGolden_still reading command world)
  | snapshotCurrent command => exact .still (handleSnapshotCurrent_still reading command world)
  | refreshRate command => exact .still (handleRefreshRateCommand_still reading command world)
  | ping command => exact .still (handlePingCommand_still reading command world)
  | stop command => exact .still (handleStopCommand_still reading command world)
  | verificationCompleted completed =>
      exact .still (handleVerificationCompleted_still completed world)
  | displayEvent event => exact .returns (handleDisplayEvent_defers reading event world)
  | helperEvent event => exact .returns (handleHelperEvent_defers reading event world)
  | resetCompleted completed => exact .leaves (handleResetCompleted_leaves completed world)
  | applyCompleted completed =>
      cases owns : world.ownsActiveWorker .apply completed.generation with
      | true => exact .leaves (handleApplyCompleted_leaves reading owns)
      | false =>
          simp only [dispatchMessage, handleApplyCompleted, owns]
          exact .still .unchanged
  | refreshRateCompleted completed =>
      cases owns : world.ownsActiveWorker .refreshRate completed.generation with
      | true => exact .leaves (.imp rfl False.elim (handleRefreshRateCompleted_leaves owns))
      | false =>
          simp only [dispatchMessage, handleRefreshRateCompleted, owns]
          exact .still .unchanged
  | recoveryCompleted completed =>
      cases owns : world.ownsActiveWorker .recovery completed.generation with
      | true => exact .leaves (.imp rfl False.elim (handleRecoveryCompleted_leaves reading owns))
      | false =>
          simp only [dispatchMessage, handleRecoveryCompleted, owns]
          exact .still .unchanged
  | recoveryValidationCompleted completed =>
      cases owns : world.ownsActiveWorker .recovery completed.generation with
      | true =>
          exact .leaves (.imp rfl False.elim (handleRecoveryValidationCompleted_leaves reading owns))
      | false =>
          simp only [dispatchMessage, handleRecoveryValidationCompleted, owns]
          exact .still .unchanged

/-- The dispatcher's tasks and the moment say nothing about the queue. -/
theorem Disposes.imp {offer : Option DeferredMutationCommand} {before : World} (between : World)
    {weaker stronger : Prop} {ending : Ending} (backlog : between.backlog = before.backlog)
    (fence : between.fenceDown = before.fenceDown) (implied : stronger → weaker)
    (disposes : Disposes offer between stronger ending) : Disposes offer before weaker ending := by
  cases disposes with
  | returns defers =>
      cases defers with
      | still still => exact .still ⟨still.backlog.trans backlog, fence ▸ still.fence⟩
      | enqueued command offered same up =>
          exact .returns (.enqueued command offered (same.trans (by rw [backlog])) up)
  | leaves leaves => exact .leaves (.imp backlog implied leaves)

theorem offer_internal {reading : Reading} {world : World} {message : Message}
    (internal : message.isExternal = false) : world.offer reading message = none := by
  cases message <;> first | rfl | simp [Message.isExternal] at internal

theorem offer_advance (reading : Reading) (world : World) (message : Message) :
    world.advance.offer reading message = world.offer reading message := by
  cases message <;> rfl

theorem abandonsMessage_external {reading : Reading} {world : World} {message : Message}
    (external : message.isExternal = true) : world.abandonsMessage reading message = false := by
  cases message <;> first | rfl | simp [Message.isExternal] at external

/-- The command that an event may put into the queue. -/
def offers (reading : Reading) (world : World) : Event → Option DeferredMutationCommand
  | .deliver message => world.offer reading message
  | _ => none

theorem dispatchEvent_disposes (reading : Reading) (event : Event) (world : World) :
    Disposes (world.offers reading event) world
      (world.abandons reading event = true ∨ world.fence.deferredMutationCommands = [])
      (world.dispatchEvent reading event) := by
  cases event with
  | deliver message =>
      simp only [dispatchEvent]
      split
      next external =>
        have disposes := dispatchMessage_disposes reading message world.advance
        rw [offer_advance] at disposes
        refine disposes.imp world.advance rfl rfl ?_
        intro abandoned
        rw [abandonsMessage_external external] at abandoned
        exact absurd abandoned (by simp)
      · exact .still .unchanged
  | complete index outcome =>
      simp only [dispatchEvent]
      cases posted : world.completionMessage index outcome with
      | none => exact .still .unchanged
      | some message =>
          obtain ⟨task, _, completes⟩ := Option.bind_eq_some_iff.mp posted
          have disposes := dispatchMessage_disposes reading message (world.removeTask index).advance
          rw [offer_internal (Task.completion_internal completes)] at disposes
          refine disposes.imp (world.removeTask index).advance rfl rfl ?_
          intro abandoned
          cases queue : world.fence.deferredMutationCommands with
          | nil => exact .inr rfl
          | cons command rest =>
              have reason : world.abandonsMessage reading message = true := by
                cases message <;> exact abandoned
              simp [abandons, queue, posted, reason]
  | restoreAttempted => exact .still world.markRestoreAttempted_still
  | tick =>
      have still := handleTick_still reading world.advance
      exact .still ⟨still.backlog, still.fence⟩
  | beginTransientDisconnectSettlement =>
      have still := beginTransientDisconnectSettlement_still reading world.advance
      exact .still ⟨still.backlog, still.fence⟩

theorem Disposes.recorded {offer : Option DeferredMutationCommand} {before : World}
    {reason : Prop} {ending : Ending} (disposes : Disposes offer before reason ending)
    (recorded : before.backlog.Recorded) :
    ending.world.backlog.Recorded := by
  cases disposes with
  | returns defers => exact defers.recorded recorded
  | leaves leaves =>
      cases leaves with
      | raises backlog _ => exact backlog ▸ recorded
      | drains backlog => exact backlog ▸ recorded
      | abandons _ backlog => exact backlog ▸ recorded

/-! ## Drains -/

/-- With the fence down a command that is taken up does not come back. -/
theorem drainOne_backlog (environment : Environment) (command : DeferredMutationCommand)
    (rest : List DeferredMutationCommand) {world : World} (down : world.fenceDown = true) :
    (world.drainOne environment command rest).backlog =
      { queue := rest, moves := world.backlog.moves ++ [.pop command] } := by
  have popped : (world.popDeferred command rest).advance.backlog =
      { queue := rest, moves := world.backlog.moves ++ [.pop command] } := by
    simp
  cases handleDeferred_behind (environment world.ports.moment) command
      (world.popDeferred command rest).advance with
  | refused still _ => exact still.backlog.trans popped
  | accepted _ backlog => exact backlog.trans popped
  | enqueued _ _ raised _ => exact absurd (down.symm.trans raised) (by simp)

theorem drainOne_recorded (environment : Environment) {command : DeferredMutationCommand}
    {rest : List DeferredMutationCommand} {world : World} (recorded : world.backlog.Recorded)
    (down : world.fenceDown = true)
    (queue : world.fence.deferredMutationCommands = command :: rest) :
    (world.drainOne environment command rest).backlog.Recorded := by
  have ledger : Ledger DeferredMutationCommand.isReset world.backlog.moves (command :: rest) :=
    queue ▸ recorded
  rw [drainOne_backlog environment command rest down]
  exact ledger.pop

/-- Enough turns drain the queue or find the fence raised. -/
theorem drainLoop_fenced (environment : Environment) (fuel : Nat) {world : World}
    (enough : world.fence.deferredMutationCommands.length ≤ fuel) :
    (drainLoop environment fuel world).Fenced := by
  induction fuel generalizing world with
  | zero => exact .inl (List.eq_nil_of_length_eq_zero (Nat.le_zero.mp enough))
  | succ fuel ih =>
      simp only [drainLoop]
      cases queue : world.fence.deferredMutationCommands with
      | nil => exact .inl queue
      | cons command rest =>
          simp only
          split
          next down =>
            have shorter := congrArg Backlog.queue (drainOne_backlog environment command rest down)
            have bound : rest.length + 1 ≤ fuel + 1 := by simpa [queue] using enough
            apply ih
            rw [show (world.drainOne environment command rest).fence.deferredMutationCommands = rest
              from shorter]
            omega
          next up => exact .inr (by simpa using up)

theorem conclude_still (epilogue : Epilogue) (world : World) :
    Still world (conclude epilogue world) := by
  cases epilogue with
  | nothing => exact .unchanged
  | exitOnceReset =>
      simp only [conclude, exitOnceReset]
      split
      · exact ⟨by simp, by simp⟩
      · exact .unchanged
  | exitAfterRecovery superseded =>
      simp only [conclude, exitAfterRecovery]
      split
      · exact ⟨by simp, by simp⟩
      · split
        · exact .unchanged
        · exact ⟨by simp, by simp⟩

theorem Still.fenced {before after : World} (still : Still before after) (fenced : before.Fenced) :
    after.Fenced :=
  (.still still : Defers none before after).fenced fenced

theorem Disposes.queue {offer : Option DeferredMutationCommand} {before : World} {reason : Prop}
    {ending : Ending} (disposes : Disposes offer before reason ending)
    {command : DeferredMutationCommand}
    (waits : command ∈ ending.world.fence.deferredMutationCommands) :
    command ∈ before.fence.deferredMutationCommands ∨ offer = some command := by
  have unmoved : ∀ {after : World}, after.backlog = before.backlog →
      command ∈ after.fence.deferredMutationCommands →
      command ∈ before.fence.deferredMutationCommands :=
    fun backlog member => queue_of_backlog backlog ▸ member
  cases disposes with
  | returns defers =>
      cases defers with
      | still still => exact .inl (unmoved still.backlog waits)
      | enqueued entry offered backlog _ =>
          have queue := congrArg Backlog.queue backlog
          simp only [Ending.world] at waits
          simp only [World.backlog, Backlog.push, Queue.enqueue] at queue
          rw [queue] at waits
          rcases List.mem_append.mp waits with kept | new
          · left
            split at kept
            · exact kept
            · exact (List.mem_filter.mp kept).1
          · exact .inr (by rw [offered, List.mem_singleton.mp new])
  | leaves leaves =>
      cases leaves with
      | raises backlog _ => exact .inl (unmoved backlog waits)
      | drains backlog => exact .inl (unmoved backlog waits)
      | abandons _ backlog => exact .inl (unmoved backlog waits)

/-! ## Runs -/

theorem step_recorded (environment : Environment) (event : Event) (world : World)
    (recorded : world.backlog.Recorded) : (world.step environment event).backlog.Recorded := by
  refine finish_preserves (fun world => world.backlog.Recorded) (fun _ => True) environment
    ?_ ?_ _ (fun _ _ => trivial) ((dispatchEvent_disposes _ event world).recorded recorded)
  · intro world command rest recorded down queue _
    exact drainOne_recorded environment recorded down queue
  · intro epilogue world recorded
    exact (conclude_still epilogue world).backlog ▸ recorded

theorem Disposes.fenced {offer : Option DeferredMutationCommand} {before : World} {reason : Prop}
    {ending : Ending} (environment : Environment) (disposes : Disposes offer before reason ending)
    (kept : reason → before.fence.deferredMutationCommands = []) (fenced : before.Fenced) :
    (ending.finish environment).Fenced := by
  cases disposes with
  | returns defers => exact defers.fenced fenced
  | leaves leaves =>
      cases leaves with
      | raises _ up => exact .inr up
      | drains _ => exact (conclude_still _ _).fenced (drainLoop_fenced environment _ (Nat.le_refl _))
      | abandons reason backlog => exact .inl ((queue_of_backlog backlog).trans (kept reason))

theorem step_fenced (environment : Environment) (event : Event) {world : World}
    (kept : world.abandons (environment world.ports.moment) event = false)
    (fenced : world.Fenced) : (world.step environment event).Fenced := by
  refine (dispatchEvent_disposes _ event world).fenced environment ?_ fenced
  rintro (abandoned | empty)
  · exact absurd (kept.symm.trans abandoned) (by simp)
  · exact empty

/-- A command that arrives while others wait starts nothing and lines up behind
every queued RESET. -/
theorem Behind.waits {command : DeferredMutationCommand} {before after : World}
    (behind : Behind command before after) (raised : before.fenceDown = false) :
    after.ports.tasks = before.ports.tasks ∧
      before.fence.deferredMutationCommands.filter DeferredMutationCommand.isReset <+:
        after.fence.deferredMutationCommands.filter DeferredMutationCommand.isReset := by
  cases behind with
  | refused still tasks =>
      refine ⟨tasks, ?_⟩
      simpa only [queue_of_backlog still.backlog] using List.prefix_refl _
  | enqueued backlog tasks _ _ =>
      refine ⟨tasks, ?_⟩
      rw [show after.fence.deferredMutationCommands = _ from congrArg Backlog.queue backlog,
        Backlog.push, enqueue_barriers]
      exact List.prefix_append _ _
  | accepted down _ => exact absurd (down.symm.trans raised) (by simp)

theorem deliver_waits (environment : Environment) {message : Message}
    {command : DeferredMutationCommand} {world : World} (asks : message.command? = some command)
    (waiting : world.fence.deferredMutationCommands ≠ []) (fenced : world.Fenced) :
    (world.step environment (.deliver message)).ports.tasks = world.ports.tasks ∧
      world.fence.deferredMutationCommands.filter DeferredMutationCommand.isReset <+:
        (world.step environment (.deliver message)).fence.deferredMutationCommands.filter
          DeferredMutationCommand.isReset := by
  have raised : world.advance.fenceDown = false := fenced.resolve_left waiting
  have handled : world.step environment (.deliver message) =
      handleDeferred (environment world.ports.moment) command world.advance := by
    cases message <;> simp_all [Message.command?] <;> subst asks <;> rfl
  rw [handled]
  exact (handleDeferred_behind _ command world.advance).waits raised

theorem initial_recorded : initial.backlog.Recorded :=
  Ledger.empty

/-- A RESET waits for the apply worker and is taken up by its completion. -/
def queuedReset : List Event :=
  [.deliver (.apply { request := { configuration := some {} }, connectionEpoch := 1 }),
    .deliver (.reset { connectionEpoch := 1 }), .complete 0 (.apply { status := .ok })]

/-- A confirmed recovery whose staged-state reset fails, with an APPLY queued
behind that reset. -/
def retiredHelper : List Event :=
  [.deliver (.apply { request := { configuration := some {} }, connectionEpoch := 1 }),
    .complete 0 (.apply { status := .ok, stagedStatePrepared := true }),
    .complete 0 (.verification true), .complete 0 (.verification true),
    .deliver (.revert { connectionEpoch := 1, immediate := true }),
    .complete 0 (.recovery
      { success := true, snapshot := some {}, stagedStateResetAttempted := true }),
    .complete 0 (.recoveryValidation true),
    .deliver (.apply { request := { configuration := some {} }, connectionEpoch := 1 }),
    .complete 0 (.resetStagedApplyState false)]

/-- The repair of a disconnected session completes while a RESET waits for it. -/
def disconnectedRepair : List Event :=
  [.deliver (.apply { request := { configuration := some {} }, connectionEpoch := 1 }),
    .complete 0 (.apply { status := .ok }), .beginTransientDisconnectSettlement,
    .complete 0 (.verification true), .complete 0 (.verification false),
    .deliver (.reset { connectionEpoch := 1 }), .complete 0 (.apply { status := .ok })]

/-- After every run, a display event keeps a queued intent exactly when it does
not queue the current request again, or queues that very command. -/
theorem run_displayEvent_keeps_iff (environment : Environment) (events : List Event)
    (event : DisplayEventMessage) {command : DeferredMutationCommand}
    (waits : command ∈ (run environment events).fence.deferredMutationCommands)
    (intent : command.isReset = false) :
    command ∈ ((run environment events).step environment
        (.deliver (.displayEvent event))).fence.deferredMutationCommands ↔
      (run environment events).requeues
          (environment (run environment events).ports.moment) event = false ∨
        command = .apply ((run environment events).restarted
          (environment (run environment events).ports.moment)) := by
  generalize run environment events = world at waits ⊢
  change command ∈ (world.advance.handleDisplayEvent (environment world.ports.moment)
    event).fence.deferredMutationCommands ↔ _
  cases again : world.requeues (environment world.ports.moment) event with
  | true =>
      obtain ⟨backlog, _⟩ := handleDisplayEvent_of_requeues
        (show world.advance.requeues (environment world.ports.moment) event = true from again)
      rw [show (world.advance.handleDisplayEvent (environment world.ports.moment)
        event).fence.deferredMutationCommands = _ from congrArg Backlog.queue backlog, Backlog.push,
        mem_enqueue_of_intent _ intent rfl]
      exact ⟨.inr, fun same => same.resolve_left (by simp)⟩
  | false =>
      have still := handleDisplayEvent_of_not_requeues
        (show world.advance.requeues (environment world.ports.moment) event = false from again)
      rw [queue_of_backlog still.backlog]
      exact ⟨fun _ => .inl rfl, fun _ => waits⟩

/-- A client's DISARM waits for the worker of a virtual-display APPLY. -/
def disarmedVirtualApply : List Event :=
  [.deliver (.apply
      { request := { configuration := some {}, virtualLayout := some "extended" }
        connectionEpoch := 1 }),
    .deliver (.disarm { generation := 1, connectionEpoch := 1 })]

def oneConnection : Environment := fun _ => { connectionEpoch := 1, now := fun _ => seconds 1 }

theorem run_displayEvent_keeps_iff_staleEvent :
    DeferredMutationCommand.disarm { generation := 1, connectionEpoch := 1 } ∈
      ((run oneConnection disarmedVirtualApply).step oneConnection
        (.deliver (.displayEvent { generation := 1 }))).fence.deferredMutationCommands :=
  (run_displayEvent_keeps_iff oneConnection disarmedVirtualApply { generation := 1 } (by decide)
    rfl).mpr (.inl (by decide))

theorem disarm_superseded_by_displayEvent :
    DeferredMutationCommand.disarm { generation := 1, connectionEpoch := 1 } ∈
        (run oneConnection disarmedVirtualApply).fence.deferredMutationCommands ∧
      DeferredMutationCommand.disarm { generation := 1, connectionEpoch := 1 } ∉
        ((run oneConnection disarmedVirtualApply).step oneConnection
          (.deliver (.displayEvent { generation := 2 }))).fence.deferredMutationCommands := by
  decide

end World

end UmbraHost.DisplayHelper
