import UmbraHost.DisplayHelper.HandlerCustody
import UmbraHost.DisplayHelper.TakeUp

/-! # Ownership of the display

Every worker that may touch the display holds the worker fence, and it is
alone: no check of the current generation is in flight beside it.  A step is
followed up to its drain, then through the commands the drain takes up. -/

namespace UmbraHost.DisplayHelper

namespace World

/-! ## Completions of outstanding tasks -/

theorem handleResetCompleted_kept (completed : ResetCompleted) (world : World) :
    Kept world (world.handleResetCompleted completed).world := by
  simp only [handleResetCompleted]
  split
  · exact .same (by simp) (by simp) (by simp) (by simp)
  · exact .same (by simp) (by simp) (by simp) (by simp)

theorem tasks_split {world : World} {index : Nat} {task : Task}
    (found : world.ports.tasks[index]? = some task) :
    ∃ front back, world.ports.tasks = front ++ [task] ++ back ∧
      (world.removeTask index).ports.tasks = front ++ back := by
  obtain ⟨bound, same⟩ := List.getElem?_eq_some_iff.mp found
  refine ⟨world.ports.tasks.take index, world.ports.tasks.drop (index + 1), ?_, ?_⟩
  · rw [← same, List.append_assoc, List.singleton_append, ← List.drop_eq_getElem_cons bound,
      List.take_append_drop]
  · simp [List.eraseIdx_eq_take_drop_succ]

/-- What removing an outstanding task takes out of the work in flight. -/
theorem removeTask_split {world : World} {index : Nat} {task : Task}
    (found : world.ports.tasks[index]? = some task) :
    (∃ front back, world.custody.owners = front ++ task.owner?.toList ++ back ∧
      (world.removeTask index).advance.custody.owners = front ++ back) ∧
    ∃ front back, world.custody.checks = front ++ task.check?.toList ++ back ∧
      (world.removeTask index).advance.custody.checks = front ++ back := by
  obtain ⟨front, back, all, rest⟩ := tasks_split found
  have owned : owners world.ports.tasks = owners front ++ task.owner?.toList ++ owners back := by
    rw [all, owners_append, owners_append, owners_singleton]
  have checked : checks world.ports.tasks = checks front ++ task.check?.toList ++ checks back := by
    rw [all, checks_append, checks_append, checks_singleton]
  refine ⟨⟨owners front, owners back, owned, ?_⟩, ⟨checks front, checks back, checked, ?_⟩⟩
  · rw [← owners_append, ← rest]
    rfl
  · rw [← checks_append, ← rest]
    rfl

/-- A mutation that completes holds the fence, alone. -/
theorem Owned.completesWorker {world : World} {index : Nat} {task : Task}
    {worker : ActiveMutationWorker} (owned : world.Owned)
    (found : world.ports.tasks[index]? = some task) (mutates : task.owner? = some worker) :
    world.custody.Working worker ∧ worker.kind.Hosted world.fence.state ∧
      ((world.removeTask index).advance.setActiveMutationWorker none).custody.Idle := by
  obtain ⟨⟨front, back, split, rest⟩, before, after, checked, unchecked⟩ := removeTask_split found
  have readOnly : task.check? = none := by cases task <;> simp_all
  have same : (world.removeTask index).advance.custody.checks = world.custody.checks := by
    rw [unchecked, checked, readOnly]
    simp
  rw [mutates] at split
  cases owned with
  | idle idle => simp only [idle.owners] at split; simp at split
  | checking purpose checking _ => simp only [checking.owners] at split; simp at split
  | working active working hosted =>
      rw [working.owners] at split
      obtain ⟨rfl, rfl, rfl⟩ := singleton_split split
      refine ⟨working, hosted, ⟨⟨rfl, rest, ?_⟩, ?_⟩⟩
      · intro check member
        exact working.bounded check (same ▸ member)
      · exact (congrArg (Custody.awaited _) same).trans working.current

/-- A check of the current generation that completes was all that was in flight. -/
theorem Owned.completesCheck {world : World} {index : Nat} {task : Task}
    {purpose : VerificationPurpose} (owned : world.Owned)
    (found : world.ports.tasks[index]? = some task)
    (verifies : task.check? = some { purpose, generation := world.ports.generation }) :
    world.custody.Checking purpose ∧
      purpose.Awaited world.fence.state world.settling.postApplyCheckPending ∧
      (world.removeTask index).advance.custody.Idle := by
  obtain ⟨⟨front, back, split, rest⟩, before, after, checked, unchecked⟩ := removeTask_split found
  have readOnly : task.owner? = none := by cases task <;> simp_all
  rw [readOnly] at split
  have same : (world.removeTask index).advance.custody.owners = world.custody.owners := by
    rw [rest, split]
    simp
  rw [verifies] at checked
  have current : world.custody.current = Custody.awaited world.ports.generation before ++ [purpose] ++
      Custody.awaited world.ports.generation after := by
    rw [Custody.current, checked, Custody.awaited_append, Custody.awaited_append,
      Option.toList_some, Custody.awaited_singleton]
    exact congrArg (_ ++ · ++ _) (if_pos rfl)
  cases owned with
  | idle idle => rw [idle.current] at current; simp at current
  | working active working _ => rw [working.current] at current; simp at current
  | checking expected checking awaited =>
      rw [checking.current] at current
      obtain ⟨rfl, none, none'⟩ := singleton_split current
      refine ⟨checking, awaited, ⟨⟨checking.worker, same.trans checking.owners, ?_⟩, ?_⟩⟩
      · intro check member
        apply checking.bounded check
        rw [checked]
        rw [unchecked] at member
        rcases List.mem_append.mp member with front | back
        · simp [front]
        · simp [back]
      · rw [Custody.current, unchecked, Custody.awaited_append]
        exact List.append_eq_nil_iff.mpr ⟨none, none'⟩

/-- A task that neither mutates nor checks for the current generation completes
without changing what is in flight. -/
theorem removeTask_like {world : World} {index : Nat} {task : Task}
    (found : world.ports.tasks[index]? = some task) (readOnly : task.owner? = none)
    (stale : ∀ check, task.check? = some check → check.generation ≠ world.ports.generation) :
    (world.removeTask index).advance.custody.Like world.custody := by
  obtain ⟨⟨front, back, split, rest⟩, before, after, checked, unchecked⟩ := removeTask_split found
  rw [readOnly] at split
  have lapsed : Custody.awaited world.ports.generation task.check?.toList = [] := by
    cases verifies : task.check? with
    | none => rfl
    | some check =>
        rw [Option.toList_some, Custody.awaited_singleton, if_neg (stale check verifies)]
  refine ⟨rfl, rfl, ?_, ?_, ?_⟩
  · rw [rest, split]
    simp
  · rw [Custody.current, Custody.current, checked, unchecked, Custody.awaited_append,
      Custody.awaited_append, Custody.awaited_append]
    change _ = _ ++ Custody.awaited world.ports.generation task.check?.toList ++ _
    rw [lapsed]
    simp
  · intro check member
    rw [unchecked] at member
    rw [checked]
    rcases List.mem_append.mp member with front | back
    · simp [front]
    · simp [back]

theorem removeTask_kept {world : World} {index : Nat} {task : Task}
    (found : world.ports.tasks[index]? = some task) (readOnly : task.owner? = none)
    (stale : ∀ check, task.check? = some check → check.generation ≠ world.ports.generation) :
    Kept world (world.removeTask index).advance :=
  .like (removeTask_like found readOnly stale) rfl rfl id

/-! ## Steps -/

/-- What one event can do before its drain.  Only a finished disconnect ladder, a
cancelled worker and a REVERT with nothing to restore leave the machine without
work in a state it does not rest in. -/
inductive Progress (reading : Reading) (event : Event) (before after : World) : Prop where
  | kept (kept : Kept before after)
  | settled (settled : after.Settled)
  | disturbed (pending : before.settling.transientDisconnectCheckPending = true)
      (engaged : before.fence.state = .inProgress ∨ before.fence.state = .verification)
      (other : before.custody.current ≠ [.transientDisconnect]) (idle : after.custody.Idle)
  | spent (spent : before.SettlementSpent) (idle : after.custody.Idle)
  | cancelled (worker : ActiveMutationWorker) (working : before.custody.Working worker)
      (stale : worker.generation ≠ before.ports.generation) (idle : after.custody.Idle)
      (queue : after.fence.deferredMutationCommands = before.fence.deferredMutationCommands)
  | stranded (command : RevertCommand) (delivered : event = .deliver (.revert command))
      (down : before.fenceDown = true)
      (accepted : before.refuses reading (.revert command) = false)
      (nothing : before.findsNothing reading (.revert command) = true)
      (idle : after.custody.Idle) (state : after.fence.state = before.fence.state)

theorem Progress.owned {reading : Reading} {event : Event} {before after : World}
    (owned : before.Owned) (progress : Progress reading event before after) : after.Owned := by
  cases progress with
  | kept kept => exact kept.owned owned
  | settled settled => exact settled.owned
  | disturbed _ _ _ idle => exact .idle idle
  | spent _ idle => exact .idle idle
  | cancelled _ _ _ idle _ => exact .idle idle
  | stranded _ _ _ _ _ idle _ => exact .idle idle

theorem advance_kept (world : World) : Kept world world.advance :=
  .same rfl rfl rfl id

theorem Progress.of_lands {reading : Reading} {event : Event} {before after : World}
    (lands : Kept before.advance after ∨ after.Settled) : Progress reading event before after := by
  rcases lands with kept | settled
  · exact .kept (before.advance_kept.trans kept)
  · exact .settled settled

theorem dispatchMessage_progress (reading : Reading) {message : Message} {world : World}
    (owned : world.Owned) (external : message.isExternal = true) :
    Progress reading (.deliver message) world (world.advance.dispatchMessage reading message).world := by
  have owned := world.advance_kept.owned owned
  cases message with
  | apply command => exact .of_lands ((handleApplyCommand_takenUp reading command owned).lands rfl)
  | revert command =>
      cases handleRevertCommand_takenUp reading command owned with
      | refused _ same => exact .of_lands (.inl (.of_eq same))
      | waits _ kept => exact .of_lands (.inl kept)
      | resets reset => simp at reset
      | accepted settled => exact .settled settled
      | nothing down accepted nothing idle state =>
          exact .stranded command rfl down accepted nothing idle state
  | disarm command =>
      exact .of_lands ((handleDisarmCommand_takenUp reading command owned).lands rfl)
  | exportGolden command => exact .of_lands (.inl (handleExportGolden_kept reading command _))
  | snapshotCurrent command =>
      exact .of_lands (.inl (handleSnapshotCurrent_kept reading command _))
  | refreshRate command => exact .of_lands (handleRefreshRateCommand_lands reading command owned)
  | reset command => exact .of_lands (.inl (handleResetCommand_kept reading command _))
  | ping command => exact .of_lands (.inl (handlePingCommand_kept reading command _))
  | stop command => exact .of_lands (.inl (handleStopCommand_kept reading command _))
  | displayEvent event => exact .of_lands (handleDisplayEvent_lands reading event owned)
  | helperEvent event => exact .of_lands (handleHelperEvent_lands reading event owned)
  | applyCompleted _ => simp [Message.isExternal] at external
  | verificationCompleted _ => simp [Message.isExternal] at external
  | resetCompleted _ => simp [Message.isExternal] at external
  | refreshRateCompleted _ => simp [Message.isExternal] at external
  | recoveryCompleted _ => simp [Message.isExternal] at external
  | recoveryValidationCompleted _ => simp [Message.isExternal] at external

theorem completionMessage_eq_some {world : World} {index : Nat} {outcome : Outcome}
    {message : Message} (posted : world.completionMessage index outcome = some message) :
    ∃ task, world.ports.tasks[index]? = some task ∧ task.Completes outcome message := by
  obtain ⟨task, found, completes⟩ := Option.bind_eq_some_iff.mp posted
  exact ⟨task, found, Task.completes_of_completion completes⟩

theorem Retired.progress {reading : Reading} {event : Event} {before removed after : World}
    {worker : ActiveMutationWorker} (retired : Retired worker.generation removed after)
    (working : before.custody.Working worker) (fence : removed.fence = before.fence)
    (settling : removed.settling = before.settling)
    (generation : removed.ports.generation = before.ports.generation) :
    Progress reading event before after := by
  cases retired with
  | cancelled stale idle queue =>
      rw [generation] at stale
      rw [fence] at queue
      exact .cancelled worker working stale idle queue
  | settled settled =>
      rw [fence, settling] at settled
      rcases settled with settled | ⟨⟨pending, applying⟩, idle, _⟩
      · exact .settled settled
      · exact .disturbed pending (.inl applying) (by rw [working.current]; simp) idle

theorem dispatchCompletion_progress (reading : Reading) {index : Nat} {outcome : Outcome}
    {message : Message} {world : World} (owned : world.Owned)
    (posted : world.completionMessage index outcome = some message) :
    Progress reading (.complete index outcome) world
      ((world.removeTask index).advance.dispatchMessage reading message).world := by
  obtain ⟨task, found, completes⟩ := completionMessage_eq_some posted
  cases completes with
  | apply request delay resetVirtualDisplay generation outcome =>
      obtain ⟨working, hosted, idle⟩ := owned.completesWorker found rfl
      have retired := handleApplyCompleted_retired reading
        { toApplyOutcome := outcome, generation } (by simpa using working.holder) idle hosted
      refine retired.progress working ?_ ?_ ?_ <;> rfl
  | refreshRate command generation success =>
      obtain ⟨working, hosted, idle⟩ := owned.completesWorker found rfl
      have retired := handleRefreshRateCompleted_retired
        { success
          deviceId := command.deviceId
          numerator := command.numerator
          denominator := command.denominator
          generation
          connectionEpoch := command.connectionEpoch
          requestId := command.requestId } (by simpa using working.holder) idle hosted
      refine retired.progress working ?_ ?_ ?_ <;> rfl
  | recovery delay generation outcome =>
      obtain ⟨working, _, idle⟩ := owned.completesWorker found rfl
      have retired := handleRecoveryCompleted_retired reading
        { toRecoveryOutcome := outcome, generation } (by simpa using working.holder) idle
      refine retired.progress working ?_ ?_ ?_ <;> rfl
  | recoveryValidation snapshot generation success =>
      obtain ⟨working, _, idle⟩ := owned.completesWorker found rfl
      have retired := handleRecoveryValidationCompleted_retired reading
        { success, generation } (by simpa using working.holder) idle
      refine retired.progress working ?_ ?_ ?_ <;> rfl
  | resetStagedApplyState generation success =>
      have removed := removeTask_kept found rfl (by simp)
      exact .kept (removed.trans (handleResetCompleted_kept _ _))
  | verification request topology target delay purpose generation success =>
      by_cases current : generation = world.ports.generation
      · subst current
        obtain ⟨checking, awaited, idle⟩ := owned.completesCheck found rfl
        rcases handleVerificationCompleted_settled
          { success, purpose, generation := world.ports.generation } (by simp) idle awaited with
          settled | ⟨⟨initial, pending⟩, idle, _⟩
        · exact .settled settled
        · obtain rfl : purpose = .initial := initial
          exact .disturbed pending (.inr awaited) (by rw [checking.current]; simp) idle
      · have removed := removeTask_kept found rfl (by simpa using current)
        refine .kept (removed.trans (.of_eq ?_))
        simp [dispatchMessage, handleVerificationCompleted, current]

theorem markRestoreAttempted_kept (world : World) : Kept world world.markRestoreAttempted := by
  simp only [markRestoreAttempted]
  split
  · exact .same rfl rfl rfl id
  · exact .unchanged

theorem dispatchEvent_progress (reading : Reading) (event : Event) {world : World}
    (owned : world.Owned) :
    Progress reading event world (world.dispatchEvent reading event).world := by
  have advanced := world.advance_kept.owned owned
  cases event with
  | deliver message =>
      simp only [dispatchEvent]
      split
      next external => exact dispatchMessage_progress reading owned external
      · exact .kept .unchanged
  | complete index outcome =>
      simp only [dispatchEvent]
      split
      · exact .kept .unchanged
      next message posted => exact dispatchCompletion_progress reading owned posted
  | restoreAttempted => exact .kept world.markRestoreAttempted_kept
  | tick => exact .of_lands (handleTick_lands reading advanced)
  | beginTransientDisconnectSettlement =>
      rcases beginTransientDisconnectSettlement_lands reading advanced with kept | settled
      · exact .of_lands (.inl kept)
      · rcases settled with settled | ⟨spent, idle, _⟩
        · exact .settled settled
        · exact .spent spent idle

/-! ## Drains and runs -/

theorem conclude_kept (epilogue : Epilogue) (world : World) : Kept world (conclude epilogue world) := by
  cases epilogue with
  | nothing => exact .unchanged
  | exitOnceReset =>
      simp only [conclude, exitOnceReset]
      split
      · exact .same (by simp) (by simp) (by simp) (by simp)
      · exact .unchanged
  | exitAfterRecovery superseded =>
      simp only [conclude, exitAfterRecovery]
      split
      · exact .same (by simp) (by simp) (by simp) (by simp)
      · split
        · exact .unchanged
        · exact .same (by simp) (by simp) (by simp) (by simp)

theorem popDeferred_owned {world : World} (command : DeferredMutationCommand)
    (rest : List DeferredMutationCommand) (owned : world.Owned) :
    (world.popDeferred command rest).advance.Owned := by
  cases owned with
  | idle idle => exact .idle (by simpa using idle)
  | working worker working hosted => exact .working worker (by simpa using working) hosted
  | checking purpose checking awaited => exact .checking purpose (by simpa using checking) awaited

theorem drainOne_owned (environment : Environment) {world : World}
    (command : DeferredMutationCommand) (rest : List DeferredMutationCommand)
    (owned : world.Owned) : (world.drainOne environment command rest).Owned :=
  (handleDeferred_takenUp _ command (popDeferred_owned command rest owned)).owned
    (popDeferred_owned command rest owned)

theorem finish_owned (environment : Environment) (ending : Ending) (owned : ending.world.Owned) :
    (ending.finish environment).Owned :=
  finish_preserves Owned (fun _ => True) environment
    (fun _ command rest owned _ _ _ => drainOne_owned environment command rest owned)
    (fun epilogue world => (conclude_kept epilogue world).owned) ending (fun _ _ => trivial) owned

theorem step_owned (environment : Environment) (event : Event) (world : World)
    (owned : world.Owned) : (world.step environment event).Owned :=
  finish_owned environment _ ((dispatchEvent_progress _ event owned).owned owned)

theorem initial_idle : initial.custody.Idle where
  worker := rfl
  owners := rfl
  bounded := by simp [initial]
  current := rfl

theorem run_owned (environment : Environment) (events : List Event) :
    (run environment events).Owned :=
  Transition.run_preserves (step environment) Owned (step_owned environment) events
    (.idle initial_idle)

/-- The fence names the outstanding mutations: none, or the one it holds. -/
theorem Owned.owners {world : World} (owned : world.Owned) :
    DisplayHelper.owners world.ports.tasks = world.fence.activeMutationWorker.toList := by
  cases owned with
  | idle idle => exact idle.owners.trans (congrArg Option.toList idle.worker).symm
  | working worker working _ => exact working.owners.trans (congrArg Option.toList working.holder).symm
  | checking purpose checking _ => exact checking.owners.trans (congrArg Option.toList checking.worker).symm

/-- Over every run at most one mutation is outstanding, and the fence names it:
whichever outstanding mutation completes next owns the fence, and no other
mutation is outstanding beside it. -/
theorem run_single_mutation_owner (environment : Environment) (events : List Event) :
    (DisplayHelper.owners (run environment events).ports.tasks).length ≤ 1 ∧
      (∀ worker, DisplayHelper.owners (run environment events).ports.tasks = [worker] ↔
        (run environment events).fence.activeMutationWorker = some worker) ∧
      ∀ index task worker, (run environment events).ports.tasks[index]? = some task →
        task.owner? = some worker →
        (run environment events).ownsActiveWorker worker.kind worker.generation = true ∧
          DisplayHelper.owners ((run environment events).removeTask index).ports.tasks = [] := by
  have owned := run_owned environment events
  have named := owned.owners
  refine ⟨?_, ?_, ?_⟩
  · rw [named]
    cases (run environment events).fence.activeMutationWorker <;> simp
  · intro worker
    rw [named]
    cases (run environment events).fence.activeMutationWorker <;> simp
  · intro index task worker found mutates
    obtain ⟨working, _, idle⟩ := owned.completesWorker found mutates
    exact ⟨by simpa using working.holder, idle.owners⟩

end World

end UmbraHost.DisplayHelper
