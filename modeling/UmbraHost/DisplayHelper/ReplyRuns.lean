import UmbraHost.DisplayHelper.HandlerReplies

/-! # One reply for every APPLY

Clients give every APPLY a key of its own.  The machine also queues an APPLY
itself, when a virtual display changes under an active worker, and that one
carries the key of the session it restarts: if the session was answered
already, its acceptance clears the once-only flags and the key is answered
again. -/

namespace UmbraHost.DisplayHelper

open Reply (Entry Orderly)

def ApplyCommand.key (command : ApplyCommand) : ReplyKey :=
  (command.connectionEpoch, command.request.requestId)

/-- The keys of the APPLY commands that clients have sent. -/
def issuedKeys (events : List Event) : List ReplyKey :=
  events.filterMap fun
    | .deliver (.apply command) => some command.key
    | _ => none

/-- A queued APPLY is accepted although its key has been answered. -/
def TakeUp.reopens (takeUp : TakeUp) : Bool :=
  match takeUp.command with
  | .apply command =>
      takeUp.queued && takeUp.world.fenceDown &&
        !takeUp.world.refuses takeUp.reading (.apply command) &&
        !Reply.unanswered command.key takeUp.world.conversation.log
  | _ => false

namespace World

variable {issued : List ReplyKey}

/-- Every queued APPLY carries an issued key. -/
def QueueIssued (issued : List ReplyKey) (world : World) : Prop :=
  ∀ command, .apply command ∈ world.fence.deferredMutationCommands → command.key ∈ issued

/-- A step accepts a queued APPLY whose key has been answered. -/
def reopens (environment : Environment) (event : Event) (world : World) : Bool :=
  (world.takeUps environment event).any (·.reopens)

/-- What a run keeps. -/
structure Served (issued : List ReplyKey) (world : World) : Prop where
  owned : world.Owned
  conversing : world.Conversing issued
  queue : world.QueueIssued issued

theorem Conversing.mono {wider : List ReplyKey} {world : World}
    (conversing : world.Conversing issued) (included : issued ⊆ wider) :
    world.Conversing wider := by
  cases conversing with
  | dormant logged dormant =>
      exact .dormant ⟨logged.orderly, fun key member => included (logged.issued key member)⟩ dormant
  | engaged engaged =>
      obtain ⟨⟨logged, accepted, applyFresh, verificationFresh, initial⟩, answered⟩ := engaged
      exact .engaged ⟨⟨⟨logged.orderly, fun key member => included (logged.issued key member)⟩,
        accepted, applyFresh, verificationFresh, initial⟩, answered⟩

theorem handleDeferred_conversing (reading : Reading) (command : DeferredMutationCommand)
    {world : World} (owned : world.Owned) (conversing : world.Conversing issued)
    (opens : ∀ apply, command = .apply apply → world.fenceDown = true →
      world.refuses reading (.apply apply) = false →
      Reply.unanswered apply.key world.conversation.log = true ∧ apply.key ∈ issued) :
    (world.handleDeferred reading command).Conversing issued := by
  cases command with
  | apply command => exact handleApplyCommand_conversing reading command owned conversing (opens _ rfl)
  | revert command =>
      exact conversing.undisturbed (handleRevertCommand_undisturbed reading command owned)
  | disarm command => exact handleDisarmCommand_conversing reading command owned conversing
  | reset command =>
      exact conversing.undisturbed (world.handleResetCommand_undisturbed reading command)

/-- A message from outside that is no deferrable command disturbs no session. -/
theorem dispatchExternal_undisturbed (reading : Reading) {message : Message} {world : World}
    (owned : world.Owned) (external : message.isExternal = true) (other : message.command? = none) :
    Undisturbed world (world.dispatchMessage reading message).world := by
  cases message with
  | exportGolden command => exact world.handleExportGolden_undisturbed reading command
  | snapshotCurrent command => exact world.handleSnapshotCurrent_undisturbed reading command
  | refreshRate command => exact world.handleRefreshRateCommand_undisturbed reading command
  | ping command => exact world.handlePingCommand_undisturbed reading command
  | stop command => exact world.handleStopCommand_undisturbed reading command
  | displayEvent event => exact handleDisplayEvent_undisturbed reading event owned
  | helperEvent event => exact handleHelperEvent_undisturbed reading event owned
  | apply _ => simp [Message.command?] at other
  | revert _ => simp [Message.command?] at other
  | disarm _ => simp [Message.command?] at other
  | reset _ => simp [Message.command?] at other
  | applyCompleted _ => simp [Message.isExternal] at external
  | verificationCompleted _ => simp [Message.isExternal] at external
  | resetCompleted _ => simp [Message.isExternal] at external
  | refreshRateCompleted _ => simp [Message.isExternal] at external
  | recoveryCompleted _ => simp [Message.isExternal] at external
  | recoveryValidationCompleted _ => simp [Message.isExternal] at external

theorem advance_undisturbed (world : World) : Undisturbed world world.advance :=
  .same rfl rfl rfl rfl id

theorem removeTask_undisturbed (index : Nat) (world : World) :
    Undisturbed world (world.removeTask index).advance := by
  refine ⟨⟨rfl, fun state checking => ⟨state, ?_⟩⟩,
    fun dormant => dormant.same id rfl id⟩
  have sublist : (world.removeTask index).ports.tasks.Sublist world.ports.tasks :=
    List.eraseIdx_sublist _ _
  exact ((sublist.filterMap _).filterMap _).subset checking

theorem dispatchCompletion_conversing (reading : Reading) {index : Nat} {outcome : Outcome}
    {message : Message} {world : World} (owned : world.Owned) (conversing : world.Conversing issued)
    (posted : world.completionMessage index outcome = some message) :
    ((world.removeTask index).advance.dispatchMessage reading message).world.Conversing issued := by
  obtain ⟨task, found, completes⟩ := completionMessage_eq_some posted
  have removed := conversing.undisturbed (world.removeTask_undisturbed index)
  cases completes with
  | apply request delay resetVirtualDisplay generation outcome =>
      obtain ⟨working, hosted, idle⟩ := owned.completesWorker found rfl
      exact handleApplyCompleted_conversing reading (by simpa using working.holder) idle hosted
        removed
  | refreshRate command generation success =>
      obtain ⟨working, hosted, idle⟩ := owned.completesWorker found rfl
      exact removed.undisturbed (handleRefreshRateCompleted_undisturbed
        (by simpa using working.holder) idle hosted)
  | recovery delay generation outcome =>
      exact removed.undisturbed (handleRecoveryCompleted_undisturbed reading _ _)
  | recoveryValidation snapshot generation success =>
      exact removed.undisturbed (handleRecoveryValidationCompleted_undisturbed reading _ _)
  | resetStagedApplyState generation success =>
      exact removed.undisturbed (handleResetCompleted_undisturbed _ _)
  | verification request topology target delay purpose generation success =>
      by_cases current : generation = world.ports.generation
      · subst current
        obtain ⟨checking, awaited, idle⟩ := owned.completesCheck found rfl
        refine handleVerificationCompleted_conversing rfl idle awaited ?_ removed
        rintro rfl
        have verifying : world.fence.state = .verification := awaited
        have engaged := conversing.serving (fun dormant => by
          simpa [verifying] using dormant.away)
        exact engaged.initial verifying (by rw [checking.current]; simp)
      · have stale : (world.removeTask index).advance.dispatchMessage reading
            (.verificationCompleted { success, purpose, generation }) =
              .returns (world.removeTask index).advance := by
          simp [dispatchMessage, handleVerificationCompleted, current]
        rw [stale]
        exact removed

/-- What an event does to the sessions before its drain, once an arriving APPLY
is known to be new. -/
theorem dispatchEvent_conversing (reading : Reading) (event : Event) {world : World}
    (owned : world.Owned) (conversing : world.Conversing issued)
    (arrives : ∀ command, event = .deliver (.apply command) →
      Reply.unanswered command.key world.conversation.log = true ∧ command.key ∈ issued) :
    (world.dispatchEvent reading event).world.Conversing issued := by
  have advanced := conversing.undisturbed world.advance_undisturbed
  have owned' := world.advance_kept.owned owned
  cases event with
  | deliver message =>
      simp only [dispatchEvent]
      split
      next external =>
        cases asks : message.command? with
        | none =>
            exact advanced.undisturbed (dispatchExternal_undisturbed reading owned' external asks)
        | some command =>
            have handled : (world.advance.dispatchMessage reading message).world =
                world.advance.handleDeferred reading command := by
              cases message <;> simp_all [Message.command?] <;> subst asks <;> rfl
            rw [handled]
            refine handleDeferred_conversing reading command owned' advanced ?_
            rintro apply rfl _ _
            refine arrives apply ?_
            cases message <;> simp_all [Message.command?]
      · exact conversing
  | complete index outcome =>
      simp only [dispatchEvent]
      split
      · exact conversing
      next message posted => exact dispatchCompletion_conversing reading owned conversing posted
  | restoreAttempted => exact conversing.undisturbed world.markRestoreAttempted_undisturbed
  | tick => exact advanced.undisturbed (handleTick_undisturbed reading world.advance)
  | beginTransientDisconnectSettlement =>
      exact advanced.undisturbed (beginTransientDisconnectSettlement_undisturbed reading owned')

/-! ## Queued keys -/

/-- The APPLY that a display event queues carries the key of the session served. -/
theorem handleDisplayEvent_queueIssued (reading : Reading) (event : DisplayEventMessage)
    {world : World} (conversing : world.Conversing issued) (queue : world.QueueIssued issued) :
    (world.handleDisplayEvent reading event).QueueIssued issued := by
  intro command waits
  cases again : world.requeues reading event with
  | false =>
      have still := handleDisplayEvent_of_not_requeues again
      exact queue command (queue_of_backlog still.backlog ▸ waits)
  | true =>
      have awake : ¬world.Dormant := by
        intro dormant
        have away := dormant.away
        simp only [requeues, Bool.and_eq_true, Bool.or_eq_true, beq_iff_eq] at again
        obtain ⟨_, monitoring | ⟨⟨applying | verifying, _⟩, _⟩⟩ := again
        · simp [monitoring] at away
        · simp [applying] at away
        · simp [verifying] at away
      have engaged := conversing.serving awake
      have moved := congrArg Backlog.queue (handleDisplayEvent_of_requeues again).1
      simp only [backlog, Backlog.push, Queue.enqueue] at moved
      rw [moved] at waits
      rcases List.mem_append.mp waits with kept | new
      · split at kept
        · exact queue command kept
        · exact queue command (List.mem_filter.mp kept).1
      · obtain rfl : command = world.restarted reading := by simpa using new
        have key : (world.restarted reading).key = world.conversation.key := by
          simp [ApplyCommand.key, restarted, restartCommand]
        rw [key]
        exact engaged.issued _ engaged.accepted

theorem dispatchEvent_queueIssued (reading : Reading) (event : Event) {world : World}
    (conversing : world.Conversing issued) (queue : world.QueueIssued issued)
    (arrives : ∀ command, event = .deliver (.apply command) → command.key ∈ issued) :
    (world.dispatchEvent reading event).world.QueueIssued issued := by
  by_cases display : ∃ message, event = .deliver (.displayEvent message)
  · obtain ⟨message, rfl⟩ := display
    exact handleDisplayEvent_queueIssued reading message
      (conversing.undisturbed world.advance_undisturbed) queue
  · intro command waits
    rcases (dispatchEvent_disposes reading event world).queue waits with queued | offered
    · exact queue command queued
    · cases event with
      | deliver message =>
          cases message with
          | apply arrived =>
              obtain rfl : arrived = command := by simpa [offers, offer, Message.command?] using offered
              exact arrives arrived rfl
          | displayEvent message => exact absurd ⟨message, rfl⟩ display
          | helperEvent message =>
              simp only [offers, offer, heartbeatIntent, Option.some.injEq] at offered
              split at offered <;> simp at offered
          | _ => simp [offers, offer, Message.command?] at offered
      | _ => simp [offers] at offered

/-! ## Runs -/

theorem drainOne_served (environment : Environment) {command : DeferredMutationCommand}
    {rest : List DeferredMutationCommand} {world : World} (served : world.Served issued)
    (down : world.fenceDown = true)
    (queue : world.fence.deferredMutationCommands = command :: rest)
    (once : TakeUp.reopens
      { reading := environment world.ports.moment
        command
        queued := true
        world := (world.popDeferred command rest).advance } = false) :
    (world.drainOne environment command rest).Served issued := by
  have popped : Undisturbed world (world.popDeferred command rest).advance :=
    .same (by simp) (by simp) (by simp) (by simp) (by simp)
  refine ⟨drainOne_owned environment command rest served.owned, ?_, ?_⟩
  · refine handleDeferred_conversing _ command (popDeferred_owned command rest served.owned)
      (served.conversing.undisturbed popped) ?_
    rintro apply rfl lowered accepted
    refine ⟨?_, served.queue apply (queue ▸ List.mem_cons_self)⟩
    simp only [TakeUp.reopens, lowered, accepted] at once
    simpa using once
  · intro apply waits
    have remaining := congrArg Backlog.queue (drainOne_backlog environment command rest down)
    have member : .apply apply ∈ rest := (show _ = rest from remaining) ▸ waits
    exact served.queue apply (queue ▸ List.mem_cons_of_mem _ member)

/-- Once an arriving APPLY is known to be new, a step that reopens no session
keeps every session served. -/
theorem step_served (environment : Environment) (event : Event) {world : World}
    (served : world.Served issued) (once : world.reopens environment event = false)
    (arrives : ∀ command, event = .deliver (.apply command) →
      Reply.unanswered command.key world.conversation.log = true ∧ command.key ∈ issued) :
    (world.step environment event).Served issued := by
  have fresh : ∀ takeUp ∈ world.takeUps environment event, takeUp.reopens = false := by
    simpa [reopens, List.any_eq_false] using once
  refine finish_preserves (fun world => world.Served issued) (fun takeUp => takeUp.reopens = false)
    environment ?_ ?_ _ (fun takeUp member => fresh takeUp (List.mem_append_right _ member)) ?_
  · intro world command rest served down queue once
    exact drainOne_served environment served down queue once
  · intro epilogue world served
    have still := conclude_still epilogue world
    exact ⟨(conclude_kept epilogue world).owned served.owned,
      served.conversing.undisturbed (conclude_undisturbed epilogue world),
      fun command waits => served.queue command (queue_of_backlog still.backlog ▸ waits)⟩
  · exact ⟨(dispatchEvent_progress _ event served.owned).owned served.owned,
      dispatchEvent_conversing _ event served.owned served.conversing arrives,
      dispatchEvent_queueIssued _ event served.conversing served.queue
        (fun command same => (arrives command same).2)⟩

theorem initial_served : initial.Served [] where
  owned := .idle initial_idle
  conversing := .dormant ⟨.empty, by simp [initial]⟩
    ⟨by simp [initial], rfl, rfl, rfl, .inl rfl⟩
  queue := by simp [QueueIssued, initial]

theorem run_served (environment : Environment) (events : List Event)
    (distinct : (issuedKeys events).Nodup)
    (once : Transition.Meets (step environment)
      (fun event world => world.reopens environment event = false) events initial) :
    (run environment events).Served (issuedKeys events) := by
  refine Transition.run_preserves_history (step environment)
    (fun events world => (issuedKeys events).Nodup → world.Served (issuedKeys events))
    (fun _ => initial_served) ?_ events once distinct
  intro past event once served distinct
  rw [Transition.run_append]
  rw [issuedKeys, List.filterMap_append] at distinct
  obtain ⟨before, _, disjoint⟩ := List.nodup_append.mp distinct
  have earlier := served before
  have included : issuedKeys past ⊆ issuedKeys (past ++ [event]) := by
    rw [issuedKeys, issuedKeys, List.filterMap_append]
    exact List.subset_append_left _ _
  refine step_served environment event ⟨earlier.owned, earlier.conversing.mono included,
    fun command waits => included (earlier.queue command waits)⟩ once ?_
  rintro command rfl
  have new : command.key ∈ issuedKeys [.deliver (.apply command)] := List.mem_singleton_self _
  refine ⟨?_, ?_⟩
  · apply earlier.conversing.logged.orderly.unanswered_of_new
    intro accepted
    exact disjoint _ (earlier.conversing.logged.issued _ accepted) _ new rfl
  · rw [issuedKeys, List.filterMap_append]
    exact List.mem_append_right _ new

/-- In every run of clients that issue distinct keys, as long as no answered
session is reopened: each key gets at most one apply result and at most one
verification result, every result is for an APPLY that was issued and accepted
before, and a positive verification follows a positive apply result. -/
theorem run_replies_once (environment : Environment) (events : List Event)
    (distinct : (issuedKeys events).Nodup)
    (once : Transition.Meets (step environment)
      (fun event world => world.reopens environment event = false) events initial) :
    (∀ key, (replies (run environment events).ports.effects).countP (Entry.applies key) ≤ 1 ∧
        (replies (run environment events).ports.effects).countP (Entry.verifies key) ≤ 1) ∧
      (∀ front entry back, replies (run environment events).ports.effects = front ++ entry :: back →
        entry.isResult = true →
          Entry.accepted entry.key ∈ front ∧ entry.key ∈ issuedKeys events) ∧
      ∀ front key back,
        replies (run environment events).ports.effects = front ++ .verified true key :: back →
          Entry.applied .ok key ∈ front := by
  have logged := (run_served environment events distinct once).conversing.logged
  have orderly : Orderly .ok (replies (run environment events).ports.effects) := logged.orderly
  refine ⟨?_, ?_, ?_⟩
  · intro key
    exact ⟨orderly.applies_once key, orderly.verifies_once key⟩
  · intro front entry back split result
    have accepted := orderly.accepted_before split result
    refine ⟨accepted, logged.issued _ ?_⟩
    have earlier := List.mem_append_left (entry :: back) accepted
    rwa [← split] at earlier
  · intro front key back split
    exact orderly.applied_before split

def liveEpoch : Environment := fun _ => { connectionEpoch := 1 }

/-- A session that is applied and verified, then replaced by the next client. -/
def replacedSession : List Event :=
  [.deliver (.apply { request := { configuration := some {}, requestId := 1 }, connectionEpoch := 1 }),
    .complete 0 (.apply { status := .ok }), .complete 0 (.verification true),
    .deliver (.apply { request := { configuration := some {}, requestId := 2 }, connectionEpoch := 1 }),
    .complete 1 (.apply { status := .ok })]

theorem run_replies_once_replacedSession :
    Entry.applied .ok (1, 1) ∈ replies (run liveEpoch replacedSession).ports.effects ∧
      (replies (run liveEpoch replacedSession).ports.effects).countP (Entry.applies (1, 1)) ≤ 1 :=
  ⟨by decide, ((run_replies_once liveEpoch replacedSession (by decide)
    ⟨by decide, by decide, by decide, by decide, by decide, trivial⟩).1 (1, 1)).1⟩

/-- The virtual display of a verified session changes while its refresh rate is
being set. -/
def reopenedSession : List Event :=
  [.deliver (.apply
      { request :=
          { configuration := some { deviceId := "display" }, virtualLayout := some "extended"
            requestId := 7 }
        connectionEpoch := 1 }),
    .complete 0 (.apply { status := .ok }), .complete 0 (.verification true),
    .complete 0 (.verification true),
    .deliver (.refreshRate
      { deviceId := "display", numerator := 60, denominator := 1, connectionEpoch := 1 }),
    .deliver (.displayEvent { generation := 1 }), .complete 0 (.refreshRate true),
    .complete 0 (.apply { status := .ok })]

theorem reopenedSession_answers_twice :
    (issuedKeys reopenedSession).Nodup ∧
      (replies (run liveEpoch reopenedSession).ports.effects).countP (Entry.applies (1, 7)) = 2 := by
  decide

end World

end UmbraHost.DisplayHelper
