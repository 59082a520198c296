import UmbraHost.DisplayHelper.Ladders
import UmbraHost.DisplayHelper.DeferredQueue
import UmbraHost.Transition.Replies

/-! # What the handlers reply

The once-only flags speak about the request being served.  A session is engaged
from the acceptance of its APPLY until a DISARM or an invalid request leaves the
machine dormant: no worker, check or ladder of that session is left that could
reply. -/

namespace UmbraHost.DisplayHelper

open Reply (Entry Orderly)

abbrev ReplyKey := Nat × Nat

abbrev ReplyEntry := Entry ReplyKey ApplyStatus

def Effect.reply? : Effect → Option ReplyEntry
  | .applyAccepted connectionEpoch requestId => some (.accepted (connectionEpoch, requestId))
  | .applyResult status connectionEpoch requestId =>
      some (.applied status (connectionEpoch, requestId))
  | .verificationResult success connectionEpoch requestId =>
      some (.verified success (connectionEpoch, requestId))
  | _ => none

def replies (effects : List Effect) : List ReplyEntry :=
  effects.filterMap Effect.reply?

@[simp] theorem replies_nil : replies [] = [] := rfl

@[simp] theorem replies_append (first second : List Effect) :
    replies (first ++ second) = replies first ++ replies second := by
  simp [replies]

@[simp] theorem replies_cons (effect : Effect) (rest : List Effect) :
    replies (effect :: rest) = effect.reply?.toList ++ replies rest := by
  cases effect <;> rfl

attribute [simp] Effect.reply?

@[simp] theorem replies_ite (condition : Prop) [Decidable condition] (first second : List Effect) :
    replies (if condition then first else second) =
      if condition then replies first else replies second :=
  apply_ite replies condition first second

@[simp] theorem replies_dispatched (tasks : List Task) : replies (tasks.map .dispatched) = [] :=
  filterMap_dispatched _ (fun _ => rfl) tasks

@[simp] theorem replies_captureFilteredAndSave (reading : Reading) (tier : SnapshotTier)
    (exclusions : List String) (remaining attempt : Nat) :
    replies (World.captureFilteredAndSave reading tier exclusions remaining attempt).1 = [] :=
  filterMap_captureFilteredAndSave _ (fun _ _ _ _ => rfl) reading tier exclusions remaining attempt

@[simp] theorem replies_refreshCurrentPreservingPrevious (reading : Reading)
    (exclusions : List String) :
    replies (World.refreshCurrentPreservingPrevious reading exclusions).1 = [] :=
  filterMap_refreshCurrentPreservingPrevious _ (fun _ _ _ _ => rfl) reading exclusions

namespace World

@[simp] theorem retargetRequest_requestId (resolved : String) (request : ApplyRequest) :
    (retargetRequest resolved request).requestId = request.requestId := by
  simp only [retargetRequest]
  split
  · split <;> rfl
  · rfl

end World

/-- The replies sent so far and the once-only flags of the request being served. -/
structure Conversation where
  log : List ReplyEntry
  key : ReplyKey
  applyResultSent : Bool
  verificationResultSent : Bool

namespace World

@[simp] def conversation (world : World) : Conversation :=
  { log := replies world.ports.effects
    key := (world.session.currentConnectionEpoch, world.session.currentRequest.requestId)
    applyResultSent := world.session.applyResultSent
    verificationResultSent := world.session.verificationResultSent }

/-- Nothing of the session is left that could reply. -/
structure Dormant (world : World) : Prop where
  away : world.fence.state.Away
  delays : world.settling.postApplyStabilizationDelays = []
  unchecked : world.settling.postApplyCheckPending = false
  unrequested : world.settling.transientDisconnectSettlementRequested = false
  ended : world.settling.lastApplyStarted = none ∨
    world.session.currentRequest.configuration = none

/-- Every reply so far is in order and answers an issued key. -/
structure Logged (issued : List ReplyKey) (world : World) : Prop where
  orderly : Orderly .ok world.conversation.log
  issued : ∀ key, .accepted key ∈ world.conversation.log → key ∈ issued

/-- The session was accepted, and an unset flag means that no reply was sent. -/
structure Opened (issued : List ReplyKey) (world : World) : Prop extends Logged issued world where
  accepted : .accepted world.conversation.key ∈ world.conversation.log
  applyFresh : world.session.applyResultSent = false →
    world.conversation.log.countP (Entry.applies world.conversation.key) = 0
  verificationFresh : world.session.verificationResultSent = false →
    world.conversation.log.countP (Entry.verifies world.conversation.key) = 0
  initial : world.fence.state = .verification → .initial ∈ world.custody.current →
    world.session.applyResultSent = true

/-- An apply result that was not positive came with a verification result. -/
structure Engaged (issued : List ReplyKey) (world : World) : Prop extends Opened issued world where
  answered : world.session.applyResultSent = true →
    .applied .ok world.conversation.key ∈ world.conversation.log ∨
      world.session.verificationResultSent = true

/-- A step that replies nothing and starts no initial verification. -/
structure Silent (before after : World) : Prop where
  conversation : after.conversation = before.conversation
  initial : after.fence.state = .verification → .initial ∈ after.custody.current →
    before.fence.state = .verification ∧ .initial ∈ before.custody.current

theorem Silent.unchanged {world : World} : Silent world world :=
  ⟨rfl, fun state checking => ⟨state, checking⟩⟩

theorem Silent.trans {before between after : World} (first : Silent before between)
    (second : Silent between after) : Silent before after where
  conversation := second.conversation.trans first.conversation
  initial := fun state checking =>
    have ⟨state, checking⟩ := second.initial state checking
    first.initial state checking

theorem Silent.same {before after : World} (conversation : after.conversation = before.conversation)
    (state : after.fence.state = before.fence.state)
    (current : after.custody.current = before.custody.current) : Silent before after :=
  ⟨conversation, fun verifying checking => ⟨state ▸ verifying, current ▸ checking⟩⟩

theorem Silent.moved {before after : World}
    (conversation : after.conversation = before.conversation)
    (elsewhere : after.fence.state ≠ .verification) : Silent before after :=
  ⟨conversation, fun verifying _ => absurd verifying elsewhere⟩

theorem Silent.unawaited {before after : World}
    (conversation : after.conversation = before.conversation)
    (current : .initial ∉ after.custody.current) : Silent before after :=
  ⟨conversation, fun _ checking => absurd checking current⟩

variable {issued : List ReplyKey}

theorem Silent.logged {before after : World} (silent : Silent before after)
    (logged : before.Logged issued) : after.Logged issued where
  orderly := by rw [silent.conversation]; exact logged.orderly
  issued := by rw [silent.conversation]; exact logged.issued

theorem Silent.opened {before after : World} (silent : Silent before after)
    (opened : before.Opened issued) : after.Opened issued := by
  have applied : after.session.applyResultSent = before.session.applyResultSent :=
    congrArg Conversation.applyResultSent silent.conversation
  have verified : after.session.verificationResultSent = before.session.verificationResultSent :=
    congrArg Conversation.verificationResultSent silent.conversation
  refine ⟨silent.logged opened.toLogged, ?_, ?_, ?_, ?_⟩
  · rw [silent.conversation]
    exact opened.accepted
  · rw [applied, silent.conversation]
    exact opened.applyFresh
  · rw [verified, silent.conversation]
    exact opened.verificationFresh
  · intro verifying checking
    obtain ⟨state, current⟩ := silent.initial verifying checking
    exact applied.trans (opened.initial state current)

theorem Silent.engaged {before after : World} (silent : Silent before after)
    (engaged : before.Engaged issued) : after.Engaged issued := by
  have applied : after.session.applyResultSent = before.session.applyResultSent :=
    congrArg Conversation.applyResultSent silent.conversation
  have verified : after.session.verificationResultSent = before.session.verificationResultSent :=
    congrArg Conversation.verificationResultSent silent.conversation
  refine ⟨silent.opened engaged.toOpened, ?_⟩
  rw [applied, verified, silent.conversation]
  exact engaged.answered

/-- A silent step that leaves a dormant machine dormant. -/
structure Undisturbed (before after : World) : Prop extends Silent before after where
  dormant : before.Dormant → after.Dormant

theorem Undisturbed.unchanged {world : World} : Undisturbed world world :=
  ⟨.unchanged, id⟩

theorem Undisturbed.trans {before between after : World} (first : Undisturbed before between)
    (second : Undisturbed between after) : Undisturbed before after :=
  ⟨first.toSilent.trans second.toSilent, second.dormant ∘ first.dormant⟩

/-- The settling flags and the request of a dormant machine are left alone. -/
theorem Dormant.same {before after : World} (dormant : before.Dormant)
    (away : before.fence.state.Away → after.fence.state.Away)
    (settling : after.settling = before.settling)
    (unconfigured : before.session.currentRequest.configuration = none →
      after.session.currentRequest.configuration = none) : after.Dormant where
  away := away dormant.away
  delays := by rw [settling]; exact dormant.delays
  unchecked := by rw [settling]; exact dormant.unchecked
  unrequested := by rw [settling]; exact dormant.unrequested
  ended := by rw [settling]; exact dormant.ended.imp_right unconfigured

/-- The machine stays where it is and so does everything it waits for. -/
theorem Undisturbed.same {before after : World}
    (conversation : after.conversation = before.conversation)
    (state : after.fence.state = before.fence.state)
    (current : after.custody.current = before.custody.current)
    (settling : after.settling = before.settling)
    (unconfigured : before.session.currentRequest.configuration = none →
      after.session.currentRequest.configuration = none) : Undisturbed before after :=
  ⟨.same conversation state current,
    fun dormant => dormant.same (state ▸ id) settling unconfigured⟩

/-- A handler that a dormant machine does not reach. -/
theorem Undisturbed.awake {before after : World} (silent : Silent before after)
    (awake : ¬before.Dormant) : Undisturbed before after :=
  ⟨silent, fun dormant => absurd dormant awake⟩

/-- Between two steps the machine serves a session or is dormant. -/
inductive Conversing (issued : List ReplyKey) (world : World) : Prop where
  | dormant (logged : world.Logged issued) (dormant : world.Dormant)
  | engaged (engaged : world.Engaged issued)

theorem Conversing.undisturbed {before after : World} (conversing : before.Conversing issued)
    (undisturbed : Undisturbed before after) : after.Conversing issued := by
  cases conversing with
  | dormant logged dormant => exact .dormant (undisturbed.logged logged) (undisturbed.dormant dormant)
  | engaged engaged => exact .engaged (undisturbed.engaged engaged)

theorem Owned.hosting {world : World} (owned : world.Owned)
    (up : world.fence.activeMutationWorker.isSome = true) : world.fence.state ≠ .verification := by
  obtain ⟨worker, _, hosted⟩ := owned.held up
  intro verifying
  cases kind : worker.kind <;> simp [kind, verifying] at hosted

/-! ## Commands -/

theorem acceptRevertCommand_undisturbed (reading : Reading) (command : RevertCommand)
    {world : World} (free : world.custody.Free) :
    Undisturbed world (world.acceptRevertCommand reading command) := by
  have idle := free.cancel
  simp only [acceptRevertCommand]
  split
  · exact ⟨.moved (by simp) (by simp),
      fun _ => ⟨by simp, by simp, by simp, by simp, by simp⟩⟩
  · split
    · refine ⟨.unawaited (by simp) (by simpa using idle.current ▸ List.not_mem_nil), ?_⟩
      intro dormant
      exact ⟨by simpa using dormant.away, by simpa using dormant.delays,
        by simpa using dormant.unchecked, by simp, by simp⟩
    · exact ⟨.moved (by simp) (by simp), fun dormant =>
        ⟨by simp, by simp, by simp, by simpa using dormant.unrequested, by simpa using dormant.ended⟩⟩

theorem noteRevert_undisturbed (command : RevertCommand) (world : World) :
    Undisturbed world (world.noteRevert command) :=
  ⟨.same (by simp) (by simp) (by simp), fun dormant =>
    ⟨by simpa using dormant.away, by simpa using dormant.delays, by simpa using dormant.unchecked,
      by simp [dormant.unrequested], by simpa using dormant.ended⟩⟩

theorem handleRevertCommand_undisturbed (reading : Reading) (command : RevertCommand)
    {world : World} (owned : world.Owned) :
    Undisturbed world (world.handleRevertCommand reading command) := by
  have noted := world.noteRevert_undisturbed command
  simp only [handleRevertCommand]
  split
  · exact .unchanged
  · split
    · exact noted
    · split
      next up =>
        have hosting := owned.hosting (by simpa using up)
        exact noted.trans ⟨.moved (by simp) (by simpa using hosting),
          fun dormant => dormant.same (by simp) (by simp) (by simp)⟩
      next down =>
        split
        · exact noted.trans (.same (by simp) (by simp) (by simp) (by simp) (by simp))
        · have free := owned.free (by simpa using down)
          exact noted.trans (acceptRevertCommand_undisturbed reading command (by simpa using free))

theorem handleResetCommand_undisturbed (reading : Reading) (command : ResetCommand)
    (world : World) : Undisturbed world (world.handleResetCommand reading command) := by
  simp only [handleResetCommand]
  split
  · exact .unchanged
  · split
    · exact .same (by simp) (by simp) (by simp) (by simp) (by simp)
    · split
      · exact .same (by simp) (by simp) (by simp) (by simp) (by simp)
      · exact .same (by simp) (by simp) (by simp) (by simp) (by simp)

theorem handleExportGolden_undisturbed (reading : Reading) (command : ExportGoldenCommand)
    (world : World) : Undisturbed world (world.handleExportGolden reading command) := by
  simp only [handleExportGolden]
  split
  · exact .unchanged
  · split
    · exact .unchanged
    · split
      · exact .same (by simp) (by simp) (by simp) (by simp) (by simp)
      · exact .same (by simp) (by simp) (by simp) (by simp) (by simp)

theorem handleSnapshotCurrent_undisturbed (reading : Reading) (command : SnapshotCurrentCommand)
    (world : World) : Undisturbed world (world.handleSnapshotCurrent reading command) := by
  simp only [handleSnapshotCurrent]
  split
  · exact .unchanged
  · split
    · exact .same (by simp) (by simp) (by simp) (by simp) (by simp)
    · exact .same (by simp) (by simp) (by simp) (by simp) (by simp)

theorem handlePingCommand_undisturbed (reading : Reading) (command : PingCommand) (world : World) :
    Undisturbed world (world.handlePingCommand reading command) := by
  simp only [handlePingCommand]
  split
  · exact .unchanged
  · exact .same (by simp) (by simp) (by simp) (by simp) (by simp)

theorem handleStopCommand_undisturbed (reading : Reading) (command : StopCommand) (world : World) :
    Undisturbed world (world.handleStopCommand reading command) := by
  simp only [handleStopCommand]
  split
  · exact .unchanged
  · exact .same (by simp) (by simp) (by simp) (by simp) (by simp)

theorem handleRefreshRateCommand_undisturbed (reading : Reading) (command : RefreshRateCommand)
    (world : World) : Undisturbed world (world.handleRefreshRateCommand reading command) := by
  simp only [handleRefreshRateCommand]
  split
  · exact .unchanged
  · split
    · exact .same (by simp) (by simp) (by simp) (by simp) (by simp)
    · split
      · exact .same (by simp) (by simp) (by simp) (by simp) (by simp)
      next resting =>
        split
        · exact .same (by simp) (by simp) (by simp) (by simp) (by simp)
        · split
          next pending =>
            have elsewhere : world.fence.state ≠ .verification := by
              intro verifying
              simp [verifying] at resting
            exact .awake (.moved (by simp) (by simpa using elsewhere))
              (fun dormant => by simp [dormant.unchecked] at pending)
          · exact .same (by simp) (by simp) (by simp [Custody.current]) (by simp) (by simp)

/-! ## Events -/

theorem displayEventWhileMonitoring_silent (reading : Reading) {world : World}
    (monitoring : world.fence.state = .virtualDisplayMonitoring) :
    Silent world (world.displayEventWhileMonitoring reading) := by
  simp only [displayEventWhileMonitoring]
  split
  · split
    · exact .unchanged
    · exact .moved (by simp) (by simp [monitoring])
  · split
    · split
      · exact .unchanged
      · exact .moved (by simp) (by simp [monitoring])
    · exact .moved (by simp) (by simp)

theorem displayEventDuringApply_silent (reading : Reading) {world : World} (owned : world.Owned) :
    Silent world (world.displayEventDuringApply reading) := by
  simp only [displayEventDuringApply]
  split
  · exact .unchanged
  · split
    · exact .unchanged
    · split
      next up => exact .moved (by simp) (by simpa using owned.hosting (by simpa using up))
      · exact .moved (by simp) (by simp)

theorem displayEventInEventLoop_undisturbed (reading : Reading) (world : World) :
    Undisturbed world (world.displayEventInEventLoop reading) := by
  simp only [displayEventInEventLoop]
  split
  · split
    · exact ⟨.moved (by simp) (by simp), fun dormant =>
        dormant.same (by simp) (by simp) (by simp)⟩
    · exact .same (by simp) (by simp) (by simp) (by simp) (by simp)
  · exact .unchanged

theorem handleDisplayEvent_undisturbed (reading : Reading) (event : DisplayEventMessage)
    {world : World} (owned : world.Owned) :
    Undisturbed world (world.handleDisplayEvent reading event) := by
  simp only [handleDisplayEvent]
  split
  · exact .unchanged
  · split
    next monitoring =>
      exact .awake (displayEventWhileMonitoring_silent reading monitoring)
        (fun dormant => by simpa [monitoring] using dormant.away)
    next applying =>
      split
      · exact .awake (displayEventDuringApply_silent reading owned)
          (fun dormant => by simpa [applying] using dormant.away)
      · exact .unchanged
    next verifying =>
      split
      · exact .awake (displayEventDuringApply_silent reading owned)
          (fun dormant => by simpa [verifying] using dormant.away)
      · exact .unchanged
    · exact world.displayEventInEventLoop_undisturbed reading
    · exact .unchanged

theorem handleHelperEvent_undisturbed (reading : Reading) (event : HelperEventMessage)
    {world : World} (owned : world.Owned) :
    Undisturbed world (world.handleHelperEvent reading event) := by
  simp only [handleHelperEvent]
  split
  · exact .unchanged
  · split
    · exact .unchanged
    · split
      · exact .unchanged
      · split
        · exact .unchanged
        · split
          next up =>
            split
            · exact .unchanged
            · exact ⟨.moved (by simp) (by simpa using owned.hosting (by simpa using up)),
                fun dormant => dormant.same (by simp) (by simp) (by simp)⟩
          · split
            · exact ⟨.moved (by simp) (by simp),
                fun _ => ⟨by simp, by simp, by simp, by simp, by simp⟩⟩
            · exact ⟨.moved (by simp) (by simp), fun dormant => ⟨by simp, by simp, by simp,
                by simpa using dormant.unrequested, by simpa using dormant.ended⟩⟩

theorem handleTick_undisturbed (reading : Reading) (world : World) :
    Undisturbed world (world.handleTick reading) := by
  simp only [handleTick]
  split
  · exact .unchanged
  · split
    · exact .same (by simp) (by simp) (by simp) (by simp) (by simp)
    · split
      · exact ⟨.moved (by simp) (by simp), fun dormant =>
          dormant.same (by simp) (by simp) (by simp)⟩
      · exact .same (by simp) (by simp) (by simp) (by simp) (by simp)

theorem markRestoreAttempted_undisturbed (world : World) :
    Undisturbed world world.markRestoreAttempted := by
  simp only [markRestoreAttempted]
  split
  · exact .same rfl rfl rfl rfl id
  · exact .unchanged

theorem conclude_undisturbed (epilogue : Epilogue) (world : World) :
    Undisturbed world (conclude epilogue world) := by
  cases epilogue with
  | nothing => exact .unchanged
  | exitOnceReset =>
      simp only [conclude, exitOnceReset]
      split
      · exact .same (by simp) (by simp) (by simp) (by simp) (by simp)
      · exact .unchanged
  | exitAfterRecovery superseded =>
      simp only [conclude, exitAfterRecovery]
      split
      · exact .same (by simp) (by simp) (by simp) (by simp) (by simp)
      · split
        · exact .unchanged
        · exact .same (by simp) (by simp) (by simp) (by simp) (by simp)

/-! ## Ladders -/

theorem dispatchNextTransientDisconnectVerification_undisturbed {world : World}
    (idle : world.custody.Idle) :
    Undisturbed world world.dispatchNextTransientDisconnectVerification.2 := by
  rcases world.dispatchNextTransientDisconnectVerification_cases with
    ⟨pending, _⟩ | done | ⟨requested, delay, next⟩
  · rw [pending]
    exact .unchanged
  · rw [done]
    exact ⟨.same (by simp) (by simp) (by simp), fun dormant =>
      ⟨by simpa using dormant.away, by simpa using dormant.delays,
        by simpa using dormant.unchecked, by simp, by simpa using dormant.ended⟩⟩
  · rw [next]
    have checking := (idle.verify .transientDisconnect).current
    refine .awake (.unawaited (by simp) ?_) (fun dormant => by simp [dormant.unrequested] at requested)
    rw [show (world.dispatchTransientDisconnectCheck delay).custody =
      world.custody.verify .transientDisconnect by simp, checking]
    simp

theorem scheduleNextPostApplyStabilization_undisturbed {world : World}
    (elsewhere : world.fence.state ≠ .verification ∨ world.custody.Idle) :
    Undisturbed world world.scheduleNextPostApplyStabilization := by
  simp only [scheduleNextPostApplyStabilization]
  split
  · exact .unchanged
  · split
    · exact .unchanged
    next delay found =>
      refine .awake ?_ (fun dormant => by simp [dormant.delays] at found)
      rcases elsewhere with state | idle
      · exact .moved (by simp) (by simpa using state)
      · have checking := (idle.verify .stabilization).current
        refine .unawaited (by simp) ?_
        rw [show (world.dispatchStabilization delay).custody =
          world.custody.verify .stabilization by simp, checking]
        simp

theorem enterSteadyState_silent (world : World) : Silent world world.enterSteadyState := by
  refine .moved (by simp) ?_
  rcases world.steadyState_cases with waiting | monitoring
  · simp [waiting]
  · simp [monitoring]

theorem requestTransientDisconnectSettlement_silent {world : World} (owned : world.Owned) :
    Silent world world.requestTransientDisconnectSettlement := by
  rcases world.requestTransientDisconnectSettlement_cases with ⟨_, same⟩ | ⟨down, same⟩
  · rw [same]
    exact .same (by simp) (by simp) (by simp)
  · rw [same]
    rcases world.noteTransientDisconnect.replacePostApplyStabilization_cases with
      ⟨_, cancelled⟩ | ⟨_, kept⟩
    · rw [cancelled]
      have idle := (owned.free down).cancel
      exact .unawaited (by simp) (by simpa using idle.current ▸ List.not_mem_nil)
    · rw [kept]
      exact .same (by simp) (by simp) (by simp)

theorem beginTransientDisconnectSettlement_undisturbed (reading : Reading) {world : World}
    (owned : world.Owned) :
    Undisturbed world (world.beginTransientDisconnectSettlement reading).2 := by
  simp only [beginTransientDisconnectSettlement]
  split
  · exact .unchanged
  next recent =>
    have awake : ¬world.Dormant := by
      intro dormant
      rcases dormant.ended with ended | unconfigured
      · simp [shouldDeferDisconnectRecovery, ended] at recent
      · simp [unconfigured] at recent
    have requested := requestTransientDisconnectSettlement_silent owned
    split
    · exact .unchanged
    · split
      · exact .awake requested awake
      next decides =>
        have idle := requestTransientDisconnectSettlement_idle owned (by simpa using decides)
        exact .awake (requested.trans
          (dispatchNextTransientDisconnectVerification_undisturbed idle).toSilent) awake

/-! ## Replies -/

theorem replies_applyReply (status : ApplyStatus) (world : World) :
    replies (world.applyReply status) =
      if world.session.applyResultSent then [] else [.applied status world.conversation.key] := by
  simp only [applyReply]
  split <;> rfl

theorem replies_verificationReply (success : Bool) (world : World) :
    replies (world.verificationReply success) =
      if world.session.verificationResultSent then []
      else [.verified success world.conversation.key] := by
  simp only [verificationReply]
  split <;> rfl

theorem Opened.sendApplyResult {world : World} (opened : world.Opened issued)
    (status : ApplyStatus) : (world.sendApplyResult status).Opened issued := by
  cases sent : world.session.applyResultSent with
  | true =>
      rw [World.sendApplyResult, if_pos sent]
      exact opened
  | false =>
      have log : (world.sendApplyResult status).conversation.log =
          world.conversation.log ++ [.applied status world.conversation.key] := by
        simp [replies_applyReply, sent]
      have key : (world.sendApplyResult status).conversation.key = world.conversation.key := by
        simp
      refine ⟨⟨?_, ?_⟩, ?_, ?_, ?_, ?_⟩
      · rw [log]
        exact opened.orderly.apply status opened.accepted (opened.applyFresh sent)
      · rw [log]
        simpa using opened.issued
      · rw [log, key]
        exact List.mem_append_left _ opened.accepted
      · simp
      · intro fresh
        rw [log, key, List.countP_append, opened.verificationFresh (by simpa using fresh)]
        rfl
      · simp

theorem Opened.sendVerificationResult {world : World} (opened : world.Opened issued)
    (success : Bool) (applied : success = true → world.session.verificationResultSent = false →
      .applied .ok world.conversation.key ∈ world.conversation.log) :
    (world.sendVerificationResult success).Opened issued := by
  cases sent : world.session.verificationResultSent with
  | true =>
      rw [World.sendVerificationResult, if_pos sent]
      exact opened
  | false =>
      have log : (world.sendVerificationResult success).conversation.log =
          world.conversation.log ++ [.verified success world.conversation.key] := by
        simp [replies_verificationReply, sent]
      have key : (world.sendVerificationResult success).conversation.key =
          world.conversation.key := by
        simp
      refine ⟨⟨?_, ?_⟩, ?_, ?_, ?_, ?_⟩
      · rw [log]
        exact opened.orderly.verify success opened.accepted (opened.verificationFresh sent)
          (fun positive => applied positive sent)
      · rw [log]
        simpa using opened.issued
      · rw [log, key]
        exact List.mem_append_left _ opened.accepted
      · intro fresh
        rw [log, key, List.countP_append, opened.applyFresh (by simpa using fresh)]
        rfl
      · simp
      · intro verifying checking
        simpa using opened.initial (by simpa using verifying) (by simpa using checking)

/-- Once a verification result is out, the flags need no more of the log. -/
theorem Opened.engaged {world : World} (opened : world.Opened issued)
    (sent : world.session.verificationResultSent = true) : world.Engaged issued :=
  ⟨opened, fun _ => .inr sent⟩

theorem Engaged.sendVerificationResult {world : World} (engaged : world.Engaged issued)
    (success : Bool) (applied : success = true → world.session.applyResultSent = true) :
    (world.sendVerificationResult success).Engaged issued := by
  refine Opened.engaged (engaged.toOpened.sendVerificationResult success ?_) (by simp)
  intro positive fresh
  exact (engaged.answered (applied positive)).resolve_right (by simp [fresh])

theorem Engaged.sendApplyResult_ok {world : World} (engaged : world.Engaged issued) :
    (world.sendApplyResult .ok).Engaged issued := by
  refine ⟨engaged.toOpened.sendApplyResult .ok, fun _ => ?_⟩
  cases sent : world.session.applyResultSent with
  | true =>
      rw [World.sendApplyResult, if_pos sent]
      exact engaged.answered sent
  | false =>
      left
      simp [replies_applyReply, sent]

theorem Engaged.reportFailedApply {world : World} (engaged : world.Engaged issued)
    (status : ApplyStatus) : (world.reportFailedApply status).Engaged issued := by
  rw [reportFailedApply_eq]
  exact Opened.engaged ((engaged.toOpened.sendApplyResult status).sendVerificationResult false
    (by simp)) (by simp)

/-- The initial verification starts once the apply result is out. -/
theorem Engaged.verifying {before after : World} (engaged : before.Engaged issued)
    (sent : before.session.applyResultSent = true)
    (conversation : after.conversation = before.conversation) : after.Engaged issued := by
  have silent : Silent before { after with fence := { after.fence with state := .waiting } } :=
    .moved (by simpa using conversation) (by simp)
  obtain ⟨⟨logged, accepted, applyFresh, verificationFresh, _⟩, answered⟩ := silent.engaged engaged
  exact ⟨⟨⟨logged.orderly, logged.issued⟩, accepted, applyFresh, verificationFresh, fun _ _ =>
    (congrArg Conversation.applyResultSent conversation).trans sent⟩, answered⟩

theorem Conversing.serving {world : World} (conversing : world.Conversing issued)
    (awake : ¬world.Dormant) : world.Engaged issued := by
  cases conversing with
  | dormant _ dormant => exact absurd dormant awake
  | engaged engaged => exact engaged

/-! ## Apply completions -/

theorem landedRepair_silent {world : World} (idle : world.custody.Idle) :
    Silent world
      world.landTransientDisconnectRepair.dispatchNextTransientDisconnectVerification.2 := by
  have landed : Silent world world.landTransientDisconnectRepair :=
    .same (by simp) (by simp) (by simp)
  have free : world.landTransientDisconnectRepair.custody.Idle := by simpa using idle
  exact landed.trans (dispatchNextTransientDisconnectVerification_undisturbed free).toSilent

theorem settleSuccessfulApply_engaged {world : World} (idle : world.custody.Idle)
    (engaged : world.Engaged issued) : world.settleSuccessfulApply.world.Engaged issued := by
  simp only [settleSuccessfulApply]
  split
  · have next := landedRepair_silent idle
    split
    · exact next.engaged engaged
    · have confirmed : ∀ settled : World, Silent settled settled.confirmSession :=
        fun settled => .same (by simp) (by simp) (by simp)
      exact ((next.trans (confirmed _)).trans (enterSteadyState_silent _)).engaged engaged
  · exact engaged.sendApplyResult_ok.verifying (by simp) (by simp)

theorem releaseFailedApply_silent (completed : ApplyCompleted) (world : World) :
    Silent world (world.releaseFailedApply completed) :=
  .same (by simp) (by simp) (by simp)

theorem transition_silent {next : State} (elsewhere : next ≠ .verification) (world : World) :
    Silent world (world.transition next) :=
  .moved (by simp) elsewhere

theorem concludeFailedApply_engaged (completed : ApplyCompleted) {world : World}
    (engaged : world.Engaged issued) :
    (world.concludeFailedApply completed).world.Engaged issued := by
  have released := (releaseFailedApply_silent completed _).engaged
    (engaged.reportFailedApply completed.status)
  simp only [concludeFailedApply]
  split
  · exact (enterSteadyState_silent _).engaged released
  · exact (transition_silent (by simp) _).engaged released

theorem retryFailedApply_engaged (completed : ApplyCompleted) {world : World}
    (engaged : world.Engaged issued) : (world.retryFailedApply completed).world.Engaged issued := by
  simp only [retryFailedApply]
  split
  · exact (Silent.same (by simp) (by simp) (by simp [Custody.current])).engaged engaged
  · split
    · refine Silent.engaged (.moved ?_ ?_) engaged
      · simp [fallbackToSdr, disableHdr]
      · simp [fallbackToSdr]
    · exact concludeFailedApply_engaged completed engaged

theorem settleOrRetryFailedApply_engaged (completed : ApplyCompleted) {world : World}
    (idle : world.custody.Idle) (engaged : world.Engaged issued) :
    (world.settleOrRetryFailedApply completed).world.Engaged issued := by
  simp only [settleOrRetryFailedApply]
  split
  · have next := landedRepair_silent idle
    split
    · exact next.engaged engaged
    · exact retryFailedApply_engaged completed (next.engaged engaged)
  · exact retryFailedApply_engaged completed engaged

theorem settleApply_engaged (reading : Reading) (completed : ApplyCompleted) {world : World}
    (idle : world.custody.Idle) (engaged : world.Engaged issued) :
    (world.settleApply reading completed).world.Engaged issued := by
  have recorded : (world.recordApplyOutcome reading completed).Engaged issued :=
    (Silent.same (by simp) (by simp) (by simp)).engaged engaged
  simp only [settleApply]
  split
  · exact settleSuccessfulApply_engaged (by simpa using idle) recorded
  · simp only [settleFailedApply]
    split
    · exact (Silent.same (by simp) (by simp) (by simp [Custody.current])).engaged recorded
    · exact settleOrRetryFailedApply_engaged completed (by simpa using idle)
        ((Silent.same (by simp) (by simp) (by simp)).engaged recorded)

theorem handleApplyCompleted_conversing (reading : Reading) {completed : ApplyCompleted}
    {world : World} (owns : world.ownsActiveWorker .apply completed.generation = true)
    (idle : (world.setActiveMutationWorker none).custody.Idle)
    (applying : world.fence.state = .inProgress) (conversing : world.Conversing issued) :
    (world.handleApplyCompleted reading completed).world.Conversing issued := by
  have engaged := conversing.serving (fun dormant => by simpa [applying] using dormant.away)
  simp only [handleApplyCompleted, owns, ↓reduceIte]
  split
  · simp only [retireCancelledApply]
    split
    · exact .engaged (Silent.engaged (.moved (by simp [retainRecoveryAfterDisplayMutation])
        (by simp [retainRecoveryAfterDisplayMutation, applying])) engaged)
    · exact .engaged (Silent.engaged (.moved (by simp) (by simp [applying])) engaged)
  · exact .engaged (settleApply_engaged reading completed (by simpa using idle)
      (Silent.engaged (.moved (by simp) (by simp [applying])) engaged))

/-! ## Verification completions -/

theorem settleDisconnectedCheck_silent {world : World} (idle : world.custody.Idle) :
    Silent world world.settleDisconnectedCheck := by
  have next := (dispatchNextTransientDisconnectVerification_undisturbed idle).toSilent
  simp only [settleDisconnectedCheck]
  split
  · exact next
  · split
    · exact next.trans (enterSteadyState_silent _)
    · exact next.trans (transition_silent (by simp) _)

theorem handleTransientDisconnectCheck_silent (success : Bool) (world : World) :
    Silent world (world.handleTransientDisconnectCheck success) := by
  simp only [handleTransientDisconnectCheck]
  split
  · refine Silent.trans ?_ (enterSteadyState_silent _)
    split
    · exact .same (by simp) (by simp) (by simp)
    · exact .same (by simp) (by simp) (by simp)
  · split
    · exact .moved (by simp) (by simp)
    · exact .moved (by simp) (by simp)

theorem handleStabilizationSuccess_silent {world : World} (idle : world.custody.Idle) :
    Silent world world.handleStabilizationSuccess := by
  simp only [handleStabilizationSuccess]
  split
  · have next := (dispatchNextTransientDisconnectVerification_undisturbed idle).toSilent
    split
    · exact next
    · exact next.trans (enterSteadyState_silent _)
  · exact (scheduleNextPostApplyStabilization_undisturbed (.inr idle)).toSilent

theorem handleStabilizationFailure_silent {world : World} (idle : world.custody.Idle) :
    Silent world world.handleStabilizationFailure := by
  simp only [handleStabilizationFailure]
  split
  · exact settleDisconnectedCheck_silent idle
  · exact .moved (by simp) (by simp)

theorem releaseCaptureGate_engaged {world : World} (engaged : world.Engaged issued)
    (sent : world.session.applyResultSent = true) : world.releaseCaptureGate.Engaged issued := by
  have gate : ∀ {settled : World}, Silent world settled →
      World.Engaged issued
        (if (settled.sendVerificationResult true).session.currentRequest.hdrBlank then
          (settled.sendVerificationResult true).emit (.blankHdrStates 1000)
        else settled.sendVerificationResult true) := by
    intro settled silent
    have verified := (silent.engaged engaged).sendVerificationResult true
      (fun _ => (congrArg Conversation.applyResultSent silent.conversation).trans sent)
    split
    · exact (Silent.same (by simp) (by simp) (by simp)).engaged verified
    · exact verified
  simp only [releaseCaptureGate]
  split
  · exact engaged
  · refine gate ?_
    split
    · exact .same (by simp) (by simp) (by simp)
    · exact .same (by simp) (by simp) (by simp)

theorem handleInitialSuccess_engaged {world : World} (idle : world.custody.Idle)
    (engaged : world.Engaged issued) (sent : world.session.applyResultSent = true) :
    world.handleInitialSuccess.Engaged issued := by
  have released := releaseCaptureGate_engaged engaged sent
  have still : world.releaseCaptureGate.custody.Idle := by
    obtain ⟨fence, _, generation, tasks, _⟩ := world.releaseCaptureGate_frame
    simpa [fence, generation, tasks] using idle
  simp only [handleInitialSuccess]
  split
  · have next := (dispatchNextTransientDisconnectVerification_undisturbed still).toSilent
    split
    · exact next.engaged released
    · exact (next.trans (enterSteadyState_silent _)).engaged released
  · have next := (scheduleNextPostApplyStabilization_undisturbed (.inr still)).toSilent
    exact (next.trans (enterSteadyState_silent _)).engaged released

theorem dispatchNextVerificationReapply_silent (world : World) :
    Silent world world.dispatchNextVerificationReapply.2 := by
  rcases world.dispatchNextVerificationReapply_cases with same | omitted | ⟨delay, reapplied⟩
  · rw [same]
    exact .unchanged
  · rw [omitted]
    exact .same (by simp) (by simp) (by simp)
  · rw [reapplied]
    exact .moved (by simp) (by simp)

theorem handleInitialFailure_engaged {world : World} (idle : world.custody.Idle)
    (engaged : world.Engaged issued) : world.handleInitialFailure.Engaged issued := by
  simp only [handleInitialFailure]
  split
  · exact (settleDisconnectedCheck_silent idle).engaged engaged
  · have rewound : Silent world world.rewindPostApplyStabilization :=
      .same (by simp) (by simp) (by simp)
    have next := (rewound.trans (dispatchNextVerificationReapply_silent _)).engaged engaged
    split
    · exact next
    · split
      · exact (enterSteadyState_silent _).engaged next
      · exact (transition_silent (by simp) _).engaged (next.sendVerificationResult false (by simp))

theorem handleVerificationCompleted_conversing {completed : VerificationCompleted} {world : World}
    (current : completed.generation = world.ports.generation) (idle : world.custody.Idle)
    (awaited : completed.purpose.Awaited world.fence.state world.settling.postApplyCheckPending)
    (sent : completed.purpose = .initial → world.session.applyResultSent = true)
    (conversing : world.Conversing issued) :
    (world.handleVerificationCompleted completed).Conversing issued := by
  have fresh : world.isStale completed.generation = false := by simp [current]
  simp only [handleVerificationCompleted, fresh]
  cases purpose : completed.purpose with
  | transientDisconnect =>
      simp only [purpose] at awaited
      have engaged := conversing.serving (fun dormant => by
        have away := dormant.away
        simp_all)
      exact .engaged ((handleTransientDisconnectCheck_silent _ world).engaged engaged)
  | stabilization =>
      simp only [purpose] at awaited
      have engaged := conversing.serving (fun dormant => by
        have unchecked := dormant.unchecked
        simp_all)
      have checked : Silent world { world with settling :=
          { world.settling with postApplyCheckPending := false } } :=
        .same (by simp) (by simp) (by simp)
      simp only [Bool.false_eq_true, ↓reduceIte]
      split
      · exact .engaged ((checked.trans
          (handleStabilizationSuccess_silent (by simpa using idle))).engaged engaged)
      · exact .engaged ((checked.trans
          (handleStabilizationFailure_silent (by simpa using idle))).engaged engaged)
  | initial =>
      simp only [purpose] at awaited
      have engaged := conversing.serving (fun dormant => by
        have away := dormant.away
        simp_all)
      simp only [Bool.false_eq_true, ↓reduceIte]
      split
      · exact .engaged (handleInitialSuccess_engaged idle engaged (sent purpose))
      · exact .engaged (handleInitialFailure_engaged idle engaged)

/-! ## The other completions -/

theorem handleResetCompleted_undisturbed (completed : ResetCompleted) (world : World) :
    Undisturbed world (world.handleResetCompleted completed).world := by
  simp only [handleResetCompleted]
  split
  · exact .same (by simp) (by simp) (by simp) (by simp) (by simp)
  · exact .same (by simp) (by simp) (by simp) (by simp) (by simp)

theorem replacePostApplyStabilization_silent {world : World}
    (elsewhere : world.fence.state ≠ .verification) :
    Silent world world.replacePostApplyStabilizationWithTransientDisconnectSettlement := by
  rcases world.replacePostApplyStabilization_cases with ⟨_, same⟩ | ⟨_, same⟩
  · rw [same]
    exact .moved (by simp) (by simpa using elsewhere)
  · rw [same]
    exact .moved (by simp) (by simpa using elsewhere)

@[simp] theorem recordRefreshRate_requestId (completed : RefreshRateCompleted)
    (request : ApplyRequest) : (recordRefreshRate completed request).requestId = request.requestId := by
  simp only [recordRefreshRate]
  split <;> rfl

@[simp] theorem recordRefreshRate_unconfigured (completed : RefreshRateCompleted)
    (request : ApplyRequest) :
    (recordRefreshRate completed request).configuration = none ↔ request.configuration = none := by
  simp only [recordRefreshRate]
  split <;> simp

theorem restartSettlingAfterRefresh_undisturbed (completed : RefreshRateCompleted) {world : World}
    (elsewhere : world.fence.state ≠ .verification) :
    Undisturbed world (world.restartSettlingAfterRefresh completed) := by
  simp only [restartSettlingAfterRefresh]
  split
  next requested =>
    refine .awake (.trans (.moved (by simp) ?_) (replacePostApplyStabilization_silent ?_)) ?_
    · simpa using elsewhere
    · simpa using elsewhere
    · intro dormant
      simp [dormant.unrequested] at requested
  · refine .trans ⟨.moved (by simp) ?_, fun dormant => ?_⟩
      (scheduleNextPostApplyStabilization_undisturbed (.inl (by simpa using elsewhere)))
    · simpa using elsewhere
    · exact ⟨by simpa using dormant.away, by simpa using dormant.delays, by simp,
        by simpa using dormant.unrequested, by simpa using dormant.ended⟩

theorem settleAfterRefresh_undisturbed (completed : RefreshRateCompleted) {world : World}
    (idle : world.custody.Idle)
    (steady : world.fence.state = .waiting ∨ world.fence.state = .virtualDisplayMonitoring) :
    Undisturbed world (world.settleAfterRefresh completed) := by
  have elsewhere : world.fence.state ≠ .verification := by
    rcases steady with state | state <;> simp [state]
  have restarted := restartSettlingAfterRefresh_undisturbed completed elsewhere
  simp only [settleAfterRefresh]
  cases requested : world.settling.transientDisconnectSettlementRequested with
  | true =>
      split
      · obtain ⟨idle, _, requested⟩ := restartSettlingAfterRefresh_idle completed idle requested
        rw [if_pos requested]
        exact restarted.trans (dispatchNextTransientDisconnectVerification_undisturbed idle)
      · exact dispatchNextTransientDisconnectVerification_undisturbed idle
  | false =>
      split
      · obtain ⟨_, unrequested⟩ :=
          restartSettlingAfterRefresh_settled completed idle steady requested
        rw [if_neg (by simp [unrequested])]
        exact restarted
      · rw [if_neg (by simp [requested])]
        exact .unchanged

theorem handleRefreshRateCompleted_undisturbed {completed : RefreshRateCompleted} {world : World}
    (owns : world.ownsActiveWorker .refreshRate completed.generation = true)
    (idle : (world.setActiveMutationWorker none).custody.Idle)
    (steady : world.fence.state = .waiting ∨ world.fence.state = .virtualDisplayMonitoring) :
    Undisturbed world (world.handleRefreshRateCompleted completed).world := by
  have lowered : Undisturbed world (world.setActiveMutationWorker none) :=
    .same (by simp) (by simp) (by simp [Custody.current]) (by simp) (by simp)
  simp only [handleRefreshRateCompleted, owns, ↓reduceIte]
  split
  · exact lowered
  · have settled := settleAfterRefresh_undisturbed completed idle (by simpa using steady)
    exact (lowered.trans settled).trans (.same (by simp) (by simp) (by simp) (by simp) (by simp))

theorem handleRecoveryCompleted_undisturbed (reading : Reading) (completed : RecoveryCompleted)
    (world : World) : Undisturbed world (world.handleRecoveryCompleted reading completed).world := by
  simp only [handleRecoveryCompleted]
  split
  · split
    · split
      · exact .same (by simp) (by simp) (by simp [Custody.current]) (by simp) (by simp)
      · exact .same (by simp) (by simp) (by simp [Custody.current]) (by simp) (by simp)
    · split
      · simp only [startRecoveryValidation]
        exact ⟨.moved (by simp) (by simp), fun dormant =>
          dormant.same (by simp) (by simp) (by simp)⟩
      · exact ⟨.moved (by simp) (by simp), fun dormant =>
          dormant.same (by simp) (by simp) (by simp)⟩
  · exact .unchanged

theorem handleRecoveryValidationCompleted_undisturbed (reading : Reading)
    (completed : RecoveryValidationCompleted) (world : World) :
    Undisturbed world (world.handleRecoveryValidationCompleted reading completed).world := by
  simp only [handleRecoveryValidationCompleted]
  split
  · split
    · exact .same (by simp) (by simp) (by simp [Custody.current]) (by simp) (by simp)
    · split
      · exact ⟨.moved (by simp) (by simp), fun dormant =>
          dormant.same (by simp) (by simp) (by simp)⟩
      · exact ⟨.moved (by simp) (by simp), fun dormant =>
          dormant.same (by simp) (by simp) (by simp)⟩
  · exact .unchanged

/-! ## Sessions begin and end -/

theorem acceptApplyCommand_conversing (reading : Reading) (command : ApplyCommand) {world : World}
    (logged : world.Logged issued)
    (fresh : Reply.unanswered (command.connectionEpoch, command.request.requestId)
      world.conversation.log = true)
    (known : (command.connectionEpoch, command.request.requestId) ∈ issued)
    (unrequested : world.settling.transientDisconnectSettlementRequested = false) :
    (world.acceptApplyCommand reading command).Conversing issued := by
  have accepted := logged.orderly.accept (command.connectionEpoch, command.request.requestId)
  have first := Reply.applies_none_of_unanswered fresh
  have second := Reply.verifies_none_of_unanswered fresh
  have issued' : ∀ key, .accepted key ∈ world.conversation.log ++
      [.accepted (command.connectionEpoch, command.request.requestId)] → key ∈ issued := by
    intro key member
    rcases List.mem_append.mp member with earlier | now
    · exact logged.issued key earlier
    · obtain rfl := Entry.accepted.inj (List.mem_singleton.mp now)
      exact known
  simp only [acceptApplyCommand]
  split
  next unconfigured =>
    refine .dormant ⟨?_, ?_⟩ ⟨?_, ?_, ?_, ?_, ?_⟩
    · have refused := accepted.apply .invalidRequest
        (List.mem_append_right _ (List.mem_singleton_self _))
        (by rw [List.countP_append, first]; rfl)
      simpa [replies_applyReply] using refused
    · simpa [replies_applyReply] using issued'
    · simp
    · simp
    · simp
    · simpa using unrequested
    · simp [unconfigured]
  next configuration _ =>
    refine .engaged ⟨⟨⟨?_, ?_⟩, ?_, ?_, ?_, ?_⟩, ?_⟩
    · simpa using accepted
    · simpa using issued'
    · simp
    · intro _
      simpa [List.countP_append, Entry.applies] using first
    · intro _
      simpa [List.countP_append, Entry.verifies] using second
    · simp
    · simp

theorem acceptDisarmCommand_conversing {world : World} (logged : world.Logged issued)
    (unrequested : world.settling.transientDisconnectSettlementRequested = false) :
    world.acceptDisarmCommand.Conversing issued := by
  simp only [acceptDisarmCommand]
  split
  · refine .dormant ⟨by simpa using logged.orderly, by simpa using logged.issued⟩
      ⟨?_, ?_, ?_, ?_, ?_⟩
    all_goals simp [unrequested]
  · refine .dormant ⟨by simpa using logged.orderly, by simpa using logged.issued⟩
      ⟨?_, ?_, ?_, ?_, ?_⟩
    all_goals simp

theorem Conversing.logged {world : World} (conversing : world.Conversing issued) :
    world.Logged issued := by
  cases conversing with
  | dormant logged _ => exact logged
  | engaged engaged => exact engaged.toLogged

/-- An APPLY or DISARM clears older recovery intent before it may have to wait. -/
theorem clearIntent_undisturbed (world : World) :
    Undisturbed world (resetTransientDisconnectSettlement
      { world with lease := { world.lease with explicitRecoveryRequired := false } }) :=
  ⟨.same (by simp) (by simp) (by simp), fun dormant =>
    ⟨by simpa using dormant.away, by simpa using dormant.delays, by simpa using dormant.unchecked,
      by simp, by simpa using dormant.ended⟩⟩

theorem handleApplyCommand_conversing (reading : Reading) (command : ApplyCommand) {world : World}
    (owned : world.Owned) (conversing : world.Conversing issued)
    (opens : world.fenceDown = true → world.refuses reading (.apply command) = false →
      Reply.unanswered (command.connectionEpoch, command.request.requestId)
          world.conversation.log = true ∧
        (command.connectionEpoch, command.request.requestId) ∈ issued) :
    (world.handleApplyCommand reading command).Conversing issued := by
  have ready := conversing.undisturbed world.clearIntent_undisturbed
  simp only [handleApplyCommand]
  split
  · exact conversing
  next live =>
    split
    next up =>
      have hosting := owned.hosting (by simpa using up)
      exact ready.undisturbed ⟨.moved (by simp) (by simpa using hosting),
        fun dormant => dormant.same (by simp) (by simp) (by simp)⟩
    next down =>
      split
      · exact ready.undisturbed (.same (by simp) (by simp) (by simp) (by simp) (by simp))
      next settled =>
        obtain ⟨fresh, known⟩ := opens (by simp_all) (by simpa [refuses] using live)
        exact acceptApplyCommand_conversing reading command ready.logged (by simpa using fresh) known
          (by simp)

theorem handleDisarmCommand_conversing (reading : Reading) (command : DisarmCommand)
    {world : World} (owned : world.Owned) (conversing : world.Conversing issued) :
    (world.handleDisarmCommand reading command).Conversing issued := by
  have ready := conversing.undisturbed world.clearIntent_undisturbed
  simp only [handleDisarmCommand]
  split
  · exact conversing
  · split
    · exact conversing
    · split
      · exact ready.undisturbed (.same (by simp) (by simp) (by simp) (by simp) (by simp))
      · split
        next up =>
          have hosting := owned.hosting (by simpa using up)
          exact ready.undisturbed ⟨.moved (by simp) (by simpa using hosting),
            fun dormant => dormant.same (by simp) (by simp) (by simp)⟩
        · exact acceptDisarmCommand_conversing ready.logged (by simp)

end World

end UmbraHost.DisplayHelper
