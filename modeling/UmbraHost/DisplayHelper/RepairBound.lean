import Mathlib.Algebra.GroupWithZero.Nat
import UmbraHost.DisplayHelper.DeferredQueue
import UmbraHost.DisplayHelper.Liveness

/-! # The repairs that one APPLY can cause

Four counters drive the retries, the stabilization checks, the reapplies and
the disconnect checks, and some handlers rewind one of them.  Their reserve
weighs each stage of a ladder with the work that taking it can give back, so
that every apply worker and every verification is paid for by the reserve or by
the task that has just completed. -/

namespace UmbraHost.DisplayHelper

/-- A task that applies or verifies the current request. -/
def Task.isRepair : Task → Bool
  | .apply .. | .verification .. => true
  | _ => false

def Effect.repair? : Effect → Option Task
  | .dispatched task => if task.isRepair then some task else none
  | _ => none

def repairs (effects : List Effect) : List Task := effects.filterMap Effect.repair?

@[simp] theorem repairs_nil : repairs [] = [] := rfl

@[simp] theorem repairs_append (first second : List Effect) :
    repairs (first ++ second) = repairs first ++ repairs second :=
  List.filterMap_append

@[simp] theorem repairs_cons (effect : Effect) (rest : List Effect) :
    repairs (effect :: rest) = effect.repair?.toList ++ repairs rest := by
  cases observed : effect.repair? <;> simp [repairs, observed]

attribute [simp] Effect.repair? Task.isRepair

@[simp] theorem repairs_ite (condition : Prop) [Decidable condition] (first second : List Effect) :
    repairs (if condition then first else second) =
      if condition then repairs first else repairs second :=
  apply_ite repairs condition first second

@[simp] theorem repairs_resetTasks (world : World) :
    repairs (world.resetTasks.map .dispatched) = [] := by
  simp only [World.resetTasks]
  split <;> rfl

@[simp] theorem repairs_uncommittedResetTasks (world : World) :
    repairs (world.uncommittedResetTasks.map .dispatched) = [] := by
  simp only [World.uncommittedResetTasks]
  split
  · exact repairs_resetTasks world
  · rfl

@[simp] theorem repairs_applyReply (status : ApplyStatus) (world : World) :
    repairs (world.applyReply status) = [] :=
  filterMap_applyReply _ (fun _ _ _ => rfl) status world

@[simp] theorem repairs_verificationReply (success : Bool) (world : World) :
    repairs (world.verificationReply success) = [] :=
  filterMap_verificationReply _ (fun _ _ _ => rfl) success world

@[simp] theorem repairs_captureFilteredAndSave (reading : Reading) (tier : SnapshotTier)
    (exclusions : List String) (remaining attempt : Nat) :
    repairs (World.captureFilteredAndSave reading tier exclusions remaining attempt).1 = [] :=
  filterMap_captureFilteredAndSave _ (fun _ _ _ _ => rfl) reading tier exclusions remaining attempt

namespace Settling

/-- The retries left, those of the SDR fallback included. -/
def retries (settling : Settling) : Nat :=
  (ApplyPolicy.maxApplyAttempts - settling.applyAttempt) +
    if settling.virtualHdrFallbackAttempted then 0 else ApplyPolicy.maxApplyAttempts

/-- The reapplies and stabilization checks left.  A reapply rewinds the checks, so
its stage is worth all of them. -/
def stages (settling : Settling) : Nat :=
  (3 * settling.postApplyStabilizationDelays.length + 2) *
      (settling.verificationReapplyDelays.length - settling.nextVerificationReapply) +
    3 * (settling.postApplyStabilizationDelays.length - settling.nextPostApplyStabilization)

/-- The disconnect checks left, each with the repair it may start. -/
def disconnectChecks (settling : Settling) : Nat :=
  if settling.transientDisconnectSettlementRequested then
    3 * (World.transientDisconnectDelays.length - settling.nextTransientDisconnectCheck)
  else 0

/-- What the ladders of a session can still dispatch. -/
def reserve (settling : Settling) : Nat :=
  settling.retries + settling.stages + settling.disconnectChecks

variable {before after : Settling}

/-- The reserve falls by what is taken from its parts. -/
theorem reserve_spend (before after : Settling) (first second third : Nat)
    (retries : after.retries + first ≤ before.retries)
    (stages : after.stages + second ≤ before.stages)
    (checks : after.disconnectChecks + third ≤ before.disconnectChecks) :
    after.reserve + (first + second + third) ≤ before.reserve := by
  simp only [reserve]
  omega

theorem retries_le (settling : Settling) : settling.retries ≤ 6 := by
  simp only [retries, ApplyPolicy.maxApplyAttempts]
  split
  · omega
  · omega

theorem disconnectChecks_le (settling : Settling) : settling.disconnectChecks ≤ 6 := by
  simp only [disconnectChecks, World.transientDisconnectDelays, List.length_cons, List.length_nil]
  split
  · omega
  · omega

/-- A reapply pays for the stabilization checks it rewinds. -/
theorem stages_reapply {stage : Nat} (left : stage < before.verificationReapplyDelays.length)
    (current : before.nextVerificationReapply = stage)
    (taken : after.nextVerificationReapply = stage + 1)
    (delays : after.postApplyStabilizationDelays = before.postApplyStabilizationDelays)
    (reapplies : after.verificationReapplyDelays = before.verificationReapplyDelays) :
    after.stages + 2 ≤ before.stages := by
  obtain ⟨left, rest⟩ : ∃ left, before.verificationReapplyDelays.length - stage = left + 1 :=
    ⟨before.verificationReapplyDelays.length - stage - 1, by omega⟩
  have later : before.verificationReapplyDelays.length - (stage + 1) = left := by omega
  simp only [stages, delays, reapplies, current, taken, rest, later, Nat.mul_succ]
  omega

end Settling

/-- What a pending check is worth: a failed one may start a worker at once. -/
@[simp] def VerificationPurpose.worth : VerificationPurpose → Nat
  | .initial => 0
  | .stabilization | .transientDisconnect => 2

/-- Nothing new arrives, and no worker asks for a new virtual display. -/
def Event.isQuiet : Event → Bool
  | .deliver _ => false
  | .complete _ (.apply outcome) => outcome.status != .needsVirtualDisplayReset
  | _ => true

/-- What a disconnect settlement may add to a session: its own checks, their
repairs and the retries of these. -/
def settlementGrant : Nat := 12

def Event.grant : Event → Nat
  | .beginTransientDisconnectSettlement => settlementGrant
  | _ => 0

namespace World

/-- The repairs dispatched so far. -/
def spent (world : World) : Nat := (repairs world.ports.effects).length

/-- A session that repairs within its budget: it rests, or one apply worker or
one check of the current generation is in flight and paid for. -/
inductive Repairing (budget : Nat) (world : World) : Prop where
  | rests (idle : world.custody.Idle)
      (steady : world.fence.state = .waiting ∨ world.fence.state = .virtualDisplayMonitoring)
      (room : world.spent ≤ budget)
  | works (working : world.custody.Working { kind := .apply, generation := world.ports.generation })
      (applying : world.fence.state = .inProgress)
      (room : world.spent + world.settling.reserve + 1 ≤ budget)
  | checks (purpose : VerificationPurpose) (checking : world.custody.Checking purpose)
      (awaited : purpose.Awaited world.fence.state world.settling.postApplyCheckPending)
      (room : world.spent + world.settling.reserve + purpose.worth ≤ budget)

variable {budget : Nat}

/-! ## Paying for work -/

variable {world : World}

/-- A worker is paid for, and so is the check that its success leads to. -/
theorem dispatchApplyWorker_repairing (before : World) (allowance : Nat) (idle : world.custody.Idle)
    (applying : world.fence.state = .inProgress) (delay : Nat) (resetVirtualDisplay : Bool)
    (unspent : world.spent = before.spent)
    (paid : world.settling.reserve + 2 ≤ before.settling.reserve + allowance)
    (room : before.spent + before.settling.reserve + allowance ≤ budget) :
    (world.dispatchApplyWorker delay resetVirtualDisplay).Repairing budget := by
  refine .works (by simpa using idle.start .apply) applying ?_
  have one : (world.dispatchApplyWorker delay resetVirtualDisplay).spent = world.spent + 1 := by
    simp [spent]
  have same : (world.dispatchApplyWorker delay resetVirtualDisplay).settling = world.settling := rfl
  rw [one, same]
  omega

theorem dispatchVerification_repairing (before : World) (allowance : Nat)
    (idle : world.custody.Idle) (delay : Nat)
    {purpose : VerificationPurpose}
    (awaited : purpose.Awaited world.fence.state world.settling.postApplyCheckPending)
    (unspent : world.spent = before.spent)
    (paid : world.settling.reserve + purpose.worth + 1 ≤ before.settling.reserve + allowance)
    (room : before.spent + before.settling.reserve + allowance ≤ budget) :
    (world.dispatchVerification delay purpose).Repairing budget := by
  refine .checks purpose (by simpa using idle.verify purpose) (by simpa using awaited) ?_
  have one : (world.dispatchVerification delay purpose).spent = world.spent + 1 := by
    simp [spent]
  have same : (world.dispatchVerification delay purpose).settling = world.settling := rfl
  rw [one, same]
  omega

theorem enterSteadyState_repairing (idle : world.custody.Idle) (spared : world.spent ≤ budget) :
    world.enterSteadyState.Repairing budget := by
  rw [enterSteadyState_eq]
  exact .rests idle world.steadyState_cases spared

theorem rest_repairing (idle : world.custody.Idle) (spared : world.spent ≤ budget) :
    (world.transition .waiting).Repairing budget :=
  .rests idle (.inl rfl) spared

/-! ## Disconnect checks -/

theorem disconnectChecks_taken {delay : Nat}
    (requested : world.settling.transientDisconnectSettlementRequested = true)
    (found : transientDisconnectDelays[world.settling.nextTransientDisconnectCheck]? = some delay) :
    (world.dispatchTransientDisconnectCheck delay).settling.disconnectChecks + 3 ≤
      world.settling.disconnectChecks := by
  have stage := (List.getElem?_eq_some_iff.mp found).1
  simp only [dispatchTransientDisconnectCheck, dispatchVerification, dispatch, transition,
    Settling.disconnectChecks, requested, ↓reduceIte]
  omega

/-- The machine rests if the flag of a disconnect check is up without one. -/
def Unattended (world : World) : Prop :=
  world.settling.transientDisconnectCheckPending = true →
    world.fence.state = .waiting ∨ world.fence.state = .virtualDisplayMonitoring

theorem Calm.unattended (calm : Calm world.settling) : world.Unattended := by
  simp [Unattended, calm.disconnect]

/-- The next disconnect check is paid for by its own stage. -/
theorem dispatchNextTransientDisconnectVerification_repairing (idle : world.custody.Idle)
    (unattended : world.Unattended)
    (room : world.spent + world.settling.reserve ≤ budget) :
    world.dispatchNextTransientDisconnectVerification.1 = true ∧
        world.dispatchNextTransientDisconnectVerification.2.Repairing budget ∨
      world.dispatchNextTransientDisconnectVerification =
        (false, world.resetTransientDisconnectSettlement) := by
  simp only [dispatchNextTransientDisconnectVerification]
  split
  next pending => exact .inl ⟨rfl, .rests idle (unattended pending) (Nat.le_of_add_right_le room)⟩
  · split
    · exact .inr rfl
    next wanted =>
      split
      · exact .inr rfl
      next delay found =>
        refine .inl ⟨rfl, ?_⟩
        have requested : world.settling.transientDisconnectSettlementRequested = true := by
          cases requested : world.settling.transientDisconnectSettlementRequested <;> simp_all
        have paid : (world.dispatchTransientDisconnectCheck delay).settling.reserve + 3 ≤
            world.settling.reserve :=
          Settling.reserve_spend world.settling _ 0 0 3 (Nat.le_refl _) (Nat.le_refl _)
            (disconnectChecks_taken requested found)
        exact dispatchVerification_repairing world 0 (by simpa using idle) delay (by simp) rfl paid room

theorem reserve_resetTransientDisconnectSettlement (world : World) :
    world.resetTransientDisconnectSettlement.settling.reserve ≤ world.settling.reserve :=
  Settling.reserve_spend world.settling world.resetTransientDisconnectSettlement.settling 0 0 0
    (Nat.le_refl _) (Nat.le_refl _) (Nat.zero_le _)

/-- The next disconnect check, or the state that a settled session rests in. -/
theorem dispatchNextTransientDisconnectVerification_or_steady_repairing
    (idle : world.custody.Idle) (unattended : world.Unattended)
    (room : world.spent + world.settling.reserve ≤ budget) :
    (if world.dispatchNextTransientDisconnectVerification.1 then
      world.dispatchNextTransientDisconnectVerification.2
    else world.dispatchNextTransientDisconnectVerification.2.enterSteadyState).Repairing budget := by
  rcases dispatchNextTransientDisconnectVerification_repairing idle unattended room with
    ⟨taken, repairing⟩ | ended
  · rw [if_pos taken]
    exact repairing
  · rw [ended]
    exact enterSteadyState_repairing idle (Nat.le_of_add_right_le room)

theorem settleDisconnectedCheck_repairing (idle : world.custody.Idle)
    (unattended : world.Unattended)
    (room : world.spent + world.settling.reserve ≤ budget) :
    world.settleDisconnectedCheck.Repairing budget := by
  have spared : world.spent ≤ budget := Nat.le_of_add_right_le room
  simp only [settleDisconnectedCheck]
  rcases dispatchNextTransientDisconnectVerification_repairing idle unattended room with
    ⟨taken, repairing⟩ | ended
  · rw [if_pos taken]
    exact repairing
  · rw [ended]
    simp only [Bool.false_eq_true, ↓reduceIte]
    split
    · exact enterSteadyState_repairing idle spared
    · exact rest_repairing idle spared

/-! ## Apply workers -/

theorem landedRepair_repairing (idle : world.custody.Idle) (calm : Calm world.settling)
    (room : world.spent + world.settling.reserve ≤ budget) :
    world.landTransientDisconnectRepair.dispatchNextTransientDisconnectVerification.1 = true ∧
        (world.landTransientDisconnectRepair.dispatchNextTransientDisconnectVerification.2).Repairing
          budget ∨
      world.landTransientDisconnectRepair.dispatchNextTransientDisconnectVerification =
        (false, world.landTransientDisconnectRepair.resetTransientDisconnectSettlement) := by
  have free : world.landTransientDisconnectRepair.custody.Idle := idle
  have still : Calm world.landTransientDisconnectRepair.settling := calm.congr rfl rfl rfl rfl
  exact dispatchNextTransientDisconnectVerification_repairing free (Calm.unattended still) room

theorem settleSuccessfulApply_repairing (idle : world.custody.Idle) (calm : Calm world.settling)
    (room : world.spent + world.settling.reserve + 1 ≤ budget) :
    world.settleSuccessfulApply.world.Repairing budget := by
  have spared : world.spent ≤ budget := by omega
  simp only [settleSuccessfulApply]
  split
  · rcases landedRepair_repairing idle calm (Nat.le_of_succ_le room) with
      ⟨taken, repairing⟩ | ended
    · rw [if_pos taken]
      exact repairing
    · rw [ended]
      exact enterSteadyState_repairing (by simpa using idle) (by simpa [spent] using spared)
  · exact dispatchVerification_repairing world 1 (by simpa using idle) 0 (by simp)
      (by simp [spent]) (by simp) room

theorem retries_retry (retryable : ApplyPolicy.canRetryApply world.settling.applyAttempt = true) :
    Settling.retries { world.settling with applyAttempt := world.settling.applyAttempt + 1 } + 1 ≤
      world.settling.retries := by
  simp only [ApplyPolicy.canRetryApply, decide_eq_true_eq] at retryable
  simp only [Settling.retries]
  omega

theorem retries_fallback (fresh : world.settling.virtualHdrFallbackAttempted = false) :
    world.fallbackToSdr.settling.retries + 1 ≤ world.settling.retries := by
  simp only [fallbackToSdr, dispatchApplyWorker, dispatch, setActiveMutationWorker, transition,
    Settling.retries, fresh, ApplyPolicy.maxApplyAttempts, Bool.false_eq_true, ↓reduceIte]
  omega

theorem concludeFailedApply_repairing (completed : ApplyCompleted) (idle : world.custody.Idle)
    (spared : world.spent ≤ budget) :
    (world.concludeFailedApply completed).world.Repairing budget := by
  simp only [concludeFailedApply]
  split
  · exact enterSteadyState_repairing (by simpa using idle) (by simpa [spent] using spared)
  · exact rest_repairing (by simpa using idle) (by simpa [spent] using spared)

theorem retryFailedApply_repairing (completed : ApplyCompleted) (idle : world.custody.Idle)
    (applying : world.fence.state = .inProgress)
    (room : world.spent + world.settling.reserve + 1 ≤ budget) :
    (world.retryFailedApply completed).world.Repairing budget := by
  simp only [retryFailedApply]
  split
  next retries =>
    have paid := Settling.reserve_spend world.settling
      { world.settling with applyAttempt := world.settling.applyAttempt + 1 } 1 0 0
      (retries_retry (Bool.and_eq_true_iff.mp retries).2) (Nat.le_refl _) (Nat.le_refl _)
    exact dispatchApplyWorker_repairing world 1 (by simpa using idle) (by simpa using applying) _ _
      rfl (Nat.succ_le_succ paid) room
  · split
    next falls =>
      have fresh : world.settling.virtualHdrFallbackAttempted = false := by
        simp only [canFallbackVirtualHdr, Bool.and_eq_true, Bool.not_eq_true'] at falls
        exact falls.1.1.1
      have paid := Settling.reserve_spend world.settling world.fallbackToSdr.settling 1 0 0
        (retries_fallback fresh) (Nat.le_refl _) (Nat.le_refl _)
      exact dispatchApplyWorker_repairing world 1 (by simpa using idle) rfl _ _ rfl
        (Nat.succ_le_succ paid) room
    · exact concludeFailedApply_repairing completed idle (by omega)

theorem settleOrRetryFailedApply_repairing (completed : ApplyCompleted) (idle : world.custody.Idle)
    (calm : Calm world.settling) (applying : world.fence.state = .inProgress)
    (room : world.spent + world.settling.reserve + 1 ≤ budget) :
    (world.settleOrRetryFailedApply completed).world.Repairing budget := by
  simp only [settleOrRetryFailedApply]
  split
  · rcases landedRepair_repairing idle calm (Nat.le_of_succ_le room) with
      ⟨taken, repairing⟩ | ended
    · rw [if_pos taken]
      exact repairing
    · have less := reserve_resetTransientDisconnectSettlement world.landTransientDisconnectRepair
      rw [ended]
      refine retryFailedApply_repairing completed (by simpa using idle) (by simpa using applying) ?_
      exact Nat.le_trans (Nat.succ_le_succ (Nat.add_le_add_left less _)) room
  · exact retryFailedApply_repairing completed idle applying room

/-- A completion that does not ask for a new virtual display. -/
theorem settleFailedApply_repairing (reading : Reading) (completed : ApplyCompleted)
    (plain : completed.status ≠ .needsVirtualDisplayReset) (idle : world.custody.Idle)
    (calm : Calm world.settling) (applying : world.fence.state = .inProgress)
    (room : world.spent + world.settling.reserve + 1 ≤ budget) :
    (world.settleFailedApply reading completed).world.Repairing budget := by
  have proceeds : world.ports.policy.maybeResetVirtualDisplay (reading.now 0) completed.status
      completed.virtualDisplayRequested = (.proceed, world.ports.policy) := by
    simp [ApplyPolicy.maybeResetVirtualDisplay, plain]
  simp only [settleFailedApply, proceeds, reduceCtorEq, ↓reduceIte]
  exact settleOrRetryFailedApply_repairing completed idle calm applying room

theorem handleApplyCompleted_repairing (reading : Reading) (completed : ApplyCompleted)
    (plain : completed.status ≠ .needsVirtualDisplayReset)
    (owns : world.ownsActiveWorker .apply completed.generation = true)
    (current : completed.generation = world.ports.generation)
    (idle : (world.setActiveMutationWorker none).custody.Idle) (calm : Calm world.settling)
    (applying : world.fence.state = .inProgress)
    (room : world.spent + world.settling.reserve + 1 ≤ budget) :
    (world.handleApplyCompleted reading completed).world.Repairing budget := by
  have live : world.isStale completed.generation = false := by simp [current]
  simp only [handleApplyCompleted, owns, ↓reduceIte]
  split
  next stale => simp_all
  · simp only [settleApply]
    split
    · exact settleSuccessfulApply_repairing (by simpa using idle) (by simpa using calm)
        (by simpa [spent] using room)
    · exact settleFailedApply_repairing reading completed plain (by simpa using idle)
        (by simpa using calm) (by simpa using applying) (by simpa [spent] using room)

/-! ## Verifications -/

theorem handleTransientDisconnectCheck_repairing (success : Bool) (idle : world.custody.Idle)
    (room : world.spent + world.settling.reserve + 2 ≤ budget) :
    (world.handleTransientDisconnectCheck success).Repairing budget := by
  have spared : world.spent ≤ budget := by omega
  simp only [handleTransientDisconnectCheck]
  split
  · split
    · exact enterSteadyState_repairing (by simpa using idle) (by simpa [spent] using spared)
    · exact enterSteadyState_repairing (by simpa using idle) (by simpa [spent] using spared)
  · split
    · exact dispatchApplyWorker_repairing world 2 (by simpa using idle.toFree.cancel) rfl _ _ rfl
        (Nat.le_refl _) room
    · exact rest_repairing idle spared

/-- The next stabilization check is paid for by its own stage. -/
theorem dispatchStabilization_paid {delay : Nat}
    (found : world.settling.postApplyStabilizationDelays[
      world.settling.nextPostApplyStabilization]? = some delay) :
    (world.dispatchStabilization delay).settling.reserve + 3 ≤ world.settling.reserve := by
  have stage := (List.getElem?_eq_some_iff.mp found).1
  refine Settling.reserve_spend world.settling _ 0 3 0 (Nat.le_refl _) ?_ (Nat.le_refl _)
  simp only [Settling.stages, dispatchStabilization, dispatchVerification, dispatch]
  omega

/-- The next stabilization check is in flight once the session has settled. -/
theorem scheduleNextPostApplyStabilization_repairing (idle : world.custody.Idle)
    (pending : world.settling.postApplyCheckPending = false)
    (steady : world.fence.state = .waiting ∨ world.fence.state = .virtualDisplayMonitoring)
    (room : world.spent + world.settling.reserve ≤ budget) :
    world.scheduleNextPostApplyStabilization.Repairing budget := by
  simp only [scheduleNextPostApplyStabilization, pending, Bool.false_eq_true, ↓reduceIte]
  split
  · exact .rests idle steady (Nat.le_of_add_right_le room)
  next delay found =>
    exact dispatchVerification_repairing world 0 (by simpa using idle) delay (by simpa using steady)
      rfl (dispatchStabilization_paid found) room

theorem scheduleNextPostApplyStabilization_enterSteadyState (world : World) :
    world.scheduleNextPostApplyStabilization.enterSteadyState =
      world.enterSteadyState.scheduleNextPostApplyStabilization := by
  simp only [enterSteadyState_eq, scheduleNextPostApplyStabilization, transition]
  split
  · rfl
  · split
    · rfl
    · rfl

theorem spent_releaseCaptureGate (world : World) :
    world.releaseCaptureGate.spent = world.spent := by
  simp only [releaseCaptureGate, openCaptureGate]
  split
  · rfl
  · split <;> split <;> simp [spent]

theorem handleInitialSuccess_repairing (idle : world.custody.Idle) (calm : Calm world.settling)
    (room : world.spent + world.settling.reserve ≤ budget) :
    world.handleInitialSuccess.Repairing budget := by
  obtain ⟨fence, settling, generation, tasks, _⟩ := world.releaseCaptureGate_frame
  have idle : world.releaseCaptureGate.custody.Idle := by
    simpa [fence, generation, tasks] using idle
  have calm : Calm world.releaseCaptureGate.settling := settling ▸ calm
  have room : world.releaseCaptureGate.spent + world.releaseCaptureGate.settling.reserve ≤
      budget := by
    rwa [spent_releaseCaptureGate, settling]
  simp only [handleInitialSuccess]
  split
  · exact dispatchNextTransientDisconnectVerification_or_steady_repairing idle calm.unattended room
  · rw [scheduleNextPostApplyStabilization_enterSteadyState, enterSteadyState_eq]
    exact scheduleNextPostApplyStabilization_repairing idle calm.ordinary (steadyState_cases _) room

theorem handleStabilizationSuccess_repairing (idle : world.custody.Idle)
    (ordinary : world.settling.postApplyCheckPending = false)
    (steady : world.fence.state = .waiting ∨ world.fence.state = .virtualDisplayMonitoring)
    (room : world.spent + world.settling.reserve ≤ budget) :
    world.handleStabilizationSuccess.Repairing budget := by
  simp only [handleStabilizationSuccess]
  split
  · exact dispatchNextTransientDisconnectVerification_or_steady_repairing idle (fun _ => steady) room
  · exact scheduleNextPostApplyStabilization_repairing idle ordinary steady room

theorem stages_repair (world : World) :
    world.dispatchImmediateRepairAfterStabilizationFailure.settling.stages ≤
      world.settling.stages := by
  simp only [dispatchImmediateRepairAfterStabilizationFailure, dispatchApplyWorker, dispatch,
    setActiveMutationWorker, transition, Settling.stages]
  refine Nat.add_le_add_right (Nat.mul_le_mul_left _ ?_) _
  omega

theorem handleStabilizationFailure_repairing (idle : world.custody.Idle)
    (steady : world.fence.state = .waiting ∨ world.fence.state = .virtualDisplayMonitoring)
    (room : world.spent + world.settling.reserve + 2 ≤ budget) :
    world.handleStabilizationFailure.Repairing budget := by
  simp only [handleStabilizationFailure]
  split
  · exact settleDisconnectedCheck_repairing idle (fun _ => steady) (Nat.le_of_add_right_le room)
  · have paid := Settling.reserve_spend world.settling
      world.dispatchImmediateRepairAfterStabilizationFailure.settling 0 0 0 (Nat.le_refl _)
      world.stages_repair (Nat.le_refl _)
    exact dispatchApplyWorker_repairing world 2 (by simpa using idle) rfl _ _ rfl
      (Nat.add_le_add_right paid 2) room

theorem reapply_left (taken : world.dispatchNextVerificationReapply.1 = true) :
    world.settling.nextVerificationReapply < world.settling.verificationReapplyDelays.length := by
  simp only [dispatchNextVerificationReapply] at taken
  split at taken
  · simp at taken
  next found => exact (List.getElem?_eq_some_iff.mp found).1

/-- A failed initial check takes the next reapply, which rewinds the stabilization
checks, or ends the session. -/
theorem handleInitialFailure_repairing (idle : world.custody.Idle) (calm : Calm world.settling)
    (room : world.spent + world.settling.reserve ≤ budget) :
    world.handleInitialFailure.Repairing budget := by
  have spared : world.spent ≤ budget := Nat.le_of_add_right_le room
  simp only [handleInitialFailure]
  split
  · exact settleDisconnectedCheck_repairing idle calm.unattended room
  · rcases world.rewindPostApplyStabilization.dispatchNextVerificationReapply_cases with
      ended | omitted | ⟨delay, next⟩
    · rw [ended]
      simp only [Bool.false_eq_true, ↓reduceIte]
      split
      · exact enterSteadyState_repairing idle spared
      · exact rest_repairing (by simpa using idle) (by simpa [spent] using spared)
    · rw [omitted]
      simp only [Bool.false_eq_true, ↓reduceIte]
      split
      · exact enterSteadyState_repairing idle spared
      · exact rest_repairing (by simpa using idle) (by simpa [spent] using spared)
    · have left := reapply_left (congrArg Prod.fst next)
      rw [next, if_pos rfl]
      have paid := Settling.reserve_spend world.settling
        (world.rewindPostApplyStabilization.takeReapplyStage.dispatchReapply delay
          world.rewindPostApplyStabilization.settling.nextVerificationReapply).settling 0 2 0
        (Nat.le_refl _) (Settling.stages_reapply left rfl rfl rfl rfl) (Nat.le_refl _)
      exact dispatchApplyWorker_repairing world 0 (by simpa using idle) rfl _ _ rfl paid room

theorem handleVerificationCompleted_repairing (completed : VerificationCompleted)
    (idle : world.custody.Idle) (fresh : world.isStale completed.generation = false)
    (awaited : completed.purpose.Awaited world.fence.state world.settling.postApplyCheckPending)
    (calm : world.fence.state = .verification → completed.purpose = .initial → Calm world.settling)
    (room : world.spent + world.settling.reserve + completed.purpose.worth ≤ budget) :
    (world.handleVerificationCompleted completed).Repairing budget := by
  simp only [handleVerificationCompleted, fresh, Bool.false_eq_true, ↓reduceIte]
  cases purpose : completed.purpose with
  | transientDisconnect =>
      rw [purpose] at room
      exact handleTransientDisconnectCheck_repairing _ idle room
  | stabilization =>
      rw [purpose] at room awaited
      dsimp only
      split
      · exact handleStabilizationSuccess_repairing (by simpa using idle) rfl awaited.1
          (Nat.le_of_add_right_le room)
      · exact handleStabilizationFailure_repairing (by simpa using idle) awaited.1 room
  | initial =>
      rw [purpose] at room awaited
      have calm := calm awaited purpose
      dsimp only
      split
      · exact handleInitialSuccess_repairing idle calm room
      · exact handleInitialFailure_repairing idle calm room

/-! ## Steps -/

theorem Repairing.spent_le (repairing : world.Repairing budget) : world.spent ≤ budget := by
  cases repairing with
  | rests _ _ room => exact room
  | works _ _ room => omega
  | checks _ _ _ room => omega

/-- Nothing a repairing session depends on has moved, but for its budget. -/
theorem Repairing.grow {after : World} (extra : Nat) (repairing : world.Repairing budget)
    (like : after.custody.Like world.custody) (state : after.fence.state = world.fence.state)
    (pending : after.settling.postApplyCheckPending = world.settling.postApplyCheckPending)
    (unspent : after.spent = world.spent)
    (reserve : after.settling.reserve ≤ world.settling.reserve + extra) :
    after.Repairing (budget + extra) := by
  have generation : after.ports.generation = world.ports.generation := like.generation
  cases repairing with
  | rests idle steady room => exact .rests (like.idle idle) (state ▸ steady) (by omega)
  | works working applying room =>
      exact .works (generation ▸ like.working working) (state ▸ applying) (by omega)
  | checks purpose checking awaited room =>
      exact .checks purpose (like.checking checking) (by rw [state, pending]; exact awaited)
        (by omega)

theorem Repairing.same {after : World} (repairing : world.Repairing budget)
    (custody : after.custody = world.custody) (state : after.fence.state = world.fence.state)
    (settling : after.settling = world.settling) (unspent : after.spent = world.spent) :
    after.Repairing budget :=
  repairing.grow 0 (by rw [custody]; exact ⟨rfl, rfl, rfl, rfl, fun _ => id⟩) state
    (by rw [settling]) unspent (by rw [settling]; exact Nat.le_refl _)

/-- The one worker of a repairing session applies its current generation. -/
theorem Repairing.worker {worker : ActiveMutationWorker} (repairing : world.Repairing budget)
    (working : world.custody.Working worker) :
    worker = { kind := .apply, generation := world.ports.generation } ∧
      world.spent + world.settling.reserve + 1 ≤ budget := by
  cases repairing with
  | rests idle _ _ => exact absurd (working.holder.symm.trans idle.worker) (by simp)
  | checks _ checking _ _ => exact absurd (working.holder.symm.trans checking.worker) (by simp)
  | works active _ room => exact ⟨Option.some.inj (working.holder.symm.trans active.holder), room⟩

theorem Repairing.check {purpose : VerificationPurpose} (repairing : world.Repairing budget)
    (checking : world.custody.Checking purpose) :
    world.spent + world.settling.reserve + purpose.worth ≤ budget := by
  cases repairing with
  | rests idle _ _ => exact absurd (checking.current.symm.trans idle.current) (by simp)
  | works active _ _ => exact absurd (checking.worker.symm.trans active.holder) (by simp)
  | checks expected awaited _ room =>
      obtain rfl : purpose = expected := by
        simpa using checking.current.symm.trans awaited.current
      exact room

theorem Repairing.unpolled (repairing : world.Repairing budget) :
    world.fence.state ≠ .eventLoop := by
  cases repairing with
  | rests _ steady _ => rcases steady with state | state <;> simp [state]
  | works _ applying _ => simp [applying]
  | checks purpose _ awaited _ =>
      cases purpose with
      | stabilization => rcases awaited.1 with state | state <;> simp [state]
      | initial => simp [show world.fence.state = .verification from awaited]
      | transientDisconnect => simp [show world.fence.state = .verification from awaited]

theorem Repairing.owned (repairing : world.Repairing budget) : world.Owned := by
  cases repairing with
  | rests idle _ _ => exact .idle idle
  | works working applying _ => exact .working _ working applying
  | checks purpose checking awaited _ => exact .checking purpose checking awaited

/-- A session that repairs within its budget and that no queued intent will
replace. -/
structure Mending (budget : Nat) (world : World) : Prop where
  repairing : world.Repairing budget
  ladders : world.Ladders
  newest : world.hasDeferredIntent = false

theorem dispatchCompletion_repairing (reading : Reading) {index : Nat} {outcome : Outcome}
    {message : Message} (repairing : world.Repairing budget) (ladders : world.Ladders)
    (plain : ∀ result, outcome = .apply result → result.status ≠ .needsVirtualDisplayReset)
    (posted : world.completionMessage index outcome = some message) :
    ((world.removeTask index).advance.dispatchMessage reading message).world.Repairing budget := by
  have owned := repairing.owned
  obtain ⟨task, found, completes⟩ := completionMessage_eq_some posted
  cases completes with
  | apply request delay resetVirtualDisplay generation outcome =>
      obtain ⟨working, hosted, idle⟩ := owned.completesWorker found rfl
      obtain ⟨named, room⟩ := repairing.worker working
      have calm := ladders.calm (by rw [working.current]; simp) (.inl hosted)
      exact handleApplyCompleted_repairing reading { toApplyOutcome := outcome, generation }
        (plain outcome rfl) (by simpa using working.holder)
        (congrArg ActiveMutationWorker.generation named) idle calm hosted room
  | refreshRate command generation success =>
      obtain ⟨working, _, _⟩ := owned.completesWorker found rfl
      simpa using congrArg ActiveMutationWorker.kind (repairing.worker working).1
  | recovery delay generation outcome =>
      obtain ⟨working, _, _⟩ := owned.completesWorker found rfl
      simpa using congrArg ActiveMutationWorker.kind (repairing.worker working).1
  | recoveryValidation snapshot generation success =>
      obtain ⟨working, _, _⟩ := owned.completesWorker found rfl
      simpa using congrArg ActiveMutationWorker.kind (repairing.worker working).1
  | resetStagedApplyState generation success =>
      have removed : (world.removeTask index).advance.Repairing budget :=
        repairing.grow 0 (removeTask_like found rfl (by simp)) rfl rfl rfl (Nat.le_refl _)
      simp only [dispatchMessage, handleResetCompleted]
      split
      · exact removed.same rfl rfl rfl (by simp [spent])
      · exact removed.same rfl rfl rfl (by simp [spent])
  | verification request topology target delay purpose generation success =>
      by_cases current : generation = world.ports.generation
      · subst current
        obtain ⟨checking, awaited, idle⟩ := owned.completesCheck found rfl
        have room := repairing.check checking
        refine handleVerificationCompleted_repairing _ idle (by simp) awaited ?_ room
        intro verifying initial
        refine ladders.calm ?_ (.inr verifying)
        rw [checking.current, show purpose = .initial from initial]
        simp
      · have removed : (world.removeTask index).advance.Repairing budget :=
          repairing.grow 0 (removeTask_like found rfl (by simpa using current)) rfl rfl rfl
            (Nat.le_refl _)
        simpa [dispatchMessage, handleVerificationCompleted, current] using removed

/-- The settlement gives up the ordinary ladders, unless a worker is active. -/
theorem requestTransientDisconnectSettlement_ladder (world : World) :
    world.requestTransientDisconnectSettlement.spent = world.spent ∧
      world.requestTransientDisconnectSettlement.settling.retries = world.settling.retries ∧
      world.requestTransientDisconnectSettlement.settling.stages ≤ world.settling.stages ∧
      (world.fence.activeMutationWorker = none →
        world.requestTransientDisconnectSettlement.settling.stages = 0) := by
  rcases world.requestTransientDisconnectSettlement_cases with ⟨up, requested⟩ | ⟨_, replaced⟩
  · rw [requested]
    exact ⟨rfl, rfl, Nat.le_refl _, fun down => by simp [down] at up⟩
  rw [replaced]
  rcases world.noteTransientDisconnect.replacePostApplyStabilization_cases with
    ⟨_, cancelled⟩ | ⟨_, kept⟩
  · rw [cancelled]
    exact ⟨rfl, rfl, Nat.zero_le _, fun _ => rfl⟩
  · rw [kept]
    exact ⟨rfl, rfl, Nat.zero_le _, fun _ => rfl⟩

theorem requestTransientDisconnectSettlement_unmoved (ladders : world.Ladders)
    (awaits : world.requestTransientDisconnectSettlement.awaitsDecision = true) :
    world.requestTransientDisconnectSettlement.custody = world.custody ∧
      world.settling.postApplyCheckPending = false := by
  have ordinary := ladders.ordinary
  rcases world.requestTransientDisconnectSettlement_cases with ⟨up, requested⟩ | ⟨down, replaced⟩
  · refine ⟨by rw [requested]; rfl, ?_⟩
    cases pending : world.settling.postApplyCheckPending with
    | false => rfl
    | true => simp [(ordinary pending).1] at up
  rw [replaced] at awaits ⊢
  rcases world.noteTransientDisconnect.replacePostApplyStabilization_cases with
    ⟨replaces, cancelled⟩ | ⟨replaces, kept⟩
  · rw [cancelled] at awaits
    cases pending : world.settling.postApplyCheckPending with
    | false => simp_all [awaitsDecision, replacesCheck]
    | true =>
        rcases (ordinary pending).2 with state | state <;> simp_all [awaitsDecision]
  · rw [kept]
    exact ⟨rfl, by simp_all [replacesCheck]⟩

/-- A settlement that leaves the decision to the work in flight keeps it. -/
theorem requestTransientDisconnectSettlement_repairing (repairing : world.Repairing budget)
    (ladders : world.Ladders)
    (awaits : world.requestTransientDisconnectSettlement.awaitsDecision = true) :
    world.requestTransientDisconnectSettlement.Repairing (budget + settlementGrant) := by
  obtain ⟨spent, retries, stages, _⟩ := world.requestTransientDisconnectSettlement_ladder
  have reserve : world.requestTransientDisconnectSettlement.settling.reserve ≤
      world.settling.reserve + settlementGrant := by
    have checks := world.requestTransientDisconnectSettlement.settling.disconnectChecks_le
    simp only [Settling.reserve, settlementGrant]
    omega
  have fence := world.requestTransientDisconnectSettlement_frame.2.2.2.2
  have ordinary := requestTransientDisconnectSettlement_ordinary ladders
  have unmoved : world.requestTransientDisconnectSettlement.custody = world.custody ∧
      world.settling.postApplyCheckPending = false :=
    requestTransientDisconnectSettlement_unmoved ladders awaits
  exact repairing.grow settlementGrant (by rw [unmoved.1]; exact ⟨rfl, rfl, rfl, rfl, fun _ => id⟩)
    (congrArg Fence.state fence) (ordinary.trans unmoved.2.symm) spent reserve

theorem beginTransientDisconnectSettlement_repairing (reading : Reading)
    (repairing : world.Repairing budget) (ladders : world.Ladders) :
    (world.beginTransientDisconnectSettlement reading).2.Repairing (budget + settlementGrant) := by
  have unchanged : world.Repairing (budget + settlementGrant) :=
    repairing.grow settlementGrant ⟨rfl, rfl, rfl, rfl, fun _ => id⟩ rfl rfl rfl
      (Nat.le_add_right _ _)
  simp only [beginTransientDisconnectSettlement]
  split
  · exact unchanged
  split
  · exact unchanged
  next fresh =>
    obtain ⟨pending, first⟩ := ladders.unrequested (by simpa using fresh)
    obtain ⟨requested, same, next, session, _⟩ :=
      world.requestTransientDisconnectSettlement_frame
    split
    next awaits => exact requestTransientDisconnectSettlement_repairing repairing ladders awaits
    next decides =>
      have idle := requestTransientDisconnectSettlement_idle repairing.owned (by simpa using decides)
      obtain ⟨spent, retries, _, given⟩ := world.requestTransientDisconnectSettlement_ladder
      have room : world.requestTransientDisconnectSettlement.spent +
          world.requestTransientDisconnectSettlement.settling.reserve ≤
            budget + settlementGrant := by
        have down : world.fence.activeMutationWorker = none := by
          simp_all [awaitsDecision]
        have given := given down
        have checks := world.requestTransientDisconnectSettlement.settling.disconnectChecks_le
        have tries := world.settling.retries_le
        have spared := repairing.spent_le
        simp only [Settling.reserve, settlementGrant]
        omega
      rcases dispatchNextTransientDisconnectVerification_repairing idle
        (by simp [Unattended, same, pending]) room with ⟨_, repairing⟩ | ended
      · exact repairing
      · have taken : world.requestTransientDisconnectSettlement.settling.nextTransientDisconnectCheck
          = 0 := next.trans first
        simp_all [dispatchNextTransientDisconnectVerification, transientDisconnectDelays]

theorem handleTick_repairing (reading : Reading) (repairing : world.Repairing budget) :
    (world.handleTick reading).Repairing budget := by
  rw [handleTick, if_pos (.inl repairing.unpolled)]
  exact repairing

theorem dispatchEvent_repairing (reading : Reading) {event : Event} (quiet : event.isQuiet = true)
    (repairing : world.Repairing budget) (ladders : world.Ladders) :
    (world.dispatchEvent reading event).world.Repairing (budget + event.grant) := by
  have advanced : world.advance.Repairing budget := repairing.same rfl rfl rfl rfl
  cases event with
  | deliver message => simp [Event.isQuiet] at quiet
  | complete index outcome =>
      simp only [dispatchEvent]
      split
      · exact repairing
      next message posted =>
        refine dispatchCompletion_repairing reading repairing ladders ?_ posted
        rintro result rfl
        simpa [Event.isQuiet] using quiet
  | restoreAttempted =>
      simp only [dispatchEvent, markRestoreAttempted]
      split
      · exact repairing.same rfl rfl rfl rfl
      · exact repairing
  | tick => exact handleTick_repairing reading advanced
  | beginTransientDisconnectSettlement =>
      exact beginTransientDisconnectSettlement_repairing reading advanced
        (ladders.same rfl rfl rfl rfl)

theorem newest_of_queue {after : World} (newest : world.hasDeferredIntent = false)
    (queue : ∀ command ∈ after.fence.deferredMutationCommands,
      command ∈ world.fence.deferredMutationCommands) : after.hasDeferredIntent = false := by
  simp only [hasDeferredIntent, List.any_eq_false] at newest ⊢
  exact fun command member => newest command (queue command member)

theorem dispatchEvent_mending (reading : Reading) {event : Event} (quiet : event.isQuiet = true)
    (mending : world.Mending budget) :
    (world.dispatchEvent reading event).world.Mending (budget + event.grant) := by
  have unoffered : world.offers reading event = none := by
    cases event <;> simp_all [offers, Event.isQuiet]
  have heeds : world.overtakes reading event = false := by
    cases event <;> simp_all [overtakes, Event.isQuiet]
  refine ⟨dispatchEvent_repairing reading quiet mending.repairing mending.ladders,
    dispatchEvent_ladders reading event mending.repairing.owned mending.ladders heeds, ?_⟩
  apply newest_of_queue mending.newest
  intro command member
  have disposes := dispatchEvent_disposes reading event world
  rw [unoffered] at disposes
  exact (disposes.queue member).resolve_right (by simp)

/-- Only RESETs are left to take up, and they repair nothing. -/
theorem drainOne_mending (environment : Environment) {command : DeferredMutationCommand}
    {rest : List DeferredMutationCommand} (mending : world.Mending budget)
    (down : world.fenceDown = true)
    (queue : world.fence.deferredMutationCommands = command :: rest) :
    (world.drainOne environment command rest).Mending budget := by
  have remaining : (world.drainOne environment command rest).fence.deferredMutationCommands = rest :=
    congrArg Backlog.queue (drainOne_backlog environment command rest down)
  refine ⟨?_, drainOne_ladders environment command rest mending.repairing.owned mending.ladders,
    newest_of_queue mending.newest (by rw [remaining, queue]; exact fun _ => List.mem_cons_of_mem _)⟩
  have popped : (world.popDeferred command rest).advance.Repairing budget :=
    mending.repairing.same rfl rfl rfl (by simp [spent])
  have barrier : command.isReset = true := by
    have newest := mending.newest
    simp only [hasDeferredIntent, queue, List.any_cons, Bool.or_eq_false_iff] at newest
    simpa using newest.1
  cases command with
  | reset command =>
      simp only [drainOne, handleDeferred, handleResetCommand]
      split
      · exact popped
      split
      · exact popped.same (by simp) (by simp) (by simp) (by simp [spent])
      · split
        · exact popped.same (by simp) (by simp) (by simp) (by simp [spent])
        · exact popped.same (by simp) (by simp) (by simp) (by simp [spent])
  | apply command => simp at barrier
  | revert command => simp at barrier
  | disarm command => simp at barrier

theorem conclude_mending (epilogue : Epilogue) (mending : world.Mending budget) :
    (conclude epilogue world).Mending budget := by
  have still := conclude_still epilogue world
  refine ⟨?_, conclude_ladders epilogue mending.ladders, ?_⟩
  · cases epilogue with
    | nothing => exact mending.repairing
    | exitOnceReset =>
        simp only [conclude, exitOnceReset]
        split
        · exact mending.repairing.same rfl rfl rfl (by simp [spent])
        · exact mending.repairing
    | exitAfterRecovery superseded =>
        simp only [conclude, exitAfterRecovery]
        split
        · exact mending.repairing.same rfl rfl rfl rfl
        · split
          · exact mending.repairing
          · exact mending.repairing.same rfl rfl rfl (by simp [spent])
  · apply newest_of_queue mending.newest
    rw [queue_of_backlog still.backlog]
    exact fun _ => id

theorem finish_mending (environment : Environment) {ending : Ending}
    (mending : ending.world.Mending budget) : (ending.finish environment).Mending budget :=
  finish_preserves (fun world => world.Mending budget) (fun _ => True) environment
    (fun _ _ _ mending down queue _ => drainOne_mending environment mending down queue)
    (fun epilogue _ mending => conclude_mending epilogue mending) ending (fun _ _ => trivial) mending

theorem step_mending (environment : Environment) {event : Event} (quiet : event.isQuiet = true)
    (mending : world.Mending budget) :
    (world.step environment event).Mending (budget + event.grant) :=
  finish_mending environment (dispatchEvent_mending _ quiet mending)

/-! ## Sessions -/

/-- The budget of a fresh session: the HDR ladders are the longest. -/
def sessionBudget : Nat := 60

theorem reserve_fresh (configuration : SingleDisplayConfiguration) (settling : Settling)
    (attempt : settling.applyAttempt = 1)
    (fallback : settling.virtualHdrFallbackAttempted = false)
    (checks : settling.postApplyStabilizationDelays = postApplyStabilizationDelaysOf configuration)
    (reapplies : settling.verificationReapplyDelays = verificationReapplyDelaysOf configuration)
    (stages : settling.nextVerificationReapply = 0 ∧ settling.nextPostApplyStabilization = 0)
    (unrequested : settling.transientDisconnectSettlementRequested = false) :
    settling.reserve ≤ 58 := by
  simp only [Settling.reserve, Settling.retries, Settling.stages, Settling.disconnectChecks, attempt,
    fallback, checks, reapplies, stages, unrequested, postApplyStabilizationDelaysOf,
    verificationReapplyDelaysOf, Bool.false_eq_true, ↓reduceIte]
  cases configuration.hdrState.isSome with
  | false => decide
  | true => decide

theorem acceptApplyCommand_repairing (reading : Reading) (command : ApplyCommand) (world : World)
    (free : world.custody.Free)
    (unrequested : world.settling.transientDisconnectSettlementRequested = false) :
    (world.acceptApplyCommand reading command).Repairing (world.spent + sessionBudget) := by
  have idle := free.cancel
  cases configured : command.request.configuration with
  | none =>
      simp only [acceptApplyCommand, configured]
      exact .rests (by simpa using idle) (by simp) (by simp [spent])
  | some configuration =>
      have one : (world.acceptApplyCommand reading command).spent = world.spent + 1 := by
        simp [acceptApplyCommand, configured, spent]
      have reserve : (world.acceptApplyCommand reading command).settling.reserve ≤ 58 := by
        apply reserve_fresh configuration <;> simp [acceptApplyCommand, configured, unrequested]
      refine .works ?_ (by simp [acceptApplyCommand, configured]) ?_
      · simpa [acceptApplyCommand, configured] using idle.start .apply
      · simp only [one, sessionBudget]
        omega

theorem handleApplyCommand_mending (reading : Reading) (command : ApplyCommand)
    (owned : world.Owned) (down : world.fenceDown = true)
    (accepted : world.refuses reading (.apply command) = false)
    (newest : world.hasDeferredIntent = false) :
    (world.handleApplyCommand reading command).Mending (world.spent + sessionBudget) := by
  have lowered : world.fence.activeMutationWorker = none ∧
      world.fence.stagedStateResetPending = false := by
    simpa [fenceDown] using down
  have installed : world.handleApplyCommand reading command =
      acceptApplyCommand reading command (resetTransientDisconnectSettlement
        { world with lease := { world.lease with explicitRecoveryRequired := false } }) := by
    simp [handleApplyCommand, show reading.isStaleConnection command.connectionEpoch = false from
      accepted, lowered]
  have free := owned.free lowered.1
  rw [installed]
  refine ⟨?_, ?_, ?_⟩
  · exact acceptApplyCommand_repairing reading command (resetTransientDisconnectSettlement
      { world with lease := { world.lease with explicitRecoveryRequired := false } })
      (by simpa using free) rfl
  · simp only [acceptApplyCommand]
    split
    · exact .ended (by simp) (by simp)
    · exact .ended (by simp) (by simp)
  · apply newest_of_queue newest
    have same := queue_of_backlog (acceptApplyCommand_backlog reading command
      (resetTransientDisconnectSettlement
        { world with lease := { world.lease with explicitRecoveryRequired := false } }))
    rw [same]
    exact fun _ => id

end World

/-- A session command passes its fences. -/
def TakeUp.isAccepted (takeUp : TakeUp) : Bool :=
  takeUp.world.fenceDown && !takeUp.world.refuses takeUp.reading takeUp.command

namespace World

variable {budget : Nat}

theorem step_opens (environment : Environment) {event : Event} {world : World} {takeUp : TakeUp}
    {command : ApplyCommand} (owned : world.Owned)
    (taken : takeUp ∈ world.takeUps environment event) (asks : takeUp.command = .apply command)
    (accepted : takeUp.isAccepted = true) (newest : takeUp.world.hasDeferredIntent = false) :
    (world.step environment event).Mending (takeUp.world.spent + sessionBudget) := by
  simp only [TakeUp.isAccepted, Bool.and_eq_true, Bool.not_eq_true'] at accepted
  refine step_establishes Owned (fun world => world.Mending (takeUp.world.spent + sessionBudget))
    environment taken (world.advance_kept.owned owned)
    ((dispatchEvent_progress _ event owned).owned owned)
    (fun _ command rest owned _ _ => drainOne_owned environment command rest owned)
    (fun _ command rest owned => popDeferred_owned command rest owned) ?_
    (fun _ _ _ mending down queue => drainOne_mending environment mending down queue)
    (fun epilogue _ mending => conclude_mending epilogue mending)
  intro owned
  rw [asks] at accepted ⊢
  exact handleApplyCommand_mending takeUp.reading command owned accepted.1 accepted.2 newest

theorem run_mending (environment : Environment) (events : List Event) {world : World}
    (quiet : ∀ event ∈ events, event.isQuiet = true) (mending : world.Mending budget) :
    (Transition.run (step environment) events world).Mending
      (budget + (events.map Event.grant).sum) := by
  induction events generalizing world budget with
  | nil => exact mending
  | cons event rest ih =>
      obtain ⟨first, later⟩ := List.forall_mem_cons.mp quiet
      have after := ih later (step_mending environment first mending)
      rwa [Nat.add_assoc, ← List.sum_cons, ← List.map_cons] at after

theorem sum_grant (events : List Event) : (events.map Event.grant).sum =
    settlementGrant * events.count .beginTransientDisconnectSettlement := by
  induction events with
  | nil => rfl
  | cons event rest ih =>
      rw [List.map_cons, List.sum_cons, ih, List.count_cons]
      cases event <;> simp [Event.grant, Nat.mul_succ, Nat.add_comm]

/-- No apply worker, no check of the current generation: the repairs are over. -/
def Repaired (world : World) : Prop :=
  world.fence.activeMutationWorker = none ∧ world.custody.current = []
deriving Decidable

/-- A session that has not settled waits for a repair of its own generation. -/
theorem Repairing.outstanding {world : World} (repairing : world.Repairing budget) :
    world.Repaired ∧
        (world.fence.state = .waiting ∨ world.fence.state = .virtualDisplayMonitoring) ∨
      ¬world.Repaired ∧ ∃ task ∈ world.ports.tasks,
        task.owner? = some { kind := .apply, generation := world.ports.generation } ∨
        ∃ purpose, task.check? = some { purpose, generation := world.ports.generation } := by
  cases repairing with
  | rests idle steady _ => exact .inl ⟨⟨idle.worker, idle.current⟩, steady⟩
  | works working _ _ =>
      refine .inr ⟨fun repaired => absurd (working.holder.symm.trans repaired.1) (by simp), ?_⟩
      have owned : { kind := .apply, generation := world.ports.generation } ∈
          world.custody.owners := by rw [working.owners]; exact List.mem_singleton_self _
      obtain ⟨task, member, owner⟩ := List.mem_filterMap.mp owned
      exact ⟨task, member, .inl owner⟩
  | checks purpose checking _ _ =>
      refine .inr ⟨fun repaired => absurd (checking.current.symm.trans repaired.2) (by simp), ?_⟩
      have awaited : purpose ∈ world.custody.current := checking.current ▸ List.mem_singleton_self _
      obtain ⟨check, waits, current⟩ := List.mem_filterMap.mp awaited
      obtain ⟨task, member, checks⟩ := List.mem_filterMap.mp waits
      refine ⟨task, member, .inr ⟨check.purpose, ?_⟩⟩
      split at current
      next same =>
        have generation : check.generation = world.ports.generation := same
        rw [checks, ← generation]
      · simp at current

/-- Over every run: once an APPLY is accepted with no other session command left
in the queue, and nothing but completions, ticks and at most one disconnect
settlement follow, at most 72 more apply workers and verifications are
dispatched; and whenever none of them is outstanding any more, the machine rests
in Waiting or VirtualDisplayMonitoring. -/
theorem run_repair_bounded (environment : Environment) (past later : List Event) (event : Event)
    (takeUp : TakeUp) (command : ApplyCommand)
    (taken : takeUp ∈ (run environment past).takeUps environment event)
    (asks : takeUp.command = .apply command) (accepted : takeUp.isAccepted = true)
    (newest : takeUp.world.hasDeferredIntent = false)
    (quiet : ∀ event ∈ later, event.isQuiet = true)
    (once : later.count .beginTransientDisconnectSettlement ≤ 1) :
    (run environment (past ++ event :: later)).spent ≤ takeUp.world.spent + 72 ∧
      ((run environment (past ++ event :: later)).Repaired →
        (run environment (past ++ event :: later)).fence.state = .waiting ∨
          (run environment (past ++ event :: later)).fence.state = .virtualDisplayMonitoring) ∧
      (¬(run environment (past ++ event :: later)).Repaired →
        ∃ task ∈ (run environment (past ++ event :: later)).ports.tasks,
          task.owner? = some
              { kind := .apply
                generation := (run environment (past ++ event :: later)).ports.generation } ∨
            ∃ purpose, task.check? = some
              { purpose
                generation := (run environment (past ++ event :: later)).ports.generation }) := by
  have opened := step_opens environment (run_owned environment past) taken asks accepted newest
  have mending := run_mending environment later quiet opened
  have ran : Transition.run (step environment) later ((run environment past).step environment event) =
      run environment (past ++ event :: later) := by
    simp only [run, Transition.run_append, Transition.run_cons]
  rw [ran] at mending
  have spent := mending.repairing.spent_le
  simp only [sum_grant, sessionBudget, settlementGrant] at spent
  refine ⟨by omega, ?_, ?_⟩
  · intro repaired
    rcases mending.repairing.outstanding with ⟨_, steady⟩ | ⟨unrepaired, _⟩
    · exact steady
    · exact absurd repaired unrepaired
  · intro unrepaired
    rcases mending.repairing.outstanding with ⟨repaired, _⟩ | ⟨_, outstanding⟩
    · exact absurd repaired unrepaired
    · exact outstanding

/-- An APPLY whose worker fails once and succeeds on its retry. -/
def retriedSession : List Event :=
  [.complete 0 (.apply { status := .retryable }), .complete 0 (.apply { status := .ok }),
    .complete 0 (.verification true), .complete 0 (.verification true)]

def firstApply : ApplyCommand := { request := { configuration := some {} }, connectionEpoch := 1 }

def onFirstConnection : Environment := fun _ => { connectionEpoch := 1, tierExists := fun _ => true }

theorem run_repair_bounded_retriedSession :
    (run onFirstConnection (.deliver (.apply firstApply) :: retriedSession)).spent ≤ 72 ∧
      (run onFirstConnection (.deliver (.apply firstApply) :: retriedSession)).Repaired := by
  refine ⟨?_, by decide⟩
  exact (run_repair_bounded onFirstConnection [] retriedSession (.deliver (.apply firstApply))
    { reading := onFirstConnection 0
      command := .apply firstApply
      queued := false
      world := initial.advance }
    firstApply (List.mem_singleton_self _) rfl (by decide) (by decide) (by decide) (by decide)).1

/-- The REVERT of a broken connection waits behind a RESET while the repair of the
disconnected session is under way.  The repair hands over to its next check
without draining, so the REVERT is left behind and the APPLY of the next client
overtakes it. -/
def overtakenRevert : List Event :=
  [.deliver (.apply firstApply), .complete 0 (.apply { status := .ok }),
    .complete 0 (.verification true), .complete 0 (.verification true),
    .beginTransientDisconnectSettlement, .deliver (.reset { connectionEpoch := 1 }),
    .deliver (.revert { fromDisconnect := true }), .complete 0 (.verification false),
    .complete 0 (.resetStagedApplyState true), .complete 0 (.apply { status := .ok })]

/-- The APPLY is accepted and its worker succeeds; what it completes is the older
REVERT, and the machine polls in the event loop. -/
theorem overtakenRevert_replaces_session :
    (TakeUp.isAccepted
        { reading := onFirstConnection 10
          command := .apply firstApply
          queued := false
          world := (run onFirstConnection overtakenRevert).advance } = true) ∧
      (∀ event ∈ [Event.complete 1 (.apply { status := .ok }), .complete 2 (.recovery {})],
        event.isQuiet = true) ∧
      (run onFirstConnection (overtakenRevert ++ .deliver (.apply firstApply) ::
        [.complete 1 (.apply { status := .ok }), .complete 2 (.recovery {})])).Quiescent ∧
      (run onFirstConnection (overtakenRevert ++ .deliver (.apply firstApply) ::
        [.complete 1 (.apply { status := .ok }), .complete 2 (.recovery {})])).fence.state =
          .eventLoop := by
  decide

end World

end UmbraHost.DisplayHelper
