import UmbraHost.DisplayHelper.StraightLine

/-! # Custody of the display

The work in flight, as far as it matters who may touch the display.  Either
nothing of the current generation is in flight, or one worker holds the fence,
or one check of the current generation is awaited. -/

namespace UmbraHost.DisplayHelper

/-- The fence entry of a task that mutates the display. -/
def Task.owner? : Task → Option ActiveMutationWorker
  | .apply _ _ _ generation => some { kind := .apply, generation }
  | .refreshRate _ generation => some { kind := .refreshRate, generation }
  | .recovery _ generation => some { kind := .recovery, generation }
  | .recoveryValidation _ generation => some { kind := .recovery, generation }
  | .verification .. | .resetStagedApplyState _ => none

/-- A verification in flight. -/
structure Check where
  purpose : VerificationPurpose
  generation : Nat
deriving DecidableEq, Repr

def Task.check? : Task → Option Check
  | .verification _ _ _ _ purpose generation => some { purpose, generation }
  | _ => none

def owners (tasks : List Task) : List ActiveMutationWorker := tasks.filterMap Task.owner?

def checks (tasks : List Task) : List Check := tasks.filterMap Task.check?

@[simp] theorem owners_append (first second : List Task) :
    owners (first ++ second) = owners first ++ owners second := by
  simp [owners]

@[simp] theorem checks_append (first second : List Task) :
    checks (first ++ second) = checks first ++ checks second := by
  simp [checks]

@[simp] theorem owners_singleton (task : Task) : owners [task] = task.owner?.toList := by
  cases task <;> rfl

@[simp] theorem checks_singleton (task : Task) : checks [task] = task.check?.toList := by
  cases task <;> rfl

attribute [simp] Task.owner? Task.check?

@[simp] theorem owners_nil : owners [] = [] := rfl

@[simp] theorem checks_nil : checks [] = [] := rfl

@[simp] theorem owners_ite (condition : Prop) [Decidable condition] (first second : List Task) :
    owners (if condition then first else second) =
      if condition then owners first else owners second :=
  apply_ite owners condition first second

@[simp] theorem checks_ite (condition : Prop) [Decidable condition] (first second : List Task) :
    checks (if condition then first else second) =
      if condition then checks first else checks second :=
  apply_ite checks condition first second

@[simp] theorem owners_resetTasks (world : World) : owners world.resetTasks = [] := by
  simp only [World.resetTasks]
  split <;> rfl

@[simp] theorem checks_resetTasks (world : World) : checks world.resetTasks = [] := by
  simp only [World.resetTasks]
  split <;> rfl

@[simp] theorem owners_uncommittedResetTasks (world : World) :
    owners world.uncommittedResetTasks = [] := by
  simp [World.uncommittedResetTasks]

@[simp] theorem checks_uncommittedResetTasks (world : World) :
    checks world.uncommittedResetTasks = [] := by
  simp [World.uncommittedResetTasks]

theorem singleton_split {α : Type} {first second : α} {front back : List α}
    (same : [first] = front ++ [second] ++ back) :
    first = second ∧ front = [] ∧ back = [] := by
  cases front with
  | nil => simpa [eq_comm] using same
  | cons head tail =>
      have longer := congrArg List.length same
      simp only [List.length_append, List.length_cons, List.length_nil] at longer
      omega

/-- The fence and the work in flight. -/
structure Custody where
  worker : Option ActiveMutationWorker
  generation : Nat
  owners : List ActiveMutationWorker
  checks : List Check

namespace Custody

/-- The purposes of the checks that a generation waits for. -/
def awaited (generation : Nat) (checks : List Check) : List VerificationPurpose :=
  checks.filterMap fun check =>
    if check.generation = generation then some check.purpose else none

theorem awaited_append (generation : Nat) (first second : List Check) :
    awaited generation (first ++ second) = awaited generation first ++ awaited generation second := by
  simp [awaited]

theorem awaited_singleton (generation : Nat) (check : Check) :
    awaited generation [check] = if check.generation = generation then [check.purpose] else [] := by
  simp only [awaited, List.filterMap_cons, List.filterMap_nil]
  split <;> simp_all

/-- The purposes of the checks that the current generation waits for. -/
def current (custody : Custody) : List VerificationPurpose :=
  awaited custody.generation custody.checks

/-- No worker is outstanding; checks may be. -/
structure Free (custody : Custody) : Prop where
  worker : custody.worker = none
  owners : custody.owners = []
  bounded : ∀ check ∈ custody.checks, check.generation ≤ custody.generation

/-- Neither a worker nor a check of the current generation is outstanding. -/
structure Idle (custody : Custody) : Prop extends Free custody where
  current : custody.current = []

structure Working (custody : Custody) (worker : ActiveMutationWorker) : Prop where
  holder : custody.worker = some worker
  owners : custody.owners = [worker]
  bounded : ∀ check ∈ custody.checks, check.generation ≤ custody.generation
  current : custody.current = []

structure Checking (custody : Custody) (purpose : VerificationPurpose) : Prop
    extends Free custody where
  current : custody.current = [purpose]

/-! ## What handlers do to a custody -/

@[simp] def cancel (custody : Custody) : Custody :=
  { custody with generation := custody.generation + 1 }

@[simp] def start (kind : MutationWorkerKind) (custody : Custody) : Custody :=
  { custody with
    worker := some { kind, generation := custody.generation }
    owners := custody.owners ++ [{ kind, generation := custody.generation }] }

@[simp] def verify (purpose : VerificationPurpose) (custody : Custody) : Custody :=
  { custody with checks := custody.checks ++ [{ purpose, generation := custody.generation }] }

theorem current_cancel {custody : Custody}
    (bounded : ∀ check ∈ custody.checks, check.generation ≤ custody.generation) :
    custody.cancel.current = [] := by
  rw [current, awaited, List.filterMap_eq_nil_iff]
  intro check member
  have older : check.generation ≠ custody.generation + 1 := by
    have bound := bounded check member
    omega
  simp [older]

theorem Free.cancel {custody : Custody} (free : Free custody) : Idle custody.cancel where
  worker := free.worker
  owners := free.owners
  bounded := fun check member => Nat.le_succ_of_le (free.bounded check member)
  current := current_cancel free.bounded

/-- A cancelled worker is outstanding until it reports. -/
theorem Working.cancel {custody : Custody} {worker : ActiveMutationWorker}
    (working : Working custody worker) : Working custody.cancel worker where
  holder := working.holder
  owners := working.owners
  bounded := fun check member => Nat.le_succ_of_le (working.bounded check member)
  current := current_cancel working.bounded

theorem Idle.start {custody : Custody} (idle : Idle custody) (kind : MutationWorkerKind) :
    Working (custody.start kind) { kind, generation := custody.generation } where
  holder := rfl
  owners := by simp [idle.owners]
  bounded := idle.bounded
  current := idle.current

theorem Idle.verify {custody : Custody} (idle : Idle custody) (purpose : VerificationPurpose) :
    Checking (custody.verify purpose) purpose where
  worker := idle.worker
  owners := idle.owners
  bounded := by
    intro check member
    rcases List.mem_append.mp member with older | new
    · exact idle.bounded check older
    · simp_all
  current := by
    have none : awaited custody.generation custody.checks = [] := idle.current
    simp [Custody.current, awaited_append, awaited_singleton, none]

/-- One custody is the other with some checks of past generations gone. -/
structure Like (after before : Custody) : Prop where
  worker : after.worker = before.worker
  generation : after.generation = before.generation
  owners : after.owners = before.owners
  current : after.current = before.current
  checks : ∀ check ∈ after.checks, check ∈ before.checks

variable {after before : Custody}

theorem Like.bounded (like : Like after before)
    (bounded : ∀ check ∈ before.checks, check.generation ≤ before.generation) :
    ∀ check ∈ after.checks, check.generation ≤ after.generation := by
  intro check member
  rw [like.generation]
  exact bounded check (like.checks check member)

theorem Like.free (like : Like after before) (free : Free before) : Free after where
  worker := like.worker.trans free.worker
  owners := like.owners.trans free.owners
  bounded := like.bounded free.bounded

theorem Like.idle (like : Like after before) (idle : Idle before) : Idle after where
  toFree := like.free idle.toFree
  current := like.current.trans idle.current

theorem Like.working (like : Like after before) {worker : ActiveMutationWorker}
    (working : Working before worker) : Working after worker where
  holder := like.worker.trans working.holder
  owners := like.owners.trans working.owners
  bounded := like.bounded working.bounded
  current := like.current.trans working.current

theorem Like.checking (like : Like after before) {purpose : VerificationPurpose}
    (checking : Checking before purpose) : Checking after purpose where
  toFree := like.free checking.toFree
  current := like.current.trans checking.current

end Custody

@[simp] def World.custody (world : World) : Custody :=
  { worker := world.fence.activeMutationWorker
    generation := world.ports.generation
    owners := owners world.ports.tasks
    checks := checks world.ports.tasks }

/-- The states a worker is outstanding in. -/
@[simp] def MutationWorkerKind.Hosted (state : State) : MutationWorkerKind → Prop
  | .apply => state = .inProgress
  | .refreshRate => state = .waiting ∨ state = .virtualDisplayMonitoring
  | .recovery => state = .recovery ∨ state = .recoveryValidation

/-- The states a check of the current generation is outstanding in. -/
@[simp] def VerificationPurpose.Awaited (state : State) (postApplyCheckPending : Bool) :
    VerificationPurpose → Prop
  | .stabilization => (state = .waiting ∨ state = .virtualDisplayMonitoring) ∧
      postApplyCheckPending = true
  | _ => state = .verification

/-- The states the machine can rest in with no work left. -/
@[simp] def State.Rests (state : State) : Prop :=
  state = .waiting ∨ state = .eventLoop ∨ state = .virtualDisplayMonitoring
deriving Decidable

namespace World

inductive Owned (world : World) : Prop where
  | idle (idle : world.custody.Idle)
  | working (worker : ActiveMutationWorker) (working : world.custody.Working worker)
      (hosted : worker.kind.Hosted world.fence.state)
  | checking (purpose : VerificationPurpose) (checking : world.custody.Checking purpose)
      (awaited : purpose.Awaited world.fence.state world.settling.postApplyCheckPending)

/-- Work is in flight, or the machine rests.  The completion of a cancelled
worker moves the machine on only through the intent queued behind it. -/
inductive Settled (world : World) : Prop where
  | resting (idle : world.custody.Idle) (rests : world.fence.state.Rests)
  | working (worker : ActiveMutationWorker) (working : world.custody.Working worker)
      (hosted : worker.kind.Hosted world.fence.state)
      (live : worker.generation = world.ports.generation ∨ world.hasDeferredIntent = true)
  | checking (purpose : VerificationPurpose) (checking : world.custody.Checking purpose)
      (awaited : purpose.Awaited world.fence.state world.settling.postApplyCheckPending)

theorem Settled.owned {world : World} (settled : world.Settled) : world.Owned := by
  cases settled with
  | resting idle _ => exact .idle idle
  | working worker working hosted _ => exact .working worker working hosted
  | checking purpose checking awaited => exact .checking purpose checking awaited

/-- With the fence down, nothing but a check can be outstanding. -/
theorem Owned.free {world : World} (owned : world.Owned)
    (down : world.fence.activeMutationWorker = none) : world.custody.Free := by
  cases owned with
  | idle idle => exact idle.toFree
  | working worker working _ => exact absurd (working.holder.symm.trans down) (by simp)
  | checking purpose checking _ => exact checking.toFree

theorem Owned.held {world : World} (owned : world.Owned)
    (up : world.fence.activeMutationWorker.isSome) :
    ∃ worker, world.custody.Working worker ∧ worker.kind.Hosted world.fence.state := by
  cases owned with
  | idle idle => exact absurd idle.worker (by simpa [Option.isSome_iff_ne_none] using up)
  | working worker working hosted => exact ⟨worker, working, hosted⟩
  | checking purpose checking _ =>
      exact absurd checking.worker (by simpa [Option.isSome_iff_ne_none] using up)

/-- Settled, or the intent that will move the machine on is queued. -/
def Live (world : World) : Prop :=
  world.Settled ∨ world.custody.Idle ∧ world.hasDeferredIntent = true

theorem Live.owned {world : World} (live : world.Live) : world.Owned := by
  rcases live with settled | ⟨idle, _⟩
  · exact settled.owned
  · exact .idle idle

/-- A step that neither starts nor loses work. -/
structure Kept (before after : World) : Prop where
  owned : before.Owned → after.Owned
  settled : before.Settled → after.Settled
  live : before.Live → after.Live

theorem Kept.unchanged {world : World} : Kept world world where
  owned := id
  settled := id
  live := id

theorem Kept.of_eq {before after : World} (same : after = before) : Kept before after :=
  same ▸ .unchanged

theorem Kept.trans {before between after : World} (first : Kept before between)
    (second : Kept between after) : Kept before after where
  owned := fun owned => second.owned (first.owned owned)
  settled := fun settled => second.settled (first.settled settled)
  live := fun live => second.live (first.live live)

/-- Everything in flight is as it was. -/
theorem Kept.like {before after : World} (like : after.custody.Like before.custody)
    (state : after.fence.state = before.fence.state)
    (pending : after.settling.postApplyCheckPending = before.settling.postApplyCheckPending)
    (intent : before.hasDeferredIntent = true → after.hasDeferredIntent = true) :
    Kept before after := by
  have generation : after.ports.generation = before.ports.generation := like.generation
  have settled : before.Settled → after.Settled := by
    intro settled
    cases settled with
    | resting idle rests => exact .resting (like.idle idle) (state ▸ rests)
    | working worker working hosted live =>
        exact .working worker (like.working working) (state ▸ hosted)
          (live.imp (generation ▸ ·) intent)
    | checking purpose checking awaited =>
        exact .checking purpose (like.checking checking) (by rw [state, pending]; exact awaited)
  refine ⟨?_, settled, Or.imp settled (And.imp like.idle intent)⟩
  intro owned
  cases owned with
  | idle idle => exact .idle (like.idle idle)
  | working worker working hosted =>
      exact .working worker (like.working working) (state ▸ hosted)
  | checking purpose checking awaited =>
      exact .checking purpose (like.checking checking) (by rw [state, pending]; exact awaited)

theorem Kept.same {before after : World} (custody : after.custody = before.custody)
    (state : after.fence.state = before.fence.state)
    (pending : after.settling.postApplyCheckPending = before.settling.postApplyCheckPending)
    (intent : before.hasDeferredIntent = true → after.hasDeferredIntent = true) :
    Kept before after :=
  .like (by rw [custody]; exact ⟨rfl, rfl, rfl, rfl, fun _ => id⟩) state pending intent

/-- The active worker is cancelled and an intent waits for its completion. -/
theorem Kept.cancelled {before after : World} (up : before.fence.activeMutationWorker.isSome)
    (custody : after.custody = before.custody.cancel)
    (state : after.fence.state = before.fence.state) (intent : after.hasDeferredIntent = true) :
    Kept before after := by
  have settled : before.Owned → after.Settled := by
    intro owned
    obtain ⟨worker, working, hosted⟩ := owned.held up
    exact .working worker (custody ▸ working.cancel) (state ▸ hosted) (.inr intent)
  exact ⟨fun owned => (settled owned).owned, fun before => settled before.owned,
    fun live => .inl (settled live.owned)⟩

end World

end UmbraHost.DisplayHelper
