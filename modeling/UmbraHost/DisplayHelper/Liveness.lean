import UmbraHost.DisplayHelper.Ladders

/-! # Liveness of the in-flight states

A machine that applies, verifies or recovers waits for a worker, for a check of
the current generation or for a queued intent.  Three kinds of steps break
this: a queued intent that is dropped, a REVERT with nothing to restore, and a
display event that cancels a pending disconnect check. -/

namespace UmbraHost.DisplayHelper

def State.rests : State → Bool
  | .waiting | .eventLoop | .virtualDisplayMonitoring => true
  | _ => false

theorem State.rests_iff (state : State) : state.rests = true ↔ state.Rests := by
  cases state <;> simp [State.rests]

/-- The command leaves an in-flight state behind with nothing that would move it
on: it was queued and is dropped, or it finds nothing to restore. -/
def TakeUp.strands (takeUp : TakeUp) : Bool :=
  !takeUp.world.fence.state.rests &&
    (takeUp.queued && !takeUp.command.isReset && takeUp.world.custody.current.isEmpty &&
        takeUp.world.refuses takeUp.reading takeUp.command ||
      takeUp.world.fenceDown && !takeUp.world.refuses takeUp.reading takeUp.command &&
        takeUp.world.findsNothing takeUp.reading takeUp.command)

theorem TakeUp.rests_of_nothing {takeUp : TakeUp} (stays : takeUp.strands = false)
    (down : takeUp.world.fenceDown = true)
    (accepted : takeUp.world.refuses takeUp.reading takeUp.command = false)
    (nothing : takeUp.world.findsNothing takeUp.reading takeUp.command = true) :
    takeUp.world.fence.state.Rests := by
  rw [← State.rests_iff]
  cases rests : takeUp.world.fence.state.rests with
  | true => rfl
  | false => simp only [strands, rests, down, accepted, nothing] at stays; simp at stays

theorem TakeUp.rests_of_refused {takeUp : TakeUp} (stays : takeUp.strands = false)
    (queued : takeUp.queued = true) (intent : takeUp.command.isReset = false)
    (unchecked : takeUp.world.custody.current = [])
    (refused : takeUp.world.refuses takeUp.reading takeUp.command = true) :
    takeUp.world.fence.state.Rests := by
  rw [← State.rests_iff]
  cases rests : takeUp.world.fence.state.rests with
  | true => rfl
  | false =>
      simp only [strands, rests, queued, intent, unchecked, refused] at stays
      simp at stays

namespace World

/-- The step drops no queued intent that an in-flight state waits for, and
overtakes no disconnect check. -/
def carriesOn (environment : Environment) (event : Event) (world : World) : Bool :=
  !world.overtakes (environment world.ports.moment) event &&
    (world.takeUps environment event).all (!·.strands)

/-- Nothing is outstanding: no worker, no staged-state reset, no check of the
current generation and no queued command. -/
def Quiescent (world : World) : Prop :=
  world.fence.activeMutationWorker = none ∧ world.fence.stagedStateResetPending = false ∧
    world.custody.current = [] ∧ world.fence.deferredMutationCommands = []
deriving Decidable

theorem Live.rests {world : World} (live : world.Live) (quiescent : world.Quiescent) :
    world.fence.state.Rests := by
  obtain ⟨down, _, unchecked, empty⟩ := quiescent
  rcases live with settled | ⟨_, intent⟩
  · cases settled with
    | resting _ rests => exact rests
    | working worker working _ _ => exact absurd (working.holder.symm.trans down) (by simp)
    | checking purpose checking _ => exact absurd (checking.current.symm.trans unchecked) (by simp)
  · simp [empty] at intent

theorem Progress.live {reading : Reading} {event : Event} {before after : World}
    (progress : Progress reading event before after) (live : before.Live)
    (ladders : before.Ladders)
    (kept : ∀ takeUp ∈ before.arrivals reading event, takeUp.strands = false) : after.Live := by
  cases progress with
  | kept kept => exact kept.live live
  | settled settled => exact .inl settled
  | disturbed pending engaged other _ =>
      rcases ladders.disconnect pending with checking | away
      · exact absurd checking other
      · rcases engaged with state | state <;> simp [state] at away
  | spent spent _ =>
      obtain ⟨unrequested, spent⟩ := spent
      obtain ⟨pending, next⟩ := ladders.unrequested unrequested
      rcases spent with flag | stage | ⟨ordinary, verifying⟩
      · simp [pending] at flag
      · exact absurd next stage
      · have steady := (ladders.ordinary ordinary).2
        simp [verifying] at steady
  | cancelled worker working stale idle queue =>
      rcases live with settled | ⟨idle, _⟩
      · cases settled with
        | resting idle _ => exact absurd (working.holder.symm.trans idle.worker) (by simp)
        | checking _ checking _ => exact absurd (working.holder.symm.trans checking.worker) (by simp)
        | working active holding _ fresh =>
            obtain rfl : active = worker :=
              Option.some.inj (holding.holder.symm.trans working.holder)
            have intent := fresh.resolve_left stale
            exact .inr ⟨idle, by simpa [hasDeferredIntent, queue] using intent⟩
      · exact absurd (working.holder.symm.trans idle.worker) (by simp)
  | stranded command delivered down accepted nothing idle state =>
      subst delivered
      have stays := kept
        { reading, command := .revert command, queued := false, world := before.advance }
        (by simp [arrivals, Message.command?])
      have rests := TakeUp.rests_of_nothing stays down accepted nothing
      exact .inl (.resting idle (state ▸ rests))

theorem popDeferred_settled {world : World} (command : DeferredMutationCommand)
    (rest : List DeferredMutationCommand) (down : world.fence.activeMutationWorker = none)
    (settled : world.Settled) : (world.popDeferred command rest).advance.Settled := by
  cases settled with
  | resting idle rests => exact .resting (by simpa using idle) rests
  | working worker working _ _ => exact absurd (working.holder.symm.trans down) (by simp)
  | checking purpose checking awaited => exact .checking purpose (by simpa using checking) awaited

/-- A command that is taken up with the fence down moves the machine on, or was
not the one it waits for. -/
theorem drainOne_live (environment : Environment) {world : World}
    (command : DeferredMutationCommand) (rest : List DeferredMutationCommand) (live : world.Live)
    (lowered : world.fenceDown = true)
    (queue : world.fence.deferredMutationCommands = command :: rest)
    (stays : TakeUp.strands
      { reading := environment world.ports.moment
        command
        queued := true
        world := (world.popDeferred command rest).advance } = false) :
    (world.drainOne environment command rest).Live := by
  have down : world.fence.activeMutationWorker = none := by
    cases worker : world.fence.activeMutationWorker <;> simp_all
  have taken := handleDeferred_takenUp (environment world.ports.moment) command
    (popDeferred_owned command rest live.owned)
  have waiting : (world.popDeferred command rest).advance.Live ∨
      (world.popDeferred command rest).advance.custody.Idle ∧ command.isReset = false := by
    rcases live with settled | ⟨idle, intent⟩
    · exact .inl (.inl (popDeferred_settled command rest down settled))
    · cases reset : command.isReset with
      | true =>
          refine .inl (.inr ⟨by simpa using idle, ?_⟩)
          simpa [queue, reset] using intent
      | false => exact .inr ⟨by simpa using idle, rfl⟩
  cases taken with
  | refused refused same =>
      rcases waiting with live | ⟨idle, intent⟩
      · exact Kept.live (.of_eq same) live
      · have rests := TakeUp.rests_of_refused stays rfl intent idle.current refused
        exact Kept.live (.of_eq same) (.inl (.resting idle rests))
  | waits up _ => simp_all
  | resets reset kept =>
      rcases waiting with live | ⟨_, intent⟩
      · exact kept.live live
      · simp [reset] at intent
  | accepted settled => exact .inl settled
  | nothing down accepted nothing idle state =>
      have rests := TakeUp.rests_of_nothing stays down accepted nothing
      exact .inl (.resting idle (state ▸ rests))

theorem step_live (environment : Environment) (event : Event) {world : World}
    (carries : world.carriesOn environment event = true) (live : world.Live)
    (ladders : world.Ladders) :
    (world.step environment event).Live ∧ (world.step environment event).Ladders := by
  simp only [carriesOn, Bool.and_eq_true, Bool.not_eq_true', List.all_eq_true] at carries
  obtain ⟨heeds, stays⟩ := carries
  have arrived := (dispatchEvent_progress (environment world.ports.moment) event live.owned).live
    live ladders (fun takeUp member => stays takeUp (List.mem_append_left _ member))
  have climbed := dispatchEvent_ladders _ event live.owned ladders heeds
  refine finish_preserves (fun world => world.Live ∧ world.Ladders)
    (fun takeUp => takeUp.strands = false) environment ?_ ?_ _
    (fun takeUp member => stays takeUp (List.mem_append_right _ member)) ⟨arrived, climbed⟩
  · intro world command rest ⟨live, ladders⟩ down queue stays
    exact ⟨drainOne_live environment command rest live down queue stays,
      drainOne_ladders environment command rest live.owned ladders⟩
  · intro epilogue world ⟨live, ladders⟩
    exact ⟨(conclude_kept epilogue world).live live, conclude_ladders epilogue ladders⟩

theorem initial_live : initial.Live :=
  .inl (.resting initial_idle (by simp [initial]))

theorem initial_ladders : initial.Ladders where
  unrequested := fun _ => ⟨rfl, rfl⟩
  disconnect := by simp [initial]
  ordinary := by simp [initial]

/-- In every run whose steps carry on, the machine rests whenever nothing is
outstanding. -/
theorem run_rests_of_quiescent (environment : Environment) (events : List Event)
    (carries : Transition.Meets (step environment)
      (fun event world => world.carriesOn environment event = true) events initial)
    (quiescent : (run environment events).Quiescent) :
    (run environment events).fence.state.Rests := by
  have reached : (run environment events).Live ∧ (run environment events).Ladders :=
    Transition.run_preserves_of_meets (step environment) (fun world => world.Live ∧ world.Ladders)
      (fun event world carries both => step_live environment event carries both.1 both.2)
      carries ⟨initial_live, initial_ladders⟩
  exact reached.1.rests quiescent

/-- A session that is applied, verified and checked once more. -/
def settledSession : List Event :=
  [.deliver (.apply { request := { configuration := some {} }, connectionEpoch := 1 }),
    .complete 0 (.apply { status := .ok }), .complete 0 (.verification true),
    .complete 0 (.verification true)]

theorem run_rests_of_quiescent_settledSession :
    (run (fun _ => { connectionEpoch := 1 }) settledSession).Quiescent ∧
      (run (fun _ => { connectionEpoch := 1 }) settledSession).fence.state.Rests :=
  have quiescent : (run (fun _ => { connectionEpoch := 1 }) settledSession).Quiescent := by
    decide
  ⟨quiescent, run_rests_of_quiescent _ _ ⟨by decide, by decide, by decide, by decide, trivial⟩
    quiescent⟩

/-- The connection that queued a DISARM behind its APPLY is retired before the
cancelled worker reports. -/
def retiredConnection : Environment := fun moment =>
  { connectionEpoch := if moment < 2 then 1 else 2 }

def droppedDisarm : List Event :=
  [.deliver (.apply { request := { configuration := some {} }, connectionEpoch := 1 }),
    .deliver (.disarm { connectionEpoch := 1 }), .complete 0 (.apply {})]

theorem droppedDisarm_strands :
    (run retiredConnection droppedDisarm).Quiescent ∧
      ¬(run retiredConnection droppedDisarm).fence.state.Rests := by
  decide

end World

end UmbraHost.DisplayHelper
