import UmbraHost.DisplayHelper.Run

/-! # Commands as they are taken up

A step handles the command that arrives, or a completion and then the queued
commands that its drain takes up, each in the state and at the moment the drain
has reached.  Conditions on the steps of a run are conditions on these. -/

namespace UmbraHost.DisplayHelper

structure TakeUp where
  reading : Reading
  command : DeferredMutationCommand
  queued : Bool
  world : World

/-- The command that a message asks to take up at once. -/
def Message.command? : Message → Option DeferredMutationCommand
  | .apply command => some (.apply command)
  | .revert command => some (.revert command)
  | .disarm command => some (.disarm command)
  | .reset command => some (.reset command)
  | _ => none

namespace World

def drainTakeUps (environment : Environment) : Nat → World → List TakeUp
  | 0, _ => []
  | fuel + 1, world =>
      match world.fence.deferredMutationCommands with
      | [] => []
      | command :: rest =>
          if world.fenceDown then
            { reading := environment world.ports.moment
              command
              queued := true
              world := (world.popDeferred command rest).advance } ::
              drainTakeUps environment fuel (world.drainOne environment command rest)
          else []

def Ending.takeUps (environment : Environment) : Ending → List TakeUp
  | .returns _ => []
  | .drains world _ =>
      drainTakeUps environment world.fence.deferredMutationCommands.length world

def arrivals (reading : Reading) (world : World) : Event → List TakeUp
  | .deliver message => message.command?.toList.map fun command =>
      { reading, command, queued := false, world := world.advance }
  | _ => []

def takeUps (environment : Environment) (event : Event) (world : World) : List TakeUp :=
  world.arrivals (environment world.ports.moment) event ++
    (world.dispatchEvent (environment world.ports.moment) event).takeUps environment

/-- Rule of the drain: what each command taken up keeps, the drain keeps. -/
theorem drainLoop_preserves (invariant : World → Prop) (allowed : TakeUp → Prop)
    (environment : Environment)
    (taken : ∀ world command rest, invariant world → world.fenceDown = true →
      world.fence.deferredMutationCommands = command :: rest →
      allowed
        { reading := environment world.ports.moment
          command
          queued := true
          world := (world.popDeferred command rest).advance } →
      invariant (world.drainOne environment command rest))
    (fuel : Nat) {world : World} (met : ∀ takeUp ∈ drainTakeUps environment fuel world, allowed takeUp)
    (holds : invariant world) : invariant (drainLoop environment fuel world) := by
  induction fuel generalizing world with
  | zero => exact holds
  | succ fuel ih =>
      simp only [drainLoop]
      simp only [drainTakeUps] at met
      cases queue : world.fence.deferredMutationCommands with
      | nil => exact holds
      | cons command rest =>
          simp only [queue] at met ⊢
          split
          next down =>
            rw [if_pos down] at met
            obtain ⟨first, later⟩ := List.forall_mem_cons.mp met
            exact ih later (taken world command rest holds down queue first)
          · exact holds

/-- The same for a whole step: up to the drain, through the drain and after it. -/
theorem finish_preserves (invariant : World → Prop) (allowed : TakeUp → Prop)
    (environment : Environment)
    (taken : ∀ world command rest, invariant world → world.fenceDown = true →
      world.fence.deferredMutationCommands = command :: rest →
      allowed
        { reading := environment world.ports.moment
          command
          queued := true
          world := (world.popDeferred command rest).advance } →
      invariant (world.drainOne environment command rest))
    (concluded : ∀ epilogue world, invariant world → invariant (conclude epilogue world))
    (ending : Ending) (met : ∀ takeUp ∈ ending.takeUps environment, allowed takeUp)
    (holds : invariant ending.world) : invariant (ending.finish environment) := by
  cases ending with
  | returns world => exact holds
  | drains world epilogue =>
      exact concluded epilogue _ (drainLoop_preserves invariant allowed environment taken _ met holds)

/-- A command that arrives is handled at once, and nothing is drained behind it. -/
theorem step_of_arrival (environment : Environment) {event : Event} {world : World}
    {takeUp : TakeUp} (arrived : takeUp ∈ world.arrivals (environment world.ports.moment) event) :
    world.step environment event = handleDeferred takeUp.reading takeUp.command takeUp.world := by
  cases event with
  | deliver message =>
      simp only [arrivals, List.mem_map, Option.mem_toList] at arrived
      obtain ⟨command, asks, rfl⟩ := arrived
      cases message <;> simp_all [Message.command?] <;> subst asks <;> rfl
  | _ => simp [arrivals] at arrived

/-- Rule of one command of the drain: what it establishes in a state that the drain
reaches, the rest of the drain keeps. -/
theorem drainLoop_establishes (before after : World → Prop) (environment : Environment)
    {takeUp : TakeUp}
    (reaches : ∀ world command rest, before world → world.fenceDown = true →
      world.fence.deferredMutationCommands = command :: rest →
      before (world.drainOne environment command rest))
    (established : before takeUp.world →
      after (handleDeferred takeUp.reading takeUp.command takeUp.world))
    (popped : ∀ world command rest, before world → before (world.popDeferred command rest).advance)
    (keeps : ∀ world command rest, after world → world.fenceDown = true →
      world.fence.deferredMutationCommands = command :: rest →
      after (world.drainOne environment command rest))
    (fuel : Nat) {world : World} (member : takeUp ∈ drainTakeUps environment fuel world)
    (holds : before world) : after (drainLoop environment fuel world) := by
  induction fuel generalizing world with
  | zero => simp [drainTakeUps] at member
  | succ fuel ih =>
      simp only [drainTakeUps] at member
      simp only [drainLoop]
      cases queue : world.fence.deferredMutationCommands with
      | nil => simp [queue] at member
      | cons command rest =>
          simp only [queue] at member ⊢
          split at member
          next down =>
            rw [if_pos down]
            rcases List.mem_cons.mp member with rfl | later
            · exact drainLoop_preserves after (fun _ => True) environment
                (fun world command rest holds down queue _ => keeps world command rest holds down queue)
                fuel (fun _ _ => trivial) (established (popped world command rest holds))
            · exact ih later (reaches world command rest holds down queue)
          · simp at member

/-- The same for a whole step. -/
theorem step_establishes (before after : World → Prop) (environment : Environment)
    {takeUp : TakeUp} {event : Event} {world : World}
    (taken : takeUp ∈ world.takeUps environment event)
    (arrives : before world.advance)
    (holds : before (world.dispatchEvent (environment world.ports.moment) event).world)
    (reaches : ∀ world command rest, before world → world.fenceDown = true →
      world.fence.deferredMutationCommands = command :: rest →
      before (world.drainOne environment command rest))
    (popped : ∀ world command rest, before world → before (world.popDeferred command rest).advance)
    (established : before takeUp.world →
      after (handleDeferred takeUp.reading takeUp.command takeUp.world))
    (keeps : ∀ world command rest, after world → world.fenceDown = true →
      world.fence.deferredMutationCommands = command :: rest →
      after (world.drainOne environment command rest))
    (concluded : ∀ epilogue world, after world → after (conclude epilogue world)) :
    after (world.step environment event) := by
  rcases List.mem_append.mp taken with arrived | drained
  · rw [step_of_arrival environment arrived]
    apply established
    cases event with
    | deliver message =>
        simp only [arrivals, List.mem_map, Option.mem_toList] at arrived
        obtain ⟨command, _, rfl⟩ := arrived
        exact arrives
    | _ => simp [arrivals] at arrived
  · rw [step]
    cases ending : world.dispatchEvent (environment world.ports.moment) event with
    | returns next =>
        rw [ending] at drained
        simp [Ending.takeUps] at drained
    | drains next epilogue =>
        rw [ending] at drained holds
        exact concluded epilogue _ (drainLoop_establishes before after environment reaches
          established popped keeps _ drained holds)

end World

end UmbraHost.DisplayHelper
