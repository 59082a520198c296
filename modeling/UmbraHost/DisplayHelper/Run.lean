import UmbraHost.DisplayHelper.Events
import UmbraHost.Transition.Run

/-! # Runs of the helper

An event is a message from outside, the completion of an outstanding task, a
tick, a disconnect settlement, or the recovery worker setting its
`restore_attempted_unconfirmed` flag.  Outstanding tasks may complete in any
order: every order the FIFO dispatcher and its timer thread allow is among
them. -/

namespace UmbraHost.DisplayHelper

inductive Outcome where
  | apply (outcome : ApplyOutcome)
  | verification (success : Bool)
  | resetStagedApplyState (success : Bool)
  | refreshRate (success : Bool)
  | recovery (outcome : RecoveryOutcome)
  | recoveryValidation (success : Bool)
deriving DecidableEq, Repr

/-- The message a task's completion callback posts; `none` when the outcome is
not one of this kind of task. -/
def Task.completion : Task → Outcome → Option Message
  | .apply _ _ _ generation, .apply outcome =>
      some (.applyCompleted { toApplyOutcome := outcome, generation })
  | .verification _ _ _ _ purpose generation, .verification success =>
      some (.verificationCompleted { success, purpose, generation })
  | .resetStagedApplyState generation, .resetStagedApplyState success =>
      some (.resetCompleted { success, generation })
  | .refreshRate command generation, .refreshRate success =>
      some (.refreshRateCompleted
        { success
          deviceId := command.deviceId
          numerator := command.numerator
          denominator := command.denominator
          generation
          connectionEpoch := command.connectionEpoch
          requestId := command.requestId })
  | .recovery _ generation, .recovery outcome =>
      some (.recoveryCompleted { toRecoveryOutcome := outcome, generation })
  | .recoveryValidation _ generation, .recoveryValidation success =>
      some (.recoveryValidationCompleted { success, generation })
  | _, _ => none

def Task.isRecovery : Task → Bool
  | .recovery _ _ => true
  | _ => false

/-- Completions reach the machine from the dispatcher only. -/
def Message.isExternal : Message → Bool
  | .applyCompleted _ | .verificationCompleted _ | .resetCompleted _
  | .refreshRateCompleted _ | .recoveryCompleted _ | .recoveryValidationCompleted _ => false
  | _ => true

/-- The ends of tasks that are reported, with their messages. -/
inductive Task.Completes : Task → Outcome → Message → Prop where
  | apply (request : ApplyRequest) (delay : Nat) (resetVirtualDisplay : Bool) (generation : Nat)
      (outcome : ApplyOutcome) :
      Completes (.apply request delay resetVirtualDisplay generation) (.apply outcome)
        (.applyCompleted { toApplyOutcome := outcome, generation })
  | verification (request : ApplyRequest) (topology : Option ActiveTopology)
      (target : Option ResolvedConfigurationTarget) (delay : Nat) (purpose : VerificationPurpose)
      (generation : Nat) (success : Bool) :
      Completes (.verification request topology target delay purpose generation)
        (.verification success) (.verificationCompleted { success, purpose, generation })
  | resetStagedApplyState (generation : Nat) (success : Bool) :
      Completes (.resetStagedApplyState generation) (.resetStagedApplyState success)
        (.resetCompleted { success, generation })
  | refreshRate (command : RefreshRateCommand) (generation : Nat) (success : Bool) :
      Completes (.refreshRate command generation) (.refreshRate success)
        (.refreshRateCompleted
          { success
            deviceId := command.deviceId
            numerator := command.numerator
            denominator := command.denominator
            generation
            connectionEpoch := command.connectionEpoch
            requestId := command.requestId })
  | recovery (delay generation : Nat) (outcome : RecoveryOutcome) :
      Completes (.recovery delay generation) (.recovery outcome)
        (.recoveryCompleted { toRecoveryOutcome := outcome, generation })
  | recoveryValidation (snapshot : Snapshot) (generation : Nat) (success : Bool) :
      Completes (.recoveryValidation snapshot generation) (.recoveryValidation success)
        (.recoveryValidationCompleted { success, generation })

theorem Task.completes_of_completion {task : Task} {outcome : Outcome} {message : Message}
    (posted : task.completion outcome = some message) : task.Completes outcome message := by
  cases task <;> cases outcome <;> simp [Task.completion] at posted <;> subst posted <;>
    constructor

theorem Task.completion_internal {task : Task} {outcome : Outcome} {message : Message}
    (posted : task.completion outcome = some message) : message.isExternal = false := by
  cases Task.completes_of_completion posted <;> rfl

inductive Event where
  | deliver (message : Message)
  | complete (index : Nat) (outcome : Outcome)
  | restoreAttempted
  | tick
  | beginTransientDisconnectSettlement
deriving DecidableEq, Repr

namespace World

/-- Remove a completed task from the dispatcher. -/
def removeTask (index : Nat) (world : World) : World :=
  { world with ports := { world.ports with tasks := world.ports.tasks.eraseIdx index } }

/-- A recovery worker that has started may have stored its flag. -/
def markRestoreAttempted (world : World) : World :=
  if world.ports.tasks.any Task.isRecovery then
    { world with ports := { world.ports with
        restoreState := { world.ports.restoreState with restoreAttemptedUnconfirmed := true } } }
  else world

/-- The message that the completion of an outstanding task posts. -/
def completionMessage (index : Nat) (outcome : Outcome) (world : World) : Option Message :=
  world.ports.tasks[index]?.bind (·.completion outcome)

/-- One event up to the drain of its handler. -/
def dispatchEvent (reading : Reading) (event : Event) (world : World) : Ending :=
  match event with
  | .deliver message =>
      if message.isExternal then world.advance.dispatchMessage reading message
      else .returns world
  | .complete index outcome =>
      match world.completionMessage index outcome with
      | none => .returns world
      | some message => (world.removeTask index).advance.dispatchMessage reading message
  | .restoreAttempted => .returns world.markRestoreAttempted
  | .tick => .returns (world.advance.handleTick reading)
  | .beginTransientDisconnectSettlement =>
      .returns (world.advance.beginTransientDisconnectSettlement reading).2

def step (environment : Environment) (event : Event) (world : World) : World :=
  (world.dispatchEvent (environment world.ports.moment) event).finish environment

/-- The helper as it starts up. -/
def initial : World := {}

def run (environment : Environment) (events : List Event) : World :=
  Transition.run (step environment) events initial

end World

end UmbraHost.DisplayHelper
