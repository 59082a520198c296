import UmbraHost.Transition.Run

/-! # The handoff from a worker

`worker_handoff_t` (`amf_lifecycle.h`) between one `publish` and one `accept_until`.  Every
section under the mutex is one step.  Both waits release the mutex and may end at any time.
The wait of `accept_until` polls; that of `publish` is sure to end once it is notified. -/

namespace UmbraHost.Amf.WorkerHandoff

open UmbraHost.Transition

variable {Value : Type u}

/-- An optional keeps a moved-from object until it is reset. -/
inductive Slot (Value : Type u) where
  | empty
  | holding (value : Value)
  | movedFrom
deriving DecidableEq, Repr

inductive Side where
  | publishing
  | accepting
deriving DecidableEq, Repr

inductive Publisher (Value : Type u) where
  | ready (value : Value)
  | waiting (notified : Bool)
  | returned (accepted : Bool)
deriving DecidableEq, Repr

inductive Acceptor (Value : Type u) where
  | ready
  | waiting
  | returned (result : Option Value)
deriving DecidableEq, Repr

structure State (Value : Type u) where
  candidate : Slot Value := .empty
  ready : Bool := false
  accepted : Bool := false
  abandoned : Bool := false
  publisher : Publisher Value
  acceptor : Acceptor Value := .ready
  wasCancelled : Bool := false
  destroyed : List (Side × Value) := []
deriving DecidableEq, Repr

def State.initial (value : Value) : State Value := { publisher := .ready value }

inductive Event where
  | publisherRuns
  | acceptorRuns (cancelled expired : Bool)
deriving DecidableEq, Repr

namespace State

def notifyAll (state : State Value) : State Value :=
  { state with
    publisher := match state.publisher with
      | .waiting _ => .waiting true
      | publisher => publisher }

/-- `candidate.reset()`. -/
def resetCandidate (side : Side) (state : State Value) : State Value :=
  match state.candidate with
  | .holding value =>
    { state with candidate := .empty, destroyed := state.destroyed ++ [(side, value)] }
  | _ => { state with candidate := .empty }

/-- The end of `publish` once its wait has ended. -/
def endPublish (state : State Value) : State Value :=
  if state.abandoned then { state.resetCandidate .publishing with publisher := .returned false }
  else { state with publisher := .returned state.accepted }

/-- `publish` up to its wait and after it. -/
def publish (state : State Value) : State Value :=
  match state.publisher with
  | .ready value =>
    if state.abandoned then
      -- the argument goes with the call
      { state with
        publisher := .returned false
        destroyed := state.destroyed ++ [(.publishing, value)] }
    else
      let offered := { state with candidate := .holding value, ready := true }.notifyAll
      if offered.accepted || offered.abandoned then offered.endPublish
      else { offered with publisher := .waiting false }
  | .waiting _ =>
    if state.accepted || state.abandoned then state.endPublish
    else { state with publisher := .waiting false }
  | .returned _ => state

def abandon (wasCancelled : Bool) (state : State Value) : State Value :=
  { { state with abandoned := true }.notifyAll with acceptor := .returned none, wasCancelled }

def take (state : State Value) : State Value :=
  match state.candidate with
  | .holding value =>
    let moved := { state with candidate := .movedFrom }.resetCandidate .accepting
    { { moved with accepted := true }.notifyAll with acceptor := .returned (some value) }
  | _ =>
    let moved := state.resetCandidate .accepting
    { { moved with accepted := true }.notifyAll with acceptor := .returned none }

/-- `accept_until` from its loop condition on. -/
def accept (cancelled expired : Bool) (state : State Value) : State Value :=
  match state.acceptor with
  | .returned _ => state
  | _ =>
    if !state.ready && !state.abandoned then
      if cancelled then state.abandon true
      else if expired then state.abandon false
      else { state with acceptor := .waiting }
    else if !state.ready || state.abandoned then { state with acceptor := .returned none }
    else state.take

def step : Event → State Value → State Value
  | .publisherRuns, state => state.publish
  | .acceptorRuns cancelled expired, state => state.accept cancelled expired

end State

/-! ## The stages of a handoff -/

variable {value : Value} {state : State Value}

/-- The acceptor has not returned. -/
def Acceptor.pending : Acceptor Value → Bool
  | .returned _ => false
  | _ => true

/-- Every state that can be reached, with the value in one place in each of them. -/
inductive Stage (value : Value) : State Value → Prop where
  | before (acceptor : Acceptor Value) (pending : acceptor.pending = true) :
      Stage value { publisher := .ready value, acceptor }
  | offered (notified : Bool) (acceptor : Acceptor Value) (pending : acceptor.pending = true) :
      Stage value {
        candidate := .holding value, ready := true, publisher := .waiting notified, acceptor }
  | taken : Stage value {
      ready := true, accepted := true, publisher := .waiting true
      acceptor := .returned (some value) }
  | handedOver : Stage value {
      ready := true, accepted := true, publisher := .returned true
      acceptor := .returned (some value) }
  | abandoned (wasCancelled : Bool) : Stage value {
      abandoned := true, publisher := .ready value, acceptor := .returned none, wasCancelled }
  | dropped (wasCancelled : Bool) : Stage value {
      abandoned := true, publisher := .returned false, acceptor := .returned none, wasCancelled
      destroyed := [(.publishing, value)] }

theorem Stage.step (stage : Stage value state) (event : Event) :
    Stage value (state.step event) := by
  cases event with
  | publisherRuns =>
      cases stage with
      | before acceptor pending => exact .offered false acceptor pending
      | offered notified acceptor pending => exact .offered false acceptor pending
      | taken => exact .handedOver
      | handedOver => exact .handedOver
      | abandoned wasCancelled => exact .dropped wasCancelled
      | dropped wasCancelled => exact .dropped wasCancelled
  | acceptorRuns cancelled expired =>
      cases stage with
      | before acceptor pending =>
          cases acceptor with
          | ready =>
              cases cancelled <;> cases expired
              · exact .before .waiting rfl
              all_goals exact .abandoned _
          | waiting =>
              cases cancelled <;> cases expired
              · exact .before .waiting rfl
              all_goals exact .abandoned _
          | returned result => exact absurd pending Bool.false_ne_true
      | offered notified acceptor pending =>
          cases acceptor with
          | ready => exact .taken
          | waiting => exact .taken
          | returned result => exact absurd pending Bool.false_ne_true
      | taken => exact .taken
      | handedOver => exact .handedOver
      | abandoned wasCancelled => exact .abandoned wasCancelled
      | dropped wasCancelled => exact .dropped wasCancelled

theorem run_stage (value : Value) (events : List Event) :
    Stage value (run State.step events (.initial value)) :=
  run_preserves State.step (Stage value) (fun event _ stage => stage.step event) events
    (.before .ready rfl)

/-! ## The outcome -/

/-- The value has gone to the caller of `accept_until`. -/
def Transferred (value : Value) (state : State Value) : Prop :=
  state.acceptor = .returned (some value) ∧ state.publisher = .returned true ∧
    state.destroyed = []

/-- The value has been destroyed by `publish`. -/
def Reaped (value : Value) (state : State Value) : Prop :=
  state.acceptor = .returned none ∧ state.publisher = .returned false ∧
    state.destroyed = [(.publishing, value)]

theorem Transferred.not_reaped (transferred : Transferred value state) : ¬ Reaped value state := by
  intro reaped
  exact absurd (transferred.1.symm.trans reaped.1) (by simp)

theorem Stage.outcome (stage : Stage value state) {result : Option Value} {accepted : Bool}
    (acceptor : state.acceptor = .returned result) (publisher : state.publisher = .returned accepted) :
    Transferred value state ∨ Reaped value state := by
  cases stage with
  | before | offered | taken | abandoned => contradiction
  | handedOver => exact .inl ⟨rfl, rfl, rfl⟩
  | dropped => exact .inr ⟨rfl, rfl, rfl⟩

/-- What holds at every moment of a handoff. -/
structure Exclusive (value : Value) (state : State Value) : Prop where
  outcome : ∀ result accepted, state.acceptor = .returned result →
    state.publisher = .returned accepted → Xor (Transferred value state) (Reaped value state)
  returned : ∀ result, state.acceptor = .returned (some result) →
    result = value ∧ state.abandoned = false ∧ state.destroyed = []
  kept : ∀ destroyed, (.accepting, destroyed) ∉ state.destroyed
  granted : state.publisher = .returned true → state.acceptor = .returned (some value)
  refused : state.publisher = .returned false →
    state.acceptor = .returned none ∧ state.destroyed = [(.publishing, value)]
  awakened : ∀ result notified, state.acceptor = .returned result →
    state.publisher = .waiting notified →
      notified = true ∧ ∃ accepted, (state.step .publisherRuns).publisher = .returned accepted

theorem Stage.exclusive (stage : Stage value state) : Exclusive value state where
  outcome := by
    intro result accepted acceptor publisher
    rcases stage.outcome acceptor publisher with transferred | reaped
    · exact .inl ⟨transferred, transferred.not_reaped⟩
    · exact .inr ⟨reaped, fun transferred => transferred.not_reaped reaped⟩
  returned := by
    intro result acceptor
    cases stage with
    | before held pending => simp [show held = _ from acceptor, Acceptor.pending] at pending
    | offered notified held pending =>
        simp [show held = _ from acceptor, Acceptor.pending] at pending
    | taken | handedOver => exact ⟨by simpa using acceptor.symm, rfl, rfl⟩
    | abandoned | dropped => simp at acceptor
  kept := by
    intro destroyed
    cases stage <;> simp
  granted := by
    intro publisher
    cases stage with
    | handedOver => rfl
    | before | offered | taken | abandoned | dropped => simp at publisher
  refused := by
    intro publisher
    cases stage with
    | dropped => exact ⟨rfl, rfl⟩
    | before | offered | taken | abandoned | handedOver => simp at publisher
  awakened := by
    intro result notified acceptor publisher
    cases stage with
    | taken => exact ⟨by simpa using publisher.symm, true, rfl⟩
    | offered notified held pending =>
        simp [show held = _ from acceptor, Acceptor.pending] at pending
    | before | abandoned | handedOver | dropped => simp at publisher

/-! ## Both calls return -/

/-- `publish` can go on: it starts, or it has been notified. -/
def Publisher.enabled : Publisher Value → Bool
  | .ready _ => true
  | .waiting notified => notified
  | .returned _ => false

/-- Neither thread is left aside for ever once it can go on. -/
structure Fair (value : Value) (schedule : Nat → Event) : Prop where
  publisher : WeaklyFair State.step schedule (.initial value)
    (fun state => state.publisher.enabled = true) (fun event => event = .publisherRuns)
  acceptor : WeaklyFair State.step schedule (.initial value)
    (fun state => state.acceptor.pending = true)
    (fun event => ∃ cancelled expired, event = .acceptorRuns cancelled expired)

/-- The value has been offered, or dropped because it came too late. -/
def Published (value : Value) (state : State Value) : Prop :=
  Stage value state ∧ state.publisher ≠ .ready value

theorem Published.step (published : Published value state) (event : Event) :
    Published value (state.step event) := by
  obtain ⟨stage, begun⟩ := published
  refine ⟨stage.step event, ?_⟩
  cases stage with
  | before | abandoned => exact absurd rfl begun
  | offered notified acceptor pending =>
      cases event with
      | publisherRuns => simp [State.step, State.publish]
      | acceptorRuns cancelled expired =>
          cases acceptor with
          | ready | waiting => simp [State.step, State.accept, State.take, State.resetCandidate,
              State.notifyAll]
          | returned result => exact absurd pending Bool.false_ne_true
  | taken | handedOver | dropped => cases event <;> simp [State.step, State.publish,
      State.endPublish, State.accept]

/-- `accept_until` has returned the value, and `publish` has been notified. -/
def State.takenOver (value : Value) : State Value :=
  { ready := true, accepted := true, publisher := .waiting true
    acceptor := .returned (some value) }

theorem Published.answered (published : Published value state)
    (answered : state.acceptor.pending = false) :
    state = .takenOver value ∨ Transferred value state ∨ Reaped value state := by
  obtain ⟨stage, begun⟩ := published
  cases stage with
  | before acceptor pending => exact absurd rfl begun
  | offered notified acceptor pending => exact absurd (pending.symm.trans answered) (by decide)
  | taken => exact .inl rfl
  | handedOver => exact .inr (.inl ⟨rfl, rfl, rfl⟩)
  | abandoned => exact absurd rfl begun
  | dropped => exact .inr (.inr ⟨rfl, rfl, rfl⟩)

variable {schedule : Nat → Event}

theorem Fair.publishes (fair : Fair value schedule) :
    ∃ time, Published value (execution State.step schedule (.initial value) time) := by
  let before (state : State Value) : Prop := Stage value state ∧ state.publisher = .ready value
  have waits : ∀ event state, before state →
      before (state.step event) ∨ Published value (state.step event) := by
    rintro event state ⟨stage, -⟩
    by_cases still : (state.step event).publisher = .ready value
    · exact .inl ⟨stage.step event, still⟩
    · exact .inr ⟨stage.step event, still⟩
  have ready : ∀ state, before state → state.publisher.enabled = true := by
    rintro state ⟨-, still⟩
    rw [still]
    rfl
  have moves : ∀ event state, event = .publisherRuns → before state →
      Published value (state.step event) := by
    rintro event state rfl ⟨stage, still⟩
    refine ⟨stage.step _, ?_⟩
    cases stage with
    | before | abandoned => simp [State.step, State.publish, State.notifyAll]
    | offered | taken | handedOver | dropped => simp at still
  have initially : before (execution State.step schedule (.initial value) 0) :=
    ⟨.before .ready rfl, rfl⟩
  obtain ⟨time, -, published⟩ := fair.publisher.leads before _ waits ready moves initially
  exact ⟨time, published⟩

theorem Fair.accepts (fair : Fair value schedule) :
    ∃ time, Published value (execution State.step schedule (.initial value) time) ∧
      (execution State.step schedule (.initial value) time).acceptor.pending = false := by
  let before (state : State Value) : Prop := Published value state ∧ state.acceptor.pending = true
  let goal (state : State Value) : Prop := Published value state ∧ state.acceptor.pending = false
  have waits : ∀ event state, before state → before (state.step event) ∨ goal (state.step event) := by
    rintro event state ⟨published, -⟩
    cases still : (state.step event).acceptor.pending with
    | true => exact .inl ⟨published.step event, still⟩
    | false => exact .inr ⟨published.step event, still⟩
  have moves : ∀ event state, (∃ cancelled expired, event = .acceptorRuns cancelled expired) →
      before state → goal (state.step event) := by
    rintro _ state ⟨cancelled, expired, rfl⟩ ⟨published, pending⟩
    refine ⟨published.step _, ?_⟩
    obtain ⟨stage, begun⟩ := published
    cases stage with
    | before => exact absurd rfl begun
    | offered notified acceptor =>
        cases acceptor with
        | ready | waiting => rfl
        | returned result => exact absurd pending Bool.false_ne_true
    | taken | handedOver | abandoned | dropped => exact absurd pending Bool.false_ne_true
  obtain ⟨start, published⟩ := fair.publishes
  cases pending :
      (execution State.step schedule (.initial value) start).acceptor.pending with
  | false => exact ⟨start, published, pending⟩
  | true =>
      obtain ⟨time, -, reached⟩ :=
        fair.acceptor.leads before goal waits (fun _ still => still.2) moves ⟨published, pending⟩
      exact ⟨time, reached⟩

theorem Fair.settles (fair : Fair value schedule) :
    ∃ time, Transferred value (execution State.step schedule (.initial value) time) ∨
      Reaped value (execution State.step schedule (.initial value) time) := by
  let settled (state : State Value) : Prop := Transferred value state ∨ Reaped value state
  have waits : ∀ event state, state = State.takenOver value →
      state.step event = .takenOver value ∨ settled (state.step event) := by
    rintro event state rfl
    cases event with
    | publisherRuns => exact .inr (.inl ⟨rfl, rfl, rfl⟩)
    | acceptorRuns cancelled expired => exact .inl rfl
  have ready : ∀ state, state = State.takenOver value → state.publisher.enabled = true := by
    rintro state rfl
    rfl
  have moves : ∀ event state, event = .publisherRuns → state = State.takenOver value →
      settled (state.step event) := by
    rintro event state rfl rfl
    exact .inl ⟨rfl, rfl, rfl⟩
  obtain ⟨start, published, answered⟩ := fair.accepts
  rcases published.answered answered with taken | done
  · obtain ⟨time, -, done⟩ := fair.publisher.leads _ settled waits ready moves taken
    exact ⟨time, done⟩
  · exact ⟨start, done⟩

theorem handoff_exclusive (value : Value) (schedule : Nat → Event) :
    (∀ time, Exclusive value (execution State.step schedule (.initial value) time)) ∧
      (Fair value schedule →
        ∃ time, Transferred value (execution State.step schedule (.initial value) time) ∨
          Reaped value (execution State.step schedule (.initial value) time)) := by
  refine ⟨?_, Fair.settles⟩
  intro time
  rw [execution_eq_run]
  exact (run_stage value _).exclusive

/-- The threads take turns; nothing is cancelled and no deadline passes. -/
def takingTurns (time : Nat) : Event :=
  if time % 2 = 0 then .publisherRuns else .acceptorRuns false false

theorem fair_takingTurns (value : Value) : Fair value takingTurns where
  publisher := by
    intro start _
    refine ⟨2 * start, by omega, ?_⟩
    exact if_pos (by omega)
  acceptor := by
    intro start _
    refine ⟨2 * start + 1, by omega, false, false, ?_⟩
    exact if_neg (by omega)

theorem handoff_takingTurns :
    ∃ time, Transferred 'v' (execution State.step takingTurns (.initial 'v') time) ∨
      Reaped 'v' (execution State.step takingTurns (.initial 'v') time) :=
  (handoff_exclusive 'v' takingTurns).2 (fair_takingTurns 'v')

end UmbraHost.Amf.WorkerHandoff
