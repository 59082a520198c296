import UmbraHost.Transition.Run

/-! # Stop requests during the start of a session

`session::start` and the calls that stop a session (`stream.cpp`), interleaved at every
access to the shared state.  The session is visible to other threads from its publication in
`control_server._sessions` on; its state is `STOPPED` until the last store of `start`. -/

namespace UmbraHost.Stream.StartStop

open UmbraHost.Transition

inductive SessionState where
  | stopped
  | stopping
  | starting
  | running
deriving DecidableEq, Repr

structure Session where
  state : SessionState := .stopped
  shutdownEvent : Bool := false
  controlEnd : Bool := false
deriving DecidableEq, Repr

/-- The next step of `session::alloc` and `session::start`. -/
inductive StartPoint where
  | storeStopped
  | reference
  | publish
  | setPeers
  | launchAudio
  | launchVideo
  | storeRunning
  | finish
  | returned
deriving DecidableEq, Repr

namespace StartPoint

def next : StartPoint → StartPoint
  | storeStopped => reference
  | reference => publish
  | publish => setPeers
  | setPeers => launchAudio
  | launchAudio => launchVideo
  | launchVideo => storeRunning
  | storeRunning => finish
  | finish | returned => returned

/-- The session stands in `control_server._sessions`. -/
def published : StartPoint → Bool
  | storeStopped | reference | publish => false
  | _ => true

/-- The last store of `start` is done. -/
def stored : StartPoint → Bool
  | finish | returned => true
  | _ => false

end StartPoint

inductive StopCall where
  | stop
  | gracefulStop
  | disconnect
deriving DecidableEq, Repr

/-- Where a thread that stops the session stands. -/
inductive Stopper where
  | idle
  | checkRunning
  | whileStarting (graceful : Bool)
  | compareExchange (graceful : Bool)
  | raiseShutdown (graceful : Bool)
  | raiseControlEnd
  | returned
deriving DecidableEq, Repr

def StopCall.entry : StopCall → Stopper
  | .stop => .whileStarting false
  | .gracefulStop => .whileStarting true
  | .disconnect => .checkRunning

def Session.startStep (point : StartPoint) (session : Session) : Session :=
  match point with
  | .storeStopped => { session with state := .stopped }
  | .storeRunning => { session with state := .running }
  | _ => session

/-- One access of a stopping thread.  A graceful one also sends the termination message
before it raises the events. -/
def Session.stopStep : Stopper → Session → Session × Stopper
  | .checkRunning, session =>
    (session, if session.state = .running then .whileStarting false else .returned)
  | .whileStarting graceful, session =>
    (session, if session.state = .starting then .whileStarting graceful
      else .compareExchange graceful)
  | .compareExchange graceful, session =>
    if session.state = .running then ({ session with state := .stopping }, .raiseShutdown graceful)
    else (session, .returned)
  | .raiseShutdown graceful, session =>
    ({ session with shutdownEvent := true }, if graceful then .raiseControlEnd else .returned)
  | .raiseControlEnd, session => ({ session with controlEnd := true }, .returned)
  | .idle, session => (session, .idle)
  | .returned, session => (session, .returned)

variable {Caller : Type u} [DecidableEq Caller]

structure State (Caller : Type u) where
  point : StartPoint := .storeStopped
  session : Session := {}
  stopper : Caller → Stopper := fun _ => .idle

inductive Event (Caller : Type u) where
  | start
  | request (caller : Caller) (call : StopCall)
  | run (caller : Caller)
deriving DecidableEq, Repr

def step : Event Caller → State Caller → State Caller
  | .start, state =>
    { state with point := state.point.next, session := state.session.startStep state.point }
  | .request caller call, state =>
    if state.point.published && state.stopper caller = .idle then
      { state with stopper := Function.update state.stopper caller call.entry }
    else state
  | .run caller, state =>
    let (session, stopper) := state.session.stopStep (state.stopper caller)
    { state with session, stopper := Function.update state.stopper caller stopper }

/-- Once `start` and every stop call have returned, a requested stop has been carried out. -/
def StopKept (events : List (Event Caller)) : Prop :=
  let state := run step events {}
  state.point = .returned → (∃ caller, state.stopper caller ≠ .idle) →
    (∀ caller, state.stopper caller = .idle ∨ state.stopper caller = .returned) →
    state.session.state = .stopping ∧ state.session.shutdownEvent = true

/-- A stopping thread compares the state after the last store of `start`. -/
def ComparesStored : Event Caller → State Caller → Prop
  | .run caller, state =>
    (∃ graceful, state.stopper caller = .compareExchange graceful) ∧ state.point.stored = true
  | _, _ => False

/-! ## What the state says of the stop calls -/

/-- The thread has taken the session out of `RUNNING` and not yet raised its event. -/
def Stopper.carrying : Stopper → Bool
  | .raiseShutdown _ => true
  | _ => false

inductive Phase (past : List (Event Caller)) (state : State Caller) : Prop where
  | starting (early : state.point.stored = false) (stopped : state.session.state = .stopped)
      (quiet : ∀ caller, (state.stopper caller).carrying = false)
      (none : ¬ Occurs step ComparesStored past {})
  | running (late : state.point.stored = true) (running : state.session.state = .running)
      (quiet : ∀ caller, (state.stopper caller).carrying = false)
      (none : ¬ Occurs step ComparesStored past {})
  | stopping (late : state.point.stored = true) (stopping : state.session.state = .stopping)
      (carried : state.session.shutdownEvent = true ∨
        ∃ caller, (state.stopper caller).carrying = true)
      (compared : Occurs step ComparesStored past {})

variable {past : List (Event Caller)} {state : State Caller} {caller : Caller} {moved : Stopper}

theorem quiet_update (quiet : ∀ caller, (state.stopper caller).carrying = false)
    (idle : moved.carrying = false) :
    ∀ other, (Function.update state.stopper caller moved other).carrying = false := by
  intro other
  by_cases same : other = caller
  · rw [same, Function.update_self, idle]
  · rw [Function.update_of_ne same, quiet other]

theorem carrying_update (carried : ∃ other, (state.stopper other).carrying = true)
    (idle : (state.stopper caller).carrying = false) :
    ∃ other, (Function.update state.stopper caller moved other).carrying = true := by
  obtain ⟨other, carrying⟩ := carried
  have distinct : other ≠ caller := by
    rintro rfl
    exact Bool.false_ne_true (idle.symm.trans carrying)
  exact ⟨other, by rw [Function.update_of_ne distinct, carrying]⟩

/-- An event that is no comparison and leaves the state of the session alone. -/
theorem Phase.frame {event : Event Caller} {after : State Caller} (phase : Phase past state)
    (reached : run step past {} = state) (other : ¬ ComparesStored event state)
    (point : after.point.stored = state.point.stored)
    (kept : after.session.state = state.session.state)
    (quiet : (∀ caller, (state.stopper caller).carrying = false) →
      ∀ caller, (after.stopper caller).carrying = false)
    (carried : (state.session.shutdownEvent = true ∨
        ∃ caller, (state.stopper caller).carrying = true) →
      after.session.shutdownEvent = true ∨ ∃ caller, (after.stopper caller).carrying = true) :
    Phase (past ++ [event]) after := by
  have occurs : Occurs step ComparesStored (past ++ [event]) {} ↔
      Occurs step ComparesStored past {} := by
    rw [occurs_concat, reached]
    exact or_iff_left other
  cases phase with
  | starting early stopped calm none =>
      exact .starting (point.trans early) (kept.trans stopped) (quiet calm) (by rwa [occurs])
  | running late running calm none =>
      exact .running (point.trans late) (kept.trans running) (quiet calm) (by rwa [occurs])
  | stopping late stopping carries compared =>
      exact .stopping (point.trans late) (kept.trans stopping) (carried carries)
        (occurs.mpr compared)

theorem Session.startStep_of_stored {point : StartPoint} (stored : point.stored = true)
    (session : Session) : session.startStep point = session := by
  cases point <;> first | rfl | contradiction

theorem StartPoint.next_stored {point : StartPoint} (other : point ≠ .storeRunning) :
    point.next.stored = point.stored := by
  cases point <;> first | rfl | contradiction

theorem Session.startStep_of_stopped {point : StartPoint} (other : point ≠ .storeRunning)
    {session : Session} (stopped : session.state = .stopped) :
    session.startStep point = session := by
  obtain ⟨_, shutdownEvent, controlEnd⟩ := session
  obtain rfl : _ = SessionState.stopped := stopped
  cases point <;> first | rfl | contradiction

theorem Phase.start (phase : Phase past state) (reached : run step past {} = state) :
    Phase (past ++ [.start]) (step .start state) := by
  by_cases last : state.point = .storeRunning
  · cases phase with
    | starting early stopped quiet none =>
        apply Phase.running
        · simp [step, last, StartPoint.next, StartPoint.stored]
        · simp [step, last, Session.startStep]
        · exact quiet
        · rw [occurs_concat]
          exact not_or.mpr ⟨none, id⟩
    | running late | stopping late => simp [last, StartPoint.stored] at late
  · have same : state.session.startStep state.point = state.session := by
      cases phase with
      | starting early stopped => exact Session.startStep_of_stopped last stopped
      | running late | stopping late => exact Session.startStep_of_stored late _
    have kept : (step .start state).session = state.session := same
    exact phase.frame reached id (StartPoint.next_stored last) (by rw [kept]) id (by rw [kept]; exact id)

theorem Phase.request (phase : Phase past state) (reached : run step past {} = state)
    (caller : Caller) (call : StopCall) :
    Phase (past ++ [.request caller call]) (step (.request caller call) state) := by
  simp only [step]
  split
  next enabled =>
    have idle : state.stopper caller = .idle := by
      simp only [Bool.and_eq_true, decide_eq_true_eq] at enabled
      exact enabled.2
    apply phase.frame reached
    · exact id
    · rfl
    · rfl
    · intro quiet
      apply quiet_update quiet
      cases call <;> rfl
    · apply Or.imp_right
      intro carried
      apply carrying_update carried
      rw [idle]
      rfl
  next => exact phase.frame reached id rfl rfl id id

theorem step_run {session : Session}
    (moves : state.session.stopStep (state.stopper caller) = (session, moved)) :
    step (.run caller) state =
      { state with session, stopper := Function.update state.stopper caller moved } := by
  simp only [step, moves]

/-- A thread that neither compares the state nor raises the shutdown event moves on alone. -/
theorem Phase.move (phase : Phase past state) (reached : run step past {} = state)
    (other : ∀ graceful, state.stopper caller ≠ .compareExchange graceful) {session : Session}
    (moves : state.session.stopStep (state.stopper caller) = (session, moved))
    (kept : session.state = state.session.state)
    (raised : session.shutdownEvent = state.session.shutdownEvent)
    (before : (state.stopper caller).carrying = false) (after : moved.carrying = false) :
    Phase (past ++ [.run caller]) (step (.run caller) state) := by
  rw [step_run moves]
  apply phase.frame reached
  · rintro ⟨⟨graceful, compares⟩, -⟩
    exact other graceful compares
  · rfl
  · exact kept
  · exact fun quiet => quiet_update quiet after
  · exact Or.imp raised.trans fun carried => carrying_update carried before

theorem Phase.compare (phase : Phase past state) (reached : run step past {} = state)
    {graceful : Bool} (compares : state.stopper caller = .compareExchange graceful) :
    Phase (past ++ [.run caller]) (step (.run caller) state) := by
  have idle : (state.stopper caller).carrying = false := by
    rw [compares]
    rfl
  have fails : state.session.state ≠ .running →
      step (.run caller) state =
        { state with stopper := Function.update state.stopper caller .returned } := by
    intro different
    apply step_run
    rw [compares, Session.stopStep, if_neg different]
  have compared (late : state.point.stored = true) :
      Occurs step ComparesStored (past ++ [.run caller]) {} := by
    rw [occurs_concat, reached]
    exact .inr ⟨⟨graceful, compares⟩, late⟩
  cases phase with
  | starting early stopped quiet none =>
      rw [fails (by rw [stopped]; decide)]
      refine Phase.starting early stopped (quiet_update quiet rfl) ?_
      rw [occurs_concat, reached]
      rintro (occurred | ⟨-, late⟩)
      · exact none occurred
      · exact Bool.false_ne_true (early.symm.trans late)
  | running late running quiet none =>
      have moves : state.session.stopStep (state.stopper caller) =
          ({ state.session with state := .stopping }, .raiseShutdown graceful) := by
        rw [compares, Session.stopStep, if_pos running]
      rw [step_run moves]
      refine Phase.stopping late rfl (.inr ⟨caller, ?_⟩) (compared late)
      simp [Stopper.carrying]
  | stopping late stopping carried _ =>
      rw [fails (by rw [stopping]; decide)]
      exact .stopping late stopping (carried.imp_right fun carried => carrying_update carried idle)
        (compared late)

/-- Raising the event ends what the thread carries. -/
theorem Phase.raise (phase : Phase past state) (reached : run step past {} = state)
    {graceful : Bool} (raises : state.stopper caller = .raiseShutdown graceful) :
    Phase (past ++ [.run caller]) (step (.run caller) state) := by
  have moves : state.session.stopStep (state.stopper caller) =
      ({ state.session with shutdownEvent := true },
        if graceful then .raiseControlEnd else .returned) := by
    rw [raises, Session.stopStep]
  rw [step_run moves]
  apply phase.frame reached
  · rintro ⟨⟨_, compares⟩, -⟩
    simp [raises] at compares
  · rfl
  · rfl
  · intro quiet
    have calm := quiet caller
    rw [raises] at calm
    exact absurd calm (by simp [Stopper.carrying])
  · exact fun _ => .inl rfl

theorem Phase.run (phase : Phase past state) (reached : run step past {} = state)
    (caller : Caller) : Phase (past ++ [.run caller]) (step (.run caller) state) := by
  cases stopper : state.stopper caller with
  | compareExchange graceful => exact phase.compare reached stopper
  | raiseShutdown graceful => exact phase.raise reached stopper
  | idle | checkRunning | whileStarting | raiseControlEnd | returned =>
      apply phase.move reached
      · simp [stopper]
      · rw [stopper, Session.stopStep]
      · rfl
      · rfl
      · rw [stopper]
        rfl
      · first | rfl | (split <;> rfl)

theorem run_phase (events : List (Event Caller)) : Phase events (Transition.run step events {}) := by
  induction events using List.reverseRecOn with
  | nil => exact .starting rfl rfl (fun _ => rfl) id
  | append_singleton past event ih =>
      rw [run_append]
      cases event with
      | start => exact ih.start rfl
      | request caller call => exact ih.request rfl caller call
      | run caller => exact ih.run rfl caller

/-! ## When a stop is kept -/

theorem stopKept_iff (events : List (Event Caller)) :
    StopKept events ↔
      ((run step events {}).point = .returned →
        (∃ caller, (run step events {}).stopper caller ≠ .idle) →
        (∀ caller, (run step events {}).stopper caller = .idle ∨
          (run step events {}).stopper caller = .returned) →
        Occurs step ComparesStored events {}) := by
  have phase := run_phase events
  apply forall_congr'
  intro returned
  apply forall_congr'
  intro requested
  apply forall_congr'
  intro settled
  have quiet : ¬ ∃ caller, ((run step events {}).stopper caller).carrying = true := by
    rintro ⟨caller, carries⟩
    rcases settled caller with idle | returned <;> simp_all [Stopper.carrying]
  cases phase with
  | starting early => simp [returned, StartPoint.stored] at early
  | running late running _ none => simp [running, none]
  | stopping late stopping carried compared =>
      exact ⟨fun _ => compared, fun _ => ⟨stopping, carried.resolve_right quiet⟩⟩

/-- The video thread gives up before `start` stores `RUNNING`. -/
theorem earlyStop_lost : ¬ StopKept
    [.start, .start, .start, .start, .start, .start, .request () .stop, .run (), .run (), .start,
      .start] := by
  intro kept
  have stopped := kept rfl ⟨(), by decide⟩ (fun _ => .inr rfl)
  exact absurd stopped.1 (by decide)

end UmbraHost.Stream.StartStop
