import UmbraHost.Broadcast.ControlThread
import UmbraHost.Transition.Run

/-! # Which sessions the control thread lets go

A session that was added to `_sessions` stays there until a scan erases it and raises its
`controlEnd`; the pass after the loop raises it for those that are left.  Nothing raises
it for a session that is added after that pass. -/

namespace UmbraHost.Broadcast

open UmbraHost.Transition

namespace Session

variable {session : Session}

theorem stop_of_ne (notRunning : session.state ≠ .running) : session.stop = session := by
  simp [stop, notRunning]

theorem gracefulStop_of_ne (notRunning : session.state ≠ .running) :
    session.gracefulStop = session := by
  simp [gracefulStop, notRunning]

@[simp] theorem stop_phase : session.stop.phase = session.phase := by
  unfold stop
  split <;> rfl

@[simp] theorem stop_controlEnd : session.stop.controlEnd = session.controlEnd := by
  unfold stop
  split <;> rfl

@[simp] theorem gracefulStop_phase : session.gracefulStop.phase = session.phase := by
  unfold gracefulStop
  split <;> rfl

theorem gracefulStop_controlEnd (ended : session.controlEnd = true) :
    session.gracefulStop.controlEnd = true := by
  unfold gracefulStop
  split
  · rfl
  · exact ended

end Session

theorem look_phase (now : Nat) (graceOver : Bool) (session : Session) :
    (look now graceOver session).1.phase = session.phase := by
  unfold look
  by_cases expired : session.pingTimeout < now <;> simp only [expired, if_true, if_false] <;>
    split_ifs <;> simp

theorem look_controlEnd (now : Nat) (graceOver : Bool) {session : Session}
    (ended : session.controlEnd = true) : (look now graceOver session).1.controlEnd = true := by
  unfold look
  by_cases expired : session.pingTimeout < now <;> simp only [expired, if_true, if_false] <;>
    split_ifs <;> simp [ended]

/-- Whatever the scan erases can be joined. -/
theorem look_erased {now : Nat} {graceOver : Bool} {session : Session}
    (erased : (look now graceOver session).2 = .erased) :
    (look now graceOver session).1.controlEnd = true := by
  revert erased
  unfold look
  by_cases expired : session.pingTimeout < now <;> simp only [expired, if_true, if_false] <;>
    split_ifs <;> simp

variable {Id : Type} [DecidableEq Id] {now : Nat} {graceOver : Bool}

theorem scanSessions_subset (list : List Id) (session : Id → Session) :
    (scanSessions now graceOver list session).1 ⊆ list := by
  induction list generalizing session with
  | nil => exact List.Subset.refl []
  | cons id rest ih =>
      simp only [scanSessions]
      split
      · exact List.subset_cons_of_subset id (ih _)
      · exact List.cons_subset_cons id (ih _)

theorem scanSessions_frame {list : List Id} {session : Id → Session} {other : Id}
    (absent : other ∉ list) :
    (scanSessions now graceOver list session).2.1 other = session other := by
  induction list generalizing session with
  | nil => rfl
  | cons id rest ih =>
      have different : other ≠ id := fun same => absent (same ▸ List.mem_cons_self)
      have later : other ∉ rest := fun member => absent (List.mem_cons_of_mem id member)
      simp only [scanSessions]
      rw [ih later, Function.update_of_ne different]

theorem scanSessions_phase (list : List Id) (session : Id → Session) (other : Id) :
    ((scanSessions now graceOver list session).2.1 other).phase = (session other).phase := by
  induction list generalizing session with
  | nil => rfl
  | cons id rest ih =>
      simp only [scanSessions]
      rw [ih]
      by_cases same : other = id
      · subst same
        rw [Function.update_self, look_phase]
      · rw [Function.update_of_ne same]

theorem scanSessions_controlEnd (list : List Id) {session : Id → Session} {other : Id}
    (ended : (session other).controlEnd = true) :
    ((scanSessions now graceOver list session).2.1 other).controlEnd = true := by
  induction list generalizing session with
  | nil => exact ended
  | cons id rest ih =>
      simp only [scanSessions]
      apply ih
      by_cases same : other = id
      · subst same
        rw [Function.update_self]
        exact look_controlEnd now graceOver ended
      · rw [Function.update_of_ne same]
        exact ended

/-- A session that the scan meets is kept, or its `controlEnd` is raised. -/
theorem scanSessions_kept_or_ended {list : List Id} {other : Id} (member : other ∈ list)
    (session : Id → Session) :
    other ∈ (scanSessions now graceOver list session).1 ∨
      ((scanSessions now graceOver list session).2.1 other).controlEnd = true := by
  induction list generalizing session with
  | nil => simp at member
  | cons id rest ih =>
      simp only [scanSessions]
      by_cases later : other ∈ rest
      · have met := ih later (Function.update session id (look now graceOver (session id)).1)
        rcases met with kept | ended
        · left
          split
          · exact kept
          · exact List.mem_cons_of_mem id kept
        · exact .inr ended
      · obtain rfl : other = id := (List.mem_cons.mp member).resolve_right later
        split
        case isTrue erased =>
          right
          apply scanSessions_controlEnd
          rw [Function.update_self]
          exact look_erased erased
        case isFalse => exact .inl List.mem_cons_self

namespace State

/-- In every state. -/
structure Tracked (state : State Id) : Prop where
  ended : ∀ id, (state.session id).wasPushed = true → id ∉ state.sessions →
    (state.session id).controlEnd = true
  fresh : ∀ id, (state.session id).wasPushed = false →
    (state.session id).state = .stopped ∧ (state.session id).controlEnd = false ∧
      id ∉ state.sessions

/-- The pass after the loop has been made and covers all sessions that are left. -/
def Covered (state : State Id) : Prop :=
  state.thread = .notified ∨ state.thread = .exited →
    ∀ id ∈ state.sessions, (state.session id).controlEnd = true

/-- The session's `controlEnd` was raised, if it was ever added and the thread has exited. -/
def Notified (state : State Id) : Prop :=
  state.thread = .exited → ∀ id, (state.session id).wasPushed = true →
    (state.session id).controlEnd = true

/-- A session is added while the control thread has not exited. -/
def InTime (event : Event Id) (state : State Id) : Prop :=
  ∀ id, event = .push id → (state.session id).phase = .referenced → state.thread ≠ .exited

variable {state : State Id}

theorem Tracked.notified (tracked : state.Tracked) (covered : state.Covered) :
    state.Notified := by
  intro exited id pushed
  by_cases member : id ∈ state.sessions
  · exact covered (.inr exited) id member
  · exact tracked.ended id pushed member

/-- A change of one session that adds it to nothing and withdraws no `controlEnd`. -/
structure Mild (session changed : Session) : Prop where
  wasPushed : changed.wasPushed = session.wasPushed
  controlEnd : session.controlEnd = true → changed.controlEnd = true
  fresh : session.wasPushed = false →
    changed.state = session.state ∧ changed.controlEnd = session.controlEnd

theorem Mild.refl (session : Session) : Mild session session :=
  ⟨rfl, fun ended => ended, fun _ => ⟨rfl, rfl⟩⟩

theorem Mild.trans {first second third : Session} (before : Mild first second)
    (after : Mild second third) : Mild first third where
  wasPushed := after.wasPushed.trans before.wasPushed
  controlEnd ended := after.controlEnd (before.controlEnd ended)
  fresh new := by
    obtain ⟨sameState, sameEnd⟩ := before.fresh new
    obtain ⟨sameState', sameEnd'⟩ := after.fresh (before.wasPushed.trans new)
    exact ⟨sameState'.trans sameState, sameEnd'.trans sameEnd⟩

theorem Mild.pingTimeout (session : Session) (pingTimeout : Nat) :
    Mild session { session with pingTimeout := pingTimeout } :=
  ⟨rfl, fun ended => ended, fun _ => ⟨rfl, rfl⟩⟩

theorem Mild.stop {session : Session} (fresh : session.wasPushed = false → session.state = .stopped) :
    Mild session session.stop where
  wasPushed := by simp [Session.wasPushed]
  controlEnd ended := by simpa using ended
  fresh new := by
    have notRunning : session.state ≠ .running := by simp [fresh new]
    simp [Session.stop_of_ne notRunning]

theorem Mild.gracefulStop {session : Session}
    (fresh : session.wasPushed = false → session.state = .stopped) :
    Mild session session.gracefulStop where
  wasPushed := by simp [Session.wasPushed]
  controlEnd := Session.gracefulStop_controlEnd
  fresh new := by
    have notRunning : session.state ≠ .running := by simp [fresh new]
    simp [Session.gracefulStop_of_ne notRunning]

theorem modify_self (id : Id) (change : Session → Session) :
    (state.modify id change).session id = change (state.session id) :=
  Function.update_self ..

theorem modify_of_ne (state : State Id) {id other : Id} (different : other ≠ id) (change : Session → Session) :
    (state.modify id change).session other = state.session other :=
  Function.update_of_ne different ..

omit [DecidableEq Id] in
/-- Mild changes of sessions keep track of them. -/
theorem Tracked.of_mild {after : State Id} (tracked : state.Tracked)
    (same : after.sessions = state.sessions)
    (mild : ∀ id, Mild (state.session id) (after.session id)) : after.Tracked where
  ended id pushed absent := by
    rw [same] at absent
    exact (mild id).controlEnd (tracked.ended id ((mild id).wasPushed ▸ pushed) absent)
  fresh id new := by
    have before : (state.session id).wasPushed = false := (mild id).wasPushed ▸ new
    obtain ⟨stopped, silent, absent⟩ := tracked.fresh id before
    obtain ⟨sameState, sameEnd⟩ := (mild id).fresh before
    exact ⟨sameState.trans stopped, sameEnd.trans silent, same ▸ absent⟩

omit [DecidableEq Id] in
theorem Covered.of_mild {after : State Id} (covered : state.Covered)
    (same : after.sessions = state.sessions)
    (thread : after.thread = .notified ∨ after.thread = .exited →
      state.thread = .notified ∨ state.thread = .exited)
    (mild : ∀ id, Mild (state.session id) (after.session id)) : after.Covered := by
  intro position id member
  exact (mild id).controlEnd (covered (thread position) id (same ▸ member))

theorem mild_modify (state : State Id) {id : Id} {change : Session → Session}
    (mild : Mild (state.session id) (change (state.session id))) (other : Id) :
    Mild (state.session other) ((state.modify id change).session other) := by
  by_cases same : other = id
  · subst same
    rw [modify_self]
    exact mild
  · rw [modify_of_ne state same]
    exact Mild.refl _

theorem serve_sessions (served : Served Id) : (state.serve served).sessions = state.sessions := by
  cases served <;> simp only [serve] <;> (try split) <;> rfl

theorem serve_mild (tracked : state.Tracked) (served : Served Id) (id : Id) :
    Mild (state.session id) ((state.serve served).session id) := by
  have unstarted (other : Id) : (state.session other).wasPushed = false →
      (state.session other).state = .stopped := fun new => (tracked.fresh other new).1
  cases served with
  | timeout => exact Mild.refl _
  | connect other =>
      simp only [serve]
      split
      · exact mild_modify state ⟨rfl, fun ended => ended, fun _ => ⟨rfl, rfl⟩⟩ id
      · exact Mild.refl _
  | receive other stops =>
      simp only [serve]
      split
      · apply mild_modify
        cases stops with
        | false => exact Mild.pingTimeout ..
        | true => exact (Mild.pingTimeout ..).trans (Mild.stop (unstarted other))
      · exact Mild.refl _
  | disconnect other =>
      simp only [serve]
      split
      · apply mild_modify
        exact (Mild.pingTimeout ..).trans (Mild.stop (unstarted other))
      · exact Mild.refl _

theorem scan_tracked (tracked : state.Tracked) (visits : Nat) (processRunning : Bool) :
    (state.scan visits processRunning).Tracked := by
  have parts (id : Id) : id ∈ state.sessions →
      id ∈ state.sessions.take (state.reached visits) ∨
        id ∈ state.sessions.drop (state.reached visits) := by
    intro member
    rw [← List.mem_append, List.take_append_drop]
    exact member
  constructor
  · intro id pushed absent
    have before : (state.session id).wasPushed = true := by
      simpa only [scan, Session.wasPushed, scanSessions_phase] using pushed
    simp only [scan, List.mem_append, not_or] at absent
    by_cases member : id ∈ state.sessions
    · have met := (parts id member).resolve_right absent.2
      exact (scanSessions_kept_or_ended met _).resolve_left absent.1
    · exact scanSessions_controlEnd _ (tracked.ended id before member)
  · intro id new
    have before : (state.session id).wasPushed = false := by
      simpa only [scan, Session.wasPushed, scanSessions_phase] using new
    obtain ⟨stopped, silent, absent⟩ := tracked.fresh id before
    have unmet : id ∉ state.sessions.take (state.reached visits) :=
      fun member => absent (List.mem_of_mem_take member)
    simp only [scan, scanSessions_frame unmet, List.mem_append, not_or]
    exact ⟨stopped, silent, fun kept => unmet (scanSessions_subset _ _ kept),
      fun left => absent (List.mem_of_mem_drop left)⟩

theorem controlStep_tracked (tracked : state.Tracked) (visits : Nat) (served : Served Id) :
    (state.controlStep visits served).Tracked := by
  cases position : state.thread <;> simp only [controlStep, position]
  case scan processRunning => exact scan_tracked tracked visits processRunning
  case iterate =>
    exact tracked.of_mild (serve_sessions served) (serve_mild tracked served)
  case terminate =>
    constructor
    · intro id pushed absent
      have absent : id ∉ state.sessions := absent
      simp only [if_neg absent] at pushed ⊢
      exact tracked.ended id pushed absent
    · intro id new
      have before : (state.session id).wasPushed = false := by
        revert new
        dsimp only
        split <;> exact fun new => new
      obtain ⟨stopped, silent, absent⟩ := tracked.fresh id before
      simp only [if_neg absent]
      exact ⟨stopped, silent, absent⟩
  all_goals exact tracked.of_mild rfl fun _ => Mild.refl _

/-- What an event other than `push` and the control thread's own does to the sessions. -/
theorem step_mild (tracked : state.Tracked) {event : Event Id}
    (noPush : ∀ id, event ≠ .push id) (noControl : ∀ visits served, event ≠ .control visits served) :
    (step event state).sessions = state.sessions ∧
      ((step event state).thread = .notified ∨ (step event state).thread = .exited →
        state.thread = .notified ∨ state.thread = .exited) ∧
      ∀ id, Mild (state.session id) ((step event state).session id) := by
  have unstarted (id : Id) : (state.session id).wasPushed = false →
      (state.session id).state = .stopped := fun new => (tracked.fresh id new).1
  have begun : state.takeRef.thread = .notified ∨ state.takeRef.thread = .exited →
      state.thread = .notified ∨ state.thread = .exited := by
    simp only [takeRef]
    split <;> simp
  have same : state.sessions = state.sessions ∧
      (state.thread = .notified ∨ state.thread = .exited →
        state.thread = .notified ∨ state.thread = .exited) ∧
      ∀ id, Mild (state.session id) (state.session id) :=
    ⟨rfl, fun position => position, fun id => Mild.refl _⟩
  cases event with
  | advance _ | configure _ | process _ | shutdown => exact same
  | borrow =>
      simp only [step]
      split
      · exact ⟨rfl, begun, fun id => Mild.refl _⟩
      · exact same
  | giveBack =>
      simp only [step]
      split <;> exact same
  | ref id =>
      simp only [step]
      split
      case isTrue allowed =>
        refine ⟨rfl, begun, mild_modify state.takeRef ⟨?_, fun ended => ended,
          fun _ => ⟨rfl, rfl⟩⟩⟩
        simp [Session.wasPushed, takeRef, allowed.1]
      case isFalse => exact same
  | push id => exact absurd rfl (noPush id)
  | running id =>
      simp only [step]
      split
      case isTrue allowed =>
        refine ⟨rfl, fun position => position, mild_modify state ⟨?_, fun ended => ended, ?_⟩⟩
        · simp [Session.wasPushed, allowed]
        · simp [Session.wasPushed, allowed]
      case isFalse => exact same
  | stop id =>
      exact ⟨rfl, fun position => position, mild_modify state (Mild.stop (unstarted id))⟩
  | gracefulStop id =>
      exact ⟨rfl, fun position => position, mild_modify state (Mild.gracefulStop (unstarted id))⟩
  | join id =>
      simp only [step]
      split
      case isTrue allowed =>
        refine ⟨rfl, fun position => position, mild_modify state ⟨?_, fun ended => ended,
          fun _ => ⟨rfl, rfl⟩⟩⟩
        simp [Session.wasPushed, allowed]
      case isFalse => exact same
  | joined id =>
      simp only [step]
      split
      case isTrue allowed =>
        refine ⟨rfl, fun position => position, mild_modify state ⟨?_, fun ended => ended,
          fun _ => ⟨rfl, rfl⟩⟩⟩
        simp [Session.wasPushed, allowed.1]
      case isFalse => exact same
  | release id =>
      simp only [step]
      split
      case isTrue allowed =>
        refine ⟨rfl, fun position => position, mild_modify state.dropRef ⟨?_,
          fun ended => ended, fun _ => ⟨rfl, rfl⟩⟩⟩
        simp [Session.wasPushed, dropRef, allowed]
      case isFalse => exact same
  | control visits served => exact absurd rfl (noControl visits served)

/-- Adding a session. -/
theorem push_tracked (tracked : state.Tracked) (id : Id) : (step (.push id) state).Tracked := by
  simp only [step]
  split
  case isTrue allowed =>
    constructor
    · intro other pushed absent
      simp only [List.mem_append, List.mem_singleton, not_or] at absent
      have unchanged := modify_of_ne state absent.2
        (fun session => { session with phase := .pushed })
      simp only [unchanged] at pushed ⊢
      exact tracked.ended other pushed absent.1
    · intro other new
      have different : other ≠ id := by
        rintro rfl
        simp [modify_self, Session.wasPushed] at new
      have unchanged := modify_of_ne state different
        (fun session => { session with phase := .pushed })
      simp only [unchanged] at new ⊢
      obtain ⟨stopped, silent, absent⟩ := tracked.fresh other new
      exact ⟨stopped, silent, by simp [absent, different]⟩
  case isFalse => exact tracked

theorem step_tracked (event : Event Id) (state : State Id) (tracked : state.Tracked) :
    (step event state).Tracked := by
  by_cases noPush : ∀ id, event ≠ .push id
  · by_cases noControl : ∀ visits served, event ≠ .control visits served
    · obtain ⟨sameList, _, mild⟩ := step_mild tracked noPush noControl
      exact tracked.of_mild sameList mild
    · push Not at noControl
      obtain ⟨visits, served, rfl⟩ := noControl
      exact controlStep_tracked tracked visits served
  · push Not at noPush
    obtain ⟨id, rfl⟩ := noPush
    exact push_tracked tracked id

theorem controlStep_covered (covered : state.Covered) (visits : Nat) (served : Served Id) :
    (state.controlStep visits served).Covered := by
  cases position : state.thread <;> simp only [controlStep, position]
  case unstarted | exited => exact covered
  case terminate =>
    intro _ id member
    have member : id ∈ state.sessions := member
    simp [if_pos member, Session.notify]
  case notified => exact fun _ => covered (.inl position)
  case condition | decide => intro ended; dsimp only at ended; split at ended <;> simp at ended
  all_goals exact fun ended => absurd ended (by simp [scan])

theorem step_covered (event : Event Id) (state : State Id) (inTime : InTime event state)
    (tracked : state.Tracked) (covered : state.Covered) : (step event state).Covered := by
  by_cases noPush : ∀ id, event ≠ .push id
  · by_cases noControl : ∀ visits served, event ≠ .control visits served
    · obtain ⟨sameList, thread, mild⟩ := step_mild tracked noPush noControl
      exact covered.of_mild sameList thread mild
    · push Not at noControl
      obtain ⟨visits, served, rfl⟩ := noControl
      exact controlStep_covered covered visits served
  · push Not at noPush
    obtain ⟨id, rfl⟩ := noPush
    simp only [step]
    split
    case isTrue allowed =>
      rintro (notified | exited)
      · exact absurd notified allowed.2
      · exact absurd exited (inTime id rfl allowed.1)
    case isFalse => exact covered

/-- A session that is added after the thread has exited is never let go by it. -/
theorem push_not_notified (tracked : state.Tracked) {event : Event Id}
    (late : ¬ InTime event state) : ¬ (step event state).Notified := by
  simp only [InTime, not_forall, not_not] at late
  obtain ⟨id, rfl, referenced, exited⟩ := late
  have new : (state.session id).wasPushed = false := by simp [Session.wasPushed, referenced]
  have allowed : (state.session id).phase = .referenced ∧ state.thread ≠ .notified := by
    simp [referenced, exited]
  intro notified
  simp only [step, if_pos allowed] at notified
  have raised := notified exited id (by simp [modify_self, Session.wasPushed])
  simp [modify_self, (tracked.fresh id new).2.1] at raised

omit [DecidableEq Id] in
theorem initial_tracked (pingTimeout : Nat) : (initial pingTimeout : State Id).Tracked where
  ended id pushed := by simp [initial, Session.allocated, Session.wasPushed] at pushed
  fresh id _ := by simp [initial, Session.allocated]

omit [DecidableEq Id] in
theorem initial_covered (pingTimeout : Nat) : (initial pingTimeout : State Id).Covered := by
  rintro (notified | exited) <;> simp_all [initial]

/-- The control thread notifies the sessions of a run, in every state of it, exactly
when all of them are added before it exits. -/
theorem run_notified_iff (pingTimeout : Nat) (events : List (Event Id)) :
    (∀ front back, events = front ++ back → (run step front (initial pingTimeout)).Notified) ↔
      Meets step InTime events (initial pingTimeout) := by
  suffices general : ∀ state : State Id, state.Tracked → state.Covered →
      ((∀ front back, events = front ++ back → (run step front state).Notified) ↔
        Meets step InTime events state) from
    general _ (initial_tracked pingTimeout) (initial_covered pingTimeout)
  induction events with
  | nil =>
      intro state tracked covered
      refine ⟨fun _ => trivial, fun _ front back split => ?_⟩
      obtain ⟨rfl, rfl⟩ := List.nil_eq_append_iff.mp split
      exact tracked.notified covered
  | cons event rest ih =>
      intro state tracked covered
      have later := ih (step event state) (step_tracked event state tracked)
      constructor
      · intro notified
        have inTime : InTime event state := by
          by_contra late
          exact push_not_notified tracked late (notified [event] rest rfl)
        refine ⟨inTime, (later (step_covered event state inTime tracked covered)).mp ?_⟩
        intro front back split
        exact notified (event :: front) back (congrArg (event :: ·) split)
      · rintro ⟨inTime, met⟩ front back split
        cases front with
        | nil => exact tracked.notified covered
        | cons first front =>
            obtain ⟨rfl, remaining⟩ := List.cons.inj split
            exact (later (step_covered event state inTime tracked covered)).mpr met front back
              remaining

/-- The session waits for its `controlEnd`, which only the exited thread could have raised. -/
structure Stranded (state : State Id) (id : Id) : Prop where
  exited : state.thread = .exited
  joining : (state.session id).phase = .joining
  stopping : (state.session id).state = .stopping
  waiting : (state.session id).controlEnd = false

theorem Stranded.modify {id other : Id} (stranded : state.Stranded id)
    {change : Session → Session}
    (keeps : other = id → change (state.session id) = state.session id) :
    (state.modify other change).Stranded id := by
  have same : (state.modify other change).session id = state.session id := by
    by_cases equal : id = other
    · subst equal
      rw [modify_self, keeps rfl]
    · exact modify_of_ne state equal change
  exact ⟨stranded.exited, same ▸ stranded.joining, same ▸ stranded.stopping,
    same ▸ stranded.waiting⟩

theorem step_stranded {id : Id} (event : Event Id) (state : State Id)
    (stranded : state.Stranded id) : (step event state).Stranded id := by
  obtain ⟨exited, joining, stopping, waiting⟩ := stranded
  have begun : state.takeRef.Stranded id := ⟨by simp [takeRef, exited], joining, stopping, waiting⟩
  have dropped : state.dropRef.Stranded id := ⟨exited, joining, stopping, waiting⟩
  have stays : state.Stranded id := ⟨exited, joining, stopping, waiting⟩
  cases event with
  | advance _ | configure _ | process _ | shutdown => exact ⟨exited, joining, stopping, waiting⟩
  | borrow =>
      simp only [step]
      split
      · exact ⟨begun.exited, joining, stopping, waiting⟩
      · exact stays
  | giveBack =>
      simp only [step]
      split
      · exact ⟨exited, joining, stopping, waiting⟩
      · exact stays
  | ref other =>
      simp only [step]
      split
      case isTrue allowed => exact begun.modify fun same => by simp_all
      case isFalse => exact stays
  | push other =>
      simp only [step]
      split
      case isTrue allowed =>
        have modified : (state.modify other fun session =>
            { session with phase := .pushed }).Stranded id := stays.modify fun same => by simp_all
        exact ⟨exited, modified.joining, modified.stopping, modified.waiting⟩
      case isFalse => exact stays
  | running other | join other =>
      simp only [step]
      split
      case isTrue allowed => exact stays.modify fun same => by simp_all
      case isFalse => exact stays
  | stop other =>
      exact stays.modify fun _ => Session.stop_of_ne (by simp [stopping])
  | gracefulStop other =>
      exact stays.modify fun _ => Session.gracefulStop_of_ne (by simp [stopping])
  | joined other =>
      simp only [step]
      split
      case isTrue allowed => exact stays.modify fun same => by simp_all
      case isFalse => exact stays
  | release other =>
      simp only [step]
      split
      case isTrue allowed => exact dropped.modify fun same => by simp_all [dropRef]
      case isFalse => exact stays
  | control visits served =>
      simp only [step, controlStep, exited]
      exact stays

/-- `session::join` of a stranded session never returns. -/
theorem run_stranded {id : Id} (stranded : state.Stranded id) (events : List (Event Id)) :
    (run step events state).Stranded id :=
  run_preserves step (fun state => state.Stranded id)
    (fun event state stranded => step_stranded event state stranded) events stranded

/-- The application has ended and its session is stopped. The thread reads that nothing runs,
and while it leaves its loop the next application and its session are started. -/
def startedTooLate : List (Event Bool) :=
  [.process true, .ref true, .push true, .running true, .process false, .stop true, .join true,
    .control 0 .timeout, .control 0 .timeout, .process true, .ref false,
    .control 0 .timeout, .control 0 .timeout, .control 0 .timeout, .control 0 .timeout,
    .push false, .running false, .joined true, .release true, .stop false, .join false]

/-- The other session is added to the list of a thread that has ended, and its join waits
for ever. -/
theorem startedTooLate_stranded :
    ¬ (run step startedTooLate (initial 10000)).Notified ∧
      ∀ later, ((run step (startedTooLate ++ later) (initial 10000)).session false).phase =
        .joining := by
  have stranded : (run step startedTooLate (initial 10000)).Stranded false :=
    ⟨by decide +kernel, by decide +kernel, by decide +kernel, by decide +kernel⟩
  constructor
  · intro notified
    have raised := notified stranded.exited false
      (by simp [Session.wasPushed, stranded.joining])
    simp [stranded.waiting] at raised
  · intro later
    rw [run_append]
    exact (run_stranded stranded later).joining

end State

end UmbraHost.Broadcast
