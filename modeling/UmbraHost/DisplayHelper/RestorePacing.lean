import Mathlib.Tactic.Linarith
import Mathlib.Data.Int.ConditionallyCompleteOrder
import UmbraHost.DisplayHelper.StraightLine

/-! # The pacing of restore attempts

A history of the scheduler's calls determines its window and its backoff: the
latest arming and the display events since then set the window, and the
failures since either of them set the delay before the next attempt. -/

namespace UmbraHost.DisplayHelper

open Transition

namespace RestoreScheduler

/-- The calls the state machine makes; a tick is the poll of `handle_tick`. -/
inductive Call where
  | armPrimary (grace : Nat)
  | displayEvent
  | attemptFailed
  | disarm
  | tick
deriving DecidableEq

def step : Time × Call → RestoreScheduler → RestoreScheduler
  | (now, .armPrimary grace), scheduler => scheduler.armPrimary now grace
  | (now, .displayEvent), scheduler => scheduler.onDisplayEvent now
  | (now, .attemptFailed), scheduler => scheduler.onAttemptFailed now
  | (_, .disarm), scheduler => scheduler.disarm
  | (now, .tick), scheduler => (scheduler.windowJustExpired now).2

/-- The scheduler after a history of calls, from its construction. -/
def after (past : List (Time × Call)) : RestoreScheduler :=
  run step past {}

@[simp] theorem after_concat (past : List (Time × Call)) (call : Time × Call) :
    after (past ++ [call]) = step call (after past) := by
  simp [after, run_append]

def Call.arms : Call → Bool
  | .armPrimary _ => true
  | _ => false

/-- The calls that arm or disarm the scheduler. -/
def switches (call : Time × Call) : Bool :=
  call.2.arms || call.2 = .disarm

def isEvent (call : Time × Call) : Bool :=
  call.2 = .displayEvent

def isFailure (call : Time × Call) : Bool :=
  call.2 = .attemptFailed

/-- The calls that open a restore window. -/
def opens (call : Time × Call) : Bool :=
  call.2.arms || call.2 = .displayEvent

/-- The failed attempts since the window was opened last. -/
def failures (past : List (Time × Call)) : Nat :=
  (sinceLatest opens past).countP isFailure

/-- The restore window of an armed scheduler is still open. -/
def InWindow (past : List (Time × Call)) (now : Time) : Prop :=
  ∃ start grace, latest switches past = some (start, .armPrimary grace) ∧
    (now ≤ start + restoreWindowPrimary ∨
      ∃ event, latest isEvent (sinceLatest switches past) = some event ∧
        now ≤ event.1 + restoreWindowEvent)

theorem windowJustExpired_cases (now : Time) (scheduler : RestoreScheduler) :
    (scheduler.armed = true ∧ scheduler.windowExhaustedReported = false ∧
      scheduler.windowJustExpired now =
        (true, { scheduler with windowExhaustedReported := true })) ∨
    scheduler.windowJustExpired now = (false, scheduler) := by
  by_cases quiet : (!scheduler.armed || scheduler.windowExhaustedReported) = true
  · exact .inr (by simp only [windowJustExpired, if_pos quiet])
  · by_cases passed : scheduler.windowUntil < now
    · refine .inl ⟨by simp_all, by simp_all, ?_⟩
      simp only [windowJustExpired, if_neg quiet, if_pos passed]
    · exact .inr (by simp only [windowJustExpired, if_neg quiet, if_neg passed])

/-- A poll changes the report flag alone. -/
theorem tick_frame (now : Time) (scheduler : RestoreScheduler) :
    (step (now, .tick) scheduler).armed = scheduler.armed ∧
      (step (now, .tick) scheduler).windowUntil = scheduler.windowUntil ∧
      (step (now, .tick) scheduler).nextAllowed = scheduler.nextAllowed ∧
      (step (now, .tick) scheduler).backoffIndex = scheduler.backoffIndex := by
  rcases windowJustExpired_cases now scheduler with ⟨_, _, same⟩ | same <;> simp [step, same]

/-! ## The window -/

/-- The end of the window, as the calls since the latest arming set it. -/
def windowEnd (start : Time) (since : List (Time × Call)) : Time :=
  match latest isEvent since with
  | none => start + restoreWindowPrimary
  | some event => max (event.1 + restoreWindowEvent) (start + restoreWindowPrimary)

theorem le_windowEnd {start now : Time} {since : List (Time × Call)} :
    now ≤ windowEnd start since ↔ now ≤ start + restoreWindowPrimary ∨
      ∃ event, latest isEvent since = some event ∧ now ≤ event.1 + restoreWindowEvent := by
  unfold windowEnd
  cases latest isEvent since with
  | none => simp
  | some event => simp [or_comm]

/-- A later event does not shorten the window. -/
theorem max_windowEnd {start now : Time} {since : List (Time × Call)}
    (clock : ∀ call ∈ since, call.1 ≤ now) :
    max (now + restoreWindowEvent) (windowEnd start since) =
      max (now + restoreWindowEvent) (start + restoreWindowPrimary) := by
  unfold windowEnd
  cases found : latest isEvent since with
  | none => rfl
  | some event =>
      have earlier : event.1 + restoreWindowEvent ≤ now + restoreWindowEvent :=
        add_le_add (clock event (mem_of_latest found)) (le_refl _)
      dsimp only
      rw [← max_assoc, max_eq_left earlier]

/-- The latest switch of an armed scheduler is an arming, and it and the events
since then set the window. -/
theorem window_after {past : List (Time × Call)} (chronological : Chronological past)
    (armed : (after past).armed = true) :
    ∃ start grace, latest switches past = some (start, .armPrimary grace) ∧
      (after past).windowUntil = windowEnd start (sinceLatest switches past) := by
  induction past using List.reverseRecOn with
  | nil => simp [after] at armed
  | append_singleton past call ih =>
      obtain ⟨earlier, clock⟩ := chronological_concat.mp chronological
      obtain ⟨now, call⟩ := call
      rw [after_concat] at armed ⊢
      cases call with
      | armPrimary grace =>
          refine ⟨now, grace, by simp [switches, Call.arms], ?_⟩
          simp [switches, Call.arms, step, armPrimary, windowEnd]
      | disarm => simp [step, disarm] at armed
      | displayEvent =>
          have still : (after past).armed = true := by
            by_contra off
            simp [step, onDisplayEvent, off] at armed
          obtain ⟨start, grace, began, until_⟩ := ih earlier still
          refine ⟨start, grace, by simp [switches, Call.arms, began], ?_⟩
          have moved : (step (now, .displayEvent) (after past)).windowUntil =
              max (now + restoreWindowEvent) (after past).windowUntil := by
            simp [step, onDisplayEvent, still]
          rw [moved, until_,
            max_windowEnd fun call member => clock call (mem_of_mem_sinceLatest member)]
          simp [windowEnd, switches, Call.arms, isEvent]
      | attemptFailed =>
          obtain ⟨start, grace, began, until_⟩ := ih earlier armed
          refine ⟨start, grace, by simp [switches, Call.arms, began], until_.trans ?_⟩
          simp [windowEnd, switches, Call.arms, isEvent]
      | tick =>
          obtain ⟨stillArmed, window, _, _⟩ := tick_frame now (after past)
          obtain ⟨start, grace, began, until_⟩ := ih earlier (stillArmed.symm.trans armed)
          refine ⟨start, grace, by simp [switches, Call.arms, began],
            (window.trans until_).trans ?_⟩
          simp [windowEnd, switches, Call.arms, isEvent]

/-- A switched off scheduler was not armed by its latest switch. -/
theorem armed_after {past : List (Time × Call)} {start : Time} {grace : Nat}
    (began : latest switches past = some (start, .armPrimary grace)) :
    (after past).armed = true := by
  induction past using List.reverseRecOn with
  | nil => simp at began
  | append_singleton past call ih =>
      obtain ⟨now, call⟩ := call
      rw [after_concat]
      cases call with
      | armPrimary => rfl
      | disarm => simp [switches, Call.arms] at began
      | displayEvent =>
          have still := ih (by simpa [switches, Call.arms] using began)
          simp [step, onDisplayEvent, still]
      | attemptFailed => exact ih (by simpa [switches, Call.arms] using began)
      | tick =>
          rw [(tick_frame now (after past)).1]
          exact ih (by simpa [switches, Call.arms] using began)

theorem windowActive_iff {past : List (Time × Call)} (chronological : Chronological past)
    (now : Time) : (after past).windowActive now = true ↔ InWindow past now := by
  simp only [windowActive, Bool.and_eq_true, decide_eq_true_eq]
  constructor
  · rintro ⟨armed, inside⟩
    obtain ⟨start, grace, began, until_⟩ := window_after chronological armed
    exact ⟨start, grace, began, le_windowEnd.mp (until_ ▸ inside)⟩
  · rintro ⟨start, grace, began, inside⟩
    have armed := armed_after began
    obtain ⟨other, otherGrace, same, until_⟩ := window_after chronological armed
    rw [began] at same
    cases same
    exact ⟨armed, until_ ▸ le_windowEnd.mpr inside⟩

/-! ## The backoff -/

theorem onAttemptFailed_backoff (now : Time) {scheduler : RestoreScheduler} {count : Nat}
    (index : scheduler.backoffIndex = min count 7) :
    (scheduler.onAttemptFailed now).backoffIndex = min (count + 1) 7 := by
  have bound : restoreBackoffProfile.length = 8 := rfl
  simp only [onAttemptFailed, bound, index]
  split <;> omega

theorem onAttemptFailed_delay (now : Time) (scheduler : RestoreScheduler) :
    (scheduler.onAttemptFailed now).nextAllowed =
      now + restoreBackoffProfile.getD (scheduler.onAttemptFailed now).backoffIndex 0 := rfl

theorem backoffIndex_lt (past : List (Time × Call)) :
    (after past).backoffIndex < restoreBackoffProfile.length := by
  refine run_preserves step
    (fun scheduler => scheduler.backoffIndex < restoreBackoffProfile.length) ?_ past (by decide)
  rintro ⟨now, call⟩ scheduler inside
  cases call with
  | armPrimary grace => exact Nat.zero_lt_succ 7
  | displayEvent =>
      by_cases armed : scheduler.armed = true
      · simp only [step, onDisplayEvent, if_pos armed]
        exact Nat.zero_lt_succ 7
      · simpa only [step, onDisplayEvent, if_neg armed] using inside
  | attemptFailed =>
      simp only [step, onAttemptFailed]
      split <;> assumption
  | disarm => exact Nat.zero_lt_succ 7
  | tick => rw [(tick_frame now scheduler).2.2.2]; exact inside

/-- The backoff of an armed scheduler counts the failures since its window was
opened, and the latest of them delays the next attempt. -/
structure BackedOff (past : List (Time × Call)) (scheduler : RestoreScheduler) : Prop where
  index : scheduler.backoffIndex = min (failures past) 7
  delay : ∀ failed, latest isFailure (sinceLatest opens past) = some failed →
    scheduler.nextAllowed = failed.1 + restoreBackoffProfile.getD (min (failures past) 7) 0

theorem backedOff_after {past : List (Time × Call)} (armed : (after past).armed = true) :
    BackedOff past (after past) := by
  induction past using List.reverseRecOn with
  | nil => simp [after] at armed
  | append_singleton past call ih =>
      obtain ⟨now, call⟩ := call
      rw [after_concat] at armed ⊢
      cases call with
      | armPrimary grace =>
          constructor <;> simp [failures, opens, Call.arms, step, armPrimary]
      | disarm => simp [step, disarm] at armed
      | displayEvent =>
          have still : (after past).armed = true := by
            by_contra off
            simp [step, onDisplayEvent, off] at armed
          constructor <;> simp [failures, opens, Call.arms, step, onDisplayEvent, still]
      | attemptFailed =>
          have index := onAttemptFailed_backoff now (ih armed).index
          have counted : failures (past ++ [(now, .attemptFailed)]) = failures past + 1 := by
            simp [failures, opens, Call.arms, isFailure]
          refine ⟨by rw [counted]; exact index, ?_⟩
          intro failed last
          have same : failed = (now, .attemptFailed) := by
            simpa [opens, Call.arms, isFailure, eq_comm] using last
          rw [same, counted, ← index]
          exact onAttemptFailed_delay now (after past)
      | tick =>
          obtain ⟨stillArmed, _, allowed, index⟩ := tick_frame now (after past)
          have kept := ih (stillArmed.symm.trans armed)
          have counted : failures (past ++ [(now, .tick)]) = failures past := by
            simp [failures, opens, Call.arms, isFailure]
          refine ⟨by rw [index, counted]; exact kept.index, ?_⟩
          intro failed last
          rw [allowed, counted]
          exact kept.delay failed (by simpa [opens, Call.arms, isFailure] using last)

/-! ## Reports of an exhausted window -/

/-- The poll reports that the window has just expired. -/
def reports (past : List (Time × Call)) (now : Time) : Bool :=
  ((after past).windowJustExpired now).1

/-- The call opens a window of the scheduler. -/
def Opens (call : Time × Call) (scheduler : RestoreScheduler) : Prop :=
  call.2.arms = true ∨ call.2 = .displayEvent ∧ scheduler.armed = true

theorem quiet_of_reports {past : List (Time × Call)} {now : Time}
    (reported : reports past now = true) :
    (step (now, .tick) (after past)).windowExhaustedReported = true := by
  rcases windowJustExpired_cases now (after past) with ⟨_, _, expired⟩ | same
  · simp [step, expired]
  · simp [reports, same] at reported

/-- Until a window is opened, a scheduler that has reported stays quiet. -/
theorem quiet_until_opened {calls : List (Time × Call)} {scheduler : RestoreScheduler}
    (closed : Meets step (fun call scheduler => ¬ Opens call scheduler) calls scheduler)
    (quiet : scheduler.armed = false ∨ scheduler.windowExhaustedReported = true) :
    (run step calls scheduler).armed = false ∨
      (run step calls scheduler).windowExhaustedReported = true := by
  refine run_preserves_of_meets step
    (fun scheduler => scheduler.armed = false ∨ scheduler.windowExhaustedReported = true)
    ?_ closed quiet
  rintro ⟨now, call⟩ scheduler unopened quiet
  cases call with
  | armPrimary grace => exact absurd (.inl rfl) unopened
  | displayEvent =>
      have off : scheduler.armed = false := by
        by_contra armed
        exact unopened (.inr ⟨rfl, by simpa using armed⟩)
      exact .inl (by simp [step, onDisplayEvent, off])
  | attemptFailed => exact quiet
  | disarm => exact .inl rfl
  | tick =>
      rcases windowJustExpired_cases now scheduler with ⟨_, _, expired⟩ | same
      · exact .inr (by simp [step, expired])
      · simpa only [step, same] using quiet

/-- What a history of calls allows at a later time. -/
structure Paced (past : List (Time × Call)) (now : Time) : Prop where
  inside : (after past).shouldAttempt now = true → InWindow past now
  delayed : (after past).shouldAttempt now = true →
    ∀ failed, latest isFailure (sinceLatest opens past) = some failed →
      failed.1 + restoreBackoffProfile.getD (min (failures past) 7) 0 ≤ now
  open_ : InWindow past now → (after past).windowActive now = true
  inProfile : (after past).backoffIndex < restoreBackoffProfile.length
  once : reports past now = true →
    ∀ front reported back, past = front ++ (reported, .tick) :: back →
      reports front reported = true →
      ¬ Meets step (fun call scheduler => ¬ Opens call scheduler) back
        (after (front ++ [(reported, .tick)]))

/-- Restore attempts keep to the window and to the backoff, and an exhausted
window is reported once. -/
theorem restore_paced {past : List (Time × Call)} {now : Time}
    (chronological : Chronological past) : Paced past now := by
  refine ⟨?_, ?_, (windowActive_iff chronological now).mpr, backoffIndex_lt past, ?_⟩
  · intro attempted
    simp only [shouldAttempt, Bool.and_eq_true] at attempted
    exact (windowActive_iff chronological now).mp attempted.1
  · intro attempted failed last
    simp only [shouldAttempt, windowActive, Bool.and_eq_true, decide_eq_true_eq] at attempted
    obtain ⟨⟨armed, _⟩, allowed⟩ := attempted
    exact (backedOff_after armed).delay failed last ▸ allowed
  · intro again front reported back split first closed
    have quiet := quiet_until_opened closed
      (.inr (by rw [after_concat]; exact quiet_of_reports first))
    have state : run step back (after (front ++ [(reported, .tick)])) = after past := by
      rw [split, after, after, ← run_append, List.append_assoc, List.singleton_append]
    rw [state] at quiet
    rcases windowJustExpired_cases now (after past) with ⟨armed, unreported, _⟩ | same
    · rcases quiet with off | told
      · simp [armed] at off
      · simp [unreported] at told
    · simp [reports, same] at again

theorem restore_paced_after_failure :
    Paced [(0, .armPrimary 5000), (seconds 5, .attemptFailed), (seconds 6, .tick),
      (seconds 7, .attemptFailed), (seconds 121, .tick)] (seconds 122) :=
  restore_paced (by decide)

end RestoreScheduler

/-! ## The polls of the state machine -/

namespace World

/-- A tick in the event loop polls the scheduler. -/
theorem handleTick_polls (reading : Reading) {world : World}
    (polling : world.fence.state = .eventLoop ∧ world.lease.recoveryArmed = true) :
    (world.handleTick reading).ports.scheduler =
      RestoreScheduler.step (reading.now 0, .tick) world.ports.scheduler := by
  have polled : ¬ (world.fence.state ≠ .eventLoop ∨ world.lease.recoveryArmed = false) := by
    simp [polling]
  simp only [handleTick, if_neg polled]
  split
  · rfl
  · split <;> simp [RestoreScheduler.step, transition]

/-- A tick starts an attempt only when the scheduler allows one. -/
theorem handleTick_attempts (reading : Reading) {world : World}
    (attempted : (world.handleTick reading).fence.state ≠ world.fence.state) :
    (RestoreScheduler.step (reading.now 0, .tick) world.ports.scheduler).shouldAttempt
      (reading.now 0) = true := by
  by_contra refused
  refine attempted ?_
  simp only [handleTick]
  split
  · rfl
  · split
    · rfl
    · rw [if_neg (by simpa [RestoreScheduler.step] using refused)]

/-- An accepted display event reopens the window before it attempts a restore. -/
theorem displayEventInEventLoop_reopens (reading : Reading) {world : World}
    (armed : world.lease.recoveryArmed = true) :
    (world.displayEventInEventLoop reading).ports.scheduler =
      RestoreScheduler.step (reading.now 0, .displayEvent) world.ports.scheduler := by
  simp only [displayEventInEventLoop, if_pos armed]
  split <;> simp [RestoreScheduler.step, transition]

end World

end UmbraHost.DisplayHelper
