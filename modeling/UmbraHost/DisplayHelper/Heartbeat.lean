import Mathlib.Tactic.Linarith
import Mathlib.Data.Int.ConditionallyCompleteOrder
import UmbraHost.DisplayHelper.RuntimeSupport
import UmbraHost.Transition.Run

/-! # The heartbeat of a session

`HeartbeatMonitor` of `runtime_support.h`.  A check reports a lost session only
when the recovery window has passed since a check that found the pings missing. -/

namespace UmbraHost.DisplayHelper

open Transition

structure HeartbeatMonitor where
  armed : Bool := false
  lastPing : Time := 0
  optionalUntil : Time := 0
  recoveryDeadline : Option Time := none

namespace HeartbeatMonitor

def optionalWindow : Time := seconds 30

def missWindow : Time := seconds 30

def recoveryWindow : Time := seconds 120

def arm (now : Time) (_ : HeartbeatMonitor) : HeartbeatMonitor :=
  { armed := true
    lastPing := now
    optionalUntil := now + optionalWindow
    recoveryDeadline := none }

def disarm (monitor : HeartbeatMonitor) : HeartbeatMonitor :=
  { monitor with armed := false, optionalUntil := 0, recoveryDeadline := none }

def recordPing (now : Time) (monitor : HeartbeatMonitor) : HeartbeatMonitor :=
  if monitor.armed then { monitor with lastPing := now, recoveryDeadline := none } else monitor

/-- The answer, and the monitor after the check. -/
def checkTimeout (now : Time) (monitor : HeartbeatMonitor) : Bool × HeartbeatMonitor :=
  if monitor.armed = false then (false, monitor)
  else if now < monitor.optionalUntil then (false, monitor)
  else match monitor.recoveryDeadline with
    | none =>
        if now - monitor.lastPing < missWindow then (false, monitor)
        else (false, { monitor with recoveryDeadline := some (now + recoveryWindow) })
    | some deadline =>
        if deadline ≤ now then (true, monitor.disarm) else (false, monitor)

inductive Call where
  | arm
  | disarm
  | recordPing
  | checkTimeout
deriving DecidableEq

def step : Time × Call → HeartbeatMonitor → HeartbeatMonitor
  | (now, .arm), monitor => monitor.arm now
  | (_, .disarm), monitor => monitor.disarm
  | (now, .recordPing), monitor => monitor.recordPing now
  | (now, .checkTimeout), monitor => (monitor.checkTimeout now).2

/-- The monitor after a history of calls, from its construction. -/
def after (past : List (Time × Call)) : HeartbeatMonitor :=
  run step past {}

/-- The check at the end of a history reports a timeout. -/
def fires (past : List (Time × Call)) (now : Time) : Bool :=
  ((after past).checkTimeout now).1

/-- The calls that start or end a session of the monitor. -/
def switches (call : Time × Call) : Bool :=
  call.2 = .arm ∨ call.2 = .disarm

theorem after_concat (past : List (Time × Call)) (call : Time × Call) :
    after (past ++ [call]) = step call (after past) := by
  simp [after, run_append]

/-- What a check does: it reports and disarms past the recovery deadline, it
opens the recovery window when pings are missing, or it changes nothing. -/
theorem checkTimeout_cases (now : Time) (monitor : HeartbeatMonitor) :
    (monitor.armed = true ∧ monitor.optionalUntil ≤ now ∧
      (∃ deadline ≤ now, monitor.recoveryDeadline = some deadline) ∧
      monitor.checkTimeout now = (true, monitor.disarm)) ∨
    (monitor.armed = true ∧ monitor.lastPing + missWindow ≤ now ∧
      monitor.checkTimeout now =
        (false, { monitor with recoveryDeadline := some (now + recoveryWindow) })) ∨
    monitor.checkTimeout now = (false, monitor) := by
  cases armed : monitor.armed with
  | false => exact .inr (.inr (by simp [checkTimeout, armed]))
  | true =>
      by_cases early : now < monitor.optionalUntil
      · exact .inr (.inr (by simp [checkTimeout, armed, early]))
      · cases open_ : monitor.recoveryDeadline with
        | none =>
            by_cases recent : now - monitor.lastPing < missWindow
            · exact .inr (.inr (by simp [checkTimeout, armed, early, open_, recent]))
            · exact .inr (.inl ⟨rfl, by linarith, by
                simp [checkTimeout, armed, early, open_, recent]⟩)
        | some deadline =>
            by_cases past : deadline ≤ now
            · exact .inl ⟨rfl, by linarith, ⟨deadline, past, rfl⟩, by
                simp [checkTimeout, armed, early, open_, past]⟩
            · exact .inr (.inr (by simp [checkTimeout, armed, early, open_, past]))

/-- What an armed monitor knows of its history. -/
structure Listening (past : List (Time × Call)) (monitor : HeartbeatMonitor) : Prop where
  started : ∃ start, latest switches past = some (start, .arm) ∧ start ≤ monitor.lastPing
  heard : ∀ ping, (ping, .recordPing) ∈ past → ping ≤ monitor.lastPing
  deadline : ∀ deadline, monitor.recoveryDeadline = some deadline →
    monitor.lastPing + missWindow + recoveryWindow ≤ deadline

theorem listening_after {past : List (Time × Call)} (chronological : Chronological past)
    (armed : (after past).armed = true) : Listening past (after past) := by
  induction past using List.reverseRecOn with
  | nil => simp [after] at armed
  | append_singleton past call ih =>
      obtain ⟨earlier, clock⟩ := chronological_concat.mp chronological
      obtain ⟨now, call⟩ := call
      rw [after_concat] at armed ⊢
      cases call with
      | arm =>
          refine ⟨⟨now, by simp [switches], le_refl now⟩, ?_, by simp [step, arm]⟩
          intro ping member
          simp only [List.mem_append, List.mem_singleton, Prod.mk.injEq, reduceCtorEq, and_false,
            or_false] at member
          exact clock _ member
      | disarm => simp [step, disarm] at armed
      | recordPing =>
          have still : (after past).armed = true := by
            by_contra off
            simp [step, recordPing, off] at armed
          obtain ⟨⟨start, began, before⟩, heard, _⟩ := ih earlier still
          have state : step (now, .recordPing) (after past) =
              { after past with lastPing := now, recoveryDeadline := none } := by
            simp [step, recordPing, still]
          rw [state]
          refine ⟨⟨start, by simp [switches, began], ?_⟩, ?_, by simp⟩
          · exact clock _ (mem_of_latest began)
          · intro ping member
            rcases List.mem_append.mp member with member | last
            · exact clock _ member
            · simp only [List.mem_singleton, Prod.mk.injEq, and_true] at last
              exact le_of_eq last
      | checkTimeout =>
          have silent : ∀ ping, (ping, .recordPing) ∈ past ++ [(now, .checkTimeout)] →
              (ping, .recordPing) ∈ past := by
            intro ping member
            simpa using member
          rcases checkTimeout_cases now (after past) with
            ⟨_, _, _, fired⟩ | ⟨still, missing, opened⟩ | unchanged
          · simp [step, fired, disarm] at armed
          · obtain ⟨⟨start, began, before⟩, heard, _⟩ := ih earlier still
            simp only [step, opened]
            refine ⟨⟨start, by simp [switches, began], before⟩,
              fun ping member => heard ping (silent ping member), ?_⟩
            intro deadline set
            obtain rfl := Option.some.inj set
            exact add_le_add_left missing recoveryWindow
          · simp only [step, unchanged] at armed ⊢
            obtain ⟨⟨start, began, before⟩, heard, kept⟩ := ih earlier armed
            exact ⟨⟨start, by simp [switches, began], before⟩,
              fun ping member => heard ping (silent ping member), kept⟩

/-- A monitor that is not armed stays so until it is armed. -/
theorem unarmed_until_armed {calls : List (Time × Call)} {monitor : HeartbeatMonitor}
    (none_arm : ∀ call ∈ calls, call.2 ≠ .arm) (unarmed : monitor.armed = false) :
    (run step calls monitor).armed = false := by
  have met := Meets.of_forall step none_arm monitor
  refine run_preserves_of_meets step (fun monitor => monitor.armed = false) ?_ met unarmed
  rintro ⟨now, call⟩ monitor notArm unarmed
  cases call with
  | arm => exact absurd rfl notArm
  | disarm => rfl
  | recordPing => simp [step, recordPing, unarmed]
  | checkTimeout => simp [step, checkTimeout, unarmed]

/-- No check since the monitor was armed has reported while it is still armed. -/
theorem silent_while_armed {front back : List (Time × Call)} {checked : Time}
    (none_arm : ∀ call ∈ back, call.2 ≠ .arm)
    (armed : (after (front ++ (checked, .checkTimeout) :: back)).armed = true) :
    fires front checked = false := by
  by_contra fired
  have disarmed : (step (checked, .checkTimeout) (after front)).armed = false := by
    rcases checkTimeout_cases checked (after front) with
      ⟨_, _, _, reported⟩ | ⟨_, _, opened⟩ | unchanged
    · simp [step, reported, disarm]
    · simp [fires, opened] at fired
    · simp [fires, unchanged] at fired
  have off := unarmed_until_armed none_arm disarmed
  simp only [after, run_append, run_cons] at armed
  rw [after, armed] at off
  cases off

/-- What a reported timeout says about the calls before it. -/
structure Lost (past : List (Time × Call)) (now : Time) : Prop where
  armed : ∃ front start back, past = front ++ (start, .arm) :: back ∧
    (∀ call ∈ back, call.2 ≠ .arm ∧ call.2 ≠ .disarm) ∧ start + seconds 150 ≤ now
  once : ∀ front checked back, past = front ++ (checked, .checkTimeout) :: back →
    fires front checked = true → ∃ call ∈ back, call.2 = .arm
  unheard : ∀ ping, (ping, .recordPing) ∈ past → ping + seconds 150 ≤ now

/-- A session is reported lost only when it was armed, and neither armed again
nor pinged, for 150 seconds; each session is reported once. -/
theorem lost_of_fires {past : List (Time × Call)} {now : Time}
    (chronological : Chronological (past ++ [(now, .checkTimeout)]))
    (fired : fires past now = true) : Lost past now := by
  obtain ⟨armed, deadline, due, set⟩ : (after past).armed = true ∧
      ∃ deadline ≤ now, (after past).recoveryDeadline = some deadline := by
    rcases checkTimeout_cases now (after past) with
      ⟨armed, _, set, _⟩ | ⟨_, _, opened⟩ | unchanged
    · exact ⟨armed, set⟩
    · simp [fires, opened] at fired
    · simp [fires, unchanged] at fired
  obtain ⟨⟨start, began, before⟩, heard, kept⟩ :=
    listening_after (chronological_concat.mp chronological).1 armed
  have window : (after past).lastPing + seconds 150 ≤ now := by
    have lengths : missWindow + recoveryWindow = seconds 150 := rfl
    linarith [kept deadline set]
  refine ⟨?_, ?_, ?_⟩
  · obtain ⟨front, split⟩ := split_latest began
    refine ⟨front, start, _, split, ?_, by linarith⟩
    intro call member
    simpa [switches] using kind_of_mem_sinceLatest member
  · intro front checked back split reported
    by_contra unarmed
    have noArm : ∀ call ∈ back, call.2 ≠ .arm := fun call member arms =>
      unarmed ⟨call, member, arms⟩
    have silent : fires front checked = false := silent_while_armed noArm (split ▸ armed)
    rw [silent] at reported
    cases reported
  · intro ping member
    linarith [heard ping member]

theorem lost_after_missed_pings :
    Lost [(0, .arm), (seconds 10, .recordPing), (seconds 40, .checkTimeout)] (seconds 160) :=
  lost_of_fires (by decide) (by decide)

end HeartbeatMonitor

end UmbraHost.DisplayHelper
