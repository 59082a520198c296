import UmbraHost.DisplayHelper.Types

/-! # Clocks, restore pacing and shared restore state

`runtime_support.h` and the policy classes of `operations.h`.  Points of time
are steady-clock ticks in nanoseconds; the durations of the source are whole
milliseconds. -/

namespace UmbraHost.DisplayHelper

/-- A reading of the steady clock. -/
abbrev Time := Int

def milliseconds (count : Nat) : Time := count * 1000000

def seconds (count : Nat) : Time := milliseconds (count * 1000)

/-- `RestoreScheduler`: the primary window after a REVERT, event windows and
the backoff between failed attempts. -/
structure RestoreScheduler where
  armed : Bool := false
  windowExhaustedReported : Bool := false
  windowUntil : Time := 0
  nextAllowed : Time := 0
  backoffIndex : Nat := 0

namespace RestoreScheduler

def restoreWindowPrimary : Time := seconds 120

def restoreWindowEvent : Time := seconds 30

def restoreBackoffProfile : List Time :=
  [seconds 0, seconds 1, seconds 3, seconds 5, seconds 10, seconds 15, seconds 20, seconds 30]

def armPrimary (now : Time) (grace : Nat) (_ : RestoreScheduler) : RestoreScheduler :=
  { armed := true
    windowUntil := now + restoreWindowPrimary
    nextAllowed := now + milliseconds grace
    backoffIndex := 0
    windowExhaustedReported := false }

def onDisplayEvent (now : Time) (scheduler : RestoreScheduler) : RestoreScheduler :=
  if scheduler.armed then
    { scheduler with
      backoffIndex := 0
      nextAllowed := now
      windowUntil := max (now + restoreWindowEvent) scheduler.windowUntil
      windowExhaustedReported := false }
  else scheduler

def onAttemptFailed (now : Time) (scheduler : RestoreScheduler) : RestoreScheduler :=
  let backoffIndex :=
    if scheduler.backoffIndex + 1 < restoreBackoffProfile.length then scheduler.backoffIndex + 1
    else scheduler.backoffIndex
  { scheduler with
    backoffIndex
    nextAllowed := now + restoreBackoffProfile.getD backoffIndex 0 }

def disarm (scheduler : RestoreScheduler) : RestoreScheduler :=
  { scheduler with armed := false, backoffIndex := 0, windowExhaustedReported := false }

def windowActive (now : Time) (scheduler : RestoreScheduler) : Bool :=
  scheduler.armed && now ≤ scheduler.windowUntil

/-- The flag of the source is reported once; the second component is the
scheduler after the report. -/
def windowJustExpired (now : Time) (scheduler : RestoreScheduler) : Bool × RestoreScheduler :=
  if !scheduler.armed || scheduler.windowExhaustedReported then (false, scheduler)
  else if scheduler.windowUntil < now then
    (true, { scheduler with windowExhaustedReported := true })
  else (false, scheduler)

def shouldAttempt (now : Time) (scheduler : RestoreScheduler) : Bool :=
  scheduler.windowActive now && scheduler.nextAllowed ≤ now

end RestoreScheduler

/-- `RestoreState`: flags set by the command handlers and consumed by the
recovery operation. -/
structure RestoreState where
  alwaysRestoreFromGolden : Bool := false
  preferGoldenIfCurrentMissing : Bool := true
  restoreOnDisconnect : Bool := true
  restoreAttemptedUnconfirmed : Bool := false
  goldenPendingSessionFallbacks : Nat := 0
  lastSessionRestoreSuccessMs : Int := 0
  exclusions : List String := []

def RestoreState.resetRequestProgress (restoreState : RestoreState) : RestoreState :=
  { restoreState with restoreAttemptedUnconfirmed := false, goldenPendingSessionFallbacks := 0 }

/-- `ApplyPolicy`; a zero `lastReset` is the epoch value of a policy that has
not reset the virtual display yet. -/
structure ApplyPolicy where
  lastReset : Time := 0

namespace ApplyPolicy

def resetCooldown : Time := seconds 30

def retryBaseDelay : Nat := 500

def maxApplyAttempts : Nat := 3

def maybeResetVirtualDisplay (now : Time) (status : ApplyStatus) (virtualDisplayRequested : Bool)
    (policy : ApplyPolicy) : PolicyDecision × ApplyPolicy :=
  if status ≠ .needsVirtualDisplayReset ∨ virtualDisplayRequested = false then (.proceed, policy)
  else if policy.lastReset ≠ 0 ∧ now - policy.lastReset < resetCooldown then (.proceed, policy)
  else (.resetVirtualDisplay, { policy with lastReset := now })

def retryDelay (attempt : Nat) : Nat :=
  retryBaseDelay * max 1 (min attempt maxApplyAttempts)

def canRetryApply (attempt : Nat) : Bool :=
  attempt < maxApplyAttempts

end ApplyPolicy

end UmbraHost.DisplayHelper
