import Mathlib.Data.List.Basic

/-! # A session start that fails

`session::start` (`stream.cpp`) and the startup task of `cmd_announce` (`rtsp.cpp`), which
sees a return code or an exception.  Any of the calls that can fail may do so. -/

namespace UmbraHost.Stream.FailedStart

/-- The calls of `session::alloc` and `session::start` that can fail, in their order. -/
inductive Call where
  | alloc
  | inputAlloc
  | startBroadcast
  | broadcastRef
  | currentDisplayAdapterName
  | pushBack
  | makeAddress
  | audioThread
  | videoThread
  | beginSession
  | startPlatform
  | doCmdsThread
  | updateTray
deriving DecidableEq, Repr

variable {Session : Type u} [DecidableEq Session]

/-- What a session leaves in the process; `sessionMap` stands for the sets that
`rtsp_server_t::insert` fills. -/
structure Host (Session : Type u) where
  controlSessions : List Session := []
  runningSessions : Nat := 0
  sessionMap : List Session := []
deriving DecidableEq, Repr

inductive Outcome where
  | returned (code : Int)
  | raised (call : Call)
deriving DecidableEq, Repr

variable (fails : Call → Bool)

/-- A call, and what comes after it unless it raises. -/
def attempt (call : Call) (rest : Host Session → Host Session × Outcome) (host : Host Session) :
    Host Session × Outcome :=
  if fails call then (host, .raised call) else rest host

/-- The part of `start` after the two session threads run. -/
def record (doCmds : Bool) (host : Host Session) : Host Session × Outcome :=
  attempt fails .beginSession (fun host =>
    let host := { host with runningSessions := host.runningSessions + 1 }
    let tail := fun host =>
      if doCmds then attempt fails .doCmdsThread (attempt fails .updateTray fun host =>
        (host, .returned 0)) host
      else attempt fails .updateTray (fun host => (host, .returned 0)) host
    -- the platform calls are those of the first session
    if host.runningSessions = 1 then attempt fails .startPlatform tail host else tail host) host

/-- `start` from the publication of the session on. -/
def publish (session : Session) (doCmds : Bool) (host : Host Session) : Host Session × Outcome :=
  let host := { host with controlSessions := host.controlSessions ++ [session] }
  attempt fails .makeAddress
    (attempt fails .audioThread (attempt fails .videoThread (record fails doCmds))) host

def start (session : Session) (doCmds : Bool) (host : Host Session) : Host Session × Outcome :=
  attempt fails .inputAlloc (attempt fails .startBroadcast fun host =>
    if fails .broadcastRef then (host, .returned (-1))
    else attempt fails .currentDisplayAdapterName
      (attempt fails .pushBack (publish fails session doCmds)) host) host

/-- The startup task: the state in which it drops a failed session, and whether it reports
a failure. -/
def startupTask (session : Session) (doCmds : Bool) (host : Host Session) : Host Session × Bool :=
  let (host, outcome) := attempt fails .alloc (start fails session doCmds) host
  match outcome with
  | .returned 0 => ({ host with sessionMap := host.sessionMap ++ [session] }, false)
  | _ => (host, true)

/-- Nothing of the session is left. -/
structure NoTrace (session : Session) (before after : Host Session) : Prop where
  controlSessions : session ∉ after.controlSessions
  runningSessions : after.runningSessions = before.runningSessions
  sessionMap : session ∉ after.sessionMap

/-- The start fails before it publishes the session. -/
def failsUnpublished : Bool :=
  fails .alloc || fails .inputAlloc || fails .startBroadcast || fails .broadcastRef ||
    fails .currentDisplayAdapterName || fails .pushBack

variable {fails} {call : Call} {session : Session} {doCmds : Bool} {host : Host Session}

omit [DecidableEq Session]

/-- A call that raises leaves the state as it is. -/
theorem attempt_keeps (kept : Host Session → Prop) {rest : Host Session → Host Session × Outcome}
    (holds : kept host) (later : kept (rest host).1) : kept (attempt fails call rest host).1 := by
  simp only [attempt]
  split
  · exact holds
  · exact later

theorem record_controlSessions :
    (record fails doCmds host).1.controlSessions = host.controlSessions := by
  let kept (after : Host Session) : Prop := after.controlSessions = host.controlSessions
  have tray : ∀ after, kept after →
      kept (attempt fails .updateTray (fun host => (host, .returned 0)) after).1 :=
    fun after holds => attempt_keeps kept holds holds
  have tail : ∀ after, kept after → kept
      (if doCmds then attempt fails .doCmdsThread (attempt fails .updateTray fun host =>
        (host, .returned 0)) after
      else attempt fails .updateTray (fun host => (host, .returned 0)) after).1 := by
    intro after holds
    split
    · exact attempt_keeps kept holds (tray after holds)
    · exact tray after holds
  apply attempt_keeps kept rfl
  dsimp only
  split
  · exact attempt_keeps kept rfl (tail _ rfl)
  · exact tail _ rfl

theorem publish_controlSessions (session : Session) (doCmds : Bool) (host : Host Session) :
    (publish fails session doCmds host).1.controlSessions = host.controlSessions ++ [session] := by
  let kept (after : Host Session) : Prop :=
    after.controlSessions = host.controlSessions ++ [session]
  exact attempt_keeps kept rfl
    (attempt_keeps kept rfl (attempt_keeps kept rfl record_controlSessions))

/-- A start that fails before the publication changes nothing. -/
theorem start_of_failsUnpublished (early : failsUnpublished fails = true) (session : Session)
    (doCmds : Bool) (host : Host Session) :
    let result := attempt fails .alloc (start fails session doCmds) host
    result.1 = host ∧ result.2 ≠ .returned 0 := by
  simp only [attempt, start]
  split_ifs <;> simp_all [failsUnpublished]

theorem start_of_published (late : failsUnpublished fails = false) :
    attempt fails .alloc (start fails session doCmds) host = publish fails session doCmds host := by
  simp only [failsUnpublished, Bool.or_eq_false_iff] at late
  simp [attempt, start, late]

theorem startupTask_of_failsUnpublished (early : failsUnpublished fails = true) :
    startupTask fails session doCmds host = (host, true) := by
  obtain ⟨same, failed⟩ := start_of_failsUnpublished early session doCmds host
  simp only [startupTask, same]

theorem startupTask_of_published (late : failsUnpublished fails = false)
    (failed : (startupTask fails session doCmds host).2 = true) :
    session ∈ (startupTask fails session doCmds host).1.controlSessions := by
  rw [startupTask, start_of_published late] at failed ⊢
  dsimp only at failed ⊢
  split at failed
  · exact absurd failed Bool.false_ne_true
  · rw [publish_controlSessions]
    exact List.mem_append_right _ List.mem_cons_self

theorem noTrace_iff (fresh : session ∉ host.controlSessions) (unregistered : session ∉ host.sessionMap)
    (failed : (startupTask fails session doCmds host).2 = true) :
    NoTrace session host (startupTask fails session doCmds host).1 ↔
      failsUnpublished fails = true := by
  constructor
  · intro clean
    by_contra late
    exact clean.controlSessions (startupTask_of_published (by simpa using late) failed)
  · intro early
    rw [startupTask_of_failsUnpublished early]
    exact ⟨fresh, rfl, unregistered⟩

/-- The address of the client does not parse. -/
theorem makeAddress_leavesTrace :
    (startupTask (fun call => call = .makeAddress) 7 false {}).2 = true ∧
      ¬ NoTrace 7 {} (startupTask (fun call => call = .makeAddress) 7 false {}).1 :=
  ⟨by decide, fun clean => clean.controlSessions (by decide)⟩

theorem broadcastRef_noTrace :
    NoTrace 7 {} (startupTask (fun call => call = .broadcastRef) 7 false {}).1 :=
  (noTrace_iff (by decide) (by decide) (by decide)).mpr (by decide)

end UmbraHost.Stream.FailedStart
