import UmbraHost.Transition.Run

/-! # The shared streaming runtime

Its owners, `finalize_shared_runtime_if_idle` of `stream.cpp` and the sections of `rtsp.cpp`
and `stream.cpp` that raise and release an owner.  A section under `stream_lifecycle_mutex` is
one step, and so is a change of an owner outside it.  WebRTC is a counter. -/

namespace UmbraHost.SharedRuntime

abbrev Guid := List UInt8

def Guid.isSet (guid : Guid) : Bool := guid.any (· ≠ 0)

/-- The last one that is set, as the loops over the launches pick it. -/
def lastGuid (guids : List Guid) : Option Guid := (guids.filter Guid.isSet).getLast?

/-! ## Owners -/

/-- A `launch_session_entry_t`. -/
structure Launch where
  id : UInt32
  uniqueId : String
  clientUuid : String
  guid : Guid
  expiresAt : Nat
  accepted : Bool
  remoteAddress : String

structure Session where
  clientUuid : String
  guid : Guid
  stopping : Bool

structure Owners where
  launches : List Launch
  /-- `startup_tasks`. -/
  startupTasks : Nat
  /-- The tasks of the startup pool. -/
  queued : List Launch
  /-- The calls of `finish_startup` that are still to run. -/
  finishing : List Guid
  /-- `_session_state->sessions`. -/
  sessions : List Session
  /-- Taken out of the set, to be stopped and joined. -/
  taken : List Session
  /-- In `join`, before its last section. -/
  joining : List Session
  runningSessions : Nat
  teardownSessions : Nat
  webrtcOwners : Nat

namespace Owners

def none : Owners := ⟨[], 0, [], [], [], [], [], 0, 0, 0⟩

variable (owners : Owners)

def hasPendingLaunchOrStartup : Bool := owners.launches ≠ [] || 0 < owners.startupTasks

def hasSharedRuntimeOwner (ignoreCurrentRtspTeardown : Bool) : Bool :=
  owners.hasPendingLaunchOrStartup || 0 < owners.sessions.length ||
    owners.runningSessions ≠ 0 ||
    (if ignoreCurrentRtspTeardown then 1 else 0) < owners.teardownSessions ||
    owners.webrtcOwners ≠ 0

def hasLaunchSession (id : UInt32) (uniqueId : String) (now : Nat) : Bool :=
  owners.launches.any fun entry =>
    entry.id = id && entry.uniqueId = uniqueId && now < entry.expiresAt

/-- `expire_launch_sessions_locked`, with the display of each launch that expired. -/
def expireLaunchSessions (now : Nat) : Owners × List Guid :=
  ({ owners with launches := owners.launches.filter fun entry => now < entry.expiresAt },
    (owners.launches.filter fun entry => entry.expiresAt ≤ now).map Launch.guid)

/-- The first entry that is not accepted becomes so. -/
def accept (remoteAddress : String) : List Launch → List Launch
  | [] => []
  | entry :: rest =>
    if entry.accepted then entry :: accept remoteAddress rest
    else { entry with accepted := true, remoteAddress } :: rest

/-- The entry that a connection reuses, or else takes. -/
def reserve (remoteAddress : String) : Owners × Option Launch :=
  let reused := owners.launches.find? fun entry =>
    remoteAddress ≠ "" && entry.accepted && entry.remoteAddress = remoteAddress
  match reused with
  | some entry => (owners, entry)
  | Option.none =>
    ({ owners with launches := accept remoteAddress owners.launches },
      owners.launches.find? fun entry => !entry.accepted)

/-- The sessions that `clear` or `disconnect_client` removes from the set. -/
def take (selected : Session → Bool) : Owners :=
  { owners with
    sessions := owners.sessions.filter fun session => !selected session
    taken := owners.taken ++ owners.sessions.filter selected }

end Owners

/-! ## The runtime -/

/-- What the finalizer reads of the process and the configuration. -/
structure Host where
  currentAppId : Int
  deferredDisplayRevert : Bool
  configRevertOnDisconnect : Bool
  pausedVirtualDisplayTimeout : Int

inductive DisplayCleanup where
  | scheduled (seconds : Int) (guid : Option Guid)
  | kept
  | reverted
  | removed (reason : String) (guid : Option Guid)
deriving DecidableEq

structure FinalizeContext where
  reason : String
  ignoreCurrentRtspTeardown : Bool
  forceDisplayRevertWhenIdle : Bool
  guid : Option Guid

structure Runtime where
  /-- `shared_runtime_cleanup_armed`. -/
  armed : Bool
  platformStarted : Bool
  forceDisplayRevertWhenIdle : Bool
  guid : Option Guid
  /-- A start waits for the user session. -/
  deferredStart : Bool
  /-- What the finalizer did to the displays so far. -/
  cleanups : List DisplayCleanup

namespace Runtime

def initial : Runtime := ⟨false, false, false, none, false, []⟩

variable (runtime : Runtime)

/-- `arm_shared_runtime_cleanup`. -/
def arm (guid : Option Guid) : Runtime :=
  { runtime with
    armed := true
    guid := if guid.any Guid.isSet then guid else runtime.guid }

def startSharedPlatformIfNeeded : Runtime := { runtime.arm none with platformStarted := true }

def displayCleanup (host : Host) (reason : String) : DisplayCleanup :=
  let isPaused := 0 < host.currentAppId
  let timeout := max 0 host.pausedVirtualDisplayTimeout
  let restore := host.configRevertOnDisconnect || (!isPaused && host.deferredDisplayRevert) ||
    (!isPaused && runtime.forceDisplayRevertWhenIdle)
  if isPaused && !restore && 0 < timeout then .scheduled timeout runtime.guid
  else if isPaused && !restore && timeout = 0 then .kept
  else if restore then .reverted
  else .removed (if isPaused then "shared_runtime_paused" else reason) runtime.guid

/-- `finalize_shared_runtime_if_idle`. -/
def finalizeIfIdle (host : Host) (context : FinalizeContext) (owners : Owners) : Runtime × Bool :=
  if runtime.armed = false then (runtime, false)
  else
    let runtime := { runtime.arm context.guid with
      forceDisplayRevertWhenIdle :=
        runtime.forceDisplayRevertWhenIdle || context.forceDisplayRevertWhenIdle }
    if owners.hasSharedRuntimeOwner context.ignoreCurrentRtspTeardown then (runtime, false)
    else
      ({ armed := false
         platformStarted := false
         forceDisplayRevertWhenIdle := false
         guid := none
         deferredStart := false
         cleanups := runtime.cleanups ++ [runtime.displayCleanup host context.reason] }, true)

end Runtime

/-! ## Sections -/

structure State where
  owners : Owners
  runtime : Runtime

def State.initial : State := ⟨.none, .initial⟩

/-- Finalizes with the owners that are left. -/
def State.finalize (state : State) (host : Host) (reason : String) (guid : Option Guid) :
    State × Bool :=
  let (runtime, finalized) :=
    state.runtime.finalizeIfIdle host ⟨reason, false, false, guid⟩ state.owners
  (⟨state.owners, runtime⟩, finalized)

/-- How `stream::session::start` ends in the startup worker. -/
inductive Start where
  /-- With an error, before the session runs. -/
  | failed
  | started
  /-- The actions of the first session wait for the user session. -/
  | deferred

inductive Event where
  /-- `arm_shared_runtime_cleanup` and `session_raise` of a launch or a resume. -/
  | sessionRaise (entry : Launch)
  | reserveLaunchSession (remoteAddress : String) (now : Nat) (host : Host)
  | armLaunchTimer (now : Nat) (host : Host)
  | sessionClear (id : UInt32) (host : Host)
  | cancelPendingLaunches (host : Host)
  /-- `startup_tasks` is raised and the task pushed, or refused by the pool. -/
  | runStartup (launch : Launch) (pushed : Bool)
  /-- The section of the next task of the pool; `start` also publishes the session. -/
  | startupWorker (now : Nat) (start : Start)
  | finishStartup (index : Nat) (host : Host)
  /-- `apply_deferred_stream_start_actions_if_ready`. -/
  | applyDeferredStart
  | stop (index : Nat)
  | clear (all : Bool)
  | disconnectClient (clientUuid : String)
  /-- `join` up to its last section. -/
  | join (index : Nat)
  | joined (index : Nat) (host : Host)
  | webrtcRaise (guid : Guid) (startPlatform : Bool)
  | webrtcRelease (guid : Guid) (host : Host)

namespace State

variable (state : State)

def sessionRaise (entry : Launch) : State where
  owners := { state.owners with launches := state.owners.launches ++ [entry] }
  runtime := state.runtime.arm (some entry.guid)

/-- The end of a section that has let launches expire. -/
def expired (guids : List Guid) (host : Host) : State × Bool :=
  if guids = [] then (state, false)
  else state.finalize host "rtsp_launch_timeout" (lastGuid guids)

def reserveLaunchSession (remoteAddress : String) (now : Nat) (host : Host) : State × Bool :=
  let (owners, guids) := state.owners.expireLaunchSessions now
  State.expired ⟨(owners.reserve remoteAddress).1, state.runtime⟩ guids host

def armLaunchTimer (now : Nat) (host : Host) : State × Bool :=
  let (owners, guids) := state.owners.expireLaunchSessions now
  State.expired ⟨owners, state.runtime⟩ guids host

def sessionClear (id : UInt32) (host : Host) : State × Bool :=
  let cleared := state.owners.launches.filter fun entry => entry.id = id
  let owners := { state.owners with
    launches := state.owners.launches.filter fun entry => entry.id ≠ id }
  if cleared = [] then (state, false)
  else State.finalize ⟨owners, state.runtime⟩ host "rtsp_launch_attached"
    (lastGuid (cleared.map Launch.guid))

def cancelPendingLaunches (host : Host) : State × Bool :=
  if state.owners.launches = [] then (state, false)
  else State.finalize ⟨{ state.owners with launches := [] }, state.runtime⟩ host
    "rtsp_sessions_terminated" (lastGuid (state.owners.launches.map Launch.guid))

def runStartup (launch : Launch) (pushed : Bool) : State where
  owners := { state.owners with
    startupTasks := state.owners.startupTasks + 1
    queued := if pushed then state.owners.queued ++ [launch] else state.owners.queued
    finishing :=
      if pushed then state.owners.finishing else state.owners.finishing ++ [launch.guid] }
  runtime := state.runtime

/-- `session::start` and the `insert` after it. -/
def startSession (launch : Launch) (deferred : Bool) : State where
  owners := { state.owners with
    runningSessions := state.owners.runningSessions + 1
    sessions := state.owners.sessions ++ [⟨launch.clientUuid, launch.guid, false⟩] }
  runtime :=
    if state.owners.runningSessions ≠ 0 then state.runtime
    else if deferred then { state.runtime with deferredStart := true }
    else state.runtime.startSharedPlatformIfNeeded

def startupWorker (now : Nat) (start : Start) : State :=
  match state.owners.queued with
  | [] => state
  | launch :: queued =>
    let posted : State := { state with
      owners := { state.owners with
        queued, finishing := state.owners.finishing ++ [launch.guid] } }
    if state.owners.hasLaunchSession launch.id launch.uniqueId now = false then posted
    else
      match start with
      | .failed => posted
      | .started => posted.startSession launch false
      | .deferred => posted.startSession launch true

def finishStartup (index : Nat) (host : Host) : State × Bool :=
  match state.owners.finishing[index]? with
  | none => (state, false)
  | some guid =>
    State.finalize
      ⟨{ state.owners with
        startupTasks := state.owners.startupTasks - 1
        finishing := state.owners.finishing.eraseIdx index }, state.runtime⟩
      host "rtsp_startup_finished" (some guid)

def applyDeferredStart : State :=
  if state.runtime.deferredStart = false then state
  else
    let runtime := { state.runtime with deferredStart := false }
    if state.owners.runningSessions = 0 then { state with runtime }
    else { state with runtime := runtime.startSharedPlatformIfNeeded }

def stop (index : Nat) : State :=
  { state with
    owners := { state.owners with
      sessions := state.owners.sessions.modify index fun session =>
        { session with stopping := true } } }

def join (index : Nat) : State :=
  match state.owners.taken[index]? with
  | none => state
  | some session =>
    { state with
      owners := { state.owners with
        taken := state.owners.taken.eraseIdx index
        joining := state.owners.joining ++ [{ session with stopping := true }]
        teardownSessions := state.owners.teardownSessions + 1 } }

/-- The last section of `join`; its teardown counts until the lock is released. -/
def joined (index : Nat) (host : Host) : State × Bool :=
  match state.owners.joining[index]? with
  | none => (state, false)
  | some session =>
    let owners := { state.owners with
      joining := state.owners.joining.eraseIdx index
      runningSessions := state.owners.runningSessions - 1 }
    let (runtime, finalized) :=
      if owners.runningSessions = 0 then
        { state.runtime with deferredStart := false }.finalizeIfIdle host
          ⟨"rtsp_session_end", true, false, some session.guid⟩ owners
      else (state.runtime, false)
    (⟨{ owners with teardownSessions := owners.teardownSessions - 1 }, runtime⟩, finalized)

def webrtcRaise (guid : Guid) (startPlatform : Bool) : State where
  owners := { state.owners with webrtcOwners := state.owners.webrtcOwners + 1 }
  runtime :=
    let runtime := state.runtime.arm (some guid)
    if startPlatform then runtime.startSharedPlatformIfNeeded else runtime

def webrtcRelease (guid : Guid) (host : Host) : State × Bool :=
  if state.owners.webrtcOwners = 0 then (state, false)
  else
    let owners := { state.owners with webrtcOwners := state.owners.webrtcOwners - 1 }
    if owners.webrtcOwners ≠ 0 then (⟨owners, state.runtime⟩, false)
    else
      let (runtime, finalized) := state.runtime.finalizeIfIdle host
        ⟨"webrtc_capture_stop", false, true, some guid⟩ owners
      (⟨owners, runtime⟩, finalized)

end State

/-- The state after an event, and whether the shared runtime was finalized in it. -/
def perform (event : Event) (state : State) : State × Bool :=
  match event with
  | .sessionRaise entry => (state.sessionRaise entry, false)
  | .reserveLaunchSession remoteAddress now host =>
    state.reserveLaunchSession remoteAddress now host
  | .armLaunchTimer now host => state.armLaunchTimer now host
  | .sessionClear id host => state.sessionClear id host
  | .cancelPendingLaunches host => state.cancelPendingLaunches host
  | .runStartup launch pushed => (state.runStartup launch pushed, false)
  | .startupWorker now start => (state.startupWorker now start, false)
  | .finishStartup index host => state.finishStartup index host
  | .applyDeferredStart => (state.applyDeferredStart, false)
  | .stop index => (state.stop index, false)
  | .clear all =>
    ({ state with owners := state.owners.take fun session => all || session.stopping }, false)
  | .disconnectClient clientUuid =>
    (if clientUuid = "" then state
      else { state with
        owners := state.owners.take fun session => session.clientUuid = clientUuid }, false)
  | .join index => (state.join index, false)
  | .joined index host => state.joined index host
  | .webrtcRaise guid startPlatform => (state.webrtcRaise guid startPlatform, false)
  | .webrtcRelease guid host => state.webrtcRelease guid host

def step (event : Event) (state : State) : State := (perform event state).1

/-- `finalize_shared_runtime_if_idle` returned true in the step. -/
def finalizes (event : Event) (state : State) : Bool := (perform event state).2

end UmbraHost.SharedRuntime
