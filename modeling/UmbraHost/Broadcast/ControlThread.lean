import Mathlib.Data.List.Basic

/-! # The control thread of a broadcast context

One context of `safe::shared_t<broadcast_ctx_t>`, from the reference that constructs it,
its `controlBroadcastThread`, and the sessions that `session::start` adds to
`control_server._sessions` and `session::join` waits for (`stream.cpp`).  Everything done
while `_sessions` is locked is one step.  Times are in milliseconds. -/

namespace UmbraHost.Broadcast

/-- `state_e`. -/
inductive SessionState where
  | stopped | stopping | starting | running
deriving DecidableEq

/-- How far a session has come in `session::start` and `session::join`. -/
inductive Phase where
  | allocated | referenced | pushed | started | joining | joined | released
deriving DecidableEq

structure Session where
  phase : Phase
  state : SessionState
  pingTimeout : Nat
  peer : Bool
  shutdownEvent : Bool
  controlEnd : Bool
deriving DecidableEq

namespace Session

def allocated : Session := ⟨.allocated, .stopped, 0, false, false, false⟩

/-- The session was added to `_sessions` at some time. -/
def wasPushed (session : Session) : Bool :=
  session.phase ≠ .allocated && session.phase ≠ .referenced

def stop (session : Session) : Session :=
  if session.state = .running then
    { session with state := .stopping, shutdownEvent := true }
  else session

def gracefulStop (session : Session) : Session :=
  if session.state = .running then
    { session with state := .stopping, shutdownEvent := true, controlEnd := true }
  else session

def notify (session : Session) : Session :=
  { session with shutdownEvent := true, controlEnd := true }

end Session

/-- Where the control thread stands. Once `notified` it still holds the lock on `_sessions`. -/
inductive Position where
  | unstarted
  | condition
  | running
  | scan (processRunning : Bool)
  | decide (processRunning hasSessionAwaitingPeer : Bool)
  | iterate
  | terminate
  | notified
  | exited
deriving DecidableEq

/-- What one call of `enet_host_service` brings. -/
inductive Served (Id : Type) where
  | timeout
  | connect (id : Id)
  | receive (id : Id) (stops : Bool)
  | disconnect (id : Id)

structure State (Id : Type) where
  clock : Nat
  /-- `config::stream.ping_timeout`. -/
  pingTimeout : Nat
  processRunning : Bool
  shutdown : Bool
  broadcastShutdown : Bool
  count : Nat
  /-- The references that no session holds. -/
  borrowed : Nat
  sessions : List Id
  session : Id → Session
  processTerminatedSince : Option Nat
  thread : Position

inductive Event (Id : Type) where
  | advance (ticks : Nat)
  | configure (pingTimeout : Nat)
  | process (running : Bool)
  | shutdown
  | borrow
  | giveBack
  | ref (id : Id)
  | push (id : Id)
  | running (id : Id)
  | stop (id : Id)
  | gracefulStop (id : Id)
  | join (id : Id)
  | joined (id : Id)
  | release (id : Id)
  /-- A step of the control thread. `visits` is how many sessions a scan reaches before
  it sees a raised shutdown event. -/
  | control (visits : Nat) (served : Served Id)

def pendingPeerTerminationGrace : Nat := 1000

/-- What the scan makes of a session. -/
inductive Verdict where
  | erased | stopped | awaiting | connected
deriving DecidableEq

def look (now : Nat) (graceOver : Bool) (session : Session) : Session × Verdict :=
  let session := if session.pingTimeout < now then session.stop else session
  if session.state = .stopping then ({ session with controlEnd := true }, .erased)
  else if session.peer then (session, .connected)
  else if graceOver then (session.stop, .stopped)
  else (session, .awaiting)

variable {Id : Type} [DecidableEq Id]

/-- The scan of a list: what is kept of it, the sessions afterwards, and whether one of
them awaits its peer. -/
def scanSessions (now : Nat) (graceOver : Bool) :
    List Id → (Id → Session) → List Id × (Id → Session) × Bool
  | [], session => ([], session, false)
  | id :: rest, session =>
      let looked := look now graceOver (session id)
      let (kept, after, awaiting) :=
        scanSessions now graceOver rest (Function.update session id looked.1)
      (if looked.2 = .erased then kept else id :: kept, after,
        awaiting || looked.2 = .awaiting)

namespace State

variable (state : State Id)

def initial (pingTimeout : Nat) : State Id where
  clock := 0
  pingTimeout := pingTimeout
  processRunning := false
  shutdown := false
  broadcastShutdown := false
  count := 0
  borrowed := 0
  sessions := []
  session _ := Session.allocated
  processTerminatedSince := none
  thread := .unstarted

def modify (id : Id) (change : Session → Session) : State Id :=
  { state with session := Function.update state.session id (change (state.session id)) }

/-- A reference to this context can be taken. The first one starts its threads, and once
the last one is released the context is torn down. -/
def referable : Bool := state.thread = .unstarted || 0 < state.count

def takeRef : State Id :=
  { state with
    count := state.count + 1
    thread := if state.thread = .unstarted then .condition else state.thread }

/-- The last release runs `end_broadcast`. -/
def dropRef : State Id :=
  { state with
    count := state.count - 1
    broadcastShutdown := state.broadcastShutdown || state.count = 1 }

def terminatedSince (processRunning : Bool) : Option Nat :=
  if processRunning then none
  else some (state.processTerminatedSince.getD state.clock)

def graceOver (processRunning : Bool) : Bool :=
  !processRunning && (state.terminatedSince processRunning).any fun since =>
    pendingPeerTerminationGrace ≤ state.clock - since

/-- The sessions that a scan reaches. -/
def reached (visits : Nat) : Nat :=
  if state.shutdown || state.broadcastShutdown then visits else state.sessions.length

def scan (visits : Nat) (processRunning : Bool) : State Id :=
  let (kept, session, awaiting) := scanSessions state.clock (state.graceOver processRunning)
    (state.sessions.take (state.reached visits)) state.session
  { state with
    processTerminatedSince := state.terminatedSince processRunning
    sessions := kept ++ state.sessions.drop (state.reached visits)
    session := session
    thread := .decide processRunning awaiting }

/-- `control_server_t::iterate` of a session that `get_session` finds. -/
def serve : Served Id → State Id
  | .timeout => state
  | .connect id =>
    if id ∈ state.sessions ∧ (state.session id).peer = false then
      state.modify id fun session =>
        { session with peer := true, pingTimeout := state.clock + state.pingTimeout }
    else state
  | .receive id stops =>
    if id ∈ state.sessions ∧ (state.session id).peer = true then
      state.modify id fun session =>
        let session := { session with pingTimeout := state.clock + state.pingTimeout }
        if stops then session.stop else session
    else state
  | .disconnect id =>
    if id ∈ state.sessions ∧ (state.session id).peer = true then
      state.modify id fun session =>
        { session with pingTimeout := state.clock + state.pingTimeout }.stop
    else state

def controlStep (visits : Nat) (served : Served Id) : State Id :=
  match state.thread with
  | .unstarted | .exited => state
  | .condition =>
    { state with
      thread := if state.shutdown || state.broadcastShutdown then .terminate else .running }
  | .running => { state with thread := .scan state.processRunning }
  | .scan processRunning => state.scan visits processRunning
  | .decide processRunning awaiting =>
    { state with thread := if !processRunning && !awaiting then .terminate else .iterate }
  | .iterate => { state.serve served with thread := .condition }
  | .terminate =>
    { state with
      session := fun id =>
        if id ∈ state.sessions then (state.session id).notify else state.session id
      thread := .notified }
  | .notified => { state with thread := .exited }

/-- An event that cannot happen in a state changes nothing. -/
def step (event : Event Id) (state : State Id) : State Id :=
  match event with
  | .advance ticks => { state with clock := state.clock + ticks }
  | .configure pingTimeout => { state with pingTimeout := pingTimeout }
  | .process running => { state with processRunning := running }
  | .shutdown => { state with shutdown := true }
  | .borrow =>
    if state.referable then { state.takeRef with borrowed := state.borrowed + 1 } else state
  | .giveBack =>
    if 0 < state.borrowed then { state.dropRef with borrowed := state.borrowed - 1 } else state
  | .ref id =>
    if (state.session id).phase = .allocated ∧ state.referable then
      state.takeRef.modify id fun session => { session with phase := .referenced }
    else state
  | .push id =>
    if (state.session id).phase = .referenced ∧ state.thread ≠ .notified then
      { state.modify id (fun session => { session with phase := .pushed }) with
        sessions := state.sessions ++ [id] }
    else state
  | .running id =>
    if (state.session id).phase = .pushed then
      state.modify id fun session =>
        { session with
          phase := .started, state := .running
          pingTimeout := state.clock + state.pingTimeout }
    else state
  | .stop id => state.modify id Session.stop
  | .gracefulStop id => state.modify id Session.gracefulStop
  | .join id =>
    if (state.session id).phase = .started then
      state.modify id fun session => { session with phase := .joining }
    else state
  -- `controlEnd.view()` returns
  | .joined id =>
    if (state.session id).phase = .joining ∧ (state.session id).controlEnd = true then
      state.modify id fun session => { session with phase := .joined }
    else state
  | .release id =>
    if (state.session id).phase = .joined then
      state.dropRef.modify id fun session => { session with phase := .released }
    else state
  | .control visits served => state.controlStep visits served

end State

end UmbraHost.Broadcast
