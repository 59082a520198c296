import UmbraHost.Tables.EraseIf
import UmbraHost.Transition.Run
import Mathlib.Data.Finset.Basic

/-! # The registry of recovery monitors

`monitor_registry_t` (`virtual_display_recovery_registry.h`) with any number of calling
threads, its workers and its reaper.  Every section under `mutex_` is one step, and so is
every wait and every join that ends; a thread that still has to wait stays where it is.  The
gate `scheduling_mutex_` is held across steps, so it is part of the state. -/

namespace UmbraHost.VirtualDisplay.MonitorRegistry

open UmbraHost.Transition UmbraHost.Tables

variable {Key : Type u} {Thread : Type v}

/-- `entry_t`.  The pointer to an entry is told by the worker that was started for it. -/
structure Entry (Thread : Type v) where
  worker : Thread
  finished : Bool := false
deriving DecidableEq

inductive Phase where
  | running
  /-- `mark_finished` has run. -/
  | finished
  | ended
  /-- A `join` of the thread has returned. -/
  | joined
deriving DecidableEq

/-- A thread the registry has started, with the stop state that its `std::jthread` shares. -/
structure Started (Key : Type u) where
  /-- The key of a worker; the reaper has none. -/
  key : Option Key
  stopRequested : Bool := false
  phase : Phase := .running
deriving DecidableEq

/-- What a thread is about to do in the registry. -/
inductive Activity (Key : Type u) (Thread : Type v) where
  | idle
  /-- `start`, in its wait for the key's transition. -/
  | waiting (key : Key)
  /-- `start`, before it takes the gate. -/
  | gating (key : Key)
  /-- `start`, with the gate and the latch still open. -/
  | publishing (key : Key)
  /-- `start` or the reaper, joining the worker it has taken from the key's entry. -/
  | joining (key : Key) (worker : Thread) (reaps : Bool)
  | finishingTransition (key : Key) (reaps : Bool)
  /-- `request_shutdown`, before it takes the gate. -/
  | shuttingDown (joins : Bool)
  /-- `request_shutdown`, with the gate and the latch closed. -/
  | stoppingAll (joins : Bool)
  | checkingOwner
  | takingReaper
  | joiningReaper (reaper : Thread)
  | awaitingTransitions
  | draining
  | joiningDrained (worker : Thread)
  | reaping
deriving DecidableEq

/-- The transition the thread has to finish. -/
def Activity.claim : Activity Key Thread → Option Key
  | .joining key _ _ | .finishingTransition key _ => some key
  | _ => none

/-- The worker the thread has taken out of the table. -/
def Activity.taken : Activity Key Thread → Option Thread
  | .joining _ worker _ | .joiningDrained worker => some worker
  | _ => none

structure State (Key : Type u) (Thread : Type v) where
  entries : Table Key (Entry Thread) := ∅
  transitions : Finset Key := ∅
  /-- Who holds the gate. -/
  schedulingMutex : Option Thread := none
  reaper : Option Thread := none
  shutdownRequested : Bool := false
  /-- Some `request_shutdown` has returned. -/
  shutdownPublished : Bool := false
  started : Thread → Option (Started Key) := fun _ => none
  activity : Thread → Activity Key Thread := fun _ => .idle

/-- What a call of the registry asks for. -/
inductive Request (Key : Type u) where
  | start (key : Key)
  | requestStop (key : Key)
  | requestStopAll
  | requestShutdown
  | joinAll
deriving DecidableEq

/-- What throws while `start` makes a worker. -/
inductive Failure where
  | allocation
  | reaper
  | worker
deriving DecidableEq

/-- What the state leaves open: the ids of the threads that a section starts, what fails in
it, and the entry that its look through the table comes to. -/
structure Choice (Key : Type u) (Thread : Type v) where
  worker : Thread
  reaper : Thread
  failure : Option Failure := none
  key : Key
deriving DecidableEq

inductive Event (Key : Type u) (Thread : Type v) where
  | call (thread : Thread) (request : Request Key)
  /-- The thread goes on with what it is about to do. -/
  | proceed (thread : Thread) (choice : Choice Key Thread)
  /-- A worker's callback returns or throws, and the worker marks its entry. -/
  | finishWorker (thread : Thread)
  /-- A thread that has done all its work ends. -/
  | exit (thread : Thread)

variable [DecidableEq Key] [DecidableEq Thread]

namespace State

def moveTo (thread : Thread) (activity : Activity Key Thread) (state : State Key Thread) :
    State Key Thread :=
  { state with activity := Function.update state.activity thread activity }

def mapStarted (change : Thread → Started Key → Started Key) (state : State Key Thread) :
    State Key Thread :=
  { state with started := fun thread => (state.started thread).map (change thread) }

/-- `request_stop` of the chosen threads. -/
def stopWhere (chosen : Thread → Bool) : State Key Thread → State Key Thread :=
  mapStarted fun thread started =>
    if chosen thread then { started with stopRequested := true } else started

def stop (thread : Thread) : State Key Thread → State Key Thread :=
  stopWhere fun other => other = thread

def setPhase (thread : Thread) (phase : Phase) : State Key Thread → State Key Thread :=
  mapStarted fun other started => if other = thread then { started with phase } else started

def stopRequested (thread : Thread) (state : State Key Thread) : Bool :=
  (state.started thread).any (·.stopRequested)

/-- The thread is the worker of some entry. -/
def ownsEntry (state : State Key Thread) (thread : Thread) : Bool :=
  state.entries.entries.any fun entry => entry.2.worker = thread

def calledFromOwnedThread (caller : Thread) (state : State Key Thread) : Bool :=
  state.reaper = some caller || state.ownsEntry caller

/-- No thread of the registry has the id. -/
def fresh (thread : Thread) (state : State Key Thread) : Bool :=
  (state.started thread).isNone && state.activity thread = .idle

/-- The thread can call the registry: it is in no other call and has not finished. -/
def free (thread : Thread) (state : State Key Thread) : Bool :=
  state.activity thread = .idle && (state.started thread).all (·.phase = .running)

/-- The thread that holds the gate lets go of it. -/
def openGate (state : State Key Thread) : State Key Thread :=
  { state with schedulingMutex := none }

/-! ## `start` -/

/-- The wait: the predicate first asks for the latch. -/
def awaitTurn (thread : Thread) (key : Key) (state : State Key Thread) : State Key Thread :=
  if state.shutdownRequested then state.moveTo thread .idle
  else if key ∈ state.transitions then state
  else state.moveTo thread (.gating key)

def takeGate (thread : Thread) (key : Key) (state : State Key Thread) : State Key Thread :=
  if state.schedulingMutex.isSome then state
  else if state.shutdownRequested then state.moveTo thread .idle
  else { state with schedulingMutex := some thread }.moveTo thread (.publishing key)

/-- An entry leaves the table for a thread that joins its worker.  The key is in transition
until that thread is done. -/
def beginTransition (thread : Thread) (key : Key) (worker : Thread) (reaps : Bool)
    (state : State Key Thread) : State Key Thread :=
  { state with
    entries := state.entries.erase key
    transitions := insert key state.transitions }.moveTo thread (.joining key worker reaps)

def ensureReaper (reaper : Thread) (state : State Key Thread) : State Key Thread :=
  if state.reaper.isSome then state
  else
    { state with
      reaper := some reaper
      started := Function.update state.started reaper (some { key := none }) }.moveTo reaper
        .reaping

/-- A worker starts and is visible. -/
def emplace (key : Key) (worker : Thread) (state : State Key Thread) : State Key Thread :=
  { state with
    entries := state.entries.insert key { worker }
    started := Function.update state.started worker (some { key := some key }) }

/-- An entry of the key is in the table. -/
def supersede (thread : Thread) (key : Key) (worker : Thread) (state : State Key Thread) :
    State Key Thread :=
  let state := state.stop worker
  -- a callback does not replace its own worker
  if worker = thread then state.moveTo thread .idle
  else state.beginTransition thread key worker false

/-- The key has no entry. -/
def spawn (thread : Thread) (key : Key) (choice : Choice Key Thread) (state : State Key Thread) :
    State Key Thread :=
  if choice.failure = some .allocation then state.moveTo thread .idle
  else if choice.failure = some .reaper && state.reaper.isNone then state.moveTo thread .idle
  else
    let state := state.ensureReaper choice.reaper
    if choice.failure = some .worker then state.moveTo thread .idle
    else (state.emplace key choice.worker).moveTo thread .idle

/-- The section under the gate and `mutex_`. -/
def publish (thread : Thread) (key : Key) (choice : Choice Key Thread)
    (state : State Key Thread) : State Key Thread :=
  openGate <|
    if key ∈ state.transitions then state.moveTo thread (.waiting key)
    else
      match state.entries.lookup key with
      | some existing => state.supersede thread key existing.worker
      | none => state.spawn thread key choice

/-- The ids of the threads that `publish` may start are new. -/
def admits (choice : Choice Key Thread) (state : State Key Thread) : Bool :=
  state.fresh choice.worker && state.fresh choice.reaper && choice.worker ≠ choice.reaper

/-! ## Joins -/

/-- A join returns when its thread has ended. -/
def join (thread target : Thread) (next : Activity Key Thread) (state : State Key Thread) :
    State Key Thread :=
  if (state.started target).any (·.phase = .ended) then
    (state.setPhase target .joined).moveTo thread next
  else state

def finishTransition (thread : Thread) (key : Key) (next : Activity Key Thread)
    (state : State Key Thread) : State Key Thread :=
  { state with transitions := state.transitions.erase key }.moveTo thread next

/-! ## Shutdown -/

def latch (thread : Thread) (joins : Bool) (state : State Key Thread) : State Key Thread :=
  if state.schedulingMutex.isSome then state
  else
    { state with
      schedulingMutex := some thread
      shutdownRequested := true }.moveTo thread (.stoppingAll joins)

def requestStopAll (state : State Key Thread) : State Key Thread :=
  state.stopWhere state.ownsEntry

def publishShutdown (thread : Thread) (joins : Bool) (state : State Key Thread) :
    State Key Thread :=
  let state := { state.requestStopAll with shutdownPublished := true }
  openGate (state.moveTo thread (if joins then .checkingOwner else .idle))

def checkOwner (thread : Thread) (state : State Key Thread) : State Key Thread :=
  state.moveTo thread (if state.calledFromOwnedThread thread then .idle else .takingReaper)

/-- The reaper moves out of the registry. -/
def releaseReaper (state : State Key Thread) : State Key Thread :=
  { state with reaper := none }

def takeReaper (thread : Thread) (state : State Key Thread) : State Key Thread :=
  match state.reaper with
  | some reaper => (state.stop reaper).releaseReaper.moveTo thread (.joiningReaper reaper)
  | none => state.moveTo thread .awaitingTransitions

def awaitTransitions (thread : Thread) (state : State Key Thread) : State Key Thread :=
  if state.transitions = ∅ then state.moveTo thread .draining else state

/-- The entry that `begin` comes to is drained. -/
def drain (thread : Thread) (key : Key) (state : State Key Thread) : State Key Thread :=
  if state.entries.entries = [] then state.moveTo thread .idle
  else
    match state.entries.lookup key with
    | some entry =>
      let state := state.stop entry.worker
      { state with entries := state.entries.erase key }.moveTo thread
        (.joiningDrained entry.worker)
    | none => state

/-! ## The reaper -/

/-- One round of the reaper up to its join. -/
def reap (thread : Thread) (key : Key) (state : State Key Thread) : State Key Thread :=
  if state.stopRequested thread then (state.setPhase thread .finished).moveTo thread .idle
  else
    match state.entries.lookup key with
    | some entry =>
      if entry.finished then state.beginTransition thread key entry.worker true else state
    | none => state

/-! ## Steps -/

def call (thread : Thread) (request : Request Key) (state : State Key Thread) :
    State Key Thread :=
  match request with
  | .start key => state.moveTo thread (.waiting key)
  | .requestStop key => state.stopWhere fun other =>
    (state.entries.lookup key).any fun entry => entry.worker = other
  | .requestStopAll => state.requestStopAll
  | .requestShutdown => state.moveTo thread (.shuttingDown false)
  | .joinAll => state.moveTo thread (.shuttingDown true)

def proceed (thread : Thread) (choice : Choice Key Thread) (state : State Key Thread) :
    State Key Thread :=
  match state.activity thread with
  | .idle => state
  | .waiting key => state.awaitTurn thread key
  | .gating key => state.takeGate thread key
  | .publishing key => if state.admits choice then state.publish thread key choice else state
  | .joining key worker reaps => state.join thread worker (.finishingTransition key reaps)
  | .finishingTransition key reaps =>
    state.finishTransition thread key (if reaps then .reaping else .waiting key)
  | .shuttingDown joins => state.latch thread joins
  | .stoppingAll joins => state.publishShutdown thread joins
  | .checkingOwner => state.checkOwner thread
  | .takingReaper => state.takeReaper thread
  | .joiningReaper reaper => state.join thread reaper .awaitingTransitions
  | .awaitingTransitions => state.awaitTransitions thread
  | .draining => state.drain thread choice.key
  | .joiningDrained worker => state.join thread worker .draining
  | .reaping => state.reap thread choice.key

/-- A worker marks the entry it was started for, if that is still in the table. -/
def markFinished (thread : Thread) (key : Key) (state : State Key Thread) : State Key Thread :=
  match state.entries.lookup key with
  | some entry =>
    if entry.worker = thread then
      { state with entries := state.entries.insert key { entry with finished := true } }
    else state
  | none => state

/-- The callback of a worker has returned or thrown. -/
def finishWorker (thread : Thread) (state : State Key Thread) : State Key Thread :=
  match (state.started thread).bind (·.key) with
  | some key =>
    if state.free thread then (state.setPhase thread .finished).markFinished thread key else state
  | none => state

def step (event : Event Key Thread) (state : State Key Thread) : State Key Thread :=
  match event with
  | .call thread request => if state.free thread then state.call thread request else state
  | .proceed thread choice => state.proceed thread choice
  | .finishWorker thread => state.finishWorker thread
  | .exit thread =>
    if (state.started thread).any (·.phase = .finished) then state.setPhase thread .ended
    else state

end State

end UmbraHost.VirtualDisplay.MonitorRegistry
