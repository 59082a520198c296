import UmbraHost.History.Storage
import UmbraHost.Transition.Run

/-! # Session history writer

The command queues and the thread of `session_history_writer.cpp`, from the start
of the thread to its end.  Callers on any threads enqueue commands between the
steps of the writer.  The promises that report back to callers are left out, and
so are the commands of the unit tests. -/

namespace UmbraHost.History

inductive Request (Double : Type) where
  | beginSession (metadata : SessionMetadata)
  | endSession (uuid : String)
  | deleteSession (uuid : String)
  | insertSample (sample : SessionSample Double)
  | insertEvent (event : SessionEvent Double)
  | prune
deriving DecidableEq

structure WriteCmd (Double : Type) where
  sequence : Nat
  request : Request Double
deriving DecidableEq

def isControlCmd : Request Double → Bool
  | .beginSession _ | .endSession _ | .deleteSession _ | .prune => true
  | .insertSample _ | .insertEvent _ => false

structure QueueLimits where
  priorityLimit : Nat := 1024
  controlLimit : Nat := 512
  regularLimit : Nat := 2048
  sampleLimit : Nat := 4096
  sampleBatchSize : Nat := 128

/-- Where the writer's thread stands, with the batch it has taken. -/
inductive Position (Double : Type) where
  | looping
  | draining
  | processing (batch : List (WriteCmd Double))
  | flushing
  | processingRemaining (batch : List (WriteCmd Double))
  | ended

/-- `accepted` and `applied` log the commands that were enqueued and those whose
batch was committed. -/
structure Writer (Double : Type) where
  controlQueue : List (WriteCmd Double) := []
  priorityQueue : List (WriteCmd Double) := []
  regularQueue : List (WriteCmd Double) := []
  sampleQueue : List (WriteCmd Double) := []
  nextSequence : Nat := 0
  running : Bool := true
  position : Position Double := .looping
  tables : Tables Double
  accepted : List (WriteCmd Double) := []
  applied : List (WriteCmd Double) := []

def Writer.started (tables : Tables Double) : Writer Double := { tables }

def Writer.hasPendingCommands (writer : Writer Double) : Bool :=
  !writer.controlQueue.isEmpty || !writer.priorityQueue.isEmpty ||
    !writer.regularQueue.isEmpty || !writer.sampleQueue.isEmpty

def WriteCmd.sessionUuid (cmd : WriteCmd Double) : Option String :=
  match cmd.request with
  | .beginSession metadata => some metadata.uuid
  | .endSession uuid | .deleteSession uuid => some uuid
  | .insertSample sample => some sample.sessionUuid
  | .insertEvent event => some event.sessionUuid
  | .prune => none

/-! ## Queues -/

/-- The samples to extract before a barrier, and the queue without them. -/
def extractOlderSessionSamples (barrier : WriteCmd Double) (queue : List (WriteCmd Double)) :
    List (WriteCmd Double) × List (WriteCmd Double) :=
  match barrier.request with
  | .endSession uuid | .deleteSession uuid =>
      if uuid = "" then ([], queue)
      else queue.partition fun cmd =>
        match cmd.request with
        | .insertSample sample =>
            decide (sample.sessionUuid = uuid) && decide (cmd.sequence < barrier.sequence)
        | _ => false
  | _ => ([], queue)

def extractOlderSessionEvents (barrier : WriteCmd Double) (queue : List (WriteCmd Double)) :
    List (WriteCmd Double) × List (WriteCmd Double) :=
  match barrier.request with
  | .endSession uuid | .deleteSession uuid =>
      if uuid = "" then ([], queue)
      else queue.partition fun cmd =>
        match cmd.request with
        | .insertEvent event =>
            decide (event.sessionUuid = uuid) && decide (cmd.sequence < barrier.sequence)
        | _ => false
  | _ => ([], queue)

/-- A command takes its number before the queue is found full.  Whether the
history is enabled and its database open comes with the call. -/
def enqueue (enabled : Bool) (limits : QueueLimits) (request : Request Double)
    (writer : Writer Double) : Writer Double × Bool :=
  if !(enabled && writer.running) then (writer, false)
  else
    let cmd : WriteCmd Double := ⟨writer.nextSequence, request⟩
    let numbered := { writer with nextSequence := writer.nextSequence + 1 }
    if isControlCmd request then
      if limits.controlLimit ≤ writer.controlQueue.length then (numbered, false)
      else ({ numbered with
        controlQueue := writer.controlQueue ++ [cmd], accepted := writer.accepted ++ [cmd] }, true)
    else match request with
      | .insertSample _ =>
          if limits.sampleLimit ≤ writer.sampleQueue.length then (numbered, false)
          else ({ numbered with
            sampleQueue := writer.sampleQueue ++ [cmd]
            accepted := writer.accepted ++ [cmd] }, true)
      | _ =>
          if limits.priorityLimit ≤ writer.priorityQueue.length then (numbered, false)
          else ({ numbered with
            priorityQueue := writer.priorityQueue ++ [cmd]
            accepted := writer.accepted ++ [cmd] }, true)

/-- The loop over the control queue: the batch, and the samples and events that stay. -/
def drainControls : (controls samples events : List (WriteCmd Double)) →
    List (WriteCmd Double) × List (WriteCmd Double) × List (WriteCmd Double)
  | [], samples, events => ([], samples, events)
  | control :: controls, samples, events =>
      let fromSamples := extractOlderSessionSamples control samples
      let fromEvents := extractOlderSessionEvents control events
      let drained := drainControls controls fromSamples.2 fromEvents.2
      (fromSamples.1 ++ fromEvents.1 ++ control :: drained.1, drained.2)

/-- Takes all but samples, and of the samples the first `takeSamples`. -/
def Writer.take (takeSamples : Nat) (writer : Writer Double) :
    List (WriteCmd Double) × Writer Double :=
  let drained := drainControls writer.controlQueue writer.sampleQueue writer.priorityQueue
  (drained.1 ++ drained.2.2 ++ writer.regularQueue ++ drained.2.1.take takeSamples,
    { writer with
      controlQueue := []
      priorityQueue := []
      regularQueue := []
      sampleQueue := drained.2.1.drop takeSamples })

/-- An empty batch stands for the wait that ran out. -/
def drainQueue (limits : QueueLimits) (writer : Writer Double) :
    List (WriteCmd Double) × Writer Double :=
  if writer.hasPendingCommands then writer.take (max 1 limits.sampleBatchSize)
  else ([], writer)

/-- The drain of the shutdown leaves no sample either. -/
def drainRemaining (writer : Writer Double) : List (WriteCmd Double) × Writer Double :=
  writer.take writer.sampleQueue.length

/-! ## Batches -/

/-- How SQLite answers the statements of a batch. -/
structure BatchOutcome (Double : Type) where
  begins : Bool := true
  succeeds : WriteCmd Double → Bool := fun _ => true
  commits : Bool := true

/-- Every storage command of the batch succeeds. -/
def BatchOutcome.AllSucceed (outcome : BatchOutcome Double) : Prop :=
  outcome.begins = true ∧ (∀ cmd, outcome.succeeds cmd = true) ∧ outcome.commits = true

variable (host : Host Double)

/-- What a command does to the tables when its statements succeed. -/
def effect (cmd : WriteCmd Double) (tables : Tables Double) : Tables Double :=
  match cmd.request with
  | .beginSession metadata => processBegin (host.nowUnix cmd.sequence) metadata tables
  | .endSession uuid => processEnd host.doubles (host.nowUnix cmd.sequence) uuid tables
  | .deleteSession uuid => processDelete uuid tables
  | .insertSample sample => processSample host.doubles maxSamplesPerSession sample tables
  | .insertEvent event => processEvent host.doubles maxEventsPerSession event tables
  | .prune => host.processPrune tables

def applyWriteCmd (outcome : BatchOutcome Double) (tables : Tables Double)
    (cmd : WriteCmd Double) : Option (Tables Double) :=
  if outcome.succeeds cmd then some (effect host cmd tables) else none

/-- Any failure rolls the whole batch back. -/
def processBatch (outcome : BatchOutcome Double) (batch : List (WriteCmd Double))
    (tables : Tables Double) : Tables Double × Bool :=
  if batch.isEmpty then (tables, true)
  else if !outcome.begins then (tables, false)
  else match batch.foldlM (applyWriteCmd host outcome) tables with
    | none => (tables, false)
    | some changed => if outcome.commits then (changed, true) else (tables, false)

def Writer.process (outcome : BatchOutcome Double) (batch : List (WriteCmd Double))
    (writer : Writer Double) : Writer Double :=
  let processed := processBatch host outcome batch writer.tables
  { writer with
    tables := processed.1
    applied := if processed.2 then writer.applied ++ batch else writer.applied }

/-! ## Steps -/

/-- One step of `writer_loop`. -/
def writerLoop (limits : QueueLimits) (outcome : BatchOutcome Double) (writer : Writer Double) :
    Writer Double :=
  match writer.position with
  | .looping => { writer with position := if writer.running then .draining else .flushing }
  | .draining =>
      let drained := drainQueue limits writer
      { drained.2 with
        position := if drained.1.isEmpty then .looping else .processing drained.1 }
  | .processing batch => { writer.process host outcome batch with position := .looping }
  | .flushing =>
      if writer.hasPendingCommands then
        let drained := drainRemaining writer
        { drained.2 with position := .processingRemaining drained.1 }
      else { writer with position := .ended }
  | .processingRemaining batch =>
      { writer.process host outcome batch with position := .flushing }
  | .ended => writer

inductive Action (Double : Type) where
  | enqueue (enabled : Bool) (limits : QueueLimits) (request : Request Double)
  | shutdown
  | write (limits : QueueLimits) (outcome : BatchOutcome Double)

def Writer.step : Action Double → Writer Double → Writer Double
  | .enqueue enabled limits request, writer => (History.enqueue enabled limits request writer).1
  | .shutdown, writer => { writer with running := false }
  | .write limits outcome, writer => writerLoop host limits outcome writer

def Writer.run (actions : List (Action Double)) (writer : Writer Double) : Writer Double :=
  Transition.run (Writer.step host) actions writer

/-- The tables after the commands one by one. -/
def applyAll (cmds : List (WriteCmd Double)) (tables : Tables Double) : Tables Double :=
  Transition.run (effect host) cmds tables

end UmbraHost.History
