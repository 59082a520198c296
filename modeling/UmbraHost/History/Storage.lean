import Mathlib.Algebra.Group.Nat.Defs
import Mathlib.Algebra.Group.Int.Defs
import UmbraHost.Tables.AutoIncrement
import UmbraHost.Tables.EraseIf

/-! # Session history tables

The three tables of the session history and the commands that change them
(`session_history_storage.cpp`), as they act when every statement succeeds.  The
double-precision operations of the host are a parameter; pruning, which reads
the size of the database file, is one too. -/

namespace UmbraHost.History

open UmbraHost.Tables

/-- The operations on `double` that the history uses. -/
structure Doubles (Double : Type) where
  ofInt : Int → Double
  sub : Double → Double → Double
  div : Double → Double → Double
  lt : Double → Double → Bool
  /-- `0.05` -/
  lossLimit : Double
  lt_irrefl : ∀ value, lt value value = false

structure SessionMetadata where
  uuid : String
  protocol : String
  clientName : String
  deviceName : String
  appName : String
  width : Int
  height : Int
  targetFps : Int
  encoderBitrateKbps : Int
  requestedBitrateKbps : Int
  codec : String
  hdr : Bool
  yuv444 : Bool
  audioChannels : Int
  serverVersion : String
  hostCpuModel : String
  hostGpuModel : String
  streamGpuModel : String
deriving DecidableEq

structure SessionSample (Double : Type) where
  sessionUuid : String
  timestampUnix : Double
  bytesSentTotal : Nat
  packetsSentVideo : Nat
  framesSent : Nat
  lastFrameIndex : Int
  videoDropped : Nat
  audioDropped : Nat
  clientReportedLosses : Int
  idrRequests : Nat
  refInvalidations : Nat
  encodeLatencyMs : Double
  actualFps : Double
  actualBitrateKbps : Double
  frameIntervalJitterMs : Double
  hostCpuPercent : Double
  hostGpuPercent : Double
  hostGpuEncoderPercent : Double
  hostRamPercent : Double
  hostVramPercent : Double
  hostCpuTempC : Double
  hostGpuTempC : Double
  hostNetRxBps : Double
  hostNetTxBps : Double
deriving DecidableEq

structure SessionEvent (Double : Type) where
  sessionUuid : String
  timestampUnix : Double
  eventType : String
  payload : String
deriving DecidableEq

inductive Verdict where
  | unknown | healthy | degraded | failed
deriving DecidableEq

structure SessionRow (Double : Type) where
  metadata : SessionMetadata
  startTimeUnix : Double
  endTimeUnix : Option Double
  durationSeconds : Option Double
  verdict : Verdict
deriving DecidableEq

structure Tables (Double : Type) where
  sessions : Table String (SessionRow Double)
  samples : AutoTable (SessionSample Double)
  events : AutoTable (SessionEvent Double)

def Tables.empty : Tables Double := ⟨∅, .empty, .empty⟩

/-- What the history gets from its host. -/
structure Host (Double : Type) where
  doubles : Doubles Double
  /-- What `now_unix` reads while the command of a sequence number is applied. -/
  nowUnix : Nat → Double
  processPrune : Tables Double → Tables Double

def maxSamplesPerSession : Nat := 7200

def maxEventsPerSession : Nat := 2000

def sampleOf (uuid : String) (sample : SessionSample Double) : Bool :=
  decide (sample.sessionUuid = uuid)

def eventOf (uuid : String) (event : SessionEvent Double) : Bool :=
  decide (event.sessionUuid = uuid)

/-- The column holds `static_cast<int64_t>` of the counter. -/
def SessionSample.framesSentColumn (sample : SessionSample Double) : Int :=
  (sample.framesSent : Int).bmod (2 ^ 64)

/-! ## The commands -/

def sessionAcceptsLiveUpdates (tables : Tables Double) (uuid : String) : Bool :=
  match tables.sessions.lookup uuid with
  | none => false
  | some row => row.endTimeUnix.isNone

/-- `INSERT OR IGNORE`. -/
def processBegin (now : Double) (metadata : SessionMetadata) (tables : Tables Double) :
    Tables Double :=
  match tables.sessions.lookup metadata.uuid with
  | some _ => tables
  | none => { tables with
      sessions := tables.sessions.insert metadata.uuid
        { metadata, startTimeUnix := now, endTimeUnix := none, durationSeconds := none,
          verdict := .unknown } }

variable (doubles : Doubles Double)

/-- The verdict on the samples of a session. -/
def sessionVerdict (samples : List (SessionSample Double)) : Verdict :=
  if samples.length = 0 then .unknown
  else
    let highLatencyCount := samples.countP fun sample =>
      doubles.lt (doubles.ofInt 16) sample.encodeLatencyMs
    let maxReportedLosses := (samples.map (·.clientReportedLosses)).max?.getD 0
    let maxFramesSent := (samples.map (·.framesSentColumn)).max?.getD 0
    let lossRatio :=
      if 0 < maxFramesSent then
        doubles.div (doubles.ofInt maxReportedLosses) (doubles.ofInt maxFramesSent)
      else doubles.ofInt 0
    if doubles.lt doubles.lossLimit lossRatio then .failed
    else if 0 < highLatencyCount ∨ 0 < maxReportedLosses then .degraded
    else .healthy

def SessionRow.ended (endTime : Double) (samples : List (SessionSample Double))
    (row : SessionRow Double) : SessionRow Double :=
  { row with
    endTimeUnix := some endTime
    durationSeconds := some (doubles.sub endTime row.startTimeUnix)
    verdict := sessionVerdict doubles samples }

def processEnd (now : Double) (uuid : String) (tables : Tables Double) : Tables Double :=
  match tables.sessions.lookup uuid with
  | none => tables
  | some row => { tables with
      sessions := tables.sessions.insert uuid
        (row.ended doubles now (tables.samples.values (sampleOf uuid))) }

/-- A sample of an ended or missing session is dropped as stale. -/
def processSample (maxSamplesPerSession : Nat) (sample : SessionSample Double)
    (tables : Tables Double) : Tables Double :=
  if sessionAcceptsLiveUpdates tables sample.sessionUuid then
    { tables with
      samples := (tables.samples.insert sample).trim (sampleOf sample.sessionUuid)
        (fun other pivot => doubles.lt pivot.timestampUnix other.timestampUnix)
        maxSamplesPerSession }
  else tables

def processEvent (maxEventsPerSession : Nat) (event : SessionEvent Double)
    (tables : Tables Double) : Tables Double :=
  if sessionAcceptsLiveUpdates tables event.sessionUuid then
    { tables with
      events := (tables.events.insert event).trim (eventOf event.sessionUuid)
        (fun other pivot => doubles.lt pivot.timestampUnix other.timestampUnix)
        maxEventsPerSession }
  else tables

/-- The samples and events of a deleted row go with it (`ON DELETE CASCADE`). -/
def processDelete (uuid : String) (tables : Tables Double) : Tables Double :=
  match tables.sessions.lookup uuid with
  | none => tables
  | some _ =>
      { sessions := tables.sessions.erase uuid
        samples := tables.samples.keepWhere fun row => !sampleOf uuid row.2
        events := tables.events.keepWhere fun row => !eventOf uuid row.2 }

/-- What the tables say of one session, apart from the ids of its rows. -/
structure SessionRows (Double : Type) where
  session : Option (SessionRow Double)
  samples : List (SessionSample Double)
  events : List (SessionEvent Double)
deriving DecidableEq

def Tables.sessionRows (tables : Tables Double) (uuid : String) : SessionRows Double where
  session := tables.sessions.lookup uuid
  samples := tables.samples.values (sampleOf uuid)
  events := tables.events.values (eventOf uuid)

end UmbraHost.History
