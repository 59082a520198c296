import UmbraHost.History.SequenceOrder

/-! # What a run of the writer leaves in the tables -/

namespace UmbraHost.History

open UmbraHost.Queue

variable {host : Host Double} {start : Tables Double} {writer : Writer Double}
  {pending : List (WriteCmd Double)} {uuid : String}

/-! ## The end of the thread -/

def Action.isWrite : Action Double → Bool
  | .write _ _ => true
  | _ => false

theorem finished_of_stepsLeft (coherent : Coherent writer) (none : stepsLeft writer = 0) :
    writer.Finished := by
  cases at_ : writer.position with
  | flushing =>
      simp only [stepsLeft, at_] at none
      split at none
      · cases none
      · rename_i clear
        exact ⟨Bool.eq_false_iff.mpr clear, by rw [at_]; rfl⟩
  | ended => exact ⟨coherent.drained (by rw [at_]; rfl), by rw [at_]; rfl⟩
  | looping => simp [stepsLeft, at_] at none
  | draining => simp [stepsLeft, at_] at none
  | processing batch => simp [stepsLeft, at_] at none
  | processingRemaining batch => simp [stepsLeft, at_] at none

theorem writerLoop_running (limits : QueueLimits) (outcome : BatchOutcome Double) :
    (writerLoop host limits outcome writer).running = writer.running := by
  cases at_ : writer.position with
  | looping => simp [writerLoop, at_]
  | draining =>
      simp only [writerLoop, at_, drainQueue]
      split <;> rfl
  | processing batch => simp [writerLoop, at_, Writer.process]
  | flushing =>
      simp only [writerLoop, at_, drainRemaining]
      split <;> rfl
  | processingRemaining batch => simp [writerLoop, at_, Writer.process]
  | ended => simp [writerLoop, at_]

theorem stepsLeft_writerLoop (host : Host Double) (coherent : Coherent writer) (stopped : writer.running = false)
    (limits : QueueLimits) (outcome : BatchOutcome Double) :
    stepsLeft (writerLoop host limits outcome writer) ≤ stepsLeft writer - 1 := by
  cases at_ : writer.position with
  | looping =>
      simp only [writerLoop, at_, stopped, stepsLeft, Bool.false_eq_true, if_false]
      split <;> omega
  | draining =>
      simp only [writerLoop, at_, stepsLeft]
      cases (drainQueue limits writer).1.isEmpty <;> simp
  | processing batch => simp [writerLoop, at_, stepsLeft]
  | flushing =>
      cases waits : writer.hasPendingCommands with
      | true => simp [writerLoop, at_, stepsLeft, waits]
      | false => simp [writerLoop, at_, stepsLeft, waits]
  | processingRemaining batch =>
      have clear := coherent.drained (by rw [at_]; rfl)
      have after : (writerLoop host limits outcome writer).hasPendingCommands = false := by
        simp only [writerLoop, at_]
        exact clear
      have flushing : (writerLoop host limits outcome writer).position = .flushing := by
        simp only [writerLoop, at_]
      simp [stepsLeft, flushing, after]
  | ended => simp [writerLoop, at_, stepsLeft]

/-- Once shut down, a step of a caller leaves the thread what it had to do. -/
theorem stepsLeft_step (host : Host Double) (coherent : Coherent writer) (stopped : writer.running = false)
    (action : Action Double) :
    stepsLeft (writer.step host action) + (if action.isWrite then 1 else 0) ≤
      max (stepsLeft writer) (if action.isWrite then 1 else 0) ∧
    (writer.step host action).running = false := by
  cases action with
  | enqueue enabled limits request =>
      rcases enqueue_cases enabled limits request writer with same | numbered | ⟨_, running⟩
      · rw [Writer.step, same]
        simp [Action.isWrite, stopped]
      · rw [Writer.step, numbered]
        exact ⟨by simp [Action.isWrite, stepsLeft, Writer.hasPendingCommands], stopped⟩
      · exact absurd (stopped.symm.trans running) Bool.false_ne_true
  | shutdown => exact ⟨by simp [Action.isWrite, Writer.step, stepsLeft,
      Writer.hasPendingCommands], rfl⟩
  | write limits outcome =>
      have fewer := stepsLeft_writerLoop host coherent stopped limits outcome
      refine ⟨?_, (writerLoop_running limits outcome).trans stopped⟩
      simp only [Action.isWrite, if_true, Writer.step]
      omega

theorem finished_of_writes {rest : List (Action Double)}
    (succeed : ∀ action ∈ rest, action.Succeeds) (coherent : Coherent writer)
    (accounted : Accounted host start writer pending) (stopped : writer.running = false)
    (enough : stepsLeft writer ≤ rest.countP Action.isWrite) :
    (Writer.run host rest writer).Finished := by
  induction rest generalizing writer pending with
  | nil =>
      have none : stepsLeft writer = 0 := by simpa using enough
      exact finished_of_stepsLeft coherent none
  | cons action rest ih =>
      obtain ⟨left, after⟩ := accounted.step (succeed action List.mem_cons_self)
      obtain ⟨fewer, still⟩ := stepsLeft_step host coherent stopped action
      rw [List.countP_cons] at enough
      exact ih (fun other member => succeed other (List.mem_cons_of_mem _ member))
        (coherent.step accounted.queued action) after still (by split at enough <;> simp_all <;> omega)

theorem stepsLeft_le (writer : Writer Double) : stepsLeft writer ≤ 5 := by
  unfold stepsLeft
  split <;> first | omega | (split <;> omega)

/-! ## Sessions -/

def isBegin (cmd : WriteCmd Double) : Bool :=
  match cmd.request with
  | .beginSession _ => true
  | _ => false

/-- No begin of the session comes on top of samples or events that an end or a
deletion has not closed off. -/
def BeginsFirst (uuid : String) (cmds : List (WriteCmd Double)) : Prop :=
  (stream WriteCmd.sessionUuid (some uuid) cmds).IsChain fun first second =>
    isData first = true → isBegin second = false

theorem BeginsFirst.guarded {cmds : List (WriteCmd Double)} (begins : BeginsFirst uuid cmds)
    (named : uuid ≠ "") :
    Guarded barrier isData (stream WriteCmd.sessionUuid (some uuid) cmds) := by
  refine List.IsChain.imp_of_mem_imp (fun first second _ member next isFirst control => ?_) begins
  have own := of_decide_eq_true (List.mem_filter.mp member).2
  have notBegin := next isFirst
  obtain ⟨sequence, request⟩ := second
  cases request with
  | beginSession metadata => cases notBegin
  | endSession ended =>
      cases Option.some.inj own
      exact decide_eq_true named
  | deleteSession deleted =>
      cases Option.some.inj own
      exact decide_eq_true named
  | insertSample sample => cases control
  | insertEvent event => cases control
  | prune => cases own

theorem side_eq_filter_stream (skipped : WriteCmd Double → Bool) (uuid : String)
    (cmds : List (WriteCmd Double)) :
    side skipped uuid cmds =
      (stream WriteCmd.sessionUuid (some uuid) cmds).filter (!skipped ·) := by
  rw [side, stream, stream, List.filter_filter, List.filter_filter]
  exact List.filter_congr fun cmd _ => Bool.and_comm _ _

theorem BeginsFirst.samples {cmds : List (WriteCmd Double)} (begins : BeginsFirst uuid cmds)
    (named : uuid ≠ "") : Guarded barrier isSample (side isEvent uuid cmds) := by
  have kinds : (isSample : WriteCmd Double → Bool) = fun cmd => isData cmd && !isEvent cmd := by
    funext ⟨sequence, request⟩
    cases request <;> rfl
  rw [side_eq_filter_stream, kinds]
  refine (begins.guarded named).filter fun cmd event => ?_
  rw [isData, Bool.not_eq_true']
  exact (isControl_of_isEvent event).1

theorem BeginsFirst.events {cmds : List (WriteCmd Double)} (begins : BeginsFirst uuid cmds)
    (named : uuid ≠ "") : Guarded barrier isEvent (side isSample uuid cmds) := by
  have kinds : (isEvent : WriteCmd Double → Bool) = fun cmd => isData cmd && !isSample cmd := by
    funext ⟨sequence, request⟩
    cases request <;> rfl
  rw [side_eq_filter_stream, kinds]
  refine (begins.guarded named).filter fun cmd sample => ?_
  rw [isData, Bool.not_eq_true']
  exact (isControl_of_isSample sample).1

theorem side_eq_filter (skipped : WriteCmd Double → Bool) (uuid : String)
    (cmds : List (WriteCmd Double)) :
    side skipped uuid cmds =
      cmds.filter fun cmd => decide (cmd.sessionUuid = some uuid) && !skipped cmd := by
  rw [side, stream, List.filter_filter]

/-- When nothing is pending, a session has the rows it has after the accepted
commands one by one. -/
theorem Accounted.sessionRows (accounted : Accounted host start writer pending)
    (finished : writer.Finished) (known : ∀ cmd ∈ writer.accepted, cmd.request ≠ .prune)
    (named : uuid ≠ "") (begins : BeginsFirst uuid writer.accepted) :
    writer.tables.sessionRows uuid = (applyAll host writer.accepted start).sessionRows uuid := by
  have none := pending_nil_of_finished accounted finished
  have once := accounted.once
  have samples := accounted.samples uuid (begins.samples named)
  have events := accounted.events uuid (begins.events named)
  rw [finished.2, none, List.append_nil, List.append_nil] at once samples events
  rw [side_eq_filter, side_eq_filter] at samples events
  rw [accounted.tables]
  exact sessionRows_applyAll_congr host (fun cmd member => known cmd (once.subset member)) known
    samples events start

/-- The writer against the order of the sequence numbers: the accepted commands are
numbered in order; once nothing is pending each was applied once, and the rows of
every named session are those of the commands one by one; and five steps of the
thread after a shutdown leave nothing pending. -/
theorem Writer.run_sequenceOrder (host : Host Double) (start : Tables Double)
    {actions : List (Action Double)} (succeed : ∀ action ∈ actions, action.Succeeds)
    (known : ∀ cmd ∈ (Writer.run host actions (.started start)).accepted,
      cmd.request ≠ .prune) :
    let final := Writer.run host actions (.started start)
    (final.accepted.Pairwise fun first second => first.sequence < second.sequence) ∧
    (final.Finished →
      final.applied.Perm final.accepted ∧
      ∀ uuid, uuid ≠ "" → BeginsFirst uuid final.accepted →
        final.tables.sessionRows uuid = (applyAll host final.accepted start).sessionRows uuid) ∧
    ∀ rest, (∀ action ∈ rest, action.Succeeds) → 5 ≤ rest.countP Action.isWrite →
      (Writer.run host (actions ++ .shutdown :: rest) (.started start)).Finished := by
  intro final
  obtain ⟨pending, accounted⟩ := run_accounted host start succeed
  have coherent := run_coherent host start succeed
  refine ⟨accounted.increasing, fun finished => ⟨?_, fun uuid named begins =>
    accounted.sessionRows finished known named begins⟩, fun rest succeedRest enough => ?_⟩
  · have none := pending_nil_of_finished accounted finished
    have once := accounted.once
    rw [finished.2, none, List.append_nil, List.append_nil] at once
    exact once
  · have stops : (.shutdown : Action Double).Succeeds := trivial
    obtain ⟨left, stopped⟩ := accounted.step stops
    rw [Writer.run, Transition.run_append, Transition.run_cons]
    exact finished_of_writes succeedRest (coherent.step accounted.queued .shutdown) stopped rfl
      ((stepsLeft_le _).trans enough)

/-! ## Sample runs -/

/-- Whole numbers in place of doubles, with the sequence number as the time. -/
def wholeHost : Host Int where
  doubles :=
    { ofInt := id
      sub := (· - ·)
      div := (· / ·)
      lt := fun first second => decide (first < second)
      lossLimit := 0
      lt_irrefl := fun value => decide_eq_false (Int.lt_irrefl value) }
  nowUnix sequence := sequence
  processPrune tables := tables

def desktopMetadata (uuid : String) : SessionMetadata where
  uuid := uuid
  protocol := "rtsp"
  clientName := "client"
  deviceName := "device"
  appName := "Desktop"
  width := 1920
  height := 1080
  targetFps := 60
  encoderBitrateKbps := 20000
  requestedBitrateKbps := 20000
  codec := "HEVC"
  hdr := false
  yuv444 := false
  audioChannels := 2
  serverVersion := ""
  hostCpuModel := ""
  hostGpuModel := ""
  streamGpuModel := ""

def calmSample (uuid : String) (timestamp : Int) : SessionSample Int where
  sessionUuid := uuid
  timestampUnix := timestamp
  bytesSentTotal := 1000
  packetsSentVideo := 10
  framesSent := 60
  lastFrameIndex := 60
  videoDropped := 0
  audioDropped := 0
  clientReportedLosses := 0
  idrRequests := 1
  refInvalidations := 0
  encodeLatencyMs := 4
  actualFps := 60
  actualBitrateKbps := 20000
  frameIntervalJitterMs := 0
  hostCpuPercent := -1
  hostGpuPercent := -1
  hostGpuEncoderPercent := -1
  hostRamPercent := -1
  hostVramPercent := -1
  hostCpuTempC := -1
  hostGpuTempC := -1
  hostNetRxBps := -1
  hostNetTxBps := -1

/-- Requests that all arrive before the thread looks, and the steps that apply them. -/
def oneBatch (requests : List (Request Int)) : List (Action Int) :=
  requests.map (.enqueue true {}) ++ [.write {} {}, .write {} {}, .write {} {}]

def shortSession : List (Request Int) :=
  [.beginSession (desktopMetadata "a"), .insertSample (calmSample "a" 5),
    .insertEvent ⟨"a", 6, "stream_ended", ""⟩, .endSession "a"]

theorem oneBatch_succeeds (requests : List (Request Int)) :
    ∀ action ∈ oneBatch requests, action.Succeeds := by
  intro action member
  simp only [oneBatch, List.mem_append, List.mem_map, List.mem_cons, List.not_mem_nil,
    or_false] at member
  rcases member with ⟨request, _, rfl⟩ | rfl | rfl | rfl
  · trivial
  · exact ⟨rfl, fun _ => rfl, rfl⟩
  · exact ⟨rfl, fun _ => rfl, rfl⟩
  · exact ⟨rfl, fun _ => rfl, rfl⟩

theorem Writer.run_sequenceOrder_shortSession :
    let final := Writer.run wholeHost (oneBatch shortSession) (.started .empty)
    final.applied.Perm final.accepted ∧
      final.tables.sessionRows "a" =
        (applyAll wholeHost final.accepted .empty).sessionRows "a" := by
  obtain ⟨_, settled, _⟩ := Writer.run_sequenceOrder wholeHost .empty
    (oneBatch_succeeds shortSession) (by decide +kernel)
  obtain ⟨once, rows⟩ := settled ⟨by decide +kernel, by decide +kernel⟩
  refine ⟨once, rows "a" (by decide) ?_⟩
  unfold BeginsFirst
  decide +kernel

def unnamedSession : List (Request Int) :=
  [.beginSession (desktopMetadata ""), .insertSample (calmSample "" 5), .endSession ""]

def twoSessions : List (Request Int) :=
  [.beginSession (desktopMetadata "a"), .beginSession (desktopMetadata "b"),
    .insertSample (calmSample "a" 5), .insertSample (calmSample "b" 6), .endSession "b"]

/-- The end of a session without a name overtakes its sample, which is then stale;
and the end of one session numbers its samples before older ones of another. -/
theorem oneBatch_unlike_sequence :
    (let final := Writer.run wholeHost (oneBatch unnamedSession) (.started .empty);
      final.accepted.map (·.request) = unnamedSession ∧ final.hasPendingCommands = false ∧
      final.position.hand = [] ∧ (final.tables.sessionRows "").samples = [] ∧
      ((applyAll wholeHost final.accepted .empty).sessionRows "").samples = [calmSample "" 5] ∧
      ((final.tables.sessionRows "").session.map (·.verdict)) = some .unknown ∧
      (((applyAll wholeHost final.accepted .empty).sessionRows "").session.map (·.verdict)) =
        some .healthy) ∧
    (let final := Writer.run wholeHost (oneBatch twoSessions) (.started .empty);
      final.accepted.map (·.request) = twoSessions ∧ final.hasPendingCommands = false ∧
      final.position.hand = [] ∧
      final.tables.samples.rows = [(1, calmSample "b" 6), (2, calmSample "a" 5)] ∧
      (applyAll wholeHost final.accepted .empty).samples.rows =
        [(1, calmSample "a" 5), (2, calmSample "b" 6)]) := by
  decide +kernel

end UmbraHost.History
