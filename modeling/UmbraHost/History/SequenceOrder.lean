import UmbraHost.History.Queues

/-! # The writer against the order of the sequence numbers

Every run of the writer applies the accepted commands, each once, in an order
that no session can tell from the order of their numbers, provided that a begin
never comes on top of unfinished samples or events and that the session has a
name. -/

namespace UmbraHost.History

open UmbraHost.Queue

/-- What the writer's thread has taken and not yet committed. -/
def Position.hand : Position Double → List (WriteCmd Double)
  | .processing batch | .processingRemaining batch => batch
  | _ => []

def Writer.Finished (writer : Writer Double) : Prop :=
  writer.hasPendingCommands = false ∧ writer.position.hand = []

def Action.Succeeds : Action Double → Prop
  | .write _ outcome => outcome.AllSucceed
  | _ => True

variable (host : Host Double)

/-- The commands accepted so far are those applied, those in hand and those pending,
in an order that agrees with the sequence numbers on either side of each session. -/
structure Accounted (start : Tables Double) (writer : Writer Double)
    (pending : List (WriteCmd Double)) : Prop where
  queued : Queued writer pending
  increasing : writer.accepted.Pairwise fun first second => first.sequence < second.sequence
  below : ∀ cmd ∈ writer.accepted, cmd.sequence < writer.nextSequence
  once : (writer.applied ++ writer.position.hand ++ pending).Perm writer.accepted
  samples : ∀ uuid, Guarded barrier isSample (side isEvent uuid writer.accepted) →
    side isEvent uuid (writer.applied ++ writer.position.hand ++ pending) =
      side isEvent uuid writer.accepted
  events : ∀ uuid, Guarded barrier isEvent (side isSample uuid writer.accepted) →
    side isSample uuid (writer.applied ++ writer.position.hand ++ pending) =
      side isSample uuid writer.accepted
  tables : writer.tables = applyAll host writer.applied start

theorem Accounted.initial (start : Tables Double) :
    Accounted host start (.started start) [] where
  queued := ⟨.nil, rfl, rfl, rfl, rfl⟩
  increasing := .nil
  below := List.forall_mem_nil _
  once := .refl _
  samples _ _ := rfl
  events _ _ := rfl
  tables := rfl

variable {host} {start : Tables Double} {writer : Writer Double}
  {pending : List (WriteCmd Double)}

/-! ## Enqueueing -/

def Writer.push (cmd : WriteCmd Double) (writer : Writer Double) : Writer Double :=
  { writer with
    nextSequence := writer.nextSequence + 1
    controlQueue := writer.controlQueue ++ [cmd].filter isControl
    sampleQueue := writer.sampleQueue ++ [cmd].filter isSample
    priorityQueue := writer.priorityQueue ++ [cmd].filter isEvent
    accepted := writer.accepted ++ [cmd] }

theorem enqueue_cases (enabled : Bool) (limits : QueueLimits) (request : Request Double)
    (writer : Writer Double) :
    (enqueue enabled limits request writer).1 = writer ∨
      (enqueue enabled limits request writer).1 =
        { writer with nextSequence := writer.nextSequence + 1 } ∨
      (enqueue enabled limits request writer).1 = writer.push ⟨writer.nextSequence, request⟩ ∧
        writer.running = true := by
  cases open_ : enabled && writer.running with
  | false => exact .inl (by simp [enqueue, open_])
  | true =>
      have running := (Bool.and_eq_true_iff.mp open_).2
      cases request with
      | insertSample sample =>
          by_cases full : limits.sampleLimit ≤ writer.sampleQueue.length
          · exact .inr (.inl (by simp [enqueue, open_, isControlCmd, full]))
          · refine .inr (.inr ⟨?_, running⟩)
            simp [enqueue, open_, isControlCmd, full, Writer.push, isControl, isEvent]
            rfl
      | insertEvent event =>
          by_cases full : limits.priorityLimit ≤ writer.priorityQueue.length
          · exact .inr (.inl (by simp [enqueue, open_, isControlCmd, full]))
          · refine .inr (.inr ⟨?_, running⟩)
            simp [enqueue, open_, isControlCmd, full, Writer.push, isControl, isSample]
            rfl
      | beginSession _ | endSession _ | deleteSession _ | prune =>
          by_cases full : limits.controlLimit ≤ writer.controlQueue.length
          · exact .inr (.inl (by simp [enqueue, open_, isControlCmd, full]))
          · refine .inr (.inr ⟨?_, running⟩)
            simp [enqueue, open_, isControlCmd, full, Writer.push, isSample, isEvent]
            rfl

theorem Accounted.numbered (accounted : Accounted host start writer pending) :
    Accounted host start { writer with nextSequence := writer.nextSequence + 1 } pending :=
  { accounted with
    queued := { accounted.queued with }
    below := fun cmd member => Nat.lt_succ_of_lt (accounted.below cmd member) }

theorem Accounted.push (accounted : Accounted host start writer pending)
    (request : Request Double) :
    Accounted host start (writer.push ⟨writer.nextSequence, request⟩)
      (pending ++ [⟨writer.nextSequence, request⟩]) := by
  have known : ∀ cmd ∈ pending, cmd ∈ writer.accepted := fun cmd member =>
    accounted.once.subset (List.mem_append_right _ member)
  have appended : ∀ {data skipped : WriteCmd Double → Bool} {uuid : String},
      (Guarded barrier data (side skipped uuid writer.accepted) →
        side skipped uuid (writer.applied ++ writer.position.hand ++ pending) =
          side skipped uuid writer.accepted) →
      Guarded barrier data (side skipped uuid
        (writer.accepted ++ [⟨writer.nextSequence, request⟩])) →
      side skipped uuid (writer.applied ++ writer.position.hand ++
        (pending ++ [⟨writer.nextSequence, request⟩])) =
        side skipped uuid (writer.accepted ++ [⟨writer.nextSequence, request⟩]) := by
    intro data skipped uuid before guarded
    rw [side_append] at guarded
    rw [← List.append_assoc, side_append, before guarded.left_of_append, ← side_append]
  exact {
    queued := accounted.queued.push (fun cmd member => accounted.below cmd (known cmd member))
      rfl rfl rfl rfl
    increasing := List.pairwise_append.mpr ⟨accounted.increasing, List.pairwise_singleton _ _,
      fun cmd member new isNew => by
        rw [List.mem_singleton.mp isNew]
        exact accounted.below cmd member⟩
    below := fun cmd member => by
      rcases List.mem_append.mp member with old | new
      · exact Nat.lt_succ_of_lt (accounted.below cmd old)
      · rw [List.mem_singleton.mp new]
        exact Nat.lt_succ_self _
    once := by
      rw [← List.append_assoc]
      exact accounted.once.append_right _
    samples := fun uuid => appended (accounted.samples uuid)
    events := fun uuid => appended (accounted.events uuid)
    tables := accounted.tables }

/-! ## Batches -/

theorem foldlM_applyWriteCmd {outcome : BatchOutcome Double}
    (succeeds : ∀ cmd, outcome.succeeds cmd = true) (batch : List (WriteCmd Double))
    (tables : Tables Double) :
    batch.foldlM (applyWriteCmd host outcome) tables = some (applyAll host batch tables) := by
  induction batch generalizing tables with
  | nil => rfl
  | cons cmd rest ih =>
      rw [List.foldlM_cons, applyWriteCmd, if_pos (succeeds cmd)]
      exact ih (effect host cmd tables)

theorem processBatch_succeeds {outcome : BatchOutcome Double} (succeeds : outcome.AllSucceed)
    (batch : List (WriteCmd Double)) (tables : Tables Double) :
    processBatch host outcome batch tables = (applyAll host batch tables, true) := by
  obtain ⟨begins, each, commits⟩ := succeeds
  cases batch with
  | nil => rfl
  | cons cmd rest =>
      simp [processBatch, begins, commits, foldlM_applyWriteCmd each]

/-- A committed batch moves from the hand of the thread to what was applied. -/
theorem Accounted.process (accounted : Accounted host start writer pending)
    {outcome : BatchOutcome Double} (succeeds : outcome.AllSucceed) {position : Position Double}
    (released : position.hand = []) :
    Accounted host start { writer.process host outcome writer.position.hand with position } pending := by
  have processed : writer.process host outcome writer.position.hand =
      { writer with
        tables := applyAll host writer.position.hand writer.tables
        applied := writer.applied ++ writer.position.hand } := by
    simp only [Writer.process, processBatch_succeeds succeeds, if_true]
  have kept : writer.applied ++ writer.position.hand ++ position.hand ++ pending =
      writer.applied ++ writer.position.hand ++ pending := by rw [released, List.append_nil]
  rw [processed]
  exact {
    queued := { accounted.queued with }
    increasing := accounted.increasing
    below := accounted.below
    once := by
      exact kept ▸ accounted.once
    samples := fun uuid guarded => by
      exact kept ▸ accounted.samples uuid guarded
    events := fun uuid guarded => by
      exact kept ▸ accounted.events uuid guarded
    tables := by
      simp only [accounted.tables, applyAll, Transition.run_append] }

/-- Taking a batch into the empty hand. -/
theorem Accounted.take (accounted : Accounted host start writer pending) (takeSamples : Nat)
    (free : writer.position.hand = []) {position : Position Double}
    (holds : position.hand = (writer.take takeSamples).1) :
    Accounted host start { (writer.take takeSamples).2 with position }
      ((leftSamples writer).drop takeSamples) := by
  have perm := accounted.queued.take_perm takeSamples
  have moved : ∀ {data skipped : WriteCmd Double → Bool} {uuid : String},
      (Guarded barrier data (side skipped uuid pending) →
        side skipped uuid ((writer.take takeSamples).1 ++ (leftSamples writer).drop takeSamples) =
          side skipped uuid pending) →
      (Guarded barrier data (side skipped uuid writer.accepted) →
        side skipped uuid (writer.applied ++ writer.position.hand ++ pending) =
          side skipped uuid writer.accepted) →
      Guarded barrier data (side skipped uuid writer.accepted) →
      side skipped uuid (writer.applied ++ (writer.take takeSamples).1 ++
        (leftSamples writer).drop takeSamples) = side skipped uuid writer.accepted := by
    intro data skipped uuid kept before guarded
    have same := before guarded
    rw [← same, side_append] at guarded
    rw [List.append_assoc, side_append, kept guarded.of_append, ← side_append, ← same, free,
      List.append_nil]
  exact {
    queued := { accounted.queued.take_queued takeSamples with }
    increasing := accounted.increasing
    below := accounted.below
    once := by
      simp only [holds]
      rw [List.append_assoc]
      refine List.Perm.trans ?_ accounted.once
      rw [free, List.append_nil]
      exact perm.append_left _
    samples := fun uuid guarded => by
      simp only [holds]
      exact moved (accounted.queued.take_samples takeSamples) (accounted.samples uuid) guarded
    events := fun uuid guarded => by
      simp only [holds]
      exact moved (accounted.queued.take_events takeSamples) (accounted.events uuid) guarded
    tables := accounted.tables }

/-- A step of the thread from one position to another with the same hand. -/
theorem Accounted.reposition (accounted : Accounted host start writer pending)
    {position : Position Double}
    (same : position.hand = writer.position.hand) :
    Accounted host start { writer with position } pending :=
  { accounted with
    queued := { accounted.queued with }
    once := by
      simp only [same]
      exact accounted.once
    samples := fun uuid guarded => by
      simp only [same]
      exact accounted.samples uuid guarded
    events := fun uuid guarded => by
      simp only [same]
      exact accounted.events uuid guarded }

/-! ## Runs -/

theorem Accounted.writerLoop (accounted : Accounted host start writer pending)
    (limits : QueueLimits) {outcome : BatchOutcome Double} (succeeds : outcome.AllSucceed) :
    ∃ left, Accounted host start (writerLoop host limits outcome writer) left := by
  cases at_ : writer.position with
  | looping =>
      refine ⟨pending, ?_⟩
      simp only [History.writerLoop, at_]
      refine accounted.reposition ?_
      rw [at_]
      split <;> rfl
  | draining =>
      have free : writer.position.hand = [] := by rw [at_]; rfl
      cases waits : writer.hasPendingCommands with
      | true =>
          refine ⟨(leftSamples writer).drop (max 1 limits.sampleBatchSize), ?_⟩
          simp only [History.writerLoop, at_, drainQueue, waits, if_true]
          refine accounted.take (max 1 limits.sampleBatchSize) free ?_
          split
          · rename_i none
            exact (List.isEmpty_iff.mp none).symm
          · rfl
      | false =>
          refine ⟨pending, ?_⟩
          simp only [History.writerLoop, at_, drainQueue, waits]
          exact accounted.reposition free.symm
  | processing batch =>
      have holds : writer.position.hand = batch := by rw [at_]; rfl
      refine ⟨pending, ?_⟩
      simp only [History.writerLoop, at_]
      exact holds ▸ accounted.process succeeds rfl
  | flushing =>
      have free : writer.position.hand = [] := by rw [at_]; rfl
      cases waits : writer.hasPendingCommands with
      | true =>
          refine ⟨(leftSamples writer).drop writer.sampleQueue.length, ?_⟩
          simp only [History.writerLoop, at_, drainRemaining, waits, if_true]
          exact accounted.take writer.sampleQueue.length free rfl
      | false =>
          refine ⟨pending, ?_⟩
          simp only [History.writerLoop, at_, waits]
          exact accounted.reposition free.symm
  | processingRemaining batch =>
      have holds : writer.position.hand = batch := by rw [at_]; rfl
      refine ⟨pending, ?_⟩
      simp only [History.writerLoop, at_]
      exact holds ▸ accounted.process succeeds rfl
  | ended =>
      refine ⟨pending, ?_⟩
      simp only [History.writerLoop, at_]
      exact accounted

theorem Accounted.step {action : Action Double} (succeeds : action.Succeeds)
    (accounted : Accounted host start writer pending) :
    ∃ left, Accounted host start (writer.step host action) left := by
  cases action with
  | enqueue enabled limits request =>
      rcases enqueue_cases enabled limits request writer with same | numbered | ⟨pushed, _⟩
      · exact ⟨pending, by rw [Writer.step, same]; exact accounted⟩
      · exact ⟨pending, by rw [Writer.step, numbered]; exact accounted.numbered⟩
      · exact ⟨_, by rw [Writer.step, pushed]; exact accounted.push request⟩
  | shutdown => exact ⟨pending, { accounted with queued := { accounted.queued with } }⟩
  | write limits outcome => exact accounted.writerLoop limits succeeds

theorem run_accounted (host : Host Double) (start : Tables Double)
    {actions : List (Action Double)} (succeed : ∀ action ∈ actions, action.Succeeds) :
    ∃ pending, Accounted host start
      (Writer.run host actions (.started start)) pending :=
  Transition.run_preserves_of_meets (Writer.step host)
    (fun writer => ∃ pending, Accounted host start writer pending)
    (fun _ _ succeeds ⟨_, accounted⟩ => accounted.step succeeds)
    (Transition.Meets.of_forall _ succeed _) ⟨[], Accounted.initial host start⟩

theorem pending_nil_of_finished (accounted : Accounted host start writer pending)
    (finished : writer.Finished) : pending = [] := by
  obtain ⟨none, _⟩ := finished
  simp only [Writer.hasPendingCommands, Bool.or_eq_false_iff, Bool.not_eq_false',
    List.isEmpty_iff] at none
  have empty := kinds_perm pending
  rw [← accounted.queued.controls, ← accounted.queued.samples, ← accounted.queued.events,
    none.1.1.1, none.1.1.2, none.2] at empty
  exact empty.nil_eq.symm

/-! ## The end of the thread -/

/-- How many of its steps the thread needs, once the writer was shut down, to have
nothing left. -/
def stepsLeft (writer : Writer Double) : Nat :=
  match writer.position with
  | .draining => 5
  | .processing _ => 4
  | .looping => 3
  | .flushing => if writer.hasPendingCommands then 2 else 0
  | .processingRemaining _ => 1
  | .ended => 0

def Position.closing : Position Double → Bool
  | .flushing | .processingRemaining _ | .ended => true
  | _ => false

def Position.drained : Position Double → Bool
  | .processingRemaining _ | .ended => true
  | _ => false

/-- The thread only leaves its loop once it was shut down, and past its last drain
nothing waits. -/
structure Coherent (writer : Writer Double) : Prop where
  stopped : writer.position.closing = true → writer.running = false
  drained : writer.position.drained = true → writer.hasPendingCommands = false

theorem Coherent.initial (start : Tables Double) : Coherent (Writer.started start) where
  stopped closing := Bool.noConfusion closing
  drained drained := Bool.noConfusion drained

theorem take_all_pending (queued : Queued writer pending) :
    (writer.take writer.sampleQueue.length).2.hasPendingCommands = false := by
  have short : (leftSamples writer).length ≤ writer.sampleQueue.length := by
    rw [queued.samples]
    exact queued.leftSamples_sublist.length_le
  have none : (leftSamples writer).drop writer.sampleQueue.length = [] :=
    List.drop_eq_nil_of_le short
  have left : (writer.take writer.sampleQueue.length).2.sampleQueue =
      (leftSamples writer).drop writer.sampleQueue.length := rfl
  rw [none] at left
  rw [Writer.hasPendingCommands, left]
  rfl

theorem Coherent.writerLoop (coherent : Coherent writer) (queued : Queued writer pending)
    (limits : QueueLimits) (outcome : BatchOutcome Double) :
    Coherent (writerLoop host limits outcome writer) := by
  cases at_ : writer.position with
  | looping =>
      simp only [History.writerLoop, at_]
      cases running : writer.running with
      | true => exact ⟨nofun, nofun⟩
      | false => exact ⟨fun _ => rfl, nofun⟩
  | draining =>
      simp only [History.writerLoop, at_, drainQueue]
      split
      · split
        · exact ⟨nofun, nofun⟩
        · exact ⟨nofun, nofun⟩
      · exact ⟨nofun, nofun⟩
  | processing batch =>
      simp only [History.writerLoop, at_]
      exact ⟨nofun, nofun⟩
  | flushing =>
      have stopped := coherent.stopped (by rw [at_]; rfl)
      simp only [History.writerLoop, at_, drainRemaining]
      split
      · exact ⟨fun _ => stopped, fun _ => take_all_pending queued⟩
      · rename_i none
        exact ⟨fun _ => stopped, fun _ => Bool.eq_false_iff.mpr none⟩
  | processingRemaining batch =>
      have stopped := coherent.stopped (by rw [at_]; rfl)
      simp only [History.writerLoop, at_]
      exact ⟨fun _ => stopped, nofun⟩
  | ended =>
      simp only [History.writerLoop, at_]
      exact coherent

theorem Coherent.step (coherent : Coherent writer) (queued : Queued writer pending)
    (action : Action Double) : Coherent (writer.step host action) := by
  cases action with
  | enqueue enabled limits request =>
      rcases enqueue_cases enabled limits request writer with same | numbered | ⟨pushed, running⟩
      · rw [Writer.step, same]
        exact coherent
      · rw [Writer.step, numbered]
        exact ⟨coherent.stopped, coherent.drained⟩
      · have looping : writer.position.closing = true → False := fun closing =>
          Bool.false_ne_true ((coherent.stopped closing).symm.trans running)
        rw [Writer.step, pushed]
        refine ⟨fun closing => (looping closing).elim, fun drained => (looping ?_).elim⟩
        cases at_ : writer.position <;> simp_all [Writer.push, Position.drained, Position.closing]
  | shutdown => exact ⟨fun _ => rfl, coherent.drained⟩
  | write limits outcome => exact coherent.writerLoop queued limits outcome

theorem run_coherent (host : Host Double) (start : Tables Double)
    {actions : List (Action Double)} (succeed : ∀ action ∈ actions, action.Succeeds) :
    Coherent (Writer.run host actions (.started start)) := by
  have both := Transition.run_preserves_of_meets (Writer.step host)
    (fun writer => Coherent writer ∧ ∃ pending, Accounted host start writer pending)
    (fun action _ succeeds ⟨coherent, _, accounted⟩ =>
      ⟨coherent.step accounted.queued action, accounted.step succeeds⟩)
    (Transition.Meets.of_forall _ succeed _)
    ⟨Coherent.initial start, [], Accounted.initial host start⟩
  exact both.1

end UmbraHost.History
