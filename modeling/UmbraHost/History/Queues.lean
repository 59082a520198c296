import UmbraHost.History.Drains

/-! # The queues of the writer as one list in sequence order

What is enqueued and not yet taken, in the order of its numbers, stands for the
queues: each of them is its part of the list. -/

namespace UmbraHost.History

open UmbraHost.Queue

structure Queued (writer : Writer Double) (pending : List (WriteCmd Double)) : Prop where
  increasing : pending.Pairwise fun first second => first.sequence < second.sequence
  controls : writer.controlQueue = pending.filter isControl
  samples : writer.sampleQueue = pending.filter isSample
  events : writer.priorityQueue = pending.filter isEvent
  regular : writer.regularQueue = []

/-- The commands of a session in a list, without one kind of its data. -/
def side (skipped : WriteCmd Double → Bool) (uuid : String) (cmds : List (WriteCmd Double)) :
    List (WriteCmd Double) :=
  stream WriteCmd.sessionUuid (some uuid) (cmds.filter (!skipped ·))

@[simp] theorem side_append (skipped : WriteCmd Double → Bool) (uuid : String)
    (first second : List (WriteCmd Double)) :
    side skipped uuid (first ++ second) = side skipped uuid first ++ side skipped uuid second := by
  simp only [side, List.filter_append, stream_append]

variable {writer : Writer Double} {pending : List (WriteCmd Double)}

/-- The kinds of commands exclude one another. -/
theorem filter_kinds {kept kind both : WriteCmd Double → Bool}
    (agree : ∀ sequence request,
      (kind ⟨sequence, request⟩ && kept ⟨sequence, request⟩) = both ⟨sequence, request⟩)
    (pending : List (WriteCmd Double)) : (pending.filter kept).filter kind = pending.filter both := by
  rw [List.filter_filter]
  exact List.filter_congr fun ⟨sequence, request⟩ _ => agree sequence request

theorem samples_controls (pending : List (WriteCmd Double)) :
    (pending.filter (!isEvent ·)).filter (!isSample ·) = pending.filter isControl :=
  filter_kinds (fun _ request => by cases request <;> rfl) pending

theorem events_controls (pending : List (WriteCmd Double)) :
    (pending.filter (!isSample ·)).filter (!isEvent ·) = pending.filter isControl :=
  filter_kinds (fun _ request => by cases request <;> rfl) pending

theorem samples_data (pending : List (WriteCmd Double)) :
    (pending.filter (!isEvent ·)).filter isSample = pending.filter isSample :=
  filter_kinds (fun _ request => by cases request <;> rfl) pending

theorem events_data (pending : List (WriteCmd Double)) :
    (pending.filter (!isSample ·)).filter isEvent = pending.filter isEvent :=
  filter_kinds (fun _ request => by cases request <;> rfl) pending

theorem kinds_perm (pending : List (WriteCmd Double)) :
    (pending.filter isControl ++ pending.filter isSample ++ pending.filter isEvent).Perm
      pending := by
  have controls := List.filter_append_perm isControl pending
  have data := List.filter_append_perm isSample (pending.filter (!isControl ·))
  have samples : (pending.filter (!isControl ·)).filter isSample = pending.filter isSample :=
    filter_kinds (fun _ request => by cases request <;> rfl) pending
  have events : (pending.filter (!isControl ·)).filter (!isSample ·) = pending.filter isEvent :=
    filter_kinds (fun _ request => by cases request <;> rfl) pending
  rw [samples, events] at data
  rw [List.append_assoc]
  exact (data.append_left _).trans controls

theorem Queued.sorted (queued : Queued writer pending) :
    Sorted writer.controlQueue writer.sampleQueue writer.priorityQueue where
  controls _ member := (List.mem_filter.mp (queued.controls ▸ member)).2
  samples _ member := (List.mem_filter.mp (queued.samples ▸ member)).2
  events _ member := (List.mem_filter.mp (queued.events ▸ member)).2

/-- The commands that the loop over the control queue takes. -/
def controlBatch (writer : Writer Double) : List (WriteCmd Double) :=
  (drainControls writer.controlQueue writer.sampleQueue writer.priorityQueue).1

/-- The samples that it leaves. -/
def leftSamples (writer : Writer Double) : List (WriteCmd Double) :=
  (drainControls writer.controlQueue writer.sampleQueue writer.priorityQueue).2.1

def leftEvents (writer : Writer Double) : List (WriteCmd Double) :=
  (drainControls writer.controlQueue writer.sampleQueue writer.priorityQueue).2.2

theorem Queued.leftSamples_sublist (queued : Queued writer pending) :
    (leftSamples writer).Sublist (pending.filter isSample) := by
  have drained : leftSamples writer = _ := congrArg (·.2) (drainControls_samples queued.sorted)
  rw [drained, ← queued.samples]
  exact drain_rest_sublist ..

theorem Queued.leftEvents_sublist (queued : Queued writer pending) :
    (leftEvents writer).Sublist (pending.filter isEvent) := by
  have drained : leftEvents writer = _ := congrArg (·.2) (drainControls_events queued.sorted)
  rw [drained, ← queued.events]
  exact drain_rest_sublist ..

theorem Queued.take_queued (queued : Queued writer pending) (takeSamples : Nat) :
    Queued (writer.take takeSamples).2 ((leftSamples writer).drop takeSamples) := by
  have left := (List.drop_sublist takeSamples _).trans queued.leftSamples_sublist
  have samples : ∀ cmd ∈ (leftSamples writer).drop takeSamples, isSample cmd = true :=
    fun cmd member => (List.mem_filter.mp (left.subset member)).2
  exact {
    increasing := queued.increasing.sublist (left.trans List.filter_sublist)
    controls := (List.filter_eq_nil_iff.mpr fun cmd member => by
      simp [isControl_of_isSample (samples cmd member)]).symm
    samples := (List.filter_eq_self.mpr samples).symm
    events := (List.filter_eq_nil_iff.mpr fun cmd member => by
      simp [isControl_of_isSample (samples cmd member)]).symm
    regular := rfl }

theorem Queued.take_append (queued : Queued writer pending) (takeSamples : Nat) :
    (writer.take takeSamples).1 ++ (leftSamples writer).drop takeSamples =
      controlBatch writer ++ leftEvents writer ++ leftSamples writer := by
  simp only [Writer.take, queued.regular, List.append_nil, controlBatch, leftSamples, leftEvents,
    List.append_assoc, List.take_append_drop]

theorem Queued.take_perm (queued : Queued writer pending) (takeSamples : Nat) :
    ((writer.take takeSamples).1 ++ (leftSamples writer).drop takeSamples).Perm pending := by
  have drained := drainControls_perm queued.sorted
  rw [queued.take_append]
  refine List.Perm.trans ?_ (drained.trans ?_)
  · rw [controlBatch, leftEvents, leftSamples, List.append_assoc, List.append_assoc]
    exact List.perm_append_comm.append_left _
  · rw [queued.controls, queued.samples, queued.events]
    exact kinds_perm pending

/-- A drain of the controls and of one kind of data keeps the order of the session's
commands without the other kind. -/
theorem Queued.drain_side (queued : Queued writer pending)
    {data skipped : WriteCmd Double → Bool} {queue : List (WriteCmd Double)} {uuid : String}
    (controls : (pending.filter (!skipped ·)).filter (!data ·) = writer.controlQueue)
    (kept : (pending.filter (!skipped ·)).filter data = queue)
    (guarded : Guarded barrier data (side skipped uuid pending)) :
    stream WriteCmd.sessionUuid (some uuid)
      (drainedOrder WriteCmd.sequence WriteCmd.sessionUuid barrier writer.controlQueue queue) =
        side skipped uuid pending := by
  have apart : (pending.filter (!skipped ·)).Pairwise fun first second =>
      first.sequence < second.sequence := queued.increasing.sublist List.filter_sublist
  rw [← controls, ← kept]
  exact stream_drainedOrder WriteCmd.sequence WriteCmd.sessionUuid (some uuid) apart guarded

/-- Taking a batch keeps the order of the samples with the controls of their session. -/
theorem Queued.take_samples (queued : Queued writer pending) (takeSamples : Nat) {uuid : String}
    (guarded : Guarded barrier isSample (side isEvent uuid pending)) :
    side isEvent uuid ((writer.take takeSamples).1 ++ (leftSamples writer).drop takeSamples) =
      side isEvent uuid pending := by
  have ordered := queued.drain_side ((samples_controls pending).trans queued.controls.symm)
    ((samples_data pending).trans queued.samples.symm) guarded
  rw [drainedOrder, ← drainControls_samples queued.sorted] at ordered
  have noEvents : (leftEvents writer).filter (!isEvent ·) = [] :=
    filter_skipped fun cmd member => (List.mem_filter.mp (queued.leftEvents_sublist.subset member)).2
  have allSamples : (leftSamples writer).filter (!isEvent ·) = leftSamples writer :=
    filter_kept fun cmd member =>
      (isControl_of_isSample (List.mem_filter.mp (queued.leftSamples_sublist.subset member)).2).2
  rw [side, queued.take_append, List.filter_append, List.filter_append, noEvents, allSamples,
    List.append_nil]
  exact ordered

theorem Queued.take_events (queued : Queued writer pending) (takeSamples : Nat) {uuid : String}
    (guarded : Guarded barrier isEvent (side isSample uuid pending)) :
    side isSample uuid ((writer.take takeSamples).1 ++ (leftSamples writer).drop takeSamples) =
      side isSample uuid pending := by
  have ordered := queued.drain_side ((events_controls pending).trans queued.controls.symm)
    ((events_data pending).trans queued.events.symm) guarded
  rw [drainedOrder, ← drainControls_events queued.sorted] at ordered
  have noSamples : (leftSamples writer).filter (!isSample ·) = [] :=
    filter_skipped fun cmd member => (List.mem_filter.mp (queued.leftSamples_sublist.subset member)).2
  have allEvents : (leftEvents writer).filter (!isSample ·) = leftEvents writer :=
    filter_kept fun cmd member =>
      (isControl_of_isEvent (List.mem_filter.mp (queued.leftEvents_sublist.subset member)).2).2
  rw [side, queued.take_append, List.filter_append, List.filter_append, noSamples, allEvents,
    List.append_nil]
  exact ordered

/-- An accepted command is the last of the pending ones. -/
theorem Queued.push {cmd : WriteCmd Double} (queued : Queued writer pending)
    (later : ∀ other ∈ pending, other.sequence < cmd.sequence) {pushed : Writer Double}
    (controls : pushed.controlQueue = writer.controlQueue ++ [cmd].filter isControl)
    (samples : pushed.sampleQueue = writer.sampleQueue ++ [cmd].filter isSample)
    (events : pushed.priorityQueue = writer.priorityQueue ++ [cmd].filter isEvent)
    (regular : pushed.regularQueue = writer.regularQueue) :
    Queued pushed (pending ++ [cmd]) where
  increasing := List.pairwise_append.mpr ⟨queued.increasing, List.pairwise_singleton _ _,
    fun other member new isNew => by
      rw [List.mem_singleton.mp isNew]
      exact later other member⟩
  controls := by rw [controls, queued.controls, List.filter_append]
  samples := by rw [samples, queued.samples, List.filter_append]
  events := by rw [events, queued.events, List.filter_append]
  regular := by rw [regular, queued.regular]

end UmbraHost.History
