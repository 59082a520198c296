import UmbraHost.History.SessionSides
import UmbraHost.Queue.Barriers

/-! # What a drain of the writer does to each kind of command

Without the events, the loop over the control queue is a drain past the barriers
of the samples; without the samples, it is one of the events. -/

namespace UmbraHost.History

open UmbraHost.Queue

/-- An end or a deletion of a named session, which waits for its older data. -/
def barrier (cmd : WriteCmd Double) : Bool :=
  match cmd.request with
  | .endSession uuid | .deleteSession uuid => decide (uuid ≠ "")
  | _ => false

def isControl (cmd : WriteCmd Double) : Bool := isControlCmd cmd.request

def isData (cmd : WriteCmd Double) : Bool := !isControlCmd cmd.request

theorem isControl_of_isSample {cmd : WriteCmd Double} (sample : isSample cmd = true) :
    isControl cmd = false ∧ isEvent cmd = false := by
  obtain ⟨sequence, request⟩ := cmd
  cases request <;> simp_all [isControl, isControlCmd, isEvent, isSample]

theorem isControl_of_isEvent {cmd : WriteCmd Double} (event : isEvent cmd = true) :
    isControl cmd = false ∧ isSample cmd = false := by
  obtain ⟨sequence, request⟩ := cmd
  cases request <;> simp_all [isControl, isControlCmd, isEvent, isSample]

abbrev olderCmd (control cmd : WriteCmd Double) : Bool :=
  older WriteCmd.sequence WriteCmd.sessionUuid barrier control cmd

theorem partition_older (control : WriteCmd Double) {queue : List (WriteCmd Double)}
    {taken : WriteCmd Double → Bool}
    (agrees : ∀ cmd ∈ queue, taken cmd = olderCmd control cmd) :
    queue.partition taken =
      (queue.filter (olderCmd control), queue.filter fun cmd => !olderCmd control cmd) := by
  rw [List.partition_eq_filter_filter]
  refine Prod.ext (List.filter_congr agrees) (List.filter_congr fun cmd member => ?_)
  simp [agrees cmd member]

theorem older_of_passes {control : WriteCmd Double} (passes : barrier control = false)
    (queue : List (WriteCmd Double)) :
    (queue.filter (olderCmd control), queue.filter fun cmd => !olderCmd control cmd) =
      ([], queue) := by
  simp [olderCmd, older, passes]

theorem olderCmd_sample {control cmd : WriteCmd Double} {uuid : String}
    (isBarrier : barrier control = true) (named : control.sessionUuid = some uuid)
    (kind : isSample cmd = true) :
    (match cmd.request with
      | .insertSample sample =>
          decide (sample.sessionUuid = uuid) && decide (cmd.sequence < control.sequence)
      | _ => false) = olderCmd control cmd := by
  obtain ⟨sequence, data⟩ := cmd
  cases data with
  | insertSample sample =>
      rw [olderCmd, older, isBarrier, named]
      simp [WriteCmd.sessionUuid]
  | _ => cases kind

theorem extractSamples_eq (control : WriteCmd Double) {queue : List (WriteCmd Double)}
    (samples : ∀ cmd ∈ queue, isSample cmd = true) :
    extractOlderSessionSamples control queue =
      (queue.filter (olderCmd control), queue.filter fun cmd => !olderCmd control cmd) := by
  obtain ⟨number, request⟩ := control
  cases request with
  | endSession uuid | deleteSession uuid =>
      by_cases unnamed : uuid = ""
      · rw [older_of_passes (by simp [barrier, unnamed])]
        simp [extractOlderSessionSamples, unnamed]
      · simp only [extractOlderSessionSamples, if_neg unnamed]
        exact partition_older _ fun cmd member =>
          @olderCmd_sample _ ⟨number, _⟩ cmd uuid (by simp [barrier, unnamed]) rfl (samples cmd member)
  | beginSession metadata => exact (older_of_passes rfl queue).symm
  | insertSample sample => exact (older_of_passes rfl queue).symm
  | insertEvent event => exact (older_of_passes rfl queue).symm
  | prune => exact (older_of_passes rfl queue).symm

theorem olderCmd_event {control cmd : WriteCmd Double} {uuid : String}
    (isBarrier : barrier control = true) (named : control.sessionUuid = some uuid)
    (kind : isEvent cmd = true) :
    (match cmd.request with
      | .insertEvent event =>
          decide (event.sessionUuid = uuid) && decide (cmd.sequence < control.sequence)
      | _ => false) = olderCmd control cmd := by
  obtain ⟨sequence, data⟩ := cmd
  cases data with
  | insertEvent event =>
      rw [olderCmd, older, isBarrier, named]
      simp [WriteCmd.sessionUuid]
  | _ => cases kind

theorem extractEvents_eq (control : WriteCmd Double) {queue : List (WriteCmd Double)}
    (events : ∀ cmd ∈ queue, isEvent cmd = true) :
    extractOlderSessionEvents control queue =
      (queue.filter (olderCmd control), queue.filter fun cmd => !olderCmd control cmd) := by
  obtain ⟨number, request⟩ := control
  cases request with
  | endSession uuid | deleteSession uuid =>
      by_cases unnamed : uuid = ""
      · rw [older_of_passes (by simp [barrier, unnamed])]
        simp [extractOlderSessionEvents, unnamed]
      · simp only [extractOlderSessionEvents, if_neg unnamed]
        exact partition_older _ fun cmd member =>
          @olderCmd_event _ ⟨number, _⟩ cmd uuid (by simp [barrier, unnamed]) rfl (events cmd member)
  | beginSession metadata => exact (older_of_passes rfl queue).symm
  | insertSample sample => exact (older_of_passes rfl queue).symm
  | insertEvent event => exact (older_of_passes rfl queue).symm
  | prune => exact (older_of_passes rfl queue).symm

/-- The kinds of commands the three queues hold. -/
structure Sorted (controls samples events : List (WriteCmd Double)) : Prop where
  controls : ∀ cmd ∈ controls, isControl cmd = true
  samples : ∀ cmd ∈ samples, isSample cmd = true
  events : ∀ cmd ∈ events, isEvent cmd = true

variable {controls samples events : List (WriteCmd Double)}

theorem Sorted.tail {control : WriteCmd Double}
    (sorted : Sorted (control :: controls) samples events) :
    Sorted controls (samples.filter fun cmd => !olderCmd control cmd)
      (events.filter fun cmd => !olderCmd control cmd) where
  controls cmd member := sorted.controls cmd (List.mem_cons_of_mem _ member)
  samples cmd member := sorted.samples cmd (List.mem_filter.mp member).1
  events cmd member := sorted.events cmd (List.mem_filter.mp member).1

theorem drainControls_cons {control : WriteCmd Double}
    (sorted : Sorted (control :: controls) samples events) :
    drainControls (control :: controls) samples events =
      let drained := drainControls controls
        (samples.filter fun cmd => !olderCmd control cmd)
        (events.filter fun cmd => !olderCmd control cmd)
      (samples.filter (olderCmd control) ++ events.filter (olderCmd control) ++
        control :: drained.1, drained.2) := by
  simp only [drainControls, extractSamples_eq control sorted.samples,
    extractEvents_eq control sorted.events]

/-- Leaving out what is not of a kind from a list all of that kind, or none of it. -/
theorem filter_kept {queue : List (WriteCmd Double)} {skipped : WriteCmd Double → Bool}
    (none : ∀ cmd ∈ queue, skipped cmd = false) : queue.filter (!skipped ·) = queue :=
  List.filter_eq_self.mpr fun cmd member => by simp [none cmd member]

theorem filter_skipped {queue : List (WriteCmd Double)} {skipped : WriteCmd Double → Bool}
    (all : ∀ cmd ∈ queue, skipped cmd = true) : queue.filter (!skipped ·) = [] :=
  List.filter_eq_nil_iff.mpr fun cmd member => by simp [all cmd member]

theorem isControl_notData {cmd : WriteCmd Double} (control : isControl cmd = true) :
    isSample cmd = false ∧ isEvent cmd = false := by
  obtain ⟨sequence, request⟩ := cmd
  cases request <;> simp_all [isControl, isControlCmd, isEvent, isSample]

theorem drainControls_samples (sorted : Sorted controls samples events) :
    ((drainControls controls samples events).1.filter (!isEvent ·),
      (drainControls controls samples events).2.1) =
      drain WriteCmd.sequence WriteCmd.sessionUuid barrier controls samples := by
  induction controls generalizing samples events with
  | nil => rfl
  | cons control controls ih =>
      have rest := ih sorted.tail
      have kept : (samples.filter (olderCmd control)).filter (!isEvent ·) =
          samples.filter (olderCmd control) :=
        filter_kept fun cmd member =>
          (isControl_of_isSample (sorted.samples cmd (List.mem_filter.mp member).1)).2
      have skipped : (events.filter (olderCmd control)).filter (!isEvent ·) = [] :=
        filter_skipped fun cmd member => sorted.events cmd (List.mem_filter.mp member).1
      have itself : (!isEvent control) = true := by
        simp [isControl_notData (sorted.controls control List.mem_cons_self)]
      rw [drainControls_cons sorted, drain, ← rest]
      simp only [List.filter_append, kept, skipped, List.append_nil, List.filter_cons, itself,
        if_true]

theorem drainControls_events (sorted : Sorted controls samples events) :
    ((drainControls controls samples events).1.filter (!isSample ·),
      (drainControls controls samples events).2.2) =
      drain WriteCmd.sequence WriteCmd.sessionUuid barrier controls events := by
  induction controls generalizing samples events with
  | nil => rfl
  | cons control controls ih =>
      have rest := ih sorted.tail
      have kept : (events.filter (olderCmd control)).filter (!isSample ·) =
          events.filter (olderCmd control) :=
        filter_kept fun cmd member =>
          (isControl_of_isEvent (sorted.events cmd (List.mem_filter.mp member).1)).2
      have skipped : (samples.filter (olderCmd control)).filter (!isSample ·) = [] :=
        filter_skipped fun cmd member => sorted.samples cmd (List.mem_filter.mp member).1
      have itself : (!isSample control) = true := by
        simp [isControl_notData (sorted.controls control List.mem_cons_self)]
      rw [drainControls_cons sorted, drain, ← rest]
      simp only [List.filter_append, kept, skipped, List.nil_append, List.filter_cons, itself,
        if_true]

theorem perm_regroup (first second third left right : List α) :
    (first ++ second ++ (third ++ left ++ right)).Perm
      (third ++ (first ++ left) ++ (second ++ right)) := by
  classical
  refine List.perm_iff_count.mpr fun item => ?_
  simp only [List.count_append]
  omega

theorem drainControls_perm (sorted : Sorted controls samples events) :
    ((drainControls controls samples events).1 ++ (drainControls controls samples events).2.1 ++
      (drainControls controls samples events).2.2).Perm (controls ++ samples ++ events) := by
  induction controls generalizing samples events with
  | nil => exact .refl _
  | cons control controls ih =>
      have rest := ih sorted.tail
      have samplesParted := List.filter_append_perm (olderCmd control) samples
      have eventsParted := List.filter_append_perm (olderCmd control) events
      rw [drainControls_cons sorted]
      refine List.Perm.trans ?_ (((samplesParted.append_left controls).append eventsParted).cons _)
      refine List.Perm.trans ?_ (List.Perm.cons control (List.Perm.trans
        (List.Perm.append_left (samples.filter (olderCmd control) ++
          events.filter (olderCmd control)) rest) ?_))
      · simp only [List.append_assoc, List.cons_append]
        exact (List.perm_middle.append_left _).trans List.perm_middle
      · exact perm_regroup _ _ _ _ _

end UmbraHost.History
