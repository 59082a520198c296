import Mathlib.Data.List.Chain
import Mathlib.Data.List.Perm.Basic

/-! # A control queue that overtakes a data queue

Controls and data arrive numbered and wait in two queues; a drain takes the
controls first.  Only a barrier waits for older data: the data of its own key
goes out just before it.  Each key then still sees its entries in the order of
their numbers, provided that a control which directly follows data of its key
is a barrier. -/

namespace UmbraHost.Queue

variable {α : Type u} {Key : Type v} [DecidableEq Key]
variable (sequence : α → Nat) (key : α → Key) (barrier data : α → Bool)

/-- The data that a control takes along. -/
def older (control item : α) : Bool :=
  barrier control && decide (key item = key control) &&
    decide (sequence item < sequence control)

/-- What a drain of the controls takes, and the data that stays. -/
def drain : List α → List α → List α × List α
  | [], waiting => ([], waiting)
  | control :: controls, waiting =>
      let drained := drain controls
        (waiting.filter fun item => !older sequence key barrier control item)
      (waiting.filter (older sequence key barrier control) ++ control :: drained.1, drained.2)

/-- What was drained, and after it the data that stays. -/
def drainedOrder (controls waiting : List α) : List α :=
  (drain sequence key barrier controls waiting).1 ++
    (drain sequence key barrier controls waiting).2

@[simp] theorem drainedOrder_nil (waiting : List α) :
    drainedOrder sequence key barrier [] waiting = waiting := rfl

theorem drainedOrder_cons (control : α) (controls waiting : List α) :
    drainedOrder sequence key barrier (control :: controls) waiting =
      waiting.filter (older sequence key barrier control) ++ control ::
        drainedOrder sequence key barrier controls
          (waiting.filter fun item => !older sequence key barrier control item) := by
  simp only [drainedOrder, drain, List.append_assoc, List.cons_append]

theorem drain_rest_sublist (controls waiting : List α) :
    (drain sequence key barrier controls waiting).2.Sublist waiting := by
  induction controls generalizing waiting with
  | nil => exact .refl _
  | cons control controls ih => exact (ih _).trans List.filter_sublist

/-- The entries of one key. -/
def stream (wanted : Key) (items : List α) : List α :=
  items.filter fun item => decide (key item = wanted)

/-- Among the entries of one key, a control directly after data is a barrier. -/
def Guarded (items : List α) : Prop :=
  items.IsChain fun first second =>
    data first = true → data second = false → barrier second = true

@[simp] theorem stream_append (wanted : Key) (first second : List α) :
    stream key wanted (first ++ second) = stream key wanted first ++ stream key wanted second :=
  List.filter_append ..

theorem stream_cons_of_eq {wanted : Key} {item : α} (same : key item = wanted) (items : List α) :
    stream key wanted (item :: items) = item :: stream key wanted items :=
  List.filter_cons_of_pos (decide_eq_true same)

theorem stream_cons_of_ne {wanted : Key} {item : α} (different : key item ≠ wanted)
    (items : List α) : stream key wanted (item :: items) = stream key wanted items :=
  List.filter_cons_of_neg (by simpa using different)

/-- The older data of the first control is the data held before it. -/
theorem filter_older {held rest : List α} {control : α}
    (increasing : (held ++ control :: rest).Pairwise fun a b => sequence a < sequence b) :
    (held ++ rest).filter (older sequence key barrier control) =
      if barrier control then stream key (key control) held else [] := by
  obtain ⟨_, tail, across⟩ := List.pairwise_append.mp increasing
  obtain ⟨after, _⟩ := List.pairwise_cons.mp tail
  have none : rest.filter (older sequence key barrier control) = [] := by
    refine List.filter_eq_nil_iff.mpr fun item member taken => ?_
    have later := after item member
    simp only [older, Bool.and_eq_true, decide_eq_true_eq] at taken
    omega
  rw [List.filter_append, none, List.append_nil]
  split
  · rename_i isBarrier
    refine List.filter_congr fun item member => ?_
    have earlier := across item member control List.mem_cons_self
    simp [older, isBarrier, earlier]
  · rename_i passes
    refine List.filter_eq_nil_iff.mpr fun item _ taken => passes ?_
    simp only [older, Bool.and_eq_true] at taken
    exact taken.1.1

theorem filter_not_older {held rest : List α} {control : α}
    (increasing : (held ++ control :: rest).Pairwise fun a b => sequence a < sequence b) :
    (held ++ rest).filter (fun item => !older sequence key barrier control item) =
      (if barrier control then held.filter (fun item => !decide (key item = key control))
        else held) ++ rest := by
  obtain ⟨_, tail, across⟩ := List.pairwise_append.mp increasing
  obtain ⟨after, _⟩ := List.pairwise_cons.mp tail
  have all : rest.filter (fun item => !older sequence key barrier control item) = rest := by
    refine List.filter_eq_self.mpr fun item member => ?_
    have later := after item member
    have notBefore : ¬ sequence item < sequence control := by omega
    simp [older, notBefore]
  rw [List.filter_append, all]
  refine congrArg (· ++ rest) ?_
  split
  · rename_i isBarrier
    refine List.filter_congr fun item member => ?_
    have earlier := across item member control List.mem_cons_self
    simp [older, isBarrier, earlier]
  · rename_i passes
    refine List.filter_eq_self.mpr fun item _ => ?_
    simp [older, passes]

theorem stream_others_of_eq (wanted : Key) (items : List α) :
    stream key wanted (items.filter fun item => !decide (key item = wanted)) = [] := by
  rw [stream, List.filter_filter, List.filter_eq_nil_iff]
  intro item _ both
  cases same : decide (key item = wanted) <;> simp [same] at both

theorem stream_others_of_ne {wanted removed : Key} (different : wanted ≠ removed)
    (items : List α) : stream key wanted
      (items.filter fun item => !decide (key item = removed)) = stream key wanted items := by
  rw [stream, stream, List.filter_filter]
  refine List.filter_congr fun item _ => ?_
  by_cases same : key item = wanted
  · simp [same, different]
  · simp [same]

variable {barrier data}

theorem Guarded.tail {first : α} {rest : List α} (guarded : Guarded barrier data (first :: rest)) :
    Guarded barrier data rest :=
  List.IsChain.tail guarded

theorem Guarded.of_append {first second : List α}
    (guarded : Guarded barrier data (first ++ second)) : Guarded barrier data second :=
  List.IsChain.right_of_append guarded

/-- No data stands directly before a control that is not a barrier. -/
theorem Guarded.held_nil {held rest : List α} {control : α}
    (guarded : Guarded barrier data (held ++ control :: rest))
    (allData : ∀ item ∈ held, data item = true) (isControl : data control = false)
    (passes : barrier control = false) : held = [] := by
  refine Classical.byContradiction fun nonempty => ?_
  obtain ⟨_, _, across⟩ := List.isChain_append.mp guarded
  have last := List.getLast?_eq_some_getLast nonempty
  have joined := across _ last control rfl
    (allData _ (List.getLast_mem nonempty)) isControl
  exact Bool.false_ne_true (passes.symm.trans joined)

theorem stream_idem (wanted : Key) (items : List α) :
    stream key wanted (stream key wanted items) = stream key wanted items := by
  simp only [stream, List.filter_filter, Bool.and_self]

theorem stream_of_ne {wanted other : Key} (different : other ≠ wanted) (items : List α) :
    stream key wanted (stream key other items) = [] := by
  rw [stream, stream, List.filter_filter, List.filter_eq_nil_iff]
  intro item _ both
  simp only [Bool.and_eq_true, decide_eq_true_eq] at both
  exact different (both.2.symm.trans both.1)

/-- Leaving data out cannot put a control after data that it was not after. -/
theorem Guarded.next_of_skipped {skipped : α → Bool}
    (skips : ∀ item, skipped item = true → data item = true) {first : α} {rest : List α}
    (guarded : Guarded barrier data (first :: rest)) (isData : data first = true) :
    ∀ next ∈ (rest.filter (!skipped ·)).head?, data next = false → barrier next = true := by
  induction rest generalizing first with
  | nil => exact nofun
  | cons second rest ih =>
      obtain ⟨joined, tail⟩ := List.isChain_cons_cons.mp guarded
      cases kind : skipped second with
      | true =>
          rw [List.filter_cons_of_neg (by simp [kind])]
          exact ih tail (skips second kind)
      | false =>
          rw [List.filter_cons_of_pos (by simp [kind])]
          intro next isNext
          cases isNext
          exact joined isData

theorem Guarded.filter {skipped : α → Bool}
    (skips : ∀ item, skipped item = true → data item = true) {items : List α}
    (guarded : Guarded barrier data items) :
    Guarded barrier (fun item => data item && !skipped item) (items.filter (!skipped ·)) := by
  induction items with
  | nil => exact .nil
  | cons first rest ih =>
      cases kind : skipped first with
      | true =>
          rw [List.filter_cons_of_neg (by simp [kind])]
          exact ih guarded.tail
      | false =>
          rw [List.filter_cons_of_pos (by simp [kind])]
          refine List.isChain_cons.mpr ⟨fun next isNext isData isControl => ?_, ih guarded.tail⟩
          have wasData := (Bool.and_eq_true_iff.mp isData).1
          have kept := (List.mem_filter.mp (List.mem_of_mem_head? isNext)).2
          refine guarded.next_of_skipped skips wasData next isNext ?_
          simpa [kept] using isControl

/-- The induction is on the entries from the first control on; the data before it
is held back. -/
theorem stream_drainedOrder_held (wanted : Key) {held pending : List α}
    (allData : ∀ item ∈ held, data item = true)
    (increasing : (held ++ pending).Pairwise fun a b => sequence a < sequence b)
    (guarded : Guarded barrier data (stream key wanted (held ++ pending))) :
    stream key wanted (drainedOrder sequence key barrier (pending.filter (!data ·))
      (held ++ pending.filter data)) = stream key wanted (held ++ pending) := by
  induction pending generalizing held with
  | nil => simp
  | cons item rest ih =>
      cases kind : data item with
      | true =>
          have moved : held ++ item :: rest = (held ++ [item]) ++ rest := by simp
          have stillData : ∀ other ∈ held ++ [item], data other = true := by
            intro other member
            rcases List.mem_append.mp member with old | new
            · exact allData other old
            · rw [List.mem_singleton.mp new]
              exact kind
          rw [moved] at increasing guarded
          have step := ih stillData increasing guarded
          simpa [kind] using step
      | false =>
          have apart : (held ++ item :: rest.filter data).Pairwise fun a b =>
              sequence a < sequence b :=
            increasing.sublist (.append_left (.cons_cons _ List.filter_sublist) held)
          have later : (held ++ rest).Pairwise fun a b => sequence a < sequence b :=
            increasing.sublist (.append_left (List.sublist_cons_self _ _) held)
          rw [List.filter_cons_of_pos (by simp [kind]), List.filter_cons_of_neg (by simp [kind]),
            drainedOrder_cons, filter_older sequence key barrier apart,
            filter_not_older sequence key barrier apart, stream_append, stream_append]
          rw [stream_append] at guarded
          cases passes : barrier item with
          | true =>
              have kept := List.filter_sublist (l := held)
                (p := fun other => !decide (key other = key item))
              have step := ih (fun other member => allData other (kept.subset member))
                (later.sublist (kept.append_right rest))
              rw [stream_append] at step
              simp only [if_true]
              by_cases same : key item = wanted
              · subst same
                rw [stream_others_of_eq, List.nil_append] at step
                rw [stream_cons_of_eq key rfl] at guarded
                rw [stream_idem, stream_cons_of_eq key rfl, stream_cons_of_eq key rfl,
                  step guarded.of_append.tail]
              · rw [stream_others_of_ne key (Ne.symm same)] at step
                rw [stream_cons_of_ne key same] at guarded
                rw [stream_of_ne key same, stream_cons_of_ne key same,
                  stream_cons_of_ne key same, List.nil_append, step guarded]
          | false =>
              have step := ih allData later
              rw [stream_append] at step
              simp only [Bool.false_eq_true, if_false]
              by_cases same : key item = wanted
              · rw [stream_cons_of_eq key same] at guarded
                have clear : stream key wanted held = [] :=
                  guarded.held_nil
                    (fun other member => allData other (List.mem_filter.mp member).1) kind passes
                rw [clear, List.nil_append] at step guarded
                rw [stream_cons_of_eq key same, stream_cons_of_eq key same, clear,
                  step guarded.tail]
                rfl
              · rw [stream_cons_of_ne key same] at guarded
                rw [stream_cons_of_ne key same, stream_cons_of_ne key same, step guarded]
                rfl

/-- A drain keeps the order of every guarded key. -/
theorem stream_drainedOrder (wanted : Key) {pending : List α}
    (increasing : pending.Pairwise fun a b => sequence a < sequence b)
    (guarded : Guarded barrier data (stream key wanted pending)) :
    stream key wanted (drainedOrder sequence key barrier (pending.filter (!data ·))
      (pending.filter data)) = stream key wanted pending := by
  have nothingHeld : ∀ item ∈ ([] : List α), data item = true := nofun
  exact stream_drainedOrder_held sequence key wanted nothingHeld increasing guarded

end UmbraHost.Queue
