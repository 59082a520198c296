import Mathlib.Data.List.Basic
import Mathlib.Data.List.Induction
import Mathlib.Data.Nat.Init
import Mathlib.Order.Basic

/-! # Runs of a deterministic transition system

A system is a step function on states, driven by a list of events; whatever is
not determined by the state is part of the event.  The rules below carry a
property of one step to whole runs, also under a side condition that every step
of the run has to meet. -/

namespace UmbraHost.Transition

variable {State : Type u} {Event : Type v} (step : Event → State → State)

/-- The state after a list of events. -/
def run (events : List Event) (initial : State) : State :=
  events.foldl (fun state event => step event state) initial

@[simp] theorem run_nil (initial : State) : run step [] initial = initial := rfl

@[simp] theorem run_cons (event : Event) (rest : List Event) (initial : State) :
    run step (event :: rest) initial = run step rest (step event initial) := rfl

theorem run_append (first second : List Event) (initial : State) :
    run step (first ++ second) initial = run step second (run step first initial) := by
  simp [run]

/-- A part of the state that only the relevant events change, each as the part
alone determines, is the result of the relevant events. -/
theorem run_project {Part : Type w} (project : State → Part) (advance : Event → Part → Part)
    (relevant : Event → Bool) {events : List Event}
    (moves : ∀ event ∈ events, relevant event = true → ∀ state,
      project (step event state) = advance event (project state))
    (frame : ∀ event ∈ events, relevant event = false → ∀ state,
      project (step event state) = project state) (initial : State) :
    project (run step events initial) =
      run advance (events.filter relevant) (project initial) := by
  induction events generalizing initial with
  | nil => rfl
  | cons event rest ih =>
      have later := ih (fun other member => moves other (List.mem_cons_of_mem _ member))
        (fun other member => frame other (List.mem_cons_of_mem _ member)) (step event initial)
      rw [run_cons, later]
      cases kind : relevant event with
      | true =>
          rw [List.filter_cons_of_pos kind, run_cons, moves event List.mem_cons_self kind]
      | false =>
          rw [List.filter_cons_of_neg (by simp [kind]), frame event List.mem_cons_self kind]

/-- Every event of the run meets the condition in the state it is taken in. -/
def Meets (condition : Event → State → Prop) : List Event → State → Prop
  | [], _ => True
  | event :: rest, state => condition event state ∧ Meets condition rest (step event state)

instance decidableMeets (condition : Event → State → Prop)
    [decidable : ∀ event state, Decidable (condition event state)] :
    ∀ events initial, Decidable (Meets step condition events initial)
  | [], _ => inferInstanceAs (Decidable True)
  | event :: rest, state =>
    have := decidableMeets condition rest (step event state)
    inferInstanceAs (Decidable (condition event state ∧ _))

/-- A condition on the events alone. -/
theorem Meets.of_forall {condition : Event → Prop} {events : List Event}
    (all : ∀ event ∈ events, condition event) (initial : State) :
    Meets step (fun event _ => condition event) events initial := by
  induction events generalizing initial with
  | nil => trivial
  | cons event rest ih =>
      exact ⟨all event List.mem_cons_self,
        ih (fun other member => all other (List.mem_cons_of_mem _ member)) (step event initial)⟩

theorem Meets.append {condition : Event → State → Prop} {first second : List Event}
    {initial : State} (met : Meets step condition (first ++ second) initial) :
    Meets step condition first initial ∧
      Meets step condition second (run step first initial) := by
  induction first generalizing initial with
  | nil => exact ⟨trivial, met⟩
  | cons event rest ih =>
      obtain ⟨now, later⟩ := met
      obtain ⟨front, back⟩ := ih later
      exact ⟨⟨now, front⟩, back⟩

theorem Meets.concat {condition : Event → State → Prop} {events : List Event} {initial : State}
    {last : Event} (met : Meets step condition events initial)
    (now : condition last (run step events initial)) :
    Meets step condition (events ++ [last]) initial := by
  induction events generalizing initial with
  | nil => exact ⟨now, trivial⟩
  | cons event rest ih => exact ⟨met.1, ih met.2 now⟩

/-- Invariant rule under a side condition on the steps. -/
theorem run_preserves_of_meets {condition : Event → State → Prop} (invariant : State → Prop)
    (preserved : ∀ event state, condition event state → invariant state →
      invariant (step event state))
    {events : List Event} {initial : State} (met : Meets step condition events initial)
    (holds : invariant initial) : invariant (run step events initial) := by
  induction events generalizing initial with
  | nil => exact holds
  | cons event rest ih => exact ih met.2 (preserved event initial met.1 holds)

/-- What every step keeps if and only if it meets the condition, a run keeps if and only if all
its steps meet it. -/
theorem run_iff_meets {condition : Event → State → Prop} (invariant good : State → Prop)
    (kept : ∀ event state, invariant state → invariant (step event state))
    (moves : ∀ event state, invariant state →
      (good (step event state) ↔ good state ∧ condition event state))
    (events : List Event) {initial : State} (holds : invariant initial) :
    good (run step events initial) ↔ good initial ∧ Meets step condition events initial := by
  induction events generalizing initial with
  | nil => exact (and_iff_left trivial).symm
  | cons event rest ih =>
      rw [run_cons, ih (kept event initial holds), moves event initial holds, and_assoc]
      rfl

/-- A property that each step from where it holds keeps if and only if the step meets the
condition. -/
theorem reached_iff_meets {condition : Event → State → Prop} (invariant good : State → Prop)
    (kept : ∀ event state, invariant state → invariant (step event state))
    (moves : ∀ event state, invariant state → good state →
      (good (step event state) ↔ condition event state))
    (events : List Event) {initial : State} (holds : invariant initial) (start : good initial) :
    (∀ past, past <+: events → good (run step past initial)) ↔
      Meets step condition events initial := by
  induction events generalizing initial with
  | nil =>
      refine iff_of_true ?_ trivial
      intro past before
      rw [List.prefix_nil.mp before]
      exact start
  | cons event rest ih =>
      constructor
      · intro all
        have first : good (step event initial) := all [event] (List.prefix_append [event] rest)
        refine ⟨(moves event initial holds start).mp first, ?_⟩
        apply (ih (kept event initial holds) first).mp
        intro past before
        exact all (event :: past) (List.cons_prefix_cons.mpr ⟨rfl, before⟩)
      · intro ⟨now, later⟩ past before
        have first := (moves event initial holds start).mpr now
        cases past with
        | nil => exact start
        | cons other past =>
            obtain ⟨same, inside⟩ := List.cons_prefix_cons.mp before
            subst same
            exact (ih (kept other initial holds) first).mpr later past inside

/-- Invariant rule. -/
theorem run_preserves (invariant : State → Prop)
    (preserved : ∀ event state, invariant state → invariant (step event state))
    (events : List Event) {initial : State} (holds : invariant initial) :
    invariant (run step events initial) := by
  induction events generalizing initial with
  | nil => exact holds
  | cons event rest ih => exact ih (preserved event initial holds)

/-- Invariant rule for a property of the state and of the events that led to it. -/
theorem run_preserves_history {condition : Event → State → Prop}
    (invariant : List Event → State → Prop) {initial : State} (base : invariant [] initial)
    (preserved : ∀ past event, condition event (run step past initial) →
      invariant past (run step past initial) →
      invariant (past ++ [event]) (run step (past ++ [event]) initial))
    (events : List Event) (met : Meets step condition events initial) :
    invariant events (run step events initial) := by
  induction events using List.reverseRecOn with
  | nil => exact base
  | append_singleton past event ih =>
      obtain ⟨earlier, last⟩ := Meets.append step met
      exact preserved past event last.1 (ih earlier)

/-! ## What occurs in a run -/

/-- Some event of the run is taken in a state that meets the condition with it. -/
def Occurs (condition : Event → State → Prop) : List Event → State → Prop
  | [], _ => False
  | event :: rest, state => condition event state ∨ Occurs condition rest (step event state)

variable {condition : Event → State → Prop}

theorem occurs_append {first second : List Event} {initial : State} :
    Occurs step condition (first ++ second) initial ↔
      Occurs step condition first initial ∨
        Occurs step condition second (run step first initial) := by
  induction first generalizing initial with
  | nil => simp [Occurs]
  | cons event rest ih => simp only [List.cons_append, Occurs, ih, run_cons, or_assoc]

theorem occurs_concat {events : List Event} {last : Event} {initial : State} :
    Occurs step condition (events ++ [last]) initial ↔
      Occurs step condition events initial ∨ condition last (run step events initial) := by
  rw [occurs_append]
  simp [Occurs]

section

/-! ## Fair schedules

An infinite schedule of events and the states it goes through.  A move that stays possible
is taken at some time, so what the move brings about is reached. -/

variable {State : Type u} {Event : Type v} (step : Event → State → State)
  (schedule : Nat → Event) (initial : State)

/-- The state before each event of a schedule. -/
def execution : Nat → State
  | 0 => initial
  | time + 1 => step (schedule time) (execution time)

@[simp] theorem execution_zero : execution step schedule initial 0 = initial := rfl

@[simp] theorem execution_succ (time : Nat) :
    execution step schedule initial (time + 1) =
      step (schedule time) (execution step schedule initial time) := rfl

/-- The states of a schedule are those its finite runs end in. -/
theorem execution_eq_run (time : Nat) :
    execution step schedule initial time = run step ((List.range time).map schedule) initial := by
  induction time with
  | zero => rfl
  | succ time ih =>
      rw [execution_succ, ih, List.range_succ, List.map_append, run_append]
      rfl

/-- A move that stays enabled from some time on is taken at some later time. -/
def WeaklyFair (enabled : State → Prop) (move : Event → Prop) : Prop :=
  ∀ start, (∀ time, start ≤ time → enabled (execution step schedule initial time)) →
    ∃ time, start ≤ time ∧ move (schedule time)

/-- Progress rule: until the goal is reached the move stays enabled, and the move reaches it. -/
theorem WeaklyFair.leads {step} {schedule : Nat → Event} {initial : State}
    {enabled : State → Prop} {move : Event → Prop}
    (fair : WeaklyFair step schedule initial enabled move) (before goal : State → Prop)
    (waits : ∀ event state, before state → before (step event state) ∨ goal (step event state))
    (ready : ∀ state, before state → enabled state)
    (moves : ∀ event state, move event → before state → goal (step event state)) {start : Nat}
    (holds : before (execution step schedule initial start)) :
    ∃ time, start ≤ time ∧ goal (execution step schedule initial time) := by
  by_contra! never
  have stays : ∀ time, start ≤ time → before (execution step schedule initial time) := by
    intro time later
    induction time, later using Nat.le_induction with
    | base => exact holds
    | succ time later ih =>
        rcases waits (schedule time) _ ih with still | reached
        · exact still
        · exact absurd reached (never (time + 1) (Nat.le_succ_of_le later))
  obtain ⟨time, later, moved⟩ := fair start fun time later => ready _ (stays time later)
  exact never (time + 1) (Nat.le_succ_of_le later) (moves (schedule time) _ moved (stays time later))

/-- Rule of a measure: each time the goal is not there yet, it comes or the measure falls. -/
theorem leads_of_measure {step} {schedule : Nat → Event} {initial : State}
    (before goal : State → Prop) (measure : State → Nat)
    (falls : ∀ start, before (execution step schedule initial start) →
      ∃ time, start ≤ time ∧ (goal (execution step schedule initial time) ∨
        before (execution step schedule initial time) ∧
          measure (execution step schedule initial time) <
            measure (execution step schedule initial start))) {start : Nat}
    (holds : before (execution step schedule initial start)) :
    ∃ time, start ≤ time ∧ goal (execution step schedule initial time) := by
  induction amount : measure (execution step schedule initial start) using Nat.strongRecOn
      generalizing start with
  | ind amount ih =>
      obtain ⟨later, after, reached | ⟨still, less⟩⟩ := falls start holds
      · exact ⟨later, after, reached⟩
      · obtain ⟨time, behind, reached⟩ := ih _ (by omega) still rfl
        exact ⟨time, Nat.le_trans after behind, reached⟩

end

section

/-! ## Histories of timed events

The events of a history carry the clock value they were read at, and the clock
never goes back.  The latest event of a kind splits a history into what came
before it and what came since. -/

section Latest

variable {Event : Type u} (kind : Event → Bool)

/-- The latest event of a kind. -/
def latest (events : List Event) : Option Event :=
  events.reverse.find? kind

/-- The events after the latest one of a kind; all events when there is none. -/
def sinceLatest (events : List Event) : List Event :=
  (events.reverse.takeWhile fun event => !kind event).reverse

@[simp, grind =] theorem latest_nil : latest kind [] = none := rfl

@[simp, grind =] theorem sinceLatest_nil : sinceLatest kind [] = [] := rfl

@[simp, grind =] theorem latest_concat (events : List Event) (event : Event) :
    latest kind (events ++ [event]) = if kind event then some event else latest kind events := by
  simp only [latest, List.reverse_append, List.reverse_singleton, List.singleton_append,
    List.find?_cons]
  cases kind event <;> rfl

@[simp, grind =] theorem sinceLatest_concat (events : List Event) (event : Event) :
    sinceLatest kind (events ++ [event]) =
      if kind event then [] else sinceLatest kind events ++ [event] := by
  simp only [sinceLatest, List.reverse_append, List.reverse_singleton, List.singleton_append,
    List.takeWhile_cons]
  cases kind event <;> simp

variable {kind} {events : List Event} {event : Event}

theorem mem_of_latest (found : latest kind events = some event) : event ∈ events :=
  List.mem_reverse.mp (List.mem_of_find?_eq_some found)

theorem mem_of_mem_sinceLatest (member : event ∈ sinceLatest kind events) : event ∈ events :=
  List.mem_reverse.mp ((List.takeWhile_sublist _).subset (List.mem_reverse.mp member))

theorem kind_of_mem_sinceLatest (member : event ∈ sinceLatest kind events) :
    kind event = false := by
  simpa using List.all_eq_true.mp List.all_takeWhile event (List.mem_reverse.mp member)

/-- The history, split at the latest event of the kind. -/
theorem split_latest (found : latest kind events = some event) :
    ∃ front, events = front ++ event :: sinceLatest kind events := by
  induction events using List.reverseRecOn with
  | nil => simp at found
  | append_singleton past last ih =>
      rw [latest_concat] at found
      rw [sinceLatest_concat]
      cases latter : kind last with
      | true =>
          rw [if_pos latter] at found
          obtain rfl := Option.some.inj found
          exact ⟨past, by simp⟩
      | false =>
          rw [if_neg (by simp [latter])] at found
          obtain ⟨front, split⟩ := ih found
          refine ⟨front, ?_⟩
          rw [if_neg (by simp), ← List.cons_append, ← List.append_assoc, ← split]

end Latest

section Clock

variable {Time : Type u} [Preorder Time] {Event : Type v}

/-- The events of the history are taken at clock values that never go back. -/
def Chronological (events : List (Time × Event)) : Prop :=
  events.Pairwise fun earlier later => earlier.1 ≤ later.1

instance [DecidableLE Time] (events : List (Time × Event)) : Decidable (Chronological events) :=
  inferInstanceAs (Decidable (List.Pairwise _ events))

theorem chronological_concat {past : List (Time × Event)} {last : Time × Event} :
    Chronological (past ++ [last]) ↔ Chronological past ∧ ∀ event ∈ past, event.1 ≤ last.1 := by
  simp [Chronological, List.pairwise_append]

end Clock

end

end UmbraHost.Transition
