import Mathlib.Data.List.Destutter

/-! # A queue of barriers and superseding intents

Barriers keep their place and are all served.  Of the other entries only the
newest is wanted: it replaces whatever intent still waits.  The moves of the
queue are the entries that came in and the entries taken from the front; an
intent that is replaced leaves no move. -/

namespace UmbraHost.Queue

variable {α : Type u} (barrier : α → Bool)

def enqueue (entry : α) (queue : List α) : List α :=
  (if barrier entry then queue else queue.filter barrier) ++ [entry]

/-- Exactly the entry itself joins the barriers, and only if it is one. -/
theorem enqueue_barriers (entry : α) (queue : List α) :
    (enqueue barrier entry queue).filter barrier =
      queue.filter barrier ++ [entry].filter barrier := by
  simp only [enqueue, List.filter_append]
  split
  · rfl
  · rw [List.filter_filter]
    simp only [Bool.and_self]

/-- An intent survives a newer intent only by being that intent. -/
theorem mem_enqueue_of_intent {waiting entry : α} {queue : List α}
    (intent : barrier waiting = false) (newer : barrier entry = false) :
    waiting ∈ enqueue barrier entry queue ↔ waiting = entry := by
  simp [enqueue, newer, intent]

inductive Move (α : Type u) where
  | push (entry : α)
  | pop (entry : α)

def Move.pushed? : Move α → Option α
  | .push entry => some entry
  | .pop _ => none

def Move.popped? : Move α → Option α
  | .push _ => none
  | .pop entry => some entry

@[simp] theorem pushed_push (entry : α) : [Move.push entry].filterMap Move.pushed? = [entry] := rfl

@[simp] theorem pushed_pop (entry : α) : [Move.pop entry].filterMap Move.pushed? = [] := rfl

@[simp] theorem popped_push (entry : α) : [Move.push entry].filterMap Move.popped? = [] := rfl

@[simp] theorem popped_pop (entry : α) : [Move.pop entry].filterMap Move.popped? = [entry] := rfl

/-- What the moves so far say about the queue. -/
structure Ledger (moves : List (Move α)) (queue : List α) : Prop where
  barriers : (moves.filterMap Move.pushed?).filter barrier =
    (moves.filterMap Move.popped?).filter barrier ++ queue.filter barrier
  intents : queue.filter (!barrier ·) = [] ∨
    ∃ newest, ((moves.filterMap Move.pushed?).filter (!barrier ·)).getLast? = some newest ∧
      queue.filter (!barrier ·) = [newest]

variable {barrier} {moves : List (Move α)} {queue : List α}

theorem Ledger.empty : Ledger barrier [] [] where
  barriers := rfl
  intents := .inl rfl

theorem Ledger.push (ledger : Ledger barrier moves queue) (entry : α) :
    Ledger barrier (moves ++ [.push entry]) (enqueue barrier entry queue) where
  barriers := by
    rw [enqueue_barriers, List.filterMap_append, List.filterMap_append, pushed_push, popped_push,
      List.filter_append, ledger.barriers, List.append_nil, List.append_assoc]
  intents := by
    cases kind : barrier entry with
    | true => simpa [enqueue, kind] using ledger.intents
    | false => exact .inr ⟨entry, by simp [kind], by simp [enqueue, kind]⟩

theorem Ledger.pop {front : α} (ledger : Ledger barrier moves (front :: queue)) :
    Ledger barrier (moves ++ [.pop front]) queue where
  barriers := by
    have split : (front :: queue).filter barrier =
        [front].filter barrier ++ queue.filter barrier := by
      rw [← List.filter_append, List.singleton_append]
    rw [List.filterMap_append, List.filterMap_append, pushed_pop, popped_pop, List.append_nil,
      ledger.barriers, split, List.filter_append, List.append_assoc]
  intents := by
    cases kind : barrier front with
    | true => simpa [kind] using ledger.intents
    | false =>
        left
        rcases ledger.intents with none | ⟨newest, _, only⟩
        · simp [kind] at none
        · rw [List.filter_cons_of_pos (by simp [kind])] at only
          exact (List.cons.inj only).2

section

/-! ## Sequences with superseded items left out

An item may be left out when the one directly after it says the same. -/

variable {α : Type u} {β : Type v}

inductive Thinned (same : α → α → Prop) : List α → List α → Prop where
  | nil : Thinned same [] []
  | keep {item rest kept} (later : Thinned same rest kept) :
      Thinned same (item :: rest) (item :: kept)
  | drop {item next rest kept} (superseded : same item next)
      (later : Thinned same (next :: rest) kept) : Thinned same (item :: next :: rest) kept

namespace Thinned

variable {same : α → α → Prop} {items kept : List α} {key : α → β}

theorem head?_map (thinned : Thinned same items kept)
    (agree : ∀ item next, same item next → key item = key next) :
    (kept.map key).head? = (items.map key).head? := by
  induction thinned with
  | nil => rfl
  | keep _ _ => rfl
  | @drop item next rest kept superseded _ ih =>
      rw [ih, List.map_cons, List.map_cons, List.map_cons, List.head?_cons, List.head?_cons,
        agree item next superseded]

variable [DecidableEq β]

theorem destutter_cons (first : β) (rest : List β) :
    (first :: rest).destutter (· ≠ ·) =
      if rest.head? = some first then rest.destutter (· ≠ ·)
      else first :: rest.destutter (· ≠ ·) := by
  cases rest with
  | nil => rfl
  | cons second rest =>
      rw [List.destutter_cons_cons, List.head?_cons, List.destutter_cons']
      by_cases same : second = first
      · rw [same, if_pos rfl, if_neg (fun differs => differs rfl)]
      · rw [if_neg (fun equal => same (Option.some.inj equal)), if_pos (Ne.symm same)]

/-- What the items agree on changes in the same way. -/
theorem destutter_map (thinned : Thinned same items kept)
    (agree : ∀ item next, same item next → key item = key next) :
    (kept.map key).destutter (· ≠ ·) = (items.map key).destutter (· ≠ ·) := by
  induction thinned with
  | nil => rfl
  | @keep item rest kept later ih =>
      rw [List.map_cons, List.map_cons, destutter_cons, destutter_cons, ih,
        later.head?_map agree]
  | @drop item next rest kept superseded _ ih =>
      have behind : ((next :: rest).map key).head? = some (key item) := by
        rw [agree item next superseded, List.map_cons, List.head?_cons]
      exact ih.trans (((destutter_cons _ _).trans (if_pos behind)).symm)

end Thinned

end

end UmbraHost.Queue
