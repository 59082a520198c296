import Mathlib.Data.List.Basic

/-! # A table updated through a queue

Updates of the keys of a table wait in a queue until they are taken over one by one.  What
a key is settled on is what its last waiting update says, or the table if none waits. -/

namespace UmbraHost.Queue

variable {Key : Type u} {Value : Type v}

structure Updates (Key : Type u) (Value : Type v) where
  queue : List (Key × Option Value) := []
  table : Key → Option Value := fun _ => none

namespace Updates

variable [DecidableEq Key] (updates : Updates Key Value)

def post (update : Key × Option Value) : Updates Key Value :=
  { updates with queue := updates.queue ++ [update] }

/-- The first update is taken over. -/
def take : Updates Key Value :=
  match updates.queue with
  | [] => updates
  | (key, value) :: rest => { queue := rest, table := Function.update updates.table key value }

/-- The waiting updates of a key. -/
def waiting (key : Key) : List (Option Value) :=
  (updates.queue.filter fun update => update.1 = key).map Prod.snd

def settled (key : Key) : Option Value := (updates.waiting key).getLastD (updates.table key)

variable {updates} {key : Key}

theorem waiting_post_self (value : Option Value) :
    (updates.post (key, value)).waiting key = updates.waiting key ++ [value] := by
  simp [waiting, post]

theorem waiting_post_other {update : Key × Option Value} (other : update.1 ≠ key) :
    (updates.post update).waiting key = updates.waiting key := by
  simp [waiting, post, other]

theorem settled_post_self (value : Option Value) :
    (updates.post (key, value)).settled key = value := by
  simp [settled, waiting_post_self]

theorem settled_post_other {update : Key × Option Value} (other : update.1 ≠ key) :
    (updates.post update).settled key = updates.settled key := by
  rw [settled, waiting_post_other other, settled]
  rfl

/-- Taking an update over settles nothing anew. -/
theorem settled_take : updates.take.settled key = updates.settled key := by
  cases queue : updates.queue with
  | nil => simp only [take, queue]
  | cons update rest =>
      obtain ⟨changed, value⟩ := update
      have waits : updates.waiting key = if changed = key then value :: updates.take.waiting key
          else updates.take.waiting key := by
        by_cases same : changed = key <;> simp [take, waiting, queue, same]
      have table : updates.take.table = Function.update updates.table changed value := by
        simp only [take, queue]
      by_cases same : changed = key
      · rw [settled, settled, waits, if_pos same, List.getLastD_cons, table, same,
          Function.update_self]
      · rw [settled, settled, waits, if_neg same, table,
          Function.update_of_ne (Ne.symm same)]

theorem waiting_take (none : updates.waiting key = []) : updates.take.waiting key = [] := by
  cases queue : updates.queue with
  | nil => simpa only [take, queue] using none
  | cons update rest =>
      simp only [waiting, queue, List.map_eq_nil_iff, List.filter_eq_nil_iff] at none
      simp only [take, queue, waiting, List.map_eq_nil_iff, List.filter_eq_nil_iff]
      exact fun later member => none later (List.mem_cons_of_mem _ member)

theorem waiting_of_queue_nil (empty : updates.queue = []) : updates.waiting key = [] := by
  simp [waiting, empty]

theorem table_of_waiting_nil (none : updates.waiting key = []) :
    updates.table key = updates.settled key := by
  simp [settled, none]

end Updates

end UmbraHost.Queue
