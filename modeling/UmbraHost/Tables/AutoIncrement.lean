import Mathlib.Data.List.Basic

/-! # Tables with automatic row ids

Every inserted row takes an id above all earlier ones, so the rows in id order
are the rows in insertion order.  What such a table says apart from the ids it
happened to hand out is the list of its values in that order. -/

namespace UmbraHost.Tables

structure AutoTable (α : Type u) where
  rows : List (Nat × α)
  nextId : Nat
  increasing : rows.Pairwise (fun earlier later => earlier.1 < later.1)
  below : ∀ row ∈ rows, row.1 < nextId

/-- Among equally new rows the one with the greater id comes first. -/
def precedes (newer : α → α → Bool) (row pivot : Nat × α) : Bool :=
  newer row.2 pivot.2 || (!newer pivot.2 row.2 && decide (pivot.1 < row.1))

/-- The number of rows that come before one in descending order. -/
def rank (newer : α → α → Bool) (rows : List (Nat × α)) (row : Nat × α) : Nat :=
  rows.countP (precedes newer · row)

/-- What a descending order keeps of a list of values within a limit. -/
def keepNewest (newer : α → α → Bool) (limit : Nat) : List α → List α → List α
  | _, [] => []
  | earlier, value :: later =>
      let position := earlier.countP (newer · value) +
        later.countP fun other => newer other value || !newer value other
      let kept := keepNewest newer limit (earlier ++ [value]) later
      if position < limit then value :: kept else kept

namespace AutoTable

def empty : AutoTable α where
  rows := []
  nextId := 1
  increasing := .nil
  below := nofun

def insert (table : AutoTable α) (value : α) : AutoTable α where
  rows := table.rows ++ [(table.nextId, value)]
  nextId := table.nextId + 1
  increasing := by
    refine List.pairwise_append.mpr ⟨table.increasing, List.pairwise_singleton _ _, ?_⟩
    intro earlier member later isNew
    rw [List.mem_singleton.mp isNew]
    exact table.below earlier member
  below := by
    intro row member
    rcases List.mem_append.mp member with old | new
    · exact Nat.lt_succ_of_lt (table.below row old)
    · rw [List.mem_singleton.mp new]
      exact Nat.lt_succ_self _

def keepWhere (table : AutoTable α) (kept : Nat × α → Bool) : AutoTable α where
  rows := table.rows.filter kept
  nextId := table.nextId
  increasing := table.increasing.filter kept
  below row member := table.below row (List.mem_filter.mp member).1

/-- Deletes the chosen rows from position `limit` on of their descending order. -/
def trim (table : AutoTable α) (chosen : α → Bool) (newer : α → α → Bool) (limit : Nat) :
    AutoTable α :=
  table.keepWhere fun row =>
    !(chosen row.2 && decide (limit ≤ rank newer (table.rows.filter (chosen ·.2)) row))

/-- The chosen values in insertion order. -/
def values (table : AutoTable α) (chosen : α → Bool) : List α :=
  (table.rows.map (·.2)).filter chosen

theorem values_eq_map_filter (table : AutoTable α) (chosen : α → Bool) :
    table.values chosen = (table.rows.filter (chosen ·.2)).map (·.2) := by
  rw [values, List.filter_map]
  rfl

theorem values_insert (table : AutoTable α) (value : α) (chosen : α → Bool) :
    (table.insert value).values chosen =
      table.values chosen ++ if chosen value then [value] else [] := by
  simp only [values, insert, List.map_append, List.map_cons, List.map_nil, List.filter_append,
    List.filter_cons, List.filter_nil]

/-- Rows that are not chosen keep their values whatever happens to the others. -/
theorem values_keepWhere_of_kept (table : AutoTable α) {kept : Nat × α → Bool} {chosen : α → Bool}
    (keeps : ∀ row, chosen row.2 = true → kept row = true) :
    (table.keepWhere kept).values chosen = table.values chosen := by
  rw [values_eq_map_filter, values_eq_map_filter, keepWhere, List.filter_filter]
  refine congrArg _ (List.filter_congr fun row _ => ?_)
  cases isChosen : chosen row.2 with
  | true => rw [keeps row isChosen]; rfl
  | false => rfl

theorem values_keepWhere_of_dropped (table : AutoTable α) {kept : Nat × α → Bool}
    {chosen : α → Bool} (drops : ∀ row, chosen row.2 = true → kept row = false) :
    (table.keepWhere kept).values chosen = [] := by
  rw [values_eq_map_filter, keepWhere, List.filter_filter, List.map_eq_nil_iff,
    List.filter_eq_nil_iff]
  intro row _ both
  obtain ⟨isChosen, isKept⟩ := Bool.and_eq_true_iff.mp both
  exact Bool.false_ne_true ((drops row isChosen).symm.trans isKept)

/-- In a list ordered by id, the rank of a row only depends on the values around it. -/
theorem rank_append_cons (newer : α → α → Bool) {earlier later : List (Nat × α)} {row : Nat × α}
    (increasing : (earlier ++ row :: later).Pairwise fun first second => first.1 < second.1)
    (irreflexive : newer row.2 row.2 = false) :
    rank newer (earlier ++ row :: later) row =
      (earlier.map (·.2)).countP (newer · row.2) +
        (later.map (·.2)).countP fun other => newer other row.2 || !newer row.2 other := by
  obtain ⟨_, tail, across⟩ := List.pairwise_append.mp increasing
  obtain ⟨after, _⟩ := List.pairwise_cons.mp tail
  have front : earlier.countP (precedes newer · row) =
      (earlier.map (·.2)).countP (newer · row.2) := by
    rw [List.countP_map]
    refine List.countP_congr fun other member => ?_
    have smaller := across other member row List.mem_cons_self
    have notLater : ¬ row.1 < other.1 := by omega
    simp [precedes, notLater]
  have back : later.countP (precedes newer · row) =
      (later.map (·.2)).countP fun other => newer other row.2 || !newer row.2 other := by
    rw [List.countP_map]
    refine List.countP_congr fun other member => ?_
    simp [precedes, after other member]
  have itself : precedes newer row row = false := by
    simp [precedes, irreflexive]
  rw [rank, List.countP_append, List.countP_cons, front, back, itself]
  simp

theorem filter_rank_eq_keepNewest (newer : α → α → Bool) (limit : Nat)
    (irreflexive : ∀ value, newer value value = false) (earlier later : List (Nat × α))
    (increasing : (earlier ++ later).Pairwise fun first second => first.1 < second.1) :
    (later.filter fun row => !decide (limit ≤ rank newer (earlier ++ later) row)).map (·.2) =
      keepNewest newer limit (earlier.map (·.2)) (later.map (·.2)) := by
  induction later generalizing earlier with
  | nil => rfl
  | cons row rest ih =>
      have split : earlier ++ row :: rest = (earlier ++ [row]) ++ rest := by simp
      have position := rank_append_cons newer increasing (irreflexive row.2)
      have others := ih (earlier ++ [row]) (split ▸ increasing)
      rw [← split, List.map_append] at others
      rw [List.map_cons, keepNewest, List.filter_cons, position]
      simp only [List.map_cons, List.map_nil] at others
      rw [← others]
      by_cases within : (earlier.map (·.2)).countP (newer · row.2) +
          (rest.map (·.2)).countP (fun other => newer other row.2 || !newer row.2 other) < limit
      · rw [if_pos within, if_pos (by simpa using within), List.map_cons]
      · rw [if_neg within, if_neg (by simpa using within)]

/-- Trimming acts on the chosen values alone, whatever ids they have. -/
theorem values_trim (table : AutoTable α) (chosen : α → Bool) {newer : α → α → Bool}
    (irreflexive : ∀ value, newer value value = false) (limit : Nat) :
    (table.trim chosen newer limit).values chosen =
      keepNewest newer limit [] (table.values chosen) := by
  have ordered := table.increasing.filter (chosen ·.2)
  have kept := filter_rank_eq_keepNewest newer limit irreflexive []
    (table.rows.filter (chosen ·.2)) ordered
  rw [values_eq_map_filter, values_eq_map_filter, trim, keepWhere, List.filter_filter]
  rw [List.nil_append, List.filter_filter] at kept
  refine Eq.trans (congrArg _ (List.filter_congr fun row _ => ?_)) kept
  cases isChosen : chosen row.2 <;> simp

theorem values_trim_of_disjoint (table : AutoTable α) {chosen others : α → Bool}
    (disjoint : ∀ value, others value = true → chosen value = false) (newer : α → α → Bool)
    (limit : Nat) : (table.trim chosen newer limit).values others = table.values others := by
  refine values_keepWhere_of_kept table fun row isOther => ?_
  rw [disjoint row.2 isOther]
  rfl

end AutoTable

end UmbraHost.Tables
