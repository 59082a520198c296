import Mathlib.Data.List.Basic
import Mathlib.Order.Lattice

/-! # Ordered maps and sets as sorted lists

The elements of a `std::map` or a `std::set` in the order of their keys.  What
an insertion does with an element that is there already is a parameter. -/

namespace UmbraHost.Tables

variable {Item : Type u} {Key : Type v} [LinearOrder Key]

/-- The keys are in strict order, so no two are alike. -/
def Sorted (key : Item → Key) (items : List Item) : Prop :=
  items.Pairwise fun first second => key first < key second

/-- `collide old new` takes the place of an element with the key of the new one. -/
def insertBy (key : Item → Key) (collide : Item → Item → Item) (item : Item) :
    List Item → List Item
  | [] => [item]
  | first :: rest =>
      if key item < key first then item :: first :: rest
      else if key item = key first then collide first item :: rest
      else first :: insertBy key collide item rest

/-- `insert_or_assign`. -/
def insertOrAssign (key : Item → Key) : Item → List Item → List Item :=
  insertBy key fun _ new => new

/-- `try_emplace`, and the insertion into a set. -/
def tryEmplace (key : Item → Key) : Item → List Item → List Item :=
  insertBy key fun old _ => old

variable {key : Item → Key} {collide : Item → Item → Item} {item : Item} {items : List Item}

/-- What a map has after an insertion. -/
theorem mem_insertBy {other : Item} (member : other ∈ insertBy key collide item items) :
    other = item ∨ other ∈ items ∨ ∃ old ∈ items, key item = key old ∧ other = collide old item := by
  induction items with
  | nil => exact .inl (List.mem_singleton.mp member)
  | cons first rest ih =>
      rw [insertBy] at member
      split at member
      · rcases List.mem_cons.mp member with rfl | member
        · exact .inl rfl
        · exact .inr (.inl member)
      · split at member
        next same =>
          rcases List.mem_cons.mp member with rfl | member
          · exact .inr (.inr ⟨first, List.mem_cons_self, same, rfl⟩)
          · exact .inr (.inl (List.mem_cons_of_mem _ member))
        · rcases List.mem_cons.mp member with rfl | member
          · exact .inr (.inl List.mem_cons_self)
          · rcases ih member with new | old | ⟨old, inside, same⟩
            · exact .inl new
            · exact .inr (.inl (List.mem_cons_of_mem _ old))
            · exact .inr (.inr ⟨old, List.mem_cons_of_mem _ inside, same⟩)

/-- The keys after an insertion are the keys before and the new one. -/
theorem key_of_mem_insertBy
    (keyed : ∀ old new, key new = key old → key (collide old new) = key old) {other : Item}
    (member : other ∈ insertBy key collide item items) :
    key other = key item ∨ ∃ earlier ∈ items, key other = key earlier := by
  rcases mem_insertBy member with rfl | inside | ⟨old, inside, same, rfl⟩
  · exact .inl rfl
  · exact .inr ⟨other, inside, rfl⟩
  · exact .inr ⟨old, inside, keyed old item same⟩

theorem Sorted.insertBy (sorted : Sorted key items)
    (keyed : ∀ old new, key new = key old → key (collide old new) = key old) :
    Sorted key (insertBy key collide item items) := by
  induction items with
  | nil => exact List.pairwise_singleton _ _
  | cons first rest ih =>
      obtain ⟨above, tail⟩ := List.pairwise_cons.mp sorted
      rw [Tables.insertBy]
      split
      next below =>
        refine List.pairwise_cons.mpr ⟨?_, sorted⟩
        intro other member
        rcases List.mem_cons.mp member with rfl | member
        · exact below
        · exact below.trans (above other member)
      next notBelow =>
        split
        next same =>
          refine List.pairwise_cons.mpr ⟨?_, tail⟩
          intro other member
          rw [keyed first item same]
          exact above other member
        next different =>
          refine List.pairwise_cons.mpr ⟨?_, ih tail⟩
          intro other member
          rcases key_of_mem_insertBy keyed member with new | ⟨earlier, inside, same⟩
          · rw [new]
            exact lt_of_le_of_ne (not_lt.mp notBelow) (Ne.symm different)
          · rw [same]
            exact above earlier inside

theorem Sorted.insertOrAssign (sorted : Sorted key items) :
    Sorted key (insertOrAssign key item items) :=
  sorted.insertBy fun _ _ same => same

theorem Sorted.tryEmplace (sorted : Sorted key items) :
    Sorted key (tryEmplace key item items) :=
  sorted.insertBy fun _ _ _ => rfl

/-- What is in order behind everything goes to the end. -/
theorem insertBy_of_above (above : ∀ other ∈ items, key other < key item) :
    insertBy key collide item items = items ++ [item] := by
  induction items with
  | nil => rfl
  | cons first rest ih =>
      have low := above first List.mem_cons_self
      rw [insertBy, if_neg low.asymm, if_neg low.ne',
        ih fun other member => above other (List.mem_cons_of_mem _ member), List.cons_append]

/-- Elements that are inserted in order make up the map they come from. -/
theorem foldl_insertBy_append {later : List Item} (sorted : Sorted key (items ++ later)) :
    later.foldl (fun built item => insertBy key collide item built) items = items ++ later := by
  induction later generalizing items with
  | nil => exact (List.append_nil items).symm
  | cons item rest ih =>
      have above : ∀ other ∈ items, key other < key item := fun other member =>
        (List.pairwise_append.mp sorted).2.2 other member item List.mem_cons_self
      have shape : items ++ item :: rest = (items ++ [item]) ++ rest := by simp
      rw [List.foldl_cons, insertBy_of_above above, shape]
      exact ih (shape ▸ sorted)

theorem foldl_tryEmplace_self (sorted : Sorted key items) :
    items.foldl (fun built item => tryEmplace key item built) [] = items := by
  have nothing : Sorted key ([] ++ items) := sorted
  exact foldl_insertBy_append nothing

end UmbraHost.Tables
