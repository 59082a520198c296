import Mathlib.Data.List.Basic
import Mathlib.Order.Lattice

/-! # Prefixes of sorted lists

Which keys occur in the first elements of a list with falling keys, and which in the rest,
by how many elements have a key above theirs. -/

namespace UmbraHost.SortedPrefix

variable {α : Type u} {κ : Type v} [LinearOrder κ] {key : α → κ} {list : List α} {x y : α} {n : Nat}

def Falling (key : α → κ) (list : List α) : Prop := list.Pairwise fun x y => key y ≤ key x

/-- The elements that come before the key `limit` wherever they are. -/
def countAbove (key : α → κ) (limit : κ) (list : List α) : Nat :=
  list.countP fun x => decide (limit < key x)

def countFrom (key : α → κ) (limit : κ) (list : List α) : Nat :=
  list.countP fun x => decide (limit ≤ key x)

theorem Falling.filter (falling : Falling key list) (test : α → Bool) :
    Falling key (list.filter test) :=
  List.Pairwise.filter test falling

theorem Falling.across (falling : Falling key list) (early : x ∈ list.take n)
    (late : y ∈ list.drop n) : key y ≤ key x := by
  rw [← List.take_append_drop n list, Falling, List.pairwise_append] at falling
  exact falling.2.2 x early y late

theorem countAbove_split (limit : κ) (n : Nat) (list : List α) :
    countAbove key limit list =
      countAbove key limit (list.take n) + countAbove key limit (list.drop n) := by
  rw [countAbove, countAbove, countAbove, ← List.countP_append, List.take_append_drop]

theorem countFrom_split (limit : κ) (n : Nat) (list : List α) :
    countFrom key limit list =
      countFrom key limit (list.take n) + countFrom key limit (list.drop n) := by
  rw [countFrom, countFrom, countFrom, ← List.countP_append, List.take_append_drop]

theorem countAbove_eq_zero {limit : κ} (below : ∀ x ∈ list, key x ≤ limit) :
    countAbove key limit list = 0 := by
  refine List.countP_eq_zero.mpr fun x member above => ?_
  exact (below x member).not_gt (of_decide_eq_true above)

theorem countAbove_eq_length {limit : κ} (above : ∀ x ∈ list, limit < key x) :
    countAbove key limit list = list.length :=
  List.countP_eq_length.mpr fun x member => decide_eq_true (above x member)

theorem countFrom_eq_zero {limit : κ} (below : ∀ x ∈ list, key x < limit) :
    countFrom key limit list = 0 := by
  refine List.countP_eq_zero.mpr fun x member above => ?_
  exact (below x member).not_ge (of_decide_eq_true above)

theorem countFrom_eq_length {limit : κ} (above : ∀ x ∈ list, limit ≤ key x) :
    countFrom key limit list = list.length :=
  List.countP_eq_length.mpr fun x member => decide_eq_true (above x member)

theorem length_take_of_mem_drop (late : y ∈ list.drop n) : (list.take n).length = n := by
  have some := List.length_pos_of_mem late
  rw [List.length_drop] at some
  rw [List.length_take]
  omega

/-- Whatever comes early has few elements above it. -/
theorem Falling.countAbove_lt (falling : Falling key list) (early : x ∈ list.take n) :
    countAbove key (key x) list < n := by
  have later : countAbove key (key x) (list.drop n) = 0 :=
    countAbove_eq_zero fun y late => falling.across early late
  have fewer : countAbove key (key x) (list.take n) < (list.take n).length := by
    refine Nat.lt_of_le_of_ne List.countP_le_length fun all => ?_
    have itself := List.countP_eq_length.mp all x early
    exact lt_irrefl _ (of_decide_eq_true itself)
  rw [countAbove_split (key x) n, later, Nat.add_zero]
  exact Nat.lt_of_lt_of_le fewer (List.length_take_le n list)

/-- Whatever comes late has many elements that are not below it. -/
theorem Falling.lt_countFrom (falling : Falling key list) (late : y ∈ list.drop n) :
    n < countFrom key (key y) list := by
  have earlier : countFrom key (key y) (list.take n) = n := by
    rw [countFrom_eq_length fun x early => falling.across early late]
    exact length_take_of_mem_drop late
  have itself : 0 < countFrom key (key y) (list.drop n) :=
    List.countP_pos_iff.mpr ⟨y, late, decide_eq_true le_rfl⟩
  rw [countFrom_split (key y) n, earlier]
  exact Nat.lt_add_of_pos_right itself

theorem Falling.exists_take (falling : Falling key list) (member : x ∈ list)
    (few : countAbove key (key x) list < n) : ∃ y ∈ list.take n, key y = key x := by
  by_contra none
  push Not at none
  have late : x ∈ list.drop n := by
    rw [← List.take_append_drop n list] at member
    exact (List.mem_append.mp member).resolve_left fun early => none x early rfl
  have above : ∀ y ∈ list.take n, key x < key y := fun y early =>
    lt_of_le_of_ne (falling.across early late) (none y early).symm
  rw [countAbove_split (key x) n, countAbove_eq_length above, length_take_of_mem_drop late] at few
  omega

theorem Falling.exists_drop (falling : Falling key list) (member : y ∈ list)
    (many : n < countFrom key (key y) list) : ∃ x ∈ list.drop n, key x = key y := by
  by_contra none
  push Not at none
  have early : y ∈ list.take n := by
    rw [← List.take_append_drop n list] at member
    exact (List.mem_append.mp member).resolve_right fun late => none y late rfl
  have below : ∀ x ∈ list.drop n, key x < key y := fun x late =>
    lt_of_le_of_ne (falling.across early late) (none x late)
  rw [countFrom_split (key y) n, countFrom_eq_zero below, Nat.add_zero] at many
  have room : countFrom key (key y) (list.take n) ≤ n :=
    Nat.le_trans List.countP_le_length (List.length_take_le n list)
  exact Nat.not_le.mpr many room

/-- No element after the cut precedes one before it, in an order that the keys determine,
exactly when no two elements that are the other way round have the cut between them. -/
theorem Falling.take_first {Precedes : α → α → Prop} (falling : Falling key list)
    (determined : ∀ {x y x' y'}, key x' = key x → key y' = key y → Precedes y x → Precedes y' x') :
    (∀ x ∈ list.take n, ∀ y ∈ list.drop n, ¬Precedes y x) ↔
      ∀ x ∈ list, ∀ y ∈ list, Precedes y x → countAbove key (key x) list < n →
        countFrom key (key y) list ≤ n := by
  constructor
  · intro first x member y other precedes few
    by_contra many
    obtain ⟨early, taken, same⟩ := falling.exists_take member few
    obtain ⟨late, left, equal⟩ := falling.exists_drop other (Nat.not_le.mp many)
    exact first early taken late left (determined same equal precedes)
  · intro ordered x taken y left precedes
    have few := ordered x (List.mem_of_mem_take taken) y (List.mem_of_mem_drop left)
      precedes (falling.countAbove_lt taken)
    exact Nat.not_le.mpr (falling.lt_countFrom left) few

end UmbraHost.SortedPrefix
