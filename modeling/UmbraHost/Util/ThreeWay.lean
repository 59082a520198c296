import Mathlib.Data.List.Lex
import Mathlib.Data.Sum.Order
import Mathlib.Data.Prod.Lex

/-! # Three-way comparisons

Comparisons in linear orders that answer with -1, 0 or 1. -/

namespace UmbraHost.ThreeWay

variable {α : Type u} {β : Type v} [LinearOrder α] [LinearOrder β]

def threeWay (x y : α) : Int := if x < y then -1 else if y < x then 1 else 0

variable {x y z : α}

theorem threeWay_of_lt (less : x < y) : threeWay x y = -1 := if_pos less

theorem threeWay_of_gt (greater : y < x) : threeWay x y = 1 := by
  rw [threeWay, if_neg greater.asymm, if_pos greater]

@[simp] theorem threeWay_self (x : α) : threeWay x x = 0 := by simp [threeWay]

theorem threeWay_of_ne (different : x ≠ y) : threeWay x y = if x < y then -1 else 1 := by
  rcases lt_or_gt_of_ne different with less | greater
  · rw [threeWay_of_lt less, if_pos less]
  · rw [threeWay_of_gt greater, if_neg greater.asymm]

theorem threeWay_swap (x y : α) : threeWay x y = -threeWay y x := by
  rcases lt_trichotomy x y with less | rfl | greater
  · rw [threeWay_of_lt less, threeWay_of_gt less]
  · rw [threeWay_self, Int.neg_zero]
  · rw [threeWay_of_gt greater, threeWay_of_lt greater, Int.neg_neg]

theorem threeWay_nonpos : threeWay x y ≤ 0 ↔ x ≤ y := by
  rcases lt_trichotomy x y with less | rfl | greater
  · simp [threeWay_of_lt less, less.le]
  · simp
  · simp [threeWay_of_gt greater, greater]

theorem threeWay_trans (first : threeWay x y ≤ 0) (second : threeWay y z ≤ 0) :
    threeWay x z ≤ 0 :=
  threeWay_nonpos.mpr ((threeWay_nonpos.mp first).trans (threeWay_nonpos.mp second))

/-- Comparisons agree that have the same order between their sides. -/
theorem threeWay_congr {x y : α} {a b : β} (less : x < y ↔ a < b) (greater : y < x ↔ b < a) :
    threeWay x y = threeWay a b := by
  simp only [threeWay, less, greater]

theorem threeWay_eq_iff {x y : α} {a b : β} (different : x ≠ y) (others : a ≠ b) :
    threeWay x y = threeWay a b ↔ (x < y ↔ a < b) := by
  rw [threeWay_of_ne different, threeWay_of_ne others]
  by_cases less : x < y <;> by_cases other : a < b <;> simp [less, other]

/-! ## Compound values -/

theorem threeWay_pair (a b : α) (c d : β) :
    threeWay (toLex (a, c)) (toLex (b, d)) = if a = b then threeWay c d else threeWay a b := by
  by_cases same : a = b
  · subst same
    rw [if_pos rfl]
    exact threeWay_congr (by simp [Prod.Lex.lt_iff]) (by simp [Prod.Lex.lt_iff])
  · rw [if_neg same]
    refine threeWay_congr ?_ ?_
    · simp [Prod.Lex.lt_iff, same]
    · simp [Prod.Lex.lt_iff, Ne.symm same]

theorem threeWay_cons (a b : α) (l m : List α) :
    threeWay (a :: l) (b :: m) = if a = b then threeWay l m else threeWay a b := by
  by_cases same : a = b
  · subst same
    rw [if_pos rfl]
    exact threeWay_congr (by simp) (by simp)
  · rw [if_neg same]
    refine threeWay_congr ?_ ?_
    · simp [List.cons_lt_cons_iff, same]
    · simp [List.cons_lt_cons_iff, Ne.symm same]

theorem threeWay_nil_cons (a : α) (l : List α) : threeWay [] (a :: l) = -1 :=
  threeWay_of_lt (List.nil_lt_cons a l)

theorem threeWay_cons_nil (a : α) (l : List α) : threeWay (a :: l) [] = 1 :=
  threeWay_of_gt (List.nil_lt_cons a l)

theorem threeWay_inl (a b : α) :
    threeWay (toLex (.inl a) : α ⊕ₗ β) (toLex (.inl b)) = threeWay a b :=
  threeWay_congr (by simp) (by simp)

theorem threeWay_inr (a b : β) :
    threeWay (toLex (.inr a) : α ⊕ₗ β) (toLex (.inr b)) = threeWay a b :=
  threeWay_congr (by simp) (by simp)

theorem threeWay_inl_inr (a : α) (b : β) :
    threeWay (toLex (.inl a) : α ⊕ₗ β) (toLex (.inr b)) = -1 :=
  threeWay_of_lt (Sum.Lex.inl_lt_inr a b)

theorem threeWay_inr_inl (a : α) (b : β) :
    threeWay (toLex (.inr b) : α ⊕ₗ β) (toLex (.inl a)) = 1 :=
  threeWay_of_gt (Sum.Lex.inl_lt_inr a b)

end UmbraHost.ThreeWay
