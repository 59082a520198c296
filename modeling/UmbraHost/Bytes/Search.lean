import Mathlib.Data.List.Infix

/-! # Searching a list that arrives in pieces

The first occurrence of a list in another one, as `std::search` finds it, and
the first occurrence that one of the pieces of a list contains as a whole. -/

namespace UmbraHost.Search

variable {α : Type u} [DecidableEq α] {needle text : List α} {pieces : List (List α)}

/-- The position of the first occurrence, or the length of the text. -/
def search (needle : List α) : List α → Nat
  | [] => 0
  | ch :: rest => if needle.isPrefixOf (ch :: rest) then 0 else search needle rest + 1

theorem search_le_length (needle text : List α) : search needle text ≤ text.length := by
  induction text with
  | nil => exact Nat.le_refl 0
  | cons ch rest ih =>
      rw [search]
      split
      · exact Nat.zero_le _
      · exact Nat.succ_le_succ ih

/-- What is found is an occurrence. -/
theorem occurs_search (found : search needle text < text.length) :
    needle <+: text.drop (search needle text) := by
  induction text with
  | nil => exact absurd found (Nat.lt_irrefl 0)
  | cons ch rest ih =>
      rw [search] at found ⊢
      split at found
      next here =>
        rw [if_pos here]
        exact List.isPrefixOf_iff_prefix.mp here
      next elsewhere =>
        rw [if_neg elsewhere]
        exact ih (Nat.lt_of_succ_lt_succ found)

/-- Nothing occurs in front of what is found. -/
theorem search_le_of_occurs {position : Nat} (occurs : needle <+: text.drop position) :
    search needle text ≤ position := by
  induction text generalizing position with
  | nil => exact Nat.zero_le _
  | cons ch rest ih =>
      rw [search]
      split
      · exact Nat.zero_le _
      next elsewhere =>
        cases position with
        | zero => exact absurd (List.isPrefixOf_iff_prefix.mpr occurs) elsewhere
        | succ position => exact Nat.succ_le_succ (ih occurs)

omit [DecidableEq α] in
theorem fits_of_occurs {position : Nat} (nonempty : needle ≠ [])
    (occurs : needle <+: text.drop position) : position + needle.length ≤ text.length := by
  have length := occurs.length_le
  have positive := List.length_pos_iff.mpr nonempty
  rw [List.length_drop] at length
  omega

/-- What ends a text for the first time is not found earlier in a longer one. -/
theorem length_le_of_occurs_append {position : Nat} {rest : List α}
    (ends : search needle (text ++ needle) = text.length)
    (occurs : needle <+: (text ++ needle ++ rest).drop position) : text.length ≤ position := by
  by_contra below
  have fits : needle.length ≤ ((text ++ needle).drop position).length := by
    rw [List.length_drop, List.length_append]
    omega
  have front : (text ++ needle ++ rest).drop position = (text ++ needle).drop position ++ rest :=
    List.drop_append_of_le_length (by rw [List.length_append]; omega)
  have early : needle <+: (text ++ needle).drop position := by
    rw [front] at occurs
    exact List.prefix_of_prefix_length_le occurs (List.prefix_append _ _) fits
  have first := search_le_of_occurs early
  rw [ends] at first
  omega

theorem search_append (rest : List α) (nonempty : needle ≠ [])
    (ends : search needle (text ++ needle) = text.length) :
    search needle (text ++ needle ++ rest) = text.length := by
  have here : needle <+: (text ++ needle ++ rest).drop text.length := by
    rw [List.append_assoc, List.drop_left]
    exact List.prefix_append _ _
  have upper := search_le_of_occurs here
  have fits := fits_of_occurs nonempty here
  have positive := List.length_pos_iff.mpr nonempty
  have found : search needle (text ++ needle ++ rest) < (text ++ needle ++ rest).length := by
    omega
  have lower := length_le_of_occurs_append ends (occurs_search found)
  exact Nat.le_antisymm upper lower

/-! ## Pieces -/

/-- The position of the first occurrence that lies within one piece. -/
def scan (needle : List α) : List (List α) → Option Nat
  | [] => none
  | piece :: rest =>
      if search needle piece < piece.length then some (search needle piece)
      else (scan needle rest).map (piece.length + ·)

theorem scan_append_singleton (needle : List α) (pieces : List (List α)) (piece : List α) : scan needle (pieces ++ [piece]) =
    (scan needle pieces).or
      (if search needle piece < piece.length then
        some (pieces.flatten.length + search needle piece) else none) := by
  induction pieces with
  | nil => simp [scan]
  | cons first rest ih =>
      simp only [List.cons_append, scan, ih, List.flatten_cons, List.length_append]
      split
      · rfl
      · cases scan needle rest with
        | some position => rfl
        | none =>
            simp only [Option.none_or, Option.map_none]
            split
            · simp only [Option.map_some, Nat.add_assoc]
            · rfl

theorem scan_snoc_of_scan {position : Nat} (piece : List α)
    (found : scan needle pieces = some position) :
    scan needle (pieces ++ [piece]) = some position := by
  rw [scan_append_singleton, found, Option.some_or]

/-- The piece that a scan found something in. -/
theorem exists_piece_of_scan (nonempty : needle ≠ []) {position : Nat}
    (found : scan needle pieces = some position) :
    ∃ before piece behind, pieces = before ++ piece :: behind ∧
      before.flatten.length ≤ position ∧
      position + needle.length ≤ before.flatten.length + piece.length ∧
      needle <+: piece.drop (position - before.flatten.length) := by
  induction pieces generalizing position with
  | nil => cases found
  | cons first rest ih =>
      rw [scan] at found
      split at found
      next here =>
        cases found
        have occurs := occurs_search here
        have fits := fits_of_occurs nonempty occurs
        exact ⟨[], first, rest, rfl, Nat.zero_le _, by simpa using fits, by simpa using occurs⟩
      next =>
        obtain ⟨position, inside, rfl⟩ := Option.map_eq_some_iff.mp found
        obtain ⟨before, piece, behind, rfl, lower, upper, occurs⟩ := ih inside
        refine ⟨first :: before, piece, behind, rfl, ?_, ?_, ?_⟩
        · simpa using lower
        · simp only [List.flatten_cons, List.length_append]
          omega
        · simpa only [List.flatten_cons, List.length_append, Nat.add_sub_add_left] using occurs

theorem scan_occurs (nonempty : needle ≠ []) {position : Nat}
    (found : scan needle pieces = some position) : needle <+: pieces.flatten.drop position := by
  obtain ⟨before, piece, behind, rfl, lower, upper, occurs⟩ := exists_piece_of_scan nonempty found
  have split : position = before.flatten.length + (position - before.flatten.length) := by omega
  rw [split, List.flatten_append, List.flatten_cons, List.drop_append,
    List.drop_eq_nil_of_le (by omega), List.nil_append, Nat.add_sub_cancel_left,
    List.drop_append_of_le_length (by omega)]
  exact occurs.trans (List.prefix_append _ _)

/-- A scan finds nothing behind an occurrence within a piece. -/
theorem scan_le_of_occurs (nonempty : needle ≠ []) (before behind : List (List α))
    {piece : List α} {position : Nat} (occurs : needle <+: piece.drop position) :
    ∃ first, scan needle (before ++ piece :: behind) = some first ∧
      first ≤ before.flatten.length + position := by
  induction before with
  | nil =>
      have fits := fits_of_occurs nonempty occurs
      have least := search_le_of_occurs occurs
      have positive := List.length_pos_iff.mpr nonempty
      refine ⟨search needle piece, ?_, by simpa using least⟩
      rw [List.nil_append, scan, if_pos (by omega)]
  | cons head rest ih =>
      obtain ⟨first, found, least⟩ := ih
      rw [List.cons_append, scan]
      split
      next here =>
        refine ⟨_, rfl, ?_⟩
        rw [List.flatten_cons, List.length_append]
        omega
      next =>
        refine ⟨head.length + first, by rw [found, Option.map_some], ?_⟩
        rw [List.flatten_cons, List.length_append]
        omega

end UmbraHost.Search
