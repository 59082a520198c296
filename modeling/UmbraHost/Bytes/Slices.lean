import Mathlib.Data.List.Basic

/-! # Cutting a list into slices

Slices of a fixed size, the last of which may be shorter, and the list that
carries a header in front of every slice. -/

namespace UmbraHost.Slices

variable {α : Type u} {size count : Nat} {data : List α}

def slices (size : Nat) : Nat → List α → List (List α)
  | 0, _ => []
  | count + 1, data => data.take size :: slices size count (data.drop size)

def slice (size index : Nat) (data : List α) : List α := (data.drop (index * size)).take size

@[simp] theorem slices_zero : slices size 0 data = [] := rfl

theorem slices_succ : slices size (count + 1) data =
    data.take size :: slices size count (data.drop size) := rfl

@[simp] theorem length_slices : (slices size count data).length = count := by
  induction count generalizing data with
  | zero => rfl
  | succ count ih => simp [slices_succ, ih]

theorem slices_add (first second : Nat) : slices size (first + second) data =
    slices size first data ++ slices size second (data.drop (first * size)) := by
  induction first generalizing data with
  | zero => simp
  | succ first ih =>
      rw [Nat.succ_add, slices_succ, slices_succ, ih, List.drop_drop, List.cons_append,
        Nat.succ_mul, Nat.add_comm size]

theorem slices_snoc : slices size (count + 1) data =
    slices size count data ++ [slice size count data] := by
  rw [slices_add]
  rfl

theorem getElem?_slices {i : Nat} (inside : i < count) :
    (slices size count data)[i]? = some (slice size i data) := by
  induction count generalizing i data with
  | zero => omega
  | succ count ih =>
      rw [slices_succ]
      cases i with
      | zero => rw [List.getElem?_cons_zero, slice, Nat.zero_mul, List.drop_zero]
      | succ i =>
          rw [List.getElem?_cons_succ, ih (by omega), slice, slice, List.drop_drop, Nat.succ_mul,
            Nat.add_comm]

theorem flatten_slices : (slices size count data).flatten = data.take (count * size) := by
  induction count generalizing data with
  | zero => simp
  | succ count ih =>
      rw [slices_succ, List.flatten_cons, ih, Nat.succ_mul, Nat.add_comm, List.take_add]

theorem slices_take (enough : count * size ≤ limit) :
    slices size count (data.take limit) = slices size count data := by
  induction count generalizing data limit with
  | zero => rfl
  | succ count ih =>
      rw [Nat.succ_mul] at enough
      rw [slices_succ, slices_succ, List.take_take, List.drop_take, ih (by omega),
        Nat.min_eq_left (by omega)]

theorem length_of_mem_slices (full : count * size ≤ data.length) :
    ∀ piece ∈ slices size count data, piece.length = size := by
  induction count generalizing data with
  | zero => simp
  | succ count ih =>
      rw [Nat.succ_mul] at full
      intro piece member
      rcases List.mem_cons.mp member with rfl | later
      · rw [List.length_take]
        omega
      · exact ih (by rw [List.length_drop]; omega) piece later

theorem length_le_of_mem_slices :
    ∀ piece ∈ slices size count data, piece.length ≤ size := by
  induction count generalizing data with
  | zero => simp
  | succ count ih =>
      intro piece member
      rcases List.mem_cons.mp member with rfl | later
      · exact List.length_take_le size data
      · exact ih piece later

/-! ## Counting slices -/

/-- The slices that cover `total` elements. -/
def cover (total size : Nat) : Nat := (total + (size - 1)) / size

theorem le_cover (positive : 0 < size) (total : Nat) : total ≤ cover total size * size := by
  have split := Nat.div_add_mod (total + (size - 1)) size
  have short := Nat.mod_lt (total + (size - 1)) positive
  rw [Nat.mul_comm] at split
  rw [cover]
  omega

theorem cover_lt (positive : 0 < size) (total : Nat) : cover total size * size < total + size := by
  have split := Nat.div_add_mod (total + (size - 1)) size
  rw [Nat.mul_comm] at split
  rw [cover]
  omega

theorem cover_unique (positive : 0 < size) (enough : total ≤ count * size)
    (tight : count * size < total + size) : cover total size = count := by
  have lower := le_cover positive total
  have upper := cover_lt positive total
  have first : count < cover total size + 1 := by
    apply Nat.lt_of_mul_lt_mul_right (a := size)
    rw [Nat.succ_mul]
    omega
  have second : cover total size < count + 1 := by
    apply Nat.lt_of_mul_lt_mul_right (a := size)
    rw [Nat.succ_mul]
    omega
  omega

theorem cover_le (positive : 0 < size) (enough : total ≤ count * size) :
    cover total size ≤ count := by
  have upper := cover_lt positive total
  apply Nat.lt_succ_iff.mp
  apply Nat.lt_of_mul_lt_mul_right (a := size)
  rw [Nat.succ_mul]
  omega

theorem cover_pos (positive : 0 < size) (nonempty : 0 < total) : 0 < cover total size := by
  have lower := le_cover positive total
  apply Nat.pos_of_ne_zero
  intro none
  rw [none, Nat.zero_mul] at lower
  omega

/-- Every block but the last takes `cover (total / blocks) size` slices: together
the blocks reach the last slice. -/
theorem lt_blocks_mul_cover (positive : 0 < size) (some : 0 < blocks)
    (tail : count * size + blocks ≤ total) : count < blocks * cover (total / blocks) size := by
  have share := le_cover positive (total / blocks)
  have whole := Nat.lt_mul_div_succ total some
  have scaled := Nat.mul_le_mul_left blocks share
  rw [Nat.mul_succ] at whole
  rw [← Nat.mul_assoc] at scaled
  apply Nat.lt_of_mul_lt_mul_right (a := size)
  omega

/-- The blocks in front of the last one leave a slice for it. -/
theorem blocks_mul_cover_lt (positive : 0 < size) (nonempty : 0 < total)
    (enough : total ≤ count * size)
    (large : blocks + 1 ≤ cover (total / (blocks + 1)) size ∨ blocks = 0) :
    blocks * cover (total / (blocks + 1)) size < count := by
  have reached : 0 < count := by
    apply Nat.pos_of_ne_zero
    rintro rfl
    omega
  rcases large with large | rfl
  · have upper := cover_lt positive (total / (blocks + 1))
    have shares := Nat.mul_div_le total (blocks + 1)
    obtain ⟨shorter, taken⟩ : ∃ shorter, cover (total / (blocks + 1)) size = shorter + 1 :=
      ⟨cover (total / (blocks + 1)) size - 1, by omega⟩
    rw [taken, Nat.succ_mul] at upper
    have scaled : (blocks + 1) * (shorter * size) < (blocks + 1) * (total / (blocks + 1)) :=
      Nat.mul_lt_mul_of_pos_left (by omega) (Nat.succ_pos blocks)
    rw [← Nat.mul_assoc] at scaled
    have fewer : (blocks + 1) * shorter < count := by
      apply Nat.lt_of_mul_lt_mul_right (a := size)
      omega
    rw [Nat.succ_mul] at fewer
    rw [taken, Nat.mul_succ]
    omega
  · rw [Nat.zero_mul]
    exact reached

theorem cover_eq_div_add (positive : 0 < size) (total : Nat) :
    total / size + (if total % size ≠ 0 then 1 else 0) = cover total size := by
  symm
  have split := Nat.div_add_mod total size
  have short := Nat.mod_lt total positive
  rw [Nat.mul_comm] at split
  apply cover_unique positive
  · split
    · rw [Nat.add_mul]
      omega
    · rw [Nat.add_zero]
      omega
  · split
    · rw [Nat.add_mul]
      omega
    · rw [Nat.add_zero]
      omega

theorem length_slice : (slice size index data).length = min size (data.length - index * size) := by
  rw [slice, List.length_take, List.length_drop]

/-! ## Headers in front of the slices -/

def framed (header : List α) (pieces : List (List α)) : List α := pieces.flatMap (header ++ ·)

@[simp] theorem framed_nil (header : List α) : framed header [] = [] := rfl

theorem framed_cons (header piece : List α) (rest : List (List α)) :
    framed header (piece :: rest) = header ++ piece ++ framed header rest := by
  simp [framed]

theorem framed_append (header : List α) (first second : List (List α)) :
    framed header (first ++ second) = framed header first ++ framed header second := by
  simp [framed]

theorem length_framed (header : List α) (pieces : List (List α)) :
    (framed header pieces).length = pieces.length * header.length + pieces.flatten.length := by
  induction pieces with
  | nil => simp
  | cons piece rest ih =>
      rw [framed_cons, List.length_append, List.length_append, ih, List.flatten_cons,
        List.length_append, List.length_cons, Nat.succ_mul]
      omega

/-- Cutting the framed list gives the slices with their headers, when only the
last slice may be short. -/
theorem slices_framed (header : List α) (full : count * size ≤ data.length + size) :
    slices (header.length + size) count (framed header (slices size count data)) =
      (slices size count data).map (header ++ ·) := by
  induction count generalizing data with
  | zero => rfl
  | succ count ih =>
      rw [Nat.succ_mul] at full
      rw [slices_succ, slices_succ, framed_cons, List.map_cons, List.append_assoc]
      have front : (header ++ data.take size).length ≤ header.length + size := by
        rw [List.length_append, List.length_take]
        omega
      cases count with
      | zero =>
          rw [slices_zero, framed_nil, List.append_nil, List.take_of_length_le front]
          rfl
      | succ count =>
          rw [Nat.succ_mul] at full
          have exact : (header ++ data.take size).length = header.length + size := by
            rw [List.length_append, List.length_take]
            omega
          rw [← List.append_assoc, List.take_left' exact, List.drop_left' exact,
            ih (by rw [List.length_drop, Nat.succ_mul]; omega)]

/-! ## Blocks of slices -/

theorem slices_blocks (perBlock blocks : Nat) (data : List α) :
    (slices (perBlock * size) blocks data).flatMap (slices size perBlock) =
      slices size (blocks * perBlock) data := by
  induction blocks generalizing data with
  | zero => simp
  | succ blocks ih =>
      rw [slices_succ, List.flatMap_cons, ih, slices_take (Nat.le_refl _), Nat.succ_mul, Nat.add_comm,
        slices_add]

/-! ## Padding -/

def padTo (size : Nat) (filler : α) (piece : List α) : List α :=
  piece ++ List.replicate (size - piece.length) filler

theorem padTo_of_full {piece : List α} (filler : α) (full : piece.length = size) :
    padTo size filler piece = piece := by
  simp [padTo, full]

theorem map_padTo_of_full {pieces : List (List α)} (filler : α)
    (full : ∀ piece ∈ pieces, piece.length = size) : pieces.map (padTo size filler) = pieces := by
  induction pieces with
  | nil => rfl
  | cons piece rest ih =>
      rw [List.map_cons, padTo_of_full filler (full piece List.mem_cons_self),
        ih fun other member => full other (List.mem_cons_of_mem _ member)]

theorem length_padTo {piece : List α} (filler : α) (short : piece.length ≤ size) :
    (padTo size filler piece).length = size := by
  rw [padTo, List.length_append, List.length_replicate]
  omega

/-- The padding of slices is behind the data. -/
theorem flatMap_padTo_slices (filler : α) (enough : data.length ≤ count * size)
    (full : count * size ≤ data.length + size) :
    (slices size count data).flatMap (padTo size filler) =
      data ++ List.replicate (count * size - data.length) filler := by
  induction count generalizing data with
  | zero =>
      obtain rfl : data = [] := by simpa using enough
      simp
  | succ count ih =>
      rw [Nat.succ_mul] at enough full ⊢
      rw [slices_succ, List.flatMap_cons]
      cases count with
      | zero =>
          have whole : data.take size = data := List.take_of_length_le (by omega)
          simp [whole, padTo]
      | succ count =>
          rw [Nat.succ_mul] at enough full
          have exact : (data.take size).length = size := by
            rw [List.length_take]
            omega
          rw [padTo_of_full filler exact,
            ih (by rw [List.length_drop, Nat.succ_mul]; omega)
              (by rw [List.length_drop, Nat.succ_mul]; omega),
            ← List.append_assoc, List.take_append_drop, List.length_drop, Nat.succ_mul]
          congr 2
          omega

end UmbraHost.Slices
