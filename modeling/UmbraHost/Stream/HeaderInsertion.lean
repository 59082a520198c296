import UmbraHost.Stream.Packetization

/-! # Header insertion

`concat_and_insert` reads its slices across two buffers; the loop always reads
where the concatenation of both continues. -/

namespace UmbraHost.Stream

open Slices

theorem length_zeros (count : Nat) : (zeros count).length = count := List.length_replicate

theorem zeros_add (first second : Nat) : zeros (first + second) = zeros first ++ zeros second :=
  List.replicate_add ..

theorem remainder_of_pos {divisor : Nat} (positive : 0 < divisor) (dividend : Nat) :
    remainder dividend divisor = pure (dividend % divisor) :=
  if_neg (by omega)

theorem quotient_of_pos {divisor : Nat} (positive : 0 < divisor) (dividend : Nat) :
    quotient dividend divisor = pure (dividend / divisor) :=
  if_neg (by omega)

/-- The quotient that the code rounds up. -/
theorem quotient_cover {divisor : Nat} (positive : 0 < divisor) (dividend : Nat) :
    quotient (dividend + (divisor - 1)) divisor = pure (cover dividend divisor) :=
  quotient_of_pos positive _

theorem require_of {condition : Prop} [Decidable condition] (holds : condition) (fault : Fault) :
    require condition fault = pure () :=
  if_pos holds

/-! ## concat_and_insert -/

/-- Copying into the untouched part of a buffer. -/
theorem overwrite_zeros (front bytes : Bytes) {room : Nat} (fits : bytes.length ≤ room) :
    overwrite (front ++ zeros room) front.length bytes =
      pure (front ++ bytes ++ zeros (room - bytes.length)) := by
  have enough : front.length + bytes.length ≤ (front ++ zeros room).length := by
    rw [List.length_append, length_zeros]
    omega
  have rest : (front ++ zeros room).drop (front.length + bytes.length) =
      zeros (room - bytes.length) := by
    rw [List.drop_length_add_append, zeros, List.drop_replicate]
    rfl
  rw [overwrite, if_pos enough, List.take_left, rest]

/-- A slice comes from the buffer being read and from the second one behind it. -/
theorem copySlice_ahead {data2 front current following : Bytes} {size room offset : Nat}
    (source : following = data2 ∨ following = []) (place : front.length = offset)
    (enough : size ≤ (current ++ following).length) (fits : size ≤ room) :
    ∃ rest following', (following' = data2 ∨ following' = []) ∧
      rest ++ following' = (current ++ following).drop size ∧
      copySlice data2 offset size current (front ++ zeros room) =
        pure (rest, front ++ (current ++ following).take size ++ zeros (room - size)) := by
  subst place
  rw [List.length_append] at enough
  by_cases across : current.length < size
  · obtain rfl : following = data2 := by
      rcases source with second | rfl
      · exact second
      · simp only [List.length_nil] at enough
        omega
    have taken : (following.take (size - current.length)).length = size - current.length := by
      rw [List.length_take]
      omega
    have all : current.take size = current := List.take_of_length_le (by omega)
    have none : current.drop size = [] := List.drop_eq_nil_of_le (by omega)
    refine ⟨following.drop (size - current.length), [], .inr rfl, ?_, ?_⟩
    · rw [List.append_nil, List.drop_append, none, List.nil_append]
    · have behind : (following.take (size - current.length)).length ≤ room - current.length := by
        omega
      have second := overwrite_zeros (front ++ current) (following.take (size - current.length))
        behind
      rw [List.length_append] at second
      rw [copySlice, if_pos across, overwrite_zeros front current (by omega), pure_bind,
        require_of (by omega), pure_bind, second, pure_bind, taken, List.take_append, all]
      simp only [List.append_assoc]
      congr 6
      omega
  · have taken : (current ++ following).take size = current.take size := by
      rw [List.take_append, show size - current.length = 0 by omega, List.take_zero,
        List.append_nil]
    have exact : (current.take size).length = size := by
      rw [List.length_take]
      omega
    refine ⟨current.drop size, following, source, ?_, ?_⟩
    · rw [List.drop_append, show size - current.length = 0 by omega, List.drop_zero]
    · rw [copySlice, if_neg across, overwrite_zeros front (current.take size) (by omega), pure_bind,
        taken, exact]

variable {insertSize sliceSize elements x : Nat} {data1 data2 : Bytes}

/-- What one iteration finds: the rest of the buffer it reads, followed by what is
still to come, and a result filled up to its own slice. -/
structure Inserting (insertSize sliceSize elements x : Nat) (data1 data2 : Bytes)
    (state : Bytes × Bytes) : Prop where
  ahead : ∃ following, (following = data2 ∨ following = []) ∧
    state.1 ++ following = (data1 ++ data2).drop (x * sliceSize)
  result : state.2 = framed (zeros insertSize) (slices sliceSize x (data1 ++ data2)) ++
    zeros ((elements - x) * insertSize + ((data1 ++ data2).length - x * sliceSize))

theorem length_framed_slices (full : x * sliceSize ≤ (data1 ++ data2).length) :
    (framed (zeros insertSize) (slices sliceSize x (data1 ++ data2))).length =
      x * (insertSize + sliceSize) := by
  rw [length_framed, length_slices, length_zeros, flatten_slices, List.length_take,
    Nat.min_eq_left full, Nat.mul_add]

/-- The bytes ahead of an iteration start with its slice. -/
theorem take_ahead {ahead : Bytes} (starts : ahead = (data1 ++ data2).drop (x * sliceSize)) :
    ahead.take (slice sliceSize x (data1 ++ data2)).length =
      slice sliceSize x (data1 ++ data2) := by
  rw [starts, slice, List.length_take, List.take_eq_take_iff]
  omega

theorem drop_ahead {ahead : Bytes} (starts : ahead = (data1 ++ data2).drop (x * sliceSize)) :
    ahead.drop (slice sliceSize x (data1 ++ data2)).length =
      (data1 ++ data2).drop ((x + 1) * sliceSize) := by
  rw [starts, List.drop_drop, length_slice, Nat.succ_mul]
  by_cases whole : sliceSize ≤ (data1 ++ data2).length - x * sliceSize
  · rw [Nat.min_eq_left whole]
  · rw [List.drop_eq_nil_of_le (by omega), List.drop_eq_nil_of_le (by omega)]

/-- The size that an iteration copies is the length of its slice. -/
theorem insertSize_eq (counted : elements = cover (data1 ++ data2).length sliceSize)
    (positive : 0 < sliceSize) (remaining : x < elements) :
    (if x = elements - 1 then (data1 ++ data2).length - x * sliceSize else sliceSize) =
        (slice sliceSize x (data1 ++ data2)).length ∧
      x * sliceSize ≤ (data1 ++ data2).length := by
  have enough := le_cover positive (data1 ++ data2).length
  have tight := cover_lt positive (data1 ++ data2).length
  rw [← counted] at enough tight
  have reached : (x + 1) * sliceSize ≤ elements * sliceSize := Nat.mul_le_mul_right _ remaining
  rw [Nat.succ_mul] at reached
  rw [length_slice]
  refine ⟨?_, by omega⟩
  split
  next last =>
    obtain rfl : elements = x + 1 := by omega
    rw [Nat.succ_mul] at enough
    omega
  next early =>
    have later : (x + 2) * sliceSize ≤ elements * sliceSize :=
      Nat.mul_le_mul_right _ (by omega)
    rw [Nat.succ_mul, Nat.succ_mul] at later
    omega

/-- The room behind the header of an iteration. -/
theorem room_eq (remaining : x < elements) (total : Nat) :
    (elements - x) * insertSize + (total - x * sliceSize) =
      insertSize + ((elements - (x + 1)) * insertSize + (total - x * sliceSize)) := by
  obtain ⟨later, rfl⟩ : ∃ later, elements = x + 1 + later := ⟨elements - (x + 1), by omega⟩
  rw [show x + 1 + later - x = later + 1 by omega, show x + 1 + later - (x + 1) = later by omega,
    Nat.succ_mul]
  omega

theorem framed_slices_succ : framed (zeros insertSize) (slices sliceSize (x + 1) (data1 ++ data2)) =
    framed (zeros insertSize) (slices sliceSize x (data1 ++ data2)) ++ zeros insertSize ++
      slice sliceSize x (data1 ++ data2) := by
  rw [slices_snoc, framed_append, framed_cons, framed_nil, List.append_nil, List.append_assoc]

/-- One iteration writes its slice behind its header. -/
theorem insertSlice_inserting {state : Bytes × Bytes}
    (inserting : Inserting insertSize sliceSize elements x data1 data2 state)
    (counted : elements = cover (data1 ++ data2).length sliceSize) (positive : 0 < sliceSize)
    (remaining : x < elements) :
    ∃ next, insertSlice insertSize sliceSize data2 (data1 ++ data2).length elements x state =
        pure next ∧ Inserting insertSize sliceSize elements (x + 1) data1 data2 next := by
  obtain ⟨size, full⟩ := insertSize_eq counted positive remaining
  obtain ⟨following, source, ahead⟩ := inserting.ahead
  have result := inserting.result
  rw [room_eq remaining, zeros_add, ← List.append_assoc] at result
  have offset : (framed (zeros insertSize) (slices sliceSize x (data1 ++ data2)) ++
      zeros insertSize).length = x * (insertSize + sliceSize) + insertSize := by
    rw [List.length_append, length_framed_slices full, length_zeros]
  have enough : (slice sliceSize x (data1 ++ data2)).length ≤ (state.1 ++ following).length := by
    rw [ahead, length_slice, List.length_drop]
    omega
  have fits : (slice sliceSize x (data1 ++ data2)).length ≤
      (elements - (x + 1)) * insertSize + ((data1 ++ data2).length - x * sliceSize) := by
    rw [length_slice]
    omega
  obtain ⟨rest, following', source', left, copied⟩ := copySlice_ahead source offset enough fits
  refine ⟨(rest, framed (zeros insertSize) (slices sliceSize (x + 1) (data1 ++ data2)) ++
    zeros ((elements - (x + 1)) * insertSize +
      ((data1 ++ data2).length - (x + 1) * sliceSize))), ?_, ⟨⟨following', source', ?_⟩, rfl⟩⟩
  · rw [insertSlice, size, result, copied, take_ahead ahead, framed_slices_succ]
    congr 4
    rw [length_slice, Nat.succ_mul]
    omega
  · rw [left, drop_ahead ahead]

theorem insertSlices_inserting (counted : elements = cover (data1 ++ data2).length sliceSize)
    (positive : 0 < sliceSize) (bound : x ≤ elements) :
    ∃ state, insertSlices insertSize sliceSize data1 data2 (data1 ++ data2).length elements x =
        pure state ∧ Inserting insertSize sliceSize elements x data1 data2 state := by
  induction x with
  | zero =>
      refine ⟨_, rfl, ⟨⟨data2, .inl rfl, by simp⟩, by simp⟩⟩
  | succ x ih =>
      obtain ⟨state, ran, inserting⟩ := ih (by omega)
      obtain ⟨next, stepped, inserted⟩ := insertSlice_inserting inserting counted positive bound
      exact ⟨next, by rw [insertSlices, ran, pure_bind, stepped], inserted⟩

/-- The result is the slices of both buffers, each behind its room. -/
theorem concatAndInsert_eq (positive : 0 < sliceSize) :
    concatAndInsert insertSize sliceSize data1 data2 =
      pure (framed (zeros insertSize) (slices sliceSize
        (cover (data1 ++ data2).length sliceSize) (data1 ++ data2))) := by
  have counted := cover_eq_div_add positive (data1 ++ data2).length
  obtain ⟨state, ran, inserted⟩ : ∃ state,
      insertSlices insertSize sliceSize data1 data2 (data1 ++ data2).length _ _ = pure state ∧
        Inserting insertSize sliceSize _ _ data1 data2 state :=
    insertSlices_inserting rfl positive (Nat.le_refl _)
  have enough := le_cover positive (data1 ++ data2).length
  have result := inserted.result
  rw [Nat.sub_self, Nat.zero_mul, Nat.zero_add, Nat.sub_eq_zero_of_le enough] at result
  simp only [concatAndInsert, ← List.length_append, remainder_of_pos positive,
    quotient_of_pos positive, pure_bind, counted, ran, result]
  simp [zeros]

end UmbraHost.Stream
