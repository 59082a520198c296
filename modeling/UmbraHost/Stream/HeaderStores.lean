import UmbraHost.Stream.HeaderInsertion

/-! # Packet-header stores

The loops over the packets and over the shards store header members.  Nothing
behind the header of a packet changes. -/

namespace UmbraHost.Stream

open Slices

variable {blocksize : Nat}

/-- The bytes behind the packet headers are the same. -/
structure SameBodies (blocksize : Nat) (before after : Bytes) : Prop where
  length : after.length = before.length
  body : ∀ i, rawPacketSize ≤ i % blocksize → after[i]? = before[i]?

namespace SameBodies

variable {before between after : Bytes}

theorem refl (bytes : Bytes) : SameBodies blocksize bytes bytes where
  length := rfl
  body _ _ := rfl

theorem trans (first : SameBodies blocksize before between)
    (second : SameBodies blocksize between after) : SameBodies blocksize before after where
  length := second.length.trans first.length
  body i behind := (second.body i behind).trans (first.body i behind)

theorem take (same : SameBodies blocksize before after) :
    SameBodies blocksize (before.take blocksize) (after.take blocksize) where
  length := by rw [List.length_take, List.length_take, same.length]
  body i behind := by
    rw [List.getElem?_take, List.getElem?_take, same.body i behind]

theorem drop (same : SameBodies blocksize before after) :
    SameBodies blocksize (before.drop blocksize) (after.drop blocksize) where
  length := by rw [List.length_drop, List.length_drop, same.length]
  body i behind := by
    rw [List.getElem?_drop, List.getElem?_drop,
      same.body (blocksize + i) (by rw [Nat.add_mod_left]; exact behind)]

theorem padTo (filler : UInt8) (same : SameBodies blocksize before after) :
    SameBodies blocksize (padTo blocksize filler before) (padTo blocksize filler after) where
  length := by
    simp only [Slices.padTo, List.length_append, List.length_replicate, same.length]
  body i behind := by
    rw [Slices.padTo, Slices.padTo, List.getElem?_append, List.getElem?_append, same.length,
      same.body i behind]

theorem slices (same : SameBodies blocksize before after) (count : Nat) :
    List.Forall₂ (SameBodies blocksize) (slices blocksize count before)
      (slices blocksize count after) := by
  induction count generalizing before after with
  | zero => exact .nil
  | succ count ih => exact .cons same.take (ih same.drop)

/-- Of one shard, the payload behind the header. -/
theorem drop_header (same : SameBodies blocksize before after)
    (short : before.length ≤ blocksize) :
    after.drop rawPacketSize = before.drop rawPacketSize := by
  apply List.ext_getElem?
  intro i
  rw [List.getElem?_drop, List.getElem?_drop]
  by_cases within : rawPacketSize + i < blocksize
  · apply same.body
    rw [Nat.mod_eq_of_lt within]
    omega
  · have longer := same.length
    rw [List.getElem?_eq_none (by omega), List.getElem?_eq_none (by omega)]

end SameBodies

theorem getElem?_overwrite {buffer bytes : Bytes} {offset i : Nat}
    (fits : offset + bytes.length ≤ buffer.length)
    (outside : i < offset ∨ offset + bytes.length ≤ i) :
    (buffer.take offset ++ bytes ++ buffer.drop (offset + bytes.length))[i]? = buffer[i]? := by
  have front : (buffer.take offset).length = offset := by
    rw [List.length_take]
    omega
  rcases outside with early | late
  · rw [List.append_assoc, List.getElem?_append_left (by omega), List.getElem?_take,
      if_pos early]
  · rw [List.getElem?_append_right (by rw [List.length_append]; omega), List.length_append, front,
      List.getElem?_drop, show offset + bytes.length + (i - (offset + bytes.length)) = i by omega]

/-- A store into the header of packet `x`. -/
theorem overwrite_header (large : rawPacketSize ≤ blocksize) {buffer : Bytes} {x : Nat}
    (inside : x * blocksize + rawPacketSize ≤ buffer.length) (store : Store) :
    ∃ after, overwrite buffer (x * blocksize + store.offset) store.bytes = pure after ∧
      SameBodies blocksize buffer after := by
  have within := store.within
  have fits : x * blocksize + store.offset + store.bytes.length ≤ buffer.length := by omega
  refine ⟨_, if_pos fits, ?_, ?_⟩
  · simp only [List.length_append, List.length_take, List.length_drop]
    omega
  · intro i behind
    apply getElem?_overwrite fits
    by_contra inHeader
    obtain ⟨place, rfl⟩ : ∃ place, i = place + x * blocksize := ⟨i - x * blocksize, by omega⟩
    rw [Nat.add_mul_mod_self_right, Nat.mod_eq_of_lt (by omega)] at behind
    omega

/-- What the header loops write for packet `x` lies in its header. -/
theorem writeHeader_outside {start : Nat} {buffer after : Bytes} {stores : List Store}
    (written : writeHeader start buffer stores = pure after) (i : Nat)
    (outside : i < start ∨ start + rawPacketSize ≤ i) : after[i]? = buffer[i]? := by
  induction stores generalizing buffer with
  | nil =>
      cases written
      rfl
  | cons store rest ih =>
      have within := store.within
      by_cases fits : start + store.offset + store.bytes.length ≤ buffer.length
      · rw [writeHeader, overwrite, if_pos fits, pure_bind] at written
        rw [ih written, getElem?_overwrite fits (by omega)]
      · rw [writeHeader, overwrite, if_neg fits] at written
        cases written

theorem writeHeader_sameBodies (large : rawPacketSize ≤ blocksize) {buffer : Bytes} {x : Nat}
    (inside : x * blocksize + rawPacketSize ≤ buffer.length) (stores : List Store) :
    ∃ after, writeHeader (x * blocksize) buffer stores = pure after ∧
      SameBodies blocksize buffer after := by
  induction stores generalizing buffer with
  | nil => exact ⟨buffer, rfl, .refl buffer⟩
  | cons store rest ih =>
      obtain ⟨between, stored, first⟩ := overwrite_header large inside store
      have inside : x * blocksize + rawPacketSize ≤ between.length := by
        rw [first.length]
        exact inside
      obtain ⟨after, written, second⟩ := ih inside
      refine ⟨after, ?_, first.trans second⟩
      rw [writeHeader, stored, pure_bind, written]

theorem writePackets_sameBodies (large : rawPacketSize ≤ blocksize) (stores : Nat → List Store)
    {packets : Nat} {payload : Bytes}
    (inside : ∀ x < packets, x * blocksize + rawPacketSize ≤ payload.length) :
    ∃ after, writePackets stores blocksize packets payload = pure after ∧
      SameBodies blocksize payload after := by
  induction packets with
  | zero => exact ⟨payload, rfl, .refl payload⟩
  | succ x ih =>
      obtain ⟨between, written, first⟩ := ih fun earlier before => inside earlier (by omega)
      have here : x * blocksize + rawPacketSize ≤ between.length := by
        rw [first.length]
        exact inside x (Nat.lt_succ_self x)
      obtain ⟨after, last, second⟩ := writeHeader_sameBodies large here (stores x)
      refine ⟨after, ?_, first.trans second⟩
      rw [writePackets, written, pure_bind, last]

theorem writeShards_sameBodies (large : rawPacketSize ≤ blocksize) (stores : Nat → List Store)
    (x : Nat) {shards : List Bytes} (full : ∀ shard ∈ shards, shard.length = blocksize) :
    ∃ after, writeShards stores x shards = pure after ∧
      List.Forall₂ (SameBodies blocksize) shards after := by
  induction shards generalizing x with
  | nil => exact ⟨[], rfl, .nil⟩
  | cons shard rest ih =>
      have inside : 0 * blocksize + rawPacketSize ≤ shard.length := by
        rw [full shard List.mem_cons_self, Nat.zero_mul, Nat.zero_add]
        exact large
      obtain ⟨first, written, same⟩ := writeHeader_sameBodies large inside (stores x)
      obtain ⟨later, others, bodies⟩ := ih (x + 1)
        fun other member => full other (List.mem_cons_of_mem _ member)
      refine ⟨first :: later, ?_, .cons same bodies⟩
      rw [Nat.zero_mul] at written
      rw [writeShards, written, pure_bind, others, pure_bind]

end UmbraHost.Stream
