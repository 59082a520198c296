import UmbraHost.Stream.FecBlocks
import Mathlib.Data.List.Forall2

/-! # The shards of a block

`fec::encode` between the two loops that store the packet headers. -/

namespace UmbraHost.Stream

open Slices

variable {blocksize fecPercentage parity percentage : Nat}

/-- The data shards of a block as they are cut, the last one padded. -/
def plainShards (blocksize : Nat) (block : Bytes) : List Bytes :=
  (slices blocksize (cover block.length blocksize) block).map (padTo blocksize 0)

theorem length_plainShards (block : Bytes) :
    (plainShards blocksize block).length = cover block.length blocksize := by
  rw [plainShards, List.length_map, length_slices]

theorem length_of_mem_plainShards {block : Bytes} :
    ∀ shard ∈ plainShards blocksize block, shard.length = blocksize := by
  intro shard member
  obtain ⟨piece, cut, rfl⟩ := List.mem_map.mp member
  exact length_padTo 0 (length_le_of_mem_slices piece cut)

theorem dataShardsOf_eq (positive : 0 < blocksize) (block : Bytes) :
    dataShardsOf block blocksize (block.length / blocksize) (block.length % blocksize != 0) =
      plainShards blocksize block := by
  have counted := cover_eq_div_add positive block.length
  have kept := map_padTo_of_full 0
    (length_of_mem_slices (Nat.div_mul_le_self block.length blocksize))
  by_cases whole : block.length % blocksize = 0
  · rw [if_neg (by omega), Nat.add_zero] at counted
    rw [plainShards, ← counted, kept, dataShardsOf]
    simp [whole]
  · rw [if_pos whole] at counted
    rw [plainShards, ← counted, slices_snoc, List.map_append, kept, dataShardsOf]
    simp [whole, slice, padTo, zeros]

/-! ## Parity -/

section parity

variable (dataShards fecPercentage : Nat) (minParityShards : Int)

/-- The parity shards that the percentage gives. -/
def plainParity : Nat := (dataShards * fecPercentage + 99) / 100

/-- The client's minimum replaces the percentage. -/
def Raised : Prop :=
  (plainParity dataShards fecPercentage : Int) < minParityShards ∧ fecPercentage ≠ 0

instance : Decidable (Raised dataShards fecPercentage minParityShards) :=
  inferInstanceAs (Decidable (_ ∧ _))

def parityCount : Nat :=
  if Raised dataShards fecPercentage minParityShards then minParityShards.toNat
  else plainParity dataShards fecPercentage

def advertisedPercentage : Nat :=
  if Raised dataShards fecPercentage minParityShards then
    100 * minParityShards.toNat / dataShards
  else fecPercentage

end parity

section

variable {dataShards : Nat} {minParityShards : Int}

theorem parityShards_eq (some : 0 < dataShards) (bounded : IsInt minParityShards)
    (usable : 0 ≤ minParityShards ∨ fecPercentage = 0) :
    parityShards dataShards fecPercentage minParityShards =
      pure ((parityCount dataShards fecPercentage minParityShards : Int),
        advertisedPercentage dataShards fecPercentage minParityShards) := by
  rcases usable with nonnegative | rfl
  case inr => simp [parityShards, parityCount, advertisedPercentage, Raised, plainParity]
  obtain ⟨minimum, rfl⟩ := Int.eq_ofNat_of_zero_le nonnegative
  have upper := bounded.2
  have unwrapped : 100 * (minimum : Int) % 2 ^ 64 = 100 * minimum :=
    Int.emod_eq_of_lt (by omega) (by omega)
  have hundred : (100 * (minimum : Int)).toNat = 100 * minimum := by omega
  have condition : ((minimum : Int) < 0 ∨ (plainParity dataShards fecPercentage : Int) < minimum) ∧
      fecPercentage ≠ 0 ↔ Raised dataShards fecPercentage minimum := by
    rw [Raised]
    omega
  rw [parityCount, advertisedPercentage]
  by_cases raised : Raised dataShards fecPercentage minimum
  · have taken := condition.mpr raised
    simp only [plainParity] at taken
    simp only [parityShards, if_pos taken, if_pos raised, unwrapped, hundred,
      quotient_of_pos some, pure_bind, Int.toNat_natCast]
  · have skipped := fun both => raised (condition.mp both)
    simp only [plainParity] at skipped
    simp only [parityShards, if_neg skipped, if_neg raised, plainParity]

/-- Without a percentage there are no parity shards. -/
theorem parityCount_of_advertised_zero (some : 0 < dataShards)
    (off : advertisedPercentage dataShards fecPercentage minParityShards = 0) :
    parityCount dataShards fecPercentage minParityShards = 0 := by
  by_cases raised : Raised dataShards fecPercentage minParityShards
  · -- The minimum is above the shards that even one percent gives.
    have percent : dataShards * 1 ≤ dataShards * fecPercentage :=
      Nat.mul_le_mul_left _ (Nat.pos_of_ne_zero raised.2)
    have above := raised.1
    rw [plainParity] at above
    rw [advertisedPercentage, if_pos raised] at off
    have few := (Nat.div_eq_zero_iff.mp off).resolve_left (by omega)
    omega
  · rw [advertisedPercentage, if_neg raised] at off
    rw [parityCount, if_neg raised, plainParity, off, Nat.mul_zero]

/-! ## Encoding -/

theorem allocate_natCast (count : Nat) : allocate (count : Int) = pure count :=
  if_neg (by omega)

/-- What `encode` returns for a block. -/
def encoded (moonlight : Moonlight) (blocksize fecPercentage : Nat) (minParityShards : Int)
    (block : Bytes) : FecShards where
  dataShards := cover block.length blocksize
  nrShards := cover block.length blocksize +
    parityCount (cover block.length blocksize) fecPercentage minParityShards
  percentage := advertisedPercentage (cover block.length blocksize) fecPercentage minParityShards
  shards := plainShards blocksize block ++
    (List.range (parityCount (cover block.length blocksize) fecPercentage minParityShards)).map
      fun x => (List.range blocksize).map (moonlight.reedSolomon (plainShards blocksize block) x)

theorem encode_eq (moonlight : Moonlight) (positive : 0 < blocksize) (bounded : IsInt minParityShards)
    (usable : 0 ≤ minParityShards ∨ fecPercentage = 0) {block : Bytes}
    (nonempty : 0 < block.length) :
    encode moonlight block blocksize fecPercentage minParityShards =
      pure (encoded moonlight blocksize fecPercentage minParityShards block) := by
  have some := cover_pos positive nonempty
  have off := @parityCount_of_advertised_zero fecPercentage _ minParityShards some
  have counted := cover_eq_div_add positive block.length
  have pad : (block.length % blocksize != 0).toNat =
      if block.length % blocksize ≠ 0 then 1 else 0 := by
    by_cases whole : block.length % blocksize = 0 <;> simp [whole]
  rw [← pad] at counted
  have fits (parity : Nat) : (block.length % blocksize != 0).toNat * blocksize ≤
      ((block.length % blocksize != 0).toNat + parity) * blocksize :=
    Nat.mul_le_mul_right _ (by omega)
  rw [encode, remainder_of_pos positive, quotient_of_pos positive, pure_bind, pure_bind]
  simp only [counted, parityShards_eq some bounded usable, pure_bind, ← Int.natCast_add,
    ← Int.natCast_mul, allocate_natCast, dataShardsOf_eq positive]
  rw [require_of ⟨Nat.le_add_right _ _, fits _⟩, pure_bind]
  by_cases zero : advertisedPercentage (cover block.length blocksize) fecPercentage
      minParityShards = 0
  · rw [if_neg (by simp [zero])]
    simp [encoded, zero, off zero]
  · rw [if_pos zero, require_of ⟨Int.le_refl _, Int.le_refl _⟩]
    rfl

theorem length_encoded (moonlight : Moonlight) (block : Bytes) :
    (encoded moonlight blocksize fecPercentage minParityShards block).shards.length =
      (encoded moonlight blocksize fecPercentage minParityShards block).nrShards := by
  simp [encoded, length_plainShards]

theorem take_encoded (moonlight : Moonlight) (block : Bytes) :
    (encoded moonlight blocksize fecPercentage minParityShards block).shards.take
      (cover block.length blocksize) = plainShards blocksize block :=
  List.take_left' (length_plainShards block)

theorem length_of_mem_encoded (moonlight : Moonlight) (block : Bytes) :
    ∀ shard ∈ (encoded moonlight blocksize fecPercentage minParityShards block).shards,
      shard.length = blocksize := by
  intro shard member
  rcases List.mem_append.mp member with data | behind
  · exact length_of_mem_plainShards shard data
  · obtain ⟨x, -, rfl⟩ := List.mem_map.mp behind
    rw [List.length_map, List.length_range]

end

/-! ## Header stores around the encoder -/

abbrev SameShards (blocksize : Nat) : List Bytes → List Bytes → Prop :=
  List.Forall₂ (SameBodies blocksize)

theorem SameShards.trans {before between after : List Bytes}
    (first : SameShards blocksize before between) (second : SameShards blocksize between after) :
    SameShards blocksize before after := by
  induction first generalizing after with
  | nil => exact second
  | cons same _ ih =>
      cases second with
      | cons next rest => exact .cons (same.trans next) (ih rest)

/-- Stores into the headers leave the cut alone. -/
theorem SameBodies.plainShards {before after : Bytes} (same : SameBodies blocksize before after) :
    SameShards blocksize (plainShards blocksize before) (plainShards blocksize after) := by
  rw [Stream.plainShards, Stream.plainShards, same.length]
  apply List.forall₂_map_left_iff.mpr
  apply List.forall₂_map_right_iff.mpr
  exact (same.slices _).imp fun _ _ piece => piece.padTo 0

/-- Every packet of a block has room for its header. -/
def HeadersFit (blocksize : Nat) (block : Bytes) : Prop :=
  ∀ x < cover block.length blocksize, x * blocksize + rawPacketSize ≤ block.length

def FecShards.data (shards : FecShards) : List Bytes := shards.shards.take shards.dataShards

/-- The shards of a block as they are sent. -/
structure BlockEncoded (blocksize fecPercentage : Nat) (minParityShards : Int) (block : Bytes)
    (shards : FecShards) : Prop where
  dataShards : shards.dataShards = cover block.length blocksize
  nrShards : shards.nrShards =
    shards.dataShards + parityCount shards.dataShards fecPercentage minParityShards
  percentage : shards.percentage =
    advertisedPercentage shards.dataShards fecPercentage minParityShards
  length : shards.shards.length = shards.nrShards
  data : SameShards blocksize (plainShards blocksize block) shards.data

variable {moonlight : Moonlight} {config : SessionConfig} {frame : VideoFrame} {needed : Nat}

theorem encodeBlock_encoded (large : rawPacketSize ≤ blocksize)
    (usable : 0 ≤ config.minRequiredFecPackets ∨ fecPercentage = 0) {block : Bytes}
    (nonempty : 0 < block.length) (fits : HeadersFit blocksize block) (blockIndex lowseq : Nat) :
    ∃ shards, encodeBlock moonlight config frame blocksize fecPercentage needed blockIndex lowseq
        block = pure shards ∧
      BlockEncoded blocksize fecPercentage config.minRequiredFecPackets block shards := by
  have positive : 0 < blocksize := Nat.lt_of_lt_of_le (by decide) large
  obtain ⟨stored, ran, same⟩ := writePackets_sameBodies large
    (packetStores moonlight frame lowseq blockIndex needed (cover block.length blocksize)) fits
  have encoding := encode_eq moonlight positive config.minRequiredFecPackets_int usable
    (by rw [same.length]; exact nonempty)
  have full := @length_of_mem_encoded blocksize fecPercentage config.minRequiredFecPackets
    moonlight stored
  obtain ⟨shards, written, sent⟩ := writeShards_sameBodies large
    (shardStores moonlight frame (encoded moonlight blocksize fecPercentage
      config.minRequiredFecPackets stored) lowseq blockIndex needed) 0 full
  refine ⟨{ encoded moonlight blocksize fecPercentage config.minRequiredFecPackets stored with
    shards }, ?_, ?_⟩
  · rw [encodeBlock, quotient_cover positive, pure_bind, ran, pure_bind, encoding, pure_bind,
      require_of (length_encoded moonlight stored), pure_bind, written, pure_bind]
  · have data := List.forall₂_take (cover stored.length blocksize) sent
    rw [take_encoded] at data
    refine ⟨by rw [← same.length]; rfl, rfl, rfl, ?_, same.plainShards.trans data⟩
    rw [← sent.length_eq, length_encoded]

theorem encodeBlocks_encoded (large : rawPacketSize ≤ blocksize)
    (usable : 0 ≤ config.minRequiredFecPackets ∨ fecPercentage = 0) {fecBlocks : List Bytes}
    (nonempty : ∀ block ∈ fecBlocks, 0 < block.length)
    (fits : ∀ block ∈ fecBlocks, HeadersFit blocksize block) (blockIndex lowseq : Nat) :
    ∃ blocks, encodeBlocks moonlight config frame blocksize fecPercentage needed blockIndex lowseq
        fecBlocks = pure blocks ∧
      List.Forall₂ (BlockEncoded blocksize fecPercentage config.minRequiredFecPackets)
        fecBlocks blocks := by
  induction fecBlocks generalizing blockIndex lowseq with
  | nil => exact ⟨[], rfl, .nil⟩
  | cons block rest ih =>
      obtain ⟨shards, ran, first⟩ := encodeBlock_encoded large usable
        (nonempty block List.mem_cons_self) (fits block List.mem_cons_self) blockIndex lowseq
      obtain ⟨later, continued, others⟩ := ih
        (fun other member => nonempty other (List.mem_cons_of_mem _ member))
        (fun other member => fits other (List.mem_cons_of_mem _ member))
        (blockIndex + 1) (lowseq + shards.nrShards)
      refine ⟨shards :: later, ?_, .cons first others⟩
      rw [encodeBlocks, ran, pure_bind, continued, pure_bind]

end UmbraHost.Stream
