import UmbraHost.Stream.HeaderStores

/-! # FEC blocks

The number of blocks that a frame needs, their sizes, and the cut. -/

namespace UmbraHost.Stream

open Slices

/-! ## Sizes -/

section sizes

variable (sliceSize fecPercentage frameSize : Nat)

/-- The size of the frame with room for the header of every packet. -/
def insertedSize : Nat := cover frameSize sliceSize * rawPacketSize + frameSize

/-- The blocks that the shard limit asks for. -/
def blocksWanted : Nat :=
  cover (insertedSize sliceSize frameSize)
    (maxDataShardsPerFecBlock fecPercentage * (rawPacketSize + sliceSize))

def blockCount : Nat :=
  if maxFecBlocks < blocksWanted sliceSize fecPercentage frameSize then maxFecBlocks
  else blocksWanted sliceSize fecPercentage frameSize

/-- The percentage used for the frame. -/
def framePercentage : Nat :=
  if maxFecBlocks < blocksWanted sliceSize fecPercentage frameSize then 0 else fecPercentage

/-- The data shards of every block but the last. -/
def blockShards : Nat :=
  cover (insertedSize sliceSize frameSize / blockCount sliceSize fecPercentage frameSize)
    (rawPacketSize + sliceSize)

def lastBlockShards : Nat :=
  cover frameSize sliceSize -
    (blockCount sliceSize fecPercentage frameSize - 1) * blockShards sliceSize fecPercentage frameSize

end sizes

theorem maxDataShards_lower {fecPercentage : Nat} (bound : fecPercentage ≤ 255) :
    71 ≤ maxDataShardsPerFecBlock fecPercentage :=
  (Nat.le_div_iff_mul_le (by omega)).mpr (by rw [maxTotalFecShards]; omega)

section

variable {sliceSize fecPercentage frameSize : Nat}

/-- The slices of the frame are the packets of the inserted bytes. -/
theorem insertedSize_bounds (positive : 0 < sliceSize) (nonempty : 0 < frameSize) :
    ∃ before, cover frameSize sliceSize = before + 1 ∧
      before * (rawPacketSize + sliceSize) + rawPacketSize < insertedSize sliceSize frameSize ∧
      insertedSize sliceSize frameSize ≤ (before + 1) * (rawPacketSize + sliceSize) := by
  have lower := le_cover positive frameSize
  have upper := cover_lt positive frameSize
  have some := cover_pos positive nonempty
  obtain ⟨before, packets⟩ : ∃ before, cover frameSize sliceSize = before + 1 :=
    ⟨cover frameSize sliceSize - 1, by omega⟩
  refine ⟨before, packets, ?_, ?_⟩
  · rw [packets, Nat.succ_mul] at upper
    rw [insertedSize, packets, Nat.succ_mul, Nat.mul_add]
    omega
  · rw [packets, Nat.succ_mul] at lower
    rw [insertedSize, packets, Nat.succ_mul, Nat.succ_mul, Nat.mul_add]
    omega

theorem cover_insertedSize (positive : 0 < sliceSize) (nonempty : 0 < frameSize) :
    cover (insertedSize sliceSize frameSize) (rawPacketSize + sliceSize) =
      cover frameSize sliceSize := by
  obtain ⟨before, packets, lower, upper⟩ := insertedSize_bounds positive nonempty
  rw [packets]
  apply cover_unique (by omega) upper
  rw [Nat.succ_mul]
  omega

theorem insertedSize_pos (nonempty : 0 < frameSize) : 0 < insertedSize sliceSize frameSize := by
  rw [insertedSize]
  omega

theorem blockCount_pos (positive : 0 < sliceSize) (bound : fecPercentage ≤ 255)
    (nonempty : 0 < frameSize) : 0 < blockCount sliceSize fecPercentage frameSize := by
  have shards := maxDataShards_lower bound
  have some : 0 < blocksWanted sliceSize fecPercentage frameSize :=
    cover_pos (Nat.mul_pos (by omega) (by omega)) (insertedSize_pos nonempty)
  rw [blockCount]
  split <;> simp only [maxFecBlocks] at * <;> omega

theorem blockCount_le : blockCount sliceSize fecPercentage frameSize ≤ maxFecBlocks := by
  rw [blockCount]
  split <;> omega

/-- The blocks in front of the last one are full of data shards. -/
theorem blockCount_mul_lt (positive : 0 < sliceSize) (bound : fecPercentage ≤ 255)
    (nonempty : 0 < frameSize) {blocks : Nat}
    (counted : blockCount sliceSize fecPercentage frameSize = blocks + 1) :
    blocks * maxDataShardsPerFecBlock fecPercentage < cover frameSize sliceSize := by
  have shards := maxDataShards_lower bound
  have unit : 0 < maxDataShardsPerFecBlock fecPercentage * (rawPacketSize + sliceSize) :=
    Nat.mul_pos (by omega) (by omega)
  have upper := cover_lt unit (insertedSize sliceSize frameSize)
  obtain ⟨before, packets, -, covered⟩ := insertedSize_bounds positive nonempty
  have wanted : blocks + 1 ≤ blocksWanted sliceSize fecPercentage frameSize := by
    rw [← counted, blockCount]
    split <;> omega
  have fewer := Nat.mul_le_mul_right
    (maxDataShardsPerFecBlock fecPercentage * (rawPacketSize + sliceSize)) wanted
  rw [Nat.succ_mul, ← Nat.mul_assoc] at fewer
  rw [packets]
  apply Nat.lt_of_mul_lt_mul_right (a := rawPacketSize + sliceSize)
  rw [blocksWanted] at fewer
  omega

theorem packets_le_blocks (positive : 0 < sliceSize) (bound : fecPercentage ≤ 255)
    (nonempty : 0 < frameSize) :
    cover frameSize sliceSize ≤
      blockCount sliceSize fecPercentage frameSize *
        blockShards sliceSize fecPercentage frameSize := by
  have some := blockCount_pos positive bound nonempty
  have few := @blockCount_le sliceSize fecPercentage frameSize
  obtain ⟨before, packets, lower, -⟩ := insertedSize_bounds positive nonempty
  rw [packets]
  apply lt_blocks_mul_cover (by omega) some
  simp only [maxFecBlocks, rawPacketSize] at *
  omega

/-- The last block is not empty. -/
theorem blocks_mul_lt_packets (positive : 0 < sliceSize) (bound : fecPercentage ≤ 255)
    (nonempty : 0 < frameSize) :
    (blockCount sliceSize fecPercentage frameSize - 1) *
      blockShards sliceSize fecPercentage frameSize < cover frameSize sliceSize := by
  have shards := maxDataShards_lower bound
  have some := blockCount_pos positive bound nonempty
  have few := @blockCount_le sliceSize fecPercentage frameSize
  have reached := packets_le_blocks positive bound nonempty
  obtain ⟨before, packets, -, covered⟩ := insertedSize_bounds positive nonempty
  obtain ⟨blocks, counted⟩ : ∃ blocks, blockCount sliceSize fecPercentage frameSize = blocks + 1 :=
    ⟨blockCount sliceSize fecPercentage frameSize - 1, by omega⟩
  have full := blockCount_mul_lt positive bound nonempty counted
  have enough := Nat.mul_le_mul_left blocks shards
  simp only [blockShards, counted, Nat.add_sub_cancel, packets, maxFecBlocks] at *
  apply blocks_mul_cover_lt (by omega) (insertedSize_pos nonempty) covered
  by_contra small
  have fewer : cover (insertedSize sliceSize frameSize / (blocks + 1)) (rawPacketSize + sliceSize) ≤
      blocks := by omega
  have product := Nat.mul_le_mul_left (blocks + 1) fewer
  have square : (blocks + 1) * blocks ≤ 4 * blocks := Nat.mul_le_mul_right _ few
  omega

theorem lastBlockShards_pos (positive : 0 < sliceSize) (bound : fecPercentage ≤ 255)
    (nonempty : 0 < frameSize) : 0 < lastBlockShards sliceSize fecPercentage frameSize :=
  Nat.sub_pos_of_lt (blocks_mul_lt_packets positive bound nonempty)

theorem lastBlockShards_le (positive : 0 < sliceSize) (bound : fecPercentage ≤ 255)
    (nonempty : 0 < frameSize) :
    lastBlockShards sliceSize fecPercentage frameSize ≤
      blockShards sliceSize fecPercentage frameSize := by
  have some := blockCount_pos positive bound nonempty
  have reached := packets_le_blocks positive bound nonempty
  obtain ⟨blocks, counted⟩ : ∃ blocks, blockCount sliceSize fecPercentage frameSize = blocks + 1 :=
    ⟨blockCount sliceSize fecPercentage frameSize - 1, by omega⟩
  rw [counted, Nat.succ_mul] at reached
  rw [lastBlockShards, counted, Nat.add_sub_cancel]
  omega

/-- With FEC, a block fits the shard limit. -/
theorem blockShards_le (positive : 0 < sliceSize) (bound : fecPercentage ≤ 255)
    (nonempty : 0 < frameSize)
    (used : blocksWanted sliceSize fecPercentage frameSize ≤ maxFecBlocks) :
    blockShards sliceSize fecPercentage frameSize ≤ maxDataShardsPerFecBlock fecPercentage := by
  have shards := maxDataShards_lower bound
  have some := blockCount_pos positive bound nonempty
  have unit : 0 < maxDataShardsPerFecBlock fecPercentage * (rawPacketSize + sliceSize) :=
    Nat.mul_pos (by omega) (by omega)
  have counted : blockCount sliceSize fecPercentage frameSize =
      blocksWanted sliceSize fecPercentage frameSize := by
    rw [blockCount, if_neg (by omega)]
  have lower := le_cover unit (insertedSize sliceSize frameSize)
  apply cover_le (by omega)
  apply Nat.div_le_of_le_mul
  rw [counted]
  exact lower

end

end UmbraHost.Stream
