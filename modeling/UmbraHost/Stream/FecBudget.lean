import UmbraHost.Stream.FrameShards

/-! # The shard limit and the advertised parity

Rounding in the block count, the split, the parity and the percentage, against
the client's minimum, which the shard limit does not account for. -/

namespace UmbraHost.Stream

open Slices

variable {blocksize sliceSize fecPercentage frameSize dataShards : Nat} {minParityShards : Int}

/-! ## One block -/

/-- The parity shards that a receiver derives from the advertised values. -/
def receiverParity (dataShards percentage : Nat) : Nat := cover (dataShards * percentage) 100

structure FecShards.WithinBudget (shards : FecShards) : Prop where
  some : 0 < shards.dataShards
  limit : shards.nrShards ≤ maxTotalFecShards
  field : shards.percentage < 2 ^ 8
  receiver : receiverParity shards.dataShards shards.percentage =
    shards.nrShards - shards.dataShards

/-- The client's minimum is met already, or a percentage reproduces it within the
limits. -/
def MinimumFits (dataShards fecPercentage : Nat) (minParityShards : Int) : Prop :=
  0 ≤ minParityShards ∧
    (minParityShards ≤ plainParity dataShards fecPercentage ∨
      (dataShards + minParityShards ≤ maxTotalFecShards ∧
        100 * minParityShards / dataShards < 2 ^ 8 ∧ 100 * minParityShards % dataShards < 100))

instance : Decidable (MinimumFits dataShards fecPercentage minParityShards) :=
  inferInstanceAs (Decidable (_ ∧ _))

/-- The percentage of the settings stays within the limit. -/
theorem plainParity_budget (small : dataShards ≤ maxDataShardsPerFecBlock fecPercentage) :
    dataShards + plainParity dataShards fecPercentage ≤ maxTotalFecShards := by
  have product : dataShards * (100 + fecPercentage) ≤ maxTotalFecShards * 100 :=
    (Nat.le_div_iff_mul_le (by omega)).mp small
  rw [Nat.mul_add, maxTotalFecShards] at product
  rw [plainParity, maxTotalFecShards]
  omega

/-- Rounding the percentage down loses less than a shard when the remainder is small. -/
theorem receiverParity_raised (dataShards minimum : Nat) :
    receiverParity dataShards (100 * minimum / dataShards) = minimum ↔
      100 * minimum % dataShards < 100 := by
  have split := Nat.div_add_mod (100 * minimum) dataShards
  rw [receiverParity, cover]
  omega

theorem minimumFits_iff (used : 0 < fecPercentage) (bound : fecPercentage ≤ 255)
    (small : dataShards ≤ maxDataShardsPerFecBlock fecPercentage)
    (nonnegative : 0 ≤ minParityShards) :
    MinimumFits dataShards fecPercentage minParityShards ↔
      dataShards + parityCount dataShards fecPercentage minParityShards ≤ maxTotalFecShards ∧
        advertisedPercentage dataShards fecPercentage minParityShards < 2 ^ 8 ∧
        receiverParity dataShards
            (advertisedPercentage dataShards fecPercentage minParityShards) =
          parityCount dataShards fecPercentage minParityShards := by
  obtain ⟨minimum, rfl⟩ := Int.eq_ofNat_of_zero_le nonnegative
  have plain := plainParity_budget small
  by_cases raised : Raised dataShards fecPercentage minimum
  · have above := raised.1
    rw [MinimumFits, parityCount, advertisedPercentage, if_pos raised, if_pos raised,
      Int.toNat_natCast, receiverParity_raised]
    norm_cast
    omega
  · have met : (minimum : Int) ≤ plainParity dataShards fecPercentage := by
      by_contra above
      exact raised ⟨by omega, by omega⟩
    rw [MinimumFits, parityCount, advertisedPercentage, if_neg raised, if_neg raised]
    exact ⟨fun _ => ⟨plain, by omega, rfl⟩, fun _ => ⟨nonnegative, .inl met⟩⟩

theorem advertised_pos (some : 0 < dataShards) (used : 0 < fecPercentage) :
    advertisedPercentage dataShards fecPercentage minParityShards ≠ 0 := by
  intro off
  have none := parityCount_of_advertised_zero some off
  have product : 0 < dataShards * fecPercentage := Nat.mul_pos some used
  rw [parityCount] at none
  split at none
  next raised =>
    have above := raised.1
    omega
  next =>
    rw [plainParity] at none
    omega

/-- A negative minimum is above every count of parity shards. -/
theorem encode_negative (moonlight : Moonlight) (positive : 0 < blocksize) {block : Bytes}
    (nonempty : 0 < block.length) (used : 0 < fecPercentage) (negative : minParityShards < 0) :
    encode moonlight block blocksize fecPercentage minParityShards =
      throw (if minParityShards = -1 ∧ block.length % blocksize ≠ 0 then .outOfBounds
        else .thrown) := by
  have some := cover_pos positive nonempty
  have counted := cover_eq_div_add positive block.length
  have pad : (block.length % blocksize != 0).toNat =
      if block.length % blocksize ≠ 0 then 1 else 0 := by
    by_cases whole : block.length % blocksize = 0 <;> simp [whole]
  obtain ⟨raised, parity⟩ : ∃ raised,
      parityShards (cover block.length blocksize) fecPercentage minParityShards =
        pure (minParityShards, raised) := by
    rw [parityShards]
    simp only [if_pos (show (minParityShards < 0 ∨ _) ∧ fecPercentage ≠ 0 from
      ⟨.inl negative, by omega⟩), quotient_of_pos some, pure_bind]
    exact ⟨_, rfl⟩
  rw [encode, remainder_of_pos positive, quotient_of_pos positive, pure_bind, pure_bind]
  rw [← pad] at counted
  simp only [counted, parity, pure_bind]
  by_cases unaligned : minParityShards = -1 ∧ block.length % blocksize ≠ 0
  · obtain ⟨rfl, rest⟩ := unaligned
    rw [if_pos rest] at pad
    rw [if_pos ⟨rfl, rest⟩, pad, allocate, if_neg (by simp), pure_bind, allocate,
      if_neg (by omega), pure_bind, require, if_neg (by omega)]
    rfl
  · have below : ((block.length % blocksize != 0).toNat + minParityShards : Int) * blocksize < 0 := by
      apply Int.mul_neg_of_neg_of_pos _ (by omega)
      rw [pad]
      split <;> omega
    rw [if_neg unaligned, allocate, if_pos below]
    rfl

/-! ## The frame -/

section sizes

variable (sliceSize fecPercentage frameSize : Nat)

/-- The data shards of each block of a frame. -/
def blockSizes : List Nat :=
  List.replicate (blockCount sliceSize fecPercentage frameSize - 1)
    (blockShards sliceSize fecPercentage frameSize) ++
      [lastBlockShards sliceSize fecPercentage frameSize]

end sizes

theorem map_cover_frameBlocks {data : Bytes} (positive : 0 < sliceSize)
    (bound : fecPercentage ≤ 255) (nonempty : 0 < data.length) :
    (frameBlocks sliceSize fecPercentage data).map
        (fun block => cover block.length (rawPacketSize + sliceSize)) =
      blockSizes sliceSize fecPercentage data.length := by
  obtain ⟨full, last, cut, count, fullBlocks, lastBlock, -⟩ :=
    frameBlocks_shards positive bound nonempty
  rw [cut, List.map_append, blockSizes, ← count, Nat.add_sub_cancel]
  congr 1
  · apply List.eq_replicate_iff.mpr
    refine ⟨List.length_map .., ?_⟩
    intro shards member
    obtain ⟨block, early, rfl⟩ := List.mem_map.mp member
    exact (fullBlocks block early).counted
  · exact congrArg (fun shards => [shards]) lastBlock.counted

theorem map_dataShards_encoded {fecBlocks : List Bytes} {blocks : List FecShards}
    (sent : List.Forall₂ (BlockEncoded blocksize fecPercentage minParityShards) fecBlocks
      blocks) :
    blocks.map FecShards.dataShards =
      fecBlocks.map fun block => cover block.length blocksize := by
  induction sent with
  | nil => rfl
  | cons block _ ih => rw [List.map_cons, List.map_cons, block.dataShards, ih]

theorem counted_encoded {fecBlocks : List Bytes} {blocks : List FecShards}
    (sent : List.Forall₂ (BlockEncoded blocksize fecPercentage minParityShards) fecBlocks
      blocks) :
    ∀ shards ∈ blocks,
      shards.nrShards =
          shards.dataShards + parityCount shards.dataShards fecPercentage minParityShards ∧
        shards.percentage =
          advertisedPercentage shards.dataShards fecPercentage minParityShards := by
  induction sent with
  | nil => simp
  | cons block _ ih =>
      intro shards member
      rcases List.mem_cons.mp member with rfl | later
      · exact ⟨block.nrShards, block.percentage⟩
      · exact ih shards later

/-- Between one and four blocks, none empty, and each within the budget. -/
structure FecBudget (result : PacketizedFrame) : Prop where
  some : 0 < result.fecBlocks.length
  few : result.fecBlocks.length ≤ maxFecBlocks
  nonempty : ∀ block ∈ result.fecBlocks, 0 < block.length
  encoded : result.blocks.length = result.fecBlocks.length
  budget : ∀ shards ∈ result.blocks, shards.percentage ≠ 0 → shards.WithinBudget

theorem blockSizes_bounds (positive : 0 < sliceSize) (bound : fecPercentage ≤ 255)
    (nonempty : 0 < frameSize) :
    ∀ shards ∈ blockSizes sliceSize fecPercentage frameSize, 0 < shards ∧
      (blocksWanted sliceSize fecPercentage frameSize ≤ maxFecBlocks →
        shards ≤ maxDataShardsPerFecBlock fecPercentage) := by
  have last := lastBlockShards_pos positive bound nonempty
  have shorter := lastBlockShards_le positive bound nonempty
  have limit := @blockShards_le sliceSize fecPercentage frameSize positive bound nonempty
  intro shards member
  rcases List.mem_append.mp member with early | final
  · obtain ⟨-, rfl⟩ := List.mem_replicate.mp early
    exact ⟨by omega, limit⟩
  · obtain rfl := List.mem_singleton.mp final
    exact ⟨last, fun used => Nat.le_trans shorter (limit used)⟩

section frame

variable (moonlight : Moonlight) (config : SessionConfig) (host : HostConfig) (lowseq : Nat)
  (frame : VideoFrame)

theorem packetizeFrame_overflow (size : 17 ≤ config.packetsize)
    (header : frame.header.length = frameHeaderSize)
    (big : (2 : Int) ^ 31 ≤ maxDataShardsPerFecBlock host.fecPercentage *
      (config.packetsize + maxRtpHeaderSize)) :
    packetizeFrame moonlight config host lowseq frame = throw .overflow := by
  obtain ⟨positive, first, block⟩ := payloadBlocksize_eq size
  obtain ⟨length, field, -⟩ := lastPayloadLen_eq positive frame.payload.length
  by_cases inRange : IsInt (config.packetsize + maxRtpHeaderSize)
  · have outside : ¬ IsInt (maxDataShardsPerFecBlock host.fecPercentage *
        ((rawPacketSize + config.payloadBlocksize : Nat) : Int)) := by
      rw [← block]
      exact fun bounded => absurd bounded.2 (by omega)
    rw [packetizeFrame_inserted moonlight config host lowseq frame size header inRange field,
      encodeFrame, fecBlocksNeeded, int, if_neg outside]
    rfl
  · rw [packetizeFrame, first, pure_bind, field, pure_bind, overwrite_shortHeader header,
      pure_bind, int, if_neg inRange]
    rfl

/-- The first block is the whole frame, or it is aligned. -/
theorem frameBlocks_first {data : Bytes} (positive : 0 < sliceSize) (bound : fecPercentage ≤ 255)
    (nonempty : 0 < data.length) :
    ∃ first rest, frameBlocks sliceSize fecPercentage data = first :: rest ∧
      (first.length % (rawPacketSize + sliceSize) ≠ 0 ↔
        blockCount sliceSize fecPercentage data.length = 1 ∧
          insertedSize sliceSize data.length % (rawPacketSize + sliceSize) ≠ 0) := by
  have counted := blockCount_pos positive bound nonempty
  have inside := blocks_inside positive bound nonempty
  have size := length_insertedBytes positive data
  obtain ⟨blocks, many⟩ : ∃ blocks, blockCount sliceSize fecPercentage data.length = blocks + 1 :=
    ⟨blockCount sliceSize fecPercentage data.length - 1, by omega⟩
  rw [many, Nat.add_sub_cancel] at inside
  rw [frameBlocks, many, Nat.add_sub_cancel, cutBlocks]
  cases blocks with
  | zero => exact ⟨_, _, rfl, by simp [size]⟩
  | succ blocks =>
      rw [Nat.succ_mul] at inside
      refine ⟨_, _, rfl, ?_⟩
      rw [List.length_take, size, Nat.min_eq_left (by omega), Nat.mul_mod_left]
      omega

/-- A negative minimum ends the first block that uses FEC. -/
theorem packetizeFrame_negative (size : 17 ≤ config.packetsize) (bound : host.fecPercentage ≤ 255)
    (header : frame.header.length = frameHeaderSize)
    (fits : maxDataShardsPerFecBlock host.fecPercentage *
      (rawPacketSize + config.payloadBlocksize) < 2 ^ 31)
    (used : 0 < framePercentage config.payloadBlocksize host.fecPercentage
      (frameHeaderSize + frame.payload.length))
    (negative : config.minRequiredFecPackets < 0) :
    packetizeFrame moonlight config host lowseq frame =
      throw (if config.minRequiredFecPackets = -1 ∧
          blockCount config.payloadBlocksize host.fecPercentage
            (frameHeaderSize + frame.payload.length) = 1 ∧
          insertedSize config.payloadBlocksize (frameHeaderSize + frame.payload.length) %
            (rawPacketSize + config.payloadBlocksize) ≠ 0 then .outOfBounds
        else .thrown) := by
  obtain ⟨positive, -, -⟩ := payloadBlocksize_eq size
  obtain ⟨length, field, -⟩ := lastPayloadLen_eq positive frame.payload.length
  have frameSize : (storedHeader frame.header length ++ frame.payload).length =
      frameHeaderSize + frame.payload.length := by
    rw [List.length_append, length_storedHeader header]
  have nonempty : 0 < (storedHeader frame.header length ++ frame.payload).length := by
    rw [frameSize, frameHeaderSize]
    omega
  have large : 0 < rawPacketSize + config.payloadBlocksize := by omega
  obtain ⟨first, rest, cut, unaligned⟩ := frameBlocks_first positive bound nonempty
  have fit := frameBlocks_blockOf positive bound nonempty
  rw [cut] at fit
  obtain ⟨some, headers⟩ := fit first List.mem_cons_self
  obtain ⟨stored, ran, same⟩ := writePackets_sameBodies (Nat.le_add_right _ _)
    (packetStores moonlight frame lowseq 0 (blockCount config.payloadBlocksize host.fecPercentage
      (frameHeaderSize + frame.payload.length))
      (cover first.length (rawPacketSize + config.payloadBlocksize))) headers
  rw [frameSize] at unaligned
  rw [packetizeFrame_eq moonlight config host lowseq frame size bound header fits field]
  simp only [cut]
  rw [encodeBlocks, encodeBlock, quotient_cover large, pure_bind, ran, pure_bind,
    encode_negative moonlight large (by rw [same.length]; exact some) used negative, same.length]
  simp only [unaligned]
  rfl

/-- A run that reached the encoder keeps the budget exactly when every block fits. -/
theorem fecBudget_of_run {result : PacketizedFrame} (positive : 0 < sliceSize)
    (used : 0 < fecPercentage) (bound : fecPercentage ≤ 255) {data : Bytes}
    (nonempty : 0 < data.length)
    (usable : 0 ≤ minParityShards ∨ framePercentage sliceSize fecPercentage data.length = 0)
    (cut : result.fecBlocks = frameBlocks sliceSize fecPercentage data)
    (sent : List.Forall₂ (BlockEncoded (rawPacketSize + sliceSize)
      (framePercentage sliceSize fecPercentage data.length) minParityShards) result.fecBlocks
        result.blocks) :
    FecBudget result ↔ maxFecBlocks < blocksWanted sliceSize fecPercentage data.length ∨
      ∀ shards ∈ blockSizes sliceSize fecPercentage data.length,
        MinimumFits shards fecPercentage minParityShards := by
  have sizes := map_cover_frameBlocks positive bound nonempty
  rw [← cut, ← map_dataShards_encoded sent] at sizes
  have counts := counted_encoded sent
  have bounds := @blockSizes_bounds sliceSize fecPercentage data.length positive bound nonempty
  have blocks : result.fecBlocks.length = blockCount sliceSize fecPercentage data.length := by
    obtain ⟨full, last, parts, count, -⟩ := frameBlocks_shards positive bound nonempty
    rw [cut, parts, List.length_append, ← count]
    rfl
  have split (budget : ∀ shards ∈ result.blocks, shards.percentage ≠ 0 → shards.WithinBudget) :
      FecBudget result := {
    some := by
      rw [blocks]
      exact blockCount_pos positive bound nonempty
    few := by
      rw [blocks]
      exact blockCount_le
    nonempty := by
      rw [cut]
      exact fun block member => (frameBlocks_blockOf positive bound nonempty block member).1
    encoded := sent.length_eq.symm
    budget
  }
  by_cases skipped : maxFecBlocks < blocksWanted sliceSize fecPercentage data.length
  · refine ⟨fun _ => .inl skipped, fun _ => split fun shards member fec => ?_⟩
    have percentage := (counts shards member).2
    rw [framePercentage, if_pos skipped, advertisedPercentage, if_neg (by simp [Raised])] at percentage
    exact absurd percentage fec
  · have percent : framePercentage sliceSize fecPercentage data.length = fecPercentage :=
      if_neg skipped
    rw [percent] at counts usable
    have nonnegative := usable.resolve_right (by omega)
    have member_iff (shards : Nat) : shards ∈ blockSizes sliceSize fecPercentage data.length ↔
        ∃ block ∈ result.blocks, block.dataShards = shards := by
      rw [← sizes, List.mem_map]
    constructor
    · intro budget
      right
      intro size member
      obtain ⟨some, small⟩ := bounds size member
      obtain ⟨shards, sent, rfl⟩ := (member_iff size).mp member
      obtain ⟨total, advertised⟩ := counts shards sent
      have within := budget.budget shards sent (by rw [advertised]; exact advertised_pos some used)
      refine (minimumFits_iff used bound (small (by omega)) nonnegative).mpr ⟨?_, ?_, ?_⟩
      · rw [← total]
        exact within.limit
      · rw [← advertised]
        exact within.field
      · rw [← advertised, within.receiver, total, Nat.add_sub_cancel_left]
    · intro fits
      refine split fun shards sent _ => ?_
      have member := (member_iff shards.dataShards).mpr ⟨shards, sent, rfl⟩
      obtain ⟨some, small⟩ := bounds _ member
      obtain ⟨total, advertised⟩ := counts shards sent
      obtain ⟨limit, field, receiver⟩ := (minimumFits_iff used bound (small (by omega))
        nonnegative).mp (fits.resolve_left skipped _ member)
      refine ⟨some, ?_, ?_, ?_⟩
      · rw [total]
        exact limit
      · rw [advertised]
        exact field
      · rw [advertised, receiver, total, Nat.add_sub_cancel_left]

end frame

theorem lastBlockShards_mem : lastBlockShards sliceSize fecPercentage frameSize ∈
    blockSizes sliceSize fecPercentage frameSize :=
  List.mem_append_right _ (List.mem_singleton_self _)

/-- The budget is kept when the shards of a block fit an `int` and FEC is turned off
or the client's minimum fits every block. -/
theorem packetizeFrame_fecBudget (moonlight : Moonlight) (config : SessionConfig)
    (host : HostConfig) (lowseq : Nat) (frame : VideoFrame) (size : 17 ≤ config.packetsize)
    (used : 0 < host.fecPercentage) (bound : host.fecPercentage ≤ 255)
    (header : frame.header.length = frameHeaderSize) :
    (∃ result, packetizeFrame moonlight config host lowseq frame = pure result ∧
        FecBudget result) ↔
      maxDataShardsPerFecBlock host.fecPercentage * (config.packetsize + maxRtpHeaderSize) <
          2 ^ 31 ∧
        (maxFecBlocks < blocksWanted config.payloadBlocksize host.fecPercentage
            (frameHeaderSize + frame.payload.length) ∨
          ∀ shards ∈ blockSizes config.payloadBlocksize host.fecPercentage
              (frameHeaderSize + frame.payload.length),
            MinimumFits shards host.fecPercentage config.minRequiredFecPackets) := by
  obtain ⟨positive, -, block⟩ := payloadBlocksize_eq size
  by_cases big : (2 : Int) ^ 31 ≤ maxDataShardsPerFecBlock host.fecPercentage *
      (config.packetsize + maxRtpHeaderSize)
  · rw [packetizeFrame_overflow moonlight config host lowseq frame size header big]
    constructor
    · rintro ⟨_, ran, _⟩
      cases ran
    · rintro ⟨fits, _⟩
      omega
  have fits : maxDataShardsPerFecBlock host.fecPercentage *
      (rawPacketSize + config.payloadBlocksize) < 2 ^ 31 := by
    rw [block, ← Int.natCast_mul] at big
    omega
  by_cases usable : 0 ≤ config.minRequiredFecPackets ∨ framePercentage config.payloadBlocksize
      host.fecPercentage (frameHeaderSize + frame.payload.length) = 0
  · obtain ⟨result, ran, size', -, stored, cut, sent⟩ :=
      packetizeFrame_run moonlight config host lowseq frame size bound header fits usable
    have frameSize : (result.header ++ frame.payload).length =
        frameHeaderSize + frame.payload.length := by
      rw [stored, List.length_append, length_storedHeader header]
    have nonempty : 0 < (result.header ++ frame.payload).length := by
      rw [frameSize, frameHeaderSize]
      omega
    rw [size', ← frameSize] at sent
    rw [← frameSize] at usable
    have kept := fecBudget_of_run positive used bound nonempty usable cut sent
    rw [frameSize] at kept
    rw [ran, ← kept]
    constructor
    · intro budgeted
      obtain ⟨_, same, budget⟩ := budgeted
      exact ⟨by omega, Except.ok.inj same ▸ budget⟩
    · intro budgeted
      exact ⟨result, rfl, budgeted.2⟩
  · have negative : config.minRequiredFecPackets < 0 := by omega
    rw [packetizeFrame_negative moonlight config host lowseq frame size bound header fits (by omega)
      negative]
    constructor
    · rintro ⟨_, ran, _⟩
      cases ran
    · rintro ⟨-, skipped | minimum⟩
      · exact absurd (if_pos skipped) fun off => usable (.inr off)
      · exact absurd (minimum _ lastBlockShards_mem).1 (by omega)

theorem packetizeFrame_fecBudget_smallFrame :
    (∃ result, packetizeFrame moonlightCommon
        { packetsize := 1024, minRequiredFecPackets := 2 }
        { fecPercentage := 20, pacingBps := 800000000, maxBatchSize := 65536 } 0
        { frameIndex := 1, timestamp := 0, header := zeros 8, payload := [0, 0, 0, 1] } =
          pure result ∧ FecBudget result) ↔
      maxDataShardsPerFecBlock 20 * ((1024 : Int) + maxRtpHeaderSize) < 2 ^ 31 ∧
        (maxFecBlocks < blocksWanted 1008 20 12 ∨
          ∀ shards ∈ blockSizes 1008 20 12, MinimumFits shards 20 2) :=
  packetizeFrame_fecBudget moonlightCommon _ _ 0 _ (by decide) (by decide) (by decide) (by decide)

/-- Three parity shards for one data shard: 300 percent do not fit the field. -/
theorem minimum_overflows_percentage :
    ¬ ∃ result, packetizeFrame moonlightCommon
        { packetsize := 1024, minRequiredFecPackets := 3 }
        { fecPercentage := 20, pacingBps := 800000000, maxBatchSize := 65536 } 0
        { frameIndex := 1, timestamp := 0, header := zeros 8, payload := [0, 0, 0, 1] } =
          pure result ∧ FecBudget result := by
  rintro ⟨result, ran, budget⟩
  obtain ⟨same, ran', size, -, stored, cut, sent⟩ := packetizeFrame_run moonlightCommon
    { packetsize := 1024, minRequiredFecPackets := 3 }
    { fecPercentage := 20, pacingBps := 800000000, maxBatchSize := 65536 } 0
    { frameIndex := 1, timestamp := 0, header := zeros 8, payload := [0, 0, 0, 1] }
    (by decide) (by decide) (length_zeros 8) (by decide) (.inl (by decide))
  obtain rfl := Except.ok.inj (ran.symm.trans ran')
  have frameSize : (result.header ++ [0, 0, 0, 1]).length = 12 := by
    rw [stored, List.length_append, length_storedHeader (length_zeros 8)]
    rfl
  have broken : ¬ (maxFecBlocks < blocksWanted 1008 20 12 ∨
      ∀ shards ∈ blockSizes 1008 20 12, MinimumFits shards 20 3) := by decide
  rw [← frameSize] at broken
  have nonempty : 0 < (result.header ++ [0, 0, 0, 1]).length := by
    rw [frameSize]
    decide
  refine broken ((fecBudget_of_run (by decide) (by decide) (by decide) nonempty
    (.inl (by decide)) cut ?_).mp budget)
  rw [frameSize]
  rw [size] at sent
  exact sent

end UmbraHost.Stream
