import UmbraHost.Stream.BlockShards

/-! # The shards of a frame

The header insertion, the FEC blocks and the shards cut the same bytes three
times.  The slices of the header insertion are the shards. -/

namespace UmbraHost.Stream

open Slices

variable {blocksize sliceSize fecPercentage frameSize : Nat}

/-! ## The cut into blocks -/

theorem substr_of_le {text : Bytes} {offset : Nat} (inside : offset ≤ text.length) :
    substr text offset = pure (text.drop offset) :=
  if_pos inside

def cutBlocks (alignedSize blocks : Nat) (payload : Bytes) : List Bytes :=
  slices alignedSize blocks payload ++ [payload.drop (blocks * alignedSize)]

theorem splitFecBlocks_from {payload : Bytes} {alignedSize blocks remaining : Nat}
    (inside : blocks * alignedSize ≤ payload.length) (bound : remaining ≤ blocks) :
    splitFecBlocks payload alignedSize (blocks + 1) (remaining + 1) =
      pure (cutBlocks alignedSize remaining (payload.drop ((blocks - remaining) * alignedSize))) := by
  induction remaining with
  | zero =>
      rw [splitFecBlocks, show blocks + 1 - (0 + 1) = blocks - 0 by omega,
        substr_of_le (by rw [Nat.sub_zero]; exact inside), pure_bind]
      simp [splitFecBlocks, cutBlocks]
  | succ remaining ih =>
      have here : (blocks - (remaining + 1)) * alignedSize ≤ payload.length :=
        Nat.le_trans (Nat.mul_le_mul_right _ (by omega)) inside
      have last : (blocks - (remaining + 1)) * alignedSize + alignedSize + remaining * alignedSize =
          (blocks - (remaining + 1)) * alignedSize + (remaining * alignedSize + alignedSize) := by
        omega
      have next : (blocks - remaining) * alignedSize =
          (blocks - (remaining + 1)) * alignedSize + alignedSize := by
        rw [← Nat.succ_mul, show (blocks - (remaining + 1)).succ = blocks - remaining by omega]
      rw [splitFecBlocks, show blocks + 1 - (remaining + 1 + 1) = blocks - (remaining + 1) by omega,
        substr_of_le here, pure_bind, ih (by omega), pure_bind, if_neg (by omega), next, cutBlocks,
        cutBlocks, slices_succ, List.drop_drop, List.drop_drop, List.cons_append, Nat.succ_mul,
        last, List.drop_drop]

theorem splitFecBlocks_eq {payload : Bytes} {alignedSize blocks : Nat}
    (inside : blocks * alignedSize ≤ payload.length) :
    splitFecBlocks payload alignedSize (blocks + 1) (blocks + 1) =
      pure (cutBlocks alignedSize blocks payload) := by
  rw [splitFecBlocks_from inside (Nat.le_refl blocks), Nat.sub_self, Nat.zero_mul, List.drop_zero]

/-- A block of `shards` shards with room for the last header. -/
structure BlockOf (blocksize shards : Nat) (block : Bytes) : Prop where
  counted : cover block.length blocksize = shards
  nonempty : 0 < block.length
  headers : HeadersFit blocksize block

theorem BlockOf.intro {block : Bytes} {before : Nat} (large : rawPacketSize ≤ blocksize)
    (room : before * blocksize + rawPacketSize ≤ block.length)
    (short : block.length ≤ (before + 1) * blocksize) : BlockOf blocksize (before + 1) block := by
  have positive : 0 < rawPacketSize := by decide
  have counted : cover block.length blocksize = before + 1 := by
    apply cover_unique (by omega) short
    rw [Nat.succ_mul]
    omega
  refine ⟨counted, by omega, ?_⟩
  intro x reached
  rw [counted] at reached
  have earlier : x * blocksize ≤ before * blocksize := Nat.mul_le_mul_right _ (by omega)
  omega

/-- The blocks of a payload of `before + 1` packets. -/
theorem cutBlocks_blockOf (large : rawPacketSize ≤ blocksize) {payload : Bytes}
    {shards before : Nat} (blocks : Nat) (some : 0 < shards)
    (room : before * blocksize + rawPacketSize ≤ payload.length)
    (short : payload.length ≤ (before + 1) * blocksize) (earlier : blocks * shards ≤ before) :
    (∀ block ∈ slices (shards * blocksize) blocks payload, BlockOf blocksize shards block) ∧
      BlockOf blocksize (before + 1 - blocks * shards)
        (payload.drop (blocks * (shards * blocksize))) := by
  have scaled := Nat.mul_le_mul_right blocksize earlier
  rw [Nat.mul_assoc] at scaled
  constructor
  · intro block member
    have full := length_of_mem_slices (Nat.le_trans scaled (by omega)) block member
    obtain ⟨fewer, rfl⟩ : ∃ fewer, shards = fewer + 1 := ⟨shards - 1, by omega⟩
    rw [Nat.succ_mul] at full
    apply BlockOf.intro large (by omega)
    rw [Nat.succ_mul]
    omega
  · obtain ⟨last, rfl⟩ : ∃ last, before = blocks * shards + last :=
      ⟨before - blocks * shards, by omega⟩
    rw [show blocks * shards + last + 1 - blocks * shards = last + 1 by omega]
    rw [Nat.succ_mul, Nat.add_mul, Nat.mul_assoc] at *
    apply BlockOf.intro large
    · rw [List.length_drop]
      omega
    · rw [List.length_drop, Nat.succ_mul]
      omega

/-- The shards of the blocks are the shards of the payload. -/
theorem plainShards_cutBlocks {payload : Bytes} {shards blocks before : Nat}
    (full : ∀ block ∈ slices (shards * blocksize) blocks payload, BlockOf blocksize shards block)
    (last : BlockOf blocksize (before + 1 - blocks * shards)
      (payload.drop (blocks * (shards * blocksize))))
    (counted : cover payload.length blocksize = before + 1) (earlier : blocks * shards ≤ before) :
    (cutBlocks (shards * blocksize) blocks payload).flatMap (plainShards blocksize) =
      plainShards blocksize payload := by
  have front : (slices (shards * blocksize) blocks payload).flatMap (plainShards blocksize) =
      (slices blocksize (blocks * shards) payload).map (padTo blocksize 0) := by
    rw [← slices_blocks, List.map_flatMap]
    apply List.flatMap_congr
    intro block member
    rw [plainShards, (full block member).counted]
  rw [cutBlocks, List.flatMap_append, front, List.flatMap_singleton, plainShards, plainShards,
    last.counted, counted, ← List.map_append, ← Nat.mul_assoc, ← slices_add,
    show blocks * shards + (before + 1 - blocks * shards) = before + 1 by omega]

/-! ## Behind the headers -/

def bodies (shards : List Bytes) : Bytes := shards.flatMap (List.drop rawPacketSize)

theorem SameShards.bodies {before after : List Bytes} (same : SameShards blocksize before after)
    (full : ∀ shard ∈ before, shard.length = blocksize) :
    bodies after = bodies before ∧ ∀ shard ∈ after, shard.length = blocksize := by
  induction same with
  | nil => exact ⟨rfl, by simp⟩
  | @cons first next before after header rest ih =>
      obtain ⟨behind, lengths⟩ := ih fun other member => full other (List.mem_cons_of_mem _ member)
      have length := full first List.mem_cons_self
      constructor
      · rw [Stream.bodies, Stream.bodies, List.flatMap_cons, List.flatMap_cons,
          header.drop_header (Nat.le_of_eq length)]
        exact congrArg _ behind
      · intro shard member
        rcases List.mem_cons.mp member with rfl | later
        · rw [header.length, length]
        · exact lengths shard later

theorem dataShards_encoded {minParityShards : Int} {fecBlocks : List Bytes}
    {blocks : List FecShards}
    (encoded : List.Forall₂ (BlockEncoded blocksize fecPercentage minParityShards)
      fecBlocks blocks) :
    SameShards blocksize (fecBlocks.flatMap (plainShards blocksize))
      (blocks.flatMap FecShards.data) := by
  induction encoded with
  | nil => exact .nil
  | cons block _ ih =>
      rw [List.flatMap_cons, List.flatMap_cons]
      exact List.rel_append block.data ih

/-- A frame with room for the packet headers. -/
def insertedBytes (sliceSize : Nat) (data : Bytes) : Bytes :=
  framed (zeros rawPacketSize) (slices sliceSize (cover data.length sliceSize) data)

theorem length_insertedBytes (positive : 0 < sliceSize) (data : Bytes) :
    (insertedBytes sliceSize data).length = insertedSize sliceSize data.length := by
  have enough := le_cover positive data.length
  rw [insertedBytes, length_framed, length_slices, flatten_slices,
    List.take_of_length_le enough, length_zeros, insertedSize]

theorem drop_padTo (piece : Bytes) :
    (padTo (rawPacketSize + sliceSize) 0 (zeros rawPacketSize ++ piece)).drop rawPacketSize =
      padTo sliceSize 0 piece := by
  rw [padTo, List.append_assoc, List.drop_left' (length_zeros rawPacketSize), padTo,
    List.length_append, length_zeros, Nat.add_sub_add_left]

/-- The shards carry the frame and its padding. -/
theorem bodies_plainShards (positive : 0 < sliceSize) {data : Bytes} (nonempty : 0 < data.length) :
    bodies (plainShards (rawPacketSize + sliceSize) (insertedBytes sliceSize data)) =
      data ++ zeros (cover data.length sliceSize * sliceSize - data.length) := by
  have enough := le_cover positive data.length
  have full : cover data.length sliceSize * sliceSize ≤ data.length + sliceSize :=
    Nat.le_of_lt (cover_lt positive data.length)
  have cut := slices_framed (zeros rawPacketSize) full
  rw [length_zeros] at cut
  rw [plainShards, length_insertedBytes positive, cover_insertedSize positive nonempty,
    insertedBytes, cut, List.map_map, bodies, List.flatMap_map]
  simp only [Function.comp_apply, drop_padTo]
  exact flatMap_padTo_slices 0 enough full

/-! ## The frame -/

/-- The payload bytes of a packet. -/
def SessionConfig.payloadBlocksize (config : SessionConfig) : Nat :=
  (config.packetsize - videoPacketSize).toNat

/-- The payload bytes in the last packet of a frame. -/
def lastBytes (sliceSize frameSize : Nat) : Nat :=
  frameSize - (cover frameSize sliceSize - 1) * sliceSize

theorem lastBytes_add_padding (positive : 0 < sliceSize) (nonempty : 0 < frameSize) :
    lastBytes sliceSize frameSize + (cover frameSize sliceSize * sliceSize - frameSize) =
      sliceSize ∧ 0 < lastBytes sliceSize frameSize := by
  have lower := le_cover positive frameSize
  have upper := cover_lt positive frameSize
  have some := cover_pos positive nonempty
  obtain ⟨before, packets⟩ : ∃ before, cover frameSize sliceSize = before + 1 :=
    ⟨cover frameSize sliceSize - 1, by omega⟩
  rw [packets, Nat.succ_mul] at lower upper
  rw [lastBytes, packets, Nat.add_sub_cancel, Nat.succ_mul]
  omega

theorem lastBytes_eq (positive : 0 < sliceSize) (nonempty : 0 < frameSize) :
    lastBytes sliceSize frameSize =
      if frameSize % sliceSize = 0 then sliceSize else frameSize % sliceSize := by
  have counted := cover_eq_div_add positive frameSize
  have split := Nat.div_add_mod frameSize sliceSize
  have some := cover_pos positive nonempty
  rw [Nat.mul_comm] at split
  rw [lastBytes, ← counted]
  by_cases whole : frameSize % sliceSize = 0
  · rw [if_neg (by omega), Nat.add_zero] at counted
    obtain ⟨before, packets⟩ : ∃ before, frameSize / sliceSize = before + 1 :=
      ⟨frameSize / sliceSize - 1, by omega⟩
    rw [packets, Nat.succ_mul] at split
    rw [if_pos whole, if_neg (by omega), packets, Nat.add_zero, Nat.add_sub_cancel]
    omega
  · rw [if_neg whole, if_pos whole, Nat.add_sub_cancel]
    omega

/-- The 16-bit field holds the payload bytes of the last packet when they fit. -/
theorem lastPayloadLen_eq (positive : 0 < sliceSize) (payloadSize : Nat) :
    ∃ length, lastPayloadLen payloadSize sliceSize = pure length ∧
      (length = lastBytes sliceSize (payloadSize + frameHeaderSize) ↔
        lastBytes sliceSize (payloadSize + frameHeaderSize) < 2 ^ 16) := by
  have short := Nat.mod_lt (payloadSize + frameHeaderSize) positive
  rw [lastBytes_eq positive (by rw [frameHeaderSize]; omega), lastPayloadLen,
    remainder_of_pos positive, pure_bind]
  split
  · refine ⟨_, rfl, ?_⟩
    split <;> omega
  · refine ⟨_, rfl, ?_⟩
    split <;> omega

/-- The short header with `lastPayloadLen` in it. -/
def storedHeader (header : Bytes) (length : Nat) : Bytes :=
  header.take 4 ++ little 2 length ++ header.drop 6

theorem overwrite_shortHeader {header : Bytes} (size : header.length = frameHeaderSize)
    (length : Nat) : overwrite header 4 (little 2 length) = pure (storedHeader header length) := by
  have fits : 4 + (little 2 length).length ≤ header.length := by
    rw [size]
    exact Nat.le_of_ble_eq_true rfl
  rw [overwrite, if_pos fits]
  rfl

theorem length_storedHeader {header : Bytes} (size : header.length = frameHeaderSize)
    (length : Nat) : (storedHeader header length).length = frameHeaderSize := by
  have field : (little 2 length).length = 2 := rfl
  rw [storedHeader, List.length_append, List.length_append, List.length_take, List.length_drop,
    field, size]
  rfl

theorem fecBlocksNeeded_eq (positive : 0 < sliceSize) (bound : fecPercentage ≤ 255)
    (fits : maxDataShardsPerFecBlock fecPercentage * (rawPacketSize + sliceSize) < 2 ^ 31) :
    fecBlocksNeeded (insertedSize sliceSize frameSize) ((rawPacketSize + sliceSize : Nat) : Int)
        fecPercentage =
      pure (framePercentage sliceSize fecPercentage frameSize,
        blockCount sliceSize fecPercentage frameSize) := by
  have shards := maxDataShards_lower bound
  have unit : 0 < maxDataShardsPerFecBlock fecPercentage * (rawPacketSize + sliceSize) :=
    Nat.mul_pos (by omega) (by omega)
  have inRange : IsInt ((maxDataShardsPerFecBlock fecPercentage * (rawPacketSize + sliceSize) : Nat)
      : Int) := ⟨by omega, by omega⟩
  rw [fecBlocksNeeded, ← Int.natCast_mul, int, if_pos inRange, pure_bind, Int.toNat_natCast,
    quotient_cover unit, pure_bind, framePercentage, blockCount]
  by_cases many : maxFecBlocks < blocksWanted sliceSize fecPercentage frameSize
  · rw [if_pos many, if_pos many]
    exact if_pos many
  · rw [if_neg many, if_neg many]
    exact if_neg many

/-- The blocks in front of the last one end inside the frame. -/
theorem blocks_inside (positive : 0 < sliceSize) (bound : fecPercentage ≤ 255)
    (nonempty : 0 < frameSize) :
    (blockCount sliceSize fecPercentage frameSize - 1) *
        (blockShards sliceSize fecPercentage frameSize * (rawPacketSize + sliceSize)) ≤
      insertedSize sliceSize frameSize := by
  have fewer := blocks_mul_lt_packets positive bound nonempty
  obtain ⟨before, packets, lower, -⟩ := insertedSize_bounds positive nonempty
  rw [packets] at fewer
  rw [← Nat.mul_assoc]
  have scaled := Nat.mul_le_mul_right (rawPacketSize + sliceSize) (Nat.le_of_lt_succ fewer)
  omega

theorem pacing_eq (positive : 0 < blocksize) (host : HostConfig) :
    ∃ rate, pacing host blocksize = pure rate := by
  rw [pacing, quotient_of_pos positive, pure_bind, quotient_of_pos positive, pure_bind]
  exact ⟨_, rfl⟩

/-- The FEC blocks of a frame. -/
def frameBlocks (sliceSize fecPercentage : Nat) (data : Bytes) : List Bytes :=
  cutBlocks (blockShards sliceSize fecPercentage data.length * (rawPacketSize + sliceSize))
    (blockCount sliceSize fecPercentage data.length - 1) (insertedBytes sliceSize data)

section run

variable (moonlight : Moonlight) (config : SessionConfig) (host : HostConfig) (lowseq : Nat)
  (frame : VideoFrame)

variable {config} in
/-- Both subtractions of the code give the payload of a packet. -/
theorem payloadBlocksize_eq (size : 17 ≤ config.packetsize) :
    0 < config.payloadBlocksize ∧
      sizeDifference config.packetsize videoPacketSize = pure config.payloadBlocksize ∧
      config.packetsize + maxRtpHeaderSize =
        ((rawPacketSize + config.payloadBlocksize : Nat) : Int) := by
  have slice : config.packetsize - videoPacketSize = config.payloadBlocksize := by
    rw [SessionConfig.payloadBlocksize, videoPacketSize]
    omega
  have enough : ¬ config.packetsize < videoPacketSize := by
    rw [videoPacketSize]
    omega
  refine ⟨?_, ?_, ?_⟩
  · rw [videoPacketSize] at slice
    omega
  · rw [sizeDifference, if_neg enough, slice, Int.toNat_natCast]
  · rw [rawPacketSize, maxRtpHeaderSize]
    rw [videoPacketSize] at slice
    omega

/-- The header insertion is defined. -/
theorem packetizeFrame_inserted (size : 17 ≤ config.packetsize)
    (header : frame.header.length = frameHeaderSize)
    (inRange : IsInt (config.packetsize + maxRtpHeaderSize)) {length : Nat}
    (field : lastPayloadLen frame.payload.length config.payloadBlocksize = pure length) :
    packetizeFrame moonlight config host lowseq frame =
      encodeFrame moonlight config host lowseq frame
        ((rawPacketSize + config.payloadBlocksize : Nat) : Int) length
        (storedHeader frame.header length) (insertedBytes config.payloadBlocksize
          (storedHeader frame.header length ++ frame.payload)) := by
  obtain ⟨positive, first, block⟩ := payloadBlocksize_eq size
  have blocksize_int : int (config.packetsize + maxRtpHeaderSize) =
      pure ((rawPacketSize + config.payloadBlocksize : Nat) : Int) := by
    rw [int, if_pos inRange, block]
  have second : sizeDifference ((rawPacketSize + config.payloadBlocksize : Nat) : Int)
      rawPacketSize = pure config.payloadBlocksize := by
    have behind : (((rawPacketSize + config.payloadBlocksize : Nat) : Int) -
        rawPacketSize).toNat = config.payloadBlocksize := by omega
    rw [sizeDifference, if_neg (by omega), behind]
  rw [packetizeFrame, first, pure_bind, field, pure_bind, overwrite_shortHeader header, pure_bind,
    blocksize_int, pure_bind, second, pure_bind, concatAndInsert_eq positive, pure_bind]
  rfl

/-- With room for the shards in an `int`, everything in front of the encoder is defined. -/
theorem packetizeFrame_eq (size : 17 ≤ config.packetsize)
    (bound : host.fecPercentage ≤ 255) (header : frame.header.length = frameHeaderSize)
    (fits : maxDataShardsPerFecBlock host.fecPercentage *
      (rawPacketSize + config.payloadBlocksize) < 2 ^ 31) {length : Nat}
    (field : lastPayloadLen frame.payload.length config.payloadBlocksize = pure length) :
    packetizeFrame moonlight config host lowseq frame = (do
      let fecBlocks := frameBlocks config.payloadBlocksize host.fecPercentage
        (storedHeader frame.header length ++ frame.payload)
      let blocks ← encodeBlocks moonlight config frame (rawPacketSize + config.payloadBlocksize)
        (framePercentage config.payloadBlocksize host.fecPercentage
          (frameHeaderSize + frame.payload.length))
        (blockCount config.payloadBlocksize host.fecPercentage
          (frameHeaderSize + frame.payload.length)) 0 lowseq fecBlocks
      pure {
        blocksize := rawPacketSize + config.payloadBlocksize
        lastPayloadLen := length
        header := storedHeader frame.header length
        fecBlocks, blocks
      }) := by
  obtain ⟨positive, -, blocksize⟩ := payloadBlocksize_eq size
  have shards := maxDataShards_lower bound
  have inRange : IsInt (config.packetsize + maxRtpHeaderSize) := by
    have fewer := Nat.mul_le_mul_right (rawPacketSize + config.payloadBlocksize)
      (show 1 ≤ maxDataShardsPerFecBlock host.fecPercentage by omega)
    rw [blocksize]
    exact ⟨by omega, by omega⟩
  have frameSize : (storedHeader frame.header length ++ frame.payload).length =
      frameHeaderSize + frame.payload.length := by
    rw [List.length_append, length_storedHeader header]
  have nonempty : 0 < frameHeaderSize + frame.payload.length := by
    rw [frameHeaderSize]
    omega
  have large : 0 < rawPacketSize + config.payloadBlocksize := by omega
  have some := blockCount_pos positive bound nonempty
  have inside := blocks_inside positive bound nonempty
  rw [← frameSize, ← length_insertedBytes positive, frameSize] at inside
  have split := splitFecBlocks_eq inside
  rw [Nat.sub_add_cancel some] at split
  obtain ⟨rate, paced⟩ := pacing_eq large host
  rw [packetizeFrame_inserted moonlight config host lowseq frame size header inRange field]
  simp only [encodeFrame, length_insertedBytes positive, frameSize,
    fecBlocksNeeded_eq positive bound fits, quotient_of_pos some, Int.toNat_natCast,
    quotient_cover large, pure_bind]
  rw [← blockShards, split, pure_bind, paced, pure_bind, frameBlocks, frameSize]

/-- The blocks of a frame have the shards that the sizes say. -/
theorem frameBlocks_shards {data : Bytes} (positive : 0 < sliceSize)
    (bound : fecPercentage ≤ 255) (nonempty : 0 < data.length) :
    ∃ full last, frameBlocks sliceSize fecPercentage data = full ++ [last] ∧
      full.length + 1 = blockCount sliceSize fecPercentage data.length ∧
      (∀ block ∈ full, BlockOf (rawPacketSize + sliceSize)
        (blockShards sliceSize fecPercentage data.length) block) ∧
      BlockOf (rawPacketSize + sliceSize) (lastBlockShards sliceSize fecPercentage data.length)
        last ∧
      (frameBlocks sliceSize fecPercentage data).flatMap
          (plainShards (rawPacketSize + sliceSize)) =
        plainShards (rawPacketSize + sliceSize) (insertedBytes sliceSize data) := by
  have counted := blockCount_pos positive bound nonempty
  have reached := packets_le_blocks positive bound nonempty
  have earlier := blocks_mul_lt_packets positive bound nonempty
  have packets_pos := cover_pos positive nonempty
  have some : 0 < blockShards sliceSize fecPercentage data.length := by
    apply Nat.pos_of_ne_zero
    intro none
    rw [none, Nat.mul_zero] at reached
    omega
  obtain ⟨before, packets, lower, upper⟩ := insertedSize_bounds positive nonempty
  have total := cover_insertedSize positive nonempty
  rw [← length_insertedBytes positive] at lower upper total
  rw [packets] at earlier total
  obtain ⟨full, last⟩ := cutBlocks_blockOf (Nat.le_add_right _ _)
    (blockCount sliceSize fecPercentage data.length - 1) some (Nat.le_of_lt lower) upper
    (Nat.le_of_lt_succ earlier)
  refine ⟨_, _, rfl, ?_, full, ?_, ?_⟩
  · rw [length_slices]
    omega
  · rw [lastBlockShards, packets]
    exact last
  · exact plainShards_cutBlocks full last total (Nat.le_of_lt_succ earlier)

theorem frameBlocks_blockOf {data : Bytes} (positive : 0 < sliceSize)
    (bound : fecPercentage ≤ 255) (nonempty : 0 < data.length) :
    ∀ block ∈ frameBlocks sliceSize fecPercentage data,
      0 < block.length ∧ HeadersFit (rawPacketSize + sliceSize) block := by
  obtain ⟨full, last, cut, -, fullBlocks, lastBlock, -⟩ :=
    frameBlocks_shards positive bound nonempty
  rw [cut]
  intro block member
  rcases List.mem_append.mp member with early | final
  · exact ⟨(fullBlocks block early).nonempty, (fullBlocks block early).headers⟩
  · obtain rfl := List.mem_singleton.mp final
    exact ⟨lastBlock.nonempty, lastBlock.headers⟩

/-- The blocks are encoded whenever the minimum of parity shards is usable. -/
theorem packetizeFrame_run (size : 17 ≤ config.packetsize) (bound : host.fecPercentage ≤ 255)
    (header : frame.header.length = frameHeaderSize)
    (fits : maxDataShardsPerFecBlock host.fecPercentage *
      (rawPacketSize + config.payloadBlocksize) < 2 ^ 31)
    (usable : 0 ≤ config.minRequiredFecPackets ∨ framePercentage config.payloadBlocksize
      host.fecPercentage (frameHeaderSize + frame.payload.length) = 0) :
    ∃ result, packetizeFrame moonlight config host lowseq frame = pure result ∧
      result.blocksize = rawPacketSize + config.payloadBlocksize ∧
      lastPayloadLen frame.payload.length config.payloadBlocksize = pure result.lastPayloadLen ∧
      result.header = storedHeader frame.header result.lastPayloadLen ∧
      result.fecBlocks = frameBlocks config.payloadBlocksize host.fecPercentage
        (result.header ++ frame.payload) ∧
      List.Forall₂ (BlockEncoded result.blocksize (framePercentage config.payloadBlocksize
        host.fecPercentage (frameHeaderSize + frame.payload.length))
        config.minRequiredFecPackets) result.fecBlocks result.blocks := by
  obtain ⟨positive, -, -⟩ := payloadBlocksize_eq size
  obtain ⟨length, field, -⟩ := lastPayloadLen_eq positive frame.payload.length
  have frameSize : 0 < (storedHeader frame.header length ++ frame.payload).length := by
    rw [List.length_append, length_storedHeader header, frameHeaderSize]
    omega
  have blocks := frameBlocks_blockOf positive bound frameSize
  obtain ⟨encoded, ran, sent⟩ := encodeBlocks_encoded (Nat.le_add_right _ _) usable
    (fun block member => (blocks block member).1)
    (fun block member => (blocks block member).2) 0 lowseq
  refine ⟨{
    blocksize := rawPacketSize + config.payloadBlocksize
    lastPayloadLen := length
    header := storedHeader frame.header length
    fecBlocks := frameBlocks config.payloadBlocksize host.fecPercentage
      (storedHeader frame.header length ++ frame.payload)
    blocks := encoded
  }, ?_, rfl, field, rfl, rfl, sent⟩
  rw [packetizeFrame_eq moonlight config host lowseq frame size bound header fits field]
  simp only
  rw [ran, pure_bind]

end run

/-! ## Nothing is lost -/

/-- The data shards of a frame, in the order of the blocks. -/
def PacketizedFrame.dataShards (result : PacketizedFrame) : List Bytes :=
  result.blocks.flatMap FecShards.data

/-- The shards carry the frame and, behind it in the last shard, its padding. -/
structure Lossless (frame : VideoFrame) (sliceSize lastBytes : Nat) (result : PacketizedFrame) :
    Prop where
  blocksize : result.blocksize = rawPacketSize + sliceSize
  full : ∀ shard ∈ result.dataShards, shard.length = result.blocksize
  header : result.header = storedHeader frame.header result.lastPayloadLen
  nonempty : 0 < lastBytes
  inside : lastBytes ≤ sliceSize
  bodies : bodies result.dataShards =
    result.header ++ frame.payload ++ zeros (sliceSize - lastBytes)
  -- The header loops write only into the header of their own packet.
  stores : ∀ x buffer stores after,
    writeHeader (x * result.blocksize) buffer stores = pure after →
    ∀ i, i < x * result.blocksize ∨ x * result.blocksize + rawPacketSize ≤ i →
      after[i]? = buffer[i]?

end UmbraHost.Stream
