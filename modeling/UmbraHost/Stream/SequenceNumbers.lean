import UmbraHost.Stream.FrameShards
import UmbraHost.Stream.HeaderFields
import UmbraHost.Queue.Numbering

/-! # The sequence numbers of a session's shards

The frames that `videoBroadcastThread` sends to one session, with the counter
`session->video.lowseq`.  The counter is read at the start of a frame and stored at the
end of its `try` block.  A shard counts as sent once it is handed to the socket, before
which an encrypted stream replaces its bytes. -/

namespace UmbraHost.Stream.SequenceNumbers

open UmbraHost.Numbering

/-- A frame of the queue and the settings it is sent under. -/
structure FrameAttempt where
  host : HostConfig
  frame : VideoFrame
  /-- An exception is raised when so many of its shards are sent. -/
  raisedAfter : Option Nat

structure SentShard where
  bytes : Bytes
  /-- A data shard of its FEC block. -/
  data : Bool
deriving DecidableEq, Repr

/-- What the `try` block of a frame leaves. -/
structure SentFrame where
  shards : List SentShard
  /-- The local `lowseq` at the end, unless an exception was caught. -/
  lowseq : Option Int
deriving DecidableEq, Repr

/-- `lowseq += shards.size()`, where the sum of an `int` and a `size_t` is cut to an `int`. -/
def advance (lowseq : Int) (count : Nat) : Int := (lowseq + count).bmod (2 ^ 32)

/-- `(uint32_t) lowseq`. -/
def unsigned (lowseq : Int) : Nat := (lowseq % 2 ^ 32).toNat

/-- The FEC blocks of a frame. -/
structure CutFrame where
  blocksize : Nat
  fecPercentage : Nat
  needed : Nat
  fecBlocks : List Bytes

/-- A frame up to the loop over its FEC blocks. -/
def cutFrame (config : SessionConfig) (host : HostConfig) (frame : VideoFrame) :
    Outcome CutFrame := do
  let sliceSize ← sizeDifference config.packetsize videoPacketSize
  let lastPayloadLen ← lastPayloadLen frame.payload.length sliceSize
  let header ← overwrite frame.header 4 (little 2 lastPayloadLen)
  let blocksize ← int (config.packetsize + maxRtpHeaderSize)
  let payloadBlocksize ← sizeDifference blocksize rawPacketSize
  let payload ← concatAndInsert rawPacketSize payloadBlocksize header frame.payload
  let (fecPercentage, needed) ← fecBlocksNeeded payload.length blocksize host.fecPercentage
  let blocksize := blocksize.toNat
  let unaligned ← quotient payload.length needed
  let alignedShards ← quotient (unaligned + (blocksize - 1)) blocksize
  let fecBlocks ← splitFecBlocks payload (alignedShards * blocksize) needed needed
  let _ ← pacing host blocksize
  pure { blocksize, fecPercentage, needed, fecBlocks }

def shardsOf (encoded : FecShards) : List SentShard :=
  encoded.shards.mapIdx fun x bytes => { bytes, data := decide (x < encoded.dataShards) }

/-- The loop over the FEC blocks from an index on. -/
def sendBlocks (moonlight : Moonlight) (config : SessionConfig) (frame : VideoFrame)
    (cut : CutFrame) : (blockIndex : Nat) → (lowseq : Int) → (raisedAfter : Option Nat) →
    List Bytes → Outcome SentFrame
  | _, lowseq, raisedAfter, [] =>
      pure { shards := [], lowseq := if raisedAfter = some 0 then none else some lowseq }
  | blockIndex, lowseq, raisedAfter, block :: rest =>
      if raisedAfter = some 0 then pure { shards := [], lowseq := none }
      else do
        let encoded ← encodeBlock moonlight config frame cut.blocksize cut.fecPercentage cut.needed
          blockIndex (unsigned lowseq) block
        let sent := (raisedAfter.map (min · encoded.nrShards)).getD encoded.nrShards
        -- `lowseq + x` is an `int`
        require (lowseq + sent ≤ 2 ^ 31) .overflow
        if sent < encoded.nrShards then
          pure { shards := (shardsOf encoded).take sent, lowseq := none }
        else do
          let later ← sendBlocks moonlight config frame cut (blockIndex + 1)
            (advance lowseq encoded.nrShards) (raisedAfter.map (· - encoded.nrShards)) rest
          pure { later with shards := shardsOf encoded ++ later.shards }

def sendFrame (moonlight : Moonlight) (config : SessionConfig) (lowseq : Int)
    (attempt : FrameAttempt) : Outcome SentFrame :=
  if attempt.raisedAfter = some 0 then pure { shards := [], lowseq := none }
  else do
    let cut ← cutFrame config attempt.host attempt.frame
    sendBlocks moonlight config attempt.frame cut 0 lowseq attempt.raisedAfter cut.fecBlocks

/-- The frames of a session from a value of `session->video.lowseq` on. -/
def broadcast (moonlight : Moonlight) (config : SessionConfig) :
    Int → List FrameAttempt → Outcome (List SentFrame)
  | _, [] => pure []
  | lowseq, attempt :: rest => do
      let sent ← sendFrame moonlight config lowseq attempt
      let later ← broadcast moonlight config (sent.lowseq.getD lowseq) rest
      pure (sent :: later)

/-! ## The headers of a block -/

variable {moonlight : Moonlight} {config : SessionConfig} {frame : VideoFrame}

section block

variable {blocksize fecPercentage needed blockIndex lowseq : Nat} {block : Bytes}
  {shards : FecShards}

theorem encodeBlock_parts (ran : encodeBlock moonlight config frame blocksize fecPercentage needed
      blockIndex lowseq block = pure shards) :
    0 < blocksize ∧ ∃ stored encoded,
      writePackets (packetStores moonlight frame lowseq blockIndex needed
        (Slices.cover block.length blocksize)) blocksize (Slices.cover block.length blocksize)
        block = pure stored ∧
      encode moonlight stored blocksize fecPercentage config.minRequiredFecPackets =
        pure encoded ∧
      encoded.shards.length = encoded.nrShards ∧
      writeShards (shardStores moonlight frame encoded lowseq blockIndex needed) 0
        encoded.shards = pure shards.shards ∧
      shards.dataShards = encoded.dataShards ∧ shards.nrShards = encoded.nrShards := by
  rw [encodeBlock] at ran
  obtain ⟨packets, divided, ran⟩ := bind_eq_pure ran
  obtain ⟨positive, rfl⟩ := quotient_eq_pure divided
  obtain ⟨stored, written, ran⟩ := bind_eq_pure ran
  obtain ⟨encoded, encodes, ran⟩ := bind_eq_pure ran
  obtain ⟨_, counted, ran⟩ := bind_eq_pure ran
  obtain ⟨headed, headers, ran⟩ := bind_eq_pure ran
  obtain rfl := Except.ok.inj ran
  exact ⟨positive, stored, encoded, written, encodes, require_eq_pure counted, headers, rfl, rfl⟩

theorem shiftLeft_eight_mod (value : Nat) : value <<< 8 % 2 ^ 32 / 2 ^ 8 % 2 ^ 16 = value % 2 ^ 16 := by
  rw [Nat.shiftLeft_eq]
  omega

theorem sequenceNumberOf_writeHeader (layout : PacketLayout moonlight) {x : Nat} {shard stored : Bytes}
    (written : writeHeader 0 shard
      (shardStores moonlight frame shards lowseq blockIndex needed x) = pure stored) :
    sequenceNumberOf moonlight stored = (lowseq + x) % 2 ^ 16 := by
  have wide := layout.sequenceWidth
  have apart := layout.sequenceApart
  simp only [List.forall_mem_cons] at apart
  obtain ⟨timestamp, blocks, index, -⟩ := apart
  have stores : shardStores moonlight frame shards lowseq blockIndex needed x =
      [moonlight.fecInfo.little (fecInfo x shards.dataShards shards.percentage),
        moonlight.rtpHeader.little (0x80 ||| moonlight.extension)] ++
      moonlight.sequenceNumber.big (lowseq + x) ::
        [moonlight.timestamp.big frame.timestamp,
          moonlight.multiFecBlocks.little (multiFecBlocks blockIndex needed),
          moonlight.frameIndex.little frame.frameIndex] := rfl
  rw [stores] at written
  have held := (window_writeHeader written (by
    simp only [List.forall_mem_cons, HeaderField.big, HeaderField.little, length_big,
      length_little, wide]
    exact ⟨timestamp, blocks, index, nofun⟩)).1
  simp only [Nat.zero_add, HeaderField.big, length_big] at held
  rw [sequenceNumberOf, held, ofBig_big, wide, ← Nat.pow_mul 2 8 2]

theorem streamPacketIndexOf_writeHeader (layout : PacketLayout moonlight) {x : Nat}
    {shard stored : Bytes} (written : writeHeader 0 shard
      (shardStores moonlight frame shards lowseq blockIndex needed x) = pure stored) :
    streamPacketIndexOf moonlight stored = streamPacketIndexOf moonlight shard := by
  have apart := layout.indexApart
  simp only [List.forall_mem_cons] at apart
  obtain ⟨header, sequence, timestamp, index, -, -, blocks, info, -⟩ := apart
  have kept := window_writeHeader_apart moonlight.streamPacketIndex.offset 4 written (by
      simp only [shardStores, List.forall_mem_cons, HeaderField.big, HeaderField.little,
        length_big, length_little]
      exact ⟨info, header, sequence, timestamp, blocks, index, nofun⟩)
  rw [Nat.zero_add] at kept
  rw [streamPacketIndexOf, streamPacketIndexOf, layout.indexWidth, kept]

theorem streamPacketIndexOf_packet (layout : PacketLayout moonlight)
    (large : rawPacketSize ≤ blocksize) {packets x : Nat} {stored shard : Bytes}
    (written : writePackets (packetStores moonlight frame lowseq blockIndex needed packets) blocksize
      packets block = pure stored) (packet : x < packets)
    (found : (plainShards blocksize stored)[x]? = some shard) :
    streamPacketIndexOf moonlight shard = (lowseq + x) <<< 8 % 2 ^ 32 := by
  have wide := layout.indexWidth
  have apart := layout.indexApart
  simp only [List.forall_mem_cons] at apart
  obtain ⟨-, -, -, -, flags, multiFlags, blocks, -⟩ := apart
  have stores : packetStores moonlight frame lowseq blockIndex needed packets x =
      [moonlight.frameIndex.little frame.frameIndex] ++
      moonlight.streamPacketIndex.little ((lowseq + x) <<< 8) ::
        [moonlight.multiFecFlags.little 0x10,
          moonlight.multiFecBlocks.little (multiFecBlocks blockIndex needed),
          moonlight.flags.little (moonlight.containsPicData |||
            (if x = 0 then moonlight.sof else 0) |||
            (if x = packets - 1 then moonlight.eof else 0))] := rfl
  obtain ⟨held, within⟩ := window_writePackets large written packet stores (by
    simp only [List.forall_mem_cons, HeaderField.little, length_little, wide]
    exact ⟨multiFlags, blocks, flags, nofun⟩)
  simp only [HeaderField.little, length_little] at held within
  have inside := moonlight.streamPacketIndex.within
  rw [streamPacketIndexOf, window_plainShards (by omega) within found, held, ofLittle_little, wide,
    ← Nat.pow_mul 2 8 4]

/-- A nonempty block has a shard, and its shards carry these numbers. -/
theorem encodeBlock_numbers (layout : PacketLayout moonlight) (large : rawPacketSize ≤ blocksize)
    (ran : encodeBlock moonlight config frame blocksize fecPercentage needed blockIndex lowseq block =
      pure shards) :
    shards.shards.length = shards.nrShards ∧ (block ≠ [] → 0 < shards.nrShards) ∧
      ∀ x shard, shards.shards[x]? = some shard →
        sequenceNumberOf moonlight shard = (lowseq + x) % 2 ^ 16 ∧
        (x < shards.dataShards →
          streamPacketIndexOf moonlight shard = (lowseq + x) <<< 8 % 2 ^ 32) := by
  obtain ⟨positive, stored, encoded, packets, encodes, counted, headers, data, total⟩ :=
    encodeBlock_parts ran
  obtain ⟨covered, parity, split⟩ := encode_data encodes
  rw [length_writePackets packets] at covered
  refine ⟨by rw [length_writeShards headers, counted, total], ?_, ?_⟩
  · intro nonempty
    have covers := Slices.cover_pos positive (List.length_pos_iff.mpr nonempty)
    rw [total, ← counted, split, List.length_append, length_plainShards,
      length_writePackets packets]
    omega
  intro x shard found
  obtain ⟨source, place, header⟩ := getElem?_writeShards headers x found
  rw [Nat.zero_add] at header
  refine ⟨sequenceNumberOf_writeHeader layout header, ?_⟩
  intro early
  rw [streamPacketIndexOf_writeHeader layout header]
  rw [data, covered] at early
  apply streamPacketIndexOf_packet layout large packets early
  rwa [split, List.getElem?_append_left] at place
  rwa [length_plainShards, length_writePackets packets]

end block

/-! ## The shards of a frame -/

def numberOf (moonlight : Moonlight) (shard : SentShard) : Nat :=
  sequenceNumberOf moonlight shard.bytes

/-- The packet index of a data shard counts with its sequence number. -/
def IndexAgrees (moonlight : Moonlight) (shard : SentShard) : Prop :=
  shard.data = true →
    streamPacketIndexOf moonlight shard.bytes >>> 8 % 2 ^ 16 = numberOf moonlight shard

structure FrameNumbers (moonlight : Moonlight) (lowseq : Int) (sent : SentFrame) : Prop where
  numbered : NumberedFrom (2 ^ 16) (numberOf moonlight) (unsigned lowseq) sent.shards
  indexed : ∀ shard ∈ sent.shards, IndexAgrees moonlight shard
  next : ∀ next, sent.lowseq = some next →
    unsigned next ≡ unsigned lowseq + sent.shards.length [MOD 2 ^ 16]

theorem unsigned_advance (lowseq : Int) (count : Nat) :
    unsigned (advance lowseq count) ≡ unsigned lowseq + count [MOD 2 ^ 16] := by
  have wrapped : advance lowseq count % 2 ^ 32 = (lowseq + count) % 2 ^ 32 := Int.bmod_emod
  rw [Nat.ModEq, unsigned, unsigned, wrapped]
  omega

theorem frameNumbers_nothing (moonlight : Moonlight) (lowseq : Int) (raised : Bool) :
    FrameNumbers moonlight lowseq
      { shards := [], lowseq := if raised then none else some lowseq } where
  numbered := numberedFrom_nil
  indexed := by
    intro shard member
    cases member
  next := by
    intro next stored
    cases raised with
    | true => cases stored
    | false =>
        obtain rfl := Option.some.inj stored
        rfl

theorem length_shardsOf (encoded : FecShards) :
    (shardsOf encoded).length = encoded.shards.length :=
  List.length_mapIdx

theorem shardsOf_numbers (layout : PacketLayout moonlight) {blocksize fecPercentage needed
      blockIndex : Nat} {lowseq : Nat} {block : Bytes} {encoded : FecShards}
    (large : rawPacketSize ≤ blocksize)
    (ran : encodeBlock moonlight config frame blocksize fecPercentage needed blockIndex lowseq block =
      pure encoded) :
    (shardsOf encoded).length = encoded.nrShards ∧ (block ≠ [] → 0 < encoded.nrShards) ∧
      NumberedFrom (2 ^ 16) (numberOf moonlight) lowseq (shardsOf encoded) ∧
      ∀ shard ∈ shardsOf encoded, IndexAgrees moonlight shard := by
  obtain ⟨total, sends, numbers⟩ := encodeBlock_numbers layout large ran
  have place : ∀ x shard, (shardsOf encoded)[x]? = some shard →
      encoded.shards[x]? = some shard.bytes ∧ shard.data = decide (x < encoded.dataShards) := by
    intro x shard found
    rw [shardsOf, List.getElem?_mapIdx] at found
    obtain ⟨bytes, there, rfl⟩ := Option.map_eq_some_iff.mp found
    exact ⟨there, rfl⟩
  refine ⟨by rw [length_shardsOf, total], sends, ?_, ?_⟩
  · intro x shard found
    exact (numbers x shard.bytes (place x shard found).1).1
  · intro shard member data
    obtain ⟨x, found⟩ := List.mem_iff_getElem?.mp member
    obtain ⟨there, early⟩ := place x shard found
    obtain ⟨sequence, index⟩ := numbers x shard.bytes there
    rw [numberOf, sequence, index (of_decide_eq_true (early.symm.trans data)),
      Nat.shiftRight_eq_div_pow, shiftLeft_eight_mod]

theorem sendBlocks_numbers (layout : PacketLayout moonlight) {cut : CutFrame}
    (large : rawPacketSize ≤ cut.blocksize) {blocks : List Bytes} {blockIndex : Nat} {lowseq : Int}
    {raisedAfter : Option Nat} {sent : SentFrame}
    (ran : sendBlocks moonlight config frame cut blockIndex lowseq raisedAfter blocks = pure sent) :
    FrameNumbers moonlight lowseq sent := by
  induction blocks generalizing blockIndex lowseq raisedAfter sent with
  | nil =>
      rw [sendBlocks] at ran
      obtain rfl := Except.ok.inj ran
      have nothing := frameNumbers_nothing moonlight lowseq (raisedAfter = some 0)
      simpa using nothing
  | cons block rest ih =>
      rw [sendBlocks] at ran
      split at ran
      case isTrue =>
        obtain rfl := Except.ok.inj ran
        exact frameNumbers_nothing moonlight lowseq true
      obtain ⟨encoded, encodes, ran⟩ := bind_eq_pure ran
      obtain ⟨total, -, numbered, indexed⟩ := shardsOf_numbers layout large encodes
      obtain ⟨_, -, ran⟩ := bind_eq_pure ran
      split at ran
      case isTrue =>
        obtain rfl := Except.ok.inj ran
        refine ⟨numbered.take _, ?_, ?_⟩
        · intro shard member
          exact indexed shard (List.mem_of_mem_take member)
        · intro next stored
          cases stored
      obtain ⟨later, continues, ran⟩ := bind_eq_pure ran
      obtain rfl := Except.ok.inj ran
      have counts := unsigned_advance lowseq encoded.nrShards
      obtain ⟨numbered', indexed', next⟩ := ih continues
      refine ⟨?_, ?_, ?_⟩
      · apply numberedFrom_append.mpr
        rw [total]
        exact ⟨numbered, numbered'.congr counts⟩
      · intro shard member
        rcases List.mem_append.mp member with here | behind
        · exact indexed shard here
        · exact indexed' shard behind
      · intro final stored
        rw [List.length_append, total, ← Nat.add_assoc]
        exact (next final stored).trans (counts.add_right _)

/-! ## How a frame ends -/

/-- An exception that is reached leaves no counter, and the last block sends something. -/
structure FrameEnds (raisedAfter : Option Nat) (nonempty : Prop) (sent : SentFrame) : Prop where
  completes : raisedAfter = none → sent.lowseq.isSome ∧ (nonempty → sent.shards ≠ [])
  raises : ∀ count, raisedAfter = some count → sent.shards.length = count → sent.lowseq = none

theorem sendBlocks_ends (layout : PacketLayout moonlight) {cut : CutFrame}
    (large : rawPacketSize ≤ cut.blocksize) {blocks : List Bytes} {blockIndex : Nat} {lowseq : Int}
    {raisedAfter : Option Nat} {sent : SentFrame}
    (ran : sendBlocks moonlight config frame cut blockIndex lowseq raisedAfter blocks = pure sent) :
    FrameEnds raisedAfter (blocks.flatten ≠ []) sent := by
  induction blocks generalizing blockIndex lowseq raisedAfter sent with
  | nil =>
      rw [sendBlocks] at ran
      obtain rfl := Except.ok.inj ran
      constructor
      · rintro rfl
        exact ⟨rfl, fun nonempty => absurd rfl nonempty⟩
      · rintro count rfl zero
        obtain rfl : 0 = count := zero
        rfl
  | cons block rest ih =>
      rw [sendBlocks] at ran
      split at ran
      case isTrue now =>
        obtain rfl := Except.ok.inj ran
        constructor
        · rintro rfl
          cases now
        · intro count _ _
          rfl
      obtain ⟨encoded, encodes, ran⟩ := bind_eq_pure ran
      obtain ⟨total, sends, -, -⟩ := shardsOf_numbers layout large encodes
      obtain ⟨_, -, ran⟩ := bind_eq_pure ran
      split at ran
      case isTrue partway =>
        obtain rfl := Except.ok.inj ran
        constructor
        · rintro rfl
          exact absurd partway (Nat.lt_irrefl _)
        · intro count _ _
          rfl
      obtain ⟨later, continues, ran⟩ := bind_eq_pure ran
      obtain rfl := Except.ok.inj ran
      obtain ⟨completes, raises⟩ := ih continues
      constructor
      · rintro rfl
        obtain ⟨stored, nonempty⟩ := completes rfl
        refine ⟨stored, ?_⟩
        intro flat empty
        obtain ⟨nothing, behind⟩ := List.append_eq_nil_iff.mp empty
        rw [nothing] at total
        by_cases here : block = []
        · rw [here, List.flatten_cons, List.nil_append] at flat
          exact nonempty flat behind
        · exact absurd (sends here) (by rw [← total]; exact Nat.lt_irrefl 0)
      · rintro count rfl reached
        rw [List.length_append, total] at reached
        exact raises (count - encoded.nrShards) rfl (by omega)

theorem splitFecBlocks_inside {payload : Bytes} {alignedSize needed remaining : Nat}
    {blocks : List Bytes}
    (ran : splitFecBlocks payload alignedSize needed (remaining + 1) = pure blocks) :
    (needed - 1) * alignedSize ≤ payload.length := by
  induction remaining generalizing blocks with
  | zero =>
      rw [splitFecBlocks] at ran
      obtain ⟨rest, cut, -⟩ := bind_eq_pure ran
      by_contra outside
      rw [substr, if_neg outside] at cut
      cases cut
  | succ remaining ih =>
      rw [splitFecBlocks] at ran
      obtain ⟨_, -, ran⟩ := bind_eq_pure ran
      obtain ⟨later, continues, -⟩ := bind_eq_pure ran
      exact ih continues

/-- The FEC blocks are the payload. -/
theorem flatten_splitFecBlocks {payload : Bytes} {alignedSize needed : Nat} {blocks : List Bytes}
    (positive : 0 < needed) (ran : splitFecBlocks payload alignedSize needed needed = pure blocks) :
    blocks.flatten = payload := by
  obtain ⟨earlier, rfl⟩ := Nat.exists_eq_add_of_lt positive
  rw [Nat.zero_add] at ran
  have inside := splitFecBlocks_inside ran
  rw [Nat.add_sub_cancel] at inside
  rw [splitFecBlocks_eq inside] at ran
  obtain rfl := Except.ok.inj ran
  rw [cutBlocks, List.flatten_append, Slices.flatten_slices, List.flatten_singleton,
    List.take_append_drop]

theorem cutFrame_parts {host : HostConfig} {cut : CutFrame}
    (ran : cutFrame config host frame = pure cut) :
    rawPacketSize ≤ cut.blocksize ∧ cut.fecBlocks.flatten ≠ [] := by
  rw [cutFrame] at ran
  obtain ⟨sliceSize, -, ran⟩ := bind_eq_pure ran
  obtain ⟨lastPayloadLen, -, ran⟩ := bind_eq_pure ran
  obtain ⟨header, stored, ran⟩ := bind_eq_pure ran
  obtain ⟨blocksize, -, ran⟩ := bind_eq_pure ran
  obtain ⟨payloadBlocksize, larger, ran⟩ := bind_eq_pure ran
  obtain ⟨payload, inserted, ran⟩ := bind_eq_pure ran
  obtain ⟨⟨fecPercentage, needed⟩, -, ran⟩ := bind_eq_pure ran
  obtain ⟨unaligned, divided, ran⟩ := bind_eq_pure ran
  obtain ⟨alignedShards, -, ran⟩ := bind_eq_pure ran
  obtain ⟨fecBlocks, split, ran⟩ := bind_eq_pure ran
  obtain ⟨_, -, ran⟩ := bind_eq_pure ran
  obtain rfl := Except.ok.inj ran
  constructor
  · by_cases short : blocksize < rawPacketSize
    · rw [sizeDifference, if_pos short] at larger
      cases larger
    · dsimp only
      omega
  · rw [flatten_splitFecBlocks (quotient_eq_pure divided).1 split]
    have long : 0 < (header ++ frame.payload).length := by
      have fits := (overwrite_eq_pure stored).1
      rw [length_little] at fits
      rw [List.length_append, length_overwrite stored]
      omega
    have positive : 0 < payloadBlocksize := by
      rw [concatAndInsert] at inserted
      obtain ⟨_, -, inserted⟩ := bind_eq_pure inserted
      obtain ⟨_, whole, -⟩ := bind_eq_pure inserted
      exact (quotient_eq_pure whole).1
    rw [concatAndInsert_eq positive] at inserted
    obtain rfl := Except.ok.inj inserted
    have counted := Slices.length_framed (zeros rawPacketSize) (Slices.slices payloadBlocksize
      (Slices.cover (header ++ frame.payload).length payloadBlocksize) (header ++ frame.payload))
    rw [Slices.flatten_slices, List.take_of_length_le (Slices.le_cover positive _)] at counted
    apply List.ne_nil_of_length_pos
    omega

theorem sendFrame_numbers (layout : PacketLayout moonlight) {lowseq : Int} {attempt : FrameAttempt}
    {sent : SentFrame} (ran : sendFrame moonlight config lowseq attempt = pure sent) :
    FrameNumbers moonlight lowseq sent ∧ FrameEnds attempt.raisedAfter True sent := by
  rw [sendFrame] at ran
  split at ran
  case isTrue now =>
    obtain rfl := Except.ok.inj ran
    refine ⟨frameNumbers_nothing moonlight lowseq true, ?_, ?_⟩
    · intro completes
      rw [now] at completes
      cases completes
    · intro count _ _
      rfl
  case isFalse =>
    obtain ⟨cut, cuts, ran⟩ := bind_eq_pure ran
    obtain ⟨large, nonempty⟩ := cutFrame_parts cuts
    obtain ⟨completes, raises⟩ := sendBlocks_ends layout large ran
    refine ⟨sendBlocks_numbers layout large ran, ?_, raises⟩
    intro uninterrupted
    obtain ⟨stored, sends⟩ := completes uninterrupted
    exact ⟨stored, fun _ => sends nonempty⟩

/-! ## Frames that nothing interrupts -/

theorem packetizeFrame_of_cutFrame {host : HostConfig} {cut : CutFrame} {lowseq : Nat}
    {blocks : List FecShards} (cuts : cutFrame config host frame = pure cut)
    (encodes : encodeBlocks moonlight config frame cut.blocksize cut.fecPercentage cut.needed 0
      lowseq cut.fecBlocks = pure blocks) :
    ∃ result, packetizeFrame moonlight config host lowseq frame = pure result ∧
      result.blocks = blocks := by
  rw [cutFrame] at cuts
  obtain ⟨sliceSize, sliced, cuts⟩ := bind_eq_pure cuts
  obtain ⟨length, field, cuts⟩ := bind_eq_pure cuts
  obtain ⟨header, stored, cuts⟩ := bind_eq_pure cuts
  obtain ⟨blocksize, sized, cuts⟩ := bind_eq_pure cuts
  obtain ⟨payloadBlocksize, larger, cuts⟩ := bind_eq_pure cuts
  obtain ⟨payload, inserted, cuts⟩ := bind_eq_pure cuts
  obtain ⟨⟨fecPercentage, needed⟩, counted, cuts⟩ := bind_eq_pure cuts
  obtain ⟨unaligned, divided, cuts⟩ := bind_eq_pure cuts
  obtain ⟨alignedShards, aligned, cuts⟩ := bind_eq_pure cuts
  obtain ⟨fecBlocks, split, cuts⟩ := bind_eq_pure cuts
  obtain ⟨paced, pacing, cuts⟩ := bind_eq_pure cuts
  obtain rfl := Except.ok.inj cuts
  refine ⟨{ blocksize := blocksize.toNat, lastPayloadLen := length, header, fecBlocks, blocks },
    ?_, rfl⟩
  simp only [packetizeFrame, encodeFrame, sliced, field, stored, sized, larger, inserted, counted,
    divided, aligned, split, pacing, encodes, pure_bind]

theorem sendBlocks_uninterrupted (layout : PacketLayout moonlight) {cut : CutFrame}
    (large : rawPacketSize ≤ cut.blocksize) {blocks : List Bytes} {blockIndex : Nat} {lowseq : Int}
    {sent : SentFrame}
    (ran : sendBlocks moonlight config frame cut blockIndex lowseq none blocks = pure sent)
    (unwrapped : unsigned lowseq + sent.shards.length < 2 ^ 32) :
    ∃ encoded, encodeBlocks moonlight config frame cut.blocksize cut.fecPercentage cut.needed
        blockIndex (unsigned lowseq) blocks = pure encoded ∧
      sent.shards = encoded.flatMap shardsOf := by
  induction blocks generalizing blockIndex lowseq sent with
  | nil =>
      rw [sendBlocks] at ran
      obtain rfl := Except.ok.inj ran
      exact ⟨[], rfl, rfl⟩
  | cons block rest ih =>
      rw [sendBlocks, if_neg nofun] at ran
      obtain ⟨encoded, encodes, ran⟩ := bind_eq_pure ran
      obtain ⟨total, -, -, -⟩ := shardsOf_numbers layout large encodes
      obtain ⟨_, -, ran⟩ := bind_eq_pure ran
      rw [Option.map_none, Option.getD_none, if_neg (Nat.lt_irrefl _)] at ran
      obtain ⟨later, continues, ran⟩ := bind_eq_pure ran
      obtain rfl := Except.ok.inj ran
      rw [List.length_append, total] at unwrapped
      have next : unsigned (advance lowseq encoded.nrShards) =
          unsigned lowseq + encoded.nrShards := by
        have wrapped : advance lowseq encoded.nrShards % 2 ^ 32 =
          (lowseq + encoded.nrShards) % 2 ^ 32 := Int.bmod_emod
        rw [unsigned, wrapped]
        rw [unsigned] at unwrapped ⊢
        omega
      obtain ⟨others, encodes', same⟩ := ih continues (by rw [next]; omega)
      rw [next] at encodes'
      refine ⟨encoded :: others, ?_, ?_⟩
      · rw [encodeBlocks, encodes, pure_bind, encodes', pure_bind]
      · rw [List.flatMap_cons, ← same]

/-- A frame that no exception ends sends what it is packetized to. -/
theorem sendFrame_uninterrupted (layout : PacketLayout moonlight) {host : HostConfig} {lowseq : Int}
    {sent : SentFrame}
    (ran : sendFrame moonlight config lowseq { host, frame, raisedAfter := none } = pure sent)
    (unwrapped : unsigned lowseq + sent.shards.length < 2 ^ 32) :
    ∃ result, packetizeFrame moonlight config host (unsigned lowseq) frame = pure result ∧
      sent.shards = result.blocks.flatMap shardsOf := by
  rw [sendFrame, if_neg nofun] at ran
  obtain ⟨cut, cuts, ran⟩ := bind_eq_pure ran
  obtain ⟨encoded, encodes, same⟩ :=
    sendBlocks_uninterrupted layout (cutFrame_parts cuts).1 ran unwrapped
  obtain ⟨result, packetized, rfl⟩ := packetizeFrame_of_cutFrame cuts encodes
  exact ⟨result, packetized, same⟩

/-! ## Runs -/

/-- The frames of a session from a value of `session->video.lowseq` on, and all shards sent. -/
inductive Run (moonlight : Moonlight) (config : SessionConfig) :
    Int → List FrameAttempt → List SentShard → Prop
  | nil {lowseq} : Run moonlight config lowseq [] []
  | frame {lowseq attempt sent rest later}
      (sends : sendFrame moonlight config lowseq attempt = pure sent)
      (raises : ∀ count, attempt.raisedAfter = some count → sent.shards.length = count)
      (continues : Run moonlight config (sent.lowseq.getD lowseq) rest later) :
      Run moonlight config lowseq (attempt :: rest) (sent.shards ++ later)

/-- The numbering of the shards of a session. -/
structure Numbered (moonlight : Moonlight) (shards : List SentShard) : Prop where
  consecutive : Consecutive (2 ^ 16) (numberOf moonlight) shards
  distinct : DistinctWithin (2 ^ 16) (numberOf moonlight) shards
  index : ∀ shard ∈ shards, IndexAgrees moonlight shard

/-- After a frame that an exception ended, no other sends a shard, unless the shards sent were
whole turns of the sequence. -/
def NoneAfterException (attempts : List FrameAttempt) : Prop :=
  ∀ earlier attempt later count, attempts = earlier ++ attempt :: later →
    attempt.raisedAfter = some count →
    2 ^ 16 ∣ count ∨ ∀ other ∈ later, other.raisedAfter = some 0

/-- The segment that a frame contributes. -/
structure SentAs (attempt : FrameAttempt) (segment : Segment SentShard) : Prop where
  counted : segment.counted = attempt.raisedAfter.isNone
  completes : attempt.raisedAfter = none → segment.items ≠ []
  raises : ∀ count, attempt.raisedAfter = some count → segment.items.length = count

theorem SentAs.nothing {attempt : FrameAttempt} {segment : Segment SentShard}
    (sent : SentAs attempt segment) : segment.items = [] ↔ attempt.raisedAfter = some 0 := by
  cases ended : attempt.raisedAfter with
  | none => simpa using sent.completes ended
  | some count => simp [← List.length_eq_zero_iff, sent.raises count ended]

theorem run_segments (layout : PacketLayout moonlight) {lowseq : Int}
    {attempts : List FrameAttempt} {shards : List SentShard}
    (run : Run moonlight config lowseq attempts shards) :
    ∃ segments, List.Forall₂ SentAs attempts segments ∧
      shards = segments.flatMap Segment.items ∧
      Snapshots (2 ^ 16) (numberOf moonlight) (unsigned lowseq) segments ∧
      ∀ shard ∈ shards, IndexAgrees moonlight shard := by
  induction run with
  | nil => exact ⟨[], .nil, rfl, trivial, nofun⟩
  | @frame lowseq attempt sent rest later sends raises continues ih =>
      obtain ⟨segments, same, rfl, numbered, indexed⟩ := ih
      obtain ⟨numbers, completes, raised⟩ := sendFrame_numbers layout sends
      refine ⟨{ items := sent.shards, counted := sent.lowseq.isSome } :: segments,
        .cons ?_ same, rfl, ⟨numbers.numbered, _, ?_, numbered⟩, ?_⟩
      · constructor
        · cases ended : attempt.raisedAfter with
          | none => exact (completes ended).1
          | some count =>
              rw [raised count ended (raises count ended)]
              rfl
        · intro uninterrupted
          exact (completes uninterrupted).2 trivial
        · exact raises
      · cases stored : sent.lowseq with
        | none => rfl
        | some next => exact numbers.next next stored
      · intro shard member
        rcases List.mem_append.mp member with here | behind
        · exact numbers.indexed shard here
        · exact indexed shard behind

theorem noneAfterException_cons {attempt : FrameAttempt} {attempts : List FrameAttempt} :
    NoneAfterException (attempt :: attempts) ↔
      (∀ count, attempt.raisedAfter = some count →
        2 ^ 16 ∣ count ∨ ∀ other ∈ attempts, other.raisedAfter = some 0) ∧
        NoneAfterException attempts := by
  constructor
  · intro none
    refine ⟨fun count => none [] attempt attempts count rfl, ?_⟩
    rintro earlier ended later count rfl
    exact none (attempt :: earlier) ended later count rfl
  · rintro ⟨here, none⟩ earlier ended later count split
    cases earlier with
    | nil =>
        obtain ⟨rfl, rfl⟩ := List.cons.inj split
        exact here count
    | cons _ earlier =>
        obtain ⟨rfl, rfl⟩ := List.cons.inj split
        exact none earlier ended later count rfl

theorem nothing_iff_of_sentAs {attempts : List FrameAttempt} {segments : List (Segment SentShard)}
    (same : List.Forall₂ SentAs attempts segments) :
    (∀ segment ∈ segments, segment.items = []) ↔
      ∀ attempt ∈ attempts, attempt.raisedAfter = some 0 := by
  induction same with
  | nil => simp
  | cons sent _ ih => rw [List.forall_mem_cons, List.forall_mem_cons, ih, sent.nothing]

theorem nothingAfterMiss_iff {attempts : List FrameAttempt} {segments : List (Segment SentShard)}
    (same : List.Forall₂ SentAs attempts segments) :
    NothingAfterMiss (2 ^ 16) segments ↔ NoneAfterException attempts := by
  induction same with
  | nil =>
      constructor
      · rintro - (_ | _) _ _ _ split <;> cases split
      · rintro - (_ | _) _ _ split <;> cases split
  | @cons attempt segment attempts segments sent behind ih =>
      rw [nothingAfterMiss_cons, noneAfterException_cons, ih, nothing_iff_of_sentAs behind]
      apply and_congr_left
      intro _
      cases ended : attempt.raisedAfter with
      | none => simp [sent.counted, ended]
      | some count => simp [sent.counted, ended, sent.raises count ended]

theorem numberOf_lt (layout : PacketLayout moonlight) (shard : SentShard) :
    numberOf moonlight shard < 2 ^ 16 := by
  have small := ofLittle_lt (window moonlight.sequenceNumber.offset
    moonlight.sequenceNumber.width shard.bytes).reverse
  apply Nat.lt_of_lt_of_le small
  rw [List.length_reverse, window, layout.sequenceWidth]
  calc 256 ^ ((shard.bytes.drop moonlight.sequenceNumber.offset).take 2).length
      ≤ 256 ^ 2 := Nat.pow_le_pow_right (by decide) (List.length_take_le 2 _)
    _ = 2 ^ 16 := by decide

theorem consecutive_iff_of_run (layout : PacketLayout moonlight) {lowseq : Int}
    {attempts : List FrameAttempt} {shards : List SentShard}
    (run : Run moonlight config lowseq attempts shards) :
    Consecutive (2 ^ 16) (numberOf moonlight) shards ↔ NoneAfterException attempts := by
  obtain ⟨segments, same, rfl, numbered, -⟩ := run_segments layout run
  rw [← nothingAfterMiss_iff same]
  exact numbered.consecutive_iff

/-- The numbers continue exactly when no frame follows one that an exception ended partway. -/
theorem numbered_iff (layout : PacketLayout moonlight) {lowseq : Int}
    {attempts : List FrameAttempt} {shards : List SentShard}
    (run : Run moonlight config lowseq attempts shards) :
    Numbered moonlight shards ↔ NoneAfterException attempts := by
  obtain ⟨_, -, -, -, indexed⟩ := run_segments layout run
  rw [← consecutive_iff_of_run layout run]
  constructor
  · intro holds
    exact holds.consecutive
  · intro consecutive
    exact ⟨consecutive, consecutive.distinctWithin fun shard _ => numberOf_lt layout shard, indexed⟩

/-- A frame of two shards, each a batch. -/
def twoShards (raisedAfter : Option Nat) : FrameAttempt where
  host := { fecPercentage := 0, pacingBps := 800000000, maxBatchSize := 40 }
  frame := { frameIndex := 1, timestamp := 0, header := zeros 8, payload := zeros 8 }
  raisedAfter

def smallPackets : SessionConfig where
  packetsize := 24
  minRequiredFecPackets := 0

theorem sendFrame_partway : ∃ sent,
    sendFrame moonlightCommon smallPackets 0 (twoShards (some 1)) = pure sent ∧
      sent.shards.length = 1 ∧ sent.lowseq = none :=
  ⟨_, rfl, rfl, rfl⟩

theorem sendFrame_whole : ∃ sent,
    sendFrame moonlightCommon smallPackets 0 (twoShards none) = pure sent ∧
      sent.shards.length = 2 :=
  ⟨_, rfl, rfl⟩

theorem numbered_iff_unsentFrame : ∃ shards,
    shards.length = 2 ∧
      (Numbered moonlightCommon shards ↔ NoneAfterException [twoShards (some 0), twoShards none]) := by
  obtain ⟨whole, sends, total⟩ := sendFrame_whole
  have nothing : sendFrame moonlightCommon smallPackets 0 (twoShards (some 0)) =
    pure { shards := [], lowseq := none } := rfl
  refine ⟨_, ?_, numbered_iff packetLayout_moonlightCommon
    (.frame nothing ?_ (.frame sends nofun .nil))⟩
  · rw [List.nil_append, List.append_nil, total]
  · intro count raised
    exact Option.some.inj raised

/-- The frame after one that failed between its two shards repeats the first number. -/
theorem partway_repeats : ¬ ∀ attempts shards,
    Run moonlightCommon smallPackets 0 attempts shards → Numbered moonlightCommon shards := by
  intro numbered
  obtain ⟨first, partway, one, none⟩ := sendFrame_partway
  obtain ⟨second, whole, -⟩ := sendFrame_whole
  have run : Run moonlightCommon smallPackets 0 [twoShards (some 1), twoShards Option.none]
      (first.shards ++ (second.shards ++ [])) := by
    refine .frame partway ?_ (.frame (by rw [none]; exact whole) nofun .nil)
    intro count raised
    rw [one]
    exact Option.some.inj raised
  have ended := (consecutive_iff_of_run packetLayout_moonlightCommon run).mp
    (numbered _ _ run).consecutive
  have either := ended [] _ _ 1 rfl rfl
  revert either
  decide

end UmbraHost.Stream.SequenceNumbers
