import Mathlib.Data.Nat.Basic
import Mathlib.Algebra.Group.Nat.Defs
import Mathlib.Algebra.Group.Int.Defs
import UmbraHost.Bytes.Slices

/-! # Packetizing a video frame

`concat_and_insert`, `fec::encode` and the part of `videoBroadcastThread` that
cuts a frame into FEC blocks and shards (`stream.cpp`).  What C++ leaves
undefined, and an exception, ends the model's computation with a fault.  Sizes
of objects are natural numbers; the one size that may be near `2 ^ 64` is the
client's parity minimum, an `int` that the encoder takes as a `size_t`, and it
stays an integer here. -/

namespace UmbraHost.Stream

abbrev Bytes := List UInt8

inductive Fault where
  | zeroDivisor
  /-- A `size_t` difference below zero. -/
  | wrapped
  /-- A result outside `int`. -/
  | overflow
  | outOfBounds
  /-- `std::out_of_range` or `std::bad_array_new_length`. -/
  | thrown
deriving DecidableEq, Repr

abbrev Outcome := Except Fault

/-! ## Arithmetic and buffers -/

/-- A value of type `int`. -/
def IsInt (value : Int) : Prop := -2 ^ 31 ≤ value ∧ value < 2 ^ 31

instance (value : Int) : Decidable (IsInt value) := inferInstanceAs (Decidable (_ ∧ _))

def int (value : Int) : Outcome Int := if IsInt value then pure value else throw .overflow

/-- An `int` less a `sizeof`. -/
def sizeDifference (minuend : Int) (subtrahend : Nat) : Outcome Nat :=
  if minuend < subtrahend then throw .wrapped else pure (minuend - subtrahend).toNat

def quotient (dividend divisor : Nat) : Outcome Nat :=
  if divisor = 0 then throw .zeroDivisor else pure (dividend / divisor)

def remainder (dividend divisor : Nat) : Outcome Nat :=
  if divisor = 0 then throw .zeroDivisor else pure (dividend % divisor)

def require (condition : Prop) [Decidable condition] (fault : Fault) : Outcome Unit :=
  if condition then pure () else throw fault

/-- `std::copy` into a buffer. -/
def overwrite (buffer : Bytes) (offset : Nat) (bytes : Bytes) : Outcome Bytes :=
  if offset + bytes.length ≤ buffer.length then
    pure (buffer.take offset ++ bytes ++ buffer.drop (offset + bytes.length))
  else throw .outOfBounds

def zeros (count : Nat) : Bytes := List.replicate count 0

/-- A little-endian field. -/
def little (width value : Nat) : Bytes :=
  (List.range width).map fun place => UInt8.ofNat (value / 256 ^ place)

def big (width value : Nat) : Bytes := (little width value).reverse

/-- `std::string_view::substr` with an offset only. -/
def substr (text : Bytes) (offset : Nat) : Outcome Bytes :=
  if offset ≤ text.length then pure (text.drop offset) else throw .thrown

/-- `new T[count]`; a negative count is a `size_t` near `2 ^ 64`. -/
def allocate (count : Int) : Outcome Nat :=
  if count < 0 then throw .thrown else pure count.toNat

/-! ## concat_and_insert -/

/-- Copy `size` bytes of the data to the offset.  A slice that extends past the
buffer being read is completed from the second one; the first component is what
is left of the buffer read last. -/
def copySlice (data2 : Bytes) (offset size : Nat) (current result : Bytes) :
    Outcome (Bytes × Bytes) :=
  if current.length < size then do
    let copyLen := current.length
    let result ← overwrite result offset current
    require (size - copyLen ≤ data2.length) .outOfBounds
    let result ← overwrite result (offset + copyLen) (data2.take (size - copyLen))
    pure (data2.drop (size - copyLen), result)
  else do
    let result ← overwrite result offset (current.take size)
    pure (current.drop size, result)

/-- One iteration: the rest of the buffer that is being read, and the result. -/
def insertSlice (insertSize sliceSize : Nat) (data2 : Bytes) (dataSize elements x : Nat)
    (state : Bytes × Bytes) : Outcome (Bytes × Bytes) :=
  let p := x * (insertSize + sliceSize)
  -- For the last iteration, only copy to the end of the data.
  let size := if x = elements - 1 then dataSize - x * sliceSize else sliceSize
  copySlice data2 (p + insertSize) size state.1 state.2

def insertSlices (insertSize sliceSize : Nat) (data1 data2 : Bytes) (dataSize elements : Nat) :
    Nat → Outcome (Bytes × Bytes)
  | 0 => pure (data1, zeros (elements * insertSize + dataSize))
  | x + 1 => do
      let state ← insertSlices insertSize sliceSize data1 data2 dataSize elements x
      insertSlice insertSize sliceSize data2 dataSize elements x state

def concatAndInsert (insertSize sliceSize : Nat) (data1 data2 : Bytes) : Outcome Bytes := do
  let dataSize := data1.length + data2.length
  let rest ← remainder dataSize sliceSize
  let whole ← quotient dataSize sliceSize
  let elements := whole + if rest ≠ 0 then 1 else 0
  let state ← insertSlices insertSize sliceSize data1 data2 dataSize elements elements
  pure state.2

/-! ## Packet headers -/

/-- `sizeof(video_short_frame_header_t)`. -/
def frameHeaderSize : Nat := 8

/-- `sizeof(NV_VIDEO_PACKET)`. -/
def videoPacketSize : Nat := 16

/-- `MAX_RTP_HEADER_SIZE`. -/
def maxRtpHeaderSize : Nat := 16

/-- `sizeof(video_packet_raw_t)`. -/
def rawPacketSize : Nat := 32

/-- A member of `video_packet_raw_t`. -/
structure HeaderField where
  offset : Nat
  width : Nat
  within : offset + width ≤ rawPacketSize

/-- An assignment to a member of a packet header. -/
structure Store where
  offset : Nat
  bytes : Bytes
  within : offset + bytes.length ≤ rawPacketSize

def HeaderField.little (field : HeaderField) (value : Nat) : Store where
  offset := field.offset
  bytes := Stream.little field.width value
  within := by
    rw [Stream.little, List.length_map, List.length_range]
    exact field.within

def HeaderField.big (field : HeaderField) (value : Nat) : Store where
  offset := field.offset
  bytes := Stream.big field.width value
  within := by
    rw [Stream.big, List.length_reverse, Stream.little, List.length_map, List.length_range]
    exact field.within

/-- What the protocol library defines: the members of the packet header, the
flags, and the byte of a parity shard at a position. -/
structure Moonlight where
  rtpHeader : HeaderField
  sequenceNumber : HeaderField
  timestamp : HeaderField
  streamPacketIndex : HeaderField
  frameIndex : HeaderField
  flags : HeaderField
  multiFecFlags : HeaderField
  multiFecBlocks : HeaderField
  fecInfo : HeaderField
  containsPicData : Nat
  eof : Nat
  sof : Nat
  extension : Nat
  reedSolomon : List Bytes → Nat → Nat → UInt8

/-- A little-endian machine's layout.  The parity is that of one data shard. -/
def moonlightCommon : Moonlight where
  rtpHeader := { offset := 0, width := 1, within := by decide }
  sequenceNumber := { offset := 2, width := 2, within := by decide }
  timestamp := { offset := 4, width := 4, within := by decide }
  streamPacketIndex := { offset := 16, width := 4, within := by decide }
  frameIndex := { offset := 20, width := 4, within := by decide }
  flags := { offset := 24, width := 1, within := by decide }
  multiFecFlags := { offset := 26, width := 1, within := by decide }
  multiFecBlocks := { offset := 27, width := 1, within := by decide }
  fecInfo := { offset := 28, width := 4, within := by decide }
  containsPicData := 1
  eof := 2
  sof := 4
  extension := 0x10
  reedSolomon data _ position := (data.headD []).getD position 0

def writeHeader (start : Nat) : Bytes → List Store → Outcome Bytes
  | buffer, [] => pure buffer
  | buffer, store :: rest => do
      let buffer ← overwrite buffer (start + store.offset) store.bytes
      writeHeader start buffer rest

/-! ## fec::encode -/

/-- The shards of one FEC block. -/
structure FecShards where
  dataShards : Nat
  nrShards : Nat
  percentage : Nat
  shards : List Bytes
deriving DecidableEq, Repr

/-- The parity shards and the percentage, raised to the client's minimum.  A
negative minimum is above every count as a `size_t`. -/
def parityShards (dataShards fecPercentage : Nat) (minParityShards : Int) :
    Outcome (Int × Nat) :=
  let parity := (dataShards * fecPercentage + 99) / 100
  if (minParityShards < 0 ∨ (parity : Int) < minParityShards) ∧ fecPercentage ≠ 0 then do
    let raised ← quotient (100 * minParityShards % 2 ^ 64).toNat dataShards
    pure (minParityShards, raised)
  else pure (parity, fecPercentage)

/-- The data shards: views into the payload, and a copy of the last one when it
is padded. -/
def dataShardsOf (payload : Bytes) (blocksize aligned : Nat) (pad : Bool) : List Bytes :=
  Slices.slices blocksize aligned payload ++
    if pad then
      let last := (payload.drop (aligned * blocksize)).take blocksize
      [last ++ zeros (blocksize - last.length)]
    else []

def encode (moonlight : Moonlight) (payload : Bytes) (blocksize fecPercentage : Nat)
    (minParityShards : Int) : Outcome FecShards := do
  let rest ← remainder payload.length blocksize
  let aligned ← quotient payload.length blocksize
  let pad := rest != 0
  let dataShards := aligned + pad.toNat
  let (parity, percentage) ← parityShards dataShards fecPercentage minParityShards
  let buffer ← allocate ((pad.toNat + parity) * blocksize)
  let nrShards ← allocate (dataShards + parity)
  require (dataShards ≤ nrShards ∧ pad.toNat * blocksize ≤ buffer) .outOfBounds
  let data := dataShardsOf payload blocksize aligned pad
  if percentage ≠ 0 then do
    require (dataShards + parity ≤ nrShards ∧ (pad.toNat + parity) * blocksize ≤ buffer)
      .outOfBounds
    let parityOf := fun x => (List.range blocksize).map (moonlight.reedSolomon data x)
    pure {
      dataShards, nrShards, percentage
      shards := data ++ (List.range parity.toNat).map parityOf
    }
  else pure { dataShards, nrShards, percentage, shards := data }

/-! ## videoBroadcastThread -/

def maxFecBlocks : Nat := 4

def maxTotalFecShards : Nat := 255

/-- What a session negotiated. -/
structure SessionConfig where
  packetsize : Int
  minRequiredFecPackets : Int
  packetsize_int : IsInt packetsize := by decide
  minRequiredFecPackets_int : IsInt minRequiredFecPackets := by decide
deriving DecidableEq, Repr

/-- The host's settings, and the pacing that they and the bitrate give. -/
structure HostConfig where
  fecPercentage : Nat
  pacingBps : Nat
  maxBatchSize : Nat
deriving DecidableEq, Repr

/-- A frame from the encoder: its short header before `lastPayloadLen` is stored,
and its payload after the replacements. -/
structure VideoFrame where
  frameIndex : Nat
  timestamp : Nat
  header : Bytes
  payload : Bytes
deriving DecidableEq, Repr

/-- The `little_uint16` field of the frame header. -/
def lastPayloadLen (payloadSize sliceSize : Nat) : Outcome Nat := do
  let rest ← remainder (payloadSize + frameHeaderSize) sliceSize
  if rest % 2 ^ 16 = 0 then pure (sliceSize % 2 ^ 16) else pure (rest % 2 ^ 16)

def maxDataShardsPerFecBlock (fecPercentage : Nat) : Nat :=
  maxTotalFecShards * 100 / (100 + fecPercentage)

/-- The percentage and the number of FEC blocks used for a frame. -/
def fecBlocksNeeded (payloadSize : Nat) (blocksize : Int) (fecPercentage : Nat) :
    Outcome (Nat × Nat) := do
  let maxData ← int (maxDataShardsPerFecBlock fecPercentage * blocksize)
  let needed ← quotient (payloadSize + (maxData.toNat - 1)) maxData.toNat
  -- Past the protocol limit FEC is turned off for this frame.
  if maxFecBlocks < needed then pure (0, maxFecBlocks) else pure (fecPercentage, needed)

/-- The FEC blocks from an index on, aligned to the block size except for the last. -/
def splitFecBlocks (payload : Bytes) (alignedSize needed : Nat) :
    (remaining : Nat) → Outcome (List Bytes)
  | 0 => pure []
  | remaining + 1 => do
      let rest ← substr payload ((needed - (remaining + 1)) * alignedSize)
      let later ← splitFecBlocks payload alignedSize needed remaining
      pure ((if remaining = 0 then rest else rest.take alignedSize) :: later)

def multiFecBlocks (blockIndex needed : Nat) : Nat := blockIndex <<< 4 ||| (needed - 1) <<< 6

/-- The stores into a packet of the payload, before the shards exist. -/
def packetStores (moonlight : Moonlight) (frame : VideoFrame)
    (lowseq blockIndex needed packets x : Nat) : List Store :=
  [moonlight.frameIndex.little frame.frameIndex,
    moonlight.streamPacketIndex.little ((lowseq + x) <<< 8),
    moonlight.multiFecFlags.little 0x10,
    moonlight.multiFecBlocks.little (multiFecBlocks blockIndex needed),
    moonlight.flags.little (moonlight.containsPicData |||
      (if x = 0 then moonlight.sof else 0) ||| (if x = packets - 1 then moonlight.eof else 0))]

def fecInfo (x dataShards percentage : Nat) : Nat :=
  (x <<< 12 ||| dataShards <<< 22 ||| percentage <<< 4) % 2 ^ 32

/-- The stores into a shard. -/
def shardStores (moonlight : Moonlight) (frame : VideoFrame) (shards : FecShards)
    (lowseq blockIndex needed x : Nat) : List Store :=
  [moonlight.fecInfo.little (fecInfo x shards.dataShards shards.percentage),
    moonlight.rtpHeader.little (0x80 ||| moonlight.extension),
    moonlight.sequenceNumber.big (lowseq + x),
    moonlight.timestamp.big frame.timestamp,
    moonlight.multiFecBlocks.little (multiFecBlocks blockIndex needed),
    moonlight.frameIndex.little frame.frameIndex]

def writePackets (stores : Nat → List Store) (blocksize : Nat) :
    (packets : Nat) → Bytes → Outcome Bytes
  | 0, payload => pure payload
  | x + 1, payload => do
      let payload ← writePackets stores blocksize x payload
      writeHeader (x * blocksize) payload (stores x)

/-- The shard headers from an index on. -/
def writeShards (stores : Nat → List Store) : (x : Nat) → List Bytes → Outcome (List Bytes)
  | _, [] => pure []
  | x, shard :: rest => do
      let shard ← writeHeader 0 shard (stores x)
      let rest ← writeShards stores (x + 1) rest
      pure (shard :: rest)

/-- One FEC block: the packet headers in the payload, the shards, and the shard
headers. -/
def encodeBlock (moonlight : Moonlight) (config : SessionConfig) (frame : VideoFrame)
    (blocksize fecPercentage needed blockIndex lowseq : Nat) (block : Bytes) :
    Outcome FecShards := do
  let packets ← quotient (block.length + (blocksize - 1)) blocksize
  let block ← writePackets (packetStores moonlight frame lowseq blockIndex needed packets)
    blocksize packets block
  let encoded ← encode moonlight block blocksize fecPercentage config.minRequiredFecPackets
  require (encoded.shards.length = encoded.nrShards) .outOfBounds
  let shards ← writeShards (shardStores moonlight frame encoded lowseq blockIndex needed) 0
    encoded.shards
  pure { encoded with shards }

def encodeBlocks (moonlight : Moonlight) (config : SessionConfig) (frame : VideoFrame)
    (blocksize fecPercentage needed : Nat) :
    (blockIndex lowseq : Nat) → List Bytes → Outcome (List FecShards)
  | _, _, [] => pure []
  | blockIndex, lowseq, block :: rest => do
      let shards ← encodeBlock moonlight config frame blocksize fecPercentage needed blockIndex
        lowseq block
      let later ← encodeBlocks moonlight config frame blocksize fecPercentage needed
        (blockIndex + 1) (lowseq + shards.nrShards) rest
      pure (shards :: later)

/-- The packets that one millisecond of pacing sends and the size of a batch. -/
def pacing (host : HostConfig) (blocksize : Nat) : Outcome (Nat × Nat) := do
  let perMillisecond ← quotient (host.pacingBps / 1000) blocksize
  let batch ← quotient (min (64 * 1024) host.maxBatchSize) blocksize
  pure (max 1 (perMillisecond / 8), min 64 (max 1 batch))

structure PacketizedFrame where
  blocksize : Nat
  lastPayloadLen : Nat
  header : Bytes
  fecBlocks : List Bytes
  blocks : List FecShards
deriving DecidableEq, Repr

/-- The FEC blocks and the shards of a frame that has room for its packet headers. -/
def encodeFrame (moonlight : Moonlight) (config : SessionConfig) (host : HostConfig)
    (lowseq : Nat) (frame : VideoFrame) (blocksize : Int) (lastPayloadLen : Nat)
    (header payload : Bytes) : Outcome PacketizedFrame := do
  let (fecPercentage, needed) ← fecBlocksNeeded payload.length blocksize host.fecPercentage
  let blocksize := blocksize.toNat
  let unaligned ← quotient payload.length needed
  let alignedShards ← quotient (unaligned + (blocksize - 1)) blocksize
  let fecBlocks ← splitFecBlocks payload (alignedShards * blocksize) needed needed
  let _ ← pacing host blocksize
  let blocks ← encodeBlocks moonlight config frame blocksize fecPercentage needed 0 lowseq fecBlocks
  pure { blocksize, lastPayloadLen, header, fecBlocks, blocks }

/-- A frame from its header and payload to the shards of its FEC blocks. -/
def packetizeFrame (moonlight : Moonlight) (config : SessionConfig) (host : HostConfig)
    (lowseq : Nat) (frame : VideoFrame) : Outcome PacketizedFrame := do
  let sliceSize ← sizeDifference config.packetsize videoPacketSize
  let lastPayloadLen ← lastPayloadLen frame.payload.length sliceSize
  let header ← overwrite frame.header 4 (little 2 lastPayloadLen)
  let blocksize ← int (config.packetsize + maxRtpHeaderSize)
  let payloadBlocksize ← sizeDifference blocksize rawPacketSize
  let payload ← concatAndInsert rawPacketSize payloadBlocksize header frame.payload
  encodeFrame moonlight config host lowseq frame blocksize lastPayloadLen header payload

end UmbraHost.Stream
