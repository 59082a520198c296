import UmbraHost.Stream.BlockShards

/-! # Reading the packet headers back

What the header loops of a block leave in the two fields that number a shard: the RTP
sequence number, stored behind the encoder, and the stream packet index of a data shard,
stored in front of it. -/

namespace UmbraHost.Stream

open Slices

/-! ## Windows of a buffer -/

def window (offset width : Nat) (bytes : Bytes) : Bytes := (bytes.drop offset).take width

theorem window_congr {offset width : Nat} {before after : Bytes}
    (same : ∀ i, offset ≤ i → i < offset + width → after[i]? = before[i]?) :
    window offset width after = window offset width before := by
  apply List.ext_getElem?
  intro i
  rw [window, window, List.getElem?_take, List.getElem?_take]
  split
  next inside => rw [List.getElem?_drop, List.getElem?_drop, same (offset + i) (by omega) (by omega)]
  next => rfl

theorem overwrite_eq_pure {buffer bytes after : Bytes} {offset : Nat}
    (stored : overwrite buffer offset bytes = pure after) :
    offset + bytes.length ≤ buffer.length ∧
      after = buffer.take offset ++ bytes ++ buffer.drop (offset + bytes.length) := by
  by_cases fits : offset + bytes.length ≤ buffer.length
  · rw [overwrite, if_pos fits] at stored
    cases stored
    exact ⟨fits, rfl⟩
  · rw [overwrite, if_neg fits] at stored
    cases stored

theorem length_overwrite {buffer bytes after : Bytes} {offset : Nat}
    (stored : overwrite buffer offset bytes = pure after) : after.length = buffer.length := by
  obtain ⟨fits, rfl⟩ := overwrite_eq_pure stored
  simp only [List.length_append, List.length_take, List.length_drop]
  omega

theorem window_overwrite_self {buffer bytes after : Bytes} {offset : Nat}
    (stored : overwrite buffer offset bytes = pure after) :
    window offset bytes.length after = bytes := by
  obtain ⟨fits, rfl⟩ := overwrite_eq_pure stored
  have front : (buffer.take offset).length = offset := by
    rw [List.length_take]
    omega
  rw [window, List.append_assoc, List.drop_left' front, List.take_left' rfl]

/-- A window of a data shard, padded or not, is one of the block. -/
theorem window_plainShards {blocksize offset width x : Nat} {block shard : Bytes}
    (inside : offset + width ≤ blocksize) (within : x * blocksize + offset + width ≤ block.length)
    (found : (plainShards blocksize block)[x]? = some shard) :
    window offset width shard = window (x * blocksize + offset) width block := by
  rw [plainShards, List.getElem?_map] at found
  obtain ⟨piece, cut, rfl⟩ := Option.map_eq_some_iff.mp found
  have counted := (List.getElem?_eq_some_iff.mp cut).1
  rw [length_slices] at counted
  rw [getElem?_slices counted] at cut
  obtain rfl := Option.some.inj cut
  apply List.ext_getElem?
  intro i
  rw [window, window, List.getElem?_take, List.getElem?_take]
  split
  next near =>
    rw [List.getElem?_drop, List.getElem?_drop, padTo,
      List.getElem?_append_left (by rw [length_slice]; omega), slice,
      List.getElem?_take_of_lt (by omega), List.getElem?_drop, Nat.add_assoc]
  next => rfl

/-- Two ranges of bytes that share none. -/
def Apart (firstOffset firstWidth secondOffset secondWidth : Nat) : Prop :=
  firstOffset + firstWidth ≤ secondOffset ∨ secondOffset + secondWidth ≤ firstOffset

theorem window_overwrite_apart {buffer bytes after : Bytes} {offset windowOffset width : Nat}
    (stored : overwrite buffer offset bytes = pure after)
    (apart : Apart windowOffset width offset bytes.length) :
    window windowOffset width after = window windowOffset width buffer := by
  obtain ⟨fits, rfl⟩ := overwrite_eq_pure stored
  apply window_congr
  intro i lower upper
  apply getElem?_overwrite fits
  rw [Apart] at apart
  omega

/-! ## Header stores -/

theorem writeHeader_cons {start : Nat} {buffer after : Bytes} {store : Store} {rest : List Store}
    (written : writeHeader start buffer (store :: rest) = pure after) :
    ∃ between, overwrite buffer (start + store.offset) store.bytes = pure between ∧
      writeHeader start between rest = pure after := by
  cases stored : overwrite buffer (start + store.offset) store.bytes with
  | error fault =>
      rw [writeHeader, stored] at written
      cases written
  | ok between =>
      rw [writeHeader, stored] at written
      exact ⟨between, rfl, written⟩

theorem length_writeHeader {start : Nat} {buffer after : Bytes} {stores : List Store}
    (written : writeHeader start buffer stores = pure after) : after.length = buffer.length := by
  induction stores generalizing buffer with
  | nil =>
      cases written
      rfl
  | cons store rest ih =>
      obtain ⟨between, stored, later⟩ := writeHeader_cons written
      rw [ih later, length_overwrite stored]

theorem window_writeHeader_apart (offset width : Nat) {start : Nat} {buffer after : Bytes}
    {stores : List Store} (written : writeHeader start buffer stores = pure after)
    (apart : ∀ store ∈ stores, Apart offset width store.offset store.bytes.length) :
    window (start + offset) width after = window (start + offset) width buffer := by
  induction stores generalizing buffer with
  | nil =>
      cases written
      rfl
  | cons store rest ih =>
      obtain ⟨between, stored, later⟩ := writeHeader_cons written
      rw [ih later fun other member => apart other (List.mem_cons_of_mem _ member)]
      apply window_overwrite_apart stored
      have here := apart store List.mem_cons_self
      rw [Apart] at here ⊢
      omega

/-- A store that no later one overlaps is what the header holds. -/
theorem window_writeHeader {start : Nat} {buffer after : Bytes} {front back : List Store}
    {store : Store} (written : writeHeader start buffer (front ++ store :: back) = pure after)
    (apart : ∀ other ∈ back, Apart store.offset store.bytes.length other.offset other.bytes.length) :
    window (start + store.offset) store.bytes.length after = store.bytes ∧
      start + store.offset + store.bytes.length ≤ buffer.length := by
  induction front generalizing buffer with
  | nil =>
      obtain ⟨between, stored, later⟩ := writeHeader_cons written
      rw [window_writeHeader_apart _ _ later apart]
      exact ⟨window_overwrite_self stored, (overwrite_eq_pure stored).1⟩
  | cons first rest ih =>
      obtain ⟨between, stored, later⟩ := writeHeader_cons written
      obtain ⟨held, inside⟩ := ih later
      exact ⟨held, by rwa [length_overwrite stored] at inside⟩

theorem writePackets_succ {stores : Nat → List Store} {blocksize x : Nat} {payload after : Bytes}
    (written : writePackets stores blocksize (x + 1) payload = pure after) :
    ∃ between, writePackets stores blocksize x payload = pure between ∧
      writeHeader (x * blocksize) between (stores x) = pure after := by
  cases earlier : writePackets stores blocksize x payload with
  | error fault =>
      rw [writePackets, earlier] at written
      cases written
  | ok between =>
      rw [writePackets, earlier] at written
      exact ⟨between, rfl, written⟩

theorem length_writePackets {stores : Nat → List Store} {blocksize packets : Nat}
    {payload after : Bytes} (written : writePackets stores blocksize packets payload = pure after) :
    after.length = payload.length := by
  induction packets generalizing after with
  | zero =>
      cases written
      rfl
  | succ x ih =>
      obtain ⟨between, earlier, last⟩ := writePackets_succ written
      rw [length_writeHeader last, ih earlier]

/-- What the header of one packet holds after all headers of the block are written. -/
theorem window_writePackets {stores : Nat → List Store} {blocksize packets : Nat}
    {payload after : Bytes} (large : rawPacketSize ≤ blocksize)
    (written : writePackets stores blocksize packets payload = pure after) {x : Nat}
    (packet : x < packets) {front back : List Store} {store : Store}
    (split : stores x = front ++ store :: back)
    (apart : ∀ other ∈ back, Apart store.offset store.bytes.length other.offset other.bytes.length) :
    window (x * blocksize + store.offset) store.bytes.length after = store.bytes ∧
      x * blocksize + store.offset + store.bytes.length ≤ after.length := by
  induction packets generalizing after with
  | zero => omega
  | succ last ih =>
      obtain ⟨between, earlier, final⟩ := writePackets_succ written
      rw [length_writeHeader final]
      by_cases here : x = last
      · subst here
        rw [split] at final
        exact window_writeHeader final apart
      · obtain ⟨held, inside⟩ := ih earlier (by omega)
        refine ⟨(window_congr ?_).trans held, inside⟩
        intro i lower upper
        apply writeHeader_outside final
        -- the header of packet `x` lies in front of the one of a later packet
        have within := store.within
        have blocks : (x + 1) * blocksize ≤ last * blocksize := Nat.mul_le_mul_right _ (by omega)
        rw [Nat.succ_mul] at blocks
        omega

/-! ## Through the encoder -/

theorem bind_eq_pure {α β : Type} {first : Outcome α} {next : α → Outcome β} {result : β}
    (ran : first >>= next = pure result) :
    ∃ value, first = pure value ∧ next value = pure result := by
  cases first with
  | error fault => cases ran
  | ok value => exact ⟨value, rfl, ran⟩

theorem quotient_eq_pure {dividend divisor result : Nat}
    (ran : quotient dividend divisor = pure result) :
    0 < divisor ∧ result = dividend / divisor := by
  by_cases zero : divisor = 0
  · rw [quotient, if_pos zero] at ran
    cases ran
  · rw [quotient, if_neg zero] at ran
    cases ran
    exact ⟨Nat.pos_of_ne_zero zero, rfl⟩

theorem require_eq_pure {condition : Prop} [Decidable condition] {fault : Fault}
    (ran : require condition fault = pure ()) : condition := by
  by_contra fails
  rw [require, if_neg fails] at ran
  cases ran

/-- The data shards of an encoded block. -/
theorem encode_data {moonlight : Moonlight} {payload : Bytes} {blocksize fecPercentage : Nat}
    {minParityShards : Int} {shards : FecShards}
    (ran : encode moonlight payload blocksize fecPercentage minParityShards = pure shards) :
    shards.dataShards = cover payload.length blocksize ∧
      ∃ parity, shards.shards = plainShards blocksize payload ++ parity := by
  rw [encode] at ran
  obtain ⟨rest, remains, ran⟩ := bind_eq_pure ran
  obtain ⟨aligned, whole, ran⟩ := bind_eq_pure ran
  obtain ⟨positive, rfl⟩ := quotient_eq_pure whole
  rw [remainder_of_pos positive] at remains
  obtain rfl := Except.ok.inj remains
  dsimp only at ran
  obtain ⟨⟨parity, percentage⟩, -, ran⟩ := bind_eq_pure ran
  obtain ⟨buffer, -, ran⟩ := bind_eq_pure ran
  obtain ⟨nrShards, -, ran⟩ := bind_eq_pure ran
  obtain ⟨_, -, ran⟩ := bind_eq_pure ran
  have pad : (payload.length % blocksize != 0).toNat =
      if payload.length % blocksize ≠ 0 then 1 else 0 := by
    by_cases none : payload.length % blocksize = 0 <;> simp [none]
  have counted := cover_eq_div_add positive payload.length
  rw [← pad] at counted
  rw [dataShardsOf_eq positive] at ran
  dsimp only at ran
  split at ran
  next =>
    obtain ⟨_, -, ran⟩ := bind_eq_pure ran
    obtain rfl := Except.ok.inj ran
    exact ⟨counted, _, rfl⟩
  next =>
    obtain rfl := Except.ok.inj ran
    exact ⟨counted, [], (List.append_nil _).symm⟩

theorem writeShards_cons {stores : Nat → List Store} {x : Nat} {shard : Bytes}
    {rest after : List Bytes} (written : writeShards stores x (shard :: rest) = pure after) :
    ∃ first later, after = first :: later ∧ writeHeader 0 shard (stores x) = pure first ∧
      writeShards stores (x + 1) rest = pure later := by
  rw [writeShards] at written
  obtain ⟨first, here, written⟩ := bind_eq_pure written
  obtain ⟨later, there, written⟩ := bind_eq_pure written
  exact ⟨first, later, (Except.ok.inj written).symm, here, there⟩

theorem getElem?_writeShards {stores : Nat → List Store} {x : Nat} {shards after : List Bytes}
    (written : writeShards stores x shards = pure after) (i : Nat) {stored : Bytes}
    (there : after[i]? = some stored) :
    ∃ shard, shards[i]? = some shard ∧ writeHeader 0 shard (stores (x + i)) = pure stored := by
  induction shards generalizing x after i with
  | nil =>
      cases written
      simp at there
  | cons shard rest ih =>
      obtain ⟨first, later, rfl, here, others⟩ := writeShards_cons written
      cases i with
      | zero =>
          obtain rfl := Option.some.inj there
          exact ⟨shard, rfl, here⟩
      | succ i =>
          obtain ⟨source, found, header⟩ := ih others i there
          exact ⟨source, found, by rwa [Nat.add_right_comm, Nat.add_assoc] at header⟩

theorem length_writeShards {stores : Nat → List Store} {x : Nat} {shards after : List Bytes}
    (written : writeShards stores x shards = pure after) : after.length = shards.length := by
  induction shards generalizing x after with
  | nil =>
      cases written
      rfl
  | cons shard rest ih =>
      obtain ⟨first, later, rfl, -, others⟩ := writeShards_cons written
      rw [List.length_cons, ih others, List.length_cons]

/-! ## Numbers in the header -/

def ofLittle : Bytes → Nat
  | [] => 0
  | byte :: rest => byte.toNat + 256 * ofLittle rest

def ofBig (bytes : Bytes) : Nat := ofLittle bytes.reverse

theorem length_little (width value : Nat) : (little width value).length = width := by
  rw [little, List.length_map, List.length_range]

theorem length_big (width value : Nat) : (big width value).length = width := by
  rw [big, List.length_reverse, length_little]

theorem little_succ (width value : Nat) :
    little (width + 1) value = UInt8.ofNat value :: little width (value / 256) := by
  rw [little, little, List.range_succ_eq_map, List.map_cons, List.map_map, Nat.pow_zero, Nat.div_one]
  congr 1
  apply List.map_congr_left
  intro place _
  rw [Function.comp_apply, Nat.succ_eq_add_one, Nat.pow_succ', Nat.div_div_eq_div_mul]

theorem ofLittle_little (width value : Nat) : ofLittle (little width value) = value % 256 ^ width := by
  induction width generalizing value with
  | zero => rw [Nat.pow_zero, Nat.mod_one]; rfl
  | succ width ih =>
      rw [little_succ, ofLittle, ih, Nat.pow_succ', Nat.mod_mul, UInt8.toNat_ofNat']

theorem ofBig_big (width value : Nat) : ofBig (big width value) = value % 256 ^ width := by
  rw [ofBig, big, List.reverse_reverse, ofLittle_little]

theorem ofLittle_lt (bytes : Bytes) : ofLittle bytes < 256 ^ bytes.length := by
  induction bytes with
  | nil => exact Nat.one_pos
  | cons byte rest ih =>
      have here := byte.toNat_lt
      rw [ofLittle, List.length_cons, Nat.pow_succ']
      omega

/-- The members of a packet header that number the shard lie apart from the others. -/
structure PacketLayout (moonlight : Moonlight) : Prop where
  sequenceWidth : moonlight.sequenceNumber.width = 2
  indexWidth : moonlight.streamPacketIndex.width = 4
  sequenceApart : ∀ field ∈ [moonlight.timestamp, moonlight.multiFecBlocks, moonlight.frameIndex],
    Apart moonlight.sequenceNumber.offset 2 field.offset field.width
  indexApart : ∀ field ∈ [moonlight.rtpHeader, moonlight.sequenceNumber, moonlight.timestamp,
      moonlight.frameIndex, moonlight.flags, moonlight.multiFecFlags, moonlight.multiFecBlocks,
      moonlight.fecInfo],
    Apart moonlight.streamPacketIndex.offset 4 field.offset field.width

instance {firstOffset firstWidth secondOffset secondWidth : Nat} :
    Decidable (Apart firstOffset firstWidth secondOffset secondWidth) :=
  inferInstanceAs (Decidable (_ ∨ _))

theorem packetLayout_moonlightCommon : PacketLayout moonlightCommon where
  sequenceWidth := rfl
  indexWidth := rfl
  sequenceApart := by decide
  indexApart := by decide

/-- `rtp.sequenceNumber` of a shard. -/
def sequenceNumberOf (moonlight : Moonlight) (shard : Bytes) : Nat :=
  ofBig (window moonlight.sequenceNumber.offset moonlight.sequenceNumber.width shard)

/-- `packet.streamPacketIndex` of a shard. -/
def streamPacketIndexOf (moonlight : Moonlight) (shard : Bytes) : Nat :=
  ofLittle (window moonlight.streamPacketIndex.offset moonlight.streamPacketIndex.width shard)

end UmbraHost.Stream
