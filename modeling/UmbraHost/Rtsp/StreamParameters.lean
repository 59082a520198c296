import UmbraHost.Rtsp.Announce
import UmbraHost.Stream.FecBudget
import UmbraHost.Transition.Fallible

/-! # Announced parameters in the sender

What the parser admits, against what the packetization divides by, subtracts
from and indexes with. -/

namespace UmbraHost.Rtsp

open UmbraHost.Stream Slices UmbraHost.Transition

/-- An exception is defined behaviour; every other fault is not. -/
def ArithmeticDefined (outcome : Outcome PacketizedFrame) : Prop :=
  ∀ fault, outcome = throw fault → fault = .thrown

theorem arithmeticDefined_pure (result : PacketizedFrame) : ArithmeticDefined (pure result) :=
  fun _ ended => nomatch ended

theorem arithmeticDefined_throw {fault : Fault} : ArithmeticDefined (throw fault) ↔
    fault = .thrown := by
  constructor
  · exact fun defined => defined fault rfl
  · rintro rfl fault ended
    cases ended
    rfl

/-- Every frame that a session sends under the setting is packetized with defined
arithmetic. -/
def FramesDefined (moonlight : Moonlight) (config : SessionConfig) (fecPercentage : Nat) : Prop :=
  ∀ (host : HostConfig) (lowseq : Nat) (frame : VideoFrame), host.fecPercentage = fecPercentage →
    frame.header.length = frameHeaderSize →
    ArithmeticDefined (packetizeFrame moonlight config host lowseq frame)

/-- A packet holds payload, the shards of a block fit an `int`, and the minimum is
not the one whose shard pointers are one short. -/
def SafeParameters (fecPercentage : Nat) (packetsize minRequiredFecPackets : Int) : Prop :=
  17 ≤ packetsize ∧
    maxDataShardsPerFecBlock fecPercentage * (packetsize + maxRtpHeaderSize) < 2 ^ 31 ∧
    (minRequiredFecPackets = -1 → packetsize = 17)

instance (fecPercentage : Nat) (packetsize minRequiredFecPackets : Int) :
    Decidable (SafeParameters fecPercentage packetsize minRequiredFecPackets) :=
  inferInstanceAs (Decidable (_ ∧ _))

variable (moonlight : Moonlight) {config : SessionConfig} {fecPercentage : Nat}

/-! ## Safe parameters -/

theorem framesDefined_of_safe (bound : fecPercentage ≤ 255)
    (safe : SafeParameters fecPercentage config.packetsize config.minRequiredFecPackets) :
    FramesDefined moonlight config fecPercentage := by
  obtain ⟨size, fits, aligned⟩ := safe
  obtain ⟨positive, -, block⟩ := payloadBlocksize_eq size
  rw [block, ← Int.natCast_mul] at fits
  rintro host lowseq frame rfl header
  by_cases usable : 0 ≤ config.minRequiredFecPackets ∨ framePercentage config.payloadBlocksize
      host.fecPercentage (frameHeaderSize + frame.payload.length) = 0
  · obtain ⟨result, ran, -⟩ :=
      packetizeFrame_run moonlight config host lowseq frame size bound header (by omega) usable
    rw [ran]
    exact arithmeticDefined_pure result
  · rw [packetizeFrame_negative moonlight config host lowseq frame size bound header (by omega)
      (by omega) (by omega), if_neg ?_]
    · exact arithmeticDefined_throw.mpr rfl
    · rintro ⟨minimum, -, unaligned⟩
      -- One payload byte in a packet leaves no packet to pad.
      have single : config.payloadBlocksize = 1 := by
        rw [SessionConfig.payloadBlocksize, aligned minimum]
        rfl
      apply unaligned
      rw [single, insertedSize, cover, Nat.sub_self, Nat.add_zero, Nat.div_one, ← Nat.mul_succ]
      exact Nat.mul_mod_left ..

/-! ## The other parameters -/

/-- A frame of nothing but its header and, when `length` is set, one byte. -/
def shortFrame (length : Nat) : VideoFrame where
  frameIndex := 1
  timestamp := 0
  header := zeros frameHeaderSize
  payload := zeros length

theorem packetizeFrame_wrapped (host : HostConfig) (lowseq : Nat) (frame : VideoFrame)
    (small : config.packetsize < videoPacketSize) :
    packetizeFrame moonlight config host lowseq frame = throw .wrapped := by
  rw [packetizeFrame, sizeDifference, if_pos small]
  rfl

theorem packetizeFrame_zeroDivisor (host : HostConfig) (lowseq : Nat) (frame : VideoFrame)
    (empty : config.packetsize = videoPacketSize) :
    packetizeFrame moonlight config host lowseq frame = throw .zeroDivisor := by
  rw [packetizeFrame, sizeDifference, empty]
  rfl

/-- A frame of one block that no packet size above 17 divides. -/
theorem shortFrame_unaligned {sliceSize : Nat} (large : 2 ≤ sliceSize) (bound : fecPercentage ≤ 255) :
    ∃ length, blocksWanted sliceSize fecPercentage (frameHeaderSize + length) = 1 ∧
      insertedSize sliceSize (frameHeaderSize + length) % (rawPacketSize + sliceSize) ≠ 0 := by
  have shards := maxDataShards_lower bound
  obtain ⟨length, short, rest⟩ : ∃ length ≤ 1, (frameHeaderSize + length) % sliceSize ≠ 0 := by
    by_cases divides : frameHeaderSize % sliceSize = 0
    · refine ⟨1, Nat.le_refl 1, ?_⟩
      rw [Nat.add_mod, divides, Nat.zero_add, Nat.mod_mod, Nat.mod_eq_of_lt (by omega)]
      decide
    · exact ⟨0, by omega, divides⟩
  have nonempty : 0 < frameHeaderSize + length := by
    rw [frameHeaderSize]
    omega
  have positive : 0 < sliceSize := by omega
  obtain ⟨before, packets, lower, upper⟩ := insertedSize_bounds positive nonempty
  have size : insertedSize sliceSize (frameHeaderSize + length) =
      before * rawPacketSize + rawPacketSize + (frameHeaderSize + length) := by
    rw [insertedSize, packets, Nat.succ_mul]
  refine ⟨length, ?_, ?_⟩
  · have twice : before * 2 ≤ before * sliceSize := Nat.mul_le_mul_left _ large
    have few : before + 1 ≤ maxDataShardsPerFecBlock fecPercentage := by
      rw [size, Nat.mul_add, frameHeaderSize] at lower
      omega
    have enough := Nat.mul_le_mul_right (rawPacketSize + sliceSize) few
    apply cover_unique <;> omega
  · intro aligned
    have split := Nat.div_add_mod (insertedSize sliceSize (frameHeaderSize + length))
      (rawPacketSize + sliceSize)
    rw [aligned, Nat.add_zero, Nat.mul_comm] at split
    have above : before < insertedSize sliceSize (frameHeaderSize + length) /
        (rawPacketSize + sliceSize) := by
      apply Nat.lt_of_mul_lt_mul_right (a := rawPacketSize + sliceSize)
      omega
    have all := Nat.mul_le_mul_right (rawPacketSize + sliceSize) above
    have whole : (before + 1) * sliceSize = frameHeaderSize + length := by
      rw [Nat.succ_mul, Nat.mul_add] at all upper
      rw [Nat.succ_mul]
      omega
    rw [← whole, Nat.mul_mod_left] at rest
    exact rest rfl

theorem safe_of_framesDefined (used : 0 < fecPercentage) (bound : fecPercentage ≤ 255)
    (defined : FramesDefined moonlight config fecPercentage) :
    SafeParameters fecPercentage config.packetsize config.minRequiredFecPackets := by
  have sends (length : Nat) {fault : Fault}
      (ran : packetizeFrame moonlight config { fecPercentage, pacingBps := 0, maxBatchSize := 0 } 0
        (shortFrame length) = throw fault) : fault = .thrown :=
    defined _ 0 (shortFrame length) rfl (length_zeros frameHeaderSize) fault ran
  have size : 17 ≤ config.packetsize := by
    by_contra small
    by_cases empty : config.packetsize = videoPacketSize
    · exact absurd (sends 0 (packetizeFrame_zeroDivisor moonlight _ 0 _ empty)) (by decide)
    · have below : config.packetsize < videoPacketSize := by
        rw [videoPacketSize] at *
        omega
      exact absurd (sends 0 (packetizeFrame_wrapped moonlight _ 0 _ below)) (by decide)
  have fits : maxDataShardsPerFecBlock fecPercentage * (config.packetsize + maxRtpHeaderSize) <
      2 ^ 31 := by
    by_contra big
    exact absurd (sends 0 (packetizeFrame_overflow moonlight config _ 0 _ size
      (length_zeros frameHeaderSize) (Int.not_lt.mp big))) (by decide)
  refine ⟨size, fits, ?_⟩
  intro minimum
  by_contra larger
  obtain ⟨positive, -, block⟩ := payloadBlocksize_eq size
  have large : 2 ≤ config.payloadBlocksize := by
    rw [rawPacketSize, maxRtpHeaderSize] at block
    omega
  have inside : maxDataShardsPerFecBlock fecPercentage *
      (rawPacketSize + config.payloadBlocksize) < 2 ^ 31 := by
    rw [block, ← Int.natCast_mul] at fits
    omega
  obtain ⟨length, single, unaligned⟩ := shortFrame_unaligned large bound
  have payload : (shortFrame length).payload.length = length := length_zeros length
  have percentage : framePercentage config.payloadBlocksize fecPercentage
      (frameHeaderSize + length) = fecPercentage := by
    rw [framePercentage, single]
    rfl
  have count : blockCount config.payloadBlocksize fecPercentage (frameHeaderSize + length) = 1 := by
    rw [blockCount, single]
    rfl
  have ran := packetizeFrame_negative moonlight config
    { fecPercentage, pacingBps := 0, maxBatchSize := 0 } 0 (shortFrame length) size bound
    (length_zeros frameHeaderSize) inside (by rw [payload, percentage]; exact used)
    (by omega)
  rw [payload, if_pos ⟨minimum, count, unaligned⟩] at ran
  exact absurd (sends length ran) (by decide)

/-! ## ANNOUNCE -/

theorem cmdAnnounce_ok {host : AnnounceHost} {payload : Text}
    (accepted : cmdAnnounce host payload = pure config) {packetsize minRequiredFecPackets : Int}
    (size : argsAt payload "x-nv-video[0].packetSize" = pure packetsize)
    (minimum : argsAt payload "x-nv-vqos[0].fec.minRequiredFecPackets" =
      pure minRequiredFecPackets) :
    config.packetsize = limitPacketsize host.packetsize (toInt packetsize) ∧
      config.minRequiredFecPackets = toInt minRequiredFecPackets := by
  obtain ⟨_, -, accepted⟩ := ok_of_bind accepted
  rw [size, pure_bind, minimum, pure_bind] at accepted
  obtain ⟨_, -, accepted⟩ := ok_of_bind accepted
  obtain ⟨_, -, accepted⟩ := ok_of_bind accepted
  obtain ⟨_, -, accepted⟩ := ok_of_bind accepted
  obtain ⟨_, -, accepted⟩ := ok_of_bind accepted
  simp only at accepted
  split at accepted
  · cases accepted
  split at accepted
  · cases accepted
  split at accepted
  · cases accepted
  cases accepted
  exact ⟨rfl, rfl⟩

/-- A body with every attribute that has no default. -/
def announceBody (packetSize minRequiredFecPackets : String) : Text :=
  [("x-nv-video[0].packetSize", packetSize),
    ("x-nv-vqos[0].fec.minRequiredFecPackets", minRequiredFecPackets),
    ("x-nv-audio.surround.numChannels", "2"), ("x-nv-audio.surround.channelMask", "3"),
    ("x-nv-audio.surround.AudioQuality", "0"), ("x-nv-video[0].clientViewportHt", "1080"),
    ("x-nv-video[0].clientViewportWd", "1920"), ("x-nv-video[0].maxFPS", "60"),
    ("x-nv-vqos[0].bw.maximumBitrateKbps", "20000"),
    ("x-nv-video[0].videoEncoderSlicesPerFrame", "1"),
    ("x-nv-video[0].maxNumReferenceFrames", "1")].flatMap fun (name, val) =>
      "a=".toList ++ name.toList ++ ":".toList ++ val.toList ++ " \r\n".toList

def defaultHost : AnnounceHost where
  packetsize := 0
  hevcMode := 0
  av1Mode := 0
  acceptsEncryption _ _ := true

end UmbraHost.Rtsp
