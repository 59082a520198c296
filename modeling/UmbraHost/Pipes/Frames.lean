import Mathlib.Data.List.Basic

/-! # Frames of the named pipes

The length prefix that `FramedPipe` puts before a payload, and its decoder with the rule that
drops implausible bytes. -/

namespace UmbraHost.Pipes

abbrev Bytes := List UInt8

/-! ## The length prefix -/

/-- A length as a `uint32_t` in the memory of a little-endian machine. -/
def lengthPrefix (length : Nat) : Bytes :=
  [UInt8.ofNat length, UInt8.ofNat (length / 256), UInt8.ofNat (length / 65536),
    UInt8.ofNat (length / 16777216)]

def prefixedLength (b0 b1 b2 b3 : UInt8) : Nat :=
  b0.toNat + 256 * b1.toNat + 65536 * b2.toNat + 16777216 * b3.toNat

@[simp] theorem length_lengthPrefix (length : Nat) : (lengthPrefix length).length = 4 := rfl

theorem prefixedLength_lengthPrefix {length : Nat} (small : length < 4294967296) :
    prefixedLength (UInt8.ofNat length) (UInt8.ofNat (length / 256))
      (UInt8.ofNat (length / 65536)) (UInt8.ofNat (length / 16777216)) = length := by
  simp only [prefixedLength, UInt8.toNat_ofNat']
  omega

theorem prefixedLength_lt (b0 b1 b2 b3 : UInt8) : prefixedLength b0 b1 b2 b3 < 4294967296 := by
  have := b0.toNat_lt
  have := b1.toNat_lt
  have := b2.toNat_lt
  have := b3.toNat_lt
  simp only [prefixedLength]
  omega

/-! ## Encoding and decoding -/

/-- What `FramedPipe::send` writes. -/
def frame (payload : Bytes) : Bytes := lengthPrefix payload.length ++ payload

theorem length_frame (payload : Bytes) : (frame payload).length = 4 + payload.length := by
  simp [frame]

def kMaxFrameLen : Nat := 2 * 1024 * 1024

/-- The payloads that the decoder takes for frames. -/
def Framed (payload : Bytes) : Prop := 0 < payload.length ∧ payload.length ≤ kMaxFrameLen

instance (payload : Bytes) : Decidable (Framed payload) :=
  inferInstanceAs (Decidable (_ ∧ _))

/-- `try_decode_one_frame` into a buffer of the given size, and what is left of `_rxbuf`. -/
def tryDecodeOneFrame (capacity : Nat) : Bytes → Option Bytes × Bytes
  | b0 :: rest =>
    match rest with
    | b1 :: b2 :: b3 :: data =>
      let len := prefixedLength b0 b1 b2 b3
      if len = 0 ∨ kMaxFrameLen < len then tryDecodeOneFrame capacity rest
      else if data.length < len then (none, b0 :: rest)
      else if capacity < len then (none, b0 :: rest)
      else (some (data.take len), data.drop len)
    | _ => (none, b0 :: rest)
  | [] => (none, [])

/-- Whatever the decoder returns has the size of a frame and fits the buffer. -/
theorem framed_of_tryDecodeOneFrame {capacity : Nat} {buffer payload left : Bytes}
    (decoded : tryDecodeOneFrame capacity buffer = (some payload, left)) :
    Framed payload ∧ payload.length ≤ capacity := by
  induction buffer with
  | nil => cases decoded
  | cons b0 rest ih =>
      unfold tryDecodeOneFrame at decoded
      split at decoded
      case h_1 b1 b2 b3 data =>
        dsimp only at decoded
        split at decoded
        case isTrue => exact ih decoded
        case isFalse sized =>
          split at decoded
          case isTrue => cases decoded
          case isFalse complete =>
            split at decoded
            case isTrue => cases decoded
            case isFalse fits =>
              cases decoded
              simp only [Framed, List.length_take]
              omega
      case h_2 => cases decoded

/-- On the first part of a stream that begins with a frame, the decoder waits for all of the
frame and for a buffer that holds it. -/
theorem tryDecodeOneFrame_of_stream {payload buffer wire more : Bytes} (capacity : Nat)
    (framed : Framed payload) (stream : buffer ++ wire = frame payload ++ more) :
    tryDecodeOneFrame capacity buffer =
      if buffer.length < 4 + payload.length ∨ capacity < payload.length then (none, buffer)
      else (some payload, buffer.drop (4 + payload.length)) := by
  obtain ⟨some_, bounded⟩ := framed
  unfold kMaxFrameLen at bounded
  match buffer with
  | [] => simp [tryDecodeOneFrame]
  | [b0] | [b0, b1] | [b0, b1, b2] =>
      rw [if_pos (.inl (by simp only [List.length_cons, List.length_nil]; omega))]
      rfl
  | b0 :: b1 :: b2 :: b3 :: data =>
      simp only [frame, lengthPrefix, List.cons_append, List.nil_append, List.cons.injEq] at stream
      obtain ⟨rfl, rfl, rfl, rfl, follows⟩ := stream
      have len := prefixedLength_lengthPrefix (show payload.length < 4294967296 by omega)
      have sized : ¬ (payload.length = 0 ∨ kMaxFrameLen < payload.length) := by
        unfold kMaxFrameLen
        omega
      unfold tryDecodeOneFrame
      simp only [len, if_neg sized, List.length_cons]
      by_cases short : data.length < payload.length
      · rw [if_pos short, if_pos (.inl (by omega))]
      · rw [if_neg short]
        by_cases small : capacity < payload.length
        · rw [if_pos small, if_pos (.inr small)]
        · have taken : data.take payload.length = payload := by
            have front := congrArg (List.take payload.length) follows
            rwa [List.take_append_of_le_length (by omega), List.take_left'  rfl] at front
          rw [if_neg small, if_neg (by omega), taken, Nat.add_comm 4]
          rfl

end UmbraHost.Pipes
