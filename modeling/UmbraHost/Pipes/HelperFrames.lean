import UmbraHost.Pipes.Frames

/-! # The display helper reads a frame

`parse_frame` of `display_settings_helper_v2.cpp` takes a frame with or without a length
prefix.  The sum in its bound is one of 32 bits. -/

namespace UmbraHost.Pipes

/-- A part of the frame; the empty span has no place in it. -/
structure Span where
  start : Nat
  length : Nat
deriving DecidableEq

def Span.Inside (span : Span) (frame : Bytes) : Prop := span.start + span.length ≤ frame.length

instance (span : Span) (frame : Bytes) : Decidable (span.Inside frame) :=
  inferInstanceAs (Decidable (_ ≤ _))

/-- The length prefix of a frame of five bytes at least, with the type after it. -/
def prefixOf : Bytes → Option (Nat × UInt8)
  | b0 :: b1 :: b2 :: b3 :: type :: _ => some (prefixedLength b0 b1 b2 b3, type)
  | _ => none

def parseFrame (frame : Bytes) : Option (UInt8 × Span) :=
  match frame with
  | [] => none
  | first :: rest =>
    match prefixOf frame with
    | none => some (first, ⟨1, rest.length⟩)
    | some (len, type) =>
      if 0 < len ∧ (4 + len) % 4294967296 ≤ frame.length then
        some (type, if 1 < len then ⟨5, len - 1⟩ else ⟨0, 0⟩)
      else some (first, ⟨1, rest.length⟩)

/-- The prefix is so large that the sum wraps around, and the frame is not that long. -/
def Overstated (frame : Bytes) : Prop :=
  ∃ len type, prefixOf frame = some (len, type) ∧ 4294967292 ≤ len ∧ frame.length < 4 + len

theorem prefixOf_eq_some {frame : Bytes} {len : Nat} {type : UInt8}
    (found : prefixOf frame = some (len, type)) : 5 ≤ frame.length ∧ len < 4294967296 := by
  unfold prefixOf at found
  split at found
  case h_1 b0 b1 b2 b3 _ _ =>
    cases found
    simp only [List.length_cons]
    exact ⟨by omega, prefixedLength_lt b0 b1 b2 b3⟩
  case h_2 => cases found

/-- The payload of every accepted frame lies in the frame exactly where the prefix is not
overstated. -/
theorem parseFrame_inside_iff (frame : Bytes) :
    (∀ type payload, parseFrame frame = some (type, payload) → payload.Inside frame) ↔
      ¬ Overstated frame := by
  constructor
  · rintro inside ⟨len, type, found, large, short⟩
    obtain ⟨size, word⟩ := prefixOf_eq_some found
    have accepted : parseFrame frame = some (type, ⟨5, len - 1⟩) := by
      unfold parseFrame
      cases frame with
      | nil => cases found
      | cons first rest =>
          have wrapped : (4 + len) % 4294967296 ≤ (first :: rest).length := by omega
          simp only [found]
          rw [if_pos ⟨by omega, wrapped⟩, if_pos (by omega)]
    have bound : 5 + (len - 1) ≤ frame.length := inside type ⟨5, len - 1⟩ accepted
    omega
  · intro stated type payload accepted
    unfold parseFrame at accepted
    split at accepted
    case h_1 => cases accepted
    case h_2 first rest =>
      have bare : Span.Inside ⟨1, rest.length⟩ (first :: rest) := by
        simp only [Span.Inside, List.length_cons]
        omega
      split at accepted
      case h_1 =>
        cases accepted
        exact bare
      case h_2 len type' found =>
        obtain ⟨size, word⟩ := prefixOf_eq_some found
        split at accepted
        case isFalse =>
          cases accepted
          exact bare
        case isTrue bounded =>
          have honest : ¬ (4294967292 ≤ len ∧ (first :: rest).length < 4 + len) :=
            fun ⟨large, short⟩ => stated ⟨len, type', found, large, short⟩
          obtain ⟨positive, sum⟩ := bounded
          cases accepted
          unfold Span.Inside
          split
          case isTrue => dsimp only; omega
          case isFalse => exact Nat.zero_le _

/-- A frame of five bytes gets a payload of almost 4 GiB. -/
theorem parseFrame_overstated :
    parseFrame [0xFF, 0xFF, 0xFF, 0xFF, 1] = some (1, ⟨5, 4294967294⟩) ∧
      ¬ ∀ type payload, parseFrame [0xFF, 0xFF, 0xFF, 0xFF, 1] = some (type, payload) →
        payload.Inside [0xFF, 0xFF, 0xFF, 0xFF, 1] := by
  have parsed : parseFrame [0xFF, 0xFF, 0xFF, 0xFF, 1] = some (1, ⟨5, 4294967294⟩) := by
    decide +kernel
  exact ⟨parsed, fun inside => absurd (inside _ _ parsed) (by decide +kernel)⟩

end UmbraHost.Pipes
