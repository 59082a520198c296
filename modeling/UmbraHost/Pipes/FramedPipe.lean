import UmbraHost.Pipes.Frames
import UmbraHost.Transition.Run

/-! # Receiving frames

`FramedPipe` over a pipe that it reads in pieces.  The pieces stand for those of any pipe below;
over a reliable byte stream every frame arrives that the decoder takes for one. -/

namespace UmbraHost.Pipes

open UmbraHost.Transition

inductive PipeResult where
  | success | timeout | disconnected | brokenPipe | error
deriving DecidableEq

/-! ## `FramedPipe::receive` -/

structure Received (Pipe : Type u) where
  result : PipeResult
  payload : Bytes
  rxbuf : Bytes
  inner : Pipe

section Receive

variable {Pipe : Type u} {Input : Type v} (read : Input → Pipe → PipeResult × Bytes × Pipe)
  (capacity : Nat)

/-- One more look at the buffer before a result is returned. -/
def decodeOr (result : PipeResult) (rxbuf : Bytes) (inner : Pipe) : Received Pipe :=
  match tryDecodeOneFrame capacity rxbuf with
  | (some payload, rxbuf) => ⟨.success, payload, rxbuf, inner⟩
  | (none, rxbuf) => ⟨result, [], rxbuf, inner⟩

/-- The loop over the reads of the pipe below; reads that have run out are a timeout. -/
def receiveLoop : List Input → Bytes → Pipe → Received Pipe
  | [], rxbuf, inner => decodeOr capacity .timeout rxbuf inner
  | input :: inputs, rxbuf, inner =>
    match read input inner with
    | (.success, bytes, inner) =>
      if bytes = [] then ⟨.disconnected, [], rxbuf, inner⟩
      else
        match tryDecodeOneFrame capacity (rxbuf ++ bytes) with
        | (some payload, rxbuf) => ⟨.success, payload, rxbuf, inner⟩
        | (none, rxbuf) => receiveLoop inputs rxbuf inner
    | (.timeout, _, inner) => decodeOr capacity .timeout rxbuf inner
    | (result, _, inner) => ⟨result, [], rxbuf, inner⟩

def receive (inputs : List Input) (rxbuf : Bytes) (inner : Pipe) : Received Pipe :=
  match tryDecodeOneFrame capacity rxbuf with
  | (some payload, rxbuf) => ⟨.success, payload, rxbuf, inner⟩
  | (none, rxbuf) => receiveLoop read capacity inputs rxbuf inner

/-- How many bytes the reads yield one after another. -/
def gathered : List Input → Pipe → Nat
  | [], _ => 0
  | input :: inputs, inner =>
    match read input inner with
    | (.success, bytes, inner) => if bytes = [] then 0 else bytes.length + gathered inputs inner
    | _ => 0

variable (wire : Pipe → Bytes)

/-- A read takes from the front of the wire just what it returns. -/
def Faithful (input : Input) (inner : Pipe) : Prop :=
  if (read input inner).1 = .success then
    wire inner = (read input inner).2.1 ++ wire (read input inner).2.2
  else wire (read input inner).2.2 = wire inner

variable {read capacity wire} {inputs : List Input} {rxbuf payload more : Bytes} {inner : Pipe}

/-- The payload was returned and the rest is left. -/
structure Took (wire : Pipe → Bytes) (payload more : Bytes) (received : Received Pipe) :
    Prop where
  result : received.result = .success
  payload : received.payload = payload
  left : received.rxbuf ++ wire received.inner = more

/-- Nothing was returned and everything is left. -/
structure Waits (wire : Pipe → Bytes) (stream : Bytes) (received : Received Pipe) : Prop where
  result : received.result ≠ .success
  left : received.rxbuf ++ wire received.inner = stream

theorem receiveLoop_spec (framed : Framed payload)
    (faithful : ∀ input ∈ inputs, ∀ inner, Faithful read wire input inner)
    (stream : rxbuf ++ wire inner = frame payload ++ more)
    (undecoded : rxbuf.length < 4 + payload.length ∨ capacity < payload.length) :
    (payload.length ≤ capacity ∧ 4 + payload.length ≤ rxbuf.length + gathered read inputs inner →
      Took wire payload more (receiveLoop read capacity inputs rxbuf inner)) ∧
    (¬ (payload.length ≤ capacity ∧
        4 + payload.length ≤ rxbuf.length + gathered read inputs inner) →
      Waits wire (frame payload ++ more) (receiveLoop read capacity inputs rxbuf inner)) := by
  induction inputs generalizing rxbuf inner with
  | nil =>
      have none : tryDecodeOneFrame capacity rxbuf = (none, rxbuf) := by
        rw [tryDecodeOneFrame_of_stream capacity framed stream, if_pos undecoded]
      simp only [receiveLoop, decodeOr, none, gathered]
      exact ⟨fun arrives => by omega, fun _ => ⟨nofun, stream⟩⟩
  | cons input inputs ih =>
      have none : tryDecodeOneFrame capacity rxbuf = (none, rxbuf) := by
        rw [tryDecodeOneFrame_of_stream capacity framed stream, if_pos undecoded]
      have here := faithful input List.mem_cons_self inner
      have rest : ∀ other ∈ inputs, ∀ inner, Faithful read wire other inner :=
        fun other member => faithful other (List.mem_cons_of_mem _ member)
      unfold Faithful at here
      unfold receiveLoop gathered
      rcases reading : read input inner with ⟨result, bytes, next⟩
      rw [reading] at here
      cases result with
      | success =>
          simp only [if_true] at here
          by_cases empty : bytes = []
          · simp only [empty, if_true]
            rw [empty, List.nil_append] at here
            exact ⟨fun arrives => by omega, fun _ => ⟨nofun, here ▸ stream⟩⟩
          · have longer : (rxbuf ++ bytes) ++ wire next = frame payload ++ more := by
              rw [List.append_assoc, ← here, stream]
            have decoded := tryDecodeOneFrame_of_stream capacity framed longer
            simp only [if_neg empty]
            by_cases short : (rxbuf ++ bytes).length < 4 + payload.length ∨
                capacity < payload.length
            · rw [if_pos short] at decoded
              simp only [decoded]
              have later := ih rest longer short
              rw [List.length_append, Nat.add_assoc] at later
              exact later
            · rw [if_neg short] at decoded
              simp only [decoded]
              rw [List.length_append] at short
              refine ⟨fun _ => ⟨rfl, rfl, ?_⟩, fun stays => by omega⟩
              have dropped := congrArg (List.drop (4 + payload.length)) longer
              rw [List.drop_append_of_le_length (by rw [List.length_append]; omega),
                List.drop_left' (length_frame payload)] at dropped
              exact dropped
      | timeout =>
          simp only [reduceCtorEq, if_false] at here
          simp only [decodeOr, none]
          exact ⟨fun arrives => by omega, fun _ => ⟨nofun, here ▸ stream⟩⟩
      | disconnected | brokenPipe | error =>
          simp only [reduceCtorEq, if_false] at here
          dsimp only
          exact ⟨fun arrives => by omega, fun _ => ⟨nofun, here ▸ stream⟩⟩

variable (capacity) in
/-- A call on a stream that begins with a frame returns its payload just when it fits and has
arrived. -/
theorem receive_spec (framed : Framed payload)
    (faithful : ∀ input ∈ inputs, ∀ inner, Faithful read wire input inner)
    (stream : rxbuf ++ wire inner = frame payload ++ more) :
    (payload.length ≤ capacity ∧ 4 + payload.length ≤ rxbuf.length + gathered read inputs inner →
      Took wire payload more (receive read capacity inputs rxbuf inner)) ∧
    (¬ (payload.length ≤ capacity ∧
        4 + payload.length ≤ rxbuf.length + gathered read inputs inner) →
      Waits wire (frame payload ++ more) (receive read capacity inputs rxbuf inner)) := by
  have decoded := tryDecodeOneFrame_of_stream capacity framed stream
  unfold receive
  by_cases short : rxbuf.length < 4 + payload.length ∨ capacity < payload.length
  · rw [if_pos short] at decoded
    simp only [decoded]
    exact receiveLoop_spec framed faithful stream short
  · rw [if_neg short] at decoded
    simp only [decoded]
    refine ⟨fun _ => ⟨rfl, rfl, ?_⟩, fun stays => by omega⟩
    have dropped := congrArg (List.drop (4 + payload.length)) stream
    rw [List.drop_append_of_le_length (by omega), List.drop_left' (length_frame payload)] at dropped
    exact dropped

theorem receiveLoop_nil (faithful : ∀ input ∈ inputs, ∀ inner, Faithful read wire input inner)
    (empty : wire inner = []) : Waits wire [] (receiveLoop read capacity inputs [] inner) := by
  induction inputs generalizing inner with
  | nil => exact ⟨nofun, empty⟩
  | cons input inputs ih =>
      have here := faithful input List.mem_cons_self inner
      unfold Faithful at here
      unfold receiveLoop
      rcases reading : read input inner with ⟨result, bytes, next⟩
      rw [reading] at here
      cases result with
      | success =>
          simp only [if_true, empty, List.nil_eq_append_iff] at here
          simp only [here.1, if_true]
          exact ⟨nofun, here.2⟩
      | timeout | disconnected | brokenPipe | error =>
          simp only [reduceCtorEq, if_false] at here
          exact ⟨nofun, here.trans empty⟩

theorem inner_decodeOr (result : PipeResult) (rxbuf : Bytes) (inner : Pipe) :
    (decodeOr capacity result rxbuf inner).inner = inner := by
  unfold decodeOr
  split <;> rfl

/-- Invariant rule: what every read keeps of the pipe below, a call keeps. -/
theorem receiveLoop_preserves (invariant : Pipe → Prop)
    (kept : ∀ input ∈ inputs, ∀ inner, invariant inner → invariant (read input inner).2.2)
    (holds : invariant inner) :
    invariant (receiveLoop read capacity inputs rxbuf inner).inner := by
  induction inputs generalizing rxbuf inner with
  | nil =>
      rw [receiveLoop, inner_decodeOr]
      exact holds
  | cons input inputs ih =>
      have here := kept input List.mem_cons_self inner holds
      have rest : ∀ other ∈ inputs, ∀ inner, invariant inner → invariant (read other inner).2.2 :=
        fun other member => kept other (List.mem_cons_of_mem _ member)
      unfold receiveLoop
      rcases reading : read input inner with ⟨result, bytes, next⟩
      rw [reading] at here
      cases result with
      | success =>
          dsimp only
          split
          · exact here
          · split
            · exact here
            · exact ih rest here
      | timeout =>
          dsimp only
          rw [inner_decodeOr]
          exact here
      | disconnected | brokenPipe | error => exact here

theorem receive_preserves (invariant : Pipe → Prop)
    (kept : ∀ input ∈ inputs, ∀ inner, invariant inner → invariant (read input inner).2.2)
    (holds : invariant inner) : invariant (receive read capacity inputs rxbuf inner).inner := by
  unfold receive
  split
  · exact holds
  · exact receiveLoop_preserves invariant kept holds

/-- A call leaves no more on the wire than there was. -/
theorem length_wire_receive
    (faithful : ∀ input ∈ inputs, ∀ inner, Faithful read wire input inner) :
    (wire (receive read capacity inputs rxbuf inner).inner).length ≤ (wire inner).length := by
  refine receive_preserves (fun next => (wire next).length ≤ (wire inner).length) ?_
    (Nat.le_refl _)
  intro input member next shorter
  have here := faithful input member next
  unfold Faithful at here
  split at here
  case isTrue =>
    have sum := congrArg List.length here
    rw [List.length_append] at sum
    omega
  case isFalse =>
    rw [here]
    exact shorter

theorem framed_of_decodeOr {result : PipeResult} (other : result ≠ .success)
    (success : (decodeOr capacity result rxbuf inner).result = .success) :
    Framed (decodeOr capacity result rxbuf inner).payload := by
  unfold decodeOr at success ⊢
  split at success
  case h_1 payload left decoded => exact (framed_of_tryDecodeOneFrame decoded).1
  case h_2 => exact absurd success other

/-- A payload that is returned has the size of a frame, whatever was on the wire. -/
theorem framed_of_receiveLoop (success : (receiveLoop read capacity inputs rxbuf inner).result =
      .success) : Framed (receiveLoop read capacity inputs rxbuf inner).payload := by
  induction inputs generalizing rxbuf inner with
  | nil => exact framed_of_decodeOr nofun success
  | cons input inputs ih =>
      unfold receiveLoop at success ⊢
      rcases reading : read input inner with ⟨result, bytes, next⟩
      rw [reading] at success
      cases result with
      | success =>
          by_cases empty : bytes = []
          · simp only [empty, if_true] at success
            cases success
          · simp only [if_neg empty] at success ⊢
            split at success
            case h_1 payload left decoded => exact (framed_of_tryDecodeOneFrame decoded).1
            case h_2 left decoded => exact ih success
      | timeout => exact framed_of_decodeOr nofun success
      | disconnected | brokenPipe | error => cases success

theorem framed_of_receive (success : (receive read capacity inputs rxbuf inner).result = .success) :
    Framed (receive read capacity inputs rxbuf inner).payload := by
  unfold receive at success ⊢
  split at success
  case h_1 payload left decoded => exact (framed_of_tryDecodeOneFrame decoded).1
  case h_2 left decoded => exact framed_of_receiveLoop success

end Receive

end UmbraHost.Pipes
