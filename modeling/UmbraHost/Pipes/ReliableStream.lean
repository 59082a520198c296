import UmbraHost.Pipes.FramedPipe

/-! # Frames over a reliable byte stream

One end sends and the other receives over a pipe that keeps every byte in order. -/

namespace UmbraHost.Pipes.Reliable

open UmbraHost.Transition

/-- The bytes of a read, of at most `n` and of the size of the buffer; none is a timeout. -/
def readWire (n : Nat) (wire : Bytes) : PipeResult × Bytes × Bytes :=
  let bytes := wire.take (min n 65536)
  if bytes = [] then (.timeout, [], wire) else (.success, bytes, wire.drop (min n 65536))

structure State where
  wire : Bytes
  rxbuf : Bytes
  /-- The payloads for which `send` returned true. -/
  sent : List Bytes
  /-- The payloads that `receive` returned. -/
  received : List Bytes

def State.initial : State := ⟨[], [], [], []⟩

inductive Event where
  /-- `accepted` is what the pipe below returns. -/
  | send (payload : Bytes) (accepted : Bool)
  /-- A call with a buffer of the given size and the sizes of the reads below. -/
  | receive (capacity : Nat) (reads : List Nat)

def step (event : Event) (state : State) : State :=
  match event with
  | .send payload accepted =>
    if accepted then
      { state with wire := state.wire ++ frame payload, sent := state.sent ++ [payload] }
    else state
  | .receive capacity reads =>
    let call := Pipes.receive readWire capacity reads state.rxbuf state.wire
    { state with
      wire := call.inner
      rxbuf := call.rxbuf
      received :=
        if call.result = .success then state.received ++ [call.payload] else state.received }

/-- The bytes that the reads ask for up to the first timeout. -/
def budget : List Nat → Nat
  | [] => 0
  | n :: reads => if n = 0 then 0 else min n 65536 + budget reads

def reached (events : List Event) : State := run step events .initial

/-! ## What is asked of a state -/

def State.pending (state : State) : List Bytes := state.sent.drop state.received.length

/-- A call whose reads yield all that is on the wire. -/
def Call := Nat × List Nat

def Call.event (call : Call) : Event := .receive call.1 call.2

/-- What was returned is what was sent, in order, and calls with large enough buffers that read
what has arrived return the rest. -/
structure State.Exact (state : State) : Prop where
  inOrder : state.received <+: state.sent
  delivered : ∀ calls : List Call, calls.length ≤ state.pending.length →
    (∀ pair ∈ state.pending.zip calls, pair.1.length ≤ pair.2.1) →
    (∀ call ∈ calls, state.wire.length ≤ budget call.2) →
    (run step (calls.map Call.event) state).received =
      state.received ++ state.pending.take calls.length

/-! ## Frames that the decoder takes -/

variable {state : State}

theorem readWire_of_empty {n : Nat} {wire : Bytes} (empty : wire.take (min n 65536) = []) :
    readWire n wire = (.timeout, [], wire) := by
  rw [readWire, if_pos empty]

theorem readWire_of_some {n : Nat} {wire : Bytes} (some_ : wire.take (min n 65536) ≠ []) :
    readWire n wire = (.success, wire.take (min n 65536), wire.drop (min n 65536)) := by
  rw [readWire, if_neg some_]

theorem faithful_readWire (n : Nat) (wire : Bytes) : Faithful readWire id n wire := by
  unfold Faithful
  by_cases empty : wire.take (min n 65536) = []
  · rw [readWire_of_empty empty]
    rfl
  · rw [readWire_of_some empty, if_pos rfl]
    exact (List.take_append_drop _ _).symm

/-- Without a timeout before, the reads yield all they ask for that is there. -/
theorem gathered_readWire (reads : List Nat) (wire : Bytes) :
    gathered readWire reads wire = min (budget reads) wire.length := by
  induction reads generalizing wire with
  | nil => simp [gathered, budget]
  | cons n reads ih =>
      unfold gathered budget
      by_cases empty : wire.take (min n 65536) = []
      · have none := congrArg List.length empty
        rw [List.length_take, List.length_nil] at none
        rw [readWire_of_empty empty]
        by_cases zero : n = 0
        · rw [if_pos zero, Nat.zero_min]
        · rw [if_neg zero]
          dsimp only
          omega
      · have some_ := List.length_pos_iff.mpr empty
        rw [List.length_take] at some_
        simp only [readWire_of_some empty, if_neg empty, ih, List.length_take, List.length_drop]
        rw [if_neg (by omega)]
        omega

/-- The bytes on their way are the frames of the payloads that were not yet returned. -/
structure State.Carries (state : State) (pending : List Bytes) : Prop where
  sent : state.sent = state.received ++ pending
  bytes : state.rxbuf ++ state.wire = pending.flatMap frame
  framed : ∀ payload ∈ pending, Framed payload

theorem State.Carries.pending_eq {pending : List Bytes} (carries : state.Carries pending) :
    state.pending = pending := by
  rw [State.pending, carries.sent, List.drop_left]

theorem State.Carries.send {pending : List Bytes} (carries : state.Carries pending)
    {payload : Bytes} (framed : Framed payload) :
    (step (.send payload true) state).Carries (pending ++ [payload]) where
  sent := by simp [step, carries.sent]
  bytes := by
    simp only [step, if_true, List.flatMap_append, List.flatMap_singleton, ← carries.bytes,
      List.append_assoc]
  framed := fun other member => by
    rcases List.mem_append.mp member with old | new
    · exact carries.framed other old
    · exact List.mem_singleton.mp new ▸ framed

theorem State.Carries.receive_nil (carries : state.Carries []) (capacity : Nat)
    (reads : List Nat) : (step (.receive capacity reads) state).Carries [] := by
  obtain ⟨noBuffer, noWire⟩ := List.append_eq_nil_iff.mp carries.bytes
  have waits : Waits id [] (Pipes.receive readWire capacity reads state.rxbuf state.wire) := by
    rw [noBuffer]
    exact receiveLoop_nil (fun n _ wire => faithful_readWire n wire) noWire
  refine ⟨?_, waits.left, nofun⟩
  simp only [step, if_neg waits.result]
  exact carries.sent

/-- A call on the frame that comes first. -/
theorem State.Carries.receive_cons {payload : Bytes} {pending : List Bytes}
    (carries : state.Carries (payload :: pending)) (capacity : Nat) (reads : List Nat) :
    (step (.receive capacity reads) state).Carries (payload :: pending) ∨
      (step (.receive capacity reads) state).Carries pending := by
  have stream : state.rxbuf ++ id state.wire = frame payload ++ pending.flatMap frame :=
    carries.bytes
  obtain ⟨takes, waits⟩ := receive_spec capacity (carries.framed payload List.mem_cons_self)
    (fun n (_ : n ∈ reads) wire => faithful_readWire n wire) stream
  by_cases arrives : payload.length ≤ capacity ∧
      4 + payload.length ≤ state.rxbuf.length + gathered readWire reads state.wire
  · have took := takes arrives
    refine .inr ⟨?_, took.left, fun other member =>
      carries.framed other (List.mem_cons_of_mem _ member)⟩
    simp only [step, if_pos took.result, took.payload]
    rw [carries.sent, List.append_assoc]
    rfl
  · have waiting := waits arrives
    refine .inl ⟨?_, waiting.left, carries.framed⟩
    simp only [step, if_neg waiting.result]
    exact carries.sent

/-- A call with a large enough buffer that reads all that is on the wire. -/
theorem State.Carries.receive_large {payload : Bytes} {pending : List Bytes}
    (carries : state.Carries (payload :: pending)) {call : Call} (fits : payload.length ≤ call.1)
    (reads : state.wire.length ≤ budget call.2) :
    (step call.event state).Carries pending ∧
      (step call.event state).received = state.received ++ [payload] ∧
      (step call.event state).wire.length ≤ state.wire.length := by
  have stream : state.rxbuf ++ id state.wire = frame payload ++ pending.flatMap frame :=
    carries.bytes
  have arrived := congrArg List.length stream
  rw [List.length_append, List.length_append, length_frame, id] at arrived
  have faithful : ∀ n ∈ call.2, ∀ wire, Faithful readWire id n wire :=
    fun n _ wire => faithful_readWire n wire
  have took := (receive_spec call.1 (carries.framed payload List.mem_cons_self) faithful stream).1
    ⟨fits, by rw [gathered_readWire]; omega⟩
  have received : (step call.event state).received = state.received ++ [payload] := by
    simp only [step, Call.event, if_pos took.result, took.payload]
  refine ⟨⟨?_, took.left, fun other member =>
    carries.framed other (List.mem_cons_of_mem _ member)⟩, received, ?_⟩
  · rw [received, List.append_assoc]
    exact carries.sent
  · exact length_wire_receive faithful

theorem State.Carries.run_calls {pending : List Bytes} (carries : state.Carries pending)
    (calls : List Call) (enough : calls.length ≤ pending.length)
    (fits : ∀ pair ∈ pending.zip calls, pair.1.length ≤ pair.2.1)
    (reads : ∀ call ∈ calls, state.wire.length ≤ budget call.2) :
    (run step (calls.map Call.event) state).received =
      state.received ++ pending.take calls.length := by
  induction calls generalizing state pending with
  | nil => simp
  | cons call calls ih =>
      cases pending with
      | nil => simp at enough
      | cons payload pending =>
          obtain ⟨next, received, shorter⟩ := carries.receive_large
            (fits _ List.mem_cons_self) (reads call List.mem_cons_self)
          have rest := ih next (Nat.le_of_succ_le_succ enough)
            (fun pair member => fits pair (List.mem_cons_of_mem _ member))
            (fun other member =>
              Nat.le_trans shorter (reads other (List.mem_cons_of_mem _ member)))
          rw [List.map_cons, run_cons, rest, received, List.append_assoc]
          rfl

theorem State.Carries.exact_ {pending : List Bytes} (carries : state.Carries pending) :
    state.Exact where
  inOrder := ⟨pending, carries.sent.symm⟩
  delivered := by
    intro calls enough fits reads
    rw [carries.pending_eq] at *
    exact carries.run_calls calls enough fits reads

/-! ## Runs -/

theorem step_carries {event : Event} {pending : List Bytes} (carries : state.Carries pending)
    (framed : ∀ payload, event = .send payload true → Framed payload) :
    ∃ pending, (step event state).Carries pending := by
  cases event with
  | send payload accepted =>
      cases accepted with
      | true => exact ⟨_, carries.send (framed payload rfl)⟩
      | false => exact ⟨_, carries⟩
  | receive capacity reads =>
      cases pending with
      | nil => exact ⟨_, carries.receive_nil capacity reads⟩
      | cons payload pending =>
          rcases carries.receive_cons capacity reads with waits | took
          · exact ⟨_, waits⟩
          · exact ⟨_, took⟩

theorem framed_of_step {event : Event} (framed : ∀ payload ∈ state.received, Framed payload) :
    ∀ payload ∈ (step event state).received, Framed payload := by
  cases event with
  | send payload accepted => cases accepted <;> exact framed
  | receive capacity reads =>
      intro payload member
      simp only [step] at member
      split at member
      case isTrue success =>
        rcases List.mem_append.mp member with old | new
        · exact framed payload old
        · exact List.mem_singleton.mp new ▸ framed_of_receive success
      case isFalse => exact framed payload member

theorem mem_sent_of_mem {events : List Event} {payload : Bytes} {initial : State}
    (member : .send payload true ∈ events ∨ payload ∈ initial.sent) :
    payload ∈ (run step events initial).sent := by
  induction events generalizing initial with
  | nil => exact member.resolve_left List.not_mem_nil
  | cons event events ih =>
      rw [run_cons]
      apply ih
      rcases member with here | old
      · rcases List.mem_cons.mp here with rfl | later
        · exact .inr (List.mem_append_right _ List.mem_cons_self)
        · exact .inl later
      · right
        cases event with
        | send other accepted =>
            cases accepted with
            | true => exact List.mem_append_left _ old
            | false => exact old
        | receive capacity reads => exact old

theorem budget_replicate (count : Nat) : budget (List.replicate count 1) = count := by
  induction count with
  | zero => rfl
  | succ count ih =>
      rw [List.replicate_succ, budget, ih, if_neg (by decide)]
      omega

/-- A call that is made for each payload. -/
theorem snd_of_mem_zip_map (call : Bytes → Call) (payloads : List Bytes) :
    ∀ pair ∈ payloads.zip (payloads.map call), pair.2 = call pair.1 := by
  induction payloads with
  | nil => exact nofun
  | cons payload payloads ih =>
      intro pair member
      rcases List.mem_cons.mp member with rfl | later
      · rfl
      · exact ih pair later

/-- Everything that is sent can be returned only if the decoder takes all of it for frames. -/
theorem framed_of_exact {events : List Event} (exact_ : (reached events).Exact) :
    ∀ payload ∈ (reached events).sent, Framed payload := by
  obtain ⟨⟨pending, sent⟩, delivered⟩ := exact_
  have left : (reached events).pending = pending := by rw [State.pending, ← sent, List.drop_left]
  rw [left] at delivered
  let reads := List.replicate (reached events).wire.length 1
  let call (payload : Bytes) : Call := (payload.length, reads)
  have returned := delivered (pending.map call) (Nat.le_of_eq (List.length_map call))
    (fun pair member =>
      Nat.le_of_eq (by rw [snd_of_mem_zip_map call pending pair member]))
    (fun other member => by
      obtain ⟨payload, -, rfl⟩ := List.mem_map.mp member
      exact Nat.le_of_eq (budget_replicate _).symm)
  rw [List.length_map, List.take_length, sent] at returned
  rw [← returned, reached, ← run_append]
  exact run_preserves step (fun state => ∀ payload ∈ state.received, Framed payload)
    (fun _ _ framed => framed_of_step framed) _ nofun

/-- What was sent is returned exactly as long as every payload that was sent has the size of a
frame. -/
theorem reached_exact_iff (events : List Event) :
    (reached events).Exact ↔ ∀ payload, .send payload true ∈ events → Framed payload := by
  constructor
  · intro exact_ payload member
    exact framed_of_exact exact_ payload (mem_sent_of_mem (.inl member))
  · intro framed
    have each : ∀ event ∈ events, ∀ payload, event = .send payload true → Framed payload :=
      fun event member payload same => framed payload (same ▸ member)
    obtain ⟨pending, carries⟩ := run_preserves_of_meets step
      (fun state => ∃ pending, state.Carries pending)
      (fun event state framed ⟨_, carries⟩ => step_carries carries framed)
      (Meets.of_forall step each .initial)
      ⟨[], rfl, rfl, nofun⟩
    exact carries.exact_

/-- After an empty payload no frame is returned. -/
theorem empty_payload_blocks :
    ¬ (reached [.send [] true, .send [7] true]).Exact := by
  intro exact_
  have returned := exact_.delivered [(10, [100]), (10, [100])] (by decide) (by decide) (by decide)
  exact absurd returned (by decide +kernel)

end UmbraHost.Pipes.Reliable
