import UmbraHost.Pipes.FramedPipe

/-! # Overlapped reads and writes

`WinPipe::send` and `WinPipe::receive` on a queue of bytes in each direction, with a
`FramedPipe` at both ends.  An operation that does not finish in time is cancelled, and may
have moved any number of bytes when the cancellation ends. -/

namespace UmbraHost.Pipes.Overlapped

open UmbraHost.Transition

/-- How `WriteFile` and what follows it end; the bytes are those in the queue by then. -/
inductive Write where
  | written (bytes : Nat)
  | refused
  | broken
  | completed (bytes : Nat)
  | completedBroken
  | completedFailed
  | timedOut (bytes : Nat)
  | waitFailed (bytes : Nat)

/-- How `ReadFile` and what follows it end; the bytes are those taken from the queue by then. -/
inductive Read where
  | read (bytes : Nat)
  | refused
  | broken
  | completed (bytes : Nat)
  | completedBroken
  | completedAborted
  | completedFailed
  | timedOut (bytes : Nat)
  | waitFailed (bytes : Nat)

/-- The pipe in one direction, with the bytes ever taken out of it and those of them that a
`WinPipe::receive` handed to its caller. -/
structure Line where
  queue : Bytes
  taken : Bytes
  handed : Bytes

/-- The end that reads a line. -/
structure Reader where
  connected : Bool
  line : Line

def Line.take (line : Line) (bytes : Nat) : Line :=
  { line with queue := line.queue.drop bytes, taken := line.taken ++ line.queue.take bytes }

/-- The bytes are taken and handed over. -/
def Reader.hand (reader : Reader) (bytes : Nat) : PipeResult × Bytes × Reader :=
  let found := reader.line.queue.take bytes
  (.success, found, { reader with
    line := { reader.line.take bytes with handed := reader.line.handed ++ found } })

/-- The bytes are taken and not looked at. -/
def Reader.drop (reader : Reader) (bytes : Nat) : Reader :=
  { reader with line := reader.line.take bytes }

/-- `WinPipe::receive` with the buffer of `FramedPipe::receive`. -/
def receiveBytes (read : Read) (reader : Reader) : PipeResult × Bytes × Reader :=
  if reader.connected = false then (.disconnected, [], reader)
  else
    match read with
    | .read bytes | .completed bytes => reader.hand (min bytes 65536)
    | .refused | .completedFailed => (.error, [], reader)
    | .broken | .completedBroken => (.brokenPipe, [], { reader with connected := false })
    | .completedAborted => (.disconnected, [], reader)
    | .timedOut bytes => (.timeout, [], reader.drop (min bytes 65536))
    | .waitFailed bytes => (.error, [], reader.drop (min bytes 65536))

/-- What `WinPipe::send` of the bytes leaves of the connection and adds to the queue, and what
it returns. -/
def sendBytes (write : Write) (bytes : Bytes) (connected : Bool) : Bool × Bytes × Bool :=
  if connected = false then (false, [], false)
  else
    match write with
    | .written count => (true, bytes.take count, bytes.length ≤ count)
    | .refused | .completedFailed => (true, [], false)
    | .broken | .completedBroken => (false, [], false)
    | .completed count => (true, bytes.take count, true)
    | .timedOut count | .waitFailed count => (true, bytes.take count, false)

/-! ## Both ends -/

inductive Side where
  | server | client
deriving DecidableEq

def Side.other : Side → Side
  | .server => .client
  | .client => .server

/-- What one side writes and the other reads. -/
structure Direction where
  line : Line
  rxbuf : Bytes
  sent : List Bytes
  received : List Bytes
  /-- What a `send` that returned false left in the queue. -/
  partials : List Bytes

structure State where
  connected : Side → Bool
  /-- By the side that writes. -/
  direction : Side → Direction

def State.initial : State := ⟨fun _ => true, fun _ => ⟨⟨[], [], []⟩, [], [], [], []⟩⟩

inductive Event where
  | send (side : Side) (payload : Bytes) (write : Write)
  /-- A call with a buffer of the given size and the reads below. -/
  | receive (side : Side) (capacity : Nat) (reads : List Read)

def Direction.send (direction : Direction) (payload added : Bytes) (accepted : Bool) :
    Direction :=
  { direction with
    line := { direction.line with queue := direction.line.queue ++ added }
    sent := if accepted then direction.sent ++ [payload] else direction.sent
    partials :=
      if accepted ∨ added = [] then direction.partials else direction.partials ++ [added] }

def Direction.receive (direction : Direction) (call : Received Reader) : Direction :=
  { direction with
    line := call.inner.line
    rxbuf := call.rxbuf
    received :=
      if call.result = .success then direction.received ++ [call.payload]
      else direction.received }

/-- `FramedPipe::receive` at the other end of the direction. -/
def Direction.call (direction : Direction) (connected : Bool) (capacity : Nat)
    (reads : List Read) : Received Reader :=
  Pipes.receive receiveBytes capacity reads direction.rxbuf ⟨connected, direction.line⟩

def step (event : Event) (state : State) : State :=
  match event with
  | .send side payload write =>
    let (connected, added, accepted) := sendBytes write (frame payload) (state.connected side)
    { connected := Function.update state.connected side connected
      direction := Function.update state.direction side
        ((state.direction side).send payload added accepted) }
  | .receive side capacity reads =>
    let call := (state.direction side.other).call (state.connected side) capacity reads
    { connected := Function.update state.connected side call.inner.connected
      direction := Function.update state.direction side.other
        ((state.direction side.other).receive call) }

/-! ## What is asked of a state -/

def Direction.pending (direction : Direction) : List Bytes :=
  direction.sent.drop direction.received.length

/-- An operation that did not finish moved no bytes. -/
def Read.Clean : Read → Prop
  | .timedOut bytes | .waitFailed bytes => bytes = 0
  | _ => True

/-- The direction that the side writes: every byte taken was handed over, no part of a frame
whose sending failed is in the way of later ones, and the next frame arrives as it was sent. -/
structure State.Whole (state : State) (side : Side) : Prop where
  handed : (state.direction side).line.handed = (state.direction side).line.taken
  stopped : (state.direction side).partials = [] ∨ state.connected side = false
  inOrder : (state.direction side).received <+: (state.direction side).sent
  next : ∀ payload rest capacity reads, (state.direction side).pending = payload :: rest →
    payload.length ≤ capacity → (∀ read ∈ reads, read.Clean) →
    4 + payload.length ≤ (state.direction side).rxbuf.length + gathered receiveBytes reads
      ⟨state.connected side.other, (state.direction side).line⟩ →
    let call := (state.direction side).call (state.connected side.other) capacity reads
    call.result = .success ∧ call.payload = payload

/-- A write puts all of the frame into the queue and is reported so, or nothing; a read that
does not finish takes nothing. -/
def Event.Clean : Event → Prop
  | .send _ payload write =>
    match write with
    | .written count => count = 0 ∨ 4 + payload.length ≤ count ∧ Framed payload
    | .completed count => 4 + payload.length ≤ count ∧ Framed payload
    | .timedOut count | .waitFailed count => count = 0
    | _ => True
  | .receive _ _ reads => ∀ read ∈ reads, read.Clean

def reached (events : List Event) : State := run step events .initial

/-! ## One call -/

variable {state : State} {direction : Direction}

structure Direction.Carries (direction : Direction) (pending : List Bytes) : Prop where
  handed : direction.line.handed = direction.line.taken
  partials : direction.partials = []
  sent : direction.sent = direction.received ++ pending
  bytes : direction.rxbuf ++ direction.line.queue = pending.flatMap frame
  framed : ∀ payload ∈ pending, Framed payload

def Reader.queue (reader : Reader) : Bytes := reader.line.queue

theorem faithful_receiveBytes {read : Read} (clean : read.Clean) (reader : Reader) :
    Faithful receiveBytes Reader.queue read reader := by
  unfold Faithful receiveBytes
  split
  · simp
  · cases read with
    | read bytes | completed bytes =>
        exact (List.take_append_drop _ _).symm
    | timedOut bytes | waitFailed bytes =>
        cases clean
        exact List.drop_zero
    | _ => rfl

/-- A clean read hands over what it takes. -/
theorem handed_receiveBytes {read : Read} (clean : read.Clean) {reader : Reader}
    (handed : reader.line.handed = reader.line.taken) :
    (receiveBytes read reader).2.2.line.handed = (receiveBytes read reader).2.2.line.taken := by
  unfold receiveBytes
  split
  · exact handed
  · cases read with
    | read bytes | completed bytes =>
        simp only [Reader.hand, Line.take, handed]
    | timedOut bytes | waitFailed bytes =>
        cases clean
        simp only [Reader.drop, Line.take, Nat.zero_min, List.take_zero, List.append_nil, handed]
    | _ => exact handed

theorem Direction.Carries.receive {pending : List Bytes} (carries : direction.Carries pending)
    {connected : Bool} {capacity : Nat} {reads : List Read} (clean : ∀ read ∈ reads, read.Clean) :
    ∃ pending, (direction.receive (direction.call connected capacity reads)).Carries pending := by
  have faithful : ∀ read ∈ reads, ∀ reader, Faithful receiveBytes Reader.queue read reader :=
    fun read member => faithful_receiveBytes (clean read member)
  have handed : (direction.call connected capacity reads).inner.line.handed =
      (direction.call connected capacity reads).inner.line.taken :=
    receive_preserves (fun reader : Reader => reader.line.handed = reader.line.taken)
      (fun read member reader => handed_receiveBytes (clean read member)) carries.handed
  let reader : Reader := ⟨connected, direction.line⟩
  cases pending with
  | nil =>
      obtain ⟨noBuffer, noQueue⟩ := List.append_eq_nil_iff.mp carries.bytes
      have waits : Waits Reader.queue [] (direction.call connected capacity reads) := by
        unfold Direction.call
        rw [noBuffer]
        exact receiveLoop_nil faithful noQueue
      refine ⟨[], handed, carries.partials, ?_, waits.left, nofun⟩
      simp only [Direction.receive, if_neg waits.result]
      exact carries.sent
  | cons payload pending =>
      have stream : direction.rxbuf ++ reader.queue = frame payload ++ pending.flatMap frame :=
        carries.bytes
      obtain ⟨takes, stays⟩ :=
        receive_spec capacity (carries.framed payload List.mem_cons_self) faithful stream
      by_cases arrives : payload.length ≤ capacity ∧
          4 + payload.length ≤ direction.rxbuf.length + gathered receiveBytes reads reader
      · have took : Took Reader.queue payload (pending.flatMap frame)
            (direction.call connected capacity reads) := takes arrives
        refine ⟨pending, handed, carries.partials, ?_, took.left, fun other member =>
          carries.framed other (List.mem_cons_of_mem _ member)⟩
        simp only [Direction.receive, if_pos took.result, took.payload]
        rw [carries.sent, List.append_assoc]
        rfl
      · have waits : Waits Reader.queue (frame payload ++ pending.flatMap frame)
            (direction.call connected capacity reads) := stays arrives
        refine ⟨payload :: pending, handed, carries.partials, ?_, waits.left, carries.framed⟩
        simp only [Direction.receive, if_neg waits.result]
        exact carries.sent

theorem Direction.Carries.send {pending : List Bytes} (carries : direction.Carries pending)
    {side : Side} {payload : Bytes} {write : Write} (clean : (Event.send side payload write).Clean)
    (connected : Bool) :
    ∃ pending, (direction.send payload (sendBytes write (frame payload) connected).2.1
      (sendBytes write (frame payload) connected).2.2).Carries pending := by
  have unsent : (direction.send payload [] false).Carries pending :=
    ⟨carries.handed, carries.partials, carries.sent, by
      simp only [Direction.send, List.append_nil]
      exact carries.bytes, carries.framed⟩
  have whole (framed : Framed payload) :
      (direction.send payload (frame payload) true).Carries (pending ++ [payload]) := by
    refine ⟨carries.handed, carries.partials, ?_, ?_, ?_⟩
    · simp only [Direction.send, if_true, carries.sent, List.append_assoc]
    · simp only [Direction.send, List.flatMap_append, List.flatMap_singleton, ← carries.bytes,
        List.append_assoc]
    · intro other member
      rcases List.mem_append.mp member with old | new
      · exact carries.framed other old
      · exact List.mem_singleton.mp new ▸ framed
  unfold sendBytes
  split
  · exact ⟨pending, unsent⟩
  · cases write with
    | written count =>
        rcases clean with rfl | ⟨all, framed⟩
        · have short : ¬ (frame payload).length ≤ 0 := by rw [length_frame]; omega
          simp only [List.take_zero, short, decide_false]
          exact ⟨pending, unsent⟩
        · have long : (frame payload).length ≤ count := by rw [length_frame]; exact all
          simp only [List.take_of_length_le long, long, decide_true]
          exact ⟨_, whole framed⟩
    | completed count =>
        obtain ⟨all, framed⟩ := clean
        have long : (frame payload).length ≤ count := by rw [length_frame]; exact all
        simp only [List.take_of_length_le long]
        exact ⟨_, whole framed⟩
    | timedOut count | waitFailed count =>
        cases clean
        simp only [List.take_zero]
        exact ⟨pending, unsent⟩
    | _ => exact ⟨pending, unsent⟩

theorem State.whole_of_carries {side : Side} {pending : List Bytes}
    (carries : (state.direction side).Carries pending) : state.Whole side where
  handed := carries.handed
  stopped := .inl carries.partials
  inOrder := ⟨pending, carries.sent.symm⟩
  next := by
    intro payload rest capacity reads first fits clean arrives
    have same : pending = payload :: rest := by
      rw [← first, Direction.pending, carries.sent, List.drop_left]
    subst same
    have stream : (state.direction side).rxbuf ++
        Reader.queue ⟨state.connected side.other, (state.direction side).line⟩ =
          frame payload ++ rest.flatMap frame := carries.bytes
    have took := (receive_spec capacity (carries.framed payload List.mem_cons_self)
      (fun read member => faithful_receiveBytes (clean read member)) stream).1 ⟨fits, arrives⟩
    exact ⟨took.result, took.payload⟩

/-! ## Runs -/

theorem step_carries {event : Event} (clean : event.Clean)
    (carries : ∀ side, ∃ pending, (state.direction side).Carries pending) (side : Side) :
    ∃ pending, ((step event state).direction side).Carries pending := by
  cases event with
  | send writer payload write =>
      by_cases here : side = writer
      · subst here
        obtain ⟨pending, old⟩ := carries side
        simp only [step, Function.update_self]
        exact old.send clean _
      · simp only [step, Function.update_of_ne here]
        exact carries side
  | receive reader capacity reads =>
      by_cases here : side = reader.other
      · subst here
        obtain ⟨pending, old⟩ := carries reader.other
        simp only [step, Function.update_self]
        exact old.receive clean
      · simp only [step, Function.update_of_ne here]
        exact carries side

/-- While every write is all or nothing and no byte is taken by a read that is given up, both
directions stay whole. -/
theorem reached_whole (events : List Event) (clean : ∀ event ∈ events, event.Clean)
    (side : Side) : (reached events).Whole side := by
  have carries := run_preserves_of_meets step
    (fun state => ∀ side, ∃ pending, (state.direction side).Carries pending)
    (fun _ _ clean carries side => step_carries clean carries side)
    (Meets.of_forall step clean .initial) (fun _ => ⟨[], rfl, rfl, rfl, rfl, nofun⟩)
  obtain ⟨pending, held⟩ := carries side
  exact State.whole_of_carries held

theorem reached_whole_once :
    (reached [.send .client [7] (.completed 5), .receive .server 10 [.timedOut 0]]).Whole
      .client :=
  reached_whole _ (by
    intro event member
    rcases List.mem_cons.mp member with rfl | last
    · exact ⟨by decide, by decide⟩
    · rw [List.mem_singleton.mp last]
      intro read only
      rw [List.mem_singleton.mp only]
      rfl) .client

/-- A read that times out keeps three bytes to itself; and after a write that times out halfway
the next frame, of a `send` that returned true, is not received. -/
theorem timedOut_tears :
    ¬ (reached [.send .client [7] (.completed 5), .receive .server 10 [.timedOut 3]]).Whole
        .client ∧
      ¬ (reached [.send .client [7] (.timedOut 3), .send .client [8] (.completed 5)]).Whole
        .client := by
  constructor
  · intro whole
    exact absurd whole.handed (by decide +kernel)
  · intro whole
    exact absurd whole.stopped (by decide +kernel)

end UmbraHost.Pipes.Overlapped
