import UmbraHost.Pipes.Frames

/-! # The handshake of the anonymous pipes

`AnonymousPipeFactory` and `AnonymousServerPipe` of `pipes.cpp`.  The server names a data pipe on
the control pipe and waits for an acknowledgement; a legacy client sends frames at once.  The
reads are those that one end makes before its deadline, and the streams are reliable. -/

namespace UmbraHost.Pipes.Handshake

def ackMsg : UInt8 := 2

def kMaxHandshakeFrameLen : Nat := 2 * 1024 * 1024

def kMaxHandshakePrefetchBytes : Nat := 65536

/-- The size of `AnonConnectMsg`. -/
def anonConnectMsgSize : Nat := 80

inductive Receive where
  | success (bytes : Bytes)
  | timeout
  | failed
deriving DecidableEq, Repr

def Receive.bytes : Receive → Bytes
  | .success bytes => bytes
  | _ => []

def received (reads : List Receive) : Bytes := reads.flatMap Receive.bytes

def looksLikeFramedPayloadHeader : Bytes → Bool
  | b0 :: b1 :: b2 :: b3 :: _ =>
      let framedLen := prefixedLength b0 b1 b2 b3
      0 < framedLen && framedLen ≤ kMaxHandshakeFrameLen
  | _ => false

/-! ## The server -/

inductive AckResult where
  | acked
  | fallback
  | failed
deriving DecidableEq, Repr

/-- What the wait leaves: its result, `buffered` and the reads that it has not made. -/
structure AckWait where
  result : AckResult
  buffered : Bytes
  left : List Receive
deriving Repr

/-- `wait_for_handshake_ack`.  A poll after the last read finds nothing. -/
def waitForHandshakeAck (buffered : Bytes) : List Receive → AckWait
  | [] => ⟨.fallback, buffered, []⟩
  | .timeout :: reads => waitForHandshakeAck buffered reads
  | .failed :: reads => ⟨.failed, buffered, reads⟩
  | .success bytes :: reads =>
      if bytes = [] then waitForHandshakeAck buffered reads
      else if looksLikeFramedPayloadHeader (buffered ++ bytes) then
        ⟨.fallback, buffered ++ bytes, reads⟩
      else if (buffered ++ bytes).head? = some ackMsg then
        if (buffered ++ bytes).length < 4 then
          match reads with
          | .failed :: reads => ⟨.failed, buffered ++ bytes, reads⟩
          | .success (byte :: more) :: reads =>
              waitForHandshakeAck (buffered ++ bytes ++ byte :: more) reads
          | .success [] :: reads => ⟨.acked, (buffered ++ bytes).tail, reads⟩
          | .timeout :: reads => ⟨.acked, (buffered ++ bytes).tail, reads⟩
          | [] => ⟨.acked, (buffered ++ bytes).tail, []⟩
        else ⟨.acked, (buffered ++ bytes).tail, reads⟩
      else if kMaxHandshakePrefetchBytes < (buffered ++ bytes).length then
        ⟨.fallback, buffered ++ bytes, reads⟩
      else waitForHandshakeAck (buffered ++ bytes) reads

/-- A pipe with what was read from it before. -/
structure PrefetchedPipe where
  buffer : Bytes
  inner : Bytes
deriving DecidableEq, Repr

namespace PrefetchedPipe

def stream (pipe : PrefetchedPipe) : Bytes := pipe.buffer ++ pipe.inner

/-- `receive` into a buffer of the given size; the pipe below yields at most `arrives` bytes. -/
def receive (size arrives : Nat) (pipe : PrefetchedPipe) : Bytes × PrefetchedPipe :=
  if pipe.buffer = [] then
    (pipe.inner.take (min size arrives), { pipe with inner := pipe.inner.drop (min size arrives) })
  else (pipe.buffer.take size, { pipe with buffer := pipe.buffer.drop size })

/-- What a reader gets from calls with the given sizes. -/
def receiveAll : List (Nat × Nat) → PrefetchedPipe → Bytes × PrefetchedPipe
  | [], pipe => ([], pipe)
  | (size, arrives) :: calls, pipe =>
      let (bytes, next) := pipe.receive size arrives
      let (more, last) := receiveAll calls next
      (bytes ++ more, last)

end PrefetchedPipe

inductive Side where
  | control
  | data
deriving DecidableEq, Repr

inductive Transport where
  | control (pipe : PrefetchedPipe)
  | data
deriving DecidableEq, Repr

def Transport.side : Transport → Side
  | .control _ => .control
  | .data => .data

/-! ## The client -/

inductive MessageResult where
  | message
  | inline
  | failed
deriving DecidableEq, Repr

/-- `receive_handshake_message`. -/
def receiveHandshakeMessage (prefetched : Bytes) (zeroReads : Nat) :
    List Receive → MessageResult × Bytes × List Receive
  | [] => (.inline, prefetched, [])
  | .timeout :: reads => receiveHandshakeMessage prefetched zeroReads reads
  | .failed :: reads => (.failed, prefetched, reads)
  | .success bytes :: reads =>
      if bytes = [] then
        if 5 ≤ zeroReads + 1 then (.inline, prefetched, reads)
        else receiveHandshakeMessage prefetched (zeroReads + 1) reads
      else if anonConnectMsgSize ≤ (prefetched ++ bytes).length then
        (.message, (prefetched ++ bytes).drop anonConnectMsgSize, reads)
      else if looksLikeFramedPayloadHeader (prefetched ++ bytes) then
        (.inline, prefetched ++ bytes, reads)
      else receiveHandshakeMessage (prefetched ++ bytes) 0 reads

/-- `handshake_client`: the side of the pipe that it returns. -/
def handshakeClient (reads : List Receive) (ackSent opened : Bool) : Option Side :=
  match (receiveHandshakeMessage [] 0 reads).1 with
  | .failed => none
  | .inline => some .control
  | .message => if !ackSent then none else if opened then some .data else some .control

inductive Peer where
  | legacy (payloads : List Bytes)
  | client (reads : List Receive) (ackSent opened : Bool) (payload : Bytes)
deriving DecidableEq, Repr

namespace Peer

def side : Peer → Option Side
  | .legacy _ => some .control
  | .client reads ackSent opened _ => handshakeClient reads ackSent opened

def acknowledges : Peer → Bool
  | .legacy _ => false
  | .client reads ackSent _ _ =>
      (receiveHandshakeMessage [] 0 reads).1 = .message && ackSent

def payload : Peer → Bytes
  | .legacy payloads => payloads.flatMap frame
  | .client _ _ _ payload => payload

/-- The payload that goes over the control pipe. -/
def controlPayload (peer : Peer) : Bytes := if peer.side = some .control then peer.payload else []

/-- All that the peer sends on the control pipe. -/
def controlBytes (peer : Peer) : Bytes :=
  if peer.acknowledges then ackMsg :: peer.controlPayload else peer.controlPayload

end Peer

/-! ## One handshake -/

inductive ServerKind where
  | handshakeServer
  | anonymousServerPipe
deriving DecidableEq, Repr

/-- `created` and `seen` say whether the server makes the data pipe and sees a client on it. -/
structure Exchange where
  kind : ServerKind
  nameSent : Bool
  reads : List Receive
  unread : Bytes
  created : Bool
  seen : Bool
  peer : Peer

namespace Exchange

/-- `handshake_server`, or `maybe_handshake` with the pipe that is active after it. -/
def transport (exchange : Exchange) : Option Transport :=
  let control (buffered : Bytes) (left : List Receive) : Transport :=
    .control ⟨buffered, received left ++ exchange.unread⟩
  if !exchange.nameSent then
    match exchange.kind with
    | .handshakeServer => none
    | .anonymousServerPipe => some (control [] exchange.reads)
  else
    let ⟨result, buffered, left⟩ := waitForHandshakeAck [] exchange.reads
    match result, exchange.kind with
    | .failed, .handshakeServer => none
    | .failed, .anonymousServerPipe => some (control buffered left)
    | .fallback, _ => some (control buffered left)
    | .acked, _ =>
        if exchange.created && exchange.seen then some .data else some (control buffered left)

end Exchange

/-! ## What is read as an acknowledgement -/

/-- A poll that brings no byte. -/
def PollsNothing : List Receive → Prop
  | [] | .timeout :: _ | .success [] :: _ => True
  | _ => False

/-- The bytes that have come begin with the acknowledgement and not with a plausible length when
the server stops reading: there are four of them, or a poll for more brings nothing. -/
inductive ReadAsAck : Bytes → List Receive → Prop where
  | timeout {buffered reads} : ReadAsAck buffered reads → ReadAsAck buffered (.timeout :: reads)
  | nothing {buffered reads} :
      ReadAsAck buffered reads → ReadAsAck buffered (.success [] :: reads)
  | whole {buffered byte bytes reads} :
      (buffered ++ byte :: bytes).head? = some ackMsg →
      4 ≤ (buffered ++ byte :: bytes).length →
      looksLikeFramedPayloadHeader (buffered ++ byte :: bytes) = false →
      ReadAsAck buffered (.success (byte :: bytes) :: reads)
  | alone {buffered byte bytes reads} :
      (buffered ++ byte :: bytes).head? = some ackMsg →
      (buffered ++ byte :: bytes).length < 4 → PollsNothing reads →
      ReadAsAck buffered (.success (byte :: bytes) :: reads)
  | polled {buffered byte bytes more others reads} :
      (buffered ++ byte :: bytes).head? = some ackMsg →
      (buffered ++ byte :: bytes).length < 4 →
      ReadAsAck (buffered ++ byte :: bytes ++ more :: others) reads →
      ReadAsAck buffered (.success (byte :: bytes) :: .success (more :: others) :: reads)

variable {buffered : Bytes} {reads : List Receive}

theorem looksLikeFramedPayloadHeader_of_short {bytes : Bytes} (short : bytes.length < 4) :
    looksLikeFramedPayloadHeader bytes = false := by
  match bytes, short with
  | [], _ | [_], _ | [_, _], _ | [_, _, _], _ => rfl

theorem head?_append_of_some {first : UInt8} (begins : buffered.head? = some first)
    (bytes : Bytes) : (buffered ++ bytes).head? = some first := by
  rw [List.head?_append, begins]
  rfl

/-- Bytes that begin otherwise are not an acknowledgement, whatever follows. -/
theorem result_ne_acked {first : UInt8} (begins : buffered.head? = some first)
    (other : first ≠ ackMsg) : (waitForHandshakeAck buffered reads).result ≠ .acked := by
  have still : ∀ buffered bytes : Bytes, buffered.head? = some first →
      (buffered ++ bytes).head? ≠ some ackMsg := by
    intro buffered bytes begins head
    rw [head?_append_of_some begins] at head
    exact other (Option.some.inj head)
  fun_induction waitForHandshakeAck buffered reads with
  | case1 | case3 | case5 | case6 | case12 => nofun
  | case2 _ _ ih | case4 _ _ ih => exact ih begins
  | case7 buffered bytes _ _ head
  | case8 buffered bytes _ _ head
  | case9 buffered bytes _ _ head
  | case10 buffered bytes _ _ head
  | case11 buffered bytes _ _ _ head => exact absurd head (still buffered bytes begins)
  | case13 buffered bytes _ _ _ _ _ ih => exact ih (head?_append_of_some begins bytes)

theorem readAsAck_success {byte : UInt8} {bytes : Bytes} :
    ReadAsAck buffered (.success (byte :: bytes) :: reads) ↔
      (buffered ++ byte :: bytes).head? = some ackMsg ∧
        (4 ≤ (buffered ++ byte :: bytes).length ∧
            looksLikeFramedPayloadHeader (buffered ++ byte :: bytes) = false ∨
          (buffered ++ byte :: bytes).length < 4 ∧ (PollsNothing reads ∨
            ∃ more others rest, reads = .success (more :: others) :: rest ∧
              ReadAsAck (buffered ++ byte :: bytes ++ more :: others) rest)) := by
  constructor
  · intro read
    cases read with
    | whole head long framed => exact ⟨head, .inl ⟨long, framed⟩⟩
    | alone head short nothing => exact ⟨head, .inr ⟨short, .inl nothing⟩⟩
    | polled head short later => exact ⟨head, .inr ⟨short, .inr ⟨_, _, _, rfl, later⟩⟩⟩
  · intro ⟨head, stops⟩
    rcases stops with ⟨long, framed⟩ | ⟨short, nothing | ⟨more, others, rest, rfl, later⟩⟩
    · exact .whole head long framed
    · exact .alone head short nothing
    · exact .polled head short later

theorem acked_iff_readAsAck :
    (waitForHandshakeAck buffered reads).result = .acked ↔ ReadAsAck buffered reads := by
  fun_induction waitForHandshakeAck buffered reads with
  | case1 | case3 => exact ⟨nofun, nofun⟩
  | case2 _ _ ih => exact ih.trans ⟨.timeout, fun | .timeout later => later⟩
  | case4 _ _ ih => exact ih.trans ⟨.nothing, fun | .nothing later => later⟩
  | case5 buffered bytes reads some framed =>
      obtain ⟨byte, bytes, rfl⟩ := List.exists_cons_of_ne_nil some
      refine ⟨nofun, fun read => ?_⟩
      rcases (readAsAck_success.mp read).2 with ⟨_, unframed⟩ | ⟨short, _⟩
      · exact absurd (framed.symm.trans unframed) nofun
      · exact absurd (framed.symm.trans (looksLikeFramedPayloadHeader_of_short short)) nofun
  | case6 buffered bytes some _ head short reads =>
      obtain ⟨byte, bytes, rfl⟩ := List.exists_cons_of_ne_nil some
      refine ⟨nofun, fun read => ?_⟩
      rcases (readAsAck_success.mp read).2 with ⟨long, _⟩ | ⟨_, nothing | ⟨_, _, _, same, _⟩⟩
      · exact absurd short (Nat.not_lt.mpr long)
      · exact nothing.elim
      · cases same
  | case7 buffered bytes some _ head short byte more reads ih =>
      obtain ⟨first, bytes, rfl⟩ := List.exists_cons_of_ne_nil some
      refine ih.trans ⟨.polled head short, fun read => ?_⟩
      rcases (readAsAck_success.mp read).2 with ⟨long, _⟩ | ⟨_, nothing | ⟨_, _, _, same, later⟩⟩
      · exact absurd short (Nat.not_lt.mpr long)
      · exact nothing.elim
      · cases same
        exact later
  | case8 buffered bytes some _ head short reads
  | case9 buffered bytes some _ head short reads
  | case10 buffered bytes some _ head short =>
      obtain ⟨first, bytes, rfl⟩ := List.exists_cons_of_ne_nil some
      exact iff_of_true rfl (.alone head short trivial)
  | case11 buffered bytes reads some framed head long =>
      obtain ⟨first, bytes, rfl⟩ := List.exists_cons_of_ne_nil some
      exact iff_of_true rfl (.whole head (Nat.not_lt.mp long) (by simpa using framed))
  | case12 buffered bytes reads some _ head =>
      obtain ⟨first, bytes, rfl⟩ := List.exists_cons_of_ne_nil some
      exact ⟨nofun, fun read => absurd (readAsAck_success.mp read).1 head⟩
  | case13 buffered bytes reads some _ head _ _ =>
      obtain ⟨first, bytes, rfl⟩ := List.exists_cons_of_ne_nil some
      refine iff_of_false ?_ fun read => head (readAsAck_success.mp read).1
      obtain ⟨begins, same⟩ : ∃ begins, (buffered ++ first :: bytes).head? = Option.some begins :=
        Option.ne_none_iff_exists'.mp (by simp)
      exact result_ne_acked same fun equal => head (equal ▸ same)

/-- The server drops an acknowledgement, and no other byte. -/
theorem stream_waitForHandshakeAck (buffered : Bytes) (reads : List Receive) :
    (if (waitForHandshakeAck buffered reads).result = .acked then [ackMsg] else []) ++
        (waitForHandshakeAck buffered reads).buffered ++
          received (waitForHandshakeAck buffered reads).left =
      buffered ++ received reads := by
  have dropped : ∀ buffered : Bytes, buffered.head? = some ackMsg →
      [ackMsg] ++ buffered.tail = buffered := by
    intro buffered head
    obtain ⟨rest, rfl⟩ := List.head?_eq_some_iff.mp head
    rfl
  fun_induction waitForHandshakeAck buffered reads with
  | case1 => simp [received]
  | case2 _ _ ih => simpa [received, Receive.bytes] using ih
  | case3 => simp [received, Receive.bytes]
  | case4 _ _ ih => simpa [received, Receive.bytes] using ih
  | case5 => simp [received, Receive.bytes]
  | case6 => simp [received, Receive.bytes]
  | case7 _ _ _ _ _ _ _ _ _ ih => simpa [received, Receive.bytes] using ih
  | case8 _ _ _ _ head
  | case9 _ _ _ _ head
  | case10 _ _ _ _ head
  | case11 _ _ _ _ _ head => simp [received, Receive.bytes, dropped _ head]
  | case12 => simp [received, Receive.bytes]
  | case13 _ _ _ _ _ _ _ ih => simpa [received, Receive.bytes] using ih

theorem not_failed_of_reliable (reliable : .failed ∉ reads) :
    (waitForHandshakeAck buffered reads).result ≠ .failed := by
  fun_induction waitForHandshakeAck buffered reads with
  | case1 | case5 | case8 | case9 | case10 | case11 | case12 => nofun
  | case3 => exact absurd List.mem_cons_self reliable
  | case6 => exact absurd (List.mem_cons_of_mem _ List.mem_cons_self) reliable
  | case2 _ _ ih => exact ih fun member => reliable (List.mem_cons_of_mem _ member)
  | case4 _ _ ih => exact ih fun member => reliable (List.mem_cons_of_mem _ member)
  | case7 _ _ _ _ _ _ _ _ _ ih =>
      exact ih fun member => reliable (List.mem_cons_of_mem _ (List.mem_cons_of_mem _ member))
  | case13 _ _ _ _ _ _ _ ih => exact ih fun member => reliable (List.mem_cons_of_mem _ member)

/-! ## What a reader gets -/

namespace PrefetchedPipe

theorem stream_receive (size arrives : Nat) (pipe : PrefetchedPipe) :
    (pipe.receive size arrives).1 ++ (pipe.receive size arrives).2.stream = pipe.stream := by
  unfold receive stream
  split
  · next empty => simp [empty]
  · simp [← List.append_assoc]

/-- A reader gets the stream in order, whatever the sizes of its calls. -/
theorem stream_receiveAll (calls : List (Nat × Nat)) (pipe : PrefetchedPipe) :
    (pipe.receiveAll calls).1 ++ (pipe.receiveAll calls).2.stream = pipe.stream := by
  induction calls generalizing pipe with
  | nil => rfl
  | cons call rest ih =>
      obtain ⟨size, arrives⟩ := call
      rw [receiveAll, List.append_assoc, ih, stream_receive]

end PrefetchedPipe

namespace Peer

variable {peer : Peer}

theorem acknowledges_of_data (opens : peer.side = some .data) : peer.acknowledges = true := by
  cases peer with
  | legacy payloads => cases opens
  | client reads ackSent opened payload =>
      simp only [side, handshakeClient] at opens
      split at opens
      · cases opens
      · cases opens
      · next message =>
          cases ackSent with
          | true => simp [acknowledges, message]
          | false => cases opens

end Peer

namespace Exchange

/-- What the reader of the server's transport gets is what the peer sent for it, and two ends that
succeed are on the same pipe. -/
structure Faithful (exchange : Exchange) : Prop where
  payload : ∀ pipe, exchange.transport = some (.control pipe) → ∀ calls,
    ∃ later, (pipe.receiveAll calls).1 ++ later = exchange.peer.controlPayload ∧
      later = (pipe.receiveAll calls).2.stream
  sameSide : ∀ transport, exchange.transport = some transport → ∀ side,
    exchange.peer.side = some side → transport.side = side

/-- The streams are reliable, and a client is on the data pipe only when the server has made it. -/
structure Possible (exchange : Exchange) : Prop where
  reliable : .failed ∉ exchange.reads
  split : received exchange.reads ++ exchange.unread = exchange.peer.controlBytes
  named : exchange.peer.acknowledges = true → exchange.nameSent = true
  opened : exchange.peer.side = some .data →
    exchange.created = true ∧ ReadAsAck [] exchange.reads
  seen : exchange.seen = true → exchange.peer.side = some .data

/-- An acknowledgement, and nothing else, is read as one, and the server sees the client that is on
the data pipe. -/
def Recognized (exchange : Exchange) : Prop :=
  if exchange.peer.acknowledges then
    ReadAsAck [] exchange.reads ∧ (exchange.peer.side = some .data → exchange.seen = true)
  else exchange.nameSent = true → ¬ ReadAsAck [] exchange.reads

variable {exchange : Exchange}

theorem faithful_control {pipe : PrefetchedPipe}
    (returned : exchange.transport = some (.control pipe)) :
    exchange.Faithful ↔
      pipe.stream = exchange.peer.controlPayload ∧ exchange.peer.side ≠ some .data := by
  constructor
  · intro faithful
    obtain ⟨later, all, rfl⟩ := faithful.payload pipe returned []
    refine ⟨all, fun opens => ?_⟩
    exact absurd (faithful.sameSide _ returned _ opens) nofun
  · intro ⟨same, closed⟩
    constructor
    · intro other again calls
      obtain rfl : pipe = other := by
        rw [returned] at again
        exact Transport.control.inj (Option.some.inj again)
      exact ⟨_, (PrefetchedPipe.stream_receiveAll calls pipe).trans same, rfl⟩
    · intro transport again side on
      obtain rfl := Option.some.inj (returned.symm.trans again)
      cases side with
      | control => rfl
      | data => exact absurd on closed

theorem stream_of_wait (possible : exchange.Possible) (result : AckResult)
    (waited : (waitForHandshakeAck [] exchange.reads).result = result) :
    (if result = .acked then [ackMsg] else []) ++
        PrefetchedPipe.stream ⟨(waitForHandshakeAck [] exchange.reads).buffered,
          received (waitForHandshakeAck [] exchange.reads).left ++ exchange.unread⟩ =
      exchange.peer.controlBytes := by
  have whole := stream_waitForHandshakeAck [] exchange.reads
  rw [waited, List.nil_append] at whole
  rw [← possible.split, ← whole]
  simp [PrefetchedPipe.stream]

theorem controlBytes_of_silent (silent : exchange.peer.acknowledges = false) :
    exchange.peer.controlBytes = exchange.peer.controlPayload := by
  simp [Peer.controlBytes, silent]

theorem controlBytes_of_acknowledges (acknowledges : exchange.peer.acknowledges = true) :
    exchange.peer.controlBytes = ackMsg :: exchange.peer.controlPayload := by
  simp [Peer.controlBytes, acknowledges]

theorem not_data_of_silent (silent : exchange.peer.acknowledges = false) :
    exchange.peer.side ≠ some .data := fun opens =>
  absurd (silent.symm.trans (Peer.acknowledges_of_data opens)) nofun

/-- A server whose message was not sent reads the control pipe as it is. -/
theorem faithful_of_unnamed (possible : exchange.Possible) (unnamed : exchange.nameSent = false) :
    exchange.Faithful := by
  have silent : exchange.peer.acknowledges = false := by
    cases acknowledges : exchange.peer.acknowledges with
    | false => rfl
    | true => exact absurd (unnamed.symm.trans (possible.named acknowledges)) nofun
  cases kind : exchange.kind with
  | handshakeServer =>
      have nothing : exchange.transport = none := by simp [transport, unnamed, kind]
      constructor <;> simp [nothing]
  | anonymousServerPipe =>
      have returned : exchange.transport =
          some (.control ⟨[], received exchange.reads ++ exchange.unread⟩) := by
        simp [transport, unnamed, kind]
      refine (faithful_control returned).mpr ⟨?_, not_data_of_silent silent⟩
      rw [← controlBytes_of_silent silent, ← possible.split]
      rfl

/-- Without an acknowledgement the server reads all that the peer sent on the control pipe. -/
theorem faithful_of_fallback (possible : exchange.Possible) (named : exchange.nameSent = true)
    (fallback : (waitForHandshakeAck [] exchange.reads).result = .fallback) :
    exchange.Faithful ↔ exchange.peer.acknowledges = false := by
  have returned : exchange.transport =
      some (.control ⟨(waitForHandshakeAck [] exchange.reads).buffered,
        received (waitForHandshakeAck [] exchange.reads).left ++ exchange.unread⟩) := by
    simp [transport, named, fallback]
  have stream := stream_of_wait possible .fallback fallback
  rw [if_neg nofun, List.nil_append] at stream
  rw [faithful_control returned, stream]
  cases acknowledges : exchange.peer.acknowledges with
  | false =>
      exact iff_of_true ⟨controlBytes_of_silent acknowledges, not_data_of_silent acknowledges⟩ rfl
  | true =>
      refine iff_of_false (fun ⟨same, _⟩ => ?_) nofun
      rw [controlBytes_of_acknowledges acknowledges] at same
      exact List.cons_ne_self _ _ same

/-- After an acknowledgement the server is without its byte, and on the data pipe if it sees a
client there. -/
theorem faithful_of_acked (possible : exchange.Possible) (named : exchange.nameSent = true)
    (acked : (waitForHandshakeAck [] exchange.reads).result = .acked) :
    exchange.Faithful ↔ exchange.peer.acknowledges = true ∧
      (exchange.peer.side = some .data → exchange.seen = true) := by
  cases both : exchange.created && exchange.seen with
  | true =>
      have returned : exchange.transport = some .data := by
        simp only [transport, named, acked, both]
        rfl
      obtain ⟨-, seen⟩ := Bool.and_eq_true_iff.mp both
      have onData := possible.seen seen
      refine iff_of_true ⟨?_, ?_⟩ ⟨Peer.acknowledges_of_data onData, fun _ => seen⟩
      · intro pipe again
        cases returned.symm.trans again
      · intro transport again side on
        obtain rfl := Option.some.inj (returned.symm.trans again)
        exact Option.some.inj (onData.symm.trans on)
  | false =>
      have returned : exchange.transport =
          some (.control ⟨(waitForHandshakeAck [] exchange.reads).buffered,
            received (waitForHandshakeAck [] exchange.reads).left ++ exchange.unread⟩) := by
        simp only [transport, named, acked, both]
        rfl
      have stream := stream_of_wait possible .acked acked
      rw [if_pos rfl] at stream
      rw [faithful_control returned]
      cases acknowledges : exchange.peer.acknowledges with
      | false =>
          refine iff_of_false (fun ⟨same, _⟩ => ?_) fun ⟨impossible, _⟩ => nomatch impossible
          rw [controlBytes_of_silent acknowledges, same] at stream
          exact List.cons_ne_self _ _ stream
      | true =>
          rw [controlBytes_of_acknowledges acknowledges] at stream
          have same := (List.cons.inj stream).2
          refine ⟨fun ⟨_, closed⟩ => ⟨rfl, fun opens => absurd opens closed⟩, ?_⟩
          intro ⟨_, sees⟩
          refine ⟨same, fun opens => ?_⟩
          simp [(possible.opened opens).1, sees opens] at both

/-- The handshake loses no byte if and only if the acknowledgement is recognized. -/
theorem faithful_iff (exchange : Exchange) (possible : exchange.Possible) :
    exchange.Faithful ↔ exchange.Recognized := by
  unfold Recognized
  cases named : exchange.nameSent with
  | false =>
      have faithful := faithful_of_unnamed possible named
      split
      · next acknowledges =>
          exact absurd (named.symm.trans (possible.named acknowledges)) nofun
      · exact iff_of_true faithful nofun
  | true =>
      cases result : (waitForHandshakeAck [] exchange.reads).result with
      | failed => exact absurd result (not_failed_of_reliable possible.reliable)
      | fallback =>
          have unread : ¬ ReadAsAck [] exchange.reads := fun read =>
            absurd (result.symm.trans (acked_iff_readAsAck.mpr read)) nofun
          rw [faithful_of_fallback possible named result]
          split
          · next acknowledges =>
              exact iff_of_false (fun silent => absurd (silent.symm.trans acknowledges) nofun)
                fun ⟨read, _⟩ => unread read
          · next silent => exact iff_of_true (eq_false_of_ne_true silent) fun _ => unread
      | acked =>
          have read := acked_iff_readAsAck.mp result
          rw [faithful_of_acked possible named result]
          split
          · next acknowledges => simp [acknowledges, read]
          · next silent => simp [silent, read]

/-- A client that acknowledges the name and opens the data pipe. -/
def opening : Exchange where
  kind := .handshakeServer
  nameSent := true
  reads := [.success [ackMsg], .timeout]
  unread := []
  created := true
  seen := true
  peer := .client [.success (List.replicate anonConnectMsgSize 65)] true true (frame [7])

theorem faithful_opening : opening.Faithful := by
  have read : ReadAsAck [] opening.reads := .alone rfl (by decide) trivial
  have onData : opening.peer.side = some .data := by decide
  have acknowledges : opening.peer.acknowledges = true := by decide
  have possible : opening.Possible :=
    { reliable := by decide
      split := by decide
      named := fun _ => rfl
      opened := fun _ => ⟨rfl, read⟩
      seen := fun _ => onData }
  refine (faithful_iff opening possible).mpr ?_
  rw [Recognized, if_pos acknowledges]
  exact ⟨read, fun _ => rfl⟩

/-- A legacy client whose frame of two bytes comes in two parts. -/
def legacyFrame : Exchange where
  kind := .handshakeServer
  nameSent := true
  reads := [.success [2], .timeout]
  unread := [0, 0, 0, 7, 7]
  created := true
  seen := false
  peer := .legacy [[7, 7]]

/-- The length of a frame begins with the byte of an acknowledgement, and is lost. -/
theorem legacyFrame_broken : legacyFrame.Possible ∧ ¬ legacyFrame.Faithful := by
  refine ⟨⟨by decide, by decide, nofun, nofun, nofun⟩, fun faithful => ?_⟩
  obtain ⟨later, whole, same⟩ := faithful.payload ⟨[], [0, 0, 0, 7, 7]⟩ rfl []
  subst same
  exact absurd whole (by decide)

end Exchange

end UmbraHost.Pipes.Handshake
