import UmbraHost.Rtsp.Socket
import UmbraHost.Transition.Run
import Mathlib.Tactic.Ring

/-! # Requests in segments

What the handler of an RTSP connection gets when a request arrives in several
read completions. -/

namespace UmbraHost.Rtsp

open UmbraHost.Search

/-! ## Requests -/

def decimal (digits : Text) : Nat :=
  digits.foldl (fun value ch => 10 * value + (ch.toNat - 48)) 0

/-- The options declare a body of this length: the first `Content-length` has it
behind characters that are not digits, or there is none and the body is empty. -/
def Declares (options : List (Text × Text)) (length : Nat) : Prop :=
  match options.find? fun option => option.1 = "Content-length".toList with
  | none => length = 0
  | some (_, content) => ∃ padding digits, content = padding ++ digits ∧
      (∀ ch ∈ padding, ch.isDigit = false) ∧ digits ≠ [] ∧ (∀ ch ∈ digits, ch.isDigit = true) ∧
      decimal digits = length

/-- Start line, headers, blank line and a body of the declared length. -/
structure IsRequest (parser : Parser Message) (head body : Text) : Prop where
  blank : search needle (head ++ needle) = head.length
  accepted : ∃ req, parser.parseRtspMessage (head ++ needle) = some req ∧
    Declares (parser.options req) body.length

/-- The parser takes the options from the lines in front of the blank line and
what stands behind it as the payload. -/
def Parser.HeadersFirst (parser : Parser Message) : Prop :=
  ∀ head body req, search needle (head ++ needle) = head.length →
    parser.parseRtspMessage (head ++ needle) = some req →
    ∃ whole, parser.parseRtspMessage (head ++ needle ++ body) = some whole ∧
      parser.options whole = parser.options req

theorem fromCharsLoop_digits (digits : Text) (nonempty : digits ≠ [])
    (all : ∀ ch ∈ digits, ch.isDigit = true) (res mul : Int) :
    fromCharsLoop res mul digits =
      res + mul * (digits.foldr (fun ch value => 10 * value + (ch.toNat - 48)) 0 : Nat) := by
  induction digits generalizing res mul with
  | nil => exact absurd rfl nonempty
  | cons ch rest ih =>
      have digit := all ch List.mem_cons_self
      have least : 48 ≤ ch.toNat := by
        simp only [Char.isDigit, Bool.and_eq_true, decide_eq_true_eq] at digit
        exact digit.1
      have value : ((ch.toNat - 48 : Nat) : Int) = ch.toNat - 48 := by omega
      cases rest with
      | nil =>
          have sign : ch ≠ '-' := by rintro rfl; cases digit
          rw [fromCharsLoop, if_neg sign, List.foldr_cons, List.foldr_nil, Nat.mul_zero,
            Nat.zero_add, value, Int.mul_comm]
      | cons next rest =>
          have first : (ch :: next :: rest).foldr (fun ch value => 10 * value + (ch.toNat - 48)) 0 =
              10 * (next :: rest).foldr (fun ch value => 10 * value + (ch.toNat - 48)) 0 +
                (ch.toNat - 48) := rfl
          rw [fromCharsLoop, ih (List.cons_ne_nil _ _)
            (fun other member => all other (List.mem_cons_of_mem _ member)), first]
          · push_cast [value]
            ring
          · exact fun empty => absurd empty (List.cons_ne_nil _ _)

theorem fromView_digits {digits : Text} (nonempty : digits ≠ [])
    (all : ∀ ch ∈ digits, ch.isDigit = true) : fromView digits = decimal digits := by
  rw [fromView, fromCharsLoop_digits digits.reverse (by simpa using nonempty)
    (by simpa using all), List.foldr_reverse, Int.zero_add, Int.one_mul]
  rfl

theorem contentLength_of_declares {options : List (Text × Text)} {length : Nat}
    (declares : Declares options length) (small : length ≤ maxMessage) :
    contentLength options = length := by
  cases found : options.find? fun option => option.1 = "Content-length".toList with
  | none =>
      simp only [Declares, found] at declares
      simp only [contentLength, found, declares]
      rfl
  | some option =>
      simp only [Declares, found] at declares
      obtain ⟨padding, digits, content, leading, nonempty, all, rfl⟩ := declares
      obtain ⟨first, rest, rfl⟩ := List.exists_cons_of_ne_nil nonempty
      have start : (padding ++ first :: rest).dropWhile (fun ch => !ch.isDigit) = first :: rest := by
        rw [List.dropWhile_append_of_pos (by simpa using leading), List.dropWhile_cons_of_neg]
        simpa using all first List.mem_cons_self
      simp only [contentLength, found, content, start, fromView_digits nonempty all, toInt]
      rw [maxMessage] at small
      exact Int.bmod_eq_of_le (by omega) (by omega)

namespace IsRequest

variable {parser : Parser Message} {head body : Text}

/-- What has arrived with the blank line is accepted with the declared length. -/
theorem accepted_received (request : IsRequest parser head body) (first : parser.HeadersFirst)
    (fits : (head ++ needle ++ body).length ≤ maxMessage) {received : Text}
    (part : received <+: head ++ needle ++ body)
    (enough : head.length + needle.length ≤ received.length) :
    ∃ req, parser.parseRtspMessage received = some req ∧
      contentLength (parser.options req) = body.length := by
  obtain ⟨front, accepted, declares⟩ := request.accepted
  have split : received =
      head ++ needle ++ body.take (received.length - (head ++ needle).length) := by
    have whole := List.prefix_iff_eq_take.mp part
    rw [List.take_append, List.take_of_length_le (by rw [List.length_append]; exact enough)]
      at whole
    exact whole
  obtain ⟨req, parsed, same⟩ :=
    first head (body.take (received.length - (head ++ needle).length)) front request.blank accepted
  refine ⟨req, by rw [split]; exact parsed, ?_⟩
  rw [same]
  refine contentLength_of_declares declares ?_
  rw [List.length_append] at fits
  omega

end IsRequest

/-! ## One completion -/

/-- What the socket waits for and has handed over, given where the header search
found the blank line among the chunks and how long a body the headers declare. -/
def Phase (parser : Parser Message) (length : Nat) (past : List Text)
    (socket : Socket Message) : Prop :=
  match scan needle past with
  | none => socket.handled = [] ∧
      socket.awaiting = if socket.begin = maxMessage then .closed else .header
  | some blank => socket.crlf = blank + needle.length ∧
      if blank + needle.length + length ≤ socket.begin then
        socket.awaiting = .handler ∧
          ∃ req, parser.parseRtspMessage past.flatten = some req ∧ socket.handled = [req]
      else
        socket.handled = [] ∧
          socket.awaiting = if socket.begin = maxMessage then .closed else .payload

theorem Phase.header {parser : Parser Message} {length : Nat} {past : List Text}
    {socket : Socket Message} (searching : scan needle past = none)
    (handled : socket.handled = [])
    (awaiting : socket.awaiting = if socket.begin = maxMessage then .closed else .header) :
    Phase parser length past socket := by
  simp only [Phase, searching]
  exact ⟨handled, awaiting⟩

theorem Phase.handled {parser : Parser Message} {length blank : Nat} {past : List Text}
    {socket : Socket Message} {req : Message} (found : scan needle past = some blank)
    (crlf : socket.crlf = blank + needle.length)
    (complete : blank + needle.length + length ≤ socket.begin)
    (awaiting : socket.awaiting = .handler)
    (parsed : parser.parseRtspMessage past.flatten = some req) (handled : socket.handled = [req]) :
    Phase parser length past socket := by
  simp only [Phase, found, if_pos complete]
  exact ⟨crlf, awaiting, req, parsed, handled⟩

theorem Phase.payload {parser : Parser Message} {length blank : Nat} {past : List Text}
    {socket : Socket Message} (found : scan needle past = some blank)
    (crlf : socket.crlf = blank + needle.length)
    (partly : ¬ blank + needle.length + length ≤ socket.begin)
    (handled : socket.handled = [])
    (awaiting : socket.awaiting = if socket.begin = maxMessage then .closed else .payload) :
    Phase parser length past socket := by
  simp only [Phase, found, if_neg partly]
  exact ⟨crlf, handled, awaiting⟩

structure Progress (parser : Parser Message) (length : Nat) (past : List Text)
    (socket : Socket Message) : Prop where
  size : socket.msgBuf.length = maxMessage
  position : socket.begin = past.flatten.length
  content : socket.msgBuf.take past.flatten.length = past.flatten
  phase : Phase parser length past socket

namespace Socket

variable {parser : Parser Message} {socket : Socket Message}

theorem take_store {past : Text} (chunk : Text) (position : socket.begin = past.length)
    (content : socket.msgBuf.take past.length = past) :
    (socket.store chunk).msgBuf.take (past.length + chunk.length) = past ++ chunk := by
  rw [store, position, content, ← List.length_append, List.take_left]

theorem length_store {chunk : Text} (size : socket.msgBuf.length = maxMessage)
    (room : socket.begin + chunk.length ≤ maxMessage) :
    (socket.store chunk).msgBuf.length = maxMessage := by
  simp only [store, List.length_append, List.length_take, List.length_drop]
  omega

/-- The payload handler behind the blank line at `blank`. -/
theorem progress_handlePlaintextPayload {length blank bytes : Nat} {past : List Text}
    (found : scan needle past = some blank)
    (size : socket.msgBuf.length = maxMessage)
    (position : socket.begin + bytes = past.flatten.length)
    (content : socket.msgBuf.take past.flatten.length = past.flatten)
    (crlf : socket.crlf = blank + needle.length)
    (accepted : ∃ req, parser.parseRtspMessage past.flatten = some req ∧
      contentLength (parser.options req) = length)
    (handled : socket.handled = []) :
    Progress parser length past (socket.handlePlaintextPayload parser bytes) := by
  obtain ⟨req, parsed, declared⟩ := accepted
  simp only [handlePlaintextPayload, position, content, parsed, declared, crlf]
  split
  next complete =>
    have enough : blank + needle.length + length ≤ past.flatten.length := by omega
    exact ⟨size, rfl, content, Phase.handled found rfl enough rfl parsed
      (by rw [handled, List.nil_append])⟩
  next missing =>
    have partly : ¬ blank + needle.length + length ≤ past.flatten.length := by omega
    rw [readPlaintextPayload]
    split
    next full =>
      exact ⟨size, rfl, content, Phase.payload found rfl partly handled (if_pos full).symm⟩
    next room =>
      exact ⟨size, rfl, content, Phase.payload found rfl partly handled (if_neg room).symm⟩

/-- The header handler, whose chunk lies behind everything that was read before. -/
theorem progress_handleReadPlaintext {length : Nat} {past : List Text} {chunk : Text}
    (searching : scan needle past = none)
    (size : socket.msgBuf.length = maxMessage)
    (position : socket.begin = past.flatten.length)
    (content : socket.msgBuf.take (past.flatten.length + chunk.length) = past.flatten ++ chunk)
    (accepted : ∀ blank, scan needle (past ++ [chunk]) = some blank →
      ∃ req, parser.parseRtspMessage (past.flatten ++ chunk) = some req ∧
        contentLength (parser.options req) = length)
    (handled : socket.handled = []) :
    Progress parser length (past ++ [chunk]) (socket.handleReadPlaintext parser chunk.length) := by
  have flatten : (past ++ [chunk]).flatten = past.flatten ++ chunk := by
    rw [List.flatten_append, List.flatten_singleton]
  have start : max (past.flatten.length - 4) past.flatten.length = past.flatten.length :=
    Nat.max_eq_right (Nat.sub_le _ _)
  have found := scan_append_singleton needle past chunk
  rw [searching, Option.none_or] at found
  have bound := search_le_length needle chunk
  simp only [handleReadPlaintext, position, start, Nat.sub_self, Nat.add_zero, content,
    List.drop_left]
  split
  next missing =>
    have none : scan needle (past ++ [chunk]) = none := by rw [found, if_neg (by omega)]
    rw [← List.length_append, ← flatten] at content ⊢
    rw [read]
    split
    next full => exact ⟨size, rfl, content, Phase.header none handled (if_pos full).symm⟩
    next room => exact ⟨size, rfl, content, Phase.header none handled (if_neg room).symm⟩
  next present =>
    have inside : search needle chunk < chunk.length := by omega
    rw [if_pos inside] at found
    have fits : search needle chunk + needle.length ≤ chunk.length :=
      fits_of_occurs needle_ne_nil (occurs_search inside)
    refine progress_handlePlaintextPayload found size ?_ ?_ rfl ?_ handled
    · simp only [flatten, List.length_append]
      omega
    · rw [flatten, List.length_append]
      exact content
    · rw [flatten]
      exact accepted _ found

variable {head body : Text}

theorem progress_complete (request : IsRequest parser head body) (first : parser.HeadersFirst)
    (fits : (head ++ needle ++ body).length ≤ maxMessage) {past : List Text} {chunk : Text}
    (nonempty : chunk ≠ []) (part : (past ++ [chunk]).flatten <+: head ++ needle ++ body)
    (progress : Progress parser body.length past socket) :
    Progress parser body.length (past ++ [chunk]) (socket.complete parser (.received chunk)) := by
  obtain ⟨size, position, content, phase⟩ := progress
  have flatten : (past ++ [chunk]).flatten = past.flatten ++ chunk := by
    rw [List.flatten_append, List.flatten_singleton]
  have positive := List.length_pos_iff.mpr nonempty
  have length := part.length_le
  rw [flatten, List.length_append] at length
  have room : socket.begin + chunk.length ≤ maxMessage := by omega
  have notFull : socket.begin ≠ maxMessage := by omega
  have stored : chunk.take (maxMessage - socket.begin) = chunk :=
    List.take_of_length_le (by omega)
  have blank_le (blank : Nat) (found : scan needle (past ++ [chunk]) = some blank) :
      head.length ≤ blank ∧ blank + needle.length ≤ (past.flatten ++ chunk).length := by
    have occurs := scan_occurs needle_ne_nil found
    refine ⟨length_le_of_occurs_append request.blank (occurs.trans (part.drop blank)), ?_⟩
    rw [← flatten]
    exact fits_of_occurs needle_ne_nil occurs
  have accepted (blank : Nat) (found : scan needle (past ++ [chunk]) = some blank) :
      ∃ req, parser.parseRtspMessage (past.flatten ++ chunk) = some req ∧
        contentLength (parser.options req) = body.length := by
    have bounds := blank_le blank found
    rw [← flatten] at bounds ⊢
    exact request.accepted_received first fits part (by omega)
  have front := take_store chunk position content
  have whole := length_store size room
  rw [Phase] at phase
  split at phase
  next searching =>
    obtain ⟨handled, awaiting⟩ := phase
    rw [if_neg notFull] at awaiting
    simp only [complete, awaiting, stored]
    exact progress_handleReadPlaintext searching whole position front accepted handled
  next blank found =>
    have later := scan_snoc_of_scan chunk found
    obtain ⟨lower, -⟩ := blank_le blank later
    obtain ⟨crlf, rest⟩ := phase
    rw [List.length_append, List.length_append] at length
    rw [if_neg (by omega)] at rest
    obtain ⟨handled, awaiting⟩ := rest
    rw [if_neg notFull] at awaiting
    simp only [complete, awaiting, stored]
    refine progress_handlePlaintextPayload later whole ?_ ?_ crlf ?_ handled
    · rw [flatten, List.length_append, ← position]
      rfl
    · rw [flatten, List.length_append]
      exact front
    · rw [flatten]
      exact accepted blank later

/-- A connection that answered `400 BAD REQUEST` is closed. -/
def Rejected (socket : Socket Message) : Prop :=
  socket.rejections = 0 ∨ socket.awaiting = .closed

theorem rejected_handlePlaintextPayload {bytes : Nat} (fresh : socket.rejections = 0) :
    (socket.handlePlaintextPayload parser bytes).Rejected := by
  rw [handlePlaintextPayload]
  split
  · exact .inr rfl
  · split
    · exact .inl fresh
    · rw [readPlaintextPayload]
      split
      · exact .inr rfl
      · exact .inl fresh

theorem rejected_handleReadPlaintext {bytes : Nat} (fresh : socket.rejections = 0) :
    (socket.handleReadPlaintext parser bytes).Rejected := by
  simp only [handleReadPlaintext]
  split
  · rw [read]
    split
    · exact .inr rfl
    · exact .inl fresh
  · exact rejected_handlePlaintextPayload fresh

theorem rejected_complete {completion : Completion} (rejected : socket.Rejected) :
    (socket.complete parser completion).Rejected := by
  rcases rejected with fresh | closed
  · cases waits : socket.awaiting with
    | header =>
        simp only [complete, waits]
        cases completion with
        | failed => exact .inr rfl
        | received chunk => exact rejected_handleReadPlaintext fresh
    | payload =>
        simp only [complete, waits]
        cases completion with
        | failed => exact .inr rfl
        | received chunk => exact rejected_handlePlaintextPayload fresh
    | handler =>
        simp only [complete, waits]
        exact .inl fresh
    | closed =>
        simp only [complete, waits]
        exact .inl fresh
  · simp only [complete, closed]
    exact .inr closed

end Socket

/-! ## All completions -/

/-- The socket after the chunks, each read by one completion. -/
def reads (parser : Parser Message) (msgBuf : Text) (crlf : Nat) (chunks : List Text) :
    Socket Message :=
  Transition.run (Socket.complete parser) (chunks.map .received)
    (Socket.accepted Message msgBuf crlf)

theorem reads_append_singleton (parser : Parser Message) (msgBuf : Text) (crlf : Nat)
    (past : List Text) (chunk : Text) : reads parser msgBuf crlf (past ++ [chunk]) =
      (reads parser msgBuf crlf past).complete parser (.received chunk) := by
  rw [reads, List.map_append, Transition.run_append]
  rfl

variable {parser : Parser Message} {head body msgBuf : Text} {crlf : Nat} {chunks : List Text}

theorem progress_reads (crlf : Nat) (first : parser.HeadersFirst)
    (request : IsRequest parser head body)
    (fits : (head ++ needle ++ body).length ≤ maxMessage) (size : msgBuf.length = maxMessage)
    (nonempty : ∀ chunk ∈ chunks, chunk ≠ []) (part : chunks.flatten <+: head ++ needle ++ body) :
    Progress parser body.length chunks (reads parser msgBuf crlf chunks) := by
  induction chunks using List.reverseRecOn with
  | nil => exact ⟨size, rfl, rfl, Phase.header rfl rfl rfl⟩
  | append_singleton past chunk ih =>
      have before : past.flatten <+: head ++ needle ++ body := by
        refine List.IsPrefix.trans ?_ part
        rw [List.flatten_append]
        exact List.prefix_append _ _
      rw [reads_append_singleton]
      exact Socket.progress_complete request first fits
        (nonempty chunk (List.mem_append_right _ List.mem_cons_self)) part
        (ih (fun other member => nonempty other (List.mem_append_left _ member)) before)

theorem rejected_reads : (reads parser msgBuf crlf chunks).Rejected :=
  Transition.run_preserves (Socket.complete parser) Socket.Rejected
    (fun _ _ => Socket.rejected_complete) _ (.inl rfl)

/-- The handler gets the whole request behind the last chunk and nothing before, and
the connection keeps reading until then and is not rejected. -/
structure HandledOnce (parser : Parser Message) (msgBuf : Text) (crlf : Nat) (message : Text)
    (chunks : List Text) : Prop where
  handled : ∃ req, parser.parseRtspMessage message = some req ∧
    (reads parser msgBuf crlf chunks).handled = [req]
  accepted : (reads parser msgBuf crlf chunks).rejections = 0
  waiting : ∀ past rest, chunks = past ++ rest → rest ≠ [] →
    (reads parser msgBuf crlf past).handled = [] ∧
      ((reads parser msgBuf crlf past).awaiting = .header ∨
        (reads parser msgBuf crlf past).awaiting = .payload)

/-- One chunk holds the whole blank line behind the headers. -/
def BlankWithinChunk (head : Text) (chunks : List Text) : Prop :=
  ∃ before chunk behind, chunks = before ++ chunk :: behind ∧
    before.flatten.length ≤ head.length ∧
    head.length + needle.length ≤ before.flatten.length + chunk.length

theorem blankWithinChunk_iff_scan (request : IsRequest parser head body)
    (cut : chunks.flatten = head ++ needle ++ body) :
    BlankWithinChunk head chunks ↔ scan needle chunks = some head.length := by
  constructor
  · rintro ⟨before, chunk, behind, rfl, lower, upper⟩
    have occurs : needle <+: chunk.drop (head.length - before.flatten.length) := by
      rw [List.flatten_append, List.flatten_cons] at cut
      have aligned := congrArg (List.drop head.length) cut
      rw [List.append_assoc head, List.drop_left, List.drop_append,
        List.drop_eq_nil_of_le lower, List.nil_append,
        List.drop_append_of_le_length (by omega)] at aligned
      refine List.prefix_of_prefix_length_le (List.prefix_append needle body) ?_ ?_
      · rw [← aligned]
        exact List.prefix_append _ _
      · rw [List.length_drop]
        omega
    obtain ⟨position, found, least⟩ :=
      scan_le_of_occurs needle_ne_nil before behind occurs
    have lowest := length_le_of_occurs_append request.blank (by
      rw [← cut]
      exact scan_occurs needle_ne_nil found)
    rw [found]
    congr 1
    omega
  · intro found
    obtain ⟨before, chunk, behind, rfl, lower, upper, -⟩ :=
      exists_piece_of_scan needle_ne_nil found
    exact ⟨before, chunk, behind, rfl, lower, upper⟩

/-- A connection that has not got all chunks yet keeps reading. -/
theorem waiting_of_missing (first : parser.HeadersFirst) (request : IsRequest parser head body)
    (fits : (head ++ needle ++ body).length ≤ maxMessage) (size : msgBuf.length = maxMessage)
    (nonempty : ∀ chunk ∈ chunks, chunk ≠ []) (cut : chunks.flatten = head ++ needle ++ body)
    {past rest : List Text} (split : chunks = past ++ rest) (missing : rest ≠ []) :
    (reads parser msgBuf crlf past).handled = [] ∧
      ((reads parser msgBuf crlf past).awaiting = .header ∨
        (reads parser msgBuf crlf past).awaiting = .payload) := by
  subst split
  obtain ⟨next, later, rfl⟩ := List.exists_cons_of_ne_nil missing
  have positive := List.length_pos_iff.mpr
    (nonempty next (List.mem_append_right _ List.mem_cons_self))
  have lengths := congrArg List.length cut
  simp only [List.flatten_append, List.flatten_cons, List.length_append] at lengths fits
  have part : past.flatten <+: head ++ needle ++ body := by
    rw [← cut, List.flatten_append]
    exact List.prefix_append _ _
  have progress := progress_reads crlf first request
    (by simpa only [List.length_append] using fits) size
    (fun chunk member => nonempty chunk (List.mem_append_left _ member)) part
  have phase := progress.phase
  rw [Phase, progress.position] at phase
  have room : past.flatten.length ≠ maxMessage := by omega
  split at phase
  next =>
    rw [if_neg room] at phase
    exact ⟨phase.1, .inl phase.2⟩
  next blank found =>
    have occurs := (scan_occurs needle_ne_nil found).trans (part.drop blank)
    have lower := length_le_of_occurs_append request.blank occurs
    rw [if_neg (by omega), if_neg room] at phase
    exact ⟨phase.2.1, .inr phase.2.2⟩

/-- Requests by their blank line alone: the lines in front of it behind the first are
the options, what stands behind it is the payload. -/
def blankLineParser : Parser (List (Text × Text) × Text) where
  parseRtspMessage text :=
    if search needle text < text.length then
      some (((lines false [] (text.take (search needle text) ++ needle)).tail.map fun line =>
          (line.takeWhile (· != ':'), (line.dropWhile (· != ':')).tail)),
        text.drop (search needle text + needle.length))
    else none
  options := Prod.fst

theorem blankLineParser_headersFirst : blankLineParser.HeadersFirst := by
  intro head body req ends parsed
  have later := search_append body needle_ne_nil ends
  have positive := List.length_pos_iff.mpr needle_ne_nil
  simp only [blankLineParser, ends] at parsed ⊢
  rw [if_pos (by rw [List.length_append]; omega)] at parsed
  cases parsed
  rw [later, if_pos (by simp only [List.length_append]; omega), List.append_assoc head,
    List.take_left, List.take_left]
  exact ⟨_, rfl, rfl⟩

def smallHead : Text := "ANNOUNCE / RTSP/1.0\r\nContent-length: 3".toList

def smallBody : Text := "a=b".toList

theorem small_isRequest : IsRequest blankLineParser smallHead smallBody where
  blank := by decide
  accepted := ⟨_, rfl, [' '], ['3'], rfl, List.forall_mem_singleton.mpr rfl,
    List.cons_ne_nil _ _, List.forall_mem_singleton.mpr rfl, rfl⟩

def smallChunks : List Text := [smallHead, needle ++ ['a'], ['=', 'b']]

/-- The same request, cut inside its blank line. -/
def blankCut : List Text := [smallHead ++ ['\r', '\n'], ['\r', '\n'] ++ smallBody]

end UmbraHost.Rtsp
