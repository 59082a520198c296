import UmbraHost.Bytes.Search
import UmbraHost.Rtsp.Announce

/-! # Reading a plaintext request

The read completions of an RTSP connection without encryption (`socket_t` in
`rtsp.cpp`).  The parser of the messages is a parameter. -/

namespace UmbraHost.Rtsp

open UmbraHost.Search

/-- The parser of `moonlight-common-c`: the message it builds from a text it
accepts, and the options of that message. -/
structure Parser (Message : Type u) where
  parseRtspMessage : Text → Option Message
  options : Message → List (Text × Text)

/-- The size of `msg_buf`. -/
def maxMessage : Nat := 2048

def needle : Text := ['\r', '\n', '\r', '\n']

theorem needle_ne_nil : needle ≠ [] := List.cons_ne_nil _ _

/-! ## The declared length -/

/-- `Content-length`, from the first digit of its value; `0` without it. -/
def contentLength (options : List (Text × Text)) : Int :=
  match options.find? fun option => option.1 = "Content-length".toList with
  | none => 0
  | some (_, content) => toInt (fromView (content.dropWhile fun ch => !ch.isDigit))

/-! ## The connection -/

/-- What a connection waits for. -/
inductive Awaiting where
  | header
  | payload
  /-- The handler has the request and no read is queued. -/
  | handler
  /-- The connection was closed. -/
  | closed
deriving DecidableEq, Repr

/-- `msgBuf` has `maxMessage` characters; `begin` and `crlf` are offsets in it. -/
structure Socket (Message : Type u) where
  msgBuf : Text
  begin : Nat
  crlf : Nat
  awaiting : Awaiting
  /-- The requests the handler was called with. -/
  handled : List Message
  /-- The responses `400 BAD REQUEST`. -/
  rejections : Nat
deriving DecidableEq, Repr

/-- The first read of an accepted connection; `msg_buf` and `crlf` are not initialized. -/
def Socket.accepted (Message : Type u) (msgBuf : Text) (crlf : Nat) : Socket Message where
  msgBuf := msgBuf
  begin := 0
  crlf := crlf
  awaiting := .header
  handled := []
  rejections := 0

/-- The completion of a read: an error, or characters that are there for it. -/
inductive Completion where
  | failed
  | received (chunk : Text)
deriving DecidableEq, Repr

namespace Socket

variable {Message : Type u} (parser : Parser Message)

def reject (socket : Socket Message) : Socket Message :=
  { socket with awaiting := .closed, rejections := socket.rejections + 1 }

def read (socket : Socket Message) : Socket Message :=
  if socket.begin = maxMessage then socket.reject else { socket with awaiting := .header }

def readPlaintextPayload (socket : Socket Message) : Socket Message :=
  if socket.begin = maxMessage then socket.reject else { socket with awaiting := .payload }

def handlePlaintextPayload (bytes : Nat) (socket : Socket Message) : Socket Message :=
  let stop := socket.begin + bytes
  match parser.parseRtspMessage (socket.msgBuf.take stop) with
  | none => socket.reject
  | some req =>
      if (stop : Int) - socket.crlf ≥ contentLength (parser.options req) then
        { socket with
          begin := stop
          awaiting := .handler
          handled := socket.handled ++ [req] }
      else readPlaintextPayload { socket with begin := stop }

/-- The search starts at the larger of `begin - 4` and `begin`. -/
def handleReadPlaintext (bytes : Nat) (socket : Socket Message) : Socket Message :=
  let start := max (socket.begin - 4) socket.begin
  let bufSize := bytes + (start - socket.begin)
  let stop := start + bufSize
  let it := start + search needle ((socket.msgBuf.take stop).drop start)
  if it = stop then read { socket with begin := stop }
  else
    handlePlaintextPayload parser (stop - (it + needle.length))
      { socket with begin := it + needle.length, crlf := it + needle.length }

/-- `async_read_some` puts at most what the rest of the buffer holds to `begin`. -/
def store (chunk : Text) (socket : Socket Message) : Socket Message :=
  { socket with
    msgBuf := socket.msgBuf.take socket.begin ++ chunk ++
      socket.msgBuf.drop (socket.begin + chunk.length) }

def complete (completion : Completion) (socket : Socket Message) : Socket Message :=
  match socket.awaiting, completion with
  | .header, .failed | .payload, .failed => { socket with awaiting := .closed }
  | .header, .received chunk =>
      let bytes := chunk.take (maxMessage - socket.begin)
      handleReadPlaintext parser bytes.length (socket.store bytes)
  | .payload, .received chunk =>
      let bytes := chunk.take (maxMessage - socket.begin)
      handlePlaintextPayload parser bytes.length (socket.store bytes)
  | .handler, _ | .closed, _ => socket

end Socket

end UmbraHost.Rtsp
