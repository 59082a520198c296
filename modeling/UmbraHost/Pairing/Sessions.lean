import UmbraHost.ClientStore.Edits

/-! # Pairing sessions

The pairing of `nvhttp.cpp`: `pair` with its four phases, `pin`, `request_otp` and the part
of `unpair` that drops a pending session.  Requests are handled one at a time and the PIN is
not read from the console.  Strings are lists of bytes. -/

namespace UmbraHost.Pairing

open UmbraHost.Tables

abbrev Bytes := List UInt8

def ascii (text : String) : Bytes := text.toList.map fun char => UInt8.ofNat char.toNat

def textOf (bytes : Bytes) : String := String.ofList (bytes.map fun byte => Char.ofNat byte.toNat)

/-! ## Hexadecimal -/

def isDigit (byte : UInt8) : Bool := 48 ≤ byte && byte ≤ 57

def isConvertable (byte : UInt8) : Bool :=
  isDigit byte || (97 ≤ byte ||| 32 && byte ||| 32 ≤ 122)

def convert (byte : UInt8) : UInt8 :=
  if isDigit byte then byte - 48 else (byte ||| 32) - 97 + 10

/-- Digits from the last one on, two for each byte. -/
def pairDigits : List UInt8 → Bytes
  | right :: left :: rest => (left <<< 4 ||| right) :: pairDigits rest
  | _ => []

/-- `from_hex_vec`, reversed. -/
def fromHexVec (hex : Bytes) : Bytes :=
  (pairDigits ((hex.filter isConvertable).map convert).reverse).reverse

/-- `from_hex` of a 16-byte array, reversed. -/
def fromHex16 (hex : Bytes) : Bytes :=
  let buf := pairDigits ((hex.filter isConvertable).map convert).reverse
  (buf ++ List.replicate (16 - buf.length) 0).reverse

def hexDigit (value : UInt8) : UInt8 := if value < 10 then value + 48 else value + 55

def hex (bytes : Bytes) : Bytes :=
  bytes.flatMap fun byte => [hexDigit (byte / 16), hexDigit (byte % 16)]

/-! ## Sessions -/

/-- The cryptographic functions, and the certificate and key of the server. -/
structure Primitives (Cert : Type) where
  hash : Bytes → Bytes
  encrypt : Bytes → Bytes → Bytes
  decrypt : Bytes → Bytes → Bytes
  x509 : Bytes → Option Cert
  signature : Cert → Bytes
  verify256 : Cert → Bytes → Bytes → Bool
  serverCert : Bytes
  serverSignature : Bytes
  /-- `sign256` with the key of the server. -/
  sign256 : Bytes → Bytes

inductive PairPhase where
  | none | getServerCert | clientChallenge | serverChallengeResp | clientPairingSecret
deriving DecidableEq

structure PairSession where
  createdAt : Nat
  uniqueId : Bytes
  cert : Bytes
  name : Bytes
  cipherKey : Option Bytes
  clientHash : Bytes
  serverSecret : Bytes
  serverChallenge : Bytes
  /-- A request waits for the PIN. -/
  response : Bool
  salt : Bytes
  lastPhase : PairPhase

structure Reply where
  paired : Option Nat
  statusCode : Option Nat
  statusMessage : Option String
  /-- `plaincert`, `challengeresponse` or `pairingsecret`. -/
  value : Option Bytes

namespace Reply

def empty : Reply := ⟨none, none, none, none⟩

def error (statusCode : Nat) (message : String) : Reply :=
  { empty with statusCode := some statusCode, statusMessage := some message }

def failPair (reply : Reply) (message : String) : Reply :=
  { reply with paired := some 0, statusCode := some 400, statusMessage := some message }

def succeed (reply : Reply) (value : Bytes) : Reply :=
  { reply with paired := some 1, statusCode := some 200, value := some value }

end Reply

/-- A client handed to `add_authorized_client`. -/
structure Authorized where
  name : Bytes
  cert : Bytes
deriving DecidableEq

variable {Cert : Type} (primitives : Primitives Cert)

def genAesKey (salt pin : Bytes) : Bytes := (primitives.hash (salt ++ pin)).take 16

/-! ## Phases

The session after a phase; without one the phase has removed it. -/

def getServerCert (session : PairSession) (reply : Reply) (pin : Bytes) :
    Reply × Option PairSession :=
  if session.lastPhase ≠ .none then
    (reply.failPair "Out of order call to getservercert", none)
  else if session.salt.length < 32 then (reply.failPair "Salt too short", none)
  else
    (reply.succeed (hex primitives.serverCert),
      some { session with
        lastPhase := .getServerCert
        cipherKey := some (genAesKey primitives (fromHex16 (session.salt.take 32)) pin) })

def clientChallenge (session : PairSession) (challenge serverSecret serverChallenge : Bytes) :
    Reply × Option PairSession :=
  if session.lastPhase ≠ .getServerCert then
    (Reply.empty.failPair "Out of order call to clientchallenge", none)
  else
    match session.cipherKey with
    | none => (Reply.empty.failPair "Cipher key not set", none)
    | some key =>
      let decrypted := primitives.decrypt key challenge
      let hash := primitives.hash (decrypted ++ primitives.serverSignature ++ serverSecret)
      (Reply.empty.succeed (hex (primitives.encrypt key (hash ++ serverChallenge))),
        some { session with lastPhase := .clientChallenge, serverSecret, serverChallenge })

def serverChallengeResp (session : PairSession) (encryptedResponse : Bytes) :
    Reply × Option PairSession :=
  if session.lastPhase ≠ .clientChallenge then
    (Reply.empty.failPair "Out of order call to serverchallengeresp", none)
  else
    match session.cipherKey with
    | none => (Reply.empty.failPair "Cipher key or serversecret not set", none)
    | some key =>
      if session.serverSecret = [] then
        (Reply.empty.failPair "Cipher key or serversecret not set", none)
      else
        (Reply.empty.succeed
            (hex (session.serverSecret ++ primitives.sign256 session.serverSecret)),
          some { session with
            lastPhase := .serverChallengeResp
            clientHash := primitives.decrypt key encryptedResponse })

/-- The name that a client is added under. -/
def authorizedName (name : Bytes) : Bytes :=
  let shown := ClientStore.displayClientNameForSession (textOf name) "" "Moonlight Client"
  ascii (String.ofList (shown.toList.map ClientStore.bracket))

/-- The session is removed in every case. -/
def clientPairingSecret (session : PairSession) (clientPairingSecret : Bytes) :
    Reply × Option Authorized :=
  if session.lastPhase ≠ .serverChallengeResp then
    (Reply.empty.failPair "Out of order call to clientpairingsecret", none)
  else if clientPairingSecret.length ≤ 16 then
    (Reply.empty.failPair "Client pairing secret too short", none)
  else
    let secret := clientPairingSecret.take 16
    let sign := clientPairingSecret.drop 16
    match primitives.x509 session.cert with
    | none => (Reply.empty.failPair "Invalid client certificate", none)
    | some x509 =>
      let hash := primitives.hash (session.serverChallenge ++ primitives.signature x509 ++ secret)
      if hash = session.clientHash ∧ primitives.verify256 x509 secret sign = true then
        if ClientStore.isPlaceholderClientName (textOf session.name) then
          ({ Reply.empty with paired := some 1 }, none)
        else
          ({ Reply.empty with paired := some 1, statusCode := some 200 },
            some { name := authorizedName session.name, cert := session.cert })
      else ({ Reply.empty with paired := some 0, statusCode := some 200 }, none)

/-! ## Requests -/

/-- The first value of each parameter of a query. -/
abbrev Args := Bytes → Option Bytes

structure GetServerCert where
  uniqueId : Bytes
  deviceName : Bytes
  clientCert : Bytes
  salt : Option Bytes
  otpAuth : Option Bytes

inductive Request where
  /-- Answered, or given up with an exception, before any session is looked at. -/
  | refused (reply : Reply)
  | getServerCert (arguments : GetServerCert)
  | clientChallenge (uniqueId challenge : Bytes)
  | serverChallengeResp (uniqueId response : Bytes)
  | clientPairingSecret (uniqueId secret : Bytes)
  | invalid (uniqueId : Bytes)

/-- The branches of `pair` on the arguments. -/
def Request.ofArgs (enablePairing : Bool) (args : Args) : Request :=
  if enablePairing = false then .refused (.error 403 "Pairing is disabled for this instance")
  else
    match args (ascii "uniqueid") with
    | none => .refused (.error 400 "Missing uniqueid parameter")
    | some uniqueId =>
      if args (ascii "phrase") = some (ascii "getservercert") then
        match args (ascii "devicename"), args (ascii "clientcert") with
        | some deviceName, some clientCert =>
          .getServerCert {
            uniqueId, clientCert
            deviceName :=
              if deviceName = ascii "roth" then ascii "Legacy Moonlight Client" else deviceName
            salt := args (ascii "salt")
            otpAuth := args (ascii "otpauth") }
        | _, _ => .refused .empty
      else if args (ascii "phrase") = some (ascii "pairchallenge") then
        .refused { Reply.empty with paired := some 1, statusCode := some 200 }
      else
        match args (ascii "clientchallenge") with
        | some challenge => .clientChallenge uniqueId challenge
        | none =>
          match args (ascii "serverchallengeresp") with
          | some response => .serverChallengeResp uniqueId response
          | none =>
            match args (ascii "clientpairingsecret") with
            | some secret => .clientPairingSecret uniqueId secret
            | none => .invalid uniqueId

/-- The random values that a request draws. -/
structure Draws where
  pin : Bytes
  serverSecret : Bytes
  serverChallenge : Bytes

structure State where
  /-- `map_id_sess`. -/
  sessions : Table Bytes PairSession
  oneTimePin : Bytes
  otpPassphrase : Bytes
  otpDeviceName : Bytes
  otpCreationTime : Nat

/-- `OTP_EXPIRE_DURATION`, in seconds. -/
def otpExpireDuration : Nat := 180

/-- The age in seconds from which `pin` drops a session that has no PIN yet. -/
def pairingSessionExpiry : Nat := 600

namespace State

def initial : State := ⟨∅, [], [], [], 0⟩

variable (state : State)

def clearOtp : State := { state with oneTimePin := [], otpPassphrase := [], otpDeviceName := [] }

def otpAvailable (now : Nat) : Bool :=
  state.oneTimePin ≠ [] && now - state.otpCreationTime ≤ otpExpireDuration

/-- The one-time PIN is there and the request has its hash. -/
def otpMatches (now : Nat) (salt otpAuth : Bytes) : Bool :=
  state.otpAvailable now &&
    hex (primitives.hash (state.oneTimePin ++ salt ++ state.otpPassphrase)) = otpAuth

/-- `remove_session`. -/
def removeSession (session : PairSession) : State :=
  { state with sessions := state.sessions.erase session.uniqueId }

/-- What a phase leaves of the session in the map. -/
def keep (uniqueId : Bytes) (session : PairSession) : Option PairSession → State
  | none => state.removeSession session
  | some next => { state with sessions := state.sessions.insert uniqueId next }

/-- The session of a `getservercert` request. -/
def opened (arguments : GetServerCert) (now : Nat) : PairSession where
  createdAt := now
  uniqueId := arguments.uniqueId
  cert := fromHexVec arguments.clientCert
  name := arguments.deviceName
  cipherKey := none
  clientHash := []
  serverSecret := []
  serverChallenge := []
  response := false
  salt := arguments.salt.getD []
  lastPhase := .none

def openSession (arguments : GetServerCert) (now : Nat) (draws : Draws) : State × Reply :=
  let session := opened arguments now
  let uniqueId := arguments.uniqueId
  match arguments.salt, arguments.otpAuth with
  -- `get_arg` throws
  | none, _ => (state.keep uniqueId session (some session), .empty)
  | some _, none =>
    (state.keep uniqueId session (some { session with response := true }), .empty)
  | some salt, some otpAuth =>
    if state.otpMatches primitives now salt otpAuth then
      let session :=
        if state.otpDeviceName = [] then session else { session with name := state.otpDeviceName }
      let (reply, next) := getServerCert primitives session .empty state.oneTimePin
      ((state.keep uniqueId session next).clearOtp, reply)
    else
      -- Attackers are answered as well and fail in the next steps.
      let (reply, next) := getServerCert primitives session
        (if state.otpAvailable now then .empty else .error 503 "OTP auth not available.") draws.pin
      let state := if state.otpAvailable now then state else state.clearOtp
      (state.keep uniqueId session next, reply)

/-- `pair`, with the client that is handed to `add_authorized_client`. -/
def pair (request : Request) (now : Nat) (draws : Draws) : State × Reply × Option Authorized :=
  let missing : State × Reply × Option Authorized :=
    (state, .error 400 "Invalid uniqueid", none)
  match request with
  | .refused reply => (state, reply, none)
  | .getServerCert arguments =>
    let (after, reply) := state.openSession primitives arguments now draws
    (after, reply, none)
  | .clientChallenge uniqueId challenge =>
    match state.sessions.lookup uniqueId with
    | none => missing
    | some session =>
      let (reply, next) := clientChallenge primitives session (fromHexVec challenge)
        draws.serverSecret draws.serverChallenge
      (state.keep uniqueId session next, reply, none)
  | .serverChallengeResp uniqueId response =>
    match state.sessions.lookup uniqueId with
    | none => missing
    | some session =>
      let (reply, next) := serverChallengeResp primitives session (fromHexVec response)
      (state.keep uniqueId session next, reply, none)
  | .clientPairingSecret uniqueId secret =>
    match state.sessions.lookup uniqueId with
    | none => missing
    | some session =>
      let (reply, authorized) := clientPairingSecret primitives session (fromHexVec secret)
      (state.removeSession session, reply, authorized)
  | .invalid uniqueId =>
    match state.sessions.lookup uniqueId with
    | none => missing
    | some _ => (state, .error 404 "Invalid pairing request", none)

/-- The loop that looks for the newest session without a PIN. -/
def newestPending (sessions : Table Bytes PairSession) :
    List Bytes → Option (Bytes × PairSession) → Option (Bytes × PairSession)
  | [], newest => newest
  | uniqueId :: rest, newest =>
    match sessions.lookup uniqueId with
    | none => newestPending sessions rest newest
    | some session =>
      if session.lastPhase ≠ .none then newestPending sessions rest newest
      else
        match newest with
        | none => newestPending sessions rest (some (uniqueId, session))
        | some (other, candidate) =>
          newestPending sessions rest
            (if candidate.createdAt < session.createdAt then some (uniqueId, session)
            else some (other, candidate))

/-- `pin`, with whether it was taken. The loops over the map visit its keys in an unspecified
order, those that `order` names first. -/
def pin (pin name : Bytes) (now : Nat) (order : List Bytes) : State × Bool :=
  if state.sessions.entries = [] then (state, false)
  else if pin.length ≠ 4 then (state, false)
  else if pin.all isDigit = false then (state, false)
  else
    let sessions := eraseIf (fun _ session =>
      session.lastPhase = .none && pairingSessionExpiry < now - session.createdAt) state.sessions
    let state := { state with sessions }
    match newestPending sessions (order ++ sessions.keys) none with
    | none => (state, false)
    | some (uniqueId, session) =>
      if session.salt.length < 32 then (state.removeSession session, false)
      else
        let (_, next) := getServerCert primitives session .empty pin
        let next := next.map fun session =>
          { session with name := if name = [] then session.name else name }
        if session.response then
          (state.keep uniqueId session (next.map fun session =>
            { session with response := false }), true)
        else (state.removeSession session, false)

/-- `request_otp`; `generated` is the new PIN. -/
def requestOtp (passphrase deviceName generated : Bytes) (now : Nat) : State :=
  if passphrase.length < 4 then state
  else
    { state with
      oneTimePin := generated, otpPassphrase := passphrase, otpDeviceName := deviceName
      otpCreationTime := now }

/-- `unpair`, over HTTP or HTTPS, without `unpair_client`. -/
def unpair (uniqueId : Bytes) : State :=
  if uniqueId = [] then state else { state with sessions := state.sessions.erase uniqueId }

end State

inductive Event where
  | pair (enablePairing : Bool) (args : Args) (now : Nat) (draws : Draws)
  | pin (pin name : Bytes) (now : Nat) (order : List Bytes)
  | requestOtp (passphrase deviceName generated : Bytes) (now : Nat)
  | unpair (uniqueId : Bytes)

def step (event : Event) (state : State) : State :=
  match event with
  | .pair enablePairing args now draws =>
    (state.pair primitives (.ofArgs enablePairing args) now draws).1
  | .pin pin name now order => (state.pin primitives pin name now order).1
  | .requestOtp passphrase deviceName generated now =>
    state.requestOtp passphrase deviceName generated now
  | .unpair uniqueId => state.unpair uniqueId

/-- The client that the event hands to `add_authorized_client`. -/
def authorizes (event : Event) (state : State) : Option Authorized :=
  match event with
  | .pair enablePairing args now draws =>
    (state.pair primitives (.ofArgs enablePairing args) now draws).2.2
  | _ => none

end UmbraHost.Pairing
