import UmbraHost.StateFiles.Clients

/-! # Client identities of HTTPS connections

The verify callback of the HTTPS server, which runs on its one thread after each
handshake, and `get_verified_cert` (`nvhttp.cpp`), which a request runs on that thread
or on a thread of a route pool.  A step ends where a lock is released or the endpoint
of a socket has been read.  The map of identities is only written on the HTTPS thread. -/

namespace UmbraHost.ClientIdentity

open UmbraHost.StateFiles

/-- The signatures of certificates: of one that a peer presented, and of a stored text
when it parses. -/
structure Signatures (Cert Signature : Type) where
  signature : Cert → Signature
  stored : String → Option Signature

structure ResolvedClientIdentity where
  uuid : String
  name : String

/-- An accepted connection. The socket is the only thing that knows its endpoint, as long
as it is open. -/
structure Connection (Endpoint Cert : Type) where
  endpoint : Endpoint
  peer : Option Cert
  isOpen : Bool
  verified : Bool

/-- How far a run of `get_verified_cert` for a request of a connection has come. -/
inductive Lookup (Endpoint : Type) where
  | start (conn : Nat)
  | keyed (conn : Nat) (key : Option Endpoint)
  | remembered (conn : Nat) (identity : Option ResolvedClientIdentity)
  | unknown (conn : Nat)
  | answered

/-- The HTTPS thread. -/
inductive Https (Endpoint : Type) where
  | idle
  | forgot (conn : Nat)
  | resolved (conn : Nat) (identity : Option ResolvedClientIdentity)
  | serving (lookup : Lookup Endpoint)

/-- What a request got, with the clients there were. -/
structure Answer where
  conn : Nat
  clients : List NamedCert
  client : Option NamedCert

structure State (Endpoint Cert : Type) where
  clients : List NamedCert
  /-- Every client that was ever paired. -/
  issued : List NamedCert
  identities : Endpoint → Option ResolvedClientIdentity
  /-- The connection that an identity was remembered for. -/
  rememberedFor : Endpoint → Nat
  accepted : Nat
  connections : Nat → Option (Connection Endpoint Cert)
  /-- `tl_peer_certificate` of the HTTPS thread; on a pool thread it is never set. -/
  peerCertificate : Option Cert
  https : Https Endpoint
  pool : Nat → Option (Lookup Endpoint)
  answers : List Answer

inductive Event (Endpoint Cert : Type) where
  | pair (client : NamedCert)
  | unpair (uuid : String)
  | connect (endpoint : Endpoint) (peer : Option Cert)
  | close (conn : Nat)
  | verify (conn : Nat)
  /-- The certificate check, and `resolve_client_identity_from_peer_cert`. -/
  | resolve (verified : Bool)
  | remember
  | request (conn : Nat)
  | requestOnPool (task conn : Nat)
  | advance
  | advanceOnPool (task : Nat)

variable {Endpoint Cert Signature : Type} [DecidableEq Endpoint] [DecidableEq Signature]
  (signatures : Signatures Cert Signature)

namespace State

variable (state : State Endpoint Cert)

def endpointKey (conn : Nat) : Option Endpoint :=
  (state.connections conn).bind fun connection =>
    if connection.isOpen then some connection.endpoint else none

def peer (conn : Nat) : Option Cert := (state.connections conn).bind Connection.peer

/-- A request can arrive on the connection. -/
def readable (conn : Nat) : Bool :=
  match state.connections conn with
  | none => false
  | some connection => connection.isOpen && connection.verified

/-- No open connection has the endpoint. -/
def free (endpoint : Endpoint) : Bool :=
  (List.range state.accepted).all fun conn => state.endpointKey conn ≠ some endpoint

/-- The first stored client with the certificate's signature. -/
def withSignature (cert : Cert) : Option NamedCert :=
  state.clients.find? fun client => signatures.stored client.cert = some (signatures.signature cert)

/-- Without an endpoint nothing is forgotten. -/
def forget (key : Option Endpoint) : State Endpoint Cert :=
  { state with
    identities := fun endpoint => if key = some endpoint then none else state.identities endpoint }

/-- Without an endpoint nothing is remembered, nor an identity without identifier. -/
def rememberIdentity (conn : Nat) (key : Option Endpoint)
    (identity : ResolvedClientIdentity) : State Endpoint Cert :=
  if identity.uuid = "" then state
  else
    { state with
      identities := fun endpoint =>
        if key = some endpoint then some identity else state.identities endpoint
      rememberedFor := fun endpoint =>
        if key = some endpoint then conn else state.rememberedFor endpoint }

/-- One step of `get_verified_cert` on a thread with the given `tl_peer_certificate`. -/
def lookupStep (peerCertificate : Option Cert) : Lookup Endpoint → Lookup Endpoint × List Answer
  | .start conn => (.keyed conn (state.endpointKey conn), [])
  | .keyed conn key => (.remembered conn (key.bind state.identities), [])
  | .remembered conn none => (.unknown conn, [])
  | .remembered conn (some identity) =>
    match state.clients.find? fun client => client.uuid = identity.uuid with
    | none => (.unknown conn, [])
    | some client => (.answered, [⟨conn, state.clients, some client⟩])
  | .unknown conn => (.answered, [⟨conn, state.clients,
      peerCertificate.bind (state.withSignature signatures)⟩])
  | .answered => (.answered, [])

/-- An event that cannot happen in a state changes nothing. A new client has an
identifier that was never used before. -/
def step (event : Event Endpoint Cert) (state : State Endpoint Cert) : State Endpoint Cert :=
  match event with
  | .pair client =>
    if state.issued.all fun old => old.uuid ≠ client.uuid then
      { state with clients := state.clients ++ [client], issued := state.issued ++ [client] }
    else state
  | .unpair uuid =>
    { state with clients := state.clients.filter fun client => client.uuid ≠ uuid }
  | .connect endpoint peer =>
    if state.free endpoint then
      { state with
        accepted := state.accepted + 1
        connections := Function.update state.connections state.accepted
          (some ⟨endpoint, peer, true, false⟩) }
    else state
  | .close conn =>
    match state.connections conn with
    | none => state
    | some connection =>
      { state with
        connections := Function.update state.connections conn
          (some { connection with isOpen := false }) }
  | .verify conn =>
    match state.https, state.connections conn with
    | .idle, some connection =>
      if connection.verified then state
      else
        let state := { state with peerCertificate := none }
        let state := state.forget (state.endpointKey conn)
        { state with https := .forgot conn }
    | _, _ => state
  | .resolve verified =>
    match state.https with
    | .forgot conn =>
      match state.peer conn with
      | none => { state with https := .idle }
      | some cert =>
        if verified then
          let identity := (state.withSignature signatures cert).map fun client =>
            ⟨client.uuid, client.name⟩
          { state with https := .resolved conn identity }
        else { state with https := .idle }
    | _ => state
  | .remember =>
    match state.https with
    | .resolved conn identity =>
      match state.connections conn with
      | none => state
      | some connection =>
        let state := match identity with
          | none => state
          | some identity => state.rememberIdentity conn (state.endpointKey conn) identity
        { state with
          peerCertificate := connection.peer
          connections := Function.update state.connections conn
            (some { connection with verified := true })
          https := .idle }
    | _ => state
  | .request conn =>
    match state.https with
    | .idle =>
      if state.readable conn then { state with https := .serving (.start conn) } else state
    | _ => state
  | .requestOnPool task conn =>
    match state.pool task with
    | none =>
      if state.readable conn then
        { state with pool := Function.update state.pool task (some (.start conn)) }
      else state
    | some _ => state
  | .advance =>
    match state.https with
    | .serving .answered => { state with https := .idle }
    | .serving lookup =>
      let (lookup, answers) := state.lookupStep signatures state.peerCertificate lookup
      { state with https := .serving lookup, answers := state.answers ++ answers }
    | _ => state
  | .advanceOnPool task =>
    match state.pool task with
    | none => state
    | some lookup =>
      let (lookup, answers) := state.lookupStep signatures none lookup
      { state with
        pool := Function.update state.pool task (some lookup)
        answers := state.answers ++ answers }

/-- A server that has just started, with the clients of its state file. -/
def initial (clients : List NamedCert) : State Endpoint Cert where
  clients := clients
  issued := clients
  identities := fun _ => none
  rememberedFor := fun _ => 0
  accepted := 0
  connections := fun _ => none
  peerCertificate := none
  https := .idle
  pool := fun _ => none
  answers := []

end State

end UmbraHost.ClientIdentity
