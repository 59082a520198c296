import UmbraHost.Stream.Packetization
import UmbraHost.Transition.Run

/-! # One launch session

The RTSP connections of a launch session with encrypted RTSP, the startup tasks
of its ANNOUNCE requests, the streaming sessions they create, and every use of
the launch session's key with AES-GCM by the host (`rtsp.cpp`, `stream.cpp`).
The steps of the threads are taken one after another. -/

namespace UmbraHost.Rtsp

open UmbraHost.Stream

/-- What an ANNOUNCE decides about encryption. -/
structure EncryptionConfig where
  controlProtocolType : Int
  /-- `SS_ENC_CONTROL_V2`. -/
  controlV2 : Bool
  /-- `SS_ENC_VIDEO`. -/
  video : Bool
deriving DecidableEq, Repr

structure StreamSession where
  config : EncryptionConfig
  /-- `control.seq`. -/
  seq : Nat := 0
  gcmIvCounter : Nat := 0
  /-- `control.peer` is set. -/
  peer : Bool := false
deriving DecidableEq, Repr

/-! ## Uses of the key -/

inductive Origin where
  | rtsp
  | control (session : Nat) (v2 : Bool)
  | video (session : Nat)
deriving DecidableEq, Repr

/-- The counter that the IV is made from. -/
structure Encryption where
  origin : Origin
  counter : Nat
deriving DecidableEq, Repr

/-- The bytes of the IV; the counters are stored with their own widths. -/
def Encryption.iv (encryption : Encryption) : Bytes :=
  match encryption.origin with
  | .rtsp => little 4 encryption.counter ++ zeros 6 ++ [0x48, 0x52]
  | .control _ true => little 4 encryption.counter ++ zeros 6 ++ [0x48, 0x43]
  -- The old style: one byte of the sequence number in 16.
  | .control _ false => little 1 encryption.counter ++ zeros 15
  | .video _ => little 8 encryption.counter ++ zeros 3 ++ [0x56]

/-! ## The server -/

structure Server where
  /-- The launch session is queued and has not expired. -/
  launchPending : Bool := true
  /-- The address that reserved it. -/
  reservedBy : Option String := none
  rtspIvCounter : Nat := 0
  /-- Connections whose request has not been handled. -/
  connections : Nat := 0
  startupTasks : List EncryptionConfig := []
  /-- Posted ANNOUNCE completions. -/
  completions : Nat := 0
  sessions : List StreamSession := []
  encryptions : List Encryption := []
deriving DecidableEq, Repr

inductive Event where
  /-- A connection from an address; the empty address is an unknown one. -/
  | accept (remoteAddress : String)
  /-- A request, or a read that fails.  An ANNOUNCE that is accepted for startup
  gives its configuration; everything else is answered at once. -/
  | request (announced : Option EncryptionConfig)
  /-- The startup worker takes a task; the session may fail to start. -/
  | startup (started : Bool)
  | complete
  /-- The launch session times out or is cancelled. -/
  | expire
  /-- A peer connects to the control stream with the data of this launch. -/
  | connectControl
  | control (session : Nat)
  | frame (session shards : Nat)
deriving DecidableEq, Repr

namespace Server

/-- `respond`. -/
def respond (server : Server) : Server :=
  { server with
    rtspIvCounter := server.rtspIvCounter + 1
    encryptions := server.encryptions ++ [{ origin := .rtsp, counter := server.rtspIvCounter + 1 }] }

/-- `reserve_launch_session`. -/
def accept (remoteAddress : String) (server : Server) : Server :=
  if !server.launchPending then server
  else match server.reservedBy with
    | none =>
        { server with
          reservedBy := some remoteAddress
          connections := server.connections + 1 }
    | some address =>
        if address = remoteAddress ∧ remoteAddress ≠ "" then
          { server with connections := server.connections + 1 }
        else server

def request (announced : Option EncryptionConfig) (server : Server) : Server :=
  match server.connections with
  | 0 => server
  | connections + 1 =>
      let server := { server with connections }
      match announced with
      | none => server.respond
      | some config => { server with startupTasks := server.startupTasks ++ [config] }

/-- The startup task of `cmd_announce`: a launch session that is gone is not resurrected. -/
def startup (started : Bool) (server : Server) : Server :=
  match server.startupTasks with
  | [] => server
  | config :: rest =>
      let server := { server with startupTasks := rest, completions := server.completions + 1 }
      if server.launchPending && started then
        { server with sessions := server.sessions ++ [{ config }] }
      else server

def complete (server : Server) : Server :=
  match server.completions with
  | 0 => server
  | completions + 1 => { server with completions }.respond

/-- `control_server_t::get_session` for a new peer; the launch session is cleared. -/
def connectControl (server : Server) : Server :=
  match server.sessions.findIdx? (!·.peer) with
  | none => server
  | some index =>
      { server with
        launchPending := false
        sessions := server.sessions.modify index fun session => { session with peer := true } }

/-- `encode_control` of a message to a connected peer. -/
def control (index : Nat) (server : Server) : Server :=
  match server.sessions[index]? with
  | none => server
  | some session =>
      if session.peer ∧ session.config.controlProtocolType = 13 then
        { server with
          sessions := server.sessions.modify index fun session =>
            { session with seq := session.seq + 1 }
          encryptions := server.encryptions ++
            [{ origin := .control index session.config.controlV2, counter := session.seq }] }
      else server

/-- One shard of a frame. -/
def shard (index : Nat) (server : Server) : Server :=
  match server.sessions[index]? with
  | none => server
  | some session =>
      if session.config.video then
        { server with
          sessions := server.sessions.modify index fun session =>
            { session with gcmIvCounter := session.gcmIvCounter + 1 }
          encryptions := server.encryptions ++
            [{ origin := .video index, counter := session.gcmIvCounter }] }
      else server

def frame (index : Nat) : (shards : Nat) → Server → Server
  | 0, server => server
  | shards + 1, server => (frame index shards server).shard index

def step (event : Event) (server : Server) : Server :=
  match event with
  | .accept remoteAddress => server.accept remoteAddress
  | .request announced => server.request announced
  | .startup started => server.startup started
  | .complete => server.complete
  | .expire => { server with launchPending := false }
  | .connectControl => server.connectControl
  | .control session => server.control session
  | .frame session shards => server.frame session shards

end Server

end UmbraHost.Rtsp
