import UmbraHost.Pairing.Sessions
import UmbraHost.StateFiles.FailingFiles

/-! # The final pairing answer

`clientpairingsecret` with `add_authorized_client` (`nvhttp.cpp`), whatever becomes of the state
files while they are saved and loaded. -/

namespace UmbraHost.Pairing

open UmbraHost.StateFiles

variable {Path : Type} [DecidableEq Path]

/-- The clients and the files after `add_authorized_client`, which `load_state` may leave with
an exception. -/
structure Added (Path : Type) where
  thrown : Bool
  clients : List NamedCert
  files : Store Path

structure FinalAnswer (Path : Type) where
  reply : Reply
  clients : List NamedCert
  files : Store Path

section Answer

variable (freshState : Bool) (failures : Failures Path) (layout : Layout Path)
  (generated : UniqueId) (generate : Nat → String)

def addAuthorizedClient (namedCert : NamedCert) (host : Host) (store : Store Path) : Added Path :=
  let added := host.add namedCert
  if freshState then ⟨false, added.clients, store⟩
  else
    let files := failures.saveState layout added store
    match failures.loadState layout generated generate added files with
    | .ok loaded => ⟨false, loaded.clients, files⟩
    | .error _ => ⟨true, added.clients, files⟩

/-- `clientpairingsecret`; the status is put into the answer last. -/
def finalAnswer {Cert : Type} (primitives : Primitives Cert) (session : PairSession)
    (secret : Bytes) (uuid : String) (host : Host) (store : Store Path) : FinalAnswer Path :=
  match clientPairingSecret primitives session secret with
  | (reply, none) => ⟨reply, host.clients, store⟩
  | (reply, some _) =>
      let namedCert := ClientStore.pairedClient (textOf session.name) (textOf session.cert) uuid
        host.clients.isEmpty
      let added := addAuthorizedClient freshState failures layout generated generate namedCert
        host store
      ⟨{ reply with statusCode := if added.thrown then none else reply.statusCode },
        added.clients, added.files⟩

/-- The list is not replaced from a file that has not been written. -/
def keepsClient (store : Store Path) : Bool :=
  freshState || failures.saves layout store ||
    !replacesClients layout (store.hide failures.unreadableLoading)

end Answer

variable {freshState : Bool} {failures : Failures Path} {layout : Layout Path}
  {generated : UniqueId} {generate : Nat → String}

theorem mem_addAuthorizedClient {store : Store Path} (namedCert : NamedCert) (host : Host)
    (keeps : keepsClient freshState failures layout store = true) :
    namedCert.cert ∈ (addAuthorizedClient freshState failures layout generated generate namedCert
      host store).clients.map NamedCert.cert := by
  have added : namedCert ∈ (host.add namedCert).clients :=
    List.mem_append_right _ (List.mem_singleton_self _)
  unfold addAuthorizedClient
  cases freshState with
  | true => exact List.mem_map_of_mem added
  | false =>
      simp only [Bool.false_eq_true, if_false]
      split
      case h_2 => exact List.mem_map_of_mem added
      case h_1 loaded read =>
        unfold Failures.loadState at read
        cases saved : failures.saves layout store with
        | false =>
            rw [failures_saveState_of_not_saves saved] at read
            have kept : replacesClients layout (store.hide failures.unreadableLoading) = false := by
              simpa [keepsClient, saved] using keeps
            rw [clients_loadState kept read]
            exact List.mem_map_of_mem added
        | true =>
            obtain ⟨members, found, root⟩ :=
              @stored_failures_saveState _ _ layout (host.add namedCert) _ _ saved
            cases hidden : failures.unreadableLoading layout.sunshine with
            | true =>
                rw [clients_loadState (by simp [replacesClients, Store.hide, hidden, found]) read]
                exact List.mem_map_of_mem added
            | false =>
                -- the list that was saved is read back
                have shown : Stored id layout (host.add namedCert)
                    ((failures.saveState layout (host.add namedCert) store).hide
                      failures.unreadableLoading) :=
                  ⟨members, by simpa [Store.hide, hidden] using found, root⟩
                obtain ⟨other, result⟩ := loadState_of_stored rendering_id shown
                rw [result] at read
                cases devices : loadNamedDevices (id (rootNode layout (host.add namedCert))) with
                | error thrown =>
                    rw [devices] at read
                    cases read
                | ok clients =>
                    rw [devices] at read
                    cases read
                    exact cert_mem_loadNamedDevices devices added

variable {Cert : Type} {primitives : Primitives Cert} {session : PairSession} {secret : Bytes}

/-- What `clientpairingsecret` answers, unless the name is reserved. -/
theorem clientPairingSecret_cases
    (named : ClientStore.isPlaceholderClientName (textOf session.name) = false) :
    (∃ reply, clientPairingSecret primitives session secret = (reply, none) ∧
        reply.paired ≠ some 1) ∨
      ∃ reply client, clientPairingSecret primitives session secret = (reply, some client) ∧
        reply.paired = some 1 := by
  unfold clientPairingSecret
  split
  · exact .inl ⟨_, rfl, nofun⟩
  split
  · exact .inl ⟨_, rfl, nofun⟩
  dsimp only
  split
  · exact .inl ⟨_, rfl, nofun⟩
  split
  · rw [if_neg (by simp [named])]
    exact .inr ⟨_, _, rfl, rfl⟩
  · exact .inl ⟨_, rfl, nofun⟩

/-- A host without a client whose certificate functions accept everything. -/
def openPrimitives : Primitives Unit where
  hash _ := []
  encrypt _ bytes := bytes
  decrypt _ bytes := bytes
  x509 _ := some ()
  signature _ := []
  verify256 _ _ _ := true
  serverCert := []
  serverSignature := []
  sign256 _ := []

def answeredSession (name clientHash : Bytes) : PairSession where
  createdAt := 0
  uniqueId := []
  cert := [80]
  name
  cipherKey := none
  clientHash
  serverSecret := []
  serverChallenge := []
  response := false
  salt := []
  lastPhase := .serverChallengeResp

def someId : UniqueId :=
  ⟨"01234567-89AB-CDEF-0123-456789ABCDEF", utf8ByteSize_sampleUuid⟩

def hostOf (clients : List NamedCert) : Host :=
  { uniqueId := someId, clients, lastNotifiedVersion := "", sharedVirtualDisplayGuid := "" }

def twoFiles : Layout Nat := { sunshine := 0, vibeshine := 1 }

end UmbraHost.Pairing
