import UmbraHost.HttpAuth.SessionTokens

/-! # Concurrent token operations

The operations of `ApiTokenManager` and `SessionTokenManager` as threads whose
steps are the blocks under `_mutex` and the blocks under `state_mutex()`.  Every
read and write of the state file succeeds. -/

namespace UmbraHost.HttpAuth

open UmbraHost.Tables

structure ApiTokenInfo where
  pathMethods : List (Text × List Text)
  username : Text
  createdAt : Int
deriving DecidableEq, Repr

/-- A node of `root.api_tokens`. -/
structure ApiTokenNode where
  hash : Text
  username : Text
  createdAt : Int
  scopes : List (Text × List Text)
deriving DecidableEq, Repr

/-- The nodes that `save_api_tokens` collects. -/
def apiNodes (dependencies : Dependencies) (apiTokens : Table Text ApiTokenInfo) :
    List ApiTokenNode :=
  apiTokens.entries.map fun entry =>
    { hash := entry.1
      username := entry.2.username
      createdAt := dependencies.toSeconds entry.2.createdAt
      scopes := entry.2.pathMethods }

/-- The subtrees of the state file; one that is not there is empty. -/
structure StateFile where
  apiTokens : List ApiTokenNode
  sessionTokens : List SessionNode
deriving DecidableEq, Repr

/-- The managers, the file, and how many snapshots each manager has taken and which
one was written last (the code does not number them). -/
structure Shared where
  apiTokens : Table Text ApiTokenInfo
  sessions : SessionTokenManager
  file : StateFile
  apiTaken : Nat
  apiWritten : Nat
  sessionsTaken : Nat
  sessionsWritten : Nat

inductive Operation where
  | createApiToken (tokenHash : Text) (info : ApiTokenInfo)
  | revokeApiTokenByHash (tokenHash : Text)
  | issueSessionTokens (config : Config) (login : Login) (randoms : Randoms)
      (now cleanupNow : Int)
  | refreshSessionTokens (config : Config) (refreshToken userAgent remoteAddress : Text)
      (randoms : Randoms) (now : Int)
  | revokeSessionByHash (tokenHash : Text)
  | revokeRefreshToken (refreshToken : Text)
deriving DecidableEq, Repr

/-- Where an operation stands. -/
inductive Thread where
  | called (operation : Operation)
  | cleanup (cleanupNow : Int)
  | saveApiTokens
  | writeApiTokens (number : Nat) (nodes : List ApiTokenNode)
  | saveSessionTokens
  | writeSessionTokens (number : Nat) (nodes : List SessionNode)
  | returned
deriving DecidableEq, Repr

variable (dependencies : Dependencies)

/-- The first block of an operation and how the operation goes on. -/
def Operation.run (shared : Shared) : Operation → Shared × Thread
  | .createApiToken tokenHash info =>
      ({ shared with apiTokens := shared.apiTokens.insert tokenHash info }, .saveApiTokens)
  | .revokeApiTokenByHash tokenHash =>
      if tokenHash = [] then (shared, .returned)
      else if tokenHash ∈ shared.apiTokens then
        ({ shared with apiTokens := shared.apiTokens.erase tokenHash }, .saveApiTokens)
      else (shared, .returned)
  | .issueSessionTokens config login randoms now cleanupNow =>
      ({ shared with
          sessions := (shared.sessions.issueLocked dependencies config login randoms now).1 },
        .cleanup cleanupNow)
  | .refreshSessionTokens config refreshToken userAgent remoteAddress randoms now =>
      if refreshToken = [] then (shared, .returned)
      else
        let (sessions, needsPersist, _) := shared.sessions.refreshLocked dependencies config
          refreshToken userAgent remoteAddress randoms now
        ({ shared with sessions := sessions },
          if needsPersist then .saveSessionTokens else .returned)
  | .revokeSessionByHash tokenHash =>
      let (sessions, removed) := shared.sessions.revokeLocked tokenHash
      ({ shared with sessions := sessions }, if removed then .saveSessionTokens else .returned)
  | .revokeRefreshToken refreshToken =>
      if refreshToken = [] then (shared, .returned)
      else
        match shared.sessions.refreshIndex.lookup (dependencies.hash refreshToken) with
        | none => (shared, .returned)
        | some sessionHash => (shared, .called (.revokeSessionByHash sessionHash))

/-- One block of a thread. -/
def Thread.run (shared : Shared) : Thread → Shared × Thread
  | .called operation => operation.run dependencies shared
  | .cleanup cleanupNow =>
      ({ shared with sessions := shared.sessions.cleanupLocked cleanupNow }, .saveSessionTokens)
  | .saveApiTokens =>
      ({ shared with apiTaken := shared.apiTaken + 1 },
        .writeApiTokens (shared.apiTaken + 1) (apiNodes dependencies shared.apiTokens))
  | .writeApiTokens number nodes =>
      ({ shared with
          file := { shared.file with apiTokens := nodes }
          apiWritten := number }, .returned)
  | .saveSessionTokens =>
      if shared.sessions.dirty then
        ({ shared with
            sessions := { shared.sessions with dirty := false }
            sessionsTaken := shared.sessionsTaken + 1 },
          .writeSessionTokens (shared.sessionsTaken + 1)
            (saveNodes dependencies shared.sessions.sessionTokens))
      else (shared, .returned)
  | .writeSessionTokens number nodes =>
      ({ shared with
          file := { shared.file with sessionTokens := nodes }
          sessionsWritten := number }, .returned)
  | .returned => (shared, .returned)

structure System where
  shared : Shared
  threads : List Thread

/-- An operation is called, or a thread runs its next block. -/
inductive SaveEvent where
  | call (operation : Operation)
  | run (index : Nat)
deriving DecidableEq, Repr

def System.step (event : SaveEvent) (system : System) : System :=
  match event with
  | .call operation => { system with threads := system.threads ++ [.called operation] }
  | .run index =>
      match system.threads[index]? with
      | none => system
      | some thread =>
          let (shared, next) := thread.run dependencies system.shared
          { shared := shared, threads := system.threads.set index next }

end UmbraHost.HttpAuth
