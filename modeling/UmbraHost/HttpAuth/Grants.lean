import UmbraHost.HttpAuth.StoreOperations
import UmbraHost.Transition.Run

/-! # Logins and their tokens

Runs of the token manager: which tokens it has handed out, which it accepts and
which it has taken back. -/

namespace UmbraHost.HttpAuth

open UmbraHost.Tables

/-! ## Runs -/

inductive Event where
  | issue (config : Config) (login : Login) (randoms : Randoms) (now cleanupNow : Int)
      (written : Bool)
  | refresh (config : Config) (refreshToken userAgent remoteAddress : Text) (randoms : Randoms)
      (now : Int) (written : Bool)
  | validate (token : Text) (now : Int) (written : Bool)
  | getUsername (token : Text) (now : Int) (written : Bool)
  | revokeByHash (tokenHash : Text) (written : Bool)
  | revokeRefreshToken (refreshToken : Text) (written : Bool)
  | cleanup (now : Int)
  | load (now : Int) (readable written : Bool)
deriving DecidableEq, Repr

inductive Response where
  | bundle (result : Option SessionTokenBundle)
  | valid (result : Bool)
  | username (result : Option Text)
  | removed (result : Bool)
  | done
deriving DecidableEq, Repr

structure Entry where
  event : Event
  response : Response
deriving DecidableEq, Repr

/-- The store, the last point in time and what was answered, the newest first. -/
structure World where
  store : TokenStore
  clock : Int
  trace : List Entry

def World.initial : World where
  store := TokenStore.empty
  clock := 0
  trace := []

/-- The operation of an event. -/
def Event.apply (dependencies : Dependencies) (store : TokenStore) :
    Event → TokenStore × Response
  | .issue config login randoms now cleanupNow written =>
      let (store, bundle) :=
        store.issueSessionTokens dependencies config login randoms now cleanupNow written
      (store, .bundle (some bundle))
  | .refresh config refreshToken userAgent remoteAddress randoms now written =>
      let (store, result) := store.refreshSessionTokens dependencies config refreshToken
        userAgent remoteAddress randoms now written
      (store, .bundle result)
  | .validate token now written =>
      let (store, result) := store.validateSessionToken dependencies token now written
      (store, .valid result)
  | .getUsername token now written =>
      let (store, result) := store.getUsernameForToken dependencies token now written
      (store, .username result)
  | .revokeByHash tokenHash written =>
      let (store, result) := store.revokeSessionByHash dependencies tokenHash written
      (store, .removed result)
  | .revokeRefreshToken refreshToken written =>
      let (store, result) := store.revokeRefreshToken dependencies refreshToken written
      (store, .removed result)
  | .cleanup now => (store.cleanupExpiredSessionTokens now, .done)
  | .load now readable written =>
      (store.loadSessionTokens dependencies now readable written, .done)

/-- The points in time that an operation reads, in order. -/
def Event.times : Event → List Int
  | .issue _ _ _ now cleanupNow _ => [now, cleanupNow]
  | .refresh _ _ _ _ _ now _ | .validate _ now _ | .getUsername _ now _ | .cleanup now
  | .load now _ _ => [now]
  | .revokeByHash _ _ | .revokeRefreshToken _ _ => []

def step (dependencies : Dependencies) (event : Event) (world : World) : World where
  store := (event.apply dependencies world.store).1
  clock := event.times.getLastD world.clock
  trace := ⟨event, (event.apply dependencies world.store).2⟩ :: world.trace

/-! ## Grants -/

/-- A token that a request presents. -/
inductive Presented where
  | session (token : Text)
  | refresh (token : Text)
deriving DecidableEq, Repr

/-- An access and a refresh token handed out together, and the refresh deadline of
their login. -/
structure Grant where
  sessionToken : Text
  refreshToken : Text
  deadline : Int
deriving DecidableEq, Repr

def Grant.Holds (grant : Grant) : Presented → Prop
  | .session token => grant.sessionToken = token
  | .refresh token => grant.refreshToken = token

/-- The token that was accepted, and when. -/
def Entry.accepted : Entry → Option (Presented × Int)
  | ⟨.refresh _ refreshToken _ _ _ now _, .bundle (some _)⟩ => some (.refresh refreshToken, now)
  | ⟨.validate token now _, .valid true⟩ => some (.session token, now)
  | ⟨.getUsername token now _, .username (some _)⟩ => some (.session token, now)
  | _ => none

/-- The entry accepts a refresh token, which replaces the tokens of its grant, or it
revokes their session. -/
def Entry.Retires (dependencies : Dependencies) (grant : Grant) : Entry → Prop
  | ⟨.refresh _ refreshToken _ _ _ _ _, .bundle (some _)⟩ => grant.refreshToken = refreshToken
  | ⟨.revokeByHash tokenHash _, .removed true⟩ =>
      dependencies.hash grant.sessionToken = tokenHash
  | ⟨.revokeRefreshToken refreshToken _, .removed true⟩ => grant.refreshToken = refreshToken
  | _ => False

/-- What an entry hands out: a login fixes the deadline, a refresh keeps it. -/
def Entry.granted (dependencies : Dependencies) (earlier : List Grant) : Entry → List Grant
  | ⟨.issue config login _ now _ _, .bundle (some bundle)⟩ =>
      [⟨bundle.sessionToken, bundle.refreshToken, login.deadline dependencies config now⟩]
  | ⟨.refresh _ refreshToken _ _ _ _ _, .bundle (some bundle)⟩ =>
      match earlier.find? (·.refreshToken = refreshToken) with
      | some grant => [⟨bundle.sessionToken, bundle.refreshToken, grant.deadline⟩]
      | none => []
  | _ => []

def grants (dependencies : Dependencies) : List Entry → List Grant
  | [] => []
  | entry :: earlier => entry.granted dependencies (grants dependencies earlier) ++
      grants dependencies earlier

/-- The tokens an operation draws. -/
def Event.randoms : Event → Option Randoms
  | .issue _ _ randoms _ _ _ | .refresh _ _ _ _ randoms _ _ => some randoms
  | _ => none

/-- The clock does not run backwards, drawn tokens are new, and a file that is
loaded is the one that the last save wrote. -/
structure Admissible (dependencies : Dependencies) (event : Event) (world : World) : Prop where
  times : (world.clock :: event.times).Pairwise (· ≤ ·)
  fresh : ∀ randoms, event.randoms = some randoms → ∀ grant ∈ grants dependencies world.trace,
    grant.sessionToken ≠ randoms.sessionToken ∧ grant.refreshToken ≠ randoms.refreshToken
  saved : ∀ now written, event = .load now true written → world.store.saveFailed = false

/-- Different texts have different hashes, and a hash is never empty. -/
structure CollisionFree (dependencies : Dependencies) : Prop where
  injective : Function.Injective dependencies.hash
  nonempty : ∀ text, dependencies.hash text ≠ []

end UmbraHost.HttpAuth
