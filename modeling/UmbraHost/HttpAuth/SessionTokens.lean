import UmbraHost.Bytes.Search
import UmbraHost.Tables.EraseIf

/-! # Web session tokens

`SessionTokenManager` (`http_auth.cpp`, `http_auth.h`) and the part of the state
file it reads and writes.  Strings are lists of bytes, each one character, and
points in time are ticks of the clock since its epoch. -/

namespace UmbraHost.HttpAuth

open UmbraHost.Search UmbraHost.Tables

abbrev Text := List Char

/-! ## Device labels -/

/-- `icontains` of texts in lower case. -/
def icontains (text needle : Text) : Bool := search needle text < text.length

def osLabels : List (String × String) :=
  [("windows nt 10", "Windows 10/11"), ("windows nt 6.3", "Windows 8.1"),
    ("windows nt 6.2", "Windows 8"), ("windows nt 6.1", "Windows 7"), ("mac os x", "macOS"),
    ("iphone", "iOS"), ("ipad", "iOS"), ("android", "Android"), ("linux", "Linux")]

def detectOs (uaLower : Text) : Text :=
  match osLabels.find? fun (needle, _) => icontains uaLower needle.toList with
  | none => []
  | some (_, os) => os.toList

/-- A browser, what names it and what must not stand beside it. -/
def browserLabels : List (String × List String × String) :=
  [("edg/", [], "Microsoft Edge"), ("opr/", [], "Opera"),
    ("chrome/", ["edg/", "opr/"], "Google Chrome"), ("firefox", [], "Mozilla Firefox"),
    ("safari", ["chrome"], "Safari"), ("brave", [], "Brave")]

def detectBrowser (uaLower : Text) : Text :=
  match browserLabels.find? fun (needle, excluded, _) => icontains uaLower needle.toList &&
      excluded.all fun other => !icontains uaLower other.toList with
  | none => []
  | some (_, _, browser) => browser.toList

/-- The bytes of the ellipsis. -/
def ellipsis : Text := [Char.ofNat 0xE2, Char.ofNat 0x80, Char.ofNat 0xA6]

def truncateLabel (value : Text) : Text :=
  if value.length ≤ 80 then value else value.take 79 ++ ellipsis

def deriveDeviceLabel (userAgent remoteAddress : Text) : Text :=
  if userAgent = [] then
    if remoteAddress = [] then "Unknown device".toList else remoteAddress
  else
    let uaLower := userAgent.map Char.toLower
    let os := detectOs uaLower
    let browser := detectBrowser uaLower
    if browser ≠ [] ∧ os ≠ [] then browser ++ " on ".toList ++ os
    else if browser ≠ [] then browser
    else if os ≠ [] then os
    else truncateLabel userAgent

/-! ## The manager -/

/-- The injected functions that do not change from call to call. -/
structure Dependencies where
  hash : Text → Text
  ticksPerSecond : Int
  ticks_pos : 0 < ticksPerSecond

namespace Dependencies

def seconds (dependencies : Dependencies) (count : Int) : Int :=
  count * dependencies.ticksPerSecond

/-- `duration_cast<std::chrono::seconds>`. -/
def toSeconds (dependencies : Dependencies) (ticks : Int) : Int :=
  ticks.tdiv dependencies.ticksPerSecond

end Dependencies

structure SessionToken where
  username : Text
  createdAt : Int
  expiresAt : Int
  refreshExpiresAt : Int
  userAgent : Text
  remoteAddress : Text
  lastSeen : Int
  rememberMe : Bool
  deviceLabel : Text
  refreshTokenHash : Text
  rotationId : Text
deriving DecidableEq, Repr

structure SessionTokenBundle where
  sessionToken : Text
  refreshToken : Text
  sessionTtl : Int
  refreshTtl : Int
  rememberMe : Bool
deriving DecidableEq, Repr

structure SessionTokenManager where
  sessionTokens : Table Text SessionToken
  refreshIndex : Table Text Text
  dirty : Bool

/-- Lifetimes of the configuration, in seconds. -/
structure Config where
  sessionTokenTtl : Int
  rememberMeRefreshTokenTtl : Int
deriving DecidableEq, Repr

/-- What `rand_alphabet` returns to one operation. -/
structure Randoms where
  sessionToken : Text
  refreshToken : Text
  rotationId : Text
deriving DecidableEq, Repr

/-- The arguments of `issue_session_tokens`. -/
structure Login where
  username : Text
  sessionTtl : Int
  refreshTtl : Int
  userAgent : Text
  remoteAddress : Text
  rememberMe : Bool
deriving DecidableEq, Repr

def defaultRememberMeTokenTtl : Int := 24 * 7 * 3600

def defaultRefreshTokenTtl : Int := 24 * 3600

def rememberMeTokenTtl (config : Config) : Int :=
  if config.rememberMeRefreshTokenTtl ≤ 0 then defaultRememberMeTokenTtl
  else config.rememberMeRefreshTokenTtl

namespace Login

def effectiveSessionTtl (config : Config) (login : Login) : Int :=
  if login.sessionTtl ≤ 0 then config.sessionTokenTtl else login.sessionTtl

def policyRefreshTtl (config : Config) (login : Login) : Int :=
  if login.refreshTtl ≤ 0 then
    if login.rememberMe then rememberMeTokenTtl config else defaultRefreshTokenTtl
  else login.refreshTtl

def effectiveRefreshTtl (config : Config) (login : Login) : Int :=
  if login.policyRefreshTtl config < login.effectiveSessionTtl config then
    login.effectiveSessionTtl config
  else login.policyRefreshTtl config

/-- `refresh_expires_at` of a login. -/
def deadline (dependencies : Dependencies) (config : Config) (now : Int) (login : Login) : Int :=
  now + dependencies.seconds (login.effectiveRefreshTtl config)

end Login

namespace SessionTokenManager

variable (dependencies : Dependencies)

/-! The blocks below run under `_mutex`. -/

/-- The session of a login. -/
def issuedToken (config : Config) (login : Login) (randoms : Randoms) (now : Int) :
    SessionToken where
  username := login.username
  createdAt := now
  expiresAt := min (now + dependencies.seconds (login.effectiveSessionTtl config))
    (login.deadline dependencies config now)
  refreshExpiresAt := login.deadline dependencies config now
  userAgent := login.userAgent
  remoteAddress := login.remoteAddress
  lastSeen := now
  rememberMe := login.rememberMe
  deviceLabel := deriveDeviceLabel login.userAgent login.remoteAddress
  refreshTokenHash := dependencies.hash randoms.refreshToken
  rotationId := randoms.rotationId

/-- The block of `issue_session_tokens`, and the bundle it returns. -/
def issueLocked (config : Config) (login : Login) (randoms : Randoms) (now : Int)
    (manager : SessionTokenManager) : SessionTokenManager × SessionTokenBundle :=
  let token := issuedToken dependencies config login randoms now
  let sessionHash := dependencies.hash randoms.sessionToken
  ({ sessionTokens := (manager.sessionTokens.erase sessionHash).insert sessionHash token
     refreshIndex := manager.refreshIndex.insert token.refreshTokenHash sessionHash
     dirty := true },
    { sessionToken := randoms.sessionToken
      refreshToken := randoms.refreshToken
      sessionTtl := dependencies.toSeconds (token.expiresAt - now)
      refreshTtl := dependencies.toSeconds (token.refreshExpiresAt - now)
      rememberMe := login.rememberMe })

/-- The session that a refresh puts in the place of another; the deadline stays. -/
def updatedToken (config : Config) (userAgent remoteAddress : Text) (randoms : Randoms)
    (now : Int) (entry : SessionToken) : SessionToken where
  username := entry.username
  createdAt := now
  expiresAt := min (now + dependencies.seconds config.sessionTokenTtl) entry.refreshExpiresAt
  refreshExpiresAt := entry.refreshExpiresAt
  userAgent := userAgent
  remoteAddress := remoteAddress
  lastSeen := now
  rememberMe := entry.rememberMe
  deviceLabel := deriveDeviceLabel userAgent remoteAddress
  refreshTokenHash := dependencies.hash randoms.refreshToken
  rotationId := randoms.rotationId

/-- The block of `refresh_session_tokens` behind its checks. -/
def rotate (refreshHash oldHash : Text) (updated : SessionToken) (randoms : Randoms) (now : Int)
    (manager : SessionTokenManager) : SessionTokenManager × SessionTokenBundle :=
  let newSessionHash := dependencies.hash randoms.sessionToken
  let sessionTokens := manager.sessionTokens.erase oldHash
  ({ sessionTokens :=
       -- `emplace` keeps an entry that is there.
       if newSessionHash ∈ sessionTokens then sessionTokens
       else sessionTokens.insert newSessionHash updated
     refreshIndex :=
       (manager.refreshIndex.erase refreshHash).insert updated.refreshTokenHash newSessionHash
     dirty := true },
    { sessionToken := randoms.sessionToken
      refreshToken := randoms.refreshToken
      sessionTtl := dependencies.toSeconds (updated.expiresAt - now)
      refreshTtl := dependencies.toSeconds (updated.refreshExpiresAt - now)
      rememberMe := updated.rememberMe })

/-- The block of `refresh_session_tokens`: whether to persist, and the result. -/
def refreshLocked (config : Config) (refreshToken userAgent remoteAddress : Text)
    (randoms : Randoms) (now : Int) (manager : SessionTokenManager) :
    SessionTokenManager × Bool × Option SessionTokenBundle :=
  let refreshHash := dependencies.hash refreshToken
  match manager.refreshIndex.lookup refreshHash with
  | none => (manager, false, none)
  | some oldHash =>
      match manager.sessionTokens.lookup oldHash with
      | none =>
          ({ manager with
              refreshIndex := manager.refreshIndex.erase refreshHash
              dirty := true }, true, none)
      | some entry =>
          if now > entry.refreshExpiresAt then
            ({ sessionTokens := manager.sessionTokens.erase oldHash
               refreshIndex := manager.refreshIndex.erase refreshHash
               dirty := true }, true, none)
          else
            let updated :=
              updatedToken dependencies config userAgent remoteAddress randoms now entry
            let (manager, bundle) := manager.rotate dependencies refreshHash oldHash updated
              randoms now
            (manager, true, some bundle)

/-- Remove a session and, where it has one, its refresh token. -/
def eraseSession (tokenHash : Text) (token : SessionToken) (manager : SessionTokenManager) :
    SessionTokenManager where
  sessionTokens := manager.sessionTokens.erase tokenHash
  refreshIndex :=
    if token.refreshTokenHash = [] then manager.refreshIndex
    else manager.refreshIndex.erase token.refreshTokenHash
  dirty := true

/-- The block of `validate_session_token` and `get_username_for_token`: whether it
goes on to persist, and the session it accepts.  Behind the removal of an
expired session nothing is persisted. -/
def accessLocked (token : Text) (now : Int) (manager : SessionTokenManager) :
    SessionTokenManager × Bool × Option SessionToken :=
  let tokenHash := dependencies.hash token
  match manager.sessionTokens.lookup tokenHash with
  | none => (manager, false, none)
  | some entry =>
      if now > entry.refreshExpiresAt then (manager.eraseSession tokenHash entry, false, none)
      else if now > entry.expiresAt then (manager, false, none)
      else if now - entry.lastSeen ≥ dependencies.seconds (5 * 60) then
        ({ manager with
            sessionTokens := manager.sessionTokens.insert tokenHash { entry with lastSeen := now }
            dirty := true }, true, some entry)
      else (manager, false, some entry)

/-- The block of `revoke_session_by_hash`. -/
def revokeLocked (tokenHash : Text) (manager : SessionTokenManager) :
    SessionTokenManager × Bool :=
  match manager.sessionTokens.lookup tokenHash with
  | none => (manager, false)
  | some token => (manager.eraseSession tokenHash token, true)

/-- `cleanup_expired_session_tokens`. -/
def cleanupLocked (now : Int) (manager : SessionTokenManager) : SessionTokenManager :=
  let expired := fun (_ : Text) (token : SessionToken) => decide (now > token.refreshExpiresAt)
  let erased := manager.sessionTokens.entries.filter fun entry => expired entry.1 entry.2
  { sessionTokens := eraseIf expired manager.sessionTokens
    refreshIndex :=
      eraseAll ((erased.map fun entry => entry.2.refreshTokenHash).filter (· ≠ []))
        manager.refreshIndex
    dirty := manager.dirty || !erased.isEmpty }

end SessionTokenManager

/-! ## The state file -/

/-- A node of `root.session_tokens`; `none` stands for a path that is not there. -/
structure SessionNode where
  hash : Option Text
  username : Option Text
  createdAt : Option Int
  expiresAt : Option Int
  refreshExpiresAt : Option Int
  lastSeen : Option Int
  rememberMe : Option Bool
  refreshTokenHash : Option Text
  rotationId : Option Text
  userAgent : Option Text
  remoteAddress : Option Text
  deviceLabel : Option Text
deriving DecidableEq, Repr

def putNonempty (value : Text) : Option Text := if value = [] then none else some value

def saveNode (dependencies : Dependencies) (hash : Text) (token : SessionToken) : SessionNode where
  hash := some hash
  username := some token.username
  createdAt := some (dependencies.toSeconds token.createdAt)
  expiresAt := some (dependencies.toSeconds token.expiresAt)
  refreshExpiresAt := some (dependencies.toSeconds token.refreshExpiresAt)
  lastSeen := some (dependencies.toSeconds token.lastSeen)
  rememberMe := some token.rememberMe
  refreshTokenHash := putNonempty token.refreshTokenHash
  rotationId := putNonempty token.rotationId
  userAgent := putNonempty token.userAgent
  remoteAddress := putNonempty token.remoteAddress
  deviceLabel := putNonempty token.deviceLabel

/-- The subtree that a save writes. -/
def saveNodes (dependencies : Dependencies) (sessionTokens : Table Text SessionToken) :
    List SessionNode :=
  sessionTokens.entries.map fun entry => saveNode dependencies entry.1 entry.2

/-- The session of a node, and whether it differs from what the node says. -/
def loadToken (dependencies : Dependencies) (node : SessionNode) : SessionToken × Bool :=
  let createdSecs := node.createdAt.getD 0
  let expiresSecs := node.expiresAt.getD 0
  let refreshExpiresSecs := node.refreshExpiresAt.getD expiresSecs
  let lastSeenSecs := node.lastSeen.getD createdSecs
  let refreshTokenHash := node.refreshTokenHash.getD []
  let userAgent := node.userAgent.getD []
  let remoteAddress := node.remoteAddress.getD []
  let deviceLabel := node.deviceLabel.getD []
  let expiresAt := dependencies.seconds expiresSecs
  let refreshExpiresAt :=
    if refreshTokenHash = [] then expiresAt else dependencies.seconds refreshExpiresSecs
  ({ username := node.username.getD []
     createdAt := dependencies.seconds createdSecs
     expiresAt := if expiresAt > refreshExpiresAt then refreshExpiresAt else expiresAt
     refreshExpiresAt := refreshExpiresAt
     userAgent := userAgent
     remoteAddress := remoteAddress
     lastSeen := dependencies.seconds lastSeenSecs
     rememberMe := node.rememberMe.getD false
     deviceLabel :=
       if deviceLabel = [] then deriveDeviceLabel userAgent remoteAddress else deviceLabel
     refreshTokenHash := refreshTokenHash
     rotationId := node.rotationId.getD [] },
    deviceLabel = [] ∨ expiresAt > refreshExpiresAt)

/-- One turn of the loop of `load_session_tokens`; `dirty` is its `needs_resave`. -/
def loadNode (dependencies : Dependencies) (now : Int) (loaded : SessionTokenManager)
    (node : SessionNode) : SessionTokenManager :=
  let hash := node.hash.getD []
  if hash = [] then loaded
  else
    let (token, differs) := loadToken dependencies node
    let dirty := loaded.dirty || differs
    if now > token.refreshExpiresAt then { loaded with dirty := dirty }
    else if hash ∈ loaded.sessionTokens then { loaded with dirty := dirty }
    else
      { sessionTokens := loaded.sessionTokens.insert hash token
        refreshIndex :=
          if token.refreshTokenHash = [] then loaded.refreshIndex
          else loaded.refreshIndex.insert token.refreshTokenHash hash
        dirty := dirty }

/-! ## Operations -/

/-- The manager with the sessions of the state file; `none` when the file or its
subtree is not there. -/
structure TokenStore where
  manager : SessionTokenManager
  file : Option (List SessionNode)
  /-- The last save could not read or write the file. -/
  saveFailed : Bool

def TokenStore.empty : TokenStore where
  manager := { sessionTokens := ∅, refreshIndex := ∅, dirty := false }
  file := none
  saveFailed := false

namespace TokenStore

variable (dependencies : Dependencies)

/-- `save_session_tokens`; `written` says whether the file could be read and written. -/
def saveSessionTokens (written : Bool) (store : TokenStore) : TokenStore :=
  if store.manager.dirty then
    if written then
      { manager := { store.manager with dirty := false }
        file := some (saveNodes dependencies store.manager.sessionTokens)
        saveFailed := false }
    else { store with saveFailed := true }
  else store

def issueSessionTokens (config : Config) (login : Login) (randoms : Randoms)
    (now cleanupNow : Int) (written : Bool) (store : TokenStore) :
    TokenStore × SessionTokenBundle :=
  let (manager, bundle) := store.manager.issueLocked dependencies config login randoms now
  (saveSessionTokens dependencies written
    { store with manager := manager.cleanupLocked cleanupNow }, bundle)

def refreshSessionTokens (config : Config) (refreshToken userAgent remoteAddress : Text)
    (randoms : Randoms) (now : Int) (written : Bool) (store : TokenStore) :
    TokenStore × Option SessionTokenBundle :=
  if refreshToken = [] then (store, none)
  else
    let (manager, needsPersist, result) := store.manager.refreshLocked dependencies config
      refreshToken userAgent remoteAddress randoms now
    let store := { store with manager := manager }
    (if needsPersist then store.saveSessionTokens dependencies written else store, result)

def accessSession (token : Text) (now : Int) (written : Bool) (store : TokenStore) :
    TokenStore × Option SessionToken :=
  let (manager, shouldPersist, accepted) := store.manager.accessLocked dependencies token now
  let store := { store with manager := manager }
  (if shouldPersist then store.saveSessionTokens dependencies written else store, accepted)

def validateSessionToken (token : Text) (now : Int) (written : Bool) (store : TokenStore) :
    TokenStore × Bool :=
  let (store, accepted) := store.accessSession dependencies token now written
  (store, accepted.isSome)

def getUsernameForToken (token : Text) (now : Int) (written : Bool) (store : TokenStore) :
    TokenStore × Option Text :=
  let (store, accepted) := store.accessSession dependencies token now written
  (store, accepted.map SessionToken.username)

def revokeSessionByHash (tokenHash : Text) (written : Bool) (store : TokenStore) :
    TokenStore × Bool :=
  let (manager, removed) := store.manager.revokeLocked tokenHash
  let store := { store with manager := manager }
  (if removed then store.saveSessionTokens dependencies written else store, removed)

def revokeRefreshToken (refreshToken : Text) (written : Bool) (store : TokenStore) :
    TokenStore × Bool :=
  if refreshToken = [] then (store, false)
  else
    match store.manager.refreshIndex.lookup (dependencies.hash refreshToken) with
    | none => (store, false)
    | some sessionHash => store.revokeSessionByHash dependencies sessionHash written

def cleanupExpiredSessionTokens (now : Int) (store : TokenStore) : TokenStore :=
  { store with manager := store.manager.cleanupLocked now }

/-- `readable` says whether the file could be read. -/
def loadSessionTokens (now : Int) (readable written : Bool) (store : TokenStore) : TokenStore :=
  let cleared : SessionTokenManager := { sessionTokens := ∅, refreshIndex := ∅, dirty := false }
  match store.file, readable with
  | some nodes, true =>
      let manager := nodes.foldl (loadNode dependencies now) cleared
      let store := { store with manager := manager }
      if manager.dirty then store.saveSessionTokens dependencies written else store
  | _, _ => { store with manager := cleared }

end TokenStore

end UmbraHost.HttpAuth
