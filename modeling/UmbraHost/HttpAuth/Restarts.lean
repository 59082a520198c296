import UmbraHost.HttpAuth.ScopeReload
import UmbraHost.HttpAuth.StoredSessions
import Mathlib.Algebra.Order.Ring.Int

/-! # Authorization across a restart

What the token managers answer before a save and after a load of what it wrote. -/

namespace UmbraHost.HttpAuth

open UmbraHost.Tables

variable {regex : Regex} {dependencies : Dependencies} {path method : Text} {scopes : List Scope}

/-! ## Requests -/

/-- A request is granted by the first scope that grants it, when every pattern in
front of that scope is a regular expression. -/
theorem anyScope_eq_true_iff :
    anyScope regex path (toUpperCopy method) scopes = .ok true ↔
      ∃ front scope back, scopes = front ++ scope :: back ∧
        scope.grants regex path method = true ∧ scope.valid regex = true ∧
        ∀ earlier ∈ front, earlier.valid regex = true ∧
          earlier.grants regex path method = false := by
  induction scopes with
  | nil => simp [anyScope]
  | cons first rest ih =>
      rw [anyScope_cons]
      cases valid : first.valid regex with
      | false =>
          simp only [if_true, reduceCtorEq, false_iff]
          rintro ⟨front, scope, back, split, -, sound, before⟩
          cases front with
          | nil =>
              obtain ⟨rfl, -⟩ := List.cons.inj split
              rw [valid] at sound
              cases sound
          | cons head tail =>
              obtain ⟨rfl, -⟩ := List.cons.inj split
              have sound := (before first List.mem_cons_self).1
              rw [valid] at sound
              cases sound
      | true =>
          cases granted : first.grants regex path method with
          | true =>
              simp only [Bool.true_eq_false, if_false, if_true, true_iff]
              exact ⟨[], first, rest, rfl, granted, valid, fun _ member => by cases member⟩
          | false =>
              simp only [Bool.true_eq_false, Bool.false_eq_true, if_false]
              rw [ih]
              constructor
              · rintro ⟨front, scope, back, split, grants, sound, before⟩
                refine ⟨first :: front, scope, back, by rw [split, List.cons_append], grants,
                  sound, ?_⟩
                intro earlier member
                rcases List.mem_cons.mp member with rfl | member
                · exact ⟨valid, granted⟩
                · exact before earlier member
              · rintro ⟨front, scope, back, split, grants, sound, before⟩
                cases front with
                | nil =>
                    obtain ⟨rfl, -⟩ := List.cons.inj split
                    rw [granted] at grants
                    cases grants
                | cons head tail =>
                    obtain ⟨rfl, later⟩ := List.cons.inj split
                    exact ⟨tail, scope, back, later, grants, sound,
                      fun earlier member => before earlier (List.mem_cons_of_mem _ member)⟩

/-- The pattern of an empty path is a regular expression for the empty path alone. -/
def EmptyPattern (regex : Regex) : Prop :=
  ∃ regexMatch, regex ['^', '$'] = some regexMatch ∧ ∀ path, path ≠ [] → regexMatch path = false

theorem Scope.kept_of_grants (empty : EmptyPattern regex) (named : path ≠ []) {scope : Scope}
    (grants : scope.grants regex path method = true) : scope.kept = true := by
  obtain ⟨regexMatch, compiled, only⟩ := empty
  obtain ⟨pattern, methods⟩ := scope
  simp only [Scope.grants, Bool.and_eq_true] at grants
  have somePattern : pattern ≠ [] := by
    rintro rfl
    have matched := grants.1
    simp only [anchored, List.head?_nil, reduceCtorEq, if_false, List.getLast?_singleton,
      Option.some.injEq, Char.reduceEq, List.singleton_append, compiled, Option.any_some,
      only path named, Bool.false_eq_true] at matched
  have someMethod : methods ≠ [] := by
    rintro rfl
    simp at grants
  simp [Scope.kept, somePattern, someMethod]

theorem Scope.valid_of_no_path (empty : EmptyPattern regex) {scope : Scope}
    (noPath : scope.1 = []) : scope.valid regex = true := by
  obtain ⟨regexMatch, compiled, -⟩ := empty
  have pattern : anchored [] = ['^', '$'] := by decide
  simp [Scope.valid, noPath, pattern, compiled]

theorem Scope.kept_or_valid (empty : EmptyPattern regex) {scope : Scope}
    (methods : scope.2 ≠ []) : scope.kept = true ∨ scope.valid regex = true := by
  by_cases noPath : scope.1 = []
  · exact .inr (scope.valid_of_no_path empty noPath)
  · exact .inl (by simp [Scope.kept, noPath, methods])

/-- Where a scope is the first to grant a request and the scopes with methods in
front of it have valid patterns, so have those without. -/
def KeepsAnswers (regex : Regex) (scopes : List Scope) : Prop :=
  ∀ front scope back path method, scopes = front ++ scope :: back → path ≠ [] →
    scope.grants regex path method = true →
    (∀ earlier ∈ front, earlier.grants regex path method = false) →
    (∀ earlier ∈ front, earlier.2 ≠ [] → earlier.valid regex = true) →
    ∀ earlier ∈ front, earlier.valid regex = true

/-- What is granted first in a list is granted first among the scopes that the
loader keeps. -/
theorem anyScope_filter_of_anyScope (empty : EmptyPattern regex) (named : path ≠ [])
    (granted : anyScope regex path (toUpperCopy method) scopes = .ok true) :
    anyScope regex path (toUpperCopy method) (scopes.filter Scope.kept) = .ok true := by
  obtain ⟨front, scope, back, split, grants, sound, before⟩ := anyScope_eq_true_iff.mp granted
  refine anyScope_eq_true_iff.mpr ⟨front.filter Scope.kept, scope, back.filter Scope.kept, ?_,
    grants, sound, fun earlier member => before earlier (List.mem_of_mem_filter member)⟩
  rw [split, List.filter_append, List.filter_cons_of_pos (scope.kept_of_grants empty named grants)]

theorem anyScope_of_filter (empty : EmptyPattern regex) (keeps : KeepsAnswers regex scopes)
    (named : path ≠ [])
    (granted : anyScope regex path (toUpperCopy method) (scopes.filter Scope.kept) = .ok true) :
    anyScope regex path (toUpperCopy method) scopes = .ok true := by
  obtain ⟨front, scope, back, split, grants, sound, before⟩ := anyScope_eq_true_iff.mp granted
  obtain ⟨frontAll, rest, shape, frontKept, restKept⟩ := List.filter_eq_append_iff.mp split
  obtain ⟨skipped, backAll, restShape, dropped, -, -⟩ := List.filter_eq_cons_iff.mp restKept
  have whole : scopes = (frontAll ++ skipped) ++ scope :: backAll := by
    rw [shape, restShape, List.append_assoc]
  -- The scopes in front are those the loader kept and those it dropped.
  have keptBefore : ∀ earlier ∈ frontAll ++ skipped, earlier.kept = true →
      earlier.valid regex = true ∧ earlier.grants regex path method = false := by
    intro earlier member kept
    rcases List.mem_append.mp member with member | member
    · exact before earlier (frontKept ▸ List.mem_filter.mpr ⟨member, kept⟩)
    · exact absurd kept (dropped earlier member)
  have first : ∀ earlier ∈ frontAll ++ skipped, earlier.grants regex path method = false := by
    intro earlier member
    by_contra other
    rw [Bool.not_eq_false] at other
    have kept := earlier.kept_of_grants empty named other
    rw [(keptBefore earlier member kept).2] at other
    cases other
  have valid := keeps (frontAll ++ skipped) scope backAll path method whole named grants first
    fun earlier member methods =>
      (earlier.kept_or_valid empty methods).elim
        (fun kept => (keptBefore earlier member kept).1) id
  exact anyScope_eq_true_iff.mpr ⟨frontAll ++ skipped, scope, backAll, whole, grants, sound,
    fun earlier member => ⟨valid earlier member, first earlier member⟩⟩

theorem valid_of_grants {scope : Scope} (grants : scope.grants regex path method = true) :
    scope.valid regex = true := by
  simp only [Scope.grants, Bool.and_eq_true] at grants
  unfold Scope.valid
  cases compiled : regex (anchored scope.1) with
  | none => simp [compiled] at grants
  | some _ => rfl

/-- Two first positions of a list are the same. -/
theorem front_subset_of_first {front front' back back' : List Scope} {scope scope' : Scope}
    (same : front ++ scope :: back = front' ++ scope' :: back')
    (grants : scope'.grants regex path method = true)
    (first : ∀ earlier ∈ front, earlier.grants regex path method = false) :
    ∀ earlier ∈ front, earlier ∈ front' := by
  rcases List.append_eq_append_iff.mp same with ⟨more, shape, -⟩ | ⟨more, shape, rest⟩
  · intro earlier member
    rw [shape]
    exact List.mem_append_left _ member
  · cases more with
    | nil =>
        intro earlier member
        rw [shape, List.append_nil] at member
        exact member
    | cons head tail =>
        obtain ⟨rfl, -⟩ := List.cons.inj rest
        have refused := first scope' (by rw [shape]; simp)
        rw [refused] at grants
        cases grants

/-- Dropping the scopes that the loader drops changes no answer exactly when it
takes away no invalid pattern that stood in front of a grant. -/
theorem filter_keeps_iff (empty : EmptyPattern regex) :
    (∀ path method, path ≠ [] →
      (anyScope regex path (toUpperCopy method) (scopes.filter Scope.kept) = .ok true ↔
        anyScope regex path (toUpperCopy method) scopes = .ok true)) ↔
      KeepsAnswers regex scopes := by
  constructor
  · intro same front scope back path method split named grants first methods
    have loaded : anyScope regex path (toUpperCopy method) (scopes.filter Scope.kept) =
        .ok true := by
      refine anyScope_eq_true_iff.mpr ⟨front.filter Scope.kept, scope, back.filter Scope.kept, ?_,
        grants, valid_of_grants grants, ?_⟩
      · rw [split, List.filter_append,
          List.filter_cons_of_pos (scope.kept_of_grants empty named grants)]
      · intro earlier member
        obtain ⟨inside, kept⟩ := List.mem_filter.mp member
        simp only [Scope.kept, ne_eq, decide_not, Bool.and_eq_true, Bool.not_eq_true',
          decide_eq_false_iff_not] at kept
        exact ⟨methods earlier inside kept.2, first earlier inside⟩
    obtain ⟨front', scope', back', split', grants', -, before⟩ :=
      anyScope_eq_true_iff.mp ((same path method named).mp loaded)
    intro earlier member
    exact (before earlier
      (front_subset_of_first (split.symm.trans split') grants' first earlier member)).1
  · intro keeps path method named
    exact ⟨anyScope_of_filter empty keeps named, anyScope_filter_of_anyScope empty named⟩

/-! ## Sessions -/

/-- A point in time as it comes back from the file. -/
def Dependencies.wholeSeconds (dependencies : Dependencies) (ticks : Int) : Int :=
  dependencies.seconds (dependencies.toSeconds ticks)

theorem wholeSeconds_wholeSeconds (dependencies : Dependencies) (ticks : Int) :
    dependencies.wholeSeconds (dependencies.wholeSeconds ticks) =
      dependencies.wholeSeconds ticks := by
  unfold Dependencies.wholeSeconds Dependencies.seconds Dependencies.toSeconds
  rw [Int.mul_tdiv_cancel _ (ne_of_gt dependencies.ticks_pos)]

/-- Cutting to seconds takes less than a second away. -/
theorem lt_wholeSeconds (dependencies : Dependencies) (ticks : Int) :
    ticks < dependencies.wholeSeconds ticks + dependencies.seconds 1 := by
  have parts := Int.mul_tdiv_add_tmod ticks dependencies.ticksPerSecond
  have rest := Int.tmod_lt_of_pos ticks dependencies.ticks_pos
  unfold Dependencies.wholeSeconds Dependencies.seconds Dependencies.toSeconds
  rw [Int.mul_comm, one_mul]
  calc ticks = _ := parts.symm
    _ < _ := Int.add_lt_add_left rest _

/-- The manager after a save and a load at `now`. -/
def reloadSessions (dependencies : Dependencies) (now : Int) (manager : SessionTokenManager) :
    SessionTokenManager :=
  (saveNodes dependencies manager.sessionTokens).foldl (loadNode dependencies now)
    { sessionTokens := ∅, refreshIndex := ∅, dirty := false }

/-- The session of a saved session. -/
def restoredToken (dependencies : Dependencies) (hash : Text) (token : SessionToken) :
    SessionToken :=
  (loadToken dependencies (saveNode dependencies hash token)).1

/-- A session that is over when it is loaded is left out. -/
def restoredSession (dependencies : Dependencies) (now : Int) (hash : Text)
    (token : SessionToken) : Option SessionToken :=
  if hash = [] then none
  else
    let restored := restoredToken dependencies hash token
    if now > restored.refreshExpiresAt then none else some restored

/-- One turn of the loop, on the sessions alone. -/
theorem sessionTokens_loadNode (dependencies : Dependencies) (now : Int)
    (loaded : SessionTokenManager) (entry : Sigma fun _ : Text => SessionToken) :
    (loadNode dependencies now loaded
        (saveNode dependencies entry.1 entry.2)).sessionTokens =
      emplaceLoaded (restoredSession dependencies now) loaded.sessionTokens entry := by
  have hashed (hash : Text) (token : SessionToken) :
      (saveNode dependencies hash token).hash.getD [] = hash := rfl
  by_cases unnamed : entry.1 = []
  · simp [loadNode, emplaceLoaded, restoredSession, hashed, unnamed]
  · by_cases expired : (restoredToken dependencies entry.1 entry.2).refreshExpiresAt < now
    · have dropped : restoredSession dependencies now entry.1 entry.2 = none := by
        simp [restoredSession, expired]
      rw [restoredToken] at expired
      simp [loadNode, emplaceLoaded, dropped, hashed, unnamed, expired]
    · have kept : restoredSession dependencies now entry.1 entry.2 =
          some (restoredToken dependencies entry.1 entry.2) := by
        simp [restoredSession, unnamed, expired]
      rw [restoredToken] at expired
      simp only [loadNode, emplaceLoaded, kept, hashed, unnamed, expired, if_false]
      split <;> rfl

theorem sessionTokens_foldl_loadNode (dependencies : Dependencies) (now : Int)
    (entries : List (Sigma fun _ : Text => SessionToken)) (loaded : SessionTokenManager) :
    ((entries.map fun entry => saveNode dependencies entry.1 entry.2).foldl
        (loadNode dependencies now) loaded).sessionTokens =
      entries.foldl (emplaceLoaded (restoredSession dependencies now)) loaded.sessionTokens := by
  induction entries generalizing loaded with
  | nil => rfl
  | cons entry rest ih =>
      rw [List.map_cons, List.foldl_cons, ih, sessionTokens_loadNode, List.foldl_cons]

theorem lookup_reloadSessions (dependencies : Dependencies) (now : Int)
    (manager : SessionTokenManager) (hash : Text) :
    (reloadSessions dependencies now manager).sessionTokens.lookup hash =
      (manager.sessionTokens.lookup hash).bind (restoredSession dependencies now hash) := by
  rw [← lookup_rebuild manager.sessionTokens, rebuild, reloadSessions, saveNodes,
    sessionTokens_foldl_loadNode]

/-- The end of a session, and its end after a load. -/
def SessionToken.until (token : SessionToken) : Int := min token.expiresAt token.refreshExpiresAt

def SessionToken.cutUntil (dependencies : Dependencies) (token : SessionToken) : Int :=
  if token.refreshTokenHash = [] then dependencies.wholeSeconds token.expiresAt
  else min (dependencies.wholeSeconds token.expiresAt)
    (dependencies.wholeSeconds token.refreshExpiresAt)

/-- The deadline that comes back from the file. -/
def SessionToken.cutDeadline (dependencies : Dependencies) (token : SessionToken) : Int :=
  if token.refreshTokenHash = [] then dependencies.wholeSeconds token.expiresAt
  else dependencies.wholeSeconds token.refreshExpiresAt

theorem restoredToken_eq (hash : Text) (token : SessionToken) :
    restoredToken dependencies hash token =
      { token with
        createdAt := dependencies.wholeSeconds token.createdAt
        expiresAt := token.cutUntil dependencies
        refreshExpiresAt := token.cutDeadline dependencies
        lastSeen := dependencies.wholeSeconds token.lastSeen
        deviceLabel := if token.deviceLabel = [] then
          deriveDeviceLabel token.userAgent token.remoteAddress else token.deviceLabel } := by
  have expires : (if dependencies.wholeSeconds token.expiresAt > token.cutDeadline dependencies then
      token.cutDeadline dependencies else dependencies.wholeSeconds token.expiresAt) =
      token.cutUntil dependencies := by
    unfold SessionToken.cutDeadline SessionToken.cutUntil
    split
    · exact if_neg (lt_irrefl _)
    · split
      next later => exact (min_eq_right (le_of_lt later)).symm
      next notLater => exact (min_eq_left (not_lt.mp notLater)).symm
  rw [← expires]
  simp only [restoredToken, loadToken, saveNode, getD_putNonempty, Option.getD_some]
  rfl

theorem cutUntil_le_cutDeadline (dependencies : Dependencies) (token : SessionToken) :
    token.cutUntil dependencies ≤ token.cutDeadline dependencies := by
  unfold SessionToken.cutUntil SessionToken.cutDeadline
  split
  · exact le_refl _
  · exact min_le_right _ _

/-- A session ends less than a second earlier after a load. -/
theorem until_lt_cutUntil (dependencies : Dependencies) (token : SessionToken) :
    token.until < token.cutUntil dependencies + dependencies.seconds 1 := by
  have access := lt_wholeSeconds dependencies token.expiresAt
  have refresh := lt_wholeSeconds dependencies token.refreshExpiresAt
  have first : token.until ≤ token.expiresAt := min_le_left _ _
  have second : token.until ≤ token.refreshExpiresAt := min_le_right _ _
  unfold SessionToken.cutUntil
  split
  · omega
  · rcases min_choice (dependencies.wholeSeconds token.expiresAt)
      (dependencies.wholeSeconds token.refreshExpiresAt) with same | same <;> omega

/-- Whether a request with the session token is accepted. -/
def accepts (dependencies : Dependencies) (manager : SessionTokenManager) (token : Text)
    (time : Int) : Bool :=
  (manager.accessLocked dependencies token time).2.2.isSome

theorem accepts_iff {manager : SessionTokenManager} {token : Text} {time : Int} :
    accepts dependencies manager token time = true ↔
      ∃ session, manager.sessionTokens.lookup (dependencies.hash token) = some session ∧
        time ≤ session.until := by
  simp only [accepts, SessionTokenManager.accessLocked, SessionToken.until]
  cases manager.sessionTokens.lookup (dependencies.hash token) with
  | none => simp
  | some session =>
      simp only [Option.some.injEq, exists_eq_left', le_min_iff]
      split
      next expired => simp [not_le.mpr expired]
      next open_ =>
        split
        next expired => simp [not_le.mpr expired]
        next valid =>
          simp only [not_lt.mp open_, not_lt.mp valid, and_self, iff_true]
          split <;> rfl

theorem accepts_reloadSessions_iff (digest : ∀ token, dependencies.hash token ≠ []) {now time : Int}
    (since : now ≤ time) {manager : SessionTokenManager} {token : Text} :
    accepts dependencies (reloadSessions dependencies now manager) token time = true ↔
      ∃ session, manager.sessionTokens.lookup (dependencies.hash token) = some session ∧
        time ≤ session.cutUntil dependencies := by
  rw [accepts_iff, lookup_reloadSessions]
  cases manager.sessionTokens.lookup (dependencies.hash token) with
  | none => simp
  | some session =>
      have bound := cutUntil_le_cutDeadline dependencies session
      simp only [Option.bind_some, restoredSession, restoredToken_eq, if_neg (digest token),
        Option.some.injEq, exists_eq_left']
      split
      next expired =>
        simp only [reduceCtorEq, false_and, exists_false, false_iff, not_le]
        omega
      next kept =>
        simp only [Option.some.injEq, exists_eq_left', SessionToken.until, min_eq_left bound]

/-- The session does not outlast its own end by being cut to seconds, unless it
is over by then. -/
def NotProlonged (dependencies : Dependencies) (now : Int) (session : SessionToken) : Prop :=
  now ≤ session.cutUntil dependencies → session.cutUntil dependencies ≤ session.until

theorem restoredToken_restoredToken (hash : Text) (token : SessionToken) :
    restoredToken dependencies hash (restoredToken dependencies hash token) =
      restoredToken dependencies hash token := by
  have label : (if (if token.deviceLabel = [] then
      deriveDeviceLabel token.userAgent token.remoteAddress else token.deviceLabel) = [] then
      deriveDeviceLabel token.userAgent token.remoteAddress
      else if token.deviceLabel = [] then deriveDeviceLabel token.userAgent token.remoteAddress
        else token.deviceLabel) =
      if token.deviceLabel = [] then deriveDeviceLabel token.userAgent token.remoteAddress
        else token.deviceLabel := by
    by_cases unlabelled : token.deviceLabel = [] <;> simp [unlabelled]
  rw [restoredToken_eq, restoredToken_eq]
  by_cases unnamed : token.refreshTokenHash = []
  · simp only [SessionToken.cutUntil, SessionToken.cutDeadline, if_pos unnamed,
      wholeSeconds_wholeSeconds, label]
  · have whole : dependencies.wholeSeconds (min (dependencies.wholeSeconds token.expiresAt)
        (dependencies.wholeSeconds token.refreshExpiresAt)) =
        min (dependencies.wholeSeconds token.expiresAt)
          (dependencies.wholeSeconds token.refreshExpiresAt) := by
      rcases min_choice (dependencies.wholeSeconds token.expiresAt)
        (dependencies.wholeSeconds token.refreshExpiresAt) with same | same <;>
        rw [same, wholeSeconds_wholeSeconds]
    simp only [SessionToken.cutUntil, SessionToken.cutDeadline, if_neg unnamed, whole,
      wholeSeconds_wholeSeconds, label, min_assoc, min_self]

/-! ## The restart -/

theorem authenticateToken_reload (digest : ∀ token, dependencies.hash token ≠ [])
    {apiTokens : Table Text ApiTokenInfo} {token : Text} :
    authenticateToken regex dependencies (reloadApiTokens dependencies apiTokens) token path
        method =
      match apiTokens.lookup (dependencies.hash token) with
      | none => .ok false
      | some info => anyScope regex path (toUpperCopy method) (buildScopeMap info.pathMethods) := by
  rw [authenticateToken, lookup_reloadApiTokens]
  cases apiTokens.lookup (dependencies.hash token) with
  | none => rfl
  | some info => simp only [Option.bind_some, restoredInfo, if_neg (digest token)]

/-- The API tokens answer the same requests exactly when no loader filter takes
an invalid pattern away from in front of a grant. -/
theorem requests_iff (digest : ∀ token, dependencies.hash token ≠ []) (empty : EmptyPattern regex)
    (calls : List ApiCall) :
    (∀ token path method, path ≠ [] →
      (authenticateToken regex dependencies
          (reloadApiTokens dependencies (apiTokensAfter dependencies calls)) token path method =
          .ok true ↔
        authenticateToken regex dependencies (apiTokensAfter dependencies calls) token path
          method = .ok true)) ↔
      ∀ token info, (apiTokensAfter dependencies calls).lookup (dependencies.hash token) =
        some info → KeepsAnswers regex info.pathMethods := by
  constructor
  · intro same token info held
    have scopeMap := scopeMap_apiTokensAfter dependencies calls held
    refine (filter_keeps_iff empty).mp fun path method named => ?_
    have answers := same token path method named
    rw [authenticateToken_reload digest, authenticateToken, held] at answers
    dsimp only at answers
    rwa [buildScopeMap_eq scopeMap] at answers
  · intro keeps token path method named
    rw [authenticateToken_reload digest, authenticateToken]
    cases held : (apiTokensAfter dependencies calls).lookup (dependencies.hash token) with
    | none => rfl
    | some info =>
        have scopeMap := scopeMap_apiTokensAfter dependencies calls held
        dsimp only
        rw [buildScopeMap_eq scopeMap]
        exact (filter_keeps_iff empty).mpr (keeps token info held) path method named

theorem reloadApiTokens_again (digest : ∀ token, dependencies.hash token ≠ [])
    (calls : List ApiCall) (token : Text) :
    (reloadApiTokens dependencies (reloadApiTokens dependencies
        (apiTokensAfter dependencies calls))).lookup (dependencies.hash token) =
      (reloadApiTokens dependencies (apiTokensAfter dependencies calls)).lookup
        (dependencies.hash token) := by
  rw [lookup_reloadApiTokens, lookup_reloadApiTokens]
  cases held : (apiTokensAfter dependencies calls).lookup (dependencies.hash token) with
  | none => rfl
  | some info =>
      have whole := wholeSeconds_wholeSeconds dependencies info.createdAt
      unfold Dependencies.wholeSeconds at whole
      simp only [Option.bind_some, restoredInfo, if_neg (digest token), whole,
        buildScopeMap_buildScopeMap (scopeMap_apiTokensAfter dependencies calls held)]

theorem reloadSessions_again {now later : Int} (manager : SessionTokenManager) (hash : Text) :
    (reloadSessions dependencies later (reloadSessions dependencies now manager)).sessionTokens.lookup
        hash =
      ((reloadSessions dependencies now manager).sessionTokens.lookup hash).filter
        fun session => later ≤ session.refreshExpiresAt := by
  rw [lookup_reloadSessions, lookup_reloadSessions]
  cases manager.sessionTokens.lookup hash with
  | none => rfl
  | some session =>
      by_cases unnamed : hash = []
      · simp [restoredSession, unnamed]
      · by_cases expired : now > (restoredToken dependencies hash session).refreshExpiresAt
        · simp [restoredSession, expired]
        · simp only [Option.bind_some, restoredSession, if_neg unnamed, if_neg expired,
            restoredToken_restoredToken]
          by_cases open_ : later ≤ (restoredToken dependencies hash session).refreshExpiresAt
          · rw [if_neg (not_lt.mpr open_), Option.filter_some, if_pos (by simpa using open_)]
          · rw [if_pos (not_le.mp open_), Option.filter_some, if_neg (by simpa using open_)]

/-- What a save and a load at `now` keep. -/
structure Restarted (regex : Regex) (dependencies : Dependencies) (now : Int)
    (calls : List ApiCall) (manager : SessionTokenManager) : Prop where
  requests : ∀ token path method, path ≠ [] →
    (authenticateToken regex dependencies
        (reloadApiTokens dependencies (apiTokensAfter dependencies calls)) token path method =
        .ok true ↔
      authenticateToken regex dependencies (apiTokensAfter dependencies calls) token path method =
        .ok true)
  notLonger : ∀ token time, now ≤ time →
    accepts dependencies (reloadSessions dependencies now manager) token time = true →
    accepts dependencies manager token time = true
  notSooner : ∀ token time, now ≤ time →
    accepts dependencies manager token (time + dependencies.seconds 1) = true →
    accepts dependencies (reloadSessions dependencies now manager) token time = true
  apiTokensAgain : ∀ token,
    (reloadApiTokens dependencies (reloadApiTokens dependencies
        (apiTokensAfter dependencies calls))).lookup (dependencies.hash token) =
      (reloadApiTokens dependencies (apiTokensAfter dependencies calls)).lookup
        (dependencies.hash token)
  /-- A later load leaves out the sessions that are over by then, and no others. -/
  sessionsAgain : ∀ later hash,
    (reloadSessions dependencies later
        (reloadSessions dependencies now manager)).sessionTokens.lookup hash =
      ((reloadSessions dependencies now manager).sessionTokens.lookup hash).filter
        fun session => later ≤ session.refreshExpiresAt

theorem notLonger_iff (digest : ∀ token, dependencies.hash token ≠ []) {now : Int}
    {manager : SessionTokenManager} :
    (∀ token time, now ≤ time →
      accepts dependencies (reloadSessions dependencies now manager) token time = true →
      accepts dependencies manager token time = true) ↔
      ∀ token session, manager.sessionTokens.lookup (dependencies.hash token) = some session →
        NotProlonged dependencies now session := by
  constructor
  · intro kept token session held open_
    obtain ⟨same, found, ends⟩ := accepts_iff.mp (kept token (session.cutUntil dependencies) open_
      ((accepts_reloadSessions_iff digest open_).mpr ⟨session, held, le_refl _⟩))
    rw [held] at found
    obtain rfl := Option.some.inj found
    exact ends
  · intro bounded token time since accepted
    obtain ⟨session, held, ends⟩ := (accepts_reloadSessions_iff digest since).mp accepted
    have own := bounded token session held (le_trans since ends)
    exact accepts_iff.mpr ⟨session, held, le_trans ends own⟩

/-- A restart keeps the authorization exactly when it takes no invalid pattern
away from in front of a grant, and prolongs no session. -/
theorem restarted_iff (digest : ∀ token, dependencies.hash token ≠ [])
    (empty : EmptyPattern regex) (now : Int) (calls : List ApiCall)
    (manager : SessionTokenManager) :
    Restarted regex dependencies now calls manager ↔
      (∀ token info, (apiTokensAfter dependencies calls).lookup (dependencies.hash token) =
        some info → KeepsAnswers regex info.pathMethods) ∧
      ∀ token session, manager.sessionTokens.lookup (dependencies.hash token) = some session →
        NotProlonged dependencies now session := by
  constructor
  · intro kept
    exact ⟨(requests_iff digest empty calls).mp kept.requests,
      (notLonger_iff digest).mp kept.notLonger⟩
  · rintro ⟨answers, bounded⟩
    refine ⟨(requests_iff digest empty calls).mpr answers, (notLonger_iff digest).mpr bounded, ?_,
      reloadApiTokens_again digest calls, fun _ => reloadSessions_again manager⟩
    intro token time since accepted
    obtain ⟨session, held, ends⟩ := accepts_iff.mp accepted
    refine (accepts_reloadSessions_iff digest since).mpr ⟨session, held, ?_⟩
    have near := until_lt_cutUntil dependencies session
    omega

/-- A hash that is never empty. -/
def namedHash : Dependencies where
  hash token := 'h' :: token
  ticksPerSecond := 1
  ticks_pos := Int.one_pos

theorem literalRegex_emptyPattern : EmptyPattern literalRegex := by
  refine ⟨_, rfl, ?_⟩
  intro path named
  cases path with
  | nil => exact absurd rfl named
  | cons char rest => simp

/-- A scope without methods whose pattern has an unmatched parenthesis, and one that grants. -/
def shieldedScopes : Json.Value :=
  .arr [.obj [("path", .str "("), ("methods", .arr [])],
    .obj [("path", .str "/api/apps"), ("methods", .arr [.str "GET"])]]

def oneSession : SessionTokenManager where
  sessionTokens := AList.insert "hs".toList
    { username := [], createdAt := 0, expiresAt := 60, refreshExpiresAt := 90, userAgent := []
      remoteAddress := [], lastSeen := 0, rememberMe := false, deviceLabel := []
      refreshTokenHash := "hr".toList, rotationId := [] } ∅
  refreshIndex := AList.insert "hr".toList "hs".toList ∅
  dirty := false

theorem restarted_iff_shieldedScopes :
    Restarted literalRegex namedHash 0 [.create shieldedScopes [] "t".toList 0] oneSession ↔
      (∀ token info, (apiTokensAfter namedHash
          [.create shieldedScopes [] "t".toList 0]).lookup (namedHash.hash token) = some info →
        KeepsAnswers literalRegex info.pathMethods) ∧
      ∀ token session, oneSession.sessionTokens.lookup (namedHash.hash token) = some session →
        NotProlonged namedHash 0 session :=
  restarted_iff (fun _ => List.cons_ne_nil _ _) literalRegex_emptyPattern 0 _ _

theorem restart_grants_request :
    ¬ ∀ (regex : Regex) (dependencies : Dependencies) (now : Int) (calls : List ApiCall)
        (manager : SessionTokenManager), (∀ token, dependencies.hash token ≠ []) →
      EmptyPattern regex → Restarted regex dependencies now calls manager := by
  intro all
  have kept := all literalRegex namedHash 0 [.create shieldedScopes [] "t".toList 0]
    { sessionTokens := ∅, refreshIndex := ∅, dirty := false }
    (fun _ => List.cons_ne_nil _ _) literalRegex_emptyPattern
  have same := kept.requests "t".toList "/api/apps".toList "GET".toList (by decide)
  revert same
  decide +kernel

end UmbraHost.HttpAuth
