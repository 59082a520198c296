import UmbraHost.HttpAuth.StoredSessions

/-! # Operations on stored sessions

One rule for each operation of the token manager: it keeps the refresh index
inverse to the sessions, and what holds of the stored sessions goes on to hold. -/

namespace UmbraHost.HttpAuth

open UmbraHost.Tables

namespace TokenStore

variable {dependencies : Dependencies} {property : Property} {store : TokenStore}
  {written : Bool}

theorem Holds.withManager (holds : store.Holds dependencies property)
    {manager : SessionTokenManager} (memory : All property manager.sessionTokens) :
    Holds dependencies property { store with manager := manager } :=
  ⟨memory, holds.file⟩

/-- Saving on a condition, as the operations do behind their blocks. -/
theorem holds_saveIf {persist : Bool} (inverse : store.manager.Inverse)
    (holds : store.Holds dependencies property) :
    (if persist then store.saveSessionTokens dependencies written else store).Holds
      dependencies property := by
  split
  · exact holds_saveSessionTokens inverse holds.memory (.inr holds)
  · exact holds

theorem inverse_saveIf {persist : Bool} (inverse : store.manager.Inverse) :
    (if persist then store.saveSessionTokens dependencies written else store).manager.Inverse := by
  split
  · exact inverse_saveSessionTokens inverse
  · exact inverse

/-! ## Access -/

section Access

variable {token : Text} {now : Int}

theorem inverse_accessSession (inverse : store.manager.Inverse) :
    (store.accessSession dependencies token now written).1.manager.Inverse :=
  inverse_saveIf (inverse.accessLocked token now)

theorem holds_accessSession (bounding : property.Bounding) (inverse : store.manager.Inverse)
    (holds : store.Holds dependencies property) :
    (store.accessSession dependencies token now written).1.Holds dependencies property :=
  holds_saveIf (inverse.accessLocked token now)
    (holds.withManager (SessionTokenManager.all_accessLocked bounding holds.memory token now))

theorem accessSession_eq_some {accepted : SessionToken}
    (result : (store.accessSession dependencies token now written).2 = some accepted) :
    store.manager.sessionTokens.lookup (dependencies.hash token) = some accepted ∧
      now ≤ accepted.refreshExpiresAt :=
  SessionTokenManager.accessLocked_eq_some result

end Access

/-! ## Revocation -/

section Revocation

variable {tokenHash refreshToken : Text}

theorem inverse_revokeSessionByHash (inverse : store.manager.Inverse) :
    (store.revokeSessionByHash dependencies tokenHash written).1.manager.Inverse :=
  inverse_saveIf (inverse.revokeLocked tokenHash)

/-- Behind a revocation that removed a session no stored session has its hash. -/
theorem holds_revokeSessionByHash (tokenHash : Text) (written : Bool)
    (inverse : store.manager.Inverse)
    (holds : store.Holds dependencies property) :
    (store.revokeSessionByHash dependencies tokenHash written).1.Holds dependencies
      fun hash token => property hash token ∧
        ((store.revokeSessionByHash dependencies tokenHash written).2 = true →
          hash ≠ tokenHash) := by
  have kept := inverse.revokeLocked tokenHash
  have memory := SessionTokenManager.all_revokeLocked holds.memory tokenHash
  simp only [revokeSessionByHash]
  cases found : store.manager.sessionTokens.lookup tokenHash with
  | none =>
      have unchanged : store.manager.revokeLocked tokenHash = (store.manager, false) := by
        rw [SessionTokenManager.revokeLocked, found]
      rw [unchanged]
      exact holds.mono fun _ _ holds => ⟨holds, fun removed => by cases removed⟩
  | some token =>
      have removed : store.manager.revokeLocked tokenHash =
          (store.manager.eraseSession tokenHash token, true) := by
        rw [SessionTokenManager.revokeLocked, found]
      rw [removed] at kept memory ⊢
      rw [if_pos rfl]
      exact holds_saveSessionTokens kept memory (.inl rfl)

theorem revokeSessionByHash_eq_true
    (removed : (store.revokeSessionByHash dependencies tokenHash written).2 = true) :
    ∃ token, store.manager.sessionTokens.lookup tokenHash = some token :=
  SessionTokenManager.revokeLocked_eq_true removed

theorem inverse_revokeRefreshToken (inverse : store.manager.Inverse) :
    (store.revokeRefreshToken dependencies refreshToken written).1.manager.Inverse := by
  rw [revokeRefreshToken]
  split
  · exact inverse
  · split
    · exact inverse
    · exact inverse_revokeSessionByHash inverse

/-- A refresh token that was revoked has a session, which is gone afterwards. -/
theorem revokeRefreshToken_eq_true (inverse : store.manager.Inverse)
    (removed : (store.revokeRefreshToken dependencies refreshToken written).2 = true) :
    ∃ hash token, store.manager.sessionTokens.lookup hash = some token ∧
      token.refreshTokenHash = dependencies.hash refreshToken ∧
      store.revokeRefreshToken dependencies refreshToken written =
        store.revokeSessionByHash dependencies hash written := by
  rw [revokeRefreshToken] at removed ⊢
  split at removed
  · cases removed
  next given =>
    rw [if_neg given]
    split at removed
    · cases removed
    next hash indexed =>
      obtain ⟨token, found, same⟩ := inverse.session _ hash indexed
      exact ⟨hash, token, found, same, rfl⟩

theorem holds_revokeRefreshToken (inverse : store.manager.Inverse)
    (holds : store.Holds dependencies property) :
    (store.revokeRefreshToken dependencies refreshToken written).1.Holds dependencies
      property := by
  rw [revokeRefreshToken]
  split
  · exact holds
  · split
    · exact holds
    · exact (holds_revokeSessionByHash _ _ inverse holds).mono fun _ _ both => both.1

end Revocation

/-! ## Refresh and issue -/

section Rotation

variable {config : Config} {refreshToken userAgent remoteAddress : Text} {randoms : Randoms}
  {now cleanupNow : Int} {login : Login}

/-- A refresh that returns nothing. -/
structure Refused (store refreshed : TokenStore) (dependencies : Dependencies) : Prop where
  inverse : refreshed.manager.Inverse
  holds : ∀ property, store.Holds dependencies property → refreshed.Holds dependencies property

/-- A refresh is refused, or it rotates the session that has the refresh token. -/
theorem refreshSessionTokens_cases (dependencies : Dependencies) (config : Config)
    (refreshToken userAgent remoteAddress : Text) (randoms : Randoms) (now : Int) (written : Bool)
    (inverse : store.manager.Inverse) :
    let refreshed := store.refreshSessionTokens dependencies config refreshToken userAgent
      remoteAddress randoms now written
    (refreshed.2 = none ∧ Refused store refreshed.1 dependencies) ∨
    ∃ hash entry, store.manager.sessionTokens.lookup hash = some entry ∧
      entry.refreshTokenHash = dependencies.hash refreshToken ∧ now ≤ entry.refreshExpiresAt ∧
      let rotated := store.manager.rotate dependencies (dependencies.hash refreshToken) hash
        (SessionTokenManager.updatedToken dependencies config userAgent remoteAddress randoms now
          entry) randoms now
      refreshed = (saveSessionTokens dependencies written { store with manager := rotated.1 },
        some rotated.2) := by
  simp only [refreshSessionTokens]
  split
  next => exact .inl ⟨rfl, inverse, fun _ holds => holds⟩
  next =>
    rcases SessionTokenManager.refreshLocked_cases with
      ⟨-, same⟩ | ⟨hash, indexed, ⟨missing, -⟩ | ⟨entry, session, removed | ⟨valid, rotated⟩⟩⟩
    · rw [same]
      exact .inl ⟨rfl, inverse, fun _ holds => holds⟩
    · obtain ⟨token, found, -⟩ := inverse.session _ hash indexed
      rw [missing] at found
      cases found
    · obtain ⟨token, found, same⟩ := inverse.session _ hash indexed
      rw [session] at found
      cases found
      rw [removed, ← same]
      dsimp only
      rw [if_pos rfl]
      have erased := inverse.erase true session
      exact .inl ⟨rfl, inverse_saveSessionTokens erased, fun _ holds =>
        holds_saveSessionTokens erased ((holds.memory.erase hash).mono fun _ _ both => both.1)
          (.inl rfl)⟩
    · obtain ⟨token, found, same⟩ := inverse.session _ hash indexed
      rw [session] at found
      cases found
      rw [rotated]
      exact .inr ⟨hash, entry, session, same, valid, rfl⟩

theorem inverse_rotate {entry : SessionToken} {refreshHash oldHash : Text}
    (updated : SessionToken) (now : Int) (inverse : store.manager.Inverse)
    (found : store.manager.sessionTokens.lookup oldHash = some entry)
    (same : entry.refreshTokenHash = refreshHash) (named : updated.refreshTokenHash ≠ [])
    (newHash : store.manager.sessionTokens.lookup (dependencies.hash randoms.sessionToken) = none)
    (newRefresh : store.manager.refreshIndex.lookup updated.refreshTokenHash = none) :
    (saveSessionTokens dependencies written { store with
      manager := (store.manager.rotate dependencies refreshHash oldHash updated randoms
        now).1 }).manager.Inverse :=
  inverse_saveSessionTokens (inverse.rotate now found same named newHash newRefresh)

theorem holds_rotate {entry : SessionToken} {refreshHash oldHash : Text}
    (updated : SessionToken) (now : Int) (inverse : store.manager.Inverse)
    (memory : All property store.manager.sessionTokens)
    (found : store.manager.sessionTokens.lookup oldHash = some entry)
    (same : entry.refreshTokenHash = refreshHash) (named : updated.refreshTokenHash ≠ [])
    (newHash : store.manager.sessionTokens.lookup (dependencies.hash randoms.sessionToken) = none)
    (newRefresh : store.manager.refreshIndex.lookup updated.refreshTokenHash = none) :
    (saveSessionTokens dependencies written { store with
      manager := (store.manager.rotate dependencies refreshHash oldHash updated randoms
        now).1 }).Holds dependencies fun hash token => property hash token ∧ hash ≠ oldHash ∨
          hash = dependencies.hash randoms.sessionToken ∧ token = updated :=
  holds_saveSessionTokens (inverse.rotate now found same named newHash newRefresh)
    (SessionTokenManager.all_rotate now memory) (.inl rfl)

theorem inverse_issueSessionTokens (inverse : store.manager.Inverse)
    (named : dependencies.hash randoms.refreshToken ≠ [])
    (newHash : store.manager.sessionTokens.lookup (dependencies.hash randoms.sessionToken) = none)
    (newRefresh :
      store.manager.refreshIndex.lookup (dependencies.hash randoms.refreshToken) = none) :
    (store.issueSessionTokens dependencies config login randoms now cleanupNow
      written).1.manager.Inverse :=
  inverse_saveSessionTokens ((inverse.issueLocked named newHash newRefresh).cleanupLocked cleanupNow)

theorem holds_issueSessionTokens (inverse : store.manager.Inverse)
    (holds : store.Holds dependencies property)
    (named : dependencies.hash randoms.refreshToken ≠ [])
    (newHash : store.manager.sessionTokens.lookup (dependencies.hash randoms.sessionToken) = none)
    (newRefresh :
      store.manager.refreshIndex.lookup (dependencies.hash randoms.refreshToken) = none)
    (added : property (dependencies.hash randoms.sessionToken)
      (SessionTokenManager.issuedToken dependencies config login randoms now)) :
    (store.issueSessionTokens dependencies config login randoms now cleanupNow written).1.Holds
      dependencies property := by
  have issued : All property
      (store.manager.issueLocked dependencies config login randoms now).1.sessionTokens :=
    ((holds.memory.erase _).mono fun _ _ both => both.1).insert added
  have kept : ((store.manager.issueLocked dependencies config login randoms
      now).1.cleanupLocked cleanupNow).Inverse :=
    (inverse.issueLocked named newHash newRefresh).cleanupLocked cleanupNow
  have memory := SessionTokenManager.all_cleanupLocked issued cleanupNow
  simp only [issueSessionTokens]
  exact holds_saveSessionTokens kept memory (.inl rfl)

end Rotation

/-! ## Cleanup and load -/

theorem holds_cleanupExpiredSessionTokens {now : Int} (holds : store.Holds dependencies property) :
    (store.cleanupExpiredSessionTokens now).Holds dependencies property :=
  holds.withManager (SessionTokenManager.all_cleanupLocked holds.memory now)

section Load

variable {now : Int} {readable : Bool}

theorem load_cases :
    (store.loadSessionTokens dependencies now readable written = { store with
        manager := { sessionTokens := ∅, refreshIndex := ∅, dirty := false } }) ∨
      ∃ (nodes : List SessionNode) (persist : Bool), store.file = some nodes ∧ readable = true ∧
        let loaded : TokenStore := { store with
          manager := nodes.foldl (loadNode dependencies now)
            { sessionTokens := ∅, refreshIndex := ∅, dirty := false } }
        store.loadSessionTokens dependencies now readable written =
          if persist then loaded.saveSessionTokens dependencies written else loaded := by
  simp only [loadSessionTokens]
  split
  next nodes there => exact .inr ⟨nodes, _, there, rfl, rfl⟩
  next => exact .inl rfl

/-- A load of a file that the last save wrote. -/
theorem inverse_loadSessionTokens (current : readable = true → store.saveFailed = false)
    (holds : store.Holds dependencies property) :
    (store.loadSessionTokens dependencies now readable written).manager.Inverse := by
  rcases load_cases with empty | ⟨nodes, persist, there, read, loaded⟩
  · rw [empty]
    exact SessionTokenManager.inverse_empty
  · obtain ⟨saved, rfl, saveable, -⟩ := holds.file (current read) nodes there
    rw [loaded]
    exact inverse_saveIf (loaded_saveNodes dependencies now saveable).inverse

theorem holds_loadSessionTokens (bounding : property.Bounding)
    (current : readable = true → store.saveFailed = false)
    (holds : store.Holds dependencies property) :
    (store.loadSessionTokens dependencies now readable written).Holds dependencies property := by
  rcases load_cases with empty | ⟨nodes, persist, there, read, loaded⟩
  · rw [empty]
    exact holds.withManager all_empty
  · obtain ⟨saved, rfl, saveable, all⟩ := holds.file (current read) nodes there
    have taken := loaded_saveNodes dependencies now saveable
    rw [loaded]
    exact holds_saveIf taken.inverse (holds.withManager (taken.all saveable bounding all))

end Load

end TokenStore

end UmbraHost.HttpAuth
