import UmbraHost.HttpAuth.SessionTokens

/-! # The refresh index

The session map and the refresh index of the manager are inverse to each other,
through every operation and across a restart. -/

namespace UmbraHost.HttpAuth

open UmbraHost.Tables

namespace SessionTokenManager

/-- Every session has a refresh hash under which the index has the session, and
every entry of the index leads to a session with that refresh hash. -/
structure Inverse (manager : SessionTokenManager) : Prop where
  named : ∀ hash token, manager.sessionTokens.lookup hash = some token →
    token.refreshTokenHash ≠ []
  index : ∀ hash token, manager.sessionTokens.lookup hash = some token →
    manager.refreshIndex.lookup token.refreshTokenHash = some hash
  session : ∀ refreshHash hash, manager.refreshIndex.lookup refreshHash = some hash →
    ∃ token, manager.sessionTokens.lookup hash = some token ∧
      token.refreshTokenHash = refreshHash

variable {manager : SessionTokenManager} {hash : Text} {token : SessionToken} {dirty : Bool}

theorem inverse_empty :
    Inverse { sessionTokens := ∅, refreshIndex := ∅, dirty := dirty } where
  named _ _ found := by cases found
  index _ _ found := by cases found
  session _ _ found := by cases found

theorem Inverse.congr_dirty (inverse : manager.Inverse) :
    Inverse { manager with dirty := dirty } :=
  ⟨inverse.named, inverse.index, inverse.session⟩

/-- Two sessions never have the same refresh hash. -/
theorem Inverse.hash_eq (inverse : manager.Inverse) {other : Text} {token' : SessionToken}
    (found : manager.sessionTokens.lookup hash = some token)
    (found' : manager.sessionTokens.lookup other = some token')
    (same : token'.refreshTokenHash = token.refreshTokenHash) : other = hash := by
  have index := inverse.index hash token found
  rw [← same, inverse.index other token' found'] at index
  exact Option.some_inj.mp index

theorem Inverse.erase (inverse : manager.Inverse) (dirty : Bool)
    (found : manager.sessionTokens.lookup hash = some token) :
    Inverse
      { sessionTokens := manager.sessionTokens.erase hash
        refreshIndex := manager.refreshIndex.erase token.refreshTokenHash
        dirty := dirty } where
  named other token' kept := inverse.named other token' (lookup_erase_eq_some.mp kept).2
  index other token' kept := by
    obtain ⟨different, kept⟩ := lookup_erase_eq_some.mp kept
    refine lookup_erase_eq_some.mpr ⟨fun same => different ?_, inverse.index other token' kept⟩
    exact inverse.hash_eq found kept same
  session refreshHash other kept := by
    obtain ⟨different, kept⟩ := lookup_erase_eq_some.mp kept
    obtain ⟨token', session, same⟩ := inverse.session refreshHash other kept
    refine ⟨token', lookup_erase_eq_some.mpr ⟨?_, session⟩, same⟩
    rintro rfl
    rw [found] at session
    cases session
    exact different same.symm

theorem Inverse.eraseSession (inverse : manager.Inverse)
    (found : manager.sessionTokens.lookup hash = some token) :
    (manager.eraseSession hash token).Inverse := by
  rw [SessionTokenManager.eraseSession, if_neg (inverse.named hash token found)]
  exact inverse.erase true found

/-- A session under a new hash and with a new refresh hash. -/
theorem Inverse.insert (inverse : manager.Inverse)
    (newHash : manager.sessionTokens.lookup hash = none)
    (newRefresh : manager.refreshIndex.lookup token.refreshTokenHash = none)
    (named : token.refreshTokenHash ≠ []) :
    Inverse
      { sessionTokens := manager.sessionTokens.insert hash token
        refreshIndex := manager.refreshIndex.insert token.refreshTokenHash hash
        dirty := dirty } where
  named other token' found := by
    rcases lookup_insert_eq_some.mp found with ⟨-, rfl⟩ | ⟨-, found⟩
    · exact named
    · exact inverse.named other token' found
  index other token' found := by
    rcases lookup_insert_eq_some.mp found with ⟨rfl, rfl⟩ | ⟨-, found⟩
    · exact AList.lookup_insert _
    · have index := inverse.index other token' found
      refine lookup_insert_eq_some.mpr (.inr ⟨fun same => ?_, index⟩)
      rw [same, newRefresh] at index
      cases index
  session refreshHash other found := by
    rcases lookup_insert_eq_some.mp found with ⟨rfl, rfl⟩ | ⟨-, found⟩
    · exact ⟨token, AList.lookup_insert _, rfl⟩
    · obtain ⟨token', session, same⟩ := inverse.session refreshHash other found
      refine ⟨token', lookup_insert_eq_some.mpr (.inr ⟨?_, session⟩), same⟩
      rintro rfl
      rw [newHash] at session
      cases session

/-- A session may be replaced by one with the same refresh hash. -/
theorem Inverse.replace (inverse : manager.Inverse) {token' : SessionToken}
    (found : manager.sessionTokens.lookup hash = some token)
    (same : token'.refreshTokenHash = token.refreshTokenHash) :
    Inverse
      { manager with
        sessionTokens := manager.sessionTokens.insert hash token'
        dirty := dirty } where
  named other current kept := by
    rcases lookup_insert_eq_some.mp kept with ⟨-, rfl⟩ | ⟨-, kept⟩
    · rw [same]
      exact inverse.named hash token found
    · exact inverse.named other current kept
  index other current kept := by
    rcases lookup_insert_eq_some.mp kept with ⟨rfl, rfl⟩ | ⟨-, kept⟩
    · rw [same]
      exact inverse.index other token found
    · exact inverse.index other current kept
  session refreshHash other kept := by
    obtain ⟨current, session, named⟩ := inverse.session refreshHash other kept
    by_cases here : other = hash
    · subst here
      rw [found] at session
      cases session
      exact ⟨token', AList.lookup_insert _, same.trans named⟩
    · exact ⟨current, lookup_insert_eq_some.mpr (.inr ⟨here, session⟩), named⟩

variable {dependencies : Dependencies}

theorem Inverse.accessLocked (inverse : manager.Inverse) (token : Text) (now : Int) :
    (manager.accessLocked dependencies token now).1.Inverse := by
  simp only [SessionTokenManager.accessLocked]
  split
  · exact inverse
  next entry found =>
    split
    · exact inverse.eraseSession found
    · split
      · exact inverse
      · split
        · exact inverse.replace found rfl
        · exact inverse

theorem Inverse.revokeLocked (inverse : manager.Inverse) (tokenHash : Text) :
    (manager.revokeLocked tokenHash).1.Inverse := by
  rw [SessionTokenManager.revokeLocked]
  split
  · exact inverse
  next token found => exact inverse.eraseSession found

theorem mem_erased {now : Int} {refreshHash : Text} :
    refreshHash ∈ ((manager.sessionTokens.entries.filter
        fun entry => decide (now > entry.2.refreshExpiresAt)).map
          fun entry => entry.2.refreshTokenHash).filter (· ≠ []) ↔
      refreshHash ≠ [] ∧ ∃ hash token, manager.sessionTokens.lookup hash = some token ∧
        now > token.refreshExpiresAt ∧ token.refreshTokenHash = refreshHash := by
  simp only [List.mem_filter, List.mem_map, decide_eq_true_eq]
  constructor
  · rintro ⟨⟨⟨hash, token⟩, ⟨member, expired⟩, rfl⟩, named⟩
    exact ⟨named, hash, token, AList.mem_lookup_iff.mpr member, expired, rfl⟩
  · rintro ⟨named, hash, token, found, expired, rfl⟩
    exact ⟨⟨⟨hash, token⟩, ⟨AList.mem_lookup_iff.mp found, expired⟩, rfl⟩, named⟩

theorem Inverse.cleanupLocked (inverse : manager.Inverse) (now : Int) :
    (manager.cleanupLocked now).Inverse where
  named hash token kept :=
    inverse.named hash token (lookup_eraseIf_eq_some.mp kept).1
  index hash token kept := by
    obtain ⟨found, valid⟩ := lookup_eraseIf_eq_some.mp kept
    have stays : token.refreshTokenHash ∉ ((manager.sessionTokens.entries.filter
        fun entry => decide (now > entry.2.refreshExpiresAt)).map
          fun entry => entry.2.refreshTokenHash).filter (· ≠ []) := by
      rw [mem_erased]
      rintro ⟨-, other, token', found', expired, same⟩
      obtain rfl := inverse.hash_eq found found' same
      rw [found] at found'
      cases found'
      exact absurd expired (of_decide_eq_false valid)
    simp only [SessionTokenManager.cleanupLocked, lookup_eraseAll]
    rw [if_neg stays]
    exact inverse.index hash token found
  session refreshHash hash kept := by
    simp only [SessionTokenManager.cleanupLocked, lookup_eraseAll] at kept
    split at kept
    · cases kept
    next stays =>
      obtain ⟨token, found, rfl⟩ := inverse.session refreshHash hash kept
      refine ⟨token, lookup_eraseIf_eq_some.mpr ⟨found, decide_eq_false fun expired => ?_⟩, rfl⟩
      exact stays (mem_erased.mpr
        ⟨inverse.named hash token found, hash, token, found, expired, rfl⟩)

end SessionTokenManager

end UmbraHost.HttpAuth
