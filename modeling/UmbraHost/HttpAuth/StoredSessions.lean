import UmbraHost.HttpAuth.RefreshIndex

/-! # Stored sessions

What holds of every session in memory and, unless the last save failed, of every
session in the file: one rule for each operation, for properties that depend on
the hashes and on an upper bound of the refresh deadline. -/

namespace UmbraHost.HttpAuth

open UmbraHost.Tables

/-- A property of stored sessions. -/
abbrev Property := Text → SessionToken → Prop

/-- The property looks at the refresh hash and bounds the refresh deadline. -/
def Property.Bounding (property : Property) : Prop :=
  ∀ hash token token', property hash token →
    token'.refreshTokenHash = token.refreshTokenHash →
    (token'.refreshExpiresAt ≤ token.refreshExpiresAt ∨ token'.refreshExpiresAt ≤ 0) →
    property hash token'

def All (property : Property) (sessionTokens : Table Text SessionToken) : Prop :=
  ∀ hash token, sessionTokens.lookup hash = some token → property hash token

variable {property : Property} {sessionTokens : Table Text SessionToken} {hash : Text}
  {token : SessionToken}

theorem All.erase (all : All property sessionTokens) (erased : Text) :
    All (fun hash token => property hash token ∧ hash ≠ erased) (sessionTokens.erase erased) := by
  intro hash token found
  obtain ⟨different, found⟩ := lookup_erase_eq_some.mp found
  exact ⟨all hash token found, different⟩

theorem All.insert (all : All property sessionTokens) (added : property hash token) :
    All property (sessionTokens.insert hash token) := by
  intro other token' found
  rcases lookup_insert_eq_some.mp found with ⟨rfl, rfl⟩ | ⟨-, found⟩
  · exact added
  · exact all other token' found

theorem All.mono (all : All property sessionTokens) {weaker : Property}
    (implies : ∀ hash token, property hash token → weaker hash token) :
    All weaker sessionTokens :=
  fun hash token found => implies hash token (all hash token found)

theorem all_empty : All property ∅ := by
  intro hash token found
  cases found

namespace SessionTokenManager

variable {manager : SessionTokenManager} {dependencies : Dependencies}

theorem all_cleanupLocked (all : All property manager.sessionTokens) (now : Int) :
    All property (manager.cleanupLocked now).sessionTokens :=
  fun hash token found => all hash token (lookup_eraseIf_eq_some.mp found).1

theorem all_accessLocked (bounding : property.Bounding) (all : All property manager.sessionTokens)
    (token : Text) (now : Int) :
    All property (manager.accessLocked dependencies token now).1.sessionTokens := by
  simp only [accessLocked]
  split
  · exact all
  next entry found =>
    split
    · exact (all.erase _).mono fun _ _ both => both.1
    · split
      · exact all
      · split
        · exact all.insert (bounding _ _ _ (all _ entry found) rfl (.inl (Int.le_refl _)))
        · exact all

/-- An accepted access token has a session whose refresh deadline has not passed. -/
theorem accessLocked_eq_some {text : Text} {now : Int}
    (accepted : (manager.accessLocked dependencies text now).2.2 = some token) :
    manager.sessionTokens.lookup (dependencies.hash text) = some token ∧
      now ≤ token.refreshExpiresAt := by
  simp only [accessLocked] at accepted
  split at accepted
  · cases accepted
  next entry found =>
    split at accepted
    · cases accepted
    next valid =>
      split at accepted
      · cases accepted
      · split at accepted
        · cases accepted
          exact ⟨found, Int.not_lt.mp valid⟩
        · cases accepted
          exact ⟨found, Int.not_lt.mp valid⟩

theorem all_revokeLocked (all : All property manager.sessionTokens) (tokenHash : Text) :
    All (fun hash token => property hash token ∧
        ((manager.revokeLocked tokenHash).2 = true → hash ≠ tokenHash))
      (manager.revokeLocked tokenHash).1.sessionTokens := by
  simp only [revokeLocked]
  split
  · exact all.mono fun _ _ holds => ⟨holds, fun removed => by cases removed⟩
  · exact (all.erase tokenHash).mono fun _ _ both => ⟨both.1, fun _ => both.2⟩

theorem revokeLocked_eq_true {tokenHash : Text}
    (removed : (manager.revokeLocked tokenHash).2 = true) :
    ∃ token, manager.sessionTokens.lookup tokenHash = some token := by
  simp only [revokeLocked] at removed
  split at removed
  · cases removed
  next token found => exact ⟨token, found⟩

variable {config : Config} {refreshToken userAgent remoteAddress : Text} {randoms : Randoms}
  {now : Int}

/-- The branches of a refresh: nothing is there, only an index entry or a session
past its deadline is removed, or the session is rotated. -/
theorem refreshLocked_cases :
    let refreshed := manager.refreshLocked dependencies config refreshToken userAgent
      remoteAddress randoms now
    let refreshHash := dependencies.hash refreshToken
    (manager.refreshIndex.lookup refreshHash = none ∧ refreshed = (manager, false, none)) ∨
    ∃ hash, manager.refreshIndex.lookup refreshHash = some hash ∧
      ((manager.sessionTokens.lookup hash = none ∧
          refreshed = ({ manager with
            refreshIndex := manager.refreshIndex.erase refreshHash
            dirty := true }, true, none)) ∨
        ∃ entry, manager.sessionTokens.lookup hash = some entry ∧
          (refreshed = ({
              sessionTokens := manager.sessionTokens.erase hash
              refreshIndex := manager.refreshIndex.erase refreshHash
              dirty := true }, true, none) ∨
            now ≤ entry.refreshExpiresAt ∧
              let rotated := manager.rotate dependencies refreshHash hash
                (updatedToken dependencies config userAgent remoteAddress randoms now entry)
                randoms now
              refreshed = (rotated.1, true, some rotated.2))) := by
  simp only [refreshLocked]
  split
  next missing => exact .inl ⟨missing, rfl⟩
  next hash found =>
    refine .inr ⟨hash, found, ?_⟩
    split
    next missing => exact .inl ⟨missing, rfl⟩
    next entry session =>
      refine .inr ⟨entry, session, ?_⟩
      split
      next => exact .inl rfl
      next valid => exact .inr ⟨Int.not_lt.mp valid, rfl⟩

theorem all_rotate (now : Int) {updated : SessionToken} {refreshHash oldHash : Text}
    (all : All property manager.sessionTokens) :
    All (fun hash token => property hash token ∧ hash ≠ oldHash ∨
        hash = dependencies.hash randoms.sessionToken ∧ token = updated)
      (manager.rotate dependencies refreshHash oldHash updated randoms now).1.sessionTokens := by
  simp only [rotate]
  split
  · exact (all.erase oldHash).mono fun _ _ both => .inl both
  · exact ((all.erase oldHash).mono fun _ _ both => .inl both).insert (.inr ⟨rfl, rfl⟩)

theorem Inverse.rotate {entry updated : SessionToken} {refreshHash oldHash : Text}
    (inverse : manager.Inverse) (now : Int) (found : manager.sessionTokens.lookup oldHash = some entry)
    (same : entry.refreshTokenHash = refreshHash) (named : updated.refreshTokenHash ≠ [])
    (newHash : manager.sessionTokens.lookup (dependencies.hash randoms.sessionToken) = none)
    (newRefresh : manager.refreshIndex.lookup updated.refreshTokenHash = none) :
    (manager.rotate dependencies refreshHash oldHash updated randoms now).1.Inverse := by
  have missing := lookup_erase_eq_none oldHash newHash
  simp only [SessionTokenManager.rotate]
  rw [if_neg (AList.lookup_eq_none.mp missing)]
  subst same
  exact (inverse.erase true found).insert missing (lookup_erase_eq_none _ newRefresh) named

theorem Inverse.issueLocked {login : Login} (inverse : manager.Inverse)
    (named : dependencies.hash randoms.refreshToken ≠ [])
    (newHash : manager.sessionTokens.lookup (dependencies.hash randoms.sessionToken) = none)
    (newRefresh : manager.refreshIndex.lookup (dependencies.hash randoms.refreshToken) = none) :
    (manager.issueLocked dependencies config login randoms now).1.Inverse := by
  have unchanged : manager.sessionTokens.erase (dependencies.hash randoms.sessionToken) =
      manager.sessionTokens :=
    AList.ext (List.kerase_of_notMem_keys (AList.lookup_eq_none.mp newHash))
  simp only [SessionTokenManager.issueLocked, unchanged]
  exact inverse.insert newHash newRefresh named

end SessionTokenManager

/-! ## The file -/

theorem getD_putNonempty (value : Text) : (putNonempty value).getD [] = value := by
  rw [putNonempty]
  split
  next empty => exact empty.symm
  · rfl

theorem refreshTokenHash_loadToken (dependencies : Dependencies) (hash : Text)
    (token : SessionToken) :
    (loadToken dependencies (saveNode dependencies hash token)).1.refreshTokenHash =
      token.refreshTokenHash :=
  getD_putNonempty token.refreshTokenHash

/-- A point in time is not later for having been cut to seconds, unless it is before
the epoch. -/
theorem seconds_toSeconds (dependencies : Dependencies) (ticks : Int) :
    dependencies.seconds (dependencies.toSeconds ticks) ≤ ticks ∨
      dependencies.seconds (dependencies.toSeconds ticks) ≤ 0 := by
  rw [Dependencies.seconds, Dependencies.toSeconds]
  by_cases negative : ticks < 0
  · right
    have mirrored := Int.tdiv_nonneg (Int.neg_nonneg_of_nonpos (Int.le_of_lt negative))
      (Int.le_of_lt dependencies.ticks_pos)
    rw [Int.neg_tdiv] at mirrored
    have sign := Int.nonpos_of_neg_nonneg mirrored
    exact Int.mul_nonpos_of_nonpos_of_nonneg sign (Int.le_of_lt dependencies.ticks_pos)
  · left
    rw [Int.tdiv_eq_ediv_of_nonneg (Int.not_lt.mp negative)]
    exact Int.ediv_mul_le ticks (Int.ne_of_gt dependencies.ticks_pos)

theorem refreshExpiresAt_loadToken (dependencies : Dependencies) (hash : Text)
    (token : SessionToken) (named : token.refreshTokenHash ≠ []) :
    (loadToken dependencies (saveNode dependencies hash token)).1.refreshExpiresAt =
      dependencies.seconds (dependencies.toSeconds token.refreshExpiresAt) := by
  simp only [loadToken, saveNode, getD_putNonempty]
  rw [if_neg named]
  rfl

/-- Sessions that a manager could have: named refresh hashes, no two alike. -/
structure Saveable (sessionTokens : Table Text SessionToken) : Prop where
  named : ∀ hash token, sessionTokens.lookup hash = some token → token.refreshTokenHash ≠ []
  distinct : ∀ hash token hash' token', sessionTokens.lookup hash = some token →
    sessionTokens.lookup hash' = some token' →
    token.refreshTokenHash = token'.refreshTokenHash → hash = hash'

/-- What a load has taken from the saved sessions so far. -/
structure Loaded (dependencies : Dependencies) (saved : Table Text SessionToken)
    (manager : SessionTokenManager) : Prop where
  inverse : manager.Inverse
  origin : ∀ hash token, manager.sessionTokens.lookup hash = some token →
    ∃ source, saved.lookup hash = some source ∧
      token = (loadToken dependencies (saveNode dependencies hash source)).1

variable {dependencies : Dependencies} {saved : Table Text SessionToken} {now : Int}

theorem Loaded.loadNode {manager : SessionTokenManager} (saveable : Saveable saved)
    (loaded : Loaded dependencies saved manager) {hash : Text} {source : SessionToken}
    (found : saved.lookup hash = some source) :
    Loaded dependencies saved
      (loadNode dependencies now manager (saveNode dependencies hash source)) := by
  have named := saveable.named hash source found
  have refreshHash := refreshTokenHash_loadToken dependencies hash source
  have skipped (dirty : Bool) : Loaded dependencies saved { manager with dirty := dirty } :=
    ⟨loaded.inverse.congr_dirty, loaded.origin⟩
  have hashed : (saveNode dependencies hash source).hash.getD [] = hash := rfl
  simp only [HttpAuth.loadNode, hashed]
  split
  · exact loaded
  · split
    · exact skipped _
    · split
      · exact skipped _
      next absent =>
        have missing := AList.lookup_eq_none.mpr absent
        rw [refreshHash, if_neg named, ← refreshHash]
        refine ⟨loaded.inverse.insert missing ?_ (refreshHash ▸ named), ?_⟩
        · by_contra present
          obtain ⟨other, indexed⟩ := Option.ne_none_iff_exists'.mp present
          obtain ⟨token, session, same⟩ := loaded.inverse.session _ other indexed
          obtain ⟨source', found', rfl⟩ := loaded.origin other token session
          rw [refreshTokenHash_loadToken, refreshHash] at same
          obtain rfl := saveable.distinct _ _ _ _ found' found same
          rw [missing] at session
          cases session
        · intro other token session
          rcases lookup_insert_eq_some.mp session with ⟨rfl, rfl⟩ | ⟨-, session⟩
          · exact ⟨source, found, rfl⟩
          · exact loaded.origin other token session

theorem Loaded.foldl {manager : SessionTokenManager} (saveable : Saveable saved)
    (loaded : Loaded dependencies saved manager) (entries : List (Sigma fun _ : Text => SessionToken))
    (listed : ∀ entry ∈ entries, saved.lookup entry.1 = some entry.2) :
    Loaded dependencies saved
      ((entries.map fun entry => saveNode dependencies entry.1 entry.2).foldl
        (HttpAuth.loadNode dependencies now) manager) := by
  induction entries generalizing manager with
  | nil => exact loaded
  | cons entry rest ih =>
      exact ih (loaded.loadNode saveable (listed entry List.mem_cons_self))
        fun other member => listed other (List.mem_cons_of_mem _ member)

theorem loaded_saveNodes (dependencies : Dependencies) (now : Int) (saveable : Saveable saved) :
    Loaded dependencies saved
      ((saveNodes dependencies saved).foldl (loadNode dependencies now)
        { sessionTokens := ∅, refreshIndex := ∅, dirty := false }) :=
  Loaded.foldl saveable ⟨SessionTokenManager.inverse_empty, fun _ _ found => by cases found⟩
    saved.entries fun _ member => AList.mem_lookup_iff.mpr member

theorem Loaded.all {manager : SessionTokenManager} (loaded : Loaded dependencies saved manager)
    (saveable : Saveable saved) (bounding : property.Bounding) (all : All property saved) :
    All property manager.sessionTokens := by
  intro hash token found
  obtain ⟨source, origin, rfl⟩ := loaded.origin hash token found
  refine bounding hash source _ (all hash source origin)
    (refreshTokenHash_loadToken dependencies hash source) ?_
  rw [refreshExpiresAt_loadToken dependencies hash source (saveable.named hash source origin)]
  exact seconds_toSeconds dependencies source.refreshExpiresAt

/-! ## The store -/

/-- The property of all sessions in memory and, unless the last save failed, of all
sessions that the file was written from. -/
structure TokenStore.Holds (dependencies : Dependencies) (property : Property)
    (store : TokenStore) : Prop where
  memory : All property store.manager.sessionTokens
  file : store.saveFailed = false → ∀ nodes, store.file = some nodes →
    ∃ saved, nodes = saveNodes dependencies saved ∧ Saveable saved ∧ All property saved

namespace TokenStore

variable {store : TokenStore} {written : Bool}

theorem saveable_of_inverse {manager : SessionTokenManager} (inverse : manager.Inverse) :
    Saveable manager.sessionTokens :=
  ⟨inverse.named, fun _ _ _ _ found found' same => inverse.hash_eq found' found same⟩

theorem Holds.mono {weaker : Property} (holds : store.Holds dependencies property)
    (implies : ∀ hash token, property hash token → weaker hash token) :
    store.Holds dependencies weaker := by
  refine ⟨holds.memory.mono implies, fun current nodes there => ?_⟩
  obtain ⟨saved, same, saveable, all⟩ := holds.file current nodes there
  exact ⟨saved, same, saveable, all.mono implies⟩

/-- A save keeps what holds; one that has something to save forgets the old file. -/
theorem holds_saveSessionTokens (inverse : store.manager.Inverse)
    (memory : All property store.manager.sessionTokens)
    (file : store.manager.dirty = true ∨ store.Holds dependencies property) :
    (store.saveSessionTokens dependencies written).Holds dependencies property := by
  rw [saveSessionTokens]
  split
  · split
    · refine ⟨memory, fun _ nodes there => ?_⟩
      cases there
      exact ⟨store.manager.sessionTokens, rfl, saveable_of_inverse inverse, memory⟩
    · exact ⟨memory, fun current => by cases current⟩
  next clean =>
    rcases file with dirty | holds
    · exact absurd dirty clean
    · exact holds

theorem inverse_saveSessionTokens (inverse : store.manager.Inverse) :
    (store.saveSessionTokens dependencies written).manager.Inverse := by
  rw [saveSessionTokens]
  split
  · split
    · exact inverse.congr_dirty
    · exact inverse
  · exact inverse

end TokenStore

end UmbraHost.HttpAuth
