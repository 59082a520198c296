import UmbraHost.HttpAuth.Grants

/-! # Lifetimes of web session tokens

A token is accepted only while the grant it belongs to has not been taken back
and not behind the refresh deadline of its login. -/

namespace UmbraHost.HttpAuth

open UmbraHost.Tables

variable {dependencies : Dependencies} {trace : List Entry} {entry : Entry} {hash : Text}
  {token : SessionToken}

/-! ## Backed sessions -/

/-- A grant that nothing has taken back stands behind the session. -/
structure Grant.Backs (dependencies : Dependencies) (trace : List Entry) (hash : Text)
    (token : SessionToken) (grant : Grant) : Prop where
  granted : grant ∈ grants dependencies trace
  session : dependencies.hash grant.sessionToken = hash
  refresh : dependencies.hash grant.refreshToken = token.refreshTokenHash
  deadline : token.refreshExpiresAt ≤ grant.deadline
  kept : ∀ entry ∈ trace, ¬ entry.Retires dependencies grant

def Backed (dependencies : Dependencies) (trace : List Entry) : Property :=
  fun hash token =>
    ∃ grant : Grant, 0 ≤ grant.deadline ∧ grant.Backs dependencies trace hash token

theorem backed_bounding : (Backed dependencies trace).Bounding := by
  rintro hash token token' ⟨grant, future, backs⟩ refreshHash deadline
  refine ⟨grant, future, backs.granted, backs.session, backs.refresh.trans refreshHash.symm, ?_,
    backs.kept⟩
  have bound := backs.deadline
  omega

theorem grants_subset_cons : grants dependencies trace ⊆ grants dependencies (entry :: trace) :=
  List.subset_append_right _ _

theorem grants_subset_append (later : List Entry) :
    grants dependencies trace ⊆ grants dependencies (later ++ trace) := by
  induction later with
  | nil => exact List.Subset.refl _
  | cons entry rest ih => exact List.Subset.trans ih grants_subset_cons

/-- The grant goes on to stand behind the session if the entry does not retire it. -/
theorem Grant.Backs.cons {grant : Grant} (backs : grant.Backs dependencies trace hash token)
    (kept : ¬ entry.Retires dependencies grant) :
    grant.Backs dependencies (entry :: trace) hash token where
  granted := grants_subset_cons backs.granted
  session := backs.session
  refresh := backs.refresh
  deadline := backs.deadline
  kept other member := by
    rcases List.mem_cons.mp member with rfl | member
    · exact kept
    · exact backs.kept other member

theorem backed_cons (backed : Backed dependencies trace hash token)
    (kept : ∀ grant : Grant, grant.Backs dependencies trace hash token →
      ¬ entry.Retires dependencies grant) : Backed dependencies (entry :: trace) hash token := by
  obtain ⟨grant, future, backs⟩ := backed
  exact ⟨grant, future, backs.cons (kept grant backs)⟩

/-! ## The invariant -/

/-- What an entry accepts and takes back was granted before; what it accepts was not
taken back and is in time. -/
structure Entry.Justified (dependencies : Dependencies) (earlier : List Entry) (entry : Entry) :
    Prop where
  accepted : ∀ presented now, entry.accepted = some (presented, now) →
    ∃ grant ∈ grants dependencies earlier, grant.Holds presented ∧ now ≤ grant.deadline ∧
      ∀ other ∈ earlier, ¬ other.Retires dependencies grant
  retired : ∀ grant : Grant, entry.Retires dependencies grant →
    ∃ other ∈ grants dependencies earlier,
      other.sessionToken = grant.sessionToken ∨ other.refreshToken = grant.refreshToken

structure Unique (grants : List Grant) : Prop where
  session : ∀ grant ∈ grants, ∀ other ∈ grants, grant.sessionToken = other.sessionToken →
    grant = other
  refresh : ∀ grant ∈ grants, ∀ other ∈ grants, grant.refreshToken = other.refreshToken →
    grant = other

theorem Unique.find_refresh {grants : List Grant} (unique : Unique grants) {grant : Grant}
    {refreshToken : Text} (member : grant ∈ grants) (same : grant.refreshToken = refreshToken) :
    grants.find? (·.refreshToken = refreshToken) = some grant := by
  cases found : grants.find? (·.refreshToken = refreshToken) with
  | none =>
      have missing := List.find?_eq_none.mp found grant member
      exact absurd (decide_eq_true same) missing
  | some other =>
      have named : other.refreshToken = refreshToken := by simpa using List.find?_some found
      rw [unique.refresh other (List.mem_of_find?_eq_some found) grant member
        (named.trans same.symm)]

structure World.Invariant (dependencies : Dependencies) (world : World) : Prop where
  inverse : world.store.manager.Inverse
  holds : world.store.Holds dependencies (Backed dependencies world.trace)
  clock : 0 ≤ world.clock
  unique : Unique (grants dependencies world.trace)
  justified : ∀ later entry earlier, world.trace = later ++ entry :: earlier →
    entry.Justified dependencies earlier

theorem Unique.holds_eq {grants : List Grant} (unique : Unique grants) {grant other : Grant}
    {presented : Presented} (member : grant ∈ grants) (member' : other ∈ grants)
    (holds : grant.Holds presented) (holds' : other.Holds presented) : grant = other := by
  cases presented with
  | session token => exact unique.session _ member _ member' (holds.trans holds'.symm)
  | refresh token => exact unique.refresh _ member _ member' (holds.trans holds'.symm)

theorem Unique.cons {grants : List Grant} {grant : Grant} (unique : Unique grants)
    (fresh : ∀ other ∈ grants, other.sessionToken ≠ grant.sessionToken ∧
      other.refreshToken ≠ grant.refreshToken) : Unique (grant :: grants) := by
  constructor
  · intro first member second member' same
    rcases List.mem_cons.mp member with rfl | known <;>
      rcases List.mem_cons.mp member' with rfl | known'
    · rfl
    · exact absurd same.symm (fresh second known').1
    · exact absurd same (fresh first known).1
    · exact unique.session first known second known' same
  · intro first member second member' same
    rcases List.mem_cons.mp member with rfl | known <;>
      rcases List.mem_cons.mp member' with rfl | known'
    · rfl
    · exact absurd same.symm (fresh second known').2
    · exact absurd same (fresh first known).2
    · exact unique.refresh first known second known' same

namespace World.Invariant

variable {world : World} {event : Event} {response : Response} {store : TokenStore} {clock : Int}

/-- Behind an entry that grants nothing. -/
theorem next (invariant : world.Invariant dependencies)
    (inverse : store.manager.Inverse)
    (holds : store.Holds dependencies (Backed dependencies (entry :: world.trace)))
    (future : 0 ≤ clock)
    (unique : Unique (grants dependencies (entry :: world.trace)))
    (justified : entry.Justified dependencies world.trace) :
    World.Invariant dependencies
      { store := store, clock := clock, trace := entry :: world.trace } where
  inverse := inverse
  holds := holds
  clock := future
  unique := unique
  justified later current earlier split := by
    cases later with
    | nil =>
        cases split
        exact justified
    | cons _ later =>
        obtain ⟨-, rest⟩ := List.cons_eq_cons.mp split
        exact invariant.justified later current earlier rest

/-- Nothing so far takes back a grant of new tokens. -/
theorem fresh_kept (invariant : world.Invariant dependencies) {grant : Grant}
    (fresh : ∀ other ∈ grants dependencies world.trace,
      other.sessionToken ≠ grant.sessionToken ∧ other.refreshToken ≠ grant.refreshToken) :
    ∀ entry ∈ world.trace, ¬ entry.Retires dependencies grant := by
  intro entry member retires
  obtain ⟨later, earlier, split⟩ := List.append_of_mem member
  obtain ⟨other, granted, same⟩ :=
    (invariant.justified later entry earlier split).retired grant retires
  have known : other ∈ grants dependencies world.trace := by
    rw [split]
    exact grants_subset_append _ (grants_subset_cons granted)
  rcases same with same | same
  · exact (fresh other known).1 same
  · exact (fresh other known).2 same

theorem session_missing (invariant : world.Invariant dependencies)
    (free : CollisionFree dependencies) {text : Text}
    (fresh : ∀ grant ∈ grants dependencies world.trace, grant.sessionToken ≠ text) :
    world.store.manager.sessionTokens.lookup (dependencies.hash text) = none := by
  by_contra present
  obtain ⟨token, found⟩ := Option.ne_none_iff_exists'.mp present
  obtain ⟨grant, -, backs⟩ := invariant.holds.memory _ token found
  exact fresh grant backs.granted (free.injective backs.session)

theorem refresh_missing (invariant : world.Invariant dependencies)
    (free : CollisionFree dependencies) {text : Text}
    (fresh : ∀ grant ∈ grants dependencies world.trace, grant.refreshToken ≠ text) :
    world.store.manager.refreshIndex.lookup (dependencies.hash text) = none := by
  by_contra present
  obtain ⟨hash, indexed⟩ := Option.ne_none_iff_exists'.mp present
  obtain ⟨token, found, same⟩ := invariant.inverse.session _ hash indexed
  obtain ⟨grant, -, backs⟩ := invariant.holds.memory hash token found
  exact fresh grant backs.granted (free.injective (backs.refresh.trans same))

/-- A found session belongs to the grant of its tokens. -/
theorem granted_of_found (invariant : world.Invariant dependencies)
    (found : world.store.manager.sessionTokens.lookup hash = some token) :
    ∃ grant : Grant, 0 ≤ grant.deadline ∧ grant.Backs dependencies world.trace hash token :=
  invariant.holds.memory hash token found

/-! ## Steps -/

/-- Operations that neither grant nor take back: what they accept has a session. -/
theorem next_access (invariant : world.Invariant dependencies) (free : CollisionFree dependencies)
    (inverse : store.manager.Inverse)
    (holds : store.Holds dependencies (Backed dependencies world.trace)) (future : 0 ≤ clock)
    (grantless : entry.granted dependencies (grants dependencies world.trace) = [])
    (kept : ∀ grant : Grant, ¬ entry.Retires dependencies grant)
    (accepted : ∀ presented now, entry.accepted = some (presented, now) →
      ∃ text token, presented = .session text ∧
        world.store.manager.sessionTokens.lookup (dependencies.hash text) = some token ∧
        now ≤ token.refreshExpiresAt) :
    World.Invariant dependencies
      { store := store, clock := clock, trace := entry :: world.trace } := by
  refine invariant.next inverse
    (holds.mono fun _ _ backed => backed_cons backed fun grant _ => kept grant) future ?_ ?_
  · rw [grants, grantless]
    exact invariant.unique
  · refine ⟨fun presented now accepts => ?_, fun grant retires => absurd retires (kept grant)⟩
    obtain ⟨text, token, rfl, found, inTime⟩ := accepted presented now accepts
    obtain ⟨grant, -, backs⟩ := invariant.granted_of_found found
    exact ⟨grant, backs.granted, free.injective backs.session,
      Int.le_trans inTime backs.deadline, backs.kept⟩

/-- Operations that take a session back. -/
theorem next_revoke (invariant : world.Invariant dependencies)
    (inverse : store.manager.Inverse)
    (holds : store.Holds dependencies (Backed dependencies (entry :: world.trace)))
    (future : 0 ≤ clock)
    (grantless : entry.granted dependencies (grants dependencies world.trace) = [])
    (refuses : entry.accepted = none)
    (retired : ∀ grant : Grant, entry.Retires dependencies grant →
      ∃ other ∈ grants dependencies world.trace,
        other.sessionToken = grant.sessionToken ∨ other.refreshToken = grant.refreshToken) :
    World.Invariant dependencies
      { store := store, clock := clock, trace := entry :: world.trace } := by
  refine invariant.next inverse holds future ?_ ⟨fun presented now accepts => ?_, retired⟩
  · rw [grants, grantless]
    exact invariant.unique
  · rw [refuses] at accepts
    cases accepts

/-- Operations that hand out new tokens. -/
theorem next_grant (invariant : world.Invariant dependencies) (grant : Grant)
    (inverse : store.manager.Inverse)
    (holds : store.Holds dependencies (Backed dependencies (entry :: world.trace)))
    (future : 0 ≤ clock)
    (granted : entry.granted dependencies (grants dependencies world.trace) = [grant])
    (fresh : ∀ other ∈ grants dependencies world.trace,
      other.sessionToken ≠ grant.sessionToken ∧ other.refreshToken ≠ grant.refreshToken)
    (justified : entry.Justified dependencies world.trace) :
    World.Invariant dependencies
      { store := store, clock := clock, trace := entry :: world.trace } := by
  refine invariant.next inverse holds future ?_ justified
  rw [grants, granted]
  exact invariant.unique.cons fresh

/-- The session of a new grant. -/
theorem backed_new (invariant : world.Invariant dependencies) (grant : Grant)
    (granted : entry.granted dependencies (grants dependencies world.trace) = [grant])
    (fresh : ∀ other ∈ grants dependencies world.trace,
      other.sessionToken ≠ grant.sessionToken ∧ other.refreshToken ≠ grant.refreshToken)
    (future : 0 ≤ grant.deadline) (kept : ¬ entry.Retires dependencies grant)
    (refresh : token.refreshTokenHash = dependencies.hash grant.refreshToken)
    (deadline : token.refreshExpiresAt ≤ grant.deadline) :
    Backed dependencies (entry :: world.trace) (dependencies.hash grant.sessionToken) token := by
  refine ⟨grant, future, ?_, rfl, refresh.symm, deadline, ?_⟩
  · rw [grants, granted]
    exact List.mem_cons_self
  · intro other member
    rcases List.mem_cons.mp member with rfl | member
    · exact kept
    · exact invariant.fresh_kept fresh other member

end World.Invariant

theorem Login.effectiveRefreshTtl_pos (config : Config) (login : Login) :
    0 < login.effectiveRefreshTtl config := by
  have remembered : 0 < rememberMeTokenTtl config := by
    rw [rememberMeTokenTtl]
    split
    · decide
    · omega
  have standard : 0 < defaultRefreshTokenTtl := by decide
  have chosen : 0 < login.policyRefreshTtl config := by
    rw [policyRefreshTtl]
    split
    · split <;> assumption
    · omega
  rw [effectiveRefreshTtl]
  split
  next less => exact Int.lt_trans chosen less
  next => exact chosen

theorem Login.deadline_nonneg (dependencies : Dependencies) (config : Config) (login : Login)
    {now : Int} (later : 0 ≤ now) :
    0 ≤ login.deadline dependencies config now := by
  have positive := login.effectiveRefreshTtl_pos config
  have ticks := Int.mul_nonneg (Int.le_of_lt positive) (Int.le_of_lt dependencies.ticks_pos)
  rw [Login.deadline, Dependencies.seconds]
  omega

theorem Admissible.clock_le {event : Event} {world : World}
    (admissible : Admissible dependencies event world) :
    world.clock ≤ event.times.getLastD world.clock := by
  have member : event.times.getLastD world.clock ∈ world.clock :: event.times :=
    List.getLastD_mem_cons
  rcases List.mem_cons.mp member with same | member
  · exact Int.le_of_eq same.symm
  · exact List.rel_of_pairwise_cons admissible.times member

namespace World.Invariant

variable {world : World}

theorem issue (invariant : world.Invariant dependencies) (free : CollisionFree dependencies)
    {config : Config} {login : Login} {randoms : Randoms} {now cleanupNow : Int} {written : Bool}
    (admissible :
      Admissible dependencies (.issue config login randoms now cleanupNow written) world) :
    (step dependencies (.issue config login randoms now cleanupNow written) world).Invariant
      dependencies := by
  have fresh := admissible.fresh randoms rfl
  have newHash := invariant.session_missing free fun grant member => (fresh grant member).1
  have newRefresh := invariant.refresh_missing free fun grant member => (fresh grant member).2
  have named := free.nonempty randoms.refreshToken
  have started : world.clock ≤ now := List.rel_of_pairwise_cons admissible.times (.head _)
  have future := login.deadline_nonneg dependencies config
    (Int.le_trans invariant.clock started)
  have grows : ∀ hash token, Backed dependencies world.trace hash token →
      Backed dependencies ((step dependencies (.issue config login randoms now cleanupNow written)
        world).trace) hash token :=
    fun _ _ backed => backed_cons backed fun _ _ => id
  let grant : Grant :=
    ⟨randoms.sessionToken, randoms.refreshToken, login.deadline dependencies config now⟩
  have added : Backed dependencies
      (step dependencies (.issue config login randoms now cleanupNow written) world).trace
      (dependencies.hash randoms.sessionToken)
      (SessionTokenManager.issuedToken dependencies config login randoms now) :=
    invariant.backed_new grant rfl fresh future id rfl (Int.le_refl _)
  exact invariant.next_grant grant
    (TokenStore.inverse_issueSessionTokens invariant.inverse named newHash newRefresh)
    (TokenStore.holds_issueSessionTokens invariant.inverse (invariant.holds.mono grows) named
      newHash newRefresh added)
    (Int.le_trans invariant.clock admissible.clock_le) rfl fresh ⟨nofun, nofun⟩

theorem refresh (invariant : world.Invariant dependencies) (free : CollisionFree dependencies)
    {config : Config} {refreshToken userAgent remoteAddress : Text} {randoms : Randoms}
    {now : Int} {written : Bool}
    (admissible : Admissible dependencies
      (.refresh config refreshToken userAgent remoteAddress randoms now written) world) :
    (step dependencies (.refresh config refreshToken userAgent remoteAddress randoms now written)
      world).Invariant dependencies := by
  have future := Int.le_trans invariant.clock admissible.clock_le
  rcases TokenStore.refreshSessionTokens_cases dependencies config refreshToken userAgent
      remoteAddress randoms now written invariant.inverse with
    ⟨nothing, refused⟩ | ⟨hash, old, found, same, valid, rotated⟩
  · simp only [step, Event.apply, nothing]
    exact invariant.next_access free refused.inverse (refused.holds _ invariant.holds) future rfl
      (fun _ => id) nofun
  · have fresh := admissible.fresh randoms rfl
    have newHash := invariant.session_missing free fun grant member => (fresh grant member).1
    have newRefresh := invariant.refresh_missing free fun grant member => (fresh grant member).2
    have named := free.nonempty randoms.refreshToken
    obtain ⟨previous, previousFuture, backs⟩ := invariant.granted_of_found found
    have presented : previous.refreshToken = refreshToken :=
      free.injective (backs.refresh.trans same)
    let updated := SessionTokenManager.updatedToken dependencies config userAgent remoteAddress
      randoms now old
    let grant : Grant := ⟨randoms.sessionToken, randoms.refreshToken, previous.deadline⟩
    let entry : Entry :=
      ⟨.refresh config refreshToken userAgent remoteAddress randoms now written,
        .bundle (some (world.store.manager.rotate dependencies (dependencies.hash refreshToken)
          hash updated randoms now).2)⟩
    have granted : entry.granted dependencies (grants dependencies world.trace) = [grant] := by
      simp only [entry, Entry.granted]
      rw [invariant.unique.find_refresh backs.granted presented]
      rfl
    have kept : ¬ entry.Retires dependencies grant := fun retires =>
      (fresh previous backs.granted).2 (presented.trans (Eq.symm retires))
    have added : Backed dependencies (entry :: world.trace)
        (dependencies.hash randoms.sessionToken) updated :=
      invariant.backed_new grant granted fresh previousFuture kept rfl backs.deadline
    have stays : ∀ other token, Backed dependencies world.trace other token ∧ other ≠ hash →
        Backed dependencies (entry :: world.trace) other token := by
      rintro other token ⟨backed, different⟩
      refine backed_cons backed fun grant' backs' retires => different ?_
      obtain rfl := invariant.unique.refresh _ backs'.granted _ backs.granted
        (Eq.trans retires presented.symm)
      exact backs'.session.symm.trans backs.session
    simp only [step, Event.apply, rotated]
    refine invariant.next_grant grant
      (TokenStore.inverse_rotate updated now invariant.inverse found same named newHash newRefresh)
      ((TokenStore.holds_rotate updated now invariant.inverse invariant.holds.memory found same
        named newHash newRefresh).mono ?_) future granted fresh ⟨?_, ?_⟩
    · rintro other token (both | ⟨rfl, rfl⟩)
      · exact stays other token both
      · exact added
    · intro _ _ accepts
      cases accepts
      exact ⟨previous, backs.granted, presented, Int.le_trans valid backs.deadline, backs.kept⟩
    · intro grant' retires
      exact ⟨previous, backs.granted, .inr (presented.trans (Eq.symm retires))⟩

theorem revokeByHash (invariant : world.Invariant dependencies)
    (free : CollisionFree dependencies) {tokenHash : Text} {written : Bool} :
    (step dependencies (.revokeByHash tokenHash written) world).Invariant dependencies := by
  have holds := TokenStore.holds_revokeSessionByHash tokenHash written
    invariant.inverse invariant.holds
  simp only [step, Event.apply]
  cases removed : (world.store.revokeSessionByHash dependencies tokenHash written).2 with
  | false =>
      refine invariant.next_revoke (TokenStore.inverse_revokeSessionByHash invariant.inverse)
        (holds.mono fun _ _ both => ?_) invariant.clock rfl rfl nofun
      exact backed_cons both.1 fun _ _ => id
  | true =>
      rw [removed] at holds
      refine invariant.next_revoke (TokenStore.inverse_revokeSessionByHash invariant.inverse)
        (holds.mono fun _ _ both => ?_) invariant.clock rfl rfl fun grant retires => ?_
      · exact backed_cons both.1 fun _ backs retires =>
          both.2 rfl (backs.session.symm.trans retires)
      · obtain ⟨token, found⟩ := TokenStore.revokeSessionByHash_eq_true removed
        obtain ⟨other, -, backs⟩ := invariant.granted_of_found found
        exact ⟨other, backs.granted,
          .inl (free.injective (backs.session.trans (Eq.symm retires)))⟩

theorem revokeRefreshToken (invariant : world.Invariant dependencies)
    (free : CollisionFree dependencies) {refreshToken : Text} {written : Bool} :
    (step dependencies (.revokeRefreshToken refreshToken written) world).Invariant
      dependencies := by
  simp only [step, Event.apply]
  cases removed : (world.store.revokeRefreshToken dependencies refreshToken written).2 with
  | false =>
      refine invariant.next_revoke (TokenStore.inverse_revokeRefreshToken invariant.inverse)
        ((TokenStore.holds_revokeRefreshToken invariant.inverse invariant.holds).mono
          fun _ _ backed => ?_) invariant.clock rfl rfl nofun
      exact backed_cons backed fun _ _ => id
  | true =>
      obtain ⟨hash, token, found, same, revoked⟩ :=
        TokenStore.revokeRefreshToken_eq_true invariant.inverse removed
      obtain ⟨previous, -, backs⟩ := invariant.granted_of_found found
      have presented : previous.refreshToken = refreshToken :=
        free.injective (backs.refresh.trans same)
      have holds := TokenStore.holds_revokeSessionByHash hash written
        invariant.inverse invariant.holds
      rw [revoked] at removed ⊢
      rw [removed] at holds
      refine invariant.next_revoke (TokenStore.inverse_revokeSessionByHash invariant.inverse)
        (holds.mono fun _ _ both => ?_) invariant.clock rfl rfl fun grant retires => ?_
      · refine backed_cons both.1 fun grant' backs' retires => both.2 rfl ?_
        obtain rfl := invariant.unique.refresh _ backs'.granted _ backs.granted
          (Eq.trans retires presented.symm)
        exact backs'.session.symm.trans backs.session
      · exact ⟨previous, backs.granted, .inr (presented.trans (Eq.symm retires))⟩

theorem step (invariant : world.Invariant dependencies) (free : CollisionFree dependencies)
    {event : Event} (admissible : Admissible dependencies event world) :
    (HttpAuth.step dependencies event world).Invariant dependencies := by
  have future := Int.le_trans invariant.clock admissible.clock_le
  cases event with
  | issue config login randoms now cleanupNow written => exact invariant.issue free admissible
  | refresh config refreshToken userAgent remoteAddress randoms now written =>
      exact invariant.refresh free admissible
  | validate token now written =>
      refine invariant.next_access free (TokenStore.inverse_accessSession invariant.inverse)
        (TokenStore.holds_accessSession backed_bounding invariant.inverse invariant.holds) future
        rfl (fun _ => id) fun presented time accepts => ?_
      simp only [Event.apply, TokenStore.validateSessionToken] at accepts
      cases accepted : (world.store.accessSession dependencies token now written).2 with
      | none =>
          rw [accepted] at accepts
          cases accepts
      | some session =>
          rw [accepted] at accepts
          cases accepts
          exact ⟨token, session, rfl, TokenStore.accessSession_eq_some accepted⟩
  | getUsername token now written =>
      refine invariant.next_access free (TokenStore.inverse_accessSession invariant.inverse)
        (TokenStore.holds_accessSession backed_bounding invariant.inverse invariant.holds) future
        rfl (fun _ => id) fun presented time accepts => ?_
      simp only [Event.apply, TokenStore.getUsernameForToken] at accepts
      cases accepted : (world.store.accessSession dependencies token now written).2 with
      | none =>
          rw [accepted] at accepts
          cases accepts
      | some session =>
          rw [accepted] at accepts
          cases accepts
          exact ⟨token, session, rfl, TokenStore.accessSession_eq_some accepted⟩
  | revokeByHash tokenHash written => exact invariant.revokeByHash free
  | revokeRefreshToken refreshToken written => exact invariant.revokeRefreshToken free
  | cleanup now =>
      exact invariant.next_access free (invariant.inverse.cleanupLocked now)
        (TokenStore.holds_cleanupExpiredSessionTokens invariant.holds) future rfl (fun _ => id) nofun
  | load now readable written =>
      have current : readable = true → world.store.saveFailed = false := by
        rintro rfl
        exact admissible.saved now written rfl
      exact invariant.next_access free
        (TokenStore.inverse_loadSessionTokens current invariant.holds)
        (TokenStore.holds_loadSessionTokens backed_bounding current invariant.holds) future rfl
        (fun _ => id) nofun

end World.Invariant

theorem invariant_initial : World.initial.Invariant dependencies where
  inverse := SessionTokenManager.inverse_empty
  holds := ⟨all_empty, nofun⟩
  clock := Int.le_refl 0
  unique := ⟨nofun, nofun⟩
  justified later _ _ split := by
    cases later with
    | nil => cases split
    | cons _ _ => cases split

theorem invariant_run (free : CollisionFree dependencies) {events : List Event}
    (admissible : Transition.Meets (step dependencies) (Admissible dependencies) events
      World.initial) :
    (Transition.run (step dependencies) events World.initial).Invariant dependencies :=
  Transition.run_preserves_of_meets (step dependencies) (World.Invariant dependencies)
    (fun _ _ admissible invariant => invariant.step free admissible) admissible invariant_initial

/-! ## Acceptance -/

def Entry.Accepts (entry : Entry) (grant : Grant) : Prop :=
  ∃ presented now, entry.accepted = some (presented, now) ∧ grant.Holds presented

/-- The store and the answers of a run: the two maps are inverse, a refresh token is
accepted once at most, only granted tokens are accepted, none whose grant was taken back
before, and none behind the refresh deadline of its login. -/
structure World.Secure (dependencies : Dependencies) (world : World) : Prop where
  inverse : world.store.manager.Inverse
  refreshedOnce : world.trace.Pairwise fun later earlier => ∀ refreshToken now now',
    earlier.accepted = some (.refresh refreshToken, now) →
      later.accepted ≠ some (.refresh refreshToken, now')
  granted : ∀ entry ∈ world.trace, ∀ presented now, entry.accepted = some (presented, now) →
    ∃ grant ∈ grants dependencies world.trace, grant.Holds presented
  retired : world.trace.Pairwise fun later earlier =>
    ∀ grant ∈ grants dependencies world.trace, earlier.Retires dependencies grant →
      ¬ later.Accepts grant
  deadline : ∀ entry ∈ world.trace, ∀ presented now, entry.accepted = some (presented, now) →
    ∀ grant ∈ grants dependencies world.trace, grant.Holds presented → now ≤ grant.deadline

theorem Entry.retires_of_accepted (entry : Entry) {refreshToken : Text} {now : Int} {grant : Grant}
    (accepts : entry.accepted = some (.refresh refreshToken, now))
    (holds : grant.Holds (.refresh refreshToken)) : entry.Retires dependencies grant := by
  unfold Entry.accepted at accepts
  split at accepts
  · cases accepts
    exact holds
  · cases accepts
  · cases accepts
  · cases accepts

theorem pairwise_of_splits {relation : Entry → Entry → Prop}
    (related : ∀ later entry earlier, trace = later ++ entry :: earlier →
      ∀ other ∈ earlier, relation entry other) : trace.Pairwise relation := by
  induction trace with
  | nil => exact List.Pairwise.nil
  | cons entry rest ih =>
      refine List.Pairwise.cons (related [] entry rest rfl) (ih fun later current earlier split => ?_)
      exact related (entry :: later) current earlier (congrArg (entry :: ·) split)

namespace World.Invariant

variable {world : World}

theorem accepted_of_split (invariant : world.Invariant dependencies) {later earlier : List Entry}
    (split : world.trace = later ++ entry :: earlier) {presented : Presented} {now : Int}
    (accepts : entry.accepted = some (presented, now)) {grant : Grant}
    (member : grant ∈ grants dependencies world.trace) (holds : grant.Holds presented) :
    now ≤ grant.deadline ∧ ∀ other ∈ earlier, ¬ other.Retires dependencies grant := by
  obtain ⟨known, granted, holds', inTime, kept⟩ :=
    (invariant.justified later entry earlier split).accepted presented now accepts
  have member' : known ∈ grants dependencies world.trace := by
    rw [split]
    exact grants_subset_append _ (grants_subset_cons granted)
  obtain rfl := invariant.unique.holds_eq member' member holds' holds
  exact ⟨inTime, kept⟩

theorem granted (invariant : world.Invariant dependencies) (member : entry ∈ world.trace)
    {presented : Presented} {now : Int} (accepts : entry.accepted = some (presented, now)) :
    ∃ grant ∈ grants dependencies world.trace, grant.Holds presented := by
  obtain ⟨later, earlier, split⟩ := List.append_of_mem member
  obtain ⟨grant, granted, holds, -⟩ :=
    (invariant.justified later entry earlier split).accepted presented now accepts
  refine ⟨grant, ?_, holds⟩
  rw [split]
  exact grants_subset_append _ (grants_subset_cons granted)

theorem retired (invariant : world.Invariant dependencies) :
    world.trace.Pairwise fun later earlier =>
      ∀ grant ∈ grants dependencies world.trace, earlier.Retires dependencies grant →
        ¬ later.Accepts grant := by
  refine pairwise_of_splits fun later entry earlier split other member grant known retires => ?_
  rintro ⟨presented, now, accepts, holds⟩
  exact (invariant.accepted_of_split split accepts known holds).2 other member retires

/-- An accepted refresh token retires its own grant. -/
theorem refreshedOnce (invariant : world.Invariant dependencies) :
    world.trace.Pairwise fun later earlier => ∀ refreshToken now now',
      earlier.accepted = some (.refresh refreshToken, now) →
        later.accepted ≠ some (.refresh refreshToken, now') := by
  refine pairwise_of_splits fun later entry earlier split other member refreshToken now now'
    before again => ?_
  have placed : other ∈ world.trace := by
    rw [split]
    exact List.mem_append_right _ (List.mem_cons_of_mem _ member)
  obtain ⟨grant, known, holds⟩ := invariant.granted placed before
  refine (invariant.accepted_of_split split again known holds).2 other member ?_
  exact other.retires_of_accepted before holds

theorem secure (invariant : world.Invariant dependencies) : world.Secure dependencies where
  inverse := invariant.inverse
  refreshedOnce := invariant.refreshedOnce
  granted _ member _ _ accepts := invariant.granted member accepts
  retired := invariant.retired
  deadline _ member _ _ accepts _ known holds := by
    obtain ⟨later, earlier, split⟩ := List.append_of_mem member
    exact (invariant.accepted_of_split split accepts known holds).1

end World.Invariant

/-- In every run at non-decreasing times, with new tokens and a collision-free hash, in
which a file that is loaded is the one that the last save wrote. -/
theorem run_secure (free : CollisionFree dependencies) (events : List Event)
    (admissible : Transition.Meets (step dependencies) (Admissible dependencies) events
      World.initial) :
    (Transition.run (step dependencies) events World.initial).Secure dependencies :=
  (invariant_run free admissible).secure

/-- A hash that shows its text. -/
def plainDependencies : Dependencies where
  hash text := '#' :: text
  ticksPerSecond := 10
  ticks_pos := by decide

/-- A login, a restart, a refresh and a logout with the new refresh token. -/
def rotatedLogin : List Event :=
  [.issue ⟨7200, 0⟩ ⟨['u'], 0, 0, [], [], true⟩ ⟨['a'], ['b'], ['c']⟩ 15 16 true,
    .load 20 true true,
    .refresh ⟨7200, 0⟩ ['b'] [] [] ⟨['d'], ['e'], ['f']⟩ 30 true,
    .validate ['d'] 40 true,
    .revokeRefreshToken ['e'] true]

theorem run_secure_rotatedLogin :
    (Transition.run (step plainDependencies) rotatedLogin World.initial).Secure
      plainDependencies := by
  refine run_secure
    ⟨fun _ _ same => (List.cons_eq_cons.mp same).2, fun _ => List.cons_ne_nil _ _⟩ rotatedLogin
    ⟨?_, ?_, ?_, ?_, ?_, trivial⟩
  · exact ⟨by decide, fun _ drawn => (by cases drawn; decide), nofun⟩
  · exact ⟨by decide, nofun, fun _ _ _ => rfl⟩
  · exact ⟨by decide, fun _ drawn => (by cases drawn; decide), nofun⟩
  · exact ⟨by decide, nofun, nofun⟩
  · exact ⟨by decide, nofun, nofun⟩

end UmbraHost.HttpAuth
