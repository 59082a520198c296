import Mathlib.Data.List.Pairwise
import UmbraHost.Playnite.SecondRun

/-! # When a synchronization settles

Entries are given their identifiers, cleared of duplicates, matched, purged and added to in a
fixed order, each stage once; a second run of `autosync_reconcile` finds what the later stages of
the first left to the earlier ones. -/

namespace UmbraHost.Playnite

open UmbraHost.Json

/-- The second run draws its identifiers anew. -/
def Settles (manageMembership : Bool) (sync : Sync) : Prop :=
  ∀ again : List App,
    again.map App.fields = (autosyncReconcile manageMembership sync).apps.map App.fields →
      (autosyncReconcile manageMembership { sync with apps := again }).apps.map App.identity =
        (autosyncReconcile manageMembership sync).apps.map App.identity

structure Sync.Steady (sync : Sync) : Prop where
  /-- Age does not take the last entry of a selected game. -/
  survives : ∀ game ∈ sync.selected, ∀ app ∈ sync.deduped, sync.Belongs app game →
    ∃ other ∈ sync.deduped, sync.Holds other game
  /-- Age leaves one entry at most to a selected game. -/
  alone : sync.deduped.Pairwise fun first second =>
    ∀ game ∈ sync.selected, sync.Holds first game → ¬ sync.Holds second game
  /-- The entry has the `uuid` of its game. -/
  uuid : ∀ game ∈ sync.selected, ∀ app ∈ sync.deduped, sync.Holds app game →
    app.find? "uuid" = some (.str (canonicalPlayniteAppUuid game.id))
  /-- The identifier that the entry is given is that of the last game in the library. -/
  spelled : ∀ game ∈ sync.selected,
    (∀ app ∈ sync.deduped, sync.Holds app game → playniteIdKey app.playniteId ≠ game.key) →
      ∀ last, lastNamed? sync.games game.key = some last → last.id = game.id
  /-- No game that counts as uninstalled is selected. -/
  installed : sync.config.removeUninstalled = true →
    ∀ game ∈ sync.selected, game.key ∉ sync.uninstalledLower

variable {sync : Sync} {app old first second : App} {game other last : Game}

/-! ## Duplicates of the second run -/

/-- A refreshed entry with the key of a library game is one that found such a game. -/
theorem Sync.match?_of_refreshed (lawful : sync.env.Lawful)
    (isLast : lastNamed? sync.games (playniteIdKey (sync.refresh app).playniteId) = some last) :
    ∃ found, sync.match? app = some found ∧ found.key = last.key := by
  cases found : sync.match? app with
  | none =>
      rw [refresh_of_none found, playniteId_ensureAppUuid] at isLast
      cases found.symm.trans (Sync.match?_of_last lawful isLast)
  | some game =>
      rw [playniteId_of_some found] at isLast
      exact ⟨game, rfl, (lastNamed?_some isLast).2.2.symm⟩

theorem Sync.unmatched_of_refreshed (lawful : sync.env.Lawful)
    (missing : lastNamed? sync.games (playniteIdKey (sync.refresh app).playniteId) = none) :
    sync.match? app = none := by
  cases found : sync.match? app with
  | none => rfl
  | some game =>
      obtain ⟨member, named, -⟩ := Sync.mem_of_match? lawful found
      obtain ⟨last, here⟩ := exists_lastNamed? member named
      rw [playniteId_of_some found] at missing
      cases missing.symm.trans here

theorem Sync.young_holds (young : sync.Young (sync.refresh app)) (auto : (sync.refresh app).isAuto)
    (found : sync.match? app = some other) (named : other.id ≠ "") (same : other.key = game.key) :
    sync.Holds app game := by
  refine ⟨⟨other, found, same⟩, ?_⟩
  rw [Sync.Expired, young auto (by rw [playniteId_of_some found]; exact named)]
  exact Bool.false_ne_true

/-- An entry of a game that is not selected was managed before. -/
theorem Sync.own_of_unselected (lawful : sync.env.Lawful) (found : sync.match? app = some game)
    (unselected : ∀ other ∈ sync.selected, other.key ≠ game.key)
    (auto : (sync.refresh app).isAuto = true) :
    app.isAuto = true ∧ playniteIdKey app.playniteId = game.key := by
  obtain ⟨-, named, byId | ⟨-, selected⟩⟩ := Sync.mem_of_match? lawful found
  · refine ⟨?_, byId.1⟩
    rw [(refresh_of_some found).2, Bool.or_eq_true] at auto
    refine auto.resolve_left fun flagged => ?_
    have carries : game.key ≠ "" := playniteIdKey_eq_empty.not.mpr named
    obtain ⟨other, selected, same⟩ := (isSome_flags lawful carries).mp flagged
    exact unselected other selected same
  · exact absurd rfl (unselected game selected)

theorem Sync.apart_refresh (lawful : sync.env.Lawful) (apart : Apart first second)
    (alone : ∀ game ∈ sync.selected, sync.Holds first game → ¬ sync.Holds second game)
    (young : sync.Young (sync.refresh first)) (otherYoung : sync.Young (sync.refresh second)) :
    Apart (sync.refresh first) (sync.refresh second) := by
  intro auto otherAuto named sameKey
  cases isLast : lastNamed? sync.games (playniteIdKey (sync.refresh first).playniteId) with
  | some last =>
      obtain ⟨game, found, key⟩ := Sync.match?_of_refreshed lawful isLast
      obtain ⟨other, otherFound, otherKey⟩ := Sync.match?_of_refreshed lawful (sameKey ▸ isLast)
      have equal : other.key = game.key := otherKey.trans key.symm
      obtain ⟨-, carries, -⟩ := Sync.mem_of_match? lawful found
      obtain ⟨-, otherCarries, -⟩ := Sync.mem_of_match? lawful otherFound
      by_cases selected : ∃ chosen ∈ sync.selected, chosen.key = game.key
      · obtain ⟨chosen, selected, same⟩ := selected
        exact alone chosen selected
          (Sync.young_holds young auto found carries same.symm)
          (Sync.young_holds otherYoung otherAuto otherFound otherCarries (equal.trans same.symm))
      · have unselected : ∀ chosen ∈ sync.selected, chosen.key ≠ game.key :=
          fun chosen member same => selected ⟨chosen, member, same⟩
        obtain ⟨own, ownKey⟩ := Sync.own_of_unselected lawful found unselected auto
        obtain ⟨otherOwn, otherOwnKey⟩ := Sync.own_of_unselected lawful otherFound
          (fun chosen member same => unselected chosen member (same.trans equal)) otherAuto
        exact apart own otherOwn (named_of_same_key ownKey carries)
          (ownKey.trans (equal.symm.trans otherOwnKey.symm))
  | none =>
      have unmatched := Sync.unmatched_of_refreshed lawful isLast
      have otherUnmatched := Sync.unmatched_of_refreshed lawful (sameKey ▸ isLast)
      rw [refresh_of_none unmatched, isAuto_ensureAppUuid] at auto
      rw [refresh_of_none otherUnmatched, isAuto_ensureAppUuid] at otherAuto
      rw [refresh_of_none unmatched, refresh_of_none otherUnmatched, playniteId_ensureAppUuid,
        playniteId_ensureAppUuid] at sameKey
      rw [refresh_of_none unmatched, playniteId_ensureAppUuid] at named
      exact apart auto otherAuto named sameKey

/-- No entry that was there has the identifier of a new one. -/
theorem Sync.key_ne_of_new (lawful : sync.env.Lawful) (member : app ∈ sync.deduped)
    (selected : game ∈ sync.selected) (unmatched : game.key ∉ sync.matchedIds) :
    playniteIdKey (sync.refresh app).playniteId ≠ game.key := by
  intro same
  obtain ⟨last, isLast⟩ := Sync.exists_last lawful selected
  obtain ⟨found, matched, key⟩ := Sync.match?_of_refreshed lawful (same ▸ isLast)
  have belongs : sync.Belongs app game := ⟨found, matched, key.trans (lastNamed?_some isLast).2.2⟩
  exact unmatched (belongs.mem_matchedIds member)

theorem Sync.apart_result (lawful : sync.env.Lawful)
    (alone : sync.deduped.Pairwise fun first second =>
      ∀ game ∈ sync.selected, sync.Holds first game → ¬ sync.Holds second game) :
    (autosyncReconcile true sync).apps.Pairwise Apart := by
  have refreshed : (sync.deduped.map sync.refresh).Pairwise fun first second =>
      sync.Young first → sync.Young second → Apart first second :=
    List.pairwise_map.mpr <| (List.Pairwise.and (pairwise_dedupe [] _) alone).imp fun both =>
      Sync.apart_refresh lawful both.1 both.2
  have kept : sync.kept.Pairwise Apart :=
    (refreshed.sublist sublist_of_kept).imp_of_mem fun member otherMember apart =>
      apart (young_of_mem_kept member) (young_of_mem_kept otherMember)
  have added : sync.added.Pairwise Apart := by
    have keys : (sync.selected.map Game.key).Nodup := nodup_selectedGames lawful
    refine List.pairwise_map.mpr (List.Pairwise.filter _ ?_)
    refine (List.pairwise_map.mp keys).imp fun different _ _ _ => ?_
    rw [playniteId_of_text? playniteId_newApp, playniteId_of_text? playniteId_newApp]
    exact different
  refine List.pairwise_append.mpr ⟨kept, added, ?_⟩
  intro app member new isNew _ _ _
  obtain ⟨game, selected, unmatched, rfl⟩ := mem_added isNew
  obtain ⟨old, listed, rfl⟩ := List.mem_map.mp (sublist_of_kept.subset member)
  rw [playniteId_of_text? playniteId_newApp]
  exact Sync.key_ne_of_new lawful listed selected unmatched

/-! ## Two runs -/

variable {again : List App}

theorem exists_of_map_fields {apps : List App} (same : again.map App.fields = apps.map App.fields)
    (member : app ∈ again) : ∃ old ∈ apps, app.fields = old.fields := by
  have listed : app.fields ∈ apps.map App.fields := same ▸ List.mem_map_of_mem member
  obtain ⟨old, here, equal⟩ := List.mem_map.mp listed
  exact ⟨old, here, equal.symm⟩

/-- An entry of the second run comes from a kept one, or is new. -/
theorem Sync.mem_again
    (same : again.map App.fields = (autosyncReconcile true sync).apps.map App.fields)
    (member : app ∈ again) :
    (∃ old ∈ sync.deduped, sync.refresh old ∈ sync.kept ∧
        app.fields = (sync.refresh old).fields) ∨
      ∃ game ∈ sync.selected, game.key ∉ sync.matchedIds ∧
        app.fields = (sync.newApp game).fields := by
  obtain ⟨result, listed, fields⟩ := exists_of_map_fields same member
  rcases List.mem_append.mp listed with kept | added
  · obtain ⟨old, here, rfl⟩ := List.mem_map.mp (sublist_of_kept.subset kept)
    exact .inl ⟨old, here, kept, fields⟩
  · obtain ⟨game, selected, unmatched, rfl⟩ := mem_added added
    exact .inr ⟨game, selected, unmatched, fields⟩

theorem Sync.again_of_kept
    (same : again.map App.fields = (autosyncReconcile true sync).apps.map App.fields)
    (kept : sync.refresh old ∈ sync.kept) : ∃ app ∈ again, app.fields = (sync.refresh old).fields :=
  have ⟨app, member, fields⟩ :=
    exists_of_map_fields same.symm (List.mem_append_left sync.added kept)
  ⟨app, member, fields.symm⟩

theorem Sync.again_of_new
    (same : again.map App.fields = (autosyncReconcile true sync).apps.map App.fields)
    (selected : game ∈ sync.selected) (unmatched : game.key ∉ sync.matchedIds) :
    ∃ app ∈ again, app.fields = (sync.newApp game).fields := by
  have added : sync.newApp game ∈ sync.added :=
    List.mem_map_of_mem (List.mem_filter.mpr ⟨selected, by simpa using unmatched⟩)
  obtain ⟨app, member, fields⟩ :=
    exists_of_map_fields same.symm (List.mem_append_right sync.kept added)
  exact ⟨app, member, fields.symm⟩

theorem pairwise_apart_of_fields {apps : List App}
    (same : again.map App.fields = apps.map App.fields) :
    again.Pairwise Apart ↔ apps.Pairwise Apart := by
  have fields (list : List App) : list.Pairwise Apart ↔
      (list.map App.fields).Pairwise fun first second => Apart ⟨first, ""⟩ ⟨second, ""⟩ :=
    (List.pairwise_map (f := App.fields)
      (R := fun first second => Apart ⟨first, ""⟩ ⟨second, ""⟩)).symm
  rw [fields, fields, same]

namespace Sync.Steady

theorem present (steady : sync.Steady) (selected : game ∈ sync.selected) :
    ¬ sync.Withdrawn game := fun ⟨removes, gone⟩ => steady.installed removes game selected gone

/-- What is left of the entries of a selected game keeps its identity. -/
theorem alike (steady : sync.Steady) (sound : sync.Sound)
    (same : again.map App.fields = (autosyncReconcile true sync).apps.map App.fields)
    (member : app ∈ again) : (sync.refreshed app).identity = app.identity := by
  rcases Sync.mem_again same member with
    ⟨old, listed, kept, fields⟩ | ⟨game, selected, unmatched, fields⟩
  · cases found : sync.match? old with
    | none => rw [(sound.again_of_unmatched listed found fields).2]
    | some game =>
        obtain ⟨inLibrary, named, origin⟩ := Sync.mem_of_match? sound.env found
        obtain ⟨last, isLast⟩ := exists_lastNamed? inLibrary named
        refine (sound.alike_of_matched listed found isLast fields).mpr ?_
        rcases origin with ⟨key, byId⟩ | ⟨missing, selected⟩
        · cases isLast.symm.trans byId
          exact ⟨uuid_of_key (sound.uuidDue_deduped listed) named key, rfl⟩
        · have belongs : sync.Belongs old game := ⟨game, found, rfl⟩
          have holds := (belongs.mem_kept_iff sound.env selected listed
            (steady.present selected)).mp kept
          refine ⟨steady.uuid game selected old listed holds, ?_⟩
          refine steady.spelled game selected ?_ last isLast
          intro other otherListed otherHolds key
          rcases eq_or_ne other old with rfl | different
          · rw [key, isLast] at missing
            cases missing
          · have : Std.Symm fun first second : App =>
                ∀ game ∈ sync.selected, sync.Holds first game → ¬ sync.Holds second game :=
              ⟨fun _ _ apart game member holds otherHolds => apart game member otherHolds holds⟩
            exact steady.alone.forall otherListed listed different game selected otherHolds holds
  · obtain ⟨last, isLast⟩ := Sync.exists_last sound.env selected
    refine (sound.alike_of_new selected isLast fields).mpr ?_
    refine steady.spelled game selected (fun other listed holds _ => ?_) last isLast
    exact unmatched (holds.1.mem_matchedIds listed)

theorem unmoved (steady : sync.Steady) (sound : sync.Sound)
    (same : again.map App.fields = (autosyncReconcile true sync).apps.map App.fields) :
    ({ sync with apps := again } : Sync).Unmoved where
  apart := (pairwise_apart_of_fields same).mpr (Sync.apart_result sound.env steady.alone)
  alike := fun _ member => steady.alike sound same member
  kept := by
    intro app member
    change fate sync.env sync.config sync.grounds 0 (sync.refreshed app) = .kept
    rw [fate_of_identity (steady.alike sound same member)]
    rcases Sync.mem_again same member with ⟨old, _, kept, fields⟩ | ⟨game, selected, _, fields⟩
    · obtain ⟨repl, isKept⟩ := fate_of_mem_kept kept
      rw [fate_of_identity (App.identity_of_fields fields)]
      exact fate_zero isKept
    · rw [fate_of_identity (App.identity_of_fields fields)]
      refine (Sync.fate_of_selected selected isAuto_newApp
        (Sync.key_ne_of_selected sound.env selected) ?_).mpr
          ⟨steady.present selected, sound.young_newApp⟩
      rw [playniteId_of_text? playniteId_newApp, Game.key]
  complete := by
    intro game selected
    change ∃ app ∈ again, sync.Belongs app game
    by_cases matched : game.key ∈ sync.matchedIds
    · obtain ⟨app, listed, belongs⟩ := Sync.exists_of_matchedIds matched
      obtain ⟨old, oldListed, holds⟩ := steady.survives game selected app listed belongs
      have kept := (holds.1.mem_kept_iff sound.env selected oldListed
        (steady.present selected)).mpr holds
      obtain ⟨app, member, fields⟩ := Sync.again_of_kept same kept
      exact ⟨app, member, (sound.belongs_iff oldListed fields).mpr holds.1⟩
    · obtain ⟨app, member, fields⟩ := Sync.again_of_new same selected matched
      exact ⟨app, member, (Sync.belongs_of_new sound.env selected fields).mpr rfl⟩

end Sync.Steady

namespace Sync.Unmoved

theorem apart_kept
    (unmoved : ({ sync with apps := again } : Sync).Unmoved)
    (same : again.map App.fields = (autosyncReconcile true sync).apps.map App.fields) :
    sync.kept.Pairwise Apart :=
  ((pairwise_apart_of_fields same).mp unmoved.apart).sublist (List.sublist_append_left _ _)

theorem present (unmoved : ({ sync with apps := again } : Sync).Unmoved)
    (lawful : sync.env.Lawful) (selected : game ∈ sync.selected) : ¬ sync.Withdrawn game := by
  obtain ⟨app, member, belongs⟩ := unmoved.complete game selected
  have ensured : sync.Belongs (ensureAppUuid app) game := Sync.belongs_ensureAppUuid.mpr belongs
  exact ((ensured.fate_iff lawful selected).mp (unmoved.kept app member)).1

theorem survives (unmoved : ({ sync with apps := again } : Sync).Unmoved) (sound : sync.Sound)
    (same : again.map App.fields = (autosyncReconcile true sync).apps.map App.fields)
    (selected : game ∈ sync.selected) (matched : game.key ∈ sync.matchedIds) :
    ∃ old ∈ sync.deduped, sync.Holds old game := by
  obtain ⟨app, member, belongs⟩ := unmoved.complete game selected
  rcases Sync.mem_again same member with
    ⟨old, listed, kept, fields⟩ | ⟨other, isSelected, new, fields⟩
  · have before : sync.Belongs old game := (sound.belongs_iff listed fields).mp belongs
    exact ⟨old, listed, (before.mem_kept_iff sound.env selected listed
      (unmoved.present sound.env selected)).mp kept⟩
  · have key := (Sync.belongs_of_new sound.env isSelected fields).mp belongs
    exact absurd (key ▸ matched) new

theorem alone (unmoved : ({ sync with apps := again } : Sync).Unmoved) (sound : sync.Sound)
    (same : again.map App.fields = (autosyncReconcile true sync).apps.map App.fields) :
    sync.deduped.Pairwise fun first second =>
      ∀ game ∈ sync.selected, sync.Holds first game → ¬ sync.Holds second game := by
  classical
  have listed : List.Sublist ((sync.deduped.filter fun app => sync.Stays app).map sync.refresh)
      sync.kept :=
    sublist_kept _ fun app _ stays => of_decide_eq_true stays
  have staying := List.pairwise_filter.mp
    (List.pairwise_map.mp ((unmoved.apart_kept same).sublist listed))
  refine staying.imp fun apart game selected holds otherHolds => ?_
  have present := unmoved.present sound.env selected
  have stays := holds.stays sound.env selected present
  have otherStays := otherHolds.stays sound.env selected present
  exact apart (decide_eq_true stays) (decide_eq_true otherStays)
    (holds.1.auto sound.env selected) (otherHolds.1.auto sound.env selected)
    (holds.1.named sound.env selected) (holds.1.sameKey.trans otherHolds.1.sameKey.symm)

/-- The entry of a selected game keeps its identity when it is refreshed again. -/
theorem refreshed (unmoved : ({ sync with apps := again } : Sync).Unmoved) (sound : sync.Sound)
    (same : again.map App.fields = (autosyncReconcile true sync).apps.map App.fields)
    (selected : game ∈ sync.selected) (listed : old ∈ sync.deduped) (holds : sync.Holds old game)
    (found : sync.match? old = some other) (isLast : lastNamed? sync.games other.key = some last) :
    old.find? "uuid" = some (.str (canonicalPlayniteAppUuid other.id)) ∧ last.id = other.id := by
  have kept := Sync.refresh_mem_kept listed
    (holds.stays sound.env selected (unmoved.present sound.env selected))
  obtain ⟨app, member, fields⟩ := Sync.again_of_kept same kept
  exact (sound.alike_of_matched listed found isLast fields).mp (unmoved.alike app member)

theorem steady (unmoved : ({ sync with apps := again } : Sync).Unmoved) (sound : sync.Sound)
    (same : again.map App.fields = (autosyncReconcile true sync).apps.map App.fields) :
    sync.Steady where
  survives := fun game selected app listed belongs =>
    unmoved.survives sound same selected (belongs.mem_matchedIds listed)
  alone := unmoved.alone sound same
  uuid := by
    intro game selected old listed holds
    obtain ⟨other, found, key⟩ := holds.1
    obtain ⟨member, named, -⟩ := Sync.mem_of_match? sound.env found
    obtain ⟨last, isLast⟩ := exists_lastNamed? member named
    rw [(unmoved.refreshed sound same selected listed holds found isLast).1,
      canonical_of_same_key key]
  spelled := by
    intro game selected otherwise last isLast
    by_cases matched : game.key ∈ sync.matchedIds
    · obtain ⟨old, listed, holds⟩ := unmoved.survives sound same selected matched
      obtain ⟨other, found, key⟩ := holds.1
      obtain ⟨-, -, ⟨byId, -⟩ | ⟨-, isSelected⟩⟩ := Sync.mem_of_match? sound.env found
      · exact absurd (byId.trans key) (otherwise old listed holds)
      · obtain rfl : other = game :=
          List.inj_on_of_nodup_map (nodup_selectedGames sound.env) isSelected selected key
        exact (unmoved.refreshed sound same selected listed holds found isLast).2
    · obtain ⟨app, member, fields⟩ := Sync.again_of_new same selected matched
      exact (sound.alike_of_new selected isLast fields).mp (unmoved.alike app member)
  installed := fun removes game selected gone =>
    unmoved.present sound.env selected ⟨removes, gone⟩

end Sync.Unmoved

theorem identity_of_map_fields {apps : List App}
    (same : again.map App.fields = apps.map App.fields) :
    again.map App.identity = apps.map App.identity := by
  have fields (list : List App) : list.map App.identity =
      (list.map App.fields).map fun fields => (App.mk fields "").identity := by
    rw [List.map_map]
    rfl
  rw [fields, fields, same]

/-- A synchronization of the members alone settles at once. -/
theorem settles_unmanaged (sound : sync.Sound) : Settles false sync := by
  intro again same
  rw [← identity_of_map_fields same]
  have finds : (indexIds sync.games {}).Finds [] sync.games :=
    finds_indexIds (List.nil_subset _)
  change ((again.map ensureAppUuid).map
    (refreshApp sync.env (indexIds sync.games {}) [])).map App.identity = _
  rw [List.map_map, List.map_map]
  refine List.map_congr_left fun app member => ?_
  obtain ⟨result, listed, fields⟩ := exists_of_map_fields same member
  obtain ⟨old, ensured, rfl⟩ := List.mem_map.mp listed
  obtain ⟨before, present, rfl⟩ := List.mem_map.mp ensured
  exact again_of_byId finds (uuidDue_ensureAppUuid (sound.drawn before present)) fields

/-- A second run leaves the list as it is exactly when the first could leave it steady. -/
theorem settles_iff (manageMembership : Bool) (sync : Sync) (sound : sync.Sound) :
    Settles manageMembership sync ↔ (manageMembership = true → sync.Steady) := by
  cases manageMembership with
  | false => exact iff_of_true (settles_unmanaged sound) nofun
  | true =>
      constructor
      · intro settles _
        let next : Sync := { sync with apps := (autosyncReconcile true sync).apps }
        have unmoved := (Sync.unmoved_iff next sound.env).mp (settles next.apps rfl)
        exact unmoved.steady sound rfl
      · intro steady again same
        rw [← identity_of_map_fields same]
        exact (Sync.unmoved_iff { sync with apps := again } sound.env).mpr
          ((steady rfl).unmoved sound same)

/-- `oneGame` at the beginning of the epoch. -/
def oneGameDated (apps : List App) : Sync :=
  { oneGame apps with env := { (oneGame apps).env with mkgmtime := fun _ => some 0 } }

theorem settles_no_entries : Settles true (oneGameDated []) := by
  have sound : (oneGameDated []).Sound :=
    { env := ⟨(lawful_oneGame []).env.sortRecent, (lawful_oneGame []).env.hashOrder⟩
      clock := by
        intro game time read
        have epoch : parseIso8601Utc (fun _ => some 0) "1970-01-01T00:00:00Z" = some 0 := by
          decide +kernel
        cases epoch.symm.trans read
        exact Int.le_refl 0
      drawn := nofun }
  refine (settles_iff true (oneGameDated []) sound).mpr fun _ => ?_
  refine ⟨nofun, List.Pairwise.nil, nofun, ?_, nofun⟩
  intro game selected _ last isLast
  have library : ∀ other ∈ (oneGameDated []).games, other.id = "abc" := by decide
  rw [library last (lastNamed?_some isLast).1,
    library game (Sync.selected_subset sound.env selected)]

/-- An entry of the user's with the name of the game. -/
theorem uuid_changes_on_second_run : ¬ Settles true (oneGameDated
    [⟨[("name", .str "portal"), ("uuid", .str "0")], "1"⟩]) := by
  intro settles
  have uuids := congrArg
    (List.map fun identity => identity.head?.join.bind fun uuid => uuid.getText.toOption)
    (settles _ rfl)
  exact absurd uuids (by decide +kernel)

end UmbraHost.Playnite
