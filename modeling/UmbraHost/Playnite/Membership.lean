import UmbraHost.Playnite.Autosync

/-! # When automatic membership is right

The stages disagree where an entry is matched to a game after the duplicates are gone, or is
taken for a managed one before the purge. -/

namespace UmbraHost.Playnite

open UmbraHost.Json

variable {sync : Sync} {app first second : App} {game other : Game}

/-! ## Matches -/

theorem Sync.Lawful.match?_mem (lawful : sync.Lawful) (found : sync.match? app = some game) :
    game ∈ sync.games ∧
      (game ∈ sync.selected ∨ playniteIdKey app.playniteId = game.key) := by
  rcases mem_of_match lawful.within found with ⟨member, same⟩ | selected
  · rw [playniteId_ensureAppUuid] at same
    exact ⟨member, .inr same⟩
  · exact ⟨(lawful.selected_installed selected).1, .inl selected⟩

/-- An entry with the identifier of a game finds that game. -/
theorem Sync.Lawful.match?_of_key (lawful : sync.Lawful) (member : game ∈ sync.games)
    (same : playniteIdKey app.playniteId = game.key) : sync.match? app = some game := by
  have named := lawful.named game member
  refine match_of_playniteId lawful.distinct named member ?_ ?_
  · rw [playniteId_ensureAppUuid]
    exact named_of_same_key same named
  · rw [playniteId_ensureAppUuid]
    exact same

theorem Sync.Lawful.claims_auto (lawful : sync.Lawful) (claims : sync.Claims app game) :
    (sync.refresh app).isAuto = true := by
  have member := (lawful.selected_installed claims.2).1
  rw [(refresh_of_some claims.1).2, (lawful.flags_iff member).mpr claims.2, Bool.true_or]

/-- A refreshed entry with the key of a game is one that found the game. -/
theorem Sync.Lawful.match?_of_refreshed (lawful : sync.Lawful) (member : game ∈ sync.games)
    (same : playniteIdKey (sync.refresh app).playniteId = game.key) :
    sync.match? app = some game := by
  cases found : sync.match? app with
  | none =>
      rw [refresh_of_none found, playniteId_ensureAppUuid] at same
      exact found.symm.trans (lawful.match?_of_key member same)
  | some other =>
      rw [playniteId_of_some found] at same
      rw [lawful.game_eq (lawful.match?_mem found).1 member same]

/-- An entry that became managed by being refreshed is that of a selected game. -/
theorem Sync.Lawful.auto_of_refreshed (lawful : sync.Lawful)
    (auto : (sync.refresh app).isAuto = true) :
    app.isAuto = true ∨ ∃ game, sync.Claims app game := by
  cases found : sync.match? app with
  | none =>
      rw [refresh_of_none found, isAuto_ensureAppUuid] at auto
      exact .inl auto
  | some game =>
      rw [(refresh_of_some found).2, Bool.or_eq_true] at auto
      rcases auto with flagged | auto
      · exact .inr ⟨game, found, (lawful.flags_iff (lawful.match?_mem found).1).mp flagged⟩
      · exact .inl auto

theorem Sync.Lawful.key_not_uninstalled (lawful : sync.Lawful) (selected : game ∈ sync.selected) :
    game.key ∉ sync.grounds.uninstalled := by
  intro listed
  obtain ⟨gone, member, same⟩ := List.mem_map.mp listed
  obtain ⟨member, absent⟩ := List.mem_filter.mp member
  have installed := lawful.selected_installed selected
  cases lawful.game_eq member installed.1 same
  simp [installed.2] at absent

theorem mem_matchedIds (member : app ∈ sync.deduped) (found : sync.match? app = some game) :
    game.key ∈ sync.matchedIds :=
  List.mem_map.mpr ⟨game, List.mem_filterMap.mpr ⟨app, member, found⟩, rfl⟩

theorem Sync.Lawful.match?_of_matchedIds (lawful : sync.Lawful) (member : game ∈ sync.games)
    (matched : game.key ∈ sync.matchedIds) : ∃ app ∈ sync.deduped, sync.match? app = some game := by
  obtain ⟨other, listed, same⟩ := List.mem_map.mp matched
  obtain ⟨app, kept, found⟩ := List.mem_filterMap.mp listed
  cases lawful.game_eq (lawful.match?_mem found).1 member same
  exact ⟨app, kept, found⟩

/-! ## Fates -/

/-- No number of replacements takes the entry away. -/
def Sync.Stays (sync : Sync) (app : App) : Prop :=
  ∀ repl, fate sync.env sync.config sync.grounds repl (sync.refresh app) = .kept

theorem Sync.Lawful.stays_of_claims (lawful : sync.Lawful) (claims : sync.Claims app game)
    (young : ¬ sync.Expired app) : sync.Stays app := by
  intro repl
  have key : playniteIdKey (sync.refresh app).playniteId = game.key := by
    rw [playniteId_of_some claims.1, Game.key]
  refine fate_of_selected ?_ ?_ (Bool.eq_false_iff.mpr young)
  · rw [key]
    exact List.mem_map_of_mem claims.2
  · rw [key]
    exact lawful.key_not_uninstalled claims.2

theorem Sync.Lawful.expired_of_claims (lawful : sync.Lawful) (claims : sync.Claims app game)
    (old : sync.Expired app) (repl : Nat) :
    fate sync.env sync.config sync.grounds repl (sync.refresh app) = .expired := by
  refine fate_of_expired (lawful.claims_auto claims) ?_ old
  rw [playniteId_of_some claims.1]
  exact lawful.named game (lawful.selected_installed claims.2).1

theorem stays_of_nameless (nameless : sync.Nameless app) : sync.Stays app := by
  intro repl
  refine fate_of_unmanaged fun managed => managed.2 ?_
  rw [refresh_of_none nameless.2.2, playniteId_ensureAppUuid, App.playniteId, nameless.2.1]
  rfl

theorem map_fst_purged : sync.purged.map Prod.fst = sync.deduped.map sync.refresh :=
  map_fst_purgeApps

/-- An entry that stays is among the kept ones, and in their order. -/
theorem sublist_kept {apps : List App} {test : App → Bool} (repl : Nat)
    (stays : ∀ app ∈ apps, test app = true → sync.Stays app) :
    List.Sublist ((apps.filter test).map sync.refresh)
      (((purgeApps sync.env sync.config sync.grounds repl (apps.map sync.refresh)).filter
        fun entry => entry.2 = .kept).map Prod.fst) := by
  induction apps generalizing repl with
  | nil => exact List.Sublist.refl _
  | cons first rest ih =>
      have later (repl : Nat) := ih repl fun app member =>
        stays app (List.mem_cons_of_mem _ member)
      rw [List.map_cons, purgeApps]
      by_cases passes : test first = true
      · have kept := stays first List.mem_cons_self passes repl
        rw [List.filter_cons_of_pos passes, List.map_cons]
        simp only [kept]
        exact (later repl).cons_cons _
      · rw [List.filter_cons_of_neg passes]
        have tail (entry : App × Fate) (entries : List (App × Fate)) :
            List.Sublist ((entries.filter fun entry => entry.2 = .kept).map Prod.fst)
              (((entry :: entries).filter fun entry => entry.2 = .kept).map Prod.fst) :=
          List.Sublist.map _ (List.Sublist.filter _ (List.sublist_cons_self entry entries))
        exact (later _).trans (tail _ _)

theorem sublist_of_kept : List.Sublist sync.kept (sync.deduped.map sync.refresh) := by
  rw [← map_fst_purged]
  exact List.Sublist.map _ List.filter_sublist

theorem fate_of_mem_kept (member : app ∈ sync.kept) :
    ∃ repl, fate sync.env sync.config sync.grounds repl app = .kept := by
  obtain ⟨entry, listed, rfl⟩ := List.mem_map.mp member
  obtain ⟨listed, kept⟩ := List.mem_filter.mp listed
  obtain ⟨repl, same⟩ := fate_of_mem listed
  exact ⟨repl, same.symm.trans (of_decide_eq_true kept)⟩

/-! ## New entries -/

theorem playniteId_newApp : (sync.newApp game).text? "playnite-id" = some game.id := by
  have id : (applyGameMetadataToApp sync.env game ⟨[], ""⟩).find? "playnite-id" =
      some (.str game.id) := by
    rw [find?_applyGameMetadata (by decide), if_pos rfl]
  unfold Sync.newApp
  dsimp only
  rw [App.text?, App.find?_put_of_ne (by decide), App.find?_put_of_ne (by decide),
    find?_markAppAsPlayniteAuto (by decide) (by decide), find?_ensureAppUuid (by decide), id]

theorem isAuto_newApp : (sync.newApp game).isAuto = true := by
  have managed {flags : Nat} {app : App} :
      (markAppAsPlayniteAuto flags app).find? "playnite-managed" = some (.str "auto") :=
    App.find?_put_self
  unfold Sync.newApp
  dsimp only
  rw [App.isAuto, App.text?, App.find?_put_of_ne (by decide), App.find?_put_of_ne (by decide),
    managed]
  rfl

theorem mem_added (member : app ∈ sync.added) :
    ∃ game ∈ sync.selected, game.key ∉ sync.matchedIds ∧ app = sync.newApp game := by
  obtain ⟨game, listed, rfl⟩ := List.mem_map.mp member
  obtain ⟨selected, unmatched⟩ := List.mem_filter.mp listed
  exact ⟨game, selected, by simpa using unmatched, rfl⟩

theorem playniteId_of_text? {id : String} (carries : app.text? "playnite-id" = some id) :
    app.playniteId = id := by
  rw [App.playniteId, carries, Option.getD_some]

/-- No entry that was there has the identifier of a new one. -/
theorem Sync.Lawful.key_ne_of_added (lawful : sync.Lawful) (member : app ∈ sync.deduped)
    (selected : game ∈ sync.selected) (unmatched : game.key ∉ sync.matchedIds) :
    playniteIdKey (sync.refresh app).playniteId ≠ game.key := by
  intro same
  have found := lawful.match?_of_refreshed (lawful.selected_installed selected).1 same
  exact unmatched (mem_matchedIds member found)

theorem Sync.Lawful.pairwise_added (lawful : sync.Lawful) : sync.added.Pairwise Distinct := by
  have keys : (sync.selected.map Game.key).Nodup := nodup_selectedGames lawful.env
  refine List.pairwise_map.mpr (List.Pairwise.filter _ ?_)
  refine (List.pairwise_map.mp keys).imp fun different _ _ id carries other carriesOther => ?_
  rw [playniteId_newApp] at carries carriesOther
  cases carries
  cases carriesOther
  exact different

/-! ## Unique entries -/

/-- The purge has no reason to take the refreshed entry for its age. -/
def Sync.Young (sync : Sync) (app : App) : Prop :=
  app.isAuto = true → app.playniteId ≠ "" →
    shouldTtlDelete sync.env sync.config sync.grounds.lastPlayed app = false

theorem young_of_mem_kept (member : app ∈ sync.kept) : sync.Young app := by
  intro auto named
  obtain ⟨repl, kept⟩ := fate_of_mem_kept member
  cases age : shouldTtlDelete sync.env sync.config sync.grounds.lastPlayed app with
  | false => rfl
  | true => cases kept.symm.trans (fate_of_expired auto named age)

theorem Sync.Lawful.not_expired (lawful : sync.Lawful) (claims : sync.Claims app game)
    (young : sync.Young (sync.refresh app)) : ¬ sync.Expired app := by
  have carries : (sync.refresh app).playniteId ≠ "" := by
    rw [playniteId_of_some claims.1]
    exact lawful.named game (lawful.selected_installed claims.2).1
  rw [Sync.Expired, young (lawful.claims_auto claims) carries]
  exact Bool.false_ne_true

/-- Two entries of one game that is not selected were duplicates before. -/
theorem Sync.Lawful.not_apart (lawful : sync.Lawful) (found : sync.match? first = some game)
    (otherFound : sync.match? second = some game) (unselected : game ∉ sync.selected)
    (auto : (sync.refresh first).isAuto = true) (otherAuto : (sync.refresh second).isAuto = true) :
    ¬ Apart first second := by
  have own {app : App} (found : sync.match? app = some game)
      (auto : (sync.refresh app).isAuto = true) :
      app.isAuto = true ∧ playniteIdKey app.playniteId = game.key := by
    refine ⟨(lawful.auto_of_refreshed auto).resolve_right ?_,
      (lawful.match?_mem found).2.resolve_left unselected⟩
    rintro ⟨other, claimed, selected⟩
    cases found.symm.trans claimed
    exact unselected selected
  intro apart
  obtain ⟨wasAuto, key⟩ := own found auto
  obtain ⟨otherWasAuto, otherKey⟩ := own otherFound otherAuto
  have carries := lawful.named game (lawful.match?_mem found).1
  exact apart wasAuto otherWasAuto (named_of_same_key key carries) (key.trans otherKey.symm)

theorem Sync.Lawful.distinct_of_clear (lawful : sync.Lawful) (apart : Apart first second)
    (clear : ¬ sync.Conflict first second) (young : sync.Young (sync.refresh first))
    (otherYoung : sync.Young (sync.refresh second)) :
    Distinct (sync.refresh first) (sync.refresh second) := by
  intro auto otherAuto id carries otherId otherCarries same
  have key : playniteIdKey (sync.refresh first).playniteId =
      playniteIdKey (sync.refresh second).playniteId := by
    rw [playniteId_of_text? carries, playniteId_of_text? otherCarries, same]
  cases found : sync.match? first with
  | some game =>
      have member := (lawful.match?_mem found).1
      have firstKey : playniteIdKey (sync.refresh first).playniteId = game.key := by
        rw [playniteId_of_some found, Game.key]
      have otherFound := lawful.match?_of_refreshed member (key.symm.trans firstKey)
      by_cases selected : game ∈ sync.selected
      · exact clear (.inl ⟨game, ⟨found, selected⟩, ⟨otherFound, selected⟩,
          lawful.not_expired ⟨found, selected⟩ young,
          lawful.not_expired ⟨otherFound, selected⟩ otherYoung⟩)
      · exact lawful.not_apart found otherFound selected auto otherAuto apart
  | none =>
      cases otherFound : sync.match? second with
      | some game =>
          have otherKey : playniteIdKey (sync.refresh second).playniteId = game.key := by
            rw [playniteId_of_some otherFound, Game.key]
          have here := lawful.match?_of_refreshed (lawful.match?_mem otherFound).1
            (key.trans otherKey)
          cases found.symm.trans here
      | none =>
          rw [refresh_of_none found] at auto carries
          rw [refresh_of_none otherFound] at otherAuto otherCarries
          rw [isAuto_ensureAppUuid] at auto otherAuto
          rw [text?_ensureAppUuid (by decide)] at carries otherCarries
          by_cases empty : id = ""
          · subst empty
            have otherEmpty := playniteIdKey_eq_empty.mp
              (same.symm.trans (playniteIdKey_eq_empty.mpr rfl))
            subst otherEmpty
            exact clear (.inr ⟨⟨auto, carries, found⟩, otherAuto, otherCarries, otherFound⟩)
          · refine apart auto otherAuto ?_ ?_
            · rw [playniteId_of_text? carries]
              exact empty
            · rw [playniteId_of_text? carries, playniteId_of_text? otherCarries, same]

/-- Both entries of a conflict come through, under one identifier. -/
theorem Sync.Lawful.of_conflict (lawful : sync.Lawful) (conflict : sync.Conflict first second) :
    sync.Stays first ∧ sync.Stays second ∧
      ¬ Distinct (sync.refresh first) (sync.refresh second) := by
  rcases conflict with ⟨game, claims, otherClaims, young, otherYoung⟩ | ⟨nameless, otherNameless⟩
  · refine ⟨lawful.stays_of_claims claims young, lawful.stays_of_claims otherClaims otherYoung,
      fun distinct => ?_⟩
    exact distinct (lawful.claims_auto claims) (lawful.claims_auto otherClaims) game.id
      (refresh_of_some claims.1).1 game.id (refresh_of_some otherClaims.1).1 rfl
  · refine ⟨stays_of_nameless nameless, stays_of_nameless otherNameless, fun distinct => ?_⟩
    have auto {app : App} (nameless : sync.Nameless app) : (sync.refresh app).isAuto = true ∧
        (sync.refresh app).text? "playnite-id" = some "" := by
      rw [refresh_of_none nameless.2.2, isAuto_ensureAppUuid, text?_ensureAppUuid (by decide)]
      exact ⟨nameless.1, nameless.2.1⟩
    exact distinct (auto nameless).1 (auto otherNameless).1 "" (auto nameless).2 ""
      (auto otherNameless).2 rfl

theorem Sync.Lawful.unique_iff (lawful : sync.Lawful) :
    (autosyncReconcile true sync).apps.Pairwise Distinct ↔
      sync.deduped.Pairwise fun first second => ¬ sync.Conflict first second := by
  constructor
  · intro unique
    classical
    have listed : List.Sublist ((sync.deduped.filter fun app => sync.Stays app).map sync.refresh)
        (autosyncReconcile true sync).apps :=
      (sublist_kept _ fun app _ stays => of_decide_eq_true stays).trans
        (List.sublist_append_left _ _)
    have staying := List.pairwise_filter.mp (List.pairwise_map.mp (unique.sublist listed))
    refine staying.imp fun apart conflict => ?_
    obtain ⟨stays, otherStays, shared⟩ := lawful.of_conflict conflict
    exact shared (apart (decide_eq_true stays) (decide_eq_true otherStays))
  · intro clear
    have refreshed : (sync.deduped.map sync.refresh).Pairwise fun first second =>
        sync.Young first → sync.Young second → Distinct first second :=
      List.pairwise_map.mpr <|
        (List.Pairwise.and (pairwise_dedupe [] _) clear).imp fun both =>
          lawful.distinct_of_clear both.1 both.2
    have kept : sync.kept.Pairwise Distinct :=
      (refreshed.sublist sublist_of_kept).imp_of_mem fun member otherMember distinct =>
        distinct (young_of_mem_kept member) (young_of_mem_kept otherMember)
    refine List.pairwise_append.mpr ⟨kept, lawful.pairwise_added, ?_⟩
    intro app member new added _ _ id carries other otherCarries same
    obtain ⟨game, selected, unmatched, rfl⟩ := mem_added added
    rw [playniteId_newApp] at otherCarries
    cases otherCarries
    obtain ⟨old, listed, rfl⟩ := List.mem_map.mp (sublist_of_kept.subset member)
    refine lawful.key_ne_of_added listed selected unmatched ?_
    rw [playniteId_of_text? carries, same, Game.key]

/-! ## Own entries -/

theorem map_refreshed_own :
    (sync.apps.filter fun app => !app.isAuto).map sync.refreshed =
      (sync.deduped.filter fun app => !app.isAuto).map sync.refresh := by
  rw [Sync.deduped, filter_dedupe, List.filter_map, List.map_map]
  have same : ((fun app : App => !app.isAuto) ∘ ensureAppUuid) = fun app => !app.isAuto := by
    funext app
    rw [Function.comp_apply, isAuto_ensureAppUuid]
  rw [same]
  rfl

theorem find?_uuid_refresh : (sync.refresh app).find? "uuid" = (ensureAppUuid app).find? "uuid" := by
  cases found : sync.match? app with
  | none => rw [refresh_of_none found]
  | some game =>
      rw [Sync.match?] at found
      rw [Sync.refresh, refreshApp]
      dsimp only
      rw [found]
      dsimp only
      split
      · rw [find?_applyGameMetadata (by decide), if_neg (by decide)]
      · rw [find?_markAppAsPlayniteAuto (by decide) (by decide),
          find?_applyGameMetadata (by decide), if_neg (by decide)]

theorem uuid_ensureAppUuid (named : app.playniteId ≠ "") :
    (ensureAppUuid app).find? "uuid" =
      some (.str (canonicalPlayniteAppUuid app.playniteId)) := by
  have due : uuidDue app =
      if app.text? "uuid" = some (canonicalPlayniteAppUuid app.playniteId) then none
      else some (canonicalPlayniteAppUuid app.playniteId) := by
    rw [uuidDue, if_pos named]
  unfold ensureAppUuid
  rw [due]
  by_cases same : app.text? "uuid" = some (canonicalPlayniteAppUuid app.playniteId)
  · rw [if_pos same]
    unfold App.text? at same
    split at same
    next text found =>
      cases same
      exact found
    next => cases same
  · rw [if_neg same]
    exact App.find?_put_self

theorem uuidDue_of_nameless (nameless : app.playniteId = "") :
    uuidDue app = none ∨ app.find? "uuid" ∈ [none, some .null, some (.str "")] := by
  unfold uuidDue
  rw [if_neg (not_not.mpr nameless)]
  split
  next empty => exact .inr (by simp [empty])
  next null => exact .inr (by simp [null])
  next text => exact .inr (by simp [text])
  next => exact .inl rfl

theorem sameUuid_refreshed (app : App) : SameUuid app (sync.refreshed app) := by
  unfold SameUuid
  rw [Sync.refreshed, find?_uuid_refresh]
  by_cases nameless : app.playniteId = ""
  · rcases uuidDue_of_nameless nameless with kept | missing
    · have same : ensureAppUuid app = app := by rw [ensureAppUuid, kept]
      rw [same, same]
      exact .inl rfl
    · exact .inr (.inr missing)
  · have carries : (ensureAppUuid app).playniteId ≠ "" := by
      rw [playniteId_ensureAppUuid]
      exact nameless
    refine .inr (.inl ⟨nameless, ?_⟩)
    rw [uuid_ensureAppUuid carries, playniteId_ensureAppUuid]

theorem Sync.Lawful.own_iff (lawful : sync.Lawful) :
    List.Sublist ((sync.apps.filter fun app => !app.isAuto).map sync.refreshed)
        (autosyncReconcile true sync).apps ↔
      ∀ app ∈ sync.deduped, app.isAuto = false → ∀ game, sync.Claims app game →
        ¬ sync.Expired app := by
  rw [map_refreshed_own]
  constructor
  · intro present app member own game claims expired
    have here : sync.refresh app ∈ sync.kept ++ sync.added :=
      present.subset (List.mem_map_of_mem (List.mem_filter.mpr ⟨member, by simp [own]⟩))
    rcases List.mem_append.mp here with kept | added
    · obtain ⟨repl, stays⟩ := fate_of_mem_kept kept
      cases stays.symm.trans (lawful.expired_of_claims claims expired repl)
    · obtain ⟨new, selected, unmatched, same⟩ := mem_added added
      refine lawful.key_ne_of_added member selected unmatched ?_
      rw [same, playniteId_of_text? playniteId_newApp, Game.key]
  · intro young
    refine (sublist_kept _ fun app member own => ?_).trans (List.sublist_append_left _ _)
    rw [Bool.not_eq_true'] at own
    by_cases auto : (sync.refresh app).isAuto = true
    · rcases lawful.auto_of_refreshed auto with before | ⟨game, claims⟩
      · cases own.symm.trans before
      · exact lawful.stays_of_claims claims (young app member own game claims)
    · exact fun repl => fate_of_unmanaged fun managed => auto managed.1

/-! ## New entries and replacements -/

theorem Sync.Lawful.complete (lawful : sync.Lawful)
    (chosen : Chosen sync.env sync.config sync.installed game)
    (unmatched : ∀ app ∈ sync.deduped, sync.match? app ≠ some game) :
    sync.added.countP (fun app => playniteIdKey app.playniteId = game.key) = 1 := by
  have listed := mem_installed (chosen.included lawful.env).1
  have selected : game ∈ sync.selected := by
    obtain ⟨other, selected, same⟩ := chosen.selected lawful.env (lawful.named game listed.1)
    exact lawful.game_eq (lawful.selected_installed selected).1 listed.1 same ▸ selected
  have unclaimed : game.key ∉ sync.matchedIds := by
    intro matched
    obtain ⟨app, member, found⟩ := lawful.match?_of_matchedIds listed.1 matched
    exact unmatched app member found
  let missing := sync.selected.filter fun game => !sync.matchedIds.contains game.key
  have member : game.key ∈ missing.map Game.key :=
    List.mem_map_of_mem (List.mem_filter.mpr ⟨selected, by simpa using unclaimed⟩)
  have distinct : (missing.map Game.key).Nodup :=
    (nodup_selectedGames lawful.env).sublist (List.Sublist.map _ List.filter_sublist)
  calc sync.added.countP (fun app => playniteIdKey app.playniteId = game.key)
      = missing.countP (fun other => other.key = game.key) := by
        rw [Sync.added, List.countP_map]
        refine List.countP_congr fun other _ => ?_
        rw [Function.comp_apply, playniteId_of_text? playniteId_newApp]
        exact Iff.rfl
    _ = (missing.map Game.key).count game.key := by
        rw [List.count, List.countP_map]
        rfl
    _ = 1 := List.count_eq_one_of_mem distinct member

theorem Sync.Lawful.added_chosen (lawful : sync.Lawful) (member : app ∈ sync.added) :
    ∃ game, Chosen sync.env sync.config sync.installed game ∧ game.installed = true ∧
      sync.config.exclusions.excludes game = false ∧ app.isAuto = true ∧
      app.playniteId = game.id := by
  obtain ⟨game, selected, -, rfl⟩ := mem_added member
  have chosen := mem_selectedGames lawful.env selected
  exact ⟨game, chosen, (lawful.selected_installed selected).2, (chosen.included lawful.env).2,
    isAuto_newApp, playniteId_of_text? playniteId_newApp⟩

/-- A game that an entry was matched to is among the managed ones. -/
theorem Sync.Lawful.mem_currentAutoIds (lawful : sync.Lawful) (selected : game ∈ sync.selected)
    (matched : game.key ∈ sync.matchedIds) :
    game.key ∈ currentAutoIds (sync.deduped.map sync.refresh) := by
  have listed := (lawful.selected_installed selected).1
  obtain ⟨app, member, found⟩ := lawful.match?_of_matchedIds listed matched
  have id := playniteId_of_some found
  refine List.mem_map.mpr ⟨sync.refresh app, List.mem_filter.mpr ⟨List.mem_map_of_mem member, ?_⟩, ?_⟩
  · rw [lawful.claims_auto ⟨found, selected⟩, id, Bool.true_and]
    exact decide_eq_true (lawful.named game listed)
  · rw [id, Game.key]

/-- The replacements that are counted are added. -/
theorem Sync.Lawful.replacements_le (lawful : sync.Lawful) :
    sync.replacements ≤ sync.added.length := by
  rw [Sync.replacements, countReplacementsAvailable, Sync.grounds, Sync.added, List.length_map]
  dsimp only
  rw [List.filter_map, List.length_map, ← List.countP_eq_length_filter,
    ← List.countP_eq_length_filter]
  refine List.countP_mono_left fun game selected free => ?_
  simp only [Function.comp_apply, Bool.not_eq_true', List.contains_eq_mem,
    decide_eq_false_iff_not] at free ⊢
  exact fun matched => free (lawful.mem_currentAutoIds selected matched)

/-! ## The result -/

/-- The membership of the result is right exactly when the entries of the list are clear of the
two conflicts. -/
theorem membership_iff_clear (sync : Sync) (lawful : sync.Lawful) :
    sync.Membership ↔ sync.Clear := by
  constructor
  · intro membership
    exact ⟨lawful.unique_iff.mp membership.unique, lawful.own_iff.mp membership.own.1⟩
  · intro clear
    exact {
      unique := lawful.unique_iff.mpr clear.unique
      own := ⟨lawful.own_iff.mpr clear.own, fun app _ => sameUuid_refreshed app⟩
      added := ⟨sync.kept, rfl, sublist_of_kept, fun _ => lawful.added_chosen⟩
      complete := fun _ => lawful.complete
      replaced := Nat.le_trans (countP_replaced_le _ _) lawful.replacements_le }

/-- A library of one game, all of it selected, and no dates. -/
def oneGame (apps : List App) : Sync where
  env :=
    { sortRecent := fun games => games.mergeSort fun first second =>
        decide (second.lastPlayed ≤ first.lastPlayed)
      hashOrder := id
      mkgmtime := fun _ => none
      selectTime := 0
      purgeTime := 0
      nowIso8601Utc := fun _ => "1970-01-01T00:00:00Z"
      appdata := "config"
      convertsBoxArt := fun _ => false
      resolvesIcon := fun _ => false }
  config := { syncAllInstalled := true }
  games := [{ id := "abc", name := "Portal", installed := true }]
  apps

theorem lawful_oneGame (apps : List App) : (oneGame apps).Lawful where
  env := ⟨fun games => List.mergeSort_perm games _, fun _ => List.Perm.refl _⟩
  named := by
    intro game member
    cases List.mem_singleton.mp member
    decide
  distinct := List.nodup_cons.mpr ⟨List.not_mem_nil, List.nodup_nil⟩

theorem membership_iff_clear_empty : (oneGame []).Membership ↔ (oneGame []).Clear :=
  membership_iff_clear _ (lawful_oneGame [])

/-- A managed entry of the game, and one of the user's with its name. -/
theorem membership_fails_on_shared_name : ¬ (oneGame
    [⟨[("playnite-id", .str "abc"), ("playnite-managed", .str "auto")], ""⟩,
      ⟨[("name", .str "portal")], "0"⟩]).Membership := by
  intro membership
  have unique := membership.unique
  generalize shape : (autosyncReconcile true (oneGame _)).apps = apps at unique
  have shared : apps.map (fun app => (app.isAuto, app.text? "playnite-id")) =
      [(true, some "abc"), (true, some "abc")] := by
    rw [← shape]
    decide +kernel
  obtain ⟨first, _, rfl, here, shared⟩ := List.map_eq_cons_iff.mp shared
  obtain ⟨second, _, rfl, there, -⟩ := List.map_eq_cons_iff.mp shared
  rw [Prod.mk.injEq] at here there
  exact (List.pairwise_cons.mp unique).1 second List.mem_cons_self here.1 there.1 "abc" here.2
    "abc" there.2 rfl

end UmbraHost.Playnite
