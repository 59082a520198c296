import UmbraHost.Playnite.Unmoved

/-! # The entries of a second synchronization

What a second run of `autosync_reconcile` with the same arguments finds of the entries that the
first refreshed or added, and what its purge makes of them. -/

namespace UmbraHost.Playnite

open UmbraHost.Json

/-- Both orders rearrange what they are given, the date of a new entry is not read as an earlier
time, and no empty identifier is drawn. -/
structure Sync.Sound (sync : Sync) : Prop where
  env : sync.env.Lawful
  clock : ∀ game time,
    parseIso8601Utc sync.env.mkgmtime (sync.env.nowIso8601Utc game) = some time →
      sync.env.purgeTime ≤ time
  drawn : ∀ app ∈ sync.apps, app.drawn ≠ ""

/-- The entry is that of the game, and not too old. -/
def Sync.Holds (sync : Sync) (app : App) (game : Game) : Prop :=
  sync.Belongs app game ∧ ¬ sync.Expired app

variable {sync : Sync} {app old first second : App} {game other last : Game}

/-! ## Entries with the same members -/

theorem App.find?_of_fields (same : app.fields = old.fields) (name : String) :
    app.find? name = old.find? name := by
  rw [App.find?, App.find?, same]

theorem App.identity_of_fields (same : app.fields = old.fields) : app.identity = old.identity :=
  App.identity_eq_iff.mpr fun name _ => App.find?_of_fields same name

theorem App.text?_of_fields (same : app.fields = old.fields) (name : String) :
    app.text? name = old.text? name :=
  App.text?_of_find? (App.find?_of_fields same name)

theorem App.playniteId_of_fields (same : app.fields = old.fields) :
    app.playniteId = old.playniteId := by
  rw [App.playniteId, App.text?_of_fields same, App.playniteId]

theorem match_of_fields {indexes : Indexes} (same : app.fields = old.fields) :
    matchAppAgainstIndexes indexes app = matchAppAgainstIndexes indexes old := by
  unfold matchAppAgainstIndexes
  simp only [App.text?_of_fields same]

theorem uuidDue_of_fields (same : app.fields = old.fields) (settled : uuidDue old = none) :
    uuidDue app = none := by
  unfold uuidDue at settled ⊢
  rw [App.playniteId_of_fields same, App.text?_of_fields same, App.find?_of_fields same]
  revert settled
  split
  · exact id
  · split
    · nofun
    · nofun
    · nofun
    · exact fun _ => rfl

theorem uuidDue_ensureAppUuid (drawn : app.drawn ≠ "") : uuidDue (ensureAppUuid app) = none := by
  by_cases named : app.playniteId = ""
  · have nameless : (ensureAppUuid app).playniteId = "" := by rw [playniteId_ensureAppUuid, named]
    cases due : uuidDue app with
    | none => rw [ensureAppUuid_of_none due, due]
    | some uuid =>
        have isDrawn : uuid = app.drawn := by
          unfold uuidDue at due
          rw [if_neg (not_not.mpr named)] at due
          split at due
          · exact (Option.some.inj due).symm
          · exact (Option.some.inj due).symm
          · exact (Option.some.inj due).symm
          · cases due
        have here : (ensureAppUuid app).find? "uuid" = some (.str app.drawn) := by
          rw [ensureAppUuid, due, isDrawn]
          exact App.find?_put_self
        unfold uuidDue
        rw [if_neg (not_not.mpr nameless), here]
        split
        · next impossible => cases impossible
        · next impossible => cases impossible
        · next empty => exact absurd (Value.str.inj (Option.some.inj empty)) drawn
        · rfl
  · have here : (ensureAppUuid app).text? "uuid" =
        some (canonicalPlayniteAppUuid app.playniteId) := by
      rw [App.text?, uuid_ensureAppUuid named]
    unfold uuidDue
    rw [playniteId_ensureAppUuid, if_pos named]
    dsimp only
    rw [if_pos here]

theorem Marked.of_fields {flags : Fields Nat} (marked : Marked flags game old)
    (same : app.fields = old.fields) : Marked flags game app := fun marks written => by
  rw [App.find?_of_fields same, App.find?_of_fields same]
  exact marked marks written

/-! ## An entry that is refreshed again -/

section

variable {env : Environment} {indexes : Indexes} {flags : Fields Nat} {selected games : List Game}

/-- An entry without a game keeps all its members. -/
theorem again_of_unmatched (settled : uuidDue old = none)
    (unmatched : matchAppAgainstIndexes indexes old = none)
    (same : app.fields = (refreshApp env indexes flags old).fields) :
    matchAppAgainstIndexes indexes app = none ∧
      refreshApp env indexes flags (ensureAppUuid app) = app := by
  rw [refreshApp_of_none unmatched, ensureAppUuid_of_none settled] at same
  have still : matchAppAgainstIndexes indexes app = none := (match_of_fields same).trans unmatched
  have due := ensureAppUuid_of_none (uuidDue_of_fields same settled)
  refine ⟨still, ?_⟩
  rw [due, refreshApp_of_none still, due]

theorem again_of_matched (finds : indexes.Finds selected games) (settled : uuidDue old = none)
    (found : matchAppAgainstIndexes indexes old = some game)
    (isLast : lastNamed? games game.key = some last)
    (same : app.fields = (refreshApp env indexes flags old).fields) :
    (refreshApp env indexes flags (ensureAppUuid app)).identity = app.identity ↔
      old.find? "uuid" = some (.str (canonicalPlayniteAppUuid game.id)) ∧ last.id = game.id := by
  have marked : Marked flags game (refreshApp env indexes flags old) := marked_refreshApp found rfl
  have uuid : app.find? "uuid" = old.find? "uuid" := by
    rw [App.find?_of_fields same, find?_refreshApp_of_some (by decide) found,
      ensureAppUuid_of_none settled]
    simp
  have id : app.text? "playnite-id" = some game.id := by
    rw [App.text?_of_fields same, App.text?, find?_refreshApp_of_some (by decide) found]
    rfl
  rw [← uuid]
  exact identity_refreshApp_iff finds id (marked.of_fields same) isLast

/-- The `uuid` of an entry with the identifier of a game is that of the game. -/
theorem uuid_of_key (settled : uuidDue old = none) (named : game.id ≠ "")
    (key : playniteIdKey old.playniteId = game.key) :
    old.find? "uuid" = some (.str (canonicalPlayniteAppUuid game.id)) := by
  have carries : old.playniteId ≠ "" := named_of_same_key key named
  rw [← canonical_of_same_key key, ← uuid_ensureAppUuid carries, ensureAppUuid_of_none settled]

/-- Without selected games every entry keeps its identity. -/
theorem again_of_byId (finds : indexes.Finds [] games) (settled : uuidDue old = none)
    (same : app.fields = (refreshApp env indexes flags old).fields) :
    (refreshApp env indexes flags (ensureAppUuid app)).identity = app.identity := by
  cases found : matchAppAgainstIndexes indexes old with
  | none => rw [(again_of_unmatched settled found same).2]
  | some game =>
      rcases finds.match_cases found with isLast | ⟨-, none⟩
      · obtain ⟨-, named, key⟩ := lastNamed?_some isLast
        refine (again_of_matched finds settled found (key ▸ isLast) same).mpr ⟨?_, rfl⟩
        exact uuid_of_key settled named key.symm
      · cases none

end

theorem Sync.Sound.uuidDue_deduped (sound : sync.Sound) (member : app ∈ sync.deduped) :
    uuidDue app = none := by
  obtain ⟨before, listed, rfl⟩ := List.mem_map.mp ((sublist_dedupe [] _).subset member)
  exact uuidDue_ensureAppUuid (sound.drawn before listed)

/-! ## The entries of the second run -/

theorem Sync.mem_of_match? (lawful : sync.env.Lawful) (found : sync.match? app = some game) :
    game ∈ sync.games ∧ game.id ≠ "" ∧
      (playniteIdKey app.playniteId = game.key ∧ lastNamed? sync.games game.key = some game ∨
        lastNamed? sync.games (playniteIdKey app.playniteId) = none ∧ game ∈ sync.selected) := by
  rw [Sync.match?_eq] at found
  rcases (Sync.finds lawful).match_cases found with last | ⟨none, selected⟩
  · obtain ⟨member, named, same⟩ := lastNamed?_some last
    exact ⟨member, named, .inl ⟨same.symm, by rw [same]; exact last⟩⟩
  · exact ⟨Sync.selected_subset lawful selected, Sync.named_of_selected lawful selected,
      .inr ⟨none, selected⟩⟩

/-- An entry with the identifier of a game is that of the last such game. -/
theorem Sync.match?_of_last (lawful : sync.env.Lawful)
    (found : lastNamed? sync.games (playniteIdKey app.playniteId) = some last) :
    sync.match? app = some last := by
  rw [Sync.match?_eq]
  exact (Sync.finds lawful).match_of_last found

theorem Sync.match?_refresh (lawful : sync.env.Lawful) (found : sync.match? old = some game)
    (same : app.fields = (sync.refresh old).fields) :
    ∃ last, lastNamed? sync.games game.key = some last ∧ sync.match? app = some last := by
  obtain ⟨member, named, -⟩ := Sync.mem_of_match? lawful found
  obtain ⟨last, isLast⟩ := exists_lastNamed? member named
  refine ⟨last, isLast, Sync.match?_of_last lawful ?_⟩
  rw [App.playniteId_of_fields same, playniteId_of_some found]
  exact isLast

/-- An entry without a game keeps all its members. -/
theorem Sync.Sound.again_of_unmatched (sound : sync.Sound) (member : old ∈ sync.deduped)
    (unmatched : sync.match? old = none) (same : app.fields = (sync.refresh old).fields) :
    sync.match? app = none ∧ sync.refreshed app = app := by
  rw [Sync.match?_eq] at unmatched ⊢
  exact Playnite.again_of_unmatched (sound.uuidDue_deduped member) unmatched same

theorem Sync.Sound.belongs_iff (sound : sync.Sound) (member : old ∈ sync.deduped)
    (same : app.fields = (sync.refresh old).fields) :
    sync.Belongs app game ↔ sync.Belongs old game := by
  cases found : sync.match? old with
  | none =>
      have still := (sound.again_of_unmatched member found same).1
      rw [Sync.Belongs, Sync.Belongs, found, still]
  | some other =>
      obtain ⟨last, isLast, again⟩ := Sync.match?_refresh sound.env found same
      rw [Sync.Belongs, Sync.Belongs, found, again]
      simp [(lastNamed?_some isLast).2.2]

theorem Sync.Sound.alike_of_matched (sound : sync.Sound) (member : old ∈ sync.deduped)
    (found : sync.match? old = some game) (isLast : lastNamed? sync.games game.key = some last)
    (same : app.fields = (sync.refresh old).fields) :
    (sync.refreshed app).identity = app.identity ↔
      old.find? "uuid" = some (.str (canonicalPlayniteAppUuid game.id)) ∧ last.id = game.id := by
  rw [Sync.match?_eq] at found
  exact again_of_matched (Sync.finds sound.env) (sound.uuidDue_deduped member) found isLast same

/-! ## New entries -/

theorem find?_newApp {name : String} (notAdded : name ≠ "playnite-added-at")
    (notExit : name ≠ "exit-timeout") : (sync.newApp game).find? name =
      (markAppAsPlayniteAuto ((List.lookup game.key sync.flags).getD 0)
        (ensureAppUuid (applyGameMetadataToApp sync.env game ⟨[], ""⟩))).find? name := by
  rw [Sync.newApp, App.find?_put_of_ne notExit, App.find?_put_of_ne notAdded]

theorem marked_newApp : Marked sync.flags game (sync.newApp game) := by
  intro marks written
  rw [find?_newApp (by decide) (by decide), find?_newApp (by decide) (by decide), written,
    markAppAsPlayniteAuto, App.find?_put_self, App.find?_put_of_ne (by decide), App.find?_put_self]
  exact ⟨rfl, rfl⟩

theorem uuid_newApp (named : game.id ≠ "") : (sync.newApp game).find? "uuid" =
    some (.str (canonicalPlayniteAppUuid game.id)) := by
  have id : (applyGameMetadataToApp sync.env game ⟨[], ""⟩).playniteId = game.id := by
    rw [App.playniteId, App.text?, find?_applyGameMetadata (by decide), if_pos rfl]
    rfl
  rw [find?_newApp (by decide) (by decide),
    find?_markAppAsPlayniteAuto (by decide) (by decide), uuid_ensureAppUuid (by rwa [id]), id]

theorem added_newApp : (sync.newApp game).text? "playnite-added-at" =
    some (sync.env.nowIso8601Utc game) := by
  rw [Sync.newApp, App.text?, App.find?_put_of_ne (by decide), App.find?_put_self]

/-- The age rule leaves a new entry alone. -/
theorem Sync.Sound.young_newApp (sound : sync.Sound) : shouldTtlDelete sync.env sync.config
    sync.grounds.lastPlayed (sync.newApp game) = false := by
  unfold shouldTtlDelete
  split
  · rfl
  · next days =>
      rw [added_newApp, Option.bind_some]
      dsimp only
      cases read : parseIso8601Utc sync.env.mkgmtime (sync.env.nowIso8601Utc game) with
      | none =>
          have late : ¬ sync.env.purgeTime + sync.config.deleteAfterDays * 86400 ≤
              sync.env.purgeTime := by omega
          simp [late]
      | some time =>
          have recent := sound.clock game time read
          have late : ¬ time + sync.config.deleteAfterDays * 86400 ≤ sync.env.purgeTime := by omega
          simp [late]

theorem Sync.Sound.alike_of_new (sound : sync.Sound) (selected : game ∈ sync.selected)
    (isLast : lastNamed? sync.games game.key = some last)
    (same : app.fields = (sync.newApp game).fields) :
    (sync.refreshed app).identity = app.identity ↔ last.id = game.id := by
  have uuid : app.find? "uuid" = some (.str (canonicalPlayniteAppUuid game.id)) :=
    (App.find?_of_fields same _).trans (uuid_newApp (Sync.named_of_selected sound.env selected))
  have alike : (sync.refreshed app).identity = app.identity ↔
      app.find? "uuid" = some (.str (canonicalPlayniteAppUuid game.id)) ∧ last.id = game.id :=
    identity_refreshApp_iff (Sync.finds sound.env)
      ((App.text?_of_fields same _).trans playniteId_newApp) (marked_newApp.of_fields same) isLast
  rw [alike]
  exact and_iff_right uuid

theorem Sync.belongs_of_new (lawful : sync.env.Lawful) (selected : game ∈ sync.selected)
    (same : app.fields = (sync.newApp game).fields) : sync.Belongs app other ↔
      game.key = other.key := by
  obtain ⟨last, isLast⟩ := Sync.exists_last lawful selected
  have found : sync.match? app = some last := by
    refine Sync.match?_of_last lawful ?_
    rw [App.playniteId_of_fields same, playniteId_of_text? playniteId_newApp]
    exact isLast
  rw [Sync.Belongs, found]
  simp [(lastNamed?_some isLast).2.2]

/-! ## The purge of the second run -/

variable {env : Environment} {config : Config} {grounds : Grounds} {repl : Nat}

theorem fate_of_identity (same : app.identity = old.identity) :
    fate env config grounds repl app = fate env config grounds repl old := by
  have members := App.identity_eq_iff.mp same
  have auto : app.isAuto = old.isAuto := by
    rw [App.isAuto, App.text?_of_find? (members _ (by decide)), App.isAuto]
  have id : app.playniteId = old.playniteId := by
    rw [App.playniteId, App.text?_of_identity same, App.playniteId]
  have age : shouldTtlDelete env config grounds.lastPlayed app =
      shouldTtlDelete env config grounds.lastPlayed old := by
    unfold shouldTtlDelete
    rw [App.text?_of_find? (members "playnite-added-at" (by decide)), id]
  unfold fate
  rw [auto, id, age, App.text?_of_find? (members "playnite-source" (by decide))]

/-- Whether the library holds a selected game uninstalled, too. -/
def Sync.Withdrawn (sync : Sync) (game : Game) : Prop :=
  sync.config.removeUninstalled = true ∧ game.key ∈ sync.uninstalledLower

theorem Sync.fate_of_selected (selected : game ∈ sync.selected) (auto : app.isAuto = true)
    (named : game.key ≠ "") (key : playniteIdKey app.playniteId = game.key) :
    fate sync.env sync.config sync.grounds repl app = .kept ↔
      ¬ sync.Withdrawn game ∧
        shouldTtlDelete sync.env sync.config sync.grounds.lastPlayed app = false := by
  have carries : app.playniteId ≠ "" := fun empty =>
    named (key.symm.trans (playniteIdKey_eq_empty.mpr empty))
  have listed : game.key ∈ sync.grounds.selectedIds := List.mem_map_of_mem selected
  unfold fate Sync.Withdrawn
  dsimp only
  rw [key, if_pos (by simp [auto, carries])]
  split
  · next gone =>
      refine iff_of_false nofun fun ⟨present, young⟩ => present ?_
      rw [young, Bool.or_false, Bool.and_eq_true, List.contains_iff_mem] at gone
      exact gone
  · next stays =>
      rw [Bool.not_eq_true, Bool.or_eq_false_iff] at stays
      refine iff_of_true (by simp [listed]) ⟨fun gone => ?_, stays.2⟩
      have present := stays.1
      rw [gone.1, Bool.true_and, ← Bool.not_eq_true, List.contains_iff_mem] at present
      exact present gone.2

theorem Sync.Belongs.fate_iff (belongs : sync.Belongs app game) (lawful : sync.env.Lawful)
    (selected : game ∈ sync.selected) :
    fate sync.env sync.config sync.grounds repl (sync.refresh app) = .kept ↔
      ¬ sync.Withdrawn game ∧ ¬ sync.Expired app := by
  rw [Sync.fate_of_selected selected (belongs.auto lawful selected)
    (Sync.key_ne_of_selected lawful selected) belongs.sameKey, Sync.Expired, Bool.not_eq_true]

theorem Sync.Holds.stays (holds : sync.Holds app game) (lawful : sync.env.Lawful)
    (selected : game ∈ sync.selected) (present : ¬ sync.Withdrawn game) : sync.Stays app :=
  fun _ => (holds.1.fate_iff lawful selected).mpr ⟨present, holds.2⟩

theorem Sync.refresh_mem_kept (member : app ∈ sync.deduped) (stays : sync.Stays app) :
    sync.refresh app ∈ sync.kept := by
  classical
  have listed := sublist_kept sync.replacements fun (app : App) (_ : app ∈ sync.deduped) stays =>
    of_decide_eq_true (p := sync.Stays app) stays
  exact listed.subset
    (List.mem_map_of_mem (List.mem_filter.mpr ⟨member, decide_eq_true stays⟩))

/-- An entry of a selected game is left alone just by its age. -/
theorem Sync.Belongs.mem_kept_iff (belongs : sync.Belongs app game) (lawful : sync.env.Lawful)
    (selected : game ∈ sync.selected) (member : app ∈ sync.deduped)
    (present : ¬ sync.Withdrawn game) :
    sync.refresh app ∈ sync.kept ↔ sync.Holds app game := by
  constructor
  · intro kept
    obtain ⟨repl, isKept⟩ := fate_of_mem_kept kept
    exact ⟨belongs, ((belongs.fate_iff lawful selected).mp isKept).2⟩
  · exact fun holds => Sync.refresh_mem_kept member (holds.stays lawful selected present)

end UmbraHost.Playnite
