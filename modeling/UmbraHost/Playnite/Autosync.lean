import Mathlib.Data.List.Nodup
import UmbraHost.Playnite.Purge

/-! # Automatic membership

`autosync_reconcile` over a whole application list, and what its membership looks like
afterwards. -/

namespace UmbraHost.Playnite

open UmbraHost.Json

/-- The arguments of a synchronization, with the world around it. -/
structure Sync where
  env : Environment
  config : Config
  games : List Game
  apps : List App

namespace Sync

variable (sync : Sync)

def installed : List Game := sync.games.filter Game.installed

def uninstalledLower : List String :=
  (sync.games.filter fun game => !game.installed && game.id ≠ "").map Game.key

def selected : List Game := selectedGames sync.env sync.config sync.installed

def flags : Fields Nat := sourceFlags sync.env sync.config sync.installed

def indexes : Indexes := indexIds sync.games (buildGameIndexes sync.selected)

def deduped : List App := dedupeAutoApps [] (sync.apps.map ensureAppUuid)

def refresh (app : App) : App := refreshApp sync.env sync.indexes sync.flags app

/-- The game that the refreshing of an entry finds. -/
def match? (app : App) : Option Game := matchAppAgainstIndexes sync.indexes (ensureAppUuid app)

def matchedIds : List String := (sync.deduped.filterMap sync.match?).map Game.key

def grounds : Grounds where
  uninstalled := sync.uninstalledLower
  lastPlayed := lastPlayedMap sync.env sync.installed
  selectedIds := sync.selected.map Game.key

def replacements : Nat :=
  countReplacementsAvailable (currentAutoIds (sync.deduped.map sync.refresh))
    sync.grounds.selectedIds

/-- The refreshed entries with what becomes of each. -/
def purged : List (App × Fate) :=
  purgeApps sync.env sync.config sync.grounds sync.replacements (sync.deduped.map sync.refresh)

def kept : List App := (sync.purged.filter fun entry => entry.2 = .kept).map Prod.fst

def newApp (game : Game) : App :=
  let app := ensureAppUuid (applyGameMetadataToApp sync.env game ⟨[], ""⟩)
  let app := markAppAsPlayniteAuto ((List.lookup game.key sync.flags).getD 0) app
  (app.put "playnite-added-at" (.str (sync.env.nowIso8601Utc game))).put "exit-timeout" (.num 10)

/-- `add_missing_auto_entries`. -/
def added : List App :=
  (sync.selected.filter fun game => !sync.matchedIds.contains game.key).map sync.newApp

end Sync

/-- `autosync_reconcile`: the entries, whether any changed, and how many had a game. -/
structure Reconciled where
  apps : List App
  changed : Bool
  matched : Nat

def autosyncReconcile (manageMembership : Bool) (sync : Sync) : Reconciled :=
  let ensured := sync.apps.map ensureAppUuid
  let drawn := sync.apps.any fun app => (uuidDue app).isSome
  if manageMembership then
    let again := sync.deduped.any fun app => (uuidDue app).isSome
    let matched := (sync.deduped.filterMap sync.match?).length
    { apps := sync.kept ++ sync.added
      changed := drawn || decide (sync.deduped.length ≠ ensured.length) || again ||
        decide (matched ≠ 0) || decide (sync.kept.length ≠ sync.deduped.length) ||
        decide (sync.added ≠ [])
      matched }
  else
    let indexes := indexIds sync.games {}
    let found := ensured.filterMap fun app => matchAppAgainstIndexes indexes (ensureAppUuid app)
    { apps := ensured.map (refreshApp sync.env indexes [])
      changed := drawn || (ensured.any fun app => (uuidDue app).isSome) || decide (found ≠ [])
      matched := found.length }

/-! ## What is asked of the result -/

/-- The two entries are not both managed under identifiers equal up to case. -/
def Distinct (first second : App) : Prop :=
  first.isAuto = true → second.isAuto = true → ∀ id, first.text? "playnite-id" = some id →
    ∀ other, second.text? "playnite-id" = some other → playniteIdKey id ≠ playniteIdKey other

/-- The identifier stayed, or that of the game dictates it, or there was none. -/
def SameUuid (before after : App) : Prop :=
  after.find? "uuid" = before.find? "uuid" ∨
    before.playniteId ≠ "" ∧
      after.find? "uuid" = some (.str (canonicalPlayniteAppUuid before.playniteId)) ∨
    before.find? "uuid" ∈ [none, some .null, some (.str "")]

def Sync.refreshed (sync : Sync) (app : App) : App := sync.refresh (ensureAppUuid app)

structure Sync.Membership (sync : Sync) : Prop where
  /-- No two managed entries share a game. -/
  unique : (autosyncReconcile true sync).apps.Pairwise Distinct
  /-- Every entry that was not managed is still there. -/
  own : List.Sublist ((sync.apps.filter fun app => !app.isAuto).map sync.refreshed)
      (autosyncReconcile true sync).apps ∧
    ∀ app ∈ sync.apps, SameUuid app (sync.refreshed app)
  /-- The other entries were there before, or belong to games that may be added. -/
  added : ∃ old, (autosyncReconcile true sync).apps = old ++ sync.added ∧
    List.Sublist old (sync.deduped.map sync.refresh) ∧
    ∀ app ∈ sync.added, ∃ game, Chosen sync.env sync.config sync.installed game ∧
      game.installed = true ∧ sync.config.exclusions.excludes game = false ∧
      app.isAuto = true ∧ app.playniteId = game.id
  /-- Every selected game without an entry is added once. -/
  complete : ∀ game, Chosen sync.env sync.config sync.installed game →
    (∀ app ∈ sync.deduped, sync.match? app ≠ some game) →
      sync.added.countP (fun app => playniteIdKey app.playniteId = game.key) = 1
  /-- No more entries make room for a newer selection than are added. -/
  replaced : sync.purged.countP (fun entry => entry.2 = .replaced) ≤ sync.added.length

/-! ## When it holds -/

/-- The entry is that of a selected game. -/
def Sync.Claims (sync : Sync) (app : App) (game : Game) : Prop :=
  sync.match? app = some game ∧ game ∈ sync.selected

/-- The age of the refreshed entry takes it away. -/
def Sync.Expired (sync : Sync) (app : App) : Prop :=
  shouldTtlDelete sync.env sync.config sync.grounds.lastPlayed (sync.refresh app) = true

/-- The entry is managed under the empty identifier. -/
def Sync.Nameless (sync : Sync) (app : App) : Prop :=
  app.isAuto = true ∧ app.text? "playnite-id" = some "" ∧ sync.match? app = none

def Sync.Conflict (sync : Sync) (first second : App) : Prop :=
  (∃ game, sync.Claims first game ∧ sync.Claims second game ∧
    ¬ sync.Expired first ∧ ¬ sync.Expired second) ∨
  sync.Nameless first ∧ sync.Nameless second

structure Sync.Clear (sync : Sync) : Prop where
  /-- At most one entry that is not too old belongs to each selected game. -/
  unique : sync.deduped.Pairwise fun first second => ¬ sync.Conflict first second
  /-- No entry that was not managed and belongs to a selected game is too old. -/
  own : ∀ app ∈ sync.deduped, app.isAuto = false → ∀ game, sync.Claims app game →
    ¬ sync.Expired app

/-! ## Refreshed entries -/

/-- The library names every game, no two of them alike. -/
structure Sync.Lawful (sync : Sync) : Prop where
  env : sync.env.Lawful
  named : ∀ game ∈ sync.games, game.id ≠ ""
  distinct : (sync.games.map Game.key).Nodup

variable {sync : Sync} {app : App} {game other : Game}

theorem Sync.Lawful.game_eq (lawful : sync.Lawful) (member : game ∈ sync.games)
    (otherMember : other ∈ sync.games) (same : game.key = other.key) : game = other :=
  List.inj_on_of_nodup_map lawful.distinct member otherMember same

theorem mem_installed (member : game ∈ sync.installed) :
    game ∈ sync.games ∧ game.installed = true := List.mem_filter.mp member

theorem Sync.Lawful.selected_installed (lawful : sync.Lawful) (member : game ∈ sync.selected) :
    game ∈ sync.games ∧ game.installed = true :=
  mem_installed ((mem_selectedGames lawful.env member).included lawful.env).1

theorem Sync.Lawful.within (lawful : sync.Lawful) :
    sync.indexes.Within sync.selected sync.games :=
  within_indexIds (within_buildGameIndexes fun _ member => (lawful.selected_installed member).1)

/-- The games with flags are the selected ones. -/
theorem Sync.Lawful.flags_iff (lawful : sync.Lawful) (member : game ∈ sync.games) :
    (List.lookup game.key sync.flags).isSome = true ↔ game ∈ sync.selected := by
  have named : ∀ game ∈ sync.installed, game.id ≠ "" := fun game member =>
    lawful.named game (mem_installed member).1
  rw [Sync.flags, Playnite.flags_iff named lawful.env]
  constructor
  · rintro ⟨chosen, isChosen, same⟩
    have listed := mem_installed (isChosen.included lawful.env).1
    obtain ⟨other, selected, sameKey⟩ := isChosen.selected lawful.env (lawful.named _ listed.1)
    have equal := lawful.game_eq (lawful.selected_installed selected).1 member (sameKey.trans same)
    exact equal ▸ selected
  · intro selected
    exact ⟨game, mem_selectedGames lawful.env selected, rfl⟩

theorem text?_ensureAppUuid {name : String} (different : name ≠ "uuid") :
    (ensureAppUuid app).text? name = app.text? name :=
  App.text?_of_find? (find?_ensureAppUuid different)

theorem isAuto_ensureAppUuid : (ensureAppUuid app).isAuto = app.isAuto := by
  rw [App.isAuto, text?_ensureAppUuid (by decide), App.isAuto]

theorem playniteId_ensureAppUuid : (ensureAppUuid app).playniteId = app.playniteId := by
  rw [App.playniteId, text?_ensureAppUuid (by decide), App.playniteId]

theorem refresh_of_none (none : sync.match? app = none) : sync.refresh app = ensureAppUuid app := by
  rw [Sync.match?] at none
  rw [Sync.refresh, refreshApp]
  dsimp only
  rw [none]

/-- A refreshed entry carries the identifier of its game, and is managed when the game is
selected. -/
theorem refresh_of_some (found : sync.match? app = some game) :
    (sync.refresh app).text? "playnite-id" = some game.id ∧
      (sync.refresh app).isAuto = ((List.lookup game.key sync.flags).isSome || app.isAuto) := by
  rw [Sync.match?] at found
  rw [Sync.refresh, refreshApp]
  dsimp only
  rw [found]
  dsimp only
  have id : (applyGameMetadataToApp sync.env game (ensureAppUuid app)).find? "playnite-id" =
      some (.str game.id) := by
    rw [find?_applyGameMetadata (by decide), if_pos rfl]
  have auto : (applyGameMetadataToApp sync.env game (ensureAppUuid app)).isAuto = app.isAuto := by
    rw [App.isAuto, App.text?, find?_applyGameMetadata (by decide), if_neg (by decide),
      find?_ensureAppUuid (by decide)]
    rfl
  cases List.lookup game.key sync.flags with
  | none => exact ⟨by rw [App.text?, id], by rw [auto]; rfl⟩
  | some flags =>
      refine ⟨?_, isAuto_markAppAsPlayniteAuto⟩
      rw [App.text?, find?_markAppAsPlayniteAuto (by decide) (by decide), id]

theorem playniteId_of_some (found : sync.match? app = some game) :
    (sync.refresh app).playniteId = game.id := by
  rw [App.playniteId, (refresh_of_some found).1, Option.getD_some]

end UmbraHost.Playnite
