import UmbraHost.Playnite.Membership

/-! # What a synchronization leaves as it is

The members of an entry by which clients and later runs know it, and the lists of entries that
one run of `autosync_reconcile` leaves unmoved.  The library is any list of games: several may
have one identifier, and some none. -/

namespace UmbraHost.Playnite

open UmbraHost.Json

def identityNames : List String :=
  ["uuid", "playnite-id", "playnite-managed", "playnite-source", "playnite-added-at"]

def App.identity (app : App) : List (Option Value) := identityNames.map app.find?

variable {app : App} {game : Game} {games selected : List Game} {key : String}

theorem App.identity_eq_iff {other : App} :
    app.identity = other.identity ↔ ∀ name ∈ identityNames, app.find? name = other.find? name :=
  List.map_inj_left

/-! ## Letters -/

theorem toUpper_toLower (char : Char) : char.toLower.toUpper = char.toUpper := by
  apply Char.ext
  unfold Char.toUpper Char.toLower
  split <;> split <;> simp_all <;> grind

theorem canonical_of_key (id : String) :
    canonicalPlayniteAppUuid (playniteIdKey id) = canonicalPlayniteAppUuid id := by
  rw [canonicalPlayniteAppUuid, playniteIdKey, toLowerCopy, canonicalPlayniteAppUuid,
    ← String.toList_inj, String.toList_map, String.toList_map, String.toList_map, List.map_map]
  exact List.map_congr_left fun char _ => toUpper_toLower char

/-- Identifiers equal up to case give one `uuid`. -/
theorem canonical_of_same_key {id other : String} (same : playniteIdKey id = playniteIdKey other) :
    canonicalPlayniteAppUuid id = canonicalPlayniteAppUuid other := by
  rw [← canonical_of_key id, same, canonical_of_key]

/-! ## The library -/

/-- The last game with the identifier; the index of identifiers keeps that one. -/
def lastNamed? (games : List Game) (key : String) : Option Game :=
  games.reverse.find? fun game => game.id ≠ "" && game.key = key

theorem lastNamed?_some (last : lastNamed? games key = some game) :
    game ∈ games ∧ game.id ≠ "" ∧ game.key = key := by
  have test := List.find?_some last
  rw [Bool.and_eq_true, decide_eq_true_eq, decide_eq_true_eq] at test
  exact ⟨List.mem_reverse.mp (List.mem_of_find?_eq_some last), test⟩

theorem exists_lastNamed? (member : game ∈ games) (named : game.id ≠ "") :
    ∃ last, lastNamed? games game.key = some last := by
  refine Option.isSome_iff_exists.mp (List.find?_isSome.mpr ⟨game, List.mem_reverse.mpr member, ?_⟩)
  simpa using named

theorem lastNamed?_nameless : lastNamed? games (playniteIdKey "") = none := by
  cases last : lastNamed? games (playniteIdKey "") with
  | none => rfl
  | some game =>
      obtain ⟨-, named, same⟩ := lastNamed?_some last
      exact absurd rfl (named_of_same_key same.symm named)

theorem lookup_foldl_id (byId : Fields Game) : List.lookup key (games.foldl
      (fun byId game => if game.id ≠ "" then Fields.put game.key game byId else byId) byId) =
    (lastNamed? games key).or (List.lookup key byId) := by
  induction games generalizing byId with
  | nil => rfl
  | cons first rest ih =>
      rw [List.foldl_cons, ih, lastNamed?, lastNamed?, List.reverse_cons, List.find?_append,
        Option.or_assoc]
      congr 1
      by_cases named : first.id = ""
      · simp [named]
      · rw [if_pos named]
        by_cases same : first.key = key
        · subst same
          simp [named]
        · simp [same, Fields.lookup_put_of_ne (Ne.symm same)]

theorem byId_indexName (indexes : Indexes) : (indexName indexes game).byId = indexes.byId := by
  unfold indexName
  dsimp only
  split
  · rfl
  · split <;> rfl

theorem byId_buildGameIndexes (selected : List Game) :
    (buildGameIndexes selected).byId = selected.foldl
      (fun byId game => if game.id ≠ "" then Fields.put game.key game byId else byId) [] := by
  have general : ∀ indexes : Indexes, (selected.foldl indexGame indexes).byId = selected.foldl
      (fun byId game => if game.id ≠ "" then Fields.put game.key game byId else byId)
      indexes.byId := by
    induction selected with
    | nil => exact fun _ => rfl
    | cons first rest ih =>
        intro indexes
        rw [List.foldl_cons, ih, List.foldl_cons, indexGame, byId_indexName]
  exact general {}

theorem lookup_byId (subset : selected ⊆ games) :
    List.lookup key (indexIds games (buildGameIndexes selected)).byId = lastNamed? games key := by
  rw [indexIds_byId, lookup_foldl_id, byId_buildGameIndexes, lookup_foldl_id]
  cases last : lastNamed? games key with
  | some game => rfl
  | none =>
      cases chosen : lastNamed? selected key with
      | none => rfl
      | some game =>
          obtain ⟨member, named, rfl⟩ := lastNamed?_some chosen
          obtain ⟨other, found⟩ := exists_lastNamed? (subset member) named
          cases found.symm.trans last

/-! ## The selection -/

variable {env : Environment} {config : Config} {installed : List Game}

theorem named_of_mem_merged {merged : List Game} (old : ∀ game ∈ merged, game.id ≠ "")
    (member : game ∈ games.foldl mergeGame merged) : game.id ≠ "" := by
  induction games generalizing merged with
  | nil => exact old game member
  | cons first rest ih =>
      refine ih (fun other listed => ?_) member
      unfold mergeGame at listed
      split at listed
      · exact old other listed
      · next unseen =>
          rcases List.mem_append.mp listed with before | new
          · exact old other before
          · cases List.mem_singleton.mp new
            simp only [Bool.or_eq_true, decide_eq_true_eq, not_or] at unseen
            exact unseen.1

theorem named_of_mem_selectedGames (lawful : env.Lawful)
    (member : game ∈ selectedGames env config installed) : game.id ≠ "" := by
  rw [selectedGames, (lawful.hashOrder _).mem_iff] at member
  exact named_of_mem_merged (fun _ none => absurd none List.not_mem_nil) member

/-- The identifiers with flags are those of the selected games. -/
theorem isSome_flags (lawful : env.Lawful) (named : key ≠ "") :
    (List.lookup key (sourceFlags env config installed)).isSome = true ↔
      ∃ game ∈ selectedGames env config installed, game.key = key := by
  rw [sourceFlags, isSome_lookup_sourceFlags]
  constructor
  · intro flagged
    rcases flagged with none | ⟨source, found, game, member, same⟩
    · cases none
    · have carries : game.id ≠ "" := by
        rw [← same] at named
        exact playniteIdKey_eq_empty.not.mp named
      have chosen : Chosen env config installed game :=
        ⟨source, found, mem_of_mem_flagged member⟩
      obtain ⟨other, selected, sameKey⟩ := chosen.selected lawful carries
      exact ⟨other, selected, sameKey.trans same⟩
  · intro kept
    obtain ⟨game, selected, same⟩ := kept
    obtain ⟨source, found, member⟩ := mem_selectedGames lawful selected
    have carries := named_of_mem_selectedGames lawful selected
    exact .inr ⟨source, found, game, mem_flagged carries member, same⟩

/-! ## Matching -/

/-- Identifiers are looked up in the whole library, and everything else among the selected games. -/
structure Indexes.Finds (indexes : Indexes) (selected games : List Game) : Prop where
  byId : ∀ key, List.lookup key indexes.byId = lastNamed? games key
  within : indexes.Within selected games

theorem finds_indexIds (subset : selected ⊆ games) :
    (indexIds games (buildGameIndexes selected)).Finds selected games :=
  ⟨fun _ => lookup_byId subset, within_indexIds (within_buildGameIndexes subset)⟩

variable {indexes : Indexes} {flags : Fields Nat}

theorem match_ensureAppUuid :
    matchAppAgainstIndexes indexes (ensureAppUuid app) = matchAppAgainstIndexes indexes app := by
  unfold matchAppAgainstIndexes
  dsimp only
  rw [text?_ensureAppUuid (by decide), text?_ensureAppUuid (by decide),
    text?_ensureAppUuid (by decide), text?_ensureAppUuid (by decide)]

/-- The identifier goes first. -/
theorem Indexes.Finds.match_of_last (finds : indexes.Finds selected games)
    (last : lastNamed? games (playniteIdKey app.playniteId) = some game) :
    matchAppAgainstIndexes indexes app = some game := by
  unfold matchAppAgainstIndexes
  unfold App.playniteId at last
  cases text : app.text? "playnite-id" with
  | none =>
      rw [text, Option.getD_none] at last
      cases last.symm.trans lastNamed?_nameless
  | some id =>
      rw [text, Option.getD_some] at last
      dsimp only
      rw [text, Option.bind_some, finds.byId, last, Option.some_or]

theorem Indexes.Finds.match_cases (finds : indexes.Finds selected games)
    (found : matchAppAgainstIndexes indexes app = some game) :
    lastNamed? games (playniteIdKey app.playniteId) = some game ∨
      lastNamed? games (playniteIdKey app.playniteId) = none ∧ game ∈ selected := by
  cases last : lastNamed? games (playniteIdKey app.playniteId) with
  | some other => exact .inl ((finds.match_of_last last).symm.trans found)
  | none =>
      refine .inr ⟨rfl, (byId_or_selected finds.within found).resolve_left fun byId => ?_⟩
      obtain ⟨id, carries, looked⟩ := Option.bind_eq_some_iff.mp byId
      rw [finds.byId] at looked
      rw [App.playniteId, carries, Option.getD_some, looked] at last
      cases last

/-! ## Refreshing twice -/

theorem find?_refreshApp_of_some {name : String} (foreign : name ∉ metadataNames)
    (found : matchAppAgainstIndexes indexes app = some game) :
    (refreshApp env indexes flags app).find? name =
      if name = "playnite-id" then some (.str game.id)
      else if name = "playnite-managed" ∧ (List.lookup game.key flags).isSome = true then
        some (.str "auto")
      else if name = "playnite-source" ∧ (List.lookup game.key flags).isSome = true then
        (List.lookup game.key flags).map fun flags => .str (composeSourceLabel flags)
      else (ensureAppUuid app).find? name := by
  rw [refreshApp]
  dsimp only
  rw [match_ensureAppUuid, found]
  dsimp only
  cases marked : List.lookup game.key flags with
  | none =>
      dsimp only
      rw [find?_applyGameMetadata foreign]
      simp
  | some marks =>
      dsimp only
      by_cases managed : name = "playnite-managed"
      · subst managed
        rw [markAppAsPlayniteAuto, App.find?_put_self, if_neg (by decide), if_pos (by simp)]
      · by_cases source : name = "playnite-source"
        · subst source
          rw [markAppAsPlayniteAuto, App.find?_put_of_ne (by decide), App.find?_put_self,
            if_neg (by decide), if_neg (by simp), if_pos (by simp)]
          rfl
        · rw [find?_markAppAsPlayniteAuto source managed, find?_applyGameMetadata foreign]
          simp [managed, source]

theorem refreshApp_of_none (unmatched : matchAppAgainstIndexes indexes app = none) :
    refreshApp env indexes flags app = ensureAppUuid app := by
  rw [refreshApp]
  dsimp only
  rw [match_ensureAppUuid, unmatched]

theorem ensureAppUuid_of_none (settled : uuidDue app = none) : ensureAppUuid app = app := by
  rw [ensureAppUuid, settled]

theorem not_metadata {name : String} (listed : name ∈ identityNames) : name ∉ metadataNames := by
  revert name
  decide

theorem find?_of_text? {name text : String} (carries : app.text? name = some text) :
    app.find? name = some (.str text) := by
  unfold App.text? at carries
  split at carries
  · next found => rw [found, Option.some.inj carries]
  · cases carries

/-- The entry carries what marking it for the game would write. -/
def Marked (flags : Fields Nat) (game : Game) (app : App) : Prop :=
  ∀ marks, List.lookup game.key flags = some marks →
    app.find? "playnite-managed" = some (.str "auto") ∧
      app.find? "playnite-source" = some (.str (composeSourceLabel marks))

/-- An entry with the identifier of a game keeps its identity if its `uuid` is that of the game and
the library spells the identifier the same. -/
theorem identity_refreshApp_iff {last : Game} (finds : indexes.Finds selected games)
    (carries : app.text? "playnite-id" = some game.id) (marked : Marked flags game app)
    (found : lastNamed? games game.key = some last) :
    (refreshApp env indexes flags (ensureAppUuid app)).identity = app.identity ↔
      app.find? "uuid" = some (.str (canonicalPlayniteAppUuid game.id)) ∧ last.id = game.id := by
  have id : app.playniteId = game.id := playniteId_of_text? carries
  obtain ⟨-, lastNamed, same⟩ := lastNamed?_some found
  have named : game.id ≠ "" := named_of_same_key same.symm lastNamed
  have matched : matchAppAgainstIndexes indexes (ensureAppUuid app) = some last := by
    rw [match_ensureAppUuid]
    exact finds.match_of_last (by rw [id]; exact found)
  have uuid : (ensureAppUuid (ensureAppUuid app)).find? "uuid" =
      some (.str (canonicalPlayniteAppUuid game.id)) := by
    rw [uuid_ensureAppUuid (by rw [playniteId_ensureAppUuid, id]; exact named),
      playniteId_ensureAppUuid, id]
  have refreshedUuid : (refreshApp env indexes flags (ensureAppUuid app)).find? "uuid" =
      some (.str (canonicalPlayniteAppUuid game.id)) := by
    rw [find?_refreshApp_of_some (by decide) matched]
    simpa using uuid
  have refreshedId : (refreshApp env indexes flags (ensureAppUuid app)).find? "playnite-id" =
      some (.str last.id) := by
    rw [find?_refreshApp_of_some (by decide) matched, if_pos rfl]
  have carried : app.find? "playnite-id" = some (.str game.id) := find?_of_text? carries
  rw [App.identity_eq_iff]
  constructor
  · intro alike
    refine ⟨(alike "uuid" (by decide)).symm.trans refreshedUuid, ?_⟩
    have here := refreshedId.symm.trans ((alike "playnite-id" (by decide)).trans carried)
    exact Value.str.inj (Option.some.inj here)
  · intro ⟨own, spelled⟩ name listed
    by_cases isUuid : name = "uuid"
    · subst isUuid
      exact refreshedUuid.trans own.symm
    by_cases isId : name = "playnite-id"
    · subst isId
      rw [refreshedId, spelled, carried]
    rw [find?_refreshApp_of_some (not_metadata listed) matched, if_neg isId,
      find?_ensureAppUuid isUuid, find?_ensureAppUuid isUuid, same]
    cases written : List.lookup game.key flags with
    | none => simp
    | some marks =>
        obtain ⟨managed, source⟩ := marked marks written
        split
        · next isManaged => rw [isManaged.1, managed]
        · split
          · next isSource => rw [isSource.1, source]; rfl
          · rfl

theorem marked_refreshApp {other : Game} (found : matchAppAgainstIndexes indexes app = some other)
    (same : other.key = game.key) : Marked flags game (refreshApp env indexes flags app) := by
  intro marks written
  rw [← same] at written
  constructor
  · rw [find?_refreshApp_of_some (by decide) found, written]
    rfl
  · rw [find?_refreshApp_of_some (by decide) found, written]
    rfl

/-! ## Lists that stay as they are -/

/-- The entry is that of the game, or of another one with its identifier. -/
def Sync.Belongs (sync : Sync) (app : App) (game : Game) : Prop :=
  ∃ other, sync.match? app = some other ∧ other.key = game.key

structure Sync.Unmoved (sync : Sync) : Prop where
  apart : sync.apps.Pairwise Apart
  kept : ∀ app ∈ sync.apps, fate sync.env sync.config sync.grounds 0 (sync.refreshed app) = .kept
  complete : ∀ game ∈ sync.selected, ∃ app ∈ sync.apps, sync.Belongs app game
  alike : ∀ app ∈ sync.apps, (sync.refreshed app).identity = app.identity

variable {sync : Sync}

theorem Sync.match?_eq : sync.match? app = matchAppAgainstIndexes sync.indexes app :=
  match_ensureAppUuid

theorem Sync.match?_ensureAppUuid : sync.match? (ensureAppUuid app) = sync.match? app := by
  rw [Sync.match?_eq, match_ensureAppUuid, ← Sync.match?_eq]

theorem Sync.selected_subset (lawful : sync.env.Lawful) : sync.selected ⊆ sync.games :=
  fun _ member => (mem_installed ((mem_selectedGames lawful member).included lawful).1).1

theorem Sync.finds (lawful : sync.env.Lawful) : sync.indexes.Finds sync.selected sync.games :=
  finds_indexIds (Sync.selected_subset lawful)

theorem sublist_dedupe (seen : List String) (apps : List App) :
    List.Sublist (dedupeAutoApps seen apps) apps := by
  induction apps generalizing seen with
  | nil => exact List.Sublist.refl _
  | cons first rest ih =>
      unfold dedupeAutoApps
      split
      · exact (ih seen).cons_cons _
      · split
        · exact (ih seen).cons _
        · exact (ih _).cons_cons _

theorem dedupe_of_apart {apps : List App} {seen : List String} (apart : apps.Pairwise Apart)
    (unseen : ∀ app ∈ apps, app.isAuto = true → playniteIdKey app.playniteId ∉ seen) :
    dedupeAutoApps seen apps = apps := by
  induction apps generalizing seen with
  | nil => rfl
  | cons first rest ih =>
      obtain ⟨firstApart, restApart⟩ := List.pairwise_cons.mp apart
      have later := fun app (member : app ∈ rest) => unseen app (List.mem_cons_of_mem _ member)
      unfold dedupeAutoApps
      split
      · rw [ih restApart later]
      · next managed =>
          simp only [Bool.or_eq_true, Bool.not_eq_true', decide_eq_true_eq, not_or,
            Bool.not_eq_false] at managed
          have new := unseen first List.mem_cons_self managed.1
          rw [if_neg (by simpa using new), ih restApart]
          intro app member auto seenAgain
          rcases List.mem_cons.mp seenAgain with same | before
          · exact firstApart app member managed.1 auto managed.2 same.symm
          · exact later app member auto before

/-- What the deduplication drops is there under the same identifier. -/
theorem exists_mem_dedupe {apps : List App} (seen : List String) (member : app ∈ apps) :
    playniteIdKey app.playniteId ∈ seen ∨
      ∃ other ∈ dedupeAutoApps seen apps,
        playniteIdKey other.playniteId = playniteIdKey app.playniteId := by
  induction apps generalizing seen with
  | nil => cases member
  | cons first rest ih =>
      unfold dedupeAutoApps
      split
      · rcases List.mem_cons.mp member with rfl | later
        · exact .inr ⟨_, List.mem_cons_self, rfl⟩
        · refine (ih seen later).imp_right fun found => ?_
          obtain ⟨other, kept, same⟩ := found
          exact ⟨other, List.mem_cons_of_mem _ kept, same⟩
      · split
        · next known =>
            rcases List.mem_cons.mp member with rfl | later
            · exact .inl (by simpa using known)
            · exact ih seen later
        · rcases List.mem_cons.mp member with rfl | later
          · exact .inr ⟨_, List.mem_cons_self, rfl⟩
          · rcases ih (playniteIdKey first.playniteId :: seen) later with
              known | ⟨other, kept, same⟩
            · rcases List.mem_cons.mp known with same | before
              · exact .inr ⟨first, List.mem_cons_self, same.symm⟩
              · exact .inl before
            · exact .inr ⟨other, List.mem_cons_of_mem _ kept, same⟩

theorem apart_ensureAppUuid {first second : App} :
    Apart (ensureAppUuid first) (ensureAppUuid second) ↔ Apart first second := by
  simp only [Apart, isAuto_ensureAppUuid, playniteId_ensureAppUuid]

/-! ## Purges that take nothing -/

variable {grounds : Grounds} {repl : Nat}

theorem fate_zero (kept : fate env config grounds repl app = .kept) :
    fate env config grounds 0 app = .kept := by
  revert kept
  unfold fate
  dsimp only
  split
  · split
    · nofun
    · split
      · nofun
      · intro _
        rw [if_neg (by simp)]
  · exact fun _ => rfl

theorem purge_of_kept {apps : List App}
    (kept : ∀ app ∈ apps, fate env config grounds 0 app = .kept) :
    ((purgeApps env config grounds 0 apps).filter fun entry => entry.2 = .kept).map Prod.fst =
      apps := by
  induction apps with
  | nil => rfl
  | cons first rest ih =>
      have head := kept first List.mem_cons_self
      rw [purgeApps, head, if_neg (by decide), List.filter_cons_of_pos rfl, List.map_cons,
        ih fun app member => kept app (List.mem_cons_of_mem _ member)]

theorem Sync.fate_of_length (whole : sync.kept.length = sync.deduped.length)
    (member : app ∈ sync.deduped) :
    fate sync.env sync.config sync.grounds 0 (sync.refresh app) = .kept := by
  have length : sync.purged.length = sync.deduped.length := by
    rw [← List.length_map Prod.fst, map_fst_purged, List.length_map]
  rw [Sync.kept, List.length_map, ← length, List.length_filter_eq_length_iff] at whole
  have listed : sync.refresh app ∈ sync.purged.map Prod.fst := by
    rw [map_fst_purged]
    exact List.mem_map_of_mem member
  obtain ⟨entry, here, same⟩ := List.mem_map.mp listed
  obtain ⟨left, isFate⟩ := fate_of_mem here
  have kept : entry.2 = .kept := of_decide_eq_true (whole entry here)
  rw [← same]
  exact fate_zero (isFate.symm.trans kept)

/-! ## Entries of the selected games -/

theorem Sync.named_of_selected (lawful : sync.env.Lawful) (selected : game ∈ sync.selected) :
    game.id ≠ "" :=
  named_of_mem_selectedGames lawful selected

theorem Sync.key_ne_of_selected (lawful : sync.env.Lawful) (selected : game ∈ sync.selected) :
    game.key ≠ "" := playniteIdKey_eq_empty.not.mpr (Sync.named_of_selected lawful selected)

theorem Sync.exists_last (lawful : sync.env.Lawful) (selected : game ∈ sync.selected) :
    ∃ last, lastNamed? sync.games game.key = some last :=
  exists_lastNamed? (Sync.selected_subset lawful selected)
    (Sync.named_of_selected lawful selected)

theorem Sync.Belongs.sameKey (belongs : sync.Belongs app game) :
    playniteIdKey (sync.refresh app).playniteId = game.key := by
  obtain ⟨other, found, same⟩ := belongs
  rw [playniteId_of_some found]
  exact same

theorem Sync.Belongs.auto (belongs : sync.Belongs app game) (lawful : sync.env.Lawful)
    (selected : game ∈ sync.selected) : (sync.refresh app).isAuto = true := by
  obtain ⟨other, found, same⟩ := belongs
  have flagged : (List.lookup other.key sync.flags).isSome = true := by
    rw [same]
    exact (isSome_flags lawful (Sync.key_ne_of_selected lawful selected)).mpr ⟨game, selected, rfl⟩
  rw [(refresh_of_some found).2, flagged, Bool.true_or]

theorem Sync.Belongs.named (belongs : sync.Belongs app game) (lawful : sync.env.Lawful)
    (selected : game ∈ sync.selected) : (sync.refresh app).playniteId ≠ "" :=
  named_of_same_key belongs.sameKey (Sync.named_of_selected lawful selected)

theorem Sync.Belongs.mem_currentAutoIds (belongs : sync.Belongs app game)
    (lawful : sync.env.Lawful) (selected : game ∈ sync.selected) (member : app ∈ sync.deduped) :
    game.key ∈ currentAutoIds (sync.deduped.map sync.refresh) := by
  refine List.mem_map.mpr ⟨sync.refresh app, List.mem_filter.mpr ⟨List.mem_map_of_mem member, ?_⟩,
    belongs.sameKey⟩
  rw [belongs.auto lawful selected, Bool.true_and]
  exact decide_eq_true (belongs.named lawful selected)

theorem Sync.Belongs.mem_matchedIds (belongs : sync.Belongs app game)
    (member : app ∈ sync.deduped) : game.key ∈ sync.matchedIds := by
  obtain ⟨other, found, same⟩ := belongs
  rw [← same]
  exact Playnite.mem_matchedIds member found

theorem Sync.exists_of_matchedIds (matched : game.key ∈ sync.matchedIds) :
    ∃ app ∈ sync.deduped, sync.Belongs app game := by
  obtain ⟨other, listed, same⟩ := List.mem_map.mp matched
  obtain ⟨app, member, found⟩ := List.mem_filterMap.mp listed
  exact ⟨app, member, other, found, same⟩

theorem Sync.added_eq_nil_iff :
    sync.added = [] ↔ ∀ game ∈ sync.selected, game.key ∈ sync.matchedIds := by
  rw [Sync.added, List.map_eq_nil_iff, List.filter_eq_nil_iff]
  simp

theorem Sync.belongs_ensureAppUuid : sync.Belongs (ensureAppUuid app) game ↔
    sync.Belongs app game := by
  rw [Sync.Belongs, Sync.match?_ensureAppUuid, Sync.Belongs]

/-! ## One run -/

theorem Sync.Unmoved.deduped (unmoved : sync.Unmoved) :
    sync.deduped = sync.apps.map ensureAppUuid := by
  refine dedupe_of_apart (List.pairwise_map.mpr ?_) fun _ _ _ => List.not_mem_nil
  exact unmoved.apart.imp apart_ensureAppUuid.mpr

theorem Sync.Unmoved.apps_eq (unmoved : sync.Unmoved) (lawful : sync.env.Lawful) :
    (autosyncReconcile true sync).apps = sync.apps.map sync.refreshed := by
  have belongs : ∀ game ∈ sync.selected, ∃ app ∈ sync.deduped, sync.Belongs app game := by
    intro game selected
    obtain ⟨app, member, belongs⟩ := unmoved.complete game selected
    rw [unmoved.deduped]
    exact ⟨_, List.mem_map_of_mem member, Sync.belongs_ensureAppUuid.mpr belongs⟩
  have added : sync.added = [] := Sync.added_eq_nil_iff.mpr fun game selected =>
    have ⟨app, member, here⟩ := belongs game selected
    here.mem_matchedIds member
  have none : sync.replacements = 0 := by
    rw [Sync.replacements, countReplacementsAvailable, List.length_eq_zero_iff,
      List.filter_eq_nil_iff]
    intro id listed
    obtain ⟨game, selected, rfl⟩ := List.mem_map.mp listed
    obtain ⟨app, member, here⟩ := belongs game selected
    simpa using here.mem_currentAutoIds lawful selected member
  have kept : sync.kept = sync.apps.map sync.refreshed := by
    rw [Sync.kept, Sync.purged, none, purge_of_kept, unmoved.deduped, List.map_map]
    · rfl
    · intro app member
      rw [unmoved.deduped, List.map_map] at member
      obtain ⟨old, listed, rfl⟩ := List.mem_map.mp member
      exact unmoved.kept old listed
  change sync.kept ++ sync.added = _
  rw [kept, added, List.append_nil]

theorem App.text?_of_identity {other : App} (same : app.identity = other.identity) :
    app.text? "playnite-id" = other.text? "playnite-id" :=
  App.text?_of_find? (App.identity_eq_iff.mp same "playnite-id" (by decide))

/-- A run that adds an entry ends its list with the identifier of a game that had none. -/
theorem Sync.added_of_same (lawful : sync.env.Lawful)
    (same : (autosyncReconcile true sync).apps.map App.identity = sync.apps.map App.identity) :
    sync.added = [] := by
  rcases List.eq_nil_or_concat' sync.added with none | ⟨before, new, added⟩
  · exact none
  have isNew : new ∈ sync.added := by
    rw [added]
    exact List.mem_concat_self
  have listed : new.identity ∈ sync.apps.map App.identity := by
    rw [← same]
    exact List.mem_map_of_mem (List.mem_append_right _ isNew)
  obtain ⟨old, member, alike⟩ := List.mem_map.mp listed
  obtain ⟨game, selected, unmatched, rfl⟩ := mem_added isNew
  have carries : old.playniteId = game.id :=
    playniteId_of_text? ((App.text?_of_identity alike).trans playniteId_newApp)
  obtain ⟨last, found⟩ := Sync.exists_last lawful selected
  rcases exists_mem_dedupe [] (List.mem_map_of_mem (f := ensureAppUuid) member) with
    none | ⟨other, kept, sameKey⟩
  · cases none
  rw [playniteId_ensureAppUuid, carries] at sameKey
  have matched : sync.match? other = some last := by
    rw [Sync.match?_eq]
    exact (Sync.finds lawful).match_of_last (by rw [sameKey]; exact found)
  have belongs : sync.Belongs other game := ⟨last, matched, (lastNamed?_some found).2.2⟩
  exact absurd (belongs.mem_matchedIds kept) unmatched

/-- The lists whose entries one run leaves in place, each with its identity. -/
theorem Sync.unmoved_iff (sync : Sync) (lawful : sync.env.Lawful) :
    (autosyncReconcile true sync).apps.map App.identity = sync.apps.map App.identity ↔
      sync.Unmoved := by
  constructor
  · intro same
    have added := Sync.added_of_same lawful same
    have result : (autosyncReconcile true sync).apps = sync.kept := by
      change sync.kept ++ sync.added = _
      rw [added, List.append_nil]
    rw [result] at same
    have lengths : sync.kept.length = sync.apps.length := by
      simpa using congrArg List.length same
    have keptLe : sync.kept.length ≤ sync.deduped.length := by
      simpa using (@sublist_of_kept sync).length_le
    have dedupedSub : List.Sublist sync.deduped (sync.apps.map ensureAppUuid) :=
      sublist_dedupe [] _
    have dedupedLe : sync.deduped.length ≤ sync.apps.length := by
      simpa using dedupedSub.length_le
    have deduped : sync.deduped = sync.apps.map ensureAppUuid :=
      dedupedSub.eq_of_length (by rw [List.length_map]; omega)
    have kept : sync.kept = sync.apps.map sync.refreshed := by
      rw [sublist_of_kept.eq_of_length (by rw [List.length_map]; omega), deduped, List.map_map]
      rfl
    have inDeduped : ∀ app ∈ sync.apps, ensureAppUuid app ∈ sync.deduped := fun app member =>
      deduped ▸ List.mem_map_of_mem member
    constructor
    · have apart : (sync.apps.map ensureAppUuid).Pairwise Apart := deduped ▸ pairwise_dedupe [] _
      exact (List.pairwise_map.mp apart).imp apart_ensureAppUuid.mp
    · exact fun app member => Sync.fate_of_length (by omega) (inDeduped app member)
    · intro game selected
      obtain ⟨app, member, belongs⟩ :=
        Sync.exists_of_matchedIds (Sync.added_eq_nil_iff.mp added game selected)
      rw [deduped] at member
      obtain ⟨old, listed, rfl⟩ := List.mem_map.mp member
      exact ⟨old, listed, Sync.belongs_ensureAppUuid.mp belongs⟩
    · rw [kept, List.map_map] at same
      exact List.map_inj_left.mp same
  · intro unmoved
    rw [unmoved.apps_eq lawful, List.map_map]
    exact List.map_congr_left unmoved.alike

end UmbraHost.Playnite
