import UmbraHost.Playnite.Apps

/-! # The stages of a synchronization

Duplicates go first, then every entry is refreshed from its game, and then the entries that
their age, their source or a newer selection rules out are taken away. -/

namespace UmbraHost.Playnite

open UmbraHost.Json

variable {env : Environment} {config : Config} {app : App}

/-! ## Duplicates -/

/-- `dedupe_auto_apps_by_playnite_id`, from the identifiers seen so far. -/
def dedupeAutoApps (seen : List String) : List App → List App
  | [] => []
  | app :: rest =>
    if !app.isAuto || app.playniteId = "" then app :: dedupeAutoApps seen rest
    else if seen.contains (playniteIdKey app.playniteId) then dedupeAutoApps seen rest
    else app :: dedupeAutoApps (playniteIdKey app.playniteId :: seen) rest

/-- The two entries are not duplicates of each other. -/
def Apart (first second : App) : Prop :=
  first.isAuto = true → second.isAuto = true → first.playniteId ≠ "" →
    playniteIdKey first.playniteId ≠ playniteIdKey second.playniteId

theorem playniteIdKey_eq_empty {id : String} : playniteIdKey id = "" ↔ id = "" := by
  rw [playniteIdKey, toLowerCopy, ← String.toList_inj, String.toList_map, String.toList_empty,
    List.map_eq_nil_iff, ← String.toList_inj, String.toList_empty]

theorem named_of_same_key {id other : String} (same : playniteIdKey id = playniteIdKey other)
    (named : other ≠ "") : id ≠ "" := fun empty =>
  named (playniteIdKey_eq_empty.mp (same.symm.trans (playniteIdKey_eq_empty.mpr empty)))

theorem mem_dedupe {seen : List String} {apps : List App} {app : App}
    (member : app ∈ dedupeAutoApps seen apps) :
    app ∈ apps ∧ (app.isAuto = true → app.playniteId ≠ "" →
      playniteIdKey app.playniteId ∉ seen) := by
  induction apps generalizing seen with
  | nil => cases member
  | cons first rest ih =>
      unfold dedupeAutoApps at member
      split at member
      next exempt =>
        rcases List.mem_cons.mp member with rfl | later
        · refine ⟨List.mem_cons_self, fun auto named => ?_⟩
          simp [auto, named] at exempt
        · exact ⟨List.mem_cons_of_mem _ (ih later).1, (ih later).2⟩
      next =>
        split at member
        next => exact ⟨List.mem_cons_of_mem _ (ih member).1, (ih member).2⟩
        next unseen =>
          rcases List.mem_cons.mp member with rfl | later
          · exact ⟨List.mem_cons_self, fun _ _ => by simpa using unseen⟩
          · refine ⟨List.mem_cons_of_mem _ (ih later).1, fun auto named known => ?_⟩
            exact (ih later).2 auto named (List.mem_cons_of_mem _ known)

theorem pairwise_dedupe (seen : List String) (apps : List App) :
    (dedupeAutoApps seen apps).Pairwise Apart := by
  induction apps generalizing seen with
  | nil => exact List.Pairwise.nil
  | cons first rest ih =>
      unfold dedupeAutoApps
      split
      next exempt =>
        refine List.pairwise_cons.mpr ⟨fun other _ auto _ named => ?_, ih seen⟩
        simp [auto, named] at exempt
      next =>
        split
        next => exact ih seen
        next =>
          refine List.pairwise_cons.mpr ⟨fun other member _ auto named same => ?_, ih _⟩
          exact (mem_dedupe member).2 auto (named_of_same_key same.symm named)
            (same ▸ List.mem_cons_self)

/-- Only entries of the synchronization are dropped. -/
theorem filter_dedupe (seen : List String) (apps : List App) :
    (dedupeAutoApps seen apps).filter (fun app => !app.isAuto) =
      apps.filter fun app => !app.isAuto := by
  induction apps generalizing seen with
  | nil => rfl
  | cons first rest ih =>
      unfold dedupeAutoApps
      split
      next => simp only [List.filter_cons, ih]
      next listed =>
        have auto : first.isAuto = true := by
          cases known : first.isAuto with
          | true => rfl
          | false => simp [known] at listed
        have gone (kept : List App) : (first :: kept).filter (fun app => !app.isAuto) =
            kept.filter fun app => !app.isAuto := by simp [auto]
        rw [gone]
        split
        next => exact ih seen
        next =>
          rw [gone]
          exact ih _

/-! ## Refreshing -/

/-- An iteration of `iterate_existing_apps`. -/
def refreshApp (env : Environment) (indexes : Indexes) (flags : Fields Nat) (app : App) : App :=
  let app := ensureAppUuid app
  match matchAppAgainstIndexes indexes app with
  | none => app
  | some game =>
    let app := applyGameMetadataToApp env game app
    match List.lookup game.key flags with
    | none => app
    | some flags => markAppAsPlayniteAuto flags app

/-! ## Age -/

def lastPlayedMap (env : Environment) (installed : List Game) : Fields Int :=
  installed.foldl (fun times game =>
    match parseIso8601Utc env.mkgmtime game.lastPlayed with
    | none => times
    | some time => if game.id ≠ "" then Fields.put game.key time times else times) []

def shouldTtlDelete (env : Environment) (config : Config) (lastPlayed : Fields Int) (app : App) :
    Bool :=
  if config.deleteAfterDays ≤ 0 then false
  else
    let added := ((app.text? "playnite-added-at").bind (parseIso8601Utc env.mkgmtime)).getD
      env.purgeTime
    let played :=
      match List.lookup (playniteIdKey app.playniteId) lastPlayed with
      | none => false
      | some time => added ≤ time
    let deadline := added + config.deleteAfterDays * 86400
    deadline ≤ env.purgeTime && !played

/-! ## Purging -/

inductive Fate where
  | kept
  | expired
  | lostSource
  | replaced
deriving DecidableEq

/-- What the purge goes by. -/
structure Grounds where
  uninstalled : List String
  lastPlayed : Fields Int
  selectedIds : List String

/-- What becomes of an entry while so many replacements are left. -/
def fate (env : Environment) (config : Config) (grounds : Grounds) (repl : Nat) (app : App) : Fate :=
  let key := playniteIdKey app.playniteId
  if app.isAuto && app.playniteId ≠ "" then
    if config.removeUninstalled && grounds.uninstalled.contains key ||
        shouldTtlDelete env config grounds.lastPlayed app then .expired
    else if !config.syncAllInstalled && !grounds.selectedIds.contains key &&
        app.text? "playnite-source" = some "installed" then .lostSource
    else if !grounds.selectedIds.contains key && 0 < config.recentN && config.requireRepl &&
        0 < repl then .replaced
    else .kept
  else .kept

/-- The loop of `purge_uninstalled_and_ttl`. -/
def purgeApps (env : Environment) (config : Config) (grounds : Grounds) (repl : Nat) :
    List App → List (App × Fate)
  | [] => []
  | app :: rest =>
    let fate := fate env config grounds repl app
    (app, fate) :: purgeApps env config grounds (if fate = .replaced then repl - 1 else repl) rest

def currentAutoIds (apps : List App) : List String :=
  (apps.filter fun app => app.isAuto && app.playniteId ≠ "").map fun app =>
    playniteIdKey app.playniteId

def countReplacementsAvailable (current selectedIds : List String) : Nat :=
  (selectedIds.filter fun id => !current.contains id).length

variable {grounds : Grounds} {repl : Nat} {apps : List App}

theorem map_fst_purgeApps : (purgeApps env config grounds repl apps).map Prod.fst = apps := by
  induction apps generalizing repl with
  | nil => rfl
  | cons first rest ih => rw [purgeApps, List.map_cons, ih]

theorem fate_of_mem {entry : App × Fate} (member : entry ∈ purgeApps env config grounds repl apps) :
    ∃ left, entry.2 = fate env config grounds left entry.1 := by
  induction apps generalizing repl with
  | nil => cases member
  | cons first rest ih =>
      rw [purgeApps] at member
      rcases List.mem_cons.mp member with rfl | later
      · exact ⟨repl, rfl⟩
      · exact ih later

/-- Each replaced entry uses up one of the replacements. -/
theorem countP_replaced_le (repl : Nat) (apps : List App) :
    (purgeApps env config grounds repl apps).countP (fun entry => entry.2 = .replaced) ≤ repl := by
  induction apps generalizing repl with
  | nil => exact Nat.zero_le _
  | cons first rest ih =>
      rw [purgeApps, List.countP_cons]
      by_cases replaced : fate env config grounds repl first = .replaced
      · have some_ : 0 < repl := by
          unfold fate at replaced
          dsimp only at replaced
          split at replaced
          next =>
            split at replaced
            next => cases replaced
            next =>
              split at replaced
              next => cases replaced
              next =>
                split at replaced
                next left => simp only [Bool.and_eq_true, decide_eq_true_eq] at left; exact left.2
                next => cases replaced
          next => cases replaced
        have bound := ih (repl - 1)
        simp only [replaced, if_true, decide_true]
        omega
      · have bound := ih repl
        simp only [replaced, if_false, decide_false, Bool.false_eq_true]
        omega

theorem fate_of_unmanaged (free : ¬ (app.isAuto = true ∧ app.playniteId ≠ "")) :
    fate env config grounds repl app = .kept := by
  rw [fate, if_neg]
  simpa using free

theorem fate_of_expired (auto : app.isAuto = true) (named : app.playniteId ≠ "")
    (expired : shouldTtlDelete env config grounds.lastPlayed app = true) :
    fate env config grounds repl app = .expired := by
  rw [fate, if_pos (by simp [auto, named]), if_pos (by simp [expired])]

/-- Only age takes away an entry of an installed game that is selected. -/
theorem fate_of_selected
    (selected : playniteIdKey app.playniteId ∈ grounds.selectedIds)
    (installed : playniteIdKey app.playniteId ∉ grounds.uninstalled)
    (young : shouldTtlDelete env config grounds.lastPlayed app = false) :
    fate env config grounds repl app = .kept := by
  unfold fate
  simp [selected, installed, young]

end UmbraHost.Playnite
