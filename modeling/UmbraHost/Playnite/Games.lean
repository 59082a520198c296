import UmbraHost.Json.Access

/-! # Playnite games

The games of a library snapshot, their names and dates as text, and which of them the
configuration selects for the application list. -/

namespace UmbraHost.Playnite

open UmbraHost.Json

structure Game where
  id : String
  name : String := ""
  exe : String := ""
  workingDir : String := ""
  categories : List String := []
  pluginId : String := ""
  pluginName : String := ""
  lastPlayed : String := ""
  boxArtPath : String := ""
  installed : Bool := false
deriving DecidableEq

/-! ## Text -/

def toLowerCopy (text : String) : String := text.map Char.toLower

def playniteIdKey (playniteId : String) : String := toLowerCopy playniteId

def Game.key (game : Game) : String := playniteIdKey game.id

def normalizePathForMatch (path : String) : String :=
  String.ofList ((path.toList.filter (· ≠ '"')).map fun char =>
    (if char = '/' then '\\' else char).toLower)

/-- The loop of `normalize_name_for_match` from the text built so far. -/
def normalizeName (out : List Char) (previousWasSpace : Bool) : List Char → List Char
  | [] => out
  | char :: rest =>
    if isSpace char then normalizeName out (previousWasSpace || out ≠ []) rest
    else
      let spaced := if previousWasSpace && out ≠ [] then out ++ [' '] else out
      normalizeName (spaced ++ [char.toLower]) false rest

def normalizeNameForMatch (name : String) : String :=
  String.ofList (normalizeName [] false name.toList)

def extractCmdExecutableForMatch (cmd : String) : String :=
  let blank (char : Char) : Bool := char = ' ' || char = '\t'
  let exe :=
    match cmd.toList.dropWhile blank with
    | '"' :: quoted => quoted.takeWhile (· ≠ '"')
    | plain => plain.takeWhile fun char => !blank char
  if exe = [] then "" else normalizePathForMatch (String.ofList exe)

/-! ## Dates -/

structure DateTime where
  year : Nat
  month : Nat
  day : Nat
  hour : Nat
  minute : Nat
  second : Nat

def readDigits (count : Nat) (text : List Char) : Option (Nat × List Char) :=
  let digits := text.take count
  if digits.length = count ∧ digits.all Char.isDigit then
    some (Nat.ofDigitChars 10 digits 0, text.drop count)
  else none

def skipOne (accepts : Char → Bool) : List Char → Option (List Char)
  | [] => none
  | char :: rest => if accepts char then some rest else none

/-- The seconds that the zone at the end of the text is ahead. -/
def readZone : List Char → Option Int
  | '+' :: rest => readOffset 1 rest
  | '-' :: rest => readOffset (-1) rest
  | _ => some 0
where
  readOffset (sign : Int) (text : List Char) : Option Int := do
    let (hours, text) ← readDigits 2 text
    let text ← skipOne (· = ':') text
    let (minutes, _) ← readDigits 2 text
    return (hours * 3600 + minutes * 60) * sign

/-- `parse_iso8601_utc`, given the `_mkgmtime` of the system. -/
def parseIso8601Utc (mkgmtime : DateTime → Option Int) (text : String) : Option Int := do
  let (year, text) ← readDigits 4 text.toList
  let text ← skipOne (· = '-') text
  let (month, text) ← readDigits 2 text
  let text ← skipOne (· = '-') text
  let (day, text) ← readDigits 2 text
  let text ← skipOne (fun char => char = 'T' || char = 't' || char = ' ') text
  let (hour, text) ← readDigits 2 text
  let text ← skipOne (· = ':') text
  let (minute, text) ← readDigits 2 text
  let text ← skipOne (· = ':') text
  let (second, text) ← readDigits 2 text
  let zone :=
    match text with
    | '.' :: fraction => fraction.dropWhile Char.isDigit
    | other => other
  let ahead ← readZone zone
  let time ← mkgmtime { year, month, day, hour, minute, second }
  return time - ahead

/-! ## What surrounds a synchronization -/

structure Config where
  recentN : Int := 0
  recentAgeDays : Int := 0
  deleteAfterDays : Int := 0
  requireRepl : Bool := false
  syncAllInstalled : Bool := false
  categories : List String := []
  includePlugins : List String := []
  excludeCategories : List String := []
  excludeIds : List String := []
  excludePlugins : List String := []
  removeUninstalled : Bool := false

/-- The clock, the file system, and what the standard library leaves open. -/
structure Environment where
  /-- `std::sort` by falling date; games of one date come in any order. -/
  sortRecent : List Game → List Game
  /-- The order in which an `unordered_map` is walked. -/
  hashOrder : List Game → List Game
  mkgmtime : DateTime → Option Int
  selectTime : Int
  purgeTime : Int
  nowIso8601Utc : Game → String
  appdata : String
  convertsBoxArt : Game → Bool
  resolvesIcon : Game → Bool

/-- Both orders rearrange what they are given. -/
structure Environment.Lawful (env : Environment) : Prop where
  sortRecent : ∀ games, (env.sortRecent games).Perm games
  hashOrder : ∀ games, (env.hashOrder games).Perm games

/-! ## Selection -/

structure Exclusions where
  ids : List String
  categories : List String
  plugins : List String

def Config.exclusions (config : Config) : Exclusions where
  ids := config.excludeIds.map toLowerCopy
  categories := (config.excludeCategories.map toLowerCopy).filter (· ≠ "")
  plugins := (config.excludePlugins.map toLowerCopy).filter (· ≠ "")

def Exclusions.hasCategory (exclusions : Exclusions) (game : Game) : Bool :=
  game.categories.any fun category => exclusions.categories.contains (toLowerCopy category)

def Exclusions.hasPlugin (exclusions : Exclusions) (game : Game) : Bool :=
  game.pluginId ≠ "" && exclusions.plugins.contains (toLowerCopy game.pluginId)

/-- The three tests that every selection makes first. -/
def Exclusions.excludes (exclusions : Exclusions) (game : Game) : Bool :=
  (toLowerCopy game.id ≠ "" && exclusions.ids.contains (toLowerCopy game.id)) ||
    exclusions.hasCategory game || exclusions.hasPlugin game

def kSourceRecent : Nat := 1
def kSourceCategory : Nat := 2
def kSourcePlugin : Nat := 4
def kSourceInstalled : Nat := 8

section

variable (env : Environment) (config : Config) (installed : List Game)

/-- The games of a selection: those that no exclusion names and that pass its own test. -/
def selectGames (test : Game → Bool) (games : List Game) : List Game :=
  games.filter fun game => !config.exclusions.excludes game && test game

def playedSince (game : Game) : Bool :=
  let cutoff := env.selectTime - max 0 config.recentAgeDays * 86400
  config.recentAgeDays ≤ 0 ||
    match parseIso8601Utc env.mkgmtime game.lastPlayed with
    | none => false
    | some played => cutoff ≤ played

def selectRecentInstalledGames : List Game :=
  (selectGames config (playedSince env config) (env.sortRecent installed)).take
    config.recentN.toNat

def selectCategoryGames : List Game :=
  let want := config.categories.map toLowerCopy
  selectGames config
    (fun game => game.categories.any fun category => want.contains (toLowerCopy category)) installed

def includePluginsLower : List String :=
  (config.includePlugins.map toLowerCopy).filter (· ≠ "")

def selectPluginGames : List Game :=
  selectGames config
    (fun game => game.pluginId ≠ "" &&
      (includePluginsLower config).contains (toLowerCopy game.pluginId)) installed

def selectAllInstalledGames : List Game := selectGames config (fun _ => true) installed

/-- The selections that the configuration asks for, each with its flag. -/
def sources : List (Nat × List Game) :=
  [(kSourceRecent,
      if 0 < config.recentN then selectRecentInstalledGames env config installed else []),
    (kSourceCategory,
      if config.categories ≠ [] then selectCategoryGames config installed else []),
    (kSourcePlugin,
      if includePluginsLower config ≠ [] then selectPluginGames config installed else []),
    (kSourceInstalled,
      if config.syncAllInstalled then selectAllInstalledGames config installed else [])]

def addFlag (flag : Nat) (flags : Fields Nat) (game : Game) : Fields Nat :=
  Fields.put game.key ((List.lookup game.key flags).getD 0 ||| flag) flags

/-- Only `select_all_installed_games` passes over games without an identifier. -/
def flagged (source : Nat × List Game) : List Game :=
  if source.1 = kSourceInstalled then source.2.filter fun game => game.id ≠ "" else source.2

def sourceFlags : Fields Nat :=
  (sources env config installed).foldl
    (fun flags source => (flagged source).foldl (addFlag source.1) flags) []

/-- The first game of each identifier. -/
def mergeGame (merged : List Game) (game : Game) : List Game :=
  if game.id = "" || merged.any fun other => other.key = game.key then merged
  else merged ++ [game]

def selectedGames : List Game :=
  env.hashOrder
    (((sources env config installed).flatMap Prod.snd).foldl mergeGame [])

/-- A source selects the game. -/
def Chosen (game : Game) : Prop := ∃ source ∈ sources env config installed, game ∈ source.2

end

/-! ## What is selected -/

variable {env : Environment} {config : Config} {installed : List Game} {game : Game}

theorem mem_of_mem_selectGames {test : Game → Bool} {games : List Game}
    (member : game ∈ selectGames config test games) :
    game ∈ games ∧ config.exclusions.excludes game = false := by
  obtain ⟨member, passes⟩ := List.mem_filter.mp member
  rw [Bool.and_eq_true, Bool.not_eq_true'] at passes
  exact ⟨member, passes.1⟩

theorem mem_of_mem_guard {guard : Prop} [Decidable guard] {games : List Game}
    (member : game ∈ if guard then games else []) : game ∈ games := by
  split at member
  · exact member
  · cases member

theorem Chosen.included (lawful : env.Lawful) (chosen : Chosen env config installed game) :
    game ∈ installed ∧ config.exclusions.excludes game = false := by
  obtain ⟨source, listed, member⟩ := chosen
  simp only [sources, List.mem_cons, List.not_mem_nil, or_false] at listed
  rcases listed with rfl | rfl | rfl | rfl
  · have recent := mem_of_mem_selectGames (List.mem_of_mem_take (mem_of_mem_guard member))
    exact ⟨(lawful.sortRecent installed).mem_iff.mp recent.1, recent.2⟩
  · exact mem_of_mem_selectGames (mem_of_mem_guard member)
  · exact mem_of_mem_selectGames (mem_of_mem_guard member)
  · exact mem_of_mem_selectGames (mem_of_mem_guard member)

theorem mem_mergeGame {merged : List Game} {other : Game} :
    other ∈ mergeGame merged game → other ∈ merged ∨ other = game := by
  unfold mergeGame
  split
  · exact .inl
  · intro member
    exact (List.mem_append.mp member).imp_right List.mem_singleton.mp

theorem subset_mergeGame {merged : List Game} : merged ⊆ mergeGame merged game := by
  unfold mergeGame
  split
  · exact List.Subset.refl _
  · exact List.subset_append_left _ _

theorem mem_merged {games merged : List Game} (member : game ∈ games.foldl mergeGame merged) :
    game ∈ merged ∨ game ∈ games := by
  induction games generalizing merged with
  | nil => exact .inl member
  | cons first rest ih =>
      rcases ih member with early | late
      · rcases mem_mergeGame early with old | rfl
        · exact .inl old
        · exact .inr List.mem_cons_self
      · exact .inr (List.mem_cons_of_mem _ late)

theorem nodup_merged {games merged : List Game} (distinct : (merged.map Game.key).Nodup) :
    ((games.foldl mergeGame merged).map Game.key).Nodup := by
  induction games generalizing merged with
  | nil => exact distinct
  | cons first rest ih =>
      refine ih ?_
      unfold mergeGame
      split
      next => exact distinct
      next unseen =>
        rw [List.map_append, List.map_singleton]
        refine List.nodup_append.mpr ⟨distinct, by simp, ?_⟩
        intro key member other single
        cases List.mem_singleton.mp single
        rintro rfl
        obtain ⟨old, listed, same⟩ := List.mem_map.mp member
        refine unseen (Bool.or_eq_true_iff.mpr (.inr (List.any_eq_true.mpr ⟨old, listed, ?_⟩)))
        exact decide_eq_true same

theorem key_mem_mergeGame (merged : List Game) (named : game.id ≠ "") :
    ∃ other ∈ mergeGame merged game, other.key = game.key := by
  unfold mergeGame
  split
  next seen =>
    simp only [Bool.or_eq_true, decide_eq_true_eq, named, false_or, List.any_eq_true] at seen
    exact seen
  next => exact ⟨game, List.mem_append_right _ List.mem_cons_self, rfl⟩

theorem subset_merged (games merged : List Game) : merged ⊆ games.foldl mergeGame merged := by
  induction games generalizing merged with
  | nil => exact List.Subset.refl _
  | cons first rest ih => exact List.Subset.trans subset_mergeGame (ih _)

theorem key_mem_merged (merged : List Game) {games : List Game} (named : game.id ≠ "")
    (member : game ∈ games) : ∃ other ∈ games.foldl mergeGame merged, other.key = game.key := by
  induction games generalizing merged with
  | nil => cases member
  | cons first rest ih =>
      rcases List.mem_cons.mp member with rfl | later
      · obtain ⟨other, kept, same⟩ := key_mem_mergeGame merged named
        exact ⟨other, subset_merged rest _ kept, same⟩
      · exact ih _ later

theorem mem_selectedGames (lawful : env.Lawful) (selected : game ∈ selectedGames env config installed) :
    Chosen env config installed game := by
  rw [selectedGames, (lawful.hashOrder _).mem_iff] at selected
  rcases mem_merged selected with none | listed
  · cases none
  · obtain ⟨source, found, member⟩ := List.mem_flatMap.mp listed
    exact ⟨source, found, member⟩

theorem nodup_selectedGames (lawful : env.Lawful) :
    ((selectedGames env config installed).map Game.key).Nodup :=
  ((lawful.hashOrder _).map Game.key).nodup_iff.mpr (nodup_merged List.nodup_nil)

/-- What a source selects is among the merged games, under its key. -/
theorem Chosen.selected (lawful : env.Lawful) (named : game.id ≠ "")
    (chosen : Chosen env config installed game) :
    ∃ other ∈ selectedGames env config installed, other.key = game.key := by
  obtain ⟨source, found, member⟩ := chosen
  obtain ⟨other, kept, same⟩ := key_mem_merged [] named
    (List.mem_flatMap.mpr ⟨source, found, member⟩)
  exact ⟨other, (lawful.hashOrder _).mem_iff.mpr kept, same⟩

/-! ## Flags -/

theorem isSome_lookup_put {fields : Fields α} {name other : String} {value : α} :
    (List.lookup other (Fields.put name value fields)).isSome = true ↔
      (List.lookup other fields).isSome = true ∨ other = name := by
  by_cases same : other = name
  · subst same
    simp
  · simp [Fields.lookup_put_of_ne same, same]

theorem isSome_lookup_flagged {flag : Nat} {games : List Game} {flags : Fields Nat} {key : String} :
    (List.lookup key (games.foldl (addFlag flag) flags)).isSome = true ↔
      (List.lookup key flags).isSome = true ∨ ∃ game ∈ games, game.key = key := by
  induction games generalizing flags with
  | nil => simp
  | cons first rest ih =>
      rw [List.foldl_cons, ih, addFlag, isSome_lookup_put, or_assoc, List.exists_mem_cons_iff]
      exact or_congr_right (or_congr_left eq_comm)

theorem isSome_lookup_sourceFlags {found : List (Nat × List Game)} {flags : Fields Nat}
    {key : String} : (List.lookup key (found.foldl
      (fun flags source => (flagged source).foldl (addFlag source.1) flags) flags)).isSome = true ↔
        (List.lookup key flags).isSome = true ∨
          ∃ source ∈ found, ∃ game ∈ flagged source, game.key = key := by
  induction found generalizing flags with
  | nil => simp
  | cons first rest ih =>
      rw [List.foldl_cons, ih, isSome_lookup_flagged, or_assoc, List.exists_mem_cons_iff]

theorem mem_of_mem_flagged {source : Nat × List Game} (member : game ∈ flagged source) :
    game ∈ source.2 := by
  unfold flagged at member
  split at member
  · exact List.mem_of_mem_filter member
  · exact member

theorem mem_flagged {source : Nat × List Game} (named : game.id ≠ "") (member : game ∈ source.2) :
    game ∈ flagged source := by
  unfold flagged
  split
  · exact List.mem_filter.mpr ⟨member, decide_eq_true named⟩
  · exact member

/-- The games with flags are those that a source selects. -/
theorem flags_iff (named : ∀ game ∈ installed, game.id ≠ "") (lawful : env.Lawful) {key : String} :
    (List.lookup key (sourceFlags env config installed)).isSome = true ↔
      ∃ game, Chosen env config installed game ∧ game.key = key := by
  rw [sourceFlags, isSome_lookup_sourceFlags]
  constructor
  · rintro (none | ⟨source, found, game, member, same⟩)
    · cases none
    · exact ⟨game, ⟨source, found, mem_of_mem_flagged member⟩, same⟩
  · rintro ⟨game, chosen, same⟩
    have listed := (chosen.included lawful).1
    obtain ⟨source, found, member⟩ := chosen
    exact .inr ⟨source, found, game, mem_flagged (named game listed) member, same⟩

end UmbraHost.Playnite
