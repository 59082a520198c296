import UmbraHost.Playnite.Games

/-! # Entries of the application list

What a synchronization reads and writes in an entry, and how it finds the game of one. -/

namespace UmbraHost.Playnite

open UmbraHost.Json

/-- An entry, with the identifier that `uuid_t::generate` would draw for it. -/
structure App where
  fields : Fields Value
  drawn : String

namespace App

def find? (app : App) (name : String) : Option Value := List.lookup name app.fields

/-- The member, where it is a text. -/
def text? (app : App) (name : String) : Option String :=
  match app.find? name with
  | some (.str text) => some text
  | _ => none

def put (app : App) (name : String) (value : Value) : App :=
  { app with fields := Fields.put name value app.fields }

def erase (app : App) (name : String) : App :=
  { app with fields := app.fields.filter fun field => field.1 ≠ name }

def isAuto (app : App) : Bool := app.text? "playnite-managed" = some "auto"

/-- The identifier of the entry's game; an empty text is none. -/
def playniteId (app : App) : String := (app.text? "playnite-id").getD ""

variable {app : App} {name other : String} {value : Value}

@[simp] theorem find?_put_self : (app.put name value).find? name = some value :=
  Fields.lookup_put_self

theorem find?_put_of_ne (different : other ≠ name) :
    (app.put name value).find? other = app.find? other :=
  Fields.lookup_put_of_ne different

theorem find?_erase_of_ne (different : other ≠ name) :
    (app.erase name).find? other = app.find? other := by
  unfold erase find?
  induction app.fields with
  | nil => rfl
  | cons field rest ih =>
      obtain ⟨first, value⟩ := field
      by_cases same : first = name
      · subst same
        rw [List.filter_cons_of_neg (by simp), Fields.lookup_cons_of_ne different]
        exact ih
      · rw [List.filter_cons_of_pos (by simp [same])]
        by_cases head : other = first
        · subst head
          rw [Fields.lookup_cons_self, Fields.lookup_cons_self]
        · rw [Fields.lookup_cons_of_ne head, Fields.lookup_cons_of_ne head]
          exact ih

theorem text?_of_find? {other : App} (same : app.find? name = other.find? name) :
    app.text? name = other.text? name := by
  rw [text?, text?, same]

end App

/-! ## Identifiers -/

def canonicalPlayniteAppUuid (playniteId : String) : String := playniteId.map Char.toUpper

/-- What `ensure_app_uuid` writes, if anything. -/
def uuidDue (app : App) : Option String :=
  if app.playniteId ≠ "" then
    let desired := canonicalPlayniteAppUuid app.playniteId
    if app.text? "uuid" = some desired then none else some desired
  else
    match app.find? "uuid" with
    | none | some .null | some (.str "") => some app.drawn
    | some _ => none

def ensureAppUuid (app : App) : App :=
  match uuidDue app with
  | none => app
  | some uuid => app.put "uuid" (.str uuid)

/-! ## Metadata -/

def composeSourceLabel (flags : Nat) : String :=
  let part (flag : Nat) (name : String) : List String :=
    if flags &&& flag ≠ 0 then [name] else []
  let parts := part kSourceRecent "recent" ++ part kSourceCategory "category" ++
    part kSourcePlugin "plugin" ++ part kSourceInstalled "installed"
  if parts = [] then "unknown" else "+".intercalate parts

def putOrErase (app : App) (name text : String) : App :=
  if text ≠ "" then app.put name (.str text) else app.erase name

def cover (env : Environment) (kind : String) (game : Game) : Value :=
  .str (env.appdata ++ "/covers/" ++ kind ++ game.id ++ ".png")

def applyGameMetadataToApp (env : Environment) (game : Game) (app : App) : App :=
  let app := if game.name ≠ "" then app.put "name" (.str game.name) else app
  let app :=
    if game.boxArtPath ≠ "" && env.convertsBoxArt game then
      app.put "image-path" (cover env "playnite_" game)
    else app
  let app :=
    if env.resolvesIcon game then
      app.put "playnite-icon-path" (cover env "playnite_icon_" game)
    else app.erase "playnite-icon-path"
  let app := ((app.put "playnite-id" (.str game.id)).erase "cmd").erase "working-dir"
  putOrErase (putOrErase app "playnite-plugin-id" game.pluginId) "playnite-plugin-name"
    game.pluginName

def markAppAsPlayniteAuto (flags : Nat) (app : App) : App :=
  (app.put "playnite-source" (.str (composeSourceLabel flags))).put "playnite-managed"
    (.str "auto")

/-! ## The game of an entry -/

structure Indexes where
  byExe : Fields Game := []
  byDir : Fields Game := []
  byId : Fields Game := []
  byUniqueName : Fields Game := []
  ambiguousNames : List String := []

/-- A name of two games is taken out for good. -/
def indexName (indexes : Indexes) (game : Game) : Indexes :=
  let name := normalizeNameForMatch game.name
  if name = "" || indexes.ambiguousNames.contains name then indexes
  else if (List.lookup name indexes.byUniqueName).isSome then
    { indexes with
      byUniqueName := indexes.byUniqueName.filter fun entry => entry.1 ≠ name
      ambiguousNames := name :: indexes.ambiguousNames }
  else { indexes with byUniqueName := indexes.byUniqueName ++ [(name, game)] }

def indexGame (indexes : Indexes) (game : Game) : Indexes :=
  let byExe :=
    if game.exe ≠ "" then Fields.put (normalizePathForMatch game.exe) game indexes.byExe
    else indexes.byExe
  let byDir :=
    if game.workingDir ≠ "" then
      Fields.put (normalizePathForMatch game.workingDir) game indexes.byDir
    else indexes.byDir
  let byId := if game.id ≠ "" then Fields.put game.key game indexes.byId else indexes.byId
  indexName { indexes with byExe, byDir, byId } game

def buildGameIndexes (selected : List Game) : Indexes := selected.foldl indexGame {}

/-- Every game of the library can be found by its identifier. -/
def indexIds (games : List Game) (indexes : Indexes) : Indexes :=
  { indexes with
    byId := games.foldl
      (fun byId game => if game.id ≠ "" then Fields.put game.key game byId else byId)
      indexes.byId }

def matchAppAgainstIndexes (indexes : Indexes) (app : App) : Option Game :=
  let through (name : String) (normalize : String → String) (index : Fields Game) : Option Game :=
    (app.text? name).bind fun text => List.lookup (normalize text) index
  (through "playnite-id" playniteIdKey indexes.byId).or <|
    (through "cmd" extractCmdExecutableForMatch indexes.byExe).or <|
      (through "working-dir" normalizePathForMatch indexes.byDir).or <|
        through "name" normalizeNameForMatch indexes.byUniqueName

/-! ## What the steps leave alone -/

variable {env : Environment} {game : Game} {app : App} {name : String}

theorem find?_ensureAppUuid (different : name ≠ "uuid") :
    (ensureAppUuid app).find? name = app.find? name := by
  unfold ensureAppUuid
  split
  · rfl
  · exact App.find?_put_of_ne different

theorem find?_putOrErase {other text : String} (different : name ≠ other) :
    (putOrErase app other text).find? name = app.find? name := by
  unfold putOrErase
  split
  · exact App.find?_put_of_ne different
  · exact App.find?_erase_of_ne different

/-- The members that describe the game. -/
def metadataNames : List String :=
  ["name", "image-path", "playnite-icon-path", "cmd", "working-dir", "playnite-plugin-id",
    "playnite-plugin-name"]

theorem find?_applyGameMetadata (foreign : name ∉ metadataNames) :
    (applyGameMetadataToApp env game app).find? name =
      if name = "playnite-id" then some (.str game.id) else app.find? name := by
  simp only [metadataNames, List.mem_cons, List.not_mem_nil, or_false, not_or] at foreign
  obtain ⟨notName, notImage, notIcon, notCmd, notDir, notPlugin, notPluginName⟩ := foreign
  unfold applyGameMetadataToApp
  rw [find?_putOrErase notPluginName, find?_putOrErase notPlugin, App.find?_erase_of_ne notDir,
    App.find?_erase_of_ne notCmd]
  by_cases isId : name = "playnite-id"
  · subst isId
    rw [App.find?_put_self, if_pos rfl]
  · rw [App.find?_put_of_ne isId, if_neg isId]
    have icon (before : App) : (if env.resolvesIcon game then
        before.put "playnite-icon-path" (cover env "playnite_icon_" game)
        else before.erase "playnite-icon-path").find? name = before.find? name := by
      split
      · exact App.find?_put_of_ne notIcon
      · exact App.find?_erase_of_ne notIcon
    have image (before : App) : (if game.boxArtPath ≠ "" && env.convertsBoxArt game then
        before.put "image-path" (cover env "playnite_" game) else before).find? name =
          before.find? name := by
      split
      · exact App.find?_put_of_ne notImage
      · rfl
    rw [icon, image]
    split
    · exact App.find?_put_of_ne notName
    · rfl

theorem find?_markAppAsPlayniteAuto {flags : Nat} (notSource : name ≠ "playnite-source")
    (notManaged : name ≠ "playnite-managed") :
    (markAppAsPlayniteAuto flags app).find? name = app.find? name := by
  rw [markAppAsPlayniteAuto, App.find?_put_of_ne notManaged, App.find?_put_of_ne notSource]

theorem isAuto_markAppAsPlayniteAuto {flags : Nat} :
    (markAppAsPlayniteAuto flags app).isAuto = true := by
  rw [App.isAuto, App.text?, markAppAsPlayniteAuto, App.find?_put_self]
  rfl

/-! ## What the indexes hold -/

/-- The games behind each index, and the key of each game in the index of identifiers. -/
structure Indexes.Within (indexes : Indexes) (selected games : List Game) : Prop where
  byExe : ∀ entry ∈ indexes.byExe, entry.2 ∈ selected
  byDir : ∀ entry ∈ indexes.byDir, entry.2 ∈ selected
  byUniqueName : ∀ entry ∈ indexes.byUniqueName, entry.2 ∈ selected
  byId : ∀ entry ∈ indexes.byId, entry.2 ∈ games ∧ entry.1 = entry.2.key

variable {selected games : List Game} {indexes : Indexes}

theorem forall_mem_put {α : Type} {P : String × α → Prop} {fields : Fields α} {value : α}
    {guard : Prop} [Decidable guard] (old : ∀ entry ∈ fields, P entry) (new : P (name, value)) :
    ∀ entry ∈ (if guard then Fields.put name value fields else fields), P entry := by
  intro entry member
  split at member
  · rcases Fields.mem_put member with rfl | before
    · exact new
    · exact old entry before
  · exact old entry member

theorem Indexes.Within.indexName (within : indexes.Within selected games)
    (member : game ∈ selected) : (indexName indexes game).Within selected games := by
  unfold Playnite.indexName
  dsimp only
  split
  · exact within
  · split
    · exact { within with
        byUniqueName := fun entry kept => within.byUniqueName entry (List.mem_of_mem_filter kept) }
    · refine { within with byUniqueName := fun entry listed => ?_ }
      rcases List.mem_append.mp listed with old | new
      · exact within.byUniqueName entry old
      · cases List.mem_singleton.mp new
        exact member

theorem Indexes.Within.indexGame (within : indexes.Within selected games)
    (member : game ∈ selected) (inLibrary : game ∈ games) :
    (indexGame indexes game).Within selected games := by
  exact Indexes.Within.indexName ⟨forall_mem_put within.byExe member,
    forall_mem_put within.byDir member, within.byUniqueName,
    forall_mem_put within.byId ⟨inLibrary, rfl⟩⟩ member

theorem within_buildGameIndexes (subset : selected ⊆ games) :
    (buildGameIndexes selected).Within selected games := by
  have general : ∀ (rest : List Game) (indexes : Indexes), rest ⊆ selected →
      indexes.Within selected games → (rest.foldl Playnite.indexGame indexes).Within selected games := by
    intro rest
    induction rest with
    | nil => exact fun _ _ within => within
    | cons first rest ih =>
        intro indexes listed within
        have member := listed List.mem_cons_self
        exact ih _ (List.Subset.trans (List.subset_cons_self _ _) listed)
          (within.indexGame member (subset member))
  exact general selected {} (List.Subset.refl _) ⟨nofun, nofun, nofun, nofun⟩

theorem indexIds_byId (games : List Game) (indexes : Indexes) :
    (indexIds games indexes).byId = games.foldl
      (fun byId game => if game.id ≠ "" then Fields.put game.key game byId else byId)
      indexes.byId := rfl

theorem within_indexIds (within : indexes.Within selected games) :
    (indexIds games indexes).Within selected games := by
  have general : ∀ (rest : List Game) (byId : Fields Game), rest ⊆ games →
      (∀ entry ∈ byId, entry.2 ∈ games ∧ entry.1 = entry.2.key) →
      ∀ entry ∈ rest.foldl
        (fun byId game => if game.id ≠ "" then Fields.put game.key game byId else byId) byId,
        entry.2 ∈ games ∧ entry.1 = entry.2.key := by
    intro rest
    induction rest with
    | nil => exact fun _ _ old => old
    | cons first rest ih =>
        intro byId listed old
        exact ih _ (List.Subset.trans (List.subset_cons_self _ _) listed)
          (forall_mem_put old ⟨listed List.mem_cons_self, rfl⟩)
  exact { within with byId := general games indexes.byId (List.Subset.refl _) within.byId }

theorem lookup_indexIds_of_not_mem {key : String} {byId : Fields Game}
    (absent : key ∉ games.map Game.key) : List.lookup key (games.foldl
      (fun byId game => if game.id ≠ "" then Fields.put game.key game byId else byId) byId) =
        List.lookup key byId := by
  induction games generalizing byId with
  | nil => rfl
  | cons first rest ih =>
      rw [List.map_cons, List.mem_cons, not_or] at absent
      rw [List.foldl_cons, ih absent.2]
      split
      · exact Fields.lookup_put_of_ne absent.1
      · rfl

/-- Every game is found under its own key when the keys are distinct. -/
theorem lookup_indexIds (distinct : (games.map Game.key).Nodup) (named : game.id ≠ "")
    (member : game ∈ games) :
    List.lookup game.key (indexIds games indexes).byId = some game := by
  rw [indexIds_byId]
  generalize indexes.byId = byId
  induction games generalizing byId with
  | nil => cases member
  | cons first rest ih =>
      rw [List.map_cons, List.nodup_cons] at distinct
      rcases List.mem_cons.mp member with rfl | later
      · rw [List.foldl_cons, lookup_indexIds_of_not_mem distinct.1, if_pos named]
        exact Fields.lookup_put_self
      · exact ih distinct.2 later _

theorem mem_of_lookup {α : Type} {fields : Fields α} {value : α}
    (found : List.lookup name fields = some value) : (name, value) ∈ fields := by
  obtain ⟨before, after, rfl, -⟩ := List.lookup_eq_some_iff.mp found
  exact List.mem_append_right _ List.mem_cons_self

/-- The game of an entry is the one with its identifier, or a selected one. -/
theorem byId_or_selected (within : indexes.Within selected games)
    (found : matchAppAgainstIndexes indexes app = some game) :
    ((app.text? "playnite-id").bind fun id => List.lookup (playniteIdKey id) indexes.byId) =
      some game ∨ game ∈ selected := by
  have through {name : String} {normalize : String → String} {index : Fields Game}
      (held : ∀ entry ∈ index, entry.2 ∈ selected)
      (here : ((app.text? name).bind fun text => List.lookup (normalize text) index) = some game) :
      game ∈ selected := by
    obtain ⟨text, -, looked⟩ := Option.bind_eq_some_iff.mp here
    exact held _ (mem_of_lookup looked)
  unfold matchAppAgainstIndexes at found
  rcases Option.or_eq_some_iff.mp found with byId | ⟨-, found⟩
  · exact .inl byId
  · rcases Option.or_eq_some_iff.mp found with byExe | ⟨-, found⟩
    · exact .inr (through within.byExe byExe)
    · rcases Option.or_eq_some_iff.mp found with byDir | ⟨-, byName⟩
      · exact .inr (through within.byDir byDir)
      · exact .inr (through within.byUniqueName byName)

/-- The game of an entry has the identifier of the entry, or is a selected one. -/
theorem mem_of_match (within : indexes.Within selected games)
    (found : matchAppAgainstIndexes indexes app = some game) :
    (game ∈ games ∧ playniteIdKey app.playniteId = game.key) ∨ game ∈ selected := by
  refine (byId_or_selected within found).imp_left fun byId => ?_
  obtain ⟨id, named, looked⟩ := Option.bind_eq_some_iff.mp byId
  obtain ⟨member, same⟩ := within.byId _ (mem_of_lookup looked)
  refine ⟨member, ?_⟩
  rw [App.playniteId, named]
  exact same

/-- An entry with the identifier of a game finds that game. -/
theorem match_of_playniteId (distinct : (games.map Game.key).Nodup) (named : game.id ≠ "")
    (member : game ∈ games) (carries : app.playniteId ≠ "")
    (same : playniteIdKey app.playniteId = game.key) :
    matchAppAgainstIndexes (indexIds games indexes) app = some game := by
  unfold matchAppAgainstIndexes
  unfold App.playniteId at carries same
  cases text : app.text? "playnite-id" with
  | none => rw [text] at carries; exact absurd rfl carries
  | some id =>
      rw [text, Option.getD_some] at same
      dsimp only
      rw [text, Option.bind_some, same, lookup_indexIds distinct named member, Option.some_or]

end UmbraHost.Playnite
