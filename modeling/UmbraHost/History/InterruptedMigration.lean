import UmbraHost.History.MigrationRuns

/-! # Migrations that are cut off and run again

The rows of a session history survive a stop between any two statements of a migration.  The
next one recovers from it unless a child table had its temporary name just then. -/

namespace UmbraHost.History.Migration

open UmbraHost.Interaction UmbraHost.Sql

variable {db : Database Cell} {child : ChildTable}

/-! ## The calls of a migration -/

section Calls

variable {allowed : DbRequest Cell → Prop}

theorem makes_below {current bound : Int} {steps : List (Client Cell Bool)}
    (each : ∀ step ∈ steps, Makes allowed step) : Makes allowed (below current bound steps) := by
  unfold below
  split
  · exact .allOf each
  · trivial

theorem makes_addColumn {table column : String} {fallback : Option Cell}
    (asks : allowed (.columnExists table column))
    (adds : allowed (.exec (.addColumn table column fallback))) :
    Makes allowed (addColumn table column fallback) := by
  apply Makes.bind (makes_perform asks)
  intro found
  cases found with
  | true => trivial
  | false => exact makes_perform adds

theorem makes_renameColumn {table oldName newName : String}
    (asks : ∀ column, allowed (.columnExists table column))
    (renames : allowed (.exec (.renameColumn table oldName newName))) :
    Makes allowed (renameColumn table oldName newName) := by
  apply Makes.bind (makes_perform (asks oldName))
  intro found
  cases found with
  | false => trivial
  | true =>
      apply Makes.bind (makes_perform (asks newName))
      intro renamed
      cases renamed with
      | true => trivial
      | false => exact makes_perform renames

/-- The steps before the rebuild of the child tables only change columns. -/
theorem makes_columns (asks : ∀ table column, allowed (.columnExists table column))
    (adds : ∀ table column fallback, allowed (.exec (.addColumn table column fallback)))
    (renames : ∀ table oldName newName, allowed (.exec (.renameColumn table oldName newName)))
    (schemaVersion current : Int) :
    ∀ step ∈ (migrations schemaVersion current).take 5, Makes allowed step := by
  have add : ∀ table column fallback, Makes allowed (addColumn table column fallback) :=
    fun table column fallback => makes_addColumn (asks table column) (adds table column fallback)
  have rename : ∀ table oldName newName, Makes allowed (renameColumn table oldName newName) :=
    fun table oldName newName => makes_renameColumn (asks table) (renames table oldName newName)
  simp only [migrations, List.take, List.forall_mem_cons]
  refine ⟨makes_below ?_, makes_below ?_, makes_below ?_, makes_below ?_, makes_below ?_, nofun⟩
  · simp [add]
  · simp [add]
  · simp [add]
  · simp [add]
  · simp [rename]

theorem makes_rebuild {child : ChildTable}
    (keys : ∀ enabled, allowed (.exec (.foreignKeys enabled)))
    (script : ∀ sql ∈ [.renameTable child.tableName child.tempName,
      .createTable false child.tableName child.columns,
      .insertSelect child.tableName child.columnList child.tempName,
      .dropTable child.tempName] ++ child.indexes ++ [.foreignKeys true], allowed (.exec sql)) :
    Makes allowed (rebuildWithCascade child) := by
  apply Makes.bind (makes_perform (keys false))
  intro off
  cases off with
  | false => trivial
  | true =>
      apply Makes.bind (makes_execAll script)
      intro rebuilt
      exact .bind (makes_perform (keys true)) fun _ => trivial

end Calls

theorem completes_addCascades (current : Int) : Completes (addCascades current) := by
  have rebuilds : ∀ child, Completes (rebuildWithCascade child) :=
    fun child => makes_rebuild (fun _ => trivial) fun _ _ => trivial
  have query : Completes (cascadesComplete current) := by
    unfold cascadesComplete
    split
    · trivial
    · exact .allOf (by simp [hasDeleteCascade, makes_perform])
  apply Makes.bind query
  intro complete
  cases complete with
  | true => trivial
  | false => exact .allOf (by simp [rebuilds])

theorem completes_applySchemaAndMigrations (schemaVersion : Int) :
    Completes (applySchemaAndMigrations schemaVersion) := by
  refine Makes.bind (.anyOf (by simp [tableExists, makes_perform])) fun had => ?_
  refine Makes.bind (makes_execAll fun _ _ => trivial) fun created => ?_
  cases created with
  | false => trivial
  | true =>
      cases had with
      | false => exact makes_perform trivial
      | true =>
          refine .bind (makes_perform trivial) fun current => .allOf ?_
          have split := List.take_append_drop 5 (migrations schemaVersion current)
          rw [← split]
          refine List.forall_mem_append.mpr ⟨?_, ?_⟩
          · exact makes_columns (fun _ _ => trivial) (fun _ _ _ => trivial)
              (fun _ _ _ => trivial) schemaVersion current
          · simp only [migrations, List.drop, List.forall_mem_cons]
            exact ⟨completes_addCascades current, makes_perform trivial, nofun⟩

/-! ## A table under its temporary name -/

/-- Requests that leave the table there, and do not end a migration. -/
def Spares (child : ChildTable) : DbRequest Cell → Prop
  | .exec sql => ¬ sql.Removes child.tempName ∧ ¬ sql.Removes "sessions" ∧
      ∀ version, sql ≠ .userVersion version
  | _ => True

abbrev anyway : Contract (DbRequest Cell) Reply (Database Cell) :=
  Contract.answering answer fun _ => True

variable {version : Int}

theorem Displaced.keeps {request : DbRequest Cell} (displaced : Displaced child version db)
    (spares : Spares child request) : Displaced child version (answer db request).2 := by
  cases request with
  | exec sql =>
      obtain ⟨temp, sessions, other⟩ := spares
      cases done : sql.exec db with
      | none =>
          rw [answer_exec_fails done]
          exact displaced
      | some after =>
          rw [answer_exec done]
          exact ⟨Statement.exec_keeps done temp displaced.temp,
            Statement.exec_keeps done sessions displaced.sessions,
            (Statement.exec_userVersion done other).trans displaced.version⟩
  | _ => exact displaced

theorem Displaced.wp_spares {program : Client Cell α} (displaced : Displaced child version db)
    (spares : OnlyCalls (Spares child) program) :
    wp anyway program (fun _ => Displaced child version) db := by
  apply spares.keeps _ _ (fun _ _ _ _ => trivial) displaced
  intro before event after allowed holds moved
  have kept := holds.keeps allowed
  rw [show answer before event.1 = (event.2, after) from moved] at kept
  exact kept

theorem spares_schemaSql (child : ChildTable) : OnlyCalls (Spares child) (execAll schemaSql) := by
  apply (makes_execAll _).onlyCalls
  simp [schemaSql, Spares, Statement.Removes]

theorem spares_indexes (child other : ChildTable) :
    ∀ sql ∈ other.indexes, Spares child (.exec sql) := by
  cases other <;> simp [ChildTable.indexes, Spares, Statement.Removes]

theorem spares_rebuild {other : ChildTable} (different : other ≠ child) :
    OnlyCalls (Spares child) (rebuildWithCascade other) := by
  have temps : child.tempName ≠ other.tempName := fun same => different (tempName_inj same).symm
  apply (makes_rebuild (fun _ => ⟨id, id, fun _ same => by cases same⟩) _).onlyCalls
  intro sql member
  simp only [List.cons_append, List.nil_append, List.mem_cons, List.mem_append,
    List.not_mem_nil, or_false] at member
  rcases member with rfl | rfl | rfl | rfl | isIndex | rfl
  · exact ⟨tempName_ne_tableName child other, (tableName_ne_sessions other).symm,
      fun _ same => by cases same⟩
  · exact ⟨id, id, fun _ same => by cases same⟩
  · exact ⟨id, id, fun _ same => by cases same⟩
  · exact ⟨temps, (tempName_ne_sessions other).symm, fun _ same => by cases same⟩
  · exact spares_indexes child other sql isIndex
  · exact ⟨id, id, fun _ same => by cases same⟩

theorem spares_columns (child : ChildTable) (schemaVersion current : Int) :
    ∀ step ∈ (migrations schemaVersion current).take 5, OnlyCalls (Spares child) step := by
  intro step member
  have makes : Makes (Spares child) step := makes_columns (fun _ _ => trivial)
    (fun _ _ _ => ⟨id, id, nofun⟩) (fun _ _ _ => ⟨id, id, nofun⟩) _ _ step member
  exact makes.onlyCalls

/-- The table cannot be renamed to a name that is taken. -/
theorem Displaced.rebuild_fails (displaced : Displaced child version db) :
    wp anyway (rebuildWithCascade child) (fun succeeded _ => succeeded = false) db := by
  apply (wp_bind _ _).mpr
  refine wp_exec rfl trivial ?_
  apply wp_seq fun succeeded _ => succeeded = false
  · exact wp_execAll_fails (Statement.exec_renameTable_taken displaced.temp) trivial rfl
  · rintro succeeded after rfl
    apply (wp_bind _ _).mpr
    exact wp_exec rfl trivial rfl

theorem Displaced.rebuild_first_fails (displaced : Displaced child version db)
    (rest : List (Client Cell Bool)) :
    wp anyway (Program.allOf (rebuildWithCascade child :: rest))
      (fun succeeded _ => succeeded = false) db := by
  apply wp_allOf_cons
  apply wp_mono _ displaced.rebuild_fails
  rintro succeeded after rfl
  rfl

theorem Displaced.addCascades_fails (displaced : Displaced child version db)
    (old : version < sessionHistorySchemaVersion) :
    wp anyway (addCascades version) (fun succeeded _ => succeeded = false) db := by
  have incomplete : cascadesComplete version = pure false := if_pos old
  rw [addCascades, incomplete]
  cases child with
  | samples => exact displaced.rebuild_first_fails _
  | events =>
      apply wp_allOf_false [rebuildWithCascade .samples] [rebuildWithCascade .events]
        (Displaced .events version) _ _ displaced
      · intro program member before displaced
        rw [List.mem_singleton.mp member]
        exact displaced.wp_spares (spares_rebuild (by simp))
      · intro after displaced
        exact displaced.rebuild_first_fails _

theorem Displaced.migrations_fail (displaced : Displaced child version db)
    (old : version < sessionHistorySchemaVersion) :
    wp anyway (Program.allOf (migrations sessionHistorySchemaVersion version))
      (fun succeeded _ => succeeded = false) db := by
  apply wp_allOf_false ((migrations sessionHistorySchemaVersion version).take 5)
    [addCascades version, exec (.userVersion sessionHistorySchemaVersion)]
    (Displaced child version) _ _ displaced
  · intro step member before displaced
    exact displaced.wp_spares (spares_columns child _ _ step member)
  · intro after displaced
    apply wp_allOf_cons
    apply wp_mono _ (displaced.addCascades_fails old)
    rintro succeeded after rfl
    rfl

theorem Displaced.apply_fails (displaced : Displaced child version db)
    (old : version < sessionHistorySchemaVersion) :
    wp anyway (applySchemaAndMigrations sessionHistorySchemaVersion)
      (fun succeeded _ => succeeded = false) db := by
  apply wp_seq fun had after => had = true ∧ Displaced child version after
  · apply (wp_bind _ _).mpr
    apply (wp_answering_perform _).mpr
    have found : (db.relations "sessions").isSome = true :=
      Option.isSome_iff_ne_none.mpr displaced.sessions
    simp only [answer, found, if_true]
    exact ⟨trivial, rfl, displaced⟩
  rintro had after ⟨rfl, displaced⟩
  apply wp_seq _ (displaced.wp_spares (spares_schemaSql child))
  intro created middle displaced
  cases created with
  | false => rfl
  | true =>
      apply (wp_bind _ _).mpr
      apply (wp_answering_perform _).mpr
      refine ⟨trivial, ?_⟩
      simp only [answer, displaced.version]
      exact displaced.migrations_fail old

/-! ## Running it again -/

abbrev migration : Client Cell Bool := applySchemaAndMigrations sessionHistorySchemaVersion

/-- The next migration recovers from a stop exactly if no table has its temporary name. -/
theorem migrated_again_iff (earlier : EarlierVersion db) {stopped : Database Cell}
    (reached : stopped ∈ migration.states answer db) :
    (∃ again, migration.finish answer (openWriteDb stopped) = (some true, again) ∧
      Migrated db again) ↔ ∀ child : ChildTable, stopped.relations child.tempName = none := by
  have complete := completes_applySchemaAndMigrations sessionHistorySchemaVersion
  have remains := wp_states (wp_applySchemaAndMigrations earlier.toShape) complete
    (fun _ _ done => .inl ⟨done.2.1, done.2.2.kept⟩) stopped reached
  rcases remains with ⟨shape, kept⟩ | ⟨child, displaced⟩
  · refine ⟨fun _ => shape.temps, fun _ => ?_⟩
    obtain ⟨_, again, ended, rfl, _, migrated⟩ :=
      wp_finish (wp_applySchemaAndMigrations (shape.setForeignKeys true)) complete
    exact ⟨again, ended, kept.trans migrated.kept, migrated.version⟩
  · refine ⟨?_, fun none => (displaced.temp (none child)).elim⟩
    rintro ⟨again, ended, _⟩
    have opened : Displaced child db.userVersion (openWriteDb stopped) :=
      ⟨displaced.temp, displaced.sessions, displaced.version⟩
    obtain ⟨_, final, other, failed⟩ := wp_finish (opened.apply_fails earlier.version) complete
    rw [ended] at other
    cases other
    cases failed

/-- One row with a value everywhere. -/
def oneRow (columns : List (Column Cell)) : Relation Cell where
  columns := columns
  rows := [fun _ => some (.integer 1)]
  admitted := by
    intro column _
    constructor
    · simp
    · simp

def withoutCascade (column : Column Cell) : Column Cell :=
  { column with references := column.references.map ({ · with onDeleteCascade := false }) }

def versionSix : Database Cell where
  relations name :=
    if name = "sessions" then some (oneRow sessionsColumns)
    else if name = "samples" then some (oneRow (samplesColumns.map withoutCascade))
    else if name = "events" then some (oneRow (eventsColumns.map withoutCascade))
    else none
  userVersion := 6
  foreignKeys := true

theorem fits_withoutCascade (child : ChildTable) (version : Int) :
    child.Fits version (oneRow (child.columns.map withoutCascade)) where
  known name member := by
    obtain ⟨changed, inside, rfl⟩ := List.mem_map.mp member
    obtain ⟨column, there, rfl⟩ := List.mem_map.mp inside
    exact List.mem_map.mpr ⟨column, there, rfl⟩
  declared column member := .inr ⟨withoutCascade column, List.mem_map_of_mem member, rfl, rfl, rfl⟩

theorem versionSix_earlier : EarlierVersion versionSix where
  sessions := ⟨oneRow sessionsColumns, rfl, by decide⟩
  children child relation found := by
    cases child <;> cases found
    · exact fits_withoutCascade .samples 6
    · exact fits_withoutCascade .events 6
  temps child := by cases child <;> rfl
  version := by decide

theorem versionSix_migrated_again :
    (∃ again, migration.finish answer (openWriteDb versionSix) = (some true, again) ∧
      Migrated versionSix again) ↔
        ∀ child : ChildTable, versionSix.relations child.tempName = none :=
  migrated_again_iff versionSix_earlier (mem_states_self _ _)

/-- A stop right after samples got its temporary name. -/
theorem stop_after_rename :
    ¬ ∀ db, EarlierVersion db → ∀ stopped ∈ migration.states answer db,
      ∃ again, migration.finish answer (openWriteDb stopped) = (some true, again) ∧
        Migrated db again := by
  intro all
  have stops : ∃ stopped ∈ migration.states answer versionSix,
      (migration.finish answer (openWriteDb stopped)).1 = some false := by
    decide +kernel
  obtain ⟨stopped, reached, fails⟩ := stops
  obtain ⟨again, ended, _⟩ := all versionSix versionSix_earlier stopped reached
  rw [ended] at fails
  cases fails

end UmbraHost.History.Migration
