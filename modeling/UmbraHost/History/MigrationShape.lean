import UmbraHost.Sql.Carried
import UmbraHost.History.Migration

/-! # Databases a migration can start from

What the tables of a history database of any version look like, and what it means that a later
database has kept their rows. -/

namespace UmbraHost.History.Migration

open UmbraHost.Interaction UmbraHost.Sql

/-- A table of the version at hand, all constraints included.  The foreign key may be any. -/
structure ChildTable.Fits (child : ChildTable) (version : Int) (relation : Relation Cell) :
    Prop where
  known : ∀ name ∈ relation.names, name ∈ child.columnList
  declared : ∀ column ∈ child.columns,
    (version < 3 ∧ child = .samples ∧ column.name ∈ hostColumns) ∨
      ∃ old ∈ relation.columns, old.name = column.name ∧ old.notNull = column.notNull ∧
        old.primaryKey = column.primaryKey

/-- A database that a migration can start from. -/
structure Shape (db : Database Cell) : Prop where
  sessions : ∃ relation, db.relations "sessions" = some relation ∧
    "end_time_unix" ∈ relation.names
  children : ∀ child : ChildTable, ∀ relation, db.relations child.tableName = some relation →
    child.Fits db.userVersion relation
  temps : ∀ child : ChildTable, db.relations child.tempName = none

/-- A history database of an earlier version, with any rows; tables that were never created may
be missing. -/
structure EarlierVersion (db : Database Cell) : Prop extends Shape db where
  version : db.userVersion < sessionHistorySchemaVersion

/-- The names a column may have after the migration. -/
def RenamedTo (name current : String) : Prop :=
  current = name ∨
    (name = "target_bitrate_kbps" ∧ current = "encoder_bitrate_kbps") ∨
      (name = "target_requested_bitrate_kbps" ∧ current = "requested_bitrate_kbps")

theorem renamedTo_refl (name : String) : RenamedTo name name :=
  .inl rfl

theorem RenamedTo.trans (first second third : String) (front : RenamedTo first second)
    (back : RenamedTo second third) : RenamedTo first third := by
  rcases front with rfl | ⟨rfl, rfl⟩ | ⟨rfl, rfl⟩
  · exact back
  all_goals
    rcases back with rfl | ⟨same, _⟩ | ⟨same, _⟩
    · simp [RenamedTo]
    · simp at same
    · simp at same

def historyTables : List String := ["sessions", "samples", "events"]

/-- Each row of the three tables is there exactly once, and no other. -/
def Kept (before after : Database Cell) : Prop :=
  ∀ table ∈ historyTables, Carried RenamedTo (before.relation table) (after.relation table)

theorem Kept.refl (db : Database Cell) : Kept db db :=
  fun _ _ => .refl renamedTo_refl _

theorem Kept.trans {first second third : Database Cell} (front : Kept first second)
    (back : Kept second third) : Kept first third :=
  fun table member => (front table member).trans RenamedTo.trans (back table member)

/-- A child table has its temporary name. -/
structure Displaced (child : ChildTable) (version : Int) (db : Database Cell) : Prop where
  temp : db.relations child.tempName ≠ none
  sessions : db.relations "sessions" ≠ none
  version : db.userVersion = version

variable {db after base : Database Cell} {child : ChildTable} {relation : Relation Cell}

theorem tableName_ne_sessions (child : ChildTable) : child.tableName ≠ "sessions" := by
  cases child <;> simp [ChildTable.tableName]

theorem tempName_ne_sessions (child : ChildTable) : child.tempName ≠ "sessions" := by
  cases child <;> simp [ChildTable.tempName]

theorem tempName_ne_tableName (child other : ChildTable) : child.tempName ≠ other.tableName := by
  cases child <;> cases other <;> simp [ChildTable.tempName, ChildTable.tableName]

theorem tableName_inj {child other : ChildTable} (same : other.tableName = child.tableName) :
    other = child := by
  cases child <;> cases other <;> first | rfl | simp [ChildTable.tableName] at same

theorem tempName_inj {child other : ChildTable} (same : other.tempName = child.tempName) :
    other = child := by
  cases child <;> cases other <;> first | rfl | simp [ChildTable.tempName] at same

/-! ## Changes to one table -/

theorem Shape.set_child (shape : Shape db) (fits : child.Fits db.userVersion relation) :
    Shape (db.set child.tableName (some relation)) where
  sessions := by
    rw [Database.relations_set_of_ne _ (tableName_ne_sessions child).symm]
    exact shape.sessions
  children := by
    intro other found there
    by_cases same : other.tableName = child.tableName
    · obtain rfl := tableName_inj same
      rw [Database.relations_set] at there
      exact Option.some.inj there ▸ fits
    · rw [Database.relations_set_of_ne _ same] at there
      exact shape.children other found there
  temps := by
    intro other
    rw [Database.relations_set_of_ne _ (tempName_ne_tableName other child)]
    exact shape.temps other

theorem Shape.set_sessions (shape : Shape db) (indexed : "end_time_unix" ∈ relation.names) :
    Shape (db.set "sessions" (some relation)) where
  sessions := ⟨relation, Database.relations_set _, indexed⟩
  children := by
    intro other found there
    rw [Database.relations_set_of_ne _ (tableName_ne_sessions other)] at there
    exact shape.children other found there
  temps := by
    intro other
    rw [Database.relations_set_of_ne _ (tempName_ne_sessions other)]
    exact shape.temps other

theorem Kept.set {table : String} (kept : Kept base db)
    (carried : Carried RenamedTo (db.relation table) relation) :
    Kept base (db.set table (some relation)) := by
  apply kept.trans
  intro name _
  by_cases same : name = table
  · rw [same, Database.relation_eq (Database.relations_set _)]
    exact carried
  · rw [Database.relation_set_of_ne _ same]
    exact .refl renamedTo_refl _

theorem fits_columns {relation : Relation Cell} (same : relation.columns = child.columns)
    (version : Int) : child.Fits version relation where
  known name member := by
    rw [ChildTable.columnList, ← same]
    exact member
  declared column member := .inr ⟨column, same ▸ member, rfl, rfl, rfl⟩

theorem ChildTable.Fits.addColumn {version : Int} {name : String} {fallback : Option Cell}
    (fits : child.Fits version relation) (known : name ∈ child.columnList)
    (fresh : name ∉ relation.names) :
    child.Fits version (relation.addColumn name fallback fresh) where
  known other member := by
    rw [names_addColumn] at member
    rcases List.mem_append.mp member with old | new
    · exact fits.known other old
    · rw [List.mem_singleton.mp new]
      exact known
  declared column member := by
    rcases fits.declared column member with later | ⟨old, inside, same⟩
    · exact .inl later
    · exact .inr ⟨old, List.mem_append_left _ inside, same⟩

theorem hostColumns_unconstrained :
    ∀ column ∈ samplesColumns, column.name ∈ hostColumns →
      column.notNull = false ∧ column.primaryKey = false := by
  simp [samplesColumns, hostColumns, idColumn, sessionUuidColumn]

/-- The rows of a child table satisfy the constraints of its current version. -/
theorem ChildTable.Fits.admits {version : Int} (fits : child.Fits version relation)
    {column : Column Cell} (member : column ∈ child.columns) : column.Admits relation.rows := by
  rcases fits.declared column member with ⟨_, rfl, later⟩ | ⟨old, inside, name, null, key⟩
  · obtain ⟨null, key⟩ := hostColumns_unconstrained column member later
    exact ⟨fun required => by simp [null] at required, fun required => by simp [key] at required⟩
  · refine (relation.admitted old inside).of_values null.symm key.symm ?_
    rw [name]

end UmbraHost.History.Migration
