import Mathlib.Data.List.Forall2
import UmbraHost.Interaction.Answered

/-! # Schema statements of an SQL database

A database as its tables by name, and what the statements of a schema migration do to it.
Each of them succeeds as a whole or leaves the database as it was.  Indexes are not kept. -/

namespace UmbraHost.Sql

open UmbraHost.Interaction

/-- A foreign key clause of a column. -/
structure Reference where
  table : String
  column : String
  onDeleteCascade : Bool
deriving DecidableEq

structure Column (Cell : Type) where
  name : String
  notNull : Bool := false
  primaryKey : Bool := false
  fallback : Option Cell := none
  references : Option Reference := none

/-- A value for each column, `none` for NULL; there is nothing to read at other names. -/
abbrev Row (Cell : Type) := String → Option Cell

variable {Cell : Type}

/-- The constraints of a column that only depend on its own table. -/
def Column.Admits (column : Column Cell) (rows : List (Row Cell)) : Prop :=
  (column.notNull = true → ∀ row ∈ rows, (row column.name).isSome = true) ∧
    (column.primaryKey = true → (rows.filterMap (· column.name)).Nodup)

instance [DecidableEq Cell] (column : Column Cell) (rows : List (Row Cell)) :
    Decidable (column.Admits rows) :=
  inferInstanceAs (Decidable (_ ∧ _))

theorem Column.admits_nil (column : Column Cell) : column.Admits [] :=
  ⟨fun _ => nofun, fun _ => List.nodup_nil⟩

/-- The constraints are about the values of the column alone. -/
theorem Column.Admits.of_values {column other : Column Cell} {rows others : List (Row Cell)}
    (admits : column.Admits rows) (notNull : other.notNull = column.notNull)
    (primaryKey : other.primaryKey = column.primaryKey)
    (values : others.map (· other.name) = rows.map (· column.name)) : other.Admits others := by
  constructor
  · intro required row member
    have there : row other.name ∈ rows.map (· column.name) :=
      values ▸ List.mem_map_of_mem member
    obtain ⟨original, inside, same⟩ := List.mem_map.mp there
    rw [← same]
    exact admits.1 (notNull ▸ required) original inside
  · intro key
    have distinct := admits.2 (primaryKey ▸ key)
    have both := congrArg (List.filterMap id) values
    rw [List.filterMap_map, List.filterMap_map] at both
    exact both ▸ distinct

structure Relation (Cell : Type) where
  columns : List (Column Cell)
  rows : List (Row Cell)
  admitted : ∀ column ∈ columns, column.Admits rows

namespace Relation

def names (relation : Relation Cell) : List String :=
  relation.columns.map (·.name)

def empty (columns : List (Column Cell)) : Relation Cell where
  columns := columns
  rows := []
  admitted column _ := column.admits_nil

theorem name_mem {relation : Relation Cell} {column : Column Cell}
    (member : column ∈ relation.columns) : column.name ∈ relation.names :=
  List.mem_map_of_mem member

def addColumn (relation : Relation Cell) (name : String) (fallback : Option Cell)
    (fresh : name ∉ relation.names) : Relation Cell where
  columns := relation.columns ++ [{ name := name, fallback := fallback }]
  rows := relation.rows.map fun row => Function.update row name fallback
  admitted := by
    intro column member
    rcases List.mem_append.mp member with old | new
    · apply (relation.admitted column old).of_values rfl rfl
      have other : column.name ≠ name := fun same => fresh (same ▸ name_mem old)
      simp [Function.update_of_ne other]
    · rw [List.mem_singleton.mp new]
      exact ⟨nofun, nofun⟩

def renameColumn (relation : Relation Cell) (old new : String) (fresh : new ∉ relation.names) :
    Relation Cell where
  columns := relation.columns.map fun column =>
    if column.name = old then { column with name := new } else column
  rows := relation.rows.map fun row => Function.update row new (row old)
  admitted := by
    intro renamed member
    obtain ⟨column, inside, rfl⟩ := List.mem_map.mp member
    split
    next same =>
      refine Column.Admits.of_values (relation.admitted column inside) rfl rfl ?_
      simp [same]
    next =>
      apply (relation.admitted column inside).of_values rfl rfl
      have other : column.name ≠ new := fun same => fresh (same ▸ name_mem inside)
      simp [Function.update_of_ne other]

/-- The value of a column that an insertion does not name. -/
def fallback (relation : Relation Cell) (name : String) : Option Cell :=
  (relation.columns.find? (·.name = name)).bind (·.fallback)

/-- The row that the named columns make in a table. -/
def select (relation : Relation Cell) (columns : List String) (row : Row Cell) : Row Cell :=
  fun name => if name ∈ columns then row name else relation.fallback name

def append (relation : Relation Cell) (rows : List (Row Cell))
    (admitted : ∀ column ∈ relation.columns, column.Admits (relation.rows ++ rows)) :
    Relation Cell where
  columns := relation.columns
  rows := relation.rows ++ rows
  admitted := admitted

end Relation

structure Database (Cell : Type) where
  relations : String → Option (Relation Cell)
  userVersion : Int
  foreignKeys : Bool

namespace Database

/-- A table that does not exist has no rows. -/
def relation (db : Database Cell) (table : String) : Relation Cell :=
  (db.relations table).getD (.empty [])

def set (db : Database Cell) (table : String) (relation : Option (Relation Cell)) :
    Database Cell :=
  { db with relations := Function.update db.relations table relation }

/-- The foreign key of the column finds its row, or is NULL. -/
def refers [DecidableEq Cell] (db : Database Cell) (column : Column Cell) (row : Row Cell) :
    Bool :=
  column.references.all fun reference =>
    (row column.name).isNone ||
      (db.relation reference.table).rows.any (· reference.column == row column.name)

end Database

inductive Statement (Cell : Type) where
  | setting (name value : String)
  | createTable (ifNotExists : Bool) (table : String) (columns : List (Column Cell))
  | createIndex (name table : String) (columns : List String)
  | addColumn (table name : String) (fallback : Option Cell)
  | renameColumn (table old new : String)
  | renameTable (table new : String)
  | insertSelect (table : String) (columns : List String) (source : String)
  | dropTable (table : String)
  | foreignKeys (enabled : Bool)
  | userVersion (version : Int)

/-- The database after a statement, unless it fails.  An index is created if it does not exist,
and takes no more than its columns. -/
def Statement.exec [DecidableEq Cell] (db : Database Cell) :
    Statement Cell → Option (Database Cell)
  | .setting _ _ => some db
  | .createTable ifNotExists table columns =>
      match db.relations table with
      | none => some (db.set table (some (.empty columns)))
      | some _ => if ifNotExists then some db else none
  | .createIndex _ table columns =>
      match db.relations table with
      | none => none
      | some relation => if ∀ name ∈ columns, name ∈ relation.names then some db else none
  | .addColumn table name fallback =>
      match db.relations table with
      | none => none
      | some relation =>
          if fresh : name ∉ relation.names then
            some (db.set table (some (relation.addColumn name fallback fresh)))
          else none
  | .renameColumn table old new =>
      match db.relations table with
      | none => none
      | some relation =>
          if fresh : new ∉ relation.names then
            if old ∈ relation.names then
              some (db.set table (some (relation.renameColumn old new fresh)))
            else none
          else none
  | .renameTable table new =>
      match db.relations table, db.relations new with
      | some relation, none => some ((db.set table none).set new (some relation))
      | _, _ => none
  | .insertSelect table columns source =>
      match db.relations table, db.relations source with
      | some target, some origin =>
          let rows := origin.rows.map (target.select columns)
          if admitted : ∀ column ∈ target.columns, column.Admits (target.rows ++ rows) then
            if (∀ name ∈ columns, name ∈ target.names ∧ name ∈ origin.names) ∧
                (db.foreignKeys = true →
                  ∀ column ∈ target.columns, ∀ row ∈ rows, db.refers column row = true) then
              some (db.set table (some (target.append rows admitted)))
            else none
          else none
      | _, _ => none
  | .dropTable table =>
      match db.relations table with
      | none => none
      | some _ => some (db.set table none)
  | .foreignKeys enabled => some { db with foreignKeys := enabled }
  | .userVersion version => some { db with userVersion := version }

/-! ## Clients -/

inductive DbRequest (Cell : Type) where
  | exec (sql : Statement Cell)
  | tableExists (table : String)
  | columnExists (table column : String)
  | userVersion
  | hasDeleteCascade (table parent source : String)

abbrev Reply : DbRequest Cell → Type
  | .userVersion => Int
  | _ => Bool

abbrev Client (Cell α : Type) := Program (DbRequest Cell) Reply α

def exec (sql : Statement Cell) : Client Cell Bool := Program.perform (DbRequest.exec sql)

def tableExists (table : String) : Client Cell Bool := Program.perform (DbRequest.tableExists table)

def columnExists (table column : String) : Client Cell Bool :=
  Program.perform (DbRequest.columnExists table column)

def readUserVersion : Client Cell Int := Program.perform DbRequest.userVersion

def hasDeleteCascade (table parent source : String) : Client Cell Bool :=
  Program.perform (DbRequest.hasDeleteCascade table parent source)

/-- A script, which ends at its first failure. -/
def execAll (script : List (Statement Cell)) : Client Cell Bool :=
  Program.allOf (script.map exec)

def answer [DecidableEq Cell] (db : Database Cell) :
    (request : DbRequest Cell) → Reply request × Database Cell
  | .exec sql =>
      match sql.exec db with
      | some after => (true, after)
      | none => (false, db)
  | .tableExists table => ((db.relations table).isSome, db)
  | .columnExists table column => (decide (column ∈ (db.relation table).names), db)
  | .userVersion => (db.userVersion, db)
  | .hasDeleteCascade table parent source =>
      ((db.relation table).columns.any fun column =>
        column.name == source && column.references.any fun reference =>
          reference.table == parent && reference.onDeleteCascade, db)

/-! ## Rules for clients -/

theorem makes_execAll {allowed : DbRequest Cell → Prop} {script : List (Statement Cell)}
    (each : ∀ sql ∈ script, allowed (.exec sql)) : Makes allowed (execAll script) := by
  apply Makes.allOf
  intro program member
  obtain ⟨sql, inside, rfl⟩ := List.mem_map.mp member
  exact makes_perform (each sql inside)

section Rules

variable [DecidableEq Cell] {db after : Database Cell} {sql : Statement Cell}
  {script : List (Statement Cell)} {invariant : Database Cell → Prop}
  {post : Bool → Database Cell → Prop}

theorem answer_exec (done : sql.exec db = some after) : answer db (.exec sql) = (true, after) := by
  simp only [answer, done]

theorem answer_exec_fails (fails : sql.exec db = none) : answer db (.exec sql) = (false, db) := by
  simp only [answer, fails]

theorem wp_exec (done : sql.exec db = some after) (here : invariant db) (goal : post true after) :
    wp (Contract.answering answer invariant) (exec sql) post db := by
  apply (wp_answering_perform _).mpr
  rw [answer_exec done]
  exact ⟨here, goal⟩

theorem wp_exec_fails (fails : sql.exec db = none) (here : invariant db) (goal : post false db) :
    wp (Contract.answering answer invariant) (exec sql) post db := by
  apply (wp_answering_perform _).mpr
  rw [answer_exec_fails fails]
  exact ⟨here, goal⟩

theorem wp_execAll_nil (goal : post true db) :
    wp (Contract.answering answer invariant) (execAll []) post db :=
  goal

theorem wp_execAll_cons (done : sql.exec db = some after) (here : invariant db)
    (rest : wp (Contract.answering answer invariant) (execAll script) post after) :
    wp (Contract.answering answer invariant) (execAll (sql :: script)) post db :=
  wp_allOf_cons (wp_exec done here rest)

theorem wp_execAll_fails (fails : sql.exec db = none) (here : invariant db)
    (goal : post false db) :
    wp (Contract.answering answer invariant) (execAll (sql :: script)) post db :=
  wp_allOf_cons (wp_exec_fails fails here goal)

end Rules

/-! ## What the statements do -/

namespace Database

variable {db : Database Cell} {table other : String} {relation : Relation Cell}

@[simp] theorem relations_set (change : Option (Relation Cell)) :
    (db.set table change).relations table = change :=
  Function.update_self ..

theorem relations_set_of_ne (change : Option (Relation Cell)) (different : other ≠ table) :
    (db.set table change).relations other = db.relations other :=
  Function.update_of_ne different ..

@[simp] theorem userVersion_set (change : Option (Relation Cell)) :
    (db.set table change).userVersion = db.userVersion :=
  rfl

theorem relation_eq (found : db.relations table = some relation) :
    db.relation table = relation := by
  rw [Database.relation, found]
  rfl

theorem relation_set_of_ne (change : Option (Relation Cell)) (different : other ≠ table) :
    (db.set table change).relation other = db.relation other := by
  rw [Database.relation, relations_set_of_ne _ different]
  rfl

theorem relation_missing (missing : db.relations table = none) :
    db.relation table = .empty [] := by
  rw [Database.relation, missing]
  rfl

end Database

namespace Statement

variable [DecidableEq Cell] {db after : Database Cell} {table other : String}
  {relation : Relation Cell} {sql : Statement Cell}

theorem exec_index {name table : String} {columns : List String}
    (found : db.relations table = some relation) (known : ∀ name ∈ columns, name ∈ relation.names) :
    (createIndex name table columns).exec db = some db := by
  simp only [exec, found]
  exact if_pos known

theorem exec_createTable {table : String} (ifNotExists : Bool) (columns : List (Column Cell))
    (missing : db.relations table = none) :
    (createTable ifNotExists table columns).exec db =
      some (db.set table (some (.empty columns))) := by
  simp only [exec, missing]

theorem exec_createTable_existing {table : String} (columns : List (Column Cell))
    (found : db.relations table = some relation) :
    (createTable true table columns).exec db = some db := by
  simp only [exec, found, if_true]

theorem exec_renameTable {table new : String} (found : db.relations table = some relation)
    (missing : db.relations new = none) :
    (renameTable table new).exec db =
      some ((db.set table none).set new (some relation)) := by
  simp only [exec, found, missing]

theorem exec_renameTable_taken {table new : String} (taken : db.relations new ≠ none) :
    (renameTable table new).exec db = none := by
  simp only [exec]
  split
  next missing => exact (taken missing).elim
  next => rfl

theorem exec_dropTable {table : String} (relation : Relation Cell)
    (found : db.relations table = some relation) :
    (dropTable table).exec db = some (db.set table none) := by
  simp only [exec, found]

/-- The table after the copy. -/
theorem exec_insertSelect {table source : String} {columns : List String}
    {target origin : Relation Cell} (found : db.relations table = some target)
    (there : db.relations source = some origin) (off : db.foreignKeys = false)
    (known : ∀ name ∈ columns, name ∈ target.names ∧ name ∈ origin.names)
    (admitted : ∀ column ∈ target.columns,
      column.Admits (target.rows ++ origin.rows.map (target.select columns))) :
    (insertSelect table columns source).exec db =
      some (db.set table (some (target.append _ admitted))) := by
  simp only [exec, found, there]
  rw [dif_pos admitted, if_pos]
  refine ⟨known, ?_⟩
  intro on
  rw [off] at on
  cases on

/-- The tables that a statement takes away. -/
def Removes : Statement Cell → String → Prop
  | .renameTable table _, name | .dropTable table, name => name = table
  | _, _ => False

/-- All other tables stay. -/
theorem exec_keeps (done : sql.exec db = some after) (stays : ¬ sql.Removes table)
    (found : db.relations table ≠ none) : after.relations table ≠ none := by
  have keeps : ∀ name relation, (db.set name (some relation)).relations table ≠ none := by
    intro name relation
    by_cases same : table = name
    · rw [same, Database.relations_set]
      exact Option.some_ne_none relation
    · rw [Database.relations_set_of_ne _ same]
      exact found
  cases sql with
  | setting | foreignKeys | userVersion =>
      cases done
      exact found
  | createTable ifNotExists name columns =>
      simp only [exec] at done
      split at done
      · cases done
        exact keeps name _
      · split at done <;> cases done
        exact found
  | createIndex name on columns =>
      simp only [exec] at done
      split at done
      · cases done
      · split at done <;> cases done
        exact found
  | addColumn name column fallback =>
      simp only [exec] at done
      split at done
      · cases done
      · split at done <;> cases done
        exact keeps name _
  | renameColumn name old new =>
      simp only [exec] at done
      split at done
      · cases done
      · split at done
        · split at done <;> cases done
          exact keeps name _
        · cases done
  | renameTable name new =>
      simp only [exec] at done
      split at done
      · cases done
        by_cases same : table = new
        · rw [same, Database.relations_set]
          exact Option.some_ne_none _
        · rw [Database.relations_set_of_ne _ same, Database.relations_set_of_ne _ stays]
          exact found
      · cases done
  | insertSelect name columns source =>
      simp only [exec] at done
      split at done
      · split at done
        · split at done <;> cases done
          exact keeps name _
        · cases done
      · cases done
  | dropTable name =>
      simp only [exec] at done
      split at done
      · cases done
      · cases done
        rw [Database.relations_set_of_ne _ stays]
        exact found

/-- Only one statement sets the version. -/
theorem exec_userVersion (done : sql.exec db = some after)
    (other : ∀ version, sql ≠ .userVersion version) : after.userVersion = db.userVersion := by
  cases sql with
  | setting | foreignKeys =>
      cases done
      rfl
  | userVersion version => exact (other version rfl).elim
  | _ =>
      simp only [exec] at done
      grind [Database.userVersion_set]

end Statement

end UmbraHost.Sql
