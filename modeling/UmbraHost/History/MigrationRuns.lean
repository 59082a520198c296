import UmbraHost.History.MigrationShape

/-! # Runs of a migration

A migration from a database of any version succeeds and keeps all rows.  Between two of its
statements the database is one to start from again, or a child table has its temporary name. -/

namespace UmbraHost.History.Migration

open UmbraHost.Interaction UmbraHost.Sql

variable {db : Database Cell} {child : ChildTable} {relation : Relation Cell}

/-! ## The columns -/

/-- In the course of a migration, with all tables there and a fact about the child tables. -/
structure Ready (start : Database Cell) (holds : ChildTable → Relation Cell → Prop)
    (db : Database Cell) : Prop extends Shape db where
  kept : Kept start db
  version : db.userVersion = start.userVersion
  tables : ∀ child : ChildTable, ∃ relation, db.relations child.tableName = some relation ∧
    holds child relation

/-- What a stop may leave behind. -/
def Remains (start db : Database Cell) : Prop :=
  (Shape db ∧ Kept start db) ∨ ∃ child, Displaced child start.userVersion db

abbrev running (start : Database Cell) : Contract (DbRequest Cell) Reply (Database Cell) :=
  Contract.answering answer (Remains start)

variable {start : Database Cell} {holds : ChildTable → Relation Cell → Prop}

theorem Ready.remains (ready : Ready start holds db) : Remains start db :=
  .inl ⟨ready.toShape, ready.kept⟩

theorem Ready.mono {other : ChildTable → Relation Cell → Prop} (ready : Ready start holds db)
    (weaker : ∀ child relation, db.relations child.tableName = some relation →
      holds child relation → other child relation) : Ready start other db where
  toShape := ready.toShape
  kept := ready.kept
  version := ready.version
  tables child := by
    obtain ⟨relation, found, fact⟩ := ready.tables child
    exact ⟨relation, found, weaker child relation found fact⟩

theorem Ready.set_sessions {old : Relation Cell} (ready : Ready start holds db)
    (found : db.relations "sessions" = some old) (indexed : "end_time_unix" ∈ relation.names)
    (carried : Carried RenamedTo old relation) :
    Ready start holds (db.set "sessions" (some relation)) where
  toShape := ready.toShape.set_sessions indexed
  kept := ready.kept.set (Database.relation_eq found ▸ carried)
  version := ready.version
  tables child := by
    rw [Database.relations_set_of_ne _ (tableName_ne_sessions child)]
    exact ready.tables child

theorem Ready.set_child {old : Relation Cell} {other : ChildTable → Relation Cell → Prop}
    (ready : Ready start holds db) (found : db.relations child.tableName = some old)
    (fits : child.Fits db.userVersion relation) (carried : Carried RenamedTo old relation)
    (now : other child relation)
    (rest : ∀ another, another ≠ child → ∀ relation, holds another relation →
      other another relation) :
    Ready start other (db.set child.tableName (some relation)) where
  toShape := ready.toShape.set_child fits
  kept := ready.kept.set (Database.relation_eq found ▸ carried)
  version := ready.version
  tables another := by
    by_cases same : another = child
    · subst same
      exact ⟨relation, Database.relations_set _, now⟩
    · rw [Database.relations_set_of_ne _ fun equal => same (tableName_inj equal)]
      obtain ⟨there, inside, fact⟩ := ready.tables another
      exact ⟨there, inside, rest another same there fact⟩

section Columns

variable {table name old new : String} {fallback : Option Cell}
  {invariant : Database Cell → Prop} {post : Bool → Database Cell → Prop}

theorem wp_addColumn (found : db.relations table = some relation) (here : invariant db)
    (present : name ∈ relation.names → post true db)
    (added : ∀ fresh, post true (db.set table (some (relation.addColumn name fallback fresh)))) :
    wp (Contract.answering answer invariant) (addColumn table name fallback) post db := by
  apply (wp_bind _ _).mpr
  apply (wp_answering_perform _).mpr
  refine ⟨here, ?_⟩
  simp only [answer, Database.relation_eq found]
  by_cases known : name ∈ relation.names
  · simp only [known, decide_true, if_true]
    exact present known
  · simp only [known, decide_false, Bool.false_eq_true, if_false]
    apply wp_exec _ here (added known)
    simp only [Statement.exec, found, known, not_false_eq_true, dif_pos]

theorem wp_renameColumn (found : db.relations table = some relation) (here : invariant db)
    (unchanged : post true db)
    (renamed : ∀ fresh, old ∈ relation.names →
      post true (db.set table (some (relation.renameColumn old new fresh)))) :
    wp (Contract.answering answer invariant) (renameColumn table old new) post db := by
  apply (wp_bind _ _).mpr
  apply (wp_answering_perform _).mpr
  refine ⟨here, ?_⟩
  simp only [answer, Database.relation_eq found]
  by_cases known : old ∈ relation.names
  · simp only [known, decide_true, if_true]
    apply (wp_bind _ _).mpr
    apply (wp_answering_perform _).mpr
    refine ⟨here, ?_⟩
    simp only [answer, Database.relation_eq found]
    by_cases taken : new ∈ relation.names
    · simp only [taken, decide_true, if_true]
      exact unchanged
    · simp only [taken, decide_false, Bool.false_eq_true, if_false]
      apply wp_exec _ here (renamed taken known)
      simp only [Statement.exec, found, taken, known, not_false_eq_true, dif_pos, if_true]
  · simp only [known, decide_false, Bool.false_eq_true, if_false]
    exact unchanged

end Columns

abbrev Goes (start : Database Cell) (holds : ChildTable → Relation Cell → Prop)
    (program : Client Cell Bool) (db : Database Cell) : Prop :=
  wp (running start) program (fun succeeded after => succeeded = true ∧ Ready start holds after) db

theorem goes_addColumn_sessions (name : String) (fallback : Option Cell)
    (ready : Ready start holds db) : Goes start holds (addColumn "sessions" name fallback) db := by
  obtain ⟨relation, found, indexed⟩ := ready.sessions
  apply wp_addColumn found ready.remains
  · intro _
    exact ⟨rfl, ready⟩
  · intro fresh
    refine ⟨rfl, ready.set_sessions found ?_ (.addColumn renamedTo_refl _ _ _ fresh)⟩
    rw [names_addColumn]
    exact List.mem_append_left _ indexed

theorem goes_renameColumn_sessions {old new : String} (allowed : RenamedTo old new)
    (other : old ≠ "end_time_unix") (ready : Ready start holds db) :
    Goes start holds (renameColumn "sessions" old new) db := by
  obtain ⟨relation, found, indexed⟩ := ready.sessions
  apply wp_renameColumn found ready.remains
  · exact ⟨rfl, ready⟩
  · intro fresh _
    refine ⟨rfl, ready.set_sessions found ?_ (.renameColumn renamedTo_refl _ allowed fresh)⟩
    have stays := mem_names_renameColumn old fresh indexed
    rw [if_neg other.symm] at stays
    exact stays

theorem hostColumns_known : ∀ name ∈ hostColumns, name ∈ ChildTable.samples.columnList := by
  simp [hostColumns, ChildTable.columnList, ChildTable.columns, samplesColumns]

def HasColumns (names : List String) (child : ChildTable) (relation : Relation Cell) : Prop :=
  child = .samples → ∀ name ∈ names, name ∈ relation.names

theorem goes_addColumn_samples {names : List String} {name : String} (fallback : Option Cell)
    (known : name ∈ hostColumns) (ready : Ready start (HasColumns names) db) :
    Goes start (HasColumns (name :: names)) (addColumn "samples" name fallback) db := by
  obtain ⟨relation, found, has⟩ := ready.tables .samples
  apply wp_addColumn found ready.remains
  · intro present
    refine ⟨rfl, ready.mono ?_⟩
    intro child other there fact isSamples
    subst isSamples
    obtain rfl := Option.some.inj (found.symm.trans there)
    exact List.forall_mem_cons.mpr ⟨present, fact rfl⟩
  · intro fresh
    have fits : ChildTable.samples.Fits db.userVersion (relation.addColumn name fallback fresh) :=
      (ready.children .samples relation found).addColumn (hostColumns_known name known) fresh
    refine ⟨rfl, ready.set_child found fits (.addColumn renamedTo_refl _ _ _ fresh) ?_ ?_⟩
    · intro _
      rw [names_addColumn]
      refine List.forall_mem_cons.mpr ⟨List.mem_append_right _ (List.mem_singleton_self _), ?_⟩
      intro other member
      exact List.mem_append_left _ (has rfl other member)
    · intro another different other _ isSamples
      exact (different isSamples).elim

theorem goes_addColumns_samples (fallback : Option Cell) {columns : List String}
    (known : ∀ name ∈ columns, name ∈ hostColumns) {names : List String}
    (ready : Ready start (HasColumns names) db) :
    Goes start (HasColumns (columns.reverse ++ names))
      (Program.allOf (columns.map fun column => addColumn "samples" column fallback)) db := by
  induction columns generalizing names db with
  | nil => exact ⟨rfl, ready⟩
  | cons first rest ih =>
      obtain ⟨isHost, others⟩ := List.forall_mem_cons.mp known
      apply wp_allOf_then _ (goes_addColumn_samples fallback isHost ready)
      intro after next
      rw [List.reverse_cons, List.append_assoc]
      exact ih others next

/-! ## The statements one after the other -/

theorem goes_below {version : Int} {steps : List (Client Cell Bool)} {current : Int}
    {other : ChildTable → Relation Cell → Prop}
    (runs : current < version → Goes start other (Program.allOf steps) db)
    (skips : version ≤ current → Ready start other db) :
    Goes start other (below current version steps) db := by
  unfold below
  split
  next older => exact runs older
  next newer => exact ⟨rfl, skips (Int.not_lt.mp newer)⟩

/-- All columns of the current version are there. -/
def Complete (child : ChildTable) (relation : Relation Cell) : Prop :=
  ∀ name ∈ child.columnList, name ∈ relation.names

theorem ChildTable.Fits.complete {version : Int} (fits : child.Fits version relation)
    (later : version < 3 → child = .samples → ∀ name ∈ hostColumns, name ∈ relation.names) :
    Complete child relation := by
  intro name member
  obtain ⟨column, inside, rfl⟩ := List.mem_map.mp member
  rcases fits.declared column inside with ⟨older, isSamples, isHost⟩ | ⟨old, there, same, _⟩
  · exact later older isSamples _ isHost
  · exact same ▸ Relation.name_mem there

/-! ## The rebuild of a child table -/

theorem Shape.setForeignKeys (shape : Shape db) (enabled : Bool) :
    Shape { db with foreignKeys := enabled } where
  sessions := shape.sessions
  children := shape.children
  temps := shape.temps

theorem ChildTable.Fits.indexed {version : Int} (fits : child.Fits version relation) :
    ∀ name ∈ ["session_uuid", "timestamp_unix"], name ∈ relation.names := by
  have plain : ∀ name ∈ ["session_uuid", "timestamp_unix"], name ∉ hostColumns ∧
      name ∈ child.columnList := by
    cases child <;>
      simp [hostColumns, ChildTable.columnList, ChildTable.columns, samplesColumns, eventsColumns,
        idColumn, sessionUuidColumn]
  intro name member
  obtain ⟨notHost, listed⟩ := plain name member
  obtain ⟨column, inside, rfl⟩ := List.mem_map.mp listed
  rcases fits.declared column inside with ⟨_, _, isHost⟩ | ⟨old, there, same, _⟩
  · exact (notHost isHost).elim
  · exact same ▸ Relation.name_mem there

theorem wp_indexes {version : Int} {invariant : Database Cell → Prop}
    {post : Bool → Database Cell → Prop} {script : List (Statement Cell)}
    (found : db.relations child.tableName = some relation) (fits : child.Fits version relation)
    (here : invariant db)
    (rest : wp (Contract.answering answer invariant) (execAll script) post db) :
    wp (Contract.answering answer invariant) (execAll (child.indexes ++ script)) post db := by
  have known := fits.indexed
  have first : ∀ name ∈ ["session_uuid"], name ∈ relation.names := by
    intro name member
    exact known name (List.mem_cons.mpr (.inl (List.mem_singleton.mp member)))
  cases child <;>
    exact wp_execAll_cons (Statement.exec_index found first) here
      (wp_execAll_cons (Statement.exec_index found known) here rest)

theorem Ready.setForeignKeys (ready : Ready start holds db) (enabled : Bool) :
    Ready start holds { db with foreignKeys := enabled } where
  toShape := ready.toShape.setForeignKeys enabled
  kept := ready.kept
  version := ready.version
  tables := ready.tables

/-- After the rebuild only the child table has changed. -/
theorem rebuilt_eq (shape : Shape db) (child : ChildTable)
    (first second third : Option (Relation Cell)) (new : Relation Cell) :
    (((((db.set child.tableName first).set child.tempName second).set child.tableName third).set
      child.tableName (some new)).set child.tempName none) = db.set child.tableName (some new) := by
  have apart := tempName_ne_tableName child child
  simp only [Database.set, Database.mk.injEq, and_true]
  funext name
  by_cases isTemp : name = child.tempName
  · subst isTemp
    rw [Function.update_self, Function.update_of_ne apart]
    exact (shape.temps child).symm
  · by_cases isTable : name = child.tableName
    · simp [isTable, Function.update_of_ne apart.symm]
    · simp [Function.update_of_ne isTemp, Function.update_of_ne isTable]

theorem Displaced.set_tableName {version : Int} (displaced : Displaced child version db)
    (change : Option (Relation Cell)) :
    Displaced child version (db.set child.tableName change) where
  temp := by
    rw [Database.relations_set_of_ne _ (tempName_ne_tableName child child)]
    exact displaced.temp
  sessions := by
    rw [Database.relations_set_of_ne _ (tableName_ne_sessions child).symm]
    exact displaced.sessions
  version := displaced.version

theorem Shape.displaced (shape : Shape db) (child : ChildTable)
    (change : Option (Relation Cell)) (relation : Relation Cell) :
    Displaced child db.userVersion
      ((db.set child.tableName change).set child.tempName (some relation)) where
  temp := by simp
  sessions := by
    obtain ⟨parent, found, _⟩ := shape.sessions
    rw [Database.relations_set_of_ne _ (tempName_ne_sessions child).symm,
      Database.relations_set_of_ne _ (tableName_ne_sessions child).symm, found]
    exact Option.some_ne_none parent
  version := rfl

/-- The rows of a child table go into a new one under its constraints. -/
theorem ChildTable.Fits.admits_select {version : Int} (fits : child.Fits version relation) :
    ∀ column ∈ (Relation.empty child.columns).columns, column.Admits
      ((Relation.empty child.columns).rows ++
        relation.rows.map ((Relation.empty child.columns).select child.columnList)) := by
  intro column member
  apply (fits.admits member).of_values rfl rfl
  have listed : column.name ∈ child.columnList := List.mem_map_of_mem member
  rw [Relation.empty, List.nil_append, List.map_map]
  apply List.map_congr_left
  intro row _
  exact if_pos listed

section Rebuild

variable {other : ChildTable → Relation Cell → Prop}

theorem goes_rebuildScript (child : ChildTable) (ready : Ready start holds db)
    (off : db.foreignKeys = false)
    (complete : ∀ relation, holds child relation → Complete child relation)
    (now : ∀ relation, relation.columns = child.columns → other child relation)
    (rest : ∀ another, another ≠ child → ∀ relation, holds another relation →
      other another relation) :
    Goes start other (execAll
      (.renameTable child.tableName child.tempName ::
        .createTable false child.tableName child.columns ::
        .insertSelect child.tableName child.columnList child.tempName ::
        .dropTable child.tempName :: (child.indexes ++ [.foreignKeys true]))) db := by
  obtain ⟨relation, found, fact⟩ := ready.tables child
  have all := complete relation fact
  have fits := ready.children child relation found
  have apart := tempName_ne_tableName child child
  have admitted := fits.admits_select
  have displaced : ∀ change relation, Displaced child start.userVersion
      ((db.set child.tableName change).set child.tempName (some relation)) :=
    fun change relation => ready.version ▸ ready.toShape.displaced child change relation
  have carried : Carried RenamedTo relation
      ((Relation.empty child.columns).append _ admitted) := by
    apply Carried.insertSelect renamedTo_refl _ rfl
    intro name member
    exact ⟨fits.known name member, fits.known name member⟩
  have after : Ready start other (db.set child.tableName (some
      ((Relation.empty child.columns).append _ admitted))) :=
    ready.set_child found (fits_columns rfl _) carried (now _ rfl) rest
  refine wp_execAll_cons (Statement.exec_renameTable found (ready.temps child)) ready.remains ?_
  refine wp_execAll_cons (Statement.exec_createTable false _ ?_) (.inr ⟨child, displaced _ _⟩) ?_
  · rw [Database.relations_set_of_ne _ apart.symm, Database.relations_set]
  refine wp_execAll_cons (Statement.exec_insertSelect (Database.relations_set _) ?_ ?_ ?_ admitted)
    (.inr ⟨child, (displaced _ _).set_tableName _⟩) ?_
  · rw [Database.relations_set_of_ne _ apart, Database.relations_set]
  · exact off
  · intro name member
    exact ⟨member, all name member⟩
  refine wp_execAll_cons (Statement.exec_dropTable relation ?_)
    (.inr ⟨child, ((displaced _ _).set_tableName _).set_tableName _⟩) ?_
  · rw [Database.relations_set_of_ne _ apart, Database.relations_set_of_ne _ apart,
      Database.relations_set]
  rw [rebuilt_eq ready.toShape]
  refine wp_indexes (Database.relations_set _) (fits_columns rfl 0) after.remains ?_
  refine wp_execAll_cons rfl after.remains ?_
  exact wp_execAll_nil ⟨rfl, after.setForeignKeys true⟩

theorem goes_rebuild (child : ChildTable) (ready : Ready start holds db)
    (complete : ∀ relation, holds child relation → Complete child relation)
    (now : ∀ relation, relation.columns = child.columns → other child relation)
    (rest : ∀ another, another ≠ child → ∀ relation, holds another relation →
      other another relation) :
    Goes start other (rebuildWithCascade child) db := by
  apply (wp_bind _ _).mpr
  refine wp_exec rfl ready.remains ?_
  apply wp_seq (fun succeeded after => succeeded = true ∧ Ready start other after)
  · exact goes_rebuildScript child (ready.setForeignKeys false) rfl complete now rest
  · rintro succeeded final ⟨rfl, made⟩
    apply (wp_bind _ _).mpr
    exact wp_exec rfl made.remains ⟨rfl, made.setForeignKeys true⟩

end Rebuild

/-! ## The schema -/

/-- After the start of the schema script, with some of the child tables there. -/
structure Begun (start : Database Cell) (made : ChildTable → Prop) (db : Database Cell) :
    Prop extends Shape db where
  kept : Kept start db
  version : db.userVersion = start.userVersion
  tables : ∀ child, made child → ∃ relation, db.relations child.tableName = some relation

variable {made : ChildTable → Prop}

theorem Begun.remains (begun : Begun start made db) : Remains start db :=
  .inl ⟨begun.toShape, begun.kept⟩

theorem Begun.create (begun : Begun start made db) (child : ChildTable)
    (missing : db.relations child.tableName = none) :
    Begun start (fun other => other = child ∨ made other)
      (db.set child.tableName (some (.empty child.columns))) where
  toShape := begun.toShape.set_child (fits_columns rfl _)
  kept := by
    apply begun.kept.set
    rw [Database.relation_missing missing]
    exact .empty _
  version := begun.version
  tables other isMade := by
    by_cases same : other = child
    · subst same
      exact ⟨_, Database.relations_set _⟩
    · rw [Database.relations_set_of_ne _ fun equal => same (tableName_inj equal)]
      exact begun.tables other (isMade.resolve_left same)

/-- `CREATE TABLE IF NOT EXISTS` and the indexes of a child table. -/
theorem Begun.wp_child {post : Bool → Database Cell → Prop} {script : List (Statement Cell)}
    (begun : Begun start made db) (child : ChildTable)
    (rest : ∀ after, Begun start (fun other => other = child ∨ made other) after →
      wp (running start) (execAll script) post after) :
    wp (running start) (execAll
      (.createTable true child.tableName child.columns :: (child.indexes ++ script))) post db := by
  cases found : db.relations child.tableName with
  | none =>
      have created := begun.create child found
      refine wp_execAll_cons (Statement.exec_createTable true _ found) begun.remains ?_
      exact wp_indexes (Database.relations_set _) (fits_columns rfl 0) created.remains
        (rest _ created)
  | some relation =>
      have there : Begun start (fun other => other = child ∨ made other) db := by
        refine ⟨begun.toShape, begun.kept, begun.version, ?_⟩
        rintro other (rfl | isMade)
        · exact ⟨relation, found⟩
        · exact begun.tables other isMade
      refine wp_execAll_cons (Statement.exec_createTable_existing _ found) begun.remains ?_
      exact wp_indexes found (begun.children child relation found) begun.remains (rest db there)

theorem schemaSql_eq : schemaSql =
    .setting "journal_mode" "WAL" ::
      .setting "synchronous" "NORMAL" ::
      .createTable true "sessions" sessionsColumns ::
      .createTable true ChildTable.samples.tableName ChildTable.samples.columns ::
      (ChildTable.samples.indexes ++
        .createTable true ChildTable.events.tableName ChildTable.events.columns ::
        (ChildTable.events.indexes ++
          [.createIndex "idx_sessions_end_time" "sessions" ["end_time_unix"]])) :=
  rfl

theorem goes_schemaSql (begun : Begun start made db) :
    Goes start (fun _ _ => True) (execAll schemaSql) db := by
  obtain ⟨sessions, found, -⟩ := begun.sessions
  rw [Goes, schemaSql_eq]
  refine wp_execAll_cons rfl begun.remains ?_
  refine wp_execAll_cons rfl begun.remains ?_
  refine wp_execAll_cons (Statement.exec_createTable_existing _ found) begun.remains ?_
  apply begun.wp_child
  intro first withSamples
  apply withSamples.wp_child
  intro second all
  obtain ⟨relation, there, indexed⟩ := all.sessions
  refine wp_execAll_cons (Statement.exec_index there ?_) all.remains ?_
  · intro name member
    exact List.mem_singleton.mp member ▸ indexed
  · refine wp_execAll_nil ⟨rfl, all.toShape, all.kept, all.version, ?_⟩
    intro child
    obtain ⟨relation, inside⟩ := all.tables child (by cases child <;> simp)
    exact ⟨relation, inside, trivial⟩

/-! ## The migrations -/

/-- The rows are kept, in tables of the current version. -/
structure Migrated (original db : Database Cell) : Prop where
  kept : Kept original db
  version : db.userVersion = sessionHistorySchemaVersion

def Current (child : ChildTable) (relation : Relation Cell) : Prop :=
  child.Fits sessionHistorySchemaVersion relation

theorem ChildTable.Fits.current {version : Int} (fits : child.Fits version relation)
    (new : 7 ≤ version) : Current child relation where
  known := fits.known
  declared column member := by
    rcases fits.declared column member with ⟨older, _⟩ | same
    · omega
    · exact .inr same

theorem wp_cascadesComplete (ready : Ready start holds db) (current : Int) :
    wp (running start) (cascadesComplete current)
      (fun complete after => (complete = true → 7 ≤ current) ∧ after = db) db := by
  have query : ∀ table, wp (running start) (hasDeleteCascade table "sessions" "session_uuid")
      (fun _ after => after = db) db :=
    fun table => (wp_answering_perform _).mpr ⟨ready.remains, rfl⟩
  unfold cascadesComplete
  split
  next older => exact ⟨nofun, rfl⟩
  next newer =>
    have new : 7 ≤ current := Int.not_lt.mp newer
    apply wp_allOf_cons
    apply wp_mono _ (query "samples")
    rintro succeeded after rfl
    cases succeeded with
    | false => exact ⟨fun _ => new, rfl⟩
    | true =>
        apply wp_allOf_cons
        apply wp_mono _ (query "events")
        rintro succeeded after rfl
        cases succeeded <;> exact ⟨fun _ => new, rfl⟩

theorem goes_addCascades (ready : Ready start Complete db) :
    Goes start Current (addCascades start.userVersion) db := by
  apply wp_seq _ (wp_cascadesComplete ready start.userVersion)
  rintro complete after ⟨finished, rfl⟩
  cases complete with
  | true =>
      refine ⟨rfl, ready.mono ?_⟩
      intro child relation found _
      exact (ready.children child relation found).current (ready.version ▸ finished rfl)
  | false =>
      have samples : Goes start (fun child relation => Complete child relation ∧
          (child = .samples → Current child relation)) (rebuildWithCascade .samples) after := by
        apply goes_rebuild .samples ready
        · exact fun _ => id
        · intro relation same
          exact ⟨(fits_columns same 7).complete (by omega), fun _ => fits_columns same _⟩
        · intro another different relation complete
          exact ⟨complete, fun same => (different same).elim⟩
      apply wp_allOf_then _ samples
      intro middle next
      apply wp_allOf_then (Ready start Current)
      · apply goes_rebuild .events next fun _ => And.left
        · intro relation same
          exact fits_columns same _
        · intro another different relation fact
          cases another with
          | samples => exact fact.2 rfl
          | events => exact (different rfl).elim
      · intro final last
        exact ⟨rfl, last⟩

/-- The version goes up last. -/
theorem wp_setVersion (ready : Ready start Current db) :
    wp (running start) (exec (.userVersion sessionHistorySchemaVersion))
      (fun succeeded after => succeeded = true ∧ Shape after ∧ Migrated start after) db := by
  refine wp_exec rfl ready.remains ⟨rfl, ⟨ready.sessions, ?_, ready.temps⟩, ready.kept, rfl⟩
  intro child relation found
  obtain ⟨there, inside, fits⟩ := ready.tables child
  exact Option.some.inj (inside.symm.trans found) ▸ fits

theorem goes_hostColumns (ready : Ready start (fun _ _ => True) db) :
    Goes start Complete (Program.allOf
      (addColumn "sessions" "host_cpu_model" none :: addColumn "sessions" "host_gpu_model" none ::
        hostColumns.map fun column => addColumn "samples" column realMinusOne)) db := by
  apply wp_allOf_then _ (goes_addColumn_sessions _ _ ready)
  intro _ ready
  apply wp_allOf_then _ (goes_addColumn_sessions _ _ ready)
  intro after ready
  have nothing : Ready start (HasColumns []) after := ready.mono fun _ _ _ _ _ => nofun
  apply wp_mono _ (goes_addColumns_samples _ (fun _ => id) nothing)
  rintro succeeded after ⟨rfl, ready⟩
  refine ⟨rfl, ready.mono ?_⟩
  intro child relation found has
  apply (ready.children child relation found).complete
  intro _ isSamples name member
  exact has isSamples name (by simpa using member)

theorem wp_migrations (ready : Ready start (fun _ _ => True) db) :
    wp (running start)
      (Program.allOf (migrations sessionHistorySchemaVersion start.userVersion))
      (fun succeeded after => succeeded = true ∧ Shape after ∧ Migrated start after) db := by
  have complete : ∀ after, Ready start (fun _ _ => True) after → 3 ≤ start.userVersion →
      Ready start Complete after := by
    intro after ready new
    apply ready.mono
    intro child relation found _
    apply (ready.children child relation found).complete
    rw [ready.version]
    omega
  apply wp_allOf_then (Ready start fun _ _ => True)
  · refine goes_below (fun _ => ?_) fun _ => ready
    exact wp_allOf_then _ (goes_addColumn_sessions _ _ ready) fun _ next => ⟨rfl, next⟩
  intro _ ready
  apply wp_allOf_then (Ready start Complete)
  · exact goes_below (fun _ => goes_hostColumns ready) (complete _ ready)
  intro _ ready
  apply wp_allOf_then (Ready start Complete)
  · refine goes_below (fun _ => ?_) fun _ => ready
    apply wp_allOf_then _ (goes_addColumn_sessions _ _ ready)
    intro _ ready
    exact wp_allOf_then _ (goes_addColumn_sessions _ _ ready) fun _ next => ⟨rfl, next⟩
  intro _ ready
  apply wp_allOf_then (Ready start Complete)
  · refine goes_below (fun _ => ?_) fun _ => ready
    exact wp_allOf_then _ (goes_addColumn_sessions _ _ ready) fun _ next => ⟨rfl, next⟩
  intro _ ready
  apply wp_allOf_then (Ready start Complete)
  · refine goes_below (fun _ => ?_) fun _ => ready
    apply wp_allOf_then _ (goes_renameColumn_sessions (.inr (.inl ⟨rfl, rfl⟩)) (by simp) ready)
    intro _ ready
    refine wp_allOf_then _ ?_ fun _ next => ⟨rfl, next⟩
    exact goes_renameColumn_sessions (.inr (.inr ⟨rfl, rfl⟩)) (by simp) ready
  intro _ ready
  apply wp_allOf_then _ (goes_addCascades ready)
  intro _ ready
  refine wp_allOf_then (fun after => Shape after ∧ Migrated start after) (wp_setVersion ready) ?_
  intro _ done
  exact ⟨rfl, done⟩

theorem wp_applySchemaAndMigrations (shape : Shape db) :
    wp (running db) (applySchemaAndMigrations sessionHistorySchemaVersion)
      (fun succeeded after => succeeded = true ∧ Shape after ∧ Migrated db after) db := by
  have begun : Begun db (fun _ => False) db := ⟨shape, .refl db, rfl, nofun⟩
  obtain ⟨sessions, found, -⟩ := shape.sessions
  apply wp_seq fun had after => had = true ∧ after = db
  · apply (wp_bind _ _).mpr
    apply (wp_answering_perform _).mpr
    refine ⟨begun.remains, ?_⟩
    simp only [answer, found, Option.isSome_some, if_true]
    exact ⟨rfl, rfl⟩
  rintro had after ⟨rfl, rfl⟩
  apply wp_seq _ (goes_schemaSql begun)
  rintro created middle ⟨rfl, ready⟩
  apply (wp_bind _ _).mpr
  apply (wp_answering_perform _).mpr
  refine ⟨ready.remains, ?_⟩
  simp only [answer, ready.version]
  exact wp_migrations ready

end UmbraHost.History.Migration
