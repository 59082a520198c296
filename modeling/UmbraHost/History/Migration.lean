import UmbraHost.Sql.Statements

/-! # The schema of the session history and its migrations

`apply_schema_and_migrations` of `session_history_storage.cpp`, statement by statement.
Columns stand without their types, which no version has changed, so that copies convert
nothing. -/

namespace UmbraHost.History.Migration

open UmbraHost.Interaction UmbraHost.Sql

inductive Cell where
  | integer (value : Int)
  | real (bits : BitVec 64)
  | text (value : String)
  | blob (bytes : List UInt8)
deriving DecidableEq

def zero : Option Cell := some (.integer 0)

def realZero : Option Cell := some (.real 0)

/-- `-1.0`. -/
def realMinusOne : Option Cell := some (.real 0xBFF0000000000000)

def sessionsColumns : List (Column Cell) :=
  [{ name := "uuid", primaryKey := true },
    { name := "protocol", notNull := true },
    { name := "client_name" },
    { name := "device_name" },
    { name := "app_name" },
    { name := "width" },
    { name := "height" },
    { name := "target_fps" },
    { name := "encoder_bitrate_kbps" },
    { name := "requested_bitrate_kbps" },
    { name := "codec" },
    { name := "hdr", fallback := zero },
    { name := "yuv444", fallback := zero },
    { name := "audio_channels" },
    { name := "start_time_unix", notNull := true },
    { name := "end_time_unix" },
    { name := "duration_seconds" },
    { name := "verdict", fallback := some (.text "unknown") },
    { name := "server_version" },
    { name := "host_cpu_model" },
    { name := "host_gpu_model" },
    { name := "stream_gpu_model" }]

/-- An `INTEGER PRIMARY KEY` is never NULL. -/
def idColumn : Column Cell := { name := "id", notNull := true, primaryKey := true }

/-- `TEXT NOT NULL REFERENCES sessions(uuid) ON DELETE CASCADE`. -/
def sessionUuidColumn : Column Cell :=
  { name := "session_uuid"
    notNull := true
    references := some { table := "sessions", column := "uuid", onDeleteCascade := true } }

def samplesColumns : List (Column Cell) :=
  [idColumn,
    sessionUuidColumn,
    { name := "timestamp_unix", notNull := true },
    { name := "bytes_sent_total", fallback := zero },
    { name := "packets_sent_video", fallback := zero },
    { name := "frames_sent", fallback := zero },
    { name := "last_frame_index", fallback := zero },
    { name := "video_dropped", fallback := zero },
    { name := "audio_dropped", fallback := zero },
    { name := "client_reported_losses", fallback := zero },
    { name := "idr_requests", fallback := zero },
    { name := "ref_invalidations", fallback := zero },
    { name := "encode_latency_ms", fallback := realZero },
    { name := "actual_fps", fallback := realZero },
    { name := "actual_bitrate_kbps", fallback := realZero },
    { name := "frame_interval_jitter_ms", fallback := realZero },
    { name := "host_cpu_percent", fallback := realMinusOne },
    { name := "host_gpu_percent", fallback := realMinusOne },
    { name := "host_gpu_encoder_percent", fallback := realMinusOne },
    { name := "host_ram_percent", fallback := realMinusOne },
    { name := "host_vram_percent", fallback := realMinusOne },
    { name := "host_cpu_temp_c", fallback := realMinusOne },
    { name := "host_gpu_temp_c", fallback := realMinusOne },
    { name := "host_net_rx_bps", fallback := realMinusOne },
    { name := "host_net_tx_bps", fallback := realMinusOne }]

def eventsColumns : List (Column Cell) :=
  [idColumn,
    sessionUuidColumn,
    { name := "timestamp_unix", notNull := true },
    { name := "event_type", notNull := true },
    { name := "payload" }]

/-- The tables whose rows belong to a session. -/
inductive ChildTable where
  | samples | events
deriving DecidableEq

namespace ChildTable

def tableName : ChildTable → String
  | samples => "samples"
  | events => "events"

def tempName : ChildTable → String
  | samples => "samples_legacy_no_cascade"
  | events => "events_legacy_no_cascade"

/-- `CREATE_SAMPLES_TABLE`, `CREATE_EVENTS_TABLE`. -/
def columns : ChildTable → List (Column Cell)
  | samples => samplesColumns
  | events => eventsColumns

/-- `SAMPLES_COLUMNS`, `EVENTS_COLUMNS`. -/
def columnList (child : ChildTable) : List String :=
  child.columns.map (·.name)

/-- `SAMPLES_INDEXES`, `EVENTS_INDEXES`. -/
def indexes : ChildTable → List (Statement Cell)
  | samples =>
      [.createIndex "idx_samples_session" "samples" ["session_uuid"],
        .createIndex "idx_samples_time" "samples" ["session_uuid", "timestamp_unix"]]
  | events =>
      [.createIndex "idx_events_session" "events" ["session_uuid"],
        .createIndex "idx_events_time" "events" ["session_uuid", "timestamp_unix"]]

end ChildTable

/-- The `PRAGMA`s of `SCHEMA_SQL` touch no table. -/
def schemaSql : List (Statement Cell) :=
  [.setting "journal_mode" "WAL",
    .setting "synchronous" "NORMAL",
    .createTable true "sessions" sessionsColumns,
    .createTable true "samples" samplesColumns,
    .createIndex "idx_samples_session" "samples" ["session_uuid"],
    .createIndex "idx_samples_time" "samples" ["session_uuid", "timestamp_unix"],
    .createTable true "events" eventsColumns,
    .createIndex "idx_events_session" "events" ["session_uuid"],
    .createIndex "idx_events_time" "events" ["session_uuid", "timestamp_unix"],
    .createIndex "idx_sessions_end_time" "sessions" ["end_time_unix"]]

def addColumn (table column : String) (fallback : Option Cell) : Client Cell Bool := do
  let found ← columnExists table column
  if found then pure true else exec (.addColumn table column fallback)

def renameColumn (table oldName newName : String) : Client Cell Bool := do
  let found ← columnExists table oldName
  if found then do
    let renamed ← columnExists table newName
    if renamed then pure true else exec (.renameColumn table oldName newName)
  else pure true

def rebuildChildTableWithCascade (tableName tempName : String) (createSql : List (Column Cell))
    (columnList : List String) (indexSql : List (Statement Cell)) : Client Cell Bool := do
  let off ← exec (.foreignKeys false)
  if off then do
    let rebuilt ← execAll
      ([.renameTable tableName tempName,
        .createTable false tableName createSql,
        .insertSelect tableName columnList tempName,
        .dropTable tempName] ++ indexSql ++ [.foreignKeys true])
    -- `foreign_keys_guard`, also after a success
    let _ ← exec (.foreignKeys true)
    pure rebuilt
  else pure false

def rebuildWithCascade (child : ChildTable) : Client Cell Bool :=
  rebuildChildTableWithCascade child.tableName child.tempName child.columns child.columnList
    child.indexes

/-- The columns of samples that version 3 brought. -/
def hostColumns : List String :=
  ["host_cpu_percent", "host_gpu_percent", "host_gpu_encoder_percent", "host_ram_percent",
    "host_vram_percent", "host_cpu_temp_c", "host_gpu_temp_c", "host_net_rx_bps",
    "host_net_tx_bps"]

/-- `if (current_schema_version < version)`. -/
def below (currentSchemaVersion version : Int) (steps : List (Client Cell Bool)) :
    Client Cell Bool :=
  if currentSchemaVersion < version then Program.allOf steps else pure true

/-- The negation of `current_schema_version < 7 || !table_has_delete_cascade(..) || ..`. -/
def cascadesComplete (currentSchemaVersion : Int) : Client Cell Bool :=
  if currentSchemaVersion < 7 then pure false
  else Program.allOf [hasDeleteCascade "samples" "sessions" "session_uuid",
    hasDeleteCascade "events" "sessions" "session_uuid"]

def addCascades (currentSchemaVersion : Int) : Client Cell Bool := do
  let complete ← cascadesComplete currentSchemaVersion
  if complete then pure true
  else Program.allOf [rebuildWithCascade .samples, rebuildWithCascade .events]

def migrations (schemaVersion currentSchemaVersion : Int) : List (Client Cell Bool) :=
  [below currentSchemaVersion 2 [addColumn "sessions" "target_requested_bitrate_kbps" none],
    below currentSchemaVersion 3
      (addColumn "sessions" "host_cpu_model" none ::
        addColumn "sessions" "host_gpu_model" none ::
        hostColumns.map fun column => addColumn "samples" column realMinusOne),
    below currentSchemaVersion 4
      [addColumn "sessions" "yuv444" zero, addColumn "sessions" "server_version" none],
    below currentSchemaVersion 5 [addColumn "sessions" "stream_gpu_model" none],
    below currentSchemaVersion 6
      [renameColumn "sessions" "target_bitrate_kbps" "encoder_bitrate_kbps",
        renameColumn "sessions" "target_requested_bitrate_kbps" "requested_bitrate_kbps"],
    addCascades currentSchemaVersion,
    exec (.userVersion schemaVersion)]

def applySchemaAndMigrations (schemaVersion : Int) : Client Cell Bool := do
  let hadExistingHistoryTables ←
    Program.anyOf [tableExists "sessions", tableExists "samples", tableExists "events"]
  let created ← execAll schemaSql
  if created then
    if hadExistingHistoryTables then do
      let currentSchemaVersion ← readUserVersion
      Program.allOf (migrations schemaVersion currentSchemaVersion)
    else exec (.userVersion schemaVersion)
  else pure false

/-- `SESSION_HISTORY_SCHEMA_VERSION`. -/
def sessionHistorySchemaVersion : Int := 7

/-- `open_write_db` on a database file. -/
def openWriteDb (db : Database Cell) : Database Cell := { db with foreignKeys := true }

end UmbraHost.History.Migration
