import UmbraHost.Config.ApplyConfig

/-! # The options of nvhttp

What one loading of a file makes of the settings of `nvhttp`, and that nothing else it
makes depends on the settings from before. -/

namespace UmbraHost.Config

variable (host : Host)

inductive NvhttpOption where
  | originWebUiAllowed | pkey | cert | sunshineName | fileState | vibeshineFileState | externalIp
deriving DecidableEq, Repr

namespace NvhttpOption

def name : NvhttpOption → String
  | originWebUiAllowed => "origin_web_ui_allowed"
  | pkey => "pkey"
  | cert => "cert"
  | sunshineName => "sunshine_name"
  | fileState => "file_state"
  | vibeshineFileState => "vibeshine_file_state"
  | externalIp => "external_ip"

/-- The value that a text gives to the setting. -/
def value (text : Option String) : NvhttpOption → Option String
  | originWebUiAllowed => text.filter (· ∈ ["pc", "lan", "wan"])
  | sunshineName | externalIp => text
  | pkey | cert | fileState | vibeshineFileState => (nonempty text).map host.resolve

/-- What the line of the setting makes of a value that no text replaces. -/
def settle (value : String) : NvhttpOption → String
  | originWebUiAllowed | sunshineName | externalIp => value
  | pkey | cert | fileState | vibeshineFileState => host.resolve value

theorem settle_settle (value : String) (option : NvhttpOption) :
    option.settle host (option.settle host value) = option.settle host value := by
  cases option <;> first | rfl | exact host.resolve_resolve value

theorem settle_value {text : Option String} {option : NvhttpOption} {value : String}
    (found : option.value host text = some value) : option.settle host value = value := by
  cases option
  case pkey | cert | fileState | vibeshineFileState =>
    obtain ⟨path, _, rfl⟩ := Option.map_eq_some_iff.mp found
    exact host.resolve_resolve path
  all_goals rfl

end NvhttpOption

namespace Nvhttp

def get (nvhttp : Nvhttp) : NvhttpOption → String
  | .originWebUiAllowed => nvhttp.originWebUiAllowed
  | .pkey => nvhttp.pkey
  | .cert => nvhttp.cert
  | .sunshineName => nvhttp.sunshineName
  | .fileState => nvhttp.fileState
  | .vibeshineFileState => nvhttp.vibeshineFileState
  | .externalIp => nvhttp.externalIp

theorem ext_get {nvhttp other : Nvhttp} (same : ∀ option, nvhttp.get option = other.get option) :
    nvhttp = other := by
  obtain ⟨origin, pkey, cert, name, state, vibeshine, ip⟩ := nvhttp
  obtain rfl : origin = other.originWebUiAllowed := same .originWebUiAllowed
  obtain rfl : pkey = other.pkey := same .pkey
  obtain rfl : cert = other.cert := same .cert
  obtain rfl : name = other.sunshineName := same .sunshineName
  obtain rfl : state = other.fileState := same .fileState
  obtain rfl : vibeshine = other.vibeshineFileState := same .vibeshineFileState
  obtain rfl : ip = other.externalIp := same .externalIp
  rfl

/-- The settings behind the lines about files and names. -/
def readFiles (vars : Vars) (nvhttp : Nvhttp) : Nvhttp :=
  { nvhttp with
    pkey := pathOf host.resolve (vars "pkey") nvhttp.pkey
    cert := pathOf host.resolve (vars "cert") nvhttp.cert
    sunshineName := stringOf (vars "sunshine_name") nvhttp.sunshineName
    fileState := pathOf host.resolve (vars "file_state") nvhttp.fileState
    vibeshineFileState :=
      pathOf host.resolve (vars "vibeshine_file_state") nvhttp.vibeshineFileState
    externalIp := stringOf (vars "external_ip") nvhttp.externalIp }

def readOrigin (vars : Vars) (nvhttp : Nvhttp) : Nvhttp :=
  { nvhttp with
    originWebUiAllowed :=
      restrictedOf ["pc", "lan", "wan"] (vars "origin_web_ui_allowed")
        nvhttp.originWebUiAllowed }

theorem pathOf_eq (resolve : String → String) (text : Option String) (input : String) :
    pathOf resolve text input = ((nonempty text).map resolve).getD (resolve input) := by
  rw [pathOf]
  cases nonempty text <;> rfl

theorem restrictedOf_eq {allowedVals : List String} (named : "" ∉ allowedVals)
    (text : Option String) (input : String) :
    restrictedOf allowedVals text input = (text.filter (· ∈ allowedVals)).getD input := by
  cases text with
  | none => exact if_neg named
  | some text =>
    by_cases allowed : text ∈ allowedVals
    · simp [restrictedOf, Option.filter, allowed]
    · simp [restrictedOf, Option.filter, allowed]

/-- Each setting has the value that is given to it, or the one it had. -/
theorem get_readFiles (vars : Vars) (nvhttp : Nvhttp) {option : NvhttpOption}
    (file : option ≠ .originWebUiAllowed) :
    (nvhttp.readFiles host vars).get option =
      (option.value host (vars option.name)).getD (option.settle host (nvhttp.get option)) := by
  cases option
  case originWebUiAllowed => exact absurd rfl file
  case sunshineName | externalIp => rfl
  case pkey => exact pathOf_eq host.resolve (vars "pkey") nvhttp.pkey
  case cert => exact pathOf_eq host.resolve (vars "cert") nvhttp.cert
  case fileState => exact pathOf_eq host.resolve (vars "file_state") nvhttp.fileState
  case vibeshineFileState =>
    exact pathOf_eq host.resolve (vars "vibeshine_file_state") nvhttp.vibeshineFileState

theorem get_readOrigin (vars : Vars) (nvhttp : Nvhttp) :
    (nvhttp.readOrigin vars).get .originWebUiAllowed =
      (NvhttpOption.value host (vars "origin_web_ui_allowed") .originWebUiAllowed).getD
        nvhttp.originWebUiAllowed :=
  restrictedOf_eq (by decide) _ _

end Nvhttp

/-! ## The lines around -/

/-- The settings of the host that stand between the ones of `nvhttp`. -/
def Groups.readFiles (vars : Vars) (fileState : String) (groups : Groups) : Groups :=
  { groups with
    sunshine.logFile := pathOf host.resolve (vars "log_path") groups.sunshine.logFile
    sunshine.credentialsFile := pathOf host.resolve (vars "credentials_file") fileState }

def fileNames : List String :=
  ["pkey", "cert", "sunshine_name", "log_path", "file_state", "vibeshine_file_state",
    "credentials_file", "external_ip"]

def commandNames : List String := ["global_prep_cmd", "global_state_cmd", "server_cmd"]

/-- The options whose texts other lines leave alone. -/
def watchedNames : List String := fileNames ++ commandNames ++ ["origin_web_ui_allowed"]

theorem not_mem_of_all {names taken : List String}
    (clear : taken.all (fun option => !names.contains option) = true) {name : String}
    (member : name ∈ names) : name ∉ taken := by
  intro listed
  have unlisted := List.all_eq_true.mp clear name listed
  simp [member] at unlisted

theorem linesBefore_untaken {name : String} (member : name ∈ watchedNames) :
    name ∉ (linesBefore host).flatMap Line.options :=
  not_mem_of_all (by cbv) member

theorem linesBetween_untaken :
    "origin_web_ui_allowed" ∉ (linesBetween host).flatMap Line.options := by
  have clear : ((linesBetween host).flatMap Line.options).all
      (fun option => !(["origin_web_ui_allowed"].contains option)) = true := by cbv
  exact not_mem_of_all clear List.mem_cons_self

/-- Neither the variables that are left nor the groups depend on other settings than the
state file. -/
theorem runLines_nvhttpFiles (vars : Vars) :
    ∃ left : Vars, (∀ name, name ∉ fileNames → left name = vars name) ∧
      ∀ runtime : Runtime, runLines vars runtime ((nvhttpFiles host).map .setting) =
        .next left
          { runtime with
            groups :=
              runtime.groups.readFiles host vars (runtime.nvhttp.readFiles host vars).fileState
            nvhttp := runtime.nvhttp.readFiles host vars } := by
  have ran (runtime : Runtime) : runLines vars runtime ((nvhttpFiles host).map .setting) =
      .next (fileNames.foldl Vars.erase vars)
        { runtime with
          groups :=
            runtime.groups.readFiles host vars (runtime.nvhttp.readFiles host vars).fileState
          nvhttp := runtime.nvhttp.readFiles host vars } := by
    simp only [nvhttpFiles, List.map_cons, List.map_nil, runLines, Line.run, pathF, stringF,
      Setting.parsing, Setting.taking]
    rfl
  exact ⟨_, fun name other => runLines_others (ran (initialRuntime host)) other, ran⟩

/-! ## A whole loading -/

/-- Whether a loading of the file comes to the lines about files. -/
def remappingReadable (vars : Vars) : Bool :=
  (nonempty (vars "dd_mode_remapping")).all fun text =>
    (Dd.modeRemappingFromView host.readJson text).isSome

/-- Whether it comes from there to its end. -/
def commandsReadable (vars : Vars) : Bool :=
  (nonempty (vars "global_prep_cmd")).all (fun text => (prepCmds host.readJson text).isSome) &&
    (nonempty (vars "global_state_cmd")).all
      (fun text => (prepCmds host.readJson text).isSome) &&
    (nonempty (vars "server_cmd")).all fun text => (serverCmds host.readJson text).isSome

@[simp] theorem all_reads_settings {σ : Type} (settings : List (Setting σ)) (vars : Vars) :
    (settings.map Line.setting).all (Line.reads vars) = true :=
  List.all_eq_true.mpr fun _ member => by
    obtain ⟨setting, _, rfl⟩ := List.mem_map.mp member
    rfl

@[simp] theorem all_reads_settingLines {σ : Type} (part : Part Groups σ)
    (settings : List (Setting σ)) (vars : Vars) :
    (settingLines part settings).all (Line.reads vars) = true :=
  List.all_eq_true.mpr fun _ member => by
    obtain ⟨setting, _, rfl⟩ := List.mem_map.mp member
    rfl

@[simp] theorem all_reads_inside {σ τ : Type} (part : Part σ τ) (lines : List (Line τ))
    (vars : Vars) :
    (lines.map (Line.inside part)).all (Line.reads vars) = lines.all (Line.reads vars) := by
  simp [List.all_map, Function.comp_def]

theorem all_reads_linesBefore (vars : Vars) :
    (linesBefore host).all (Line.reads vars) = remappingReadable host vars := by
  simp only [linesBefore, List.all_append, all_reads_settings, all_reads_settingLines,
    List.all_cons, List.all_nil, Line.reads_inside, Bool.true_and, Bool.and_true]
  simp [modeRemapping, Line.reads, remappingReadable]

theorem all_reads_linesBetween (vars : Vars) :
    (linesBetween host).all (Line.reads vars) = commandsReadable host vars := by
  simp only [linesBetween, List.all_append, all_reads_inside, all_reads_settingLines,
    Bool.and_true]
  simp [commandLines, listPrepCmdF, listServerCmdF, Line.reads, commandsReadable,
    Bool.and_assoc]

theorem all_reads_ignoring (names : List String) (vars : Vars) :
    (names.map fun name => (Line.setting (.ignoring name) : Line Groups)).all
      (Line.reads vars) = true := by
  simp [List.all_map, Line.reads]

theorem all_reads_linesBehind (vars : Vars) :
    (linesBehind host).all (Line.reads vars) = true := by
  simp only [linesBehind, List.all_append, all_reads_settingLines, all_reads_ignoring,
    Bool.and_self]

theorem apart_linesBefore : apart [] (linesBefore host) = true := by cbv

theorem apart_linesBetween : apart [] (linesBetween host) = true := by cbv

theorem apart_linesBehind : apart [] (linesBehind host) = true := by cbv

theorem runLines_linesBefore (vars : Vars) (groups : Groups) :
    (∃ left changed, runLines vars groups (linesBefore host) = .next left changed) ↔
      remappingReadable host vars = true := by
  rw [← all_reads_linesBefore]
  exact runLines_next_iff (apart_linesBefore host) fun _ _ => rfl

theorem runLines_linesBetween (vars : Vars) (groups : Groups) :
    (∃ left changed, runLines vars groups (linesBetween host) = .next left changed) ↔
      commandsReadable host vars = true := by
  rw [← all_reads_linesBetween]
  exact runLines_next_iff (apart_linesBetween host) fun _ _ => rfl

theorem runLines_linesBehind (vars : Vars) (groups : Groups) :
    ∃ left changed, runLines vars groups (linesBehind host) = .next left changed :=
  (runLines_next_iff (apart_linesBehind host) fun _ _ => rfl).mpr (all_reads_linesBehind host vars)

/-- The settings of `nvhttp` behind a whole loading. -/
def Nvhttp.readOptions (vars : Vars) (nvhttp : Nvhttp) : Nvhttp :=
  (nvhttp.readFiles host vars).readOrigin vars

theorem Nvhttp.readFiles_congr {vars other : Vars}
    (same : ∀ name ∈ watchedNames, other name = vars name) (nvhttp : Nvhttp) :
    nvhttp.readFiles host other = nvhttp.readFiles host vars := by
  rw [readFiles, readFiles, same "pkey" (by decide), same "cert" (by decide),
    same "sunshine_name" (by decide), same "file_state" (by decide),
    same "vibeshine_file_state" (by decide), same "external_ip" (by decide)]

theorem commandsReadable_congr {vars other : Vars}
    (same : ∀ name ∈ watchedNames, name ∉ fileNames → other name = vars name) :
    commandsReadable host other = commandsReadable host vars := by
  rw [commandsReadable, commandsReadable, same "global_prep_cmd" (by decide) (by decide),
    same "global_state_cmd" (by decide) (by decide), same "server_cmd" (by decide) (by decide)]

theorem applyConfig_eq (vars : Vars) (runtime : Runtime) :
    applyConfig host vars runtime =
      ((((runLines vars (defaultGroups host) (linesBefore host)).map
        fun groups => { runtime with groups }).andThen
          ((nvhttpFiles host).map .setting)).andThen
            ((linesBetween host).map (.inside groupsPart))).andThen
              (.setting originWebUiAllowed :: (linesBehind host).map (.inside groupsPart)) := by
  rw [applyConfig, applyConfigLines, List.append_assoc _ [_], runLines_append, runLines_append,
    runLines_append, runLines_inside]
  rfl

/-- A loading that throws in front of the lines about `nvhttp` leaves it alone. -/
theorem applyConfig_of_not_remappingReadable {vars : Vars}
    (unreadable : remappingReadable host vars = false) :
    ∃ groups, ∀ runtime, applyConfig host vars runtime = .thrown { runtime with groups } := by
  cases ran : runLines vars (defaultGroups host) (linesBefore host) with
  | next left groups =>
    have readable := (runLines_linesBefore host vars (defaultGroups host)).mp ⟨left, groups, ran⟩
    rw [unreadable] at readable
    cases readable
  | thrown groups =>
    refine ⟨groups, fun runtime => ?_⟩
    rw [applyConfig_eq, ran]
    rfl

/-- A loading that comes to the lines about `nvhttp`, from there on. -/
theorem applyConfig_of_remappingReadable {vars : Vars}
    (readable : remappingReadable host vars = true) (fileState : String) :
    ∃ left groups, (∀ name ∈ watchedNames, name ∉ fileNames → left name = vars name) ∧
      ∀ runtime : Runtime, (runtime.nvhttp.readFiles host vars).fileState = fileState →
        applyConfig host vars runtime =
          ((runLines left groups (linesBetween host)).map fun groups =>
              { runtime with groups, nvhttp := runtime.nvhttp.readFiles host vars }).andThen
            (.setting originWebUiAllowed :: (linesBehind host).map (.inside groupsPart)) := by
  obtain ⟨before, groups, ran⟩ :=
    (runLines_linesBefore host vars (defaultGroups host)).mpr readable
  have untaken : ∀ name ∈ watchedNames, before name = vars name :=
    fun name member => runLines_others ran (linesBefore_untaken host member)
  obtain ⟨left, others, files⟩ := runLines_nvhttpFiles host before
  refine ⟨left, groups.readFiles host before fileState, fun name member unlisted =>
    (others name unlisted).trans (untaken name member), fun runtime same => ?_⟩
  have readFiles := Nvhttp.readFiles_congr host untaken runtime.nvhttp
  rw [applyConfig_eq, ran, Outcome.map, Outcome.andThen, files, Outcome.andThen,
    runLines_inside, readFiles, same]
  rfl

/-- A loading that throws behind the lines about files. -/
theorem applyConfig_of_not_commandsReadable {vars : Vars}
    (readable : remappingReadable host vars = true)
    (unreadable : commandsReadable host vars = false) (fileState : String) :
    ∃ groups, ∀ runtime : Runtime,
      (runtime.nvhttp.readFiles host vars).fileState = fileState →
        applyConfig host vars runtime =
          .thrown { runtime with groups, nvhttp := runtime.nvhttp.readFiles host vars } := by
  obtain ⟨left, groups, others, ran⟩ :=
    applyConfig_of_remappingReadable host readable fileState
  cases between : runLines left groups (linesBetween host) with
  | next behind changed =>
    have reads := (runLines_linesBetween host left groups).mp ⟨behind, changed, between⟩
    rw [commandsReadable_congr host others, unreadable] at reads
    cases reads
  | thrown changed =>
    refine ⟨changed, fun runtime same => ?_⟩
    rw [ran runtime same, between]
    rfl

/-- A loading that comes to its end.  The groups depend on the settings from before through
the state file only. -/
theorem applyConfig_of_commandsReadable {vars : Vars}
    (readable : remappingReadable host vars = true)
    (commands : commandsReadable host vars = true) (fileState : String) :
    ∃ left groups, ∀ runtime : Runtime,
      (runtime.nvhttp.readFiles host vars).fileState = fileState →
        applyConfig host vars runtime =
          .next left { runtime with groups, nvhttp := runtime.nvhttp.readOptions host vars } := by
  obtain ⟨left, groups, others, ran⟩ :=
    applyConfig_of_remappingReadable host readable fileState
  obtain ⟨behind, changed, between⟩ := (runLines_linesBetween host left groups).mpr
    ((commandsReadable_congr host others).trans commands)
  have origin : behind "origin_web_ui_allowed" = vars "origin_web_ui_allowed" :=
    (runLines_others between (linesBetween_untaken host)).trans
      (others _ (by decide) (by decide))
  obtain ⟨last, final, ended⟩ := runLines_linesBehind host
    (behind.erase "origin_web_ui_allowed") changed
  refine ⟨last, final, fun runtime same => ?_⟩
  have line (runtime : Runtime) : (Line.setting originWebUiAllowed).run behind runtime =
      .next (behind.erase "origin_web_ui_allowed")
        { runtime with nvhttp := runtime.nvhttp.readOrigin vars } := by
    rw [Nvhttp.readOrigin, ← origin]
    rfl
  rw [ran runtime same, between, Outcome.map, Outcome.andThen, runLines, line]
  dsimp only
  rw [runLines_inside, groupsPart, ended]
  rfl

end UmbraHost.Config
