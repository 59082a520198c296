import UmbraHost.Config.NvhttpOptions

/-! # Hot reload and restart

The settings of a program that reloads its file against those of one that starts with the
last file.  The groups that are set back are the same; a setting of `nvhttp` keeps the value
that an earlier file gave to it. -/

namespace UmbraHost.Config

variable (host : Host)

/-! ## One file -/

/-- Whether the loading of a file comes to the line of an option. -/
def reached (vars : Vars) : NvhttpOption → Bool
  | .originWebUiAllowed => remappingReadable host vars && commandsReadable host vars
  | _ => remappingReadable host vars

/-- The value that a file gives to a setting. -/
def given (vars : Vars) (option : NvhttpOption) : Option String :=
  if reached host vars option then option.value host (vars option.name) else none

/-- The value of a setting that no file gives one to. -/
def initialValue (option : NvhttpOption) : String :=
  option.settle host ((initialRuntime host).nvhttp.get option)

/-- A setting whose value its own line would leave as it is. -/
def Settled (nvhttp : Nvhttp) (option : NvhttpOption) : Prop :=
  option.settle host (nvhttp.get option) = nvhttp.get option

variable {host}

theorem get_readOptions (vars : Vars) (nvhttp : Nvhttp) (option : NvhttpOption) :
    (nvhttp.readOptions host vars).get option =
      (option.value host (vars option.name)).getD (option.settle host (nvhttp.get option)) := by
  by_cases origin : option = .originWebUiAllowed
  · subst origin
    exact nvhttp.get_readOrigin host vars
  · rw [← nvhttp.get_readFiles host vars origin]
    cases option
    case originWebUiAllowed => exact absurd rfl origin
    all_goals rfl

theorem given_settled {vars : Vars} {option : NvhttpOption} {value : String}
    (found : given host vars option = some value) : option.settle host value = value := by
  unfold given at found
  split at found
  · exact NvhttpOption.settle_value host found
  · cases found

/-- A file that is read to its end gives a setting a value or settles the one it has. -/
theorem get_applyConfig_of_readable {vars : Vars} (readable : remappingReadable host vars = true)
    (commands : commandsReadable host vars = true) (runtime : Runtime) (option : NvhttpOption) :
    (applyConfig host vars runtime).settings.nvhttp.get option =
      (given host vars option).getD (option.settle host (runtime.nvhttp.get option)) := by
  obtain ⟨left, groups, ran⟩ := applyConfig_of_commandsReadable host readable commands
    (runtime.nvhttp.readFiles host vars).fileState
  have comes : reached host vars option = true := by
    cases option <;> simp [reached, readable, commands]
  rw [ran runtime rfl, given, if_pos comes]
  exact get_readOptions vars runtime.nvhttp option

/-- A loading throws in front of the lines about `nvhttp` or behind those about files, or
it comes to its end. -/
theorem applyConfig_cases (vars : Vars) (runtime : Runtime) :
    (remappingReadable host vars = false ∧
      ∃ groups, applyConfig host vars runtime = .thrown { runtime with groups }) ∨
    (remappingReadable host vars = true ∧ commandsReadable host vars = false ∧
      ∃ groups, applyConfig host vars runtime =
        .thrown { runtime with groups, nvhttp := runtime.nvhttp.readFiles host vars }) ∨
    (remappingReadable host vars = true ∧ commandsReadable host vars = true ∧
      ∃ left groups, applyConfig host vars runtime =
        .next left { runtime with groups, nvhttp := runtime.nvhttp.readOptions host vars }) := by
  cases readable : remappingReadable host vars with
  | false =>
    obtain ⟨groups, ran⟩ := applyConfig_of_not_remappingReadable host readable
    exact .inl ⟨rfl, groups, ran runtime⟩
  | true =>
    cases commands : commandsReadable host vars with
    | false =>
      obtain ⟨groups, ran⟩ := applyConfig_of_not_commandsReadable host readable commands
        (runtime.nvhttp.readFiles host vars).fileState
      exact .inr (.inl ⟨rfl, rfl, groups, ran runtime rfl⟩)
    | true =>
      obtain ⟨left, groups, ran⟩ := applyConfig_of_commandsReadable host readable commands
        (runtime.nvhttp.readFiles host vars).fileState
      exact .inr (.inr ⟨rfl, rfl, left, groups, ran runtime rfl⟩)

/-- Any file gives a setting a value or leaves the settled one that it has. -/
theorem get_applyConfig {vars : Vars} {runtime : Runtime} {option : NvhttpOption}
    (settled : Settled host runtime.nvhttp option) :
    (applyConfig host vars runtime).settings.nvhttp.get option =
      (given host vars option).getD (runtime.nvhttp.get option) := by
  rcases @applyConfig_cases host vars runtime with
    ⟨unreadable, groups, ran⟩ | ⟨readable, commands, groups, ran⟩ | ⟨readable, commands, _⟩
  · have missed : reached host vars option = false := by
      cases option <;> simp [reached, unreadable]
    rw [ran, given, missed]
    rfl
  · rw [ran]
    by_cases origin : option = .originWebUiAllowed
    · subst origin
      simp only [given, reached, readable, commands]
      rfl
    · have comes : reached host vars option = true := by
        cases option <;> first | exact absurd rfl origin | exact readable
      rw [given, if_pos comes]
      exact (runtime.nvhttp.get_readFiles host vars origin).trans (by rw [settled])
  · rw [get_applyConfig_of_readable readable commands, settled]

theorem preserved_applyConfig (vars : Vars) (runtime : Runtime) :
    (applyConfig host vars runtime).settings.preserved = runtime.preserved := by
  rcases @applyConfig_cases host vars runtime with ⟨_, _, ran⟩ | ⟨_, _, _, ran⟩ | ⟨_, _, _, _, ran⟩
  all_goals
    rw [ran]
    rfl

/-! ## A row of files -/

/-- The options of a file with the ones of the command line over them. -/
def fileVars (host : Host) (argv : List String) (fileContent : Text) : Vars :=
  mergeConfigOverrides (parseConfig fileContent) (commandLineOverrides host argv)

/-- The value that the last of the files which give a setting one gives to it. -/
def lastGiven (host : Host) (files : List Vars) (option : NvhttpOption) : Option String :=
  files.foldl (fun last vars => (given host vars option).or last) none

theorem lastGiven_concat (files : List Vars) (vars : Vars) (option : NvhttpOption) :
    lastGiven host (files ++ [vars]) option =
      (given host vars option).or (lastGiven host files option) := by
  rw [lastGiven, List.foldl_append]
  rfl

theorem lastGiven_settled {files : List Vars} {option : NvhttpOption} {value : String}
    (found : lastGiven host files option = some value) : option.settle host value = value := by
  induction files using List.reverseRecOn with
  | nil => cases found
  | append_singleton files vars ih =>
    rw [lastGiven_concat, Option.or_eq_some_iff] at found
    rcases found with here | ⟨_, earlier⟩
    · exact given_settled here
    · exact ih earlier

/-- Each setting has the value that the files gave to it last. -/
def Carried (host : Host) (files : List Vars) (nvhttp : Nvhttp) : Prop :=
  ∀ option, nvhttp.get option = (lastGiven host files option).getD (initialValue host option)

namespace Carried

variable {files : List Vars} {runtime : Runtime}

theorem settled {nvhttp : Nvhttp} (carried : Carried host files nvhttp)
    (option : NvhttpOption) : Settled host nvhttp option := by
  rw [Settled, carried option]
  cases found : lastGiven host files option with
  | none => exact option.settle_settle host _
  | some value => exact lastGiven_settled found

theorem applyConfig (carried : Carried host files runtime.nvhttp) (vars : Vars) :
    Carried host (files ++ [vars]) (applyConfig host vars runtime).settings.nvhttp := by
  intro option
  rw [get_applyConfig (carried.settled option), carried option, lastGiven_concat]
  cases given host vars option <;> rfl

theorem reload {argv : List String} (carried : Carried host files runtime.nvhttp)
    (contents : List Text) :
    Carried host (files ++ contents.map (fileVars host argv))
      (contents.foldl (applyConfigNow host (commandLineOverrides host argv)) runtime).nvhttp := by
  induction contents generalizing files runtime with
  | nil => simpa using carried
  | cons content contents ih =>
    have next : Carried host (files ++ [fileVars host argv content])
        (applyConfigNow host (commandLineOverrides host argv) runtime content).nvhttp :=
      carried.applyConfig (fileVars host argv content)
    rw [List.map_cons, List.append_cons, List.foldl_cons]
    exact ih next

end Carried

theorem preserved_reload (overrides : Vars) (runtime : Runtime) (contents : List Text) :
    (contents.foldl (applyConfigNow host overrides) runtime).preserved = runtime.preserved := by
  induction contents generalizing runtime with
  | nil => rfl
  | cons content contents ih =>
    rw [List.foldl_cons, ih, applyConfigNow, preserved_applyConfig]

/-! ## The start -/

/-- The arguments change no setting of `nvhttp`. -/
theorem readArguments_nvhttp {arguments result : Arguments} {argv : List String}
    (read : readArguments arguments argv = some result) :
    result.runtime.nvhttp = arguments.runtime.nvhttp := by
  fun_induction readArguments arguments argv with
  | case1 arguments =>
    cases read
    rfl
  | case2 => cases read
  | case3 arguments line rest _ _ ih => exact ih read
  | case4 =>
    cases read
    rfl
  | case5 => rename_i ih; exact ih read
  | case6 => cases read
  | case7 => rename_i ih; exact ih read
  | case8 => cases read
  | case9 => rename_i ih; exact ih read

/-- The settings in front of the first loading. -/
def started (host : Host) (argv : List String) : Runtime :=
  ((startArguments host argv).map Arguments.runtime).getD (initialRuntime host)

theorem started_nvhttp (argv : List String) :
    (started host argv).nvhttp = (initialRuntime host).nvhttp := by
  rw [started]
  cases read : startArguments host argv with
  | none => rfl
  | some arguments => exact readArguments_nvhttp read

/-- A start that succeeds has read its file to its end. -/
theorem parse_eq_some {argv : List String} {fileContent : Text} {runtime : Runtime}
    (parsed : parse host argv fileContent = some runtime) :
    ∃ left, applyConfig host (fileVars host argv fileContent) (started host argv) =
      .next left runtime := by
  obtain ⟨arguments, read, loaded⟩ := Option.bind_eq_some_iff.mp parsed
  have vars : commandLineOverrides host argv = arguments.cmdVars := by
    rw [commandLineOverrides, read]
    rfl
  have before : started host argv = arguments.runtime := by
    rw [started, read]
    rfl
  rw [fileVars, vars, before]
  split at loaded
  · rename_i left after ran
    cases loaded
    exact ⟨left, ran⟩
  · cases loaded

theorem readable_of_next {vars left : Vars} {runtime after : Runtime}
    (ran : applyConfig host vars runtime = .next left after) :
    remappingReadable host vars = true ∧ commandsReadable host vars = true := by
  rcases @applyConfig_cases host vars runtime with
    ⟨_, _, thrown⟩ | ⟨_, _, _, thrown⟩ | ⟨readable, commands, _⟩
  · rw [thrown] at ran
    cases ran
  · rw [thrown] at ran
    cases ran
  · exact ⟨readable, commands⟩

theorem carried_start {argv : List String} {fileContent : Text} {runtime : Runtime}
    (parsed : parse host argv fileContent = some runtime) :
    Carried host [fileVars host argv fileContent] runtime.nvhttp := by
  obtain ⟨left, ran⟩ := parse_eq_some parsed
  obtain ⟨readable, commands⟩ := readable_of_next ran
  intro option
  have got := get_applyConfig_of_readable readable commands (started host argv) option
  rw [ran, started_nvhttp] at got
  refine got.trans ?_
  rw [lastGiven, List.foldl_cons, List.foldl_nil, Option.or_none]
  rfl

/-! ## Reload against restart -/

/-- Two loadings of one file that is read to its end leave the same settings when they leave
the same ones of `nvhttp`. -/
theorem applyConfig_congr {vars : Vars} {runtime other : Runtime}
    (readable : remappingReadable host vars = true)
    (commands : commandsReadable host vars = true)
    (preserved : runtime.preserved = other.preserved)
    (nvhttp : (applyConfig host vars runtime).settings.nvhttp =
      (applyConfig host vars other).settings.nvhttp) :
    (applyConfig host vars runtime).settings = (applyConfig host vars other).settings := by
  obtain ⟨left, groups, ran⟩ := applyConfig_of_commandsReadable host readable commands
    (other.nvhttp.readFiles host vars).fileState
  have options : runtime.nvhttp.readOptions host vars = other.nvhttp.readOptions host vars := by
    obtain ⟨left, groups, ran⟩ := applyConfig_of_commandsReadable host readable commands
      (runtime.nvhttp.readFiles host vars).fileState
    obtain ⟨left', groups', ran'⟩ := applyConfig_of_commandsReadable host readable commands
      (other.nvhttp.readFiles host vars).fileState
    rwa [ran runtime rfl, ran' other rfl] at nvhttp
  have fileState : (runtime.nvhttp.readFiles host vars).fileState =
      (other.nvhttp.readFiles host vars).fileState := by
    have after := congrArg Nvhttp.fileState options
    exact after
  rw [ran runtime fileState, ran other rfl, options, preserved]

theorem reload_last_iff {argv : List String} {files : List Vars} {runtime restarted : Runtime}
    {latest : Text} (carried : Carried host files runtime.nvhttp)
    (preserved : runtime.preserved = (started host argv).preserved)
    (restarts : parse host argv latest = some restarted) :
    applyConfigNow host (commandLineOverrides host argv) runtime latest = restarted ↔
      ∀ option, given host (fileVars host argv latest) option = none →
        ∀ value ∈ lastGiven host files option, value = initialValue host option := by
  obtain ⟨left, ran⟩ := parse_eq_some restarts
  obtain ⟨readable, commands⟩ := readable_of_next ran
  have hot (option : NvhttpOption) :
      (applyConfigNow host (commandLineOverrides host argv) runtime latest).nvhttp.get option =
        (given host (fileVars host argv latest) option).getD (runtime.nvhttp.get option) :=
    get_applyConfig (carried.settled option)
  have fresh (option : NvhttpOption) : restarted.nvhttp.get option =
      (given host (fileVars host argv latest) option).getD (initialValue host option) := by
    rw [carried_start restarts option, lastGiven, List.foldl_cons, List.foldl_nil,
      Option.or_none]
  constructor
  · intro same option missing value found
    have kept := hot option
    rw [same, fresh option, missing, carried option, Option.mem_def.mp found] at kept
    exact kept.symm
  · intro condition
    have nvhttp : (applyConfig host (fileVars host argv latest) runtime).settings.nvhttp =
        (applyConfig host (fileVars host argv latest) (started host argv)).settings.nvhttp := by
      refine Nvhttp.ext_get fun option => ?_
      rw [ran]
      refine (hot option).trans ((fresh option).trans ?_).symm
      cases missing : given host (fileVars host argv latest) option with
      | some value => rfl
      | none =>
        rw [carried option]
        cases found : lastGiven host files option with
        | none => rfl
        | some value => exact (condition option missing value found).symm
    have same := applyConfig_congr readable commands preserved nvhttp
    rw [ran] at same
    exact same

/-- Reloading a row of files ends in the settings of a program that starts with the last one
exactly if each setting of `nvhttp` that the last file gives no value to has its initial value
from the files before. -/
theorem reload_eq_restart_iff {argv : List String} {first : Text} {later : List Text}
    {running restarted : Runtime} (starts : parse host argv first = some running)
    (restarts : parse host argv ((first :: later).getLast (List.cons_ne_nil first later)) =
      some restarted) :
    later.foldl (applyConfigNow host (commandLineOverrides host argv)) running = restarted ↔
      ∀ option,
        given host (fileVars host argv ((first :: later).getLast (List.cons_ne_nil first later)))
          option = none →
        ∀ value ∈ lastGiven host ((first :: later).dropLast.map (fileVars host argv)) option,
          value = initialValue host option := by
  rcases later.eq_nil_or_concat' with rfl | ⟨middle, latest, rfl⟩
  · have same : running = restarted := Option.some.inj (starts.symm.trans restarts)
    simp [same, lastGiven]
  · have last : (first :: (middle ++ [latest])).getLast (List.cons_ne_nil _ _) = latest := by
      simp
    have earlier : (first :: (middle ++ [latest])).dropLast = first :: middle := by
      rw [← List.cons_append, List.dropLast_concat]
    obtain ⟨left, ran⟩ := parse_eq_some starts
    have preserved : (middle.foldl (applyConfigNow host (commandLineOverrides host argv))
        running).preserved = (started host argv).preserved := by
      have kept : (applyConfig host (fileVars host argv first)
          (started host argv)).settings.preserved = (started host argv).preserved :=
        preserved_applyConfig _ _
      rw [ran] at kept
      exact (preserved_reload _ running middle).trans kept
    have carried : Carried host ((first :: middle).map (fileVars host argv))
        (middle.foldl (applyConfigNow host (commandLineOverrides host argv)) running).nvhttp := by
      rw [List.map_cons, ← List.singleton_append]
      exact (carried_start starts).reload middle
    rw [last] at restarts
    rw [last, earlier, List.foldl_append, List.foldl_cons, List.foldl_nil]
    exact reload_last_iff carried preserved restarts

/-- A host with drives, whose JSON texts are all unreadable. -/
def plainHost : Host where
  appdata := "C:\\host\\config"
  hostName := "DESKTOP"
  isRelative path := path.toList.take 2 ≠ ['C', ':']
  underAppdata path := "C:\\host\\config\\" ++ path
  underAppdata_again path relative := by simp [String.toList_append] at relative
  isPrereleaseChannel := false
  isWindows11OrLater := true
  strtod _ := none
  readJson _ := none
  parseJson _ := none

def portFile : Text := "port = 48000\n".toList

def nameFile : Text := "sunshine_name = Den\n".toList

theorem parse_plainHost_isSome :
    (parse plainHost [] portFile).isSome ∧ (parse plainHost [] nameFile).isSome ∧
      (parse plainHost [] []).isSome := by
  decide +kernel

theorem reload_eq_restart_of_port :
    [nameFile].foldl (applyConfigNow plainHost (commandLineOverrides plainHost []))
        ((parse plainHost [] portFile).get parse_plainHost_isSome.1) =
      (parse plainHost [] nameFile).get parse_plainHost_isSome.2.1 := by
  have starts := (Option.some_get parse_plainHost_isSome.1).symm
  have last : [portFile, nameFile].getLast (List.cons_ne_nil _ _) = nameFile := rfl
  have restarts : parse plainHost [] ([portFile, nameFile].getLast (List.cons_ne_nil _ _)) =
      some ((parse plainHost [] nameFile).get parse_plainHost_isSome.2.1) := by
    rw [last]
    exact (Option.some_get parse_plainHost_isSome.2.1).symm
  refine (reload_eq_restart_iff starts restarts).mpr ?_
  intro option _
  cases option <;> decide +kernel

/-- A name that is taken out of the file stays until the program starts again. -/
theorem reload_ne_restart :
    ¬∀ (host : Host) (argv : List String) (first : Text) (later : List Text)
      (running restarted : Runtime), parse host argv first = some running →
      parse host argv ((first :: later).getLast (List.cons_ne_nil first later)) =
        some restarted →
      later.foldl (applyConfigNow host (commandLineOverrides host argv)) running =
        restarted := by
  intro equal
  have same := equal plainHost [] nameFile [[]] _ _
    (Option.some_get parse_plainHost_isSome.2.1).symm
    (Option.some_get parse_plainHost_isSome.2.2).symm
  have names := congrArg (fun runtime => runtime.nvhttp.sunshineName) same
  exact absurd names (by decide +kernel)

end UmbraHost.Config
