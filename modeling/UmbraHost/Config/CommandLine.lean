import UmbraHost.Config.HotReload

/-! # The command line

What the arguments of the program leave in its settings: the options over those of every
file that is loaded, and the flags that letters turn over. -/

namespace UmbraHost.Config

/-! ## What a run of lines keeps -/

section

variable {σ τ υ : Type} {observe : σ → υ}

/-- The line leaves what is observed of the settings as it is, also where it throws. -/
def Line.Keeps (observe : σ → υ) (line : Line σ) : Prop :=
  ∀ vars settings, observe (line.run vars settings).settings = observe settings

theorem runLines_keeps {lines : List (Line σ)} (keeps : ∀ line ∈ lines, line.Keeps observe)
    (vars : Vars) (settings : σ) :
    observe (runLines vars settings lines).settings = observe settings := by
  induction lines generalizing vars settings with
  | nil => rfl
  | cons line rest ih =>
    have first := keeps line List.mem_cons_self vars settings
    rw [runLines]
    cases ran : line.run vars settings with
    | next left changed =>
      rw [ran] at first
      exact (ih (fun other member => keeps other (List.mem_cons_of_mem _ member)) _ _).trans first
    | thrown changed =>
      rw [ran] at first
      exact first

/-- A line about a part keeps what is observed elsewhere. -/
theorem Line.keeps_inside {part : Part σ τ} (apart : ∀ changed whole,
    observe (part.set changed whole) = observe whole) (line : Line τ) :
    (line.inside part).Keeps observe := by
  intro vars whole
  rw [Line.run_inside]
  cases line.run vars (part.get whole) with
  | next left changed => exact apart changed whole
  | thrown changed => exact apart changed whole

/-- A line about a part keeps what it keeps of the part. -/
theorem Line.Keeps.inside {part : Part σ τ} {seen : τ → υ} {line : Line τ}
    (keeps : line.Keeps seen) (same : ∀ whole, observe whole = seen (part.get whole)) :
    (line.inside part).Keeps observe := by
  intro vars whole
  rw [Line.run_inside, same whole, ← keeps vars (part.get whole)]
  cases line.run vars (part.get whole) with
  | next left changed => simp only [Outcome.map, Outcome.settings, same, part.get_set]
  | thrown changed => simp only [Outcome.map, Outcome.settings, same, part.get_set]

/-- A line that turns what is observed into what it makes of its option. -/
theorem runLines_option {front behind : List (Line σ)} {setting : Setting σ} {name : String}
    {change : Option String → υ → υ} {vars last : Vars} {settings final : σ}
    (keeps : ∀ line ∈ front, line.Keeps observe)
    (untaken : name ∉ front.flatMap Line.options)
    (changes : ∀ vars settings, observe (setting.apply vars settings).2 =
      change (vars name) (observe settings))
    (ran : runLines vars settings (front ++ .setting setting :: behind) = .next last final) :
    ∃ left changed, (∀ other, other ∉ front.flatMap Line.options → other ∉ setting.options →
        left other = vars other) ∧
      observe changed = change (vars name) (observe settings) ∧
      runLines left changed behind = .next last final := by
  have kept := runLines_keeps keeps vars settings
  rw [runLines_append] at ran
  cases first : runLines vars settings front with
  | thrown changed =>
    rw [first] at ran
    cases ran
  | next left changed =>
    rw [first] at ran kept
    refine ⟨_, _, fun other outside unread => ?_, ?_, ran⟩
    · exact (setting.others left changed other unread).trans (runLines_others first outside)
    · rw [changes, runLines_others first untaken]
      exact congrArg (change _) kept

end

/-! ## The lines around the flags -/

variable (host : Host)

def Groups.flags (groups : Groups) : Flags := groups.sunshine.flags

def Runtime.flags (runtime : Runtime) : Flags := runtime.groups.flags

def upnpLine : Setting Sunshine :=
  .parsing upnpOf "upnp" (·.flags) fun flags sunshine => { sunshine with flags }

def flagsLine : Setting Sunshine :=
  .parsing flagsOf "flags" (·.flags) fun flags sunshine => { sunshine with flags }

def linesToUpnp : List (Line Groups) :=
  settingLines sunshinePart csrfOptions ++ settingLines streamPart (streamOptions host) ++
    settingLines inputPart (inputOptions host) ++ settingLines sunshinePart serviceOptions ++
    settingLines inputPart rumbleOptions ++ settingLines sunshinePart (networkOptions.take 3)

def linesToFlags : List (Line Groups) :=
  settingLines sunshinePart (networkOptions.drop 4) ++
    playniteOptions.map fun name => .setting (.ignoring name)

def linesToEnd : List (Line Groups) :=
  settingLines sunshinePart (sessionOptions.drop 1) ++
    uiOnlyKeys.map fun name => .setting (.ignoring name)

theorem linesBehind_split : linesBehind host =
    linesToUpnp host ++ .setting (upnpLine.inside sunshinePart) ::
      (linesToFlags ++ .setting (flagsLine.inside sunshinePart) :: linesToEnd) := by
  have network : networkOptions = networkOptions.take 3 ++ upnpLine :: networkOptions.drop 4 := rfl
  have session : sessionOptions = flagsLine :: sessionOptions.drop 1 := rfl
  rw [linesBehind, network, session, linesToUpnp, linesToFlags, linesToEnd]
  simp only [settingLines, List.map_append, List.map_cons, List.append_assoc, List.cons_append]

section

variable {σ : Type} {line : Line Groups}

theorem keeps_settingLines {part : Part Groups σ} (elsewhere : ∀ changed whole,
    (part.set changed whole).flags = whole.flags) (settings : List (Setting σ)) :
    ∀ line ∈ settingLines part settings, line.Keeps Groups.flags := by
  intro line member
  obtain ⟨setting, _, rfl⟩ := List.mem_map.mp member
  exact Line.keeps_inside elsewhere (.setting setting)

theorem keeps_sunshineLines {settings : List (Setting Sunshine)}
    (keeps : ∀ setting ∈ settings, ∀ vars sunshine,
      (setting.apply vars sunshine).2.flags = sunshine.flags) :
    ∀ line ∈ settingLines sunshinePart settings, line.Keeps Groups.flags := by
  intro line member
  obtain ⟨setting, listed, rfl⟩ := List.mem_map.mp member
  exact fun vars whole => keeps setting listed vars whole.sunshine

theorem keeps_ignoring (names : List String) :
    ∀ line ∈ names.map fun name => (.setting (.ignoring name) : Line Groups),
      line.Keeps Groups.flags := by
  intro line member
  obtain ⟨name, _, rfl⟩ := List.mem_map.mp member
  exact fun _ _ => rfl

theorem keeps_oldNames : ∀ line ∈ oldNames.map Line.setting, line.Keeps Groups.flags := by
  simp only [oldNames, List.map_cons, List.map_nil, List.forall_mem_cons]
  exact ⟨fun _ _ => rfl, fun _ _ => rfl, fun _ _ => rfl, fun _ _ => rfl, fun _ _ => rfl,
    fun _ member => by cases member⟩

theorem keeps_linesBefore : ∀ line ∈ linesBefore host, line.Keeps Groups.flags := by
  have vsync : (Line.setting (.computed Groups.forceDisableVsync)).Keeps Groups.flags := by
    intro vars groups
    change groups.forceDisableVsync.flags = groups.flags
    unfold Groups.forceDisableVsync
    split <;> rfl
  simp only [linesBefore, List.forall_mem_append, List.forall_mem_singleton]
  exact ⟨⟨⟨⟨⟨⟨⟨keeps_oldNames, keeps_settingLines (fun _ _ => rfl) _⟩,
    Line.keeps_inside (fun _ _ => rfl) _⟩, keeps_settingLines (fun _ _ => rfl) _⟩,
    keeps_settingLines (fun _ _ => rfl) _⟩, keeps_settingLines (fun _ _ => rfl) _⟩, vsync⟩,
    keeps_settingLines (fun _ _ => rfl) _⟩

theorem keeps_commandLines :
    ∀ line ∈ commandLines host, line.Keeps Sunshine.flags := by
  have keeps {name : String} {read : String → Option (Sunshine → Sunshine)}
      (apart : ∀ text, ∀ change ∈ read text, ∀ sunshine,
        (change sunshine).flags = sunshine.flags) :
      (Line.parsed name read).Keeps Sunshine.flags := by
    intro vars sunshine
    rw [Line.run]
    split
    · rfl
    · split
      · rfl
      · rename_i text given change found
        exact apart _ change found sunshine
  simp only [commandLines, List.forall_mem_cons, List.not_mem_nil, IsEmpty.forall_iff,
    implies_true, and_true]
  refine ⟨keeps fun text change found => ?_, keeps fun text change found => ?_,
    keeps fun text change found => ?_⟩
  all_goals
    obtain ⟨cmds, _, rfl⟩ := Option.map_eq_some_iff.mp found
    exact fun _ => rfl

theorem keeps_linesBetween : ∀ line ∈ linesBetween host, line.Keeps Groups.flags := by
  simp only [linesBetween, List.forall_mem_append]
  refine ⟨⟨?_, keeps_sunshineLines ?_⟩, keeps_settingLines (fun _ _ => rfl) _⟩
  · intro line member
    obtain ⟨command, listed, rfl⟩ := List.mem_map.mp member
    exact (keeps_commandLines host command listed).inside fun _ => rfl
  · simp only [updateOptions, List.forall_mem_cons, List.not_mem_nil, IsEmpty.forall_iff,
      implies_true, and_true]
    exact ⟨fun _ _ => rfl, fun _ _ => rfl⟩

/-- The settings of the host behind `nvhttp` that are not flags. -/
theorem keeps_hostOptions : ∀ setting ∈ csrfOptions ++ serviceOptions ++
    networkOptions.take 3 ++ networkOptions.drop 4 ++ sessionOptions.drop 1,
      ∀ vars sunshine, (setting.apply vars sunshine).2.flags = sunshine.flags := by
  simp only [csrfOptions, serviceOptions, networkOptions, sessionOptions, List.take_succ_cons,
    List.take_zero, List.drop_succ_cons, List.drop_zero, List.cons_append, List.nil_append,
    List.forall_mem_cons, List.not_mem_nil, IsEmpty.forall_iff, implies_true, and_true]
  and_intros <;> exact fun _ _ => rfl

theorem keeps_linesToUpnp : ∀ line ∈ linesToUpnp host, line.Keeps Groups.flags := by
  have keeps := keeps_hostOptions
  simp only [List.forall_mem_append] at keeps
  simp only [linesToUpnp, List.forall_mem_append]
  exact ⟨⟨⟨⟨⟨keeps_sunshineLines keeps.1.1.1.1, keeps_settingLines (fun _ _ => rfl) _⟩,
    keeps_settingLines (fun _ _ => rfl) _⟩, keeps_sunshineLines keeps.1.1.1.2⟩,
    keeps_settingLines (fun _ _ => rfl) _⟩, keeps_sunshineLines keeps.1.1.2⟩

theorem keeps_linesToFlags : ∀ line ∈ linesToFlags, line.Keeps Groups.flags := by
  have keeps := keeps_hostOptions
  simp only [List.forall_mem_append] at keeps
  simp only [linesToFlags, List.forall_mem_append]
  exact ⟨keeps_sunshineLines keeps.1.2, keeps_ignoring playniteOptions⟩

theorem keeps_linesToEnd : ∀ line ∈ linesToEnd, line.Keeps Groups.flags := by
  have keeps := keeps_hostOptions
  simp only [List.forall_mem_append] at keeps
  simp only [linesToEnd, List.forall_mem_append]
  exact ⟨keeps_sunshineLines keeps.2, keeps_ignoring uiOnlyKeys⟩

theorem keeps_nvhttpFiles :
    ∀ line ∈ (nvhttpFiles host).map Line.setting, line.Keeps Runtime.flags := by
  simp only [nvhttpFiles, List.map_cons, List.map_nil, List.forall_mem_cons, List.not_mem_nil,
    IsEmpty.forall_iff, implies_true, and_true]
  and_intros <;> exact fun _ _ => rfl

end

/-! ## The flags behind a loading -/

/-- The lines of a loading up to the last one that may throw, and the one about `nvhttp`
behind it. -/
def linesToOrigin : List (Line Runtime) :=
  (linesBefore host).map (.inside groupsPart) ++ (nvhttpFiles host).map .setting ++
    (linesBetween host).map (.inside groupsPart) ++ [.setting originWebUiAllowed]

theorem keeps_linesToOrigin : ∀ line ∈ linesToOrigin host, line.Keeps Runtime.flags := by
  have inside {lines : List (Line Groups)} (keeps : ∀ line ∈ lines, line.Keeps Groups.flags) :
      ∀ line ∈ lines.map (Line.inside groupsPart), line.Keeps Runtime.flags := by
    intro line member
    obtain ⟨part, listed, rfl⟩ := List.mem_map.mp member
    exact (keeps part listed).inside fun _ => rfl
  simp only [linesToOrigin, List.forall_mem_append, List.forall_mem_singleton]
  exact ⟨⟨⟨inside (keeps_linesBefore host), keeps_nvhttpFiles host⟩,
    inside (keeps_linesBetween host)⟩, fun _ _ => rfl⟩

def flagNames : List String := ["upnp", "flags"]

theorem linesToOrigin_untaken {name : String} (member : name ∈ flagNames) :
    name ∉ (linesToOrigin host).flatMap Line.options :=
  not_mem_of_all (by cbv) member

theorem linesToUpnp_untaken {name : String} (member : name ∈ flagNames) :
    name ∉ (linesToUpnp host).flatMap Line.options :=
  not_mem_of_all (by cbv) member

theorem linesToFlags_untaken : "flags" ∉ linesToFlags.flatMap Line.options := by
  have clear : (linesToFlags.flatMap Line.options).all
      (fun option => !(flagNames.contains option)) = true := by cbv
  exact not_mem_of_all clear (by decide)

theorem flags_linesBehind {vars last : Vars} {groups final : Groups}
    (ran : runLines vars groups (linesBehind host) = .next last final) :
    final.flags = flagsOf (vars "flags") (upnpOf (vars "upnp") groups.flags) := by
  have untaken {name : String} (member : name ∈ flagNames) :
      name ∉ (linesToUpnp host).flatMap Line.options := linesToUpnp_untaken host member
  have upnpSets (vars : Vars) (groups : Groups) :
      ((upnpLine.inside sunshinePart).apply vars groups).2.flags =
        upnpOf (vars "upnp") groups.flags := rfl
  have flagsSets (vars : Vars) (groups : Groups) :
      ((flagsLine.inside sunshinePart).apply vars groups).2.flags =
        flagsOf (vars "flags") groups.flags := rfl
  rw [linesBehind_split] at ran
  obtain ⟨left, changed, others, upnp, rest⟩ := runLines_option (keeps_linesToUpnp host)
    (untaken (by decide)) upnpSets ran
  obtain ⟨behind, halfway, _, flags, ended⟩ := runLines_option keeps_linesToFlags
    linesToFlags_untaken flagsSets rest
  have kept := runLines_keeps keeps_linesToEnd behind halfway
  rw [ended] at kept
  rw [← upnp, ← others "flags" (untaken (by decide)) (by decide), ← flags]
  exact kept

/-- The flags behind a loading are those that the options of the file turn over, from none. -/
theorem flags_applyConfig (vars : Vars) (runtime : Runtime) :
    (applyConfig host vars runtime).settings.flags =
      if remappingReadable host vars && commandsReadable host vars then
        flagsOf (vars "flags") (upnpOf (vars "upnp") {})
      else {} := by
  have kept := runLines_keeps (keeps_linesToOrigin host) vars
    (resetRuntimeConfigToDefaults host runtime)
  have whole : applyConfig host vars runtime =
      (runLines vars (resetRuntimeConfigToDefaults host runtime) (linesToOrigin host)).andThen
        ((linesBehind host).map (.inside groupsPart)) := runLines_append _ _ _ _
  cases front : runLines vars (resetRuntimeConfigToDefaults host runtime) (linesToOrigin host) with
  | thrown changed =>
    rw [front] at kept whole
    rw [whole]
    rcases @applyConfig_cases host vars runtime with
      ⟨unreadable, _⟩ | ⟨_, unreadable, _⟩ | ⟨_, _, left, groups, ran⟩
    · rw [unreadable, Bool.false_and, if_neg Bool.false_ne_true]
      exact kept
    · rw [unreadable, Bool.and_false, if_neg Bool.false_ne_true]
      exact kept
    · rw [ran] at whole
      cases whole
  | next left changed =>
    rw [front] at kept whole
    have untaken {name : String} (member : name ∈ flagNames) : left name = vars name :=
      runLines_others front (linesToOrigin_untaken host member)
    obtain ⟨last, final, ended⟩ := runLines_linesBehind host left changed.groups
    have flags := flags_linesBehind host ended
    have ran : applyConfig host vars runtime = .next last { changed with groups := final } := by
      rw [whole, Outcome.andThen, runLines_inside]
      exact congrArg (Outcome.map _) ended
    obtain ⟨readable, commands⟩ := readable_of_next ran
    have none : changed.groups.flags = {} := kept
    rw [ran, readable, commands, ← untaken (by decide), ← untaken (by decide), ← none]
    exact flags

/-! ## Options over a file -/

/-- The command line leaves no value of the file to the option.  The identity of an adapter
belongs to its name. -/
def overridden (overrides : Vars) (name : String) : Bool :=
  if name = adapterPnpIdKey then (overrides adapterNameKey).isSome else (overrides name).isSome

section

variable {base other overrides : Vars} {name value : String}

/-- The options of both, the ones of the command line first. -/
def layered (base overrides : Vars) : Vars :=
  fun name => if name = adapterPnpIdKey then base name else (overrides name).or (base name)

/-- The identity is the only option that is not one of the two layers. -/
theorem mergeConfigOverrides_eq (base overrides : Vars) :
    mergeConfigOverrides base overrides =
      match overrides adapterNameKey with
      | none => layered base overrides
      | some adapter =>
        match if adapter = "" then none else nonempty (overrides adapterPnpIdKey) with
        | none => (layered base overrides).erase adapterPnpIdKey
        | some id => (layered base overrides).insertOrAssign adapterPnpIdKey id := by
  rw [mergeConfigOverrides]
  cases overrides adapterNameKey with
  | none => rfl
  | some adapter =>
    by_cases blank : adapter = ""
    · subst blank
      rfl
    · cases overrides adapterPnpIdKey with
      | none =>
        simp only [if_neg blank]
        rfl
      | some id =>
        simp only [if_neg blank]
        by_cases unnamed : id = ""
        · subst unnamed
          rfl
        · have kept : nonempty (some id) = some id := by simp [nonempty, unnamed]
          simp only [kept]
          rfl

theorem mergeConfigOverrides_of_ne (different : name ≠ adapterPnpIdKey) :
    mergeConfigOverrides base overrides name = (overrides name).or (base name) := by
  have both : layered base overrides name = (overrides name).or (base name) := if_neg different
  rw [mergeConfigOverrides_eq, ← both]
  split
  · rfl
  · split
    · exact Vars.erase_of_ne different
    · exact Vars.insertOrAssign_of_ne different

theorem mergeConfigOverrides_adapterPnpId :
    mergeConfigOverrides base overrides adapterPnpIdKey =
      match overrides adapterNameKey with
      | none => base adapterPnpIdKey
      | some adapter => if adapter = "" then none else nonempty (overrides adapterPnpIdKey) := by
  rw [mergeConfigOverrides_eq]
  cases overrides adapterNameKey with
  | none => exact if_pos rfl
  | some adapter =>
    cases chosen : if adapter = "" then none else nonempty (overrides adapterPnpIdKey) with
    | none => simp [chosen]
    | some id => simp [chosen]

/-- What the command line gives counts. -/
theorem mergeConfigOverrides_given (given : overrides name = some value)
    (identity : name = adapterPnpIdKey →
      value ≠ "" ∧ ∃ adapter, overrides adapterNameKey = some adapter ∧ adapter ≠ "") :
    mergeConfigOverrides base overrides name = some value := by
  by_cases different : name = adapterPnpIdKey
  · obtain ⟨filled, adapter, named, unblank⟩ := identity different
    subst different
    rw [mergeConfigOverrides_adapterPnpId, named]
    simp [given, nonempty, filled, unblank]
  · rw [mergeConfigOverrides_of_ne different, given]
    rfl

/-- What the file says of an option that the command line decides does not count. -/
theorem mergeConfigOverrides_congr
    (same : ∀ name, overridden overrides name = false → base name = other name) :
    mergeConfigOverrides base overrides = mergeConfigOverrides other overrides := by
  funext name
  by_cases different : name = adapterPnpIdKey
  · subst different
    rw [mergeConfigOverrides_adapterPnpId, mergeConfigOverrides_adapterPnpId]
    cases named : overrides adapterNameKey with
    | none => exact same adapterPnpIdKey (by simp [overridden, named])
    | some adapter => rfl
  · rw [mergeConfigOverrides_of_ne different, mergeConfigOverrides_of_ne different]
    cases given : overrides name with
    | none => exact congrArg (Option.or none) (same name (by simp [overridden, different, given]))
    | some value => rfl

end

/-! ## The run -/

/-- The flags that the letters of the command line leave on. -/
def letterFlags (argv : List String) : Flags := (started host argv).flags

/-- The command line in the settings behind the loading of a file. -/
structure CommandLineKept (argv : List String) (content : Text) (loaded : Runtime) : Prop where
  applied : ∃ before, loaded = (applyConfig host (fileVars host argv content) before).settings
  given : ∀ name value, commandLineOverrides host argv name = some value →
    (name = adapterPnpIdKey → value ≠ "" ∧
      ∃ adapter, commandLineOverrides host argv adapterNameKey = some adapter ∧ adapter ≠ "") →
    fileVars host argv content name = some value
  identity : commandLineOverrides host argv adapterNameKey = none →
    fileVars host argv content adapterPnpIdKey = parseConfig content adapterPnpIdKey
  flags : letterFlags host argv = {} →
    parseConfig content "flags" = none → parseConfig content "upnp" = none →
    loaded.flags =
      if remappingReadable host (fileVars host argv content) &&
          commandsReadable host (fileVars host argv content) then
        flagsOf (commandLineOverrides host argv "flags")
          (upnpOf (commandLineOverrides host argv "upnp") (letterFlags host argv))
      else letterFlags host argv

section

variable {host} {argv : List String}

theorem commandLineKept_applyConfig (content : Text) (before : Runtime) :
    CommandLineKept host argv content
      (applyConfig host (fileVars host argv content) before).settings where
  applied := ⟨before, rfl⟩
  given _ _ found identity := mergeConfigOverrides_given found identity
  identity absent := by rw [fileVars, mergeConfigOverrides_adapterPnpId, absent]
  flags none flags upnp := by
    rw [flags_applyConfig, none, fileVars, mergeConfigOverrides_of_ne (by decide),
      mergeConfigOverrides_of_ne (by decide), flags, upnp, Option.or_none, Option.or_none]

/-- The files say the same of all that the command line leaves to them. -/
def SameBeside (overrides : Vars) (content other : Text) : Prop :=
  ∀ name, overridden overrides name = false → parseConfig content name = parseConfig other name

theorem SameBeside.fileVars_eq {content other : Text}
    (same : SameBeside (commandLineOverrides host argv) content other) :
    fileVars host argv content = fileVars host argv other :=
  mergeConfigOverrides_congr same

theorem foldl_applyConfigNow_congr {contents others : List Text}
    (same : List.Forall₂ (SameBeside (commandLineOverrides host argv)) contents others)
    (runtime : Runtime) :
    contents.foldl (applyConfigNow host (commandLineOverrides host argv)) runtime =
      others.foldl (applyConfigNow host (commandLineOverrides host argv)) runtime := by
  induction same generalizing runtime with
  | nil => rfl
  | @cons content other _ _ first _ ih =>
    have next : applyConfigNow host (commandLineOverrides host argv) runtime content =
        applyConfigNow host (commandLineOverrides host argv) runtime other :=
      congrArg (fun vars => (applyConfig host vars runtime).settings) first.fileVars_eq
    rw [List.foldl_cons, List.foldl_cons, next, ih]

theorem parse_congr {content other : Text}
    (same : SameBeside (commandLineOverrides host argv) content other) :
    parse host argv content = parse host argv other := by
  have vars := same.fileVars_eq
  unfold fileVars commandLineOverrides at vars
  unfold parse
  cases read : startArguments host argv with
  | none => simp only [Option.bind_eq_bind, Option.bind_none]
  | some arguments =>
    simp only [read, Option.map_some, Option.getD_some] at vars
    simp only [Option.bind_eq_bind, Option.bind_some, vars]

/-- Behind every loading of a run the options of the command line stand over those of the
file, and files that differ in nothing else lead to the same settings. -/
theorem commandLine_kept {first : Text} {later : List Text} {running : Runtime}
    (starts : parse host argv first = some running) :
    CommandLineKept host argv ((first :: later).getLast (List.cons_ne_nil first later))
        (later.foldl (applyConfigNow host (commandLineOverrides host argv)) running) ∧
      ∀ first' later',
        List.Forall₂ (SameBeside (commandLineOverrides host argv)) (first :: later)
          (first' :: later') →
        (parse host argv first').map
            (later'.foldl (applyConfigNow host (commandLineOverrides host argv))) =
          some (later.foldl (applyConfigNow host (commandLineOverrides host argv)) running) := by
  constructor
  · rcases later.eq_nil_or_concat' with rfl | ⟨middle, latest, rfl⟩
    · obtain ⟨left, ran⟩ := parse_eq_some starts
      have kept : CommandLineKept host argv first
          (applyConfig host (fileVars host argv first) (started host argv)).settings :=
        commandLineKept_applyConfig first _
      rw [ran] at kept
      exact kept
    · have last : (first :: (middle ++ [latest])).getLast (List.cons_ne_nil _ _) = latest := by
        simp
      rw [last, List.foldl_append, List.foldl_cons, List.foldl_nil]
      exact commandLineKept_applyConfig latest _
  · intro first' later' same
    obtain ⟨start, rest⟩ := List.forall₂_cons.mp same
    rw [← parse_congr start, starts, Option.map_some, foldl_applyConfigNow_congr rest]

end

def portArguments : List String := ["port=50000"]

theorem parse_portArguments_isSome : (parse plainHost portArguments portFile).isSome = true := by
  decide +kernel

theorem commandLine_kept_of_port :
    CommandLineKept plainHost portArguments nameFile
      ([nameFile].foldl (applyConfigNow plainHost (commandLineOverrides plainHost portArguments))
        ((parse plainHost portArguments portFile).get parse_portArguments_isSome)) := by
  have starts := (Option.some_get parse_portArguments_isSome).symm
  have last : [portFile, nameFile].getLast (List.cons_ne_nil _ _) = nameFile := rfl
  have kept := (@commandLine_kept plainHost portArguments portFile [nameFile] _ starts).1
  rwa [last] at kept

def identityFile : Text := "adapter_pnp_id = Y\n".toList

/-- A letter is lost with the first loading already, an option may turn a flag over that no
letter does, and an identity without a name leaves that of the file. -/
theorem commandLine_lost :
    (∃ running, parse plainHost ["-0"] [] = some running ∧
      running.flags ≠ letterFlags plainHost ["-0"]) ∧
    (∃ running, parse plainHost ["upnp=on"] [] = some running ∧
      running.flags ≠ letterFlags plainHost ["upnp=on"]) ∧
    ∃ value, commandLineOverrides plainHost ["adapter_pnp_id=X"] adapterPnpIdKey = some value ∧
      fileVars plainHost ["adapter_pnp_id=X"] identityFile adapterPnpIdKey ≠ some value := by
  refine ⟨?_, ?_, "X", by decide +kernel, by decide +kernel⟩
  · have pin : (parse plainHost ["-0"] []).map (·.flags.pinStdin) = some false := by
      decide +kernel
    obtain ⟨running, starts, off⟩ := Option.map_eq_some_iff.mp pin
    have letter : (letterFlags plainHost ["-0"]).pinStdin = true := by decide +kernel
    refine ⟨running, starts, fun same => ?_⟩
    rw [same, letter] at off
    cases off
  · have upnp : (parse plainHost ["upnp=on"] []).map (·.flags.upnp) = some true := by
      decide +kernel
    obtain ⟨running, starts, on⟩ := Option.map_eq_some_iff.mp upnp
    have letter : (letterFlags plainHost ["upnp=on"]).upnp = false := by decide +kernel
    refine ⟨running, starts, fun same => ?_⟩
    rw [same, letter] at on
    cases on

end UmbraHost.Config
