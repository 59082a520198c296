import UmbraHost.Config.VideoOptions

/-! # Applying a configuration

The other lines of `apply_config`, the whole of it, and what loads a file: `parse` when the
program starts and `apply_config_now` while it runs. -/

namespace UmbraHost.Config

variable (host : Host)

/-! ## Old names -/

/-- A line that only moves texts between an old name of an option and its name. -/
def Setting.renamed {σ : Type} (old new : String) : Setting σ :=
  .ofVars [old, new] (Vars.remapOption old new) fun vars name unlisted => by
    simp only [List.mem_cons, List.not_mem_nil, or_false, not_or] at unlisted
    exact Vars.remapOption_of_ne unlisted.1 unlisted.2

def oldNames : List (Setting Groups) :=
  [.renamed Nv.legacySplitEncodeKey Nv.splitEncodeKey,
    .ignoring "headless_mode",
    .ignoring "isolated_virtual_display_option",
    .ignoring "legacy_virtual_display_mode",
    .renamed "double_refreshrate" "dd_wa_virtual_double_refresh"]

/-! ## Frame limiter -/

def FrameLimiter.setProvider (frameLimiter : FrameLimiter) : FrameLimiter :=
  if frameLimiter.provider = "" then { frameLimiter with provider := "auto" } else frameLimiter

def captureModeFromText (text : String) : VirtualDisplayCaptureMode :=
  match String.ofList (trim (String.ofList (Dd.lowered text.toList))) with
  | "legacy" | "2x" | "fixed-2x" | "fixed_2x" => .legacy
  | "false" | "no" | "disable" | "disabled" | "off" | "0" => .disabled
  | _ => .enabled

def frameLimiterOptions : List (Setting FrameLimiter) :=
  [boolF "frame_limiter_enable" (·.enable) fun enable frameLimiter =>
      { frameLimiter with enable },
    stringF "frame_limiter_provider" (·.provider) fun provider frameLimiter =>
      { frameLimiter with provider },
    .computed FrameLimiter.setProvider,
    frameLimitMillihzF "frame_limiter_fps_limit" (·.fpsLimitMillihz)
      fun fpsLimitMillihz frameLimiter => { frameLimiter with fpsLimitMillihz },
    boolF "frame_limiter_disable_vsync" (·.disableVsync) fun disableVsync frameLimiter =>
      { frameLimiter with disableVsync },
    boolF "rtss_disable_vsync_ullm" (·.disableVsync) fun disableVsync frameLimiter =>
      { frameLimiter with disableVsync },
    genericF "frame_limiter_auto_virtual_framegen" captureModeFromText
      (·.virtualDisplayCaptureMode)
      fun virtualDisplayCaptureMode frameLimiter =>
        { frameLimiter with virtualDisplayCaptureMode }]

def rtssOptions : List (Setting Rtss) :=
  [stringF "rtss_install_path" (·.installPath) fun installPath rtss =>
      { rtss with installPath },
    stringF "rtss_frame_limit_type" (·.frameLimitType) fun frameLimitType rtss =>
      { rtss with frameLimitType }]

/-- The dummy plug workaround needs vertical synchronization off. -/
def Groups.forceDisableVsync (groups : Groups) : Groups :=
  if groups.video.dd.dummyPlugHdr10 then { groups with frameLimiter.disableVsync := true }
  else groups

def losslessScalingOptions : List (Setting LosslessScaling) :=
  [stringF "lossless_scaling_path" (·.exePath) fun exePath losslessScaling =>
      { losslessScaling with exePath },
    boolF "lossless_scaling_legacy_auto_detect" (·.legacyAutoDetect)
      fun legacyAutoDetect losslessScaling => { losslessScaling with legacyAutoDetect }]

/-! ## Files and names -/

/-- The lines about `nvhttp` and the files that stand between them. -/
def nvhttpFiles : List (Setting Runtime) :=
  [pathF "pkey" host.resolve (·.nvhttp.pkey) fun pkey runtime =>
      { runtime with nvhttp.pkey := pkey },
    pathF "cert" host.resolve (·.nvhttp.cert) fun cert runtime =>
      { runtime with nvhttp.cert := cert },
    stringF "sunshine_name" (·.nvhttp.sunshineName) fun sunshineName runtime =>
      { runtime with nvhttp.sunshineName := sunshineName },
    pathF "log_path" host.resolve (·.groups.sunshine.logFile) fun logFile runtime =>
      { runtime with groups.sunshine.logFile := logFile },
    pathF "file_state" host.resolve (·.nvhttp.fileState) fun fileState runtime =>
      { runtime with nvhttp.fileState := fileState },
    pathF "vibeshine_file_state" host.resolve (·.nvhttp.vibeshineFileState)
      fun vibeshineFileState runtime =>
        { runtime with nvhttp.vibeshineFileState := vibeshineFileState },
    -- Without the option the credentials are in the state file.
    pathF "credentials_file" host.resolve (·.nvhttp.fileState) fun credentialsFile runtime =>
      { runtime with groups.sunshine.credentialsFile := credentialsFile },
    stringF "external_ip" (·.nvhttp.externalIp) fun externalIp runtime =>
      { runtime with nvhttp.externalIp := externalIp }]

def commandLines : List (Line Sunshine) :=
  [listPrepCmdF host.readJson "global_prep_cmd" (·.prepCmds) fun prepCmds sunshine =>
      { sunshine with prepCmds },
    listPrepCmdF host.readJson "global_state_cmd" (·.stateCmds) fun stateCmds sunshine =>
      { sunshine with stateCmds },
    listServerCmdF host.readJson "server_cmd" (·.serverCmds) fun serverCmds sunshine =>
      { sunshine with serverCmds }]

def updateOptions : List (Setting Sunshine) :=
  [intF "update_check_interval" (·.updateCheckIntervalSeconds)
      fun updateCheckIntervalSeconds sunshine => { sunshine with updateCheckIntervalSeconds },
    boolF "session_history_enabled" (·.sessionHistoryEnabled)
      fun sessionHistoryEnabled sunshine => { sunshine with sessionHistoryEnabled }]

def audioOptions : List (Setting Audio) :=
  [stringF "audio_sink" (·.sink) fun sink audio => { audio with sink },
    stringF "virtual_sink" (·.virtualSink) fun virtualSink audio => { audio with virtualSink },
    boolF "stream_audio" (·.stream) fun stream audio => { audio with stream },
    boolF "install_steam_audio_drivers" (·.installSteamDrivers)
      fun installSteamDrivers audio => { audio with installSteamDrivers },
    boolF "keep_sink_default" (·.keepDefault) fun keepDefault audio =>
      { audio with keepDefault },
    boolF "auto_capture_sink" (·.autoCapture) fun autoCapture audio =>
      { audio with autoCapture }]

def originWebUiAllowed : Setting Runtime :=
  stringRestrictedF "origin_web_ui_allowed" ["pc", "lan", "wan"] (·.nvhttp.originWebUiAllowed)
    fun originWebUiAllowed runtime =>
      { runtime with nvhttp.originWebUiAllowed := originWebUiAllowed }

/-! ## Streams and input -/

def csrfAllowedOriginsOf (text : Option String) (_ : List String) : List String :=
  ["https://localhost", "https://127.0.0.1", "https://[::1]"] ++
    (listStringOf text []).filter fun origin =>
      8 < origin.length && "https://".toList.isPrefixOf origin.toList

def csrfOptions : List (Setting Sunshine) :=
  [.parsing csrfAllowedOriginsOf "csrf_allowed_origins" (·.csrfAllowedOrigins)
      fun csrfAllowedOrigins sunshine => { sunshine with csrfAllowedOrigins }]

def pingTimeoutOf (text : Option String) (input : Int) : Int :=
  let timeout := intBetweenOf (-1) intMax text (-1)
  if timeout ≠ -1 then timeout else input

def videoMaxBatchSizeKbOf (text : Option String) (input : Int) : Int :=
  let size := intBetweenOf 0 64 text input
  if size ∈ [16, 32, 64] then size else 64

def streamOptions : List (Setting Stream) :=
  [.parsing pingTimeoutOf "ping_timeout" (·.pingTimeout) fun pingTimeout stream =>
      { stream with pingTimeout },
    intBetweenF "lan_encryption_mode" 0 2 (·.lanEncryptionMode) fun lanEncryptionMode stream =>
      { stream with lanEncryptionMode },
    intBetweenF "wan_encryption_mode" 0 2 (·.wanEncryptionMode) fun wanEncryptionMode stream =>
      { stream with wanEncryptionMode },
    pathF "file_apps" host.resolve (·.fileApps) fun fileApps stream =>
      { stream with fileApps },
    intBetweenF "fec_percentage" 1 255 (·.fecPercentage) fun fecPercentage stream =>
      { stream with fecPercentage },
    intBetweenF "pacing_max_bitrate_kbps" 0 10000000 (·.pacingMaxBitrateKbps)
      fun pacingMaxBitrateKbps stream => { stream with pacingMaxBitrateKbps },
    intBetweenF "packetsize" 0 65535 (·.packetsize) fun packetsize stream =>
      { stream with packetsize },
    .parsing videoMaxBatchSizeKbOf "video_max_batch_size_kb" (·.videoMaxBatchSizeKb)
      fun videoMaxBatchSizeKb stream => { stream with videoMaxBatchSizeKb }]

/-- The right Alt key as the Windows key, unless a binding of the key is there. -/
def rightaltToWinOf (text : Option String) (input : List (Int × Int)) : List (Int × Int) :=
  if boolOf text false then emplacePairs [0xA5, 0x5B] input else input

def backButtonTimeoutOf (text : Option String) (input : Int) : Int :=
  let timeout := intOf text intMin
  if intMin < timeout then timeout else input

def keyRepeatPeriodOf (text : Option String) (input : Float) : Float :=
  let frequency := doubleBetweenOf host.strtod 0 1.7976931348623157e308 text 0
  if 0 < frequency then 1 / frequency else input

def keyRepeatDelayOf (text : Option String) (input : Int) : Int :=
  let timeout := intOf text (-1)
  if 0 ≤ timeout then timeout else input

def supportedGamepads : List String := ["auto", "x360", "ds4"]

def inputOptions : List (Setting Input) :=
  [mapIntIntF "keybindings" (·.keybindings) fun keybindings input =>
      { input with keybindings },
    .parsing rightaltToWinOf "key_rightalt_to_key_win" (·.keybindings) fun keybindings input =>
      { input with keybindings },
    .parsing backButtonTimeoutOf "back_button_timeout" (·.backButtonTimeout)
      fun backButtonTimeout input => { input with backButtonTimeout },
    .parsing (keyRepeatPeriodOf host) "key_repeat_frequency" (·.keyRepeatPeriod)
      fun keyRepeatPeriod input => { input with keyRepeatPeriod },
    .parsing keyRepeatDelayOf "key_repeat_delay" (·.keyRepeatDelay)
      fun keyRepeatDelay input => { input with keyRepeatDelay },
    stringRestrictedF "gamepad" supportedGamepads (·.gamepad) fun gamepad input =>
      { input with gamepad },
    boolF "ds4_back_as_touchpad_click" (·.ds4BackAsTouchpadClick)
      fun ds4BackAsTouchpadClick input => { input with ds4BackAsTouchpadClick },
    boolF "motion_as_ds4" (·.motionAsDs4) fun motionAsDs4 input => { input with motionAsDs4 },
    boolF "touchpad_as_ds4" (·.touchpadAsDs4) fun touchpadAsDs4 input =>
      { input with touchpadAsDs4 },
    boolF "mouse" (·.mouse) fun mouse input => { input with mouse },
    boolF "keyboard" (·.keyboard) fun keyboard input => { input with keyboard },
    boolF "controller" (·.controller) fun controller input => { input with controller },
    boolF "always_send_scancodes" (·.alwaysSendScancodes) fun alwaysSendScancodes input =>
      { input with alwaysSendScancodes },
    boolF "high_resolution_scrolling" (·.highResolutionScrolling)
      fun highResolutionScrolling input => { input with highResolutionScrolling },
    boolF "native_pen_touch" (·.nativePenTouch) fun nativePenTouch input =>
      { input with nativePenTouch },
    boolF "enable_input_only_mode" (·.enableInputOnlyMode) fun enableInputOnlyMode input =>
      { input with enableInputOnlyMode }]

def rumbleOptions : List (Setting Input) :=
  [boolF "forward_rumble" (·.forwardRumble) fun forwardRumble input =>
      { input with forwardRumble }]

/-! ## The host itself -/

/-- The flags that the letters of a text turn over, and whether all of them are known. -/
def applyFlags : Text → Flags → Flags × Bool
  | [], flags => (flags, true)
  | '0' :: line, flags => applyFlags line { flags with pinStdin := !flags.pinStdin }
  | '1' :: line, flags => applyFlags line { flags with freshState := !flags.freshState }
  | '2' :: line, flags =>
    applyFlags line { flags with forceVideoHeaderReplace := !flags.forceVideoHeaderReplace }
  | 'p' :: line, flags => applyFlags line { flags with upnp := !flags.upnp }
  | _ :: line, flags => ((applyFlags line flags).1, false)

def upnpOf (text : Option String) (input : Flags) : Flags :=
  if boolOf text false then { input with upnp := !input.upnp } else input

def flagsOf (text : Option String) (input : Flags) : Flags :=
  text.elim input fun line => (applyFlags line.toList input).1

def locales : List String :=
  ["bg", "cs", "de", "en", "en_GB", "en_US", "es", "fr", "hu", "it", "ja", "ko", "pl", "pt",
    "pt_BR", "ru", "sv", "tr", "uk", "vi", "zh", "zh_TW"]

/-- The name of a level, or a text that begins with its digit. -/
def minLogLevelOf (text : Option String) (input : Int) : Int :=
  match nonempty text with
  | none => input
  | some "verbose" => 0
  | some "debug" => 1
  | some "info" => 2
  | some "warning" => 3
  | some "error" => 4
  | some "fatal" => 5
  | some "none" => 6
  | some level =>
    match level.toList with
    | val :: _ => if '0' ≤ val ∧ val < '7' then val.toNat - 48 else input
    | [] => input

def portOf (text : Option String) (input : Int) : Int :=
  intBetweenOf (1024 - 5) (65535 - 21) text input % 2 ^ 16

def serviceOptions : List (Setting Sunshine) :=
  [boolF "system_tray" (·.systemTray) fun systemTray sunshine =>
      { sunshine with systemTray },
    boolF "hide_tray_controls" (·.hideTrayControls) fun hideTrayControls sunshine =>
      { sunshine with hideTrayControls },
    boolF "enable_pairing" (·.enablePairing) fun enablePairing sunshine =>
      { sunshine with enablePairing },
    boolF "enable_discovery" (·.enableDiscovery) fun enableDiscovery sunshine =>
      { sunshine with enableDiscovery },
    boolF "envvar_compatibility_mode" (·.envvarCompatibilityMode)
      fun envvarCompatibilityMode sunshine => { sunshine with envvarCompatibilityMode },
    boolF "notify_pre_releases" (·.notifyPreReleases) fun notifyPreReleases sunshine =>
      { sunshine with notifyPreReleases },
    boolF "legacy_ordering" (·.legacyOrdering) fun legacyOrdering sunshine =>
      { sunshine with legacyOrdering }]

def networkOptions : List (Setting Sunshine) :=
  [.parsing portOf "port" (·.port) fun port sunshine => { sunshine with port },
    stringRestrictedF "address_family" ["ipv4", "both"] (·.addressFamily)
      fun addressFamily sunshine => { sunshine with addressFamily },
    stringF "bind_address" (·.bindAddress) fun bindAddress sunshine =>
      { sunshine with bindAddress },
    .parsing upnpOf "upnp" (·.flags) fun flags sunshine => { sunshine with flags },
    stringRestrictedF "locale" locales (·.locale) fun locale sunshine =>
      { sunshine with locale },
    .parsing minLogLevelOf "min_log_level" (·.minLogLevel) fun minLogLevel sunshine =>
      { sunshine with minLogLevel }]

/-- What `apply_playnite` takes; its settings are a group of their own. -/
def playniteOptions : List String :=
  ["playnite_auto_sync", "playnite_sync_all_installed",
    "playnite_autosync_require_replacement", "playnite_autosync_remove_uninstalled",
    "playnite_recent_games", "playnite_recent_max_age_days",
    "playnite_autosync_delete_after_days", "playnite_focus_attempts",
    "playnite_focus_timeout_secs", "playnite_focus_exit_on_first",
    "playnite_fullscreen_entry_enabled", "playnite_sync_categories",
    "playnite_exclude_categories", "playnite_sync_plugins", "playnite_exclude_plugins",
    "playnite_exclude_games"]

def ttlOf (text : Option String) (input : Int) : Int :=
  let ttlSecs := intBetweenOf 1 intMax text (-1)
  if 0 < ttlSecs then ttlSecs else input

/-- A range that also holds the value of a setting that is not given. -/
def retentionOf (text : Option String) (input : Int) : Int :=
  let retention := intBetweenOf 0 intMax text input
  if 0 ≤ retention then retention else input

def sessionOptions : List (Setting Sunshine) :=
  [.parsing flagsOf "flags" (·.flags) fun flags sunshine => { sunshine with flags },
    .parsing ttlOf "session_token_ttl_seconds" (·.sessionTokenTtl)
      fun sessionTokenTtl sunshine => { sunshine with sessionTokenTtl },
    .parsing ttlOf "remember_me_refresh_token_ttl_seconds" (·.rememberMeRefreshTokenTtl)
      fun rememberMeRefreshTokenTtl sunshine => { sunshine with rememberMeRefreshTokenTtl },
    .parsing retentionOf "session_history_ttl_days" (·.sessionHistoryTtlDays)
      fun sessionHistoryTtlDays sunshine => { sunshine with sessionHistoryTtlDays },
    .parsing retentionOf "session_history_db_size_limit_mb" (·.sessionHistoryDbSizeLimitMb)
      fun sessionHistoryDbSizeLimitMb sunshine =>
        { sunshine with sessionHistoryDbSizeLimitMb },
    boolF "realtime_stats_enabled" (·.realtimeStatsEnabled)
      fun realtimeStatsEnabled sunshine => { sunshine with realtimeStatsEnabled },
    intBetweenF "realtime_stats_poll_interval_ms" 250 60000 (·.realtimeStatsPollIntervalMs)
      fun realtimeStatsPollIntervalMs sunshine =>
        { sunshine with realtimeStatsPollIntervalMs }]

def uiOnlyKeys : List String :=
  ["realtime_stats_history_retention_seconds", "realtime_stats_max_history_points",
    "realtime_stats_pause_when_hidden", "realtime_stats_show_active_sessions",
    "realtime_stats_show_host_stats", "realtime_stats_show_host_charts",
    "realtime_stats_show_session_history"]

/-! ## The whole -/

def settingLines {σ : Type} (part : Part Groups σ) (settings : List (Setting σ)) :
    List (Line Groups) :=
  settings.map fun setting => .setting (setting.inside part)

/-- The lines in front of the ones about `nvhttp`. -/
def linesBefore : List (Line Groups) :=
  oldNames.map .setting ++ settingLines videoPart (videoOptions host) ++
    [(modeRemapping host).inside videoPart] ++ settingLines videoPart (limitOptions host) ++
    settingLines frameLimiterPart frameLimiterOptions ++ settingLines rtssPart rtssOptions ++
    [.setting (.computed Groups.forceDisableVsync)] ++
    settingLines losslessScalingPart losslessScalingOptions

/-- The lines between the files of `nvhttp` and its allowed origins. -/
def linesBetween : List (Line Groups) :=
  (commandLines host).map (.inside sunshinePart) ++ settingLines sunshinePart updateOptions ++
    settingLines audioPart audioOptions

def linesBehind : List (Line Groups) :=
  settingLines sunshinePart csrfOptions ++ settingLines streamPart (streamOptions host) ++
    settingLines inputPart (inputOptions host) ++ settingLines sunshinePart serviceOptions ++
    settingLines inputPart rumbleOptions ++ settingLines sunshinePart networkOptions ++
    playniteOptions.map (fun name => .setting (.ignoring name)) ++
    settingLines sunshinePart sessionOptions ++
    uiOnlyKeys.map fun name => .setting (.ignoring name)

def applyConfigLines : List (Line Runtime) :=
  (linesBefore host).map (.inside groupsPart) ++ (nvhttpFiles host).map .setting ++
    (linesBetween host).map (.inside groupsPart) ++ [.setting originWebUiAllowed] ++
    (linesBehind host).map (.inside groupsPart)

def applyConfig (vars : Vars) (runtime : Runtime) : Outcome Runtime :=
  runLines vars (resetRuntimeConfigToDefaults host runtime) (applyConfigLines host)

/-! ## The command line -/

structure Arguments where
  runtime : Runtime
  cmdVars : Vars

/-- The loop over the arguments.  Nothing stands for an exit with the help text. -/
def readArguments (arguments : Arguments) : List String → Option Arguments
  | [] => some arguments
  | line :: rest =>
    if line = "--help" then none
    else if line = "--shortcut" ∨ line = "--shortcut-admin" then readArguments arguments rest
    else
      match line.toList with
      | '-' :: '-' :: name =>
        some { arguments with
          runtime.preserved.cmd := { name := String.ofList name, argv := rest } }
      | '-' :: letters =>
        let (flags, known) := applyFlags letters arguments.runtime.groups.sunshine.flags
        if known then
          readArguments { arguments with runtime.groups.sunshine.flags := flags } rest
        else none
      | text =>
        if '=' ∉ text then
          readArguments { arguments with runtime.preserved.configFile := line } rest
        else
          match (parseOption text).2 with
          | none => none
          | some (name, value) =>
            readArguments
              { arguments with cmdVars := arguments.cmdVars.insertOrAssign name value } rest

def startArguments (argv : List String) : Option Arguments :=
  readArguments { runtime := initialRuntime host, cmdVars := Vars.empty } argv

/-! ## Loading a file -/

/-- The start of the program with the content of its configuration file.  An exception
that is not about files ends it. -/
def parse (argv : List String) (fileContent : Text) : Option Runtime := do
  let arguments ← startArguments host argv
  match applyConfig host (mergeConfigOverrides (parseConfig fileContent) arguments.cmdVars)
      arguments.runtime with
  | .next _ runtime => some runtime
  | .thrown _ => none

def commandLineOverrides (argv : List String) : Vars :=
  ((startArguments host argv).map Arguments.cmdVars).getD Vars.empty

/-- A reload without runtime overrides and sessions; an exception is caught. -/
def applyConfigNow (overrides : Vars) (runtime : Runtime) (fileContent : Text) : Runtime :=
  (applyConfig host (mergeConfigOverrides (parseConfig fileContent) overrides) runtime).settings

end UmbraHost.Config
