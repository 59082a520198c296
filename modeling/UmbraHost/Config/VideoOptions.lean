import UmbraHost.Config.Groups

/-! # Options of the video group

The lines of `apply_config` about `video`, in its order.  The lists are cut where a line may
throw. -/

namespace UmbraHost.Config

variable (host : Host)

def clamp (lower upper value : Int) : Int := max lower (min upper value)

def intOfBool (value : Bool) : Int := if value then 1 else 0

/-! ## Encoders -/

def Video.setSvtav1Preset (video : Video) : Video :=
  if video.sw.swPreset = "" then video
  else { video with sw.svtav1Preset := some (Sw.svtav1PresetFromView video.sw.swPreset) }

/-- The settings of the encoder for older drivers follow the ones that were read. -/
def Video.setNvLegacy (video : Video) : Video :=
  { video with nvLegacy :=
    { preset := video.nv.qualityPreset + 11
      multipass := match video.nv.twoPass with
        | .quarterResolution => 1
        | .fullResolution => 2
        | .disabled => 0
      h264Coder := if video.nv.h264Cavlc then 2 else 1
      aq := intOfBool video.nv.adaptiveQuantization
      vbvPercentageIncrease := video.nv.vbvPercentageIncrease } }

def softwareOptions : List (Setting Video) :=
  [boolF "limit_framerate" (·.limitFramerate) fun limitFramerate video =>
      { video with limitFramerate },
    intF "qp" (·.qp) fun qp video => { video with qp },
    intBetweenF "hevc_mode" 0 3 (·.hevcMode) fun hevcMode video => { video with hevcMode },
    intBetweenF "av1_mode" 0 3 (·.av1Mode) fun av1Mode video => { video with av1Mode },
    intF "min_threads" (·.minThreads) fun minThreads video => { video with minThreads },
    stringF "sw_preset" (·.sw.swPreset) fun swPreset video =>
      { video with sw.swPreset := swPreset },
    .computed Video.setSvtav1Preset,
    stringF "sw_tune" (·.sw.swTune) fun swTune video => { video with sw.swTune := swTune }]

def nvencOptions : List (Setting Video) :=
  [intBetweenF "nvenc_preset" 1 7 (·.nv.qualityPreset) fun qualityPreset video =>
      { video with nv.qualityPreset := qualityPreset },
    intBetweenF "nvenc_vbv_increase" 0 400 (·.nv.vbvPercentageIncrease) fun increase video =>
      { video with nv.vbvPercentageIncrease := increase },
    boolF "nvenc_spatial_aq" (·.nv.adaptiveQuantization) fun adaptiveQuantization video =>
      { video with nv.adaptiveQuantization := adaptiveQuantization },
    boolF "nvenc_temporal_aq" (·.nv.temporalAq) fun temporalAq video =>
      { video with nv.temporalAq := temporalAq },
    genericF "nvenc_split_encode" Nv.splitEncodeModeFromView (·.nv.splitEncodeMode)
      fun splitEncodeMode video => { video with nv.splitEncodeMode := splitEncodeMode },
    genericF "nvenc_twopass" Nv.twopassFromView (·.nv.twoPass) fun twoPass video =>
      { video with nv.twoPass := twoPass },
    boolF "nvenc_h264_cavlc" (·.nv.h264Cavlc) fun h264Cavlc video =>
      { video with nv.h264Cavlc := h264Cavlc },
    boolF "nvenc_intra_refresh" (·.nv.intraRefresh) fun intraRefresh video =>
      { video with nv.intraRefresh := intraRefresh },
    boolF "nvenc_realtime_hags" (·.nvRealtimeHags) fun nvRealtimeHags video =>
      { video with nvRealtimeHags },
    boolF "nvenc_opengl_vulkan_on_dxgi" (·.nvOpenglVulkanOnDxgi)
      fun nvOpenglVulkanOnDxgi video => { video with nvOpenglVulkanOnDxgi },
    boolF "nvenc_latency_over_power" (·.nvSunshineHighPowerMode)
      fun nvSunshineHighPowerMode video => { video with nvSunshineHighPowerMode },
    .computed Video.setNvLegacy]

def qsvOptions : List (Setting QsvConfig) :=
  [genericF "qsv_preset" Qsv.presetFromView (·.qsvPreset) fun qsvPreset qsv =>
      { qsv with qsvPreset },
    genericF "qsv_coder" Qsv.coderFromView (·.qsvCavlc) fun qsvCavlc qsv =>
      { qsv with qsvCavlc },
    boolF "qsv_slow_hevc" (·.qsvSlowHevc) fun qsvSlowHevc qsv => { qsv with qsvSlowHevc }]

/-- A choice of the usage for the three codecs at once. -/
def amdChoice (name : String) (set : String → AmdConfig → AmdConfig) : Setting AmdConfig :=
  .taking name fun text amd => match nonempty text with
    | some choice => set choice amd
    | none => amd

def qvbrQualityLevel (text : Option String) (input : Option Int) : Option Int :=
  let level := intOf text 0
  if 0 < level ∧ level ≤ 51 then some level else input

def amdOptions : List (Setting AmdConfig) :=
  [amdChoice "amd_quality" fun quality amd =>
      { amd with
        amdQualityH264 := Amd.qualityH264 quality amd.amdQualityH264
        amdQualityHevc := Amd.qualityHevc quality amd.amdQualityHevc
        amdQualityAv1 := Amd.qualityAv1 quality amd.amdQualityAv1 },
    amdChoice "amd_rc" fun rc amd =>
      { amd with
        amdRcH264 := Amd.rcH264 rc amd.amdRcH264
        amdRcHevc := Amd.rcHevc rc amd.amdRcHevc
        amdRcAv1 := Amd.rcAv1 rc amd.amdRcAv1 },
    genericF "amd_coder" Amd.coderFromView (·.amdCoder) fun amdCoder amd =>
      { amd with amdCoder },
    .parsing qvbrQualityLevel "amd_qvbr_quality_level" (·.amdQvbrQualityLevel)
      fun amdQvbrQualityLevel amd => { amd with amdQvbrQualityLevel },
    amdChoice "amd_usage" fun usage amd =>
      { amd with
        amdUsageH264 := Amd.usageH264 usage amd.amdUsageH264
        amdUsageHevc := Amd.usageHevc usage amd.amdUsageHevc
        amdUsageAv1 := Amd.usageAv1 usage amd.amdUsageAv1 },
    -- Both are read as a `bool` into the number that is there.
    boolF "amd_preanalysis" (·.amdPreanalysis = some 1) fun preanalysis amd =>
      { amd with amdPreanalysis := some (intOfBool preanalysis) },
    genericF "amd_vbaq" Amd.tristateFromView (·.amdVbaq) fun amdVbaq amd =>
      { amd with amdVbaq },
    boolF "amd_enforce_hrd" (·.amdEnforceHrd = some 1) fun enforceHrd amd =>
      { amd with amdEnforceHrd := some (intOfBool enforceHrd) },
    .parsing (fun text input => clamp 0 2 (intOf text input)) "amd_ltr_frames"
      (·.amdLtrFrames) fun amdLtrFrames amd => { amd with amdLtrFrames },
    .parsing (fun text input => clamp 0 32 (intOf text input)) "amd_input_queue_size"
      (·.amdInputQueueSize) fun amdInputQueueSize amd => { amd with amdInputQueueSize },
    genericF "amd_smart_access_video" Amd.tristateFromView (·.amdSmartAccessVideo)
      fun amdSmartAccessVideo amd => { amd with amdSmartAccessVideo },
    genericF "amd_lowlatency_mode" Amd.tristateFromView (·.amdLowlatencyMode)
      fun amdLowlatencyMode amd => { amd with amdLowlatencyMode },
    genericF "amd_high_motion_quality_boost" Amd.tristateFromView
      (·.amdHighMotionQualityBoost)
      fun amdHighMotionQualityBoost amd => { amd with amdHighMotionQualityBoost },
    genericF "amd_av1_screen_content" Amd.tristateFromView (·.amdAv1ScreenContent)
      fun amdAv1ScreenContent amd => { amd with amdAv1ScreenContent },
    genericF "amd_av1_latency_mode" Amd.av1LatencyFromView (·.amdAv1LatencyMode)
      fun amdAv1LatencyMode amd => { amd with amdAv1LatencyMode }]

/-- The second line about `vt_software` finds the option taken. -/
def vtOptions : List (Setting VtConfig) :=
  [genericF "vt_coder" Vt.coderFromView (·.vtCoder) fun vtCoder vt => { vt with vtCoder },
    genericF "vt_software" Vt.allowSoftwareFromView (·.vtAllowSw) fun vtAllowSw vt =>
      { vt with vtAllowSw },
    genericF "vt_software" Vt.forceSoftwareFromView (·.vtRequireSw) fun vtRequireSw vt =>
      { vt with vtRequireSw },
    genericF "vt_realtime" Vt.rtFromView (·.vtRealtime) fun vtRealtime vt =>
      { vt with vtRealtime }]

def apiOptions : List (Setting Video) :=
  [boolF "vaapi_strict_rc_buffer" (·.strictRcBuffer) fun strictRcBuffer video =>
      { video with strictRcBuffer },
    intF "vk_tune" (·.vkTune) fun vkTune video => { video with vkTune },
    intF "vk_rc_mode" (·.vkRcMode) fun vkRcMode video => { video with vkRcMode }]

def rtxHdrOptions : List (Setting RtxHdr) :=
  [boolF "rtx_hdr" (·.enabled) fun enabled rtxHdr => { rtxHdr with enabled },
    boolF "rtx_hdr_force_sdr" (·.forceSdr) fun forceSdr rtxHdr => { rtxHdr with forceSdr },
    intBetweenF "rtx_hdr_sdr_brightness" 0 100 (·.sdrBrightness) fun sdrBrightness rtxHdr =>
      { rtxHdr with sdrBrightness },
    intBetweenF "rtx_hdr_contrast" (-100) 100 (·.contrast) fun contrast rtxHdr =>
      { rtxHdr with contrast },
    intBetweenF "rtx_hdr_saturation" (-100) 100 (·.saturation) fun saturation rtxHdr =>
      { rtxHdr with saturation },
    intBetweenF "rtx_hdr_middle_gray" 10 100 (·.middleGray) fun middleGray rtxHdr =>
      { rtxHdr with middleGray },
    intBetweenF "rtx_hdr_peak_brightness" 400 2000 (·.peakBrightness)
      fun peakBrightness rtxHdr => { rtxHdr with peakBrightness }]

/-! ## Capture -/

/-- An adapter identity without an adapter name is ignored. -/
def Video.dropOrphanedIdentity (video : Video) : Video :=
  if video.adapterPnpId ≠ "" ∧ video.adapterName = "" then { video with adapterPnpId := "" }
  else video

/-- Without the option a host of Windows 10 stays on its physical display. -/
def virtualDisplayModeOf (text : Option String) (input : VirtualDisplayMode) :
    VirtualDisplayMode :=
  if nonempty text = none ∧ !host.isWindows11OrLater then .disabled
  else genericOf virtualDisplayModeFromView text input

def captureOptions : List (Setting Video) :=
  [stringF "capture" (·.capture) fun capture video => { video with capture },
    boolF "wgc_pacing_smoothing" (·.wgcPacingSmoothing) fun wgcPacingSmoothing video =>
      { video with wgcPacingSmoothing },
    stringF "encoder" (·.encoder) fun encoder video => { video with encoder },
    stringF "adapter_name" (·.adapterName) fun adapterName video => { video with adapterName },
    stringF "adapter_pnp_id" (·.adapterPnpId) fun adapterPnpId video =>
      { video with adapterPnpId },
    .computed Video.dropOrphanedIdentity,
    stringF "output_name" (·.outputName) fun outputName video => { video with outputName },
    .parsing (virtualDisplayModeOf host) "virtual_display_mode" (·.virtualDisplayMode)
      fun virtualDisplayMode video => { video with virtualDisplayMode },
    genericF "virtual_display_layout" virtualDisplayLayoutFromView (·.virtualDisplayLayout)
      fun virtualDisplayLayout video => { video with virtualDisplayLayout }]

/-! ## Display device -/

def configRevertDelayOf (text : Option String) (input : Int) : Int :=
  let value := intBetweenOf 0 intMax text (-1)
  if 0 ≤ value then value else input

/-- Without the option the delay is zero and not its default. -/
def pausedTimeoutOf (text : Option String) (_ : Int) : Int :=
  max 0 (intBetweenOf 0 intMax text 0)

def allowedScales : List Int :=
  [-1, 0, 100, 125, 150, 175, 200, 225, 250, 300, 350, 400, 450, 500]

def virtualDisplayScaleOf (text : Option String) (input : Int) : Int :=
  let value := intOf text input
  if value ∈ allowedScales then value else input

def maxPermanentCount : Int := 4

def DdConfig.setPermanentCount (text : String) (dd : DdConfig) : DdConfig :=
  { dd with
    virtualDisplayPermanentCountConfigured := true
    virtualDisplayPermanentCount :=
      clamp 0 maxPermanentCount (intBetweenOf 0 maxPermanentCount (some text) 0) }

def permanentCountOption (vars : Vars) : Option (String × String) :=
  match vars "dd_virtual_display_permanent_count" with
  | some text => some ("dd_virtual_display_permanent_count", text)
  | none =>
    (vars "dd_vdd_static_monitor_count").map fun text => ("dd_vdd_static_monitor_count", text)

theorem permanentCountOption_name {vars : Vars} {name text : String}
    (found : permanentCountOption vars = some (name, text)) :
    name ∈ ["dd_virtual_display_permanent_count", "dd_vdd_static_monitor_count"] := by
  unfold permanentCountOption at found
  split at found
  · cases found
    exact List.mem_cons_self
  · obtain ⟨_, _, same⟩ := Option.map_eq_some_iff.mp found
    cases same
    exact List.mem_cons_of_mem _ List.mem_cons_self

/-- The count under its name or its old one; only the name that is used is taken. -/
def permanentCount : Setting DdConfig where
  options := ["dd_virtual_display_permanent_count", "dd_vdd_static_monitor_count"]
  apply vars dd :=
    match permanentCountOption vars with
    | some (name, text) => (vars.erase name, dd.setPermanentCount text)
    | none => (vars, { dd with virtualDisplayPermanentCountConfigured := false })
  others vars dd other unlisted := by
    split
    · rename_i name text found
      exact Vars.erase_of_ne
        (ne_of_mem_of_not_mem (permanentCountOption_name found) unlisted).symm
    · rfl

def ddOptions : List (Setting DdConfig) :=
  [genericF "dd_configuration_option" Dd.configOptionFromView (·.configurationOption)
      fun configurationOption dd => { dd with configurationOption },
    genericF "dd_resolution_option" Dd.resolutionOptionFromView (·.resolutionOption)
      fun resolutionOption dd => { dd with resolutionOption },
    stringF "dd_manual_resolution" (·.manualResolution) fun manualResolution dd =>
      { dd with manualResolution },
    genericF "dd_refresh_rate_option" Dd.refreshRateOptionFromView (·.refreshRateOption)
      fun refreshRateOption dd => { dd with refreshRateOption },
    stringF "dd_manual_refresh_rate" (·.manualRefreshRate) fun manualRefreshRate dd =>
      { dd with manualRefreshRate },
    genericF "dd_hdr_option" Dd.hdrOptionFromView (·.hdrOption) fun hdrOption dd =>
      { dd with hdrOption },
    genericF "dd_hdr_request_override" Dd.hdrRequestOverrideFromView (·.hdrRequestOverride)
      fun hdrRequestOverride dd => { dd with hdrRequestOverride },
    .parsing configRevertDelayOf "dd_config_revert_delay" (·.configRevertDelay)
      fun configRevertDelay dd => { dd with configRevertDelay },
    boolF "dd_config_revert_on_disconnect" (·.configRevertOnDisconnect)
      fun configRevertOnDisconnect dd => { dd with configRevertOnDisconnect },
    .parsing pausedTimeoutOf "dd_paused_virtual_display_timeout_secs"
      (·.pausedVirtualDisplayTimeoutSecs)
      fun pausedVirtualDisplayTimeoutSecs dd => { dd with pausedVirtualDisplayTimeoutSecs },
    boolF "dd_always_restore_from_golden" (·.alwaysRestoreFromGolden)
      fun alwaysRestoreFromGolden dd => { dd with alwaysRestoreFromGolden },
    genericF "dd_display_helper_engine" Dd.helperEngineFromView (·.displayHelperEngine)
      fun displayHelperEngine dd => { dd with displayHelperEngine },
    boolF "dd_use_sunshine_virtual_display_driver" (·.useSunshineVirtualDisplayDriver)
      fun useSunshineVirtualDisplayDriver dd => { dd with useSunshineVirtualDisplayDriver },
    boolF "dd_activate_virtual_display" (·.activateVirtualDisplay)
      fun activateVirtualDisplay dd => { dd with activateVirtualDisplay },
    .parsing virtualDisplayScaleOf "dd_virtual_display_scale" (·.virtualDisplayScalePercent)
      fun virtualDisplayScalePercent dd => { dd with virtualDisplayScalePercent },
    boolF "vulkan_hdr_layer" (·.vulkanHdrLayer) fun vulkanHdrLayer dd =>
      { dd with vulkanHdrLayer },
    permanentCount,
    genericF "dd_snapshot_exclude_devices" (Dd.snapshotExcludeDevicesFromView host.parseJson)
      (·.snapshotExcludeDevices)
      fun snapshotExcludeDevices dd => { dd with snapshotExcludeDevices },
    .parsing (fun text input => (text.map Dd.snapshotRestoreHotkeyFromView).getD input)
      "dd_snapshot_restore_hotkey" (·.snapshotRestoreHotkey)
      fun snapshotRestoreHotkey dd => { dd with snapshotRestoreHotkey },
    .parsing (fun text input => (text.map Dd.snapshotRestoreHotkeyModifiersFromView).getD input)
      "dd_snapshot_restore_hotkey_modifiers" (·.snapshotRestoreHotkeyModifiers)
      fun snapshotRestoreHotkeyModifiers dd => { dd with snapshotRestoreHotkeyModifiers }]

/-- The line that throws on a text that is no remapping. -/
def modeRemapping : Line Video :=
  .parsed "dd_mode_remapping" fun text =>
    (Dd.modeRemappingFromView host.readJson text).map fun remapping video =>
      { video with dd.modeRemapping := remapping }

def limitOptions : List (Setting Video) :=
  [.ignoring "dd_wa_hdr_toggle",
    .ignoring "dd_wa_hdr_toggle_delay",
    boolF "dd_wa_dummy_plug_hdr10" (·.dd.dummyPlugHdr10) fun dummyPlugHdr10 video =>
      { video with dd.dummyPlugHdr10 := dummyPlugHdr10 },
    intF "max_bitrate" (·.maxBitrate) fun maxBitrate video => { video with maxBitrate },
    doubleBetweenF "minimum_fps_target" host.strtod 0 1000 (·.minimumFpsTarget)
      fun minimumFpsTarget video => { video with minimumFpsTarget },
    stringF "fallback_mode" (·.fallbackMode) fun fallbackMode video =>
      { video with fallbackMode },
    boolF "ignore_encoder_probe_failure" (·.ignoreEncoderProbeFailure)
      fun ignoreEncoderProbeFailure video => { video with ignoreEncoderProbeFailure }]

/-! ## The group -/

def qsvPart : Part Video QsvConfig where
  get := Video.qsv
  set qsv video := { video with qsv }

def amdPart : Part Video AmdConfig where
  get := Video.amd
  set amd video := { video with amd }

def vtPart : Part Video VtConfig where
  get := Video.vt
  set vt video := { video with vt }

def rtxHdrPart : Part Video RtxHdr where
  get := Video.rtxHdr
  set rtxHdr video := { video with rtxHdr }

def ddPart : Part Video DdConfig where
  get := Video.dd
  set dd video := { video with dd }

def videoOptions : List (Setting Video) :=
  softwareOptions ++ nvencOptions ++ qsvOptions.map (.inside qsvPart) ++
    amdOptions.map (.inside amdPart) ++ vtOptions.map (.inside vtPart) ++ apiOptions ++
    rtxHdrOptions.map (.inside rtxHdrPart) ++ captureOptions host ++
    (ddOptions host).map (.inside ddPart)

end UmbraHost.Config
