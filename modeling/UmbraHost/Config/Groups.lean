import UmbraHost.Config.Conversions

/-! # Groups of settings

The structures of `config.h` with the settings that `apply_config` reads, and their values
at the start of the program (`config.cpp`), in the Windows build. -/

namespace UmbraHost.Config

/-- What the program takes from its host and from the libraries it is built with.  A path
that is still relative under the folder of the program, as one that begins with a drive
is, stays as it is. -/
structure Host where
  appdata : String
  hostName : String
  isRelative : String → Bool
  underAppdata : String → String
  underAppdata_again : ∀ path, isRelative (underAppdata path) = true →
    underAppdata (underAppdata path) = underAppdata path
  isPrereleaseChannel : Bool
  isWindows11OrLater : Bool
  strtod : String → Option Float
  readJson : String → Option Json.Tree
  parseJson : String → Option Json.Value

/-- The path that `path_f` makes of a text. -/
def Host.resolve (host : Host) (path : String) : String :=
  if host.isRelative path then host.underAppdata path else path

theorem Host.resolve_resolve (host : Host) (path : String) :
    host.resolve (host.resolve path) = host.resolve path := by
  by_cases relative : host.isRelative path
  · rw [Host.resolve, Host.resolve, if_pos relative]
    split
    · exact host.underAppdata_again path ‹_›
    · rfl
  · rw [Host.resolve, Host.resolve, if_neg relative, if_neg relative]

/-! ## Video -/

structure Sw where
  swPreset : String := "superfast"
  swTune : String := "zerolatency"
  svtav1Preset : Option Int := some 11

structure NvencConfig where
  qualityPreset : Int := 1
  twoPass : Nv.TwoPass := .quarterResolution
  vbvPercentageIncrease : Int := 0
  adaptiveQuantization : Bool := false
  temporalAq : Bool := false
  h264Cavlc : Bool := false
  splitEncodeMode : Nv.SplitEncodeMode := .autoMode
  intraRefresh : Bool := false

structure NvLegacy where
  preset : Int := 0
  multipass : Int := 0
  h264Coder : Int := 0
  aq : Int := 0
  vbvPercentageIncrease : Int := 0

structure QsvConfig where
  qsvPreset : Option Int := some 4
  qsvCavlc : Option Int := some 0
  qsvSlowHevc : Bool := false

structure AmdConfig where
  amdUsageH264 : Option Int := some 1
  amdUsageHevc : Option Int := some 1
  amdUsageAv1 : Option Int := some 2
  amdRcH264 : Option Int := some 3
  amdRcHevc : Option Int := some 1
  amdRcAv1 : Option Int := some 1
  amdQvbrQualityLevel : Option Int := none
  amdEnforceHrd : Option Int := some 0
  amdQualityH264 : Option Int := some 0
  amdQualityHevc : Option Int := some 5
  amdQualityAv1 : Option Int := some 70
  amdPreanalysis : Option Int := some 0
  amdVbaq : Option Int := some 1
  amdCoder : Int := 0
  amdLtrFrames : Int := 0
  amdInputQueueSize : Int := 0
  amdSmartAccessVideo : Option Int := none
  amdLowlatencyMode : Option Int := none
  amdHighMotionQualityBoost : Option Int := none
  amdAv1ScreenContent : Option Int := none
  amdAv1LatencyMode : Option Int := none

structure VtConfig where
  vtAllowSw : Int := 0
  vtRequireSw : Int := 0
  vtRealtime : Int := 1
  vtCoder : Int := -1

structure RtxHdr where
  enabled : Bool := false
  forceSdr : Bool := false
  sdrBrightness : Int := 0
  contrast : Int := 0
  saturation : Int := 0
  middleGray : Int := 50
  peakBrightness : Int := 1000

structure DdConfig where
  configurationOption : Dd.ConfigOption := .verifyOnly
  resolutionOption : Dd.ResolutionOption := .automatic
  manualResolution : String := ""
  refreshRateOption : Dd.RefreshRateOption := .automatic
  manualRefreshRate : String := ""
  hdrOption : Dd.HdrOption := .automatic
  hdrRequestOverride : Dd.HdrRequestOverride := .automatic
  configRevertDelay : Int := 3000
  configRevertOnDisconnect : Bool := false
  pausedVirtualDisplayTimeoutSecs : Int := 7200
  alwaysRestoreFromGolden : Bool := true
  displayHelperEngine : Dd.HelperEngine := .automatic
  snapshotRestoreHotkey : Int := 0
  snapshotRestoreHotkeyModifiers : Nat := Dd.modControl ||| Dd.modAlt ||| Dd.modShift
  useSunshineVirtualDisplayDriver : Bool := true
  activateVirtualDisplay : Bool := false
  virtualDisplayScalePercent : Int := -1
  virtualDisplayPermanentCount : Int := 0
  virtualDisplayPermanentCountConfigured : Bool := false
  snapshotExcludeDevices : List String := []
  modeRemapping : Dd.ModeRemapping := {}
  dummyPlugHdr10 : Bool := false
  vulkanHdrLayer : Bool := true

structure Video where
  limitFramerate : Bool := true
  qp : Int := 28
  hevcMode : Int := 0
  av1Mode : Int := 0
  minThreads : Int := 2
  sw : Sw := {}
  nv : NvencConfig := {}
  nvRealtimeHags : Bool := true
  nvOpenglVulkanOnDxgi : Bool := true
  nvSunshineHighPowerMode : Bool := true
  nvLegacy : NvLegacy := {}
  qsv : QsvConfig := {}
  amd : AmdConfig := {}
  vt : VtConfig := {}
  strictRcBuffer : Bool := false
  vkTune : Int := 2
  vkRcMode : Int := 2
  rtxHdr : RtxHdr := {}
  capture : String := ""
  encoder : String := ""
  adapterName : String := ""
  adapterPnpId : String := ""
  outputName : String := ""
  virtualDisplayMode : VirtualDisplayMode := .perClient
  virtualDisplayLayout : VirtualDisplayLayout := .exclusive
  dd : DdConfig := {}
  maxBitrate : Int := 0
  minimumFpsTarget : Float := 20
  wgcPacingSmoothing : Bool := true
  fallbackMode : String := "1920x1080x60"
  ignoreEncoderProbeFailure : Bool := false

/-! ## The other groups -/

structure Audio where
  sink : String := ""
  virtualSink : String := ""
  stream : Bool := true
  installSteamDrivers : Bool := true
  keepDefault : Bool := true
  autoCapture : Bool := true

structure Stream where
  pingTimeout : Int := 10000
  fileApps : String
  fecPercentage : Int := 20
  videoMaxBatchSizeKb : Int := 64
  lanEncryptionMode : Int := 0
  wanEncryptionMode : Int := 1
  pacingMaxBitrateKbps : Int := 0
  packetsize : Int := 0

structure Nvhttp where
  originWebUiAllowed : String := "lan"
  pkey : String := "credentials/cakey.pem"
  cert : String := "credentials/cacert.pem"
  sunshineName : String
  fileState : String := "sunshine_state.json"
  vibeshineFileState : String := "vibeshine_state.json"
  externalIp : String := ""
deriving DecidableEq, Repr

structure Input where
  keybindings : List (Int × Int) := [(0x10, 0xA0), (0x11, 0xA2), (0x12, 0xA4)]
  backButtonTimeout : Int := -1
  keyRepeatDelay : Int := 500
  keyRepeatPeriod : Float := 1 / 24.9
  gamepad : String := "auto"
  ds4BackAsTouchpadClick : Bool := true
  motionAsDs4 : Bool := true
  touchpadAsDs4 : Bool := true
  keyboard : Bool := true
  mouse : Bool := true
  controller : Bool := true
  alwaysSendScancodes : Bool := true
  highResolutionScrolling : Bool := true
  nativePenTouch : Bool := true
  enableInputOnlyMode : Bool := false
  forwardRumble : Bool := true

inductive VirtualDisplayCaptureMode where
  | enabled | disabled | legacy
deriving DecidableEq, Repr

structure FrameLimiter where
  enable : Bool := false
  provider : String := "auto"
  fpsLimitMillihz : Nat := 0
  disableVsync : Bool := false
  virtualDisplayCaptureMode : VirtualDisplayCaptureMode := .enabled

structure Rtss where
  installPath : String := ""
  frameLimitType : String := "async"

structure LosslessScaling where
  exePath : String := ""
  legacyAutoDetect : Bool := false

structure Flags where
  pinStdin : Bool := false
  freshState : Bool := false
  forceVideoHeaderReplace : Bool := false
  upnp : Bool := false

def defaultMinLogLevel (host : Host) : Int := if host.isPrereleaseChannel then 1 else 2

/-- The part of `sunshine_t` that `reset_runtime_config_to_defaults` does not preserve. -/
structure Sunshine where
  hideTrayControls : Bool := false
  enablePairing : Bool := true
  enableDiscovery : Bool := true
  envvarCompatibilityMode : Bool := false
  locale : String := "en"
  minLogLevel : Int
  flags : Flags := {}
  credentialsFile : String := ""
  port : Int := 47989
  addressFamily : String := "ipv4"
  bindAddress : String := ""
  logFile : String
  notifyPreReleases : Bool := false
  legacyOrdering : Bool := false
  systemTray : Bool := true
  prepCmds : List PrepCmd := []
  stateCmds : List PrepCmd := []
  serverCmds : List ServerCmd := []
  sessionTokenTtl : Int := 2 * 3600
  rememberMeRefreshTokenTtl : Int := 7 * 24 * 3600
  updateCheckIntervalSeconds : Int := 86400
  sessionHistoryEnabled : Bool := true
  sessionHistoryTtlDays : Int := 0
  sessionHistoryDbSizeLimitMb : Int := 0
  csrfAllowedOrigins : List String := []
  realtimeStatsEnabled : Bool := true
  realtimeStatsPollIntervalMs : Int := 2000

structure Cmd where
  name : String := ""
  argv : List String := []

/-- The part of `sunshine_t` that `reset_runtime_config_to_defaults` preserves. -/
structure Preserved where
  username : String := ""
  password : String := ""
  salt : String := ""
  configFile : String
  cmd : Cmd := {}

/-- The settings that `reset_runtime_config_to_defaults` brings back. -/
structure Groups where
  video : Video := {}
  audio : Audio := {}
  stream : Stream
  input : Input := {}
  frameLimiter : FrameLimiter := {}
  rtss : Rtss := {}
  losslessScaling : LosslessScaling := {}
  sunshine : Sunshine

structure Runtime where
  groups : Groups
  nvhttp : Nvhttp
  preserved : Preserved

def defaultGroups (host : Host) : Groups where
  stream := { fileApps := host.appdata ++ "/apps.json" }
  sunshine :=
    { minLogLevel := defaultMinLogLevel host, logFile := host.appdata ++ "/sunshine.log" }

/-- All settings when the program starts. -/
def initialRuntime (host : Host) : Runtime where
  groups := defaultGroups host
  nvhttp := { sunshineName := host.hostName }
  preserved := { configFile := host.appdata ++ "/sunshine.conf" }

/-- `nvhttp` is not among the groups that are set back. -/
def resetRuntimeConfigToDefaults (host : Host) (runtime : Runtime) : Runtime :=
  { runtime with groups := defaultGroups host }

/-! ## Parts -/

def videoPart : Part Groups Video where
  get := Groups.video
  set video groups := { groups with video }

def audioPart : Part Groups Audio where
  get := Groups.audio
  set audio groups := { groups with audio }

def streamPart : Part Groups Stream where
  get := Groups.stream
  set stream groups := { groups with stream }

def inputPart : Part Groups Input where
  get := Groups.input
  set input groups := { groups with input }

def frameLimiterPart : Part Groups FrameLimiter where
  get := Groups.frameLimiter
  set frameLimiter groups := { groups with frameLimiter }

def rtssPart : Part Groups Rtss where
  get := Groups.rtss
  set rtss groups := { groups with rtss }

def losslessScalingPart : Part Groups LosslessScaling where
  get := Groups.losslessScaling
  set losslessScaling groups := { groups with losslessScaling }

def sunshinePart : Part Groups Sunshine where
  get := Groups.sunshine
  set sunshine groups := { groups with sunshine }

def groupsPart : Part Runtime Groups where
  get := Runtime.groups
  set groups runtime := { runtime with groups }

end UmbraHost.Config
