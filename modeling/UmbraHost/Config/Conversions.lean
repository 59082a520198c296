import UmbraHost.Config.Parsers

/-! # Conversions of options

What the words of an option stand for (the `*_from_view` functions of `config.cpp`).  The
parsers of JSON texts are parameters: `readJson` of property trees, which gives nothing
where it throws, and `parseJson` of values, which `config.cpp` catches. -/

namespace UmbraHost.Config

open Json (Tree Value isSpace)
open Rtsp (fromView toInt)

/-! ## Encoders -/

namespace Nv

inductive TwoPass where
  | disabled | quarterResolution | fullResolution
deriving DecidableEq, Repr

inductive SplitEncodeMode where
  | autoMode | enabled | disabled
deriving DecidableEq, Repr

def splitEncodeKey : String := "nvenc_split_encode"

def legacySplitEncodeKey : String := "nvenc_force_split_encode"

/-- The old name of the option, unless the new one is given as well. -/
def normalizeSplitEncodeAlias : Vars → Vars := Vars.remapOption legacySplitEncodeKey splitEncodeKey

def twopassFromView : String → TwoPass
  | "disabled" => .disabled
  | "quarter_res" => .quarterResolution
  | "full_res" => .fullResolution
  | _ => .quarterResolution

def splitEncodeModeFromView : String → SplitEncodeMode
  | "auto" | "driver_decides" => .autoMode
  | "enabled" => .enabled
  | "disabled" => .disabled
  | _ => .autoMode

end Nv

namespace Amd

/-- The presets of one codec by their names; `auto` leaves the choice to the usage. -/
def qualityFromView (balanced quality speed : Int) (qualityType : String)
    (original : Option Int) : Option Int :=
  match qualityType with
  | "auto" => none
  | "balanced" => some balanced
  | "quality" => some quality
  | "speed" => some speed
  | _ => original

def qualityH264 : String → Option Int → Option Int := qualityFromView 0 2 1

def qualityHevc : String → Option Int → Option Int := qualityFromView 5 0 10

def qualityAv1 : String → Option Int → Option Int := qualityFromView 70 30 100

def rcFromView (cbr vbrLatency : Int) (rc : String) (original : Option Int) : Option Int :=
  match rc with
  | "cbr" => some cbr
  | "cqp" => some 0
  | "vbr_latency" => some vbrLatency
  | "vbr_peak" => some 2
  | "qvbr" => some 4
  | "hqvbr" => some 5
  | "hqcbr" => some 6
  | _ => original

def rcH264 : String → Option Int → Option Int := rcFromView 1 3

def rcHevc : String → Option Int → Option Int := rcFromView 3 1

def rcAv1 : String → Option Int → Option Int := rcFromView 3 1

def usageFromView (lowlatency ultralowlatency : Int) (usage : String)
    (original : Option Int) : Option Int :=
  match usage with
  | "lowlatency" => some lowlatency
  | "lowlatency_high_quality" => some 5
  | "transcoding" => some 0
  | "ultralowlatency" => some ultralowlatency
  | "webcam" => some 3
  | _ => original

def usageH264 : String → Option Int → Option Int := usageFromView 2 1

def usageHevc : String → Option Int → Option Int := usageFromView 2 1

def usageAv1 : String → Option Int → Option Int := usageFromView 1 2

def tristateFromView : String → Option Int
  | "true" | "yes" | "enable" | "enabled" | "on" | "1" => some 1
  | "false" | "no" | "disable" | "disabled" | "off" | "0" => some 0
  | _ => none

def av1LatencyFromView : String → Option Int
  | "none" => some 0
  | "power_saving" => some 1
  | "realtime" => some 2
  | "lowest" => some 3
  | _ => none

def coderFromView : String → Int
  | "auto" => 0
  | "cabac" | "ac" => 1
  | "cavlc" | "vlc" => 2
  | _ => 0

end Amd

namespace Qsv

def presetFromView : String → Option Int
  | "veryslow" => some 1
  | "slower" => some 2
  | "slow" => some 3
  | "medium" => some 4
  | "fast" => some 5
  | "faster" => some 6
  | "veryfast" => some 7
  | _ => none

def coderFromView : String → Option Int
  | "auto" => some 0
  | "cabac" | "ac" => some 0
  | "cavlc" | "vlc" => some 1
  | _ => none

end Qsv

namespace Vt

def coderFromView : String → Int
  | "auto" => 0
  | "cabac" | "ac" => 1
  | "cavlc" | "vlc" => 2
  | _ => -1

def allowSoftwareFromView : String → Int
  | "allowed" | "forced" => 1
  | _ => 0

def forceSoftwareFromView : String → Int
  | "forced" => 1
  | _ => 0

def rtFromView : String → Int
  | "disabled" | "off" | "0" => 0
  | _ => 1

end Vt

def Sw.svtav1PresetFromView : String → Int
  | "veryslow" => 1
  | "slower" => 2
  | "slow" => 4
  | "medium" => 5
  | "fast" => 7
  | "faster" => 9
  | "veryfast" => 10
  | "superfast" => 11
  | "ultrafast" => 12
  | _ => 11

/-! ## Displays -/

inductive VirtualDisplayMode where
  | disabled | perClient | shared
deriving DecidableEq, Repr

inductive VirtualDisplayLayout where
  | exclusive | extended | extendedPrimary | extendedIsolated | extendedPrimaryIsolated
deriving DecidableEq, Repr

def virtualDisplayModeFromView : String → VirtualDisplayMode
  | "disabled" => .disabled
  | "per_client" => .perClient
  | "shared" => .shared
  | _ => .perClient

def virtualDisplayLayoutFromView : String → VirtualDisplayLayout
  | "exclusive" => .exclusive
  | "extended" => .extended
  | "extended_primary" => .extendedPrimary
  | "extended_isolated" => .extendedIsolated
  | "extended_primary_isolated" => .extendedPrimaryIsolated
  | _ => .exclusive

namespace Dd

inductive ConfigOption where
  | disabled | verifyOnly | ensureActive | ensurePrimary | ensureOnlyDisplay
deriving DecidableEq, Repr

inductive HelperEngine where
  | automatic | v2 | legacy
deriving DecidableEq, Repr

inductive ResolutionOption where
  | disabled | automatic | manual
deriving DecidableEq, Repr

inductive RefreshRateOption where
  | disabled | automatic | manual | preferHighest
deriving DecidableEq, Repr

inductive HdrOption where
  | disabled | automatic
deriving DecidableEq, Repr

inductive HdrRequestOverride where
  | automatic | forceOn | forceOff
deriving DecidableEq, Repr

def configOptionFromView : String → ConfigOption
  | "disabled" => .disabled
  | "verify_only" => .verifyOnly
  | "ensure_active" => .ensureActive
  | "ensure_primary" => .ensurePrimary
  | "ensure_only_display" => .ensureOnlyDisplay
  | _ => .disabled

def helperEngineFromView : String → HelperEngine
  | "v2" => .v2
  | "legacy" => .legacy
  | _ => .automatic

def resolutionOptionFromView : String → ResolutionOption
  | "disabled" => .disabled
  | "auto" => .automatic
  | "manual" => .manual
  | _ => .disabled

def refreshRateOptionFromView : String → RefreshRateOption
  | "disabled" => .disabled
  | "auto" => .automatic
  | "manual" => .manual
  | "prefer_highest" => .preferHighest
  | _ => .disabled

def hdrOptionFromView : String → HdrOption
  | "disabled" => .disabled
  | "auto" => .automatic
  | _ => .disabled

def hdrRequestOverrideFromView : String → HdrRequestOverride
  | "auto" => .automatic
  | "force_on" => .forceOn
  | "force_off" => .forceOff
  | _ => .automatic

/-! ### Mode remapping -/

structure ModeRemappingEntry where
  requestedResolution : String
  requestedFps : String
  finalResolution : String
  finalRefreshRate : String

structure ModeRemapping where
  mixed : List ModeRemappingEntry := []
  resolutionOnly : List ModeRemappingEntry := []
  refreshRateOnly : List ModeRemappingEntry := []

/-- `get_optional` of a text. -/
def optionalText (entry : Tree) (name : String) : Option String :=
  (entry.child? name).map Tree.data

def parseEntryList (entryList : Tree) : List ModeRemappingEntry :=
  entryList.children.map fun (_, entry) =>
    { requestedResolution := (optionalText entry "requested_resolution").getD ""
      requestedFps := (optionalText entry "requested_fps").getD ""
      finalResolution := (optionalText entry "final_resolution").getD ""
      finalRefreshRate := (optionalText entry "final_refresh_rate").getD "" }

/-- Nothing where the text is no JSON or one of the three lists is missing. -/
def modeRemappingFromView (readJson : String → Option Tree) (value : String) :
    Option ModeRemapping := do
  let jsonTree ← readJson ("\x7b\"dd_mode_remapping\":" ++ value ++ "\x7d")
  let remapping ← jsonTree.child? "dd_mode_remapping"
  let mixed ← remapping.child? "mixed"
  let resolutionOnly ← remapping.child? "resolution_only"
  let refreshRateOnly ← remapping.child? "refresh_rate_only"
  return { mixed := parseEntryList mixed
           resolutionOnly := parseEntryList resolutionOnly
           refreshRateOnly := parseEntryList refreshRateOnly }

/-! ### Snapshots -/

/-- A device id without blanks around it and without the quotes it stands in. -/
def addId (id : String) : Option String :=
  let trimmed := trim id
  let bare :=
    if 2 ≤ trimmed.length ∧ trimmed.head? = some '"' ∧ trimmed.getLast? = some '"' then
      (trimmed.drop 1).dropLast
    else trimmed
  if bare = [] then none else some (String.ofList bare)

/-- The id that an element of the list gives. -/
def elementId (element : Value) : Option String :=
  match element, element.find? "device_id", element.find? "id" with
  | .str id, _, _ => addId id
  | .obj _, some (.str id), _ => addId id
  | .obj _, _, some (.str id) => addId id
  | _, _, _ => none

def excludeDevices (json : Value) : Value :=
  ((json.find? "exclude_devices").or (json.find? "devices")).getD json

def snapshotExcludeDevicesFromView (parseJson : String → Option Value)
    (value : String) : List String :=
  match parseJson value with
  | some json =>
    match excludeDevices json with
    | .arr items => items.filterMap elementId
    | _ => []
  | none => (value.toList.splitOn ',').filterMap fun item => addId (String.ofList item)

def lowered (text : Text) : Text := text.map Char.toLower

def inByte (code : Int) : Int := if 0 < code ∧ code ≤ 255 then code else 0

/-- The key of a letter or a digit; anything else is read as a number. -/
def singleKey (lower : Text) : Option Int :=
  match lower with
  | [ch] =>
    if ch.isLower then some ch.toUpper.toNat
    else if ch.isDigit then some ch.toNat else none
  | _ => none

def functionKey (lower : Text) : Option Int :=
  match lower with
  | 'f' :: ch :: rest =>
    let fkey := toInt (fromView (ch :: rest))
    if 1 ≤ fkey ∧ fkey ≤ 24 then some (0x70 + (fkey - 1)) else none
  | _ => none

def snapshotRestoreHotkeyFromView (value : String) : Int :=
  let named := lowered (trim value)
  if named = [] ∨ String.ofList named ∈ ["disabled", "none", "off"] then 0
  else
    let lower := if named.take 3 = ['v', 'k', '_'] then named.drop 3 else named
    if lower.take 2 = ['0', 'x'] ∧ 2 < lower.length then inByte (fromHex (lower.drop 2))
    else ((functionKey lower).or (singleKey lower)).getD (inByte (toInt (fromView lower)))

def modAlt : Nat := 1

def modControl : Nat := 2

def modShift : Nat := 4

def modWin : Nat := 8

def modifier : String → Nat
  | "ctrl" | "control" => modControl
  | "alt" => modAlt
  | "shift" => modShift
  | "win" | "windows" | "meta" => modWin
  | _ => 0

/-- The modifier keys of a list with blanks or `+|,;` between them. -/
def snapshotRestoreHotkeyModifiersFromView (value : String) : Nat :=
  let lower := lowered (trim value)
  if lower = [] then 0
  else if String.ofList lower = "default" then modControl ||| modAlt ||| modShift
  else if String.ofList lower ∈ ["disabled", "none", "off"] then 0
  else
    let separator (ch : Char) : Bool := isSpace ch || ch ∈ ['+', '|', ',', ';']
    (lower.splitOnP separator).foldl
      (fun modifiers token => modifiers ||| modifier (String.ofList token)) 0

end Dd

/-! ## Commands -/

structure PrepCmd where
  doCmd : String
  undoCmd : String
  elevated : Bool
deriving DecidableEq, Repr

structure ServerCmd where
  cmdName : String
  cmdVal : String
  elevated : Bool
deriving DecidableEq, Repr

/-- A `bool` read from a stream, as a number or a word. -/
def flagOfWord (word : Text) : Option Bool :=
  let digits := match word with
    | '+' :: rest | '-' :: rest => rest
    | _ => word
  if word = "true".toList then some true
  else if word = "false".toList then some false
  else if digits = [] ∨ !digits.all Char.isDigit then none
  else match Nat.ofDigitChars 10 digits 0 with
    | 0 => some false
    | 1 => if word.head? = some '-' then none else some true
    | _ => none

/-- `get_optional` of a `bool`. -/
def optionalFlag (entry : Tree) (name : String) : Option Bool :=
  (entry.child? name).bind fun child => flagOfWord (trim child.data)

/-- The entries behind a key that is wrapped around the text. -/
def wrappedEntries (readJson : String → Option Tree) (key text : String) :
    Option (List Tree) := do
  let jsonTree ← readJson ("\x7b\"" ++ key ++ "\":" ++ text ++ "\x7d")
  let entries ← jsonTree.child? key
  return entries.children.map Prod.snd

def prepCmds (readJson : String → Option Tree) (string : String) : Option (List PrepCmd) :=
  (wrappedEntries readJson "prep_cmd" string).map fun entries => entries.map fun prepCmd =>
    { doCmd := (Dd.optionalText prepCmd "do").getD ""
      undoCmd := (Dd.optionalText prepCmd "undo").getD ""
      elevated := (optionalFlag prepCmd "elevated").getD false }

def serverCmds (readJson : String → Option Tree) (string : String) :
    Option (List ServerCmd) :=
  (wrappedEntries readJson "server_cmd" string).map fun entries => entries.map fun serverCmd =>
    { cmdName := (Dd.optionalText serverCmd "name").getD ""
      cmdVal := (Dd.optionalText serverCmd "cmd").getD ""
      elevated := (optionalFlag serverCmd "elevated").getD false }

def listPrepCmdF {σ : Type} (readJson : String → Option Tree) (name : String)
    (get : σ → List PrepCmd) (set : List PrepCmd → σ → σ) : Line σ :=
  .parsed name fun string => (prepCmds readJson string).map fun cmds settings =>
    set (get settings ++ cmds) settings

def listServerCmdF {σ : Type} (readJson : String → Option Tree) (name : String)
    (get : σ → List ServerCmd) (set : List ServerCmd → σ → σ) : Line σ :=
  .parsed name fun string => (serverCmds readJson string).map fun cmds settings =>
    set (get settings ++ cmds) settings

end UmbraHost.Config
