import UmbraHost.Json.Access
import UmbraHost.Tables.EraseIf

/-! # Clients in the state file

The client record of `crypto.h`, the node that `save_state` writes for it and what
`load_state` (`nvhttp.cpp`) reads back from a node. -/

namespace UmbraHost.StateFiles

open UmbraHost.Json UmbraHost.Tables

/-- The permissions of a client, as a bit mask. -/
abbrev Perm := UInt32

namespace Perm

def allInputs : Perm := 0x1F00

def allOperations : Perm := 0x1F0000

def allActions : Perm := 0x7000000

def all : Perm := allInputs ||| allOperations ||| allActions

end Perm

structure CommandEntry where
  cmd : String
  elevated : Bool
deriving DecidableEq, Repr

structure NamedCert where
  name : String
  uuid : String
  cert : String
  displayMode : String
  hdrProfile : String
  outputNameOverride : String
  virtualDisplayModeOverride : String
  virtualDisplayLayoutOverride : String
  doCmds : List CommandEntry
  undoCmds : List CommandEntry
  perm : Perm
  enableLegacyOrdering : Bool
  allowClientCommands : Bool
  alwaysUseVirtualDisplay : Bool
  prefer10bitSdr : Bool
  lastSeen : Option Int64
  configOverrides : Table String String

/-! ## Writing -/

/-- The name up to the first `" ("`. -/
def dropSuffix : List Char → List Char
  | [] => []
  | [last] => [last]
  | first :: second :: rest =>
    if first = ' ' ∧ second = '(' then [] else first :: dropSuffix (second :: rest)

def baseName (name : String) : String :=
  String.ofList (dropSuffix name.toList)

def finalName (base : String) (count : Nat) : String :=
  if count > 0 then base ++ " (" ++ decimal (count + 1 : Nat) ++ ")" else base

namespace CommandEntry

def serialize (entry : CommandEntry) : Value :=
  .obj [("cmd", .str entry.cmd), ("elevated", .bool entry.elevated)]

end CommandEntry

def textUnlessEmpty (name text : String) : Fields Value :=
  if text = "" then [] else [(name, .str text)]

def commandsUnlessEmpty (name : String) (commands : List CommandEntry) : Fields Value :=
  if commands = [] then [] else [(name, .arr (commands.map CommandEntry.serialize))]

def overridesNode (overrides : Table String String) : Value :=
  .obj (overrides.entries.map fun entry => (entry.1, .str entry.2))

def overridesUnlessEmpty (overrides : Table String String) : Fields Value :=
  if overrides.entries = [] then [] else [("config_overrides", overridesNode overrides)]

def lastSeenUnlessNone (lastSeen : Option Int64) : Fields Value :=
  match lastSeen with
  | none => []
  | some seen => [("last_seen", .num seen.toInt)]

/-- The members of `named_cert_node`. -/
def namedCertMembers (namedCert : NamedCert) (finalName : String) : Fields Value :=
  [("name", .str finalName), ("cert", .str namedCert.cert), ("uuid", .str namedCert.uuid),
    ("display_mode", .str namedCert.displayMode)] ++
  textUnlessEmpty "virtual_display_mode" namedCert.virtualDisplayModeOverride ++
  textUnlessEmpty "virtual_display_layout" namedCert.virtualDisplayLayoutOverride ++
  textUnlessEmpty "hdr_profile" namedCert.hdrProfile ++
  textUnlessEmpty "output_name_override" namedCert.outputNameOverride ++
  [("perm", .num namedCert.perm.toNat),
    ("enable_legacy_ordering", .bool namedCert.enableLegacyOrdering),
    ("allow_client_commands", .bool namedCert.allowClientCommands),
    ("always_use_virtual_display", .bool namedCert.alwaysUseVirtualDisplay)] ++
  (if namedCert.prefer10bitSdr then [("prefer_10bit_sdr", .bool true)] else []) ++
  lastSeenUnlessNone namedCert.lastSeen ++
  overridesUnlessEmpty namedCert.configOverrides ++
  commandsUnlessEmpty "do" namedCert.doCmds ++
  commandsUnlessEmpty "undo" namedCert.undoCmds

def namedCertNode (namedCert : NamedCert) (finalName : String) : Value :=
  .obj (namedCertMembers namedCert finalName)

/-- The loop of `save_state`: a certificate is written once, and a base name that was
used before gets the next number. -/
def namedCertNodes (uniqueCerts : List String) (nameCounts : Fields Nat) :
    List NamedCert → List Value
  | [] => []
  | namedCert :: rest =>
    if namedCert.cert ∈ uniqueCerts then namedCertNodes uniqueCerts nameCounts rest
    else
      let base := baseName namedCert.name
      let count := (List.lookup base nameCounts).getD 0
      namedCertNode namedCert (finalName base count) ::
        namedCertNodes (namedCert.cert :: uniqueCerts) (Fields.put base (count + 1) nameCounts)
          rest

/-! ## Reading -/

/-- `get_non_string_json_value` for a type with the given conversions. -/
def getNonString {α : Type} (ofBool : Bool → Result α) (ofNumber : Int → Result α)
    (ofText : String → Option α) (value : Value) (key : String) (default : α) : Result α :=
  match value.find? key with
  | none => .ok default
  | some (.num number) => ofNumber number
  | some (.real _ truncated) => ofNumber truncated
  | some (.bool flag) => ofBool flag
  | some (.str text) => .ok ((ofText text).getD default)
  | some _ => .ok default

def flagOfText (text : String) : Option Bool :=
  let lowered := String.ofList (text.toList.map Char.toLower)
  if lowered = "true" ∨ lowered = "1" ∨ lowered = "yes" then some true
  else if lowered = "false" ∨ lowered = "0" ∨ lowered = "no" then some false
  else none

def getBool : Value → String → Bool → Result Bool :=
  getNonString .ok (fun _ => .error .typeError) flagOfText

def getUInt32 : Value → String → UInt32 → Result UInt32 :=
  getNonString (fun flag => .ok (if flag then 1 else 0)) (fun number => .ok (UInt32.ofInt number))
    fun text => (stoull text).map UInt64.toUInt32

def getInt64 : Value → String → Int64 → Result Int64 :=
  getNonString (fun _ => .error .typeError) (fun number => .ok (Int64.ofInt number)) stoll

/-- One entry; one that cannot be read is left out. -/
def commandEntry (item : Value) : Option CommandEntry :=
  match item.find? "cmd" with
  | some (.str cmd) =>
    match getBool item "elevated" false with
    | .ok elevated => some { cmd := cmd, elevated := elevated }
    | .error _ => none
  | _ => none

def extractCommandEntries (value : Value) (key : String) : List CommandEntry :=
  match value.find? key with
  | none => []
  | some items => items.elements.filterMap commandEntry

/-- A loop of `insert_or_assign` over the entries that are not skipped. -/
def insertUnless (skip : String → Bool) (base : Table String String)
    (entries : List (Sigma fun _ : String => String)) : Table String String :=
  entries.foldl (fun base entry => if skip entry.1 then base else base.insert entry.1 entry.2) base

def mergeConfigOverrides (base overrides : Table String String) : Table String String :=
  let merged := insertUnless (fun name => name = "adapter_pnp_id") base overrides.entries
  match overrides.lookup "adapter_name" with
  | none => merged
  | some adapterName =>
    if adapterName = "" then merged.erase "adapter_pnp_id"
    else
      match overrides.lookup "adapter_pnp_id" with
      | none => merged.erase "adapter_pnp_id"
      | some adapterPnpId =>
        if adapterPnpId = "" then merged.erase "adapter_pnp_id"
        else merged.insert "adapter_pnp_id" adapterPnpId

/-- The loop over the members of `config_overrides`. -/
def readOverrides (overrides : Table String String) : Fields Value → Result (Table String String)
  | [] => .ok overrides
  | (key, value) :: rest =>
    if key = "" then readOverrides overrides rest
    else do
      let text ← value.getText
      readOverrides (overrides.insert key text) rest

def loadOverrides (value : Value) : Result (Table String String) := do
  let overrides ←
    match value.find? "config_overrides" with
    | some (.obj fields) => readOverrides ∅ fields
    | _ => .ok ∅
  return mergeConfigOverrides ∅ overrides

def loadPrefer10bitSdr (value : Value) : Result Bool :=
  match value.find? "prefer_10bit_sdr" with
  | none | some .null => .ok false
  | some _ => getBool value "prefer_10bit_sdr" false

def loadLastSeen (value : Value) : Result (Option Int64) :=
  match value.find? "last_seen" with
  | none | some .null => .ok none
  | some _ => some <$> getInt64 value "last_seen" 0

/-- One turn of the loop over `named_devices`. -/
def loadNamedCert (el : Value) : Result NamedCert := do
  let name ← el.valueOr "name" ""
  let cert ← el.valueOr "cert" ""
  let uuid ← el.valueOr "uuid" ""
  let displayMode ← el.valueOr "display_mode" ""
  let hdrProfile ← el.valueOr "hdr_profile" ""
  let outputNameOverride ← el.valueOr "output_name_override" ""
  let virtualDisplayModeOverride ← el.valueOr "virtual_display_mode" ""
  let virtualDisplayLayoutOverride ← el.valueOr "virtual_display_layout" ""
  let perm ← getUInt32 el "perm" Perm.all
  let enableLegacyOrdering ← getBool el "enable_legacy_ordering" true
  let allowClientCommands ← getBool el "allow_client_commands" true
  let alwaysUseVirtualDisplay ← getBool el "always_use_virtual_display" false
  let prefer10bitSdr ← loadPrefer10bitSdr el
  let lastSeen ← loadLastSeen el
  let configOverrides ← loadOverrides el
  return {
    name, uuid, cert, displayMode, hdrProfile, outputNameOverride, virtualDisplayModeOverride,
    virtualDisplayLayoutOverride, enableLegacyOrdering, allowClientCommands,
    alwaysUseVirtualDisplay, prefer10bitSdr, lastSeen, configOverrides
    perm := perm &&& Perm.all
    doCmds := extractCommandEntries el "do"
    undoCmds := extractCommandEntries el "undo" }

/-- A certificate of the older `devices` list. -/
def legacyNamedCert (cert uuid : String) : NamedCert where
  name := ""
  uuid := uuid
  cert := cert
  displayMode := ""
  hdrProfile := ""
  outputNameOverride := ""
  virtualDisplayModeOverride := ""
  virtualDisplayLayoutOverride := ""
  doCmds := []
  undoCmds := []
  perm := Perm.all
  enableLegacyOrdering := true
  allowClientCommands := true
  alwaysUseVirtualDisplay := false
  prefer10bitSdr := false
  lastSeen := none
  configOverrides := ∅

def loadNamedDevices (root : Value) : Result (List NamedCert) :=
  match root.find? "named_devices" with
  | none => .ok []
  | some nodes => nodes.elements.mapM loadNamedCert

/-- The certificates of the older list; `generate` supplies their identifiers. -/
def loadDevices (generate : Nat → String) (root : Value) : Result (List NamedCert) := do
  let nodes := match root.find? "devices" with
    | none => []
    | some devices => devices.elements
  let certs := nodes.flatMap fun node => ((node.find? "certs").map Value.elements).getD []
  let texts ← certs.mapM Value.getText
  return texts.zipIdx.map fun (cert, index) => legacyNamedCert cert (generate index)

end UmbraHost.StateFiles
