import UmbraHost.StateFiles.RoundTrip
import Mathlib.Data.List.DropRight

/-! # Edits of the client store

What the operations on paired clients (`nvhttp.cpp`) do to `client_root` under
`client_mutex`, and how clients compare that went through the state file. -/

namespace UmbraHost.ClientStore

open UmbraHost.Json UmbraHost.Tables UmbraHost.StateFiles

def isSpace (char : Char) : Bool :=
  char = ' ' || (9 ≤ char.toNat && char.toNat ≤ 13)

def trimCopy (text : String) : String :=
  String.ofList ((text.toList.dropWhile isSpace).rdropWhile isSpace)

def isPlaceholderClientName (name : String) : Bool :=
  String.ofList ((trimCopy name).toList.map Char.toLower) = "self"

def displayClientNameForSession (pairedName deviceName hostName : String) : String :=
  let paired := trimCopy pairedName
  let device := trimCopy deviceName
  let host := trimCopy hostName
  if paired ≠ "" ∧ isPlaceholderClientName paired = false then paired
  else if device ≠ "" ∧ isPlaceholderClientName device = false then device
  else if host ≠ "" ∧ isPlaceholderClientName host = false then host
  else "Sunshine"

def bracket : Char → Char
  | '(' => '['
  | ')' => ']'
  | char => char

/-- `PERM::_default`. -/
def defaultPerm : Perm := 0x3000000

/-- The client that `clientpairingsecret` adds; the first one gets all permissions. -/
def pairedClient (name cert uuid : String) (firstClient : Bool) : NamedCert :=
  let shown := displayClientNameForSession name "" "Moonlight Client"
  { legacyNamedCert cert uuid with
    name := String.ofList (shown.toList.map bracket)
    perm := if firstClient then Perm.all else defaultPerm }

/-- The arguments of `update_device_info` with configuration overrides. Its caller leaves out
overrides without a name. -/
structure DeviceInfo where
  name : String
  displayMode : String
  outputNameOverride : String
  alwaysUseVirtualDisplay : Bool
  virtualDisplayMode : String
  virtualDisplayLayout : String
  configOverrides : Option (Table String String)
  prefer10bitSdr : Bool
  hdrProfile : Option String
  named : ∀ overrides ∈ configOverrides, overrides.lookup "" = none

/-- The arguments of `update_device_info` with permissions, which its caller has masked. -/
structure PermissionInfo where
  name : String
  displayMode : String
  outputNameOverride : String
  doCmds : List CommandEntry
  undoCmds : List CommandEntry
  newPerm : Perm
  enableLegacyOrdering : Bool
  allowClientCommands : Bool
  alwaysUseVirtualDisplay : Bool
  virtualDisplayMode : String
  virtualDisplayLayout : String
  prefer10bitSdr : Bool
  masked : newPerm &&& Perm.all = newPerm

inductive Update where
  | deviceInfo (info : DeviceInfo)
  | permissions (info : PermissionInfo)
  | hdrProfile (profile : String)
  | lastSeen (now : Int64)

namespace Update

def apply (namedCert : NamedCert) : Update → NamedCert
  | .deviceInfo info =>
    { namedCert with
      name := trimCopy info.name
      displayMode := trimCopy info.displayMode
      alwaysUseVirtualDisplay := info.alwaysUseVirtualDisplay
      outputNameOverride :=
        if info.alwaysUseVirtualDisplay then "" else trimCopy info.outputNameOverride
      virtualDisplayModeOverride := trimCopy info.virtualDisplayMode
      virtualDisplayLayoutOverride := trimCopy info.virtualDisplayLayout
      prefer10bitSdr := info.prefer10bitSdr
      configOverrides := match info.configOverrides with
        | none => namedCert.configOverrides
        | some overrides => mergeConfigOverrides ∅ overrides
      hdrProfile := match info.hdrProfile with
        | none => namedCert.hdrProfile
        | some profile => trimCopy profile }
  | .permissions info =>
    { namedCert with
      name := info.name
      displayMode := info.displayMode
      outputNameOverride := info.outputNameOverride
      perm := info.newPerm
      doCmds := info.doCmds
      undoCmds := info.undoCmds
      enableLegacyOrdering := info.enableLegacyOrdering
      allowClientCommands := info.allowClientCommands
      alwaysUseVirtualDisplay := info.alwaysUseVirtualDisplay
      virtualDisplayModeOverride := info.virtualDisplayMode
      virtualDisplayLayoutOverride := info.virtualDisplayLayout
      prefer10bitSdr := info.prefer10bitSdr }
  | .hdrProfile profile => { namedCert with hdrProfile := trimCopy profile }
  | .lastSeen now => { namedCert with lastSeen := some now }

@[simp] theorem apply_uuid (namedCert : NamedCert) (update : Update) :
    (update.apply namedCert).uuid = namedCert.uuid := by
  cases update <;> rfl

@[simp] theorem apply_cert (namedCert : NamedCert) (update : Update) :
    (update.apply namedCert).cert = namedCert.cert := by
  cases update <;> rfl

end Update

/-- The loops of the updates stop at the first client with the identifier. -/
def updateFirst (uuid : String) (change : NamedCert → NamedCert) :
    List NamedCert → List NamedCert
  | [] => []
  | namedCert :: rest =>
    if namedCert.uuid = uuid then change namedCert :: rest
    else namedCert :: updateFirst uuid change rest

/-- A change of `named_devices` in one turn of `client_mutex`. -/
inductive Edit where
  | pair (client : NamedCert)
  | unpair (uuid : String)
  | update (uuid : String) (change : Update)
  | erase

namespace Edit

def apply : Edit → List NamedCert → List NamedCert
  | .pair client, clients => clients ++ [client]
  | .unpair uuid, clients => clients.filter fun namedCert => namedCert.uuid ≠ uuid
  | .update uuid change, clients => updateFirst uuid change.apply clients
  | .erase, _ => []

/-- The edit takes the client away. -/
def removes (uuid : String) : Edit → Bool
  | .unpair removed => removed = uuid
  | .erase => true
  | _ => false

def pairs (uuid : String) : Edit → Bool
  | .pair client => client.uuid = uuid
  | _ => false

def unpairs (uuid : String) : Edit → Bool
  | .unpair removed => removed = uuid
  | _ => false

theorem unpairs_iff {uuid : String} {edit : Edit} :
    edit.unpairs uuid = true ↔ edit = .unpair uuid := by
  cases edit <;> simp [unpairs]

/-- What the edit makes of one client that it leaves in the store. -/
def revise (namedCert : NamedCert) : Edit → NamedCert
  | .update uuid change => if namedCert.uuid = uuid then change.apply namedCert else namedCert
  | _ => namedCert

@[simp] theorem revise_uuid (namedCert : NamedCert) (edit : Edit) :
    (edit.revise namedCert).uuid = namedCert.uuid := by
  cases edit with
  | update uuid change =>
      simp only [revise]
      split
      · exact Update.apply_uuid namedCert change
      · rfl
  | _ => rfl

@[simp] theorem revise_cert (namedCert : NamedCert) (edit : Edit) :
    (edit.revise namedCert).cert = namedCert.cert := by
  cases edit with
  | update uuid change =>
      simp only [revise]
      split
      · exact Update.apply_cert namedCert change
      · rfl
  | _ => rfl

end Edit

end UmbraHost.ClientStore
