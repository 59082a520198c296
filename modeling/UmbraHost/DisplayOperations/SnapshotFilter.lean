import Mathlib.Data.List.Sort
import UmbraHost.DisplayOperations.Calls

/-! # Snapshots against the devices present

The comparisons and filters of `snapshot_codec.cpp` on snapshots in memory.
A baseline is restored whole or not at all; only exclusions of the caller take
devices out of it. -/

namespace UmbraHost.DisplayOperations

open UmbraHost.DisplayHelper

/-- `isspace` of the C locale. -/
def isSpace (character : Char) : Bool :=
  character = ' ' || (9 ≤ character.toNat && character.toNat ≤ 13)

def normalizeDeviceId (id : String) : String :=
  let leading := id.toList.dropWhile isSpace
  String.ofList ((leading.reverse.dropWhile isSpace).reverse.map Char.toLower)

/-- `contains_ci`, over the places where the needle may start. -/
def containsCi (haystack needle : List Char) : Bool :=
  haystack.tails.any fun rest => (needle.map Char.toLower).isPrefixOf (rest.map Char.toLower)

def equalsCi (left right : String) : Bool :=
  left.toList.length = right.toList.length && containsCi left.toList right.toList

/-- Names of the bundled virtual display driver and of its predecessor. -/
def isVirtualDisplayDevice (device : EnumeratedDevice) : Bool :=
  let named (text : String) :=
    containsCi text.toList "SunshineVirtualDisplay".toList ||
      containsCi text.toList "Sunshine Virtual Display".toList
  named device.deviceId || named device.displayName || named device.friendlyName ||
    equalsCi device.friendlyName "Sunshine Virtual Display Driver" ||
    match device.edidManufacturerId with
    | none => false
    | some manufacturer => equalsCi manufacturer "SDD" || equalsCi manufacturer "SMK"

def isActiveDisplayDevice (device : EnumeratedDevice) : Bool :=
  device.hasInfo || device.displayName ≠ ""

def EnumeratedDevice.id (device : EnumeratedDevice) : String :=
  if device.deviceId = "" then device.displayName else device.deviceId

def canonicalTopology (topology : ActiveTopology) : ActiveTopology :=
  (topology.map (List.insertionSort fun left right => ¬ right < left)).insertionSort
    fun left right => ¬ right < left

/-- Origins are missing from older snapshots. -/
def equalSnapshotsStrict (left right : Snapshot) : Bool :=
  canonicalTopology left.topology = canonicalTopology right.topology &&
    left.modes = right.modes && left.hdrStates = right.hdrStates &&
    left.primaryDevice = right.primaryDevice &&
    (left.origins = [] || right.origins = [] || left.origins = right.origins)

def validDevices (devices : List EnumeratedDevice) (exclusionsNorm : List String) : List String :=
  devices.filterMap fun device =>
    let norm := normalizeDeviceId device.id
    if device.id = "" || isVirtualDisplayDevice device || exclusionsNorm.contains norm then none
    else some norm

def virtualDevices (devices : List EnumeratedDevice) : List String :=
  devices.filterMap fun device =>
    if device.id ≠ "" && isVirtualDisplayDevice device && isActiveDisplayDevice device then
      some (normalizeDeviceId device.id)
    else none

/-- The parts of a snapshot that belong to allowed devices. -/
def ParsedSnapshot.restrict (allowed : String → Bool) (topology : ActiveTopology)
    (loaded : ParsedSnapshot) : ParsedSnapshot :=
  let primary := loaded.snapshot.primaryDevice
  let layoutRotations := loaded.layoutRotations.filter fun entry => allowed entry.1
  { loaded with
    snapshot :=
      { topology
        modes := loaded.snapshot.modes.filter fun entry => allowed entry.1
        hdrStates := loaded.snapshot.hdrStates.filter fun entry => allowed entry.1
        primaryDevice := if primary ≠ "" && !allowed primary then "" else primary
        origins := loaded.snapshot.origins.filter fun entry => allowed entry.1 }
    layoutRotations
    hasLayoutData := loaded.hasLayoutData && layoutRotations ≠ [] }

def filterLoadedSnapshot (loaded : ParsedSnapshot) (devices : List EnumeratedDevice)
    (exclusions : List String) : Option ParsedSnapshot :=
  let exclusionsNorm := exclusions.map normalizeDeviceId
  let valid := validDevices devices exclusionsNorm
  let snapshotDevices := loaded.snapshot.topology.flatten.map normalizeDeviceId
  let allowed (id : String) :=
    valid.contains (normalizeDeviceId id) && !exclusionsNorm.contains (normalizeDeviceId id)
  let topology := (loaded.snapshot.topology.map (List.filter allowed)).filter (· ≠ [])
  if snapshotDevices.any (virtualDevices devices).contains then none
  else if valid = [] then none
  else if snapshotDevices.any fun norm => !exclusionsNorm.contains norm && !valid.contains norm
  then none
  else if topology = [] then none
  else some (loaded.restrict allowed topology)

end UmbraHost.DisplayOperations
