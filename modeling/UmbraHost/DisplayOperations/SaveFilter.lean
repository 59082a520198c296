import UmbraHost.DisplayOperations.LoadFilter

/-! # What is saved can be loaded

`filter_snapshot_for_save` keeps of a capture the devices that are safe to restore. -/

namespace UmbraHost.DisplayOperations

open UmbraHost.DisplayHelper

variable {devices : List EnumeratedDevice} {exclusions : List String} {id : String}

/-- The devices that a saved snapshot may mention, by their exact identifiers. -/
def savedDevices (devices : List EnumeratedDevice) (exclusions : List String) : List String :=
  let valid := devices.filterMap fun device =>
    if isVirtualDisplayDevice device || device.displayName = "" || device.id = "" then none
    else some device.id
  if exclusions = [] then valid else valid.filter fun id => !excludes exclusions id

/-- The snapshot to save, or the reason for which there is none. -/
def filterSnapshotForSave (snap : Snapshot) (devices : List EnumeratedDevice)
    (exclusions : List String) : Except String Snapshot :=
  let valid := savedDevices devices exclusions
  let topology := keepDevices valid.contains snap.topology
  if snap.modes = [] then .error "mode set is empty"
  else if exclusions ≠ [] ∧ valid = [] then .error "all devices are excluded"
  else if topology = [] then .error "no devices with valid display_name"
  else
    .ok
      { topology
        modes := snap.modes.filter fun entry => valid.contains entry.1
        hdrStates := snap.hdrStates.filter fun entry => valid.contains entry.1
        primaryDevice := if valid.contains snap.primaryDevice then snap.primaryDevice else ""
        origins := snap.origins.filter fun entry => valid.contains entry.1 }

/-- Two entries of the list under one normalized identifier are the same device. -/
def DistinctIds (devices : List EnumeratedDevice) : Prop :=
  ∀ device ∈ devices, ∀ other ∈ devices, device.id ≠ "" → other.id ≠ "" →
    normalizeDeviceId device.id = normalizeDeviceId other.id → device = other

theorem mem_savedDevices (member : id ∈ savedDevices devices exclusions) :
    (∃ device ∈ devices, device.id = id ∧ id ≠ "" ∧ isVirtualDisplayDevice device = false) ∧
      excludes exclusions id = false := by
  have present {valid : List String} (known : valid = devices.filterMap fun device =>
      if isVirtualDisplayDevice device || device.displayName = "" || device.id = "" then none
      else some device.id) (inside : id ∈ valid) :
      ∃ device ∈ devices, device.id = id ∧ id ≠ "" ∧ isVirtualDisplayDevice device = false := by
    rw [known, List.mem_filterMap] at inside
    obtain ⟨device, listed, found⟩ := inside
    refine ⟨device, listed, ?_⟩
    generalize isVirtualDisplayDevice device = virtual at found
    split at found
    case isTrue => cases found
    case isFalse kept =>
      cases found
      simp only [Bool.or_eq_true, decide_eq_true_eq, not_or] at kept
      exact ⟨rfl, kept.2, Bool.eq_false_iff.mpr kept.1.1⟩
  unfold savedDevices at member
  dsimp only at member
  split at member
  case isTrue none =>
    rw [none]
    exact ⟨present rfl member, rfl⟩
  case isFalse =>
    obtain ⟨inside, included⟩ := List.mem_filter.mp member
    exact ⟨present rfl inside, by simpa using included⟩

/-- A saved device passes the test of the load filter. -/
theorem allowed_of_mem_savedDevices (member : id ∈ savedDevices devices exclusions) :
    allowed devices exclusions id = true := by
  obtain ⟨⟨device, listed, rfl, named, physical⟩, included⟩ := mem_savedDevices member
  exact allowed_iff.mpr ⟨⟨device, listed, ⟨named, rfl⟩, physical⟩, included⟩

theorem not_blocks_of_mem_savedDevices (distinct : DistinctIds devices)
    (member : id ∈ savedDevices devices exclusions) : ¬ Blocks devices exclusions id := by
  obtain ⟨⟨device, listed, rfl, named, physical⟩, included⟩ := mem_savedDevices member
  rintro (⟨other, present, ⟨otherNamed, same⟩, virtual, -⟩ | ⟨-, missing⟩)
  · have one := distinct other present device listed otherNamed named same
    rw [one, physical] at virtual
    cases virtual
  · exact missing ⟨device, listed, ⟨named, rfl⟩, physical⟩

/-- A saved snapshot names saved devices only. -/
theorem mem_of_filterSnapshotForSave {snap saved : Snapshot}
    (accepted : filterSnapshotForSave snap devices exclusions = .ok saved) :
    saved.topology ≠ [] ∧ [] ∉ saved.topology ∧
      (∀ id ∈ saved.topology.flatten, id ∈ savedDevices devices exclusions) ∧
      ∀ id ∈ mentioned saved, id ∈ savedDevices devices exclusions := by
  unfold filterSnapshotForSave at accepted
  generalize savedDevices devices exclusions = valid at accepted ⊢
  dsimp only at accepted
  split at accepted
  case isTrue => cases accepted
  case isFalse =>
    split at accepted
    case isTrue => cases accepted
    case isFalse =>
      split at accepted
      case isTrue => cases accepted
      case isFalse nonempty =>
        cases accepted
        refine ⟨nonempty, nil_notMem_keepDevices _ _, fun id member => ?_, fun id member => ?_⟩
        · simpa using (mem_keepDevices member).2
        · have keys {β : Type} {entries : List (String × β)}
              (member : id ∈ (entries.filter fun entry => valid.contains entry.1).map Prod.fst) :
              id ∈ valid := by
            obtain ⟨entry, kept, rfl⟩ := List.mem_map.mp member
            simpa using (List.mem_filter.mp kept).2
          simp only [mentioned, List.mem_append] at member
          rcases member with ((modes | hdr) | origins) | primary
          · exact keys modes
          · exact keys hdr
          · exact keys origins
          · by_cases known : valid.contains snap.primaryDevice = true
            · rw [if_pos known] at primary
              split at primary
              case isTrue => cases primary
              case isFalse =>
                rw [List.mem_singleton.mp primary]
                simpa using known
            · rw [if_neg known, if_pos rfl] at primary
              cases primary

/-- A baseline that was saved comes back unchanged while the devices and exclusions are the
same. -/
theorem filterLoadedSnapshot_of_saved (snap saved : Snapshot) (loaded : ParsedSnapshot)
    (devices : List EnumeratedDevice) (exclusions : List String) (distinct : DistinctIds devices)
    (accepted : filterSnapshotForSave snap devices exclusions = .ok saved) :
    ∃ result, filterLoadedSnapshot { loaded with snapshot := saved } devices exclusions =
      some result ∧ result.snapshot = saved := by
  obtain ⟨nonempty, groups, topology, fields⟩ := mem_of_filterSnapshotForSave accepted
  have kept : keepDevices (allowed devices exclusions) saved.topology = saved.topology :=
    keepDevices_of_all groups fun id member => allowed_of_mem_savedDevices (topology id member)
  have returned := (filterLoadedSnapshot_eq { loaded with snapshot := saved } devices exclusions).2
    fun id member => not_blocks_of_mem_savedDevices distinct (topology id member)
  dsimp only at returned
  rw [kept, if_neg nonempty] at returned
  exact ⟨_, returned, ParsedSnapshot.snapshot_restrict { loaded with snapshot := saved }
    fun id member => allowed_of_mem_savedDevices (fields id member)⟩

theorem filterLoadedSnapshot_of_saved_one :
    let mode : DisplayMode := ⟨⟨1920, 1080⟩, ⟨60, 1⟩⟩
    let saved : Snapshot := { topology := [["A"]], modes := [("A", mode)] }
    ∃ result, filterLoadedSnapshot { snapshot := saved }
      [{ deviceId := "A", displayName := "1" }, { deviceId := "B" }] ["b"] = some result ∧
        result.snapshot = saved := by
  intro mode saved
  refine filterLoadedSnapshot_of_saved
    { topology := [["A", "B"]], modes := [("A", mode), ("B", mode)], primaryDevice := "B" } saved {}
    [{ deviceId := "A", displayName := "1" }, { deviceId := "B" }] ["b"] ?_ (by decide +kernel)
  unfold DistinctIds
  decide +kernel

end UmbraHost.DisplayOperations
