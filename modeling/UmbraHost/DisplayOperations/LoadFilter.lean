import UmbraHost.DisplayOperations.SnapshotFilter

/-! # What the load filter lets through

A stored snapshot comes back whole, less the devices that the caller excludes, or not at
all. -/

namespace UmbraHost.DisplayOperations

open UmbraHost.DisplayHelper

variable {devices : List EnumeratedDevice} {exclusions : List String} {id norm : String}

/-! ## Devices -/

/-- The caller excludes the device, up to normalization. -/
def excludes (exclusions : List String) (id : String) : Bool :=
  (exclusions.map normalizeDeviceId).contains (normalizeDeviceId id)

def EnumeratedDevice.Matches (device : EnumeratedDevice) (id : String) : Prop :=
  device.id ≠ "" ∧ normalizeDeviceId device.id = normalizeDeviceId id

/-- The identifier is that of an enumerated device which is not a virtual display. -/
def Restorable (devices : List EnumeratedDevice) (id : String) : Prop :=
  ∃ device ∈ devices, device.Matches id ∧ isVirtualDisplayDevice device = false

/-- The identifier is that of a virtual display that is active. -/
def ActiveVirtual (devices : List EnumeratedDevice) (id : String) : Prop :=
  ∃ device ∈ devices, device.Matches id ∧ isVirtualDisplayDevice device = true ∧
    isActiveDisplayDevice device = true

theorem mem_validDevices {exclusionsNorm : List String} :
    norm ∈ validDevices devices exclusionsNorm ↔ ∃ device ∈ devices, device.id ≠ "" ∧
      isVirtualDisplayDevice device = false ∧ norm ∉ exclusionsNorm ∧
        normalizeDeviceId device.id = norm := by
  simp only [validDevices, List.mem_filterMap]
  refine exists_congr fun device => and_congr_right fun _ => ?_
  generalize isVirtualDisplayDevice device = virtual
  generalize normalizeDeviceId device.id = own
  constructor
  · intro found
    split at found
    case isTrue => cases found
    case isFalse kept =>
      cases found
      simp only [Bool.or_eq_true, decide_eq_true_eq, List.contains_eq_mem, not_or] at kept
      exact ⟨kept.1.1, Bool.eq_false_iff.mpr kept.1.2, kept.2, rfl⟩
  · rintro ⟨named, rfl, included, rfl⟩
    rw [if_neg]
    simp [named, included]

theorem mem_virtualDevices : norm ∈ virtualDevices devices ↔ ∃ device ∈ devices,
    device.id ≠ "" ∧ isVirtualDisplayDevice device = true ∧ isActiveDisplayDevice device = true ∧
      normalizeDeviceId device.id = norm := by
  simp only [virtualDevices, List.mem_filterMap]
  refine exists_congr fun device => and_congr_right fun _ => ?_
  generalize isVirtualDisplayDevice device = virtual
  generalize isActiveDisplayDevice device = active
  generalize normalizeDeviceId device.id = own
  constructor
  · intro found
    split at found
    case isTrue kept =>
      cases found
      simp only [Bool.and_eq_true, decide_eq_true_eq] at kept
      exact ⟨kept.1.1, kept.1.2, kept.2, rfl⟩
    case isFalse => cases found
  · rintro ⟨named, rfl, rfl, rfl⟩
    rw [if_pos (by simp [named])]

theorem mem_validDevices_normalize :
    normalizeDeviceId id ∈ validDevices devices (exclusions.map normalizeDeviceId) ↔
      Restorable devices id ∧ excludes exclusions id = false := by
  rw [mem_validDevices]
  constructor
  · rintro ⟨device, member, named, physical, included, same⟩
    exact ⟨⟨device, member, ⟨named, same⟩, physical⟩, by simpa [excludes] using included⟩
  · rintro ⟨⟨device, member, ⟨named, same⟩, physical⟩, included⟩
    exact ⟨device, member, named, physical, by simpa [excludes] using included, same⟩

theorem mem_virtualDevices_normalize :
    normalizeDeviceId id ∈ virtualDevices devices ↔ ActiveVirtual devices id := by
  rw [mem_virtualDevices]
  constructor
  · rintro ⟨device, member, named, virtual, active, same⟩
    exact ⟨device, member, ⟨named, same⟩, virtual, active⟩
  · rintro ⟨device, member, ⟨named, same⟩, virtual, active⟩
    exact ⟨device, member, named, virtual, active, same⟩

/-- The test that the filter makes of each field. -/
def allowed (devices : List EnumeratedDevice) (exclusions : List String) (id : String) : Bool :=
  (validDevices devices (exclusions.map normalizeDeviceId)).contains (normalizeDeviceId id) &&
    !excludes exclusions id

theorem allowed_iff : allowed devices exclusions id = true ↔
    Restorable devices id ∧ excludes exclusions id = false := by
  rw [allowed, Bool.and_eq_true, List.contains_eq_mem, decide_eq_true_eq,
    mem_validDevices_normalize, Bool.not_eq_true']
  exact and_iff_left_of_imp And.right

/-! ## The filter -/

/-- The topology without the devices that fail the test, and without empty groups. -/
def keepDevices (test : String → Bool) (topology : ActiveTopology) : ActiveTopology :=
  (topology.map (List.filter test)).filter (· ≠ [])

/-- A stored device stands in the way of the whole snapshot. -/
def Blocks (devices : List EnumeratedDevice) (exclusions : List String) (id : String) : Prop :=
  ActiveVirtual devices id ∨ excludes exclusions id = false ∧ ¬ Restorable devices id

theorem keepDevices_nil_of_valid (loaded : ParsedSnapshot)
    (none : validDevices devices (exclusions.map normalizeDeviceId) = []) :
    keepDevices (allowed devices exclusions) loaded.snapshot.topology = [] := by
  have never : ∀ id, allowed devices exclusions id = false := by
    intro id
    simp only [allowed, none, List.contains_nil, Bool.false_and]
  have empty : List.filter (allowed devices exclusions) = fun _ => [] := by
    funext group
    exact List.filter_eq_nil_iff.mpr fun id _ => by simp [never id]
  simp [keepDevices, empty]

theorem blocks_iff : (normalizeDeviceId id ∈ virtualDevices devices ∨
    normalizeDeviceId id ∉ exclusions.map normalizeDeviceId ∧
      normalizeDeviceId id ∉ validDevices devices (exclusions.map normalizeDeviceId)) ↔
    Blocks devices exclusions id := by
  rw [mem_virtualDevices_normalize, mem_validDevices_normalize]
  have included : normalizeDeviceId id ∉ exclusions.map normalizeDeviceId ↔
      excludes exclusions id = false := by simp [excludes]
  rw [included, Blocks]
  refine or_congr_right (and_congr_right fun kept => ?_)
  simp [kept]

/-- The snapshot is returned with what belongs to allowed devices, or there is a device that
stands in the way, or nothing would be left. -/
theorem filterLoadedSnapshot_eq (loaded : ParsedSnapshot) (devices : List EnumeratedDevice)
    (exclusions : List String) :
    ((∃ id ∈ loaded.snapshot.topology.flatten, Blocks devices exclusions id) →
      filterLoadedSnapshot loaded devices exclusions = none) ∧
    ((∀ id ∈ loaded.snapshot.topology.flatten, ¬ Blocks devices exclusions id) →
      filterLoadedSnapshot loaded devices exclusions =
        let topology := keepDevices (allowed devices exclusions) loaded.snapshot.topology
        if topology = [] then none
        else some (loaded.restrict (allowed devices exclusions) topology)) := by
  let topology := keepDevices (allowed devices exclusions) loaded.snapshot.topology
  let norms := loaded.snapshot.topology.flatten.map normalizeDeviceId
  let exclusionsNorm := exclusions.map normalizeDeviceId
  let valid := validDevices devices exclusionsNorm
  have unfolded : filterLoadedSnapshot loaded devices exclusions =
      if norms.any (virtualDevices devices).contains then none
      else if valid = [] then none
      else if norms.any fun norm => !exclusionsNorm.contains norm && !valid.contains norm then none
      else if topology = [] then none
      else some (loaded.restrict (allowed devices exclusions) topology) := rfl
  have virtual : norms.any (virtualDevices devices).contains = true ↔
      ∃ id ∈ loaded.snapshot.topology.flatten,
        normalizeDeviceId id ∈ virtualDevices devices := by
    simp only [norms, List.any_map, List.any_eq_true, Function.comp, List.contains_eq_mem,
      decide_eq_true_eq]
  have missing : (norms.any fun norm => !exclusionsNorm.contains norm && !valid.contains norm) =
      true ↔ ∃ id ∈ loaded.snapshot.topology.flatten,
        normalizeDeviceId id ∉ exclusionsNorm ∧ normalizeDeviceId id ∉ valid := by
    simp only [norms, List.any_map, List.any_eq_true, Function.comp, List.contains_eq_mem,
      Bool.and_eq_true, Bool.not_eq_true', decide_eq_false_iff_not]
  rw [unfolded]
  constructor
  · rintro ⟨id, member, blocks⟩
    rcases blocks_iff.mpr blocks with here | here
    · rw [if_pos (virtual.mpr ⟨id, member, here⟩)]
    · rw [if_pos (missing.mpr ⟨id, member, here⟩)]
      split
      · rfl
      · split <;> rfl
  · intro clear
    have none : ¬ norms.any (virtualDevices devices).contains = true := fun found => by
      obtain ⟨id, member, here⟩ := virtual.mp found
      exact clear id member (blocks_iff.mp (.inl here))
    have present : ¬ (norms.any fun norm =>
        !exclusionsNorm.contains norm && !valid.contains norm) = true := fun found => by
      obtain ⟨id, member, here⟩ := missing.mp found
      exact clear id member (blocks_iff.mp (.inr here))
    rw [if_neg none, if_neg present]
    split
    case isTrue empty =>
      have nothing : topology = [] := keepDevices_nil_of_valid loaded empty
      exact (if_pos nothing).symm
    case isFalse => rfl

/-! ## What comes back -/

theorem mem_keepDevices {test : String → Bool} {topology : ActiveTopology}
    (member : id ∈ (keepDevices test topology).flatten) :
    id ∈ topology.flatten ∧ test id = true := by
  obtain ⟨group, kept, inside⟩ := List.mem_flatten.mp member
  obtain ⟨whole, old, rfl⟩ := List.mem_map.mp (List.mem_filter.mp kept).1
  obtain ⟨here, passes⟩ := List.mem_filter.mp inside
  exact ⟨List.mem_flatten.mpr ⟨whole, old, here⟩, passes⟩

theorem keepDevices_congr {test other : String → Bool} {topology : ActiveTopology}
    (same : ∀ id ∈ topology.flatten, test id = other id) :
    keepDevices test topology = keepDevices other topology := by
  have groups : topology.map (List.filter test) = topology.map (List.filter other) :=
    List.map_congr_left fun group member => List.filter_congr fun id inside =>
      same id (List.mem_flatten.mpr ⟨group, member, inside⟩)
  rw [keepDevices, keepDevices, groups]

/-- What passed the test passes it again. -/
theorem keepDevices_of_all {test : String → Bool} {topology : ActiveTopology}
    (nonempty : [] ∉ topology) (all : ∀ id ∈ topology.flatten, test id = true) :
    keepDevices test topology = topology := by
  have groups : topology.map (List.filter test) = topology := by
    refine (List.map_congr_left fun group member => ?_).trans (List.map_id topology)
    exact List.filter_eq_self.mpr fun id inside =>
      all id (List.mem_flatten.mpr ⟨group, member, inside⟩)
  rw [keepDevices, groups]
  refine List.filter_eq_self.mpr fun group member => decide_eq_true fun empty => ?_
  exact nonempty (empty ▸ member)

theorem nil_notMem_keepDevices (test : String → Bool) (topology : ActiveTopology) :
    [] ∉ keepDevices test topology := by
  intro member
  simpa using (List.mem_filter.mp member).2

/-- The devices that the fields of a snapshot mention, the topology apart. -/
def mentioned (snapshot : Snapshot) : List String :=
  snapshot.modes.map Prod.fst ++ snapshot.hdrStates.map Prod.fst ++
    snapshot.origins.map Prod.fst ++
    if snapshot.primaryDevice = "" then [] else [snapshot.primaryDevice]

def ParsedSnapshot.mentions (loaded : ParsedSnapshot) : List String :=
  mentioned loaded.snapshot ++ loaded.layoutRotations.map Prod.fst

theorem primaryDevice_restrict (test : String → Bool) (topology : ActiveTopology)
    (loaded : ParsedSnapshot) :
    (loaded.restrict test topology).snapshot.primaryDevice = "" ∨
      test (loaded.restrict test topology).snapshot.primaryDevice = true := by
  simp only [ParsedSnapshot.restrict]
  generalize loaded.snapshot.primaryDevice = primary
  split
  case isTrue => exact .inl rfl
  case isFalse kept =>
    by_cases empty : primary = ""
    · exact .inl empty
    · exact .inr (by simpa [empty] using kept)

theorem mem_mentions_restrict {test : String → Bool} {topology : ActiveTopology}
    {loaded : ParsedSnapshot} (member : id ∈ (loaded.restrict test topology).mentions) :
    test id = true := by
  have keys {β : Type} {entries : List (String × β)}
      (member : id ∈ (entries.filter fun entry => test entry.1).map Prod.fst) :
      test id = true := by
    obtain ⟨entry, kept, rfl⟩ := List.mem_map.mp member
    exact (List.mem_filter.mp kept).2
  simp only [ParsedSnapshot.mentions, mentioned, List.mem_append] at member
  rcases member with (((modes | hdr) | origins) | primary) | rotations
  · exact keys modes
  · exact keys hdr
  · exact keys origins
  · split at primary
    case isTrue => cases primary
    case isFalse named =>
      rw [List.mem_singleton.mp primary]
      exact (primaryDevice_restrict test topology loaded).resolve_left named
  · exact keys rotations

theorem filter_keys {β : Type} {test : String → Bool} (entries : List (String × β))
    (all : ∀ id ∈ entries.map Prod.fst, test id = true) :
    (entries.filter fun entry => test entry.1) = entries :=
  List.filter_eq_self.mpr fun entry member => all entry.1 (List.mem_map_of_mem member)

/-- Nothing is lost of a snapshot that mentions only devices that pass. -/
theorem ParsedSnapshot.snapshot_restrict {test : String → Bool} (loaded : ParsedSnapshot)
    (all : ∀ id ∈ mentioned loaded.snapshot, test id = true) :
    (loaded.restrict test loaded.snapshot.topology).snapshot = loaded.snapshot := by
  have primary : ¬ (loaded.snapshot.primaryDevice ≠ "" &&
      !test loaded.snapshot.primaryDevice) = true := by
    intro clears
    obtain ⟨named, fails⟩ := Bool.and_eq_true_iff.mp clears
    have passes := all loaded.snapshot.primaryDevice (by simp_all [mentioned])
    simp [passes] at fails
  unfold restrict
  dsimp only
  rw [if_neg primary, filter_keys loaded.snapshot.modes fun id member => all id (by simp_all [mentioned]),
    filter_keys loaded.snapshot.hdrStates fun id member => all id (by simp_all [mentioned]),
    filter_keys loaded.snapshot.origins fun id member => all id (by simp_all [mentioned])]

theorem ParsedSnapshot.restrict_of_mentions {test : String → Bool} (loaded : ParsedSnapshot)
    (all : ∀ id ∈ loaded.mentions, test id = true) :
    loaded.restrict test loaded.snapshot.topology = { loaded with
      hasLayoutData := loaded.hasLayoutData && loaded.layoutRotations ≠ [] } := by
  have snapshot := loaded.snapshot_restrict fun id member => all id (List.mem_append_left _ member)
  have rotations := filter_keys loaded.layoutRotations fun id member =>
    all id (List.mem_append_right _ member)
  have fields : loaded.restrict test loaded.snapshot.topology =
      { snapshot := (loaded.restrict test loaded.snapshot.topology).snapshot
        snapshotVersion := loaded.snapshotVersion
        hasLayoutData := loaded.hasLayoutData &&
          (loaded.layoutRotations.filter fun entry => test entry.1) ≠ []
        layoutRotations := loaded.layoutRotations.filter fun entry => test entry.1 } := rfl
  rw [fields, snapshot, rotations]

theorem ParsedSnapshot.restrict_restrict (test : String → Bool) (topology : ActiveTopology)
    (loaded : ParsedSnapshot) :
    (loaded.restrict test topology).restrict test topology = loaded.restrict test topology := by
  have all : ∀ id ∈ (loaded.restrict test topology).mentions, test id = true :=
    fun _ => mem_mentions_restrict
  have twice : ∀ first second : Bool, (first && second && second) = (first && second) := by
    decide
  exact (restrict_of_mentions _ all).trans (congrArg
    (fun hasLayoutData => { loaded.restrict test topology with hasLayoutData }) (twice _ _))

/-- A snapshot that comes back is the stored one without the excluded devices; all its devices
are present, none is an active virtual display, and it would come back unchanged.  Nothing
comes back when a device that is not excluded is missing. -/
theorem filterLoadedSnapshot_all_or_nothing (loaded : ParsedSnapshot)
    (devices : List EnumeratedDevice) (exclusions : List String) :
    (∀ result, filterLoadedSnapshot loaded devices exclusions = some result →
      result.snapshot.topology =
        keepDevices (fun id => !excludes exclusions id) loaded.snapshot.topology ∧
      (∀ id ∈ result.snapshot.topology.flatten, Restorable devices id ∧
        ¬ ActiveVirtual devices id) ∧
      (∀ id ∈ result.mentions, Restorable devices id ∧ excludes exclusions id = false) ∧
      filterLoadedSnapshot result devices exclusions = some result) ∧
    ((∃ id ∈ loaded.snapshot.topology.flatten, excludes exclusions id = false ∧
        ∀ device ∈ devices, ¬ device.Matches id) →
      filterLoadedSnapshot loaded devices exclusions = none) := by
  have filtered := filterLoadedSnapshot_eq loaded devices exclusions
  constructor
  · intro result returned
    have clear : ∀ id ∈ loaded.snapshot.topology.flatten, ¬ Blocks devices exclusions id := by
      intro id member blocks
      cases returned.symm.trans (filtered.1 ⟨id, member, blocks⟩)
    let topology := keepDevices (allowed devices exclusions) loaded.snapshot.topology
    have some_ : (if topology = [] then none
        else some (loaded.restrict (allowed devices exclusions) topology)) = some result :=
      (filtered.2 clear).symm.trans returned
    split at some_
    case isTrue => cases some_
    case isFalse nonempty =>
      cases some_
      have inside : ∀ id ∈ topology.flatten, id ∈ loaded.snapshot.topology.flatten ∧
          allowed devices exclusions id = true := fun id => mem_keepDevices
      refine ⟨?_, ?_, ?_, ?_⟩
      · refine keepDevices_congr fun id member => ?_
        have notMissing := (not_or.mp (clear id member)).2
        cases kept : excludes exclusions id with
        | true =>
            exact Bool.eq_false_iff.mpr fun passes =>
              nomatch kept.symm.trans (allowed_iff.mp passes).2
        | false =>
            have present := not_not.mp (not_and.mp notMissing kept)
            exact allowed_iff.mpr ⟨present, kept⟩
      · intro id member
        obtain ⟨stored, passes⟩ := inside id member
        exact ⟨(allowed_iff.mp passes).1, (not_or.mp (clear id stored)).1⟩
      · exact fun id member => allowed_iff.mp (mem_mentions_restrict member)
      · have again := (filterLoadedSnapshot_eq
          (loaded.restrict (allowed devices exclusions) topology) devices exclusions).2
          fun id member => clear id (inside id member).1
        have same : keepDevices (allowed devices exclusions) topology = topology :=
          keepDevices_of_all (nil_notMem_keepDevices _ _) fun id member => (inside id member).2
        have unchanged : filterLoadedSnapshot
            (loaded.restrict (allowed devices exclusions) topology) devices exclusions =
              if topology = [] then none
              else some ((loaded.restrict (allowed devices exclusions) topology).restrict
                (allowed devices exclusions) topology) := by
          rw [again, show (loaded.restrict (allowed devices exclusions) topology).snapshot.topology =
            topology from rfl, same]
        rw [unchanged, if_neg nonempty, ParsedSnapshot.restrict_restrict]
  · rintro ⟨id, member, kept, missing⟩
    refine filtered.1 ⟨id, member, .inr ⟨kept, ?_⟩⟩
    rintro ⟨device, present, matching, -⟩
    exact missing device present matching

theorem filterLoadedSnapshot_all_or_nothing_excluded :
    let loaded : ParsedSnapshot := { snapshot := { topology := [["A", "b"], ["C"]] } }
    let devices : List EnumeratedDevice := [{ deviceId := "a" }, { deviceId := "B" }]
    filterLoadedSnapshot { snapshot := { topology := [["A"]] } } devices [" b", "C"] =
        some { snapshot := { topology := [["A"]] } } ∧
      filterLoadedSnapshot loaded devices [] = none :=
  ⟨((filterLoadedSnapshot_all_or_nothing { snapshot := { topology := [["A", "b"], ["C"]] } }
      [{ deviceId := "a" }, { deviceId := "B" }] [" b", "C"]).1 _ (by decide +kernel)).2.2.2,
    (filterLoadedSnapshot_all_or_nothing { snapshot := { topology := [["A", "b"], ["C"]] } }
      [{ deviceId := "a" }, { deviceId := "B" }] []).2
      ⟨"C", by decide, by decide +kernel, by
        intro device member
        rcases List.mem_cons.mp member with rfl | last
        · exact fun matching => absurd matching.2 (by decide +kernel)
        · rw [List.mem_singleton.mp last]
          exact fun matching => absurd matching.2 (by decide +kernel)⟩⟩

/-- A virtual display that is not active is let through under an identifier that differs from
that of a monitor in case only. -/
theorem filterLoadedSnapshot_inactive_virtual :
    let devices : List EnumeratedDevice :=
      [{ deviceId := "A" }, { deviceId := "a", friendlyName := "Sunshine Virtual Display" }]
    let loaded : ParsedSnapshot := { snapshot := { topology := [["a"]] } }
    filterLoadedSnapshot loaded devices [] = some loaded ∧
      ∃ device ∈ devices, device.deviceId = "a" ∧ isVirtualDisplayDevice device = true := by
  decide +kernel

end UmbraHost.DisplayOperations
