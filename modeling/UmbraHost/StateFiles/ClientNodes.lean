import UmbraHost.StateFiles.Rendering

/-! # Reading a rendered client node

What `load_state` gets from the node of a client, field by field and for the whole
record. -/

namespace UmbraHost.StateFiles

open UmbraHost.Json UmbraHost.Tables

/-! ## Conversions -/

theorem flagOfText_boolText (value : Bool) : flagOfText (boolText value) = some value := by
  cases value <;> decide +kernel

theorem ofInt_toNat (perm : Perm) : UInt32.ofInt (perm.toNat : Int) = perm := by
  have small : ((perm.toNat : Int) % 2 ^ 32).toNat = perm.toNat := by
    have bound := perm.toNat_lt
    omega
  rw [UInt32.ofInt, small, UInt32.ofNat_toNat]

section Fields

variable {render : Value → Value} (rendering : Rendering render) {fields : Fields Value}
  (named : ∃ field ∈ fields, field.1 ≠ "") {key : String}

include rendering named

theorem getBool_render {value default : Bool}
    (found : List.lookup key fields = some (.bool value)) :
    getBool (render (.obj fields)) key default = .ok value := by
  rw [getBool, getNonString, find?_render rendering named, found, Option.map_some]
  rcases rendering.bool value with printed | printed
  · rw [printed]
  · rw [printed]
    simp only [flagOfText_boolText, Option.getD_some]

theorem getUInt32_render {perm default : Perm}
    (found : List.lookup key fields = some (.num perm.toNat)) :
    getUInt32 (render (.obj fields)) key default = .ok perm := by
  rw [getUInt32, getNonString, find?_render rendering named, found, Option.map_some]
  rcases rendering.num perm.toNat with printed | printed
  · rw [printed]
    simp only [ofInt_toNat]
  · rw [printed]
    have bound : perm.toNat < 2 ^ 64 := by
      have := perm.toNat_lt
      omega
    simp only [stoull_decimal bound, Option.map_some, Option.getD_some, UInt64.ofNat_uInt32ToNat,
      UInt32.toUInt32_toUInt64]

theorem getInt64_render {seen default : Int64}
    (found : List.lookup key fields = some (.num seen.toInt)) :
    getInt64 (render (.obj fields)) key default = .ok seen := by
  rw [getInt64, getNonString, find?_render rendering named, found, Option.map_some]
  rcases rendering.num seen.toInt with printed | printed
  · rw [printed]
    simp only [Int64.ofInt_toInt]
  · rw [printed]
    simp only [stoll_decimal, Option.getD_some]

theorem loadLastSeen_render {lastSeen : Option Int64}
    (found : List.lookup "last_seen" fields = lastSeen.map fun seen => .num seen.toInt) :
    loadLastSeen (render (.obj fields)) = .ok lastSeen := by
  cases lastSeen with
  | none => rw [loadLastSeen, find?_render rendering named, found, Option.map_none, Option.map_none]
  | some seen =>
    have read : getInt64 (render (.obj fields)) "last_seen" 0 = .ok seen :=
      getInt64_render rendering named found
    rw [loadLastSeen, read, find?_render rendering named, found, Option.map_some, Option.map_some]
    rcases rendering.num seen.toInt with printed | printed <;> rw [printed] <;> rfl

theorem loadPrefer10bitSdr_render {flag : Bool}
    (found : List.lookup "prefer_10bit_sdr" fields = if flag then some (.bool true) else none) :
    loadPrefer10bitSdr (render (.obj fields)) = .ok flag := by
  cases flag with
  | false =>
    rw [if_neg (by decide)] at found
    rw [loadPrefer10bitSdr, find?_render rendering named, found, Option.map_none]
  | true =>
    rw [if_pos rfl] at found
    have read : getBool (render (.obj fields)) "prefer_10bit_sdr" false = .ok true :=
      getBool_render rendering named found
    rw [loadPrefer10bitSdr, read, find?_render rendering named, found, Option.map_some]
    rcases rendering.bool true with printed | printed <;> rw [printed]

omit named in
theorem commandEntry_render (entry : CommandEntry) :
    commandEntry (render entry.serialize) = some entry := by
  have named : ∃ field ∈ [("cmd", Value.str entry.cmd), ("elevated", .bool entry.elevated)],
      field.1 ≠ "" := ⟨("cmd", .str entry.cmd), List.mem_cons_self, by simp⟩
  have elevated : getBool (render entry.serialize) "elevated" false = .ok entry.elevated :=
    getBool_render rendering named (by simp [List.lookup_cons])
  have cmd : (render entry.serialize).find? "cmd" = some (.str entry.cmd) := by
    rw [CommandEntry.serialize, find?_render rendering named]
    simp [rendering.str]
  rw [commandEntry, cmd, elevated]

theorem extractCommandEntries_render {commands : List CommandEntry}
    (found : List.lookup key fields =
      if commands = [] then none else some (.arr (commands.map CommandEntry.serialize))) :
    extractCommandEntries (render (.obj fields)) key = commands := by
  rw [extractCommandEntries, find?_render rendering named, found]
  by_cases empty : commands = []
  · simp [empty]
  · rw [if_neg empty, Option.map_some, rendering.arr _ (by simpa using empty)]
    simp only [Value.elements, List.map_map, List.filterMap_map]
    have each : commandEntry ∘ render ∘ CommandEntry.serialize = some :=
      funext fun entry => commandEntry_render rendering entry
    rw [each, List.filterMap_some]

end Fields

/-! ## Overrides -/

/-- The overrides after writing and reading. -/
def reloadOverrides (overrides : Table String String) : Table String String :=
  mergeConfigOverrides ∅ (insertUnless (fun name => name = "") ∅ overrides.entries)

theorem readOverrides_entries (entries : List (Sigma fun _ : String => String))
    (read : Table String String) :
    readOverrides read (entries.map fun entry => (entry.1, .str entry.2)) =
      .ok (insertUnless (fun name => name = "") read entries) := by
  induction entries generalizing read with
  | nil => rfl
  | cons entry rest ih =>
    rw [List.map_cons, readOverrides]
    by_cases empty : entry.1 = ""
    · simp only [insertUnless, empty, decide_true, if_true, List.foldl_cons]
      exact ih read
    · simp only [insertUnless, empty, decide_false, Bool.false_eq_true, if_false,
        List.foldl_cons, Value.getText]
      exact ih _

theorem loadOverrides_render {render : Value → Value} (rendering : Rendering render)
    {fields : Fields Value} (named : ∃ field ∈ fields, field.1 ≠ "")
    {overrides : Table String String}
    (keys : overrides.entries ≠ [] → ∃ entry ∈ overrides.entries, entry.1 ≠ "")
    (found : List.lookup "config_overrides" fields =
      if overrides.entries = [] then none else some (overridesNode overrides)) :
    loadOverrides (render (.obj fields)) = .ok (reloadOverrides overrides) := by
  rw [loadOverrides, find?_render rendering named, found]
  by_cases empty : overrides.entries = []
  · simp only [empty, if_true, Option.map_none, reloadOverrides, insertUnless, List.foldl_nil]
    rfl
  · obtain ⟨entry, member, nonempty⟩ := keys empty
    have inner : ∃ field ∈ overrides.entries.map fun entry => (entry.1, Value.str entry.2),
        field.1 ≠ "" := ⟨_, List.mem_map_of_mem member, nonempty⟩
    rw [if_neg empty, Option.map_some, overridesNode, rendering.obj _ inner, List.map_map]
    simp only [Function.comp_def, rendering.str, readOverrides_entries]
    rfl

theorem lookup_insertUnless (skip : String → Bool)
    {entries : List (Sigma fun _ : String => String)} (distinct : entries.NodupKeys)
    (base : Table String String) (key : String) :
    (insertUnless skip base entries).lookup key =
      if skip key then base.lookup key else (entries.dlookup key).or (base.lookup key) := by
  induction entries generalizing base with
  | nil => simp [insertUnless]
  | cons entry rest ih =>
    obtain ⟨name, value⟩ := entry
    obtain ⟨fresh, distinct⟩ := List.nodupKeys_cons.mp distinct
    have unfolded : insertUnless skip base (⟨name, value⟩ :: rest) =
        insertUnless skip (if skip name then base else base.insert name value) rest := rfl
    rw [unfolded, ih distinct]
    by_cases same : key = name
    · subst same
      have missing : rest.dlookup key = none := List.dlookup_eq_none.mpr fresh
      cases skipped : skip key with
      | true => simp only [if_true]
      | false =>
        simp only [Bool.false_eq_true, if_false, missing, Option.none_or, AList.lookup_insert,
          List.dlookup_cons_eq, Option.some_or]
    · have kept : (if skip name then base else base.insert name value).lookup key =
          base.lookup key := by
        split
        · rfl
        · exact AList.lookup_insert_ne same
      have later : List.dlookup key ((⟨name, value⟩ : Sigma fun _ : String => String) :: rest) =
          rest.dlookup key := List.dlookup_cons_ne _ _ same
      rw [kept, later]

/-- What `merge_config_overrides` leaves in an empty map: an adapter identity stands beside
a name, and neither is empty. -/
structure Normalized (overrides : Table String String) : Prop where
  keys : overrides.lookup "" = none
  identity : ∀ adapterPnpId, overrides.lookup "adapter_pnp_id" = some adapterPnpId →
    adapterPnpId ≠ "" ∧
      ∃ adapterName, overrides.lookup "adapter_name" = some adapterName ∧ adapterName ≠ ""

theorem lookup_mergeConfigOverrides {read overrides : Table String String}
    (same : ∀ key, read.lookup key = overrides.lookup key) (normalized : Normalized overrides)
    (key : String) :
    (mergeConfigOverrides ∅ read).lookup key = overrides.lookup key := by
  have folded (key : String) := lookup_insertUnless
    (fun name => decide (name = "adapter_pnp_id")) read.nodupKeys ∅ key
  simp only [decide_eq_true_eq, AList.lookup_empty, Option.or_none] at folded
  have merged (key : String) (different : key ≠ "adapter_pnp_id") :=
    (folded key).trans ((if_neg different).trans (same key))
  have dropped := (folded "adapter_pnp_id").trans (if_pos rfl)
  simp only [mergeConfigOverrides, same]
  by_cases pnp : key = "adapter_pnp_id"
  · subst pnp
    cases found : overrides.lookup "adapter_pnp_id" with
    | none =>
      split
      · exact dropped
      · split <;> exact AList.lookup_erase _ _
    | some adapterPnpId =>
      obtain ⟨nonempty, adapterName, name, name_nonempty⟩ := normalized.identity _ found
      simp only [name, name_nonempty, nonempty, if_false]
      exact AList.lookup_insert _
  · split
    · exact merged key pnp
    · split
      · rw [AList.lookup_erase_ne pnp, merged key pnp]
      · split
        · rw [AList.lookup_erase_ne pnp, merged key pnp]
        · split
          · rw [AList.lookup_erase_ne pnp, merged key pnp]
          · rw [AList.lookup_insert_ne pnp, merged key pnp]

theorem lookup_reloadOverrides {overrides : Table String String}
    (normalized : Normalized overrides) (key : String) :
    (reloadOverrides overrides).lookup key = overrides.lookup key := by
  refine lookup_mergeConfigOverrides (fun key => ?_) normalized key
  have folded := lookup_insertUnless (fun name => decide (name = "")) overrides.nodupKeys ∅ key
  simp only [decide_eq_true_eq, AList.lookup_empty, Option.or_none] at folded
  rw [folded]
  split
  next empty => rw [empty, normalized.keys]
  next => rfl

theorem Normalized.of_lookup {overrides other : Table String String}
    (normalized : Normalized overrides) (same : ∀ key, other.lookup key = overrides.lookup key) :
    Normalized other where
  keys := (same "").trans normalized.keys
  identity adapterPnpId found := by
    rw [same] at found ⊢
    exact normalized.identity adapterPnpId found

theorem Normalized.exists_key {overrides : Table String String} (normalized : Normalized overrides)
    (nonempty : overrides.entries ≠ []) : ∃ entry ∈ overrides.entries, entry.1 ≠ "" := by
  obtain ⟨entry, rest, shape⟩ := List.exists_cons_of_ne_nil nonempty
  refine ⟨entry, shape ▸ List.mem_cons_self, fun empty => ?_⟩
  have missing : "" ∉ overrides := AList.lookup_eq_none.mp normalized.keys
  apply missing
  rw [AList.mem_keys, AList.keys, List.keys, shape]
  simp [empty]

/-! ## The whole node -/

section Members

variable (namedCert : NamedCert) (finalName : String) {key : String}

theorem named_namedCertMembers :
    ∃ field ∈ namedCertMembers namedCert finalName, field.1 ≠ "" :=
  ⟨("name", .str finalName), by simp [namedCertMembers], by simp⟩

@[simp] theorem lookup_textUnlessEmpty (name text : String) :
    List.lookup key (textUnlessEmpty name text) =
      if key = name ∧ text ≠ "" then some (.str text) else none := by
  by_cases empty : text = ""
  · simp [textUnlessEmpty, empty]
  · by_cases same : key = name
    · subst same
      simp [textUnlessEmpty, empty]
    · simp [textUnlessEmpty, empty, same, Fields.lookup_cons_of_ne same]

@[simp] theorem lookup_commandsUnlessEmpty (name : String) (commands : List CommandEntry) :
    List.lookup key (commandsUnlessEmpty name commands) =
      if key = name ∧ commands ≠ [] then some (.arr (commands.map CommandEntry.serialize))
      else none := by
  by_cases empty : commands = []
  · simp [commandsUnlessEmpty, empty]
  · by_cases same : key = name
    · subst same
      simp [commandsUnlessEmpty, empty]
    · simp [commandsUnlessEmpty, empty, same, Fields.lookup_cons_of_ne same]

@[simp] theorem lookup_overridesUnlessEmpty (overrides : Table String String) :
    List.lookup key (overridesUnlessEmpty overrides) =
      if key = "config_overrides" ∧ overrides.entries ≠ [] then some (overridesNode overrides)
      else none := by
  by_cases empty : overrides.entries = []
  · simp [overridesUnlessEmpty, empty]
  · by_cases same : key = "config_overrides"
    · subst same
      simp [overridesUnlessEmpty, empty]
    · simp [overridesUnlessEmpty, empty, same, Fields.lookup_cons_of_ne same]

@[simp] theorem lookup_lastSeenUnlessNone (lastSeen : Option Int64) :
    List.lookup key (lastSeenUnlessNone lastSeen) =
      if key = "last_seen" then lastSeen.map fun seen => .num seen.toInt else none := by
  cases lastSeen with
  | none => simp [lastSeenUnlessNone]
  | some seen =>
    by_cases same : key = "last_seen"
    · subst same
      simp [lastSeenUnlessNone]
    · simp [lastSeenUnlessNone, same, Fields.lookup_cons_of_ne same]

@[simp] theorem lookup_prefer10bitSdr (flag : Bool) :
    List.lookup key (if flag then [("prefer_10bit_sdr", Value.bool true)] else []) =
      if key = "prefer_10bit_sdr" ∧ flag then some (.bool true) else none := by
  cases flag with
  | false => simp
  | true =>
    by_cases same : key = "prefer_10bit_sdr"
    · subst same
      simp
    · simp [same, Fields.lookup_cons_of_ne same]

/-- What reading a node makes of a client that was written under a name. -/
def reloaded : NamedCert :=
  { namedCert with
    name := finalName
    perm := namedCert.perm &&& Perm.all
    configOverrides := reloadOverrides namedCert.configOverrides }

theorem loadNamedCert_render {render : Value → Value} (rendering : Rendering render)
    (keys : namedCert.configOverrides.entries ≠ [] →
      ∃ entry ∈ namedCert.configOverrides.entries, entry.1 ≠ "") :
    loadNamedCert (render (namedCertNode namedCert finalName)) =
      .ok (reloaded namedCert finalName) := by
  let node := namedCertNode namedCert finalName
  have named := named_namedCertMembers namedCert finalName
  have name : (render node).valueOr "name" "" = .ok finalName :=
    valueOr_render rendering named (by simp [namedCertMembers])
  have cert : (render node).valueOr "cert" "" = .ok namedCert.cert :=
    valueOr_render rendering named
      (by simp [namedCertMembers, List.lookup_cons])
  have uuid : (render node).valueOr "uuid" "" = .ok namedCert.uuid :=
    valueOr_render rendering named
      (by simp [namedCertMembers, List.lookup_cons])
  have displayMode : (render node).valueOr "display_mode" "" = .ok namedCert.displayMode :=
    valueOr_render rendering named
      (by simp [namedCertMembers, List.lookup_cons])
  have hdrProfile : (render node).valueOr "hdr_profile" "" = .ok namedCert.hdrProfile :=
    valueOr_render_of_ne rendering named
      (by simp [namedCertMembers, List.lookup_append, List.lookup_cons])
  have outputNameOverride : (render node).valueOr "output_name_override" "" =
      .ok namedCert.outputNameOverride :=
    valueOr_render_of_ne rendering named
      (by simp [namedCertMembers, List.lookup_append, List.lookup_cons])
  have modeOverride : (render node).valueOr "virtual_display_mode" "" =
      .ok namedCert.virtualDisplayModeOverride :=
    valueOr_render_of_ne rendering named
      (by simp [namedCertMembers, List.lookup_append, List.lookup_cons])
  have layoutOverride : (render node).valueOr "virtual_display_layout" "" =
      .ok namedCert.virtualDisplayLayoutOverride :=
    valueOr_render_of_ne rendering named
      (by simp [namedCertMembers, List.lookup_append, List.lookup_cons])
  have enableLegacyOrdering : getBool (render node) "enable_legacy_ordering" true =
      .ok namedCert.enableLegacyOrdering :=
    getBool_render rendering named
      (by simp [namedCertMembers, List.lookup_append, List.lookup_cons])
  have allowClientCommands : getBool (render node) "allow_client_commands" true =
      .ok namedCert.allowClientCommands :=
    getBool_render rendering named
      (by simp [namedCertMembers, List.lookup_append, List.lookup_cons])
  have alwaysUseVirtualDisplay : getBool (render node) "always_use_virtual_display" false =
      .ok namedCert.alwaysUseVirtualDisplay :=
    getBool_render rendering named
      (by simp [namedCertMembers, List.lookup_append, List.lookup_cons])
  have perm : getUInt32 (render node) "perm" Perm.all = .ok namedCert.perm :=
    getUInt32_render rendering named
      (by simp [namedCertMembers, List.lookup_append, List.lookup_cons])
  have prefer10bitSdr : loadPrefer10bitSdr (render node) = .ok namedCert.prefer10bitSdr :=
    loadPrefer10bitSdr_render rendering named
      (by simp [namedCertMembers, List.lookup_append, List.lookup_cons])
  have lastSeen : loadLastSeen (render node) = .ok namedCert.lastSeen :=
    loadLastSeen_render rendering named
      (by simp [namedCertMembers, List.lookup_append, List.lookup_cons])
  have configOverrides : loadOverrides (render node) =
      .ok (reloadOverrides namedCert.configOverrides) :=
    loadOverrides_render rendering named keys
      (by simp [namedCertMembers, List.lookup_append, List.lookup_cons])
  have doCmds : extractCommandEntries (render node) "do" = namedCert.doCmds :=
    extractCommandEntries_render rendering named
      (by simp [namedCertMembers, List.lookup_append, List.lookup_cons])
  have undoCmds : extractCommandEntries (render node) "undo" = namedCert.undoCmds :=
    extractCommandEntries_render rendering named
      (by simp [namedCertMembers, List.lookup_append, List.lookup_cons])
  rw [loadNamedCert, name, cert, uuid, displayMode, hdrProfile, outputNameOverride,
    modeOverride, layoutOverride, perm, enableLegacyOrdering, allowClientCommands,
    alwaysUseVirtualDisplay, prefer10bitSdr, lastSeen, configOverrides, doCmds, undoCmds]
  rfl

end Members

end UmbraHost.StateFiles
