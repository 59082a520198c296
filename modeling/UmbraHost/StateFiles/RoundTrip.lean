import UmbraHost.StateFiles.ClientNodes
import UmbraHost.StateFiles.OwnKeys
import UmbraHost.StateFiles.StoredNames

/-! # Clients after saving and loading

`save_state`, then any number of `save_user_creds` on the same file, then `load_state`. -/

namespace UmbraHost.StateFiles

open UmbraHost.Json UmbraHost.Tables UmbraHost.Transition

variable {Path : Type} [DecidableEq Path] {layout : Layout Path} {host : Host}
  {store : Store Path} {render : Value → Value}

/-! ## What the file holds -/

/-- The file has the rendered `root` of a save. -/
def Stored (render : Value → Value) (layout : Layout Path) (host : Host) (store : Store Path) :
    Prop :=
  ∃ members, store layout.sunshine = some (.json (.obj members)) ∧
    List.lookup "root" members = some (render (rootNode layout host))

theorem rewrite_of_written {path : Path} {change : Tree → Tree}
    (written : (rewrite path change store).written = true) :
    ∃ tree value, store.readTree path = some tree ∧ (change tree).write = some value ∧
      (rewrite path change store).files = store.write path value := by
  cases found : store.readTree path with
  | none => simp [rewrite, found] at written
  | some tree =>
    cases printed : (change tree).write with
    | none => simp [rewrite, found, printed] at written
    | some value => exact ⟨tree, value, rfl, printed, by simp [rewrite, found, printed]⟩

theorem stored_saveState (written : (saveState layout host store).written = true) :
    Stored id layout host (saveState layout host store).files := by
  cases read : readMembers store layout.sunshine with
  | none => simp [saveState, read] at written
  | some members =>
    have fresh : Stored id layout host (freshSunshine layout host members store) :=
      ⟨Fields.put "root" (rootNode layout host) members, by simp [freshSunshine, Store.write],
        Fields.lookup_put_self⟩
    rw [saveState_of_readMembers read] at written ⊢
    split at written
    next share => simpa only [share, if_true] using fresh
    next separate =>
      obtain ⟨tree, value, -, -, files⟩ := rewrite_of_written written
      obtain ⟨members, found, root⟩ := fresh
      have different : layout.sunshine ≠ layout.vibeshine := by
        simpa [Layout.share] using separate
      refine ⟨members, ?_, root⟩
      rw [if_neg separate, files, Store.write, Function.update_of_ne different, found]

theorem lookup_toFields {children : Fields Tree} {name : String} :
    List.lookup name (Tree.toFields children) = (List.lookup name children).map Tree.toJson := by
  induction children with
  | nil => rfl
  | cons child rest ih =>
    obtain ⟨other, tree⟩ := child
    by_cases same : name = other
    · subst same
      simp [Tree.toFields]
    · rw [Tree.toFields, Fields.lookup_cons_of_ne same, Fields.lookup_cons_of_ne same, ih]

theorem lookup_ofFields {fields : Fields Value} {name : String} :
    List.lookup name (Tree.ofFields fields) = (List.lookup name fields).map Tree.ofJson := by
  induction fields with
  | nil => rfl
  | cons field rest ih =>
    obtain ⟨other, value⟩ := field
    by_cases same : name = other
    · subst same
      simp [Tree.ofFields]
    · rw [Tree.ofFields, Fields.lookup_cons_of_ne same, Fields.lookup_cons_of_ne same, ih]

/-- Credentials are added beside a `root` that `property_tree` reads as before. -/
theorem stored_saveUserCreds {hexHash : String → String} {credentials : Credentials}
    (same : Tree.ofJson (render (rootNode layout host)) = Tree.ofJson (rootNode layout host))
    (stored : Stored render layout host store)
    (written : (saveUserCreds hexHash layout.sunshine credentials store).written = true) :
    Stored reprint layout host
      (saveUserCreds hexHash layout.sunshine credentials store).files := by
  obtain ⟨members, found, root⟩ := stored
  obtain ⟨tree, value, read, printed, files⟩ := rewrite_of_written written
  have tree_eq : tree = Tree.ofJson (.obj members) := by
    rw [Store.readTree, found] at read
    exact (Option.some_inj.mp read).symm
  have child : tree.child? "root" = some (Tree.ofJson (rootNode layout host)) := by
    rw [tree_eq, Tree.ofJson, Tree.child?, Tree.children_node, lookup_ofFields, root,
      Option.map_some, same]
  rw [Tree.write] at printed
  split at printed
  next =>
    cases printed
    refine ⟨_, by rw [saveUserCreds, files, Store.write, Function.update_self], ?_⟩
    have kept := child
    rw [← Tree.child?_put_of_ne (show "root" ≠ "username" by decide),
      ← Tree.child?_put_of_ne (show "root" ≠ "salt" by decide),
      ← Tree.child?_put_of_ne (show "root" ≠ "password" by decide), Tree.child?] at kept
    rw [lookup_toFields, kept]
    rfl
  next => cases printed

def credsStep (hexHash : String → String) (file : Path) (credentials : Credentials)
    (store : Store Path) : Store Path :=
  (saveUserCreds hexHash file credentials store).files

/-- Every call of the list writes the file. -/
abbrev CredsWritten (hexHash : String → String) (file : Path) (creds : List Credentials)
    (store : Store Path) : Prop :=
  Meets (credsStep hexHash file)
    (fun credentials store => (saveUserCreds hexHash file credentials store).written = true)
    creds store

theorem ofJson_reprint (value : Value) : Tree.ofJson (reprint value) = Tree.ofJson value :=
  Tree.ofJson_toJson _ (Tree.writable_ofJson value)

theorem stored_run {hexHash : String → String} {creds : List Credentials}
    (same : Tree.ofJson (render (rootNode layout host)) = Tree.ofJson (rootNode layout host))
    (stored : Stored render layout host store)
    (written : CredsWritten hexHash layout.sunshine creds store) :
    Stored (if creds = [] then render else reprint) layout host
      (run (credsStep hexHash layout.sunshine) creds store) := by
  induction creds generalizing render store with
  | nil => exact stored
  | cons credentials rest ih =>
    have next := ih (ofJson_reprint _) (stored_saveUserCreds same stored written.1) written.2
    rw [if_neg (List.cons_ne_nil _ _)]
    rwa [ite_self] at next

/-! ## Loading -/

section Loading

variable (rendering : Rendering render) {generated : UniqueId} {generate : Nat → String}
  {memory : Host}

theorem named_rootNode (layout : Layout Path) (host : Host) :
    ∃ field ∈ [("uniqueid", Value.str host.uniqueId.text)] ++
      (if layout.share then [("last_notified_version", .str host.lastNotifiedVersion)] else []) ++
      [("named_devices", .arr (namedCertNodes [] [] host.clients))], field.1 ≠ "" :=
  ⟨("uniqueid", .str host.uniqueId.text), by simp, by simp⟩

include rendering

theorem find?_rootNode_uniqueid :
    (render (rootNode layout host)).find? "uniqueid" = some (.str host.uniqueId.text) := by
  rw [rootNode, find?_render rendering (named_rootNode layout host)]
  simp [rendering.str]

theorem find?_rootNode_devices :
    (render (rootNode layout host)).find? "devices" = none := by
  rw [rootNode, find?_render rendering (named_rootNode layout host)]
  cases share : layout.share <;> simp [List.lookup_cons]

theorem find?_rootNode_namedDevices :
    (render (rootNode layout host)).find? "named_devices" =
      some (render (.arr (namedCertNodes [] [] host.clients))) := by
  rw [rootNode, find?_render rendering (named_rootNode layout host)]
  cases share : layout.share <;> simp [List.lookup_cons]

theorem valueOr_rootNode (share : layout.share = true) :
    (render (rootNode layout host)).valueOr "last_notified_version" "" =
      .ok host.lastNotifiedVersion := by
  rw [rootNode]
  refine valueOr_render rendering (named_rootNode layout host) ?_
  simp [share, List.lookup_cons]

theorem loadDevices_rootNode : loadDevices generate (render (rootNode layout host)) = .ok [] := by
  rw [loadDevices, find?_rootNode_devices rendering]
  rfl

/-- Loading is reading `named_devices`; the other fields are set without failing. -/
theorem loadState_of_stored (stored : Stored render layout host store) :
    ∃ loaded : Host, loadState layout generated generate memory store =
      (loadNamedDevices (render (rootNode layout host))).map
        fun clients => { loaded with clients := clients } := by
  obtain ⟨members, found, root⟩ := stored
  have root : (Value.obj members).find? "root" = some (render (rootNode layout host)) := root
  have length := host.uniqueId.length_eq
  cases share : layout.share with
  | true =>
    refine ⟨{ memory with
      uniqueId := host.uniqueId
      lastNotifiedVersion := host.lastNotifiedVersion
      sharedVirtualDisplayGuid :=
        if ((render (rootNode layout host)).find? "shared_virtual_display_guid").isNone then ""
        else memory.sharedVirtualDisplayGuid }, ?_⟩
    simp only [loadState, found, root, Option.getD_some, share, if_true,
      valueOr_rootNode rendering share, find?_rootNode_uniqueid rendering, Value.getText, ok_bind,
      pure_bind, length, dite_true, loadDevices_rootNode rendering, List.nil_append]
    cases loadNamedDevices (render (rootNode layout host)) <;> rfl
  | false =>
    refine ⟨{ memory with
      uniqueId := host.uniqueId
      lastNotifiedVersion := (loadVibeshine layout store).1
      sharedVirtualDisplayGuid := (loadVibeshine layout store).2 }, ?_⟩
    simp only [loadState, found, root, Option.getD_some, share, Bool.false_eq_true, if_false,
      find?_rootNode_uniqueid rendering, Value.getText, ok_bind, pure_bind, length, dite_true,
      loadDevices_rootNode rendering, List.nil_append]
    cases loadNamedDevices (render (rootNode layout host)) <;> rfl

theorem mapM_loadNamedCert {clients : List NamedCert} (names : List String)
    (keys : ∀ namedCert ∈ clients, namedCert.configOverrides.entries ≠ [] →
      ∃ entry ∈ namedCert.configOverrides.entries, entry.1 ≠ "") :
    ((List.zipWith namedCertNode clients names).map render).mapM loadNamedCert =
      .ok (List.zipWith reloaded clients names) := by
  induction clients generalizing names with
  | nil => rfl
  | cons first rest ih =>
    cases names with
    | nil => rfl
    | cons name names =>
      have read := loadNamedCert_render first name rendering (keys first List.mem_cons_self)
      have later := ih names fun namedCert member =>
        keys namedCert (List.mem_cons_of_mem _ member)
      rw [List.zipWith_cons_cons, List.map_cons, List.mapM_cons, read, later]
      rfl

theorem loadNamedDevices_rootNode (distinct : (host.clients.map NamedCert.cert).Nodup)
    (nonempty : host.clients ≠ [])
    (keys : ∀ namedCert ∈ host.clients, namedCert.configOverrides.entries ≠ [] →
      ∃ entry ∈ namedCert.configOverrides.entries, entry.1 ≠ "") :
    loadNamedDevices (render (rootNode layout host)) =
      .ok (List.zipWith reloaded host.clients
        (storedNames [] (host.clients.map NamedCert.name))) := by
  have nodes : namedCertNodes [] [] host.clients = List.zipWith namedCertNode host.clients
      (storedNames [] (host.clients.map NamedCert.name)) :=
    namedCertNodes_eq distinct (fun _ _ => List.not_mem_nil) fun _ => rfl
  have some_node : namedCertNodes [] [] host.clients ≠ [] := by
    obtain ⟨first, rest, shape⟩ := List.exists_cons_of_ne_nil nonempty
    simp [shape, namedCertNodes]
  rw [loadNamedDevices, find?_rootNode_namedDevices rendering, rendering.arr _ some_node, nodes]
  exact mapM_loadNamedCert rendering _ keys

end Loading

/-- Before `property_tree` has printed the file an empty list is still an array. -/
theorem loadNamedDevices_rootNode_nil (empty : host.clients = []) :
    loadNamedDevices (rootNode layout host) = .ok [] := by
  have found : (rootNode layout host).find? "named_devices" =
      some (.arr (namedCertNodes [] [] host.clients)) := find?_rootNode_namedDevices rendering_id
  rw [loadNamedDevices, found, empty]
  rfl

/-- Printed by `property_tree` it is a text, which stands for one node. -/
theorem loadNamedDevices_reprint_nil (empty : host.clients = []) :
    loadNamedDevices (reprint (rootNode layout host)) = .error .typeError := by
  have found : (reprint (rootNode layout host)).find? "named_devices" =
      some (reprint (.arr (namedCertNodes [] [] host.clients))) :=
    find?_rootNode_namedDevices rendering_reprint
  rw [loadNamedDevices, found, empty]
  rfl

/-! ## The round trip -/

/-- The same client; its overrides are the same map. -/
def SameClient (expected actual : NamedCert) : Prop :=
  actual = { expected with configOverrides := actual.configOverrides } ∧
    ∀ key, actual.configOverrides.lookup key = expected.configOverrides.lookup key

/-- The clients under the names they are stored with. -/
def renamed (clients : List NamedCert) : List NamedCert :=
  List.zipWith (fun namedCert name => { namedCert with name := name }) clients
    (storedNames [] (clients.map NamedCert.name))

theorem sameClient_reloaded_iff {namedCert : NamedCert} {name : String}
    (normalized : Normalized namedCert.configOverrides) :
    SameClient { namedCert with name := name } (reloaded namedCert name) ↔
      namedCert.perm &&& Perm.all = namedCert.perm := by
  constructor
  · intro same
    exact congrArg NamedCert.perm same.1
  · intro masked
    refine ⟨?_, lookup_reloadOverrides normalized⟩
    simp only [reloaded, masked]

theorem forall₂_reloaded_iff {clients : List NamedCert} {names : List String}
    (lengths : names.length = clients.length)
    (normalized : ∀ namedCert ∈ clients, Normalized namedCert.configOverrides) :
    List.Forall₂ SameClient
        (List.zipWith (fun namedCert name => { namedCert with name := name }) clients names)
        (List.zipWith reloaded clients names) ↔
      ∀ namedCert ∈ clients, namedCert.perm &&& Perm.all = namedCert.perm := by
  induction clients generalizing names with
  | nil => simp
  | cons first rest ih =>
    cases names with
    | nil => cases lengths
    | cons name names =>
      rw [List.zipWith_cons_cons, List.zipWith_cons_cons, List.forall₂_cons,
        sameClient_reloaded_iff (normalized first List.mem_cons_self),
        ih (Nat.succ.inj lengths) fun namedCert member =>
          normalized namedCert (List.mem_cons_of_mem _ member), List.forall_mem_cons]

theorem map_name_zipWith {clients : List NamedCert} {names : List String}
    (lengths : names.length = clients.length) :
    (List.zipWith reloaded clients names).map NamedCert.name = names := by
  induction clients generalizing names with
  | nil => simpa [eq_comm] using lengths
  | cons first rest ih =>
    cases names with
    | nil => rfl
    | cons name names =>
      rw [List.zipWith_cons_cons, List.map_cons, ih (Nat.succ.inj lengths)]
      rfl

theorem map_cert_zipWith {clients : List NamedCert} {names : List String}
    (lengths : names.length = clients.length) :
    (List.zipWith reloaded clients names).map NamedCert.cert = clients.map NamedCert.cert := by
  induction clients generalizing names with
  | nil => rfl
  | cons first rest ih =>
    cases names with
    | nil => cases lengths
    | cons name names =>
      rw [List.zipWith_cons_cons, List.map_cons, ih (Nat.succ.inj lengths)]
      rfl

theorem normalized_zipWith {clients : List NamedCert} {names : List String}
    (normalized : ∀ namedCert ∈ clients, Normalized namedCert.configOverrides) :
    ∀ namedCert ∈ List.zipWith reloaded clients names, Normalized namedCert.configOverrides := by
  intro namedCert member
  obtain ⟨index, bound, rfl⟩ := List.getElem_of_mem member
  rw [List.getElem_zipWith]
  have inside := normalized _ (List.getElem_mem (List.lt_length_left_of_zipWith bound))
  exact inside.of_lookup (lookup_reloadOverrides inside)

section Runs

variable {hexHash : String → String} (generated : UniqueId) (generate : Nat → String)
  (memory : Host) {creds : List Credentials}
  (distinct : (host.clients.map NamedCert.cert).Nodup)
  (normalized : ∀ namedCert ∈ host.clients, Normalized namedCert.configOverrides)
  (saved : (saveState layout host store).written = true)
  (rewritten : CredsWritten hexHash layout.sunshine creds (saveState layout host store).files)

include distinct normalized saved rewritten in
theorem loadState_run (readable : host.clients ≠ [] ∨ creds = []) :
    ∃ loaded, loadState layout generated generate memory
        (run (credsStep hexHash layout.sunshine) creds (saveState layout host store).files) =
        .ok loaded ∧
      loaded.clients = List.zipWith reloaded host.clients
        (storedNames [] (host.clients.map NamedCert.name)) := by
  have stored := stored_run rfl (stored_saveState saved) rewritten
  by_cases empty : host.clients = []
  · have none_left := readable.resolve_left (not_not_intro empty)
    rw [if_pos none_left] at stored
    obtain ⟨loaded, result⟩ := loadState_of_stored rendering_id stored
    refine ⟨{ loaded with clients := [] }, result.trans ?_, by simp [empty]⟩
    rw [id, loadNamedDevices_rootNode_nil empty]
    rfl
  · have rendering : Rendering (if creds = [] then id else reprint) := by
      split
      · exact rendering_id
      · exact rendering_reprint
    obtain ⟨loaded, result⟩ := loadState_of_stored rendering stored
    have read : loadNamedDevices ((if creds = [] then id else reprint) (rootNode layout host)) =
        .ok (List.zipWith reloaded host.clients
          (storedNames [] (host.clients.map NamedCert.name))) :=
      loadNamedDevices_rootNode rendering distinct empty fun namedCert member =>
        (normalized namedCert member).exists_key
    rw [read] at result
    exact ⟨_, result, rfl⟩

include saved rewritten in
theorem loadState_run_nil (empty : host.clients = []) (some_creds : creds ≠ []) :
    loadState layout generated generate memory
        (run (credsStep hexHash layout.sunshine) creds (saveState layout host store).files) =
      .error .typeError := by
  have stored := stored_run rfl (stored_saveState saved) rewritten
  rw [if_neg some_creds] at stored
  obtain ⟨loaded, result⟩ := loadState_of_stored rendering_reprint stored
  rw [result, loadNamedDevices_reprint_nil empty]
  rfl

end Runs

/-- The clients come back, and their names are settled from then on, exactly when there is
a client or no credentials were saved since, and no client has an unknown permission. -/
theorem clients_survive_iff (layout : Layout Path) (hexHash : String → String)
    (generated : UniqueId) (generate : Nat → String) (host memory : Host) (store : Store Path)
    (creds : List Credentials)
    (distinct : (host.clients.map NamedCert.cert).Nodup)
    (normalized : ∀ namedCert ∈ host.clients, Normalized namedCert.configOverrides)
    (saved : (saveState layout host store).written = true)
    (rewritten : CredsWritten hexHash layout.sunshine creds
      (saveState layout host store).files) :
    (∃ loaded, loadState layout generated generate memory
          (run (credsStep hexHash layout.sunshine) creds (saveState layout host store).files) =
          .ok loaded ∧
        List.Forall₂ SameClient (renamed host.clients) loaded.clients ∧
        (loaded.clients.map NamedCert.name).Nodup ∧
        ∀ store', (saveState layout loaded store').written = true →
          ∃ again, loadState layout generated generate memory
              (saveState layout loaded store').files = .ok again ∧
            again.clients.map NamedCert.name = loaded.clients.map NamedCert.name) ↔
      (host.clients ≠ [] ∨ creds = []) ∧
        ∀ namedCert ∈ host.clients, namedCert.perm &&& Perm.all = namedCert.perm := by
  let names := storedNames [] (host.clients.map NamedCert.name)
  have lengths : names.length = host.clients.length := by
    simp only [names, length_storedNames, List.length_map]
  constructor
  · rintro ⟨loaded, result, same, -, -⟩
    by_cases readable : host.clients ≠ [] ∨ creds = []
    · refine ⟨readable, (forall₂_reloaded_iff lengths normalized).mp ?_⟩
      obtain ⟨loaded', result', clients⟩ :=
        loadState_run generated generate memory distinct normalized saved rewritten readable
      cases result.symm.trans result'
      rwa [clients] at same
    · obtain ⟨empty, some_creds⟩ := not_or.mp readable
      have failed := loadState_run_nil generated generate memory saved rewritten
        (not_not.mp empty) some_creds
      cases result.symm.trans failed
  · rintro ⟨readable, masked⟩
    obtain ⟨loaded, result, clients⟩ :=
      loadState_run generated generate memory distinct normalized saved rewritten readable
    have loaded_names : loaded.clients.map NamedCert.name = names := by
      rw [clients, map_name_zipWith lengths]
    refine ⟨loaded, result, ?_, ?_, ?_⟩
    · rw [clients]
      exact (forall₂_reloaded_iff lengths normalized).mpr masked
    · rw [loaded_names]
      exact nodup_storedNames _ _
    · intro store' saved'
      have distinct' : (loaded.clients.map NamedCert.cert).Nodup := by
        rwa [clients, map_cert_zipWith lengths]
      have normalized' : ∀ namedCert ∈ loaded.clients, Normalized namedCert.configOverrides := by
        rw [clients]
        exact normalized_zipWith normalized
      have unchanged : CredsWritten hexHash layout.sunshine []
          (saveState layout loaded store').files := trivial
      obtain ⟨again, result', clients'⟩ :=
        loadState_run generated generate memory distinct' normalized' saved' unchanged (.inr rfl)
      refine ⟨again, result', ?_⟩
      rw [clients', map_name_zipWith (by rw [length_storedNames, List.length_map]), loaded_names]
      exact storedNames_storedNames _ _

/-- A paired phone and a saved password. -/
theorem clients_survive_phone :
    let layout : Layout Nat := { sunshine := 0, vibeshine := 1 }
    let uniqueId : UniqueId :=
      ⟨"01234567-89AB-CDEF-0123-456789ABCDEF", utf8ByteSize_sampleUuid⟩
    let phone : NamedCert := { legacyNamedCert "PEM" "uuid" with name := "phone (old)" }
    let host : Host :=
      { uniqueId := uniqueId, clients := [phone], lastNotifiedVersion := "",
        sharedVirtualDisplayGuid := "" }
    let credentials : Credentials := { username := "user", password := "secret", salt := "abc" }
    ∃ loaded, loadState layout uniqueId (fun _ => "") host
        (saveUserCreds id 0 credentials (saveState layout host fun _ => none).files).files =
        .ok loaded ∧
      List.Forall₂ SameClient (renamed [phone]) loaded.clients := by
  intro layout uniqueId phone host credentials
  have normalized : ∀ namedCert ∈ host.clients, Normalized namedCert.configOverrides := by
    intro namedCert member
    rw [List.mem_singleton.mp member]
    exact ⟨rfl, nofun⟩
  have masked : ∀ namedCert ∈ host.clients, namedCert.perm &&& Perm.all = namedCert.perm := by
    intro namedCert member
    rw [List.mem_singleton.mp member]
    decide
  obtain ⟨loaded, result, same, -, -⟩ := (clients_survive_iff layout id uniqueId (fun _ => "")
    host host (fun _ => none) [credentials] (by simp [host]) normalized (by decide +kernel)
    ⟨by decide +kernel, trivial⟩).mpr ⟨.inl (by simp [host]), masked⟩
  exact ⟨loaded, result, same⟩

/-- With no client, `load_state` throws once the credentials were saved. -/
theorem loadState_throws_without_clients :
    let layout : Layout Nat := { sunshine := 0, vibeshine := 0 }
    let uniqueId : UniqueId :=
      ⟨"01234567-89AB-CDEF-0123-456789ABCDEF", utf8ByteSize_sampleUuid⟩
    let host : Host :=
      { uniqueId := uniqueId, clients := [], lastNotifiedVersion := "",
        sharedVirtualDisplayGuid := "" }
    let credentials : Credentials := { username := "user", password := "secret", salt := "abc" }
    let saved := saveState layout host fun _ => none
    let rewritten := saveUserCreds id 0 credentials saved.files
    saved.written = true ∧ rewritten.written = true ∧
      loadState layout uniqueId (fun _ => "") host rewritten.files = .error .typeError := by
  refine ⟨by decide +kernel, by decide +kernel, ?_⟩
  rfl

end UmbraHost.StateFiles
