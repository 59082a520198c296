import UmbraHost.StateFiles.RoundTrip
import UmbraHost.Transition.Fallible

/-! # Saving and loading when files fail

`save_state` and `load_state` with any file that cannot be read or replaced.  A certificate that
was saved is among those that are loaded. -/

namespace UmbraHost.StateFiles

open UmbraHost.Json UmbraHost.Transition

variable {Path : Type} [DecidableEq Path]

/-- What fails while the files are saved and then loaded. -/
structure Failures (Path : Type) where
  unreadableSaving : Path → Bool := fun _ => false
  unwritable : Path → Bool := fun _ => false
  unreadableLoading : Path → Bool := fun _ => false

/-- `client_root` with one more client. -/
def Host.add (host : Host) (namedCert : NamedCert) : Host :=
  { host with clients := host.clients ++ [namedCert] }

/-- A file that cannot be read counts as one that does not parse. -/
def Store.hide (unreadable : Path → Bool) (store : Store Path) : Store Path := fun path =>
  if unreadable path then (store path).map fun _ => .malformed else store path

namespace Failures

variable (failures : Failures Path)

/-- The file is neither read nor replaced. -/
def loses (path : Path) (store : Store Path) : Bool :=
  (failures.unreadableSaving path && (store path).isSome) || failures.unwritable path

/-- `save_state`; a failed write leaves the file, and the second file is written last. -/
def saveState (layout : Layout Path) (host : Host) (store : Store Path) : Store Path :=
  if failures.loses layout.sunshine store then store
  else
    let saved := (StateFiles.saveState layout host store).files
    if failures.loses layout.vibeshine store then
      Function.update store layout.sunshine (saved layout.sunshine)
    else saved

/-- The first file was written. -/
def saves (layout : Layout Path) (store : Store Path) : Bool :=
  !failures.loses layout.sunshine store && (readMembers store layout.sunshine).isSome

def loadState (layout : Layout Path) (generated : UniqueId) (generate : Nat → String)
    (host : Host) (store : Store Path) : Result Host :=
  StateFiles.loadState layout generated generate host (store.hide failures.unreadableLoading)

end Failures

/-- `load_state` gets as far as the clients of the file. -/
def replacesClients (layout : Layout Path) (store : Store Path) : Bool :=
  match store layout.sunshine with
  | some (.json tree) => (((tree.find? "root").getD (.obj [])).find? "uniqueid").isSome
  | _ => false

/-! ## Certificates that are saved and loaded -/

theorem cert_loadNamedCert {namedCert loaded : NamedCert} {name : String}
    (read : loadNamedCert (namedCertNode namedCert name) = .ok loaded) :
    loaded.cert = namedCert.cert := by
  have text : (namedCertNode namedCert name).valueOr "name" "" = .ok name := rfl
  have cert : (namedCertNode namedCert name).valueOr "cert" "" = .ok namedCert.cert := by
    simp [namedCertNode, namedCertMembers, Value.valueOr, List.lookup_cons]
  rw [loadNamedCert, text, ok_bind, cert, ok_bind] at read
  -- whatever the thirteen other members are read as
  iterate 13 obtain ⟨_, -, read⟩ := ok_of_bind read
  cases read
  rfl

/-- Every certificate is written, under the first client that has it. -/
theorem cert_mem_namedCertNodes {clients : List NamedCert} {namedCert : NamedCert}
    (member : namedCert ∈ clients) (uniqueCerts : List String) (nameCounts : Fields Nat)
    (fresh : namedCert.cert ∉ uniqueCerts) :
    ∃ other name, other.cert = namedCert.cert ∧
      namedCertNode other name ∈ namedCertNodes uniqueCerts nameCounts clients := by
  induction clients generalizing uniqueCerts nameCounts with
  | nil => cases member
  | cons first rest ih =>
      unfold namedCertNodes
      split
      · next written =>
          rcases List.mem_cons.mp member with rfl | later
          · exact absurd written fresh
          · exact ih later uniqueCerts nameCounts fresh
      · by_cases same : first.cert = namedCert.cert
        · exact ⟨first, _, same, List.mem_cons_self⟩
        · have later : namedCert ∈ rest :=
            (List.mem_cons.mp member).resolve_left fun equal => same (congrArg _ equal.symm)
          obtain ⟨other, name, cert, written⟩ :=
            ih later (first.cert :: uniqueCerts) _ (by simp [fresh, Ne.symm same])
          exact ⟨other, name, cert, List.mem_cons_of_mem _ written⟩

variable {layout : Layout Path} {host : Host} {store : Store Path}

theorem cert_mem_loadNamedDevices {clients : List NamedCert}
    (read : loadNamedDevices (rootNode layout host) = .ok clients) {namedCert : NamedCert}
    (member : namedCert ∈ host.clients) : namedCert.cert ∈ clients.map NamedCert.cert := by
  have nodes : (rootNode layout host).find? "named_devices" =
      some (.arr (namedCertNodes [] [] host.clients)) := find?_rootNode_namedDevices rendering_id
  rw [loadNamedDevices, nodes] at read
  obtain ⟨other, name, cert, written⟩ := cert_mem_namedCertNodes member [] [] (by simp)
  obtain ⟨loaded, inside, same⟩ := exists_of_mapM read written
  rw [← cert, ← cert_loadNamedCert same]
  exact List.mem_map_of_mem inside

theorem rewrite_files_of_ne {path other : Path} (change : Tree → Tree) (store : Store Path)
    (apart : other ≠ path) : (rewrite path change store).files other = store other := by
  unfold rewrite
  split
  · rfl
  · split
    · rfl
    · exact Function.update_of_ne apart ..

theorem stored_failures_saveState {failures : Failures Path}
    (saves : failures.saves layout store = true) :
    Stored id layout host (failures.saveState layout host store) := by
  simp only [Failures.saves, Bool.and_eq_true, Bool.not_eq_true'] at saves
  obtain ⟨members, read⟩ := Option.isSome_iff_exists.mp saves.2
  have first : (StateFiles.saveState layout host store).files layout.sunshine =
      some (.json (.obj (Fields.put "root" (rootNode layout host) members))) := by
    rw [saveState_of_readMembers read]
    split
    · exact Function.update_self ..
    · next separate =>
        rw [rewrite_files_of_ne _ _ (by simpa [Layout.share] using separate)]
        exact Function.update_self ..
  refine ⟨Fields.put "root" (rootNode layout host) members, ?_, Fields.lookup_put_self⟩
  unfold Failures.saveState
  rw [if_neg (by simp [saves.1])]
  split
  · rw [Function.update_self, first]
  · exact first

theorem clients_loadState {generated : UniqueId} {generate : Nat → String} {memory loaded : Host}
    (kept : replacesClients layout store = false)
    (read : loadState layout generated generate memory store = .ok loaded) :
    loaded.clients = memory.clients := by
  unfold loadState at read
  split at read
  · cases read
    rfl
  · cases read
    rfl
  · next tree found =>
      have none : ((tree.find? "root").getD (.obj [])).find? "uniqueid" = Option.none := by
        simpa [replacesClients, found] using kept
      simp only [none] at read
      split at read
      · obtain ⟨version, -, read⟩ := ok_of_bind read
        cases read
        rfl
      · cases read
        rfl

theorem failures_saveState_of_not_saves {failures : Failures Path}
    (unsaved : failures.saves layout store = false) :
    failures.saveState layout host store = store := by
  unfold Failures.saveState
  cases lost : failures.loses layout.sunshine store with
  | true => rfl
  | false =>
      have unread : readMembers store layout.sunshine = none := by
        simpa [Failures.saves, lost] using unsaved
      simp [StateFiles.saveState, unread]

end UmbraHost.StateFiles
