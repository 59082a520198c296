import UmbraHost.StateFiles.Writers
import UmbraHost.Transition.Run

/-! # Which keys the writers of the state files touch

A slot is a key at the top of a file or under its `root`; what it holds is the
subtree that `read_json` gives, so a scalar counts the same as its text. -/

namespace UmbraHost.StateFiles

open UmbraHost.Json UmbraHost.HttpAuth UmbraHost.Transition

inductive Slot (Path : Type) where
  | top (file : Path) (name : String) (not_root : name ≠ "root")
  | root (file : Path) (name : String)

inductive Writer (Path : Type) where
  | saveState (host : Host)
  | saveApiTokens (nodes : List ApiTokenNode)
  | saveSessionTokens (nodes : List SessionNode)
  | saveUserCreds (file : Path) (credentials : Credentials)

variable {Path : Type} [DecidableEq Path]

namespace Slot

def file : Slot Path → Path
  | top file _ _ | root file _ => file

/-- What a tree has in the slot's place. -/
def find? : Slot Path → Tree → Option Tree
  | top _ name _, tree => tree.child? name
  | root _ name, tree => (tree.child? "root").bind (Tree.child? name)

def read (store : Store Path) (slot : Slot Path) : Option Tree :=
  (store.readTree slot.file).bind slot.find?

end Slot

namespace Writer

def run (layout : Layout Path) (hexHash : String → String) :
    Writer Path → Store Path → Outcome Path
  | saveState host => StateFiles.saveState layout host
  | saveApiTokens nodes => StateFiles.saveApiTokens layout nodes
  | saveSessionTokens nodes => StateFiles.saveSessionTokens layout nodes
  | saveUserCreds file credentials => StateFiles.saveUserCreds hexHash file credentials

def Owns (layout : Layout Path) : Writer Path → Slot Path → Prop
  | saveState _, .root file name =>
    (file = layout.sunshine ∧ (name = "uniqueid" ∨ name = "named_devices")) ∨
    (file = layout.vibeshine ∧
      (name = "last_notified_version" ∨ name = "shared_virtual_display_guid"))
  | saveApiTokens _, .root file name => file = layout.vibeshine ∧ name = "api_tokens"
  | saveSessionTokens _, .root file name => file = layout.vibeshine ∧ name = "session_tokens"
  | saveUserCreds credentialsFile _, .top file name _ =>
    file = credentialsFile ∧ (name = "username" ∨ name = "salt" ∨ name = "password")
  | _, _ => False

/-- `save_state` starts `root` afresh: what it finds there has to be its own. -/
def FindsOnlyOwn (layout : Layout Path) (writer : Writer Path) (store : Store Path) : Prop :=
  match writer with
  | saveState _ => ∀ name tree, (Slot.root layout.sunshine name).read store = some tree →
      writer.Owns layout (.root layout.sunshine name)
  | _ => True

/-- Every key of another owner has the same content after the writer. -/
def Frames (layout : Layout Path) (writer : Writer Path) (store store' : Store Path) : Prop :=
  ∀ slot, ¬ writer.Owns layout slot → slot.read store' = slot.read store

end Writer

/-! ## Reading after writing -/

section Changes

variable {Path : Type} {slot : Slot Path} {tree : Tree} {layout : Layout Path} {host : Host}

/-- A change of one key under `root`. -/
theorem find?_update_root {change : Tree → Tree}
    (kept : ∀ file name, slot = .root file name → ∀ root : Tree,
      (change root).child? name = root.child? name) :
    slot.find? (tree.update "root" change) = slot.find? tree := by
  cases slot with
  | top file name not_root => exact Tree.child?_update_of_ne not_root
  | root file name =>
    simp only [Slot.find?, Tree.child?_update_self, Option.bind_some, kept file name rfl]
    cases tree.child? "root" <;> rfl

/-- A change of one key at the top. -/
theorem find?_put {name text : String} (not_root : name ≠ "root")
    (different : ∀ file other not_root, slot = .top file other not_root → other ≠ name) :
    slot.find? (tree.put name text) = slot.find? tree := by
  cases slot with
  | top file other other_not_root =>
    exact Tree.child?_put_of_ne (different file other other_not_root rfl)
  | root file other => simp only [Slot.find?, Tree.child?_put_of_ne not_root.symm]

theorem find?_vibeshineTree
    (foreign : ¬ (Writer.saveState host).Owns layout slot) (here : slot.file = layout.vibeshine) :
    slot.find? (vibeshineTree host tree) = slot.find? tree := by
  apply find?_update_root
  rintro file name rfl root
  have version : name ≠ "last_notified_version" :=
    fun same => foreign (.inr ⟨here, .inl same⟩)
  have guid : name ≠ "shared_virtual_display_guid" :=
    fun same => foreign (.inr ⟨here, .inr same⟩)
  by_cases empty : host.sharedVirtualDisplayGuid = ""
  · simp only [empty, if_true, Tree.child?_put_of_ne version]
  · simp only [empty, if_false, Tree.child?_put_of_ne guid, Tree.child?_put_of_ne version]

theorem readTree_of_readMembers {Path : Type} {store : Store Path} {path : Path}
    {members : Fields Value}
    (read : readMembers store path = some members) :
    ∃ tree, store.readTree path = some tree ∧ tree.children = Tree.ofFields members := by
  simp only [readMembers] at read
  split at read
  next missing =>
    cases read
    exact ⟨.empty, by simp only [Store.readTree, missing], rfl⟩
  next found =>
    cases read
    exact ⟨.ofJson (.obj members), by simp only [Store.readTree, found], rfl⟩
  next found =>
    cases read
    exact ⟨.ofJson .null, by simp only [Store.readTree, found], rfl⟩
  next => cases read

end Changes

variable {store store' : Store Path} {path other : Path} {value : Value} {tree : Tree}
  {change : Tree → Tree} {layout : Layout Path} {host : Host} {slot : Slot Path}

theorem Store.readTree_write_self :
    (store.write path value).readTree path = some (.ofJson value) := by
  simp [Store.readTree, Store.write]

theorem Store.readTree_write_of_ne (different : other ≠ path) :
    (store.write path value).readTree other = store.readTree other := by
  simp [Store.readTree, Store.write, different]

/-- A rewrite leaves all files alone, or replaces the tree of one. -/
theorem rewrite_cases (path : Path) (change : Tree → Tree) (store : Store Path) :
    (rewrite path change store).files = store ∨
    ∃ tree, store.readTree path = some tree ∧
      (rewrite path change store).files.readTree path = some (change tree) ∧
      ∀ other ≠ path, (rewrite path change store).files.readTree other = store.readTree other := by
  cases found : store.readTree path with
  | none => exact .inl (by simp only [rewrite, found])
  | some tree =>
    cases printed : (change tree).write with
    | none => exact .inl (by simp only [rewrite, found, printed])
    | some value =>
      refine .inr ⟨tree, rfl, ?_⟩
      simp only [rewrite, found, printed]
      refine ⟨?_, fun other different => Store.readTree_write_of_ne different⟩
      rw [Store.readTree_write_self, Tree.ofJson_of_write printed]

/-- A rewrite keeps every slot of its file that the change of the tree keeps, and the
other files. -/
theorem read_rewrite
    (kept : slot.file = path → ∀ tree, slot.find? (change tree) = slot.find? tree) :
    slot.read (rewrite path change store).files = slot.read store := by
  rcases rewrite_cases path change store with same | ⟨tree, found, changed, others⟩
  · rw [same]
  · by_cases here : slot.file = path
    · rw [Slot.read, Slot.read, here, changed, found]
      exact kept here tree
    · rw [Slot.read, Slot.read, others _ here]

/-! ## `save_state` -/

/-- The file with the fresh `root`. -/
def freshSunshine (layout : Layout Path) (host : Host) (members : Fields Value)
    (store : Store Path) : Store Path :=
  store.write layout.sunshine (.obj (Fields.put "root" (rootNode layout host) members))

/-- The new `root` has keys of `save_state` only. -/
theorem owns_of_child?_rootNode {name : String}
    (found : (Tree.ofJson (rootNode layout host)).child? name ≠ none) :
    (Writer.saveState host).Owns layout (.root layout.sunshine name) := by
  by_contra foreign
  have uniqueid : name ≠ "uniqueid" := fun same => foreign (.inl ⟨rfl, .inl same⟩)
  have devices : name ≠ "named_devices" := fun same => foreign (.inl ⟨rfl, .inr same⟩)
  apply found
  by_cases share : layout.sunshine = layout.vibeshine
  · have version : name ≠ "last_notified_version" :=
      fun same => foreign (.inr ⟨share, .inl same⟩)
    simp [rootNode, Layout.share, share, Tree.ofJson, Tree.ofFields, Tree.child?,
      Fields.lookup_cons_of_ne, uniqueid, devices, version]
  · simp [rootNode, Layout.share, share, Tree.ofJson, Tree.ofFields, Tree.child?,
      Fields.lookup_cons_of_ne, uniqueid, devices]

theorem read_freshSunshine_root {members : Fields Value} {name : String} :
    (Slot.root layout.sunshine name).read (freshSunshine layout host members store) =
      (Tree.ofJson (rootNode layout host)).child? name := by
  have root : (Tree.ofJson (.obj (Fields.put "root" (rootNode layout host) members))).child?
      "root" = some (.ofJson (rootNode layout host)) := by
    rw [Tree.ofJson, Tree.ofFields_put]
    exact Fields.lookup_put_self
  simp only [Slot.read, Slot.file, freshSunshine, Store.readTree_write_self, Option.bind_some,
    Slot.find?, root]

theorem read_freshSunshine {members : Fields Value}
    (read : readMembers store layout.sunshine = some members)
    (finds : (Writer.saveState host).FindsOnlyOwn layout store)
    (foreign : ¬ (Writer.saveState host).Owns layout slot) :
    slot.read (freshSunshine layout host members store) = slot.read store := by
  by_cases here : slot.file = layout.sunshine
  · obtain ⟨tree, found, children⟩ := readTree_of_readMembers read
    cases slot with
    | top file name not_root =>
      cases here
      have kept : (Tree.ofJson (.obj (Fields.put "root" (rootNode layout host) members))).child?
          name = tree.child? name := by
        rw [Tree.ofJson, Tree.ofFields_put, Tree.child?, Tree.child?, children]
        exact Fields.lookup_put_of_ne not_root
      simp only [Slot.read, Slot.file, freshSunshine, Store.readTree_write_self, found,
        Option.bind_some, Slot.find?, kept]
    | root file name =>
      cases here
      have before : (Slot.root layout.sunshine name).read store = none := by
        by_contra present
        obtain ⟨tree, present⟩ := Option.ne_none_iff_exists'.mp present
        exact foreign (finds name tree present)
      have after : (Tree.ofJson (rootNode layout host)).child? name = none := by
        by_contra present
        exact foreign (owns_of_child?_rootNode present)
      rw [before, read_freshSunshine_root, after]
  · rw [Slot.read, Slot.read, freshSunshine, Store.readTree_write_of_ne here]

theorem saveState_of_readMembers {members : Fields Value}
    (read : readMembers store layout.sunshine = some members) :
    saveState layout host store =
      if layout.share then ⟨freshSunshine layout host members store, true⟩
      else rewrite layout.vibeshine (vibeshineTree host)
        (freshSunshine layout host members store) := by
  simp only [saveState, read, freshSunshine]

theorem frames_saveState (finds : (Writer.saveState host).FindsOnlyOwn layout store) :
    (Writer.saveState host).Frames layout store (saveState layout host store).files := by
  intro slot foreign
  cases read : readMembers store layout.sunshine with
  | none => simp only [saveState, read]
  | some members =>
    rw [saveState_of_readMembers read]
    split
    next => exact read_freshSunshine read finds foreign
    next =>
      rw [read_rewrite fun here tree => find?_vibeshineTree foreign here]
      exact read_freshSunshine read finds foreign

/-- A save that succeeded has lost what it did not own. -/
theorem findsOnlyOwn_of_frames (written : (saveState layout host store).written)
    (frames : (Writer.saveState host).Frames layout store (saveState layout host store).files) :
    (Writer.saveState host).FindsOnlyOwn layout store := by
  intro name tree found
  by_contra foreign
  have kept := frames _ foreign
  rw [found] at kept
  cases read : readMembers store layout.sunshine with
  | none => simp [saveState, read] at written
  | some members =>
    have fresh : (Slot.root layout.sunshine name).read
        (freshSunshine layout host members store) = some tree := by
      rw [← kept, saveState_of_readMembers read]
      split
      next => rfl
      next separate =>
        have different : layout.sunshine ≠ layout.vibeshine := by
          simpa [Layout.share] using separate
        refine (read_rewrite ?_).symm
        intro here
        exact absurd here different
    rw [read_freshSunshine_root] at fresh
    exact foreign (owns_of_child?_rootNode (by simp [fresh]))

/-! ## The other writers -/

/-- A rewrite of one key under `root`. -/
theorem read_rewrite_root {name : String} {child : Tree}
    (foreign : ∀ file, slot = .root file name → file ≠ path) :
    slot.read (rewrite path (fun tree => tree.update "root" fun root => root.putChild name child)
      store).files = slot.read store := by
  apply read_rewrite
  intro here tree
  apply find?_update_root
  rintro file other rfl root
  refine Tree.child?_putChild_of_ne ?_
  rintro rfl
  exact foreign file rfl here

theorem frames_of_findsOnlyOwn (writer : Writer Path) (hexHash : String → String)
    (finds : writer.FindsOnlyOwn layout store) :
    writer.Frames layout store (writer.run layout hexHash store).files := by
  cases writer with
  | saveState host => exact frames_saveState finds
  | saveApiTokens nodes =>
    intro slot foreign
    apply read_rewrite_root
    rintro file rfl here
    exact foreign ⟨here, rfl⟩
  | saveSessionTokens nodes =>
    intro slot foreign
    apply read_rewrite_root
    rintro file rfl here
    exact foreign ⟨here, rfl⟩
  | saveUserCreds file credentials =>
    intro slot foreign
    apply read_rewrite
    intro here tree
    rw [find?_put (by decide), find?_put (by decide), find?_put (by decide)]
    · rintro file name not_root rfl same
      exact foreign ⟨here, .inl same⟩
    · rintro file name not_root rfl same
      exact foreign ⟨here, .inr (.inl same)⟩
    · rintro file name not_root rfl same
      exact foreign ⟨here, .inr (.inr same)⟩

/-! ## Sequences of writers -/

namespace Writer

def step (layout : Layout Path) (hexHash : String → String) (writer : Writer Path)
    (store : Store Path) : Store Path :=
  (writer.run layout hexHash store).files

end Writer

theorem read_run_of_findsOnlyOwn (hexHash : String → String) {writers : List (Writer Path)}
    (meets : Meets (Writer.step layout hexHash)
      (fun writer store => writer.FindsOnlyOwn layout store) writers store)
    (foreign : ∀ writer ∈ writers, ¬ writer.Owns layout slot) :
    slot.read (run (Writer.step layout hexHash) writers store) = slot.read store := by
  induction writers generalizing store with
  | nil => rfl
  | cons writer rest ih =>
    have first : slot.read (writer.step layout hexHash store) = slot.read store :=
      frames_of_findsOnlyOwn writer hexHash meets.1 slot (foreign writer List.mem_cons_self)
    rw [run_cons, ih meets.2 fun other member => foreign other (List.mem_cons_of_mem _ member),
      first]

/-- A writer that succeeds keeps the keys of all others exactly when it is not
`save_state`, or finds under `root` of its file only keys of its own; a sequence of such
writers keeps every key that none of them owns. -/
theorem writers_frame_iff (layout : Layout Path) (hexHash : String → String) :
    (∀ (writer : Writer Path) (store : Store Path),
      (writer.run layout hexHash store).written = true →
      (writer.Frames layout store (writer.run layout hexHash store).files ↔
        writer.FindsOnlyOwn layout store)) ∧
    ∀ (writers : List (Writer Path)) (store : Store Path),
      Meets (Writer.step layout hexHash)
        (fun writer store => writer.FindsOnlyOwn layout store) writers store →
      ∀ slot, (∀ writer ∈ writers, ¬ writer.Owns layout slot) →
        slot.read (run (Writer.step layout hexHash) writers store) = slot.read store := by
  refine ⟨fun writer store written => ⟨fun frames => ?_, frames_of_findsOnlyOwn writer hexHash⟩,
    fun writers store meets slot foreign => read_run_of_findsOnlyOwn hexHash meets foreign⟩
  cases writer with
  | saveState host => exact findsOnlyOwn_of_frames written frames
  | saveApiTokens nodes => trivial
  | saveSessionTokens nodes => trivial
  | saveUserCreds file credentials => trivial

theorem writers_frame_iff_two_files :
    let layout : Layout Nat := { sunshine := 0, vibeshine := 1 }
    let credentials : Credentials := { username := "user", password := "secret", salt := "abc" }
    let writers : List (Writer Nat) := [.saveApiTokens [], .saveUserCreds 0 credentials]
    let slot : Slot Nat := .root 0 "uniqueid"
    (Writer.saveApiTokens []).Frames layout (fun _ => none)
        ((Writer.saveApiTokens []).run layout id fun _ => none).files ∧
      slot.read (run (Writer.step layout id) writers fun _ => none) =
        slot.read fun _ => none := by
  intro layout credentials writers slot
  refine ⟨((writers_frame_iff layout id).1 _ _ (by decide +kernel)).mpr trivial,
    (writers_frame_iff layout id).2 writers _ ⟨trivial, trivial, trivial⟩ slot ?_⟩
  simp [writers, slot, Writer.Owns]

/-- In one shared file `save_state` removes the session tokens that were saved before. -/
theorem saveState_removes_sessionTokens :
    let layout : Layout Nat := { sunshine := 0, vibeshine := 0 }
    let host : Host :=
      { uniqueId := ⟨"01234567-89AB-CDEF-0123-456789ABCDEF", utf8ByteSize_sampleUuid⟩
        clients := []
        lastNotifiedVersion := ""
        sharedVirtualDisplayGuid := "" }
    let node : SessionNode :=
      { hash := some ['h'], username := some ['u'], createdAt := some 1, expiresAt := some 2,
        refreshExpiresAt := some 2, lastSeen := some 1, rememberMe := some false,
        refreshTokenHash := none, rotationId := none, userAgent := none, remoteAddress := none,
        deviceLabel := none }
    let slot : Slot Nat := .root 0 "session_tokens"
    let tokens := saveSessionTokens layout [node] fun _ => none
    let state := saveState layout host tokens.files
    tokens.written = true ∧ state.written = true ∧
      ¬ (Writer.saveState host).Owns layout slot ∧
      (slot.read tokens.files).isSome = true ∧ slot.read state.files = none := by
  refine ⟨by decide +kernel, by decide +kernel, ?_, by decide +kernel, ?_⟩
  · simp [Writer.Owns]
  · rw [← Option.isNone_iff_eq_none]
    decide +kernel

end UmbraHost.StateFiles
