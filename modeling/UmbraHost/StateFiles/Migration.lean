import UmbraHost.Json.Tree

/-! # Migrating state keys

`migrate_recent_state_keys` of `state_storage.cpp`: three keys move from the old
state file to the new one.  A file is what it parses to; a write replaces its
file or, when it throws, leaves it. -/

namespace UmbraHost.StateFiles

open UmbraHost.Json

inductive StateFile where
  | absent
  | blank
  | malformed
  | parsed (tree : Tree)

/-- A file that does not parse has no keys. -/
def StateFile.tree : StateFile → Tree
  | .parsed tree => tree
  | _ => .empty

/-- A key of a file under `root`. -/
def rootChild (tree : Tree) (key : String) : Option Tree :=
  (tree.child? "root").bind (Tree.child? key)

structure StateFilePair where
  old : StateFile
  new : StateFile

/-- Whether the files can be inspected and read, corrupt ones renamed out of the
way, and the trees written. -/
structure MigrationOutcome where
  oldReadable : Bool := true
  newReadable : Bool := true
  oldQuarantined : Bool := true
  newQuarantined : Bool := true
  newWritten : Bool := true
  oldWritten : Bool := true

inductive LoadResult where
  | loaded (tree : Tree)
  | missing
  | corrupt
  | failed

def loadTreeForUpdate (readable : Bool) (file : StateFile) : LoadResult :=
  if readable = false then .failed
  else match file with
    | .absent | .blank => .missing
    | .malformed => .corrupt
    | .parsed tree => .loaded tree

/-- What stays in the place of a file that was found corrupt. -/
def quarantine (readable renamed : Bool) : StateFile → StateFile
  | .malformed => if readable && renamed then .absent else .malformed
  | file => file

def LoadResult.tree : LoadResult → Tree
  | .loaded tree => tree
  | _ => .empty

/-! ## Moving keys -/

def ensureRoot (tree : Tree) : Tree := tree.update "root" id

/-- The trees as they change, and the flags of the source. -/
structure Moving where
  oldRoot : Tree
  newTree : Tree
  oldModified : Bool := false
  newModified : Bool := false

/-- The step for one key: what is erased from the old root, and what the new root
gets when it does not have the key. -/
def moveKey (erase : String → Fields Tree → Fields Tree) (transfer : Tree → Tree) (key : String)
    (moving : Moving) : Moving :=
  match moving.oldRoot.child? key with
  | none => moving
  | some child =>
      let newTree := ensureRoot moving.newTree
      let oldRoot := Json.Tree.node moving.oldRoot.data (erase key moving.oldRoot.children)
      if (rootChild newTree key).isSome then
        { moving with oldRoot, newTree, oldModified := true }
      else
        { oldRoot
          newTree := newTree.update "root" fun root => root.putChild key (transfer child)
          oldModified := true
          newModified := true }

/-- `move_child`. -/
def moveChild : String → Moving → Moving := moveKey Fields.eraseFirst id

/-- The step for the version, of which the text is moved alone. -/
def moveVersion : Moving → Moving :=
  moveKey Fields.eraseAll (fun child => .node child.data []) "last_notified_version"

def moveKeys (oldRoot newTree : Tree) : Moving :=
  moveVersion (moveChild "session_tokens" (moveChild "api_tokens" { oldRoot, newTree }))

/-- The trees to write; a file that did not parse has nothing to move. -/
def writeBack (outcome : MigrationOutcome) (oldTree newTree : Tree) (files : StateFilePair) :
    StateFilePair :=
  match oldTree.child? "root" with
  | none => files
  | some oldRoot =>
      let moved := moveKeys oldRoot newTree
      { old := if moved.oldModified && outcome.oldWritten then
          .parsed (oldTree.putChild "root" moved.oldRoot) else files.old
        new := if moved.newModified && outcome.newWritten then .parsed moved.newTree
          else files.new }

def migrateRecentStateKeys (outcome : MigrationOutcome) (oldPath newPath : String)
    (files : StateFilePair) : StateFilePair :=
  if oldPath = "" ∨ newPath = "" ∨ oldPath = newPath then files
  else
    match loadTreeForUpdate outcome.oldReadable files.old with
    | .failed => files
    | oldLoad =>
      let files := { files with
        old := quarantine outcome.oldReadable outcome.oldQuarantined files.old }
      match loadTreeForUpdate outcome.newReadable files.new with
      | .failed => files
      | newLoad =>
        let files := { files with
          new := quarantine outcome.newReadable outcome.newQuarantined files.new }
        match oldLoad with
        | .loaded oldTree => writeBack outcome oldTree newLoad.tree files
        | _ => files

/-! ## One key -/

variable {erase : String → Fields Tree → Fields Tree} {transfer : Tree → Tree}
  {key other : String} {moving : Moving}

theorem rootChild_ensureRoot (tree : Tree) (key : String) :
    rootChild (ensureRoot tree) key = rootChild tree key := by
  simp only [rootChild, ensureRoot, Tree.child?_update_self, Option.bind_some, id_eq]
  cases tree.child? "root" <;> rfl

theorem rootChild_putChild_self (tree child : Tree) :
    rootChild (tree.update "root" fun root => root.putChild key child) key = some child := by
  simp only [rootChild, Tree.child?_update_self, Option.bind_some, Tree.child?_putChild_self]

theorem rootChild_putChild_of_ne (tree child : Tree) (different : other ≠ key) :
    rootChild (tree.update "root" fun root => root.putChild key child) other =
      rootChild tree other := by
  simp only [rootChild, Tree.child?_update_self, Option.bind_some,
    Tree.child?_putChild_of_ne different]
  cases tree.child? "root" <;> rfl

/-- What the step for a key leaves of the key. -/
theorem rootChild_moveKey_self :
    rootChild (moveKey erase transfer key moving).newTree key =
      (rootChild moving.newTree key).or ((moving.oldRoot.child? key).map transfer) := by
  unfold moveKey
  split
  next absent => rw [absent, Option.map_none, Option.or_none]
  next child found =>
    rw [found, Option.map_some]
    dsimp only
    rw [rootChild_ensureRoot]
    cases held : rootChild moving.newTree key with
    | none => rw [Option.isSome_none, if_neg (by simp), rootChild_putChild_self, Option.none_or]
    | some kept => rw [Option.isSome_some, if_pos rfl, rootChild_ensureRoot, held, Option.some_or]

theorem rootChild_moveKey_of_ne (different : other ≠ key) :
    rootChild (moveKey erase transfer key moving).newTree other =
      rootChild moving.newTree other := by
  unfold moveKey
  split
  · rfl
  · dsimp only
    split
    · exact rootChild_ensureRoot _ _
    · rw [rootChild_putChild_of_ne _ _ different, rootChild_ensureRoot]

theorem child?_newTree_moveKey (different : other ≠ "root") :
    (moveKey erase transfer key moving).newTree.child? other = moving.newTree.child? other := by
  unfold moveKey
  split
  · rfl
  · dsimp only
    split
    · exact Tree.child?_update_of_ne different
    · rw [Tree.child?_update_of_ne different]
      exact Tree.child?_update_of_ne different

theorem child?_oldRoot_moveKey_of_ne
    (others : ∀ fields : Fields Tree, List.lookup other (erase key fields) = List.lookup other fields) :
    (moveKey erase transfer key moving).oldRoot.child? other = moving.oldRoot.child? other := by
  unfold moveKey
  split
  · rfl
  · dsimp only
    split <;> exact others _

theorem child?_oldRoot_moveKey_self
    (absent : ∀ fields : Fields Tree, List.lookup key fields = none →
      List.lookup key (erase key fields) = none) :
    (moveKey erase transfer key moving).oldRoot.child? key =
      List.lookup key (erase key moving.oldRoot.children) := by
  unfold moveKey
  split
  next missing => rw [missing, absent _ missing]
  · dsimp only
    split <;> rfl

theorem modified_moveKey :
    (moveKey erase transfer key moving).oldModified =
        (moving.oldModified || (moving.oldRoot.child? key).isSome) ∧
      (moveKey erase transfer key moving).newModified =
        (moving.newModified ||
          ((moving.oldRoot.child? key).isSome && (rootChild moving.newTree key).isNone)) := by
  unfold moveKey
  split
  next absent => simp [absent]
  next child found =>
    simp only [found, rootChild_ensureRoot]
    cases held : rootChild moving.newTree key <;> simp

/-! ## The three keys -/

def recentStateKeys : List String := ["api_tokens", "session_tokens", "last_notified_version"]

/-- How the members of a key are erased from the old root. -/
def eraseKey (key : String) : Fields Tree → Fields Tree :=
  if key = "last_notified_version" then Fields.eraseAll key else Fields.eraseFirst key

theorem lookup_eraseKey_of_ne {fields : Fields Tree} (different : other ≠ key) :
    List.lookup other (eraseKey key fields) = List.lookup other fields := by
  unfold eraseKey
  split
  · exact Fields.lookup_eraseAll_of_ne different
  · exact Fields.lookup_eraseFirst_of_ne different

theorem lookup_eraseKey_of_lookup_eq_none {fields : Fields Tree}
    (absent : List.lookup key fields = none) : List.lookup key (eraseKey key fields) = none := by
  unfold eraseKey
  split
  · exact Fields.lookup_eraseAll_self
  · exact Fields.eraseFirst_of_lookup_eq_none absent

/-- What stays of a key does not depend on the other keys that were moved before. -/
theorem lookup_eraseKey_eraseKey {fields : Fields Tree} (different : other ≠ key) :
    List.lookup other (eraseKey other (eraseKey key fields)) =
      List.lookup other (eraseKey other fields) := by
  by_cases version : other = "last_notified_version"
  · simp only [eraseKey, if_pos version, Fields.lookup_eraseAll_self]
  · simp only [eraseKey, if_neg version]
    split
    · rw [Fields.eraseFirst_eraseAll different, Fields.lookup_eraseAll_of_ne different]
    · rw [Fields.eraseFirst_comm different, Fields.lookup_eraseFirst_of_ne different]

/-- What the new root gets of a key. -/
def transferKey (key : String) (child : Tree) : Tree :=
  if key = "last_notified_version" then .node child.data [] else child

def moveEach (keys : List String) (moving : Moving) : Moving :=
  keys.foldl (fun moving key => moveKey eraseKey (transferKey key) key moving) moving

theorem moveKeys_eq (oldRoot newTree : Tree) :
    moveKeys oldRoot newTree = moveEach recentStateKeys { oldRoot, newTree } := rfl

theorem lookup_eraseKey_moveKey (different : other ≠ key) :
    List.lookup other
        (eraseKey other (moveKey eraseKey transfer key moving).oldRoot.children) =
      List.lookup other (eraseKey other moving.oldRoot.children) := by
  unfold moveKey
  split
  · rfl
  · dsimp only
    split <;> exact lookup_eraseKey_eraseKey different

variable {keys : List String}

theorem rootChild_moveEach (distinct : keys.Nodup) :
    rootChild (moveEach keys moving).newTree other =
      if other ∈ keys then
        (rootChild moving.newTree other).or ((moving.oldRoot.child? other).map (transferKey other))
      else rootChild moving.newTree other := by
  induction keys generalizing moving with
  | nil => rw [if_neg List.not_mem_nil]; rfl
  | cons key rest ih =>
    obtain ⟨fresh, distinct⟩ := List.nodup_cons.mp distinct
    refine (ih distinct).trans ?_
    by_cases same : other = key
    · subst same
      rw [if_neg fresh, if_pos List.mem_cons_self, rootChild_moveKey_self]
    · rw [rootChild_moveKey_of_ne same,
        child?_oldRoot_moveKey_of_ne fun _ => lookup_eraseKey_of_ne same]
      simp only [List.mem_cons, same, false_or]

theorem child?_oldRoot_moveEach (distinct : keys.Nodup) :
    (moveEach keys moving).oldRoot.child? other =
      if other ∈ keys then List.lookup other (eraseKey other moving.oldRoot.children)
      else moving.oldRoot.child? other := by
  induction keys generalizing moving with
  | nil => rw [if_neg List.not_mem_nil]; rfl
  | cons key rest ih =>
    obtain ⟨fresh, distinct⟩ := List.nodup_cons.mp distinct
    refine (ih distinct).trans ?_
    by_cases same : other = key
    · subst same
      rw [if_neg fresh, if_pos List.mem_cons_self,
        child?_oldRoot_moveKey_self fun _ => lookup_eraseKey_of_lookup_eq_none]
    · rw [child?_oldRoot_moveKey_of_ne fun _ => lookup_eraseKey_of_ne same,
        lookup_eraseKey_moveKey same]
      simp only [List.mem_cons, same, false_or]

theorem child?_newTree_moveEach (different : other ≠ "root") :
    (moveEach keys moving).newTree.child? other = moving.newTree.child? other := by
  induction keys generalizing moving with
  | nil => rfl
  | cons key rest ih => exact ih.trans (child?_newTree_moveKey different)

theorem newModified_moveEach (distinct : keys.Nodup) :
    (moveEach keys moving).newModified = true ↔ moving.newModified = true ∨
      ∃ key ∈ keys, (moving.oldRoot.child? key).isSome ∧ rootChild moving.newTree key = none := by
  induction keys generalizing moving with
  | nil => simp [moveEach]
  | cons key rest ih =>
    obtain ⟨fresh, distinct⟩ := List.nodup_cons.mp distinct
    refine (ih distinct).trans ?_
    -- the step for `key` changes nothing that the later steps look at
    have later : ∀ other ∈ rest,
        ((moveKey eraseKey (transferKey key) key moving).oldRoot.child? other).isSome ∧
            rootChild (moveKey eraseKey (transferKey key) key moving).newTree other = none ↔
          (moving.oldRoot.child? other).isSome ∧ rootChild moving.newTree other = none := by
      intro other member
      have different : other ≠ key := fun same => fresh (same ▸ member)
      rw [rootChild_moveKey_of_ne different,
        child?_oldRoot_moveKey_of_ne fun _ => lookup_eraseKey_of_ne different]
    rw [modified_moveKey.2, exists_congr fun other => and_congr_right (later other)]
    simp only [List.mem_cons, or_and_right, exists_or, exists_eq_left, Bool.or_eq_true,
      Bool.and_eq_true, Option.isNone_iff_eq_none, or_assoc]

theorem oldModified_moveEach (distinct : keys.Nodup)
    {key : String} (member : key ∈ keys) (held : (moving.oldRoot.child? key).isSome) :
    (moveEach keys moving).oldModified = true := by
  have kept : ∀ (rest : List String) (moving : Moving), moving.oldModified = true →
      (moveEach rest moving).oldModified = true := by
    intro rest
    induction rest with
    | nil => exact fun _ modified => modified
    | cons first rest ih =>
      intro moving modified
      exact ih _ (by rw [modified_moveKey.1, modified, Bool.true_or])
  induction keys generalizing moving with
  | nil => cases member
  | cons first rest ih =>
    obtain ⟨fresh, distinct⟩ := List.nodup_cons.mp distinct
    rcases List.mem_cons.mp member with rfl | member
    · exact kept rest _ (by rw [modified_moveKey.1, held, Bool.or_true])
    · refine ih distinct member ?_
      have different : key ≠ first := fun same => fresh (same ▸ member)
      rwa [child?_oldRoot_moveKey_of_ne fun _ => lookup_eraseKey_of_ne different]

/-! ## Nothing lost -/

/-- The keys are still in one of the files, those of the new file as they were, and
everything else is as it was. -/
structure NothingLost (before after : StateFilePair) : Prop where
  present : ∀ key ∈ recentStateKeys,
    (rootChild before.old.tree key).isSome ∨ (rootChild before.new.tree key).isSome →
      (rootChild after.old.tree key).isSome ∨ (rootChild after.new.tree key).isSome
  kept : ∀ key ∈ recentStateKeys, ∀ value, rootChild before.new.tree key = some value →
    rootChild after.new.tree key = some value
  others : ∀ key ∉ recentStateKeys,
    rootChild after.old.tree key = rootChild before.old.tree key ∧
      rootChild after.new.tree key = rootChild before.new.tree key
  outside : ∀ name, name ≠ "root" →
    after.old.tree.child? name = before.old.tree.child? name ∧
      after.new.tree.child? name = before.new.tree.child? name

/-- The old file is written without a key that only it has, the new one is not. -/
def dropsKey (outcome : MigrationOutcome) (oldPath newPath : String) (files : StateFilePair) :
    Prop :=
  (oldPath ≠ "" ∧ newPath ≠ "" ∧ oldPath ≠ newPath) ∧
    outcome.oldReadable ∧ outcome.newReadable ∧ outcome.newWritten = false ∧ outcome.oldWritten ∧
    ∃ key ∈ recentStateKeys, ∃ oldRoot, files.old.tree.child? "root" = some oldRoot ∧
      (oldRoot.child? key).isSome ∧ rootChild files.new.tree key = none ∧
      List.lookup key (eraseKey key oldRoot.children) = none

@[simp] theorem tree_quarantine (readable renamed : Bool) (file : StateFile) :
    (quarantine readable renamed file).tree = file.tree := by
  cases file with
  | malformed =>
    rw [quarantine]
    split <;> rfl
  | absent | blank | parsed => rfl

theorem NothingLost.of_trees {before after : StateFilePair}
    (old : after.old.tree = before.old.tree) (new : after.new.tree = before.new.tree) :
    NothingLost before after where
  present _ _ held := by rwa [old, new]
  kept _ _ _ held := by rwa [new]
  others _ _ := by rw [old, new]; exact ⟨rfl, rfl⟩
  outside _ _ := by rw [old, new]; exact ⟨rfl, rfl⟩

theorem NothingLost.congr_before {before other after : StateFilePair}
    (lost : NothingLost before after) (old : before.old.tree = other.old.tree)
    (new : before.new.tree = other.new.tree) : NothingLost other after where
  present := by rw [← old, ← new]; exact lost.present
  kept := by rw [← new]; exact lost.kept
  others := by rw [← old, ← new]; exact lost.others
  outside := by rw [← old, ← new]; exact lost.outside

/-! ## What is written -/

variable {outcome : MigrationOutcome} {files : StateFilePair} {oldTree newTree oldRoot : Tree}

theorem rootChild_of_root (root : oldTree.child? "root" = some oldRoot) :
    rootChild oldTree key = oldRoot.child? key := by
  rw [rootChild, root, Option.bind_some]

theorem recentStateKeys_nodup : recentStateKeys.Nodup := by decide

theorem rootChild_new_writeBack (root : oldTree.child? "root" = some oldRoot)
    (new : files.new.tree = newTree) :
    rootChild (writeBack outcome oldTree newTree files).new.tree key =
      if outcome.newWritten ∧ key ∈ recentStateKeys then
        (rootChild newTree key).or ((oldRoot.child? key).map (transferKey key))
      else rootChild newTree key := by
  have moved : rootChild (moveKeys oldRoot newTree).newTree key = _ :=
    rootChild_moveEach recentStateKeys_nodup
  have modified : (moveKeys oldRoot newTree).newModified = true ↔ _ :=
    newModified_moveEach recentStateKeys_nodup
  simp only [writeBack, root]
  cases written : outcome.newWritten with
  | false => simp [new]
  | true =>
    cases changed : (moveKeys oldRoot newTree).newModified with
    | true => simpa [StateFile.tree] using moved
    | false =>
      -- every key of the old root is in the new one too
      simp only [Bool.false_and, if_neg Bool.false_ne_true, new, true_and]
      split
      next member =>
        rw [changed] at modified
        cases held : rootChild newTree key with
        | some value => rw [Option.some_or]
        | none =>
          cases had : oldRoot.child? key with
          | none => rfl
          | some child =>
            exact absurd (modified.mpr (.inr ⟨key, member, by simp [had], held⟩))
              Bool.false_ne_true
      next => rfl

theorem rootChild_old_writeBack (root : oldTree.child? "root" = some oldRoot)
    (old : files.old.tree = oldTree) :
    rootChild (writeBack outcome oldTree newTree files).old.tree key =
      if outcome.oldWritten ∧ key ∈ recentStateKeys then
        List.lookup key (eraseKey key oldRoot.children)
      else oldRoot.child? key := by
  have moved : (moveKeys oldRoot newTree).oldRoot.child? key = _ :=
    child?_oldRoot_moveEach recentStateKeys_nodup
  simp only [writeBack, root]
  cases written : outcome.oldWritten with
  | false => simp [old, rootChild_of_root root]
  | true =>
    cases changed : (moveKeys oldRoot newTree).oldModified with
    | true =>
      simp only [Bool.and_self, if_true, StateFile.tree, rootChild, Tree.child?_putChild_self,
        Option.bind_some, true_and]
      exact moved
    | false =>
      -- nothing was moved, so there is nothing to erase
      simp only [Bool.false_and, if_neg Bool.false_ne_true, old, rootChild_of_root root, true_and]
      split
      next member =>
        cases had : oldRoot.child? key with
        | none => exact (lookup_eraseKey_of_lookup_eq_none had).symm
        | some child =>
          have : (moveKeys oldRoot newTree).oldModified = true :=
            oldModified_moveEach recentStateKeys_nodup member (by simp [had])
          rw [changed] at this
          cases this
      next => rfl

theorem child?_writeBack (different : other ≠ "root")
    (old : files.old.tree = oldTree) (new : files.new.tree = newTree) :
    (writeBack outcome oldTree newTree files).old.tree.child? other = oldTree.child? other ∧
      (writeBack outcome oldTree newTree files).new.tree.child? other = newTree.child? other := by
  unfold writeBack
  split
  · rw [old, new]
    exact ⟨rfl, rfl⟩
  · refine ⟨?_, ?_⟩
    · dsimp only
      split
      · exact Tree.child?_putChild_of_ne different
      · rw [old]
    · dsimp only
      split
      · rw [StateFile.tree, moveKeys_eq, child?_newTree_moveEach different]
      · rw [new]

/-- No key is dropped: the new file was written, the old one was not, or whatever was
moved out of the old root is there a second time or in the new root as well. -/
theorem writeBack_loses_nothing (root : oldTree.child? "root" = some oldRoot)
    (old : files.old.tree = oldTree) (new : files.new.tree = newTree)
    (safe : outcome.newWritten = false → outcome.oldWritten = true → ∀ key ∈ recentStateKeys,
      (oldRoot.child? key).isSome → rootChild newTree key = none →
        List.lookup key (eraseKey key oldRoot.children) ≠ none) :
    NothingLost files (writeBack outcome oldTree newTree files) where
  kept key member value held := by
    rw [new] at held
    rw [rootChild_new_writeBack root new, held, Option.some_or, ite_self]
  others key fresh := by
    rw [rootChild_old_writeBack root old, rootChild_new_writeBack root new, old, new,
      rootChild_of_root root]
    simp [fresh]
  outside name different := by
    rw [old, new]
    exact child?_writeBack different old new
  present key member held := by
    rw [old, new, rootChild_of_root root] at held
    rw [rootChild_old_writeBack root old, rootChild_new_writeBack root new]
    cases inNew : rootChild newTree key with
    | some value =>
      right
      rw [Option.some_or, ite_self]
      rfl
    | none =>
      have inOld : (oldRoot.child? key).isSome := held.resolve_right (by simp [inNew])
      cases newWritten : outcome.newWritten with
      | true =>
        right
        simpa [member] using inOld
      | false =>
        left
        cases oldWritten : outcome.oldWritten with
        | false => simpa using inOld
        | true =>
          have left := safe newWritten oldWritten key member inOld inNew
          simpa [member] using Option.isSome_iff_ne_none.mpr left

theorem loadTreeForUpdate_failed {readable : Bool} {file : StateFile} :
    loadTreeForUpdate readable file = .failed ↔ readable = false := by
  cases readable
  · simp [loadTreeForUpdate]
  · cases file <;> simp [loadTreeForUpdate]

theorem tree_loadTreeForUpdate {file : StateFile} :
    (loadTreeForUpdate true file).tree = file.tree := by
  cases file <;> rfl

/-- The migration that comes to the keys. -/
def reaches (outcome : MigrationOutcome) (oldPath newPath : String) (files : StateFilePair)
    (oldRoot : Tree) : Prop :=
  (oldPath ≠ "" ∧ newPath ≠ "" ∧ oldPath ≠ newPath) ∧ outcome.oldReadable ∧
    outcome.newReadable ∧ files.old.tree.child? "root" = some oldRoot

variable {oldPath newPath : String}

theorem migrateRecentStateKeys_of_reaches (reached : reaches outcome oldPath newPath files oldRoot) :
    ∃ found : StateFilePair, found.old.tree = files.old.tree ∧ found.new.tree = files.new.tree ∧
      migrateRecentStateKeys outcome oldPath newPath files =
        writeBack outcome files.old.tree files.new.tree found := by
  obtain ⟨paths, oldReadable, newReadable, root⟩ := reached
  have paths : ¬ (oldPath = "" ∨ newPath = "" ∨ oldPath = newPath) := by tauto
  cases oldFile : files.old with
  | absent | blank | malformed =>
    rw [oldFile] at root
    cases root
  | parsed oldTree =>
    refine ⟨⟨.parsed oldTree, quarantine true outcome.newQuarantined files.new⟩, rfl,
      tree_quarantine _ _ _, ?_⟩
    rw [migrateRecentStateKeys, if_neg paths, oldReadable, newReadable, oldFile,
      ← tree_loadTreeForUpdate]
    cases files.new <;> rfl

theorem migrateRecentStateKeys_of_not_reaches
    (short : ∀ oldRoot, ¬ reaches outcome oldPath newPath files oldRoot) :
    NothingLost files (migrateRecentStateKeys outcome oldPath newPath files) := by
  unfold migrateRecentStateKeys
  split
  · exact .of_trees rfl rfl
  next paths =>
    split
    · exact .of_trees rfl rfl
    next oldLoaded =>
      dsimp only
      split
      · exact .of_trees (tree_quarantine _ _ _) rfl
      next newLoaded =>
        split
        next oldTree loaded =>
          have oldReadable : outcome.oldReadable = true := by
            simpa [loadTreeForUpdate_failed] using oldLoaded
          have newReadable : outcome.newReadable = true := by
            simpa [loadTreeForUpdate_failed] using newLoaded
          rw [oldReadable] at loaded
          have tree : oldTree = files.old.tree := by
            rw [← tree_loadTreeForUpdate, loaded]; rfl
          have rootless : oldTree.child? "root" = none := by
            cases root : oldTree.child? "root" with
            | none => rfl
            | some oldRoot =>
              exact absurd ⟨by tauto, oldReadable, newReadable, tree ▸ root⟩ (short oldRoot)
          rw [writeBack, rootless]
          exact .of_trees (tree_quarantine _ _ _) (tree_quarantine _ _ _)
        · exact .of_trees (tree_quarantine _ _ _) (tree_quarantine _ _ _)

/-- The migration loses a key just when it writes the old file alone, without a key that
was nowhere else. -/
theorem nothingLost_iff (outcome : MigrationOutcome) (oldPath newPath : String)
    (files : StateFilePair) :
    NothingLost files (migrateRecentStateKeys outcome oldPath newPath files) ↔
      ¬ dropsKey outcome oldPath newPath files := by
  constructor
  · rintro lost ⟨paths, oldReadable, newReadable, newWritten, oldWritten, key, member, oldRoot, root,
      inOld, inNew, gone⟩
    obtain ⟨found, old, new, migrated⟩ :=
      migrateRecentStateKeys_of_reaches ⟨paths, oldReadable, newReadable, root⟩
    rw [migrated] at lost
    have after := lost.present key member (.inl (by rwa [rootChild_of_root root]))
    rw [rootChild_old_writeBack root old, rootChild_new_writeBack root new] at after
    simp [newWritten, oldWritten, member, inNew, gone] at after
  · intro safe
    by_cases reached : ∃ oldRoot, reaches outcome oldPath newPath files oldRoot
    · obtain ⟨oldRoot, reached⟩ := reached
      obtain ⟨found, old, new, migrated⟩ := migrateRecentStateKeys_of_reaches reached
      obtain ⟨paths, oldReadable, newReadable, root⟩ := reached
      rw [migrated]
      have kept : NothingLost found (writeBack outcome files.old.tree files.new.tree found) :=
        writeBack_loses_nothing root old new
          fun newWritten oldWritten key member inOld inNew gone =>
            safe ⟨paths, oldReadable, newReadable, newWritten, oldWritten, key, member, oldRoot,
              root, inOld, inNew, gone⟩
      exact kept.congr_before old new
    · exact migrateRecentStateKeys_of_not_reaches (not_exists.mp reached)

/-- The new file cannot be written, the old one can: the API tokens are in neither. -/
theorem migration_drops_api_tokens :
    ¬ ∀ (outcome : MigrationOutcome) (oldPath newPath : String) (files : StateFilePair),
      NothingLost files (migrateRecentStateKeys outcome oldPath newPath files) := by
  intro claim
  have lost := claim { newWritten := false } "sunshine_state.json" "vibeshine_state.json"
    { old := .parsed (.node "" [("root", .node "" [("api_tokens",
        .node "" [("", .node "" [("hash", .node "a1" [])])])])])
      new := .absent }
  have held := lost.present "api_tokens" (by decide) (.inl rfl)
  rcases held with held | held <;> cases held

end UmbraHost.StateFiles
