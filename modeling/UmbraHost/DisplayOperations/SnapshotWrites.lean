import Mathlib.Logic.Function.Basic

/-! # Writing a snapshot file

`write_text_atomically` of `snapshot_codec.cpp`.  The text goes to a temporary
file first, which is renamed to an absent target and copied over a present one. -/

namespace UmbraHost.DisplayOperations

/-- The bytes of the files that are there. -/
abbrev Files := String → Option (List UInt8)

/-- How `copy_file` ends; the destination is emptied before the first byte. -/
inductive Copy where
  | complete
  | refused
  | interrupted (copied : Nat)
deriving DecidableEq

/-- The outcomes of the file operations. -/
structure FileOutcomes where
  opened : Bool := true
  /-- The count that `fwrite` returns. -/
  written : Nat
  /-- The bytes that the file has once it is closed; the code ignores `fclose`. -/
  flushed : Nat
  inspected : Bool := true
  renamed : Bool := true
  copy : Copy := .complete
  removed : Bool := true

def tempPath (path : String) : String := path ++ ".tmp"

namespace Files

def set (files : Files) (path : String) (content : Option (List UInt8)) : Files :=
  Function.update files path content

def removeIf (files : Files) (removed : Bool) (path : String) : Files :=
  if removed then files.set path none else files

end Files

/-- The target is taken to be absent, also when it cannot be inspected. -/
def targetAbsent (outcomes : FileOutcomes) (path : String) (files : Files) : Bool :=
  (files path).isNone || !outcomes.inspected

/-- The result of `copy_file`, and the files after it. -/
def copyFile (outcomes : FileOutcomes) (source : List UInt8) (path : String) (files : Files) :
    Bool × Files :=
  match outcomes.copy with
  | .complete => (true, files.set path (some source))
  | .refused => (false, files)
  | .interrupted copied => (false, files.set path (some (source.take copied)))

/-- The publication of the temporary file. -/
def publish (outcomes : FileOutcomes) (stored : List UInt8) (path : String) (files : Files) :
    Bool × Files :=
  if targetAbsent outcomes path files && outcomes.renamed then
    (true, (files.set (tempPath path) none).set path (some stored))
  else
    let copied := copyFile outcomes stored path files
    if copied.1 then (true, copied.2.removeIf outcomes.removed (tempPath path))
    else (false, copied.2)

def writeTextAtomically (outcomes : FileOutcomes) (text : List UInt8) (path : String)
    (files : Files) : Bool × Files :=
  if path = "" then (false, files)
  else if outcomes.opened = false then (false, files)
  else if outcomes.written < text.length then
    (false, (files.set (tempPath path) (some (text.take outcomes.written))).removeIf
      outcomes.removed (tempPath path))
  else
    let stored := text.take outcomes.flushed
    publish outcomes stored path (files.set (tempPath path) (some stored))

/-! ## What the target holds afterwards -/

/-- The target holds all of its old content or all of the text, and the text
when the write reports success. -/
def Atomic (text : List UInt8) (path : String) (files : Files) (result : Bool × Files) : Prop :=
  (result.2 path = files path ∨ result.2 path = some text) ∧
    (result.1 = true → result.2 path = some text)

/-- The write gets as far as publishing the temporary file. -/
def publishes (outcomes : FileOutcomes) (text : List UInt8) (path : String) : Prop :=
  path ≠ "" ∧ outcomes.opened = true ∧ text.length ≤ outcomes.written

/-- How the content of the temporary file arrives at the target. -/
def transfer (outcomes : FileOutcomes) (path : String) (files : Files) : Copy :=
  if targetAbsent outcomes path files && outcomes.renamed then .complete else outcomes.copy

/-- The temporary file has all of the text when it replaces the target, and a
copy that was interrupted had nothing left to write or had just rewritten the
old content. -/
def Undamaged (outcomes : FileOutcomes) (text : List UInt8) (path : String) (files : Files) :
    Prop :=
  match transfer outcomes path files with
  | .refused => True
  | .complete => text.length ≤ outcomes.flushed
  | .interrupted copied =>
      text.length ≤ min copied outcomes.flushed ∨
        files path = some (text.take (min copied outcomes.flushed))

theorem tempPath_ne (path : String) : tempPath path ≠ path := by
  intro same
  have lengths := congrArg String.length same
  simp [tempPath, String.length_append] at lengths

@[simp] theorem set_same (files : Files) (path : String) (content : Option (List UInt8)) :
    files.set path content path = content := by
  rw [Files.set, Function.update_self]

@[simp] theorem set_temp (files : Files) (path : String) (content : Option (List UInt8)) :
    files.set (tempPath path) content path = files path := by
  rw [Files.set, Function.update_of_ne (tempPath_ne path).symm]

@[simp] theorem removeIf_temp (files : Files) (removed : Bool) (path : String) :
    files.removeIf removed (tempPath path) path = files path := by
  unfold Files.removeIf
  split
  · exact set_temp files path none
  · rfl

theorem take_eq_self {text : List UInt8} {count : Nat} :
    text.take count = text ↔ text.length ≤ count := by
  constructor
  · intro whole
    have lengths := congrArg List.length whole
    rw [List.length_take] at lengths
    omega
  · exact List.take_of_length_le

/-- The target after the publication, by the way the content arrives. -/
theorem publish_target (outcomes : FileOutcomes) (stored : List UInt8) (path : String)
    (files : Files) :
    ((publish outcomes stored path files).1, (publish outcomes stored path files).2 path) =
      match transfer outcomes path files with
      | .complete => (true, some stored)
      | .refused => (false, files path)
      | .interrupted copied => (false, some (stored.take copied)) := by
  unfold publish transfer
  split
  · simp
  · cases way : outcomes.copy <;> simp [copyFile, way]

/-- A write that does not get to the publication leaves the target alone. -/
theorem atomic_of_not_publishes {outcomes : FileOutcomes} {text : List UInt8} {path : String}
    (files : Files) (stopped : ¬ publishes outcomes text path) :
    Atomic text path files (writeTextAtomically outcomes text path files) := by
  unfold writeTextAtomically
  split
  · exact ⟨.inl rfl, by simp⟩
  · next named =>
      split
      · exact ⟨.inl rfl, by simp⟩
      · next opened =>
          split
          · exact ⟨.inl (by simp), by simp⟩
          · next complete =>
              exact absurd ⟨named, by simpa using opened, by omega⟩ stopped

theorem writeTextAtomically_of_publishes {outcomes : FileOutcomes} {text : List UInt8}
    {path : String} (files : Files) (reached : publishes outcomes text path) :
    writeTextAtomically outcomes text path files =
      publish outcomes (text.take outcomes.flushed) path
        (files.set (tempPath path) (some (text.take outcomes.flushed))) := by
  obtain ⟨named, opened, complete⟩ := reached
  simp [writeTextAtomically, named, opened, Nat.not_lt.mpr complete]

/-- The write is atomic exactly when it stops before the publication or the
publication leaves nothing cut off. -/
theorem atomic_iff (outcomes : FileOutcomes) (text : List UInt8) (path : String) (files : Files) :
    Atomic text path files (writeTextAtomically outcomes text path files) ↔
      (publishes outcomes text path → Undamaged outcomes text path files) := by
  by_cases reached : publishes outcomes text path
  · rw [writeTextAtomically_of_publishes files reached]
    simp only [reached, forall_const]
    have target := publish_target outcomes (text.take outcomes.flushed) path
      (files.set (tempPath path) (some (text.take outcomes.flushed)))
    have way : transfer outcomes path
        (files.set (tempPath path) (some (text.take outcomes.flushed))) =
        transfer outcomes path files := by
      simp [transfer, targetAbsent]
    rw [way] at target
    unfold Atomic Undamaged
    cases arrival : transfer outcomes path files with
    | complete =>
        simp only [arrival, Prod.mk.injEq] at target
        rw [target.1, target.2]
        simp only [Option.some.injEq, take_eq_self, forall_const]
        exact ⟨And.right, fun whole => ⟨.inr whole, whole⟩⟩
    | refused =>
        simp only [arrival, Prod.mk.injEq, set_temp] at target
        rw [target.1, target.2]
        simp
    | interrupted copied =>
        simp only [arrival, Prod.mk.injEq, List.take_take] at target
        rw [target.1, target.2]
        simp only [Option.some.injEq, take_eq_self, Bool.false_eq_true, false_implies, and_true]
        rw [or_comm, @eq_comm _ (some _)]
  · simp only [reached, false_implies, iff_true]
    exact atomic_of_not_publishes files reached

/-- A full disk stops the copy over the old baseline after its first byte. -/
theorem interrupted_copy_loses_baseline :
    ¬ ∀ (outcomes : FileOutcomes) (text : List UInt8) (path : String) (files : Files),
      Atomic text path files (writeTextAtomically outcomes text path files) := by
  intro atomic
  have cut := atomic { written := 3, flushed := 3, copy := .interrupted 1 } [10, 11, 12] "current"
    (fun path => if path = "current" then some [1, 2] else none)
  revert cut
  simp only [Atomic]
  decide

end UmbraHost.DisplayOperations
