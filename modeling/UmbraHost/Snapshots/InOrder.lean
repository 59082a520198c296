import Mathlib.Data.List.Basic

/-! # Snapshots written in order

Threads that take numbered snapshots of one value and later write them to one
file.  If no snapshot is written behind a later one, the file has the value once
nobody holds a snapshot any more and the value has not changed since the last
one. -/

namespace UmbraHost.Snapshots

variable {Snapshot : Type u} {Thread : Type v}

/-- The value and the file, with the numbers of the last snapshot taken and of the
last one written. -/
structure View (Snapshot : Type u) where
  value : Snapshot
  file : Snapshot
  taken : Nat
  written : Nat

/-- The snapshots that threads hold. -/
def heldBy (held : Thread → Option (Nat × Snapshot)) (threads : List Thread) :
    Set (Nat × Snapshot) :=
  {snapshot | ∃ thread ∈ threads, held thread = some snapshot}

/-- What one turn of a thread does.  `changed` says that the value has changed since
the last snapshot. -/
inductive Turn (held : Thread → Option (Nat × Snapshot)) (thread next : Thread)
    (view view' : View Snapshot) (changed changed' : Prop) : Prop where
  | keep (empty : held thread = none) (empty' : held next = none) (same : view' = view)
      (kept : changed → changed')
  | change (empty : held thread = none) (empty' : held next = none) (marked : changed')
      (taken : view'.taken = view.taken)
  | take (empty : held thread = none) (holds : held next = some (view.taken + 1, view.value))
      (taken : view' = { view with taken := view.taken + 1 })
  | write (number : Nat) (snapshot : Snapshot) (holds : held thread = some (number, snapshot))
      (empty' : held next = none)
      (written : view' = { view with file := snapshot, written := number })
      (kept : changed → changed')

/-- Numbers do not go beyond the last one taken and stand for one snapshot each. -/
structure Coherent (held : Set (Nat × Snapshot)) (taken : Nat) : Prop where
  bounded : ∀ snapshot ∈ held, snapshot.1 ≤ taken
  functional : ∀ number first second, (number, first) ∈ held → (number, second) ∈ held →
    first = second

/-- The value has changed since the last snapshot, or the last snapshot has it and is
held or in the file. -/
def UpToDate (held : Set (Nat × Snapshot)) (view : View Snapshot) (changed : Prop) : Prop :=
  changed ∨ (view.taken, view.value) ∈ held ∨
    view.written = view.taken ∧ view.file = view.value

variable {held : Thread → Option (Nat × Snapshot)} {threads : List Thread} {index : Nat}
  {thread next : Thread} {view view' : View Snapshot} {changed changed' : Prop}

/-! ## Threads -/

theorem mem_set_of_ne {other : Thread} (here : threads[index]? = some thread)
    (member : other ∈ threads) (different : other ≠ thread) : other ∈ threads.set index next := by
  obtain ⟨position, there⟩ := List.mem_iff_getElem?.mp member
  refine List.mem_iff_getElem?.mpr ⟨position, ?_⟩
  have elsewhere : index ≠ position := by
    rintro rfl
    rw [here] at there
    exact different (Option.some_inj.mp there).symm
  rw [List.getElem?_set_ne elsewhere]
  exact there

theorem heldBy_set_subset (snapshot : Nat × Snapshot)
    (member : snapshot ∈ heldBy held (threads.set index next)) :
    held next = some snapshot ∨ snapshot ∈ heldBy held threads := by
  obtain ⟨other, present, holds⟩ := member
  rcases List.mem_or_eq_of_mem_set present with old | rfl
  · exact .inr ⟨other, old, holds⟩
  · exact .inl holds

theorem heldBy_set_superset (here : threads[index]? = some thread) (snapshot : Nat × Snapshot)
    (member : snapshot ∈ heldBy held threads) (different : held thread ≠ some snapshot) :
    snapshot ∈ heldBy held (threads.set index next) := by
  obtain ⟨other, present, holds⟩ := member
  refine ⟨other, mem_set_of_ne here present ?_, holds⟩
  rintro rfl
  exact different holds

theorem mem_heldBy_set (here : threads[index]? = some thread) {snapshot : Nat × Snapshot}
    (holds : held next = some snapshot) : snapshot ∈ heldBy held (threads.set index next) := by
  refine ⟨next, ?_, holds⟩
  obtain ⟨inside, -⟩ := List.getElem?_eq_some_iff.mp here
  exact List.mem_set inside next

theorem heldBy_append_singleton (empty : held thread = none) :
    heldBy held (threads ++ [thread]) = heldBy held threads := by
  ext snapshot
  constructor
  · rintro ⟨other, present, holds⟩
    rcases List.mem_append.mp present with old | new
    · exact ⟨other, old, holds⟩
    · rw [List.mem_singleton.mp new, empty] at holds
      cases holds
  · rintro ⟨other, present, holds⟩
    exact ⟨other, List.mem_append_left _ present, holds⟩

/-! ## Turns -/

theorem Coherent.initial {taken : Nat} : Coherent (heldBy held []) taken where
  bounded := by
    rintro snapshot ⟨thread, present, holds⟩
    exact absurd present List.not_mem_nil
  functional := by
    rintro number first second ⟨thread, present, holds⟩
    exact absurd present List.not_mem_nil

theorem Coherent.mono {snapshots fewer : Set (Nat × Snapshot)} {taken : Nat}
    (coherent : Coherent snapshots taken) (subset : ∀ snapshot ∈ fewer, snapshot ∈ snapshots) :
    Coherent fewer taken :=
  ⟨fun snapshot member => coherent.bounded snapshot (subset snapshot member),
    fun number first second member member' =>
      coherent.functional number first second (subset _ member) (subset _ member')⟩

theorem Coherent.insert {snapshots more : Set (Nat × Snapshot)} {taken : Nat} (value : Snapshot)
    (coherent : Coherent snapshots taken)
    (subset : ∀ snapshot ∈ more, snapshot = (taken + 1, value) ∨ snapshot ∈ snapshots) :
    Coherent more (taken + 1) where
  bounded snapshot member := by
    rcases subset snapshot member with rfl | old
    · exact Nat.le_refl _
    · exact Nat.le_succ_of_le (coherent.bounded snapshot old)
  functional number first second member member' := by
    rcases subset _ member with new | old <;> rcases subset _ member' with new' | old'
    · exact (congrArg Prod.snd new).trans (congrArg Prod.snd new').symm
    · have bound := coherent.bounded _ old'
      rw [congrArg Prod.fst new] at bound
      exact absurd bound (Nat.not_succ_le_self _)
    · have bound := coherent.bounded _ old
      rw [congrArg Prod.fst new'] at bound
      exact absurd bound (Nat.not_succ_le_self _)
    · exact coherent.functional number first second old old'

theorem Turn.coherent (turn : Turn held thread next view view' changed changed')
    (coherent : Coherent (heldBy held threads) view.taken) :
    Coherent (heldBy held (threads.set index next)) view'.taken := by
  have old (empty' : held next = none) (snapshot : Nat × Snapshot)
      (member : snapshot ∈ heldBy held (threads.set index next)) :
      snapshot ∈ heldBy held threads := by
    rcases heldBy_set_subset snapshot member with new | old
    · rw [empty'] at new
      cases new
    · exact old
  cases turn with
  | keep empty empty' same kept =>
      rw [same]
      exact coherent.mono (old empty')
  | change empty empty' marked taken =>
      rw [taken]
      exact coherent.mono (old empty')
  | take empty holds taken =>
      rw [taken]
      refine coherent.insert view.value fun snapshot member => ?_
      rcases heldBy_set_subset snapshot member with new | old
      · rw [holds] at new
        exact .inl (Option.some_inj.mp new).symm
      · exact .inr old
  | write number snapshot holds empty' written kept =>
      rw [written]
      exact coherent.mono (old empty')

/-- A turn keeps the file up to date unless it writes behind a later snapshot. -/
theorem Turn.upToDate (turn : Turn held thread next view view' changed changed')
    (here : threads[index]? = some thread) (coherent : Coherent (heldBy held threads) view.taken)
    (inOrder : ∀ number snapshot, held thread = some (number, snapshot) → view.written < number)
    (upToDate : UpToDate (heldBy held threads) view changed) :
    UpToDate (heldBy held (threads.set index next)) view' changed' := by
  cases turn with
  | keep empty empty' same kept =>
      rw [same]
      rcases upToDate with pending | last | done
      · exact .inl (kept pending)
      · exact .inr (.inl (heldBy_set_superset here _ last (by rw [empty]; nofun)))
      · exact .inr (.inr done)
  | change empty empty' marked taken => exact .inl marked
  | take empty holds taken =>
      rw [taken]
      exact .inr (.inl (mem_heldBy_set here holds))
  | write number snapshot holds empty' written kept =>
      rw [written]
      rcases upToDate with pending | last | ⟨done, -⟩
      · exact .inl (kept pending)
      · by_cases same : held thread = some (view.taken, view.value)
        · rw [holds] at same
          cases same
          exact .inr (.inr ⟨rfl, rfl⟩)
        · exact .inr (.inl (heldBy_set_superset here _ last same))
      · have present : thread ∈ threads := List.mem_of_getElem? here
        have bound := coherent.bounded _ ⟨thread, present, holds⟩
        have later := inOrder number snapshot holds
        omega

/-- Nothing is held and nothing has changed. -/
theorem UpToDate.file_eq {snapshots : Set (Nat × Snapshot)}
    (upToDate : UpToDate snapshots view changed) (unchanged : ¬ changed)
    (empty : ∀ snapshot, snapshot ∉ snapshots) : view.file = view.value := by
  rcases upToDate with pending | last | ⟨-, same⟩
  · exact absurd pending unchanged
  · exact absurd last (empty _)
  · exact same

end UmbraHost.Snapshots
