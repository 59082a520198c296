import Mathlib.Data.Finset.Card
import Mathlib.Algebra.Group.Nat.Defs
import Mathlib.Algebra.Group.Int.Defs
import UmbraHost.Transition.Run

/-! # Shared objects

`safe::shared_t` of `thread_safe.h`: an element constructed in a buffer for the first reference
and destroyed with the last.  Handles are numbered; every operation is one section under the
lock, and what the construct callback returns is part of the event. -/

namespace UmbraHost.ThreadSafe

open UmbraHost.Transition

structure SharedObject where
  count : Nat := 0
  /-- The handles whose `owner` is the object. -/
  owners : Finset Nat := ∅
  constructions : Nat := 0
  destructions : Nat := 0
  constructed : Nat := 0
  destructed : Nat := 0

/-- A new handle is made by `ref`, `copy` or `move`; `succeeds` says what the construct callback
returns if it is called. -/
inductive HandleEvent where
  | ref (handle : Nat) (succeeds : Bool)
  | copy (target source : Nat) (succeeds : Bool)
  | move (target source : Nat)
  | moveAssign (target source : Nat)
  | release (handle : Nat)
deriving DecidableEq, Repr

namespace SharedObject

def countLimit : Nat := 2 ^ 32

/-- `ref`; the flag says whether the handle it returns owns the object. -/
def ref (succeeds : Bool) (shared : SharedObject) : Bool × SharedObject :=
  let counted (shared : SharedObject) : SharedObject :=
    { shared with count := (shared.count + 1) % countLimit }
  if shared.count = 0 then
    let built := { shared with constructions := shared.constructions + 1 }
    if succeeds then (true, counted { built with constructed := shared.constructed + 1 })
    else (false, built)
  else (true, counted shared)

/-- `release` of a handle that owns the object. -/
def release (handle : Nat) (shared : SharedObject) : SharedObject :=
  let count := (shared.count + (countLimit - 1)) % countLimit
  let last := if count = 0 then 1 else 0
  { shared with
    count
    owners := shared.owners.erase handle
    destructed := shared.destructed + last
    destructions := shared.destructions + last }

def own (handle : Nat) (result : Bool × SharedObject) : SharedObject :=
  if result.1 then { result.2 with owners := insert handle result.2.owners } else result.2

/-- The owner of one handle becomes that of another. -/
def move (target source : Nat) (shared : SharedObject) : SharedObject :=
  if source ∈ shared.owners then
    { shared with owners := insert target (shared.owners.erase source) }
  else shared

def step : HandleEvent → SharedObject → SharedObject
  | .ref handle succeeds, shared =>
      if handle ∈ shared.owners then shared else own handle (shared.ref succeeds)
  | .copy target source succeeds, shared =>
      if target ∈ shared.owners ∨ source ∉ shared.owners then shared
      else own target (shared.ref succeeds)
  | .move target source, shared =>
      if target ∈ shared.owners then shared else shared.move target source
  | .moveAssign target source, shared =>
      (if target ∈ shared.owners then shared.release target else shared).move target source
  | .release handle, shared =>
      if handle ∈ shared.owners then shared.release handle else shared

/-- One element is alive exactly while there are references to it. -/
structure Balanced (shared : SharedObject) : Prop where
  counted : shared.count = shared.owners.card
  elements : shared.constructions = shared.destructions + if 0 < shared.count then 1 else 0
  callbacks : shared.constructed = shared.destructed + if 0 < shared.count then 1 else 0

/-- A first reference constructs the object, and no reference overflows the count. -/
def Sound : HandleEvent → SharedObject → Prop
  | .ref handle succeeds, shared => handle ∉ shared.owners →
      (shared.count = 0 → succeeds = true) ∧ shared.count + 1 < countLimit
  | .copy target source _, shared => target ∉ shared.owners → source ∈ shared.owners →
      shared.count + 1 < countLimit
  | _, _ => True

variable {shared : SharedObject}

theorem countLimit_pos : 0 < countLimit := Nat.two_pow_pos 32

theorem balanced_own_ref_iff (balanced : shared.Balanced) (small : shared.count < countLimit)
    {handle : Nat} (fresh : handle ∉ shared.owners) (succeeds : Bool) :
    (own handle (shared.ref succeeds)).Balanced ↔
      (shared.count = 0 → succeeds = true) ∧ shared.count + 1 < countLimit := by
  obtain ⟨counted, elements, callbacks⟩ := balanced
  by_cases first : shared.count = 0
  · cases succeeds with
    | false =>
        -- the element is left in the buffer
        refine iff_of_false (fun after => ?_) (fun sound => nomatch sound.1 first)
        have more := after.elements
        simp only [own, ref, first, if_true, Bool.false_eq_true, if_false, Nat.lt_irrefl] at more
        simp only [first, Nat.lt_irrefl, if_false] at elements
        omega
    | true =>
        refine iff_of_true ?_ ⟨fun _ => rfl, by rw [first]; decide⟩
        have none : shared.owners.card = 0 := counted.symm.trans first
        simp only [first, Nat.lt_irrefl, if_false] at elements callbacks
        constructor
        · simp [own, ref, first, fresh, none, countLimit]
        · simp [own, ref, first, elements, countLimit]
        · simp [own, ref, first, callbacks, countLimit]
  · have positive : 0 < shared.count := Nat.pos_of_ne_zero first
    have referred : own handle (shared.ref succeeds) =
        { shared with
          count := (shared.count + 1) % countLimit, owners := insert handle shared.owners } := by
      unfold ref
      rw [if_neg first]
      rfl
    rw [referred]
    simp only [positive, if_true] at elements callbacks
    have more : (insert handle shared.owners).card = shared.count + 1 := by
      rw [Finset.card_insert_of_notMem fresh, counted]
    constructor
    · intro after
      refine ⟨fun zero => absurd zero first, Nat.lt_of_le_of_ne small fun wraps => ?_⟩
      have count := after.counted
      rw [more, wraps, Nat.mod_self] at count
      exact Nat.ne_of_lt countLimit_pos count
    · intro ⟨_, room⟩
      have next : (shared.count + 1) % countLimit = shared.count + 1 := Nat.mod_eq_of_lt room
      constructor
      · exact next.trans more.symm
      · simp [next, elements]
      · simp [next, callbacks]

theorem Balanced.release (balanced : shared.Balanced) (small : shared.count < countLimit)
    {handle : Nat} (owns : handle ∈ shared.owners) : (shared.release handle).Balanced := by
  obtain ⟨counted, elements, callbacks⟩ := balanced
  have positive : 0 < shared.count := by
    rw [counted]
    exact Finset.card_pos.mpr ⟨handle, owns⟩
  have less : (shared.count + (countLimit - 1)) % countLimit = shared.count - 1 := by
    unfold countLimit at small ⊢
    omega
  simp only [positive, if_true] at elements callbacks
  -- the element goes with the last reference
  have lasts : (if shared.count - 1 = 0 then 1 else 0) + (if 0 < shared.count - 1 then 1 else 0) =
      1 := by
    split <;> split <;> omega
  constructor
  · refine less.trans ?_
    rw [counted]
    exact (Finset.card_erase_of_mem owns).symm
  · simp only [SharedObject.release, less, elements, Nat.add_assoc, lasts]
  · simp only [SharedObject.release, less, callbacks, Nat.add_assoc, lasts]

theorem Balanced.move (balanced : shared.Balanced) {target source : Nat}
    (fresh : target ∉ shared.owners.erase source) : (shared.move target source).Balanced := by
  unfold SharedObject.move
  split
  · next owns =>
      refine { balanced with counted := ?_ }
      rw [Finset.card_insert_of_notMem fresh, Finset.card_erase_of_mem owns, ← balanced.counted]
      have positive : 0 < shared.owners.card := Finset.card_pos.mpr ⟨source, owns⟩
      exact (Nat.sub_add_cancel (balanced.counted ▸ positive)).symm
  · exact balanced

theorem count_release_lt (handle : Nat) : (shared.release handle).count < countLimit :=
  Nat.mod_lt _ countLimit_pos

theorem count_move (target source : Nat) : (shared.move target source).count = shared.count := by
  unfold move
  split <;> rfl

theorem count_own_ref_lt (small : shared.count < countLimit) (handle : Nat) (succeeds : Bool) :
    (own handle (shared.ref succeeds)).count < countLimit := by
  unfold own ref
  split <;> dsimp only <;> split <;> try split
  all_goals first | exact small | exact Nat.mod_lt _ countLimit_pos

theorem count_step_lt (event : HandleEvent) (shared : SharedObject)
    (small : shared.count < countLimit) : (step event shared).count < countLimit := by
  cases event with
  | ref handle succeeds =>
      simp only [step]
      split
      · exact small
      · exact count_own_ref_lt small handle succeeds
  | copy target source succeeds =>
      simp only [step]
      split
      · exact small
      · exact count_own_ref_lt small target succeeds
  | move target source =>
      simp only [step]
      split
      · exact small
      · rwa [count_move]
  | moveAssign target source =>
      simp only [step]
      rw [count_move]
      split
      · exact count_release_lt target
      · exact small
  | release handle =>
      simp only [step]
      split
      · exact count_release_lt handle
      · exact small

theorem balanced_step_iff (event : HandleEvent) (shared : SharedObject)
    (small : shared.count < countLimit) (balanced : shared.Balanced) :
    (step event shared).Balanced ↔ Sound event shared := by
  cases event with
  | ref handle succeeds =>
      by_cases owns : handle ∈ shared.owners
      · simpa [step, Sound, owns] using balanced
      · simpa [step, Sound, owns] using balanced_own_ref_iff balanced small owns succeeds
  | copy target source succeeds =>
      by_cases free : target ∉ shared.owners ∧ source ∈ shared.owners
      · have some : shared.count ≠ 0 := by
          rw [balanced.counted]
          exact Finset.card_ne_zero.mpr ⟨source, free.2⟩
        simpa [step, Sound, free.1, free.2, some] using
          balanced_own_ref_iff balanced small free.1 succeeds
      · have skipped : target ∈ shared.owners ∨ source ∉ shared.owners := by
          by_contra both
          exact free (by simpa using both)
        simp only [step, if_pos skipped]
        refine iff_of_true balanced fun fresh owns => ?_
        exact absurd ⟨fresh, owns⟩ free
  | move target source =>
      refine iff_of_true ?_ trivial
      simp only [step]
      split
      · exact balanced
      · next fresh => exact balanced.move fun member => fresh (Finset.mem_of_mem_erase member)
  | moveAssign target source =>
      refine iff_of_true ?_ trivial
      simp only [step]
      split
      · next owns =>
          apply (balanced.release small owns).move
          intro member
          exact Finset.notMem_erase target shared.owners (Finset.mem_of_mem_erase member)
      · next fresh => exact balanced.move fun member => fresh (Finset.mem_of_mem_erase member)
  | release handle =>
      refine iff_of_true ?_ trivial
      simp only [step]
      split
      · next owns => exact balanced.release small owns
      · exact balanced

/-- The element is balanced all along if and only if no construct callback fails. -/
theorem balanced_iff (events : List HandleEvent) :
    (∀ past, past <+: events → (run step past {}).Balanced) ↔ Meets step Sound events {} :=
  reached_iff_meets step (fun shared => shared.count < countLimit) Balanced count_step_lt
    balanced_step_iff events countLimit_pos ⟨rfl, rfl, rfl⟩

/-- The first start fails, and the next one constructs in the same buffer. -/
theorem failedStart_unbalanced :
    ¬ ∀ past, past <+: [HandleEvent.ref 0 false, .ref 1 true] →
      (run step past ({} : SharedObject)).Balanced := by
  intro all
  have elements := (all _ (List.prefix_refl _)).elements
  exact absurd elements (by decide)

end SharedObject

end UmbraHost.ThreadSafe
