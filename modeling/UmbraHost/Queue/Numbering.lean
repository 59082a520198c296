import Mathlib.Data.List.Chain
import Mathlib.Data.Nat.ModEq

/-! # Numbers handed out modulo a bound

Items carry numbers from a counter that wraps around.  A segment of items takes its
numbers from a snapshot of the counter, and the counter is advanced past the segment or
is left where it was. -/

namespace UmbraHost.Numbering

variable {α : Type u} (modulus : Nat) (number : α → Nat)

/-- The items count on from a value. -/
def NumberedFrom (first : Nat) (items : List α) : Prop :=
  ∀ i item, items[i]? = some item → number item = (first + i) % modulus

def Consecutive (items : List α) : Prop :=
  items.IsChain fun item next => number next = (number item + 1) % modulus

/-- No number is taken twice by items that are closer than the bound. -/
def DistinctWithin (items : List α) : Prop :=
  ∀ i distance item later, 0 < distance → distance < modulus → items[i]? = some item →
    items[i + distance]? = some later → number item ≠ number later

variable {modulus number} {first second : Nat} {item : α} {items rest : List α}

theorem numberedFrom_nil : NumberedFrom modulus number first [] := by
  intro i item found
  rw [List.getElem?_nil] at found
  cases found

theorem numberedFrom_cons :
    NumberedFrom modulus number first (item :: rest) ↔
      number item = first % modulus ∧ NumberedFrom modulus number (first + 1) rest := by
  constructor
  · intro numbered
    refine ⟨numbered 0 item rfl, ?_⟩
    intro i later found
    rw [numbered (i + 1) later found, Nat.add_right_comm, Nat.add_assoc]
  · rintro ⟨here, later⟩ i other found
    cases i with
    | zero =>
        obtain rfl := Option.some.inj found
        exact here
    | succ i => rw [later i other found, Nat.add_right_comm, Nat.add_assoc]

theorem numberedFrom_append :
    NumberedFrom modulus number first (items ++ rest) ↔
      NumberedFrom modulus number first items ∧
        NumberedFrom modulus number (first + items.length) rest := by
  induction items generalizing first with
  | nil => exact ⟨fun numbered => ⟨numberedFrom_nil, numbered⟩, And.right⟩
  | cons item items ih =>
      rw [List.cons_append, numberedFrom_cons, numberedFrom_cons, ih, List.length_cons,
        Nat.add_right_comm first, Nat.add_assoc first, and_assoc]

theorem NumberedFrom.take (numbered : NumberedFrom modulus number first items) (count : Nat) :
    NumberedFrom modulus number first (items.take count) := by
  rw [← List.take_append_drop count items, numberedFrom_append] at numbered
  exact numbered.1

theorem NumberedFrom.congr (numbered : NumberedFrom modulus number first items)
    (same : first ≡ second [MOD modulus]) : NumberedFrom modulus number second items := by
  intro i item found
  rw [numbered i item found]
  exact same.add_right i

/-- Counted from a value, the items are consecutive. -/
theorem NumberedFrom.consecutive (numbered : NumberedFrom modulus number first items) :
    Consecutive modulus number items := by
  induction items generalizing first with
  | nil => exact .nil
  | cons item rest ih =>
      obtain ⟨here, later⟩ := numberedFrom_cons.mp numbered
      apply List.isChain_cons.mpr
      refine ⟨?_, ih later⟩
      intro next found
      rw [List.head?_eq_getElem?] at found
      rw [later 0 next found, here, Nat.mod_add_mod, Nat.add_zero]

theorem Consecutive.numberedFrom (consecutive : Consecutive modulus number (item :: rest))
    (bounded : number item < modulus) :
    NumberedFrom modulus number (number item) (item :: rest) := by
  induction rest generalizing item with
  | nil => exact numberedFrom_cons.mpr ⟨(Nat.mod_eq_of_lt bounded).symm, numberedFrom_nil⟩
  | cons next rest ih =>
      obtain ⟨step, later⟩ := List.isChain_cons_cons.mp consecutive
      have positive : 0 < modulus := Nat.zero_lt_of_lt bounded
      have numbered := ih later (by rw [step]; exact Nat.mod_lt _ positive)
      rw [step] at numbered
      refine numberedFrom_cons.mpr ⟨(Nat.mod_eq_of_lt bounded).symm, numbered.congr ?_⟩
      exact Nat.mod_modEq _ _

theorem Consecutive.distinctWithin (consecutive : Consecutive modulus number items)
    (bounded : ∀ item ∈ items, number item < modulus) :
    DistinctWithin modulus number items := by
  cases items with
  | nil =>
      intro i distance item later positive close found
      cases found
  | cons start rest =>
      have numbered := consecutive.numberedFrom (bounded start List.mem_cons_self)
      intro i distance item later positive close found found' same
      rw [numbered i item found, numbered (i + distance) later found', ← Nat.add_assoc] at same
      have nearer : 0 ≡ distance [MOD modulus] :=
        Nat.ModEq.add_left_cancel' (number start + i) same
      have zero := nearer.symm
      rw [Nat.modEq_zero_iff_dvd] at zero
      exact absurd (Nat.le_of_dvd positive zero) (Nat.not_le.mpr close)

/-! ## Segments -/

structure Segment (α : Type u) where
  items : List α
  /-- The counter was advanced past the segment. -/
  counted : Bool

/-- Each segment counts on from the counter that the ones before it left. -/
def Snapshots (modulus : Nat) (number : α → Nat) : Nat → List (Segment α) → Prop
  | _, [] => True
  | first, segment :: rest => NumberedFrom modulus number first segment.items ∧
      ∃ next, next ≡ first + (if segment.counted then segment.items.length else 0) [MOD modulus] ∧
        Snapshots modulus number next rest

/-- No item follows a segment that the counter misses, unless the miss is a whole turn. -/
def NothingAfterMiss (modulus : Nat) (segments : List (Segment α)) : Prop :=
  ∀ earlier segment later, segments = earlier ++ segment :: later → segment.counted = false →
    modulus ∣ segment.items.length ∨ ∀ other ∈ later, other.items = []

variable {segment : Segment α} {segments : List (Segment α)}

theorem nothingAfterMiss_cons :
    NothingAfterMiss modulus (segment :: segments) ↔
      (segment.counted = false →
        modulus ∣ segment.items.length ∨ ∀ other ∈ segments, other.items = []) ∧
        NothingAfterMiss modulus segments := by
  constructor
  · intro none
    refine ⟨none [] segment segments rfl, ?_⟩
    rintro earlier missed later rfl
    exact none (segment :: earlier) missed later rfl
  · rintro ⟨here, none⟩ earlier missed later split
    cases earlier with
    | nil =>
        obtain ⟨rfl, rfl⟩ := List.cons.inj split
        exact here
    | cons _ earlier =>
        obtain ⟨rfl, rfl⟩ := List.cons.inj split
        exact none earlier missed later rfl

theorem flatMap_items_eq_nil :
    segments.flatMap Segment.items = [] ↔ ∀ other ∈ segments, other.items = [] :=
  List.flatMap_eq_nil_iff

/-- The first item behind empty segments still counts on from the snapshot. -/
theorem Snapshots.number_head (numbered : Snapshots modulus number first segments)
    (start : (segments.flatMap Segment.items).head? = some item) :
    number item = first % modulus := by
  induction segments generalizing first with
  | nil => cases start
  | cons segment rest ih =>
      obtain ⟨here, next, follows, later⟩ := numbered
      rw [List.flatMap_cons] at start
      cases empty : segment.items with
      | nil =>
          rw [empty, List.nil_append] at start
          rw [empty, List.length_nil, ite_self] at follows
          rw [ih later start]
          exact follows
      | cons front behind =>
          rw [empty] at start here
          obtain rfl := Option.some.inj start
          exact (numberedFrom_cons.mp here).1

theorem Snapshots.numberedFrom (numbered : Snapshots modulus number first segments)
    (none : NothingAfterMiss modulus segments) :
    NumberedFrom modulus number first (segments.flatMap Segment.items) := by
  induction segments generalizing first with
  | nil => exact numberedFrom_nil
  | cons segment rest ih =>
      obtain ⟨here, next, follows, later⟩ := numbered
      obtain ⟨missed, none⟩ := nothingAfterMiss_cons.mp none
      rw [List.flatMap_cons, numberedFrom_append]
      refine ⟨here, ?_⟩
      cases counted : segment.counted with
      | true =>
          rw [if_pos counted] at follows
          exact (ih later none).congr follows
      | false =>
          rw [if_neg (by rw [counted]; decide)] at follows
          rcases missed counted with turn | empty
          · apply (ih later none).congr
            exact follows.trans (Nat.ModEq.add_left first (Nat.modEq_zero_iff_dvd.mpr turn).symm)
          · rw [flatMap_items_eq_nil.mpr empty]
            exact numberedFrom_nil

/-- The numbers are consecutive exactly when no item follows a miss. -/
theorem Snapshots.consecutive_iff (numbered : Snapshots modulus number first segments) :
    Consecutive modulus number (segments.flatMap Segment.items) ↔
      NothingAfterMiss modulus segments := by
  constructor
  case mpr =>
    intro none
    exact (numbered.numberedFrom none).consecutive
  intro consecutive
  induction segments generalizing first with
  | nil =>
      intro earlier segment later split
      cases earlier <;> cases split
  | cons segment rest ih =>
      obtain ⟨here, next, follows, later⟩ := numbered
      rw [List.flatMap_cons] at consecutive
      obtain ⟨-, behind, between⟩ := List.isChain_append.mp consecutive
      refine nothingAfterMiss_cons.mpr ⟨?_, ih later behind⟩
      intro missed
      rw [if_neg (by rw [missed]; decide)] at follows
      cases some : (rest.flatMap Segment.items).head? with
      | none => exact .inr (flatMap_items_eq_nil.mp (List.head?_eq_none_iff.mp some))
      | some start =>
          left
          have number_start := later.number_head some
          rw [follows] at number_start
          cases final : segment.items.getLast? with
          | none => simp [List.getLast?_eq_none_iff.mp final]
          | some last =>
              have step := between last final start some
              rw [List.getLast?_eq_getElem?] at final
              have positive : 0 < segment.items.length := by
                apply List.length_pos_iff.mpr
                rintro empty
                rw [empty] at final
                cases final
              rw [here _ last final, number_start, Nat.add_zero, Nat.mod_add_mod, Nat.add_assoc,
                Nat.sub_add_cancel positive] at step
              have aligned : first + 0 ≡ first + segment.items.length [MOD modulus] := step
              exact Nat.modEq_zero_iff_dvd.mp (Nat.ModEq.add_left_cancel' first aligned).symm

end UmbraHost.Numbering
