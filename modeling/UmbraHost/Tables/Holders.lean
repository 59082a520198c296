import Mathlib.Logic.Function.Basic

/-! # Ids and their holders

A pool marks the ids that are given out.  Each holder has at most one, and every id that is
marked is held by exactly one of them. -/

namespace UmbraHost.Tables

variable {Holder : Type u} {Id : Type v}

structure Exclusive (marked : Id → Bool) (held : Holder → Option Id) : Prop where
  marked_of_held : ∀ holder id, held holder = some id → marked id = true
  one_holder : ∀ id, marked id = true → ∃! holder, held holder = some id

theorem exclusive_none : Exclusive (fun _ : Id => false) (fun _ : Holder => none) where
  marked_of_held := nofun
  one_holder := nofun

namespace Exclusive

variable {marked : Id → Bool} {held : Holder → Option Id} {holder giver taker : Holder} {id : Id}

theorem unique (exclusive : Exclusive marked held) (first : held giver = some id)
    (second : held taker = some id) : giver = taker :=
  (exclusive.one_holder id (exclusive.marked_of_held giver id first)).unique first second

variable [DecidableEq Holder]

/-- An id that is not marked is given to a holder that has none. -/
theorem take [DecidableEq Id] (exclusive : Exclusive marked held) (free : marked id = false)
    (idle : held holder = none) :
    Exclusive (Function.update marked id true) (Function.update held holder (some id)) := by
  have elsewhere : ∀ other, held other ≠ some id := by
    intro other holds
    rw [exclusive.marked_of_held other id holds] at free
    cases free
  constructor
  · intro other given holds
    by_cases same : given = id
    · rw [same, Function.update_self]
    · rw [Function.update_of_ne same]
      by_cases here : other = holder
      · rw [here, Function.update_self] at holds
        exact absurd (Option.some.inj holds).symm same
      · rw [Function.update_of_ne here] at holds
        exact exclusive.marked_of_held other given holds
  · intro given isMarked
    by_cases same : given = id
    · subst same
      refine ⟨holder, Function.update_self .., ?_⟩
      intro other holds
      by_contra apart
      rw [Function.update_of_ne apart] at holds
      exact elsewhere other holds
    · rw [Function.update_of_ne same] at isMarked
      obtain ⟨owner, holds, only⟩ := exclusive.one_holder given isMarked
      have apart : owner ≠ holder := by
        intro here
        rw [here, idle] at holds
        cases holds
      refine ⟨owner, (Function.update_of_ne apart ..).trans holds, ?_⟩
      intro other holds
      by_cases here : other = holder
      · rw [here, Function.update_self] at holds
        exact absurd (Option.some.inj holds).symm same
      · rw [Function.update_of_ne here] at holds
        exact only other holds

theorem drop [DecidableEq Id] (exclusive : Exclusive marked held)
    (holds : held holder = some id) :
    Exclusive (Function.update marked id false) (Function.update held holder none) := by
  have still : ∀ other given, Function.update held holder none other = some given →
      held other = some given ∧ given ≠ id := by
    intro other given later
    have apart : other ≠ holder := by
      intro here
      rw [here, Function.update_self] at later
      cases later
    rw [Function.update_of_ne apart] at later
    refine ⟨later, fun same => apart ?_⟩
    exact exclusive.unique (same ▸ later) holds
  constructor
  · intro other given later
    obtain ⟨earlier, same⟩ := still other given later
    rw [Function.update_of_ne same]
    exact exclusive.marked_of_held other given earlier
  · intro given isMarked
    have same : given ≠ id := by
      intro same
      rw [same, Function.update_self] at isMarked
      cases isMarked
    rw [Function.update_of_ne same] at isMarked
    obtain ⟨owner, owns, only⟩ := exclusive.one_holder given isMarked
    have apart : owner ≠ holder := by
      intro here
      rw [here] at owns
      exact same (Option.some.inj (owns.symm.trans holds))
    refine ⟨owner, (Function.update_of_ne apart ..).trans owns, ?_⟩
    intro other later
    exact only other (still other given later).1

/-- An id changes hands. -/
theorem hand (exclusive : Exclusive marked held) (holds : held giver = some id)
    (idle : held taker = none) :
    Exclusive marked (Function.update (Function.update held giver none) taker (some id)) := by
  have apart : taker ≠ giver := by
    intro same
    rw [same, holds] at idle
    cases idle
  have cases : ∀ other given,
      Function.update (Function.update held giver none) taker (some id) other = some given →
        other = taker ∧ given = id ∨ other ≠ taker ∧ other ≠ giver ∧ held other = some given := by
    intro other given later
    by_cases took : other = taker
    · rw [took, Function.update_self] at later
      exact .inl ⟨took, (Option.some.inj later).symm⟩
    · rw [Function.update_of_ne took] at later
      by_cases gave : other = giver
      · rw [gave, Function.update_self] at later
        cases later
      · rw [Function.update_of_ne gave] at later
        exact .inr ⟨took, gave, later⟩
  constructor
  · intro other given later
    rcases cases other given later with ⟨_, same⟩ | ⟨_, _, earlier⟩
    · rw [same]
      exact exclusive.marked_of_held giver id holds
    · exact exclusive.marked_of_held other given earlier
  · intro given isMarked
    obtain ⟨owner, owns, only⟩ := exclusive.one_holder given isMarked
    by_cases gave : owner = giver
    · rw [gave] at owns
      obtain rfl : id = given := Option.some.inj (holds.symm.trans owns)
      refine ⟨taker, Function.update_self .., ?_⟩
      intro other later
      rcases cases other id later with ⟨here, _⟩ | ⟨_, away, earlier⟩
      · exact here
      · exact absurd (exclusive.unique earlier holds) away
    · have took : owner ≠ taker := by
        intro same
        rw [same, idle] at owns
        cases owns
      refine ⟨owner, ?_, ?_⟩
      · change Function.update (Function.update held giver none) taker (some id) owner = some given
        rw [Function.update_of_ne took, Function.update_of_ne gave]
        exact owns
      · intro other later
        rcases cases other given later with ⟨_, same⟩ | ⟨_, _, earlier⟩
        · rw [same] at owns
          exact absurd (exclusive.unique owns holds) gave
        · exact only other earlier

end Exclusive

end UmbraHost.Tables
