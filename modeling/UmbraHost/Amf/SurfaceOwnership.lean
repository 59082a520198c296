import UmbraHost.Amf.InputSurfaces

/-! # Who owns an input surface

A slot is in flight from the commit of an accepted submission to the release of its wrapper,
whichever of the two comes first.  An accepted wrapper that is not released keeps its slot from
being free, so no reservation can disturb it. -/

namespace UmbraHost.Amf.InputSurfaces

open UmbraHost.Transition

namespace Ring

variable {ring : Ring}

def inFlightSlots (slots : Nat → Slot) : Finset Nat :=
  (Finset.range inputSurfaceRingSize).filter fun index => (slots index).state = .inFlight

/-- An accepted wrapper whose release AMF has not reported. -/
def Outstanding (ring : Ring) (wrapper : Wrapper) : Prop :=
  wrapper ∈ ring.accepted ∧ wrapper ∈ ring.wrappers

/-- No wrapper was made in the current reservation of the slot. -/
def Unwrapped (ring : Ring) (index : Nat) : Prop :=
  (∀ wrapper, wrapper ∈ ring.wrappers ∨ wrapper ∈ ring.accepted → wrapper.slot = index →
    wrapper.generation < (ring.slots index).generation) ∧
      (ring.slots index).releaseNotified = false

structure Kept (ring : Ring) : Prop where
  active : 0 < ring.activeInputSurfaceCount ∧
    ring.activeInputSurfaceCount ≤ inputSurfaceRingSize
  next : ring.nextInputSurfaceSlot < ring.activeInputSurfaceCount
  lastRendered : ∀ index, ring.lastRenderedInputSurfaceSlot = some index →
    index < ring.activeInputSurfaceCount
  prepared : ∀ index, ring.preparedInputSurfaceSlot = some index →
    index < ring.activeInputSurfaceCount ∧ (ring.slots index).state = .reserved ∧
      ring.Unwrapped index ∧ ring.position = .idle
  held : ∀ index, ring.position.slot? = some index →
    index < ring.activeInputSurfaceCount ∧ (ring.slots index).state = .reserved
  holding : ∀ index, ring.position = .holding index → ring.Unwrapped index
  submitting : ∀ index, ring.position = .submitting index →
    (ring.wrapper index ∈ ring.wrappers → (ring.slots index).releaseNotified = false)
  spare : ∀ index, ring.activeInputSurfaceCount ≤ index → (ring.slots index).state = .free
  turns : ∀ index, (ring.slots index).generation =
    (ring.slots index).freed + if (ring.slots index).state = .free then 0 else 1
  counted : ring.inputSurfacesInFlight = (inFlightSlots ring.slots).card
  made : ∀ wrapper, wrapper ∈ ring.wrappers ∨ wrapper ∈ ring.accepted →
    wrapper.generation ≤ (ring.slots wrapper.slot).generation
  distinct : ring.wrappers.Nodup
  outstanding : ∀ wrapper, ring.Outstanding wrapper →
    wrapper.generation = (ring.slots wrapper.slot).generation ∧
      (ring.slots wrapper.slot).releaseNotified = false ∧
        ((ring.slots wrapper.slot).state = .inFlight ∨ ring.position = .accepted wrapper.slot)

/-! ## Counting -/

theorem inFlightSlots_update {slots : Nat → Slot} {index : Nat} {slot : Slot}
    (same : slot.state = .inFlight ↔ (slots index).state = .inFlight) :
    inFlightSlots (Function.update slots index slot) = inFlightSlots slots := by
  apply Finset.filter_congr
  intro other _
  by_cases here : other = index
  · rw [here, Function.update_self]
    exact same
  · rw [Function.update_of_ne here]

theorem card_inFlightSlots_enter {slots : Nat → Slot} {index : Nat} (slot : Slot)
    (inside : index < inputSurfaceRingSize) (before : (slots index).state ≠ .inFlight)
    (after : slot.state = .inFlight) :
    (inFlightSlots (Function.update slots index slot)).card = (inFlightSlots slots).card + 1 := by
  have entered : inFlightSlots (Function.update slots index slot) =
      insert index (inFlightSlots slots) := by
    ext other
    by_cases here : other = index
    · simp [inFlightSlots, here, inside, after]
    · simp [inFlightSlots, here]
  rw [entered, Finset.card_insert_of_notMem]
  simp [inFlightSlots, before]

theorem card_inFlightSlots_leave {slots : Nat → Slot} {index : Nat} (slot : Slot)
    (inside : index < inputSurfaceRingSize) (before : (slots index).state = .inFlight)
    (after : slot.state ≠ .inFlight) :
    (inFlightSlots (Function.update slots index slot)).card = (inFlightSlots slots).card - 1 := by
  have left : inFlightSlots (Function.update slots index slot) =
      (inFlightSlots slots).erase index := by
    ext other
    by_cases here : other = index
    · simp [inFlightSlots, here, after]
    · simp [inFlightSlots, here]
  rw [left, Finset.card_erase_of_mem]
  simp [inFlightSlots, inside, before]

/-! ## Updates of one slot -/

theorem Kept.spare_update (kept : ring.Kept) {index : Nat} {slot : Slot}
    (spare : ring.activeInputSurfaceCount ≤ index → slot.state = .free) (other : Nat)
    (beyond : ring.activeInputSurfaceCount ≤ other) :
    (Function.update ring.slots index slot other).state = .free := by
  by_cases same : other = index
  · rw [same, Function.update_self]
    exact spare (same ▸ beyond)
  · rw [Function.update_of_ne same]
    exact kept.spare other beyond

theorem Kept.turns_update (kept : ring.Kept) {index : Nat} {slot : Slot}
    (turns : slot.generation = slot.freed + if slot.state = .free then 0 else 1) (other : Nat) :
    (Function.update ring.slots index slot other).generation =
      (Function.update ring.slots index slot other).freed +
        if (Function.update ring.slots index slot other).state = .free then 0 else 1 := by
  by_cases same : other = index
  · rw [same, Function.update_self]
    exact turns
  · rw [Function.update_of_ne same]
    exact kept.turns other

theorem generation_update {index : Nat} {slot : Slot}
    (same : slot.generation = (ring.slots index).generation) (other : Nat) :
    (Function.update ring.slots index slot other).generation = (ring.slots other).generation := by
  by_cases here : other = index
  · rw [here, Function.update_self]
    exact same
  · rw [Function.update_of_ne here]

theorem Kept.made_update (kept : ring.Kept) {index : Nat} {slot : Slot}
    (same : slot.generation = (ring.slots index).generation) (wrapper : Wrapper)
    (made : wrapper ∈ ring.wrappers ∨ wrapper ∈ ring.accepted) :
    wrapper.generation ≤ (Function.update ring.slots index slot wrapper.slot).generation :=
  (kept.made wrapper made).trans_eq (generation_update same wrapper.slot).symm

/-! ## Reservations -/

/-- A free slot has no accepted wrapper that is not released. -/
theorem Kept.not_outstanding (kept : ring.Kept) {index : Nat}
    (free : (ring.slots index).state = .free) {wrapper : Wrapper} (there : wrapper.slot = index) :
    ¬ ring.Outstanding wrapper := by
  intro outstanding
  obtain ⟨_, _, owned⟩ := kept.outstanding wrapper outstanding
  rw [there] at owned
  rcases owned with inFlight | waits
  · rw [free] at inFlight
    cases inFlight
  · have reserved := (kept.held index (by rw [waits]; rfl)).2
    rw [free] at reserved
    cases reserved

/-- What a reservation leaves of the wrappers' side of the invariant. -/
theorem Kept.reserve (kept : ring.Kept) {index frameIndex : Nat}
    (free : (ring.slots index).state = .free) (inside : index < ring.activeInputSurfaceCount)
    (unheld : ring.position.slot? = none) {after : Ring}
    (slots : after.slots = (ring.reserve index frameIndex).slots)
    (active : after.activeInputSurfaceCount = ring.activeInputSurfaceCount)
    (next : after.nextInputSurfaceSlot = (index + 1) % ring.activeInputSurfaceCount)
    (inFlight : after.inputSurfacesInFlight = ring.inputSurfacesInFlight)
    (wrappers : after.wrappers = ring.wrappers) (accepted : after.accepted = ring.accepted)
    (turn : after.lastRenderedInputSurfaceSlot = ring.lastRenderedInputSurfaceSlot ∧
        after.preparedInputSurfaceSlot = some index ∧ after.position = .idle ∨
      after.lastRenderedInputSurfaceSlot = some index ∧
        after.preparedInputSurfaceSlot = none ∧ after.position = .holding index) :
    after.Kept := by
  have here : after.slots index = (ring.slots index).reserve frameIndex := by
    rw [slots]
    exact Function.update_self ..
  have elsewhere : ∀ other, other ≠ index → after.slots other = ring.slots other := by
    intro other apart
    rw [slots]
    exact Function.update_of_ne apart ..
  have unwrapped : after.Unwrapped index := by
    constructor
    · intro wrapper made there
      rw [wrappers, accepted] at made
      have bound := kept.made wrapper made
      rw [there] at bound
      rw [here]
      exact Nat.lt_succ_of_le bound
    · rw [here]
      rfl
  have reserved : (after.slots index).state = .reserved := by
    rw [here]
    rfl
  refine ⟨?_, ?_, ?_, ?_, ?_, ?_, ?_, ?_, ?_, ?_, ?_, ?_, ?_⟩
  · rw [active]
    exact kept.active
  · rw [next, active]
    exact Nat.mod_lt _ kept.active.1
  · intro other last
    rw [active]
    rcases turn with ⟨same, _, _⟩ | ⟨same, _, _⟩
    · exact kept.lastRendered other (same.symm.trans last)
    · obtain rfl := Option.some.inj (same.symm.trans last)
      exact inside
  · intro other prepared
    rw [active]
    rcases turn with ⟨_, same, idle⟩ | ⟨_, same, _⟩
    · obtain rfl := Option.some.inj (same.symm.trans prepared)
      exact ⟨inside, reserved, unwrapped, idle⟩
    · rw [same] at prepared
      cases prepared
  · intro other held
    rw [active]
    rcases turn with ⟨_, _, idle⟩ | ⟨_, _, holds⟩
    · rw [idle] at held
      cases held
    · rw [holds] at held
      obtain rfl := Option.some.inj held
      exact ⟨inside, reserved⟩
  · intro other holds
    rcases turn with ⟨_, _, idle⟩ | ⟨_, _, held⟩
    · rw [idle] at holds
      cases holds
    · rw [held] at holds
      cases holds
      exact unwrapped
  · intro other submits
    rcases turn with ⟨_, _, idle⟩ | ⟨_, _, held⟩
    · rw [idle] at submits
      cases submits
    · rw [held] at submits
      cases submits
  · intro other beyond
    rw [active] at beyond
    rw [elsewhere other (Nat.ne_of_gt (Nat.lt_of_lt_of_le inside beyond))]
    exact kept.spare other beyond
  · intro other
    by_cases same : other = index
    · rw [same, here]
      have turns := kept.turns index
      rw [free] at turns
      simp only [Slot.reserve, reduceCtorEq, if_false]
      simpa using turns
    · rw [elsewhere other same]
      exact kept.turns other
  · rw [inFlight, kept.counted, slots]
    exact congrArg Finset.card (inFlightSlots_update (by simp [Slot.reserve, free])).symm
  · intro wrapper made
    rw [wrappers, accepted] at made
    have bound := kept.made wrapper made
    by_cases same : wrapper.slot = index
    · rw [same, here]
      rw [same] at bound
      exact Nat.le_succ_of_le bound
    · rw [elsewhere _ same]
      exact bound
  · rw [wrappers]
    exact kept.distinct
  · intro wrapper outstanding
    have before : ring.Outstanding wrapper := by
      rw [Outstanding, ← accepted, ← wrappers]
      exact outstanding
    have apart : wrapper.slot ≠ index := fun same => kept.not_outstanding free same before
    rw [elsewhere _ apart]
    obtain ⟨current, unnotified, owned⟩ := kept.outstanding wrapper before
    refine ⟨current, unnotified, owned.elim .inl fun waits => ?_⟩
    rw [waits] at unheld
    cases unheld

/-- A position in which no reservation is held. -/
theorem Kept.move (kept : ring.Kept) {position : Position}
    (unheld : ring.position.slot? = none) (target : position.slot? = none)
    (idle : ∀ index, ring.preparedInputSurfaceSlot = some index → position = .idle) :
    Kept { ring with position } := by
  refine { kept with
    prepared := ?_, held := ?_, holding := ?_, submitting := ?_, outstanding := ?_ }
  · intro index prepared
    obtain ⟨inside, reserved, unwrapped, _⟩ := kept.prepared index prepared
    exact ⟨inside, reserved, unwrapped, idle index prepared⟩
  · intro index held
    rw [target] at held
    cases held
  · intro index holds
    change position = _ at holds
    rw [holds] at target
    cases target
  · intro index submits
    change position = _ at submits
    rw [submits] at target
    cases target
  · intro wrapper outstanding
    obtain ⟨current, unnotified, owned⟩ := kept.outstanding wrapper outstanding
    refine ⟨current, unnotified, owned.elim .inl fun waits => ?_⟩
    rw [waits] at unheld
    cases unheld

theorem Kept.grow (kept : ring.Kept)
    (room : ring.activeInputSurfaceCount < inputSurfaceRingSize) :
    Kept { ring with activeInputSurfaceCount := ring.activeInputSurfaceCount + 1 } := by
  refine { kept with
    active := ⟨Nat.succ_pos _, room⟩
    next := Nat.lt_succ_of_lt kept.next
    lastRendered := ?_, prepared := ?_, held := ?_, spare := ?_ }
  · intro index last
    exact Nat.lt_succ_of_lt (kept.lastRendered index last)
  · intro index prepared
    obtain ⟨inside, rest⟩ := kept.prepared index prepared
    exact ⟨Nat.lt_succ_of_lt inside, rest⟩
  · intro index held
    obtain ⟨inside, reserved⟩ := kept.held index held
    exact ⟨Nat.lt_succ_of_lt inside, reserved⟩
  · intro index beyond
    exact kept.spare index (Nat.le_of_succ_le beyond)

/-- A slot that is free and in use by the ring. -/
def Available (ring : Ring) (index : Nat) : Prop :=
  (ring.slots index).state = .free ∧ index < ring.activeInputSurfaceCount

theorem available_of_freeFrom {count index : Nat} (found : ring.freeFrom count = some index)
    (positive : 0 < count) (bounded : count ≤ ring.activeInputSurfaceCount) :
    ring.Available index := by
  have free := List.find?_some found
  obtain ⟨offset, _, rfl⟩ := List.mem_map.mp (List.mem_of_find?_eq_some found)
  exact ⟨by simpa [isFree] using free, Nat.lt_of_lt_of_le (Nat.mod_lt _ positive) bounded⟩

theorem Kept.findFreeSlot (kept : ring.Kept) {index : Nat}
    (found : ring.findFreeSlot = some index) : ring.Available index :=
  available_of_freeFrom found kept.active.1 (Nat.le_refl _)

theorem Kept.selectRepeatSurface (kept : ring.Kept) {source index : Nat}
    (found : ring.selectRepeatSurface source = some index) : ring.Available index := by
  have bounds := kept.active
  have count : min (max ring.activeInputSurfaceCount 1) inputSurfaceRingSize =
      ring.activeInputSurfaceCount := by omega
  simp only [Ring.selectRepeatSurface, count] at found
  split at found
  · cases found
  · next inside =>
      split at found
      · next free =>
          cases found
          exact ⟨by simpa [isFree] using free, Nat.lt_of_not_le inside⟩
      · exact available_of_freeFrom found bounds.1 (Nat.le_refl _)

theorem Kept.finishRender (kept : ring.Kept) (unheld : ring.position.slot? = none)
    {found : Option Nat} (available : ∀ index, found = some index → ring.Available index) :
    (ring.finishRender found).Kept := by
  have idle := kept.move unheld rfl fun _ _ => rfl
  cases found with
  | none => exact idle
  | some index =>
      simp only [Ring.finishRender]
      split
      · exact idle
      · obtain ⟨free, inside⟩ := available index rfl
        exact kept.reserve free inside unheld rfl rfl rfl rfl rfl rfl (.inl ⟨rfl, rfl, rfl⟩)

theorem Kept.finishRepeat (kept : ring.Kept) (unheld : ring.position.slot? = none)
    (unprepared : ring.preparedInputSurfaceSlot = none) {found : Option Nat}
    (available : ∀ index, found = some index → ring.Available index) :
    (ring.finishRepeat found).Kept := by
  have idle := kept.move unheld rfl fun _ _ => rfl
  simp only [Ring.finishRepeat]
  split
  · exact idle
  · cases found with
    | none => exact idle
    | some index =>
        obtain ⟨free, inside⟩ := available index rfl
        exact kept.reserve free inside unheld rfl rfl rfl rfl rfl rfl
          (.inr ⟨rfl, unprepared, rfl⟩)

/-- A reservation that AMF did not accept ends. -/
theorem Kept.end (kept : ring.Kept) {index : Nat}
    (reserved : (ring.slots index).state = .reserved)
    (unaccepted : ∀ other, ring.position ≠ .accepted other) {after : Ring}
    (ends : after =
      { ring.setSlot index (ring.slots index).giveUp with
        preparedInputSurfaceSlot := none, position := .idle }) :
    after.Kept := by
  have freed : (ring.slots index).giveUp = (ring.slots index).free := if_pos reserved
  rw [freed] at ends
  subst ends
  have turns := kept.turns index
  rw [reserved] at turns
  refine { kept with
    prepared := nofun, held := nofun, holding := nofun, submitting := nofun
    spare := kept.spare_update fun _ => rfl
    turns := kept.turns_update turns
    counted := ?_
    made := kept.made_update rfl
    outstanding := ?_ }
  · exact kept.counted.trans
      (congrArg Finset.card (inFlightSlots_update (by simp [Slot.free, reserved])).symm)
  · intro wrapper outstanding
    obtain ⟨current, unnotified, owned⟩ := kept.outstanding wrapper outstanding
    have inFlight := owned.resolve_right (unaccepted wrapper.slot)
    have apart : wrapper.slot ≠ index := by
      intro same
      rw [same, reserved] at inFlight
      cases inFlight
    have same : (ring.setSlot index (ring.slots index).free).slots wrapper.slot =
        ring.slots wrapper.slot := Function.update_of_ne apart ..
    exact ⟨current.trans (congrArg Slot.generation same).symm,
      (congrArg Slot.releaseNotified same).trans unnotified,
      .inl ((congrArg Slot.state same).trans inFlight)⟩

theorem Kept.unprepared (kept : ring.Kept) (busy : ring.position ≠ .idle) :
    ring.preparedInputSurfaceSlot = none := by
  cases prepared : ring.preparedInputSurfaceSlot with
  | none => rfl
  | some index => exact absurd (kept.prepared index prepared).2.2.2 busy

theorem Kept.leave (kept : ring.Kept) {index : Nat} (held : ring.position.slot? = some index)
    (unaccepted : ∀ other, ring.position ≠ .accepted other) : (ring.leave index).Kept := by
  obtain ⟨-, reserved⟩ := kept.held index held
  have unprepared : ring.preparedInputSurfaceSlot = none := by
    apply kept.unprepared
    intro idle
    rw [idle] at held
    cases held
  apply kept.end reserved unaccepted
  rw [← unprepared]
  rfl

/-! ## Wrappers -/

theorem Kept.wrap (kept : ring.Kept) {index : Nat} (holds : ring.position = .holding index) :
    Kept { ring with
      wrappers := ring.wrapper index :: ring.wrappers
      position := .submitting index } := by
  have unwrapped := kept.holding index holds
  have unprepared := kept.unprepared (by rw [holds]; nofun)
  have unaccepted : ∀ other, ring.position ≠ .accepted other := by
    intro other
    rw [holds]
    nofun
  have fresh : ring.wrapper index ∉ ring.wrappers ∧ ring.wrapper index ∉ ring.accepted := by
    constructor <;> intro member
    · exact Nat.lt_irrefl _ (unwrapped.1 (ring.wrapper index) (.inl member) rfl)
    · exact Nat.lt_irrefl _ (unwrapped.1 (ring.wrapper index) (.inr member) rfl)
  refine { kept with
    prepared := ?_, held := ?_, holding := nofun, submitting := ?_, made := ?_
    distinct := List.nodup_cons.mpr ⟨fresh.1, kept.distinct⟩, outstanding := ?_ }
  · intro other prepared
    rw [unprepared] at prepared
    cases prepared
  · intro other held
    exact kept.held other (by rw [holds]; exact held)
  · intro other submits _
    cases submits
    exact unwrapped.2
  · intro wrapper made
    rcases made with made | accepted
    · rcases List.mem_cons.mp made with rfl | earlier
      · exact Nat.le_refl _
      · exact kept.made wrapper (.inl earlier)
    · exact kept.made wrapper (.inr accepted)
  · intro wrapper ⟨accepted, unreleased⟩
    rcases List.mem_cons.mp unreleased with rfl | earlier
    · exact absurd accepted fresh.2
    · obtain ⟨current, unnotified, owned⟩ := kept.outstanding wrapper ⟨accepted, earlier⟩
      exact ⟨current, unnotified, .inl (owned.resolve_right (unaccepted wrapper.slot))⟩

theorem Kept.accept (kept : ring.Kept) {index : Nat}
    (submits : ring.position = .submitting index) :
    Kept { ring with
      accepted := ring.wrapper index :: ring.accepted
      position := .accepted index } := by
  have unprepared := kept.unprepared (by rw [submits]; nofun)
  refine { kept with
    prepared := ?_, held := ?_, holding := nofun, submitting := nofun, made := ?_
    outstanding := ?_ }
  · intro other prepared
    rw [unprepared] at prepared
    cases prepared
  · intro other held
    exact kept.held other (by rw [submits]; exact held)
  · intro wrapper made
    rcases made with made | accepted
    · exact kept.made wrapper (.inl made)
    · rcases List.mem_cons.mp accepted with rfl | earlier
      · exact Nat.le_refl _
      · exact kept.made wrapper (.inr earlier)
  · intro wrapper ⟨accepted, unreleased⟩
    rcases List.mem_cons.mp accepted with rfl | earlier
    · exact ⟨rfl, kept.submitting index submits unreleased, .inr rfl⟩
    · obtain ⟨current, unnotified, owned⟩ := kept.outstanding wrapper ⟨earlier, unreleased⟩
      refine ⟨current, unnotified, .inl (owned.resolve_right fun waits => ?_)⟩
      rw [submits] at waits
      cases waits

/-- The slot of an accepted submission is in flight, or free again if it was released since. -/
theorem onInputAccepted_cases (frameIndex : Nat) (slot : Slot) :
    (slot.releaseNotified = true ∧
        slot.onInputAccepted frameIndex =
          (true, { slot with state := .inFlight, frameIndex }.free)) ∨
      (slot.releaseNotified = false ∧
        slot.onInputAccepted frameIndex =
          (false, { slot with state := .inFlight, frameIndex })) := by
  cases notified : slot.releaseNotified with
  | true => exact .inl ⟨rfl, by simp [Slot.onInputAccepted, notified]⟩
  | false => exact .inr ⟨rfl, by simp [Slot.onInputAccepted, notified]⟩

theorem Kept.commit (kept : ring.Kept) (frameIndex : Nat) : (ring.commit frameIndex).Kept := by
  unfold Ring.commit
  split
  case h_2 => exact kept
  case h_1 index waits =>
    have unprepared := kept.unprepared (by rw [waits]; nofun)
    obtain ⟨inside, reserved⟩ := kept.held index (by rw [waits]; rfl)
    have bounded := Nat.lt_of_lt_of_le inside kept.active.2
    have turns := kept.turns index
    rw [reserved] at turns
    have others : ∀ wrapper, ring.Outstanding wrapper → wrapper.slot ≠ index →
        (ring.slots wrapper.slot).state = .inFlight := by
      intro wrapper outstanding apart
      refine (kept.outstanding wrapper outstanding).2.2.resolve_right fun accepted => ?_
      rw [waits] at accepted
      exact apart (Position.accepted.inj accepted).symm
    rcases onInputAccepted_cases frameIndex (ring.slots index) with
      ⟨notified, released⟩ | ⟨unnotified, submitted⟩
    · rw [released]
      refine { kept with
        prepared := ?_, held := nofun, holding := nofun, submitting := nofun
        spare := kept.spare_update fun _ => rfl
        turns := kept.turns_update turns
        counted := ?_
        made := kept.made_update rfl
        outstanding := ?_ }
      · intro other prepared
        exact absurd (unprepared.symm.trans prepared) nofun
      · exact kept.counted.trans
          (congrArg Finset.card (inFlightSlots_update (by simp [Slot.free, reserved])).symm)
      · intro wrapper outstanding
        obtain ⟨current, unnotified, _⟩ := kept.outstanding wrapper outstanding
        have apart : wrapper.slot ≠ index := by
          intro same
          rw [same, notified] at unnotified
          cases unnotified
        simpa [setSlot, apart] using ⟨current, unnotified, others wrapper outstanding apart⟩
    · rw [submitted]
      refine { kept with
        prepared := ?_, held := nofun, holding := nofun, submitting := nofun
        spare := kept.spare_update fun beyond => absurd inside (Nat.not_lt.mpr beyond)
        turns := kept.turns_update turns
        counted := ?_
        made := kept.made_update rfl
        outstanding := ?_ }
      · intro other prepared
        exact absurd (unprepared.symm.trans prepared) nofun
      · have entered := card_inFlightSlots_enter
          { ring.slots index with state := .inFlight, frameIndex } bounded
          (by rw [reserved]; nofun) rfl
        simp only [setSlot, entered, kept.counted, Bool.false_eq_true, if_false]
      · intro wrapper outstanding
        obtain ⟨current, quiet, _⟩ := kept.outstanding wrapper outstanding
        by_cases same : wrapper.slot = index
        · rw [same] at current quiet
          simpa [setSlot, same] using ⟨current, quiet⟩
        · simpa [setSlot, same] using ⟨current, quiet, others wrapper outstanding same⟩

/-! ## Releases -/

theorem onSurfaceReleased_cases (slot : Slot) :
    (slot.state = .inFlight ∧
        slot.onSurfaceReleased = (true, { slot with releaseNotified := true }.free)) ∨
      (slot.state ≠ .inFlight ∧
        slot.onSurfaceReleased = (false, { slot with releaseNotified := true })) := by
  by_cases inFlight : slot.state = .inFlight
  · exact .inl ⟨inFlight, by simp [Slot.onSurfaceReleased, inFlight]⟩
  · exact .inr ⟨inFlight, by simp [Slot.onSurfaceReleased, inFlight]⟩

/-- The wrapper is reported, and its slot is left alone. -/
theorem Kept.stale (kept : ring.Kept) (wrapper : Wrapper) :
    Kept { ring with wrappers := ring.wrappers.erase wrapper } := by
  have earlier : ∀ other, other ∈ ring.wrappers.erase wrapper → other ∈ ring.wrappers :=
    fun _ => List.mem_of_mem_erase
  have unwrapped : ∀ index, ring.Unwrapped index →
      Unwrapped { ring with wrappers := ring.wrappers.erase wrapper } index :=
    fun index before => ⟨fun other made there =>
      before.1 other (made.imp_left (earlier other)) there, before.2⟩
  refine { kept with
    prepared := ?_, holding := ?_, submitting := ?_, made := ?_
    distinct := kept.distinct.erase wrapper, outstanding := ?_ }
  · intro index prepared
    obtain ⟨inside, reserved, before, idle⟩ := kept.prepared index prepared
    exact ⟨inside, reserved, unwrapped index before, idle⟩
  · intro index holds
    exact unwrapped index (kept.holding index holds)
  · intro index submits unreleased
    exact kept.submitting index submits (earlier _ unreleased)
  · intro other made
    exact kept.made other (made.imp_left (earlier other))
  · intro other outstanding
    exact kept.outstanding other ⟨outstanding.1, earlier other outstanding.2⟩

theorem Kept.surfaceDataRelease (kept : ring.Kept) (wrapper : Wrapper) :
    (ring.surfaceDataRelease wrapper).Kept := by
  unfold Ring.surfaceDataRelease
  split
  · exact kept
  next unreported =>
    have unreleased : wrapper ∈ ring.wrappers := by simpa using unreported
    have stale := kept.stale wrapper
    dsimp only
    split
    · exact stale
    next current =>
      replace current : wrapper.generation = (ring.slots wrapper.slot).generation := by
        simpa using current
      have wrapped : ¬ ring.Unwrapped wrapper.slot := fun unwrapped =>
        absurd (unwrapped.1 wrapper (.inl unreleased) rfl) (current ▸ Nat.lt_irrefl _)
      -- the wrapper is the only one of the slot's reservation
      have only : ∀ other, other.slot = wrapper.slot →
          other.generation = (ring.slots other.slot).generation →
            other ∉ ring.wrappers.erase wrapper := by
        intro other there same member
        have equal : other = wrapper := by
          cases other
          cases wrapper
          simp only at there same current
          subst there
          rw [same, ← current]
        rw [equal] at member
        exact kept.distinct.not_mem_erase member
      have apart : ∀ other, other ∈ ring.accepted ∧ other ∈ ring.wrappers.erase wrapper →
          other.slot ≠ wrapper.slot := by
        intro other outstanding there
        have before := kept.outstanding other
          ⟨outstanding.1, List.mem_of_mem_erase outstanding.2⟩
        exact only other there before.1 outstanding.2
      rcases onSurfaceReleased_cases (ring.slots wrapper.slot) with
        ⟨inFlight, freed⟩ | ⟨reserved, notified⟩
      · rw [freed]
        have notReserved : ∀ index, (ring.slots index).state = .reserved →
            index ≠ wrapper.slot := by
          intro index reserved same
          rw [same, inFlight] at reserved
          cases reserved
        have inside : wrapper.slot < ring.activeInputSurfaceCount := by
          apply Nat.lt_of_not_le
          intro beyond
          rw [kept.spare _ beyond] at inFlight
          cases inFlight
        have turns := kept.turns wrapper.slot
        rw [inFlight] at turns
        refine { stale with
          prepared := ?_, held := ?_, holding := ?_, submitting := ?_
          spare := kept.spare_update fun _ => rfl
          turns := kept.turns_update turns
          counted := ?_
          made := stale.made_update rfl
          outstanding := ?_ }
        · intro index prepared
          have facts := stale.prepared index prepared
          simpa [setSlot, Unwrapped, notReserved index facts.2.1] using facts
        · intro index held
          have facts := stale.held index held
          simpa [setSlot, notReserved index facts.2] using facts
        · intro index holds
          have facts := stale.held index (congrArg Position.slot? holds)
          have unwrapped := stale.holding index holds
          simpa [setSlot, Unwrapped, notReserved index facts.2] using unwrapped
        · intro index submits
          have facts := stale.held index (congrArg Position.slot? submits)
          have quiet := stale.submitting index submits
          simpa [setSlot, Ring.wrapper, notReserved index facts.2] using quiet
        · have left := card_inFlightSlots_leave
            { ring.slots wrapper.slot with releaseNotified := true }.free
            (Nat.lt_of_lt_of_le inside kept.active.2) inFlight (by simp [Slot.free])
          simp only [setSlot, left, kept.counted, if_true]
        · intro other outstanding
          simpa [setSlot, apart other outstanding] using stale.outstanding other outstanding
      · rw [notified]
        refine { stale with
          prepared := ?_, held := ?_, holding := ?_, submitting := ?_
          spare := kept.spare_update (kept.spare wrapper.slot)
          turns := kept.turns_update (kept.turns wrapper.slot)
          counted := ?_
          made := stale.made_update rfl
          outstanding := ?_ }
        · intro index prepared
          have other : index ≠ wrapper.slot := by
            intro same
            exact wrapped (same ▸ (kept.prepared index prepared).2.2.1)
          simpa [setSlot, Unwrapped, other] using stale.prepared index prepared
        · intro index held
          have facts := stale.held index held
          by_cases same : index = wrapper.slot
          · rw [same] at facts
            simpa [setSlot, same] using facts
          · simpa [setSlot, same] using facts
        · intro index holds
          have other : index ≠ wrapper.slot := by
            intro same
            exact wrapped (same ▸ kept.holding index holds)
          simpa [setSlot, Unwrapped, other] using stale.holding index holds
        · intro index submits
          by_cases same : index = wrapper.slot
          · intro member
            refine absurd member (only _ same ?_)
            simp [Ring.wrapper, setSlot, same]
          · simpa [setSlot, Ring.wrapper, same] using stale.submitting index submits
        · exact kept.counted.trans (congrArg Finset.card (inFlightSlots_update (by simp)).symm)
        · intro other outstanding
          simpa [setSlot, apart other outstanding] using stale.outstanding other outstanding

/-! ## Runs -/

theorem kept_created (lookaheadDepth : Int) : (created lookaheadDepth).Kept where
  active := by
    simp only [created, initialInputSurfaceCount, minimumInputSurfaceCount, inputSurfaceRingSize]
    omega
  next := by
    simp only [created, initialInputSurfaceCount, minimumInputSurfaceCount, inputSurfaceRingSize]
    omega
  lastRendered := nofun
  prepared := nofun
  held := nofun
  holding := nofun
  submitting := nofun
  spare _ _ := rfl
  turns _ := rfl
  counted := by simp [created, inFlightSlots]
  made := by simp [created]
  distinct := List.nodup_nil
  outstanding _ := fun outstanding => nomatch outstanding.1

theorem Kept.acquire (kept : ring.Kept) (idle : ring.position = .idle) :
    ring.acquireInputTextureForRender.Kept := by
  have unheld : ring.position.slot? = none := by rw [idle]; rfl
  unfold acquireInputTextureForRender
  split
  · exact kept
  next unprepared =>
    have waits : ∀ position, position.slot? = none → Kept { ring with position } := by
      intro position target
      apply kept.move unheld target
      intro index prepared
      simp [prepared] at unprepared
    cases found : ring.findFreeSlot with
    | some index =>
        apply kept.finishRender unheld
        intro other same
        exact kept.findFreeSlot (found.trans same)
    | none =>
        dsimp only
        split
        · exact waits .creatingRender rfl
        · exact waits .waitingRender rfl

theorem Kept.cancel (kept : ring.Kept) (idle : ring.position = .idle) :
    ring.cancelInputTextureForRender.Kept := by
  unfold cancelInputTextureForRender
  cases prepared : ring.preparedInputSurfaceSlot with
  | none => exact kept
  | some index =>
      obtain ⟨-, reserved, _⟩ := kept.prepared index prepared
      apply kept.end reserved
      · intro other
        rw [idle]
        nofun
      · rw [← idle]
        rfl

theorem Kept.encode (kept : ring.Kept) (idle : ring.position = .idle) :
    ring.encodeFrame.Kept := by
  have unheld : ring.position.slot? = none := by rw [idle]; rfl
  unfold encodeFrame
  split
  · exact kept
  cases prepared : ring.preparedInputSurfaceSlot with
  | some index =>
      obtain ⟨inside, reserved, unwrapped, _⟩ := kept.prepared index prepared
      refine { kept with
        lastRendered := ?_, prepared := nofun, held := ?_, holding := ?_, submitting := nofun
        outstanding := ?_ }
      · intro other last
        obtain rfl := Option.some.inj last
        exact inside
      · intro other held
        obtain rfl := Option.some.inj held
        exact ⟨inside, reserved⟩
      · intro other holds
        obtain rfl := Position.holding.inj holds
        exact unwrapped
      · intro wrapper outstanding
        obtain ⟨current, unnotified, owned⟩ := kept.outstanding wrapper outstanding
        refine ⟨current, unnotified, .inl (owned.resolve_right fun accepted => ?_)⟩
        rw [idle] at accepted
        cases accepted
  | none =>
      cases last : ring.lastRenderedInputSurfaceSlot with
      | none => exact kept
      | some source =>
          have waits : ∀ position, position.slot? = none → Kept { ring with position } := by
            intro position target
            apply kept.move unheld target
            intro index same
            exact absurd (prepared.symm.trans same) nofun
          dsimp only
          cases found : ring.selectRepeatSurface source with
          | some index =>
              apply kept.finishRepeat unheld prepared
              intro other same
              exact kept.selectRepeatSurface (found.trans same)
          | none =>
              dsimp only
              split
              · simpa only [prepared, last] using waits (.creatingRepeat source) rfl
              · simpa only [prepared, last] using waits (.waitingRepeat source) rfl

/-- The slot the ring has grown by. -/
theorem Kept.available_grown (kept : ring.Kept) :
    Available { ring with activeInputSurfaceCount := ring.activeInputSurfaceCount + 1 }
      ring.activeInputSurfaceCount :=
  ⟨kept.spare _ (Nat.le_refl _), Nat.lt_succ_self _⟩

theorem Kept.textureCreated (kept : ring.Kept) (created : Bool) :
    (ring.textureCreated created).Kept := by
  have grows : (created && ring.mayExpand) = true →
      ring.activeInputSurfaceCount < inputSurfaceRingSize := by
    intro may
    simp only [mayExpand, Bool.and_eq_true, decide_eq_true_eq] at may
    exact may.2.2
  unfold Ring.textureCreated
  dsimp only
  split
  case h_1 creating =>
    have unheld : ring.position.slot? = none := by rw [creating]; rfl
    have unprepared := kept.unprepared (by rw [creating]; nofun)
    cases found : ring.findFreeSlot with
    | some index =>
        apply kept.finishRender unheld
        intro other same
        exact kept.findFreeSlot (found.trans same)
    | none =>
        dsimp only
        split
        · next may =>
            apply (kept.grow (grows may)).finishRender unheld
            intro other same
            obtain rfl := Option.some.inj same
            exact kept.available_grown
        · apply kept.move unheld rfl
          intro index prepared
          exact absurd (unprepared.symm.trans prepared) nofun
  case h_2 source creating =>
    have unheld : ring.position.slot? = none := by rw [creating]; rfl
    have unprepared := kept.unprepared (by rw [creating]; nofun)
    cases found : ring.selectRepeatSurface source with
    | some index =>
        apply kept.finishRepeat unheld unprepared
        intro other same
        exact kept.selectRepeatSurface (found.trans same)
    | none =>
        dsimp only
        split
        · next may =>
            apply (kept.grow (grows may)).finishRepeat unheld unprepared
            intro other same
            obtain rfl := Option.some.inj same
            exact kept.available_grown
        · apply kept.move unheld rfl
          intro index prepared
          exact absurd (unprepared.symm.trans prepared) nofun
  case h_3 => exact kept

theorem Kept.woken (kept : ring.Kept) : ring.woken.Kept := by
  unfold Ring.woken
  split
  case h_1 waiting =>
    apply kept.finishRender (by rw [waiting]; rfl)
    intro index found
    exact kept.findFreeSlot found
  case h_2 source waiting =>
    apply kept.finishRepeat (by rw [waiting]; rfl) (kept.unprepared (by rw [waiting]; nofun))
    intro index found
    exact kept.selectRepeatSurface found
  case h_3 => exact kept

theorem Kept.step (kept : ring.Kept) (event : RingEvent) : (step event ring).Kept := by
  cases event with
  | acquireInputTextureForRender =>
      simp only [Ring.step]
      split
      · next idle => exact kept.acquire idle
      · exact kept
  | cancelInputTextureForRender =>
      simp only [Ring.step]
      split
      · next idle => exact kept.cancel idle
      · exact kept
  | encodeFrame =>
      simp only [Ring.step]
      split
      · next idle => exact kept.encode idle
      · exact kept
  | textureCreated created => exact kept.textureCreated created
  | woken => exact kept.woken
  | createSurface created =>
      simp only [Ring.step, createSurface]
      split
      case h_2 => exact kept
      case h_1 index holds =>
        cases created with
        | true => exact kept.wrap holds
        | false =>
            apply kept.leave (by rw [holds]; rfl)
            intro other
            rw [holds]
            nofun
  | giveUp =>
      simp only [Ring.step, giveUp]
      split
      case h_1 index holds =>
        apply kept.leave (by rw [holds]; rfl)
        intro other
        rw [holds]
        nofun
      case h_2 index submits =>
        apply kept.leave (by rw [submits]; rfl)
        intro other
        rw [submits]
        nofun
      case h_3 => exact kept
  | submitInput accepted =>
      simp only [Ring.step, submitInput]
      split
      case h_2 => exact kept
      case h_1 index submits =>
        cases accepted with
        | true => exact kept.accept submits
        | false =>
            apply kept.leave (by rw [submits]; rfl)
            intro other
            rw [submits]
            nofun
  | commit frameIndex => exact kept.commit frameIndex
  | surfaceDataRelease wrapper => exact kept.surfaceDataRelease wrapper
  | fatal => exact { kept with }

/-! ## Which slots are reserved -/

theorem reserved_of_setSlot {index other : Nat} {slot : Slot}
    (unreserved : slot.state ≠ .reserved)
    (after : (Function.update ring.slots other slot index).state = .reserved) :
    (ring.slots index).state = .reserved := by
  by_cases same : index = other
  · rw [same, Function.update_self] at after
    exact absurd after unreserved
  · rwa [Function.update_of_ne same] at after

theorem giveUp_state (slot : Slot) : slot.giveUp.state ≠ .reserved := by
  unfold Slot.giveUp
  split
  · nofun
  · next unreserved => exact unreserved

theorem reserved_of_reserve {index other frameIndex : Nat}
    (after : ((ring.reserve other frameIndex).slots index).state = .reserved) :
    (ring.slots index).state = .reserved ∨ index = other := by
  by_cases same : index = other
  · exact .inr same
  · left
    change (Function.update ring.slots other _ index).state = _ at after
    rwa [Function.update_of_ne same] at after

theorem reserved_of_finishRender {index : Nat} {found : Option Nat}
    (available : ∀ index, found = some index → (ring.slots index).state = .free)
    (after : ((ring.finishRender found).slots index).state = .reserved) :
    (ring.slots index).state ≠ .inFlight := by
  intro inFlight
  have before : (ring.slots index).state = .reserved ∨ found = some index := by
    cases found with
    | none => exact .inl after
    | some other =>
        simp only [finishRender] at after
        split at after
        · exact .inl after
        · exact (reserved_of_reserve after).imp_right fun same => congrArg some same.symm
  rcases before with reserved | chosen
  · rw [inFlight] at reserved
    cases reserved
  · rw [available index chosen] at inFlight
    cases inFlight

theorem reserved_of_finishRepeat {index : Nat} {found : Option Nat}
    (available : ∀ index, found = some index → (ring.slots index).state = .free)
    (after : ((ring.finishRepeat found).slots index).state = .reserved) :
    (ring.slots index).state ≠ .inFlight := by
  intro inFlight
  have before : (ring.slots index).state = .reserved ∨ found = some index := by
    simp only [finishRepeat] at after
    split at after
    · exact .inl after
    · cases found with
      | none => exact .inl after
      | some other =>
          exact (reserved_of_reserve after).imp_right fun same => congrArg some same.symm
  rcases before with reserved | chosen
  · rw [inFlight] at reserved
    cases reserved
  · rw [available index chosen] at inFlight
    cases inFlight

theorem reserved_of_leave {index other : Nat}
    (after : ((ring.leave other).slots index).state = .reserved) :
    (ring.slots index).state = .reserved :=
  reserved_of_setSlot (giveUp_state _) after

/-- A slot in flight is not reserved before it is free. -/
theorem Kept.not_inFlight (kept : ring.Kept) {event : RingEvent} {index : Nat}
    (after : ((Ring.step event ring).slots index).state = .reserved) :
    (ring.slots index).state ≠ .inFlight := by
  have still : (ring.slots index).state = .reserved → (ring.slots index).state ≠ .inFlight := by
    intro reserved
    rw [reserved]
    nofun
  have free : ∀ other, ring.findFreeSlot = some other → (ring.slots other).state = .free :=
    fun other found => (kept.findFreeSlot found).1
  have repeated : ∀ source other, ring.selectRepeatSurface source = some other →
      (ring.slots other).state = .free :=
    fun source other found => (kept.selectRepeatSurface found).1
  have grown : ∀ other, some ring.activeInputSurfaceCount = some other →
      (ring.slots other).state = .free := by
    intro other same
    obtain rfl := Option.some.inj same
    exact kept.spare _ (Nat.le_refl _)
  cases event with
  | acquireInputTextureForRender =>
      simp only [Ring.step, acquireInputTextureForRender] at after
      split at after
      · split at after
        · exact still after
        · split at after
          · next other found =>
              exact reserved_of_finishRender (fun _ same => free _ (found.trans same)) after
          · split at after
            · exact still after
            · exact still after
      · exact still after
  | cancelInputTextureForRender =>
      simp only [Ring.step, cancelInputTextureForRender] at after
      split at after
      · split at after
        · exact still after
        · exact still (reserved_of_setSlot (giveUp_state _) after)
      · exact still after
  | encodeFrame =>
      simp only [Ring.step, encodeFrame] at after
      split at after
      · split at after
        · exact still after
        · split at after
          · exact still after
          · split at after
            · exact still after
            · next source _ =>
                split at after
                · next other found =>
                    exact reserved_of_finishRepeat
                      (fun _ same => repeated source _ (found.trans same)) after
                · split at after
                  · exact still after
                  · exact still after
      · exact still after
  | textureCreated created =>
      simp only [Ring.step, Ring.textureCreated] at after
      split at after
      · split at after
        · next other found =>
            exact reserved_of_finishRender (fun _ same => free _ (found.trans same)) after
        · split at after
          · exact @reserved_of_finishRender
              { ring with activeInputSurfaceCount := ring.activeInputSurfaceCount + 1 } _ _ grown
              after
          · exact still after
      · next source _ =>
          split at after
          · next other found =>
              exact reserved_of_finishRepeat
                (fun _ same => repeated source _ (found.trans same)) after
          · split at after
            · exact @reserved_of_finishRepeat
                { ring with activeInputSurfaceCount := ring.activeInputSurfaceCount + 1 } _ _ grown
                after
            · exact still after
      · exact still after
  | woken =>
      simp only [Ring.step, Ring.woken] at after
      split at after
      · exact reserved_of_finishRender (fun _ found => free _ found) after
      · next source _ =>
          exact reserved_of_finishRepeat (fun _ found => repeated source _ found) after
      · exact still after
  | createSurface created =>
      simp only [Ring.step, createSurface] at after
      split at after
      · split at after
        · exact still after
        · exact still (reserved_of_leave after)
      · exact still after
  | giveUp =>
      simp only [Ring.step, giveUp] at after
      split at after
      · exact still (reserved_of_leave after)
      · exact still (reserved_of_leave after)
      · exact still after
  | submitInput accepted =>
      simp only [Ring.step, submitInput] at after
      split at after
      · split at after
        · exact still after
        · exact still (reserved_of_leave after)
      · exact still after
  | commit frameIndex =>
      simp only [Ring.step, Ring.commit] at after
      split at after
      · next other waits =>
          apply still
          apply reserved_of_setSlot ?_ after
          rcases onInputAccepted_cases frameIndex (ring.slots other) with
            ⟨_, released⟩ | ⟨_, submitted⟩
          · rw [released]
            nofun
          · rw [submitted]
            nofun
      · exact still after
  | surfaceDataRelease wrapper =>
      simp only [Ring.step, Ring.surfaceDataRelease] at after
      split at after
      · exact still after
      · split at after
        · exact still after
        · rcases onSurfaceReleased_cases (ring.slots wrapper.slot) with
            ⟨_, freed⟩ | ⟨notInFlight, notified⟩
          · rw [freed] at after
            exact still (reserved_of_setSlot (by nofun) after)
          · rw [notified] at after
            by_cases same : index = wrapper.slot
            · rw [same]
              exact notInFlight
            · apply still
              change (Function.update ring.slots wrapper.slot _ index).state = _ at after
              rwa [Function.update_of_ne same] at after
  | fatal => exact still after

/-- What holds of the ring between any two steps. -/
structure Owned (ring : Ring) : Prop where
  counted : ring.inputSurfacesInFlight = (inFlightSlots ring.slots).card
  turns : ∀ index, (ring.slots index).generation =
    (ring.slots index).freed + if (ring.slots index).state = .free then 0 else 1
  active : ring.activeInputSurfaceCount ≤ inputSurfaceRingSize
  next : ring.nextInputSurfaceSlot < inputSurfaceRingSize
  prepared : ∀ index, ring.preparedInputSurfaceSlot = some index → index < inputSurfaceRingSize
  /-- A slot is reserved only when every accepted wrapper made for it is released. -/
  reserved : ∀ event index, (ring.slots index).state ≠ .reserved →
    ((step event ring).slots index).state = .reserved →
      ∀ wrapper ∈ ring.accepted, wrapper.slot = index → wrapper ∉ ring.wrappers

theorem Kept.owned (kept : ring.Kept) : ring.Owned where
  counted := kept.counted
  turns := kept.turns
  active := kept.active.2
  next := Nat.lt_of_lt_of_le kept.next kept.active.2
  prepared index prepared := Nat.lt_of_lt_of_le (kept.prepared index prepared).1 kept.active.2
  reserved event index unreserved after wrapper accepted there unreleased := by
    have free : (ring.slots index).state = .free := by
      have notInFlight := kept.not_inFlight after
      cases state : (ring.slots index).state with
      | free => rfl
      | reserved => exact absurd state unreserved
      | inFlight => exact absurd state notInFlight
    exact kept.not_outstanding free there ⟨accepted, unreleased⟩

end Ring

end UmbraHost.Amf.InputSurfaces
