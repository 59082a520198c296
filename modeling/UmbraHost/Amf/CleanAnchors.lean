import UmbraHost.Amf.Recovery

/-! # Clean anchors

As long as no IDR is owed, the long-term slots hold accepted frames that no
invalidation reaches, and so does the slot chosen for a pending recovery.  A
frame that refers to such a slot is clean again. -/

namespace UmbraHost.Amf

namespace Encoder

/-- An IDR was accepted. -/
def IdrAccepted (log : FrameLog) : Prop :=
  ∃ index, .accepted index .idr ∈ log

structure Sound (encoder : Encoder) : Prop where
  refersBack : RefersBack encoder.log
  submitted : ∀ index, Accepted encoder.log index → index ≤ encoder.lastSubmittedFrameIndex
  bounded : encoder.effectiveLtrSlots ≤ maxLtrSlots
  disabled : encoder.rfiEnabled = false → encoder.effectiveLtrSlots = 0
  idle : encoder.rfiPending = true → 0 < encoder.effectiveLtrSlots
  inside : ∀ slot, encoder.ltrSlotsValid slot = true → slot < encoder.effectiveLtrSlots
  holds : ∀ slot, encoder.ltrSlotsValid slot = true →
    Accepted encoder.log (encoder.ltrSlotFrameIndex slot)
  clean : encoder.idrOwed = false → ∀ slot, encoder.ltrSlotsValid slot = true →
    ¬ Tainted encoder.log (encoder.ltrSlotFrameIndex slot)
  pending : encoder.idrOwed = false → encoder.rfiPending = true →
    encoder.ltrSlotsValid encoder.lastRfiLtrIndex = true
  predecessor : encoder.idrOwed = false → encoder.rfiPending = false → 0 < encoder.ltrSlots →
    ∀ index, encoder.lastAccepted = some index → ¬ Tainted encoder.log index
  rotation : IdrAccepted encoder.log → 1 < encoder.effectiveLtrSlots → 0 < encoder.currentLtrSlot
  owed : encoder.idrOwed = true → encoder.forceIdr = true

variable {encoder : Encoder}

theorem Sound.ltrSlots_eq (sound : Sound encoder) :
    encoder.ltrSlots = encoder.effectiveLtrSlots := by
  unfold ltrSlots
  split
  · rfl
  · rename_i off
    exact (sound.disabled (by simpa using off)).symm

theorem lastAccepted_mem {index : Nat} (last : encoder.lastAccepted = some index) :
    Accepted encoder.log index := by
  obtain ⟨entry, member, found⟩ := List.exists_of_findSome?_eq_some last
  cases entry with
  | accepted other reference =>
      cases found
      exact ⟨reference, List.mem_reverse.mp member⟩
  | invalidated first last => cases found

theorem sound_created (maxLtrFrames : Nat) : Sound (created maxLtrFrames) where
  refersBack := nofun
  submitted := fun _ ⟨_, member⟩ => nomatch member
  bounded := Nat.min_le_right _ _
  disabled := fun off => by
    have none : maxLtrFrames = 0 := by simpa [created] using off
    simp [created, none]
  idle := nofun
  inside := nofun
  holds := nofun
  clean := nofun
  pending := nofun
  predecessor := nofun
  rotation := fun ⟨_, member⟩ => nomatch member
  owed := nofun

theorem sound_disableRfi (sound : Sound encoder) : Sound encoder.disableRfi where
  refersBack := sound.refersBack
  submitted := sound.submitted
  bounded := Nat.zero_le _
  disabled := fun _ => rfl
  idle := nofun
  inside := nofun
  holds := nofun
  clean := nofun
  pending := nofun
  predecessor := fun _ _ positive => absurd positive (Nat.lt_irrefl 0)
  rotation := fun _ positive => absurd positive (Nat.not_lt_zero 1)
  owed := sound.owed

theorem sound_requestIdr (sound : Sound encoder) : Sound { encoder with forceIdr := true } :=
  { sound with owed := fun _ => rfl }

/-! ## Invalidations -/

theorem bestLtr_spec {firstFrame slots best : Nat}
    (found : encoder.bestLtr firstFrame slots = some best) :
    encoder.ltrSlotsValid best = true ∧ encoder.ltrSlotFrameIndex best < firstFrame := by
  induction slots generalizing best with
  | zero => cases found
  | succ slot ih =>
      unfold bestLtr at found
      simp only at found
      split at found
      · split at found
        · rename_i eligible
          cases found
          simpa using eligible
        · cases found
      · rename_i earlier previous
        split at found
        · rename_i better
          cases found
          simp only [Bool.and_eq_true, decide_eq_true_eq] at better
          exact better.1
        · cases found
          exact ih previous

/-- The log after an invalidation, with the slots as they were. -/
theorem sound_logged (sound : Sound encoder) (firstFrame lastFrame : Nat) :
    Sound { encoder with
      forceIdr := true, idrOwed := true, log := encoder.log ++ [Entry.invalidated firstFrame lastFrame] } where
  refersBack := sound.refersBack.append_invalidated firstFrame lastFrame
  submitted := fun index accepted =>
    sound.submitted index (accepted_append_invalidated.mp accepted)
  bounded := sound.bounded
  disabled := sound.disabled
  idle := sound.idle
  inside := sound.inside
  holds := fun slot valid => (sound.holds slot valid).append _
  clean := nofun
  pending := nofun
  predecessor := nofun
  rotation := fun ⟨index, member⟩ => sound.rotation ⟨index, by simpa using member⟩
  owed := fun _ => rfl

theorem clean_invalidated (sound : Sound encoder) {index firstFrame lastFrame : Nat}
    (before : index < firstFrame) (clean : ¬ Tainted encoder.log index) :
    ¬ Tainted (encoder.log ++ [.invalidated firstFrame lastFrame]) index := fun tainted =>
  (tainted_append_invalidated sound.refersBack tainted).elim clean (Nat.not_le_of_lt before)

/-- Slots that stay valid hold frames before the invalidated ones. -/
theorem valid_invalidateSlots (sound : Sound encoder) {firstFrame lastFrame slot : Nat}
    (valid : (encoder.invalidateSlots firstFrame lastFrame).ltrSlotsValid slot = true) :
    encoder.ltrSlotsValid slot = true ∧ encoder.ltrSlotFrameIndex slot < firstFrame := by
  simp only [invalidateSlots, Bool.and_eq_true, Bool.not_eq_true', Bool.and_eq_false_iff,
    decide_eq_false_iff_not] at valid
  obtain ⟨before, outside⟩ := valid
  have inside := sound.inside slot before
  have submitted := sound.submitted _ (sound.holds slot before)
  refine ⟨before, ?_⟩
  omega

theorem sound_invalidateRefFrames (sound : Sound encoder) (firstFrame lastFrame : Nat) :
    Sound (encoder.invalidateRefFrames firstFrame lastFrame) := by
  have logged := sound_logged sound firstFrame lastFrame
  unfold invalidateRefFrames
  simp only
  split
  · exact logged
  · rename_i enabled
    simp only [Bool.or_eq_true, Bool.not_eq_true', decide_eq_true_eq, not_or] at enabled
    split
    · exact logged
    · rename_i best found
      obtain ⟨bestValid, bestBefore⟩ := bestLtr_spec found
      refine
        { refersBack := logged.refersBack
          submitted := logged.submitted
          bounded := logged.bounded
          disabled := logged.disabled
          idle := fun _ => Nat.pos_of_ne_zero enabled.2
          inside := fun slot valid => sound.inside slot (valid_invalidateSlots sound valid).1
          holds := fun slot valid => logged.holds slot (valid_invalidateSlots sound valid).1
          clean := fun noIdr slot valid => ?_
          pending := fun _ _ => ?_
          predecessor := fun _ settled => by cases settled
          rotation := logged.rotation
          owed := sound.owed }
      · obtain ⟨before, earlier⟩ := valid_invalidateSlots sound valid
        exact clean_invalidated sound earlier (sound.clean noIdr slot before)
      · simp only [invalidateSlots, Bool.and_eq_true, Bool.not_eq_true', Bool.and_eq_false_iff,
          decide_eq_false_iff_not]
        exact ⟨bestValid, .inl (.inr (Nat.not_le_of_lt bestBefore))⟩

/-! ## Accepted submissions -/

/-- What makes a submission keep the anchors clean once it is accepted. -/
structure Acceptable (plan : Plan) (encoder : Encoder) : Prop where
  refers : ∀ other, (encoder.reference plan).index? = some other → Accepted encoder.log other
  cleanReference : 0 < encoder.effectiveLtrSlots → ∀ other,
    (encoder.reference plan).index? = some other → ¬ Tainted encoder.log other
  kept : ∀ slot, encoder.ltrSlotsValid slot = true →
    plan.resetLtrCache = true ∧ plan.ltrSlotToPreserve ≠ some slot ∨
      ¬ Tainted encoder.log (encoder.ltrSlotFrameIndex slot)
  drained : plan.consumeRfi = true ∨ encoder.rfiPending = false
  rotation : 1 < encoder.effectiveLtrSlots → ∀ slot, plan.ltrSlotToCommit = some slot →
    slot < encoder.effectiveLtrSlots → 0 < plan.nextLtrSlot
  baseline : 1 < encoder.effectiveLtrSlots → plan.idr = true → plan.ltrSlotToCommit = some 0
  periodic : 1 < encoder.effectiveLtrSlots → plan.idr = false → IdrAccepted encoder.log →
    plan.ltrSlotToCommit ≠ some 0
  anchor : ∀ slot frame, encoder.reference plan = .ltr slot frame →
    encoder.ltrSlotsValid slot = true ∧ encoder.ltrSlotFrameIndex slot = frame

theorem idr_of_reference {plan : Plan} (refers : encoder.reference plan = .idr) :
    plan.idr = true := by
  unfold reference at refers
  split at refers
  · rename_i idr
    exact idr
  · split at refers <;> cases refers

theorem clean_accepted {plan : Plan} (sound : Sound encoder) (acceptable : Acceptable plan encoder)
    {frameIndex : Nat} (fresh : ∀ index, Accepted encoder.log index → index < frameIndex)
    (slots : 0 < encoder.effectiveLtrSlots) :
    ¬ Tainted (encoder.log ++ [Entry.accepted frameIndex (encoder.reference plan)])
      frameIndex := by
  intro tainted
  have notAccepted : ¬ Accepted encoder.log frameIndex := fun accepted =>
    Nat.lt_irrefl _ (fresh frameIndex accepted)
  rcases tainted_append_accepted sound.refersBack notAccepted acceptable.refers tainted with
    before | ⟨_, source, refersTo, source_tainted⟩
  · exact notAccepted before.accepted
  · exact acceptable.cleanReference slots source refersTo source_tainted

/-- A valid slot after the commit holds the new frame or was valid and kept. -/
theorem valid_commit {plan : Plan} (sound : Sound encoder) (frameIndex : Nat) {slot : Nat}
    (valid : (encoder.commitRecoveryState frameIndex plan).ltrSlotsValid slot = true) :
    (slot < encoder.effectiveLtrSlots ∧ plan.ltrSlotToCommit = some slot ∧
        (encoder.commitRecoveryState frameIndex plan).ltrSlotFrameIndex slot = frameIndex) ∨
      (encoder.ltrSlotsValid slot = true ∧
        ¬ (plan.resetLtrCache = true ∧ plan.ltrSlotToPreserve ≠ some slot) ∧
        (encoder.commitRecoveryState frameIndex plan).ltrSlotFrameIndex slot =
          encoder.ltrSlotFrameIndex slot) := by
  have slots : min encoder.effectiveLtrSlots maxLtrSlots = encoder.effectiveLtrSlots :=
    Nat.min_eq_left sound.bounded
  simp only [commitRecoveryState, slots, Bool.or_eq_true, Bool.and_eq_true, decide_eq_true_eq,
    Bool.not_eq_true'] at valid ⊢
  by_cases marked : plan.ltrSlotToCommit = some slot ∧ slot < encoder.effectiveLtrSlots
  · exact .inl ⟨marked.2, marked.1, if_pos marked⟩
  · obtain ⟨notCleared, before⟩ := valid.resolve_left marked
    have inside := sound.inside slot before
    have spared : ¬ (plan.resetLtrCache = true ∧ plan.ltrSlotToPreserve ≠ some slot) := by
      intro cleared
      simp [cleared.1, cleared.2, inside] at notCleared
    refine .inr ⟨before, spared, ?_⟩
    rw [if_neg marked, if_neg (fun cleared => spared ⟨cleared.1.1, cleared.2⟩)]

theorem sound_accept {plan : Plan} (sound : Sound encoder) (acceptable : Acceptable plan encoder)
    {frameIndex : Nat} (fresh : ∀ index, Accepted encoder.log index → index < frameIndex) :
    Sound (encoder.accept frameIndex plan) := by
  have notAccepted : ¬ Accepted encoder.log frameIndex := fun accepted =>
    Nat.lt_irrefl _ (fresh frameIndex accepted)
  have pendingGone : (encoder.accept frameIndex plan).rfiPending = false := by
    simp only [accept, commitRecoveryState]
    rcases acceptable.drained with consumed | idle
    · simp [consumed]
    · simp [idle]
  refine
    { refersBack := sound.refersBack.append_accepted fun other refersTo =>
        ⟨fresh other (acceptable.refers other refersTo), acceptable.refers other refersTo⟩
      submitted := fun index accepted => ?_
      bounded := sound.bounded
      disabled := sound.disabled
      idle := fun pending => absurd (pendingGone.symm.trans pending) Bool.false_ne_true
      inside := fun slot valid => ?_
      holds := fun slot valid => ?_
      clean := fun _ slot valid => ?_
      pending := fun _ pending => absurd (pendingGone.symm.trans pending) Bool.false_ne_true
      predecessor := fun _ _ slots index last => ?_
      rotation := fun idr several => ?_
      owed := nofun }
  · rcases accepted_append_accepted.mp accepted with earlier | rfl
    · exact Nat.le_trans (sound.submitted index earlier) (Nat.le_max_left _ _)
    · exact Nat.le_max_right _ _
  · rcases valid_commit sound frameIndex valid with ⟨inside, _⟩ | ⟨before, _⟩
    · exact inside
    · exact sound.inside slot before
  · rcases valid_commit sound frameIndex valid with ⟨_, _, marked⟩ | ⟨before, _, same⟩
    · change Accepted _ ((encoder.commitRecoveryState frameIndex plan).ltrSlotFrameIndex slot)
      rw [marked]
      exact accepted_append_accepted.mpr (.inr rfl)
    · change Accepted _ ((encoder.commitRecoveryState frameIndex plan).ltrSlotFrameIndex slot)
      rw [same]
      exact (sound.holds slot before).append _
  · rcases valid_commit sound frameIndex valid with ⟨inside, _, marked⟩ | ⟨before, spared, same⟩
    · change ¬ Tainted _ ((encoder.commitRecoveryState frameIndex plan).ltrSlotFrameIndex slot)
      rw [marked]
      exact clean_accepted sound acceptable fresh (Nat.zero_lt_of_lt inside)
    · change ¬ Tainted _ ((encoder.commitRecoveryState frameIndex plan).ltrSlotFrameIndex slot)
      rw [same]
      intro tainted
      rcases tainted_append_accepted sound.refersBack notAccepted acceptable.refers tainted with
        earlier | ⟨newest, _⟩
      · exact (acceptable.kept slot before).resolve_left spared earlier
      · exact notAccepted (newest ▸ sound.holds slot before)
  · have newest : (encoder.accept frameIndex plan).lastAccepted = some frameIndex := by
      simp [lastAccepted, accept]
    rw [newest] at last
    cases last
    have enabled : 0 < encoder.effectiveLtrSlots := by
      have same := sound.ltrSlots_eq
      exact same ▸ slots
    exact clean_accepted sound acceptable fresh enabled
  · have slots : min encoder.effectiveLtrSlots maxLtrSlots = encoder.effectiveLtrSlots :=
      Nat.min_eq_left sound.bounded
    change 0 < (encoder.commitRecoveryState frameIndex plan).currentLtrSlot
    change 1 < encoder.effectiveLtrSlots at several
    simp only [commitRecoveryState, slots]
    split
    · rename_i marks
      cases marked : plan.ltrSlotToCommit with
      | none => simp [marked] at marks
      | some slot => exact acceptable.rotation several slot marked (by simpa [marked] using marks)
    · rename_i unmarked
      obtain ⟨index, member⟩ := idr
      rcases List.mem_append.mp member with earlier | newest
      · exact sound.rotation ⟨index, earlier⟩ several
      · have same := List.mem_singleton.mp newest
        have idr : plan.idr = true := idr_of_reference (Entry.accepted.inj same).2.symm
        rw [acceptable.baseline several idr] at unmarked
        simp only [Option.any_some, decide_eq_true_eq] at unmarked
        omega

/-- After a property failure no slot is left to keep clean. -/
theorem acceptable_disabled {plan : Plan} (refers : ∀ other,
      (encoder.disableRfi.reference plan).index? = some other → Accepted encoder.log other)
    (noLtr : ∀ slot frame, encoder.disableRfi.reference plan ≠ .ltr slot frame) :
    Acceptable plan encoder.disableRfi where
  refers := refers
  cleanReference := fun positive => absurd positive (Nat.lt_irrefl 0)
  kept := nofun
  drained := .inr rfl
  rotation := fun positive => absurd positive (Nat.not_lt_zero 1)
  baseline := fun positive => absurd positive (Nat.not_lt_zero 1)
  periodic := fun positive => absurd positive (Nat.not_lt_zero 1)
  anchor := fun slot frame refersTo => absurd refersTo (noLtr slot frame)

theorem acceptable_forcedIdr {plan : Plan} (idr : plan.idr = true)
    (reset : plan.resetLtrCache = true) (preserve : plan.ltrSlotToPreserve = none)
    (consume : plan.consumeRfi = true)
    (rotation : 1 < encoder.effectiveLtrSlots →
      plan.ltrSlotToCommit = some 0 ∧ 0 < plan.nextLtrSlot) : Acceptable plan encoder where
  refers := fun other refersTo => by simp [reference, idr, Reference.index?] at refersTo
  cleanReference := fun _ other refersTo => by simp [reference, idr, Reference.index?] at refersTo
  kept := fun slot _ => .inl ⟨reset, by simp [preserve]⟩
  drained := .inl consume
  rotation := fun several _ _ _ => (rotation several).2
  baseline := fun several _ => (rotation several).1
  periodic := fun _ noIdr => absurd (idr.symm.trans noIdr) (by decide)
  anchor := fun slot frame refersTo => by simp [reference, idr] at refersTo

theorem reference_predecessor {plan : Plan} (noIdr : plan.idr = false)
    (noLtr : plan.ltrReferenceSlot = none) :
    encoder.reference plan = .predecessor encoder.lastAccepted := by
  simp [reference, noIdr, noLtr]

/-- A frame that refers to its predecessor while nothing is pending. -/
theorem acceptable_predecessor (sound : Sound encoder) {plan : Plan} (noIdr : plan.idr = false)
    (noLtr : plan.ltrReferenceSlot = none) (notOwed : encoder.idrOwed = false)
    (quiet : encoder.rfiPending = false)
    (rotation : 1 < encoder.effectiveLtrSlots → ∀ slot, plan.ltrSlotToCommit = some slot →
      slot = encoder.currentLtrSlot ∧ 0 < plan.nextLtrSlot) : Acceptable plan encoder where
  refers := fun other refersTo => by
    rw [reference_predecessor noIdr noLtr] at refersTo
    exact lastAccepted_mem refersTo
  cleanReference := fun slots other refersTo => by
    rw [reference_predecessor noIdr noLtr] at refersTo
    exact sound.predecessor notOwed quiet (sound.ltrSlots_eq ▸ slots) other refersTo
  kept := fun slot valid => .inr (sound.clean notOwed slot valid)
  drained := .inr quiet
  rotation := fun several slot marked _ => (rotation several slot marked).2
  periodic := fun several _ idr marked => by
    have current := (rotation several 0 marked).1
    have positive := sound.rotation idr several
    omega
  anchor := fun slot frame refersTo => by
    rw [reference_predecessor noIdr noLtr] at refersTo
    cases refersTo
  baseline := fun _ idr => by
    rw [noIdr] at idr
    cases idr

theorem nextPeriodicSlot_pos (several : 1 < encoder.ltrSlots) : 0 < encoder.nextPeriodicSlot := by
  unfold nextPeriodicSlot
  rw [if_pos several]
  split <;> omega

theorem prepare_acceptable (sound : Sound encoder) {frameIndex : Nat} {answer : Answer}
    {prepared : Encoder} {plan : Plan}
    (submits : encoder.prepare (encoder.plan frameIndex) answer = (prepared, some plan)) :
    Sound prepared ∧ Acceptable plan prepared ∧ prepared.log = encoder.log := by
  unfold Encoder.plan at submits
  split at submits
  · have slots := sound.ltrSlots_eq
    cases idrOk : answer.idrProperties with
    | false => simp [prepare, idrOk] at submits
    | true =>
        by_cases failed : 0 < encoder.ltrSlots ∧ answer.ltrProperty = false
        · simp only [prepare, idrOk, failed.1, failed.2, if_true, Bool.not_true,
            Bool.false_eq_true, if_false, Option.isSome_some, Bool.not_false, Bool.and_self,
            Prod.mk.injEq, Option.some.injEq] at submits
          obtain ⟨rfl, rfl⟩ := submits
          exact ⟨sound_disableRfi sound, acceptable_disabled nofun nofun, rfl⟩
        · have kept : ((if 0 < encoder.ltrSlots then some 0 else none : Option Nat).isSome &&
              !answer.ltrProperty) = false := by
            cases property : answer.ltrProperty with
            | true => exact Bool.and_false _
            | false =>
                have none_ : ¬ 0 < encoder.ltrSlots := fun some_ => failed ⟨some_, property⟩
                rw [if_neg none_]
                rfl
          simp only [prepare, idrOk, kept, if_true, Bool.not_true, Bool.false_eq_true, if_false,
            Prod.mk.injEq, Option.some.injEq] at submits
          obtain ⟨rfl, rfl⟩ := submits
          refine ⟨sound, acceptable_forcedIdr rfl rfl rfl rfl fun several => ?_, rfl⟩
          have some_ : 0 < encoder.ltrSlots := by omega
          have several : 1 < encoder.ltrSlots := by omega
          simp [some_, several]
  · rename_i notForced
    have notOwed : encoder.idrOwed = false := by
      cases owed : encoder.idrOwed with
      | false => rfl
      | true => exact absurd (sound.owed owed) notForced
    split at submits
    · rename_i pending
      have valid := sound.pending notOwed pending.1
      simp only [prepare, Bool.false_eq_true, if_false, Option.isSome_some, if_true] at submits
      split at submits
      · cases submits
        refine ⟨sound,
          { refers := fun other refersTo => ?_
            cleanReference := fun _ other refersTo => ?_
            kept := fun slot held => ?_
            drained := .inl rfl
            rotation := nofun
            baseline := nofun
            periodic := nofun
            anchor := fun slot frame refersTo => ?_ }, rfl⟩
        · cases refersTo
          exact sound.holds _ valid
        · cases refersTo
          exact sound.clean notOwed _ valid
        · exact .inr (sound.clean notOwed slot held)
        · cases refersTo
          exact ⟨valid, rfl⟩
      · split at submits
        · cases submits
        · cases submits
          exact ⟨sound_disableRfi sound, acceptable_disabled nofun nofun, rfl⟩
    · rename_i notPending
      have quiet : 0 < encoder.effectiveLtrSlots → encoder.rfiPending = false := by
        intro slots
        rw [sound.ltrSlots_eq] at notPending
        cases pending : encoder.rfiPending with
        | false => rfl
        | true => exact absurd ⟨pending, slots⟩ notPending
      have idle : encoder.rfiPending = false := by
        cases pending : encoder.rfiPending with
        | false => rfl
        | true => exact absurd (pending.symm.trans (quiet (sound.idle pending))) (by decide)
      split at submits
      · simp only [prepare, Bool.false_eq_true, if_false, Option.isSome_none] at submits
        split at submits
        · cases submits
          exact ⟨sound_disableRfi sound,
            acceptable_disabled (fun other refersTo => lastAccepted_mem refersTo) nofun, rfl⟩
        · cases submits
          refine ⟨sound, acceptable_predecessor sound rfl rfl notOwed idle
            fun several slot marked => ?_, rfl⟩
          cases marked
          rw [← sound.ltrSlots_eq] at several
          exact ⟨rfl, nextPeriodicSlot_pos several⟩
      · cases submits
        exact ⟨sound, acceptable_predecessor sound rfl rfl notOwed idle nofun, rfl⟩

theorem sound_prepare (sound : Sound encoder) (plan : Plan) (answer : Answer) :
    Sound (encoder.prepare plan answer).1 := by
  unfold prepare
  repeat' split
  all_goals first | exact sound | exact sound_disableRfi sound

theorem sound_encodeFrame (sound : Sound encoder) {frameIndex : Nat}
    (fresh : ∀ index, Accepted encoder.log index → index < frameIndex) (answer : Answer) :
    Sound (encoder.encodeFrame frameIndex answer) := by
  have prepared := sound_prepare sound (encoder.plan frameIndex) answer
  unfold encodeFrame
  cases submits : encoder.prepare (encoder.plan frameIndex) answer with
  | mk ready submission =>
      rw [submits] at prepared
      cases submission with
      | none => exact prepared
      | some plan =>
          obtain ⟨_, acceptable, sameLog⟩ := prepare_acceptable sound submits
          simp only
          split
          · exact sound_accept prepared acceptable (sameLog ▸ fresh)
          · exact prepared

/-! ## Runs -/

/-- Frame indices increase. -/
def Increasing : EncoderEvent → Encoder → Prop
  | .encodeFrame frameIndex _, encoder =>
      ∀ index, Accepted encoder.log index → index < frameIndex
  | _, _ => True

theorem sound_step {event : EncoderEvent} (increasing : Increasing event encoder)
    (sound : Sound encoder) : Sound (step event encoder) := by
  cases event with
  | requestIdr => exact sound_requestIdr sound
  | encodeFrame frameIndex answer => exact sound_encodeFrame sound increasing answer
  | invalidateRefFrames firstFrame lastFrame =>
      exact sound_invalidateRefFrames sound firstFrame lastFrame

theorem prepare_state (encoder : Encoder) (plan : Plan) (answer : Answer) :
    (encoder.prepare plan answer).1 = encoder ∨
      (encoder.prepare plan answer).1 = encoder.disableRfi := by
  unfold prepare
  repeat' split
  all_goals first | exact .inl rfl | exact .inr rfl

/-- A step leaves the log alone, or accepts a frame of a submission. -/
theorem encodeFrame_cases (encoder : Encoder) (frameIndex : Nat) (answer : Answer) :
    encoder.encodeFrame frameIndex answer = encoder ∨
      encoder.encodeFrame frameIndex answer = encoder.disableRfi ∨
      ∃ prepared plan,
        encoder.prepare (encoder.plan frameIndex) answer = (prepared, some plan) ∧
        (prepared = encoder ∨ prepared = encoder.disableRfi) ∧
        encoder.encodeFrame frameIndex answer = prepared.accept frameIndex plan := by
  have state := prepare_state encoder (encoder.plan frameIndex) answer
  unfold encodeFrame
  cases submits : encoder.prepare (encoder.plan frameIndex) answer with
  | mk prepared submission =>
      rw [submits] at state
      cases submission with
      | none => exact state.imp id .inl
      | some plan =>
          simp only
          split
          · exact .inr (.inr ⟨prepared, plan, rfl, state, rfl⟩)
          · exact state.imp id .inl

/-- A frame accepted with a forced reference. -/
theorem encodeFrame_anchor (sound : Sound encoder) {frameIndex slot frame : Nat} {answer : Answer}
    (forced : (encoder.encodeFrame frameIndex answer).log =
      encoder.log ++ [.accepted frameIndex (.ltr slot frame)]) :
    encoder.ltrSlotsValid slot = true ∧ encoder.ltrSlotFrameIndex slot = frame ∧
      Accepted encoder.log frame ∧ ¬ Tainted encoder.log frame := by
  have grew : encoder.log ≠ encoder.log ++ [.accepted frameIndex (.ltr slot frame)] := by simp
  rcases encodeFrame_cases encoder frameIndex answer with
    same | disabled | ⟨prepared, plan, submits, state, accepted⟩
  · rw [same] at forced
    exact absurd forced grew
  · rw [disabled] at forced
    exact absurd forced grew
  · obtain ⟨_, acceptable, sameLog⟩ := prepare_acceptable sound submits
    have refersTo : prepared.reference plan = .ltr slot frame := by
      rw [accepted, show (prepared.accept frameIndex plan).log =
        prepared.log ++ [.accepted frameIndex (prepared.reference plan)] from rfl, sameLog] at forced
      have last := List.append_cancel_left forced
      exact (Entry.accepted.inj (List.cons.inj last).1).2
    obtain ⟨valid, holds⟩ := acceptable.anchor slot frame refersTo
    rcases state with rfl | rfl
    · have inside := sound.inside slot valid
      refine ⟨valid, holds, acceptable.refers frame (by rw [refersTo]; rfl),
        acceptable.cleanReference (Nat.zero_lt_of_lt inside) frame (by rw [refersTo]; rfl)⟩
    · cases valid

theorem invalidateRefFrames_slots (firstFrame lastFrame slot : Nat)
    (valid : (encoder.invalidateRefFrames firstFrame lastFrame).ltrSlotsValid slot = true) :
    encoder.ltrSlotsValid slot = true ∧
      (encoder.invalidateRefFrames firstFrame lastFrame).ltrSlotFrameIndex slot =
        encoder.ltrSlotFrameIndex slot := by
  unfold invalidateRefFrames at valid ⊢
  simp only at valid ⊢
  split at valid
  · rename_i disabled
    rw [if_pos disabled]
    exact ⟨valid, rfl⟩
  · rename_i enabled
    rw [if_neg enabled]
    cases found : encoder.bestLtr firstFrame encoder.effectiveLtrSlots with
    | none =>
        rw [found] at valid
        exact ⟨valid, rfl⟩
    | some best =>
        rw [found] at valid
        simp only [invalidateSlots, Bool.and_eq_true] at valid
        exact ⟨valid.1, rfl⟩

/-- Slot 0 belongs to the IDR frames. -/
theorem step_baseline (sound : Sound encoder) (event : EncoderEvent)
    (idr : IdrAccepted encoder.log) (several : encoder.effectiveLtrSlots ≠ 1)
    (noIdr : ∀ index, (step event encoder).log ≠ encoder.log ++ [.accepted index .idr])
    (valid : (step event encoder).ltrSlotsValid 0 = true) :
    encoder.ltrSlotsValid 0 = true ∧
      (step event encoder).ltrSlotFrameIndex 0 = encoder.ltrSlotFrameIndex 0 := by
  cases event with
  | requestIdr => exact ⟨valid, rfl⟩
  | invalidateRefFrames firstFrame lastFrame =>
      exact invalidateRefFrames_slots firstFrame lastFrame 0 valid
  | encodeFrame frameIndex answer =>
      change (encoder.encodeFrame frameIndex answer).ltrSlotsValid 0 = true at valid
      change ∀ index, (encoder.encodeFrame frameIndex answer).log ≠ _ at noIdr
      change _ ∧ (encoder.encodeFrame frameIndex answer).ltrSlotFrameIndex 0 = _
      rcases encodeFrame_cases encoder frameIndex answer with
        same | disabled | ⟨prepared, plan, submits, state, accepted⟩
      · rw [same] at valid ⊢
        exact ⟨valid, rfl⟩
      · rw [disabled] at valid
        cases valid
      · obtain ⟨preparedSound, acceptable, sameLog⟩ := prepare_acceptable sound submits
        rw [accepted] at valid noIdr ⊢
        have notIdr : plan.idr = false := by
          cases plainIdr : plan.idr with
          | false => rfl
          | true =>
              refine absurd ?_ (noIdr frameIndex)
              rw [show (prepared.accept frameIndex plan).log =
                prepared.log ++ [.accepted frameIndex (prepared.reference plan)] from rfl, sameLog]
              simp [reference, plainIdr]
        rcases valid_commit preparedSound frameIndex valid with
          ⟨inside, marked, _⟩ | ⟨before, _, same⟩
        · rcases state with rfl | rfl
          · have more : 1 < prepared.effectiveLtrSlots := by omega
            exact absurd marked (acceptable.periodic more notIdr idr)
          · cases inside
        · rcases state with rfl | rfl
          · exact ⟨before, same⟩
          · cases before

/-- Loss recovery over whole runs: forced references and valid slots are clean,
and slot 0 is marked by IDR frames only. -/
theorem run_clean (maxLtrFrames : Nat) (events : List EncoderEvent)
    (increasing : Transition.Meets step Increasing events (created maxLtrFrames)) :
    let encoder := Transition.run step events (created maxLtrFrames)
    (∀ frameIndex answer slot frame,
      (encoder.encodeFrame frameIndex answer).log =
          encoder.log ++ [.accepted frameIndex (.ltr slot frame)] →
        encoder.ltrSlotsValid slot = true ∧ encoder.ltrSlotFrameIndex slot = frame ∧
          Accepted encoder.log frame ∧ ¬ Tainted encoder.log frame) ∧
    (encoder.idrOwed = false → ∀ slot, encoder.ltrSlotsValid slot = true →
      Accepted encoder.log (encoder.ltrSlotFrameIndex slot) ∧
        ¬ Tainted encoder.log (encoder.ltrSlotFrameIndex slot)) ∧
    (∀ event, IdrAccepted encoder.log → encoder.effectiveLtrSlots ≠ 1 →
      (∀ index, (step event encoder).log ≠ encoder.log ++ [.accepted index .idr]) →
      (step event encoder).ltrSlotsValid 0 = true →
        encoder.ltrSlotsValid 0 = true ∧
          (step event encoder).ltrSlotFrameIndex 0 = encoder.ltrSlotFrameIndex 0) := by
  have sound := Transition.run_preserves_of_meets step Sound
    (fun event encoder increasing => sound_step increasing) increasing (sound_created maxLtrFrames)
  exact ⟨fun frameIndex answer slot frame => encodeFrame_anchor sound,
    fun noIdr slot valid => ⟨sound.holds slot valid, sound.clean noIdr slot valid⟩,
    step_baseline sound⟩

theorem run_clean_recovery :
    let encoder := Transition.run step
      [.requestIdr, .encodeFrame 0 {}, .encodeFrame 4 {}, .encodeFrame 5 {},
       .invalidateRefFrames 5 5] (created 2)
    (∀ frameIndex answer slot frame,
      (encoder.encodeFrame frameIndex answer).log =
          encoder.log ++ [.accepted frameIndex (.ltr slot frame)] →
        encoder.ltrSlotsValid slot = true ∧ encoder.ltrSlotFrameIndex slot = frame ∧
          Accepted encoder.log frame ∧ ¬ Tainted encoder.log frame) ∧
    (encoder.idrOwed = false → ∀ slot, encoder.ltrSlotsValid slot = true →
      Accepted encoder.log (encoder.ltrSlotFrameIndex slot) ∧
        ¬ Tainted encoder.log (encoder.ltrSlotFrameIndex slot)) ∧
    (∀ event, IdrAccepted encoder.log → encoder.effectiveLtrSlots ≠ 1 →
      (∀ index, (step event encoder).log ≠ encoder.log ++ [.accepted index .idr]) →
      (step event encoder).ltrSlotsValid 0 = true →
        encoder.ltrSlotsValid 0 = true ∧
          (step event encoder).ltrSlotFrameIndex 0 = encoder.ltrSlotFrameIndex 0) :=
  run_clean 2 _ (by
    refine ⟨trivial, ?_, ?_, ?_, trivial, trivial⟩ <;>
      rintro index ⟨reference, member⟩ <;>
      simp [step, encodeFrame, prepare, plan, created, ltrSlots, accept, commitRecoveryState,
        maxLtrSlots, ltrMarkInterval] at member <;> omega)

end Encoder

end UmbraHost.Amf
