import UmbraHost.DisplayOperations.RecoveryOperation

/-! # Which calls the operations make

Waiting for a topology and confirming a snapshot only look at the display; a restore of one
snapshot does not touch the stored ones. -/

namespace UmbraHost.DisplayOperations

open UmbraHost.DisplayHelper UmbraHost.Interaction

/-- Calls of a wait for a topology. -/
def Call.waits : Call → Bool
  | .isCancelled | .now | .sleepFor _ | .enumerate | .captureTopology | .topologyIsValid _
  | .isTopologySame _ _ => true
  | _ => false

/-- Calls that look at the display. -/
def Call.looks : Call → Bool
  | .captureSnapshot | .currentLayoutMatches _ => true
  | request => request.waits

/-- Calls that the stored snapshots do not take part in. -/
def Call.sparesStorage : Call → Bool
  | .loadWithMetadata _ | .save _ _ _ | .remove _ => false
  | _ => true

/-- Calls that, besides, leave the health of the golden snapshot alone. -/
def Call.restores : Call → Bool
  | .noteIssue _ | .clearStatus _ | .registerUnresolved _ => false
  | request => request.sparesStorage

theorem Call.looks_of_waits {request : Call} (waits : request.waits = true) :
    request.looks = true := by
  cases request <;> first | rfl | exact waits

theorem Call.restores_of_looks {request : Call} (looks : request.looks = true) :
    request.restores = true := by
  cases request <;> first | rfl | cases looks

theorem Call.sparesStorage_of_restores {request : Call} (restores : request.restores = true) :
    request.sparesStorage = true := by
  cases request <;> first | rfl | exact restores

abbrev Waits (program : Operation α) : Prop := OnlyCalls (Call.waits · = true) program

abbrev Looks (program : Operation α) : Prop := OnlyCalls (Call.looks · = true) program

abbrev SparesStorage (program : Operation α) : Prop :=
  OnlyCalls (Call.sparesStorage · = true) program

abbrev Restores (program : Operation α) : Prop := OnlyCalls (Call.restores · = true) program

variable {program : Operation α} {allowed : Call → Prop}

theorem Restores.sparesStorage (restores : Restores program) : SparesStorage program :=
  restores.mono fun _ => Call.sparesStorage_of_restores

theorem Looks.restores (looks : Looks program) : Restores program :=
  looks.mono fun _ => Call.restores_of_looks

theorem Waits.looks (waits : Waits program) : Looks program :=
  waits.mono fun _ => Call.looks_of_waits

theorem onlyCalls_done {request : Call} (may : allowed request) :
    OnlyCalls allowed (perform request) :=
  (onlyCalls_perform request).mpr may

theorem waits_ask {request : Call} {rest : Reply request → Operation α}
    (may : request.waits = true) (back : ∀ reply, Waits (rest reply)) :
    Waits (perform request >>= rest) :=
  .bind (onlyCalls_done may) back

theorem looks_ask {request : Call} {rest : Reply request → Operation α}
    (may : request.looks = true) (back : ∀ reply, Looks (rest reply)) :
    Looks (perform request >>= rest) :=
  .bind (onlyCalls_done may) back

theorem restores_ask {request : Call} {rest : Reply request → Operation α}
    (may : request.restores = true) (back : ∀ reply, Restores (rest reply)) :
    Restores (perform request >>= rest) :=
  .bind (onlyCalls_done may) back

/-! ## Waiting -/

theorem waits_waitSlices (slices : List Nat) : Waits (waitSlices slices) := by
  induction slices with
  | nil => exact .bind (onlyCalls_done rfl) fun _ => trivial
  | cons slice rest ih =>
      apply waits_ask rfl
      intro cancelled
      split
      · trivial
      · exact .bind (onlyCalls_done rfl) fun _ => ih

theorem waits_topologyReady (requested : ActiveTopology) (target : TopologyActivationTarget)
    (allowOsAdjustment : Bool) : Waits (topologyReady requested target allowOsAdjustment) := by
  apply waits_ask rfl
  intro current
  apply waits_ask rfl
  intro valid
  split
  · trivial
  · apply waits_ask rfl
    intro exactMatch
    split
    · trivial
    · split
      · trivial
      · split
        · trivial
        · apply waits_ask rfl
          intro devices
          split <;> trivial

theorem waits_pollReady (requested : ActiveTopology) (target : TopologyActivationTarget)
    (allowOsAdjustment : Bool) (deadline : Time) (round : Unit) :
    Waits (pollReady requested target allowOsAdjustment deadline round) := by
  apply waits_ask rfl
  intro cancelled
  split
  · trivial
  · apply OnlyCalls.bind (waits_topologyReady requested target allowOsAdjustment)
    intro ready
    cases ready with
    | some topology => trivial
    | none =>
        apply waits_ask rfl
        intro now
        dsimp only
        split
        · trivial
        · apply OnlyCalls.bind (waits_waitSlices _)
          intro waited
          split <;> trivial

theorem waits_waitUntilReady (fuel : Nat) (requested : ActiveTopology)
    (target : TopologyActivationTarget) (allowOsAdjustment : Bool) :
    Waits (waitUntilReady fuel requested target allowOsAdjustment) :=
  .bind (onlyCalls_done rfl) fun _ =>
    .loop (fun round => waits_pollReady requested target allowOsAdjustment _ round) fuel ()

/-! ## Confirming -/

theorem looks_pollStable (start : Time) (last : Option Snapshot) :
    Looks (pollStable start last) := by
  apply looks_ask rfl
  intro now
  split
  · trivial
  · apply looks_ask rfl
    intro cancelled
    split
    · trivial
    · apply looks_ask rfl
      intro current
      split
      · trivial
      · apply looks_ask rfl
        intro cancelled
        split
        · trivial
        · exact .bind (onlyCalls_done rfl) fun _ => trivial

theorem looks_readStableSnapshot (fuel : Nat) : Looks (readStableSnapshot fuel) :=
  .bind (onlyCalls_done rfl) fun start =>
    .loop (fun last => looks_pollStable start last) fuel none

theorem looks_pollQuiet (fuel : Nat) (base : Snapshot) (start : Time) (round : Unit) :
    Looks (pollQuiet fuel base start round) := by
  apply looks_ask rfl
  intro now
  split
  · trivial
  · apply looks_ask rfl
    intro cancelled
    split
    · trivial
    · apply OnlyCalls.bind (looks_readStableSnapshot fuel)
      intro current
      split
      · trivial
      · apply looks_ask rfl
        intro cancelled
        split
        · trivial
        · exact .bind (onlyCalls_done rfl) fun _ => trivial

theorem looks_quietPeriod (fuel : Nat) : Looks (quietPeriod fuel) := by
  apply OnlyCalls.bind (looks_readStableSnapshot fuel)
  intro base
  cases base with
  | none => trivial
  | some base =>
      exact .bind (onlyCalls_done rfl) fun start =>
        .loop (fun round => looks_pollQuiet fuel base start round) fuel ()

theorem looks_confirmStable (fuel : Nat) (loaded : ParsedSnapshot) (stable : Option Snapshot)
    (layoutOk : Bool) :
    Looks (match stable with
      | none => pure false
      | some current =>
          if equalSnapshotsStrict current loaded.snapshot && layoutOk then quietPeriod fuel
          else pure false) := by
  cases stable with
  | none => trivial
  | some current =>
      dsimp only
      split
      · exact looks_quietPeriod fuel
      · trivial

theorem looks_confirmMatches (fuel : Nat) (loaded : ParsedSnapshot) :
    Looks (confirmMatches fuel loaded) := by
  apply OnlyCalls.bind (looks_readStableSnapshot fuel)
  intro stable
  apply looks_ask rfl
  intro cancelled
  dsimp only
  split
  · trivial
  · split
    · exact .bind (onlyCalls_done rfl) (looks_confirmStable fuel loaded stable)
    · exact .bind trivial (looks_confirmStable fuel loaded stable)

/-! ## Restoring one snapshot -/

theorem restores_ensureDurableRecovery (armed : Bool) :
    Restores (ensureDurableRecovery armed) := by
  simp only [ensureDurableRecovery]
  split
  · trivial
  · exact onlyCalls_done rfl

theorem restores_armMutationBoundary (boundary : MutationBoundary)
    (activation : Activation) : Restores (armMutationBoundary boundary activation) := by
  simp only [armMutationBoundary]
  split
  · trivial
  · split
    · trivial
    · exact .bind (restores_ensureDurableRecovery _) fun durable => trivial

theorem restores_recoverAndSettle : Restores recoverAndSettle := by
  apply restores_ask rfl
  intro cancelled
  split
  · trivial
  · exact .bind (onlyCalls_done rfl) fun _ => (waits_waitSlices _).looks.restores

theorem restores_activate (fuel : Nat) (topology : ActiveTopology)
    (target : TopologyActivationTarget) (boundary : MutationBoundary) (left : Nat)
    (activation : Activation) :
    Restores (activate fuel topology target boundary left activation) := by
  induction left generalizing activation with
  | zero => trivial
  | succ left ih =>
      apply restores_ask rfl
      intro cancelled
      split
      · trivial
      · apply OnlyCalls.bind (restores_armMutationBoundary boundary activation)
        intro armed
        apply restores_ask rfl
        intro cancelled
        split
        · trivial
        · apply restores_ask rfl
          intro applyStatus
          dsimp only
          split
          · trivial
          · apply OnlyCalls.bind (waits_waitUntilReady _ _ _ _).looks.restores
            intro ready
            cases ready with
            | some applied => exact .bind (onlyCalls_done rfl) fun _ => trivial
            | none =>
                apply restores_ask rfl
                intro cancelled
                split
                · trivial
                · split
                  · exact ih _
                  · apply OnlyCalls.bind restores_recoverAndSettle
                    intro settled
                    split
                    · exact ih _
                    · exact .bind (onlyCalls_done rfl) fun _ => trivial

theorem restores_validateForApply (topology : ActiveTopology)
    (boundary : MutationBoundary) : Restores (validateForApply topology boundary) := by
  apply restores_ask rfl
  intro valid
  split
  · trivial
  · apply OnlyCalls.bind (restores_armMutationBoundary boundary _)
    intro armed
    apply restores_ask rfl
    intro cancelled
    split
    · trivial
    · apply OnlyCalls.bind restores_recoverAndSettle
      intro settled
      split
      · exact .bind (onlyCalls_done rfl) fun _ => trivial
      · apply restores_ask rfl
        intro valid
        split <;> trivial

theorem restores_runTransition (fuel : Nat) (topology : ActiveTopology)
    (mode : TopologyValidationMode) (target : TopologyActivationTarget)
    (boundary : MutationBoundary) :
    Restores (runTransition fuel topology mode target boundary) := by
  apply restores_ask rfl
  intro cancelled
  split
  · trivial
  · apply restores_ask rfl
    intro valid
    split
    · trivial
    · apply OnlyCalls.bind (waits_topologyReady _ _ _).looks.restores
      intro ready
      cases ready with
      | some current => trivial
      | none =>
          dsimp only
          split
          · apply OnlyCalls.bind (restores_validateForApply topology boundary)
            intro validated
            cases validated with
            | inl outcome => trivial
            | inr activation => exact restores_activate _ _ _ _ _ _
          · exact restores_activate _ _ _ _ _ _

theorem restores_applyOnce (fuel : Nat) (loaded : ParsedSnapshot) :
    Restores (applyOnce fuel loaded) := by
  apply OnlyCalls.bind (restores_runTransition _ _ _ _ _)
  intro transition
  split
  · trivial
  · apply restores_ask rfl
    intro cancelled
    split
    · trivial
    · apply restores_ask rfl
      intro applied
      split
      · trivial
      · apply restores_ask rfl
        intro cancelled
        split
        · trivial
        · split
          · apply restores_ask rfl
            intro cancelled
            split
            · trivial
            · exact onlyCalls_done rfl
          · trivial

theorem restores_applyAndVerify (fuel : Nat) (loaded : ParsedSnapshot) :
    Restores (applyAndVerify fuel loaded) := by
  apply OnlyCalls.bind (restores_applyOnce fuel loaded)
  intro applied
  split
  · exact (looks_confirmMatches fuel loaded).restores
  · trivial

theorem restores_retryAndConfirm (fuel : Nat) (loaded : ParsedSnapshot) :
    Restores (retryAndConfirm fuel loaded) := by
  apply restores_ask rfl
  intro cancelled
  split
  · trivial
  · apply OnlyCalls.bind (waits_waitSlices _).looks.restores
    intro waited
    split
    · trivial
    · apply OnlyCalls.bind (looks_confirmMatches fuel loaded).restores
      intro confirmed
      split
      · trivial
      · exact restores_applyAndVerify fuel loaded

theorem restores_applyAndConfirm (fuel : Nat) (loaded : ParsedSnapshot) :
    Restores (applyAndConfirm fuel loaded) := by
  apply restores_ask rfl
  intro _
  apply restores_ask rfl
  intro cancelled
  split
  · trivial
  · apply OnlyCalls.bind (looks_confirmMatches fuel loaded).restores
    intro confirmed
    split
    · trivial
    · apply restores_ask rfl
      intro cancelled
      split
      · trivial
      · apply OnlyCalls.bind (restores_applyAndVerify fuel loaded)
        intro verified
        split
        · trivial
        · exact restores_retryAndConfirm fuel loaded

theorem sparesStorage_applyAndConfirm (fuel : Nat) (loaded : ParsedSnapshot) :
    SparesStorage (applyAndConfirm fuel loaded) :=
  (restores_applyAndConfirm fuel loaded).sparesStorage

theorem looks_shouldSkipGolden (lastSessionRestoreSuccessMs : Int) (golden : Snapshot) :
    Looks (shouldSkipGolden lastSessionRestoreSuccessMs golden) := by
  apply looks_ask rfl
  intro now
  split
  · trivial
  · split
    · trivial
    · refine .bind ?_ fun present => trivial
      apply looks_ask rfl
      intro snapshot
      exact .bind (onlyCalls_done rfl) fun devices => trivial

end UmbraHost.DisplayOperations
