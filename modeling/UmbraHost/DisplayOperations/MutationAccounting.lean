import UmbraHost.DisplayOperations.ApplyOperation
import UmbraHost.DisplayOperations.CallsMade

/-! # The mutations of an APPLY are accounted for

An observer of the task's calls keeps the last snapshot that was captured before the display
changed, whether it was found in place again behind the last mutation, and whether the durable
guard has been asked for. -/

namespace UmbraHost.DisplayOperations

open UmbraHost.DisplayHelper UmbraHost.Interaction

structure Ledger where
  baseline : Option Snapshot := none
  changed : Bool := false
  restored : Bool := false
  guarded : Bool := false

namespace Ledger

def observe (event : Interaction.Event Call Reply) (ledger : Ledger) : Ledger :=
  match event with
  | ⟨.captureSnapshot, snapshot⟩ =>
      if ledger.changed then ledger else { ledger with baseline := some snapshot }
  | ⟨.snapshotMatchesCurrent snapshot, found⟩ =>
      if found && ledger.baseline = some snapshot then { ledger with restored := true }
      else ledger
  | ⟨.mutationBoundary, _⟩ => { ledger with guarded := true }
  | ⟨request, _⟩ =>
      if request.changesDisplay then { ledger with changed := true, restored := false }
      else ledger

/-- The durable guard, if there is one, has been asked for. -/
def Guarded (installed : Bool) (ledger : Ledger) : Prop :=
  installed = true → ledger.guarded = true

/-- What stays while the display changes. -/
structure Kept (before after : Ledger) : Prop where
  baseline : after.baseline = before.baseline
  guarded : before.guarded = true → after.guarded = true

theorem Kept.refl (ledger : Ledger) : Kept ledger ledger := ⟨rfl, id⟩

theorem Kept.trans {first second third : Ledger} (front : Kept first second)
    (back : Kept second third) : Kept first third :=
  ⟨back.baseline.trans front.baseline, back.guarded ∘ front.guarded⟩

theorem Kept.guard {before after : Ledger} {installed : Bool} (kept : Kept before after)
    (guarded : before.Guarded installed) : after.Guarded installed :=
  fun present => kept.guarded (guarded present)

/-- What an outcome says of the ledger since the start. -/
structure Accounts (installed : Bool) (start now : Ledger) (mayHaveChanged armed : Bool) : Prop
    extends Kept start now where
  untouched : mayHaveChanged = false → now.changed = start.changed
  guard : mayHaveChanged = true → now.Guarded installed
  armed : armed = true → now.guarded = true

end Ledger

open Ledger

abbrev accounting (installed : Bool) : Contract Call Reply Ledger :=
  .observing Ledger.observe fun ledger request =>
    request.changesDisplay = true → ledger.Guarded installed

variable {installed : Bool} {ledger start : Ledger}

theorem observe_of_waits {request : Call} (waits : request.waits = true) (reply : Reply request)
    (ledger : Ledger) : ledger.observe ⟨request, reply⟩ = ledger := by
  cases request <;> first | rfl | cases waits

theorem changesDisplay_of_waits {request : Call} (waits : request.waits = true) :
    request.changesDisplay = false := by
  cases request <;> first | rfl | cases waits

theorem wp_of_waits {program : Operation α} (waits : Waits program) :
    wp (accounting installed) program (fun _ after => after = ledger) ledger := by
  refine OnlyCalls.keeps waits (· = ledger) ?_ ?_ rfl
  · rintro before ⟨request, reply⟩ after waits rfl moved
    exact moved.trans (observe_of_waits waits reply before)
  · intro before request waits _ changes
    rw [changesDisplay_of_waits waits] at changes
    cases changes

theorem wp_waiting {program : Operation α} {rest : α → Operation β} {post : β → Ledger → Prop}
    (waits : Waits program) (back : ∀ value, wp (accounting installed) (rest value) post ledger) :
    wp (accounting installed) (program >>= rest) post ledger := by
  apply wp_seq _ (wp_of_waits waits)
  intro value after same
  rw [same]
  exact back value

theorem wp_token {refused go : Operation α} {post : α → Ledger → Prop}
    (back : wp (accounting installed) refused post ledger)
    (ahead : wp (accounting installed) go post ledger) :
    wp (accounting installed)
      (isCancelled >>= fun cancelled => if cancelled then refused else go) post ledger := by
  apply wp_waiting (onlyCalls_done rfl)
  intro cancelled
  cases cancelled
  · exact ahead
  · exact back

/-- A call that changes the display. -/
theorem wp_changing {request : Call} {rest : Reply request → Operation α}
    {post : α → Ledger → Prop} (guarded : ledger.Guarded installed)
    (changes : ∀ reply, ledger.observe ⟨request, reply⟩ =
      { ledger with changed := true, restored := false })
    (back : ∀ reply, wp (accounting installed) (rest reply) post
      { ledger with changed := true, restored := false }) :
    wp (accounting installed) (perform request >>= rest) post ledger := by
  rw [wp_bind, wp_observing_perform]
  exact ⟨fun _ => guarded, fun reply => by rw [changes reply]; exact back reply⟩

theorem kept_changed (ledger : Ledger) :
    Kept ledger { ledger with changed := true, restored := false } := ⟨rfl, id⟩

/-! ## Topology transitions -/

/-- A boundary that counts the guard as armed has asked for it; without a boundary it has
been asked for before. -/
def BoundaryFits (installed : Bool) (boundary : MutationBoundary) (ledger : Ledger) : Prop :=
  match boundary with
  | none => ledger.Guarded installed
  | some armed => armed = true → ledger.guarded = true

theorem BoundaryFits.mono {boundary : MutationBoundary} {after : Ledger}
    (fits : BoundaryFits installed boundary ledger) (kept : Kept ledger after) :
    BoundaryFits installed boundary after := by
  cases boundary with
  | none => exact kept.guard fits
  | some armed => exact fun present => kept.guarded (fits present)

structure Activating (installed : Bool) (start now : Ledger) (activation : Activation) : Prop
    extends Accounts installed start now activation.outcome.displayMayHaveChanged
      activation.outcome.durableRecoveryArmed where
  reached : activation.mutationBoundaryReached = true → now.Guarded installed

theorem activating_start : Activating installed ledger ledger {} :=
  { Kept.refl ledger with
    untouched := fun _ => rfl
    guard := nofun
    armed := nofun
    reached := nofun }

theorem Activating.ended {activation : Activation} (activating : Activating installed start ledger
    activation) (status : ApplyStatus) :
    Accounts installed start ledger (activation.ended status).displayMayHaveChanged
      (activation.ended status).durableRecoveryArmed :=
  activating.toAccounts

/-- Behind the boundary the display may change. -/
theorem Activating.changing {activation : Activation} {after : Ledger}
    (activating : Activating installed start ledger activation)
    (reached : activation.mutationBoundaryReached = true) (kept : Kept ledger after) :
    Activating installed start after activation.changing :=
  { activating.toKept.trans kept with
    untouched := nofun
    guard := fun _ => kept.guard (activating.reached reached)
    armed := fun armed => kept.guarded (activating.armed armed)
    reached := fun reached => kept.guard (activating.reached reached) }

theorem armMutationBoundary_spec {boundary : MutationBoundary} {activation : Activation}
    (fits : BoundaryFits installed boundary ledger)
    (activating : Activating installed start ledger activation) :
    wp (accounting installed) (armMutationBoundary boundary activation) (fun armed after =>
      Activating installed start after armed ∧ armed.mutationBoundaryReached = true ∧
        Kept ledger after) ledger := by
  simp only [armMutationBoundary]
  split
  next reached => exact ⟨activating, reached, .refl _⟩
  next =>
    cases boundary with
    | none => exact ⟨{ activating with reached := fun _ => fits }, rfl, .refl _⟩
    | some armed =>
        dsimp only
        simp only [ensureDurableRecovery]
        split
        next already =>
          refine ⟨{ activating with armed := fun _ => fits already, reached := ?_ }, rfl, .refl _⟩
          exact fun _ _ => fits already
        next =>
          simp only [wp_bind, wp_observing_perform]
          refine ⟨(fun changes => by cases changes), fun durable => ⟨?_, rfl, ⟨rfl, fun _ => rfl⟩⟩⟩
          exact {
            baseline := activating.baseline
            guarded := fun _ => rfl
            untouched := activating.untouched
            guard := fun _ _ => rfl
            armed := fun _ => rfl
            reached := fun _ _ => rfl }

theorem recoverAndSettle_spec (guarded : ledger.Guarded installed) :
    wp (accounting installed) recoverAndSettle (fun _ after => Kept ledger after) ledger := by
  refine wp_token (.refl _) (wp_changing guarded (fun _ => rfl) fun _ => ?_)
  refine wp_mono (fun _ after same => ?_) (wp_of_waits (waits_waitSlices _))
  rw [same]
  exact kept_changed ledger

theorem activate_spec {boundary : MutationBoundary} {activation : Activation} (fuel : Nat)
    (topology : ActiveTopology) (target : TopologyActivationTarget) (left : Nat)
    (fits : BoundaryFits installed boundary ledger)
    (activating : Activating installed start ledger activation) :
    wp (accounting installed) (activate fuel topology target boundary left activation)
      (fun outcome after => Accounts installed start after outcome.displayMayHaveChanged
        outcome.durableRecoveryArmed) ledger := by
  induction left generalizing activation ledger with
  | zero => exact activating.ended .retryable
  | succ left ih =>
      refine wp_token (activating.ended .fatal) ?_
      apply wp_seq _ (armMutationBoundary_spec fits activating)
      rintro armed after ⟨activating, reached, kept⟩
      have fits := fits.mono kept
      refine wp_token (activating.ended .fatal) ?_
      apply wp_changing (activating.reached reached) (fun _ => rfl)
      intro applyStatus
      have changed := activating.changing reached (kept_changed after)
      have fits := fits.mono (kept_changed after)
      split
      · exact changed.ended applyStatus
      · apply wp_waiting (waits_waitUntilReady fuel topology target _)
        intro ready
        cases ready with
        | some applied =>
            apply wp_waiting (onlyCalls_done rfl)
            intro _
            exact changed.toAccounts
        | none =>
            refine wp_token (changed.ended .fatal) ?_
            split
            · exact ih fits changed
            · apply wp_seq _ (recoverAndSettle_spec (changed.reached reached))
              intro settled later moved
              have again := changed.changing reached moved
              split
              · exact ih (fits.mono moved) again
              · apply wp_waiting (onlyCalls_done rfl)
                intro cancelled
                exact again.toAccounts

theorem validateForApply_spec {boundary : MutationBoundary} (topology : ActiveTopology)
    (fits : BoundaryFits installed boundary ledger) :
    wp (accounting installed) (validateForApply topology boundary) (fun validated after =>
      match validated with
      | .inl outcome => Accounts installed ledger after outcome.displayMayHaveChanged
          outcome.durableRecoveryArmed
      | .inr activation => Activating installed ledger after activation ∧ Kept ledger after)
      ledger := by
  rw [validateForApply, wp_bind, wp_observing_perform]
  refine ⟨nofun, fun valid => ?_⟩
  split
  · exact ⟨activating_start, .refl _⟩
  · apply wp_seq _ (armMutationBoundary_spec fits activating_start)
    rintro armed after ⟨activating, reached, kept⟩
    refine wp_token (activating.ended .fatal) ?_
    apply wp_seq _ (recoverAndSettle_spec (activating.reached reached))
    intro settled later moved
    have changed := activating.changing reached moved
    split
    · exact wp_waiting (onlyCalls_done rfl) fun cancelled => changed.toAccounts
    · rw [wp_bind, wp_observing_perform]
      refine ⟨nofun, fun valid => ?_⟩
      split
      · exact ⟨changed, kept.trans moved⟩
      · exact changed.toAccounts

theorem runTransition_spec {boundary : MutationBoundary} (fuel : Nat)
    (topology : ActiveTopology) (mode : TopologyValidationMode)
    (target : TopologyActivationTarget) (fits : BoundaryFits installed boundary ledger) :
    wp (accounting installed) (runTransition fuel topology mode target boundary)
      (fun outcome after => Accounts installed ledger after outcome.displayMayHaveChanged
        outcome.durableRecoveryArmed) ledger := by
  have untouched : Accounts installed ledger ledger false false :=
    activating_start.toAccounts
  refine wp_token untouched ?_
  apply wp_waiting (onlyCalls_done rfl)
  intro valid
  split
  · exact untouched
  · apply wp_waiting (waits_topologyReady _ _ _)
    intro ready
    cases ready with
    | some current => exact untouched
    | none =>
        dsimp only
        split
        · apply wp_seq _ (validateForApply_spec topology fits)
          intro validated after accounts
          cases validated with
          | inl outcome => exact accounts
          | inr activation =>
              exact activate_spec fuel topology target _ (fits.mono accounts.2) accounts.1
        · exact activate_spec fuel topology target _ fits activating_start

/-! ## APPLY -/

/-- A baseline that is restored was found in place behind the last mutation. -/
theorem restoreBaselineAfterFailedApply_spec (fuel : Nat) (baseline : Snapshot)
    (guarded : ledger.Guarded installed) :
    wp (accounting installed) (restoreBaselineAfterFailedApply fuel baseline)
      (fun restored after => restored = true → ledger.baseline = some baseline →
        after.restored = true) ledger := by
  refine wp_token nofun ?_
  apply wp_waiting (onlyCalls_done rfl)
  intro valid
  split
  · exact nofun
  · have fits : BoundaryFits installed none ledger := guarded
    apply wp_seq _ (runTransition_spec fuel _ _ _ fits)
    intro restore after accounts
    split
    · exact nofun
    · refine wp_token nofun (wp_token nofun ?_)
      apply wp_changing (accounts.toKept.guard guarded) (fun _ => rfl)
      intro applied
      split
      · exact nofun
      · refine wp_token nofun ?_
        rw [wp_observing_perform]
        refine ⟨nofun, fun found isFound same => ?_⟩
        have taken : after.baseline = some baseline := accounts.baseline.trans same
        simp [Ledger.observe, isFound, taken]

theorem repositionAll_spec (stillPending positions : List (String × Point))
    (guarded : ledger.Guarded installed) :
    wp (accounting installed) (repositionAll stillPending positions)
      (fun _ after => after.Guarded installed) ledger := by
  induction positions generalizing stillPending ledger with
  | nil => exact guarded
  | cons position rest ih =>
      refine wp_token guarded ?_
      split
      · exact ih _ guarded
      · rw [wp_bind, wp_observing_perform]
        refine ⟨nofun, fun ready => ?_⟩
        split
        · exact ih _ guarded
        · rw [wp_bind, wp_observing_perform]
          refine ⟨nofun, fun resolution => ?_⟩
          exact wp_changing guarded (fun _ => rfl) fun moved => ih _ guarded

theorem repositionUntilDone_spec (left : Nat) (positions : List (String × Point))
    (guarded : ledger.Guarded installed) :
    wp (accounting installed) (repositionUntilDone left positions)
      (fun _ after => after.Guarded installed) ledger := by
  induction left generalizing positions ledger with
  | zero => exact guarded
  | succ left ih =>
      simp only [repositionUntilDone]
      split
      · exact guarded
      · refine wp_token guarded ?_
        apply wp_seq _ (repositionAll_spec [] positions guarded)
        intro attempted after guarded
        cases attempted with
        | none => exact guarded
        | some stillPending =>
            dsimp only
            split
            · exact guarded
            · exact wp_waiting (onlyCalls_done rfl) fun _ => ih stillPending guarded

theorem overrideRefreshRates_spec (configured : Option String)
    (rates : List (String × Nat × Nat)) (guarded : ledger.Guarded installed) :
    wp (accounting installed) (overrideRefreshRates configured rates)
      (fun _ after => after.Guarded installed) ledger := by
  induction rates generalizing ledger with
  | nil => exact guarded
  | cons rate rest ih =>
      refine wp_token guarded ?_
      split
      · exact ih guarded
      · split
        · exact ih guarded
        · exact wp_changing guarded (fun _ => rfl) fun _ => ih guarded

/-- An outcome that takes back the report of a change has the baseline in place. -/
def Settles (start : Ledger) (baseline : Snapshot) (outcome : ApplyOutcome) (after : Ledger) :
    Prop :=
  start.changed = false → start.baseline = some baseline →
    outcome.displayMayHaveChanged = false → after.changed = true → after.restored = true

theorem applySettings_spec (fuel : Nat) (request : ApplyRequest)
    (configuration : SingleDisplayConfiguration) (baseline : Snapshot)
    (haveRollbackBaseline : Bool) (outcome : ApplyOutcome) (guarded : ledger.Guarded installed)
    (same : ledger.baseline = start.baseline) :
    wp (accounting installed)
      (applySettings fuel request configuration baseline haveRollbackBaseline outcome)
      (Settles start baseline) ledger := by
  apply wp_changing guarded (fun _ => rfl)
  intro status
  refine wp_token (fun _ _ => nofun) ?_
  split
  · refine wp_seq _ (repositionUntilDone_spec _ _ guarded) fun _ after guarded => ?_
    refine wp_seq _ (overrideRefreshRates_spec _ _ guarded) fun _ after guarded => ?_
    exact wp_waiting (onlyCalls_done rfl) fun cancelled => fun _ _ => nofun
  · dsimp only
    split
    · refine wp_seq _ (restoreBaselineAfterFailedApply_spec fuel baseline guarded)
        fun restored after inPlace => wp_waiting (onlyCalls_done rfl) fun cancelled => ?_
      intro _ taken back _
      exact inPlace (by simpa using back) (same.trans taken)
    · rw [wp_bind, wp_pure]
      apply wp_waiting (onlyCalls_done rfl)
      intro cancelled _ _ back
      cases back

theorem continueApply_spec {boundary : MutationBoundary} (fuel : Nat) (request : ApplyRequest)
    (configuration : SingleDisplayConfiguration) (baseline : Snapshot)
    (haveRollbackBaseline : Bool) {outcome : ApplyOutcome}
    (fits : BoundaryFits installed boundary ledger)
    (accounts : Accounts installed start ledger outcome.displayMayHaveChanged
      outcome.durableRecoveryArmed) :
    wp (accounting installed)
      (continueApply fuel request configuration baseline haveRollbackBaseline boundary outcome)
      (Settles start baseline) ledger := by
  have unsettled {ended : ApplyOutcome} {after : Ledger}
      (same : ended.displayMayHaveChanged = outcome.displayMayHaveChanged)
      (kept : after.changed = ledger.changed) : Settles start baseline ended after := by
    intro unchanged _ silent changed
    rw [kept, accounts.untouched (same.symm.trans silent), unchanged] at changed
    cases changed
  have goes {after : Ledger} (armed : Bool) (kept : after.changed = ledger.changed)
      (same : after.baseline = ledger.baseline) (guarded : after.Guarded installed) :
      wp (accounting installed)
        (isCancelled >>= fun cancelled =>
          if cancelled then
            pure { outcome with durableRecoveryArmed := armed, status := .fatal }
          else
            applySettings fuel request configuration baseline haveRollbackBaseline
              { outcome with durableRecoveryArmed := armed })
        (Settles start baseline) after :=
    wp_token (unsettled rfl kept)
      (applySettings_spec _ _ _ _ _ _ guarded (same.trans accounts.baseline))
  refine wp_token (unsettled rfl rfl) ?_
  dsimp only
  split
  next changing => exact goes outcome.durableRecoveryArmed rfl rfl (accounts.guard changing)
  next =>
    cases boundary with
    | none => exact goes outcome.durableRecoveryArmed rfl rfl fits
    | some armed =>
        dsimp only
        simp only [ensureDurableRecovery]
        split
        next already => exact goes true rfl rfl fun _ => fits already
        next =>
          rw [wp_bind, wp_observing_perform]
          exact ⟨(fun changes => by cases changes), fun durable => goes durable rfl rfl fun _ => rfl⟩

theorem activateAndApply_spec (fuel : Nat) (request : ApplyRequest)
    (configuration : SingleDisplayConfiguration) (baseline : Snapshot)
    (haveRollbackBaseline armed : Bool) (plan : ApplyTopologyPlan) (outcome : ApplyOutcome)
    (asked : armed = true → ledger.guarded = true) :
    wp (accounting installed)
      (activateAndApply fuel request configuration baseline haveRollbackBaseline installed armed
        plan outcome)
      (Settles ledger baseline) ledger := by
  have fits {armed : Bool} {now : Ledger} (asked : armed = true → now.guarded = true) :
      BoundaryFits installed (if installed then some armed else none) now := by
    cases installed with
    | true => exact asked
    | false => exact nofun
  apply wp_seq _ (runTransition_spec fuel _ _ _ (fits asked))
  intro topologyOutcome after accounts
  have silent {ended : ApplyOutcome}
      (same : ended.displayMayHaveChanged = topologyOutcome.displayMayHaveChanged) :
      Settles ledger baseline ended after := by
    intro unchanged _ silent changed
    rw [accounts.untouched (same.symm.trans silent), unchanged] at changed
    cases changed
  have askedAfter : (armed || topologyOutcome.durableRecoveryArmed) = true →
      after.guarded = true := by
    intro either
    rcases Bool.or_eq_true_iff.mp either with before | now
    · exact accounts.guarded (asked before)
    · exact accounts.armed now
  dsimp only
  split
  · exact silent rfl
  · split
    · exact silent rfl
    · split
      · exact silent rfl
      · exact continueApply_spec fuel request configuration baseline haveRollbackBaseline
          (fits askedAfter) { accounts with armed := askedAfter }

/-- What an outcome owes of the ledger, from a start where nothing has changed. -/
def Settled (start : Ledger) (outcome : ApplyOutcome) (after : Ledger) : Prop :=
  start.changed = false → outcome.displayMayHaveChanged = false → after.changed = true →
    after.restored = true

theorem applyOperation_spec (fuel : Nat) (request : ApplyRequest) (armed : Bool)
    (asked : armed = true → ledger.guarded = true) :
    wp (accounting installed) (applyOperation fuel request installed armed) (Settled ledger)
      ledger := by
  have untouched (outcome : ApplyOutcome) {after : Ledger}
      (same : after.changed = ledger.changed) : Settled ledger outcome after := by
    intro unchanged _ changed
    rw [same, unchanged] at changed
    cases changed
  refine wp_token (untouched _ rfl) ?_
  split
  · exact untouched _ rfl
  · rw [wp_bind, wp_observing_perform]
    refine ⟨nofun, fun baseline => ?_⟩
    have same : (ledger.observe ⟨.captureSnapshot, baseline⟩).changed = ledger.changed := by
      simp only [Ledger.observe]
      split <;> rfl
    have guarded : (ledger.observe ⟨.captureSnapshot, baseline⟩).guarded = ledger.guarded := by
      simp only [Ledger.observe]
      split <;> rfl
    have taken : ledger.changed = false →
        (ledger.observe ⟨.captureSnapshot, baseline⟩).baseline = some baseline := by
      intro unchanged
      simp [Ledger.observe, unchanged]
    generalize ledger.observe ⟨.captureSnapshot, baseline⟩ = captured at same guarded taken
    apply wp_waiting (onlyCalls_done rfl)
    intro baselineValid
    apply wp_waiting (onlyCalls_done rfl)
    intro current
    apply wp_waiting (onlyCalls_done rfl)
    intro currentValid
    split
    · exact untouched _ same
    · rw [wp_bind, wp_observing_perform]
      refine ⟨nofun, fun prepared => ?_⟩
      split
      · exact untouched _ same
      · rw [wp_bind, wp_observing_perform]
        refine ⟨nofun, fun computed => ?_⟩
        split
        · exact untouched _ same
        · apply wp_waiting (onlyCalls_done rfl)
          intro planValid
          split
          · exact untouched _ same
          · refine wp_mono (fun outcome after settles => ?_)
              (activateAndApply_spec fuel request _ baseline _ armed _ _ fun present =>
                guarded.trans (asked present))
            exact fun unchanged => settles (same.trans unchanged) (taken unchanged)

/-! ## The task -/

theorem waits_delaySlices (slices : List Nat) : Waits (delaySlices slices) := by
  induction slices with
  | nil => trivial
  | cons slice rest ih =>
      apply waits_ask rfl
      intro cancelled
      split
      · trivial
      · exact .bind (onlyCalls_done rfl) fun _ => ih

theorem armDurableRecoveryBoundary_spec :
    wp (accounting installed) (armDurableRecoveryBoundary installed) (fun durable after =>
      after.Guarded installed ∧ (durable = true → after.guarded = true) ∧
        after.changed = ledger.changed) ledger := by
  simp only [armDurableRecoveryBoundary]
  split
  · rw [wp_observing_perform]
    exact ⟨nofun, fun durable => ⟨fun _ => rfl, fun _ => rfl, rfl⟩⟩
  next absent => exact ⟨fun present => absurd present absent, nofun, rfl⟩

theorem resetVirtualDisplay_spec (started : ApplyOutcome) (unchanged : ledger.changed = false) :
    wp (accounting installed) (resetVirtualDisplay installed started) (fun resetOutcome after =>
      match resetOutcome with
      | .inl ended => ended.displayMayHaveChanged = false → after.changed = false
      | .inr virtualReset => virtualReset.displayMayHaveChanged = true ∧
          (virtualReset.durableRecoveryArmed = true → after.guarded = true)) ledger := by
  refine wp_token (fun _ => unchanged) ?_
  refine wp_seq _ armDurableRecoveryBoundary_spec fun durable after ⟨guarded, asked, same⟩ => ?_
  refine wp_token (fun _ => same.trans unchanged) ?_
  apply wp_changing guarded (fun _ => rfl)
  intro disabled
  split
  · exact nofun
  · apply wp_waiting (waits_waitSlices _)
    intro slept
    split
    · exact wp_changing guarded (fun _ => rfl) fun _ => nofun
    · refine wp_token (wp_changing guarded (fun _ => rfl) fun _ => nofun) ?_
      apply wp_changing guarded (fun _ => rfl)
      intro enabled
      split
      · exact nofun
      · apply wp_waiting (waits_waitSlices _)
        intro slept
        split
        · exact ⟨rfl, asked⟩
        · exact nofun

theorem applyTask_spec (fuel : Nat) (request : ApplyRequest) (delay : Nat)
    (reset installed : Bool)
    (unchanged : ledger.changed = false) :
    wp (accounting installed) (applyTask fuel request delay reset installed)
      (fun outcome after => outcome.displayMayHaveChanged = false → after.changed = true →
        after.restored = true) ledger := by
  have silent {after : Ledger} (same : after.changed = false) : after.changed = true →
      after.restored = true := fun changed => by rw [same] at changed; cases changed
  apply wp_waiting (waits_delaySlices _)
  intro waited
  split
  · exact fun _ => silent unchanged
  · dsimp only
    split
    · apply wp_seq _ (resetVirtualDisplay_spec _ unchanged)
      intro resetOutcome after spec
      cases resetOutcome with
      | inl ended => exact fun same => silent (spec same)
      | inr virtualReset =>
          obtain ⟨changed, asked⟩ := spec
          apply wp_seq _ (applyOperation_spec fuel request _ asked)
          intro outcome later _ taken
          simp [changed] at taken
    · rw [wp_bind, wp_pure]
      refine wp_seq _ (applyOperation_spec fuel request _ nofun) fun outcome later settled => ?_
      intro taken
      exact settled unchanged (by simpa using taken)

/-! ## What the observer has seen -/

/-- The snapshot captured before the first mutation was found in place behind the last one. -/
def BackInPlace (trace : Trace) : Prop :=
  ∃ baseline before between after,
    trace = before ++ ⟨.captureSnapshot, baseline⟩ :: between ++
      ⟨.snapshotMatchesCurrent baseline, true⟩ :: after ∧
    (∀ event ∈ before, event.1.changesDisplay = false) ∧
    ∀ event ∈ after, event.1.changesDisplay = false

/-- A capture that no mutation precedes. -/
def CapturedFirst (baseline : Snapshot) (trace : Trace) : Prop :=
  ∃ before after, trace = before ++ ⟨.captureSnapshot, baseline⟩ :: after ∧
    ∀ event ∈ before, event.1.changesDisplay = false

structure Ledger.Reports (ledger : Ledger) (trace : Trace) : Prop where
  unchanged : ledger.changed = false → ∀ event ∈ trace, event.1.changesDisplay = false
  baseline : ∀ baseline, ledger.baseline = some baseline → CapturedFirst baseline trace
  restored : ledger.restored = true → BackInPlace trace
  guarded : ledger.guarded = true → ∃ durable, ⟨.mutationBoundary, durable⟩ ∈ trace

theorem forall_concat {trace : Trace} {event : Interaction.Event Call Reply}
    (all : ∀ other ∈ trace, other.1.changesDisplay = false)
    (passive : event.1.changesDisplay = false) :
    ∀ other ∈ trace ++ [event], other.1.changesDisplay = false := by
  intro other member
  rcases List.mem_append.mp member with old | new
  · exact all other old
  · rw [List.mem_singleton.mp new]
    exact passive

theorem CapturedFirst.concat {trace : Trace} {baseline : Snapshot}
    (captured : CapturedFirst baseline trace) (event : Interaction.Event Call Reply) :
    CapturedFirst baseline (trace ++ [event]) := by
  obtain ⟨before, after, rfl, quiet⟩ := captured
  exact ⟨before, after ++ [event], by simp, quiet⟩

theorem BackInPlace.concat {trace : Trace} (inPlace : BackInPlace trace)
    {event : Interaction.Event Call Reply} (passive : event.1.changesDisplay = false) :
    BackInPlace (trace ++ [event]) := by
  obtain ⟨baseline, before, between, after, rfl, quiet, still⟩ := inPlace
  exact ⟨baseline, before, between, after ++ [event], by simp, quiet, forall_concat still passive⟩

/-- An event that the observer takes no note of. -/
theorem Ledger.Reports.passive {trace : Trace} (reports : ledger.Reports trace)
    {event : Interaction.Event Call Reply} (passive : event.1.changesDisplay = false) :
    ledger.Reports (trace ++ [event]) where
  unchanged same := forall_concat (reports.unchanged same) passive
  baseline baseline taken := (reports.baseline baseline taken).concat event
  restored inPlace := (reports.restored inPlace).concat passive
  guarded asked := by
    obtain ⟨durable, member⟩ := reports.guarded asked
    exact ⟨durable, List.mem_append_left _ member⟩

theorem Ledger.observe_of_changes {request : Call} (changes : request.changesDisplay = true)
    (reply : Reply request) (ledger : Ledger) :
    ledger.observe ⟨request, reply⟩ = { ledger with changed := true, restored := false } := by
  cases request <;> first | rfl | cases changes

theorem Ledger.Reports.observe {trace : Trace} (reports : ledger.Reports trace)
    (event : Interaction.Event Call Reply) :
    (ledger.observe event).Reports (trace ++ [event]) := by
  obtain ⟨request, reply⟩ := event
  cases changes : request.changesDisplay with
  | true =>
      rw [Ledger.observe_of_changes changes]
      exact {
        unchanged := nofun
        baseline := fun baseline taken => (reports.baseline baseline taken).concat _
        restored := nofun
        guarded := fun asked => by
          obtain ⟨durable, member⟩ := reports.guarded asked
          exact ⟨durable, List.mem_append_left _ member⟩ }
  | false =>
      have passive : ledger.Reports (trace ++ [⟨request, reply⟩]) := reports.passive changes
      cases request with
      | captureSnapshot =>
          simp only [Ledger.observe]
          split
          · exact passive
          next unchanged =>
            have quiet := reports.unchanged (by simpa using unchanged)
            refine { passive with baseline := fun baseline taken => ?_ }
            cases taken
            exact ⟨trace, [], rfl, quiet⟩
      | snapshotMatchesCurrent snapshot =>
          simp only [Ledger.observe]
          split
          next found =>
            obtain ⟨found, taken⟩ := Bool.and_eq_true_iff.mp found
            obtain ⟨before, between, rfl, quiet⟩ :=
              reports.baseline snapshot (of_decide_eq_true taken)
            refine { passive with
              restored := fun _ => ⟨snapshot, before, between, [], ?_, quiet, nofun⟩ }
            rw [show reply = true from found]
          next => exact passive
      | mutationBoundary =>
          exact { passive with guarded := fun _ => ⟨reply, by simp⟩ }
      | _ => first | exact passive | cases changes

theorem Ledger.reports_run (trace : Trace) :
    (Transition.run Ledger.observe trace {}).Reports trace := by
  induction trace using List.reverseRecOn with
  | nil => exact ⟨fun _ => nofun, nofun, nofun, nofun⟩
  | append_singleton trace event ih =>
      rw [Transition.run_append]
      exact ih.observe event

/-! ## Runs of the task -/

/-- In every run of the task of an APPLY the durable guard, if there is one, is asked for
before the first mutation, and an outcome that reports no change after a mutation has found
the baseline in place behind the last one. -/
theorem applyTask_accounted {fuel : Nat} {request : ApplyRequest} {delay : Nat}
    {reset installed : Bool} {trace : Trace} {result : Option ApplyOutcome}
    (runs : Runs (applyTask fuel request delay reset installed) trace result) :
    (installed = true → ∀ front event back, trace = front ++ event :: back →
      event.1.changesDisplay = true → ∃ durable, ⟨.mutationBoundary, durable⟩ ∈ front) ∧
    ∀ outcome, result = some outcome → outcome.displayMayHaveChanged = false →
      (∃ event ∈ trace, event.1.changesDisplay = true) → BackInPlace trace := by
  let start : Ledger := {}
  have unchanged : start.changed = false := rfl
  have spec := applyTask_spec fuel request delay reset installed unchanged
  have follows (front : Trace) : Follows (accounting installed) start front
      (Transition.run Ledger.observe front {}) := follows_observing front _
  constructor
  · rintro present front event back rfl changes
    exact (Ledger.reports_run front).guarded (wp_safe runs (follows front) spec changes present)
  · rintro outcome rfl unchanged ⟨event, member, changes⟩
    have reports := Ledger.reports_run trace
    refine reports.restored (wp_result runs (follows trace) spec unchanged ?_)
    by_contra same
    have passive := reports.unchanged (by simpa using same) event member
    rw [changes] at passive
    cases passive

/-- One monitor that no settings can be applied to. -/
def refusingDesk (desk : Desk) : (request : Call) → Reply request × Desk
  | .apply _ => (.fatal, desk)
  | request => desk.answer request

def refusedTask : Trace × Option ApplyOutcome :=
  (applyTask 1 { configuration := some {} } 0 false true).play refusingDesk
    { snapshot :=
        { topology := [["DISPLAY1"]], modes := [("DISPLAY1", ⟨⟨1920, 1080⟩, ⟨60, 1⟩⟩)] }
      devices := [{ deviceId := "DISPLAY1", hasInfo := true }] }

/-- Settings that are refused are followed by the settings of the baseline. -/
theorem refusedTask_accounted :
    refusedTask.2.map (·.displayMayHaveChanged) = some false ∧
      (refusedTask.1.filter fun event => event.1.changesDisplay).length = 2 ∧
      BackInPlace refusedTask.1 := by
  have reported : refusedTask.2.map (·.displayMayHaveChanged) = some false := by decide +kernel
  have mutations : (refusedTask.1.filter fun event => event.1.changesDisplay).length = 2 := by
    decide +kernel
  refine ⟨reported, mutations, ?_⟩
  obtain ⟨outcome, ended, unchanged⟩ := Option.map_eq_some_iff.mp reported
  refine (applyTask_accounted (.play refusingDesk _ _)).2 outcome ended unchanged ?_
  obtain ⟨event, member⟩ := List.exists_mem_of_length_pos (mutations ▸ Nat.zero_lt_two)
  exact ⟨event, (List.mem_filter.mp member).1, (List.mem_filter.mp member).2⟩

end UmbraHost.DisplayOperations
