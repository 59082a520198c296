import UmbraHost.DisplayOperations.ApplyOperation
import UmbraHost.DisplayOperations.CallsMade

/-! # Cancelled work starts no mutation

An observer of a worker's calls remembers whether the token was found clear since the last
sleep, mutation or durable guard, and whether the worker has closed the virtual display. -/

namespace UmbraHost.DisplayOperations

open UmbraHost.DisplayHelper UmbraHost.Interaction

/-- Calls that start a change.  Reopening the virtual display takes one back. -/
def Call.starts : Call → Bool
  | .enableVirtualDisplay => false
  | .resetStagedApplyState => true
  | request => request.changesDisplay

/-- Calls that a token check does not reach across. -/
def Call.intervenes : Call → Bool
  | .sleepFor _ | .mutationBoundary | .resetStagedApplyState => true
  | request => request.changesDisplay

structure Watch where
  checked : Bool := false
  disabled : Bool := false

namespace Watch

def observe (event : Interaction.Event Call Reply) (watch : Watch) : Watch :=
  match event with
  | ⟨.isCancelled, cancelled⟩ => { watch with checked := !cancelled }
  | ⟨.disableVirtualDisplay, disabled⟩ => { checked := false, disabled }
  | ⟨.enableVirtualDisplay, _⟩ => {}
  | ⟨request, _⟩ => if request.intervenes then { watch with checked := false } else watch

def Allows (watch : Watch) (request : Call) : Prop :=
  (request.starts = true → watch.checked = true) ∧
    (request = .enableVirtualDisplay → watch.disabled = true)

end Watch

abbrev clearance : Contract Call Reply Watch := .observing Watch.observe Watch.Allows

/-- Safe from every state of the observer. -/
def Careful (program : Operation α) : Prop :=
  ∀ watch, wp clearance program (fun _ _ => True) watch

/-- Safe behind a token check that found the token clear. -/
def Cleared (program : Operation α) : Prop :=
  ∀ watch : Watch, watch.checked = true → wp clearance program (fun _ _ => True) watch

variable {program : Operation α} {rest : α → Operation β}

theorem Careful.cleared (careful : Careful program) : Cleared program :=
  fun watch _ => careful watch

theorem careful_pure (value : α) : Careful (pure value : Operation α) := fun _ => trivial

theorem careful_bind (front : Careful program) (back : ∀ value, Careful (rest value)) :
    Careful (program >>= rest) :=
  fun watch => wp_seq _ (front watch) fun value after _ => back value after

/-- Calls that need no clearance. -/
def Call.passive (request : Call) : Bool :=
  !request.starts && request ≠ .enableVirtualDisplay

theorem Watch.allows_passive {request : Call} (passive : request.passive = true)
    (watch : Watch) : watch.Allows request := by
  simp only [Call.passive, Bool.and_eq_true, Bool.not_eq_true', decide_eq_true_eq] at passive
  obtain ⟨idle, other⟩ := passive
  constructor
  · intro starts
    rw [idle] at starts
    cases starts
  · intro same
    exact absurd same other

theorem Watch.allows_checked {request : Call} {watch : Watch} (checked : watch.checked = true)
    (other : request ≠ .enableVirtualDisplay) : watch.Allows request :=
  ⟨fun _ => checked, fun same => absurd same other⟩

theorem careful_perform {request : Call} (passive : request.passive = true) :
    Careful (perform request) := by
  intro watch
  rw [wp_observing_perform]
  exact ⟨watch.allows_passive passive, fun _ => trivial⟩

theorem careful_ask {request : Call} {rest : Reply request → Operation α}
    (passive : request.passive = true) (back : ∀ reply, Careful (rest reply)) :
    Careful (perform request >>= rest) :=
  careful_bind (careful_perform passive) back

theorem careful_isCancelled : Careful isCancelled := careful_perform rfl

/-- What a token check guards. -/
theorem careful_gate {refused go : Operation α} (back : Careful refused) (ahead : Cleared go) :
    Careful (isCancelled >>= fun cancelled => if cancelled then refused else go) := by
  intro watch
  simp only [isCancelled, wp_bind, wp_observing_perform]
  refine ⟨watch.allows_passive rfl, fun cancelled => ?_⟩
  cases cancelled with
  | true => exact back _
  | false => exact ahead _ rfl

/-- A token check that nothing depends on. -/
theorem careful_check {refused go : Operation α} (back : Careful refused) (ahead : Careful go) :
    Careful (isCancelled >>= fun cancelled => if cancelled then refused else go) :=
  careful_gate back ahead.cleared

/-- A mutation right behind its token check. -/
theorem cleared_perform {request : Call} {rest : Reply request → Operation α}
    (starts : request.starts = true) (back : ∀ reply, Careful (rest reply)) :
    Cleared (perform request >>= rest) := by
  intro watch checked
  rw [wp_bind, wp_observing_perform]
  have allowed : watch.Allows request := by
    refine ⟨fun _ => checked, fun same => ?_⟩
    rw [same] at starts
    cases starts
  exact ⟨allowed, fun reply => back reply _⟩

theorem Call.passive_of_looks {request : Call} (looks : request.looks = true) :
    request.passive = true := by
  cases request <;> first | rfl | cases looks

theorem careful_of_looks (looks : Looks program) : Careful program := by
  intro watch
  apply looks.keeps (fun _ => True) (fun _ _ _ _ _ _ => trivial)
  · intro watch request looks _
    exact watch.allows_passive (request.passive_of_looks looks)
  · trivial

/-! ## Topology transitions -/

theorem careful_ensureDurableRecovery (armed : Bool) : Careful (ensureDurableRecovery armed) := by
  simp only [ensureDurableRecovery]
  split
  · exact careful_pure _
  · exact careful_perform rfl

theorem careful_armMutationBoundary (boundary : MutationBoundary) (activation : Activation) :
    Careful (armMutationBoundary boundary activation) := by
  simp only [armMutationBoundary]
  split
  · exact careful_pure _
  · split
    · exact careful_pure _
    · exact careful_bind (careful_ensureDurableRecovery _) fun durable => careful_pure _

theorem careful_recoverAndSettle : Careful recoverAndSettle :=
  careful_gate (careful_pure _) (cleared_perform rfl fun _ => careful_of_looks (waits_waitSlices _).looks)

theorem careful_activate (fuel : Nat) (topology : ActiveTopology)
    (target : TopologyActivationTarget) (boundary : MutationBoundary) (left : Nat)
    (activation : Activation) :
    Careful (activate fuel topology target boundary left activation) := by
  induction left generalizing activation with
  | zero => exact careful_pure _
  | succ left ih =>
      apply careful_check (careful_pure _)
      apply careful_bind (careful_armMutationBoundary boundary activation)
      intro armed
      apply careful_gate (careful_pure _)
      apply cleared_perform rfl
      intro applyStatus
      split
      · exact careful_pure _
      · apply careful_bind (careful_of_looks (waits_waitUntilReady _ _ _ _).looks)
        intro ready
        cases ready with
        | some applied => exact careful_bind (careful_perform rfl) fun _ => careful_pure _
        | none =>
            apply careful_check (careful_pure _)
            split
            · exact ih _
            · apply careful_bind careful_recoverAndSettle
              intro settled
              split
              · exact ih _
              · exact careful_bind careful_isCancelled fun _ => careful_pure _

theorem careful_validateForApply (topology : ActiveTopology) (boundary : MutationBoundary) :
    Careful (validateForApply topology boundary) := by
  apply careful_ask rfl
  intro valid
  split
  · exact careful_pure _
  · apply careful_bind (careful_armMutationBoundary boundary _)
    intro armed
    apply careful_check (careful_pure _)
    apply careful_bind careful_recoverAndSettle
    intro settled
    split
    · exact careful_bind careful_isCancelled fun _ => careful_pure _
    · apply careful_ask rfl
      intro valid
      split <;> exact careful_pure _

theorem careful_runTransition (fuel : Nat) (topology : ActiveTopology)
    (mode : TopologyValidationMode) (target : TopologyActivationTarget)
    (boundary : MutationBoundary) :
    Careful (runTransition fuel topology mode target boundary) := by
  apply careful_check (careful_pure _)
  apply careful_ask rfl
  intro valid
  split
  · exact careful_pure _
  · apply careful_bind (careful_of_looks (waits_topologyReady _ _ _).looks)
    intro ready
    cases ready with
    | some current => exact careful_pure _
    | none =>
        dsimp only
        split
        · apply careful_bind (careful_validateForApply topology boundary)
          intro validated
          cases validated with
          | inl outcome => exact careful_pure _
          | inr activation => exact careful_activate _ _ _ _ _ _
        · exact careful_activate _ _ _ _ _ _

/-! ## APPLY -/

theorem careful_restoreBaselineAfterFailedApply (fuel : Nat) (baseline : Snapshot) :
    Careful (restoreBaselineAfterFailedApply fuel baseline) := by
  apply careful_check (careful_pure _)
  apply careful_ask rfl
  intro valid
  split
  · exact careful_pure _
  · apply careful_bind (careful_runTransition _ _ _ _ _)
    intro restore
    split
    · exact careful_pure _
    · apply careful_check (careful_pure _)
      apply careful_gate (careful_pure _)
      apply cleared_perform rfl
      intro applied
      split
      · exact careful_pure _
      · exact careful_gate (careful_pure _) (Careful.cleared (careful_perform rfl))

/-- Between the check and the new origin are only questions about the device. -/
theorem careful_repositionAll (stillPending positions : List (String × Point)) :
    Careful (repositionAll stillPending positions) := by
  induction positions generalizing stillPending with
  | nil => exact careful_pure _
  | cons position rest ih =>
      apply careful_gate (careful_pure _)
      intro watch checked
      split
      · exact ih _ watch
      · simp only [wp_bind, wp_observing_perform]
        refine ⟨Watch.allows_passive rfl _, fun ready => ?_⟩
        split
        · exact ih _ _
        · simp only [wp_bind, wp_observing_perform]
          refine ⟨Watch.allows_passive rfl _, fun resolution => ?_⟩
          refine ⟨Watch.allows_checked checked (fun same => by cases same), fun moved => ?_⟩
          exact ih _ _

theorem careful_repositionUntilDone (left : Nat) (positions : List (String × Point)) :
    Careful (repositionUntilDone left positions) := by
  induction left generalizing positions with
  | zero => exact careful_pure _
  | succ left ih =>
      simp only [repositionUntilDone]
      split
      · exact careful_pure _
      · apply careful_check (careful_pure _)
        apply careful_bind (careful_repositionAll [] positions)
        intro attempted
        cases attempted with
        | none => exact careful_pure _
        | some stillPending =>
            dsimp only
            split
            · exact careful_pure _
            · exact careful_bind (careful_perform rfl) fun _ => ih stillPending

theorem careful_overrideRefreshRates (configured : Option String)
    (rates : List (String × Nat × Nat)) : Careful (overrideRefreshRates configured rates) := by
  induction rates with
  | nil => exact careful_pure _
  | cons rate rest ih =>
      apply careful_gate (careful_pure _)
      intro watch checked
      split
      · exact ih watch
      · split
        · exact ih watch
        · exact cleared_perform rfl (fun _ => ih) watch checked

theorem cleared_applySettings (fuel : Nat) (request : ApplyRequest)
    (configuration : SingleDisplayConfiguration) (baseline : Snapshot)
    (haveRollbackBaseline : Bool) (outcome : ApplyOutcome) :
    Cleared (applySettings fuel request configuration baseline haveRollbackBaseline outcome) := by
  apply cleared_perform rfl
  intro status
  apply careful_check (careful_pure _)
  split
  · apply careful_bind (careful_repositionUntilDone _ _)
    intro _
    apply careful_bind (careful_overrideRefreshRates _ _)
    intro _
    exact careful_bind careful_isCancelled fun _ => careful_pure _
  · have ends (restored : Bool) := careful_bind careful_isCancelled fun cancelled =>
      careful_pure
        { outcome with
          status := if cancelled then .fatal else status
          displayMayHaveChanged := !restored }
    dsimp only
    split
    · exact careful_bind (careful_restoreBaselineAfterFailedApply fuel baseline) ends
    · exact careful_bind (careful_pure false) ends

theorem careful_continueApply (fuel : Nat) (request : ApplyRequest)
    (configuration : SingleDisplayConfiguration) (baseline : Snapshot)
    (haveRollbackBaseline : Bool) (boundary : MutationBoundary) (outcome : ApplyOutcome) :
    Careful (continueApply fuel request configuration baseline haveRollbackBaseline boundary
      outcome) := by
  apply careful_check (careful_pure _)
  have goes (armed : Bool) := careful_gate
    (careful_pure { outcome with durableRecoveryArmed := armed, status := .fatal })
    (cleared_applySettings fuel request configuration baseline haveRollbackBaseline
      { outcome with durableRecoveryArmed := armed })
  dsimp only
  split
  · exact careful_bind (careful_pure _) goes
  · split
    · exact careful_bind (careful_pure _) goes
    · exact careful_bind (careful_ensureDurableRecovery _) goes

theorem careful_activateAndApply (fuel : Nat) (request : ApplyRequest)
    (configuration : SingleDisplayConfiguration) (baseline : Snapshot)
    (haveRollbackBaseline installed armed : Bool) (plan : ApplyTopologyPlan)
    (outcome : ApplyOutcome) :
    Careful (activateAndApply fuel request configuration baseline haveRollbackBaseline installed
      armed plan outcome) := by
  apply careful_bind (careful_runTransition _ _ _ _ _)
  intro topologyOutcome
  dsimp only
  split
  · exact careful_pure _
  · split
    · exact careful_pure _
    · split
      · exact careful_pure _
      · exact careful_continueApply _ _ _ _ _ _ _

theorem careful_applyOperation (fuel : Nat) (request : ApplyRequest) (installed armed : Bool) :
    Careful (applyOperation fuel request installed armed) := by
  apply careful_check (careful_pure _)
  split
  · exact careful_pure _
  · apply careful_ask rfl
    intro baseline
    apply careful_ask rfl
    intro baselineValid
    apply careful_ask rfl
    intro current
    apply careful_ask rfl
    intro currentValid
    split
    · exact careful_pure _
    · apply careful_ask rfl
      intro prepared
      split
      · exact careful_pure _
      · apply careful_ask rfl
        intro computed
        split
        · exact careful_pure _
        · apply careful_ask rfl
          intro planValid
          split
          · exact careful_pure _
          · exact careful_activateAndApply _ _ _ _ _ _ _ _ _

theorem careful_delaySlices (slices : List Nat) : Careful (delaySlices slices) := by
  induction slices with
  | nil => exact careful_pure _
  | cons slice rest ih =>
      apply careful_check (careful_pure _)
      exact careful_bind (careful_perform rfl) fun _ => ih

/-- Waiting does not lose track of a closed virtual display. -/
theorem waitSlices_disabled (slices : List Nat) {watch : Watch} (disabled : watch.disabled = true) :
    wp clearance (waitSlices slices) (fun _ after => after.disabled = true) watch := by
  induction slices generalizing watch with
  | nil =>
      simp only [waitSlices, isCancelled, wp_bind, wp_observing_perform, wp_pure]
      exact ⟨Watch.allows_passive rfl _, fun _ => disabled⟩
  | cons slice rest ih =>
      simp only [waitSlices, isCancelled, wp_bind, wp_observing_perform]
      refine ⟨Watch.allows_passive rfl _, fun cancelled => ?_⟩
      split
      · exact disabled
      · simp only [wp_bind, wp_observing_perform]
        exact ⟨Watch.allows_passive rfl _, fun _ => ih disabled⟩

theorem enable_disabled {rest : Bool → Operation α} {watch : Watch}
    (disabled : watch.disabled = true) (back : ∀ enabled, Careful (rest enabled)) :
    wp clearance (perform .enableVirtualDisplay >>= rest) (fun _ _ => True) watch := by
  rw [wp_bind, wp_observing_perform]
  exact ⟨⟨nofun, fun _ => disabled⟩, fun enabled => back enabled _⟩

theorem careful_resetVirtualDisplay (installed : Bool) (started : ApplyOutcome) :
    Careful (resetVirtualDisplay installed started) := by
  have arms : Careful (armDurableRecoveryBoundary installed) := by
    simp only [armDurableRecoveryBoundary]
    split
    · exact careful_perform rfl
    · exact careful_pure _
  apply careful_check (careful_pure _)
  refine careful_bind arms fun durable => careful_gate (careful_pure _) fun watch checked => ?_
  rw [wp_bind, wp_observing_perform]
  refine ⟨Watch.allows_checked checked (fun same => by cases same), fun disabled => ?_⟩
  cases disabled with
  | false => trivial
  | true =>
      -- From here on every way out reopens the display, or leaves it for good.
      refine wp_seq _ (waitSlices_disabled _ rfl) fun slept after disabled => ?_
      split
      · exact enable_disabled disabled fun _ => careful_pure _
      · simp only [isCancelled, wp_bind, wp_observing_perform]
        refine ⟨Watch.allows_passive rfl _, fun cancelled => ?_⟩
        split
        · exact enable_disabled disabled fun _ => careful_pure _
        · refine enable_disabled disabled fun enabled => ?_
          split
          · exact careful_pure _
          · apply careful_bind (careful_of_looks (waits_waitSlices _).looks)
            intro slept
            split <;> exact careful_pure _

theorem careful_afterReset (fuel : Nat) (request : ApplyRequest) (installed : Bool)
    (resetOutcome : ApplyOutcome ⊕ ApplyOutcome) :
    Careful (match resetOutcome with
      | .inl ended => pure ended
      | .inr virtualReset => do
          let outcome ← applyOperation fuel request installed virtualReset.durableRecoveryArmed
          pure { outcome with
                 virtualDisplayRequested :=
                   outcome.virtualDisplayRequested || virtualReset.virtualDisplayRequested
                 displayMayHaveChanged :=
                   outcome.displayMayHaveChanged || virtualReset.displayMayHaveChanged
                 durableRecoveryArmed :=
                   outcome.durableRecoveryArmed || virtualReset.durableRecoveryArmed }) := by
  cases resetOutcome with
  | inl ended => exact careful_pure _
  | inr virtualReset =>
      exact careful_bind (careful_applyOperation _ _ _ _) fun _ => careful_pure _

theorem careful_applyTask (fuel : Nat) (request : ApplyRequest) (delay : Nat)
    (reset installed : Bool) : Careful (applyTask fuel request delay reset installed) := by
  apply careful_bind (careful_delaySlices _)
  intro waited
  split
  · exact careful_pure _
  · dsimp only
    split
    · exact careful_bind (careful_resetVirtualDisplay _ _) (careful_afterReset _ _ _)
    · exact careful_bind (careful_pure _) (careful_afterReset _ _ _)

/-! ## Restores -/

theorem careful_loadFiltered (tier : SnapshotTier) : Careful (loadFiltered tier) := by
  apply careful_ask rfl
  intro loaded
  cases loaded with
  | none => exact careful_pure _
  | some parsed =>
      apply careful_ask rfl
      intro devices
      exact careful_bind (careful_perform rfl) fun exclusions => careful_pure _

theorem careful_applyOnce (fuel : Nat) (loaded : ParsedSnapshot) :
    Careful (applyOnce fuel loaded) := by
  apply careful_bind (careful_runTransition _ _ _ _ _)
  intro transition
  split
  · exact careful_pure _
  · apply careful_gate (careful_pure _)
    apply cleared_perform rfl
    intro applied
    split
    · exact careful_pure _
    · apply careful_check (careful_pure _)
      split
      · apply careful_gate (careful_pure _)
        intro watch checked
        exact (wp_observing_perform _).mpr
          ⟨Watch.allows_checked checked (fun same => by cases same), fun _ => trivial⟩
      · exact careful_pure _

theorem careful_applyAndVerify (fuel : Nat) (loaded : ParsedSnapshot) :
    Careful (applyAndVerify fuel loaded) := by
  apply careful_bind (careful_applyOnce fuel loaded)
  intro applied
  split
  · exact careful_of_looks (looks_confirmMatches fuel loaded)
  · exact careful_pure _

theorem careful_retryAndConfirm (fuel : Nat) (loaded : ParsedSnapshot) :
    Careful (retryAndConfirm fuel loaded) := by
  apply careful_check (careful_pure _)
  apply careful_bind (careful_of_looks (waits_waitSlices _).looks)
  intro waited
  split
  · exact careful_pure _
  · apply careful_bind (careful_of_looks (looks_confirmMatches fuel loaded))
    intro confirmed
    split
    · exact careful_pure _
    · exact careful_applyAndVerify fuel loaded

theorem careful_applyAndConfirm (fuel : Nat) (loaded : ParsedSnapshot) :
    Careful (applyAndConfirm fuel loaded) := by
  apply careful_ask rfl
  intro _
  apply careful_check (careful_pure _)
  apply careful_bind (careful_of_looks (looks_confirmMatches fuel loaded))
  intro confirmed
  split
  · exact careful_pure _
  · apply careful_check (careful_pure _)
    apply careful_bind (careful_applyAndVerify fuel loaded)
    intro verified
    split
    · exact careful_pure _
    · exact careful_retryAndConfirm fuel loaded

/-- What follows a confirmed restore resets the staged state right behind its check. -/
theorem careful_tryGolden (fuel : Nat) (progress : Progress) :
    Careful (tryGolden fuel progress) := by
  apply careful_check (careful_pure _)
  apply careful_bind (careful_loadFiltered .golden)
  intro golden
  cases golden with
  | none => exact careful_pure _
  | some golden =>
      apply careful_bind (careful_of_looks (looks_shouldSkipGolden _ _))
      intro skipped
      split
      · exact careful_pure _
      · apply careful_ask rfl
        intro valid
        split
        · exact careful_bind (careful_perform rfl) fun _ => careful_pure _
        · apply careful_bind (careful_applyAndConfirm fuel golden)
          intro confirmed
          cases confirmed with
          | true =>
              apply careful_gate (careful_pure _)
              apply cleared_perform rfl
              intro stagedReset
              refine careful_bind ?_ fun _ =>
                careful_bind (careful_perform rfl) fun _ => careful_pure _
              apply careful_ask rfl
              intro _
              exact careful_bind (careful_perform rfl) fun _ => careful_pure _
          | false =>
              apply careful_check (careful_pure _)
              exact careful_bind (careful_perform rfl) fun _ => careful_pure _

theorem careful_trySession (fuel : Nat) (tier : SnapshotTier) (progress : Progress) :
    Careful (trySession fuel tier progress) := by
  apply careful_bind (careful_loadFiltered tier)
  intro loaded
  cases loaded with
  | none => exact careful_pure _
  | some loaded =>
      apply careful_ask rfl
      intro valid
      split
      · exact careful_pure _
      · apply careful_bind (careful_applyAndConfirm fuel loaded)
        intro confirmed
        split
        · exact careful_pure _
        · apply careful_gate (careful_pure _)
          apply cleared_perform rfl
          intro stagedReset
          exact careful_bind (careful_perform rfl) fun now => careful_pure _

theorem careful_promoteCurrentToPrevious : Careful promoteCurrentToPrevious := by
  apply careful_ask rfl
  intro current
  cases current with
  | none => exact careful_pure _
  | some current =>
      apply careful_ask rfl
      intro saved
      split
      · exact careful_pure _
      · exact careful_bind (careful_perform rfl) fun _ => careful_pure _

theorem careful_tryGoldenBeforePrevious (fuel : Nat) (attemptedCurrent : Bool)
    (progress : Progress) : Careful (tryGoldenBeforePrevious fuel attemptedCurrent progress) := by
  simp only [tryGoldenBeforePrevious]
  split
  · apply careful_ask rfl
    intro havePrevious
    split
    · exact careful_pure _
    · apply careful_ask rfl
      intro haveGolden
      split
      · exact careful_pure _
      · exact careful_tryGolden _ _
  · exact careful_pure _

theorem careful_trySessionSnapshots (fuel : Nat) (progress : Progress) :
    Careful (trySessionSnapshots fuel progress) := by
  apply careful_bind (careful_trySession _ _ _)
  intro current
  split
  · exact careful_bind careful_promoteCurrentToPrevious fun _ => careful_pure _
  · apply careful_bind (careful_tryGoldenBeforePrevious _ _ _)
    intro golden
    split
    · exact careful_pure _
    · apply careful_bind (careful_trySession _ _ _)
      intro previous
      split
      · split
        · exact careful_bind (careful_perform rfl) fun _ => careful_pure _
        · exact careful_pure _
      · exact careful_pure _

theorem careful_restoreGoldenFirst (fuel : Nat) (progress : Progress) :
    Careful (restoreGoldenFirst fuel progress) := by
  apply careful_bind (careful_tryGolden _ _)
  intro golden
  split
  · exact careful_pure _
  · apply careful_bind (careful_trySessionSnapshots _ _)
    intro session
    split
    · apply careful_bind (careful_loadFiltered .golden)
      intro pending
      cases pending with
      | none => exact careful_bind (careful_perform rfl) fun _ => careful_pure _
      | some pending =>
          dsimp only
          split <;> exact careful_pure _
    · exact careful_pure _

theorem careful_restoreSessionFirst (fuel : Nat) (progress : Progress) :
    Careful (restoreSessionFirst fuel progress) := by
  apply careful_bind (careful_trySessionSnapshots _ _)
  intro session
  split
  · split
    · exact careful_bind (careful_perform rfl) fun _ => careful_pure _
    · exact careful_pure _
  · split
    · exact careful_pure _
    · apply careful_bind (careful_tryGolden _ _)
      intro golden
      split <;> exact careful_pure _

theorem careful_recovery (fuel : Nat) (restoreState : RestoreState) :
    Careful (recovery fuel restoreState) := by
  apply careful_check (careful_pure _)
  dsimp only
  split
  · exact careful_restoreGoldenFirst _ _
  · exact careful_restoreSessionFirst _ _

/-! ## What the observer has seen -/

/-- The token was found clear, and neither a sleep nor a mutation nor a durable guard came
after that. -/
def FoundClear (trace : Trace) : Prop :=
  ∃ before between, trace = before ++ ⟨.isCancelled, false⟩ :: between ∧
    ∀ event ∈ between, event.1.intervenes = false

/-- The virtual display was closed and not reopened since. -/
def Closed (trace : Trace) : Prop :=
  ∃ before between, trace = before ++ ⟨.disableVirtualDisplay, true⟩ :: between ∧
    ∀ event ∈ between, event.1 ≠ .enableVirtualDisplay

theorem FoundClear.concat {trace : Trace} (clear : FoundClear trace)
    {event : Interaction.Event Call Reply} (passive : event.1.intervenes = false) :
    FoundClear (trace ++ [event]) := by
  obtain ⟨before, between, rfl, quiet⟩ := clear
  refine ⟨before, between ++ [event], by simp, fun other member => ?_⟩
  rcases List.mem_append.mp member with old | new
  · exact quiet other old
  · rw [List.mem_singleton.mp new]
    exact passive

theorem Closed.concat {trace : Trace} (closed : Closed trace)
    {event : Interaction.Event Call Reply} (other : event.1 ≠ .enableVirtualDisplay) :
    Closed (trace ++ [event]) := by
  obtain ⟨before, between, rfl, quiet⟩ := closed
  refine ⟨before, between ++ [event], by simp, fun earlier member => ?_⟩
  rcases List.mem_append.mp member with old | new
  · exact quiet earlier old
  · rw [List.mem_singleton.mp new]
    exact other

/-- What the observer's state says about the calls so far. -/
structure Watch.Reports (watch : Watch) (trace : Trace) : Prop where
  checked : watch.checked = true → FoundClear trace
  disabled : watch.disabled = true → Closed trace

theorem Watch.observe_of_ne {request : Call} (reply : Reply request) (watch : Watch)
    (token : request ≠ .isCancelled) (close : request ≠ .disableVirtualDisplay)
    (reopen : request ≠ .enableVirtualDisplay) :
    watch.observe ⟨request, reply⟩ =
      if request.intervenes then { watch with checked := false } else watch := by
  cases request <;> first | rfl | contradiction

theorem Watch.Reports.observe {watch : Watch} {trace : Trace} (reports : watch.Reports trace)
    (event : Interaction.Event Call Reply) :
    (watch.observe event).Reports (trace ++ [event]) := by
  obtain ⟨request, reply⟩ := event
  by_cases token : request = .isCancelled
  · subst token
    refine ⟨fun clear => ⟨trace, [], ?_, nofun⟩, fun disabled => ?_⟩
    · cases reply with
      | true => cases clear
      | false => rfl
    · exact (reports.disabled disabled).concat nofun
  by_cases close : request = .disableVirtualDisplay
  · subst close
    refine ⟨nofun, fun disabled => ⟨trace, [], ?_, nofun⟩⟩
    cases reply with
    | true => rfl
    | false => cases disabled
  by_cases reopen : request = .enableVirtualDisplay
  · subst reopen
    exact ⟨nofun, nofun⟩
  rw [Watch.observe_of_ne reply watch token close reopen]
  split
  next => exact ⟨nofun, fun disabled => (reports.disabled disabled).concat reopen⟩
  next quiet =>
    exact ⟨fun clear => (reports.checked clear).concat (by simpa using quiet),
      fun disabled => (reports.disabled disabled).concat reopen⟩

theorem Watch.reports_run (trace : Trace) : (Transition.run Watch.observe trace {}).Reports trace := by
  induction trace using List.reverseRecOn with
  | nil => exact ⟨nofun, nofun⟩
  | append_singleton trace event ih =>
      rw [Transition.run_append]
      exact ih.observe event

/-! ## Runs of the workers -/

/-- Mutations start behind a token check that found the token clear, at most one of them
once it is cancelled, and only a virtual display that was closed is reopened. -/
structure Disciplined (trace : Trace) : Prop where
  checked : ∀ front event back, trace = front ++ event :: back → event.1.starts = true →
    FoundClear front
  reopened : ∀ front reopened back, trace = front ++ ⟨.enableVirtualDisplay, reopened⟩ :: back →
    Closed front
  cancelled : ∀ front back, trace = front ++ back →
    (∀ reply, ⟨.isCancelled, reply⟩ ∈ back → reply = true) →
    (back.filter fun event => event.1.starts).length ≤ 1

theorem starts_intervenes {request : Call} (starts : request.starts = true) :
    request.intervenes = true := by
  cases request <;> first | rfl | cases starts

/-- The check of a second mutation comes behind the first one. -/
theorem check_between {front middle : Trace} {first : Interaction.Event Call Reply}
    (starts : first.1.starts = true) (clear : FoundClear (front ++ first :: middle)) :
    ⟨.isCancelled, false⟩ ∈ middle := by
  obtain ⟨before, between, same, quiet⟩ := clear
  have different : first ≠ ⟨.isCancelled, false⟩ := by
    rintro rfl
    cases starts
  rcases List.append_eq_append_iff.mp same with ⟨gap, -, behind⟩ | ⟨gap, -, ahead⟩
  · cases gap with
    | nil => exact absurd (List.cons.inj behind).1 different
    | cons _ gap =>
        rw [(List.cons.inj behind).2]
        simp
  · cases gap with
    | nil => exact absurd (List.cons.inj ahead).1.symm different
    | cons _ gap =>
        have passive := quiet first (by rw [(List.cons.inj ahead).2]; simp)
        rw [starts_intervenes starts] at passive
        cases passive

theorem at_most_one_of_checked {trace : Trace}
    (checked : ∀ front event back, trace = front ++ event :: back → event.1.starts = true →
      FoundClear front) {front back : Trace} (split : trace = front ++ back)
    (flipped : ∀ reply, ⟨.isCancelled, reply⟩ ∈ back → reply = true) :
    (back.filter fun event => event.1.starts).length ≤ 1 := by
  cases mutations : back.filter fun event => event.1.starts with
  | nil => exact Nat.zero_le 1
  | cons first later =>
      cases later with
      | nil => exact Nat.le_refl 1
      | cons second later =>
          obtain ⟨before, behind, rfl, -, starts, kept⟩ := List.filter_eq_cons_iff.mp mutations
          obtain ⟨middle, rest, rfl, -, again, -⟩ := List.filter_eq_cons_iff.mp kept
          have clear := checked (front ++ before ++ first :: middle) second rest (by simp [split])
            again
          have between := check_between starts clear
          cases flipped false (by simp [between])

/-- A careful program's runs are disciplined. -/
theorem Careful.disciplined (careful : Careful program) {trace : Trace} {result : Option α}
    (runs : Runs program trace result) : Disciplined trace := by
  have seen (front : Trace) := Watch.reports_run front
  have allowed : ∀ front event back, trace = front ++ event :: back →
      (Transition.run Watch.observe front {}).Allows event.1 := by
    rintro front event back rfl
    have follows : Follows clearance {} front (Transition.run Watch.observe front {}) :=
      follows_observing front _
    exact wp_safe runs follows (careful {})
  have checked : ∀ front event back, trace = front ++ event :: back → event.1.starts = true →
      FoundClear front := fun front event back split starts =>
    (seen front).checked ((allowed front event back split).1 starts)
  exact {
    checked
    reopened := fun front reopened back split =>
      (seen front).disabled ((allowed front _ back split).2 rfl)
    cancelled := fun front back => at_most_one_of_checked checked }

/-- Runs of the task of an APPLY and of a restore, finished or as far as they have got. -/
inductive Work : Trace → Prop where
  | apply {fuel : Nat} {request : ApplyRequest} {delay : Nat} {reset installed : Bool}
      {trace : Trace} {result : Option ApplyOutcome}
      (runs : Runs (applyTask fuel request delay reset installed) trace result) : Work trace
  | restore {fuel : Nat} {restoreState : RestoreState} {trace : Trace}
      {result : Option Progress} (runs : Runs (recovery fuel restoreState) trace result) :
      Work trace

/-- Whatever the token, the display and the storage do, every mutation of a worker comes
right behind a token check, so that at most one is made once the worker is cancelled. -/
theorem work_disciplined {trace : Trace} (work : Work trace) : Disciplined trace := by
  cases work with
  | apply runs => exact (careful_applyTask _ _ _ _ _).disciplined runs
  | restore runs => exact (careful_recovery _ _).disciplined runs

/-- One monitor in place. -/
def oneMonitor : Desk where
  snapshot := { topology := [["DISPLAY1"]] }
  devices := [{ deviceId := "DISPLAY1", hasInfo := true }]

def resettingTask : Trace :=
  ((applyTask 1 { configuration := some {} } 250 true true).play Desk.answer oneMonitor).1

/-- The virtual display is closed and reopened, and the settings are applied. -/
theorem resettingTask_disciplined :
    (resettingTask.filter fun event => event.1.changesDisplay).map (·.1) =
        [.disableVirtualDisplay, .enableVirtualDisplay, .apply {}] ∧
      Disciplined resettingTask :=
  ⟨by decide +kernel, work_disciplined (.apply (.play _ _ _))⟩

end UmbraHost.DisplayOperations
