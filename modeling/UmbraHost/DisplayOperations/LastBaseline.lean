import UmbraHost.DisplayOperations.CancelledWork

/-! # A restore keeps the last baseline

`RecoveryOperation::run` over a storage whose failed save leaves the old tier as it was.  It
promotes and removes session tiers, but only once a snapshot was restored that is still
stored then. -/

namespace UmbraHost.DisplayOperations

open UmbraHost.DisplayHelper UmbraHost.Interaction

/-- What each tier holds for the next load. -/
abbrev StoredTiers := SnapshotTier → Option ParsedSnapshot

/-- A storage behind the calls.  Saved snapshots are read back with their layout; a removal may
fail. -/
def Stores (before : StoredTiers) : Interaction.Event Call Reply → StoredTiers → Prop
  | ⟨.loadWithMetadata tier, loaded⟩, after => loaded = before tier ∧ after = before
  | ⟨.save tier snapshot layoutRotations, saved⟩, after =>
      if saved then ∃ kept : ParsedSnapshot, kept.snapshot = snapshot ∧
        kept.layoutRotations = layoutRotations ∧ after = Function.update before tier (some kept)
      else after = before
  | ⟨.remove tier, _⟩, after => after = before ∨ after = Function.update before tier none
  | _, after => after = before

def Loadable (tiers : StoredTiers) : Prop := ∃ tier, tiers tier ≠ none

/-- Golden stays as it is, and something to restore is left. -/
structure SparesBaseline (before after : StoredTiers) : Prop where
  golden : after .golden = before .golden
  loadable : Loadable before → Loadable after

theorem SparesBaseline.refl (tiers : StoredTiers) : SparesBaseline tiers tiers := ⟨rfl, id⟩

theorem SparesBaseline.trans {first second third : StoredTiers}
    (front : SparesBaseline first second) (back : SparesBaseline second third) :
    SparesBaseline first third :=
  ⟨back.golden.trans front.golden, back.loadable ∘ front.loadable⟩

/-- Each call by itself has to spare the baseline, so a run spares it wherever it ends. -/
def storage : Contract Call Reply StoredTiers where
  moves := Stores
  safe before request :=
    ∀ reply after, Stores before ⟨request, reply⟩ after → SparesBaseline before after

abbrev Log := Logged Call Reply StoredTiers

/-- A snapshot was read from a tier and filtered by the devices and exclusions of that moment. -/
structure LoadedFrom (tiers : StoredTiers) (trace : Trace) (tier : SnapshotTier)
    (stored loaded : ParsedSnapshot) : Prop where
  there : tiers tier = some stored
  read : ∃ devices exclusions,
    [⟨.loadWithMetadata tier, some stored⟩, ⟨.enumerate, devices⟩,
        ⟨.exclusions, exclusions⟩] <:+: trace ∧
      filterLoadedSnapshot stored devices exclusions = some loaded

/-- Some tier has the snapshot and the layout of `stored`. -/
def Holds (tiers : StoredTiers) (stored : ParsedSnapshot) : Prop :=
  ∃ tier kept, tiers tier = some kept ∧ kept.snapshot = stored.snapshot ∧
    kept.layoutRotations = stored.layoutRotations

/-- The snapshot was made of a stored one, and that is stored now. -/
def RestorableAgain (tiers : StoredTiers) (snapshot : Option Snapshot) (log : Log) : Prop :=
  ∃ tier stored loaded, LoadedFrom tiers log.trace tier stored loaded ∧
    snapshot = some loaded.snapshot ∧ Holds log.state stored

variable {tiers : StoredTiers} {log after : Log} {stored loaded : ParsedSnapshot}
  {tier : SnapshotTier}

theorem LoadedFrom.grow {trace later : Trace} (source : LoadedFrom tiers trace tier stored loaded)
    (grown : trace <+: later) : LoadedFrom tiers later tier stored loaded := by
  obtain ⟨there, devices, exclusions, inside, filtered⟩ := source
  exact ⟨there, devices, exclusions, inside.trans grown.isInfix, filtered⟩

theorem holds_of_there (there : tiers tier = some stored) : Holds tiers stored :=
  ⟨tier, stored, there, rfl, rfl⟩

theorem RestorableAgain.grow {snapshot : Option Snapshot}
    (restorable : RestorableAgain tiers snapshot log) (same : after.state = log.state)
    (grown : log.trace <+: after.trace) :
    RestorableAgain tiers snapshot after := by
  obtain ⟨tier, stored, loaded, source, isRestored, held⟩ := restorable
  refine ⟨tier, stored, loaded, source.grow grown, isRestored, ?_⟩
  rw [same]
  exact held

/-! ## Rules of the calls -/

theorem Stores.of_spares {before after : StoredTiers} {event : Interaction.Event Call Reply}
    (spares : event.1.sparesStorage = true) (stores : Stores before event after) :
    after = before := by
  obtain ⟨request, reply⟩ := event
  cases request <;> first | exact stores | cases spares

theorem storage_safe_of_spares {request : Call} (spares : request.sparesStorage = true)
    (before : StoredTiers) : storage.safe before request := by
  intro reply after stores
  have same : after = before := Stores.of_spares spares stores
  rw [same]
  exact .refl before

section Rules

variable {program : Operation α} {post : β → Log → Prop}

/-- A call that the stored snapshots take no part in. -/
theorem wp_spared {request : Call} {rest : Reply request → Operation β}
    (spares : request.sparesStorage = true)
    (goes : ∀ reply, wp storage.logged (rest reply) post
      ⟨log.trace ++ [⟨request, reply⟩], log.state⟩) :
    wp storage.logged (perform request >>= rest) post log := by
  apply (wp_bind _ _).mpr
  apply (wp_perform _).mpr
  refine ⟨storage_safe_of_spares spares _, ?_⟩
  intro reply ⟨trace, state⟩ ⟨written, stores⟩
  obtain rfl : state = log.state := Stores.of_spares spares stores
  obtain rfl : trace = _ := written
  exact goes reply

theorem wp_sparing {rest : α → Operation β} (spares : SparesStorage program)
    (goes : ∀ value after, after.state = log.state → log.trace <+: after.trace →
      wp storage.logged (rest value) post after) :
    wp storage.logged (program >>= rest) post log := by
  apply wp_seq fun _ after => after.state = log.state ∧ log.trace <+: after.trace
  · apply OnlyCalls.logged spares fun after => after = log.state
    · intro before event after allowed same stores
      exact (Stores.of_spares allowed stores).trans same
    · intro before request allowed _
      exact storage_safe_of_spares allowed before
    · rfl
  · intro value after ⟨same, grown⟩
    exact goes value after same grown

theorem wp_load {rest : Option ParsedSnapshot → Operation β}
    (goes : wp storage.logged (rest (log.state tier)) post
      ⟨log.trace ++ [⟨.loadWithMetadata tier, log.state tier⟩], log.state⟩) :
    wp storage.logged (perform (.loadWithMetadata tier) >>= rest) post log := by
  apply (wp_bind _ _).mpr
  apply (wp_perform _).mpr
  refine ⟨?_, ?_⟩
  · intro reply after ⟨_, same⟩
    rw [same]
    exact .refl log.state
  intro loaded ⟨trace, state⟩ ⟨written, answered, same⟩
  obtain rfl : loaded = log.state tier := answered
  obtain rfl : state = log.state := same
  obtain rfl : trace = _ := written
  exact goes

/-- A session tier may go while another one is left. -/
theorem wp_remove {rest : Bool → Operation β} (session : tier ≠ .golden)
    (remains : ∃ other, other ≠ tier ∧ log.state other ≠ none)
    (goes : ∀ reply state, (∀ other, other ≠ tier → state other = log.state other) →
      wp storage.logged (rest reply) post ⟨log.trace ++ [⟨.remove tier, reply⟩], state⟩) :
    wp storage.logged (perform (.remove tier) >>= rest) post log := by
  have others : ∀ reply after, Stores log.state ⟨.remove tier, reply⟩ after →
      ∀ other, other ≠ tier → after other = log.state other := by
    intro reply after removed other apart
    rcases removed with rfl | rfl
    · rfl
    · exact Function.update_of_ne apart ..
  apply (wp_bind _ _).mpr
  apply (wp_perform _).mpr
  refine ⟨?_, ?_⟩
  · intro reply after removed
    refine ⟨others reply after removed _ session.symm, fun _ => ?_⟩
    obtain ⟨other, apart, there⟩ := remains
    refine ⟨other, ?_⟩
    rw [others reply after removed other apart]
    exact there
  · intro reply ⟨trace, state⟩ ⟨written, removed⟩
    obtain rfl : trace = _ := written
    exact goes reply state (others reply state removed)

theorem wp_save {snapshot : Snapshot} {layoutRotations : LayoutRotations}
    {rest : Bool → Operation β} (session : tier ≠ .golden)
    (fails : wp storage.logged (rest false) post
      ⟨log.trace ++ [⟨.save tier snapshot layoutRotations, false⟩], log.state⟩)
    (goes : ∀ kept state, kept.snapshot = snapshot → kept.layoutRotations = layoutRotations →
      state tier = some kept → wp storage.logged (rest true) post
        ⟨log.trace ++ [⟨.save tier snapshot layoutRotations, true⟩], state⟩) :
    wp storage.logged (perform (.save tier snapshot layoutRotations) >>= rest) post log := by
  apply (wp_bind _ _).mpr
  apply (wp_perform _).mpr
  refine ⟨?_, ?_⟩
  · intro reply after stores
    cases reply with
    | false =>
        obtain rfl : after = log.state := stores
        exact .refl _
    | true =>
        obtain ⟨kept, -, -, rfl⟩ := stores
        refine ⟨Function.update_of_ne session.symm .., fun _ => ⟨tier, ?_⟩⟩
        simp
  · intro reply ⟨trace, state⟩ ⟨written, stores⟩
    obtain rfl : trace = _ := written
    cases reply with
    | false =>
        obtain rfl : state = log.state := stores
        exact fails
    | true =>
        obtain ⟨kept, snapshot, layout, rfl⟩ := stores
        exact goes kept _ snapshot layout (Function.update_self ..)

end Rules

theorem loadFiltered_spec (tier : SnapshotTier) (log : Log) :
    wp storage.logged (loadFiltered tier) (fun loaded after => after.state = log.state ∧
      log.trace <+: after.trace ∧ ∀ parsed, loaded = some parsed →
        ∃ stored, LoadedFrom log.state after.trace tier stored parsed) log := by
  apply wp_load
  cases there : log.state tier with
  | none => exact ⟨rfl, List.prefix_append .., nofun⟩
  | some stored =>
      apply wp_spared rfl
      intro devices
      apply wp_spared rfl
      intro exclusions
      refine ⟨rfl, ?_, ?_⟩
      · simp only [List.append_assoc]
        exact List.prefix_append ..
      · intro parsed filtered
        refine ⟨stored, there, devices, exclusions, ?_, filtered⟩
        simp only [List.append_assoc]
        exact (List.suffix_append ..).isInfix

/-! ## Attempts -/

/-- An attempt either restored a snapshot or left the storage as it was. -/
structure Attempted (tiers : StoredTiers) (restored : Bool) (progress : Progress) (log : Log) :
    Prop where
  unreported : progress.outcome.success = false
  outcome : if restored then RestorableAgain tiers progress.restored log else log.state = tiers

variable {progress : Progress}

theorem Attempted.failed (unreported : progress.outcome.success = false)
    (same : log.state = tiers) : Attempted tiers false progress log :=
  ⟨unreported, same⟩

theorem clearSessionSnapshots_spec (there : log.state .golden ≠ none) :
    wp storage.logged clearSessionSnapshotsAfterGolden (fun _ after =>
      after.state .golden = log.state .golden ∧ log.trace <+: after.trace) log := by
  apply wp_remove (by simp) ⟨.golden, by simp, there⟩
  intro _ first kept
  have golden : first .golden = log.state .golden := kept .golden (by simp)
  apply wp_remove (by simp) ⟨.golden, by simp, ?_⟩
  · intro _ second keptAgain
    refine ⟨(keptAgain .golden (by simp)).trans golden, ?_⟩
    simp only [List.append_assoc]
    exact List.prefix_append ..
  · intro missing
    exact there (golden.symm.trans missing)

theorem tryGolden_spec (fuel : Nat) (unreported : progress.outcome.success = false)
    (same : log.state = tiers) :
    wp storage.logged (tryGolden fuel progress)
      (fun result after => Attempted tiers result.1 result.2 after) log := by
  subst same
  apply wp_spared rfl
  intro cancelled
  split
  · exact .failed unreported rfl
  apply wp_seq _ (loadFiltered_spec .golden _)
  intro golden loadedLog ⟨kept, _, found⟩
  cases golden with
  | none => exact .failed unreported kept
  | some golden =>
      obtain ⟨stored, source⟩ := found golden rfl
      apply wp_sparing (looks_shouldSkipGolden _ _).restores.sparesStorage
      intro skipped checkedLog checked first
      split
      · exact .failed unreported (checked.trans kept)
      apply wp_spared rfl
      intro valid
      split
      · apply wp_spared rfl
        intro _
        exact .failed unreported (checked.trans kept)
      apply wp_sparing (sparesStorage_applyAndConfirm fuel golden)
      intro confirmed appliedLog applied second
      have still : appliedLog.state = log.state := applied.trans (checked.trans kept)
      apply wp_spared rfl
      intro cancelled
      split
      · split
        · exact .failed unreported still
        apply wp_spared rfl
        intro stagedReset
        have there : appliedLog.state .golden = some stored :=
          (congrFun still .golden).trans source.there
        apply wp_seq _ (clearSessionSnapshots_spec ?_)
        · intro _ clearedLog ⟨unchanged, third⟩
          apply wp_spared rfl
          intro _
          have applying : loadedLog.trace <+: appliedLog.trace :=
            first.trans ((List.prefix_append _ _).trans second)
          have clearing : appliedLog.trace <+: clearedLog.trace :=
            ((List.prefix_append _ _).trans (List.prefix_append _ _)).trans third
          refine ⟨unreported, .golden, stored, golden, source.grow ?_, rfl, ?_⟩
          · exact applying.trans (clearing.trans (List.prefix_append _ _))
          · exact holds_of_there (unchanged.trans there)
        · simp [there]
      · split
        · exact .failed unreported still
        · apply wp_spared rfl
          intro _
          exact .failed unreported still

/-- A session tier leaves the storage as it is. -/
structure SessionTried (tiers : StoredTiers) (tier : SnapshotTier) (attempt : SessionAttempt)
    (progress : Progress) (log : Log) : Prop where
  unreported : progress.outcome.success = false
  same : log.state = tiers
  restored : attempt.restored = true → ∃ stored loaded,
    LoadedFrom tiers log.trace tier stored loaded ∧ progress.restored = some loaded.snapshot

theorem SessionTried.failed {attempt : SessionAttempt}
    (unreported : progress.outcome.success = false) (same : log.state = tiers)
    (failed : attempt.restored = false) : SessionTried tiers tier attempt progress log :=
  ⟨unreported, same, fun restored => by rw [failed] at restored; cases restored⟩

theorem trySession_spec (fuel : Nat) (tier : SnapshotTier)
    (unreported : progress.outcome.success = false) (same : log.state = tiers) :
    wp storage.logged (trySession fuel tier progress)
      (fun result after => SessionTried tiers tier result.1 result.2 after) log := by
  subst same
  apply wp_seq _ (loadFiltered_spec tier _)
  intro snapshot loadedLog ⟨kept, _, found⟩
  cases snapshot with
  | none => exact .failed unreported kept rfl
  | some snapshot =>
      obtain ⟨stored, source⟩ := found snapshot rfl
      apply wp_spared rfl
      intro valid
      split
      · exact .failed unreported kept rfl
      apply wp_sparing (sparesStorage_applyAndConfirm fuel snapshot)
      intro confirmed appliedLog applied grown
      have still : appliedLog.state = log.state := applied.trans kept
      split
      · exact .failed unreported still rfl
      apply wp_spared rfl
      intro cancelled
      split
      · exact .failed unreported still rfl
      apply wp_spared rfl
      intro stagedReset
      apply wp_spared rfl
      intro now
      refine ⟨unreported, still, fun _ => ⟨stored, snapshot, source.grow ?_, rfl⟩⟩
      refine (List.prefix_append _ _).trans (grown.trans ?_)
      simp only [List.append_assoc]
      exact List.prefix_append _ _

/-- Promoted or not, the current snapshot is stored. -/
theorem promote_spec (there : log.state .current = some stored) :
    wp storage.logged promoteCurrentToPrevious
      (fun _ after => log.trace <+: after.trace ∧ Holds after.state stored) log := by
  apply wp_load
  rw [there]
  apply wp_save (by simp)
  · refine ⟨?_, holds_of_there there⟩
    simp only [List.append_assoc]
    exact List.prefix_append _ _
  · intro kept saved snapshot layout there
    apply wp_remove (by simp) ⟨.previous, by simp, by simp [there]⟩
    intro _ state others
    refine ⟨?_, .previous, kept, ?_, snapshot, layout⟩
    · simp only [List.append_assoc]
      exact List.prefix_append _ _
    · exact (others .previous (by simp)).trans there

theorem tryGoldenBeforePrevious_spec (fuel : Nat) (attemptedCurrent : Bool)
    (unreported : progress.outcome.success = false) (same : log.state = tiers) :
    wp storage.logged (tryGoldenBeforePrevious fuel attemptedCurrent progress)
      (fun result after => Attempted tiers result.1 result.2 after) log := by
  unfold tryGoldenBeforePrevious
  split
  · apply wp_spared rfl
    intro havePrevious
    split
    · exact .failed unreported same
    apply wp_spared rfl
    intro haveGolden
    split
    · exact .failed unreported same
    · exact tryGolden_spec fuel unreported same
  · exact .failed unreported same

theorem trySessionSnapshots_spec (fuel : Nat) (unreported : progress.outcome.success = false)
    (same : log.state = tiers) :
    wp storage.logged (trySessionSnapshots fuel progress)
      (fun result after => Attempted tiers result.1 result.2 after) log := by
  apply wp_seq _ (trySession_spec fuel .current unreported same)
  intro ⟨current, progress⟩ currentLog tried
  cases restored : current.restored with
  | true =>
      obtain ⟨stored, loaded, source, isRestored⟩ := tried.restored restored
      simp only [if_true]
      apply wp_seq _ (promote_spec (tried.same ▸ source.there))
      intro promoted after ⟨grown, held⟩
      exact ⟨tried.unreported, .current, stored, loaded, source.grow grown, isRestored, held⟩
  | false =>
      simp only [Bool.false_eq_true, if_false]
      apply wp_seq _ (tryGoldenBeforePrevious_spec fuel _ tried.unreported tried.same)
      intro ⟨restored, progress⟩ goldenLog attempted
      cases restored with
      | true => exact attempted
      | false =>
          apply wp_seq _ (trySession_spec fuel .previous attempted.unreported attempted.outcome)
          intro ⟨previous, progress⟩ previousLog tried
          cases restored : previous.restored with
          | false =>
              simp only [Bool.false_eq_true, if_false]
              exact .failed tried.unreported tried.same
          | true =>
              obtain ⟨stored, loaded, source, isRestored⟩ := tried.restored restored
              have there : previousLog.state .previous = some stored :=
                (congrFun tried.same .previous).trans source.there
              simp only [if_true]
              split
              · -- a current snapshot that did not work is superseded by the previous one
                apply wp_remove (by simp) ⟨.previous, by simp, by simp [there]⟩
                intro _ state others
                refine ⟨tried.unreported, .previous, stored, loaded, ?_, isRestored, ?_⟩
                · exact source.grow (List.prefix_append _ _)
                · exact holds_of_there ((others .previous (by simp)).trans there)
              · exact ⟨tried.unreported, .previous, stored, loaded, source, isRestored,
                  holds_of_there there⟩

/-! ## The whole run -/

/-- What a run reports can be restored again. -/
def Reported (tiers : StoredTiers) (progress : Progress) (log : Log) : Prop :=
  progress.outcome.success = true → RestorableAgain tiers progress.outcome.snapshot log

theorem Reported.of_unreported (unreported : progress.outcome.success = false) :
    Reported tiers progress log := by
  intro success
  rw [unreported] at success
  cases success

theorem RestorableAgain.accept (restorable : RestorableAgain tiers progress.restored log) :
    Reported tiers progress.accept log :=
  fun _ => restorable

theorem acceptFallback_spec (unreported : progress.outcome.success = false)
    (restorable : RestorableAgain tiers progress.restored log) :
    wp storage.logged (acceptFallback progress) (fun result => Reported tiers result) log := by
  apply wp_seq _ (loadFiltered_spec .golden log)
  intro golden after ⟨same, grown, _⟩
  have still := restorable.grow same grown
  cases golden with
  | none =>
      apply wp_spared rfl
      intro _
      apply RestorableAgain.accept
      exact still.grow rfl (List.prefix_append _ _)
  | some golden =>
      dsimp only
      split
      · exact .of_unreported unreported
      · exact still.accept

theorem restoreGoldenFirst_spec (fuel : Nat) (unreported : progress.outcome.success = false)
    (same : log.state = tiers) :
    wp storage.logged (restoreGoldenFirst fuel progress)
      (fun result => Reported tiers result) log := by
  apply wp_seq _ (tryGolden_spec fuel unreported same)
  intro ⟨restored, progress⟩ goldenLog attempted
  cases restored with
  | true => exact RestorableAgain.accept attempted.outcome
  | false =>
      apply wp_seq _ (trySessionSnapshots_spec fuel attempted.unreported attempted.outcome)
      intro ⟨restored, progress⟩ sessionLog attempted
      cases restored with
      | true => exact acceptFallback_spec attempted.unreported attempted.outcome
      | false => exact .of_unreported attempted.unreported

theorem restoreSessionFirst_spec (fuel : Nat) (unreported : progress.outcome.success = false)
    (same : log.state = tiers) :
    wp storage.logged (restoreSessionFirst fuel progress)
      (fun result => Reported tiers result) log := by
  apply wp_seq _ (trySessionSnapshots_spec fuel unreported same)
  intro ⟨restored, progress⟩ sessionLog attempted
  cases restored with
  | true =>
      dsimp only
      simp only [if_true]
      split
      · apply wp_spared rfl
        intro _
        apply RestorableAgain.accept
        exact RestorableAgain.grow attempted.outcome rfl (List.prefix_append _ _)
      · exact RestorableAgain.accept attempted.outcome
  | false =>
      dsimp only
      simp only [Bool.false_eq_true, if_false]
      split
      · exact .of_unreported attempted.unreported
      · apply wp_seq _ (tryGolden_spec fuel attempted.unreported attempted.outcome)
        intro ⟨restored, progress⟩ goldenLog attempted
        cases restored with
        | true => exact RestorableAgain.accept attempted.outcome
        | false => exact .of_unreported rfl

theorem recovery_spec (fuel : Nat) (restoreState : RestoreState) (log : Log) :
    wp storage.logged (recovery fuel restoreState)
      (fun result => Reported log.state result) log := by
  apply wp_spared rfl
  intro cancelled
  split
  · exact .of_unreported rfl
  · dsimp only
    split
    · exact restoreGoldenFirst_spec fuel rfl rfl
    · exact restoreSessionFirst_spec fuel rfl rfl

/-- Wherever a run of the recovery ends, golden is as it was and what was loadable is not lost;
what it reports as restored is still stored. -/
theorem recovery_spares_baseline (fuel : Nat) (restoreState : RestoreState) {trace : Trace}
    {result : Option Progress} {tiers final : StoredTiers}
    (runs : Runs (recovery fuel restoreState) trace result)
    (follows : Follows storage tiers trace final) :
    SparesBaseline tiers final ∧ ∀ progress, result = some progress →
      progress.outcome.success = true →
        RestorableAgain tiers progress.outcome.snapshot ⟨trace, final⟩ := by
  have spec := recovery_spec fuel restoreState ⟨[], tiers⟩
  constructor
  · apply wp_invariant (fun log : Log => SparesBaseline tiers log.state) ?_ runs
      (follows.logged []) spec (.refl tiers)
    intro before event after spared safe moved
    exact spared.trans (safe event.2 after.state moved.2)
  · intro progress ended success
    subst ended
    exact wp_logged_result runs follows spec success

theorem Desk.stores (desk : Desk) (request : Call) :
    Stores desk.tiers ⟨request, (desk.answer request).1⟩ (desk.answer request).2.tiers := by
  cases request with
  | loadWithMetadata tier => exact ⟨rfl, rfl⟩
  | save tier snapshot layoutRotations =>
      refine ⟨⟨snapshot, 2, true, layoutRotations⟩, rfl, rfl, ?_⟩
      funext other
      simp [Desk.answer, Function.update_apply]
  | remove tier =>
      right
      funext other
      simp [Desk.answer, Function.update_apply]
  | _ => rfl

def storedMonitor : Desk :=
  { oneMonitor with
    tiers
      | .current => some { snapshot := oneMonitor.snapshot }
      | _ => none }

def restoringRun : Trace × Option Progress :=
  (recovery 8 {}).play Desk.answer storedMonitor

/-- The monitor is found as stored, and its snapshot is promoted. -/
theorem restoringRun_spares_baseline :
    ∃ final progress, restoringRun.2 = some progress ∧ progress.outcome.success = true ∧
      SparesBaseline storedMonitor.tiers final ∧
        RestorableAgain storedMonitor.tiers progress.outcome.snapshot
          ⟨restoringRun.1, final⟩ := by
  have reported : restoringRun.2.map (·.outcome.success) = some true := by decide +kernel
  obtain ⟨progress, ended, success⟩ := Option.map_eq_some_iff.mp reported
  obtain ⟨final, follows⟩ := follows_play storage Desk.answer Desk.tiers Desk.stores
    (recovery 8 {}) storedMonitor
  have spared := recovery_spares_baseline 8 {} (.play Desk.answer _ storedMonitor) follows
  exact ⟨final, progress, ended, success, spared.1, spared.2 progress ended success⟩

end UmbraHost.DisplayOperations
