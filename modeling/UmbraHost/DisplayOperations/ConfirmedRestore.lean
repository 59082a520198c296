import UmbraHost.DisplayOperations.ConfirmedSnapshot

/-! # A reported restore was confirmed

What the run of `RecoveryOperation::run` says about the snapshot that it reports, and what a run
that reports none has told the golden snapshot's health. -/

namespace UmbraHost.DisplayOperations

open UmbraHost.DisplayHelper UmbraHost.Interaction

variable {trace first second : Trace}

/-! ## Tiers -/

/-- A tier was read, filtered by the devices and exclusions of that moment, and confirmed. -/
def RestoreConfirmed (restored : Option Snapshot) (trace : Trace) : Prop :=
  ∃ tier stored devices exclusions loaded opening confirmation closing,
    filterLoadedSnapshot stored devices exclusions = some loaded ∧
      restored = some loaded.snapshot ∧
      trace = opening ++ (⟨.loadWithMetadata tier, some stored⟩ :: ⟨.enumerate, devices⟩ ::
        ⟨.exclusions, exclusions⟩ :: (confirmation ++ closing)) ∧
      Confirmed loaded confirmation

/-- The health of the golden snapshot is not reset. -/
def LeavesHealth (trace : Trace) : Prop :=
  ∀ event ∈ trace, event.1 ≠ .clearStatus "restore confirmed"

theorem RestoreConfirmed.append {restored : Option Snapshot} {third : Trace}
    (confirmed : RestoreConfirmed restored second) :
    RestoreConfirmed restored (first ++ (second ++ third)) := by
  obtain ⟨tier, stored, devices, exclusions, loaded, opening, confirmation, closing, filtered,
    same, rfl, confirmed⟩ := confirmed
  refine ⟨tier, stored, devices, exclusions, loaded, first ++ opening, confirmation,
    closing ++ third, filtered, same, ?_, confirmed⟩
  simp

theorem LeavesHealth.append (front : LeavesHealth first) (back : LeavesHealth second) :
    LeavesHealth (first ++ second) := by
  intro event member
  exact (List.mem_append.mp member).elim (front event) (back event)

/-- A snapshot comes out of `load_filtered` with the calls that it was made from. -/
def LoadedBy (tier : SnapshotTier) (result : Option ParsedSnapshot) (trace : Trace) : Prop :=
  ∀ loaded, result = some loaded → ∃ stored devices exclusions,
    filterLoadedSnapshot stored devices exclusions = some loaded ∧
      trace = [⟨.loadWithMetadata tier, some stored⟩, ⟨.enumerate, devices⟩,
        ⟨.exclusions, exclusions⟩]

theorem ensures_loadFiltered (tier : SnapshotTier) :
    Ensures (loadFiltered tier) (LoadedBy tier) := by
  apply ensures_call
  intro found
  cases found with
  | none => rintro _ ⟨⟩
  | some stored =>
      apply ensures_call
      intro devices
      apply ensures_call
      intro exclusions loaded filtered
      exact ⟨stored, devices, exclusions, filtered, rfl⟩

/-- The loaded snapshot is what was restored, and was confirmed. -/
def ConfirmedAs (loaded : ParsedSnapshot) (restored : Option Snapshot) (trace : Trace) : Prop :=
  restored = some loaded.snapshot ∧
    ∃ confirmation closing, trace = confirmation ++ closing ∧ Confirmed loaded confirmation

theorem LoadedBy.restored {tier : SnapshotTier} {loaded : ParsedSnapshot} {load : Trace}
    {restored : Option Snapshot} (source : LoadedBy tier (some loaded) load)
    (confirmed : ConfirmedAs loaded restored trace) :
    RestoreConfirmed restored (load ++ trace) := by
  obtain ⟨stored, devices, exclusions, filtered, rfl⟩ := source loaded rfl
  obtain ⟨rfl, confirmation, closing, rfl, confirmed⟩ := confirmed
  exact ⟨tier, stored, devices, exclusions, loaded, [], confirmation, closing, filtered, rfl, rfl,
    confirmed⟩

/-- Calls that do not reset the health. -/
abbrev KeepsHealth (program : Operation α) : Prop :=
  OnlyCalls (· ≠ .clearStatus "restore confirmed") program

theorem Restores.keepsHealth {program : Operation α} (restores : Restores program) :
    KeepsHealth program :=
  restores.mono fun request allowed => by
    rintro rfl
    cases allowed

theorem KeepsHealth.ensures {program : Operation α} (keeps : KeepsHealth program) :
    Ensures program fun _ trace => LeavesHealth trace :=
  OnlyCalls.ensures keeps

theorem keepsHealth_loadFiltered (tier : SnapshotTier) : KeepsHealth (loadFiltered tier) := by
  apply OnlyCalls.bind (onlyCalls_done (by simp))
  intro found
  cases found with
  | none => trivial
  | some stored =>
      apply OnlyCalls.bind (onlyCalls_done (by simp))
      intro devices
      exact .bind (onlyCalls_done (by simp)) fun _ => trivial

/-! ## Attempts -/

/-- What the report is made of, and an attempt leaves alone. -/
structure SameReport (before after : Progress) : Prop where
  success : after.outcome.success = before.outcome.success
  snapshot : after.outcome.snapshot = before.outcome.snapshot
  fallbacks : after.restoreState.goldenPendingSessionFallbacks =
    before.restoreState.goldenPendingSessionFallbacks
  prefers : after.restoreState.preferGoldenIfCurrentMissing =
    before.restoreState.preferGoldenIfCurrentMissing

/-- An attempt comes with the finding about what it restored, or restores nothing. -/
structure Attempt (finding : Option Snapshot → Trace → Prop) (resets : Bool) (before : Progress)
    (restored : Bool) (after : Progress) (trace : Trace) : Prop where
  report : SameReport before after
  confirmed : restored = true → finding after.restored trace
  failed : restored = false → after.restored = before.restored
  health : (restored = true → resets = false) → LeavesHealth trace

variable {finding : Option Snapshot → Trace → Prop} {resets restored : Bool}
  {before middle after progress : Progress}

theorem SameReport.refl (progress : Progress) : SameReport progress progress := ⟨rfl, rfl, rfl, rfl⟩

theorem SameReport.trans (front : SameReport before middle) (back : SameReport middle after) :
    SameReport before after where
  success := back.success.trans front.success
  snapshot := back.snapshot.trans front.snapshot
  fallbacks := back.fallbacks.trans front.fallbacks
  prefers := back.prefers.trans front.prefers

theorem Attempt.nothing (quiet : LeavesHealth trace) :
    Attempt finding resets progress false progress trace :=
  ⟨.refl progress, nofun, fun _ => rfl, fun _ => quiet⟩

theorem leavesHealth_nil : LeavesHealth [] := fun _ none => absurd none List.not_mem_nil

/-- Calls before the attempt. -/
theorem Attempt.later (grows : ∀ {restored first second}, finding restored second →
      finding restored (first ++ second)) (quiet : LeavesHealth first)
    (attempt : Attempt finding resets before restored after second) :
    Attempt finding resets before restored after (first ++ second) where
  report := attempt.report
  confirmed := fun success => grows (attempt.confirmed success)
  failed := attempt.failed
  health := fun spared => quiet.append (attempt.health spared)

theorem ConfirmedAs.append_right {loaded : ParsedSnapshot} {restored : Option Snapshot}
    (confirmed : ConfirmedAs loaded restored second) :
    ConfirmedAs loaded restored (first ++ second) := by
  obtain ⟨same, confirmation, closing, rfl, confirmed⟩ := confirmed
  exact ⟨same, first ++ confirmation, closing, (List.append_assoc ..).symm, confirmed.append_right⟩

theorem RestoreConfirmed.append_right {restored : Option Snapshot}
    (confirmed : RestoreConfirmed restored second) :
    RestoreConfirmed restored (first ++ second) := by
  have appended : RestoreConfirmed restored (first ++ (second ++ [])) := confirmed.append
  rwa [List.append_nil] at appended

theorem Attempt.of_loaded {tier : SnapshotTier} {loaded : ParsedSnapshot} {load : Trace}
    (attempt : Attempt (ConfirmedAs loaded) resets before restored after trace)
    (source : LoadedBy tier (some loaded) load) (quiet : LeavesHealth load) :
    Attempt RestoreConfirmed resets before restored after (load ++ trace) where
  report := attempt.report
  confirmed := fun success => source.restored (attempt.confirmed success)
  failed := attempt.failed
  health := fun spared => quiet.append (attempt.health spared)

/-- Calls before what a postcondition is about. -/
theorem ensures_later {post : β → Trace → Prop} {program : Operation α} {rest : α → Operation β}
    (grows : ∀ {value first second}, LeavesHealth first → post value second →
      post value (first ++ second))
    (keeps : KeepsHealth program) (back : ∀ value, Ensures (rest value) post) :
    Ensures (program >>= rest) post :=
  keeps.ensures.bind fun value _ quiet => (back value).mono fun _ _ => grows quiet

theorem LeavesHealth.cons {event : Interaction.Event Call Reply}
    (other : event.1 ≠ .clearStatus "restore confirmed") (later : LeavesHealth trace) :
    LeavesHealth (event :: trace) := by
  intro member within
  rcases List.mem_cons.mp within with rfl | within
  · exact other
  · exact later member within

theorem ensures_tryGolden (fuel : Nat) (progress : Progress) :
    Ensures (tryGolden fuel progress) fun result trace =>
      Attempt RestoreConfirmed true progress result.1 result.2 trace := by
  apply ensures_later (Attempt.later RestoreConfirmed.append_right) (onlyCalls_done (by simp))
  intro cancelled
  split
  · exact .nothing leavesHealth_nil
  · apply ((ensures_loadFiltered .golden).and (keepsHealth_loadFiltered .golden).ensures).bind
    rintro golden load ⟨source, quiet⟩
    cases golden with
    | none => exact .nothing (quiet.append leavesHealth_nil)
    | some golden =>
        refine (show Ensures _ fun result trace =>
          Attempt (ConfirmedAs golden) true progress result.1 result.2 trace from ?_).mono
            fun _ _ attempt => attempt.of_loaded source quiet
        apply ensures_later (Attempt.later ConfirmedAs.append_right)
          (looks_shouldSkipGolden _ _).restores.keepsHealth
        intro skipped
        split
        · exact .nothing leavesHealth_nil
        · apply ensures_later (Attempt.later ConfirmedAs.append_right) (onlyCalls_done (by simp))
          intro valid
          split
          · intro _
            exact .nothing (.cons (by simp) leavesHealth_nil)
          · apply ((ensures_applyAndConfirm fuel golden).and
              (restores_applyAndConfirm fuel golden).keepsHealth.ensures).bind
            rintro confirmed work ⟨affirms, quiet⟩
            apply ensures_call
            intro cancelled
            have checked : LeavesHealth (work ++ [⟨.isCancelled, cancelled⟩]) :=
              quiet.append (.cons (by simp) leavesHealth_nil)
            split
            · next success =>
                split
                · exact .nothing checked
                · intro stagedReset current previous _
                  exact ⟨⟨rfl, rfl, rfl, rfl⟩, fun _ => ⟨rfl, work, _, rfl, affirms success⟩,
                    nofun, fun spared => nomatch spared rfl⟩
            · split
              · exact .nothing checked
              · intro _
                exact .nothing (quiet.append (.cons (by simp) (.cons (by simp) leavesHealth_nil)))

theorem ensures_trySession (fuel : Nat) (tier : SnapshotTier) (progress : Progress) :
    Ensures (trySession fuel tier progress) fun result trace =>
      Attempt RestoreConfirmed false progress result.1.restored result.2 trace := by
  apply ((ensures_loadFiltered tier).and (keepsHealth_loadFiltered tier).ensures).bind
  rintro loaded load ⟨source, quiet⟩
  cases loaded with
  | none => exact .nothing (quiet.append leavesHealth_nil)
  | some loaded =>
      refine (show Ensures _ fun result trace =>
        Attempt (ConfirmedAs loaded) false progress result.1.restored result.2 trace from ?_).mono
          fun _ _ attempt => attempt.of_loaded source quiet
      apply ensures_later (Attempt.later ConfirmedAs.append_right) (onlyCalls_done (by simp))
      intro valid
      split
      · exact .nothing leavesHealth_nil
      · apply ((ensures_applyAndConfirm fuel loaded).and
          (restores_applyAndConfirm fuel loaded).keepsHealth.ensures).bind
        rintro confirmed work ⟨affirms, quiet⟩
        split
        · exact .nothing (quiet.append leavesHealth_nil)
        · next success =>
            apply ensures_call
            intro cancelled
            split
            · exact .nothing (quiet.append (.cons (by simp) leavesHealth_nil))
            · intro stagedReset now
              exact ⟨⟨rfl, rfl, rfl, rfl⟩,
                fun _ => ⟨rfl, work, _, rfl, affirms (by simpa using success)⟩, nofun,
                fun _ => quiet.append (.cons (by simp) (.cons (by simp) (.cons (by simp)
                  leavesHealth_nil)))⟩

theorem keepsHealth_promoteCurrentToPrevious : KeepsHealth promoteCurrentToPrevious := by
  apply OnlyCalls.bind (onlyCalls_done (by simp))
  intro current
  cases current with
  | none => trivial
  | some current =>
      apply OnlyCalls.bind (onlyCalls_done (by simp))
      intro saved
      split
      · trivial
      · exact .bind (onlyCalls_done (by simp)) fun _ => trivial

/-- Calls after a restore. -/
theorem Attempt.closing
    (attempt : Attempt RestoreConfirmed resets before true after first)
    (quiet : LeavesHealth second) :
    Attempt RestoreConfirmed resets before true after (first ++ second) where
  report := attempt.report
  confirmed := fun success => by
    change RestoreConfirmed _ ([] ++ (first ++ second))
    exact (attempt.confirmed success).append
  failed := nofun
  health := fun spared => (attempt.health spared).append quiet

/-- One attempt after another that restored nothing. -/
theorem Attempt.trans (front : Attempt RestoreConfirmed resets before false middle first)
    (back : Attempt RestoreConfirmed resets middle restored after second) :
    Attempt RestoreConfirmed resets before restored after (first ++ second) where
  report := front.report.trans back.report
  confirmed := fun success => (back.confirmed success).append_right
  failed := fun failed => (back.failed failed).trans (front.failed rfl)
  health := fun spared => (front.health nofun).append (back.health spared)

theorem Attempt.may_reset (attempt : Attempt finding false before restored after trace) :
    Attempt finding resets before restored after trace :=
  ⟨attempt.report, attempt.confirmed, attempt.failed, fun _ => attempt.health fun _ => rfl⟩

theorem ensures_tryGoldenBeforePrevious (fuel : Nat) (attemptedCurrent : Bool)
    (progress : Progress) :
    Ensures (tryGoldenBeforePrevious fuel attemptedCurrent progress) fun result trace =>
      Attempt RestoreConfirmed progress.restoreState.preferGoldenIfCurrentMissing progress
        result.1 result.2 trace := by
  simp only [tryGoldenBeforePrevious]
  split
  · next preferred =>
      apply ensures_later (Attempt.later RestoreConfirmed.append_right) (onlyCalls_done (by simp))
      intro havePrevious
      split
      · exact .nothing leavesHealth_nil
      · apply ensures_later (Attempt.later RestoreConfirmed.append_right)
          (onlyCalls_done (by simp))
        intro haveGolden
        split
        · exact .nothing leavesHealth_nil
        · rw [(Bool.and_eq_true_iff.mp preferred).1]
          refine (ensures_tryGolden fuel _).mono fun _ _ attempt => ?_
          have opened : SameReport progress { progress with triedGoldenBeforePrevious := true } :=
            ⟨rfl, rfl, rfl, rfl⟩
          exact ⟨opened.trans attempt.report, attempt.confirmed, attempt.failed, attempt.health⟩
  · exact .nothing leavesHealth_nil

theorem ensures_trySessionSnapshots (fuel : Nat) (progress : Progress) :
    Ensures (trySessionSnapshots fuel progress) fun result trace =>
      Attempt RestoreConfirmed progress.restoreState.preferGoldenIfCurrentMissing progress
        result.1 result.2 trace := by
  apply (ensures_trySession fuel .current progress).bind
  rintro ⟨⟨restored, attempted⟩, middle⟩ first attempt
  dsimp only at attempt ⊢
  cases restored with
  | true =>
      apply keepsHealth_promoteCurrentToPrevious.ensures.bind
      intro _ promotion quiet
      exact attempt.may_reset.closing (quiet.append leavesHealth_nil)
  | false =>
      have same := attempt.report.prefers
      apply (ensures_tryGoldenBeforePrevious fuel attempted middle).bind
      rintro ⟨restored, between⟩ second golden
      rw [same] at golden
      have both := attempt.may_reset.trans golden
      cases restored with
      | true =>
          change Attempt _ _ _ _ _ (first ++ (second ++ []))
          rwa [List.append_nil]
      | false =>
          apply (ensures_trySession fuel .previous between).bind
          rintro ⟨⟨restored, attemptedPrevious⟩, after⟩ third previous
          have all := both.trans previous.may_reset
          rw [List.append_assoc] at all
          cases restored with
          | true =>
              rw [if_pos rfl]
              split
              · intro removed
                have quiet : LeavesHealth [⟨.remove .current, removed⟩] :=
                  .cons (by simp) leavesHealth_nil
                have closed := all.closing quiet
                simp only [List.append_assoc] at closed
                exact closed
              · change Attempt _ _ _ _ _ (first ++ (second ++ (third ++ [])))
                rwa [List.append_nil]
          | false =>
              change Attempt _ _ _ _ _ (first ++ (second ++ (third ++ [])))
              rwa [List.append_nil]

/-! ## Reports -/

/-- A reported snapshot was read from a tier and confirmed, and without a report golden is not
said to be restored. -/
structure HonestReport (progress : Progress) (trace : Trace) : Prop where
  confirmed : progress.outcome.success = true →
    RestoreConfirmed progress.outcome.snapshot trace
  unreported : progress.outcome.success = false →
    progress.outcome.snapshot = none ∧ LeavesHealth trace

/-- Nothing is restored yet. -/
structure Fresh (progress : Progress) : Prop where
  unreported : progress.outcome.success = false
  unset : progress.outcome.snapshot = none
  unrestored : progress.restored = none

theorem HonestReport.accept (confirmed : RestoreConfirmed progress.restored trace) :
    HonestReport progress.accept trace :=
  ⟨fun _ => confirmed, nofun⟩

theorem Fresh.unmoved (fresh : Fresh before)
    (attempt : Attempt finding resets before false after trace) : Fresh after where
  unreported := attempt.report.success.trans fresh.unreported
  unset := attempt.report.snapshot.trans fresh.unset
  unrestored := (attempt.failed rfl).trans fresh.unrestored

theorem HonestReport.nothing (unreported : progress.outcome.success = false)
    (unset : progress.outcome.snapshot = none) (quiet : LeavesHealth trace) :
    HonestReport progress trace where
  confirmed := fun success => by
    rw [unreported] at success
    cases success
  unreported := fun _ => ⟨unset, quiet⟩

theorem HonestReport.later (report : HonestReport progress second) (quiet : LeavesHealth first) :
    HonestReport progress (first ++ second) where
  confirmed := fun success => (report.confirmed success).append_right
  unreported := fun failed =>
    (report.unreported failed).imp_right quiet.append

/-- A restored golden snapshot may be taken for a fallback that is not accepted yet. -/
def Pending (restoreState : RestoreState) : Prop :=
  (restoreState.goldenPendingSessionFallbacks + 1) % 2 ^ 64 < goldenFallbackCompletionThreshold

instance : DecidablePred Pending := fun _ => Nat.decLt _ _

theorem ensures_acceptFallback (fresh : Fresh before)
    (attempt : Attempt RestoreConfirmed resets before true progress trace)
    (reports : resets = true → ¬ Pending before.restoreState) :
    Ensures (acceptFallback progress) fun result later => HonestReport result (trace ++ later) := by
  apply (keepsHealth_loadFiltered .golden).ensures.bind
  intro pending load quiet
  cases pending with
  | none =>
      intro registered
      have closing : LeavesHealth
          (load ++ [⟨.registerUnresolved "session fallback accepted", registered⟩]) :=
        quiet.append (.cons (by simp) leavesHealth_nil)
      exact .accept ((attempt.closing closing).confirmed rfl)
  | some golden =>
      have closed := attempt.closing (quiet.append leavesHealth_nil)
      dsimp only
      split
      · next waits =>
          rw [attempt.report.fallbacks] at waits
          have never : resets = false := Bool.eq_false_iff.mpr fun may => reports may waits
          exact .nothing (attempt.report.success.trans fresh.unreported)
            (attempt.report.snapshot.trans fresh.unset) (closed.health fun _ => never)
      · exact .accept (closed.confirmed rfl)

theorem ensures_restoreGoldenFirst (fuel : Nat) (fresh : Fresh progress)
    (reports : progress.restoreState.preferGoldenIfCurrentMissing = true →
      ¬ Pending progress.restoreState) :
    Ensures (restoreGoldenFirst fuel progress) HonestReport := by
  apply (ensures_tryGolden fuel progress).bind
  rintro ⟨restored, middle⟩ first golden
  cases restored with
  | true => exact .accept ((golden.closing leavesHealth_nil).confirmed rfl)
  | false =>
      have quiet : LeavesHealth first := golden.health nofun
      apply (ensures_trySessionSnapshots fuel middle).bind
      rintro ⟨restored, after⟩ second session
      cases restored with
      | true =>
          have reports' : middle.restoreState.preferGoldenIfCurrentMissing = true →
              ¬ Pending middle.restoreState := by
            unfold Pending
            rw [golden.report.prefers, golden.report.fallbacks]
            exact reports
          exact (ensures_acceptFallback (fresh.unmoved golden) session reports').mono
            fun _ _ report => report.later quiet
      | false =>
          have fresh := (fresh.unmoved golden).unmoved session
          exact .nothing fresh.unreported fresh.unset
            (quiet.append ((session.health nofun).append leavesHealth_nil))

theorem ensures_restoreSessionFirst (fuel : Nat) (fresh : Fresh progress) :
    Ensures (restoreSessionFirst fuel progress) HonestReport := by
  apply (ensures_trySessionSnapshots fuel progress).bind
  rintro ⟨restored, middle⟩ first session
  cases restored with
  | true =>
      rw [if_pos rfl]
      split
      · intro _
        exact .accept ((session.closing (.cons (by simp) leavesHealth_nil)).confirmed rfl)
      · exact .accept ((session.closing leavesHealth_nil).confirmed rfl)
  | false =>
      have fresh := fresh.unmoved session
      have quiet : LeavesHealth first := session.health nofun
      rw [if_neg nofun]
      split
      · exact .nothing fresh.unreported fresh.unset (quiet.append leavesHealth_nil)
      · apply (ensures_tryGolden fuel middle).bind
        rintro ⟨restored, after⟩ second golden
        cases restored with
        | true =>
            apply HonestReport.later _ quiet
            exact .accept ((golden.closing leavesHealth_nil).confirmed rfl)
        | false =>
            exact .nothing rfl (fresh.unmoved golden).unrestored
              (quiet.append ((golden.health nofun).append leavesHealth_nil))

theorem ensures_recovery (fuel : Nat) {restoreState : RestoreState}
    (reports : restoreState.alwaysRestoreFromGolden = true →
      restoreState.preferGoldenIfCurrentMissing = true → ¬ Pending restoreState) :
    Ensures (recovery fuel restoreState) HonestReport := by
  apply ensures_call
  intro cancelled
  split
  · exact .nothing rfl rfl (.cons (by simp) leavesHealth_nil)
  · have quiet : LeavesHealth [⟨.isCancelled, cancelled⟩] := .cons (by simp) leavesHealth_nil
    dsimp only
    split
    · next goldenFirst =>
        exact (ensures_restoreGoldenFirst fuel ⟨rfl, rfl, rfl⟩ (reports goldenFirst)).mono
          fun _ _ report => report.later quiet
    · exact (ensures_restoreSessionFirst fuel ⟨rfl, rfl, rfl⟩).mono
        fun _ _ report => report.later quiet

end UmbraHost.DisplayOperations
