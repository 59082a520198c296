import UmbraHost.DisplayOperations.ConfirmedRestore

/-! # A golden restore that is not reported

The golden-first recovery takes a golden snapshot that was restored before the previous one for a
session fallback.  Golden's monitor here is not among the devices yet when the recovery first
looks for it. -/

namespace UmbraHost.DisplayOperations

open UmbraHost.DisplayHelper UmbraHost.Interaction

/-! ## A display at rest -/

variable {current : Snapshot}

theorem allows_readStableSnapshot (fuel : Nat) (now : Time)
    (filled : Snapshot.emptyish current = false) :
    Allows (readStableSnapshot (fuel + 2)) fun result _ => result = some current := by
  have begins : ¬ stableDeadline ≤ now - now := by simp [stableDeadline, milliseconds]
  have continues : ¬ stableDeadline ≤ now + milliseconds stableInterval - now := by
    change ¬ (2000000000 : Int) ≤ now + 150000000 - now
    omega
  refine allows_call now (allows_loop ?_)
  refine allows_call now ?_
  rw [if_neg begins]
  refine allows_call false (allows_call current ?_)
  rw [if_neg (by simp)]
  refine allows_call false (allows_call () (allows_loop ?_))
  refine allows_call (now + milliseconds stableInterval) ?_
  rw [if_neg continues]
  refine allows_call false (allows_call current ?_)
  rw [if_pos ⟨rfl, filled⟩]
  rfl

theorem allows_pollQuiet (fuel : Nat) {start now : Time}
    (filled : Snapshot.emptyish current = false) (early : ¬ quietDuration ≤ now - start) :
    Allows (pollQuiet (fuel + 2) current start ()) fun outcome _ => outcome = .inl () := by
  refine allows_call now ?_
  rw [if_neg early]
  refine allows_call false ?_
  refine (allows_readStableSnapshot fuel now filled).bind ?_
  rintro _ trace rfl
  rw [if_neg (not_not.mpr rfl)]
  exact allows_call false (allows_call () rfl)

/-- Three rounds of a read and a sleep outlast the quiet period. -/
theorem allows_quietPeriod (fuel : Nat) (now : Time)
    (filled : Snapshot.emptyish current = false) :
    Allows (quietPeriod (fuel + 4)) fun confirmed _ => confirmed = true := by
  have round (left : Nat) (later : Time) (early : ¬ quietDuration ≤ later - now)
      (rest : Allows (Program.loop (pollQuiet (fuel + 4) current now) left ())
        fun confirmed _ => confirmed = true) :
      Allows (Program.loop (pollQuiet (fuel + 4) current now) (left + 1) ())
        fun confirmed _ => confirmed = true := by
    refine allows_loop (Allows.mono (allows_pollQuiet (fuel + 2) filled early) ?_)
    rintro _ trace rfl
    exact rest
  refine (allows_readStableSnapshot (fuel + 2) now filled).bind ?_
  rintro _ trace rfl
  refine allows_call now (round _ now ?_ (round _ (now + milliseconds 300) ?_
    (round _ (now + milliseconds 600) ?_ (allows_loop (allows_call (now + milliseconds 900) ?_)))))
  · change ¬ (750000000 : Int) ≤ now - now
    omega
  · change ¬ (750000000 : Int) ≤ now + 300000000 - now
    omega
  · change ¬ (750000000 : Int) ≤ now + 600000000 - now
    omega
  · have elapsed : quietDuration ≤ now + milliseconds 900 - now := by
      change (750000000 : Int) ≤ now + 900000000 - now
      omega
    rw [if_pos elapsed]
    rfl

theorem equalSnapshotsStrict_self (snapshot : Snapshot) :
    equalSnapshotsStrict snapshot snapshot = true := by
  simp [equalSnapshotsStrict]

theorem allows_confirmMatches (fuel : Nat) (now : Time) (loaded : ParsedSnapshot)
    (filled : Snapshot.emptyish loaded.snapshot = false) :
    Allows (confirmMatches (fuel + 4) loaded) fun confirmed _ => confirmed = true := by
  have quiet : Allows (if equalSnapshotsStrict loaded.snapshot loaded.snapshot && true then
      quietPeriod (fuel + 4) else pure false) fun confirmed _ => confirmed = true := by
    rw [equalSnapshotsStrict_self]
    exact allows_quietPeriod fuel (now + milliseconds stableInterval) filled
  refine (allows_readStableSnapshot (fuel + 2) now filled).bind ?_
  rintro _ trace rfl
  refine allows_call false ?_
  rw [if_neg nofun]
  dsimp only
  split
  · exact allows_call true quiet
  · exact quiet

theorem allows_applyAndConfirm (fuel : Nat) (now : Time) (loaded : ParsedSnapshot)
    (filled : Snapshot.emptyish loaded.snapshot = false) :
    Allows (applyAndConfirm (fuel + 4) loaded) fun confirmed _ => confirmed = true := by
  refine allows_call loaded.snapshot (allows_call false ?_)
  refine (allows_confirmMatches fuel now loaded filled).bind ?_
  rintro _ trace rfl
  rfl

/-! ## Golden before the previous session -/

def goldenMonitor : Snapshot := { topology := [["DISPLAY1"]] }

def monitorDevices : List EnumeratedDevice := [{ deviceId := "DISPLAY1", hasInfo := true }]

def storedGolden : ParsedSnapshot := { snapshot := goldenMonitor }

theorem filterLoadedSnapshot_storedGolden :
    filterLoadedSnapshot storedGolden monitorDevices [] = some storedGolden := by
  decide +kernel

theorem allows_loadFiltered :
    Allows (loadFiltered .golden) fun result _ => result = some storedGolden := by
  refine allows_call (some storedGolden) (allows_call monitorDevices (allows_call [] ?_))
  exact filterLoadedSnapshot_storedGolden

/-- A time when the guard of the last session restore is over. -/
def afterGuard (lastSessionRestoreSuccessMs : Int) : Time :=
  ((lastSessionRestoreSuccessMs.natAbs : Int) + recentRestoreGuard) * 1000000

theorem afterGuard_over (lastSessionRestoreSuccessMs : Int) :
    ¬ steadyMs (afterGuard lastSessionRestoreSuccessMs) - lastSessionRestoreSuccessMs <
      recentRestoreGuard := by
  have below : lastSessionRestoreSuccessMs ≤ lastSessionRestoreSuccessMs.natAbs := Int.le_natAbs
  rw [steadyMs, afterGuard, Int.mul_tdiv_cancel _ (by decide)]
  omega

theorem allows_knownPresentDevices :
    Allows knownPresentDevices fun present _ => present = ["display1"] := by
  refine allows_call goldenMonitor (allows_call monitorDevices ?_)
  change _ = _
  decide +kernel

theorem allows_shouldSkipGolden (lastSessionRestoreSuccessMs : Int) :
    Allows (shouldSkipGolden lastSessionRestoreSuccessMs goldenMonitor)
      fun skipped _ => skipped = false := by
  have placed : ¬ goldenMonitor.topology.flatten = [] := by decide
  refine allows_call (afterGuard lastSessionRestoreSuccessMs) ?_
  rw [if_neg fun early => afterGuard_over lastSessionRestoreSuccessMs early.2, if_neg placed]
  refine allows_knownPresentDevices.bind ?_
  rintro _ trace rfl
  change _ = _
  decide +kernel

/-- Golden is restored, whatever was restored before. -/
theorem allows_tryGolden (fuel : Nat) (progress : Progress) :
    Allows (tryGolden (fuel + 4) progress) fun result trace =>
      result = (true, progress.confirmed true goldenMonitor) ∧
        ⟨.clearStatus "restore confirmed", ()⟩ ∈ trace := by
  refine allows_call false ?_
  refine allows_loadFiltered.bind ?_
  rintro _ load rfl
  refine (allows_shouldSkipGolden _).bind ?_
  rintro _ look rfl
  refine allows_call true ?_
  have rest := afterGuard progress.restoreState.lastSessionRestoreSuccessMs
  refine (allows_applyAndConfirm fuel rest storedGolden rfl).bind ?_
  rintro _ work rfl
  refine allows_call false (allows_call true ?_)
  refine allows_call true (allows_call true (allows_call () ?_))
  exact ⟨rfl, by simp⟩

/-- The monitor is enumerated late. -/
theorem allows_tryGolden_unfound (fuel : Nat) (progress : Progress) :
    Allows (tryGolden fuel progress) fun result _ => result = (false, progress) := by
  have unfound : filterLoadedSnapshot storedGolden [] [] = none := by decide +kernel
  have golden : Allows (loadFiltered .golden) fun result _ => result = none :=
    allows_call (some storedGolden) (allows_call [] (allows_call [] unfound))
  refine allows_call false (golden.bind ?_)
  rintro _ trace rfl
  rfl

theorem allows_trySession_missing (fuel : Nat) (tier : SnapshotTier) (progress : Progress) :
    Allows (trySession fuel tier progress) fun result _ => result = ({}, progress) :=
  allows_call none rfl

/-- Golden, and what was there before it. -/
def Progress.withGolden (progress : Progress) : Progress :=
  Progress.confirmed true goldenMonitor { progress with triedGoldenBeforePrevious := true }

theorem allows_trySessionSnapshots (fuel : Nat) {progress : Progress}
    (prefers : progress.restoreState.preferGoldenIfCurrentMissing = true) :
    Allows (trySessionSnapshots (fuel + 4) progress) fun result trace =>
      result = (true, progress.withGolden) ∧ ⟨.clearStatus "restore confirmed", ()⟩ ∈ trace := by
  have preferred : (progress.restoreState.preferGoldenIfCurrentMissing && !false) = true := by
    rw [prefers]
    rfl
  have golden : Allows (tryGoldenBeforePrevious (fuel + 4) false progress) fun result trace =>
      result = (true, progress.withGolden) ∧
        ⟨.clearStatus "restore confirmed", ()⟩ ∈ trace := by
    rw [tryGoldenBeforePrevious, if_pos preferred]
    refine allows_call true (allows_call true ?_)
    refine (allows_tryGolden fuel _).mono ?_
    rintro _ trace ⟨rfl, reset⟩
    exact ⟨rfl, by simp [reset]⟩
  refine (allows_trySession_missing _ .current progress).bind ?_
  rintro _ first rfl
  refine golden.bind ?_
  rintro _ second ⟨rfl, reset⟩
  exact ⟨rfl, by simp [reset]⟩

/-- Golden is not found, then restored before the previous snapshot and found again. -/
theorem allows_restoreGoldenFirst (fuel : Nat) {progress : Progress}
    (unreported : progress.outcome.success = false)
    (prefers : progress.restoreState.preferGoldenIfCurrentMissing = true)
    (pending : Pending progress.restoreState) :
    Allows (restoreGoldenFirst (fuel + 4) progress) fun result trace =>
      result.outcome.success = false ∧ ⟨.clearStatus "restore confirmed", ()⟩ ∈ trace := by
  have waits : (progress.withGolden.restoreState.goldenPendingSessionFallbacks + 1) % 2 ^ 64 <
      goldenFallbackCompletionThreshold := pending
  refine (allows_tryGolden_unfound _ _).bind ?_
  rintro _ first rfl
  refine (allows_trySessionSnapshots fuel prefers).bind ?_
  rintro _ second ⟨rfl, reset⟩
  refine allows_loadFiltered.bind ?_
  rintro _ load rfl
  dsimp only
  rw [if_pos waits]
  exact ⟨unreported, by simp [reset]⟩

/-- For every behaviour of its environment a recovery reports what it has confirmed, and
otherwise no restore at all. -/
def ReportsHonestly (restoreState : RestoreState) : Prop :=
  ∀ fuel trace progress, Runs (recovery fuel restoreState) trace (some progress) →
    HonestReport progress trace

theorem not_reportsHonestly {restoreState : RestoreState}
    (goldenFirst : restoreState.alwaysRestoreFromGolden = true)
    (prefers : restoreState.preferGoldenIfCurrentMissing = true)
    (pending : Pending restoreState) : ¬ ReportsHonestly restoreState := by
  intro reports
  have hidden : Allows (recovery 4 restoreState) fun progress trace =>
      progress.outcome.success = false ∧ ⟨.clearStatus "restore confirmed", ()⟩ ∈ trace := by
    refine allows_call false ?_
    rw [if_neg nofun]
    dsimp only
    rw [if_pos goldenFirst]
    refine (allows_restoreGoldenFirst 0 rfl prefers pending).mono ?_
    rintro progress trace ⟨unreported, reset⟩
    exact ⟨unreported, List.mem_cons_of_mem _ reset⟩
  obtain ⟨trace, progress, runs, unreported, reset⟩ := hidden.exists_runs
  exact ((reports 4 trace progress runs).unreported unreported).2 _ reset rfl

/-- A confirmed golden snapshot goes unreported exactly where golden comes first, is preferred
over the previous session, and the fallbacks accepted so far are too few. -/
theorem reportsHonestly_iff (restoreState : RestoreState) :
    ReportsHonestly restoreState ↔
      ¬ (restoreState.alwaysRestoreFromGolden = true ∧
        restoreState.preferGoldenIfCurrentMissing = true ∧ Pending restoreState) := by
  constructor
  · rintro reports ⟨goldenFirst, prefers, pending⟩
    exact not_reportsHonestly goldenFirst prefers pending reports
  · intro reports fuel trace progress runs
    apply (ensures_recovery fuel ?_).of_runs runs
    exact fun goldenFirst prefers pending => reports ⟨goldenFirst, prefers, pending⟩

theorem golden_first_unreported : ¬ ReportsHonestly { alwaysRestoreFromGolden := true } :=
  not_reportsHonestly rfl rfl (by decide)

end UmbraHost.DisplayOperations
