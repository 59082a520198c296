import UmbraHost.Process.AppCommands

/-! # Each preparing command is undone once

Over any run, the commands that prepared an app are undone in reverse order, and all of them
before another app is prepared. -/

namespace UmbraHost.Process

open UmbraHost.Config (PrepCmd)
open UmbraHost.Interaction

/-! ## Orderly logs -/

inductive Command where
  | does (cmd : PrepCmd)
  | undoes (cmd : PrepCmd)
deriving DecidableEq

def doing (cmd : PrepCmd) : List Command := if cmd.doCmd.isEmpty then [] else [.does cmd]

def undoing (cmd : PrepCmd) : List Command := if cmd.undoCmd.isEmpty then [] else [.undoes cmd]

/-- Of the commands of each app a first part succeeded, the one behind it may have failed, and
what succeeded is undone, the last one first.  The second list are the commands that are still to
be undone. -/
inductive Orderly : List Ctx → List Command → List PrepCmd → Prop where
  | start : Orderly [] [] []
  | unprepared {executed : List Ctx} {log : List Command} (app : Ctx)
      (before : Orderly executed log []) : Orderly (executed ++ [app]) log []
  | prepared {executed : List Ctx} {log : List Command} (app : Ctx) {passed rest : List PrepCmd}
      (cmds : app.prepCmds = passed ++ rest) (failed : Option PrepCmd)
      (first : ∀ cmd ∈ failed, ∃ others, rest = cmd :: others)
      (before : Orderly executed log []) :
      Orderly (executed ++ [app]) (log ++ (passed ++ failed.toList).flatMap doing) passed.reverse
  | undone {executed : List Ctx} {log : List Command} {cmd : PrepCmd} {rest : List PrepCmd}
      (before : Orderly executed log (cmd :: rest)) :
      Orderly executed (log ++ undoing cmd) rest

/-! ## What the calls are taken to do -/

def commandsOf : Event Call Reply → List Command
  | ⟨.runDoCmd cmd, _⟩ => [.does cmd]
  | ⟨.runUndoCmd cmd, _⟩ => [.undoes cmd]
  | _ => []

/-- Playnite is never started by its URI alone, which leaves no child to wait for, and apps.json
gives positive ids. -/
def Reliable : Event Call Reply → Prop
  | ⟨.playniteUri _, opened⟩ => opened = false
  | ⟨.parse, apps⟩ => ∀ list ∈ apps, ∀ app ∈ list, 0 < app.id
  | _ => True

def host : Contract Call Reply (List Command) where
  moves log event after := Reliable event ∧ after = log ++ commandsOf event
  safe _ _ := True

variable {executed earlier : List Ctx} {log : List Command} {proc : ProcT} {app : Ctx}

section Rules

variable {β : Type} {post : β → List Command → Prop}

theorem wp_ask {request : Call} {rest : Reply request → Operation β}
    (goes : ∀ reply, Reliable ⟨request, reply⟩ →
      wp host (rest reply) post (log ++ commandsOf ⟨request, reply⟩)) :
    wp host (ask request >>= rest) post log := by
  apply (wp_bind _ _).mpr
  apply (wp_perform _).mpr
  refine ⟨trivial, ?_⟩
  rintro reply after ⟨reliable, rfl⟩
  exact goes reply reliable

/-- A call that runs none of the commands. -/
theorem wp_quiet {request : Call} {rest : Reply request → Operation β}
    (goes : ∀ reply, Reliable ⟨request, reply⟩ → wp host (rest reply) post log)
    (quiet : ∀ reply, commandsOf ⟨request, reply⟩ = [] := by exact fun _ => rfl) :
    wp host (ask request >>= rest) post log := by
  apply wp_ask
  intro reply reliable
  rw [quiet reply, List.append_nil]
  exact goes reply reliable

theorem wp_silent (request : Call)
    (quiet : ∀ reply, commandsOf ⟨request, reply⟩ = [] := by exact fun _ => rfl) :
    wp host (ask request) (fun _ after => after = log) log := by
  apply (wp_perform _).mpr
  refine ⟨trivial, ?_⟩
  rintro reply after ⟨-, rfl⟩
  rw [quiet reply, List.append_nil]

/-- A question that may be left out. -/
theorem wp_if {condition : Bool} {question other : Operation Bool} {rest : Bool → Operation β}
    (quiet : condition = true → wp host question (fun _ after => after = log) log)
    (spared : wp host other (fun _ after => after = log) log)
    (goes : ∀ answer, wp host (rest answer) post log) :
    wp host ((if condition then question else other) >>= rest) post log := by
  apply wp_seq fun _ after => after = log
  · cases condition with
    | true => exact quiet rfl
    | false => exact spared
  · rintro answer _ rfl
    exact goes answer

end Rules

/-! ## Undoing -/

/-- The commands that are still to be undone. -/
def outstanding (proc : ProcT) : List PrepCmd := (proc.app.prepCmds.take proc.appPrepIt).reverse

theorem wp_undoPrepCmds {prepCmds : List PrepCmd} {appPrepIt : Nat}
    (within : appPrepIt ≤ prepCmds.length)
    (orderly : Orderly executed log (prepCmds.take appPrepIt).reverse) :
    wp host (undoPrepCmds prepCmds appPrepIt) (fun _ after => Orderly executed after []) log := by
  induction appPrepIt generalizing log with
  | zero =>
      rw [List.take_zero, List.reverse_nil] at orderly
      exact orderly
  | succ appPrepIt ih =>
      have found := List.getElem?_eq_getElem within
      rw [List.take_add_one, found, Option.toList_some, List.reverse_append, List.reverse_singleton,
        List.singleton_append] at orderly
      have undone := orderly.undone
      have next {log : List Command} := @ih log (Nat.le_of_succ_le within)
      unfold undoPrepCmds
      rw [found]
      dsimp only
      cases empty : prepCmds[appPrepIt].undoCmd.isEmpty with
      | true =>
          rw [undoing, empty, if_pos rfl, List.append_nil] at undone
          exact next undone
      | false =>
          rw [undoing, empty, if_neg (by decide)] at undone
          apply wp_ask
          intro started _
          cases started with
          | true => exact wp_quiet fun _ _ => next undone
          | false => exact next undone

theorem wp_endApp (within : proc.appPrepIt ≤ proc.app.prepCmds.length)
    (orderly : Orderly executed log (outstanding proc)) :
    wp host (endApp proc)
      (fun ended after => ended = { appId := -1, apps := proc.apps } ∧ Orderly executed after [])
      log := by
  refine wp_quiet fun _ _ => ?_
  apply wp_seq _ (wp_undoPrepCmds within orderly)
  intro _ after undone
  exact ⟨rfl, undone⟩

/-- Nothing runs, and nothing is to be undone. -/
structure Ended (executed : List Ctx) (proc : ProcT) (log : List Command) : Prop where
  idle : ∃ appId ≤ 0, ∃ apps, proc = { appId, apps }
  undone : Orderly executed log []

theorem wp_terminate (needsRefresh : Bool) (within : proc.appPrepIt ≤ proc.app.prepCmds.length)
    (orderly : Orderly executed log (outstanding proc)) :
    wp host (terminate needsRefresh proc) (fun ended after => Ended executed ended after) log := by
  apply wp_seq _ (wp_endApp within orderly)
  rintro ended after ⟨rfl, undone⟩
  cases needsRefresh with
  | false => exact ⟨⟨-1, by decide, _, rfl⟩, undone⟩
  | true =>
      refine wp_quiet fun apps _ => ?_
      cases apps with
      | none => exact ⟨⟨-1, by decide, _, rfl⟩, undone⟩
      | some apps => exact ⟨⟨0, by decide, apps, rfl⟩, undone⟩

/-! ## Preparing -/

/-- How far the commands got: those before the iterator succeeded, and one may have failed. -/
structure Passed (app : Ctx) (base log : List Command) (succeeded : Bool) (appPrepIt : Nat) :
    Prop where
  within : appPrepIt ≤ app.prepCmds.length
  ran : ∃ failed : Option PrepCmd,
    (∀ cmd ∈ failed, ∃ others, app.prepCmds.drop appPrepIt = cmd :: others) ∧
      log = base ++ (app.prepCmds.take appPrepIt ++ failed.toList).flatMap doing

theorem Passed.prepared {base : List Command} {succeeded : Bool} {appPrepIt : Nat}
    (passed : Passed app base log succeeded appPrepIt) (same : proc.app = app)
    (it : proc.appPrepIt = appPrepIt) (before : Orderly earlier base []) :
    Orderly (earlier ++ [app]) log (outstanding proc) := by
  obtain ⟨-, failed, first, rfl⟩ := passed
  rw [outstanding, same, it]
  exact .prepared app (List.take_append_drop appPrepIt app.prepCmds).symm failed first before

theorem wp_runPrepCmds {base : List Command} {rest : List PrepCmd} {appPrepIt : Nat}
    (behind : app.prepCmds.drop appPrepIt = rest) (within : appPrepIt ≤ app.prepCmds.length)
    (ran : log = base ++ (app.prepCmds.take appPrepIt).flatMap doing) :
    wp host (runPrepCmds app rest appPrepIt)
      (fun result after => Passed app base after result.1 result.2) log := by
  induction rest generalizing appPrepIt log with
  | nil =>
      refine ⟨within, none, ?_, ?_⟩
      · exact fun cmd absent => by cases absent
      · simpa using ran
  | cons cmd rest ih =>
      have bound : appPrepIt < app.prepCmds.length := by
        by_contra outside
        rw [List.drop_eq_nil_of_le (Nat.le_of_not_lt outside)] at behind
        cases behind
      obtain ⟨here, left⟩ := List.cons.inj ((List.drop_eq_getElem_cons bound).symm.trans behind)
      have taken : app.prepCmds.take (appPrepIt + 1) = app.prepCmds.take appPrepIt ++ [cmd] := by
        rw [← here, List.take_append_getElem]
      have next (log : List Command) (ran : log = base ++
          (app.prepCmds.take appPrepIt).flatMap doing ++ doing cmd) :
          wp host (runPrepCmds app rest (appPrepIt + 1))
            (fun result after => Passed app base after result.1 result.2) log := by
        apply ih left bound
        rw [ran, taken, List.flatMap_append, List.append_assoc]
        simp
      have failed (log : List Command) (ran : log = base ++
          (app.prepCmds.take appPrepIt).flatMap doing ++ doing cmd) :
          Passed app base log false appPrepIt := by
        refine ⟨within, some cmd, ?_, ?_⟩
        · rintro _ ⟨⟩
          exact ⟨rest, behind⟩
        · rw [ran, List.flatMap_append, List.append_assoc]
          simp
      unfold runPrepCmds
      cases empty : cmd.doCmd.isEmpty with
      | true =>
          apply next
          rw [ran, doing, empty, if_pos rfl, List.append_nil]
      | false =>
          have does : log ++ [.does cmd] = base ++
              (app.prepCmds.take appPrepIt).flatMap doing ++ doing cmd := by
            rw [ran, doing, empty, if_neg (by decide)]
          apply wp_ask
          intro started _
          split
          · exact failed _ does
          · refine wp_quiet fun waited _ => ?_
            cases waited with
            | false => exact failed _ does
            | true =>
                refine wp_quiet fun code _ => ?_
                split
                · exact failed _ does
                · exact next _ does

/-! ## The state between the operations -/

/-- A launch that waits for the user has run nothing yet. -/
structure Deferred (executed : List Ctx) (proc : ProcT) (log : List Command) : Prop where
  active : 0 < proc.appId
  unprepared : proc.appPrepIt = 0
  before : ∃ earlier, executed = earlier ++ [proc.app] ∧ Orderly earlier log []

structure Settled (executed : List Ctx) (proc : ProcT) (log : List Command) : Prop where
  within : proc.appPrepIt ≤ proc.app.prepCmds.length
  idle : proc.appId ≤ 0 → proc.appPrepIt = 0
  alive : proc.appPrepIt ≠ 0 → proc.placebo = true ∨ proc.process = true
  orderly : Orderly executed log (outstanding proc)

structure Holds (executed : List Ctx) (proc : ProcT) (log : List Command) : Prop where
  deferred : proc.deferredLaunch = true → Deferred executed proc log
  settled : proc.deferredLaunch = false → Settled executed proc log

theorem outstanding_zero (unprepared : proc.appPrepIt = 0) : outstanding proc = [] := by
  rw [outstanding, unprepared, List.take_zero, List.reverse_nil]

theorem Deferred.settled (deferred : Deferred executed proc log) : Settled executed proc log := by
  obtain ⟨active, unprepared, earlier, rfl, before⟩ := deferred
  refine ⟨?_, fun _ => unprepared, fun prepared => absurd unprepared prepared, ?_⟩
  · rw [unprepared]
    exact Nat.zero_le _
  · rw [outstanding_zero unprepared]
    exact .unprepared proc.app before

theorem Holds.always (holds : Holds executed proc log) : Settled executed proc log := by
  cases waits : proc.deferredLaunch with
  | true => exact (holds.deferred waits).settled
  | false => exact holds.settled waits

theorem Settled.holds (settled : Settled executed proc log)
    (launched : proc.deferredLaunch = false) : Holds executed proc log where
  deferred waits := by
    rw [launched] at waits
    cases waits
  settled _ := settled

theorem Ended.settled (ended : Ended executed proc log) : Settled executed proc log := by
  obtain ⟨⟨appId, -, apps, rfl⟩, undone⟩ := ended
  exact ⟨Nat.zero_le _, fun _ => rfl, fun prepared => absurd rfl prepared, undone⟩

theorem Ended.holds (ended : Ended executed proc log) : Holds executed proc log := by
  obtain ⟨appId, -, apps, rfl⟩ := ended.idle
  exact ended.settled.holds rfl

theorem wp_end (needsRefresh : Bool) (settled : Settled executed proc log) :
    wp host (terminate needsRefresh proc) (fun ended after => Ended executed ended after) log :=
  wp_terminate needsRefresh settled.within settled.orderly

/-! ## The operations -/

theorem wp_spawnDetached (app : Ctx) (cmds : List String) :
    wp host (spawnDetached app cmds) (fun _ after => after = log) log := by
  induction cmds with
  | nil => rfl
  | cons cmd rest ih => exact wp_quiet fun _ _ => ih

/-- Without the URI alone, an app that was started is a placebo or has a child. -/
theorem wp_startApp (proc : ProcT) :
    wp host (startApp proc)
      (fun result after => after = log ∧ result.2.app = proc.app ∧
        result.2.appPrepIt = proc.appPrepIt ∧ result.2.appId = proc.appId ∧
        result.2.deferredLaunch = proc.deferredLaunch ∧
        (result.1 = true → result.2.placebo = true ∨ result.2.process = true)) log := by
  unfold startApp
  split
  · refine wp_quiet fun launched _ => ?_
    cases launched with
    | true => exact ⟨rfl, rfl, rfl, rfl, rfl, fun _ => .inr rfl⟩
    | false =>
        refine wp_quiet fun opened reliable => ?_
        obtain rfl : opened = false := reliable
        exact ⟨rfl, rfl, rfl, rfl, rfl, Bool.noConfusion⟩
  · split
    · refine wp_quiet fun launched _ => ?_
      cases launched with
      | true => exact ⟨rfl, rfl, rfl, rfl, rfl, fun _ => .inr rfl⟩
      | false => exact ⟨rfl, rfl, rfl, rfl, rfl, Bool.noConfusion⟩
    · split
      · exact ⟨rfl, rfl, rfl, rfl, rfl, fun _ => .inl rfl⟩
      · refine wp_quiet fun launched _ => ?_
        exact ⟨rfl, rfl, rfl, rfl, rfl, fun started => .inr started⟩

/-- A launch that fails ends the app. -/
theorem wp_launchAppCommands (active : 0 < proc.appId) (launched : proc.deferredLaunch = false)
    (before : Orderly earlier log []) :
    wp host (launchAppCommands proc)
      (fun result after => Settled (earlier ++ [proc.app]) result.2 after ∧
        result.2.deferredLaunch = false ∧ (result.1 ≠ 0 → result.2.appPrepIt = 0)) log := by
  have ends {failed : ProcT} {log : List Command}
      (within : failed.appPrepIt ≤ failed.app.prepCmds.length)
      (orderly : Orderly (earlier ++ [proc.app]) log (outstanding failed)) :
      wp host (do
        let ended ← terminate true failed
        pure ((-1 : Int), ended))
        (fun result after => Settled (earlier ++ [proc.app]) result.2 after ∧
          result.2.deferredLaunch = false ∧ (result.1 ≠ 0 → result.2.appPrepIt = 0)) log := by
    apply wp_seq _ (wp_terminate true within orderly)
    intro ended after closed
    obtain ⟨appId, -, apps, rfl⟩ := closed.idle
    exact ⟨closed.settled, rfl, fun _ => rfl⟩
  have runs : wp host (runPrepCmds proc.app proc.app.prepCmds 0)
      (fun result after => Passed proc.app log after result.1 result.2) log :=
    wp_runPrepCmds rfl (Nat.zero_le _) (by simp)
  apply wp_seq _ runs
  rintro ⟨prepared, appPrepIt⟩ after passed
  cases prepared with
  | false => exact ends passed.within (passed.prepared rfl rfl before)
  | true =>
      apply wp_seq _ (wp_spawnDetached proc.app proc.app.detached)
      rintro _ _ rfl
      apply wp_seq _ (wp_startApp { proc with appPrepIt })
      rintro ⟨started, left⟩ _ ⟨rfl, app, it, appId, waits, alive⟩
      have orderly := passed.prepared app it before
      have within : left.appPrepIt ≤ left.app.prepCmds.length := by
        rw [app, it]
        exact passed.within
      cases started with
      | true =>
          refine ⟨⟨within, ?_, fun _ => alive rfl, orderly⟩, waits.trans launched, ?_⟩
          · intro inactive
            rw [appId] at inactive
            exact absurd inactive (Int.not_le.mpr active)
          · exact fun absurd => (absurd rfl).elim
      | false => exact ends within orderly

/-- Nothing is to be undone of an app that is found to have ended without a child. -/
def Found (proc : ProcT) (result : Option Int × ProcT) : Prop :=
  result = (none, proc) ∧ proc.placebo = false ∨
    ∃ placebo, (proc.placebo = true → placebo = true) ∧
      result = (some proc.appId, { proc with placebo })

theorem wp_runningStatus (proc : ProcT) :
    wp host (runningStatus proc) (fun result after => after = log ∧ Found proc result) log := by
  have found (placebo : Bool) (kept : proc.placebo = true → placebo = true) :
      log = log ∧ Found proc (some proc.appId, { proc with placebo }) :=
    ⟨rfl, .inr ⟨placebo, kept, rfl⟩⟩
  unfold runningStatus
  split
  · exact found proc.placebo id
  · rename_i real
    refine wp_if (fun _ => wp_silent _) rfl fun group => ?_
    cases group with
    | true => exact found proc.placebo id
    | false =>
        refine wp_if (fun _ => wp_silent _) rfl fun child => ?_
        cases child with
        | true => exact found proc.placebo id
        | false =>
            refine wp_if (fun _ => wp_silent _) rfl fun recent => ?_
            cases recent with
            | true => exact found true fun _ => rfl
            | false => exact ⟨rfl, .inl ⟨rfl, Bool.eq_false_iff.mpr real⟩⟩

/-- Only a launch that waits, or an app that goes on, has a positive id. -/
theorem wp_running (holds : Holds executed proc log) :
    wp host (running proc)
      (fun result after => Holds executed result.2 after ∧
        (result.1 ≤ 0 → result.2.appPrepIt = 0 ∧ result.2.deferredLaunch = false)) log := by
  -- what an app is asked that is not waiting for the user
  have asked {left : ProcT} {log : List Command} (settled : Settled executed left log)
      (launched : left.deferredLaunch = false) :
      wp host (do
        let status ← runningStatus left
        if status.1.isNone && status.2.process then
          let left ← terminate true status.2
          pure ((0 : Int), left)
        else
          pure (status.1.getD 0, status.2))
        (fun result after => Holds executed result.2 after ∧
          (result.1 ≤ 0 → result.2.appPrepIt = 0 ∧ result.2.deferredLaunch = false)) log := by
    apply wp_seq _ (wp_runningStatus left)
    rintro result after ⟨rfl, ⟨rfl, real⟩ | ⟨placebo, kept, rfl⟩⟩
    · cases child : left.process with
      | true =>
          simp only [Option.isNone_none, Bool.and_self, if_true]
          apply wp_seq _ (wp_end true settled)
          intro ended after closed
          refine ⟨closed.holds, fun _ => ?_⟩
          obtain ⟨appId, -, apps, rfl⟩ := closed.idle
          exact ⟨rfl, rfl⟩
      | false =>
          simp only [Bool.and_false, Bool.false_eq_true, if_false]
          refine ⟨settled.holds launched, fun _ => ⟨?_, launched⟩⟩
          by_contra prepared
          rcases settled.alive prepared with same | same
          · rw [real] at same
            cases same
          · rw [child] at same
            cases same
    · have goes : Settled executed { left with placebo } after :=
        ⟨settled.within, settled.idle, fun prepared => (settled.alive prepared).imp_left kept,
          settled.orderly⟩
      exact ⟨goes.holds launched, fun inactive => ⟨settled.idle inactive, launched⟩⟩
  unfold running
  cases waits : proc.deferredLaunch with
  | false =>
      simp only [Bool.false_eq_true, if_false]
      exact asked (holds.settled waits) waits
  | true =>
      obtain ⟨active, unprepared, earlier, rfl, before⟩ := holds.deferred waits
      simp only [if_true]
      apply wp_seq fun _ after => after = log
      · refine wp_quiet fun asSystem _ => ?_
        cases asSystem with
        | true => exact wp_quiet fun _ _ => rfl
        | false => rfl
      rintro waiting _ rfl
      cases waiting with
      | true =>
          exact ⟨holds, fun inactive => absurd inactive (Int.not_le.mpr active)⟩
      | false =>
          have launch := @wp_launchAppCommands earlier _ { proc with deferredLaunch := false }
            active rfl before
          apply wp_seq _ launch
          rintro ⟨error, left⟩ after ⟨settled, launched, failed⟩
          dsimp only
          split
          · rename_i nonzero
            exact ⟨settled.holds launched, fun _ => ⟨failed (bne_iff_ne.mp nonzero), launched⟩⟩
          · exact asked settled launched

theorem wp_execute (app : Ctx) (positive : 0 < app.id) (holds : Holds executed proc log) :
    wp host (execute app proc)
      (fun result after => Holds (executed ++ [app]) result.2 after) log := by
  have settled := holds.always
  have clean : Settled executed { proc with deferredLaunch := false } log :=
    ⟨settled.within, settled.idle, settled.alive, settled.orderly⟩
  apply wp_seq _ (wp_end false clean)
  rintro ended after closed
  obtain ⟨appId, -, apps, rfl⟩ := closed.idle
  refine wp_quiet fun asSystem _ => ?_
  refine wp_if (fun _ => wp_silent _) rfl fun ready => ?_
  cases ready with
  | true =>
      have launch := @wp_launchAppCommands executed after
        { appId := app.id, apps, app } positive rfl closed.undone
      apply wp_mono _ launch
      rintro result last ⟨settled, launched, -⟩
      exact settled.holds launched
  | false =>
      have waits : Deferred (executed ++ [app])
          { appId := app.id, apps, app, deferredLaunch := true } after :=
        ⟨positive, rfl, executed, rfl, closed.undone⟩
      exact ⟨fun _ => waits, Bool.noConfusion⟩

theorem wp_pause (held : Bool) (holds : Holds executed proc log) :
    wp host (pause held proc) (fun left after => Holds executed left after) log := by
  apply wp_seq fun result after => Holds executed result.2 after
  · cases held with
    | true => exact holds
    | false =>
        apply wp_mono _ (wp_running holds)
        rintro result after ⟨holds, -⟩
        exact holds
  rintro ⟨id, left⟩ after holds
  dsimp only
  split
  · apply wp_mono _ (wp_end true holds.always)
    intro ended last closed
    exact closed.holds
  · exact holds

theorem updateApps_spec {apps : List Ctx} (positive : ∀ app ∈ apps, 0 < app.id) :
    ∃ appId, (0 < proc.appId → 0 < appId) ∧ (appId ≤ 0 → proc.appId ≤ 0) ∧
      updateApps proc apps = { proc with apps, appId } := by
  have unchanged : ∃ appId, (0 < proc.appId → 0 < appId) ∧ (appId ≤ 0 → proc.appId ≤ 0) ∧
      ({ proc with apps } : ProcT) = { proc with apps, appId } :=
    ⟨proc.appId, id, id, rfl⟩
  unfold updateApps
  split
  · cases found : apps.find? fun candidate => candidate.uuid == proc.app.uuid with
    | none => exact unchanged
    | some app =>
        have valid := positive app (List.mem_of_find?_eq_some found)
        exact ⟨app.id, fun _ => valid, fun inactive => absurd inactive (Int.not_le.mpr valid), rfl⟩
  · exact unchanged

theorem Holds.refreshed {apps : List Ctx} {id : Int} (holds : Holds executed proc log)
    (ended : id ≤ 0 → proc.appPrepIt = 0 ∧ proc.deferredLaunch = false)
    (positive : ∀ app ∈ apps, 0 < app.id) :
    Holds executed (refreshed id apps proc) log := by
  unfold Process.refreshed
  split
  · obtain ⟨appId, active, inactive, same⟩ := @updateApps_spec proc apps positive
    rw [same]
    refine ⟨fun waits => ?_, fun launched => ?_⟩
    · obtain ⟨was, unprepared, before⟩ := holds.deferred waits
      exact ⟨active was, unprepared, before⟩
    · obtain ⟨within, idle, alive, orderly⟩ := holds.settled launched
      exact ⟨within, fun now => idle (inactive now), alive, orderly⟩
  · rename_i inactive
    obtain ⟨unprepared, launched⟩ := ended (Int.not_lt.mp inactive)
    have orderly := (holds.settled launched).orderly
    rw [outstanding_zero unprepared] at orderly
    refine ⟨fun waits => ?_, fun _ => ?_⟩
    · rw [launched] at waits
      cases waits
    · exact ⟨Nat.zero_le _, fun _ => rfl, fun prepared => absurd rfl prepared, orderly⟩

theorem wp_refresh (needsTerminate : Bool) (holds : Holds executed proc log) :
    wp host (refresh needsTerminate proc) (fun left after => Holds executed left after) log := by
  apply wp_seq fun left after => Holds executed left after
  · cases needsTerminate with
    | false => exact holds
    | true =>
        apply wp_mono _ (wp_end false holds.always)
        intro ended after closed
        exact closed.holds
  intro left after holds
  refine wp_quiet fun apps reliable => ?_
  cases apps with
  | none => exact holds
  | some apps =>
      apply wp_seq _ (wp_running holds)
      rintro ⟨id, last⟩ after ⟨holds, ended⟩
      exact holds.refreshed ended (reliable apps rfl)

theorem Holds.launchInputOnly (holds : Holds executed proc log) (inputOnlyAppId : Int) :
    Holds executed (launchInputOnly inputOnlyAppId proc) log := by
  unfold Process.launchInputOnly
  split
  · rename_i inactive
    have launched : proc.deferredLaunch = false := by
      cases waits : proc.deferredLaunch with
      | false => rfl
      | true => exact absurd inactive (Int.not_le.mpr (holds.deferred waits).active)
    obtain ⟨within, idle, -, orderly⟩ := holds.settled launched
    have unprepared := idle inactive
    exact Settled.holds ⟨within, fun _ => unprepared, fun _ => .inl rfl, orderly⟩ launched
  · exact holds

/-! ## Runs -/

inductive Reached : List Ctx → List Command → ProcT → Prop where
  | start : Reached [] [] {}
  | operates {executed : List Ctx} {log after : List Command} {proc left : ProcT}
      {trace : History Call Reply} (request : Request)
      (positive : ∀ app ∈ request.apps, 0 < app.id) (reached : Reached executed log proc)
      (runs : Runs (request.operation proc) trace (some left))
      (follows : Follows host log trace after) :
      Reached (executed ++ request.apps) after left

theorem wp_operation (request : Request) (positive : ∀ app ∈ request.apps, 0 < app.id)
    (holds : Holds executed proc log) :
    wp host (request.operation proc)
      (fun left after => Holds (executed ++ request.apps) left after) log := by
  cases request with
  | execute app =>
      apply wp_seq _ (wp_execute app (positive app List.mem_cons_self) holds)
      intro result after holds
      exact holds
  | running =>
      simp only [Request.apps, List.append_nil]
      apply wp_seq _ (wp_running holds)
      rintro result after ⟨holds, -⟩
      exact holds
  | pause held =>
      simp only [Request.apps, List.append_nil]
      exact wp_pause held holds
  | terminate needsRefresh =>
      simp only [Request.apps, List.append_nil]
      apply wp_mono _ (wp_end needsRefresh holds.always)
      intro ended after closed
      exact closed.holds
  | refresh needsTerminate =>
      simp only [Request.apps, List.append_nil]
      exact wp_refresh needsTerminate holds
  | launchInputOnly inputOnlyAppId =>
      simp only [Request.apps, List.append_nil]
      exact holds.launchInputOnly inputOnlyAppId

theorem holds_of_reached (reached : Reached executed log proc) : Holds executed proc log := by
  induction reached with
  | start =>
      have idle : Settled [] {} [] :=
        ⟨Nat.zero_le _, fun _ => rfl, fun prepared => absurd rfl prepared, .start⟩
      exact idle.holds rfl
  | operates request positive _ runs follows ih =>
      exact wp_result runs follows (wp_operation request positive ih)

/-- In every run each app is prepared at most once, what succeeded is undone in reverse order
before anything else is prepared, and nothing is left to be undone while no app is active. -/
theorem reached_orderly (reached : Reached executed log proc) :
    Orderly executed log (outstanding proc) ∧ (proc.appId ≤ 0 → outstanding proc = []) := by
  have settled := (holds_of_reached reached).always
  exact ⟨settled.orderly, fun inactive => outstanding_zero (settled.idle inactive)⟩

/-- A host where everything works, and the app runs until it is ended. -/
def works (_ : Unit) : (request : Call) → Reply request × Unit
  | .runDoCmd _ => (.running, ())
  | .exitCode _ => (0, ())
  | .waitUndoCmd _ => (.exited 0, ())
  | .parse => (none, ())
  | .terminateProcessGroup => ((), ())
  | .playniteUri _ => (false, ())
  | .isRunningAsSystem | .retrieveUsersToken | .waitDoCmd _ | .spawnDetached _ _
  | .playniteLauncher _ | .runApp _ _ | .processGroupRunning | .processRunning | .launchedRecently
  | .runUndoCmd _ => (true, ())

theorem reliable_works (request : Call) : Reliable ⟨request, (works () request).1⟩ := by
  cases request with
  | parse => exact fun list found => by cases found
  | playniteUri playniteId => rfl
  | _ => trivial

theorem Reached.works (reached : Reached executed log proc) (request : Request)
    (positive : ∀ app ∈ request.apps, 0 < app.id) {left : ProcT}
    (ends : ((request.operation proc).play Process.works ()).2 = some left) :
    Reached (executed ++ request.apps)
      (log ++ ((request.operation proc).play Process.works ()).1.flatMap commandsOf) left := by
  have follows (program : Operation ProcT) (log : List Command) :
      Follows host log (program.play Process.works ()).1
        (log ++ (program.play Process.works ()).1.flatMap commandsOf) := by
    induction program generalizing log with
    | done value =>
        simp only [Program.play, List.flatMap_nil, List.append_nil]
        exact .nil log
    | call request next ih =>
        simp only [Program.play, List.flatMap_cons, ← List.append_assoc]
        exact .cons ⟨reliable_works request, rfl⟩ (ih _ _)
    | pending =>
        simp only [Program.play, List.flatMap_nil, List.append_nil]
        exact .nil log
  have runs := Runs.play Process.works (request.operation proc) ()
  rw [ends] at runs
  exact .operates request positive reached runs (follows _ log)

def sampleApp : Ctx where
  id := 7
  prepCmds := [⟨"hdr on", "hdr off", false⟩, ⟨"", "restore audio", false⟩]
  cmd := "game"

theorem reached_orderly_sample :
    Orderly [sampleApp] [.does ⟨"hdr on", "hdr off", false⟩,
      .undoes ⟨"", "restore audio", false⟩, .undoes ⟨"hdr on", "hdr off", false⟩] [] := by
  have executed : Reached [sampleApp] [.does ⟨"hdr on", "hdr off", false⟩]
      { appId := 7, app := sampleApp, process := true, appPrepIt := 2 } :=
    Reached.start.works (.execute sampleApp) (by decide) rfl
  have ended := executed.works (.terminate false) (by decide) rfl
  exact (reached_orderly ended).1

end UmbraHost.Process
