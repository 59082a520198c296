import UmbraHost.History.WriterRuns

/-! # Answers to history commands

`process_batch` of `session_history_writer.cpp` with the promises that its
commands carry, in a build with the commands of the unit tests.  Completions are
collected while the commands run and are answered after the commit. -/

namespace UmbraHost.History

inductive DeleteResult where
  | deleted | notFound | failed | unavailable | timeout
deriving DecidableEq

inductive Command (Double : Type) where
  | request (request : Request Double)
  | setEndTimeForTests (uuid : String) (timestampUnix : Double)
  | forceFailureForTests
  | stop

def Command.deletes : Command Double → Bool
  | .request (.deleteSession _) => true
  | _ => false

/-- The callers that wait for a truth value. -/
def Command.checked : Command Double → Bool
  | .request .prune | .setEndTimeForTests _ _ | .forceFailureForTests => true
  | _ => false

/-- A command with the promises its caller waits for. -/
structure PendingCmd (Double Promise : Type) where
  sequence : Nat
  command : Command Double
  deleteCompletion : Option Promise := none
  boolCompletion : Option Promise := none
  delete_only : deleteCompletion.isSome = true → command.deletes = true := by simp
  bool_only : boolCompletion.isSome = true → command.checked = true := by simp

variable {Double Promise : Type}

def PendingCmd.promises (cmd : PendingCmd Double Promise) : List Promise :=
  cmd.deleteCompletion.toList ++ cmd.boolCompletion.toList

inductive Answer where
  | delete (result : DeleteResult)
  | bool (result : Bool)
deriving DecidableEq

def Answer.success : Answer → Bool
  | .delete result => result = .deleted
  | .bool result => result

/-- How far the commands of a batch got: the tables, and the completions collected. -/
structure Progress (Double Promise : Type) where
  ok : Bool
  tables : Tables Double
  deleteCompletions : List (Promise × DeleteResult) := []
  boolCompletions : List (Promise × Bool) := []

/-! ## The commands -/

def deleteResult (succeeds : Bool) (uuid : String) (tables : Tables Double) : DeleteResult :=
  if succeeds = false then .failed
  else if (tables.sessions.lookup uuid).isSome then .deleted
  else .notFound

def forceSetEndTime (doubles : Doubles Double) (uuid : String) (endTime : Double)
    (tables : Tables Double) : Tables Double :=
  match tables.sessions.lookup uuid with
  | none => tables
  | some row => { tables with
      sessions := tables.sessions.insert uuid { row with
        endTimeUnix := some endTime
        durationSeconds := some (doubles.sub endTime row.startTimeUnix) } }

def completion (promise : Option Promise) (result : α) : List (Promise × α) :=
  (promise.map fun promise => (promise, result)).toList

variable (host : Host Double)

/-- `apply_write_cmd`; `succeeds` says whether the statements of the command do. -/
def applyPending (succeeds : Bool) (cmd : PendingCmd Double Promise) (tables : Tables Double) :
    Progress Double Promise :=
  match cmd.command with
  | .request (.deleteSession uuid) =>
      let result := deleteResult succeeds uuid tables
      { ok := result ≠ .failed
        tables := if succeeds then processDelete uuid tables else tables
        deleteCompletions := completion cmd.deleteCompletion result }
  | .request .prune =>
      { ok := succeeds
        tables := if succeeds then host.processPrune tables else tables
        boolCompletions := completion cmd.boolCompletion succeeds }
  | .request request =>
      { ok := succeeds
        tables := if succeeds then effect host ⟨cmd.sequence, request⟩ tables else tables }
  | .setEndTimeForTests uuid timestampUnix =>
      let updated := succeeds && (tables.sessions.lookup uuid).isSome
      { ok := updated
        tables := if updated then forceSetEndTime host.doubles uuid timestampUnix tables else tables
        boolCompletions := completion cmd.boolCompletion updated }
  | .forceFailureForTests =>
      { ok := false
        tables := tables
        boolCompletions := completion cmd.boolCompletion false }
  | .stop => { ok := true, tables := tables }

/-- The loop over the batch, which ends at the first command that fails. -/
def applyBatch : List (PendingCmd Double Promise × Bool) → Tables Double →
    Progress Double Promise
  | [], tables => { ok := true, tables := tables }
  | (cmd, succeeds) :: rest, tables =>
      let first := applyPending host succeeds cmd tables
      if first.ok then
        let later := applyBatch rest first.tables
        { later with
          deleteCompletions := first.deleteCompletions ++ later.deleteCompletions
          boolCompletions := first.boolCompletions ++ later.boolCompletions }
      else first

/-! ## The batch -/

structure TransactionOutcome where
  opened : Bool := true
  begins : Bool := true
  commits : Bool := true

/-- The answers are in the order in which the promises are set. -/
structure BatchResult (Double Promise : Type) where
  committed : Bool
  tables : Tables Double
  answers : List (Promise × Answer)

def failAll (batch : List (PendingCmd Double Promise × Bool)) : List (Promise × Answer) :=
  batch.flatMap fun (cmd, _) =>
    completion cmd.deleteCompletion (.delete .failed) ++ completion cmd.boolCompletion (.bool false)

def resolveCompletions (progress : Progress Double Promise) (committed : Bool) :
    List (Promise × Answer) :=
  (progress.deleteCompletions.map fun (promise, result) =>
    (promise, .delete (if committed then result else .failed))) ++
  progress.boolCompletions.map fun (promise, result) => (promise, .bool (committed && result))

/-- Without a commit the transaction is rolled back. -/
def processPending (outcome : TransactionOutcome) (batch : List (PendingCmd Double Promise × Bool))
    (tables : Tables Double) : BatchResult Double Promise :=
  if batch.isEmpty then ⟨true, tables, []⟩
  else if !(outcome.opened && outcome.begins) then ⟨false, tables, failAll batch⟩
  else
    let progress := applyBatch host batch tables
    let committed := progress.ok && outcome.commits
    ⟨committed, if committed then progress.tables else tables,
      resolveCompletions progress committed⟩

/-! ## What is answered -/

/-- The commands up to the first one that fails, and those behind it. -/
def reached : List (PendingCmd Double Promise × Bool) → Tables Double →
    List (PendingCmd Double Promise × Bool)
  | [], _ => []
  | (cmd, succeeds) :: rest, tables =>
      let first := applyPending host succeeds cmd tables
      (cmd, succeeds) :: if first.ok then reached rest first.tables else []

def skipped : List (PendingCmd Double Promise × Bool) → Tables Double →
    List (PendingCmd Double Promise × Bool)
  | [], _ => []
  | (cmd, succeeds) :: rest, tables =>
      let first := applyPending host succeeds cmd tables
      if first.ok then skipped rest first.tables else rest

def promisesOf (batch : List (PendingCmd Double Promise × Bool)) : List Promise :=
  batch.flatMap fun entry => entry.1.promises

/-- The promises that a run of the commands has collected. -/
def Progress.collected (progress : Progress Double Promise) : List Promise :=
  progress.deleteCompletions.map Prod.fst ++ progress.boolCompletions.map Prod.fst

variable {host}

theorem reached_append_skipped (batch : List (PendingCmd Double Promise × Bool))
    (tables : Tables Double) : reached host batch tables ++ skipped host batch tables = batch := by
  induction batch generalizing tables with
  | nil => rfl
  | cons entry rest ih =>
      obtain ⟨cmd, succeeds⟩ := entry
      rw [reached, skipped]
      split
      · rw [List.cons_append, ih]
      · rfl

theorem map_fst_completion (promise : Option Promise) (result : α) :
    (completion promise result).map Prod.fst = promise.toList := by
  cases promise <;> rfl

variable (host) in
/-- A command's turn collects the promises that the command carries. -/
theorem collected_applyPending (succeeds : Bool) (cmd : PendingCmd Double Promise)
    (tables : Tables Double) :
    (applyPending host succeeds cmd tables).collected = cmd.promises := by
  obtain ⟨sequence, command, deleteCompletion, boolCompletion, deleteOnly, boolOnly⟩ := cmd
  have noDelete : command.deletes = false → deleteCompletion = none := by
    intro other
    by_contra some_
    have named := deleteOnly (Option.isSome_iff_ne_none.mpr some_)
    rw [other] at named
    cases named
  have noBool : command.checked = false → boolCompletion = none := by
    intro other
    by_contra some_
    have named := boolOnly (Option.isSome_iff_ne_none.mpr some_)
    rw [other] at named
    cases named
  cases command with
  | request request =>
      cases request with
      | deleteSession uuid =>
          simp [applyPending, Progress.collected, PendingCmd.promises, map_fst_completion,
            noBool rfl]
      | prune =>
          simp [applyPending, Progress.collected, PendingCmd.promises, map_fst_completion,
            noDelete rfl]
      | beginSession _ | endSession _ | insertSample _ | insertEvent _ =>
          simp [applyPending, Progress.collected, PendingCmd.promises, noDelete rfl, noBool rfl]
  | setEndTimeForTests uuid timestampUnix =>
      simp [applyPending, Progress.collected, PendingCmd.promises, map_fst_completion,
        noDelete rfl]
  | forceFailureForTests =>
      simp [applyPending, Progress.collected, PendingCmd.promises, map_fst_completion,
        noDelete rfl]
  | stop => simp [applyPending, Progress.collected, PendingCmd.promises, noDelete rfl, noBool rfl]

/-- The loop collects the promises of the commands that it reaches. -/
theorem collected_applyBatch (batch : List (PendingCmd Double Promise × Bool))
    (tables : Tables Double) :
    (applyBatch host batch tables).collected.Perm (promisesOf (reached host batch tables)) := by
  induction batch generalizing tables with
  | nil => exact .refl []
  | cons entry rest ih =>
      obtain ⟨cmd, succeeds⟩ := entry
      have own := collected_applyPending host succeeds cmd tables
      rw [applyBatch, reached]
      dsimp only
      split
      · rw [promisesOf, List.flatMap_cons, ← own]
        refine List.Perm.trans ?_ (List.Perm.append_left _ (ih _))
        simp only [Progress.collected, List.map_append, List.append_assoc]
        refine List.Perm.append_left _ ?_
        rw [← List.append_assoc, ← List.append_assoc]
        exact List.Perm.append_right _ List.perm_append_comm
      · simp only [promisesOf, List.flatMap_cons, List.flatMap_nil, List.append_nil, own]
        exact .refl _

/-- Only a command whose statements succeed reports a success. -/
theorem succeeds_of_applyPending {succeeds : Bool} {cmd : PendingCmd Double Promise}
    {tables : Tables Double} {promise : Promise}
    (reported : (promise, .deleted) ∈ (applyPending host succeeds cmd tables).deleteCompletions ∨
      (promise, true) ∈ (applyPending host succeeds cmd tables).boolCompletions) :
    promise ∈ cmd.promises ∧ succeeds = true := by
  have own : promise ∈ cmd.promises := by
    rw [← collected_applyPending host succeeds cmd tables, Progress.collected,
      List.mem_append]
    exact reported.imp (List.mem_map_of_mem (f := Prod.fst)) (List.mem_map_of_mem (f := Prod.fst))
  refine ⟨own, ?_⟩
  by_contra fails
  rw [Bool.not_eq_true] at fails
  subst fails
  cases named : cmd.command with
  | request request =>
      cases request <;>
        simp_all [applyPending, completion, deleteResult]
  | setEndTimeForTests uuid timestampUnix => simp_all [applyPending, completion]
  | forceFailureForTests => simp_all [applyPending, completion]
  | stop => simp_all [applyPending]

theorem succeeds_of_applyBatch {batch : List (PendingCmd Double Promise × Bool)}
    {tables : Tables Double} {promise : Promise}
    (reported : (promise, .deleted) ∈ (applyBatch host batch tables).deleteCompletions ∨
      (promise, true) ∈ (applyBatch host batch tables).boolCompletions) :
    ∃ entry ∈ batch, promise ∈ entry.1.promises ∧ entry.2 = true := by
  induction batch generalizing tables with
  | nil => simp [applyBatch] at reported
  | cons entry rest ih =>
      obtain ⟨cmd, succeeds⟩ := entry
      rw [applyBatch] at reported
      dsimp only at reported
      split at reported
      · have either : ((promise, .deleted) ∈ (applyPending host succeeds cmd tables).deleteCompletions ∨
            (promise, true) ∈ (applyPending host succeeds cmd tables).boolCompletions) ∨
          ((promise, .deleted) ∈ (applyBatch host rest
              (applyPending host succeeds cmd tables).tables).deleteCompletions ∨
            (promise, true) ∈ (applyBatch host rest
              (applyPending host succeeds cmd tables).tables).boolCompletions) := by
          simp only [List.mem_append] at reported
          rcases reported with (own | later) | own | later
          · exact .inl (.inl own)
          · exact .inr (.inl later)
          · exact .inl (.inr own)
          · exact .inr (.inr later)
        rcases either with own | later
        · exact ⟨(cmd, succeeds), List.mem_cons_self, succeeds_of_applyPending own⟩
        · obtain ⟨entry, member, answered⟩ := ih later
          exact ⟨entry, List.mem_cons_of_mem _ member, answered⟩
      · exact ⟨(cmd, succeeds), List.mem_cons_self, succeeds_of_applyPending reported⟩

theorem map_fst_failAll (batch : List (PendingCmd Double Promise × Bool)) :
    (failAll batch).map Prod.fst = promisesOf batch := by
  simp only [failAll, promisesOf, List.map_flatMap, List.map_append, map_fst_completion,
    PendingCmd.promises]

theorem map_fst_resolveCompletions (progress : Progress Double Promise) (committed : Bool) :
    (resolveCompletions progress committed).map Prod.fst = progress.collected := by
  simp only [resolveCompletions, Progress.collected, List.map_append, List.map_map]
  rfl

theorem not_success_of_failAll {batch : List (PendingCmd Double Promise × Bool)}
    {promise : Promise} {answer : Answer} (answered : (promise, answer) ∈ failAll batch) :
    answer.success = false := by
  obtain ⟨⟨cmd, succeeds⟩, -, member⟩ := List.mem_flatMap.mp answered
  rcases List.mem_append.mp member with member | member <;>
    (simp only [completion, Option.mem_toList, Option.map_eq_some_iff, Prod.mk.injEq] at member
     obtain ⟨_, -, -, rfl⟩ := member
     rfl)

/-- A success is only ever answered behind a commit. -/
theorem committed_of_success {progress : Progress Double Promise} {committed : Bool}
    {promise : Promise} {answer : Answer}
    (answered : (promise, answer) ∈ resolveCompletions progress committed)
    (success : answer.success = true) :
    committed = true ∧ ((promise, .deleted) ∈ progress.deleteCompletions ∨
      (promise, true) ∈ progress.boolCompletions) := by
  rcases List.mem_append.mp answered with member | member
  · obtain ⟨⟨other, result⟩, inside, same⟩ := List.mem_map.mp member
    cases same
    cases committed with
    | false => simp [Answer.success] at success
    | true =>
        simp only [Answer.success, if_true, decide_eq_true_eq] at success
        exact ⟨rfl, .inl (success ▸ inside)⟩
  · obtain ⟨⟨other, result⟩, inside, same⟩ := List.mem_map.mp member
    cases same
    simp only [Answer.success, Bool.and_eq_true] at success
    exact ⟨success.1, .inr (success.2 ▸ inside)⟩

/-! ## Exactly one answer -/

variable [DecidableEq Promise] (host)

/-- Every promise of the batch is set once, a success is reported only of a
command that succeeded and was committed, and without a commit nothing changes. -/
structure Answered (outcome : TransactionOutcome) (batch : List (PendingCmd Double Promise × Bool))
    (tables : Tables Double) : Prop where
  once : ∀ promise ∈ promisesOf batch,
    ((processPending host outcome batch tables).answers.map Prod.fst).count promise = 1
  success : ∀ promise answer,
    (promise, answer) ∈ (processPending host outcome batch tables).answers →
    answer.success = true → (processPending host outcome batch tables).committed = true ∧
      ∃ entry ∈ batch, promise ∈ entry.1.promises ∧ entry.2 = true
  rolledBack : (processPending host outcome batch tables).committed = false →
    (processPending host outcome batch tables).tables = tables

variable {host}

omit [DecidableEq Promise] in
theorem processPending_of_started {outcome : TransactionOutcome}
    {batch : List (PendingCmd Double Promise × Bool)} (tables : Tables Double)
    (nonempty : batch ≠ []) (started : (outcome.opened && outcome.begins) = true) :
    (processPending host outcome batch tables).answers =
      resolveCompletions (applyBatch host batch tables)
        ((applyBatch host batch tables).ok && outcome.commits) ∧
    (processPending host outcome batch tables).committed =
      ((applyBatch host batch tables).ok && outcome.commits) := by
  simp [processPending, nonempty, started]

omit [DecidableEq Promise] in
theorem success_processPending {outcome : TransactionOutcome}
    {batch : List (PendingCmd Double Promise × Bool)} {tables : Tables Double} {promise : Promise}
    {answer : Answer}
    (answered : (promise, answer) ∈ (processPending host outcome batch tables).answers)
    (success : answer.success = true) :
    (processPending host outcome batch tables).committed = true ∧
      ∃ entry ∈ batch, promise ∈ entry.1.promises ∧ entry.2 = true := by
  by_cases nonempty : batch = []
  · simp [processPending, nonempty] at answered
  · cases started : outcome.opened && outcome.begins with
    | false =>
        simp only [processPending, nonempty, started, List.isEmpty_iff, if_false, Bool.not_false,
          if_true] at answered
        rw [not_success_of_failAll answered] at success
        cases success
    | true =>
        simp only [processPending, nonempty, started, List.isEmpty_iff, if_false, Bool.not_true,
          Bool.false_eq_true] at answered ⊢
        obtain ⟨committed, reported⟩ := committed_of_success answered success
        exact ⟨committed, succeeds_of_applyBatch reported⟩

omit [DecidableEq Promise] in
theorem rolledBack_processPending {outcome : TransactionOutcome}
    {batch : List (PendingCmd Double Promise × Bool)} {tables : Tables Double}
    (uncommitted : (processPending host outcome batch tables).committed = false) :
    (processPending host outcome batch tables).tables = tables := by
  unfold processPending at uncommitted ⊢
  split
  · rfl
  · split
    · rfl
    next nonempty started =>
      rw [if_neg nonempty, if_neg started] at uncommitted
      dsimp only at uncommitted ⊢
      rw [uncommitted]
      rfl

/-- With promises of their own the callers are all answered exactly when the
database is missing, the transaction does not begin, or no command behind the
first one that fails carries a promise. -/
theorem answered_iff {outcome : TransactionOutcome}
    {batch : List (PendingCmd Double Promise × Bool)} {tables : Tables Double}
    (distinct : (promisesOf batch).Nodup) :
    Answered host outcome batch tables ↔
      (outcome.opened = true → outcome.begins = true →
        promisesOf (skipped host batch tables) = []) := by
  have whole : promisesOf (reached host batch tables) ++ promisesOf (skipped host batch tables) =
      promisesOf batch := by
    rw [promisesOf, promisesOf, ← List.flatMap_append, reached_append_skipped]
    rfl
  rw [← whole] at distinct
  have counted (promise : Promise) (nonempty : batch ≠ [])
      (started : (outcome.opened && outcome.begins) = true) :
      ((processPending host outcome batch tables).answers.map Prod.fst).count promise =
        (promisesOf (reached host batch tables)).count promise := by
    rw [(processPending_of_started tables nonempty started).1, map_fst_resolveCompletions]
    exact (collected_applyBatch batch tables).count_eq promise
  constructor
  · rintro ⟨once, -, -⟩ opened begins
    rw [List.eq_nil_iff_forall_not_mem]
    intro promise left
    have nonempty : batch ≠ [] := by
      rintro rfl
      cases left
    have single := once promise (whole ▸ List.mem_append_right _ left)
    rw [counted promise nonempty (by simp [opened, begins])] at single
    have answered := List.count_pos_iff.mp (single ▸ Nat.one_pos)
    exact (List.nodup_append.mp distinct).2.2 promise answered promise left rfl
  · intro covered
    refine ⟨?_, fun _ _ => success_processPending, rolledBack_processPending⟩
    intro promise member
    have nonempty : batch ≠ [] := by
      rintro rfl
      cases member
    cases started : outcome.opened && outcome.begins with
    | false =>
        have failed : (processPending host outcome batch tables).answers = failAll batch := by
          simp [processPending, nonempty, started]
        rw [failed, map_fst_failAll]
        exact List.count_eq_one_of_mem (whole ▸ distinct) member
    | true =>
        obtain ⟨opened, begins⟩ := Bool.and_eq_true_iff.mp started
        rw [counted promise nonempty started]
        rw [← whole, covered opened begins, List.append_nil] at member
        rw [covered opened begins, List.append_nil] at distinct
        exact List.count_eq_one_of_mem distinct member

theorem answered_iff_delete_after_end :
    Answered wholeHost {} [(⟨0, .request (.endSession "a"), none, none, by simp, by simp⟩, true),
        (⟨1, .request (.deleteSession "b"), some 7, none, fun _ => rfl, by simp⟩, true)]
        Tables.empty ↔
      (({} : TransactionOutcome).opened = true → ({} : TransactionOutcome).begins = true →
        promisesOf (skipped wholeHost
          [(⟨0, .request (.endSession "a"), none, none, by simp, by simp⟩, true),
            (⟨1, .request (.deleteSession "b"), some 7, none, fun _ => rfl, by simp⟩, true)]
          Tables.empty) = ([] : List Nat)) :=
  answered_iff (by decide)

/-- The statements of the first command fail, and the deletion behind it waits. -/
def failedBeforeDelete : List (PendingCmd Int Nat × Bool) :=
  [(⟨0, .request (.endSession "a"), none, none, by simp, by simp⟩, false),
    (⟨1, .request (.deleteSession "b"), some 7, none, fun _ => rfl, by simp⟩, true)]

theorem delete_unanswered :
    ¬ ∀ (outcome : TransactionOutcome) (batch : List (PendingCmd Int Nat × Bool))
        (tables : Tables Int), (promisesOf batch).Nodup → Answered wholeHost outcome batch tables := by
  intro all
  have once := (all {} failedBeforeDelete Tables.empty (by decide)).once 7 (by decide)
  revert once
  decide +kernel

/-! ## The writer without promises -/

variable (host) in
omit [DecidableEq Promise] in
/-- A batch of requests does to the tables what it does in the writer. -/
theorem applyBatch_eq_foldlM (outcome : BatchOutcome Double)
    {pend : WriteCmd Double → PendingCmd Double Promise}
    (same : ∀ cmd, (pend cmd).sequence = cmd.sequence ∧ (pend cmd).command = .request cmd.request)
    (cmds : List (WriteCmd Double)) (tables : Tables Double) :
    cmds.foldlM (applyWriteCmd host outcome) tables =
      if (applyBatch host (cmds.map fun cmd => (pend cmd, outcome.succeeds cmd)) tables).ok then
        some (applyBatch host (cmds.map fun cmd => (pend cmd, outcome.succeeds cmd)) tables).tables
      else none := by
  induction cmds generalizing tables with
  | nil => rfl
  | cons cmd rest ih =>
      have turn : (applyPending host (outcome.succeeds cmd) (pend cmd) tables).ok =
          outcome.succeeds cmd ∧ (outcome.succeeds cmd = true →
            (applyPending host (outcome.succeeds cmd) (pend cmd) tables).tables =
              effect host cmd tables) := by
        obtain ⟨sequence, request⟩ := cmd
        obtain ⟨numbered, named⟩ := same ⟨sequence, request⟩
        dsimp only at numbered named
        cases request <;>
          simp only [applyPending, named, numbered, effect, deleteResult] <;>
          cases outcome.succeeds _ <;> simp
        split <;> simp
      rw [List.foldlM_cons, List.map_cons, applyBatch]
      dsimp only
      cases succeeds : outcome.succeeds cmd with
      | false =>
          rw [succeeds] at turn
          simp [applyWriteCmd, succeeds, turn.1]
      | true =>
          rw [succeeds] at turn
          simp only [applyWriteCmd, succeeds, if_true, turn.1, turn.2 rfl]
          exact ih _

omit [DecidableEq Promise] in
theorem processPending_eq_processBatch {outcome : BatchOutcome Double}
    {pend : WriteCmd Double → PendingCmd Double Promise}
    (same : ∀ cmd, (pend cmd).sequence = cmd.sequence ∧ (pend cmd).command = .request cmd.request)
    (cmds : List (WriteCmd Double)) (tables : Tables Double) :
    let result := processPending host ⟨true, outcome.begins, outcome.commits⟩
      (cmds.map fun cmd => (pend cmd, outcome.succeeds cmd)) tables
    (result.tables, result.committed) = processBatch host outcome cmds tables := by
  have fold := applyBatch_eq_foldlM host outcome same cmds tables
  unfold processPending processBatch
  cases cmds with
  | nil => rfl
  | cons cmd rest =>
      generalize applyBatch host ((cmd :: rest).map fun cmd => (pend cmd, outcome.succeeds cmd))
        tables = progress at fold ⊢
      rw [fold]
      cases outcome.begins <;> cases outcome.commits <;> cases ended : progress.ok <;> simp [ended]

end UmbraHost.History
