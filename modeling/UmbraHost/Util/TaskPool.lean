import UmbraHost.Transition.Run
import Mathlib.Data.List.Nodup
import Mathlib.Data.List.TakeWhile

/-! # The task pool

`TaskPool` of `task_pool.h`.  A task is known by the number of its allocation, and an entry
whose task was moved out has none. -/

namespace UmbraHost.TaskPool

open UmbraHost.Transition

abbrev Time := Int

/-- A task pointer, which may be null. -/
abbrev Task := Option Nat

abbrev Entry := Time × Task

structure Pool where
  tasks : List Task
  timerTasks : List Entry

/-! ## The code -/

def insert (time : Time) (task : Task) : List Entry → List Entry
  | [] => [(time, task)]
  | entry :: rest =>
    if entry.1 < time then (time, task) :: entry :: rest else entry :: insert time task rest

def pushDelayed (time : Time) (task : Task) (pool : Pool) : Pool :=
  { pool with timerTasks := insert time task pool.timerTasks }

def push (task : Task) (pool : Pool) : Pool := { pool with tasks := pool.tasks ++ [task] }

/-- The pass of `delay` from an entry to the front; the entries in front of it stand with the
nearest one first. -/
def bubble (entry : Entry) : List Entry → List Entry
  | [] => [entry]
  | prev :: front =>
    if prev.1 < entry.1 then bubble entry front ++ [prev] else bubble prev front ++ [entry]

/-- The entries in front of a task, and those from it on. -/
def before (task : Task) (entries : List Entry) : List Entry :=
  entries.takeWhile fun entry => entry.2 != task

def fromTask (task : Task) (entries : List Entry) : List Entry :=
  entries.dropWhile fun entry => entry.2 != task

def delayed (task : Task) (time : Time) (entries : List Entry) : List Entry :=
  match fromTask task entries with
  | [] => entries
  | entry :: behind => bubble (time, entry.2) (before task entries).reverse ++ behind

def delay (task : Task) (time : Time) (pool : Pool) : Pool :=
  { pool with timerTasks := delayed task time pool.timerTasks }

def cancelled (task : Task) (entries : List Entry) : List Entry :=
  before task entries ++ (fromTask task entries).tail

def cancel (task : Task) (pool : Pool) : Bool × Pool :=
  (fromTask task pool.timerTasks ≠ [],
    { pool with timerTasks := cancelled task pool.timerTasks })

/-- `std::move(*pos)` leaves the entry behind with its time and no task. -/
def extracted (task : Task) (entries : List Entry) : List Entry :=
  match fromTask task entries with
  | [] => entries
  | entry :: behind => before task entries ++ (entry.1, none) :: behind

/-- `pop` of a task. -/
def extract (task : Task) (pool : Pool) : Option Entry × Pool :=
  ((fromTask task pool.timerTasks).head?,
    { pool with timerTasks := extracted task pool.timerTasks })

def pop (now : Time) (pool : Pool) : Option Task × Pool :=
  match pool.tasks with
  | task :: tasks => (some task, { pool with tasks })
  | [] =>
    match pool.timerTasks.getLast? with
    | some (time, task) =>
      if time ≤ now then (some task, { pool with timerTasks := pool.timerTasks.dropLast })
      else (none, pool)
    | none => (none, pool)

def next (pool : Pool) : Option Time := pool.timerTasks.getLast?.map Prod.fst

/-! ## Runs -/

inductive Event where
  | push
  | pushDelayed (duration : Time)
  | delay (task : Task) (duration : Time)
  | cancel (task : Task)
  | extract (task : Task)
  | pop
deriving DecidableEq

/-- The pool and what became of its tasks. -/
structure State where
  pool : Pool
  /-- The number of allocations. -/
  made : Nat
  returned : List Task
  /-- Cancelled or extracted tasks. -/
  removed : List Task
  /-- The current deadline of each timer task that is still to come. -/
  deadline : Nat → Option Time

def empty : State := ⟨⟨[], []⟩, 0, [], [], fun _ => none⟩

def setDeadline (deadline : Nat → Option Time) (task : Task) (time : Option Time) :
    Nat → Option Time :=
  fun other => if some other = task then time else deadline other

/-- One call at a time of the clock. -/
def step (call : Time × Event) (state : State) : State :=
  let (now, event) := call
  match event with
  | .push => { state with pool := push (some state.made) state.pool, made := state.made + 1 }
  | .pushDelayed duration =>
    { state with
      pool := pushDelayed (now + duration) (some state.made) state.pool
      made := state.made + 1
      deadline := setDeadline state.deadline (some state.made) (some (now + duration)) }
  | .delay task duration =>
    { state with
      pool := delay task (now + duration) state.pool
      deadline := fun other =>
        if some other = task ∧ (state.deadline other).isSome then some (now + duration)
        else state.deadline other }
  | .cancel task =>
    let (found, pool) := cancel task state.pool
    { state with
      pool
      removed := if found then task :: state.removed else state.removed
      deadline := setDeadline state.deadline task none }
  | .extract task =>
    let (found, pool) := extract task state.pool
    { state with
      pool
      removed := (found.map Prod.snd).toList ++ state.removed
      deadline := setDeadline state.deadline task none }
  | .pop =>
    let (result, pool) := pop now state.pool
    { state with
      pool
      returned := result.toList ++ state.returned
      deadline := setDeadline state.deadline (result.getD none) none }

/-! ## Order -/

/-- The earliest deadline comes last. -/
def Sorted (entries : List Entry) : Prop :=
  entries.Pairwise fun first second => second.1 ≤ first.1

/-- No entry is without its task. -/
def Full (entries : List Entry) : Prop := ∀ entry ∈ entries, entry.2 ≠ none

section

variable {entries : List Entry} {task : Task} {time : Time} {entry : Entry}

theorem insert_perm (time : Time) (task : Task) (entries : List Entry) :
    (insert time task entries).Perm ((time, task) :: entries) := by
  induction entries with
  | nil => exact List.Perm.refl _
  | cons entry rest ih =>
      rw [insert]
      split
      · exact List.Perm.refl _
      · exact (ih.cons entry).trans (List.Perm.swap _ _ _)

theorem Sorted.insert (sorted : Sorted entries) : Sorted (insert time task entries) := by
  induction entries with
  | nil => exact List.pairwise_singleton _ _
  | cons entry rest ih =>
      obtain ⟨first, later⟩ := List.pairwise_cons.mp sorted
      rw [TaskPool.insert]
      split
      · next earlier =>
          refine List.pairwise_cons.mpr ⟨?_, sorted⟩
          intro other member
          rcases List.mem_cons.mp member with rfl | inside
          · exact Int.le_of_lt earlier
          · exact Int.le_trans (first other inside) (Int.le_of_lt earlier)
      · next latest =>
          refine List.pairwise_cons.mpr ⟨?_, ih later⟩
          intro other member
          rcases List.mem_cons.mp ((insert_perm time task rest).mem_iff.mp member) with rfl | inside
          · exact Int.not_lt.mp latest
          · exact first other inside

theorem bubble_perm (entry : Entry) (front : List Entry) :
    (bubble entry front).Perm (entry :: front) := by
  induction front generalizing entry with
  | nil => exact List.Perm.refl _
  | cons prev front ih =>
      rw [bubble]
      split
      · exact ((ih entry).append_right [prev]).trans
          ((List.perm_append_singleton prev front).cons entry)
      · exact ((ih prev).append_right [entry]).trans (List.perm_append_singleton entry _)

/-- The entries in front stand in ascending order, the nearest one first. -/
theorem bubble_sorted {front : List Entry}
    (ascending : front.Pairwise fun first second => first.1 ≤ second.1) (entry : Entry) :
    Sorted (bubble entry front) := by
  induction front generalizing entry with
  | nil => exact List.pairwise_singleton _ _
  | cons prev front ih =>
      obtain ⟨nearest, farther⟩ := List.pairwise_cons.mp ascending
      have append {first last : Entry} (least : ∀ other ∈ first :: front, last.1 ≤ other.1) :
          Sorted (bubble first front ++ [last]) := by
        refine List.pairwise_append.mpr ⟨ih farther first, List.pairwise_singleton _ _, ?_⟩
        intro other member final same
        obtain rfl := List.mem_singleton.mp same
        exact least other ((bubble_perm first front).mem_iff.mp member)
      rw [bubble]
      split
      · next earlier => exact append (List.forall_mem_cons.mpr ⟨Int.le_of_lt earlier, nearest⟩)
      · next latest =>
          have least := Int.not_lt.mp latest
          refine append (List.forall_mem_cons.mpr ⟨least, ?_⟩)
          exact fun other member => Int.le_trans least (nearest other member)

/-- The first entry of a task and the entries around it. -/
theorem fromTask_cases (task : Task) (entries : List Entry) :
    (fromTask task entries = [] ∧ before task entries = entries ∧
      ∀ entry ∈ entries, entry.2 ≠ task) ∨
    ∃ time behind, fromTask task entries = (time, task) :: behind ∧
      entries = before task entries ++ (time, task) :: behind := by
  have whole := List.takeWhile_append_dropWhile (p := fun entry : Entry => entry.2 != task)
    (l := entries)
  cases found : fromTask task entries with
  | nil =>
      have all := List.dropWhile_eq_nil_iff.mp found
      refine .inl ⟨rfl, List.takeWhile_eq_self_iff.mpr all, ?_⟩
      intro entry member
      simpa using all entry member
  | cons entry behind =>
      have stopped := List.head?_dropWhile_not (fun entry : Entry => entry.2 != task) entries
      rw [fromTask] at found
      rw [found] at stopped whole
      have same : entry.2 = task := by simpa using stopped
      refine .inr ⟨entry.1, behind, ?_, ?_⟩
      · rw [← same]
      · rw [← same]
        rw [← same] at whole
        exact whole.symm

theorem Sorted.split {front behind : List Entry} (sorted : Sorted (front ++ entry :: behind)) :
    Sorted front ∧ Sorted behind ∧ (∀ first ∈ front, ∀ second ∈ behind, second.1 ≤ first.1) := by
  obtain ⟨first, rest, across⟩ := List.pairwise_append.mp sorted
  refine ⟨first, (List.pairwise_cons.mp rest).2, ?_⟩
  exact fun other member second inside => across other member second (List.mem_cons_of_mem _ inside)

theorem Sorted.remove {front behind : List Entry} (sorted : Sorted (front ++ entry :: behind)) :
    Sorted (front ++ behind) := by
  obtain ⟨first, second, across⟩ := sorted.split
  exact List.pairwise_append.mpr ⟨first, second, across⟩

/-- The new deadline has to be one for the place of the task. -/
theorem bubble_sorted_iff {front behind : List Entry}
    (sorted : Sorted (front ++ entry :: behind)) :
    Sorted (bubble (time, task) front.reverse ++ behind) ↔ ∀ other ∈ behind, other.1 ≤ time := by
  obtain ⟨first, second, across⟩ := sorted.split
  have mem (other : Entry) : other ∈ bubble (time, task) front.reverse ↔
      other = (time, task) ∨ other ∈ front := by
    rw [(bubble_perm (time, task) front.reverse).mem_iff, List.mem_cons, List.mem_reverse]
  constructor
  · intro whole other member
    exact (List.pairwise_append.mp whole).2.2 _ ((mem _).mpr (.inl rfl)) other member
  · intro earlier
    have ascending := bubble_sorted (List.pairwise_reverse.mpr first) (time, task)
    refine List.pairwise_append.mpr ⟨ascending, second, ?_⟩
    intro other member last inside
    rcases (mem other).mp member with rfl | before
    · exact earlier last inside
    · exact across other before last inside

end

/-! ## The representation -/

structure Represented (pool : Pool) : Prop where
  sorted : Sorted pool.timerTasks
  full : Full pool.timerTasks

/-- A timer task is not extracted, and not delayed to a time in front of the deadline of one that
comes before it. -/
def Sound (call : Time × Event) (state : State) : Prop :=
  match call.2 with
  | .delay task duration =>
    ∀ entry ∈ (fromTask task state.pool.timerTasks).tail, entry.1 ≤ call.1 + duration
  | .extract task => ∀ entry ∈ state.pool.timerTasks, entry.2 ≠ task
  | .push | .pushDelayed _ | .cancel _ | .pop => True

theorem Represented.remove {front behind : List Entry} {entry : Entry} {tasks : List Task}
    (represented : Represented ⟨tasks, front ++ entry :: behind⟩) :
    Represented ⟨tasks, front ++ behind⟩ := by
  refine ⟨represented.sorted.remove, fun other member => represented.full other ?_⟩
  rw [List.mem_append, List.mem_cons]
  rcases List.mem_append.mp member with first | second
  · exact .inl first
  · exact .inr (.inr second)

theorem represented_delay {pool : Pool} (represented : Represented pool) (task : Task)
    (time : Time) :
    Represented (delay task time pool) ↔
      ∀ entry ∈ (fromTask task pool.timerTasks).tail, entry.1 ≤ time := by
  rcases fromTask_cases task pool.timerTasks with ⟨none, -, -⟩ | ⟨old, behind, found, shape⟩
  · have same : delay task time pool = pool := by rw [delay, delayed, none]
    rw [same, none]
    exact iff_of_true represented fun _ member => absurd member List.not_mem_nil
  · have sorted := represented.sorted
    have full := represented.full
    rw [shape] at sorted full
    have moved : (delay task time pool).timerTasks =
        bubble (time, task) (before task pool.timerTasks).reverse ++ behind := by
      rw [delay, delayed, found]
    rw [found, List.tail_cons, ← @bubble_sorted_iff task time _ _ _ sorted, ← moved]
    refine ⟨Represented.sorted, fun ordered => ⟨ordered, ?_⟩⟩
    intro entry member
    rw [moved, List.mem_append, (bubble_perm _ _).mem_iff, List.mem_cons,
      List.mem_reverse] at member
    rcases member with (rfl | first) | second
    · exact full (old, task) (List.mem_append_right _ List.mem_cons_self)
    · exact full entry (List.mem_append_left _ first)
    · exact full entry (List.mem_append_right _ (List.mem_cons_of_mem _ second))

theorem represented_extract {pool : Pool} (represented : Represented pool) (task : Task) :
    Represented (extract task pool).2 ↔ ∀ entry ∈ pool.timerTasks, entry.2 ≠ task := by
  rcases fromTask_cases task pool.timerTasks with ⟨none, -, absent⟩ | ⟨old, behind, found, shape⟩
  · have same : (extract task pool).2 = pool := by rw [extract, extracted, none]
    rw [same]
    exact iff_of_true represented absent
  · refine iff_of_false ?_ ?_
    · intro represented
      have left : (extract task pool).2.timerTasks =
          before task pool.timerTasks ++ (old, none) :: behind := by
        rw [extract, extracted, found]
      refine represented.full (old, none) ?_ rfl
      rw [left]
      exact List.mem_append_right _ List.mem_cons_self
    · intro absent
      refine absent (old, task) ?_ rfl
      rw [shape]
      exact List.mem_append_right _ List.mem_cons_self

theorem cancelled_cases (task : Task) (entries : List Entry) :
    (cancelled task entries = entries ∧ fromTask task entries = [] ∧
      ∀ entry ∈ entries, entry.2 ≠ task) ∨
    ∃ front time behind, entries = front ++ (time, task) :: behind ∧
      cancelled task entries = front ++ behind ∧ fromTask task entries ≠ [] := by
  rcases fromTask_cases task entries with ⟨none, all, absent⟩ | ⟨time, behind, found, shape⟩
  · refine .inl ⟨?_, none, absent⟩
    rw [cancelled, none, all, List.tail_nil, List.append_nil]
  · refine .inr ⟨before task entries, time, behind, shape, ?_, ?_⟩
    · rw [cancelled, found, List.tail_cons]
    · rw [found]
      exact List.cons_ne_nil _ _

theorem represented_cancel {pool : Pool} (represented : Represented pool) (task : Task) :
    Represented (cancel task pool).2 := by
  obtain ⟨tasks, entries⟩ := pool
  rw [cancel]
  rcases cancelled_cases task entries with ⟨same, -, -⟩ | ⟨front, time, behind, rfl, left, -⟩
  · simpa only [same] using represented
  · simpa only [left] using represented.remove

theorem represented_pushDelayed {pool : Pool} (represented : Represented pool) (time : Time)
    (made : Nat) : Represented (pushDelayed time (some made) pool) := by
  refine ⟨represented.sorted.insert, fun entry member => ?_⟩
  rcases List.mem_cons.mp ((insert_perm _ _ _).mem_iff.mp member) with rfl | inside
  · exact Option.some_ne_none made
  · exact represented.full entry inside

/-- What `pop` does. -/
theorem pop_cases (now : Time) (pool : Pool) :
    (∃ task tasks, pool.tasks = task :: tasks ∧
      pop now pool = (some task, { pool with tasks })) ∨
    (pool.tasks = [] ∧ ∃ front time task, pool.timerTasks = front ++ [(time, task)] ∧
      time ≤ now ∧ pop now pool = (some task, { pool with timerTasks := front })) ∨
    (pool.tasks = [] ∧ pop now pool = (none, pool) ∧
      ∀ entry ∈ pool.timerTasks.getLast?, now < entry.1) := by
  obtain ⟨tasks, entries⟩ := pool
  cases tasks with
  | cons task tasks => exact .inl ⟨task, tasks, rfl, rfl⟩
  | nil =>
      refine .inr ?_
      rcases List.eq_nil_or_concat entries with rfl | ⟨front, ⟨time, task⟩, rfl⟩
      · exact .inr ⟨rfl, rfl, fun entry none => nomatch none⟩
      · rw [List.concat_eq_append]
        by_cases due : time ≤ now
        · refine .inl ⟨rfl, front, time, task, rfl, due, ?_⟩
          simp [pop, due]
        · refine .inr ⟨rfl, ?_, ?_⟩
          · simp [pop, due]
          · intro entry last
            rw [List.getLast?_concat] at last
            obtain rfl := Option.some.inj last
            exact Int.not_le.mp due

theorem represented_pop {pool : Pool} (represented : Represented pool) (now : Time) :
    Represented (pop now pool).2 := by
  rcases pop_cases now pool with
    ⟨task, tasks, -, popped⟩ | ⟨-, front, time, task, shape, -, popped⟩ | ⟨-, popped, -⟩
  · rw [popped]
    exact ⟨represented.sorted, represented.full⟩
  · rw [popped]
    have whole : Represented ⟨pool.tasks, front ++ (time, task) :: []⟩ := by
      rw [← shape]
      exact represented
    have left := whole.remove
    rwa [List.append_nil] at left
  · rwa [popped]

/-- A call keeps the representation exactly if it is sound. -/
theorem represented_step (call : Time × Event) {state : State}
    (represented : Represented state.pool) :
    Represented (step call state).pool ↔ Sound call state := by
  obtain ⟨now, event⟩ := call
  cases event with
  | push => exact iff_of_true ⟨represented.sorted, represented.full⟩ trivial
  | pushDelayed duration => exact iff_of_true (represented_pushDelayed represented _ _) trivial
  | delay task duration => exact represented_delay represented task (now + duration)
  | cancel task => exact iff_of_true (represented_cancel represented task) trivial
  | extract task => exact represented_extract represented task
  | pop => exact iff_of_true (represented_pop represented now) trivial

/-! ## Where the tasks are -/

def timerTasks (pool : Pool) : List Task := pool.timerTasks.map Prod.snd

/-- Waiting, returned and removed tasks. -/
def places (state : State) : List Task :=
  state.pool.tasks ++ timerTasks state.pool ++ state.returned ++ state.removed

/-- The tasks of the allocations so far. -/
def madeTasks (made : Nat) : List Task := (List.range made).map some

structure Inv (state : State) : Prop where
  represented : Represented state.pool
  /-- Every task is in one place. -/
  accounted : ∀ task, (places state).count task = (madeTasks state.made).count task
  deadlines : ∀ task time,
    (time, some task) ∈ state.pool.timerTasks ↔ state.deadline task = some time

theorem count_madeTasks_succ (made : Nat) (task : Task) :
    (madeTasks (made + 1)).count task = (madeTasks made).count task + [some made].count task := by
  rw [madeTasks, List.range_succ, List.map_append, List.count_append]
  rfl

theorem nodup_madeTasks (made : Nat) : (madeTasks made).Nodup :=
  List.nodup_range.map (fun _ _ same => Option.some.inj same)

theorem count_places (state : State) (task : Task) :
    (places state).count task = state.pool.tasks.count task +
      (timerTasks state.pool).count task + state.returned.count task +
      state.removed.count task := by
  simp only [places, List.count_append]

theorem count_entries {entries others : List Entry} (same : entries.Perm others) (task : Task) :
    (entries.map Prod.snd).count task = (others.map Prod.snd).count task :=
  (same.map Prod.snd).count_eq task

section

variable {state : State} {task : Nat}

/-- A timer task has one entry. -/
theorem Inv.alone (inv : Inv state) {front behind : List Entry} {time : Time}
    (shape : state.pool.timerTasks = front ++ (time, some task) :: behind) :
    ∀ entry ∈ front ++ behind, entry.2 ≠ some task := by
  have once := inv.accounted (some task)
  have most := List.nodup_iff_count_le_one.mp (nodup_madeTasks state.made) (some task)
  rw [count_places, timerTasks, shape, List.map_append, List.map_cons, List.count_append,
    List.count_cons_self] at once
  intro entry member same
  have inside : some task ∈ (front ++ behind).map Prod.snd :=
    List.mem_map.mpr ⟨entry, member, same⟩
  have counted := List.count_pos_iff.mpr inside
  rw [List.map_append, List.count_append] at counted
  omega

/-- Deadlines when the entry of a task is removed. -/
theorem Inv.deadlines_remove (inv : Inv state) {front behind : List Entry} {time : Time}
    {task : Task} (shape : state.pool.timerTasks = front ++ (time, task) :: behind) (other : Nat)
    (due : Time) : (due, some other) ∈ front ++ behind ↔
      setDeadline state.deadline task none other = some due := by
  rw [setDeadline]
  by_cases same : some other = task
  · subst same
    rw [if_pos rfl]
    refine iff_of_false (fun member => inv.alone shape _ member rfl) (by simp)
  · rw [if_neg same, ← inv.deadlines, shape]
    have different : (due, some other) ≠ (time, task) := fun entries =>
      same (congrArg Prod.snd entries)
    simp [different]

/-- Deadlines of tasks that have no entry. -/
theorem Inv.deadlines_absent (inv : Inv state) {task : Task}
    (absent : ∀ entry ∈ state.pool.timerTasks, entry.2 ≠ task) :
    setDeadline state.deadline task none = state.deadline := by
  funext other
  rw [setDeadline]
  split
  · next same =>
      cases current : state.deadline other with
      | none => rfl
      | some time => exact absurd same (absent _ ((inv.deadlines other time).mpr current))
  · rfl

theorem Inv.push (inv : Inv state) (now : Time) : Inv (step (now, .push) state) where
  represented := ⟨inv.represented.sorted, inv.represented.full⟩
  accounted task := by
    have before := inv.accounted task
    rw [count_places] at before ⊢
    change (state.pool.tasks ++ [some state.made]).count task + _ + _ + _ =
      (madeTasks (state.made + 1)).count task
    rw [List.count_append, count_madeTasks_succ, ← before]
    change _ + (timerTasks state.pool).count task + state.returned.count task +
      state.removed.count task = _
    omega
  deadlines := inv.deadlines

/-- A new task has no deadline. -/
theorem Inv.fresh (inv : Inv state) : ∀ entry ∈ state.pool.timerTasks,
    entry.2 ≠ some state.made := by
  intro entry member same
  have once := inv.accounted (some state.made)
  have none : (madeTasks state.made).count (some state.made) = 0 := by
    rw [List.count_eq_zero, madeTasks]
    simp
  have counted := List.count_pos_iff.mpr (List.mem_map_of_mem (f := Prod.snd) member)
  rw [same] at counted
  rw [count_places, timerTasks, none] at once
  omega

theorem Inv.pushDelayed (inv : Inv state) (now duration : Time) :
    Inv (step (now, .pushDelayed duration) state) where
  represented := represented_pushDelayed inv.represented _ _
  accounted task := by
    have before := inv.accounted task
    have inserted := count_entries (insert_perm (now + duration) (some state.made)
      state.pool.timerTasks) task
    rw [List.map_cons, List.count_cons] at inserted
    dsimp only at inserted
    rw [count_places] at before ⊢
    rw [timerTasks] at before
    change _ + ((insert (now + duration) (some state.made) state.pool.timerTasks).map
      Prod.snd).count task + state.returned.count task + state.removed.count task =
        (madeTasks (state.made + 1)).count task
    rw [inserted, count_madeTasks_succ, ← before, List.count_singleton]
    change state.pool.tasks.count task + _ + _ + _ = _
    omega
  deadlines other time := by
    change (time, some other) ∈ insert _ _ _ ↔ setDeadline _ _ _ _ = _
    rw [(insert_perm _ _ _).mem_iff, List.mem_cons, setDeadline]
    by_cases same : other = state.made
    · subst same
      have fresh : (time, some state.made) ∉ state.pool.timerTasks := fun member =>
        inv.fresh _ member rfl
      simp [fresh, eq_comm]
    · simp [same, inv.deadlines]

theorem Inv.delay (inv : Inv state) {now duration : Time} {task : Task}
    (sound : Sound (now, .delay task duration) state) :
    Inv (step (now, .delay task duration) state) := by
  have represented := (represented_step (now, .delay task duration) inv.represented).mpr sound
  rcases fromTask_cases task state.pool.timerTasks with
    ⟨none, -, absent⟩ | ⟨old, behind, found, shape⟩
  · have same : TaskPool.delay task (now + duration) state.pool = state.pool := by
      rw [TaskPool.delay, delayed, none]
    refine ⟨represented, fun task => ?_, fun other time => ?_⟩
    · change (places { state with pool := TaskPool.delay _ _ _ }).count task = _
      rw [same]
      exact inv.accounted task
    · change (time, some other) ∈ (TaskPool.delay _ _ _).timerTasks ↔ (if _ then _ else _) = _
      rw [same, inv.deadlines, if_neg]
      rintro ⟨other_task, given⟩
      obtain ⟨time, current⟩ := Option.isSome_iff_exists.mp given
      exact absent _ ((inv.deadlines other time).mpr current) other_task
  · have moved : (TaskPool.delay task (now + duration) state.pool).timerTasks =
        bubble (now + duration, task) (before task state.pool.timerTasks).reverse ++ behind := by
      rw [TaskPool.delay, delayed, found]
    generalize before task state.pool.timerTasks = front at shape moved
    have perm : (TaskPool.delay task (now + duration) state.pool).timerTasks.Perm
        ((now + duration, task) :: (front ++ behind)) := by
      rw [moved]
      exact ((bubble_perm _ _).trans ((List.reverse_perm front).cons _)).append_right behind
    refine ⟨represented, fun other => ?_, fun other time => ?_⟩
    · have before := inv.accounted other
      have counted := count_entries perm other
      rw [count_places] at before ⊢
      rw [timerTasks, shape, List.map_append, List.map_cons, List.count_append,
        List.count_cons] at before
      rw [List.map_cons, List.map_append, List.count_cons, List.count_append] at counted
      change state.pool.tasks.count other +
        (timerTasks (TaskPool.delay task (now + duration) state.pool)).count other +
          state.returned.count other + state.removed.count other =
            (madeTasks state.made).count other
      rw [timerTasks]
      dsimp only at before counted
      omega
    · change (time, some other) ∈ (TaskPool.delay _ _ _).timerTasks ↔ (if _ then _ else _) = _
      have removed := inv.deadlines_remove shape other time
      rw [setDeadline] at removed
      rw [perm.mem_iff, List.mem_cons, removed]
      by_cases same : some other = task
      · subst same
        have current : state.deadline other = some old := by
          rw [← inv.deadlines, shape]
          exact List.mem_append_right _ List.mem_cons_self
        simp [current, eq_comm]
      · simp [same]

/-- An entry leaves the list, and its task goes elsewhere. -/
theorem Inv.remove (inv : Inv state) {front behind : List Entry} {time : Time} {task : Task}
    (shape : state.pool.timerTasks = front ++ (time, task) :: behind) {returned removed : List Task}
    (gone : ∀ other, returned.count other + removed.count other =
      [task].count other + state.returned.count other + state.removed.count other) :
    Inv ⟨⟨state.pool.tasks, front ++ behind⟩, state.made, returned, removed,
      setDeadline state.deadline task none⟩ where
  represented := by
    have represented : Represented ⟨state.pool.tasks, state.pool.timerTasks⟩ := inv.represented
    rw [shape] at represented
    exact represented.remove
  accounted other := by
    have before := inv.accounted other
    have gone := gone other
    rw [count_places] at before ⊢
    rw [timerTasks, shape, List.map_append, List.map_cons, List.count_append,
      List.count_cons] at before
    rw [List.count_singleton] at gone
    change _ + ((front ++ behind).map Prod.snd).count other + _ + _ = _
    rw [List.map_append, List.count_append]
    dsimp only at before ⊢
    omega
  deadlines other due := inv.deadlines_remove shape other due

theorem Inv.cancel (inv : Inv state) (now : Time) (task : Task) :
    Inv (step (now, .cancel task) state) := by
  rcases cancelled_cases task state.pool.timerTasks with
    ⟨same, none, absent⟩ | ⟨front, time, behind, shape, left, given⟩
  · have stepped : step (now, .cancel task) state = state := by
      simp only [step, TaskPool.cancel, same, none, inv.deadlines_absent absent]
      rfl
    rwa [stepped]
  · have stepped : step (now, .cancel task) state =
        ⟨⟨state.pool.tasks, front ++ behind⟩, state.made, state.returned, task :: state.removed,
          setDeadline state.deadline task none⟩ := by
      simp [step, TaskPool.cancel, left, given]
    rw [stepped]
    refine inv.remove shape fun other => ?_
    rw [List.count_cons, List.count_singleton]
    omega

theorem Inv.extract (inv : Inv state) {now : Time} {task : Task}
    (sound : Sound (now, .extract task) state) : Inv (step (now, .extract task) state) := by
  have absent : ∀ entry ∈ state.pool.timerTasks, entry.2 ≠ task := sound
  have none : fromTask task state.pool.timerTasks = [] := by
    rcases fromTask_cases task state.pool.timerTasks with ⟨none, -, -⟩ | ⟨time, behind, -, shape⟩
    · exact none
    · refine absurd rfl (absent (time, task) ?_)
      rw [shape]
      exact List.mem_append_right _ List.mem_cons_self
  have stepped : step (now, .extract task) state = state := by
    simp only [step, TaskPool.extract, extracted, none, inv.deadlines_absent absent]
    rfl
  rwa [stepped]

/-- An immediate task has no deadline. -/
theorem Inv.immediate (inv : Inv state) {task : Task} (waiting : task ∈ state.pool.tasks) :
    ∀ entry ∈ state.pool.timerTasks, entry.2 ≠ task := by
  intro entry member same
  have once := inv.accounted task
  have most := List.nodup_iff_count_le_one.mp (nodup_madeTasks state.made) task
  have queued := List.count_pos_iff.mpr waiting
  have timed := List.count_pos_iff.mpr (List.mem_map_of_mem (f := Prod.snd) member)
  rw [same] at timed
  rw [count_places, timerTasks] at once
  omega

theorem Inv.pop (inv : Inv state) (now : Time) : Inv (step (now, .pop) state) := by
  rcases pop_cases now state.pool with ⟨task, tasks, queue, popped⟩ |
    ⟨-, front, time, task, shape, -, popped⟩ | ⟨-, popped, -⟩
  · have absent := inv.immediate (queue ▸ List.mem_cons_self)
    have stepped : step (now, .pop) state = { state with
        pool := { state.pool with tasks }
        returned := task :: state.returned } := by
      simp only [step, popped, Option.toList_some, Option.getD_some, List.singleton_append,
        inv.deadlines_absent absent]
    rw [stepped]
    refine ⟨⟨inv.represented.sorted, inv.represented.full⟩, fun other => ?_, inv.deadlines⟩
    have before := inv.accounted other
    rw [count_places, queue, List.count_cons] at before
    rw [count_places]
    change tasks.count other + (timerTasks state.pool).count other +
      (task :: state.returned).count other + state.removed.count other =
        (madeTasks state.made).count other
    rw [List.count_cons]
    omega
  · have stepped : step (now, .pop) state =
        ⟨⟨state.pool.tasks, front ++ []⟩, state.made, task :: state.returned, state.removed,
          setDeadline state.deadline task none⟩ := by
      simp [step, popped]
    rw [stepped]
    refine inv.remove shape fun other => ?_
    rw [List.count_cons, List.count_singleton]
    omega
  · have stepped : step (now, .pop) state = state := by
      have null : setDeadline state.deadline none none = state.deadline :=
        inv.deadlines_absent inv.represented.full
      simp only [step, popped, Option.toList_none, Option.getD_none, List.nil_append, null]
    rwa [stepped]

theorem Inv.step (inv : Inv state) {call : Time × Event} (sound : Sound call state) :
    Inv (step call state) := by
  obtain ⟨now, event⟩ := call
  cases event with
  | push => exact inv.push now
  | pushDelayed duration => exact inv.pushDelayed now duration
  | delay task duration => exact inv.delay sound
  | cancel task => exact inv.cancel now task
  | extract task => exact inv.extract sound
  | pop => exact inv.pop now

end

theorem inv_empty : Inv empty where
  represented := ⟨List.Pairwise.nil, fun _ member => absurd member List.not_mem_nil⟩
  accounted _ := rfl
  deadlines _ _ := iff_of_false List.not_mem_nil (by simp [empty])

/-! ## What the pool does -/

/-- The properties of a pool in a state that a run reached. -/
structure Serves (state : State) : Prop where
  represented : Represented state.pool
  /-- No task is lost, and none is in two places or twice in one. -/
  accounted : ∀ task, (places state).count task = (madeTasks state.made).count task
  immediate : ∀ now task tasks, state.pool.tasks = task :: tasks →
    (pop now state.pool).1 = some task
  /-- A due task with the smallest deadline. -/
  earliest : ∀ now, state.pool.tasks = [] →
    (∃ task time, state.deadline task = some time ∧ time ≤ now) →
    ∃ task time, (pop now state.pool).1 = some (some task) ∧ state.deadline task = some time ∧
      time ≤ now ∧ ∀ other due, state.deadline other = some due → time ≤ due
  notEarly : ∀ now task, (pop now state.pool).1 = some task → task ∈ state.pool.tasks ∨
    ∃ timer time, task = some timer ∧ state.deadline timer = some time ∧ time ≤ now
  next : ∀ time, next state.pool = some time ↔
    (∃ task, state.deadline task = some time) ∧
      ∀ other due, state.deadline other = some due → time ≤ due
  /-- When all tasks are due, enough calls return them. -/
  drained : ∀ now, (∀ task time, state.deadline task = some time → time ≤ now) →
    ∃ count, let later := run step (List.replicate count (now, .pop)) state
      later.pool.tasks = [] ∧ later.pool.timerTasks = []

section

variable {state : State}

/-- The entry of a timer task with the smallest deadline is the last one. -/
theorem Inv.last (inv : Inv state) :
    (state.pool.timerTasks = [] ∧ ∀ task, state.deadline task = none) ∨
    ∃ front task time, state.pool.timerTasks = front ++ [(time, some task)] ∧
      state.deadline task = some time ∧
      ∀ other due, state.deadline other = some due → time ≤ due := by
  rcases List.eq_nil_or_concat state.pool.timerTasks with none | ⟨front, ⟨time, task⟩, shape⟩
  · refine .inl ⟨none, fun task => ?_⟩
    cases current : state.deadline task with
    | none => rfl
    | some time =>
        have member := (inv.deadlines task time).mpr current
        rw [none] at member
        cases member
  · rw [List.concat_eq_append] at shape
    have inside : (time, task) ∈ state.pool.timerTasks := by
      rw [shape]
      exact List.mem_append_right _ List.mem_cons_self
    obtain ⟨timer, rfl⟩ := Option.ne_none_iff_exists'.mp (inv.represented.full _ inside)
    refine .inr ⟨front, timer, time, shape, (inv.deadlines timer time).mp inside, ?_⟩
    intro other due current
    have member := (inv.deadlines other due).mpr current
    have sorted := inv.represented.sorted
    rw [shape] at member sorted
    rcases List.mem_append.mp member with first | same
    · exact (List.pairwise_append.mp sorted).2.2 _ first _ List.mem_cons_self
    · obtain ⟨rfl, -⟩ := Prod.mk.inj (List.mem_singleton.mp same)
      exact Int.le_refl _

theorem Inv.earliest (inv : Inv state) (now : Time) (idle : state.pool.tasks = [])
    (due : ∃ task time, state.deadline task = some time ∧ time ≤ now) :
    ∃ task time, (TaskPool.pop now state.pool).1 = some (some task) ∧
      state.deadline task = some time ∧ time ≤ now ∧
        ∀ other due, state.deadline other = some due → time ≤ due := by
  obtain ⟨task, time, current, reached⟩ := due
  rcases inv.last with ⟨-, none⟩ | ⟨front, first, least, shape, deadline, smallest⟩
  · cases (none task).symm.trans current
  · have now_due : least ≤ now := Int.le_trans (smallest task time current) reached
    refine ⟨first, least, ?_, deadline, now_due, smallest⟩
    rw [TaskPool.pop, idle, shape, List.getLast?_concat]
    simp [now_due]

theorem Inv.next (inv : Inv state) (time : Time) :
    TaskPool.next state.pool = some time ↔ (∃ task, state.deadline task = some time) ∧
      ∀ other due, state.deadline other = some due → time ≤ due := by
  rcases inv.last with ⟨nothing, none⟩ | ⟨front, first, least, shape, deadline, smallest⟩
  · rw [TaskPool.next, nothing]
    refine iff_of_false (by simp) ?_
    rintro ⟨⟨task, current⟩, -⟩
    cases (none task).symm.trans current
  · rw [TaskPool.next, shape, List.getLast?_concat, Option.map_some, Option.some.injEq]
    constructor
    · rintro rfl
      exact ⟨⟨first, deadline⟩, smallest⟩
    · rintro ⟨⟨task, current⟩, lowest⟩
      exact Int.le_antisymm (smallest task time current) (lowest first least deadline)

theorem Inv.notEarly (inv : Inv state) {now : Time} {task : Task}
    (result : (TaskPool.pop now state.pool).1 = some task) : task ∈ state.pool.tasks ∨
      ∃ timer time, task = some timer ∧ state.deadline timer = some time ∧ time ≤ now := by
  rcases pop_cases now state.pool with ⟨first, tasks, queue, popped⟩ |
    ⟨-, front, time, last, shape, due, popped⟩ | ⟨-, popped, -⟩
  · rw [popped] at result
    obtain rfl := Option.some.inj result
    exact .inl (queue ▸ List.mem_cons_self)
  · rw [popped] at result
    obtain rfl := Option.some.inj result
    have inside : (time, last) ∈ state.pool.timerTasks := by
      rw [shape]
      exact List.mem_append_right _ List.mem_cons_self
    obtain ⟨timer, rfl⟩ := Option.ne_none_iff_exists'.mp (inv.represented.full _ inside)
    exact .inr ⟨timer, time, rfl, (inv.deadlines timer time).mp inside, due⟩
  · rw [popped] at result
    cases result

/-- Each call of `pop` takes a task while one waits that is due. -/
theorem Inv.drained (inv : Inv state) (now : Time)
    (due : ∀ entry ∈ state.pool.timerTasks, entry.1 ≤ now) :
    ∃ count, (run TaskPool.step (List.replicate count (now, .pop)) state).pool = ⟨[], []⟩ := by
  generalize size : state.pool.tasks.length + state.pool.timerTasks.length = waiting
  induction waiting generalizing state with
  | zero =>
      have tasks := List.eq_nil_of_length_eq_zero (show state.pool.tasks.length = 0 by omega)
      have timers := List.eq_nil_of_length_eq_zero
        (show state.pool.timerTasks.length = 0 by omega)
      refine ⟨0, ?_⟩
      change state.pool = _
      rw [← tasks, ← timers]
  | succ waiting ih =>
      have moved : (∀ entry ∈ (TaskPool.step (now, .pop) state).pool.timerTasks, entry.1 ≤ now) ∧
          (TaskPool.step (now, .pop) state).pool.tasks.length +
            (TaskPool.step (now, .pop) state).pool.timerTasks.length = waiting := by
        rcases pop_cases now state.pool with ⟨task, tasks, queue, popped⟩ |
          ⟨idle, front, time, task, shape, -, popped⟩ | ⟨idle, -, latest⟩
        · rw [queue, List.length_cons] at size
          simp only [TaskPool.step, popped]
          exact ⟨due, by omega⟩
        · rw [shape, List.length_append, List.length_singleton] at size
          simp only [TaskPool.step, popped]
          refine ⟨fun entry member => due entry ?_, by omega⟩
          rw [shape]
          exact List.mem_append_left _ member
        · rw [idle, List.length_nil, Nat.zero_add] at size
          rcases List.eq_nil_or_concat state.pool.timerTasks with none | ⟨front, entry, shape⟩
          · rw [none] at size
            cases size
          · have last : state.pool.timerTasks.getLast? = some entry := by
              rw [shape, List.concat_eq_append, List.getLast?_concat]
            have early := latest entry last
            exact absurd (due entry (List.mem_of_getLast? last)) (Int.not_le.mpr early)
      obtain ⟨count, emptied⟩ := ih (inv.pop now) moved.1 moved.2
      exact ⟨count + 1, emptied⟩

theorem Inv.serves (inv : Inv state) : Serves state where
  represented := inv.represented
  accounted := inv.accounted
  immediate now task tasks queue := by rw [TaskPool.pop, queue]
  earliest := inv.earliest
  notEarly _ _ := inv.notEarly
  next := inv.next
  drained now due := by
    have all : ∀ entry ∈ state.pool.timerTasks, entry.1 ≤ now := by
      intro entry member
      obtain ⟨timer, task⟩ := Option.ne_none_iff_exists'.mp (inv.represented.full entry member)
      refine due timer entry.1 ((inv.deadlines timer entry.1).mp ?_)
      rw [← task]
      exact member
    obtain ⟨count, emptied⟩ := inv.drained now all
    exact ⟨count, by rw [emptied], by rw [emptied]⟩

end

/-- The representation is kept in a run exactly if all its calls are sound, and then the pool
serves its tasks. -/
theorem taskPool_serves (calls : List (Time × Event)) :
    ((∀ past, past <+: calls → Represented (run step past empty).pool) ↔
      Meets step Sound calls empty) ∧
    (Meets step Sound calls empty → Serves (run step calls empty)) := by
  constructor
  · exact reached_iff_meets step (fun _ => True) (fun state => Represented state.pool)
      (fun _ _ _ => trivial) (fun call _ _ represented => represented_step call represented) calls
      trivial inv_empty.represented
  · intro sound
    exact (run_preserves_of_meets step Inv (fun _ _ now inv => inv.step now) sound
      inv_empty).serves

/-- A task that is due at 1 waits for the one that is due at 5, and an extracted task leaves an
empty one. -/
theorem taskPool_misorders :
    (run step [(0, .pushDelayed 10), (0, .pushDelayed 5), (0, .delay (some 0) 1)]
        empty).pool.timerTasks = [(1, some 0), (5, some 1)] ∧
      (pop 2 (run step [(0, .pushDelayed 10), (0, .pushDelayed 5), (0, .delay (some 0) 1)]
        empty).pool).1 = none ∧
      (run step [(0, .pushDelayed 10), (0, .extract (some 0))] empty).pool.timerTasks =
        [(10, none)] :=
  ⟨by decide, by decide, by decide⟩

end UmbraHost.TaskPool
