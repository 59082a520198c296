import UmbraHost.Input.Batching
import Mathlib.Data.List.Nodup

/-! # The task that drains the input queue

`passthrough` queues the packets that its checks accept and `passthrough_next_message`
takes them.  Calls and runs interleave in any way: each section under the lock is one
step, and so is every push to the task pool, which is made with the lock released. -/

namespace UmbraHost.Input.QueueTask

open UmbraHost.Transition

/-- Where a run of `passthrough_next_message` is. -/
inductive Phase where
  | queued
  /-- In front of its first section. -/
  | started
  | sending (packet : QueuedPacket)
  /-- In front of its last section. -/
  | sent
  /-- Behind its last section with `schedule_next` set. -/
  | scheduling
  /-- Nothing is left to do but to return. -/
  | leaving
  | returned
deriving DecidableEq, Repr

structure State where
  inputQueue : List QueuedPacket := []
  taskScheduled : Bool := false
  /-- Calls behind their section with `schedule_input_task` set. -/
  pushing : Nat := 0
  runs : List Phase := []
  accepted : Nat := 0
  /-- The numbers of the packets that were taken, with the run that took each. -/
  taken : List (Nat × Nat) := []
deriving DecidableEq, Repr

inductive Event where
  | accept (packet : Packet)
  | push
  | advance (run : Nat)
deriving DecidableEq, Repr

/-- The packets of the queue that a batch takes. -/
def absorbed (dest : QueuedPacket) : List QueuedPacket → List QueuedPacket
  | [] => []
  | src :: rest =>
      match batch dest.packet src.packet with
      | .terminateBatch => []
      | .batched merged => src :: absorbed (dest.merge src merged) rest
      | .notBatchable => absorbed dest rest

namespace State

/-- The section of `passthrough`. -/
def accept (packet : Packet) (state : State) : State :=
  { state with
    inputQueue := state.inputQueue ++ [{ index := state.accepted, packet }]
    taskScheduled := true
    pushing := if state.taskScheduled then state.pushing else state.pushing + 1
    accepted := state.accepted + 1 }

def push (state : State) : State :=
  if state.pushing = 0 then state
  else { state with pushing := state.pushing - 1, runs := state.runs ++ [.queued] }

def setRun (run : Nat) (phase : Phase) (state : State) : State :=
  { state with runs := state.runs.set run phase }

/-- The first section of `passthrough_next_message`. -/
def takeFirst (run : Nat) (state : State) : State :=
  match state.inputQueue with
  | [] => { state.setRun run .leaving with taskScheduled := false }
  | first :: rest =>
      { state.setRun run (.sending (scan first rest).1) with
        inputQueue := (scan first rest).2
        taken := state.taken ++
          (first :: absorbed first rest).map fun packet => (packet.index, run) }

/-- The last section. -/
def checkQueue (run : Nat) (state : State) : State :=
  if state.inputQueue = [] then { state.setRun run .leaving with taskScheduled := false }
  else state.setRun run .scheduling

/-- A run goes on to its next phase. -/
def advance (run : Nat) (state : State) : State :=
  match state.runs[run]? with
  | some .queued => state.setRun run .started
  | some .started => state.takeFirst run
  | some (.sending _) => state.setRun run .sent
  | some .sent => state.checkQueue run
  | some .scheduling => { state with runs := state.runs.set run .leaving ++ [.queued] }
  | some .leaving => state.setRun run .returned
  | some .returned | none => state

def step : Event → State → State
  | .accept packet, state => state.accept packet
  | .push, state => state.push
  | .advance run, state => state.advance run

end State

/-! ## One run -/

/-- A run that is still to take packets or to schedule the next one. -/
def Phase.active : Phase → Bool
  | .leaving | .returned => false
  | _ => true

def State.activeRuns (state : State) : Nat := state.runs.countP Phase.active

/-- The run that is scheduled: it is queued or has not left its last section, or a push of it has
been decided on and not yet been made. -/
structure OneRun (state : State) : Prop where
  scheduled : state.pushing + state.activeRuns = state.taskScheduled.toNat
  waiting : state.inputQueue ≠ [] → state.taskScheduled = true

variable {state : State} {run : Nat} {phase next : Phase}

theorem countP_set_run (next : Phase) {runs : List Phase} (here : runs[run]? = some phase) :
    (runs.set run next).countP Phase.active + phase.active.toNat =
      runs.countP Phase.active + next.active.toNat := by
  obtain ⟨inside, rfl⟩ := List.getElem?_eq_some_iff.mp here
  rw [List.countP_set inside]
  have among : runs[run].active = true → 0 < runs.countP Phase.active := by
    intro active
    exact List.countP_pos_iff.mpr ⟨_, List.getElem_mem inside, active⟩
  cases active : runs[run].active with
  | false => cases next.active <;> simp
  | true =>
      have some := among active
      cases next.active <;> simp <;> omega

theorem oneRun_accept (packet : Packet) (one : OneRun state) : OneRun (state.accept packet) where
  scheduled := by
    have before := one.scheduled
    rw [State.activeRuns] at before
    cases scheduled : state.taskScheduled with
    | true =>
        rw [scheduled] at before
        simpa [State.accept, State.activeRuns, scheduled] using before
    | false =>
        rw [scheduled] at before
        simp only [State.accept, State.activeRuns, scheduled, Bool.toNat_false,
          Bool.toNat_true] at before ⊢
        simp only [Bool.false_eq_true, if_false]
        omega
  waiting _ := rfl

theorem oneRun_push (one : OneRun state) : OneRun state.push := by
  rw [State.push]
  split
  case isTrue => exact one
  case isFalse some =>
    refine ⟨?_, one.waiting⟩
    have before := one.scheduled
    simp only [State.activeRuns, List.countP_append] at before ⊢
    have queued : [Phase.queued].countP Phase.active = 1 := rfl
    omega

/-- The run at hand is the only one. -/
theorem OneRun.only (one : OneRun state) (here : state.runs[run]? = some phase)
    (active : phase.active = true) :
    state.taskScheduled = true ∧ state.pushing = 0 ∧ state.activeRuns = 1 := by
  have before := one.scheduled
  have among : 0 < state.activeRuns :=
    List.countP_pos_iff.mpr ⟨phase, List.mem_of_getElem? here, active⟩
  cases scheduled : state.taskScheduled with
  | false =>
      rw [scheduled, Bool.toNat_false] at before
      omega
  | true =>
      rw [scheduled, Bool.toNat_true] at before
      exact ⟨rfl, by omega, by omega⟩

theorem oneRun_setRun (next : Phase) (one : OneRun state) (here : state.runs[run]? = some phase)
    (same : next.active = phase.active) : OneRun (state.setRun run next) := by
  refine ⟨?_, one.waiting⟩
  have before := one.scheduled
  have counted := countP_set_run next here
  rw [same] at counted
  simp only [State.activeRuns, State.setRun] at before ⊢
  omega

/-- The only run gives up its turn. -/
theorem oneRun_clear (one : OneRun state) (here : state.runs[run]? = some phase)
    (active : phase.active = true) (empty : state.inputQueue = []) :
    OneRun { state.setRun run .leaving with taskScheduled := false } := by
  obtain ⟨-, pushing, alone⟩ := one.only here active
  have counted := countP_set_run .leaving here
  rw [State.activeRuns] at alone
  have leaving : Phase.leaving.active.toNat = 0 := rfl
  rw [active, alone, Bool.toNat_true] at counted
  refine ⟨?_, fun nonempty => absurd empty nonempty⟩
  simp only [State.activeRuns, State.setRun, pushing, Bool.toNat_false]
  omega

theorem oneRun_takeFirst (one : OneRun state) (here : state.runs[run]? = some .started) :
    OneRun (state.takeFirst run) := by
  rw [State.takeFirst]
  split
  next empty => exact oneRun_clear one here rfl empty
  next first rest _ =>
    obtain ⟨scheduled, -, -⟩ := one.only here rfl
    have kept := oneRun_setRun (.sending (scan first rest).1) one here rfl
    exact ⟨kept.scheduled, fun _ => scheduled⟩

theorem oneRun_checkQueue (one : OneRun state) (here : state.runs[run]? = some .sent) :
    OneRun (state.checkQueue run) := by
  rw [State.checkQueue]
  split
  next empty => exact oneRun_clear one here rfl empty
  next => exact oneRun_setRun _ one here rfl

theorem oneRun_schedule (one : OneRun state) (here : state.runs[run]? = some .scheduling) :
    OneRun { state with runs := state.runs.set run .leaving ++ [.queued] } := by
  refine ⟨?_, one.waiting⟩
  have before := one.scheduled
  have counted := countP_set_run .leaving here
  have queued : [Phase.queued].countP Phase.active = 1 := rfl
  have active : Phase.scheduling.active.toNat = 1 := rfl
  have leaving : Phase.leaving.active.toNat = 0 := rfl
  simp only [State.activeRuns, List.countP_append] at before ⊢
  omega

theorem oneRun_advance (run : Nat) (one : OneRun state) : OneRun (state.advance run) := by
  rw [State.advance]
  split
  next here => exact oneRun_setRun _ one here rfl
  next here => exact oneRun_takeFirst one here
  next here => exact oneRun_setRun _ one here rfl
  next here => exact oneRun_checkQueue one here
  next here => exact oneRun_schedule one here
  next here => exact oneRun_setRun _ one here rfl
  next => exact one
  next => exact one

theorem oneRun_step (event : Event) (one : OneRun state) : OneRun (state.step event) := by
  cases event with
  | accept packet => exact oneRun_accept packet one
  | push => exact oneRun_push one
  | advance run => exact oneRun_advance run one

/-! ## Each packet once -/

theorem absorbed_perm (dest : QueuedPacket) (rest : List QueuedPacket) :
    (absorbed dest rest ++ (scan dest rest).2).Perm rest := by
  induction rest generalizing dest with
  | nil => exact .nil
  | cons src rest ih =>
      cases result : batch dest.packet src.packet with
      | terminateBatch =>
          simp only [absorbed, scan, result, List.nil_append]
          exact .refl _
      | batched merged =>
          simp only [absorbed, scan, result, List.cons_append]
          exact (ih _).cons src
      | notBatchable =>
          simp only [absorbed, scan, result]
          exact List.perm_middle.trans ((ih dest).cons src)

def State.takenNumbers (state : State) : List Nat := state.taken.map Prod.fst

def State.waitingNumbers (state : State) : List Nat := state.inputQueue.map QueuedPacket.index

/-- Every accepted packet was taken once or waits once, in the order of acceptance. -/
structure Accounted (state : State) : Prop where
  all : (state.takenNumbers ++ state.waitingNumbers).Perm (List.range state.accepted)
  ordered : state.waitingNumbers.Pairwise (· < ·)

theorem Accounted.waiting_lt (accounted : Accounted state) {number : Nat}
    (waits : number ∈ state.waitingNumbers) : number < state.accepted :=
  List.mem_range.mp (accounted.all.subset (List.mem_append_right _ waits))

theorem accounted_accept (packet : Packet) (accounted : Accounted state) :
    Accounted (state.accept packet) := by
  have waiting :
      (state.accept packet).waitingNumbers = state.waitingNumbers ++ [state.accepted] := by
    rw [State.waitingNumbers, State.waitingNumbers, State.accept, List.map_append,
      List.map_singleton]
  constructor
  · rw [waiting, ← List.append_assoc]
    have total : (state.accept packet).accepted = state.accepted + 1 := rfl
    rw [total, List.range_succ]
    exact accounted.all.append_right _
  · rw [waiting]
    apply List.pairwise_append.mpr
    refine ⟨accounted.ordered, List.pairwise_singleton _ _, ?_⟩
    intro number waits other last
    obtain rfl := List.mem_singleton.mp last
    exact accounted.waiting_lt waits

theorem accounted_takeFirst (run : Nat) (accounted : Accounted state) :
    Accounted (state.takeFirst run) := by
  rw [State.takeFirst]
  split
  next => exact ⟨accounted.all, accounted.ordered⟩
  next first rest queued =>
    have waiting : state.waitingNumbers = first.index :: rest.map QueuedPacket.index := by
      rw [State.waitingNumbers, queued, List.map_cons]
    have kept := (absorbed_perm first rest).map QueuedPacket.index
    constructor
    · have before := accounted.all
      rw [waiting] at before
      refine List.Perm.trans ?_ before
      simp only [State.takenNumbers, State.waitingNumbers, List.map_append, List.map_map,
        List.append_assoc, List.map_cons, List.cons_append]
      apply List.Perm.append_left
      apply List.Perm.cons
      rw [List.map_append] at kept
      exact kept
    · have ordered := accounted.ordered
      rw [waiting] at ordered
      exact ordered.tail.sublist ((scan_sublist first rest).map QueuedPacket.index)

theorem accounted_step (event : Event) (accounted : Accounted state) :
    Accounted (state.step event) := by
  cases event with
  | accept packet => exact accounted_accept packet accounted
  | push =>
      rw [State.step, State.push]
      split <;> exact ⟨accounted.all, accounted.ordered⟩
  | advance run =>
      rw [State.step, State.advance]
      split
      case h_2 => exact accounted_takeFirst run accounted
      case h_4 =>
        rw [State.checkQueue]
        split <;> exact ⟨accounted.all, accounted.ordered⟩
      all_goals exact ⟨accounted.all, accounted.ordered⟩

/-- At most one run took the packet. -/
theorem Accounted.unique (accounted : Accounted state) {number first second : Nat}
    (taken : (number, first) ∈ state.taken) (again : (number, second) ∈ state.taken) :
    first = second := by
  have distinct : state.takenNumbers.Nodup :=
    (List.nodup_append.mp (accounted.all.nodup_iff.mpr List.nodup_range)).1
  have same := List.inj_on_of_nodup_map distinct taken again rfl
  exact congrArg Prod.snd same

/-! ## Each packet in the end -/

/-- How many phases a run is away from the next time a packet is taken. -/
def Phase.rank : Phase → Nat
  | .sending _ => 5
  | .sent => 4
  | .scheduling => 3
  | .queued => 2
  | .started => 1
  | .leaving | .returned => 0

/-- How many packets wait in front of a number. -/
def State.ahead (number : Nat) (state : State) : Nat :=
  state.waitingNumbers.countP (· < number)

/-- How far a packet is from being taken. -/
def State.distance (number : Nat) (state : State) : Nat :=
  6 * state.ahead number + (state.runs.map Phase.rank).sum + 3 * state.pushing

structure Waiting (number : Nat) (state : State) : Prop where
  one : OneRun state
  accounted : Accounted state
  waits : number ∈ state.waitingNumbers

variable {number : Nat}

/-- What a step that does not take the packet does: it brings the packet closer, or it changes
neither the pushes nor a run that is active. -/
inductive Nearer (number : Nat) (before after : State) : Prop where
  | closer (less : after.distance number < before.distance number)
  | still (same : after.distance number = before.distance number)
      (pushing : after.pushing = before.pushing)
      (runs : ∀ (run : Nat) (phase : Phase), phase.active = true →
        before.runs[run]? = some phase → after.runs[run]? = some phase)

theorem sum_rank_set {runs : List Phase} (next : Phase) (here : runs[run]? = some phase) :
    ((runs.set run next).map Phase.rank).sum + phase.rank =
      (runs.map Phase.rank).sum + next.rank := by
  induction runs generalizing run with
  | nil => cases here
  | cons first rest ih =>
      cases run with
      | zero =>
          obtain rfl := Option.some.inj here
          simp only [List.set_cons_zero, List.map_cons, List.sum_cons]
          omega
      | succ run =>
          have later : ((rest.set run next).map Phase.rank).sum + phase.rank = _ := ih here
          simp only [List.set_cons_succ, List.map_cons, List.sum_cons]
          omega

theorem distance_setRun (number : Nat) (next : Phase) (here : state.runs[run]? = some phase) :
    (state.setRun run next).distance number + phase.rank = state.distance number + next.rank := by
  have ranks := sum_rank_set next here
  simp only [State.distance, State.ahead, State.waitingNumbers, State.setRun]
  omega

theorem Waiting.nonempty (waiting : Waiting number state) : state.inputQueue ≠ [] := by
  intro empty
  have waits := waiting.waits
  rw [State.waitingNumbers, empty] at waits
  cases waits

theorem nearer_accept (packet : Packet) (waiting : Waiting number state) :
    Nearer number state (state.accept packet) := by
  have scheduled := waiting.one.waiting waiting.nonempty
  have first := waiting.accounted.waiting_lt waiting.waits
  have behind : [state.accepted].countP (· < number) = 0 := by
    rw [List.countP_singleton, if_neg (by simp; omega)]
  refine .still ?_ (by rw [State.accept, scheduled]; rfl) (fun _ _ _ here => here)
  simp only [State.distance, State.ahead, State.waitingNumbers, State.accept, scheduled, if_true,
    List.map_append, List.map_singleton, List.countP_append, behind]
  omega

theorem nearer_push (number : Nat) (pending : 0 < state.pushing) :
    state.push.distance number < state.distance number := by
  have queued : Phase.queued.rank = 2 := rfl
  rw [State.push, if_neg (by omega)]
  simp only [State.distance, State.ahead, State.waitingNumbers, List.map_append, List.sum_append,
    List.map_singleton, List.sum_singleton, queued]
  omega

theorem nearer_schedule (here : state.runs[run]? = some .scheduling) :
    ({ state with runs := state.runs.set run .leaving ++ [.queued] } : State).distance number <
      state.distance number := by
  have ranks := sum_rank_set .leaving here
  have queued : Phase.queued.rank = 2 := rfl
  have leaving : Phase.leaving.rank = 0 := rfl
  have scheduling : Phase.scheduling.rank = 3 := rfl
  simp only [State.distance, State.ahead, State.waitingNumbers, List.map_append, List.sum_append,
    List.map_singleton, List.sum_singleton]
  omega

/-- The first packet goes, and with it one that was ahead, or the packet itself. -/
theorem nearer_takeFirst (waiting : Waiting number state)
    (here : state.runs[run]? = some .started) :
    number ∈ (state.takeFirst run).takenNumbers ∨
      number ∈ (state.takeFirst run).waitingNumbers ∧
        (state.takeFirst run).distance number < state.distance number := by
  cases queued : state.inputQueue with
  | nil => exact absurd queued waiting.nonempty
  | cons first rest =>
      have waits := waiting.waits
      have ordered := waiting.accounted.ordered
      have gone := (absorbed_perm first rest).map QueuedPacket.index
      rw [List.map_append] at gone
      rw [State.waitingNumbers, queued, List.map_cons] at waits ordered
      by_cases left : number ∈ (scan first rest).2.map QueuedPacket.index
      · right
        simp only [State.takeFirst, queued]
        refine ⟨left, ?_⟩
        -- the first packet has a smaller number, and the batch takes others at most
        have smaller : first.index < number := by
          apply (List.pairwise_cons.mp ordered).1
          exact ((scan_sublist first rest).map QueuedPacket.index).mem left
        have fewer : ((scan first rest).2.map QueuedPacket.index).countP (· < number) ≤
            (rest.map QueuedPacket.index).countP (· < number) :=
          ((scan_sublist first rest).map QueuedPacket.index).countP_le
        have ranks := sum_rank_set (.sending (scan first rest).1) here
        have started : Phase.started.rank = 1 := rfl
        have sending : (Phase.sending (scan first rest).1).rank = 5 := rfl
        simp only [State.distance, State.ahead, State.waitingNumbers, State.setRun, queued,
          List.map_cons]
        rw [List.countP_cons_of_pos (by simpa using smaller)]
        omega
      · left
        simp only [State.takeFirst, queued, State.takenNumbers, List.map_append, List.map_map,
          List.map_cons, List.mem_append, List.mem_cons]
        right
        rcases List.mem_cons.mp waits with rfl | behind
        · exact .inl rfl
        · have either := List.mem_append.mp (gone.mem_iff.mpr behind)
          rcases either with absorbed | stays
          · exact .inr absorbed
          · exact absurd stays left

theorem Waiting.advance_active (waiting : Waiting number state)
    (here : state.runs[run]? = some phase) (active : phase.active = true) :
    number ∈ (state.advance run).takenNumbers ∨
      number ∈ (state.advance run).waitingNumbers ∧
        (state.advance run).distance number < state.distance number := by
  have closer (next : Phase) (less : next.rank < phase.rank) :
      number ∈ (state.setRun run next).waitingNumbers ∧
        (state.setRun run next).distance number < state.distance number := by
    have moved := distance_setRun number next here
    exact ⟨waiting.waits, by omega⟩
  cases phase with
  | queued =>
      rw [State.advance, here]
      exact .inr (closer .started (by decide))
  | started =>
      rw [State.advance, here]
      exact nearer_takeFirst waiting here
  | sending packet =>
      rw [State.advance, here]
      exact .inr (closer .sent (Nat.lt_succ_self 4))
  | sent =>
      rw [State.advance, here]
      simp only [State.checkQueue, if_neg waiting.nonempty]
      exact .inr (closer .scheduling (by decide))
  | scheduling =>
      rw [State.advance, here]
      exact .inr ⟨waiting.waits, nearer_schedule here⟩
  | leaving | returned => cases active

/-- A run that is over changes nothing that matters. -/
theorem Waiting.advance_over (waiting : Waiting number state)
    (ended : ∀ phase, state.runs[run]? = some phase → phase.active = false) :
    number ∈ (state.advance run).waitingNumbers ∧ Nearer number state (state.advance run) := by
  have still : number ∈ state.waitingNumbers ∧ Nearer number state state :=
    ⟨waiting.waits, .still rfl rfl fun _ _ _ here => here⟩
  cases here : state.runs[run]? with
  | none =>
      rw [State.advance, here]
      exact still
  | some phase =>
      cases phase with
      | leaving =>
          rw [State.advance, here]
          refine ⟨waiting.waits, .still (distance_setRun number .returned here) rfl ?_⟩
          intro other phase active found
          by_cases same : run = other
          · subst same
            obtain rfl := Option.some.inj (here.symm.trans found)
            cases active
          · exact (List.getElem?_set_ne same).trans found
      | returned =>
          rw [State.advance, here]
          exact still
      | queued | started | sending | sent | scheduling => cases ended _ here

theorem Waiting.step (waiting : Waiting number state) (event : Event) :
    number ∈ (state.step event).takenNumbers ∨
      Waiting number (state.step event) ∧ Nearer number state (state.step event) := by
  have one := oneRun_step event waiting.one
  have accounted := accounted_step event waiting.accounted
  cases event with
  | accept packet =>
      right
      refine ⟨⟨one, accounted, ?_⟩, nearer_accept packet waiting⟩
      rw [State.step, State.accept, State.waitingNumbers, List.map_append]
      exact List.mem_append_left _ waiting.waits
  | push =>
      right
      by_cases pending : state.pushing = 0
      · rw [State.step, State.push, if_pos pending]
        exact ⟨waiting, .still rfl rfl fun _ _ _ here => here⟩
      · refine ⟨⟨one, accounted, ?_⟩, .closer (nearer_push number (Nat.pos_of_ne_zero pending))⟩
        rw [State.step, State.push, if_neg pending]
        exact waiting.waits
  | advance run =>
      by_cases ended : ∀ phase, state.runs[run]? = some phase → phase.active = false
      · obtain ⟨waits, nearer⟩ := waiting.advance_over ended
        exact .inr ⟨⟨one, accounted, waits⟩, nearer⟩
      · push Not at ended
        obtain ⟨phase, here, active⟩ := ended
        rcases waiting.advance_active here (by simpa using active) with taken | ⟨waits, less⟩
        · exact .inl taken
        · exact .inr ⟨⟨one, accounted, waits⟩, .closer less⟩

/-! ## Fair schedules -/

/-- No push that was decided on and no run that is not over is left aside for ever. -/
structure Fair (schedule : Nat → Event) : Prop where
  push : WeaklyFair State.step schedule {} (fun state => 0 < state.pushing) (· = .push)
  run : ∀ run, WeaklyFair State.step schedule {}
    (fun state => ∃ phase, state.runs[run]? = some phase ∧ phase.active = true) (· = .advance run)

/-- A packet that waits was not forgotten: a push or a run is on its way to it. -/
theorem Waiting.scheduled (waiting : Waiting number state) :
    0 < state.pushing ∨
      ∃ (run : Nat) (phase : Phase), state.runs[run]? = some phase ∧ phase.active = true := by
  have counted := waiting.one.scheduled
  rw [waiting.one.waiting waiting.nonempty, Bool.toNat_true] at counted
  by_cases pushing : 0 < state.pushing
  · exact .inl pushing
  · have among : 0 < state.activeRuns := by omega
    obtain ⟨phase, member, active⟩ := List.countP_pos_iff.mp among
    obtain ⟨run, here⟩ := List.mem_iff_getElem?.mp member
    exact .inr ⟨run, phase, here, active⟩

theorem Fair.falls {schedule : Nat → Event} (fair : Fair schedule) (start : Nat)
    (waiting : Waiting number (execution State.step schedule {} start)) :
    ∃ time, start ≤ time ∧
      (number ∈ (execution State.step schedule {} time).takenNumbers ∨
        Waiting number (execution State.step schedule {} time) ∧
          (execution State.step schedule {} time).distance number <
            (execution State.step schedule {} start).distance number) := by
  obtain ⟨amount, same⟩ :
      ∃ amount, (execution State.step schedule {} start).distance number = amount := ⟨_, rfl⟩
  rw [same]
  let goal (state : State) : Prop :=
    number ∈ state.takenNumbers ∨ Waiting number state ∧ state.distance number < amount
  rcases waiting.scheduled with pushing | ⟨run, phase, here, active⟩
  · let before (state : State) : Prop :=
      Waiting number state ∧ state.distance number = amount ∧ 0 < state.pushing
    apply fair.push.leads before goal
    · rintro event state ⟨waiting, exactly, pushing⟩
      rcases waiting.step event with taken | ⟨still, ⟨less⟩ | ⟨kept, pushes, -⟩⟩
      · exact .inr (.inl taken)
      · exact .inr (.inr ⟨still, by omega⟩)
      · exact .inl ⟨still, by omega, by omega⟩
    · exact fun state waits => waits.2.2
    · rintro event state rfl ⟨waiting, exactly, pushing⟩
      rcases waiting.step .push with taken | ⟨still, -⟩
      · exact .inl taken
      · have less := nearer_push number pushing
        exact .inr ⟨still, by rw [State.step]; omega⟩
    · exact ⟨waiting, same, pushing⟩
  · let before (state : State) : Prop :=
      Waiting number state ∧ state.distance number = amount ∧ state.runs[run]? = some phase
    apply (fair.run run).leads before goal
    · rintro event state ⟨waiting, exactly, here⟩
      rcases waiting.step event with taken | ⟨still, ⟨less⟩ | ⟨kept, -, active_kept⟩⟩
      · exact .inr (.inl taken)
      · exact .inr (.inr ⟨still, by omega⟩)
      · exact .inl ⟨still, by omega, active_kept run phase active here⟩
    · exact fun state waits => ⟨phase, waits.2.2, active⟩
    · rintro event state rfl ⟨waiting, exactly, here⟩
      have one := oneRun_step (.advance run) waiting.one
      have accounted := accounted_step (.advance run) waiting.accounted
      rcases waiting.advance_active here active with taken | ⟨waits, less⟩
      · exact .inl taken
      · exact .inr ⟨⟨one, accounted, waits⟩, by rw [State.step]; omega⟩
    · exact ⟨waiting, same, here⟩

theorem oneRun_execution (schedule : Nat → Event) (time : Nat) :
    OneRun (execution State.step schedule {} time) ∧
      Accounted (execution State.step schedule {} time) := by
  rw [execution_eq_run]
  apply run_preserves State.step (fun state => OneRun state ∧ Accounted state)
  · rintro event state ⟨one, accounted⟩
    exact ⟨oneRun_step event one, accounted_step event accounted⟩
  · exact ⟨⟨rfl, fun nonempty => absurd rfl nonempty⟩, ⟨.nil, .nil⟩⟩

/-- Every accepted packet is taken. -/
theorem Fair.takes {schedule : Nat → Event} (fair : Fair schedule) (start : Nat)
    (accepted : number < (execution State.step schedule {} start).accepted) :
    ∃ time, start ≤ time ∧ number ∈ (execution State.step schedule {} time).takenNumbers := by
  obtain ⟨one, accounted⟩ := oneRun_execution schedule start
  rcases List.mem_append.mp (accounted.all.mem_iff.mpr (List.mem_range.mpr accepted)) with
    taken | waits
  · exact ⟨start, Nat.le_refl start, taken⟩
  · exact leads_of_measure (Waiting number) (fun state => number ∈ state.takenNumbers)
      (State.distance number) fair.falls
      ⟨one, accounted, waits⟩

/-- One run at a time, never none while packets wait, and each packet taken by one run. -/
theorem queue_drained (schedule : Nat → Event) :
    (∀ time, OneRun (execution State.step schedule {} time) ∧
      ∀ number first second,
        (number, first) ∈ (execution State.step schedule {} time).taken →
        (number, second) ∈ (execution State.step schedule {} time).taken → first = second) ∧
      (Fair schedule → ∀ start number,
        number < (execution State.step schedule {} start).accepted →
        ∃ time, start ≤ time ∧ ∃ run,
          (number, run) ∈ (execution State.step schedule {} time).taken) := by
  constructor
  · intro time
    obtain ⟨one, accounted⟩ := oneRun_execution schedule time
    exact ⟨one, fun number first second taken again => accounted.unique taken again⟩
  · intro fair start number accepted
    obtain ⟨time, later, taken⟩ := fair.takes start accepted
    obtain ⟨⟨_, run⟩, member, rfl⟩ := List.mem_map.mp taken
    exact ⟨time, later, run, member⟩

/-- The run is in the pool, or has been started and has not returned. -/
def Phase.queuedOrRunning : Phase → Bool
  | .returned => false
  | _ => true

/-- The run is in the pool, or behind its first check and has not returned. -/
def Phase.queuedOrChecked : Phase → Bool
  | .started | .returned => false
  | _ => true

/-- The runs counted only while they are in the pool or on a thread. -/
structure OneCounted (state : State) : Prop where
  one : state.runs.countP Phase.queuedOrRunning ≤ 1
  flag : state.taskScheduled = true ↔ ∃ phase ∈ state.runs, phase.queuedOrChecked = true
  waiting : state.inputQueue ≠ [] → ∃ phase ∈ state.runs, phase.queuedOrRunning = true

/-- A call has left its section and not made its push, or a run has made it and not returned. -/
theorem push_outside_lock :
    (¬ ∀ events, OneCounted (Transition.run State.step events {})) ∧
      ∃ events, ¬ (Transition.run State.step events {}).runs.countP Phase.queuedOrRunning ≤ 1 := by
  constructor
  · intro counted
    obtain ⟨phase, member, -⟩ := (counted [Event.accept .unicode]).waiting (by decide)
    cases member
  · refine ⟨[.accept .unicode, .accept .unicode, .push, .advance 0, .advance 0, .advance 0,
      .advance 0, .advance 0], ?_⟩
    decide

/-! ## A fair schedule -/

/-- One packet, its push, and the run that sends it. -/
def singlePacket : Nat → Event
  | 0 => .accept .unicode
  | 1 => .push
  | _ => .advance 0

theorem singlePacket_done (later : Nat) :
    execution State.step singlePacket {} (later + 7) =
      { taskScheduled := false, runs := [.returned], accepted := 1, taken := [(0, 0)] } := by
  induction later with
  | zero => rfl
  | succ later ih =>
      rw [Nat.add_right_comm, execution_succ, ih]
      rfl

theorem fair_singlePacket : Fair singlePacket where
  push := by
    intro start enabled
    have pending := enabled (start + 7) (Nat.le_add_right start 7)
    rw [singlePacket_done] at pending
    exact absurd pending (Nat.lt_irrefl 0)
  run := by
    intro run start enabled
    obtain ⟨phase, here, active⟩ := enabled (start + 7) (Nat.le_add_right start 7)
    rw [singlePacket_done] at here
    cases run with
    | zero =>
        obtain rfl := Option.some.inj here
        cases active
    | succ run => cases here

theorem queue_drained_singlePacket :
    ∃ time, 1 ≤ time ∧ ∃ run, (0, run) ∈ (execution State.step singlePacket {} time).taken :=
  (queue_drained singlePacket).2 fair_singlePacket 1 0 (by decide)

end UmbraHost.Input.QueueTask
