import Mathlib.Algebra.BigOperators.Group.List.Basic
import Mathlib.Algebra.Order.Ring.Int
import UmbraHost.Input.Packets
import UmbraHost.Transition.Run

/-! # The input queue of a session

The control thread queues packets; tasks of the pool take the first packet,
batch what they can into it, and send it to the platform
(`passthrough_next_message`).  Each section under the lock of the queue is one
step. -/

namespace UmbraHost.Input

/-- Relative movements handed to `platf`. -/
inductive PlatformCall where
  | moveMouse (deltaX deltaY : Int)
  | scroll (distance : Int)
  | hscroll (distance : Int)
deriving DecidableEq, Repr

structure Config where
  mouse : Bool := true
  highResolutionScrolling : Bool := true

structure MessageQueue where
  inputQueue : List Packet := []
  taskScheduled : Bool := false
  tasks : Nat := 0
  sending : Option Packet := none
  accumulatedVscrollDelta : Int := 0
  accumulatedHscrollDelta : Int := 0
  submitted : List Packet := []
  calls : List PlatformCall := []

inductive QueueEvent where
  | enqueue (packet : Packet)
  | takeFirst
  | send
deriving DecidableEq, Repr

def wheelDelta : Int := 120

/-- The scan of the queue with the packet being sent. -/
def batchAll (dest : Packet) : List Packet → Packet × List Packet
  | [] => (dest, [])
  | src :: rest =>
      match batch dest src with
      | .terminateBatch => (dest, src :: rest)
      | .batched merged => batchAll merged rest
      | .notBatchable => ((batchAll dest rest).1, src :: (batchAll dest rest).2)

/-- `passthrough` of a scroll packet: the distance sent, if any, and the rest. -/
def scrollTicks (config : Config) (accumulated amount : Int) : Option Int × Int :=
  if config.highResolutionScrolling then (some amount, accumulated)
  else
    let delta := accumulated + amount
    let fullTicks := delta.tdiv wheelDelta
    if fullTicks ≠ 0 then (some (fullTicks * wheelDelta), delta - fullTicks * wheelDelta)
    else (none, delta)

namespace MessageQueue

def enqueue (packet : Packet) (queue : MessageQueue) : MessageQueue :=
  { queue with
    inputQueue := queue.inputQueue ++ [packet]
    taskScheduled := true
    tasks := if queue.taskScheduled then queue.tasks else queue.tasks + 1
    submitted := queue.submitted ++ [packet] }

/-- The first section of `passthrough_next_message`. -/
def takeFirst (queue : MessageQueue) : MessageQueue :=
  if queue.tasks = 0 ∨ queue.sending.isSome then queue
  else match queue.inputQueue with
    | [] => { queue with tasks := queue.tasks - 1, taskScheduled := false }
    | first :: rest =>
        { queue with
          tasks := queue.tasks - 1
          inputQueue := (batchAll first rest).2
          sending := some (batchAll first rest).1 }

/-- `passthrough` of the packets that move or scroll. -/
def passthrough (config : Config) (packet : Packet) (queue : MessageQueue) : MessageQueue :=
  if !config.mouse then queue
  else match packet with
    | .relMouseMove deltaX deltaY =>
        { queue with calls := queue.calls ++ [.moveMouse deltaX.toInt deltaY.toInt] }
    | .scroll amount =>
        let ticks := scrollTicks config queue.accumulatedVscrollDelta amount.toInt
        { queue with
          accumulatedVscrollDelta := ticks.2
          calls := queue.calls ++ (ticks.1.map .scroll).toList }
    | .hscroll amount =>
        let ticks := scrollTicks config queue.accumulatedHscrollDelta amount.toInt
        { queue with
          accumulatedHscrollDelta := ticks.2
          calls := queue.calls ++ (ticks.1.map .hscroll).toList }
    | _ => queue

/-- The platform call and the last section of `passthrough_next_message`. -/
def send (config : Config) (queue : MessageQueue) : MessageQueue :=
  match queue.sending with
  | none => queue
  | some packet =>
      let sent := { queue.passthrough config packet with sending := none }
      if queue.inputQueue = [] then { sent with taskScheduled := false }
      else { sent with tasks := queue.tasks + 1 }

def step (config : Config) : QueueEvent → MessageQueue → MessageQueue
  | .enqueue packet, queue => queue.enqueue packet
  | .takeFirst, queue => queue.takeFirst
  | .send, queue => queue.send config

/-! ## What is handed on -/

def remainder (axis : Axis) (queue : MessageQueue) : Int :=
  match axis with
  | .vertical => queue.accumulatedVscrollDelta
  | .horizontal => queue.accumulatedHscrollDelta
  | _ => 0

end MessageQueue

def PlatformCall.amount : Axis → PlatformCall → Int
  | .mouseX, .moveMouse deltaX _ => deltaX
  | .mouseY, .moveMouse _ deltaY => deltaY
  | .vertical, .scroll distance => distance
  | .horizontal, .hscroll distance => distance
  | _, _ => 0

def submittedSum (axis : Axis) (packets : List Packet) : Int :=
  (packets.map (Packet.amount axis)).sum

def handedSum (axis : Axis) (calls : List PlatformCall) : Int :=
  (calls.map (PlatformCall.amount axis)).sum

@[simp] theorem submittedSum_nil (axis : Axis) : submittedSum axis [] = 0 := rfl

@[simp] theorem submittedSum_cons (axis : Axis) (packet : Packet) (rest : List Packet) :
    submittedSum axis (packet :: rest) = packet.amount axis + submittedSum axis rest := by
  simp [submittedSum]

@[simp] theorem submittedSum_append (axis : Axis) (first second : List Packet) :
    submittedSum axis (first ++ second) = submittedSum axis first + submittedSum axis second := by
  simp [submittedSum]

@[simp] theorem handedSum_append (axis : Axis) (first second : List PlatformCall) :
    handedSum axis (first ++ second) = handedSum axis first + handedSum axis second := by
  simp [handedSum]

@[simp] theorem handedSum_singleton (axis : Axis) (call : PlatformCall) :
    handedSum axis [call] = call.amount axis := by
  simp [handedSum]

/-! ## Batching keeps the amounts -/

theorem batchAll_of_not_relative {dest : Packet} (still : dest.relative = false)
    (rest : List Packet) (axis : Axis) :
    (batchAll dest rest).1.relative = false ∧
      submittedSum axis (batchAll dest rest).2 = submittedSum axis rest := by
  induction rest generalizing dest with
  | nil => exact ⟨still, rfl⟩
  | cons src rest ih =>
      cases result : batch dest src with
      | terminateBatch =>
          simp only [batchAll, result]
          exact ⟨still, trivial⟩
      | notBatchable =>
          obtain ⟨destStill, kept⟩ := ih still
          simp only [batchAll, result, submittedSum_cons, kept]
          exact ⟨destStill, trivial⟩
      | batched merged =>
          rcases batch_cases result with overflow | ⟨_, srcStill, mergedStill⟩
          · rw [overflow.relative] at still
            cases still
          · obtain ⟨destStill, kept⟩ := ih mergedStill
            simp only [batchAll, result, submittedSum_cons, kept,
              Packet.amount_of_not_relative srcStill, zero_add]
            exact ⟨destStill, trivial⟩

/-- A packet of relative amount takes in nothing that does not overflow. -/
theorem batchAll_of_relative {dest : Packet} (relative : dest.relative = true)
    {rest : List Packet} (fits : ∀ src ∈ rest.head?, ¬ Overflows dest src) :
    batchAll dest rest = (dest, rest) := by
  cases rest with
  | nil => rfl
  | cons src rest =>
      rcases batch_relative src relative with ends | ⟨merged, result⟩
      · simp only [batchAll, ends]
      · rcases batch_cases result with overflow | ⟨still, _⟩
        · exact absurd overflow (fits src rfl)
        · rw [relative] at still
          cases still

theorem batchAll_amount {dest : Packet} {rest : List Packet}
    (fits : ∀ src ∈ rest.head?, ¬ Overflows dest src) (axis : Axis) :
    (batchAll dest rest).1.amount axis + submittedSum axis (batchAll dest rest).2 =
      dest.amount axis + submittedSum axis rest := by
  cases relative : dest.relative with
  | true => rw [batchAll_of_relative relative fits]
  | false =>
      obtain ⟨still, kept⟩ := batchAll_of_not_relative relative rest axis
      rw [kept, Packet.amount_of_not_relative still, Packet.amount_of_not_relative relative]

/-! ## Scroll ticks -/

theorem scrollTicks_conserves (config : Config) (accumulated amount : Int) :
    (scrollTicks config accumulated amount).1.getD 0 + (scrollTicks config accumulated amount).2 =
      accumulated + amount := by
  unfold scrollTicks
  split
  · simp only [Option.getD_some]
    omega
  · simp only
    split
    · simp only [Option.getD_some]
      omega
    · simp

theorem scrollTicks_remainder (config : Config) {accumulated : Int} (amount : Int)
    (bound : accumulated.natAbs < 120) :
    (scrollTicks config accumulated amount).2.natAbs < 120 := by
  unfold scrollTicks
  have division := Int.mul_tdiv_add_tmod (accumulated + amount) wheelDelta
  have below : ((accumulated + amount).tmod wheelDelta).natAbs < 120 := by
    rw [Int.natAbs_tmod]
    exact Nat.mod_lt _ (by decide)
  split
  · exact bound
  · simp only
    split
    · rw [mul_comm]
      have rest : accumulated + amount - wheelDelta * (accumulated + amount).tdiv wheelDelta =
          (accumulated + amount).tmod wheelDelta := by omega
      rwa [rest]
    · rename_i noTicks
      have rest : (accumulated + amount).tmod wheelDelta = accumulated + amount := by
        have zero : (accumulated + amount).tdiv wheelDelta = 0 := by simpa using noTicks
        rw [zero, mul_zero] at division
        omega
      rwa [rest] at below

/-! ## Runs -/

namespace MessageQueue

def pendingSum (axis : Axis) (queue : MessageQueue) : Int :=
  submittedSum axis queue.sending.toList + submittedSum axis queue.inputQueue

/-- Every amount submitted is handed on, still queued, or kept as a remainder of
less than a tick. -/
structure Conserved (queue : MessageQueue) : Prop where
  amounts : ∀ axis,
    handedSum axis queue.calls + queue.remainder axis + queue.pendingSum axis =
      submittedSum axis queue.submitted
  remainders : ∀ axis, (queue.remainder axis).natAbs < 120

/-- Mouse input is on, and the two packets at the front of the queue do not
overflow when they are about to be batched. -/
def Fits (config : Config) : QueueEvent → MessageQueue → Prop
  | .takeFirst, queue =>
      config.mouse = true ∧
        ∀ first second rest, queue.inputQueue = first :: second :: rest → ¬ Overflows first second
  | _, _ => config.mouse = true

theorem conserved_enqueue (packet : Packet) {queue : MessageQueue} (conserved : Conserved queue) :
    Conserved (queue.enqueue packet) := by
  refine ⟨fun axis => ?_, conserved.remainders⟩
  have before := conserved.amounts axis
  simp only [pendingSum] at before
  change handedSum axis queue.calls + queue.remainder axis +
      (submittedSum axis queue.sending.toList +
        submittedSum axis (queue.inputQueue ++ [packet])) =
    submittedSum axis (queue.submitted ++ [packet])
  simp only [submittedSum_append]
  omega

theorem conserved_takeFirst {queue : MessageQueue}
    (fits : ∀ first second rest, queue.inputQueue = first :: second :: rest →
      ¬ Overflows first second)
    (conserved : Conserved queue) : Conserved queue.takeFirst := by
  unfold takeFirst
  split
  · exact conserved
  · rename_i idle
    have sending : queue.sending = none := by
      cases sending : queue.sending with
      | none => rfl
      | some packet => simp [sending] at idle
    split
    · exact ⟨conserved.amounts, conserved.remainders⟩
    · rename_i first rest queued
      refine ⟨fun axis => ?_, conserved.remainders⟩
      have before := conserved.amounts axis
      have apart : ∀ src ∈ rest.head?, ¬ Overflows first src := by
        intro src head
        cases rest with
        | nil => cases head
        | cons second later =>
            cases head
            exact fits first src later queued
      have batched := batchAll_amount apart axis
      simp only [pendingSum, queued, sending, Option.toList_none, submittedSum_nil, zero_add,
        submittedSum_cons] at before
      simp only [pendingSum, Option.toList_some, submittedSum_cons, submittedSum_nil, add_zero,
        batched]
      exact before

/-- What `passthrough` hands on and keeps back is the packet's amount. -/
theorem passthrough_amount (config : Config) (mouse : config.mouse = true) (packet : Packet)
    (queue : MessageQueue) (axis : Axis) :
    handedSum axis (queue.passthrough config packet).calls +
        (queue.passthrough config packet).remainder axis =
      handedSum axis queue.calls + queue.remainder axis + packet.amount axis := by
  unfold passthrough
  rw [mouse]
  cases packet with
  | relMouseMove deltaX deltaY =>
      cases axis <;> simp [remainder, PlatformCall.amount, Packet.amount]
  | scroll amount =>
      have kept := scrollTicks_conserves config queue.accumulatedVscrollDelta amount.toInt
      cases ticks : (scrollTicks config queue.accumulatedVscrollDelta amount.toInt).1 with
      | none =>
          rw [ticks, Option.getD_none] at kept
          cases axis <;> simp [remainder, Packet.amount, ticks]
          omega
      | some distance =>
          rw [ticks, Option.getD_some] at kept
          cases axis <;> simp [remainder, PlatformCall.amount, Packet.amount, ticks]
          omega
  | hscroll amount =>
      have kept := scrollTicks_conserves config queue.accumulatedHscrollDelta amount.toInt
      cases ticks : (scrollTicks config queue.accumulatedHscrollDelta amount.toInt).1 with
      | none =>
          rw [ticks, Option.getD_none] at kept
          cases axis <;> simp [remainder, Packet.amount, ticks]
          omega
      | some distance =>
          rw [ticks, Option.getD_some] at kept
          cases axis <;> simp [remainder, PlatformCall.amount, Packet.amount, ticks]
          omega
  | _ => cases axis <;> exact (add_zero _).symm

theorem passthrough_remainder (config : Config) (packet : Packet) {queue : MessageQueue}
    (bounds : ∀ axis, (queue.remainder axis).natAbs < 120) (axis : Axis) :
    ((queue.passthrough config packet).remainder axis).natAbs < 120 := by
  unfold passthrough
  split
  · exact bounds axis
  · split
    · exact bounds axis
    · cases axis with
      | vertical => exact scrollTicks_remainder config _ (bounds .vertical)
      | horizontal => exact bounds .horizontal
      | mouseX => exact bounds .mouseX
      | mouseY => exact bounds .mouseY
    · cases axis with
      | vertical => exact bounds .vertical
      | horizontal => exact scrollTicks_remainder config _ (bounds .horizontal)
      | mouseX => exact bounds .mouseX
      | mouseY => exact bounds .mouseY
    · exact bounds axis

theorem passthrough_frame (config : Config) (packet : Packet) (queue : MessageQueue) :
    (queue.passthrough config packet).submitted = queue.submitted ∧
      (queue.passthrough config packet).inputQueue = queue.inputQueue := by
  unfold passthrough
  split
  · exact ⟨rfl, rfl⟩
  · split <;> exact ⟨rfl, rfl⟩

theorem conserved_send {config : Config} (mouse : config.mouse = true) {queue : MessageQueue}
    (conserved : Conserved queue) : Conserved (queue.send config) := by
  unfold send
  cases sending : queue.sending with
  | none => exact conserved
  | some packet =>
      have sent : Conserved { queue.passthrough config packet with sending := none } := by
        refine ⟨fun axis => ?_, passthrough_remainder config packet conserved.remainders⟩
        have before := conserved.amounts axis
        have handed := passthrough_amount config mouse packet queue axis
        obtain ⟨submitted, queued⟩ := passthrough_frame config packet queue
        simp only [pendingSum, sending, Option.toList_some, submittedSum_cons,
          submittedSum_nil] at before
        change handedSum axis (queue.passthrough config packet).calls +
            (queue.passthrough config packet).remainder axis +
            (submittedSum axis [] + submittedSum axis (queue.passthrough config packet).inputQueue) =
          submittedSum axis (queue.passthrough config packet).submitted
        rw [handed, submitted, queued, submittedSum_nil]
        omega
      simp only
      split <;> exact ⟨sent.amounts, sent.remainders⟩

/-- In runs that never batch two packets whose sum overflows, relative input is
conserved. -/
theorem run_conserves (config : Config) (events : List QueueEvent)
    (fits : Transition.Meets (step config) (Fits config) events {}) :
    let queue := Transition.run (step config) events {}
    (∀ axis, (queue.remainder axis).natAbs < 120) ∧
      (queue.inputQueue = [] → queue.sending = none → ∀ axis,
        handedSum axis queue.calls + queue.remainder axis = submittedSum axis queue.submitted) := by
  have conserved := Transition.run_preserves_of_meets (step config) Conserved
    (fun event queue fits conserved => by
      cases event with
      | enqueue packet => exact conserved_enqueue packet conserved
      | takeFirst => exact conserved_takeFirst fits.2 conserved
      | send => exact conserved_send fits conserved)
    fits ⟨fun axis => by cases axis <;> rfl, fun axis => by cases axis <;> decide⟩
  refine ⟨conserved.remainders, fun drained idle axis => ?_⟩
  have whole := conserved.amounts axis
  rwa [pendingSum, drained, idle, Option.toList_none, submittedSum_nil, add_zero, add_zero]
    at whole

/-- Two movements that overflow on both axes are batched and wrap. -/
theorem relMouseMove_wraps :
    ¬ ∀ config : Config, config.mouse = true → ∀ events : List QueueEvent,
      let queue := Transition.run (step config) events {}
      queue.inputQueue = [] → queue.sending = none → ∀ axis,
        handedSum axis queue.calls + queue.remainder axis =
          submittedSum axis queue.submitted := by
  intro claimed
  have handed := claimed {} rfl
    [.enqueue (.relMouseMove 32767 32767), .enqueue (.relMouseMove 1 1), .takeFirst, .send]
    (by decide) (by decide) .mouseX
  exact absurd handed (by decide)

theorem run_conserves_separate :
    let queue := Transition.run (step {})
      [.enqueue (.scroll 100), .takeFirst, .enqueue (.scroll 50), .send, .takeFirst, .send] {}
    (∀ axis, (queue.remainder axis).natAbs < 120) ∧
      (queue.inputQueue = [] → queue.sending = none → ∀ axis,
        handedSum axis queue.calls + queue.remainder axis = submittedSum axis queue.submitted) :=
  run_conserves {} _ (by
    refine ⟨rfl, ⟨rfl, fun first second rest queued => ?_⟩, rfl, rfl,
      ⟨rfl, fun first second rest queued => ?_⟩, rfl, trivial⟩
    · cases queued
    · cases queued)

end MessageQueue

end UmbraHost.Input
