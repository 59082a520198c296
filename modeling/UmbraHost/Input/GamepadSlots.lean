import UmbraHost.Input.Gamepads

/-! # Numbers of gamepads

Every number in `gamepadMask` is in one slot or with one task that frees it.  The handlers look
before they call the platform; the delayed home button does not. -/

namespace UmbraHost.Input

open UmbraHost.Tables UmbraHost.Transition

inductive GamepadHolder where
  | slot (session controllerNumber : Nat)
  | freeTask (task : Nat)
deriving DecidableEq, Repr

/-- A number is given out when it is not set, and used or given back when it is. -/
def GamepadCall.Proper : GamepadCall → (Nat → Bool) → Prop
  | .allocId id, mask => mask id = false
  | .freeId id, mask | .allocGamepad id _ _, mask | .freeGamepad id, mask => mask id = true
  | .gamepadUpdate id _, mask | .gamepadTouch id _, mask | .gamepadMotion id _, mask
  | .gamepadBattery id _, mask => id.map mask = some true

instance (call : GamepadCall) (mask : Nat → Bool) : Decidable (call.Proper mask) := by
  cases call <;> unfold GamepadCall.Proper <;> infer_instance

namespace Gamepads

variable {state after : Gamepads}

def heldBy (state : Gamepads) : GamepadHolder → Option Nat
  | .slot session controllerNumber => (state.gamepad? session controllerNumber).bind (·.id)
  | .freeTask task => state.freeTasks task

/-- Each call was proper by the calls before it. -/
def ProperCalls (state : Gamepads) : Prop :=
  Meets GamepadCall.marks GamepadCall.Proper state.calls fun _ => false

instance (state : Gamepads) : Decidable state.ProperCalls :=
  inferInstanceAs (Decidable (Meets _ _ _ _))

structure Kept (state : Gamepads) : Prop where
  exclusive : Exclusive state.gamepadMask state.heldBy
  replayed : state.gamepadMask = run GamepadCall.marks state.calls fun _ => false
  fresh : ∀ task, state.nextTask ≤ task → state.freeTasks task = none

/-- A delayed home button fires while there is a gamepad in its slot. -/
def HomeReady : GamepadEvent → Gamepads → Prop
  | .homeTask task, state =>
      ∀ pending ∈ state.homeTasks.find? (·.task = task),
        ∀ gamepad ∈ state.gamepad? pending.session pending.controllerNumber, gamepad.id ≠ none
  | _, _ => True

/-- The slots are kept, and the calls made on the way are proper if the condition holds. -/
structure Serves (state after : Gamepads) (ready : Prop) : Prop where
  kept : after.Kept
  proper : after.ProperCalls ↔ state.ProperCalls ∧ ready

theorem Serves.of_calls {ready : Prop} (kept : after.Kept) (same : after.calls = state.calls)
    (holds : ready) : Serves state after ready := by
  refine ⟨kept, ?_⟩
  rw [ProperCalls, same]
  exact (and_iff_left holds).symm

theorem Serves.trans {middle : Gamepads} {first second ready : Prop}
    (front : Serves state middle first) (back : Serves middle after second)
    (both : ready ↔ first ∧ second) : Serves state after ready :=
  ⟨back.kept, by rw [back.proper, front.proper, both, and_assoc]⟩

theorem Serves.congr {ready other : Prop} (served : Serves state after ready)
    (same : ready ↔ other) : Serves state after other :=
  ⟨served.kept, by rw [served.proper, same]⟩

/-! ## Parts of a handler -/

theorem properCalls_perform
    (kept : state.gamepadMask = run GamepadCall.marks state.calls fun _ => false)
    (call : GamepadCall) :
    (state.perform call).ProperCalls ↔ state.ProperCalls ∧ call.Proper state.gamepadMask := by
  rw [kept]
  constructor
  · intro proper
    obtain ⟨before, now, _⟩ := Meets.append _ proper
    exact ⟨before, now⟩
  · intro ⟨before, now⟩
    exact before.concat _ now

theorem replayed_perform
    (kept : state.gamepadMask = run GamepadCall.marks state.calls fun _ => false)
    (call : GamepadCall) :
    (state.perform call).gamepadMask =
      run GamepadCall.marks (state.perform call).calls fun _ => false := by
  simp only [perform, run_append, run_cons, run_nil, kept]

theorem heldBy_setGamepad {session controllerNumber : Nat} {old : Gamepad} (gamepad : Gamepad)
    (there : state.gamepad? session controllerNumber = some old) :
    (state.setGamepad session controllerNumber gamepad).heldBy =
      Function.update state.heldBy (.slot session controllerNumber) gamepad.id := by
  obtain ⟨inside, _⟩ := List.getElem?_eq_some_iff.mp there
  funext holder
  cases holder with
  | freeTask task => rfl
  | slot other number =>
      by_cases same : other = session
      · subst same
        by_cases here : number = controllerNumber
        · subst here
          simp [heldBy, gamepad?, setGamepad, inside]
        · have apart : GamepadHolder.slot other number ≠ .slot other controllerNumber := by
            simp [here]
          rw [Function.update_of_ne apart]
          simp [heldBy, gamepad?, setGamepad, Ne.symm here]
      · have apart : GamepadHolder.slot other number ≠ .slot session controllerNumber := by
          simp [same]
        rw [Function.update_of_ne apart]
        simp [heldBy, gamepad?, setGamepad, same]

/-- A slot that keeps its number. -/
theorem Kept.setGamepad (kept : state.Kept) {session controllerNumber : Nat} {old gamepad : Gamepad}
    (there : state.gamepad? session controllerNumber = some old) (same : gamepad.id = old.id) :
    (state.setGamepad session controllerNumber gamepad).Kept := by
  refine ⟨?_, kept.replayed, kept.fresh⟩
  have unchanged : (state.setGamepad session controllerNumber gamepad).heldBy = state.heldBy := by
    rw [heldBy_setGamepad _ there, same]
    apply Function.update_eq_self_iff.mpr
    simp [heldBy, there]
  rw [unchanged]
  exact kept.exclusive

/-- Calls that leave the mask alone. -/
theorem Kept.perform (kept : state.Kept) (call : GamepadCall)
    (unmarked : call.marks state.gamepadMask = state.gamepadMask) :
    Serves state (state.perform call) (call.Proper state.gamepadMask) := by
  refine ⟨⟨?_, replayed_perform kept.replayed call, kept.fresh⟩,
    properCalls_perform kept.replayed call⟩
  change Exclusive (call.marks state.gamepadMask) state.heldBy
  rw [unmarked]
  exact kept.exclusive

theorem Kept.refl (kept : state.Kept) : Serves state state True :=
  .of_calls kept rfl trivial

theorem allocId_eq_some {mask : Nat → Bool} {id : Nat} (found : allocId mask = some id) :
    mask id = false := by
  simpa using List.find?_some found

theorem Kept.createGamepad (kept : state.Kept) {session controllerNumber : Nat}
    {gamepad : Gamepad} (there : state.gamepad? session controllerNumber = some gamepad)
    (idle : gamepad.id = none) (arrival : GamepadArrival) (allocated : Bool) :
    Serves state (state.createGamepad session controllerNumber gamepad arrival allocated) True := by
  unfold Gamepads.createGamepad
  cases found : allocId state.gamepadMask with
  | none => exact kept.refl
  | some id =>
      have free := allocId_eq_some found
      let taken := state.perform (.allocId id)
      let tried := taken.perform (.allocGamepad id controllerNumber arrival)
      have marked : taken.gamepadMask id = true := Function.update_self ..
      have takenReplayed := replayed_perform kept.replayed (.allocId id)
      have triedReplayed :=
        replayed_perform takenReplayed (.allocGamepad id controllerNumber arrival)
      have triedProper : tried.ProperCalls ↔ state.ProperCalls := by
        rw [properCalls_perform takenReplayed, properCalls_perform kept.replayed]
        exact ⟨fun proper => proper.1.1, fun proper => ⟨⟨proper, free⟩, marked⟩⟩
      cases allocated with
      | true =>
          refine ⟨⟨?_, triedReplayed, kept.fresh⟩, ?_⟩
          · change Exclusive (Function.update state.gamepadMask id true)
              (state.setGamepad session controllerNumber { gamepad with id := some id }).heldBy
            rw [heldBy_setGamepad _ there]
            apply kept.exclusive.take free
            simp [heldBy, there, idle]
          · exact triedProper.trans (and_iff_left trivial).symm
      | false =>
          refine ⟨⟨?_, replayed_perform triedReplayed (.freeId id), kept.fresh⟩, ?_⟩
          · change Exclusive
              (Function.update (Function.update state.gamepadMask id true) id false) state.heldBy
            rw [Function.update_idem, ← free, Function.update_eq_self]
            exact kept.exclusive
          · change (tried.perform (.freeId id)).ProperCalls ↔ _
            rw [properCalls_perform triedReplayed, triedProper]
            exact ⟨fun proper => ⟨proper.1, trivial⟩, fun proper => ⟨proper.1, marked⟩⟩

/-- A holder gives its number back. -/
theorem Kept.freeGamepad (kept : state.Kept) {holder : GamepadHolder} {id : Nat}
    (holds : state.heldBy holder = some id) {after : Gamepads}
    (calls : after.calls = (state.freeGamepad id).calls)
    (mask : after.gamepadMask = (state.freeGamepad id).gamepadMask)
    (held : after.heldBy = Function.update state.heldBy holder none)
    (fresh : ∀ task, after.nextTask ≤ task → after.freeTasks task = none) :
    Serves state after True := by
  have marked := kept.exclusive.marked_of_held holder id holds
  let updated := state.perform (.gamepadUpdate (some id) {})
  let freed := updated.perform (.freeGamepad id)
  have updatedReplayed := replayed_perform kept.replayed (.gamepadUpdate (some id) {})
  have freedReplayed := replayed_perform updatedReplayed (.freeGamepad id)
  refine ⟨⟨?_, ?_, fresh⟩, ?_⟩
  · rw [mask, held]
    exact kept.exclusive.drop holds
  · rw [mask, calls]
    exact replayed_perform freedReplayed (.freeId id)
  · rw [ProperCalls, calls]
    change (freed.perform (.freeId id)).ProperCalls ↔ _
    rw [properCalls_perform freedReplayed, properCalls_perform updatedReplayed,
      properCalls_perform kept.replayed]
    have updates : (GamepadCall.gamepadUpdate (some id) {}).Proper state.gamepadMask :=
      congrArg some marked
    exact ⟨fun proper => ⟨proper.1.1.1, trivial⟩,
      fun proper => ⟨⟨⟨proper.1, updates⟩, marked⟩, marked⟩⟩

theorem Kept.marked (kept : state.Kept) {session controllerNumber id : Nat} {gamepad : Gamepad}
    (there : state.gamepad? session controllerNumber = some gamepad)
    (present : gamepad.id = some id) : state.gamepadMask id = true := by
  apply kept.exclusive.marked_of_held (.slot session controllerNumber)
  simp [heldBy, there, present]

theorem Kept.forward (kept : state.Kept) (session controllerNumber : Nat)
    (call : Option Nat → GamepadCall) (unmarked : ∀ id mask, (call id).marks mask = mask)
    (proper : ∀ id mask, (call id).Proper mask ↔ id.map mask = some true) :
    Serves state (state.forward session controllerNumber call) True := by
  unfold Gamepads.forward
  split
  · exact kept.refl
  · cases there : state.gamepad? session controllerNumber with
    | none => exact kept.refl
    | some gamepad =>
        cases present : gamepad.id with
        | none => simpa [present] using kept.refl
        | some id =>
            simp only [present, Option.isNone_some, Bool.false_eq_true, if_false]
            apply (kept.perform (call (some id)) (unmarked _ _)).congr
            rw [proper]
            simp [kept.marked there present]

@[simp] theorem id_forceBack (given : GamepadState) (gamepad : Gamepad) :
    (forceBack given gamepad).2.id = gamepad.id := by
  unfold forceBack
  split
  · dsimp only
    split <;> rfl
  · dsimp only
    split <;> rfl
  · rfl

/-- What `delayHome` may change. -/
theorem delayHome_cases (session controllerNumber : Nat) (sent : GamepadState)
    (gamepad : Gamepad) (state : Gamepads) :
    (state.delayHome session controllerNumber sent gamepad).1.id = gamepad.id ∧
      ∃ homeTasks nextTask, state.nextTask ≤ nextTask ∧
        (state.delayHome session controllerNumber sent gamepad).2 =
          { state with homeTasks, nextTask } := by
  unfold delayHome
  split
  · exact ⟨rfl, _, _, Nat.le_refl _, rfl⟩
  split
  · split
    · exact ⟨rfl, _, _, Nat.le_succ _, rfl⟩
    · exact ⟨rfl, _, _, Nat.le_refl _, rfl⟩
  · split
    · exact ⟨rfl, _, _, Nat.le_refl _, rfl⟩
    · exact ⟨rfl, _, _, Nat.le_refl _, rfl⟩

theorem Kept.updateState (kept : state.Kept) (session : Nat) (packet : ControllerStatePacket) :
    Serves state (state.updateState session packet) True := by
  unfold Gamepads.updateState
  cases there : state.gamepad? session packet.controllerNumber with
  | none => exact kept.refl
  | some gamepad =>
      cases present : gamepad.id with
      | none => simpa [present] using kept.refl
      | some id =>
          simp only [present, Option.isNone_some, Bool.false_eq_true, if_false]
          obtain ⟨sameId, homeTasks, nextTask, later, delayed⟩ :=
            delayHome_cases session packet.controllerNumber (forceBack packet.state gamepad).1
              (forceBack packet.state gamepad).2 state
          rw [id_forceBack] at sameId
          rw [delayed]
          have waits : Kept { state with homeTasks, nextTask } :=
            ⟨kept.exclusive, kept.replayed, fun task after =>
              kept.fresh task (Nat.le_trans later after)⟩
          have updated := waits.perform
            (.gamepadUpdate (some id) (forceBack packet.state gamepad).1) rfl
          rw [sameId, present]
          refine ⟨updated.kept.setGamepad there ?_, ?_⟩
          · exact present.symm
          · change ProperCalls (Gamepads.perform _ _) ↔ _
            rw [updated.proper]
            apply and_congr_right
            intro _
            exact iff_of_true (congrArg some (kept.marked there present)) trivial

theorem Kept.controllerArrival (kept : state.Kept) (session : Nat)
    (packet : ControllerArrivalPacket) (allocated : Bool) :
    Serves state (state.controllerArrival session packet allocated) True := by
  unfold Gamepads.controllerArrival
  split
  · exact kept.refl
  · cases there : state.gamepad? session packet.controllerNumber with
    | none => exact kept.refl
    | some gamepad =>
        dsimp only
        split
        · exact kept.refl
        · next idle =>
            exact kept.createGamepad there (by simpa using idle) packet.arrival allocated

theorem Kept.multiController (kept : state.Kept) (session : Nat)
    (packet : ControllerStatePacket) (allocated : Bool) :
    Serves state (state.multiController session packet allocated) True := by
  unfold Gamepads.multiController
  split
  · exact kept.refl
  · cases there : state.gamepad? session packet.controllerNumber with
    | none => exact kept.refl
    | some gamepad =>
        cases present : gamepad.id with
        | none =>
            simp only [present]
            split
            · have created := kept.createGamepad there present {} allocated
              exact created.trans (created.kept.updateState session packet) (by simp)
            · exact kept.refl
        | some id =>
            simp only [present]
            split
            · exact kept.updateState session packet
            · have holds : state.heldBy (.slot session packet.controllerNumber) = some id := by
                simp [heldBy, there, present]
              exact kept.freeGamepad holds rfl rfl (heldBy_setGamepad _ there) kept.fresh

theorem Kept.homeTask (kept : state.Kept) (task : Nat) :
    Serves state (state.homeTask task) (HomeReady (.homeTask task) state) := by
  cases found : state.homeTasks.find? (·.task = task) with
  | none =>
      simp only [Gamepads.homeTask, found]
      exact kept.refl.congr (by simp [HomeReady, found])
  | some pending =>
      have fired : Kept { state with homeTasks := state.homeTasks.erase pending } :=
        ⟨kept.exclusive, kept.replayed, kept.fresh⟩
      cases there : state.gamepad? pending.session pending.controllerNumber with
      | none =>
          simp only [Gamepads.homeTask, found, there]
          exact .of_calls fired rfl (by simp [HomeReady, found, there])
      | some gamepad =>
          simp only [Gamepads.homeTask, found, there]
          have first := fired.perform
            (.gamepadUpdate gamepad.id (gamepad.gamepadState.without back)) rfl
          have second := first.kept.perform
            (.gamepadUpdate gamepad.id
              ((gamepad.gamepadState.without back).with home)) rfl
          have third := second.kept.perform
            (.gamepadUpdate gamepad.id
              (((gamepad.gamepadState.without back).with home).without home)) rfl
          refine ⟨third.kept.setGamepad there rfl, ?_⟩
          change ProperCalls (Gamepads.perform _ _) ↔ _
          rw [third.proper, second.proper, first.proper]
          change ((state.ProperCalls ∧ gamepad.id.map state.gamepadMask = some true) ∧
            gamepad.id.map state.gamepadMask = some true) ∧
            gamepad.id.map state.gamepadMask = some true ↔ _
          have ready : gamepad.id.map state.gamepadMask = some true ↔ gamepad.id ≠ none := by
            cases present : gamepad.id with
            | none => simp
            | some id => simp [kept.marked there present]
          simp [HomeReady, found, there, ready]

theorem Kept.freeTask (kept : state.Kept) (task : Nat) :
    Serves state (state.freeTask task) True := by
  unfold Gamepads.freeTask
  cases pending : state.freeTasks task with
  | none => exact kept.refl
  | some id =>
      have holds : state.heldBy (.freeTask task) = some id := pending
      refine kept.freeGamepad holds rfl rfl ?_ ?_
      · funext holder
        cases holder with
        | slot session controllerNumber =>
            rw [Function.update_of_ne (by simp)]
            rfl
        | freeTask other =>
            by_cases same : other = task
            · rw [same, Function.update_self]
              exact Function.update_self ..
            · rw [Function.update_of_ne (by simp [same])]
              exact Function.update_of_ne same ..
      · intro other later
        by_cases same : other = task
        · rw [same]
          exact Function.update_self ..
        · exact (Function.update_of_ne same ..).trans (kept.fresh other later)

/-- The number of a destroyed slot waits for its task. -/
theorem heldBy_destroyGamepad {session controllerNumber id : Nat} {gamepad : Gamepad}
    (there : state.gamepad? session controllerNumber = some gamepad)
    (present : gamepad.id = some id) :
    (state.destroyGamepad session controllerNumber).heldBy =
      Function.update
        (Function.update state.heldBy (.slot session controllerNumber) none)
        (.freeTask state.nextTask) (some id) := by
  simp only [destroyGamepad, there, present]
  funext holder
  cases holder with
  | slot other number =>
      rw [Function.update_of_ne (by simp)]
      have cleared := heldBy_setGamepad { gamepad with id := none } there
      exact congrFun cleared (.slot other number)
  | freeTask task =>
      by_cases same : task = state.nextTask
      · rw [same, Function.update_self]
        exact Function.update_self ..
      · rw [Function.update_of_ne (by simp [same]), Function.update_of_ne (by simp)]
        exact Function.update_of_ne same ..

theorem destroyGamepad_of_idle {session controllerNumber : Nat}
    (idle : state.heldBy (.slot session controllerNumber) = none) :
    state.destroyGamepad session controllerNumber = state := by
  unfold destroyGamepad
  cases there : state.gamepad? session controllerNumber with
  | none => rfl
  | some gamepad =>
      have absent : gamepad.id = none := by simpa [heldBy, there] using idle
      simp [absent]

theorem held_cases (session controllerNumber : Nat) (state : Gamepads) :
    state.heldBy (.slot session controllerNumber) = none ∨
      ∃ gamepad id, state.gamepad? session controllerNumber = some gamepad ∧
        gamepad.id = some id := by
  cases held : state.heldBy (.slot session controllerNumber) with
  | none => exact .inl rfl
  | some id =>
      obtain ⟨gamepad, there, present⟩ := Option.bind_eq_some_iff.mp held
      exact .inr ⟨gamepad, id, there, present⟩

theorem Kept.destroyGamepad (kept : state.Kept) (session controllerNumber : Nat) :
    Serves state (state.destroyGamepad session controllerNumber) True := by
  rcases held_cases session controllerNumber state with idle | ⟨gamepad, id, there, present⟩
  · rw [destroyGamepad_of_idle idle]
    exact kept.refl
  · have holds : state.heldBy (.slot session controllerNumber) = some id := by
      simp [heldBy, there, present]
    have idle : state.heldBy (.freeTask state.nextTask) = none :=
      kept.fresh state.nextTask (Nat.le_refl _)
    have handed := kept.exclusive.hand holds idle
    rw [← heldBy_destroyGamepad there present] at handed
    simp only [Gamepads.destroyGamepad, there, present] at handed ⊢
    refine .of_calls ⟨handed, kept.replayed, ?_⟩ rfl trivial
    intro task later
    have apart : task ≠ state.nextTask := Nat.ne_of_gt later
    exact (Function.update_of_ne apart ..).trans (kept.fresh task (Nat.le_of_succ_le later))

theorem heldBy_slot_destroyGamepad (session controllerNumber number : Nat) (state : Gamepads) :
    (state.destroyGamepad session controllerNumber).heldBy (.slot session number) =
      if number = controllerNumber then none else state.heldBy (.slot session number) := by
  rcases held_cases session controllerNumber state with idle | ⟨gamepad, id, there, present⟩
  · rw [destroyGamepad_of_idle idle]
    split
    · next same => rw [same, idle]
    · rfl
  · rw [heldBy_destroyGamepad there present, Function.update_of_ne (by simp)]
    split
    · next same => rw [same, Function.update_self]
    · next apart => rw [Function.update_of_ne (by simp [apart])]

theorem Kept.destroyGamepads (kept : state.Kept) (session count : Nat) :
    Serves state (state.destroyGamepads session count) True ∧
      ∀ number, (state.destroyGamepads session count).heldBy (.slot session number) =
        if number < count then none else state.heldBy (.slot session number) := by
  induction count with
  | zero => exact ⟨kept.refl, fun _ => rfl⟩
  | succ count ih =>
      obtain ⟨served, emptied⟩ := ih
      have again : state.destroyGamepads session (count + 1) =
          (state.destroyGamepads session count).destroyGamepad session count := by
        simp [Gamepads.destroyGamepads, List.range_succ]
      rw [again]
      refine ⟨served.trans (served.kept.destroyGamepad session count) (by simp), ?_⟩
      intro number
      rw [heldBy_slot_destroyGamepad, emptied]
      grind

theorem Kept.destroy (kept : state.Kept) (session : Nat) :
    Serves state (state.destroy session) True := by
  unfold Gamepads.destroy
  split
  · exact kept.refl
  · obtain ⟨served, emptied⟩ := kept.destroyGamepads session (state.inputs session).length
    refine served.trans (.of_calls ⟨?_, served.kept.replayed, served.kept.fresh⟩ rfl trivial)
      (by simp)
    -- no slot of the session has a number any more, so dropping them changes nothing
    refine cast (congrArg (Exclusive _) ?_) served.kept.exclusive
    funext holder
    cases holder with
    | freeTask task => rfl
    | slot other number =>
        by_cases same : other = session
        · subst same
          rw [emptied]
          split
          · simp [heldBy, gamepad?]
          · next outside => simp [heldBy, gamepad?, outside]
        · simp [heldBy, gamepad?, same, Gamepads.destroyGamepads]

theorem Kept.alloc (kept : state.Kept) (session : Nat) :
    Serves state (state.alloc session) True := by
  unfold Gamepads.alloc
  split
  · next absent =>
      refine .of_calls ⟨?_, kept.replayed, kept.fresh⟩ rfl trivial
      refine cast (congrArg (Exclusive _) ?_) kept.exclusive
      funext holder
      cases holder with
      | freeTask task => rfl
      | slot other number =>
          by_cases same : other = session
          · subst same
            have empty : ∀ gamepad ∈ (List.replicate maxGamepads ({} : Gamepad))[number]?,
                gamepad.id = none := by
              intro gamepad there
              rw [List.eq_of_mem_replicate (List.mem_of_getElem? there)]
            simp only [heldBy, gamepad?, absent, Function.update_self]
            exact (Option.bind_eq_none_iff.mpr empty).symm
          · simp [heldBy, gamepad?, same]
  · exact kept.refl

/-! ## Runs -/

theorem kept_initial : Kept {} where
  exclusive := by
    have idle : heldBy {} = fun _ => none := by
      funext holder
      cases holder <;> rfl
    rw [idle]
    exact exclusive_none
  replayed := rfl
  fresh _ _ := rfl

theorem Kept.step (kept : state.Kept) (event : GamepadEvent) :
    Serves state (step event state) (HomeReady event state) := by
  cases event with
  | applyConfig config =>
      exact .of_calls ⟨kept.exclusive, kept.replayed, kept.fresh⟩ rfl trivial
  | alloc session => exact kept.alloc session
  | controllerArrival session packet allocated =>
      exact kept.controllerArrival session packet allocated
  | multiController session packet allocated => exact kept.multiController session packet allocated
  | controllerTouch session packet =>
      exact kept.forward session packet.controllerNumber (.gamepadTouch · packet)
        (fun _ _ => rfl) fun _ _ => Iff.rfl
  | controllerMotion session packet =>
      exact kept.forward session packet.controllerNumber (.gamepadMotion · packet)
        (fun _ _ => rfl) fun _ _ => Iff.rfl
  | controllerBattery session packet =>
      exact kept.forward session packet.controllerNumber (.gamepadBattery · packet)
        (fun _ _ => rfl) fun _ _ => Iff.rfl
  | homeTask task => exact kept.homeTask task
  | freeTask task => exact kept.freeTask task
  | destroy session => exact kept.destroy session

/-- Every number is held once, and the platform is only called with numbers that are set. -/
def SlotsSound (state : Gamepads) : Prop :=
  Exclusive state.gamepadMask state.heldBy ∧ state.ProperCalls

/-- Only a delayed home button that fires after its controller was removed calls the platform
without a gamepad. -/
theorem slotsSound_iff (events : List GamepadEvent) :
    SlotsSound (run step events {}) ↔ Meets step HomeReady events {} := by
  have kept : (run step events {}).Kept :=
    run_preserves step Kept (fun event _ kept => (kept.step event).kept) events kept_initial
  have proper := run_iff_meets step Kept ProperCalls (fun event _ kept => (kept.step event).kept)
    (fun event _ kept => (kept.step event).proper) events kept_initial
  have start : ProperCalls {} := trivial
  rw [SlotsSound, and_iff_right kept.exclusive, proper, and_iff_right start]

/-- A controller is removed while its back button is held. -/
def removedHoldingBack : List GamepadEvent :=
  [.alloc 0, .controllerArrival 0 { controllerNumber := 0 } true,
    .multiController 0
      { activeGamepadMask := 1, controllerNumber := 0, buttonFlags := 0x20, buttonFlags2 := 0 }
      true,
    .multiController 0
      { activeGamepadMask := 0, controllerNumber := 0, buttonFlags := 0, buttonFlags2 := 0 } true,
    .homeTask 0]

theorem removedHoldingBack_unsound :
    (∃ gamepadState, .gamepadUpdate none gamepadState ∈ (run step removedHoldingBack {}).calls) ∧
      ¬ SlotsSound (run step removedHoldingBack {}) := by
  refine ⟨⟨{}, by decide⟩, fun sound => ?_⟩
  exact absurd sound.2 (by decide)

end Gamepads

end UmbraHost.Input
