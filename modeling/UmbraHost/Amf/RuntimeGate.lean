import UmbraHost.Transition.Run
import Mathlib.Data.Set.Card

/-! # The gate of the AMF runtime

`native_runtime_gate_t` (`amf_lifecycle.h`) with any number of callers.  Every section under
the mutex is one step.  A timed wait releases the mutex: a waiting caller looks at its
predicate again at every wake-up, and for the last time once its deadline has passed. -/

namespace UmbraHost.Amf.RuntimeGate

open UmbraHost.Transition

inductive TeardownAdmission where
  | granted
  | quarantined
  | contended
deriving DecidableEq, Repr

structure NativeRuntimeGate where
  quarantined : Bool := false
  initializationInProgress : Bool := false
  pendingTeardowns : Nat := 0
  teardownsInProgress : Nat := 0
deriving DecidableEq, Repr

namespace NativeRuntimeGate

/-- What `begin_initialization_for` waits for. -/
def initializationReady (gate : NativeRuntimeGate) : Bool :=
  gate.quarantined ||
    (!gate.initializationInProgress && gate.pendingTeardowns == 0 && gate.teardownsInProgress == 0)

/-- What `begin_teardown_until` waits for. -/
def teardownReady (gate : NativeRuntimeGate) : Bool :=
  gate.quarantined || (!gate.initializationInProgress && gate.teardownsInProgress == 0)

/-- `begin_initialization_for` after its wait. -/
def beginInitialization (available : Bool) (gate : NativeRuntimeGate) : NativeRuntimeGate × Bool :=
  if !available || gate.quarantined then (gate, false)
  else ({ gate with initializationInProgress := true }, true)

def finishInitialization (gate : NativeRuntimeGate) : NativeRuntimeGate × Bool :=
  ({ gate with initializationInProgress := false },
    gate.initializationInProgress && !gate.quarantined && gate.teardownsInProgress == 0)

def cancelInitialization (gate : NativeRuntimeGate) : NativeRuntimeGate :=
  { gate with initializationInProgress := false }

def quarantineInitialization (gate : NativeRuntimeGate) : NativeRuntimeGate :=
  { gate with quarantined := true }

/-- `begin_teardown_until` up to its wait. -/
def announceTeardown (gate : NativeRuntimeGate) : NativeRuntimeGate :=
  { gate with pendingTeardowns := gate.pendingTeardowns + 1 }

/-- `begin_teardown_until` after its wait. -/
def beginTeardown (available : Bool) (gate : NativeRuntimeGate) :
    NativeRuntimeGate × TeardownAdmission :=
  let gate := { gate with pendingTeardowns := gate.pendingTeardowns - 1 }
  if gate.quarantined then (gate, .quarantined)
  else if !available then (gate, .contended)
  else ({ gate with teardownsInProgress := gate.teardownsInProgress + 1 }, .granted)

def finishTeardown (completed : Bool) (gate : NativeRuntimeGate) : NativeRuntimeGate :=
  let gate :=
    if completed && gate.teardownsInProgress != 0 then
      { gate with teardownsInProgress := gate.teardownsInProgress - 1 }
    else gate
  -- an abandoned call keeps the fence
  if !completed then { gate with quarantined := true } else gate

end NativeRuntimeGate

/-! ## The callers -/

inductive Phase where
  | outside
  | awaitingInitialization
  | initializing
  | awaitingTeardown
  | tearingDown
  | abandoned
deriving DecidableEq, Repr

/-- The caller's vendor calls may be running. -/
def Phase.inside : Phase → Bool
  | .initializing | .tearingDown | .abandoned => true
  | _ => false

inductive Answer where
  | initialization (begun : Bool)
  | finished (publish : Bool)
  | teardown (admission : TeardownAdmission)
deriving DecidableEq, Repr

/-- The answer lets its caller into the runtime or publishes what it made there. -/
def Answer.positive : Answer → Bool
  | .initialization begun => begun
  | .finished publish => publish
  | .teardown admission => admission = .granted

variable {Caller : Type u}

structure State (Caller : Type u) where
  gate : NativeRuntimeGate := {}
  phase : Caller → Phase := fun _ => .outside

inductive Event (Caller : Type u) where
  | beginInitializationFor (caller : Caller)
  | beginTeardownUntil (caller : Caller)
  | wake (caller : Caller) (expired : Bool)
  | finishInitialization (caller : Caller)
  | cancelInitialization (caller : Caller)
  | quarantineInitialization
  | finishTeardown (caller : Caller) (completed : Bool)

variable [DecidableEq Caller]

namespace State

def moveTo (caller : Caller) (phase : Phase) (gate : NativeRuntimeGate) (state : State Caller) :
    State Caller :=
  { gate, phase := Function.update state.phase caller phase }

/-- The wait for an initialization ends. -/
def admitInitialization (caller : Caller) (available : Bool) (state : State Caller) :
    State Caller × Option Answer :=
  let (gate, begun) := state.gate.beginInitialization available
  (state.moveTo caller (if begun then .initializing else .outside) gate,
    some (.initialization begun))

/-- The wait for a teardown ends. -/
def admitTeardown (caller : Caller) (available : Bool) (state : State Caller) :
    State Caller × Option Answer :=
  let (gate, admission) := state.gate.beginTeardown available
  (state.moveTo caller (if admission = .granted then .tearingDown else .outside) gate,
    some (.teardown admission))

/-- One section under the mutex.  A caller calls what its phase allows; the session that
gives an initialization up may do so after its worker has cancelled it. -/
def perform : Event Caller → State Caller → State Caller × Option Answer
  | .beginInitializationFor caller, state =>
    match state.phase caller with
    | .outside =>
      if state.gate.initializationReady then state.admitInitialization caller true
      else (state.moveTo caller .awaitingInitialization state.gate, none)
    | _ => (state, none)
  | .beginTeardownUntil caller, state =>
    match state.phase caller with
    | .outside =>
      let announced := { state with gate := state.gate.announceTeardown }
      if announced.gate.teardownReady then announced.admitTeardown caller true
      else (announced.moveTo caller .awaitingTeardown announced.gate, none)
    | _ => (state, none)
  | .wake caller expired, state =>
    match state.phase caller with
    | .awaitingInitialization =>
      let available := state.gate.initializationReady
      if available || expired then state.admitInitialization caller available else (state, none)
    | .awaitingTeardown =>
      let available := state.gate.teardownReady
      if available || expired then state.admitTeardown caller available else (state, none)
    | _ => (state, none)
  | .finishInitialization caller, state =>
    match state.phase caller with
    | .initializing =>
      let (gate, publish) := state.gate.finishInitialization
      (state.moveTo caller .outside gate, some (.finished publish))
    | _ => (state, none)
  | .cancelInitialization caller, state =>
    match state.phase caller with
    | .initializing => (state.moveTo caller .outside state.gate.cancelInitialization, none)
    | _ => (state, none)
  | .quarantineInitialization, state =>
    ({ state with gate := state.gate.quarantineInitialization }, none)
  | .finishTeardown caller completed, state =>
    match state.phase caller with
    | .tearingDown =>
      (state.moveTo caller (if completed then .outside else .abandoned)
        (state.gate.finishTeardown completed), none)
    | _ => (state, none)

def step (event : Event Caller) (state : State Caller) : State Caller :=
  (state.perform event).1

def answer (event : Event Caller) (state : State Caller) : Option Answer :=
  (state.perform event).2

end State

/-! ## Who is inside -/

variable {caller : Caller} {phase : Phase} {gate : NativeRuntimeGate} {state : State Caller}

namespace State

@[simp] theorem moveTo_gate : (state.moveTo caller phase gate).gate = gate := rfl

@[simp] theorem moveTo_self : (state.moveTo caller phase gate).phase caller = phase :=
  Function.update_self ..

theorem moveTo_other {other : Caller} (distinct : other ≠ caller) :
    (state.moveTo caller phase gate).phase other = state.phase other :=
  Function.update_of_ne distinct ..

/-- The flags of the gate tell who is inside, and that is at most one caller. -/
inductive Fenced (state : State Caller) : Prop where
  | free (outside : ∀ caller, (state.phase caller).inside = false)
      (initialization : state.gate.initializationInProgress = false)
      (teardowns : state.gate.teardownsInProgress = 0)
  | held (holder : Caller) (inside : (state.phase holder).inside = true)
      (alone : ∀ caller, caller ≠ holder → (state.phase caller).inside = false)
      (initialization :
        state.gate.initializationInProgress = decide (state.phase holder = .initializing))
      (teardowns :
        state.gate.teardownsInProgress = if state.phase holder = .initializing then 0 else 1)

theorem Fenced.alone (fenced : state.Fenced) {first second : Caller}
    (firstInside : (state.phase first).inside = true)
    (secondInside : (state.phase second).inside = true) : first = second := by
  cases fenced with
  | free outside => simp [outside] at firstInside
  | held holder _ alone =>
      have unique : ∀ caller, (state.phase caller).inside = true → caller = holder := by
        intro caller inside
        by_contra distinct
        simp [alone caller distinct] at inside
      rw [unique first firstInside, unique second secondInside]

omit [DecidableEq Caller] in
/-- Whoever is inside keeps both waits from ending well. -/
theorem Fenced.free_of_ready (fenced : state.Fenced)
    (initialization : state.gate.initializationInProgress = false)
    (teardowns : state.gate.teardownsInProgress = 0) :
    ∀ caller, (state.phase caller).inside = false := by
  cases fenced with
  | free outside => exact outside
  | held holder _ _ initializing tearing =>
      rw [initialization] at initializing
      rw [teardowns] at tearing
      by_cases initializes : state.phase holder = .initializing <;>
        simp [initializes] at initializing tearing

/-- A caller outside stays outside. -/
theorem Fenced.wait (fenced : state.Fenced) (outside : (state.phase caller).inside = false)
    (waits : phase.inside = false)
    (initialization : gate.initializationInProgress = state.gate.initializationInProgress)
    (teardowns : gate.teardownsInProgress = state.gate.teardownsInProgress) :
    (state.moveTo caller phase gate).Fenced := by
  have others : ∀ other, (state.phase other).inside = false →
      ((state.moveTo caller phase gate).phase other).inside = false := by
    intro other apart
    by_cases same : other = caller
    · rw [same, moveTo_self, waits]
    · rw [moveTo_other same, apart]
  cases fenced with
  | free outside initializing tearing =>
      apply Fenced.free
      · exact fun other => others other (outside other)
      · rw [moveTo_gate, initialization, initializing]
      · rw [moveTo_gate, teardowns, tearing]
  | held holder inside alone initializing tearing =>
      have distinct : holder ≠ caller := by
        rintro rfl
        simp [outside] at inside
      apply Fenced.held holder
      · rw [moveTo_other distinct, inside]
      · exact fun other apart => others other (alone other apart)
      · rw [moveTo_gate, moveTo_other distinct, initialization, initializing]
      · rw [moveTo_gate, moveTo_other distinct, teardowns, tearing]

theorem Fenced.enter (outside : ∀ other, (state.phase other).inside = false)
    (inside : phase.inside = true)
    (initialization : gate.initializationInProgress = decide (phase = .initializing))
    (teardowns : gate.teardownsInProgress = if phase = .initializing then 0 else 1) :
    (state.moveTo caller phase gate).Fenced := by
  apply Fenced.held caller
  · rw [moveTo_self, inside]
  · intro other distinct
    rw [moveTo_other distinct, outside other]
  · rw [moveTo_gate, moveTo_self, initialization]
  · rw [moveTo_gate, moveTo_self, teardowns]

/-- The caller inside does not leave the other callers inside. -/
theorem Fenced.others_outside (fenced : state.Fenced) (inside : (state.phase caller).inside = true)
    {other : Caller} (distinct : other ≠ caller) : (state.phase other).inside = false := by
  by_contra within
  exact distinct (fenced.alone (by simpa using within) inside)

theorem Fenced.leave (fenced : state.Fenced) (inside : (state.phase caller).inside = true)
    (leaves : phase.inside = false) (initialization : gate.initializationInProgress = false)
    (teardowns : gate.teardownsInProgress = 0) : (state.moveTo caller phase gate).Fenced := by
  apply Fenced.free
  · intro other
    by_cases same : other = caller
    · rw [same, moveTo_self, leaves]
    · rw [moveTo_other same, fenced.others_outside inside same]
  · rw [moveTo_gate, initialization]
  · rw [moveTo_gate, teardowns]

/-- What the gate says of the caller inside. -/
theorem Fenced.flags (fenced : state.Fenced) (inside : (state.phase caller).inside = true) :
    state.gate.initializationInProgress = decide (state.phase caller = .initializing) ∧
      state.gate.teardownsInProgress = if state.phase caller = .initializing then 0 else 1 := by
  cases fenced with
  | free outside => simp [outside] at inside
  | held holder within alone initialization teardowns =>
      have same : caller = holder := by
        by_contra distinct
        simp [alone caller distinct] at inside
      rw [same]
      exact ⟨initialization, teardowns⟩

/-! ## Who waits -/

def awaitingTeardown (state : State Caller) : Set Caller :=
  {caller | state.phase caller = .awaitingTeardown}

theorem awaitingTeardown_keep (before : state.phase caller ≠ .awaitingTeardown)
    (after : phase ≠ .awaitingTeardown) :
    (state.moveTo caller phase gate).awaitingTeardown = state.awaitingTeardown := by
  ext other
  by_cases same : other = caller
  · simp [awaitingTeardown, same, before, after]
  · simp [awaitingTeardown, moveTo_other same]

theorem awaitingTeardown_join :
    (state.moveTo caller .awaitingTeardown gate).awaitingTeardown =
      insert caller state.awaitingTeardown := by
  ext other
  by_cases same : other = caller
  · simp [awaitingTeardown, same]
  · simp [awaitingTeardown, moveTo_other same, same]

theorem awaitingTeardown_quit (after : phase ≠ .awaitingTeardown) :
    (state.moveTo caller phase gate).awaitingTeardown = state.awaitingTeardown \ {caller} := by
  ext other
  by_cases same : other = caller
  · simp [awaitingTeardown, same, after]
  · simp [awaitingTeardown, moveTo_other same, same]

/-- The counter of the gate counts the waiting callers. -/
def Counted (state : State Caller) : Prop :=
  state.awaitingTeardown.encard = state.gate.pendingTeardowns

theorem Counted.keep (counted : state.Counted) (before : state.phase caller ≠ .awaitingTeardown)
    (after : phase ≠ .awaitingTeardown)
    (pending : gate.pendingTeardowns = state.gate.pendingTeardowns) :
    (state.moveTo caller phase gate).Counted := by
  rw [Counted, awaitingTeardown_keep before after, moveTo_gate, pending, counted]

theorem Counted.join (counted : state.Counted) (before : state.phase caller ≠ .awaitingTeardown)
    (pending : gate.pendingTeardowns = state.gate.pendingTeardowns + 1) :
    (state.moveTo caller .awaitingTeardown gate).Counted := by
  have absent : caller ∉ state.awaitingTeardown := before
  rw [Counted, awaitingTeardown_join, Set.encard_insert_of_notMem absent, counted, moveTo_gate,
    pending, Nat.cast_add, Nat.cast_one]

omit [DecidableEq Caller] in
theorem Counted.pending_pos (counted : state.Counted)
    (awaits : state.phase caller = .awaitingTeardown) : 0 < state.gate.pendingTeardowns := by
  have member : caller ∈ state.awaitingTeardown := awaits
  have positive := Set.encard_pos.mpr ⟨caller, member⟩
  rw [counted] at positive
  exact_mod_cast positive

theorem Counted.quit (counted : state.Counted) (awaits : state.phase caller = .awaitingTeardown)
    (after : phase ≠ .awaitingTeardown)
    (pending : gate.pendingTeardowns = state.gate.pendingTeardowns - 1) :
    (state.moveTo caller phase gate).Counted := by
  have member : caller ∈ state.awaitingTeardown := awaits
  have rest := Set.encard_sdiff_singleton_add_one member
  have positive := counted.pending_pos awaits
  obtain ⟨fewer, split⟩ := Nat.exists_eq_add_one.mpr positive
  rw [counted, split, Nat.cast_add, Nat.cast_one] at rest
  rw [Counted, awaitingTeardown_quit after, moveTo_gate, pending, split, Nat.add_sub_cancel]
  exact ENat.add_left_injective_of_ne_top ENat.one_ne_top rest

end State

/-! ## What every section keeps -/

namespace NativeRuntimeGate

theorem initializationReady_free (ready : gate.initializationReady = true)
    (healthy : gate.quarantined = false) :
    gate.initializationInProgress = false ∧ gate.teardownsInProgress = 0 := by
  simp only [initializationReady, healthy, Bool.false_or, Bool.and_eq_true, Bool.not_eq_true',
    beq_iff_eq] at ready
  exact ⟨ready.1.1, ready.2⟩

theorem teardownReady_free (ready : gate.teardownReady = true)
    (healthy : gate.quarantined = false) :
    gate.initializationInProgress = false ∧ gate.teardownsInProgress = 0 := by
  simpa [teardownReady, healthy] using ready

theorem finishTeardown_quarantined (completed : Bool) (gate : NativeRuntimeGate) :
    (gate.finishTeardown completed).quarantined = (gate.quarantined || !completed) := by
  cases completed with
  | true =>
      by_cases held : gate.teardownsInProgress = 0 <;> simp [finishTeardown, held]
  | false => simp [finishTeardown]

theorem beginTeardown_cases (available : Bool) (gate : NativeRuntimeGate) :
    (gate.quarantined = true ∧ gate.beginTeardown available =
        ({ gate with pendingTeardowns := gate.pendingTeardowns - 1 }, .quarantined)) ∨
      (gate.quarantined = false ∧ available = false ∧ gate.beginTeardown available =
        ({ gate with pendingTeardowns := gate.pendingTeardowns - 1 }, .contended)) ∨
      (gate.quarantined = false ∧ available = true ∧ gate.beginTeardown available =
        ({ gate with
            pendingTeardowns := gate.pendingTeardowns - 1
            teardownsInProgress := gate.teardownsInProgress + 1 }, .granted)) := by
  cases available <;> cases quarantined : gate.quarantined <;> simp [beginTeardown, quarantined]

theorem healthy_of_not_ready (unready : gate.teardownReady = false) :
    gate.quarantined = false ∧
      (gate.initializationInProgress = true ∨ gate.teardownsInProgress ≠ 0) := by
  simp only [teardownReady, Bool.or_eq_false_iff, Bool.and_eq_false_iff, Bool.not_eq_false',
    beq_eq_false_iff_ne] at unready
  exact unready

end NativeRuntimeGate

namespace State

structure Sound (state : State Caller) : Prop where
  fenced : state.Fenced
  abandoned : ∀ caller, state.phase caller = .abandoned → state.gate.quarantined = true
  counted : state.Counted

theorem abandoned_keep
    (abandoned : ∀ caller, state.phase caller = .abandoned → state.gate.quarantined = true)
    (completed : phase ≠ .abandoned) (quarantined : gate.quarantined = state.gate.quarantined) :
    ∀ other, (state.moveTo caller phase gate).phase other = .abandoned →
      (state.moveTo caller phase gate).gate.quarantined = true := by
  intro other held
  by_cases same : other = caller
  · rw [same, moveTo_self] at held
    exact absurd held completed
  · rw [moveTo_other same] at held
    rw [moveTo_gate, quarantined, abandoned other held]

theorem Sound.admitInitialization (sound : state.Sound)
    (before : state.phase caller = .outside ∨ state.phase caller = .awaitingInitialization)
    {available : Bool} (ready : available = true → state.gate.initializationReady = true) :
    (state.admitInitialization caller available).1.Sound := by
  have outside : (state.phase caller).inside = false := by
    rcases before with before | before <;> rw [before] <;> rfl
  have elsewhere : state.phase caller ≠ .awaitingTeardown := by
    rcases before with before | before <;> rw [before] <;> decide
  by_cases refused : (!available || state.gate.quarantined) = true
  · have same : (state.admitInitialization caller available).1 =
        state.moveTo caller .outside state.gate := by
      simp [State.admitInitialization, NativeRuntimeGate.beginInitialization, refused]
    rw [same]
    exact ⟨sound.fenced.wait outside rfl rfl rfl,
      abandoned_keep sound.abandoned (by decide) rfl,
      sound.counted.keep elsewhere (by decide) rfl⟩
  · have entered : (state.admitInitialization caller available).1 =
        state.moveTo caller .initializing
          { state.gate with initializationInProgress := true } := by
      simp [State.admitInitialization, NativeRuntimeGate.beginInitialization, refused]
    simp only [Bool.or_eq_true, Bool.not_eq_true', not_or, Bool.not_eq_false,
      Bool.not_eq_true] at refused
    obtain ⟨initialization, teardowns⟩ :=
      NativeRuntimeGate.initializationReady_free (ready refused.1) refused.2
    rw [entered]
    exact ⟨Fenced.enter (sound.fenced.free_of_ready initialization teardowns) rfl rfl teardowns,
      abandoned_keep sound.abandoned (by decide) rfl,
      sound.counted.keep elsewhere (by decide) rfl⟩

/-- Announcing a teardown and waiting, if only for a moment. -/
theorem Sound.join (sound : state.Sound) (outside : state.phase caller = .outside) :
    (state.moveTo caller .awaitingTeardown state.gate.announceTeardown).Sound where
  fenced := sound.fenced.wait (by rw [outside]; rfl) rfl rfl rfl
  abandoned := abandoned_keep sound.abandoned (by decide) rfl
  counted := sound.counted.join (by rw [outside]; decide) rfl

theorem Sound.admitTeardown (sound : state.Sound) (awaits : state.phase caller = .awaitingTeardown)
    {available : Bool} (ready : available = true → state.gate.teardownReady = true) :
    (state.admitTeardown caller available).1.Sound := by
  have outside : (state.phase caller).inside = false := by
    rw [awaits]
    rfl
  rcases NativeRuntimeGate.beginTeardown_cases available state.gate with
    ⟨-, refused⟩ | ⟨-, -, refused⟩ | ⟨healthy, free, granted⟩
  · simp only [State.admitTeardown, refused]
    exact ⟨sound.fenced.wait outside rfl rfl rfl, abandoned_keep sound.abandoned (by decide) rfl,
      sound.counted.quit awaits (by decide) rfl⟩
  · simp only [State.admitTeardown, refused]
    exact ⟨sound.fenced.wait outside rfl rfl rfl, abandoned_keep sound.abandoned (by decide) rfl,
      sound.counted.quit awaits (by decide) rfl⟩
  · obtain ⟨initialization, teardowns⟩ :=
      NativeRuntimeGate.teardownReady_free (ready free) healthy
    have alone := sound.fenced.free_of_ready initialization teardowns
    simp only [State.admitTeardown, granted]
    exact ⟨Fenced.enter alone rfl initialization (by simp [teardowns]),
      abandoned_keep sound.abandoned (by decide) rfl, sound.counted.quit awaits (by decide) rfl⟩

theorem admitTeardown_announced (available : Bool) :
    { state with gate := state.gate.announceTeardown }.admitTeardown caller available =
      (state.moveTo caller .awaitingTeardown state.gate.announceTeardown).admitTeardown
        caller available := by
  simp only [State.admitTeardown, moveTo, Function.update_idem]
  rfl

theorem Sound.leaveInitialization (sound : state.Sound)
    (initializing : state.phase caller = .initializing)
    (finished : gate = { state.gate with initializationInProgress := false }) :
    (state.moveTo caller .outside gate).Sound := by
  have inside : (state.phase caller).inside = true := by
    rw [initializing]
    rfl
  have teardowns := (sound.fenced.flags inside).2
  rw [if_pos initializing] at teardowns
  rw [finished]
  exact ⟨sound.fenced.leave inside rfl rfl teardowns,
    abandoned_keep sound.abandoned (by decide) rfl,
    sound.counted.keep (by rw [initializing]; decide) (by decide) rfl⟩

theorem Sound.finishTeardown (sound : state.Sound) (tearing : state.phase caller = .tearingDown)
    (completed : Bool) :
    (state.moveTo caller (if completed then .outside else .abandoned)
      (state.gate.finishTeardown completed)).Sound := by
  have inside : (state.phase caller).inside = true := by
    rw [tearing]
    rfl
  have elsewhere : state.phase caller ≠ .awaitingTeardown := by
    rw [tearing]
    decide
  obtain ⟨initialization, teardowns⟩ := sound.fenced.flags inside
  rw [tearing] at initialization teardowns
  cases completed with
  | true =>
      have finished : state.gate.finishTeardown true =
          { state.gate with teardownsInProgress := state.gate.teardownsInProgress - 1 } := by
        simp [NativeRuntimeGate.finishTeardown, teardowns]
      rw [finished]
      exact ⟨sound.fenced.leave inside rfl initialization (by simp [teardowns]),
        abandoned_keep sound.abandoned (by decide) rfl,
        sound.counted.keep elsewhere (by decide) rfl⟩
  | false =>
      refine ⟨?fenced, ?abandoned, sound.counted.keep elsewhere (by decide) rfl⟩
      case fenced =>
        apply Fenced.held caller
        · rw [moveTo_self]
          rfl
        · intro other distinct
          rw [moveTo_other distinct]
          exact sound.fenced.others_outside inside distinct
        · rw [moveTo_self]
          exact initialization
        · rw [moveTo_self]
          exact teardowns
      case abandoned => exact fun _ _ => rfl

theorem Sound.step (sound : state.Sound) (event : Event Caller) : (state.step event).Sound := by
  cases event with
  | beginInitializationFor caller =>
      simp only [State.step, perform]
      split
      next outside =>
        split
        next ready => exact sound.admitInitialization (.inl outside) fun _ => ready
        next =>
          exact ⟨sound.fenced.wait (by rw [outside]; rfl) rfl rfl rfl,
            abandoned_keep sound.abandoned (by decide) rfl,
            sound.counted.keep (by rw [outside]; decide) (by decide) rfl⟩
      next => exact sound
  | beginTeardownUntil caller =>
      simp only [State.step, perform]
      split
      next outside =>
        split
        next ready =>
          rw [admitTeardown_announced]
          exact (sound.join outside).admitTeardown moveTo_self fun _ => ready
        next => exact sound.join outside
      next => exact sound
  | wake caller expired =>
      simp only [State.step, perform]
      split
      next awaits =>
        split
        next => exact sound.admitInitialization (.inr awaits) id
        next => exact sound
      next awaits =>
        split
        next => exact sound.admitTeardown awaits id
        next => exact sound
      next => exact sound
  | finishInitialization caller =>
      simp only [State.step, perform]
      split
      next initializing => exact sound.leaveInitialization initializing rfl
      next => exact sound
  | cancelInitialization caller =>
      simp only [State.step, perform]
      split
      next initializing => exact sound.leaveInitialization initializing rfl
      next => exact sound
  | quarantineInitialization =>
      obtain ⟨fenced, abandoned, counted⟩ := sound
      refine ⟨?_, fun _ _ => rfl, counted⟩
      cases fenced with
      | free outside initialization teardowns => exact .free outside initialization teardowns
      | held holder inside alone initialization teardowns =>
          exact .held holder inside alone initialization teardowns
  | finishTeardown caller completed =>
      simp only [State.step, perform]
      split
      next tearing => exact sound.finishTeardown tearing completed
      next => exact sound

omit [DecidableEq Caller] in
theorem sound_initial : ({} : State Caller).Sound where
  fenced := .free (fun _ => rfl) rfl rfl
  abandoned := nofun
  counted := by simp [Counted, awaitingTeardown]

theorem run_sound (events : List (Event Caller)) : (run State.step events {}).Sound :=
  run_preserves State.step State.Sound (fun event _ sound => sound.step event) events sound_initial

/-! ## After an abandoned call -/

/-- The event leaves a vendor call behind. -/
def Abandons : Event Caller → State Caller → Prop
  | .quarantineInitialization, _ => True
  | .finishTeardown caller false, state => state.phase caller = .tearingDown
  | _, _ => False

theorem quarantined_of_abandons {event : Event Caller} (abandons : Abandons event state) :
    (state.step event).gate.quarantined = true := by
  cases event with
  | quarantineInitialization => rfl
  | finishTeardown caller completed =>
      cases completed with
      | true => exact abandons.elim
      | false =>
          have tearing : state.phase caller = .tearingDown := abandons
          simp only [State.step, perform, tearing]
          rfl
  | _ => exact abandons.elim

/-- A section that ends in a quarantined runtime and lets nobody in. -/
def Shut (outcome : State Caller × Option Answer) : Prop :=
  outcome.1.gate.quarantined = true ∧ ∀ reply, outcome.2 = some reply → reply.positive = false

omit [DecidableEq Caller] in
theorem Shut.silent (quarantined : state.gate.quarantined = true) : Shut (state, none) :=
  ⟨quarantined, nofun⟩

omit [DecidableEq Caller] in
theorem Shut.tells {reply : Answer} (quarantined : state.gate.quarantined = true)
    (refuses : reply.positive = false) : Shut (state, some reply) :=
  ⟨quarantined, fun _ told => Option.some.inj told ▸ refuses⟩

theorem shut_admitInitialization (quarantined : state.gate.quarantined = true)
    (available : Bool) : Shut (state.admitInitialization caller available) := by
  have refused : state.gate.beginInitialization available = (state.gate, false) := by
    simp [NativeRuntimeGate.beginInitialization, quarantined]
  simp only [State.admitInitialization, refused]
  exact Shut.tells quarantined rfl

theorem shut_admitTeardown (quarantined : state.gate.quarantined = true) (available : Bool) :
    Shut (state.admitTeardown caller available) := by
  rcases NativeRuntimeGate.beginTeardown_cases available state.gate with
    ⟨-, refused⟩ | ⟨healthy, -⟩ | ⟨healthy, -⟩
  · simp only [State.admitTeardown, refused]
    exact Shut.tells quarantined rfl
  · exact absurd (quarantined.symm.trans healthy) (by decide)
  · exact absurd (quarantined.symm.trans healthy) (by decide)

/-- A quarantined runtime stays so, and lets nobody in. -/
theorem shut_perform (quarantined : state.gate.quarantined = true) (event : Event Caller) :
    Shut (state.perform event) := by
  cases event with
  | beginInitializationFor caller =>
      simp only [perform]
      split
      next =>
        split
        next => exact shut_admitInitialization quarantined true
        next => exact Shut.silent quarantined
      next => exact Shut.silent quarantined
  | beginTeardownUntil caller =>
      simp only [perform]
      split
      next =>
        split
        next =>
          have announced : (state.moveTo caller .awaitingTeardown
              state.gate.announceTeardown).gate.quarantined = true := quarantined
          rw [admitTeardown_announced]
          exact shut_admitTeardown announced true
        next => exact Shut.silent quarantined
      next => exact Shut.silent quarantined
  | wake caller expired =>
      simp only [perform]
      split
      next =>
        split
        next => exact shut_admitInitialization quarantined _
        next => exact Shut.silent quarantined
      next =>
        split
        next => exact shut_admitTeardown quarantined _
        next => exact Shut.silent quarantined
      next => exact Shut.silent quarantined
  | finishInitialization caller =>
      simp only [perform]
      split
      next =>
        apply Shut.tells
        · exact quarantined
        · simp [Answer.positive, NativeRuntimeGate.finishInitialization, quarantined]
      next => exact Shut.silent quarantined
  | cancelInitialization caller =>
      simp only [perform]
      split
      next => exact Shut.silent quarantined
      next => exact Shut.silent quarantined
  | quarantineInitialization => exact Shut.silent rfl
  | finishTeardown caller completed =>
      simp only [perform]
      split
      next =>
        apply Shut.silent
        rw [moveTo_gate, NativeRuntimeGate.finishTeardown_quarantined, quarantined, Bool.true_or]
      next => exact Shut.silent quarantined

theorem quarantined_after {past later : List (Event Caller)} {fault : Event Caller}
    (abandons : Abandons fault (run State.step past {})) :
    (run State.step (past ++ fault :: later) {}).gate.quarantined = true := by
  rw [run_append, run_cons]
  apply run_preserves State.step (fun state => state.gate.quarantined = true)
  · exact fun event _ quarantined => (shut_perform quarantined event).1
  · exact quarantined_of_abandons abandons

/-! ## The answer `contended` -/

theorem not_contended_admitInitialization {available : Bool} :
    (state.admitInitialization caller available).2 ≠ some (.teardown .contended) := by
  simp [State.admitInitialization]

theorem contended_admitTeardown {available : Bool}
    (told : (state.admitTeardown caller available).2 = some (.teardown .contended)) :
    available = false ∧ state.gate.quarantined = false := by
  rcases NativeRuntimeGate.beginTeardown_cases available state.gate with
    ⟨-, outcome⟩ | ⟨healthy, unavailable, -⟩ | ⟨-, -, outcome⟩
  · simp [State.admitTeardown, outcome] at told
  · exact ⟨unavailable, healthy⟩
  · simp [State.admitTeardown, outcome] at told

/-- Only a waiting caller whose deadline has passed is told so, and its predicate is false. -/
theorem contended_cases {event : Event Caller}
    (told : state.answer event = some (.teardown .contended)) :
    ∃ caller, event = .wake caller true ∧ state.phase caller = .awaitingTeardown ∧
      state.gate.teardownReady = false := by
  cases event with
  | beginInitializationFor caller =>
      simp only [State.answer, perform] at told
      split at told
      next =>
        split at told
        next => exact absurd told not_contended_admitInitialization
        next => contradiction
      next => contradiction
  | beginTeardownUntil caller =>
      simp only [State.answer, perform] at told
      split at told
      next =>
        split at told
        next => exact absurd (contended_admitTeardown told).1 (by decide)
        next => contradiction
      next => contradiction
  | wake caller expired =>
      simp only [State.answer, perform] at told
      split at told
      next =>
        split at told
        next => exact absurd told not_contended_admitInitialization
        next => contradiction
      next awaits =>
        split at told
        next looks =>
          have unready := (contended_admitTeardown told).1
          rw [unready, Bool.false_or] at looks
          rw [looks]
          exact ⟨caller, rfl, awaits, unready⟩
        next => contradiction
      next => contradiction
  | finishInitialization caller =>
      simp only [State.answer, perform] at told
      split at told
      next => simp at told
      next => contradiction
  | cancelInitialization caller =>
      simp only [State.answer, perform] at told
      split at told <;> contradiction
  | quarantineInitialization => contradiction
  | finishTeardown caller completed =>
      simp only [State.answer, perform] at told
      split at told <;> contradiction

omit [DecidableEq Caller] in
/-- A fence that is taken has somebody inside, at work while the runtime is healthy. -/
theorem Sound.peer (sound : state.Sound) (unready : state.gate.teardownReady = false) :
    ∃ peer, state.phase peer = .initializing ∨ state.phase peer = .tearingDown := by
  obtain ⟨healthy, taken⟩ := NativeRuntimeGate.healthy_of_not_ready unready
  cases sound.fenced with
  | free _ initialization teardowns => simp [initialization, teardowns] at taken
  | held holder inside =>
      have present := sound.abandoned holder
      rw [healthy] at present
      refine ⟨holder, ?_⟩
      cases stage : state.phase holder with
      | initializing => exact .inl rfl
      | tearingDown => exact .inr rfl
      | abandoned => exact absurd (present stage) (by decide)
      | outside | awaitingInitialization | awaitingTeardown =>
          rw [stage] at inside
          exact absurd inside (by decide)

end State

/-! ## Any interleaving -/

/-- What holds after the events of a run and of what is answered next. -/
structure Guarded (events : List (Event Caller)) (state : State Caller) : Prop where
  alone : ∀ first second, (state.phase first).inside = true →
    (state.phase second).inside = true → first = second
  closed : ∀ past fault later, events = past ++ fault :: later →
    State.Abandons fault (run State.step past {}) →
    ∀ event reply, state.answer event = some reply → reply.positive = false
  counted : {caller | state.phase caller = .awaitingTeardown}.encard = state.gate.pendingTeardowns
  decrements : ∀ caller, state.phase caller = .awaitingTeardown → 0 < state.gate.pendingTeardowns
  drained : (∀ caller, state.phase caller ≠ .awaitingTeardown) → state.gate.pendingTeardowns = 0
  contended : ∀ event, state.answer event = some (.teardown .contended) →
    ∃ caller, event = .wake caller true ∧ state.phase caller = .awaitingTeardown ∧
      state.gate.quarantined = false ∧
      ∃ peer, peer ≠ caller ∧ (state.phase peer = .initializing ∨ state.phase peer = .tearingDown)

theorem runtimeGate_guarded (events : List (Event Caller)) :
    Guarded events (run State.step events {}) := by
  have sound := State.run_sound events
  exact {
    alone := fun first second => sound.fenced.alone
    closed := by
      rintro past fault later rfl abandons event
      exact (State.shut_perform (State.quarantined_after abandons) event).2
    counted := sound.counted
    decrements := fun caller => sound.counted.pending_pos
    drained := by
      intro nobody
      have none : (run State.step events {}).awaitingTeardown = ∅ :=
        Set.eq_empty_of_forall_notMem nobody
      have counted := sound.counted
      rw [State.Counted, none, Set.encard_empty] at counted
      exact_mod_cast counted.symm
    contended := by
      intro event told
      obtain ⟨caller, rfl, awaits, unready⟩ := State.contended_cases told
      obtain ⟨peer, working⟩ := sound.peer unready
      refine ⟨caller, rfl, awaits, (NativeRuntimeGate.healthy_of_not_ready unready).1, peer, ?_,
        working⟩
      rintro rfl
      simp [awaits] at working }

end UmbraHost.Amf.RuntimeGate
