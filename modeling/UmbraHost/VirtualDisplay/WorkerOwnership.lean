import UmbraHost.VirtualDisplay.MonitorRegistry
import UmbraHost.Tables.Holders

/-! # Who owns a recovery worker

A worker that has not been joined is in the table, or one thread has taken it out and joins
it.  That holds across all interleavings of the callers, the workers and the reaper, and the
rest follows: a key has one worker at a time, nobody joins itself, and a shutdown leaves
nothing behind. -/

namespace UmbraHost.VirtualDisplay.MonitorRegistry

open UmbraHost.Transition UmbraHost.Tables

variable {Key : Type u} {Thread : Type v}

/-! ## Threads of the registry -/

def Activity.holdsGate : Activity Key Thread → Bool
  | .publishing _ | .stoppingAll _ => true
  | _ => false

/-- The thread that the thread joins. -/
def Activity.joins : Activity Key Thread → Option Thread
  | .joining _ target _ | .joiningReaper target | .joiningDrained target => some target
  | _ => none

/-- A worker that has not been joined. -/
def Started.unjoined (started : Started Key) : Bool :=
  started.key.isSome && started.phase ≠ .joined

/-- What may become of a started thread. -/
structure Started.Leads (before after : Started Key) : Prop where
  key : after.key = before.key
  stop : before.stopRequested = true → after.stopRequested = true
  past : before.phase ≠ .running → after.phase ≠ .running

namespace Started.Leads

theorem refl (started : Started Key) : started.Leads started :=
  ⟨rfl, id, id⟩

theorem stop_if (chosen : Bool) (started : Started Key) :
    started.Leads (if chosen then { started with stopRequested := true } else started) := by
  cases chosen with
  | true => exact ⟨rfl, fun _ => rfl, id⟩
  | false => exact refl started

theorem phase_if {phase : Phase} (past : phase ≠ .running) (chosen : Prop) [Decidable chosen]
    (started : Started Key) :
    started.Leads (if chosen then { started with phase } else started) := by
  split
  · exact ⟨rfl, id, fun _ => past⟩
  · exact refl started

end Started.Leads

namespace State

section

/-- The thread is the reaper, or was it. -/
def IsReaper (state : State Key Thread) (thread : Thread) : Prop :=
  ∃ started, state.started thread = some started ∧ started.key = none

def unjoined (state : State Key Thread) (thread : Thread) : Bool :=
  (state.started thread).any Started.unjoined

/-- The key of a worker. -/
def keyOf (state : State Key Thread) (thread : Thread) : Option Key :=
  (state.started thread).bind (·.key)

variable {state : State Key Thread} {thread : Thread}

/-- A reaper never counts among the workers. -/
theorem unjoined_of_reaper {phase : Phase} (reaper : state.IsReaper thread)
    (started : Started Key) (found : state.started thread = some started) :
    { started with phase }.unjoined = started.unjoined := by
  obtain ⟨known, same, keyless⟩ := reaper
  obtain rfl := Option.some.inj (found.symm.trans same)
  simp [Started.unjoined, keyless]

variable {change : Thread → Started Key → Started Key}

theorem started_mapStarted {started : Started Key} (found : state.started thread = some started) :
    (state.mapStarted change).started thread = some (change thread started) := by
  simp [State.mapStarted, found]

theorem of_started_mapStarted {later : Started Key}
    (found : (state.mapStarted change).started thread = some later) :
    ∃ started, state.started thread = some started ∧ change thread started = later :=
  Option.map_eq_some_iff.mp found

theorem keyOf_mapStarted
    (leads : ∀ thread (started : Started Key), started.Leads (change thread started)) :
    (state.mapStarted change).keyOf = state.keyOf := by
  funext thread
  unfold State.keyOf
  cases found : state.started thread with
  | none => simp [State.mapStarted, found]
  | some started =>
      rw [started_mapStarted found]
      exact (leads thread started).key

end

/-! ## What a thread relies on -/

variable [DecidableEq Thread]

/-- The thread is in `join_all`, past the reaper. -/
structure Closing (state : State Key Thread) (thread : Thread) : Prop where
  published : state.shutdownPublished = true
  unreaped : state.reaper = none
  apart : state.ownsEntry thread = false

/-- What a thread relies on while it is about to do something. -/
def Fits (state : State Key Thread) (thread : Thread) : Activity Key Thread → Prop
  | .publishing _ => state.schedulingMutex = some thread ∧ state.shutdownRequested = false
  | .stoppingAll _ => state.schedulingMutex = some thread ∧ state.shutdownRequested = true
  | .joining key worker reaps =>
    worker ≠ thread ∧ (reaps = true → state.IsReaper thread) ∧
      ∃ started, state.started worker = some started ∧ started.key = some key ∧
        if reaps then started.phase ≠ .running else started.stopRequested = true
  | .finishingTransition _ reaps => reaps = true → state.IsReaper thread
  | .checkingOwner => state.shutdownPublished = true
  | .takingReaper =>
    state.shutdownPublished = true ∧ state.reaper ≠ some thread ∧ state.ownsEntry thread = false
  | .joiningReaper reaper => state.Closing thread ∧ reaper ≠ thread ∧ state.IsReaper reaper
  | .awaitingTransitions => state.Closing thread
  | .draining => state.Closing thread ∧ state.transitions = ∅
  | .joiningDrained worker =>
    state.Closing thread ∧ state.transitions = ∅ ∧ worker ≠ thread ∧
      ∃ started, state.started worker = some started ∧ started.stopRequested = true ∧
        started.key ≠ none
  | .reaping => state.IsReaper thread
  | .idle | .waiting _ | .gating _ | .shuttingDown _ => True

/-- What a thread relies on, kept by a step of another. -/
structure Keeps (thread : Thread) (before after : State Key Thread) : Prop where
  published : before.shutdownPublished = true → after.shutdownPublished = true
  started : ∀ other started, before.started other = some started →
    ∃ later, after.started other = some later ∧ started.Leads later
  owned : before.shutdownPublished = true → before.ownsEntry thread = false →
    after.ownsEntry thread = false
  reaper : before.shutdownPublished = true → ∀ reaper, after.reaper = some reaper →
    before.reaper = some reaper
  transitions : before.shutdownPublished = true → before.reaper = none →
    after.transitions ⊆ before.transitions

variable {state before after : State Key Thread} {thread other : Thread} {key : Key}
  {activity : Activity Key Thread}

namespace Keeps

theorem isReaper (keeps : Keeps thread before after) {other : Thread}
    (isReaper : before.IsReaper other) : after.IsReaper other := by
  obtain ⟨started, found, keyless⟩ := isReaper
  obtain ⟨later, found, leads⟩ := keeps.started other started found
  exact ⟨later, found, leads.key.trans keyless⟩

theorem closing (keeps : Keeps thread before after) (closing : before.Closing thread) :
    after.Closing thread where
  published := keeps.published closing.published
  unreaped := by
    apply Option.eq_none_iff_forall_ne_some.mpr
    intro reaper present
    have earlier := keeps.reaper closing.published reaper present
    rw [closing.unreaped] at earlier
    cases earlier
  apart := keeps.owned closing.published closing.apart

theorem settled (keeps : Keeps thread before after) (closing : before.Closing thread)
    (none : before.transitions = ∅) : after.transitions = ∅ := by
  have within := keeps.transitions closing.published closing.unreaped
  rw [none] at within
  exact Finset.subset_empty.mp within

theorem fits (keeps : Keeps thread before after)
    (gate : activity.holdsGate = true → before.schedulingMutex = some thread →
      after.schedulingMutex = some thread ∧ after.shutdownRequested = before.shutdownRequested)
    (fits : before.Fits thread activity) : after.Fits thread activity := by
  cases activity with
  | idle | waiting | gating | shuttingDown => trivial
  | publishing =>
      obtain ⟨held, latch⟩ := gate rfl fits.1
      exact ⟨held, latch.trans fits.2⟩
  | stoppingAll =>
      obtain ⟨held, latch⟩ := gate rfl fits.1
      exact ⟨held, latch.trans fits.2⟩
  | joining key worker reaps =>
      obtain ⟨apart, reaper, started, found, keyed, ready⟩ := fits
      obtain ⟨later, found, leads⟩ := keeps.started worker started found
      refine ⟨apart, fun reaping => keeps.isReaper (reaper reaping), later, found,
        leads.key.trans keyed, ?_⟩
      cases reaps with
      | true => exact leads.past ready
      | false => exact leads.stop ready
  | finishingTransition => exact fun reaping => keeps.isReaper (fits reaping)
  | checkingOwner => exact keeps.published fits
  | takingReaper =>
      obtain ⟨published, other, apart⟩ := fits
      exact ⟨keeps.published published, fun same => other (keeps.reaper published thread same),
        keeps.owned published apart⟩
  | joiningReaper =>
      obtain ⟨closing, apart, reaper⟩ := fits
      exact ⟨keeps.closing closing, apart, keeps.isReaper reaper⟩
  | awaitingTransitions => exact keeps.closing fits
  | draining => exact ⟨keeps.closing fits.1, keeps.settled fits.1 fits.2⟩
  | joiningDrained worker =>
      obtain ⟨closing, none, apart, started, found, stop, keyed⟩ := fits
      obtain ⟨later, found, leads⟩ := keeps.started worker started found
      refine ⟨keeps.closing closing, keeps.settled closing none, apart, later, found,
        leads.stop stop, ?_⟩
      rw [leads.key]
      exact keyed
  | reaping => exact keeps.isReaper fits

theorem refl : Keeps other state state where
  published := id
  started := fun _ started found => ⟨started, found, .refl started⟩
  owned := fun _ => id
  reaper := fun _ _ => id
  transitions := fun _ _ => Finset.Subset.refl _

theorem moveTo (keeps : Keeps other before after) :
    Keeps other before (after.moveTo thread activity) :=
  { keeps with }

theorem mapStarted {change : Thread → Started Key → Started Key}
    (leads : ∀ thread (started : Started Key), started.Leads (change thread started)) :
    Keeps other state (state.mapStarted change) :=
  { (refl : Keeps other state state) with
    started := fun worker started found =>
      ⟨change worker started, started_mapStarted found, leads worker started⟩ }

end Keeps

/-- A thread with a new id starts. -/
theorem Keeps.start {started : Started Key} {reaper : Option Thread}
    {entries : Table Key (Entry Thread)} (unpublished : state.shutdownPublished = false)
    (fresh : state.started thread = none) :
    Keeps other state { state with
      entries, reaper, started := Function.update state.started thread (some started) } where
  published := id
  started := by
    intro worker known found
    refine ⟨known, ?_, .refl known⟩
    rw [← found]
    apply Function.update_of_ne
    rintro rfl
    rw [fresh] at found
    cases found
  owned := by simp [unpublished]
  reaper := by simp [unpublished]
  transitions := by simp [unpublished]

@[simp] theorem moveTo_self : (state.moveTo thread activity).activity thread = activity :=
  Function.update_self ..

theorem moveTo_of_ne (apart : other ≠ thread) :
    (state.moveTo thread activity).activity other = state.activity other :=
  Function.update_of_ne apart ..

theorem claims_eq :
    (fun other => ((state.moveTo thread activity).activity other).claim) =
      Function.update (fun other => (state.activity other).claim) thread activity.claim := by
  funext other
  by_cases here : other = thread
  · rw [here, moveTo_self, Function.update_self]
  · rw [moveTo_of_ne here, Function.update_of_ne here]

theorem claims_moveTo {marked : Key → Bool}
    (claim : activity.claim = (state.activity thread).claim)
    (claims : Exclusive marked fun other => (state.activity other).claim) :
    Exclusive marked fun other => ((state.moveTo thread activity).activity other).claim := by
  rw [claims_eq, claim]
  exact (Function.update_eq_self thread fun other => (state.activity other).claim).symm ▸ claims

theorem unjoined_joined {target : Thread} :
    (state.setPhase target .joined).unjoined = Function.update state.unjoined target false := by
  funext other
  by_cases same : other = target
  · subst same
    rw [Function.update_self]
    cases found : state.started other with
    | none => simp [State.unjoined, State.setPhase, State.mapStarted, found]
    | some started =>
        simp [State.unjoined, State.setPhase, State.mapStarted, found, Started.unjoined]
  · rw [Function.update_of_ne same]
    cases found : state.started other with
    | none => simp [State.unjoined, State.setPhase, State.mapStarted, found]
    | some started => simp [State.unjoined, State.setPhase, State.mapStarted, found, same]

/-- A thread moves on and the others stay as they are. -/
theorem fits_moveTo (fits : ∀ other, state.Fits other (state.activity other))
    (own : state.Fits thread activity) :
    ∀ other, (state.moveTo thread activity).Fits other
      ((state.moveTo thread activity).activity other) := by
  intro other
  apply (Keeps.moveTo .refl).fits (fun _ held => ⟨held, rfl⟩)
  by_cases here : other = thread
  · rw [here, moveTo_self]
    exact own
  · rw [moveTo_of_ne here]
    exact fits other

section Start

variable {new : Started Key}
  (started : after.started = Function.update state.started thread (some new))
include started

theorem started_of_old {known : Started Key} (unused : state.started thread = none)
    (found : state.started other = some known) : after.started other = some known := by
  rw [started, Function.update_of_ne, found]
  rintro rfl
  rw [unused] at found
  cases found

theorem unjoined_start :
    after.unjoined = Function.update state.unjoined thread new.unjoined := by
  funext other
  by_cases same : other = thread
  · simp [State.unjoined, started, same]
  · simp [State.unjoined, started, same]

end Start

/-- What does not take part in the start of a reaper stays as it is. -/
theorem ensureReaper_spec (reaper : Thread) :
    ∃ registered started activity,
      state.ensureReaper reaper = { state with reaper := registered, started, activity } ∧
        ∀ other, other ≠ reaper → started other = state.started other ∧
          activity other = state.activity other := by
  unfold State.ensureReaper
  split
  · exact ⟨_, _, _, rfl, fun _ _ => ⟨rfl, rfl⟩⟩
  · exact ⟨_, _, _, rfl, fun _ apart => ⟨Function.update_of_ne apart .., moveTo_of_ne apart⟩⟩

/-! ## The invariant -/

variable [DecidableEq Key]

/-- The worker of a key's entry, and the worker a thread has taken. -/
def holder (state : State Key Thread) : Key ⊕ Thread → Option Thread
  | .inl key => (state.entries.lookup key).map (·.worker)
  | .inr thread => (state.activity thread).taken

/-- The threads that the registry has started are what it says they are. -/
structure Registered (state : State Key Thread) : Prop where
  entries : ∀ key entry, state.entries.lookup key = some entry →
    ∃ started, state.started entry.worker = some started ∧ started.key = some key ∧
      (entry.finished = true → started.phase ≠ .running)
  reaper : ∀ reaper, state.reaper = some reaper → state.IsReaper reaper
  /-- The reapers that the registry has let go of are to stop. -/
  reapers : ∀ thread started, state.started thread = some started → started.key = none →
    state.reaper = some thread ∨ started.stopRequested = true
  /-- Once a shutdown is published, the callbacks that still run are to stop. -/
  stopped : state.shutdownPublished = true → ∀ thread started,
    state.started thread = some started → started.key ≠ none → started.phase = .running →
      started.stopRequested = true

structure Sound (state : State Key Thread) : Prop where
  fits : ∀ thread, state.Fits thread (state.activity thread)
  latched : state.shutdownPublished = true → state.shutdownRequested = true
  registered : state.Registered
  apart : ∀ key, key ∈ state.transitions → state.entries.lookup key = none
  claims : Exclusive (fun key => decide (key ∈ state.transitions))
    (fun thread => (state.activity thread).claim)
  owners : Exclusive state.unjoined state.holder
  alone : ∀ first second, state.unjoined first = true → state.unjoined second = true →
    state.keyOf first = state.keyOf second → first = second

theorem holder_moveTo :
    (state.moveTo thread activity).holder =
      Function.update state.holder (.inr thread) activity.taken := by
  funext owner
  cases owner with
  | inl key => rw [Function.update_of_ne (by simp)]; rfl
  | inr other =>
      by_cases same : other = thread
      · subst same
        simp [State.holder, State.moveTo]
      · simp [State.holder, State.moveTo, same]

theorem owners_moveTo {marked : Thread → Bool}
    (taken : activity.taken = (state.activity thread).taken)
    (owners : Exclusive marked state.holder) :
    Exclusive marked (state.moveTo thread activity).holder := by
  rw [holder_moveTo, taken]
  exact (Function.update_eq_self (Sum.inr thread) state.holder).symm ▸ owners

/-! ## What each section keeps -/

theorem Sound.fits_keep (sound : before.Sound) (same : after.activity = before.activity)
    (gate : after.schedulingMutex = before.schedulingMutex)
    (latch : after.shutdownRequested = before.shutdownRequested)
    (keeps : ∀ other, Keeps other before after) :
    ∀ other, after.Fits other (after.activity other) := by
  intro other
  rw [same]
  exact (keeps other).fits (fun _ held => ⟨gate.trans held, latch⟩) (sound.fits other)

/-- What the thread is about to do gives it what it relies on. -/
theorem Sound.fits_at (sound : state.Sound) (now : state.activity thread = activity) :
    state.Fits thread activity :=
  now ▸ sound.fits thread

/-- The thread goes on to something else with the same transition and worker. -/
theorem Sound.moveTo {next : Activity Key Thread} (sound : state.Sound)
    (now : state.activity thread = activity) (claim : next.claim = activity.claim)
    (taken : next.taken = activity.taken) (own : state.Fits thread next) :
    (state.moveTo thread next).Sound :=
  { sound with
    fits := fits_moveTo sound.fits own
    registered := { sound.registered with }
    claims := claims_moveTo (now ▸ claim) sound.claims
    owners := owners_moveTo (now ▸ taken) sound.owners }

/-! ### Flags and phases -/

section Map

variable {change : Thread → Started Key → Started Key}
  (leads : ∀ thread (started : Started Key), started.Leads (change thread started))
include leads

theorem Registered.mapStarted (registered : state.Registered) :
    (state.mapStarted change).Registered where
  entries := by
    intro key entry present
    obtain ⟨started, found, keyed, past⟩ := registered.entries key entry present
    have later := leads entry.worker started
    exact ⟨_, started_mapStarted found, later.key.trans keyed,
      fun finished => later.past (past finished)⟩
  reaper := fun reaper present =>
    (Keeps.mapStarted leads : Keeps reaper _ _).isReaper (registered.reaper reaper present)
  reapers := by
    intro thread later found keyless
    obtain ⟨started, known, rfl⟩ := of_started_mapStarted found
    have later := leads thread started
    exact (registered.reapers thread started known (later.key ▸ keyless)).imp_right later.stop
  stopped := by
    intro published thread later found keyed running
    obtain ⟨started, known, rfl⟩ := of_started_mapStarted found
    have later := leads thread started
    have earlier : started.phase = .running := by
      by_contra past
      exact later.past past running
    exact later.stop
      (registered.stopped published thread started known (later.key ▸ keyed) earlier)

theorem Sound.mapStarted (sound : state.Sound)
    (kept : ∀ thread started, state.started thread = some started →
      (change thread started).unjoined = started.unjoined) :
    (state.mapStarted change).Sound := by
  have unjoined : (state.mapStarted change).unjoined = state.unjoined := by
    funext thread
    unfold State.unjoined
    cases found : state.started thread with
    | none => simp [State.mapStarted, found]
    | some started => simp [started_mapStarted found, kept thread started found]
  exact { sound with
    fits := sound.fits_keep rfl rfl rfl fun _ => .mapStarted leads
    registered := sound.registered.mapStarted leads
    owners := by
      rw [unjoined]
      exact sound.owners
    alone := by
      rw [unjoined, keyOf_mapStarted leads]
      exact sound.alone }

end Map

theorem Sound.stopWhere (sound : state.Sound) (chosen : Thread → Bool) :
    (state.stopWhere chosen).Sound := by
  apply sound.mapStarted (fun thread started => .stop_if (chosen thread) started)
  intro thread started found
  cases chosen thread <;> rfl

theorem Sound.setPhase {phase : Phase} (sound : state.Sound) (past : phase ≠ .running)
    (kept : ∀ started, state.started thread = some started →
      { started with phase }.unjoined = started.unjoined) :
    (state.setPhase thread phase).Sound := by
  apply sound.mapStarted (fun other started => .phase_if past (other = thread) started)
  intro other started found
  by_cases same : other = thread
  · subst same
    rw [if_pos rfl]
    exact kept started found
  · rw [if_neg same]

/-! ### Joins -/

theorem Sound.join {target : Thread} {next : Activity Key Thread} (sound : state.Sound)
    (now : state.activity thread = activity) (taken : activity.taken = some target)
    (claim : next.claim = activity.claim) (released : next.taken = none)
    (own : state.Fits thread next) : (state.join thread target next).Sound := by
  subst now
  unfold State.join
  split
  case isFalse => exact sound
  have leads : ∀ other (started : Started Key), started.Leads
      (if other = target then { started with phase := .joined } else started) :=
    fun other started => .phase_if (by decide) (other = target) started
  have keeps (other : Thread) : Keeps other state (state.setPhase target .joined) :=
    .mapStarted leads
  have within : ∀ other, (state.setPhase target .joined).unjoined other = true →
      state.unjoined other = true := by
    intro other later
    by_cases same : other = target
    · rw [unjoined_joined, same, Function.update_self] at later
      cases later
    · rwa [unjoined_joined, Function.update_of_ne same] at later
  exact { sound with
    fits := fits_moveTo (sound.fits_keep rfl rfl rfl keeps)
      ((keeps thread).fits (fun _ held => ⟨held, rfl⟩) own)
    registered := { sound.registered.mapStarted leads with }
    claims := claims_moveTo claim sound.claims
    owners := by
      have dropped := sound.owners.drop (show state.holder (.inr thread) = some target from taken)
      rw [← unjoined_joined] at dropped
      rw [holder_moveTo, released]
      exact dropped
    alone := by
      intro first second firstLater secondLater keyed
      apply sound.alone first second (within first firstLater) (within second secondLater)
      rw [← keyOf_mapStarted leads]
      exact keyed }

/-! ### The gate -/

theorem Sound.openGate (sound : state.Sound) (held : state.schedulingMutex = some thread)
    (left : (state.activity thread).holdsGate = false) : state.openGate.Sound :=
  { sound with
    fits := by
      intro other
      have keeps : Keeps other state state.openGate := { Keeps.refl with }
      apply keeps.fits _ (sound.fits other)
      intro holds here
      obtain rfl := Option.some.inj (held.symm.trans here)
      rw [left] at holds
      cases holds
    registered := { sound.registered with } }

theorem Sound.leaveGate {next : Activity Key Thread} (sound : state.Sound)
    (held : state.schedulingMutex = some thread) (now : state.activity thread = activity)
    (claim : next.claim = activity.claim) (taken : next.taken = activity.taken)
    (left : next.holdsGate = false) (own : state.Fits thread next) :
    (state.moveTo thread next).openGate.Sound :=
  (sound.moveTo now claim taken own).openGate held (by rw [moveTo_self, left])

/-- A thread takes the gate, and may close the latch behind it. -/
theorem Sound.lockGate (sound : state.Sound) (nobody : state.schedulingMutex = none)
    (thread : Thread) (latch : Bool) (kept : state.shutdownRequested = true → latch = true) :
    { state with schedulingMutex := some thread, shutdownRequested := latch }.Sound :=
  { sound with
    fits := by
      intro other
      have keeps : Keeps other state
          { state with schedulingMutex := some thread, shutdownRequested := latch } :=
        { Keeps.refl with }
      refine keeps.fits (fun _ held => ?_) (sound.fits other)
      rw [nobody] at held
      cases held
    latched := fun published => kept (sound.latched published)
    registered := { sound.registered with } }

theorem Sound.takeGate (sound : state.Sound) (waits : state.activity thread = .gating key) :
    (state.takeGate thread key).Sound := by
  unfold State.takeGate
  split
  · exact sound
  rename_i free
  split
  · exact sound.moveTo waits rfl rfl trivial
  rename_i unlatched
  have locked := sound.lockGate (by simpa using free) thread _ id
  exact locked.moveTo waits rfl rfl ⟨rfl, by simpa using unlatched⟩

theorem Sound.latch {joins : Bool} (sound : state.Sound)
    (waits : state.activity thread = .shuttingDown joins) : (state.latch thread joins).Sound := by
  unfold State.latch
  split
  · exact sound
  rename_i free
  have locked := sound.lockGate (by simpa using free) thread true fun _ => rfl
  exact locked.moveTo waits rfl rfl ⟨rfl, rfl⟩

/-! ### The table -/

theorem ownsEntry_iff : state.ownsEntry thread = true ↔
    ∃ key entry, state.entries.lookup key = some entry ∧ entry.worker = thread := by
  simp only [State.ownsEntry, List.any_eq_true, decide_eq_true_eq]
  constructor
  · rintro ⟨⟨key, entry⟩, member, same⟩
    exact ⟨key, entry, AList.mem_lookup_iff.mpr member, same⟩
  · rintro ⟨key, entry, present, same⟩
    exact ⟨⟨key, entry⟩, AList.mem_lookup_iff.mp present, same⟩

/-- The owners in the table are those of before. -/
theorem ownsEntry_of_within {entries : Table Key (Entry Thread)}
    (within : ∀ key entry, entries.lookup key = some entry →
      ∃ earlier, state.entries.lookup key = some earlier ∧ earlier.worker = entry.worker)
    (free : state.ownsEntry thread = false) :
    { state with entries }.ownsEntry thread = false := by
  apply Bool.eq_false_iff.mpr
  intro owns
  obtain ⟨key, entry, present, same⟩ := ownsEntry_iff.mp owns
  obtain ⟨earlier, known, worker⟩ := within key entry present
  rw [ownsEntry_iff.mpr ⟨key, earlier, known, worker.trans same⟩] at free
  cases free

theorem holder_erase (transitions : Finset Key) :
    { state with entries := state.entries.erase key, transitions }.holder =
      Function.update state.holder (.inl key) none := by
  funext owner
  cases owner with
  | inl other =>
      by_cases same : other = key
      · subst same
        simp [State.holder]
      · simp [State.holder, AList.lookup_erase_ne same, same]
  | inr other => simp [State.holder]

theorem marked_insert {transitions : Finset Key} :
    (fun other => decide (other ∈ insert key transitions)) =
      Function.update (fun other => decide (other ∈ transitions)) key true := by
  funext other
  by_cases same : other = key <;> simp [same]

theorem marked_erase {transitions : Finset Key} :
    (fun other => decide (other ∈ transitions.erase key)) =
      Function.update (fun other => decide (other ∈ transitions)) key false := by
  funext other
  by_cases same : other = key <;> simp [same]

/-- An entry is taken out of the table; whoever takes it keeps the key in transition, or the
registry is closing. -/
theorem Sound.erase {entry : Entry Thread} {transitions : Finset Key} (sound : state.Sound)
    (present : state.entries.lookup key = some entry)
    (empty : (state.activity thread).taken = none) (takes : activity.taken = some entry.worker)
    (marks : transitions ⊆ insert key state.transitions)
    (claims : Exclusive (fun key => decide (key ∈ transitions))
      fun other => ((state.moveTo thread activity).activity other).claim)
    (opens : state.shutdownPublished = true → state.reaper = none →
      transitions ⊆ state.transitions)
    (own : state.Fits thread activity) :
    ({ state with entries := state.entries.erase key, transitions }.moveTo thread
      activity).Sound := by
  have within : ∀ other entry, (state.entries.erase key).lookup other = some entry →
      state.entries.lookup other = some entry := by
    intro other entry found
    exact (lookup_erase_eq_some.mp found).2
  have keeps (other : Thread) : Keeps other state
      { state with entries := state.entries.erase key, transitions } :=
    { (Keeps.refl : Keeps other state state) with
      owned := fun _ => ownsEntry_of_within fun other entry found =>
        ⟨entry, within other entry found, rfl⟩
      transitions := opens }
  exact { sound with
    fits := fits_moveTo (sound.fits_keep rfl rfl rfl keeps)
      ((keeps thread).fits (fun _ held => ⟨held, rfl⟩) own)
    registered :=
      { sound.registered with
        entries := fun other entry found =>
          sound.registered.entries other entry (within other entry found) }
    apart := by
      intro other member
      change (state.entries.erase key).lookup other = none
      rcases Finset.mem_insert.mp (marks member) with same | earlier
      · rw [same, AList.lookup_erase]
      · exact lookup_erase_eq_none key (sound.apart other earlier)
    claims := claims
    owners := by
      have handed := sound.owners.hand
        (show state.holder (.inl key) = some entry.worker by simp [State.holder, present])
        (show state.holder (.inr thread) = none from empty)
      rw [holder_moveTo, takes]
      rw [← holder_erase transitions] at handed
      exact handed }

theorem Sound.beginTransition {entry : Entry Thread} {reaps : Bool} (sound : state.Sound)
    (present : state.entries.lookup key = some entry) (now : state.activity thread = activity)
    (unclaimed : activity.claim = none) (empty : activity.taken = none)
    (opens : state.shutdownPublished = true → state.reaper ≠ none)
    (own : state.Fits thread (.joining key entry.worker reaps)) :
    (state.beginTransition thread key entry.worker reaps).Sound := by
  subst now
  apply sound.erase present empty rfl (Finset.Subset.refl _) _ _ own
  · have free : key ∉ state.transitions := by
      intro member
      rw [sound.apart key member] at present
      cases present
    rw [claims_eq, marked_insert]
    exact sound.claims.take (decide_eq_false free) unclaimed
  · exact fun published none => absurd none (opens published)

theorem Sound.supersede {entry : Entry Thread} (sound : state.Sound)
    (publishes : state.activity thread = .publishing key)
    (present : state.entries.lookup key = some entry) :
    (state.supersede thread key entry.worker).openGate.Sound := by
  obtain ⟨held, unlatched⟩ := sound.fits_at publishes
  have stopped := sound.stopWhere fun other => other = entry.worker
  unfold State.supersede
  dsimp only
  split
  · exact stopped.leaveGate held publishes rfl rfl rfl trivial
  rename_i apart
  refine (stopped.beginTransition present publishes rfl rfl ?_ ?_).openGate held ?_
  · intro published
    rw [sound.latched published] at unlatched
    cases unlatched
  rotate_left
  · rw [State.beginTransition, moveTo_self]
    rfl
  · obtain ⟨started, found, keyed, -⟩ := sound.registered.entries key entry present
    refine ⟨apart, Bool.noConfusion, _, started_mapStarted found, ?_⟩
    simp [keyed]

theorem Sound.reap (sound : state.Sound) (reaps : state.activity thread = .reaping) :
    (state.reap thread key).Sound := by
  have isReaper : state.IsReaper thread := sound.fits_at reaps
  obtain ⟨started, found, keyless⟩ := sound.fits_at reaps
  unfold State.reap
  split
  · have marked : (state.setPhase thread .finished).Sound :=
      sound.setPhase (by decide) (unjoined_of_reaper isReaper)
    exact marked.moveTo reaps rfl rfl trivial
  rename_i goes
  have goes : started.stopRequested = false := by simpa [State.stopRequested, found] using goes
  cases present : state.entries.lookup key with
  | none => exact sound
  | some entry =>
      dsimp only
      split
      case isFalse => exact sound
      rename_i finished
      obtain ⟨other, known, keyed, past⟩ := sound.registered.entries key entry present
      apply sound.beginTransition present reaps rfl rfl
      · intro published none
        rcases sound.registered.reapers thread started found keyless with here | stop
        · rw [none] at here
          cases here
        · rw [goes] at stop
          cases stop
      · refine ⟨?_, fun _ => isReaper, other, known, keyed, past finished⟩
        intro same
        rw [same, found] at known
        rw [Option.some.inj known, keyed] at keyless
        cases keyless

theorem Sound.drain (sound : state.Sound) (drains : state.activity thread = .draining) :
    (state.drain thread key).Sound := by
  obtain ⟨closing, none⟩ := sound.fits_at drains
  unfold State.drain
  split
  · exact sound.moveTo drains rfl rfl trivial
  cases present : state.entries.lookup key with
  | none => exact sound
  | some entry =>
      have stopped := sound.stopWhere fun other => other = entry.worker
      apply stopped.erase present (congrArg Activity.taken drains) rfl
        (Finset.subset_insert key _)
      · exact claims_moveTo (congrArg Activity.claim drains).symm stopped.claims
      · exact fun _ _ => Finset.Subset.refl _
      · obtain ⟨started, found, keyed, -⟩ := sound.registered.entries key entry present
        refine ⟨⟨closing.published, closing.unreaped, closing.apart⟩, none, ?_, _,
          started_mapStarted found, ?_, ?_⟩
        · intro same
          have owns := ownsEntry_iff.mpr ⟨key, entry, present, same⟩
          rw [closing.apart] at owns
          cases owns
        · simp
        · simp [keyed]

theorem Sound.finishTransition {next : Activity Key Thread} (sound : state.Sound)
    (now : state.activity thread = activity) (claims : activity.claim = some key)
    (unclaimed : next.claim = none) (taken : next.taken = activity.taken)
    (own : state.Fits thread next) : (state.finishTransition thread key next).Sound := by
  subst now
  have keeps (other : Thread) : Keeps other state
      { state with transitions := state.transitions.erase key } :=
    { (Keeps.refl : Keeps other state state) with
      transitions := fun _ _ => Finset.erase_subset key _ }
  exact { sound with
    fits := fits_moveTo (sound.fits_keep rfl rfl rfl keeps)
      ((keeps thread).fits (fun _ held => ⟨held, rfl⟩) own)
    registered := { sound.registered with }
    apart := fun other member => sound.apart other (Finset.mem_of_mem_erase member)
    claims := by
      have dropped := sound.claims.drop claims
      rw [← marked_erase, ← unclaimed, ← claims_eq] at dropped
      exact dropped
    owners := owners_moveTo taken sound.owners }

theorem Sound.markFinished (sound : state.Sound)
    (past : ∀ started, state.started thread = some started → started.phase ≠ .running) :
    (state.markFinished thread key).Sound := by
  unfold State.markFinished
  cases present : state.entries.lookup key with
  | none => exact sound
  | some entry =>
      dsimp only
      split
      case isFalse => exact sound
      rename_i same
      have within : ∀ other later,
          (state.entries.insert key { entry with finished := true }).lookup other = some later →
            ∃ earlier, state.entries.lookup other = some earlier ∧
              earlier.worker = later.worker := by
        intro other later found
        rcases lookup_insert_eq_some.mp found with ⟨rfl, rfl⟩ | ⟨-, found⟩
        · exact ⟨entry, present, rfl⟩
        · exact ⟨later, found, rfl⟩
      exact { sound with
        fits := sound.fits_keep rfl rfl rfl fun other =>
          { (Keeps.refl : Keeps other state state) with
            owned := fun _ => ownsEntry_of_within within }
        registered := { sound.registered with
          entries := by
            intro other later found
            rcases lookup_insert_eq_some.mp found with ⟨rfl, rfl⟩ | ⟨-, found⟩
            · obtain ⟨started, known, keyed, -⟩ := sound.registered.entries other entry present
              exact ⟨started, known, keyed, fun _ => past started (same ▸ known)⟩
            · exact sound.registered.entries other later found }
        apart := by
          intro other member
          have absent := sound.apart other member
          rw [AList.lookup_insert_ne, absent]
          rintro rfl
          rw [present] at absent
          cases absent
        owners := by
          have unchanged : { state with
              entries := state.entries.insert key { entry with finished := true } }.holder =
                state.holder := by
            funext owner
            cases owner with
            | inl other =>
                by_cases here : other = key
                · subst here
                  simp [State.holder, present]
                · simp [State.holder, here]
            | inr other => rfl
          rw [unchanged]
          exact sound.owners }

/-! ### New threads -/

/-- A worker is in the table, or in the hands of the thread that joins it. -/
theorem Sound.whereabouts (sound : state.Sound) (unjoined : state.unjoined other = true) :
    ∃ key, state.keyOf other = some key ∧
      ((∃ entry, state.entries.lookup key = some entry ∧ entry.worker = other) ∨
        (∃ thread reaps, state.activity thread = .joining key other reaps) ∨
          ∃ thread, state.activity thread = .joiningDrained other) := by
  obtain ⟨owner, holds, -⟩ := sound.owners.one_holder other unjoined
  cases owner with
  | inl key =>
      obtain ⟨entry, present, same⟩ := Option.map_eq_some_iff.mp holds
      obtain ⟨started, found, keyed, -⟩ := sound.registered.entries key entry present
      exact ⟨key, by simp [State.keyOf, ← same, found, keyed], .inl ⟨entry, present, same⟩⟩
  | inr thread =>
      have fits := sound.fits thread
      have taken : (state.activity thread).taken = some other := holds
      cases activity : state.activity thread with
      | joining key worker reaps =>
          rw [activity] at taken fits
          obtain rfl := Option.some.inj taken
          obtain ⟨-, -, started, found, keyed, -⟩ := fits
          exact ⟨key, by simp [State.keyOf, found, keyed], .inr (.inl ⟨thread, reaps, activity⟩)⟩
      | joiningDrained worker =>
          rw [activity] at taken fits
          obtain rfl := Option.some.inj taken
          obtain ⟨-, -, -, started, found, -, keyed⟩ := fits
          obtain ⟨key, keyed⟩ := Option.ne_none_iff_exists'.mp keyed
          exact ⟨key, by simp [State.keyOf, found, keyed], .inr (.inr ⟨thread, activity⟩)⟩
      | _ =>
          rw [activity] at taken
          cases taken

theorem Sound.unpublished (sound : state.Sound) (unlatched : state.shutdownRequested = false) :
    state.shutdownPublished = false := by
  apply Bool.eq_false_iff.mpr
  intro published
  rw [sound.latched published] at unlatched
  cases unlatched

theorem fresh_iff : state.fresh thread = true ↔
    state.started thread = none ∧ state.activity thread = .idle := by
  simp [State.fresh]

/-- A new worker is alone if its key has none that has not been joined. -/
theorem Sound.alone_start {new : Started Key} (sound : state.Sound)
    (started : after.started = Function.update state.started thread (some new))
    (alone : ∀ other, state.unjoined other = true → state.keyOf other = new.key →
      new.unjoined = false) :
    ∀ first second, after.unjoined first = true → after.unjoined second = true →
      after.keyOf first = after.keyOf second → first = second := by
  have self : after.keyOf thread = new.key := by simp [State.keyOf, started]
  have old : ∀ other, other ≠ thread → after.unjoined other = true →
      state.unjoined other = true ∧ after.keyOf other = state.keyOf other := by
    intro other apart later
    rw [unjoined_start started, Function.update_of_ne apart] at later
    exact ⟨later, by simp [State.keyOf, started, apart]⟩
  have only : ∀ other, after.unjoined thread = true → after.unjoined other = true →
      after.keyOf other = new.key → other = thread := by
    intro other itself later keyed
    by_contra apart
    obtain ⟨earlier, same⟩ := old other apart later
    rw [unjoined_start started, Function.update_self,
      alone other earlier (same.symm.trans keyed)] at itself
    cases itself
  intro first second firstLater secondLater keyed
  by_cases here : first = thread
  · rw [here] at firstLater keyed ⊢
    exact (only second firstLater secondLater (keyed.symm.trans self)).symm
  by_cases there : second = thread
  · rw [there] at secondLater keyed ⊢
    exact only first secondLater firstLater (keyed.trans self)
  obtain ⟨firstEarlier, firstSame⟩ := old first here firstLater
  obtain ⟨secondEarlier, secondSame⟩ := old second there secondLater
  exact sound.alone first second firstEarlier secondEarlier
    (firstSame.symm.trans (keyed.trans secondSame))

theorem Sound.ensureReaper (sound : state.Sound) (unlatched : state.shutdownRequested = false)
    (fresh : state.fresh thread = true) : (state.ensureReaper thread).Sound := by
  obtain ⟨unused, idle⟩ := fresh_iff.mp fresh
  have unpublished := sound.unpublished unlatched
  unfold State.ensureReaper
  split
  · exact sound
  rename_i absent
  have absent : state.reaper = none := by simpa using absent
  let grown : State Key Thread :=
    { state with
      reaper := some thread
      started := Function.update state.started thread (some { key := none }) }
  have unjoined : grown.unjoined = state.unjoined := by
    have updated : grown.unjoined =
        Function.update state.unjoined thread (Started.unjoined { key := none }) :=
      unjoined_start rfl
    rw [updated]
    exact Function.update_eq_self_iff.mpr (by simp [State.unjoined, unused, Started.unjoined])
  have isReaper : grown.IsReaper thread := ⟨_, Function.update_self .., rfl⟩
  exact { sound with
    fits := by
      have fits : ∀ other, grown.Fits other (grown.activity other) :=
        sound.fits_keep rfl rfl rfl fun _ => .start unpublished unused
      exact fits_moveTo fits isReaper
    registered := {
      entries := by
        intro key entry present
        obtain ⟨started, found, rest⟩ := sound.registered.entries key entry present
        exact ⟨started, started_of_old rfl unused found, rest⟩
      reaper := by
        rintro reaper present
        obtain rfl := Option.some.inj present
        exact isReaper
      reapers := by
        intro other started found keyless
        by_cases same : other = thread
        · exact .inl (same ▸ rfl)
        · have found : state.started other = some started :=
            (Function.update_of_ne same ..).symm.trans found
          rcases sound.registered.reapers other started found keyless with here | stop
          · rw [absent] at here
            cases here
          · exact .inr stop
      stopped := fun published => Bool.noConfusion (unpublished.symm.trans published) }
    claims := claims_moveTo (congrArg Activity.claim idle).symm sound.claims
    owners := by
      have owners : Exclusive grown.unjoined grown.holder := unjoined ▸ sound.owners
      exact owners_moveTo (congrArg Activity.taken idle).symm owners
    alone := @State.Sound.alone_start _ _ _ _ grown _ _ _ sound rfl fun _ _ _ => rfl }

theorem Sound.emplace {worker : Thread} (sound : state.Sound)
    (unlatched : state.shutdownRequested = false) (settled : key ∉ state.transitions)
    (absent : state.entries.lookup key = none) (unused : state.started worker = none) :
    (state.emplace key worker).Sound := by
  have unpublished := sound.unpublished unlatched
  have keeps (other : Thread) : Keeps other state (state.emplace key worker) :=
    .start unpublished unused
  have self : (state.emplace key worker).started worker = some { key := some key } :=
    Function.update_self ..
  exact { sound with
    fits := sound.fits_keep rfl rfl rfl keeps
    registered := {
      entries := by
        intro other entry found
        rcases lookup_insert_eq_some.mp found with ⟨rfl, rfl⟩ | ⟨-, found⟩
        · exact ⟨_, self, rfl, fun absurd => by cases absurd⟩
        · obtain ⟨started, known, rest⟩ := sound.registered.entries other entry found
          exact ⟨started, started_of_old rfl unused known, rest⟩
      reaper := fun reaper present =>
        (keeps reaper).isReaper (sound.registered.reaper reaper present)
      reapers := by
        intro other started found keyless
        by_cases same : other = worker
        · rw [same, self] at found
          rw [← Option.some.inj found] at keyless
          cases keyless
        · have found : state.started other = some started :=
            (Function.update_of_ne same ..).symm.trans found
          exact sound.registered.reapers other started found keyless
      stopped := fun published => Bool.noConfusion (unpublished.symm.trans published) }
    apart := by
      intro other member
      refine (AList.lookup_insert_ne ?_).trans (sound.apart other member)
      rintro rfl
      exact settled member
    owners := by
      have free : state.unjoined worker = false := by simp [State.unjoined, unused]
      have idle : state.holder (.inl key) = none := by simp [State.holder, absent]
      have taken := sound.owners.take free idle
      have unjoined : (state.emplace key worker).unjoined =
          Function.update state.unjoined worker (Started.unjoined { key := some key }) :=
        unjoined_start rfl
      rw [unjoined]
      change Exclusive (Function.update state.unjoined worker true) _
      convert taken using 1
      funext owner
      cases owner with
      | inl other =>
          by_cases same : other = key
          · subst same
            simp [State.holder, State.emplace]
          · simp [State.holder, State.emplace, same]
      | inr other => simp [State.holder, State.emplace]
    alone := by
      -- a worker of the key that has not been joined would be in the table or in transition
      apply sound.alone_start rfl
      intro other unjoined keyed
      obtain ⟨slot, same, place⟩ := sound.whereabouts unjoined
      obtain rfl : slot = key := Option.some.inj (same.symm.trans keyed)
      rcases place with ⟨entry, present, -⟩ | ⟨thread, reaps, joins⟩ | ⟨thread, joins⟩
      · rw [absent] at present
        cases present
      · have marked := sound.claims.marked_of_held thread slot (congrArg Activity.claim joins)
        exact absurd (of_decide_eq_true marked) settled
      · have published := (sound.fits_at joins).1.published
        rw [unpublished] at published
        cases published }

theorem Sound.spawn {choice : Choice Key Thread} (sound : state.Sound)
    (publishes : state.activity thread = .publishing key) (settled : key ∉ state.transitions)
    (absent : state.entries.lookup key = none) (admits : state.admits choice = true) :
    (state.spawn thread key choice).openGate.Sound := by
  obtain ⟨held, unlatched⟩ := sound.fits_at publishes
  simp only [State.admits, Bool.and_eq_true, decide_eq_true_eq] at admits
  obtain ⟨⟨workerFresh, reaperFresh⟩, apart⟩ := admits
  have other : thread ≠ choice.reaper := by
    rintro rfl
    rw [(fresh_iff.mp reaperFresh).2] at publishes
    cases publishes
  have grown := sound.ensureReaper unlatched reaperFresh
  obtain ⟨reaper, started, activity, same, rest⟩ := @ensureReaper_spec _ _ _ state choice.reaper
  unfold State.spawn
  split
  · exact sound.leaveGate held publishes rfl rfl rfl trivial
  split
  · exact sound.leaveGate held publishes rfl rfl rfl trivial
  dsimp only
  rw [same] at grown ⊢
  have publishes := (rest thread other).2.trans publishes
  have unused := (rest choice.worker apart).1.trans (fresh_iff.mp workerFresh).1
  split
  · exact grown.leaveGate held publishes rfl rfl rfl trivial
  · exact (grown.emplace unlatched settled absent unused).leaveGate held publishes rfl rfl rfl
      trivial

theorem Sound.publish {choice : Choice Key Thread} (sound : state.Sound)
    (publishes : state.activity thread = .publishing key) (admits : state.admits choice = true) :
    (state.publish thread key choice).Sound := by
  obtain ⟨held, -⟩ := sound.fits_at publishes
  unfold State.publish
  split
  · exact sound.leaveGate held publishes rfl rfl rfl trivial
  rename_i settled
  cases present : state.entries.lookup key with
  | some entry => exact sound.supersede publishes present
  | none => exact sound.spawn publishes settled present admits

/-! ### Shutdown -/

/-- The callbacks that may still run have been asked to stop. -/
theorem Sound.requestStopAll_stopped (sound : state.Sound) {started : Started Key}
    (found : state.requestStopAll.started other = some started) (keyed : started.key ≠ none)
    (running : started.phase = .running) : started.stopRequested = true := by
  have stopped : state.requestStopAll.Sound := sound.stopWhere state.ownsEntry
  obtain ⟨key, key_eq⟩ := Option.ne_none_iff_exists'.mp keyed
  have unjoined : state.requestStopAll.unjoined other = true := by
    simp [State.unjoined, found, Started.unjoined, key_eq, running]
  obtain ⟨slot, -, ⟨entry, present, same⟩ | ⟨thread, reaps, joins⟩ | ⟨thread, joins⟩⟩ :=
    stopped.whereabouts unjoined
  · have owns : state.ownsEntry other = true := ownsEntry_iff.mpr ⟨slot, entry, present, same⟩
    obtain ⟨earlier, -, rfl⟩ := of_started_mapStarted found
    rw [if_pos owns]
  · obtain ⟨-, -, known, same, -, ready⟩ := stopped.fits_at joins
    obtain rfl := Option.some.inj (same.symm.trans found)
    cases reaps with
    | true => exact absurd running ready
    | false => exact ready
  · obtain ⟨-, -, -, known, same, ready, -⟩ := stopped.fits_at joins
    obtain rfl := Option.some.inj (same.symm.trans found)
    exact ready

theorem Sound.publishShutdown {joins : Bool} (sound : state.Sound)
    (stops : state.activity thread = .stoppingAll joins) :
    (state.publishShutdown thread joins).Sound := by
  obtain ⟨held, latched⟩ := sound.fits_at stops
  have stopped : state.requestStopAll.Sound := sound.stopWhere state.ownsEntry
  have published : { state.requestStopAll with shutdownPublished := true }.Sound :=
    { stopped with
      fits := stopped.fits_keep rfl rfl rfl fun other =>
        { (Keeps.refl : Keeps other state.requestStopAll state.requestStopAll) with
          published := fun _ => rfl }
      latched := fun _ => latched
      registered := { stopped.registered with
        stopped := fun _ _ _ found => sound.requestStopAll_stopped found } }
  cases joins with
  | true => exact published.leaveGate held stops rfl rfl rfl rfl
  | false => exact published.leaveGate held stops rfl rfl rfl trivial

theorem Sound.checkOwner (sound : state.Sound) (checks : state.activity thread = .checkingOwner) :
    (state.checkOwner thread).Sound := by
  have published : state.Fits thread .checkingOwner := sound.fits_at checks
  unfold State.checkOwner
  cases owned : state.calledFromOwnedThread thread with
  | true =>
      exact sound.moveTo checks rfl rfl trivial
  | false =>
      simp only [State.calledFromOwnedThread, Bool.or_eq_false_iff, decide_eq_false_iff_not] at owned
      exact sound.moveTo checks rfl rfl ⟨published, owned⟩

theorem Sound.releaseReaper (sound : state.Sound)
    (stopped : ∀ reaper started, state.reaper = some reaper →
      state.started reaper = some started → started.stopRequested = true) :
    state.releaseReaper.Sound :=
  { sound with
    fits := sound.fits_keep rfl rfl rfl fun other =>
      { (Keeps.refl : Keeps other state state) with
        reaper := fun _ _ absurd => by cases absurd }
    registered := { sound.registered with
      reaper := fun _ absurd => by cases absurd
      reapers := by
        intro other started found keyless
        rcases sound.registered.reapers other started found keyless with here | stop
        · exact .inr (stopped other started here found)
        · exact .inr stop } }

theorem Sound.takeReaper (sound : state.Sound) (takes : state.activity thread = .takingReaper) :
    (state.takeReaper thread).Sound := by
  obtain ⟨published, apart, free⟩ := sound.fits_at takes
  unfold State.takeReaper
  cases present : state.reaper with
  | none =>
      exact sound.moveTo takes rfl rfl ⟨published, present, free⟩
  | some reaper =>
      have stopped := sound.stopWhere fun other => other = reaper
      have released : (state.stop reaper).releaseReaper.Sound := by
        apply stopped.releaseReaper
        intro other started here found
        have same : reaper = other := Option.some.inj (present.symm.trans here)
        obtain ⟨earlier, -, rfl⟩ := of_started_mapStarted found
        simp [same]
      have isReaper : (state.stop reaper).IsReaper reaper := stopped.registered.reaper reaper present
      have other : reaper ≠ thread := by
        rintro rfl
        exact apart present
      exact released.moveTo takes rfl rfl ⟨⟨published, rfl, free⟩, other, isReaper⟩

/-! ## Runs -/

theorem Sound.join_reaper {reaper : Thread} (sound : state.Sound)
    (joins : state.activity thread = .joiningReaper reaper) :
    (state.join thread reaper .awaitingTransitions).Sound := by
  obtain ⟨closing, -, isReaper⟩ := sound.fits_at joins
  unfold State.join
  split
  case isFalse => exact sound
  have joined : (state.setPhase reaper .joined).Sound :=
    sound.setPhase (by decide) (unjoined_of_reaper isReaper)
  exact joined.moveTo joins rfl rfl ⟨closing.published, closing.unreaped, closing.apart⟩

theorem Sound.proceed (sound : state.Sound) (choice : Choice Key Thread) :
    (state.proceed thread choice).Sound := by
  unfold State.proceed
  cases activity : state.activity thread with
  | idle => exact sound
  | waiting key =>
      dsimp only
      unfold State.awaitTurn
      split
      · exact sound.moveTo activity rfl rfl trivial
      split
      · exact sound
      · exact sound.moveTo activity rfl rfl trivial
  | gating key => exact sound.takeGate activity
  | publishing key =>
      dsimp only
      split
      · rename_i admits
        exact sound.publish activity admits
      · exact sound
  | joining key worker reaps =>
      obtain ⟨-, reaper, -⟩ := sound.fits_at activity
      exact sound.join activity rfl rfl rfl reaper
  | finishingTransition key reaps =>
      cases reaps with
      | true => exact sound.finishTransition activity rfl rfl rfl (sound.fits_at activity rfl)
      | false => exact sound.finishTransition activity rfl rfl rfl trivial
  | shuttingDown joins => exact sound.latch activity
  | stoppingAll joins => exact sound.publishShutdown activity
  | checkingOwner => exact sound.checkOwner activity
  | takingReaper => exact sound.takeReaper activity
  | joiningReaper reaper => exact sound.join_reaper activity
  | awaitingTransitions =>
      dsimp only
      unfold State.awaitTransitions
      split
      · rename_i none
        exact sound.moveTo activity rfl rfl ⟨sound.fits_at activity, none⟩
      · exact sound
  | draining => exact sound.drain activity
  | joiningDrained worker =>
      obtain ⟨closing, none, -⟩ := sound.fits_at activity
      exact sound.join activity rfl rfl rfl ⟨closing, none⟩
  | reaping => exact sound.reap activity

theorem Sound.call (sound : state.Sound) (free : state.free thread = true)
    (request : Request Key) : (state.call thread request).Sound := by
  simp only [State.free, Bool.and_eq_true, decide_eq_true_eq] at free
  cases request with
  | start key => exact sound.moveTo free.1 rfl rfl trivial
  | requestStop key => exact sound.stopWhere _
  | requestStopAll => exact sound.stopWhere _
  | requestShutdown => exact sound.moveTo free.1 rfl rfl trivial
  | joinAll => exact sound.moveTo free.1 rfl rfl trivial

theorem Sound.finishWorker (sound : state.Sound) : (state.finishWorker thread).Sound := by
  unfold State.finishWorker
  cases (state.started thread).bind (·.key) with
  | none => exact sound
  | some key =>
      dsimp only
      split
      case isFalse => exact sound
      rename_i free
      simp only [State.free, Bool.and_eq_true, decide_eq_true_eq] at free
      have marked : (state.setPhase thread .finished).Sound := by
        apply sound.setPhase (by decide)
        intro started found
        have running : started.phase = .running := by simpa [found] using free.2
        simp [Started.unjoined, running]
      apply marked.markFinished
      intro started found
      obtain ⟨earlier, -, rfl⟩ := of_started_mapStarted found
      simp

theorem Sound.step (sound : state.Sound) (event : Event Key Thread) :
    (State.step event state).Sound := by
  cases event with
  | call thread request =>
      unfold State.step
      dsimp only
      split
      · rename_i free
        exact sound.call free request
      · exact sound
  | proceed thread choice => exact sound.proceed choice
  | finishWorker thread => exact sound.finishWorker
  | exit thread =>
      unfold State.step
      dsimp only
      split
      case isFalse => exact sound
      rename_i finished
      apply sound.setPhase (by decide)
      intro started found
      have finished : started.phase = .finished := by simpa [found] using finished
      simp [Started.unjoined, finished]

theorem sound_initial : ({} : State Key Thread).Sound where
  fits := fun _ => trivial
  latched := fun absurd => by cases absurd
  registered := {
    entries := fun _ _ absurd => by cases absurd
    reaper := fun _ absurd => by cases absurd
    reapers := fun _ _ absurd => by cases absurd
    stopped := fun absurd => by cases absurd }
  apart := fun _ _ => rfl
  claims := {
    marked_of_held := fun _ _ absurd => by cases absurd
    one_holder := fun _ marked => by simp at marked }
  owners := {
    marked_of_held := by
      intro owner _ absurd
      cases owner <;> cases absurd
    one_holder := fun _ absurd => by cases absurd }
  alone := fun _ _ absurd => by cases absurd

theorem sound_run (events : List (Event Key Thread)) : (run State.step events {}).Sound :=
  run_preserves State.step State.Sound (fun event _ sound => sound.step event) events sound_initial

end State

/-! ## What every run keeps -/

structure Guarded [DecidableEq Key] [DecidableEq Thread] (state : State Key Thread) : Prop where
  /-- A key has one worker at a time, also while a new one replaces it. -/
  alone : ∀ first second, state.unjoined first = true → state.unjoined second = true →
    state.keyOf first = state.keyOf second → first = second
  /-- A worker is in the table, or in the hands of the one thread that joins it. -/
  owned : ∀ worker, state.unjoined worker = true → ∃! owner, state.holder owner = some worker
  /-- The worker that a thread joins has been asked to stop, or its callback is over. -/
  asked : ∀ thread worker, (state.activity thread).taken = some worker →
    ∃ started, state.started worker = some started ∧
      (started.stopRequested = true ∨ started.phase ≠ .running)
  /-- What the reaper joins is over. -/
  reaped : ∀ reaper key worker, state.activity reaper = .joining key worker true →
    ∃ started, state.started worker = some started ∧ started.phase ≠ .running
  apart : ∀ thread, (state.activity thread).joins ≠ some thread
  /-- One thread has to finish a key's transition. -/
  claimed : ∀ key, key ∈ state.transitions ↔ ∃! thread, (state.activity thread).claim = some key
  /-- Once a shutdown is published no callback goes on without being asked to stop, -/
  stopped : state.shutdownPublished = true → ∀ worker started,
    state.started worker = some started → started.key ≠ none → started.phase = .running →
      started.stopRequested = true
  /-- and no `start` is past the latch. -/
  closed : state.shutdownPublished = true → ∀ thread key, state.activity thread ≠ .publishing key
  /-- A `join_all` that finds the table empty leaves to others only what they join. -/
  drained : ∀ thread, state.activity thread = .draining → state.entries.entries = [] →
    ∀ worker, state.unjoined worker = true →
      ∃ other, other ≠ thread ∧ state.activity other = .joiningDrained worker

section

variable [DecidableEq Key] [DecidableEq Thread] {state : State Key Thread}

theorem State.Sound.guarded (sound : state.Sound) : Guarded state where
  alone := sound.alone
  owned := fun worker unjoined => sound.owners.one_holder worker unjoined
  asked := by
    intro thread worker taken
    have fits := sound.fits thread
    cases activity : state.activity thread with
    | joining key target reaps =>
        rw [activity] at taken fits
        obtain rfl := Option.some.inj taken
        obtain ⟨-, -, started, found, -, ready⟩ := fits
        refine ⟨started, found, ?_⟩
        cases reaps with
        | true => exact .inr ready
        | false => exact .inl ready
    | joiningDrained target =>
        rw [activity] at taken fits
        obtain rfl := Option.some.inj taken
        obtain ⟨-, -, -, started, found, ready, -⟩ := fits
        exact ⟨started, found, .inl ready⟩
    | _ =>
        rw [activity] at taken
        cases taken
  reaped := by
    intro reaper key worker joins
    obtain ⟨-, -, started, found, -, past⟩ := sound.fits_at joins
    exact ⟨started, found, past⟩
  apart := by
    intro thread itself
    have fits := sound.fits thread
    cases activity : state.activity thread with
    | joining =>
        rw [activity] at itself fits
        exact fits.1 (Option.some.inj itself)
    | joiningReaper =>
        rw [activity] at itself fits
        exact fits.2.1 (Option.some.inj itself)
    | joiningDrained =>
        rw [activity] at itself fits
        exact fits.2.2.1 (Option.some.inj itself)
    | _ =>
        rw [activity] at itself
        cases itself
  claimed := by
    intro key
    constructor
    · intro member
      exact sound.claims.one_holder key (decide_eq_true member)
    · rintro ⟨thread, claims, -⟩
      exact of_decide_eq_true (sound.claims.marked_of_held thread key claims)
  stopped := sound.registered.stopped
  closed := by
    intro published thread key publishes
    rw [sound.unpublished (sound.fits_at publishes).2] at published
    cases published
  drained := by
    intro thread drains empty worker unjoined
    obtain ⟨-, none⟩ := sound.fits_at drains
    obtain ⟨key, -, ⟨entry, present, -⟩ | ⟨other, reaps, joins⟩ | ⟨other, joins⟩⟩ :=
      sound.whereabouts unjoined
    · have member := AList.mem_lookup_iff.mp present
      rw [empty] at member
      cases member
    · have marked := sound.claims.marked_of_held other key (congrArg Activity.claim joins)
      rw [none] at marked
      simp at marked
    · refine ⟨other, ?_, joins⟩
      rintro rfl
      rw [joins] at drains
      cases drains

/-- Every interleaving of the callers, the workers and the reaper. -/
theorem reached_guarded (events : List (Event Key Thread)) :
    Guarded (run State.step events {}) :=
  (State.sound_run events).guarded

end

end UmbraHost.VirtualDisplay.MonitorRegistry
