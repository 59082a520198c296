import UmbraHost.SharedRuntime.Sections

/-! # Finalized exactly when idle

The counters are the lengths of what they count.  So every section that releases the last
owner is one that calls the finalizer, and nothing else lets the last owner go. -/

namespace UmbraHost.SharedRuntime

open UmbraHost.Transition

variable {owners next : Owners} {runtime : Runtime} {state : State}

/-! ## The counters -/

structure Owners.Counted (owners : Owners) : Prop where
  startups : owners.startupTasks = owners.queued.length + owners.finishing.length
  running : owners.runningSessions =
    owners.sessions.length + owners.taken.length + owners.joining.length
  teardowns : owners.teardownSessions = owners.joining.length

theorem hasSharedRuntimeOwner_eq_false {ignore : Bool} :
    owners.hasSharedRuntimeOwner ignore = false ↔
      owners.launches = [] ∧ owners.startupTasks = 0 ∧ owners.sessions = [] ∧
        owners.runningSessions = 0 ∧ owners.teardownSessions ≤ (if ignore then 1 else 0) ∧
        owners.webrtcOwners = 0 := by
  simp [Owners.hasSharedRuntimeOwner, Owners.hasPendingLaunchOrStartup, and_assoc]

/-- Sessions that are registered or torn down also run. -/
theorem Owners.Counted.unowned_iff (counted : owners.Counted) :
    owners.hasSharedRuntimeOwner false = false ↔
      owners.launches = [] ∧ owners.startupTasks = 0 ∧ owners.runningSessions = 0 ∧
        owners.webrtcOwners = 0 := by
  rw [hasSharedRuntimeOwner_eq_false]
  constructor
  · rintro ⟨launches, startups, -, running, -, webrtc⟩
    exact ⟨launches, startups, running, webrtc⟩
  · rintro ⟨launches, startups, running, webrtc⟩
    have counts := counted.running
    have teardowns := counted.teardowns
    have sessions : owners.sessions = [] := List.eq_nil_of_length_eq_zero (by omega)
    have joined : owners.teardownSessions ≤ 0 := by omega
    exact ⟨launches, startups, sessions, running, joined, webrtc⟩

/-- Without an owner nothing is left to do either. -/
theorem Owners.Counted.eq_none (counted : owners.Counted)
    (unowned : owners.hasSharedRuntimeOwner false = false) : owners = .none := by
  obtain ⟨launches, startups, running, webrtc⟩ := counted.unowned_iff.mp unowned
  obtain ⟨tasks, counts, teardowns⟩ := counted
  have queued : owners.queued = [] := List.eq_nil_of_length_eq_zero (by omega)
  have finishing : owners.finishing = [] := List.eq_nil_of_length_eq_zero (by omega)
  have sessions : owners.sessions = [] := List.eq_nil_of_length_eq_zero (by omega)
  have taken : owners.taken = [] := List.eq_nil_of_length_eq_zero (by omega)
  have joining : owners.joining = [] := List.eq_nil_of_length_eq_zero (by omega)
  have torn : owners.teardownSessions = 0 := by rw [teardowns, joining, List.length_nil]
  cases owners
  simp only at launches startups running webrtc queued finishing sessions taken joining torn
  rw [launches, startups, running, webrtc, queued, finishing, sessions, taken, joining, torn]
  rfl

/-- A section's own teardown counts as dropped. -/
theorem hasSharedRuntimeOwner_ignoring (owners : Owners) :
    owners.hasSharedRuntimeOwner true =
      { owners with teardownSessions := owners.teardownSessions - 1 }.hasSharedRuntimeOwner
        false := by
  rw [Bool.eq_iff_iff, ← not_iff_not, Bool.not_eq_true, Bool.not_eq_true,
    hasSharedRuntimeOwner_eq_false, hasSharedRuntimeOwner_eq_false]
  simp [Nat.sub_eq_zero_iff_le]

theorem Owners.Counted.of_launches (counted : owners.Counted) (launches : List Launch) :
    { owners with launches }.Counted :=
  ⟨counted.startups, counted.running, counted.teardowns⟩

theorem Owners.Counted.take (counted : owners.Counted) (selected : Session → Bool) :
    (owners.take selected).Counted where
  startups := counted.startups
  running := by
    have split := List.length_eq_length_filter_add selected (l := owners.sessions)
    have counts := counted.running
    simp only [Owners.take, List.length_append]
    omega
  teardowns := counted.teardowns

/-! ## The finalizer -/

/-- The runtime is armed while the platform is started, and owned while it is armed. -/
structure Runtime.Settled (runtime : Runtime) (owned : Bool) : Prop where
  started : runtime.platformStarted = true → runtime.armed = true
  owned : runtime.armed = true → owned = true

theorem Runtime.finalizeIfIdle_settled
    (started : runtime.platformStarted = true → runtime.armed = true) (host : Host)
    (context : FinalizeContext) (owners : Owners) :
    (runtime.finalizeIfIdle host context owners).1.Settled
      (owners.hasSharedRuntimeOwner context.ignoreCurrentRtspTeardown) := by
  unfold Runtime.finalizeIfIdle
  split
  case isTrue unarmed => exact ⟨started, fun armed => nomatch unarmed.symm.trans armed⟩
  case isFalse =>
    dsimp only
    split
    case isTrue owner => exact ⟨fun _ => rfl, fun _ => owner⟩
    case isFalse => exact ⟨nofun, nofun⟩

/-- What the finalizer has done when it returns true. -/
structure Finalized (before after : Runtime) : Prop where
  disarmed : after.armed = false
  stopped : after.platformStarted = false
  cleaned : ∃ cleanup, after.cleanups = before.cleanups ++ [cleanup]

theorem Runtime.finalizeIfIdle_eq_true {host : Host} {context : FinalizeContext}
    (finalized : (runtime.finalizeIfIdle host context owners).2 = true) :
    owners.hasSharedRuntimeOwner context.ignoreCurrentRtspTeardown = false ∧
      Finalized runtime (runtime.finalizeIfIdle host context owners).1 := by
  unfold Runtime.finalizeIfIdle at finalized ⊢
  split at finalized
  case isTrue => cases finalized
  case isFalse armed =>
    rw [if_neg armed]
    dsimp only at finalized ⊢
    split at finalized
    case isTrue => cases finalized
    case isFalse unowned =>
      rw [if_neg unowned]
      exact ⟨Bool.eq_false_iff.mpr unowned, rfl, rfl, _, rfl⟩

/-- An owner that stays keeps the runtime settled. -/
theorem Runtime.Settled.carry (settled : runtime.Settled (owners.hasSharedRuntimeOwner false))
    (counted : owners.Counted) (counted' : next.Counted)
    (kept : next.launches = [] → next.startupTasks = 0 → next.runningSessions = 0 →
      next.webrtcOwners = 0 → owners.launches = [] ∧ owners.startupTasks = 0 ∧
        owners.runningSessions = 0 ∧ owners.webrtcOwners = 0) :
    runtime.Settled (next.hasSharedRuntimeOwner false) := by
  refine ⟨settled.started, fun armed => ?_⟩
  by_contra unowned
  obtain ⟨launches, startups, running, webrtc⟩ :=
    counted'.unowned_iff.mp (Bool.eq_false_iff.mpr unowned)
  have before := counted.unowned_iff.mpr (kept launches startups running webrtc)
  exact nomatch before.symm.trans (settled.owned armed)

/-! ## One section -/

structure State.Sound (state : State) : Prop where
  counted : state.owners.Counted
  settled : state.runtime.Settled (state.owners.hasSharedRuntimeOwner false)

/-- A section keeps the state sound, and where it finalizes no owner is left. -/
structure Kept (state : State) (result : State × Bool) : Prop where
  sound : result.1.Sound
  finalized : result.2 = true → result.1.owners.hasSharedRuntimeOwner false = false ∧
    Finalized state.runtime result.1.runtime

theorem Kept.of_sound {result : State} (sound : result.Sound) : Kept state (result, false) :=
  ⟨sound, nofun⟩

theorem State.Sound.finalize (sound : state.Sound) (counted : next.Counted) (host : Host)
    (reason : String) (guid : Option Guid) :
    Kept state (State.finalize ⟨next, state.runtime⟩ host reason guid) where
  sound := ⟨counted, Runtime.finalizeIfIdle_settled sound.settled.started host _ next⟩
  finalized := fun finalized => Runtime.finalizeIfIdle_eq_true finalized

theorem State.Sound.of_owned (counted : state.owners.Counted)
    (started : state.runtime.platformStarted = true → state.runtime.armed = true)
    (owned : state.owners.hasSharedRuntimeOwner false = true) : state.Sound :=
  ⟨counted, started, fun _ => owned⟩

theorem Owners.owned_of_running (running : owners.runningSessions ≠ 0) :
    owners.hasSharedRuntimeOwner false = true := by
  simp [Owners.hasSharedRuntimeOwner, running]

theorem accept_eq_nil {remoteAddress : String} {launches : List Launch}
    (none : Owners.accept remoteAddress launches = []) : launches = [] := by
  cases launches with
  | nil => rfl
  | cons entry rest =>
      unfold Owners.accept at none
      split at none <;> cases none

theorem Owners.Counted.reserve (counted : owners.Counted) (remoteAddress : String) :
    (owners.reserve remoteAddress).1.Counted := by
  unfold Owners.reserve
  dsimp only
  split
  · exact counted
  · exact counted.of_launches _

theorem reserve_kept (owners : Owners) (remoteAddress : String) :
    let reserved := (owners.reserve remoteAddress).1
    (reserved.launches = [] → owners.launches = []) ∧
      reserved.startupTasks = owners.startupTasks ∧
      reserved.runningSessions = owners.runningSessions ∧
      reserved.webrtcOwners = owners.webrtcOwners := by
  unfold Owners.reserve
  dsimp only
  split
  · exact ⟨id, rfl, rfl, rfl⟩
  · exact ⟨accept_eq_nil, rfl, rfl, rfl⟩

/-- Launches that have not expired all stay. -/
theorem expireLaunchSessions_eq_nil {now : Nat}
    (unexpired : (owners.expireLaunchSessions now).2 = []) :
    (owners.expireLaunchSessions now).1 = owners := by
  have later : ∀ entry ∈ owners.launches, decide (now < entry.expiresAt) = true := by
    intro entry member
    have early := List.filter_eq_nil_iff.mp (List.map_eq_nil_iff.mp unexpired) entry member
    simpa using early
  rw [Owners.expireLaunchSessions, List.filter_eq_self.mpr later]

namespace State.Sound

variable (sound : state.Sound)
include sound

theorem sessionRaise (entry : Launch) : (state.sessionRaise entry).Sound := by
  refine .of_owned (sound.counted.of_launches _) (fun _ => rfl) ?_
  simp [State.sessionRaise, Owners.hasSharedRuntimeOwner, Owners.hasPendingLaunchOrStartup]

theorem armLaunchTimer (now : Nat) (host : Host) : Kept state (state.armLaunchTimer now host) := by
  unfold State.armLaunchTimer State.expired
  dsimp only
  split
  case isTrue unexpired =>
    rw [expireLaunchSessions_eq_nil unexpired]
    exact .of_sound sound
  case isFalse => exact sound.finalize (sound.counted.of_launches _) host _ _

theorem reserveLaunchSession (remoteAddress : String) (now : Nat) (host : Host) :
    Kept state (state.reserveLaunchSession remoteAddress now host) := by
  unfold State.reserveLaunchSession State.expired
  dsimp only
  split
  case isTrue unexpired =>
    rw [expireLaunchSessions_eq_nil unexpired]
    obtain ⟨launches, startups, running, webrtc⟩ := reserve_kept state.owners remoteAddress
    have counted := sound.counted.reserve remoteAddress
    refine .of_sound ⟨counted, sound.settled.carry sound.counted counted ?_⟩
    intro none noStartups noneRunning noWebrtc
    exact ⟨launches none, startups ▸ noStartups, running ▸ noneRunning, webrtc ▸ noWebrtc⟩
  case isFalse =>
    have counted : (state.owners.expireLaunchSessions now).1.Counted := sound.counted.of_launches _
    exact sound.finalize (counted.reserve remoteAddress) host _ _

theorem sessionClear (id : UInt32) (host : Host) : Kept state (state.sessionClear id host) := by
  unfold State.sessionClear
  dsimp only
  split
  · exact .of_sound sound
  · exact sound.finalize (sound.counted.of_launches _) host _ _

theorem cancelPendingLaunches (host : Host) : Kept state (state.cancelPendingLaunches host) := by
  unfold State.cancelPendingLaunches
  split
  · exact .of_sound sound
  · exact sound.finalize (sound.counted.of_launches _) host _ _

theorem runStartup (launch : Launch) (pushed : Bool) : (state.runStartup launch pushed).Sound := by
  have counted : (state.runStartup launch pushed).owners.Counted := by
    refine ⟨?_, sound.counted.running, sound.counted.teardowns⟩
    have tasks := sound.counted.startups
    cases pushed <;> simp [State.runStartup] <;> omega
  refine .of_owned counted sound.settled.started ?_
  simp [State.runStartup, Owners.hasSharedRuntimeOwner, Owners.hasPendingLaunchOrStartup]

theorem startSession (launch : Launch) (deferred : Bool) :
    (state.startSession launch deferred).Sound := by
  have counted : (state.startSession launch deferred).owners.Counted := by
    refine ⟨sound.counted.startups, ?_, sound.counted.teardowns⟩
    have running := sound.counted.running
    simp only [State.startSession, List.length_append, List.length_singleton]
    omega
  refine .of_owned counted ?_ (Owners.owned_of_running (by simp [State.startSession]))
  unfold State.startSession
  dsimp only
  split
  · exact sound.settled.started
  · split
    · exact sound.settled.started
    · exact fun _ => rfl

theorem startupWorker (now : Nat) (start : Start) : (state.startupWorker now start).Sound := by
  unfold State.startupWorker
  cases waiting : state.owners.queued with
  | nil => exact sound
  | cons launch queued =>
      let owners : Owners := { state.owners with
        queued, finishing := state.owners.finishing ++ [launch.guid] }
      have counted : owners.Counted := by
        refine ⟨?_, sound.counted.running, sound.counted.teardowns⟩
        have tasks := sound.counted.startups
        simp only [owners, waiting, List.length_append, List.length_cons, List.length_nil] at tasks ⊢
        omega
      have posted : State.Sound ⟨owners, state.runtime⟩ :=
        ⟨counted, sound.settled.carry sound.counted counted fun launches startups running webrtc =>
          ⟨launches, startups, running, webrtc⟩⟩
      dsimp only
      split
      · exact posted
      · cases start with
        | failed => exact posted
        | started => exact posted.startSession launch false
        | deferred => exact posted.startSession launch true

theorem finishStartup (index : Nat) (host : Host) : Kept state (state.finishStartup index host) := by
  unfold State.finishStartup
  cases here : state.owners.finishing[index]? with
  | none => exact .of_sound sound
  | some guid =>
      let owners : Owners := { state.owners with
        startupTasks := state.owners.startupTasks - 1
        finishing := state.owners.finishing.eraseIdx index }
      have counted : owners.Counted := by
        refine ⟨?_, sound.counted.running, sound.counted.teardowns⟩
        obtain ⟨bound, -⟩ := List.getElem?_eq_some_iff.mp here
        have tasks := sound.counted.startups
        simp only [owners, List.length_eraseIdx, bound, if_true]
        omega
      exact sound.finalize counted host "rtsp_startup_finished" (some guid)

theorem applyDeferredStart : state.applyDeferredStart.Sound := by
  have same : State.Sound ⟨state.owners, { state.runtime with deferredStart := false }⟩ :=
    ⟨sound.counted, sound.settled.started, sound.settled.owned⟩
  unfold State.applyDeferredStart
  dsimp only
  split
  · exact sound
  · split
    · exact same
    case isFalse running =>
      exact .of_owned sound.counted (fun _ => rfl) (Owners.owned_of_running running)

theorem stop (index : Nat) : (state.stop index).Sound := by
  have counted : (state.stop index).owners.Counted := by
    refine ⟨sound.counted.startups, ?_, sound.counted.teardowns⟩
    simpa only [State.stop, List.length_modify] using sound.counted.running
  exact ⟨counted, sound.settled.carry sound.counted counted fun launches startups running webrtc =>
    ⟨launches, startups, running, webrtc⟩⟩

theorem take (selected : Session → Bool) :
    State.Sound ⟨state.owners.take selected, state.runtime⟩ := by
  have counted := sound.counted.take selected
  exact ⟨counted, sound.settled.carry sound.counted counted fun launches startups running webrtc =>
    ⟨launches, startups, running, webrtc⟩⟩

theorem join (index : Nat) : (state.join index).Sound := by
  unfold State.join
  cases here : state.owners.taken[index]? with
  | none => exact sound
  | some session =>
      obtain ⟨bound, -⟩ := List.getElem?_eq_some_iff.mp here
      have counts := sound.counted.running
      have teardowns := sound.counted.teardowns
      refine .of_owned ⟨sound.counted.startups, ?_, ?_⟩ sound.settled.started ?_
      · simp only [List.length_eraseIdx, bound, if_true, List.length_append, List.length_singleton]
        omega
      · simp only [List.length_append, List.length_singleton]
        omega
      · exact Owners.owned_of_running (by dsimp only; omega)

/-- The session that ends last is the last that is torn down, and finalizes. -/
theorem joined (index : Nat) (host : Host) : Kept state (state.joined index host) := by
  unfold State.joined
  cases here : state.owners.joining[index]? with
  | none => exact .of_sound sound
  | some session =>
      obtain ⟨bound, -⟩ := List.getElem?_eq_some_iff.mp here
      have counts := sound.counted.running
      have teardowns := sound.counted.teardowns
      let owners : Owners := { state.owners with
        joining := state.owners.joining.eraseIdx index
        runningSessions := state.owners.runningSessions - 1 }
      let released : Owners := { owners with teardownSessions := owners.teardownSessions - 1 }
      have counted : released.Counted := by
        refine ⟨sound.counted.startups, ?_, ?_⟩
        · simp only [released, owners, List.length_eraseIdx, bound, if_true]
          omega
        · simp only [released, owners, List.length_eraseIdx, bound, if_true]
          omega
      dsimp only
      by_cases last : state.owners.runningSessions - 1 = 0
      · rw [if_pos last]
        let runtime : Runtime := { state.runtime with deferredStart := false }
        let context : FinalizeContext := ⟨"rtsp_session_end", true, false, some session.guid⟩
        have ignoring : owners.hasSharedRuntimeOwner true = released.hasSharedRuntimeOwner false :=
          hasSharedRuntimeOwner_ignoring owners
        refine ⟨⟨counted, ?_⟩, fun finalized => ?_⟩
        · have started : runtime.platformStarted = true → runtime.armed = true :=
            sound.settled.started
          have settled := Runtime.finalizeIfIdle_settled started host context owners
          exact ignoring ▸ settled
        · have returned : (runtime.finalizeIfIdle host context owners).2 = true := finalized
          obtain ⟨unowned, done⟩ := Runtime.finalizeIfIdle_eq_true returned
          exact ⟨ignoring ▸ unowned, done.disarmed, done.stopped, done.cleaned⟩
      · rw [if_neg last]
        exact .of_sound (.of_owned counted sound.settled.started (Owners.owned_of_running last))

theorem webrtcRaise (guid : Guid) (startPlatform : Bool) :
    (state.webrtcRaise guid startPlatform).Sound := by
  refine .of_owned ⟨sound.counted.startups, sound.counted.running, sound.counted.teardowns⟩ ?_ ?_
  · cases startPlatform <;> exact fun _ => rfl
  · simp [State.webrtcRaise, Owners.hasSharedRuntimeOwner]

theorem webrtcRelease (guid : Guid) (host : Host) : Kept state (state.webrtcRelease guid host) := by
  unfold State.webrtcRelease
  split
  · exact .of_sound sound
  · have counted : { state.owners with webrtcOwners := state.owners.webrtcOwners - 1 }.Counted :=
      ⟨sound.counted.startups, sound.counted.running, sound.counted.teardowns⟩
    dsimp only
    split
    case isTrue remaining =>
      refine .of_sound (.of_owned counted sound.settled.started ?_)
      simp [Owners.hasSharedRuntimeOwner, remaining]
    case isFalse =>
      exact ⟨⟨counted, Runtime.finalizeIfIdle_settled sound.settled.started host _ _⟩,
        fun finalized => Runtime.finalizeIfIdle_eq_true finalized⟩

theorem perform (event : Event) : Kept state (perform event state) := by
  cases event with
  | sessionRaise entry => exact .of_sound (sound.sessionRaise entry)
  | reserveLaunchSession remoteAddress now host =>
      exact sound.reserveLaunchSession remoteAddress now host
  | armLaunchTimer now host => exact sound.armLaunchTimer now host
  | sessionClear id host => exact sound.sessionClear id host
  | cancelPendingLaunches host => exact sound.cancelPendingLaunches host
  | runStartup launch pushed => exact .of_sound (sound.runStartup launch pushed)
  | startupWorker now start => exact .of_sound (sound.startupWorker now start)
  | finishStartup index host => exact sound.finishStartup index host
  | applyDeferredStart => exact .of_sound sound.applyDeferredStart
  | stop index => exact .of_sound (sound.stop index)
  | clear all => exact .of_sound (sound.take _)
  | disconnectClient clientUuid =>
      refine .of_sound ?_
      split
      · exact sound
      · exact sound.take _
  | join index => exact .of_sound (sound.join index)
  | joined index host => exact sound.joined index host
  | webrtcRaise guid startPlatform => exact .of_sound (sound.webrtcRaise guid startPlatform)
  | webrtcRelease guid host => exact sound.webrtcRelease guid host

end State.Sound

/-! ## Runs -/

/-- The state after a list of sections. -/
def reached (past : List Event) : State := run step past .initial

theorem sound_of_reached (past : List Event) : (reached past).Sound := by
  refine run_preserves step State.Sound (fun event state sound => (sound.perform event).sound) past ?_
  exact ⟨⟨rfl, rfl, rfl⟩, nofun, nofun⟩

/-- The finalizer returns true only where no launch, startup, session, teardown or WebRTC owner
is left, and where none is left it has. -/
theorem reached_finalized_when_idle (past : List Event) :
    (∀ event, finalizes event (reached past) = true →
      (reached (past ++ [event])).owners = .none ∧
        Finalized (reached past).runtime (reached (past ++ [event])).runtime) ∧
      ((reached past).owners.hasSharedRuntimeOwner false = false →
        (reached past).runtime.armed = false ∧
          (reached past).runtime.platformStarted = false) := by
  have sound := sound_of_reached past
  constructor
  · intro event finalized
    have kept := sound.perform event
    have next : reached (past ++ [event]) = (perform event (reached past)).1 :=
      run_append step past [event] .initial
    obtain ⟨unowned, done⟩ := kept.finalized finalized
    rw [next]
    exact ⟨kept.sound.counted.eq_none unowned, done⟩
  · intro unowned
    have disarmed : (reached past).runtime.armed = false :=
      Bool.eq_false_iff.mpr fun armed =>
        nomatch unowned.symm.trans (sound.settled.owned armed)
    exact ⟨disarmed, Bool.eq_false_iff.mpr fun started =>
      nomatch disarmed.symm.trans (sound.settled.started started)⟩

/-! Two clients; the first is joined while the second still runs. -/

def idleHost : Host := ⟨0, false, false, 0⟩

def launchOf (id : UInt32) : Launch := ⟨id, "moonlight", "client", [1], 10, false, ""⟩

def twoClients : List Event :=
  [.sessionRaise (launchOf 1), .sessionRaise (launchOf 2), .reserveLaunchSession "a" 0 idleHost,
    .runStartup (launchOf 1) true, .runStartup (launchOf 2) true, .startupWorker 1 .started,
    .startupWorker 2 .started, .finishStartup 0 idleHost, .finishStartup 0 idleHost,
    .sessionClear 1 idleHost, .stop 0, .clear false, .join 0, .clear true, .join 0,
    .joined 0 idleHost, .armLaunchTimer 10 idleHost]

theorem reached_finalized_when_idle_twoClients :
    (reached (twoClients ++ [.joined 0 idleHost])).owners = .none ∧
      (reached (twoClients ++ [.joined 0 idleHost])).runtime.armed = false ∧
      (reached (twoClients ++ [.joined 0 idleHost])).runtime.platformStarted = false := by
  have ended := ((reached_finalized_when_idle twoClients).1 (.joined 0 idleHost)
    (by decide +kernel)).1
  have disarmed := (reached_finalized_when_idle (twoClients ++ [.joined 0 idleHost])).2
    (by decide +kernel)
  exact ⟨ended, disarmed⟩

end UmbraHost.SharedRuntime
