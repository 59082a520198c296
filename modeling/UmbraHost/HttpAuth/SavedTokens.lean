import UmbraHost.HttpAuth.ConcurrentSaves
import UmbraHost.Snapshots.InOrder
import UmbraHost.Transition.Run

/-! # Tokens in the state file

Each manager snapshots its tokens under one lock and writes them under another.
While the writes of a manager follow the order of its snapshots, the file has the
tokens of the memory as soon as all operations have returned. -/

namespace UmbraHost.HttpAuth

open UmbraHost.Snapshots UmbraHost.Tables

def Thread.heldApi : Thread → Option (Nat × List ApiTokenNode)
  | .writeApiTokens number nodes => some (number, nodes)
  | _ => none

def Thread.heldSessions : Thread → Option (Nat × List SessionNode)
  | .writeSessionTokens number nodes => some (number, nodes)
  | _ => none

namespace Shared

def apiView (dependencies : Dependencies) (shared : Shared) : View (List ApiTokenNode) where
  value := apiNodes dependencies shared.apiTokens
  file := shared.file.apiTokens
  taken := shared.apiTaken
  written := shared.apiWritten

def sessionsView (dependencies : Dependencies) (shared : Shared) : View (List SessionNode) where
  value := saveNodes dependencies shared.sessions.sessionTokens
  file := shared.file.sessionTokens
  taken := shared.sessionsTaken
  written := shared.sessionsWritten

end Shared

variable {dependencies : Dependencies} {shared : Shared} {threads : List Thread} {index : Nat}
  {thread : Thread}

/-! ## Blocks -/

/-- A block of the session manager marks the manager dirty or leaves its sessions. -/
def Marked (sessions sessions' : SessionTokenManager) : Prop :=
  sessions'.dirty = true ∨
    sessions'.sessionTokens = sessions.sessionTokens ∧ sessions'.dirty = sessions.dirty

namespace SessionTokenManager

variable {manager : SessionTokenManager}

theorem marked_cleanupLocked (now : Int) : Marked manager (manager.cleanupLocked now) := by
  cases erased : manager.sessionTokens.entries.filter
      fun entry => decide (now > entry.2.refreshExpiresAt) with
  | nil =>
      right
      refine ⟨AList.ext ?_, ?_⟩
      · refine List.filter_eq_self.mpr fun entry member => ?_
        have valid := List.filter_eq_nil_iff.mp erased entry member
        simpa using valid
      · simp only [cleanupLocked, erased, List.isEmpty_nil, Bool.not_true, Bool.or_false]
  | cons entry rest =>
      left
      simp only [cleanupLocked, erased, List.isEmpty_cons, Bool.not_false, Bool.or_true]

theorem marked_revokeLocked (tokenHash : Text) :
    (manager.revokeLocked tokenHash).1.dirty = true ∧
        (manager.revokeLocked tokenHash).2 = true ∨
      manager.revokeLocked tokenHash = (manager, false) := by
  rw [revokeLocked]
  split
  · exact .inr rfl
  · exact .inl ⟨rfl, rfl⟩

theorem marked_refreshLocked (dependencies : Dependencies) (manager : SessionTokenManager)
    (config : Config) (refreshToken userAgent remoteAddress : Text)
    (randoms : Randoms) (now : Int) :
    (manager.refreshLocked dependencies config refreshToken userAgent remoteAddress randoms
        now).1.dirty = true ∨
      (manager.refreshLocked dependencies config refreshToken userAgent remoteAddress randoms
        now).1 = manager := by
  simp only [refreshLocked]
  split
  · exact .inr rfl
  · split
    · exact .inl rfl
    · split
      · exact .inl rfl
      · exact .inl rfl

end SessionTokenManager

/-! ## Turns -/

/-- A turn that leaves the API tokens and their part of the file. -/
theorem api_keep {next : Thread} {shared' : Shared} (here : threads[index]? = some thread)
    (same : shared'.apiView dependencies = shared.apiView dependencies)
    (empty : thread.heldApi = none) (empty' : next.heldApi = none)
    (other : thread ≠ .saveApiTokens) :
    Turn Thread.heldApi thread next (shared.apiView dependencies) (shared'.apiView dependencies)
      (.saveApiTokens ∈ threads) (.saveApiTokens ∈ threads.set index next) :=
  .keep empty empty' same fun member => mem_set_of_ne here member fun equal => other equal.symm

theorem api_turn (dependencies : Dependencies) (shared : Shared)
    (here : threads[index]? = some thread) :
    Turn Thread.heldApi thread (thread.run dependencies shared).2 (shared.apiView dependencies)
      ((thread.run dependencies shared).1.apiView dependencies)
      (.saveApiTokens ∈ threads)
      (.saveApiTokens ∈ threads.set index (thread.run dependencies shared).2) := by
  have marked (next : Thread) (saves : next = .saveApiTokens) :
      Thread.saveApiTokens ∈ threads.set index next := by
    obtain ⟨inside, -⟩ := List.getElem?_eq_some_iff.mp here
    rw [← saves]
    exact List.mem_set inside next
  cases thread with
  | called operation =>
      cases operation with
      | createApiToken tokenHash info => exact .change rfl rfl (marked _ rfl) rfl
      | revokeApiTokenByHash tokenHash =>
          simp only [Thread.run, Operation.run]
          split
          · exact api_keep here rfl rfl rfl nofun
          · split
            · exact .change rfl rfl (marked _ rfl) rfl
            · exact api_keep here rfl rfl rfl nofun
      | issueSessionTokens config login randoms now cleanupNow =>
          exact api_keep here rfl rfl rfl nofun
      | refreshSessionTokens config refreshToken userAgent remoteAddress randoms now =>
          simp only [Thread.run, Operation.run]
          split
          · exact api_keep here rfl rfl rfl nofun
          · refine api_keep here rfl rfl ?_ nofun
            dsimp only
            split <;> rfl
      | revokeSessionByHash tokenHash =>
          refine api_keep here rfl rfl ?_ nofun
          simp only [Thread.run, Operation.run]
          split <;> rfl
      | revokeRefreshToken refreshToken =>
          simp only [Thread.run, Operation.run]
          split
          · exact api_keep here rfl rfl rfl nofun
          · split
            · exact api_keep here rfl rfl rfl nofun
            · exact api_keep here rfl rfl rfl nofun
  | cleanup cleanupNow => exact api_keep here rfl rfl rfl nofun
  | saveApiTokens => exact .take rfl rfl rfl
  | writeApiTokens number nodes =>
      exact .write number nodes rfl rfl rfl fun member => mem_set_of_ne here member nofun
  | saveSessionTokens =>
      simp only [Thread.run]
      split
      · exact api_keep here rfl rfl rfl nofun
      · exact api_keep here rfl rfl rfl nofun
  | writeSessionTokens number nodes => exact api_keep here rfl rfl rfl nofun
  | returned => exact api_keep here rfl rfl rfl nofun

theorem sessions_turn (dependencies : Dependencies) (shared : Shared) (thread : Thread) :
    Turn Thread.heldSessions thread (thread.run dependencies shared).2
      (shared.sessionsView dependencies)
      ((thread.run dependencies shared).1.sessionsView dependencies)
      (shared.sessions.dirty = true)
      ((thread.run dependencies shared).1.sessions.dirty = true) := by
  cases thread with
  | called operation =>
      cases operation with
      | createApiToken tokenHash info => exact .keep rfl rfl rfl id
      | revokeApiTokenByHash tokenHash =>
          simp only [Thread.run, Operation.run]
          split
          · exact .keep rfl rfl rfl id
          · split
            · exact .keep rfl rfl rfl id
            · exact .keep rfl rfl rfl id
      | issueSessionTokens config login randoms now cleanupNow => exact .change rfl rfl rfl rfl
      | refreshSessionTokens config refreshToken userAgent remoteAddress randoms now =>
          simp only [Thread.run, Operation.run]
          split
          · exact .keep rfl rfl rfl id
          · dsimp only
            have silent (persist : Bool) :
                (if persist then Thread.saveSessionTokens else .returned).heldSessions = none := by
              split <;> rfl
            rcases SessionTokenManager.marked_refreshLocked dependencies shared.sessions config
                refreshToken userAgent remoteAddress randoms now with dirty | same
            · exact .change rfl (silent _) dirty rfl
            · rw [same]
              exact .keep rfl (silent _) rfl id
      | revokeSessionByHash tokenHash =>
          simp only [Thread.run, Operation.run]
          rcases shared.sessions.marked_revokeLocked tokenHash with ⟨dirty, removed⟩ | same
          · rw [removed]
            exact .change rfl rfl dirty rfl
          · rw [same]
            exact .keep rfl rfl rfl id
      | revokeRefreshToken refreshToken =>
          simp only [Thread.run, Operation.run]
          split
          · exact .keep rfl rfl rfl id
          · split
            · exact .keep rfl rfl rfl id
            · exact .keep rfl rfl rfl id
  | cleanup cleanupNow =>
      rcases shared.sessions.marked_cleanupLocked cleanupNow with dirty | ⟨same, clean⟩
      · exact .change rfl rfl dirty rfl
      · refine .keep rfl rfl ?_ fun marked => clean.trans marked
        simp only [Thread.run, Shared.sessionsView, same]
  | saveApiTokens => exact .keep rfl rfl rfl id
  | writeApiTokens number nodes => exact .keep rfl rfl rfl id
  | saveSessionTokens =>
      simp only [Thread.run]
      split
      · exact .take rfl rfl rfl
      · exact .keep rfl rfl rfl id
  | writeSessionTokens number nodes => exact .write number nodes rfl rfl rfl id
  | returned => exact .keep rfl rfl rfl id

/-! ## Runs -/

namespace System

structure Recorded (dependencies : Dependencies) (system : System) : Prop where
  apiCoherent : Coherent (heldBy Thread.heldApi system.threads) system.shared.apiTaken
  apiUpToDate : UpToDate (heldBy Thread.heldApi system.threads)
    (system.shared.apiView dependencies) (.saveApiTokens ∈ system.threads)
  sessionsCoherent : Coherent (heldBy Thread.heldSessions system.threads)
    system.shared.sessionsTaken
  sessionsUpToDate : UpToDate (heldBy Thread.heldSessions system.threads)
    (system.shared.sessionsView dependencies) (system.shared.sessions.dirty = true)

/-- A save that is written next is later than the last one of the same manager that
was written. -/
def InOrder (event : SaveEvent) (system : System) : Prop :=
  match event with
  | .call _ => True
  | .run index =>
      match system.threads[index]? with
      | some (.writeApiTokens number _) => system.shared.apiWritten < number
      | some (.writeSessionTokens number _) => system.shared.sessionsWritten < number
      | _ => True

variable {system : System} {event : SaveEvent}

theorem recorded_call (recorded : system.Recorded dependencies) (operation : Operation) :
    (system.step dependencies (.call operation)).Recorded dependencies := by
  have api : heldBy Thread.heldApi (system.threads ++ [.called operation]) =
      heldBy Thread.heldApi system.threads := heldBy_append_singleton rfl
  have sessions : heldBy Thread.heldSessions (system.threads ++ [.called operation]) =
      heldBy Thread.heldSessions system.threads := heldBy_append_singleton rfl
  constructor
  · simp only [step, api]
    exact recorded.apiCoherent
  · simp only [step, api]
    exact recorded.apiUpToDate.imp_left (List.mem_append_left _)
  · simp only [step, sessions]
    exact recorded.sessionsCoherent
  · simp only [step, sessions]
    exact recorded.sessionsUpToDate

theorem recorded_run (recorded : system.Recorded dependencies)
    (here : system.threads[index]? = some thread) (inOrder : InOrder (.run index) system) :
    (system.step dependencies (.run index)).Recorded dependencies := by
  have api := api_turn dependencies system.shared here
  have sessions := sessions_turn dependencies system.shared thread
  simp only [InOrder, here] at inOrder
  simp only [step, here]
  refine ⟨api.coherent recorded.apiCoherent, ?_, sessions.coherent recorded.sessionsCoherent, ?_⟩
  · refine api.upToDate here recorded.apiCoherent (fun number nodes holds => ?_)
      recorded.apiUpToDate
    cases thread <;> cases holds
    exact inOrder
  · refine sessions.upToDate here recorded.sessionsCoherent (fun number nodes holds => ?_)
      recorded.sessionsUpToDate
    cases thread <;> cases holds
    exact inOrder

theorem recorded_step (recorded : system.Recorded dependencies) (inOrder : InOrder event system) :
    (system.step dependencies event).Recorded dependencies := by
  cases event with
  | call operation => exact recorded_call recorded operation
  | run index =>
      cases here : system.threads[index]? with
      | none =>
          simp only [step, here]
          exact recorded
      | some thread => exact recorded_run recorded here inOrder

/-- Before the first call. -/
def initial (apiTokens : Table Text ApiTokenInfo) (sessions : SessionTokenManager)
    (file : StateFile) : System where
  shared :=
    { apiTokens := apiTokens
      sessions := sessions
      file := file
      apiTaken := 0
      apiWritten := 0
      sessionsTaken := 0
      sessionsWritten := 0 }
  threads := []

/-- The file has the tokens of both managers. -/
structure Persisted (dependencies : Dependencies) (system : System) : Prop where
  apiTokens : system.shared.file.apiTokens = apiNodes dependencies system.shared.apiTokens
  sessionTokens : system.shared.file.sessionTokens =
    saveNodes dependencies system.shared.sessions.sessionTokens

theorem recorded_initial {apiTokens : Table Text ApiTokenInfo} {sessions : SessionTokenManager}
    {file : StateFile} (persisted : (initial apiTokens sessions file).Persisted dependencies) :
    (initial apiTokens sessions file).Recorded dependencies :=
  ⟨.initial, .inr (.inr ⟨rfl, persisted.apiTokens⟩), .initial,
    .inr (.inr ⟨rfl, persisted.sessionTokens⟩)⟩

theorem persisted_of_recorded (recorded : system.Recorded dependencies)
    (returned : ∀ thread ∈ system.threads, thread = .returned)
    (clean : system.shared.sessions.dirty = false) : system.Persisted dependencies := by
  constructor
  · refine recorded.apiUpToDate.file_eq (fun pending => nomatch returned _ pending) ?_
    rintro snapshot ⟨thread, member, holds⟩
    rw [returned thread member] at holds
    cases holds
  · refine recorded.sessionsUpToDate.file_eq (by rw [clean]; nofun) ?_
    rintro snapshot ⟨thread, member, holds⟩
    rw [returned thread member] at holds
    cases holds

/-- While each manager writes its saves in the order of their snapshots, the file has
the tokens of both managers once all operations have returned. -/
theorem run_persisted {apiTokens : Table Text ApiTokenInfo} {sessions : SessionTokenManager}
    {file : StateFile} (persisted : (initial apiTokens sessions file).Persisted dependencies)
    (events : List SaveEvent)
    (inOrder : Transition.Meets (step dependencies) InOrder events
      (initial apiTokens sessions file))
    (returned : ∀ thread ∈ (Transition.run (step dependencies) events
      (initial apiTokens sessions file)).threads, thread = .returned)
    (clean : (Transition.run (step dependencies) events
      (initial apiTokens sessions file)).shared.sessions.dirty = false) :
    (Transition.run (step dependencies) events
      (initial apiTokens sessions file)).Persisted dependencies :=
  persisted_of_recorded
    (Transition.run_preserves_of_meets (step dependencies) (Recorded dependencies)
      (fun _ _ inOrder recorded => recorded_step recorded inOrder) inOrder
      (recorded_initial persisted)) returned clean

/-- Hashes that show their texts, and seconds as ticks. -/
def shownDependencies : Dependencies where
  hash text := text
  ticksPerSecond := 1
  ticks_pos := Int.one_pos

def noSessions : SessionTokenManager where
  sessionTokens := ∅
  refreshIndex := ∅
  dirty := false

/-- A token is created, and revoked when its file has been written. -/
def createdThenRevoked : List SaveEvent :=
  [.call (.createApiToken ['t'] ⟨[], ['u'], 5⟩), .run 0, .run 0, .run 0,
    .call (.revokeApiTokenByHash ['t']), .run 1, .run 1, .run 1]

theorem run_persisted_createdThenRevoked :
    (Transition.run (step shownDependencies) createdThenRevoked
      (initial ∅ noSessions ⟨[], []⟩)).Persisted shownDependencies :=
  run_persisted ⟨rfl, rfl⟩ createdThenRevoked
    ⟨trivial, trivial, trivial, Nat.one_pos, trivial, trivial, trivial, Nat.lt_succ_self 1, trivial⟩
    (by decide) rfl

/-- The token is revoked while the save of its creation has its snapshot but is not
written. -/
def revokedBeforeWritten : List SaveEvent :=
  [.call (.createApiToken ['t'] ⟨[], ['u'], 5⟩), .run 0, .run 0,
    .call (.revokeApiTokenByHash ['t']), .run 1, .run 1, .run 1, .run 0]

theorem revokedBeforeWritten_persists_token :
    let system := Transition.run (step shownDependencies) revokedBeforeWritten
      (initial ∅ noSessions ⟨[], []⟩)
    (∀ thread ∈ system.threads, thread = .returned) ∧ system.shared.sessions.dirty = false ∧
      system.shared.apiTokens.lookup ['t'] = none ∧
      system.shared.file.apiTokens.map ApiTokenNode.hash = [['t']] ∧
      ¬ system.Persisted shownDependencies := by
  refine ⟨by decide, rfl, by decide, by decide, fun persisted => ?_⟩
  exact absurd persisted.apiTokens (by decide)

end System

end UmbraHost.HttpAuth
