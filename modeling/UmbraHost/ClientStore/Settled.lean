import UmbraHost.ClientStore.Replay
import UmbraHost.ClientStore.Tasks
import UmbraHost.Snapshots.InOrder

/-! # The store once all operations have returned

As long as no snapshot is written behind a later one and nothing is reloaded from a file
that lacks an edit, `client_root` agrees with the edits made so far.  An edit that the
file lacks has a thread that will write it. -/

namespace UmbraHost.ClientStore

open UmbraHost.Json UmbraHost.StateFiles UmbraHost.Transition

/-! ## Reloading -/

variable {named : Prop} {clients saved : List NamedCert}

theorem bases_storedNames (earlier names : List String) :
    List.Forall₂ (fun name stored => baseName stored = baseName name) names
      (storedNames earlier names) := by
  induction names generalizing earlier with
  | nil => exact .nil
  | cons name rest ih =>
      exact .cons (baseName_finalName (baseName_baseName name) _) (ih _)

theorem Same.reloaded {expected actual : NamedCert} {name : String}
    (same : Same named expected actual) (base : baseName name = baseName actual.name)
    (exact_name : named → name = expected.name) (normalized : Normalized actual.configOverrides)
    (masked : actual.perm &&& Perm.all = actual.perm) :
    Same named expected (reloaded actual name) where
  settings := by
    rw [StateFiles.reloaded, masked, same.settings]
  overrides key := (lookup_reloadOverrides normalized key).trans (same.overrides key)
  base := base.trans same.base
  name := exact_name

theorem Agree.zipWith_reloaded {names : List String} (agree : Agree named clients saved)
    (bases : List.Forall₂ (fun name stored => baseName stored = baseName name)
      (saved.map NamedCert.name) names)
    (exact_names : named → names = clients.map NamedCert.name)
    (normalized : ∀ namedCert ∈ saved, Normalized namedCert.configOverrides)
    (masked : ∀ namedCert ∈ saved, namedCert.perm &&& Perm.all = namedCert.perm) :
    Agree named clients (List.zipWith reloaded saved names) := by
  induction agree generalizing names with
  | nil => exact .nil
  | cons same _ ih =>
      cases bases with
      | cons base bases =>
          refine .cons (same.reloaded base (fun holds => (List.cons.inj (exact_names holds)).1)
            (normalized _ List.mem_cons_self) (masked _ List.mem_cons_self)) ?_
          exact ih bases (fun holds => (List.cons.inj (exact_names holds)).2)
            (fun namedCert member => normalized namedCert (List.mem_cons_of_mem _ member))
            (fun namedCert member => masked namedCert (List.mem_cons_of_mem _ member))

/-- What `load_state` reads after `save_state` wrote clients that agree. -/
theorem Agree.reload (agree : Agree named clients saved) (storable : Storable clients)
    (kept : named →
      storedNames [] (clients.map NamedCert.name) = clients.map NamedCert.name) :
    ∃ loaded, (namedCertNodes [] [] saved).mapM loadNamedCert = .ok loaded ∧
      Agree named clients loaded := by
  have storable : Storable saved := storable.of_agree agree
  have nodes : namedCertNodes [] [] saved =
      List.zipWith namedCertNode saved (storedNames [] (saved.map NamedCert.name)) :=
    namedCertNodes_eq storable.certs (fun _ _ => List.not_mem_nil) fun _ => rfl
  have read := mapM_loadNamedCert rendering_id (storedNames [] (saved.map NamedCert.name))
    fun namedCert member => (storable.normalized namedCert member).exists_key
  rw [List.map_id, ← nodes] at read
  refine ⟨_, read, agree.zipWith_reloaded (bases_storedNames _ _) ?_ storable.normalized
    storable.masked⟩
  intro holds
  rw [agree.names holds]
  exact kept holds

/-! ## The invariant -/

namespace Task

/-- The thread will write a snapshot with that many edits. -/
def saves (edits : Nat) : Task → Bool
  | .saving _ => true
  | .writing _ version _ => version = edits
  | _ => false

/-- The thread will reload the store. -/
def reloads : Task → Bool
  | .saving reload | .writing _ _ reload => reload
  | .loading => true
  | _ => false

/-- What a thread holds after the edits of a log. -/
def Ready (log : List Edit) : Task → Prop
  | .adding client =>
    Normalized client.configOverrides ∧ client.perm &&& Perm.all = client.perm
  | .writing snapshot version _ =>
    version ≤ log.length ∧
      (version = log.length → Agree (NamesKept log) (replay log) snapshot)
  | _ => True

theorem Ready.concat {log : List Edit} {task : Task} (ready : task.Ready log) (edit : Edit) :
    task.Ready (log ++ [edit]) := by
  cases task with
  | adding client => exact ready
  | writing snapshot version reload =>
      obtain ⟨bound, -⟩ := ready
      simp only [Ready, List.length_append, List.length_singleton]
      exact ⟨Nat.le_succ_of_le bound, fun same => absurd same (by omega)⟩
  | _ => trivial

end Task

namespace State

structure Consistent (state : State) : Prop where
  sound : Sound state.log
  agree : Agree (NamesKept state.log) (replay state.log) state.clients
  ready : ∀ task ∈ state.tasks, task.Ready state.log
  file_le : state.fileVersion ≤ state.log.length
  file : state.fileVersion = state.log.length → ∃ saved,
    state.file = namedCertNodes [] [] saved ∧
      Agree (NamesKept state.log) (replay state.log) saved
  unsaved : state.fileVersion = state.log.length ∨
    ∃ task ∈ state.tasks, task.saves state.log.length = true
  chain : state.certChain = identities state.clients ∨
    ∃ task ∈ state.tasks, task.reloads = true

variable {state : State} {index : Nat} {task next : Task}

theorem forall_mem_set {tasks : List Task} {property : Task → Prop}
    (all : ∀ task ∈ tasks, property task) (new : property next) :
    ∀ task ∈ tasks.set index next, property task := by
  intro task member
  rcases List.mem_or_eq_of_mem_set member with old | rfl
  · exact all task old
  · exact new

theorem exists_mem_set {tasks : List Task} {property : Task → Prop}
    (here : tasks[index]? = some task) (kept : property task → property next)
    (some_task : ∃ task ∈ tasks, property task) :
    ∃ task ∈ tasks.set index next, property task := by
  obtain ⟨other, member, holds⟩ := some_task
  by_cases same : other = task
  · subst same
    obtain ⟨inside, -⟩ := List.getElem?_eq_some_iff.mp here
    exact ⟨next, List.mem_set inside next, kept holds⟩
  · exact ⟨other, Snapshots.mem_set_of_ne here member same, holds⟩

theorem mem_set_here {tasks : List Task} (here : tasks[index]? = some task) :
    next ∈ tasks.set index next := by
  obtain ⟨inside, -⟩ := List.getElem?_eq_some_iff.mp here
  exact List.mem_set inside next

theorem pairedClient_ready (name cert uuid : String) (firstClient : Bool) (log : List Edit) :
    (Task.adding (pairedClient name cert uuid firstClient)).Ready log := by
  have masked : ∀ first : Bool, (if first then Perm.all else defaultPerm) &&& Perm.all =
      if first then Perm.all else defaultPerm := by decide
  exact ⟨⟨rfl, nofun⟩, masked firstClient⟩

/-- A step that only moves its thread on. -/
theorem Consistent.move (consistent : state.Consistent) (here : state.tasks[index]? = some task)
    (ready : next.Ready state.log)
    (saves : task.saves state.log.length = true → next.saves state.log.length = true)
    (reloads : task.reloads = true → next.reloads = true) :
    Consistent { state with tasks := state.tasks.set index next } where
  sound := consistent.sound
  agree := consistent.agree
  ready := forall_mem_set consistent.ready ready
  file_le := consistent.file_le
  file := consistent.file
  unsaved := consistent.unsaved.imp_right (exists_mem_set here saves)
  chain := consistent.chain.imp_right (exists_mem_set here reloads)

/-- An edit, after which the thread saves. -/
theorem Consistent.edited (consistent : state.Consistent) (here : state.tasks[index]? = some task)
    (edit : Edit) (admissible : Admissible edit (replay state.log))
    (new : ∀ client, edit = .pair client → state.log.any (Edit.pairs client.uuid) = false)
    {reload : Bool} {certChain : List (String × String)}
    (chain : certChain = identities (edit.apply state.clients) ∨
      ∃ task ∈ state.tasks.set index (.saving reload), task.reloads = true) :
    Consistent { state.edit edit with
      certChain := certChain, tasks := state.tasks.set index (.saving reload) } where
  sound := consistent.sound.concat admissible new
  agree := by
    have agree : Agree (NamesKept (state.log ++ [edit])) _ _ :=
      (consistent.agree.apply edit).mono (NamesKept.of_append state.log)
    rw [State.edit, replay_append]
    exact agree
  ready := forall_mem_set (fun task member => (consistent.ready task member).concat edit) trivial
  file_le := by
    simp only [State.edit, List.length_append]
    exact Nat.le_trans consistent.file_le (Nat.le_add_right _ _)
  file same := by
    have bound := consistent.file_le
    simp only [State.edit, List.length_append, List.length_singleton] at same
    omega
  unsaved := .inr ⟨_, mem_set_here here, rfl⟩
  chain := chain

theorem has_iff (uuid : String) :
    state.has uuid = true ↔ uuid ∈ state.clients.map NamedCert.uuid := by
  simp only [has, List.any_eq_true, decide_eq_true_eq, List.mem_map]

theorem Consistent.unpair (consistent : state.Consistent)
    {uuid : String} (present : state.has uuid = true) :
    Admissible (.unpair uuid) (replay state.log) := by
  rw [has_iff, consistent.agree.uuids] at present
  exact present

theorem Consistent.pair (consistent : state.Consistent) {client : NamedCert}
    (ready : (Task.adding client).Ready state.log) (new : state.issued client.uuid = false)
    (fits : state.Fits (.adding client)) : Admissible (.pair client) (replay state.log) := by
  obtain ⟨-, newCert, first⟩ := fits
  refine ⟨consistent.agree.certs ▸ newCert, ?_, ready.1, ready.2, fun all => ?_⟩
  · refine not_mem_run List.not_mem_nil fun edit member => ?_
    have none := List.any_eq_false.mp new edit member
    simpa using none
  · have agree := consistent.agree
    rw [first all] at agree
    exact List.forall₂_nil_right_iff.mp agree

theorem identities_updateFirst (uuid : String) (change : Update) (clients : List NamedCert) :
    identities ((Edit.update uuid change).apply clients) = identities clients := by
  simp only [Edit.apply]
  induction clients with
  | nil => rfl
  | cons first rest ih =>
      simp only [updateFirst]
      split
      · simp [identities]
      · simpa [identities] using ih

theorem Consistent.write (consistent : state.Consistent) {snapshot : List NamedCert}
    {version : Nat} {reload : Bool}
    (here : state.tasks[index]? = some (.writing snapshot version reload))
    (later : state.fileVersion ≤ version) :
    Consistent { state with
      file := namedCertNodes [] [] snapshot, fileVersion := version
      tasks := state.tasks.set index (if reload then .loading else .returned) } where
  sound := consistent.sound
  agree := consistent.agree
  ready := forall_mem_set consistent.ready (by split <;> trivial)
  file_le := (consistent.ready _ (List.mem_of_getElem? here)).1
  file same := ⟨snapshot, rfl, (consistent.ready _ (List.mem_of_getElem? here)).2 same⟩
  unsaved := by
    by_cases latest : version = state.log.length
    · exact .inl latest
    · right
      rcases consistent.unsaved with saved | pending
      · have bound := (consistent.ready _ (List.mem_of_getElem? here)).1
        omega
      · exact exists_mem_set here (fun saves => absurd (by simpa [Task.saves] using saves) latest)
          pending
  chain := consistent.chain.imp_right (exists_mem_set here (by cases reload <;> simp [Task.reloads]))

theorem Consistent.load (consistent : state.Consistent) (index : Nat)
    (upToDate : state.fileVersion = state.log.length) :
    ∃ loaded, state.stored = .ok loaded ∧
      Consistent { state with
        clients := loaded, certChain := identities loaded
        tasks := state.tasks.set index .returned } := by
  obtain ⟨saved, file, agree⟩ := consistent.file upToDate
  obtain ⟨loaded, read, agree'⟩ := agree.reload consistent.sound.storable
    fun kept => kept state.log [] (by simp)
  refine ⟨loaded, by rw [stored, file, read], ?_⟩
  exact {
    consistent with
    agree := agree'
    ready := forall_mem_set consistent.ready trivial
    unsaved := .inl upToDate
    chain := .inl rfl }

theorem advance_consistent (consistent : state.Consistent)
    (here : state.tasks[index]? = some task) (fits : state.Fits task) :
    Consistent { (state.advance task).1 with
      tasks := state.tasks.set index (state.advance task).2 } := by
  have ready : task.Ready state.log := consistent.ready task (List.mem_of_getElem? here)
  cases task with
  | pairing name cert uuid =>
      exact consistent.move here (pairedClient_ready name cert uuid _ state.log) nofun nofun
  | adding client =>
      simp only [advance]
      cases issued : state.issued client.uuid with
      | true => exact consistent.move here ready id id
      | false =>
          simp only [Bool.false_eq_true, if_false, fits.1]
          refine consistent.edited here (.pair client) (consistent.pair ready issued fits) ?_
            (.inr ⟨_, mem_set_here here, rfl⟩)
          rintro other same
          cases same
          exact issued
  | unpairing uuid =>
      simp only [advance]
      cases present : state.has uuid with
      | true =>
          exact consistent.edited here (.unpair uuid) (consistent.unpair present) nofun
            (.inr ⟨_, mem_set_here here, rfl⟩)
      | false => exact consistent.move here trivial nofun nofun
  | updating uuid change =>
      simp only [advance]
      cases present : state.has uuid with
      | true =>
          refine consistent.edited here (.update uuid change) trivial nofun ?_
          rw [identities_updateFirst]
          exact consistent.chain.imp_right (exists_mem_set here nofun)
      | false => exact consistent.move here trivial nofun nofun
  | seen uuid now =>
      have kept : state.freshState = false := fits
      simp only [advance, kept]
      split
      · exact consistent.move here trivial nofun nofun
      · split
        · exact consistent.move here trivial nofun nofun
        · refine consistent.edited here (.update uuid (.lastSeen now)) trivial nofun ?_
          rw [identities_updateFirst]
          exact consistent.chain.imp_right (exists_mem_set here nofun)
  | erasing => exact consistent.edited here .erase trivial nofun (.inl rfl)
  | saving reload =>
      exact consistent.move here ⟨Nat.le_refl _, fun _ => consistent.agree⟩
        (fun _ => decide_eq_true rfl) id
  | writing snapshot version reload => exact consistent.write here fits
  | loading =>
      obtain ⟨loaded, read, after⟩ := consistent.load index fits
      simp only [advance, read]
      exact after
  | returned => exact consistent.move here trivial id id

theorem begin_ready (operation : Operation) (log : List Edit) : operation.begin.Ready log := by
  cases operation with
  | pair name cert uuid =>
      simp only [Operation.begin]
      -- the name itself does not matter, and must not be evaluated
      generalize isPlaceholderClientName name = refused
      split <;> exact True.intro
  | updateDeviceInfo uuid info =>
      simp only [Operation.begin]
      generalize isPlaceholderClientName (trimCopy info.name) = refused
      split <;> exact True.intro
  | setClientHdrProfile uuid profile | markClientLastSeen uuid now =>
      simp only [Operation.begin]
      split <;> exact True.intro
  | unpair uuid | updatePermissions uuid info | eraseAllClients => exact True.intro

theorem step_consistent (event : Event) (state : State) (inOrder : InOrder event state)
    (consistent : state.Consistent) : (step event state).Consistent := by
  cases event with
  | call operation =>
      exact {
        consistent with
        ready := fun task member => by
          rcases List.mem_append.mp member with old | new
          · exact consistent.ready task old
          · rw [List.mem_singleton.mp new]
            exact begin_ready operation state.log
        unsaved := consistent.unsaved.imp_right fun ⟨task, member, saves⟩ =>
          ⟨task, List.mem_append_left _ member, saves⟩
        chain := consistent.chain.imp_right fun ⟨task, member, reloads⟩ =>
          ⟨task, List.mem_append_left _ member, reloads⟩ }
  | advance index =>
      cases here : state.tasks[index]? with
      | none => simpa only [step, here] using consistent
      | some task =>
          simp only [InOrder, here] at inOrder
          simp only [step, here]
          exact advance_consistent consistent here inOrder

theorem initial_consistent (freshState : Bool) : (initial freshState).Consistent where
  sound := ⟨trivial, fun front client back split => by simp [initial] at split⟩
  agree := .nil
  ready := nofun
  file_le := Nat.le_refl _
  file _ := ⟨[], rfl, .nil⟩
  unsaved := .inl rfl
  chain := .inl rfl

end State

end UmbraHost.ClientStore
