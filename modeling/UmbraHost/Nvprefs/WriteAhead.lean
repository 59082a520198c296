import UmbraHost.Nvprefs.Interface

/-! # The user's driver setting survives a crash

The undo file has the user's setting before Sunshine's is saved, and it is deleted only after the
user's is saved again.  So a process may end between any two calls. -/

namespace UmbraHost.Nvprefs

open UmbraHost.Interaction

/-! ## Driver and files -/

/-- What is saved in the driver, what the session of the driver has, and the undo file, which
nobody else can open while it is held.  `user` is the last value that came from outside; while
`recovering`, the file of an earlier process is open. -/
structure World where
  saved : Option Setting
  session : Option Setting := none
  file : Option Contents := none
  held : Bool := false
  user : Option Nat
  recovering : Bool := false
deriving DecidableEq

def effective (setting : Option Setting) : Option Nat := setting.map Setting.u32CurrentValue

/-- `NvAPI_DRS_GetSetting` with these settings. -/
def Looked.Sees (looked : Looked) (setting : Option Setting) : Prop :=
  match looked with
  | .found seen => setting = some seen
  | .settingNotFound => setting = none
  | .failed => True

/-- Any call may fail, and one that failed may have done its work all the same.  Only while an
earlier file is restored from are the driver and the reading of the file taken to work. -/
def Answers (before : World) : Event Call Reply → World → Prop
  | ⟨.loadSettings, loaded⟩, after =>
      ∃ session, (loaded = true → session = before.saved) ∧ after = { before with session }
  | ⟨.saveSettings, saved⟩, after =>
      (before.recovering = true → saved = true) ∧
        (saved = false ∧ after = before ∨ after = { before with saved := before.session })
  | ⟨.getBaseProfile, found⟩, after =>
      (before.recovering = true → found = true) ∧ after = before
  | ⟨.getSetting .base, looked⟩, after =>
      (before.recovering = true → looked ≠ .failed) ∧ looked.Sees before.session ∧ after = before
  | ⟨.setSetting .base value, set⟩, after =>
      (before.recovering = true → set = true) ∧
        (set = false ∧ after = before ∨ after = { before with session := some ⟨value, true⟩ })
  | ⟨.deleteProfileSetting .base, status⟩, after =>
      (before.recovering = true → status ≠ .failed) ∧
        (status = .failed ∧ after = before ∨ after = { before with session := none })
  | ⟨.openExistingFile, file⟩, after =>
      match file with
      | .opened =>
          before.file ≠ none ∧ before.held = false ∧ after = { before with recovering := true }
      | .missing => before.file = none ∧ after = before
      | .denied => after = before
  | ⟨.readFile, contents⟩, after => contents = before.file ∧ after = before
  | ⟨.createNewFile, created⟩, after =>
      created = false ∧ after = before ∨ created = true ∧
        before.file = none ∧ after = { before with file := some .torn, held := true }
  | ⟨.clearFile, cleared⟩, after =>
      cleared = false ∧ after = before ∨ after = { before with file := some .torn }
  | ⟨.writeFile data, written⟩, after =>
      written = false ∧ after = { before with file := some .torn } ∨
        after = { before with file := some (.whole data) }
  | ⟨.deleteFile, deleted⟩, after =>
      after = if deleted then { before with file := none, held := false, recovering := false }
        else { before with recovering := false }
  | _, after => after = before

/-! ## What must not be lost -/

section

variable (ours : Nat)

/-- The user's setting is saved, or it is written down next to ours. -/
def Recoverable (world : World) : Prop :=
  effective world.saved = world.user ∨
    world.saved = some ⟨ours, true⟩ ∧
      world.file = some (.whole (.setOpenglSwapchain ours world.user))

structure Sound (world : World) : Prop where
  recoverable : Recoverable ours world
  foreign : world.file ≠ none → world.user ≠ some ours
  records : ∀ data, world.file = some (.whole data) → ∃ undo, data = .setOpenglSwapchain ours undo

/-- A process that has made an undo file knows what is in it when that counts. -/
structure Owns (impl : Impl) (handle : Bool) (world : World) : Prop where
  foreign : world.user ≠ some ours
  ownValue : ∃ undo, impl.undoData = some (.setOpenglSwapchain ours undo)
  live : handle = true → world.held = true ∧ world.file ≠ none
  gone : handle = false → world.file = none
  current : effective world.saved ≠ world.user →
    impl.undoData = some (.setOpenglSwapchain ours world.user)

structure Remembers (impl : Impl) (world : World) : Prop where
  owns : ∀ handle, impl.undoFile = some handle → Owns ours impl handle world
  blank : impl.undoFile = none → impl.undoData = none

/-- What holds at every call: another process, too, keeps what it knows. -/
structure Kept (other : Impl) (world : World) : Prop where
  sound : Sound ours world
  remembers : Remembers ours other world

def driver (other : Impl) : Contract Call Reply World where
  moves := Answers
  safe before request := ∀ reply after, Answers before ⟨request, reply⟩ after →
    Kept ours other before → Kept ours other after

end

variable {ours preferMax : Nat} {impl other : Impl} {world : World}

theorem Sound.saved_of_no_file (sound : Sound ours world) (missing : world.file = none) :
    effective world.saved = world.user := by
  rcases sound.recoverable with same | ⟨-, written⟩
  · exact same
  · rw [missing] at written
    cases written

theorem Sound.user_of_foreign (sound : Sound ours world)
    (differs : effective world.saved ≠ some ours) : effective world.saved = world.user := by
  rcases sound.recoverable with same | ⟨saved, -⟩
  · exact same
  · rw [saved] at differs
    exact absurd rfl differs

theorem Sound.session (sound : Sound ours world) (session : Option Setting) :
    Sound ours { world with session } :=
  { sound with }

/-- What is read from the file is no data, or was written by Sunshine. -/
theorem Sound.known (sound : Sound ours world) {contents : Contents}
    (found : world.file = some contents) :
    contents.read = {} ∨ ∃ undo, contents.read = .setOpenglSwapchain ours undo := by
  cases contents with
  | whole data => exact .inr (sound.records data found)
  | torn => exact .inl rfl

theorem Sound.current (sound : Sound ours world) {contents : Contents}
    (found : world.file = some contents) (differs : effective world.saved ≠ world.user) :
    contents.read = .setOpenglSwapchain ours world.user := by
  obtain ⟨-, written⟩ := sound.recoverable.resolve_left differs
  cases found.symm.trans written
  rfl

theorem Remembers.session (remembers : Remembers ours impl world) (session : Option Setting) :
    Remembers ours impl { world with session } :=
  ⟨fun handle file => { remembers.owns handle file with }, remembers.blank⟩

theorem Kept.session (kept : Kept ours other world) (session : Option Setting) :
    Kept ours other { world with session } :=
  ⟨kept.sound.session session, kept.remembers.session session⟩

theorem Kept.recovering (kept : Kept ours other world) (recovering : Bool) :
    Kept ours other { world with recovering } where
  sound := { kept.sound with }
  remembers :=
    ⟨fun handle file => { kept.remembers.owns handle file with }, kept.remembers.blank⟩

/-- Nobody owns a file that is there but not held. -/
theorem Remembers.no_file (remembers : Remembers ours impl world) (present : world.file ≠ none)
    (free : world.held = false) : impl.undoFile = none := by
  cases file : impl.undoFile with
  | none => rfl
  | some handle =>
      have owns := remembers.owns handle file
      cases handle with
      | true => exact absurd (owns.live rfl).1 (by simp [free])
      | false => exact absurd (owns.gone rfl) present

theorem Remembers.of_no_file (remembers : Remembers ours impl world)
    (missing : impl.undoFile = none) (after : World) : Remembers ours impl after where
  owns handle file := by
    rw [missing] at file
    cases file
  blank := remembers.blank

theorem remembers_new (world : World) : Remembers ours {} world := ⟨nofun, fun _ => rfl⟩

/-! ## Rules of the calls -/

section Rules

variable {α β : Type} {program : Operation α} {rest : α → Operation β} {post : β → World → Prop}

theorem wp_ask {request : Call} {rest : Reply request → Operation β}
    (safe : (driver ours other).safe world request)
    (goes : ∀ reply after, Answers world ⟨request, reply⟩ after →
      wp (driver ours other) (rest reply) post after) :
    wp (driver ours other) (ask request >>= rest) post world :=
  (wp_bind _ _).mpr ((wp_perform _).mpr ⟨safe, goes⟩)

/-- A call that neither the setting nor the file takes part in. -/
def Call.spares : Call → Bool
  | .nvprefsOptions | .programData | .nvapiInitialize | .createSession | .destroySession | .unload
  | .findProfileByName | .createProfile | .getApplicationInfo | .createApplication
  | .getSetting .application | .setSetting .application _ | .deleteProfileSetting .application
  | .createDirectory | .relaxPermissions | .flushFile => true
  | _ => false

theorem Answers.of_spares {before after : World} {request : Call} {reply : Reply request}
    (spares : request.spares = true) (answers : Answers before ⟨request, reply⟩ after) :
    after = before := by
  cases request with
  | getSetting profile | setSetting profile _ | deleteProfileSetting profile =>
      cases profile with
      | base => cases spares
      | application => exact answers
  | _ => first | exact answers | cases spares

theorem wp_spared {request : Call} {rest : Reply request → Operation β}
    (goes : ∀ reply, wp (driver ours other) (rest reply) post world)
    (spares : request.spares = true := by rfl) :
    wp (driver ours other) (ask request >>= rest) post world := by
  apply wp_ask
  · intro reply after answers kept
    obtain rfl : after = world := answers.of_spares spares
    exact kept
  · intro reply after answers
    obtain rfl : after = world := answers.of_spares spares
    exact goes reply

/-- A call that only changes what the session has. -/
theorem wp_session {request : Call} {rest : Reply request → Operation β}
    (changes : ∀ before reply after, Answers before ⟨request, reply⟩ after →
      ∃ session, after = { before with session })
    (goes : ∀ reply after, Answers world ⟨request, reply⟩ after →
      wp (driver ours other) (rest reply) post after) :
    wp (driver ours other) (ask request >>= rest) post world := by
  apply wp_ask _ goes
  intro reply after answers kept
  obtain ⟨session, rfl⟩ := changes world reply after answers
  exact kept.session session

end Rules

/-! ## The driver -/

theorem wp_destroy (impl : Impl) :
    wp (driver ours other) (destroy impl)
      (fun left after => left = { impl with sessionHandle := false } ∧ after = world) world := by
  unfold destroy
  cases handle : impl.sessionHandle with
  | true =>
      refine wp_spared fun _ => ?_
      refine wp_spared fun _ => ?_
      exact ⟨rfl, rfl⟩
  | false =>
      refine wp_spared fun _ => ?_
      refine ⟨?_, rfl⟩
      rw [← handle]

/-- The session alone may have changed, and a reported success says that it is as saved. -/
def Loads (world : World) (left : Bool → Impl) (result : Bool × Impl) (after : World) : Prop :=
  ∃ session, after = { world with session } ∧ result.2 = left result.1 ∧
    (result.1 = true → session = world.saved)

theorem loads_self (left : Bool → Impl) : Loads world left (false, left false) world :=
  ⟨world.session, rfl, rfl, Bool.noConfusion⟩

theorem wp_loadSettings (handle : impl.sessionHandle = true) :
    wp (driver ours other) (loadSettings impl)
      (Loads world fun loaded => { impl with sessionHandle := loaded }) world := by
  unfold loadSettings
  simp only [handle, Bool.not_true, Bool.false_eq_true, if_false]
  apply wp_session
  · rintro before reply after ⟨session, -, same⟩
    exact ⟨session, same⟩
  · rintro loaded after ⟨session, fresh, rfl⟩
    cases loaded with
    | true => exact ⟨session, rfl, by rw [← handle], fresh⟩
    | false =>
        apply wp_seq _ (wp_destroy impl)
        rintro left after ⟨rfl, rfl⟩
        exact ⟨session, rfl, rfl, Bool.noConfusion⟩

theorem wp_load (idle : impl.loaded = false) (closed : impl.sessionHandle = false) :
    wp (driver ours other) (load impl)
      (Loads world fun loaded => { impl with loaded, sessionHandle := loaded }) world := by
  obtain ⟨loaded, sessionHandle, undoData, undoFile⟩ := impl
  cases idle
  cases closed
  refine wp_spared fun folder => ?_
  cases folder with
  | false => exact loads_self _
  | true =>
      apply wp_seq (Loads world fun loaded => { undoData, undoFile, sessionHandle := loaded })
      · refine wp_spared fun initialized => ?_
        cases initialized with
        | false => exact loads_self _
        | true =>
            refine wp_spared fun created => ?_
            cases created with
            | false => exact loads_self _
            | true =>
                exact @wp_loadSettings ours ⟨false, true, undoData, undoFile⟩ other world rfl
      · rintro ⟨loaded, left⟩ after ⟨session, rfl, same, fresh⟩
        obtain rfl : left = { undoData, undoFile, sessionHandle := loaded } := same
        exact ⟨session, rfl, rfl, fresh⟩

theorem wp_unload (running : impl.loaded = true) :
    wp (driver ours other) (unload impl)
      (fun left after => left = { impl with loaded := false, sessionHandle := false } ∧
        after = world) world := by
  unfold unload
  simp only [running, if_true]
  apply wp_seq _ (wp_destroy impl)
  rintro left after ⟨rfl, rfl⟩
  exact ⟨rfl, rfl⟩

/-- Either setting may be saved. -/
theorem wp_saveSettings
    (good : Kept ours other world → Kept ours other { world with saved := world.session }) :
    wp (driver ours other) (saveSettings impl)
      (fun saved after =>
        (after = { world with saved := world.session } ∨ saved = false ∧ after = world) ∧
        (impl.sessionHandle = true → world.recovering = true → saved = true)) world := by
  unfold saveSettings
  cases handle : impl.sessionHandle with
  | false => exact ⟨.inr ⟨rfl, rfl⟩, Bool.noConfusion⟩
  | true =>
      apply (wp_perform _).mpr
      constructor
      · rintro saved after ⟨-, ⟨-, rfl⟩ | rfl⟩ kept
        · exact kept
        · exact good kept
      · rintro saved after ⟨works, outcome⟩
        refine ⟨?_, fun _ => works⟩
        rcases outcome with ⟨failed, rfl⟩ | rfl
        · exact .inr ⟨failed, rfl⟩
        · exact .inl rfl

/-- If ours is found, the user's setting is the one that is written down. -/
theorem wp_putBack {undo : Option Nat} {looked : Looked} (fresh : world.session = world.saved)
    (recoverable : Recoverable ours world) (foreign : world.user ≠ some ours)
    (current : effective world.saved ≠ world.user → undo = world.user)
    (looks : world.recovering = true → looked ≠ .failed) (sees : looked.Sees world.session) :
    wp (driver ours other) (restoreGlobalProfileToUndo.putBack ⟨ours, undo⟩ looked)
      (fun restored after => ∃ session, after = { world with session } ∧
        (restored = true → effective session = world.user) ∧
        (world.recovering = true → restored = true)) world := by
  have others : world.saved ≠ some ⟨ours, true⟩ → effective world.session = world.user := by
    intro differs
    rw [fresh]
    exact recoverable.resolve_right fun found => differs found.1
  have stays (differs : world.saved ≠ some ⟨ours, true⟩) :
      ∃ session, world = { world with session } ∧ (true = true → effective session = world.user) ∧
        (world.recovering = true → true = true) :=
    ⟨world.session, rfl, fun _ => others differs, fun _ => rfl⟩
  cases looked with
  | failed =>
      exact ⟨world.session, rfl, Bool.noConfusion, fun on => absurd rfl (looks on)⟩
  | settingNotFound =>
      have none_ : world.saved = none := fresh.symm.trans sees
      exact stays (by simp [none_])
  | found setting =>
      have seen : world.saved = some setting := fresh.symm.trans sees
      unfold restoreGlobalProfileToUndo.putBack
      dsimp only
      split
      · rename_i same
        obtain ⟨-, value⟩ := (Bool.and_eq_true _ _).mp same
        have differs : effective world.saved ≠ world.user := by
          rw [seen]
          intro equal
          exact foreign (equal.symm.trans (congrArg some (eq_of_beq value)))
        have user := current differs
        cases undo with
        | some undoValue =>
            apply (wp_perform _).mpr
            constructor
            · rintro reply after ⟨-, ⟨-, rfl⟩ | rfl⟩ kept
              · exact kept
              · exact kept.session _
            · rintro reply after ⟨works, ⟨rfl, rfl⟩ | rfl⟩
              · exact ⟨after.session, rfl, Bool.noConfusion, works⟩
              · exact ⟨_, rfl, fun _ => user, works⟩
        | none =>
            apply wp_session
            · rintro before reply after ⟨-, ⟨-, rfl⟩ | rfl⟩
              · exact ⟨after.session, rfl⟩
              · exact ⟨none, rfl⟩
            rintro status after ⟨works, ⟨rfl, rfl⟩ | rfl⟩
            · exact ⟨after.session, rfl, Bool.noConfusion,
                fun on => absurd rfl (works on)⟩
            · exact ⟨none, rfl, fun _ => user, fun on => bne_iff_ne.mpr (works on)⟩
      · rename_i same
        apply stays
        rw [seen]
        rintro ⟨⟩
        simp at same

/-- What is written down is put back if ours is there, so the session has the user's setting. -/
theorem wp_restoreGlobalProfileToUndo {data : UndoData} (fresh : world.session = world.saved)
    (recoverable : Recoverable ours world) (foreign : world.user ≠ some ours)
    (known : data = {} ∨ ∃ undo, data = .setOpenglSwapchain ours undo)
    (current : effective world.saved ≠ world.user → data = .setOpenglSwapchain ours world.user) :
    wp (driver ours other) (restoreGlobalProfileToUndo impl data)
      (fun restored after => ∃ session, after = { world with session } ∧
        (restored = true → effective session = world.user) ∧
        (impl.sessionHandle = true → world.recovering = true → restored = true)) world := by
  unfold restoreGlobalProfileToUndo
  cases handle : impl.sessionHandle with
  | false =>
      exact ⟨world.session, rfl, Bool.noConfusion, Bool.noConfusion⟩
  | true =>
      rcases known with rfl | ⟨undo, rfl⟩
      · refine ⟨world.session, rfl, fun _ => ?_, fun _ _ => rfl⟩
        rw [fresh]
        by_contra differs
        cases current differs
      · apply wp_session
        · rintro before found after ⟨-, rfl⟩
          exact ⟨after.session, rfl⟩
        rintro found after ⟨works, rfl⟩
        cases found with
        | false =>
            exact ⟨after.session, rfl, Bool.noConfusion, fun _ => works⟩
        | true =>
            apply wp_session
            · rintro before looked left ⟨-, -, rfl⟩
              exact ⟨left.session, rfl⟩
            rintro looked left ⟨looks, sees, rfl⟩
            apply wp_mono _ (wp_putBack fresh recoverable foreign _ looks sees)
            · rintro restored after ⟨session, same, user, works⟩
              exact ⟨session, same, user, fun _ => works⟩
            · intro differs
              simpa [UndoData.setOpenglSwapchain] using current differs

/-! ## Restoring from the file of an earlier process -/

/-- The driver is loaded, and its session has what is saved. -/
structure Fresh (impl : Impl) (world : World) : Prop where
  loaded : impl.loaded = true
  handle : impl.sessionHandle = true
  session : world.session = world.saved
  working : world.recovering = false

theorem wp_load_seq {α : Type} {rest : Bool × Impl → Operation α} {post : α → World → Prop}
    (idle : impl.loaded = false) (closed : impl.sessionHandle = false)
    (working : world.recovering = false)
    (failed : ∀ session, wp (driver ours other)
      (rest (false, { impl with loaded := false, sessionHandle := false })) post
      { world with session })
    (succeeded : ∀ session,
      Fresh { impl with loaded := true, sessionHandle := true } { world with session } →
      wp (driver ours other)
        (rest (true, { impl with loaded := true, sessionHandle := true })) post
        { world with session }) :
    wp (driver ours other) (load impl >>= rest) post world := by
  apply wp_seq _ (wp_load idle closed)
  rintro ⟨loaded, left⟩ after ⟨session, rfl, same, fresh⟩
  obtain rfl : left = { impl with loaded, sessionHandle := loaded } := same
  cases loaded with
  | false => exact failed session
  | true => exact succeeded session ⟨rfl, rfl, fresh rfl, working⟩

/-- The user's setting is saved and nothing is written down. -/
structure Restored (user : Option Nat) (world : World) : Prop where
  saved : effective world.saved = user
  deleted : world.file = none

/-- The deletion of a file that is not needed any more. -/
theorem wp_deleteFile {post : Bool → World → Prop} (restored : effective world.saved = world.user)
    (free : other.undoFile = none)
    (deletes : post true { world with file := none, held := false, recovering := false })
    (fails : post false { world with recovering := false }) :
    wp (driver ours other) (ask .deleteFile) post world := by
  apply (wp_perform _).mpr
  constructor
  · rintro deleted after rfl kept
    cases deleted with
    | true =>
        refine ⟨⟨.inl restored, ?_, ?_⟩, kept.remembers.of_no_file free _⟩
        · exact fun present => absurd rfl present
        · exact fun data found => by cases found
    | false => exact ⟨⟨.inl restored, kept.sound.foreign, kept.sound.records⟩,
        kept.remembers.of_no_file free _⟩
  · rintro deleted after rfl
    cases deleted with
    | true => exact deletes
    | false => exact fails

/-- What restoring from an earlier file leaves. -/
structure Recovered (ours : Nat) (impl other : Impl) (before : World) (restored : Bool)
    (after : World) : Prop where
  fresh : Fresh impl after
  kept : Kept ours other after
  remembers : ∀ main, Remembers ours main before → Remembers ours main after
  done : restored = true → Restored before.user after

theorem wp_restoreFromAndDelete (fresh : Fresh impl world) (kept : Kept ours other world) :
    wp (driver ours other) (restoreFromAndDeleteUndoFileIfExists impl)
      (Recovered ours impl other world) world := by
  unfold restoreFromAndDeleteUndoFileIfExists
  simp only [fresh.loaded, Bool.not_true, Bool.false_eq_true, if_false]
  apply wp_ask
  · rintro file after answers kept
    cases file with
    | opened =>
        obtain ⟨-, -, rfl⟩ := answers
        exact kept.recovering true
    | missing =>
        obtain ⟨-, rfl⟩ := answers
        exact kept
    | denied =>
        obtain rfl : after = world := answers
        exact kept
  rintro file after answers
  cases file with
  | denied =>
      obtain rfl : after = world := answers
      exact ⟨fresh, kept, fun _ same => same, Bool.noConfusion⟩
  | missing =>
      obtain ⟨missing, rfl⟩ := answers
      exact ⟨fresh, kept, fun _ same => same,
        fun _ => ⟨kept.sound.saved_of_no_file missing, missing⟩⟩
  | opened =>
      obtain ⟨present, free, rfl⟩ := answers
      have foreign := kept.sound.foreign present
      have unowned := kept.remembers.no_file present free
      -- once the user's setting is saved, the file may go
      have deletes (saved : Option Setting) (same : effective saved = world.user) :
          wp (driver ours other) (ask .deleteFile) (Recovered ours impl other world)
            { world with recovering := true, session := saved, saved } := by
        have owners (after : World) :
            ∀ main, Remembers ours main world → Remembers ours main after :=
          fun main remembers => remembers.of_no_file (remembers.no_file present free) after
        apply wp_deleteFile same unowned
        · refine ⟨⟨fresh.loaded, fresh.handle, rfl, rfl⟩, ⟨⟨.inl same, ?_, ?_⟩, ?_⟩, owners _,
            fun _ => ⟨same, rfl⟩⟩
          · exact fun present => absurd rfl present
          · exact fun data found => by cases found
          · exact kept.remembers.of_no_file unowned _
        · exact ⟨⟨fresh.loaded, fresh.handle, rfl, rfl⟩,
            ⟨⟨.inl same, kept.sound.foreign, kept.sound.records⟩,
              kept.remembers.of_no_file unowned _⟩, owners _, Bool.noConfusion⟩
      apply wp_ask
      · rintro contents after ⟨-, rfl⟩ kept
        exact kept
      rintro contents after ⟨found, rfl⟩
      cases contents with
      | none => exact absurd found.symm present
      | some contents =>
          have reading := (kept.recovering true).sound
          have put := @wp_restoreGlobalProfileToUndo ours impl other
            { world with recovering := true } contents.read fresh.session reading.recoverable
            foreign (reading.known found.symm) (reading.current found.symm)
          apply wp_seq _ put
          rintro restored after ⟨session, rfl, user, works⟩
          obtain rfl : restored = true := works fresh.handle rfl
          have same := user rfl
          apply wp_seq _ (wp_saveSettings _)
          · rintro saved after ⟨rfl | ⟨failed, -⟩, works⟩
            · exact deletes session same
            · rw [works fresh.handle rfl] at failed
              cases failed
          · intro kept
            exact ⟨⟨.inl same, kept.sound.foreign, kept.sound.records⟩,
              kept.remembers.of_no_file unowned _⟩

/-! ## Changing the setting -/

/-- The one process that changes settings, between its calls. -/
structure Running (ours : Nat) (impl : Impl) (world : World) : Prop where
  sound : Sound ours world
  remembers : Remembers ours impl world
  working : world.recovering = false

theorem Sound.kept (sound : Sound ours world) : Kept ours {} world := ⟨sound, remembers_new world⟩

theorem spares_ask {request : Call} (spares : request.spares = true) :
    OnlyCalls (fun request => Call.spares request = true) (ask request) :=
  (onlyCalls_perform request).mpr spares

theorem spares_power (modified : Bool) (looked : Looked) (highPowerMode : Bool) :
    OnlyCalls (fun request => Call.spares request = true)
      (checkAndModifyApplicationProfile.power preferMax modified looked highPowerMode) := by
  unfold checkAndModifyApplicationProfile.power
  split
  · split
    · exact .bind (spares_ask rfl) fun _ => trivial
    · trivial
  · split
    · exact .bind (spares_ask rfl) fun _ => trivial
    · trivial

theorem spares_checkAndModifyApplicationProfile (impl : Impl) :
    OnlyCalls (fun request => Call.spares request = true)
      (checkAndModifyApplicationProfile preferMax impl) := by
  unfold checkAndModifyApplicationProfile
  split
  · trivial
  refine .bind (spares_ask rfl) fun found => .bind ?_ fun present => ?_
  · cases found with
    | true => trivial
    | false => exact spares_ask rfl
  split
  · trivial
  refine .bind (spares_ask rfl) fun known => .bind ?_ fun listed => ?_
  · cases known with
    | true => trivial
    | false => exact spares_ask rfl
  split
  · trivial
  exact .bind (spares_ask rfl) fun looked => .bind (spares_ask rfl) fun options =>
    spares_power _ looked _

theorem wp_checkAndModifyApplicationProfile (impl : Impl) :
    wp (driver ours other) (checkAndModifyApplicationProfile preferMax impl)
      (fun _ after => after = world) world := by
  apply (spares_checkAndModifyApplicationProfile impl).keeps fun after => after = world
  · rintro before event after spares rfl answers
    exact answers.of_spares spares
  · rintro before request spares rfl reply after answers kept
    obtain rfl : after = before := answers.of_spares spares
    exact kept
  · rfl

theorem wp_modifyApplicationProfile (fresh : Fresh impl world) :
    wp (driver ours other) (modifyApplicationProfile preferMax impl)
      (fun _ after => after = world) world := by
  unfold modifyApplicationProfile
  split
  · rfl
  apply wp_seq _ (wp_checkAndModifyApplicationProfile impl)
  rintro ⟨checked, modified⟩ after rfl
  have same : { after with saved := after.session } = after :=
    congrArg (fun saved => { after with saved }) fresh.session
  cases checked with
  | false => rfl
  | true =>
      cases modified with
      | false => rfl
      | true =>
          apply wp_mono _ (wp_saveSettings _)
          · rintro saved last ⟨rfl | ⟨-, rfl⟩, -⟩
            · exact same
            · rfl
          · rw [same]
            exact id

/-- What is to be undone is what the session had, and it was not ours. -/
def Undoes (ours : Nat) (world : World) (result : Bool × Option UndoData) (after : World) : Prop :=
  ∃ session, after = { world with session } ∧
    ∀ undoData, result = (true, some undoData) → session = some ⟨ours, true⟩ ∧
      effective world.saved ≠ some ours ∧
      undoData = .setOpenglSwapchain ours (effective world.saved)

theorem wp_checkAndModifyGlobalProfile (fresh : Fresh impl world) :
    wp (driver ours other) (checkAndModifyGlobalProfile ours impl) (Undoes ours world) world := by
  have stays (checked : Bool) : Undoes ours world (checked, none) world :=
    ⟨world.session, rfl, fun _ same => by cases same⟩
  have change (undo : Option Nat) (was : undo = effective world.saved)
      (foreign : undo ≠ some ours) :
      wp (driver ours other) (checkAndModifyGlobalProfile.change ours undo) (Undoes ours world)
        world := by
    apply wp_session
    · rintro before set after ⟨-, ⟨-, rfl⟩ | rfl⟩
      · exact ⟨after.session, rfl⟩
      · exact ⟨_, rfl⟩
    rintro set after ⟨-, ⟨rfl, rfl⟩ | rfl⟩
    · exact ⟨after.session, rfl, fun _ same => by cases same⟩
    · refine ⟨_, rfl, ?_⟩
      rintro undoData same
      obtain ⟨-, written⟩ := Prod.mk.inj same
      subst was
      exact ⟨rfl, foreign, (Option.some.inj written).symm⟩
  unfold checkAndModifyGlobalProfile
  simp only [fresh.handle, Bool.not_true, Bool.false_eq_true, if_false]
  refine wp_spared fun options => ?_
  split
  · exact stays true
  apply wp_session
  · rintro before found after ⟨-, rfl⟩
    exact ⟨after.session, rfl⟩
  rintro found after ⟨-, rfl⟩
  cases found with
  | false => exact stays false
  | true =>
      apply wp_session
      · rintro before looked left ⟨-, -, rfl⟩
        exact ⟨left.session, rfl⟩
      rintro looked left ⟨-, sees, rfl⟩
      rw [fresh.session] at sees
      cases looked with
      | failed => exact stays false
      | settingNotFound =>
          have none_ : left.saved = none := sees
          apply change none
          · rw [none_]
            rfl
          · exact fun same => by cases same
      | found setting =>
          have seen : left.saved = some setting := sees
          dsimp only [Bool.not_true, Bool.false_eq_true, if_false]
          split
          · rename_i differs
            apply change (some setting.u32CurrentValue)
            · rw [seen]
              rfl
            · exact fun same => bne_iff_ne.mp differs (Option.some.inj same)
          · exact stays true

/-- The file is there for a process to write to, or it has lost it. -/
structure Writable (handle : Bool) (world : World) : Prop where
  live : handle = true → world.held = true ∧ world.file ≠ none
  gone : handle = false → world.file = none

theorem wp_ensureUndoFile (sound : Sound ours world) (remembers : Remembers ours impl world)
    (foreign : world.user ≠ some ours) (restored : effective world.saved = world.user) :
    wp (driver ours {}) (ensureUndoFile impl)
      (fun result after => Sound ours after ∧
        (result = none ∧ after = world ∨ ∃ handle, result = some handle ∧ Writable handle after ∧
          (after = world ∨ after = { world with file := some .torn, held := true }))) world := by
  have created : Sound ours { world with file := some .torn, held := true } :=
    ⟨.inl restored, fun _ => foreign, fun data found => by cases found⟩
  unfold ensureUndoFile
  cases owned : impl.undoFile with
  | some handle =>
      have owns := remembers.owns handle owned
      exact ⟨sound, .inr ⟨handle, rfl, ⟨owns.live, owns.gone⟩, .inl rfl⟩⟩
  | none =>
      refine wp_spared fun folder => ?_
      cases folder with
      | false => exact ⟨sound, .inl ⟨rfl, rfl⟩⟩
      | true =>
          apply (wp_bind _ _).mpr
          apply wp_ask
          · rintro made after (⟨-, rfl⟩ | ⟨-, -, rfl⟩) kept
            · exact kept
            · exact created.kept
          · rintro made after (⟨rfl, rfl⟩ | ⟨rfl, -, rfl⟩)
            · exact ⟨sound, .inl ⟨rfl, rfl⟩⟩
            · refine wp_spared fun _ => ?_
              refine ⟨created, .inr ⟨true, rfl, ⟨fun _ => ⟨rfl, ?_⟩, ?_⟩, .inr rfl⟩⟩
              · exact fun absurd => by cases absurd
              · exact Bool.noConfusion

theorem wp_writeUndoData {handle : Bool} {undo : Option Nat} (sound : Sound ours world)
    (foreign : world.user ≠ some ours) (restored : effective world.saved = world.user)
    (writable : Writable handle world) :
    wp (driver ours {}) (writeUndoData handle (.setOpenglSwapchain ours undo))
      (fun written after => ∃ file, after = { world with file } ∧ Sound ours after ∧
        Writable handle after ∧
        (written = true → file = some (.whole (.setOpenglSwapchain ours undo)))) world := by
  have torn : Sound ours { world with file := some .torn } :=
    ⟨.inl restored, fun _ => foreign, fun data found => by cases found⟩
  have whole : Sound ours { world with file := some (.whole (.setOpenglSwapchain ours undo)) } := by
    refine ⟨.inl restored, fun _ => foreign, fun data found => ?_⟩
    cases found
    exact ⟨undo, rfl⟩
  unfold writeUndoData
  cases handle with
  | false => exact ⟨world.file, rfl, sound, writable, Bool.noConfusion⟩
  | true =>
      have there (contents : Contents) : Writable true { world with file := some contents } :=
        ⟨fun _ => ⟨(writable.live rfl).1, fun absurd => by cases absurd⟩,
          Bool.noConfusion⟩
      apply wp_ask
      · rintro cleared after (⟨-, rfl⟩ | rfl) kept
        · exact kept
        · exact torn.kept
      rintro cleared after (⟨rfl, rfl⟩ | rfl)
      · exact ⟨after.file, rfl, sound, writable, Bool.noConfusion⟩
      cases cleared with
      | false => exact ⟨_, rfl, torn, there _, Bool.noConfusion⟩
      | true =>
          apply wp_ask
          · rintro written after (⟨-, rfl⟩ | rfl) kept
            · exact torn.kept
            · exact whole.kept
          rintro written after (⟨rfl, rfl⟩ | rfl)
          · exact ⟨_, rfl, torn, there _, Bool.noConfusion⟩
          · cases written with
            | false => exact ⟨_, rfl, whole, there _, Bool.noConfusion⟩
            | true =>
                refine wp_spared fun flushed => ?_
                exact ⟨_, rfl, whole, there _, fun _ => rfl⟩

theorem wp_deleteUndoFile {handle : Bool} (sound : Sound ours world)
    (restored : effective world.saved = world.user) (working : world.recovering = false)
    (writable : Writable handle world) :
    wp (driver ours {}) (deleteUndoFile handle)
      (fun result after => Sound ours after ∧ Writable result.2 after ∧
        after.recovering = false ∧ after.saved = world.saved ∧ after.user = world.user ∧
        (result.1 = true → after.file = none)) world := by
  unfold deleteUndoFile
  cases handle with
  | false => exact ⟨sound, writable, working, rfl, rfl, Bool.noConfusion⟩
  | true =>
      apply (wp_bind _ _).mpr
      apply wp_deleteFile restored rfl
      · refine ⟨⟨.inl restored, ?_, ?_⟩, ⟨?_, fun _ => rfl⟩, rfl, rfl, rfl, fun _ => rfl⟩
        · exact fun present => absurd rfl present
        · exact fun data found => by cases found
        · exact Bool.noConfusion
      · exact ⟨{ sound with }, { writable with }, rfl, rfl, rfl, Bool.noConfusion⟩

theorem Writable.remembers {handle : Bool} {undo : Option Nat} (writable : Writable handle world)
    (file : impl.undoFile = some handle) (foreign : world.user ≠ some ours)
    (ownValue : impl.undoData = some (.setOpenglSwapchain ours undo))
    (current : effective world.saved ≠ world.user → undo = world.user) :
    Remembers ours impl world where
  owns found same := by
    cases file.symm.trans same
    refine ⟨foreign, ⟨undo, ownValue⟩, writable.live, writable.gone, ?_⟩
    intro differs
    rw [ownValue, current differs]
  blank missing := by
    rw [missing] at file
    cases file

/-- What the process keeps after a change of the setting. -/
structure Changed (ours : Nat) (impl left : Impl) (world : World) : Prop where
  running : Running ours left world
  loaded : left.loaded = impl.loaded
  handle : left.sessionHandle = impl.sessionHandle

theorem wp_makeUndoAndCommit (running : Running ours impl world)
    (session : world.session = some ⟨ours, true⟩)
    (restored : effective world.saved = world.user) (foreign : world.user ≠ some ours) :
    wp (driver ours {}) (makeUndoAndCommit impl (.setOpenglSwapchain ours world.user))
      (fun result after => Changed ours impl result.2 after) world := by
  have merged : impl.mergedWith (.setOpenglSwapchain ours world.user) =
      .setOpenglSwapchain ours world.user := by
    unfold Impl.mergedWith
    split <;> rfl
  obtain ⟨sound, remembers, working⟩ := running
  unfold makeUndoAndCommit
  apply wp_seq _ (wp_ensureUndoFile sound remembers foreign restored)
  rintro _ ensured ⟨sound, ⟨rfl, rfl⟩ | ⟨handle, rfl, writable, same⟩⟩
  · exact ⟨⟨sound, remembers, working⟩, rfl, rfl⟩
  obtain ⟨file, held, rfl⟩ : ∃ file held, ensured = { world with file, held } := by
    rcases same with rfl | rfl
    · exact ⟨ensured.file, ensured.held, rfl⟩
    · exact ⟨_, _, rfl⟩
  dsimp only
  rw [merged]
  apply wp_seq _ (wp_writeUndoData sound foreign restored writable)
  rintro written after ⟨file, rfl, sound, writable, whole⟩
  cases written with
  | false =>
      apply wp_seq _ (wp_deleteUndoFile sound restored working writable)
      rintro ⟨deleted, left⟩ after ⟨sound, writable, working, savedSame, userSame, -⟩
      refine ⟨⟨sound, ?_, working⟩, rfl, rfl⟩
      rw [← userSame] at foreign restored
      rw [← savedSame] at restored
      exact writable.remembers rfl foreign rfl fun _ => userSame.symm
  | true =>
      have saved : Sound ours { world with saved := world.session, file, held } :=
        ⟨.inr ⟨session, whole rfl⟩, fun _ => foreign, sound.records⟩
      apply wp_seq _ (wp_saveSettings fun _ => saved.kept)
      rintro committed after ⟨rfl | ⟨-, rfl⟩, -⟩
      · refine ⟨⟨saved, ?_, working⟩, rfl, rfl⟩
        have there : Writable handle { world with saved := world.session, file, held } :=
          { writable with }
        exact there.remembers rfl foreign rfl fun _ => rfl
      · exact ⟨⟨sound, writable.remembers rfl foreign rfl fun _ => rfl, working⟩, rfl, rfl⟩

theorem Running.session (running : Running ours impl world) (session : Option Setting) :
    Running ours impl { world with session } :=
  ⟨running.sound.session session, running.remembers.session session, running.working⟩

/-- A process remembers the same with the driver loaded or not. -/
theorem Running.handles (running : Running ours impl world) (loaded sessionHandle : Bool) :
    Running ours { impl with loaded, sessionHandle } world where
  sound := running.sound
  remembers :=
    ⟨fun handle file => { running.remembers.owns handle file with }, running.remembers.blank⟩
  working := running.working

theorem wp_modifyGlobalProfile (running : Running ours impl world) (fresh : Fresh impl world) :
    wp (driver ours {}) (modifyGlobalProfile ours impl)
      (fun result after => Running ours result.2 after ∧ result.2.loaded = true) world := by
  unfold modifyGlobalProfile
  simp only [fresh.loaded, Bool.not_true, Bool.false_eq_true, if_false]
  apply wp_seq _ (wp_checkAndModifyGlobalProfile fresh)
  rintro ⟨checked, undoData⟩ after ⟨session, rfl, modified⟩
  have running := running.session session
  cases checked with
  | false => exact ⟨running, fresh.loaded⟩
  | true =>
      cases undoData with
      | none => exact ⟨running, fresh.loaded⟩
      | some undoData =>
          obtain ⟨rfl, foreign, rfl⟩ := modified undoData rfl
          have restored := running.sound.user_of_foreign foreign
          have restored' : effective world.saved = world.user := restored
          rw [restored'] at foreign ⊢
          apply wp_seq _ (wp_makeUndoAndCommit running rfl restored foreign)
          rintro ⟨committed, left⟩ after ⟨running, loaded, handle⟩
          cases committed with
          | true => exact ⟨running, loaded.trans fresh.loaded⟩
          | false =>
              apply wp_seq _ (wp_loadSettings (handle.trans fresh.handle))
              rintro ⟨reloaded, last⟩ after ⟨session, rfl, same, -⟩
              obtain rfl : last = { left with sessionHandle := reloaded } := same
              exact ⟨(running.session session).handles left.loaded reloaded,
                loaded.trans fresh.loaded⟩

theorem wp_restoreGlobalProfile (running : Running ours impl world) (fresh : Fresh impl world) :
    wp (driver ours {}) (restoreGlobalProfile impl)
      (fun result after => Running ours result.2 after ∧ result.2.loaded = true ∧
        (result.1 = true → Restored world.user after)) world := by
  unfold restoreGlobalProfile
  rw [fresh.loaded]
  cases data : impl.undoData with
  | none => exact ⟨running, fresh.loaded, Bool.noConfusion⟩
  | some undoData =>
      cases file : impl.undoFile with
      | none => exact ⟨running, fresh.loaded, Bool.noConfusion⟩
      | some handle =>
          have owns := running.remembers.owns handle file
          obtain ⟨undo, written⟩ := owns.ownValue
          obtain rfl : undoData = .setOpenglSwapchain ours undo :=
            Option.some.inj (data.symm.trans written)
          have current (differs : effective world.saved ≠ world.user) :
              UndoData.setOpenglSwapchain ours undo = .setOpenglSwapchain ours world.user :=
            Option.some.inj (data.symm.trans (owns.current differs))
          apply wp_seq _ (wp_restoreGlobalProfileToUndo fresh.session running.sound.recoverable
            owns.foreign (.inr ⟨undo, rfl⟩) current)
          rintro restored after ⟨session, rfl, user, -⟩
          have running := running.session session
          cases restored with
          | false => exact ⟨running, fresh.loaded, Bool.noConfusion⟩
          | true =>
              have same := user rfl
              have good : Sound ours { world with session, saved := session } :=
                ⟨.inl same, running.sound.foreign, running.sound.records⟩
              apply wp_seq _ (wp_saveSettings fun _ => good.kept)
              rintro saved after ⟨rfl | ⟨rfl, rfl⟩, -⟩
              · have writable : Writable handle { world with session, saved := session } :=
                  ⟨owns.live, owns.gone⟩
                have saved' : Remembers ours impl { world with session, saved := session } :=
                  writable.remembers file owns.foreign written fun differs => absurd same differs
                cases saved with
                | false => exact ⟨⟨good, saved', running.working⟩, fresh.loaded,
                    Bool.noConfusion⟩
                | true =>
                    apply wp_seq _ (wp_deleteUndoFile good same running.working writable)
                    rintro ⟨deleted, left⟩ after
                      ⟨sound, writable, working, savedSame, userSame, gone⟩
                    have same : effective after.saved = after.user := by
                      rw [savedSame, userSame]
                      exact same
                    have foreign : after.user ≠ some ours := by
                      rw [userSame]
                      exact owns.foreign
                    cases deleted with
                    | true =>
                        refine ⟨⟨sound, ⟨fun handle file => ?_, fun _ => rfl⟩, working⟩,
                          rfl, fun _ => ⟨userSame ▸ same, gone rfl⟩⟩
                        cases file
                    | false =>
                        exact ⟨⟨sound, writable.remembers rfl foreign rfl
                          fun differs => absurd same differs, working⟩, rfl,
                          Bool.noConfusion⟩
              · exact ⟨running, fresh.loaded, Bool.noConfusion⟩

/-! ## Whole lives of processes -/

/-- A process between its calls of the interface. -/
structure Idle (ours : Nat) (impl : Impl) (world : World) : Prop where
  running : Running ours impl world
  unloaded : impl.loaded = false
  closed : impl.sessionHandle = false

/-- The calls of `main`, of a stream and of the end of the process. -/
inductive Occasion where
  | startUp
  | streamingWillStart
  | shutDown
  | release

def Occasion.operation (ours preferMax : Nat) : Occasion → Impl → Operation Impl
  | .startUp => Nvprefs.startUp ours preferMax
  | .streamingWillStart => Nvprefs.streamingWillStart ours preferMax
  | .shutDown => Nvprefs.shutDown
  | .release => Nvprefs.release

/-- What comes after `load` finds a fresh session, or the process idle again. -/
theorem wp_load_idle {α : Type} {rest : Bool × Impl → Operation α} {post : α → World → Prop}
    (idle : Idle ours impl world)
    (failed : ∀ left after, Idle ours left after →
      wp (driver ours {}) (rest (false, left)) post after)
    (succeeded : ∀ left after, after.user = world.user → Running ours left after →
      Fresh left after → wp (driver ours {}) (rest (true, left)) post after) :
    wp (driver ours {}) (load impl >>= rest) post world := by
  have running session (loaded : Bool) :=
    (idle.running.session session).handles loaded loaded
  apply wp_load_seq idle.unloaded idle.closed idle.running.working
  · exact fun session => failed _ _ ⟨running session false, rfl, rfl⟩
  · exact fun session => succeeded _ _ rfl (running session true)

theorem wp_unload_idle (running : Running ours impl world) (loaded : impl.loaded = true) :
    wp (driver ours {}) (unload impl) (fun left after => Idle ours left after) world := by
  apply wp_mono _ (wp_unload loaded)
  rintro left after ⟨rfl, rfl⟩
  exact ⟨running.handles false false, rfl, rfl⟩

theorem wp_restoreFromAndDelete_running (running : Running ours impl world)
    (fresh : Fresh impl world) :
    wp (driver ours {}) (restoreFromAndDeleteUndoFileIfExists impl)
      (fun _ after => Running ours impl after ∧ Fresh impl after) world := by
  apply wp_mono _ (wp_restoreFromAndDelete fresh running.sound.kept)
  rintro _ after ⟨fresh, kept, remembers, -⟩
  exact ⟨⟨kept.sound, remembers impl running.remembers, fresh.working⟩, fresh⟩

/-- The rest of `startUp` and of `streamingWillStart`. -/
theorem wp_modifyProfiles (running : Running ours impl world) (fresh : Fresh impl world) :
    wp (driver ours {}) (do
      let _ ← modifyApplicationProfile preferMax impl
      let (_, left) ← modifyGlobalProfile ours impl
      unload left) (fun left after => Idle ours left after) world := by
  apply wp_seq _ (wp_modifyApplicationProfile fresh)
  rintro _ after rfl
  apply wp_seq _ (wp_modifyGlobalProfile running fresh)
  rintro ⟨modified, left⟩ after ⟨running, loaded⟩
  exact wp_unload_idle running loaded

/-- Each occasion leaves an idle process, and what it saves can be undone. -/
theorem wp_operation (idle : Idle ours impl world) (occasion : Occasion) :
    wp (driver ours {}) (occasion.operation ours preferMax impl)
      (fun left after => Idle ours left after) world := by
  have restore {left : Impl} {after : World} (running : Running ours left after)
      (fresh : Fresh left after) :
      wp (driver ours {}) (do
        let (_, last) ← restoreGlobalProfile left
        unload last) (fun left after => Idle ours left after) after := by
    apply wp_seq _ (wp_restoreGlobalProfile running fresh)
    rintro ⟨restored, last⟩ after ⟨running, loaded, -⟩
    exact wp_unload_idle running loaded
  cases occasion with
  | startUp =>
      apply wp_load_idle idle
      · exact fun _ _ idle => idle
      · intro left after _ running fresh
        apply wp_seq _ (wp_restoreFromAndDelete_running running fresh)
        rintro _ after ⟨running, fresh⟩
        exact wp_modifyProfiles running fresh
  | streamingWillStart =>
      apply wp_load_idle idle
      · exact fun _ _ idle => idle
      · intro left after _ running fresh
        apply wp_seq fun _ after => Running ours left after ∧ Fresh left after
        · cases owning : owningUndoFile left with
          | true => exact ⟨running, fresh⟩
          | false => exact wp_restoreFromAndDelete_running running fresh
        · rintro _ after ⟨running, fresh⟩
          exact wp_modifyProfiles running fresh
  | shutDown =>
      change wp _ (Nvprefs.shutDown impl) _ _
      unfold Nvprefs.shutDown
      split
      · apply wp_load_idle idle
        · exact fun _ _ idle => idle
        · exact fun _ _ _ => restore
      · exact idle
  | release =>
      have unloaded {left : Impl} {after : World} (idle : Idle ours left after) :
          wp (driver ours {}) (unload left) (fun left after => Idle ours left after) after := by
        unfold unload
        simp only [idle.unloaded, Bool.false_eq_true, if_false]
        exact idle
      change wp _ (Nvprefs.release impl) _ _
      unfold Nvprefs.release
      split
      · apply wp_load_idle idle
        · exact fun _ _ => unloaded
        · exact fun _ _ _ => restore
      · exact unloaded idle

/-- The process of `restore-nvprefs-undo` takes nothing from the one that runs. -/
theorem wp_restoreNvprefsUndo {main : Impl} (kept : Kept ours main world)
    (working : world.recovering = false) :
    wp (driver ours main) (restoreNvprefsUndo {})
      (fun _ after => Kept ours main after ∧ after.recovering = false) world := by
  apply wp_load_seq rfl rfl working
  · exact fun session => ⟨kept.session session, working⟩
  · intro session fresh
    apply wp_seq _ (wp_restoreFromAndDelete fresh (kept.session session))
    rintro _ after ⟨fresh, kept, -, -⟩
    apply wp_mono _ (wp_unload rfl)
    rintro _ _ ⟨-, rfl⟩
    exact ⟨kept, fresh.working⟩

def environment : Contract Call Reply World where
  moves := Answers
  safe _ _ := True

/-- Processes start and end wherever they are, `restore-nvprefs-undo` runs beside them, and the
setting is changed from outside, though not to ours. -/
inductive Reached (ours preferMax : Nat) : World → Option Impl → Prop where
  | installed (saved : Option Setting) :
      Reached ours preferMax { saved, user := effective saved } none
  | changes {world : World} {process : Option Impl} (setting : Option Setting)
      (foreign : effective setting ≠ some ours) (reached : Reached ours preferMax world process) :
      Reached ours preferMax { world with saved := setting, user := effective setting } process
  | starts {world : World} (reached : Reached ours preferMax world none) :
      Reached ours preferMax world (some {})
  | operates {world after : World} {impl left : Impl} {trace : History Call Reply}
      (occasion : Occasion) (reached : Reached ours preferMax world (some impl))
      (runs : Runs (occasion.operation ours preferMax impl) trace (some left))
      (follows : Follows environment world trace after) :
      Reached ours preferMax after (some left)
  | dies {world after : World} {impl : Impl} {trace : History Call Reply} {result : Option Impl}
      (occasion : Occasion) (reached : Reached ours preferMax world (some impl))
      (runs : Runs (occasion.operation ours preferMax impl) trace result)
      (follows : Follows environment world trace after) :
      Reached ours preferMax { after with held := false, recovering := false } none
  | beside {world after : World} {process result : Option Impl} {trace : History Call Reply}
      (reached : Reached ours preferMax world process)
      (runs : Runs (restoreNvprefsUndo {}) trace result)
      (follows : Follows environment world trace after) :
      Reached ours preferMax { after with recovering := false } process

theorem follows_driver {trace : History Call Reply} {after : World}
    (follows : Follows environment world trace after) :
    Follows (driver ours other) world trace after := by
  induction follows with
  | nil state => exact .nil state
  | cons moved _ ih => exact .cons moved ih

/-- Wherever a run is cut off, what counts is on disk. -/
theorem kept_of_runs {α : Type} {program : Operation α} {post : α → World → Prop}
    {trace : History Call Reply} {result : Option α} {after : World}
    (holds : wp (driver ours other) program post world) (runs : Runs program trace result)
    (follows : Follows environment world trace after) (kept : Kept ours other world) :
    Kept ours other after := by
  apply wp_invariant (Kept ours other) _ runs (follows_driver follows) holds kept
  rintro before ⟨request, reply⟩ next kept safe answers
  exact safe reply next answers kept

/-- Between the calls, what counts is on disk and known to the process. -/
structure Steady (ours : Nat) (world : World) (process : Option Impl) : Prop where
  sound : Sound ours world
  working : world.recovering = false
  idle : ∀ impl, process = some impl → Idle ours impl world

theorem Idle.steady (idle : Idle ours impl world) : Steady ours world (some impl) where
  sound := idle.running.sound
  working := idle.running.working
  idle := by
    rintro _ ⟨⟩
    exact idle

theorem Steady.beside {process result : Option Impl} {trace : History Call Reply} {after : World}
    (steady : Steady ours world process) (runs : Runs (restoreNvprefsUndo {}) trace result)
    (follows : Follows environment world trace after) :
    Steady ours { after with recovering := false } process := by
  have ends (main : Impl) (remembers : Remembers ours main world) :
      Kept ours main { after with recovering := false } :=
    have kept : Kept ours main world := ⟨steady.sound, remembers⟩
    (kept_of_runs (wp_restoreNvprefsUndo kept steady.working) runs follows kept).recovering false
  refine ⟨(ends {} (remembers_new world)).sound, rfl, ?_⟩
  intro impl same
  obtain ⟨running, unloaded, closed⟩ := steady.idle impl same
  have kept := ends impl running.remembers
  exact ⟨⟨kept.sound, kept.remembers, rfl⟩, unloaded, closed⟩

theorem steady_of_reached {process : Option Impl} (reached : Reached ours preferMax world process) :
    Steady ours world process := by
  induction reached with
  | installed saved =>
      refine ⟨⟨.inl rfl, ?_, ?_⟩, rfl, ?_⟩
      · exact fun present => absurd rfl present
      · exact fun data found => by cases found
      · exact fun impl same => by cases same
  | @changes world process setting foreign _ ih =>
      have sound : Sound ours { world with saved := setting, user := effective setting } :=
        ⟨.inl rfl, fun _ => foreign, ih.sound.records⟩
      refine ⟨sound, ih.working, ?_⟩
      intro impl same
      obtain ⟨running, unloaded, closed⟩ := ih.idle impl same
      refine ⟨⟨sound, ⟨?_, running.remembers.blank⟩, running.working⟩, unloaded, closed⟩
      intro handle file
      have owns := running.remembers.owns handle file
      exact ⟨foreign, owns.ownValue, owns.live, owns.gone, fun differs => absurd rfl differs⟩
  | starts _ ih =>
      refine ⟨ih.sound, ih.working, ?_⟩
      rintro _ ⟨⟩
      exact ⟨⟨ih.sound, remembers_new _, ih.working⟩, rfl, rfl⟩
  | operates occasion _ runs follows ih =>
      exact (wp_result runs (follows_driver follows) (wp_operation (ih.idle _ rfl) occasion)).steady
  | dies occasion _ runs follows ih =>
      have kept := kept_of_runs (wp_operation (ih.idle _ rfl) occasion) runs follows ih.sound.kept
      refine ⟨{ kept.sound with }, rfl, ?_⟩
      exact fun impl same => by cases same
  | beside _ runs follows ih => exact ih.beside runs follows

/-- A driver and a file system where everything works. -/
def works (world : World) : (request : Call) → Reply request × World
  | .nvprefsOptions => ({}, world)
  | .destroySession | .unload => ((), world)
  | .loadSettings => (true, { world with session := world.saved })
  | .saveSettings => (true, { world with saved := world.session })
  | .getSetting .base =>
      (match world.session with
        | some setting => .found setting
        | none => .settingNotFound, world)
  | .setSetting .base value => (true, { world with session := some ⟨value, true⟩ })
  | .deleteProfileSetting .base => (.ok, { world with session := none })
  | .getSetting .application => (.settingNotFound, world)
  | .deleteProfileSetting .application => (.ok, world)
  | .openExistingFile =>
      if world.file = none then (.missing, world)
      else if world.held then (.denied, world)
      else (.opened, { world with recovering := true })
  | .readFile => (world.file, world)
  | .createNewFile =>
      if world.file = none then (true, { world with file := some .torn, held := true })
      else (false, world)
  | .clearFile => (true, { world with file := some .torn })
  | .writeFile data => (true, { world with file := some (.whole data) })
  | .deleteFile => (true, { world with file := none, held := false, recovering := false })
  | .programData | .nvapiInitialize | .createSession | .getBaseProfile | .findProfileByName
  | .createProfile | .getApplicationInfo | .createApplication | .setSetting .application _
  | .createDirectory | .relaxPermissions | .flushFile => (true, world)

theorem works_answers (world : World) (request : Call) :
    Answers world ⟨request, (works world request).1⟩ (works world request).2 := by
  cases request with
  | getSetting profile =>
      cases profile with
      | application => rfl
      | base =>
          cases found : world.session with
          | none => simp [works, Answers, Looked.Sees, found]
          | some setting => simp [works, Answers, Looked.Sees, found]
  | setSetting profile value | deleteProfileSetting profile =>
      cases profile <;> simp [works, Answers]
  | openExistingFile =>
      by_cases missing : world.file = none
      · simp [works, Answers, missing]
      · cases free : world.held with
        | false => simp [works, Answers, missing, free]
        | true => simp [works, Answers, missing, free]
  | createNewFile =>
      by_cases missing : world.file = none
      · simp [works, Answers, missing]
      · simp [works, Answers, missing]
  | _ => simp [works, Answers]

/-- Sunshine starts where the user has a setting of the driver's. -/
def beforeStartUp : World where
  saved := some ⟨7, false⟩
  user := some 7

def afterStartUp : World := ((startUp 1 2 {}).finish works beforeStartUp).2

theorem reached_afterStartUp : Reached 1 2 afterStartUp
    (some { undoData := some (.setOpenglSwapchain 1 (some 7)), undoFile := some true }) := by
  have started : Reached 1 2 beforeStartUp (some {}) := .starts (.installed (some ⟨7, false⟩))
  apply Reached.operates .startUp started _ (follows_finish works_answers _ _)
  exact Runs.play works (startUp 1 2 {}) beforeStartUp

theorem wp_load_restoreFrom (sound : Sound ours world) (working : world.recovering = false) :
    wp (driver ours {}) (do
      let loaded ← load {}
      restoreFromAndDeleteUndoFileIfExists loaded.2)
      (fun restored after => restored = true → Restored world.user after) world := by
  apply wp_load_seq rfl rfl working
  · exact fun _ => Bool.noConfusion
  · intro session fresh
    apply wp_mono _ (wp_restoreFromAndDelete fresh (sound.session session).kept)
    exact fun _ _ recovered => recovered.done

theorem wp_load_restoreGlobal (idle : Idle ours impl world) :
    wp (driver ours {}) (do
      let loaded ← load impl
      restoreGlobalProfile loaded.2)
      (fun result after => result.1 = true → Restored world.user after) world := by
  apply wp_load_idle idle
  · intro left after idle
    unfold restoreGlobalProfile
    rw [idle.unloaded]
    exact Bool.noConfusion
  · intro left after user running fresh
    apply wp_mono _ (wp_restoreGlobalProfile running fresh)
    rintro result after ⟨-, -, done⟩
    exact user ▸ done

end UmbraHost.Nvprefs
