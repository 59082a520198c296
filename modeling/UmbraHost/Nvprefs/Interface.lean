import UmbraHost.Interaction.Answered

/-! # The driver setting that Sunshine changes, and its undo file

`nvprefs_interface` sets one value of the driver's base profile and writes down beforehand what
was there.  The driver and the file system are asked by calls; the values of the settings come
from the driver's headers and are parameters. -/

namespace UmbraHost.Nvprefs

open UmbraHost.Interaction

/-! ## Data -/

/-- `NVDRS_SETTING`: its value, and whether its location is the profile itself. -/
structure Setting where
  u32CurrentValue : Nat
  inCurrentProfile : Bool
deriving DecidableEq

structure OpenglSwapchain where
  ourValue : Nat
  undoValue : Option Nat
deriving DecidableEq

structure UndoData where
  openglSwapchain : Option OpenglSwapchain := none
deriving DecidableEq

def UndoData.setOpenglSwapchain (ourValue : Nat) (undoValue : Option Nat) : UndoData where
  openglSwapchain := some ⟨ourValue, undoValue⟩

def UndoData.merge (older newer : UndoData) : UndoData :=
  match newer.openglSwapchain with
  | some swapchain => .setOpenglSwapchain swapchain.ourValue swapchain.undoValue
  | none => older

/-- A text that was written whole, or one that is cleared or cut off and does not parse. -/
inductive Contents where
  | whole (data : UndoData)
  | torn
deriving DecidableEq

/-- `undo_data_t::read`: what does not parse is read as no data. -/
def Contents.read : Contents → UndoData
  | .whole data => data
  | .torn => {}

structure NvprefsOptions where
  openglVulkanOnDxgi : Bool := true
  sunshineHighPowerMode : Bool := true

/-! ## Calls -/

/-- The base profile with OGL_CPL_PREFER_DXPRESENT, and the one of sunshine.exe with
PREFERRED_PSTATE. -/
inductive Profile where
  | base
  | application
deriving DecidableEq

inductive NvapiStatus where
  | ok
  | settingNotFound
  | failed
deriving DecidableEq

inductive Looked where
  | found (setting : Setting)
  | settingNotFound
  | failed
deriving DecidableEq

/-- The value of a setting that the profile itself has. -/
def Looked.own : Looked → Option Nat
  | .found setting => if setting.inCurrentProfile then some setting.u32CurrentValue else none
  | _ => none

inductive Opened where
  | opened
  | missing
  | denied
deriving DecidableEq

inductive Call where
  | nvprefsOptions
  | programData
  | nvapiInitialize
  | createSession
  | destroySession
  | unload
  | loadSettings
  | saveSettings
  | getBaseProfile
  | findProfileByName
  | createProfile
  | getApplicationInfo
  | createApplication
  | getSetting (profile : Profile)
  | setSetting (profile : Profile) (value : Nat)
  | deleteProfileSetting (profile : Profile)
  | openExistingFile
  | createDirectory
  | createNewFile
  | relaxPermissions
  | clearFile
  | writeFile (data : UndoData)
  | flushFile
  | readFile
  | deleteFile

abbrev Reply : Call → Type
  | .nvprefsOptions => NvprefsOptions
  | .getSetting _ => Looked
  | .deleteProfileSetting _ => NvapiStatus
  | .openExistingFile => Opened
  | .readFile => Option Contents
  | .destroySession | .unload => Unit
  | _ => Bool

abbrev Operation := Program Call Reply

def ask (request : Call) : Operation (Reply request) := Program.perform request

/-! ## `driver_settings_t` -/

/-- `nvprefs_interface::impl`, with the session handle of its driver settings.  An undo file has
its handle until it is deleted. -/
structure Impl where
  loaded : Bool := false
  sessionHandle : Bool := false
  undoData : Option UndoData := none
  undoFile : Option Bool := none
deriving DecidableEq

def destroy (impl : Impl) : Operation Impl := do
  if impl.sessionHandle then
    ask .destroySession
    ask .unload
    pure { impl with sessionHandle := false }
  else
    ask .unload
    pure impl

def loadSettings (impl : Impl) : Operation (Bool × Impl) := do
  if !impl.sessionHandle then
    pure (false, impl)
  else
    let loaded ← ask .loadSettings
    if loaded then
      pure (true, impl)
    else
      let impl ← destroy impl
      pure (false, impl)

def init (impl : Impl) : Operation (Bool × Impl) := do
  if impl.sessionHandle then
    pure (true, impl)
  else
    let initialized ← ask .nvapiInitialize
    if !initialized then
      pure (false, impl)
    else
      let created ← ask .createSession
      if !created then
        pure (false, impl)
      else
        loadSettings { impl with sessionHandle := true }

def saveSettings (impl : Impl) : Operation Bool := do
  if !impl.sessionHandle then
    pure false
  else
    ask .saveSettings

def restoreGlobalProfileToUndo (impl : Impl) (undoData : UndoData) : Operation Bool := do
  if !impl.sessionHandle then
    pure false
  else
    match undoData.openglSwapchain with
    | none => pure true
    | some swapchain =>
        let profile ← ask .getBaseProfile
        if !profile then
          pure false
        else
          let looked ← ask (.getSetting .base)
          putBack swapchain looked
where
  putBack (swapchain : OpenglSwapchain) (looked : Looked) : Operation Bool := do
    match looked with
    | .failed => pure false
    | .settingNotFound => pure true
    | .found setting =>
        if setting.inCurrentProfile && setting.u32CurrentValue == swapchain.ourValue then
          match swapchain.undoValue with
          | some undoValue => ask (.setSetting .base undoValue)
          | none =>
              let status ← ask (.deleteProfileSetting .base)
              pure (status != .failed)
        else
          pure true

section

variable (preferEnabled preferMax : Nat)

/-- The result, and what has to be undone if the setting was changed. -/
def checkAndModifyGlobalProfile (impl : Impl) : Operation (Bool × Option UndoData) := do
  if !impl.sessionHandle then
    pure (false, none)
  else
    let options ← ask .nvprefsOptions
    if !options.openglVulkanOnDxgi then
      pure (true, none)
    else
      let profile ← ask .getBaseProfile
      if !profile then
        pure (false, none)
      else
        let looked ← ask (.getSetting .base)
        match looked with
        | .failed => pure (false, none)
        | .settingNotFound => change none
        | .found setting =>
            if setting.u32CurrentValue != preferEnabled then
              change (some setting.u32CurrentValue)
            else
              pure (true, none)
where
  change (undoValue : Option Nat) : Operation (Bool × Option UndoData) := do
    let modified ← ask (.setSetting .base preferEnabled)
    pure (modified, some (.setOpenglSwapchain preferEnabled undoValue))

/-- The result, and whether anything was modified. -/
def checkAndModifyApplicationProfile (impl : Impl) : Operation (Bool × Bool) := do
  if !impl.sessionHandle then
    pure (false, false)
  else
    let found ← ask .findProfileByName
    let present ← (if found then pure true else ask .createProfile)
    if !present then
      pure (false, false)
    else
      let known ← ask .getApplicationInfo
      let listed ← (if known then pure true else ask .createApplication)
      if !listed then
        pure (false, !found)
      else
        let looked ← ask (.getSetting .application)
        let options ← ask .nvprefsOptions
        power (!found || !known) looked options.sunshineHighPowerMode
where
  power (modified : Bool) (looked : Looked) (highPowerMode : Bool) : Operation (Bool × Bool) := do
    if !highPowerMode then
      if looked.own.isSome then
        let status ← ask (.deleteProfileSetting .application)
        pure (status != .failed, modified || status != .failed)
      else
        pure (true, modified)
    else if looked.own != some preferMax then
      let set ← ask (.setSetting .application preferMax)
      pure (set, modified || set)
    else
      pure (true, modified)

/-! ## `undo_file_t` -/

def createUndoFile : Operation Bool := do
  let created ← ask .createNewFile
  if created then
    let _ ← ask .relaxPermissions
    pure true
  else
    pure false

/-- The result, and whether the file still has its handle. -/
def deleteUndoFile (handle : Bool) : Operation (Bool × Bool) := do
  if !handle then
    pure (false, false)
  else
    let deleted ← ask .deleteFile
    pure (deleted, !deleted)

def writeUndoData (handle : Bool) (undoData : UndoData) : Operation Bool := do
  if !handle then
    pure false
  else
    let cleared ← ask .clearFile
    if !cleared then
      pure false
    else
      let written ← ask (.writeFile undoData)
      if !written then
        pure false
      else
        let _ ← ask .flushFile
        pure true

/-! ## `nvprefs_interface` -/

def load (impl : Impl) : Operation (Bool × Impl) := do
  if impl.loaded then
    pure (true, impl)
  else
    let folder ← ask .programData
    if !folder then
      pure (false, impl)
    else
      let (loaded, impl) ← init impl
      pure (loaded, { impl with loaded })

def unload (impl : Impl) : Operation Impl := do
  if impl.loaded then
    let impl ← destroy impl
    pure { impl with loaded := false }
  else
    pure impl

def restoreFromAndDeleteUndoFileIfExists (impl : Impl) : Operation Bool := do
  if !impl.loaded then
    pure false
  else
    let file ← ask .openExistingFile
    match file with
    | .denied => pure false
    | .missing => pure true
    | .opened =>
        let contents ← ask .readFile
        match contents with
        | some contents =>
            let restored ← restoreGlobalProfileToUndo impl contents.read
            if restored then
              let _ ← saveSettings impl
              ask .deleteFile
            else
              ask .deleteFile
        | none => ask .deleteFile

def modifyApplicationProfile (impl : Impl) : Operation Bool := do
  if !impl.loaded then
    pure false
  else
    let (checked, modified) ← checkAndModifyApplicationProfile preferMax impl
    if !checked then
      pure false
    else if modified then
      saveSettings impl
    else
      pure true

/-- The undo file, created unless there is one. -/
def ensureUndoFile (impl : Impl) : Operation (Option Bool) := do
  match impl.undoFile with
  | some handle => pure (some handle)
  | none =>
      let folder ← ask .createDirectory
      if !folder then
        pure none
      else
        let created ← createUndoFile
        pure (if created then some true else none)

/-- The user may have changed the setting since it was changed last. -/
def Impl.mergedWith (impl : Impl) (undoData : UndoData) : UndoData :=
  match impl.undoData with
  | some older => older.merge undoData
  | none => undoData

/-- The record is in the file before the setting is saved. -/
def makeUndoAndCommit (impl : Impl) (undoData : UndoData) : Operation (Bool × Impl) := do
  let file ← ensureUndoFile impl
  match file with
  | none => pure (false, impl)
  | some handle =>
      let merged := impl.mergedWith undoData
      let impl := { impl with undoFile := some handle, undoData := some merged }
      let written ← writeUndoData handle merged
      if !written then
        let (_, handle) ← deleteUndoFile handle
        pure (false, { impl with undoFile := some handle })
      else
        let saved ← saveSettings impl
        pure (saved, impl)

def modifyGlobalProfile (impl : Impl) : Operation (Bool × Impl) := do
  if !impl.loaded then
    pure (false, impl)
  else
    let (checked, undoData) ← checkAndModifyGlobalProfile preferEnabled impl
    if !checked then
      pure (false, impl)
    else
      match undoData with
      | none => pure (true, impl)
      | some undoData =>
          let (committed, impl) ← makeUndoAndCommit impl undoData
          if committed then
            pure (true, impl)
          else
            let (_, impl) ← loadSettings impl
            pure (false, impl)

def owningUndoFile (impl : Impl) : Bool := impl.undoFile.isSome

def restoreGlobalProfile (impl : Impl) : Operation (Bool × Impl) := do
  match impl.loaded, impl.undoData, impl.undoFile with
  | true, some undoData, some handle =>
      let restored ← restoreGlobalProfileToUndo impl undoData
      if !restored then
        pure (false, impl)
      else
        let saved ← saveSettings impl
        if !saved then
          pure (false, impl)
        else
          let (deleted, handle) ← deleteUndoFile handle
          if deleted then
            pure (true, { impl with undoData := none, undoFile := none })
          else
            pure (false, { impl with undoFile := some handle })
  | _, _, _ => pure (false, impl)

/-! ## Where they are called -/

/-- `main`, before the streaming threads. -/
def startUp (impl : Impl) : Operation Impl := do
  let (loaded, impl) ← load impl
  if loaded then
    let _ ← restoreFromAndDeleteUndoFileIfExists impl
    let _ ← modifyApplicationProfile preferMax impl
    let (_, impl) ← modifyGlobalProfile preferEnabled impl
    unload impl
  else
    pure impl

def streamingWillStart (impl : Impl) : Operation Impl := do
  let (loaded, impl) ← load impl
  if loaded then
    let _ ← (if owningUndoFile impl then pure true
      else restoreFromAndDeleteUndoFileIfExists impl)
    let _ ← modifyApplicationProfile preferMax impl
    let (_, impl) ← modifyGlobalProfile preferEnabled impl
    unload impl
  else
    pure impl

/-- The end of `main`. -/
def shutDown (impl : Impl) : Operation Impl := do
  if owningUndoFile impl then
    let (loaded, impl) ← load impl
    if loaded then
      let (_, impl) ← restoreGlobalProfile impl
      unload impl
    else
      pure impl
  else
    pure impl

/-- `~nvprefs_interface`. -/
def release (impl : Impl) : Operation Impl := do
  if owningUndoFile impl then
    let (loaded, impl) ← load impl
    if loaded then
      let (_, impl) ← restoreGlobalProfile impl
      unload impl
    else
      unload impl
  else
    unload impl

/-- `restore-nvprefs-undo`, a process of its own. -/
def restoreNvprefsUndo (impl : Impl) : Operation Impl := do
  let (loaded, impl) ← load impl
  if loaded then
    let _ ← restoreFromAndDeleteUndoFileIfExists impl
    unload impl
  else
    pure impl

end

end UmbraHost.Nvprefs
