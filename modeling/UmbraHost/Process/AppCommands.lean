import UmbraHost.Config.Conversions
import UmbraHost.Interaction.Answered

/-! # The app that runs, and the commands around it

`proc_t` runs the commands that prepare an app before it starts, and the ones that undo them when
it ends.  Processes, the user's session and apps.json are asked by calls. -/

namespace UmbraHost.Process

open UmbraHost.Config (PrepCmd)
open UmbraHost.Interaction

/-! ## Data -/

/-- `ctx_t`; `id` is its number. -/
structure Ctx where
  id : Int := 0
  uuid : String := ""
  prepCmds : List PrepCmd := []
  detached : List String := []
  cmd : String := ""
  playniteId : String := ""
  playniteFullscreen : Bool := false
  elevated : Bool := false
  terminateOnPause : Bool := false
  waitAll : Bool := false
  autoDetach : Bool := false
deriving DecidableEq

/-- `process` is whether there is a child to ask about; `appPrepIt` is counted from
`_app_prep_begin`. -/
structure ProcT where
  appId : Int := 0
  apps : List Ctx := []
  app : Ctx := {}
  placebo : Bool := false
  deferredLaunch : Bool := false
  process : Bool := false
  appPrepIt : Nat := 0
deriving DecidableEq

/-! ## Calls -/

/-- What `run_command` reports. -/
inductive Started where
  | running
  | permissionDenied
  | failed
deriving DecidableEq

/-- How an undo command ended, which is only logged. -/
inductive UndoEnd where
  | exited (code : Int)
  | timedOut
  | waitFailed
deriving DecidableEq

inductive Call where
  | isRunningAsSystem
  | retrieveUsersToken
  | runDoCmd (cmd : PrepCmd)
  | waitDoCmd (cmd : PrepCmd)
  | exitCode (cmd : PrepCmd)
  | spawnDetached (cmd : String) (elevated : Bool)
  | playniteLauncher (fullscreen : Bool)
  | playniteUri (playniteId : String)
  | runApp (cmd : String) (elevated : Bool)
  | processGroupRunning
  | processRunning
  | launchedRecently
  | terminateProcessGroup
  | runUndoCmd (cmd : PrepCmd)
  | waitUndoCmd (cmd : PrepCmd)
  | parse

abbrev Reply : Call → Type
  | .runDoCmd _ => Started
  | .exitCode _ => Int
  | .waitUndoCmd _ => UndoEnd
  | .terminateProcessGroup => Unit
  | .parse => Option (List Ctx)
  | _ => Bool

abbrev Operation := Program Call Reply

def ask (request : Call) : Operation (Reply request) := Program.perform request

/-! ## Launching -/

/-- An error that ends the launch.  Starting the desktop goes on without the user's permission. -/
def Started.fatal (started : Started) (app : Ctx) : Bool :=
  match started with
  | .running => false
  | .permissionDenied => !app.cmd.isEmpty
  | .failed => true

/-- Whether all commands succeeded, and how far the iterator got. -/
def runPrepCmds (app : Ctx) : List PrepCmd → Nat → Operation (Bool × Nat)
  | [], appPrepIt => pure (true, appPrepIt)
  | cmd :: rest, appPrepIt =>
      if cmd.doCmd.isEmpty then
        runPrepCmds app rest (appPrepIt + 1)
      else do
        let started ← ask (.runDoCmd cmd)
        if started.fatal app then
          pure (false, appPrepIt)
        else
          let waited ← ask (.waitDoCmd cmd)
          if !waited then
            pure (false, appPrepIt)
          else
            let code ← ask (.exitCode cmd)
            if code != 0 then
              pure (false, appPrepIt)
            else
              runPrepCmds app rest (appPrepIt + 1)

def spawnDetached (app : Ctx) : List String → Operation Unit
  | [] => pure ()
  | cmd :: rest => do
      let _ ← ask (.spawnDetached cmd app.elevated)
      spawnDetached app rest

/-- Playnite itself is the child if its launcher could be started, and nothing is if only the URI
could. -/
def startApp (proc : ProcT) : Operation (Bool × ProcT) := do
  if !proc.app.playniteId.isEmpty && proc.app.cmd.isEmpty then
    let launched ← ask (.playniteLauncher false)
    if launched then
      pure (true, { proc with process := true, placebo := false })
    else
      let opened ← ask (.playniteUri proc.app.playniteId)
      if opened then
        pure (true, { proc with process := false, placebo := false })
      else
        pure (false, { proc with process := false })
  else if proc.app.playniteFullscreen then
    let launched ← ask (.playniteLauncher true)
    if launched then
      pure (true, { proc with process := true, placebo := false })
    else
      pure (false, { proc with process := false })
  else if proc.app.cmd.isEmpty then
    pure (true, { proc with placebo := true })
  else
    let launched ← ask (.runApp proc.app.cmd proc.app.elevated)
    pure (launched, { proc with process := launched })

/-! ## Ending -/

/-- From the command before the iterator back to the first one. -/
def undoPrepCmds (prepCmds : List PrepCmd) : Nat → Operation Unit
  | 0 => pure ()
  | appPrepIt + 1 =>
      match prepCmds[appPrepIt]? with
      | none => pure ()
      | some cmd =>
          if cmd.undoCmd.isEmpty then
            undoPrepCmds prepCmds appPrepIt
          else do
            let started ← ask (.runUndoCmd cmd)
            if started then
              let _ ← ask (.waitUndoCmd cmd)
              undoPrepCmds prepCmds appPrepIt
            else
              undoPrepCmds prepCmds appPrepIt

/-- What `running` finds out about a launched app: its id unless it has ended. -/
def runningStatus (proc : ProcT) : Operation (Option Int × ProcT) := do
  if proc.placebo then
    pure (some proc.appId, proc)
  else
    let group ← (if proc.app.waitAll then ask .processGroupRunning else pure false)
    if group then
      pure (some proc.appId, proc)
    else
      let child ← (if proc.process then ask .processRunning else pure false)
      if child then
        pure (some proc.appId, proc)
      else
        let recent ← (if proc.app.autoDetach then ask .launchedRecently else pure false)
        if recent then
          pure (some proc.appId, { proc with placebo := true })
        else
          pure (none, proc)

/-- The running app may have been given another id. -/
def updateApps (proc : ProcT) (apps : List Ctx) : ProcT :=
  if 0 < proc.appId && !proc.app.uuid.isEmpty then
    match apps.find? fun candidate => candidate.uuid == proc.app.uuid with
    | some refreshed => { proc with apps, appId := refreshed.id }
    | none => { proc with apps }
  else
    { proc with apps }

/-- The rest of `refresh`: a running app keeps its state, else all of it is replaced, though not
`_deferred_launch`. -/
def refreshed (id : Int) (apps : List Ctx) (proc : ProcT) : ProcT :=
  if 0 < id then updateApps proc apps else { apps, deferredLaunch := proc.deferredLaunch }

/-- The part of `terminate` before apps.json is read again. -/
def endApp (proc : ProcT) : Operation ProcT := do
  ask .terminateProcessGroup
  undoPrepCmds proc.app.prepCmds proc.appPrepIt
  pure { appId := -1, apps := proc.apps }

/-- After `endApp` there is no launch that was deferred and no child, so `running` neither launches
nor ends anything when `refresh` asks it. -/
def terminate (needsRefresh : Bool) (proc : ProcT) : Operation ProcT := do
  let ended ← endApp proc
  if needsRefresh then
    let apps ← ask .parse
    match apps with
    | none => pure ended
    | some apps =>
        let (id, ended) ← runningStatus ended
        pure (refreshed (id.getD 0) apps ended)
  else
    pure ended

/-! ## The operations -/

def launchAppCommands (proc : ProcT) : Operation (Int × ProcT) := do
  let (prepared, appPrepIt) ← runPrepCmds proc.app proc.app.prepCmds 0
  if !prepared then
    let proc ← terminate true { proc with appPrepIt }
    pure (-1, proc)
  else
    spawnDetached proc.app proc.app.detached
    let (launched, proc) ← startApp { proc with appPrepIt }
    if launched then
      pure (0, proc)
    else
      let proc ← terminate true proc
      pure (-1, proc)

def requiresUserSession (app : Ctx) : Bool :=
  !app.prepCmds.isEmpty || !app.detached.isEmpty || !app.cmd.isEmpty || !app.playniteId.isEmpty ||
    app.playniteFullscreen

def execute (app : Ctx) (proc : ProcT) : Operation (Int × ProcT) := do
  let ended ← terminate false { proc with deferredLaunch := false }
  let proc := { ended with app, appId := app.id, appPrepIt := 0 }
  let asSystem ← ask .isRunningAsSystem
  let ready ← (if asSystem && requiresUserSession app then ask .retrieveUsersToken else pure true)
  if ready then
    launchAppCommands proc
  else
    pure (0, { proc with deferredLaunch := true })

def running (proc : ProcT) : Operation (Int × ProcT) := do
  let waiting ← (if proc.deferredLaunch then do
      let asSystem ← ask .isRunningAsSystem
      if asSystem then
        let ready ← ask .retrieveUsersToken
        pure !ready
      else
        pure false
    else
      pure false)
  if waiting then
    pure (proc.appId, proc)
  else
    let (error, proc) ← (if proc.deferredLaunch
      then launchAppCommands { proc with deferredLaunch := false } else pure (0, proc))
    if error != 0 then
      pure (0, proc)
    else
      let (id, proc) ← runningStatus proc
      if id.isNone && proc.process then
        let proc ← terminate true proc
        pure (0, proc)
      else
        pure (id.getD 0, proc)

def pause (streamLifecycleLockHeld : Bool) (proc : ProcT) : Operation ProcT := do
  let (id, proc) ← (if streamLifecycleLockHeld then pure (proc.appId, proc) else running proc)
  if 0 < id && proc.app.terminateOnPause then
    terminate true proc
  else
    pure proc

def refresh (needsTerminate : Bool) (proc : ProcT) : Operation ProcT := do
  let proc ← (if needsTerminate then terminate false proc else pure proc)
  let apps ← ask .parse
  match apps with
  | none => pure proc
  | some apps =>
      let (id, proc) ← running proc
      pure (refreshed id apps proc)

def remoteInputUuid : String := "8CB5C136-DA67-4F99-B4A1-F9CD35005CF4"

/-- `launch` starts it only if no app is active. -/
def launchInputOnly (inputOnlyAppId : Int) (proc : ProcT) : ProcT :=
  if proc.appId ≤ 0 then
    { proc with
      appId := inputOnlyAppId, placebo := true,
      app := { proc.app with uuid := remoteInputUuid, terminateOnPause := true } }
  else
    proc

/-- What is asked of the one `proc_t`. -/
inductive Request where
  | execute (app : Ctx)
  | running
  | pause (streamLifecycleLockHeld : Bool)
  | terminate (needsRefresh : Bool)
  | refresh (needsTerminate : Bool)
  | launchInputOnly (inputOnlyAppId : Int)

/-- The app that is to run. -/
def Request.apps : Request → List Ctx
  | .execute app => [app]
  | _ => []

def Request.operation (proc : ProcT) : Request → Operation ProcT
  | .execute app => do
      let (_, left) ← Process.execute app proc
      pure left
  | .running => do
      let (_, left) ← Process.running proc
      pure left
  | .pause held => Process.pause held proc
  | .terminate needsRefresh => Process.terminate needsRefresh proc
  | .refresh needsTerminate => Process.refresh needsTerminate proc
  | .launchInputOnly inputOnlyAppId => pure (Process.launchInputOnly inputOnlyAppId proc)

end UmbraHost.Process
