import UmbraHost.History.Writer

/-! # What one session sees of the commands

The row of a session and its samples only depend on the commands of that session
other than its events, in their order; its events only depend on the commands
other than its samples. -/

namespace UmbraHost.History

open UmbraHost.Tables

def isSample (cmd : WriteCmd Double) : Bool :=
  match cmd.request with
  | .insertSample _ => true
  | _ => false

def isEvent (cmd : WriteCmd Double) : Bool :=
  match cmd.request with
  | .insertEvent _ => true
  | _ => false

def newerSample (doubles : Doubles Double) (other pivot : SessionSample Double) : Bool :=
  doubles.lt pivot.timestampUnix other.timestampUnix

def newerEvent (doubles : Doubles Double) (other pivot : SessionEvent Double) : Bool :=
  doubles.lt pivot.timestampUnix other.timestampUnix

theorem newerSample_irrefl (doubles : Doubles Double) (sample : SessionSample Double) :
    newerSample doubles sample sample = false :=
  doubles.lt_irrefl _

theorem newerEvent_irrefl (doubles : Doubles Double) (event : SessionEvent Double) :
    newerEvent doubles event event = false :=
  doubles.lt_irrefl _

variable (host : Host Double) (uuid : String)

/-! ## The row and its samples -/

def sampleSide (tables : Tables Double) :
    Option (SessionRow Double) × List (SessionSample Double) :=
  (tables.sessions.lookup uuid, tables.samples.values (sampleOf uuid))

def sampleStep (cmd : WriteCmd Double)
    (side : Option (SessionRow Double) × List (SessionSample Double)) :
    Option (SessionRow Double) × List (SessionSample Double) :=
  match cmd.request with
  | .beginSession metadata =>
      (some (side.1.getD
        { metadata, startTimeUnix := host.nowUnix cmd.sequence, endTimeUnix := none,
          durationSeconds := none, verdict := .unknown }), side.2)
  | .endSession _ =>
      (side.1.map (·.ended host.doubles (host.nowUnix cmd.sequence) side.2), side.2)
  | .deleteSession _ => (none, if side.1.isSome then [] else side.2)
  | .insertSample sample =>
      if (side.1.map (·.endTimeUnix.isNone)).getD false then
        (side.1, keepNewest (newerSample host.doubles) maxSamplesPerSession [] (side.2 ++ [sample]))
      else side
  | _ => side

theorem accepts_eq (tables : Tables Double) :
    sessionAcceptsLiveUpdates tables uuid =
      ((tables.sessions.lookup uuid).map (·.endTimeUnix.isNone)).getD false := by
  unfold sessionAcceptsLiveUpdates
  cases tables.sessions.lookup uuid <;> rfl

variable {uuid}

theorem sampleSide_begin (now : Double) (metadata : SessionMetadata)
    (same : metadata.uuid = uuid) (tables : Tables Double) :
    sampleSide uuid (processBegin now metadata tables) =
      (some ((sampleSide uuid tables).1.getD
        { metadata, startTimeUnix := now, endTimeUnix := none, durationSeconds := none,
          verdict := .unknown }), (sampleSide uuid tables).2) := by
  subst same
  cases found : tables.sessions.lookup metadata.uuid with
  | none => simp [sampleSide, processBegin, found]
  | some row => simp [sampleSide, processBegin, found]

theorem sampleSide_end (now : Double) (tables : Tables Double) :
    sampleSide uuid (processEnd host.doubles now uuid tables) =
      ((sampleSide uuid tables).1.map (·.ended host.doubles now (sampleSide uuid tables).2),
        (sampleSide uuid tables).2) := by
  cases found : tables.sessions.lookup uuid with
  | none => simp [sampleSide, processEnd, found]
  | some row => simp [sampleSide, processEnd, found]

theorem sampleSide_delete (tables : Tables Double) :
    sampleSide uuid (processDelete uuid tables) =
      (none, if (sampleSide uuid tables).1.isSome then [] else (sampleSide uuid tables).2) := by
  cases found : tables.sessions.lookup uuid with
  | none => simp [sampleSide, processDelete, found]
  | some row =>
      have gone : (tables.samples.keepWhere fun row => !sampleOf uuid row.2).values
          (sampleOf uuid) = [] :=
        tables.samples.values_keepWhere_of_dropped fun row isOf => by rw [isOf]; rfl
      simp [sampleSide, processDelete, found, gone]

theorem sampleSide_sample (sample : SessionSample Double) (same : sample.sessionUuid = uuid)
    (tables : Tables Double) :
    sampleSide uuid (processSample host.doubles maxSamplesPerSession sample tables) =
      if ((sampleSide uuid tables).1.map (·.endTimeUnix.isNone)).getD false then
        ((sampleSide uuid tables).1, keepNewest (newerSample host.doubles) maxSamplesPerSession []
          ((sampleSide uuid tables).2 ++ [sample]))
      else sampleSide uuid tables := by
  subst same
  have itself : sampleOf sample.sessionUuid sample = true := decide_eq_true rfl
  have trimmed := (tables.samples.insert sample).values_trim (sampleOf sample.sessionUuid)
    (newerSample_irrefl host.doubles) maxSamplesPerSession
  rw [AutoTable.values_insert, if_pos itself] at trimmed
  rw [processSample, accepts_eq]
  split
  · rename_i accepts
    refine Eq.trans ?_ (if_pos accepts).symm
    exact Prod.ext rfl trimmed
  · rename_i stale
    exact (if_neg stale).symm

/-- What a command of another session, or an event, leaves alone. -/
theorem sampleSide_frame (cmd : WriteCmd Double) (known : cmd.request ≠ .prune)
    (other : (decide (cmd.sessionUuid = some uuid) && !isEvent cmd) = false)
    (tables : Tables Double) : sampleSide uuid (effect host cmd tables) = sampleSide uuid tables := by
  obtain ⟨sequence, request⟩ := cmd
  cases request with
  | prune => exact absurd rfl known
  | beginSession metadata =>
      have apart : uuid ≠ metadata.uuid := fun same => by
        simp [WriteCmd.sessionUuid, isEvent, same] at other
      simp only [effect, processBegin]
      split
      · rfl
      · simp only [sampleSide, AList.lookup_insert_ne apart]
  | endSession ended =>
      have apart : uuid ≠ ended := fun same => by
        simp [WriteCmd.sessionUuid, isEvent, same] at other
      simp only [effect, processEnd]
      split
      · rfl
      · simp only [sampleSide, AList.lookup_insert_ne apart]
  | deleteSession deleted =>
      have apart : uuid ≠ deleted := fun same => by
        simp [WriteCmd.sessionUuid, isEvent, same] at other
      simp only [effect, processDelete]
      split
      · rfl
      · simp only [sampleSide, AList.lookup_erase_ne apart]
        refine congrArg _ (tables.samples.values_keepWhere_of_kept fun row isOf => ?_)
        have named : row.2.sessionUuid = uuid := of_decide_eq_true isOf
        simp [sampleOf, named, apart]
  | insertSample sample =>
      have apart : sample.sessionUuid ≠ uuid := fun same => by
        simp [WriteCmd.sessionUuid, isEvent, same] at other
      have notOf : sampleOf uuid sample = false := decide_eq_false apart
      have disjoint : ∀ value : SessionSample Double, sampleOf uuid value = true →
          sampleOf sample.sessionUuid value = false := by
        intro value isOf
        have named : value.sessionUuid = uuid := of_decide_eq_true isOf
        simp [sampleOf, named, Ne.symm apart]
      simp only [effect, processSample]
      split
      · refine Prod.ext rfl ?_
        simp only [sampleSide]
        rw [AutoTable.values_trim_of_disjoint _ disjoint, AutoTable.values_insert, notOf]
        simp
      · rfl
  | insertEvent event =>
      simp only [effect, processEvent]
      split
      · rfl
      · rfl

theorem sampleSide_effect (cmd : WriteCmd Double)
    (own : (decide (cmd.sessionUuid = some uuid) && !isEvent cmd) = true)
    (tables : Tables Double) :
    sampleSide uuid (effect host cmd tables) = sampleStep host cmd (sampleSide uuid tables) := by
  obtain ⟨sequence, request⟩ := cmd
  have named := of_decide_eq_true (Bool.and_eq_true_iff.mp own).1
  cases request with
  | beginSession metadata =>
      exact sampleSide_begin _ metadata (Option.some.inj named) tables
  | endSession ended =>
      cases Option.some.inj named
      exact sampleSide_end host _ tables
  | deleteSession deleted =>
      cases Option.some.inj named
      exact sampleSide_delete tables
  | insertSample sample =>
      exact sampleSide_sample host sample (Option.some.inj named) tables
  | insertEvent event => simp [isEvent] at own
  | prune => cases named

theorem sampleSide_applyAll {cmds : List (WriteCmd Double)}
    (known : ∀ cmd ∈ cmds, cmd.request ≠ .prune) (tables : Tables Double) :
    sampleSide uuid (applyAll host cmds tables) =
      Transition.run (sampleStep host)
        (cmds.filter fun cmd => decide (cmd.sessionUuid = some uuid) && !isEvent cmd)
        (sampleSide uuid tables) :=
  Transition.run_project (effect host) (sampleSide uuid) (sampleStep host) _
    (fun cmd _ own => sampleSide_effect host cmd own)
    (fun cmd member => sampleSide_frame host cmd (known cmd member)) tables

/-! ## The events -/

variable (uuid)

/-- Whether the session is there and still open, and its events. -/
def eventSide (tables : Tables Double) : Option Bool × List (SessionEvent Double) :=
  ((tables.sessions.lookup uuid).map (·.endTimeUnix.isNone), tables.events.values (eventOf uuid))

def eventStep (cmd : WriteCmd Double) (side : Option Bool × List (SessionEvent Double)) :
    Option Bool × List (SessionEvent Double) :=
  match cmd.request with
  | .beginSession _ => (some (side.1.getD true), side.2)
  | .endSession _ => (side.1.map fun _ => false, side.2)
  | .deleteSession _ => (none, if side.1.isSome then [] else side.2)
  | .insertEvent event =>
      if side.1.getD false then
        (side.1, keepNewest (newerEvent host.doubles) maxEventsPerSession [] (side.2 ++ [event]))
      else side
  | _ => side

variable {uuid}

theorem eventSide_begin (now : Double) (metadata : SessionMetadata)
    (same : metadata.uuid = uuid) (tables : Tables Double) :
    eventSide uuid (processBegin now metadata tables) =
      (some ((eventSide uuid tables).1.getD true), (eventSide uuid tables).2) := by
  subst same
  cases found : tables.sessions.lookup metadata.uuid with
  | none => simp [eventSide, processBegin, found]
  | some row => simp [eventSide, processBegin, found]

theorem eventSide_end (now : Double) (tables : Tables Double) :
    eventSide uuid (processEnd host.doubles now uuid tables) =
      ((eventSide uuid tables).1.map fun _ => false, (eventSide uuid tables).2) := by
  cases found : tables.sessions.lookup uuid with
  | none => simp [eventSide, processEnd, found]
  | some row => simp [eventSide, processEnd, found, SessionRow.ended]

theorem eventSide_delete (tables : Tables Double) :
    eventSide uuid (processDelete uuid tables) =
      (none, if (eventSide uuid tables).1.isSome then [] else (eventSide uuid tables).2) := by
  cases found : tables.sessions.lookup uuid with
  | none => simp [eventSide, processDelete, found]
  | some row =>
      have gone : (tables.events.keepWhere fun row => !eventOf uuid row.2).values
          (eventOf uuid) = [] :=
        tables.events.values_keepWhere_of_dropped fun row isOf => by rw [isOf]; rfl
      simp [eventSide, processDelete, found, gone]

theorem eventSide_event (event : SessionEvent Double) (same : event.sessionUuid = uuid)
    (tables : Tables Double) :
    eventSide uuid (processEvent host.doubles maxEventsPerSession event tables) =
      if (eventSide uuid tables).1.getD false then
        ((eventSide uuid tables).1, keepNewest (newerEvent host.doubles) maxEventsPerSession []
          ((eventSide uuid tables).2 ++ [event]))
      else eventSide uuid tables := by
  subst same
  have itself : eventOf event.sessionUuid event = true := decide_eq_true rfl
  have trimmed := (tables.events.insert event).values_trim (eventOf event.sessionUuid)
    (newerEvent_irrefl host.doubles) maxEventsPerSession
  rw [AutoTable.values_insert, if_pos itself] at trimmed
  rw [processEvent, accepts_eq]
  split
  · rename_i accepts
    refine Eq.trans ?_ (if_pos accepts).symm
    exact Prod.ext rfl trimmed
  · rename_i stale
    exact (if_neg stale).symm

theorem eventSide_frame (cmd : WriteCmd Double) (known : cmd.request ≠ .prune)
    (other : (decide (cmd.sessionUuid = some uuid) && !isSample cmd) = false)
    (tables : Tables Double) : eventSide uuid (effect host cmd tables) = eventSide uuid tables := by
  obtain ⟨sequence, request⟩ := cmd
  cases request with
  | prune => exact absurd rfl known
  | beginSession metadata =>
      have apart : uuid ≠ metadata.uuid := fun same => by
        simp [WriteCmd.sessionUuid, isSample, same] at other
      simp only [effect, processBegin]
      split
      · rfl
      · simp only [eventSide, AList.lookup_insert_ne apart]
  | endSession ended =>
      have apart : uuid ≠ ended := fun same => by
        simp [WriteCmd.sessionUuid, isSample, same] at other
      simp only [effect, processEnd]
      split
      · rfl
      · simp only [eventSide, AList.lookup_insert_ne apart]
  | deleteSession deleted =>
      have apart : uuid ≠ deleted := fun same => by
        simp [WriteCmd.sessionUuid, isSample, same] at other
      simp only [effect, processDelete]
      split
      · rfl
      · simp only [eventSide, AList.lookup_erase_ne apart]
        refine congrArg _ (tables.events.values_keepWhere_of_kept fun row isOf => ?_)
        have named : row.2.sessionUuid = uuid := of_decide_eq_true isOf
        simp [eventOf, named, apart]
  | insertEvent event =>
      have apart : event.sessionUuid ≠ uuid := fun same => by
        simp [WriteCmd.sessionUuid, isSample, same] at other
      have notOf : eventOf uuid event = false := decide_eq_false apart
      have disjoint : ∀ value : SessionEvent Double, eventOf uuid value = true →
          eventOf event.sessionUuid value = false := by
        intro value isOf
        have named : value.sessionUuid = uuid := of_decide_eq_true isOf
        simp [eventOf, named, Ne.symm apart]
      simp only [effect, processEvent]
      split
      · refine Prod.ext rfl ?_
        simp only [eventSide]
        rw [AutoTable.values_trim_of_disjoint _ disjoint, AutoTable.values_insert, notOf]
        simp
      · rfl
  | insertSample sample =>
      simp only [effect, processSample]
      split
      · rfl
      · rfl

theorem eventSide_effect (cmd : WriteCmd Double)
    (own : (decide (cmd.sessionUuid = some uuid) && !isSample cmd) = true)
    (tables : Tables Double) :
    eventSide uuid (effect host cmd tables) = eventStep host cmd (eventSide uuid tables) := by
  obtain ⟨sequence, request⟩ := cmd
  have named := of_decide_eq_true (Bool.and_eq_true_iff.mp own).1
  cases request with
  | beginSession metadata =>
      exact eventSide_begin _ metadata (Option.some.inj named) tables
  | endSession ended =>
      cases Option.some.inj named
      exact eventSide_end host _ tables
  | deleteSession deleted =>
      cases Option.some.inj named
      exact eventSide_delete tables
  | insertSample sample => simp [isSample] at own
  | insertEvent event =>
      exact eventSide_event host event (Option.some.inj named) tables
  | prune => cases named

theorem eventSide_applyAll {cmds : List (WriteCmd Double)}
    (known : ∀ cmd ∈ cmds, cmd.request ≠ .prune) (tables : Tables Double) :
    eventSide uuid (applyAll host cmds tables) =
      Transition.run (eventStep host)
        (cmds.filter fun cmd => decide (cmd.sessionUuid = some uuid) && !isSample cmd)
        (eventSide uuid tables) :=
  Transition.run_project (effect host) (eventSide uuid) (eventStep host) _
    (fun cmd _ own => eventSide_effect host cmd own)
    (fun cmd member => eventSide_frame host cmd (known cmd member)) tables

/-- Two orders of the commands give a session the same rows if they agree on its
commands without the events and on its commands without the samples. -/
theorem sessionRows_applyAll_congr {first second : List (WriteCmd Double)}
    (known : ∀ cmd ∈ first, cmd.request ≠ .prune) (known' : ∀ cmd ∈ second, cmd.request ≠ .prune)
    (samples : first.filter (fun cmd => decide (cmd.sessionUuid = some uuid) && !isEvent cmd) =
      second.filter fun cmd => decide (cmd.sessionUuid = some uuid) && !isEvent cmd)
    (events : first.filter (fun cmd => decide (cmd.sessionUuid = some uuid) && !isSample cmd) =
      second.filter fun cmd => decide (cmd.sessionUuid = some uuid) && !isSample cmd)
    (tables : Tables Double) :
    (applyAll host first tables).sessionRows uuid =
      (applyAll host second tables).sessionRows uuid := by
  have left : sampleSide uuid (applyAll host first tables) =
      sampleSide uuid (applyAll host second tables) := by
    rw [sampleSide_applyAll host known, sampleSide_applyAll host known', samples]
  have right : eventSide uuid (applyAll host first tables) =
      eventSide uuid (applyAll host second tables) := by
    rw [eventSide_applyAll host known, eventSide_applyAll host known', events]
  simp only [Tables.sessionRows, SessionRows.mk.injEq]
  exact ⟨congrArg (·.1) left, congrArg (·.2) left, congrArg (·.2) right⟩

end UmbraHost.History
