import UmbraHost.Transition.Run

/-! # Runtime overrides of the output

`set_runtime_output_name_override`, its leases and the worker for deferred overrides of
`config.cpp`.  An override is active, or it waits in the deferred slot until the lock screen is
gone.  Each call holds the lock of the slots throughout; the worker takes it twice. -/

namespace UmbraHost.Config.OutputOverride

open Transition

/-- A name and the lease it was published under. -/
structure Slot where
  name : Option String := none
  lease : Nat := 0
deriving DecidableEq, Repr

/-- Where the worker is: before its first look, after it, and before it publishes. -/
inductive Worker where
  | polling
  | found
  | unlocked
deriving DecidableEq, Repr

/-- The leases count 64 bits, more than there are publications. -/
structure Overrides where
  nextLease : Nat := 0
  runtime : Slot := {}
  deferred : Slot := {}
  worker : Worker := .polling
deriving DecidableEq, Repr

/-- What the platform says during a call. -/
structure Displays where
  virtualOutput : Bool
  lockScreenActive : Bool
  physicalDisplay : Bool

def isVirtualOutputOverride (displays : Displays) (outputName : String) : Bool :=
  outputName ≠ "" && displays.virtualOutput

/-- The lease that is returned, and the slots. -/
def setRuntimeOutputNameOverrideImpl (displays : Displays) (outputName : Option String)
    (overrides : Overrides) : Nat × Overrides :=
  let lease := overrides.nextLease + 1
  match outputName with
  | none => (lease, { overrides with nextLease := lease, runtime := {}, deferred := {} })
  | some name =>
    if isVirtualOutputOverride displays name && displays.lockScreenActive &&
        displays.physicalDisplay then
      (lease,
        { overrides with
          nextLease := lease, runtime := {}, deferred := { name := some name, lease } })
    else
      (lease,
        { overrides with
          nextLease := lease, runtime := { name := some name, lease }, deferred := {} })

def setRuntimeOutputNameOverride (displays : Displays) (outputName : Option String)
    (overrides : Overrides) : Overrides :=
  (setRuntimeOutputNameOverrideImpl displays outputName overrides).2

def setRuntimeOutputNameOverrideWithLease (displays : Displays) (outputName : String)
    (overrides : Overrides) : Nat × Overrides :=
  setRuntimeOutputNameOverrideImpl displays (some outputName) overrides

def clearRuntimeOutputNameOverrideIfLease (lease : Nat) (overrides : Overrides) :
    Bool × Overrides :=
  if lease = 0 then (false, overrides)
  else
    (overrides.runtime.lease = lease || overrides.deferred.lease = lease,
      { overrides with
        runtime := if overrides.runtime.lease = lease then {} else overrides.runtime
        deferred := if overrides.deferred.lease = lease then {} else overrides.deferred })

def Slot.filled (slot : Slot) : Bool := slot.name.any (· ≠ "")

/-- The worker under the second lock. -/
def publishDeferred (lockScreenActive : Bool) (overrides : Overrides) : Overrides :=
  if !overrides.deferred.filled || lockScreenActive then { overrides with worker := .polling }
  else
    { overrides with runtime := overrides.deferred, deferred := {}, worker := .polling }

inductive Step where
  | set (displays : Displays) (outputName : Option String)
  | setWithLease (displays : Displays) (outputName : String)
  | clearIfLease (lease : Nat)
  /-- The worker goes on, with what it is told about the lock screen if it asks. -/
  | work (lockScreenActive : Bool)

def work (lockScreenActive : Bool) (overrides : Overrides) : Overrides :=
  match overrides.worker with
  | .polling =>
    if overrides.deferred.filled then { overrides with worker := .found } else overrides
  | .found =>
    { overrides with worker := if lockScreenActive then .polling else .unlocked }
  | .unlocked => publishDeferred lockScreenActive overrides

def Step.apply : Step → Overrides → Overrides
  | set displays outputName, overrides =>
    setRuntimeOutputNameOverride displays outputName overrides
  | setWithLease displays outputName, overrides =>
    (setRuntimeOutputNameOverrideWithLease displays outputName overrides).2
  | clearIfLease lease, overrides => (clearRuntimeOutputNameOverrideIfLease lease overrides).2
  | work lockScreenActive, overrides => OutputOverride.work lockScreenActive overrides

/-- The name that a call sets and the lease it gets. -/
def Step.publication : Step → Overrides → Option (Option String × Nat)
  | set displays outputName, overrides =>
    some (outputName, (setRuntimeOutputNameOverrideImpl displays outputName overrides).1)
  | setWithLease displays outputName, overrides =>
    some (some outputName,
      (setRuntimeOutputNameOverrideWithLease displays outputName overrides).1)
  | clearIfLease _, _ => none
  | work _, _ => none

/-- The set calls of a run in their order. -/
def publications : List Step → Overrides → List (Option String × Nat)
  | [], _ => []
  | step :: rest, overrides =>
    (step.publication overrides).toList ++ publications rest (step.apply overrides)

theorem publications_concat (past : List Step) (step : Step) (overrides : Overrides) :
    publications (past ++ [step]) overrides = publications past overrides ++
      (step.publication (run Step.apply past overrides)).toList := by
  induction past generalizing overrides with
  | nil => simp [publications]
  | cons first rest ih =>
      simp only [List.cons_append, publications, ih, run_cons, List.append_assoc]

/-! ## Leases -/

/-- What a slot holds was set by the latest call. -/
def Latest (calls : List (Option String × Nat)) (slot : Slot) : Prop :=
  ∃ name, slot = { name := some name, lease := calls.length } ∧
    calls.getLast? = some (some name, calls.length)

structure Leased (calls : List (Option String × Nat)) (overrides : Overrides) : Prop where
  counted : calls.map Prod.snd = List.range' 1 calls.length
  next : overrides.nextLease = calls.length
  one : overrides.runtime = {} ∨ overrides.deferred = {}
  runtime : overrides.runtime = {} ∨ Latest calls overrides.runtime
  deferred : overrides.deferred = {} ∨ Latest calls overrides.deferred

variable {calls : List (Option String × Nat)} {overrides : Overrides} {slot : Slot}

theorem Leased.set (leased : Leased calls overrides) (displays : Displays)
    (outputName : Option String) :
    Leased
      (calls ++ [(outputName,
        (setRuntimeOutputNameOverrideImpl displays outputName overrides).1)])
      (setRuntimeOutputNameOverrideImpl displays outputName overrides).2 := by
  have lease : (setRuntimeOutputNameOverrideImpl displays outputName overrides).1 =
      calls.length + 1 := by
    rw [← leased.next]
    cases outputName with
    | none => rfl
    | some name =>
        simp only [setRuntimeOutputNameOverrideImpl]
        split <;> rfl
  have counted : (calls ++ [(outputName, calls.length + 1)]).map Prod.snd =
      List.range' 1 (calls ++ [(outputName, calls.length + 1)]).length := by
    simp [leased.counted, List.range'_concat, Nat.add_comm]
  have latest (name : String) (same : outputName = some name) :
      Latest (calls ++ [(outputName, calls.length + 1)])
        { name := some name, lease := overrides.nextLease + 1 } :=
    ⟨name, by simp [leased.next], by simp [same]⟩
  rw [lease]
  cases outputName with
  | none => exact ⟨counted, by simp [setRuntimeOutputNameOverrideImpl, leased.next],
      .inl rfl, .inl rfl, .inl rfl⟩
  | some name =>
      simp only [setRuntimeOutputNameOverrideImpl]
      split
      · exact ⟨counted, by simp [leased.next], .inl rfl, .inl rfl, .inr (latest name rfl)⟩
      · exact ⟨counted, by simp [leased.next], .inr rfl, .inr (latest name rfl), .inl rfl⟩

theorem Leased.clear (leased : Leased calls overrides) (lease : Nat) :
    Leased calls (clearRuntimeOutputNameOverrideIfLease lease overrides).2 := by
  have emptied (slot : Slot) (held : slot = {} ∨ Latest calls slot) :
      (if slot.lease = lease then {} else slot) = {} ∨
        Latest calls (if slot.lease = lease then {} else slot) := by
    split
    · exact .inl rfl
    · exact held
  have gone (slot : Slot) (empty : slot = {}) : (if slot.lease = lease then {} else slot) = {} := by
    rw [empty, ite_self]
  rw [clearRuntimeOutputNameOverrideIfLease]
  split
  · exact leased
  · exact ⟨leased.counted, leased.next, leased.one.imp (gone _) (gone _),
      emptied _ leased.runtime, emptied _ leased.deferred⟩

theorem Leased.work (leased : Leased calls overrides) (lockScreenActive : Bool) :
    Leased calls (work lockScreenActive overrides) := by
  obtain ⟨counted, next, one, runtime, deferred⟩ := leased
  rw [OutputOverride.work]
  split
  · split <;> exact ⟨counted, next, one, runtime, deferred⟩
  · exact ⟨counted, next, one, runtime, deferred⟩
  · rw [publishDeferred]
    split
    · exact ⟨counted, next, one, runtime, deferred⟩
    · exact ⟨counted, next, .inr rfl, deferred, .inl rfl⟩

theorem Leased.step (leased : Leased calls overrides) (step : Step) :
    Leased (calls ++ (step.publication overrides).toList) (step.apply overrides) := by
  cases step with
  | set displays outputName => exact leased.set displays outputName
  | setWithLease displays outputName => exact leased.set displays (some outputName)
  | clearIfLease lease =>
      rw [Step.publication, Option.toList_none, List.append_nil]
      exact leased.clear lease
  | work lockScreenActive =>
      rw [Step.publication, Option.toList_none, List.append_nil]
      exact leased.work lockScreenActive

theorem leased_run (steps : List Step) :
    Leased (publications steps {}) (run Step.apply steps {}) := by
  induction steps using List.reverseRecOn with
  | nil => exact ⟨rfl, rfl, .inl rfl, .inl rfl, .inl rfl⟩
  | append_singleton past step ih =>
      rw [publications_concat, run_append]
      exact ih.step step

/-! ## Held overrides -/

def Overrides.Holds (overrides : Overrides) (name : String) (lease : Nat) : Prop :=
  overrides.runtime = { name := some name, lease } ∨
    overrides.deferred = { name := some name, lease }

theorem Latest.length_pos (latest : Latest calls slot) : 0 < calls.length := by
  obtain ⟨name, -, last⟩ := latest
  exact List.length_pos_of_mem (List.mem_of_getLast? last)

theorem lease_eq_zero_iff (held : slot = {} ∨ Latest calls slot) :
    slot.lease = 0 ↔ slot.name = none := by
  rcases held with rfl | latest
  · exact iff_of_true rfl rfl
  · have positive := latest.length_pos
    obtain ⟨name, rfl, -⟩ := latest
    exact iff_of_false (Nat.ne_of_gt positive) (Option.some_ne_none name)

/-- A lease above zero is the one of a held override, or of none. -/
theorem lease_eq_iff {lease : Nat} (held : slot = {} ∨ Latest calls slot) (given : lease ≠ 0) :
    slot.lease = lease ↔ ∃ name, slot = { name := some name, lease } := by
  constructor
  · rintro rfl
    rcases held with rfl | ⟨name, rfl, -⟩
    · exact absurd rfl given
    · exact ⟨name, rfl⟩
  · rintro ⟨name, rfl⟩
    rfl

theorem Leased.latest (leased : Leased calls overrides) {name : String} {lease : Nat}
    (holds : overrides.Holds name lease) :
    lease = calls.length ∧ calls.getLast? = some (some name, lease) := by
  have here (slot : Slot) (held : slot = {} ∨ Latest calls slot)
      (same : slot = { name := some name, lease }) :
      lease = calls.length ∧ calls.getLast? = some (some name, lease) := by
    rcases held with rfl | ⟨other, rfl, last⟩
    · cases same
    · cases same
      exact ⟨rfl, last⟩
  rcases holds with active | waiting
  · exact here _ leased.runtime active
  · exact here _ leased.deferred waiting

theorem Leased.clears_iff (leased : Leased calls overrides) (lease : Nat) :
    (clearRuntimeOutputNameOverrideIfLease lease overrides).1 = true ↔
      ∃ name, overrides.Holds name lease := by
  by_cases zero : lease = 0
  · rw [clearRuntimeOutputNameOverrideIfLease, if_pos zero]
    refine iff_of_false nofun ?_
    rintro ⟨name, holds⟩
    obtain ⟨rfl, last⟩ := leased.latest holds
    have positive := List.length_pos_of_mem (List.mem_of_getLast? last)
    exact absurd zero (Nat.ne_of_gt positive)
  · rw [clearRuntimeOutputNameOverrideIfLease, if_neg zero]
    simp only [Bool.or_eq_true, decide_eq_true_eq, lease_eq_iff leased.runtime zero,
      lease_eq_iff leased.deferred zero, ← exists_or]
    rfl

theorem Leased.cleared (leased : Leased calls overrides) {lease : Nat}
    (cleared : (clearRuntimeOutputNameOverrideIfLease lease overrides).1 = true) (name : String)
    (other : Nat) :
    ¬ (clearRuntimeOutputNameOverrideIfLease lease overrides).2.Holds name other := by
  obtain ⟨held, holds⟩ := (leased.clears_iff lease).mp cleared
  have last := (leased.latest holds).1
  intro still
  -- Another call has set what is still held, but there is one latest call.
  have same := ((leased.clear lease).latest still).1.trans last.symm
  subst same
  rw [clearRuntimeOutputNameOverrideIfLease] at still
  split at still
  · next zero =>
      rw [clearRuntimeOutputNameOverrideIfLease, if_pos zero] at cleared
      cases cleared
  · have gone (slot : Slot) :
        (if slot.lease = other then {} else slot) ≠ { name := some name, lease := other } := by
      split
      · nofun
      · next differs =>
          rintro rfl
          exact differs rfl
    rcases still with active | waiting
    · exact gone _ active
    · exact gone _ waiting

theorem Leased.clear_earlier (leased : Leased calls overrides)
    {earlier later : List (Option String × Nat)} (split : calls = earlier ++ later)
    (newer : later ≠ []) {lease : Nat} (own : lease ∈ earlier.map Prod.snd) :
    clearRuntimeOutputNameOverrideIfLease lease overrides = (false, overrides) := by
  have below : 0 < lease ∧ lease < calls.length := by
    have counted := leased.counted
    have positive := List.length_pos_iff.mpr newer
    rw [split, List.map_append, List.length_append, ← List.range'_append_1] at counted
    have front := List.append_inj_left counted (by simp)
    rw [front, List.mem_range'_1] at own
    rw [split, List.length_append]
    omega
  have untouched (slot : Slot) (held : slot = {} ∨ Latest calls slot) : slot.lease ≠ lease := by
    rcases held with rfl | ⟨name, rfl, -⟩
    · exact Nat.ne_of_lt below.1
    · exact Nat.ne_of_gt below.2
  rw [clearRuntimeOutputNameOverrideIfLease, if_neg (Nat.ne_of_gt below.1)]
  simp only [if_neg (untouched _ leased.runtime), if_neg (untouched _ leased.deferred),
    decide_eq_false (untouched _ leased.runtime), decide_eq_false (untouched _ leased.deferred),
    Bool.or_self]

/-- In every order of the calls and the worker's steps one slot at most holds an override, the
one of the latest call.  A lease clears what was published under it and nothing newer. -/
theorem output_override_leases (steps : List Step) :
    let overrides := run Step.apply steps {}
    let calls := publications steps {}
    (overrides.runtime.name = none ∨ overrides.deferred.name = none) ∧
    (overrides.runtime.lease = 0 ↔ overrides.runtime.name = none) ∧
    (overrides.deferred.lease = 0 ↔ overrides.deferred.name = none) ∧
    (∀ name lease, overrides.Holds name lease → calls.getLast? = some (some name, lease)) ∧
    (∀ lease, (clearRuntimeOutputNameOverrideIfLease lease overrides).1 = true ↔
      ∃ name, overrides.Holds name lease) ∧
    (∀ lease, (clearRuntimeOutputNameOverrideIfLease lease overrides).1 = true →
      ∀ name other,
        ¬ (clearRuntimeOutputNameOverrideIfLease lease overrides).2.Holds name other) ∧
    ∀ earlier later, calls = earlier ++ later → later ≠ [] →
      ∀ lease ∈ earlier.map Prod.snd,
        clearRuntimeOutputNameOverrideIfLease lease overrides = (false, overrides) := by
  intro overrides calls
  have leased : Leased calls overrides := leased_run steps
  refine ⟨?_, lease_eq_zero_iff leased.runtime, lease_eq_zero_iff leased.deferred, ?_,
    leased.clears_iff, ?_, ?_⟩
  · exact leased.one.imp (congrArg Slot.name) (congrArg Slot.name)
  · intro name lease holds
    exact (leased.latest holds).2
  · intro lease cleared
    exact leased.cleared cleared
  · intro earlier later split newer lease own
    exact leased.clear_earlier split newer own

end UmbraHost.Config.OutputOverride
