import UmbraHost.Queue.Updates
import UmbraHost.Transition.Run

/-! # Ping registrations

Any number of `recv_ping` calls and the receive thread (`stream.cpp`), with the registration
queue between them (`safe::queue_t`, `thread_safe.h`).  Every operation on that queue is one
step.  A call is identified with its message queue. -/

namespace UmbraHost.Stream.PingRegistrations

open UmbraHost.Queue UmbraHost.Transition

inductive SocketType where
  | video
  | audio
deriving DecidableEq, Repr

variable {Call : Type u} {Address : Type v} {Payload : Type w}

/-- `av_session_id_t`. -/
inductive SessionId (Address : Type v) (Payload : Type w) where
  | address (address : Address)
  | payload (payload : Payload)
deriving DecidableEq, Repr

/-- What the calls were made with.  The ping payload is unique to a launch session, which
waits once for each socket. -/
structure Calls (Call : Type u) (Address : Type v) (Payload : Type w) where
  type : Call → SocketType
  legacy : Call → Bool
  payload : Call → Payload
  address : Call → Address
  unique : ∀ first second, type first = type second → payload first = payload second →
    first = second

/-- Where a call stands; `leaving` carries the address of the peer after the wait. -/
inductive Phase (Address : Type v) where
  | idle
  | registering
  | waiting
  | leaving (peer : Address)
  | unregistering
  | returned
deriving DecidableEq, Repr

def Phase.next : Phase Address → Phase Address
  | .idle => .registering
  | .registering => .waiting
  | .leaving _ => .unregistering
  | .unregistering => .returned
  | phase => phase

/-- The call has registered its address, if it has to, and not removed it. -/
def Phase.listed : Phase Address → Bool
  | .registering | .waiting | .leaving _ => true
  | _ => false

def maxElements : Nat := 30

abbrev Slot (Address : Type v) (Payload : Type w) := SocketType × SessionId Address Payload

/-- `drained` tells that the receive thread has emptied the queue since the call registered. -/
structure State (Call : Type u) (Address : Type v) (Payload : Type w) where
  updates : Updates (Slot Address Payload) Call := {}
  phase : Call → Phase Address := fun _ => .idle
  drained : Call → Bool := fun _ => false

inductive Event (Call : Type u) (Address : Type v) where
  | advance (call : Call)
  | endWait (call : Call) (recvPeer : Option Address)
  | drain
deriving DecidableEq, Repr

namespace Calls

variable (calls : Calls Call Address Payload)

def addressSlot (call : Call) : Slot Address Payload :=
  (calls.type call, .address (calls.address call))

def payloadSlot (call : Call) : Slot Address Payload :=
  (calls.type call, .payload (calls.payload call))

/-- What the next step of a call raises on the registration queue. -/
def registration (call : Call) : Phase Address → Option (Slot Address Payload × Option Call)
  | .idle => if calls.legacy call then some (calls.addressSlot call, some call) else none
  | .registering => some (calls.payloadSlot call, some call)
  | .leaving peer => if calls.legacy call then some ((calls.type call, .address peer), none) else none
  | .unregistering => some (calls.payloadSlot call, none)
  | .waiting | .returned => none

end Calls

/-- `queue_t::raise` clears a full queue. -/
def raise (update : Slot Address Payload × Option Call)
    (updates : Updates (Slot Address Payload) Call) : Updates (Slot Address Payload) Call :=
  if updates.queue.length = maxElements then { updates with queue := [] }.post update
  else updates.post update

def step [DecidableEq Call] [DecidableEq Address] [DecidableEq Payload]
    (calls : Calls Call Address Payload) :
    Event Call Address → State Call Address Payload → State Call Address Payload
  | .advance call, state =>
    { state with
      updates := match calls.registration call (state.phase call) with
        | some update => raise update state.updates
        | none => state.updates
      phase := Function.update state.phase call (state.phase call).next }
  | .endWait call recvPeer, state =>
    match state.phase call with
    | .waiting =>
      let peer := recvPeer.getD (calls.address call)
      { state with phase := Function.update state.phase call (.leaving peer) }
    | _ => state
  | .drain, state =>
    match state.updates.queue with
    | [] =>
      { state with drained := fun call => state.drained call || state.phase call = .waiting }
    | _ :: _ => { state with updates := state.updates.take }

/-- No other legacy call with the address is between its registration and its removal. -/
def OnlyListed (calls : Calls Call Address Payload) (state : State Call Address Payload)
    (call : Call) : Prop :=
  ∀ other, other ≠ call → calls.legacy other = true → calls.type other = calls.type call →
    (state.phase other).listed = true → calls.address other ≠ calls.address call

/-- A waiting call whose registration has been drained is the one that is registered. -/
def Undisturbed (calls : Calls Call Address Payload) (state : State Call Address Payload) : Prop :=
  ∀ call, state.phase call = .waiting → state.drained call = true →
    state.updates.table (calls.payloadSlot call) = some call ∧
      (calls.legacy call = true → OnlyListed calls state call →
        state.updates.table (calls.addressSlot call) = some call)

/-- The queue is not full when something is raised, and no legacy call takes an address out
that another one still needs, nor leaves its own address to another one. -/
def Careful (calls : Calls Call Address Payload) :
    Event Call Address → State Call Address Payload → Prop
  | .advance call, state =>
    ((calls.registration call (state.phase call)).isSome = true →
        state.updates.queue.length ≠ maxElements) ∧
      ∀ peer, state.phase call = .leaving peer → calls.legacy call = true →
        ∀ other, other ≠ call → calls.legacy other = true →
          calls.type other = calls.type call → (state.phase other).listed = true →
          calls.address other ≠ peer ∧ calls.address other ≠ calls.address call
  | _, _ => True

/-! ## What stays registered -/

variable {calls : Calls Call Address Payload} {state : State Call Address Payload}
  {updates : Updates (Slot Address Payload) Call} {slot : Slot Address Payload} {call : Call}
  {drained : Bool}

theorem raise_of_room {update : Slot Address Payload × Option Call}
    (room : updates.queue.length ≠ maxElements) : raise update updates = updates.post update :=
  if_neg room

/-- The slot a call raises something for, as another call sees it. -/
theorem registration_slot {caller : Call} {update : Slot Address Payload × Option Call}
    (raises : calls.registration caller (state.phase caller) = some update) :
    (update.1 = calls.payloadSlot caller) ∨
      (calls.legacy caller = true ∧ state.phase caller = .idle ∧
        update = (calls.addressSlot caller, some caller)) ∨
      (calls.legacy caller = true ∧ ∃ peer, state.phase caller = .leaving peer ∧
        update = ((calls.type caller, .address peer), none)) := by
  cases phase : state.phase caller with
  | idle =>
      simp only [phase, Calls.registration] at raises
      split at raises
      next legacy => exact .inr (.inl ⟨legacy, rfl, (Option.some.inj raises).symm⟩)
      next => contradiction
  | registering =>
      simp only [phase, Calls.registration] at raises
      exact .inl (by rw [← Option.some.inj raises])
  | waiting => simp [phase, Calls.registration] at raises
  | leaving peer =>
      simp only [phase, Calls.registration] at raises
      split at raises
      next legacy => exact .inr (.inr ⟨legacy, peer, rfl, (Option.some.inj raises).symm⟩)
      next => contradiction
  | unregistering =>
      simp only [phase, Calls.registration] at raises
      exact .inl (by rw [← Option.some.inj raises])
  | returned => simp [phase, Calls.registration] at raises

variable [DecidableEq Address] [DecidableEq Payload]

/-- The slot comes to stand for the call, and already does once the queue was drained. -/
structure Held (updates : Updates (Slot Address Payload) Call) (slot : Slot Address Payload)
    (call : Call) (drained : Bool) : Prop where
  settled : updates.settled slot = some call
  taken : drained = true → updates.waiting slot = []

theorem Held.table (held : Held updates slot call true) : updates.table slot = some call := by
  rw [Updates.table_of_waiting_nil (held.taken rfl), held.settled]

theorem Held.post_other (held : Held updates slot call drained)
    {update : Slot Address Payload × Option Call} (other : update.1 ≠ slot) :
    Held (updates.post update) slot call drained where
  settled := (Updates.settled_post_other other).trans held.settled
  taken := fun late => (Updates.waiting_post_other other).trans (held.taken late)

theorem Held.post_self (early : drained = false) :
    Held (updates.post (slot, some call)) slot call drained where
  settled := Updates.settled_post_self _
  taken := fun late => absurd (early.symm.trans late) (by decide)

theorem Held.take (held : Held updates slot call drained) : Held updates.take slot call drained where
  settled := Updates.settled_take.trans held.settled
  taken := fun late => Updates.waiting_take (held.taken late)

theorem Held.drain (held : Held updates slot call drained) (empty : updates.queue = [])
    (later : Bool) : Held updates slot call later where
  settled := held.settled
  taken := fun _ => Updates.waiting_of_queue_nil empty

structure Kept (calls : Calls Call Address Payload) (state : State Call Address Payload) :
    Prop where
  payload : ∀ call, state.phase call = .waiting →
    Held state.updates (calls.payloadSlot call) call (state.drained call)
  address : ∀ call, calls.legacy call = true → (state.phase call).listed = true →
    OnlyListed calls state call →
    Held state.updates (calls.addressSlot call) call (state.drained call)
  fresh : ∀ call, state.phase call = .idle ∨ state.phase call = .registering →
    state.drained call = false

theorem Kept.undisturbed (kept : Kept calls state) : Undisturbed calls state := by
  intro call waits drained
  have payload := kept.payload call waits
  rw [drained] at payload
  refine ⟨payload.table, ?_⟩
  intro legacy only
  have address := kept.address call legacy (by rw [waits]; rfl) only
  rw [drained] at address
  exact address.table

variable [DecidableEq Call]

/-- What an advancing call does to the table and its queue. -/
theorem advance_updates {caller : Call} (careful : Careful calls (.advance caller) state) :
    ((step calls (.advance caller) state).updates = state.updates ∧
        calls.registration caller (state.phase caller) = none) ∨
      ∃ update, calls.registration caller (state.phase caller) = some update ∧
        (step calls (.advance caller) state).updates = state.updates.post update := by
  cases raises : calls.registration caller (state.phase caller) with
  | none => exact .inl ⟨by simp only [step, raises], rfl⟩
  | some update =>
      have room := careful.1 (by rw [raises]; rfl)
      exact .inr ⟨update, rfl, by simp only [step, raises, raise_of_room room]⟩

theorem Held.advance {caller : Call} (held : Held state.updates slot call drained)
    (careful : Careful calls (.advance caller) state)
    (other : ∀ update, calls.registration caller (state.phase caller) = some update →
      update.1 ≠ slot) :
    Held (step calls (.advance caller) state).updates slot call drained := by
  rcases advance_updates careful with ⟨same, -⟩ | ⟨update, raises, posted⟩
  · rw [same]
    exact held
  · rw [posted]
    exact held.post_other (other update raises)

theorem phase_advance_self {caller : Call} :
    (step calls (.advance caller) state).phase caller = (state.phase caller).next :=
  Function.update_self ..

theorem phase_advance_other {caller : Call} (distinct : call ≠ caller) :
    (step calls (.advance caller) state).phase call = state.phase call :=
  Function.update_of_ne distinct ..

theorem Kept.advance_payload (kept : Kept calls state) {caller : Call}
    (careful : Careful calls (.advance caller) state)
    (waits : (step calls (.advance caller) state).phase call = .waiting) :
    Held (step calls (.advance caller) state).updates (calls.payloadSlot call) call
      (state.drained call) := by
  by_cases same : call = caller
  · subst same
    rw [phase_advance_self] at waits
    cases phase : state.phase call with
    | registering =>
        have raises : calls.registration call (state.phase call) =
            some (calls.payloadSlot call, some call) := by rw [phase, Calls.registration]
        rcases advance_updates careful with ⟨-, silent⟩ | ⟨update, posts, posted⟩
        · exact absurd (raises.symm.trans silent) (by simp)
        · obtain rfl := Option.some.inj (raises.symm.trans posts)
          rw [posted]
          exact Held.post_self (kept.fresh call (.inr phase))
    | waiting =>
        apply (kept.payload call phase).advance careful
        intro update raises
        simp [phase, Calls.registration] at raises
    | idle | leaving | unregistering | returned => simp [phase, Phase.next] at waits
  · rw [phase_advance_other same] at waits
    apply (kept.payload call waits).advance careful
    intro update raises equal
    rcases registration_slot raises with own | ⟨-, -, rfl⟩ | ⟨-, peer, -, rfl⟩
    · have slots := own.symm.trans equal
      simp only [Calls.payloadSlot, Prod.mk.injEq, SessionId.payload.injEq] at slots
      exact same (calls.unique caller call slots.1 slots.2).symm
    · simp [Calls.addressSlot, Calls.payloadSlot] at equal
    · simp [Calls.payloadSlot] at equal

omit [DecidableEq Address] in
theorem Phase.next_listed {phase : Phase Address} (listed : phase.listed = true)
    (stays : ∀ peer, phase ≠ .leaving peer) : phase.next.listed = true := by
  cases phase with
  | registering | waiting => rfl
  | leaving peer => exact absurd rfl (stays peer)
  | idle | unregistering | returned => exact absurd listed Bool.false_ne_true

/-- A call that is alone at its address after a step was so before. -/
theorem OnlyListed.before {caller : Call} (careful : Careful calls (.advance caller) state)
    (legacy : calls.legacy call = true) (listed : (state.phase call).listed = true)
    (distinct : call ≠ caller) (only : OnlyListed calls (step calls (.advance caller) state) call) :
    OnlyListed calls state call := by
  intro other apart otherLegacy type present
  by_cases mover : other = caller
  · subst mover
    by_cases leaves : ∃ peer, state.phase other = .leaving peer
    · obtain ⟨peer, leaving⟩ := leaves
      exact Ne.symm (careful.2 peer leaving otherLegacy call distinct legacy type.symm listed).2
    · apply only other apart otherLegacy type
      rw [phase_advance_self]
      exact Phase.next_listed present (not_exists.mp leaves)
  · apply only other apart otherLegacy type
    rwa [phase_advance_other mover]

theorem Kept.advance_address (kept : Kept calls state) {caller : Call}
    (careful : Careful calls (.advance caller) state) (legacy : calls.legacy call = true)
    (listed : ((step calls (.advance caller) state).phase call).listed = true)
    (only : OnlyListed calls (step calls (.advance caller) state) call) :
    Held (step calls (.advance caller) state).updates (calls.addressSlot call) call
      (state.drained call) := by
  by_cases same : call = caller
  · subst same
    rw [phase_advance_self] at listed
    have before : OnlyListed calls state call := by
      intro other apart otherLegacy type present
      apply only other apart otherLegacy type
      rwa [phase_advance_other apart]
    cases phase : state.phase call with
    | idle =>
        have raises : calls.registration call (state.phase call) =
            some (calls.addressSlot call, some call) := by
          rw [phase, Calls.registration, if_pos legacy]
        rcases advance_updates careful with ⟨-, silent⟩ | ⟨update, posts, posted⟩
        · exact absurd (raises.symm.trans silent) (by simp)
        · obtain rfl := Option.some.inj (raises.symm.trans posts)
          rw [posted]
          exact Held.post_self (kept.fresh call (.inl phase))
    | registering =>
        apply (kept.address call legacy (by rw [phase]; rfl) before).advance careful
        intro update raises
        simp only [phase, Calls.registration, Option.some.injEq] at raises
        rw [← raises]
        simp [Calls.payloadSlot, Calls.addressSlot]
    | waiting =>
        apply (kept.address call legacy (by rw [phase]; rfl) before).advance careful
        intro update raises
        simp [phase, Calls.registration] at raises
    | leaving | unregistering | returned => simp [phase, Phase.next, Phase.listed] at listed
  · rw [phase_advance_other same] at listed
    apply (kept.address call legacy listed (only.before careful legacy listed same)).advance careful
    intro update raises equal
    rcases registration_slot raises with own | ⟨callerLegacy, idle, rfl⟩ | ⟨callerLegacy, peer, leaving, rfl⟩
    · have slots := own.symm.trans equal
      simp [Calls.payloadSlot, Calls.addressSlot] at slots
    · -- the newcomer shares the address from now on
      simp only [Calls.addressSlot, Prod.mk.injEq, SessionId.address.injEq] at equal
      apply only caller (Ne.symm same) callerLegacy equal.1 _ equal.2
      rw [phase_advance_self, idle]
      rfl
    · simp only [Calls.addressSlot, Prod.mk.injEq, SessionId.address.injEq] at equal
      exact (careful.2 peer leaving callerLegacy call same legacy equal.1.symm listed).1 equal.2.symm

theorem Kept.advance (kept : Kept calls state) {caller : Call}
    (careful : Careful calls (.advance caller) state) :
    Kept calls (step calls (.advance caller) state) where
  payload := fun _ waits => kept.advance_payload careful waits
  address := fun _ legacy listed only => kept.advance_address careful legacy listed only
  fresh := by
    intro call early
    by_cases same : call = caller
    · subst same
      rw [phase_advance_self] at early
      apply kept.fresh call
      cases phase : state.phase call <;> simp_all [Phase.next]
    · rw [phase_advance_other same] at early
      exact kept.fresh call early

theorem Kept.endWait (kept : Kept calls state) (caller : Call) (recvPeer : Option Address) :
    Kept calls (step calls (.endWait caller recvPeer) state) := by
  simp only [step]
  split
  next waits =>
    have listed : ∀ call (peer : Address),
        (Function.update state.phase caller (.leaving peer) call).listed =
          (state.phase call).listed := by
      intro call peer
      by_cases same : call = caller
      · rw [same, Function.update_self, waits]
        rfl
      · rw [Function.update_of_ne same]
    have other : ∀ call (peer : Address) phase, (∀ peer, phase ≠ .leaving peer) →
        Function.update state.phase caller (.leaving peer) call = phase →
        state.phase call = phase := by
      intro call peer phase apart moved
      by_cases same : call = caller
      · rw [same, Function.update_self] at moved
        exact absurd moved.symm (apart peer)
      · rwa [Function.update_of_ne same] at moved
    exact {
      payload := fun call still => kept.payload call (other call _ _ (by simp) still)
      address := by
        intro call legacy present only
        rw [listed] at present
        apply kept.address call legacy present
        intro another apart anotherLegacy type there
        apply only another apart anotherLegacy type
        rwa [listed]
      fresh := by
        rintro call (idle | registering)
        · exact kept.fresh call (.inl (other call _ _ (by simp) idle))
        · exact kept.fresh call (.inr (other call _ _ (by simp) registering)) }
  next => exact kept

theorem Kept.drain (kept : Kept calls state) : Kept calls (step calls .drain state) := by
  simp only [step]
  split
  next empty =>
    exact {
      payload := fun call waits => (kept.payload call waits).drain empty _
      address := fun call legacy listed only => (kept.address call legacy listed only).drain empty _
      fresh := by
        intro call early
        have before : state.phase call = .idle ∨ state.phase call = .registering := early
        rcases before with idle | registering
        · simp [kept.fresh call early, idle]
        · simp [kept.fresh call early, registering] }
  next =>
    exact {
      payload := fun call waits => (kept.payload call waits).take
      address := fun call legacy listed only => (kept.address call legacy listed only).take
      fresh := kept.fresh }

theorem Kept.step (kept : Kept calls state) (event : Event Call Address)
    (careful : Careful calls event state) : Kept calls (step calls event state) := by
  cases event with
  | advance caller => exact kept.advance careful
  | endWait caller recvPeer => exact kept.endWait caller recvPeer
  | drain => exact kept.drain

omit [DecidableEq Call] in
theorem kept_initial : Kept calls ({} : State Call Address Payload) where
  payload := fun _ waits => nomatch waits
  address := fun _ _ listed => absurd listed Bool.false_ne_true
  fresh := fun _ _ => rfl

theorem run_undisturbed (calls : Calls Call Address Payload) (events : List (Event Call Address))
    (careful : Meets (PingRegistrations.step calls) (Careful calls) events {}) :
    Undisturbed calls (run (PingRegistrations.step calls) events {}) := by
  have kept := run_preserves_of_meets (PingRegistrations.step calls) (Kept calls)
    (fun event _ careful kept => kept.step event careful) careful kept_initial
  exact kept.undisturbed

/-! ## Two calls -/

/-- Two legacy sessions of one client address, or of two. -/
def twoSessions (second : Nat) : Calls Bool Nat Bool where
  type := fun _ => .video
  legacy := fun _ => true
  payload := id
  address := fun call => if call then second else 0
  unique := fun _ _ _ same => same

/-- The first session to end takes the shared address out. -/
theorem sharedAddress_disturbed :
    ¬ Undisturbed (twoSessions 0) (run (step (twoSessions 0))
      [.advance false, .advance false, .advance true, .advance true, .drain, .drain, .drain,
        .drain, .drain, .endWait false none, .advance false, .drain] {}) := by
  intro undisturbed
  have registered := (undisturbed true (by decide) (by decide)).2 rfl
  have alone := registered (by
    intro other apart
    cases other with
    | false => decide
    | true => exact absurd rfl apart)
  exact absurd alone (by decide)

theorem ownAddress_undisturbed :
    Undisturbed (twoSessions 1) (run (step (twoSessions 1))
      [.advance false, .advance false, .advance true, .advance true, .drain, .drain, .drain,
        .drain, .drain, .endWait false none, .advance false, .drain] {}) := by
  apply run_undisturbed
  refine ⟨⟨by decide, nofun⟩, ⟨by decide, nofun⟩, ⟨by decide, nofun⟩, ⟨by decide, nofun⟩, trivial,
    trivial, trivial, trivial, trivial, trivial, ⟨by decide, ?_⟩, trivial, trivial⟩
  intro peer leaving _ other apart _ _ _
  obtain rfl : 0 = peer := Phase.leaving.inj leaving
  cases other with
  | false => exact absurd rfl apart
  | true => decide

end UmbraHost.Stream.PingRegistrations
