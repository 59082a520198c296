import UmbraHost.Transition.Run

/-! # Loss reports and the encode loop

The control stream raises the requests of a client into events of one slot each, and the
loop of `encode_run` takes them out between two frames.  A later request overwrites the slot. -/

namespace UmbraHost.Encode

open UmbraHost.Transition

/-! ## Reports -/

/-- Frames that a client reports as lost. -/
structure FrameRange where
  first : Nat
  last : Nat
  ordered : first ≤ last
deriving DecidableEq

def FrameRange.Covers (range other : FrameRange) : Prop :=
  range.first ≤ other.first ∧ other.last ≤ range.last

instance (range other : FrameRange) : Decidable (range.Covers other) :=
  inferInstanceAs (Decidable (_ ∧ _))

/-- The two numbers of the payload, where it is long enough for them. -/
def FrameRange.ofPayload? (firstFrame lastFrame : Option Int) : Option FrameRange :=
  match firstFrame, lastFrame with
  | some first, some last =>
    if valid : 0 ≤ first ∧ 0 ≤ last ∧ first ≤ last then
      some ⟨first.toNat, last.toNat, by omega⟩
    else none
  | _, _ => none

inductive Entry where
  | reported (range : FrameRange)
  /-- The encoder accepted the call. -/
  | invalidated (range : FrameRange)
  | idrFrame

/-- The entry makes up for the loss of the range. -/
def Entry.Answers (range : FrameRange) : Entry → Prop
  | .reported _ => False
  | .invalidated call => call.Covers range
  | .idrFrame => True

/-- The reports without an answer, in a log with the latest entry first. -/
def unanswered : List Entry → List FrameRange
  | [] => []
  | .reported range :: log => range :: unanswered log
  | .invalidated call :: log => (unanswered log).filter fun range => ¬ call.Covers range
  | .idrFrame :: _ => []

/-! ## The loop -/

/-- Where an iteration stands. -/
inductive Position where
  | start
  | peekInvalidate
  | popInvalidate
  | invalidate (range : FrameRange)
  | peekIdr
  | popIdr
  | image
  | encode
  | left

/-- What the code around the events decides in an action of the loop. -/
structure Outside where
  /-- Shutdown, reinitialization, a bitrate that needs a new session, or a failed capture. -/
  leaves : Bool := false
  accepts : Bool := true
  /-- The first real image after placeholders, or new metadata. -/
  requestsIdr : Bool := false
  /-- The placeholder gate. -/
  skips : Bool := false

structure State where
  invalidateRefFramesEvents : Option FrameRange
  idrEvents : Bool
  position : Position
  forceIdr : Bool
  /-- A frame was encoded since one of the slots was last filled. -/
  settled : Bool
  log : List Entry

def State.initial : State := ⟨none, false, .start, false, false, []⟩

inductive Event where
  | invalidateRefFrames (firstFrame lastFrame : Option Int)
  | requestIdrFrame
  | loop (outside : Outside)

/-- The handler of `IDX_INVALIDATE_REF_FRAMES`. -/
def State.report (firstFrame lastFrame : Option Int) (state : State) : State :=
  match FrameRange.ofPayload? firstFrame lastFrame with
  | none => state
  | some range =>
    { state with
      invalidateRefFramesEvents := some range
      log := .reported range :: state.log }

/-- `nvenc_encode_session_t::invalidate_ref_frames`. -/
def State.invalidateRefFrames (accepts : Bool) (range : FrameRange) (state : State) : State :=
  if accepts then { state with log := .invalidated range :: state.log }
  else { state with forceIdr := true }

/-- `nvenc_encode_session_t::encode_frame`. -/
def State.encodeFrame (state : State) : State :=
  { state with
    log := if state.forceIdr then .idrFrame :: state.log else state.log
    forceIdr := false
    settled := true }

/-- The next action of the loop. -/
def State.act (outside : Outside) (state : State) : State :=
  match state.position with
  | .start => { state with position := if outside.leaves then .left else .peekInvalidate }
  | .peekInvalidate =>
    { state with
      position := if state.invalidateRefFramesEvents.isSome then .popInvalidate else .peekIdr }
  | .popInvalidate =>
    match state.invalidateRefFramesEvents with
    | none => { state with position := .peekInvalidate }
    | some range =>
      { state with invalidateRefFramesEvents := none, position := .invalidate range }
  | .invalidate range =>
    { state.invalidateRefFrames outside.accepts range with position := .peekInvalidate }
  | .peekIdr => { state with position := if state.idrEvents then .popIdr else .image }
  | .popIdr => { state with idrEvents := false, forceIdr := true, position := .image }
  | .image =>
    { state with
      forceIdr := state.forceIdr || outside.requestsIdr
      position :=
        if outside.leaves then .left else if outside.skips then .start else .encode }
  | .encode => { state.encodeFrame with position := .start }
  | .left => state

def State.settle (state : State) : State :=
  { state with
    settled := state.settled && state.invalidateRefFramesEvents.isNone && !state.idrEvents }

def step (event : Event) (state : State) : State :=
  match event with
  | .invalidateRefFrames firstFrame lastFrame => (state.report firstFrame lastFrame).settle
  | .requestIdrFrame => { state with idrEvents := true }.settle
  | .loop outside => (state.act outside).settle

def reached (events : List Event) : State := run step events .initial

/-- Once both slots are empty and a frame was encoded since, every report was answered. -/
def State.LossesAnswered (state : State) : Prop :=
  state.invalidateRefFramesEvents = none → state.idrEvents = false → state.settled = true →
    ∀ later range earlier, state.log = later ++ .reported range :: earlier →
      ∃ entry ∈ later, entry.Answers range

/-! ## Answers -/

theorem FrameRange.covers_refl (range : FrameRange) : range.Covers range :=
  ⟨Nat.le_refl _, Nat.le_refl _⟩

/-- A report that no later entry answers is unanswered. -/
theorem mem_unanswered {later earlier : List Entry} {range : FrameRange}
    (none : ∀ entry ∈ later, ¬ entry.Answers range) :
    range ∈ unanswered (later ++ .reported range :: earlier) := by
  induction later with
  | nil => exact List.mem_cons_self
  | cons entry later ih =>
      have rest := ih fun other member => none other (List.mem_cons_of_mem _ member)
      have here := none entry List.mem_cons_self
      cases entry with
      | reported other => exact List.mem_cons_of_mem _ rest
      | invalidated call =>
          refine List.mem_filter.mpr ⟨rest, ?_⟩
          exact decide_eq_true here
      | idrFrame => exact absurd trivial here

theorem lossesAnswered_of_unanswered {state : State}
    (answered : state.settled = true → unanswered state.log = []) : state.LossesAnswered := by
  intro _ _ settled later range earlier split
  by_contra none
  have member : range ∈ unanswered state.log := by
    rw [split]
    exact mem_unanswered fun entry member answers => none ⟨entry, member, answers⟩
  rw [answered settled] at member
  cases member

/-! ## What becomes of a report -/

/-- The report does not depend on the slot of reports: the loop is about to submit a range that
covers it, an IDR frame is due, or the loop is over. -/
def State.Owes (state : State) (range : FrameRange) : Prop :=
  (∃ call, state.position = .invalidate call ∧ call.Covers range) ∨
    state.idrEvents = true ∨ state.forceIdr = true ∨ state.position = .left

/-- A message leaves no report behind: the new range covers each one that has no answer yet and
depends on the slot. -/
def Event.KeepsReports (event : Event) (state : State) : Prop :=
  match event with
  | .invalidateRefFrames firstFrame lastFrame =>
    ∀ new, FrameRange.ofPayload? firstFrame lastFrame = some new →
      ∀ range ∈ unanswered state.log, new.Covers range ∨ state.Owes range
  | _ => True

def State.Awaits (state : State) (range : FrameRange) : Prop :=
  (∃ held, state.invalidateRefFramesEvents = some held ∧ held.Covers range) ∨ state.Owes range

structure State.Tracked (state : State) : Prop where
  awaited : ∀ range ∈ unanswered state.log, state.Awaits range
  settled : state.settled = true → unanswered state.log = []

variable {state : State}

theorem tracked_settle (awaited : ∀ range ∈ unanswered state.log, state.Awaits range)
    (settled : state.settled = true → state.invalidateRefFramesEvents = none →
      state.idrEvents = false → unanswered state.log = []) : state.settle.Tracked where
  awaited := awaited
  settled := by
    intro still
    simp only [State.settle, Bool.and_eq_true, Bool.not_eq_true', Option.isNone_iff_eq_none]
      at still
    exact settled still.1.1 still.1.2 still.2

theorem State.Tracked.report (tracked : state.Tracked) {firstFrame lastFrame : Option Int}
    (keeps : (Event.invalidateRefFrames firstFrame lastFrame).KeepsReports state) :
    (state.report firstFrame lastFrame).settle.Tracked := by
  unfold State.report
  cases payload : FrameRange.ofPayload? firstFrame lastFrame with
  | none => exact tracked_settle tracked.awaited fun settled _ _ => tracked.settled settled
  | some new =>
      refine tracked_settle ?_ nofun
      intro range member
      rcases List.mem_cons.mp member with rfl | old
      · exact .inl ⟨range, rfl, range.covers_refl⟩
      · rcases keeps new payload range old with covers | owes
        · exact .inl ⟨new, rfl, covers⟩
        · exact .inr owes

theorem tracked_request (state : State) :
    ({ state with idrEvents := true } : State).settle.Tracked :=
  tracked_settle (fun _ _ => .inr (.inr (.inl rfl))) nofun

/-- An action that leaves the log and the slots alone, away from a call. -/
theorem State.Tracked.move (tracked : state.Tracked) {position : Position} {forceIdr : Bool}
    (elsewhere : ∀ call, state.position ≠ .invalidate call)
    (kept : state.forceIdr = true → forceIdr = true)
    (ended : state.position = .left → position = .left) :
    ({ state with position, forceIdr } : State).settle.Tracked := by
  refine tracked_settle ?_ fun settled _ _ => tracked.settled settled
  intro range member
  rcases tracked.awaited range member with held | ⟨call, calling, -⟩ | requested | forced | left
  · exact .inl held
  · exact absurd calling (elsewhere call)
  · exact .inr (.inr (.inl requested))
  · exact .inr (.inr (.inr (.inl (kept forced))))
  · exact .inr (.inr (.inr (.inr (ended left))))

theorem State.Tracked.pop (tracked : state.Tracked) {range : FrameRange}
    (held : state.invalidateRefFramesEvents = some range) (popping : state.position = .popInvalidate) :
    ({ state with
      invalidateRefFramesEvents := none, position := .invalidate range } : State).settle.Tracked := by
  refine tracked_settle ?_ fun settled _ _ => tracked.settled settled
  intro other member
  rcases tracked.awaited other member with ⟨slot, same, covers⟩ | ⟨call, calling, -⟩ |
    requested | forced | left
  · cases held.symm.trans same
    exact .inr (.inl ⟨range, rfl, covers⟩)
  · cases popping.symm.trans calling
  · exact .inr (.inr (.inl requested))
  · exact .inr (.inr (.inr (.inl forced)))
  · cases popping.symm.trans left

theorem State.Tracked.invalidate (tracked : state.Tracked) {range : FrameRange}
    (calling : state.position = .invalidate range) (accepts : Bool) :
    ({ state.invalidateRefFrames accepts range with
      position := .peekInvalidate } : State).settle.Tracked := by
  unfold State.invalidateRefFrames
  cases accepts with
  | false =>
      exact tracked_settle (fun _ _ => .inr (.inr (.inr (.inl rfl))))
        fun settled _ _ => tracked.settled settled
  | true =>
      refine tracked_settle ?_ fun settled _ _ => ?_
      · intro other member
        obtain ⟨member, uncovered⟩ := List.mem_filter.mp member
        have uncovered : ¬ range.Covers other := of_decide_eq_true uncovered
        rcases tracked.awaited other member with held | ⟨call, same, covers⟩ |
          requested | forced | left
        · exact .inl held
        · cases calling.symm.trans same
          exact absurd covers uncovered
        · exact .inr (.inr (.inl requested))
        · exact .inr (.inr (.inr (.inl forced)))
        · cases calling.symm.trans left
      · show (unanswered state.log).filter _ = []
        rw [tracked.settled settled, List.filter_nil]

/-- An IDR frame answers everything, and a frame without one finds nothing left to answer
outside the slots. -/
theorem State.Tracked.encode (tracked : state.Tracked) (encoding : state.position = .encode) :
    ({ state.encodeFrame with position := .start } : State).settle.Tracked := by
  unfold State.encodeFrame
  cases forced : state.forceIdr with
  | true => exact tracked_settle nofun fun _ _ _ => rfl
  | false =>
      have left (range : FrameRange) (member : range ∈ unanswered state.log) :
          (∃ held, state.invalidateRefFramesEvents = some held ∧ held.Covers range) ∨
            state.idrEvents = true := by
        rcases tracked.awaited range member with held | ⟨call, calling, -⟩ | requested | due | left
        · exact .inl held
        · cases encoding.symm.trans calling
        · exact .inr requested
        · cases forced.symm.trans due
        · cases encoding.symm.trans left
      refine tracked_settle ?_ fun _ noReport noRequest => ?_
      · intro range member
        rcases left range member with held | requested
        · exact .inl held
        · exact .inr (.inr (.inl requested))
      · refine List.eq_nil_iff_forall_not_mem.mpr fun range member => ?_
        rcases left range member with ⟨held, same, -⟩ | requested
        · cases noReport.symm.trans same
        · cases noRequest.symm.trans requested

theorem State.Tracked.act (tracked : state.Tracked) (outside : Outside) :
    (state.act outside).settle.Tracked := by
  unfold State.act
  cases place : state.position with
  | start | peekInvalidate | peekIdr => exact tracked.move (by simp [place]) id (by simp [place])
  | popInvalidate =>
      dsimp only
      cases held : state.invalidateRefFramesEvents with
      | none =>
          have moved : ({ state with position := .peekInvalidate } : State).settle.Tracked :=
            tracked.move (by simp [place]) id (by simp [place])
          rwa [held] at moved
      | some range => exact tracked.pop held place
  | invalidate range => exact tracked.invalidate place outside.accepts
  | popIdr =>
      exact tracked_settle (fun _ _ => .inr (.inr (.inr (.inl rfl))))
        fun settled _ _ => tracked.settled settled
  | image =>
      exact tracked.move (by simp [place]) (fun forced => by simp [forced]) (by simp [place])
  | encode => exact tracked.encode place
  | left => exact tracked_settle tracked.awaited fun settled _ _ => tracked.settled settled

theorem tracked_step (event : Event) (state : State) (keeps : event.KeepsReports state)
    (tracked : state.Tracked) : (step event state).Tracked := by
  cases event with
  | invalidateRefFrames firstFrame lastFrame => exact tracked.report keeps
  | requestIdrFrame => exact tracked_request state
  | loop outside => exact tracked.act outside

/-- When no message overwrites a report, every report is answered. -/
theorem reached_lossesAnswered (events : List Event)
    (keeps : Meets step Event.KeepsReports events .initial) : (reached events).LossesAnswered := by
  have initial : State.initial.Tracked := ⟨nofun, nofun⟩
  have tracked : (reached events).Tracked :=
    run_preserves_of_meets step State.Tracked tracked_step keeps initial
  exact lossesAnswered_of_unanswered tracked.settled

/-- A report, a whole iteration, an IDR request and a second iteration. -/
theorem reached_lossesAnswered_once : (reached
    ([.invalidateRefFrames (some 10) (some 12)] ++ List.replicate 9 (.loop {}) ++
      [.requestIdrFrame] ++ List.replicate 7 (.loop {}))).LossesAnswered :=
  reached_lossesAnswered _ (by
    simp only [List.replicate, List.cons_append, List.nil_append, Meets, Event.KeepsReports,
      and_true]
    intro new _ range member
    cases member)

/-- The second of two reports within one iteration takes the place of the first. -/
theorem second_report_loses_first : ¬ (reached
    ([.invalidateRefFrames (some 10) (some 12), .invalidateRefFrames (some 20) (some 21)] ++
      List.replicate 8 (.loop {}))).LossesAnswered := by
  intro answered
  obtain ⟨entry, member, answers⟩ := answered rfl rfl rfl
    [.invalidated ⟨20, 21, by decide⟩, .reported ⟨20, 21, by decide⟩] ⟨10, 12, by decide⟩ [] rfl
  rcases List.mem_cons.mp member with rfl | rest
  · exact absurd answers.1 (by decide : ¬ 20 ≤ 10)
  · cases List.mem_singleton.mp rest
    exact answers

end UmbraHost.Encode
