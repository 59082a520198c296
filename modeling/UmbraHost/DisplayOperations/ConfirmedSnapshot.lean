import UmbraHost.Interaction.Ensured
import UmbraHost.DisplayOperations.CallsMade

/-! # A confirmed snapshot

What the captures of the display say when `RecoveryOperation::apply_and_confirm` succeeds. -/

namespace UmbraHost.DisplayOperations

open UmbraHost.DisplayHelper UmbraHost.Interaction

/-! ## Captures -/

def capture? : Interaction.Event Call Reply → Option Snapshot
  | ⟨.captureSnapshot, snapshot⟩ => some snapshot
  | _ => none

def captures (trace : Trace) : List Snapshot := trace.filterMap capture?

/-- Two consecutive captures agree, and are not transient. -/
structure StableCapture (trace : Trace) (snapshot : Snapshot) : Prop where
  repeated : [snapshot, snapshot] <:+: captures trace
  filled : Snapshot.emptyish snapshot = false

/-- From a stable capture on every one is the same, until the time of the quiet period is over. -/
structure QuietPeriod (trace : Trace) : Prop where
  stable : ∃ base, StableCapture trace base ∧
    ∀ snapshot, StableCapture trace snapshot → snapshot = base
  lasts : ∃ opening base start rounds finish,
    trace = opening ++ ⟨.now, start⟩ :: (rounds ++ [⟨.now, finish⟩]) ∧
      StableCapture opening base ∧ quietDuration ≤ finish - start

/-- A stable capture that is strictly the loaded snapshot, the layout if there is one, and the
quiet period after them. -/
def Confirmed (loaded : ParsedSnapshot) (trace : Trace) : Prop :=
  ∃ stable checks quiet current, trace = stable ++ (checks ++ quiet) ∧
    StableCapture stable current ∧ equalSnapshotsStrict current loaded.snapshot = true ∧
    (loaded.hasLayoutData = true →
      ⟨.currentLayoutMatches loaded.layoutRotations, true⟩ ∈ checks) ∧
    QuietPeriod quiet

variable {trace first second : Trace} {snapshot current : Snapshot}

@[simp] theorem captures_append : captures (first ++ second) = captures first ++ captures second :=
  List.filterMap_append ..

theorem pair_infix_append {α : Type} {value : α} {front back : List α}
    (within : [value, value] <:+: front ++ back) :
    [value, value] <:+: front ∨ [value, value] <:+: back ∨
      front.getLast? = some value ∧ back.head? = some value := by
  induction front with
  | nil => exact .inr (.inl within)
  | cons head front ih =>
      rcases List.infix_cons_iff.mp within with starts | later
      · rw [List.cons_prefix_cons] at starts
        obtain ⟨rfl, next⟩ := starts
        cases front with
        | nil =>
            cases back with
            | nil => simp at next
            | cons other back =>
                have same := (List.cons_prefix_cons.mp next).1
                exact .inr (.inr ⟨rfl, congrArg some same.symm⟩)
        | cons other front =>
            obtain ⟨rfl, -⟩ := List.cons_prefix_cons.mp next
            exact .inl (List.prefix_append [value, value] front).isInfix
      · rcases ih later with inside | inside | ⟨ends, starts⟩
        · exact .inl (inside.trans (List.suffix_cons _ _).isInfix)
        · exact .inr (.inl inside)
        · refine .inr (.inr ⟨?_, starts⟩)
          rw [List.getLast?_cons, ends]
          rfl

theorem stableCapture_append (stable : StableCapture (first ++ second) snapshot) :
    StableCapture first snapshot ∨ StableCapture second snapshot ∨
      (captures first).getLast? = some snapshot ∧ (captures second).head? = some snapshot := by
  have within := stable.repeated
  rw [captures_append] at within
  exact (pair_infix_append within).imp (⟨·, stable.filled⟩) (Or.imp_left (⟨·, stable.filled⟩))

theorem StableCapture.append_left (stable : StableCapture first snapshot) :
    StableCapture (first ++ second) snapshot := by
  refine ⟨stable.repeated.trans ?_, stable.filled⟩
  rw [captures_append]
  exact (List.prefix_append _ _).isInfix

theorem StableCapture.append_right (stable : StableCapture second snapshot) :
    StableCapture (first ++ second) snapshot := by
  refine ⟨stable.repeated.trans ?_, stable.filled⟩
  rw [captures_append]
  exact (List.suffix_append _ _).isInfix

theorem not_stableCapture_of_short (short : (captures trace).length ≤ 1) :
    ¬ StableCapture trace snapshot := by
  intro stable
  have length := stable.repeated.length_le
  simp only [List.length_cons, List.length_nil] at length
  omega

/-! ## Confirmation -/

/-- A read ends with its only stable capture. -/
structure StableRead (trace : Trace) (current : Snapshot) : Prop where
  stable : StableCapture trace current
  only : ∀ snapshot, StableCapture trace snapshot → snapshot = current
  last : (captures trace).getLast? = some current

/-- What `read_stable_snapshot` knows of its last capture. -/
structure Unstable (last : Option Snapshot) (past : Trace) : Prop where
  last : (captures past).getLast? = last
  unstable : ∀ snapshot, ¬ StableCapture past snapshot

/-- What a test has found when it answers `true`. -/
def Affirms (finding : Trace → Prop) (answer : Bool) (trace : Trace) : Prop :=
  answer = true → finding trace

/-- The outcome of a read, if there is one, is a stable capture. -/
def ReadOf (result : Option Snapshot) (trace : Trace) : Prop :=
  ∀ current, result = some current → StableRead trace current

theorem StableRead.append (front : StableRead first current) (back : StableRead second current) :
    StableRead (first ++ second) current where
  stable := back.stable.append_right
  only := by
    intro snapshot stable
    rcases stableCapture_append stable with inside | inside | ⟨ends, -⟩
    · exact front.only snapshot inside
    · exact back.only snapshot inside
    · exact Option.some.inj (ends.symm.trans front.last)
  last := by rw [captures_append, List.getLast?_append, back.last, Option.some_or]

/-- Other calls around a read change nothing about the captures. -/
theorem StableRead.frame (front back : Trace) (read : StableRead trace current)
    (before : captures front = []) (after : captures back = []) :
    StableRead (front ++ (trace ++ back)) current := by
  have same : captures (front ++ (trace ++ back)) = captures trace := by
    rw [captures_append, captures_append, before, after, List.nil_append, List.append_nil]
  refine ⟨read.stable.append_left.append_right, ?_, by rw [same, read.last]⟩
  rintro snapshot ⟨repeated, filled⟩
  rw [same] at repeated
  exact read.only snapshot ⟨repeated, filled⟩

theorem Unstable.capture {last : Option Snapshot} (unstable : Unstable last first)
    (one : captures second = [current])
    (differs : ¬ (last = some current ∧ Snapshot.emptyish current = false)) :
    Unstable (some current) (first ++ second) where
  last := by rw [captures_append, one, List.getLast?_append]; rfl
  unstable := by
    intro snapshot stable
    rcases stableCapture_append stable with inside | inside | ⟨ends, starts⟩
    · exact unstable.unstable snapshot inside
    · exact not_stableCapture_of_short (by rw [one]; rfl) inside
    · rw [one] at starts
      cases starts
      exact differs ⟨unstable.last.symm.trans ends, stable.filled⟩

theorem Unstable.stableRead (unstable : Unstable (some current) first)
    (one : captures second = [current]) (filled : Snapshot.emptyish current = false) :
    StableRead (first ++ second) current where
  stable := by
    obtain ⟨front, split⟩ := List.getLast?_eq_some_iff.mp unstable.last
    refine ⟨⟨front, [], ?_⟩, filled⟩
    rw [captures_append, split, one, List.append_nil, List.append_assoc]
    rfl
  only := by
    intro snapshot stable
    rcases stableCapture_append stable with inside | inside | ⟨ends, -⟩
    · exact absurd inside (unstable.unstable snapshot)
    · exact absurd inside (not_stableCapture_of_short (by rw [one]; rfl))
    · exact Option.some.inj (ends.symm.trans unstable.last)
  last := by rw [captures_append, one, List.getLast?_append]; rfl

theorem ensures_pollStable (start : Time) {last : Option Snapshot} {past : Trace}
    (unstable : Unstable last past) :
    Ensures (pollStable start last) fun outcome trace =>
      outcome.elim (Unstable · (past ++ trace)) (ReadOf · (past ++ trace)) := by
  apply ensures_call
  intro now
  split
  · rintro _ ⟨⟩
  · apply ensures_call
    intro cancelled
    split
    · rintro _ ⟨⟩
    · apply ensures_call
      intro current
      split
      · next agrees =>
          obtain ⟨rfl, filled⟩ := agrees
          rintro _ ⟨⟩
          exact unstable.stableRead rfl filled
      · next differs =>
          apply ensures_call
          intro cancelled
          split
          · rintro _ ⟨⟩
          · apply ensures_call
            intro _
            exact unstable.capture rfl differs

theorem ensures_readStableSnapshot (fuel : Nat) : Ensures (readStableSnapshot fuel) ReadOf := by
  apply ensures_call
  intro start
  have begun : Unstable none [⟨.now, start⟩] :=
    ⟨rfl, fun _ => not_stableCapture_of_short (Nat.zero_le 1)⟩
  exact ensures_loop Unstable (fun _ _ unstable => ensures_pollStable start unstable) fuel begun

/-- The rounds of `quiet_period` so far. -/
structure Quiet (base : Snapshot) (start : Time) (past : Trace) : Prop where
  read : StableRead past base
  begun : ∃ opening rounds, past = opening ++ ⟨.now, start⟩ :: rounds ∧ StableCapture opening base

theorem Quiet.append {base : Snapshot} {start : Time} {past : Trace} (quiet : Quiet base start past)
    (read : StableRead (past ++ trace) base) : Quiet base start (past ++ trace) := by
  obtain ⟨opening, rounds, rfl, stable⟩ := quiet.begun
  exact ⟨read, opening, rounds ++ trace, by simp, stable⟩

theorem Quiet.ended {base : Snapshot} {start finish : Time} {past : Trace}
    (quiet : Quiet base start past) (lasts : quietDuration ≤ finish - start) :
    QuietPeriod (past ++ [⟨.now, finish⟩]) := by
  obtain ⟨opening, rounds, split, stable⟩ := quiet.begun
  have read : StableRead (past ++ [⟨.now, finish⟩]) base :=
    quiet.read.frame [] [⟨.now, finish⟩] rfl rfl
  refine ⟨⟨base, read.stable, read.only⟩, opening, base, start, rounds, finish, ?_, stable, lasts⟩
  simp [split]

theorem ensures_pollQuiet (fuel : Nat) {base : Snapshot} {start : Time} {past : Trace}
    (round : Unit) (quiet : Quiet base start past) :
    Ensures (pollQuiet fuel base start round) fun outcome trace =>
      outcome.elim (fun _ => Quiet base start (past ++ trace))
        (Affirms QuietPeriod · (past ++ trace)) := by
  apply ensures_call
  intro now
  split
  · next elapsed => exact fun _ => quiet.ended elapsed
  · apply ensures_call
    intro found
    split
    · rintro ⟨⟩
    · apply (ensures_readStableSnapshot fuel).bind
      intro current trace read
      split
      · rintro ⟨⟩
      · next same =>
          apply ensures_call
          intro cancelled
          split
          · rintro ⟨⟩
          · apply ensures_call
            intro _
            have again : StableRead trace base := read base (not_not.mp same)
            have framed := again.frame [⟨.now, now⟩, ⟨.isCancelled, found⟩]
              [⟨.isCancelled, cancelled⟩, ⟨.sleepFor quietInterval, ()⟩] rfl rfl
            exact quiet.append (quiet.read.append framed)

theorem ensures_quietPeriod (fuel : Nat) : Ensures (quietPeriod fuel) (Affirms QuietPeriod) := by
  apply (ensures_readStableSnapshot fuel).bind
  intro result opening read
  cases result with
  | none => rintro ⟨⟩
  | some base =>
      have read := read base rfl
      apply ensures_call
      intro start
      have begun : Quiet base start (opening ++ [⟨.now, start⟩]) :=
        ⟨read.frame [] [⟨.now, start⟩] rfl rfl, opening, [], rfl, read.stable⟩
      have rounds : Ensures (Program.loop (pollQuiet fuel base start) fuel ())
          fun confirmed later =>
            Affirms QuietPeriod confirmed ((opening ++ [⟨.now, start⟩]) ++ later) :=
        ensures_loop (fun _ => Quiet base start)
          (fun round _ quiet => ensures_pollQuiet fuel round quiet) fuel begun
      simpa only [List.append_assoc, List.singleton_append] using rounds

theorem Confirmed.append_right {loaded : ParsedSnapshot} (confirmed : Confirmed loaded second) :
    Confirmed loaded (first ++ second) := by
  obtain ⟨stable, checks, quiet, current, rfl, captured, matching, layout, calm⟩ := confirmed
  exact ⟨first ++ stable, checks, quiet, current, (List.append_assoc ..).symm,
    captured.append_right, matching, layout, calm⟩

theorem Affirms.append_right {loaded : ParsedSnapshot} {answer : Bool}
    (affirms : Affirms (Confirmed loaded) answer second) :
    Affirms (Confirmed loaded) answer (first ++ second) :=
  fun success => (affirms success).append_right

theorem affirms_false {finding : Trace → Prop} : Affirms finding false trace := fun success => by
  cases success

/-- The stable capture, the layout and the quiet period, in the order of the calls. -/
theorem ensures_compare (fuel : Nat) {loaded : ParsedSnapshot} {result : Option Snapshot}
    {layoutOk : Bool} {stable : Trace} (checks : Trace) (read : ReadOf result stable)
    (layout : layoutOk = true → loaded.hasLayoutData = true →
      ⟨.currentLayoutMatches loaded.layoutRotations, true⟩ ∈ checks) :
    Ensures (match result with
      | none => pure false
      | some current =>
          if equalSnapshotsStrict current loaded.snapshot && layoutOk then quietPeriod fuel
          else pure false : Operation Bool)
      fun confirmed quiet =>
        Affirms (Confirmed loaded) confirmed (stable ++ (checks ++ quiet)) := by
  cases result with
  | none => exact affirms_false
  | some current =>
      dsimp only
      split
      · next agrees =>
          obtain ⟨matching, layoutOk⟩ := Bool.and_eq_true_iff.mp agrees
          refine (ensures_quietPeriod fuel).mono fun confirmed quiet calm success => ?_
          exact ⟨stable, checks, quiet, current, rfl, (read current rfl).stable, matching,
            layout layoutOk, calm success⟩
      · exact affirms_false

theorem ensures_confirmMatches (fuel : Nat) (loaded : ParsedSnapshot) :
    Ensures (confirmMatches fuel loaded) (Affirms (Confirmed loaded)) := by
  apply (ensures_readStableSnapshot fuel).bind
  intro result stable read
  apply ensures_call
  intro cancelled
  dsimp only
  split
  · exact affirms_false
  · split
    · apply ensures_call
      intro layoutOk
      refine ensures_compare fuel [⟨.isCancelled, cancelled⟩,
        ⟨.currentLayoutMatches loaded.layoutRotations, layoutOk⟩] read ?_
      rintro rfl _
      simp
    · next without =>
        refine ensures_compare fuel [⟨.isCancelled, cancelled⟩] read ?_
        intro _ has
        exact absurd has without

section Confirming

variable {loaded : ParsedSnapshot}

theorem confirms_after {program : Operation α} {rest : α → Operation Bool}
    (back : ∀ value, Ensures (rest value) (Affirms (Confirmed loaded))) :
    Ensures (program >>= rest) (Affirms (Confirmed loaded)) :=
  ensures_after fun value _ => (back value).mono fun _ _ => Affirms.append_right

theorem confirms_either {test other : Operation Bool}
    (front : Ensures test (Affirms (Confirmed loaded)))
    (back : Ensures other (Affirms (Confirmed loaded))) :
    Ensures (test >>= fun confirmed => if confirmed = true then pure true else other)
      (Affirms (Confirmed loaded)) := by
  apply front.bind
  intro confirmed trace affirms
  split
  · next success =>
      intro _
      rw [List.append_nil]
      exact affirms success
  · exact back.mono fun _ _ => Affirms.append_right

end Confirming

theorem ensures_applyAndVerify (fuel : Nat) (loaded : ParsedSnapshot) :
    Ensures (applyAndVerify fuel loaded) (Affirms (Confirmed loaded)) := by
  apply confirms_after
  intro applied
  split
  · exact ensures_confirmMatches fuel loaded
  · exact affirms_false

theorem ensures_retryAndConfirm (fuel : Nat) (loaded : ParsedSnapshot) :
    Ensures (retryAndConfirm fuel loaded) (Affirms (Confirmed loaded)) := by
  apply confirms_after
  intro cancelled
  split
  · exact affirms_false
  · apply confirms_after
    intro waited
    split
    · exact affirms_false
    · exact confirms_either (ensures_confirmMatches fuel loaded)
        (ensures_applyAndVerify fuel loaded)

theorem ensures_applyAndConfirm (fuel : Nat) (loaded : ParsedSnapshot) :
    Ensures (applyAndConfirm fuel loaded) (Affirms (Confirmed loaded)) := by
  apply confirms_after
  intro _
  apply confirms_after
  intro cancelled
  split
  · exact affirms_false
  · apply confirms_either (ensures_confirmMatches fuel loaded)
    apply confirms_after
    intro cancelled
    split
    · exact affirms_false
    · exact confirms_either (ensures_applyAndVerify fuel loaded)
        (ensures_retryAndConfirm fuel loaded)

end UmbraHost.DisplayOperations
