import UmbraHost.Interaction.Program

/-! # What a program has done when it is done

Statements about the result of a complete run together with its history: for all replies, and
for some. -/

namespace UmbraHost.Interaction

variable {Call : Type} {Reply : Call → Type} {α β ι : Type}

/-- Whatever the replies are, the result and the history satisfy the postcondition. -/
def Ensures : Program Call Reply α → (α → History Call Reply → Prop) → Prop
  | .done value, post => post value []
  | .call request next, post =>
      ∀ reply, Ensures (next reply) fun value trace => post value (⟨request, reply⟩ :: trace)
  | .pending, _ => True

variable {program : Program Call Reply α} {rest : α → Program Call Reply β}
  {post between : α → History Call Reply → Prop}

theorem Ensures.of_runs (ensures : Ensures program post) {trace : History Call Reply} {value : α}
    (runs : Runs program trace (some value)) : post value trace := by
  generalize complete : some value = result at runs
  induction runs generalizing post with
  | done other =>
      cases complete
      exact ensures
  | stop program => cases complete
  | call reply _ ih => exact ih (ensures reply) complete

theorem Ensures.mono (ensures : Ensures program between)
    (weaker : ∀ value trace, between value trace → post value trace) : Ensures program post := by
  induction program generalizing post between with
  | done value => exact weaker value [] ensures
  | call request next ih =>
      intro reply
      exact ih reply (ensures reply) fun value trace => weaker value (⟨request, reply⟩ :: trace)
  | pending => trivial

theorem ensures_trivial : Ensures program fun _ _ => True := by
  induction program with
  | done value => trivial
  | call request next ih => exact ih
  | pending => trivial

/-- Sequencing: the histories of the parts follow each other. -/
theorem Ensures.bind {post : β → History Call Reply → Prop} (front : Ensures program between)
    (back : ∀ value trace, between value trace →
      Ensures (rest value) fun result later => post result (trace ++ later)) :
    Ensures (program >>= rest) post := by
  induction program generalizing post between with
  | done value => exact back value [] front
  | call request next ih =>
      intro reply
      exact ih reply (front reply) fun value trace holds =>
        back value (⟨request, reply⟩ :: trace) holds
  | pending => trivial

/-- A part of which nothing is known but that it is done. -/
theorem ensures_after {post : β → History Call Reply → Prop}
    (back : ∀ value trace, Ensures (rest value) fun result later => post result (trace ++ later)) :
    Ensures (program >>= rest) post :=
  ensures_trivial.bind fun value trace _ => back value trace

theorem ensures_call {request : Call} {rest : Reply request → Program Call Reply β}
    {post : β → History Call Reply → Prop}
    (back : ∀ reply, Ensures (rest reply) fun result later =>
      post result (⟨request, reply⟩ :: later)) :
    Ensures (Program.perform request >>= rest) post :=
  back

/-- Invariant rule for loops, over the history so far. -/
theorem ensures_loop {body : ι → Program Call Reply (ι ⊕ α)}
    (invariant : ι → History Call Reply → Prop)
    (kept : ∀ index past, invariant index past →
      Ensures (body index) fun outcome trace =>
        outcome.elim (invariant · (past ++ trace)) (post · (past ++ trace)))
    (fuel : Nat) {index : ι} {past : History Call Reply} (holds : invariant index past) :
    Ensures (Program.loop body fuel index) fun value trace => post value (past ++ trace) := by
  induction fuel generalizing index past with
  | zero => trivial
  | succ fuel ih =>
      refine (kept index past holds).bind fun outcome trace next => ?_
      cases outcome with
      | inl index => simpa only [List.append_assoc] using ih next
      | inr value =>
          change post value (past ++ (trace ++ []))
          rwa [List.append_nil]

/-- The calls of a complete run are among those that the program makes. -/
theorem OnlyCalls.ensures {allowed : Call → Prop} (only : OnlyCalls allowed program) :
    Ensures program fun _ trace => ∀ event ∈ trace, allowed event.1 := by
  induction program with
  | done value => exact fun _ none => absurd none List.not_mem_nil
  | call request next ih =>
      intro reply
      refine (ih reply (only.2 reply)).mono fun _ trace each event member => ?_
      rcases List.mem_cons.mp member with rfl | later
      · exact only.1
      · exact each event later
  | pending => trivial

theorem Ensures.and (first : Ensures program post) (second : Ensures program between) :
    Ensures program fun value trace => post value trace ∧ between value trace := by
  induction program generalizing post between with
  | done value => exact ⟨first, second⟩
  | call request next ih => exact fun reply => ih reply (first reply) (second reply)
  | pending => trivial

/-! ## Some run -/

/-- Replies exist with which the result and the history satisfy the postcondition. -/
def Allows : Program Call Reply α → (α → History Call Reply → Prop) → Prop
  | .done value, post => post value []
  | .call request next, post =>
      ∃ reply, Allows (next reply) fun value trace => post value (⟨request, reply⟩ :: trace)
  | .pending, _ => False

theorem Allows.exists_runs (allows : Allows program post) :
    ∃ trace value, Runs program trace (some value) ∧ post value trace := by
  induction program generalizing post with
  | done value => exact ⟨[], value, .done value, allows⟩
  | call request next ih =>
      obtain ⟨reply, allows⟩ := allows
      obtain ⟨trace, value, runs, holds⟩ := ih reply allows
      exact ⟨_, value, .call reply runs, holds⟩
  | pending => cases allows

theorem Allows.bind {post : β → History Call Reply → Prop} (front : Allows program between)
    (back : ∀ value trace, between value trace →
      Allows (rest value) fun result later => post result (trace ++ later)) :
    Allows (program >>= rest) post := by
  induction program generalizing post between with
  | done value => exact back value [] front
  | call request next ih =>
      obtain ⟨reply, allows⟩ := front
      exact ⟨reply, ih reply allows fun value trace holds =>
        back value (⟨request, reply⟩ :: trace) holds⟩
  | pending => cases front

theorem Allows.mono (allows : Allows program between)
    (weaker : ∀ value trace, between value trace → post value trace) : Allows program post := by
  induction program generalizing post between with
  | done value => exact weaker value [] allows
  | call request next ih =>
      obtain ⟨reply, allows⟩ := allows
      exact ⟨reply, ih reply allows fun value trace => weaker value (⟨request, reply⟩ :: trace)⟩
  | pending => cases allows

theorem allows_call {request : Call} {rest : Reply request → Program Call Reply β}
    {post : β → History Call Reply → Prop} (reply : Reply request)
    (back : Allows (rest reply) fun result later => post result (⟨request, reply⟩ :: later)) :
    Allows (Program.perform request >>= rest) post :=
  ⟨reply, back⟩

/-- One round of a loop. -/
theorem allows_loop {body : ι → Program Call Reply (ι ⊕ α)} {fuel : Nat} {index : ι}
    (round : Allows (body index) fun outcome trace =>
      outcome.elim
        (fun next => Allows (Program.loop body fuel next) fun value later =>
          post value (trace ++ later))
        (post · trace)) :
    Allows (Program.loop body (fuel + 1) index) post := by
  refine round.bind fun outcome trace holds => ?_
  cases outcome with
  | inl next => exact holds
  | inr value =>
      change post value (trace ++ [])
      rwa [List.append_nil]

end UmbraHost.Interaction
