import UmbraHost.Interaction.Program

/-! # Programs whose calls are answered from a state

A state determines the reply to every call and moves on with it.  Such a program has one run,
which may be cut off between any two calls: the states there are what it can leave behind. -/

namespace UmbraHost.Interaction

variable {Call : Type} {Reply : Call → Type} {α β σ : Type}

namespace Program

/-- The result and the state at the end. -/
def finish (answer : σ → (request : Call) → Reply request × σ) :
    Program Call Reply α → σ → Option α × σ
  | .done value, state => (some value, state)
  | .call request next, state =>
      (next (answer state request).1).finish answer (answer state request).2
  | .pending, state => (none, state)

/-- The states between the calls, the first and the last included. -/
def states (answer : σ → (request : Call) → Reply request × σ) :
    Program Call Reply α → σ → List σ
  | .done _, state => [state]
  | .call request next, state =>
      state :: (next (answer state request).1).states answer (answer state request).2
  | .pending, state => [state]

/-- `&&`: each only if all before it said `true`. -/
def allOf : List (Program Call Reply Bool) → Program Call Reply Bool
  | [] => pure true
  | first :: rest => do
      let succeeded ← first
      if succeeded then allOf rest else pure false

/-- `||`: each only if all before it said `false`. -/
def anyOf : List (Program Call Reply Bool) → Program Call Reply Bool
  | [] => pure false
  | first :: rest => do
      let succeeded ← first
      if succeeded then pure true else anyOf rest

end Program

/-! ## Programs without loops -/

/-- The program ends after finitely many calls, all of them allowed. -/
def Makes (allowed : Call → Prop) : Program Call Reply α → Prop
  | .done _ => True
  | .call request next => allowed request ∧ ∀ reply, Makes allowed (next reply)
  | .pending => False

abbrev Completes (program : Program Call Reply α) : Prop :=
  Makes (fun _ => True) program

section Makes

variable {allowed : Call → Prop}

theorem makes_perform {request : Call} (may : allowed request) :
    Makes allowed (Program.perform request : Program Call Reply (Reply request)) :=
  ⟨may, fun _ => trivial⟩

theorem Makes.bind {program : Program Call Reply α} {rest : α → Program Call Reply β}
    (front : Makes allowed program) (back : ∀ value, Makes allowed (rest value)) :
    Makes allowed (program >>= rest) := by
  induction program with
  | done value => exact back value
  | call request next ih => exact ⟨front.1, fun reply => ih reply (front.2 reply)⟩
  | pending => exact front.elim

theorem Makes.onlyCalls {program : Program Call Reply α} (makes : Makes allowed program) :
    OnlyCalls allowed program := by
  induction program with
  | done value => trivial
  | call request next ih => exact ⟨makes.1, fun reply => ih reply (makes.2 reply)⟩
  | pending => trivial

theorem Makes.allOf {programs : List (Program Call Reply Bool)}
    (each : ∀ program ∈ programs, Makes allowed program) :
    Makes allowed (Program.allOf programs) := by
  induction programs with
  | nil => trivial
  | cons first rest ih =>
      apply Makes.bind (each first List.mem_cons_self)
      intro succeeded
      cases succeeded with
      | true => exact ih fun program member => each program (List.mem_cons_of_mem _ member)
      | false => trivial

theorem Makes.anyOf {programs : List (Program Call Reply Bool)}
    (each : ∀ program ∈ programs, Makes allowed program) :
    Makes allowed (Program.anyOf programs) := by
  induction programs with
  | nil => trivial
  | cons first rest ih =>
      apply Makes.bind (each first List.mem_cons_self)
      intro succeeded
      cases succeeded with
      | true => trivial
      | false => exact ih fun program member => each program (List.mem_cons_of_mem _ member)

end Makes

/-! ## Weakest preconditions of the one run -/

section Sequences

variable {contract : Contract Call Reply σ} {post : Bool → σ → Prop} {state : σ}

theorem wp_allOf_cons {first : Program Call Reply Bool} {rest : List (Program Call Reply Bool)}
    (holds : wp contract first (fun succeeded after =>
      if succeeded then wp contract (Program.allOf rest) post after else post false after) state) :
    wp contract (Program.allOf (first :: rest)) post state := by
  apply wp_seq _ holds
  intro succeeded after next
  cases succeeded <;> exact next

theorem wp_allOf_then {first : Program Call Reply Bool} {rest : List (Program Call Reply Bool)}
    (assertion : σ → Prop)
    (front : wp contract first (fun succeeded after => succeeded = true ∧ assertion after) state)
    (back : ∀ after, assertion after → wp contract (Program.allOf rest) post after) :
    wp contract (Program.allOf (first :: rest)) post state := by
  apply wp_allOf_cons
  apply wp_mono _ front
  rintro succeeded after ⟨rfl, kept⟩
  exact back after kept

/-- What comes before a failure may fail itself. -/
theorem wp_allOf_false (front back : List (Program Call Reply Bool)) (assertion : σ → Prop)
    (each : ∀ program ∈ front, ∀ before, assertion before →
      wp contract program (fun _ => assertion) before)
    (fails : ∀ after, assertion after →
      wp contract (Program.allOf back) (fun succeeded _ => succeeded = false) after)
    (holds : assertion state) :
    wp contract (Program.allOf (front ++ back)) (fun succeeded _ => succeeded = false) state := by
  induction front generalizing state with
  | nil => exact fails state holds
  | cons first rest ih =>
      apply wp_allOf_cons
      apply wp_mono _ (each first List.mem_cons_self state holds)
      intro succeeded after kept
      cases succeeded with
      | true => exact ih (fun program member => each program (List.mem_cons_of_mem _ member)) kept
      | false => rfl

end Sequences

/-- The replies are the ones of the state, and the invariant holds at every call. -/
def Contract.answering (answer : σ → (request : Call) → Reply request × σ)
    (invariant : σ → Prop) : Contract Call Reply σ where
  moves state event after := answer state event.1 = (event.2, after)
  safe state _ := invariant state

variable {answer : σ → (request : Call) → Reply request × σ} {invariant : σ → Prop}
  {program : Program Call Reply α} {post : α → σ → Prop} {state : σ}

@[simp] theorem wp_answering_perform (request : Call) {post : Reply request → σ → Prop} :
    wp (Contract.answering answer invariant) (Program.perform request) post state ↔
      invariant state ∧ post (answer state request).1 (answer state request).2 := by
  simp only [wp_perform, Contract.answering]
  apply and_congr_right
  intro _
  constructor
  · intro all
    exact all _ _ rfl
  · intro one reply after answered
    rw [answered] at one
    exact one

/-- A program without loops ends as specified. -/
theorem wp_finish (holds : wp (Contract.answering answer invariant) program post state)
    (completes : Completes program) :
    ∃ value final, program.finish answer state = (some value, final) ∧ post value final := by
  induction program generalizing state with
  | done value => exact ⟨value, state, rfl, holds⟩
  | call request next ih =>
      have rest := holds.2 (answer state request).1 (answer state request).2 rfl
      exact ih _ rest (completes.2 _)
  | pending => exact completes.elim

/-- An environment that computes its replies, followed to the end of the run. -/
theorem follows_finish {contract : Contract Call Reply σ}
    (agrees : ∀ before request, contract.moves before ⟨request, (answer before request).1⟩
      (answer before request).2)
    (program : Program Call Reply α) (state : σ) :
    Follows contract state (program.play answer state).1 (program.finish answer state).2 := by
  induction program generalizing state with
  | done value => exact .nil state
  | call request next ih => exact .cons (agrees state request) (ih _ _)
  | pending => exact .nil state

theorem mem_states_self (program : Program Call Reply α) (state : σ) :
    state ∈ program.states answer state := by
  cases program <;> exact List.mem_cons_self

/-- Wherever it is cut off, the invariant holds. -/
theorem wp_states (holds : wp (Contract.answering answer invariant) program post state)
    (completes : Completes program) (ends : ∀ value final, post value final → invariant final) :
    ∀ stopped ∈ program.states answer state, invariant stopped := by
  induction program generalizing state with
  | done value =>
      intro stopped member
      rw [List.mem_singleton.mp member]
      exact ends value state holds
  | call request next ih =>
      intro stopped member
      rcases List.mem_cons.mp member with here | later
      · rw [here]
        exact holds.1
      · have next := holds.2 (answer state request).1 (answer state request).2 rfl
        exact ih _ next (completes.2 _) stopped later
  | pending => exact completes.elim

end UmbraHost.Interaction
