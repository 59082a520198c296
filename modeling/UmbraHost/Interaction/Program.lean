import UmbraHost.Transition.Run

/-! # Programs that call their environment

A program is a tree: it is done, or it makes a call and goes on with the reply.
Everything the program does not decide is in the replies, so a statement about
all runs of a program is one about every behaviour of its environment.  A loop
without a bound of its own runs out of fuel at a pending node, where the run is
merely as far as it has got. -/

namespace UmbraHost.Interaction

open UmbraHost.Transition

inductive Program (Call : Type) (Reply : Call → Type) (α : Type) where
  | done (value : α)
  | call (request : Call) (next : Reply request → Program Call Reply α)
  | pending

variable {Call : Type} {Reply : Call → Type} {α β σ ι : Type}

namespace Program

def bind : Program Call Reply α → (α → Program Call Reply β) → Program Call Reply β
  | .done value, rest => rest value
  | .call request next, rest => .call request fun reply => (next reply).bind rest
  | .pending, _ => .pending

instance : Monad (Program Call Reply) where
  pure := .done
  bind := bind

def perform (request : Call) : Program Call Reply (Reply request) := .call request .done

/-- `while (true)`: the body gives the next state or the result. -/
def loop (body : σ → Program Call Reply (σ ⊕ α)) : Nat → σ → Program Call Reply α
  | 0, _ => .pending
  | fuel + 1, state =>
      (body state).bind fun
        | .inl next => loop body fuel next
        | .inr value => .done value

end Program

/-- A call and the reply it got. -/
abbrev Event (Call : Type) (Reply : Call → Type) := (request : Call) × Reply request

abbrev History (Call : Type) (Reply : Call → Type) := List (Event Call Reply)

/-- The runs of a program, complete with a result or as far as they have got. -/
inductive Runs : Program Call Reply α → History Call Reply → Option α → Prop where
  | done (value : α) : Runs (.done value) [] (some value)
  | stop (program : Program Call Reply α) : Runs program [] none
  | call {request : Call} {next : Reply request → Program Call Reply α} (reply : Reply request)
      {trace : History Call Reply} {result : Option α} (rest : Runs (next reply) trace result) :
      Runs (.call request next) (⟨request, reply⟩ :: trace) result

/-- The run against an environment that computes its replies. -/
def Program.play (answer : σ → (request : Call) → Reply request × σ) :
    Program Call Reply α → σ → History Call Reply × Option α
  | .done value, _ => ([], some value)
  | .call request next, state =>
      let replied := answer state request
      let rest := (next replied.1).play answer replied.2
      (⟨request, replied.1⟩ :: rest.1, rest.2)
  | .pending, _ => ([], none)

theorem Runs.play (answer : σ → (request : Call) → Reply request × σ)
    (program : Program Call Reply α) (state : σ) :
    Runs program (program.play answer state).1 (program.play answer state).2 := by
  induction program generalizing state with
  | done value => exact .done value
  | call request next ih => exact .call _ (ih _ _)
  | pending => exact .stop _

/-! ## Weakest preconditions -/

/-- What a program relies on of each reply, and what it ensures at each call.  Both are
in terms of the states of an observer of the calls. -/
structure Contract (Call : Type) (Reply : Call → Type) (σ : Type) where
  moves : σ → Event Call Reply → σ → Prop
  safe : σ → Call → Prop

/-- The observer's way through a history. -/
inductive Follows (contract : Contract Call Reply σ) : σ → History Call Reply → σ → Prop where
  | nil (state : σ) : Follows contract state [] state
  | cons {state middle final : σ} {event : Event Call Reply} {rest : History Call Reply}
      (moved : contract.moves state event middle) (later : Follows contract middle rest final) :
      Follows contract state (event :: rest) final

variable (contract : Contract Call Reply σ)

/-- Under the replies relied on every call is safe, and a result comes with the
postcondition. -/
def wp : Program Call Reply α → (α → σ → Prop) → σ → Prop
  | .done value, post, state => post value state
  | .call request next, post, state =>
      contract.safe state request ∧
        ∀ reply after, contract.moves state ⟨request, reply⟩ after → wp (next reply) post after
  | .pending, _, _ => True

variable {contract} {post : α → σ → Prop} {state : σ}

@[simp] theorem wp_pure (value : α) :
    wp contract (pure value : Program Call Reply α) post state ↔ post value state :=
  Iff.rfl

@[simp] theorem wp_perform (request : Call) {post : Reply request → σ → Prop} :
    wp contract (Program.perform request) post state ↔
      contract.safe state request ∧
        ∀ reply after, contract.moves state ⟨request, reply⟩ after → post reply after :=
  Iff.rfl

@[simp] theorem wp_bind (program : Program Call Reply α) (rest : α → Program Call Reply β)
    {post : β → σ → Prop} :
    wp contract (program >>= rest) post state ↔
      wp contract program (fun value after => wp contract (rest value) post after) state := by
  induction program generalizing state with
  | done value => exact Iff.rfl
  | call request next ih =>
      exact and_congr_right fun _ => forall_congr' fun reply => forall_congr' fun after =>
        imp_congr_right fun _ => ih reply
  | pending => exact Iff.rfl

theorem wp_mono {program : Program Call Reply α} {post other : α → σ → Prop}
    (weaker : ∀ value after, post value after → other value after)
    (holds : wp contract program post state) : wp contract program other state := by
  induction program generalizing state with
  | done value => exact weaker value state holds
  | call request next ih =>
      exact ⟨holds.1, fun reply after moved => ih reply (holds.2 reply after moved)⟩
  | pending => trivial

/-- Sequencing by the specification of the first part. -/
theorem wp_seq {program : Program Call Reply α} {rest : α → Program Call Reply β}
    {post : β → σ → Prop} (between : α → σ → Prop) (front : wp contract program between state)
    (back : ∀ value after, between value after → wp contract (rest value) post after) :
    wp contract (program >>= rest) post state :=
  (wp_bind program rest).mpr (wp_mono back front)

/-- An environment that computes its replies is followed if each reply is relied on. -/
theorem follows_play {ρ : Type} (contract : Contract Call Reply σ)
    (answer : ρ → (request : Call) → Reply request × ρ) (view : ρ → σ)
    (agrees : ∀ state request, contract.moves (view state) ⟨request, (answer state request).1⟩
      (view (answer state request).2))
    (program : Program Call Reply α) (state : ρ) :
    ∃ final, Follows contract (view state) (program.play answer state).1 final := by
  induction program generalizing state with
  | done value => exact ⟨_, .nil _⟩
  | call request next ih =>
      obtain ⟨final, later⟩ := ih (answer state request).1 (answer state request).2
      exact ⟨final, .cons (agrees state request) later⟩
  | pending => exact ⟨_, .nil _⟩

/-- Weakest preconditions say what they mean about runs: the calls are safe... -/
theorem wp_safe {program : Program Call Reply α} {front back : History Call Reply}
    {event : Event Call Reply} {result : Option α} {middle : σ}
    (runs : Runs program (front ++ event :: back) result)
    (follows : Follows contract state front middle) (holds : wp contract program post state) :
    contract.safe middle event.1 := by
  generalize split : front ++ event :: back = trace at runs
  induction runs generalizing front state with
  | done value => simp at split
  | stop program => simp at split
  | call reply rest ih =>
      cases follows with
      | nil =>
          obtain ⟨rfl, -⟩ := List.cons.inj split
          exact holds.1
      | cons moved later =>
          injection split with same tail
          cases same
          exact ih later (holds.2 reply _ moved) tail

/-- ...and the results are as specified. -/
theorem wp_result {program : Program Call Reply α} {trace : History Call Reply} {value : α}
    {final : σ} (runs : Runs program trace (some value))
    (follows : Follows contract state trace final) (holds : wp contract program post state) :
    post value final := by
  generalize complete : some value = result at runs
  induction runs generalizing state with
  | done other =>
      cases complete
      cases follows
      exact holds
  | stop program => cases complete
  | call reply _ ih =>
      cases follows with
      | cons moved later => exact ih later (holds.2 reply _ moved) complete

/-! ## Observers that compute their states -/

/-- The observer that takes each event as the function says. -/
def Contract.observing (observe : Event Call Reply → σ → σ) (safe : σ → Call → Prop) :
    Contract Call Reply σ where
  moves state event after := after = observe event state
  safe := safe

variable {observe : Event Call Reply → σ → σ} {safe : σ → Call → Prop}

@[simp] theorem wp_observing_perform (request : Call) {post : Reply request → σ → Prop} :
    wp (Contract.observing observe safe) (Program.perform request) post state ↔
      safe state request ∧ ∀ reply, post reply (observe ⟨request, reply⟩ state) := by
  simp only [wp_perform, Contract.observing, forall_eq]

theorem follows_observing (trace : History Call Reply) (state : σ) :
    Follows (Contract.observing observe safe) state trace (run observe trace state) := by
  induction trace generalizing state with
  | nil => exact .nil state
  | cons event rest ih => exact .cons rfl (ih (observe event state))

/-! ## Which calls a program makes -/

def OnlyCalls (allowed : Call → Prop) : Program Call Reply α → Prop
  | .done _ => True
  | .call request next => allowed request ∧ ∀ reply, OnlyCalls allowed (next reply)
  | .pending => True

variable {allowed : Call → Prop}

@[simp] theorem onlyCalls_pure (value : α) :
    OnlyCalls allowed (pure value : Program Call Reply α) :=
  trivial

@[simp] theorem onlyCalls_perform (request : Call) :
    OnlyCalls allowed (Program.perform request : Program Call Reply (Reply request)) ↔
      allowed request :=
  ⟨fun only => only.1, fun may => ⟨may, fun _ => trivial⟩⟩

theorem OnlyCalls.mono {program : Program Call Reply α} {more : Call → Prop}
    (only : OnlyCalls allowed program) (wider : ∀ request, allowed request → more request) :
    OnlyCalls more program := by
  induction program with
  | done value => trivial
  | call request next ih => exact ⟨wider request only.1, fun reply => ih reply (only.2 reply)⟩
  | pending => trivial

theorem OnlyCalls.bind {program : Program Call Reply α} {rest : α → Program Call Reply β}
    (front : OnlyCalls allowed program) (back : ∀ value, OnlyCalls allowed (rest value)) :
    OnlyCalls allowed (program >>= rest) := by
  induction program with
  | done value => exact back value
  | call request next ih => exact ⟨front.1, fun reply => ih reply (front.2 reply)⟩
  | pending => trivial

theorem OnlyCalls.loop {body : σ → Program Call Reply (σ ⊕ α)}
    (each : ∀ state, OnlyCalls allowed (body state)) (fuel : Nat) (state : σ) :
    OnlyCalls allowed (Program.loop body fuel state) := by
  induction fuel generalizing state with
  | zero => trivial
  | succ fuel ih =>
      refine OnlyCalls.bind (each state) fun outcome => ?_
      cases outcome with
      | inl next => exact ih next
      | inr value => trivial

/-- Frame rule: a program that only makes some calls keeps what these calls keep. -/
theorem OnlyCalls.keeps {program : Program Call Reply α} (only : OnlyCalls allowed program)
    (invariant : σ → Prop)
    (kept : ∀ before event after, allowed event.1 → invariant before →
      contract.moves before event after → invariant after)
    (safe : ∀ before request, allowed request → invariant before → contract.safe before request)
    (holds : invariant state) : wp contract program (fun _ => invariant) state := by
  induction program generalizing state with
  | done value => exact holds
  | call request next ih =>
      exact ⟨safe state request only.1 holds, fun reply after moved =>
        ih reply (only.2 reply) (kept state ⟨request, reply⟩ after only.1 holds moved)⟩
  | pending => trivial

section

/-! ## Observers that keep the calls

An observer may write down every call with its reply, so that what a program has done can be
told from its postcondition. -/

variable {Call : Type} {Reply : Call → Type} {α σ : Type}

structure Logged (Call : Type) (Reply : Call → Type) (σ : Type) where
  trace : History Call Reply
  state : σ

def Contract.logged (contract : Contract Call Reply σ) :
    Contract Call Reply (Logged Call Reply σ) where
  moves before event after :=
    after.trace = before.trace ++ [event] ∧ contract.moves before.state event after.state
  safe before request := contract.safe before.state request

variable {contract : Contract Call Reply σ} {state final : σ} {trace : History Call Reply}

theorem Follows.logged (follows : Follows contract state trace final)
    (front : History Call Reply) :
    Follows contract.logged ⟨front, state⟩ trace ⟨front ++ trace, final⟩ := by
  induction follows generalizing front with
  | nil state =>
      rw [List.append_nil]
      exact .nil _
  | cons moved _ ih =>
      rename_i event rest _
      have later := ih (front ++ [event])
      rw [List.append_assoc, List.singleton_append] at later
      exact .cons ⟨rfl, moved⟩ later

/-- What safe calls keep holds wherever a run has got. -/
theorem wp_invariant {program : Program Call Reply α} {post : α → σ → Prop} {result : Option α}
    (invariant : σ → Prop)
    (kept : ∀ before event after, invariant before → contract.safe before event.1 →
      contract.moves before event after → invariant after)
    (runs : Runs program trace result) (follows : Follows contract state trace final)
    (holds : wp contract program post state) (start : invariant state) : invariant final := by
  induction runs generalizing state with
  | done value =>
      cases follows
      exact start
  | stop program =>
      cases follows
      exact start
  | call reply _ ih =>
      cases follows with
      | cons moved later =>
          exact ih later (holds.2 reply _ moved) (kept _ _ _ start holds.1 moved)

/-- What the postcondition says of the log holds of the trace of the run. -/
theorem wp_logged_result {program : Program Call Reply α}
    {post : α → Logged Call Reply σ → Prop} {value : α} (runs : Runs program trace (some value))
    (follows : Follows contract state trace final)
    (holds : wp contract.logged program post ⟨[], state⟩) : post value ⟨trace, final⟩ :=
  wp_result runs (follows.logged []) holds

/-- Frame rule: the log only grows, and what the allowed calls keep is kept. -/
theorem OnlyCalls.logged {allowed : Call → Prop} {program : Program Call Reply α}
    (only : OnlyCalls allowed program) (invariant : σ → Prop)
    (kept : ∀ before event after, allowed event.1 → invariant before →
      contract.moves before event after → invariant after)
    (safe : ∀ before request, allowed request → invariant before → contract.safe before request)
    {log : Logged Call Reply σ} (holds : invariant log.state) :
    wp contract.logged program
      (fun _ after => invariant after.state ∧ log.trace <+: after.trace) log := by
  apply only.keeps fun (after : Logged Call Reply σ) =>
    invariant after.state ∧ log.trace <+: after.trace
  · rintro before event after may ⟨holds, grown⟩ ⟨written, moved⟩
    refine ⟨kept before.state event after.state may holds moved, ?_⟩
    rw [written]
    exact grown.trans (List.prefix_append ..)
  · intro before request may holds
    exact safe before.state request may holds.1
  · exact ⟨holds, List.prefix_refl _⟩

end

end UmbraHost.Interaction
