import Mathlib.Data.List.Basic

/-! # Accepted frames and invalidations

What the encoder accepted and what the client reported lost, in order.  A frame
is tainted by an invalidation that reaches it after it was accepted, or by its
reference. -/

namespace UmbraHost.Amf

inductive Reference where
  | idr
  | predecessor (index : Option Nat)
  | ltr (slot index : Nat)
deriving DecidableEq, Repr

/-- The frame referred to. -/
def Reference.index? : Reference → Option Nat
  | .idr => none
  | .predecessor index => index
  | .ltr _ index => some index

inductive Entry where
  | accepted (index : Nat) (reference : Reference)
  | invalidated (first last : Nat)
deriving DecidableEq, Repr

abbrev FrameLog := List Entry

def Accepted (log : FrameLog) (index : Nat) : Prop :=
  ∃ reference, .accepted index reference ∈ log

inductive Tainted : FrameLog → Nat → Prop where
  | invalidated {before after : FrameLog} {first last index : Nat}
      (reached : first ≤ index) (accepted : Accepted before index) :
      Tainted (before ++ .invalidated first last :: after) index
  | reference {log : FrameLog} {index other : Nat} {reference : Reference}
      (accepted : .accepted index reference ∈ log) (refers : reference.index? = some other)
      (tainted : Tainted log other) : Tainted log index

/-- References go back to frames accepted earlier. -/
def RefersBack (log : FrameLog) : Prop :=
  ∀ index reference other, .accepted index reference ∈ log → reference.index? = some other →
    other < index ∧ Accepted log other

variable {log : FrameLog} {index other : Nat}

theorem Accepted.append (accepted : Accepted log index) (more : FrameLog) :
    Accepted (log ++ more) index :=
  let ⟨reference, member⟩ := accepted
  ⟨reference, List.mem_append_left _ member⟩

theorem accepted_append_invalidated {first last : Nat} :
    Accepted (log ++ [.invalidated first last]) index ↔ Accepted log index := by
  simp [Accepted]

theorem accepted_append_accepted {reference : Reference} :
    Accepted (log ++ [.accepted other reference]) index ↔ Accepted log index ∨ index = other := by
  simp [Accepted, exists_or]

theorem Tainted.accepted (tainted : Tainted log index) : Accepted log index := by
  cases tainted with
  | invalidated reached accepted => exact accepted.append _
  | reference accepted refers tainted => exact ⟨_, accepted⟩

theorem RefersBack.append_invalidated (back : RefersBack log) (first last : Nat) :
    RefersBack (log ++ [.invalidated first last]) := by
  intro index reference other member refers
  have earlier : .accepted index reference ∈ log := by simpa using member
  obtain ⟨below, accepted⟩ := back index reference other earlier refers
  exact ⟨below, accepted.append _⟩

theorem RefersBack.append_accepted (back : RefersBack log) {reference : Reference}
    (refers : ∀ other, reference.index? = some other → other < index ∧ Accepted log other) :
    RefersBack (log ++ [.accepted index reference]) := by
  intro newer earlierReference other member refersTo
  rcases List.mem_append.mp member with earlier | last
  · obtain ⟨below, accepted⟩ := back newer earlierReference other earlier refersTo
    exact ⟨below, accepted.append _⟩
  · cases List.mem_singleton.mp last
    obtain ⟨below, accepted⟩ := refers other refersTo
    exact ⟨below, accepted.append _⟩

theorem split_append_singleton {before after : FrameLog} {entry last : Entry}
    (whole : log ++ [last] = before ++ entry :: after) :
    before = log ∧ entry = last ∨ ∃ init, log = before ++ entry :: init := by
  rcases List.eq_nil_or_concat after with rfl | ⟨init, final, rfl⟩
  · obtain ⟨front, back⟩ := List.append_inj' whole rfl
    exact .inl ⟨front.symm, (List.cons.inj back).1.symm⟩
  · rw [List.concat_eq_append, ← List.cons_append, ← List.append_assoc] at whole
    exact .inr ⟨init, (List.append_inj' whole rfl).1⟩

/-- An invalidation taints from its first frame on. -/
theorem tainted_append_invalidated (back : RefersBack log) {first last : Nat}
    (tainted : Tainted (log ++ [.invalidated first last]) index) :
    Tainted log index ∨ first ≤ index := by
  generalize whole : log ++ [.invalidated first last] = full at tainted
  induction tainted with
  | invalidated reached accepted =>
      rcases split_append_singleton whole with ⟨_, same⟩ | ⟨init, rfl⟩
      · cases same
        exact .inr reached
      · exact .inl (.invalidated reached accepted)
  | reference accepted refers _ ih =>
      subst whole
      simp only [List.mem_append, List.mem_singleton, reduceCtorEq, or_false] at accepted
      rcases ih rfl with tainted | reached
      · exact .inl (.reference accepted refers tainted)
      · exact .inr (Nat.le_trans reached (Nat.le_of_lt (back _ _ _ accepted refers).1))

/-- A new frame is tainted by its reference alone. -/
theorem tainted_append_accepted (back : RefersBack log) {reference : Reference}
    (fresh : ¬ Accepted log other)
    (refers : ∀ index, reference.index? = some index → Accepted log index)
    (tainted : Tainted (log ++ [.accepted other reference]) index) :
    Tainted log index ∨
      index = other ∧ ∃ source, reference.index? = some source ∧ Tainted log source := by
  generalize whole : log ++ [.accepted other reference] = full at tainted
  induction tainted with
  | invalidated reached accepted =>
      rcases split_append_singleton whole with ⟨_, same⟩ | ⟨init, rfl⟩
      · cases same
      · exact .inl (.invalidated reached accepted)
  | @reference _ newer source found accepted refersTo _ ih =>
      subst whole
      rcases List.mem_append.mp accepted with earlier | last
      · rcases ih rfl with tainted | ⟨rfl, _⟩
        · exact .inl (.reference earlier refersTo tainted)
        · exact absurd (back _ _ _ earlier refersTo).2 fresh
      · cases List.mem_singleton.mp last
        rcases ih rfl with tainted | ⟨rfl, _⟩
        · exact .inr ⟨rfl, source, refersTo, tainted⟩
        · exact absurd (refers _ refersTo) fresh

end UmbraHost.Amf
