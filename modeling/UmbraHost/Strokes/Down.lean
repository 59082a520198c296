import Mathlib.Data.List.Basic

/-! # Presses and releases

What is down after a list of strokes: the targets whose last stroke is a
press. -/

namespace UmbraHost.Strokes

structure Stroke (α : Type) where
  target : α
  release : Bool
deriving DecidableEq, Repr

variable {α : Type} [DecidableEq α]

def Stroke.apply (target : α) (down : Bool) (stroke : Stroke α) : Bool :=
  if stroke.target = target then !stroke.release else down

def isDown (target : α) (strokes : List (Stroke α)) : Bool :=
  strokes.foldl (Stroke.apply target) false

def press (target : α) : Stroke α := { target, release := false }

def lift (target : α) : Stroke α := { target, release := true }

@[simp] theorem isDown_nil (target : α) : isDown target [] = false := rfl

theorem isDown_append_singleton (target : α) (strokes : List (Stroke α)) (stroke : Stroke α) :
    isDown target (strokes ++ [stroke]) =
      if stroke.target = target then !stroke.release else isDown target strokes := by
  simp [isDown, Stroke.apply]

theorem isDown_press {target other : α} {strokes : List (Stroke α)}
    (down : isDown target (strokes ++ [press other]) = true) :
    isDown target strokes = true ∨ target = other := by
  rw [isDown_append_singleton] at down
  split at down
  · rename_i same
    exact .inr same.symm
  · exact .inl down

theorem isDown_lift {target other : α} {strokes : List (Stroke α)}
    (down : isDown target (strokes ++ [lift other]) = true) :
    isDown target strokes = true ∧ target ≠ other := by
  rw [isDown_append_singleton] at down
  split at down
  · cases down
  · rename_i other
    exact ⟨down, fun same => other same.symm⟩

theorem isDown_presses {target : α} {strokes : List (Stroke α)} {targets : List α}
    (down : isDown target (strokes ++ targets.map press) = true) :
    isDown target strokes = true ∨ target ∈ targets := by
  induction targets generalizing strokes with
  | nil =>
      left
      simpa using down
  | cons first rest ih =>
      rw [List.map_cons, List.append_cons] at down
      rcases ih down with earlier | later
      · rcases isDown_press earlier with before | same
        · exact .inl before
        · exact .inr (same ▸ List.mem_cons_self)
      · exact .inr (List.mem_cons_of_mem _ later)

theorem isDown_lifts {target : α} {strokes : List (Stroke α)} {targets : List α}
    (down : isDown target (strokes ++ targets.map lift) = true) :
    isDown target strokes = true ∧ target ∉ targets := by
  induction targets generalizing strokes with
  | nil => exact ⟨by simpa using down, List.not_mem_nil⟩
  | cons first rest ih =>
      rw [List.map_cons, List.append_cons] at down
      obtain ⟨earlier, notLater⟩ := ih down
      obtain ⟨before, other⟩ := isDown_lift earlier
      exact ⟨before, fun member => (List.mem_cons.mp member).elim other notLater⟩

theorem foldl_apply_of_no_lift {target : α} {strokes : List (Stroke α)}
    (kept : ∀ stroke ∈ strokes, stroke.target = target → stroke.release = false) :
    strokes.foldl (Stroke.apply target) true = true := by
  induction strokes with
  | nil => rfl
  | cons stroke rest ih =>
      have now : Stroke.apply target true stroke = true := by
        unfold Stroke.apply
        split
        · rename_i same
          rw [kept stroke List.mem_cons_self same]
          rfl
        · rfl
      rw [List.foldl_cons, now]
      exact ih fun other member => kept other (List.mem_cons_of_mem _ member)

/-- If a target is not down, each press of it has had a later release. -/
theorem lifted_of_not_isDown {stroke : Stroke α} {before after : List (Stroke α)}
    (pressed : stroke.release = false)
    (up : isDown stroke.target (before ++ stroke :: after) = false) :
    ∃ later ∈ after, later.target = stroke.target ∧ later.release = true := by
  by_contra missing
  have kept : ∀ later ∈ after, later.target = stroke.target → later.release = false := by
    intro later member same
    cases released : later.release with
    | false => rfl
    | true => exact absurd ⟨later, member, same, released⟩ missing
  have start : Stroke.apply stroke.target (before.foldl (Stroke.apply stroke.target) false) stroke =
      true := by
    simp [Stroke.apply, pressed]
  rw [isDown, List.foldl_append, List.foldl_cons, start, foldl_apply_of_no_lift kept] at up
  cases up

end UmbraHost.Strokes
