import Mathlib.Data.List.DropRight

/-! # Scans of views whose reads are checked

Searches between two positions of a view, in either direction, that read one element after
the other. -/

namespace UmbraHost.Views

section

/-! ## Views whose accesses are checked

A view of a sequence and positions in it.  An operation whose real counterpart would leave
the view ends in a fault instead. -/

inductive Fault where
  | pastEnd
  | noElement
  | substrStart
deriving DecidableEq, Repr

variable {α : Type u}

/-- The first position of the element from a position on, or the end. -/
def find [DecidableEq α] (view : List α) (first : Nat) (element : α) : Except Fault Nat :=
  if first ≤ view.length then .ok (first + (view.drop first).idxOf element) else .error .pastEnd

def advance (view : List α) (position count : Nat) : Except Fault Nat :=
  if position + count ≤ view.length then .ok (position + count) else .error .pastEnd

/-- The elements between two positions. -/
def between (view : List α) (first last : Nat) : Except Fault (List α) :=
  if first ≤ last ∧ last ≤ view.length then .ok ((view.take last).drop first)
  else .error .pastEnd

def substr (view : List α) (position : Nat) (count : Option Nat) : Except Fault (List α) :=
  if position ≤ view.length then
    .ok (match count with
      | some count => (view.drop position).take count
      | none => view.drop position)
  else .error .substrStart

/-- The last element, `view[view.size() - 1]`. -/
def last (view : List α) : Except Fault α :=
  match view.getLast? with
  | some element => .ok element
  | none => .error .noElement

variable {view : List α} {first position : Nat}

theorem find_of_le [DecidableEq α] {element : α} (inside : first ≤ view.length) :
    find view first element = .ok (first + (view.drop first).idxOf element) :=
  if_pos inside

/-- What is found lies in the view, or at its end. -/
theorem find_le [DecidableEq α] {element : α} (found : find view first element = .ok position) :
    first ≤ position ∧ position ≤ view.length := by
  by_cases inside : first ≤ view.length
  · rw [find_of_le inside] at found
    obtain rfl := Except.ok.inj found
    have bound := List.idxOf_le_length (a := element) (l := view.drop first)
    rw [List.length_drop] at bound
    omega
  · simp [find, inside] at found

theorem between_of_le {last : Nat} (ordered : first ≤ last) (inside : last ≤ view.length) :
    between view first last = .ok ((view.take last).drop first) :=
  if_pos ⟨ordered, inside⟩

end

variable {α : Type u}

def read (view : List α) (position : Nat) : Except Fault α :=
  match view[position]? with
  | some element => .ok element
  | none => .error .pastEnd

/-- The first element between two positions that is accepted, or the second position. -/
def findIf (view : List α) (accepted : α → Bool) (first last : Nat) : Except Fault Nat :=
  if first = last then .ok first
  else
    match _found : view[first]? with
    | some element =>
      if accepted element then .ok first else findIf view accepted (first + 1) last
    | none => .error .pastEnd
termination_by view.length - first
decreasing_by
  have inside := (List.getElem?_eq_some_iff.mp _found).1
  omega

/-- The position behind the last element between two positions that is accepted, or the first
position. -/
def findLastIf (view : List α) (accepted : α → Bool) (first : Nat) : Nat → Except Fault Nat
  | 0 => if first = 0 then .ok 0 else .error .pastEnd
  | last + 1 =>
    if first = last + 1 then .ok first
    else
      match view[last]? with
      | some element =>
        if accepted element then .ok (last + 1) else findLastIf view accepted first last
      | none => .error .pastEnd

/-- What stands between two positions. -/
def span (view : List α) (first last : Nat) : List α := (view.take last).drop first

variable {view : List α} {accepted : α → Bool} {first last position : Nat}

/-! ## Spans -/

theorem length_span (inside : last ≤ view.length) : (span view first last).length = last - first := by
  rw [span, List.length_drop, List.length_take]
  omega

theorem span_add (count : Nat) :
    span view (first + count) last = (span view first last).drop count := by
  rw [span, span, List.drop_drop]

theorem span_take {count : Nat} (within : first + count ≤ last) :
    span view first (first + count) = (span view first last).take count := by
  rw [span, span, List.take_drop, List.take_take, Nat.min_eq_left within]

theorem span_eq_take : span view first last = (view.drop first).take (last - first) :=
  List.drop_take

theorem span_length : span view first view.length = view.drop first := by
  rw [span, List.take_length]

@[simp] theorem span_self : span view first first = [] := by
  rw [span, List.drop_eq_nil_iff, List.length_take]
  omega

theorem span_cons (ordered : first < last) (inside : last ≤ view.length) :
    ∃ element, view[first]? = some element ∧
      span view first last = element :: span view (first + 1) last := by
  have found : view[first]? = some view[first] := List.getElem?_eq_getElem (by omega)
  refine ⟨_, found, ?_⟩
  have short : first < (view.take last).length := by
    rw [List.length_take]
    omega
  rw [span, List.drop_eq_getElem_cons short, List.getElem_take]
  rfl

theorem span_concat (ordered : first ≤ last) (inside : last < view.length) :
    ∃ element, view[last]? = some element ∧
      span view first (last + 1) = span view first last ++ [element] := by
  have found : view[last]? = some view[last] := List.getElem?_eq_getElem inside
  refine ⟨_, found, ?_⟩
  rw [span, List.take_add_one, found, List.drop_append_of_le_length]
  · rfl
  · rw [List.length_take]
    omega

theorem span_append (ordered : first ≤ position) (within : position ≤ last) :
    span view first position ++ span view position last = span view first last := by
  obtain ⟨count, rfl⟩ := Nat.exists_eq_add_of_le ordered
  rw [span_take within, span_add, List.take_append_drop]

theorem between_eq_span (ordered : first ≤ last) (inside : last ≤ view.length) :
    between view first last = .ok (span view first last) :=
  between_of_le ordered inside

/-! ## Searches -/

theorem findIf_eq (ordered : first ≤ last) (inside : last ≤ view.length) :
    findIf view accepted first last =
      .ok (first + ((span view first last).takeWhile (!accepted ·)).length) := by
  obtain ⟨count, rfl⟩ := Nat.exists_eq_add_of_le ordered
  induction count generalizing first with
  | zero => rw [Nat.add_zero, findIf, if_pos rfl, span_self, List.takeWhile_nil, List.length_nil,
      Nat.add_zero]
  | succ count ih =>
      obtain ⟨element, found, shape⟩ := span_cons (Nat.lt_add_of_pos_right (Nat.succ_pos count))
        inside
      have other : first ≠ first + (count + 1) := by omega
      have step := @ih (first + 1) (by omega) (by omega)
      rw [findIf, if_neg other]
      split
      · next element' found' =>
          obtain rfl := Option.some.inj (found'.symm.trans found)
          rw [shape, List.takeWhile_cons]
          cases accepted element' with
          | true => rfl
          | false =>
              have total : first + 1 + count = first + (count + 1) := by omega
              rw [total] at step
              simp only [Bool.not_false, if_true, Bool.false_eq_true, if_false, List.length_cons]
              rw [step, Nat.add_assoc, Nat.add_comm 1]
      · next missing => simp [found] at missing

theorem findLastIf_eq (ordered : first ≤ last) (inside : last ≤ view.length) :
    findLastIf view accepted first last =
      .ok (first + ((span view first last).rdropWhile (!accepted ·)).length) := by
  induction last with
  | zero =>
      obtain rfl := Nat.le_zero.mp ordered
      rfl
  | succ last ih =>
      rw [findLastIf]
      split
      · next same => rw [same, span_self, List.rdropWhile_nil, List.length_nil, Nat.add_zero]
      · next other =>
          obtain ⟨element, found, shape⟩ := span_concat (show first ≤ last by omega) inside
          rw [found, shape, List.rdropWhile_concat]
          cases taken : accepted element with
          | true =>
              have length := @length_span _ view first last (by omega)
              simp only [taken, if_true, Bool.not_true, Bool.false_eq_true, if_false,
                List.length_append, List.length_singleton, length]
              congr 1
              omega
          | false =>
              simp only [taken, Bool.false_eq_true, if_false, Bool.not_false, if_true]
              exact ih (by omega) (by omega)

theorem span_prefix {front : List α} (prefixed : front <+: span view first last)
    (inside : last ≤ view.length) : span view first (first + front.length) = front := by
  have short := prefixed.length_le
  rw [length_span inside] at short
  rcases Nat.lt_or_ge last first with backwards | ordered
  · have empty : front = [] := List.eq_nil_of_length_eq_zero (by omega)
    rw [empty, List.length_nil, Nat.add_zero, span_self]
  · rw [span_take (show first + front.length ≤ last by omega)]
    exact (List.prefix_iff_eq_take.mp prefixed).symm

/-- A search within a view and the two parts that it leaves. -/
theorem findIf_spec (accepted : α → Bool) (ordered : first ≤ last) (inside : last ≤ view.length) :
    ∃ position, findIf view accepted first last = .ok position ∧
      first ≤ position ∧ position ≤ last ∧
      span view first position = (span view first last).takeWhile (!accepted ·) ∧
      span view position last = (span view first last).dropWhile (!accepted ·) := by
  have prefixed : (span view first last).takeWhile (!accepted ·) <+: span view first last :=
    List.takeWhile_prefix _
  have short := prefixed.length_le
  rw [length_span inside] at short
  refine ⟨_, findIf_eq ordered inside, Nat.le_add_right _ _, by omega, ?_, ?_⟩
  · exact span_prefix prefixed inside
  · rw [span_add]
    have whole := List.takeWhile_append_dropWhile (p := (!accepted ·)) (l := span view first last)
    exact (congrArg (List.drop _) whole.symm).trans List.drop_left

theorem findLastIf_spec (accepted : α → Bool) (ordered : first ≤ last)
    (inside : last ≤ view.length) :
    ∃ position, findLastIf view accepted first last = .ok position ∧
      first ≤ position ∧ position ≤ last ∧
      span view first position = (span view first last).rdropWhile (!accepted ·) := by
  have prefixed : (span view first last).rdropWhile (!accepted ·) <+: span view first last :=
    List.rdropWhile_prefix _ _
  have short := prefixed.length_le
  rw [length_span inside] at short
  refine ⟨_, findLastIf_eq ordered inside, Nat.le_add_right _ _, by omega, ?_⟩
  exact span_prefix prefixed inside

theorem le_of_findIf (found : findIf view accepted first last = .ok position) :
    first ≤ position := by
  fun_induction findIf view accepted first last with
  | case1 => exact (Except.ok.inj found).le
  | case2 => exact (Except.ok.inj found).le
  | case3 first _ element read _ ih => exact Nat.le_of_succ_le (ih found)
  | case4 => cases found

theorem findIf_accepted (found : findIf view accepted first last = .ok position)
    (before : position ≠ last) : ∃ element, view[position]? = some element ∧ accepted element := by
  fun_induction findIf view accepted first last with
  | case1 => exact absurd (Except.ok.inj found).symm before
  | case2 first _ element read taken =>
      obtain rfl := Except.ok.inj found
      exact ⟨element, read, taken⟩
  | case3 first _ element read _ ih => exact ih found
  | case4 => cases found

/-- A search that read within the view ends within it. -/
theorem findIf_le (found : findIf view accepted first last = .ok position)
    (other : first ≠ last) : position ≤ view.length := by
  fun_induction findIf view accepted first last with
  | case1 => exact absurd rfl other
  | case2 first _ element read taken =>
      obtain rfl := Except.ok.inj found
      exact (List.getElem?_eq_some_iff.mp read).1.le
  | case3 first _ element read _ ih =>
      have inside := (List.getElem?_eq_some_iff.mp read).1
      rcases Decidable.em (first + 1 = last) with same | different
      · rw [findIf, if_pos same] at found
        rw [← Except.ok.inj found]
        exact inside
      · exact ih found different
  | case4 => cases found

end UmbraHost.Views
