import Mathlib.Data.List.Basic

/-! # Computations that may fail

What it says about the parts of a computation that the whole of it succeeded. -/

namespace UmbraHost.Transition

variable {ε α β : Type} {f : α → Except ε β}

theorem ok_of_bind {first : Except ε α} {next : α → Except ε β} {result : β}
    (ran : (first >>= next) = .ok result) :
    ∃ value, first = .ok value ∧ next value = .ok result := by
  cases first with
  | error thrown => cases ran
  | ok value => exact ⟨value, rfl, ran⟩

theorem ok_of_mapM_cons {item : α} {rest : List α} {results : List β}
    (mapped : (item :: rest).mapM f = .ok results) :
    ∃ value values, f item = .ok value ∧ rest.mapM f = .ok values ∧ results = value :: values := by
  rw [List.mapM_cons] at mapped
  obtain ⟨value, head, mapped⟩ := ok_of_bind mapped
  obtain ⟨values, tail, mapped⟩ := ok_of_bind mapped
  cases mapped
  exact ⟨value, values, head, tail, rfl⟩

theorem mem_of_mapM {items : List α} {results : List β} (mapped : items.mapM f = .ok results)
    {result : β} (member : result ∈ results) : ∃ item ∈ items, f item = .ok result := by
  induction items generalizing results with
  | nil =>
      cases mapped
      cases member
  | cons item rest ih =>
      obtain ⟨value, values, head, tail, rfl⟩ := ok_of_mapM_cons mapped
      rcases List.mem_cons.mp member with rfl | later
      · exact ⟨item, List.mem_cons_self, head⟩
      · obtain ⟨other, inside, same⟩ := ih tail later
        exact ⟨other, List.mem_cons_of_mem _ inside, same⟩

theorem exists_of_mapM {items : List α} {results : List β} (mapped : items.mapM f = .ok results)
    {item : α} (member : item ∈ items) : ∃ result ∈ results, f item = .ok result := by
  induction items generalizing results with
  | nil => cases member
  | cons first rest ih =>
      obtain ⟨value, values, head, tail, rfl⟩ := ok_of_mapM_cons mapped
      rcases List.mem_cons.mp member with rfl | later
      · exact ⟨value, List.mem_cons_self, head⟩
      · obtain ⟨other, inside, same⟩ := ih tail later
        exact ⟨other, List.mem_cons_of_mem _ inside, same⟩

end UmbraHost.Transition
