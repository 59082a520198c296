import Mathlib.Data.List.AList

/-! # Erasing from finite maps and filling them

Maps as duplicate-free association lists: erasing the entries that satisfy a
test, erasing a list of keys one by one, and filling a map anew. -/

namespace UmbraHost.Tables

variable {α : Type u} {β : Type v} [DecidableEq α]

abbrev Table (α : Type u) (β : Type v) := AList fun _ : α => β

/-- `std::erase_if`. -/
def eraseIf (test : α → β → Bool) (table : Table α β) : Table α β where
  entries := table.entries.filter fun entry => !test entry.1 entry.2
  nodupKeys := table.nodupKeys.sublist List.filter_sublist

def eraseAll (keys : List α) (table : Table α β) : Table α β :=
  keys.foldl (fun table key => table.erase key) table

variable {test : α → β → Bool} {table : Table α β} {key : α} {value : β} {keys : List α}

theorem lookup_eraseIf_eq_some : (eraseIf test table).lookup key = some value ↔
    table.lookup key = some value ∧ test key value = false := by
  rw [← Option.mem_def, ← Option.mem_def, AList.mem_lookup_iff, AList.mem_lookup_iff, eraseIf,
    List.mem_filter, Bool.not_eq_true']

theorem lookup_eraseAll :
    (eraseAll keys table).lookup key = if key ∈ keys then none else table.lookup key := by
  induction keys generalizing table with
  | nil => rfl
  | cons first rest ih =>
      have unfolded : eraseAll (first :: rest) table = eraseAll rest (table.erase first) := rfl
      rw [unfolded, ih]
      by_cases same : key = first
      · subst same
        rw [AList.lookup_erase, if_pos List.mem_cons_self]
        split <;> rfl
      · rw [AList.lookup_erase_ne same]
        simp only [List.mem_cons, same, false_or]

theorem lookup_erase_eq_some {erased : α} : (table.erase erased).lookup key = some value ↔
    key ≠ erased ∧ table.lookup key = some value := by
  by_cases same : key = erased
  · subst same
    simp
  · rw [AList.lookup_erase_ne same]
    exact ⟨fun found => ⟨same, found⟩, fun found => found.2⟩

theorem lookup_erase_eq_none (erased : α) (missing : table.lookup key = none) :
    (table.erase erased).lookup key = none := by
  by_cases same : key = erased
  · subst same
    exact AList.lookup_erase _ _
  · rw [AList.lookup_erase_ne same]
    exact missing

theorem lookup_insert_eq_some {inserted : α} {added : β} :
    (table.insert inserted added).lookup key = some value ↔
      key = inserted ∧ value = added ∨ key ≠ inserted ∧ table.lookup key = some value := by
  by_cases same : key = inserted
  · subst same
    rw [AList.lookup_insert, Option.some_inj, eq_comm]
    simp
  · rw [AList.lookup_insert_ne same]
    simp [same]

/-! ## Rebuilding a map from its entries

A map that is filled entry by entry, where an entry may be changed or dropped on
the way and a key that is there already stays as it is. -/

variable {γ : Type w}

/-- One entry, unless its key is there already or it is dropped. -/
def emplaceLoaded (load : α → β → Option γ) (built : Table α γ) (entry : Sigma fun _ : α => β) :
    Table α γ :=
  match load entry.1 entry.2 with
  | none => built
  | some value => if entry.1 ∈ built then built else built.insert entry.1 value

def rebuild (load : α → β → Option γ) (entries : List (Sigma fun _ : α => β)) : Table α γ :=
  entries.foldl (emplaceLoaded load) ∅

variable {load : α → β → Option γ} {built : Table α γ} {entry : Sigma fun _ : α => β}

theorem lookup_emplaceLoaded :
    (emplaceLoaded load built entry).lookup key =
      (built.lookup key).or (if key = entry.1 then load entry.1 entry.2 else none) := by
  unfold emplaceLoaded
  split
  next dropped =>
    split
    · rw [dropped, Option.or_none]
    · rw [Option.or_none]
  next value loaded =>
    by_cases same : key = entry.1
    · subst same
      rw [if_pos rfl, loaded]
      split
      next present =>
        obtain ⟨old, found⟩ := Option.isSome_iff_exists.mp (AList.lookup_isSome.mpr present)
        rw [found, Option.some_or]
      next absent =>
        rw [AList.lookup_eq_none.mpr absent, AList.lookup_insert, Option.none_or]
    · rw [if_neg same, Option.or_none]
      split
      · rfl
      · exact AList.lookup_insert_ne same

theorem lookup_foldl_emplaceLoaded {entries : List (Sigma fun _ : α => β)}
    (distinct : entries.NodupKeys) :
    (entries.foldl (emplaceLoaded load) built).lookup key =
      (built.lookup key).or ((entries.dlookup key).bind (load key)) := by
  induction entries generalizing built with
  | nil => simp
  | cons first rest ih =>
      obtain ⟨firstKey, firstValue⟩ := first
      obtain ⟨fresh, tail⟩ := List.nodupKeys_cons.mp distinct
      rw [List.foldl_cons, ih tail, lookup_emplaceLoaded, Option.or_assoc]
      congr 1
      by_cases same : key = firstKey
      · subst same
        rw [if_pos rfl, List.dlookup_cons_eq, List.dlookup_eq_none.mpr fresh, Option.bind_none,
          Option.or_none, Option.bind_some]
      · rw [if_neg same, Option.none_or, List.dlookup_cons_ne rest ⟨firstKey, firstValue⟩ same]

/-- What the rebuilt map has for a key is loaded from what the map had. -/
theorem lookup_rebuild (table : Table α β) :
    (rebuild load table.entries).lookup key = (table.lookup key).bind (load key) := by
  rw [rebuild, lookup_foldl_emplaceLoaded table.nodupKeys, AList.lookup_empty, Option.none_or]
  rfl

end UmbraHost.Tables
