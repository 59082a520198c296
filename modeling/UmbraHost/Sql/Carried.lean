import UmbraHost.Sql.Statements

/-! # Rows that a migration carries over

A table carries the rows of an earlier one if they are all there, in the same order and no
others, each with its values in columns of their old names or of names these were changed to. -/

namespace UmbraHost.Sql

variable {Cell : Type}

/-- `place` says where the values of each column went. -/
def Carried (renamed : String → String → Prop) (before after : Relation Cell) : Prop :=
  ∃ place : String → String,
    (∀ name ∈ before.names, renamed name (place name) ∧ place name ∈ after.names) ∧
      List.Forall₂ (fun row kept => ∀ name ∈ before.names, kept (place name) = row name)
        before.rows after.rows

variable {renamed : String → String → Prop} {before middle after : Relation Cell}

theorem forall₂_map_self {α β : Type} {holds : α → β → Prop} {change : α → β} {rows : List α}
    (each : ∀ row, holds row (change row)) : List.Forall₂ holds rows (rows.map change) := by
  rw [List.forall₂_map_right_iff]
  exact List.forall₂_same.mpr fun row _ => each row

theorem forall₂_chain {α β γ : Type} {first : α → β → Prop} {second : β → γ → Prop}
    {both : α → γ → Prop} {xs : List α} {ys : List β} {zs : List γ}
    (front : List.Forall₂ first xs ys) (back : List.Forall₂ second ys zs)
    (chained : ∀ x y z, first x y → second y z → both x z) : List.Forall₂ both xs zs := by
  induction front generalizing zs with
  | nil =>
      cases back
      exact .nil
  | cons head _ ih =>
      cases back with
      | cons next tail => exact .cons (chained _ _ _ head next) (ih tail)

theorem Carried.refl (reflexive : ∀ name, renamed name name) (relation : Relation Cell) :
    Carried renamed relation relation :=
  ⟨id, fun name member => ⟨reflexive name, member⟩,
    List.forall₂_same.mpr fun _ _ _ _ => rfl⟩

theorem Carried.trans
    (transitive : ∀ first second third, renamed first second → renamed second third →
      renamed first third)
    (front : Carried renamed before middle) (back : Carried renamed middle after) :
    Carried renamed before after := by
  obtain ⟨place, placed, kept⟩ := front
  obtain ⟨next, moved, copied⟩ := back
  refine ⟨fun name => next (place name), ?_, ?_⟩
  · intro name member
    obtain ⟨first, inside⟩ := placed name member
    obtain ⟨second, there⟩ := moved (place name) inside
    exact ⟨transitive _ _ _ first second, there⟩
  · apply forall₂_chain kept copied
    intro row moved final same later name member
    rw [later (place name) (placed name member).2, same name member]

/-- There is nothing to carry from a table without rows and columns. -/
theorem Carried.empty (columns : List (Column Cell)) :
    Carried renamed (.empty []) (.empty columns) :=
  ⟨id, nofun, .nil⟩

@[simp] theorem names_addColumn (relation : Relation Cell) (name : String)
    (fallback : Option Cell) (fresh : name ∉ relation.names) :
    (relation.addColumn name fallback fresh).names = relation.names ++ [name] := by
  simp [Relation.names, Relation.addColumn]

theorem Carried.addColumn (reflexive : ∀ name, renamed name name) (relation : Relation Cell)
    (name : String) (fallback : Option Cell) (fresh : name ∉ relation.names) :
    Carried renamed relation (relation.addColumn name fallback fresh) := by
  refine ⟨id, ?_, ?_⟩
  · intro other member
    rw [names_addColumn]
    exact ⟨reflexive other, List.mem_append_left _ member⟩
  · apply forall₂_map_self
    intro row other member
    have different : other ≠ name := fun same => fresh (same ▸ member)
    exact Function.update_of_ne different ..

theorem mem_names_renameColumn {relation : Relation Cell} (old : String) {new name : String}
    (fresh : new ∉ relation.names) (member : name ∈ relation.names) :
    (if name = old then new else name) ∈ (relation.renameColumn old new fresh).names := by
  obtain ⟨column, inside, rfl⟩ := List.mem_map.mp member
  refine List.mem_map.mpr ⟨_, List.mem_map_of_mem inside, ?_⟩
  split <;> rfl

theorem Carried.renameColumn (reflexive : ∀ name, renamed name name) (relation : Relation Cell)
    {old new : String} (allowed : renamed old new) (fresh : new ∉ relation.names) :
    Carried renamed relation (relation.renameColumn old new fresh) := by
  refine ⟨fun name => if name = old then new else name, ?_, ?_⟩
  · intro name member
    refine ⟨?_, mem_names_renameColumn old fresh member⟩
    by_cases same : name = old
    · simp only [if_pos same]
      exact same ▸ allowed
    · simp only [if_neg same]
      exact reflexive name
  · apply forall₂_map_self
    intro row name member
    by_cases same : name = old
    · subst same
      simp only [↓reduceIte, Function.update_self]
    · have different : name ≠ new := fun same => fresh (same ▸ member)
      simp only [if_neg same, Function.update_of_ne different]

/-- A copy into an empty table by all columns of the original. -/
theorem Carried.insertSelect (reflexive : ∀ name, renamed name name) {origin target : Relation Cell}
    {columns : List String} (all : ∀ name ∈ origin.names, name ∈ columns ∧ name ∈ target.names)
    (empty : target.rows = [])
    (admitted : ∀ column ∈ target.columns,
      column.Admits (target.rows ++ origin.rows.map (target.select columns))) :
    Carried renamed origin (target.append (origin.rows.map (target.select columns)) admitted) := by
  refine ⟨id, ?_, ?_⟩
  · intro name member
    exact ⟨reflexive name, (all name member).2⟩
  · have rows : (target.append (origin.rows.map (target.select columns)) admitted).rows =
        origin.rows.map (target.select columns) := by
      simp only [Relation.append, empty, List.nil_append]
    rw [rows]
    apply forall₂_map_self
    intro row name member
    exact if_pos (all name member).1

end UmbraHost.Sql
