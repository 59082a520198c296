import UmbraHost.StateFiles.Clients

/-! # Client nodes after printing

A node is read back from what `nlohmann` printed, or from what `property_tree` printed
after reading that. Both are renderings: they keep texts, member names and arrays that
are not empty, and may turn numbers and flags into their texts. -/

namespace UmbraHost.StateFiles

open UmbraHost.Json UmbraHost.Tables

structure Rendering (render : Value → Value) : Prop where
  str : ∀ text, render (.str text) = .str text
  bool : ∀ value, render (.bool value) = .bool value ∨
    render (.bool value) = .str (boolText value)
  num : ∀ value, render (.num value) = .num value ∨ render (.num value) = .str (decimal value)
  arr : ∀ items, items ≠ [] → render (.arr items) = .arr (items.map render)
  obj : ∀ fields, (∃ field ∈ fields, field.1 ≠ "") →
    render (.obj fields) = .obj (fields.map fun field => (field.1, render field.2))

theorem rendering_id : Rendering id where
  str _ := rfl
  bool _ := .inl rfl
  num _ := .inl rfl
  arr items _ := by simp
  obj fields _ := by simp

/-- What `property_tree` prints after reading. -/
def reprint (value : Value) : Value := (Tree.ofJson value).toJson

theorem toItems_ofItems (items : List Value) :
    Tree.toItems (Tree.ofItems items) = items.map reprint := by
  induction items with
  | nil => rfl
  | cons item rest ih =>
    rw [Tree.ofItems, Tree.toItems, ih]
    rfl

theorem toFields_ofFields (fields : Fields Value) :
    Tree.toFields (Tree.ofFields fields) = fields.map fun field => (field.1, reprint field.2) := by
  induction fields with
  | nil => rfl
  | cons field rest ih =>
    obtain ⟨name, value⟩ := field
    rw [Tree.ofFields, Tree.toFields, ih]
    rfl

theorem unnamed_ofItems (items : List Value) : Tree.unnamed (Tree.ofItems items) := by
  induction items with
  | nil => rfl
  | cons item rest ih => simpa [Tree.ofItems, Tree.unnamed] using ih

theorem not_unnamed_ofFields {fields : Fields Value} (named : ∃ field ∈ fields, field.1 ≠ "") :
    Tree.unnamed (Tree.ofFields fields) = false := by
  induction fields with
  | nil => simp at named
  | cons field rest ih =>
    obtain ⟨name, value⟩ := field
    by_cases empty : name = ""
    · obtain ⟨field, member, nonempty⟩ := named
      have later : field ∈ rest := by
        rcases List.mem_cons.mp member with rfl | later
        · exact absurd empty nonempty
        · exact later
      have unnamed := ih ⟨field, later, nonempty⟩
      simpa [Tree.ofFields, Tree.unnamed, empty] using unnamed
    · simp [Tree.ofFields, Tree.unnamed, empty]

theorem rendering_reprint : Rendering reprint where
  str _ := rfl
  bool _ := .inr rfl
  num _ := .inr rfl
  arr items nonempty := by
    obtain ⟨first, rest, rfl⟩ := List.exists_cons_of_ne_nil nonempty
    have names := unnamed_ofItems (first :: rest)
    rw [Tree.ofItems] at names
    rw [reprint, Tree.ofJson, Tree.ofItems, Tree.toJson, if_pos names, ← Tree.ofItems,
      toItems_ofItems]
  obj fields named := by
    have names := not_unnamed_ofFields named
    cases fields with
    | nil => simp at named
    | cons field rest =>
      obtain ⟨name, value⟩ := field
      rw [Tree.ofFields] at names
      rw [reprint, Tree.ofJson, Tree.ofFields, Tree.toJson, if_neg (by simp [names]),
        ← Tree.ofFields, toFields_ofFields]

variable {render : Value → Value} (rendering : Rendering render) {fields : Fields Value}
  {key name text : String} {value : Value}

theorem lookup_map_render :
    List.lookup key (fields.map fun field => (field.1, render field.2)) =
      (List.lookup key fields).map render := by
  induction fields with
  | nil => rfl
  | cons field rest ih =>
    obtain ⟨name, value⟩ := field
    by_cases same : key = name
    · subst same
      simp
    · simp only [List.map_cons, Fields.lookup_cons_of_ne same, ih]

include rendering

theorem find?_render (named : ∃ field ∈ fields, field.1 ≠ "") :
    (render (.obj fields)).find? key = (List.lookup key fields).map render := by
  rw [rendering.obj fields named, Value.find?, lookup_map_render]

theorem valueOr_render (named : ∃ field ∈ fields, field.1 ≠ "")
    (found : List.lookup key fields = some (.str text)) :
    (render (.obj fields)).valueOr key "" = .ok text := by
  rw [rendering.obj fields named, Value.valueOr, lookup_map_render, found, Option.map_some,
    rendering.str]

/-- A text that is only written when there is one. -/
theorem valueOr_render_of_ne (named : ∃ field ∈ fields, field.1 ≠ "")
    (found : List.lookup key fields = if text = "" then none else some (.str text)) :
    (render (.obj fields)).valueOr key "" = .ok text := by
  by_cases empty : text = ""
  · rw [if_pos empty] at found
    rw [rendering.obj fields named, Value.valueOr, lookup_map_render, found, empty,
      Option.map_none]
  · rw [if_neg empty] at found
    exact valueOr_render rendering named found

end UmbraHost.StateFiles
