import Mathlib.Data.List.Basic

/-! # JSON values and property trees

A property tree is text with named children. It has no numbers, booleans or
arrays: reading a JSON file keeps the text of every scalar and gives array
elements the empty name; writing one prints every text as a string, and a node
whose children all have the empty name as an array. -/

namespace UmbraHost.Json

section

/-! ## Named fields

The members of an object as a list of names and values. A read takes the first
member of a name; a write replaces it, or adds the member at the end. -/

abbrev Fields (α : Type) := List (String × α)

namespace Fields

variable {α : Type} {fields : Fields α} {name other : String} {value : α}

def put (name : String) (value : α) : Fields α → Fields α
  | [] => [(name, value)]
  | (other, old) :: rest =>
    if name = other then (other, value) :: rest else (other, old) :: put name value rest

theorem lookup_cons_self {rest : Fields α} :
    List.lookup name ((name, value) :: rest) = some value := by
  simp

theorem lookup_cons_of_ne {rest : Fields α} (different : name ≠ other) :
    List.lookup name ((other, value) :: rest) = List.lookup name rest := by
  rw [List.lookup_cons, beq_eq_false_iff_ne.mpr different]

@[simp] theorem lookup_put_self :
    List.lookup name (put name value fields) = some value := by
  induction fields with
  | nil => exact lookup_cons_self
  | cons field rest ih =>
    obtain ⟨other, old⟩ := field
    by_cases same : name = other
    · subst same
      simp [put]
    · simp only [put, same, if_false, lookup_cons_of_ne same, ih]

theorem lookup_put_of_ne (different : other ≠ name) :
    List.lookup other (put name value fields) = List.lookup other fields := by
  induction fields with
  | nil => exact lookup_cons_of_ne different
  | cons field rest ih =>
    obtain ⟨first, old⟩ := field
    by_cases same : name = first
    · subst same
      simp only [put, if_true, lookup_cons_of_ne different]
    · simp only [put, same, if_false]
      by_cases head : other = first
      · subst head
        simp only [lookup_cons_self]
      · simp only [lookup_cons_of_ne head, ih]

/-- Every member of the result is the new one or was there before. -/
theorem mem_put {field : String × α} (member : field ∈ put name value fields) :
    field = (name, value) ∨ field ∈ fields := by
  induction fields with
  | nil => simpa [put] using member
  | cons first rest ih =>
    obtain ⟨other, old⟩ := first
    by_cases same : name = other
    · simp only [put, same, if_true, List.mem_cons] at member
      rcases member with rfl | member
      · exact .inl (by rw [same])
      · exact .inr (List.mem_cons_of_mem _ member)
    · simp only [put, same, if_false, List.mem_cons] at member
      rcases member with rfl | member
      · exact .inr List.mem_cons_self
      · exact (ih member).imp id (List.mem_cons_of_mem _)

/-- The first member of the name goes. -/
def eraseFirst (name : String) (fields : Fields α) : Fields α :=
  fields.eraseP fun field => field.1 = name

/-- All members of the name go. -/
def eraseAll (name : String) (fields : Fields α) : Fields α :=
  fields.filter fun field => field.1 ≠ name

theorem lookup_eraseFirst_of_ne (different : other ≠ name) :
    List.lookup other (eraseFirst name fields) = List.lookup other fields := by
  induction fields with
  | nil => rfl
  | cons field rest ih =>
    obtain ⟨first, old⟩ := field
    by_cases same : first = name
    · subst same
      rw [eraseFirst, List.eraseP_cons_of_pos (by simp), lookup_cons_of_ne different]
    · rw [eraseFirst, List.eraseP_cons_of_neg (by simp [same])]
      by_cases head : other = first
      · subst head
        simp only [lookup_cons_self]
      · rw [lookup_cons_of_ne head, lookup_cons_of_ne head]
        exact ih

theorem lookup_eraseAll_of_ne (different : other ≠ name) :
    List.lookup other (eraseAll name fields) = List.lookup other fields := by
  induction fields with
  | nil => rfl
  | cons field rest ih =>
    obtain ⟨first, old⟩ := field
    by_cases same : first = name
    · subst same
      rw [eraseAll, List.filter_cons_of_neg (by simp), lookup_cons_of_ne different]
      exact ih
    · rw [eraseAll, List.filter_cons_of_pos (by simp [same])]
      by_cases head : other = first
      · subst head
        simp only [lookup_cons_self]
      · rw [lookup_cons_of_ne head, lookup_cons_of_ne head]
        exact ih

theorem lookup_eraseAll_self : List.lookup name (eraseAll name fields) = none := by
  induction fields with
  | nil => rfl
  | cons field rest ih =>
    obtain ⟨first, old⟩ := field
    by_cases same : first = name
    · rw [eraseAll, List.filter_cons_of_neg (by simp [same])]
      exact ih
    · rw [eraseAll, List.filter_cons_of_pos (by simp [same]), lookup_cons_of_ne (Ne.symm same)]
      exact ih

/-- What is not there is not erased either. -/
theorem eraseFirst_of_lookup_eq_none (absent : List.lookup name fields = none) :
    List.lookup name (eraseFirst name fields) = none := by
  induction fields with
  | nil => rfl
  | cons field rest ih =>
    obtain ⟨first, old⟩ := field
    by_cases same : first = name
    · subst same
      simp at absent
    · rw [lookup_cons_of_ne (Ne.symm same)] at absent
      rw [eraseFirst, List.eraseP_cons_of_neg (by simp [same]), lookup_cons_of_ne (Ne.symm same)]
      exact ih absent

theorem eraseFirst_comm (different : other ≠ name) :
    eraseFirst other (eraseFirst name fields) = eraseFirst name (eraseFirst other fields) := by
  refine List.eraseP_comm fun field _ => ?_
  by_cases named : field.1 = name
  · exact .inr (by simp [named, different.symm])
  · exact .inl (by simp [named])

theorem eraseFirst_eraseAll (different : other ≠ name) :
    eraseFirst other (eraseAll name fields) = eraseAll name (eraseFirst other fields) := by
  rw [eraseFirst, eraseAll, List.eraseP_filter]
  congr 2
  funext field
  by_cases named : field.1 = other
  · simp [named, different]
  · simp [named]

end Fields

end

/-- The values of a JSON file. A number that is not an integer keeps its text and its
integral part. -/
inductive Value where
  | null
  | bool (value : Bool)
  | num (value : Int)
  | real (text : String) (truncated : Int)
  | str (text : String)
  | arr (items : List Value)
  | obj (fields : List (String × Value))

inductive Tree where
  | node (data : String) (children : List (String × Tree))

/-- The decimal digits of an integer, with a sign when it is negative. -/
def decimal : Int → String
  | .ofNat magnitude => String.ofList (Nat.toDigits 10 magnitude)
  | .negSucc less => String.ofList ('-' :: Nat.toDigits 10 (less + 1))

def boolText (value : Bool) : String :=
  if value then "true" else "false"

namespace Tree

def empty : Tree := node "" []

def data : Tree → String
  | node data _ => data

def children : Tree → Fields Tree
  | node _ children => children

@[simp] theorem data_node (data : String) (children : Fields Tree) :
    (node data children).data = data := rfl

@[simp] theorem children_node (data : String) (children : Fields Tree) :
    (node data children).children = children := rfl

mutual

def ofJson : Value → Tree
  | .null => node "null" []
  | .bool value => node (boolText value) []
  | .num value => node (decimal value) []
  | .real text _ => node text []
  | .str text => node text []
  | .arr items => node "" (ofItems items)
  | .obj fields => node "" (ofFields fields)

def ofItems : List Value → List (String × Tree)
  | [] => []
  | item :: rest => ("", ofJson item) :: ofItems rest

def ofFields : List (String × Value) → List (String × Tree)
  | [] => []
  | (name, value) :: rest => (name, ofJson value) :: ofFields rest

end

mutual

/-- Text and children cannot be written together. -/
def writable : Tree → Bool
  | node data children => (data = "" || children.isEmpty) && childrenWritable children

def childrenWritable : List (String × Tree) → Bool
  | [] => true
  | (_, child) :: rest => child.writable && childrenWritable rest

end

def unnamed (children : Fields Tree) : Bool :=
  children.all fun child => child.1 = ""

mutual

def toJson : Tree → Value
  | node data [] => .str data
  | node _ (child :: rest) =>
    if unnamed (child :: rest) then .arr (toItems (child :: rest))
    else .obj (toFields (child :: rest))

def toItems : List (String × Tree) → List Value
  | [] => []
  | (_, child) :: rest => child.toJson :: toItems rest

def toFields : List (String × Tree) → List (String × Value)
  | [] => []
  | (name, child) :: rest => (name, child.toJson) :: toFields rest

end

/-- What `write_json` prints: always an object on the outside. -/
def write (tree : Tree) : Option Value :=
  if tree.data = "" ∧ childrenWritable tree.children then some (.obj (toFields tree.children))
  else none

/-! ## What is read back -/

mutual

theorem ofJson_toJson : (tree : Tree) → tree.writable → ofJson tree.toJson = tree
  | node data [], _ => rfl
  | node data (child :: rest), writable => by
    simp only [Tree.writable, List.isEmpty_cons, Bool.or_false, Bool.and_eq_true,
      decide_eq_true_eq] at writable
    obtain ⟨rfl, writable⟩ := writable
    rw [toJson]
    split
    next names =>
      rw [ofJson, ofItems_toItems (child :: rest) writable names]
    next => rw [ofJson, ofFields_toFields (child :: rest) writable]

theorem ofItems_toItems : (children : List (String × Tree)) → childrenWritable children →
    unnamed children → ofItems (toItems children) = children
  | [], _, _ => rfl
  | (name, child) :: rest, writable, names => by
    simp only [childrenWritable, Bool.and_eq_true] at writable
    simp only [unnamed, List.all_cons, Bool.and_eq_true, decide_eq_true_eq] at names
    rw [toItems, ofItems, ofJson_toJson child writable.1, ofItems_toItems rest writable.2 names.2,
      names.1]

theorem ofFields_toFields : (children : List (String × Tree)) → childrenWritable children →
    ofFields (toFields children) = children
  | [], _ => rfl
  | (name, child) :: rest, writable => by
    simp only [childrenWritable, Bool.and_eq_true] at writable
    rw [toFields, ofFields, ofJson_toJson child writable.1, ofFields_toFields rest writable.2]

end

mutual

theorem writable_ofJson : (value : Value) → (ofJson value).writable
  | .null | .bool _ | .num _ | .real _ _ | .str _ => by
    simp [ofJson, writable, childrenWritable]
  | .arr items => by
    simp [ofJson, writable, childrenWritable_ofItems items]
  | .obj fields => by
    simp [ofJson, writable, childrenWritable_ofFields fields]

theorem childrenWritable_ofItems : (items : List Value) → childrenWritable (ofItems items)
  | [] => rfl
  | item :: rest => by
    simp [ofItems, childrenWritable, writable_ofJson item, childrenWritable_ofItems rest]

theorem childrenWritable_ofFields : (fields : List (String × Value)) →
    childrenWritable (ofFields fields)
  | [] => rfl
  | (name, value) :: rest => by
    simp [ofFields, childrenWritable, writable_ofJson value, childrenWritable_ofFields rest]

end

variable {tree : Tree} {value : Value} {name other : String}

/-- A file that was written reads as the tree it was written from. -/
theorem ofJson_of_write (written : tree.write = some value) : ofJson value = tree := by
  obtain ⟨data, children⟩ := tree
  by_cases possible : data = "" ∧ childrenWritable children
  · rw [write, data_node, children_node, if_pos possible] at written
    obtain ⟨rfl, writable⟩ := possible
    cases written
    rw [ofJson, ofFields_toFields children writable]
  · rw [write, data_node, children_node, if_neg possible] at written
    cases written

/-! ## Paths of one and two names -/

def child? (name : String) (tree : Tree) : Option Tree :=
  List.lookup name tree.children

/-- `put_value`. -/
def putValue (text : String) : Tree → Tree
  | node _ children => node text children

/-- `put_child`. -/
def putChild (tree : Tree) (name : String) (child : Tree) : Tree :=
  node tree.data (Fields.put name child tree.children)

/-- `put` of a text: only the text of a child that exists is replaced. -/
def put (name text : String) (tree : Tree) : Tree :=
  tree.putChild name (((tree.child? name).getD empty).putValue text)

/-- The child that a longer path goes through, made when it is missing. -/
def update (name : String) (change : Tree → Tree) (tree : Tree) : Tree :=
  tree.putChild name (change ((tree.child? name).getD empty))

@[simp] theorem child?_putChild_self {child : Tree} :
    (tree.putChild name child).child? name = some child :=
  Fields.lookup_put_self

theorem child?_putChild_of_ne {child : Tree} (different : other ≠ name) :
    (tree.putChild name child).child? other = tree.child? other :=
  Fields.lookup_put_of_ne different

theorem child?_put_of_ne {text : String} (different : other ≠ name) :
    (tree.put name text).child? other = tree.child? other :=
  child?_putChild_of_ne different

theorem child?_update_self {change : Tree → Tree} :
    (tree.update name change).child? name = some (change ((tree.child? name).getD empty)) :=
  child?_putChild_self

theorem child?_update_of_ne {change : Tree → Tree} (different : other ≠ name) :
    (tree.update name change).child? other = tree.child? other :=
  child?_putChild_of_ne different

theorem ofFields_put (fields : Fields Value) :
    ofFields (Fields.put name value fields) = Fields.put name (ofJson value) (ofFields fields) := by
  induction fields with
  | nil => rfl
  | cons field rest ih =>
    obtain ⟨first, old⟩ := field
    by_cases same : name = first
    · simp [Fields.put, ofFields, same]
    · simp [Fields.put, ofFields, same, ih]

end Tree

end UmbraHost.Json
