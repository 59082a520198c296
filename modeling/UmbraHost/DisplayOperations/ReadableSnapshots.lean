import UmbraHost.DisplayOperations.SnapshotText

/-! # Which snapshot files can be read

The scanners go through any text, but the conversion of a number leaves the load with an
exception when no number stands there or it does not fit. -/

namespace UmbraHost.DisplayOperations

open UmbraHost.DisplayHelper

variable {α β : Type}

/-! ## Returning -/

def Returns (result : Except Thrown α) : Prop := ∃ value, result = .ok value

@[simp] theorem returns_ok (value : α) : Returns (.ok value) := ⟨value, rfl⟩

@[simp] theorem returns_pure (value : α) : Returns (pure value) := ⟨value, rfl⟩

@[simp] theorem not_returns_error (thrown : Thrown) :
    ¬ Returns (.error thrown : Except Thrown α) := by
  rintro ⟨value, same⟩
  cases same

theorem returns_bind {first : Except Thrown α} {next : α → Except Thrown β} :
    Returns (first >>= next) ↔ ∃ value, first = .ok value ∧ Returns (next value) := by
  cases first with
  | error thrown =>
      constructor
      · intro returns
        exact absurd returns (not_returns_error thrown)
      · rintro ⟨value, same, -⟩
        cases same
  | ok value =>
      constructor
      · intro returns
        exact ⟨value, rfl, returns⟩
      · rintro ⟨value, same, returns⟩
        cases same
        exact returns

/-- When what follows depends on the value for its result only, both have to return. -/
theorem returns_bind_and {first : Except Thrown α} {next : α → Except Thrown β} {rest : Prop}
    (after : ∀ value, Returns (next value) ↔ rest) :
    Returns (first >>= next) ↔ Returns first ∧ rest := by
  rw [returns_bind]
  constructor
  · rintro ⟨value, same, returns⟩
    exact ⟨⟨value, same⟩, (after value).mp returns⟩
  · rintro ⟨⟨value, same⟩, returns⟩
    exact ⟨value, same, (after value).mpr returns⟩

theorem returns_bind_of {first : Except Thrown α} {next : α → Except Thrown β}
    (after : ∀ value, Returns (next value)) : Returns (first >>= next) ↔ Returns first := by
  rw [returns_bind_and fun value => iff_true_intro (after value), and_true]

/-! ## Numbers -/

/-- A number that fits stands at the beginning of the text. -/
def Number (fits : Int → Bool) (text : Text) : Prop :=
  ∃ value, Json.integer? (String.ofList text) = some value ∧ fits value = true

theorem returns_convert {fits : Int → Bool} {text : Text} :
    Returns (convert fits text) ↔ Number fits text := by
  rw [convert, Number]
  cases Json.integer? (String.ofList text) with
  | none => simp
  | some value =>
      dsimp only
      by_cases inside : fits value = true
      · simp [inside]
      · simp [inside]

theorem returns_stoul {text : Text} : Returns (stoul text) ↔ Number fitsUnsignedLong text := by
  rw [stoul, returns_bind_of fun _ => returns_pure _, returns_convert]

theorem returns_parseField (zero : α) {number : Text → Except Thrown α} {object : Text}
    {key : String} : Returns (parseField zero number object key) ↔
      ∀ text, valueText? key object = some text → Returns (number text) := by
  rw [parseField]
  cases valueText? key object with
  | none => simp
  | some text => simp

/-- Each of the fields that the object has is a number that fits. -/
def NumbersFit (fits : Int → Bool) (keys : List String) (object : Text) : Prop :=
  ∀ key ∈ keys, ∀ text, valueText? key object = some text → Number fits text

theorem numbersFit_cons {fits : Int → Bool} {key : String} {keys : List String} {object : Text} :
    NumbersFit fits (key :: keys) object ↔
      (∀ text, valueText? key object = some text → Number fits text) ∧
        NumbersFit fits keys object :=
  List.forall_mem_cons

theorem numbersFit_nil {fits : Int → Bool} {object : Text} : NumbersFit fits [] object :=
  List.forall_mem_nil _

theorem returns_readMode {object : Text} : Returns (readMode object) ↔
    NumbersFit fitsUnsignedLong ["w", "h", "num", "den"] object := by
  simp only [numbersFit_cons, numbersFit_nil, and_true, ← returns_stoul]
  simp only [← returns_parseField 0]
  rw [readMode]
  refine returns_bind_and fun width => returns_bind_and fun height => ?_
  exact returns_bind_and fun numerator => returns_bind_of fun denominator => returns_pure _

theorem returns_readOrigin {object : Text} : Returns (readOrigin object) ↔
    NumbersFit fitsInt ["x", "y"] object := by
  simp only [numbersFit_cons, numbersFit_nil, and_true, ← returns_convert]
  simp only [← returns_parseField (0 : Int)]
  rw [readOrigin]
  exact returns_bind_and fun x => returns_bind_of fun y => returns_pure _

/-! ## Objects -/

/-- The names and objects that the loop over a field cuts out of the text. -/
def objects (rest : Text) : List (String × Text) :=
  match _next : nextObject? rest with
  | none => []
  | some (id, object, following) => (id, object) :: objects following
termination_by rest.length
decreasing_by exact length_of_nextObject? _next

theorem returns_parseObjects {read : Text → Except Thrown α} (rest : Text)
    (found : List (String × α)) : Returns (parseObjects read found rest) ↔
      ∀ object ∈ objects rest, Returns (read object.2) := by
  fun_induction objects rest generalizing found with
  | case1 rest last =>
      rw [parseObjects]
      split
      next => simp
      next next => cases last.symm.trans next
  | case2 rest id object following next ih =>
      rw [parseObjects]
      split
      next last => cases next.symm.trans last
      next same =>
        cases next.symm.trans same
        rw [returns_bind_and fun value => ih (emplace id value found), List.forall_mem_cons]

def fieldObjects (text : Text) (key : String) : List (String × Text) :=
  match find? '{' (findStrSection text key) with
  | none => []
  | some brace => objects brace.tail

theorem returns_parseObjectField {read : Text → Except Thrown α} {text : Text} {key : String} :
    Returns (parseObjectField read (findStrSection text key)) ↔
      ∀ object ∈ fieldObjects text key, Returns (read object.2) := by
  rw [parseObjectField, fieldObjects]
  cases find? '{' (findStrSection text key) with
  | none => simp
  | some brace => exact returns_parseObjects brace.tail []

/-! ## Files -/

/-- The fields of the modes and origins that the file has are numbers that fit. -/
structure Readable (text : Text) : Prop where
  modes : ∀ object ∈ fieldObjects text "modes",
    NumbersFit fitsUnsignedLong ["w", "h", "num", "den"] object.2
  origins : ∀ object ∈ fieldObjects text "origins", NumbersFit fitsInt ["x", "y"] object.2

section

variable (parseJson : Text → Json.Value)

theorem returns_parseSnapshotText (text : Text) :
    Returns (parseSnapshotText parseJson text) ↔ Readable text := by
  have modes : Returns (parseModesField (findStrSection text "modes")) ↔
      ∀ object ∈ fieldObjects text "modes",
        NumbersFit fitsUnsignedLong ["w", "h", "num", "den"] object.2 := by
    rw [parseModesField, returns_parseObjectField]
    exact forall₂_congr fun _ _ => returns_readMode
  have origins : Returns (parseOriginsField (findStrSection text "origins")) ↔
      ∀ object ∈ fieldObjects text "origins", NumbersFit fitsInt ["x", "y"] object.2 := by
    rw [parseOriginsField, returns_parseObjectField]
    exact forall₂_congr fun _ _ => returns_readOrigin
  rw [parseSnapshotText]
  refine (returns_bind_and fun _ => returns_bind_of fun _ => returns_pure _).trans ?_
  rw [modes, origins]
  constructor
  · rintro ⟨modes, origins⟩
    exact ⟨modes, origins⟩
  · rintro ⟨modes, origins⟩
    exact ⟨modes, origins⟩

theorem returns_loadWithMetadata (file : Option Text) :
    Returns (loadWithMetadata parseJson file) ↔ ∀ text ∈ file, Readable text := by
  cases file with
  | none => simp [loadWithMetadata]
  | some text =>
      rw [loadWithMetadata, returns_bind_of, returns_parseSnapshotText]
      · simp
      · intro loaded
        split
        · exact returns_pure _
        · exact returns_pure _

/-- A load comes back, with a snapshot or without one, exactly when the numbers of the file can
be converted; otherwise the exception reaches whoever walks through the tiers. -/
theorem load_returns_iff (file : Option Text) (devices : List EnumeratedDevice)
    (exclusions : List String) :
    (Returns (loadWithMetadata parseJson file) ↔ ∀ text ∈ file, Readable text) ∧
    (Returns (loadFilteredFile parseJson file devices exclusions) ↔
      ∀ text ∈ file, Readable text) := by
  refine ⟨returns_loadWithMetadata parseJson file, ?_⟩
  rw [loadFilteredFile, returns_bind_of, returns_loadWithMetadata]
  intro loaded
  cases loaded with
  | none => exact returns_pure _
  | some loaded => exact returns_pure _

end

/-- A file whose width was lost. -/
theorem load_throws : loadWithMetadata (fun _ => .null)
    (some "\x7b\"topology\": [[\"A\"]], \"modes\": \x7b\"A\": \x7b\"w\": \x7d\x7d\x7d".toList) =
      .error .invalidArgument := by
  decide +kernel

end UmbraHost.DisplayOperations
