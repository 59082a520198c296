import UmbraHost.DisplayOperations.LoadFilter
import UmbraHost.Json.Access

/-! # Reading a snapshot file

The scanners of `snapshot_codec.cpp` over the text of a snapshot, which may be anything.  A
position in the text is the rest of the text from there, and each byte is one character. -/

namespace UmbraHost.DisplayOperations

open UmbraHost.DisplayHelper

abbrev Text := List Char

/-! ## Numbers -/

/-- What `std::stoul` and `std::stoi` throw. -/
inductive Thrown where
  | invalidArgument
  | outOfRange
deriving DecidableEq, Repr

/-- A conversion of the number that a text begins with. -/
def convert (fits : Int → Bool) (text : Text) : Except Thrown Int :=
  match Json.integer? (String.ofList text) with
  | none => .error .invalidArgument
  | some value => if fits value then .ok value else .error .outOfRange

/-- An `unsigned long` has 32 bits on Windows, and a minus sign does not count. -/
def fitsUnsignedLong (value : Int) : Bool := value.natAbs < 2 ^ 32

def fitsInt (value : Int) : Bool := -2 ^ 31 ≤ value && value < 2 ^ 31

def stoul (text : Text) : Except Thrown Nat := do
  let value ← convert fitsUnsignedLong text
  return (value % 2 ^ 32).toNat

def stoi : Text → Except Thrown Int := convert fitsInt

/-! ## Searching -/

/-- `find` of one character: the text from its first occurrence on. -/
def find? (mark : Char) (text : Text) : Option Text :=
  match text.dropWhile (· ≠ mark) with
  | [] => none
  | here => some here

/-- `find` of a text between quotes. -/
def findQuoted? (key : String) (text : Text) : Option Text :=
  text.tails.find? ('"' :: key.toList ++ ['"']).isPrefixOf

/-- What stands after the key and the next colon. -/
def valueText? (key : String) (text : Text) : Option Text := do
  let named ← findQuoted? key text
  let colon ← find? ':' named
  return colon.tail

def findStrSection (data : Text) (key : String) : Text :=
  (valueText? key data).getD []

/-- `parse_num_field` and `parse_signed_num_field`: an absent field is zero. -/
def parseField {α : Type} (zero : α) (number : Text → Except Thrown α) (object : Text)
    (key : String) : Except Thrown α :=
  match valueText? key object with
  | none => .ok zero
  | some text => number text

def parseNumField : Text → String → Except Thrown Nat := parseField 0 stoul

def parseSignedNumField : Text → String → Except Thrown Int := parseField 0 stoi

theorem length_dropWhile_le (test : Char → Bool) (text : Text) :
    (text.dropWhile test).length ≤ text.length :=
  (List.dropWhile_sublist test).length_le

theorem length_of_find? {mark : Char} {text here : Text} (found : find? mark text = some here) :
    here.length ≤ text.length ∧ 0 < here.length := by
  have shorter := length_dropWhile_le (· ≠ mark) text
  rw [find?] at found
  split at found
  case h_1 => cases found
  case h_2 nonempty =>
    cases found
    exact ⟨shorter, List.length_pos_iff.mpr nonempty⟩

/-! ## The fields -/

def parsePrimaryField (prim : Text) : String :=
  match find? '"' prim with
  | none => ""
  | some opening =>
    match find? '"' opening.tail with
    | none => ""
    | some _ => String.ofList (opening.tail.takeWhile (· ≠ '"'))

/-- The quoted names up to the end of the group, and where the scan of the group stops. -/
def groupDevices (rest : Text) : List String × Text :=
  match _stop : rest.dropWhile fun char => char ≠ '"' && char ≠ ']' with
  | '"' :: after =>
    match _closing : find? '"' after with
    | none => ([], '"' :: after)
    | some quote =>
      let following := groupDevices quote.tail
      (String.ofList (after.takeWhile (· ≠ '"')) :: following.1, following.2)
  | last => ([], last)
termination_by rest.length
decreasing_by
  have scanned := length_dropWhile_le (fun char => char ≠ '"' && char ≠ ']') rest
  have named := length_of_find? _closing
  rw [_stop, List.length_cons] at scanned
  rw [List.length_tail]
  omega

theorem length_groupDevices (rest : Text) : (groupDevices rest).2.length ≤ rest.length := by
  fun_induction groupDevices rest with
  | case1 rest after stop none =>
    have scanned := length_dropWhile_le (fun char => char ≠ '"' && char ≠ ']') rest
    rwa [stop] at scanned
  | case2 rest after stop quote closing following shorter =>
    have scanned := length_dropWhile_le (fun char => char ≠ '"' && char ≠ ']') rest
    have named := length_of_find? closing
    rw [stop, List.length_cons] at scanned
    rw [List.length_tail] at shorter
    have bound : (groupDevices quote.tail).2.length ≤ rest.length := by omega
    exact bound
  | case3 rest => exact length_dropWhile_le _ rest

/-- The groups of the topology, from behind the bracket that opens it. -/
def parseGroups (rest : Text) : ActiveTopology :=
  match _stop : rest.dropWhile fun char => char ≠ '[' && char ≠ ']' with
  | '[' :: inside =>
    let group := groupDevices inside
    group.1 :: parseGroups (group.2.dropWhile (· ≠ ']')).tail
  | _ => []
termination_by rest.length
decreasing_by
  have scanned := length_dropWhile_le (fun char => char ≠ '[' && char ≠ ']') rest
  have grouped := length_groupDevices inside
  have skipped := length_dropWhile_le (· ≠ ']') (groupDevices inside).2
  rw [_stop, List.length_cons] at scanned
  rw [List.length_tail]
  omega

def parseTopologyField (topology : Text) : ActiveTopology :=
  match find? '[' topology with
  | none => []
  | some bracket => parseGroups bracket.tail

/-- `emplace` of `std::map`: an entry that is there stays. -/
def emplace {α : Type} (key : String) (value : α) : List (String × α) → List (String × α)
  | [] => [(key, value)]
  | entry :: rest =>
    if key < entry.1 then (key, value) :: entry :: rest
    else if key = entry.1 then entry :: rest
    else entry :: emplace key value rest

/-- The next quoted name, the braces after it without the one that closes them, and the rest. -/
def nextObject? (rest : Text) : Option (String × Text × Text) :=
  match rest.dropWhile fun char => char ≠ '"' && char ≠ '}' with
  | '"' :: after => do
    let quote ← find? '"' after
    let brace ← find? '{' quote
    let ending ← find? '}' brace
    return (String.ofList (after.takeWhile (· ≠ '"')), brace.takeWhile (· ≠ '}'), ending.tail)
  | _ => none

theorem length_of_nextObject? {rest following object : Text} {id : String}
    (next : nextObject? rest = some (id, object, following)) :
    following.length < rest.length := by
  have scanned := length_dropWhile_le (fun char => char ≠ '"' && char ≠ '}') rest
  rw [nextObject?] at next
  split at next
  case h_2 => cases next
  case h_1 after stop =>
    simp only [Option.bind_eq_bind, Option.bind_eq_some_iff, Option.pure_def, Option.some.injEq,
      Prod.mk.injEq] at next
    obtain ⟨quote, closing, brace, opened, ending, closed, -, -, rfl⟩ := next
    have named := length_of_find? closing
    have braced := length_of_find? opened
    have ended := length_of_find? closed
    rw [stop, List.length_cons] at scanned
    rw [List.length_tail]
    omega

/-- The loop of `parse_modes_field` and `parse_origins_field`. -/
def parseObjects {α : Type} (read : Text → Except Thrown α) (found : List (String × α))
    (rest : Text) : Except Thrown (List (String × α)) :=
  match _next : nextObject? rest with
  | none => .ok found
  | some (id, object, following) => do
    let value ← read object
    parseObjects read (emplace id value found) following
termination_by rest.length
decreasing_by exact length_of_nextObject? _next

def parseObjectField {α : Type} (read : Text → Except Thrown α) (field : Text) :
    Except Thrown (List (String × α)) :=
  match find? '{' field with
  | none => .ok []
  | some brace => parseObjects read [] brace.tail

def readMode (object : Text) : Except Thrown DisplayMode := do
  let width ← parseNumField object "w"
  let height ← parseNumField object "h"
  let numerator ← parseNumField object "num"
  let denominator ← parseNumField object "den"
  return { resolution := { width, height }, refreshRate := { numerator, denominator } }

def parseModesField : Text → Except Thrown (List (String × DisplayMode)) :=
  parseObjectField readMode

def readOrigin (object : Text) : Except Thrown Point := do
  let x ← parseSignedNumField object "x"
  let y ← parseSignedNumField object "y"
  return { x, y }

def parseOriginsField : Text → Except Thrown (List (String × Point)) :=
  parseObjectField readOrigin

/-- The next quoted name, the state after its colon, and the rest. -/
def nextHdrState? (rest : Text) : Option (String × Option HdrState × Text) :=
  match rest.dropWhile fun char => char ≠ '"' && char ≠ '}' with
  | '"' :: after => do
    let quote ← find? '"' after
    let colon ← find? ':' quote
    let value := colon.tail.dropWhile fun char => char = ' ' || char = '"'
    let state :=
      if ['o', 'n'].isPrefixOf value then some .enabled
      else if ['o', 'f', 'f'].isPrefixOf value then some .disabled
      else none
    let following :=
      match value.dropWhile fun char => char ≠ ',' && char ≠ '}' with
      | ',' :: following => following
      | ending => ending
    return (String.ofList (after.takeWhile (· ≠ '"')), state, following)
  | _ => none

theorem length_of_nextHdrState? {rest following : Text} {id : String} {state : Option HdrState}
    (next : nextHdrState? rest = some (id, state, following)) :
    following.length < rest.length := by
  have scanned := length_dropWhile_le (fun char => char ≠ '"' && char ≠ '}') rest
  rw [nextHdrState?] at next
  split at next
  case h_2 => cases next
  case h_1 after stop =>
    simp only [Option.bind_eq_bind, Option.bind_eq_some_iff, Option.pure_def, Option.some.injEq,
      Prod.mk.injEq] at next
    obtain ⟨quote, closing, colon, marked, -, -, final⟩ := next
    have named := length_of_find? closing
    have valued := length_of_find? marked
    have blanks := length_dropWhile_le (fun char => char = ' ' || char = '"') colon.tail
    have ending := length_dropWhile_le (fun char => char ≠ ',' && char ≠ '}')
      (colon.tail.dropWhile fun char => char = ' ' || char = '"')
    rw [stop, List.length_cons] at scanned
    rw [List.length_tail] at blanks
    split at final
    case h_1 behind comma =>
      rw [comma, List.length_cons] at ending
      rw [← final]
      omega
    case h_2 =>
      rw [← final]
      omega

def parseHdrStates (found : List (String × Option HdrState)) (rest : Text) :
    List (String × Option HdrState) :=
  match _next : nextHdrState? rest with
  | none => found
  | some (id, state, following) => parseHdrStates (emplace id state found) following
termination_by rest.length
decreasing_by exact length_of_nextHdrState? _next

def parseHdrField (hdr : Text) : List (String × Option HdrState) :=
  match find? '{' hdr with
  | none => []
  | some brace => parseHdrStates [] brace.tail

/-! ## The members read as JSON -/

def normalizeRotationDegrees (degrees : Int) : Option Int :=
  let normalized := degrees.tmod 360
  let normalized := if normalized < 0 then normalized + 360 else normalized
  if normalized ∈ [0, 90, 180, 270] then some normalized else none

/-- `get<int>()` of an integer. -/
def toInt (value : Int) : Int := value.bmod (2 ^ 32)

mutual

def parseLayoutRotationValue : Json.Value → Option Int
  | .num degrees => normalizeRotationDegrees (toInt degrees)
  | .str name =>
    let rotationName := name.map Char.toLower
    if rotationName = "landscape" then some 0
    else if rotationName = "portrait" then some 90
    else if rotationName = "landscape_flipped" || rotationName = "landscape_inverted" then some 180
    else if rotationName = "portrait_flipped" || rotationName = "portrait_inverted" then some 270
    else none
  | .obj fields => rotationMember fields
  | _ => none

def rotationMember : List (String × Json.Value) → Option Int
  | [] => none
  | (name, value) :: rest =>
    if name = "rotation" then parseLayoutRotationValue value else rotationMember rest

end

def parseSnapshotVersion (root : Json.Value) : Int :=
  match root.find? "snapshot_version" with
  | some (.num version) => max 1 (toInt version)
  | _ => 1

/-- Whether there are layouts, and their rotations by name. -/
def parseLayoutsField (root : Json.Value) : Bool × LayoutRotations :=
  match root.find? "layouts" with
  | some (.obj layouts) =>
    (true, layouts.filterMap fun layout =>
      if layout.1 = "" then none
      else (parseLayoutRotationValue layout.2).map fun rotation => (layout.1, rotation))
  | _ => (false, [])

/-! ## Loading -/

section

variable (parseJson : Text → Json.Value)

/-- `parse_snapshot_text`, given what the JSON parser makes of a text.  What is not JSON is no
object. -/
def parseSnapshotText (data : Text) : Except Thrown ParsedSnapshot := do
  let root := parseJson data
  let modes ← parseModesField (findStrSection data "modes")
  let origins ← parseOriginsField (findStrSection data "origins")
  return {
    snapshot := {
      topology := parseTopologyField (findStrSection data "topology")
      modes
      hdrStates := parseHdrField (findStrSection data "hdr")
      primaryDevice := parsePrimaryField (findStrSection data "primary")
      origins }
    snapshotVersion := parseSnapshotVersion root
    hasLayoutData := (parseLayoutsField root).1
    layoutRotations := (parseLayoutsField root).2 }

/-- `FileSnapshotStorage::load_with_metadata`, from the text of the file. -/
def loadWithMetadata : Option Text → Except Thrown (Option ParsedSnapshot)
  | none => .ok none
  | some text => do
    let loaded ← parseSnapshotText parseJson text
    if loaded.snapshot.topology = [] ∧ loaded.snapshot.modes = [] then return none
    else return some loaded

/-- `RecoveryOperation::load_filtered` from a stored file. -/
def loadFilteredFile (file : Option Text) (devices : List EnumeratedDevice)
    (exclusions : List String) : Except Thrown (Option ParsedSnapshot) := do
  let loaded ← loadWithMetadata parseJson file
  match loaded with
  | none => return none
  | some loaded => return filterLoadedSnapshot loaded devices exclusions

end

end UmbraHost.DisplayOperations
