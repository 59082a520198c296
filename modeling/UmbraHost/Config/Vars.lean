import Mathlib.Data.List.DropRight

/-! # Configuration files

How `config.cpp` splits a configuration file into options, and the layers of options it
merges.  A file is a list of bytes, each one character, and a position in it is the rest of
the file from there. -/

namespace UmbraHost.Config

abbrev Text := List Char

/-- The text of every option that is given. -/
abbrev Vars := String → Option String

namespace Vars

variable {vars : Vars} {name other text : String}

def empty : Vars := fun _ => none

def erase (vars : Vars) (name : String) : Vars :=
  fun other => if other = name then none else vars other

def insertOrAssign (vars : Vars) (name text : String) : Vars :=
  fun other => if other = name then some text else vars other

/-- `emplace` keeps the text that is there. -/
def emplace (vars : Vars) (name text : String) : Vars :=
  if (vars name).isSome then vars else vars.insertOrAssign name text

/-- The text of an old name goes to the new one, if that is not given. -/
def remapOption (old new : String) (vars : Vars) : Vars :=
  match vars old with
  | none => vars
  | some text => (vars.emplace new text).erase old

@[simp] theorem erase_self : vars.erase name name = none := if_pos rfl

theorem erase_of_ne (different : other ≠ name) : vars.erase name other = vars other :=
  if_neg different

@[simp] theorem insertOrAssign_self : vars.insertOrAssign name text name = some text := if_pos rfl

theorem insertOrAssign_of_ne (different : other ≠ name) :
    vars.insertOrAssign name text other = vars other :=
  if_neg different

theorem emplace_of_ne (different : other ≠ name) :
    vars.emplace name text other = vars other := by
  unfold emplace
  split
  · rfl
  · exact insertOrAssign_of_ne different

theorem remapOption_of_ne {old new : String} (first : other ≠ old) (second : other ≠ new) :
    remapOption old new vars other = vars other := by
  rw [remapOption]
  cases vars old with
  | none => rfl
  | some text => exact (erase_of_ne first).trans (emplace_of_ne second)

end Vars

/-! ## Characters -/

def endline (ch : Char) : Bool := ch == '\r' || ch == '\n'

def spaceTab (ch : Char) : Bool := ch == ' ' || ch == '\t'

def whitespace (ch : Char) : Bool := spaceTab ch || endline ch

/-- A text without its comments, each of which ends where its line does. -/
def uncommented (commented : Bool) : Text → Text
  | [] => []
  | ch :: rest =>
    if endline ch then ch :: uncommented false rest
    else if commented || ch == '#' then uncommented true rest
    else ch :: uncommented false rest

/-- `to_string` of a range of the file. -/
def toString (range : Text) : String := String.ofList (uncommented false range)

def normalizeConfigKey (key : String) : String :=
  String.ofList (key.toList.dropWhile fun ch => !(ch.isAlphanum || ch == '_'))

/-! ## Options -/

/-- What stands behind the brackets that are still open. -/
def skipList (stack : Nat) : Text → Text
  | [] => []
  | ch :: rest =>
    if stack = 0 then ch :: rest
    else skipList (if ch = '[' then stack + 1 else if ch = ']' then stack - 1 else stack) rest

theorem length_skipList_le (stack : Nat) (text : Text) :
    (skipList stack text).length ≤ text.length := by
  induction text generalizing stack with
  | nil => exact Nat.le_refl 0
  | cons ch rest ih =>
    by_cases closed : stack = 0
    · simp only [skipList, closed, if_true, Nat.le_refl]
    · simp only [skipList, closed, if_false]
      exact Nat.le_trans (ih _) (Nat.le_succ _)

/-- The next option of a file and what stands behind it.  A value that opens a bracket runs
to its end, over the ends of lines. -/
def parseOption (file : Text) : Text × Option (String × String) :=
  let start := file.dropWhile whitespace
  let line := start.takeWhile (!endline ·)
  let endl := start.drop line.length
  let content := (line.takeWhile (· != '#')).rdropWhile whitespace
  let eq := content.idxOf '='
  if eq = content.length ∨ eq = 0 then (endl, none)
  else
    let name := (content.take eq).rdropWhile spaceTab
    let blanks := (content.drop (eq + 1)).takeWhile spaceTab
    let value := eq + 1 + blanks.length
    if value = line.length then (endl, none)
    else
      match start.drop value with
      | '[' :: rest =>
        let behind := skipList 1 rest
        let list := '[' :: rest.take (rest.length - behind.length)
        (behind, if rest.isEmpty then none else some (toString name, toString list))
      | _ => (endl, some (toString name, toString (line.drop value)))

theorem length_parseOption_le (file : Text) : (parseOption file).1.length ≤ file.length := by
  have start : (file.dropWhile whitespace).length ≤ file.length :=
    (List.dropWhile_suffix _).length_le
  have behind (count : Nat) :
      ((file.dropWhile whitespace).drop count).length ≤ file.length :=
    Nat.le_trans (List.drop_suffix _ _).length_le start
  unfold parseOption
  dsimp only
  split
  · exact behind _
  · split
    · exact behind _
    · split
      · rename_i rest found
        have opened : ('[' :: rest).length ≤ file.length := found ▸ behind _
        have rest_le : rest.length ≤ file.length := Nat.le_trans (Nat.le_succ _) opened
        exact Nat.le_trans (length_skipList_le _ _) rest_le
      · exact behind _

/-- What the loop goes on with: the end of a line is one character, or two with a carriage
return. -/
def afterLine : Text → Text
  | [] => []
  | ch :: rest => if ch = '\r' then rest.tail else rest

theorem length_afterLine_le (text : Text) : (afterLine text).length ≤ text.length - 1 := by
  cases text with
  | nil => exact Nat.le_refl 0
  | cons ch rest =>
    rw [afterLine]
    split
    · simp
    · simp

/-- The options of a file in its order. -/
def options : Text → List (String × String)
  | [] => []
  | ch :: rest =>
    (parseOption (ch :: rest)).2.toList ++ options (afterLine (parseOption (ch :: rest)).1)
termination_by file => file.length
decreasing_by
  have option := length_parseOption_le (ch :: rest)
  have line := length_afterLine_le (parseOption (ch :: rest)).1
  simp only [List.length_cons] at option ⊢
  omega

/-- The first text of an option counts. -/
def parseConfig (fileContent : Text) : Vars :=
  (options fileContent).foldl (fun vars (key, text) =>
    let name := normalizeConfigKey key
    if name = "" then vars else vars.emplace name text) Vars.empty

/-! ## Layers -/

def adapterNameKey : String := "adapter_name"

def adapterPnpIdKey : String := "adapter_pnp_id"

/-- The overrides win, and the two options that identify an adapter go together. -/
def mergeConfigOverrides (base overrides : Vars) : Vars :=
  let merged : Vars := fun name =>
    if name = adapterPnpIdKey then base name else (overrides name).or (base name)
  match overrides adapterNameKey with
  | none => merged
  | some "" => merged.erase adapterPnpIdKey
  | some _ =>
    match overrides adapterPnpIdKey with
    | none | some "" => merged.erase adapterPnpIdKey
    | some id => merged.insertOrAssign adapterPnpIdKey id

end UmbraHost.Config
