import UmbraHost.DisplayOperations.SnapshotText
import UmbraHost.Json.Text

/-! # Writing a snapshot file

`serialize_snapshot` of `snapshot_codec.cpp`, and how the searches of the scanners go through
the text it writes. -/

namespace UmbraHost.DisplayOperations

open UmbraHost.DisplayHelper
open UmbraHost.Json (quoted commas array member object plain blank closes Reads)

/-! ## The writer -/

/-- `std::to_string`. -/
def toText (number : Int) : Text := (Json.decimal number).toList

def literal (text : String) : Text := text.toList

def serializeMode (mode : DisplayMode) : Text :=
  literal "\x7b \"w\": " ++ toText mode.resolution.width ++
  literal ", \"h\": " ++ toText mode.resolution.height ++
  literal ", \"num\": " ++ toText mode.refreshRate.numerator ++
  literal ", \"den\": " ++ toText mode.refreshRate.denominator ++ literal " \x7d"

def serializeHdrState : Option HdrState → Text
  | none => literal "null"
  | some .enabled => literal "\"on\""
  | some .disabled => literal "\"off\""

def serializeOrigin (origin : Point) : Text :=
  literal "\x7b \"x\": " ++ toText origin.x ++
  literal ", \"y\": " ++ toText origin.y ++ literal " \x7d"

def serializeRotation (rotation : Int) : Text :=
  literal "\x7b \"rotation\": " ++ toText rotation ++ literal " \x7d"

/-- The entries of a map, each on a line of its own. -/
def serializeMap {α : Type} (serialize : α → Text) (entries : List (String × α)) : Text :=
  commas (entries.map fun entry =>
    literal "\n    " ++ quoted entry.1 ++ literal ": " ++ serialize entry.2)

def serializeSnapshot (snap : Snapshot) (layoutRotations : LayoutRotations) : Text :=
  literal "\x7b\n  \"snapshot_version\": " ++ toText 2 ++ literal ",\n  \"topology\": [" ++
  commas (snap.topology.map fun group => literal "[" ++ commas (group.map quoted) ++ literal "]") ++
  literal "],\n  \"modes\": \x7b" ++ serializeMap serializeMode snap.modes ++
  literal "\n  \x7d,\n  \"hdr\": \x7b" ++ serializeMap serializeHdrState snap.hdrStates ++
  literal "\n  \x7d,\n  \"primary\": " ++ quoted snap.primaryDevice ++
  literal ",\n  \"origins\": \x7b" ++ serializeMap serializeOrigin snap.origins ++
  literal "\n  \x7d,\n  \"layouts\": \x7b" ++ serializeMap serializeRotation layoutRotations ++
  literal "\n  \x7d\n\x7d"

/-! ## The shape of the text -/

def line : Text := ['\n', ' ', ' ']

def entryLine : Text := ['\n', ' ', ' ', ' ', ' ']

/-- An object on one line. -/
def fields : List (String × Text) → Text := object [' '] [' ']

def entries {α : Type} (serialize : α → Text) (map : List (String × α)) : Text :=
  object entryLine line (map.map fun entry => (entry.1, serialize entry.2))

def modeFields (mode : DisplayMode) : List (String × Text) :=
  [("w", toText mode.resolution.width), ("h", toText mode.resolution.height),
    ("num", toText mode.refreshRate.numerator), ("den", toText mode.refreshRate.denominator)]

def originFields (origin : Point) : List (String × Text) :=
  [("x", toText origin.x), ("y", toText origin.y)]

theorem serializeMode_eq (mode : DisplayMode) : serializeMode mode = fields (modeFields mode) := by
  simp only [serializeMode, fields, modeFields, object, commas, member, quoted, List.map_cons,
    List.map_nil, List.append_assoc, List.cons_append, List.nil_append, literal,
    String.reduceToList]

theorem serializeOrigin_eq (origin : Point) :
    serializeOrigin origin = fields (originFields origin) := by
  simp only [serializeOrigin, fields, originFields, object, commas, member, quoted, List.map_cons,
    List.map_nil, List.append_assoc, List.cons_append, List.nil_append, literal,
    String.reduceToList]

theorem serializeRotation_eq (rotation : Int) :
    serializeRotation rotation = fields [("rotation", toText rotation)] := by
  simp only [serializeRotation, fields, object, commas, member, quoted, List.map_cons,
    List.map_nil, List.cons_append, List.nil_append, literal, String.reduceToList]

theorem serializeMap_eq {α : Type} (serialize : α → Text) (map : List (String × α)) :
    serializeMap serialize map =
      commas ((map.map fun entry => (entry.1, serialize entry.2)).map (member entryLine)) := by
  simp [serializeMap, member, entryLine, Function.comp_def, literal]

/-- The members of the file. -/
def parts (snap : Snapshot) (layoutRotations : LayoutRotations) : List (String × Text) :=
  [("snapshot_version", toText 2),
    ("topology", array (snap.topology.map fun group => array (group.map quoted))),
    ("modes", entries serializeMode snap.modes),
    ("hdr", entries serializeHdrState snap.hdrStates),
    ("primary", quoted snap.primaryDevice),
    ("origins", entries serializeOrigin snap.origins),
    ("layouts", entries serializeRotation layoutRotations)]

theorem serializeSnapshot_eq (snap : Snapshot) (layoutRotations : LayoutRotations) :
    serializeSnapshot snap layoutRotations = object line ['\n'] (parts snap layoutRotations) := by
  simp only [serializeSnapshot, parts, entries, serializeMap_eq, object, commas, member, quoted,
    array, line, List.map_cons, List.map_nil, List.append_assoc, List.cons_append, List.nil_append,
    literal, String.reduceToList]

/-! ## Searching the text -/

theorem passed_of_notMem {mark : Char} {before : Text} (absent : mark ∉ before) :
    ∀ char ∈ before, decide (char ≠ mark) = true := by
  intro char inside
  rw [decide_eq_true_eq]
  rintro rfl
  exact absent inside

theorem find?_append {mark : Char} {before : Text} (absent : mark ∉ before) (rest : Text) :
    find? mark (before ++ mark :: rest) = some (mark :: rest) := by
  rw [find?, List.dropWhile_append_of_pos (passed_of_notMem absent),
    List.dropWhile_cons_of_neg (by simp)]

theorem takeWhile_append {mark : Char} {before : Text} (absent : mark ∉ before) (rest : Text) :
    (before ++ mark :: rest).takeWhile (· ≠ mark) = before := by
  rw [List.takeWhile_append_of_pos (passed_of_notMem absent),
    List.takeWhile_cons_of_neg (by simp), List.append_nil]

theorem quote_notMem {text : String} (printable : text.toList.all plain) : '"' ∉ text.toList := by
  intro inside
  exact absurd (List.all_eq_true.mp printable _ inside) (by decide)

/-- A name that is searched for: no mark of the notation begins it or stands in it. -/
def Word (key : String) : Prop :=
  key.toList.all plain ∧ closes (key.toList ++ ['"']) = false ∧ ':' ∉ key.toList

instance (key : String) : Decidable (Word key) := inferInstanceAs (Decidable (_ ∧ _ ∧ _))

variable {key : String}

theorem findQuoted?_cons (char : Char) (rest : Text) : findQuoted? key (char :: rest) =
    if ('"' :: key.toList ++ ['"']).isPrefixOf (char :: rest) then some (char :: rest)
    else findQuoted? key rest := by
  change ((char :: rest) :: rest.tails).find? _ = _
  rw [List.find?_cons]
  split
  next found => rw [if_pos found]
  next missing =>
    rw [if_neg (Bool.eq_false_iff.mp missing)]
    rfl

theorem findQuoted?_append {before : Text} (absent : '"' ∉ before) (rest : Text) :
    findQuoted? key (before ++ rest) = findQuoted? key rest := by
  induction before with
  | nil => rfl
  | cons char before ih =>
      rw [List.mem_cons, not_or] at absent
      have other : ('"' :: key.toList ++ ['"']).isPrefixOf (char :: (before ++ rest)) = false := by
        rw [List.cons_append, List.isPrefixOf_cons_cons, beq_false_of_ne absent.1, Bool.false_and]
      rw [List.cons_append, findQuoted?_cons, if_neg (Bool.eq_false_iff.mp other),
        ih absent.2]

theorem findQuoted?_mark {char : Char} (other : '"' ≠ char) (rest : Text) :
    findQuoted? key (char :: rest) = findQuoted? key rest :=
  @findQuoted?_append key [char] (by simpa using other) rest

/-- Two texts without quotes that end at a quote. -/
theorem eq_of_begins_quoted {first second : Text} (one : '"' ∉ first) (two : '"' ∉ second)
    {rest : Text} (begins : first ++ ['"'] <+: second ++ '"' :: rest) : first = second := by
  obtain ⟨after, whole⟩ := begins
  have left := takeWhile_append one after
  have right := takeWhile_append two rest
  rw [List.append_assoc, List.singleton_append] at whole
  rw [whole] at left
  exact left.symm.trans right

theorem findQuoted?_here (key : String) (rest : Text) :
    findQuoted? key (quoted key ++ rest) = some (quoted key ++ rest) := by
  have begins : ('"' :: key.toList ++ ['"']).isPrefixOf (quoted key ++ rest) = true := by
    rw [List.isPrefixOf_iff_prefix]
    exact List.prefix_append _ _
  have shape : quoted key ++ rest = '"' :: (key.toList ++ ['"'] ++ rest) := rfl
  rw [shape] at begins ⊢
  rw [findQuoted?_cons, if_pos begins]

/-- The search passes a name between quotes, and the text between it and the next quote. -/
theorem findQuoted?_quoted (word : Word key) {name : String} (printable : name.toList.all plain)
    (other : name ≠ key) {rest : Text} (closing : closes rest) :
    findQuoted? key (quoted name ++ rest) = findQuoted? key rest := by
  have keyFree := quote_notMem word.1
  have nameFree := quote_notMem printable
  have shape : quoted name ++ rest = '"' :: (name.toList ++ '"' :: rest) := by simp [quoted]
  have opening : ¬ ('"' :: key.toList ++ ['"']).isPrefixOf
      ('"' :: (name.toList ++ '"' :: rest)) := by
    rw [List.isPrefixOf_iff_prefix, List.cons_append, List.prefix_cons_inj]
    intro begins
    exact other (String.toList_injective (eq_of_begins_quoted keyFree nameFree begins)).symm
  have closed : ¬ ('"' :: key.toList ++ ['"']).isPrefixOf ('"' :: rest) := by
    rw [List.isPrefixOf_iff_prefix, List.cons_append, List.prefix_cons_inj]
    rintro ⟨after, rfl⟩
    have first := word.2.1
    have same : closes (key.toList ++ ['"'] ++ after) = closes (key.toList ++ ['"']) := by
      cases key.toList with
      | nil => rfl
      | cons char later => rfl
    rw [same, first] at closing
    cases closing
  rw [shape, findQuoted?_cons, if_neg opening, findQuoted?_append nameFree, findQuoted?_cons,
    if_neg closed]

/-- The search passes the text wherever it stands. -/
def Silent (key : String) (text : Text) : Prop :=
  ∀ rest, closes rest → findQuoted? key (text ++ rest) = findQuoted? key rest

theorem silent_of_notMem {text : Text} (absent : '"' ∉ text) : Silent key text :=
  fun rest _ => findQuoted?_append absent rest

theorem silent_quoted (word : Word key) {name : String} (printable : name.toList.all plain)
    (other : name ≠ key) : Silent key (quoted name) :=
  fun _ closing => findQuoted?_quoted word printable other closing

theorem findQuoted?_commas {items : List Text} (silent : ∀ item ∈ items, Silent key item)
    {rest : Text} (closing : closes rest) :
    findQuoted? key (commas items ++ rest) = findQuoted? key rest := by
  induction items with
  | nil => rfl
  | cons item items ih =>
      have first := silent item List.mem_cons_self
      have later := ih fun other inside => silent other (List.mem_cons_of_mem _ inside)
      cases items with
      | nil => exact first rest closing
      | cons next items =>
          rw [commas, List.append_assoc, List.cons_append,
            first _ (Json.closes_mark (by decide) _), findQuoted?_mark (by decide)]
          exact later

theorem silent_array {items : List Text} (silent : ∀ item ∈ items, Silent key item) :
    Silent key (array items) := by
  intro rest _
  have shape : array items ++ rest = '[' :: (commas items ++ ']' :: rest) := by simp [array]
  rw [shape, findQuoted?_mark (by decide),
    findQuoted?_commas silent (Json.closes_mark (by decide) _), findQuoted?_mark (by decide)]

theorem blank_notMem {text : Text} (spaces : text.all blank) : '"' ∉ text := by
  intro inside
  exact absurd (List.all_eq_true.mp spaces _ inside) (by decide)

theorem silent_member {lead : Text} (spaces : lead.all blank) (word : Word key)
    {field : String × Text} (printable : field.1.toList.all plain) (other : field.1 ≠ key)
    (silent : Silent key field.2) : Silent key (member lead field) := by
  intro rest closing
  have mark : ∀ behind, findQuoted? key (':' :: ' ' :: behind) = findQuoted? key behind :=
    @findQuoted?_append key [':', ' '] (by decide)
  rw [member, List.append_assoc, List.append_assoc, List.cons_append, List.cons_append,
    findQuoted?_append (blank_notMem spaces),
    findQuoted?_quoted word printable other (Json.closes_mark (by decide) _), mark,
    silent rest closing]

theorem silent_object {lead trail : Text} (leading : lead.all blank) (trailing : trail.all blank)
    (word : Word key) {fields : List (String × Text)}
    (passed : ∀ field ∈ fields, field.1.toList.all plain ∧ field.1 ≠ key ∧ Silent key field.2) :
    Silent key (object lead trail fields) := by
  intro rest _
  have shape : object lead trail fields ++ rest =
      '{' :: (commas (fields.map (member lead)) ++ (trail ++ '}' :: rest)) := by simp [object]
  have silent : ∀ item ∈ fields.map (member lead), Silent key item := by
    intro item inside
    obtain ⟨field, member, rfl⟩ := List.mem_map.mp inside
    obtain ⟨printable, other, silent⟩ := passed field member
    exact silent_member leading word printable other silent
  rw [shape, findQuoted?_mark (by decide),
    findQuoted?_commas silent (Json.closes_trail trailing _),
    findQuoted?_append (blank_notMem trailing), findQuoted?_mark (by decide)]

/-- The value of a member stands behind the name that is searched for. -/
theorem valueText?_commas {lead : Text} (leading : lead.all blank) (word : Word key)
    {before : List (String × Text)} (after : List (String × Text)) (text : Text)
    (passed : ∀ field ∈ before, field.1.toList.all plain ∧ field.1 ≠ key ∧ Silent key field.2)
    {tail : Text} (closing : closes tail) :
    ∃ rest, closes rest ∧ valueText? key
      (commas ((before ++ (key, text) :: after).map (member lead)) ++ tail) =
        some (' ' :: (text ++ rest)) := by
  induction before with
  | nil =>
      have found : ∀ rest, valueText? key (member lead (key, text) ++ rest) =
          some (' ' :: (text ++ rest)) := by
        intro rest
        have shape : quoted key ++ ':' :: ' ' :: (text ++ rest) =
            ('"' :: (key.toList ++ ['"'])) ++ ':' :: ' ' :: (text ++ rest) := rfl
        have unmarked : ':' ∉ '"' :: (key.toList ++ ['"']) := by simp [word.2.2]
        rw [member, List.append_assoc, List.append_assoc, List.cons_append, List.cons_append,
          valueText?, findQuoted?_append (blank_notMem leading), findQuoted?_here]
        simp only [Option.bind_eq_bind, Option.bind_some]
        rw [shape, find?_append unmarked]
        rfl
      cases after with
      | nil => exact ⟨tail, closing, found tail⟩
      | cons next after =>
          refine ⟨',' :: (commas ((next :: after).map (member lead)) ++ tail),
            Json.closes_mark (by decide) _, ?_⟩
          simp only [List.nil_append, List.map_cons, commas, List.append_assoc, List.cons_append]
          exact found _
  | cons field before ih =>
      obtain ⟨rest, closed, found⟩ := ih fun other inside =>
        passed other (List.mem_cons_of_mem _ inside)
      obtain ⟨printable, other, silent⟩ := passed field List.mem_cons_self
      have skipped := silent_member leading word printable other silent
      have nonempty : (before ++ (key, text) :: after).map (member lead) ≠ [] := by simp
      refine ⟨rest, closed, ?_⟩
      rw [List.cons_append, List.map_cons, Json.commas_cons nonempty, List.append_assoc,
        List.cons_append, valueText?, skipped _ (Json.closes_mark (by decide) _),
        findQuoted?_mark (by decide)]
      exact found

/-! ## Numbers -/

theorem magnitude?_append (magnitude : Nat) {rest : Text} (closing : closes rest) :
    Json.magnitude? (Nat.toDigits 10 magnitude ++ rest) = some magnitude := by
  rw [Json.magnitude?, (Json.span_digits magnitude closing).1]
  split
  next none => exact absurd none Nat.toDigits_ne_nil
  next => rw [Nat.ofDigitChars_ten_toDigits]

theorem integer?_append (value : Int) {rest : Text} (closing : closes rest) :
    Json.integer? (String.ofList (' ' :: (toText value ++ rest))) = some value := by
  have space : Json.isSpace ' ' = true := by decide
  cases value with
  | ofNat magnitude =>
      obtain ⟨first, later, shape⟩ := List.exists_cons_of_ne_nil
        (Nat.toDigits_ne_nil (n := magnitude) (b := 10))
      have digit : first.isDigit :=
        Nat.isDigit_of_mem_toDigits (b := 10) (n := magnitude) (by decide) (by decide)
          (shape ▸ List.mem_cons_self)
      have solid := Json.not_isSpace_of_isDigit digit
      have read := magnitude?_append magnitude closing
      rw [shape, List.cons_append] at read
      rw [toText, Json.decimal, String.toList_ofList, shape, Json.integer?, String.toList_ofList,
        List.dropWhile_cons_of_pos space, List.cons_append,
        List.dropWhile_cons_of_neg (Bool.eq_false_iff.mp solid)]
      split
      next minus =>
        rw [(List.cons.inj minus).1] at digit
        exact absurd digit (by decide)
      next plus =>
        rw [(List.cons.inj plus).1] at digit
        exact absurd digit (by decide)
      next =>
        rw [read]
        rfl
  | negSucc less =>
      have solid : Json.isSpace '-' = false := by decide
      have read := magnitude?_append (less + 1) closing
      rw [toText, Json.decimal, String.toList_ofList, Json.integer?, String.toList_ofList,
        List.dropWhile_cons_of_pos space, List.cons_append,
        List.dropWhile_cons_of_neg (Bool.eq_false_iff.mp solid)]
      simp only [read]
      rfl

theorem stoul_append {value : Nat} (bound : value < 2 ^ 32) {rest : Text} (closing : closes rest) :
    stoul (' ' :: (toText value ++ rest)) = .ok value := by
  have fits : fitsUnsignedLong value = true := by
    rw [fitsUnsignedLong, decide_eq_true_eq]
    exact bound
  rw [stoul, convert, integer?_append value closing]
  simp only [fits, if_true]
  change Except.ok _ = _
  congr 1
  omega

theorem stoi_append {value : Int} (low : -2 ^ 31 ≤ value) (high : value < 2 ^ 31) {rest : Text}
    (closing : closes rest) : stoi (' ' :: (toText value ++ rest)) = .ok value := by
  have fits : fitsInt value = true := by
    rw [fitsInt, Bool.and_eq_true, decide_eq_true_eq, decide_eq_true_eq]
    exact ⟨low, high⟩
  rw [stoi, convert, integer?_append value closing]
  simp only [fits, if_true]

theorem toText_notMem {char : Char} (other : char.isDigit = false) (positive : char ≠ '-')
    (value : Int) : char ∉ toText value := by
  have digits : ∀ magnitude, char ∉ Nat.toDigits 10 magnitude := by
    intro magnitude inside
    have digit := Nat.isDigit_of_mem_toDigits (by decide) (by decide) inside
    rw [other] at digit
    cases digit
  rw [toText, Json.decimal.eq_def]
  split
  · rw [String.toList_ofList]
    exact digits _
  · rw [String.toList_ofList, List.mem_cons, not_or]
    exact ⟨positive, digits _⟩

/-! ## Objects of numbers -/

/-- An object on one line without the brace that closes it. -/
def opened (parts : List (String × Text)) : Text :=
  '{' :: (commas (parts.map (member [' '])) ++ [' '])

theorem fields_eq (parts : List (String × Text)) : fields parts = opened parts ++ ['}'] := by
  simp [fields, opened, object]

theorem valueText?_opened (word : Word key) {before : List (String × Text)}
    (after : List (String × Text)) (text : Text)
    (passed : ∀ field ∈ before, field.1.toList.all plain ∧ field.1 ≠ key ∧
      ∃ value, field.2 = toText value) :
    ∃ rest, closes rest ∧
      valueText? key (opened (before ++ (key, text) :: after)) = some (' ' :: (text ++ rest)) := by
  have spaces : [' '].all blank := by decide
  have last : closes [' '] := by decide
  have silent : ∀ field ∈ before, field.1.toList.all plain ∧ field.1 ≠ key ∧
      Silent key field.2 := by
    intro field inside
    obtain ⟨printable, other, value, same⟩ := passed field inside
    refine ⟨printable, other, ?_⟩
    rw [same]
    exact silent_of_notMem (toText_notMem (by decide) (by decide) value)
  obtain ⟨rest, closing, found⟩ := valueText?_commas spaces word after text silent last
  refine ⟨rest, closing, ?_⟩
  rw [opened, valueText?, findQuoted?_mark (by decide)]
  exact found

theorem parseNumField_opened (word : Word key) (before after : List (String × Text))
    {value : Nat} (bound : value < 2 ^ 32)
    (passed : ∀ field ∈ before, field.1.toList.all plain ∧ field.1 ≠ key ∧
      ∃ value, field.2 = toText value) :
    parseNumField (opened (before ++ (key, toText value) :: after)) key = .ok value := by
  obtain ⟨rest, closing, found⟩ := valueText?_opened word after (toText value) passed
  rw [parseNumField, parseField, found]
  exact stoul_append bound closing

theorem parseSignedNumField_opened (word : Word key) (before after : List (String × Text))
    {value : Int} (low : -2 ^ 31 ≤ value) (high : value < 2 ^ 31)
    (passed : ∀ field ∈ before, field.1.toList.all plain ∧ field.1 ≠ key ∧
      ∃ value, field.2 = toText value) :
    parseSignedNumField (opened (before ++ (key, toText value) :: after)) key = .ok value := by
  obtain ⟨rest, closing, found⟩ := valueText?_opened word after (toText value) passed
  rw [parseSignedNumField, parseField, found]
  exact stoi_append low high closing

end UmbraHost.DisplayOperations
