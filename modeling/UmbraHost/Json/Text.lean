import Mathlib.Data.String.Basic
import UmbraHost.Json.Access
import UmbraHost.Tables.Sorted

/-! # JSON texts

A reader of the JSON texts that have printable characters only and no escapes, fractions or
exponents.  A position in a text is the rest of it from there. -/

namespace UmbraHost.Json

/-! ## The reader -/

def blank (char : Char) : Bool := char = ' ' || char = '\t' || char = '\n' || char = '\r'

/-- A character that stands for itself between quotes. -/
def plain (char : Char) : Bool := ' ' ≤ char && char ≤ '~' && char ≠ '"' && char ≠ '\\'

/-- A text from behind the quote that opens it. -/
def readText (source : List Char) : Option (String × List Char) :=
  match source.dropWhile plain with
  | '"' :: rest => some (String.ofList (source.takeWhile plain), rest)
  | _ => none

/-- The digits of a number, which has no leading zero. -/
def readDigits (source : List Char) : Option (Nat × List Char) :=
  let digits := source.takeWhile Char.isDigit
  let rest := source.dropWhile Char.isDigit
  if digits = [] then none
  else if digits.head? = some '0' ∧ digits.length ≠ 1 then none
  else if rest.head? ∈ [some '.', some 'e', some 'E'] then none
  else some (Nat.ofDigitChars 10 digits 0, rest)

/-- A number that 64 bits hold. -/
def readNumber : List Char → Option (Value × List Char)
  | '-' :: source => do
    let (magnitude, rest) ← readDigits source
    if magnitude ≤ 2 ^ 63 then some (.num (-magnitude), rest) else none
  | source => do
    let (magnitude, rest) ← readDigits source
    if magnitude < 2 ^ 64 then some (.num magnitude, rest) else none

def readScalar : List Char → Option (Value × List Char)
  | '"' :: rest => (readText rest).map fun (text, rest) => (.str text, rest)
  | 'n' :: 'u' :: 'l' :: 'l' :: rest => some (.null, rest)
  | 't' :: 'r' :: 'u' :: 'e' :: rest => some (.bool true, rest)
  | 'f' :: 'a' :: 'l' :: 's' :: 'e' :: rest => some (.bool false, rest)
  | source => readNumber source

/-- The name of a member up to the colon behind it. -/
def readName (source : List Char) : Option (String × List Char) :=
  match source.dropWhile blank with
  | '"' :: rest => do
    let (name, rest) ← readText rest
    match rest.dropWhile blank with
    | ':' :: rest => some (name, rest)
    | _ => none
  | _ => none

mutual

/-- A value and what stands behind it; the fuel bounds the nesting and the items. -/
def readValue : Nat → List Char → Option (Value × List Char)
  | 0, _ => none
  | fuel + 1, source =>
    match source.dropWhile blank with
    | '{' :: rest =>
      if (rest.dropWhile blank).head? = some '}' then some (.obj [], (rest.dropWhile blank).tail)
      else (readMembers fuel [] rest).map fun (members, rest) => (.obj members, rest)
    | '[' :: rest =>
      if (rest.dropWhile blank).head? = some ']' then some (.arr [], (rest.dropWhile blank).tail)
      else (readItems fuel rest).map fun (items, rest) => (.arr items, rest)
    | source => readScalar source

/-- The members of an object behind those it has; a later one of the same name counts. -/
def readMembers : Nat → List (String × Value) → List Char →
    Option (List (String × Value) × List Char)
  | 0, _, _ => none
  | fuel + 1, members, source => do
    let (name, rest) ← readName source
    let (value, rest) ← readValue fuel rest
    let members := Tables.insertOrAssign Prod.fst (name, value) members
    match rest.dropWhile blank with
    | ',' :: rest => readMembers fuel members rest
    | '}' :: rest => some (members, rest)
    | _ => none

def readItems : Nat → List Char → Option (List Value × List Char)
  | 0, _ => none
  | fuel + 1, source => do
    let (value, rest) ← readValue fuel source
    match rest.dropWhile blank with
    | ',' :: rest => (readItems fuel rest).map fun (items, rest) => (value :: items, rest)
    | ']' :: rest => some ([value], rest)
    | _ => none

end

/-- The value of a whole text. -/
def read (source : List Char) : Option Value := do
  let (value, rest) ← readValue source.length source
  if rest.all blank then some value else none


/-! ## Texts that are written -/

def quoted (text : String) : List Char := '"' :: (text.toList ++ ['"'])

/-- The items with a comma behind each but the last. -/
def commas : List (List Char) → List Char
  | [] => []
  | [item] => item
  | item :: next :: rest => item ++ ',' :: commas (next :: rest)

theorem commas_cons {item : List Char} {rest : List (List Char)} (nonempty : rest ≠ []) :
    commas (item :: rest) = item ++ ',' :: commas rest := by
  cases rest with
  | nil => exact absurd rfl nonempty
  | cons next rest => rfl

def array (items : List (List Char)) : List Char := '[' :: (commas items ++ [']'])

/-- A member behind the blanks that lead to it. -/
def member (lead : List Char) (field : String × List Char) : List Char :=
  lead ++ (quoted field.1 ++ ':' :: ' ' :: field.2)

def object (lead trail : List Char) (fields : List (String × List Char)) : List Char :=
  '{' :: (commas (fields.map (member lead)) ++ (trail ++ ['}']))

/-! ## What they are read as -/

/-- A number ends in front of the rest. -/
def closes (rest : List Char) : Bool :=
  rest.head?.all fun char => blank char || char ∈ [',', ':', ']', '}']

/-- The text is read as the value wherever it stands. -/
def Reads (text : List Char) (value : Value) : Prop :=
  ∀ fuel rest, text.length ≤ fuel → closes rest →
    readValue fuel (text ++ rest) = some (value, rest)

theorem read_of_reads {text : List Char} {value : Value} (reads : Reads text value) :
    read text = some value := by
  have whole := reads text.length [] (Nat.le_refl _) rfl
  rw [List.append_nil] at whole
  rw [read, whole]
  rfl

theorem plain_blank_quote : plain '"' = false := by decide

/-- A text between quotes is read up to the second one. -/
theorem readText_append {text : String} (printable : text.toList.all plain) (rest : List Char) :
    readText (text.toList ++ '"' :: rest) = some (text, rest) := by
  have each : ∀ char ∈ text.toList, plain char := List.all_eq_true.mp printable
  rw [readText, List.dropWhile_append_of_pos each, List.takeWhile_append_of_pos each]
  simp only [List.dropWhile_cons, List.takeWhile_cons, plain_blank_quote, Bool.false_eq_true,
    if_false, List.append_nil, String.ofList_toList]

theorem Reads.str {text : String} (printable : text.toList.all plain) :
    Reads (quoted text) (.str text) := by
  intro fuel rest enough closing
  cases fuel with
  | zero => cases enough
  | succ fuel =>
    have read := readText_append printable rest
    have shape : quoted text ++ rest = '"' :: (text.toList ++ '"' :: rest) := by simp [quoted]
    have solid : blank '"' = false := by decide
    rw [shape, readValue, List.dropWhile_cons_of_neg (by simp [solid])]
    change (readText (text.toList ++ '"' :: rest)).map _ = _
    rw [read]
    rfl

theorem Reads.null : Reads ['n', 'u', 'l', 'l'] .null := by
  intro fuel rest enough closing
  cases fuel with
  | zero => cases enough
  | succ fuel =>
    have solid : blank 'n' = false := by decide
    rw [List.cons_append, readValue, List.dropWhile_cons_of_neg (by simp [solid])]
    rfl

theorem Reads.blank {char : Char} {text : List Char} {value : Value} (space : blank char)
    (reads : Reads text value) : Reads (char :: text) value := by
  intro fuel rest enough closing
  rw [List.length_cons] at enough
  have read := reads fuel rest (by omega) closing
  cases fuel with
  | zero => cases enough
  | succ fuel =>
    rw [readValue] at read ⊢
    rwa [List.cons_append, List.dropWhile_cons_of_pos space]

/-! ### Numbers -/

theorem digitChar_ne_zero : ∀ digit < 10, 0 < digit → Nat.digitChar digit ≠ '0' := by decide

theorem head?_toDigits {magnitude : Nat} (positive : 0 < magnitude) :
    (Nat.toDigits 10 magnitude).head? ≠ some '0' := by
  induction magnitude using Nat.strong_induction_on with
  | _ magnitude ih =>
    by_cases small : magnitude < 10
    · rw [Nat.toDigits_of_lt_base small, List.head?_cons]
      exact fun zero => digitChar_ne_zero magnitude small positive (Option.some.inj zero)
    · have parts := Nat.toDigits_of_base_le (b := 10) (n := magnitude) (by decide) (by omega)
      obtain ⟨first, rest, shape⟩ := List.exists_cons_of_ne_nil
        (Nat.toDigits_ne_nil (n := magnitude / 10) (b := 10))
      have front := ih (magnitude / 10) (by omega) (by omega)
      rw [parts]
      rw [shape] at front ⊢
      exact front

theorem not_isDigit_of_blank {char : Char} (space : blank char) : char.isDigit = false := by
  simp only [Json.blank, Bool.or_eq_true, decide_eq_true_eq] at space
  obtain ((rfl | rfl) | rfl) | rfl := space <;> decide

theorem not_isDigit_of_mark {char : Char} (mark : char ∈ [',', ':', ']', '}']) :
    char.isDigit = false := by
  simp only [List.mem_cons, List.not_mem_nil, or_false] at mark
  obtain rfl | rfl | rfl | rfl := mark <;> decide

theorem closes_cons {char : Char} {rest : List Char} :
    closes (char :: rest) ↔ blank char ∨ char ∈ [',', ':', ']', '}'] := by
  rw [closes, List.head?_cons, Option.all_some, Bool.or_eq_true, decide_eq_true_eq]

theorem head?_of_closes {rest : List Char} (closing : closes rest) {char : Char}
    (inside : closes [char] = false) : rest.head? ≠ some char := by
  intro first
  rw [closes, first] at closing
  exact absurd (closing.symm.trans inside) (by decide)

/-- The digits of a number end where the rest begins. -/
theorem span_digits (magnitude : Nat) {rest : List Char} (closing : closes rest) :
    (Nat.toDigits 10 magnitude ++ rest).takeWhile Char.isDigit = Nat.toDigits 10 magnitude ∧
      (Nat.toDigits 10 magnitude ++ rest).dropWhile Char.isDigit = rest := by
  have digits : ∀ char ∈ Nat.toDigits 10 magnitude, char.isDigit := fun char inside =>
    Nat.isDigit_of_mem_toDigits (by decide) (by decide) inside
  rw [List.takeWhile_append_of_pos digits, List.dropWhile_append_of_pos digits]
  cases rest with
  | nil => exact ⟨List.append_nil _, rfl⟩
  | cons char rest =>
    have other : char.isDigit = false := by
      rcases closes_cons.mp closing with space | mark
      · exact not_isDigit_of_blank space
      · exact not_isDigit_of_mark mark
    simp [other]

theorem readDigits_append (magnitude : Nat) {rest : List Char} (closing : closes rest) :
    readDigits (Nat.toDigits 10 magnitude ++ rest) = some (magnitude, rest) := by
  have leading : ¬ ((Nat.toDigits 10 magnitude).head? = some '0' ∧
      (Nat.toDigits 10 magnitude).length ≠ 1) := by
    rintro ⟨zero, long⟩
    cases magnitude with
    | zero => exact long rfl
    | succ less => exact head?_toDigits (Nat.succ_pos less) zero
  have whole : rest.head? ∉ [some '.', some 'e', some 'E'] := by
    simp only [List.mem_cons, List.not_mem_nil, or_false, not_or]
    exact ⟨head?_of_closes closing (by decide), head?_of_closes closing (by decide),
      head?_of_closes closing (by decide)⟩
  rw [readDigits, (span_digits magnitude closing).1, (span_digits magnitude closing).2]
  simp only [Nat.toDigits_ne_nil, if_false, if_neg leading, if_neg whole,
    Nat.ofDigitChars_ten_toDigits]

/-- A number is all that begins with a digit or a sign. -/
theorem readValue_number {char : Char} {source : List Char} (fuel : Nat)
    (starts : char.isDigit ∨ char = '-') :
    readValue (fuel + 1) (char :: source) = readNumber (char :: source) := by
  have solid : blank char = false := by
    rcases starts with digit | rfl
    · by_contra space
      rw [not_isDigit_of_blank (Bool.eq_true_of_not_eq_false space)] at digit
      cases digit
    · decide
  have other : ∀ mark : Char, mark.isDigit = false → mark ≠ '-' → char ≠ mark := by
    rintro mark digit sign rfl
    rcases starts with starts | rfl
    · exact absurd starts (by simp [digit])
    · exact sign rfl
  rw [readValue, List.dropWhile_cons_of_neg (by simp [solid])]
  split
  next same => exact absurd (List.cons.inj same).1 (other '{' (by decide) (by decide))
  next same => exact absurd (List.cons.inj same).1 (other '[' (by decide) (by decide))
  next =>
    rw [readScalar.eq_def]
    split
    next same => exact absurd (List.cons.inj same).1 (other '"' (by decide) (by decide))
    next same => exact absurd (List.cons.inj same).1 (other 'n' (by decide) (by decide))
    next same => exact absurd (List.cons.inj same).1 (other 't' (by decide) (by decide))
    next same => exact absurd (List.cons.inj same).1 (other 'f' (by decide) (by decide))
    next => rfl

theorem decimal_ne_nil (value : Int) : (decimal value).toList ≠ [] := by
  cases value with
  | ofNat magnitude =>
    rw [decimal, String.toList_ofList]
    exact Nat.toDigits_ne_nil
  | negSucc less =>
    rw [decimal, String.toList_ofList]
    exact List.cons_ne_nil _ _

theorem Reads.num {value : Int} (low : -2 ^ 63 ≤ value) (high : value < 2 ^ 64) :
    Reads (decimal value).toList (.num value) := by
  intro fuel rest enough closing
  cases fuel with
  | zero =>
    rw [Nat.le_zero, List.length_eq_zero_iff] at enough
    exact absurd enough (decimal_ne_nil value)
  | succ fuel =>
    cases value with
    | ofNat magnitude =>
      obtain ⟨first, later, shape⟩ := List.exists_cons_of_ne_nil
        (Nat.toDigits_ne_nil (n := magnitude) (b := 10))
      have digit : first.isDigit :=
        Nat.isDigit_of_mem_toDigits (b := 10) (n := magnitude) (by decide) (by decide)
          (shape ▸ List.mem_cons_self)
      have high : (magnitude : Int) < 2 ^ 64 := high
      have small : magnitude < 2 ^ 64 := by omega
      have digits := readDigits_append magnitude closing
      rw [decimal, String.toList_ofList]
      rw [shape] at digits ⊢
      rw [List.cons_append, readValue_number fuel (.inl digit), readNumber.eq_def]
      split
      next same => exact absurd ((List.cons.inj same).1 ▸ digit) (by decide)
      next =>
        rw [List.cons_append] at digits
        simp only [digits, Option.bind_eq_bind, Option.bind_some, if_pos small]
        rfl
    | negSucc less =>
      have small : less + 1 ≤ 2 ^ 63 := by omega
      rw [decimal, String.toList_ofList, List.cons_append, readValue_number fuel (.inr rfl)]
      change (readDigits (Nat.toDigits 10 (less + 1) ++ rest)).bind _ = _
      rw [readDigits_append (less + 1) closing]
      simp only [Option.bind_some, if_pos small]
      rfl

/-! ### Arrays and objects -/

/-- Nothing is read in front of a closing mark. -/
theorem readScalar_mark {mark : Char} (closing : mark ∈ [']', '}']) (rest : List Char) :
    readScalar (mark :: rest) = none := by
  simp only [List.mem_cons, List.not_mem_nil, or_false] at closing
  obtain rfl | rfl := closing <;> rfl

/-- What is read begins behind its blanks, and not with a closing mark. -/
theorem Reads.head?_ne {text : List Char} {value : Value} (reads : Reads text value)
    (rest : List Char) : ((text ++ rest).dropWhile Json.blank).head? ≠ some ']' := by
  have read := reads (text.length + 1) [] (Nat.le_succ _) rfl
  rw [List.append_nil, readValue] at read
  cases shape : text.dropWhile Json.blank with
  | nil =>
    rw [shape] at read
    cases read
  | cons char later =>
    have solid : (text.dropWhile Json.blank).isEmpty = false := by rw [shape]; rfl
    rw [List.dropWhile_append, if_neg (by rw [solid]; decide), shape, List.cons_append,
      List.head?_cons]
    intro same
    cases same
    rw [shape] at read
    cases (readScalar_mark (by decide) later).symm.trans read

theorem closes_mark {mark : Char} (closing : mark ∈ [',', ':', ']', '}']) (rest : List Char) :
    closes (mark :: rest) := closes_cons.mpr (.inr closing)

theorem closes_blank {char : Char} (space : blank char) (rest : List Char) :
    closes (char :: rest) := closes_cons.mpr (.inl space)

section

variable {α : Type u} {items : List α} {text : α → List Char} {value : α → Value}

theorem readItems_commas (reads : ∀ item ∈ items, Reads (text item) (value item))
    (nonempty : items ≠ []) (fuel : Nat) (rest : List Char)
    (enough : (commas (items.map text)).length + 1 ≤ fuel) :
    readItems fuel (commas (items.map text) ++ ']' :: rest) = some (items.map value, rest) := by
  induction items generalizing fuel with
  | nil => exact absurd rfl nonempty
  | cons item items ih =>
    cases fuel with
    | zero => cases enough
    | succ fuel =>
      have first := reads item List.mem_cons_self
      have others : ∀ item ∈ items, Reads (text item) (value item) := fun other inside =>
        reads other (List.mem_cons_of_mem _ inside)
      cases items with
      | nil =>
        have short : (text item).length ≤ fuel := by simpa [commas] using enough
        rw [List.map_singleton, commas, readItems,
          first fuel (']' :: rest) short (closes_mark (by decide) _)]
        rfl
      | cons next items =>
        simp only [List.map_cons, commas, List.length_append, List.length_cons] at enough ih ⊢
        have short : (text item).length ≤ fuel := by omega
        rw [List.append_assoc, List.cons_append, readItems,
          first fuel _ short (closes_mark (by decide) _)]
        change (readItems fuel _).map _ = _
        rw [ih others (List.cons_ne_nil _ _) fuel (by omega)]
        rfl

theorem Reads.arr (reads : ∀ item ∈ items, Reads (text item) (value item)) :
    Reads (array (items.map text)) (.arr (items.map value)) := by
  intro fuel rest enough closing
  have shape : array (items.map text) ++ rest =
      '[' :: (commas (items.map text) ++ ']' :: rest) := by simp [array]
  have solid : Json.blank '[' = false := by decide
  cases fuel with
  | zero => cases enough
  | succ fuel =>
    rw [shape, readValue, List.dropWhile_cons_of_neg (by simp [solid])]
    cases items with
    | nil => rfl
    | cons item items =>
      have whole := readItems_commas reads (List.cons_ne_nil _ _) fuel rest
        (by simpa [array] using enough)
      have first := (reads item List.mem_cons_self).head?_ne
      have begins : ((commas ((item :: items).map text) ++ ']' :: rest).dropWhile
          Json.blank).head? ≠ some ']' := by
        cases items with
        | nil => exact first _
        | cons next items =>
          rw [List.map_cons, List.map_cons, commas, List.append_assoc]
          exact first _
      change (if _ then _ else _) = _
      rw [if_neg begins, whole]
      rfl

variable {name : α → String} {lead trail : List Char}

/-- The members that an object keeps when those of the items come behind the ones it has. -/
def keep (name : α → String) (value : α → Value) (members : List (String × Value))
    (items : List α) : List (String × Value) :=
  items.foldl (fun members item =>
    Tables.insertOrAssign Prod.fst (name item, value item) members) members

theorem readName_member (spaces : lead.all blank) {name : String}
    (printable : name.toList.all plain) (text rest : List Char) :
    readName (member lead (name, text) ++ rest) = some (name, ' ' :: (text ++ rest)) := by
  have each : ∀ char ∈ lead, blank char := List.all_eq_true.mp spaces
  have shape : member lead (name, text) ++ rest =
      lead ++ '"' :: (name.toList ++ '"' :: ':' :: ' ' :: (text ++ rest)) := by
    simp [member, quoted]
  have solid : blank '"' = false := by decide
  rw [shape, readName, List.dropWhile_append_of_pos each,
    List.dropWhile_cons_of_neg (by simp [solid])]
  change (readText _).bind _ = _
  rw [readText_append printable]
  rfl

theorem head?_member (spaces : lead.all blank) (field : String × List Char) (rest : List Char) :
    ((member lead field ++ rest).dropWhile blank).head? ≠ some '}' := by
  have each : ∀ char ∈ lead, blank char := List.all_eq_true.mp spaces
  have solid : blank '"' = false := by decide
  rw [member, quoted, List.append_assoc, List.dropWhile_append_of_pos each]
  simp [solid]

/-- What stands behind a member of an object. -/
theorem dropWhile_trail (spaces : trail.all blank) (rest : List Char) :
    (trail ++ '}' :: rest).dropWhile blank = '}' :: rest := by
  have each : ∀ char ∈ trail, blank char := List.all_eq_true.mp spaces
  have solid : blank '}' = false := by decide
  rw [List.dropWhile_append_of_pos each, List.dropWhile_cons_of_neg (by simp [solid])]

theorem closes_trail (spaces : trail.all blank) (rest : List Char) :
    closes (trail ++ '}' :: rest) := by
  cases trail with
  | nil => exact closes_mark (by decide) _
  | cons char trail => exact closes_blank (List.all_eq_true.mp spaces _ List.mem_cons_self) _

theorem readMembers_commas (leading : lead.all blank) (trailing : trail.all blank)
    (printable : ∀ item ∈ items, (name item).toList.all plain)
    (reads : ∀ item ∈ items, Reads (text item) (value item)) (nonempty : items ≠ [])
    (fuel : Nat) (members : List (String × Value)) (rest : List Char)
    (enough : (commas (items.map fun item => member lead (name item, text item))).length < fuel) :
    readMembers fuel members (commas (items.map fun item => member lead (name item, text item)) ++
        (trail ++ '}' :: rest)) = some (keep name value members items, rest) := by
  induction items generalizing fuel members with
  | nil => exact absurd rfl nonempty
  | cons item items ih =>
    cases fuel with
    | zero => cases enough
    | succ fuel =>
      have first : Reads (' ' :: text item) (value item) :=
        (reads item List.mem_cons_self).blank (by decide)
      have named := readName_member leading (printable item List.mem_cons_self) (text item)
      have longer : (text item).length + 1 ≤ (member lead (name item, text item)).length := by
        simp only [member, quoted, List.length_append, List.length_cons]
        omega
      cases items with
      | nil =>
        rw [List.map_singleton, commas] at enough ⊢
        have short : (' ' :: text item).length ≤ fuel := by
          rw [List.length_cons]
          omega
        have value := first fuel _ short (closes_trail trailing rest)
        rw [List.cons_append] at value
        rw [readMembers, named]
        simp only [Option.bind_eq_bind, Option.bind_some, value, dropWhile_trail trailing]
        rfl
      | cons next items =>
        simp only [List.map_cons, commas, List.length_append, List.length_cons] at enough ih ⊢
        have short : (' ' :: text item).length ≤ fuel := by
          rw [List.length_cons]
          omega
        rw [List.append_assoc, List.cons_append, readMembers, named]
        have value := fun behind =>
          first fuel (',' :: behind) short (closes_mark (by decide) behind)
        simp only [List.cons_append] at value
        simp only [Option.bind_eq_bind, Option.bind_some, value]
        exact ih (fun other inside => printable other (List.mem_cons_of_mem _ inside))
          (fun other inside => reads other (List.mem_cons_of_mem _ inside))
          (List.cons_ne_nil _ _) fuel _ (by omega)

theorem Reads.obj (leading : lead.all Json.blank) (trailing : trail.all Json.blank)
    (printable : ∀ item ∈ items, (name item).toList.all plain)
    (reads : ∀ item ∈ items, Reads (text item) (value item)) :
    Reads (object lead trail (items.map fun item => (name item, text item)))
      (.obj (keep name value [] items)) := by
  intro fuel rest enough closing
  have shape : object lead trail (items.map fun item => (name item, text item)) ++ rest =
      '{' :: (commas (items.map fun item => member lead (name item, text item)) ++
        (trail ++ '}' :: rest)) := by
    simp [object, Function.comp_def]
  have solid : Json.blank '{' = false := by decide
  cases fuel with
  | zero => cases enough
  | succ fuel =>
    rw [shape, readValue, List.dropWhile_cons_of_neg (by simp [solid])]
    cases items with
    | nil =>
      rw [List.map_nil, commas, List.nil_append]
      change (if _ then _ else _) = _
      rw [dropWhile_trail trailing]
      rfl
    | cons item items =>
      have whole := readMembers_commas leading trailing printable reads (List.cons_ne_nil _ _)
        fuel [] rest (by simp [object, Function.comp_def] at enough ⊢; omega)
      have begins : ((commas ((item :: items).map fun item => member lead (name item, text item)) ++
          (trail ++ '}' :: rest)).dropWhile Json.blank).head? ≠ some '}' := by
        cases items with
        | nil => exact head?_member leading _ _
        | cons next items =>
          rw [List.map_cons, List.map_cons, commas, List.append_assoc]
          exact head?_member leading _ _
      change (if _ then _ else _) = _
      rw [if_neg begins, whole]
      rfl

/-- Members that are written in order are the members of the object. -/
theorem keep_of_sorted (sorted : Tables.Sorted name items) :
    keep name value [] items = items.map fun item => (name item, value item) := by
  have ordered : Tables.Sorted Prod.fst ([] ++ items.map fun item => (name item, value item)) :=
    List.pairwise_map.mpr sorted
  have built := @Tables.foldl_insertBy_append _ _ _ Prod.fst (fun _ new => new) _ _ ordered
  rw [List.foldl_map, List.nil_append] at built
  exact built

end

end UmbraHost.Json
