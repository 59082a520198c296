import UmbraHost.Util.VersionCompare

/-! # Semantic versions

Well-formed version texts and their precedence by the rules of semantic versioning, against
the comparison of the code. -/

namespace UmbraHost.VersionCompare

open UmbraHost.ThreeWay

/-! ## Versions -/

/-- Letters, digits and hyphens, not all of them digits. -/
def Alphanumeric := { text : Text //
  (∀ ch ∈ text, ch.isAlphanum ∨ ch = '-') ∧ ∃ ch ∈ text, ch.isDigit = false }

inductive Identifier where
  | numeric (value : Nat)
  | alphanumeric (text : Alphanumeric)

def digits (value : Nat) : Text := Nat.toDigits 10 value

def Identifier.text : Identifier → Text
  | .numeric value => digits value
  | .alphanumeric text => text.val

/-- What may stand in front of the numbers. -/
inductive Lead where
  | nothing
  | lower
  | upper

structure Version where
  lead : Lead
  major : Nat
  minor : Nat
  patch : Nat
  fits : major < 2 ^ 31 ∧ minor < 2 ^ 31 ∧ patch < 2 ^ 31
  prerelease : List Identifier
  /-- What stands behind the `+`. -/
  build : Option Text

def Lead.text : Lead → Text
  | .nothing => []
  | .lower => ['v']
  | .upper => ['V']

namespace Version

def coreText (version : Version) : Text :=
  ['.'].intercalate [digits version.major, digits version.minor, digits version.patch]

def prereleaseText (version : Version) : Text :=
  if version.prerelease = [] then []
  else '-' :: ['.'].intercalate (version.prerelease.map Identifier.text)

def buildText (version : Version) : Text :=
  match version.build with
  | none => []
  | some build => '+' :: build

def render (version : Version) : Text :=
  version.lead.text ++ (version.coreText ++ version.prereleaseText ++ version.buildText)

/-- `stable` in any case. -/
def Stable (version : Version) : Prop :=
  ∃ text rest, version.prerelease = .alphanumeric text :: rest ∧
    asciiLower text.val = ['s', 't', 'a', 'b', 'l', 'e']

/-! ## Precedence -/

def core (version : Version) : Nat ×ₗ Nat ×ₗ Nat :=
  toLex (version.major, toLex (version.minor, version.patch))

end Version

/-- Numeric identifiers come before alphanumeric ones. -/
def Identifier.precedence : Identifier → Nat ⊕ₗ Text
  | .numeric value => toLex (.inl value)
  | .alphanumeric text => toLex (.inr text.val)

/-- The core, then a prerelease before the release, then the identifiers from left to right. -/
def Version.precedence (version : Version) :
    (Nat ×ₗ Nat ×ₗ Nat) ×ₗ Bool ×ₗ List (Nat ⊕ₗ Text) :=
  toLex (version.core, toLex (version.prerelease.isEmpty,
    version.prerelease.map Identifier.precedence))

/-- A numeric identifier beyond `int` whose digits come behind the text of one that it
precedes. -/
def Misread : Identifier → Identifier → Prop
  | .numeric first, .numeric second =>
    2 ^ 31 ≤ first ∧ first < second ∧ digits second < digits first
  | .numeric first, .alphanumeric second => 2 ^ 31 ≤ first ∧ second.val < digits first
  | .alphanumeric _, _ => False

/-- The first identifiers that tell versions of one core apart are not misread. -/
def WellRead (version other : Version) : Prop :=
  version.core = other.core → ∀ front first second back behind,
    version.prerelease = front ++ first :: back → other.prerelease = front ++ second :: behind →
    first ≠ second → ¬ Misread first second ∧ ¬ Misread second first

/-! ## Parsing -/

theorem digits_digit {value : Nat} {ch : Char} (member : ch ∈ digits value) :
    ch.isDigit = true :=
  Nat.isDigit_of_mem_toDigits (by decide) (by decide) member

theorem ofDigitChars_digits (value : Nat) : Nat.ofDigitChars 10 (digits value) 0 = value :=
  Nat.ofDigitChars_ten_toDigits

theorem digits_injective {value other : Nat} (same : digits value = digits other) :
    value = other := by
  rw [← ofDigitChars_digits value, same, ofDigitChars_digits]

theorem digits_cons (value : Nat) :
    ∃ ch rest, digits value = ch :: rest ∧ ch.isDigit = true := by
  have nonempty : digits value ≠ [] := Nat.toDigits_ne_nil
  obtain ⟨ch, rest, shape⟩ := List.exists_cons_of_ne_nil nonempty
  have member : ch ∈ digits value := by
    rw [shape]
    exact List.mem_cons_self
  exact ⟨ch, rest, shape, digits_digit member⟩

/-- Characters that are no digits. -/
theorem ne_of_isDigit {ch other : Char} (digit : ch.isDigit = true)
    (plain : other.isDigit = false) : ch ≠ other := by
  rintro rfl
  rw [plain] at digit
  cases digit

theorem stoi_digits (value : Nat) :
    stoi (digits value) = if value < 2 ^ 31 then some (value : Int) else none := by
  obtain ⟨ch, rest, shape, digit⟩ := digits_cons value
  have unspaced : (digits value).dropWhile Json.isSpace = digits value := by
    have plain : Json.isSpace ch = false := by
      have lower : 48 ≤ ch.toNat := by
        simp only [Char.isDigit, Bool.and_eq_true, decide_eq_true_eq] at digit
        exact digit.1
      have upper : ¬ ch ≤ '\r' := by
        intro control
        have bound : ch.toNat ≤ 13 := control
        omega
      simp [Json.isSpace, upper, ne_of_isDigit digit (show ' '.isDigit = false by decide)]
    rw [shape, List.dropWhile_cons, plain]
    rfl
  have minus : (digits value).head? ≠ some '-' := by
    rw [shape]
    simpa using ne_of_isDigit digit (by decide)
  have plus : (digits value).head? ≠ some '+' := by
    rw [shape]
    simpa using ne_of_isDigit digit (by decide)
  have all : (digits value).takeWhile Char.isDigit = digits value :=
    List.takeWhile_eq_self_iff.mpr fun ch member => digits_digit member
  have nonempty : digits value ≠ [] := Nat.toDigits_ne_nil
  simp only [stoi, unspaced, minus, plus, or_self, if_false, all, nonempty, ofDigitChars_digits]
  have range : (-2 ^ 31 ≤ (value : Int) ∧ (value : Int) < 2 ^ 31) ↔ value < 2 ^ 31 := by omega
  simp only [range]

/-- What the code makes of an identifier. -/
def Identifier.read : Identifier → PrereleaseIdentifier
  | .numeric value => if value < 2 ^ 31 then .inl (value : Int) else .inr (digits value)
  | .alphanumeric text => .inr text.val

theorem isNumeric_digits (value : Nat) : isNumericIdentifier (digits value) = true := by
  have nonempty : digits value ≠ [] := Nat.toDigits_ne_nil
  have all : (digits value).all Char.isDigit = true :=
    List.all_eq_true.mpr fun ch member => digits_digit member
  simp [isNumericIdentifier, nonempty, all]

theorem Alphanumeric.not_numeric (text : Alphanumeric) :
    isNumericIdentifier text.val = false := by
  obtain ⟨ch, member, other⟩ := text.property.2
  have some_other : text.val.all Char.isDigit = false := by
    rw [List.all_eq_false]
    exact ⟨ch, member, by simp [other]⟩
  rw [isNumericIdentifier, some_other, Bool.and_false]

theorem identifierOf_text (identifier : Identifier) :
    identifierOf identifier.text = identifier.read := by
  cases identifier with
  | numeric value =>
      rw [Identifier.text, identifierOf, isNumeric_digits, if_pos rfl, stoi_digits,
        Identifier.read]
      by_cases small : value < 2 ^ 31
      · rw [if_pos small, if_pos small]
      · rw [if_neg small, if_neg small]
  | alphanumeric text =>
      rw [Identifier.text, identifierOf, text.not_numeric]
      rfl

/-- The characters of an identifier. -/
theorem Identifier.text_plain (identifier : Identifier) :
    ∀ ch ∈ identifier.text, ch ≠ '.' ∧ ch ≠ '+' := by
  intro ch member
  cases identifier with
  | numeric value =>
      have digit := digits_digit member
      exact ⟨ne_of_isDigit digit (by decide), ne_of_isDigit digit (by decide)⟩
  | alphanumeric text =>
      rcases text.property.1 ch member with letter | rfl
      · constructor <;> rintro rfl <;> exact absurd letter (by decide)
      · decide

theorem Identifier.text_ne (identifier : Identifier) : identifier.text ≠ [] := by
  cases identifier with
  | numeric value => exact Nat.toDigits_ne_nil
  | alphanumeric text =>
      obtain ⟨ch, member, -⟩ := text.property.2
      exact List.ne_nil_of_mem member

theorem parts_append {front : Text} (plain : ∀ ch ∈ front, ch ≠ '.') (rest : Text) :
    parts (front ++ '.' :: rest) = front :: parts rest := by
  induction front with
  | nil => rw [List.nil_append, parts, if_pos rfl]
  | cons ch front ih =>
      obtain ⟨first, later⟩ := List.forall_mem_cons.mp plain
      rw [List.cons_append, parts, if_neg first, ih later]

theorem parts_last {front : Text} (plain : ∀ ch ∈ front, ch ≠ '.') (nonempty : front ≠ []) :
    parts front = [front] := by
  induction front with
  | nil => exact absurd rfl nonempty
  | cons ch front ih =>
      obtain ⟨first, later⟩ := List.forall_mem_cons.mp plain
      rw [parts, if_neg first]
      cases front with
      | nil => rfl
      | cons next front => rw [ih later (List.cons_ne_nil _ _)]

theorem parts_intercalate {items : List Text}
    (proper : ∀ item ∈ items, item ≠ [] ∧ ∀ ch ∈ item, ch ≠ '.') :
    parts (['.'].intercalate items) = items := by
  induction items with
  | nil => rfl
  | cons item items ih =>
      obtain ⟨⟨nonempty, plain⟩, later⟩ := List.forall_mem_cons.mp proper
      cases items with
      | nil => rw [List.intercalate_singleton, parts_last plain nonempty]
      | cons next items =>
          rw [List.intercalate_cons_cons, List.append_assoc, List.singleton_append,
            parts_append plain, ih later]

theorem mem_intercalate {items : List Text} {ch : Char}
    (member : ch ∈ ['.'].intercalate items) : ch = '.' ∨ ∃ item ∈ items, ch ∈ item := by
  induction items with
  | nil => cases member
  | cons item items ih =>
      cases items with
      | nil =>
          rw [List.intercalate_singleton] at member
          exact .inr ⟨item, List.mem_cons_self, member⟩
      | cons next items =>
          rw [List.intercalate_cons_cons, List.mem_append, List.mem_append,
            List.mem_singleton] at member
          rcases member with (here | rfl) | later
          · exact .inr ⟨item, List.mem_cons_self, here⟩
          · exact .inl rfl
          · rcases ih later with rfl | ⟨other, inside, found⟩
            · exact .inl rfl
            · exact .inr ⟨other, List.mem_cons_of_mem _ inside, found⟩

namespace Version

variable (version : Version)

theorem coreText_cons : ∃ ch rest, version.coreText = ch :: rest ∧ ch.isDigit = true := by
  obtain ⟨ch, rest, shape, digit⟩ := digits_cons version.major
  have text : version.coreText = ch :: (rest ++ ['.'] ++
      ['.'].intercalate [digits version.minor, digits version.patch]) := by
    rw [coreText, List.intercalate_cons_cons, shape]
    rfl
  exact ⟨ch, _, text, digit⟩

theorem coreText_plain : ∀ ch ∈ version.coreText, ch = '.' ∨ ch.isDigit = true := by
  intro ch member
  rcases mem_intercalate member with dot | ⟨item, inside, found⟩
  · exact .inl dot
  · simp only [List.mem_cons, List.not_mem_nil, or_false] at inside
    rcases inside with rfl | rfl | rfl <;> exact .inr (digits_digit found)

theorem prereleaseText_plain : ∀ ch ∈ version.prereleaseText, ch ≠ '+' := by
  intro ch member
  rw [prereleaseText] at member
  split at member
  · cases member
  · rcases List.mem_cons.mp member with rfl | inside
    · decide
    · rcases mem_intercalate inside with rfl | ⟨item, among, found⟩
      · decide
      · obtain ⟨identifier, -, rfl⟩ := List.mem_map.mp among
        exact (identifier.text_plain ch found).2

theorem parts_core :
    parts version.coreText =
      [digits version.major, digits version.minor, digits version.patch] := by
  have proper (value : Nat) : digits value ≠ [] ∧ ∀ ch ∈ digits value, ch ≠ '.' :=
    ⟨Nat.toDigits_ne_nil, fun ch member => ne_of_isDigit (digits_digit member) (by decide)⟩
  refine parts_intercalate fun item member => ?_
  simp only [List.mem_cons, List.not_mem_nil, or_false] at member
  rcases member with rfl | rfl | rfl <;> exact proper _

theorem parts_prerelease :
    ((parts version.prereleaseText.tail).filter (· ≠ [])).map identifierOf =
      version.prerelease.map Identifier.read := by
  have proper : ∀ item ∈ version.prerelease.map Identifier.text,
      item ≠ [] ∧ ∀ ch ∈ item, ch ≠ '.' := by
    intro item member
    obtain ⟨identifier, -, rfl⟩ := List.mem_map.mp member
    exact ⟨identifier.text_ne, fun ch inside => (identifier.text_plain ch inside).1⟩
  have texts : parts version.prereleaseText.tail = version.prerelease.map Identifier.text := by
    rw [prereleaseText]
    split
    · next none => rw [none]; rfl
    · rw [List.tail_cons, parts_intercalate proper]
  have kept : (version.prerelease.map Identifier.text).filter (· ≠ []) =
      version.prerelease.map Identifier.text :=
    List.filter_eq_self.mpr fun item member => by simpa using (proper item member).1
  rw [texts, kept, List.map_map]
  exact List.map_congr_left fun identifier _ => identifierOf_text identifier

theorem takeWhile_front {p : Char → Bool} {front rest : Text} (inside : ∀ ch ∈ front, p ch = true)
    (stop : ∀ ch ∈ rest.head?, p ch = false) :
    (front ++ rest).takeWhile p = front ∧ (front ++ rest).dropWhile p = rest := by
  rw [List.takeWhile_append_of_pos inside, List.dropWhile_append_of_pos inside]
  cases rest with
  | nil => simp
  | cons ch rest =>
      have first := stop ch rfl
      simp [first]

theorem parseSemver_render :
    parseSemver version.render =
      ⟨version.major, version.minor, version.patch, version.prerelease.map Identifier.read⟩ := by
  obtain ⟨ch, rest, shape, digit⟩ := version.coreText_cons
  have unled : (if version.render.head? = some 'v' ∨ version.render.head? = some 'V' then
      version.render.tail else version.render) =
        version.coreText ++ version.prereleaseText ++ version.buildText := by
    rw [render]
    cases version.lead with
    | nothing =>
        have lower := ne_of_isDigit digit (show 'v'.isDigit = false by decide)
        have upper := ne_of_isDigit digit (show 'V'.isDigit = false by decide)
        simp [Lead.text, shape, lower, upper]
    | lower => rfl
    | upper => rfl
  have unbuilt : (version.coreText ++ version.prereleaseText ++ version.buildText).takeWhile
      (· != '+') = version.coreText ++ version.prereleaseText := by
    refine (takeWhile_front ?_ ?_).1
    · intro ch member
      rcases List.mem_append.mp member with core | pre
      · rcases version.coreText_plain ch core with rfl | digit
        · decide
        · simpa using ne_of_isDigit digit (show '+'.isDigit = false by decide)
      · simpa using version.prereleaseText_plain ch pre
    · rw [buildText]
      split <;> simp
  have split := @takeWhile_front (· != '-') version.coreText version.prereleaseText (by
      intro ch member
      rcases version.coreText_plain ch member with rfl | digit
      · decide
      · simpa using ne_of_isDigit digit (show '-'.isDigit = false by decide)) (by
      rw [prereleaseText]
      split <;> simp)
  have number {value : Nat} (small : value < 2 ^ 31) :
      corePart (some (digits value)) = some (value : Int) := by
    rw [corePart, stoi_digits, if_pos small]
  obtain ⟨major, minor, patch⟩ := version.fits
  rw [parseSemver]
  simp only [unled, unbuilt, split, parts_core, parts_prerelease]
  simp [number major, number minor, number patch]

end Version

/-! ## Identifiers -/

def Identifier.codeKey (identifier : Identifier) : Int ⊕ₗ Text := identifierKey identifier.read

theorem Alphanumeric.ne_digits (text : Alphanumeric) (value : Nat) : digits value ≠ text.val := by
  intro same
  have numeric := isNumeric_digits value
  rw [same, text.not_numeric] at numeric
  cases numeric

theorem codeKey_numeric {value : Nat} (small : value < 2 ^ 31) :
    (Identifier.numeric value).codeKey = toLex (.inl (value : Int)) := by
  rw [Identifier.codeKey, Identifier.read, if_pos small]
  rfl

theorem codeKey_large {value : Nat} (large : 2 ^ 31 ≤ value) :
    (Identifier.numeric value).codeKey = toLex (.inr (digits value)) := by
  rw [Identifier.codeKey, Identifier.read, if_neg (Nat.not_lt.mpr large)]
  rfl

theorem precedence_injective {first second : Identifier}
    (same : first.precedence = second.precedence) : first = second := by
  cases first with
  | numeric value =>
      cases second with
      | numeric other => exact congrArg _ (Sum.inl.inj same)
      | alphanumeric text => cases same
  | alphanumeric text =>
      cases second with
      | numeric value => cases same
      | alphanumeric other => exact congrArg _ (Subtype.ext (Sum.inr.inj same))

theorem codeKey_injective {first second : Identifier} (same : first.codeKey = second.codeKey) :
    first = second := by
  have texts {first second : Identifier} (read : first.read = second.read) :
      first.text = second.text := by
    cases first with
    | numeric value =>
        cases second with
        | numeric other =>
            rw [Identifier.read, Identifier.read] at read
            split at read <;> split at read
            · exact congrArg digits (Int.ofNat.inj (Sum.inl.inj read))
            · cases read
            · cases read
            · exact Sum.inr.inj read
        | alphanumeric text =>
            rw [Identifier.read, Identifier.read] at read
            split at read
            · cases read
            · exact Sum.inr.inj read
    | alphanumeric text =>
        cases second with
        | numeric value =>
            rw [Identifier.read, Identifier.read] at read
            split at read
            · cases read
            · exact Sum.inr.inj read
        | alphanumeric other => exact Sum.inr.inj read
  have text := texts (toLex.injective same)
  cases first with
  | numeric value =>
      cases second with
      | numeric other => exact congrArg _ (digits_injective text)
      | alphanumeric other => exact absurd text (other.ne_digits value)
  | alphanumeric mine =>
      cases second with
      | numeric value => exact absurd text.symm (mine.ne_digits value)
      | alphanumeric other => exact congrArg _ (Subtype.ext text)

theorem codeKey_numeric_lt (value : Nat) (text : Alphanumeric) :
    (Identifier.numeric value).codeKey < (Identifier.alphanumeric text).codeKey ↔
      ¬ Misread (.numeric value) (.alphanumeric text) := by
  rw [Misread]
  rcases Nat.lt_or_ge value (2 ^ 31) with small | large
  · rw [codeKey_numeric small]
    have before : (toLex (.inl (value : Int)) : Int ⊕ₗ Text) < toLex (.inr text.val) :=
      Sum.Lex.inl_lt_inr _ _
    exact iff_of_true before fun misread => absurd misread.1 (Nat.not_le.mpr small)
  · rw [codeKey_large large]
    change (toLex (.inr (digits value)) : Int ⊕ₗ Text) < toLex (.inr text.val) ↔ _
    rw [Sum.Lex.inr_lt_inr_iff, and_iff_right large, not_lt]
    exact lt_iff_le_and_ne.trans (and_iff_left (text.ne_digits value))

/-- The code orders two identifiers by precedence exactly if it misreads neither. -/
theorem codeKey_lt_iff {first second : Identifier} (different : first ≠ second) :
    (first.codeKey < second.codeKey ↔ first.precedence < second.precedence) ↔
      ¬ Misread first second ∧ ¬ Misread second first := by
  cases first with
  | numeric value =>
      cases second with
      | numeric other =>
          have values : value ≠ other := fun same => different (congrArg _ same)
          have rules : (Identifier.numeric value).precedence <
              (Identifier.numeric other).precedence ↔ value < other := by
            simp [Identifier.precedence]
          simp only [rules, Misread]
          rcases Nat.lt_or_ge value (2 ^ 31) with small | large <;>
            rcases Nat.lt_or_ge other (2 ^ 31) with other_small | other_large
          · rw [codeKey_numeric small, codeKey_numeric other_small]
            simp
            omega
          · rw [codeKey_numeric small, codeKey_large other_large]
            simp
            omega
          · rw [codeKey_large large, codeKey_numeric other_small]
            simp
            omega
          · rw [codeKey_large large, codeKey_large other_large]
            have texts : digits value ≠ digits other := fun same => values (digits_injective same)
            simp only [Sum.Lex.inr_lt_inr_iff, large, other_large, true_and]
            rcases lt_or_gt_of_ne values with less | greater <;>
              rcases lt_or_gt_of_ne texts with before | behind
            · simp [less, before, less.asymm, before.asymm]
            · simp [less, behind, less.asymm, behind.asymm]
            · simp [greater, before, greater.asymm, before.asymm]
            · simp [greater, behind, greater.asymm, behind.asymm]
      | alphanumeric text =>
          have rules : (Identifier.numeric value).precedence <
              (Identifier.alphanumeric text).precedence := Sum.Lex.inl_lt_inr _ _
          rw [iff_true_right rules, codeKey_numeric_lt, iff_comm]
          exact and_iff_left id
  | alphanumeric text =>
      cases second with
      | numeric value =>
          have rules : (Identifier.numeric value).precedence <
              (Identifier.alphanumeric text).precedence := Sum.Lex.inl_lt_inr _ _
          rw [iff_false_right rules.asymm, not_lt, iff_comm]
          refine (and_iff_right id).trans ?_
          rw [← codeKey_numeric_lt]
          exact lt_iff_le_and_ne.trans
            (and_iff_left fun same => different (codeKey_injective same).symm)
      | alphanumeric other =>
          have same : (Identifier.alphanumeric text).codeKey <
              (Identifier.alphanumeric other).codeKey ↔
                (Identifier.alphanumeric text).precedence <
                  (Identifier.alphanumeric other).precedence :=
            Sum.Lex.inr_lt_inr_iff.trans Sum.Lex.inr_lt_inr_iff.symm
          exact iff_of_true same ⟨id, id⟩

/-- Lists are ordered by the first identifiers that differ. -/
theorem codeKeys_eq_iff (first second : List Identifier) :
    threeWay (first.map Identifier.codeKey) (second.map Identifier.codeKey) =
        threeWay (first.map Identifier.precedence) (second.map Identifier.precedence) ↔
      ∀ front mine other back behind, first = front ++ mine :: back →
        second = front ++ other :: behind → mine ≠ other →
        ¬ Misread mine other ∧ ¬ Misread other mine := by
  induction first generalizing second with
  | nil =>
      refine iff_of_true ?_ ?_
      · cases second with
        | nil => rfl
        | cons other second => exact (threeWay_nil_cons _ _).trans (threeWay_nil_cons _ _).symm
      · intro front mine other back behind shape
        exact absurd shape.symm (by simp)
  | cons mine first ih =>
      cases second with
      | nil =>
          refine iff_of_true ((threeWay_cons_nil _ _).trans (threeWay_cons_nil _ _).symm) ?_
          intro front mine other back behind _ shape
          exact absurd shape.symm (by simp)
      | cons other second =>
          rw [List.map_cons, List.map_cons, List.map_cons, List.map_cons, threeWay_cons,
            threeWay_cons]
          by_cases same : mine = other
          · subst same
            rw [if_pos rfl, if_pos rfl, ih]
            constructor
            · intro later front first' other back behind left right different
              cases front with
              | nil =>
                  obtain ⟨rfl, -⟩ := List.cons.inj left
                  exact absurd (List.cons.inj right).1 different
              | cons head front =>
                  exact later front first' other back behind (List.cons.inj left).2
                    (List.cons.inj right).2 different
            · intro all front first' other back behind left right different
              exact all (mine :: front) first' other back behind (congrArg _ left)
                (congrArg _ right) different
          · have code : mine.codeKey ≠ other.codeKey := fun keys => same (codeKey_injective keys)
            have rules : mine.precedence ≠ other.precedence := fun keys =>
              same (precedence_injective keys)
            rw [if_neg code, if_neg rules, threeWay_eq_iff code rules, codeKey_lt_iff same]
            constructor
            · intro read front first' other' back behind left right different
              cases front with
              | nil =>
                  obtain ⟨rfl, -⟩ := List.cons.inj left
                  obtain ⟨rfl, -⟩ := List.cons.inj right
                  exact read
              | cons head front =>
                  exact absurd ((List.cons.inj left).1.trans (List.cons.inj right).1.symm) same
            · intro all
              exact all [] mine other first second rfl rfl same

/-! ## Versions compared -/

theorem compareSemver_render (version other : Version) :
    compareSemver version.render other.render =
      if version.core = other.core then
        threeWay
          (toLex (channel (parseSemver version.render), ordered (parseSemver version.render)))
          (toLex (channel (parseSemver other.render), ordered (parseSemver other.render)))
      else threeWay version.core other.core := by
  have cast (a b : Nat) : threeWay (a : Int) (b : Int) = threeWay a b :=
    threeWay_congr Int.ofNat_lt Int.ofNat_lt
  rw [compareSemver_eq]
  simp only [key, threeWay_pair, version.parseSemver_render, other.parseSemver_render,
    Version.core, cast, Int.natCast_inj]
  by_cases major : version.major = other.major
  · by_cases minor : version.minor = other.minor
    · by_cases patch : version.patch = other.patch <;> simp [major, minor, patch]
    · simp [major, minor]
  · simp [major]

theorem toLower_digit {ch : Char} (digit : ch.isDigit = true) : ch.toLower = ch := by
  simp only [Char.isDigit, Bool.and_eq_true, decide_eq_true_eq] at digit
  have upper : ch.toNat ≤ 57 := digit.2
  refine dif_neg ?_
  rintro ⟨letter, -⟩
  have lower : 65 ≤ ch.toNat := letter
  omega

theorem isStable_render (version : Version) :
    isStableChannel (parseSemver version.render) = true ↔ version.Stable := by
  rw [version.parseSemver_render, isStableChannel, Version.Stable]
  cases version.prerelease with
  | nil => simp
  | cons identifier rest =>
      cases identifier with
      | numeric value =>
          refine iff_of_false ?_ (by simp)
          rw [List.map_cons, Identifier.read]
          by_cases small : value < 2 ^ 31
          · rw [if_pos small]
            simp
          · obtain ⟨ch, tail, shape, digit⟩ := digits_cons value
            have lowered : ch.toLower ≠ 's' := by
              rw [toLower_digit digit]
              exact ne_of_isDigit digit (by decide)
            rw [if_neg small]
            simp [asciiLower, shape, lowered]
      | alphanumeric text => simp [Identifier.read]

theorem channel_regular {version : Version} (regular : ¬ version.Stable) :
    channel (parseSemver version.render) = (if version.prerelease = [] then 1 else 0) ∧
      ordered (parseSemver version.render) = version.prerelease.map Identifier.codeKey := by
  have channelled := mt (isStable_render version).mp regular
  rw [channel, ordered, if_neg channelled, if_neg channelled, version.parseSemver_render]
  refine ⟨?_, ?_⟩
  · simp
  · rw [List.map_map]
    rfl

/-- Outside the stable channel the code follows precedence exactly where it reads well. -/
theorem compareSemver_regular {version other : Version} (regular : ¬ version.Stable)
    (other_regular : ¬ other.Stable) :
    compareSemver version.render other.render = threeWay version.precedence other.precedence ↔
      WellRead version other := by
  obtain ⟨first_channel, first_ordered⟩ := channel_regular regular
  obtain ⟨second_channel, second_ordered⟩ := channel_regular other_regular
  rw [compareSemver_render, Version.precedence, Version.precedence]
  by_cases core : version.core = other.core
  · rw [if_pos core, threeWay_pair, threeWay_pair version.core, if_pos core, threeWay_pair,
      first_channel, second_channel, first_ordered, second_ordered, WellRead, imp_iff_right core,
      ← codeKeys_eq_iff]
    have released : threeWay 1 0 = threeWay true false := rfl
    have unreleased : threeWay 0 1 = threeWay false true := rfl
    cases version.prerelease <;> cases other.prerelease
    · simp
    · simp [released, threeWay_nil_cons]
    · simp [unreleased, threeWay_cons_nil]
    · simp
  · rw [if_neg core, threeWay_pair version.core, if_neg core]
    exact iff_of_true rfl fun same => absurd same core

theorem compareSemver_stable {version other : Version} (stable : version.Stable) :
    (version.core = other.core → other.prerelease = [] →
      compareSemver version.render other.render = 1) ∧
    (version.core < other.core → compareSemver version.render other.render = -1) := by
  rw [compareSemver_render]
  constructor
  · intro core release
    have regular : ¬ other.Stable := by
      rintro ⟨text, rest, shape, -⟩
      rw [release] at shape
      cases shape
    have stable_channel : channel (parseSemver version.render) = 2 := by
      rw [channel, if_pos ((isStable_render version).mpr stable)]
    rw [if_pos core, threeWay_pair, stable_channel, (channel_regular regular).1, if_pos release]
    rfl
  · intro less
    rw [if_neg less.ne, threeWay_of_lt less]

/-- A total preorder of all texts, which is precedence outside the stable channel exactly where
no number is misread, and puts the stable channel between the release and later cores. -/
theorem compareSemver_laws (first second third : Text) (version other : Version) :
    compareSemver first second = -compareSemver second first ∧
    (compareSemver first second ≤ 0 → compareSemver second third ≤ 0 →
      compareSemver first third ≤ 0) ∧
    (¬ version.Stable → ¬ other.Stable →
      (compareSemver version.render other.render =
          threeWay version.precedence other.precedence ↔ WellRead version other)) ∧
    (version.Stable →
      (version.core = other.core → other.prerelease = [] →
        compareSemver version.render other.render = 1) ∧
      (version.core < other.core → compareSemver version.render other.render = -1)) := by
  refine ⟨?_, ?_, compareSemver_regular, compareSemver_stable⟩
  · rw [compareSemver_eq, compareSemver_eq]
    exact threeWay_swap _ _
  · intro before after
    rw [compareSemver_eq] at before after ⊢
    exact threeWay_trans before after

/-- `1.0.0` with a number as its only prerelease identifier. -/
def numbered (value : Nat) : Version where
  lead := .nothing
  major := 1
  minor := 0
  patch := 0
  fits := by decide
  prerelease := [.numeric value]
  build := none

/-- `1.0.0-9999999999` sorts above `1.0.0-10000000000`. -/
theorem compareSemver_large :
    ¬ (numbered 9999999999).Stable ∧ ¬ (numbered 10000000000).Stable ∧
      compareSemver (numbered 9999999999).render (numbered 10000000000).render = 1 ∧
      threeWay (numbered 9999999999).precedence (numbered 10000000000).precedence = -1 := by
  refine ⟨?_, ?_, by decide, by decide⟩
  · rintro ⟨text, rest, shape, -⟩
    cases shape
  · rintro ⟨text, rest, shape, -⟩
    cases shape

end UmbraHost.VersionCompare
