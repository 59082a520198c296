import Mathlib.Data.Nat.Digits.Defs

/-! # Numbers out of text

`util::from_chars` and `util::from_view` of `utility.h` in 64-bit arithmetic.  A text is a list
of bytes, each a signed character. -/

namespace UmbraHost.Util

abbrev Bytes := List UInt8

/-! ## The code -/

/-- `*end - '0'`. -/
def digitOf (ch : UInt8) : Int := ch.toInt8.toInt - 48

def Fits (value : Int) : Prop := -2 ^ 63 ≤ value ∧ value < 2 ^ 63

instance : DecidablePred Fits := fun _ => inferInstanceAs (Decidable (_ ∧ _))

/-- The result of an operation on `std::int64_t`, if it has one. -/
def checked (value : Int) : Option Int := if Fits value then some value else none

def minusSign : UInt8 := 45

/-- What is left of the text, its last character first. -/
def fromCharsLoop (res mul : Int) : Bytes → Option Int
  | [] => some res
  | [begin] =>
    if begin ≠ minusSign then do
      let weighted ← checked (digitOf begin * mul)
      checked (res + weighted)
    else checked (-res)
  | ch :: rest => do
    let weighted ← checked (digitOf ch * mul)
    let res ← checked (res + weighted)
    let mul ← checked (mul * 10)
    fromCharsLoop res mul rest

def fromChars (text : Bytes) : Option Int :=
  if text = [] then some 0 else fromCharsLoop 0 1 text.reverse

def fromView (number : Bytes) : Option Int := fromChars number

/-! ## Positional values -/

/-- The number that the characters stand for, unbounded. -/
def positional : Bytes → Int
  | [] => 0
  | ch :: rest => digitOf ch * 10 ^ rest.length + positional rest

theorem checked_eq_some {value result : Int} :
    checked value = some result ↔ Fits value ∧ value = result := by
  rw [checked]
  split
  · next fits => simp [fits]
  · next outside => simp [outside]

theorem digitOf_bounds (ch : UInt8) : -176 ≤ digitOf ch ∧ digitOf ch ≤ 79 := by
  have lower := ch.toInt8.le_toInt
  have upper := ch.toInt8.toInt_lt
  rw [digitOf]
  omega

/-- The characters behind one weigh less than it. -/
theorem positional_bounds (text : Bytes) :
    -(20 * 10 ^ text.length) ≤ positional text ∧ positional text ≤ 20 * 10 ^ text.length := by
  induction text with
  | nil => exact ⟨by decide, by decide⟩
  | cons ch rest ih =>
      have digit := digitOf_bounds ch
      have positive : (0 : Int) < 10 ^ rest.length := by positivity
      rw [positional, List.length_cons, pow_succ]
      constructor <;> nlinarith

/-! ## Where it is defined -/

/-- A sign in front negates what stands behind it. -/
def numberOf (text : Bytes) : Int :=
  match text with
  | [] => 0
  | ch :: rest => if ch = minusSign then -positional rest else positional (ch :: rest)

/-- What a character does to the number of those behind it stays in 64 bits. -/
def Adds (text : Bytes) (ch : UInt8) (rest : Bytes) : Prop :=
  if ch = minusSign ∧ ch :: rest = text then Fits (-positional rest)
  else Fits (digitOf ch * 10 ^ rest.length) ∧ Fits (positional (ch :: rest))

/-- Only the eighteenth and the nineteenth character from the end may weigh too much. -/
structure Bounded (text : Bytes) : Prop where
  short : text.length ≤ 19
  leading : ∀ ch rest, ch :: rest <:+ text → 17 ≤ rest.length → Adds text ch rest

/-- The loop in front of `back`: each character adds up, and the next weight fits. -/
def Computes : Bytes → Bytes → Prop
  | [], _ => True
  | [begin], back => Adds (begin :: back) begin back
  | ch :: front, back =>
    (Fits (digitOf ch * 10 ^ back.length) ∧ Fits (positional (ch :: back)) ∧
      Fits (10 ^ (back.length + 1))) ∧ Computes front (ch :: back)

theorem fromCharsLoop_eq_some {front : Bytes} (nonempty : front ≠ []) (back : Bytes)
    (value : Int) :
    fromCharsLoop (positional back) (10 ^ back.length) front = some value ↔
      Computes front back ∧ value = numberOf (front.reverse ++ back) := by
  induction front generalizing back with
  | nil => exact absurd rfl nonempty
  | cons ch front ih =>
      have sum : positional back + digitOf ch * 10 ^ back.length = positional (ch :: back) :=
        Int.add_comm ..
      cases front with
      | nil =>
          simp only [fromCharsLoop, Computes, Adds, List.reverse_singleton,
            List.singleton_append, numberOf]
          by_cases sign : ch = minusSign
          · simp only [sign, ne_eq, not_true_eq_false, if_false, true_and, if_true,
              checked_eq_some]
            exact and_congr_right fun _ => eq_comm
          · simp only [sign, ne_eq, not_false_eq_true, if_true, false_and, if_false,
              Option.bind_eq_bind, Option.bind_eq_some_iff, checked_eq_some]
            constructor
            · rintro ⟨weighted, ⟨first, rfl⟩, second, rfl⟩
              rw [sum] at second ⊢
              exact ⟨⟨first, second⟩, rfl⟩
            · rintro ⟨⟨first, second⟩, rfl⟩
              exact ⟨_, ⟨first, rfl⟩, by rwa [sum], sum⟩
      | cons next front =>
          have step := ih (List.cons_ne_nil _ _) (ch :: back)
          rw [List.length_cons, pow_succ] at step
          simp only [fromCharsLoop, Computes, Option.bind_eq_bind, Option.bind_eq_some_iff,
            checked_eq_some]
          rw [List.reverse_cons, List.append_assoc, List.singleton_append]
          constructor
          · rintro ⟨weighted, ⟨first, rfl⟩, res, ⟨second, rfl⟩, mul, ⟨third, rfl⟩, rest⟩
            rw [sum] at second rest
            obtain ⟨later, rfl⟩ := step.mp rest
            exact ⟨⟨⟨first, second, third⟩, later⟩, rfl⟩
          · rintro ⟨⟨⟨first, second, third⟩, later⟩, rfl⟩
            refine ⟨_, ⟨first, rfl⟩, _, ⟨by rwa [sum], sum⟩, _, ⟨third, rfl⟩, ?_⟩
            exact step.mpr ⟨later, rfl⟩

theorem fits_pow {exponent : Nat} : Fits (10 ^ exponent) ↔ exponent ≤ 18 := by
  constructor
  · intro fits
    by_contra long
    have grown : (10 : Int) ^ 19 ≤ 10 ^ exponent :=
      pow_le_pow_right₀ (by decide) (by omega)
    have bound := fits.2
    omega
  · intro short
    have small : (10 : Int) ^ exponent ≤ 10 ^ 18 := pow_le_pow_right₀ (by decide) short
    have positive : (0 : Int) < 10 ^ exponent := by positivity
    exact ⟨by omega, by omega⟩

/-- Seventeen characters cannot overflow. -/
theorem adds_of_short (text : Bytes) (ch : UInt8) {rest : Bytes} (short : rest.length < 17) :
    Adds text ch rest := by
  have power : (10 : Int) ^ rest.length ≤ 10 ^ 16 :=
    pow_le_pow_right₀ (by decide) (Nat.le_of_lt_succ short)
  have positive : (0 : Int) < 10 ^ rest.length := by positivity
  have digit := digitOf_bounds ch
  have behind := positional_bounds rest
  have all := positional_bounds (ch :: rest)
  rw [List.length_cons, pow_succ] at all
  rw [Adds]
  split
  · exact ⟨by omega, by omega⟩
  · refine ⟨⟨by nlinarith, by nlinarith⟩, ⟨by omega, by omega⟩⟩

theorem adds_inner {text : Bytes} {ch : UInt8} {rest : Bytes} (inner : ch :: rest ≠ text) :
    Adds text ch rest ↔ Fits (digitOf ch * 10 ^ rest.length) ∧ Fits (positional (ch :: rest)) := by
  rw [Adds, if_neg fun both => inner both.2]

theorem computes_iff {front : Bytes} (nonempty : front ≠ []) {back : Bytes}
    (room : back.length ≤ 18) :
    Computes front back ↔ front.length + back.length ≤ 19 ∧
      ∀ ch rest, ch :: rest <:+ front.reverse ++ back → back.length ≤ rest.length →
        Adds (front.reverse ++ back) ch rest := by
  induction front generalizing back with
  | nil => exact absurd rfl nonempty
  | cons ch front ih =>
      have here (text : Bytes) {other : UInt8} {rest : Bytes} (whole : ch :: back <:+ text)
          (within : other :: rest <:+ text) (same : rest.length = back.length) :
          other :: rest = ch :: back := by
        have shorter : (other :: rest).length ≤ (ch :: back).length := by simp [same]
        exact (List.suffix_of_suffix_length_le within whole shorter).eq_of_length (by simp [same])
      cases front with
      | nil =>
          rw [Computes, List.reverse_singleton, List.singleton_append]
          constructor
          · intro adds
            refine ⟨by simp only [List.length_singleton]; omega, ?_⟩
            intro other rest within long
            have length := within.length_le
            simp only [List.length_cons] at length
            cases here _ (List.suffix_refl _) within (by omega)
            exact adds
          · rintro ⟨-, adds⟩
            exact adds ch back (List.suffix_refl _) (Nat.le_refl _)
      | cons next front =>
          have whole : ch :: back <:+ (next :: front).reverse ++ (ch :: back) :=
            List.suffix_append _ _
          have longer : ch :: back ≠ (next :: front).reverse ++ (ch :: back) := by
            intro same
            have lengths := congrArg List.length same
            simp only [List.length_append, List.length_reverse, List.length_cons] at lengths
            omega
          simp only [Computes, fits_pow]
          rw [List.reverse_cons, List.append_assoc, List.singleton_append]
          constructor
          · rintro ⟨⟨weighted, sum, power⟩, later⟩
            obtain ⟨short, adds⟩ := (@ih (List.cons_ne_nil _ _) (ch :: back)
              (by simpa using power)).mp later
            refine ⟨by simp only [List.length_cons] at short ⊢; omega, ?_⟩
            intro other rest within long
            rcases Nat.lt_or_ge back.length rest.length with beyond | same
            · exact adds other rest within beyond
            · cases here _ whole within (by omega)
              exact (adds_inner longer).mpr ⟨weighted, sum⟩
          · rintro ⟨short, adds⟩
            have power : back.length + 1 ≤ 18 := by
              simp only [List.length_cons] at short
              omega
            have first := (adds_inner longer).mp (adds ch back whole (Nat.le_refl _))
            refine ⟨⟨first.1, first.2, power⟩, ?_⟩
            refine (ih (List.cons_ne_nil _ _) (by simpa using power)).mpr ⟨?_, ?_⟩
            · simp only [List.length_cons] at short ⊢
              omega
            · intro other rest within long
              exact adds other rest within (Nat.le_of_succ_le long)

theorem fromView_eq_some {text : Bytes} {value : Int} :
    fromView text = some value ↔ Bounded text ∧ value = numberOf text := by
  rw [fromView, fromChars]
  split
  · next empty =>
      subst empty
      have bounded : Bounded [] := ⟨by decide, fun ch rest within => by simp at within⟩
      simp [bounded, numberOf, eq_comm]
  · next nonempty =>
      have loop := fromCharsLoop_eq_some (List.reverse_ne_nil_iff.mpr nonempty) [] value
      have condition := @computes_iff text.reverse (List.reverse_ne_nil_iff.mpr nonempty) []
        (Nat.zero_le 18)
      rw [List.reverse_reverse, List.append_nil] at loop condition
      refine loop.trans (and_congr_left fun _ => condition.trans ?_)
      simp only [List.length_reverse, List.length_nil, Nat.add_zero, Nat.zero_le, true_implies]
      constructor
      · rintro ⟨short, adds⟩
        exact ⟨short, fun ch rest within _ => adds ch rest within⟩
      · intro bounded
        refine ⟨bounded.short, fun ch rest within => ?_⟩
        rcases Nat.lt_or_ge rest.length 17 with low | high
        · exact adds_of_short text ch low
        · exact bounded.leading ch rest within high

/-! ## Decimal literals -/

def digitChar (digit : Nat) : UInt8 := UInt8.ofNat (48 + digit)

/-- Digits, of which the first may be zeros, or a minus sign and digits. -/
def Literal (text : Bytes) (value : Int) : Prop :=
  ∃ digits : List Nat, digits ≠ [] ∧ (∀ digit ∈ digits, digit < 10) ∧
    (text = digits.map digitChar ∧ value = (Nat.ofDigits 10 digits.reverse : Nat) ∨
      text = minusSign :: digits.map digitChar ∧
        value = -((Nat.ofDigits 10 digits.reverse : Nat) : Int))

theorem digitOf_digitChar {digit : Nat} (small : digit < 10) :
    digitOf (digitChar digit) = digit := by
  have all : ∀ digit < 10, digitOf (digitChar digit) = digit := by decide
  exact all digit small

theorem digitChar_ne_minusSign {digit : Nat} (small : digit < 10) :
    digitChar digit ≠ minusSign := by
  have all : ∀ digit < 10, digitChar digit ≠ minusSign := by decide
  exact all digit small

def Decimal (text : Bytes) : Prop := ∀ ch ∈ text, 0 ≤ digitOf ch ∧ digitOf ch ≤ 9

theorem decimal_map {digits : List Nat} (small : ∀ digit ∈ digits, digit < 10) :
    Decimal (digits.map digitChar) := by
  intro ch member
  obtain ⟨digit, inside, rfl⟩ := List.mem_map.mp member
  rw [digitOf_digitChar (small digit inside)]
  have bound := small digit inside
  omega

theorem Decimal.ne_minusSign {text : Bytes} (decimal : Decimal text) {ch : UInt8}
    (member : ch ∈ text) : ch ≠ minusSign := by
  rintro rfl
  exact absurd (decimal _ member).1 (by decide)

theorem Decimal.bounds {text : Bytes} (decimal : Decimal text) :
    0 ≤ positional text ∧ positional text < 10 ^ text.length := by
  induction text with
  | nil => exact ⟨by decide, by decide⟩
  | cons ch rest ih =>
      obtain ⟨digit, rest_decimal⟩ := List.forall_mem_cons.mp decimal
      have tail := ih rest_decimal
      have positive : (0 : Int) < 10 ^ rest.length := by positivity
      rw [positional, List.length_cons, pow_succ]
      constructor <;> nlinarith

theorem Decimal.suffix_le {text rest : Bytes} (decimal : Decimal text) (within : rest <:+ text) :
    positional rest ≤ positional text := by
  induction text with
  | nil => rw [List.suffix_nil.mp within]
  | cons ch text ih =>
      rcases List.suffix_cons_iff.mp within with rfl | inside
      · exact Int.le_refl _
      · obtain ⟨digit, tail⟩ := List.forall_mem_cons.mp decimal
        have weighted : 0 ≤ digitOf ch * 10 ^ text.length := by
          have positive : (0 : Int) < 10 ^ text.length := by positivity
          nlinarith
        rw [positional]
        exact (ih tail inside).trans (Int.le_add_of_nonneg_left weighted)

theorem positional_digits {digits : List Nat} (small : ∀ digit ∈ digits, digit < 10) :
    positional (digits.map digitChar) = (Nat.ofDigits 10 digits.reverse : Nat) := by
  induction digits with
  | nil => rfl
  | cons digit rest ih =>
      obtain ⟨first, later⟩ := List.forall_mem_cons.mp small
      rw [List.map_cons, positional, digitOf_digitChar first, ih later, List.reverse_cons,
        Nat.ofDigits_append, List.length_map, List.length_reverse, Nat.ofDigits_singleton,
        Nat.cast_add, Nat.cast_mul, Nat.cast_pow]
      exact (congrArg (· + _) (Int.mul_comm ..)).trans (Int.add_comm ..)

theorem Literal.numberOf {text : Bytes} {value : Int} (literal : Literal text value) :
    numberOf text = value := by
  obtain ⟨digits, nonempty, small, ⟨rfl, rfl⟩ | ⟨rfl, rfl⟩⟩ := literal
  · rw [← positional_digits small]
    cases digits with
    | nil => exact absurd rfl nonempty
    | cons digit rest =>
        have first := digitChar_ne_minusSign (small digit List.mem_cons_self)
        rw [List.map_cons, Util.numberOf, if_neg first]
  · rw [Util.numberOf, if_pos rfl, positional_digits small]

/-- Within nineteen characters all that is added up for a literal is at most its value. -/
theorem Literal.bounded {text : Bytes} {value : Int} (literal : Literal text value)
    (fits : Fits value) (short : text.length ≤ 19) : Bounded text := by
  have within {text : Bytes} (decimal : Decimal text) {limit : Int} (limited : Fits limit)
      (below : positional text ≤ limit) {ch : UInt8} {rest : Bytes} (inside : ch :: rest <:+ text) :
      Fits (digitOf ch * 10 ^ rest.length) ∧ Fits (positional (ch :: rest)) := by
    have suffix_decimal : Decimal (ch :: rest) := fun other member =>
      decimal other (inside.subset member)
    obtain ⟨digit, tail⟩ := List.forall_mem_cons.mp suffix_decimal
    have sum := (decimal.suffix_le inside).trans below
    have behind := (Decimal.bounds tail).1
    have positive : (0 : Int) < 10 ^ rest.length := by positivity
    have weighted : 0 ≤ digitOf ch * 10 ^ rest.length := by nlinarith
    have upper := limited.2
    rw [positional] at sum ⊢
    exact ⟨⟨by omega, by omega⟩, ⟨by omega, by omega⟩⟩
  obtain ⟨digits, nonempty, small, ⟨rfl, rfl⟩ | ⟨rfl, rfl⟩⟩ := literal
  · have decimal := decimal_map small
    refine ⟨short, fun ch rest inside _ => ?_⟩
    rw [Adds, if_neg fun both => decimal.ne_minusSign (inside.subset List.mem_cons_self) both.1]
    exact within decimal fits (positional_digits small).le inside
  · have decimal := decimal_map small
    have small_value : positional (digits.map digitChar) < 10 ^ 18 := by
      rw [List.length_cons] at short
      exact decimal.bounds.2.trans_le (pow_le_pow_right₀ (by decide) (by omega))
    refine ⟨short, fun ch rest inside _ => ?_⟩
    rcases List.suffix_cons_iff.mp inside with same | inner
    · cases same
      rw [Adds, if_pos ⟨rfl, rfl⟩]
      have lower := decimal.bounds.1
      exact ⟨by omega, by omega⟩
    · have differs := decimal.ne_minusSign (inner.subset List.mem_cons_self)
      rw [Adds, if_neg fun both => differs both.1]
      exact within decimal (show Fits (10 ^ 18) by decide) small_value.le inner

/-- The arithmetic is defined exactly where the leading characters do not weigh too much, and a
literal in range is read exactly if it has at most nineteen characters. -/
theorem fromView_defined (text : Bytes) :
    ((∃ value, fromView text = some value) ↔ Bounded text) ∧
      ∀ value, Literal text value → Fits value →
        (fromView text = some value ↔ text.length ≤ 19) := by
  constructor
  · simp only [fromView_eq_some]
    exact ⟨fun ⟨_, bounded, _⟩ => bounded, fun bounded => ⟨_, bounded, rfl⟩⟩
  · intro value literal fits
    rw [fromView_eq_some, literal.numberOf, and_iff_left rfl]
    exact ⟨Bounded.short, literal.bounded fits⟩

/-- `-1000000000000000000` has twenty characters. -/
theorem fromView_overflows :
    Literal (minusSign :: digitChar 1 :: List.replicate 18 (digitChar 0)) (-10 ^ 18) ∧
      Fits (-10 ^ 18) ∧
        fromView (minusSign :: digitChar 1 :: List.replicate 18 (digitChar 0)) = none :=
  ⟨⟨1 :: List.replicate 18 0, by decide, by decide, .inr ⟨rfl, by decide⟩⟩, by decide, by decide⟩

end UmbraHost.Util
