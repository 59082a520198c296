import Mathlib.Data.List.TakeWhile
import Mathlib.Algebra.Group.Nat.Defs
import Mathlib.Algebra.Group.Int.Defs
import UmbraHost.Json.Tree

/-! # Reading JSON values

The accessors of the `nlohmann` type that state files are read with, and the
conversions `std::stoll` and `std::stoull` of text. -/

namespace UmbraHost.Json

/-- What a failing accessor throws. -/
inductive Thrown where
  | typeError
  | invalidArgument
deriving DecidableEq, Repr

abbrev Result := Except Thrown

@[simp] theorem ok_bind {α β : Type} (value : α) (next : α → Result β) :
    (Except.ok value >>= next) = next value := rfl

namespace Value

/-- The member of an object; no other value has members. -/
def find? (name : String) : Value → Option Value
  | obj fields => List.lookup name fields
  | _ => none

/-- `value(name, default)` for texts. -/
def valueOr (name default : String) : Value → Result String
  | obj fields =>
    match List.lookup name fields with
    | none => .ok default
    | some (str text) => .ok text
    | some _ => .error .typeError
  | _ => .error .typeError

/-- `get<std::string>()`. -/
def getText : Value → Result String
  | str text => .ok text
  | _ => .error .typeError

/-- What a range `for` goes through: a scalar stands for itself. -/
def elements : Value → List Value
  | null => []
  | arr items => items
  | obj fields => fields.map Prod.snd
  | scalar => [scalar]

end Value

/-! ## Numbers in text -/

def isSpace (char : Char) : Bool :=
  char = ' ' || ('\t' ≤ char && char ≤ '\r')

def magnitude? (text : List Char) : Option Nat :=
  match text.takeWhile Char.isDigit with
  | [] => none
  | digits => some (Nat.ofDigitChars 10 digits 0)

/-- The integer that a text begins with, after blanks and a sign. -/
def integer? (text : String) : Option Int :=
  match text.toList.dropWhile isSpace with
  | '-' :: rest => (magnitude? rest).map fun magnitude => -(magnitude : Int)
  | '+' :: rest => (magnitude? rest).map fun magnitude => (magnitude : Int)
  | rest => (magnitude? rest).map fun magnitude => (magnitude : Int)

/-- `std::stoll`; nothing stands for its exceptions. -/
def stoll (text : String) : Option Int64 :=
  (integer? text).bind fun value =>
    if -2 ^ 63 ≤ value ∧ value < 2 ^ 63 then some (Int64.ofInt value) else none

/-- `std::stoull`: a minus sign negates modulo `2 ^ 64`. -/
def stoull (text : String) : Option UInt64 :=
  (integer? text).bind fun value =>
    if value.natAbs < 2 ^ 64 then some (UInt64.ofInt value) else none

theorem magnitude?_toDigits (magnitude : Nat) :
    magnitude? (Nat.toDigits 10 magnitude) = some magnitude := by
  have digits : (Nat.toDigits 10 magnitude).takeWhile Char.isDigit = Nat.toDigits 10 magnitude :=
    List.takeWhile_eq_self_iff.mpr fun char member =>
      Nat.isDigit_of_mem_toDigits (by decide) (by decide) member
  rw [magnitude?, digits]
  split
  next none => exact absurd none Nat.toDigits_ne_nil
  next => rw [Nat.ofDigitChars_ten_toDigits]

theorem not_isSpace_of_isDigit {char : Char} (digit : char.isDigit) : isSpace char = false := by
  simp only [Char.isDigit, Bool.and_eq_true, decide_eq_true_eq] at digit
  simp only [isSpace, Bool.or_eq_false_iff, decide_eq_false_iff_not, Bool.and_eq_false_iff]
  have low : ('0' : Char).val ≤ char.val := digit.1
  refine ⟨?_, .inr ?_⟩
  · rintro rfl
    exact absurd low (by decide)
  · intro small
    exact absurd (UInt32.le_trans low small) (by decide)

/-- The decimal digits of an integer read back as that integer. -/
theorem integer?_decimal (value : Int) : integer? (decimal value) = some value := by
  cases value with
  | ofNat magnitude =>
    obtain ⟨first, rest, shape⟩ := List.exists_cons_of_ne_nil
      (Nat.toDigits_ne_nil (n := magnitude) (b := 10))
    have digit : first.isDigit :=
      Nat.isDigit_of_mem_toDigits (b := 10) (n := magnitude) (by decide) (by decide)
        (shape ▸ List.mem_cons_self)
    have blank := not_isSpace_of_isDigit digit
    have read := magnitude?_toDigits magnitude
    rw [shape] at read
    simp only [integer?, decimal, String.toList_ofList, shape, List.dropWhile_cons, blank,
      Bool.false_eq_true, if_false]
    split
    next minus => cases minus; exact absurd digit (by decide)
    next plus => cases plus; exact absurd digit (by decide)
    next => rw [read]; rfl
  | negSucc less =>
    simp only [integer?, decimal, String.toList_ofList]
    have blank : isSpace '-' = false := by decide
    simp only [List.dropWhile_cons, blank, Bool.false_eq_true, if_false, magnitude?_toDigits]
    rfl

theorem stoll_decimal (value : Int64) : stoll (decimal value.toInt) = some value := by
  have low := Int64.le_toInt value
  have high := Int64.toInt_lt value
  rw [stoll, integer?_decimal, Option.bind_some, if_pos ⟨low, high⟩, Int64.ofInt_toInt]

theorem stoull_decimal {value : Nat} (bound : value < 2 ^ 64) :
    stoull (decimal value) = some (UInt64.ofNat value) := by
  have small : ((value : Int) % 2 ^ 64).toNat = value := by omega
  rw [stoull, integer?_decimal, Option.bind_some, if_pos (by simpa using bound), UInt64.ofInt,
    small]

end UmbraHost.Json
