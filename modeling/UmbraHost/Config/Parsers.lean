import UmbraHost.Config.Lines
import UmbraHost.Json.Access
import UmbraHost.Rtsp.Announce

/-! # Parsers of options

What the parsers of `config.cpp` make of the text of an option and the value a setting has.
A parser that finds no text, or none it accepts, keeps the value. -/

namespace UmbraHost.Config

open Json (isSpace)
open Rtsp (fromView toInt)

/-! ## Numbers -/

/-- A digit of `util::from_hex`, which also takes the letters behind `f`. -/
def hexDigit (ch : Char) : Nat :=
  if ch.isDigit then ch.toNat - 48 else ch.toLower.toNat - 97 + 10

/-- The bytes of a number from its last digit to its first; a digit without a partner is
left out. -/
def hexBytes : List Nat → List Nat
  | right :: left :: rest => (left * 16 ||| right) % 256 :: hexBytes rest
  | _ => []

/-- `util::from_hex<int>`. -/
def fromHex (hex : Text) : Int :=
  let digits := (hex.filter Char.isAlphanum).reverse.map hexDigit
  toInt ((hexBytes digits).foldr (fun byte number => byte + 256 * number) 0 : Nat)

/-- A number in decimal or hexadecimal digits, which may stand between quotes. -/
def intValue (text : String) : Int :=
  let given := text.toList
  let val :=
    if 2 ≤ given.length ∧ given.head? = some '"' then (given.drop 1).take (given.length - 2)
    else given
  if val.take 2 = ['0', 'x'] then fromHex (val.drop 2) else toInt (fromView val)

def intMin : Int := -2 ^ 31

def intMax : Int := 2 ^ 31 - 1

/-! ## Values -/

def stringOf (text : Option String) (input : String) : String := text.getD input

def genericOf {τ : Type} (fromText : String → τ) (text : Option String) (input : τ) : τ :=
  ((nonempty text).map fromText).getD input

def restrictedOf (allowedVals : List String) (text : Option String) (input : String) : String :=
  let temp := text.getD ""
  if temp ∈ allowedVals then temp else input

/-- `resolve` turns a path that is not absolute into one under the folder of the program. -/
def pathOf (resolve : String → String) (text : Option String) (input : String) : String :=
  resolve ((nonempty text).getD input)

def intOf (text : Option String) (input : Int) : Int := (text.map intValue).getD input

def intBetweenOf (lower upper : Int) (text : Option String) (input : Int) : Int :=
  let temp := intOf text input
  if lower ≤ temp ∧ temp ≤ upper then temp else input

/-- The loop that lowers the letters first keeps none of its results. -/
def toBool (boolean : String) : Bool :=
  boolean ∈ ["true", "yes", "enable", "enabled", "on"] ∨ '1' ∈ boolean.toList

def boolOf : Option String → Bool → Bool := genericOf toBool

/-- `strtod` gives nothing where it converts no character. -/
def doubleOf (strtod : String → Option Float) (text : Option String) (input : Float) : Float :=
  ((nonempty text).bind strtod).getD input

def doubleBetweenOf (strtod : String → Option Float) (lower upper : Float)
    (text : Option String) (input : Float) : Float :=
  let temp := doubleOf strtod text input
  if lower ≤ temp ∧ temp ≤ upper then temp else input

/-! ## Frame limits -/

def trim (text : String) : Text := (text.toList.dropWhile isSpace).rdropWhile isSpace

def parseUnsigned (text : Text) (maximum : Nat) : Option Nat :=
  if text = [] then none
  else
    text.foldlM (fun parsed ch =>
      let digit := ch.toNat - 48
      if !ch.isDigit || maximum < digit || (maximum - digit) / 10 < parsed then none
      else some (parsed * 10 + digit)) 0

/-- Hertz with up to three decimal places, in thousandths. -/
def millihz (value : Text) : Option Nat :=
  if '.' ∉ value then (parseUnsigned value 1000).map (· * 1000)
  else
    let fractional := (value.dropWhile (· != '.')).tail
    if '.' ∈ fractional ∨ fractional = [] ∨ 3 < fractional.length then none
    else do
      let wholeHertz ← parseUnsigned (value.takeWhile (· != '.')) 1000
      let fractionalMillihz ← parseUnsigned fractional 999
      let scale := match fractional.length with
        | 1 => 100
        | 2 => 10
        | _ => 1
      return wholeHertz * 1000 + fractionalMillihz * scale

def frameLimitMillihzOf (text : Option String) (input : Nat) : Nat :=
  let value := trim (text.getD "")
  match if value = [] then none else millihz value with
  | some limit => if limit ≤ 1000000 then limit else input
  | none => input

/-! ## Lists -/

/-- The items of a list, each with what stands between its brackets.  Brackets that stay
open take the character that ends the text into the item. -/
def listItems (item : Text) : Text → List Text
  | [] => if item = [] then [] else [item]
  | ch :: rest =>
    if ch = '[' then
      match _behind : skipList 1 rest with
      | [] => [item ++ ch :: rest ++ ['\x00']]
      | _ :: left =>
        listItems (item ++ ch :: rest.take (rest.length - left.length)) left
    else if ch = ']' then if item = [] then [] else [item]
    else if ch = ',' then item :: listItems [] (rest.dropWhile whitespace)
    else listItems (item ++ [ch]) rest
termination_by text => text.length
decreasing_by
  · have skipped := length_skipList_le 1 rest
    rw [_behind, List.length_cons] at skipped
    simp only [List.length_cons]
    omega
  · exact Nat.lt_succ_of_le (List.dropWhile_suffix _).length_le
  · exact Nat.lt_succ_self _

def listString (string : String) : List String :=
  let items := match string.toList with
    | '[' :: rest => rest
    | text => text
  (listItems [] (items.dropWhile whitespace)).map String.ofList

def listStringOf : Option String → List String → List String := genericOf listString

def listInt (text : Option String) : List Int := (listStringOf text []).map intValue

/-- The pairs of a list; a key that is there keeps its value. -/
def emplacePairs : List Int → List (Int × Int) → List (Int × Int)
  | key :: val :: rest, input =>
    emplacePairs rest (if (input.lookup key).isSome then input else input ++ [(key, val)])
  | _, input => input

def mapIntIntOf (text : Option String) (input : List (Int × Int)) : List (Int × Int) :=
  if (listInt text).length % 2 = 0 then emplacePairs (listInt text) input else input

/-! ## Lines -/

namespace Setting

variable {σ τ : Type}

/-- A line that parses one option into one setting. -/
def parsing (parse : Option String → τ → τ) (name : String) (get : σ → τ)
    (set : τ → σ → σ) : Setting σ :=
  taking name fun text settings => set (parse text (get settings)) settings

/-- A line that takes an option out of the variables and ignores its text. -/
def ignoring (name : String) : Setting σ := taking name fun _ settings => settings

end Setting

section

variable {σ τ : Type} (name : String)

def stringF (get : σ → String) (set : String → σ → σ) : Setting σ :=
  .parsing stringOf name get set

def genericF (fromText : String → τ) (get : σ → τ) (set : τ → σ → σ) : Setting σ :=
  .parsing (genericOf fromText) name get set

def stringRestrictedF (allowedVals : List String) (get : σ → String)
    (set : String → σ → σ) : Setting σ :=
  .parsing (restrictedOf allowedVals) name get set

def pathF (resolve : String → String) (get : σ → String) (set : String → σ → σ) : Setting σ :=
  .parsing (pathOf resolve) name get set

def intF (get : σ → Int) (set : Int → σ → σ) : Setting σ := .parsing intOf name get set

def intBetweenF (lower upper : Int) (get : σ → Int) (set : Int → σ → σ) : Setting σ :=
  .parsing (intBetweenOf lower upper) name get set

def boolF (get : σ → Bool) (set : Bool → σ → σ) : Setting σ := .parsing boolOf name get set

def doubleBetweenF (strtod : String → Option Float) (lower upper : Float) (get : σ → Float)
    (set : Float → σ → σ) : Setting σ :=
  .parsing (doubleBetweenOf strtod lower upper) name get set

def frameLimitMillihzF (get : σ → Nat) (set : Nat → σ → σ) : Setting σ :=
  .parsing frameLimitMillihzOf name get set

def mapIntIntF (get : σ → List (Int × Int)) (set : List (Int × Int) → σ → σ) : Setting σ :=
  .parsing mapIntIntOf name get set

end

end UmbraHost.Config
