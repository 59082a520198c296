import Mathlib.Data.Char
import UmbraHost.Json.Access
import UmbraHost.Util.ThreeWay

/-! # Comparing versions

The comparison of version texts in `version_compare.h`. -/

namespace UmbraHost.VersionCompare

open UmbraHost.ThreeWay

abbrev Text := List Char

/-! ## The code -/

/-- `std::variant<int, std::string>`. -/
abbrev PrereleaseIdentifier := Int ⊕ Text

structure Semver where
  major : Int
  minor : Int
  patch : Int
  prerelease : List PrereleaseIdentifier
deriving DecidableEq

def noVersion : Semver := ⟨0, 0, 0, []⟩

def asciiLower (value : Text) : Text := value.map Char.toLower

def isNumericIdentifier (identifier : Text) : Bool :=
  !identifier.isEmpty && identifier.all Char.isDigit

/-- `std::stoi`, which skips blanks and stops at the first other character than a digit. -/
def stoi (text : Text) : Option Int :=
  let text := text.dropWhile Json.isSpace
  let unsigned := if text.head? = some '-' ∨ text.head? = some '+' then text.tail else text
  let digits := unsigned.takeWhile Char.isDigit
  let magnitude : Int := Nat.ofDigitChars 10 digits 0
  let value := if text.head? = some '-' then -magnitude else magnitude
  if digits = [] then none
  else if -2 ^ 31 ≤ value ∧ value < 2 ^ 31 then some value else none

/-- What `std::getline` takes from a stream, one part after the other. -/
def parts : Text → List Text
  | [] => []
  | ch :: rest =>
    if ch = '.' then [] :: parts rest
    else
      match parts rest with
      | [] => [[ch]]
      | first :: later => (ch :: first) :: later

def identifierOf (identifier : Text) : PrereleaseIdentifier :=
  if isNumericIdentifier identifier then
    match stoi identifier with
    | some value => .inl value
    | none => .inr identifier
  else .inr identifier

/-- A part of the core, zero if it is missing. -/
def corePart (part : Option Text) : Option Int :=
  match part with
  | none => some 0
  | some part => stoi part

def parseSemver (version : Text) : Semver :=
  let value := if version.head? = some 'v' ∨ version.head? = some 'V' then version.tail else version
  let value := value.takeWhile (· != '+')
  let core := value.takeWhile (· != '-')
  let prerelease := ((parts (value.dropWhile (· != '-')).tail).filter (· ≠ [])).map identifierOf
  let numbers := parts core
  match corePart numbers[0]?, corePart numbers[1]?, corePart numbers[2]? with
  | some major, some minor, some patch => ⟨major, minor, patch, prerelease⟩
  | _, _, _ => noVersion

def isStableChannel (version : Semver) : Bool :=
  match version.prerelease with
  | .inr identifier :: _ => asciiLower identifier == ['s', 't', 'a', 'b', 'l', 'e']
  | _ => false

def compareIdentifierLists : List PrereleaseIdentifier → List PrereleaseIdentifier → Int
  | [], [] => 0
  | [], _ :: _ => -1
  | _ :: _, [] => 1
  | .inl left :: lhs, .inl right :: rhs =>
    if left ≠ right then if left < right then -1 else 1 else compareIdentifierLists lhs rhs
  | .inl _ :: _, .inr _ :: _ => -1
  | .inr _ :: _, .inl _ :: _ => 1
  | .inr left :: lhs, .inr right :: rhs =>
    if left ≠ right then if left < right then -1 else 1 else compareIdentifierLists lhs rhs

def compareSemver (lhs rhs : Text) : Int :=
  let left := parseSemver lhs
  let right := parseSemver rhs
  if left.major ≠ right.major then if left.major < right.major then -1 else 1
  else if left.minor ≠ right.minor then if left.minor < right.minor then -1 else 1
  else if left.patch ≠ right.patch then if left.patch < right.patch then -1 else 1
  else
    let leftStable := isStableChannel left
    let rightStable := isStableChannel right
    if leftStable && rightStable then
      compareIdentifierLists (left.prerelease.drop 1) (right.prerelease.drop 1)
    else if leftStable ≠ rightStable then if leftStable then 1 else -1
    else if left.prerelease = [] ∧ right.prerelease = [] then 0
    else if left.prerelease = [] then 1
    else if right.prerelease = [] then -1
    else compareIdentifierLists left.prerelease right.prerelease

/-! ## The order -/

/-- Numbers come before texts. -/
def identifierKey (identifier : PrereleaseIdentifier) : Int ⊕ₗ Text := toLex identifier

/-- Prereleases come before the release and its respins behind it. -/
def channel (version : Semver) : Nat :=
  if isStableChannel version then 2 else if version.prerelease = [] then 1 else 0

def ordered (version : Semver) : List (Int ⊕ₗ Text) :=
  (if isStableChannel version then version.prerelease.drop 1 else version.prerelease).map
    identifierKey

/-- What the comparison orders versions by. -/
def key (version : Semver) : Int ×ₗ Int ×ₗ Int ×ₗ Nat ×ₗ List (Int ⊕ₗ Text) :=
  toLex (version.major, toLex (version.minor, toLex (version.patch,
    toLex (channel version, ordered version))))

theorem compareIdentifierLists_eq (lhs rhs : List PrereleaseIdentifier) :
    compareIdentifierLists lhs rhs =
      threeWay (lhs.map identifierKey) (rhs.map identifierKey) := by
  induction lhs generalizing rhs with
  | nil =>
      cases rhs with
      | nil => exact (threeWay_self _).symm
      | cons right rhs => exact (threeWay_nil_cons _ _).symm
  | cons left lhs ih =>
      cases rhs with
      | nil => cases left <;> exact (threeWay_cons_nil _ _).symm
      | cons right rhs =>
          rw [List.map_cons, List.map_cons, threeWay_cons]
          cases left with
          | inl left =>
              cases right with
              | inl right =>
                  by_cases same : left = right
                  · subst same
                    rw [compareIdentifierLists, if_neg (by simp), if_pos rfl, ih]
                  · have other : identifierKey (.inl left) ≠ identifierKey (.inl right) := by
                      simpa [identifierKey] using same
                    rw [compareIdentifierLists, if_pos same, if_neg other, identifierKey,
                      identifierKey, threeWay_inl, threeWay_of_ne same]
              | inr right => exact (threeWay_inl_inr left right).symm
          | inr left =>
              cases right with
              | inl right => exact (threeWay_inr_inl right left).symm
              | inr right =>
                  by_cases same : left = right
                  · subst same
                    rw [compareIdentifierLists, if_neg (by simp), if_pos rfl, ih]
                  · have other : identifierKey (.inr left) ≠ identifierKey (.inr right) := by
                      simpa [identifierKey] using same
                    rw [compareIdentifierLists, if_pos same, if_neg other, identifierKey,
                      identifierKey, threeWay_inr, threeWay_of_ne same]
                    by_cases less : left < right <;> simp [less]

/-- Behind equal cores the channels decide, and in one channel the identifiers. -/
theorem compareChannels (left right : Semver) :
    (if isStableChannel left && isStableChannel right then
        compareIdentifierLists (left.prerelease.drop 1) (right.prerelease.drop 1)
      else if isStableChannel left ≠ isStableChannel right then
        if isStableChannel left then 1 else -1
      else if left.prerelease = [] ∧ right.prerelease = [] then 0
      else if left.prerelease = [] then 1
      else if right.prerelease = [] then -1
      else compareIdentifierLists left.prerelease right.prerelease) =
        if channel left = channel right then threeWay (ordered left) (ordered right)
        else threeWay (channel left) (channel right) := by
  simp only [compareIdentifierLists_eq, channel, ordered]
  rcases Bool.eq_false_or_eq_true (isStableChannel left) with first | first <;>
    rcases Bool.eq_false_or_eq_true (isStableChannel right) with second | second
  · simp [first, second]
  · by_cases release : right.prerelease = [] <;> simp [first, second, release, threeWay]
  · by_cases release : left.prerelease = [] <;> simp [first, second, release, threeWay]
  · by_cases release : left.prerelease = []
    · by_cases other : right.prerelease = [] <;> simp [first, second, release, other, threeWay]
    · by_cases other : right.prerelease = []
      · simp [first, second, release, other, threeWay]
      · simp [first, second, release, other]

/-- The comparison is the one of the keys. -/
theorem compareSemver_eq (lhs rhs : Text) :
    compareSemver lhs rhs = threeWay (key (parseSemver lhs)) (key (parseSemver rhs)) := by
  rw [compareSemver]
  dsimp only
  generalize parseSemver lhs = left
  generalize parseSemver rhs = right
  have channels := compareChannels left right
  simp only [key, threeWay_pair]
  by_cases major : left.major = right.major
  · rw [if_neg (not_not.mpr major), if_pos major]
    by_cases minor : left.minor = right.minor
    · rw [if_neg (not_not.mpr minor), if_pos minor]
      by_cases patch : left.patch = right.patch
      · rw [if_neg (not_not.mpr patch), if_pos patch]
        exact channels
      · rw [if_pos patch, if_neg patch, threeWay_of_ne patch]
    · rw [if_pos minor, if_neg minor, threeWay_of_ne minor]
  · rw [if_pos major, if_neg major, threeWay_of_ne major]

end UmbraHost.VersionCompare
