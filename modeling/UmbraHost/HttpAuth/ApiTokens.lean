import UmbraHost.HttpAuth.ConcurrentSaves
import UmbraHost.Json.Access
import UmbraHost.Tables.Sorted
import Mathlib.Data.Char
import Mathlib.Data.List.Lex

/-! # API tokens and their scopes

`ApiTokenManager` of `http_auth.cpp`: the scopes of a new token, and the check of
a request against them in the order of the scope map. -/

namespace UmbraHost.HttpAuth

open UmbraHost.Json UmbraHost.Tables

/-- A pattern and the methods it is for. -/
abbrev Scope := Text × List Text

/-- `boost::regex`: a pattern that its constructor takes decides full matches. -/
abbrev Regex := Text → Option (Text → Bool)

/-- The exception of a pattern that is not a regular expression. -/
structure RegexError where
deriving DecidableEq

def toUpperCopy (text : Text) : Text := text.map Char.toUpper

def iequals (first second : Text) : Bool := toUpperCopy first = toUpperCopy second

/-! ## Authentication -/

/-- The pattern as it is compiled. -/
def anchored (scopePath : Text) : Text :=
  let pattern := if scopePath.head? = some '^' then scopePath else '^' :: scopePath
  if pattern.getLast? = some '$' then pattern else pattern ++ ['$']

def isMethodAllowed (reqMethod : Text) (methods : List Text) : Bool :=
  methods.any fun method => iequals method reqMethod

/-- The `any_of` over the scope map; a pattern is compiled when its turn comes. -/
def anyScope (regex : Regex) (path reqMethod : Text) : List Scope → Except RegexError Bool
  | [] => .ok false
  | scope :: rest =>
    match regex (anchored scope.1) with
    | none => .error {}
    | some regexMatch =>
        if regexMatch path && isMethodAllowed reqMethod scope.2 then .ok true
        else anyScope regex path reqMethod rest

def authenticateToken (regex : Regex) (dependencies : Dependencies)
    (apiTokens : Table Text ApiTokenInfo) (token path method : Text) : Except RegexError Bool :=
  match apiTokens.lookup (dependencies.hash token) with
  | none => .ok false
  | some info => anyScope regex path (toUpperCopy method) info.pathMethods

/-! ## Creation -/

inductive ScopesError where
  /-- `InvalidScopeException`, for which there is no token. -/
  | invalidScope
  /-- An exception of the JSON library, which goes to the caller. -/
  | thrown (thrown : Thrown)
deriving DecidableEq

def getString (value : Value) : Except ScopesError Text :=
  match value.getText with
  | .ok text => .ok text.toList
  | .error thrown => .error (.thrown thrown)

def methodSet (methods : List Text) : List Text :=
  methods.foldl (fun built method => tryEmplace id method built) []

def parseJsonScope (json : Value) : Except ScopesError Scope :=
  match json.find? "path", json.find? "methods" with
  | some path, some (.arr methods) => do
      let path ← getString path
      let methods ← methods.mapM getString
      return (path, methodSet (methods.map toUpperCopy))
  | _, _ => .error .invalidScope

/-- A later scope for a path takes the place of an earlier one. -/
def parseJsonScopes (json : Value) : Except ScopesError (List Scope) := do
  let scopes ← json.elements.mapM parseJsonScope
  return scopes.foldl (fun built scope => insertOrAssign Prod.fst scope built) []

/-- `token` is what `rand_alphabet` returns. -/
def createApiToken (dependencies : Dependencies) (scopesJson : Value) (username token : Text)
    (now : Int) (apiTokens : Table Text ApiTokenInfo) :
    Except ScopesError (Table Text ApiTokenInfo) := do
  let pathMethods ← parseJsonScopes scopesJson
  return apiTokens.insert (dependencies.hash token) { pathMethods, username, createdAt := now }

def revokeApiTokenByHash (hash : Text) (apiTokens : Table Text ApiTokenInfo) :
    Table Text ApiTokenInfo :=
  if hash = [] then apiTokens else apiTokens.erase hash

/-! ## What a request is granted -/

/-- The pattern of the scope is a regular expression. -/
def Scope.valid (regex : Regex) (scope : Scope) : Bool := (regex (anchored scope.1)).isSome

/-- The scope has a pattern that matches the path and, up to case, the method. -/
def Scope.grants (regex : Regex) (path method : Text) (scope : Scope) : Bool :=
  ((regex (anchored scope.1)).any fun regexMatch => regexMatch path) &&
    scope.2.any fun allowed => iequals allowed method

theorem toUpper_of_not_lower {char : Char}
    (notLower : ¬ ('a'.val ≤ char.val ∧ char.val ≤ 'z'.val)) : char.toUpper = char := by
  unfold Char.toUpper
  rw [dif_neg notLower]

/-- What is in upper case stays as it is. -/
theorem toUpper_toUpper (char : Char) : char.toUpper.toUpper = char.toUpper := by
  by_cases lower : 'a'.val ≤ char.val ∧ char.val ≤ 'z'.val
  · have upper : char.toUpper.val = char.val + ('A'.val - 'a'.val) := by
      unfold Char.toUpper
      rw [dif_pos lower]
    refine toUpper_of_not_lower ?_
    rw [upper]
    obtain ⟨low, high⟩ := lower
    simp only [UInt32.le_iff_toNat_le, UInt32.toNat_add] at low high ⊢
    simp at low high ⊢
    omega
  · rw [toUpper_of_not_lower lower, toUpper_of_not_lower lower]

theorem toUpperCopy_toUpperCopy (text : Text) :
    toUpperCopy (toUpperCopy text) = toUpperCopy text := by
  simp only [toUpperCopy, List.map_map, Function.comp_def, toUpper_toUpper]

theorem isMethodAllowed_toUpperCopy (method : Text) (methods : List Text) :
    isMethodAllowed (toUpperCopy method) methods =
      methods.any fun allowed => iequals allowed method := by
  simp only [isMethodAllowed, iequals, toUpperCopy_toUpperCopy]

/-- One turn of the loop, by what the scope does. -/
theorem anyScope_cons (regex : Regex) (path method : Text) (scope : Scope) (rest : List Scope) :
    anyScope regex path (toUpperCopy method) (scope :: rest) =
      if scope.valid regex = false then .error {}
      else if scope.grants regex path method then .ok true
      else anyScope regex path (toUpperCopy method) rest := by
  rw [anyScope, isMethodAllowed_toUpperCopy]
  cases compiled : regex (anchored scope.1) <;>
    simp [Scope.valid, Scope.grants, compiled]

/-- The loop ends well exactly when a scope that grants the request, or the end,
comes before the first pattern that is no regular expression. -/
theorem anyScope_eq_ok_iff {regex : Regex} {path method : Text} {scopes : List Scope} :
    anyScope regex path (toUpperCopy method) scopes =
        .ok (scopes.any fun scope => scope.grants regex path method) ↔
      ∀ front scope back, scopes = front ++ scope :: back → scope.valid regex = false →
        ∃ earlier ∈ front, earlier.grants regex path method = true := by
  induction scopes with
  | nil => simp [anyScope]
  | cons first rest ih =>
      rw [anyScope_cons]
      cases valid : first.valid regex with
      | false =>
          constructor
          · intro raised
            simp at raised
          · intro covered
            obtain ⟨earlier, member, -⟩ := covered [] first rest rfl valid
            cases member
      | true =>
          cases granted : first.grants regex path method with
          | true =>
              simp only [Bool.true_eq_false, if_false, if_true, List.any_cons, granted,
                Bool.true_or, true_iff]
              intro front scope back split invalid
              cases front with
              | nil =>
                  obtain ⟨rfl, -⟩ := List.cons.inj split
                  rw [valid] at invalid
                  cases invalid
              | cons head tail =>
                  obtain ⟨rfl, -⟩ := List.cons.inj split
                  exact ⟨first, List.mem_cons_self, granted⟩
          | false =>
              simp only [Bool.true_eq_false, Bool.false_eq_true, if_false, List.any_cons, granted,
                Bool.false_or]
              rw [ih]
              constructor
              · intro covered front scope back split invalid
                cases front with
                | nil =>
                    obtain ⟨rfl, -⟩ := List.cons.inj split
                    rw [valid] at invalid
                    cases invalid
                | cons head tail =>
                    obtain ⟨rfl, later⟩ := List.cons.inj split
                    obtain ⟨earlier, member, grants⟩ := covered tail scope back later invalid
                    exact ⟨earlier, List.mem_cons_of_mem _ member, grants⟩
              · intro covered front scope back split invalid
                obtain ⟨earlier, member, grants⟩ :=
                  covered (first :: front) scope back (by rw [split, List.cons_append]) invalid
                rcases List.mem_cons.mp member with rfl | member
                · rw [granted] at grants
                  cases grants
                · exact ⟨earlier, member, grants⟩

/-- The answer that the scopes of the token give. -/
def scopesGrant (regex : Regex) (dependencies : Dependencies)
    (apiTokens : Table Text ApiTokenInfo) (token path method : Text) : Bool :=
  (apiTokens.lookup (dependencies.hash token)).any fun info =>
    info.pathMethods.any fun scope : Scope => scope.grants regex path method

/-- Every scope whose pattern is no regular expression stands behind one that
grants the request. -/
def InvalidBehindGrant (regex : Regex) (path method : Text) (scopes : List Scope) : Prop :=
  ∀ front scope back, scopes = front ++ scope :: back → scope.valid regex = false →
    ∃ earlier ∈ front, earlier.grants regex path method = true

/-- A request is answered by the scopes of its token exactly when no scope with
an invalid pattern is met before one that grants the request. -/
theorem authenticateToken_iff (regex : Regex) (dependencies : Dependencies)
    (apiTokens : Table Text ApiTokenInfo) (token path method : Text) :
    authenticateToken regex dependencies apiTokens token path method =
        .ok (scopesGrant regex dependencies apiTokens token path method) ↔
      ∀ info, apiTokens.lookup (dependencies.hash token) = some info →
        InvalidBehindGrant regex path method info.pathMethods := by
  unfold authenticateToken scopesGrant
  cases apiTokens.lookup (dependencies.hash token) with
  | none => simp
  | some info =>
      simp only [Option.any_some, Option.some.injEq, forall_eq']
      exact anyScope_eq_ok_iff

/-! ## A pattern that creation accepts -/

/-- Two scopes, of which the first in the map has an unmatched parenthesis. -/
def unclosedScopes : Value :=
  .arr [.obj [("path", .str "/api/apps"), ("methods", .arr [.str "GET"])],
    .obj [("path", .str "("), ("methods", .arr [.str "GET"])]]

/-- A regular expression library on literal patterns and on the unmatched parenthesis. -/
def literalRegex : Regex := fun pattern =>
  if pattern = "^($".toList then none else some fun path => '^' :: path ++ ['$'] = pattern

def textHash : Dependencies where
  hash := id
  ticksPerSecond := 1
  ticks_pos := Int.one_pos

theorem unclosed_pattern_raises :
    ¬ ∀ (regex : Regex) (dependencies : Dependencies) (scopesJson : Value)
        (username token : Text) (now : Int) (apiTokens created : Table Text ApiTokenInfo)
        (path method : Text),
      createApiToken dependencies scopesJson username token now apiTokens = .ok created →
      authenticateToken regex dependencies created token path method =
        .ok (scopesGrant regex dependencies created token path method) := by
  intro total
  have raised := total literalRegex textHash unclosedScopes [] "t".toList 0 ∅
    (AList.insert "t".toList
      { pathMethods := [("(".toList, ["GET".toList]), ("/api/apps".toList, ["GET".toList])]
        username := [], createdAt := 0 } ∅) "/api/apps".toList "GET".toList rfl
  revert raised
  decide +kernel

end UmbraHost.HttpAuth
