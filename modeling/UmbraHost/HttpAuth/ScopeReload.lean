import UmbraHost.HttpAuth.ApiTokens
import UmbraHost.Transition.Fallible
import UmbraHost.Transition.Run

/-! # Loading the API tokens back

`load_api_tokens` on the nodes that `save_api_tokens` writes.  The loader drops a
scope without a path or without methods, so a scope that grants nothing may be
gone after a restart. -/

namespace UmbraHost.HttpAuth

open UmbraHost.Tables UmbraHost.Transition

/-! ## The loader -/

def parseScope (node : Scope) : Option Scope :=
  if node.1 = [] then none
  else
    let methods := methodSet node.2
    if methods = [] then none else some (node.1, methods)

def buildScopeMap (nodes : List Scope) : List Scope :=
  (nodes.filterMap parseScope).foldl (fun built scope => tryEmplace Prod.fst scope built) []

/-- The token of a node. -/
def loadedInfo (dependencies : Dependencies) (node : ApiTokenNode) : ApiTokenInfo where
  pathMethods := buildScopeMap node.scopes
  username := node.username
  createdAt := dependencies.seconds node.createdAt

def loadApiToken (dependencies : Dependencies) (loaded : Table Text ApiTokenInfo)
    (node : ApiTokenNode) : Table Text ApiTokenInfo :=
  if node.hash = [] then loaded
  else if node.hash ∈ loaded then loaded
  else loaded.insert node.hash (loadedInfo dependencies node)

def loadApiTokens (dependencies : Dependencies) (nodes : List ApiTokenNode) :
    Table Text ApiTokenInfo :=
  nodes.foldl (loadApiToken dependencies) ∅

/-- The tokens after a save and a load. -/
def reloadApiTokens (dependencies : Dependencies) (apiTokens : Table Text ApiTokenInfo) :
    Table Text ApiTokenInfo :=
  loadApiTokens dependencies (apiNodes dependencies apiTokens)

/-! ## Stores of the manager -/

inductive ApiCall where
  | create (scopesJson : Json.Value) (username token : Text) (now : Int)
  | revoke (hash : Text)

/-- A refused creation leaves the tokens as they are. -/
def ApiCall.apply (dependencies : Dependencies) (call : ApiCall)
    (apiTokens : Table Text ApiTokenInfo) : Table Text ApiTokenInfo :=
  match call with
  | .create scopesJson username token now =>
      match createApiToken dependencies scopesJson username token now apiTokens with
      | .ok created => created
      | .error _ => apiTokens
  | .revoke hash => revokeApiTokenByHash hash apiTokens

/-- The tokens that calls of the manager lead to. -/
def apiTokensAfter (dependencies : Dependencies) (calls : List ApiCall) :
    Table Text ApiTokenInfo :=
  run (ApiCall.apply dependencies) calls ∅

/-- A scope map: its patterns and the methods of each are in order. -/
structure ScopeMap (scopes : List Scope) : Prop where
  patterns : Sorted Prod.fst scopes
  methods : ∀ scope ∈ scopes, Sorted id scope.2

theorem sorted_methodSet (methods : List Text) : Sorted id (methodSet methods) := by
  have kept : ∀ built : List Text, Sorted id built →
      Sorted id (methods.foldl (fun built method => tryEmplace id method built) built) := by
    induction methods with
    | nil => exact fun _ sorted => sorted
    | cons method rest ih => exact fun built sorted => ih _ sorted.tryEmplace
  exact kept [] List.Pairwise.nil

theorem methodSet_of_sorted {methods : List Text} (sorted : Sorted id methods) :
    methodSet methods = methods :=
  foldl_tryEmplace_self sorted

theorem ScopeMap.insertOrAssign {scopes : List Scope} (scopeMap : ScopeMap scopes) {scope : Scope}
    (methods : Sorted id scope.2) : ScopeMap (insertOrAssign Prod.fst scope scopes) := by
  refine ⟨scopeMap.patterns.insertOrAssign, ?_⟩
  intro other member
  rcases mem_insertBy member with rfl | member | ⟨old, -, -, rfl⟩
  · exact methods
  · exact scopeMap.methods other member
  · exact methods

theorem sorted_parseJsonScope {json : Json.Value} {scope : Scope}
    (parsed : parseJsonScope json = .ok scope) : Sorted id scope.2 := by
  unfold parseJsonScope at parsed
  split at parsed
  next path methods _ _ =>
    obtain ⟨pathText, -, parsed⟩ := ok_of_bind parsed
    obtain ⟨methodTexts, -, parsed⟩ := ok_of_bind parsed
    cases parsed
    exact sorted_methodSet _
  · cases parsed

theorem scopeMap_parseJsonScopes {json : Json.Value} {scopes : List Scope}
    (parsed : parseJsonScopes json = .ok scopes) : ScopeMap scopes := by
  unfold parseJsonScopes at parsed
  obtain ⟨items, listed, parsed⟩ := ok_of_bind parsed
  have each : ∀ scope ∈ items, Sorted id scope.2 := by
    intro scope member
    obtain ⟨source, -, from_⟩ := mem_of_mapM listed member
    exact sorted_parseJsonScope from_
  have kept : ∀ built : List Scope, ScopeMap built →
      ScopeMap (items.foldl (fun built scope => insertOrAssign Prod.fst scope built) built) := by
    clear listed parsed
    induction items with
    | nil => exact fun _ built => built
    | cons scope rest ih =>
        intro built holds
        exact ih (fun other member => each other (List.mem_cons_of_mem _ member)) _
          (holds.insertOrAssign (each scope List.mem_cons_self))
  cases parsed
  exact kept [] ⟨List.Pairwise.nil, fun _ member => by cases member⟩

/-- Every token of the manager has a scope map. -/
theorem scopeMap_apiTokensAfter (dependencies : Dependencies) (calls : List ApiCall) {hash : Text}
    {info : ApiTokenInfo}
    (held : (apiTokensAfter dependencies calls).lookup hash = some info) :
    ScopeMap info.pathMethods := by
  have kept : ∀ hash info, (apiTokensAfter dependencies calls).lookup hash = some info →
      ScopeMap info.pathMethods := by
    refine run_preserves (ApiCall.apply dependencies)
      (fun apiTokens => ∀ hash info, apiTokens.lookup hash = some info →
        ScopeMap info.pathMethods) ?_ calls (by intro hash info found; cases found)
    intro call apiTokens holds hash info found
    cases call with
    | create scopesJson username token now =>
        simp only [ApiCall.apply, createApiToken] at found
        cases parsed : parseJsonScopes scopesJson with
        | error thrown =>
            simp only [parsed, bind, Except.bind] at found
            exact holds hash info found
        | ok scopes =>
            simp only [parsed, bind, Except.bind, pure, Except.pure] at found
            by_cases same : hash = dependencies.hash token
            · subst same
              rw [AList.lookup_insert] at found
              obtain rfl := Option.some.inj found
              exact scopeMap_parseJsonScopes parsed
            · rw [AList.lookup_insert_ne same] at found
              exact holds hash info found
    | revoke revoked =>
        simp only [ApiCall.apply, revokeApiTokenByHash] at found
        split at found
        · exact holds hash info found
        · by_cases same : hash = revoked
          · subst same
            rw [AList.lookup_erase] at found
            cases found
          · rw [AList.lookup_erase_ne same] at found
            exact holds hash info found
  exact kept hash info held

/-! ## The scopes after a load -/

/-- The loader keeps the scope. -/
def Scope.kept (scope : Scope) : Bool := scope.1 ≠ [] && scope.2 ≠ []

theorem parseScope_eq {scope : Scope} (methods : Sorted id scope.2) :
    parseScope scope = if scope.kept then some scope else none := by
  obtain ⟨path, allowed⟩ := scope
  simp only [parseScope, methodSet_of_sorted methods, Scope.kept]
  by_cases noPath : path = []
  · simp [noPath]
  · by_cases noMethods : allowed = [] <;> simp [noPath, noMethods]

theorem buildScopeMap_eq {scopes : List Scope} (scopeMap : ScopeMap scopes) :
    buildScopeMap scopes = scopes.filter Scope.kept := by
  have parsed : scopes.filterMap parseScope = scopes.filter Scope.kept := by
    rw [← List.filterMap_eq_filter]
    refine List.filterMap_congr ?_
    intro scope member
    rw [parseScope_eq (scopeMap.methods scope member)]
    simp [Option.guard]
  rw [buildScopeMap, parsed]
  exact foldl_tryEmplace_self (scopeMap.patterns.sublist List.filter_sublist)

theorem ScopeMap.filter {scopes : List Scope} (scopeMap : ScopeMap scopes) :
    ScopeMap (scopes.filter Scope.kept) :=
  ⟨scopeMap.patterns.sublist List.filter_sublist,
    fun scope member => scopeMap.methods scope (List.mem_of_mem_filter member)⟩

/-- A second load drops nothing more. -/
theorem buildScopeMap_buildScopeMap {scopes : List Scope} (scopeMap : ScopeMap scopes) :
    buildScopeMap (buildScopeMap scopes) = buildScopeMap scopes := by
  rw [buildScopeMap_eq scopeMap, buildScopeMap_eq scopeMap.filter, List.filter_filter]
  simp

/-- The token that a save and a load make of a token. -/
def restoredInfo (dependencies : Dependencies) (hash : Text) (info : ApiTokenInfo) :
    Option ApiTokenInfo :=
  if hash = [] then none
  else some { info with
    pathMethods := buildScopeMap info.pathMethods
    createdAt := dependencies.seconds (dependencies.toSeconds info.createdAt) }

theorem lookup_reloadApiTokens (dependencies : Dependencies) (apiTokens : Table Text ApiTokenInfo)
    (hash : Text) :
    (reloadApiTokens dependencies apiTokens).lookup hash =
      (apiTokens.lookup hash).bind (restoredInfo dependencies hash) := by
  rw [← lookup_rebuild apiTokens]
  unfold reloadApiTokens loadApiTokens apiNodes rebuild
  rw [List.foldl_map]
  congr 1
  refine List.foldl_ext _ _ ∅ ?_
  intro built entry _
  simp only [loadApiToken, loadedInfo, emplaceLoaded, restoredInfo]
  split <;> rfl

end UmbraHost.HttpAuth
