import UmbraHost.HttpAuth.SessionTokens

/-! # Cookies of a request

`extract_cookie_value` of `http_auth.cpp`, which looks for the name and an equals
sign anywhere in the header, against the cookies that the header is made of. -/

namespace UmbraHost.HttpAuth

open UmbraHost.Search

def sessionCookieName : Text := "__Host-apollo_session".toList

def refreshCookieName : Text := "__Host-apollo_refresh".toList

/-- Where the value is taken from, and the text up to the next semicolon. -/
def rawCookieValue (cookies name : Text) : Option (Nat × Text) :=
  let key := name ++ ['=']
  let found := search key cookies
  if found < cookies.length then
    let start := found + key.length
    some (start, (cookies.drop start).takeWhile (· ≠ ';'))
  else none

/-- The header is the one that `find("Cookie")` finds; `unescape` stands for
`http::cookie_unescape`. -/
def extractCookieValue (unescape : Text → Text) (header : Option Text) (name : Text) : Text :=
  match header with
  | none => []
  | some cookies =>
    match rawCookieValue cookies name with
    | none => []
    | some (_, raw) => unescape raw

/-! ## The cookies of a header -/

structure Cookie where
  name : Text
  value : Text
  plain_name : ';' ∉ name ∧ '=' ∉ name
  plain_value : ';' ∉ value

def Cookie.text (cookie : Cookie) : Text := cookie.name ++ '=' :: cookie.value

/-- The separator in front of each further cookie. -/
def separated (cookies : List Cookie) : Text :=
  cookies.flatMap fun cookie => [';', ' '] ++ cookie.text

def cookieHeader : List Cookie → Text
  | [] => []
  | first :: rest => first.text ++ separated rest

/-- Where the first cookie of a name starts in the header, and its value. -/
def firstCookie (name : Text) : List Cookie → Option (Nat × Text)
  | [] => none
  | cookie :: rest =>
      if cookie.name = name then some (0, cookie.value)
      else (firstCookie name rest).map fun found => (cookie.text.length + 2 + found.1, found.2)

/-- The lookup gives the value of the first cookie of the name, or nothing, and
what it reads is no other text of the header. -/
structure ExactLookup (unescape : Text → Text) (cookies : List Cookie) (name : Text) : Prop where
  value : extractCookieValue unescape (some (cookieHeader cookies)) name =
    ((firstCookie name cookies).map fun found => unescape found.2).getD []
  source : ∀ start raw, rawCookieValue (cookieHeader cookies) name = some (start, raw) →
    ∃ first value, firstCookie name cookies = some (first, value) ∧
      start = first + (name.length + 1)

/-- The name and an equals sign begin nowhere in front of the first cookie of
the name; nowhere at all when there is no such cookie. -/
def Undisturbed (cookies : List Cookie) (name : Text) : Prop :=
  ∀ position, name ++ ['='] <+: (cookieHeader cookies).drop position →
    ∃ first value, firstCookie name cookies = some (first, value) ∧ first ≤ position

theorem drop_cookieHeader_cons (cookie : Cookie) {rest : List Cookie} (nonempty : rest ≠ []) :
    (cookieHeader (cookie :: rest)).drop (cookie.text.length + 2) = cookieHeader rest := by
  cases rest with
  | nil => exact absurd rfl nonempty
  | cons second others =>
      have shape : cookieHeader (cookie :: second :: others) =
          (cookie.text ++ [';', ' ']) ++ cookieHeader (second :: others) := by
        simp [cookieHeader, separated]
      rw [shape, List.drop_left' (by simp)]

theorem separated_head (cookies : List Cookie) :
    separated cookies = [] ∨ ∃ rest, separated cookies = ';' :: rest := by
  cases cookies with
  | nil => exact .inl rfl
  | cons cookie rest => exact .inr ⟨_, rfl⟩

/-- The first cookie of a name stands in the header where it says, and its value
ends at a semicolon or at the end. -/
theorem drop_firstCookie {name : Text} {cookies : List Cookie} {first : Nat} {value : Text}
    (found : firstCookie name cookies = some (first, value)) :
    ∃ behind, (cookieHeader cookies).drop first = name ++ '=' :: value ++ behind ∧
      ';' ∉ value ∧ (behind = [] ∨ ∃ rest, behind = ';' :: rest) := by
  induction cookies generalizing first with
  | nil => cases found
  | cons cookie rest ih =>
      rw [firstCookie] at found
      split at found
      next named =>
        cases found
        refine ⟨separated rest, ?_, cookie.plain_value, separated_head rest⟩
        simp [cookieHeader, Cookie.text, named]
      next other =>
        obtain ⟨⟨later, found⟩, here, same⟩ := Option.map_eq_some_iff.mp found
        cases same
        obtain ⟨behind, shape, ends⟩ := ih here
        refine ⟨behind, ?_, ends⟩
        have nonempty : rest ≠ [] := by
          rintro rfl
          cases here
        rw [← List.drop_drop, drop_cookieHeader_cons cookie nonempty, shape]

theorem takeWhile_value {value behind : Text} (plain : ';' ∉ value)
    (ends : behind = [] ∨ ∃ rest, behind = ';' :: rest) :
    (value ++ behind).takeWhile (· ≠ ';') = value := by
  have through : ∀ char ∈ value, decide (char ≠ ';') = true := by
    intro char member
    exact decide_eq_true (fun same => plain (same ▸ member))
  rw [List.takeWhile_append_of_pos through]
  rcases ends with rfl | ⟨rest, rfl⟩ <;> simp

/-- The first occurrence is the cookie itself when nothing in front of it
disturbs the search. -/
theorem search_firstCookie {name : Text} {cookies : List Cookie} {first : Nat} {value : Text}
    (found : firstCookie name cookies = some (first, value))
    (undisturbed : Undisturbed cookies name) :
    search (name ++ ['=']) (cookieHeader cookies) = first ∧
      first < (cookieHeader cookies).length := by
  obtain ⟨behind, shape, -, -⟩ := drop_firstCookie found
  have occurs : name ++ ['='] <+: (cookieHeader cookies).drop first := by
    rw [shape]
    exact ⟨value ++ behind, by simp⟩
  have inside := fits_of_occurs (by simp) occurs
  have below : first < (cookieHeader cookies).length := by
    rw [List.length_append, List.length_singleton] at inside
    omega
  have upper := search_le_of_occurs occurs
  obtain ⟨other, otherValue, same, lower⟩ :=
    undisturbed _ (occurs_search (Nat.lt_of_le_of_lt upper below))
  rw [found] at same
  cases same
  exact ⟨Nat.le_antisymm upper lower, below⟩

theorem rawCookieValue_of_undisturbed {cookies : List Cookie} {name : Text}
    (undisturbed : Undisturbed cookies name) :
    rawCookieValue (cookieHeader cookies) name =
      (firstCookie name cookies).map fun found => (found.1 + (name.length + 1), found.2) := by
  cases named : firstCookie name cookies with
  | none =>
      have missing : ¬ search (name ++ ['=']) (cookieHeader cookies) <
          (cookieHeader cookies).length := by
        intro below
        obtain ⟨first, value, found, -⟩ := undisturbed _ (occurs_search below)
        rw [named] at found
        cases found
      simp [rawCookieValue, missing]
  | some found =>
      obtain ⟨first, value⟩ := found
      obtain ⟨position, below⟩ := search_firstCookie named undisturbed
      obtain ⟨behind, shape, plain, ends⟩ := drop_firstCookie named
      have after : (cookieHeader cookies).drop (first + (name.length + 1)) = value ++ behind := by
        rw [← List.drop_drop, shape]
        simp
      simp only [rawCookieValue, position, if_pos below, List.length_append,
        List.length_singleton, after, Option.map_some]
      rw [takeWhile_value plain ends]

/-- The lookup is exact when and only when no cookie in front of the one that is
meant disturbs the search. -/
theorem exactLookup_iff (unescape : Text → Text) (cookies : List Cookie) (name : Text) :
    ExactLookup unescape cookies name ↔ Undisturbed cookies name := by
  constructor
  · rintro ⟨-, source⟩ position occurs
    have upper := search_le_of_occurs occurs
    have fits := fits_of_occurs (by simp) occurs
    have below : search (name ++ ['=']) (cookieHeader cookies) <
        (cookieHeader cookies).length := by
      rw [List.length_append, List.length_singleton] at fits
      omega
    obtain ⟨first, value, found, start⟩ := source _ _ (by
      rw [rawCookieValue, if_pos below])
    rw [List.length_append, List.length_singleton] at start
    exact ⟨first, value, found, by omega⟩
  · intro undisturbed
    have raw := rawCookieValue_of_undisturbed undisturbed
    constructor
    · simp only [extractCookieValue, raw]
      cases firstCookie name cookies <;> rfl
    · intro start value found
      rw [raw] at found
      obtain ⟨⟨first, other⟩, here, same⟩ := Option.map_eq_some_iff.mp found
      exact ⟨first, other, here, (Prod.mk.inj same).1.symm⟩

/-- A cookie whose name ends with the name of the session cookie, and the session cookie. -/
def shadowedSession : List Cookie :=
  [{ name := 'x' :: sessionCookieName, value := "planted".toList
     plain_name := by decide
     plain_value := by decide },
    { name := sessionCookieName, value := "token".toList
      plain_name := by decide
      plain_value := by decide }]

theorem shadowedSession_planted :
    ¬ ∀ (unescape : Text → Text) (cookies : List Cookie) (name : Text),
      ExactLookup unescape cookies name := by
  intro exact_
  have value := (exact_ id shadowedSession sessionCookieName).value
  revert value
  decide +kernel

end UmbraHost.HttpAuth
