import UmbraHost.Bytes.CheckedScans
import UmbraHost.Config.Parsers
import UmbraHost.Transition.Fallible

/-! # Options with checked positions

`to_string`, `skip_list`, `parse_option` and `list_string_f` of `config.cpp` by the positions
they read. -/

namespace UmbraHost.Config.Checked

open Views (Fault read between findIf findLastIf span)
open UmbraHost.Transition (ok_of_bind)

/-! ## The code -/

/-- A comment or the text in front of it has a character. -/
theorem lt_of_line {text : Text} {pos last comment endl : Nat} (other : pos ≠ last)
    (hash : findIf text (· == '#') pos last = .ok comment)
    (line : findIf text endline comment last = .ok endl) : pos < endl ∧ pos < text.length := by
  have first := Views.le_of_findIf hash
  have second := Views.le_of_findIf line
  rcases Nat.eq_or_lt_of_le first with rfl | before
  · obtain ⟨ch, found, same⟩ := Views.findIf_accepted hash other
    obtain rfl := eq_of_beq same
    have inside := (List.getElem?_eq_some_iff.mp found).1
    refine ⟨Nat.lt_of_le_of_ne second ?_, inside⟩
    rintro rfl
    obtain ⟨ch, again, ending⟩ := Views.findIf_accepted line other
    obtain rfl := Option.some.inj (found.symm.trans again)
    exact absurd ending (by decide)
  · have bound := Views.findIf_le hash other
    omega

def toString (text : Text) (pos last : Nat) : Except Fault Text :=
  if pos = last then .ok []
  else
    match _hash : findIf text (· == '#') pos last with
    | .error fault => .error fault
    | .ok comment =>
      match _line : findIf text endline comment last with
      | .error fault => .error fault
      | .ok endl => do
        let piece ← between text pos comment
        let rest ← toString text endl last
        return piece ++ rest
termination_by text.length - pos
decreasing_by
  exact Nat.sub_lt_sub_left (lt_of_line ‹_› _hash _line).2 (lt_of_line ‹_› _hash _line).1

def skipList (text : Text) (stack skipper last : Nat) : Except Fault Nat :=
  if skipper = last ∨ stack = 0 then .ok skipper
  else
    match _found : text[skipper]? with
    | none => .error .pastEnd
    | some ch =>
      let opened := if ch = '[' then stack + 1 else stack
      let stack := if ch = ']' then opened - 1 else opened
      skipList text stack (skipper + 1) last
termination_by text.length - skipper
decreasing_by
  have inside := (List.getElem?_eq_some_iff.mp _found).1
  omega

theorem le_of_skipList {text : Text} {stack skipper last behind : Nat}
    (skipped : skipList text stack skipper last = .ok behind) : skipper ≤ behind := by
  fun_induction skipList text stack skipper last with
  | case1 => exact (Except.ok.inj skipped).le
  | case2 => cases skipped
  | case3 stack skipper _ _ _ _ _ ih => exact Nat.le_of_succ_le (ih skipped)

/-- The position behind the option, and its name and value. -/
def parseOption (text : Text) (first : Nat) : Except Fault (Nat × Option (Text × Text)) := do
  let last := text.length
  let begin ← findIf text (!whitespace ·) first last
  let endl ← findIf text endline begin last
  let hash ← findIf text (· == '#') begin endl
  let endc ← findLastIf text (!whitespace ·) begin hash
  let eq ← findIf text (· == '=') begin endc
  if eq = endc ∨ eq = begin then return (endl, none)
  let endName ← findLastIf text (!spaceTab ·) begin eq
  let beginVal ← findIf text (!spaceTab ·) (eq + 1) endc
  if beginVal = endl then return (endl, none)
  let ch ← read text beginVal
  let endl ← if ch = '[' then skipList text 1 (beginVal + 1) last else pure endl
  if ch = '[' ∧ endl = last ∧ last = beginVal + 1 then
    let _ ← toString text begin endName
    return (endl, none)
  let name ← toString text begin endName
  let value ← toString text beginVal endl
  return (endl, some (name, value))

/-- The item between two positions, if they differ. -/
def lastItem (string : Text) (begin pos : Nat) : Except Fault (List Text) :=
  if pos = begin then .ok [] else do return [← between string begin pos]

/-- The loop, which ends with the text or at a bracket. -/
def scan (string : Text) (begin pos : Nat) : Except Fault (List Text) :=
  match _found : string[pos]? with
  | none => lastItem string begin pos
  | some ch =>
    if ch = '[' then
      match _skipped : skipList string 1 (pos + 1) string.length with
      | .error fault => .error fault
      | .ok behind => scan string begin (behind + 1)
    else if ch = ']' then lastItem string begin pos
    else if ch = ',' then
      match between string begin pos with
      | .error fault => .error fault
      | .ok item =>
        match _next : findIf string (!whitespace ·) (pos + 1) string.length with
        | .error fault => .error fault
        | .ok next => do return item :: (← scan string next next)
    else scan string begin (pos + 1)
termination_by string.length - pos
decreasing_by
  all_goals have inside := (List.getElem?_eq_some_iff.mp _found).1
  · have skipped := le_of_skipList _skipped
    omega
  · have skipped := Views.le_of_findIf _next
    omega
  · omega

def listStringF (string : Text) (input : List Text) : Except Fault (List Text) := do
  if string = [] then return input
  let first ← read string 0
  let begin ← findIf string (!whitespace ·) (if first = '[' then 1 else 0) string.length
  if begin = string.length then return []
  scan string begin begin

/-! ## What they read -/

theorem uncommented_of_hash (text : Text) :
    uncommented true text = uncommented false (text.dropWhile (!endline ·)) := by
  induction text with
  | nil => rfl
  | cons ch rest ih =>
      rw [List.dropWhile_cons]
      cases ending : endline ch with
      | true => simp [uncommented, ending]
      | false => simp [uncommented, ending, ih]

theorem uncommented_line (text : Text) :
    uncommented false text = text.takeWhile (fun ch => !(ch == '#')) ++
      uncommented false ((text.dropWhile (fun ch => !(ch == '#'))).dropWhile (!endline ·)) := by
  induction text with
  | nil => rfl
  | cons ch rest ih =>
      rw [List.takeWhile_cons, List.dropWhile_cons]
      cases same : ch == '#' with
      | true =>
          obtain rfl := eq_of_beq same
          simpa [uncommented, endline] using uncommented_of_hash rest
      | false =>
          simp only [Bool.not_false, if_true, List.cons_append, ← ih]
          simp [uncommented, same]

theorem toString_eq {text : Text} {pos last : Nat} (ordered : pos ≤ last)
    (inside : last ≤ text.length) :
    toString text pos last = .ok (uncommented false (span text pos last)) := by
  generalize size : last - pos = room
  induction room using Nat.strong_induction_on generalizing pos with
  | _ room ih =>
      rw [toString]
      split
      · next same => rw [same, Views.span_self, uncommented]
      · next other =>
          obtain ⟨comment, hash, first, second, piece, behind⟩ :=
            Views.findIf_spec (· == '#') ordered inside
          obtain ⟨endl, line, third, fourth, -, rest⟩ := Views.findIf_spec endline second inside
          have progress := (lt_of_line other hash line).1
          split
          · next failed => cases hash.symm.trans failed
          · next comment' hash' =>
              obtain rfl := Except.ok.inj (hash.symm.trans hash')
              split
              · next failed => cases line.symm.trans failed
              · next endl' line' =>
                  obtain rfl := Except.ok.inj (line.symm.trans line')
                  rw [Views.between_eq_span first (by omega), ih _ (by omega) fourth rfl,
                    uncommented_line (span text pos last), ← piece, ← behind, ← rest]
                  rfl

theorem skipList_spec (text : Text) (stack : Nat) {skipper : Nat}
    (inside : skipper ≤ text.length) :
    ∃ behind, skipList text stack skipper text.length = .ok behind ∧ skipper ≤ behind ∧
      behind ≤ text.length ∧ text.drop behind = Config.skipList stack (text.drop skipper) := by
  generalize size : text.length - skipper = room
  induction room generalizing stack skipper with
  | zero =>
      obtain rfl : skipper = text.length := by omega
      refine ⟨text.length, by rw [skipList, if_pos (.inl rfl)], inside, inside, ?_⟩
      rw [List.drop_length, Config.skipList]
  | succ room ih =>
      have found : text[skipper]? = some text[skipper] := List.getElem?_eq_getElem (by omega)
      have shape : text.drop skipper = text[skipper] :: text.drop (skipper + 1) :=
        List.drop_eq_getElem_cons (by omega)
      rw [skipList, shape, Config.skipList]
      split
      · next done =>
          have closed := done.resolve_left (by omega)
          refine ⟨skipper, rfl, Nat.le_refl _, inside, ?_⟩
          rw [if_pos closed, shape]
      · next going =>
          obtain ⟨-, opened⟩ := not_or.mp going
          rw [if_neg opened]
          split
          · next missing => cases found.symm.trans missing
          · next ch found' =>
              obtain rfl := Option.some.inj (found.symm.trans found')
              generalize text[skipper] = ch
              have same : (if ch = ']' then (if ch = '[' then stack + 1 else stack) - 1
                  else if ch = '[' then stack + 1 else stack) =
                  if ch = '[' then stack + 1 else if ch = ']' then stack - 1 else stack := by
                by_cases first : ch = '['
                · subst first
                  rfl
                · rw [if_neg first, if_neg first]
              dsimp only
              rw [same]
              obtain ⟨behind, skipped, lower, upper, rest⟩ :=
                @ih (if ch = '[' then stack + 1 else if ch = ']' then stack - 1 else stack)
                  (skipper + 1) (by omega) (by omega)
              exact ⟨behind, skipped, Nat.le_of_succ_le lower, upper, rest⟩

theorem idxOf_eq_length [DecidableEq α] (element : α) (items : List α) :
    items.idxOf element = (items.takeWhile fun item => !(item == element)).length := by
  induction items with
  | nil => rfl
  | cons item rest ih =>
      rw [List.idxOf_cons, List.takeWhile_cons]
      cases item == element with
      | true => rfl
      | false => simp [ih]

/-- Names and values as the parser returns them. -/
def asStrings (option : Option (Text × Text)) : Option (String × String) :=
  option.map fun (name, value) => (String.ofList name, String.ofList value)

theorem list_eq_span {text rest : Text} {beginVal close : Nat} (ordered : beginVal + 1 ≤ close)
    (inside : close ≤ text.length) (shape : text.drop beginVal = '[' :: rest)
    (behind : text.drop close = Config.skipList 1 rest) :
    '[' :: rest.take (rest.length - (Config.skipList 1 rest).length) =
      span text beginVal close := by
  have whole := congrArg List.length shape
  have count : close - beginVal = rest.length - (text.drop close).length + 1 := by
    simp only [List.length_drop, List.length_cons] at whole ⊢
    omega
  rw [Views.span_eq_take, shape, count, List.take_succ_cons, behind]

theorem parseOption_spec (text : Text) {first : Nat} (inside : first ≤ text.length) :
    ∃ endl option, parseOption text first = .ok (endl, option) ∧ first ≤ endl ∧
      endl ≤ text.length ∧ Config.parseOption (text.drop first) =
        (text.drop endl, asStrings option) := by
  obtain ⟨begin, e1, l1, u1, -, start⟩ := Views.findIf_spec (!whitespace ·) inside (Nat.le_refl _)
  obtain ⟨endl, e2, l2, u2, line, -⟩ := Views.findIf_spec endline u1 (Nat.le_refl _)
  obtain ⟨hash, e3, l3, u3, before, -⟩ := Views.findIf_spec (· == '#') l2 u2
  obtain ⟨endc, e4, l4, u4, content⟩ := Views.findLastIf_spec (!whitespace ·) l3
    (u3.trans u2)
  obtain ⟨eq, e5, l5, u5, front, -⟩ := Views.findIf_spec (· == '=') l4
    (u4.trans (u3.trans u2))
  simp only [Views.span_length, Bool.not_not] at start line before content
  have line_length : (span text begin endl).length = endl - begin := Views.length_span u2
  have content_length : (span text begin endc).length = endc - begin :=
    Views.length_span (by omega)
  have idx : (span text begin endc).idxOf '=' = eq - begin := by
    rw [idxOf_eq_length, ← front, Views.length_span (by omega)]
  have behind : (text.drop begin).drop (endl - begin) = text.drop endl := by
    rw [List.drop_drop]
    congr 1
    omega
  simp only [parseOption, Config.parseOption, e1, e2, e3, e4, e5, bind, Except.bind, pure,
    Except.pure, ← start, ← line, bne, ← before, ← content, line_length, content_length, idx,
    behind]
  by_cases missing : eq = endc ∨ eq = begin
  · have relative : eq - begin = endc - begin ∨ eq - begin = 0 := by omega
    rw [if_pos missing, if_pos relative]
    exact ⟨endl, none, rfl, by omega, u2, rfl⟩
  have relative : ¬ (eq - begin = endc - begin ∨ eq - begin = 0) := by omega
  rw [if_neg missing, if_neg relative]
  have u6 : eq + 1 ≤ endc := by omega
  have endc_le : endc ≤ text.length := by omega
  obtain ⟨endName, e6, l7, u7, name⟩ := Views.findLastIf_spec (!spaceTab ·) l5 (u5.trans endc_le)
  obtain ⟨beginVal, e7, l8, u8, blanks, -⟩ := Views.findIf_spec (!spaceTab ·) u6 endc_le
  simp only [Bool.not_not] at name blanks
  have value : (text.drop begin).drop (beginVal - begin) = text.drop beginVal := by
    rw [List.drop_drop]
    congr 1
    omega
  have blanks_eq : ((span text begin endc).drop (eq - begin + 1)).takeWhile spaceTab =
      span text (eq + 1) beginVal := by
    have forward : begin + (eq - begin + 1) = eq + 1 := by omega
    rw [blanks, ← Views.span_add, forward]
  have blanks_length : eq - begin + 1 + (span text (eq + 1) beginVal).length =
      beginVal - begin := by
    rw [Views.length_span (by omega)]
    omega
  have name_eq : ((span text begin endc).take (eq - begin)).rdropWhile spaceTab =
      span text begin endName := by
    have forward : begin + (eq - begin) = eq := by omega
    rw [name, ← Views.span_take (by omega), forward]
  simp only [e6, e7, blanks_eq, blanks_length, name_eq, value]
  by_cases blank : beginVal = endl
  · have relative : beginVal - begin = endl - begin := by omega
    rw [if_pos blank, if_pos relative]
    exact ⟨endl, none, rfl, by omega, u2, rfl⟩
  have relative : ¬ beginVal - begin = endl - begin := by omega
  rw [if_neg blank, if_neg relative]
  have shape : text.drop beginVal = text[beginVal] :: text.drop (beginVal + 1) :=
    List.drop_eq_getElem_cons (by omega)
  have found : text[beginVal]? = some text[beginVal] := List.getElem?_eq_getElem (by omega)
  have name_read := @toString_eq text _ _ l7 (by omega)
  simp only [Views.read, found]
  rw [shape]
  by_cases list : text[beginVal] = '['
  · rw [list] at shape ⊢
    obtain ⟨close, skipped, l9, u9, rest⟩ :=
      skipList_spec text 1 (show beginVal + 1 ≤ text.length by omega)
    have list_eq := list_eq_span l9 u9 shape rest
    rw [← rest] at list_eq
    have value_read := @toString_eq text beginVal close (by omega) u9
    simp only [if_true, skipped, name_read, value_read, true_and, list_eq, ← rest]
    by_cases nothing : text.length = beginVal + 1
    · have last : close = text.length := by omega
      have empty : (text.drop (beginVal + 1)).isEmpty := by
        rw [← nothing, List.drop_length, List.isEmpty_nil]
      rw [if_pos ⟨last, nothing⟩, if_pos empty]
      exact ⟨close, none, rfl, by omega, u9, rfl⟩
    · have rest_left : ¬ (text.drop (beginVal + 1)).isEmpty := by
        rw [List.isEmpty_iff, List.drop_eq_nil_iff]
        omega
      rw [if_neg fun both => nothing both.2, if_neg rest_left]
      exact ⟨close, some _, rfl, by omega, u9, rfl⟩
  · have value_read := @toString_eq text beginVal endl (by omega) u2
    have value_eq : (span text begin endl).drop (beginVal - begin) = span text beginVal endl := by
      have forward : begin + (beginVal - begin) = beginVal := by omega
      rw [← Views.span_add, forward]
    rw [if_neg list, if_neg fun both => list both.1, name_read]
    simp only [value_read, value_eq]
    refine ⟨endl, some _, rfl, by omega, u2, ?_⟩
    split
    · next rest opened => exact absurd (List.cons.inj opened).1 list
    · rfl

/-! ## Nested lists -/

/-- The brackets of a text close each other and as many others as given. -/
inductive Closes : Nat → Text → Prop where
  | done : Closes 0 []
  | opened {count : Nat} {text : Text} : Closes (count + 1) text → Closes count ('[' :: text)
  | closed {count : Nat} {text : Text} : Closes count text → Closes (count + 1) (']' :: text)
  | other {count : Nat} {ch : Char} {text : Text} : ch ≠ '[' → ch ≠ ']' → Closes count text →
      Closes count (ch :: text)

/-- Every list that opens in front of the bracket that ends the text, outside of others, closes,
and a character stands behind it. -/
inductive Scannable : Text → Prop where
  | done : Scannable []
  | stop (text : Text) : Scannable (']' :: text)
  | nested {inner text : Text} {ch : Char} : Closes 0 inner → Scannable text →
      Scannable ('[' :: (inner ++ ']' :: ch :: text))
  | other {ch : Char} {text : Text} : ch ≠ '[' → ch ≠ ']' → Scannable text →
      Scannable (ch :: text)

theorem skipList_zero (text : Text) : Config.skipList 0 text = text := by
  cases text with
  | nil => rfl
  | cons ch rest => rw [Config.skipList, if_pos rfl]

theorem skipList_of_closes {count : Nat} {inner rest : Text} (closes : Closes count inner) :
    Config.skipList (count + 1) (inner ++ ']' :: rest) = rest := by
  induction closes with
  | done => exact skipList_zero rest
  | opened _ ih => simpa [Config.skipList] using ih
  | closed _ ih => simpa [Config.skipList] using ih
  | other open_ne close_ne _ ih => simpa [Config.skipList, open_ne, close_ne] using ih

theorem closes_of_skipList {text later : Text} {count : Nat} {ch : Char}
    (skipped : Config.skipList (count + 1) text = ch :: later) :
    ∃ inner, Closes count inner ∧ text = inner ++ ']' :: ch :: later := by
  induction text generalizing count with
  | nil => cases skipped
  | cons head rest ih =>
      rw [Config.skipList, if_neg (Nat.succ_ne_zero count)] at skipped
      by_cases opening : head = '['
      · rw [if_pos opening] at skipped
        obtain ⟨inner, closes, rfl⟩ := ih skipped
        exact ⟨'[' :: inner, .opened closes, by rw [opening, List.cons_append]⟩
      · rw [if_neg opening] at skipped
        by_cases closing : head = ']'
        · rw [if_pos closing, Nat.add_sub_cancel] at skipped
          cases count with
          | zero =>
              rw [skipList_zero] at skipped
              exact ⟨[], .done, by rw [closing, skipped, List.nil_append]⟩
          | succ count =>
              obtain ⟨inner, closes, rfl⟩ := ih skipped
              exact ⟨']' :: inner, .closed closes, by rw [closing, List.cons_append]⟩
        · rw [if_neg closing] at skipped
          obtain ⟨inner, closes, rfl⟩ := ih skipped
          exact ⟨head :: inner, .other opening closing closes, List.cons_append.symm⟩

theorem scannable_nested {text : Text} :
    Scannable ('[' :: text) ↔
      ∃ ch later, Config.skipList 1 text = ch :: later ∧ Scannable later := by
  constructor
  · intro scannable
    cases scannable with
    | nested closes rest => exact ⟨_, _, skipList_of_closes closes, rest⟩
    | other open_ne => exact absurd rfl open_ne
  · rintro ⟨ch, later, skipped, rest⟩
    obtain ⟨inner, closes, rfl⟩ := closes_of_skipList skipped
    exact .nested closes rest

theorem scannable_cons {ch : Char} {text : Text} (open_ne : ch ≠ '[') (close_ne : ch ≠ ']') :
    Scannable (ch :: text) ↔ Scannable text := by
  constructor
  · intro scannable
    cases scannable with
    | stop => exact absurd rfl close_ne
    | nested => exact absurd rfl open_ne
    | other _ _ rest => exact rest
  · exact .other open_ne close_ne

theorem scannable_dropWhile (text : Text) :
    Scannable (text.dropWhile whitespace) ↔ Scannable text := by
  induction text with
  | nil => rfl
  | cons ch rest ih =>
      rw [List.dropWhile_cons]
      split
      · next blank =>
          have open_ne : ch ≠ '[' := by
            rintro rfl
            exact absurd blank (by decide)
          have close_ne : ch ≠ ']' := by
            rintro rfl
            exact absurd blank (by decide)
          rw [ih, scannable_cons open_ne close_ne]
      · rfl

/-! ## The scan -/

theorem lastItem_eq {string : Text} {begin pos : Nat} (ordered : begin ≤ pos)
    (inside : pos ≤ string.length) :
    lastItem string begin pos =
      .ok (if span string begin pos = [] then [] else [span string begin pos]) := by
  have length := @Views.length_span _ string begin pos inside
  rw [lastItem, Views.between_eq_span ordered inside]
  by_cases same : pos = begin
  · rw [if_pos same, same, Views.span_self, if_pos rfl]
  · have other : span string begin pos ≠ [] := by
      intro empty
      rw [empty, List.length_nil] at length
      omega
    rw [if_neg same, if_neg other]
    rfl

theorem nested_eq_span {text rest left : Text} {begin pos behind : Nat} {ch : Char}
    (ordered : begin ≤ pos) (shape : text.drop pos = '[' :: rest) (after : pos + 1 ≤ behind)
    (close : text.drop behind = ch :: left) :
    span text begin pos ++ '[' :: rest.take (rest.length - left.length) =
      span text begin (behind + 1) := by
  have whole := congrArg List.length shape
  have behind_length := congrArg List.length close
  simp only [List.length_drop, List.length_cons] at whole behind_length
  have count : behind + 1 - pos = rest.length - left.length + 1 := by omega
  rw [← Views.span_append ordered (show pos ≤ behind + 1 by omega)]
  congr 1
  rw [Views.span_eq_take, shape, count, List.take_succ_cons]

/-- What the loop comes to from a position. -/
structure ScansTo (string : Text) (begin pos : Nat) : Prop where
  items : Scannable (string.drop pos) →
    scan string begin pos = .ok (listItems (span string begin pos) (string.drop pos))
  fault : ¬ Scannable (string.drop pos) → scan string begin pos = .error .pastEnd

theorem ScansTo.of_step {string : Text} {begin pos begin' pos' : Nat}
    (later : ScansTo string begin' pos')
    (same : Scannable (string.drop pos) ↔ Scannable (string.drop pos'))
    (step : scan string begin pos = scan string begin' pos')
    (item : listItems (span string begin pos) (string.drop pos) =
      listItems (span string begin' pos') (string.drop pos')) : ScansTo string begin pos where
  items scannable := by rw [step, item, later.items (same.mp scannable)]
  fault stuck := by rw [step, later.fault (mt same.mpr stuck)]

theorem scan_cons {string rest : Text} {begin pos : Nat} {ch : Char}
    (shape : string.drop pos = ch :: rest) :
    scan string begin pos =
      if ch = '[' then
        match skipList string 1 (pos + 1) string.length with
        | .error fault => .error fault
        | .ok behind => scan string begin (behind + 1)
      else if ch = ']' then lastItem string begin pos
      else if ch = ',' then
        match between string begin pos with
        | .error fault => .error fault
        | .ok item =>
          match findIf string (!whitespace ·) (pos + 1) string.length with
          | .error fault => .error fault
          | .ok next => do return item :: (← scan string next next)
      else scan string begin (pos + 1) := by
  have found : string[pos]? = some ch := by
    rw [← List.head?_drop, shape, List.head?_cons]
  rw [scan]
  split
  · next missing => cases found.symm.trans missing
  · next other found' =>
      obtain rfl := Option.some.inj (found'.symm.trans found)
      cases skipList string 1 (pos + 1) string.length <;>
        cases findIf string (!whitespace ·) (pos + 1) string.length <;> rfl

theorem scan_end {string : Text} {begin : Nat} (ordered : begin ≤ string.length) :
    ScansTo string begin string.length where
  items _ := by
    have missing : string[string.length]? = none := List.getElem?_eq_none (Nat.le_refl _)
    rw [scan, List.drop_length, listItems]
    split
    · exact lastItem_eq ordered (Nat.le_refl _)
    · next found => cases missing.symm.trans found
  fault stuck := by
    rw [List.drop_length] at stuck
    exact absurd .done stuck

section

variable {string rest : Text} {begin pos : Nat}

theorem scan_stop (ordered : begin ≤ pos) (inside : pos ≤ string.length)
    (shape : string.drop pos = ']' :: rest) : ScansTo string begin pos where
  items _ := by
    rw [scan_cons shape, shape, listItems, if_neg (by decide), if_pos rfl, if_neg (by decide),
      if_pos rfl]
    exact lastItem_eq ordered inside
  fault stuck := by
    rw [shape] at stuck
    exact absurd (.stop rest) stuck

/-- A list that stays open, or ends the text, takes the loop behind the end. -/
theorem scan_nested (ordered : begin ≤ pos) (before : pos < string.length)
    (shape : string.drop pos = '[' :: rest)
    (later : ∀ next, pos < next → next ≤ string.length → ScansTo string begin next) :
    ScansTo string begin pos := by
  obtain ⟨behind, skipped, after, behind_le, close⟩ :=
    skipList_spec string 1 (show pos + 1 ≤ string.length from before)
  have rest_eq : string.drop (pos + 1) = rest := by
    rw [← List.drop_drop, shape, List.drop_one, List.tail_cons]
  rw [rest_eq] at close
  have step := @scan_cons string rest begin pos _ shape
  rw [if_pos rfl, skipped] at step
  rcases Nat.eq_or_lt_of_le behind_le with rfl | inside
  · rw [List.drop_length] at close
    constructor
    · intro scannable
      rw [shape, scannable_nested] at scannable
      obtain ⟨ch, left, opened, -⟩ := scannable
      cases close.trans opened
    · intro _
      have missing : string[string.length + 1]? = none := List.getElem?_eq_none (by omega)
      rw [step]
      dsimp only
      rw [scan]
      split
      · rw [lastItem, if_neg (show string.length + 1 ≠ begin by omega), between,
          if_neg (by omega)]
        rfl
      · next found => cases missing.symm.trans found
  · obtain ⟨ch, left_shape⟩ : ∃ ch, string.drop behind = ch :: string.drop (behind + 1) :=
      ⟨_, List.drop_eq_getElem_cons inside⟩
    refine (later (behind + 1) (by omega) inside).of_step ?_ step ?_
    · rw [shape, scannable_nested, ← close, left_shape]
      constructor
      · rintro ⟨ch, left, same, scannable⟩
        rwa [(List.cons.inj same).2]
      · exact fun scannable => ⟨_, _, rfl, scannable⟩
    · rw [shape, listItems, if_pos rfl, ← nested_eq_span ordered shape after left_shape]
      rw [left_shape] at close
      split
      · next nothing => cases close.trans nothing
      · next other left found =>
          obtain ⟨-, rfl⟩ := List.cons.inj (close.trans found)
          rfl

theorem scan_comma (ordered : begin ≤ pos) (before : pos < string.length)
    (shape : string.drop pos = ',' :: rest)
    (later : ∀ next, pos < next → next ≤ string.length → ScansTo string next next) :
    ScansTo string begin pos := by
  obtain ⟨next, found, after, next_le, -, behind⟩ :=
    Views.findIf_spec (!whitespace ·) (show pos + 1 ≤ string.length from before) (Nat.le_refl _)
  have rest_eq : string.drop (pos + 1) = rest := by
    rw [← List.drop_drop, shape, List.drop_one, List.tail_cons]
  simp only [Views.span_length, Bool.not_not, rest_eq] at behind
  have step := @scan_cons string rest begin pos _ shape
  rw [if_neg (by decide), if_neg (by decide), if_pos rfl,
    Views.between_eq_span ordered before.le] at step
  simp only [found] at step
  have same : Scannable (string.drop pos) ↔ Scannable (string.drop next) := by
    rw [shape, scannable_cons (by decide) (by decide), behind]
    exact (scannable_dropWhile rest).symm
  have next_scan := later next after next_le
  constructor
  · intro scannable
    rw [step, next_scan.items (same.mp scannable), Views.span_self, shape, listItems,
      if_neg (by decide), if_neg (by decide), if_pos rfl, behind]
    rfl
  · intro stuck
    rw [step, next_scan.fault (mt same.mpr stuck)]
    rfl

theorem scan_other {ch : Char} (open_ne : ch ≠ '[') (close_ne : ch ≠ ']') (comma_ne : ch ≠ ',')
    (ordered : begin ≤ pos) (before : pos < string.length)
    (shape : string.drop pos = ch :: rest) (later : ScansTo string begin (pos + 1)) :
    ScansTo string begin pos := by
  have rest_eq : string.drop (pos + 1) = rest := by
    rw [← List.drop_drop, shape, List.drop_one, List.tail_cons]
  obtain ⟨other, found, longer⟩ := Views.span_concat ordered before
  have same : other = ch := by
    rw [← List.head?_drop, shape, List.head?_cons] at found
    exact (Option.some.inj found).symm
  subst same
  refine later.of_step ?_ ?_ ?_
  · rw [shape, rest_eq]
    exact scannable_cons open_ne close_ne
  · rw [scan_cons shape, if_neg open_ne, if_neg close_ne, if_neg comma_ne]
  · rw [shape, rest_eq, listItems, if_neg open_ne, if_neg close_ne, if_neg comma_ne, longer]

end

theorem scan_spec {string : Text} {begin pos : Nat} (ordered : begin ≤ pos)
    (inside : pos ≤ string.length) : ScansTo string begin pos := by
  generalize size : string.length - pos = room
  induction room using Nat.strong_induction_on generalizing begin pos with
  | _ room ih =>
      rcases Nat.eq_or_lt_of_le inside with rfl | before
      · exact scan_end ordered
      · obtain ⟨ch, shape⟩ : ∃ ch, string.drop pos = ch :: string.drop (pos + 1) :=
          ⟨_, List.drop_eq_getElem_cons before⟩
        have later {begin' : Nat} (next : Nat) (after : pos < next) (ordered : begin' ≤ next)
            (next_le : next ≤ string.length) : ScansTo string begin' next :=
          ih _ (by omega) ordered next_le rfl
        by_cases opening : ch = '['
        · subst opening
          exact scan_nested ordered before shape fun next after => later next after (by omega)
        by_cases closing : ch = ']'
        · subst closing
          exact scan_stop ordered inside shape
        by_cases comma : ch = ','
        · subst comma
          exact scan_comma ordered before shape fun next after => later next after (Nat.le_refl _)
        · exact scan_other opening closing comma ordered before shape
            (later (pos + 1) (Nat.lt_succ_self _) (by omega) before)

/-! ## Lists -/

/-- What the scan of a list begins with, blanks aside. -/
def listBody : Text → Text
  | '[' :: rest => rest
  | text => text

theorem listStringF_eq {string : Text} (nonempty : string ≠ []) (input : List Text) :
    (Scannable (listBody string) → listStringF string input =
        .ok (listItems [] ((listBody string).dropWhile whitespace))) ∧
      (¬ Scannable (listBody string) → listStringF string input = .error .pastEnd) := by
  obtain ⟨ch, rest, rfl⟩ := List.exists_cons_of_ne_nil nonempty
  have body : (ch :: rest).drop (if ch = '[' then 1 else 0) = listBody (ch :: rest) := by
    by_cases opening : ch = '['
    · rw [opening, if_pos rfl]
      rfl
    · simp [listBody, opening]
  obtain ⟨begin, found, -, begin_le, -, behind⟩ := @Views.findIf_spec _ (ch :: rest)
    _ _ (!whitespace ·) (show (if ch = '[' then 1 else 0) ≤ (ch :: rest).length by
      rw [List.length_cons]
      split <;> omega) (Nat.le_refl _)
  simp only [Views.span_length, Bool.not_not, body] at behind
  have first : Views.read (ch :: rest) 0 = .ok ch := rfl
  have step : listStringF (ch :: rest) input =
      if begin = (ch :: rest).length then .ok [] else scan (ch :: rest) begin begin := by
    rw [listStringF, if_neg nonempty, first]
    change (findIf _ _ _ _ >>= _) = _
    rw [found]
    rfl
  have scans := scan_spec (Nat.le_refl begin) begin_le
  rw [step, ← scannable_dropWhile, ← behind]
  by_cases blank : begin = (ch :: rest).length
  · rw [if_pos blank, blank, List.drop_length, listItems, if_pos rfl]
    exact ⟨fun _ => rfl, fun stuck => absurd .done stuck⟩
  · rw [if_neg blank]
    exact ⟨fun scannable => by rw [scans.items scannable, Views.span_self], scans.fault⟩

/-- Where it stays in the text, the list has the items of `listString`. -/
theorem listStringF_eq_listString {string : Text} (nonempty : string ≠ []) (input : List Text)
    (scannable : Scannable (listBody string)) :
    (listStringF string input).map (·.map String.ofList) =
      .ok (listString (String.ofList string)) := by
  rw [(listStringF_eq nonempty input).1 scannable, listString, String.toList_ofList]
  rfl

theorem listStringF_ok (string : Text) (input : List Text) :
    (∃ items, listStringF string input = .ok items) ↔ Scannable (listBody string) := by
  by_cases empty : string = []
  · subst empty
    exact ⟨fun _ => .done, fun _ => ⟨input, rfl⟩⟩
  · obtain ⟨inside, outside⟩ := listStringF_eq empty input
    constructor
    · rintro ⟨items, done⟩
      by_contra stuck
      cases (outside stuck).symm.trans done
    · exact fun scannable => ⟨_, inside scannable⟩

/-- A character of an element: no bracket, no comma and no blank. -/
def Plain (ch : Char) : Prop := ch ≠ '[' ∧ ch ≠ ']' ∧ ch ≠ ',' ∧ whitespace ch = false

/-- An element has characters, all of them plain. -/
def Proper (element : Text) : Prop := element ≠ [] ∧ ∀ ch ∈ element, Plain ch

/-- The elements joined by commas, with any blanks behind each comma. -/
inductive Joined : List Text → Text → Prop where
  | none : Joined [] []
  | one (element : Text) : Joined [element] element
  | more {element blanks text : Text} {later : List Text} : (∀ ch ∈ blanks, whitespace ch) →
      later ≠ [] → Joined later text →
      Joined (element :: later) (element ++ ',' :: (blanks ++ text))

theorem listItems_plain {element : Text} (plain : ∀ ch ∈ element, Plain ch) (item rest : Text) :
    listItems item (element ++ rest) = listItems (item ++ element) rest := by
  induction element generalizing item with
  | nil => rw [List.nil_append, List.append_nil]
  | cons ch element ih =>
      obtain ⟨⟨open_ne, close_ne, comma_ne, -⟩, later⟩ := List.forall_mem_cons.mp plain
      rw [List.cons_append, listItems, if_neg open_ne, if_neg close_ne, if_neg comma_ne, ih later,
        List.append_assoc, List.singleton_append]

theorem scannable_plain {element : Text} (plain : ∀ ch ∈ element, ch ≠ '[' ∧ ch ≠ ']')
    (rest : Text) : Scannable (element ++ rest) ↔ Scannable rest := by
  induction element with
  | nil => rfl
  | cons ch element ih =>
      obtain ⟨⟨open_ne, close_ne⟩, later⟩ := List.forall_mem_cons.mp plain
      rw [List.cons_append, scannable_cons open_ne close_ne, ih later]

theorem Joined.first {elements : List Text} {text : Text} (joined : Joined elements text)
    (given : elements ≠ []) (proper : ∀ element ∈ elements, Proper element) :
    ∃ ch rest, text = ch :: rest ∧ Plain ch := by
  have head {element : Text} (nonempty : element ≠ []) (plain : ∀ ch ∈ element, Plain ch)
      (behind : Text) : ∃ ch rest, element ++ behind = ch :: rest ∧ Plain ch := by
    obtain ⟨ch, rest, rfl⟩ := List.exists_cons_of_ne_nil nonempty
    exact ⟨ch, _, List.cons_append, plain ch List.mem_cons_self⟩
  cases joined with
  | none => exact absurd rfl given
  | one =>
      obtain ⟨nonempty, plain⟩ := proper _ List.mem_cons_self
      simpa using head nonempty plain []
  | more _ _ _ =>
      obtain ⟨nonempty, plain⟩ := proper _ List.mem_cons_self
      exact head nonempty plain _

theorem Joined.listItems_eq {elements : List Text} {text : Text} (joined : Joined elements text)
    (proper : ∀ element ∈ elements, Proper element) :
    listItems [] (text ++ [']']) = elements := by
  induction joined with
  | none => simp [listItems]
  | one element =>
      obtain ⟨nonempty, plain⟩ := proper element List.mem_cons_self
      rw [listItems_plain plain, List.nil_append, listItems, if_neg (by decide), if_pos rfl,
        if_neg nonempty]
  | @more element blanks text later blank given joined ih =>
      obtain ⟨⟨nonempty, plain⟩, proper_later⟩ := List.forall_mem_cons.mp proper
      obtain ⟨ch, rest, rfl, head⟩ := joined.first given proper_later
      have skipped : ((blanks ++ ch :: rest) ++ [']']).dropWhile whitespace =
          ch :: rest ++ [']'] := by
        rw [List.append_assoc, List.dropWhile_append_of_pos blank, List.cons_append,
          List.dropWhile_cons, if_neg (by simp [head.2.2.2])]
      rw [List.append_assoc, List.cons_append, listItems_plain plain, List.nil_append, listItems,
        if_neg (by decide), if_neg (by decide), if_pos rfl, skipped, ih proper_later]

theorem Joined.scannable {elements : List Text} {text : Text} (joined : Joined elements text)
    (proper : ∀ element ∈ elements, ∀ ch ∈ element, Plain ch) : Scannable (text ++ [']']) := by
  have pass {element : Text} (plain : ∀ ch ∈ element, Plain ch) (rest : Text) :
      Scannable (element ++ rest) ↔ Scannable rest :=
    scannable_plain (fun ch member => ⟨(plain ch member).1, (plain ch member).2.1⟩) rest
  induction joined with
  | none => exact .stop []
  | one element => exact (pass (proper element List.mem_cons_self) _).mpr (.stop [])
  | more blank _ _ ih =>
      obtain ⟨plain, proper_later⟩ := List.forall_mem_cons.mp proper
      rw [List.append_assoc, pass plain, List.cons_append, scannable_cons (by decide) (by decide),
        List.append_assoc]
      refine (scannable_plain ?_ _).mpr (ih proper_later)
      intro ch member
      constructor <;> rintro rfl <;> exact absurd (blank _ member) (by decide)

theorem listStringF_joined {elements : List Text} {text : Text} (joined : Joined elements text)
    (proper : ∀ element ∈ elements, Proper element) (input : List Text) :
    listStringF ('[' :: (text ++ [']'])) input = .ok elements := by
  have scannable := joined.scannable fun element member => (proper element member).2
  rw [(@listStringF_eq ('[' :: (text ++ [']'])) (List.cons_ne_nil _ _) input).1 scannable]
  have unblanked : (text ++ [']']).dropWhile whitespace = text ++ [']'] := by
    by_cases given : elements = []
    · subst given
      cases joined
      rfl
    · obtain ⟨ch, rest, rfl, head⟩ := joined.first given proper
      rw [List.cons_append, List.dropWhile_cons, if_neg (by simp [head.2.2.2])]
  rw [listBody, unblanked, joined.listItems_eq proper]

/-- A text is read within its bounds exactly if each nested list closes in front of a further
character, and joined elements are read back. -/
theorem list_parsing_bounded (text : Text) (first : Nat) (input : List Text) :
    (first ≤ text.length → ∃ endl option,
      parseOption text first = .ok (endl, option) ∧ first ≤ endl ∧ endl ≤ text.length) ∧
    (∀ stack, first ≤ text.length → ∃ behind,
      skipList text stack first text.length = .ok behind ∧ behind ≤ text.length) ∧
    ((∃ items, listStringF text input = .ok items) ↔ Scannable (listBody text)) ∧
    ∀ elements, Joined elements text → (∀ element ∈ elements, Proper element) →
      listStringF ('[' :: (text ++ [']'])) input = .ok elements := by
  refine ⟨?_, ?_, listStringF_ok text input, fun _ joined proper =>
    listStringF_joined joined proper input⟩
  · intro inside
    obtain ⟨endl, option, parsed, lower, upper, -⟩ := parseOption_spec text inside
    exact ⟨endl, option, parsed, lower, upper⟩
  · intro stack inside
    obtain ⟨behind, skipped, -, upper, -⟩ := skipList_spec text stack inside
    exact ⟨behind, skipped, upper⟩

/-- The list in `x[a]` ends the text. -/
theorem listStringF_overruns : listStringF ['x', '[', 'a', ']'] [] = .error .pastEnd := by
  refine (listStringF_eq (List.cons_ne_nil _ _) []).2 ?_
  change ¬ Scannable ('x' :: '[' :: ['a', ']'])
  rw [scannable_cons (by decide) (by decide), scannable_nested]
  rintro ⟨ch, later, behind, -⟩
  cases behind

end UmbraHost.Config.Checked
