import UmbraHost.Config.Parsers
import UmbraHost.Rtsp.Segmentation

/-! # Configuration files as they are written

Files of lines `key = value` with blanks, comments and either end of line, and what
`parse_config` of `config.cpp` makes of them. -/

namespace UmbraHost.Config.Rendered

/-! ## Files -/

def keyChar (ch : Char) : Bool := ch.isAlphanum || ch == '_'

/-- A key and a value as the documentation of the file has them. -/
structure Entry where
  key : Text
  value : Text
  key_ne : key ≠ []
  key_chars : ∀ ch ∈ key, keyChar ch
  value_ne : value ≠ []
  one_line : ∀ ch ∈ value, endline ch = false ∧ ch ≠ '#'
  starts : ∀ ch ∈ value.head?, spaceTab ch = false ∧ ch ≠ '['
  ends : ∀ ch ∈ value.getLast?, spaceTab ch = false

/-- Spaces and tabs. -/
def Blanks := { blanks : Text // ∀ ch ∈ blanks, spaceTab ch }

/-- A comment without its `#`. -/
def Comment := { comment : Text // ∀ ch ∈ comment, endline ch = false }

inductive FileLine where
  | option (entry : Entry) (before after trailing : Blanks) (comment : Option Comment)
  | blank (blanks : Blanks)
  | remark (blanks : Blanks) (comment : Comment)

inductive LineEnd where
  | newline
  | carriageReturn

/-- The lines with their ends, and a last line without one. -/
structure File where
  lines : List (FileLine × LineEnd)
  last : Option FileLine

def Comment.render (comment : Comment) : Text := '#' :: comment.val

def optionalComment (comment : Option Comment) : Text := (comment.map Comment.render).getD []

def FileLine.render : FileLine → Text
  | .option entry before after trailing comment =>
    entry.key ++ (before.val ++ '=' :: (after.val ++
      (entry.value ++ (trailing.val ++ optionalComment comment))))
  | .blank blanks => blanks.val
  | .remark blanks comment => blanks.val ++ comment.render

def LineEnd.render : LineEnd → Text
  | .newline => ['\n']
  | .carriageReturn => ['\r', '\n']

def linesText (lines : List (FileLine × LineEnd)) : Text :=
  lines.flatMap fun (line, lineEnd) => line.render ++ lineEnd.render

def File.render (file : File) : Text :=
  linesText file.lines ++ (file.last.map FileLine.render).getD []

/-- An entry of a file and the blanks behind its value. -/
def FileLine.entry : FileLine → Option (Entry × Blanks)
  | .option entry _ _ trailing _ => some (entry, trailing)
  | .blank _ => none
  | .remark _ _ => none

def File.entries (file : File) : List (Entry × Blanks) :=
  (file.lines.map Prod.fst ++ file.last.toList).filterMap FileLine.entry

/-- The first value of each key. -/
def File.values (file : File) : Vars := fun name =>
  (file.entries.map fun (entry, _) => (String.ofList entry.key, String.ofList entry.value)).lookup
    name

/-- No blanks stand behind the first value of a key. -/
def File.Trimmed (file : File) : Prop :=
  ∀ front entry trailing back, file.entries = front ++ (entry, trailing) :: back →
    (∀ other ∈ front, other.1.key ≠ entry.key) → trailing.val = []

/-! ## One line -/

/-- What may stand behind a line. -/
def LineBehind (behind : Text) : Prop := ∀ ch ∈ behind.head?, endline ch

theorem options_blank {blanks : Text} (blank : ∀ ch ∈ blanks, whitespace ch) (rest : Text) :
    options (blanks ++ rest) = options rest := by
  have start : (blanks ++ rest).dropWhile whitespace = rest.dropWhile whitespace :=
    List.dropWhile_append_of_pos blank
  have parsed : parseOption (blanks ++ rest) = parseOption rest := by
    unfold parseOption
    rw [start]
  cases blanks with
  | nil => rfl
  | cons ch blanks =>
      rw [List.cons_append, options, ← List.cons_append, parsed]
      cases rest with
      | nil => rfl
      | cons ch rest => rw [options]

theorem options_of_parse {text behind : Text} {option : Option (String × String)}
    (nonempty : text ≠ []) (parsed : parseOption text = (behind, option)) :
    options text = option.toList ++ options (afterLine behind) := by
  obtain ⟨ch, rest, rfl⟩ := List.exists_cons_of_ne_nil nonempty
  rw [options, parsed]

theorem takeWhile_line {line behind : Text} (inside : ∀ ch ∈ line, endline ch = false)
    (stop : LineBehind behind) : (line ++ behind).takeWhile (!endline ·) = line := by
  have rest : behind.takeWhile (!endline ·) = [] := by
    cases behind with
    | nil => rfl
    | cons ch behind =>
        have ending : endline ch := stop ch rfl
        rw [List.takeWhile_cons, ending]
        rfl
  rw [List.takeWhile_append_of_pos (by simpa using inside), rest, List.append_nil]

theorem uncommented_append {front : Text} (clear : ∀ ch ∈ front, ch ≠ '#') (rest : Text) :
    uncommented false (front ++ rest) = front ++ uncommented false rest := by
  induction front with
  | nil => rfl
  | cons ch front ih =>
      obtain ⟨first, later⟩ := List.forall_mem_cons.mp clear
      simp [uncommented, first, ih later]

theorem uncommented_hidden {comment : Text} (inside : ∀ ch ∈ comment, endline ch = false) :
    uncommented true comment = [] := by
  induction comment with
  | nil => rfl
  | cons ch comment ih =>
      obtain ⟨first, later⟩ := List.forall_mem_cons.mp inside
      simp [uncommented, first, ih later]

theorem uncommented_optional (comment : Option Comment) :
    uncommented false (optionalComment comment) = [] := by
  cases comment with
  | none => rfl
  | some comment =>
      change uncommented false ('#' :: comment.val) = []
      simpa [uncommented, endline] using uncommented_hidden comment.property

theorem takeWhile_optional (comment : Option Comment) :
    (optionalComment comment).takeWhile (· != '#') = [] := by
  cases comment with
  | none => rfl
  | some comment => rfl

theorem endline_of_spaceTab {ch : Char} (blank : spaceTab ch) : endline ch = false := by
  simp only [spaceTab, Bool.or_eq_true, beq_iff_eq] at blank
  rcases blank with rfl | rfl <;> rfl

theorem ne_hash_of_spaceTab {ch : Char} (blank : spaceTab ch) : ch ≠ '#' := by
  rintro rfl
  exact absurd blank (by decide)

theorem keyChar_clear {ch : Char} (key : keyChar ch) :
    whitespace ch = false ∧ ch ≠ '#' ∧ ch ≠ '=' := by
  have other {plain : Char} (not_key : keyChar plain = false) : ch ≠ plain := by
    rintro rfl
    exact absurd key (by simp [not_key])
  have blank := other (show keyChar ' ' = false by decide)
  have tab := other (show keyChar '\t' = false by decide)
  have newline := other (show keyChar '\n' = false by decide)
  have carriage := other (show keyChar '\r' = false by decide)
  refine ⟨?_, other (by decide), other (by decide)⟩
  simp [whitespace, spaceTab, endline, blank, tab, newline, carriage]

theorem optionalComment_line (comment : Option Comment) :
    ∀ ch ∈ optionalComment comment, endline ch = false := by
  cases comment with
  | none => exact fun ch member => absurd member List.not_mem_nil
  | some comment =>
      intro ch member
      rcases List.mem_cons.mp member with rfl | inside
      · decide
      · exact comment.property ch inside

section

variable (entry : Entry) (before after trailing : Blanks) (comment : Option Comment)

theorem render_line : ∀ ch ∈ (FileLine.option entry before after trailing comment).render,
    endline ch = false := by
  intro ch member
  simp only [FileLine.render, List.mem_append, List.mem_cons] at member
  have plain : whitespace ch = false → endline ch = false := fun blank =>
    (Bool.or_eq_false_iff.mp blank).2
  rcases member with key | blank | rfl | blank | value | blank | hidden
  · exact plain (keyChar_clear (entry.key_chars ch key)).1
  · exact endline_of_spaceTab (before.property ch blank)
  · decide
  · exact endline_of_spaceTab (after.property ch blank)
  · exact (entry.one_line ch value).1
  · exact endline_of_spaceTab (trailing.property ch blank)
  · exact optionalComment_line comment ch hidden

end

theorem rdropWhile_trailing {p : Char → Bool} {text back : Text} (nonempty : text ≠ [])
    (keep : ∀ ch ∈ text.getLast?, p ch = false) (all : ∀ ch ∈ back, p ch) :
    (text ++ back).rdropWhile p = text := by
  obtain ⟨front, last, rfl⟩ := List.eq_nil_or_concat text |>.resolve_left nonempty
  have kept : p last = false := keep last (by simp)
  have dropped : ∀ ch ∈ back.reverse, p ch := by simpa using all
  rw [List.rdropWhile, List.reverse_append, List.dropWhile_append_of_pos dropped,
    List.concat_eq_append, List.reverse_append, List.reverse_singleton, List.singleton_append,
    List.dropWhile_cons, kept]
  simp

section

variable (entry : Entry) (before after trailing : Blanks) (comment : Option Comment)

/-- The option without the blanks at its end. -/
def contentOf : Text := entry.key ++ (before.val ++ '=' :: (after.val ++ entry.value))

theorem render_eq : (FileLine.option entry before after trailing comment).render =
    contentOf entry before after ++ trailing.val ++ optionalComment comment := by
  simp [FileLine.render, contentOf]

theorem content_line : ∀ ch ∈ contentOf entry before after ++ trailing.val, ch ≠ '#' := by
  intro ch member
  simp only [contentOf, List.mem_append, List.mem_cons] at member
  rcases member with (key | blank | rfl | blank | value) | blank
  · exact (keyChar_clear (entry.key_chars ch key)).2.1
  · exact ne_hash_of_spaceTab (before.property ch blank)
  · decide
  · exact ne_hash_of_spaceTab (after.property ch blank)
  · exact (entry.one_line ch value).2
  · exact ne_hash_of_spaceTab (trailing.property ch blank)

theorem whitespace_last : ∀ ch ∈ entry.value.getLast?, whitespace ch = false := by
  intro ch last
  rw [whitespace, entry.ends ch last, Bool.false_or]
  exact (entry.one_line ch (List.mem_of_getLast? last)).1

/-- The line without its comment and the blanks at its end. -/
theorem render_content :
    ((FileLine.option entry before after trailing comment).render.takeWhile
      (· != '#')).rdropWhile whitespace = contentOf entry before after := by
  have clear : ∀ ch ∈ contentOf entry before after ++ trailing.val, (ch != '#') = true := by
    simpa using content_line entry before after trailing
  rw [render_eq, List.takeWhile_append_of_pos clear, takeWhile_optional, List.append_nil]
  have last : (contentOf entry before after).getLast? = entry.value.getLast? := by
    have shape : contentOf entry before after =
        (entry.key ++ (before.val ++ '=' :: after.val)) ++ entry.value := by simp [contentOf]
    rw [shape, List.getLast?_append_of_ne_nil _ entry.value_ne]
  refine rdropWhile_trailing (by simp [contentOf, entry.key_ne]) ?_ ?_
  · rw [last]
    exact whitespace_last entry
  · intro ch blank
    rw [whitespace, trailing.property ch blank, Bool.true_or]

theorem idxOf_content :
    (contentOf entry before after).idxOf '=' = entry.key.length + before.val.length := by
  have key : '=' ∉ entry.key := fun member => (keyChar_clear (entry.key_chars _ member)).2.2 rfl
  have blanks : '=' ∉ before.val := fun member => absurd (before.property _ member) (by decide)
  rw [contentOf, List.idxOf_append_of_notMem key, List.idxOf_append_of_notMem blanks,
    List.idxOf_cons_self, Nat.add_zero]

theorem take_content :
    ((contentOf entry before after).take (entry.key.length + before.val.length)).rdropWhile
      spaceTab = entry.key := by
  have shape : contentOf entry before after =
      (entry.key ++ before.val) ++ '=' :: (after.val ++ entry.value) := by simp [contentOf]
  rw [shape, ← List.length_append, List.take_left]
  refine rdropWhile_trailing entry.key_ne ?_ before.property
  intro ch last
  have clear := (keyChar_clear (entry.key_chars ch (List.mem_of_getLast? last))).1
  exact (Bool.or_eq_false_iff.mp clear).1

theorem drop_content :
    ((contentOf entry before after).drop (entry.key.length + before.val.length + 1)).takeWhile
      spaceTab = after.val := by
  have shape : contentOf entry before after =
      (entry.key ++ before.val ++ ['=']) ++ (after.val ++ entry.value) := by simp [contentOf]
  have count : entry.key.length + before.val.length + 1 =
      (entry.key ++ before.val ++ ['=']).length := by simp [Nat.add_assoc]
  obtain ⟨ch, rest, value⟩ := List.exists_cons_of_ne_nil entry.value_ne
  have first := (entry.starts ch (by rw [value]; rfl)).1
  rw [shape, count, List.drop_left, List.takeWhile_append_of_pos after.property, value,
    List.takeWhile_cons, first]
  simp

/-- What `to_string` keeps behind the blanks, and the blanks go with it. -/
theorem drop_render {behind : Text} :
    ((FileLine.option entry before after trailing comment).render ++ behind).drop
      (entry.key.length + before.val.length + 1 + after.val.length) =
        entry.value ++ (trailing.val ++ optionalComment comment) ++ behind := by
  have shape : (FileLine.option entry before after trailing comment).render ++ behind =
      (entry.key ++ before.val ++ '=' :: after.val) ++
        (entry.value ++ (trailing.val ++ optionalComment comment) ++ behind) := by
    simp [FileLine.render]
  have count : entry.key.length + before.val.length + 1 + after.val.length =
      (entry.key ++ before.val ++ '=' :: after.val).length := by
    simp only [List.length_append, List.length_cons]
    omega
  rw [shape, count, List.drop_left]

theorem toString_key : toString entry.key = String.ofList entry.key := by
  have clear : ∀ ch ∈ entry.key, ch ≠ '#' := fun ch member =>
    (keyChar_clear (entry.key_chars ch member)).2.1
  have kept := uncommented_append clear []
  rw [List.append_nil, uncommented, List.append_nil] at kept
  rw [toString, kept]

theorem toString_value :
    toString (entry.value ++ (trailing.val ++ optionalComment comment)) =
      String.ofList (entry.value ++ trailing.val) := by
  rw [toString, uncommented_append fun ch member => (entry.one_line ch member).2,
    uncommented_append fun ch member => ne_hash_of_spaceTab (trailing.property ch member),
    uncommented_optional, List.append_nil]

/-- The text of the value has the blanks behind it. -/
theorem parseOption_render {behind : Text} (stop : LineBehind behind) :
    parseOption ((FileLine.option entry before after trailing comment).render ++ behind) =
      (behind, some (String.ofList entry.key, String.ofList (entry.value ++ trailing.val))) := by
  have start : ((FileLine.option entry before after trailing comment).render ++ behind).dropWhile
      whitespace = (FileLine.option entry before after trailing comment).render ++ behind := by
    obtain ⟨ch, rest, key⟩ := List.exists_cons_of_ne_nil entry.key_ne
    have first := (keyChar_clear (entry.key_chars ch (by rw [key]; exact List.mem_cons_self))).1
    rw [FileLine.render, key, List.cons_append, List.cons_append, List.dropWhile_cons, first]
    rfl
  have length : (FileLine.option entry before after trailing comment).render.length =
      entry.key.length + before.val.length + 1 + after.val.length +
        (entry.value ++ (trailing.val ++ optionalComment comment)).length := by
    simp only [FileLine.render, List.length_append, List.length_cons]
    omega
  have given := List.length_pos_of_ne_nil entry.value_ne
  have key := List.length_pos_of_ne_nil entry.key_ne
  have content : (contentOf entry before after).length =
      entry.key.length + before.val.length + 1 + after.val.length + entry.value.length := by
    simp only [contentOf, List.length_append, List.length_cons]
    omega
  have value := @drop_render entry before after trailing comment []
  rw [List.append_nil, List.append_nil] at value
  unfold parseOption
  simp only [start, takeWhile_line (render_line entry before after trailing comment) stop,
    render_content, idxOf_content, take_content, drop_content, drop_render, value, List.drop_left,
    toString_key, toString_value]
  rw [if_neg (by omega), if_neg (by rw [length, List.length_append]; omega)]
  obtain ⟨ch, rest, shape⟩ := List.exists_cons_of_ne_nil entry.value_ne
  have other : ch ≠ '[' := (entry.starts ch (by rw [shape]; rfl)).2
  split
  · next list found =>
      rw [shape, List.cons_append, List.cons_append] at found
      exact absurd (List.cons.inj found).1 other
  · rfl

end

theorem parseOption_remark (blanks : Blanks) (comment : Comment) {behind : Text}
    (stop : LineBehind behind) :
    parseOption ((FileLine.remark blanks comment).render ++ behind) = (behind, none) := by
  have blank : ∀ ch ∈ blanks.val, whitespace ch := fun ch member => by
    rw [whitespace, blanks.property ch member, Bool.true_or]
  have start : ((FileLine.remark blanks comment).render ++ behind).dropWhile whitespace =
      comment.render ++ behind := by
    rw [FileLine.render, List.append_assoc, List.dropWhile_append_of_pos blank]
    rfl
  have content : (comment.render.takeWhile (· != '#')).rdropWhile whitespace = [] := rfl
  have line : (comment.render ++ behind).takeWhile (!endline ·) = comment.render :=
    takeWhile_line (optionalComment_line (some comment)) stop
  unfold parseOption
  simp only [start, line, content, List.idxOf_nil, List.length_nil, true_or, if_true,
    List.drop_left]

/-! ## All lines -/

/-- An option as it is stored, with the blanks behind the value. -/
def stored : Entry × Blanks → String × String
  | (entry, trailing) => (String.ofList entry.key, String.ofList (entry.value ++ trailing.val))

theorem options_line (line : FileLine) {behind rest : Text} (stop : LineBehind behind)
    (after : afterLine behind = rest) (skipped : options behind = options rest) :
    options (line.render ++ behind) = (line.entry.map stored).toList ++ options rest := by
  cases line with
  | option entry before after' trailing comment =>
      have nonempty :
          (FileLine.option entry before after' trailing comment).render ++ behind ≠ [] := by
        simp [FileLine.render, entry.key_ne]
      rw [options_of_parse nonempty (parseOption_render entry before after' trailing comment stop),
        after]
      rfl
  | blank blanks =>
      have blank : ∀ ch ∈ blanks.val, whitespace ch := fun ch member => by
        rw [whitespace, blanks.property ch member, Bool.true_or]
      rw [FileLine.render, options_blank blank, skipped]
      rfl
  | remark blanks comment =>
      have nonempty : (FileLine.remark blanks comment).render ++ behind ≠ [] := by
        simp [FileLine.render, Comment.render]
      rw [options_of_parse nonempty (parseOption_remark blanks comment stop), after]
      rfl

theorem options_last (line : FileLine) :
    options line.render = (line.entry.map stored).toList := by
  have whole := @options_line line [] [] (fun _ none => nomatch none) rfl rfl
  rwa [List.append_nil, options, List.append_nil] at whole

theorem options_ended (line : FileLine) (lineEnd : LineEnd) (rest : Text) :
    options (line.render ++ (lineEnd.render ++ rest)) =
      (line.entry.map stored).toList ++ options rest := by
  have blank : ∀ ch ∈ lineEnd.render, whitespace ch :=
    List.all_eq_true.mp (by cases lineEnd <;> rfl)
  refine options_line line ?_ ?_ (options_blank blank rest)
  · cases lineEnd <;> · rintro ch ⟨⟩; decide
  · cases lineEnd <;> rfl

theorem options_lines (lines : List (FileLine × LineEnd)) (rest : Text) :
    options (linesText lines ++ rest) =
      (lines.map Prod.fst).filterMap (fun line => line.entry.map stored) ++ options rest := by
  induction lines with
  | nil => rfl
  | cons head lines ih =>
      have text : linesText (head :: lines) ++ rest =
          head.1.render ++ (head.2.render ++ (linesText lines ++ rest)) := by
        simp [linesText]
      rw [text, options_ended, ih, List.map_cons, List.filterMap_cons]
      cases head.1.entry <;> rfl

theorem options_render (file : File) : options file.render = file.entries.map stored := by
  rw [File.render, options_lines, File.entries, List.map_filterMap, List.filterMap_append]
  congr 1
  cases file.last with
  | none => exact (by rw [options] : options [] = [])
  | some line =>
      rw [Option.map_some, Option.getD_some, options_last, Option.toList_some,
        List.filterMap_cons, List.filterMap_nil]
      cases line.entry <;> rfl

/-! ## Values -/

theorem normalizeConfigKey_key (entry : Entry) :
    normalizeConfigKey (String.ofList entry.key) = String.ofList entry.key := by
  obtain ⟨ch, rest, key⟩ := List.exists_cons_of_ne_nil entry.key_ne
  have first : (ch.isAlphanum || ch == '_') = true :=
    entry.key_chars ch (by rw [key]; exact List.mem_cons_self)
  rw [normalizeConfigKey, String.toList_ofList, key, List.dropWhile_cons, first]
  rfl

theorem emplace_or {vars : Vars} {key text name : String} {rest : List (String × String)} :
    (vars.emplace key text name).or (rest.lookup name) =
      (vars name).or (((key, text) :: rest).lookup name) := by
  rw [List.lookup_cons]
  by_cases same : name = key
  · subst same
    rw [Vars.emplace, beq_self_eq_true]
    cases given : vars name with
    | none => simp
    | some other => simp [given]
  · rw [Vars.emplace_of_ne same, beq_eq_false_iff_ne.mpr same]

/-- The first option of a name counts. -/
theorem foldl_emplace (entries : List (Entry × Blanks)) (vars : Vars) (name : String) :
    (entries.map stored).foldl (fun vars (key, text) =>
      let name := normalizeConfigKey key
      if name = "" then vars else vars.emplace name text) vars name =
        (vars name).or ((entries.map stored).lookup name) := by
  induction entries generalizing vars with
  | nil => simp
  | cons head entries ih =>
      obtain ⟨entry, trailing⟩ := head
      have given : String.ofList entry.key ≠ "" := by
        intro empty
        exact entry.key_ne (by simpa using congrArg String.toList empty)
      rw [List.map_cons, List.foldl_cons, ih, stored]
      simp only [normalizeConfigKey_key, given, if_false]
      exact emplace_or

theorem parseConfig_render (file : File) (name : String) :
    parseConfig file.render name = (file.entries.map stored).lookup name := by
  rw [parseConfig, options_render, foldl_emplace, Vars.empty, Option.none_or]

/-- An option without the blanks. -/
def written : Entry × Blanks → String × String
  | (entry, _) => (String.ofList entry.key, String.ofList entry.value)

theorem lookup_first {f : Entry × Blanks → String × String}
    (key : ∀ entry trailing, (f (entry, trailing)).1 = String.ofList entry.key)
    {front back : List (Entry × Blanks)} {entry : Entry} {trailing : Blanks}
    (first : ∀ other ∈ front, other.1.key ≠ entry.key) :
    ((front ++ (entry, trailing) :: back).map f).lookup (String.ofList entry.key) =
      some (f (entry, trailing)).2 := by
  induction front with
  | nil =>
      rw [List.nil_append, List.map_cons, List.lookup_cons, key, beq_self_eq_true]
  | cons head front ih =>
      obtain ⟨head_ne, later⟩ := List.forall_mem_cons.mp first
      have other : String.ofList entry.key ≠ (f head).1 := by
        intro same
        rw [key head.1 head.2] at same
        exact head_ne (String.ofList_injective same).symm
      rw [List.cons_append, List.map_cons, List.lookup_cons, beq_eq_false_iff_ne.mpr other]
      exact ih later

theorem lookup_none {f : Entry × Blanks → String × String}
    (key : ∀ entry trailing, (f (entry, trailing)).1 = String.ofList entry.key)
    {entries : List (Entry × Blanks)} {name : String}
    (absent : ∀ other ∈ entries, String.ofList other.1.key ≠ name) :
    (entries.map f).lookup name = none := by
  induction entries with
  | nil => rfl
  | cons head entries ih =>
      obtain ⟨head_ne, later⟩ := List.forall_mem_cons.mp absent
      have other : name ≠ (f head).1 := by
        rw [key head.1 head.2]
        exact head_ne.symm
      rw [List.map_cons, List.lookup_cons, beq_eq_false_iff_ne.mpr other]
      exact ih later

/-- The first entry of a name, if it has one. -/
theorem first_entry (entries : List (Entry × Blanks)) (name : String) :
    (∀ other ∈ entries, String.ofList other.1.key ≠ name) ∨
      ∃ front entry trailing back, entries = front ++ (entry, trailing) :: back ∧
        String.ofList entry.key = name ∧ ∀ other ∈ front, other.1.key ≠ entry.key := by
  induction entries with
  | nil => exact .inl fun _ member => absurd member List.not_mem_nil
  | cons head entries ih =>
      by_cases here : String.ofList head.1.key = name
      · exact .inr ⟨[], head.1, head.2, entries, rfl, here,
          fun _ member => absurd member List.not_mem_nil⟩
      · rcases ih with absent | ⟨front, entry, trailing, back, rfl, same, first⟩
        · exact .inl (List.forall_mem_cons.mpr ⟨here, absent⟩)
        · refine .inr ⟨head :: front, entry, trailing, back, rfl, same, ?_⟩
          refine List.forall_mem_cons.mpr ⟨?_, first⟩
          intro key
          rw [key] at here
          exact here same

theorem values_iff_trimmed (file : File) :
    parseConfig file.render = file.values ↔ file.Trimmed := by
  have stored_key : ∀ entry trailing, (stored (entry, trailing)).1 = String.ofList entry.key :=
    fun _ _ => rfl
  have written_key : ∀ entry trailing, (written (entry, trailing)).1 = String.ofList entry.key :=
    fun _ _ => rfl
  constructor
  · intro same front entry trailing back shape first
    have here := congrFun same (String.ofList entry.key)
    rw [parseConfig_render, shape, lookup_first stored_key first] at here
    change _ = (file.entries.map written).lookup _ at here
    rw [shape, lookup_first written_key first] at here
    have texts := String.ofList_injective (Option.some.inj here)
    exact List.append_right_eq_self.mp texts
  · intro trimmed
    funext name
    rw [parseConfig_render]
    change _ = (file.entries.map written).lookup name
    rcases first_entry file.entries name with
      absent | ⟨front, entry, trailing, back, shape, rfl, first⟩
    · rw [lookup_none stored_key absent, lookup_none written_key absent]
    · have blank := trimmed front entry trailing back shape first
      rw [shape, lookup_first stored_key first, lookup_first written_key first, stored, written,
        blank, List.append_nil]

/-! ## Numbers -/

theorem decimal_lt {digits : Text} (all : ∀ ch ∈ digits, ch.isDigit) :
    Rtsp.decimal digits < 10 ^ digits.length := by
  induction digits using List.reverseRecOn with
  | nil => decide
  | append_singleton front ch ih =>
      obtain ⟨front_digits, last⟩ := List.forall_mem_append.mp all
      have digit : ch.toNat - 48 < 10 := by
        have bounds := last ch List.mem_cons_self
        simp only [Char.isDigit, Bool.and_eq_true, decide_eq_true_eq] at bounds
        have upper : ch.toNat ≤ 57 := bounds.2
        omega
      have before := ih front_digits
      rw [Rtsp.decimal, List.foldl_append, List.length_append, List.length_singleton, pow_succ]
      change 10 * Rtsp.decimal front + (ch.toNat - 48) < _
      omega

theorem intOf_digits {digits : Text} (nonempty : digits ≠ []) (all : ∀ ch ∈ digits, ch.isDigit)
    (short : digits.length ≤ 9) (input : Int) :
    intOf (some (String.ofList digits)) input = Rtsp.decimal digits := by
  obtain ⟨ch, rest, rfl⟩ := List.exists_cons_of_ne_nil nonempty
  have unquoted : ch ≠ '"' := by
    rintro rfl
    exact absurd (all _ List.mem_cons_self) (by decide)
  have plain : (ch :: rest).take 2 ≠ ['0', 'x'] := by
    intro hexadecimal
    have member : 'x' ∈ (ch :: rest).take 2 := by rw [hexadecimal]; decide
    exact absurd (all _ (List.mem_of_mem_take member)) (by decide)
  have small : Rtsp.decimal (ch :: rest) < 10 ^ 9 :=
    (decimal_lt all).trans_le (Nat.pow_le_pow_right (by decide) short)
  have value : intValue (String.ofList (ch :: rest)) = Rtsp.toInt (Rtsp.fromView (ch :: rest)) := by
    simp only [intValue, String.toList_ofList, List.head?_cons, Option.some.injEq, unquoted,
      and_false, if_false, plain]
  rw [intOf, Option.map_some, Option.getD_some, value, Rtsp.fromView_digits nonempty all,
    Rtsp.toInt]
  exact Int.bmod_eq_of_le (by omega) (by omega)

/-- Every value of at most nine digits is read as its number. -/
def File.ReadsNumbers (file : File) : Prop :=
  ∀ name digits input, file.values name = some (String.ofList digits) →
    (∀ ch ∈ digits, ch.isDigit) → digits.length ≤ 9 →
    intOf (parseConfig file.render name) input = Rtsp.decimal digits

theorem values_nonempty {file : File} {name : String} {digits : Text}
    (given : file.values name = some (String.ofList digits)) : digits ≠ [] := by
  change (file.entries.map written).lookup name = _ at given
  rcases first_entry file.entries name with
    absent | ⟨front, entry, trailing, back, shape, rfl, first⟩
  · rw [lookup_none (fun _ _ => rfl) absent] at given
    cases given
  · rw [shape, lookup_first (fun _ _ => rfl) first] at given
    rw [← String.ofList_injective (Option.some.inj given)]
    exact entry.value_ne

/-- A file is read as it is written exactly if no blanks stand behind its first values. -/
theorem parseConfig_as_written (file : File) :
    (parseConfig file.render = file.values ∧ file.ReadsNumbers) ↔ file.Trimmed := by
  rw [values_iff_trimmed, and_iff_left_iff_imp]
  intro trimmed name digits input given all short
  rw [(values_iff_trimmed file).mpr trimmed, given]
  exact intOf_digits (values_nonempty given) all short input

/-- `port = 47989` with a space behind it. -/
def blankPort : File where
  lines := [(.option
    { key := ['p', 'o', 'r', 't'], value := ['4', '7', '9', '8', '9']
      key_ne := by decide, key_chars := List.all_eq_true.mp rfl, value_ne := by decide
      one_line := by simp [endline]
      starts := fun _ first => by cases first; decide
      ends := fun _ last => by cases last; decide }
    ⟨[' '], List.all_eq_true.mp rfl⟩ ⟨[' '], List.all_eq_true.mp rfl⟩
    ⟨[' '], List.all_eq_true.mp rfl⟩ none, .newline)]
  last := none

theorem blankPort_misread :
    blankPort.values "port" = some "47989" ∧
      parseConfig blankPort.render "port" = some "47989 " ∧
      intOf (parseConfig blankPort.render "port") 0 = 479874 := by
  have text : parseConfig blankPort.render "port" = some "47989 " :=
    (parseConfig_render blankPort "port").trans (by decide)
  refine ⟨by decide, text, ?_⟩
  rw [text]
  decide

end UmbraHost.Config.Rendered
