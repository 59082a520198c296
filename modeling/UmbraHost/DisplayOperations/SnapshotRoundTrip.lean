import UmbraHost.DisplayOperations.SnapshotWriter

/-! # A snapshot file is read back as it was written

What the scanners and a JSON parser make of the text of a snapshot whose identifiers may have
braces, brackets, commas and colons in them. -/

namespace UmbraHost.DisplayOperations

open UmbraHost.DisplayHelper
open UmbraHost.Json (quoted commas array member object plain blank closes Reads)

variable {key : String}

/-! ## What the fields are read as -/

/-- `DisplayMode` has fields of 32 bits. -/
def Mode32 (mode : DisplayMode) : Prop :=
  mode.resolution.width < 2 ^ 32 ∧ mode.resolution.height < 2 ^ 32 ∧
    mode.refreshRate.numerator < 2 ^ 32 ∧ mode.refreshRate.denominator < 2 ^ 32

instance : DecidablePred Mode32 := fun _ => inferInstanceAs (Decidable (_ ∧ _ ∧ _ ∧ _))

/-- `Point` has signed fields of 32 bits. -/
def Origin32 (origin : Point) : Prop :=
  (-2 ^ 31 ≤ origin.x ∧ origin.x < 2 ^ 31) ∧ -2 ^ 31 ≤ origin.y ∧ origin.y < 2 ^ 31

instance : DecidablePred Origin32 := fun _ => inferInstanceAs (Decidable ((_ ∧ _) ∧ _ ∧ _))

theorem readMode_opened {mode : DisplayMode} (bounds : Mode32 mode) :
    readMode (opened (modeFields mode)) = .ok mode := by
  obtain ⟨width, height, numerator, denominator⟩ := bounds
  have w : parseNumField (opened (modeFields mode)) "w" = .ok mode.resolution.width :=
    parseNumField_opened (by decide) [] ((modeFields mode).drop 1) width (by simp)
  have h : parseNumField (opened (modeFields mode)) "h" = .ok mode.resolution.height :=
    parseNumField_opened (by decide) ((modeFields mode).take 1) ((modeFields mode).drop 2) height
      (by simp [modeFields]; decide)
  have num : parseNumField (opened (modeFields mode)) "num" = .ok mode.refreshRate.numerator :=
    parseNumField_opened (by decide) ((modeFields mode).take 2) ((modeFields mode).drop 3)
      numerator (by simp [modeFields]; decide)
  have den : parseNumField (opened (modeFields mode)) "den" = .ok mode.refreshRate.denominator :=
    parseNumField_opened (by decide) ((modeFields mode).take 3) [] denominator
      (by simp [modeFields]; decide)
  rw [readMode, w, h, num, den]
  rfl

theorem readOrigin_opened {origin : Point} (bounds : Origin32 origin) :
    readOrigin (opened (originFields origin)) = .ok origin := by
  obtain ⟨⟨xLow, xHigh⟩, yLow, yHigh⟩ := bounds
  have x : parseSignedNumField (opened (originFields origin)) "x" = .ok origin.x :=
    parseSignedNumField_opened (by decide) [] ((originFields origin).drop 1) xLow xHigh (by simp)
  have y : parseSignedNumField (opened (originFields origin)) "y" = .ok origin.y :=
    parseSignedNumField_opened (by decide) ((originFields origin).take 1) [] yLow yHigh
      (by simp [originFields]; decide)
  rw [readOrigin, x, y]
  rfl

/-- What stands in front of a mark is passed. -/
theorem dropWhile_stops {passes : Char → Bool} {before : Text} (passed : before.all passes)
    {mark : Char} (stops : ¬passes mark) (rest : Text) :
    (before ++ mark :: rest).dropWhile passes = mark :: rest := by
  rw [List.dropWhile_append_of_pos (List.all_eq_true.mp passed), List.dropWhile_cons_of_neg stops]

/-- What stands between a place in the text and the next name. -/
def gap (before : Text) : Bool := before.all fun char => char ≠ '"' && char ≠ '}'

theorem nextObject?_member {before inside : Text} (passed : gap before) {id : String}
    (printable : id.toList.all plain) (unclosed : '}' ∉ inside) (rest : Text) :
    nextObject? (before ++ (quoted id ++ ':' :: ' ' :: '{' :: (inside ++ '}' :: rest))) =
      some (id, '{' :: inside, rest) := by
  have nameFree := quote_notMem printable
  have shape : quoted id ++ ':' :: ' ' :: '{' :: (inside ++ '}' :: rest) =
      '"' :: (id.toList ++ '"' :: ':' :: ' ' :: '{' :: (inside ++ '}' :: rest)) := by simp [quoted]
  have brace := @find?_append '{' ['"', ':', ' '] (by decide)
    (inside ++ '}' :: rest)
  have open_ : '}' ∉ '{' :: inside := by simp [unclosed]
  have ending := find?_append open_ rest
  have object := takeWhile_append open_ rest
  have quote := find?_append nameFree (':' :: ' ' :: '{' :: (inside ++ '}' :: rest))
  have name := takeWhile_append nameFree (':' :: ' ' :: '{' :: (inside ++ '}' :: rest))
  rw [shape, nextObject?, dropWhile_stops passed (by decide)]
  simp only [List.cons_append, List.nil_append] at brace ending object
  simp only [quote, brace, ending, object, name, Option.bind_eq_bind, Option.bind_some,
    List.tail_cons, String.ofList_toList]
  rfl

theorem nextObject?_end {before : Text} (passed : gap before) (rest : Text) :
    nextObject? (before ++ '}' :: rest) = none := by
  rw [nextObject?, dropWhile_stops passed (by decide)]
  rfl

theorem commas_notMem {char : Char} (other : char ≠ ',') {items : List Text}
    (absent : ∀ item ∈ items, char ∉ item) : char ∉ commas items := by
  induction items with
  | nil => exact List.not_mem_nil
  | cons item items ih =>
      have first := absent item List.mem_cons_self
      have later := ih fun item inside => absent item (List.mem_cons_of_mem _ inside)
      cases items with
      | nil => exact first
      | cons next items => simp [commas, first, other, later]

/-- What stands behind the first item. -/
theorem commas_step (item : Text) (items : List Text) (tail : Text) :
    ∃ mark, (mark = [] ∧ items = [] ∨ mark = [',']) ∧
      commas (item :: items) ++ tail = item ++ (mark ++ (commas items ++ tail)) := by
  cases items with
  | nil => exact ⟨[], .inl ⟨rfl, rfl⟩, rfl⟩
  | cons next items => exact ⟨[','], .inr rfl, by simp [commas]⟩

theorem opened_notMem {parts : List (String × Text)}
    (passed : ∀ field ∈ parts, '}' ∉ field.1.toList ∧ ∃ value, field.2 = toText value) :
    '}' ∉ commas (parts.map (member [' '])) ++ [' '] := by
  have each : ∀ item ∈ parts.map (member [' ']), '}' ∉ item := by
    intro item inside
    obtain ⟨field, member, rfl⟩ := List.mem_map.mp inside
    obtain ⟨named, value, same⟩ := passed field member
    have number := @toText_notMem '}' (by decide) (by decide) value
    simp [Json.member, quoted, same, named, number]
  simp [commas_notMem (by decide) each]

theorem emplace_eq {α : Type} (key : String) (value : α) (map : List (String × α)) :
    emplace key value map = Tables.tryEmplace Prod.fst (key, value) map := by
  induction map with
  | nil => rfl
  | cons entry rest ih => simp only [emplace, Tables.tryEmplace, Tables.insertBy, ih]

section

variable {α : Type} {read : Text → Except Thrown α} {found : List (String × α)} {rest : Text}

theorem parseObjects_of_next {id : String} {object following : Text} {value : α}
    (next : nextObject? rest = some (id, object, following)) (reads : read object = .ok value) :
    parseObjects read found rest =
      parseObjects read (Tables.tryEmplace Prod.fst (id, value) found) following := by
  rw [parseObjects]
  split
  next last => cases next.symm.trans last
  next same =>
    cases next.symm.trans same
    rw [reads, ← emplace_eq]
    rfl

theorem parseObjects_of_end (last : nextObject? rest = none) :
    parseObjects read found rest = .ok found := by
  rw [parseObjects]
  split
  next => rfl
  next next => cases last.symm.trans next

/-- The loop over a map takes up what was written, entry by entry. -/
theorem parseObjects_commas {shape : α → List (String × Text)} {map : List (String × α)}
    (printable : ∀ entry ∈ map, entry.1.toList.all plain)
    (reads : ∀ entry ∈ map, read (opened (shape entry.2)) = .ok entry.2)
    (unclosed : ∀ value, '}' ∉ commas ((shape value).map (member [' '])) ++ [' '])
    {before : Text} (passed : gap before) (found : List (String × α)) (tail : Text) :
    parseObjects read found (before ++ (commas (map.map fun entry =>
        member entryLine (entry.1, fields (shape entry.2))) ++ (line ++ '}' :: tail))) =
      .ok (map.foldl (fun found entry => Tables.tryEmplace Prod.fst entry found) found) := by
  induction map generalizing found before with
  | nil =>
      have blanks : gap (before ++ line) := by
        rw [gap, List.all_append]
        exact Bool.and_eq_true_iff.mpr ⟨passed, by decide⟩
      rw [List.map_nil, commas, List.nil_append, ← List.append_assoc]
      exact parseObjects_of_end (nextObject?_end blanks tail)
  | cons entry map ih =>
      obtain ⟨id, value⟩ := entry
      have later := @ih (fun other inside => printable other (List.mem_cons_of_mem _ inside))
        (fun other inside => reads other (List.mem_cons_of_mem _ inside))
      have blanks : gap (before ++ entryLine) := by
        rw [gap, List.all_append]
        exact Bool.and_eq_true_iff.mpr ⟨passed, by decide⟩
      obtain ⟨mark, marks, shaped⟩ := commas_step
        (member entryLine (id, fields (shape value)))
        (map.map fun entry => member entryLine (entry.1, fields (shape entry.2)))
        (line ++ '}' :: tail)
      have free : gap mark := by
        obtain ⟨rfl, -⟩ | rfl := marks <;> decide
      have next := nextObject?_member blanks (printable _ List.mem_cons_self) (unclosed value)
        (mark ++ (commas (map.map fun entry =>
          member entryLine (entry.1, fields (shape entry.2))) ++ (line ++ '}' :: tail)))
      rw [List.append_assoc] at next
      rw [List.map_cons, shaped, member, fields_eq, opened, List.foldl_cons]
      simp only [List.append_assoc, List.cons_append, List.nil_append] at next ⊢
      rw [parseObjects_of_next next (reads _ List.mem_cons_self)]
      exact later free _

theorem parseObjectField_entries {serialize : α → Text} {shape : α → List (String × Text)}
    {map : List (String × α)} (written : ∀ value, serialize value = fields (shape value))
    (printable : ∀ entry ∈ map, entry.1.toList.all plain)
    (reads : ∀ entry ∈ map, read (opened (shape entry.2)) = .ok entry.2)
    (unclosed : ∀ value, '}' ∉ commas ((shape value).map (member [' '])) ++ [' '])
    (sorted : Tables.Sorted Prod.fst map) (tail : Text) :
    parseObjectField read (' ' :: (entries serialize map ++ tail)) = .ok map := by
  have loop := @parseObjects_commas α read shape map printable reads unclosed [] (by decide) [] tail
  rw [Tables.foldl_tryEmplace_self sorted] at loop
  have texts : (map.map fun entry => (entry.1, serialize entry.2)).map (member entryLine) =
      map.map fun entry => member entryLine (entry.1, fields (shape entry.2)) := by
    simp [written, Function.comp_def]
  have opening : ' ' :: (entries serialize map ++ tail) =
      [' '] ++ '{' :: (commas (map.map fun entry =>
        member entryLine (entry.1, fields (shape entry.2))) ++ (line ++ '}' :: tail)) := by
    rw [entries, object, texts]
    simp
  rw [opening, parseObjectField, find?_append (by decide)]
  exact loop

end

/-! ### HDR states -/

/-- What the scan of a state makes of the text behind the colon. -/
theorem dropWhile_hdrState (state : Option HdrState) (rest : Text) :
    ∃ value, (' ' :: (serializeHdrState state ++ rest)).dropWhile
        (fun char => char = ' ' || char = '"') = value ++ rest ∧
      (value.all fun char => char ≠ ',' && char ≠ '}') ∧
      (if ['o', 'n'].isPrefixOf (value ++ rest) then some .enabled
        else if ['o', 'f', 'f'].isPrefixOf (value ++ rest) then some .disabled
        else none) = state := by
  cases state with
  | none => exact ⟨['n', 'u', 'l', 'l'], rfl, by decide, rfl⟩
  | some state =>
      cases state with
      | disabled => exact ⟨['o', 'f', 'f', '"'], rfl, by decide, rfl⟩
      | enabled => exact ⟨['o', 'n', '"'], rfl, by decide, rfl⟩

/-- The scan of a state stops at the mark behind it. -/
theorem nextHdrState?_member {before : Text} (passed : gap before) {id : String}
    (printable : id.toList.all plain) (state : Option HdrState) {space rest : Text}
    (spaces : space.all blank) {mark : Char} (marked : mark = ',' ∨ mark = '}') :
    nextHdrState? (before ++ (quoted id ++ ':' :: ' ' ::
        (serializeHdrState state ++ (space ++ mark :: rest)))) =
      some (id, state, if mark = ',' then rest else mark :: rest) := by
  have nameFree := quote_notMem printable
  obtain ⟨value, blanks, inner, means⟩ := dropWhile_hdrState state (space ++ mark :: rest)
  have shape : quoted id ++ ':' :: ' ' :: (serializeHdrState state ++ (space ++ mark :: rest)) =
      '"' :: (id.toList ++ '"' :: ':' :: ' ' ::
        (serializeHdrState state ++ (space ++ mark :: rest))) := by simp [quoted]
  have quote := find?_append nameFree (':' :: ' ' ::
    (serializeHdrState state ++ (space ++ mark :: rest)))
  have name := takeWhile_append nameFree (':' :: ' ' ::
    (serializeHdrState state ++ (space ++ mark :: rest)))
  have colon := @find?_append ':' ['"'] (by decide)
    (' ' :: (serializeHdrState state ++ (space ++ mark :: rest)))
  have ending : (value ++ (space ++ mark :: rest)).dropWhile
      (fun char => char ≠ ',' && char ≠ '}') = mark :: rest := by
    have spaceFree : ∀ char ∈ space, (char ≠ ',' && char ≠ '}') = true := by
      intro char inside
      have space := List.all_eq_true.mp spaces char inside
      simp only [blank, Bool.or_eq_true, decide_eq_true_eq] at space
      obtain ((rfl | rfl) | rfl) | rfl := space <;> decide
    rw [List.dropWhile_append_of_pos (List.all_eq_true.mp inner),
      List.dropWhile_append_of_pos spaceFree, List.dropWhile_cons_of_neg]
    obtain rfl | rfl := marked <;> decide
  rw [shape, nextHdrState?, dropWhile_stops passed (by decide)]
  rw [List.singleton_append] at colon
  simp only [quote, name, colon, Option.bind_eq_bind, Option.bind_some, List.tail_cons, blanks,
    means, ending, String.ofList_toList]
  obtain rfl | rfl := marked <;> rfl

theorem nextHdrState?_end {before : Text} (passed : gap before) (rest : Text) :
    nextHdrState? (before ++ '}' :: rest) = none := by
  rw [nextHdrState?, dropWhile_stops passed (by decide)]
  rfl

theorem parseHdrStates_of_next {found : List (String × Option HdrState)} {rest : Text}
    {id : String} {state : Option HdrState} {following : Text}
    (next : nextHdrState? rest = some (id, state, following)) :
    parseHdrStates found rest =
      parseHdrStates (Tables.tryEmplace Prod.fst (id, state) found) following := by
  rw [parseHdrStates]
  split
  next last => cases next.symm.trans last
  next same =>
    cases next.symm.trans same
    rw [← emplace_eq]

theorem parseHdrStates_of_end {found : List (String × Option HdrState)} {rest : Text}
    (last : nextHdrState? rest = none) : parseHdrStates found rest = found := by
  rw [parseHdrStates]
  split
  next => rfl
  next next => cases last.symm.trans next

theorem parseHdrStates_commas {map : List (String × Option HdrState)}
    (printable : ∀ entry ∈ map, entry.1.toList.all plain)
    (found : List (String × Option HdrState)) (tail : Text) :
    parseHdrStates found (commas (map.map fun entry =>
        member entryLine (entry.1, serializeHdrState entry.2)) ++ (line ++ '}' :: tail)) =
      map.foldl (fun found entry => Tables.tryEmplace Prod.fst entry found) found := by
  induction map generalizing found with
  | nil => exact parseHdrStates_of_end (nextHdrState?_end (by decide) tail)
  | cons entry map ih =>
      obtain ⟨id, state⟩ := entry
      have named := printable _ List.mem_cons_self
      have later := ih fun other inside => printable other (List.mem_cons_of_mem _ inside)
      cases map with
      | nil =>
          have next := @nextHdrState?_member entryLine (by decide) id named state line tail
            (by decide) '}' (.inr rfl)
          simp only [List.map_cons, List.map_nil, commas, member, List.append_assoc,
            List.cons_append, List.foldl_cons, List.foldl_nil]
          rw [parseHdrStates_of_next next]
          exact parseHdrStates_of_end (@nextHdrState?_end [] (by decide) tail)
      | cons entry map =>
          have next := fun rest => @nextHdrState?_member entryLine (by decide) id named state []
            rest (by decide) ',' (.inl rfl)
          simp only [List.map_cons, commas, List.foldl_cons] at later ⊢
          simp only [member, List.append_assoc, List.cons_append, List.nil_append] at later next ⊢
          rw [parseHdrStates_of_next (next _)]
          exact later _

theorem parseHdrField_entries {map : List (String × Option HdrState)}
    (printable : ∀ entry ∈ map, entry.1.toList.all plain) (sorted : Tables.Sorted Prod.fst map)
    (tail : Text) : parseHdrField (' ' :: (entries serializeHdrState map ++ tail)) = map := by
  have loop := parseHdrStates_commas printable [] tail
  rw [Tables.foldl_tryEmplace_self sorted] at loop
  have opening : ' ' :: (entries serializeHdrState map ++ tail) =
      [' '] ++ '{' :: (commas (map.map fun entry =>
        member entryLine (entry.1, serializeHdrState entry.2)) ++ (line ++ '}' :: tail)) := by
    rw [entries, object]
    simp [Function.comp_def]
  rw [opening, parseHdrField, find?_append (by decide)]
  exact loop

/-! ### The topology and the primary device -/

theorem parsePrimaryField_quoted {primary : String} (printable : primary.toList.all plain)
    (tail : Text) : parsePrimaryField (' ' :: (quoted primary ++ tail)) = primary := by
  have nameFree := quote_notMem printable
  have shape : ' ' :: (quoted primary ++ tail) =
      [' '] ++ '"' :: (primary.toList ++ '"' :: tail) := by simp [quoted]
  rw [shape, parsePrimaryField, find?_append (by decide)]
  simp only [List.tail_cons, find?_append nameFree, takeWhile_append nameFree,
    String.ofList_toList]

/-- What stands between a place in a group and the next device. -/
def groupGap (before : Text) : Bool := before.all fun char => char ≠ '"' && char ≠ ']'

theorem groupDevices_end {before : Text} (passed : groupGap before) (rest : Text) :
    groupDevices (before ++ ']' :: rest) = ([], ']' :: rest) := by
  have stop := @dropWhile_stops _ before passed ']' (by decide) rest
  rw [groupDevices.eq_def]
  split
  next quote => cases stop.symm.trans quote
  next => rw [stop]

theorem groupDevices_quoted {before : Text} (passed : groupGap before) {id : String}
    (printable : id.toList.all plain) (rest : Text) :
    groupDevices (before ++ (quoted id ++ rest)) =
      (id :: (groupDevices rest).1, (groupDevices rest).2) := by
  have nameFree := quote_notMem printable
  have shape : quoted id ++ rest = '"' :: (id.toList ++ '"' :: rest) := by simp [quoted]
  have stop := @dropWhile_stops _ before passed '"' (by decide) (id.toList ++ '"' :: rest)
  have quote := find?_append nameFree rest
  rw [shape, groupDevices.eq_def]
  split
  next after here =>
    cases stop.symm.trans here
    split
    next none => cases quote.symm.trans none
    next found =>
      cases quote.symm.trans found
      rw [takeWhile_append nameFree, String.ofList_toList]
      rfl
  next other => exact absurd stop (other _)

theorem groupDevices_commas {group : List String} (printable : ∀ id ∈ group, id.toList.all plain)
    {before : Text} (passed : groupGap before) (rest : Text) :
    groupDevices (before ++ (commas (group.map quoted) ++ ']' :: rest)) = (group, ']' :: rest) := by
  induction group generalizing before with
  | nil => exact groupDevices_end passed rest
  | cons id group ih =>
      obtain ⟨mark, marks, shaped⟩ := commas_step (quoted id) (group.map quoted) (']' :: rest)
      have free : groupGap mark := by
        obtain ⟨rfl, -⟩ | rfl := marks <;> decide
      have later := ih (fun other inside => printable other (List.mem_cons_of_mem _ inside)) free
      rw [List.map_cons, shaped, groupDevices_quoted passed (printable _ List.mem_cons_self), later]

/-- What stands between a place in the topology and the next group. -/
def topologyGap (before : Text) : Bool := before.all fun char => char ≠ '[' && char ≠ ']'

theorem parseGroups_end {before : Text} (passed : topologyGap before) (rest : Text) :
    parseGroups (before ++ ']' :: rest) = [] := by
  have stop := @dropWhile_stops _ before passed ']' (by decide) rest
  rw [parseGroups.eq_def]
  split
  next bracket => cases stop.symm.trans bracket
  next => rfl

theorem parseGroups_group {before : Text} (passed : topologyGap before) {group : List String}
    (printable : ∀ id ∈ group, id.toList.all plain) (rest : Text) :
    parseGroups (before ++ (array (group.map quoted) ++ rest)) = group :: parseGroups rest := by
  have shape : array (group.map quoted) ++ rest =
      '[' :: (commas (group.map quoted) ++ ']' :: rest) := by simp [array]
  have stop := @dropWhile_stops _ before passed '[' (by decide)
    (commas (group.map quoted) ++ ']' :: rest)
  have devices := @groupDevices_commas group printable [] (by decide) rest
  rw [List.nil_append] at devices
  rw [shape, parseGroups.eq_def]
  split
  next inside here =>
    cases stop.symm.trans here
    rw [devices]
    rfl
  next other => exact absurd stop (other _)

theorem parseGroups_commas {topology : ActiveTopology}
    (printable : ∀ group ∈ topology, ∀ id ∈ group, id.toList.all plain) {before : Text}
    (passed : topologyGap before) (rest : Text) :
    parseGroups (before ++ (commas (topology.map fun group => array (group.map quoted)) ++
      ']' :: rest)) = topology := by
  induction topology generalizing before with
  | nil => exact parseGroups_end passed rest
  | cons group topology ih =>
      obtain ⟨mark, marks, shaped⟩ := commas_step (array (group.map quoted))
        (topology.map fun group => array (group.map quoted)) (']' :: rest)
      have free : topologyGap mark := by
        obtain ⟨rfl, -⟩ | rfl := marks <;> decide
      have later := ih (fun other inside => printable other (List.mem_cons_of_mem _ inside)) free
      rw [List.map_cons, shaped, parseGroups_group passed (printable _ List.mem_cons_self), later]

theorem parseTopologyField_array {topology : ActiveTopology}
    (printable : ∀ group ∈ topology, ∀ id ∈ group, id.toList.all plain) (tail : Text) :
    parseTopologyField (' ' :: (array (topology.map fun group => array (group.map quoted)) ++
      tail)) = topology := by
  have groups := @parseGroups_commas topology printable [] (by decide) tail
  have shape : ' ' :: (array (topology.map fun group => array (group.map quoted)) ++ tail) =
      [' '] ++ '[' :: (commas (topology.map fun group => array (group.map quoted)) ++
        ']' :: tail) := by simp [array]
  rw [shape, parseTopologyField, find?_append (by decide)]
  exact groups

/-! ## What the parser makes of it -/

theorem lookup_cons {α : Type} (name key : String) (value : α) (map : List (String × α)) :
    ((name, value) :: map).lookup key = if key = name then some value else map.lookup key := by
  rw [List.lookup_cons]
  by_cases same : key = name
  · rw [if_pos same, beq_iff_eq.mpr same]
  · rw [if_neg same, beq_false_of_ne same]

theorem lookup_insertOrAssign {α : Type} (name key : String) (value : α)
    (map : List (String × α)) :
    (Tables.insertOrAssign Prod.fst (name, value) map).lookup key =
      if key = name then some value else map.lookup key := by
  rw [Tables.insertOrAssign]
  induction map with
  | nil => exact lookup_cons name key value []
  | cons entry map ih =>
      obtain ⟨other, old⟩ := entry
      rw [Tables.insertBy]
      split
      · exact lookup_cons name key value _
      · split
        next same =>
          cases same
          rw [lookup_cons, lookup_cons]
          split <;> rfl
        next different =>
          rw [lookup_cons, ih, lookup_cons]
          by_cases here : key = other
          · have apart : key ≠ name := fun same => different (same.symm.trans here)
            rw [if_pos here, if_neg apart, if_pos here]
          · rw [if_neg here, if_neg here]

theorem reads_fields {numbers : List (String × Int)}
    (each : ∀ field ∈ numbers, field.1.toList.all plain ∧ -2 ^ 63 ≤ field.2 ∧ field.2 < 2 ^ 64) :
    Reads (fields (numbers.map fun field => (field.1, toText field.2)))
      (.obj (Json.keep Prod.fst (fun field => .num field.2) [] numbers)) :=
  Reads.obj (by decide) (by decide) (fun field inside => (each field inside).1)
    fun field inside => Reads.num (each field inside).2.1 (each field inside).2.2

theorem reads_entries {α : Type} {serialize : α → Text} {value : α → Json.Value}
    {map : List (String × α)} (printable : ∀ entry ∈ map, entry.1.toList.all plain)
    (reads : ∀ entry ∈ map, Reads (serialize entry.2) (value entry.2)) :
    Reads (entries serialize map)
      (.obj (Json.keep Prod.fst (fun entry => value entry.2) [] map)) :=
  Reads.obj (by decide) (by decide) printable reads

/-! ## The file as a whole -/

def sectionNames : List String :=
  ["snapshot_version", "topology", "modes", "hdr", "primary", "origins", "layouts"]

/-- Printable characters other than the quote and the backslash, and no name of a section. -/
def DeviceId (id : String) : Prop := id.toList.all plain ∧ id ∉ sectionNames

instance : DecidablePred DeviceId := fun _ => inferInstanceAs (Decidable (_ ∧ _))

/-- What a snapshot and its layouts are in the code, with identifiers as Windows has them. -/
structure Storable (snap : Snapshot) (layoutRotations : LayoutRotations) : Prop where
  topology : ∀ group ∈ snap.topology, ∀ id ∈ group, DeviceId id
  modes : ∀ entry ∈ snap.modes, DeviceId entry.1 ∧ Mode32 entry.2
  hdrStates : ∀ entry ∈ snap.hdrStates, DeviceId entry.1
  primaryDevice : DeviceId snap.primaryDevice
  origins : ∀ entry ∈ snap.origins, DeviceId entry.1 ∧ Origin32 entry.2
  layouts : ∀ entry ∈ layoutRotations,
    entry.1.toList.all plain ∧ entry.2 ∈ [0, 90, 180, 270]
  modesOrdered : Tables.Sorted Prod.fst snap.modes
  hdrStatesOrdered : Tables.Sorted Prod.fst snap.hdrStates
  originsOrdered : Tables.Sorted Prod.fst snap.origins
  layoutsOrdered : Tables.Sorted Prod.fst layoutRotations

theorem word_of_section : ∀ key ∈ sectionNames, Word key := by decide

/-- The names that the writer gives to parts of a section. -/
theorem fieldName_ne : ∀ key ∈ sectionNames,
    ∀ name ∈ ["w", "h", "num", "den", "x", "y", "on", "off"], name ≠ key := by decide

variable {snap : Snapshot} {layoutRotations : LayoutRotations}

theorem silent_toText (value : Int) : Silent key (toText value) :=
  silent_of_notMem (toText_notMem (by decide) (by decide) value)

theorem silent_entries {α : Type} {serialize : α → Text} {map : List (String × α)}
    (isSection : key ∈ sectionNames) (devices : ∀ entry ∈ map, DeviceId entry.1)
    (silent : ∀ value, Silent key (serialize value)) : Silent key (entries serialize map) := by
  apply silent_object (by decide) (by decide) (word_of_section key isSection)
  intro field inside
  obtain ⟨entry, member, rfl⟩ := List.mem_map.mp inside
  obtain ⟨printable, other⟩ := devices entry member
  exact ⟨printable, fun same => other (same ▸ isSection), silent entry.2⟩

theorem silent_fields (isSection : key ∈ sectionNames) {parts : List (String × Text)}
    (named : ∀ field ∈ parts, field.1.toList.all plain ∧
      field.1 ∈ ["w", "h", "num", "den", "x", "y", "on", "off"] ∧ ∃ value, field.2 = toText value) :
    Silent key (fields parts) := by
  apply silent_object (by decide) (by decide) (word_of_section key isSection)
  intro field inside
  obtain ⟨printable, own, value, same⟩ := named field inside
  exact ⟨printable, fieldName_ne key isSection field.1 own, same ▸ silent_toText value⟩

theorem silent_serializeMode (isSection : key ∈ sectionNames) (mode : DisplayMode) :
    Silent key (serializeMode mode) := by
  rw [serializeMode_eq]
  apply silent_fields isSection
  simp only [modeFields, List.forall_mem_cons]
  exact ⟨⟨by decide, by decide, _, rfl⟩, ⟨by decide, by decide, _, rfl⟩,
    ⟨by decide, by decide, _, rfl⟩, ⟨by decide, by decide, _, rfl⟩, List.forall_mem_nil _⟩

theorem silent_serializeHdrState (isSection : key ∈ sectionNames) (state : Option HdrState) :
    Silent key (serializeHdrState state) := by
  have word := word_of_section key isSection
  cases state with
  | none => exact silent_of_notMem (by decide)
  | some state =>
      cases state with
      | disabled =>
          exact @silent_quoted key word "off" (by decide)
            (fieldName_ne key isSection "off" (by decide))
      | enabled =>
          exact @silent_quoted key word "on" (by decide)
            (fieldName_ne key isSection "on" (by decide))

theorem silent_serializeOrigin (isSection : key ∈ sectionNames) (origin : Point) :
    Silent key (serializeOrigin origin) := by
  rw [serializeOrigin_eq]
  apply silent_fields isSection
  simp only [originFields, List.forall_mem_cons]
  exact ⟨⟨by decide, by decide, _, rfl⟩, ⟨by decide, by decide, _, rfl⟩, List.forall_mem_nil _⟩

theorem silent_device {id : String} (isSection : key ∈ sectionNames) (device : DeviceId id) :
    Silent key (quoted id) :=
  silent_quoted (word_of_section key isSection) device.1 fun same => device.2 (same ▸ isSection)

/-- The search for a section passes what is written in front of the layouts. -/
theorem silent_parts (storable : Storable snap layoutRotations) (isSection : key ∈ sectionNames) :
    ∀ part ∈ (parts snap layoutRotations).take 6, part.1.toList.all plain ∧ Silent key part.2 := by
  have topology : Silent key (array (snap.topology.map fun group => array (group.map quoted))) := by
    apply silent_array
    intro text inside
    obtain ⟨group, member, rfl⟩ := List.mem_map.mp inside
    apply silent_array
    intro text inside
    obtain ⟨id, device, rfl⟩ := List.mem_map.mp inside
    exact silent_device isSection (storable.topology group member id device)
  simp only [parts, List.take_succ_cons, List.take_zero, List.forall_mem_cons]
  refine ⟨⟨by decide, silent_toText 2⟩, ⟨by decide, topology⟩, ⟨by decide, ?_⟩, ⟨by decide, ?_⟩,
    ⟨by decide, silent_device isSection storable.primaryDevice⟩, ⟨by decide, ?_⟩,
    List.forall_mem_nil _⟩
  · exact silent_entries isSection (fun entry inside => (storable.modes entry inside).1)
      (silent_serializeMode isSection)
  · exact silent_entries isSection storable.hdrStates (silent_serializeHdrState isSection)
  · exact silent_entries isSection (fun entry inside => (storable.origins entry inside).1)
      (silent_serializeOrigin isSection)

/-- A section that is searched for is found where it was written. -/
theorem findStrSection_serializeSnapshot (storable : Storable snap layoutRotations)
    (isSection : key ∈ sectionNames) {index : Nat} (early : index < 6) {text : Text}
    (place : (parts snap layoutRotations)[index]? = some (key, text))
    (first : ∀ part ∈ (parts snap layoutRotations).take index, part.1 ≠ key) :
    ∃ tail, findStrSection (serializeSnapshot snap layoutRotations) key =
      ' ' :: (text ++ tail) := by
  have front : (parts snap layoutRotations).take index <+: (parts snap layoutRotations).take 6 :=
    List.take_prefix_take_left (by omega)
  have passed : ∀ part ∈ (parts snap layoutRotations).take index,
      part.1.toList.all plain ∧ part.1 ≠ key ∧ Silent key part.2 := by
    intro part inside
    obtain ⟨printable, silent⟩ := silent_parts storable isSection part (front.subset inside)
    exact ⟨printable, first part inside, silent⟩
  obtain ⟨inside, here⟩ := List.getElem?_eq_some_iff.mp place
  have split : parts snap layoutRotations = (parts snap layoutRotations).take index ++
      (key, text) :: (parts snap layoutRotations).drop (index + 1) := by
    rw [← here, ← List.drop_eq_getElem_cons inside, List.take_append_drop]
  have ends : closes (['\n'] ++ ['}']) := by decide
  have blanks : line.all blank := by decide
  obtain ⟨tail, -, found⟩ := valueText?_commas blanks (word_of_section key isSection)
    ((parts snap layoutRotations).drop (index + 1)) text passed ends
  rw [← split] at found
  refine ⟨tail, ?_⟩
  rw [findStrSection, serializeSnapshot_eq, object, valueText?, findQuoted?_mark (by decide)]
  exact congrArg (fun value => value.getD []) found

theorem parseModesField_written (storable : Storable snap layoutRotations) :
    parseModesField (findStrSection (serializeSnapshot snap layoutRotations) "modes") =
      .ok snap.modes := by
  obtain ⟨tail, found⟩ := @findStrSection_serializeSnapshot "modes" snap layoutRotations storable
    (by decide) 2 (by decide) _ rfl (by simp [parts])
  rw [found]
  exact parseObjectField_entries serializeMode_eq
    (fun entry inside => (storable.modes entry inside).1.1)
    (fun entry inside => readMode_opened (storable.modes entry inside).2)
    (fun mode => opened_notMem (by
      simp only [modeFields, List.forall_mem_cons]
      exact ⟨⟨by decide, _, rfl⟩, ⟨by decide, _, rfl⟩, ⟨by decide, _, rfl⟩, ⟨by decide, _, rfl⟩,
        List.forall_mem_nil _⟩))
    storable.modesOrdered tail

theorem parseOriginsField_written (storable : Storable snap layoutRotations) :
    parseOriginsField (findStrSection (serializeSnapshot snap layoutRotations) "origins") =
      .ok snap.origins := by
  obtain ⟨tail, found⟩ := @findStrSection_serializeSnapshot "origins" snap layoutRotations storable
    (by decide) 5 (by decide) _ rfl (by simp [parts])
  rw [found]
  exact parseObjectField_entries serializeOrigin_eq
    (fun entry inside => (storable.origins entry inside).1.1)
    (fun entry inside => readOrigin_opened (storable.origins entry inside).2)
    (fun origin => opened_notMem (by
      simp only [originFields, List.forall_mem_cons]
      exact ⟨⟨by decide, _, rfl⟩, ⟨by decide, _, rfl⟩, List.forall_mem_nil _⟩))
    storable.originsOrdered tail

theorem parseHdrField_written (storable : Storable snap layoutRotations) :
    parseHdrField (findStrSection (serializeSnapshot snap layoutRotations) "hdr") =
      snap.hdrStates := by
  obtain ⟨tail, found⟩ := @findStrSection_serializeSnapshot "hdr" snap layoutRotations storable
    (by decide) 3 (by decide) _ rfl (by simp [parts])
  rw [found]
  exact parseHdrField_entries (fun entry inside => (storable.hdrStates entry inside).1)
    storable.hdrStatesOrdered tail

theorem parsePrimaryField_written (storable : Storable snap layoutRotations) :
    parsePrimaryField (findStrSection (serializeSnapshot snap layoutRotations) "primary") =
      snap.primaryDevice := by
  obtain ⟨tail, found⟩ := @findStrSection_serializeSnapshot "primary" snap layoutRotations storable
    (by decide) 4 (by decide) _ rfl (by simp [parts])
  rw [found]
  exact parsePrimaryField_quoted storable.primaryDevice.1 tail

theorem parseTopologyField_written (storable : Storable snap layoutRotations) :
    parseTopologyField (findStrSection (serializeSnapshot snap layoutRotations) "topology") =
      snap.topology := by
  obtain ⟨tail, found⟩ := @findStrSection_serializeSnapshot "topology" snap layoutRotations storable
    (by decide) 1 (by decide) _ rfl (by simp [parts])
  rw [found]
  exact parseTopologyField_array
    (fun group inside id device => (storable.topology group inside id device).1) tail

/-! ### The JSON of the file -/

def rotationValue (rotation : Int) : Json.Value := .obj [("rotation", .num rotation)]

/-- The value of an object of numbers. -/
def numbersValue (numbers : List (String × Int)) : Json.Value :=
  .obj (Json.keep Prod.fst (fun field => .num field.2) [] numbers)

def modeValue (mode : DisplayMode) : Json.Value :=
  numbersValue [("w", mode.resolution.width), ("h", mode.resolution.height),
    ("num", mode.refreshRate.numerator), ("den", mode.refreshRate.denominator)]

def originValue (origin : Point) : Json.Value := numbersValue [("x", origin.x), ("y", origin.y)]

def hdrStateValue : Option HdrState → Json.Value
  | none => .null
  | some .enabled => .str "on"
  | some .disabled => .str "off"

theorem reads_serializeMode {mode : DisplayMode} (bounds : Mode32 mode) :
    Reads (serializeMode mode) (modeValue mode) := by
  obtain ⟨width, height, numerator, denominator⟩ := bounds
  rw [serializeMode_eq]
  apply @reads_fields [("w", mode.resolution.width), ("h", mode.resolution.height),
    ("num", mode.refreshRate.numerator), ("den", mode.refreshRate.denominator)]
  simp only [List.forall_mem_cons]
  exact ⟨⟨by decide, by omega, by omega⟩, ⟨by decide, by omega, by omega⟩,
    ⟨by decide, by omega, by omega⟩, ⟨by decide, by omega, by omega⟩, List.forall_mem_nil _⟩

theorem reads_serializeOrigin {origin : Point} (bounds : Origin32 origin) :
    Reads (serializeOrigin origin) (originValue origin) := by
  obtain ⟨⟨xLow, xHigh⟩, yLow, yHigh⟩ := bounds
  rw [serializeOrigin_eq]
  apply @reads_fields [("x", origin.x), ("y", origin.y)]
  simp only [List.forall_mem_cons]
  exact ⟨⟨by decide, by omega, by omega⟩, ⟨by decide, by omega, by omega⟩, List.forall_mem_nil _⟩

theorem reads_serializeHdrState (state : Option HdrState) :
    Reads (serializeHdrState state) (hdrStateValue state) := by
  cases state with
  | none => exact Reads.null
  | some state =>
      cases state with
      | disabled => exact @Reads.str "off" (by decide)
      | enabled => exact @Reads.str "on" (by decide)

theorem reads_serializeRotation {rotation : Int} (known : rotation ∈ [0, 90, 180, 270]) :
    Reads (serializeRotation rotation) (rotationValue rotation) := by
  rw [serializeRotation_eq]
  apply @reads_fields [("rotation", rotation)]
  simp only [List.mem_cons, List.not_mem_nil, or_false] at known
  simp only [List.forall_mem_cons]
  exact ⟨⟨by decide, by omega, by omega⟩, List.forall_mem_nil _⟩

/-- The members of the file with their values. -/
def rootValues (snap : Snapshot) (layoutRotations : LayoutRotations) :
    List ((String × Text) × Json.Value) :=
  (parts snap layoutRotations).zip [.num 2,
    .arr (snap.topology.map fun group => .arr (group.map .str)),
    .obj (Json.keep Prod.fst (fun entry => modeValue entry.2) [] snap.modes),
    .obj (Json.keep Prod.fst (fun entry => hdrStateValue entry.2) [] snap.hdrStates),
    .str snap.primaryDevice,
    .obj (Json.keep Prod.fst (fun entry => originValue entry.2) [] snap.origins),
    .obj (Json.keep Prod.fst (fun entry => rotationValue entry.2) [] layoutRotations)]

def rootValue (snap : Snapshot) (layoutRotations : LayoutRotations) : Json.Value :=
  .obj (Json.keep (fun part => part.1.1) Prod.snd [] (rootValues snap layoutRotations))

theorem reads_rootValues (storable : Storable snap layoutRotations) :
    ∀ part ∈ rootValues snap layoutRotations, part.1.1.toList.all plain ∧
      Reads part.1.2 part.2 := by
  have topology := @Reads.arr _ snap.topology (fun group => array (group.map quoted))
    (fun group => .arr (group.map .str)) fun group inside => Reads.arr fun id device =>
      Reads.str (storable.topology group inside id device).1
  simp only [rootValues, parts, List.zip_cons_cons, List.zip_nil_right, List.forall_mem_cons]
  refine ⟨⟨by decide, Reads.num (by decide) (by decide)⟩, ⟨by decide, topology⟩,
    ⟨by decide, reads_entries ?_ ?_⟩, ⟨by decide, reads_entries ?_ ?_⟩,
    ⟨by decide, Reads.str storable.primaryDevice.1⟩, ⟨by decide, reads_entries ?_ ?_⟩,
    ⟨by decide, reads_entries ?_ ?_⟩, List.forall_mem_nil _⟩
  · exact fun entry inside => (storable.modes entry inside).1.1
  · exact fun entry inside => reads_serializeMode (storable.modes entry inside).2
  · exact fun entry inside => (storable.hdrStates entry inside).1
  · exact fun entry inside => reads_serializeHdrState entry.2
  · exact fun entry inside => (storable.origins entry inside).1.1
  · exact fun entry inside => reads_serializeOrigin (storable.origins entry inside).2
  · exact fun entry inside => (storable.layouts entry inside).1
  · exact fun entry inside => reads_serializeRotation (storable.layouts entry inside).2

theorem reads_serializeSnapshot (storable : Storable snap layoutRotations) :
    Reads (serializeSnapshot snap layoutRotations) (rootValue snap layoutRotations) := by
  have each := reads_rootValues storable
  have whole := @Reads.obj _ (rootValues snap layoutRotations) (fun part => part.1.2) Prod.snd
    (fun part => part.1.1) line ['\n'] (by decide) (by decide)
    (fun part inside => (each part inside).1) (fun part inside => (each part inside).2)
  have written : (rootValues snap layoutRotations).map (fun part => (part.1.1, part.1.2)) =
      parts snap layoutRotations := rfl
  rw [written, ← serializeSnapshot_eq] at whole
  exact whole

theorem find?_rootValue_version :
    (rootValue snap layoutRotations).find? "snapshot_version" = some (.num 2) := by
  simp [rootValue, rootValues, parts, Json.Value.find?, Json.keep, lookup_insertOrAssign]

theorem find?_rootValue_layouts :
    (rootValue snap layoutRotations).find? "layouts" =
      some (.obj (Json.keep Prod.fst (fun entry => rotationValue entry.2) [] layoutRotations)) := by
  simp [rootValue, rootValues, parts, Json.Value.find?, Json.keep, lookup_insertOrAssign]

theorem parseLayoutRotationValue_rotationValue {rotation : Int}
    (known : rotation ∈ [0, 90, 180, 270]) :
    parseLayoutRotationValue (rotationValue rotation) = some rotation := by
  simp only [List.mem_cons, List.not_mem_nil, or_false] at known
  obtain rfl | rfl | rfl | rfl := known <;> decide

theorem parseSnapshotVersion_rootValue :
    parseSnapshotVersion (rootValue snap layoutRotations) = 2 := by
  rw [parseSnapshotVersion, find?_rootValue_version]
  decide

/-- A layout without a name is left out. -/
def namedLayouts (layoutRotations : LayoutRotations) : LayoutRotations :=
  layoutRotations.filter fun layout => layout.1 ≠ ""

theorem filterMap_rotationValue {layouts : LayoutRotations}
    (known : ∀ layout ∈ layouts, layout.2 ∈ [0, 90, 180, 270]) :
    (layouts.map fun layout => (layout.1, rotationValue layout.2)).filterMap (fun layout =>
        if layout.1 = "" then none
        else (parseLayoutRotationValue layout.2).map fun rotation => (layout.1, rotation)) =
      namedLayouts layouts := by
  induction layouts with
  | nil => rfl
  | cons layout layouts ih =>
      have rotation := parseLayoutRotationValue_rotationValue (known layout List.mem_cons_self)
      have later := ih fun other inside => known other (List.mem_cons_of_mem _ inside)
      rw [namedLayouts] at later
      rw [List.map_cons, namedLayouts]
      by_cases unnamed : layout.1 = ""
      · rw [List.filterMap_cons_none (by simp [unnamed]),
          List.filter_cons_of_neg (by simp [unnamed]), later]
      · rw [List.filterMap_cons, if_neg unnamed, rotation,
          List.filter_cons_of_pos (by simp [unnamed]), ← later]
        rfl

theorem parseLayoutsField_rootValue (storable : Storable snap layoutRotations) :
    parseLayoutsField (rootValue snap layoutRotations) = (true, namedLayouts layoutRotations) := by
  rw [parseLayoutsField, find?_rootValue_layouts, Json.keep_of_sorted storable.layoutsOrdered]
  exact congrArg (Prod.mk true)
    (filterMap_rotationValue fun layout inside => (storable.layouts layout inside).2)

/-- A parser that agrees with the reader of JSON texts. -/
def Parses (parseJson : Text → Json.Value) : Prop :=
  ∀ text root, Json.read text = some root → parseJson text = root

/-- A snapshot that is written is read back as it was, and its layouts are those with a name. -/
theorem snapshotText_roundTrip {parseJson : Text → Json.Value} (parses : Parses parseJson)
    (storable : Storable snap layoutRotations) :
    parseSnapshotText parseJson (serializeSnapshot snap layoutRotations) = .ok {
      snapshot := snap
      snapshotVersion := 2
      hasLayoutData := true
      layoutRotations := namedLayouts layoutRotations } := by
  have root := Json.read_of_reads (reads_serializeSnapshot storable)
  rw [parseSnapshotText, parseModesField_written storable, parseOriginsField_written storable,
    parseHdrField_written storable, parsePrimaryField_written storable,
    parseTopologyField_written storable, parses _ _ root]
  simp only [parseSnapshotVersion_rootValue, parseLayoutsField_rootValue storable]
  rfl

/-- A display that is switched off beside one whose identifier has marks of the notation. -/
def sampleSnapshot : Snapshot where
  topology := [["\x7bA,[1]\x7d"], []]
  modes := [("B", ⟨⟨0, 4294967295⟩, ⟨60, 1⟩⟩), ("\x7bA,[1]\x7d", ⟨⟨1920, 1080⟩, ⟨60, 1⟩⟩)]
  hdrStates := [("B", none), ("\x7bA,[1]\x7d", some .enabled)]
  primaryDevice := "\x7bA,[1]\x7d"
  origins := [("\x7bA,[1]\x7d", ⟨-2147483648, 0⟩)]

theorem storable_sampleSnapshot : Storable sampleSnapshot [("B", 270)] where
  topology := by decide
  modes := by decide
  hdrStates := by decide
  primaryDevice := by decide
  origins := by decide
  layouts := by decide
  modesOrdered := by
    rw [Tables.Sorted]
    decide
  hdrStatesOrdered := by
    rw [Tables.Sorted]
    decide
  originsOrdered := List.pairwise_singleton _ _
  layoutsOrdered := List.pairwise_singleton _ _

theorem snapshotText_roundTrip_sample :
    parseSnapshotText (fun text => (Json.read text).getD .null)
      (serializeSnapshot sampleSnapshot [("B", 270)]) = .ok {
        snapshot := sampleSnapshot
        snapshotVersion := 2
        hasLayoutData := true
        layoutRotations := [("B", 270)] } :=
  snapshotText_roundTrip (fun _ _ read => by rw [read]; rfl) storable_sampleSnapshot

end UmbraHost.DisplayOperations
