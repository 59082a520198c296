import UmbraHost.Bytes.CheckedScans
import UmbraHost.Rtsp.Announce

/-! # The bounds of the RTSP text parsers

The target of SETUP and the body of ANNOUNCE (`rtsp.cpp`) as the source walks through them,
with every access checked against the text it is made in. -/

namespace UmbraHost.Rtsp

open UmbraHost.Views

/-! ## SETUP -/

inductive SetupStream where
  | audio
  | video
  | control
deriving DecidableEq, Repr

def setupStream (type : Text) : Option SetupStream :=
  if type = "audio".toList then some .audio
  else if type = "video".toList then some .video
  else if type = "control".toList then some .control
  else none

/-- The stream a SETUP target names; `none` is answered as not found. -/
def cmdSetupTarget (target : Text) : Except Fault (Option SetupStream) := do
  let found ← find target 0 '='
  let first ← advance target found 1
  let last ← find target first '/'
  let type ← between target first last
  return setupStream type

theorem cmdSetupTarget_ok_iff (target : Text) :
    (∃ stream, cmdSetupTarget target = .ok stream) ↔ '=' ∈ target := by
  have found : find target 0 '=' = .ok (target.idxOf '=') := by
    rw [find_of_le (Nat.zero_le _), List.drop_zero, Nat.zero_add]
  simp only [cmdSetupTarget, found, bind, Except.bind, pure, Except.pure]
  by_cases named : '=' ∈ target
  · have inside := List.idxOf_lt_length_of_mem named
    have step : advance target (target.idxOf '=') 1 = .ok (target.idxOf '=' + 1) := if_pos inside
    obtain ⟨last, ends⟩ : ∃ last, find target (target.idxOf '=' + 1) '/' = .ok last :=
      ⟨_, find_of_le inside⟩
    obtain ⟨ordered, bounded⟩ := find_le ends
    simp [step, ends, between_of_le ordered bounded, named]
  · have beyond : advance target target.length 1 = .error .pastEnd := if_neg (by omega)
    rw [List.idxOf_eq_length named, beyond]
    simp [named]

/-! ## ANNOUNCE -/

/-- The lines from a position on; `skipping` is the inner loop over line breaks. -/
def announceLines (payload : Text) (skipping : Bool) (first position : Nat) :
    Except Fault (List Text) :=
  if inside : position < payload.length then
    if skipping && whitespace payload[position] then
      announceLines payload true first (position + 1)
    else
      let first := if skipping then position else first
      if whitespace payload[position] then do
        let line ← between payload first (position + 1 - 1)
        let rest ← announceLines payload true first (position + 1)
        return line :: rest
      else announceLines payload false first (position + 1)
  else if position = payload.length then return []
  else throw .pastEnd
termination_by payload.length - position

inductive Attribute where
  | client (name : Text)
  | argument (name val : Text)
  | other
deriving DecidableEq, Repr

/-- One line of the body.  `npos + 1` is zero. -/
def announceLine (line : Text) : Except Fault Attribute := do
  let type ← substr line 0 (some 2)
  if type = "s=".toList then
    return .client (← substr line 2 none)
  else if type = "a=".toList then
    let (name, val) ←
      if ':' ∈ line then do
        let name ← substr line 2 (some (line.idxOf ':' - 2))
        let val ← substr line (line.idxOf ':' + 1) none
        pure (name, val)
      else do
        let name ← substr line 2 none
        let val ← substr line 0 none
        pure (name, val)
    let final ← last val
    let val ← if final = ' ' then substr val 0 (some (val.length - 1)) else pure val
    return .argument name val
  else return .other

def cmdAnnounceText (payload : Text) : Except Fault (List Attribute) := do
  let lines ← announceLines payload false 0 0
  lines.mapM announceLine

theorem drop_take_succ {payload : Text} {first position : Nat} (ordered : first ≤ position)
    (here : position < payload.length) :
    (payload.take (position + 1)).drop first =
      (payload.take position).drop first ++ [payload[position]] := by
  rw [List.take_succ_eq_append_getElem here, List.drop_append_of_le_length]
  rw [List.length_take]
  omega

theorem announceLines_eq (payload : Text) (skipping : Bool) (first position : Nat)
    (ordered : first ≤ position) (inside : position ≤ payload.length) :
    announceLines payload skipping first position =
      .ok (lines skipping (if skipping then [] else (payload.take position).drop first)
        (payload.drop position)) := by
  fun_induction announceLines payload skipping first position with
  | case1 skipping first position here skips ih =>
      simp only [Bool.and_eq_true] at skips
      obtain ⟨rfl, breaks⟩ := skips
      rw [ih (by omega) (by omega), List.drop_eq_getElem_cons here]
      simp [lines, breaks]
  | case2 skipping first position here skips start breaks ih =>
      cases skipping with
      | true => exact absurd breaks (by simpa using skips)
      | false =>
          have line : between payload first (position) =
              .ok ((payload.take position).drop first) := between_of_le ordered inside
          rw [ih (by simpa [start] using Nat.le_succ_of_le ordered) here,
            List.drop_eq_getElem_cons here]
          simp [start, line, lines, breaks, bind, Except.bind, pure, Except.pure]
  | case3 skipping first position here skips start keeps ih =>
      have started : start ≤ position + 1 := by
        cases skipping with
        | true => exact Nat.le_succ position
        | false => exact Nat.le_succ_of_le ordered
      rw [ih started here, List.drop_eq_getElem_cons here, lines, if_neg keeps]
      cases skipping with
      | true =>
          have single := drop_take_succ (Nat.le_refl position) here
          simp [start, single]
      | false =>
          have longer := drop_take_succ ordered here
          simp [start, longer]
  | case4 skipping first atEnd => simp [lines, pure, Except.pure]
  | case5 skipping first position before notEnd => omega

/-- An attribute whose line ends with its first colon. -/
def EmptyValue (line : Text) : Prop :=
  ∃ name, ':' ∉ name ∧ line = 'a' :: '=' :: (name ++ [':'])

/-- What `args.emplace` is called with. -/
def Attribute.pair : Attribute → Option (Text × Text)
  | .argument name val => some (name, val)
  | _ => none

/-- The value with the one blank at its end removed. -/
theorem trimmed_ok {val : Text} (nonempty : val ≠ []) (name : Text) :
    (do
      let final ← last val
      let val ← if final = ' ' then substr val 0 (some (val.length - 1)) else pure val
      return Attribute.argument name val) =
      .ok (.argument name (if val.getLast? = some ' ' then val.dropLast else val)) := by
  obtain ⟨front, final, rfl⟩ := List.eq_nil_or_concat val |>.resolve_left nonempty
  by_cases blank : final = ' '
  · simp [last, blank, substr, bind, Except.bind, pure, Except.pure]
  · simp [last, blank, bind, Except.bind, pure, Except.pure]

theorem announceLine_of_colon {name val : Text} (plain : ':' ∉ name) :
    announceLine ('a' :: '=' :: (name ++ ':' :: val)) = (do
      let final ← last val
      let val ← if final = ' ' then substr val 0 (some (val.length - 1)) else pure val
      return Attribute.argument name val) := by
  have position : ('a' :: '=' :: (name ++ ':' :: val)).idxOf ':' = name.length + 2 := by
    simp [List.idxOf_append, plain]
  simp [announceLine, substr, position, bind, Except.bind, pure, Except.pure]

theorem announceLine_of_no_colon {rest : Text} (plain : ':' ∉ rest) :
    announceLine ('a' :: '=' :: rest) = (do
      let final ← last ('a' :: '=' :: rest)
      let val ← if final = ' ' then
        substr ('a' :: '=' :: rest) 0 (some (('a' :: '=' :: rest).length - 1))
        else pure ('a' :: '=' :: rest)
      return Attribute.argument rest val) := by
  simp [announceLine, substr, plain, bind, Except.bind, pure, Except.pure]

theorem argument_of_colon {name val : Text} (plain : ':' ∉ name) :
    argument ('a' :: '=' :: (name ++ ':' :: val)) =
      some (name, if val.getLast? = some ' ' then val.dropLast else val) := by
  have front : (name ++ ':' :: val).takeWhile (· != ':') = name := by
    rw [List.takeWhile_append_of_pos]
    · simp
    · intro ch member
      have distinct : ch ≠ ':' := fun same => plain (same ▸ member)
      simpa using distinct
  have back : (name ++ ':' :: val).dropWhile (· != ':') = ':' :: val := by
    rw [List.dropWhile_append_of_pos]
    · simp
    · intro ch member
      have distinct : ch ≠ ':' := fun same => plain (same ▸ member)
      simpa using distinct
  simp [argument, front, back]

theorem argument_of_no_colon {rest : Text} (plain : ':' ∉ rest) :
    argument ('a' :: '=' :: rest) =
      some (rest, if ('a' :: '=' :: rest).getLast? = some ' ' then ('a' :: '=' :: rest).dropLast
        else 'a' :: '=' :: rest) := by
  have whole : rest.takeWhile (· != ':') = rest := by
    rw [List.takeWhile_eq_self_iff]
    intro ch member
    have distinct : ch ≠ ':' := fun same => plain (same ▸ member)
    simpa using distinct
  simp only [argument, plain, if_false, whole]

/-- A line is parsed inside its bounds, and as the unchecked parser reads it, unless it is an
attribute with an empty value. -/
theorem announceLine_ok {line : Text} (valued : ¬ EmptyValue line) :
    ∃ parsed, announceLine line = .ok parsed ∧ parsed.pair = argument line := by
  by_cases attributes : ∃ rest, line = 'a' :: '=' :: rest
  · obtain ⟨rest, rfl⟩ := attributes
    by_cases named : ':' ∈ rest
    · obtain ⟨name, val, rfl, plain⟩ := List.eq_append_cons_of_mem named
      have nonempty : val ≠ [] := by
        rintro rfl
        exact valued ⟨name, plain, rfl⟩
      exact ⟨_, (announceLine_of_colon plain).trans (trimmed_ok nonempty name),
        (argument_of_colon plain).symm⟩
    · exact ⟨_, (announceLine_of_no_colon named).trans (trimmed_ok (List.cons_ne_nil _ _) rest),
        (argument_of_no_colon named).symm⟩
  · have skipped : argument line = none := by
      rw [argument]
      rintro rest rfl
      exact attributes ⟨rest, rfl⟩
    have type : line.take 2 ≠ ['a', '='] := by
      intro type
      exact attributes ⟨line.drop 2, by rw [← List.take_append_drop 2 line, type]; rfl⟩
    rw [skipped]
    by_cases names : line.take 2 = ['s', '=']
    · have long : 2 ≤ line.length := by
        have length := congrArg List.length names
        rw [List.length_take] at length
        simp at length
        omega
      exact ⟨.client (line.drop 2), by
        simp [announceLine, substr, names, long, bind, Except.bind, pure, Except.pure], rfl⟩
    · exact ⟨.other, by
        simp [announceLine, substr, names, type, bind, Except.bind, pure, Except.pure], rfl⟩

theorem announceLine_of_emptyValue {line : Text} (empty : EmptyValue line) :
    announceLine line = .error .noElement := by
  obtain ⟨name, plain, rfl⟩ := empty
  rw [announceLine_of_colon plain]
  rfl

theorem mapM_announceLine {lines : List Text} (valued : ∀ line ∈ lines, ¬ EmptyValue line) :
    ∃ parsed, lines.mapM announceLine = .ok parsed ∧
      parsed.filterMap Attribute.pair = lines.filterMap argument := by
  induction lines with
  | nil => exact ⟨[], rfl, rfl⟩
  | cons line rest ih =>
      obtain ⟨first, parsed, pair⟩ := announceLine_ok (valued line List.mem_cons_self)
      obtain ⟨others, parsedOthers, pairs⟩ :=
        ih fun other member => valued other (List.mem_cons_of_mem _ member)
      refine ⟨first :: others, ?_, ?_⟩
      · rw [List.mapM_cons, parsed, parsedOthers]
        rfl
      · simp only [List.filterMap_cons, pair, pairs]

theorem not_emptyValue_of_mapM {lines : List Text} {parsed : List Attribute}
    (success : lines.mapM announceLine = .ok parsed) : ∀ line ∈ lines, ¬ EmptyValue line := by
  induction lines generalizing parsed with
  | nil => exact List.forall_mem_nil _
  | cons line rest ih =>
      rw [List.mapM_cons] at success
      cases first : announceLine line with
      | error fault =>
          rw [first] at success
          cases success
      | ok head =>
          cases others : rest.mapM announceLine with
          | error fault =>
              rw [first, others] at success
              cases success
          | ok tail =>
              rw [List.forall_mem_cons]
              refine ⟨?_, ih others⟩
              intro empty
              rw [announceLine_of_emptyValue empty] at first
              cases first

/-- The lines of a body as the checked loop finds them are those of the unchecked one. -/
theorem cmdAnnounceText_eq (payload : Text) :
    cmdAnnounceText payload = (lines false [] payload).mapM announceLine := by
  rw [cmdAnnounceText, announceLines_eq payload false 0 0 (Nat.le_refl 0) (Nat.zero_le _)]
  rfl

/-- An announced body that is parsed inside its bounds gives the attributes of `args`. -/
theorem cmdAnnounceText_args {payload : Text} {parsed : List Attribute}
    (success : cmdAnnounceText payload = .ok parsed) :
    parsed.filterMap Attribute.pair = args payload := by
  rw [cmdAnnounceText_eq] at success
  obtain ⟨found, again, pairs⟩ := mapM_announceLine (not_emptyValue_of_mapM success)
  obtain rfl := Except.ok.inj (success.symm.trans again)
  exact pairs

/-- Both parsers stay inside their texts exactly for these texts. -/
theorem text_inBounds_iff (target payload : Text) :
    ((∃ stream, cmdSetupTarget target = .ok stream) ↔ '=' ∈ target) ∧
      ((∃ parsed, cmdAnnounceText payload = .ok parsed) ↔
        ∀ line ∈ lines false [] payload, ¬ EmptyValue line) := by
  refine ⟨cmdSetupTarget_ok_iff target, ?_, ?_⟩
  · rintro ⟨parsed, success⟩
    rw [cmdAnnounceText_eq] at success
    exact not_emptyValue_of_mapM success
  · intro valued
    obtain ⟨parsed, success, -⟩ := mapM_announceLine valued
    exact ⟨parsed, (cmdAnnounceText_eq payload).trans success⟩

/-- A target without `=`, and an attribute without a value. -/
theorem text_outOfBounds :
    cmdSetupTarget ['x'] = .error .pastEnd ∧
      cmdAnnounceText ['a', '=', 'x', ':', '\n'] = .error .noElement := by
  refine ⟨by decide, ?_⟩
  rw [cmdAnnounceText_eq]
  decide

end UmbraHost.Rtsp
