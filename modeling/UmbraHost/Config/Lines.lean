import UmbraHost.Config.Vars

/-! # Lines of options

`apply_config` is one long list of lines.  A line takes the text of its options out of the
variables and changes the settings it is about; a few of them may throw.  A run of lines
stops where one throws, and what was changed until then stays changed. -/

namespace UmbraHost.Config

/-- Where a run of lines ends. -/
inductive Outcome (σ : Type) where
  | next (vars : Vars) (settings : σ)
  | thrown (settings : σ)

namespace Outcome

variable {σ τ : Type}

def settings : Outcome σ → σ
  | next _ settings => settings
  | thrown settings => settings

def map (change : σ → τ) : Outcome σ → Outcome τ
  | next vars settings => next vars (change settings)
  | thrown settings => thrown (change settings)

end Outcome

/-- An empty text stands for none. -/
def nonempty (text : Option String) : Option String := text.filter (· ≠ "")

/-- A part of a group of settings. -/
structure Part (σ τ : Type) where
  get : σ → τ
  set : τ → σ → σ
  get_set : ∀ part whole, get (set part whole) = part := by intros; rfl
  set_set : ∀ part before whole, set part (set before whole) = set part whole := by intros; rfl
  set_get : ∀ whole, set (get whole) whole = whole := by intros; rfl

/-- A line that cannot throw.  Options it does not name keep their texts. -/
structure Setting (σ : Type) where
  options : List String
  apply : Vars → σ → Vars × σ
  others : ∀ vars settings name, name ∉ options → (apply vars settings).1 name = vars name

inductive Line (σ : Type) where
  | setting (setting : Setting σ)
  /-- A parser that throws on a text it cannot read. -/
  | parsed (name : String) (read : String → Option (σ → σ))

namespace Setting

variable {σ τ : Type}

/-- `string_f` and what is built on it: the text of one option, taken out of the variables. -/
def taking (name : String) (set : Option String → σ → σ) : Setting σ where
  options := [name]
  apply vars settings := (vars.erase name, set (vars name) settings)
  others _ _ _ other := Vars.erase_of_ne (List.ne_of_not_mem_cons other)

/-- A line that reads no option. -/
def computed (change : σ → σ) : Setting σ where
  options := []
  apply vars settings := (vars, change settings)
  others _ _ _ _ := rfl

/-- A line that changes no setting. -/
def ofVars (options : List String) (change : Vars → Vars)
    (others : ∀ vars name, name ∉ options → change vars name = vars name) : Setting σ where
  options := options
  apply vars settings := (change vars, settings)
  others vars _ name := others vars name

def inside (part : Part σ τ) (setting : Setting τ) : Setting σ where
  options := setting.options
  apply vars whole :=
    let (left, changed) := setting.apply vars (part.get whole)
    (left, part.set changed whole)
  others vars whole name := setting.others vars (part.get whole) name

end Setting

namespace Line

variable {σ τ : Type}

def options : Line σ → List String
  | setting line => line.options
  | parsed name _ => [name]

def run (vars : Vars) (settings : σ) : Line σ → Outcome σ
  | setting line => .next (line.apply vars settings).1 (line.apply vars settings).2
  | parsed name read =>
    match nonempty (vars name) with
    | none => .next (vars.erase name) settings
    | some text =>
      match read text with
      | none => .thrown settings
      | some change => .next (vars.erase name) (change settings)

/-- Whether the line does not throw. -/
def reads (vars : Vars) : Line σ → Bool
  | setting _ => true
  | parsed name read => (nonempty (vars name)).all fun text => (read text).isSome

def inside (part : Part σ τ) : Line τ → Line σ
  | setting line => .setting (line.inside part)
  | parsed name read =>
    .parsed name fun text => (read text).map fun change whole =>
      part.set (change (part.get whole)) whole

@[simp] theorem reads_inside (part : Part σ τ) (line : Line τ) (vars : Vars) :
    (line.inside part).reads vars = line.reads vars := by
  cases line with
  | setting line => rfl
  | parsed name read => simp only [inside, reads, Option.isSome_map]

theorem run_inside (part : Part σ τ) (line : Line τ) (vars : Vars) (whole : σ) :
    (line.inside part).run vars whole =
      (line.run vars (part.get whole)).map (part.set · whole) := by
  cases line with
  | setting line => rfl
  | parsed name read =>
    simp only [inside, run]
    cases nonempty (vars name) with
    | none => simp only [Outcome.map, part.set_get]
    | some text =>
      cases found : read text with
      | none => simp only [found, Option.map_none, Outcome.map, part.set_get]
      | some change => simp only [found, Option.map_some, Outcome.map]

/-- A line runs to its end exactly where it can read its text. -/
theorem run_next_iff (line : Line σ) (vars : Vars) (settings : σ) :
    (∃ left changed, line.run vars settings = .next left changed) ↔ line.reads vars := by
  cases line with
  | setting line => simp [run, reads]
  | parsed name read =>
    simp only [run, reads]
    cases nonempty (vars name) with
    | none => simp
    | some text => cases found : read text <;> simp [found]

theorem run_others {line : Line σ} {vars left : Vars} {settings changed : σ} {name : String}
    (ran : line.run vars settings = .next left changed) (other : name ∉ line.options) :
    left name = vars name := by
  cases line with
  | setting line =>
    cases ran
    exact line.others vars settings name other
  | parsed option read =>
    have erased : left = vars.erase option := by
      simp only [run] at ran
      split at ran
      · cases ran
        rfl
      · split at ran
        · cases ran
        · cases ran
          rfl
    rw [erased]
    exact Vars.erase_of_ne (List.ne_of_not_mem_cons other)

/-- The option whose text the line may not be able to read. -/
def parsedName? : Line σ → Option String
  | setting _ => none
  | parsed name _ => some name

theorem reads_congr {line : Line σ} {vars other : Vars}
    (same : ∀ name ∈ line.parsedName?, vars name = other name) :
    line.reads vars = line.reads other := by
  cases line with
  | setting line => rfl
  | parsed name read => rw [reads, reads, same name rfl]

end Line

variable {σ τ : Type}

def runLines (vars : Vars) (settings : σ) : List (Line σ) → Outcome σ
  | [] => .next vars settings
  | line :: rest =>
    match line.run vars settings with
    | .next left changed => runLines left changed rest
    | .thrown changed => .thrown changed

/-- The lines behind others start from what these leave. -/
def Outcome.andThen (outcome : Outcome σ) (lines : List (Line σ)) : Outcome σ :=
  match outcome with
  | .next left changed => runLines left changed lines
  | .thrown changed => .thrown changed

theorem runLines_append (vars : Vars) (settings : σ) (lines behind : List (Line σ)) :
    runLines vars settings (lines ++ behind) =
      (runLines vars settings lines).andThen behind := by
  induction lines generalizing vars settings with
  | nil => rfl
  | cons line rest ih =>
    simp only [List.cons_append, runLines]
    cases line.run vars settings with
    | next left changed => exact ih left changed
    | thrown changed => rfl

/-- Lines about a part run as they do on the part alone. -/
theorem runLines_inside (part : Part σ τ) (lines : List (Line τ)) (vars : Vars) (whole : σ) :
    runLines vars whole (lines.map (Line.inside part)) =
      (runLines vars (part.get whole) lines).map (part.set · whole) := by
  induction lines generalizing vars whole with
  | nil => simp only [List.map_nil, runLines, Outcome.map, part.set_get]
  | cons line rest ih =>
    simp only [List.map_cons, runLines, Line.run_inside]
    cases line.run vars (part.get whole) with
    | next left changed =>
      simp only [Outcome.map, ih, part.get_set]
      cases runLines left changed rest <;> simp only [part.set_set]
    | thrown changed => rfl

/-- An option that no line names keeps its text. -/
theorem runLines_others {lines : List (Line σ)} {vars left : Vars} {settings changed : σ}
    {name : String} (ran : runLines vars settings lines = .next left changed)
    (other : name ∉ lines.flatMap Line.options) : left name = vars name := by
  induction lines generalizing vars settings with
  | nil =>
    cases ran
    rfl
  | cons line rest ih =>
    rw [List.flatMap_cons, List.mem_append, not_or] at other
    rw [runLines] at ran
    cases first : line.run vars settings with
    | next between halfway =>
      rw [first] at ran
      exact (ih ran other.2).trans (Line.run_others first other.1)
    | thrown halfway =>
      rw [first] at ran
      cases ran

/-- No line takes a text that a line behind it may not be able to read; `taken` are the
options of the lines in front. -/
def apart (taken : List String) : List (Line σ) → Bool
  | [] => true
  | line :: rest =>
    line.parsedName?.all (fun name => !taken.contains name) && apart (line.options ++ taken) rest

/-- A run comes to its end exactly when each line can read what the file gives to it. -/
theorem runLines_next_iff {taken : List String} {lines : List (Line σ)} {vars current : Vars}
    {settings : σ} (separate : apart taken lines = true)
    (kept : ∀ name, name ∉ taken → current name = vars name) :
    (∃ left changed, runLines current settings lines = .next left changed) ↔
      lines.all (Line.reads vars) = true := by
  induction lines generalizing taken current settings with
  | nil => simp [runLines]
  | cons line rest ih =>
    rw [apart, Bool.and_eq_true] at separate
    have first : line.reads current = line.reads vars := by
      refine Line.reads_congr fun name named => kept name ?_
      have clear := separate.1
      rw [named] at clear
      simpa using clear
    rw [List.all_cons, Bool.and_eq_true, ← first, ← Line.run_next_iff line current settings]
    cases ran : line.run current settings with
    | thrown changed => simp [runLines, ran]
    | next left changed =>
      have still : ∀ name, name ∉ line.options ++ taken → left name = vars name := by
        intro name other
        rw [List.mem_append, not_or] at other
        exact (Line.run_others ran other.1).trans (kept name other.2)
      rw [runLines, ran]
      refine (ih separate.2 still).trans ?_
      simp

end UmbraHost.Config
