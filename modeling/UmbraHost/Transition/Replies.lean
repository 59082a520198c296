import Mathlib.Data.List.Basic

/-! # Requests answered in two stages

A request is accepted under a key, answered by a status and then by a verdict.
A log of these entries is orderly when every answer is the first of its kind
for an accepted key and a positive verdict follows the status `ok`. -/

namespace UmbraHost.Reply

variable {Key : Type u} {Status : Type v}

inductive Entry (Key : Type u) (Status : Type v) where
  | accepted (key : Key)
  | applied (status : Status) (key : Key)
  | verified (success : Bool) (key : Key)
deriving DecidableEq

def Entry.key : Entry Key Status → Key
  | .accepted key | .applied _ key | .verified _ key => key

def Entry.isResult : Entry Key Status → Bool
  | .accepted _ => false
  | _ => true

variable [DecidableEq Key]

def Entry.applies (key : Key) : Entry Key Status → Bool
  | .applied _ answered => answered = key
  | _ => false

def Entry.verifies (key : Key) : Entry Key Status → Bool
  | .verified _ answered => answered = key
  | _ => false

/-- No result has been sent for the key. -/
def unanswered (key : Key) (log : List (Entry Key Status)) : Bool :=
  log.all fun entry => !(entry.applies key || entry.verifies key)

variable (ok : Status)

inductive Orderly : List (Entry Key Status) → Prop where
  | empty : Orderly []
  | accept {log : List (Entry Key Status)} (orderly : Orderly log) (key : Key) :
      Orderly (log ++ [.accepted key])
  | apply {log : List (Entry Key Status)} (orderly : Orderly log) (status : Status) {key : Key}
      (accepted : .accepted key ∈ log) (first : log.countP (Entry.applies key) = 0) :
      Orderly (log ++ [.applied status key])
  | verify {log : List (Entry Key Status)} (orderly : Orderly log) (success : Bool) {key : Key}
      (accepted : .accepted key ∈ log) (first : log.countP (Entry.verifies key) = 0)
      (applied : success = true → .applied ok key ∈ log) :
      Orderly (log ++ [.verified success key])

variable {ok} {log : List (Entry Key Status)}

theorem Orderly.applies_once (orderly : Orderly ok log) (key : Key) :
    log.countP (Entry.applies key) ≤ 1 := by
  induction orderly with
  | empty => exact Nat.zero_le 1
  | accept _ other ih => simpa [Entry.applies] using ih
  | @apply log _ status other _ first ih =>
      rw [List.countP_append]
      by_cases same : other = key
      · subst same
        simp [first, Entry.applies]
      · simpa [Entry.applies, same] using ih
  | verify _ _ _ _ _ ih => simpa [Entry.applies] using ih

theorem Orderly.verifies_once (orderly : Orderly ok log) (key : Key) :
    log.countP (Entry.verifies key) ≤ 1 := by
  induction orderly with
  | empty => exact Nat.zero_le 1
  | accept _ other ih => simpa [Entry.verifies] using ih
  | apply _ _ _ _ ih => simpa [Entry.verifies] using ih
  | @verify log _ success other _ first _ ih =>
      rw [List.countP_append]
      by_cases same : other = key
      · subst same
        simp [first, Entry.verifies]
      · simpa [Entry.verifies, same] using ih

omit [DecidableEq Key] in
/-- An entry of an extended log is the new one or stands in the old log. -/
theorem split_snoc {last entry : Entry Key Status} {front back : List (Entry Key Status)}
    (split : log ++ [last] = front ++ entry :: back) :
    front = log ∧ entry = last ∨ ∃ rest, log = front ++ entry :: rest := by
  rcases List.eq_nil_or_concat back with rfl | ⟨rest, final, rfl⟩
  · obtain ⟨same, equal⟩ := List.append_inj' split rfl
    exact .inl ⟨same.symm, (List.cons.inj equal).1.symm⟩
  · have shifted : log ++ [last] = (front ++ entry :: rest) ++ [final] := by
      rw [split]
      simp
    exact .inr ⟨rest, (List.append_inj' shifted rfl).1⟩

theorem Orderly.accepted_before (orderly : Orderly ok log) {front back : List (Entry Key Status)}
    {entry : Entry Key Status} (split : log = front ++ entry :: back)
    (result : entry.isResult = true) : .accepted entry.key ∈ front := by
  induction orderly generalizing back with
  | empty => simp at split
  | accept _ other ih =>
      rcases split_snoc split with ⟨_, rfl⟩ | ⟨rest, earlier⟩
      · simp [Entry.isResult] at result
      · exact ih earlier
  | apply _ status accepted _ ih =>
      rcases split_snoc split with ⟨rfl, rfl⟩ | ⟨rest, earlier⟩
      · exact accepted
      · exact ih earlier
  | verify _ success accepted _ _ ih =>
      rcases split_snoc split with ⟨rfl, rfl⟩ | ⟨rest, earlier⟩
      · exact accepted
      · exact ih earlier

theorem Orderly.applied_before (orderly : Orderly ok log) {front back : List (Entry Key Status)}
    {key : Key} (split : log = front ++ .verified true key :: back) : .applied ok key ∈ front := by
  induction orderly generalizing back with
  | empty => simp at split
  | accept _ other ih =>
      rcases split_snoc split with ⟨_, equal⟩ | ⟨rest, earlier⟩
      · simp at equal
      · exact ih earlier
  | apply _ status accepted _ ih =>
      rcases split_snoc split with ⟨_, equal⟩ | ⟨rest, earlier⟩
      · simp at equal
      · exact ih earlier
  | verify _ success accepted _ applied ih =>
      rcases split_snoc split with ⟨rfl, equal⟩ | ⟨rest, earlier⟩
      · obtain ⟨rfl, rfl⟩ := Entry.verified.inj equal
        exact applied rfl
      · exact ih earlier

theorem applies_none_of_unanswered {key : Key} (blank : unanswered key log = true) :
    log.countP (Entry.applies key) = 0 := by
  rw [List.countP_eq_zero]
  intro entry member
  have none := List.all_eq_true.mp blank entry member
  simp_all

theorem verifies_none_of_unanswered {key : Key} (blank : unanswered key log = true) :
    log.countP (Entry.verifies key) = 0 := by
  rw [List.countP_eq_zero]
  intro entry member
  have none := List.all_eq_true.mp blank entry member
  simp_all

/-- A key that was never accepted has not been answered. -/
theorem Orderly.unanswered_of_new (orderly : Orderly ok log) {key : Key}
    (new : .accepted key ∉ log) : unanswered key log = true := by
  refine List.all_eq_true.mpr ?_
  intro entry member
  obtain ⟨front, back, split⟩ := List.append_of_mem member
  have earlier : entry.isResult = true → entry.key ≠ key := by
    rintro result rfl
    exact new (split ▸ List.mem_append_left _ (orderly.accepted_before split result))
  cases entry with
  | accepted _ => rfl
  | applied status other => simpa [Entry.applies, Entry.verifies, Entry.key] using earlier rfl
  | verified success other => simpa [Entry.applies, Entry.verifies, Entry.key] using earlier rfl

end UmbraHost.Reply
