import UmbraHost.StateFiles.Clients

/-! # Stored client names

The name a client is written under is its base name, with a number from the second
client of that base on. -/

namespace UmbraHost.StateFiles

open UmbraHost.Json

/-- The names under which clients of the given names are written, after clients of the
given base names. -/
def storedNames (earlier : List String) : List String → List String
  | [] => []
  | name :: rest =>
    finalName (baseName name) (earlier.count (baseName name)) ::
      storedNames (baseName name :: earlier) rest

/-! ## Base names -/

theorem dropSuffix_dropSuffix (text : List Char) :
    dropSuffix (dropSuffix text) = dropSuffix text := by
  fun_induction dropSuffix text with
  | case1 => rfl
  | case2 last => rfl
  | case3 rest first second opens => rfl
  | case4 first second rest stays ih =>
    cases tail : dropSuffix (second :: rest) with
    | nil => rfl
    | cons next later =>
      have next_eq : next = second := by
        cases rest with
        | nil => simp only [dropSuffix, List.cons.injEq] at tail; exact tail.1.symm
        | cons third rest =>
          rw [dropSuffix] at tail
          split at tail
          · cases tail
          · simp only [List.cons.injEq] at tail; exact tail.1.symm
      subst next_eq
      rw [tail] at ih
      rw [dropSuffix, if_neg stays, ih]

/-- A suffix after a text without one is dropped. -/
theorem dropSuffix_append {text : List Char} (base : dropSuffix text = text) (rest : List Char) :
    dropSuffix (text ++ ' ' :: '(' :: rest) = text := by
  fun_induction dropSuffix text with
  | case1 => simp [dropSuffix]
  | case2 last => simp [dropSuffix]
  | case3 later first second opens => cases base
  | case4 first second later stays ih =>
    have tail : dropSuffix (second :: later) = second :: later := (List.cons.inj base).2
    rw [List.cons_append, List.cons_append, dropSuffix, if_neg stays, ← List.cons_append, ih tail]

theorem baseName_baseName (name : String) : baseName (baseName name) = baseName name := by
  simp only [baseName, String.toList_ofList, dropSuffix_dropSuffix]

theorem toList_finalName {base : String} {count : Nat} (positive : count > 0) :
    (finalName base count).toList =
      base.toList ++ ' ' :: '(' :: ((decimal (count + 1 : Nat)).toList ++ [')']) := by
  simp [finalName, positive]

theorem baseName_finalName {base : String} (is_base : baseName base = base) (count : Nat) :
    baseName (finalName base count) = base := by
  by_cases positive : count > 0
  · have dropped : dropSuffix base.toList = base.toList := by
      have same := congrArg String.toList is_base
      rwa [baseName, String.toList_ofList] at same
    rw [baseName, toList_finalName positive, dropSuffix_append dropped, String.ofList_toList]
  · rw [finalName, if_neg positive, is_base]

theorem decimal_injective : Function.Injective decimal := by
  intro first second same
  have read := integer?_decimal first
  rw [same, integer?_decimal] at read
  exact (Option.some_inj.mp read).symm

theorem finalName_injective (base : String) : Function.Injective (finalName base) := by
  intro first second same
  have texts := congrArg String.toList same
  by_cases positive : first > 0
  · by_cases positive' : second > 0
    · rw [toList_finalName positive, toList_finalName positive', List.append_cancel_left_eq,
        List.cons.injEq, List.cons.injEq, List.append_cancel_right_eq] at texts
      have numbers := decimal_injective (String.toList_injective texts.2.2)
      omega
    · rw [toList_finalName positive, finalName, if_neg positive'] at texts
      simp at texts
  · by_cases positive' : second > 0
    · rw [toList_finalName positive', finalName, if_neg positive] at texts
      simp at texts
    · omega

/-! ## Lists of names -/

theorem mem_storedNames {earlier names : List String} {name : String}
    (member : name ∈ storedNames earlier names) :
    ∃ base count, baseName base = base ∧ name = finalName base count ∧
      earlier.count base ≤ count := by
  induction names generalizing earlier with
  | nil => cases member
  | cons first rest ih =>
    rcases List.mem_cons.mp member with rfl | later
    · exact ⟨baseName first, _, baseName_baseName first, rfl, Nat.le_refl _⟩
    · obtain ⟨base, count, is_base, named, low⟩ := ih later
      refine ⟨base, count, is_base, named, Nat.le_trans ?_ low⟩
      exact List.count_le_count_cons

theorem nodup_storedNames (earlier names : List String) : (storedNames earlier names).Nodup := by
  induction names generalizing earlier with
  | nil => exact List.nodup_nil
  | cons first rest ih =>
    refine List.nodup_cons.mpr ⟨fun again => ?_, ih _⟩
    obtain ⟨base, count, is_base, named, low⟩ := mem_storedNames again
    have same : baseName first = base := by
      have bases := congrArg baseName named
      rwa [baseName_finalName (baseName_baseName first), baseName_finalName is_base] at bases
    subst same
    have counts := finalName_injective _ named
    rw [List.count_cons_self] at low
    omega

theorem storedNames_storedNames (earlier names : List String) :
    storedNames earlier (storedNames earlier names) = storedNames earlier names := by
  induction names generalizing earlier with
  | nil => rfl
  | cons first rest ih =>
    have base := baseName_finalName (baseName_baseName first) (earlier.count (baseName first))
    simp only [storedNames, base, ih]

theorem length_storedNames (earlier names : List String) :
    (storedNames earlier names).length = names.length := by
  induction names generalizing earlier with
  | nil => rfl
  | cons first rest ih => simp only [storedNames, List.length_cons, ih]

/-- The loop of `save_state` over clients of different certificates. -/
theorem namedCertNodes_eq {uniqueCerts earlier : List String} {nameCounts : Fields Nat}
    {clients : List NamedCert} (distinct : (clients.map NamedCert.cert).Nodup)
    (fresh : ∀ namedCert ∈ clients, namedCert.cert ∉ uniqueCerts)
    (counts : ∀ base, (List.lookup base nameCounts).getD 0 = earlier.count base) :
    namedCertNodes uniqueCerts nameCounts clients =
      List.zipWith namedCertNode clients (storedNames earlier (clients.map NamedCert.name)) := by
  induction clients generalizing uniqueCerts earlier nameCounts with
  | nil => rfl
  | cons first rest ih =>
    obtain ⟨different, distinct⟩ := List.nodup_cons.mp distinct
    simp only [namedCertNodes, fresh first List.mem_cons_self, if_false, counts, List.map_cons,
      storedNames, List.zipWith_cons_cons]
    refine congrArg _ (ih distinct ?_ ?_)
    · intro namedCert member seen
      rcases List.mem_cons.mp seen with same | seen
      · exact different (same ▸ List.mem_map_of_mem member)
      · exact fresh namedCert (List.mem_cons_of_mem _ member) seen
    · intro base
      by_cases same : base = baseName first.name
      · subst same
        rw [Fields.lookup_put_self, Option.getD_some, List.count_cons_self]
      · rw [Fields.lookup_put_of_ne same, counts, List.count_cons_of_ne (Ne.symm same)]

end UmbraHost.StateFiles
