import UmbraHost.ClientStore.Edits

/-! # Replayed edits

The clients that a log of edits leaves, and stores that agree with them although their
clients went through the state file. -/

namespace UmbraHost.ClientStore

open UmbraHost.Json UmbraHost.Tables UmbraHost.StateFiles UmbraHost.Transition

/-! ## The same client -/

/-- The actual client has the settings of the expected one. Its name may have got the number
of a name that stands for several clients. -/
structure Same (named : Prop) (expected actual : NamedCert) : Prop where
  settings : actual =
    { expected with name := actual.name, configOverrides := actual.configOverrides }
  overrides : ∀ key, actual.configOverrides.lookup key = expected.configOverrides.lookup key
  base : baseName actual.name = baseName expected.name
  name : named → actual.name = expected.name

variable {named : Prop} {expected actual : NamedCert} {clients store : List NamedCert}

theorem Same.refl (named : Prop) (namedCert : NamedCert) : Same named namedCert namedCert :=
  ⟨rfl, fun _ => rfl, rfl, fun _ => rfl⟩

theorem Same.uuid (same : Same named expected actual) : actual.uuid = expected.uuid := by
  rw [same.settings]

theorem Same.cert (same : Same named expected actual) : actual.cert = expected.cert := by
  rw [same.settings]

theorem Same.mono {stronger : Prop} (same : Same named expected actual)
    (implies : stronger → named) : Same stronger expected actual :=
  ⟨same.settings, same.overrides, same.base, fun holds => same.name (implies holds)⟩

theorem Same.update (same : Same named expected actual) (change : Update) :
    Same named (change.apply expected) (change.apply actual) := by
  obtain ⟨settings, overrides, base, name⟩ := same
  cases change with
  | deviceInfo info =>
      refine ⟨?_, ?_, rfl, fun _ => rfl⟩
      · rw [settings]
        rfl
      · intro key
        simp only [Update.apply]
        cases info.configOverrides with
        | none => exact overrides key
        | some _ => rfl
  | permissions info =>
      refine ⟨?_, overrides, rfl, fun _ => rfl⟩
      rw [settings]
      rfl
  | hdrProfile profile | lastSeen now =>
      refine ⟨?_, overrides, base, name⟩
      rw [settings]
      rfl

/-- Client by client. -/
def Agree (named : Prop) : List NamedCert → List NamedCert → Prop := List.Forall₂ (Same named)

theorem Agree.mono {stronger : Prop} (agree : Agree named clients store)
    (implies : stronger → named) : Agree stronger clients store :=
  List.Forall₂.imp (fun _ _ same => same.mono implies) agree

theorem Agree.uuids (agree : Agree named clients store) :
    store.map NamedCert.uuid = clients.map NamedCert.uuid := by
  induction agree with
  | nil => rfl
  | cons same _ ih => simp only [List.map_cons, same.uuid, ih]

theorem Agree.certs (agree : Agree named clients store) :
    store.map NamedCert.cert = clients.map NamedCert.cert := by
  induction agree with
  | nil => rfl
  | cons same _ ih => simp only [List.map_cons, same.cert, ih]

theorem Agree.names (agree : Agree named clients store) (holds : named) :
    store.map NamedCert.name = clients.map NamedCert.name := by
  induction agree with
  | nil => rfl
  | cons same _ ih => simp only [List.map_cons, same.name holds, ih]

theorem Agree.exists_mem (agree : Agree named clients store) (member : expected ∈ clients) :
    ∃ actual ∈ store, Same named expected actual := by
  induction agree with
  | nil => cases member
  | @cons first first' rest rest' same _ ih =>
      rcases List.mem_cons.mp member with rfl | later
      · exact ⟨first', List.mem_cons_self, same⟩
      · obtain ⟨actual, present, same'⟩ := ih later
        exact ⟨actual, List.mem_cons_of_mem _ present, same'⟩

theorem Agree.exists_expected (agree : Agree named clients store) (member : actual ∈ store) :
    ∃ expected ∈ clients, Same named expected actual := by
  induction agree with
  | nil => cases member
  | @cons first first' rest rest' same _ ih =>
      rcases List.mem_cons.mp member with rfl | later
      · exact ⟨first, List.mem_cons_self, same⟩
      · obtain ⟨expected, present, same'⟩ := ih later
        exact ⟨expected, List.mem_cons_of_mem _ present, same'⟩

theorem Agree.apply (agree : Agree named clients store) (edit : Edit) :
    Agree named (edit.apply clients) (edit.apply store) := by
  cases edit with
  | pair client =>
      simp only [Edit.apply]
      induction agree with
      | nil => exact .cons (.refl named client) .nil
      | cons same _ ih => exact .cons same ih
  | unpair uuid =>
      simp only [Edit.apply]
      induction agree with
      | nil => exact .nil
      | cons same _ ih =>
          simp only [List.filter_cons, same.uuid]
          split
          · exact .cons same ih
          · exact ih
  | update uuid change =>
      simp only [Edit.apply]
      induction agree with
      | nil => exact .nil
      | cons same rest ih =>
          simp only [updateFirst, same.uuid]
          split
          · exact .cons (same.update change) rest
          · exact .cons same ih
  | erase => exact .nil

/-! ## Storable clients -/

/-- Clients that the state file keeps apart and keeps whole. -/
structure Storable (clients : List NamedCert) : Prop where
  certs : (clients.map NamedCert.cert).Nodup
  uuids : (clients.map NamedCert.uuid).Nodup
  normalized : ∀ namedCert ∈ clients, Normalized namedCert.configOverrides
  masked : ∀ namedCert ∈ clients, namedCert.perm &&& Perm.all = namedCert.perm

theorem Storable.nil : Storable [] :=
  ⟨.nil, .nil, List.forall_mem_nil _, List.forall_mem_nil _⟩

theorem Storable.of_agree (storable : Storable clients) (agree : Agree named clients store) :
    Storable store where
  certs := agree.certs ▸ storable.certs
  uuids := agree.uuids ▸ storable.uuids
  normalized actual member := by
    obtain ⟨expected, present, same⟩ := agree.exists_expected member
    exact (storable.normalized expected present).of_lookup same.overrides
  masked actual member := by
    obtain ⟨expected, present, same⟩ := agree.exists_expected member
    rw [same.settings]
    exact storable.masked expected present

/-- The layers merged into an empty table: all overrides but the identity, which comes last. -/
theorem mergeConfigOverrides_empty (overrides : Table String String) :
    mergeConfigOverrides ∅ overrides =
      let merged := insertUnless (fun name => name = "adapter_pnp_id") ∅ overrides.entries
      match overrides.lookup "adapter_name" with
      | none => merged
      | some adapterName =>
        if adapterName = "" then merged.erase "adapter_pnp_id"
        else
          match overrides.lookup "adapter_pnp_id" with
          | none => merged.erase "adapter_pnp_id"
          | some adapterPnpId =>
            if adapterPnpId = "" then merged.erase "adapter_pnp_id"
            else merged.insert "adapter_pnp_id" adapterPnpId :=
  rfl

/-- What `merge_config_overrides` makes of named overrides. -/
theorem normalized_mergeConfigOverrides {overrides : Table String String}
    (named : overrides.lookup "" = none) : Normalized (mergeConfigOverrides ∅ overrides) := by
  let merged := insertUnless (fun name => name = "adapter_pnp_id") ∅ overrides.entries
  have folded (key : String) := lookup_insertUnless
    (fun name => decide (name = "adapter_pnp_id")) overrides.nodupKeys ∅ key
  simp only [decide_eq_true_eq, AList.lookup_empty, Option.or_none] at folded
  have unnamed : merged.lookup "" = none :=
    (folded "").trans ((if_neg (by decide)).trans named)
  have adapter : merged.lookup "adapter_name" = overrides.lookup "adapter_name" :=
    (folded "adapter_name").trans (if_neg (by decide))
  have dropped : merged.lookup "adapter_pnp_id" = none :=
    (folded "adapter_pnp_id").trans (if_pos rfl)
  have erased : Normalized (merged.erase "adapter_pnp_id") := by
    constructor
    · rw [AList.lookup_erase_ne (by decide)]
      exact unnamed
    · intro adapterPnpId found
      rw [AList.lookup_erase] at found
      cases found
  rw [mergeConfigOverrides_empty]
  cases adapterName : overrides.lookup "adapter_name" with
  | none => exact ⟨unnamed, fun adapterPnpId found => by cases dropped.symm.trans found⟩
  | some name =>
      dsimp only
      split
      · exact erased
      · cases overrides.lookup "adapter_pnp_id" with
        | none => exact erased
        | some identity =>
            dsimp only
            split
            · exact erased
            next nonempty given =>
              constructor
              · rw [AList.lookup_insert_ne (by decide)]
                exact unnamed
              · intro adapterPnpId found
                rw [AList.lookup_insert] at found
                cases found
                refine ⟨given, name, ?_, nonempty⟩
                rw [AList.lookup_insert_ne (by decide), adapter, adapterName]

theorem Update.normalized (change : Update) {namedCert : NamedCert}
    (normalized : Normalized namedCert.configOverrides) :
    Normalized (change.apply namedCert).configOverrides := by
  cases change with
  | deviceInfo info =>
      simp only [Update.apply]
      cases given : info.configOverrides with
      | none => exact normalized
      | some overrides => exact normalized_mergeConfigOverrides (info.named overrides given)
  | _ => exact normalized

theorem Update.masked (change : Update) {namedCert : NamedCert}
    (masked : namedCert.perm &&& Perm.all = namedCert.perm) :
    (change.apply namedCert).perm &&& Perm.all = (change.apply namedCert).perm := by
  cases change with
  | permissions info => exact info.masked
  | _ => exact masked

/-- An edit that a store allows. Pairing gives all permissions to the first client only. -/
def Admissible : Edit → List NamedCert → Prop
  | .pair client, clients =>
    client.cert ∉ clients.map NamedCert.cert ∧ client.uuid ∉ clients.map NamedCert.uuid ∧
      Normalized client.configOverrides ∧ client.perm &&& Perm.all = client.perm ∧
      (client.perm = Perm.all → clients = [])
  | .unpair uuid, clients => uuid ∈ clients.map NamedCert.uuid
  | _, _ => True

theorem mem_updateFirst {uuid : String} {change : NamedCert → NamedCert} {namedCert : NamedCert}
    (member : namedCert ∈ updateFirst uuid change clients) :
    namedCert ∈ clients ∨ ∃ former ∈ clients, namedCert = change former := by
  induction clients with
  | nil => cases member
  | cons first rest ih =>
      simp only [updateFirst] at member
      split at member
      · rcases List.mem_cons.mp member with rfl | later
        · exact .inr ⟨first, List.mem_cons_self, rfl⟩
        · exact .inl (List.mem_cons_of_mem _ later)
      · rcases List.mem_cons.mp member with rfl | later
        · exact .inl List.mem_cons_self
        · rcases ih later with old | ⟨former, old, changed⟩
          · exact .inl (List.mem_cons_of_mem _ old)
          · exact .inr ⟨former, List.mem_cons_of_mem _ old, changed⟩

/-- An update leaves the identifiers and certificates in place. -/
theorem map_updateFirst (field : NamedCert → String) (uuid : String)
    (clients : List NamedCert) {change : NamedCert → NamedCert}
    (keeps : ∀ namedCert, field (change namedCert) = field namedCert) :
    (updateFirst uuid change clients).map field = clients.map field := by
  induction clients with
  | nil => rfl
  | cons first rest ih =>
      simp only [updateFirst]
      split
      · simp only [List.map_cons, keeps]
      · simp only [List.map_cons, ih]

theorem nodup_map_append_singleton (field : NamedCert → String) {client : NamedCert}
    (distinct : (clients.map field).Nodup) (new : field client ∉ clients.map field) :
    ((clients ++ [client]).map field).Nodup := by
  rw [List.map_append]
  refine List.nodup_append.mpr ⟨distinct, List.nodup_singleton _, ?_⟩
  intro first present second last same
  rw [same, List.mem_singleton.mp last] at present
  exact new present

theorem Storable.apply (storable : Storable clients) {edit : Edit}
    (admissible : Admissible edit clients) : Storable (edit.apply clients) := by
  obtain ⟨certs, uuids, normalized, masked⟩ := storable
  cases edit with
  | pair client =>
      obtain ⟨newCert, newUuid, normal, mask, -⟩ := admissible
      refine ⟨nodup_map_append_singleton _ certs newCert,
        nodup_map_append_singleton _ uuids newUuid, ?_, ?_⟩
      · intro namedCert member
        rcases List.mem_append.mp member with old | new
        · exact normalized namedCert old
        · rw [List.mem_singleton.mp new]
          exact normal
      · intro namedCert member
        rcases List.mem_append.mp member with old | new
        · exact masked namedCert old
        · rw [List.mem_singleton.mp new]
          exact mask
  | unpair uuid =>
      have sublist : List.Sublist ((Edit.unpair uuid).apply clients) clients := List.filter_sublist
      exact ⟨certs.sublist (sublist.map _), uuids.sublist (sublist.map _),
        fun namedCert member => normalized namedCert (sublist.subset member),
        fun namedCert member => masked namedCert (sublist.subset member)⟩
  | update uuid change =>
      have sameCerts := map_updateFirst NamedCert.cert uuid clients
        fun namedCert => Update.apply_cert namedCert change
      have sameUuids := map_updateFirst NamedCert.uuid uuid clients
        fun namedCert => Update.apply_uuid namedCert change
      refine ⟨sameCerts ▸ certs, sameUuids ▸ uuids, ?_, ?_⟩
      · intro namedCert member
        rcases mem_updateFirst member with old | ⟨former, old, rfl⟩
        · exact normalized namedCert old
        · exact change.normalized (normalized former old)
      · intro namedCert member
        rcases mem_updateFirst member with old | ⟨former, old, rfl⟩
        · exact masked namedCert old
        · exact change.masked (masked former old)
  | erase => exact .nil

/-! ## Replaying -/

/-- The clients that a log of edits leaves. -/
def replay (log : List Edit) : List NamedCert := run Edit.apply log []

/-- Every edit of the log was allowed when it was made, and no identifier was given twice. -/
structure Sound (log : List Edit) : Prop where
  admissible : Meets Edit.apply Admissible log []
  once : ∀ front client back, log = front ++ .pair client :: back →
    front.any (Edit.pairs client.uuid) = false

/-- The names are kept apart and are stored as they are, after every edit of the log. -/
def NamesKept (log : List Edit) : Prop :=
  ∀ front back, log = front ++ back →
    storedNames [] ((replay front).map NamedCert.name) = (replay front).map NamedCert.name

theorem replay_append (front back : List Edit) :
    replay (front ++ back) = run Edit.apply back (replay front) :=
  run_append Edit.apply front back []

theorem NamesKept.of_append (front : List Edit) {back : List Edit}
    (kept : NamesKept (front ++ back)) : NamesKept front := by
  intro first second split
  exact kept first (second ++ back) (by rw [split, List.append_assoc])

theorem storable_run {log : List Edit} (met : Meets Edit.apply Admissible log clients)
    (storable : Storable clients) : Storable (run Edit.apply log clients) :=
  run_preserves_of_meets Edit.apply Storable
    (fun _ _ admissible storable => storable.apply admissible) met storable

theorem Sound.storable {log : List Edit} (sound : Sound log) : Storable (replay log) :=
  storable_run sound.admissible .nil

theorem Sound.of_append {front back : List Edit} (sound : Sound (front ++ back)) :
    Sound front where
  admissible := (Meets.append Edit.apply sound.admissible).1
  once first client second split :=
    sound.once first client (second ++ back) (by rw [split, List.append_assoc]; rfl)

theorem Sound.concat {log : List Edit} {edit : Edit} (sound : Sound log)
    (admissible : Admissible edit (replay log))
    (new : ∀ client, edit = .pair client → log.any (Edit.pairs client.uuid) = false) :
    Sound (log ++ [edit]) where
  admissible := Meets.concat Edit.apply sound.admissible admissible
  once front client back split := by
    rcases List.eq_nil_or_concat back with rfl | ⟨rest, last, rfl⟩
    · obtain ⟨rfl, same⟩ := List.append_inj' split rfl
      exact new client (List.cons.inj same).1
    · have shifted : log ++ [edit] = (front ++ .pair client :: rest) ++ [last] := by
        rw [split]
        simp
      exact sound.once front client rest (List.append_inj' shifted rfl).1

/-- A client that the edit does not take away is revised by it. -/
theorem mem_apply {edit : Edit} (distinct : (clients.map NamedCert.uuid).Nodup)
    (member : expected ∈ clients) (stays : edit.removes expected.uuid = false) :
    edit.revise expected ∈ edit.apply clients := by
  cases edit with
  | pair client => exact List.mem_append_left _ member
  | unpair uuid =>
      have different : uuid ≠ expected.uuid := by simpa [Edit.removes] using stays
      exact List.mem_filter.mpr ⟨member, by simpa using Ne.symm different⟩
  | update uuid change =>
      simp only [Edit.revise, Edit.apply]
      induction clients with
      | nil => cases member
      | cons first rest ih =>
          obtain ⟨absent, distinct⟩ := List.nodup_cons.mp distinct
          rcases List.mem_cons.mp member with rfl | later
          · simp only [updateFirst]
            split <;> exact List.mem_cons_self
          · have different : first.uuid ≠ expected.uuid := fun same =>
              absent (same ▸ List.mem_map_of_mem later)
            by_cases here : first.uuid = uuid
            · subst here
              rw [if_neg (Ne.symm different), updateFirst, if_pos rfl]
              exact List.mem_cons_of_mem _ later
            · rw [updateFirst, if_neg here]
              exact List.mem_cons_of_mem _ (ih distinct later)
  | erase => simp [Edit.removes] at stays

/-- The client after the edits that follow. -/
def revised (client : NamedCert) (edits : List Edit) : NamedCert :=
  edits.foldl (fun client edit => edit.revise client) client

theorem mem_run {log : List Edit} (met : Meets Edit.apply Admissible log clients)
    (storable : Storable clients) (member : expected ∈ clients)
    (stays : ∀ edit ∈ log, edit.removes expected.uuid = false) :
    revised expected log ∈ run Edit.apply log clients := by
  induction log generalizing clients expected with
  | nil => exact member
  | cons edit rest ih =>
      obtain ⟨now, later⟩ := met
      refine ih later (storable.apply now)
        (mem_apply storable.uuids member (stays edit List.mem_cons_self)) ?_
      intro other present
      rw [Edit.revise_uuid]
      exact stays other (List.mem_cons_of_mem _ present)

/-- A paired client that nothing took away is in the store, with what updated it since. -/
theorem Sound.revised_mem {front back : List Edit} {client : NamedCert}
    (sound : Sound (front ++ .pair client :: back))
    (stays : ∀ edit ∈ back, edit.removes client.uuid = false) :
    revised client back ∈ replay (front ++ .pair client :: back) := by
  obtain ⟨before, now, later⟩ := Meets.append Edit.apply sound.admissible
  have storable := storable_run before .nil
  rw [replay_append, run_cons]
  exact mem_run later (storable.apply now) (List.mem_append_right _ (List.mem_singleton_self client))
    stays

theorem not_mem_apply {edit : Edit} {uuid : String} (absent : uuid ∉ clients.map NamedCert.uuid)
    (other : edit.pairs uuid = false) : uuid ∉ (edit.apply clients).map NamedCert.uuid := by
  cases edit with
  | pair client =>
      have different : client.uuid ≠ uuid := by simpa [Edit.pairs] using other
      simpa [Edit.apply, Ne.symm different] using absent
  | unpair removed =>
      have sublist : List.Sublist ((Edit.unpair removed).apply clients) clients :=
        List.filter_sublist
      exact fun present => absent ((sublist.map _).subset present)
  | update updated change =>
      rw [Edit.apply, map_updateFirst NamedCert.uuid updated clients
        fun namedCert => Update.apply_uuid namedCert change]
      exact absent
  | erase => exact List.not_mem_nil

theorem not_mem_run {log : List Edit} {uuid : String}
    (absent : uuid ∉ clients.map NamedCert.uuid)
    (others : ∀ edit ∈ log, edit.pairs uuid = false) :
    uuid ∉ (run Edit.apply log clients).map NamedCert.uuid := by
  induction log generalizing clients with
  | nil => exact absent
  | cons edit rest ih =>
      exact ih (not_mem_apply absent (others edit List.mem_cons_self)) fun other member =>
        others other (List.mem_cons_of_mem _ member)

/-- A client that was unpaired never comes back. -/
theorem Sound.unpaired {log : List Edit} (sound : Sound log) {uuid : String}
    (unpaired : .unpair uuid ∈ log) : uuid ∉ (replay log).map NamedCert.uuid := by
  obtain ⟨front, back, rfl⟩ := List.append_of_mem unpaired
  obtain ⟨before, now, later⟩ := Meets.append Edit.apply sound.admissible
  have given : front.any (Edit.pairs uuid) = true := by
    by_contra never
    refine not_mem_run List.not_mem_nil (fun edit member => ?_) now
    have none := List.any_eq_false.mp (Bool.not_eq_true _ ▸ never) edit member
    simpa using none
  rw [replay_append, run_cons]
  apply not_mem_run
  · simp [Edit.apply]
  · intro edit member
    cases edit with
    | pair client =>
        obtain ⟨first, second, rfl⟩ := List.append_of_mem member
        have once := sound.once (front ++ .unpair uuid :: first) client second (by simp)
        rw [List.any_append, Bool.or_eq_false_iff] at once
        by_contra same
        have same : client.uuid = uuid := by simpa [Edit.pairs] using same
        rw [same, given] at once
        cases once.1
    | _ => rfl

end UmbraHost.ClientStore
