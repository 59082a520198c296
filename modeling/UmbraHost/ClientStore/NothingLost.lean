import UmbraHost.ClientStore.Settled

/-! # Nothing is lost and nothing comes back

What holds of `client_root`, `cert_chain` and the state file once every operation has
returned, and a run in which an unpaired client comes back. -/

namespace UmbraHost.ClientStore

open UmbraHost.Json UmbraHost.StateFiles UmbraHost.Transition

/-- Unpaired clients are gone, the others are there with all their updates, and of pairings
with nothing taken away between them one has all permissions. -/
structure NothingLost (log : List Edit) (clients : List NamedCert)
    (certChain : List (String × String)) (stored : List NamedCert) : Prop where
  unpaired : ∀ uuid, .unpair uuid ∈ log →
    uuid ∉ clients.map NamedCert.uuid ∧ uuid ∉ certChain.map Prod.fst ∧
      uuid ∉ stored.map NamedCert.uuid
  paired : ∀ front client back, log = front ++ .pair client :: back →
    (∀ edit ∈ back, edit.removes client.uuid = false) →
    (∃ kept ∈ clients, Same (NamesKept log) (revised client back) kept) ∧
      (client.uuid, client.cert) ∈ certChain ∧
      ∃ kept ∈ stored, Same (NamesKept log) (revised client back) kept
  distinct : (clients.map NamedCert.uuid).Nodup ∧ (stored.map NamedCert.uuid).Nodup
  firstOnly : ∀ front first between second back,
    log = front ++ .pair first :: between ++ .pair second :: back →
    first.perm = Perm.all → second.perm = Perm.all →
    ∃ edit ∈ between, edit.removes first.uuid = true

theorem revised_identity (client : NamedCert) (edits : List Edit) :
    ((revised client edits).uuid, (revised client edits).cert) = (client.uuid, client.cert) := by
  induction edits generalizing client with
  | nil => rfl
  | cons edit rest ih =>
      refine (ih (edit.revise client)).trans ?_
      rw [Edit.revise_uuid, Edit.revise_cert]

theorem map_fst_identities (clients : List NamedCert) :
    (State.identities clients).map Prod.fst = clients.map NamedCert.uuid := by
  simp [State.identities]

theorem Sound.firstOnly {front between back : List Edit} {first second : NamedCert}
    (sound : Sound (front ++ .pair first :: between ++ .pair second :: back))
    (all : second.perm = Perm.all) : ∃ edit ∈ between, edit.removes first.uuid = true := by
  by_contra none
  have stays : ∀ edit ∈ between, edit.removes first.uuid = false := fun edit member =>
    Bool.eq_false_iff.mpr fun removes => none ⟨edit, member, removes⟩
  have present := sound.of_append.revised_mem stays
  have admissible := (Meets.append Edit.apply sound.admissible).2.1
  rw [replay, admissible.2.2.2.2 all] at present
  cases present

theorem NothingLost.of_agree {log : List Edit} {clients stored : List NamedCert}
    (sound : Sound log) (agree : Agree (NamesKept log) (replay log) clients)
    (agree' : Agree (NamesKept log) (replay log) stored) :
    NothingLost log clients (State.identities clients) stored where
  unpaired uuid unpaired := by
    rw [map_fst_identities, agree.uuids, agree'.uuids]
    exact ⟨sound.unpaired unpaired, sound.unpaired unpaired, sound.unpaired unpaired⟩
  paired front client back split stays := by
    subst split
    have present := sound.revised_mem stays
    obtain ⟨kept, member, same⟩ := agree.exists_mem present
    refine ⟨⟨kept, member, same⟩, ?_, agree'.exists_mem present⟩
    rw [← revised_identity client back, ← same.uuid, ← same.cert]
    exact List.mem_map_of_mem member
  distinct := by
    rw [agree.uuids, agree'.uuids]
    exact ⟨sound.storable.uuids, sound.storable.uuids⟩
  firstOnly front first between second back split _ all := by
    subst split
    exact sound.firstOnly all

namespace State

theorem Consistent.nothingLost {state : State} (consistent : state.Consistent)
    (idle : state.idle = true) :
    ∃ stored, state.stored = .ok stored ∧
      NothingLost state.log state.clients state.certChain stored := by
  have returned (property : Task → Bool) (never : property .returned = false) :
      ¬ ∃ task ∈ state.tasks, property task = true := by
    rintro ⟨task, member, holds⟩
    have done := List.all_eq_true.mp idle task member
    cases task <;> simp_all
  have saved := consistent.unsaved.resolve_right (returned _ rfl)
  have chain := consistent.chain.resolve_right (returned _ rfl)
  obtain ⟨stored, read, after⟩ := consistent.load 0 saved
  refine ⟨stored, read, ?_⟩
  rw [chain]
  exact .of_agree consistent.sound consistent.agree after.agree

/-- A phone is paired. While its HDR profile is set it is unpaired, and the snapshot that
still has it is written last, before the reload. -/
def crossedSnapshots : List Event :=
  [.call (.pair "Phone" "PEM" "phone"), .advance 0, .advance 0, .advance 0, .advance 0, .advance 0,
    .call (.setClientHdrProfile "phone" "HDR"), .call (.unpair "phone"),
    .advance 1, .advance 1, .advance 2, .advance 2, .advance 2, .advance 1, .advance 2]

end State

end UmbraHost.ClientStore
