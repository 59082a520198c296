import UmbraHost.ClientIdentity.Connections
import UmbraHost.Transition.Run

/-! # Whose identity a request gets

A remembered identity belongs to the certificate of the connection it was remembered
for.  What is left to a condition is the certificate of the latest handshake, which
stands in for that of the connection when its own client is gone, and an endpoint that
is taken over between reading it and looking it up. -/

namespace UmbraHost.ClientIdentity

open UmbraHost.StateFiles UmbraHost.Transition

variable {Endpoint Cert Signature : Type} (signatures : Signatures Cert Signature)

namespace State

/-- The two connections presented certificates of one signature. -/
def SamePeer (state : State Endpoint Cert) (conn other : Nat) : Prop :=
  (state.peer conn).map signatures.signature = (state.peer other).map signatures.signature

/-- The identity is that of a client with the connection's certificate. -/
def Belongs (state : State Endpoint Cert) (identity : ResolvedClientIdentity) (conn : Nat) :
    Prop :=
  ∃ client ∈ state.issued, client.uuid = identity.uuid ∧
    ∃ cert, state.peer conn = some cert ∧
      signatures.stored client.cert = some (signatures.signature cert)

/-- An answer names nobody, or a stored client with the signature of the certificate that
was presented on the request's own connection. -/
def Attributed (state : State Endpoint Cert) (answer : Answer) : Prop :=
  ∀ client, answer.client = some client → client ∈ answer.clients ∧
    ∃ cert, state.peer answer.conn = some cert ∧
      signatures.stored client.cert = some (signatures.signature cert)

/-- The latest handshake of the thread may answer for the request. -/
def LatestHandshakeFits (state : State Endpoint Cert) (conn : Nat) : Prop :=
  ∀ cert, state.peerCertificate = some cert →
    (∃ client ∈ state.clients,
      signatures.stored client.cert = some (signatures.signature cert)) →
    (state.peer conn).map signatures.signature = some (signatures.signature cert)

/-- Later connections from the endpoint presented the same certificate. -/
def EndpointKept (state : State Endpoint Cert) (conn : Nat) (key : Endpoint) : Prop :=
  ∀ later connection, conn < later → state.connections later = some connection →
    connection.endpoint = key → SamePeer signatures state later conn

/-- A step on the HTTPS thread that falls back to the latest handshake finds its own
certificate there, and one on a pool thread that looks an endpoint up still has it. -/
def Fits (event : Event Endpoint Cert) (state : State Endpoint Cert) : Prop :=
  match event with
  | .advance =>
    match state.https with
    | .serving (.unknown conn) => LatestHandshakeFits signatures state conn
    | _ => True
  | .advanceOnPool task =>
    match state.pool task with
    | some (.keyed conn (some key)) => EndpointKept signatures state conn key
    | _ => True
  | _ => True

/-! ## Lookups -/

/-- What holds of a lookup on any thread. -/
def LookupFits (state : State Endpoint Cert) : Lookup Endpoint → Prop
  | .start conn => ∃ connection, state.connections conn = some connection ∧
      connection.verified = true
  | .remembered conn (some identity) => Belongs signatures state identity conn
  | _ => True

/-- The entry under the key of a lookup is not older than its connection. -/
def KeyFits (state : State Endpoint Cert) : Lookup Endpoint → Prop
  | .keyed conn (some key) =>
    (∃ connection, state.connections conn = some connection ∧ connection.endpoint = key) ∧
    (∀ identity, state.identities key = some identity → conn ≤ state.rememberedFor key) ∧
    ∀ other, state.endpointKey other = some key → conn ≤ other
  | _ => True

/-- On the HTTPS thread the entry is the connection's own. -/
def OwnKeyFits (state : State Endpoint Cert) : Lookup Endpoint → Prop
  | .keyed conn (some key) => ∀ identity, state.identities key = some identity →
      Belongs signatures state identity conn
  | _ => True

/-- The HTTPS thread between two callbacks. -/
def HttpsFits (state : State Endpoint Cert) : Prop :=
  match state.https with
  | .idle => True
  | .forgot conn => (∃ connection, state.connections conn = some connection) ∧
      ∀ key, state.endpointKey conn = some key → state.identities key = none
  | .resolved conn identity => (∃ connection, state.connections conn = some connection) ∧
      (∀ key, state.endpointKey conn = some key → state.identities key = none) ∧
      ∀ found, identity = some found → Belongs signatures state found conn
  | .serving lookup => LookupFits signatures state lookup ∧ OwnKeyFits signatures state lookup

structure Invariant (state : State Endpoint Cert) : Prop where
  accepted : ∀ conn, state.connections conn = none ↔ state.accepted ≤ conn
  issued : ∀ client ∈ state.clients, client ∈ state.issued
  distinct : (state.issued.map NamedCert.uuid).Nodup
  remembered : ∀ key identity, state.identities key = some identity →
    (∃ connection, state.connections (state.rememberedFor key) = some connection ∧
      connection.endpoint = key) ∧
    Belongs signatures state identity (state.rememberedFor key)
  fresh : ∀ conn key identity connection, state.endpointKey conn = some key →
    state.connections conn = some connection → connection.verified = true →
    state.identities key = some identity → conn ≤ state.rememberedFor key
  closed : ∀ conn later connection, conn < later → state.connections later = some connection →
    state.endpointKey conn ≠ some connection.endpoint
  https : HttpsFits signatures state
  pool : ∀ task lookup, state.pool task = some lookup →
    LookupFits signatures state lookup ∧ KeyFits state lookup
  answers : ∀ answer ∈ state.answers, Attributed signatures state answer

/-! ## What no step takes back -/

variable {signatures}

/-- Clients stay issued, and connections keep their endpoint and certificate. -/
structure Extends (before after : State Endpoint Cert) : Prop where
  issued : ∀ client ∈ before.issued, client ∈ after.issued
  connections : ∀ conn connection, before.connections conn = some connection →
    ∃ later, after.connections conn = some later ∧ later.endpoint = connection.endpoint ∧
      later.peer = connection.peer ∧ (connection.verified = true → later.verified = true)
  keys : ∀ conn key, before.connections conn ≠ none → after.endpointKey conn = some key →
    before.endpointKey conn = some key

variable {before after : State Endpoint Cert} {conn : Nat} {cert : Cert}

theorem Extends.of_connections (issued : ∀ client ∈ before.issued, client ∈ after.issued)
    (same : after.connections = before.connections) : Extends before after where
  issued := issued
  connections conn connection found :=
    ⟨connection, by rw [same, found], rfl, rfl, id⟩
  keys conn key _ found := by
    rw [endpointKey, same] at found
    exact found

theorem Extends.peer (ext : Extends before after) (found : before.peer conn = some cert) :
    after.peer conn = some cert := by
  obtain ⟨connection, at_conn, peer⟩ := Option.bind_eq_some_iff.mp found
  obtain ⟨later, at_conn', -, same, -⟩ := ext.connections conn connection at_conn
  rw [State.peer, at_conn', Option.bind_some, same, peer]

theorem Belongs.mono {identity : ResolvedClientIdentity} (ext : Extends before after)
    (belongs : Belongs signatures before identity conn) :
    Belongs signatures after identity conn := by
  obtain ⟨client, member, uuid, cert, peer, stored⟩ := belongs
  exact ⟨client, ext.issued client member, uuid, cert, ext.peer peer, stored⟩

theorem Attributed.mono {answer : Answer} (ext : Extends before after)
    (attributed : Attributed signatures before answer) :
    Attributed signatures after answer := by
  intro client named
  obtain ⟨member, cert, peer, stored⟩ := attributed client named
  exact ⟨member, cert, ext.peer peer, stored⟩

theorem LookupFits.mono {lookup : Lookup Endpoint} (ext : Extends before after)
    (fits : LookupFits signatures before lookup) : LookupFits signatures after lookup := by
  cases lookup with
  | start conn =>
    obtain ⟨connection, found, verified⟩ := fits
    obtain ⟨later, found', -, -, kept⟩ := ext.connections conn connection found
    exact ⟨later, found', kept verified⟩
  | remembered conn identity =>
    cases identity with
    | none => trivial
    | some identity => exact Belongs.mono ext fits
  | keyed conn key => trivial
  | unknown conn => trivial
  | answered => trivial

theorem HttpsFits.mono (ext : Extends before after) (https : after.https = before.https)
    (kept : ∀ key identity, after.identities key = some identity →
      before.identities key = some identity)
    (fits : HttpsFits signatures before) : HttpsFits signatures after := by
  rw [HttpsFits] at fits ⊢
  rw [https]
  cases thread : before.https with
  | idle => trivial
  | forgot conn =>
    rw [thread] at fits
    obtain ⟨⟨connection, found⟩, empty⟩ := fits
    obtain ⟨later, found', -⟩ := ext.connections conn connection found
    refine ⟨⟨later, found'⟩, fun key keyed => Option.eq_none_iff_forall_ne_some.mpr ?_⟩
    intro identity remembered
    have none_before := empty key (ext.keys conn key (by simp [found]) keyed)
    rw [kept key identity remembered] at none_before
    cases none_before
  | resolved conn identity =>
    rw [thread] at fits
    obtain ⟨⟨connection, found⟩, empty, belongs⟩ := fits
    obtain ⟨later, found', -⟩ := ext.connections conn connection found
    refine ⟨⟨later, found'⟩, fun key keyed => Option.eq_none_iff_forall_ne_some.mpr ?_,
      fun known same => Belongs.mono ext (belongs known same)⟩
    intro identity remembered
    have none_before := empty key (ext.keys conn key (by simp [found]) keyed)
    rw [kept key identity remembered] at none_before
    cases none_before
  | serving lookup =>
    rw [thread] at fits
    refine ⟨LookupFits.mono ext fits.1, ?_⟩
    cases lookup with
    | keyed conn key =>
      cases key with
      | none => trivial
      | some key =>
        intro identity found
        exact Belongs.mono ext (fits.2 identity (kept key identity found))
    | start conn => trivial
    | remembered conn identity => trivial
    | unknown conn => trivial
    | answered => trivial

/-- Keys are not handed back to connections that lost them. -/
theorem KeyFits.mono {lookup : Lookup Endpoint} (ext : Extends before after)
    (accepted : ∀ conn, before.connections conn = none ↔ before.accepted ≤ conn)
    (kept : ∀ key identity, after.identities key = some identity →
      before.identities key = some identity)
    (rememberedFor : after.rememberedFor = before.rememberedFor)
    (fits : KeyFits before lookup) : KeyFits after lookup := by
  cases lookup with
  | keyed conn key =>
    cases key with
    | none => trivial
    | some key =>
      obtain ⟨⟨connection, found, endpoint⟩, entry, others⟩ := fits
      obtain ⟨later, found', same, -⟩ := ext.connections conn connection found
      refine ⟨⟨later, found', same.trans endpoint⟩, ?_, fun other keyed => ?_⟩
      · intro identity remembered
        rw [rememberedFor]
        exact entry identity (kept key identity remembered)
      · by_cases known : before.connections other = none
        · have young := (accepted other).mp known
          have older : ¬ before.accepted ≤ conn := by
            rw [← accepted conn, found]
            exact Option.some_ne_none connection
          omega
        · exact others other (ext.keys other key known keyed)
  | start conn => trivial
  | remembered conn identity => trivial
  | unknown conn => trivial
  | answered => trivial

/-- Steps that leave connections, identities and lookups alone. -/
theorem Invariant.of_same (invariant : Invariant signatures before)
    (clients : ∀ client ∈ after.clients, client ∈ after.issued)
    (issued : ∀ client ∈ before.issued, client ∈ after.issued)
    (distinct : (after.issued.map NamedCert.uuid).Nodup)
    (accepted : after.accepted = before.accepted)
    (connections : after.connections = before.connections)
    (identities : after.identities = before.identities)
    (rememberedFor : after.rememberedFor = before.rememberedFor)
    (https : HttpsFits signatures after)
    (pool : ∀ task lookup, after.pool task = some lookup →
      LookupFits signatures after lookup ∧ KeyFits after lookup)
    (answers : ∀ answer ∈ after.answers, Attributed signatures after answer) :
    Invariant signatures after where
  accepted := by rw [connections, accepted]; exact invariant.accepted
  issued := clients
  distinct := distinct
  remembered key identity found := by
    rw [identities] at found
    rw [connections, rememberedFor]
    obtain ⟨place, belongs⟩ := invariant.remembered key identity found
    exact ⟨place, Belongs.mono (.of_connections issued connections) belongs⟩
  fresh := by
    simp only [endpointKey, connections, identities, rememberedFor]
    exact invariant.fresh
  closed := by
    simp only [endpointKey, connections]
    exact invariant.closed
  https := https
  pool := pool
  answers := answers

variable {state : State Endpoint Cert}

/-- Steps that move only the HTTPS thread. -/
theorem Invariant.of_https (invariant : Invariant signatures state) {https : Https Endpoint}
    (fits : HttpsFits signatures { state with https := https }) :
    Invariant signatures { state with https := https } :=
  { invariant with https := fits }

theorem verified_of_readable {conn : Nat} (readable : state.readable conn = true) :
    LookupFits signatures state (.start conn : Lookup Endpoint) := by
  rw [State.readable] at readable
  split at readable
  next => cases readable
  next connection found => exact ⟨connection, found, (Bool.and_eq_true_iff.mp readable).2⟩

/-- Connections stay accepted when the record of one of them changes. -/
theorem Invariant.accepted_update (invariant : Invariant signatures state) {conn : Nat}
    {connection changed : Connection Endpoint Cert}
    (found : state.connections conn = some connection) (other : Nat) :
    Function.update state.connections conn (some changed) other = none ↔
      state.accepted ≤ other := by
  by_cases same : other = conn
  · have present := invariant.accepted other
    rw [same, found] at present
    rw [same, Function.update_self]
    exact iff_of_false nofun (by simpa using present)
  · rw [Function.update_of_ne same]
    exact invariant.accepted other

/-- What is remembered stays so while connections only come and change. -/
theorem Invariant.remembered_mono (invariant : Invariant signatures state)
    (ext : Extends state after) {key : Endpoint} {identity : ResolvedClientIdentity}
    (remembered : state.identities key = some identity) :
    (∃ later, after.connections (state.rememberedFor key) = some later ∧ later.endpoint = key) ∧
      Belongs signatures after identity (state.rememberedFor key) := by
  obtain ⟨⟨older, at_old, place⟩, belongs⟩ := invariant.remembered key identity remembered
  obtain ⟨later, at_later, same, -⟩ := ext.connections _ older at_old
  exact ⟨⟨later, at_later, same.trans place⟩, belongs.mono ext⟩

/-- Remembering an identity, or none, for a connection that was verified. -/
theorem Invariant.of_remember (invariant : Invariant signatures state) {conn : Nat}
    {connection : Connection Endpoint Cert} (found : state.connections conn = some connection)
    {identities : Endpoint → Option ResolvedClientIdentity} {rememberedFor : Endpoint → Nat}
    (entries : ∀ key identity, identities key = some identity →
      (state.identities key = some identity ∧ rememberedFor key = state.rememberedFor key ∧
        state.endpointKey conn ≠ some key) ∨
      (state.endpointKey conn = some key ∧ rememberedFor key = conn ∧
        Belongs signatures state identity conn)) :
    Invariant signatures
      { state with
        identities := identities
        rememberedFor := rememberedFor
        peerCertificate := connection.peer
        connections := Function.update state.connections conn
          (some { connection with verified := true })
        https := .idle } := by
  let after : State Endpoint Cert :=
    { state with
      identities := identities
      rememberedFor := rememberedFor
      peerCertificate := connection.peer
      connections := Function.update state.connections conn
        (some { connection with verified := true })
      https := .idle }
  have at_conn : after.connections conn = some { connection with verified := true } :=
    Function.update_self _ _ _
  have at_other {other : Nat} (different : other ≠ conn) :
      after.connections other = state.connections other := Function.update_of_ne different _ _
  have keys (other : Nat) : after.endpointKey other = state.endpointKey other := by
    by_cases same : other = conn
    · rw [same, endpointKey, endpointKey, at_conn, found]
      rfl
    · rw [endpointKey, endpointKey, at_other same]
  have ext : Extends state after := {
    issued := fun _ member => member
    connections := by
      intro other older at_old
      by_cases same : other = conn
      · subst same
        cases found.symm.trans at_old
        exact ⟨_, at_conn, rfl, rfl, fun _ => rfl⟩
      · exact ⟨older, (at_other same).trans at_old, rfl, rfl, id⟩
    keys := fun other key _ keyed => (keys other).symm.trans keyed }
  have own_place {key : Endpoint} (keyed : state.endpointKey conn = some key) :
      connection.endpoint = key := by
    rw [endpointKey, found, Option.bind_some] at keyed
    split at keyed
    · exact Option.some_inj.mp keyed
    · cases keyed
  refine {
    accepted := ?_
    issued := invariant.issued
    distinct := invariant.distinct
    remembered := ?_
    fresh := ?_
    closed := ?_
    https := trivial
    pool := ?_
    answers := fun answer member => (invariant.answers answer member).mono ext }
  · exact invariant.accepted_update found
  · intro key identity remembered
    show (∃ later, after.connections (rememberedFor key) = some later ∧ later.endpoint = key) ∧
      Belongs signatures after identity (rememberedFor key)
    rcases entries key identity remembered with ⟨old, same, -⟩ | ⟨keyed, same, belongs⟩
    · rw [same]
      exact invariant.remembered_mono ext old
    · rw [same]
      exact ⟨⟨_, at_conn, own_place keyed⟩, belongs.mono ext⟩
  · intro other key identity later keyed at_later verified remembered
    rw [keys other] at keyed
    show other ≤ rememberedFor key
    rcases entries key identity remembered with ⟨old, same, elsewhere⟩ | ⟨own, same, -⟩
    · have different : other ≠ conn := by
        rintro rfl
        exact elsewhere keyed
      rw [same]
      exact invariant.fresh other key identity later keyed
        ((at_other different).symm.trans at_later) verified old
    · rw [same]
      by_contra newer
      have different : other ≠ conn := by omega
      have at_before := (at_other different).symm.trans at_later
      have place : later.endpoint = key := by
        rw [endpointKey, at_before, Option.bind_some] at keyed
        split at keyed
        · exact Option.some_inj.mp keyed
        · cases keyed
      exact invariant.closed conn other later (Nat.not_le.mp newer) at_before (place ▸ own)
  · intro other later younger before at_later keyed
    rw [keys other] at keyed
    by_cases same : later = conn
    · subst same
      cases at_conn.symm.trans at_later
      exact invariant.closed other later connection before found keyed
    · exact invariant.closed other later younger before ((at_other same).symm.trans at_later) keyed
  · intro task lookup taken
    obtain ⟨fits, keyed⟩ := invariant.pool task lookup taken
    refine ⟨fits.mono ext, ?_⟩
    cases lookup with
    | keyed looked key =>
      cases key with
      | none => trivial
      | some key =>
        obtain ⟨⟨older, at_old, place⟩, entry, others⟩ := keyed
        obtain ⟨later, at_later, endpoint, -⟩ := ext.connections looked older at_old
        refine ⟨⟨later, at_later, endpoint.trans place⟩, fun identity remembered => ?_,
          fun other keyed => others other ((keys other).symm.trans keyed)⟩
        show looked ≤ rememberedFor key
        rcases entries key identity remembered with ⟨old, same, -⟩ | ⟨own, same, -⟩
        · rw [same]
          exact entry identity old
        · rw [same]
          exact others conn own
    | start looked => trivial
    | remembered looked identity => trivial
    | unknown looked => trivial
    | answered => trivial

/-! ## Lookup steps -/

/-- The key that is read is that of the connection's own entry. -/
theorem own_entry (invariant : Invariant signatures state) {conn : Nat} {key : Endpoint}
    {identity : ResolvedClientIdentity}
    (fits : LookupFits signatures state (.start conn : Lookup Endpoint))
    (keyed : state.endpointKey conn = some key)
    (remembered : state.identities key = some identity) : state.rememberedFor key = conn := by
  obtain ⟨connection, found, verified⟩ := fits
  obtain ⟨⟨older, at_older, place⟩, -⟩ := invariant.remembered key identity remembered
  have low := invariant.fresh conn key identity connection keyed found verified remembered
  by_contra different
  exact invariant.closed conn _ older (by omega) at_older (place ▸ keyed)

theorem keyFits_start (invariant : Invariant signatures state) {conn : Nat}
    (fits : LookupFits signatures state (.start conn : Lookup Endpoint)) :
    KeyFits state (.keyed conn (state.endpointKey conn)) := by
  cases keyed : state.endpointKey conn with
  | none => trivial
  | some key =>
    obtain ⟨connection, found, verified⟩ := id fits
    have place : connection.endpoint = key := by
      rw [endpointKey, found, Option.bind_some] at keyed
      split at keyed
      · exact Option.some_inj.mp keyed
      · cases keyed
    refine ⟨⟨connection, found, place⟩, fun identity remembered => ?_, fun other taken => ?_⟩
    · exact Nat.le_of_eq (own_entry invariant fits keyed remembered).symm
    · by_contra older
      exact invariant.closed other conn connection (Nat.not_le.mp older) found (place ▸ taken)

theorem ownKeyFits_start (invariant : Invariant signatures state) {conn : Nat}
    (fits : LookupFits signatures state (.start conn : Lookup Endpoint)) :
    OwnKeyFits signatures state (.keyed conn (state.endpointKey conn)) := by
  cases keyed : state.endpointKey conn with
  | none => trivial
  | some key =>
    intro identity remembered
    have belongs := (invariant.remembered key identity remembered).2
    rwa [own_entry invariant fits keyed remembered] at belongs

/-- An entry that is not older than the connection belongs to it while the endpoint is
kept. -/
theorem belongs_of_endpointKept (invariant : Invariant signatures state) {conn : Nat}
    {key : Endpoint} (fits : KeyFits state (.keyed conn (some key)))
    (kept : EndpointKept signatures state conn key) {identity : ResolvedClientIdentity}
    (remembered : state.identities key = some identity) :
    Belongs signatures state identity conn := by
  obtain ⟨⟨older, at_older, place⟩, client, member, uuid, cert, peer, stored⟩ :=
    invariant.remembered key identity remembered
  have same : SamePeer signatures state (state.rememberedFor key) conn := by
    rcases Nat.lt_or_eq_of_le (fits.2.1 identity remembered) with newer | equal
    · exact kept _ older newer at_older place
    · rw [← equal]
      exact rfl
  rw [SamePeer, peer, Option.map_some] at same
  obtain ⟨own, own_peer, signature⟩ := Option.map_eq_some_iff.mp same.symm
  exact ⟨client, member, uuid, own, own_peer, by rw [stored, signature]⟩

/-- A remembered identity names the one client of its identifier. -/
theorem attributed_remembered (invariant : Invariant signatures state) {conn : Nat}
    {identity : ResolvedClientIdentity} (belongs : Belongs signatures state identity conn)
    {client : NamedCert}
    (found : (state.clients.find? fun client => client.uuid = identity.uuid) = some client) :
    Attributed signatures state ⟨conn, state.clients, some client⟩ := by
  intro named same
  cases same
  have stored_client := List.mem_of_find?_eq_some found
  have uuid := List.find?_some found
  simp only [decide_eq_true_eq] at uuid
  obtain ⟨owner, member, owner_uuid, cert, peer, stored⟩ := belongs
  have unique : client = owner := List.inj_on_of_nodup_map invariant.distinct
    (invariant.issued client stored_client) member (uuid.trans owner_uuid.symm)
  exact ⟨stored_client, cert, peer, unique ▸ stored⟩

variable [DecidableEq Signature]

/-- The fallback is right exactly when the latest handshake fits. -/
theorem attributed_latest_iff {conn : Nat} :
    Attributed signatures state ⟨conn, state.clients,
      state.peerCertificate.bind (state.withSignature signatures)⟩ ↔
      LatestHandshakeFits signatures state conn := by
  constructor
  · rintro attributed cert latest ⟨known, known_member, known_stored⟩
    have some_client : (state.withSignature signatures cert).isSome :=
      List.find?_isSome.mpr ⟨known, known_member, decide_eq_true known_stored⟩
    obtain ⟨client, found⟩ := Option.isSome_iff_exists.mp some_client
    have stored := List.find?_some found
    simp only [decide_eq_true_eq] at stored
    obtain ⟨-, own, peer, own_stored⟩ := attributed client (by
      simp only [latest, Option.bind_some]
      exact found)
    rw [peer, Option.map_some, ← own_stored, stored]
  · intro fits client named
    obtain ⟨cert, latest, found⟩ := Option.bind_eq_some_iff.mp named
    have member := List.mem_of_find?_eq_some found
    have stored := List.find?_some found
    simp only [decide_eq_true_eq] at stored
    obtain ⟨own, peer, signature⟩ :=
      Option.map_eq_some_iff.mp (fits cert latest ⟨client, member, stored⟩)
    exact ⟨member, own, peer, by rw [stored, signature]⟩

theorem lookupStep_fits (invariant : Invariant signatures state) {peerCertificate : Option Cert}
    {lookup : Lookup Endpoint} (fits : LookupFits signatures state lookup)
    (entry : ∀ conn key identity, lookup = .keyed conn (some key) →
      state.identities key = some identity → Belongs signatures state identity conn)
    (latest : ∀ conn, lookup = .unknown conn → Attributed signatures state
      ⟨conn, state.clients, peerCertificate.bind (state.withSignature signatures)⟩) :
    LookupFits signatures state (state.lookupStep signatures peerCertificate lookup).1 ∧
      KeyFits state (state.lookupStep signatures peerCertificate lookup).1 ∧
      OwnKeyFits signatures state (state.lookupStep signatures peerCertificate lookup).1 ∧
      ∀ answer ∈ (state.lookupStep signatures peerCertificate lookup).2,
        Attributed signatures state answer := by
  cases lookup with
  | start conn =>
    exact ⟨trivial, keyFits_start invariant fits, ownKeyFits_start invariant fits,
      List.forall_mem_nil _⟩
  | keyed conn key =>
    refine ⟨?_, trivial, trivial, List.forall_mem_nil _⟩
    cases key with
    | none => trivial
    | some key =>
      cases remembered : state.identities key with
      | none => simp only [lookupStep, Option.bind_some, remembered, LookupFits]
      | some identity =>
        simp only [lookupStep, Option.bind_some, remembered]
        exact entry conn key identity rfl remembered
  | remembered conn identity =>
    cases identity with
    | none => exact ⟨trivial, trivial, trivial, List.forall_mem_nil _⟩
    | some identity =>
      simp only [lookupStep]
      split
      next => exact ⟨trivial, trivial, trivial, List.forall_mem_nil _⟩
      next client found =>
        refine ⟨trivial, trivial, trivial, fun answer member => ?_⟩
        rw [List.mem_singleton.mp member]
        exact attributed_remembered invariant fits found
  | unknown conn =>
    refine ⟨trivial, trivial, trivial, fun answer member => ?_⟩
    rw [List.mem_singleton.mp member]
    exact latest conn rfl
  | answered => exact ⟨trivial, trivial, trivial, List.forall_mem_nil _⟩

/-! ## One step -/

variable [DecidableEq Endpoint]

omit [DecidableEq Signature] in
/-- Forgetting an identity, and what the thread does next. -/
theorem Invariant.of_forget (invariant : Invariant signatures state) {conn : Nat}
    {connection : Connection Endpoint Cert} (found : state.connections conn = some connection) :
    Invariant signatures
      { state.forget (state.endpointKey conn) with
        peerCertificate := none
        https := .forgot conn } := by
  let after : State Endpoint Cert := { state.forget (state.endpointKey conn) with
    peerCertificate := none
    https := .forgot conn }
  have ext : Extends state after := .of_connections (fun _ member => member) rfl
  have kept (key : Endpoint) (identity : ResolvedClientIdentity)
      (remembered : after.identities key = some identity) :
      state.identities key = some identity := by
    simp only [after, forget] at remembered
    split at remembered
    · cases remembered
    · exact remembered
  refine {
    accepted := invariant.accepted
    issued := invariant.issued
    distinct := invariant.distinct
    remembered := ?_
    fresh := ?_
    closed := invariant.closed
    https := ⟨⟨connection, found⟩, fun key keyed => if_pos keyed⟩
    pool := ?_
    answers := fun answer member => (invariant.answers answer member).mono ext }
  · intro key identity remembered
    obtain ⟨place, belongs⟩ := invariant.remembered key identity (kept key identity remembered)
    exact ⟨place, belongs.mono ext⟩
  · intro other key identity connection keyed at_other verified remembered
    exact invariant.fresh other key identity connection keyed at_other verified
      (kept key identity remembered)
  · intro task lookup taken
    obtain ⟨fits, keyed⟩ := invariant.pool task lookup taken
    exact ⟨fits.mono ext, KeyFits.mono ext invariant.accepted kept rfl keyed⟩

theorem invariant_pair (invariant : Invariant signatures state) (client : NamedCert) :
    Invariant signatures (state.step signatures (.pair client)) := by
  simp only [step]
  split
  next unused =>
    have grows : ∀ old ∈ state.issued, old ∈ state.issued ++ [client] :=
      fun old member => List.mem_append_left _ member
    have ext : Extends state { state with
        clients := state.clients ++ [client], issued := state.issued ++ [client] } :=
      .of_connections grows rfl
    refine invariant.of_same ?_ grows ?_ rfl rfl rfl rfl ?_ ?_ ?_
    · intro known member
      rcases List.mem_append.mp member with member | member
      · exact grows known (invariant.issued known member)
      · exact List.mem_append_right _ member
    · rw [List.map_append, List.nodup_append]
      refine ⟨invariant.distinct, by simp, ?_⟩
      intro uuid old other new
      obtain ⟨known, member, rfl⟩ := List.mem_map.mp old
      have different := List.all_eq_true.mp unused known member
      simp only [List.map_cons, List.map_nil, List.mem_singleton] at new
      subst new
      simpa using different
    · exact HttpsFits.mono ext rfl (fun _ _ => id) invariant.https
    · intro task lookup found
      obtain ⟨fits, keyed⟩ := invariant.pool task lookup found
      exact ⟨fits.mono ext, KeyFits.mono ext invariant.accepted (fun _ _ => id) rfl keyed⟩
    · exact fun answer member => (invariant.answers answer member).mono ext
  next => exact invariant

theorem invariant_unpair (invariant : Invariant signatures state) (uuid : String) :
    Invariant signatures (state.step signatures (.unpair uuid)) := by
  have ext : Extends state (state.step signatures (.unpair uuid)) :=
    .of_connections (fun _ member => member) rfl
  refine invariant.of_same ?_ (fun _ member => member) invariant.distinct rfl rfl rfl rfl ?_ ?_ ?_
  · intro client member
    exact invariant.issued client (List.mem_of_mem_filter member)
  · exact HttpsFits.mono ext rfl (fun _ _ => id) invariant.https
  · intro task lookup found
    obtain ⟨fits, keyed⟩ := invariant.pool task lookup found
    exact ⟨fits.mono ext, KeyFits.mono ext invariant.accepted (fun _ _ => id) rfl keyed⟩
  · exact fun answer member => (invariant.answers answer member).mono ext

theorem invariant_close (invariant : Invariant signatures state) (conn : Nat) :
    Invariant signatures (state.step signatures (.close conn)) := by
  simp only [step]
  split
  next => exact invariant
  next connection found =>
    let after := { state with
      connections := Function.update state.connections conn
        (some { connection with isOpen := false }) }
    have at_other {other : Nat} (different : other ≠ conn) :
        after.connections other = state.connections other :=
      Function.update_of_ne different _ _
    have at_conn : after.connections conn = some { connection with isOpen := false } :=
      Function.update_self _ _ _
    have key_other {other : Nat} (different : other ≠ conn) :
        after.endpointKey other = state.endpointKey other := by
      rw [endpointKey, endpointKey, at_other different]
    have key_conn : after.endpointKey conn = none := by
      rw [endpointKey, at_conn]
      rfl
    have keys {other : Nat} {key : Endpoint} (keyed : after.endpointKey other = some key) :
        other ≠ conn ∧ state.endpointKey other = some key := by
      by_cases same : other = conn
      · rw [same, key_conn] at keyed
        cases keyed
      · exact ⟨same, (key_other same).symm.trans keyed⟩
    have ext : Extends state after := {
      issued := fun _ member => member
      connections := by
        intro other older at_old
        by_cases same : other = conn
        · subst same
          cases found.symm.trans at_old
          exact ⟨_, at_conn, rfl, rfl, id⟩
        · exact ⟨older, (at_other same).trans at_old, rfl, rfl, id⟩
      keys := fun other key _ keyed => (keys keyed).2 }
    refine {
      accepted := ?_
      issued := invariant.issued
      distinct := invariant.distinct
      remembered := ?_
      fresh := ?_
      closed := ?_
      https := HttpsFits.mono ext rfl (fun _ _ => id) invariant.https
      pool := ?_
      answers := fun answer member => (invariant.answers answer member).mono ext }
    · exact invariant.accepted_update found
    · exact fun key identity => invariant.remembered_mono ext
    · intro other key identity older keyed at_old verified remembered
      obtain ⟨different, keyed⟩ := keys keyed
      exact invariant.fresh other key identity older keyed
        ((at_other different).symm.trans at_old) verified remembered
    · intro other later younger before at_later keyed
      have keyed_before := (keys keyed).2
      by_cases same : later = conn
      · subst same
        cases at_conn.symm.trans at_later
        exact invariant.closed other later connection before found keyed_before
      · exact invariant.closed other later younger before ((at_other same).symm.trans at_later)
          keyed_before
    · intro task lookup taken
      obtain ⟨fits, keyed⟩ := invariant.pool task lookup taken
      exact ⟨fits.mono ext, KeyFits.mono ext invariant.accepted (fun _ _ => id) rfl keyed⟩

theorem invariant_connect (invariant : Invariant signatures state) (endpoint : Endpoint)
    (peer : Option Cert) : Invariant signatures (state.step signatures (.connect endpoint peer)) := by
  simp only [step]
  split
  next free =>
    let added : Connection Endpoint Cert := ⟨endpoint, peer, true, false⟩
    let after := { state with
      accepted := state.accepted + 1
      connections := Function.update state.connections state.accepted (some added) }
    have at_other {other : Nat} (different : other ≠ state.accepted) :
        after.connections other = state.connections other :=
      Function.update_of_ne different _ _
    have at_new : after.connections state.accepted = some added := Function.update_self _ _ _
    have key_other {other : Nat} (different : other ≠ state.accepted) :
        after.endpointKey other = state.endpointKey other := by
      rw [endpointKey, endpointKey, at_other different]
    have older {other : Nat} {connection : Connection Endpoint Cert}
        (found : state.connections other = some connection) : other < state.accepted := by
      have present := invariant.accepted other
      rw [found] at present
      exact Nat.not_le.mp (present.not.mp nofun)
    have ext : Extends state after := {
      issued := fun _ member => member
      connections := fun other connection found =>
        ⟨connection, (at_other (Nat.ne_of_lt (older found))).trans found, rfl, rfl, id⟩
      keys := by
        intro other key known keyed
        obtain ⟨connection, found⟩ := Option.ne_none_iff_exists'.mp known
        exact (key_other (Nat.ne_of_lt (older found))).symm.trans keyed }
    refine {
      accepted := ?_
      issued := invariant.issued
      distinct := invariant.distinct
      remembered := ?_
      fresh := ?_
      closed := ?_
      https := HttpsFits.mono ext rfl (fun _ _ => id) invariant.https
      pool := ?_
      answers := fun answer member => (invariant.answers answer member).mono ext }
    · intro other
      show after.connections other = none ↔ state.accepted + 1 ≤ other
      by_cases same : other = state.accepted
      · rw [same, at_new]
        exact iff_of_false nofun (by omega)
      · rw [at_other same, invariant.accepted other]
        omega
    · exact fun key identity => invariant.remembered_mono ext
    · intro other key identity connection keyed found verified remembered
      by_cases same : other = state.accepted
      · subst same
        cases at_new.symm.trans found
        cases verified
      · exact invariant.fresh other key identity connection ((key_other same).symm.trans keyed)
          ((at_other same).symm.trans found) verified remembered
    · intro other later connection before found keyed
      by_cases same : later = state.accepted
      · subst same
        cases at_new.symm.trans found
        have unused := List.all_eq_true.mp free other (List.mem_range.mpr before)
        have taken := (key_other (Nat.ne_of_lt before)).symm.trans keyed
        simp only [decide_eq_true_eq] at unused
        exact unused taken
      · have found := (at_other same).symm.trans found
        have different : other ≠ state.accepted := by
          have := older found
          omega
        exact invariant.closed other later connection before found
          ((key_other different).symm.trans keyed)
    · intro task lookup taken
      obtain ⟨fits, keyed⟩ := invariant.pool task lookup taken
      exact ⟨fits.mono ext, KeyFits.mono ext invariant.accepted (fun _ _ => id) rfl keyed⟩
  next => exact invariant

theorem invariant_verify (invariant : Invariant signatures state) (conn : Nat) :
    Invariant signatures (state.step signatures (.verify conn)) := by
  simp only [step]
  split
  next connection idle found =>
    split
    next => exact invariant
    next => exact invariant.of_forget found
  next => exact invariant

theorem invariant_resolve (invariant : Invariant signatures state) (verified : Bool) :
    Invariant signatures (state.step signatures (.resolve verified)) := by
  simp only [step]
  split
  next conn forgot =>
    have thread := invariant.https
    rw [HttpsFits, forgot] at thread
    split
    next => exact invariant.of_https trivial
    next cert peer =>
      split
      next =>
        refine invariant.of_https ⟨thread.1, thread.2, fun identity resolved => ?_⟩
        obtain ⟨client, found, rfl⟩ := Option.map_eq_some_iff.mp resolved
        have stored := List.find?_some found
        simp only [decide_eq_true_eq] at stored
        exact ⟨client, invariant.issued client (List.mem_of_find?_eq_some found), rfl, cert, peer,
          stored⟩
      next => exact invariant.of_https trivial
  next => exact invariant

theorem invariant_remember (invariant : Invariant signatures state) :
    Invariant signatures (state.step signatures .remember) := by
  simp only [step]
  split
  next conn identity resolved =>
    have thread := invariant.https
    rw [HttpsFits, resolved] at thread
    obtain ⟨-, empty, belongs⟩ := thread
    split
    next => exact invariant
    next connection found =>
      have old {key : Endpoint} {known : ResolvedClientIdentity}
          (remembered : state.identities key = some known) :
          state.endpointKey conn ≠ some key := by
        intro keyed
        rw [empty key keyed] at remembered
        cases remembered
      cases identity with
      | none =>
        exact invariant.of_remember found fun key known remembered =>
          .inl ⟨remembered, rfl, old remembered⟩
      | some identity =>
        by_cases blank : identity.uuid = ""
        · simp only [rememberIdentity, blank, if_true]
          exact invariant.of_remember found fun key known remembered =>
            .inl ⟨remembered, rfl, old remembered⟩
        · simp only [rememberIdentity, blank, if_false]
          refine invariant.of_remember found fun key known remembered => ?_
          by_cases keyed : state.endpointKey conn = some key
          · rw [if_pos keyed] at remembered
            cases remembered
            exact .inr ⟨keyed, if_pos keyed, belongs identity rfl⟩
          · rw [if_neg keyed] at remembered
            exact .inl ⟨remembered, if_neg keyed, keyed⟩
  next => exact invariant

theorem invariant_request (invariant : Invariant signatures state) (conn : Nat) :
    Invariant signatures (state.step signatures (.request conn)) := by
  simp only [step]
  split
  next =>
    split
    next readable => exact invariant.of_https ⟨verified_of_readable readable, trivial⟩
    next => exact invariant
  next => exact invariant

theorem invariant_requestOnPool (invariant : Invariant signatures state) (task conn : Nat) :
    Invariant signatures (state.step signatures (.requestOnPool task conn)) := by
  simp only [step]
  split
  next =>
    split
    next readable =>
      refine { invariant with pool := fun other lookup taken => ?_ }
      by_cases same : other = task
      · subst same
        simp only [Function.update_self, Option.some_inj] at taken
        subst taken
        exact ⟨verified_of_readable readable, trivial⟩
      · simp only [Function.update_of_ne same] at taken
        exact invariant.pool other lookup taken
    next => exact invariant
  next => exact invariant

theorem invariant_advance (invariant : Invariant signatures state)
    (condition : Fits signatures .advance state) :
    Invariant signatures (state.step signatures .advance) := by
  simp only [step]
  split
  next => exact invariant.of_https trivial
  next lookup different serving =>
    have thread := invariant.https
    rw [HttpsFits, serving] at thread
    obtain ⟨fits, keyed, own, answers⟩ := lookupStep_fits invariant thread.1
      (fun conn key identity same => by
        subst same
        exact thread.2 identity)
      (fun conn same => by
        subst same
        rw [Fits, serving] at condition
        exact attributed_latest_iff.mpr condition)
    refine { invariant with https := ⟨fits, own⟩, answers := fun answer member => ?_ }
    rcases List.mem_append.mp member with member | member
    · exact invariant.answers answer member
    · exact answers answer member
  next => exact invariant

theorem invariant_advanceOnPool (invariant : Invariant signatures state) (task : Nat)
    (condition : Fits signatures (.advanceOnPool task) state) :
    Invariant signatures (state.step signatures (.advanceOnPool task)) := by
  simp only [step]
  split
  next => exact invariant
  next lookup running =>
    obtain ⟨before, keyed_before⟩ := invariant.pool task lookup running
    -- A pool thread has no certificate of a handshake to fall back to.
    have nobody (conn : Nat) (_ : lookup = .unknown conn) : Attributed signatures state
        ⟨conn, state.clients, (none : Option Cert).bind (state.withSignature signatures)⟩ :=
      nofun
    obtain ⟨fits, keyed, -, answers⟩ := lookupStep_fits invariant before
      (fun conn key identity same remembered => by
        subst same
        rw [Fits, running] at condition
        exact belongs_of_endpointKept invariant keyed_before condition remembered) nobody
    refine { invariant with
      pool := fun other taken found => ?_
      answers := fun answer member => ?_ }
    · by_cases same : other = task
      · subst same
        simp only [Function.update_self, Option.some_inj] at found
        subst found
        exact ⟨fits, keyed⟩
      · simp only [Function.update_of_ne same] at found
        exact invariant.pool other taken found
    · rcases List.mem_append.mp member with member | member
      · exact invariant.answers answer member
      · exact answers answer member

theorem invariant_step (event : Event Endpoint Cert)
    (condition : Fits signatures event state) (invariant : Invariant signatures state) :
    Invariant signatures (state.step signatures event) := by
  cases event with
  | pair client => exact invariant_pair invariant client
  | unpair uuid => exact invariant_unpair invariant uuid
  | connect endpoint peer => exact invariant_connect invariant endpoint peer
  | close conn => exact invariant_close invariant conn
  | verify conn => exact invariant_verify invariant conn
  | resolve verified => exact invariant_resolve invariant verified
  | remember => exact invariant_remember invariant
  | request conn => exact invariant_request invariant conn
  | requestOnPool task conn => exact invariant_requestOnPool invariant task conn
  | advance => exact invariant_advance invariant condition
  | advanceOnPool task => exact invariant_advanceOnPool invariant task condition

omit [DecidableEq Endpoint] [DecidableEq Signature] in
theorem invariant_initial {clients : List NamedCert}
    (distinct : (clients.map NamedCert.uuid).Nodup) :
    Invariant signatures (initial clients : State Endpoint Cert) where
  accepted conn := iff_of_true rfl (Nat.zero_le conn)
  issued _ member := member
  distinct := distinct
  remembered := nofun
  fresh := nofun
  closed := nofun
  https := trivial
  pool _ _ pending := nomatch pending
  answers := List.forall_mem_nil _

/-- In a run in which every fallback finds the certificate of its own connection and no
endpoint changes hands under a lookup, a request gets nothing or the stored client of the
certificate of its own connection. -/
theorem answers_attributed (signatures : Signatures Cert Signature) (clients : List NamedCert)
    (distinct : (clients.map NamedCert.uuid).Nodup) (events : List (Event Endpoint Cert))
    (meets : Meets (State.step signatures) (Fits signatures) events (initial clients)) :
    ∀ answer ∈ (run (State.step signatures) events (initial clients)).answers,
      Attributed signatures (run (State.step signatures) events (initial clients)) answer :=
  (run_preserves_of_meets (State.step signatures) (Invariant signatures)
    (fun event _ condition invariant => invariant_step event condition invariant) meets
    (invariant_initial distinct)).answers

/-- Certificates are their own signatures. -/
def plainSignatures : Signatures String String where
  signature := id
  stored := some

def namedClient (uuid cert : String) : NamedCert := legacyNamedCert cert uuid

/-- A handshake, and a request that is answered on the HTTPS thread. -/
theorem answers_attributed_handshake :
    Attributed plainSignatures
      (run (State.step plainSignatures)
        [.connect 1 (some "A"), .verify 0, .resolve true, .remember, .request 0, .advance,
          .advance, .advance] (initial [namedClient "a" "A"] : State Nat String))
      ⟨0, [namedClient "a" "A"], some (namedClient "a" "A")⟩ :=
  answers_attributed plainSignatures [namedClient "a" "A"] (by decide)
    [.connect 1 (some "A"), .verify 0, .resolve true, .remember, .request 0, .advance,
      .advance, .advance]
    ⟨trivial, trivial, trivial, trivial, trivial, trivial, trivial, trivial, trivial⟩ _
    List.mem_cons_self

/-- A client is removed while its connection is open; its next request on the HTTPS thread
gets the client whose handshake came last. -/
theorem removed_client_gets_another :
    let state := run (State.step plainSignatures)
      [.connect 1 (some "A"), .verify 0, .resolve true, .remember,
        .connect 2 (some "B"), .verify 1, .resolve true, .remember,
        .unpair "a", .request 0, .advance, .advance, .advance, .advance]
      (initial [namedClient "a" "A", namedClient "b" "B"] : State Nat String)
    state.peer 0 = some "A" ∧
      state.answers.map (fun answer => (answer.conn, answer.client.map NamedCert.uuid)) =
        [(0, some "b")] ∧
      ¬ ∀ answer ∈ state.answers, Attributed plainSignatures state answer := by
  refine ⟨by decide +kernel, by decide +kernel, fun all => ?_⟩
  obtain ⟨-, cert, peer, stored⟩ := all ⟨0, [namedClient "b" "B"], some (namedClient "b" "B")⟩
    List.mem_cons_self (namedClient "b" "B") rfl
  have own : some cert = some "A" := peer.symm
  cases own
  exact absurd stored (by decide)

end State

end UmbraHost.ClientIdentity
