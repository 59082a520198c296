import UmbraHost.Pairing.Handshake

/-! # Who is authorized

A client is handed to `add_authorized_client` at the end of a handshake that was made in
order, on a session that one PIN keyed. -/

namespace UmbraHost.Pairing

open UmbraHost.Tables UmbraHost.Transition

variable {Cert : Type} {primitives : Primitives Cert} {state : State} {uniqueId : Bytes}

/-! ## One PIN, one session -/

/-- A `pin` call keys one session at most. -/
theorem PinKeys.unique (filed : state.Filed) {event : Event} {other : Bytes}
    (keys : PinKeys primitives event state uniqueId) (keys' : PinKeys primitives event state other) :
    uniqueId = other := by
  obtain ⟨⟨pin, name, now, order, rfl⟩, before, after⟩ := keys
  obtain ⟨-, before', after'⟩ := keys'
  obtain ⟨picked, spec⟩ := pin_spec primitives filed pin name now order
  have keyed_picked {id : Bytes} (before : state.keyOf id = none)
      (after : ((step primitives (.pin pin name now order) state).keyOf id).isSome = true) :
      id = picked := by
    by_contra different
    obtain ⟨key, held⟩ := Option.isSome_iff_exists.mp after
    obtain ⟨session, here, cipher⟩ := Option.bind_eq_some_iff.mp held
    rcases spec id session here with old | ⟨same, -⟩
    · rw [State.keyOf, old] at before
      cases before.symm.trans cipher
    · exact different same
  exact (keyed_picked before after).trans (keyed_picked before' after').symm

/-- The call sets a new one-time PIN. -/
def Event.issues : Event → Bool
  | .requestOtp passphrase _ _ _ => 4 ≤ passphrase.length
  | _ => false

theorem keep_oneTimePin (session : PairSession) (left : Option PairSession) :
    (state.keep uniqueId session left).oneTimePin = state.oneTimePin := by
  cases left <;> rfl

theorem openSession_oneTimePin (arguments : GetServerCert) (now : Nat) (draws : Draws) :
    (state.openSession primitives arguments now draws).1.oneTimePin = [] ∨
      (state.openSession primitives arguments now draws).1.oneTimePin = state.oneTimePin := by
  unfold State.openSession
  cases arguments.salt with
  | none => exact .inr (keep_oneTimePin ..)
  | some salt =>
      cases arguments.otpAuth with
      | none => exact .inr (keep_oneTimePin ..)
      | some otpAuth =>
          dsimp only
          split
          · exact .inl rfl
          · cases state.otpAvailable now with
            | true => exact .inr (keep_oneTimePin ..)
            | false => exact .inl (keep_oneTimePin ..)

theorem step_oneTimePin {event : Event} (none : state.oneTimePin = [])
    (kept : event.issues = false) : (step primitives event state).oneTimePin = [] := by
  cases event with
  | pair enablePairing args now draws =>
      simp only [step, State.pair]
      cases Request.ofArgs enablePairing args with
      | refused reply => exact none
      | getServerCert arguments =>
          rcases openSession_oneTimePin arguments now draws with cleared | same
          · exact cleared
          · exact same.trans none
      | clientChallenge id text | serverChallengeResp id text =>
          dsimp only
          split
          · exact none
          · exact (keep_oneTimePin ..).trans none
      | clientPairingSecret id text | invalid id =>
          dsimp only
          split <;> exact none
  | pin pin name now order =>
      simp only [step, State.pin]
      split
      · exact none
      · split
        · exact none
        · split
          · exact none
          · split
            · exact none
            · split
              · exact none
              · split
                · exact (keep_oneTimePin ..).trans none
                · exact none
  | requestOtp passphrase deviceName generated now =>
      have short : passphrase.length < 4 := by simpa [Event.issues] using kept
      simp only [step, State.requestOtp, if_pos short]
      exact none
  | unpair id =>
      simp only [step, State.unpair]
      split <;> exact none

theorem OtpKeys.used {event : Event} (keys : OtpKeys primitives event state) :
    (step primitives event state).oneTimePin = [] := by
  obtain ⟨opening, rfl, salt, otpAuth, salted, asked, hit⟩ := keys
  simp only [Opening.event, step, opening.request, State.pair, State.openSession, salted, asked, hit,
    if_true]
  rfl

theorem OtpKeys.available {event : Event} (keys : OtpKeys primitives event state) :
    state.oneTimePin ≠ [] := by
  obtain ⟨opening, rfl, salt, otpAuth, salted, asked, hit⟩ := keys
  simp only [State.otpMatches, State.otpAvailable, Bool.and_eq_true, decide_eq_true_eq] at hit
  exact hit.1.1

/-- A one-time PIN keys one session: before the next one is keyed so, another is issued. -/
theorem OtpKeys.once {front between : List Event} {first second : Event}
    (keys : OtpKeys primitives first (reached primitives front))
    (keys' : OtpKeys primitives second (reached primitives (front ++ first :: between))) :
    ∃ event ∈ between, event.issues = true := by
  by_contra none
  apply keys'.available
  rw [reached, run_append, run_cons]
  refine run_preserves_of_meets (step primitives) (fun state => state.oneTimePin = [])
    (fun event state kept none => step_oneTimePin none kept)
    (Meets.of_forall (step primitives) (fun event member => ?_) _) keys.used
  exact Bool.eq_false_iff.mpr fun issues => none ⟨event, member, issues⟩

/-! ## The handshake -/

/-- The request that ends a handshake, the one that began it and those between them, and the
key of the session. -/
inductive Handshake (primitives : Primitives Cert) (past : List Event) (event : Event)
    (client : Authorized) : Prop where
  | intro (uniqueId secret : Bytes) (before : List Event) (opening : Opening) (after : List Event)
      (asked : event.request = some (.clientPairingSecret uniqueId secret))
      (split : past = before ++ opening.event :: after)
      (own : opening.arguments.uniqueId = uniqueId)
      (cert : client.cert = fromHexVec opening.arguments.clientCert)
      (phases : Phases uniqueId .serverChallengeResp (after.filter (Event.concerns uniqueId)))
      (session : PairSession)
      (pending : (reached primitives past).sessions.lookup uniqueId = some session)
      (key : Bytes) (cipherKey : session.cipherKey = some key)
      (keyed : Keyed primitives before opening after key)
      (x509 : Cert) (parsed : primitives.x509 client.cert = some x509)
      (clientHash : session.clientHash = primitives.hash (session.serverChallenge ++
        primitives.signature x509 ++ (fromHexVec secret).take 16))
      (verified : primitives.verify256 x509 ((fromHexVec secret).take 16)
        ((fromHexVec secret).drop 16) = true)

theorem clientPairingSecret_eq_some {session : PairSession} {secret : Bytes} {client : Authorized}
    (authorized : (clientPairingSecret primitives session secret).2 = some client) :
    session.lastPhase = .serverChallengeResp ∧ client.cert = session.cert ∧
      ∃ x509, primitives.x509 session.cert = some x509 ∧
        session.clientHash = primitives.hash (session.serverChallenge ++
          primitives.signature x509 ++ secret.take 16) ∧
        primitives.verify256 x509 (secret.take 16) (secret.drop 16) = true := by
  unfold clientPairingSecret at authorized
  by_cases phase : session.lastPhase ≠ .serverChallengeResp
  · simp [phase] at authorized
  · rw [if_neg phase] at authorized
    by_cases short : secret.length ≤ 16
    · simp [short] at authorized
    · rw [if_neg short] at authorized
      cases parsed : primitives.x509 session.cert with
      | none => simp [parsed] at authorized
      | some x509 =>
          simp only [parsed] at authorized
          generalize ClientStore.isPlaceholderClientName (textOf session.name) = placeholder
            at authorized
          generalize authorizedName session.name = name at authorized
          by_cases same : primitives.hash (session.serverChallenge ++ primitives.signature x509 ++
              secret.take 16) = session.clientHash ∧
            primitives.verify256 x509 (secret.take 16) (secret.drop 16) = true
          · rw [if_pos same] at authorized
            cases placeholder with
            | true => cases authorized
            | false =>
                have handed : client = ⟨name, session.cert⟩ := (Option.some.inj authorized).symm
                exact ⟨not_not.mp phase, congrArg Authorized.cert handed, x509, rfl, same.1.symm,
                  same.2⟩
          · rw [if_neg same] at authorized
            cases authorized

theorem authorizes_eq_some {event : Event} {client : Authorized}
    (authorized : authorizes primitives event state = some client) :
    ∃ uniqueId secret session, event.request = some (.clientPairingSecret uniqueId secret) ∧
      state.sessions.lookup uniqueId = some session ∧
      (clientPairingSecret primitives session (fromHexVec secret)).2 = some client := by
  cases event with
  | pair enablePairing args now draws =>
      simp only [authorizes] at authorized
      cases request : Request.ofArgs enablePairing args with
      | clientPairingSecret uniqueId secret =>
          rw [request] at authorized
          cases here : state.sessions.lookup uniqueId with
          | none => simp [State.pair, here] at authorized
          | some session =>
              simp only [State.pair, here] at authorized
              exact ⟨uniqueId, secret, session, by simp [Event.request, request], here, authorized⟩
      | refused reply => simp [request, State.pair] at authorized
      | getServerCert arguments => simp [request, State.pair] at authorized
      | clientChallenge id text | serverChallengeResp id text | invalid id =>
          rw [request] at authorized
          cases here : state.sessions.lookup id <;> simp [State.pair, here] at authorized
  | _ => cases authorized

/-- The handshake behind a client that is authorized. -/
theorem handshake_of_authorizes {past : List Event} {event : Event} {client : Authorized}
    (authorized : authorizes primitives event (reached primitives past) = some client) :
    Handshake primitives past event client := by
  obtain ⟨uniqueId, secret, session, asked, pending, last⟩ := authorizes_eq_some authorized
  obtain ⟨phase, handed, x509, parsed, clientHash, verified⟩ := clientPairingSecret_eq_some last
  obtain ⟨before, opening, after, split, own, -, cert, -, phases, -, keyed⟩ :=
    traced_of_reached past pending
  obtain ⟨key, cipherKey, source⟩ := keyed (by simp [phase])
  rw [phase] at phases
  rw [← handed] at parsed cert
  exact .intro uniqueId secret before opening after asked split own cert phases session pending key
    cipherKey source x509 parsed clientHash verified

theorem filed_of_reached (past : List Event) : (reached primitives past).Filed := by
  intro uniqueId session here
  obtain ⟨_, _, _, _, _, filed, _⟩ := traced_of_reached past here
  exact filed

/-- A client is authorized only at the end of a handshake, and of the `pin` calls and one-time
PINs before it none keyed two sessions. -/
theorem reached_authorizes (primitives : Primitives Cert) (past : List Event) (event : Event)
    (client : Authorized)
    (authorized : authorizes primitives event (reached primitives past) = some client) :
    Handshake primitives past event client ∧
      (∀ front call back uniqueId other, past = front ++ call :: back →
        PinKeys primitives call (reached primitives front) uniqueId →
        PinKeys primitives call (reached primitives front) other → uniqueId = other) ∧
      ∀ front first between second back, past = front ++ first :: between ++ second :: back →
        OtpKeys primitives first (reached primitives front) →
        OtpKeys primitives second (reached primitives (front ++ first :: between)) →
        ∃ request ∈ between, request.issues = true := by
  refine ⟨handshake_of_authorizes authorized, ?_, ?_⟩
  · intro front call back uniqueId other _ keys keys'
    exact keys.unique (filed_of_reached front) keys'
  · intro front first between second back _ keys keys'
    exact keys.once keys'

/-! A phone that pairs with the PIN 1234. -/

/-- The identity for every cipher, and no hashing. -/
def transparent : Primitives Bytes where
  hash := id
  encrypt _ plain := plain
  decrypt _ cipher := cipher
  x509 := some
  signature := id
  verify256 _ secret sign := secret = sign
  serverCert := [1]
  serverSignature := [2]
  sign256 := id

def phoneAsks (phrase : String) (arguments : List (String × String)) : Event :=
  .pair true
    (fun name => (([("uniqueid", "P"), ("phrase", phrase)] ++ arguments).map fun (key, value) =>
      (ascii key, ascii value)).lookup name)
    0 ⟨[], [3], [7]⟩

def zeros : String := "00000000000000000000000000000000"

def phoneHandshake : List Event :=
  [phoneAsks "getservercert" [("devicename", "Phone"), ("clientcert", "AB"), ("salt", zeros)],
    .pin (ascii "1234") [] 1 [],
    phoneAsks "" [("clientchallenge", "00")],
    phoneAsks "" [("serverchallengeresp", "07AB" ++ zeros)]]

theorem reached_authorizes_phone :
    Handshake transparent phoneHandshake (phoneAsks "" [("clientpairingsecret", zeros ++ zeros)])
      ⟨ascii "Phone", [0xAB]⟩ :=
  (reached_authorizes transparent phoneHandshake _ ⟨ascii "Phone", [0xAB]⟩
    (by decide +kernel)).1

end UmbraHost.Pairing
