import UmbraHost.Pairing.Sessions

/-! # What a pending session went through

Every session in the map is traced back to the request that opened it, to the PIN it was
keyed with and to the phases since. -/

namespace UmbraHost.Pairing

open UmbraHost.Tables UmbraHost.Transition

/-- The identifier of the session that a request opens or asks for. -/
def Request.uniqueId : Request → Option Bytes
  | .getServerCert arguments => some arguments.uniqueId
  | .clientChallenge uniqueId _ | .serverChallengeResp uniqueId _
  | .clientPairingSecret uniqueId _ => some uniqueId
  | .refused _ | .invalid _ => none

namespace Event

def request : Event → Option Request
  | .pair enablePairing args _ _ => some (.ofArgs enablePairing args)
  | _ => none

/-- A pair or unpair request for the identifier. -/
def concerns (uniqueId : Bytes) : Event → Bool
  | .pair enablePairing args _ _ => (Request.ofArgs enablePairing args).uniqueId = some uniqueId
  | .unpair id => id = uniqueId && id ≠ []
  | _ => false

end Event

/-- A `getservercert` request that opens a session. -/
structure Opening where
  enablePairing : Bool
  args : Args
  now : Nat
  draws : Draws
  arguments : GetServerCert
  request : Request.ofArgs enablePairing args = .getServerCert arguments

def Opening.event (opening : Opening) : Event :=
  .pair opening.enablePairing opening.args opening.now opening.draws

variable {Cert : Type} (primitives : Primitives Cert)

/-- The state after a list of requests. -/
def reached (past : List Event) : State := run (step primitives) past .initial

theorem reached_concat (past : List Event) (event : Event) :
    reached primitives (past ++ [event]) = step primitives event (reached primitives past) :=
  run_append (step primitives) past [event] .initial

def State.keyOf (state : State) (uniqueId : Bytes) : Option Bytes :=
  (state.sessions.lookup uniqueId).bind PairSession.cipherKey

/-- The `pin` call keys the session. -/
def PinKeys (event : Event) (state : State) (uniqueId : Bytes) : Prop :=
  (∃ pin name now order, event = .pin pin name now order) ∧ state.keyOf uniqueId = none ∧
    ((step primitives event state).keyOf uniqueId).isSome = true

/-- The request has the hash of the one-time PIN, which keys its session. -/
def OtpKeys (event : Event) (state : State) : Prop :=
  ∃ opening : Opening, event = opening.event ∧ ∃ salt otpAuth,
    opening.arguments.salt = some salt ∧ opening.arguments.otpAuth = some otpAuth ∧
      state.otpMatches primitives opening.now salt otpAuth = true

/-- Where the key of a session came from that a request opened. -/
inductive Keyed (before : List Event) (opening : Opening) (after : List Event) (key : Bytes) :
    Prop where
  | pin (first second : List Event) (pin name : Bytes) (now : Nat) (order : List Bytes)
      (split : after = first ++ .pin pin name now order :: second)
      (keys : PinKeys primitives (.pin pin name now order)
        (reached primitives (before ++ opening.event :: first)) opening.arguments.uniqueId)
      (derived : key =
        genAesKey primitives (fromHex16 ((opening.arguments.salt.getD []).take 32)) pin)
  | otp (keys : OtpKeys primitives opening.event (reached primitives before))
      (derived : key =
        genAesKey primitives (fromHex16 ((opening.arguments.salt.getD []).take 32))
          (reached primitives before).oneTimePin)
  | random (asked : opening.arguments.otpAuth.isSome = true)
      (failed : ¬ OtpKeys primitives opening.event (reached primitives before))
      (derived : key =
        genAesKey primitives (fromHex16 ((opening.arguments.salt.getD []).take 32))
          opening.draws.pin)

/-- The requests for a session since it was opened. -/
def Phases (uniqueId : Bytes) : PairPhase → List Event → Prop
  | .none, since | .getServerCert, since => since = []
  | .clientChallenge, since => ∃ challenge text, since = [challenge] ∧
      challenge.request = some (.clientChallenge uniqueId text)
  | .serverChallengeResp, since => ∃ challenge response text text', since = [challenge, response] ∧
      challenge.request = some (.clientChallenge uniqueId text) ∧
      response.request = some (.serverChallengeResp uniqueId text')
  | .clientPairingSecret, _ => False

/-- A session of the map, traced back through the requests so far. -/
def Traced (past : List Event) (uniqueId : Bytes) (session : PairSession) : Prop :=
  ∃ before opening after, past = before ++ Opening.event opening :: after ∧
    opening.arguments.uniqueId = uniqueId ∧ session.uniqueId = uniqueId ∧
    session.cert = fromHexVec opening.arguments.clientCert ∧
    session.salt = opening.arguments.salt.getD [] ∧
    Phases uniqueId session.lastPhase (after.filter (Event.concerns uniqueId)) ∧
    (session.lastPhase = .none → session.cipherKey = none) ∧
    (session.lastPhase ≠ .none → ∃ key, session.cipherKey = some key ∧
      Keyed primitives before opening after key)

/-! ## One step -/

/-- The sessions stand in the map under their identifiers. -/
def State.Filed (state : State) : Prop :=
  ∀ uniqueId session, state.sessions.lookup uniqueId = some session → session.uniqueId = uniqueId

/-- Where a session of the map after a step comes from. -/
inductive Moved (event : Event) (state : State) (uniqueId : Bytes) (next : PairSession) :
    Prop where
  | kept (found : state.sessions.lookup uniqueId = some next)
      (other : event.concerns uniqueId = false)
  | opened (opening : Opening) (here : event = opening.event)
      (own : opening.arguments.uniqueId = uniqueId) (filed : next.uniqueId = uniqueId)
      (cert : next.cert = fromHexVec opening.arguments.clientCert)
      (salt : next.salt = opening.arguments.salt.getD [])
      (phase : next.lastPhase = .none ∧ next.cipherKey = none ∨
        next.lastPhase = .getServerCert ∧ ∃ salt otpAuth, opening.arguments.salt = some salt ∧
          opening.arguments.otpAuth = some otpAuth ∧
          next.cipherKey = some (genAesKey primitives (fromHex16 (salt.take 32))
            (if state.otpMatches primitives opening.now salt otpAuth then state.oneTimePin
            else opening.draws.pin)))
  | pinned (session : PairSession) (found : state.sessions.lookup uniqueId = some session)
      (pin name : Bytes) (now : Nat) (order : List Bytes) (here : event = .pin pin name now order)
      (pending : session.lastPhase = .none)
      (changed : next = { session with
        lastPhase := .getServerCert
        cipherKey := some (genAesKey primitives (fromHex16 (session.salt.take 32)) pin)
        name := next.name, response := next.response })
  | challenged (session : PairSession) (found : state.sessions.lookup uniqueId = some session)
      (text : Bytes) (asked : event.request = some (.clientChallenge uniqueId text))
      (inOrder : session.lastPhase = .getServerCert)
      (changed : next = { session with
        lastPhase := .clientChallenge
        serverSecret := next.serverSecret, serverChallenge := next.serverChallenge })
  | responded (session : PairSession) (found : state.sessions.lookup uniqueId = some session)
      (text : Bytes) (asked : event.request = some (.serverChallengeResp uniqueId text))
      (inOrder : session.lastPhase = .clientChallenge)
      (changed : next = { session with
        lastPhase := .serverChallengeResp, clientHash := next.clientHash })

variable {primitives} {state : State} {uniqueId : Bytes} {session next : PairSession}

theorem getServerCert_eq_some {reply : Reply} {pin : Bytes}
    (keyed : (getServerCert primitives session reply pin).2 = some next) :
    session.lastPhase = .none ∧ next = { session with
      lastPhase := .getServerCert
      cipherKey := some (genAesKey primitives (fromHex16 (session.salt.take 32)) pin) } := by
  unfold getServerCert at keyed
  split_ifs at keyed with phase short
  exact ⟨not_not.mp phase, (Option.some.inj keyed).symm⟩

theorem clientChallenge_eq_some {challenge serverSecret serverChallenge : Bytes}
    (advanced : (clientChallenge primitives session challenge serverSecret serverChallenge).2 =
      some next) :
    session.lastPhase = .getServerCert ∧
      next = { session with lastPhase := .clientChallenge, serverSecret, serverChallenge } := by
  unfold clientChallenge at advanced
  split_ifs at advanced with phase
  cases key : session.cipherKey with
  | none => simp [key] at advanced
  | some key' =>
      simp only [key] at advanced
      exact ⟨not_not.mp phase, (Option.some.inj advanced).symm⟩

theorem serverChallengeResp_eq_some {response : Bytes}
    (advanced : (serverChallengeResp primitives session response).2 = some next) :
    session.lastPhase = .clientChallenge ∧ next = { session with
      lastPhase := .serverChallengeResp, clientHash := next.clientHash } := by
  unfold serverChallengeResp at advanced
  by_cases phase : session.lastPhase ≠ .clientChallenge
  · simp [phase] at advanced
  · rw [if_neg phase] at advanced
    cases key : session.cipherKey with
    | none => simp [key] at advanced
    | some key' =>
      simp only [key] at advanced
      split_ifs at advanced with empty
      exact ⟨not_not.mp phase, by rw [← Option.some.inj advanced]⟩

/-- What `keep` leaves under an identifier. -/
theorem lookup_keep {other : Bytes} {left : Option PairSession}
    (filed : session.uniqueId = other)
    (found : (state.keep other session left).sessions.lookup uniqueId = some next) :
    uniqueId = other ∧ left = some next ∨
      uniqueId ≠ other ∧ state.sessions.lookup uniqueId = some next := by
  cases left with
  | none =>
      rw [State.keep, State.removeSession, filed, lookup_erase_eq_some] at found
      exact .inr found
  | some kept =>
      rw [State.keep, lookup_insert_eq_some] at found
      exact found.imp_left fun ⟨same, value⟩ => ⟨same, congrArg some value.symm⟩

theorem newestPending_spec {sessions : Table Bytes PairSession} {order : List Bytes}
    {newest : Option (Bytes × PairSession)} {found : Bytes × PairSession}
    (old : ∀ candidate, newest = some candidate →
      sessions.lookup candidate.1 = some candidate.2 ∧ candidate.2.lastPhase = .none)
    (result : State.newestPending sessions order newest = some found) :
    sessions.lookup found.1 = some found.2 ∧ found.2.lastPhase = .none := by
  induction order generalizing newest with
  | nil => exact old found result
  | cons uniqueId rest ih =>
      unfold State.newestPending at result
      cases here : sessions.lookup uniqueId with
      | none =>
          simp only [here] at result
          exact ih old result
      | some session =>
          simp only [here] at result
          by_cases keyed : session.lastPhase ≠ .none
          · rw [if_pos keyed] at result
            exact ih old result
          · rw [if_neg keyed] at result
            have pending := not_not.mp keyed
            cases newest with
            | none =>
                refine ih ?_ result
                rintro candidate same
                cases same
                exact ⟨here, pending⟩
            | some candidate =>
                refine ih ?_ result
                intro chosen same
                split at same
                · cases same
                  exact ⟨here, pending⟩
                · exact old chosen same

theorem moved_openSession (opening : Opening)
    (found : (state.openSession primitives opening.arguments opening.now
      opening.draws).1.sessions.lookup uniqueId = some next) :
    Moved primitives opening.event state uniqueId next := by
  have concerned (different : uniqueId ≠ opening.arguments.uniqueId) :
      opening.event.concerns uniqueId = false := by
    simp [Opening.event, Event.concerns, opening.request, Request.uniqueId, Ne.symm different]
  have own : (State.opened opening.arguments opening.now).uniqueId = opening.arguments.uniqueId :=
    rfl
  unfold State.openSession at found
  cases salt : opening.arguments.salt with
  | none =>
      simp only [salt] at found
      rcases lookup_keep own found with ⟨rfl, same⟩ | ⟨different, old⟩
      · cases same
        exact .opened opening rfl rfl rfl rfl rfl (.inl ⟨rfl, rfl⟩)
      · exact .kept old (concerned different)
  | some salted =>
      cases otpAuth : opening.arguments.otpAuth with
      | none =>
          simp only [salt, otpAuth] at found
          rcases lookup_keep own found with ⟨rfl, same⟩ | ⟨different, old⟩
          · cases same
            exact .opened opening rfl rfl rfl rfl rfl (.inl ⟨rfl, rfl⟩)
          · exact .kept old (concerned different)
      | some hashed =>
          simp only [salt, otpAuth] at found
          by_cases hit : state.otpMatches primitives opening.now salted hashed = true
          · rw [if_pos hit] at found
            let session := State.opened opening.arguments opening.now
            let named := if state.otpDeviceName = [] then session
              else { session with name := state.otpDeviceName }
            have filed' : named.uniqueId = opening.arguments.uniqueId := by
              simp only [named]
              split <;> rfl
            have cert : named.cert = fromHexVec opening.arguments.clientCert := by
              simp only [named]
              split <;> rfl
            have salt' : named.salt = opening.arguments.salt.getD [] := by
              simp only [named]
              split <;> rfl
            have kept : (state.keep opening.arguments.uniqueId named (getServerCert primitives named
                .empty state.oneTimePin).2).sessions.lookup uniqueId = some next := found
            rcases lookup_keep filed' kept with ⟨rfl, keyed⟩ | ⟨different, old⟩
            · obtain ⟨-, rfl⟩ := getServerCert_eq_some keyed
              refine .opened opening rfl rfl filed' cert salt' (.inr ⟨rfl, salted, hashed, salt,
                otpAuth, ?_⟩)
              rw [if_pos hit, salt', salt]
              rfl
            · exact .kept old (concerned different)
          · rw [if_neg hit] at found
            let session := State.opened opening.arguments opening.now
            let cleared := if state.otpAvailable opening.now then state else state.clearOtp
            let reply := if state.otpAvailable opening.now then Reply.empty
              else .error 503 "OTP auth not available."
            have sessions : cleared.sessions = state.sessions := by
              simp only [cleared]
              split <;> rfl
            have kept : (cleared.keep opening.arguments.uniqueId session (getServerCert primitives
                session reply opening.draws.pin).2).sessions.lookup uniqueId = some next := found
            rcases lookup_keep own kept with ⟨rfl, keyed⟩ | ⟨different, old⟩
            · obtain ⟨-, rfl⟩ := getServerCert_eq_some keyed
              refine .opened opening rfl rfl rfl rfl rfl (.inr ⟨rfl, salted, hashed, salt,
                otpAuth, ?_⟩)
              rw [if_neg hit]
              simp only [session, State.opened, salt, Option.getD_some]
            · exact .kept (sessions ▸ old) (concerned different)

variable (primitives) in
/-- `pin` keys the session that it picks, and drops sessions otherwise. -/
theorem pin_spec (filed : state.Filed) (pin name : Bytes) (now : Nat) (order : List Bytes) :
    ∃ picked, ∀ uniqueId next,
      (state.pin primitives pin name now order).1.sessions.lookup uniqueId = some next →
      state.sessions.lookup uniqueId = some next ∨
        uniqueId = picked ∧ ∃ session, state.sessions.lookup uniqueId = some session ∧
          session.lastPhase = .none ∧ next = { session with
            lastPhase := .getServerCert
            cipherKey := some (genAesKey primitives (fromHex16 (session.salt.take 32)) pin)
            name := next.name, response := next.response } := by
  unfold State.pin
  split
  · exact ⟨[], fun _ _ found => .inl found⟩
  · split
    · exact ⟨[], fun _ _ found => .inl found⟩
    · split
      · exact ⟨[], fun _ _ found => .inl found⟩
      · let sessions := eraseIf (fun _ session => session.lastPhase = .none &&
          pairingSessionExpiry < now - session.createdAt) state.sessions
        have dropped : ∀ id session, sessions.lookup id = some session →
            state.sessions.lookup id = some session :=
          fun id session here => (lookup_eraseIf_eq_some.mp here).1
        cases newest : State.newestPending sessions (order ++ sessions.keys) none with
        | none =>
            simp only [sessions] at newest
            simp only [newest]
            exact ⟨[], fun id next found => .inl (dropped id next found)⟩
        | some picked =>
            obtain ⟨id, session⟩ := picked
            obtain ⟨here, pending⟩ := newestPending_spec (fun _ same => by cases same) newest
            have own := filed id session (dropped id session here)
            simp only [sessions] at newest
            simp only [newest]
            refine ⟨id, fun uniqueId next found => ?_⟩
            split at found
            · exact .inl (dropped _ _ (lookup_erase_eq_some.mp found).2)
            · split at found
              · rcases lookup_keep own found with ⟨rfl, keyed⟩ | ⟨different, old⟩
                · obtain ⟨answered, called, rfl⟩ := Option.map_eq_some_iff.mp keyed
                  obtain ⟨reply, key, rfl⟩ := Option.map_eq_some_iff.mp called
                  obtain ⟨-, rfl⟩ := getServerCert_eq_some key
                  exact .inr ⟨rfl, session, dropped _ _ here, pending, rfl⟩
                · exact .inl (dropped _ _ old)
              · exact .inl (dropped _ _ (lookup_erase_eq_some.mp found).2)

theorem step_moved {event : Event} (filed : state.Filed)
    (found : (step primitives event state).sessions.lookup uniqueId = some next) :
    Moved primitives event state uniqueId next := by
  cases event with
  | pair enablePairing args now draws =>
      have elsewhere {request : Request} (parsed : Request.ofArgs enablePairing args = request)
          (other : request.uniqueId ≠ some uniqueId)
          (old : state.sessions.lookup uniqueId = some next) :
          Moved primitives (.pair enablePairing args now draws) state uniqueId next :=
        .kept old (by simp [Event.concerns, parsed, other])
      have missing {id : Bytes} {request : Request}
          (parsed : Request.ofArgs enablePairing args = request)
          (asks : request.uniqueId = some id) (none : state.sessions.lookup id = none)
          (old : state.sessions.lookup uniqueId = some next) :
          Moved primitives (.pair enablePairing args now draws) state uniqueId next := by
        refine elsewhere parsed ?_ old
        rw [asks]
        rintro same
        cases same
        cases none.symm.trans old
      cases request : Request.ofArgs enablePairing args with
      | refused reply =>
          simp only [step, State.pair, request] at found
          exact elsewhere request nofun found
      | invalid id =>
          have same : (state.pair primitives (.invalid id) now draws).1 = state := by
            simp only [State.pair]
            split <;> rfl
          simp only [step, request, same] at found
          exact elsewhere request nofun found
      | getServerCert arguments =>
          simp only [step, State.pair, request] at found
          exact moved_openSession ⟨enablePairing, args, now, draws, arguments, request⟩ found
      | clientChallenge id challenge =>
          simp only [step, State.pair, request] at found
          cases here : state.sessions.lookup id with
          | none =>
              simp only [here] at found
              exact missing request rfl here found
          | some session =>
              simp only [here] at found
              rcases lookup_keep (filed id session here) found with ⟨rfl, advanced⟩ | ⟨other, old⟩
              · obtain ⟨inOrder, changed⟩ := clientChallenge_eq_some advanced
                refine .challenged session here challenge (by simp [Event.request, request]) inOrder ?_
                rw [changed]
              · exact elsewhere request (fun same => other (Option.some.inj same).symm) old
      | serverChallengeResp id response =>
          simp only [step, State.pair, request] at found
          cases here : state.sessions.lookup id with
          | none =>
              simp only [here] at found
              exact missing request rfl here found
          | some session =>
              simp only [here] at found
              rcases lookup_keep (filed id session here) found with ⟨rfl, advanced⟩ | ⟨other, old⟩
              · obtain ⟨inOrder, changed⟩ := serverChallengeResp_eq_some advanced
                exact .responded session here response (by simp [Event.request, request]) inOrder
                  changed
              · exact elsewhere request (fun same => other (Option.some.inj same).symm) old
      | clientPairingSecret id secret =>
          simp only [step, State.pair, request] at found
          cases here : state.sessions.lookup id with
          | none =>
              simp only [here] at found
              exact missing request rfl here found
          | some session =>
              simp only [here, State.removeSession, filed id session here] at found
              obtain ⟨other, old⟩ := lookup_erase_eq_some.mp found
              exact elsewhere request (fun same => other (Option.some.inj same).symm) old
  | pin pin name now order =>
      obtain ⟨picked, spec⟩ := pin_spec primitives filed pin name now order
      rcases spec uniqueId next found with old | ⟨-, session, here, pending, changed⟩
      · exact .kept old rfl
      · exact .pinned session here pin name now order rfl pending changed
  | requestOtp passphrase deviceName generated now =>
      have same : (state.requestOtp passphrase deviceName generated now).sessions =
          state.sessions := by
        unfold State.requestOtp
        split <;> rfl
      simp only [step, same] at found
      exact .kept found rfl
  | unpair id =>
      simp only [step, State.unpair] at found
      split at found
      case isTrue none =>
        exact .kept found (by simp [Event.concerns, none])
      case isFalse =>
        obtain ⟨different, old⟩ := lookup_erase_eq_some.mp found
        exact .kept old (by simp [Event.concerns, Ne.symm different])

/-! ## Runs -/

theorem Event.concerns_of_request {event : Event} {request : Request}
    (asked : event.request = some request) (own : request.uniqueId = some uniqueId) :
    event.concerns uniqueId = true := by
  cases event with
  | pair enablePairing args now draws =>
      cases Option.some.inj asked
      simpa [Event.concerns] using own
  | _ => cases asked

theorem Keyed.concat {before after : List Event} {opening : Opening} {key : Bytes}
    (keyed : Keyed primitives before opening after key) (event : Event) :
    Keyed primitives before opening (after ++ [event]) key := by
  cases keyed with
  | pin first second pin name now order split keys derived =>
      exact .pin first (second ++ [event]) pin name now order (by simp [split]) keys derived
  | otp keys derived => exact .otp keys derived
  | random asked failed derived => exact .random asked failed derived

/-- The key that a request with `otpauth` gives its session. -/
theorem Keyed.of_otpAuth {past : List Event} {opening : Opening} {salt otpAuth : Bytes}
    (salted : opening.arguments.salt = some salt) (asked : opening.arguments.otpAuth = some otpAuth) :
    Keyed primitives past opening [] (genAesKey primitives (fromHex16 (salt.take 32))
      (if (reached primitives past).otpMatches primitives opening.now salt otpAuth then
        (reached primitives past).oneTimePin
      else opening.draws.pin)) := by
  have salt' : opening.arguments.salt.getD [] = salt := by rw [salted, Option.getD_some]
  by_cases hit : (reached primitives past).otpMatches primitives opening.now salt otpAuth = true
  · rw [if_pos hit]
    exact .otp ⟨opening, rfl, salt, otpAuth, salted, asked, hit⟩ (by rw [salt'])
  · rw [if_neg hit]
    refine .random (by simp [asked]) ?_ (by rw [salt'])
    rintro ⟨other, same, salt'', otpAuth', salted', asked', hit'⟩
    have parsed := other.request
    obtain ⟨enabled, args, now, draws⟩ := Event.pair.inj same
    rw [← enabled, ← args, opening.request] at parsed
    have arguments := Request.getServerCert.inj parsed
    rw [← arguments, salted] at salted'
    rw [← arguments, asked] at asked'
    cases salted'
    cases asked'
    rw [← now] at hit'
    exact hit hit'

/-- One step keeps every session traced. -/
theorem traced_concat {past : List Event} {event : Event}
    (traced : ∀ uniqueId session, (reached primitives past).sessions.lookup uniqueId = some session →
      Traced primitives past uniqueId session)
    (found : (reached primitives (past ++ [event])).sessions.lookup uniqueId = some next) :
    Traced primitives (past ++ [event]) uniqueId next := by
  have filed : (reached primitives past).Filed := by
    intro id session here
    obtain ⟨_, _, _, _, _, filed, _⟩ := traced id session here
    exact filed
  rw [reached_concat] at found
  cases step_moved filed found with
  | kept here other =>
      obtain ⟨before, opening, after, split, own, filed, cert, salt, phases, unkeyed, keyed⟩ :=
        traced uniqueId next here
      refine ⟨before, opening, after ++ [event], by simp [split], own, filed, cert, salt, ?_,
        unkeyed, fun begun => ?_⟩
      · rw [List.filter_append, List.filter_cons_of_neg (by simp [other]), List.filter_nil,
          List.append_nil]
        exact phases
      · obtain ⟨key, held, source⟩ := keyed begun
        exact ⟨key, held, source.concat event⟩
  | opened opening here own filed cert salt phase =>
      refine ⟨past, opening, [], by rw [here], own, filed, cert, salt, ?_⟩
      rcases phase with ⟨none, empty⟩ | ⟨begun, salted, otpAuth, given, asked, key⟩
      · rw [none]
        exact ⟨rfl, fun _ => empty, fun begun => absurd rfl begun⟩
      · rw [begun]
        exact ⟨rfl, nofun, fun _ => ⟨_, key, .of_otpAuth given asked⟩⟩
  | pinned session here pin name now order same pending changed =>
      obtain ⟨before, opening, after, split, own, filed, cert, salt, phases, unkeyed, -⟩ :=
        traced uniqueId session here
      have keyOf : (step primitives event (reached primitives past)).keyOf uniqueId =
          some (genAesKey primitives (fromHex16 (session.salt.take 32)) pin) := by
        rw [State.keyOf, found, changed]
        rfl
      subst same
      rw [changed]
      refine ⟨before, opening, after ++ [.pin pin name now order], by simp [split], own, filed, cert,
        salt, ?_, nofun, fun _ => ⟨_, rfl, ?_⟩⟩
      · rw [pending] at phases
        rw [List.filter_append, phases]
        rfl
      · refine .pin after [] pin name now order rfl ?_ (by rw [salt])
        rw [← split, own]
        refine ⟨⟨pin, name, now, order, rfl⟩, ?_, by rw [keyOf]; rfl⟩
        rw [State.keyOf, here]
        exact unkeyed pending
  | challenged session here text asked inOrder changed =>
      obtain ⟨before, opening, after, split, own, filed, cert, salt, phases, -, keyed⟩ :=
        traced uniqueId session here
      obtain ⟨key, held, source⟩ := keyed (by simp [inOrder])
      rw [changed]
      refine ⟨before, opening, after ++ [event], by simp [split], own, filed, cert, salt, ?_, nofun,
        fun _ => ⟨key, held, source.concat event⟩⟩
      rw [inOrder] at phases
      refine ⟨event, text, ?_, asked⟩
      rw [List.filter_append, phases,
        List.filter_cons_of_pos (Event.concerns_of_request asked rfl)]
      rfl
  | responded session here text asked inOrder changed =>
      obtain ⟨before, opening, after, split, own, filed, cert, salt, phases, -, keyed⟩ :=
        traced uniqueId session here
      obtain ⟨key, held, source⟩ := keyed (by simp [inOrder])
      rw [changed]
      refine ⟨before, opening, after ++ [event], by simp [split], own, filed, cert, salt, ?_, nofun,
        fun _ => ⟨key, held, source.concat event⟩⟩
      rw [inOrder] at phases
      obtain ⟨challenge, text', since, asked'⟩ := phases
      refine ⟨challenge, event, text', text, ?_, asked', asked⟩
      rw [List.filter_append, since,
        List.filter_cons_of_pos (Event.concerns_of_request asked rfl)]
      rfl

theorem traced_of_reached (past : List Event)
    (found : (reached primitives past).sessions.lookup uniqueId = some session) :
    Traced primitives past uniqueId session := by
  induction past using List.reverseRecOn generalizing uniqueId session with
  | nil => simp [reached, State.initial] at found
  | append_singleton past event ih => exact traced_concat (fun _ _ here => ih here) found

end UmbraHost.Pairing
