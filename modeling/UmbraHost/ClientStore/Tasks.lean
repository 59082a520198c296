import UmbraHost.ClientStore.Edits

/-! # Operations on the client store

The threads that run `add_authorized_client`, `unpair_client`, `update_device_info`,
`set_client_hdr_profile`, `mark_client_last_seen` and `erase_all_clients` (`nvhttp.cpp`).
A step is what one turn of `client_mutex` or of `state_mutex` covers; reading and writing
the state file succeeds, and of the file only `root.named_devices` counts.  The reload of
`load_state` replaces the store while `state_mutex` is held. -/

namespace UmbraHost.ClientStore

open UmbraHost.Json UmbraHost.StateFiles

/-- What a thread does next. -/
inductive Task where
  /-- `clientpairingsecret` reads whether there is a client. -/
  | pairing (name cert uuid : String)
  /-- `add_authorized_client` of a client. -/
  | adding (client : NamedCert)
  | unpairing (uuid : String)
  | updating (uuid : String) (update : Update)
  | seen (uuid : String) (now : Int64)
  | erasing
  /-- `save_state` takes its snapshot; `reload` if `load_state` comes after it. -/
  | saving (reload : Bool)
  | writing (snapshot : List NamedCert) (version : Nat) (reload : Bool)
  | loading
  | returned

inductive Operation where
  | pair (name cert uuid : String)
  | unpair (uuid : String)
  | updateDeviceInfo (uuid : String) (info : DeviceInfo)
  | updatePermissions (uuid : String) (info : PermissionInfo)
  | setClientHdrProfile (uuid hdrProfile : String)
  | markClientLastSeen (uuid : String) (now : Int64)
  | eraseAllClients

/-- Where an operation begins; some are refused at once. -/
def Operation.begin : Operation → Task
  | .pair name cert uuid =>
    if isPlaceholderClientName name then .returned else .pairing name cert uuid
  | .unpair uuid => .unpairing uuid
  | .updateDeviceInfo uuid info =>
    if uuid = "" ∨ isPlaceholderClientName (trimCopy info.name) then .returned
    else .updating uuid (.deviceInfo info)
  | .updatePermissions uuid info => .updating uuid (.permissions info)
  | .setClientHdrProfile uuid hdrProfile =>
    if uuid = "" then .returned else .updating uuid (.hdrProfile hdrProfile)
  | .markClientLastSeen uuid now => if uuid = "" then .returned else .seen uuid now
  | .eraseAllClients => .erasing

inductive Event where
  | call (operation : Operation)
  | advance (task : Nat)

structure State where
  /-- The flag to keep pairings and last uses out of the state file. -/
  freshState : Bool
  /-- `client_root.named_devices`. -/
  clients : List NamedCert
  /-- The identifier and the certificate of the clients in `cert_chain`. -/
  certChain : List (String × String)
  /-- `root.named_devices` of the state file. -/
  file : List Value
  tasks : List Task
  /-- The edits made, and how many of them the last written snapshot has. -/
  log : List Edit
  fileVersion : Nat

namespace State

def initial (freshState : Bool) : State := ⟨freshState, [], [], [], [], [], 0⟩

variable (state : State)

def edit (edit : Edit) : State :=
  { state with clients := edit.apply state.clients, log := state.log ++ [edit] }

/-- Some client has the identifier. -/
def has (uuid : String) : Bool := state.clients.any fun namedCert => namedCert.uuid = uuid

/-- The identifier was given to a client. -/
def issued (uuid : String) : Bool := state.log.any (Edit.pairs uuid)

def identities (clients : List NamedCert) : List (String × String) :=
  clients.map fun namedCert => (namedCert.uuid, namedCert.cert)

/-- What the clients in the state file read as. -/
def stored : Result (List NamedCert) := state.file.mapM loadNamedCert

/-- The next step of a thread. A generated identifier is never one that was given before. -/
def advance : Task → State × Task
  | .pairing name cert uuid =>
    (state, .adding (pairedClient name cert uuid state.clients.isEmpty))
  | .adding client =>
    if state.issued client.uuid then (state, .adding client)
    else (state.edit (.pair client), if state.freshState then .returned else .saving true)
  | .unpairing uuid =>
    (if state.has uuid then state.edit (.unpair uuid) else state, .saving true)
  | .updating uuid update =>
    if state.has uuid then (state.edit (.update uuid update), .saving false)
    else (state, .returned)
  | .seen uuid now =>
    match state.clients.find? fun namedCert => namedCert.uuid = uuid with
    | none => (state, .returned)
    | some namedCert =>
      if namedCert.lastSeen = some now then (state, .returned)
      else (state.edit (.update uuid (.lastSeen now)),
        if state.freshState then .returned else .saving false)
  | .erasing => ({ state.edit .erase with certChain := [] }, .saving true)
  | .saving reload => (state, .writing state.clients state.log.length reload)
  | .writing snapshot version reload =>
    ({ state with file := namedCertNodes [] [] snapshot, fileVersion := version },
      if reload then .loading else .returned)
  | .loading =>
    match state.stored with
    | .ok clients => ({ state with clients := clients, certChain := identities clients }, .returned)
    | .error _ => (state, .returned)
  | .returned => (state, .returned)

/-- An event that cannot happen in a state changes nothing. -/
def step (event : Event) (state : State) : State :=
  match event with
  | .call operation => { state with tasks := state.tasks ++ [operation.begin] }
  | .advance index =>
    match state.tasks[index]? with
    | none => state
    | some task =>
      let (after, next) := state.advance task
      { after with tasks := state.tasks.set index next }

/-- Every operation that was called has returned. -/
def idle : Bool :=
  state.tasks.all fun task =>
    match task with
    | .returned => true
    | _ => false

/-- The next step of a thread neither puts a client beside one with its certificate, nor gives
all permissions to one that is not the first, nor writes a snapshot behind a later one, nor
reloads a file that lacks an edit; and the store is kept in the file. -/
def Fits : Task → Prop
  | .adding client =>
    state.freshState = false ∧ client.cert ∉ state.clients.map NamedCert.cert ∧
      (client.perm = Perm.all → state.clients = [])
  | .seen _ _ => state.freshState = false
  | .writing _ version _ => state.fileVersion ≤ version
  | .loading => state.fileVersion = state.log.length
  | _ => True

instance decidableFits : ∀ task, Decidable (state.Fits task)
  | .adding _ => inferInstanceAs (Decidable (_ ∧ _ ∧ (_ → _)))
  | .seen _ _ => inferInstanceAs (Decidable (_ = _))
  | .writing _ _ _ => inferInstanceAs (Decidable (_ ≤ _))
  | .loading => inferInstanceAs (Decidable (_ = _))
  | .pairing _ _ _ | .unpairing _ | .updating _ _ | .erasing | .saving _ | .returned =>
    inferInstanceAs (Decidable True)

def InOrder (event : Event) (state : State) : Prop :=
  match event with
  | .call _ => True
  | .advance index =>
    match state.tasks[index]? with
    | none => True
    | some task => state.Fits task

instance decidableInOrder (event : Event) (state : State) : Decidable (InOrder event state) :=
  match event with
  | .call _ => inferInstanceAs (Decidable True)
  | .advance index =>
    match here : state.tasks[index]? with
    | none => decidable_of_iff True (by simp only [InOrder, here])
    | some task => decidable_of_iff (state.Fits task) (by simp only [InOrder, here])

end State

end UmbraHost.ClientStore
