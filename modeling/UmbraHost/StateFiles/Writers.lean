import UmbraHost.HttpAuth.ConcurrentSaves
import UmbraHost.StateFiles.Clients

/-! # The writers of the state files

`save_state` and `load_state` (`nvhttp.cpp`), `save_api_tokens` and
`save_session_tokens` (`http_auth.cpp`) and `save_user_creds` (`httpcommon.cpp`), each
from the files before to the files after, with whether its writes succeeded. Paths
that name the same file are equal. -/

namespace UmbraHost.StateFiles

open UmbraHost.Json UmbraHost.HttpAuth

/-- What a file holds; a file that does not parse is there all the same. -/
inductive Contents where
  | malformed
  | json (value : Value)

variable {Path : Type} [DecidableEq Path]

abbrev Store (Path : Type) := Path → Option Contents

namespace Store

def write (store : Store Path) (path : Path) (value : Value) : Store Path :=
  Function.update store path (some (.json value))

/-- Reading with `read_json`; a missing file gives an empty tree. -/
def readTree (store : Store Path) (path : Path) : Option Tree :=
  match store path with
  | none => some .empty
  | some .malformed => none
  | some (.json value) => some (.ofJson value)

end Store

structure Outcome (Path : Type) where
  files : Store Path
  written : Bool

/-- Reading a file with `read_json` and writing the changed tree with `write_json_atomic`;
nothing is written when either fails. -/
def rewrite (path : Path) (change : Tree → Tree) (store : Store Path) : Outcome Path :=
  match store.readTree path with
  | none => ⟨store, false⟩
  | some tree =>
    match (change tree).write with
    | none => ⟨store, false⟩
    | some value => ⟨store.write path value, true⟩

/-- The configured files. -/
structure Layout (Path : Type) where
  sunshine : Path
  vibeshine : Path

def Layout.share (layout : Layout Path) : Bool := layout.sunshine = layout.vibeshine

/-- An identifier that `uuid_t::parse` accepts. -/
structure UniqueId where
  text : String
  length_eq : text.utf8ByteSize = 36

theorem utf8ByteSize_sampleUuid :
    "01234567-89AB-CDEF-0123-456789ABCDEF".utf8ByteSize = 36 := by
  decide +kernel

/-- The variables that `save_state` writes out. -/
structure Host where
  uniqueId : UniqueId
  clients : List NamedCert
  lastNotifiedVersion : String
  sharedVirtualDisplayGuid : String

/-! ## `save_state` -/

/-- The members of the file that stay beside `root`. -/
def readMembers (store : Store Path) (path : Path) : Option (Fields Value) :=
  match store path with
  | none => some []
  | some (.json (.obj members)) => some members
  | some (.json .null) => some []
  | some _ => none

def rootNode (layout : Layout Path) (host : Host) : Value :=
  .obj ([("uniqueid", .str host.uniqueId.text)] ++
    (if layout.share then [("last_notified_version", .str host.lastNotifiedVersion)] else []) ++
    [("named_devices", .arr (namedCertNodes [] [] host.clients))])

/-- The second file, which has the notification state when there are two. -/
def vibeshineTree (host : Host) (tree : Tree) : Tree :=
  tree.update "root" fun root =>
    let root := root.put "last_notified_version" host.lastNotifiedVersion
    if host.sharedVirtualDisplayGuid = "" then root
    else root.put "shared_virtual_display_guid" host.sharedVirtualDisplayGuid

def saveState (layout : Layout Path) (host : Host) (store : Store Path) : Outcome Path :=
  match readMembers store layout.sunshine with
  | none => ⟨store, false⟩
  | some members =>
    let store := store.write layout.sunshine
      (.obj (Fields.put "root" (rootNode layout host) members))
    if layout.share then ⟨store, true⟩
    else rewrite layout.vibeshine (vibeshineTree host) store

/-! ## The tokens -/

/-- The elements of an array. -/
def listTree (items : List Tree) : Tree := .node "" (items.map fun item => ("", item))

def textLeaf (text : Text) : Tree := .node (String.ofList text) []

def putLeaf (name : String) (leaf : Option Tree) : Fields Tree :=
  match leaf with
  | none => []
  | some leaf => [(name, leaf)]

def apiTokenTree (node : ApiTokenNode) : Tree :=
  .node "" [("hash", textLeaf node.hash), ("username", textLeaf node.username),
    ("created_at", .node (decimal node.createdAt) []),
    ("scopes", listTree (node.scopes.map fun scope =>
      .node "" [("path", textLeaf scope.1), ("methods", listTree (scope.2.map textLeaf))]))]

def saveApiTokens (layout : Layout Path) (nodes : List ApiTokenNode) :
    Store Path → Outcome Path :=
  rewrite layout.vibeshine fun tree => tree.update "root" fun root =>
    root.putChild "api_tokens" (listTree (nodes.map apiTokenTree))

def sessionTokenTree (node : SessionNode) : Tree :=
  let number (value : Option Int) := value.map fun value => Json.Tree.node (decimal value) []
  .node "" (
    putLeaf "hash" (node.hash.map textLeaf) ++
    putLeaf "username" (node.username.map textLeaf) ++
    putLeaf "created_at" (number node.createdAt) ++
    putLeaf "expires_at" (number node.expiresAt) ++
    putLeaf "refresh_expires_at" (number node.refreshExpiresAt) ++
    putLeaf "last_seen" (number node.lastSeen) ++
    putLeaf "remember_me" (node.rememberMe.map fun flag => .node (boolText flag) []) ++
    putLeaf "refresh_token_hash" (node.refreshTokenHash.map textLeaf) ++
    putLeaf "rotation_id" (node.rotationId.map textLeaf) ++
    putLeaf "user_agent" (node.userAgent.map textLeaf) ++
    putLeaf "remote_address" (node.remoteAddress.map textLeaf) ++
    putLeaf "device_label" (node.deviceLabel.map textLeaf))

def saveSessionTokens (layout : Layout Path) (nodes : List SessionNode) :
    Store Path → Outcome Path :=
  rewrite layout.vibeshine fun tree => tree.update "root" fun root =>
    root.putChild "session_tokens" (listTree (nodes.map sessionTokenTree))

/-! ## The credentials -/

structure Credentials where
  username : String
  password : String
  salt : String

/-- `hexHash` is the printed hash of a text. -/
def saveUserCreds (hexHash : String → String) (file : Path) (credentials : Credentials) :
    Store Path → Outcome Path :=
  rewrite file fun tree =>
    let tree := tree.put "username" credentials.username
    let tree := tree.put "salt" credentials.salt
    tree.put "password" (hexHash (credentials.password ++ credentials.salt))

/-! ## `load_state` -/

/-- The texts that `load_state` takes from the second file. -/
def loadVibeshine (layout : Layout Path) (store : Store Path) : String × String :=
  match store layout.vibeshine with
  | some (.json value) =>
    let root := ((Tree.ofJson value).child? "root").getD .empty
    let text (name : String) := ((root.child? name).map Tree.data).getD ""
    (text "last_notified_version", text "shared_virtual_display_guid")
  | _ => ("", "")

/-- `generated` is the identifier made when there is none, `generate` those of the
clients of the older list. -/
def loadState (layout : Layout Path) (generated : UniqueId) (generate : Nat → String)
    (host : Host) (store : Store Path) : Result Host :=
  match store layout.sunshine with
  | none => .ok { host with uniqueId := generated, lastNotifiedVersion := "" }
  | some .malformed => .ok host
  | some (.json tree) => do
    let root := (tree.find? "root").getD (.obj [])
    let host ←
      if layout.share then do
        let lastNotifiedVersion ← root.valueOr "last_notified_version" ""
        let sharedVirtualDisplayGuid :=
          if (root.find? "shared_virtual_display_guid").isNone then ""
          else host.sharedVirtualDisplayGuid
        pure { host with lastNotifiedVersion, sharedVirtualDisplayGuid }
      else
        let (lastNotifiedVersion, sharedVirtualDisplayGuid) := loadVibeshine layout store
        pure { host with lastNotifiedVersion, sharedVirtualDisplayGuid }
    match root.find? "uniqueid" with
    | none => return { host with uniqueId := generated }
    | some uniqueid =>
      let text ← uniqueid.getText
      if length_eq : text.utf8ByteSize = 36 then
        let older ← loadDevices generate root
        let clients ← loadNamedDevices root
        return { host with uniqueId := ⟨text, length_eq⟩, clients := older ++ clients }
      else throw .invalidArgument

end UmbraHost.StateFiles
