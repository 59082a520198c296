import Mathlib.Data.List.Perm.Basic

/-! # The chain of client certificates

`cert_chain_t` of `crypto.cpp`: one store for each client, tried in the order of the list until
one accepts.  What `X509_verify_cert` says of a store and a presented certificate is a
parameter. -/

namespace UmbraHost.ClientIdentity

inductive VerifyError where
  | depthZeroSelfSignedCert
  | invalidCa
  | other (errCode : Nat)
deriving DecidableEq, Repr

/-- The two errors after which the next store is tried. -/
def VerifyError.triesNext : VerifyError → Bool
  | .depthZeroSelfSignedCert | .invalidCa => true
  | .other _ => false

section Chain

variable {Client : Type u} {Store : Type v} {Cert : Type w}

abbrev CertChain (Client : Type u) (Store : Type v) := List (Client × Store)

namespace CertChain

def add (client : Client) (store : Store) (chain : CertChain Client Store) :
    CertChain Client Store :=
  chain ++ [(client, store)]

def addAll (chain more : CertChain Client Store) : CertChain Client Store :=
  more.foldl (fun chain entry => chain.add entry.1 entry.2) chain

variable (verifyCert : Store → Cert → Except VerifyError Unit) (cert : Cert)

/-- The loop of `verify`. -/
def verifyFrom (errCode : VerifyError) : CertChain Client Store → Except VerifyError Client
  | [] => .error errCode
  | (client, store) :: rest =>
      match verifyCert store cert with
      | .ok _ => .ok client
      | .error errCode => if errCode.triesNext then verifyFrom errCode rest else .error errCode

def verify (chain : CertChain Client Store) : Except VerifyError Client :=
  chain.verifyFrom verifyCert cert (.other 0)

def accepts (chain : CertChain Client Store) : Bool := (chain.verify verifyCert cert).toBool

/-- The store of the client accepts the certificate. -/
def Accepted (entry : Client × Store) : Prop := verifyCert entry.2 cert = .ok ()

/-- The store rejects the certificate with an error that ends the loop. -/
def Stops (entry : Client × Store) : Prop :=
  ∃ errCode, verifyCert entry.2 cert = .error errCode ∧ errCode.triesNext = false

/-- Which clients are accepted does not depend on the order of the list. -/
structure OrderFree (chain : CertChain Client Store) : Prop where
  accepts_iff : chain.accepts verifyCert cert = true ↔
    ∃ entry ∈ chain, Accepted verifyCert cert entry
  names : ∀ client, chain.verify verifyCert cert = .ok client →
    ∃ store, (client, store) ∈ chain ∧ Accepted verifyCert cert (client, store)
  permuted : ∀ other : CertChain Client Store, other.Perm chain →
    other.accepts verifyCert cert = chain.accepts verifyCert cert
  extended : ∀ more : CertChain Client Store, (∀ entry ∈ more, ¬ Accepted verifyCert cert entry) →
    (chain.addAll more).accepts verifyCert cert = chain.accepts verifyCert cert

variable {verifyCert cert}

theorem exists_of_verifyFrom {errCode : VerifyError} {chain : CertChain Client Store}
    {client : Client} (accepted : chain.verifyFrom verifyCert cert errCode = .ok client) :
    ∃ store, (client, store) ∈ chain ∧ Accepted verifyCert cert (client, store) := by
  induction chain generalizing errCode with
  | nil => cases accepted
  | cons entry rest ih =>
      obtain ⟨other, store⟩ := entry
      unfold verifyFrom at accepted
      cases answer : verifyCert store cert with
      | ok _ =>
          rw [answer] at accepted
          cases accepted
          exact ⟨store, List.mem_cons_self, answer⟩
      | error code =>
          rw [answer] at accepted
          cases next : code.triesNext with
          | false => simp [next] at accepted
          | true =>
              obtain ⟨found, member, same⟩ := ih (by simpa [next] using accepted)
              exact ⟨found, List.mem_cons_of_mem _ member, same⟩

/-- Where no store ends the loop, it finds an accepting store. -/
theorem verifyFrom_toBool {errCode : VerifyError} {chain : CertChain Client Store}
    (goesOn : ∀ entry ∈ chain, ¬ Stops verifyCert cert entry)
    (some : ∃ entry ∈ chain, Accepted verifyCert cert entry) :
    (chain.verifyFrom verifyCert cert errCode).toBool = true := by
  induction chain generalizing errCode with
  | nil =>
      obtain ⟨_, member, _⟩ := some
      cases member
  | cons entry rest ih =>
      obtain ⟨client, store⟩ := entry
      unfold verifyFrom
      cases answer : verifyCert store cert with
      | ok _ => rfl
      | error code =>
          have next : code.triesNext = true := by
            by_contra stops
            exact goesOn _ List.mem_cons_self ⟨code, answer, by simpa using stops⟩
          simp only [next, if_true]
          apply ih fun other member => goesOn other (List.mem_cons_of_mem _ member)
          obtain ⟨other, member, accepted⟩ := some
          rcases List.mem_cons.mp member with rfl | later
          · exact absurd (answer.symm.trans accepted) nofun
          · exact ⟨other, later, accepted⟩

theorem exists_of_accepts {chain : CertChain Client Store}
    (accepted : chain.accepts verifyCert cert = true) :
    ∃ entry ∈ chain, Accepted verifyCert cert entry := by
  unfold accepts at accepted
  cases answer : chain.verify verifyCert cert with
  | error code =>
      rw [answer] at accepted
      cases accepted
  | ok client =>
      obtain ⟨store, member, same⟩ := exists_of_verifyFrom answer
      exact ⟨(client, store), member, same⟩

theorem addAll_eq (chain more : CertChain Client Store) : chain.addAll more = chain ++ more := by
  unfold addAll
  induction more generalizing chain with
  | nil => exact (List.append_nil chain).symm
  | cons entry rest ih =>
      rw [List.foldl_cons, ih, add, List.append_assoc]
      rfl

theorem verifyFrom_append {errCode : VerifyError} {chain : CertChain Client Store} {client : Client}
    (accepted : chain.verifyFrom verifyCert cert errCode = .ok client)
    (more : CertChain Client Store) :
    verifyFrom verifyCert cert errCode (chain ++ more) = .ok client := by
  induction chain generalizing errCode with
  | nil => cases accepted
  | cons entry rest ih =>
      obtain ⟨other, store⟩ := entry
      rw [List.cons_append]
      unfold verifyFrom at accepted ⊢
      cases answer : verifyCert store cert with
      | ok _ => simpa only [answer] using accepted
      | error code =>
          rw [answer] at accepted
          cases next : code.triesNext with
          | false => simp [next] at accepted
          | true => simpa [next] using ih (by simpa [next] using accepted)

theorem accepts_append {chain : CertChain Client Store}
    (accepted : chain.accepts verifyCert cert = true) (more : CertChain Client Store) :
    accepts verifyCert cert (chain ++ more) = true := by
  unfold accepts at accepted ⊢
  cases answer : chain.verify verifyCert cert with
  | error code =>
      rw [answer] at accepted
      cases accepted
  | ok client =>
      rw [verify, verifyFrom_append answer more]
      rfl

theorem accepts_of_goesOn {chain : CertChain Client Store}
    (goesOn : ∀ entry ∈ chain, ¬ Stops verifyCert cert entry)
    (some : ∃ entry ∈ chain, Accepted verifyCert cert entry) :
    chain.accepts verifyCert cert = true :=
  verifyFrom_toBool goesOn some

/-- A store that ends the loop, put first. -/
theorem accepts_cons_stops {entry : Client × Store} {rest : CertChain Client Store}
    (stops : Stops verifyCert cert entry) :
    accepts verifyCert cert (entry :: rest) = false := by
  obtain ⟨client, store⟩ := entry
  obtain ⟨code, answer, ends⟩ := stops
  simp only at answer
  simp [accepts, verify, verifyFrom, answer, ends, Except.toBool]

theorem accepts_iff_exists {chain : CertChain Client Store}
    (goesOn : (∃ entry ∈ chain, Accepted verifyCert cert entry) →
      ∀ entry ∈ chain, ¬ Stops verifyCert cert entry) :
    chain.accepts verifyCert cert = true ↔ ∃ entry ∈ chain, Accepted verifyCert cert entry :=
  ⟨exists_of_accepts, fun some => accepts_of_goesOn (goesOn some) some⟩

/-- The order of the clients does not matter if and only if no store ends the loop for a
certificate that another one accepts. -/
theorem orderFree_iff (verifyCert : Store → Cert → Except VerifyError Unit) (cert : Cert)
    (chain : CertChain Client Store) :
    OrderFree verifyCert cert chain ↔
      ((∃ entry ∈ chain, Accepted verifyCert cert entry) →
        ∀ entry ∈ chain, ¬ Stops verifyCert cert entry) := by
  constructor
  · intro free some entry member stops
    obtain ⟨before, after, rfl⟩ := List.mem_iff_append.mp member
    have first := free.permuted (entry :: (before ++ after)) List.perm_middle.symm
    rw [accepts_cons_stops stops, free.accepts_iff.mpr some] at first
    cases first
  · intro goesOn
    have found := accepts_iff_exists goesOn
    refine ⟨found, fun client => exists_of_verifyFrom, ?_, ?_⟩
    · intro other same
      have otherFound : other.accepts verifyCert cert = true ↔
          ∃ entry ∈ other, Accepted verifyCert cert entry := by
        apply accepts_iff_exists
        intro ⟨entry, member, accepted⟩ stopped inside
        exact goesOn ⟨entry, same.mem_iff.mp member, accepted⟩ stopped (same.mem_iff.mp inside)
      rw [Bool.eq_iff_iff, otherFound, found]
      simp only [same.mem_iff]
    · intro more rejected
      rw [addAll_eq, Bool.eq_iff_iff]
      constructor
      · intro accepted
        obtain ⟨entry, member, accepts⟩ := exists_of_accepts accepted
        have inside := (List.mem_append.mp member).resolve_right fun new =>
          rejected entry new accepts
        exact found.mpr ⟨entry, inside, accepts⟩
      · exact fun accepted => accepts_append accepted more

end CertChain

end Chain

/-- A store of its own certificate, by number; any other certificate has an unknown issuer. -/
def issuedBy (store cert : Nat) : Except VerifyError Unit :=
  if store = cert then .ok () else .error (.other 20)

/-- The client paired second is refused, and accepted in the other order. -/
theorem secondClient_refused : ¬ CertChain.OrderFree issuedBy 2 [("phone", 1), ("tablet", 2)] := by
  intro free
  have same := free.permuted [("tablet", 2), ("phone", 1)] (List.Perm.swap ..)
  exact absurd same (by decide)

end UmbraHost.ClientIdentity
