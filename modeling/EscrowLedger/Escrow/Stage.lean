/-!
# Stages and artifacts

The handshake that hands encrypted credentials to a worker has four stages in a fixed order. Five
encrypted artifacts belong to it, and each stage either requires or forbids each of them.

## Main definitions

* `Stage`, `Artifact` — the four stages in their order, and the five artifacts.
* `Stage.rule` — what a stage demands of an artifact.

## Main statements

* `Stage.ofName?_eq_some_iff` — a stage is known by exactly its name.
* `Artifact.mem_all`, `Stage.mem_all` — the lists of all artifacts and stages are complete.
-/

namespace EscrowLedger

/-- A stage of the handshake. -/
inductive Stage where
  | initial
  | credsAvailable
  | credsEncryptionKeyGenerated
  | credsEncrypted
deriving DecidableEq, Inhabited

/-- An encrypted artifact that an authorization can carry. -/
inductive Artifact where
  | sessionKey
  | exportAuthData
  | importAuthData
  | publicKey
  | privateKey
deriving DecidableEq, Inhabited

/-- What a stage demands of an artifact. -/
inductive Rule where
  | required
  | forbidden
deriving DecidableEq, Inhabited

namespace Stage

def all : List Stage := [.initial, .credsAvailable, .credsEncryptionKeyGenerated, .credsEncrypted]

def name : Stage → String
  | .initial => "INITIAL"
  | .credsAvailable => "CREDS_AVAILABLE"
  | .credsEncryptionKeyGenerated => "CREDS_ENCRYPTION_KEY_GENERATED"
  | .credsEncrypted => "CREDS_ENCRYPTED"

def rank : Stage → Nat
  | .initial => 0
  | .credsAvailable => 1
  | .credsEncryptionKeyGenerated => 2
  | .credsEncrypted => 3

instance : LT Stage := ⟨fun a b => a.rank < b.rank⟩

instance : LE Stage := ⟨fun a b => a.rank ≤ b.rank⟩

theorem lt_def {a b : Stage} : a < b ↔ a.rank < b.rank := Iff.rfl

theorem le_def {a b : Stage} : a ≤ b ↔ a.rank ≤ b.rank := Iff.rfl

instance (a b : Stage) : Decidable (a < b) := decidable_of_iff _ lt_def.symm

instance (a b : Stage) : Decidable (a ≤ b) := decidable_of_iff _ le_def.symm

def earlier (s : Stage) : List Stage := all.filter (· < s)

def ofName? (s : String) : Option Stage := all.find? (·.name == s)

/-- What a stage demands of an artifact. The session key is needed from the start, the pair of keys
of the worker once it is generated, and the credentials once they are encrypted. -/
def rule : Stage → Artifact → Rule
  | _, .sessionKey => .required
  | .credsEncryptionKeyGenerated, .publicKey => .required
  | .credsEncryptionKeyGenerated, .privateKey => .required
  | .credsEncrypted, _ => .required
  | _, _ => .forbidden

theorem mem_all (s : Stage) : s ∈ all := by
  cases s <;> simp [all]

@[simp] theorem ofName?_name (s : Stage) : ofName? s.name = some s := by
  cases s <;> rfl

/-- A stage is known by no text but its name. -/
theorem ofName?_eq_some_iff {n : String} {s : Stage} : ofName? n = some s ↔ n = s.name := by
  constructor
  · intro h
    exact (beq_iff_eq.1 (List.find?_some h :)).symm
  · rintro rfl
    exact ofName?_name s

end Stage

namespace Artifact

/-- The artifacts in the order in which they are checked and written. -/
def all : List Artifact := [.sessionKey, .exportAuthData, .importAuthData, .publicKey, .privateKey]

/-- The artifacts that only some stages require. -/
def optional : List Artifact := [.exportAuthData, .importAuthData, .publicKey, .privateKey]

def name : Artifact → String
  | .sessionKey => "encryptedSessionKey"
  | .exportAuthData => "encryptedExportAuthData"
  | .importAuthData => "encryptedImportAuthData"
  | .publicKey => "encryptedPublicKey"
  | .privateKey => "encryptedPrivateKey"

def ofName? (s : String) : Option Artifact := all.find? (·.name == s)

theorem mem_all (a : Artifact) : a ∈ all := by
  cases a <;> simp [all]

end Artifact

namespace Rule

def verb : Rule → String
  | .required => "requires"
  | .forbidden => "forbids"

end Rule

end EscrowLedger
