import EscrowLedger.Escrow.Submission

/-!
# Authorizations

An authorization holds exactly the artifacts that its stage requires; no value of the type breaks a
rule. A new job has an authorization that nobody has given a session key yet.

## Main definitions

* `Authorization` — one alternative per stage.
* `Authorization.get` — the content of an artifact.
* `Authorization.ofSubmission` — the authorization of a submission that passes the check.
* `Authorization.toSubmission` — the flat form of an authorization.
-/

namespace EscrowLedger

/-- The pair of keys of the worker that is assigned to a job. -/
structure WorkerKeys where
  publicKey : Sealed
  privateKey : Sealed
deriving DecidableEq

/-- The credentials for both services, encrypted for the worker. -/
structure Credentials where
  exportAuthData : Sealed
  importAuthData : Sealed
deriving DecidableEq

/-- The artifacts of a job, as its stage requires them. -/
inductive Authorization where
  /-- Before the credentials are available; a new job has no session key either. -/
  | initial (sessionKey : Option Sealed)
  | credsAvailable (sessionKey : Sealed)
  | credsEncryptionKeyGenerated (sessionKey : Sealed) (workerKeys : WorkerKeys)
  | credsEncrypted (sessionKey : Sealed) (workerKeys : WorkerKeys) (credentials : Credentials)
deriving DecidableEq

namespace Authorization

def unkeyed : Authorization := .initial none

instance : Inhabited Authorization := ⟨unkeyed⟩

def stage : Authorization → Stage
  | .initial _ => .initial
  | .credsAvailable _ => .credsAvailable
  | .credsEncryptionKeyGenerated _ _ => .credsEncryptionKeyGenerated
  | .credsEncrypted _ _ _ => .credsEncrypted

def sessionKey? : Authorization → Option Sealed
  | .initial key => key
  | .credsAvailable key => some key
  | .credsEncryptionKeyGenerated key _ => some key
  | .credsEncrypted key _ _ => some key

def workerKeys? : Authorization → Option WorkerKeys
  | .credsEncryptionKeyGenerated _ keys => some keys
  | .credsEncrypted _ keys _ => some keys
  | _ => none

def credentials? : Authorization → Option Credentials
  | .credsEncrypted _ _ credentials => some credentials
  | _ => none

def get (auth : Authorization) : Artifact → Option Sealed
  | .sessionKey => auth.sessionKey?
  | .publicKey => auth.workerKeys?.map (·.publicKey)
  | .privateKey => auth.workerKeys?.map (·.privateKey)
  | .exportAuthData => auth.credentials?.map (·.exportAuthData)
  | .importAuthData => auth.credentials?.map (·.importAuthData)

def isUnkeyed (auth : Authorization) : Bool := auth = unkeyed

def toSubmission (auth : Authorization) : Submission :=
  Artifact.all.foldl (fun s a => s.put a ((auth.get a).map (·.text))) (.empty auth.stage)

def require (a : Artifact) : StateT Submission (Except Violation) Sealed := fun s =>
  match s.take a with
  | (some content, left) => .ok (content, left)
  | (none, _) => .error ⟨s.stage, a, .required⟩

def assemble (stage : Stage) : StateT Submission (Except Violation) Authorization := do
  let key ← require .sessionKey
  match stage with
  | .initial => pure (.initial (some key))
  | .credsAvailable => pure (.credsAvailable key)
  | .credsEncryptionKeyGenerated =>
    let publicKey ← require .publicKey
    let privateKey ← require .privateKey
    pure (.credsEncryptionKeyGenerated key ⟨publicKey, privateKey⟩)
  | .credsEncrypted =>
    let publicKey ← require .publicKey
    let privateKey ← require .privateKey
    let exportAuthData ← require .exportAuthData
    let importAuthData ← require .importAuthData
    pure (.credsEncrypted key ⟨publicKey, privateKey⟩ ⟨exportAuthData, importAuthData⟩)

/-- The authorization of a submission. What describes a new job is accepted as such; everything else
must pass the check. -/
def ofSubmission (s : Submission) : Except Violation Authorization :=
  if s.isUnkeyed then .ok unkeyed
  else do
    s.check
    (assemble s.stage).run' s

@[simp] theorem stage_toSubmission (auth : Authorization) :
    auth.toSubmission.stage = auth.stage := by
  simp [toSubmission, Artifact.all, Submission.empty]

/-- The flat form holds the content of every artifact. -/
@[simp] theorem get_toSubmission (auth : Authorization) (a : Artifact) :
    auth.toSubmission.get a = (auth.get a).map (·.text) := by
  cases a <;> simp [toSubmission, Artifact.all, Submission.get_put]

end Authorization

end EscrowLedger
