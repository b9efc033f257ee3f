import Woml.Store.Tables

/-!
# Policies of runs

A run is admitted under an infrastructure policy. The store keeps a policy under the digest of its
canonical payload, which does not cover the signature, beside what is known of the signature. The
checks of a bundle's content, the encodings and the cryptography are functions of the host.
-/

namespace Woml

open Checked

namespace InfrastructurePolicy

structure SignatureV1 where
  algorithm : String := "ed25519"
  keyId : String
  value : String
  deriving DecidableEq

structure BundleV1 where
  id : String
  version : String
  environment : String
  /-- The contract, the defaults and the rules, as a JSON text. -/
  content : String
  signature : Option SignatureV1 := none
  deriving DecidableEq

/-- The bundle that the payload is of. -/
def BundleV1.unsigned (bundle : BundleV1) : BundleV1 := { bundle with signature := none }

structure TrustV1 where
  keys : List (String × String) := []
  revokedKeyIds : List String := []
  requireSignature : Bool := false

inductive SignatureStatusV1
  | unsigned | verified
  deriving DecidableEq

structure PreparedV1 where
  bundle : BundleV1
  digest : String
  canonicalPayload : List Nat
  signatureStatus : SignatureStatusV1
  signingKeyId : Option String

inductive Error
  | tooLarge
  | invalid (message : String)
  | signatureInvalid (message : String)

class PolicyHost extends Host where
  /-- `validate_bundle`, without its checks of the signature, which come after. -/
  validateBundle : BundleV1 → Except Error Unit
  validateSignature : SignatureV1 → Except Error Unit
  canonicalBundle : BundleV1 → Option (List Nat)
  parseBundle : List Nat → Option BundleV1
  /-- Whether the key and the signature, in base64url, verify the payload. -/
  verify : (key : String) → (payload : List Nat) → (signature : String) → Except Error Unit

variable [PolicyHost]

def maxBytes : Nat := 1024 * 1024

/-- The status of the signature of a payload, with the key. -/
def signatureStatus (trust : TrustV1) (payload : List Nat) :
    Option SignatureV1 → Except Error (SignatureStatusV1 × Option String)
  | none => do
    failIf trust.requireSignature (.signatureInvalid "a signature is required")
    .ok (.unsigned, none)
  | some signature => do
    failIf (signature.keyId ∈ trust.revokedKeyIds) (.signatureInvalid "the signing key is revoked")
    let encodedKey ← orFail (trust.keys.lookup signature.keyId)
      (.signatureInvalid "the signing key is not trusted")
    PolicyHost.verify encodedKey payload signature.value
    .ok (.verified, some signature.keyId)

def prepareInfrastructurePolicy (bundle : BundleV1) (trust : TrustV1) :
    Except Error PreparedV1 := do
  PolicyHost.validateBundle bundle.unsigned
  bundle.signature.forM PolicyHost.validateSignature
  let canonicalPayload ← orFail (PolicyHost.canonicalBundle bundle.unsigned)
    (.invalid "the policy cannot be serialized canonically")
  failIf (maxBytes < canonicalPayload.length) .tooLarge
  let status ← signatureStatus trust canonicalPayload bundle.signature
  .ok { bundle, digest := sha256Prefixed canonicalPayload, canonicalPayload
        signatureStatus := status.1, signingKeyId := status.2 }

/-! ## Bindings -/

structure BundleRow where
  policyId : String
  policyVersion : String
  environment : String
  canonicalPayload : List Nat
  signatureStatus : SignatureStatusV1
  signingKeyId : Option String
  deriving DecidableEq

def PreparedV1.row (policy : PreparedV1) : BundleRow :=
  ⟨policy.bundle.id, policy.bundle.version, policy.bundle.environment, policy.canonicalPayload,
    policy.signatureStatus, policy.signingKeyId⟩

structure PolicyStore where
  runs : List String := []
  bundles : SortedMap String BundleRow := .empty
  /-- The digest of a run's policy, with the instant of its admission. -/
  bindings : SortedMap String (String × DateTime) := .empty

inductive PolicyAction
  | enter (runId : String)
  | bind (runId : String) (bundle : BundleV1) (trust : TrustV1) (admittedAt : DateTime)

namespace PolicyStore

variable (s : PolicyStore)

/-- Of the binding that is returned, only the instant is not in the policy. -/
def bindInfrastructurePolicy (runId : String) (policy : PreparedV1) (admittedAt : DateTime) :
    Except DurableStoreError (PolicyStore × DateTime) := do
  failIf (runId ∉ s.runs) (.runNotFound runId)
  let bundles := s.bundles.insertFirst policy.digest policy.row
  failIf (bundles.get? policy.digest ≠ some policy.row) (.contract
    "WOML_POLICY_INVALID: the stored policy digest is bound to different bytes or identity.")
  let bindings := s.bindings.insertFirst runId (policy.digest, admittedAt)
  let bound ← orFail (bindings.get? runId) .constraint
  failIf (bound.1 ≠ policy.digest) (.contract
    "WOML_POLICY_INVALID: the run is already pinned to a different infrastructure policy.")
  .ok ({ s with bundles, bindings }, bound.2)

def infrastructurePolicyForRun (runId : String) : Except DurableStoreError (Option PreparedV1) :=
  match s.bindings.get? runId with
  | none => .ok none
  | some (digest, _) => do
    let row ← orFail (s.bundles.get? digest) (.contract
      "WOML_POLICY_UNAVAILABLE: admitted canonical policy bytes are missing.")
    let bundle ← orFail (PolicyHost.parseBundle row.canonicalPayload) (.contract
      "WOML_POLICY_INVALID: admitted policy bytes are malformed.")
    let prepared ← (prepareInfrastructurePolicy bundle {}).mapError fun _ => .contract
      "WOML_POLICY_INVALID: admitted policy bytes failed canonical validation."
    failIf (prepared.digest ≠ digest ∨ prepared.canonicalPayload ≠ row.canonicalPayload ∨
      prepared.bundle.id ≠ row.policyId ∨ prepared.bundle.version ≠ row.policyVersion ∨
      prepared.bundle.environment ≠ row.environment) (.contract
        "WOML_POLICY_INVALID: admitted policy identity does not match its canonical bytes.")
    failIf (decide (row.signatureStatus = .unsigned) ≠ row.signingKeyId.isNone) (.contract
      "WOML_POLICY_INVALID: admitted policy signature status is contradictory.")
    .ok (some { prepared with
      signatureStatus := row.signatureStatus, signingKeyId := row.signingKeyId })

/-- A transaction that fails leaves the store as it is. -/
def step : PolicyAction → PolicyStore
  | .enter runId => { s with runs := runId :: s.runs }
  | .bind runId bundle trust admittedAt =>
    match prepareInfrastructurePolicy bundle trust with
    | .error _ => s
    | .ok policy =>
      match s.bindInfrastructurePolicy runId policy admittedAt with
      | .error _ => s
      | .ok (s, _) => s

def run (actions : List PolicyAction) : PolicyStore := actions.foldl step s

end PolicyStore

end InfrastructurePolicy

end Woml
