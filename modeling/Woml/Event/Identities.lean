import Woml.Lib.Checked
import Woml.Lib.Text
import Woml.Event.RunEvent

/-!
# Identities and failures

The lexical checks on the identifiers, digests, names and failure records of events.
-/

namespace Woml

open Checked

inductive EventValidationError
  | unsupportedSchemaVersion (version : Nat)
  | invalid (message : String)
  deriving DecidableEq

/-! ## Identifiers -/

def validId (value : String) : Bool := value ≠ "" && value.length ≤ 256

def validPublicStructuralId (value : String) : Bool :=
  (match value.toList with
    | [] => false
    | first :: rest => first.isLower && rest.all Char.isAlphanum) && value.length ≤ 256

/-- `--` occurs in a text. -/
def hasDoubleDash : List Char → Bool
  | '-' :: '-' :: _ => true
  | _ :: s => hasDoubleDash s
  | [] => false

def validRemotePublicId (value : String) : Bool :=
  value ≠ "" && value.utf8ByteSize ≤ 128 && value.toList.head?.any Char.isLower &&
    Text.all (fun c => Text.isLowerOrDigit c || c = '-') value &&
    value.toList.getLast? ≠ some '-' && !hasDoubleDash value.toList

def validPrefixedId (value start : String) (minimum : Nat) : Bool :=
  minimum ≤ value.utf8ByteSize && value.utf8ByteSize ≤ 256 &&
    (Text.stripPrefix start value).any fun suffix =>
      suffix ≠ "" && Text.all Text.isWordOrDash suffix

/-- A decimal index without leading zeros. -/
def canonicalIndex (value : String) : Bool :=
  value ≠ "" && Text.all Char.isDigit value && (value = "0" || !Text.startsWith "0" value)

def isNotificationDeliveryId (value approvalId : String) : Bool :=
  match Text.stripPrefix (approvalId ++ ":notify:") value with
  | none => false
  | some suffix =>
    match (Text.splitOnce ":channel:" suffix).or (Text.splitOnce ":chat:" suffix) with
    | none => false
    | some (tag, destination) => canonicalIndex tag && canonicalIndex destination

def validSha256 (value : String) : Bool :=
  (Text.dropChars (Text.bytes "sha256:") (Text.bytes value)).any fun digest =>
    digest.length = 64 && digest.all Text.isLowerHex

def isDefinitionHash (value : String) : Bool := validSha256 value

def isApprovalRequestId (value : String) : Bool :=
  match Text.stripPrefix "aprreq_" value with
  | none => false
  | some suffix =>
    10 ≤ value.utf8ByteSize && value.utf8ByteSize ≤ 256 && suffix ≠ "" &&
      Text.all Text.isWordOrDash suffix

def validRichApprovalIdentity (approvalId requestId digest : String) : Bool :=
  validPublicStructuralId approvalId && isApprovalRequestId requestId && validSha256 digest

def richApprovalMaxRoles : Nat := 16

/-- Every text is smaller than the next one. -/
def strictlyIncreasing : List String → Bool
  | a :: b :: l => a < b && strictlyIncreasing (b :: l)
  | _ => true

def validRole (role : String) : Bool :=
  role ≠ "" && role.utf8ByteSize ≤ 64 &&
    match Text.split (fun c => c = '-' || c = '_' || c = '.') role with
    | [] => false
    | first :: segments =>
      first.head?.any Char.isLower && first.all Text.isLowerOrDigit &&
        segments.all fun segment => segment ≠ [] && segment.all Text.isLowerOrDigit

def validRichApprovalRoles (roles : List String) : Bool :=
  roles.length ≤ richApprovalMaxRoles && strictlyIncreasing roles && roles.all validRole

def validCapabilityName (value : String) : Bool :=
  value.utf8ByteSize ≤ 128 &&
    (Text.split (fun c => c = '.' || c = '_' || c = '-') value).all fun segment =>
      match segment with
      | [] => false
      | first :: rest => first.isLower && rest.all Text.isLowerOrDigit

def validSignalName (value : String) : Bool :=
  value ≠ "" && value.utf8ByteSize ≤ 128 &&
    (Text.split (· = '.') value).all fun segment =>
      match segment with
      | [] => false
      | first :: rest => first.isLower && rest.all fun c => Text.isLowerOrDigit c || c = '-'

def validLockKey (value : String) : Bool :=
  value ≠ "" && value.utf8ByteSize ≤ 256 && Text.isTrimmed value &&
    !value.toList.any Text.isControl && !(Text.split (· = '/') value).any (· = [])

def validFencingToken (value : String) : Bool :=
  value ≠ "" && value.utf8ByteSize ≤ 20 && Text.all Char.isDigit value &&
    (value = "0" || !Text.startsWith "0" value) &&
    (Text.parseNat value).any fun token => token < 2 ^ 64 && 0 < token

def validTriggerHandler (value : String) : Bool :=
  ["trigger.manual", "trigger.webhook", "trigger.slack", "trigger.telegram", "trigger.discord",
    "trigger.whatsapp", "trigger.schedule", "trigger.interval", "trigger.event"].contains value

def validBranchArmId (branchId armId : String) : Bool :=
  match Text.stripPrefix (branchId ++ ":") armId with
  | none => false
  | some suffix =>
    if suffix = "otherwise" then true
    else
      match Text.stripPrefix "when:" suffix with
      | none => false
      | some index => canonicalIndex index && armId.length ≤ 256

def validOrderedIdLists (first second : List String) : Bool :=
  (first ++ second).all validPublicStructuralId && decide (first ++ second).Nodup

def validProviderMessage : ProviderMessageIdentity → Bool
  | .slack workspaceId channelId messageId =>
    validPrefixedId workspaceId "T" 9 &&
      (match channelId.toList with
        | [] => false
        | first :: rest =>
          (first = 'C' || first = 'G' || first = 'D') &&
            rest.all fun c => c.isUpper || c.isDigit) &&
      9 ≤ channelId.utf8ByteSize && channelId.utf8ByteSize ≤ 32 &&
      (Text.splitOnce "." messageId).any fun (seconds, micros) =>
        10 ≤ seconds.utf8ByteSize && Text.all Char.isDigit seconds &&
          micros.utf8ByteSize = 6 && Text.all Char.isDigit micros
  | .communication provider accountId conversationId messageId threadId =>
    ["telegram", "discord", "whatsapp"].contains provider && validId accountId &&
      validId conversationId && validId messageId && threadId.all validId

/-! ## Identity groups -/

def validateIdentity (nodeId : String) (attempt : Nat) (invocationId : String) :
    Except EventValidationError Unit :=
  failIf (!validId nodeId || !validId invocationId || attempt = 0)
    (.invalid "Attempt identity requires valid nodeId, invocationId, and attempt >= 1.")

def validateForEachIterationEvent (event : RunEvent) (forEachId : String) :
    Except EventValidationError Unit := do
  let scope ← orFail event.iteration
    (.invalid "Iteration Event v15 records require an explicit iteration scope.")
  failIf (!(event.eventSchemaVersion = 15 || event.eventSchemaVersion = 16) ||
      !validPublicStructuralId forEachId || scope.forEachId ≠ forEachId || 10000 ≤ scope.index)
    (.invalid "Iteration Event v15 identity does not match its payload.")

def validateNotificationIdentity (approvalId requestId deliveryId : String) :
    Except EventValidationError Unit :=
  failIf (!validPublicStructuralId approvalId || !isApprovalRequestId requestId ||
      !isNotificationDeliveryId deliveryId approvalId)
    (.invalid "Notification event contains invalid approval, request, or delivery identity.")

def validLifecycleActionIdentity (hookInvocationId actionId : String) (attempt : Nat) : Bool :=
  validSha256 hookInvocationId && validId actionId && attempt = 1

def validLifecycleFailure (failure : LifecycleFailure) : Bool :=
  failure.message ≠ "" && failure.message.utf8ByteSize ≤ 1024 &&
    failure.code.utf8ByteSize ≤ 128 && Text.startsWith "WOML_" failure.code &&
    Text.all Text.isUpperDigitOrUnderscore failure.code

/-! ## Safe metadata and failure records -/

/-- Field names that safe metadata may not use, in any letter case. -/
def forbiddenMetadataKeys : List String :=
  ["authorization", "cookie", "set-cookie", "token", "secret", "password", "body", "query", "url",
    "headers", "input", "output", "data", "value"]

def validMetadataKey (key : String) : Bool :=
  key.utf8ByteSize ≤ 64 && key.toList.head?.any Char.isAlpha &&
    Text.all (fun c => Text.isWordOrDash c || c = '.') key &&
    !forbiddenMetadataKeys.contains (Text.toAsciiLower key)

def validateSafeMetadata (metadata : JsonMap) : Except String Unit := do
  failIf (32 < metadata.length) "Safe metadata may contain at most 32 fields."
  failIf (!metadata.all fun (key, value) => validMetadataKey key && value.isScalar)
    "Capability metadata must be bounded, scalar, and free of sensitive field names."

def CapabilityFailure.validate (failure : CapabilityFailure) : Except String Unit := do
  let codeValid := failure.code ≠ "" && failure.code.utf8ByteSize ≤ 128 &&
    failure.code.toList.head?.any Char.isUpper &&
    Text.all Text.isUpperDigitOrUnderscore failure.code
  failIf (!codeValid || failure.message = "" || 2048 < failure.message.utf8ByteSize)
    "Capability failure has an invalid code or message."
  match failure.details with
  | some details => validateSafeMetadata details
  | none => .ok ()

def AttemptFailureKind.code : AttemptFailureKind → String
  | .scriptThrew => "WOML_SCRIPT_THROWN"
  | .scriptTimedOut => "WOML_SCRIPT_TIMEOUT"
  | .invalidScriptResult => "WOML_SCRIPT_NON_JSON_RESULT"
  | .contextTooLarge => "WOML_SCRIPT_CONTEXT_TOO_LARGE"
  | .resultTooLarge => "WOML_SCRIPT_RESULT_TOO_LARGE"
  | .workerCrashed => "WOML_SCRIPT_WORKER_CRASHED"
  | .hostCrashed => "WOML_SCRIPT_HOST_CRASHED"
  | .invocationCancelled => "WOML_SCRIPT_CANCELLED"
  | .interrupted => "WOML_STEP_INTERRUPTED"
  | .serviceFailed => "WOML_SERVICE_FAILED"

/-- The name of a failure kind as the source's `:?` formatting prints it. -/
def AttemptFailureKind.name : AttemptFailureKind → String
  | .scriptThrew => "ScriptThrew"
  | .scriptTimedOut => "ScriptTimedOut"
  | .invalidScriptResult => "InvalidScriptResult"
  | .contextTooLarge => "ContextTooLarge"
  | .resultTooLarge => "ResultTooLarge"
  | .workerCrashed => "WorkerCrashed"
  | .hostCrashed => "HostCrashed"
  | .invocationCancelled => "InvocationCancelled"
  | .interrupted => "Interrupted"
  | .serviceFailed => "ServiceFailed"

def AttemptFailureKind.acceptsSizeDetails : AttemptFailureKind → Bool
  | .contextTooLarge | .resultTooLarge => true
  | _ => false

/-- The service fields of a `service_failed` failure agree with its cause. -/
def AttemptFailure.validServiceFields (failure : AttemptFailure) : Bool :=
  match failure.capability, failure.operation, failure.callId, failure.retryable,
    failure.ambiguous, failure.cause with
  | some capability, some operation, some callId, some retryable, some ambiguous, some cause =>
    validCapabilityName capability && validCapabilityName operation && validId callId &&
      retryable = cause.retryable && ambiguous = cause.ambiguous && failure.code = cause.code &&
      cause.validate.isOk
  | _, _, _, _, _, _ => false

def AttemptFailure.validate (failure : AttemptFailure) : Except EventValidationError Unit := do
  if failure.kind = .serviceFailed then
    failIf (!failure.validServiceFields || failure.details.isSome)
      (.invalid ("service_failed requires capability, operation, callId, retryable, ambiguous, " ++
        "and a matching safe cause."))
  else
    failIf (failure.code ≠ failure.kind.code)
      (.invalid ("Failure kind " ++ failure.kind.name ++ " requires code " ++
        Text.quote failure.kind.code ++ ", received " ++ Text.quote failure.code ++ "."))
  failIf (failure.message = "") (.invalid "Failure message must not be empty.")
  failIf (failure.kind ≠ .serviceFailed ∧
      (failure.capability.isSome || failure.operation.isSome || failure.callId.isSome ||
        failure.retryable.isSome || failure.ambiguous.isSome || failure.cause.isSome))
    (.invalid "Only service_failed may contain service failure fields.")
  match failure.details, failure.kind.acceptsSizeDetails with
  | some _, false => .error (.invalid "Only size-limit failures may contain details.")
  | some details, true =>
    failIf (details.actualBytes.isNone && details.limitBytes.isNone)
      (.invalid "Failure size details must contain actualBytes or limitBytes.")
  | none, _ => .ok ()

def BranchFailure.expectedCode : BranchFailure → String
  | .branchTestNotBoolean .. => "WOML_BRANCH_TEST_NOT_BOOLEAN"
  | .referenceNotAvailable .. => "WOML_REFERENCE_NOT_AVAILABLE"
  | .branchSelectionInvalid .. => "WOML_BRANCH_SELECTION_INVALID"

def BranchFailure.validate (failure : BranchFailure) : Except EventValidationError Unit := do
  let (code, message) :=
    match failure with
    | .branchTestNotBoolean code message _
    | .referenceNotAvailable code message
    | .branchSelectionInvalid code message => (code, message)
  failIf (code ≠ failure.expectedCode)
    (.invalid ("Branch failure requires code " ++ Text.quote failure.expectedCode ++
      ", received " ++ Text.quote code ++ "."))
  failIf (message = "") (.invalid "Branch failure message must not be empty.")

def ParallelFailure.validate (failure : ParallelFailure) : Except EventValidationError Unit := do
  failIf (failure.kind ≠ "parallel_child_failed" || failure.code ≠ "WOML_PARALLEL_CHILD_FAILED")
    (.invalid ("Parallel failure requires kind parallel_child_failed and code " ++
      "WOML_PARALLEL_CHILD_FAILED."))
  failIf (failure.message = "") (.invalid "Parallel failure message must not be empty.")

def ApprovalFailure.validate (failure : ApprovalFailure) : Except EventValidationError Unit := do
  failIf (failure.kind ≠ "approval_timeout" || failure.code ≠ "WOML_APPROVAL_TIMEOUT")
    (.invalid "Approval failure requires kind approval_timeout and code WOML_APPROVAL_TIMEOUT.")
  failIf (failure.message = "") (.invalid "Approval failure message must not be empty.")

def ApprovalResolution.validate (resolution : ApprovalResolution) :
    Except EventValidationError Unit :=
  failIf (resolution = .decision .approved .timeout)
    (.invalid "A timeout approval resolution may reject only.")

def notificationFailureKinds : List String :=
  ["secret_not_found", "provider_auth_failed", "destination_invalid", "rate_limited",
    "provider_unavailable", "delivery_ambiguous", "host_crashed", "size_limit_exceeded",
    "request_invalid", "update_failed"]

def NotificationSafeFailure.validate (failure : NotificationSafeFailure) :
    Except EventValidationError Unit :=
  failIf (!notificationFailureKinds.contains failure.kind ||
      !Text.startsWith "WOML_" failure.code ||
      !Text.all Text.isUpperDigitOrUnderscore failure.code || failure.message = "" ||
      1024 < failure.message.utf8ByteSize || failure.retryAfterMs.any (86400000 < ·))
    (.invalid "Notification failure contains an invalid safe failure contract.")

end Woml
