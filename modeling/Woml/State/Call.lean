import Woml.Event.Identities
import Woml.Host

/-!
# Calls of the durable user state

A script reads and changes the state of its workflow by capability calls. The call carries its
input as a JSON document of the state contract, and a change carries the name that identifies it.
What is checked about a call before the tables are opened is here.
-/

namespace Woml

open Checked

/-- The libraries that the state store uses besides those of the engine. -/
class StateHost extends Host where
  /-- The JSON value of a text. -/
  parseJson : List Nat → Option Value
  /-- Milliseconds since the Unix epoch as a text, unless they are out of the calendar's range. -/
  stateTimestamp : Int → Option String

inductive DurableStateError
  | invalidRequest
  | keyInvalid
  | valueInvalid
  | valueTooLarge
  | conflict
  | operationNameInvalid
  | operationIdentityConflict
  | quotaExceeded
  | integerRequired
  | integerOverflow
  | storeUnavailable
  | storeCorrupt
  deriving DecidableEq

def maxStateSafeInteger : Nat := 9007199254740991

/-! ## Capability calls -/

inductive CapabilityIdentityMode
  | automatic
  | named
  deriving DecidableEq

structure CapabilityCallIdentity where
  mode : CapabilityIdentityMode
  stepIdempotencyKey : String
  operationName : String
  operationKey : String
  providerIdempotencyKey : Option String := none

structure CapabilityCallLimits where
  inputBytes : Nat
  resultBytes : Nat
  timeoutMs : Nat

structure CapabilityCallRequest where
  contract : String
  contractVersion : Nat
  messageType : String
  invocationId : String
  callId : String
  runId : String
  nodeId : String
  attemptNumber : Nat
  capability : String
  operation : String
  inputContractVersion : Nat
  resultContractVersion : Nat
  identity : CapabilityCallIdentity
  limits : CapabilityCallLimits
  input : Value

/-- `valid_name`: lower-case segments between `.`, `_` and `-`. -/
def validName (value : String) : Bool :=
  value.utf8ByteSize ≤ 128 &&
    (Text.split (fun c => c = '.' || c = '_' || c = '-') value).all fun segment =>
      segment.head?.any Char.isLower && segment.tail.all Text.isLowerOrDigit

/-- A text of 1 to 256 bytes. -/
def isShort (value : String) : Bool := value ≠ "" && value.utf8ByteSize ≤ 256

/-- `DEFAULT_CAPABILITY_FRAME_BYTES` -/
def capabilityFrameBytes : Nat := 8388608

def maxCapabilityTimeoutMs : Nat := 86400000

/-- `CapabilityCallRequest::validate` -/
def CapabilityCallRequest.isValid (call : CapabilityCallRequest) : Bool :=
  call.contract = "woml.capability-call" && call.contractVersion = 1 &&
    call.messageType = "request" &&
    [call.invocationId, call.callId, call.runId, call.nodeId].all isShort &&
    (1 ≤ call.attemptNumber && call.attemptNumber ≤ 10) && validName call.capability &&
    validName call.operation && 0 < call.inputContractVersion && 0 < call.resultContractVersion &&
    validSha256 call.identity.stepIdempotencyKey && validSha256 call.identity.operationKey &&
    isShort call.identity.operationName && call.identity.providerIdempotencyKey.all isShort &&
    (1 ≤ call.limits.inputBytes && call.limits.inputBytes ≤ capabilityFrameBytes) &&
    (1 ≤ call.limits.resultBytes && call.limits.resultBytes ≤ capabilityFrameBytes) &&
    (1 ≤ call.limits.timeoutMs && call.limits.timeoutMs ≤ maxCapabilityTimeoutMs)

/-! ## Requests of the state contract -/

inductive StateOperation
  | get
  | has
  | set
  | delete
  | increment
  | setIfAbsent
  deriving DecidableEq

namespace StateOperation

def text : StateOperation → String
  | get => "get"
  | has => "has"
  | set => "set"
  | delete => "delete"
  | increment => "increment"
  | setIfAbsent => "set_if_absent"

/-- `STATE_OPERATIONS` -/
def all : List StateOperation := [get, has, set, delete, increment, setIfAbsent]

def ofText (text : String) : Option StateOperation := all.find? (·.text = text)

/-- The members that the input of an operation may have. -/
def allowed : StateOperation → List String
  | get | has => ["key"]
  | set => ["key", "value", "ifVersion"]
  | delete => ["key", "ifVersion"]
  | increment => ["key", "amount", "ifVersion"]
  | setIfAbsent => ["key", "value"]

/-- The members that it must have. -/
def required : StateOperation → List String
  | get | has | delete => ["key"]
  | set | setIfAbsent => ["key", "value"]
  | increment => ["key", "amount"]

def isMutation : StateOperation → Bool
  | get | has => false
  | _ => true

end StateOperation

structure StateRequest where
  contract : String
  contractVersion : Nat
  kind : String
  operation : String
  input : JsonMap

/-- The members of a request, from their JSON values. -/
def StateRequest.ofFields : Value → Value → Value → Value → Value → Option StateRequest
  | .string contract, .number (.posInt contractVersion), .string kind, .string operation,
    .object input =>
    if contractVersion < 2 ^ 32 then
      some { contract, contractVersion, kind, operation, input }
    else none
  | _, _, _, _, _ => none

/-- The deserializer of requests: an object with exactly their members, or an array of them. -/
def StateRequest.ofValue : Value → Option StateRequest
  | .object fields => do
    let fields : JsonMap := fields
    guard (fields.keys.all
      (["contract", "contractVersion", "kind", "operation", "input"].contains ·))
    ofFields (← fields.get? "contract") (← fields.get? "contractVersion") (← fields.get? "kind")
      (← fields.get? "operation") (← fields.get? "input")
  | .array [contract, contractVersion, kind, operation, input] =>
    ofFields contract contractVersion kind operation input
  | _ => none

def stateKey (input : JsonMap) : Except DurableStateError String := do
  let key ← orFail ((input.get? "key").bind Value.asStr) .keyInvalid
  failIf (!isShort key) .keyInvalid
  .ok key

/-- `parse_request` -/
def parseStateRequest (input : Value) (expectedOperation : String) :
    Except DurableStateError (StateOperation × JsonMap) := do
  let request ← orFail (StateRequest.ofValue input) .invalidRequest
  failIf (request.contract ≠ "woml.state" ∨ request.contractVersion ≠ 1 ∨
    request.kind ≠ "request" ∨ request.operation ≠ expectedOperation) .invalidRequest
  let operation ← orFail (StateOperation.ofText request.operation) .invalidRequest
  failIf (request.input.keys.any (!operation.allowed.contains ·) ∨
    operation.required.any (!request.input.containsKey ·)) .invalidRequest
  let _ ← stateKey request.input
  failIf ((request.input.get? "ifVersion").any fun version =>
    !version.asU64.any (· ≤ maxStateSafeInteger)) .invalidRequest
  .ok (operation, request.input)

/-! ## The identity of a change -/

section
variable [Host]

/-- `digest` -/
def domainDigest (domain : String) (bytes : List Nat) : String :=
  sha256Prefixed (utf8 domain ++ bytes)

def deriveOperationKey (stepIdempotencyKey operationName : String) : String :=
  sha256Prefixed (utf8 "woml.capability-operation\x00v1\x00" ++ utf8 stepIdempotencyKey ++
    utf8 "\x00" ++ utf8 operationName)

def validOperationName (name : String) : Bool :=
  name.toList.head?.any Char.isLower && name.utf8ByteSize ≤ 128 &&
    name.toList.tail.all fun c => Text.isLowerOrDigit c || c = '.' || c = '_' || c = '-'

structure MutationIdentity where
  operationKey : String
  operationName : String
  inputDigest : String
  deriving DecidableEq

def validateMutationIdentity (call : CapabilityCallRequest) (operation : StateOperation)
    (inputDigest : String) : Except DurableStateError MutationIdentity := do
  failIf (call.identity.mode ≠ .named ∨ call.identity.operationKey ≠
      deriveOperationKey call.identity.stepIdempotencyKey call.identity.operationName)
    .operationNameInvalid
  let authorName ← orFail
    (Text.stripPrefix ("state." ++ operation.text ++ ".") call.identity.operationName)
    .operationNameInvalid
  failIf (!validOperationName authorName) .operationNameInvalid
  .ok { operationKey := call.identity.operationKey, operationName := call.identity.operationName,
        inputDigest }

end

end Woml
