import Woml.Lib.SortedMap
import Woml.State.Call

/-!
# The durable user state

The tables of the user state and the transaction that executes a call. The values of a workflow are
rows under its scope. Every change leaves a row with its result, under the key of the operation, and
that row answers the change when it is executed again. The version of a value is one more than the
largest version that the changes of its key were committed with, so a value that is deleted and
stored again goes on where it was.
-/

namespace Woml

open Checked

structure StateEntry where
  /-- The canonical JSON text of the value. -/
  valueJson : List Nat
  valueBytes : Nat
  version : Nat
  updatedAt : String

structure StoredMutation where
  scopeDigest : String
  operationName : String
  operation : StateOperation
  keyDigest : String
  inputDigest : String
  resultJson : List Nat
  resultDigest : String
  committedVersion : Option Nat

structure StateTables where
  /-- The values of a scope, by their keys. -/
  entries : SortedMap String (SortedMap String StateEntry) := .empty
  /-- The results of the changes, by their operation keys. -/
  mutations : SortedMap String StoredMutation := .empty
  /-- The number and the bytes of the values of a scope. -/
  quotas : SortedMap String (Nat × Nat) := .empty

structure DurableStateLimits where
  maxKeys : Nat
  maxBytes : Nat
  maxValueBytes : Nat

/-- What a handle is opened with, as `open_with` accepts it. -/
structure DurableStateStore where
  stateLocationDigest : String
  limits : DurableStateLimits
  keys : 0 < limits.maxKeys ∧ limits.maxKeys ≤ 10000
  bytes : 0 < limits.maxBytes ∧ limits.maxBytes ≤ 67108864
  valueBytes : 0 < limits.maxValueBytes ∧ limits.maxValueBytes ≤ 262144

/-- The data of a result. -/
inductive StateData
  | found (value : Value) (version : Nat) (updatedAt : String)
  | missing
  | present (version : Nat)
  | absent
  | stored (version : Nat) (updatedAt : String)
  | deleted (live : Bool)
  | incremented (value : Int) (version : Nat) (updatedAt : String)
  | storedIfAbsent (fresh : Bool) (value : Value) (version : Nat) (updatedAt : String)

/-- An integer as a JSON number. -/
def Value.int (n : Int) : Value :=
  .number (if n < 0 then .negInt n else .posInt n.toNat)

def Value.asI64 : Value → Option Int
  | .number (.posInt n) => if n < 2 ^ 63 then some n else none
  | .number (.negInt n) => some n
  | _ => none

def Value.isNumber : Value → Bool
  | .number _ => true
  | _ => false

namespace StateData

def json : StateData → Value
  | found value version updatedAt => .object [("found", .bool true), ("value", value),
      ("version", .int version), ("updatedAt", .string updatedAt)]
  | missing => .object [("found", .bool false)]
  | present version => .object [("present", .bool true), ("version", .int version)]
  | absent => .object [("present", .bool false)]
  | stored version updatedAt => .object [("stored", .bool true), ("version", .int version),
      ("updatedAt", .string updatedAt)]
  | deleted live => .object [("deleted", .bool live)]
  | incremented value version updatedAt => .object [("value", .int value),
      ("version", .int version), ("updatedAt", .string updatedAt)]
  | storedIfAbsent fresh value version updatedAt => .object [("stored", .bool fresh),
      ("value", value), ("version", .int version), ("updatedAt", .string updatedAt)]

/-- The result of an operation. -/
def result (data : StateData) (operation : StateOperation) : Value :=
  .object [("contract", .string "woml.state"), ("contractVersion", .int 1),
    ("kind", .string "result"), ("operation", .string operation.text), ("data", data.json)]

end StateData

structure DurableStateExecution where
  result : Value
  duplicate : Bool
  resultDigest : String
  version : Option Nat
  valueBytes : Option Nat

/-- An integer that JSON numbers represent exactly. -/
def isSafeInteger (n : Int) : Bool := -maxStateSafeInteger ≤ n && n ≤ maxStateSafeInteger

/-- `parse_safe_integer`, of the value of a text. -/
def safeInteger (value : Value) : Except DurableStateError Int :=
  match value.asI64 with
  | some n => if isSafeInteger n then .ok n else .error .integerOverflow
  | none => if value.isNumber then .error .integerOverflow else .error .integerRequired

section
variable [StateHost]

def canonicalString (value : Value) : Except DurableStateError (List Nat) :=
  (Host.canonicalJson value).mapError fun _ => .valueInvalid

def parseStoredValue (encoded : List Nat) : Except DurableStateError Value := do
  let value ← orFail (StateHost.parseJson encoded) .storeCorrupt
  failIf ((← canonicalString value) ≠ encoded) .storeCorrupt
  .ok value

def parseSafeInteger (encoded : List Nat) : Except DurableStateError Int := do
  let value ← orFail (StateHost.parseJson encoded) .storeCorrupt
  safeInteger value

/-- The integer that an increment starts from. -/
def existingInteger : Option StateEntry → Except DurableStateError Int
  | some entry => parseSafeInteger entry.valueJson
  | none => .ok 0

def stateValue (input : JsonMap) (maximum : Nat) :
    Except DurableStateError (List Nat × Nat) := do
  let value ← orFail (input.get? "value") .valueInvalid
  let encoded ← canonicalString value
  failIf (maximum < encoded.length) .valueTooLarge
  .ok (encoded, encoded.length)

def enforceVersion (input : JsonMap) (current : Option StateEntry) :
    Except DurableStateError Unit :=
  match (input.get? "ifVersion").bind Value.asU64 with
  | none => .ok ()
  | some expected =>
    if expected = 0 ∧ current.isNone ∨ current.any (·.version = expected) then .ok ()
    else .error .conflict

/-! ## The transaction -/

/-- A call that was checked, with the digests that identify it. -/
structure PreparedStateCall where
  operation : StateOperation
  input : JsonMap
  key : String
  scope : String
  keyDigest : String
  inputDigest : String
  mutation : Option MutationIdentity

namespace DurableStateStore

def scopeDigest (handle : DurableStateStore) (workflowId : String) : String :=
  sha256Prefixed (utf8 "woml.state-scope\x00v1\x00" ++ utf8 handle.stateLocationDigest ++
    utf8 "\x00" ++ utf8 workflowId)

/-- The part of `execute` before the transaction. -/
def prepare (handle : DurableStateStore) (workflowId : String) (call : CapabilityCallRequest) :
    Except DurableStateError PreparedStateCall := do
  failIf (!isShort workflowId) .invalidRequest
  failIf (!call.isValid) .invalidRequest
  failIf (call.capability ≠ "state" ∨ call.inputContractVersion ≠ 1 ∨
    call.resultContractVersion ≠ 1) .invalidRequest
  let (operation, input) ← parseStateRequest call.input call.operation
  let key ← stateKey input
  let inputJson ← canonicalString call.input
  let inputDigest := domainDigest "woml.state-input\x00v1\x00" inputJson
  let mutation ←
    if operation.isMutation then some <$> validateMutationIdentity call operation inputDigest
    else .ok none
  .ok { operation, input, key, scope := handle.scopeDigest workflowId
        keyDigest := domainDigest "woml.state-key\x00v1\x00" (utf8 key)
        inputDigest, mutation }

end DurableStateStore

namespace StateTables

variable (t : StateTables)

def scopeEntries (scope : String) : SortedMap String StateEntry :=
  (t.entries.get? scope).getD .empty

def readEntry (scope key : String) : Option StateEntry := (t.scopeEntries scope).get? key

/-- The versions that the changes of a key were committed with. -/
def committedVersions (scope keyDigest : String) : List Nat :=
  t.mutations.values.filterMap fun stored =>
    if stored.scopeDigest = scope ∧ stored.keyDigest = keyDigest then stored.committedVersion
    else none

def nextVersion (scope keyDigest : String) (current : Option StateEntry) :
    Except DurableStateError Nat := do
  let previous := (t.committedVersions scope keyDigest).max?
  failIf (current.any (previous ≠ some ·.version)) .storeCorrupt
  failIf (maxStateSafeInteger < previous.getD 0 + 1) .storeCorrupt
  .ok (previous.getD 0 + 1)

/-- The number and the bytes of the values that a scope has. -/
def usage (scope : String) : Nat × Nat :=
  ((t.scopeEntries scope).size, ((t.scopeEntries scope).values.map (·.valueBytes)).sum)

/-- `enforce_quota`: what the scope will have, if that is within the limits. -/
def enforceQuota (scope : String) (current : Option StateEntry) (replacementBytes : Option Nat)
    (limits : DurableStateLimits) : Except DurableStateError StateTables := do
  let actual := t.usage scope
  failIf ((t.quotas.get? scope).any (· ≠ actual) ∨
    (t.quotas.get? scope).isNone ∧ actual ≠ (0, 0)) .storeCorrupt
  let nextKeys ←
    match current, replacementBytes with
    | none, some _ => .ok (actual.1 + 1)
    | some _, none => if actual.1 = 0 then .error .storeCorrupt else .ok (actual.1 - 1)
    | _, _ => .ok actual.1
  let freed := (current.map (·.valueBytes)).getD 0
  failIf (actual.2 < freed) .storeCorrupt
  let nextBytes := actual.2 - freed + replacementBytes.getD 0
  failIf (limits.maxKeys < nextKeys ∨ limits.maxBytes < nextBytes) .quotaExceeded
  .ok { t with quotas := t.quotas.insert scope (nextKeys, nextBytes) }

/-- `write_entry`, with the checks of the table. -/
def writeEntry (scope key : String) (entry : StateEntry) : Except DurableStateError StateTables := do
  failIf (entry.valueBytes = 0 ∨ 262144 < entry.valueBytes) .storeUnavailable
  .ok { t with entries := t.entries.insert scope ((t.scopeEntries scope).insert key entry) }

def deleteEntry (scope key : String) : StateTables :=
  { t with entries := t.entries.insert scope ((t.scopeEntries scope).erase key) }

/-- The steps that store a value: its version, the quota and the row. -/
def storeValue (limits : DurableStateLimits) (call : PreparedStateCall)
    (current : Option StateEntry) (encoded : List Nat) (bytes : Nat) (now : String) :
    Except DurableStateError (Nat × StateTables) := do
  let version ← t.nextVersion call.scope call.keyDigest current
  let t ← t.enforceQuota call.scope current (some bytes) limits
  let t ← t.writeEntry call.scope call.key
    { valueJson := encoded, valueBytes := bytes, version, updatedAt := now }
  .ok (version, t)

/-- The steps that remove a value. -/
def removeValue (limits : DurableStateLimits) (call : PreparedStateCall)
    (current : Option StateEntry) : Except DurableStateError (Nat × StateTables) := do
  let version ← t.nextVersion call.scope call.keyDigest current
  let t ← t.enforceQuota call.scope current none limits
  .ok (version, t.deleteEntry call.scope call.key)

/-- What an operation does: the data of its result, the version that it commits, the bytes of the
value, and the tables. -/
def perform (limits : DurableStateLimits) (call : PreparedStateCall) (now : String) :
    Except DurableStateError (StateData × Option Nat × Option Nat × StateTables) :=
  let current := t.readEntry call.scope call.key
  match call.operation with
  | .get =>
    match current with
    | some entry => do
      let value ← parseStoredValue entry.valueJson
      .ok (.found value entry.version entry.updatedAt, none, none, t)
    | none => .ok (.missing, none, none, t)
  | .has =>
    match current with
    | some entry => .ok (.present entry.version, none, none, t)
    | none => .ok (.absent, none, none, t)
  | .set => do
    enforceVersion call.input current
    let (encoded, bytes) ← stateValue call.input limits.maxValueBytes
    let (version, t) ← t.storeValue limits call current encoded bytes now
    .ok (.stored version now, some version, some bytes, t)
  | .delete => do
    enforceVersion call.input current
    match current with
    | some _ => do
      let (version, t) ← t.removeValue limits call current
      .ok (.deleted true, some version, none, t)
    | none => .ok (.deleted false, none, none, t)
  | .increment => do
    enforceVersion call.input current
    let amount ← orFail ((call.input.get? "amount").bind Value.asI64) .integerOverflow
    failIf (!isSafeInteger amount) .integerOverflow
    let existing ← existingInteger current
    let value := existing + amount
    failIf (!isSafeInteger value) .integerOverflow
    let encoded := utf8 (toString value)
    let (version, t) ← t.storeValue limits call current encoded encoded.length now
    .ok (.incremented value version now, some version, some encoded.length, t)
  | .setIfAbsent =>
    match current with
    | some entry => do
      let value ← parseStoredValue entry.valueJson
      .ok (.storedIfAbsent false value entry.version entry.updatedAt, some entry.version,
        some entry.valueBytes, t)
    | none => do
      let (encoded, bytes) ← stateValue call.input limits.maxValueBytes
      let (version, t) ← t.storeValue limits call none encoded bytes now
      let value ← parseStoredValue encoded
      .ok (.storedIfAbsent true value version now, some version, some bytes, t)

/-- The answer to a change that was executed before. -/
def answer (stored : StoredMutation) (call : PreparedStateCall) (identity : MutationIdentity) :
    Except DurableStateError DurableStateExecution := do
  failIf (stored.scopeDigest ≠ call.scope ∨ stored.operationName ≠ identity.operationName ∨
    stored.operation ≠ call.operation ∨ stored.keyDigest ≠ call.keyDigest ∨
    stored.inputDigest ≠ identity.inputDigest) .operationIdentityConflict
  let result ← orFail (StateHost.parseJson stored.resultJson) .storeCorrupt
  let encoded ← canonicalString result
  failIf (domainDigest "woml.state-result\x00v1\x00" encoded ≠ stored.resultDigest) .storeCorrupt
  .ok { result, duplicate := true, resultDigest := stored.resultDigest
        version := stored.committedVersion, valueBytes := none }

/-- The row of a change. -/
def recordMutation (call : PreparedStateCall) (resultJson : List Nat) (resultDigest : String)
    (committedVersion : Option Nat) : StateTables :=
  match call.mutation with
  | none => t
  | some identity =>
    let row : StoredMutation :=
      { scopeDigest := call.scope
        operationName := identity.operationName
        operation := call.operation
        keyDigest := call.keyDigest
        inputDigest := identity.inputDigest
        resultJson
        resultDigest
        committedVersion }
    { t with mutations := t.mutations.insert identity.operationKey row }

/-- The part of `execute` in the transaction, for a call that no row answers. -/
def executeNew (limits : DurableStateLimits) (call : PreparedStateCall) (nowMillis : Int) :
    Except DurableStateError (DurableStateExecution × StateTables) := do
  let now ← orFail (StateHost.stateTimestamp nowMillis) .storeCorrupt
  let (data, version, valueBytes, t) ← t.perform limits call now
  let result := data.result call.operation
  let resultJson ← canonicalString result
  let resultDigest := domainDigest "woml.state-result\x00v1\x00" resultJson
  .ok ({ result, duplicate := false, resultDigest, version, valueBytes },
    t.recordMutation call resultJson resultDigest version)

/-- The part of `execute` in the transaction. -/
def executePrepared (limits : DurableStateLimits) (call : PreparedStateCall) (nowMillis : Int) :
    Except DurableStateError (DurableStateExecution × StateTables) :=
  match call.mutation with
  | none => t.executeNew limits call nowMillis
  | some identity =>
    match t.mutations.get? identity.operationKey with
    | some stored => (·, t) <$> answer stored call identity
    | none => t.executeNew limits call nowMillis

end StateTables

def DurableStateStore.execute (handle : DurableStateStore) (t : StateTables) (workflowId : String)
    (call : CapabilityCallRequest) (nowMillis : Int) :
    Except DurableStateError (DurableStateExecution × StateTables) := do
  let prepared ← handle.prepare workflowId call
  t.executePrepared handle.limits prepared nowMillis

end

end Woml
