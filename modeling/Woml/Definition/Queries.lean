import Woml.Host
import Woml.Lib.Worklist
import Woml.Definition.Model
import Woml.Event.Identities

/-!
# Queries over a compiled definition

Lookups by identifier take the first match, as the source's `find` does. A walk over a region of
the graph (a fork branch, a saga body) is a worklist search that does not leave its terminal node;
the source's stack and queue give the same set of nodes.
-/

namespace Woml

/-! ## Notifications of an approval -/

structure NotificationDefinition where
  deliveryId : String
  provider : String
  destination : String

structure ApprovalDefinition where
  approvalId : String
  timeoutMs : Option Nat
  onTimeout : String
  review : Option ValueExpression
  requiredApprovals : Option Nat
  requiredRoles : List String
  notifications : List NotificationDefinition

structure ParallelGroupDefinition where
  parallelId : String
  startNodeId : String
  childNodeIds : List String
  concurrency : Nat
  onError : String

namespace Notification

abbrev Fields := List (String × ValueExpression)

def hasExactly (fields : Fields) (names : List String) : Bool :=
  fields.length = names.length && names.all fun name => (fields.lookup name).isSome

def validSecretName (value : String) : Bool :=
  match value.toList with
  | [] => false
  | first :: rest => first.isUpper && rest.all Text.isUpperDigitOrUnderscore

def validDiscordSnowflake (value : String) : Bool :=
  17 ≤ value.utf8ByteSize && value.utf8ByteSize ≤ 20 && Text.all Char.isDigit value

def validWhatsappNumber (shortest longest : Nat) (value : String) : Bool :=
  shortest ≤ value.utf8ByteSize && value.utf8ByteSize ≤ longest &&
    !Text.startsWith "0" value && Text.all Char.isDigit value

def validWhatsappPhoneNumberId : String → Bool := validWhatsappNumber 6 20

def validWhatsappRecipient : String → Bool := validWhatsappNumber 8 16

def validWhatsappTemplate (value : String) : Bool :=
  value ≠ "" && Text.all (fun c => Text.isLowerOrDigit c || c = '_') value

def validWhatsappLanguage (value : String) : Bool :=
  ((value.utf8ByteSize = 2 || value.utf8ByteSize = 3) && Text.all Char.isLower value) ||
    match value.toList.reverse with
    | d :: c :: '_' :: language =>
      (language.length = 2 || language.length = 3) && language.all Char.isLower && c.isUpper &&
        d.isUpper
    | _ => false

def validSlackDestination (value : String) : Bool :=
  match Text.stripPrefix "#" value with
  | some channel =>
    match channel.toList with
    | [] => false
    | first :: rest =>
      channel.utf8ByteSize ≤ 80 && Text.isLowerOrDigit first &&
        rest.all fun c => Text.isLowerOrDigit c || c = '_' || c = '-'
  | none =>
    match value.toList with
    | [] => false
    | first :: rest =>
      9 ≤ value.utf8ByteSize && value.utf8ByteSize ≤ 32 && (first = 'C' || first = 'G') &&
        rest.all fun c => c.isUpper || c.isDigit

def validTelegramDestination (value : String) : Bool :=
  value ≠ "" && value.utf8ByteSize ≤ 20 &&
    Text.all Char.isDigit ((Text.stripPrefix "-" value).getD value)

def validReusableAlias (value : String) : Bool :=
  value.utf8ByteSize ≤ 128 && (Text.split (· = '-') value).all fun part =>
    match part with
    | [] => false
    | first :: rest => first.isLower && rest.all Text.isLowerOrDigit

/-- A template of at most 65 parts, none of them a long text. -/
def validMessage : ValueExpression → Bool
  | .template parts =>
    1 ≤ parts.length && parts.length ≤ 65 && parts.all fun part =>
      match part with
      | .text text => text.utf8ByteSize ≤ 4096
      | _ => true
  | _ => false

def validCustomProviderDelivery (fields : Fields) (expectedDomain : String)
    (providerIds : List String) (messageRequired : Bool) : Bool :=
  let deliveryId := ValueExpression.literalString (fields.lookup "deliveryId")
  let providerId := ValueExpression.literalString (fields.lookup "providerId")
  (if messageRequired then 7 else 6) ≤ fields.length && fields.length ≤ 7 &&
    (fields.all fun field =>
      ["deliveryId", "provider", "destination", "credentials", "providerId", "domain",
        "message"].contains field.1) &&
    ValueExpression.literalString (fields.lookup "provider") = some "custom" &&
    ValueExpression.literalString (fields.lookup "domain") = some expectedDomain &&
    (deliveryId.any fun value => validId value && some value = providerId) &&
    (providerId.any fun value => providerIds.contains value) &&
    ((ValueExpression.literalString (fields.lookup "destination")).any validReusableAlias) &&
    (((fields.lookup "credentials").bind ValueExpression.objectFields).any (·.isEmpty)) &&
    (!messageRequired || (fields.lookup "message").isSome) &&
    (fields.lookup "message").all validMessage

def secretName (credentials : Fields) (key : String) : Option String :=
  match credentials.lookup key with
  | some (.secretReference name) => if validSecretName name then some name else none
  | _ => none

/-- The identity under which two deliveries of one approval count as the same destination, once
the delivery is well formed for its provider. -/
def duplicateKey (provider destination : String) (fields credentials : Fields)
    (providerIds : List String) : Option String := do
  let plain := ["deliveryId", "provider", "destination", "credentials"]
  if provider = "slack" then
    guard (hasExactly fields plain && validSlackDestination destination && credentials.length = 2)
    let botToken ← secretName credentials "botToken"
    let appToken ← secretName credentials "appToken"
    some s!"slack\x00{botToken}\x00{appToken}\x00{destination}"
  else if provider = "telegram" then
    guard (hasExactly fields plain && validTelegramDestination destination &&
      credentials.length = 1)
    let botToken ← secretName credentials "botToken"
    some s!"telegram\x00{botToken}\x00{destination}"
  else if provider = "discord" then
    guard (hasExactly fields plain && validDiscordSnowflake destination && credentials.length = 1)
    let botToken ← secretName credentials "botToken"
    some s!"discord\x00{botToken}\x00{destination}"
  else if provider = "whatsapp" then
    guard (hasExactly fields (plain ++ ["templateName", "language"]) &&
      validWhatsappRecipient destination && credentials.length = 2)
    let accessToken ← secretName credentials "accessToken"
    let phoneNumberId ← ValueExpression.literalString (credentials.lookup "phoneNumberId")
    let templateName ← ValueExpression.literalString (fields.lookup "templateName")
    let language ← ValueExpression.literalString (fields.lookup "language")
    guard (validWhatsappPhoneNumberId phoneNumberId && validWhatsappTemplate templateName &&
      validWhatsappLanguage language)
    some s!"whatsapp\x00{accessToken}\x00{phoneNumberId}\x00{destination}"
  else if provider = "custom" then
    guard (validCustomProviderDelivery fields "approval" providerIds false)
    let providerId ← ValueExpression.literalString (fields.lookup "providerId")
    some s!"custom\x00{providerId}"
  else none

def destinationMarker (provider : String) : String :=
  if provider = "telegram" then ":chat:"
  else if provider = "whatsapp" then ":recipient:"
  else ":channel:"

/-- Deliveries are numbered by notification tag and by channel within it, without gaps. -/
def isOrdered (previous : Option (Nat × Nat)) (tag channel : Nat) : Bool :=
  match previous with
  | none => tag = 0 && channel = 0
  | some (previousTag, previousChannel) =>
    if tag = previousTag then channel = previousChannel + 1
    else tag = previousTag + 1 && channel = 0

/-- The deliveries from `items` on, after those with position `previous` and keys `keys`. -/
def deliveries (approvalId : String) (providerIds : List String) :
    List ValueExpression → Option (Nat × Nat) → List String → Option (List NotificationDefinition)
  | [], _, _ => some []
  | item :: items, previous, keys => do
    let fields ← item.objectFields
    let deliveryId ← ValueExpression.literalString (fields.lookup "deliveryId")
    let provider ← ValueExpression.literalString (fields.lookup "provider")
    let destination ← ValueExpression.literalString (fields.lookup "destination")
    let credentials ← (fields.lookup "credentials").bind ValueExpression.objectFields
    let suffix ← Text.stripPrefix s!"{approvalId}:notify:" deliveryId
    let (tag, channel) ← Text.splitOnce (destinationMarker provider) suffix
    let tag ← Text.parseUnsigned 64 tag
    let channel ← Text.parseUnsigned 64 channel
    guard (isOrdered previous tag channel)
    let key ← duplicateKey provider destination fields credentials providerIds
    guard (!keys.contains key)
    let rest ← deliveries approvalId providerIds items (some (tag, channel)) (key :: keys)
    some (⟨deliveryId, provider, destination⟩ :: rest)

end Notification

def approvalNotifications (approvalId : String) (fields : List (String × ValueExpression))
    (providerIds : List String) : Option (List NotificationDefinition) :=
  match fields.lookup "notifications" with
  | none => some []
  | some (.array []) => none
  | some (.array items) => Notification.deliveries approvalId providerIds items none []
  | some _ => none

/-! ## Lookups -/

namespace CompiledWorkflowDefinition

variable (w : CompiledWorkflowDefinition)

def node (nodeId : String) : Option CompiledWorkflowNode := w.graph.nodes.find? (·.id = nodeId)

def trigger (triggerId : String) : Option CompiledTrigger := w.triggers.find? (·.id = triggerId)

def fork (forkId : String) : Option CompiledFork := w.graph.forkList.find? (·.forkId = forkId)

def choice (choiceId : String) : Option CompiledControlChoice :=
  w.graph.choiceList.find? (·.choiceId = choiceId)

def durableWait (waitId : String) : Option CompiledWait :=
  w.graph.waitList.find? (·.waitId = waitId)

def durableLock (lockId : String) : Option CompiledLock :=
  w.graph.lockList.find? (·.lockId = lockId)

def saga (sagaId : String) : Option CompiledSaga := w.graph.sagaList.find? (·.sagaId = sagaId)

def sagaForControlNode (nodeId : String) : Option CompiledSaga :=
  w.graph.sagaList.find? fun saga =>
    saga.openNodeId = nodeId || saga.commitNodeId = nodeId || saga.resultNodeId = nodeId

/-- The nodes between an entry and a terminal node, which the walk does not leave. -/
def region (entryNodeId terminalNodeId : String) : List String :=
  Worklist.visit
    (fun id =>
      if id = terminalNodeId then [] else (w.graph.edges.filter (·.source = id)).map (·.target))
    (1 + w.graph.edges.length) [entryNodeId] []

def sagaForBodyNode (nodeId : String) : Option CompiledSaga :=
  w.graph.sagaList.find? fun saga =>
    (w.region saga.bodyEntryNodeId saga.bodyTerminalNodeId).contains nodeId

/-- Every fork with each of its branches, in source order. -/
def forkBranches : List (CompiledFork × CompiledForkBranch) :=
  w.graph.forkList.flatMap fun fork => fork.branches.map (fork, ·)

def forkBranchOwner (nodeId : String) : Option (CompiledFork × CompiledForkBranch) :=
  w.forkBranches.find? fun (_, branch) =>
    (w.region branch.entryNodeId branch.terminalNodeId).contains nodeId

/-! ## Lifecycle hooks -/

def lifecycleHooks : List CompiledLifecycleHook := w.lifecycle.elim [] (·.hooks)

def lifecycleHook (hookId : String) : Option CompiledLifecycleHook :=
  w.lifecycleHooks.find? (·.hookId = hookId)

def lifecycleHookForEvent (event : LifecycleEventName) : Option CompiledLifecycleHook :=
  w.lifecycleHooks.find? (·.event = event)

/-- A node of the graph, or else of the body of a loop. -/
def nodeOrBodyNode (nodeId : String) : Option CompiledWorkflowNode :=
  (w.node nodeId).or ((w.graph.forEachList.flatMap (·.body.nodes)).find? (·.id = nodeId))

def lifecycleHookForStepEvent (event : LifecycleEventName) (stepId : String) :
    Option CompiledLifecycleHook := do
  let hook ← w.lifecycleHookForEvent event
  guard event.isStep
  guard ((w.nodeOrBodyNode stepId).any (·.handler = "runtime.script"))
  guard (hook.stepIds.all (·.contains stepId))
  some hook

/-! ## Approvals and parallel groups -/

def reusableProviderIds : List String :=
  (w.reusableDefinitions.getD []).filterMap fun definition =>
    match definition with
    | .notificationProvider providerId .. => some providerId
    | .step .. => none

def approval (approvalId : String) : Option ApprovalDefinition := do
  let wait ← w.node approvalId
  guard (wait.handler = "engine.approval-wait")
  let fields ← wait.inputs.objectFields
  let onTimeout ← ValueExpression.literalString (fields.lookup "onTimeout")
  let requiredRoles :=
    match fields.lookup "requiredRoles" with
    | some (.array items) => items.filterMap fun item => ValueExpression.literalString (some item)
    | _ => []
  let notifications ← approvalNotifications approvalId fields w.reusableProviderIds
  some {
    approvalId
    timeoutMs := ValueExpression.literalU64 (fields.lookup "timeoutMs")
    onTimeout
    review := fields.lookup "review"
    requiredApprovals :=
      (ValueExpression.literalU64 (fields.lookup "requiredApprovals")).filter (· < 2 ^ 32)
    requiredRoles
    notifications }

def parallelStartNodeId (parallelId : String) : String := s!"__woml_parallel__{parallelId}__start"

/-- The position of a child edge in its group; an edge of another shape comes last. -/
def childPosition (parallelId : String) (edge : CompiledWorkflowEdge) : Nat :=
  ((Text.stripPrefix s!"{parallelId}:child:" edge.id).bind (Text.parseUnsigned 64)).getD
    (2 ^ 64 - 1)

def parallelGroup (parallelId : String) : Option ParallelGroupDefinition := do
  let startNodeId := parallelStartNodeId parallelId
  let start ← w.node startNodeId
  guard (start.handler = "engine.parallel-start")
  let fields ← start.inputs.objectFields
  let concurrency ← ValueExpression.literalU64 (fields.lookup "concurrency")
  let onError ← ValueExpression.literalString (fields.lookup "onError")
  let childEdges := w.graph.edges.filter fun edge =>
    edge.source = startNodeId && edge.parallelId = some parallelId
  let ordered := childEdges.insertionSort fun a b =>
    childPosition parallelId a ≤ childPosition parallelId b
  some { parallelId, startNodeId, childNodeIds := ordered.map (·.target), concurrency, onError }

def parallelGroupForChild (nodeId : String) : Option ParallelGroupDefinition := do
  let edge ← w.graph.edges.find? fun edge => edge.target = nodeId && edge.parallelId.isSome
  let parallelId ← edge.parallelId
  w.parallelGroup parallelId

/-- The part of the model contract on a parallel group that closes its children: a child has one
incoming edge, from the start of the group, and one outgoing edge, to its join. -/
def childBoundariesAreClosed (parallelId : String) : Bool :=
  let children := w.graph.edges.filter fun edge =>
    edge.parallelId = some parallelId && edge.source = parallelStartNodeId parallelId
  children.all fun child =>
    match w.graph.edges.filter (·.target = child.target),
      w.graph.edges.filter (·.source = child.target) with
    | [incoming], [outgoing] =>
      incoming.source = parallelStartNodeId parallelId && incoming.parallelId = some parallelId &&
        outgoing.target = parallelId && outgoing.parallelId = some parallelId
    | _, _ => false

/-- The one node without outgoing edges, if there is one only. -/
def terminalNodeId : Option String :=
  let terminals := ((w.graph.nodes.map (·.id)).dedup).filter fun id =>
    !w.graph.edges.any (·.source = id)
  match terminals with
  | [terminal] => some terminal
  | _ => none

/-! ## Runtime policy -/

def optionalField (key : String) (value : Option Value) : List (String × Value) :=
  value.elim [] fun v => [(key, v)]

def natValue (n : Nat) : Value := .number (.posInt n)

/-- A policy as it is serialised. -/
def policyValue (policy : CompiledRuntimePolicy) : Value :=
  .object (
    [("profileVersion", natValue policy.profileVersion)] ++
    optionalField "concurrency" (policy.concurrency.map natValue) ++
    optionalField "timeoutMs" (policy.timeoutMs.map natValue) ++
    optionalField "rateLimit" (policy.rateLimit.map fun limit =>
      .object [("count", natValue limit.count), ("windowMs", natValue limit.windowMs),
        ("algorithm", .string "rolling_window")]) ++
    optionalField "queue" (policy.queue.map fun queue =>
      .object [("name", .string queue.name), ("discipline", .string "work_conserving_fifo")]))

def runtimePolicyHash [Host] : Option String := do
  let policy ← w.runtimePolicy
  let bytes ← (Host.canonicalJson (policyValue policy)).toOption
  some (sha256Prefixed bytes)

def runtimePolicyQueueName [Host] : Option String := do
  let policy ← w.runtimePolicy
  some (policy.queue.elim ("workflow-" ++ Host.sha256 (utf8 w.workflowId)) (·.name))

end CompiledWorkflowDefinition

/-! ## Retry delays -/

/-- The delay before attempt `nextAttempt`. The exponential delay is floating-point arithmetic. -/
def RetryPolicy.delayBeforeAttempt [Host] (policy : RetryPolicy) (nextAttempt : Nat) : Option Nat :=
  if nextAttempt < 2 ∨ policy.maxAttempts < nextAttempt then none
  else
    match policy.backoff with
    | .none => none
    | .fixed delayMs => some delayMs
    | .exponential initialDelayMs multiplier maximumDelayMs =>
      maximumDelayMs.bind fun maximum =>
        Host.exponentialDelay initialDelayMs multiplier (nextAttempt - 2) maximum

/-! ## Derived identities -/

def stepEffectIdempotencyKey [Host] (runId definitionHash nodeId : String) : String :=
  sha256Prefixed (utf8 (
    "\x7b\"contract\":\"woml.step-effect\",\"definitionHash\":" ++ Text.jsonString definitionHash ++
    ",\"nodeId\":" ++ Text.jsonString nodeId ++ ",\"runId\":" ++ Text.jsonString runId ++
    ",\"version\":1\x7d"))

def deriveLifecycleHookInvocationId [Host] (runId hookId : String)
    (subjectKind : LifecycleSubjectKind) (subjectId : String) : String :=
  let kind := match subjectKind with
    | .workflow => "workflow"
    | .step => "step"
  let parts := [runId, hookId, kind, subjectId].map fun part => s!"{part.utf8ByteSize}:{part}"
  sha256Prefixed (utf8 ("|".intercalate parts))

/-- The event schema of a run of a definition of the given model schema. -/
def runEventSchemaVersionForModel (modelSchemaVersion : Nat) : Nat :=
  if 21 ≤ modelSchemaVersion then 20
  else if 10 ≤ modelSchemaVersion then modelSchemaVersion - 1
  else if 8 ≤ modelSchemaVersion then 8
  else if 2 ≤ modelSchemaVersion then modelSchemaVersion
  else 1

end Woml
