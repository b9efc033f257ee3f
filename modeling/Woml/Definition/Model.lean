import Woml.Event.Data

/-!
# Compiled workflow definitions

The compiled model that runs are executed and checked against. Fields that no modelled function
reads (source metadata, module bundles, script bodies, signal schemas) are left out; the optional
sections of the graph stay optional, because an absent section and an empty one differ for the
incremental readiness cursor.
-/

namespace Woml

/-! ## Expressions -/

inductive TemplatePart
  | text (text : String)
  | contextReference (path : List String)
  | lifecycleReference (path : List String)

inductive ValueExpression
  | literal (value : Value)
  | contextReference (path : List String)
  | lifecycleReference (path : List String)
  | secretReference (name : String)
  | object (fields : List (String × ValueExpression))
  | array (items : List ValueExpression)
  | template (parts : List TemplatePart)

inductive EdgeCondition
  | always
  | boolean (value : ValueExpression)
  | truthy (value : ValueExpression)
  | equals (left right : ValueExpression)

namespace ValueExpression

def asLiteral : ValueExpression → Option Value
  | literal value => some value
  | _ => none

def objectFields : ValueExpression → Option (List (String × ValueExpression))
  | object fields => some fields
  | _ => none

/-- A member of an object expression. -/
def field (fields : List (String × ValueExpression)) (key : String) : Option ValueExpression :=
  fields.lookup key

def literalString (expression : Option ValueExpression) : Option String :=
  expression.bind fun e => e.asLiteral.bind Value.asStr

def literalU64 (expression : Option ValueExpression) : Option Nat :=
  expression.bind fun e => e.asLiteral.bind Value.asU64

end ValueExpression

def EdgeCondition.isAlways : EdgeCondition → Bool
  | always => true
  | _ => false

/-! ## Policies -/

inductive BackoffPolicy
  | none
  | fixed (delayMs : Nat)
  | exponential (initialDelayMs : Nat) (multiplier : F64) (maximumDelayMs : Option Nat)

structure RetryPolicy where
  maxAttempts : Nat
  backoff : BackoffPolicy

structure CompiledRateLimitPolicy where
  count : Nat
  windowMs : Nat

structure CompiledQueuePolicy where
  name : String

/-- The rate-limit algorithm and the queue discipline have one value each in the source. -/
structure CompiledRuntimePolicy where
  profileVersion : Nat
  concurrency : Option Nat := none
  timeoutMs : Option Nat := none
  rateLimit : Option CompiledRateLimitPolicy := none
  queue : Option CompiledQueuePolicy := none

/-! ## Nodes and edges -/

structure CompiledExecutionPlacement where
  profileVersion : Nat
  target : String
  requiredCapabilities : List String

structure ScriptRuntimeBindings where
  bindingVersion : Nat
  bindings : List String
  requiredSecrets : List String

structure CompiledWorkflowNode where
  id : String
  handler : String
  inputs : ValueExpression := .object []
  retryPolicy : Option RetryPolicy := none
  scriptRuntime : Option ScriptRuntimeBindings := none
  execution : Option CompiledExecutionPlacement := none

structure CompiledWorkflowEdge where
  id : String
  source : String
  target : String
  condition : EdgeCondition := .always
  branchId : Option String := none
  parallelId : Option String := none
  approvalId : Option String := none

/-! ## Control flow -/

structure CompiledForkBranch where
  branchId : String
  entryNodeId : String
  terminalNodeId : String

structure CompiledFork where
  forkId : String
  openNodeId : String
  joinNodeId : String
  branches : List CompiledForkBranch
  joinedBranchIds : List String

structure CompiledStringChoiceCase where
  armId : String
  value : String

structure CompiledControlChoice where
  choiceId : String
  selectorNodeId : String
  joinNodeId : String
  armIds : List String
  stringSelector : Option ValueExpression := none
  stringCases : Option (List CompiledStringChoiceCase) := none
  defaultArmId : Option String := none
  resultNodeId : Option String := none

structure CompiledContextVisibility where
  nodeId : String
  stepIds : List String

structure CompiledWorkflowSettlement where
  nodeId : String
  mainResultNodeId : String
  ownedBranchTerminalNodeIds : List String

structure CompiledForEachBody where
  entryNodeIds : List String
  nodes : List CompiledWorkflowNode
  edges : List CompiledWorkflowEdge
  choices : List CompiledControlChoice
  contextVisibility : List CompiledContextVisibility
  terminalNodeId : String

structure CompiledForEach where
  forEachId : String
  openNodeId : String
  resultNodeId : String
  items : ValueExpression
  concurrency : Nat
  outerStepIds : List String
  body : CompiledForEachBody
  result : Option ValueExpression := none

inductive CompiledWait
  | duration (waitId nodeId : String) (durationMs : Nat)
  | until (waitId nodeId : String) (instant : ValueExpression)
  | signal (waitId nodeId : String) (signals : List String) (correlation : ValueExpression)
      (timeoutMs : Option Nat) (onTimeout : String)

namespace CompiledWait

def waitId : CompiledWait → String
  | duration waitId .. | «until» waitId .. | signal waitId .. => waitId

def nodeId : CompiledWait → String
  | duration _ nodeId .. | «until» _ nodeId .. | signal _ nodeId .. => nodeId

def kind : CompiledWait → DurableWaitKind
  | duration .. => .duration
  | «until» .. => .until
  | signal .. => .signal

end CompiledWait

structure CompiledLock where
  lockId : String
  acquireNodeId : String
  releaseNodeId : String
  resultNodeId : String
  bodyEntryNodeId : String
  bodyTerminalNodeId : String
  key : ValueExpression
  acquireTimeoutMs : Nat
  leaseMs : Nat
  outerStepIds : List String

inductive CompiledCorrectionIdentity
  | static (actionId : String)
  | forEachIteration (forEachId actionIdTemplate : String)

structure CompiledCorrectiveAction where
  actionId : String
  node : CompiledWorkflowNode
  identity : CompiledCorrectionIdentity
  visibleStepIds : List String
  forStepId : Option String := none

structure CompiledSaga where
  sagaId : String
  openNodeId : String
  commitNodeId : String
  resultNodeId : String
  bodyEntryNodeId : String
  bodyTerminalNodeId : String
  bodyResultNodeId : String
  outerStepIds : List String
  compensations : List CompiledCorrectiveAction
  cleanup : List CompiledCorrectiveAction

/-! ## The definition -/

structure CompiledLifecycleAction where
  actionId : String
  handler : String

structure CompiledLifecycleHook where
  hookId : String
  event : LifecycleEventName
  stepIds : Option (List String) := none
  actions : List CompiledLifecycleAction

structure CompiledLifecycleDefinition where
  profileVersion : Nat
  hooks : List CompiledLifecycleHook

structure CompiledReusableLifecycle where
  onSuccess : Option (List String) := none
  onError : Option (List String) := none
  onComplete : Option (List String) := none

inductive CompiledReusableInvocation
  | step (invocationId nodeId definitionDigest : String)
      (lifecycle : Option CompiledReusableLifecycle)
  | notificationProvider (providerId definitionDigest : String)
      (lifecycle : Option CompiledReusableLifecycle)

structure CompiledCommunicationRequirements where
  profileVersion : Nat

structure CompiledTrigger where
  id : String
  handler : String

structure CompiledWorkflowGraph where
  entryNodeIds : List String
  nodes : List CompiledWorkflowNode
  edges : List CompiledWorkflowEdge
  forks : Option (List CompiledFork) := none
  choices : Option (List CompiledControlChoice) := none
  contextVisibility : Option (List CompiledContextVisibility) := none
  settlement : Option CompiledWorkflowSettlement := none
  forEach : Option (List CompiledForEach) := none
  waits : Option (List CompiledWait) := none
  locks : Option (List CompiledLock) := none
  sagas : Option (List CompiledSaga) := none

structure CompiledWorkflowDefinition where
  schemaVersion : Nat
  workflowId : String
  triggers : List CompiledTrigger
  graph : CompiledWorkflowGraph
  lifecycle : Option CompiledLifecycleDefinition := none
  runtimePolicy : Option CompiledRuntimePolicy := none
  reusableDefinitions : Option (List CompiledReusableInvocation) := none
  communication : Option CompiledCommunicationRequirements := none

/-! ## Sections of the graph, empty when absent -/

namespace CompiledWorkflowGraph

variable (g : CompiledWorkflowGraph)

def forkList : List CompiledFork := g.forks.getD []
def choiceList : List CompiledControlChoice := g.choices.getD []
def forEachList : List CompiledForEach := g.forEach.getD []
def waitList : List CompiledWait := g.waits.getD []
def lockList : List CompiledLock := g.locks.getD []
def sagaList : List CompiledSaga := g.sagas.getD []

end CompiledWorkflowGraph

end Woml
