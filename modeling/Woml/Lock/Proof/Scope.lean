import Woml.Engine.Proof.Correction
import Woml.Lock.Proof.Trail

/-!
# Steps in the scope of a lock

Readiness asks the direct predecessors of a node, and a step of an iteration is not asked at all.
The acquire node of a lock is a predecessor of the first step of its scope only, so that a step
further in starts after its lease was lost. `protected_starts_iff` says which histories are free of
this: those in which the lock of every step was acquired before it starts, and neither released nor
lost.
-/

namespace Woml

open Checked ProjectionFoldState

/-- The locks in whose scope the event starts an attempt, each with the iteration that takes it. A
loop that is opened in a scope is in it with every step. -/
def DefinitionRef.protectors (w : DefinitionRef) (event : RunEvent) :
    List (CompiledLock × Option ForEachIterationScope) :=
  match event.payload, event.iteration with
  | .stepAttemptStarted data, none =>
    (w.graph.lockList.filter (·.containsNode data.nodeId w.graph.edges)).map (·, none)
  | .stepAttemptStarted data, some scope =>
    (w.graph.forEachList.filter (·.forEachId = scope.forEachId)).flatMap fun loop =>
      (w.graph.lockList.filter (·.containsNode data.nodeId loop.body.edges)).map (·, some scope) ++
        (w.graph.lockList.filter (·.containsNode loop.openNodeId w.graph.edges)).map (·, none)
  | _, _ => []

/-- The lock is held once the events are folded. -/
def HeldAfter [Host] (events : List RunEvent) (lockId : String)
    (scope : Option ForEachIterationScope) : Prop :=
  ∃ s lock, fromEvents events = .ok s ∧
    s.projection.lockAt lockId scope = some lock ∧ lock.status = .held

/-- The events have the acquisition of the lock, and neither its release nor its loss. -/
def KeepsLease (events : List RunEvent) (lockId : String) (scope : Option ForEachIterationScope) :
    Prop :=
  (∃ event ∈ events, event.lockChange lockId scope = some .held) ∧
    ∀ event ∈ events, event.lockChange lockId scope ≠ some .released ∧
      event.lockChange lockId scope ≠ some .leaseLost

instance (events : List RunEvent) (lockId : String) (scope : Option ForEachIterationScope) :
    Decidable (KeepsLease events lockId scope) := inferInstanceAs (Decidable (_ ∧ _))

theorem heldAfter_iff [Host] {es : List RunEvent} {s : ProjectionFoldState}
    (h : fromEvents es = .ok s) (li : String) (scope : Option ForEachIterationScope) :
    HeldAfter es li scope ↔ KeepsLease es li scope := by
  have ht : HeldAfter es li scope ↔ .held ∈ lockTrail es li scope ∧
      .released ∉ lockTrail es li scope ∧ .leaseLost ∉ lockTrail es li scope := by
    rw [← held_iff_trail h, HeldAfter, h]
    simp
  rw [ht, KeepsLease]
  simp only [lockTrail, List.mem_filterMap, not_exists, not_and]
  exact and_congr_right fun _ => ⟨fun hn event he => ⟨hn.1 event he, hn.2 event he⟩,
    fun hn => ⟨fun event he => (hn event he).1, fun event he => (hn event he).2⟩⟩

namespace LockedTransfer

open SerialRun (definitionHash)

def debitDigest : String := "8ceb5f328db7c69522e75bd0fff4a42ad82d3eab75601b6ef6ea9c4b559d638e"

def creditDigest : String := "0491d4b03a82abd58e5975f46f8a60d37d0e2be79863afc01973aa865b154890"

/-- What the idempotency key of a step is the digest of. -/
def effectText (nodeId : String) : String :=
  "\x7b\"contract\":\"woml.step-effect\",\"definitionHash\":\"" ++ definitionHash ++
    "\",\"nodeId\":\"" ++ nodeId ++ "\",\"runId\":\"run\",\"version\":1\x7d"

@[reducible] def host : Host := SerialRun.host "orders" LoopSaga.queueDigest
  [(effectText "debit", debitDigest), (effectText "credit", creditDigest)]

def definition : DefinitionRef where
  address := 0
  schemaVersion := 19
  workflowId := "orders"
  triggers := [⟨"start", "trigger.manual"⟩]
  graph := {
    entryNodeIds := ["__woml_lock__account__acquire"]
    nodes := [
      { id := "__woml_lock__account__acquire", handler := "engine.lock-acquire" },
      { id := "debit", handler := "runtime.script" },
      { id := "credit", handler := "runtime.script" },
      { id := "__woml_lock__account__release", handler := "engine.lock-release" },
      { id := "account", handler := "engine.lock-result" },
      { id := "__woml_workflow__settlement", handler := "engine.workflow-settlement" }]
    edges := [
      { id := "account:acquire", source := "__woml_lock__account__acquire", target := "debit" },
      { id := "debit:credit", source := "debit", target := "credit" },
      { id := "account:release", source := "credit", target := "__woml_lock__account__release" },
      { id := "account:result", source := "__woml_lock__account__release", target := "account" },
      { id := "__woml_workflow__:main:settlement", source := "account"
        target := "__woml_workflow__settlement" }]
    forks := some []
    choices := some []
    contextVisibility := some []
    settlement := some ⟨"__woml_workflow__settlement", "account", []⟩
    forEach := some []
    waits := some []
    locks := some [{
      lockId := "account"
      acquireNodeId := "__woml_lock__account__acquire"
      releaseNodeId := "__woml_lock__account__release"
      resultNodeId := "account"
      bodyEntryNodeId := "debit"
      bodyTerminalNodeId := "credit"
      key := .literal (.string "account")
      acquireTimeoutMs := 1000
      leaseMs := 5000
      outerStepIds := [] }]
    sagas := some [] }
  runtimePolicy := some SerialRun.policy

def event (sequence : Nat) (occurredAt : DateTime) (payload : RunEventPayload) : RunEvent :=
  { eventSchemaVersion := 18, eventId := s!"e{sequence}", runId := "run", sequence, occurredAt
    payload }

/-- The end of the lease. -/
def expiry : DateTime := 5000000000

/-- The lease is lost between the debit and the credit. -/
def history : List RunEvent :=
  [event 1 0 (SerialRun.admission LoopSaga.queueDigest), event 2 0 (.runExecutionStarted ⟨0, none⟩),
    event 3 0 (.lockWaitRegistered
      ⟨"account", "account", 1, 0, 1000000000, "__woml_lock__account__acquire"⟩),
    event 4 0 (.lockAcquired
      ⟨"account", "account", "lease_1", "1", 0, expiry, "__woml_lock__account__acquire"⟩),
    event 5 0 (.stepAttemptStarted
      ⟨"debit", 1, "i1", "runtime.script", some ("sha256:" ++ debitDigest)⟩),
    event 6 expiry (.stepAttemptSucceeded ⟨"debit", 1, "i1", .object []⟩),
    event 7 expiry (.lockLeaseLost ⟨"account", "account", "lease_1", "1", expiry, expiry, true⟩),
    event 8 expiry (.stepAttemptStarted
      ⟨"credit", 1, "i2", "runtime.script", some ("sha256:" ++ creditDigest)⟩)]

def check (events : List RunEvent) : Except EngineError ProjectionFoldState :=
  @checkEventHistoryAgainstDefinition host 9 (fun _ => expiry) definition definitionHash events

end LockedTransfer

end Woml
