import Woml.Lib.VersionedMap
import Woml.State.State

/-!
# What the durable user state is for

A workflow has a map from keys to JSON values whose keys count their changes. A command reads the
map or changes one key of it; `StateCommand.run` is what it answers and what it leaves, or nothing
where the map refuses it. `StateHistory` is a run of the store by any number of handles, with the
calls that were committed, in their order.
-/

namespace Woml

abbrev StateMap : Type := VersionedMap String Value String

inductive StateCommand
  | get (key : String)
  | has (key : String)
  | set (key : String) (value : Value) (ifVersion : Option Nat)
  | delete (key : String) (ifVersion : Option Nat)
  | increment (key : String) (amount : Int) (ifVersion : Option Nat)
  | setIfAbsent (key : String) (value : Value)

/-- The version that a command expects: none, the one of the live value, or zero for no value. -/
def StateMap.expects (m : StateMap) (key : String) : Option Nat → Bool
  | none => true
  | some 0 => (m.cell key).isNone
  | some version => (m.cell key).any (·.version = version)

/-- The integer under a key; a key without a value counts as zero. -/
def StateMap.integer (m : StateMap) (key : String) : Option Int :=
  match m.cell key with
  | some c => (safeInteger c.value).toOption
  | none => some 0

/-- The version that the input of a call expects. -/
def PreparedStateCall.ifVersion (call : PreparedStateCall) : Option Nat :=
  (call.input.get? "ifVersion").bind Value.asU64

section
variable [StateHost]

/-- The value that the canonical text of a value has. -/
def Value.normalForm (value : Value) : Option Value :=
  (Host.canonicalJson value).toOption.bind StateHost.parseJson

/-- The answer of a command, at a time, and the map that it leaves. -/
def StateCommand.run (now : String) (m : StateMap) : StateCommand → Option (StateData × StateMap)
  | .get key =>
    match m.cell key with
    | some c => some (.found c.value c.version c.stamp, m)
    | none => some (.missing, m)
  | .has key =>
    match m.cell key with
    | some c => some (.present c.version, m)
    | none => some (.absent, m)
  | .set key value ifVersion => do
    guard (m.expects key ifVersion)
    let value ← value.normalForm
    some (.stored (m.last key + 1) now, m.write key value now)
  | .delete key ifVersion => do
    guard (m.expects key ifVersion)
    match m.cell key with
    | some _ => some (.deleted true, m.remove key)
    | none => some (.deleted false, m)
  | .increment key amount ifVersion => do
    guard (m.expects key ifVersion)
    let existing ← m.integer key
    guard (isSafeInteger (existing + amount))
    some (.incremented (existing + amount) (m.last key + 1) now,
      m.write key (.int (existing + amount)) now)
  | .setIfAbsent key value =>
    match m.cell key with
    | some c => some (.storedIfAbsent false c.value c.version c.stamp, m)
    | none => do
      let value ← value.normalForm
      some (.storedIfAbsent true value (m.last key + 1) now, m.write key value now)

/-- The command of a call. -/
def PreparedStateCall.command (call : PreparedStateCall) : Option StateCommand :=
  match call.operation with
  | .get => some (.get call.key)
  | .has => some (.has call.key)
  | .set => (call.input.get? "value").map (.set call.key · call.ifVersion)
  | .delete => some (.delete call.key call.ifVersion)
  | .increment =>
    ((call.input.get? "amount").bind Value.asI64).map (.increment call.key · call.ifVersion)
  | .setIfAbsent => (call.input.get? "value").map (.setIfAbsent call.key ·)

/-! ## Runs of the store -/

/-- A call by one of the handles of a store. -/
structure StateStep (location : String) where
  handle : DurableStateStore
  located : handle.stateLocationDigest = location
  workflowId : String
  call : CapabilityCallRequest
  nowMillis : Int

structure StateCommit (location : String) where
  step : StateStep location
  execution : DurableStateExecution

variable {location : String}

def StateStep.prepared (s : StateStep location) : Except DurableStateError PreparedStateCall :=
  s.handle.prepare s.workflowId s.call

def StateStep.execute (s : StateStep location) (t : StateTables) :
    Except DurableStateError (DurableStateExecution × StateTables) :=
  s.handle.execute t s.workflowId s.call s.nowMillis

/-- The tables, and the calls that were committed. -/
structure StateHistory (location : String) where
  tables : StateTables := {}
  commits : List (StateCommit location) := []

namespace StateHistory

def step (h : StateHistory location) (s : StateStep location) : StateHistory location :=
  match s.execute h.tables with
  | .error _ => h
  | .ok (execution, tables) => { tables, commits := h.commits ++ [{ step := s, execution }] }

def run (h : StateHistory location) (steps : List (StateStep location)) : StateHistory location :=
  steps.foldl step h

/-- The calls of a workflow that were executed, in the order of their commits. -/
def executed (h : StateHistory location) (workflowId : String) : List (StateCommit location) :=
  h.commits.filter fun c => c.step.workflowId = workflowId && !c.execution.duplicate

end StateHistory

/-- A map that executes commits, one after the other, and gives the results that they had. -/
inductive Replays : List (StateCommit location) → StateMap → Prop
  | nil : Replays [] .empty
  | snoc {commits : List (StateCommit location)} {m m' : StateMap} {c : StateCommit location}
      {call : PreparedStateCall} {command : StateCommand} {now : String} {data : StateData}
      (hreplays : Replays commits m) (hcall : c.step.prepared = .ok call)
      (hcommand : call.command = some command)
      (hnow : StateHost.stateTimestamp c.step.nowMillis = some now)
      (hrun : command.run now m = some (data, m'))
      (hresult : c.execution.result = data.result call.operation) :
      Replays (commits ++ [c]) m'

end

end Woml
