import Woml.Engine.Frontier

/-!
# The cursor over a history

`HistoryPrefix` replays one immutable history monotonically. `at` advances the fold to a position,
`queryAt` also prepares the latest-attempt ordinals and the frontier that answer readiness queries
at that position. An event that the fold rejects poisons the cursor: every later call returns the
same error.
-/

namespace Woml

def EventValidationError.toText : EventValidationError → String
  | .unsupportedSchemaVersion version => s!"unsupported run event schema version {version}"
  | .invalid message => message

def FoldError.toText : FoldError → String
  | .invalidEvent error => error.toText
  | .invalidHistory message => message

/-- What a query reads: the projection, the ordinals of the latest attempts, the frontier. -/
structure ReadinessPrefix where
  projection : RunProjection
  latest : Option (SortedMap String Nat)
  frontier : Option Frontier

/-- The frontier, when it belongs to the definition that asks. -/
def ReadinessPrefix.frontierFor (view : ReadinessPrefix) (definition : DefinitionRef) :
    Option Frontier :=
  view.frontier.filter (·.definition.address = definition.address)

structure HistoryPrefix where
  events : List RunEvent
  state : ProjectionFoldState := {}
  next : Nat := 0
  latest : Option (SortedMap String Nat) := none
  poisoned : Option String := none
  frontierDefinition : Option (DefinitionRef × String) := none
  frontier : Option Frontier := none

namespace HistoryPrefix

def new (events : List RunEvent) : HistoryPrefix := { events }

def withDefinition (events : List RunEvent) (definition : DefinitionRef) (hash : String) :
    HistoryPrefix :=
  { events, frontierDefinition := some (definition, hash) }

def invalidateFrontier (c : HistoryPrefix) : HistoryPrefix :=
  { c with frontierDefinition := none, frontier := none }

/-- The ordinals after the attempts from `previous` on were appended. -/
def extendLatest (latest : SortedMap String Nat) (attempts : List AttemptProjection)
    (previous : Nat) : SortedMap String Nat :=
  (attempts.zipIdx.drop previous).foldl
    (fun latest attempt => latest.insert attempt.1.identity.nodeId attempt.2) latest

/-- The frontier's share of an accepted event. -/
def followEvent (c : HistoryPrefix) (event : RunEvent) : HistoryPrefix :=
  if c.frontierDefinition.isSome then
    match changedNode event with
    | none => c.invalidateFrontier
    | some none => c
    | some (some node) =>
      match c.frontier, c.latest with
      | some frontier, some latest =>
        match frontier.update node c.state.projection latest with
        | some frontier => { c with frontier := some frontier }
        | none => c.invalidateFrontier
      | _, _ => c
  else c

/-- The cursor after it applied `event`. -/
def accept (c : HistoryPrefix) (event : RunEvent) (state : ProjectionFoldState) : HistoryPrefix :=
  let previous := c.state.projection.attempts.length
  let c := { c with state }
  let c :=
    if state.projection.attempts.length < previous then
      { c with latest := none }.invalidateFrontier
    else c
  let c := { c with latest := c.latest.map (extendLatest · state.projection.attempts previous) }
  let c := c.followEvent event
  { c with next := c.next + 1 }

def poison (c : HistoryPrefix) (error : String) : HistoryPrefix :=
  { { c with latest := none }.invalidateFrontier with state := {}, poisoned := some error }

variable [Host]

/-- The loop of `at`: `steps` events from the position of the cursor. -/
def advance : Nat → HistoryPrefix → HistoryPrefix × Except EngineError RunProjection
  | 0, c => (c, .ok c.state.projection)
  | steps + 1, c =>
    match c.events[c.next]? with
    | none => (c, .ok c.state.projection)
    | some event =>
      match c.state.apply event with
      | .error error => (c.poison error.toText, .error (.message error.toText))
      | .ok state => advance steps (c.accept event state)

def «at» (c : HistoryPrefix) (position : Nat) : HistoryPrefix × Except EngineError RunProjection :=
  match c.poisoned with
  | some error => (c, .error (.message error))
  | none =>
    if position < c.next ∨ c.events.length < position then
      (c, .error (.message
        "History prefix cursor must advance within its bound event slice."))
    else c.advance (position - c.next)

/-- The ordinals of the latest attempts, built from scratch. -/
def latestOrdinals (p : RunProjection) : SortedMap String Nat := extendLatest .empty p.attempts 0

/-- The cursor with what a readiness query needs. -/
def prepare (c : HistoryPrefix) : HistoryPrefix :=
  if c.state.projection.status ≠ .running then c
  else
    let latest := c.latest.getD (latestOrdinals c.state.projection)
    let c := { c with latest := some latest }
    match c.frontier, c.frontierDefinition with
    | none, some (definition, hash) =>
      match readinessBinding definition.toCompiledWorkflowDefinition hash c.state.projection with
      | .ok true =>
        match Frontier.new definition c.state.projection latest with
        | some frontier => { c with frontier := some frontier }
        | none => c.invalidateFrontier
      | _ => c
    | _, _ => c

def queryAt (c : HistoryPrefix) (position : Nat) :
    HistoryPrefix × Except EngineError ReadinessPrefix :=
  match c.at position with
  | (c, .error error) => (c, .error error)
  | (c, .ok _) =>
    let c := c.prepare
    (c, .ok ⟨c.state.projection, c.latest, c.frontier⟩)

end HistoryPrefix

/-! ## Readiness queries over a cursor -/

namespace ReadinessGraph

variable (g : ReadinessGraph) (fuel : Nat) (definitionHash : String) (view : ReadinessPrefix)
  (now : DateTime)

def readyFromPrefixAt : Except EngineError (List String) := do
  if ← readinessBinding g.workflow.toCompiledWorkflowDefinition definitionHash
      view.projection then
    match view.frontierFor g.workflow with
    | some frontier => .ok (frontier.readyAt now)
    | none => g.scan view.projection fuel now (.prefixed view.projection view.latest)
  else .ok []

def isReadyFromPrefixAt (nodeId : String) : Except EngineError Bool :=
  if view.projection.status ≠ .running then
    g.isReadyAt view.projection fuel definitionHash now nodeId
  else do
    if ← readinessBinding g.workflow.toCompiledWorkflowDefinition definitionHash
        view.projection then
      match view.frontierFor g.workflow with
      | some frontier => .ok (frontier.contains nodeId now)
      | none => g.scanOne view.projection fuel now (.prefixed view.projection view.latest) nodeId
    else .ok false

end ReadinessGraph

end Woml
