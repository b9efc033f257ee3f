import Woml.Engine.Proof.History

/-!
# Settling the work in flight

When the fold records the end of a step attempt that is in flight. The status of the run decides:
a failure is recorded while the run is running or cancelling, a success while it is running
(`settles_iff`). A run has one status for all its branches, so a wait that one child of a parallel
group registers stops the other children from recording their ends
(`sibling_wait_blocks_settlement`).
-/

namespace Woml

open Checked ProjectionFoldState

/-- The event that records the failure of an attempt. -/
def AttemptIdentity.failed (a : AttemptIdentity) (failure : AttemptFailure) : RunEventPayload :=
  .stepAttemptFailed ⟨a.nodeId, a.attempt, a.invocationId, failure⟩

/-- The event that records the success of an attempt. -/
def AttemptIdentity.succeeded (a : AttemptIdentity) (output : Value) : RunEventPayload :=
  .stepAttemptSucceeded ⟨a.nodeId, a.attempt, a.invocationId, output⟩

/-- A top-level attempt that is started and runs no managed operation. -/
structure RunProjection.InFlight (p : RunProjection) (a : AttemptProjection) : Prop where
  listed : a ∈ p.attempts
  started : a.status.isStarted = true
  settled : p.activeManagedOperations a.identity.invocationId = []

namespace ProjectionFoldState

section
variable [Host]

omit [Host] in
/-- An attempt in flight is found where its settlement looks it up. -/
theorem settlingAttempt_of_inFlight {es : List RunEvent} {s : ProjectionFoldState}
    {a : AttemptProjection} (hs : Bookkeeping es s) (ha : s.projection.InFlight a)
    (verb o : String) :
    ∃ index, settlingAttempt s.projection s.attemptIndexes a.identity verb o = .ok index := by
  obtain ⟨i, hi⟩ := List.mem_iff_getElem?.1 ha.listed
  have hl := hs.located a.identity i (by rw [List.getElem?_map, hi]; rfl)
  refine ⟨i, ?_⟩
  have hst : s.projection.attempts[i]?.any (·.status.isStarted) = true := by
    rw [hi]
    exact ha.started
  simp [settlingAttempt, ha.settled, hl, hst, failIf, orFail]

/-- Past the gate, an event of the run is accepted when its handler accepts it. -/
theorem isOk_apply_iff {s : ProjectionFoldState} {e : RunEvent} (hg : s.gate e = .ok ())
    (ht : e.iteration = none) :
    (s.apply e).isOk = true ↔
      (applyPayload s.projection e s.attemptIndexes s.previousEvent).isOk = true := by
  have hs : isIterationScoped e = false := by simp [isIterationScoped, ht]
  rw [apply, hg, ok_bind, handle, hs, if_neg Bool.false_ne_true]
  cases applyPayload s.projection e s.attemptIndexes s.previousEvent <;> rfl

section
variable {es : List RunEvent} {s : ProjectionFoldState} {a : AttemptProjection}
  {e : RunEvent}

theorem failure_accepted_iff (hs : Bookkeeping es s) (ha : s.projection.InFlight a)
    (hg : s.gate e = .ok ()) (ht : e.iteration = none) {f : AttemptFailure}
    (hp : e.payload = a.identity.failed f) :
    (s.apply e).isOk = true ↔
      s.projection.status = .running ∨ s.projection.status = .cancelling := by
  obtain ⟨index, hi⟩ := settlingAttempt_of_inFlight hs ha "fail" "Failed"
  rw [isOk_apply_iff hg ht, applyPayload, hp]
  simp only [AttemptIdentity.failed, applyStepAttemptFailed, hi, ok_bind, isOk_bind_iff]
  constructor
  · rintro ⟨_, hr, -⟩
    exact requireRunningOrCancelling_eq_ok.1 hr
  · exact fun h => ⟨(), requireRunningOrCancelling_eq_ok.2 h, rfl⟩

theorem success_accepted_iff (hs : Bookkeeping es s) (ha : s.projection.InFlight a)
    (hg : s.gate e = .ok ()) (ht : e.iteration = none) {o : Value}
    (hp : e.payload = a.identity.succeeded o) :
    (s.apply e).isOk = true ↔
      s.projection.status = .running ∧
        s.projection.context.steps.containsKey a.identity.nodeId = false := by
  obtain ⟨index, hi⟩ := settlingAttempt_of_inFlight hs ha "succeed" "Successful"
  rw [isOk_apply_iff hg ht, applyPayload, hp]
  simp only [AttemptIdentity.succeeded, applyStepAttemptSucceeded, hi, ok_bind, isOk_bind_iff,
    failIf_eq_ok]
  constructor
  · rintro ⟨_, hr, _, hst, -⟩
    exact ⟨requireRunning_eq_ok.1 hr, by simpa using hst⟩
  · rintro ⟨hr, hst⟩
    exact ⟨(), requireRunning_eq_ok.2 hr, (), by simpa using hst, rfl⟩

end

end

end ProjectionFoldState

section
variable [Host]

/-- **When work in flight can settle.** After an accepted history, a well-formed failure of an
attempt in flight is recorded exactly when the run is running or cancelling, and a well-formed
success exactly when it is running and the node has no output yet. -/
theorem settles_iff {fuel : Nat} {clock : Nat → DateTime} {w : DefinitionRef} {hash : String}
    {events : List RunEvent} {s : ProjectionFoldState}
    (hcheck : checkEventHistoryAgainstDefinition fuel clock w hash events = .ok s)
    {a : AttemptProjection} (ha : s.projection.InFlight a) {event : RunEvent}
    (hgate : s.gate event = .ok ()) (htop : event.iteration = none) :
    (∀ failure, event.payload = a.identity.failed failure → ((s.apply event).isOk = true ↔
        s.projection.status = .running ∨ s.projection.status = .cancelling)) ∧
    ∀ output, event.payload = a.identity.succeeded output →
      ((s.apply event).isOk = true ↔ s.projection.status = .running ∧
        s.projection.context.steps.containsKey a.identity.nodeId = false) := by
  have hs := bookkeeping (fromEvents_of_check hcheck)
  exact ⟨fun _ h => failure_accepted_iff hs ha hgate htop h,
    fun _ h => success_accepted_iff hs ha hgate htop h⟩

end

/-! ## A wait beside a step

A parallel group with a script step and a durable wait. The step is in flight when the wait is
registered. -/

namespace SiblingWait

open SerialRun (definitionHash)

def queueDigest : String := "c9f95863a6522407992e2e0afa59e7e97be9dcc5d499ab9108f2e7d257a7e31c"

def effectDigest : String := "98d0545351757dab833792e696199c562d85d5ec58a0596e14e77471a4bb9122"

@[reducible] def host : Host :=
  SerialRun.host "parallel-wait" queueDigest
    [("\x7b\"contract\":\"woml.step-effect\",\"definitionHash\":\"" ++ definitionHash ++
        "\",\"nodeId\":\"work\",\"runId\":\"run\",\"version\":1\x7d", effectDigest)]

def definition : DefinitionRef where
  address := 0
  schemaVersion := 17
  workflowId := "parallel-wait"
  triggers := [⟨"start", "trigger.manual"⟩]
  graph := {
    entryNodeIds := ["__woml_parallel__both__start"]
    nodes := [
      { id := "__woml_parallel__both__start", handler := "engine.parallel-start"
        inputs := .object [("concurrency", .literal (.number (.posInt 2))),
          ("onError", .literal (.string "wait-all"))] },
      { id := "work", handler := "runtime.script" },
      { id := "pause", handler := "engine.durable-wait" },
      { id := "both", handler := "engine.parallel-join" },
      { id := "__woml_workflow__settlement", handler := "engine.workflow-settlement" }]
    edges := [
      { id := "both:child:0", source := "__woml_parallel__both__start", target := "work"
        parallelId := some "both" },
      { id := "both:child:1", source := "__woml_parallel__both__start", target := "pause"
        parallelId := some "both" },
      { id := "both:join:0", source := "work", target := "both", parallelId := some "both" },
      { id := "both:join:1", source := "pause", target := "both", parallelId := some "both" },
      { id := "__woml_workflow__:main:settlement", source := "both"
        target := "__woml_workflow__settlement" }]
    forks := some []
    choices := some []
    contextVisibility := some []
    settlement := some ⟨"__woml_workflow__settlement", "both", []⟩
    forEach := some []
    waits := some [.duration "pause" "pause" 1000] }
  runtimePolicy := some SerialRun.policy

def event (sequence : Nat) (eventId : String) (payload : RunEventPayload) : RunEvent :=
  { eventSchemaVersion := 16, eventId, runId := "run", sequence, occurredAt := 0, payload }

def history : List RunEvent :=
  [event 1 "e1" (SerialRun.admission queueDigest),
    event 2 "e2" (.runExecutionStarted ⟨0, none⟩),
    event 3 "e3" (.parallelGroupStarted ⟨"both"⟩),
    event 4 "e4" (.stepAttemptStarted
      ⟨"work", 1, "i1", "runtime.script", some ("sha256:" ++ effectDigest)⟩),
    event 5 "e5" (.waitRegistered
      { waitId := "pause", nodeId := "pause", kind := .duration, registeredAt := 0
        deadline := some 1000000000, signals := none, correlationDigest := none })]

/-- The step in flight. -/
def work : AttemptIdentity := ⟨"work", 1, "i1"⟩

def workFailure : AttemptFailure :=
  { kind := .scriptThrew, code := "WOML_SCRIPT_THROWN", message := "The script threw." }

/-- The check of the first `n` events, at the epoch and with a depth for the one join. -/
def check (n : Nat) : Except EngineError ProjectionFoldState :=
  @checkEventHistoryAgainstDefinition host 4 (fun _ => 0) definition definitionHash
    (history.take n)

def failure (sequence : Nat) : RunEvent := event sequence "settled" (work.failed workFailure)

/-- The step is in flight before and after the wait is registered, and its ends are well formed. -/
theorem in_flight {n : Nat} {st : RunStatus} (h : n = 4 ∧ st = .running ∨
    n = 5 ∧ st = .waiting) :
    ∃ s, check n = .ok s ∧ s.projection.status = st ∧ s.projection.businessOutcome = none ∧
      s.projection.cancellationRequestId = none ∧ ∃ a ∈ s.projection.attempts,
        a.status.isStarted = true ∧ a.identity = work ∧
        (s.projection.activeManagedOperations a.identity.invocationId).isEmpty = true ∧
        @gate host s
          (event (n + 1) "settled" (a.identity.failed workFailure)) = .ok () ∧
        @gate host s
          (event (n + 1) "settled" (a.identity.succeeded (.object []))) = .ok () := by
  rcases h with ⟨rfl, rfl⟩ | ⟨rfl, rfl⟩ <;> decide +kernel

/-- While the run waits, no event records the end of the step, though both ends are well formed. -/
theorem sibling_wait_blocks_settlement :
    ∃ s a, @checkEventHistoryAgainstDefinition host 4 (fun _ => 0) definition definitionHash
        history = .ok s ∧ s.projection.status = .waiting ∧ s.projection.businessOutcome = none ∧
      s.projection.cancellationRequestId = none ∧ s.projection.InFlight a ∧
      @gate host s (event 6 "settled" (a.identity.failed workFailure)) =
        .ok () ∧
      @gate host s (event 6 "settled" (a.identity.succeeded (.object []))) =
        .ok () ∧
      ∀ e : RunEvent, e.iteration = none →
        (∃ f, e.payload = a.identity.failed f) ∨ (∃ v, e.payload = a.identity.succeeded v) →
        (@ProjectionFoldState.apply host s e).isOk = false := by
  obtain ⟨s, hc, hst, ho, hca, a, hm, hsd, -, hi, hf, hsu⟩ := in_flight (.inr ⟨rfl, rfl⟩)
  have hs := @bookkeeping host _ _ (@fromEvents_of_check host _ _ _ _ _ _ hc)
  have ha : s.projection.InFlight a := ⟨hm, hsd, List.isEmpty_iff.1 hi⟩
  refine ⟨s, a, hc, hst, ho, hca, ha, hf, hsu, ?_⟩
  intro e ht he
  by_contra hok
  rw [Bool.not_eq_false] at hok
  obtain ⟨s', hap⟩ := exists_ok hok
  have hg := (@apply_eq_ok host _ _ _ |>.1 hap).1
  rcases he with ⟨f, hp⟩ | ⟨v, hp⟩
  · have := (@failure_accepted_iff host _ _ _ _ hs ha hg ht _ hp).1 hok
    rw [hst] at this
    rcases this with this | this <;> cases this
  · have := (@success_accepted_iff host _ _ _ _ hs ha hg ht _ hp).1 hok
    rw [hst] at this
    cases this.1

/-- Before the wait is registered the failure is recorded. -/
theorem settles_before_wait :
    ∃ s, @checkEventHistoryAgainstDefinition host 4 (fun _ => 0) definition definitionHash
        (history.take 4) = .ok s ∧
      (@ProjectionFoldState.apply host s (event 5 "settled" (work.failed workFailure))).isOk =
        true := by
  obtain ⟨s, hc, hs, -, -, a, hm, hst, hi, hid, hf, -⟩ := in_flight (.inl ⟨rfl, rfl⟩)
  refine ⟨s, hc, hi ▸ ((@settles_iff host _ _ _ _ _ _ hc _
    ⟨hm, hst, List.isEmpty_iff.1 hid⟩ _ hf rfl).1 _ rfl).2 (.inl hs)⟩

end SiblingWait

end Woml
