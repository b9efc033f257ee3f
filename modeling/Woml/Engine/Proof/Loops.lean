import Woml.Engine.Proof.Correction
import Woml.Engine.Proof.Outcome
import Woml.Projection.Proof.Loops

/-!
# Settled loops

What the settlement of a for-each loop publishes is what its iterations did (`LoopSettled`). The
fold tests the counts and the work of the iterations, but neither their locks nor that all of them
bring a result, and a compensation is registered in the scope of an iteration without a look at
that iteration. `loop_settled_iff` says that these three are all that can be wrong.
-/

namespace Woml

open Checked ProjectionFoldState

namespace ForEachIterationStatus

def isSucceeded : ForEachIterationStatus → Bool
  | succeeded _ => true
  | _ => false

def isFailed : ForEachIterationStatus → Bool
  | failed _ => true
  | _ => false

def isSkipped : ForEachIterationStatus → Bool
  | skipped => true
  | _ => false

def result : ForEachIterationStatus → Option Value
  | succeeded result => result
  | _ => none

end ForEachIterationStatus

namespace ForEachProjection

variable {loop : ForEachProjection} {s : ForEachSettlement} {data : ForEachSettledData}

/-- The indices whose iteration record satisfies `P`. -/
def records (loop : ForEachProjection) (P : ForEachIterationStatus → Bool) : List Nat :=
  (List.range loop.total).filter fun index => (loop.iterations.get? index).any P

theorem Settles.length_records (h : loop.Settles s data) (ho : LoopOk loop)
    (P : ForEachIterationStatus → Bool) :
    (loop.iterations.values.filter P).length = (loop.records P).length := by
  have hen : loop.iterations.entries.filter (fun e => P e.2) =
      loop.iterations.entries.filter fun e => (loop.iterations.get? e.1).any P := by
    refine List.filter_congr fun e he => ?_
    rw [loop.iterations.mem_entries.1 he, Option.any_some]
  rw [records, ← h.keys ho, SortedMap.keys, SortedMap.values, List.filter_map, List.filter_map,
    List.length_map, List.length_map]
  exact congrArg List.length hen

theorem succeededCount_eq (loop : ForEachProjection) :
    loop.succeededCount = (loop.iterations.values.filter (·.isSucceeded)).length := by
  refine congrArg List.length (List.filter_congr fun status _ => ?_)
  cases status <;> rfl

theorem failedCount_eq (loop : ForEachProjection) :
    loop.failedCount = (loop.iterations.values.filter (·.isFailed)).length := by
  refine congrArg List.length (List.filter_congr fun status _ => ?_)
  cases status <;> rfl

theorem skippedCount_eq (loop : ForEachProjection) :
    loop.skippedCount = (loop.iterations.values.filter (·.isSkipped)).length := by
  refine congrArg List.length (List.filter_congr fun status _ => ?_)
  cases status <;> rfl

theorem Settles.succeeded_at (h : loop.Settles .succeeded data) (ho : LoopOk loop) {i : Nat}
    (hi : i < loop.total) : ∃ result, loop.iterations.get? i = some (.succeeded result) := by
  have hk : i ∈ loop.iterations.keys := by
    rw [h.keys ho]
    exact List.mem_range.2 hi
  obtain ⟨status, hs⟩ := loop.iterations.mem_keys.1 hk
  have hv := loop.iterations.mem_values.2 ⟨i, hs⟩
  obtain ⟨hf, hsk⟩ := h.success rfl
  rw [failedCount_eq, List.length_eq_zero_iff, List.filter_eq_nil_iff] at hf
  rw [skippedCount_eq, List.length_eq_zero_iff, List.filter_eq_nil_iff] at hsk
  cases status with
  | succeeded result => exact ⟨result, hs⟩
  | started => cases h.ended ho i _ hs
  | failed => exact absurd rfl (hf _ hv)
  | skipped => exact absurd rfl (hsk _ hv)

/-! ## Results -/

/-- All iterations bring a result, or none does. -/
def ResultsUniform (loop : ForEachProjection) : Prop :=
  (∀ status ∈ loop.iterations.values, status.result.isSome = true) ∨
    ∀ status ∈ loop.iterations.values, status.result = none

/-- The results that `steps` publishes for the loop, if any, are one for each iteration in index
order. -/
def PublishesEach (loop : ForEachProjection) (forEachId : String) (steps : JsonMap) : Prop :=
  ∃ fields, steps.get? forEachId = some (.object fields) ∧
    ((∃ status ∈ loop.iterations.values, status.result.isSome = true) →
      (JsonMap.get? fields "results").isSome = true) ∧
    ∀ value, JsonMap.get? fields "results" = some value → ∃ results, value = .array results ∧
      results.length = loop.succeededCount ∧ ∀ index < loop.total, ∃ result,
        loop.iterations.get? index = some (.succeeded (some result)) ∧
          results[index]? = some result

theorem orderedResults_eq (loop : ForEachProjection) :
    loop.orderedResults =
      (List.range loop.total).filterMap fun index => (loop.iterations.get? index).bind (·.result) := by
  unfold orderedResults
  congr
  funext index
  cases loop.iterations.get? index with
  | none => rfl
  | some status =>
    cases status with
    | succeeded result => cases result <;> rfl
    | _ => rfl

/-- With a result from every iteration, each stands at the index of its iteration. -/
theorem Settles.results_at (h : loop.Settles .succeeded data) (ho : LoopOk loop)
    (ha : ∀ status ∈ loop.iterations.values, status.result.isSome = true) :
    loop.orderedResults.length = loop.succeededCount ∧ ∀ index < loop.total, ∃ result,
      loop.iterations.get? index = some (.succeeded (some result)) ∧
        loop.orderedResults[index]? = some result := by
  have hs : ∀ index < loop.total, ∃ result,
      loop.iterations.get? index = some (.succeeded (some result)) := by
    intro index hi
    obtain ⟨result, hr⟩ := h.succeeded_at ho hi
    obtain ⟨v, rfl⟩ := Option.isSome_iff_exists.1 (ha _ (loop.iterations.mem_values.2 ⟨index, hr⟩))
    exact ⟨v, hr⟩
  have hm : loop.orderedResults = (List.range loop.total).map fun index =>
      ((loop.iterations.get? index).bind (·.result)).getD .null := by
    rw [← List.filterMap_eq_map]
    refine List.filterMap_congr fun index hi => ?_
    obtain ⟨result, hr⟩ := hs index (List.mem_range.1 hi)
    rw [Function.comp, hr]
    rfl
  have hc : loop.succeededCount = loop.total := by
    have hsu := h.all
    obtain ⟨hf, hsk⟩ := h.success rfl
    omega
  refine ⟨by rw [hm, List.length_map, List.length_range, hc], fun index hi => ?_⟩
  obtain ⟨result, hr⟩ := hs index hi
  refine ⟨result, hr, ?_⟩
  rw [hm, List.getElem?_map, List.getElem?_range hi, Option.map_some, hr]
  rfl

/-- The `results` member of the output. -/
theorem results_of_output (loop : ForEachProjection) :
    ∃ fs, loop.output = .object fs ∧ JsonMap.get? fs "results" =
      if loop.orderedResults.isEmpty then none else some (.array loop.orderedResults) := by
  refine ⟨_, rfl, ?_⟩
  split
  · rfl
  · rfl

theorem Settles.publishesEach_iff (h : loop.Settles .succeeded data) (hok : LoopOk loop)
    {fei : String} {ss : JsonMap} (hst : ss.get? fei = some loop.output) :
    loop.PublishesEach fei ss ↔ loop.ResultsUniform := by
  obtain ⟨fs, ho, hr⟩ := loop.results_of_output
  constructor
  · rintro ⟨fs', hf', -, he⟩
    cases (hst.symm.trans hf').symm.trans (congrArg some ho)
    cases hem : loop.orderedResults.isEmpty with
    | true =>
      -- nothing is published: no iteration has a result
      refine .inr fun status hs => ?_
      obtain ⟨index, hi⟩ := loop.iterations.mem_values.1 hs
      rw [List.isEmpty_iff, orderedResults_eq, List.filterMap_eq_nil_iff] at hem
      have hn := hem index (List.mem_range.2 (hok.bounded index status hi))
      rwa [hi, Option.bind_some] at hn
    | false =>
      rw [hem] at hr
      obtain ⟨rs, -, -, ha⟩ := he _ hr
      refine .inl fun status hs => ?_
      obtain ⟨index, hi⟩ := loop.iterations.mem_values.1 hs
      obtain ⟨result, hre, -⟩ := ha index (hok.bounded index status hi)
      cases hi.symm.trans hre
      rfl
  · intro hu
    refine ⟨fs, by rw [hst, ho], ?_, fun v hv => ?_⟩
    · rintro ⟨status, hs, hso⟩
      obtain ⟨index, hi⟩ := loop.iterations.mem_values.1 hs
      obtain ⟨result, hre⟩ := Option.isSome_iff_exists.1 hso
      have hm : result ∈ loop.orderedResults := by
        rw [orderedResults_eq, List.mem_filterMap]
        refine ⟨index, List.mem_range.2 (hok.bounded index status hi), ?_⟩
        rw [hi, Option.bind_some, hre]
      rw [hr, if_neg (by simpa using List.ne_nil_of_mem hm)]
      rfl
    · rw [hr] at hv
      split at hv
      · cases hv
      rename_i hne
      cases hv
      rcases hu with ha | hn
      · obtain ⟨hl, hat⟩ := h.results_at hok ha
        exact ⟨_, rfl, hl, hat⟩
      · refine absurd ?_ hne
        rw [List.isEmpty_iff, orderedResults_eq, List.filterMap_eq_nil_iff]
        intro index _
        cases hg : loop.iterations.get? index with
        | none => rfl
        | some status => exact hn status (loop.iterations.mem_values.2 ⟨index, hg⟩)

/-! ## Active work -/

theorem Settles.attempts (h : loop.Settles s data) :
    ∀ execution ∈ loop.executions.values, ∀ a ∈ execution.attempts, a.status.isStarted = false := by
  intro execution he a ha
  have hi := h.idle
  simp only [ownsActiveWork, Bool.or_eq_false_iff, decide_eq_false_iff_not, not_not] at hi
  have hn := List.length_eq_zero_iff.1 hi.1.1.1.1.2
  rw [activeAttempts, List.filter_eq_nil_iff] at hn
  simpa using hn a (List.mem_flatMap.2 ⟨execution, he, ha⟩)

theorem Settles.operations (h : loop.Settles s data) :
    ∀ execution ∈ loop.executions.values, ∀ o ∈ execution.operations.values,
      o.status.isStarted = false := by
  intro execution he o ho
  have hi := h.idle
  simp only [ownsActiveWork, Bool.or_eq_false_iff, decide_eq_false_iff_not, not_not] at hi
  have hn := List.length_eq_zero_iff.1 hi.1.1.1.2
  rw [List.filter_eq_nil_iff] at hn
  simpa using hn o (List.mem_flatMap.2 ⟨execution, he, ho⟩)

end ForEachProjection

/-! ## The settlement -/

section
variable [Host] {events : List RunEvent} {s t : ProjectionFoldState} {n : Nat} {event : RunEvent}
  {settlement : ForEachSettlement} {data : ForEachSettledData}

omit [Host] in
variable (events n settlement data) in
/-- The settlement at position `n` of `loop`, as the fold had it before, is true to its
iterations. -/
structure LoopSettled [Host] (loop : ForEachProjection) : Prop where
  total : data.total = loop.total
  records : ∀ index, loop.iterations.contains index = true ↔ index < data.total
  ended : ∀ index status, loop.iterations.get? index = some status → status.isStarted = false
  /-- an iteration that has ended at some point keeps its status ever after -/
  stable : ∀ k m u v loop' index status, k ≤ m → fromEvents (events.take k) = .ok u →
    fromEvents (events.take m) = .ok v → u.projection.forEach.get? data.forEachId = some loop' →
    loop'.iterations.get? index = some status → status.isStarted = false →
    ∃ loop'', v.projection.forEach.get? data.forEachId = some loop'' ∧
      loop''.iterations.get? index = some status
  frozen : ∀ m u, n < m → fromEvents (events.take m) = .ok u →
    u.projection.forEach.get? data.forEachId = some { loop with status := settlement.status }
  succeeded : data.succeeded = (loop.records (·.isSucceeded)).length
  failed : data.failed = (loop.records (·.isFailed)).length
  skipped : data.skipped = (loop.records (·.isSkipped)).length
  sum : data.succeeded + data.failed + data.skipped = data.total
  attempts : ∀ execution ∈ loop.executions.values, ∀ a ∈ execution.attempts,
    a.status.isStarted = false
  operations : ∀ execution ∈ loop.executions.values, ∀ o ∈ execution.operations.values,
    o.status.isStarted = false
  locks : ∀ execution ∈ loop.executions.values, ∀ lock ∈ execution.locks.values,
    lock.status.isOpen = false
  silent : ∀ m event, n < m → events[m]? = some event → ¬ScopedTo data.forEachId event
  results : settlement = .succeeded → ∀ u, fromEvents (events.take (n + 1)) = .ok u →
    loop.PublishesEach data.forEachId u.projection.context.steps

omit [Host] in
variable (events n settlement data) in
/-- What the fold does not test. -/
structure SettlesClean (loop : ForEachProjection) : Prop where
  locks : ∀ execution ∈ loop.executions.values, ∀ lock ∈ execution.locks.values,
    lock.status.isOpen = false
  results : settlement = .succeeded → loop.ResultsUniform
  registrations : ∀ m event, n < m → events[m]? = some event →
    event.payload.isCompensationRegistered = true → ¬ScopedTo data.forEachId event

/-- **The settlement of a loop is true to its iterations exactly when it is clean.** -/
theorem loop_settled_iff (h : fromEvents events = .ok s) (hn : events[n]? = some event)
    (hsettlement : event.payload.settlement = some (settlement, data))
    (ht : fromEvents (events.take n) = .ok t) :
    ∃ loop, t.projection.forEach.get? data.forEachId = some loop ∧
      (LoopSettled events n settlement data loop ↔ SettlesClean events n settlement data loop) := by
  obtain ⟨t₀, t', ht₀, ht', hap⟩ := apply_at h hn
  cases ht.symm.trans ht₀
  obtain ⟨-, p, hp, rfl⟩ := settled_of_apply hap hsettlement
  obtain ⟨loop, hl, hs, hf, hss⟩ := applyForEachSettled_eq hp
  have ho := loopOk_of_fold ht data.forEachId loop hl
  -- the loop as it stands right after the event
  have ha : (t.next event p).projection.forEach.get? data.forEachId =
      some { loop with status := settlement.status } := by
    rw [next, hf, SortedMap.get?_insert_self]
  have hcl : settlement.status ≠ .open := by cases settlement <;> decide
  have hpu : settlement = .succeeded → ∀ u, fromEvents (events.take (n + 1)) = .ok u →
      (loop.PublishesEach data.forEachId u.projection.context.steps ↔ loop.ResultsUniform) := by
    rintro rfl u hu
    cases ht'.symm.trans hu
    refine hs.publishesEach_iff ho ?_
    rw [next, hss rfl, JsonMap.get?_insert_self]
  refine ⟨loop, hl, fun hse => ?_, fun hc => ?_⟩
  · exact ⟨hse.locks, fun hsu =>
      (hpu hsu _ ht').1 (hse.results hsu _ ht'),
      fun m event' hm hev _ => hse.silent m event' hm hev⟩
  · refine {
      total := hs.total
      records := fun index => ?_
      ended := hs.ended ho
      stable := fun k m u v loop' index status hk hu hv hl' hst he =>
        iteration_stable hk hu hl' hst he hv
      frozen := fun m u hm hu => frozen_of_settled hm ht' ha hcl hu
      succeeded := by rw [hs.succeeded, loop.succeededCount_eq, hs.length_records ho]
      failed := by rw [hs.failed, loop.failedCount_eq, hs.length_records ho]
      skipped := by rw [hs.skipped, loop.skippedCount_eq, hs.length_records ho]
      sum := by
        rw [hs.succeeded, hs.failed, hs.skipped, hs.total, hs.all]
      attempts := hs.attempts
      operations := hs.operations
      locks := hc.locks
      silent := fun m event' hm hev hsc => ?_
      results := fun hsu u hu => (hpu hsu u hu).2 (hc.results hsu) }
    · rw [← loop.iterations.mem_keys_iff_contains, hs.keys ho, List.mem_range, hs.total]
    · have hr := scope_of_settled h hm ht' ha hcl hev hsc
      exact hc.registrations m event' hm hev hr hsc

end

/-! ### A lock that is still held

The one iteration of a loop waits for a lock and fails, and the loop settles. `resolved` is what
becomes of the lock: the iteration gets it, or gives up. -/

namespace LockedLoop

open SerialRun (definitionHash)
open LoopSaga (host event)

def definition : DefinitionRef :=
  { LoopSaga.definition with
    graph := { LoopSaga.definition.graph with
      locks := some [{
        lockId := "account"
        acquireNodeId := "__woml_lock__account__acquire"
        releaseNodeId := "__woml_lock__account__release"
        resultNodeId := "account"
        bodyEntryNodeId := "charge"
        bodyTerminalNodeId := "charge"
        key := .contextReference ["trigger", "account"]
        acquireTimeoutMs := 1
        leaseMs := 1
        outerStepIds := [] }] } }

def settled : ForEachSettledData :=
  ⟨"lines", 1, 0, 1, 0, "sha256:" ++ LoopSaga.itemsDigest⟩

def history (resolved : RunEventPayload) : List RunEvent :=
  [event 1 "e1" (SerialRun.admission LoopSaga.queueDigest),
    event 2 "e2" (.runExecutionStarted ⟨0, none⟩),
    event 3 "e3" (.sagaStarted ⟨"order"⟩),
    event 4 "e4" (.forEachOpened ⟨"lines", 1, "sha256:" ++ LoopSaga.itemsDigest, 2⟩),
    event 5 "e5" (.forEachIterationStarted ⟨"lines"⟩) (some 0),
    event 6 "e6" (.lockWaitRegistered ⟨"account", "key", 1, 0, 1, "run"⟩) (some 0),
    event 7 "e7" resolved (some 0),
    event 8 "e8" (.forEachIterationFailed ⟨"lines", "charge", .scriptThrew⟩) (some 0),
    event 9 "e9" (.forEachFailed settled)]

def acquired : RunEventPayload := .lockAcquired ⟨"account", "key", "lease_1", "1", 0, 1, "run"⟩

def givenUp : RunEventPayload := .lockAcquisitionCancelled ⟨"account", "key", 0, "cancelled"⟩

theorem held_lock_survives_settlement :
    (∃ s, @checkEventHistoryAgainstDefinition host 1 (fun _ => 0) definition definitionHash
      (history acquired) = .ok s) ∧
    ∃ t loop, @fromEvents host ((history acquired).take 8) = .ok t ∧
      t.projection.forEach.get? "lines" = some loop ∧
      ¬@LoopSettled (history acquired) 8 .failed settled host loop := by
  obtain ⟨t, ht, loop, hlo, execution, he, lock, hl, ho⟩ :
      ∃ t, @fromEvents host ((history acquired).take 8) = .ok t ∧
        ∃ loop, t.projection.forEach.get? "lines" = some loop ∧
          ∃ execution ∈ loop.executions.values, ∃ lock ∈ execution.locks.values,
            lock.status.isOpen = true := by
    decide +kernel
  refine ⟨by decide +kernel, t, loop, ht, hlo, fun hs => ?_⟩
  have hc := @LoopSettled.locks _ _ _ _ host _ hs execution he lock hl
  rw [hc] at ho
  cases ho

/-- When the iteration gives the lock up, the settlement is true to it. -/
theorem settled_without_lock : ∃ t loop, @fromEvents host ((history givenUp).take 8) = .ok t ∧
    t.projection.forEach.get? "lines" = some loop ∧
    @LoopSettled (history givenUp) 8 .failed settled host loop := by
  obtain ⟨⟨s, hs⟩, t, ht, loop, hl, hc⟩ : (∃ s, @fromEvents host (history givenUp) = .ok s) ∧
      ∃ t, @fromEvents host ((history givenUp).take 8) = .ok t ∧
        ∃ loop, t.projection.forEach.get? "lines" = some loop ∧
          ∀ execution ∈ loop.executions.values, ∀ lock ∈ execution.locks.values,
            lock.status.isOpen = false := by
    decide +kernel
  obtain ⟨loop', hl', hi⟩ := @loop_settled_iff host _ s t 8 _ .failed settled hs rfl rfl ht
  cases hl.symm.trans hl'
  refine ⟨t, loop, ht, hl, hi.2 ⟨hc, nofun, ?_⟩⟩
  intro m event hm he
  have hlt := (List.getElem?_eq_some_iff.1 he).1
  simp only [history, List.length_cons, List.length_nil] at hlt
  omega

end LockedLoop

end Woml
