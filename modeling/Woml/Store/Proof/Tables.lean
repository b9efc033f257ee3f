import Woml.Store.Admission

/-!
# What a transaction does to the tables

Every transaction of the store is a sequence of moves: a definition is registered, a run is started
or extended, an occurrence is stored, or only the claims change (`perform_moves`). What a move
keeps, every reachable store has (`Reachable.of_moves`):

* `Wrote`: what a write of a run's events leaves in the tables derived from them;
* `Store.Indexed`: those tables are functions of the histories;
* `Store.Sound`: every run is bound to a registered definition of its workflow, has a first event
  and folds.
-/

theorem SortedMap.get?_insert_or_erase {α : Type} (m : SortedMap String α) (p : Prop) [Decidable p]
    (k r : String) (a : α) :
    (if p then m.insert k a else m.erase k).get? r =
      if r = k then (if p then some a else none) else m.get? r := by
  by_cases hr : r = k
  · subst hr
    split <;> simp
  · split
    · exact m.get?_insert_ne hr a
    · exact m.get?_erase_ne hr

namespace Woml

open Checked StoredRun CompiledWorkflowDefinition

theorem StoredRun.admission_of_prefix {run run' : StoredRun} (h : run.events <+: run'.events)
    (hn : run.events ≠ []) : run'.admission = run.admission := by
  obtain ⟨sf, h⟩ := h
  cases he : run.events with
  | nil => exact absurd he hn
  | cons event es => rw [StoredRun.admission, StoredRun.admission, ← h, he]; rfl

/-- Definitions stay, runs keep their binding, and histories only grow. -/
structure Store.Grows (s s' : Store) : Prop where
  definitions : ∀ {hash w}, s.definitions.get? hash = some w → s'.definitions.get? hash = some w
  runs : ∀ {r run}, s.runs.get? r = some run → ∃ run', s'.runs.get? r = some run' ∧
    run'.workflowId = run.workflowId ∧ run'.definitionHash = run.definitionHash ∧
    run.events <+: run'.events

theorem Store.Grows.refl (s : Store) : Store.Grows s s :=
  ⟨id, fun hr => ⟨_, hr, rfl, rfl, List.prefix_refl _⟩⟩

theorem Store.Grows.trans {s s' s'' : Store} (h : s.Grows s') (h' : s'.Grows s'') :
    s.Grows s'' := by
  refine ⟨h'.definitions ∘ h.definitions, fun hr => ?_⟩
  obtain ⟨run', hr', hw, hh, he⟩ := h.runs hr
  obtain ⟨r'', hr'', hw', hh', he'⟩ := h'.runs hr'
  exact ⟨r'', hr'', hw'.trans hw, hh'.trans hh, he.trans he'⟩

/-- A table that is written for the runs with an admission keeps following the histories. -/
theorem Store.rows_of_write {α : Type} {row : StoredRun → Option α} {t t' : String → Option α}
    {runs rs' : String → Option StoredRun} {ri : String} {run : StoredRun}
    (hro : ∀ run : StoredRun, run.admission = none → row run = none)
    (ht : ∀ r, t r = (runs r).bind row) (hru : ∀ r, rs' r = if r = ri then some run else runs r)
    (hw : ∀ r, t' r = if r = ri ∧ run.admission.isSome then row run else t r)
    (ho : ∀ old, runs ri = some old → run.admission = none → old.admission = none) :
    ∀ r, t' r = (rs' r).bind row := by
  intro r
  rw [hw, hru]
  by_cases hr : r = ri
  · subst hr
    simp only [if_true, Option.bind_some]
    split
    · rfl
    · rename_i ha
      have hn : run.admission = none := by simpa using ha
      rw [hro run hn, ht]
      cases hr' : runs r with
      | none => rfl
      | some old => exact hro old (ho old hr' hn)
  · rw [if_neg (fun h => hr h.1), if_neg hr, ht]

section
variable [Host]

/-! ## Rows as functions of a history -/

namespace StoredRun

variable (run : StoredRun)

def projection : Option RunProjection := (foldEvents run.events).toOption

def bindingRow : Option RuntimePolicyBinding :=
  run.admission.map fun admission =>
    { workflowId := run.workflowId
      definitionHash := admission.definitionHash
      policyHash := admission.policyHash
      queueName := admission.queue.name
      admittedAt := admission.admittedAt
      occurrenceSequence := admission.occurrenceSequence }

def queueRow : Option QueuedRun := do
  let admission ← run.admission
  let p ← run.projection
  if p.status = .queued then
    some
      { workflowId := run.workflowId
        queueName := admission.queue.name
        admittedAt := admission.admittedAt
        occurrenceSequence := admission.occurrenceSequence }
  else none

def startRow : Option PolicyStart := do
  let _ ← run.admission
  let p ← run.projection
  p.startedAt.map fun startedAt => { workflowId := run.workflowId, startedAt }

end StoredRun

namespace Store

variable {s s' : Store} {runId : String} {run : StoredRun} {w : DefinitionRef}
  {drafts : List EventDraft}

/-! ## A write -/

/-- What the write of a run leaves: its own rows are those of its events, the others are as they
were. Without an admission the runtime-policy tables are not written. -/
structure Wrote (s s' : Store) (runId : String) (run : StoredRun) (p : RunProjection) : Prop where
  folds : foldEvents run.events = .ok p
  definitions : s'.definitions = s.definitions
  claims : s'.claims = s.claims
  occurrences : s'.occurrences = s.occurrences
  runs : ∀ r, s'.runs.get? r = if r = runId then some run else s.runs.get? r
  summaries : ∀ r, s'.summaries.get? r = if r = runId then some p.status else s.summaries.get? r
  bindings : ∀ r, s'.policyBindings.get? r =
    if r = runId ∧ run.admission.isSome then run.bindingRow else s.policyBindings.get? r
  queue : ∀ r, s'.policyQueue.get? r =
    if r = runId ∧ run.admission.isSome then run.queueRow else s.policyQueue.get? r
  starts : ∀ r, s'.policyStarts.get? r =
    if r = runId ∧ run.admission.isSome then run.startRow else s.policyStarts.get? r

theorem wrote_of_writeRun (h : s.writeRun runId run = .ok s') : ∃ p, Wrote s s' runId run p := by
  simp only [writeRun, eq_ok_iff] at h
  obtain ⟨p, hp, h⟩ := h
  have hpr : run.projection = some p := by rw [projection, hp]; rfl
  refine ⟨p, ?_⟩
  cases ha : run.admission with
  | none =>
    simp only [ha, Except.ok.injEq] at h
    subst h
    exact ⟨hp, rfl, rfl, rfl, fun r => s.runs.get?_insert _ r _,
      fun r => s.summaries.get?_insert _ r _,
      by simp [writeRunSummary, ha], by simp [writeRunSummary, ha],
      by simp [writeRunSummary, ha]⟩
  | some admission =>
    simp only [ha, writeRuntimePolicyIndexes, bind_unit_eq_ok, Except.ok.injEq] at h
    obtain ⟨-, rfl⟩ := h
    refine ⟨hp, rfl, rfl, rfl, fun r => s.runs.get?_insert _ r _,
      fun r => s.summaries.get?_insert _ r _,
      fun r => ?_, fun r => ?_, fun r => ?_⟩
    · simp only [bindingRow, ha, Option.isSome_some, and_true]
      exact s.policyBindings.get?_insert _ r _
    · simp only [queueRow, ha, hpr, Option.isSome_some, and_true]
      exact s.policyQueue.get?_insert_or_erase _ _ _ _
    · simp only [startRow, ha, hpr, Option.isSome_some, and_true,
        Option.bind_eq_bind, Option.bind_some]
      cases hs : p.startedAt with
      | none =>
        by_cases hr : r = runId
        · subst hr; simp
        · rw [if_neg hr]; exact s.policyStarts.get?_erase_ne hr
      | some t => exact s.policyStarts.get?_insert _ r _

/-! ## Tables that follow the histories -/

/-- The derived tables are functions of the runs. -/
structure Indexed (s : Store) : Prop where
  summaries : ∀ r, s.summaries.get? r = (s.runs.get? r).bind (·.projection.map (·.status))
  bindings : ∀ r, s.policyBindings.get? r = (s.runs.get? r).bind (·.bindingRow)
  queue : ∀ r, s.policyQueue.get? r = (s.runs.get? r).bind (·.queueRow)
  starts : ∀ r, s.policyStarts.get? r = (s.runs.get? r).bind (·.startRow)

theorem Indexed.of_wrote {p : RunProjection} (hs : Indexed s) (h : Wrote s s' runId run p)
    (ho : ∀ old, s.runs.get? runId = some old → run.admission = none → old.admission = none) :
    Indexed s' where
  summaries r := by
    have hp : run.projection = some p := by rw [projection, h.folds]; rfl
    rw [h.summaries, h.runs]
    split
    · simp [hp]
    · exact hs.summaries r
  bindings := rows_of_write (fun run hn => by simp [bindingRow, hn]) hs.bindings
    h.runs h.bindings ho
  queue := rows_of_write (fun run hn => by simp [queueRow, hn]) hs.queue
    h.runs h.queue ho
  starts := rows_of_write (fun run hn => by simp [startRow, hn]) hs.starts
    h.runs h.starts ho

/-! ## Occurrences -/

theorem wrote_of_appendEvents (h : s.appendEvents runId drafts = .ok s') :
    ∃ old first p, s.runs.get? runId = some old ∧ old.events.head? = some first ∧
      Wrote s s' runId { old with
        events := old.events ++ drafts.mapIdx fun o d =>
          d.toEvent runId first.eventSchemaVersion (old.events.length + 1 + o) } p := by
  simp only [appendEvents, appendToHistory, runBinding, eq_ok_iff] at h
  obtain ⟨old, ho, first, hf, _, ho', h⟩ := h
  cases ho.symm.trans ho'
  obtain ⟨p, hw⟩ := wrote_of_writeRun h
  exact ⟨old, first, p, ho, hf, hw⟩

/-- A run is started under a free identifier, with a history that its definition accepts. -/
theorem startRun_eq_ok {fuel : Nat} {c : Nat → DateTime} {dh : String}
    (h : s.startRun fuel c runId w dh drafts = .ok s') :
    s.runs.get? runId = none ∧ ∃ run p, Wrote s s' runId run p ∧ run =
        { workflowId := w.workflowId, definitionHash := dh
          events := drafts.mapIdx fun o d =>
            d.toEvent runId (runEventSchemaVersionForModel w.schemaVersion) (1 + o) } ∧
      validateEventHistoryAgainstDefinition fuel c w dh run.events = .ok () := by
  simp only [startRun, appendToHistory, runBinding, eq_ok_iff, SortedMap.get?_insert_self,
    Option.some.injEq, exists_eq_left'] at h
  obtain ⟨_, hf, started, hw, run, hrn, _, hc, rfl⟩ := h
  obtain ⟨p, hwr⟩ := wrote_of_writeRun hw
  have hru := hwr.runs runId
  rw [if_pos rfl, hrn] at hru
  cases hru
  refine ⟨by simpa [SortedMap.contains] using hf, _, p, { hwr with runs := fun r => ?_ }, rfl,
    hc⟩
  rw [hwr.runs]
  by_cases hr : r = runId
  · rw [if_pos hr, if_pos hr]
  · rw [if_neg hr, if_neg hr, s.runs.get?_insert_ne hr]

/-- The run of an occurrence is stored, and its first event says what the occurrence says. -/
def Begins (s : Store) (o : TriggerOccurrence) : Prop :=
  ∃ run first payload, s.runs.get? o.runId = some run ∧ run.workflowId = o.workflowId ∧
    run.definitionHash = o.definitionHash ∧ run.events.head? = some first ∧
    o.admittedPayload first = some payload ∧ canonicalPayloadHash payload = .ok o.payloadHash

omit [Host] in
theorem insertOccurrence_eq_ok {o : TriggerOccurrence} (h : s.insertOccurrence o = .ok s') :
    (∀ id other, s.occurrences.get? id = some other → other.occurrenceId ≠ o.occurrenceId ∧
      other.runId ≠ o.runId ∧ ¬(other.workflowId = o.workflowId ∧ other.triggerId = o.triggerId ∧
        other.sourceIdentityHash = o.sourceIdentityHash)) ∧
      s' = { s with occurrences := s.occurrences.insert o.occurrenceId o } := by
  simp only [insertOccurrence, bind_unit_eq_ok, failIf_eq_ok, Except.ok.injEq] at h
  obtain ⟨hf, rfl⟩ := h
  refine ⟨fun id other ho => ?_, rfl⟩
  have hm : other ∈ s.occurrences.values :=
    List.mem_map.2 ⟨(id, other), (SortedMap.mem_entries _).2 ho, rfl⟩
  rw [Bool.not_eq_true, List.any_eq_false] at hf
  simpa [and_assoc] using hf other hm

/-! ## Moves -/

section
variable [Inspection] (fuel : Nat) (clock : Nat → DateTime)

/-- The changes that transactions are made of. -/
inductive Move : Store → Store → Prop
  | define {s : Store} {definitionHash : String} {w : DefinitionRef}
      (hfree : s.definitions.get? definitionHash = none) (hvalid : w.validateStructure = .ok ())
      (hhash : isDefinitionHash definitionHash = true) :
      Move s { s with definitions := s.definitions.insert definitionHash w }
  | start {s s' : Store} {runId : String} {run : StoredRun} {p : RunProjection} {w : DefinitionRef}
      (hfree : s.runs.get? runId = none)
      (hw : s.definitions.get? run.definitionHash = some w) (hworkflow : w.workflowId = run.workflowId)
      (hbegun : run.events ≠ [])
      (hchecked : validateEventHistoryAgainstDefinition fuel clock w run.definitionHash
        run.events = .ok ())
      (hwrote : Wrote s s' runId run p) : Move s s'
  | extend {s s' : Store} {runId : String} {old run : StoredRun} {p : RunProjection}
      (hold : s.runs.get? runId = some old) (hworkflow : run.workflowId = old.workflowId)
      (hhash : run.definitionHash = old.definitionHash) (hbegun : old.events ≠ [])
      (hevents : old.events <+: run.events) (hwrote : Wrote s s' runId run p) : Move s s'
  | claims (s : Store) (claims : SortedMap String SchedulerClaim) : Move s { s with claims }
  | occur {s s' : Store} {o : TriggerOccurrence} (hbegins : s.Begins o)
      (hinsert : s.insertOccurrence o = .ok s') : Move s s'

abbrev Moves : Store → Store → Prop := Relation.ReflTransGen (Move fuel clock)

variable {fuel clock} {request : TriggerAdmissionRequest}

theorem Moves.claims (s : Store) (claims : SortedMap String SchedulerClaim) :
    Moves fuel clock s { s with claims } :=
  .single (.claims s claims)

theorem extend_of_appendEvents (h : s.appendEvents runId drafts = .ok s') :
    Move fuel clock s s' := by
  obtain ⟨old, first, p, ho, hf, hw⟩ := wrote_of_appendEvents h
  refine .extend ho ?_ ?_ ?_ ?_ hw
  · rfl
  · rfl
  · intro hn
    rw [hn] at hf
    cases hf
  · exact List.prefix_append _ _

theorem start_of_startRun {ri dh : String} (hw : s.definitions.get? dh = some w) (hd : drafts ≠ [])
    (h : s.startRun fuel clock ri w dh drafts = .ok s') : Move fuel clock s s' := by
  obtain ⟨hf, run, p, hwr, rfl, hc⟩ := startRun_eq_ok h
  exact .start hf hw rfl (by simp [hd]) hc hwr

/-! ## Transactions -/

theorem moves_of_registerDefinition {ha : String} {same : Bool}
    (h : s.registerDefinition w ha same = .ok s') : Moves fuel clock s s' := by
  simp only [registerDefinition, eq_ok_iff] at h
  obtain ⟨_, hv, _, hh, h⟩ := h
  split at h
  · simp only [eq_ok_iff] at h
    obtain ⟨_, _, rfl⟩ := h
    exact .refl
  · rename_i hf
    cases h
    exact .single (.define hf hv (by simpa using hh))

theorem moves_of_createRun {ei : Nat → String} {oa : DateTime} {p : RunEventPayload} {vc : Bool}
    (h : s.createRun fuel clock runId ei oa p vc = .ok s') : Moves fuel clock s s' := by
  simp only [createRun, eq_ok_iff] at h
  obtain ⟨_, _, ha, _, w, hw, _, _, _, _, _, _, h⟩ := h
  refine .single (start_of_startRun hw ?_ h)
  split <;> simp [expandStart]

omit [Host] in
theorem requestedDefinition_get? (h : s.requestedDefinition request = .ok w) :
    s.definitions.get? request.definitionHash = some w := by
  simp only [requestedDefinition, eq_ok_iff] at h
  obtain ⟨_, hw, _, _, _, _, _, _, _, _, rfl⟩ := h
  exact hw

omit [Host] in
theorem validateStructure_eq_ok (h : w.validateStructure = .ok ()) :
    validId w.workflowId = true ∧
      ∀ trigger ∈ w.triggers, trigger.isValid w.schemaVersion = true := by
  simp only [validateStructure, failIf_eq_ok, not_or, Bool.not_eq_true',
    Bool.not_eq_false, List.all_eq_true] at h
  exact ⟨h.2.1, h.2.2.1⟩

omit [Host] in
theorem requestedDefinition_eq_ok (h : s.requestedDefinition request = .ok w) :
    w.validateStructure = .ok () ∧ 7 ≤ w.schemaVersion ∧ w.workflowId = request.workflowId ∧
      ∃ trigger, w.trigger request.triggerId = some trigger ∧
        trigger.handler = request.triggerHandler := by
  simp only [requestedDefinition, eq_ok_iff, not_or, not_lt, not_not] at h
  obtain ⟨_, _, _, hv, _, ⟨hve, hw⟩, trigger, ht, _, hh, rfl⟩ := h
  exact ⟨hv, hve, hw, trigger, ht, hh⟩

/-- The first event of the run of an occurrence says what the occurrence says. -/
theorem admittedPayload_of_request {i : Option (String × String)} {o : TriggerOccurrence}
    (hw : s.requestedDefinition request = .ok w)
    (hi : s.runtimePolicyIdentity w request.definitionHash = .ok i)
    (hwf : o.workflowId = request.workflowId) (hha : o.definitionHash = request.definitionHash)
    (ht : o.triggerId = request.triggerId) (hh : o.triggerHandler = request.triggerHandler)
    (hr : o.receivedAt = request.receivedAt) {eventId ri : String} {sq : Nat} :
    o.admittedPayload (EventDraft.toEvent ri (runEventSchemaVersionForModel w.schemaVersion)
      sq { eventId, occurredAt := request.receivedAt
           payload := admissionPayload request o.occurrenceId i }) = some request.payload := by
  obtain ⟨hv, hve, -⟩ := requestedDefinition_eq_ok hw
  simp only [runtimePolicyIdentity] at hi
  split at hi
  · simp only [eq_ok_iff] at hi
    obtain ⟨_, _, _, _, _, _, rfl⟩ := hi
    have he : 11 ≤ runEventSchemaVersionForModel w.schemaVersion ∧
        runEventSchemaVersionForModel w.schemaVersion ≤ 20 := by
      unfold runEventSchemaVersionForModel
      split_ifs <;> omega
    simp [admissionPayload, EventDraft.toEvent, TriggerOccurrence.admittedPayload, he,
      hha, ht, hh, hr]
  · cases hi
    have he : 7 ≤ runEventSchemaVersionForModel w.schemaVersion ∧
        runEventSchemaVersionForModel w.schemaVersion ≤ 10 := by
      unfold runEventSchemaVersionForModel
      split_ifs <;> omega
    simp [admissionPayload, EventDraft.toEvent, TriggerOccurrence.admittedPayload, he,
      hwf, hha, ht, hh, hr]

theorem moves_of_admission {ids : OccurrenceIds} {o : TriggerAdmissionOutcome}
    (h : s.admitTriggerOccurrence fuel clock request ids = .ok (o, s')) :
    Moves fuel clock s s' := by
  simp only [admitTriggerOccurrence, bind_eq_ok] at h
  obtain ⟨_, _, ph, hp, w, hw, identity, hi, e, _, h⟩ := h
  cases e with
  | some e =>
    simp only [eq_ok_iff] at h
    obtain ⟨_, _, _, _, _, rfl⟩ := h
    exact .refl
  | none =>
    simp only [admitNewOccurrence, eq_ok_iff] at h
    obtain ⟨_, _, started, hs, stored, hin, _, rfl⟩ := h
    have hm := start_of_startRun (requestedDefinition_get? hw) (List.cons_ne_nil _ _) hs
    obtain ⟨-, _, p, hwr, rfl, -⟩ := startRun_eq_ok hs
    refine .tail (.single hm) (.occur ?_ hin)
    exact ⟨_, _, request.payload, (hwr.runs _).trans (if_pos rfl),
      (requestedDefinition_eq_ok hw).2.2.1, rfl, rfl,
      admittedPayload_of_request hw hi rfl rfl rfl rfl rfl, hp⟩

/-! ## Claims -/

section
variable {request : PolicyClaimRequest} {policy : CompiledRuntimePolicy}
  {r : PolicyExecutionClaimResult}

omit [Host] in
theorem definitionForRun_eq_ok :
    s.definitionForRun runId = .ok w ↔ ∃ run, s.runs.get? runId = some run ∧
      s.definitions.get? run.definitionHash = some w ∧ w.validateStructure = .ok () := by
  simp only [definitionForRun, runBinding, eq_ok_iff]
  constructor
  · rintro ⟨run, hr, w', hw, _, hv, rfl⟩
    exact ⟨run, hr, hw, hv⟩
  · rintro ⟨run, hr, hw, hv⟩
    exact ⟨run, hr, w, hw, (), hv, rfl⟩

/-- What a claim reads before it looks at the claims: the run, its definition with its policy and
queue, and the checked history of an executable run. -/
structure ClaimContext (fuel : Nat) (clock : Nat → DateTime) (s : Store)
    (request : PolicyClaimRequest) (run : StoredRun) (w : DefinitionRef)
    (policy : CompiledRuntimePolicy) (queue : String) (state : ProjectionFoldState) : Prop where
  stored : s.runs.get? request.runId = some run
  defined : s.definitions.get? run.definitionHash = some w
  limited : w.runtimePolicy = some policy
  queued : w.runtimePolicyQueueName = some queue
  checked : checkEventHistoryAgainstDefinition fuel clock w run.definitionHash run.events =
    .ok state
  executable : notExecutable state.projection.status = false

/-- A claim is answered from the live row of the run, or decided on a run without one. -/
theorem claim_eq_ok (h : s.tryClaimPolicyRunAt fuel clock request = .ok (r, s')) :
    ∃ run w policy q state,
      ClaimContext fuel clock s request run w policy q state ∧
      (match (s.deleteExpiredClaims request.leaseNow).claims.get? request.runId with
        | some row => s' = s ∧ (row.ownerId ≠ request.ownerId ∧
            r = .waiting request.runId run.workflowId q .concurrency none ∨
          row.ownerId = request.ownerId ∧ r = .claimed
            { runId := request.runId, workflowId := run.workflowId, ownerId := row.ownerId
              claimId := row.claimId, claimedAt := row.claimedAt
              expiresAt := row.expiresAt } false)
        | none => (s.deleteExpiredClaims request.leaseNow).claimFreeRun fuel clock request run w
            policy q state.projection = .ok (r, s')) := by
  simp only [tryClaimPolicyRunAt, runBinding, eq_ok_iff, definitionForRun_eq_ok] at h
  obtain ⟨_, _, _, _, run, hr, w, ⟨run', hr', hw, _⟩, policy, hp, q, hq, state, hc, _, he, h⟩ := h
  cases hr.symm.trans hr'
  refine ⟨run, w, policy, q, state, ⟨hr, hw, hp, hq, hc, by simpa using he⟩, ?_⟩
  cases hro : (s.deleteExpiredClaims request.leaseNow).claims.get? request.runId with
  | some row =>
    simp only [hro] at h
    split at h
    · rename_i ho
      cases h
      exact ⟨rfl, .inl ⟨ho, rfl⟩⟩
    · rename_i ho
      cases h
      exact ⟨rfl, .inr ⟨not_not.1 ho, rfl⟩⟩
  | none =>
    simp only [hro] at h
    exact h

omit [Inspection] in
/-- The decision on a run without a claim: what it passed when it was not made to wait. -/
theorem claimFreeRun_eq_ok {run : StoredRun} {q : String} {p : RunProjection}
    (h : s.claimFreeRun fuel clock request run w policy q p = .ok (r, s')) :
    (∃ ea, r = .waiting request.runId run.workflowId q .rateLimit (some ea)
      ∧ s' = s ∧ p.startedAt.isNone = true ∧ p.status = .queued ∧
      s.workflowRateEligibility run.workflowId policy.rateLimit request.policyNow =
        .ok (.waiting ea)) ∨
    (r = .waiting request.runId run.workflowId q .concurrency none ∧ s' = s ∧
      s.mustWaitForCapacity request.runId q run.workflowId policy p request.policyNow =
        .ok true) ∨
    ∃ claim, r = .claimed claim (p.startedAt.isNone && p.status = .queued) ∧
      claim.runId = request.runId ∧ claim.workflowId = run.workflowId ∧
      s.mustWaitForCapacity request.runId q run.workflowId policy p request.policyNow =
        .ok false ∧
      ((p.startedAt.isNone && p.status = .queued) = true →
        s.workflowRateEligibility run.workflowId policy.rateLimit request.policyNow =
          .ok .eligible) ∧
      s.grantPolicyClaim fuel clock request run w policy
        (p.startedAt.isNone && p.status = .queued) = .ok s' := by
  simp only [claimFreeRun, bind_eq_ok] at h
  obtain ⟨_, _, rate, hr, h⟩ := h
  cases rate with
  | waiting ea =>
    cases h
    split at hr
    · rename_i hf
      simp only [Bool.and_eq_true, decide_eq_true_eq] at hf
      exact .inl ⟨ea, rfl, rfl, hf.1, hf.2, hr⟩
    · cases hr
  | eligible =>
    simp only [bind_eq_ok] at h
    obtain ⟨waits, hw, h⟩ := h
    cases waits with
    | true => cases h; exact .inr (.inl ⟨rfl, rfl, hw⟩)
    | false =>
      simp only [Bool.false_eq_true, if_false, eq_ok_iff] at h
      obtain ⟨granted, hg, rfl, rfl⟩ := h
      exact .inr (.inr ⟨_, rfl, rfl, rfl, hw, fun hf => by rwa [if_pos hf] at hr, hg⟩)

omit [Inspection] in
/-- A grant stores a claim, and the first one the start of the run. -/
theorem grantPolicyClaim_eq_ok {fs : Bool}
    (h : s.grantPolicyClaim fuel clock request run w policy fs = .ok s') :
    ∃ row, row.workflowId = run.workflowId ∧ s'.claims = s.claims.insert request.runId row ∧
      (fs = true ∧ (∃ ta, ∃ eventId : Nat → String,
        { s with claims := s.claims.insert request.runId row }.appendEvents request.runId
          ((w.expandStart request.runId (.runExecutionStarted ⟨request.policyNow, ta⟩)).mapIdx
            fun index payload =>
              { eventId := eventId index, occurredAt := request.policyNow, payload }) = .ok s') ∨
      fs = false ∧ s' = { s with claims := s.claims.insert request.runId row }) := by
  simp only [grantPolicyClaim, bind_eq_ok] at h
  obtain ⟨_, _, h⟩ := h
  split at h
  · rename_i hf
    simp only [eq_ok_iff] at h
    obtain ⟨started, ha, _, _, _, _, rfl⟩ := h
    obtain ⟨_, _, p, -, -, hw⟩ := wrote_of_appendEvents ha
    exact ⟨_, by rfl, hw.claims, .inl ⟨hf, _, _, ha⟩⟩
  · rename_i hf
    cases h
    exact ⟨_, by rfl, by rfl, .inr ⟨Bool.eq_false_iff.2 hf, rfl⟩⟩

/-- A claim writes the claims, and the first one of a run its start. -/
theorem claim_writes (h : s.tryClaimPolicyRunAt fuel clock request = .ok (r, s')) :
    (∃ claims, s' = { s with claims }) ∨ (∃ claim, r = .claimed claim true) ∧
      ∃ claims drafts, { s with claims }.appendEvents request.runId drafts = .ok s' := by
  obtain ⟨run, w, policy, q, state, -, h⟩ := claim_eq_ok h
  split at h
  · exact .inl ⟨s.claims, h.1⟩
  · rcases claimFreeRun_eq_ok h with ⟨_, _, rfl, _⟩ | ⟨_, rfl, _⟩ | ⟨claim, rfl, -, -, -, -, hg⟩
    · exact .inl ⟨_, rfl⟩
    · exact .inl ⟨_, rfl⟩
    · obtain ⟨row, -, -, ⟨hf, _, _, ha⟩ | ⟨-, rfl⟩⟩ := grantPolicyClaim_eq_ok hg
      · exact .inr ⟨⟨claim, by rw [hf]⟩, _, _, ha⟩
      · exact .inl ⟨_, rfl⟩

end

/-! ## Requests -/

omit [Host] in
theorem registerDefinition_eq_ok {ha : String} {same : Bool}
    (h : s.registerDefinition w ha same = .ok s') : ∃ definitions, s' = { s with definitions } := by
  simp only [registerDefinition, bind_eq_ok] at h
  obtain ⟨_, _, _, _, h⟩ := h
  split at h
  · simp only [eq_ok_iff] at h
    obtain ⟨_, _, rfl⟩ := h
    exact ⟨_, rfl⟩
  · cases h
    exact ⟨_, rfl⟩

variable (fuel clock) in
/-- What a transaction does. Those on a claim that was granted write the claims alone. -/
inductive Performed (s : Store) : StoreRequest → StoreAnswer → Store → Prop
  | define {w : DefinitionRef} {hash : String} {same : Bool} {definitions}
      (h : s.registerDefinition w hash same = .ok { s with definitions }) :
      Performed s (.registerDefinition w hash same) .done { s with definitions }
  | create {runId : String} {eventId : Nat → String} {occurredAt : DateTime}
      {payload : RunEventPayload} {viaCall : Bool} {s' : Store}
      (h : s.createRun fuel clock runId eventId occurredAt payload viaCall = .ok s') :
      Performed s (.createRun runId eventId occurredAt payload viaCall) .done s'
  | append {runId : String} {drafts : List EventDraft} {s' : Store}
      (h : s.appendEvents runId drafts = .ok s') :
      Performed s (.appendEvents runId drafts) .done s'
  | occurrence {request : TriggerAdmissionRequest} {ids : OccurrenceIds}
      {outcome : TriggerAdmissionOutcome} {s' : Store}
      (h : s.admitTriggerOccurrence fuel clock request ids = .ok (outcome, s')) :
      Performed s (.admitOccurrence request ids) (.admitted outcome) s'
  | claim {request : PolicyClaimRequest} {result : PolicyExecutionClaimResult} {s' : Store}
      (h : s.tryClaimPolicyRunAt fuel clock request = .ok (result, s')) :
      Performed s (.claim request) (.claim result) s'
  | claims {request : StoreRequest} {answer : StoreAnswer} (claims : SortedMap String SchedulerClaim)
      (hother : ∀ claim, request ≠ .claim claim) : Performed s request answer { s with claims }

variable {r : StoreRequest} {a : StoreAnswer}

theorem performed (h : s.perform fuel clock r = .ok (a, s')) : Performed fuel clock s r a s' := by
  cases r with
  | registerDefinition w ha same =>
    simp only [perform, map_eq_ok] at h
    obtain ⟨_, h, rfl, rfl⟩ := h
    obtain ⟨ds, rfl⟩ := registerDefinition_eq_ok h
    exact .define h
  | createRun runId ei oa payload vc =>
    simp only [perform, map_eq_ok] at h
    obtain ⟨_, h, rfl, rfl⟩ := h
    exact .create h
  | appendEvents runId drafts =>
    simp only [perform, map_eq_ok] at h
    obtain ⟨_, h, rfl, rfl⟩ := h
    exact .append h
  | admitOccurrence r ids =>
    simp only [perform, map_eq_ok, Prod.exists] at h
    obtain ⟨_, _, h, rfl, rfl⟩ := h
    exact .occurrence h
  | claim r =>
    simp only [perform, map_eq_ok, Prod.exists] at h
    obtain ⟨_, _, h, rfl, rfl⟩ := h
    exact .claim h
  | renew runId oi ci now ld =>
    simp only [perform, renewPolicyClaim, eq_ok_iff, Prod.exists] at h
    obtain ⟨_, _, ⟨_, _, _, _, _, _, _, rfl⟩, _, rfl⟩ := h
    exact .claims _ nofun
  | suspend runId oi ci =>
    obtain ⟨_, rfl⟩ := h
    split <;> exact .claims _ nofun
  | resume runId oi ci now =>
    simp only [perform, resumePolicyClaim, eq_ok_iff, Prod.exists] at h
    obtain ⟨_, _, ⟨run, _, _, _, _, _, claim, _, h⟩, _, rfl⟩ := h
    split at h <;> cases h <;> exact .claims _ nofun
  | release runId oi ci =>
    obtain ⟨_, rfl⟩ := h
    split <;> exact .claims _ nofun
  | expire now =>
    cases h
    exact .claims _ nofun

/-- **Every transaction is a sequence of moves.** -/
theorem perform_moves (h : s.perform fuel clock r = .ok (a, s')) : Moves fuel clock s s' := by
  cases performed h with
  | define hd => exact moves_of_registerDefinition hd
  | create hc => exact moves_of_createRun hc
  | append ha => exact .single (extend_of_appendEvents ha)
  | occurrence had => exact moves_of_admission had
  | claim hcl =>
    obtain ⟨claims, rfl⟩ | ⟨-, claims, _, ha⟩ := claim_writes hcl
    · exact Moves.claims s claims
    · exact (Moves.claims s claims).tail (extend_of_appendEvents ha)
  | claims claims => exact Moves.claims s claims

theorem Moves.keeps {P : Store → Prop} (hm : ∀ {s s'}, Move fuel clock s s' → P s → P s')
    (h : Moves fuel clock s s') (hs : P s) : P s' := by
  induction h with
  | refl => exact hs
  | tail _ hst ih => exact hm hst ih

theorem Reachable.of_moves {P : Store → Prop} (he : P {})
    (hm : ∀ {s s'}, Move fuel clock s s' → P s → P s') (h : Reachable fuel clock s) : P s := by
  induction h with
  | empty => exact he
  | step _ h ih => exact (perform_moves h).keeps hm ih

/-! ## What every reachable store has -/

/-- Definitions are valid, every run is bound to a definition of its workflow, has a first event
and folds, and the derived tables follow. -/
structure Sound (s : Store) : Prop where
  valid : ∀ {hash w}, s.definitions.get? hash = some w →
    w.validateStructure = .ok () ∧ isDefinitionHash hash = true
  bound : ∀ {r run}, s.runs.get? r = some run →
    ∃ w, s.definitions.get? run.definitionHash = some w ∧ w.workflowId = run.workflowId
  begun : ∀ {r run}, s.runs.get? r = some run → run.events ≠ []
  folds : ∀ {r run}, s.runs.get? r = some run → ∃ p, foldEvents run.events = .ok p
  indexed : Indexed s

theorem Sound.empty : Sound {} :=
  ⟨nofun, nofun, nofun, nofun, ⟨fun _ => rfl, fun _ => rfl, fun _ => rfl, fun _ => rfl⟩⟩

/-- A write of a run with the right binding and a first event. -/
theorem Sound.of_wrote {p : RunProjection} (hs : Sound s) (h : Wrote s s' runId run p)
    (hw : s.definitions.get? run.definitionHash = some w)
    (hwf : w.workflowId = run.workflowId) (hb : run.events ≠ [])
    (ho : ∀ old, s.runs.get? runId = some old → run.admission = none → old.admission = none) :
    Sound s' := by
  have hc : ∀ {r run'}, s'.runs.get? r = some run' →
      run' = run ∨ s.runs.get? r = some run' := by
    intro r run' hr
    rw [h.runs] at hr
    split at hr
    · exact .inl (Option.some.inj hr).symm
    · exact .inr hr
  refine ⟨fun hg => hs.valid (h.definitions ▸ hg), fun hr => ?_, fun hr => ?_,
    fun hr => ?_, hs.indexed.of_wrote h ho⟩
  · rw [h.definitions]
    rcases hc hr with rfl | hr
    · exact ⟨w, hw, hwf⟩
    · exact hs.bound hr
  · rcases hc hr with rfl | hr
    · exact hb
    · exact hs.begun hr
  · rcases hc hr with rfl | hr
    · exact ⟨p, h.folds⟩
    · exact hs.folds hr

theorem Sound.move (h : Move fuel clock s s') (hs : Sound s) : Sound s' := by
  cases h with
  | define hf hv hh =>
    refine ⟨fun hg => ?_, fun hr => ?_, hs.begun, hs.folds, ⟨hs.indexed.summaries,
      hs.indexed.bindings, hs.indexed.queue, hs.indexed.starts⟩⟩
    · rcases SortedMap.of_get?_insert hg with ⟨rfl, rfl⟩ | ⟨_, hg⟩
      · exact ⟨hv, hh⟩
      · exact hs.valid hg
    · obtain ⟨w, hw, hwf⟩ := hs.bound hr
      refine ⟨w, ?_, hwf⟩
      rw [SortedMap.get?_insert_ne _ (fun heq => ?_), hw]
      rw [heq, hf] at hw
      cases hw
  | start hf hw hwf hb _ hwr =>
    exact hs.of_wrote hwr hw hwf hb fun old ho => by rw [hf] at ho; cases ho
  | extend ho hwf hh hb he hwr =>
    obtain ⟨w, hw, hw'⟩ := hs.bound ho
    refine hs.of_wrote hwr (hh ▸ hw) (hw'.trans hwf.symm) ?_ fun old' ho' hn => ?_
    · intro hni
      rw [hni, List.prefix_nil] at he
      exact hb he
    · cases ho.symm.trans ho'
      rw [← StoredRun.admission_of_prefix he hb, hn]
  | claims claims =>
    exact ⟨hs.valid, hs.bound, hs.begun, hs.folds, ⟨hs.indexed.summaries, hs.indexed.bindings,
      hs.indexed.queue, hs.indexed.starts⟩⟩
  | occur _ hi =>
    obtain ⟨-, rfl⟩ := insertOccurrence_eq_ok hi
    exact ⟨hs.valid, hs.bound, hs.begun, hs.folds, ⟨hs.indexed.summaries, hs.indexed.bindings,
      hs.indexed.queue, hs.indexed.starts⟩⟩

theorem Reachable.sound (h : Reachable fuel clock s) : Sound s := h.of_moves .empty Sound.move

/-! ## What stays -/

theorem Grows.of_move (h : Move fuel clock s s') : Grows s s' := by
  cases h with
  | define hf _ _ =>
    refine ⟨fun hg => ?_, fun hru => ⟨_, hru, rfl, rfl, List.prefix_refl _⟩⟩
    rw [SortedMap.get?_insert_ne _ (fun heq => ?_), hg]
    rw [heq, hf] at hg
    cases hg
  | start hf _ _ _ _ hw =>
    refine ⟨fun hg => hw.definitions ▸ hg, fun {r run} hru => ?_⟩
    refine ⟨run, ?_, rfl, rfl, List.prefix_refl _⟩
    rw [hw.runs, if_neg (fun heq => ?_), hru]
    rw [heq, hf] at hru
    cases hru
  | @extend _ runId old run _ ho hwf hh _ he hw =>
    refine ⟨fun hg => hw.definitions ▸ hg, fun {r run'} hru => ?_⟩
    by_cases hr : r = runId
    · cases (hr ▸ hru).symm.trans ho
      exact ⟨run, by rw [hw.runs, if_pos hr], hwf, hh, he⟩
    · exact ⟨run', by rw [hw.runs, if_neg hr, hru], rfl, rfl, List.prefix_refl _⟩
  | claims claims => exact ⟨id, fun hru => ⟨_, hru, rfl, rfl, List.prefix_refl _⟩⟩
  | occur _ hi =>
    obtain ⟨-, rfl⟩ := insertOccurrence_eq_ok hi
    exact ⟨id, fun hru => ⟨_, hru, rfl, rfl, List.prefix_refl _⟩⟩

theorem Grows.of_perform (h : s.perform fuel clock r = .ok (a, s')) : Grows s s' :=
  (perform_moves h).keeps (fun hm hs => hs.trans (.of_move hm)) (.refl s)

end

end Store

end

end Woml
