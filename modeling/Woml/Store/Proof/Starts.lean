import Woml.Store.Proof.Queue

/-!
# First starts

The rows of first starts, which the rate limit of a workflow counts, follow the histories
(`Store.Indexed`). A transaction leaves them as they are, unless it is a claim that is answered as a
first start (`perform_starts`): that adds one row, within the rate limit of the workflow.
-/

namespace Woml

open Checked ProjectionFoldState

/-- Only claims write the start of an execution. -/
def StoreRequest.StartsByClaim : StoreRequest → Prop
  | .appendEvents _ drafts => ∀ draft ∈ drafts, draft.payload.executionStart = none
  | _ => True

/-- The first start that a transaction reports. -/
def firstStart : StoreRequest → StoreAnswer → Option PolicyStart
  | .claim request, .claim (.claimed claim true) => some ⟨claim.workflowId, request.policyNow⟩
  | _, _ => none

namespace Store

section
variable [Host] {s s' : Store} {fuel : Nat} {cl : Nat → DateTime} {run : StoredRun}

theorem startRow_eq {data : RunAdmittedData} {p : RunProjection}
    (ha : run.admission = some data) (hf : foldEvents run.events = .ok p) :
    run.startRow = p.startedAt.map fun sa => ⟨run.workflowId, sa⟩ := by
  simp [StoredRun.startRow, ha, StoredRun.projection, hf, Except.toOption]

/-- What is appended without an execution start leaves the row. -/
theorem startRow_of_append {s : List RunEvent} {p p' : RunProjection} (hb : run.events ≠ [])
    (hf : foldEvents run.events = .ok p) (hf' : foldEvents (run.events ++ s) = .ok p')
    (hs : ∀ event ∈ s, event.payload.executionStart = none) :
    ({ run with events := run.events ++ s } : StoredRun).startRow = run.startRow := by
  obtain ⟨state, hst, rfl⟩ := foldEvents_eq_ok.1 hf
  obtain ⟨st', hs', rfl⟩ := foldEvents_eq_ok.1 hf'
  have ha : ({ run with events := run.events ++ s } : StoredRun).admission =
      run.admission :=
    StoredRun.admission_of_prefix (List.prefix_append run.events s) hb
  cases hd : run.admission with
  | none => simp [StoredRun.startRow, ha, hd]
  | some data =>
    rw [startRow_eq (ha.trans hd) hf', startRow_eq hd hf, startedAt_of_append hst hb hs' hs]

variable {d : EventDraft}

omit [Host] in
/-- The request of a start hook is not an execution start. -/
theorem hook_not_start {ho : Option CompiledLifecycleHook}
    {r : CompiledLifecycleHook → LifecycleHookRequestedData} {eventId : Nat → String}
    {oa : DateTime}
    (h : d ∈ (ho.map fun ho => RunEventPayload.lifecycleHookRequested
      (r ho)).toList.mapIdx fun i payload =>
        ({ eventId := eventId i, occurredAt := oa, payload } : EventDraft)) :
    d.payload.executionStart = none := by
  cases ho with
  | none => cases h
  | some ho =>
    obtain rfl := List.mem_singleton.1 h
    rfl

variable [Inspection] {ds : List EventDraft}

theorem starts_of_appendEvents {ri : String} (hs : Sound s) (h : s.appendEvents ri ds = .ok s')
    (hst : ∀ d ∈ ds, d.payload.executionStart = none) (r : String) :
    s'.policyStarts.get? r = s.policyStarts.get? r := by
  obtain ⟨old, first, p', ho, -, hw⟩ := wrote_of_appendEvents h
  obtain ⟨p, hf⟩ := hs.folds ho
  rw [hw.starts]
  split
  · rename_i hr
    rw [hr.1, hs.indexed.starts, ho, Option.bind_some]
    refine startRow_of_append (hs.begun ho) hf hw.folds fun event he => ?_
    obtain ⟨i, hi, rfl⟩ := List.mem_mapIdx.1 he
    exact hst _ (List.getElem_mem hi)
  · rfl

theorem starts_of_startRun {ri ha : String} {w : DefinitionRef}
    (hs : Sound s) (h : s.startRun fuel cl ri w ha (d :: ds) = .ok s')
    (hsta : ∀ d ∈ ds, d.payload.executionStart = none) (r : String) :
    s'.policyStarts.get? r = s.policyStarts.get? r := by
  obtain ⟨hf, _, p, hw, rfl, -⟩ := startRun_eq_ok h
  rw [hw.starts]
  split
  · rename_i hr
    obtain ⟨rfl, hso⟩ := hr
    obtain ⟨data, hd⟩ := Option.isSome_iff_exists.1 hso
    obtain ⟨event, he, hpa⟩ := admission_eq_some.1 hd
    obtain ⟨state, hst, hp⟩ := foldEvents_eq_ok.1 hw.folds
    simp only [List.mapIdx_cons, List.head?_cons, Option.some.injEq] at he
    subst he
    rw [startRow_eq hd hw.folds, hs.indexed.starts, hf, Option.bind_none, ← hp]
    simp only [List.mapIdx_cons] at hst
    rw [startedAt_of_admitted hst hpa fun event he => ?_]
    · rfl
    · obtain ⟨i, hi, rfl⟩ := List.mem_mapIdx.1 he
      exact hsta _ (List.getElem_mem hi)
  · rfl

/-! ## The start that a claim writes -/

omit [Inspection] in
theorem starts_of_start {ri : String} {admission : RunAdmittedData} {data : RunExecutionStartedData}
    (hr : s.runs.get? ri = some run) (ha : run.admission = some admission)
    (h : s.appendEvents ri (d :: ds) = .ok s') (hpa : d.payload = .runExecutionStarted data)
    (ht : d.iteration = none) (hsta : ∀ d ∈ ds, d.payload.executionStart = none) (r : String) :
    s'.policyStarts.get? r =
      if r = ri then some ⟨run.workflowId, data.startedAt⟩ else s.policyStarts.get? r := by
  obtain ⟨_, first, p, ho, hf, hw⟩ := wrote_of_appendEvents h
  cases hr.symm.trans ho
  rw [List.mapIdx_cons] at hw
  have hb : run.events ≠ [] := by
    intro hn
    rw [hn] at hf
    cases hf
  obtain ⟨state, hst, hp⟩ := foldEvents_eq_ok.1 hw.folds
  have hs (suffix : List RunEvent) :
      ({ run with events := run.events ++ suffix } : StoredRun).admission = some admission :=
    (StoredRun.admission_of_prefix (List.prefix_append run.events suffix) hb).trans ha
  have hsr := startedAt_of_start hst hpa ht fun event he => by
    obtain ⟨i, hi, rfl⟩ := List.mem_mapIdx.1 he
    exact hsta _ (List.getElem_mem hi)
  rw [hw.starts, startRow_eq (hs _) hw.folds, ← hp, hsr, hs]
  simp

/-- A claim that is answered as a first start is for a queued run, within the rate limit, and
stores the time of the start. -/
theorem starts_of_firstStart {rq : PolicyClaimRequest} {c : SchedulerClaimV1}
    (hs : Sound s) (h : s.tryClaimPolicyRunAt fuel cl rq = .ok (.claimed c true, s')) :
    ∃ run w policy, s.runs.get? rq.runId = some run ∧
      s.definitions.get? run.definitionHash = some w ∧ w.runtimePolicy = some policy ∧
      c.workflowId = run.workflowId ∧
      s.workflowRateEligibility run.workflowId policy.rateLimit rq.policyNow =
        .ok .eligible ∧
      s.policyStarts.get? rq.runId = none ∧
      ∀ r, s'.policyStarts.get? r = if r = rq.runId then
        some ⟨run.workflowId, rq.policyNow⟩ else s.policyStarts.get? r := by
  obtain ⟨run, w, policy, q, state, hc, h⟩ := claim_eq_ok h
  split at h
  · rcases h.2 with ⟨-, h⟩ | ⟨-, h⟩ <;> cases h
  obtain ⟨_, h, -⟩ | ⟨h, -⟩ | ⟨c', hre, -, hw, -, hr, hg⟩ := claimFreeRun_eq_ok h
  · cases h
  · cases h
  obtain ⟨rfl, hfs⟩ := PolicyExecutionClaimResult.claimed.inj hre
  have hr := hr hfs.symm
  obtain ⟨row, -, -, ⟨-, _, _, ha⟩ | ⟨hl, -⟩⟩ := grantPolicyClaim_eq_ok hg
  · simp only [Bool.true_eq, Bool.and_eq_true, Option.isNone_iff_eq_none, decide_eq_true_eq] at hfs
    have hf : foldEvents run.events = .ok state.projection :=
      foldEvents_eq_ok.2 ⟨state, fromEvents_of_check hc.checked, rfl⟩
    obtain ⟨data, hd⟩ := admission_of_queued hf hfs.2
    have hn : s.policyStarts.get? rq.runId = none := by
      rw [hs.indexed.starts, hc.stored, Option.bind_some, startRow_eq hd hf, hfs.1]
      rfl
    refine ⟨run, w, policy, hc.stored, hc.defined, hc.limited, hw, hr, hn, ?_⟩
    rw [CompiledWorkflowDefinition.expandStart, List.mapIdx_cons] at ha
    refine starts_of_start (by exact hc.stored) hd ha rfl rfl fun d hdr => ?_
    exact hook_not_start hdr
  · rw [hl] at hfs
    cases hfs

theorem starts_of_other_claim {rq : PolicyClaimRequest} {rs : PolicyExecutionClaimResult}
    (h : s.tryClaimPolicyRunAt fuel cl rq = .ok (rs, s')) (ho : ∀ claim, rs ≠ .claimed claim true)
    (r : String) : s'.policyStarts.get? r = s.policyStarts.get? r := by
  obtain ⟨claims, rfl⟩ | ⟨⟨claim, hr⟩, -⟩ := claim_writes h
  · rfl
  · exact absurd hr (ho claim)

/-- **What a transaction does to the first starts.** -/
theorem perform_starts {rq : StoreRequest} {a : StoreAnswer} (hs : Sound s)
    (hcs : rq.StartsByClaim) (h : s.perform fuel cl rq = .ok (a, s')) :
    firstStart rq a = none ∧ (∀ r, s'.policyStarts.get? r = s.policyStarts.get? r) ∨
    ∃ claim start, rq = .claim claim ∧ firstStart rq a = some start ∧
      start.startedAt = claim.policyNow ∧ s.policyStarts.get? claim.runId = none ∧
      (∀ r, s'.policyStarts.get? r =
        if r = claim.runId then some start else s.policyStarts.get? r) ∧
      ∃ has w policy, s.definitions.get? has = some w ∧ w.workflowId = start.workflowId ∧
        w.runtimePolicy = some policy ∧ s.workflowRateEligibility start.workflowId
          policy.rateLimit start.startedAt = .ok .eligible := by
  cases performed h with
  | define => exact .inl ⟨rfl, fun _ => rfl⟩
  | create hc =>
    simp only [createRun, bind_eq_ok] at hc
    obtain ⟨_, _, _, _, w, _, _, _, _, _, _, _, hsta⟩ := hc
    refine .inl ⟨rfl, ?_⟩
    split at hsta
    · simp only [CompiledWorkflowDefinition.expandStart, List.mapIdx_cons] at hsta
      refine starts_of_startRun hs hsta fun d hd => ?_
      exact hook_not_start hd
    · rw [List.mapIdx_cons, List.mapIdx_nil] at hsta
      exact starts_of_startRun hs hsta (by simp)
  | append ha => exact .inl ⟨rfl, starts_of_appendEvents hs ha hcs⟩
  | occurrence had =>
    simp only [admitTriggerOccurrence, bind_eq_ok] at had
    obtain ⟨_, _, _, _, _, _, _, _, e, _, had⟩ := had
    refine .inl ⟨rfl, fun r => ?_⟩
    cases e with
    | some e =>
      simp only [eq_ok_iff] at had
      obtain ⟨_, _, _, _, _, rfl⟩ := had
      rfl
    | none =>
      simp only [admitNewOccurrence, insertOccurrence, eq_ok_iff] at had
      obtain ⟨_, _, started, hsta, stored, ⟨_, _, rfl⟩, _, rfl⟩ := had
      exact starts_of_startRun hs hsta (by simp) r
  | @claim rq result _ hcl =>
    cases result with
    | waiting => exact .inl ⟨rfl, starts_of_other_claim hcl (by rintro _ ⟨⟩)⟩
    | claimed claim first =>
      cases first with
      | false => exact .inl ⟨rfl, starts_of_other_claim hcl (by rintro _ ⟨⟩)⟩
      | true =>
        obtain ⟨run, w, policy, hru, hw, hp, hwf, hr, hn, hst⟩ := starts_of_firstStart hs hcl
        obtain ⟨w', hw', hsa⟩ := hs.bound hru
        cases hw.symm.trans hw'
        rw [← hwf] at hr hst hsa
        exact .inr ⟨rq, _, rfl, rfl, rfl, hn, hst, _, w, policy, hw, hsa, hp, hr⟩
  | claims _ ho =>
    refine .inl ⟨?_, fun _ => rfl⟩
    unfold firstStart
    split
    · exact absurd rfl (ho _)
    · rfl

end

end Store

end Woml
