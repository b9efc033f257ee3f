import Woml.Engine.Proof.History
import Woml.Lib.Runs
import Woml.Projection.Proof.Admission
import Woml.Store.Proof.Tables

/-!
# Who may execute a run

A scheduler owner may execute a run once it was told so: its claim was granted, or resumed. It may
no longer when the claim is suspended, released, or swept away after its lease ran out.
`Scheduler` keeps the store together with what owners were told.

A claim counts against the concurrency limit of a workflow under its label (`Store.holders`). Every
grant finds a free slot (`Grants`), and whatever else happens to the claims only takes labels away
(`Shrinks`), so the holders of a workflow stay within its limit (`Coherent.step`). The owners that
were told to execute are among the holders as long as no owner claims a run again whose claim it
has suspended (`Store.ReclaimsSuspended`): the claim is answered from the existing row, without
counting.
-/

namespace Woml

open Checked Store SortedMap

/-! ## What owners were told -/

/-- The store, and the workflow of every run whose owner may execute it. -/
structure Scheduler where
  store : Store := {}
  told : SortedMap String String := .empty

namespace Scheduler

/-- What owners know after an answer, in the store that it leaves. -/
def tell (told : SortedMap String String) (s : Store) :
    StoreRequest → StoreAnswer → SortedMap String String
  | .claim _, .claim (.claimed claim _) => told.insert claim.runId claim.workflowId
  | .resume runId _ _ _, .changed true =>
    told.insert runId ((s.runs.get? runId).elim "" (·.workflowId))
  | .suspend runId _ _, .changed true => told.erase runId
  | .release runId _ _, .changed true => told.erase runId
  | _, _ => told

section
variable [Host] [Inspection] (fuel : Nat) (clock : Nat → DateTime)

/-- One transaction. Who has no claim any more may not execute. -/
def step (σ : Scheduler) (request : StoreRequest) : Scheduler :=
  match σ.store.perform fuel clock request with
  | .ok (answer, s) =>
    ⟨s, (tell σ.told s request answer).filter fun runId _ => s.claims.contains runId⟩
  | .error _ => σ

/-- The requests of any number of owners, one transaction after the other. -/
def run (requests : List StoreRequest) : Scheduler := requests.foldl (step fuel clock) {}

end

/-- The runs of a workflow that are executed. -/
def executing (σ : Scheduler) (workflowId : String) : Finset String :=
  ((σ.told.entries.filter (·.2 = workflowId)).map (·.1)).toFinset

theorem mem_executing {σ : Scheduler} {workflowId ri : String} :
    ri ∈ σ.executing workflowId ↔ σ.told.get? ri = some workflowId := by
  simp [executing, mem_entries]

end Scheduler

variable {suspended : Option String}

namespace Store

variable {s s' : Store} {request : PolicyClaimRequest} {runId ownerId claimId : String}
  {w : DefinitionRef} {policy : CompiledRuntimePolicy} {now : DateTime}

/-- Every registered definition of the workflow has a concurrency limit, of at most `limit`. -/
def LimitedTo (s : Store) (workflowId : String) (limit : Nat) : Prop :=
  ∀ hash w, s.definitions.get? hash = some w → w.workflowId = workflowId →
    ∃ policy concurrency, w.runtimePolicy = some policy ∧
      policy.concurrency = some concurrency ∧ concurrency ≤ limit

/-- An owner claims a run again whose claim it has suspended. -/
def ReclaimsSuspended (s : Store) : StoreRequest → Prop
  | .claim request => ∃ row run,
      (s.deleteExpiredClaims request.leaseNow).claims.get? request.runId = some row ∧
        row.ownerId = request.ownerId ∧ s.runs.get? request.runId = some run ∧
        row.workflowId ≠ run.workflowId
  | _ => False

theorem limitedTo_of_all {wi : String} {limit : Nat}
    (h : s.definitions.values.all (fun w => w.workflowId ≠ wi ||
      (w.runtimePolicy.bind (·.concurrency)).any (· ≤ limit)) = true) :
    s.LimitedTo wi limit := by
  intro ha w hw hwf
  have hb := List.all_eq_true.1 h w (s.definitions.mem_values.2 ⟨ha, hw⟩)
  simp only [hwf, ne_eq, not_true_eq_false, decide_false, Bool.false_or, Option.any_eq_true,
    Option.bind_eq_some_iff, decide_eq_true_eq] at hb
  obtain ⟨concurrency, ⟨policy, hp, hc⟩, hl⟩ := hb
  exact ⟨policy, concurrency, hp, hc, hl⟩

theorem not_reclaimsSuspended (h : s.claims.contains request.runId = false) :
    ¬s.ReclaimsSuspended (.claim request) := by
  rintro ⟨row, run, hr, -⟩
  have hg := ((get?_filter _ _).1 hr).1
  rw [SortedMap.contains, hg] at h
  cases h

/-! ## Holders of a slot -/

/-- The runs of a workflow whose claim counts against its limit. -/
def holders (s : Store) (workflowId : String) : Finset String :=
  ((s.claims.entries.filter fun e => e.2.workflowId = workflowId &&
    (s.runs.get? e.1).any (·.workflowId = workflowId)).map (·.1)).toFinset

theorem mem_holders {workflowId ri : String} :
    ri ∈ s.holders workflowId ↔ ∃ row run, s.claims.get? ri = some row ∧
      row.workflowId = workflowId ∧ s.runs.get? ri = some run ∧
      run.workflowId = workflowId := by
  simp [holders, SortedMap.mem_entries, Option.any_eq_true]

theorem card_holders_le (s : Store) (wi : String) :
    (s.holders wi).card ≤ s.claims.values.countP (·.workflowId = wi) := by
  calc (s.holders wi).card
      ≤ (s.claims.entries.filter fun e => e.2.workflowId = wi &&
          (s.runs.get? e.1).any (·.workflowId = wi)).length := by
        simpa [holders] using List.toFinset_card_le (l :=
          (s.claims.entries.filter fun e => e.2.workflowId = wi &&
            (s.runs.get? e.1).any (·.workflowId = wi)).map (·.1))
    _ ≤ s.claims.entries.countP (fun e => e.2.workflowId = wi) := by
        rw [← List.countP_eq_length_filter]
        refine List.countP_mono_left fun e _ h => ?_
        simp only [Bool.and_eq_true] at h
        exact h.1
    _ = s.claims.values.countP (·.workflowId = wi) := by
        rw [values, List.countP_map]
        rfl

/-! ## What happens to claims -/

/-- No claim is new, and none changes its label, unless it is suspended. -/
def Shrinks (s s' : Store) (suspended : Option String) : Prop :=
  ∀ r row', s'.claims.get? r = some row' → ∃ row, s.claims.get? r = some row ∧
    (row'.workflowId = row.workflowId ∨
      suspended = some r ∧ row'.workflowId = suspendedPolicyWorkflowId)

/-- The claim of one run is put under the label of its workflow, which has a free slot. -/
structure Grants (s s' : Store) (runId : String) : Prop where
  exists_grant : ∃ base row run w policy,
    (∀ r row, base.get? r = some row → s.claims.get? r = some row) ∧
    s'.claims = base.insert runId row ∧ s.runs.get? runId = some run ∧
    row.workflowId = run.workflowId ∧ s.definitions.get? run.definitionHash = some w ∧
    w.runtimePolicy = some policy ∧
    ({ s with claims := base } : Store).workflowHasPolicyCapacity run.workflowId
      policy.concurrency = true

theorem Shrinks.of_eq (h : s'.claims = s.claims) : Shrinks s s' none :=
  fun _ row' hr => ⟨row', h ▸ hr, .inl rfl⟩

theorem get?_deleteExpiredClaims {r : String} {row : SchedulerClaim} :
    (s.deleteExpiredClaims now).claims.get? r = some row ↔
      s.claims.get? r = some row ∧ now < row.expiresAt := by
  rw [deleteExpiredClaims, SortedMap.get?_filter, decide_eq_true_eq]

theorem Shrinks.deleteExpiredClaims (s : Store) (now : DateTime) :
    Shrinks s (s.deleteExpiredClaims now) none :=
  fun _ row hr => ⟨row, (get?_deleteExpiredClaims.1 hr).1, .inl rfl⟩

theorem presentedClaim_eq_some {c : SchedulerClaim} :
    s.presentedClaim runId ownerId claimId = some c ↔
      s.claims.get? runId = some c ∧ c.ownerId = ownerId ∧ c.claimId = claimId := by
  simp [presentedClaim, Option.filter_eq_some_iff]

theorem capacity_of_mustWait {ri q wi : String} {p : RunProjection}
    (h : s.mustWaitForCapacity ri q wi policy p now = .ok false) :
    s.workflowHasPolicyCapacity wi policy.concurrency = true := by
  rw [mustWaitForCapacity] at h
  split at h
  · cases h
  · rename_i hc
    simpa using hc

theorem presentedClaim_stale
    (h : ∀ row, s.claims.get? runId = some row → row.ownerId ≠ ownerId ∨ row.claimId ≠ claimId) :
    s.presentedClaim runId ownerId claimId = none := by
  cases hc : s.presentedClaim runId ownerId claimId with
  | none => rfl
  | some claim =>
    obtain ⟨hr, ho, hi⟩ := presentedClaim_eq_some.1 hc
    rcases h claim hr with hn | hn
    · exact absurd ho hn
    · exact absurd hi hn

/-- What an owner can do with a claim that is not the one of the run. -/
structure Powerless [Inspection] (s : Store) (runId ownerId claimId : String) : Prop where
  renew : ∀ now lease answer, s.renewPolicyClaim runId ownerId claimId now lease ≠ .ok answer
  suspend : s.suspendPolicyClaim runId ownerId claimId = (false, s)
  resume : ∀ now answer, s.resumePolicyClaim runId ownerId claimId now ≠ .ok answer
  release : s.releasePolicyClaim runId ownerId claimId = (false, s)

theorem powerless_of_stale [Inspection]
    (h : ∀ row, s.claims.get? runId = some row → row.ownerId ≠ ownerId ∨ row.claimId ≠ claimId) :
    s.Powerless runId ownerId claimId where
  renew now lease answer hr := by
    simp only [renewPolicyClaim, presentedClaim_stale h, eq_ok_iff, Option.filter_none,
      reduceCtorEq, false_and, exists_false, and_false] at hr
  suspend := by rw [suspendPolicyClaim, presentedClaim_stale h]
  resume now answer hre := by
    have hs : (s.deleteExpiredClaims now).presentedClaim runId ownerId claimId = none :=
      presentedClaim_stale fun row hro => h row (get?_deleteExpiredClaims.1 hro).1
    simp only [resumePolicyClaim, hs, eq_ok_iff, Option.filter_none, reduceCtorEq, false_and,
      exists_false, and_false] at hre
  release := by rw [releasePolicyClaim, presentedClaim_stale h]

/-! ## The invariant -/

/-- Every claim belongs to a run and is labelled with its workflow unless it is suspended. -/
def Labelled (s : Store) : Prop :=
  ∀ r row, s.claims.get? r = some row → ∃ run, s.runs.get? r = some run ∧
    (row.workflowId = run.workflowId ∨ row.workflowId = suspendedPolicyWorkflowId)

/-- The holders of every limited workflow are within its limit. -/
def Within (s : Store) : Prop :=
  ∀ workflowId limit, s.LimitedTo workflowId limit → (s.holders workflowId).card ≤ limit

theorem LimitedTo.of_grows (hg : s.Grows s') {wi : String} {limit : Nat}
    (h : s'.LimitedTo wi limit) : s.LimitedTo wi limit :=
  fun ha w hw => h ha w (hg.definitions hw)

theorem workflow_of_grows (hg : s.Grows s') {r : String} {run run' : StoredRun}
    (hr : s.runs.get? r = some run) (hr' : s'.runs.get? r = some run') :
    run'.workflowId = run.workflowId := by
  obtain ⟨r'', hr'', hw, -, -⟩ := hg.runs hr
  cases hr'.symm.trans hr''
  exact hw

theorem Labelled.shrinks (hs : Labelled s) (hg : s.Grows s') (h : Shrinks s s' suspended) :
    Labelled s' := by
  intro r row' hr'
  obtain ⟨row, hr, hl⟩ := h r row' hr'
  obtain ⟨run, hru, ho⟩ := hs r row hr
  obtain ⟨run', hru', hw, -, -⟩ := hg.runs hru
  refine ⟨run', hru', ?_⟩
  rcases hl with hl | ⟨-, hl⟩
  · rw [hl, hw]
    exact ho
  · exact .inr hl

/-- A suspended claim can only count for a workflow that has the label of suspension as its name,
and then it counted before. -/
theorem holders_of_shrinks (hs : Labelled s) (hg : s.Grows s') (h : Shrinks s s' suspended)
    (workflowId : String) : s'.holders workflowId ⊆ s.holders workflowId := by
  intro r hr
  obtain ⟨row', run', hr', hl', hru', hw'⟩ := mem_holders.1 hr
  obtain ⟨row, hro, hl⟩ := h r row' hr'
  obtain ⟨run, hru, ho⟩ := hs r row hro
  have hw : run.workflowId = workflowId := (workflow_of_grows hg hru hru').symm.trans hw'
  refine mem_holders.2 ⟨row, run, hro, ?_, hru, hw⟩
  rcases hl with hl | ⟨-, hl⟩
  · exact hl.symm.trans hl'
  · rcases ho with ho | ho
    · exact ho.trans hw
    · exact ho.trans (hl.symm.trans hl')

theorem Within.shrinks (hs : Within s) (hl : Labelled s) (hg : s.Grows s')
    (h : Shrinks s s' suspended) : Within s' :=
  fun wi limit hli =>
    (Finset.card_le_card (holders_of_shrinks hl hg h wi)).trans
      (hs wi limit (hli.of_grows hg))

theorem Labelled.grants (hs : Labelled s) (hg : s.Grows s') (h : Grants s s' runId) :
    Labelled s' := by
  obtain ⟨base, row₀, run₀, w, policy, hb, hc, hrun₀, hlabel₀, -⟩ := h
  intro r row hro
  rw [hc] at hro
  rcases of_get?_insert hro with ⟨rfl, rfl⟩ | ⟨-, hro⟩
  · obtain ⟨run', hr', hw, -, -⟩ := hg.runs hrun₀
    exact ⟨run', hr', .inl (hlabel₀.trans hw.symm)⟩
  · obtain ⟨run, hr, ho⟩ := hs r row (hb r row hro)
    obtain ⟨run', hr', hw, -, -⟩ := hg.runs hr
    exact ⟨run', hr', hw.symm ▸ ho⟩

section
variable [Host] [Inspection] {fuel : Nat} {c : Nat → DateTime}

/-- A grant finds a slot free, so the limit of its workflow is kept; no other count rises. -/
theorem Within.grants (hs : Within s) (hl : Labelled s) (hsn : Sound s)
    (hg : s.Grows s') (h : Grants s s' runId) : Within s' := by
  obtain ⟨base, row₀, run₀, w, policy, hb, hcl, hrun₀, hlabel₀, hw, hp, hca⟩ := h
  have hk : ∀ workflowId r, r ∈ s'.holders workflowId → r ≠ runId →
      r ∈ ({ s with claims := base } : Store).holders workflowId := by
    intro workflowId r hr hn
    obtain ⟨row, run', hro, hla, hru', hwf⟩ := mem_holders.1 hr
    rw [hcl, get?_insert_ne _ hn] at hro
    obtain ⟨run, hru, -⟩ := hl r row (hb r row hro)
    exact mem_holders.2 ⟨row, run, hro, hla, hru, (workflow_of_grows hg hru hru').symm.trans hwf⟩
  intro workflowId limit hli
  by_cases he : run₀.workflowId = workflowId
  · -- the granted run takes the slot that the count found free
    obtain ⟨w', hw', hwf⟩ := hsn.bound hrun₀
    cases hw.symm.trans hw'
    obtain ⟨p', concurrency, hp', hco, hle⟩ := hli _ w (hg.definitions hw) (hwf.trans he)
    cases hp.symm.trans hp'
    simp only [workflowHasPolicyCapacity, hco, decide_eq_true_eq, he] at hca
    have hsu : s'.holders workflowId ⊆
        insert runId (({ s with claims := base } : Store).holders workflowId) := by
      intro r hr
      by_cases hr' : r = runId
      · exact Finset.mem_insert.2 (.inl hr')
      · exact Finset.mem_insert_of_mem (hk workflowId r hr hr')
    have hc := (Finset.card_le_card hsu).trans (Finset.card_insert_le _ _)
    have hcn := card_holders_le ({ s with claims := base } : Store) workflowId
    exact hc.trans ((Nat.succ_le_of_lt (Nat.lt_of_le_of_lt hcn hca)).trans hle)
  · -- the granted run counts for its own workflow only
    refine (Finset.card_le_card fun r hr => ?_).trans (hs workflowId limit (hli.of_grows hg))
    obtain ⟨row, run', hro, hla, hru', -⟩ := mem_holders.1 hr
    by_cases hr' : r = runId
    · subst hr'
      rw [hcl, get?_insert_self, Option.some.injEq] at hro
      exact absurd (hlabel₀.symm.trans (hro ▸ hla)) he
    · obtain ⟨row, run, hro, hla, hru, hwf⟩ := mem_holders.1 (hk workflowId r hr hr')
      exact mem_holders.2 ⟨row, run, hb r row hro, hla, hru, hwf⟩

/-! ## Transactions -/

/-- How a claim can be answered. -/
inductive ClaimAnswer (s : Store) (request : PolicyClaimRequest) :
    PolicyExecutionClaimResult → Store → Prop
  | foreign {row : SchedulerClaim} {workflowId queue : String}
      (hrow : (s.deleteExpiredClaims request.leaseNow).claims.get? request.runId = some row)
      (howner : row.ownerId ≠ request.ownerId) :
      ClaimAnswer s request (.waiting request.runId workflowId queue .concurrency none) s
  | again {row : SchedulerClaim} {run : StoredRun} {claim : SchedulerClaimV1}
      (hrow : (s.deleteExpiredClaims request.leaseNow).claims.get? request.runId = some row)
      (howner : row.ownerId = request.ownerId) (hrun : s.runs.get? request.runId = some run)
      (hclaim : claim.runId = request.runId ∧ claim.workflowId = run.workflowId) :
      ClaimAnswer s request (.claimed claim false) s
  | later {workflowId queue : String} {reason : PolicyClaimWaitReason}
      {eligibleAt : Option DateTime} :
      ClaimAnswer s request (.waiting request.runId workflowId queue reason eligibleAt)
        (s.deleteExpiredClaims request.leaseNow)
  | granted {s' : Store} {run : StoredRun} {claim : SchedulerClaimV1} {firstStart : Bool}
      (hrun : s.runs.get? request.runId = some run)
      (hclaim : claim.runId = request.runId ∧ claim.workflowId = run.workflowId)
      (hgrants : Grants s s' request.runId)
      (hunqueued : ∀ run p, s'.runs.get? request.runId = some run →
        foldEvents run.events = .ok p → p.status ≠ .queued) :
      ClaimAnswer s request (.claimed claim firstStart) s'

omit [Inspection] in
/-- A granted run is not queued: it was not before, or it is started with the grant. -/
theorem not_queued_of_grant {run : StoredRun} {st : ProjectionFoldState}
    (hr : s.runs.get? request.runId = some run)
    (hf : ProjectionFoldState.fromEvents run.events = .ok st)
    (h : s.grantPolicyClaim fuel c request run w policy
      (st.projection.startedAt.isNone && st.projection.status = .queued) = .ok s')
    {run' : StoredRun} {p' : RunProjection} (hr' : s'.runs.get? request.runId = some run')
    (hf' : foldEvents run'.events = .ok p') : p'.status ≠ .queued := by
  rw [foldEvents, map_eq_ok] at hf'
  obtain ⟨st', hs', rfl⟩ := hf'
  obtain ⟨row, -, -, ⟨-, _, _, ha⟩ | ⟨hfs, rfl⟩⟩ := grantPolicyClaim_eq_ok h
  · obtain ⟨_, first, p, hr'', -, hw⟩ := wrote_of_appendEvents ha
    have he := hw.runs request.runId
    rw [if_pos rfl, hr', Option.some.injEq] at he
    rw [he] at hs'
    simp only [CompiledWorkflowDefinition.expandStart, List.mapIdx_cons] at hs'
    exact ProjectionFoldState.not_queued_of_start hs' rfl rfl
  · cases hr.symm.trans hr'
    cases hf.symm.trans hs'
    intro hq
    rw [ProjectionFoldState.startedAt_of_queued hf hq, hq] at hfs
    cases hfs

theorem claimAnswer_of_claim {rs : PolicyExecutionClaimResult}
    (h : s.tryClaimPolicyRunAt fuel c request = .ok (rs, s')) : ClaimAnswer s request rs s' := by
  obtain ⟨run, w, policy, q, state, hc, h⟩ := claim_eq_ok h
  split at h
  · rename_i row hro
    obtain ⟨rfl, ⟨ho, rfl⟩ | ⟨ho, rfl⟩⟩ := h
    · exact .foreign hro ho
    · exact .again hro ho hc.stored ⟨rfl, rfl⟩
  · obtain ⟨ea, rfl, rfl, -⟩ | ⟨rfl, rfl, -⟩ |
      ⟨claim, rfl, hr, hwf, hw, -, hg⟩ := claimFreeRun_eq_ok h
    · exact .later
    · exact .later
    · obtain ⟨row, hl, hcl, -⟩ := grantPolicyClaim_eq_ok hg
      exact .granted hc.stored ⟨hr, hwf⟩
        ⟨_, row, run, w, policy, fun r row hge => (get?_deleteExpiredClaims.1 hge).1, hcl,
          hc.stored, hl, hc.defined, hc.limited, capacity_of_mustWait hw⟩
        fun run' p' hr' hf' =>
          not_queued_of_grant (s := s.deleteExpiredClaims request.leaseNow) hc.stored
            (fromEvents_of_check hc.checked) hg hr' hf'

omit [Host] in
theorem grants_of_resume (h : s.resumePolicyClaim runId ownerId claimId now = .ok (true, s')) :
    (∃ row, s.claims.get? runId = some row) ∧ Grants s s' runId := by
  simp only [resumePolicyClaim, runBinding, eq_ok_iff, definitionForRun_eq_ok,
    Option.filter_eq_some_iff, presentedClaim_eq_some, get?_deleteExpiredClaims] at h
  obtain ⟨run, hr, w, ⟨run', hr', hw, _⟩, policy, hp, claim, ⟨⟨⟨hro, _⟩, _⟩, _⟩, h⟩ := h
  cases hr.symm.trans hr'
  split at h
  · cases h
  · rename_i hc
    rw [Bool.not_eq_true', Bool.not_eq_false] at hc
    cases h
    exact ⟨⟨claim, hro⟩, _, _, run, w, policy,
      fun r row hg => (get?_deleteExpiredClaims.1 hg).1, rfl, hr, rfl, hw, hp, hc⟩

omit [Host] in
theorem shrinks_of_resume (h : s.resumePolicyClaim runId ownerId claimId now = .ok (false, s')) :
    Shrinks s s' none := by
  simp only [resumePolicyClaim, bind_eq_ok] at h
  obtain ⟨_, _, _, _, _, _, _, _, h⟩ := h
  split at h
  · cases h
    exact Shrinks.deleteExpiredClaims s now
  · cases h

/-- What a transaction does to the claims and tells an owner. Most tell nothing and only take
claims away. -/
inductive ClaimsStep (s : Store) : StoreRequest → StoreAnswer → Store → Prop
  | quiet {request : StoreRequest} {answer : StoreAnswer} {s' : Store}
      (hshrinks : Shrinks s s' none)
      (hquiet : ∀ told, Scheduler.tell told s' request answer = told) :
      ClaimsStep s request answer s'
  | claim {request : PolicyClaimRequest} {result : PolicyExecutionClaimResult} {s' : Store}
      (h : ClaimAnswer s request result s') : ClaimsStep s (.claim request) (.claim result) s'
  | suspend {runId ownerId claimId : String} {s' : Store} (h : Shrinks s s' (some runId)) :
      ClaimsStep s (.suspend runId ownerId claimId) (.changed true) s'
  | resume {runId ownerId claimId : String} {now : DateTime} {s' : Store}
      (hrow : ∃ row, s.claims.get? runId = some row) (h : Grants s s' runId) :
      ClaimsStep s (.resume runId ownerId claimId now) (.changed true) s'
  | release {runId ownerId claimId : String} {s' : Store} (h : Shrinks s s' none) :
      ClaimsStep s (.release runId ownerId claimId) (.changed true) s'

/-- **What every transaction does to the claims.** -/
theorem perform_claims {rq : StoreRequest} {a : StoreAnswer}
    (h : s.perform fuel c rq = .ok (a, s')) : ClaimsStep s rq a s' := by
  cases rq with
  | registerDefinition w ha same =>
    simp only [perform, map_eq_ok] at h
    obtain ⟨_, h, _, rfl⟩ := h
    obtain ⟨ds, rfl⟩ := registerDefinition_eq_ok h
    exact .quiet (.of_eq rfl) fun _ => rfl
  | createRun runId ei oa payload vc =>
    simp only [perform, createRun, eq_ok_iff] at h
    obtain ⟨_, ⟨_, _, _, _, _, _, _, _, _, _, _, _, h⟩, _, rfl⟩ := h
    obtain ⟨-, _, p, hw, -⟩ := startRun_eq_ok h
    exact .quiet (.of_eq hw.claims) fun _ => rfl
  | appendEvents runId drs =>
    simp only [perform, map_eq_ok] at h
    obtain ⟨_, h, _, rfl⟩ := h
    obtain ⟨_, _, p, -, -, hw⟩ := wrote_of_appendEvents h
    exact .quiet (.of_eq hw.claims) fun _ => rfl
  | admitOccurrence rq ids =>
    simp only [perform, admitTriggerOccurrence, eq_ok_iff, Prod.exists] at h
    obtain ⟨_, _, ⟨_, _, _, _, _, _, _, _, e, _, h⟩, _, rfl⟩ := h
    refine .quiet (.of_eq ?_) fun _ => rfl
    cases e with
    | some e =>
      simp only [eq_ok_iff] at h
      obtain ⟨_, _, _, _, _, rfl⟩ := h
      rfl
    | none =>
      simp only [admitNewOccurrence, insertOccurrence, eq_ok_iff] at h
      obtain ⟨_, _, started, hs, stored, ⟨_, _, rfl⟩, _, rfl⟩ := h
      obtain ⟨-, _, p, hw, -⟩ := startRun_eq_ok hs
      exact hw.claims
  | claim rq =>
    simp only [perform, map_eq_ok, Prod.exists] at h
    obtain ⟨result, _, h, rfl, rfl⟩ := h
    exact .claim (claimAnswer_of_claim h)
  | renew runId ownerId claimId now ld =>
    simp only [perform, renewPolicyClaim, eq_ok_iff, Option.filter_eq_some_iff,
      presentedClaim_eq_some, Prod.exists] at h
    obtain ⟨_, _, ⟨_, _, claim, ⟨⟨hc, _⟩, _⟩, _, _, _, rfl⟩, rfl, rfl⟩ := h
    refine .quiet (fun r row' hr' => ?_) fun _ => rfl
    rcases of_get?_insert hr' with ⟨rfl, rfl⟩ | ⟨-, hr'⟩
    · exact ⟨claim, hc, .inl rfl⟩
    · exact ⟨row', hr', .inl rfl⟩
  | suspend runId ownerId claimId =>
    obtain ⟨rfl, rfl⟩ := h
    cases hc : s.presentedClaim runId ownerId claimId with
    | none => exact .quiet (.of_eq rfl) fun _ => rfl
    | some claim =>
      refine .suspend fun r row' hr' => ?_
      rcases of_get?_insert hr' with ⟨rfl, rfl⟩ | ⟨-, hr'⟩
      · exact ⟨claim, (presentedClaim_eq_some.1 hc).1, .inr ⟨rfl, rfl⟩⟩
      · exact ⟨row', hr', .inl rfl⟩
  | resume runId ownerId claimId now =>
    simp only [perform, map_eq_ok, Prod.exists] at h
    obtain ⟨v, _, h, rfl, rfl⟩ := h
    cases v with
    | false => exact .quiet (shrinks_of_resume h) fun _ => rfl
    | true =>
      obtain ⟨hr, hg⟩ := grants_of_resume h
      exact .resume hr hg
  | release runId ownerId claimId =>
    obtain ⟨rfl, rfl⟩ := h
    cases hc : s.presentedClaim runId ownerId claimId with
    | none => exact .quiet (.of_eq rfl) fun _ => rfl
    | some claim =>
      refine .release fun r row' hr' => ?_
      have hn : r ≠ runId := by
        rintro rfl
        rw [get?_erase_self] at hr'
        cases hr'
      exact ⟨row', by rwa [get?_erase_ne _ hn] at hr', .inl rfl⟩
  | expire now =>
    cases h
    exact .quiet (.deleteExpiredClaims s now) fun _ => rfl

end

end Store

/-! ## Runs of the scheduler -/

namespace Scheduler

section
variable [Host] [Inspection] {fuel : Nat} {clock : Nat → DateTime} {σ : Scheduler} {s : Store}
  {told : SortedMap String String}

/-- Who may execute holds a slot, and the slots are within the limits. -/
structure Coherent (σ : Scheduler) : Prop where
  sound : σ.store.Sound
  labelled : σ.store.Labelled
  within : σ.store.Within
  held : ∀ workflowId, σ.executing workflowId ⊆ σ.store.holders workflowId

omit [Host] [Inspection] in
/-- Owners that hear nothing new, where no claim of theirs is suspended. -/
theorem held_of_shrinks (hgr : σ.store.Grows s) (hsh : σ.store.Shrinks s suspended)
    (hh : ∀ workflowId, σ.executing workflowId ⊆ σ.store.holders workflowId)
    (ht : ∀ {r workflowId}, told.get? r = some workflowId →
      σ.told.get? r = some workflowId ∧ suspended ≠ some r) (workflowId : String) :
    (⟨s, told.filter fun runId _ => s.claims.contains runId⟩ : Scheduler).executing workflowId ⊆
      s.holders workflowId := by
  intro r hr
  obtain ⟨hg, hc⟩ := (get?_filter _ _).1 (mem_executing.1 hr)
  obtain ⟨hg, hsu⟩ := ht hg
  obtain ⟨row, run, hro, hl, hru, hw⟩ := mem_holders.1 (hh workflowId (mem_executing.2 hg))
  obtain ⟨row', hr'⟩ := Option.isSome_iff_exists.1 hc
  obtain ⟨run', hru', hw', -, -⟩ := hgr.runs hru
  obtain ⟨r'', hr'', hl'⟩ := hsh r row' hr'
  cases hro.symm.trans hr''
  refine mem_holders.2 ⟨row', run', hr', ?_, hru', hw'.trans hw⟩
  rcases hl' with hl' | ⟨hs, -⟩
  · exact hl'.trans hl
  · exact absurd hs hsu

omit [Host] [Inspection] in
/-- The owner of a granted claim hears that it may execute. -/
theorem held_of_grants {ri : String} {run : StoredRun} (hgr : σ.store.Grows s)
    (hgra : σ.store.Grants s ri)
    (hh : ∀ workflowId, σ.executing workflowId ⊆ σ.store.holders workflowId)
    (hru : σ.store.runs.get? ri = some run) (workflowId : String) :
    (⟨s, (σ.told.insert ri run.workflowId).filter fun ri _ =>
      s.claims.contains ri⟩ : Scheduler).executing workflowId ⊆ s.holders workflowId := by
  obtain ⟨base, row₀, run₀, w, policy, hb, hc, hrun₀, hlabel₀, -⟩ := hgra
  cases hru.symm.trans hrun₀
  intro r hr
  obtain ⟨hg, hcl⟩ := (get?_filter _ _).1 (mem_executing.1 hr)
  rcases of_get?_insert hg with ⟨rfl, rfl⟩ | ⟨hn, hg⟩
  · obtain ⟨run', hru', hw', -, -⟩ := hgr.runs hru
    exact mem_holders.2 ⟨row₀, run', by rw [hc, get?_insert_self], hlabel₀,
      hru', hw'⟩
  · obtain ⟨row, run, hro, hl, hru, hw⟩ := mem_holders.1 (hh workflowId (mem_executing.2 hg))
    obtain ⟨row', hr'⟩ := Option.isSome_iff_exists.1 hcl
    obtain ⟨run', hru', hw', -, -⟩ := hgr.runs hru
    have hs : σ.store.claims.get? r = some row' := by
      refine hb r row' ?_
      rw [hc, get?_insert_ne _ hn] at hr'
      exact hr'
    cases hro.symm.trans hs
    exact mem_holders.2 ⟨row, run', hr', hl, hru', hw'.trans hw⟩

omit [Host] [Inspection] in
theorem of_get?_erase {ri r wi : String} (h : (told.erase ri).get? r = some wi) :
    told.get? r = some wi ∧ some ri ≠ some r := by
  by_cases hr : r = ri
  · rw [hr, SortedMap.get?_erase_self] at h
    cases h
  · rw [SortedMap.get?_erase_ne _ hr] at h
    exact ⟨h, fun he => hr (Option.some.inj he).symm⟩

theorem Coherent.of_shrinks (hσ : σ.Coherent) (hg : σ.store.Grows s) (hsn : s.Sound)
    (hs : σ.store.Shrinks s suspended)
    (ht : ∀ {r workflowId}, told.get? r = some workflowId →
      σ.told.get? r = some workflowId ∧ suspended ≠ some r) :
    (⟨s, told.filter fun runId _ => s.claims.contains runId⟩ : Scheduler).Coherent :=
  ⟨hsn, hσ.labelled.shrinks hg hs, hσ.within.shrinks hσ.labelled hg hs,
    held_of_shrinks hg hs hσ.held ht⟩

theorem Coherent.of_grants (hσ : σ.Coherent) {ri : String} {run : StoredRun} (hgr : σ.store.Grows s)
    (hs : s.Sound) (hg : σ.store.Grants s ri) (hr : σ.store.runs.get? ri = some run) :
    (⟨s, (σ.told.insert ri run.workflowId).filter fun ri _ =>
      s.claims.contains ri⟩ : Scheduler).Coherent :=
  ⟨hs, hσ.labelled.grants hgr hg, hσ.within.grants hσ.labelled hσ.sound hgr hg,
    held_of_grants hgr hg hσ.held hr⟩

theorem Coherent.claim (hσ : σ.Coherent) {rq : PolicyClaimRequest}
    (hre : ¬σ.store.ReclaimsSuspended (.claim rq)) {rs : PolicyExecutionClaimResult}
    (hgr : σ.store.Grows s) (hs : s.Sound) (h : σ.store.ClaimAnswer rq rs s) :
    (⟨s, (tell σ.told s (.claim rq) (.claim rs)).filter fun runId _ =>
      s.claims.contains runId⟩ : Scheduler).Coherent := by
  have hq : ∀ {r wi}, σ.told.get? r = some wi →
      σ.told.get? r = some wi ∧ (none : Option String) ≠ some r :=
    fun hg => ⟨hg, nofun⟩
  cases h with
  | foreign => exact hσ.of_shrinks hgr hs (.of_eq rfl) hq
  | later => exact hσ.of_shrinks hgr hs (.deleteExpiredClaims _ _) hq
  | @granted _ run claim firstStart hrn hc hgra _ =>
    obtain ⟨hru, hw⟩ := hc
    simp only [tell, hru, hw]
    exact hσ.of_grants hgr hs hgra hrn
  | @again row run claim hro ho hrn hc =>
    obtain ⟨hru, hw⟩ := hc
    refine ⟨hs, hσ.labelled, hσ.within, fun wi r hr => ?_⟩
    obtain ⟨hg, -⟩ := (get?_filter _ _).1 (mem_executing.1 hr)
    simp only [tell, hru, hw] at hg
    rcases of_get?_insert hg with ⟨rfl, rfl⟩ | ⟨-, hg⟩
    · -- the row that answered is not suspended
      refine mem_holders.2 ⟨row, run, (Store.get?_deleteExpiredClaims.1 hro).1, ?_, hrn, rfl⟩
      by_contra hl
      exact hre ⟨row, run, hro, ho, hrn, hl⟩
    · exact hσ.held wi (mem_executing.2 hg)

/-- **One transaction**: as long as no suspended claim is claimed again, those who may execute hold
their slots. -/
theorem Coherent.step (hσ : σ.Coherent) {r : StoreRequest}
    (hr : ¬σ.store.ReclaimsSuspended r) : (σ.step fuel clock r).Coherent := by
  rw [Scheduler.step]
  cases h : σ.store.perform fuel clock r with
  | error e => exact hσ
  | ok result =>
    obtain ⟨answer, s⟩ := result
    have hgr := Store.Grows.of_perform h
    have hs := (Store.perform_moves h).keeps Store.Sound.move hσ.sound
    cases Store.perform_claims h with
    | quiet hsh hq =>
      refine hσ.of_shrinks hgr hs hsh fun hg => ⟨?_, nofun⟩
      rwa [hq] at hg
    | claim h => exact hσ.claim hr hgr hs h
    | suspend h => exact hσ.of_shrinks hgr hs h of_get?_erase
    | resume _ h =>
      have hgra := h
      obtain ⟨_, _, run, _, _, _, _, hru, _⟩ := h
      obtain ⟨run', hr', hw, -, -⟩ := hgr.runs hru
      simp only [tell, hr', Option.elim_some, hw]
      exact hσ.of_grants hgr hs hgra hru
    | release h =>
      exact hσ.of_shrinks hgr hs h fun hg => ⟨(of_get?_erase hg).1, nofun⟩

theorem Coherent.empty : Coherent {} :=
  ⟨.empty, nofun, fun _ _ _ => Nat.zero_le _, fun _ _ h => absurd (mem_executing.1 h) nofun⟩

/-- No request of the list claims a suspended claim again. -/
def Respects (fuel : Nat) (clock : Nat → DateTime) (requests : List StoreRequest) : Prop :=
  ∀ n request, requests[n]? = some request →
    ¬(run fuel clock (requests.take n)).store.ReclaimsSuspended request

theorem step_store {r : StoreRequest} {a : StoreAnswer}
    (h : σ.store.perform fuel clock r = .ok (a, s)) : (σ.step fuel clock r).store = s := by
  rw [step, h]

theorem run_reachable (rs : List StoreRequest) :
    (run fuel clock rs).store.Reachable fuel clock := by
  refine List.foldlRecOn (motive := fun σ : Scheduler => σ.store.Reachable fuel clock) rs _
    .empty fun σ hσ request _ => ?_
  unfold step
  split
  · rename_i h
    exact hσ.step h
  · exact hσ

/-- **The whole run.** -/
theorem coherent_run {rs : List StoreRequest} (h : Respects fuel clock rs) :
    (run fuel clock rs).Coherent :=
  Runs.foldl_of_prefixes Coherent.empty (fun _ _ _ hσ hr => hσ.step hr) h

/-- **Within the limit, one claim a run, and no power over the claims of others.** In every state
that the requests lead to, of which none claims a suspended claim again, the runs of a workflow
whose owners may execute are within its limit. Whatever the requests, a run has one claim, and an
owner can do nothing with a claim that is not the one of the run. -/
theorem executing_within_limit (fuel : Nat) (clock : Nat → DateTime)
    (requests : List StoreRequest) :
    (Respects fuel clock requests → ∀ workflowId limit,
      (run fuel clock requests).store.LimitedTo workflowId limit →
        ((run fuel clock requests).executing workflowId).card ≤ limit) ∧
      (∀ runId row row', (runId, row) ∈ (run fuel clock requests).store.claims.entries →
        (runId, row') ∈ (run fuel clock requests).store.claims.entries → row = row') ∧
      ∀ runId ownerId claimId, (∀ row,
          (run fuel clock requests).store.claims.get? runId = some row →
            row.ownerId ≠ ownerId ∨ row.claimId ≠ claimId) →
        (run fuel clock requests).store.Powerless runId ownerId claimId := by
  refine ⟨fun h workflowId limit hl => ?_, fun runId row row' hr hr' => ?_,
    fun runId ownerId claimId => powerless_of_stale⟩
  · have hc := coherent_run h
    exact (Finset.card_le_card (hc.held workflowId)).trans (hc.within workflowId limit hl)
  · exact Option.some.inj (((mem_entries _).1 hr).symm.trans
      ((mem_entries _).1 hr'))

theorem grows_foldl (more : List StoreRequest) :
    σ.store.Grows (more.foldl (step fuel clock) σ).store := by
  refine List.foldlRecOn (motive := fun τ : Scheduler => σ.store.Grows τ.store) more _ (.refl _)
    fun τ hτ request _ => ?_
  unfold step
  split
  · rename_i h
    exact hτ.trans (.of_perform h)
  · exact hτ

/-- **Nothing is rewritten.** Whatever follows, definitions stay, and every run keeps its binding
and its events. -/
theorem histories_only_grow (requests more : List StoreRequest) :
    (run fuel clock requests).store.Grows (run fuel clock (requests ++ more)).store := by
  rw [run, run, List.foldl_append]
  exact grows_foldl more

end

end Scheduler

/-! ## A suspended claim claimed again -/

namespace LimitedWorkflow

def queueDigest : String := "1c168adb00d208e42f93314529f1fa9c0427eb63233ceda95a5db52b7012a719"

@[reducible] def host : Host := SerialRun.host "orders" queueDigest []

@[reducible] def inspection : Inspection := ⟨fun _ => false⟩

/-- A workflow of which one run may execute at a time. -/
def definition : DefinitionRef where
  address := 0
  schemaVersion := 12
  workflowId := "orders"
  triggers := [⟨"start", "trigger.manual"⟩]
  graph :=
    { entryNodeIds := ["work"]
      nodes := [{ id := "work", handler := "runtime.script" }]
      edges := [] }
  runtimePolicy := some SerialRun.policy

def create (runId : String) : StoreRequest :=
  .createRun runId (fun index => runId ++ ":" ++ toString index) 0
    (SerialRun.admission queueDigest) false

def claim (runId ownerId claimId : String) : StoreRequest :=
  .claim
    { runId, ownerId, claimId, leaseNow := 1, policyNow := 1, leaseDuration := 1000
      eventId := fun index => claimId ++ ":" ++ toString index }

/-- Owner `x` suspends its claim on the first run, owner `y` claims the second one in the free
slot, and `x` claims the first run again. -/
def requests : List StoreRequest :=
  [.registerDefinition definition SerialRun.definitionHash true,
    create "run_a", create "run_b",
    claim "run_a" "x" "claim_a", .suspend "run_a" "x" "claim_a",
    claim "run_b" "y" "claim_b", claim "run_a" "x" "claim_c"]

def after (n : Nat) : Scheduler := @Scheduler.run host inspection 1 (fun _ => 0) (requests.take n)

/-- The limit is one, and both runs are executed. -/
theorem reclaimed_beyond_limit :
    (after 7).store.LimitedTo "orders" 1 ∧
      (after 7).executing "orders" = {"run_a", "run_b"} := by
  refine ⟨Store.limitedTo_of_all (by decide +kernel), by decide +kernel⟩

theorem respects_before : @Scheduler.Respects host inspection 1 (fun _ => 0) (requests.take 6) := by
  intro n request hn
  have hl : n < 6 := (List.getElem?_eq_some_iff.1 hn).1
  interval_cases n <;> cases hn
  all_goals first
    | exact id
    | exact not_reclaimsSuspended (by decide +kernel)

/-- Before the last request the slot is used by the second run alone. -/
theorem executing_before_reclaim : ((after 6).executing "orders").card ≤ 1 :=
  (@Scheduler.executing_within_limit host inspection 1 (fun _ => 0) (requests.take 6)).1
    respects_before "orders" 1 (limitedTo_of_all (by decide +kernel))

end LimitedWorkflow

end Woml
