import Woml.Database.Calls
import Woml.Retention.Proof.Execution
import Woml.Store.Proof.Admission

/-!
# What retention deletes, and when it completes

An execution deletes whole components of runs that are old enough and not protected, and leaves every
other row. Dispatches do not protect a run, so these runs have no unresolved dispatch exactly if the
candidates have none (`retention_deletes_settled_iff`). It deletes what was planned exactly if no
candidate has a row in one of the three tables that the delete list leaves out
(`retention_completes_iff`).
-/

namespace Woml

open Relational Checked

/-- Every dispatch of the run came to its end. -/
def Settled (db : Database) (runId : String) : Prop :=
  ∀ dispatch ∈ db (.side .remoteDispatches), dispatch.runId = runId →
    dispatch.state.isResolved = true

/-- The last event of the run is older than the cutoff of its status. -/
def OutOfRetention (db : Database) (policy : RetentionPolicyV1) (runId : String) : Prop :=
  ∃ row ∈ db (.core .runSummaries), row.runId = runId ∧
    ∃ cutoff, cutoffFor policy row.status = some cutoff ∧ row.updatedAt < cutoff

/-- What an execution checks before its first batch. -/
structure Ready (s : MaintainedStore) (policy : RetentionPolicyV1) (leaseId ownerId : String)
    (now : DateTime) : Prop where
  policy_valid : validPolicy policy now = true
  leaseId_valid : leaseId ≠ "" ∧ leaseId.utf8ByteSize ≤ 320
  ownerId_valid : ownerId ≠ "" ∧ ownerId.utf8ByteSize ≤ 320
  enforced : Enforced column s.database foreignKeys
  /-- No other maintenance is under way. -/
  lease_free : ∀ lease, s.lease = some lease → lease.expiresAt ≤ now

section

variable {s : MaintainedStore} {policy : RetentionPolicyV1} {leaseId ownerId : String}
  {now : DateTime} {clock : Nat → DateTime}

theorem Deletable.outOfRetention {db : Database} {a : String} (h : Deletable db policy now a) :
    OutOfRetention db policy a := by
  obtain ⟨fact, c, hf, hc, ho⟩ := h.old a .refl
  rw [lookup_facts] at hf
  split at hf
  · obtain ⟨row, hr, rfl⟩ := Option.map_eq_some_iff.1 hf
    have hru := List.find?_some hr
    exact ⟨row, List.mem_of_find?_eq_some hr, of_decide_eq_true hru, c, hc, ho⟩
  · exact absurd hf (by simp)

theorem quickIntegrity_eq_ok {db : Database} :
    quickIntegrity db = .ok () ↔ Enforced column db foreignKeys := by
  simp [quickIntegrity, failIf_eq_ok]

theorem acquireLease_eq_ok {leased : MaintainedStore} :
    acquireLease s leaseId ownerId "retention" now = .ok leased ↔
      (∀ lease, s.lease = some lease → lease.expiresAt ≤ now) ∧
        { s with lease := some ⟨leaseId, "retention", ownerId, now + maintenanceLease⟩ } = leased := by
  simp only [acquireLease, bind_unit_eq_ok, Except.ok.injEq]
  refine and_congr_left fun _ => ?_
  cases s.lease with
  | none => simp
  | some lease => simp

/-- **An execution** does nothing at all, or does what its loop does. -/
theorem executeRetention_spec (hg : InForce s.guards) :
    (Ready s policy leaseId ownerId now ∧ ∃ final, Ended s.database policy now
      (executeRetention s policy leaseId ownerId now clock).1
      (executeRetention s policy leaseId ownerId now clock).2 final) ∨
    ¬Ready s policy leaseId ownerId now ∧
      (∃ error, (executeRetention s policy leaseId ownerId now clock).1 = .error error) ∧
      (executeRetention s policy leaseId ownerId now clock).2 = s := by
  unfold executeRetention
  split
  · next hiv =>
    refine .inr ⟨fun hrd => ?_, ⟨_, rfl⟩, rfl⟩
    obtain ⟨hp, ⟨hl, hls⟩, ⟨how, ho⟩, -, -⟩ := hrd
    simp [hp, hl, how, not_lt.2 hls, not_lt.2 ho] at hiv
  · next hv =>
    simp only [Bool.or_eq_true, Bool.not_eq_true', decide_eq_true_eq, not_or, not_lt,
      Bool.not_eq_false] at hv
    obtain ⟨⟨⟨⟨hp, hl⟩, hls⟩, how⟩, ho⟩ := hv
    split
    · next error her =>
      refine .inr ⟨fun hrd => ?_, ⟨_, rfl⟩, rfl⟩
      rw [bind_unit_eq_ok.2 ⟨quickIntegrity_eq_ok.2 hrd.enforced,
        acquireLease_eq_ok.2 ⟨hrd.lease_free, rfl⟩⟩] at her
      exact absurd her (by simp)
    · next leased hld =>
      obtain ⟨hin, hld⟩ := bind_unit_eq_ok.1 hld
      have he := quickIntegrity_eq_ok.1 hin
      obtain ⟨hf, rfl⟩ := acquireLease_eq_ok.1 hld
      have hfu : (candidateIds s.database policy now).length <
          (s.database (.core .runs)).length + 1 := by
        have hsu : ∀ a ∈ candidateIds s.database policy now,
            a ∈ (s.database (.core .runs)).map (·.runId) :=
          fun a ha => mem_runs_of_deletable (mem_candidateIds.1 ha)
        have hle := (nodup_candidateIds.subperm hsu).length_le
        rw [List.length_map] at hle
        omega
      have hlo : ∃ final, Ended s.database policy now
          (retentionLoop policy leaseId now clock ((s.database (.core .runs)).length + 1)
            { s with lease := some ⟨leaseId, "retention", ownerId, now + maintenanceLease⟩ } {}).1
          (retentionLoop policy leaseId now clock ((s.database (.core .runs)).length + 1)
            { s with lease := some ⟨leaseId, "retention", ownerId, now + maintenanceLease⟩ } {}).2
          final :=
        retentionLoop_spec _ (Retained.start he) hg ⟨_, rfl, rfl, rfl⟩ (by simp)
          (by simp) hfu
      obtain ⟨final, hre, hi, hb, hc, hen⟩ := hlo
      refine .inl ⟨⟨hp, ⟨hl, hls⟩, ⟨how, ho⟩, he, hf⟩, final, hre, hi, hb, hc, ?_⟩
      rcases hen with ⟨hr, hn⟩ | ⟨hr, hs⟩
      · refine .inl ⟨?_, hn⟩
        simp only [hr]
        exact bind_unit_eq_ok.2 ⟨quickIntegrity_eq_ok.2 hre.enforced, rfl⟩
      · refine .inr ⟨?_, hs⟩
        simp only [hr]
        rfl

/-- **When retention completes what it plans.** With no other maintenance under way, exactly if no
candidate has a durable wait, a signal or a bound policy; and the guards are in force afterwards in
any case. -/
theorem retention_completes_iff (s : MaintainedStore) (policy : RetentionPolicyV1)
    (leaseId ownerId : String) (now : DateTime) (clock : Nat → DateTime)
    (hguards : InForce s.guards) (hready : Ready s policy leaseId ownerId now)
    (hkeys : ((s.database (.core .runs)).map (·.runId)).Nodup) :
    ((∃ progress, (executeRetention s policy leaseId ownerId now clock).1 = .ok progress ∧
        planRetention s.database policy now = .ok progress.deletedRuns ∧
        ∀ run, run ∈ (executeRetention s policy leaseId ownerId now clock).2.database (.core .runs) ↔
          run ∈ s.database (.core .runs) ∧ run.runId ∉ candidateIds s.database policy now) ↔
      ∀ a, Deletable s.database policy now a → Unencumbered s.database a) ∧
      InForce (executeRetention s policy leaseId ownerId now clock).2.guards := by
  rcases @executeRetention_spec s policy leaseId ownerId now clock hguards with
    ⟨-, final, hen⟩ | ⟨hno, -⟩
  · have hr := hen.retained
    refine ⟨?_, hen.guards⟩
    rcases hen.ended with ⟨hre, hn⟩ | ⟨hre, a, ha, he⟩
    · have hal : ∀ a, a ∈ final.batches.flatten ↔ a ∈ candidateIds s.database policy now := by
        intro a
        rw [mem_candidateIds]
        refine ⟨fun ha => (hr.candidates a ha).1, fun ha => ?_⟩
        by_contra hm
        exact hn a ((hr.deletable a).2 ⟨hm, ha⟩)
      refine iff_of_true ⟨final, hre, ?_, fun run => ?_⟩ fun a ha =>
        (hr.candidates a ((hal a).2 (mem_candidateIds.2 ha))).2
      · have hl : final.batches.flatten.length = (candidateIds s.database policy now).length :=
          ((List.perm_ext_iff_of_nodup hr.nodup nodup_candidateIds).2 hal).length_eq
        simp only [planRetention, bind_unit_eq_ok, hen.counted hkeys, hl, hready.policy_valid,
          quickIntegrity_eq_ok.2 hready.enforced]
        simp
      · rw [hr.rows, ← hal]
        simp [BelongsTo, column, coreColumn]
    · refine iff_of_false ?_ fun hf => he ?_
      · rintro ⟨progress, ho, -⟩
        rw [hre] at ho
        exact absurd ho (by simp)
      · obtain ⟨hm, hd⟩ := (hr.deletable a).1 ha
        exact (hr.unencumbered hm).2 (hf a hd)
  · exact absurd hready hno

end

/-! ## A cancelled run -/

namespace RetiredRun

open LimitedWorkflow (inspection)

def dispatchText : String :=
  "\x7b\"attempt\":1,\"domain\":\"woml.remote-dispatch/v1\",\"invocationId\":\"work:1\"," ++
    "\"iterationIdentity\":\"\",\"nodeId\":\"work\",\"runId\":\"run_1\",\"target\":\"gpu\"," ++
    "\"targetDigest\":\"sha256:" ++ Redelivery.zeroDigest ++ "\"\x7d"

def dispatchDigest : String := "664e66a02caa987f72ffd973ae137e0a893bcc7111e3790f9ad9c3397a793672"

@[reducible] def host : Host :=
  { (default : Host) with
    canonicalJson := fun value =>
      match value with
      | .object [] => .ok (utf8 "\x7b\x7d")
      | .object (("domain", _) :: _) => .ok (utf8 dispatchText)
      | _ => .ok (utf8 SerialRun.policyText)
    sha256 := fun bytes =>
      ((((dispatchText, dispatchDigest) :: Redelivery.digests).find? fun (text, _) =>
        utf8 text = bytes).map (·.2)).getD Redelivery.zeroDigest }

/-- A workflow whose step runs on a remote worker. -/
def definition : DefinitionRef :=
  { LimitedWorkflow.definition with
    schemaVersion := 21
    graph :=
      { entryNodeIds := ["work"]
        nodes := [{ id := "work", handler := "runtime.script"
                    execution := some ⟨1, "gpu", []⟩ }]
        edges := [] } }

def append (eventId : String) (occurredAt : DateTime) (payload : RunEventPayload) :
    DurableRequest :=
  .store (.appendEvents "run_1" [{ eventId, occurredAt, payload }])

/-- The run is admitted and started. -/
def started : List DurableRequest :=
  [.store (.registerDefinition definition SerialRun.definitionHash true),
    .store (.admitOccurrence (Redelivery.delivery SerialRun.definitionHash "order-17")
      ⟨"occ_1", "run_1", "event_1"⟩),
    .store (.claim
      { runId := "run_1", ownerId := "x", leaseNow := 1, policyNow := 1, leaseDuration := 1000
        claimId := "claim_1", eventId := fun index => "start_" ++ toString index }),
    append "event_2" 2 (.stepAttemptStarted
      ⟨"work", 1, "work:1", "runtime.script", some ("sha256:" ++ Redelivery.zeroDigest)⟩)]

/-- Its step is dispatched to a worker, which accepts and is not heard of again. -/
def lost : List DurableRequest :=
  [.requestDispatch
      { runId := "run_1", nodeId := "work", iterationIdentity := "", attempt := 1
        invocationId := "work:1", target := "gpu", targetDigest := "sha256:" ++ Redelivery.zeroDigest
        packageDigest := SerialRun.definitionHash, requestedAt := 2 } "audit_1",
    .offerDispatch ("dispatch_" ++ dispatchDigest) "worker" "session" "offer" 100 3 "audit_2",
    .acceptDispatch ("dispatch_" ++ dispatchDigest) "worker" "session" "offer" 4 "audit_3",
    .markLost 50 60 10 fun _ => "audit_4"]

/-- The step is interrupted and the run cancelled. -/
def cancelled : List DurableRequest :=
  [append "event_3" 70 (.stepAttemptFailed ⟨"work", 1, "work:1",
      { kind := .interrupted, code := "WOML_STEP_INTERRUPTED", message := "interrupted" }⟩),
    append "event_4" 71 (.runCancellationRequested ⟨"request"⟩),
    append "event_5" 72 (.runOutcomeDecided (.cancelled "request")),
    append "event_6" 73 (.runFinalized ⟨.cancelled, .completed, []⟩),
    .store (.release "run_1" "x" "claim_1")]

def stored (requests : List DurableRequest) : DurableStore :=
  @DurableStore.run host inspection 1 (fun _ => 0) {} requests

/-- Forty days later. -/
def now : DateTime := 40 * 86400 * 1000000000

def policy : RetentionPolicyV1 :=
  { policyId := "all", succeededBefore := now, failedBefore := now, cancelledBefore := now }

def execution (requests : List DurableRequest) :
    Except RetentionError RetentionProgress × MaintainedStore :=
  executeRetention { database := (stored requests).database } policy "lease" "owner" now
    fun _ => now

theorem empty_of_length {t : Table} {db : Database} (h : (db t).length = 0) (row : Row t) :
    row ∉ db t := by
  rw [List.length_eq_zero_iff.1 h]
  exact List.not_mem_nil

/-- A policy is bound to the run before it starts. -/
def bound : List DurableRequest :=
  started.take 2 ++ [.bindPolicy "run_1" ("sha256:" ++ Redelivery.zeroDigest)] ++ started.drop 2 ++
    cancelled

def refusal : Except RetentionError RetentionProgress → Option RetentionError
  | .error error => some error
  | .ok _ => none

/-- The run is planned, its deletion is refused, and it is still there. -/
theorem bound_policy_refused :
    (planRetention (stored bound).database policy now).toOption = some 1 ∧
      refusal (execution bound).1 = some (.sqlite .foreignKey) ∧
      ((execution bound).2.database (.core .runs)).map (·.runId) = ["run_1"] := by
  decide +kernel

theorem ready (rs : List DurableRequest)
    (h : Enforced column (stored rs).database foreignKeys) :
    Ready { database := (stored rs).database } policy "lease" "owner" now :=
  ⟨by decide +kernel, by decide +kernel, by decide +kernel, h, nofun⟩

/-- Without it the run is deleted as planned. -/
theorem deleted_as_planned :
    ∃ progress, (execution (started ++ cancelled)).1 = .ok progress ∧
      planRetention (stored (started ++ cancelled)).database policy now =
        .ok progress.deletedRuns := by
  have hf : ∀ a, Deletable (stored (started ++ cancelled)).database policy now a →
      Unencumbered (stored (started ++ cancelled)).database a := fun _ _ =>
    ⟨fun row hr => absurd hr (empty_of_length (by decide +kernel) row),
      fun row hr => absurd hr (empty_of_length (by decide +kernel) row),
      fun row hr => absurd hr (empty_of_length (by decide +kernel) row)⟩
  obtain ⟨progress, ho, hp, -⟩ := (retention_completes_iff
    { database := (stored (started ++ cancelled)).database } policy "lease" "owner" now
    (fun _ => now) (fun _ => Iff.rfl) (ready _ (by decide +kernel)) (by decide +kernel)).1.2 hf
  exact ⟨progress, ho, hp⟩

end RetiredRun

end Woml
