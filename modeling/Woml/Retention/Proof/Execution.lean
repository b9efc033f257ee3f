import Woml.Retention.Proof.Loop

/-!
# What an execution of retention does

`Retained` is what holds of the tables after some batches: what was deleted are whole components of
candidates of the tables to begin with, and what is left are the rows of the other runs. Every round
of the loop keeps it (`Retained.next`), so the execution does (`retentionLoop_spec`).
-/

namespace Woml

open Relational Checked

/-- A row of one of the runs: of the run itself, of a call or a publication it takes part in, or of
one of its dispatches. -/
def BelongsTo (db : Database) (runIds : List String) (t : Table) (row : Row t) : Prop :=
  (∃ c ∈ [Column.runId, .parentRunId, .childRunId], ∃ runId ∈ runIds, column t row c = some runId) ∨
    t = .side .remoteDispatchAudit ∧ ∃ dispatch ∈ db (.side .remoteDispatches),
      dispatch.runId ∈ runIds ∧ column t row .dispatchId = some dispatch.dispatchId

section

variable {db : Database} {runIds : List String} {t : Table}

theorem stranded_iff : Stranded db runIds ↔
    (∃ runId ∈ runIds, ¬Unencumbered db runId) ∨
      ∃ row ∈ db (.side .lockResources), ∃ runId ∈ runIds, row.ownerRunId = some runId := by
  have hc : Stranded db runIds ↔ (∃ row ∈ db (.side .durableWaits), row.runId ∈ runIds) ∨
      (∃ row ∈ db (.side .externalSignals), row.runId ∈ runIds) ∨
      (∃ row ∈ db (.side .lockResources), ∃ runId ∈ runIds, row.ownerRunId = some runId) ∨
      ∃ row ∈ db (.side .runInfrastructurePolicies), row.runId ∈ runIds := by
    simp [Stranded, uncoveredReferences, column, sideColumn]
  rw [hc]
  constructor
  · rintro (⟨row, hr, hm⟩ | ⟨row, hr, hm⟩ | h | ⟨row, hr, hm⟩)
    · exact .inl ⟨_, hm, fun hn => hn.waits row hr rfl⟩
    · exact .inl ⟨_, hm, fun hn => hn.signals row hr rfl⟩
    · exact .inr h
    · exact .inl ⟨_, hm, fun hn => hn.policies row hr rfl⟩
  · rintro (⟨runId, hm, hso⟩ | h)
    · by_contra hn
      simp only [not_or, not_exists, not_and] at hn
      obtain ⟨hw, hs, -, hp⟩ := hn
      exact hso ⟨fun row hr he => hw row hr (he ▸ hm), fun row hr he => hs row hr (he ▸ hm),
        fun row hr he => hp row hr (he ▸ hm)⟩
    · exact .inr (.inr (.inl h))

/-- Every row of the table belongs to a run, in one column. -/
structure Owned (t : Table) (runOf : Row t → String) : Prop where
  run : ∀ row, column t row .runId = some (runOf row) := by exact fun _ => rfl
  parent : ∀ row, column t row .parentRunId = none := by exact fun _ => rfl
  child : ∀ row, column t row .childRunId = none := by exact fun _ => rfl
  notAudit : t ≠ .side .remoteDispatchAudit := by simp

theorem Owned.belongsTo_iff {ro : Row t → String} (h : Owned t ro) {row : Row t} :
    BelongsTo db runIds t row ↔ ro row ∈ runIds := by
  simp [BelongsTo, h.run, h.parent, h.child, h.notAudit]

theorem mem_iff_of_owned (hd : deleteOfRuns t ∈ batchDeletes) {ro : Row t → String} (h : Owned t ro)
    {row : Row t} : row ∈ afterBatch db runIds t ↔ row ∈ db t ∧ ¬BelongsTo db runIds t row := by
  rw [mem_afterBatch_owned hd h.run, h.belongsTo_iff]

theorem mem_iff_of_untouched (h : ∀ d ∈ batchDeletes, d.table ≠ t) {row : Row t}
    (hn : row ∈ db t → ¬BelongsTo db runIds t row) :
    row ∈ afterBatch db runIds t ↔ row ∈ db t ∧ ¬BelongsTo db runIds t row := by
  rw [afterBatch, remaining_of_untouched h]
  exact ⟨fun hr => ⟨hr, hn hr⟩, And.left⟩

/-- **What a batch leaves**: the rows of the other runs. -/
theorem mem_afterBatch_iff (hs : Separate db runIds) (hr : ∀ runId ∈ runIds, Unencumbered db runId)
    {row : Row t} : row ∈ afterBatch db runIds t ↔ row ∈ db t ∧ ¬BelongsTo db runIds t row := by
  rcases t with t | t
  · cases t
    all_goals
      exact mem_iff_of_owned (by simp [batchDeletes, deleteStatements]) {}
  · cases t
    case internalEventPublications =>
      rw [mem_afterBatch_publications]
      simp [BelongsTo, column, sideColumn]
    case internalEventDeliveries =>
      rw [mem_afterBatch_deliveries]
      refine and_congr_right fun hro => ?_
      rw [Owned.belongsTo_iff {}]
      refine ⟨And.left, fun hru => ⟨hru, fun p hp he => ?_⟩⟩
      exact hs.not_mem (.inr ⟨p, hp, row, hro, he.symm, .inr ⟨rfl, rfl⟩⟩) hru
    case workflowCalls =>
      rw [mem_afterBatch_calls]
      simp [BelongsTo, column, sideColumn]
    case remoteDispatchAudit =>
      have hm : ⟨.side .remoteDispatchAudit, .select .dispatchId (.side .remoteDispatches)
          .dispatchId .runId⟩ ∈ batchDeletes := by simp [batchDeletes, deleteStatements]
      rw [afterBatch_eq hm, List.mem_filter]
      refine and_congr_right fun _ => ?_
      simp only [BelongsTo, Condition.eval, column, sideColumn, List.mem_cons, List.not_mem_nil,
        or_false, exists_eq_or_imp, exists_eq_left, reduceCtorEq, and_false, exists_false, false_or,
        true_and, Option.any_some, Option.some.injEq, Bool.not_eq_true', List.any_eq_false,
        Bool.and_eq_true, decide_eq_true_eq, List.contains_iff_mem, not_exists, not_and]
      refine forall₂_congr fun dispatch _ => ?_
      exact ⟨fun h hm he => h he.symm hm, fun h he hm => h hm he.symm⟩
    case durableWaits =>
      exact mem_iff_of_untouched (by decide +kernel) fun hro hb =>
        (hr _ ((Owned.belongsTo_iff {}).1 hb)).waits row hro rfl
    case externalSignals =>
      exact mem_iff_of_untouched (by decide +kernel) fun hro hb =>
        (hr _ ((Owned.belongsTo_iff {}).1 hb)).signals row hro rfl
    case runInfrastructurePolicies =>
      exact mem_iff_of_untouched (by decide +kernel) fun hro hb =>
        (hr _ ((Owned.belongsTo_iff {}).1 hb)).policies row hro rfl
    case signalIdempotency =>
      exact mem_iff_of_untouched (by decide +kernel) fun _ => by
        simp [BelongsTo, column, sideColumn]
    case lockResources =>
      exact mem_iff_of_untouched (by decide +kernel) fun _ => by
        simp [BelongsTo, column, sideColumn]
    all_goals
      exact mem_iff_of_owned (by simp [batchDeletes, deleteStatements]) {}

theorem belongsTo_append {row : Row t} {d b : List String} {db' : Database}
    (hdi : ∀ dispatch, dispatch ∈ db' (.side .remoteDispatches) ↔
      dispatch ∈ db (.side .remoteDispatches) ∧ dispatch.runId ∉ d) :
    BelongsTo db (d ++ b) t row ↔
      BelongsTo db d t row ∨ BelongsTo db' b t row := by
  simp only [BelongsTo, List.mem_append]
  constructor
  · rintro (⟨c, hc, r, hr | hr, he⟩ | ⟨rfl, dispatch, hd, hru, he⟩)
    · exact .inl (.inl ⟨c, hc, r, hr, he⟩)
    · exact .inr (.inl ⟨c, hc, r, hr, he⟩)
    · by_cases hde : dispatch.runId ∈ d
      · exact .inl (.inr ⟨rfl, dispatch, hd, hde, he⟩)
      · exact .inr (.inr ⟨rfl, dispatch, (hdi dispatch).2 ⟨hd, hde⟩, hru.resolve_left hde, he⟩)
  · rintro ((⟨c, hc, r, hr, he⟩ | ⟨rfl, dispatch, hd, hru, he⟩) |
      ⟨c, hc, r, hr, he⟩ | ⟨rfl, dispatch, hd, hru, he⟩)
    · exact .inl ⟨c, hc, r, .inl hr, he⟩
    · exact .inr ⟨rfl, dispatch, hd, .inl hru, he⟩
    · exact .inl ⟨c, hc, r, .inr hr, he⟩
    · exact .inr ⟨rfl, dispatch, ((hdi dispatch).1 hd).1, .inr hru, he⟩

end

/-! ## Batches one after the other -/

/-- The tables `db` after the runs `deleted` were deleted from `db₀`, batch after batch. -/
structure Retained (db₀ : Database) (policy : RetentionPolicyV1) (now : DateTime)
    (deleted : List String) (db : Database) : Prop where
  enforced : Enforced column db foreignKeys
  rows : ∀ (t : Table) (row : Row t), row ∈ db t ↔ row ∈ db₀ t ∧ ¬BelongsTo db₀ deleted t row
  runs : (db (.core .runs)).Sublist (db₀ (.core .runs))
  nodup : deleted.Nodup
  candidates : ∀ a ∈ deleted, Deletable db₀ policy now a ∧ Unencumbered db₀ a
  separate : Separate db₀ deleted
  linked : ∀ a b, Linked db a b ↔ Linked db₀ a b ∧ a ∉ deleted
  deletable : ∀ a, Deletable db policy now a ↔ a ∉ deleted ∧ Deletable db₀ policy now a

section

variable {db₀ db : Database} {p : RetentionPolicyV1} {now : DateTime}
  {deleted bt : List String}

theorem Retained.start (h : Enforced column db foreignKeys) : Retained db p now [] db := by
  refine ⟨h, fun t row => ?_, .refl _, .nil, nofun, nofun, fun a b => ?_, fun a => ?_⟩
  · simp [BelongsTo]
  · simp
  · simp

theorem Deletable.unprotected_self {a : String} (h : Deletable db p now a) :
    Unprotected db (now - triggerDeduplicationSafety) a :=
  not_mem_protectedRuns.1 (h.unprotected a .refl)

/-- Candidates own no lock, so only the three tables can strand a row. -/
theorem stranded_batch (h : ∀ a ∈ bt, Deletable db p now a) :
    Stranded db bt ↔ ∃ a ∈ bt, ¬Unencumbered db a := by
  rw [stranded_iff, or_iff_left]
  rintro ⟨row, hr, a, ha, ho⟩
  exact (h a ha).unprotected_self.unowned row hr ho

theorem Retained.owned (h : Retained db₀ p now deleted db) {t : Table} {ro : Row t → String}
    (ho : Owned t ro) (row : Row t) : row ∈ db t ↔ row ∈ db₀ t ∧ ro row ∉ deleted := by
  rw [h.rows, ho.belongsTo_iff]

theorem Retained.unencumbered (h : Retained db₀ p now deleted db) {a : String}
    (ha : a ∉ deleted) : Unencumbered db a ↔ Unencumbered db₀ a := by
  have hw := h.owned (t := .side .durableWaits) {}
  have hs := h.owned (t := .side .externalSignals) {}
  have hp := h.owned (t := .side .runInfrastructurePolicies) {}
  constructor
  · intro hu
    exact ⟨fun row hr he => hu.waits row ((hw row).2 ⟨hr, he ▸ ha⟩) he,
      fun row hr he => hu.signals row ((hs row).2 ⟨hr, he ▸ ha⟩) he,
      fun row hr he => hu.policies row ((hp row).2 ⟨hr, he ▸ ha⟩) he⟩
  · intro hu
    exact ⟨fun row hr => hu.waits row ((hw row).1 hr).1,
      fun row hr => hu.signals row ((hs row).1 hr).1,
      fun row hr => hu.policies row ((hp row).1 hr).1⟩

/-- **One more batch** of whole components of candidates without a row in the three tables. -/
theorem Retained.next (h : Retained db₀ p now deleted db) (hs : Separate db bt) (hnd : bt.Nodup)
    (hd : ∀ a ∈ bt, Deletable db p now a) (hr : ∀ a ∈ bt, Unencumbered db a) :
    Retained db₀ p now (deleted ++ bt) (afterBatch db bt) := by
  have hf : ∀ a ∈ bt, a ∉ deleted := fun a ha => ((h.deletable a).1 (hd a ha)).1
  refine ⟨?_, fun t row => ?_, ?_, ?_, fun a ha => ?_, fun a ha b hl => ?_, fun a b => ?_,
    fun a => ?_⟩
  · refine enforced_of_covered h.enforced ((holds_uncovered_iff h.enforced).2 ?_)
    rw [stranded_batch hd]
    rintro ⟨a, ha, hn⟩
    exact hn (hr a ha)
  · rw [mem_afterBatch_iff hs hr, h.rows, belongsTo_append (h.owned {}), not_or, and_assoc]
  · exact List.filter_sublist.trans h.runs
  · exact List.nodup_append.2 ⟨h.nodup, hnd, fun a ha b hb he => hf b hb (he ▸ ha)⟩
  · rcases List.mem_append.1 ha with ha | ha
    · exact h.candidates a ha
    · exact ⟨((h.deletable a).1 (hd a ha)).2, (h.unencumbered (hf a ha)).1 (hr a ha)⟩
  · rcases List.mem_append.1 ha with ha | ha
    · exact List.mem_append_left _ (h.separate a ha b hl)
    · exact List.mem_append_right _ (hs a ha b ((h.linked a b).2 ⟨hl, hf a ha⟩))
  · rw [linked_afterBatch hs, h.linked, List.mem_append, not_or, and_assoc]
  · rw [deletable_afterBatch hs, h.deletable, List.mem_append]
    tauto

end

/-! ## The guards -/

/-- The triggers that forbid deletes are in force. -/
def InForce (guards : List Table) : Prop := ∀ t, t ∈ guards ↔ t ∈ deleteGuards

theorem retentionGuards_subset : ∀ t ∈ retentionGuards, t ∈ deleteGuards := by decide +kernel

variable {guards : List Table}

theorem dropGuards_eq (h : InForce guards) :
    dropGuards guards = .ok (guards.filter fun tb => !retentionGuards.contains tb) := by
  have ha : retentionGuards.all guards.contains = true :=
    List.all_eq_true.2 fun t ht => List.contains_iff_mem.2 ((h t).2 (retentionGuards_subset t ht))
  simp [dropGuards, bind_unit_eq_ok, ha]

theorem unguarded (h : InForce guards) : ∀ d ∈ batchDeletes,
    (guards.filter fun tb => !retentionGuards.contains tb).contains d.table = false := by
  have hdr : ∀ d ∈ batchDeletes, d.table ∈ deleteGuards → d.table ∈ retentionGuards := by
    decide +kernel
  intro d hd
  simp only [← Bool.not_eq_true, List.contains_iff_mem, List.mem_filter, not_and]
  intro hg
  simpa using hdr d hd ((h _).1 hg)

theorem restoreGuards_eq (h : InForce guards) :
    ∃ restored, restoreGuards (guards.filter fun tb => !retentionGuards.contains tb) =
      .ok restored ∧ InForce restored := by
  refine ⟨(guards.filter fun tb => !retentionGuards.contains tb) ++ retentionGuards, ?_,
    fun t => ?_⟩
  · have hn : (retentionGuards.any
        (guards.filter fun tb => !retentionGuards.contains tb).contains) = false := by
      simp only [List.any_eq_false, List.contains_iff_mem, List.mem_filter, not_and]
      intro t ht _
      simpa using ht
    simp only [restoreGuards, bind_unit_eq_ok, failIf_eq_ok, hn, Bool.false_eq_true,
      not_false_eq_true, and_self]
  · simp only [List.mem_append, List.mem_filter, Bool.not_eq_true', ← Bool.not_eq_true,
      List.contains_iff_mem]
    constructor
    · rintro (⟨hg, -⟩ | hr)
      · exact (h t).1 hg
      · exact retentionGuards_subset t hr
    · intro hg
      by_cases hr : t ∈ retentionGuards
      · exact .inr hr
      · exact .inl ⟨(h t).2 hg, hr⟩

/-! ## One round -/

section

variable {s : MaintainedStore} {p : RetentionPolicyV1} {now : DateTime} {batch : List String}

/-- **What becomes of a batch of candidates.** -/
theorem deleteBatch_spec (he : Enforced column s.database foreignKeys)
    (hg : InForce s.guards) (hne : batch ≠ [])
    (hb : ∀ a ∈ batch, Deletable s.database p now a) :
    ((∀ a ∈ batch, Unencumbered s.database a) → ∃ r, InForce r ∧ deleteBatch s batch p now =
        .ok ((s.database (.core .runs)).countP fun row => batch.contains row.runId,
          { s with database := afterBatch s.database batch, guards := r })) ∧
      ((∃ a ∈ batch, ¬Unencumbered s.database a) →
        deleteBatch s batch p now = .error (.sqlite .foreignKey)) := by
  have hc : (batch.any fun runId =>
      !(candidateIds s.database p now).contains runId) = false := by
    simp only [List.any_eq_false]
    intro a ha
    simpa using mem_candidateIds.2 (hb a ha)
  have hru := @runAll_batch s.database batch _ he (unguarded hg)
  rw [batchDeletes] at hru
  obtain ⟨ho, her⟩ := hru
  obtain ⟨r, hre, hi⟩ := restoreGuards_eq hg
  constructor
  · intro hr
    refine ⟨r, hi, ?_⟩
    have hs : ¬Stranded s.database batch := by
      rw [stranded_batch hb]
      rintro ⟨a, ha, hn⟩
      exact hn (hr a ha)
    simp only [deleteBatch, if_neg hne, hc, Bool.false_eq_true, if_false, eq_ok_iff]
    exact ⟨_, dropGuards_eq hg, _, ho hs, _, hre, rfl⟩
  · intro hr
    simp only [deleteBatch, if_neg hne, hc, dropGuards_eq hg, bind, Except.bind,
      her ((stranded_batch hb).2 hr)]
    rfl

end

/-! ## The loop -/

/-- The maintenance lease is the one of the execution. -/
def Leased (s : MaintainedStore) (leaseId : String) : Prop :=
  ∃ lease, s.lease = some lease ∧ lease.leaseId = leaseId ∧ lease.operation = "retention"

/-- How the loop ends: no candidate is left, or one that cannot be deleted. -/
structure Ended (db₀ : Database) (policy : RetentionPolicyV1) (now : DateTime)
    (result : Except RetentionError RetentionProgress) (s : MaintainedStore)
    (progress : RetentionProgress) : Prop where
  retained : Retained db₀ policy now progress.batches.flatten s.database
  guards : InForce s.guards
  bounded : ∀ batch ∈ progress.batches, batch.length ≤ retentionBatchRuns
  counted : ((db₀ (.core .runs)).map (·.runId)).Nodup →
    progress.deletedRuns = progress.batches.flatten.length
  ended : (result = .ok progress ∧ ∀ a, ¬Deletable s.database policy now a) ∨
    (result = .error (.sqlite .foreignKey) ∧
      ∃ a, Deletable s.database policy now a ∧ ¬Unencumbered s.database a)

section

variable {db₀ : Database} {pl : RetentionPolicyV1} {now : DateTime} {leaseId : String}
  {c : Nat → DateTime}

theorem renewLease_of_leased {s : MaintainedStore} (h : Leased s leaseId) (at_ : DateTime) :
    ∃ renewed, renewLease s leaseId at_ = .ok renewed ∧ renewed.database = s.database ∧
      renewed.guards = s.guards ∧ Leased renewed leaseId := by
  obtain ⟨lease, hl, hi, ho⟩ := h
  refine ⟨{ s with lease := some { lease with expiresAt := at_ + maintenanceLease } }, ?_, rfl, rfl,
    ⟨_, rfl, hi, ho⟩⟩
  simp only [renewLease, eq_ok_iff]
  exact ⟨lease, by simp [hl, hi, ho], rfl⟩

theorem mem_runs_of_deletable {db : Database} {a : String} (h : Deletable db pl now a) :
    a ∈ (db (.core .runs)).map (·.runId) := by
  obtain ⟨fact, -, hf, -⟩ := h.old a .refl
  rw [lookup_facts] at hf
  by_contra hn
  rw [if_neg hn] at hf
  exact absurd hf (by simp)

/-- With distinct run ids, a batch of runs removes as many rows as it has runs. -/
theorem countP_batch {runs : List RunKey} {batch : List String} (hr : (runs.map (·.runId)).Nodup)
    (hn : batch.Nodup) (hb : ∀ a ∈ batch, a ∈ runs.map (·.runId)) :
    (runs.countP fun row => batch.contains row.runId) = batch.length := by
  have hc : (runs.countP fun row => batch.contains row.runId) =
      ((runs.map (·.runId)).filter batch.contains).length := by
    rw [List.countP_eq_length_filter, List.filter_map, List.length_map]
    rfl
  rw [hc]
  refine List.Perm.length_eq ((List.perm_ext_iff_of_nodup (hr.filter _) hn).2 fun a => ?_)
  simp only [List.mem_filter, List.contains_iff_mem]
  exact ⟨And.right, fun ha => ⟨hb a ha, ha⟩⟩

theorem candidateIds_lt {db : Database} {bt : List String} (hs : Separate db bt) (hne : bt ≠ [])
    (hn : bt.Nodup) (hba : ∀ a ∈ bt, Deletable db pl now a) :
    (candidateIds (afterBatch db bt) pl now).length < (candidateIds db pl now).length := by
  have hm : ∀ a, a ∈ candidateIds (afterBatch db bt) pl now ↔
      a ∉ bt ∧ a ∈ candidateIds db pl now := fun a => by
    rw [mem_candidateIds, mem_candidateIds, deletable_afterBatch hs]
  have hbo : (candidateIds (afterBatch db bt) pl now ++ bt).Nodup :=
    List.nodup_append.2 ⟨nodup_candidateIds, hn, fun a ha b hb he =>
      ((hm a).1 ha).1 (he ▸ hb)⟩
  have hsu : ∀ a ∈ candidateIds (afterBatch db bt) pl now ++ bt,
      a ∈ candidateIds db pl now := fun a ha => by
    rcases List.mem_append.1 ha with ha | ha
    · exact ((hm a).1 ha).2
    · exact mem_candidateIds.2 (hba a ha)
  have hl := (hbo.subperm hsu).length_le
  rw [List.length_append] at hl
  have := List.length_pos_iff.2 hne
  omega

theorem separate_batch (db : Database) :
    Separate db (candidateBatchIds db pl now) := fun a ha b hl =>
  (candidateBatchIds_spec.1 a ha).2 b
    (.single (RetentionInventory.mem_neighbors.2 (mem_adjacency.2 hl)))

/-- **The loop.** Fuel for every candidate lets it come to its end. -/
theorem retentionLoop_spec (fuel : Nat) {s : MaintainedStore} {p : RetentionProgress}
    (hrt : Retained db₀ pl now p.batches.flatten s.database) (hg : InForce s.guards)
    (hl : Leased s leaseId) (hbd : ∀ batch ∈ p.batches, batch.length ≤ retentionBatchRuns)
    (hc : ((db₀ (.core .runs)).map (·.runId)).Nodup → p.deletedRuns = p.batches.flatten.length)
    (hf : (candidateIds s.database pl now).length < fuel) :
    ∃ final, Ended db₀ pl now (retentionLoop pl leaseId now c fuel s p).1
      (retentionLoop pl leaseId now c fuel s p).2 final := by
  induction fuel generalizing s p with
  | zero => omega
  | succ fuel ih =>
    obtain ⟨renewed, hrn, hd, hg', hl'⟩ := renewLease_of_leased hl (c fuel)
    rw [← hd] at hrt hf
    rw [← hg'] at hg
    obtain ⟨hb, hnd, hle, he⟩ := @candidateBatchIds_spec renewed.database pl now
    have hdl := fun a ha => (hb a ha).1
    simp only [retentionLoop, hrn]
    by_cases hn : candidateBatchIds renewed.database pl now = []
    · rw [if_pos hn]
      refine ⟨p, hrt, hg, hbd, hc, .inl ⟨rfl, fun a ha => ?_⟩⟩
      have hm := mem_candidateIds.2 ha
      rw [he hn] at hm
      exact absurd hm (by simp)
    · rw [if_neg hn]
      obtain ⟨ho, her⟩ := deleteBatch_spec hrt.enforced hg hn hdl
      by_cases hr : ∀ a ∈ candidateBatchIds renewed.database pl now, Unencumbered renewed.database a
      · obtain ⟨r, hre, hde⟩ := ho hr
        rw [hde]
        have hp : 0 < (renewed.database (.core .runs)).countP fun row =>
            (candidateBatchIds renewed.database pl now).contains row.runId := by
          obtain ⟨a, ha⟩ := List.exists_mem_of_ne_nil _ hn
          obtain ⟨run, hrun, rfl⟩ := List.mem_map.1 (mem_runs_of_deletable (hdl _ ha))
          exact List.countP_pos_iff.2 ⟨run, hrun, List.contains_iff_mem.2 ha⟩
        simp only [if_neg hp.ne']
        refine ih ?_ hre hl' ?_ ?_ ?_
        · simpa using hrt.next (separate_batch _) hnd hdl hr
        · simpa [forall_and, or_imp] using ⟨hbd, hle⟩
        · intro hk
          have hru := hrt.runs.map (·.runId) |>.nodup hk
          rw [hc hk, countP_batch hru hnd fun a ha =>
            mem_runs_of_deletable (hdl a ha)]
          simp
        · have := candidateIds_lt (separate_batch renewed.database) hn hnd hdl
          show (candidateIds (afterBatch _ _) pl now).length < fuel
          omega
      · simp only [not_forall] at hr
        obtain ⟨a, ha, hno⟩ := hr
        rw [her ⟨a, ha, hno⟩]
        exact ⟨p, hrt, hg, hbd, hc, .inr ⟨rfl, a, hdl a ha, hno⟩⟩

end

end Woml
