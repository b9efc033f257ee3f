import Woml.Retention.Proof.Candidates

/-!
# The deletes of a batch

The delete list comes to every table before the tables its rows refer to, except for four tables
that refer to the runs and are not in it. So the statements before the last one always succeed, and
the last one, which deletes the runs, succeeds exactly if none of these tables has a row of a run
that is deleted (`runAll_batch`).
-/

namespace Woml

open Relational

/-- All statements of `delete_batch`. -/
def batchDeletes : List (Delete Table Column) := deleteStatements ++ [deleteOfRuns (.core .runs)]

/-- The tables after the deletes of a batch. -/
def afterBatch (db : Database) (runIds : List String) : Database :=
  remaining column db runIds.contains batchDeletes

/-- The references to runs from tables that the delete list does not come to. -/
def uncoveredReferences : List (Table × Column) :=
  [(.side .durableWaits, .runId), (.side .externalSignals, .runId),
    (.side .lockResources, .ownerRunId), (.side .runInfrastructurePolicies, .runId)]

def uncoveredKeys : List (ForeignKey Table Column) :=
  uncoveredReferences.map fun (t, c) => runKey t c

/-- A run without a row in one of these tables, the owners of locks apart. -/
structure Unencumbered (db : Database) (runId : String) : Prop where
  waits : ∀ row ∈ db (.side .durableWaits), row.runId ≠ runId
  signals : ∀ row ∈ db (.side .externalSignals), row.runId ≠ runId
  policies : ∀ row ∈ db (.side .runInfrastructurePolicies), row.runId ≠ runId

/-- A row of one of these tables refers to a run that is deleted. -/
def Stranded (db : Database) (runIds : List String) : Prop :=
  ∃ reference ∈ uncoveredReferences, ∃ row ∈ db reference.1, ∃ value ∈ runIds,
    column reference.1 row reference.2 = some value

section

variable {db : Database} {runIds : List String} {g : Table → Bool}

theorem statements_safe : Safe foreignKeys [] deleteStatements = true := by decide +kernel

theorem uncovered_untouched : ∀ reference ∈ uncoveredReferences,
    runKey reference.1 reference.2 ∈ foreignKeys ∧ ∀ d ∈ batchDeletes, d.table ≠ reference.1 := by
  decide +kernel

theorem batch_tables_nodup : (batchDeletes.map (·.table)).Nodup := by decide +kernel

theorem runs_fresh : (deleteOfRuns (.core .runs)).fresh deleteStatements = true := by
  decide +kernel

/-- The keys that the delete list covers. -/
def coveredKeys : List (ForeignKey Table Column) :=
  foreignKeys.filter fun key => !uncoveredKeys.contains key

theorem batch_covered : Covered coveredKeys batchDeletes := by
  unfold Covered
  decide +kernel

theorem enforced_of_covered (hd : Enforced column db foreignKeys)
    (h : ∀ key ∈ uncoveredKeys, key.holds column (afterBatch db runIds) = true) :
    Enforced column (afterBatch db runIds) foreignKeys := by
  intro key hk
  by_cases hu : key ∈ uncoveredKeys
  · exact h key hu
  · have hc : Enforced column (afterBatch db runIds) coveredKeys :=
      enforced_remaining (fun key hk => hd key (List.mem_filter.1 hk).1) batch_covered
    exact hc key (List.mem_filter.2 ⟨hk, by simpa using hu⟩)

theorem afterBatch_eq {t : Table} {c : Condition Table Column} (h : ⟨t, c⟩ ∈ batchDeletes) :
    afterBatch db runIds t = (db t).filter fun row => !c.eval column db runIds.contains row :=
  remaining_of_mem batch_tables_nodup h

theorem afterBatch_owned {t : Table} (h : deleteOfRuns t ∈ batchDeletes) {ro : Row t → String}
    (hc : ∀ row, column t row .runId = some (ro row)) :
    afterBatch db runIds t = (db t).filter fun row => !runIds.contains (ro row) := by
  rw [afterBatch_eq h]
  refine List.filter_congr fun row _ => ?_
  rw [Condition.eval, hc, Option.any_some]

theorem mem_afterBatch_owned {t : Table} (h : deleteOfRuns t ∈ batchDeletes)
    {ro : Row t → String} (hc : ∀ row, column t row .runId = some (ro row))
    {row : Row t} : row ∈ afterBatch db runIds t ↔ row ∈ db t ∧ ro row ∉ runIds := by
  rw [afterBatch_owned h hc, List.mem_filter]
  simp

theorem mem_afterBatch_runs {row : RunKey} :
    row ∈ afterBatch db runIds (.core .runs) ↔ row ∈ db (.core .runs) ∧ row.runId ∉ runIds :=
  mem_afterBatch_owned (by simp [batchDeletes]) fun _ => rfl

theorem holds_runKey {ch : Table} {c : Column} :
    (runKey ch c).holds column db = true ↔ ∀ row ∈ db ch, ∀ value,
      column ch row c = some value → ∃ run ∈ db (.core .runs), run.runId = value := by
  rw [holds_iff]
  refine forall₂_congr fun row _ => ?_
  have hn : (runKey ch c).isNull column row = true ↔ column ch row c = none := by
    simp [ForeignKey.isNull, runKey]
  have hre : ∀ run : RunKey, (runKey ch c).refers column row run = true ↔
      column ch row c = some run.runId := by
    intro run
    show (decide (column ch row c = column (.core .runs) run .runId) && true) = true ↔ _
    rw [Bool.and_true, decide_eq_true_iff]
    rfl
  rw [hn]
  constructor
  · rintro (h | ⟨run, hr, h⟩) value hv
    · rw [h] at hv
      exact absurd hv (by simp)
    · rw [(hre run).1 h] at hv
      exact ⟨run, hr, Option.some.inj hv⟩
  · intro h
    cases hv : column ch row c with
    | none => exact .inl rfl
    | some value =>
      obtain ⟨run, hr, rfl⟩ := h value hv
      exact .inr ⟨run, hr, (hre run).2 hv⟩

/-- The rows of these tables stay, and their references hold if their runs do. -/
theorem holds_uncovered_iff (hd : Enforced column db foreignKeys) :
    (∀ key ∈ uncoveredKeys, key.holds column (afterBatch db runIds) = true) ↔
      ¬Stranded db runIds := by
  simp only [uncoveredKeys, List.forall_mem_map, holds_runKey, Stranded, not_exists, not_and]
  refine forall₂_congr fun r hre => ?_
  obtain ⟨hf, hu⟩ := uncovered_untouched r hre
  rw [afterBatch, remaining_of_untouched hu]
  refine forall₂_congr fun row hro => ?_
  constructor
  · intro h v hm hv
    obtain ⟨run, hr, rfl⟩ := h v hv
    exact (mem_afterBatch_runs.1 hr).2 hm
  · intro h v hv
    obtain ⟨run, hr, rfl⟩ := holds_runKey.1 (hd _ hf) row hro v hv
    exact ⟨run, mem_afterBatch_runs.2 ⟨hr, fun hm => h _ hm hv⟩, rfl⟩

/-- **The deletes of a batch** succeed exactly if no row is stranded. -/
theorem runAll_batch (hdb : Enforced column db foreignKeys)
    (hgu : ∀ d ∈ batchDeletes, g d.table = false) :
    (¬Stranded db runIds → runAll column db runIds.contains foreignKeys g batchDeletes =
        .ok (afterBatch db runIds)) ∧
      (Stranded db runIds → runAll column db runIds.contains foreignKeys g batchDeletes =
        .error .foreignKey) := by
  have hb : runAll column db runIds.contains foreignKeys g deleteStatements =
      .ok (remaining column db runIds.contains deleteStatements) := by
    have hst : remaining column db runIds.contains [] = db := by
      funext t
      exact remaining_of_untouched (by simp)
    have hr : runAll column (remaining column db runIds.contains []) runIds.contains foreignKeys
        g deleteStatements = .ok (remaining column db runIds.contains ([] ++ deleteStatements)) :=
      (runAll_safe hdb (by simp [Covered])
        (fun d hd => hgu d (List.mem_append_left _ hd)) statements_safe).1
    rw [hst] at hr
    exact hr
  have hl : runAll column db runIds.contains foreignKeys g batchDeletes =
      if Enforced column (afterBatch db runIds) foreignKeys then .ok (afterBatch db runIds)
      else .error .foreignKey := by
    have hg := hgu (deleteOfRuns (.core .runs)) (by simp [batchDeletes])
    have hs : (deleteOfRuns (.core .runs)).run column
        (remaining column db runIds.contains deleteStatements) runIds.contains foreignKeys g =
        if Enforced column (afterBatch db runIds) foreignKeys then .ok (afterBatch db runIds)
        else .error .foreignKey := by
      simp only [Delete.run, hg, update_remaining runs_fresh]
      rfl
    unfold runAll at hb
    rw [runAll, batchDeletes, List.foldlM_append, hb]
    simp only [List.foldlM_cons, bind, Except.bind, hs]
    by_cases he : Enforced column (afterBatch db runIds) foreignKeys
    · simp only [if_pos he]
      rfl
    · simp [if_neg he]
  rw [hl]
  constructor
  · intro h
    rw [if_pos (enforced_of_covered hdb ((holds_uncovered_iff hdb).2 h))]
  · intro h
    refine if_neg fun he => ?_
    have hk : ∀ key ∈ uncoveredKeys, key ∈ foreignKeys := by decide +kernel
    exact (holds_uncovered_iff hdb).1 (fun key hke => he key (hk key hke)) h

end

end Woml
