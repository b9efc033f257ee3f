import Woml.Retention.Proof.Deletes

/-!
# Retention, batch after batch

After a batch of whole components is deleted, the runs that are left are connected, protected and
old enough as they were before, so that the candidates that are left are the candidates after the
batch (`deletable_afterBatch`).
-/

namespace Woml

open Relational RetentionInventory

/-- An edge between two runs, in either direction. -/
def Joins (x y a b : String) : Prop := a = x ∧ b = y ∨ a = y ∧ b = x

/-- The call or the delivery that connects two runs. -/
def Linked (db : Database) (a b : String) : Prop :=
  (∃ call ∈ db (.side .workflowCalls), Joins call.parentRunId call.childRunId a b) ∨
    ∃ publication ∈ db (.side .internalEventPublications),
      ∃ delivery ∈ db (.side .internalEventDeliveries),
        delivery.publicationId = publication.publicationId ∧
          Joins publication.parentRunId delivery.runId a b

/-- What protects a run. -/
structure Unprotected (db : Database) (deduplicationCutoff : DateTime) (runId : String) : Prop where
  summarised : ∀ run ∈ db (.core .runs), run.runId = runId → (summaryFact db runId).isSome = true
  unpublished : ∀ publication ∈ db (.side .internalEventPublications),
    deduplicationCutoff < publication.emittedAt → publication.parentRunId ≠ runId ∧
      ∀ delivery ∈ db (.side .internalEventDeliveries),
        delivery.publicationId = publication.publicationId → delivery.runId ≠ runId
  unclaimed : ∀ row ∈ db (.core .schedulerClaims), row.runId ≠ runId
  unqueued : ∀ row ∈ db (.core .runtimePolicyQueue), row.runId ≠ runId
  unowned : ∀ row ∈ db (.side .lockResources), row.ownerRunId ≠ some runId
  unlocked : ∀ row ∈ db (.side .lockWaiters), row.status = .waiting ∨ row.status = .held →
    row.runId ≠ runId
  corrected : ∀ row ∈ db (.side .sagaScopes),
    row.phase = .correcting ∨ row.phase = .manualRecovery → row.runId ≠ runId
  repaired : ∀ row ∈ db (.side .correctionManualRecovery), row.status = .required →
    row.runId ≠ runId
  delivered : ∀ row ∈ db (.core .triggerOccurrences), deduplicationCutoff < row.receivedAt →
    row.runId ≠ runId

section

variable {db : Database} {c : DateTime} {a b : String}

theorem mem_connect {x y : String} : (a, b) ∈ RetentionInventory.connect x y ↔ Joins x y a b := by
  simp [RetentionInventory.connect, Joins]

theorem mem_deliveredPublications {publication : InternalEventPublication}
    {dl : InternalEventDelivery} : (publication, dl) ∈ deliveredPublications db ↔
      publication ∈ db (.side .internalEventPublications) ∧
        dl ∈ db (.side .internalEventDeliveries) ∧
        dl.publicationId = publication.publicationId := by
  simp only [deliveredPublications, List.mem_flatMap, List.mem_map, List.mem_filter,
    decide_eq_true_eq, Prod.mk.injEq]
  constructor
  · rintro ⟨p, hp, d, ⟨hd, he⟩, rfl, rfl⟩
    exact ⟨hp, hd, he⟩
  · rintro ⟨hp, hd, he⟩
    exact ⟨publication, hp, dl, ⟨hd, he⟩, rfl, rfl⟩

theorem mem_adjacency : (a, b) ∈ (loadInventory db c).adjacency ↔ Linked db a b := by
  simp only [loadInventory, List.mem_append, List.mem_flatMap, mem_connect, Linked, Prod.exists,
    mem_deliveredPublications]
  refine or_congr Iff.rfl ⟨?_, ?_⟩
  · rintro ⟨p, d, ⟨hp, hd, he⟩, hj⟩
    exact ⟨p, hp, d, hd, he, hj⟩
  · rintro ⟨p, hp, d, hd, he, hj⟩
    exact ⟨p, d, ⟨hp, hd, he⟩, hj⟩

theorem not_mem_protectedRuns : a ∉ (loadInventory db c).protectedRuns ↔ Unprotected db c a := by
  simp only [loadInventory, publicationProtected, lockProtected, correctionProtected,
    List.mem_append, List.mem_map, List.mem_filter, List.mem_filterMap, decide_eq_true_eq,
    Bool.or_eq_true, Prod.exists, mem_deliveredPublications, not_or, not_exists, not_and]
  constructor
  · rintro ⟨⟨⟨⟨⟨⟨hsu, hpa, hde⟩, hc⟩, hq⟩, how, hw⟩, hsa, hm⟩, ho⟩
    refine ⟨fun run hru he => ?_, fun p hp hne => ⟨hpa p ⟨hp, hne⟩, fun d hd he =>
      hde p d ⟨⟨hp, hd, he⟩, hne⟩⟩, hc, hq, how, fun row hr hs =>
      hw row ⟨hr, hs⟩, fun row hr hph => hsa row ⟨hr, hph⟩,
      fun row hr hs => hm row ⟨hr, hs⟩, fun row hr hne =>
      ho row ⟨hr, hne⟩⟩
    exact Option.isSome_iff_ne_none.2 (by simpa using hsu ⟨run, hru, he⟩)
  · intro h
    refine ⟨⟨⟨⟨⟨⟨?_, fun p hp => (h.unpublished p hp.1 hp.2).1, fun p d hpd =>
      (h.unpublished p hpd.1.1 hpd.2).2 d hpd.1.2.1 hpd.1.2.2⟩, h.unclaimed⟩, h.unqueued⟩, h.unowned,
      fun row hr => h.unlocked row hr.1 hr.2⟩, fun row hr => h.corrected row hr.1 hr.2,
      fun row hr => h.repaired row hr.1 hr.2⟩, fun row hr =>
      h.delivered row hr.1 hr.2⟩
    rintro ⟨run, hru, he⟩ hn
    have := h.summarised run hru he
    rw [← Option.not_isNone, hn] at this
    exact absurd this (by simp)

theorem lookup_facts :
    (loadInventory db c).facts.lookup a =
      if a ∈ (db (.core .runs)).map (·.runId) then summaryFact db a else none := by
  simp only [loadInventory]
  induction (db (.core .runs)).map (·.runId) with
  | nil => rfl
  | cons r runIds ih =>
    rw [List.filterMap_cons]
    by_cases hr : a = r
    · subst hr
      cases hf : summaryFact db a with
      | none => simp [hf, ih]
      | some fact => simp
    · cases hf : summaryFact db r with
      | none => simp [ih, hr]
      | some fact =>
        have hn : (a == r) = false := by simpa using hr
        simp [List.lookup_cons, hn, ih, hr]

theorem Linked.symm (h : Linked db a b) : Linked db b a := by
  rcases h with ⟨call, hc, hj⟩ | ⟨p, hp, d, hd, he, hj⟩
  · exact .inl ⟨call, hc, hj.symm.imp And.symm And.symm⟩
  · exact .inr ⟨p, hp, d, hd, he, hj.symm.imp And.symm And.symm⟩

end

/-! ## After a batch -/

section

variable {db : Database} {runIds : List String} {c : DateTime} {a b : String}

theorem mem_afterBatch_calls {call : WorkflowCall} :
    call ∈ afterBatch db runIds (.side .workflowCalls) ↔
      call ∈ db (.side .workflowCalls) ∧ call.parentRunId ∉ runIds ∧ call.childRunId ∉ runIds := by
  have hm : ⟨.side .workflowCalls, .either (.among .parentRunId) (.among .childRunId)⟩ ∈
      batchDeletes := by simp [batchDeletes, deleteStatements]
  rw [afterBatch_eq hm, List.mem_filter]
  simp [Condition.eval, column, sideColumn]

theorem mem_afterBatch_publications {p : InternalEventPublication} :
    p ∈ afterBatch db runIds (.side .internalEventPublications) ↔
      p ∈ db (.side .internalEventPublications) ∧ p.parentRunId ∉ runIds := by
  have hm : ⟨.side .internalEventPublications, .among .parentRunId⟩ ∈ batchDeletes := by
    simp [batchDeletes, deleteStatements]
  rw [afterBatch_eq hm, List.mem_filter]
  simp [Condition.eval, column, sideColumn]

theorem mem_afterBatch_deliveries {d : InternalEventDelivery} :
    d ∈ afterBatch db runIds (.side .internalEventDeliveries) ↔
      d ∈ db (.side .internalEventDeliveries) ∧ d.runId ∉ runIds ∧
        ∀ p ∈ db (.side .internalEventPublications), p.publicationId = d.publicationId →
          p.parentRunId ∉ runIds := by
  have hm : ⟨.side .internalEventDeliveries, .either (.among .runId)
      (.select .publicationId (.side .internalEventPublications) .publicationId .parentRunId)⟩ ∈
      batchDeletes := by simp [batchDeletes, deleteStatements]
  rw [afterBatch_eq hm, List.mem_filter]
  simp [Condition.eval, column, sideColumn]

theorem afterBatch_lockResources :
    afterBatch db runIds (.side .lockResources) = db (.side .lockResources) :=
  remaining_of_untouched (by decide +kernel)

/-- No edge leaves the batch. -/
def Separate (db : Database) (runIds : List String) : Prop :=
  ∀ a ∈ runIds, ∀ b, Linked db a b → b ∈ runIds

theorem Separate.not_mem (h : Separate db runIds) (hl : Linked db a b) (ha : a ∉ runIds) :
    b ∉ runIds := fun hb => ha (h b hb a hl.symm)

/-- A delivery to a run that stays, stays with its publication. -/
theorem Separate.delivery (h : Separate db runIds) {p : InternalEventPublication}
    {d : InternalEventDelivery} (hp : p ∈ db (.side .internalEventPublications))
    (hd : d ∈ db (.side .internalEventDeliveries)) (he : d.publicationId = p.publicationId)
    (hs : d.runId ∉ runIds) :
    p ∈ afterBatch db runIds (.side .internalEventPublications) ∧
      d ∈ afterBatch db runIds (.side .internalEventDeliveries) := by
  have hpa : ∀ p' ∈ db (.side .internalEventPublications), p'.publicationId = d.publicationId →
      p'.parentRunId ∉ runIds := fun p' hp' he' =>
    h.not_mem (.inr ⟨p', hp', d, hd, he'.symm, .inr ⟨rfl, rfl⟩⟩) hs
  exact ⟨mem_afterBatch_publications.2 ⟨hp, hpa p hp he.symm⟩,
    mem_afterBatch_deliveries.2 ⟨hd, hs, hpa⟩⟩

theorem linked_afterBatch (h : Separate db runIds) :
    Linked (afterBatch db runIds) a b ↔ Linked db a b ∧ a ∉ runIds := by
  constructor
  · rintro (⟨call, hc, hj⟩ | ⟨p, hp, d, hd, he, hj⟩)
    · obtain ⟨hc, hpa, hch⟩ := mem_afterBatch_calls.1 hc
      refine ⟨.inl ⟨call, hc, hj⟩, ?_⟩
      rcases hj with ⟨rfl, -⟩ | ⟨rfl, -⟩
      · exact hpa
      · exact hch
    · obtain ⟨hp, hpa⟩ := mem_afterBatch_publications.1 hp
      obtain ⟨hd, hr, -⟩ := mem_afterBatch_deliveries.1 hd
      refine ⟨.inr ⟨p, hp, d, hd, he, hj⟩, ?_⟩
      rcases hj with ⟨rfl, -⟩ | ⟨rfl, -⟩
      · exact hpa
      · exact hr
  · rintro ⟨hl, ha⟩
    have hb := h.not_mem hl ha
    rcases hl with ⟨call, hc, hj⟩ | ⟨p, hp, d, hd, he, hj⟩
    · refine .inl ⟨call, mem_afterBatch_calls.2 ⟨hc, ?_⟩, hj⟩
      rcases hj with ⟨rfl, rfl⟩ | ⟨rfl, rfl⟩
      · exact ⟨ha, hb⟩
      · exact ⟨hb, ha⟩
    · have hr : d.runId ∉ runIds := by
        rcases hj with ⟨rfl, rfl⟩ | ⟨rfl, rfl⟩
        · exact hb
        · exact ha
      obtain ⟨hp, hd⟩ := h.delivery hp hd he hr
      exact .inr ⟨p, hp, d, hd, he, hj⟩

theorem summaryFact_afterBatch (ha : a ∉ runIds) :
    summaryFact (afterBatch db runIds) a = summaryFact db a := by
  have hr : afterBatch db runIds (.core .runSummaries) = _ :=
    afterBatch_owned (by simp [batchDeletes, deleteStatements]) fun _ => rfl
  rw [summaryFact, hr, List.find?_filter, summaryFact]
  congr 2
  funext row
  by_cases hro : row.runId = a
  · subst hro
    simpa using ha
  · simp [hro]

theorem forall_owned_iff (db : Database) (ha : a ∉ runIds) (t : Table) (ro : Row t → String)
    (P : Row t → Prop)
    (h : deleteOfRuns t ∈ batchDeletes := by simp [batchDeletes, deleteStatements])
    (hc : ∀ row, column t row .runId = some (ro row) := by exact fun _ => rfl) :
    (∀ row ∈ afterBatch db runIds t, P row → ro row ≠ a) ↔
      ∀ row ∈ db t, P row → ro row ≠ a := by
  constructor
  · intro hal row hr hP he
    exact hal row ((mem_afterBatch_owned h hc).2 ⟨hr, he ▸ ha⟩) hP he
  · intro hal row hr
    exact hal row ((mem_afterBatch_owned h hc).1 hr).1

theorem unprotected_afterBatch (h : Separate db runIds) (ha : a ∉ runIds) :
    Unprotected (afterBatch db runIds) c a ↔ Unprotected db c a := by
  have hsu := @summaryFact_afterBatch db runIds a ha
  have hc := forall_owned_iff db ha (.core .schedulerClaims) (·.runId) fun _ => True
  have hq := forall_owned_iff db ha (.core .runtimePolicyQueue) (·.runId) fun _ => True
  have hw := forall_owned_iff db ha (.side .lockWaiters) (·.runId)
    fun row => row.status = .waiting ∨ row.status = .held
  have hs := forall_owned_iff db ha (.side .sagaScopes) (·.runId)
    fun row => row.phase = .correcting ∨ row.phase = .manualRecovery
  have hm := forall_owned_iff db ha (.side .correctionManualRecovery) (·.runId)
    fun row => row.status = .required
  have ho := forall_owned_iff db ha (.core .triggerOccurrences) (·.runId)
    fun row => c < row.receivedAt
  simp only [true_implies] at hc hq
  constructor
  · intro hu
    refine ⟨fun run hr heq => ?_, fun p hp hn => ⟨fun heq => ?_, fun d hd heq he => ?_⟩,
      hc.1 hu.unclaimed, hq.1 hu.unqueued, ?_, hw.1 hu.unlocked,
      hs.1 hu.corrected, hm.1 hu.repaired, ho.1 hu.delivered⟩
    · rw [← hsu]
      exact hu.summarised run (mem_afterBatch_runs.2 ⟨hr, heq ▸ ha⟩) heq
    · exact (hu.unpublished p (mem_afterBatch_publications.2 ⟨hp, heq ▸ ha⟩) hn).1 heq
    · obtain ⟨hp', hd'⟩ := h.delivery hp hd heq (he ▸ ha)
      exact (hu.unpublished p hp' hn).2 d hd' heq he
    · rw [← @afterBatch_lockResources db runIds]
      exact hu.unowned
  · intro hu
    refine ⟨fun run hr heq => ?_, fun p hp hn => ?_, hc.2 hu.unclaimed,
      hq.2 hu.unqueued, ?_, hw.2 hu.unlocked, hs.2 hu.corrected,
      hm.2 hu.repaired, ho.2 hu.delivered⟩
    · rw [hsu]
      exact hu.summarised run (mem_afterBatch_runs.1 hr).1 heq
    · obtain ⟨hpa, hde⟩ := hu.unpublished p (mem_afterBatch_publications.1 hp).1 hn
      exact ⟨hpa, fun d hd => hde d (mem_afterBatch_deliveries.1 hd).1⟩
    · rw [afterBatch_lockResources]
      exact hu.unowned

theorem oldEnough_afterBatch {p : RetentionPolicyV1} :
    (loadInventory (afterBatch db runIds) c).OldEnough p a ↔
      a ∉ runIds ∧ (loadInventory db c).OldEnough p a := by
  have hr : a ∈ (afterBatch db runIds (.core .runs)).map (·.runId) ↔
      a ∈ (db (.core .runs)).map (·.runId) ∧ a ∉ runIds := by
    simp only [List.mem_map]
    constructor
    · rintro ⟨run, hru, rfl⟩
      obtain ⟨hru, hn⟩ := mem_afterBatch_runs.1 hru
      exact ⟨⟨run, hru, rfl⟩, hn⟩
    · rintro ⟨⟨run, hru, rfl⟩, hn⟩
      exact ⟨run, mem_afterBatch_runs.2 ⟨hru, hn⟩, rfl⟩
  simp only [RetentionInventory.OldEnough, lookup_facts, hr]
  by_cases ha : a ∈ runIds
  · simp [ha]
  · simp [ha, summaryFact_afterBatch ha]

theorem Separate.connected (h : Separate db runIds) (ha : a ∉ runIds)
    (hp : (loadInventory db c).Connected a b) : b ∉ runIds := by
  induction hp with
  | refl => exact ha
  | tail _ hy ih => exact h.not_mem (mem_adjacency.1 (RetentionInventory.mem_neighbors.1 hy)) ih

theorem connected_afterBatch (h : Separate db runIds) (ha : a ∉ runIds) :
    (loadInventory (afterBatch db runIds) c).Connected a b ↔
      (loadInventory db c).Connected a b := by
  have hs : ∀ {x y}, x ∉ runIds →
      (y ∈ (loadInventory (afterBatch db runIds) c).neighbors x ↔
        y ∈ (loadInventory db c).neighbors x) := by
    intro x y hx
    rw [mem_neighbors, mem_neighbors, mem_adjacency,
      mem_adjacency, linked_afterBatch h]
    exact and_iff_left hx
  constructor
  · intro hp
    induction hp with
    | refl => exact .refl
    | tail _ hy ih => exact ih.tail ((hs (h.connected ha ih)).1 hy)
  · intro hp
    induction hp with
    | refl => exact .refl
    | tail hxy hy ih => exact ih.tail ((hs (h.connected ha hxy)).2 hy)

/-- **The candidates after a batch** are those that were not in it. -/
theorem deletable_afterBatch (h : Separate db runIds) {p : RetentionPolicyV1} {now : DateTime} :
    Deletable (afterBatch db runIds) p now a ↔ a ∉ runIds ∧ Deletable db p now a := by
  constructor
  · intro hd
    have ha := (oldEnough_afterBatch.1 (hd.old a .refl)).1
    refine ⟨ha, fun b hb => ?_, fun b hb => ?_, fun runs hn hr => ?_⟩
    · have hb' := (connected_afterBatch h ha).2 hb
      have hs := (oldEnough_afterBatch.1 (hd.old b hb')).1
      rw [not_mem_protectedRuns, ← unprotected_afterBatch h hs, ← not_mem_protectedRuns]
      exact hd.unprotected b hb'
    · exact (oldEnough_afterBatch.1 (hd.old b ((connected_afterBatch h ha).2 hb))).2
    · exact hd.bounded runs hn fun b hb => (connected_afterBatch h ha).2 (hr b hb)
  · rintro ⟨ha, hd⟩
    refine ⟨fun b hb => ?_, fun b hb => ?_, fun runs hn hr => ?_⟩
    · have hb' := (connected_afterBatch h ha).1 hb
      rw [not_mem_protectedRuns, unprotected_afterBatch h (h.connected ha hb'), ← not_mem_protectedRuns]
      exact hd.unprotected b hb'
    · have hb' := (connected_afterBatch h ha).1 hb
      exact oldEnough_afterBatch.2 ⟨h.connected ha hb', hd.old b hb'⟩
    · exact hd.bounded runs hn fun b hb => (connected_afterBatch h ha).1 (hr b hb)

end

end Woml
