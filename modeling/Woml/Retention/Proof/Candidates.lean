import Woml.Retention.Retention

/-!
# The candidates of retention

A run is a candidate exactly if every run it is connected with is old enough and not protected, and
these are at most 250 (`mem_candidateIds`). A batch consists of whole components of candidates
(`candidateBatchIds_spec`).
-/

namespace Woml

open Components RetentionInventory

namespace RetentionInventory

/-- Edges lead both ways, as `connect` adds them. -/
def Symmetric (inventory : RetentionInventory) : Prop :=
  ∀ a b, (a, b) ∈ inventory.adjacency → (b, a) ∈ inventory.adjacency

/-- The run came to its end before the cutoff of its status. -/
def OldEnough (inventory : RetentionInventory) (policy : RetentionPolicyV1) (runId : String) :
    Prop :=
  ∃ fact cutoff, inventory.facts.lookup runId = some fact ∧
    cutoffFor policy fact.status = some cutoff ∧ fact.updatedAt < cutoff

/-- `b` is in the component of `a`. -/
abbrev Connected (inventory : RetentionInventory) : String → String → Prop :=
  Path inventory.neighbors

/-- All runs of the component may be deleted, and together they fit into one batch. -/
structure Deletable (inventory : RetentionInventory) (policy : RetentionPolicyV1)
    (runId : String) : Prop where
  unprotected : ∀ other, inventory.Connected runId other → other ∉ inventory.protectedRuns
  old : ∀ other, inventory.Connected runId other → inventory.OldEnough policy other
  bounded : ∀ runs : List String, runs.Nodup → (∀ other ∈ runs, inventory.Connected runId other) →
    runs.length ≤ retentionBatchRuns

section

variable {inventory : RetentionInventory} {p : RetentionPolicyV1} {component : List String}

theorem mem_neighbors {a b : String} :
    b ∈ inventory.neighbors a ↔ (a, b) ∈ inventory.adjacency := by
  simp only [neighbors, List.mem_dedup, List.mem_map, List.mem_filter, decide_eq_true_eq]
  constructor
  · rintro ⟨⟨x, y⟩, ⟨h, rfl⟩, rfl⟩
    exact h
  · intro h
    exact ⟨(a, b), ⟨h, rfl⟩, rfl⟩

theorem graph (hs : inventory.Symmetric) :
    Graph inventory.neighbors (inventory.roots ++ inventory.adjacency.map (·.1)) where
  symm a b h := mem_neighbors.2 (hs a b (mem_neighbors.1 h))
  nodup _ := List.nodup_dedup _
  closed a _ b hb := List.mem_append_right _
    (List.mem_map.2 ⟨(b, a), hs a b (mem_neighbors.1 hb), rfl⟩)

theorem mem_roots {a : String} :
    a ∈ inventory.roots ↔ a ∈ inventory.facts.map (·.1) ∨ a ∈ inventory.protectedRuns := by
  rw [roots, List.mem_insertionSort, List.mem_dedup, List.mem_append]

theorem split (hs : inventory.Symmetric) : Split inventory.neighbors inventory.roots []
    (Components.all inventory.neighbors (inventory.roots.length + inventory.adjacency.length)
      inventory.roots []) :=
  all_spec (graph hs) (by simp) (by simp [Closed]) fun _ hr => List.mem_append_left _ hr

theorem newest_isSome :
    (inventory.newest p component).isSome = true ↔
      ∀ runId ∈ component, inventory.OldEnough p runId := by
  unfold newest
  generalize DateTime.minUtc = start
  induction component generalizing start with
  | nil => simp
  | cons runId component ih =>
    rw [List.foldlM_cons, List.forall_mem_cons]
    cases hf : inventory.facts.lookup runId with
    | none => simp [OldEnough, hf]
    | some fact =>
      cases hc : cutoffFor p fact.status with
      | none => simp [OldEnough, hf, hc]
      | some c =>
        by_cases ho : c ≤ fact.updatedAt
        · simp [OldEnough, hf, hc, not_lt.2 ho]
        · have hr := ih (max start fact.updatedAt)
          simp only [Option.bind_eq_bind] at hr
          simp only [Option.bind_eq_bind, Option.bind_some, hc, if_neg ho, hr]
          exact ⟨fun h => ⟨⟨fact, c, hf, hc, not_le.1 ho⟩, h⟩, fun h => h.2⟩

theorem group_eq_some {g : DateTime × String × List String}
    (h : inventory.group p component = some g) : g.2.2 = component := by
  simp only [group] at h
  split at h
  · exact absurd h (by simp)
  · simp only [Option.bind_eq_bind, Option.bind_eq_some_iff] at h
    obtain ⟨newest, -, first, -, h⟩ := h
    cases h
    rfl

theorem group_isSome :
    (∃ g, inventory.group p component = some g) ↔ component ≠ [] ∧
      component.length ≤ retentionBatchRuns ∧
      ∀ runId ∈ component, runId ∉ inventory.protectedRuns ∧ inventory.OldEnough p runId := by
  unfold group
  split
  · next h =>
    simp only [Bool.or_eq_true, decide_eq_true_eq, List.any_eq_true, List.contains_iff_mem] at h
    refine ⟨fun ⟨_, hg⟩ => absurd hg (by simp), fun ⟨_, hl, ha⟩ => ?_⟩
    rcases h with h | ⟨runId, hm, hp⟩
    · omega
    · exact absurd hp (ha runId hm).1
  · next h =>
    simp only [Bool.or_eq_true, decide_eq_true_eq, List.any_eq_true, List.contains_iff_mem,
      not_or, not_exists, not_and] at h
    obtain ⟨hl, hp⟩ := h
    simp only [Option.bind_eq_bind, Option.bind_eq_some_iff]
    constructor
    · rintro ⟨g, newest, hn, first, hf, -⟩
      refine ⟨by rintro rfl; simp at hf, by omega, fun runId hm =>
        ⟨hp runId hm, newest_isSome.1 (by simp [hn]) runId hm⟩⟩
    · rintro ⟨hne, -, ha⟩
      obtain ⟨newest, hn⟩ := Option.isSome_iff_exists.1
        (newest_isSome.2 fun runId hm => (ha runId hm).2)
      obtain ⟨first, rest, rfl⟩ := List.exists_cons_of_ne_nil hne
      exact ⟨_, newest, hn, first, rfl, rfl⟩

theorem mem_eligibleComponents :
    component ∈ inventory.eligibleComponents p ↔ component ∈ inventory.components ∧
      ∃ g, inventory.group p component = some g := by
  simp only [eligibleComponents, List.mem_map, List.mem_insertionSort, List.mem_filterMap]
  constructor
  · rintro ⟨g, ⟨c, hc, hg⟩, rfl⟩
    rw [group_eq_some hg]
    exact ⟨hc, g, hg⟩
  · rintro ⟨hc, g, hg⟩
    exact ⟨g, ⟨component, hc, hg⟩, group_eq_some hg⟩

theorem mem_components (hs : inventory.Symmetric) (h : component ∈ inventory.components) :
    component.Nodup ∧ component ≠ [] ∧
      ∀ a ∈ component, ∀ b, b ∈ component ↔ inventory.Connected a b := by
  obtain ⟨c, hc, rfl⟩ := List.mem_map.1 h
  have hpe := List.perm_insertionSort (· ≤ ·) c
  refine ⟨hpe.nodup_iff.2 ((split hs).nodup c hc), fun hn => ?_, fun a ha b => ?_⟩
  · obtain ⟨root, -, hp⟩ := (split hs).root c hc
    have : root ∈ c.insertionSort (· ≤ ·) := List.mem_insertionSort _ |>.2 ((hp root).2 .refl)
    rw [hn] at this
    exact absurd this (by simp)
  · rw [List.mem_insertionSort] at ha ⊢
    exact (split hs).mem_iff (graph hs) hc ha b

theorem mem_facts_of_lookup {ri : String} {fact : RunFact} {facts : List (String × RunFact)}
    (h : facts.lookup ri = some fact) : (ri, fact) ∈ facts := by
  induction facts with
  | nil => simp at h
  | cons entry facts ih =>
    obtain ⟨k, v⟩ := entry
    simp only [List.lookup_cons] at h
    split at h
    · next hk =>
      cases h
      obtain rfl : ri = k := by simpa using hk
      exact .head _
    · exact .tail _ (ih h)

theorem exists_component (hs : inventory.Symmetric) {a : String}
    (h : inventory.OldEnough p a) : ∃ component ∈ inventory.components, a ∈ component := by
  obtain ⟨fact, -, hf, -⟩ := h
  have hr : a ∈ inventory.roots :=
    mem_roots.2 (.inl (List.mem_map.2 ⟨(a, fact), mem_facts_of_lookup hf, rfl⟩))
  obtain hn | ⟨c, hc, ha⟩ := (split hs).covers a hr
  · exact absurd hn (by simp)
  · exact ⟨_, List.mem_map.2 ⟨c, hc, rfl⟩, (List.mem_insertionSort _).2 ha⟩

theorem mem_eligible_iff (hs : inventory.Symmetric) {a : String} :
    (∃ component ∈ inventory.eligibleComponents p, a ∈ component) ↔ inventory.Deletable p a := by
  simp only [mem_eligibleComponents, group_isSome]
  constructor
  · rintro ⟨c, ⟨hc, -, hl, hal⟩, ha⟩
    obtain ⟨-, -, hm⟩ := mem_components hs hc
    refine ⟨fun b hb => (hal b ((hm a ha b).2 hb)).1, fun b hb => (hal b ((hm a ha b).2 hb)).2,
      fun runs hn hr => ?_⟩
    exact (hn.subperm fun b hb => (hm a ha b).2 (hr b hb)).length_le.trans hl
  · rintro ⟨hu, ho, hbd⟩
    obtain ⟨c, hc, ha⟩ := exists_component hs (ho a .refl)
    obtain ⟨hn, hne, hm⟩ := mem_components hs hc
    refine ⟨c, ⟨hc, hne, hbd c hn fun b hb => (hm a ha b).1 hb, fun b hb => ?_⟩, ha⟩
    have hp := (hm a ha b).1 hb
    exact ⟨hu b hp, ho b hp⟩

theorem length_of_eligible (h : component ∈ inventory.eligibleComponents p) :
    component.length ≤ retentionBatchRuns :=
  (group_isSome.1 (mem_eligibleComponents.1 h).2).2.1

theorem nodup_eligible (hs : inventory.Symmetric) :
    (inventory.eligibleComponents p).flatten.Nodup := by
  have hco : inventory.components.Pairwise List.Disjoint := by
    refine List.pairwise_map.2 ((split hs).pairwise.imp fun {c d} h a hc hd => ?_)
    exact h a ((List.mem_insertionSort _).1 hc) ((List.mem_insertionSort _).1 hd)
  have hg : (inventory.components.filterMap (inventory.group p)).Pairwise
      fun a b => List.Disjoint a.2.2 b.2.2 := by
    refine List.pairwise_filterMap.2 (hco.imp fun {c d} h a ha b hb => ?_)
    rw [group_eq_some ha, group_eq_some hb]
    exact h
  refine List.nodup_flatten.2 ⟨fun c hc => ?_, ?_⟩
  · exact (mem_components hs (mem_eligibleComponents.1 hc).1).1
  · refine List.pairwise_map.2 ((List.perm_insertionSort _ _).symm.pairwise hg fun h => ?_)
    exact h.symm

end

end RetentionInventory

/-! ## Candidates and batches of a database -/

theorem loadInventory_symmetric (db : Database) (c : DateTime) :
    (loadInventory db c).Symmetric := by
  intro a b h
  simp only [loadInventory, List.mem_append, List.mem_flatMap, connect,
    List.mem_cons, Prod.mk.injEq, List.not_mem_nil, or_false, Prod.exists] at h ⊢
  rcases h with ⟨call, hc, h⟩ | ⟨pb, delivery, hd, h⟩
  · exact .inl ⟨call, hc, h.symm.imp And.symm And.symm⟩
  · exact .inr ⟨pb, delivery, hd, h.symm.imp And.symm And.symm⟩

/-- A run that retention may delete. -/
abbrev Deletable (db : Database) (policy : RetentionPolicyV1) (now : DateTime) : String → Prop :=
  (loadInventory db (now - triggerDeduplicationSafety)).Deletable policy

section

variable {db : Database} {p : RetentionPolicyV1} {now : DateTime}

theorem candidateIds_eq : candidateIds db p now = (eligible db p now).flatten := by
  have ha : ∀ c ∈ eligible db p now, decide (c.length ≤ retentionBatchRuns) = true :=
    fun c hc => decide_eq_true (length_of_eligible hc)
  rw [candidateIds, List.filter_eq_self.2 ha]

/-- **What a candidate is.** -/
theorem mem_candidateIds {runId : String} :
    runId ∈ candidateIds db p now ↔ Deletable db p now runId := by
  rw [candidateIds_eq, List.mem_flatten]
  exact RetentionInventory.mem_eligible_iff (loadInventory_symmetric db _)

theorem nodup_candidateIds : (candidateIds db p now).Nodup := by
  rw [candidateIds_eq]
  exact nodup_eligible (loadInventory_symmetric db _)

/-- The batch takes components from the front, as long as they fit. -/
theorem takeBatch_spec {cs : List (List String)} {b : List String}
    (hco : ∀ c ∈ cs, c.length ≤ retentionBatchRuns) (hb : b.length ≤ retentionBatchRuns) :
    ∃ taken, taken <+: cs ∧ takeBatch cs b = b ++ taken.flatten ∧
      (takeBatch cs b).length ≤ retentionBatchRuns ∧
      (b = [] → cs ≠ [] → taken ≠ []) := by
  induction cs generalizing b with
  | nil => exact ⟨[], List.prefix_rfl, by simp [takeBatch], by simpa, by simp⟩
  | cons c cs ih =>
    have hc := hco c (.head _)
    rw [takeBatch, if_neg (by omega)]
    by_cases hf : (decide (b ≠ []) && decide (retentionBatchRuns < b.length + c.length)) = true
    · rw [if_pos hf]
      have hn : b ≠ [] := by
        simp only [Bool.and_eq_true, decide_eq_true_eq] at hf
        exact hf.1
      exact ⟨[], List.nil_prefix, by simp, hb, fun h => absurd h hn⟩
    · rw [if_neg hf]
      have hfi : (b ++ c).length ≤ retentionBatchRuns := by
        rw [List.length_append]
        by_cases hn : b = []
        · subst hn
          simpa using hc
        · simp only [ne_eq, hn, not_false_eq_true, decide_true, Bool.true_and,
            decide_eq_true_eq, not_lt] at hf
          exact hf
      by_cases he : (b ++ c).length = retentionBatchRuns
      · rw [if_pos he]
        exact ⟨[c], by simp, by simp, hfi, by simp⟩
      · rw [if_neg he]
        obtain ⟨taken, hp, heq, hl, -⟩ := ih (fun d hd => hco d (.tail _ hd)) hfi
        exact ⟨c :: taken, List.prefix_cons_inj c |>.2 hp, by simp [heq], hl, by simp⟩

/-- A batch: components of candidates, at most 250 runs, none only if there is no candidate. -/
theorem candidateBatchIds_spec :
    (∀ a ∈ candidateBatchIds db p now, Deletable db p now a ∧
      ∀ b, (loadInventory db (now - triggerDeduplicationSafety)).Connected a b →
        b ∈ candidateBatchIds db p now) ∧
      (candidateBatchIds db p now).Nodup ∧
      (candidateBatchIds db p now).length ≤ retentionBatchRuns ∧
      (candidateBatchIds db p now = [] → candidateIds db p now = []) := by
  have hs := loadInventory_symmetric db (now - triggerDeduplicationSafety)
  have hf : ∀ c ∈ eligible db p now, c.length ≤ retentionBatchRuns :=
    fun c hc => length_of_eligible hc
  have he : ([] : List String).length ≤ retentionBatchRuns := Nat.zero_le _
  obtain ⟨taken, hp, heq, hl, hn⟩ := takeBatch_spec hf he
  rw [candidateBatchIds, heq] at *
  have hco : ∀ c ∈ taken, c ∈ eligible db p now := fun c hc => hp.subset hc
  refine ⟨fun a ha => ?_, ?_, hl, fun hni => ?_⟩
  · obtain ⟨c, hc, ha⟩ := List.mem_flatten.1 ha
    refine ⟨mem_candidateIds.1 ?_, fun b hb => List.mem_flatten.2 ⟨c, hc, ?_⟩⟩
    · rw [candidateIds_eq]
      exact List.mem_flatten.2 ⟨c, hco c hc, ha⟩
    · exact ((mem_components hs
        (mem_eligibleComponents.1 (hco c hc)).1).2.2 a ha b).2 hb
  · obtain ⟨rest, hr⟩ := hp
    have hnd : (eligible db p now).flatten.Nodup := nodup_eligible hs
    rw [← hr, List.flatten_append] at hnd
    exact (List.nodup_append.1 hnd).1
  · by_contra hne
    rw [candidateIds_eq] at hne
    have hso : eligible db p now ≠ [] := by
      rintro he
      simp [he] at hne
    obtain ⟨c, rest, hc⟩ := List.exists_cons_of_ne_nil (hn rfl hso)
    have hcm := hco c (by simp [hc])
    refine (group_isSome.1
      (mem_eligibleComponents.1 hcm).2).1 ?_
    exact List.flatten_eq_nil_iff.1 hni c (by simp [hc])

end

end Woml
