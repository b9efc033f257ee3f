import Woml.Engine.Readiness

/-!
# The indexed readiness computation is the plain scan

Both adjacency indexes look nodes and edges up as the definition itself does
(`ReadinessGraph.Lawful`), duplicates and dangling edges included, and the map of latest attempts
returns the last attempt of a node (`LatestAttempts.Lawful`). From these two facts alone the
indexed computation follows the plain scan step by step: completion (`complete_eq`), active nodes
(`activeNodeIds_eq`), one candidate (`candidateIsReady_eq`), the whole list (`scan_eq`) and a
single node (`scanOne_of_scan`).
-/

namespace Woml

open Checked ReadinessGraph Reference CompiledWorkflowDefinition SortedMap

/-! ## Lookups -/

theorem find_zipIdx {α : Type} (l : List α) (q : α → Bool) :
    (l.zipIdx.find? fun x => q x.1).bind (fun x => l[x.2]?) = l.find? q := by
  have hf : (l.zipIdx.find? fun x => q x.1).map Prod.fst = l.find? q := by
    have := List.find?_map (p := q) (f := Prod.fst) (l := l.zipIdx)
    rw [List.zipIdx_map_fst] at this
    exact this.symm
  cases h : l.zipIdx.find? fun x => q x.1 with
  | none => rw [h] at hf; exact hf
  | some x =>
    rw [h] at hf
    obtain ⟨a, i⟩ := x
    have hi : l[i]? = some a := List.mk_mem_zipIdx_iff_getElem?.1 (List.mem_of_find?_eq_some h)
    simp only [Option.bind_some, hi]
    exact hf

theorem filterMap_zipIdx {α : Type} (l : List α) (q : α → Bool) :
    (((l.zipIdx.filter fun x => q x.1).map Prod.snd).filterMap fun i => l[i]?) = l.filter q := by
  rw [List.filterMap_map]
  have hge : ∀ x ∈ l.zipIdx.filter fun x => q x.1, ((fun i => l[i]?) ∘ Prod.snd) x = some x.1 := by
    intro x hx
    exact List.mk_mem_zipIdx_iff_getElem?.1 (List.mem_filter.1 hx).1
  rw [List.filterMap_congr hge]
  have := List.filter_map (p := q) (f := Prod.fst) (l := l.zipIdx)
  rw [List.zipIdx_map_fst] at this
  rw [this]
  rw [List.filterMap_eq_map']
  rfl

/-- The index looks up what the definition holds. -/
structure ReadinessGraph.Lawful (g : ReadinessGraph) : Prop where
  node_eq : ∀ id, g.node id = g.workflow.node id
  incoming_eq : ∀ id, g.incoming id = g.workflow.graph.edges.filter (·.target = id)
  outgoing_eq : ∀ id, g.outgoing id = g.workflow.graph.edges.filter (·.source = id)

theorem ReadinessGraph.new_lawful (w : DefinitionRef) : (ReadinessGraph.new w).Lawful where
  node_eq nodeId := by
    show SortedMap.get? _ nodeId = _
    rw [SortedMap.get?_foldl_insertFirst (fun node : CompiledWorkflowNode => node.id)
      (fun node => node)]
    simp [CompiledWorkflowDefinition.node, new]
  incoming_eq nodeId := by
    show (SortedMap.get? _ nodeId).getD [] = _
    rw [SortedMap.get?_foldl_push (fun edge : CompiledWorkflowEdge => edge.target)
      (fun edge => edge)]
    simp [new]
  outgoing_eq nodeId := by
    show (SortedMap.get? _ nodeId).getD [] = _
    rw [SortedMap.get?_foldl_push (fun edge : CompiledWorkflowEdge => edge.source)
      (fun edge => edge)]
    simp [new]

theorem ReadinessGraph.prepare_lawful (w : DefinitionRef) : (ReadinessGraph.prepare w).Lawful where
  node_eq nodeId := by
    show (SortedMap.get? _ nodeId).bind _ = _
    rw [get?_foldl_insertFirst (fun node : CompiledWorkflowNode × Nat => node.1.id)
      Prod.snd]
    simp only [get?_empty, Option.none_or, Option.bind_map]
    exact find_zipIdx w.graph.nodes fun node => decide (node.id = nodeId)
  incoming_eq nodeId := by
    show ((SortedMap.get? _ nodeId).getD []).filterMap _ = _
    rw [get?_foldl_push (fun edge : CompiledWorkflowEdge × Nat => edge.1.target) Prod.snd]
    exact filterMap_zipIdx w.graph.edges fun edge => decide (edge.target = nodeId)
  outgoing_eq nodeId := by
    show ((SortedMap.get? _ nodeId).getD []).filterMap _ = _
    rw [get?_foldl_push (fun edge : CompiledWorkflowEdge × Nat => edge.1.source) Prod.snd]
    exact filterMap_zipIdx w.graph.edges fun edge => decide (edge.source = nodeId)

/-- The lookup returns the last attempt of each node. -/
def LatestAttempts.Lawful (latest : LatestAttempts) (p : RunProjection) : Prop :=
  ∀ nodeId, latest.get nodeId = p.latestAttempt nodeId

theorem LatestAttempts.new_lawful (p : RunProjection) : (LatestAttempts.new p).Lawful p := by
  intro nodeId
  show SortedMap.get? _ nodeId = _
  rw [get?_foldl_insert (fun attempt : AttemptProjection =>
    attempt.identity.nodeId) (fun attempt => attempt)]
  simp [RunProjection.latestAttempt]

/-- The active edges into a node. -/
theorem Reference.incoming_get? (w : CompiledWorkflowDefinition) (p : RunProjection)
    (a : List String) (id : String) :
    ((Reference.incoming w p a).get? id).getD [] =
      w.graph.edges.filter fun edge =>
        decide (edge.target = id) && (edge.source ∈ a && edgeIsActive edge p) := by
  unfold Reference.incoming
  rw [get?_foldl_push (fun edge : CompiledWorkflowEdge => edge.target) (fun edge => edge),
    get?_foldl_insert CompiledWorkflowNode.id (fun _ => [])]
  simp only [get?_empty, Option.or_none, List.map_id_fun', id_eq, List.filter_filter]
  have hn : ((w : Option CompiledWorkflowNode) →
      (w.map fun _ => ([] : List CompiledWorkflowEdge)).getD [] = []) := by
    intro w; cases w <;> rfl
  rw [hn, List.nil_append]

/-! ## The computation -/

namespace ReadinessGraph

section
variable {g : ReadinessGraph} (hg : g.Lawful) (p : RunProjection)
include hg

theorem complete_eq (fuel : Nat) (node : CompiledWorkflowNode) :
    g.complete p fuel node = Reference.nodeIsComplete g.workflow.toCompiledWorkflowDefinition p
      fuel node := by
  unfold complete
  induction fuel generalizing node with
  | zero => rfl
  | succ fuel ih =>
    have hf : ∀ s, (g.incoming node.id).find? (entersJoin s node.id) =
          g.workflow.graph.edges.find? (entersJoin s node.id) := by
      intro s
      rw [hg.incoming_eq, List.find?_filter]
      congr 1
      funext edge
      by_cases h : edge.target = node.id <;> simp [entersJoin]
    simp only [nodeIsCompleteWithGraph, Reference.nodeIsComplete, Option.elim_some, hf,
      hg.node_eq, ih]
    -- only the approval join differs: it tests the activity of an edge inside the search
    split
    · rfl
    · split
      · rw [hg.incoming_eq, anyM_filter, anyM_filter]
        congr 1
        funext edge
        by_cases h : edge.target = node.id <;> simp [h]
      · rfl

theorem activeNodeIds_eq :
    g.activeNodeIds p = Reference.activeNodeIds g.workflow.toCompiledWorkflowDefinition p := by
  unfold activeNodeIds Reference.activeNodeIds
  congr 1
  funext id
  rw [hg.outgoing_eq, List.filter_filter]
  congr 1
  refine List.filter_congr fun edge _ => ?_
  exact Bool.and_comm _ _

theorem failureCanInactivateMainRoute_eq (failedNodeId : String) :
    g.failureCanInactivateMainRoute failedNodeId =
      Reference.failureCanInactivateMainRoute g.workflow.toCompiledWorkflowDefinition
        failedNodeId := by
  have hr : ∀ branch : CompiledForkBranch, g.branchRegion branch =
      g.workflow.region branch.entryNodeId branch.terminalNodeId := by
    intro branch
    unfold branchRegion region
    congr 1
    funext id
    rw [hg.outgoing_eq]
  unfold failureCanInactivateMainRoute Reference.failureCanInactivateMainRoute
    forkBranchOwner
  simp [hr]

variable {p} {l : LatestAttempts} (hl : l.Lawful p)
include hl

theorem settlementCanDecide_eq :
    g.settlementCanDecide p l =
      Reference.workflowSettlementCanDecide g.workflow.toCompiledWorkflowDefinition p := by
  unfold settlementCanDecide Reference.workflowSettlementCanDecide Reference.isFinalFailure
  simp [hl _, failureCanInactivateMainRoute_eq hg]

theorem candidateIsReady_eq (fuel : Nat) (now : DateTime) (a : List String)
    (node : CompiledWorkflowNode) :
    g.candidateIsReady p fuel now a l node =
      Reference.isReady g.workflow.toCompiledWorkflowDefinition p fuel now a
        (Reference.incoming g.workflow.toCompiledWorkflowDefinition p a) node := by
  have he : ((Reference.incoming g.workflow.toCompiledWorkflowDefinition p a).get?
        node.id).getD [] =
      (g.incoming node.id).filter fun edge => edge.source ∈ a && edgeIsActive edge p := by
    rw [incoming_get?, hg.incoming_eq, List.filter_filter]
    exact List.filter_congr fun edge _ => Bool.and_comm _ _
  unfold candidateIsReady Reference.isReady predecessorsComplete
  rw [he]
  simp [complete_eq hg, settlementCanDecide_eq hg hl, hl _, hg.node_eq]

/-- **The indexed list is the plain scan's list**, or both stop with the same error. -/
theorem scan_eq (fuel : Nat) (now : DateTime) :
    g.scan p fuel now l = Reference.scan g.workflow.toCompiledWorkflowDefinition p fuel now := by
  have hr : g.candidateIsReady p fuel now (g.activeNodeIds p) l =
      Reference.isReady g.workflow.toCompiledWorkflowDefinition p fuel now
        (Reference.activeNodeIds g.workflow.toCompiledWorkflowDefinition p)
        (Reference.incoming g.workflow.toCompiledWorkflowDefinition p
          (Reference.activeNodeIds g.workflow.toCompiledWorkflowDefinition p)) := by
    funext node
    rw [candidateIsReady_eq hg hl, activeNodeIds_eq hg]
  unfold scan Reference.scan
  rw [hr]

end

/-- A list that the scan returns answers for every single node, duplicates included: a node is in
the list when any candidate with its id is ready. -/
theorem scanOne_of_scan {g : ReadinessGraph} {p : RunProjection} {l : LatestAttempts}
    {fuel : Nat} {now : DateTime} {ids : List String} (h : g.scan p fuel now l = .ok ids)
    (ni : String) : g.scanOne p fuel now l ni = .ok (ids.contains ni) := by
  unfold scan at h
  simp only [eq_ok_iff] at h
  obtain ⟨kept, hk, rfl⟩ := h
  have ho := anyM_of_filterChecked (q := fun node => decide (node.id = ni)) hk
  simp only [decide_eq_true_eq] at ho
  unfold scanOne
  rw [ho, List.contains_eq_any_beq, List.any_map]
  congr 2
  funext node
  simp only [Function.comp, Bool.beq_eq_decide_eq, eq_comm]

end ReadinessGraph

/-! ## Errors of the scan

The completion recursion can only run out of fuel, and it does not when the edges into the joins go
up in rank and the fuel exceeds every rank. Both facts are one induction: `E` says whether running
out of fuel is admissible. -/

/-- The two joins whose completion is that of a predecessor. -/
def asksPredecessors (node : CompiledWorkflowNode) : Prop :=
  node.handler = "engine.choice-join" ∨ node.handler = "engine.approval-join"

/-- No chain of joins comes back to where it started. -/
def JoinsAscend (w : CompiledWorkflowDefinition) (rank : String → Nat) : Prop :=
  ∀ node ∈ w.graph.nodes, asksPredecessors node →
    ∀ edge ∈ w.graph.edges, edge.target = node.id → rank edge.source < rank node.id

namespace Reference

section
variable {w : CompiledWorkflowDefinition} {rank : String → Nat} {E : EngineError → Prop}
  (hrank : E .diverged ∨ JoinsAscend w rank) (p : RunProjection)
include hrank

theorem nodeIsComplete_within {fuel : Nat} {node : CompiledWorkflowNode} (hm : node ∈ w.graph.nodes)
    (hfu : E .diverged ∨ rank node.id < fuel) : Within E (nodeIsComplete w p fuel node) := by
  induction fuel generalizing node with
  | zero => exact hfu.resolve_right (by omega)
  | succ fuel ih =>
    have hp : asksPredecessors node → ∀ edge ∈ w.graph.edges, edge.target = node.id →
        ∀ pr, w.node edge.source = some pr →
          Within E (nodeIsComplete w p fuel pr) := by
      intro hj edge he ht pr hn
      have hi : pr.id = edge.source := by simpa using List.find?_some hn
      apply ih (List.mem_of_find?_eq_some hn)
      rcases hfu with h | h
      · exact .inl h
      · rcases hrank with h' | h'
        · exact .inl h'
        · have hlt := h' node hm hj edge he ht
          exact .inr (by rw [hi]; omega)
    simp only [nodeIsComplete]
    split
    · rename_i hj
      split
      · rename_i pr h
        obtain ⟨edge, he, hn⟩ := Option.bind_eq_some_iff.1 h
        obtain ⟨s, -, hf⟩ := Option.bind_eq_some_iff.1 he
        have ht : edge.target = node.id := by
          have := List.find?_some hf
          simp only [entersJoin, Bool.and_eq_true, decide_eq_true_eq] at this
          exact this.1
        exact hp (.inl hj) edge (List.mem_of_find?_eq_some hf) ht pr hn
      · trivial
    · split
      · rename_i hj
        refine anyM_within fun edge he => ?_
        simp only [List.mem_filter, Bool.and_eq_true, decide_eq_true_eq] at he
        split
        · rename_i pr hn
          exact hp (.inr hj) edge he.1 he.2.1 pr hn
        · trivial
      · trivial

theorem isReady_within {fuel : Nat} (hf : ∀ id, E .diverged ∨ rank id < fuel) (now : DateTime)
    (a : List String) (i : SortedMap String (List CompiledWorkflowEdge))
    {node : CompiledWorkflowNode} (hm : node ∈ w.graph.nodes) :
    Within E (isReady w p fuel now a i node) := by
  unfold isReady
  split
  · trivial
  refine (nodeIsComplete_within hrank p hm (hf node.id)).bind fun complete _ => ?_
  split
  · trivial
  split
  · trivial
  split
  · trivial
  · refine allM_within fun edge _ => ?_
    split
    · rename_i pr hn
      exact nodeIsComplete_within hrank p (List.mem_of_find?_eq_some hn) (hf _)
    · trivial

theorem scan_within {fuel : Nat} (hf : ∀ id, E .diverged ∨ rank id < fuel) (now : DateTime) :
    Within E (scan w p fuel now) := by
  exact (filterChecked_within fun node hn => isReady_within hrank p hf now _ _ hn).bind
    fun _ _ => trivial

end

/-- Where the joins go up in rank, fuel beyond every rank lets the scan return. -/
theorem scan_returns {w : CompiledWorkflowDefinition} {rank : String → Nat}
    (hr : JoinsAscend w rank) {fuel : Nat} (hf : ∀ id, rank id < fuel) (p : RunProjection)
    (now : DateTime) : ∃ ids, scan w p fuel now = .ok ids :=
  (scan_within (.inr hr) p (fun id => .inr (hf id)) now).returns

theorem scan_error {w : CompiledWorkflowDefinition} {p : RunProjection} {fuel : Nat}
    {now : DateTime} {e : EngineError} (h : scan w p fuel now = .error e) : e = .diverged := by
  have := @scan_within w (fun _ => 0) (· = .diverged) (.inl rfl) p fuel (fun _ => .inl rfl) now
  rw [h] at this
  exact this

end Reference

/-! ## Agreement -/

/-- The answer for one node that a list of ready nodes gives. Where the list does not come to an
end it gives none. -/
def AnswersFor (nodeId : String) (list : Except EngineError (List String))
    (one : Except EngineError Bool) : Prop :=
  match list with
  | .ok ids => one = .ok (ids.contains nodeId)
  | .error (.message text) => one = .error (.message text)
  | .error .diverged => True

namespace ReadinessGraph

variable {g : ReadinessGraph} (hg : g.Lawful)
include hg

theorem readyAt_eq (p : RunProjection) (fuel : Nat) (ha : String) (now : DateTime) :
    g.readyAt p fuel ha now =
      Reference.readyNodeIdsForProjectionAt g.workflow.toCompiledWorkflowDefinition p fuel ha
        now := by
  unfold readyAt Reference.readyNodeIdsForProjectionAt
  rw [scan_eq hg (LatestAttempts.new_lawful p)]

theorem scanOne_answers {p : RunProjection} {l : LatestAttempts} (hl : l.Lawful p)
    (fuel : Nat) (now : DateTime) (ni : String) :
    AnswersFor ni (Reference.scan g.workflow.toCompiledWorkflowDefinition p fuel now)
      (g.scanOne p fuel now l ni) := by
  cases hs : g.scan p fuel now l with
  | ok ids =>
    rw [← scan_eq hg hl, hs]
    exact scanOne_of_scan hs ni
  | error e =>
    rw [scan_eq hg hl] at hs
    rw [hs, Reference.scan_error hs]
    trivial

theorem isReadyAt_answers (p : RunProjection) (fuel : Nat) (ha : String) (now : DateTime)
    (ni : String) :
    AnswersFor ni
      (Reference.readyNodeIdsForProjectionAt g.workflow.toCompiledWorkflowDefinition p fuel ha
        now) (g.isReadyAt p fuel ha now ni) := by
  unfold Reference.readyNodeIdsForProjectionAt isReadyAt
  cases hb : readinessBinding g.workflow.toCompiledWorkflowDefinition ha p with
  | error e => cases e <;> trivial
  | ok bound =>
    cases bound with
    | false => rfl
    | true => exact scanOne_answers hg (LatestAttempts.new_lawful p) fuel now ni

end ReadinessGraph

/-- **The indexed readiness computations return the plain scan's list.** For every definition and
projection, over the borrowed graph and over the prepared topology, with any fuel for the
completion recursion: the same list in the same order, or the same error; and a query for a single
node answers membership in that list. Where the recursion comes to an end, which it does when the
edges into the joins go up in some rank, enough fuel gives a bound run its list. -/
theorem readiness_indexes_agree (fuel : Nat) (w : DefinitionRef) (hash : String)
    (p : RunProjection) (now : DateTime) :
    let plain := Reference.readyNodeIdsForProjectionAt w.toCompiledWorkflowDefinition p fuel hash
      now
    readyNodeIdsForProjectionAt fuel w hash p now = plain ∧
      ReadinessDefinition.readyAt fuel w hash p now = plain ∧
      (∀ nodeId, AnswersFor nodeId plain ((ReadinessGraph.new w).isReadyAt p fuel hash now nodeId) ∧
        AnswersFor nodeId plain ((ReadinessGraph.prepare w).isReadyAt p fuel hash now nodeId)) ∧
      ∀ rank, JoinsAscend w.toCompiledWorkflowDefinition rank → (∀ id, rank id < fuel) →
        readinessBinding w.toCompiledWorkflowDefinition hash p = .ok true →
        ∃ ids, plain = .ok ids := by
  have hga : ∀ g : ReadinessGraph, g.Lawful → g.workflow = w → (do
        if ← readinessBinding w.toCompiledWorkflowDefinition hash p then
          g.readyAt p fuel hash now
        else .ok []) =
      Reference.readyNodeIdsForProjectionAt w.toCompiledWorkflowDefinition p fuel hash now := by
    rintro g hg rfl
    rw [readyAt_eq hg]
    -- the gate of the entry point is the gate of the scan
    unfold Reference.readyNodeIdsForProjectionAt
    cases hb : readinessBinding g.workflow.toCompiledWorkflowDefinition hash p with
    | error e => rfl
    | ok bound => cases bound <;> rfl
  refine ⟨hga _ (new_lawful w) rfl, hga _ (prepare_lawful w) rfl,
    fun nodeId => ⟨?_, ?_⟩, ?_⟩
  · exact isReadyAt_answers (new_lawful w) p fuel hash now nodeId
  · exact isReadyAt_answers (prepare_lawful w) p fuel hash now nodeId
  · intro rank hrank hf hb
    unfold Reference.readyNodeIdsForProjectionAt
    rw [hb]
    exact scan_returns hrank hf p now

end Woml
