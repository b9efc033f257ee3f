import Woml.Engine.Proof.Frontier

/-!
# The frontier answers like the plain scan

`Frontier.Built` is what a frontier owes to its definition alone: a plain script graph, its ids and
edges as ordinals, and the nodes reachable from the entries. `new_follows` gets it, with the
agreement with the projection, from `Frontier.new`; `scan_of_follows` derives that the plain scan
returns the frontier's list.
-/

namespace Woml

open Checked Reference Worklist SortedMap

theorem forall₂_of_mapM {α β : Type} {f : α → Option β} {l : List α} {l' : List β}
    (h : l.mapM f = some l') : List.Forall₂ (fun a b => f a = some b) l l' := by
  induction l generalizing l' with
  | nil =>
    simp only [List.mapM_nil, Option.pure_def, Option.some.injEq] at h
    exact h ▸ .nil
  | cons a l ih =>
    simp only [List.mapM_cons, Option.bind_eq_bind, Option.bind_eq_some_iff, Option.pure_def,
      Option.some.injEq] at h
    obtain ⟨b, hb, bs, hbs, rfl⟩ := h
    exact .cons hb (ih hbs)

theorem map_eq_of_forall₂ {α β γ : Type} {R : α → β → Prop} {g : α → γ} {g' : β → γ}
    {l : List α} {l' : List β} (h : List.Forall₂ R l l') (hR : ∀ a b, R a b → g' b = g a) :
    l'.map g' = l.map g := by
  induction h with
  | nil => rfl
  | cons ha _ ih => rw [List.map_cons, List.map_cons, ih, hR _ _ ha]

theorem exists_of_forall₂ {α β : Type} {R : α → β → Prop} {l : List α} {l' : List β}
    (h : List.Forall₂ R l l') {b : β} (hb : b ∈ l') : ∃ a ∈ l, R a b := by
  induction h with
  | nil => simp at hb
  | cons hab _ ih =>
    rcases List.mem_cons.1 hb with rfl | hb
    · exact ⟨_, List.mem_cons_self, hab⟩
    · obtain ⟨a, ha, hR⟩ := ih hb
      exact ⟨a, List.mem_cons_of_mem _ ha, hR⟩

/-- The position of an element in a list without duplicates, looked up from the back. -/
theorem find_zipIdx_reverse {α : Type} [DecidableEq α] {l : List α} (hl : l.Nodup) {a : α}
    {i : Nat} :
    (l.zipIdx.reverse.find? fun x => decide (x.1 = a)).map Prod.snd = some i ↔
      l[i]? = some a := by
  have hf : ∀ j, (l.zipIdx.reverse.find? fun x => decide (x.1 = a)).map Prod.snd = some j →
      l[j]? = some a := by
    intro j hj
    obtain ⟨⟨b, k⟩, hx, rfl⟩ := Option.map_eq_some_iff.1 hj
    have hm := List.mem_reverse.1 (List.mem_of_find?_eq_some hx)
    have hb : b = a := by simpa using List.find?_some hx
    exact hb ▸ List.mk_mem_zipIdx_iff_getElem?.1 hm
  refine ⟨hf i, fun h => ?_⟩
  cases hfi : l.zipIdx.reverse.find? fun x => decide (x.1 = a) with
  | none =>
    have hn := List.find?_eq_none.1 hfi (a, i)
      (List.mem_reverse.2 (List.mk_mem_zipIdx_iff_getElem?.2 h))
    simp at hn
  | some x =>
    have hj := hf x.2 (by rw [hfi]; rfl)
    rw [Option.map_some, Option.some.injEq]
    obtain ⟨hlt, hi⟩ := List.getElem?_eq_some_iff.1 h
    obtain ⟨hl', hj'⟩ := List.getElem?_eq_some_iff.1 hj
    exact (hl.getElem_inj_iff).1 (hj'.trans hi.symm)

namespace Frontier

/-- What a frontier owes to its definition. -/
structure Built (f : Frontier) (edges : List (Nat × Nat)) (entries : List Nat) : Prop where
  supported : isSupported f.definition.toCompiledWorkflowDefinition = true
  indexed : f.Indexed edges
  edgeOrdinals : List.Forall₂
    (fun edge e => f.ids.get? edge.source = some e.1 ∧ f.ids.get? edge.target = some e.2)
    f.definition.graph.edges edges
  entryOrdinals : List.Forall₂ (fun id i => f.ids.get? id = some i)
    f.definition.graph.entryNodeIds entries
  active : ∀ i, i < f.definition.graph.nodes.length →
    (f.active.getD i false = true ↔ ∃ b ∈ entries, Worklist.Path edges b i)

/-- The frontier belongs to the definition and agrees with the projection. -/
def Follows (f : Frontier) (w : DefinitionRef) (p : RunProjection) : Prop :=
  f.definition = w ∧ ∃ edges entries, f.Built edges entries ∧ f.Tracks edges p

theorem Built.of_static {f f' : Frontier} {es : List (Nat × Nat)} {entries : List Nat}
    (h : f.Built es entries) (hd : f'.definition = f.definition) (hid : f'.ids = f.ids)
    (hou : f'.outgoing = f.outgoing) (hac : f'.active = f.active) : f'.Built es entries := by
  obtain ⟨hs, ⟨hi, ho⟩, he, hn, ha⟩ := h
  refine ⟨hd ▸ hs, ⟨?_, ?_⟩, ?_, ?_, ?_⟩
  · rw [hid, hd]; exact hi
  · rw [hou, hd]; exact ho
  · rw [hid, hd]; exact he
  · rw [hid, hd]; exact hn
  · rw [hac, hd]; exact ha

variable {w : DefinitionRef} {f : Frontier} {edge : CompiledWorkflowEdge}

theorem Follows.update {f f' : Frontier} {p p' : RunProjection} {l : SortedMap String Nat}
    {c : String} (h : f.Follows w p) (hl : Ordinals l (attemptNodeIds p'.attempts))
    (hs : ∀ id, id ≠ c → nodeState p' id = nodeState p id)
    (hu : f.update c p' l = some f') : f'.Follows w p' := by
  obtain ⟨hw, eds, entries, hbuilt, htracks⟩ := h
  obtain ⟨hd, hi, ho, ha⟩ := update_static hu
  exact ⟨hd.trans hw, eds, entries, hbuilt.of_static hd hi ho ha,
    update_tracks hbuilt.indexed htracks hl hs hu⟩

theorem Follows.congr {p p' : RunProjection} (h : f.Follows w p)
    (hs : ∀ id, nodeState p' id = nodeState p id) : f.Follows w p' := by
  obtain ⟨hw, eds, entries, hbuilt, hcn, hc, hr, he⟩ := h
  refine ⟨hw, eds, entries, hbuilt, hcn, ?_, hr, ?_⟩
  · intro i node hn
    rw [hs]
    exact hc i node hn
  · intro i node hn
    rw [hs]
    exact he i node hn

/-! ## Building -/

theorem ids_ordinals (ns : List CompiledWorkflowNode) :
    Ordinals (ns.zipIdx.foldl (fun ids node => ids.insert node.1.id node.2) .empty)
      (ns.map (·.id)) := by
  intro id
  rw [SortedMap.get?_foldl_insert (fun node : CompiledWorkflowNode × Nat => node.1.id) Prod.snd,
    SortedMap.get?_empty, Option.or_none, List.zipIdx_map, ← List.map_reverse, List.find?_map,
    Option.map_map]
  rfl

/-- What a loop of refreshes leaves: the entries of the nodes it went over. -/
theorem foldl_refresh (h : f.Counted) (p : RunProjection) (la : SortedMap String Nat)
    (l : List Nat) (hl : ∀ i ∈ l, i < f.definition.graph.nodes.length) :
    ∃ eligible retryAt candidates,
      l.foldl (fun f index => f.refresh index p la) f =
        { f with eligible, retryAt, candidates } ∧
      { f with eligible, retryAt, candidates }.Counted ∧
      ∀ i, (eligible.getD i false, retryAt.getD i none) =
        if i ∈ l then f.entry i p la else (f.eligible.getD i false, f.retryAt.getD i none) := by
  induction l generalizing f with
  | nil => exact ⟨f.eligible, f.retryAt, f.candidates, rfl, h, fun i => by simp⟩
  | cons index l ih =>
    obtain ⟨eligible, retryAt, candidates, heq, hc, he⟩ :=
      ih (refresh_counted index p la h) fun i hi => hl i (List.mem_cons_of_mem index hi)
    refine ⟨eligible, retryAt, candidates, heq, hc, fun i => ?_⟩
    rw [he i, refresh_entries h (hl index List.mem_cons_self)]
    -- the entry of a node does not depend on the entries already written
    show (if i ∈ l then f.entry i p la else _) = _
    by_cases hi : i ∈ l
    · simp only [hi, List.mem_cons, or_true, if_true]
    · by_cases hx : i = index
      · subst hx
        simp
      · simp [hx]

theorem getD_range_map {α : Type} (n : Nat) (g : Nat → α) (d : α) {i : Nat} (hi : i < n) :
    ((List.range n).map g).getD i d = g i := by
  simp [hi]

theorem start_counted (w : DefinitionRef) (ids : SortedMap String Nat) (es : List (Nat × Nat))
    (ens : List Nat) (p : RunProjection) : (start w ids es ens p).Counted := by
  refine ⟨by simp [start], by simp [start], by simp [start], by simp [start], by simp [start],
    fun i => ?_⟩
  -- nothing is eligible yet, so the empty candidate set is right
  have hn : (List.replicate w.graph.nodes.length false).getD i false = false := by
    rw [List.getD_eq_getElem?_getD, List.getElem?_replicate]
    split <;> rfl
  show false = (_ && (List.replicate w.graph.nodes.length false).getD i false)
  rw [hn, Bool.and_false]

/-- A map of full size from the ids to their positions has no id twice. -/
theorem ids_get? {ns : List CompiledWorkflowNode} {ids : SortedMap String Nat}
    (hi : ids = ns.zipIdx.foldl (fun ids node => ids.insert node.1.id node.2) .empty)
    (hs : ids.size = ns.length) (id : String) (i : Nat) :
    ids.get? id = some i ↔ (ns[i]?).map (·.id) = some id := by
  have hn : (ns.map (·.id)).Nodup := by
    have := (nodup_of_size_foldl_insert
      (fun node : CompiledWorkflowNode × Nat => node.1.id) Prod.snd ns.zipIdx .empty
      (by rw [← hi, hs, List.length_zipIdx]; exact (Nat.zero_add _).symm)).1
    rwa [show (fun node : CompiledWorkflowNode × Nat => node.1.id) =
      (fun node : CompiledWorkflowNode => node.id) ∘ Prod.fst from rfl, ← List.map_map,
      List.zipIdx_map_fst] at this
  rw [hi, ids_ordinals ns id, find_zipIdx_reverse hn, List.getElem?_map]

variable {p : RunProjection}

/-- **A new frontier follows the projection it was built from.** -/
theorem new_follows {l : SortedMap String Nat} (hl : Ordinals l (attemptNodeIds p.attempts))
    (h : new w p l = some f) : f.Follows w p := by
  simp only [new, Option.bind_eq_bind, Option.bind_eq_some_iff, Option.guard_eq_some',
    Option.some.injEq] at h
  obtain ⟨_, hsupported, _, hs, _, -, edges, heg, _, -, entries, hen, hf⟩ := h
  generalize hid : w.graph.nodes.zipIdx.foldl
    (fun (ids : SortedMap String Nat) node => ids.insert node.1.id node.2) .empty = ids
    at hs heg hen hf
  obtain ⟨eligible, ra, candidates, heq, hcn, hw⟩ :=
    foldl_refresh (start_counted w ids edges entries p) p l
      (List.range w.graph.nodes.length) fun i hi => List.mem_range.1 hi
  rw [heq] at hf
  subst hf
  have hed : List.Forall₂
      (fun edge e => ids.get? edge.source = some e.1 ∧ ids.get? edge.target = some e.2)
      w.graph.edges edges := by
    refine (forall₂_of_mapM heg).imp fun edge e he => ?_
    simp only [Option.bind_eq_some_iff, Option.some.injEq] at he
    obtain ⟨s, hsr, t, ht, rfl⟩ := he
    exact ⟨hsr, ht⟩
  have hc : ∀ i node, w.graph.nodes[i]? = some node →
      (start w ids edges entries p).complete.getD i false = (nodeState p node.id).complete := by
    intro i node hn
    show (w.graph.nodes.map _).getD i false = _
    rw [List.getD_eq_getElem?_getD, List.getElem?_map, hn]
    rfl
  refine ⟨rfl, edges, entries, ⟨hsupported,
    ⟨ids_get? hid.symm hs, fun i hi => getD_range_map _ _ _ hi⟩, hed,
    forall₂_of_mapM hen, fun i hi => ?_⟩,
    ⟨hcn, hc, fun i hi => getD_range_map _ _ _ hi, fun i node hn => ?_⟩⟩
  · replace hi : i < w.graph.nodes.length := hi
    show ((List.range w.graph.nodes.length).map _).getD i false = true ↔ _
    rw [getD_range_map _ _ _ hi, decide_eq_true_eq]
    exact mem_visit (Nat.le_refl _)
  · have hi : i < w.graph.nodes.length := (List.getElem?_eq_some_iff.1 hn).1
    have het := entry_eq (f := start w ids edges entries p) hl hn
    rw [hw i, if_pos (List.mem_range.2 hi), het, hc i node hn]

/-! ## The plain scan on a plain script graph -/

section
variable {w : CompiledWorkflowDefinition} (hsupported : isSupported w = true) {p : RunProjection}
  (hchoices : p.choiceSelections = .empty)
include hsupported

theorem handler_of_supported {node : CompiledWorkflowNode} (h : node ∈ w.graph.nodes) :
    node.handler = "runtime.script" := by
  simp only [isSupported, Bool.and_eq_true, List.all_eq_true, decide_eq_true_eq] at hsupported
  exact (hsupported.1.2 node h).1

theorem nodeIsComplete_of_supported (fuel : Nat) {node : CompiledWorkflowNode}
    (h : node ∈ w.graph.nodes) :
    nodeIsComplete w p (fuel + 1) node = .ok (p.context.steps.containsKey node.id) := by
  have hh := handler_of_supported hsupported h
  simp [nodeIsComplete, localCompletion, hh]

include hchoices

theorem edgeIsActive_of_supported (h : edge ∈ w.graph.edges) : edgeIsActive edge p = true := by
  simp only [isSupported, Bool.and_eq_true, List.all_eq_true, Bool.not_eq_true',
    Option.isNone_iff_eq_none] at hsupported
  obtain ⟨⟨⟨⟨-, hb⟩, -⟩, ha⟩, hc⟩ := hsupported.2 edge h
  have har : isChoiceArmId edge.id = false := by rw [isChoiceArmId, hc, Bool.false_and]
  unfold edgeIsActive
  rw [ha, hchoices, hb]
  show (if isChoiceArmId edge.id = true then false else true) = true
  rw [har]
  rfl

theorem mem_activeNodeIds_of_supported {id : String} :
    id ∈ Reference.activeNodeIds w p ↔
      ∃ b ∈ w.graph.entryNodeIds,
        Worklist.Path (w.graph.edges.map fun edge => (edge.source, edge.target)) b id := by
  have hn : (fun id => (w.graph.edges.filter fun edge =>
        edge.source = id && edgeIsActive edge p).map (·.target)) =
      successors (w.graph.edges.map fun edge => (edge.source, edge.target)) := by
    funext id
    unfold successors
    rw [List.filter_map, List.map_map]
    refine congrArg (List.map _) (List.filter_congr fun edge he => ?_)
    rw [edgeIsActive_of_supported hsupported hchoices he, Bool.and_true]
    rfl
  unfold Reference.activeNodeIds
  rw [hn]
  exact mem_visit (by rw [List.length_map])

end

section
variable {f : Frontier} {w : DefinitionRef} {p : RunProjection} {es : List (Nat × Nat)}
  {ens : List Nat} (hbuilt : f.Built es ens) (htracks : f.Tracks es p)

/-- The id at a position, as the frontier reads it. -/
def idAt (f : Frontier) (i : Nat) : String := (f.definition.graph.nodes[i]?).elim "" (·.id)

include hbuilt

variable {i : Nat}

theorem get?_ids {id : String} (h : f.ids.get? id = some i) :
    i < f.definition.graph.nodes.length ∧ f.idAt i = id := by
  obtain ⟨node, hn, hi⟩ := Option.map_eq_some_iff.1 ((hbuilt.indexed.ids id i).1 h)
  refine ⟨(List.getElem?_eq_some_iff.1 hn).1, ?_⟩
  rw [idAt, hn]
  exact hi

theorem idAt_inj {i j : Nat} (hi : i < f.definition.graph.nodes.length)
    (hj : j < f.definition.graph.nodes.length) (h : f.idAt i = f.idAt j) : i = j := by
  have hid : ∀ k, k < f.definition.graph.nodes.length → f.ids.get? (f.idAt k) = some k := by
    intro k hk
    rw [hbuilt.indexed.ids, idAt, List.getElem?_eq_getElem hk]
    rfl
  have he := hid i hi
  rw [h, hid j hj] at he
  exact (Option.some.inj he).symm

theorem edges_map : es.map (Prod.map f.idAt f.idAt) =
    f.definition.graph.edges.map fun edge => (edge.source, edge.target) := by
  refine map_eq_of_forall₂ hbuilt.edgeOrdinals fun edge e h => ?_
  rw [Prod.map, (get?_ids hbuilt h.1).2, (get?_ids hbuilt h.2).2]

theorem entries_map : ens.map f.idAt = f.definition.graph.entryNodeIds := by
  rw [← List.map_id f.definition.graph.entryNodeIds]
  exact map_eq_of_forall₂ hbuilt.entryOrdinals fun id i h => (get?_ids hbuilt h).2

theorem edges_lt {e : Nat × Nat} (he : e ∈ es) :
    e.1 < f.definition.graph.nodes.length ∧ e.2 < f.definition.graph.nodes.length := by
  obtain ⟨edge, -, hs, ht⟩ := exists_of_forall₂ hbuilt.edgeOrdinals he
  exact ⟨(get?_ids hbuilt hs).1, (get?_ids hbuilt ht).1⟩

/-- An edge of the definition, by ordinals. -/
theorem edge_iff {b i : Nat} (hb : b < f.definition.graph.nodes.length)
    (hi : i < f.definition.graph.nodes.length) :
    (b, i) ∈ es ↔
      ∃ edge ∈ f.definition.graph.edges, edge.source = f.idAt b ∧ edge.target = f.idAt i := by
  have hma := edges_map hbuilt
  constructor
  · intro h
    have hm : (f.idAt b, f.idAt i) ∈ es.map (Prod.map f.idAt f.idAt) :=
      List.mem_map.2 ⟨(b, i), h, rfl⟩
    rw [hma] at hm
    obtain ⟨edge, hed, heq⟩ := List.mem_map.1 hm
    exact ⟨edge, hed, (Prod.mk.inj heq).1, (Prod.mk.inj heq).2⟩
  · rintro ⟨edge, hed, hs, ht⟩
    have hm : (f.idAt b, f.idAt i) ∈ f.definition.graph.edges.map fun edge =>
        (edge.source, edge.target) := List.mem_map.2 ⟨edge, hed, by rw [hs, ht]⟩
    rw [← hma] at hm
    obtain ⟨e, he, heq⟩ := List.mem_map.1 hm
    obtain ⟨h1, h2⟩ := Prod.mk.inj heq
    obtain ⟨hl1, hl2⟩ := edges_lt hbuilt he
    rw [← idAt_inj hbuilt hl1 hb h1, ← idAt_inj hbuilt hl2 hi h2]
    exact he

theorem source_node (h : edge ∈ f.definition.graph.edges) :
    ∃ b, b < f.definition.graph.nodes.length ∧ f.idAt b = edge.source := by
  have hm : (edge.source, edge.target) ∈ f.definition.graph.edges.map fun edge =>
    (edge.source, edge.target) := List.mem_map.2 ⟨edge, h, rfl⟩
  rw [← edges_map hbuilt] at hm
  obtain ⟨e, he, heq⟩ := List.mem_map.1 hm
  exact ⟨e.1, (edges_lt hbuilt he).1, (Prod.mk.inj heq).1⟩

/-- The completion that the scan asks of a predecessor. -/
theorem predecessor_complete (fuel : Nat) (h : edge ∈ f.definition.graph.edges) :
    (match f.definition.node edge.source with
      | some pr =>
        nodeIsComplete f.definition.toCompiledWorkflowDefinition p (fuel + 1) pr
      | none => .ok false) = .ok (p.context.steps.containsKey edge.source) := by
  obtain ⟨b, hb, hi⟩ := source_node hbuilt h
  cases hf : f.definition.node edge.source with
  | none =>
    have hno := List.find?_eq_none.1 hf _ (List.getElem_mem hb)
    rw [idAt, List.getElem?_eq_getElem hb, Option.elim_some] at hi
    simp [hi] at hno
  | some node =>
    have hn : node.id = edge.source := by simpa using List.find?_some hf
    rw [← hn]
    exact nodeIsComplete_of_supported hbuilt.supported fuel (List.mem_of_find?_eq_some hf)

variable (hchoices : p.choiceSelections = .empty)
include hchoices

theorem active_iff (hi : i < f.definition.graph.nodes.length) :
    f.idAt i ∈ Reference.activeNodeIds f.definition.toCompiledWorkflowDefinition p ↔
      f.active.getD i false = true := by
  rw [mem_activeNodeIds_of_supported hbuilt.supported hchoices, hbuilt.active i hi,
    ← edges_map hbuilt, ← entries_map hbuilt]
  have hpa : ∀ b ∈ ens, Worklist.Path (es.map (Prod.map f.idAt f.idAt)) (f.idAt b)
      (f.idAt i) ↔ Worklist.Path es b i := by
    intro b hb
    obtain ⟨id, -, hid⟩ := exists_of_forall₂ hbuilt.entryOrdinals hb
    rw [path_map_iff
      (fun e he => edges_lt hbuilt he) (fun _ _ => idAt_inj hbuilt) (get?_ids hbuilt hid).1]
    constructor
    · rintro ⟨c, hc, heq, hpa⟩
      exact idAt_inj hbuilt hc hi heq ▸ hpa
    · intro hpa
      exact ⟨i, hi, rfl, hpa⟩
  constructor
  · rintro ⟨id, hid, hp⟩
    obtain ⟨b, hb, rfl⟩ := List.mem_map.1 hid
    exact ⟨b, hb, (hpa b hb).1 hp⟩
  · rintro ⟨b, hb, hp⟩
    exact ⟨f.idAt b, List.mem_map_of_mem hb, (hpa b hb).2 hp⟩

include htracks

omit hbuilt hchoices in
theorem complete_at (hi : i < f.definition.graph.nodes.length) :
    f.complete.getD i false = p.context.steps.containsKey (f.idAt i) := by
  have hn := List.getElem?_eq_getElem hi
  rw [htracks.complete i _ hn, idAt, hn]
  rfl

/-- All active predecessors of a node are complete when its counter is zero. -/
theorem predecessorsComplete_eq (fuel : Nat) (hi : i < f.definition.graph.nodes.length) :
    predecessorsComplete f.definition.toCompiledWorkflowDefinition p (fuel + 1)
      (f.definition.graph.edges.filter fun edge => decide (edge.target = f.idAt i) &&
        (edge.source ∈ Reference.activeNodeIds f.definition.toCompiledWorkflowDefinition p &&
          edgeIsActive edge p)) =
      .ok (decide (f.remaining.getD i 0 = 0)) := by
  refine (allM_of_ok fun edge he =>
    predecessor_complete hbuilt fuel (List.mem_filter.1 he).1).trans ?_
  refine congrArg Except.ok (Bool.eq_iff_iff.2 ?_)
  rw [decide_eq_true_eq, htracks.remaining i hi, blockers_eq_zero, List.all_eq_true]
  simp only [List.mem_filter, Bool.and_eq_true, decide_eq_true_eq]
  constructor
  · intro h b hb
    have hbn := (edges_lt hbuilt hb).1
    obtain ⟨edge, he, hs, ht⟩ := (edge_iff hbuilt hbn hi).1 hb
    cases ha : f.active.getD b false with
    | false => simp only [blocks, ha, Bool.false_and]
    | true =>
      have hd := h edge ⟨he, ht, hs ▸ (active_iff hbuilt hchoices hbn).2 ha,
        edgeIsActive_of_supported hbuilt.supported hchoices he⟩
      rw [blocks, complete_at htracks hbn, ← hs, hd]
      exact Bool.and_false _
  · rintro h edge ⟨he, ht, ha, -⟩
    obtain ⟨b, hbn, hs⟩ := source_node hbuilt he
    have hbl := h b ((edge_iff hbuilt hbn hi).2 ⟨edge, he, hs.symm, ht⟩)
    rw [← hs] at ha ⊢
    rw [blocks, (active_iff hbuilt hchoices hbn).1 ha, complete_at htracks hbn] at hbl
    simpa using hbl

omit hbuilt htracks hchoices in
/-- The clock test of the frontier is the attempt test of the scan. -/
theorem eligibility_allows (l : Option AttemptProjection)
    (r : Option RetryScheduleProjection) (now : DateTime) :
    attemptAllows l r now =
      ((eligibility false (l.map (·.status)) r).1 &&
        (eligibility false (l.map (·.status)) r).2.all (· ≤ now)) := by
  cases l with
  | none => rfl
  | some attempt =>
    cases hs : attempt.status <;>
      simp [attemptAllows, eligibility, hs, AttemptStatus.isFailed]
    cases r <;> simp

/-- **One candidate.** -/
theorem isReady_eq (fuel : Nat) (now : DateTime) {node : CompiledWorkflowNode}
    (hn : f.definition.graph.nodes[i]? = some node) :
    Reference.isReady f.definition.toCompiledWorkflowDefinition p (fuel + 1) now
        (Reference.activeNodeIds f.definition.toCompiledWorkflowDefinition p)
        (Reference.incoming f.definition.toCompiledWorkflowDefinition p
          (Reference.activeNodeIds f.definition.toCompiledWorkflowDefinition p)) node =
      .ok (f.candidates.contains i && f.due i now) := by
  have hi : i < f.definition.graph.nodes.length := (List.getElem?_eq_some_iff.1 hn).1
  have hm : node ∈ f.definition.graph.nodes := List.mem_of_getElem? hn
  have hid : f.idAt i = node.id := by rw [idAt, hn]; rfl
  have hac := active_iff hbuilt hchoices hi
  have hs : ¬(node.handler = "engine.workflow-settlement" ∧
      (!workflowSettlementCanDecide f.definition.toCompiledWorkflowDefinition p) =
        true) := by
    rintro ⟨h, -⟩
    rw [handler_of_supported hbuilt.supported hm] at h
    exact absurd h (by decide)
  rw [hid] at hac
  unfold Reference.isReady
  rw [htracks.counted.candidates i, isCandidate, incoming_get?,
    nodeIsComplete_of_supported hbuilt.supported fuel hm]
  simp only [ok_bind, if_neg hs]
  by_cases ha : node.id ∈ Reference.activeNodeIds f.definition.toCompiledWorkflowDefinition p
  · rw [if_neg (not_not_intro ha), hac.1 ha]
    have he := htracks.entries i node hn
    cases hc : p.context.steps.containsKey node.id with
    | true =>
      have hel : f.eligible.getD i false = false := by
        have := congrArg Prod.fst he
        simpa [nodeState, eligibility, hc] using this
      rw [hel, if_pos rfl, Bool.and_false, Bool.false_and]
    | false =>
      simp only [nodeState, hc] at he
      have hal : attemptAllows (p.latestAttempt node.id)
          (p.pendingRetries.get? node.id) now = (f.eligible.getD i false && f.due i now) := by
        rw [eligibility_allows, ← he]
        rfl
      rw [hal, if_neg Bool.false_ne_true, ← hid,
        predecessorsComplete_eq hbuilt htracks hchoices fuel hi, Bool.and_assoc]
      cases f.eligible.getD i false && f.due i now with
      | false => rw [Bool.and_false]; rfl
      | true => rw [Bool.and_true]; rfl
  · have hin : f.active.getD i false = false := by
      rw [← Bool.not_eq_true]
      exact fun h => ha (hac.2 h)
    rw [if_pos ha, hin, Bool.false_and, Bool.false_and, Bool.false_and]

omit hbuilt hchoices in
/-- The candidates that are due, in the order of the nodes. -/
theorem keys_filter_eq (now : DateTime) :
    (f.candidates.keys.filter fun i => f.due i now) =
      (List.range f.definition.graph.nodes.length).filter fun i =>
        f.candidates.contains i && f.due i now := by
  have hk : f.candidates.keys =
      (List.range f.definition.graph.nodes.length).filter f.candidates.contains := by
    have hs : ((List.range f.definition.graph.nodes.length).filter
        f.candidates.contains).Pairwise (· < ·) := List.pairwise_lt_range.filter _
    refine List.Perm.eq_of_pairwise (fun a b _ _ h1 h2 => absurd h1 (Nat.lt_asymm h2))
      f.candidates.keys_sorted hs ?_
    refine (List.perm_ext_iff_of_nodup (f.candidates.keys_sorted.imp (fun h => by omega))
      (hs.imp (fun h => by omega))).2 fun i => ?_
    rw [mem_keys_iff_contains, List.mem_filter, List.mem_range]
    refine ⟨fun h => ⟨?_, h⟩, fun h => h.2⟩
    rw [htracks.counted.candidates i, isCandidate, Bool.and_eq_true, Bool.and_eq_true] at h
    exact htracks.counted.lt_of_active h.1.1
  rw [hk, List.filter_filter]
  exact List.filter_congr fun i _ => Bool.and_comm _ _

omit hbuilt htracks hchoices in
/-- Filtering the nodes by position. -/
theorem map_filter_nodes {q : CompiledWorkflowNode → Bool} {q' : Nat → Bool}
    (h : ∀ i node, f.definition.graph.nodes[i]? = some node → q node = q' i) :
    (f.definition.graph.nodes.filter q).map (·.id) =
      ((List.range f.definition.graph.nodes.length).filter q').map f.idAt := by
  have hz : ∀ x ∈ f.definition.graph.nodes.zipIdx, f.definition.graph.nodes[x.2]? = some x.1 :=
    fun x hx => List.mk_mem_zipIdx_iff_getElem?.1 hx
  calc (f.definition.graph.nodes.filter q).map (·.id)
      = ((f.definition.graph.nodes.zipIdx.map Prod.fst).filter q).map (·.id) := by
        rw [List.zipIdx_map_fst]
    _ = (f.definition.graph.nodes.zipIdx.filter fun x => q' x.2).map (fun x => x.1.id) := by
        rw [List.filter_map, List.map_map]
        refine congrArg (List.map _) (List.filter_congr fun x hx => h x.2 x.1 (hz x hx))
    _ = (f.definition.graph.nodes.zipIdx.filter fun x => q' x.2).map (fun x => f.idAt x.2) := by
        refine List.map_congr_left fun x hx => ?_
        rw [idAt, hz x (List.mem_filter.1 hx).1]
        rfl
    _ = ((f.definition.graph.nodes.zipIdx.map Prod.snd).filter q').map f.idAt := by
        rw [List.filter_map, List.map_map]
        rfl
    _ = _ := by rw [List.zipIdx_map_snd, List.range_eq_range']

end

/-- **The plain scan returns the frontier's list.** -/
theorem scan_of_follows (h : f.Follows w p)
    (hc : p.choiceSelections = .empty) (fuel : Nat) (now : DateTime) :
    Reference.scan w.toCompiledWorkflowDefinition p (fuel + 1) now = .ok (f.readyAt now) := by
  obtain ⟨rfl, eds, entries, hbuilt, htracks⟩ := h
  have hr := fun i node hn =>
    @isReady_eq f p eds entries hbuilt htracks i hc fuel now node hn
  -- the scan's test of a node, read off its answer
  let q : CompiledWorkflowNode → Bool := fun node =>
    decide (Reference.isReady f.definition.toCompiledWorkflowDefinition p (fuel + 1) now
      (Reference.activeNodeIds f.definition.toCompiledWorkflowDefinition p)
      (Reference.incoming f.definition.toCompiledWorkflowDefinition p
        (Reference.activeNodeIds f.definition.toCompiledWorkflowDefinition p)) node = .ok true)
  have hq : ∀ i node, f.definition.graph.nodes[i]? = some node →
      q node = (f.candidates.contains i && f.due i now) := by
    intro i node hn
    simp only [q, hr i node hn]
    cases f.candidates.contains i && f.due i now <;> simp
  unfold Reference.scan
  simp only
  rw [filterChecked_of_ok fun node hn => ?_]
  · rw [ok_bind, readyAt, keys_filter_eq htracks, map_filter_nodes hq]
    rfl
  · obtain ⟨i, hi, rfl⟩ := List.getElem_of_mem hn
    have hn' := List.getElem?_eq_getElem hi
    rw [hr i _ hn', hq i _ hn']

theorem contains_of_follows (h : f.Follows w p) (id : String) (now : DateTime) :
    f.contains id now = (f.readyAt now).contains id := by
  obtain ⟨rfl, eds, entries, hbuilt, htracks⟩ := h
  rw [Bool.eq_iff_iff, List.contains_iff_mem, readyAt, List.mem_map]
  simp only [contains, Option.any_eq_true, Bool.and_eq_true, List.mem_filter,
    mem_keys_iff_contains]
  constructor
  · rintro ⟨i, his, hr⟩
    exact ⟨i, hr, (get?_ids hbuilt his).2⟩
  · rintro ⟨i, hr, hid⟩
    refine ⟨i, ?_, hr⟩
    have ha := htracks.counted.candidates i
    rw [hr.1, isCandidate, eq_comm, Bool.and_eq_true, Bool.and_eq_true] at ha
    have hi := htracks.counted.lt_of_active ha.1.1
    rw [hbuilt.indexed.ids, ← hid, List.getElem?_eq_getElem hi]
    rfl

end Frontier

end Woml
