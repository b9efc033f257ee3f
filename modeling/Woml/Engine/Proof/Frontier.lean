import Woml.Engine.Prefix
import Woml.Engine.Proof.Readiness
import Woml.Projection.Proof.Attempts

/-!
# The frontier follows the fold

What readiness of a plain script graph reads of a projection is one `NodeState` per node: whether
it published an output, the status of its latest attempt, its pending retry. An event that the
frontier supports changes the state of the node it names and of no other (`apply_nodeState`).

* `Ordinals`: the cursor's map of latest attempts; `extendLatest` keeps it.
* `Frontier.Counted`: the counters and the candidate set agree with each other; `refresh` and
  `discount` keep it.
* `Frontier.Tracks`: the frontier agrees with a projection. `new_tracks` builds it, `update_tracks`
  keeps it across one event.
-/

namespace Woml

open Checked Worklist

/-! ## Latest attempts -/

/-- The map holds, per node, the last position at which the list of node ids names it. -/
def Ordinals (latest : SortedMap String Nat) (ids : List String) : Prop :=
  ∀ id, latest.get? id = (ids.zipIdx.reverse.find? fun x => decide (x.1 = id)).map Prod.snd

def attemptNodeIds (attempts : List AttemptProjection) : List String :=
  attempts.map (·.identity.nodeId)

variable {latest : SortedMap String Nat}

theorem extendLatest_ordinals {ids e : List String} {ats : List AttemptProjection}
    (h : Ordinals latest ids) (hi : attemptNodeIds ats = ids ++ e) :
    Ordinals (HistoryPrefix.extendLatest latest ats ids.length) (ids ++ e) := by
  intro id
  have hd : (ats.zipIdx.drop ids.length).map (fun x => (x.1.identity.nodeId, x.2)) =
      e.zipIdx ids.length := by
    have hm : ats.zipIdx.map (fun x => (x.1.identity.nodeId, x.2)) = (ids ++ e).zipIdx := by
      rw [← hi, attemptNodeIds, List.zipIdx_map]
      rfl
    rw [List.map_drop, hm, List.zipIdx_append, List.drop_left' (by simp), Nat.zero_add]
  have hf : HistoryPrefix.extendLatest latest ats ids.length =
      (e.zipIdx ids.length).foldl (fun latest x => latest.insert x.1 x.2) latest := by
    rw [← hd, List.foldl_map]
    rfl
  rw [hf, SortedMap.get?_foldl_insert (fun x : String × Nat => x.1) Prod.snd, h id,
    List.zipIdx_append, List.reverse_append, List.find?_append, Nat.zero_add, Option.map_or]

theorem latestOrdinals_ordinals (p : RunProjection) :
    Ordinals (HistoryPrefix.latestOrdinals p) (attemptNodeIds p.attempts) :=
  @extendLatest_ordinals .empty [] _ p.attempts (fun _ => rfl) rfl

variable {p : RunProjection}

theorem Ordinals.bind_eq (h : Ordinals latest (attemptNodeIds p.attempts)) (id : String) :
    ((latest.get? id).bind fun i => p.attempts[i]?) = p.latestAttempt id := by
  have hz : (attemptNodeIds p.attempts).zipIdx.reverse =
      p.attempts.zipIdx.reverse.map fun x => (x.1.identity.nodeId, x.2) := by
    rw [attemptNodeIds, List.zipIdx_map, List.map_reverse]
    rfl
  have hr : p.attempts.reverse = p.attempts.zipIdx.reverse.map Prod.fst := by
    rw [List.map_reverse, List.zipIdx_map_fst]
  rw [h id, hz, List.find?_map, RunProjection.latestAttempt, hr, List.find?_map]
  simp only [Function.comp_def]
  cases hf : p.attempts.zipIdx.reverse.find?
      fun x => decide (x.1.identity.nodeId = id) with
  | none => rfl
  | some x =>
    have hm := List.mem_reverse.1 (List.mem_of_find?_eq_some hf)
    exact List.mk_mem_zipIdx_iff_getElem?.1 hm

theorem Ordinals.lawful (h : Ordinals latest (attemptNodeIds p.attempts)) :
    (LatestAttempts.prefixed p (some latest)).Lawful p :=
  h.bind_eq

/-! ## What an event changes -/

/-- What readiness reads of one node of a plain script graph. -/
structure NodeState where
  complete : Bool
  status : Option AttemptStatus
  retry : Option RetryScheduleProjection

def nodeState (p : RunProjection) (id : String) : NodeState where
  complete := p.context.steps.containsKey id
  status := (p.latestAttempt id).map (·.status)
  retry := p.pendingRetries.get? id

section
variable [Host] {event : RunEvent} {changed : Option String}
open ProjectionFoldState

omit [Host] in
theorem attemptNode_of_changedNode (h : changedNode event = some changed) :
    event.iteration = none ∧ attemptNode event = changed := by
  unfold changedNode at h
  split at h
  · cases h
  · rename_i hn
    refine ⟨Option.not_isSome_iff_eq_none.1 hn, ?_⟩
    rw [attemptNode, if_neg hn]
    cases hp : event.payload <;> rw [hp] at h <;> cases h <;> rfl

/-- **A supported event changes the node that it names and no other.** -/
theorem apply_nodeState {es : List RunEvent} {s s' : ProjectionFoldState}
    (hs : ProjectionFoldState.Bookkeeping es s) (h : s.apply event = .ok s')
    (hc : changedNode event = some changed) {id : String} (hi : changed ≠ some id) :
    nodeState s'.projection id = nodeState s.projection id := by
  obtain ⟨ht, hn⟩ := attemptNode_of_changedNode hc
  have hst : s'.projection.context.steps.containsKey id =
      s.projection.context.steps.containsKey id := by
    obtain ⟨p, hp, rfl⟩ := (apply_top_eq_ok (apply_eq_ok.1 h).1 ht).1 h
    by_cases hct : Slice.context ∈ touched event
    · cases hpa : event.payload with
      | runStarted data =>
        simp only [applyPayload, hpa, applyRunStarted, eq_ok_iff] at hp
        obtain ⟨_, -, rfl⟩ := hp
        rfl
      | stepAttemptSucceeded data =>
        simp only [applyPayload, hpa, applyStepAttemptSucceeded, eq_ok_iff] at hp
        obtain ⟨_, -, _, -, _, -, rfl⟩ := hp
        have hne : id ≠ data.nodeId := by
          rintro rfl
          exact hi (by simpa [changedNode, ht, hpa] using hc.symm)
        show (s.projection.context.steps.insert data.nodeId data.output).containsKey id = _
        rw [JsonMap.containsKey_insert]
        simp [hne]
      | _ => simp_all [changedNode, touched, isIterationScoped, footprint]
    · rw [show _ = _ from apply_keeps h .context hct]
  cases apply_attemptStep hs h id with
  | kept _ attempts retries =>
    have hr : s'.projection.pendingRetries.get? id = s.projection.pendingRetries.get? id := by
      rcases retries with hsa | ⟨-, -, data, hpa⟩
      · exact hsa
      · simp [changedNode, hpa] at hc
    simp [nodeState, hst, hr, RunProjection.latestAttempt_eq, attempts]
  | started concerns | settled concerns | scheduled concerns =>
    exact absurd (hn.symm.trans concerns) hi

theorem apply_choiceSelections {s s' : ProjectionFoldState} (h : s.apply event = .ok s')
    (hc : changedNode event = some changed) :
    s'.projection.choiceSelections = s.projection.choiceSelections := by
  have hs : Slice.selections ∉ touched event := by
    cases hp : event.payload <;>
      simp_all [changedNode, touched, isIterationScoped, footprint]
  exact (Prod.mk.inj (apply_keeps h .selections hs)).2

end

/-! ## Counters and candidates -/

theorem getD_set {α : Type} (l : List α) (i j : Nat) (a d : α) :
    (l.set i a).getD j d = if i = j ∧ i < l.length then a else l.getD j d := by
  by_cases hij : i = j
  · subst hij
    by_cases hi : i < l.length <;> simp [hi]
  · simp [hij]

namespace Frontier

/-- The frontier's own test of a candidate. -/
def isCandidate (f : Frontier) (i : Nat) : Bool :=
  f.active.getD i false && decide (f.remaining.getD i 0 = 0) && f.eligible.getD i false

/-- The vectors have one entry per node and the candidate set is what they say. -/
structure Counted (f : Frontier) : Prop where
  active : f.active.length = f.definition.graph.nodes.length
  complete : f.complete.length = f.definition.graph.nodes.length
  remaining : f.remaining.length = f.definition.graph.nodes.length
  eligible : f.eligible.length = f.definition.graph.nodes.length
  retryAt : f.retryAt.length = f.definition.graph.nodes.length
  candidates : ∀ i, f.candidates.contains i = f.isCandidate i

variable {f : Frontier} {edges : List (Nat × Nat)}

theorem Counted.lt_of_active (h : f.Counted) {i : Nat} (hi : f.active.getD i false = true) :
    i < f.definition.graph.nodes.length := by
  by_contra hg
  have hl := h.active
  rw [List.getD_eq_getElem?_getD, List.getElem?_eq_none (by omega)] at hi
  cases hi

section
variable (f : Frontier) (index : Nat) (p : RunProjection) (latest : SortedMap String Nat)

/-- What `refresh` writes for a node. -/
def entry (f : Frontier) (index : Nat) (p : RunProjection) (latest : SortedMap String Nat) :
    Bool × Option DateTime :=
  let id := (f.definition.graph.nodes[index]?).elim "" (·.id)
  eligibility (f.complete.getD index false)
    ((latest.get? id).bind fun i => (p.attempts[i]?).map (·.status)) (p.pendingRetries.get? id)

theorem refresh_eligible :
    (f.refresh index p latest).eligible = f.eligible.set index (f.entry index p latest).1 := rfl

theorem refresh_retryAt :
    (f.refresh index p latest).retryAt = f.retryAt.set index (f.entry index p latest).2 := rfl

theorem refresh_candidates :
    (f.refresh index p latest).candidates =
      if f.active.getD index false ∧ f.remaining.getD index 0 = 0 ∧
          (f.entry index p latest).1 then
        f.candidates.insert index ()
      else f.candidates.erase index := rfl

variable {f}

theorem refresh_counted (h : f.Counted) : (f.refresh index p latest).Counted := by
  refine ⟨h.active, h.complete, h.remaining, ?_, ?_, ?_⟩
  · rw [refresh_eligible, List.length_set]
    exact h.eligible
  · rw [refresh_retryAt, List.length_set]
    exact h.retryAt
  · intro i
    have ho := h.candidates i
    unfold isCandidate at ho ⊢
    rw [refresh_candidates, refresh_eligible, getD_set, h.eligible]
    show _ = (f.active.getD i false && decide (f.remaining.getD i 0 = 0) && _)
    by_cases hi : i = index
    · subst hi
      -- an active node has a place in the vectors
      by_cases ha : f.active.getD i false = true
      · have hl := h.lt_of_active ha
        by_cases hr : f.remaining.getD i 0 = 0 <;>
          cases he : (f.entry i p latest).1 <;>
          simp only [ha, hr, hl, and_true, and_false, if_true, if_false, Bool.false_eq_true,
            SortedMap.contains_insert, SortedMap.contains_erase] <;>
          simp
      · simp only [ha, Bool.false_eq_true, false_and, if_false, SortedMap.contains_erase]
        simp
    · have hn : ¬(index = i ∧ index < f.definition.graph.nodes.length) := fun hc => hi hc.1.symm
      split
      · rw [SortedMap.contains_insert, ho]
        simp [hi]
      · rw [SortedMap.contains_erase, ho]
        simp [hi]

theorem discount_counted (h : f.Counted) (next : Nat) : (f.discount next).Counted := by
  refine ⟨h.active, h.complete, ?_, h.eligible, h.retryAt, ?_⟩
  · show (f.remaining.set next _).length = _
    rw [List.length_set]
    exact h.remaining
  · intro i
    have ho := h.candidates i
    unfold isCandidate at ho ⊢
    show (if f.remaining.getD next 0 - 1 = 0 ∧ f.active.getD next false ∧ f.eligible.getD next false
        then f.candidates.insert next () else f.candidates).contains i =
      (f.active.getD i false &&
        decide ((f.remaining.set next (f.remaining.getD next 0 - 1)).getD i 0 = 0) &&
        f.eligible.getD i false)
    rw [getD_set, h.remaining]
    by_cases hi : next = i
    · subst hi
      by_cases ha : f.active.getD next false = true
      · have hl := h.lt_of_active ha
        by_cases hr : f.remaining.getD next 0 - 1 = 0
        · cases he : f.eligible.getD next false with
          | false => simp only [ho, he, Bool.false_eq_true, and_false, if_false, Bool.and_false]
          | true =>
            simp only [ha, hr, hl, and_self, if_true, SortedMap.contains_insert, decide_true,
              Bool.true_or, Bool.true_and]
        · have hp : f.remaining.getD next 0 ≠ 0 := by omega
          simp only [hr, hp, ho, hl, and_self, false_and, if_true, if_false]
      · simp only [ho, ha, Bool.false_eq_true, false_and, and_false, if_false, Bool.false_and]
    · have hn : ¬(next = i ∧ next < f.definition.graph.nodes.length) := fun hc => hi hc.1
      split
      · rw [SortedMap.contains_insert, ho]
        simp [Ne.symm hi]
      · exact ho

end

/-! ## The frontier against a projection -/

/-- A node that holds its successors back. -/
def blocks (f : Frontier) (i : Nat) : Bool := f.active.getD i false && !f.complete.getD i false

/-- The ordinals of the ids, and the edges between ordinals, that the frontier was built from. -/
structure Indexed (f : Frontier) (edges : List (Nat × Nat)) : Prop where
  ids : ∀ id i, f.ids.get? id = some i ↔ (f.definition.graph.nodes[i]?).map (·.id) = some id
  outgoing : ∀ i, i < f.definition.graph.nodes.length →
    f.outgoing.getD i [] = Worklist.successors edges i

/-- The frontier agrees with a projection. -/
structure Tracks (f : Frontier) (edges : List (Nat × Nat)) (p : RunProjection) : Prop where
  counted : f.Counted
  complete : ∀ i node, f.definition.graph.nodes[i]? = some node →
    f.complete.getD i false = (nodeState p node.id).complete
  remaining : ∀ i, i < f.definition.graph.nodes.length →
    f.remaining.getD i 0 = Worklist.blockers edges f.blocks i
  entries : ∀ i node, f.definition.graph.nodes[i]? = some node →
    (f.eligible.getD i false, f.retryAt.getD i none) =
      eligibility (nodeState p node.id).complete (nodeState p node.id).status
        (nodeState p node.id).retry

theorem entry_eq (hl : Ordinals latest (attemptNodeIds p.attempts)) {i : Nat}
    {node : CompiledWorkflowNode} (hn : f.definition.graph.nodes[i]? = some node) :
    f.entry i p latest =
      eligibility (f.complete.getD i false) (nodeState p node.id).status
        (nodeState p node.id).retry := by
  have hs : ((latest.get? node.id).bind fun i => (p.attempts[i]?).map (·.status)) =
      (nodeState p node.id).status := by
    unfold nodeState
    rw [← hl.bind_eq node.id, Option.map_bind]
    rfl
  unfold entry
  rw [hn]
  simp only [Option.elim_some, hs]
  rfl

/-- What `refresh` leaves at every position. -/
theorem refresh_entries (h : f.Counted) {ind : Nat} (hid : ind < f.definition.graph.nodes.length)
    (p : RunProjection) (l : SortedMap String Nat) (i : Nat) :
    ((f.refresh ind p l).eligible.getD i false,
        (f.refresh ind p l).retryAt.getD i none) =
      if i = ind then f.entry ind p l
      else (f.eligible.getD i false, f.retryAt.getD i none) := by
  rw [refresh_eligible, refresh_retryAt, getD_set, getD_set, h.eligible, h.retryAt]
  by_cases hi : ind = i
  · subst hi
    simp [hid]
  · simp [hi, Ne.symm hi]

/-! Discounting a list of successors changes `remaining` and the candidates only. -/

theorem foldl_discount_eq (f : Frontier) (l : List Nat) :
    ∃ remaining candidates, l.foldl discount f = { f with remaining, candidates } := by
  induction l generalizing f with
  | nil => exact ⟨f.remaining, f.candidates, rfl⟩
  | cons next l ih =>
    obtain ⟨remaining, candidates, he⟩ := ih (f.discount next)
    exact ⟨remaining, candidates, he⟩

theorem foldl_discount_counted (h : f.Counted) (l : List Nat) : (l.foldl discount f).Counted :=
  List.foldlRecOn l _ h fun _ h next _ => discount_counted h next

theorem foldl_discount_remaining (f : Frontier) (l : List Nat) (i : Nat) :
    (l.foldl discount f).remaining.getD i 0 = f.remaining.getD i 0 - l.count i := by
  induction l generalizing f with
  | nil => rfl
  | cons next l ih =>
    rw [List.foldl_cons, ih, List.count_cons]
    show (f.remaining.set next (f.remaining.getD next 0 - 1)).getD i 0 - _ = _
    rw [getD_set]
    by_cases hi : next = i
    · subst hi
      simp only [true_and, beq_self_eq_true, if_true]
      split
      · omega
      · rw [List.getD_eq_getElem?_getD, List.getElem?_eq_none (by omega)]
        simp
    · have hb : (next == i) = false := by simpa using hi
      simp [hi]

/-- The frontier after the node at `index` completed, before its entry is refreshed. -/
def markComplete (f : Frontier) (index : Nat) : Frontier :=
  let marked := { f with complete := f.complete.set index true }
  if f.active.getD index false then (f.outgoing.getD index []).foldl discount marked else marked

theorem markComplete_eq (f : Frontier) (i : Nat) :
    ∃ remaining candidates, f.markComplete i =
      { f with complete := f.complete.set i true, remaining, candidates } := by
  unfold markComplete
  split
  · exact foldl_discount_eq { f with complete := f.complete.set i true } _
  · exact ⟨f.remaining, f.candidates, rfl⟩

theorem markComplete_counted (h : f.Counted) (i : Nat) : (f.markComplete i).Counted := by
  have hm : { f with complete := f.complete.set i true }.Counted :=
    ⟨h.active, by rw [List.length_set]; exact h.complete, h.remaining, h.eligible, h.retryAt,
      h.candidates⟩
  unfold markComplete
  split
  · exact foldl_discount_counted hm _
  · exact hm

/-- The counters stay the numbers of blockers: the completed node stops blocking, and each of its
successors is discounted once per edge. -/
theorem markComplete_remaining (h : f.Counted) (hi : f.Indexed edges) {ind : Nat}
    (hl : ind < f.definition.graph.nodes.length) (ho : f.complete.getD ind false = false)
    {i : Nat} (hr : f.remaining.getD i 0 = blockers edges f.blocks i) :
    (f.markComplete ind).remaining.getD i 0 =
      blockers edges (f.markComplete ind).blocks i := by
  obtain ⟨remaining, candidates, he⟩ := f.markComplete_eq ind
  have hbl : ∀ j, (f.markComplete ind).blocks j = (f.blocks j && !decide (j = ind)) := by
    intro j
    rw [he]
    show (f.active.getD j false && !(f.complete.set ind true).getD j false) = _
    rw [getD_set, h.complete]
    by_cases hj : ind = j
    · subst hj
      simp [hl]
    · simp only [hj, Ne.symm hj, decide_false, Bool.not_false, Bool.and_true]
      rfl
  cases ha : f.active.getD ind false with
  | true =>
    have hw : f.blocks ind = true := by simp only [blocks, ha, ho]; rfl
    have hn : (f.markComplete ind).blocks ind = false := by
      rw [hbl]
      simp
    have hc := @blockers_unblock _ _ edges _ _ _ hw hn (fun b hb => by
      rw [hbl]
      simp [hb]) i
    have hf : (f.markComplete ind).remaining.getD i 0 =
        f.remaining.getD i 0 - (successors edges ind).count i := by
      rw [← hi.outgoing ind hl]
      simp only [markComplete, ha]
      exact foldl_discount_remaining _ _ i
    omega
  | false =>
    have hs : (f.markComplete ind).blocks = f.blocks := by
      funext j
      rw [hbl]
      by_cases hj : j = ind
      · subst hj
        simp only [blocks, ha, Bool.false_and]
      · simp [hj]
    rw [hs, ← hr]
    simp only [markComplete, ha, Bool.false_eq_true, if_false]

/-- A refresh brings the refreshed node up to date with the new projection; the others were. -/
theorem refresh_tracks
    (hl : Ordinals latest (attemptNodeIds p.attempts)) {ind : Nat}
    (hid : ind < f.definition.graph.nodes.length) (c : f.Counted)
    (cm : ∀ i node, f.definition.graph.nodes[i]? = some node →
      f.complete.getD i false = (nodeState p node.id).complete)
    (r : ∀ i, i < f.definition.graph.nodes.length →
      f.remaining.getD i 0 = blockers edges f.blocks i)
    (os : ∀ i node, f.definition.graph.nodes[i]? = some node → i ≠ ind →
      (f.eligible.getD i false, f.retryAt.getD i none) =
        eligibility (nodeState p node.id).complete (nodeState p node.id).status
          (nodeState p node.id).retry) : (f.refresh ind p latest).Tracks edges p := by
  refine ⟨refresh_counted ind p latest c, cm, r, fun i node hn => ?_⟩
  replace hn : f.definition.graph.nodes[i]? = some node := hn
  rw [refresh_entries c hid]
  by_cases hi : i = ind
  · subst hi
    rw [if_pos rfl, entry_eq hl hn, cm i node hn]
  · rw [if_neg hi]
    exact os i node hn hi

/-- **The frontier follows one change.** -/
theorem update_tracks {f f' : Frontier} {p p' : RunProjection} {c : String} (hix : f.Indexed edges)
    (h : f.Tracks edges p) (hl : Ordinals latest (attemptNodeIds p'.attempts))
    (hs : ∀ id, id ≠ c → nodeState p' id = nodeState p id) (hu : f.update c p' latest = some f') :
    f'.Tracks edges p' := by
  unfold update at hu
  cases his : f.ids.get? c with
  | none => rw [his] at hu; cases hu
  | some index =>
    rw [his] at hu
    simp only at hu
    -- the changed node is the one at `index` and no other
    have ha := (hix.ids c index).1 his
    obtain ⟨t, ht, hid⟩ := Option.map_eq_some_iff.1 ha
    have hlt : index < f.definition.graph.nodes.length := (List.getElem?_eq_some_iff.1 ht).1
    have ho : ∀ i node, f.definition.graph.nodes[i]? = some node → i ≠ index →
        nodeState p' node.id = nodeState p node.id := by
      intro i node hn hi
      apply hs
      intro heq
      have := (hix.ids c i).2 (by rw [hn, Option.map_some, heq])
      rw [his] at this
      exact hi (Option.some.inj this).symm
    have he : ∀ i node, f.definition.graph.nodes[i]? = some node → i ≠ index →
        (f.eligible.getD i false, f.retryAt.getD i none) =
          eligibility (nodeState p' node.id).complete (nodeState p' node.id).status
            (nodeState p' node.id).retry := by
      intro i node hn hi
      rw [ho i node hn hi]
      exact h.entries i node hn
    split at hu
    · rename_i hco
      cases hu
      refine refresh_tracks hl hlt h.counted (fun i node hn => ?_) h.remaining he
      by_cases hi : i = index
      · subst hi
        rw [ht] at hn
        cases hn
        rw [hid]
        exact hco.symm
      · rw [ho i node hn hi]
        exact h.complete i node hn
    · rename_i hch
      split at hu
      · cases hu
      rename_i hne
      rw [Bool.not_eq_true, Bool.not_eq_false'] at hne
      cases hu
      have hop : f.complete.getD index false = false := by
        rw [hne] at hch
        simpa using Ne.symm hch
      show ((f.markComplete index).refresh index p' latest).Tracks edges p'
      obtain ⟨remaining, candidates, heq⟩ := f.markComplete_eq index
      have hd : (f.markComplete index).definition = f.definition := by rw [heq]
      refine refresh_tracks hl (hd ▸ hlt) (markComplete_counted h.counted index) ?_
        (fun i hi => markComplete_remaining h.counted hix hlt hop
          (h.remaining i (hd ▸ hi))) ?_
      · intro i node hn
        rw [hd] at hn
        rw [heq]
        show (f.complete.set index true).getD i false = _
        rw [getD_set, h.counted.complete]
        by_cases hi : index = i
        · subst hi
          rw [ht] at hn
          cases hn
          rw [if_pos ⟨rfl, hlt⟩, hid]
          exact hne.symm
        · rw [if_neg fun hc => hi hc.1, ho i node hn (Ne.symm hi)]
          exact h.complete i node hn
      · intro i node hn hi
        rw [hd] at hn
        rw [heq]
        exact he i node hn hi

/-- An update leaves the definition, the ordinals, the edges and the active nodes alone. -/
theorem update_static {f f' : Frontier} {c : String} (h : f.update c p latest = some f') :
    f'.definition = f.definition ∧ f'.ids = f.ids ∧ f'.outgoing = f.outgoing ∧
      f'.active = f.active := by
  unfold update at h
  cases hi : f.ids.get? c with
  | none => rw [hi] at h; cases h
  | some index =>
    rw [hi] at h
    simp only at h
    split at h
    · cases h
      exact ⟨rfl, rfl, rfl, rfl⟩
    · split at h
      · cases h
      · have hf' : (f.markComplete index).refresh index p latest = f' := Option.some.inj h
        obtain ⟨remaining, candidates, he⟩ := f.markComplete_eq index
        rw [he] at hf'
        subst hf'
        exact ⟨rfl, rfl, rfl, rfl⟩

end Frontier

end Woml
