import Mathlib

/-!
# Connected components

`Components.explore` is the breadth-first search that marks a node when it is queued;
`Components.all` starts it at every root that no earlier search has marked. On a symmetric graph the
searches return the connected components of the roots, and no node is in two of them (`all_spec`).
-/

namespace Components

variable {α : Type} [DecidableEq α]

/-- The nodes that the search takes from its queue, in this order, and the nodes marked. -/
def explore (next : α → List α) : Nat → List α → List α → List α → List α × List α
  | 0, _, visited, component => (component, visited)
  | _ + 1, [], visited, component => (component, visited)
  | fuel + 1, a :: pending, visited, component =>
    let fresh := (next a).filter (· ∉ visited)
    explore next fuel (pending ++ fresh) (visited ++ fresh) (component ++ [a])

def all (next : α → List α) (fuel : Nat) : List α → List α → List (List α)
  | [], _ => []
  | root :: roots, visited =>
    if root ∈ visited then all next fuel roots visited
    else
      let (component, visited) := explore next fuel [root] (visited ++ [root]) []
      component :: all next fuel roots visited

/-- `b` can be reached from `a`. -/
abbrev Path (next : α → List α) : α → α → Prop := Relation.ReflTransGen fun a b => b ∈ next a

/-- A symmetric graph on a finite set of nodes, without double edges. -/
structure Graph (next : α → List α) (nodes : List α) : Prop where
  symm : ∀ a b, b ∈ next a → a ∈ next b
  nodup : ∀ a, (next a).Nodup
  closed : ∀ a ∈ nodes, ∀ b ∈ next a, b ∈ nodes

section

variable {next : α → List α} {nodes : List α} {before : List α}

omit [DecidableEq α] in
theorem Graph.path_symm (g : Graph next nodes) {a b : α} (h : Path next a b) : Path next b a := by
  induction h with
  | refl => exact .refl
  | tail _ hb ih => exact ih.head (g.symm _ _ hb)

omit [DecidableEq α] in
theorem Graph.path_mem (g : Graph next nodes) {a b : α} (ha : a ∈ nodes) (h : Path next a b) :
    b ∈ nodes := by
  induction h with
  | refl => exact ha
  | tail _ hb ih => exact g.closed _ ih _ hb

/-- What holds of a search from `root`, when `before` was marked by earlier searches. -/
structure Searching (next : α → List α) (before : List α) (root : α)
    (pending visited component : List α) : Prop where
  nodup : (component ++ pending).Nodup
  root_mem : root ∈ component ++ pending
  marked : ∀ a, a ∈ visited ↔ a ∈ before ∨ a ∈ component ++ pending
  path : ∀ a ∈ component ++ pending, Path next root a
  followed : ∀ a ∈ component, ∀ b ∈ next a, b ∈ visited

theorem Searching.pop (g : Graph next nodes) {bf p visited cm : List α}
    {root a : α} (h : Searching next bf root (a :: p) visited cm) :
    Searching next bf root (p ++ (next a).filter (· ∉ visited))
      (visited ++ (next a).filter (· ∉ visited)) (cm ++ [a]) := by
  have hf : ∀ b, b ∈ (next a).filter (· ∉ visited) ↔ b ∈ next a ∧ b ∉ visited := by simp
  have ha : cm ++ [a] ++ (p ++ (next a).filter (· ∉ visited)) =
      cm ++ a :: p ++ (next a).filter (· ∉ visited) := by simp
  refine ⟨?_, ?_, fun b => ?_, fun b hb => ?_, fun b hb c hc => ?_⟩
  · rw [ha]
    refine List.nodup_append.2 ⟨h.nodup, (g.nodup a).filter _, fun b hb c hc he => ?_⟩
    exact ((hf c).1 hc).2 ((h.marked c).2 (.inr (he ▸ hb)))
  · rw [ha]
    exact List.mem_append_left _ h.root_mem
  · rw [ha, List.mem_append, List.mem_append (s := cm ++ a :: p), h.marked b, or_assoc]
  · rw [ha] at hb
    rcases List.mem_append.1 hb with hb | hb
    · exact h.path b hb
    · exact (h.path a (by simp)).tail ((hf b).1 hb).1
  · rcases List.mem_append.1 hb with hb | hb
    · exact List.mem_append_left _ (h.followed b hb c hc)
    · obtain rfl := List.mem_singleton.1 hb
      by_cases hm : c ∈ visited
      · exact List.mem_append_left _ hm
      · exact List.mem_append_right _ ((hf c).2 ⟨hc, hm⟩)

/-- With fuel for every node that is not yet taken, the search ends with an empty queue. -/
theorem Searching.explore (g : Graph next nodes) {root : α} (hr : root ∈ nodes) (fuel : Nat)
    {p v c : List α} (hf : nodes.length ≤ fuel + c.length) (h : Searching next before root p v c) :
    Searching next before root [] (explore next fuel p v c).2 (explore next fuel p v c).1 := by
  have hl : c.length + p.length ≤ nodes.length := by
    rw [← List.length_append]
    exact (h.nodup.subperm fun a ha => g.path_mem hr (h.path a ha)).length_le
  induction fuel generalizing p v c with
  | zero =>
    have hp : p = [] := List.length_eq_zero_iff.1 (by omega)
    subst hp
    exact h
  | succ fuel ih =>
    cases p with
    | nil => exact h
    | cons a p =>
      have hpo := h.pop g
      refine ih (by rw [List.length_append, List.length_singleton]; omega) hpo ?_
      rw [← List.length_append]
      exact (hpo.nodup.subperm fun b hb => g.path_mem hr (hpo.path b hb)).length_le

/-- `before` is a union of components. -/
def Closed (next : α → List α) (before : List α) : Prop := ∀ a ∈ before, ∀ b ∈ next a, b ∈ before

omit [DecidableEq α] in
theorem Closed.path (h : Closed next before) {a b : α} (ha : a ∈ before) (hp : Path next a b) :
    b ∈ before := by
  induction hp with
  | refl => exact ha
  | tail _ hb ih => exact h _ ih _ hb

/-- **A search returns the component of its root.** -/
theorem explore_spec (g : Graph next nodes) (hb : Closed next before) {root : α}
    (hr : root ∈ nodes) (hn : root ∉ before) {fuel : Nat} (hf : nodes.length ≤ fuel) :
    (explore next fuel [root] (before ++ [root]) []).1.Nodup ∧
      (∀ a, a ∈ (explore next fuel [root] (before ++ [root]) []).1 ↔ Path next root a) ∧
      ∀ a, a ∈ (explore next fuel [root] (before ++ [root]) []).2 ↔
        a ∈ before ∨ a ∈ (explore next fuel [root] (before ++ [root]) []).1 := by
  have hs : Searching next before root [root] (before ++ [root]) [] :=
    ⟨by simp, by simp, by simp, by simp [Relation.ReflTransGen.refl], by simp⟩
  have he := Searching.explore g hr fuel (by simpa using hf) hs
  have hm : ∀ a ∈ (explore next fuel [root] (before ++ [root]) []).1, a ∉ before := by
    intro a ha hmk
    exact hn (hb.path hmk (g.path_symm (he.path a (List.mem_append_left _ ha))))
  refine ⟨by simpa using he.nodup, fun a => ⟨fun ha => he.path a (by simpa using ha),
    fun hp => ?_⟩, fun a => by simpa using he.marked a⟩
  induction hp with
  | refl => simpa using he.root_mem
  | @tail b c _ hbc ih =>
    have hc := (he.marked c).1 (he.followed b ih c hbc)
    rcases hc with hc | hc
    · exact absurd (hb c hc b (g.symm b c hbc)) (hm b ih)
    · simpa using hc

/-- After a search the marked nodes are a union of components again. -/
theorem closed_explore (g : Graph next nodes) (hbe : Closed next before) {root : α}
    (hr : root ∈ nodes) (hn : root ∉ before) {fuel : Nat} (hf : nodes.length ≤ fuel) :
    Closed next (explore next fuel [root] (before ++ [root]) []).2 := by
  obtain ⟨-, hp, hm⟩ := explore_spec g hbe hr hn hf
  intro a ha b hb
  rcases (hm a).1 ha with ha | ha
  · exact (hm b).2 (.inl (hbe a ha b hb))
  · exact (hm b).2 (.inr ((hp b).2 (((hp a).1 ha).tail hb)))

/-- What the searches from the roots return. -/
structure Split (next : α → List α) (roots before : List α) (components : List (List α)) :
    Prop where
  nodup : ∀ c ∈ components, c.Nodup
  root : ∀ c ∈ components, ∃ root ∈ roots, ∀ a, a ∈ c ↔ Path next root a
  disjoint : ∀ c ∈ components, ∀ a ∈ c, a ∉ before
  pairwise : components.Pairwise fun c d => ∀ a ∈ c, a ∉ d
  covers : ∀ root ∈ roots, root ∈ before ∨ ∃ c ∈ components, root ∈ c

theorem all_spec (g : Graph next nodes) {fuel : Nat} (hf : nodes.length ≤ fuel)
    {rs b : List α} (hb : Closed next b) (hrt : ∀ root ∈ rs, root ∈ nodes) :
    Split next rs b (all next fuel rs b) := by
  induction rs generalizing b with
  | nil => exact ⟨nofun, nofun, nofun, .nil, nofun⟩
  | cons root rs ih =>
    by_cases hn : root ∈ b
    · rw [all, if_pos hn]
      have hre := ih hb fun r hr => hrt r (.tail _ hr)
      refine ⟨hre.nodup, fun c hc => ?_, hre.disjoint, hre.pairwise, fun r hr => ?_⟩
      · obtain ⟨r, hr, hp⟩ := hre.root c hc
        exact ⟨r, .tail _ hr, hp⟩
      · rcases List.mem_cons.1 hr with rfl | hr
        · exact .inl hn
        · exact hre.covers r hr
    · rw [all, if_neg hn]
      have hro := hrt root (.head _)
      obtain ⟨hnd, hp, hmk⟩ := explore_spec g hb hro hn hf
      have hre := ih (closed_explore g hb hro hn hf) fun r hr => hrt r (.tail _ hr)
      refine ⟨?_, ?_, ?_, ?_, ?_⟩
      · rintro c (_ | ⟨_, hc⟩)
        · exact hnd
        · exact hre.nodup c hc
      · rintro c (_ | ⟨_, hc⟩)
        · exact ⟨root, .head _, hp⟩
        · obtain ⟨r, hr, hp⟩ := hre.root c hc
          exact ⟨r, .tail _ hr, hp⟩
      · rintro c (_ | ⟨_, hc⟩) a ha hm
        · exact hn (hb.path hm (g.path_symm ((hp a).1 ha)))
        · exact hre.disjoint c hc a ha ((hmk a).2 (.inl hm))
      · refine .cons (fun d hd a ha hm => ?_) hre.pairwise
        exact hre.disjoint d hd a hm ((hmk a).2 (.inr ha))
      · rintro r (_ | ⟨_, hr⟩)
        · exact .inr ⟨_, .head _, (hp _).2 .refl⟩
        · rcases hre.covers r hr with hr | ⟨c, hc, hm⟩
          · rcases (hmk r).1 hr with hr | hr
            · exact .inl hr
            · exact .inr ⟨_, .head _, hr⟩
          · exact .inr ⟨c, .tail _ hc, hm⟩

omit [DecidableEq α] in
/-- A component is the component of each of its nodes. -/
theorem Split.mem_iff (g : Graph next nodes) {rs bf : List α} {cs : List (List α)}
    (h : Split next rs bf cs) {c : List α} (hc : c ∈ cs) {a : α}
    (ha : a ∈ c) (b : α) : b ∈ c ↔ Path next a b := by
  obtain ⟨root, -, hp⟩ := h.root c hc
  rw [hp]
  exact ⟨fun hb => (g.path_symm ((hp a).1 ha)).trans hb, fun hb => ((hp a).1 ha).trans hb⟩

end

end Components
