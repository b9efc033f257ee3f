import Mathlib

/-!
# Worklist search

`Worklist.visit` is the loop "pop a node, skip it if it was seen, else mark it and queue its
successors". With fuel for every entry and every edge it empties the queue and has seen exactly
the nodes reachable from the entries (`mem_visit`).
-/

namespace Worklist

variable {α : Type} [DecidableEq α]

/-- The nodes seen, newest first. -/
def visit (next : α → List α) : Nat → List α → List α → List α
  | 0, _, seen => seen
  | _ + 1, [], seen => seen
  | fuel + 1, a :: queue, seen =>
    if a ∈ seen then visit next fuel queue seen
    else visit next fuel (queue ++ next a) (a :: seen)

/-- The targets of the edges that leave `a`, in edge order. -/
def successors (edges : List (α × α)) (a : α) : List α := (edges.filter (·.1 = a)).map (·.2)

theorem mem_successors {edges : List (α × α)} {a b : α} :
    b ∈ successors edges a ↔ (a, b) ∈ edges := by
  simp only [successors, List.mem_map, List.mem_filter, decide_eq_true_eq]
  constructor
  · rintro ⟨⟨x, y⟩, ⟨h, rfl⟩, rfl⟩
    exact h
  · intro h
    exact ⟨(a, b), ⟨h, rfl⟩, rfl⟩

/-- `b` can be reached from `a` along the edges. -/
abbrev Path (edges : List (α × α)) : α → α → Prop := Relation.ReflTransGen fun a b => (a, b) ∈ edges

variable {edges : List (α × α)}

theorem subset_visit (next : α → List α) (fuel : Nat) (q seen : List α) :
    ∀ a ∈ seen, a ∈ visit next fuel q seen := by
  induction fuel generalizing q seen with
  | zero => exact fun a ha => ha
  | succ fuel ih =>
    intro a ha
    cases q with
    | nil => exact ha
    | cons b q =>
      simp only [visit]
      split
      · exact ih q seen a ha
      · exact ih _ _ a (List.mem_cons_of_mem b ha)

/-- Whatever the search saw was seen before or is reachable from the queue. -/
theorem visit_sound (fuel : Nat) (q seen : List α) :
    ∀ a ∈ visit (successors edges) fuel q seen, a ∈ seen ∨ ∃ b ∈ q, Path edges b a := by
  induction fuel generalizing q seen with
  | zero => exact fun a ha => .inl ha
  | succ fuel ih =>
    intro a ha
    cases q with
    | nil => exact .inl ha
    | cons b q =>
      simp only [visit] at ha
      split at ha
      · rcases ih q seen a ha with h | ⟨c, hc, hp⟩
        · exact .inl h
        · exact .inr ⟨c, List.mem_cons_of_mem b hc, hp⟩
      · rcases ih _ _ a ha with h | ⟨c, hc, hp⟩
        · rcases List.mem_cons.1 h with rfl | h
          · exact .inr ⟨a, List.mem_cons_self, .refl⟩
          · exact .inl h
        · rcases List.mem_append.1 hc with hc | hc
          · exact .inr ⟨c, List.mem_cons_of_mem b hc, hp⟩
          · exact .inr ⟨b, List.mem_cons_self, .head (mem_successors.1 hc) hp⟩

/-- The number of edges not yet followed. -/
def pending (edges : List (α × α)) (seen : List α) : Nat :=
  edges.countP fun e => decide (e.1 ∉ seen)

theorem length_successors (a : α) :
    (successors edges a).length = edges.countP fun e => decide (e.1 = a) := by
  rw [successors, List.length_map, List.countP_eq_length_filter]

theorem pending_cons {a : α} {seen : List α} (ha : a ∉ seen) :
    pending edges seen = (successors edges a).length + pending edges (a :: seen) := by
  rw [length_successors]
  unfold pending
  induction edges with
  | nil => rfl
  | cons e edges ih =>
    simp only [List.countP_cons, ih]
    by_cases h : e.1 = a
    · simp only [h, ha]
      simp
      omega
    · simp only [h, List.mem_cons, false_or]
      simp
      omega

/-- With fuel for every queued node and every edge not yet followed, the search sees the whole
queue and is closed under the edges. -/
theorem visit_closed (fuel : Nat) (q seen : List α) (hf : q.length + pending edges seen ≤ fuel)
    (hs : ∀ a ∈ seen, ∀ b, (a, b) ∈ edges → b ∈ seen ∨ b ∈ q) :
    (∀ a ∈ q, a ∈ visit (successors edges) fuel q seen) ∧
      ∀ a ∈ visit (successors edges) fuel q seen, ∀ b, (a, b) ∈ edges →
        b ∈ visit (successors edges) fuel q seen := by
  induction fuel generalizing q seen with
  | zero =>
    have hq : q = [] := List.length_eq_zero_iff.1 (by omega)
    subst hq
    refine ⟨by simp, fun a ha b hb => ?_⟩
    exact (hs a ha b hb).resolve_right (by simp)
  | succ fuel ih =>
    cases q with
    | nil =>
      refine ⟨by simp, fun a ha b hb => ?_⟩
      exact (hs a ha b hb).resolve_right (by simp)
    | cons x q =>
      simp only [List.length_cons] at hf
      by_cases hx : x ∈ seen
      · have key := ih q seen (by omega) fun a ha b hb => by
          rcases hs a ha b hb with h | h
          · exact .inl h
          · rcases List.mem_cons.1 h with rfl | h
            · exact .inl hx
            · exact .inr h
        simp only [visit, if_pos hx]
        refine ⟨fun a ha => ?_, key.2⟩
        rcases List.mem_cons.1 ha with rfl | ha
        · exact subset_visit _ _ _ _ a hx
        · exact key.1 a ha
      · have hp := @pending_cons α _ edges x seen hx
        have key := ih (q ++ successors edges x) (x :: seen)
          (by rw [List.length_append]; omega) fun a ha b hb => by
            rcases List.mem_cons.1 ha with rfl | ha
            · exact .inr (List.mem_append_right _ (mem_successors.2 hb))
            · rcases hs a ha b hb with h | h
              · exact .inl (List.mem_cons_of_mem x h)
              · rcases List.mem_cons.1 h with rfl | h
                · exact .inl List.mem_cons_self
                · exact .inr (List.mem_append_left _ h)
        simp only [visit, if_neg hx]
        refine ⟨fun a ha => ?_, key.2⟩
        rcases List.mem_cons.1 ha with rfl | ha
        · exact subset_visit _ _ _ _ a List.mem_cons_self
        · exact key.1 a (List.mem_append_left _ ha)

/-- **The search returns the reachable nodes.** Every pop consumes an entry or an edge, so fuel for
all of them empties the queue. -/
theorem mem_visit {es : List α} {fuel : Nat} (hf : es.length + edges.length ≤ fuel)
    {a : α} : a ∈ visit (successors edges) fuel es [] ↔ ∃ b ∈ es, Path edges b a := by
  constructor
  · intro h
    rcases visit_sound _ _ _ a h with h | h
    · simp at h
    · exact h
  · rintro ⟨b, hb, hp⟩
    have hpe : pending edges [] ≤ edges.length := List.countP_le_length
    have hcl := @visit_closed α _ edges fuel es [] (by omega) (by simp)
    obtain ⟨hq, hc⟩ := hcl
    induction hp with
    | refl => exact hq b hb
    | tail _ hbc ih => exact hc _ ih _ hbc

omit [DecidableEq α] in
/-- Paths under a renaming that is injective on the nodes of the edges. -/
theorem path_map_iff {β : Type} {g : α → β} {S : α → Prop} (hS : ∀ e ∈ edges, S e.1 ∧ S e.2)
    (hi : ∀ a b, S a → S b → g a = g b → a = b) {a : α} (ha : S a) {y : β} :
    Path (edges.map (Prod.map g g)) (g a) y ↔ ∃ c, S c ∧ g c = y ∧ Path edges a c := by
  constructor
  · intro h
    induction h with
    | refl => exact ⟨a, ha, rfl, .refl⟩
    | tail _ hs ih =>
      obtain ⟨c, hc, rfl, hp⟩ := ih
      obtain ⟨e, he, heq⟩ := List.mem_map.1 hs
      obtain ⟨hsr, rfl⟩ := Prod.mk.inj heq
      have hec : e.1 = c := hi _ _ (hS e he).1 hc hsr
      exact ⟨e.2, (hS e he).2, rfl, hp.tail (hec ▸ he)⟩
  · rintro ⟨c, -, rfl, hp⟩
    exact hp.lift g fun x y hx => List.mem_map.2 ⟨(x, y), hx, rfl⟩

/-! ## Counting predecessors -/

/-- The edges into `a` whose source blocks. -/
def blockers (edges : List (α × α)) (blocks : α → Bool) (a : α) : Nat :=
  edges.countP fun e => decide (e.2 = a) && blocks e.1

theorem blockers_eq_zero {bs : α → Bool} {a : α} :
    blockers edges bs a = 0 ↔ ∀ b, (b, a) ∈ edges → bs b = false := by
  unfold blockers
  rw [List.countP_eq_zero]
  constructor
  · intro h b hb
    simpa using h (b, a) hb
  · rintro h ⟨b, c⟩ he
    by_cases hc : c = a
    · subst hc
      simp [h b he]
    · simp [hc]

/-- When a node stops blocking, each of its successors loses as many blockers as edges lead to it. -/
theorem blockers_unblock {bs bs' : α → Bool} {x : α} (hx : bs x = true)
    (hx' : bs' x = false) (ho : ∀ b, b ≠ x → bs' b = bs b) (a : α) :
    blockers edges bs a = blockers edges bs' a + (successors edges x).count a := by
  unfold blockers successors
  induction edges with
  | nil => rfl
  | cons e edges ih =>
    obtain ⟨b, c⟩ := e
    simp only [List.countP_cons, List.filter_cons]
    by_cases hb : b = x
    · subst hb
      by_cases hc : c = a
      · simp [hx, hx', hc]; omega
      · simp [hc, ih]
    · simp only [ho b hb, hb, decide_false, Bool.false_eq_true, if_false]
      omega

end Worklist
