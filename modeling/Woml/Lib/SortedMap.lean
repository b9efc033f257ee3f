import Mathlib

/-!
# Ordered maps

`SortedMap κ α`: finite maps as association lists in strictly increasing key order, the order
being a field of the type, so that every key occurs once and `values` lists exactly what `get?`
returns (`mem_values`). Everything computes by structural recursion on the list.
-/

structure SortedMap (κ : Type) [LinearOrder κ] (α : Type) where
  entries : List (κ × α)
  sorted : entries.Pairwise fun a b => a.1 < b.1

namespace SortedMap

variable {κ : Type} [LinearOrder κ] {α : Type} {l : List (κ × α)} {k : κ} {a : α}
  {m : SortedMap κ α}

def empty : SortedMap κ α := ⟨[], .nil⟩

instance : Inhabited (SortedMap κ α) := ⟨empty⟩

/-- First entry of a list under a key. -/
def find (k : κ) : List (κ × α) → Option α
  | [] => none
  | (k', a) :: l => if k = k' then some a else find k l

/-- Put an entry at its place in an ordered list, over the one with the same key. -/
def put (k : κ) (a : α) : List (κ × α) → List (κ × α)
  | [] => [(k, a)]
  | (k', a') :: l =>
    if k = k' then (k, a) :: l
    else if k < k' then (k, a) :: (k', a') :: l
    else (k', a') :: put k a l

theorem mem_put {e : κ × α} (h : e ∈ put k a l) : e = (k, a) ∨ e ∈ l := by
  induction l with
  | nil => simpa [put] using h
  | cons x l ih =>
    simp only [put] at h
    split at h
    · simp only [List.mem_cons] at h ⊢; tauto
    · split at h
      · simpa using h
      · simp only [List.mem_cons] at h ⊢
        rcases h with h | h
        · tauto
        · rcases ih h with h | h <;> tauto

theorem put_sorted (h : l.Pairwise fun a b => a.1 < b.1) :
    (put k a l).Pairwise fun a b => a.1 < b.1 := by
  induction l with
  | nil => simp [put]
  | cons x l ih =>
    obtain ⟨hx, hl⟩ := List.pairwise_cons.1 h
    simp only [put]
    split
    · rename_i hk; subst hk
      exact List.pairwise_cons.2 ⟨hx, hl⟩
    · rename_i hn
      split
      · rename_i hlt
        refine List.pairwise_cons.2 ⟨fun e he => ?_, h⟩
        rcases List.mem_cons.1 he with rfl | he
        · exact hlt
        · exact lt_trans hlt (hx e he)
      · rename_i hg
        refine List.pairwise_cons.2 ⟨fun e he => ?_, ih hl⟩
        rcases mem_put he with rfl | he
        · exact lt_of_le_of_ne (not_lt.1 hg) (Ne.symm hn)
        · exact hx e he

def get? (m : SortedMap κ α) (k : κ) : Option α := find k m.entries

def contains (m : SortedMap κ α) (k : κ) : Bool := (m.get? k).isSome

def insert (m : SortedMap κ α) (k : κ) (a : α) : SortedMap κ α :=
  ⟨put k a m.entries, put_sorted m.sorted⟩

def erase (m : SortedMap κ α) (k : κ) : SortedMap κ α :=
  ⟨m.entries.filter fun e => e.1 ≠ k, m.sorted.filter _⟩

/-- The entries that pass a test. -/
def filter (m : SortedMap κ α) (p : κ → α → Bool) : SortedMap κ α :=
  ⟨m.entries.filter fun e => p e.1 e.2, m.sorted.filter _⟩

/-- Insert unless the key is present. -/
def insertFirst (m : SortedMap κ α) (k : κ) (a : α) : SortedMap κ α :=
  if m.contains k then m else m.insert k a

/-- Append to the list under a key, which starts empty. -/
def push (m : SortedMap κ (List α)) (k : κ) (a : α) : SortedMap κ (List α) :=
  m.insert k ((m.get? k).getD [] ++ [a])

def keys (m : SortedMap κ α) : List κ := m.entries.map (·.1)

def values (m : SortedMap κ α) : List α := m.entries.map (·.2)

def size (m : SortedMap κ α) : Nat := m.entries.length

def isEmpty (m : SortedMap κ α) : Bool := m.entries.isEmpty

/-! ## Lookups -/

theorem find_put_self (k : κ) (a : α) (l : List (κ × α)) : find k (put k a l) = some a := by
  induction l with
  | nil => simp [put, find]
  | cons x l ih =>
    simp only [put]
    split
    · simp [find]
    · split
      · simp [find]
      · rename_i hn _
        simp [find, hn, ih]

theorem find_put_ne {k k₀ : κ} (h : k₀ ≠ k) (a : α) (l : List (κ × α)) :
    find k₀ (put k a l) = find k₀ l := by
  induction l with
  | nil => simp [put, find, h]
  | cons x l ih =>
    simp only [put]
    split
    · rename_i hk; subst hk; simp [find, h]
    · split
      · simp [find, h]
      · simp [find, ih]

theorem find_filter_self (k : κ) (l : List (κ × α)) :
    find k (l.filter fun e => decide (e.1 ≠ k)) = none := by
  induction l with
  | nil => rfl
  | cons x l ih =>
    simp only [List.filter_cons]
    split
    · rename_i hn
      simp only [decide_eq_true_eq] at hn
      simp only [find, if_neg (Ne.symm hn)]
      exact ih
    · exact ih

theorem find_filter_ne {k k₀ : κ} (h : k₀ ≠ k) (l : List (κ × α)) :
    find k₀ (l.filter fun e => decide (e.1 ≠ k)) = find k₀ l := by
  induction l with
  | nil => rfl
  | cons x l ih =>
    simp only [List.filter_cons]
    split
    · simp only [find, ih]
    · rename_i hk
      simp only [decide_eq_true_eq, not_not] at hk
      simp only [find, if_neg (hk ▸ h)]
      exact ih

@[simp] theorem get?_empty (k : κ) : (empty : SortedMap κ α).get? k = none := rfl

@[simp] theorem get?_insert_self (m : SortedMap κ α) (k : κ) (a : α) :
    (m.insert k a).get? k = some a := find_put_self k a m.entries

theorem get?_insert_ne (m : SortedMap κ α) {k k₀ : κ} (h : k₀ ≠ k) (a : α) :
    (m.insert k a).get? k₀ = m.get? k₀ := find_put_ne h a m.entries

theorem get?_insert (m : SortedMap κ α) (k k₀ : κ) (a : α) :
    (m.insert k a).get? k₀ = if k₀ = k then some a else m.get? k₀ := by
  split
  · rename_i h; subst h; exact get?_insert_self m _ a
  · rename_i h; exact get?_insert_ne m h a

theorem of_get?_insert {k k₀ : κ} {a b : α} (h : (m.insert k a).get? k₀ = some b) :
    k₀ = k ∧ a = b ∨ k₀ ≠ k ∧ m.get? k₀ = some b := by
  rw [get?_insert] at h
  split at h
  · rename_i hk
    exact .inl ⟨hk, Option.some.inj h⟩
  · rename_i hk
    exact .inr ⟨hk, h⟩

@[simp] theorem get?_erase_self (m : SortedMap κ α) (k : κ) : (m.erase k).get? k = none :=
  find_filter_self k m.entries

theorem get?_erase_ne (m : SortedMap κ α) {k k₀ : κ} (h : k₀ ≠ k) :
    (m.erase k).get? k₀ = m.get? k₀ := find_filter_ne h m.entries

/-! ## Entries and values -/

theorem find_eq_some_of_mem (hs : l.Pairwise fun a b => a.1 < b.1) (h : (k, a) ∈ l) :
    find k l = some a := by
  induction l with
  | nil => simp at h
  | cons x l ih =>
    obtain ⟨k', a'⟩ := x
    obtain ⟨hx, hl⟩ := List.pairwise_cons.1 hs
    rcases List.mem_cons.1 h with h | h
    · cases h; simp [find]
    · have : k' < k := hx _ h
      simp only [find, if_neg (ne_of_gt this)]
      exact ih hl h

theorem mem_of_find_eq_some (h : find k l = some a) : (k, a) ∈ l := by
  induction l with
  | nil => simp [find] at h
  | cons x l ih =>
    simp only [find] at h
    split at h
    · rename_i hk; cases h; subst hk; exact List.mem_cons_self
    · exact List.mem_cons_of_mem _ (ih h)

theorem mem_entries (m : SortedMap κ α) : (k, a) ∈ m.entries ↔ m.get? k = some a :=
  ⟨find_eq_some_of_mem m.sorted, mem_of_find_eq_some⟩

section
variable {p : κ → α → Prop} [∀ k a, Decidable (p k a)]

instance : Decidable (∀ k a, m.get? k = some a → p k a) :=
  decidable_of_iff (∀ e ∈ m.entries, p e.1 e.2) (by simp [mem_entries])

instance : Decidable (∃ k a, m.get? k = some a ∧ p k a) :=
  decidable_of_iff (∃ e ∈ m.entries, p e.1 e.2) (by simp [mem_entries])

end

theorem get?_filter (m : SortedMap κ α) (p : κ → α → Bool) :
    (m.filter p).get? k = some a ↔ m.get? k = some a ∧ p k a = true := by
  rw [← mem_entries, ← mem_entries, filter, List.mem_filter]

theorem filter_eq_empty {p : κ → α → Bool} (h : ∀ k a, m.get? k = some a → p k a = false) :
    m.filter p = empty := by
  have hn : m.entries.filter (fun e => p e.1 e.2) = [] := List.filter_eq_nil_iff.2
    fun e he => by simp [h e.1 e.2 ((mem_entries m).1 he)]
  simp [filter, empty, hn]

theorem erase_of_get?_none (m : SortedMap κ α) (h : m.get? k = none) : m.erase k = m := by
  have hke : m.entries.filter (fun e => e.1 ≠ k) = m.entries := by
    rw [List.filter_eq_self]
    rintro ⟨k', a⟩ hm
    rw [mem_entries] at hm
    refine decide_eq_true fun hk => ?_
    rw [show k' = k from hk, h] at hm
    cases hm
  simp only [erase] at hke ⊢
  simp only [hke]

theorem mem_values (m : SortedMap κ α) : a ∈ m.values ↔ ∃ k, m.get? k = some a := by
  simp [values, mem_entries]

theorem mem_keys (m : SortedMap κ α) : k ∈ m.keys ↔ ∃ a, m.get? k = some a := by
  simp [keys, mem_entries]

/-! ## The list of values

Maps that agree on every key have the same values; a fresh key adds one. -/

theorem nodup_entries (m : SortedMap κ α) : m.entries.Nodup :=
  m.sorted.imp fun hl he => absurd (congrArg Prod.fst he) (ne_of_lt hl)

theorem values_perm {m m' : SortedMap κ α} (h : ∀ k, m'.get? k = m.get? k) :
    m'.values.Perm m.values := by
  refine List.Perm.map _ ((List.perm_ext_iff_of_nodup m'.nodup_entries m.nodup_entries).2 ?_)
  rintro ⟨k, a⟩
  rw [mem_entries, mem_entries, h]

theorem values_perm_cons {m m' : SortedMap κ α} (hf : m.get? k = none)
    (h : ∀ k', m'.get? k' = if k' = k then some a else m.get? k') :
    m'.values.Perm (a :: m.values) := by
  have hn : (k, a) ∉ m.entries := by
    rw [mem_entries, hf]
    exact nofun
  have he : m'.entries.Perm ((k, a) :: m.entries) := by
    refine (List.perm_ext_iff_of_nodup m'.nodup_entries
      (List.nodup_cons.2 ⟨hn, m.nodup_entries⟩)).2 ?_
    rintro ⟨k', b⟩
    rw [List.mem_cons, mem_entries, mem_entries, h]
    by_cases hk : k' = k
    · subst hk
      simp [hf, eq_comm]
    · simp [hk]
  exact he.map _

theorem values_perm_insert (m : SortedMap κ α) (k : κ) (a : α) :
    (m.insert k a).values.Perm (a :: (m.erase k).values) := by
  refine values_perm_cons (m.get?_erase_self k) fun k' => ?_
  rw [get?_insert]
  split
  · rfl
  · rename_i hn
    rw [get?_erase_ne m hn]

theorem values_perm_erase (h : m.get? k = some a) : m.values.Perm (a :: (m.erase k).values) := by
  refine values_perm_cons (m.get?_erase_self k) fun k' => ?_
  split
  · rename_i he
    rw [he, h]
  · rename_i hn
    rw [get?_erase_ne m hn]

theorem length_values (m : SortedMap κ α) : m.values.length = m.size := List.length_map _

/-- What is not looked for can be inserted under a fresh key. -/
theorem find?_put {p : α → Bool} (hp : p a = false) (hf : find k l = none) :
    ((put k a l).map (·.2)).find? p = (l.map (·.2)).find? p := by
  induction l with
  | nil => simp [put, hp]
  | cons x l ih =>
    simp only [find] at hf
    split at hf
    · cases hf
    · rename_i hn
      simp only [put, if_neg hn]
      split
      · simp [hp]
      · simp only [List.map_cons, List.find?_cons, ih hf]

theorem find?_values_insert {p : α → Bool} (hf : m.get? k = none) (hp : p a = false) :
    (m.insert k a).values.find? p = m.values.find? p :=
  find?_put hp hf

theorem values_perm_filter (m : SortedMap κ α) (p : κ → α → Bool) :
    m.values.Perm ((m.filter p).values ++ (m.filter fun k a => !p k a).values) := by
  rw [values, values, values, ← List.map_append]
  exact ((List.filter_append_perm (fun e : κ × α => p e.1 e.2) m.entries).symm).map _

/-! ## Maps built by a loop

What a loop of insertions leaves under a key: the last inserted value, the first one, or all of
them in order. -/

theorem get?_foldl_insert {β : Type} (key : β → κ) (val : β → α) (l : List β) (m : SortedMap κ α)
    (k : κ) :
    (l.foldl (fun m x => m.insert (key x) (val x)) m).get? k =
      ((l.reverse.find? fun x => decide (key x = k)).map val).or (m.get? k) := by
  induction l generalizing m with
  | nil => rfl
  | cons x l ih =>
    rw [List.foldl_cons, ih, List.reverse_cons, List.find?_append]
    cases h : l.reverse.find? fun x => decide (key x = k) with
    | some y => rfl
    | none =>
      by_cases hk : key x = k
      · subst hk; simp
      · rw [get?_insert_ne m (Ne.symm hk)]
        simp [hk]

theorem get?_insertFirst (m : SortedMap κ α) (k₀ : κ) (a : α) (k : κ) :
    (m.insertFirst k₀ a).get? k = (m.get? k).or (if k₀ = k then some a else none) := by
  unfold insertFirst contains
  cases h : m.get? k₀ with
  | some b =>
    by_cases hk : k₀ = k
    · subst hk; simp [h]
    · simp [hk]
  | none =>
    by_cases hk : k₀ = k
    · subst hk; simp [h]
    · simp [hk, get?_insert_ne m (Ne.symm hk)]

theorem get?_foldl_insertFirst {β : Type} (key : β → κ) (val : β → α) (l : List β)
    (m : SortedMap κ α) (k : κ) :
    (l.foldl (fun m x => m.insertFirst (key x) (val x)) m).get? k =
      (m.get? k).or ((l.find? fun x => decide (key x = k)).map val) := by
  induction l generalizing m with
  | nil => simp
  | cons x l ih =>
    rw [List.foldl_cons, ih, get?_insertFirst, Option.or_assoc]
    by_cases hk : key x = k <;> simp [hk]

theorem get?_foldl_push {β : Type} (key : β → κ) (val : β → α) (l : List β)
    (m : SortedMap κ (List α)) (k : κ) :
    ((l.foldl (fun m x => m.push (key x) (val x)) m).get? k).getD [] =
      (m.get? k).getD [] ++ (l.filter fun x => decide (key x = k)).map val := by
  induction l generalizing m with
  | nil => simp
  | cons x l ih =>
    rw [List.foldl_cons, ih]
    by_cases hk : key x = k
    · subst hk
      simp [push]
    · have hg : (m.push (key x) (val x)).get? k = m.get? k := get?_insert_ne m (Ne.symm hk) _
      rw [hg]
      simp [hk]

/-! ## Size -/

theorem find_eq_none_of_lt (h : ∀ e ∈ l, k < e.1) : find k l = none := by
  induction l with
  | nil => rfl
  | cons x l ih =>
    have hx : k < x.1 := h x List.mem_cons_self
    simp only [find, if_neg (ne_of_lt hx)]
    exact ih fun e he => h e (List.mem_cons_of_mem x he)

theorem length_put (hs : l.Pairwise fun a b => a.1 < b.1) :
    (put k a l).length = l.length + if (find k l).isSome then 0 else 1 := by
  induction l with
  | nil => rfl
  | cons x l ih =>
    obtain ⟨k', a'⟩ := x
    obtain ⟨hx, hl⟩ := List.pairwise_cons.1 hs
    by_cases hk : k = k'
    · simp [put, find, hk]
    · by_cases hlt : k < k'
      · have hn : find k l = none := find_eq_none_of_lt fun e he => lt_trans hlt (hx e he)
        simp [put, find, hk, hlt, hn]
      · simp only [put, find, if_neg hk, if_neg hlt, List.length_cons, ih hl]
        omega

theorem size_insert (m : SortedMap κ α) (k : κ) (a : α) :
    (m.insert k a).size = m.size + if m.contains k then 0 else 1 :=
  length_put m.sorted

theorem contains_insert (m : SortedMap κ α) (k k₀ : κ) (a : α) :
    (m.insert k a).contains k₀ = (decide (k₀ = k) || m.contains k₀) := by
  unfold contains
  rw [get?_insert]
  by_cases h : k₀ = k <;> simp [h]

theorem contains_erase (m : SortedMap κ α) (k k₀ : κ) :
    (m.erase k).contains k₀ = (decide (k₀ ≠ k) && m.contains k₀) := by
  unfold contains
  by_cases h : k₀ = k
  · subst h
    simp
  · rw [get?_erase_ne m h]
    simp [h]

theorem size_foldl_insert_le {β : Type} (key : β → κ) (val : β → α) (l : List β)
    (m : SortedMap κ α) :
    (l.foldl (fun m x => m.insert (key x) (val x)) m).size ≤ m.size + l.length := by
  induction l generalizing m with
  | nil => exact Nat.le_refl _
  | cons x l ih =>
    have hr := ih (m.insert (key x) (val x))
    rw [size_insert] at hr
    rw [List.foldl_cons, List.length_cons]
    split at hr <;> omega

/-- A loop of insertions in which every one makes the map larger uses every key once. -/
theorem nodup_of_size_foldl_insert {β : Type} (key : β → κ) (val : β → α) (l : List β)
    (m : SortedMap κ α)
    (h : (l.foldl (fun m x => m.insert (key x) (val x)) m).size = m.size + l.length) :
    (l.map key).Nodup ∧ ∀ x ∈ l, m.contains (key x) = false := by
  induction l generalizing m with
  | nil => simp
  | cons x l ih =>
    rw [List.foldl_cons, List.length_cons] at h
    have hl := size_foldl_insert_le key val l (m.insert (key x) (val x))
    have hs := size_insert m (key x) (val x)
    have hx : m.contains (key x) = false := by
      by_contra hn
      rw [Bool.not_eq_false] at hn
      rw [hn, if_pos rfl] at hs
      omega
    rw [hx, if_neg Bool.false_ne_true] at hs
    obtain ⟨hnd, hf⟩ := ih (m.insert (key x) (val x)) (by omega)
    -- a later element cannot bring the key of `x` again, nor a key of `m`
    have ho : ∀ y ∈ l, key y ≠ key x ∧ m.contains (key y) = false := by
      intro y hy
      simpa [contains_insert] using hf y hy
    refine ⟨?_, ?_⟩
    · rw [List.map_cons, List.nodup_cons, List.mem_map]
      refine ⟨?_, hnd⟩
      rintro ⟨y, hy, he⟩
      exact (ho y hy).1 he
    · intro y hy
      rcases List.mem_cons.1 hy with rfl | hy
      · exact hx
      · exact (ho y hy).2

/-- The keys are listed in increasing order. -/
theorem keys_sorted (m : SortedMap κ α) : m.keys.Pairwise (· < ·) := List.pairwise_map.2 m.sorted

theorem mem_keys_iff_contains (m : SortedMap κ α) : k ∈ m.keys ↔ m.contains k = true := by
  rw [mem_keys, contains, Option.isSome_iff_exists]

end SortedMap
