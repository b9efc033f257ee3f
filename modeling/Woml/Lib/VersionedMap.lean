import Mathlib

/-!
# Versioned maps

A map whose keys count their changes. Writing and removing a key take its next version, so a key
that is removed and written again goes on where it was: along any sequence of changes the versions
of a key only grow (`Extends.version_le`).
-/

variable {K V T : Type}

namespace VersionedMap

structure Cell (V T : Type) where
  value : V
  version : Nat
  stamp : T

end VersionedMap

/-- The live cells, and for every key the last version that was given out for it. -/
structure VersionedMap (K V T : Type) where
  cell : K → Option (VersionedMap.Cell V T)
  last : K → Nat
  current : ∀ {k c}, cell k = some c → c.version = last k ∧ 0 < last k

namespace VersionedMap

def empty : VersionedMap K V T := ⟨fun _ => none, fun _ => 0, nofun⟩

variable [DecidableEq K] (m : VersionedMap K V T)

/-- The key changes: it takes its next version, with a cell or without one. -/
def change (k : K) (c : Option (V × T)) : VersionedMap K V T where
  cell := Function.update m.cell k (c.map fun (v, t) => ⟨v, m.last k + 1, t⟩)
  last := Function.update m.last k (m.last k + 1)
  current := by
    intro k' c' h
    by_cases hk : k' = k
    · subst hk
      rw [Function.update_self, Option.map_eq_some_iff] at h
      obtain ⟨_, _, rfl⟩ := h
      rw [Function.update_self]
      exact ⟨rfl, Nat.succ_pos _⟩
    · rw [Function.update_of_ne hk] at h ⊢
      exact m.current h

def write (k : K) (v : V) (t : T) : VersionedMap K V T := m.change k (some (v, t))

def remove (k : K) : VersionedMap K V T := m.change k none

/-! ## Later maps -/

/-- No key of the second map is behind the first one, and one that is where it was has the cell
that it had. -/
def Extends (m m' : VersionedMap K V T) : Prop :=
  ∀ k, m.last k ≤ m'.last k ∧ (m'.last k = m.last k → m'.cell k = m.cell k)

omit [DecidableEq K] in
theorem Extends.refl (m : VersionedMap K V T) : m.Extends m := fun _ => ⟨le_rfl, fun _ => rfl⟩

omit [DecidableEq K] in
theorem Extends.trans {m m' m'' : VersionedMap K V T} (h : m.Extends m') (h' : m'.Extends m'') :
    m.Extends m'' := by
  intro k
  obtain ⟨hl, hs⟩ := h k
  obtain ⟨hl', hs'⟩ := h' k
  refine ⟨hl.trans hl', fun he => ?_⟩
  have hm : m'.last k = m.last k := le_antisymm (hl'.trans he.le) hl
  exact (hs' (he.trans hm.symm)).trans (hs hm)

theorem Extends.change (k : K) (c : Option (V × T)) : m.Extends (m.change k c) := by
  intro k'
  by_cases hk : k' = k
  · subst hk
    simp [VersionedMap.change]
  · simp [VersionedMap.change, Function.update_of_ne hk]

omit [DecidableEq K] in
/-- **A version stands for one value**: a key that has one version at two times had it, with one
cell, at every time in between. -/
theorem Extends.unchanged {m m' m'' : VersionedMap K V T} (h : m.Extends m') (h' : m'.Extends m'')
    {k : K} {c c'' : Cell V T} (hc : m.cell k = some c) (hc'' : m''.cell k = some c'')
    (hv : c''.version = c.version) : m'.cell k = some c ∧ c'' = c := by
  have hl : m''.last k = m.last k := by rw [← (m.current hc).1, ← (m''.current hc'').1, hv]
  have hm : m'.last k = m.last k := le_antisymm ((h' k).1.trans hl.le) (h k).1
  have hce := ((h k).2 hm).trans hc
  have hce'' := ((h' k).2 (hl.trans hm.symm)).trans hce
  exact ⟨hce, Option.some.inj (hc''.symm.trans hce'')⟩

omit [DecidableEq K] in
theorem Extends.version_le {m m' : VersionedMap K V T} (h : m.Extends m') {k : K} {c c' : Cell V T}
    (hc : m.cell k = some c) (hc' : m'.cell k = some c') : c.version ≤ c'.version := by
  rw [(m.current hc).1, (m'.current hc').1]
  exact (h k).1

end VersionedMap
