import Mathlib

/-!
# Runs

A run of a system is the left fold of its steps. `foldl_of_prefixes` is the rule for an invariant
that a step keeps where the state before it meets a condition.
-/

namespace Runs

variable {σ α : Type} {f : σ → α → σ} {P : σ → Prop} {Q : σ → α → Prop}

theorem foldl_of_prefixes {s : σ} {l : List α} (h0 : P s)
    (hs : ∀ t, ∀ a ∈ l, P t → Q t a → P (f t a))
    (hq : ∀ n a, l[n]? = some a → Q ((l.take n).foldl f s) a) : P (l.foldl f s) := by
  induction l generalizing s with
  | nil => exact h0
  | cons a l ih =>
    exact ih (hs s a List.mem_cons_self h0 (hq 0 a rfl))
      (fun t b hb => hs t b (List.mem_cons_of_mem a hb)) fun n b hb => hq (n + 1) b hb

end Runs
