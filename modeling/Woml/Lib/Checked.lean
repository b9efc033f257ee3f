import Mathlib

/-!
# Fallible steps

Guards over `Except` and their inversion rules. A step written with `failIf`, `orFail` and
`>>=` that returned a value passed every guard on the way: `Except.bind_eq_ok`, `failIf_eq_ok`
and `orFail_eq_ok` peel such a step apart by `simp only` without unfolding the monad.
-/

namespace Checked

variable {ε α β : Type _} {x : Except ε α} {f : α → Except ε β}

/-- Stop with `e` when `p` holds. -/
def failIf (p : Prop) [Decidable p] (e : ε) : Except ε Unit := if p then .error e else .ok ()

/-- The value of `o`, or the error `e`. -/
def orFail (o : Option α) (e : ε) : Except ε α :=
  match o with
  | some a => .ok a
  | none => .error e

theorem bind_eq_ok {b : β} : x >>= f = .ok b ↔ ∃ a, x = .ok a ∧ f a = .ok b := by
  cases x <;> simp [bind, Except.bind]

theorem bind_unit_eq_ok {x : Except ε Unit} {f : Unit → Except ε β} {b : β} :
    x >>= f = .ok b ↔ x = .ok () ∧ f () = .ok b := by
  cases x <;> simp [bind, Except.bind]

theorem map_eq_ok {f : α → β} {b : β} : f <$> x = .ok b ↔ ∃ a, x = .ok a ∧ f a = b := by
  cases x <;> simp [Functor.map, Except.map]

theorem pure_eq_ok {a b : α} : (pure a : Except ε α) = .ok b ↔ a = b := by
  simp [pure, Except.pure]

theorem mapError_eq_ok {ε' : Type _} {f : ε → ε'} {a : α} : x.mapError f = .ok a ↔ x = .ok a := by
  cases x <;> simp [Except.mapError]

@[simp] theorem failIf_eq_ok {p : Prop} [Decidable p] {e : ε} {u : Unit} :
    failIf p e = .ok u ↔ ¬p := by
  unfold failIf; split <;> simp_all

@[simp] theorem orFail_eq_ok {o : Option α} {e : ε} {a : α} : orFail o e = .ok a ↔ o = some a := by
  cases o <;> simp [orFail]

/-- What a computation that returned has passed: the rules for its steps as one simp set. -/
theorem eq_ok_iff :
    (∀ {ε α β : Type} {x : Except ε α} {f : α → Except ε β} {b : β},
      x >>= f = .ok b ↔ ∃ a, x = .ok a ∧ f a = .ok b) ∧
    (∀ {ε α β : Type} {x : Except ε α} {f : α → β} {b : β},
      f <$> x = .ok b ↔ ∃ a, x = .ok a ∧ f a = b) ∧
    (∀ {ε ε' α : Type} {x : Except ε α} {f : ε → ε'} {a : α},
      x.mapError f = .ok a ↔ x = .ok a) ∧
    (∀ {ε : Type} {p : Prop} [Decidable p] {e : ε} {u : Unit}, failIf p e = .ok u ↔ ¬p) ∧
    (∀ {ε α : Type} {o : Option α} {e : ε} {a : α}, orFail o e = .ok a ↔ o = some a) ∧
    ∀ {ε α : Type} {a b : α}, (.ok a : Except ε α) = .ok b ↔ a = b :=
  ⟨bind_eq_ok, map_eq_ok, mapError_eq_ok, failIf_eq_ok, orFail_eq_ok, by simp⟩

/-! A step that failed did so at one of its guards. -/

theorem bind_eq_error {e : ε} :
    x >>= f = .error e ↔ x = .error e ∨ ∃ a, x = .ok a ∧ f a = .error e := by
  cases x <;> simp [bind, Except.bind]

theorem map_eq_error {f : α → β} {e : ε} : f <$> x = .error e ↔ x = .error e := by
  cases x <;> simp [Functor.map, Except.map]

theorem failIf_eq_error {p : Prop} [Decidable p] {e e' : ε} :
    failIf p e = .error e' ↔ p ∧ e = e' := by
  unfold failIf; split <;> simp_all

theorem orFail_eq_error {o : Option α} {e e' : ε} : orFail o e = .error e' ↔ o = none ∧ e = e' := by
  cases o <;> simp [orFail]

theorem toOption_eq_some {a : α} : x.toOption = some a ↔ x = .ok a := by
  cases x <;> simp [Except.toOption]

theorem exists_ok (h : x.isOk = true) : ∃ a, x = .ok a := by
  cases x with
  | error e => cases h
  | ok a => exact ⟨a, rfl⟩

/-! What a computation returns is decided by running it. -/

section
variable {p : α → Prop} [DecidablePred p] {o : Option α}

instance decidableOkAnd : Decidable (∃ a, x = .ok a ∧ p a) :=
  match x with
  | .ok a => decidable_of_iff (p a) (by simp)
  | .error _ => .isFalse (by simp)

instance decidableReturns : Decidable (∃ a, x = .ok a) :=
  decidable_of_iff (∃ a, x = .ok a ∧ True) (by simp)

instance decidablePasses {x : Except ε Unit} : Decidable (x = .ok ()) :=
  decidable_of_iff (∃ a, x = .ok a) ⟨fun ⟨_, h⟩ => h, fun h => ⟨_, h⟩⟩

instance decidableFails [DecidableEq ε] {e : ε} : Decidable (x = .error e) :=
  match x with
  | .ok _ => .isFalse nofun
  | .error e' => decidable_of_iff (e' = e) (by simp)

instance decidableSomeAnd : Decidable (∃ a, o = some a ∧ p a) :=
  match o with
  | some a => decidable_of_iff (p a) (by simp)
  | none => .isFalse (by simp)

instance decidableForallSome : Decidable (∀ a, o = some a → p a) :=
  match o with
  | some a => decidable_of_iff (p a) (by simp)
  | none => .isTrue nofun

end

theorem isOk_bind_iff : (x >>= f).isOk = true ↔ ∃ a, x = .ok a ∧ (f a).isOk = true := by
  cases x <;> simp [bind, Except.bind, Except.isOk, Except.toBool]

@[simp] theorem ok_bind (a : α) (f : α → Except ε β) : (.ok a : Except ε α) >>= f = f a := rfl

@[simp] theorem error_bind (e : ε) (f : α → Except ε β) :
    (.error e : Except ε α) >>= f = .error e := rfl

/-! ## Loops with a fallible test -/

/-- The elements that pass the test, in order; the first failing test stops the loop. -/
def filterChecked (p : α → Except ε Bool) : List α → Except ε (List α)
  | [] => .ok []
  | x :: xs => do
    if ← p x then
      let rest ← filterChecked p xs
      .ok (x :: rest)
    else filterChecked p xs

theorem filterChecked_of_ok {p : α → Except ε Bool} {q : α → Bool} {l : List α}
    (h : ∀ x ∈ l, p x = .ok (q x)) : filterChecked p l = .ok (l.filter q) := by
  induction l with
  | nil => rfl
  | cons x l ih =>
    have hl := ih fun y hy => h y (List.mem_cons_of_mem x hy)
    simp only [filterChecked, h x List.mem_cons_self, ok_bind, hl, List.filter_cons]
    cases q x <;> rfl

theorem allM_of_ok {α : Type} {f : α → Except ε Bool} {q : α → Bool} {l : List α}
    (h : ∀ x ∈ l, f x = .ok (q x)) : l.allM f = .ok (l.all q) := by
  induction l with
  | nil => rfl
  | cons x l ih =>
    have hl := ih fun y hy => h y (List.mem_cons_of_mem x hy)
    rw [List.allM_cons, h x List.mem_cons_self, ok_bind, hl, List.all_cons]
    cases q x <;> rfl

theorem anyM_eq_false {α : Type} {f : α → Except ε Bool} {l : List α} :
    l.anyM f = .ok false ↔ ∀ x ∈ l, f x = .ok false := by
  induction l with
  | nil => simp [pure_eq_ok]
  | cons x l ih =>
    simp only [List.anyM_cons, bind_eq_ok, List.forall_mem_cons, ← ih]
    constructor
    · rintro ⟨b, hb, h⟩
      cases b with
      | true => cases h
      | false => exact ⟨hb, h⟩
    · rintro ⟨hb, h⟩
      exact ⟨false, hb, h⟩

theorem exists_of_anyM {α : Type} {f : α → Except ε Bool} {l : List α}
    (h : l.anyM f = .ok true) : ∃ x ∈ l, f x = .ok true := by
  induction l with
  | nil => cases h
  | cons x l ih =>
    simp only [List.anyM_cons, bind_eq_ok] at h
    obtain ⟨b, hb, h⟩ := h
    cases b with
    | true => exact ⟨x, List.mem_cons_self, hb⟩
    | false =>
      obtain ⟨y, hy, hf⟩ := ih h
      exact ⟨y, List.mem_cons_of_mem x hy, hf⟩

/-- Filtering before a search is the same as failing the filtered elements. -/
theorem anyM_filter {α : Type} (q : α → Bool) (f : α → Except ε Bool) (l : List α) :
    (l.filter q).anyM f = l.anyM fun x => if q x then f x else .ok false := by
  induction l with
  | nil => rfl
  | cons x l ih =>
    by_cases h : q x = true
    · simp only [List.filter_cons, h, if_true, List.anyM_cons, ih]
    · simp [h, ih]

/-- Searching for a kept element with a given key, without filtering the rest. -/
theorem anyM_of_filterChecked {α : Type} {p : α → Except ε Bool} {q : α → Bool} {l kept : List α}
    (h : filterChecked p l = .ok kept) :
    (l.anyM fun x => if q x then p x else .ok false) = .ok (kept.any q) := by
  induction l generalizing kept with
  | nil =>
    simp only [filterChecked, Except.ok.injEq] at h
    subst h
    rfl
  | cons x l ih =>
    simp only [filterChecked, bind_eq_ok] at h
    obtain ⟨b, hb, h⟩ := h
    rw [List.anyM_cons]
    cases b with
    | false =>
      have hx : (if q x then p x else .ok false) = (.ok false : Except ε Bool) := by
        split
        · exact hb
        · rfl
      simp only [hx, ok_bind, Bool.false_eq_true, if_false]
      exact ih h
    | true =>
      simp only [if_true, bind_eq_ok, Except.ok.injEq] at h
      obtain ⟨rest, hr, rfl⟩ := h
      by_cases hq : q x = true
      · simp [hq, hb, pure, Except.pure]
      · simp only [hq, Bool.false_eq_true, if_false, ok_bind, List.any_cons, Bool.false_or]
        exact ih hr

/-! ## Which errors a computation has -/

/-- If the computation fails, it fails with an error in `E`. -/
def Within (E : ε → Prop) : Except ε α → Prop
  | .ok _ => True
  | .error e => E e

variable {E : ε → Prop}

theorem Within.bind (hx : Within E x) (hf : ∀ a, x = .ok a → Within E (f a)) :
    Within E (x >>= f) := by
  cases x with
  | ok a => exact hf a rfl
  | error e => exact hx

/-- A computation without an admissible error returns. -/
theorem Within.returns (h : Within (fun _ => False) x) : ∃ a, x = .ok a := by
  cases x with
  | ok a => exact ⟨a, rfl⟩
  | error e => exact h.elim

theorem anyM_within {α : Type} {f : α → Except ε Bool} {l : List α}
    (h : ∀ x ∈ l, Within E (f x)) : Within E (l.anyM f) := by
  induction l with
  | nil => trivial
  | cons x l ih =>
    refine (h x List.mem_cons_self).bind fun b _ => ?_
    cases b with
    | true => trivial
    | false => exact ih fun y hy => h y (List.mem_cons_of_mem x hy)

theorem allM_within {α : Type} {f : α → Except ε Bool} {l : List α}
    (h : ∀ x ∈ l, Within E (f x)) : Within E (l.allM f) := by
  induction l with
  | nil => trivial
  | cons x l ih =>
    refine (h x List.mem_cons_self).bind fun b _ => ?_
    cases b with
    | false => trivial
    | true => exact ih fun y hy => h y (List.mem_cons_of_mem x hy)

theorem filterChecked_within {p : α → Except ε Bool} {l : List α}
    (h : ∀ x ∈ l, Within E (p x)) : Within E (filterChecked p l) := by
  induction l with
  | nil => trivial
  | cons x l ih =>
    have hl := ih fun y hy => h y (List.mem_cons_of_mem x hy)
    refine (h x List.mem_cons_self).bind fun b _ => ?_
    cases b with
    | false => exact hl
    | true => exact hl.bind fun _ _ => trivial

/-! ## What a computation returns -/

/-- Whatever the computation returns satisfies `Q`. -/
def Ensures (Q : α → Prop) (x : Except ε α) : Prop := ∀ a, x = .ok a → Q a

theorem Ensures.ok {Q : α → Prop} {a : α} (h : Q a) : Ensures Q (.ok a : Except ε α) := by
  rintro _ ⟨⟩
  exact h

theorem Ensures.error {Q : α → Prop} {e : ε} : Ensures Q (.error e : Except ε α) := nofun

theorem Ensures.bind {Q : β → Prop} (h : ∀ a, x = .ok a → Ensures Q (f a)) :
    Ensures Q (x >>= f) := by
  intro b hb
  obtain ⟨a, ha, hb⟩ := bind_eq_ok.1 hb
  exact h a ha b hb

theorem Ensures.seq {P : α → Prop} {Q : β → Prop} (hx : Ensures P x)
    (hf : ∀ a, P a → Ensures Q (f a)) : Ensures Q (x >>= f) :=
  Ensures.bind fun a ha => hf a (hx a ha)

/-- Whatever `x` returns, `y` returns the image of it. -/
def Maps (g : α → β) (x : Except ε α) (y : Except ε β) : Prop := ∀ a, x = .ok a → y = .ok (g a)

section
variable {γ δ : Type _} {g : α → β} {k : γ → δ}

theorem Maps.ok {a : α} {b : β} (h : b = g a) : Maps g (.ok a : Except ε α) (.ok b) := by
  rintro _ ⟨⟩
  rw [h]

theorem Maps.error {e : ε} {y : Except ε β} : Maps g (.error e) y := nofun

theorem Maps.bind {y : Except ε β} {f : α → Except ε γ} {f' : β → Except ε δ} (hx : Maps g x y)
    (hf : ∀ a, Maps k (f a) (f' (g a))) : Maps k (x >>= f) (y >>= f') := by
  intro c hc
  obtain ⟨a, ha, hc⟩ := bind_eq_ok.1 hc
  rw [hx a ha, ok_bind]
  exact hf a c hc

theorem Maps.same {f : α → Except ε γ} {f' : α → Except ε δ} (hf : ∀ a, Maps k (f a) (f' a)) :
    Maps k (x >>= f) (x >>= f') :=
  Maps.bind (g := id) (fun _ h => h) hf

end

end Checked
