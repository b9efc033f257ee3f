import Woml.Store.Encodings

/-!
# Text order is time order

The text of an instant is a sequence of fields of fixed width, the fraction of a second apart. Texts
are compared field by field (`field_lt`); a shorter fraction goes on with the sign of the offset,
which is smaller than a digit (`fraction_lt`).
-/

namespace Woml

variable {w m n : Nat} {c d : List Nat}

@[simp] theorem length_padded : (padded w n).length = w := by
  induction w generalizing n with
  | zero => rfl
  | succ w ih => simp [padded, ih]

theorem append_lt_append {a b : List Nat} (h : a < b) (hl : a.length = b.length) :
    a ++ c < b ++ d := by
  induction a generalizing b with
  | nil => cases b <;> simp_all
  | cons x a ih =>
    cases b with
    | nil => cases hl
    | cons y b =>
      rw [List.cons_append, List.cons_append, List.cons_lt_cons_iff] at *
      exact h.imp_right fun h => ⟨h.1, ih h.2 (Nat.succ.inj hl)⟩

theorem padded_lt (hmn : m < n) (hn : n < 10 ^ w) : padded w m < padded w n := by
  induction w generalizing m n with
  | zero => omega
  | succ w ih =>
    unfold padded
    rcases Nat.lt_or_eq_of_le (Nat.div_le_div_right hmn.le : m / 10 ≤ n / 10) with h | h
    · exact append_lt_append (ih h (by omega)) (by simp)
    · rw [h]
      exact List.append_left_lt (List.cons_lt_cons_iff.2 (.inl (by omega)))

/-- Two texts are ordered by the numbers in front, and by what follows if these are equal. -/
theorem field_lt (hmn : m ≤ n) (hn : n < 10 ^ w) (h : m = n → c < d) :
    padded w m ++ c < padded w n ++ d := by
  rcases Nat.lt_or_eq_of_le hmn with hlt | rfl
  · exact append_lt_append (padded_lt hlt hn) (by simp)
  · exact List.append_left_lt (h rfl)

/-- The sign of the offset is smaller than a digit. -/
theorem offset_lt : utf8 "+00:00" < padded (w + 1) n ++ d := by
  induction w generalizing n d with
  | zero => exact List.cons_lt_cons_iff.2 (.inl (show 43 < 48 + n % 10 by omega))
  | succ w ih =>
    rw [padded, List.append_assoc]
    exact ih

theorem fraction_lt {k : Nat} (hmn : m < n) (hn : n < 1000 ^ k) :
    fraction k m ++ utf8 "+00:00" < fraction k n ++ utf8 "+00:00" := by
  induction k generalizing m n with
  | zero => omega
  | succ k ih =>
    rw [fraction, fraction, if_neg (show n ≠ 0 by omega), List.append_assoc]
    split
    · exact offset_lt
    · rw [List.append_assoc]
      have hn' : n / 1000 ^ k < 10 ^ 3 := Nat.div_lt_of_lt_mul (by rwa [Nat.pow_succ] at hn)
      refine field_lt (Nat.div_le_div_right hmn.le) hn' fun h =>
        ih ?_ (Nat.mod_lt _ (Nat.pow_pos (by decide)))
      have hm := Nat.div_add_mod m (1000 ^ k)
      have hn := Nat.div_add_mod n (1000 ^ k)
      rw [h] at hm
      omega

section
variable {start : Nat → Nat} {bound x y : Nat}

theorem start_lastStart (h : start 0 ≤ x) : start (lastStart start bound x) ≤ x :=
  @Nat.findGreatest_spec 0 (start · ≤ x) _ bound (Nat.zero_le _) h

theorem lastStart_mono (h : x ≤ y) : lastStart start bound x ≤ lastStart start bound y :=
  Nat.findGreatest_mono_left (fun _ hi => le_trans hi h) _

theorem lt_start_succ (h : lastStart start bound x < bound) :
    x < start (lastStart start bound x + 1) :=
  not_le.1 (@Nat.findGreatest_is_greatest _ (start · ≤ x) _ bound (Nat.lt_succ_self _) h)

end

theorem day_lt : ∀ leap, ∀ ordinal < 367,
    ordinal - daysBeforeMonth leap (lastStart (daysBeforeMonth leap) 11 ordinal) < 33 := by
  decide +kernel

theorem printed_lt (hmn : m < n) (hn : n < daysBeforeYear 10000 * dayNanos) :
    printed m < printed n := by
  have hday : m / dayNanos ≤ n / dayNanos := Nat.div_le_div_right hmn.le
  have hn : n / dayNanos < daysBeforeYear 10000 := Nat.div_lt_of_lt_mul (by rwa [Nat.mul_comm])
  have hs : m / dayNanos = n / dayNanos → m % dayNanos < n % dayNanos := fun h => by
    have hm := Nat.div_add_mod m dayNanos
    have hn := Nat.div_add_mod n dayNanos
    rw [h] at hm
    omega
  have hb : n % dayNanos < 86400 * 10 ^ 9 := Nat.mod_lt _ (by decide)
  simp only [printed, List.append_assoc]
  generalize m / dayNanos = i, n / dayNanos = j, m % dayNanos = k, n % dayNanos = l at *
  have hl : lastStart daysBeforeYear 9999 j ≤ 9999 := Nat.findGreatest_le _
  refine field_lt (lastStart_mono hday) (by omega) fun hy => List.append_left_lt ?_
  -- the years agree: the days are compared within the year
  have hi := @start_lastStart daysBeforeYear 9999 i (Nat.zero_le _)
  have hj : j < daysBeforeYear (lastStart daysBeforeYear 9999 j + 1) := by
    rcases Nat.lt_or_eq_of_le hl with h | h
    · exact lt_start_succ h
    · rwa [h]
  rw [hy] at hi ⊢
  generalize lastStart daysBeforeYear 9999 j = year at *
  generalize decide (daysBeforeYear (year + 1) = daysBeforeYear year + 366) = leap
  have ho : j - daysBeforeYear year < 367 := by
    simp only [daysBeforeYear] at hj ⊢
    omega
  have hl : lastStart (daysBeforeMonth leap) 11 (j - daysBeforeYear year) ≤ 11 :=
    Nat.findGreatest_le _
  refine field_lt (Nat.succ_le_succ (lastStart_mono (by omega))) (by omega)
    fun hm => List.append_left_lt ?_
  have hi' := @start_lastStart (daysBeforeMonth leap) 11 (i - daysBeforeYear year)
    (by cases leap <;> exact Nat.zero_le _)
  have hd := day_lt leap _ ho
  rw [Nat.succ.inj hm] at hi' ⊢
  generalize daysBeforeMonth leap _ = start at *
  refine field_lt (by omega) (by omega) fun hd => List.append_left_lt ?_
  -- the days agree: the times of the day are compared
  have hs := hs (by omega)
  refine field_lt (by omega) (by omega) fun _ => List.append_left_lt ?_
  refine field_lt (by omega) (by omega) fun _ => List.append_left_lt ?_
  refine field_lt (by omega) (by omega) fun _ => ?_
  rw [if_neg (show l % 10 ^ 9 ≠ 0 by omega)]
  split
  · exact List.cons_lt_cons_iff.2 (.inl (by decide))
  · rw [List.append_assoc, List.append_assoc]
    exact List.append_left_lt (fraction_lt (by omega) (by omega))

example : toRfc3339 1709164799000001000 = utf8 "2024-02-28T23:59:59.000001+00:00" := by
  decide +kernel

/-- The instants of the years 0 to 9999. -/
def InFourDigitYear (instant : DateTime) : Prop :=
  0 ≤ sinceYearZero instant ∧ sinceYearZero instant < daysBeforeYear 10000 * dayNanos

theorem toRfc3339_lt {t u : DateTime} (ht : InFourDigitYear t) (hu : InFourDigitYear u)
    (h : t < u) : toRfc3339 t < toRfc3339 u := by
  have h : sinceYearZero t < sinceYearZero u := Int.add_lt_add_right h _
  obtain ⟨ht, -⟩ := ht
  obtain ⟨-, hu⟩ := hu
  exact printed_lt (by omega) (by omega)

/-- Texts of instants of the years 0 to 9999 are ordered, byte by byte, as the instants are. -/
theorem text_order_is_time_order {t u : DateTime} (ht : InFourDigitYear t)
    (hu : InFourDigitYear u) :
    (toRfc3339 t < toRfc3339 u ↔ t < u) ∧ (toRfc3339 t = toRfc3339 u ↔ t = u) := by
  rcases lt_trichotomy t u with h | rfl | h
  · have hlt := toRfc3339_lt ht hu h
    exact ⟨iff_of_true hlt h, iff_of_false hlt.ne h.ne⟩
  · simp
  · have hlt := toRfc3339_lt hu ht h
    exact ⟨iff_of_false hlt.not_gt h.not_gt, iff_of_false hlt.ne' h.ne'⟩

theorem text_after_epoch : (toRfc3339 0 < toRfc3339 1 ↔ (0 : DateTime) < 1) ∧
    (toRfc3339 0 = toRfc3339 1 ↔ (0 : DateTime) = 1) :=
  text_order_is_time_order ⟨by decide, by decide⟩ ⟨by decide, by decide⟩

end Woml
