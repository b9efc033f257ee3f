import Woml.Schedule.Proof.Race

/-!
# What the search finds

The search for an instant of a schedule finds the nearest one, unless none lies within its bound
(`SearchExact`). The occurrences of a window are found one after the other, up to the first one that
is not in the window. They are listed exactly, unless one of these searches goes beyond the bound
(`occurrences_exact`): a window of a schedule that never matches has no empty list.
-/

namespace Woml

namespace WomlSchedule

/-- The time that a search covers. -/
def searchBound : Int := maxSearchMinutes * minute

variable {schedule : WomlSchedule} {start found instant : DateTime} {left : Nat}

theorem search_eq_none {d : Int} : schedule.search d left start = none ↔
    ∀ k < left, schedule.matches (start + (k : Int) * (d * minute)) = false := by
  induction left generalizing start with
  | zero => simp [search]
  | succ left ih =>
    have hs (k : Nat) : start + d * minute + (k : Int) * (d * minute) =
        start + ((k + 1 : Nat) : Int) * (d * minute) := by
      rw [Nat.cast_succ, Int.add_mul, Int.one_mul, Int.add_assoc, Int.add_comm (d * minute)]
    rw [search, Nat.forall_lt_succ_left]
    split
    · rename_i hm
      exact iff_of_false nofun fun h => by simpa [hm] using h.1
    · rename_i hm
      rw [ih]
      simp only [hs]
      simp [hm]

/-- A search fails exactly if no minute of its range matches. -/
theorem search_none_iff {d : Int} (hd : d = 1 ∨ d = -1)
    (hs : start % minute = 0) : schedule.search d left start = none ↔
      ∀ p, schedule.Planned p → 0 ≤ d * (p - start) →
        left * minute ≤ d * (p - start) := by
  rw [search_eq_none]
  unfold minute DateTime at *
  constructor
  · intro h p hp hl
    by_contra hlt
    have hmo : p % 60000000000 = 0 := hp.1
    have hn := h (d * (p - start) / 60000000000).toNat (by omega)
    have hp' : start + ((d * (p - start) / 60000000000).toNat : Int) *
        (d * 60000000000) = p := by obtain rfl | rfl := hd <;> omega
    rw [hp', hp.2] at hn
    cases hn
  · intro h k hk
    by_contra hm
    have hmo : (start + k * (d * 60000000000)) % 60000000000 = 0 := by
      obtain rfl | rfl := hd <;> omega
    have hl := h _ ⟨hmo, by simpa using hm⟩
    obtain rfl | rfl := hd <;> omega

theorem Planned.search_le {p : DateTime} (hp : schedule.Planned p) (hs : start % minute = 0)
    (hl : start ≤ p) (h : schedule.search 1 left start = some found) : found ≤ p := by
  have hn := hp.nearest (.inl rfl) hs (by unfold DateTime at *; omega) h
  unfold DateTime at *
  omega

/-- **The nearest instants of a schedule**, and when there is none within the bound. -/
structure SearchExact (schedule : WomlSchedule) (instant : DateTime) : Prop where
  atOrAfter : ∀ found, schedule.nextAtOrAfter instant = some found →
    IsLeast {p | schedule.Planned p ∧ instant ≤ p} found
  noneAtOrAfter : schedule.nextAtOrAfter instant = none ↔
    ∀ p, schedule.Planned p → instant ≤ p → instant + searchBound ≤ p
  after : ∀ found, schedule.nextAfter instant = some found →
    IsLeast {p | schedule.Planned p ∧ instant < p} found
  noneAfter : schedule.nextAfter instant = none ↔
    ∀ p, schedule.Planned p → instant < p → instant + searchBound < p
  atOrBefore : ∀ found, schedule.latestAtOrBefore instant = some found →
    IsGreatest {p | schedule.Planned p ∧ p ≤ instant} found
  noneAtOrBefore : schedule.latestAtOrBefore instant = none ↔
    ∀ p, schedule.Planned p → p ≤ instant → p ≤ instant - searchBound

theorem ceil_mod : (if floorMinute instant < instant then floorMinute instant + minute
    else floorMinute instant) % minute = 0 := by
  unfold floorMinute minute DateTime at *
  split <;> omega

theorem searchExact (s : WomlSchedule) (i : DateTime) : s.SearchExact i where
  atOrAfter found h := by
    refine ⟨⟨nextAtOrAfter_planned h, ?_⟩, fun p ⟨hp, hl⟩ => hp.search_le ceil_mod ?_ h⟩
    · have hl := le_search h
      unfold floorMinute minute DateTime at *
      split at hl <;> omega
    · have hm := hp.1
      unfold floorMinute minute DateTime at *
      split <;> omega
  noneAtOrAfter := by
    rw [nextAtOrAfter, search_none_iff (.inl rfl) ceil_mod]
    refine forall_congr' fun p => forall_congr' fun hp => ?_
    have hm := hp.1
    unfold searchBound floorMinute minute maxSearchMinutes DateTime at *
    split <;> omega
  after found h := by
    refine ⟨nextAfter_planned h, fun p ⟨hp, hlt⟩ => hp.search_le ?_ ?_ h⟩
    · rw [Int.add_emod_right, floorMinute_mod]
    · have hm := hp.1
      unfold floorMinute minute DateTime at *
      omega
  noneAfter := by
    rw [nextAfter, search_none_iff (.inl rfl) (by rw [Int.add_emod_right, floorMinute_mod])]
    refine forall_congr' fun p => forall_congr' fun hp => ?_
    have hm := hp.1
    unfold searchBound floorMinute minute maxSearchMinutes DateTime at *
    omega
  atOrBefore found h := ⟨⟨search_planned (floorMinute_mod i) h, latestAtOrBefore_le h⟩,
    fun _ ⟨hp, hl⟩ => hp.le_latest hl h⟩
  noneAtOrBefore := by
    rw [latestAtOrBefore, search_none_iff (.inr rfl) (floorMinute_mod i)]
    refine forall_congr' fun p => forall_congr' fun hp => ?_
    have hm := hp.1
    unfold searchBound floorMinute minute maxSearchMinutes DateTime at *
    omega

/-! ## Windows -/

variable {stop : DateTime} {l : List DateTime}

/-- The instants of a schedule in a window, in order. -/
def Lists (schedule : WomlSchedule) (start stop : DateTime) (l : List DateTime) : Prop :=
  l.Pairwise (· < ·) ∧ ∀ p, p ∈ l ↔ schedule.Planned p ∧ start ≤ p ∧ p < stop

/-- An instant of the window that none follows within the bound. -/
def Ceases (schedule : WomlSchedule) (start stop : DateTime) : Prop :=
  ∃ q, schedule.Planned q ∧ start ≤ q ∧ q < stop ∧
    ∀ p, schedule.Planned p → q < p → q + searchBound < p

theorem lists_of_occurrencesFrom (hp : schedule.Planned instant)
    (h : schedule.occurrencesFrom stop instant = some l) : schedule.Lists instant stop l := by
  fun_induction occurrencesFrom schedule stop instant generalizing l with
  | case1 => cases h
  | case2 t hlt next hne ih =>
    obtain ⟨rest, hre, rfl⟩ := Option.map_eq_some_iff.1 h
    obtain ⟨⟨hnp, hn⟩, hl⟩ := (searchExact schedule t).after next hne
    obtain ⟨hso, hm⟩ := ih hnp hre
    refine ⟨List.pairwise_cons.2 ⟨fun p hr => hn.trans_le ((hm p).1 hr).2.1, hso⟩, fun p => ?_⟩
    rw [List.mem_cons, hm]
    constructor
    · rintro (rfl | ⟨hq, hle, hs⟩)
      · exact ⟨hp, le_rfl, hlt⟩
      · exact ⟨hq, hn.le.trans hle, hs⟩
    · rintro ⟨hq, hle, hs⟩
      exact hle.eq_or_lt.imp Eq.symm fun hl' => ⟨hq, hl ⟨hq, hl'⟩, hs⟩
  | case3 t hg =>
    cases h
    exact ⟨.nil, fun p => ⟨nofun, fun hq => absurd (hq.2.1.trans_lt hq.2.2) hg⟩⟩

theorem occurrencesFrom_eq_none (hp : schedule.Planned instant) :
    schedule.occurrencesFrom stop instant = none ↔ schedule.Ceases instant stop := by
  fun_induction occurrencesFrom schedule stop instant with
  | case1 t hlt hno =>
    exact iff_of_true rfl ⟨t, hp, le_rfl, hlt, (searchExact schedule t).noneAfter.1 hno⟩
  | case2 t hlt next hne ih =>
    obtain ⟨⟨hnp, hn⟩, hls⟩ := (searchExact schedule t).after next hne
    rw [Option.map_eq_none_iff, ih hnp]
    constructor
    · rintro ⟨q, hq, hle, hr⟩
      exact ⟨q, hq, hn.le.trans hle, hr⟩
    · rintro ⟨q, hq, hle, hs, hl⟩
      obtain rfl | hl' := hle.eq_or_lt
      · -- the next instant lies within the bound
        have hno := (searchExact schedule t).noneAfter.2 hl
        rw [hne] at hno
        cases hno
      · exact ⟨q, hq, hls ⟨hq, hl'⟩, hs, hl⟩
  | case3 t hg =>
    refine iff_of_false nofun ?_
    rintro ⟨q, -, hle, hs, -⟩
    exact hg (hle.trans_lt hs)

/-- **The search is exact, and the occurrences of a window are listed exactly**, unless no instant
lies within the bound from the start of the window or after one of its instants. -/
theorem occurrences_exact (schedule : WomlSchedule) (instant start stop : DateTime) :
    schedule.SearchExact instant ∧
      (∀ l, schedule.occurrencesBetween start stop = some l → schedule.Lists start stop l) ∧
      (schedule.occurrencesBetween start stop = none ↔ start < stop ∧
        ((∀ p, schedule.Planned p → start ≤ p → start + searchBound ≤ p) ∨
          schedule.Ceases start stop)) := by
  refine ⟨searchExact schedule instant, ?_⟩
  have hf := searchExact schedule start
  unfold occurrencesBetween
  split
  · rename_i hle
    refine ⟨fun l h => ?_, iff_of_false nofun fun h => absurd h.1 (not_lt.2 hle)⟩
    cases h
    exact ⟨.nil, fun p => ⟨nofun, fun hp => absurd (hp.2.1.trans_lt hp.2.2) (not_lt.2 hle)⟩⟩
  · rename_i hlt
    cases hn : schedule.nextAtOrAfter start with
    | none => exact ⟨nofun, iff_of_true rfl ⟨not_le.1 hlt, .inl (hf.noneAtOrAfter.1 hn)⟩⟩
    | some first =>
      obtain ⟨⟨hp, hle⟩, hl⟩ := hf.atOrAfter first hn
      -- an instant is not before the start exactly if it is not before the first one
      have hfr {q : DateTime} (hq : schedule.Planned q) : first ≤ q ↔ start ≤ q :=
        ⟨hle.trans, fun hs => hl ⟨hq, hs⟩⟩
      refine ⟨fun l h => ?_, ?_⟩
      · obtain ⟨hsr, hm⟩ := lists_of_occurrencesFrom hp h
        refine ⟨hsr, fun p => (hm p).trans (and_congr_right fun hq => ?_)⟩
        rw [hfr hq]
      · have hso : ¬∀ p, schedule.Planned p → start ≤ p → start + searchBound ≤ p := fun h => by
          rw [hf.noneAtOrAfter.2 h] at hn
          cases hn
        rw [Option.bind_some, occurrencesFrom_eq_none hp, or_iff_right hso,
          and_iff_right (not_le.1 hlt)]
        exact exists_congr fun q => and_congr_right fun hq => by rw [hfr hq]

/-- `0 0 31 2 *`: midnight of February 31. -/
def february31 : CronFields :=
  ⟨⟨[0], false⟩, ⟨[0], false⟩, ⟨[31], false⟩, ⟨[2], false⟩, ⟨[0, 1, 2, 3, 4, 5, 6], true⟩⟩

/-- UTC: the days since March 1 of a 400-year cycle, its year, and the months from March on. -/
def utc (instant : DateTime) : LocalTime :=
  let days : Int := instant / minute / 1440
  let day := ((days + 719468) % 146097).toNat
  let year := (day - day / 1460 + day / 36524 - day / 146096) / 365
  let day := day - (365 * year + year / 4 - year / 100)
  let month := (5 * day + 2) / 153
  { minute := (instant / minute % 60).toNat
    hour := (instant / minute / 60 % 24).toNat
    day := day - (153 * month + 2) / 5 + 1
    month := if month < 10 then month + 3 else month - 9
    weekday := ((days + 4) % 7).toNat }

/-- UTC shows no February 31. The list of no occurrences on the first day is not returned. -/
theorem february31_not_listed :
    (ofCron february31 utc).Lists 0 86400000000000 [] ∧
      (ofCron february31 utc).occurrencesBetween 0 86400000000000 = none := by
  have hn (p : DateTime) : ¬(ofCron february31 utc).Planned p := by
    rintro ⟨-, hm⟩
    simp only [ofCron, february31, Bool.and_eq_true, List.contains_cons, List.contains_nil,
      Bool.or_false, beq_iff_eq, utc] at hm
    split at hm <;> omega
  refine ⟨⟨.nil, fun p => ⟨nofun, fun hp => absurd hp.1 (hn p)⟩⟩, ?_⟩
  have hno := (searchExact (ofCron february31 utc) 0).noneAtOrAfter.2 fun p hp =>
    absurd hp (hn p)
  rw [occurrencesBetween, if_neg (by decide), hno, Option.bind_none]

end WomlSchedule

end Woml
