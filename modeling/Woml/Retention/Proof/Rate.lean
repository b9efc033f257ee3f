import Woml.Retention.Proof.Safety
import Woml.Store.Proof.Starts

/-!
# Retention and rate limits

The rate limit of a workflow is checked against the rows of first starts, and retention deletes these
rows with their runs. `Observed` is a store together with what an observer wrote down: every first
start and every execution of retention. As long as retention deletes no start that is less than the
window old, and the clock of the claims does not go back behind an execution of retention, no window
holds more starts than the limit (`first_starts_within_rate`).
-/

namespace Woml

open Relational Checked Store SortedMap LimitedWorkflow

/-! ## The store after an execution of retention -/

namespace DurableStore

variable {d : DurableStore} {p : RetentionPolicyV1} {li oi : String}
  {now : DateTime} {c : Nat → DateTime}

theorem mem_runs {ri : String} :
    (∃ run ∈ d.database (.core .runs), run.runId = ri) ↔ d.core.runs.contains ri = true := by
  rw [← mem_keys_iff_contains]
  simp [database, rows]

/-- What is left are the rows of the runs that are not gone. -/
theorem retained_spec : ∃ deleted : List String,
    (∀ runId, d.isGone (d.retained p li oi now c) runId = true ↔ runId ∈ deleted) ∧
    ∀ (t : Table) (row : Row t), row ∈ d.retained p li oi now c t ↔
      row ∈ d.database t ∧ ¬BelongsTo d.database deleted t row := by
  have hsp : ∃ deleted : List String,
      (∀ runId ∈ deleted, ∃ run ∈ d.database (.core .runs), run.runId = runId) ∧
      ∀ (t : Table) (row : Row t), row ∈ d.retained p li oi now c t ↔
        row ∈ d.database t ∧ ¬BelongsTo d.database deleted t row := by
    rcases @executeRetention_spec { database := d.database } p li oi now c
      fun _ => Iff.rfl with ⟨-, final, he⟩ | ⟨-, -, hs⟩
    · have hre := he.retained
      exact ⟨final.batches.flatten, fun runId hm =>
        List.mem_map.1 (mem_runs_of_deletable (hre.candidates runId hm).1), hre.rows⟩
    · refine ⟨[], nofun, fun t row => ?_⟩
      rw [retained, hs]
      simp [BelongsTo]
  obtain ⟨deleted, hst, hr⟩ := hsp
  refine ⟨deleted, fun runId => ?_, hr⟩
  have hl : (∃ run ∈ d.retained p li oi now c (.core .runs),
      run.runId = runId) ↔ d.core.runs.contains runId = true ∧ runId ∉ deleted := by
    rw [← mem_runs]
    simp only [hr, BelongsTo, column, coreColumn]
    constructor
    · rintro ⟨run, ⟨hru, hb⟩, rfl⟩
      exact ⟨⟨run, hru, rfl⟩, fun hm => hb (.inl ⟨.runId, by simp, _, hm, rfl⟩)⟩
    · rintro ⟨⟨run, hru, rfl⟩, hm⟩
      exact ⟨run, ⟨hru, by simpa using hm⟩, rfl⟩
  simp only [isGone, Bool.and_eq_true, Bool.not_eq_true', ← Bool.not_eq_true, List.any_eq_true,
    decide_eq_true_eq, hl]
  constructor
  · rintro ⟨hc, hn⟩
    by_contra hm
    exact hn ⟨hc, hm⟩
  · exact fun hm => ⟨mem_runs.1 (hst runId hm), fun h => h.2 hm⟩

end DurableStore

namespace Store

variable {s : Store} {gone : String → Bool}

theorem get?_kept {α : Type} (m : SortedMap String α) (r : String) :
    (m.filter fun runId _ => !gone runId).get? r = if gone r then none else m.get? r := by
  refine Option.ext fun a => ?_
  rw [SortedMap.get?_filter]
  cases gone r <;> simp

theorem mem_keys_kept {α : Type} {m : SortedMap String α} {row : RunKey} :
    (row ∈ (m.filter fun runId _ => !gone runId).keys.map RunKey.mk) ↔
      row ∈ m.keys.map RunKey.mk ∧ gone row.runId = false := by
  simp only [List.mem_map, SortedMap.mem_keys, SortedMap.get?_filter, Bool.not_eq_true']
  constructor
  · rintro ⟨r, ⟨a, ha, hk⟩, rfl⟩
    exact ⟨⟨r, ⟨a, ha⟩, rfl⟩, hk⟩
  · rintro ⟨⟨r, ⟨a, ha⟩, rfl⟩, hk⟩
    exact ⟨r, ⟨a, ha, hk⟩, rfl⟩

theorem updatedAt_without {r : String} (h : gone r = false) :
    (s.without gone).updatedAt r = s.updatedAt r := by
  rw [updatedAt, without, get?_kept, if_neg (by simp [h]), updatedAt]

theorem mem_rows_without {t : CoreTable} {row : CoreRow t} : row ∈ (s.without gone).rows t ↔
    row ∈ s.rows t ∧ ∀ runId, coreColumn t row .runId = some runId → gone runId = false := by
  cases t
  case runEvents =>
    simp only [rows, without, List.mem_flatMap, List.mem_map, Prod.exists, mem_entries,
      get?_filter, Bool.not_eq_true', coreColumn, Option.some.injEq, forall_eq']
    constructor
    · rintro ⟨r, run, ⟨hr, hk⟩, event, he, rfl⟩
      exact ⟨⟨r, run, hr, event, he, rfl⟩, hk⟩
    · rintro ⟨⟨r, run, hr, event, he, rfl⟩, hk⟩
      exact ⟨r, run, ⟨hr, hk⟩, event, he, rfl⟩
  case runSummaries =>
    simp only [rows, List.mem_filterMap, Prod.exists, mem_entries, Option.map_eq_some_iff,
      coreColumn, Option.some.injEq, forall_eq']
    constructor
    · rintro ⟨r, status, hs, at_, ha, rfl⟩
      obtain ⟨hs, hk⟩ := (get?_filter _ _).1 hs
      have hk : gone r = false := by simpa using hk
      exact ⟨⟨r, status, hs, at_, by rwa [updatedAt_without hk] at ha, rfl⟩, hk⟩
    · rintro ⟨⟨r, status, hs, at_, ha, rfl⟩, hk⟩
      exact ⟨r, status, (get?_filter _ _).2 ⟨hs, by simpa using hk⟩, at_,
        by rwa [updatedAt_without hk], rfl⟩
  case triggerOccurrences =>
    simp [rows, without, mem_values, get?_filter, coreColumn]
  all_goals
    refine mem_keys_kept.trans (and_congr_right fun _ => ?_)
    simp [coreColumn]

end Store

namespace DurableStore

variable {d : DurableStore} {p : RetentionPolicyV1} {li oi : String}
  {now : DateTime} {c : Nat → DateTime}

end DurableStore

/-! ## An observed store -/

/-- The store, the first starts of runs and the times of the executions of retention. -/
structure Observed where
  store : DurableStore := {}
  starts : List PolicyStart := []
  retentions : List DateTime := []

/-- What happens to a store: a transaction on the tables of runs, a change of the other tables, and
an execution of retention. -/
inductive Occasion
  | transaction (request : StoreRequest)
  | side (tables : (t : SideTable) → List (SideRow t))
  | retention (policy : RetentionPolicyV1) (leaseId ownerId : String) (now : DateTime)
      (clock : Nat → DateTime)

/-- Every registered definition of the workflow has the rate limit. -/
def Store.RatedBy (s : Store) (workflowId : String) (limit : CompiledRateLimitPolicy) : Prop :=
  ∀ hash w, s.definitions.get? hash = some w → w.workflowId = workflowId →
    ∃ policy, w.runtimePolicy = some policy ∧ policy.rateLimit = some limit

namespace Observed

section
variable [Host] [Inspection] (fuel : Nat) (clock : Nat → DateTime)

def step (o : Observed) : Occasion → Observed
  | .transaction request =>
    match o.store.core.perform fuel clock request with
    | .ok (answer, core) =>
      { o with
        store := { o.store with core }
        starts := (firstStart request answer).toList ++ o.starts }
    | .error _ => o
  | .side side => { o with store := { o.store with side } }
  | .retention policy leaseId ownerId now renewals =>
    { o with
      store := o.store.retain policy leaseId ownerId now renewals
      retentions := now :: o.retentions }

def run (occasions : List Occasion) : Observed := occasions.foldl (step fuel clock) {}

/-- The starts of the workflow that an execution of retention deletes are at least a window old, and
later starts are not before the execution. -/
def Spares (workflowId : String) (window : Int) (o : Observed) : Occasion → Prop
  | .transaction request => ∀ answer core start,
      o.store.core.perform fuel clock request = .ok (answer, core) →
        firstStart request answer = some start → start.workflowId = workflowId →
          ∀ t ∈ o.retentions, t ≤ start.startedAt
  | .side _ => True
  | .retention policy leaseId ownerId now renewals => ∀ runId start,
      o.store.core.policyStarts.get? runId = some start → start.workflowId = workflowId →
        (o.store.retain policy leaseId ownerId now renewals).core.policyStarts.get? runId = none →
          start.startedAt + window ≤ now

def Respects (workflowId : String) (window : Int) (occasions : List Occasion) : Prop :=
  ∀ n occasion, occasions[n]? = some occasion →
    Spares fuel clock workflowId window (run fuel clock (occasions.take n)) occasion

/-- The first starts of a workflow at some of the times. -/
def startsAt (o : Observed) (workflowId : String) (times : DateTime → Bool) : Nat :=
  o.starts.countP fun start => start.workflowId = workflowId && times start.startedAt

end

/-! ## One step -/

section
variable {workflowId : String} {limit : CompiledRateLimitPolicy}

/-- The window of a rate limit on the clock of the store. -/
def window (limit : CompiledRateLimitPolicy) : Int := limit.windowMs * 1000000

theorem count_of_eligible {s : Store} {now : DateTime}
    (h : s.workflowRateEligibility workflowId (some limit) now = .ok .eligible) :
    (s.policyStarts.values.countP fun start =>
      start.workflowId = workflowId && now - window limit < start.startedAt) < limit.count := by
  simp only [workflowRateEligibility, bind_eq_ok] at h
  obtain ⟨_, -, h⟩ := h
  split at h
  · rename_i hl
    rwa [List.length_insertionSort, List.length_map, ← List.countP_eq_length_filter] at hl
  · simp only [bind_eq_ok] at h
    obtain ⟨_, _, h⟩ := h
    cases h

variable [Host] [Inspection] {o : Observed}

/-- The rows of first starts and the deleted ones, all of them a window before some execution of
retention, are the observed ones; and the limit holds. -/
structure Bounded (workflowId : String) (limit : CompiledRateLimitPolicy) (o : Observed) : Prop where
  sound : o.store.core.Sound
  observed : ∃ gone : List PolicyStart,
    o.starts.Perm (o.store.core.policyStarts.values ++ gone) ∧
      ∀ start ∈ gone, start.workflowId = workflowId →
        ∃ t ∈ o.retentions, start.startedAt + window limit ≤ t
  within : ∀ times : DateTime → Bool,
    (∀ t u, times t = true → times u = true → t - window limit < u) →
      o.startsAt workflowId times ≤ limit.count

theorem Bounded.empty : Bounded workflowId limit {} :=
  ⟨.empty, ⟨[], .nil, nofun⟩, fun _ _ => Nat.zero_le _⟩

/-- A first start within the rate limit. -/
theorem Bounded.start (ho : o.Bounded workflowId limit) {core : Store} {s : PolicyStart}
    {ri : String} (hsn : core.Sound) (hf : o.store.core.policyStarts.get? ri = none)
    (hs : ∀ r, core.policyStarts.get? r =
      if r = ri then some s else o.store.core.policyStarts.get? r)
    (he : s.workflowId = workflowId →
      o.store.core.workflowRateEligibility workflowId (some limit) s.startedAt = .ok .eligible)
    (hla : s.workflowId = workflowId → ∀ t ∈ o.retentions, t ≤ s.startedAt) :
    Bounded workflowId limit
      { o with store := { o.store with core }, starts := s :: o.starts } := by
  obtain ⟨gone, hp, hg⟩ := ho.observed
  refine ⟨hsn, ⟨gone, ?_, hg⟩, fun ts hn => ?_⟩
  · exact (hp.cons s).trans ((values_perm_cons hf hs).symm.append_right gone)
  have hol := ho.within ts hn
  rw [startsAt, List.countP_cons]
  split
  · rename_i hi
    simp only [Bool.and_eq_true, decide_eq_true_eq] at hi
    obtain ⟨hw, hti⟩ := hi
    -- All other starts in the window are among those that the check counts.
    have hc : o.startsAt workflowId ts ≤ o.starts.countP fun other =>
        other.workflowId = workflowId && s.startedAt - window limit < other.startedAt := by
      refine List.countP_mono_left fun other _ hot => ?_
      simp only [Bool.and_eq_true, decide_eq_true_eq] at hot ⊢
      exact ⟨hot.1, hn _ _ hti hot.2⟩
    have hno : (gone.countP fun other =>
        other.workflowId = workflowId && s.startedAt - window limit < other.startedAt) = 0 := by
      rw [List.countP_eq_zero]
      intro other hot hi
      simp only [Bool.and_eq_true, decide_eq_true_eq] at hi
      obtain ⟨t, ht, hle⟩ := hg other hot hi.1
      have hl := hle.trans (hla hw t ht)
      exact absurd hi.2 (not_lt.2 (le_sub_iff_add_le.2 hl))
    rw [hp.countP_eq, List.countP_append] at hc
    have := count_of_eligible (he hw)
    rw [startsAt] at hc
    omega
  · exact hol

/-- A change that leaves the rows of first starts. -/
theorem Bounded.of_same (ho : o.Bounded workflowId limit) {core : Store}
    {side : (t : SideTable) → List (SideRow t)} (hsn : core.Sound)
    (hs : ∀ r, core.policyStarts.get? r = o.store.core.policyStarts.get? r) :
    Bounded workflowId limit { o with store := { core, side } } := by
  obtain ⟨gone, hp, hg⟩ := ho.observed
  exact ⟨hsn, ⟨gone, hp.trans ((SortedMap.values_perm hs).symm.append_right gone), hg⟩, ho.within⟩

theorem sound_without {s : Store} (hs : s.Sound) (gone : String → Bool) :
    (s.without gone).Sound := by
  have hr : ∀ {r run}, (s.without gone).runs.get? r = some run → s.runs.get? r = some run :=
    fun h => ((get?_filter _ _).1 h).1
  refine ⟨hs.valid, fun h => hs.bound (hr h), fun h => hs.begun (hr h),
    fun h => hs.folds (hr h), ?_⟩
  refine ⟨fun r => ?_, fun r => ?_, fun r => ?_, fun r => ?_⟩
  · simp only [without, get?_kept, hs.indexed.summaries]
    split <;> rfl
  · simp only [without, get?_kept, hs.indexed.bindings]
    split <;> rfl
  · simp only [without, get?_kept, hs.indexed.queue]
    split <;> rfl
  · simp only [without, get?_kept, hs.indexed.starts]
    split <;> rfl

/-- Retention that deletes no start within the window. -/
theorem Bounded.retain (ho : o.Bounded workflowId limit) {gone : String → Bool}
    {side : (t : SideTable) → List (SideRow t)} {now : DateTime}
    (hs : ∀ runId start, o.store.core.policyStarts.get? runId = some start →
      start.workflowId = workflowId →
        (o.store.core.without gone).policyStarts.get? runId = none →
          start.startedAt + window limit ≤ now) :
    Bounded workflowId limit
      { o with
        store := { core := o.store.core.without gone, side }
        retentions := now :: o.retentions } := by
  obtain ⟨before, hp, hb⟩ := ho.observed
  have hsp := o.store.core.policyStarts.values_perm_filter fun runId _ => !gone runId
  refine ⟨sound_without ho.sound gone,
    ⟨(o.store.core.policyStarts.filter fun runId _ => !!gone runId).values ++ before, ?_, ?_⟩,
    ho.within⟩
  · rw [← List.append_assoc]
    exact hp.trans (hsp.append_right before)
  · intro start hst hw
    rcases List.mem_append.1 hst with hst | hst
    · obtain ⟨runId, hge⟩ := (mem_values _).1 hst
      obtain ⟨hge, hg⟩ := (get?_filter _ _).1 hge
      refine ⟨now, List.mem_cons_self, hs runId start hge hw ?_⟩
      rw [without, get?_kept, if_pos (by simpa using hg)]
    · obtain ⟨t, ht, hl⟩ := hb start hst hw
      exact ⟨t, List.mem_cons_of_mem _ ht, hl⟩

variable {fuel : Nat} {clock : Nat → DateTime}

theorem step_definitions (o : Observed) (oc : Occasion) {ha : String} {w : DefinitionRef}
    (h : o.store.core.definitions.get? ha = some w) :
    (o.step fuel clock oc).store.core.definitions.get? ha = some w := by
  cases oc with
  | transaction request =>
    simp only [step]
    split
    · rename_i hp
      exact (Store.Grows.of_perform hp).definitions h
    · exact h
  | side side => exact h
  | retention => exact h

/-- **One step.** -/
theorem Bounded.step (ho : o.Bounded workflowId limit) {oc : Occasion}
    (hc : ∀ request, oc = .transaction request → request.StartsByClaim)
    (hs : Spares fuel clock workflowId (window limit) o oc)
    (hra : (o.step fuel clock oc).store.core.RatedBy workflowId limit) :
    (o.step fuel clock oc).Bounded workflowId limit := by
  cases oc with
  | transaction request =>
    simp only [Observed.step] at hra ⊢
    split
    · rename_i answer core hp
      have hsn : core.Sound := (Store.perform_moves hp).keeps Store.Sound.move ho.sound
      rcases Store.perform_starts ho.sound (hc request rfl) hp with
        ⟨hno, hsa⟩ | ⟨claim, start, rfl, hsta, -, hf, hst, ha, w, policy, hw, hn, hpo, hr⟩
      · rw [hno]
        exact ho.of_same hsn hsa
      · rw [hsta]
        refine ho.start hsn hf hst (fun hwf => ?_) (hs _ _ _ hp hsta)
        simp only [hp] at hra
        obtain ⟨p', hp', hl⟩ := hra ha w ((Store.Grows.of_perform hp).definitions hw) (hn.trans hwf)
        cases hpo.symm.trans hp'
        rwa [hl, hwf] at hr
    · exact ho
  | side side => exact ho.of_same ho.sound fun _ => rfl
  | retention policy lea ow now rs => exact ho.retain hs

/-- **The whole run.** -/
theorem bounded_run {os : List Occasion}
    (hc : ∀ request, .transaction request ∈ os → request.StartsByClaim)
    (hre : Respects fuel clock workflowId (window limit) os)
    (hr : (run fuel clock os).store.core.RatedBy workflowId limit) :
    (run fuel clock os).Bounded workflowId limit := by
  -- the limit of the last state is the limit of every state before it
  refine Runs.foldl_of_prefixes
    (P := fun o => o.store.core.RatedBy workflowId limit → o.Bounded workflowId limit)
    (fun _ => .empty) (fun o oc hm ho hs hra => ?_) hre hr
  exact (ho fun ha w hw => hra ha w (step_definitions o oc hw)).step
    (fun request he => hc request (he ▸ hm)) hs hra

theorem mem_retentions {occasions : List Occasion} {t : DateTime}
    (h : t ∈ (run fuel clock occasions).retentions) :
    ∃ policy lea ow rs, Occasion.retention policy lea ow t rs ∈ occasions := by
  refine List.foldlRecOn (motive := fun o : Observed => t ∈ o.retentions → _) occasions _
    (by nofun) (fun o ho oc hm h => ?_) h
  cases oc with
  | transaction request =>
    simp only [Observed.step] at h
    split at h <;> exact ho h
  | side side => exact ho h
  | retention policy lea ow now rs =>
    rcases List.mem_cons.1 h with rfl | h
    · exact ⟨policy, lea, ow, rs, hm⟩
    · exact ho h

theorem Bounded.windows (ho : o.Bounded workflowId limit) (b : DateTime) :
    o.startsAt workflowId (fun t => b ≤ t && t < b + window limit) ≤ limit.count ∧
      o.startsAt workflowId (fun t => b < t && t ≤ b + window limit) ≤ limit.count := by
  constructor
  · refine ho.within _ fun t u ht hu => ?_
    simp only [Bool.and_eq_true, decide_eq_true_eq] at ht hu
    exact (sub_lt_iff_lt_add.2 ht.2).trans_le hu.1
  · refine ho.within _ fun t u ht hu => ?_
    simp only [Bool.and_eq_true, decide_eq_true_eq] at ht hu
    exact (sub_le_iff_le_add.2 ht.2).trans_lt hu.1

end

end Observed

/-! ## The time of a rate wait -/

/-- The `n`-th largest of the times after `c` is the last time after which there are still `n`. -/
theorem countP_of_sorted {l : List DateTime} {c e : DateTime} {k n : Nat}
    (hl : k + n = ((l.filter (c < ·)).insertionSort (· ≤ ·)).length)
    (hg : ((l.filter (c < ·)).insertionSort (· ≤ ·))[k]? = some e) (d : DateTime) :
    (d < e → n ≤ l.countP (d < ·)) ∧ (e ≤ d → l.countP (d < ·) < n) := by
  have hs := List.pairwise_insertionSort (· ≤ ·) (l.filter (c < ·))
  have hp := List.perm_insertionSort (· ≤ ·) (l.filter (c < ·))
  generalize (l.filter (c < ·)).insertionSort (· ≤ ·) = active at *
  obtain ⟨hk, rfl⟩ := List.getElem?_eq_some_iff.1 hg
  have hc : c < active[k] := by
    simpa using (List.mem_filter.1 (hp.mem_iff.1 (List.getElem_mem hk))).2
  have hsp : active = active.take k ++ active[k] :: active.drop (k + 1) := by
    rw [← List.drop_eq_getElem_cons hk, List.take_append_drop]
  rw [hsp, List.pairwise_append, List.pairwise_cons] at hs
  obtain ⟨-, ⟨ha, -⟩, hb⟩ := hs
  constructor
  · intro hd
    have hal : (active.drop k).countP (d < ·) = (active.drop k).length := by
      rw [List.countP_eq_length, List.drop_eq_getElem_cons hk]
      intro t ht
      rcases List.mem_cons.1 ht with rfl | ht
      · simpa using hd
      · simpa using hd.trans_le (ha t ht)
    calc n = (active.drop k).countP (d < ·) := by rw [hal, List.length_drop]; omega
      _ ≤ active.countP (d < ·) := (List.drop_sublist k active).countP_le
      _ = (l.filter (c < ·)).countP (d < ·) := hp.countP_eq _
      _ ≤ l.countP (d < ·) := List.filter_sublist.countP_le
  · intro hd
    have hn : (active.take k ++ [active[k]]).countP (d < ·) = 0 := by
      rw [List.countP_eq_zero]
      intro t ht
      rcases List.mem_append.1 ht with ht | ht
      · simpa using (hb t ht _ List.mem_cons_self).trans hd
      · simpa [List.mem_singleton.1 ht] using hd
    have hke : l.countP (d < ·) = (l.filter (c < ·)).countP (d < ·) := by
      rw [List.countP_filter]
      refine List.countP_congr fun t _ => ?_
      simp only [decide_eq_true_eq, Bool.and_eq_true, iff_self_and]
      exact (hc.trans_le hd).trans
    rw [hke, ← hp.countP_eq, hsp, List.append_cons, List.countP_append, hn, Nat.zero_add]
    refine List.countP_le_length.trans_lt ?_
    rw [List.length_drop]
    omega

namespace Store

def startTimes (s : Store) (workflowId : String) : List DateTime :=
  (s.policyStarts.values.filter (·.workflowId = workflowId)).map (·.startedAt)

variable {s l : Store} {wi : String} {lm : CompiledRateLimitPolicy}

theorem workflowRateEligibility_eq (now : DateTime) :
    s.workflowRateEligibility wi (some lm) now = (do
      failIf (2 ^ 63 ≤ lm.windowMs)
        (.contract "Rate-limit window exceeds the runtime clock range.")
      let active := ((s.startTimes wi).filter
        (now - Observed.window lm < ·)).insertionSort (· ≤ ·)
      if active.length < lm.count then .ok .eligible
      else
        let earliest ← orFail active[active.length - lm.count]? .outOfBounds
        .ok (.waiting (earliest + Observed.window lm))) := by
  have ha : (s.policyStarts.values.filter fun start => start.workflowId = wi &&
      now - Observed.window lm < start.startedAt).map (·.startedAt) =
        (s.startTimes wi).filter (now - Observed.window lm < ·) := by
    rw [startTimes, List.filter_map, List.filter_filter]
    congr 2
    funext start
    exact Bool.and_comm _ _
  rw [← ha]
  rfl

theorem length_active (now : DateTime) :
    (((s.startTimes wi).filter
        (now - Observed.window lm < ·)).insertionSort (· ≤ ·)).length =
      (s.startTimes wi).countP (now - Observed.window lm < ·) := by
  rw [List.length_insertionSort, List.countP_eq_length_filter]

/-- A rate wait tells the exact time: as long as no run of the workflow starts, the workflow is
held back before it and eligible from it on. -/
theorem rate_wait_exact {now ea : DateTime}
    (h : s.workflowRateEligibility wi (some lm) now = .ok (.waiting ea))
    (hs : l.startTimes wi = s.startTimes wi) (t : DateTime) :
    (t < ea → ∃ ea', l.workflowRateEligibility wi (some lm) t = .ok (.waiting ea')) ∧
    (ea ≤ t → l.workflowRateEligibility wi (some lm) t = .ok .eligible) := by
  rw [workflowRateEligibility_eq, bind_unit_eq_ok] at h
  obtain ⟨hr, h⟩ := h
  simp only [length_active] at h
  split at h
  · cases h
  simp only [eq_ok_iff] at h
  obtain ⟨e, hg, h⟩ := h
  cases h
  have hi := (List.getElem?_eq_some_iff.1 hg).1
  rw [length_active] at hi
  have he := countP_of_sorted (n := lm.count) (by rw [length_active]; omega) hg
    (t - Observed.window lm)
  simp only [workflowRateEligibility_eq, hs, bind_unit_eq_ok, hr, true_and, length_active]
  constructor
  · intro ht
    have hm := he.1 (sub_lt_iff_lt_add.2 ht)
    rw [if_neg (by omega)]
    have hl : (s.startTimes wi).countP (t - Observed.window lm < ·) - lm.count <
        (((s.startTimes wi).filter
          (t - Observed.window lm < ·)).insertionSort (· ≤ ·)).length := by
      rw [length_active]
      omega
    rw [List.getElem?_eq_getElem hl]
    exact ⟨_, rfl⟩
  · intro ht
    rw [if_pos (he.2 (le_sub_iff_add_le.2 ht))]

section

variable [Host] [Inspection] {fuel : Nat} {c : Nat → DateTime}

/-- A rate wait is answered from the rate limit of a definition of the workflow, and the claim
leaves the starts. -/
theorem rate_of_wait {r : PolicyClaimRequest} {ri q : String} {ea : DateTime} {s' : Store}
    (hs : s.Sound) (hra : s.RatedBy wi lm)
    (h : s.tryClaimPolicyRunAt fuel c r = .ok (.waiting ri wi q .rateLimit (some ea), s')) :
    s'.workflowRateEligibility wi (some lm) r.policyNow = .ok (.waiting ea) := by
  obtain ⟨run, w, policy, q', state, hc, h⟩ := claim_eq_ok h
  split at h
  · obtain ⟨-, ⟨-, h⟩ | ⟨-, h⟩⟩ := h <;> cases h
  obtain ⟨_, hre, rfl, -, -, hr⟩ | ⟨h, -⟩ | ⟨_, h, -⟩ := claimFreeRun_eq_ok h
  · cases hre
    obtain ⟨w', hw', hw⟩ := hs.bound hc.stored
    cases hc.defined.symm.trans hw'
    obtain ⟨p', hp, hl⟩ := hra _ _ hc.defined hw
    cases hc.limited.symm.trans hp
    rwa [hl] at hr
  · cases h
  · cases h

end

end Store

namespace Observed

variable [Host] [Inspection]

theorem respects_of_no_retention {fuel : Nat} {c : Nat → DateTime} {occasions : List Occasion}
    (hr : ∀ policy lea ow now rs, .retention policy lea ow now rs ∉ occasions) (wi : String)
    (w : Int) : Respects fuel c wi w occasions := by
  intro n oc hn
  cases oc with
  | transaction request =>
    intro answer core start _ _ _ t ht
    obtain ⟨policy, lea, ow, rs, hm⟩ := mem_retentions ht
    exact absurd (List.mem_of_mem_take hm) (hr _ _ _ _ _)
  | side side => trivial
  | retention => exact absurd (List.mem_of_getElem? hn) (hr _ _ _ _ _)

theorem Bounded.recorded {o : Observed} {wi : String} {l : CompiledRateLimitPolicy}
    (ho : o.Bounded wi l) (times : DateTime → Bool) :
    (o.store.core.startTimes wi).countP times ≤ o.startsAt wi times := by
  obtain ⟨gone, hp, -⟩ := ho.observed
  rw [startsAt, hp.countP_eq, List.countP_append, startTimes, List.countP_map,
    List.countP_filter]
  refine (List.countP_mono_left fun start _ h => ?_).trans (Nat.le_add_right _ _)
  simpa [and_comm] using h

/-- **The rolling window.** Without retention no half-open window holds more recorded starts of the
workflow than its limit, whatever the clocks of the claims; and a claim that is answered with a rate
wait tells the exact time until which the workflow is held back. -/
theorem rolling_window (fuel : Nat) (clock : Nat → DateTime) (occasions : List Occasion)
    (workflowId : String) (limit : CompiledRateLimitPolicy)
    (hclaims : ∀ request, .transaction request ∈ occasions → request.StartsByClaim)
    (hretains : ∀ policy leaseId ownerId now renewals,
      .retention policy leaseId ownerId now renewals ∉ occasions)
    (hrated : (run fuel clock occasions).store.core.RatedBy workflowId limit) :
    (∀ begin_ : DateTime, ((run fuel clock occasions).store.core.startTimes workflowId).countP
          (fun t => begin_ ≤ t && t < begin_ + window limit) ≤ limit.count ∧
        ((run fuel clock occasions).store.core.startTimes workflowId).countP
          (fun t => begin_ < t && t ≤ begin_ + window limit) ≤ limit.count) ∧
    ∀ request runId queue eligibleAt answered,
      (run fuel clock occasions).store.core.perform fuel clock (.claim request) =
        .ok (.claim (.waiting runId workflowId queue .rateLimit (some eligibleAt)), answered) →
      ∀ later : Store, later.startTimes workflowId = answered.startTimes workflowId →
        ∀ t, (t < eligibleAt → ∃ eligibleAt',
            later.workflowRateEligibility workflowId (some limit) t = .ok (.waiting eligibleAt')) ∧
          (eligibleAt ≤ t →
            later.workflowRateEligibility workflowId (some limit) t = .ok .eligible) := by
  have hb :=
    bounded_run hclaims (respects_of_no_retention hretains workflowId (window limit)) hrated
  constructor
  · intro begin_
    obtain ⟨hl, hr⟩ := hb.windows begin_
    exact ⟨(hb.recorded _).trans hl, (hb.recorded _).trans hr⟩
  · intro request runId queue eligibleAt answered hp later hla t
    cases performed hp with
    | claim hc =>
      exact rate_wait_exact (rate_of_wait hb.sound hrated hc) hla t
    | claims _ ho => exact absurd rfl (ho request)

end Observed

/-! ## A start that retention forgets -/

namespace ForgottenStart

/-- One start a year. -/
def limit : CompiledRateLimitPolicy := ⟨1, 31536000000⟩

def policyText : String :=
  "\x7b\"profileVersion\":1,\"rateLimit\":\x7b\"algorithm\":\"rolling_window\"," ++
    "\"count\":1,\"windowMs\":31536000000\x7d\x7d"

def policyDigest : String := "3a465957b3c855334c7c601f1dcb414d87f0ecc44dcb03b0a74df44d8f8cbccd"

@[reducible] def host : Host :=
  { (default : Host) with
    canonicalJson := fun value =>
      match value with
      | .object [] => .ok (utf8 "\x7b\x7d")
      | _ => .ok (utf8 policyText)
    sha256 := fun bytes =>
      ((((policyText, policyDigest) :: Redelivery.digests).find? fun (text, _) =>
        utf8 text = bytes).map (·.2)).getD Redelivery.zeroDigest }

def definition : DefinitionRef :=
  { LimitedWorkflow.definition with
    runtimePolicy := some { profileVersion := 1, rateLimit := some limit } }

def admission (sourceIdentity runId : String) : Occasion :=
  .transaction (.admitOccurrence (Redelivery.delivery SerialRun.definitionHash sourceIdentity)
    ⟨"occ_" ++ runId, runId, "event_" ++ runId⟩)

def claim (runId : String) (now : DateTime) : Occasion :=
  .transaction (.claim
    { runId, ownerId := "x", leaseNow := now, policyNow := now, leaseDuration := 1000
      claimId := "claim_" ++ runId, eventId := fun index => "start_" ++ runId ++ toString index })

def policy (now : DateTime) : RetentionPolicyV1 :=
  { policyId := "all", succeededBefore := now, failedBefore := now, cancelledBefore := now }

/-- Two occurrences; the run of the first one starts and is cancelled. It goes out of retention at
`now`, when the other run starts. -/
def occasions (now : DateTime) : List Occasion :=
  [.transaction (.registerDefinition definition SerialRun.definitionHash true),
    admission "order-17" "run_1", admission "order-18" "run_2", claim "run_1" 1,
    .transaction (.appendEvents "run_1" Redelivery.cancelled),
    .transaction (.release "run_1" "x" "claim_run_1"),
    .retention (policy now) "lease" "owner" now fun _ => now,
    claim "run_2" now]

def observed (occasions : List Occasion) : Observed :=
  @Observed.run host LimitedWorkflow.inspection 1 (fun _ => 0) occasions

theorem ratedBy_of_values {s : Store}
    (h : s.definitions.values.all (fun w => (w.runtimePolicy.bind (·.rateLimit)).any fun rate =>
      rate.count = limit.count && rate.windowMs = limit.windowMs) = true) :
    s.RatedBy "orders" limit := by
  intro ha w hw _
  have hl := List.all_eq_true.1 h w (s.definitions.mem_values.2 ⟨ha, hw⟩)
  simp only [Option.any_eq_true, Option.bind_eq_some_iff, Bool.and_eq_true, decide_eq_true_eq] at hl
  obtain ⟨rate, ⟨policy, hp, hr⟩, hc, hwi⟩ := hl
  refine ⟨policy, hp, hr.trans ?_⟩
  cases rate
  simp_all

/-- Two years after it. -/
def later : DateTime := 2 * Observed.window limit

theorem startedAt_of_claim {request : PolicyClaimRequest} {a : StoreAnswer} {s : PolicyStart}
    (h : firstStart (.claim request) a = some s) : s.startedAt = request.policyNow := by
  cases a with
  | claim result =>
    cases result with
    | claimed claim first =>
      cases first with
      | false => cases h
      | true => cases h; rfl
    | waiting => cases h
  | _ => cases h

theorem first_start : ∀ start ∈ (@Observed.run host LimitedWorkflow.inspection 1 (fun _ => 0)
    ((occasions later).take 6)).store.core.policyStarts.values, start.startedAt = 1 := by
  decide +kernel

theorem respects_later : @Observed.Respects host LimitedWorkflow.inspection 1 (fun _ => 0) "orders"
    (Observed.window limit) (occasions later) := by
  intro n oc hn
  have hl : n < 8 := (List.getElem?_eq_some_iff.1 hn).1
  interval_cases n <;> cases hn
  case «6» =>
    intro runId start hs _ _
    have hm := (SortedMap.mem_values _).2 ⟨runId, hs⟩
    rw [first_start start hm]
    decide
  all_goals
    intro answer core start _ hs _ t ht
    obtain ⟨policy, lea, ow, rs, hm⟩ :=
      @Observed.mem_retentions host LimitedWorkflow.inspection _ _ _ _ ht
    simp only [occasions, admission, claim, List.take_succ_cons, List.take_zero, List.mem_cons,
      reduceCtorEq, Occasion.retention.injEq, List.not_mem_nil, or_false, false_or] at hm
  case «7» =>
    rw [startedAt_of_claim hs, hm.2.2.2.1]

theorem starts_by_claim (now : DateTime) (request : StoreRequest)
    (hr : .transaction request ∈ occasions now) : request.StartsByClaim := by
  simp only [occasions, admission, claim, List.mem_cons, Occasion.transaction.injEq, reduceCtorEq,
    List.not_mem_nil, or_false, false_or] at hr
  rcases hr with rfl | rfl | rfl | rfl | rfl | rfl | rfl
  case inr.inr.inr.inr.inl =>
    intro dr hd
    simp only [Redelivery.cancelled, List.mem_cons, List.not_mem_nil, or_false] at hd
    rcases hd with rfl | rfl | rfl <;> rfl
  all_goals exact trivial

/-- The claim of the second run, when nothing is deleted. -/
def secondClaim : PolicyClaimRequest :=
  { runId := "run_2", ownerId := "x", leaseNow := 5, policyNow := 5, leaseDuration := 1000
    claimId := "claim_run_2", eventId := fun _ => "start" }

/-- Without retention the second run waits until a year after the first start. -/
theorem second_start_waits :
    let _ := host
    let _ := inspection
    ∃ queue answered,
      (Observed.run 1 (fun _ => 0) ((occasions 0).take 6)).store.core.perform 1 (fun _ => 0)
          (.claim secondClaim) =
        .ok (.claim (.waiting "run_2" "orders" queue .rateLimit (some (1 + Observed.window limit))),
          answered) ∧
      answered.workflowRateEligibility "orders" (some limit) (1 + Observed.window limit) =
        .ok .eligible := by
  intro _ _
  obtain ⟨⟨answer, answered⟩, hp, ha⟩ : ∃ a,
      (Observed.run 1 (fun _ => 0) ((occasions 0).take 6)).store.core.perform 1 (fun _ => 0)
        (.claim secondClaim) = .ok a ∧
      a.1 = .claim (.waiting "run_2" "orders" (definition.runtimePolicyQueueName.getD "")
        .rateLimit (some (1 + Observed.window limit))) := by
    decide +kernel
  obtain rfl := ha
  have hr : (Observed.run 1 (fun _ => 0) ((occasions 0).take 6)).store.core.RatedBy "orders"
      limit := ratedBy_of_values (by decide +kernel)
  have he := (Observed.rolling_window 1 (fun _ => 0) ((occasions 0).take 6) "orders" limit
    (fun request hre => starts_by_claim 0 request (List.mem_of_mem_take hre))
    (by simp [occasions, admission, claim]) hr).2 secondClaim "run_2" _ _ answered
    hp answered rfl (1 + Observed.window limit)
  exact ⟨_, answered, hp, he.2 le_rfl⟩

end ForgottenStart

end Woml
