import Woml.Output.Store

/-!
# Following operational output

`Sound` is what appends and prunes keep of the tables: a record has the sequence it is stored
under, the row of a run names its last record, and what is no longer stored is behind the mark of
its run. A page (`PageOf`) is then a first part of the records after the cursor, and a follower has
read all that is stored up to its cursor (`Sofar`).

The mark of the store may lie behind every record that is left. A follower of all runs whose cursor
is before such a mark is told forever that there is more; `output_followed` says that following
comes to its end exactly otherwise.
-/

namespace Woml

open Checked OutputFollower SortedMap

namespace OperationalOutputStore

variable [OutputHost]

structure Sound (s : OperationalOutputStore) (written : List OperationalRecordV1) : Prop where
  row : ∀ {n r}, s.records.get? n = some r → r.sequence = n ∧ n < s.nextSequence ∧ r ∈ written ∧
    validatePersistedRecord r s.deploymentId = .ok () ∧
    OutputHost.encodedLen r ≤ maxOperationalPageBytes
  last : ∀ {id row}, s.runs.get? id = some row →
    (∃ r, s.records.get? row.lastSequence = some r ∧ r.identity.runId = id) ∧
    ∀ {n r}, s.records.get? n = some r → r.identity.runId = id → n ≤ row.lastSequence
  mark : s.prunedThrough < s.nextSequence ∧ s.nextSequence < 2 ^ 63 ∧
    s.records.get? s.prunedThrough = none
  runMark : ∀ {id mark}, s.prunedRuns.get? id = some mark → mark ≤ s.prunedThrough ∧
    ∀ {n r}, s.records.get? n = some r → r.identity.runId = id → mark < n
  gone : ∀ {r}, r ∈ written → s.records.get? r.sequence = some r ∨
    ∃ mark, s.prunedRuns.get? r.identity.runId = some mark ∧ r.sequence ≤ mark

variable {s s' : OperationalOutputStore} {written : List OperationalRecordV1}
  {limits : OperationalOutputLimitsV1} {draft : OperationalRecordDraftV1}
  {rm : Option RemoteOperationalIdentity} {now : DateTime} {r : OperationalRecordV1}
  {runId : Option String}

/-! ## Appending -/

theorem Sound.insertRecord (h : s.Sound written) (hl : s.nextSequence < 2 ^ 63 - 1)
    (hd : validateDraft draft = .ok ())
    (hi : s.insertRecord draft rm now = .ok (s', r)) : s'.Sound (written ++ [r]) := by
  simp only [OperationalOutputStore.insertRecord, bind_unit_eq_ok, failIf_eq_ok] at hi
  obtain ⟨hfi, rfl, rfl⟩ := hi
  set r : OperationalRecordV1 := { draft with
    profile := operationalRecordProfile, deploymentId := s.deploymentId
    sequence := s.nextSequence, occurredAt := now } with hr
  have hf : ∀ {n r'}, s.records.get? n = some r' → n < s.nextSequence := fun hn => (h.row hn).2.1
  have hp : validatePersistedRecord r s.deploymentId = .ok () := by
    have := h.mark.1
    simp only [validatePersistedRecord, bind_unit_eq_ok, mapError_eq_ok]
    exact ⟨by simp [hr]; omega, hd⟩
  refine ⟨fun {n r'} hn => ?_, fun {id row} hro => ?_, ?_, fun {id mark} hm => ?_,
    fun {r'} hr' => ?_⟩
  · rcases of_get?_insert hn with ⟨rfl, rfl⟩ | ⟨-, hn⟩
    · exact ⟨rfl, Nat.lt_succ_self _, by simp, hp, Nat.le_of_not_lt hfi⟩
    · obtain ⟨hs, hlt, hme, hre⟩ := h.row hn
      exact ⟨hs, Nat.lt_succ_of_lt hlt, List.mem_append_left _ hme, hre⟩
  · rcases of_get?_insert hro with ⟨rfl, rfl⟩ | ⟨hne, hro⟩
    · refine ⟨⟨r, get?_insert_self .., rfl⟩, fun {n r'} hn _ => ?_⟩
      rcases of_get?_insert hn with ⟨rfl, -⟩ | ⟨-, hn⟩
      · exact Nat.le_refl _
      · exact Nat.le_of_lt (hf hn)
    · obtain ⟨⟨r', hr', hid⟩, hle⟩ := h.last hro
      refine ⟨⟨r', ?_, hid⟩, fun {n r''} hn hi' => ?_⟩
      · rw [← hr']
        exact get?_insert_ne _ (Nat.ne_of_lt (hf hr')) _
      · rcases of_get?_insert hn with ⟨-, rfl⟩ | ⟨-, hn⟩
        · exact absurd hi'.symm hne
        · exact hle hn hi'
  · refine ⟨Nat.lt_succ_of_lt h.mark.1, by show s.nextSequence + 1 < _; omega, ?_⟩
    rw [← h.mark.2.2]
    exact get?_insert_ne _ (Nat.ne_of_lt h.mark.1) _
  · refine ⟨(h.runMark hm).1, fun {n r'} hn hid => ?_⟩
    rcases of_get?_insert hn with ⟨rfl, -⟩ | ⟨-, hn⟩
    · exact Nat.lt_of_le_of_lt (h.runMark hm).1 h.mark.1
    · exact (h.runMark hm).2 hn hid
  · rcases List.mem_append.1 hr' with hr' | hr'
    · refine (h.gone hr').imp_left fun hn => ?_
      rw [← hn]
      exact get?_insert_ne _ (Nat.ne_of_lt (hf hn)) _
    · obtain rfl := List.mem_singleton.1 hr'
      exact .inl (get?_insert_self ..)

/-- An empty chunk finds no budget exceeded: otherwise a truncation of no bytes is written, which
no page can hold. It happens only to a store that is opened again with smaller budgets. -/
def dropsBytes (s : OperationalOutputStore) (limits : OperationalOutputLimitsV1)
    (draft : OperationalRecordDraftV1) : Bool :=
  match draft.body with
  | .output _ _ _ 0 => (s.exceededBudget limits draft.identity 0).isNone
  | _ => true

omit [OutputHost] in
theorem validateBody_of_truncation {body : OperationalBodyV1}
    (hd : s.dropsBytes limits draft = true) (h : s.truncation limits draft = some body) :
    validateBody body = .ok () := by
  have hr : ∀ {identity c rs}, s.exceededBudget limits identity c = some rs →
      rs ∈ ["inline_attempt_budget", "inline_run_budget", "output_store_budget"] := by
    intro identity c rs hr
    simp only [exceededBudget] at hr
    split_ifs at hr <;> cases hr <;> decide
  have ht : ∀ rs ∈ ["inline_attempt_budget", "inline_run_budget", "output_store_budget"],
      validateText rs 128 = .ok () := by decide
  rw [truncation] at h
  split at h
  case h_2 => cases h
  case h_1 source level text c hb =>
    obtain ⟨rs, he, rfl⟩ := Option.map_eq_some_iff.1 h
    cases c with
    | zero => simp [dropsBytes, hb, he] at hd
    | succ c =>
      simp only [validateBody, bind_unit_eq_ok, failIf_eq_ok]
      exact ⟨Nat.succ_ne_zero _, ht _ (hr he)⟩

/-- An append writes no record, or the record of a valid draft. -/
theorem append_cases {o : OperationalAppendOutcomeV1} {a : Bool}
    (hd : s.dropsBytes limits draft = true)
    (ha : s.appendBoundedInternal limits draft rm now = .ok (s', o, a)) :
    (o.record = none ∧ ∃ rows, s' = { s with remoteSequences := rows }) ∨
      ∃ draft r, o.record = some r ∧ s.nextSequence < 2 ^ 63 - 1 ∧
        validateDraft draft = .ok () ∧ s.insertRecord draft rm now = .ok (s', r) := by
  simp only [appendBoundedInternal, bind_eq_ok] at ha
  obtain ⟨_, hdr, d, -, ha⟩ := ha
  split at ha
  · cases ha
    exact .inl ⟨rfl, _, rfl⟩
  · simp only [bind_unit_eq_ok, failIf_eq_ok, Bool.or_eq_true, decide_eq_true_eq, not_or,
      not_le] at ha
    obtain ⟨⟨-, hl⟩, -, ha⟩ := ha
    split at ha
    · simp only [eq_ok_iff, Prod.exists] at ha
      obtain ⟨s₁, r, hi, ha⟩ := ha
      cases ha
      exact .inr ⟨draft, r, rfl, hl, hdr, hi⟩
    · rename_i body hb
      split at ha
      · cases ha
        exact .inl ⟨rfl, _, rfl⟩
      · simp only [eq_ok_iff, Prod.exists] at ha
        obtain ⟨s₁, r, hi, ha⟩ := ha
        cases ha
        -- The marker of a truncation takes the identity of the draft.
        have hv : validateDraft { draft with body } = .ok () := by
          simp only [validateDraft, bind_unit_eq_ok] at hdr ⊢
          exact ⟨hdr.1, validateBody_of_truncation hd hb⟩
        exact .inr ⟨_, r, rfl, hl, hv, hi⟩

theorem Sound.append (h : s.Sound written) {o : OperationalAppendOutcomeV1} {a : Bool}
    (hd : s.dropsBytes limits draft = true)
    (ha : s.appendBoundedInternal limits draft rm now = .ok (s', o, a)) :
    s'.Sound (written ++ o.record.toList) ∧ s.nextSequence ≤ s'.nextSequence ∧
      ∀ {n r}, s'.records.get? n = some r → s.records.get? n = some r ∨ s.nextSequence ≤ n := by
  rcases append_cases hd ha with ⟨hno, rows, rfl⟩ | ⟨draft, r, hs, hl, hv, hi⟩
  · rw [hno, Option.toList_none, List.append_nil]
    exact ⟨⟨h.row, h.last, h.mark, h.runMark, h.gone⟩, Nat.le_refl _, .inl⟩
  · rw [hs]
    refine ⟨h.insertRecord hl hv hi, ?_⟩
    simp only [OperationalOutputStore.insertRecord, bind_unit_eq_ok] at hi
    obtain ⟨-, rfl, rfl⟩ := hi
    refine ⟨Nat.le_succ _, fun {n r} hn => ?_⟩
    rcases of_get?_insert hn with ⟨rfl, -⟩ | ⟨-, hn⟩
    · exact .inr (Nat.le_refl _)
    · exact .inl hn

/-! ## Pruning -/

omit [OutputHost] in
theorem get?_pruneRun {run : String × OperationalRunRow} {n : Nat} :
    (s.pruneRun run).records.get? n = some r ↔
      s.records.get? n = some r ∧ r.identity.runId ≠ run.1 := by
  simp [pruneRun, SortedMap.get?_filter]

theorem Sound.pruneRun (h : s.Sound written) {run : String × OperationalRunRow}
    (hru : s.runs.get? run.1 = some run.2) : (s.pruneRun run).Sound written := by
  obtain ⟨⟨rl, hl, hi⟩, hle⟩ := h.last hru
  have hb : run.2.lastSequence < s.nextSequence := (h.row hl).2.1
  refine ⟨fun {n r} hn => h.row (get?_pruneRun.1 hn).1, fun {id row} hro => ?_, ?_,
    fun {id mark} hm => ?_, fun {r} hr => ?_⟩
  · by_cases hne : id = run.1
    · subst hne
      simp [OperationalOutputStore.pruneRun] at hro
    · obtain ⟨⟨r, hr, hi⟩, hle⟩ := h.last ((SortedMap.get?_erase_ne _ hne).symm.trans hro)
      exact ⟨⟨r, get?_pruneRun.2 ⟨hr, hi ▸ hne⟩, hi⟩, fun hn => hle (get?_pruneRun.1 hn).1⟩
  · refine ⟨Nat.max_lt.2 ⟨h.mark.1, hb⟩, h.mark.2.1, Option.eq_none_iff_forall_ne_some.2 ?_⟩
    intro r hr
    obtain ⟨hr, hne⟩ := get?_pruneRun.1 hr
    -- The mark is the last sequence of the run, or the mark from before.
    rcases max_choice s.prunedThrough run.2.lastSequence with hma | hma <;>
      rw [show (s.pruneRun run).prunedThrough = _ from hma] at hr
    · rw [h.mark.2.2] at hr
      cases hr
    · cases hl.symm.trans hr
      exact hne hi
  · rcases SortedMap.of_get?_insert hm with ⟨rfl, rfl⟩ | ⟨-, hm⟩
    · refine ⟨max_le_max ?_ (Nat.le_refl _), fun hn hi => absurd hi (get?_pruneRun.1 hn).2⟩
      cases ho : s.prunedRuns.get? run.1 with
      | none => exact Nat.zero_le _
      | some old => exact (h.runMark ho).1
    · obtain ⟨hm, hlt⟩ := h.runMark hm
      exact ⟨le_max_of_le_left hm, fun hn => hlt (get?_pruneRun.1 hn).1⟩
  · by_cases hne : r.identity.runId = run.1
    · refine .inr ⟨_, by rw [hne]; exact SortedMap.get?_insert_self .., ?_⟩
      rcases h.gone hr with hn | ⟨mark, hm, hl'⟩
      · exact le_max_of_le_right (hle hn hne)
      · rw [← hne, hm]
        exact le_max_of_le_left hl'
    · refine (h.gone hr).imp (fun hn => get?_pruneRun.2 ⟨hn, hne⟩) ?_
      rintro ⟨mark, hm, hl'⟩
      exact ⟨mark, (SortedMap.get?_insert_ne _ hne _).trans hm, hl'⟩

theorem Sound.prune (h : s.Sound written) {runs : List (String × OperationalRunRow)}
    (hnd : (runs.map (·.1)).Nodup) (hr : ∀ run ∈ runs, s.runs.get? run.1 = some run.2) :
    (runs.foldl OperationalOutputStore.pruneRun s).Sound written := by
  induction runs generalizing s with
  | nil => exact h
  | cons run rest ih =>
    obtain ⟨hn, hnd⟩ := List.nodup_cons.1 hnd
    refine ih (h.pruneRun (hr run List.mem_cons_self)) hnd fun run' hm => ?_
    have hne : run'.1 ≠ run.1 := fun he => hn (List.mem_map.2 ⟨run', hm, he⟩)
    exact (get?_erase_ne _ hne).trans (hr run' (List.mem_cons_of_mem _ hm))

omit [OutputHost] in
theorem foldl_pruneRun (runs : List (String × OperationalRunRow)) (s : OperationalOutputStore) :
    (runs.foldl OperationalOutputStore.pruneRun s).nextSequence = s.nextSequence ∧
      ∀ {n r}, (runs.foldl OperationalOutputStore.pruneRun s).records.get? n = some r →
        s.records.get? n = some r := by
  induction runs generalizing s with
  | nil => exact ⟨rfl, id⟩
  | cons run rest ih => exact ⟨(ih _).1, fun hn => (get?_pruneRun.1 ((ih _).2 hn)).1⟩

omit [OutputHost] in
theorem pruneCandidates_spec (c : DateTime) (mr : Nat) :
    ((s.pruneCandidates c mr).map (·.1)).Nodup ∧
      ∀ run ∈ s.pruneCandidates c mr, s.runs.get? run.1 = some run.2 := by
  have hk : (s.runs.entries.map (·.1)).Nodup := s.runs.keys_sorted.imp ne_of_lt
  constructor
  · refine ((List.take_sublist _ _).map _).nodup (((List.perm_insertionSort _ _).map _).nodup_iff.2 ?_)
    exact (List.filter_sublist.map _).nodup hk
  · intro run hm
    have hm := (List.mem_insertionSort _).1 (List.mem_of_mem_take hm)
    exact (s.runs.mem_entries).1 (List.mem_of_mem_filter hm)

/-! ## Reading a page -/

theorem mem_recordsOf (h : s.Sound written) :
    r ∈ s.recordsOf runId ↔
      s.records.get? r.sequence = some r ∧ ∀ id ∈ runId, r.identity.runId = id := by
  simp only [recordsOf, List.mem_filter, SortedMap.mem_values, Option.all_eq_true,
    decide_eq_true_eq]
  refine and_congr_left fun _ => ⟨fun ⟨n, hn⟩ => ?_, fun hn => ⟨_, hn⟩⟩
  rwa [(h.row hn).1]

theorem recordsOf_increasing (h : s.Sound written) (ri : Option String) :
    (s.recordsOf ri).Pairwise (·.sequence < ·.sequence) := by
  refine List.Pairwise.filter _ (List.pairwise_map.2 (s.records.sorted.imp_of_mem ?_))
  intro a b ha hb hl
  rwa [(h.row (s.records.mem_entries.1 ha)).1, (h.row (s.records.mem_entries.1 hb)).1]

theorem fillPage_spec {rows : List OperationalRecordV1} (l bs : Nat)
    (hr : ∀ r ∈ rows, validatePersistedRecord r s.deploymentId = .ok ()) :
    ∃ page, s.fillPage l bs rows = .ok page ∧ page <+: rows ∧
      (0 < l → (∀ r ∈ rows, OutputHost.encodedLen r ≤ bs) → rows ≠ [] → page ≠ []) := by
  induction rows generalizing l bs with
  | nil => exact ⟨[], by cases l <;> rfl, List.prefix_refl _, fun _ _ h => absurd rfl h⟩
  | cons r rest ih =>
    cases l with
    | zero => exact ⟨[], rfl, List.nil_prefix, nofun⟩
    | succ l =>
      rw [fillPage]
      split_ifs with hf
      · exact ⟨[], rfl, List.nil_prefix,
          fun _ ha => absurd (ha r List.mem_cons_self) (Nat.not_le.2 hf)⟩
      · obtain ⟨page, hp, hpr, -⟩ :=
          ih l (bs - OutputHost.encodedLen r) fun r' h => hr r' (List.mem_cons_of_mem _ h)
        refine ⟨r :: page, ?_, (List.prefix_cons_inj r).2 hpr, fun _ _ _ => List.cons_ne_nil _ _⟩
        rw [hr r List.mem_cons_self, ok_bind, hp, ok_bind]

/-- A page after `after`. -/
structure PageOf (s : OperationalOutputStore) (runId : Option String) (after : Nat)
    (page : OperationalPageV1) : Prop where
  first : page.records <+: (s.recordsOf runId).filter (s.effectiveAfter runId after < ·.sequence)
  some : ∀ r ∈ s.recordsOf runId, s.effectiveAfter runId after < r.sequence → page.records ≠ []
  next : page.nextAfter = (page.records.getLast?.map (·.sequence)).getD (s.effectiveAfter runId after)
  more : page.hasMore = true ↔ page.nextAfter < s.prunedMark runId ∨
    ∃ r ∈ s.recordsOf runId, page.nextAfter < r.sequence
  gap : page.gap.isSome = true ↔ after < s.prunedMark runId

omit [OutputHost] in
theorem lt_getLast?_iff {l : List Nat} (h : l.Pairwise (· < ·)) {n m : Nat} :
    n < max (l.getLast?.getD m) m ↔ n < m ∨ ∃ k ∈ l, n < k := by
  rcases List.eq_nil_or_concat l with rfl | ⟨l, last, rfl⟩
  · simp
  rw [List.concat_eq_append] at h ⊢
  have hl : ∀ k ∈ l, k < last := fun k hk =>
    (List.pairwise_append.1 h).2.2 k hk last (List.mem_singleton_self _)
  simp only [List.getLast?_append, lt_max_iff, List.mem_append, List.mem_singleton]
  constructor
  · rintro (hn | hn)
    · exact .inr ⟨last, .inr rfl, hn⟩
    · exact .inl hn
  · rintro (hn | ⟨k, hk | rfl, hn⟩)
    · exact .inr hn
    · exact .inl (hn.trans (hl k hk))
    · exact .inl hn

theorem readScopedPage_spec (h : s.Sound written) {a limit : Nat} (ha : a < 2 ^ 63)
    (hl : 0 < limit ∧ limit ≤ maxOperationalPageRecords) :
    ∃ page, s.readScopedPage runId a limit = .ok page ∧ s.PageOf runId a page := by
  set rows := (s.recordsOf runId).filter (s.effectiveAfter runId a < ·.sequence) with hro
  have hst : ∀ r ∈ rows.take (limit + 1), s.records.get? r.sequence = some r := fun r hr =>
    ((mem_recordsOf h).1 (List.mem_of_mem_filter (List.mem_of_mem_take hr))).1
  obtain ⟨page, hp, hpr, hs⟩ := s.fillPage_spec limit maxOperationalPageBytes
    fun r hr => (h.row (hst r hr)).2.2.2.1
  have hg : failIf (2 ^ 63 - 1 < a || limit = 0 || maxOperationalPageRecords < limit)
      OperationalOutputError.invalidCursor = .ok () := by
    simp only [failIf_eq_ok, Bool.or_eq_true, decide_eq_true_eq]
    omega
  refine ⟨_, by dsimp only [readScopedPage]; rw [hg, ok_bind, hp, ok_bind], ?_⟩
  refine ⟨hpr.trans (List.take_prefix _ _), fun r hr hlt => ?_, rfl, ?_, ?_⟩
  · refine hs hl.1 (fun r' hr' => (h.row (hst r' hr')).2.2.2.2) ?_
    have hm : r ∈ rows := List.mem_filter.2 ⟨hr, by simpa using hlt⟩
    cases hc : rows with
    | nil => simp [hc] at hm
    | cons => simp
  · refine decide_eq_true_iff.trans
      ((lt_getLast?_iff (List.pairwise_map.2 (recordsOf_increasing h runId))).trans ?_)
    simp
  · split_ifs with hga <;> simp [hga]

/-- What a page holds lies between the cursors, and nothing between them is left out. -/
theorem PageOf.between (h : s.Sound written) {after : Nat} {page : OperationalPageV1}
    (hp : s.PageOf runId after page) :
    s.effectiveAfter runId after ≤ page.nextAfter ∧
      (page.nextAfter = s.effectiveAfter runId after ∧ page.records = [] ∨
        ∃ r ∈ s.recordsOf runId, page.nextAfter = r.sequence) ∧
      ∀ r, r ∈ page.records ↔ r ∈ s.recordsOf runId ∧
        s.effectiveAfter runId after < r.sequence ∧ r.sequence ≤ page.nextAfter := by
  obtain ⟨rest, hre⟩ := hp.first
  have hm : ∀ r, r ∈ page.records ++ rest ↔
      r ∈ s.recordsOf runId ∧ s.effectiveAfter runId after < r.sequence := by
    simp [hre]
  have hs := (recordsOf_increasing h runId).filter (s.effectiveAfter runId after < ·.sequence)
  rw [← hre] at hs
  rcases List.eq_nil_or_concat page.records with hni | ⟨init, last, hc⟩
  · have hn : page.nextAfter = s.effectiveAfter runId after := by rw [hp.next, hni]; rfl
    refine ⟨hn.ge, .inl ⟨hn, hni⟩, fun r => ?_⟩
    rw [hni]
    simp only [List.not_mem_nil, false_iff]
    omega
  · rw [List.concat_eq_append] at hc
    have hn : page.nextAfter = last.sequence := by rw [hp.next, hc]; simp
    have hl : last ∈ page.records := by simp [hc]
    obtain ⟨hst, hlt⟩ := (hm last).1 (List.mem_append_left _ hl)
    rw [hn]
    refine ⟨hlt.le, .inr ⟨last, hst, rfl⟩, fun r => ⟨fun hr => ?_, fun ⟨hr, hlt, hle⟩ => ?_⟩⟩
    · obtain ⟨hr', hl'⟩ := (hm r).1 (List.mem_append_left _ hr)
      refine ⟨hr', hl', ?_⟩
      rw [hc] at hs hr
      rcases List.mem_append.1 hr with hr | hr
      · exact (List.pairwise_append.1 (List.pairwise_append.1 hs).1).2.2 r hr last
          (List.mem_singleton_self _) |>.le
      · rw [List.mem_singleton.1 hr]
    · rcases List.mem_append.1 ((hm r).2 ⟨hr, hlt⟩) with hr | hr
      · exact hr
      · exact absurd ((List.pairwise_append.1 hs).2.2 last hl r hr) (Nat.not_lt.2 hle)

end OperationalOutputStore

/-! ## The follower -/

namespace OutputFollower

open OperationalOutputStore

variable [OutputHost]

/-- The store is sound, and the follower has read what is stored between `start` and its cursor. -/
structure Sofar (f : OutputFollower) : Prop where
  sound : f.store.Sound f.written
  cursor : f.start ≤ f.cursor ∧ (f.cursor = f.start ∨ f.cursor < f.store.nextSequence)
  limit : f.start < 2 ^ 63 ∧ 0 < f.limit ∧ f.limit ≤ maxOperationalPageRecords
  increasing : f.records.Pairwise (·.sequence < ·.sequence)
  read : ∀ r ∈ f.records, r ∈ f.written ∧ f.start < r.sequence ∧ r.sequence ≤ f.cursor ∧
    ∀ id ∈ f.runId, r.identity.runId = id
  complete : ∀ r ∈ f.store.recordsOf f.runId, f.start < r.sequence → r.sequence ≤ f.cursor →
    r ∈ f.records

variable {f : OutputFollower}

theorem Sofar.page (h : f.Sofar) :
    ∃ page, f.page = .ok page ∧ f.store.PageOf f.runId f.cursor page := by
  have hc := h.cursor.2
  have hs := h.limit.1
  have hn := h.sound.mark.2.1
  exact readScopedPage_spec h.sound (by omega) h.limit.2

/-- Nothing that is stored is skipped when a run's page starts behind the mark of the run. -/
theorem Sofar.effectiveAfter (h : f.Sofar) :
    f.cursor ≤ f.store.effectiveAfter f.runId f.cursor ∧
      f.store.effectiveAfter f.runId f.cursor ≤ max f.cursor (f.store.prunedMark f.runId) ∧
      ∀ r ∈ f.store.recordsOf f.runId, f.cursor < r.sequence →
        f.store.effectiveAfter f.runId f.cursor < r.sequence := by
  cases hru : f.runId with
  | none => exact ⟨Nat.le_refl _, le_max_left _ _, fun _ _ hl => hl⟩
  | some id =>
    refine ⟨le_max_left _ _, Nat.le_refl _, fun r hr hl => max_lt hl ?_⟩
    obtain ⟨hs, hi⟩ := (mem_recordsOf h.sound).1 hr
    simp only [prunedMark]
    cases hm : f.store.prunedRuns.get? id with
    | none => exact Nat.zero_lt_of_lt hl
    | some mark => exact (h.sound.runMark hm).2 hs (hi id rfl)

theorem prunedMark_lt (h : f.Sofar) : f.store.prunedMark f.runId < f.store.nextSequence := by
  refine Nat.lt_of_le_of_lt ?_ h.sound.mark.1
  unfold prunedMark
  split
  · rename_i id _
    cases hm : f.store.prunedRuns.get? id with
    | none => exact Nat.zero_le _
    | some mark => exact (h.sound.runMark hm).1
  · exact Nat.le_refl _

theorem step_read {page : OperationalPageV1} (hp : f.page = .ok page) :
    f.step .read = { f with cursor := page.nextAfter, records := f.records ++ page.records } := by
  simp only [step]
  rw [show f.store.readScopedPage f.runId f.cursor f.limit = _ from hp]

theorem Sofar.stepRead (h : f.Sofar) : (f.step .read).Sofar := by
  obtain ⟨page, hp, hpa⟩ := h.page
  obtain ⟨hl, hn, hme⟩ := hpa.between h.sound
  obtain ⟨hc, hma, hs⟩ := h.effectiveAfter
  have hm := prunedMark_lt h
  have hst : ∀ r ∈ f.store.recordsOf f.runId, r.sequence < f.store.nextSequence ∧
      r ∈ f.written ∧ ∀ id ∈ f.runId, r.identity.runId = id := fun r hr => by
    obtain ⟨hr, hi⟩ := (mem_recordsOf h.sound).1 hr
    exact ⟨(h.sound.row hr).2.1, (h.sound.row hr).2.2.1, hi⟩
  rw [step_read hp]
  refine ⟨h.sound, ⟨h.cursor.1.trans (hc.trans hl), ?_⟩, h.limit, ?_, fun r hr => ?_,
    fun r hr hlt hl' => ?_⟩
  · show page.nextAfter = f.start ∨ page.nextAfter < f.store.nextSequence
    have := h.cursor.2
    rcases hn with ⟨hn, -⟩ | ⟨r, hr, hn⟩
    · omega
    · exact .inr (hn ▸ (hst r hr).1)
  · refine List.pairwise_append.2 ⟨h.increasing, ?_, fun a ha b hb => ?_⟩
    · exact ((recordsOf_increasing h.sound _).filter _).sublist hpa.first.sublist
    · have := (h.read a ha).2.2.1
      have := ((hme b).1 hb).2.1
      omega
  · rcases List.mem_append.1 hr with hr | hr
    · obtain ⟨hw, hlt, hl', hi⟩ := h.read r hr
      exact ⟨hw, hlt, hl'.trans (hc.trans hl), hi⟩
    · obtain ⟨hr, hlt, hl'⟩ := (hme r).1 hr
      exact ⟨(hst r hr).2.1, (h.cursor.1.trans hc).trans_lt hlt, hl', (hst r hr).2.2⟩
  · by_cases hbe : r.sequence ≤ f.cursor
    · exact List.mem_append_left _ (h.complete r hr hlt hbe)
    · exact List.mem_append_right _ ((hme r).2 ⟨hr, hs r hr (Nat.lt_of_not_le hbe), hl'⟩)

theorem Sofar.wrote (h : f.Sofar) {ls : OperationalOutputLimitsV1}
    {d : OperationalRecordDraftV1} {rm : Option RemoteOperationalIdentity} {now : DateTime}
    {an : Except OperationalOutputError (OperationalOutputStore × OperationalAppendOutcomeV1 × Bool)}
    (hd : f.store.dropsBytes ls d = true)
    (ha : ∀ {a}, an = .ok a →
      f.store.appendBoundedInternal ls d rm now = .ok a) : (f.wrote an).Sofar := by
  cases an with
  | error e => exact h
  | ok a =>
    obtain ⟨hs, hn, hne⟩ := h.sound.append hd (ha rfl)
    refine ⟨hs, ⟨h.cursor.1, h.cursor.2.imp_right (Nat.lt_of_lt_of_le · hn)⟩, h.limit,
      h.increasing, fun r hr => ?_, fun r hr hlt hl => ?_⟩
    · obtain ⟨hw, hre⟩ := h.read r hr
      exact ⟨List.mem_append_left _ hw, hre⟩
    · obtain ⟨hr, hi⟩ := (mem_recordsOf hs).1 hr
      rcases hne hr with hr | hr
      · exact h.complete r ((mem_recordsOf h.sound).2 ⟨hr, hi⟩) hlt hl
      · have := h.cursor.2
        change r.sequence ≤ f.cursor at hl
        change f.start < r.sequence at hlt
        omega

theorem Sofar.prune (h : f.Sofar) {c : DateTime} {mr : Nat} : (f.step (.prune c mr)).Sofar := by
  simp only [step]
  split
  case h_2 => exact h
  case h_1 store result hp =>
    simp only [pruneTerminalBefore, bind_unit_eq_ok] at hp
    obtain ⟨-, rfl, -⟩ := hp
    obtain ⟨hnd, hru⟩ := f.store.pruneCandidates_spec c mr
    have hs := h.sound.prune hnd hru
    obtain ⟨hn, hk⟩ := foldl_pruneRun (f.store.pruneCandidates c mr) f.store
    refine ⟨hs, ⟨h.cursor.1, hn ▸ h.cursor.2⟩, h.limit, h.increasing, h.read,
      fun r hr hlt hl => h.complete r ?_ hlt hl⟩
    obtain ⟨hr, hi⟩ := (mem_recordsOf hs).1 hr
    exact (mem_recordsOf h.sound).2 ⟨hk hr, hi⟩

/-- The condition of `dropsBytes` on the appends. -/
def dropsBytes (f : OutputFollower) : OutputAction → Bool
  | .append limits draft _ | .appendRemote limits _ draft _ => f.store.dropsBytes limits draft
  | _ => true

def dropsBytesRun (f : OutputFollower) : List OutputAction → Bool
  | [] => true
  | action :: rest => f.dropsBytes action && (f.step action).dropsBytesRun rest

theorem Sofar.step (h : f.Sofar) {a : OutputAction} (hd : f.dropsBytes a = true) :
    (f.step a).Sofar := by
  cases a with
  | append limits draft now => exact h.wrote hd id
  | appendRemote limits re draft now =>
    refine @wrote _ f h limits draft (some re) now _ hd fun ha => ?_
    simp only [appendRemoteBounded, bind_unit_eq_ok] at ha
    exact ha.2
  | prune c mr => exact h.prune
  | read => exact h.stepRead

theorem Sofar.run (h : f.Sofar) {acs : List OutputAction}
    (hd : f.dropsBytesRun acs = true) : (f.run acs).Sofar := by
  induction acs generalizing f with
  | nil => exact h
  | cons action rest ih =>
    simp only [dropsBytesRun, Bool.and_eq_true] at hd
    exact ih (h.step hd.1) hd.2

/-! ## Coming to an end -/

/-- The follower after `n` more pages, while nothing is written. -/
def reading (f : OutputFollower) (n : Nat) : OutputFollower := f.run (List.replicate n .read)

theorem reading_succ (f : OutputFollower) (n : Nat) :
    f.reading (n + 1) = (f.reading n).step .read := by
  simp [reading, run, List.replicate_succ']

/-- The mark of the store is not before the cursor, or a record is left behind it. -/
def reachesEnd (f : OutputFollower) : Bool :=
  f.runId.isSome || f.store.prunedThrough ≤ f.cursor ||
    f.store.records.keys.any (f.store.prunedThrough < ·)

/-- A page that announces more is followed by one that has more, and one page announces no more. -/
structure Ends (f : OutputFollower) : Prop where
  nonempty : ∀ n page next, (f.reading n).page = .ok page → page.hasMore = true →
    (f.reading (n + 1)).page = .ok next → next.records ≠ []
  last : ∃ n page, (f.reading n).page = .ok page ∧ page.hasMore = false

theorem Sofar.reading (h : f.Sofar) (n : Nat) : (f.reading n).Sofar ∧
    (f.reading n).store = f.store ∧ (f.reading n).runId = f.runId ∧
      f.cursor ≤ (f.reading n).cursor := by
  induction n with
  | zero => exact ⟨h, rfl, rfl, Nat.le_refl _⟩
  | succ n ih =>
    obtain ⟨hn, hs, hr, hc⟩ := ih
    obtain ⟨page, hp, hpa⟩ := hn.page
    refine ⟨reading_succ f n ▸ hn.stepRead, ?_⟩
    rw [reading_succ, step_read hp]
    exact ⟨hs, hr, hc.trans (hn.effectiveAfter.1.trans (hpa.between hn.sound).1)⟩

theorem Sofar.lt_of_hasMore (h : f.Sofar) (he : f.reachesEnd = true) {page : OperationalPageV1}
    (hp : f.store.PageOf f.runId f.cursor page) (hm : page.hasMore = true) :
    ∃ r ∈ f.store.recordsOf f.runId, page.nextAfter < r.sequence := by
  rcases hp.more.1 hm with hl | hr
  case inr => exact hr
  have hle := (hp.between h.sound).1
  simp only [reachesEnd, Bool.or_eq_true, decide_eq_true_eq, List.any_eq_true,
    SortedMap.mem_keys] at he
  cases hru : f.runId with
  | some id =>
    -- The page of a run starts behind the mark.
    rw [hru] at hle
    rw [hru] at hl
    exact absurd ((le_max_right _ _).trans hle) (Nat.not_le.2 hl)
  | none =>
    rw [hru] at he hl
    rw [hru] at hle
    rcases he with (hno | ha) | ⟨n, ⟨r, hr⟩, hn⟩
    · cases hno
    · exact absurd (ha.trans hle) (Nat.not_le.2 hl)
    · obtain rfl := (h.sound.row hr).1
      exact ⟨r, (mem_recordsOf h.sound).2 ⟨hr, nofun⟩, Nat.lt_trans hl hn⟩

theorem Sofar.ends (h : f.Sofar) (hen : f.reachesEnd = true) : f.Ends := by
  have he : ∀ n, (f.reading n).reachesEnd = true := by
    intro n
    obtain ⟨-, hs, hru, hc⟩ := h.reading n
    simp only [reachesEnd, hs, hru, Bool.or_eq_true, decide_eq_true_eq] at hen ⊢
    exact hen.imp_left (Or.imp_right (Nat.le_trans · hc))
  have hno : ∀ n page next, (f.reading n).page = .ok page → page.hasMore = true →
      (f.reading (n + 1)).page = .ok next → next.records ≠ [] := by
    intro n page next hpa hm hne
    have hn := (h.reading n).1
    obtain ⟨_, hpa', hp⟩ := hn.page
    cases hpa.symm.trans hpa'
    obtain ⟨r, hr, hlt⟩ := hn.lt_of_hasMore (he n) hp hm
    have hn' := (h.reading (n + 1)).1
    obtain ⟨_, hne', hp'⟩ := hn'.page
    cases hne.symm.trans hne'
    rw [reading_succ, step_read hpa] at hn' hp'
    exact hp'.some r hr (hn'.effectiveAfter.2.2 r hr hlt)
  refine ⟨hno, ?_⟩
  by_contra hnv
  have hm : ∀ n page, (f.reading n).page = .ok page → page.hasMore = true := fun n page hpa =>
    Bool.eq_true_of_not_eq_false fun hl => hnv ⟨n, page, hpa, hl⟩
  -- Every page but the first moves the cursor, which stays below the next sequence.
  have hg : ∀ n, n ≤ (f.reading (n + 1)).cursor := by
    intro n
    induction n with
    | zero => exact Nat.zero_le _
    | succ n ih =>
      have hn := (h.reading (n + 1)).1
      obtain ⟨page, hpa, hp⟩ := hn.page
      obtain ⟨before, hb, -⟩ := (h.reading n).1.page
      have hso := hno n before page hb (hm n before hb) hpa
      obtain ⟨r, hr⟩ := List.exists_mem_of_ne_nil _ hso
      have hr := ((hp.between hn.sound).2.2 r).1 hr
      have hle := hn.effectiveAfter.1
      rw [reading_succ, step_read hpa]
      show n + 1 ≤ page.nextAfter
      omega
  have hn := (h.reading (f.store.nextSequence + 1)).1
  obtain ⟨page, hpa, hp⟩ := hn.page
  obtain ⟨r, hr, hlt⟩ := hn.lt_of_hasMore (he _) hp (hm _ page hpa)
  have hst := (hn.sound.row ((mem_recordsOf hn.sound).1 hr).1).2.1
  rw [(h.reading _).2.1] at hst
  have hc := hg f.store.nextSequence
  have hle := hn.effectiveAfter.1.trans (hp.between hn.sound).1
  omega

theorem Sofar.reachesEnd (h : f.Sofar) (hl : f.Ends) : f.reachesEnd = true := by
  by_contra hno
  obtain ⟨n, page, hpa, hm⟩ := hl.last
  simp only [OutputFollower.reachesEnd, Bool.or_eq_true, decide_eq_true_eq, List.any_eq_true,
    mem_keys, not_or, not_exists, not_and, Nat.not_lt, Nat.not_le,
    Bool.not_eq_true, Option.isSome_eq_false_iff, Option.isNone_iff_eq_none] at hno
  obtain ⟨⟨hru, hc⟩, hb⟩ := hno
  -- A cursor before a mark that nothing is left behind stays there, and the page says there is more.
  have hst : ∀ n, (f.reading n).cursor < f.store.prunedThrough := by
    intro n
    induction n with
    | zero => exact hc
    | succ n ih =>
      obtain ⟨hn, hs, hr', -⟩ := h.reading n
      obtain ⟨page, hpa, hp⟩ := hn.page
      rw [reading_succ, step_read hpa]
      rcases (hp.between hn.sound).2.1 with ⟨hne, -⟩ | ⟨r, hr, hne⟩
      · rw [hr', hru] at hne
        exact hne ▸ ih
      · rw [hs] at hr
        obtain ⟨hr, -⟩ := (mem_recordsOf h.sound).1 hr
        refine hne ▸ Nat.lt_of_le_of_ne (hb _ ⟨r, hr⟩) fun he => ?_
        cases h.sound.mark.2.2.symm.trans ((congrArg _ he.symm).trans hr)
  obtain ⟨hn, hs, hr', -⟩ := h.reading n
  obtain ⟨_, hp', hp⟩ := hn.page
  cases hpa.symm.trans hp'
  have hne := hst (n + 1)
  rw [reading_succ, step_read hpa] at hne
  refine Bool.false_ne_true (hm.symm.trans (hp.more.2 (.inl ?_)))
  rw [hr', hru, hs]
  exact hne

/-- What a follower can rely on, whatever is written in between. -/
structure Followed (f : OutputFollower) : Prop where
  /-- The next page can be read. If it is the last one, then nothing that is stored was left out;
  if a record after the cursor is gone, then it announces a gap. -/
  page : ∃ page, f.page = .ok page ∧
    (page.hasMore = false → ∀ r ∈ f.store.recordsOf f.runId, f.start < r.sequence →
      r ∈ f.records ++ page.records) ∧
    ∀ r ∈ f.written, (∀ id ∈ f.runId, r.identity.runId = id) → f.cursor < r.sequence →
      r ∉ f.store.recordsOf f.runId → page.gap.isSome = true
  increasing : f.records.Pairwise (·.sequence < ·.sequence)
  read : ∀ r ∈ f.records, r ∈ f.written ∧ f.start < r.sequence ∧
    ∀ id ∈ f.runId, r.identity.runId = id

theorem Sofar.followed (h : f.Sofar) : f.Followed := by
  obtain ⟨page, hpa, hp⟩ := h.page
  obtain ⟨hle, -, hme⟩ := hp.between h.sound
  refine ⟨⟨page, hpa, fun hl r hr hlt => ?_, fun r hr hi hlt hg => ?_⟩, h.increasing,
    fun r hr => ⟨(h.read r hr).1, (h.read r hr).2.1, (h.read r hr).2.2.2⟩⟩
  · have hn : r.sequence ≤ page.nextAfter := by
      by_contra hn
      exact Bool.false_ne_true (hl.symm.trans (hp.more.2 (.inr ⟨r, hr, Nat.lt_of_not_le hn⟩)))
    by_cases hb : r.sequence ≤ f.cursor
    · exact List.mem_append_left _ (h.complete r hr hlt hb)
    · exact List.mem_append_right _
        ((hme r).2 ⟨hr, h.effectiveAfter.2.2 r hr (Nat.lt_of_not_le hb), hn⟩)
  · rw [hp.gap]
    rcases h.sound.gone hr with hs | ⟨mark, hm, hl'⟩
    · exact absurd ((mem_recordsOf h.sound).2 ⟨hs, hi⟩) hg
    · refine hlt.trans_le (hl'.trans ?_)
      cases hru : f.runId with
      | none => exact (h.sound.runMark hm).1
      | some id =>
        rw [hi id hru] at hm
        simp [prunedMark, hm]

/-- **Following output.** Beside any appends and prunes a follower reads what is stored after its
start once and in order and hears of what is gone; and once nothing is written any more it comes to
an end, with no empty page on the way, exactly if `reachesEnd` holds. -/
theorem output_followed (deploymentId : String) (runId : Option String) (limit start : Nat)
    (actions : List OutputAction) (hstart : start < 2 ^ 63)
    (hlimit : 0 < limit ∧ limit ≤ maxOperationalPageRecords)
    (hdrops : dropsBytesRun { store := { deploymentId }, runId, limit, start } actions = true) :
    let f := run { store := { deploymentId }, runId, limit, start } actions
    f.Followed ∧ (f.Ends ↔ f.reachesEnd = true) := by
  have he : ∀ {n : Nat} {r : OperationalRecordV1},
      (SortedMap.empty : SortedMap Nat OperationalRecordV1).get? n ≠ some r := by simp
  have hs : Sofar { store := { deploymentId }, runId, limit, start } :=
    ⟨⟨fun hn => absurd hn he, by simp, by simp, by simp, by simp⟩, by simp, ⟨hstart, hlimit⟩,
      .nil, by simp, fun r hr => by
      simp [OperationalOutputStore.recordsOf, values, SortedMap.empty] at hr⟩
  have h := hs.run hdrops
  exact ⟨h.followed, h.reachesEnd, h.ends⟩

end OutputFollower

namespace PrunedOutput

/-- Every record has a text of 200 bytes. -/
@[reducible] def host : OutputHost := ⟨fun _ => 200⟩

/-- A run that ends at `now`. -/
def ends (runId : String) (now : DateTime) : OutputAction :=
  .append {} { identity := { workflowId := "greet", runId }, body := .closed .succeeded none } now

def follower (runId : Option String) : OutputFollower :=
  { store := { deploymentId := "deployment" }, runId, limit := 10, start := 0 }

/-- The only run ended and was pruned: every page is empty and announces more. -/
theorem announces_more_forever :
    letI := host
    let f := (follower none).run [ends "first" 1, .prune 2 10]
    ∀ n, ∃ page, (f.reading n).page = .ok page ∧ page.hasMore = true ∧ page.records = [] := by
  let _ := host
  intro f n
  have hs : f.step .read = f := rfl
  have hr : f.reading n = f := by
    induction n with
    | zero => rfl
    | succ n ih => rw [reading_succ, ih, hs]
  rw [hr]
  exact ⟨_, rfl, rfl, rfl⟩

/-- A second run ends after the first was pruned: its record is read and following ends. -/
theorem second_run_followed :
    letI := host
    let f := (follower none).run [ends "first" 1, .prune 2 10, ends "second" 3]
    f.reachesEnd = true ∧ f.Followed ∧ f.Ends := by
  let _ := host
  have he : ((follower none).run
    [ends "first" 1, .prune 2 10, ends "second" 3]).reachesEnd = true := by decide +kernel
  have h := output_followed "deployment" none 10 0
    [ends "first" 1, .prune 2 10, ends "second" 3] (by decide) (by decide) (by decide +kernel)
  exact ⟨he, h.1, h.2.2 he⟩

end PrunedOutput

end Woml
