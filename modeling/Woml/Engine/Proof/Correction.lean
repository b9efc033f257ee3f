import Woml.Engine.Proof.History
import Woml.Projection.Proof.Saga

/-!
# The order of corrections

Sagas over whole accepted histories. `SagaTrace` relates the projected actions of a saga to the
registrations and starts in the history; `sagaTrace_step` keeps it over every accepted event.
`corrections_ordered` reads the order off it: compensations start in reverse order of completion
and before any cleanup, one attempt at a time, and cleanups start in source order.

A registration names a success of its step but not the iteration of it. The compensation of an
iteration is therefore only known to follow a success of that iteration when registrations carry
the scope of the success before them; `other_iteration_compensated` is a history where one does
not.
-/

namespace Woml

open Checked ProjectionFoldState HistoryCheck CorrectionActionStatus

/-! ## Positions in a history -/

section
variable (events : List RunEvent)

/-- The event at a position starts a corrective attempt. -/
def StartsAt (i : Nat) (data : CorrectionAttemptIdentityData) : Prop :=
  ∃ event, events[i]? = some event ∧ event.payload = .correctionAttemptStarted data

/-- The event at a position registers a compensation. -/
def RegistersAt (i : Nat) (data : CompensationRegisteredData) : Prop :=
  ∃ event, events[i]? = some event ∧ event.payload = .compensationRegistered data

/-- The event at a position schedules a retry of an action. -/
def ReschedulesAt (i : Nat) (sagaId actionId : String) : Prop :=
  ∃ event data, events[i]? = some event ∧ event.payload = .correctionRetryScheduled data ∧
    data.sagaId = sagaId ∧ data.actionId = actionId

end

variable {data : CorrectionAttemptIdentityData} {sagaId actionId stepId : String}

section
variable {events : List RunEvent} {n : Nat} {e : RunEvent}

theorem startsAt_lt {i : Nat} (h : StartsAt events i data) : i < events.length := by
  obtain ⟨_, h, -⟩ := h
  exact (List.getElem?_eq_some_iff.1 h).1

theorem startsAt_iff (hn : events[n]? = some e) :
    StartsAt events n data ↔ e.payload = .correctionAttemptStarted data := by
  simp [StartsAt, hn]

theorem registersAt_iff (hn : events[n]? = some e) {data : CompensationRegisteredData} :
    RegistersAt events n data ↔ e.payload = .compensationRegistered data := by
  simp [RegistersAt, hn]

end

/-! ## What the check asks of a start -/

namespace HistoryCheck

variable {state : SagaProjection}

theorem nextCompensation_spec {action : CorrectionActionProjection}
    (h : nextCompensation state = some action) :
    action ∈ state.actions.values ∧ isPendingCompensation action = true ∧
      ∀ b ∈ state.actions.values, isPendingCompensation b = true →
        completionKey b ≤ completionKey action := by
  have hm := List.argmax_mem (Option.mem_def.2 h)
  rw [List.mem_reverse, List.mem_filter] at hm
  refine ⟨hm.1, hm.2, fun b hb hp => ?_⟩
  exact List.le_of_mem_argmax (List.mem_reverse.2 (List.mem_filter.2 ⟨hb, hp⟩)) (Option.mem_def.2 h)

/-- What a start needs of the projected saga. -/
structure MayStart (saga : CompiledSaga) (state : SagaProjection)
    (data : CorrectionAttemptIdentityData) : Prop where
  compensation : data.actionKind = .compensation → state.reason ≠ some .success ∧
    ∃ action, nextCompensation state = some action ∧ action.actionId = data.actionId
  cleanupLast : data.actionKind = .cleanup → state.reason = some .success ∨
    ∀ action ∈ state.actions.values, isUnsettledCompensation action = false
  cleanupOrder : data.actionKind = .cleanup →
    ∃ earlier, cleanupBefore data.actionId saga.cleanup = some earlier ∧
      ∀ c ∈ earlier, ∃ action, state.actions.get? c.actionId = some action ∧
        isSettledCleanup action = true

/-- The compensation that may start is pending under its own name, and the last completed. -/
theorem MayStart.next {saga : CompiledSaga} (h : MayStart saga state data)
    (ha : ActionsOk state.actions) (hki : data.actionKind = .compensation) :
    ∃ action, state.actions.get? data.actionId = some action ∧
      isPendingCompensation action = true ∧
      ∀ b ∈ state.actions.values, isPendingCompensation b = true →
        completionKey b ≤ completionKey action := by
  obtain ⟨-, action, hn, hi⟩ := h.compensation hki
  obtain ⟨hme, hp, hm⟩ := nextCompensation_spec hn
  obtain ⟨k, hk⟩ := (SortedMap.mem_values _).1 hme
  have : k = data.actionId := (ha.keyed k action hk).symm.trans hi
  exact ⟨action, this ▸ hk, hp, hm⟩

theorem isPendingCompensation_iff {a : CorrectionActionProjection} :
    isPendingCompensation a = true ↔ a.actionKind = .compensation ∧
      (a.status = .registered ∨ a.status = .retryScheduled) := by
  simp [isPendingCompensation]

theorem compensationMayStart_eq_ok {actionId : String}
    (h : compensationMayStart state actionId = .ok ()) :
    state.reason ≠ some .success ∧
      ∃ action, nextCompensation state = some action ∧ action.actionId = actionId := by
  simp only [compensationMayStart, bind_unit_eq_ok, failIf_eq_ok, ne_eq, not_not] at h
  exact ⟨h.1, Option.map_eq_some_iff.1 h.2⟩

theorem cleanupMayStart_eq_ok {saga : CompiledSaga} {ai : String}
    (h : cleanupMayStart saga state ai = .ok ()) :
    (state.reason = some .success ∨
      ∀ action ∈ state.actions.values, isUnsettledCompensation action = false) ∧
    ∃ er, cleanupBefore ai saga.cleanup = some er ∧
      ∀ c ∈ er, ∃ action, state.actions.get? c.actionId = some action ∧
        isSettledCleanup action = true := by
  simp only [cleanupMayStart, eq_ok_iff] at h
  obtain ⟨_, hl, er, he, ho⟩ := h
  refine ⟨?_, er, he, fun c hc => ?_⟩
  · by_contra hn
    rw [not_or] at hn
    refine hl ⟨hn.1, ?_⟩
    simpa using hn.2
  · by_contra hn
    refine ho (List.any_eq_true.2 ⟨c, hc, ?_⟩)
    cases hg : state.actions.get? c.actionId with
    | none => rfl
    | some action =>
      have : isSettledCleanup action = false := by
        by_contra hs
        exact hn ⟨action, hg, by simpa using hs⟩
      simp [this]

end HistoryCheck

section
variable [Host] {fuel : Nat} {cl : Nat → DateTime} {w : DefinitionRef} {hash : String}
  {es : List RunEvent} {s : ProjectionFoldState}

/-- A corrective attempt of an accepted history was allowed where it starts. -/
theorem mayStart_of_check (h : checkEventHistoryAgainstDefinition fuel cl w hash es = .ok s)
    {n : Nat} (hsta : StartsAt es n data) {t : ProjectionFoldState}
    (ht : fromEvents (es.take n) = .ok t) :
    ∃ saga, w.saga data.sagaId = some saga ∧
      HistoryCheck.MayStart saga (t.projection.sagaOf data.sagaId) data := by
  obtain ⟨event, hn, hpa⟩ := hsta
  obtain ⟨c, c', hb, hs⟩ := turn_of_check h hn
  obtain ⟨t', t'', ht', -, ha⟩ := apply_at (fromEvents_of_check h) hn
  -- the fold accepts no corrective attempt inside an iteration
  have hto : event.iteration = none := by
    by_contra hso
    obtain ⟨-, p, hp, -⟩ := apply_eq_ok.1 ha
    have hsc : isIterationScoped event = true := by
      simp [isIterationScoped, isTopLevelScopedEvent, hpa, Option.isSome_iff_ne_none.2 hso]
    simp only [handle, hsc] at hp
    have := (quiet_of_iteration hsc hp).1 data.sagaId
    rw [hpa] at this
    exact this rfl
  simp only [HistoryCheck.step, hto, bind_eq_ok, checkPlace, hpa] at hs
  obtain ⟨_, -, hpl⟩ := hs
  obtain ⟨-, t', saga, state, ht', hsa, hst, hco, hc⟩ :=
    correctionAttemptStarted_before hb
      (Nat.le_of_lt (List.getElem?_eq_some_iff.1 hn).1) data c' hpl
  cases ht.symm.trans ht'
  rw [sagaOf_of_get? hst]
  exact ⟨saga, hsa, fun hk => compensationMayStart_eq_ok (hco hk),
    fun hk => (cleanupMayStart_eq_ok (hc hk)).1,
    fun hk => (cleanupMayStart_eq_ok (hc hk)).2⟩

end

/-! ## The actions of a saga and the history -/

open HistoryCheck (completionKey isPendingCompensation isPendingCompensation_iff)

/-- The action is registered, in flight or awaiting a retry. -/
def CorrectionActionStatus.isUnsettled : CorrectionActionStatus → Bool
  | registered | started | retryScheduled => true
  | _ => false

theorem isUnsettledCompensation_iff {a : CorrectionActionProjection} :
    isUnsettledCompensation a = true ↔
      a.actionKind = .compensation ∧ a.status.isUnsettled = true := by
  unfold isUnsettledCompensation
  cases a.status <;> simp [isUnsettled]

theorem isUnsettled_of_pending {a : CorrectionActionProjection}
    (h : isPendingCompensation a = true) : a.status.isUnsettled = true := by
  rcases (isPendingCompensation_iff.1 h).2 with hs | hs <;> rw [hs] <;> rfl

/-- The compensations of a saga are those that the first `n` events register. -/
structure Registrations (events : List RunEvent) (n : Nat) (sagaId : String)
    (actions : SortedMap String CorrectionActionProjection) : Prop where
  proven : ∀ k a, actions.get? k = some a → a.actionKind = .compensation →
    ∃ j < n, ∃ stepId sequence, RegistersAt events j ⟨sagaId, k, stepId, sequence⟩ ∧
      a.completionSequence = some sequence
  listed : ∀ j < n, ∀ k stepId sequence, RegistersAt events j ⟨sagaId, k, stepId, sequence⟩ →
    ∃ a, actions.get? k = some a ∧ a.actionKind = .compensation ∧
      a.completionSequence = some sequence

/-- What the starts among the first `n` events leave behind. -/
structure Starts (events : List RunEvent) (n : Nat) (sagaId : String) (saga : SagaProjection) :
    Prop where
  closed : saga.reason.isSome = true → saga.phase.isForward = false
  begun : ∀ i < n, ∀ data, StartsAt events i data → data.sagaId = sagaId → saga.phase ≠ .forward
  descending : ∀ i < n, ∀ k, StartsAt events i ⟨sagaId, k, .compensation, 1⟩ →
    ∃ a, saga.actions.get? k = some a ∧ ∀ k' b, saga.actions.get? k' = some b →
      b.actionKind = .compensation → b.attempts = 0 →
      completionKey b < completionKey a
  cleaned : ∀ k a, saga.actions.get? k = some a → a.actionKind = .cleanup →
    ∃ i < n, ∃ attempt, StartsAt events i ⟨sagaId, k, .cleanup, attempt⟩
  later : ∀ i < n, ∀ c attempt, StartsAt events i ⟨sagaId, c, .cleanup, attempt⟩ →
    saga.reason = some .success ∨ ∀ k a, saga.actions.get? k = some a →
      a.actionKind = .compensation → a.status.isUnsettled = true →
      ∃ m, i < m ∧ m < n ∧ ReschedulesAt events m sagaId k

section
variable {events : List RunEvent} {n : Nat} {event : RunEvent} {ps : Option RunEvent}
  {sagaId : String} {saga saga' : SagaProjection}

/-- What one event of an accepted history may assume of the saga before it. -/
structure StepContext (events : List RunEvent) (n : Nat) (event : RunEvent) (sagaId : String)
    (saga : SagaProjection) : Prop where
  at_n : events[n]? = some event
  actions : ActionsOk saga.actions
  allowed : ∀ data, StartsAt events n data → data.sagaId = sagaId →
    ∃ compiled, HistoryCheck.MayStart compiled saga data
  /-- A registration is placed right after the success that it names. -/
  placed : ∀ j data, RegistersAt events j data → data.completionSequence = j

theorem Registrations.step (h : Registrations events n sagaId saga.actions)
    (hc : StepContext events n event sagaId saga)
    (hs : SagaStep ps event.payload sagaId saga saga') :
    Registrations events (n + 1) sagaId saga'.actions := by
  refine ⟨fun k a' hk hki => ?_, fun j hj k stepId sq hr => ?_⟩
  · cases hs.origin hk with
    | old a found same =>
      obtain ⟨j, hj, stepId, sq, hr, hse⟩ := h.proven k a found (same.kind ▸ hki)
      exact ⟨j, by omega, stepId, sq, hr, same.completionSequence.trans hse⟩
    | registered data payload_eq tr key _ action_eq =>
      subst tr key action_eq
      exact ⟨n, by omega, _, _, (registersAt_iff hc.at_n).2 payload_eq, rfl⟩
    | started data payload_eq tr key u kind =>
      obtain ⟨_, hma⟩ := hc.allowed data ((startsAt_iff hc.at_n).2 payload_eq) tr
      obtain ⟨action, hg, -⟩ := hma.next hc.actions (kind.symm.trans hki)
      rw [key, u] at hg
      cases hg
  · by_cases hn : j = n
    · subst hn
      obtain ⟨-, -, rfl⟩ := hs.of_registered ((registersAt_iff hc.at_n).1 hr) rfl
      exact ⟨_, SortedMap.get?_insert_self _ _ _, rfl, rfl⟩
    · obtain ⟨a, ha, hki, hse⟩ := h.listed j (by omega) k stepId sq hr
      obtain ⟨a', ha', hsa⟩ := hs.persists ha
      exact ⟨a', ha', hsa.kind.trans hki, hsa.completionSequence.trans hse⟩

/-- Two compensations of one completion are one. -/
theorem Registrations.key_injective (h : Registrations events n sagaId saga.actions)
    (hc : StepContext events n event sagaId saga) {k k' : String} {a b : CorrectionActionProjection}
    (ha : saga.actions.get? k = some a) (hb : saga.actions.get? k' = some b)
    (hak : a.actionKind = .compensation) (hbk : b.actionKind = .compensation)
    (hk : completionKey a = completionKey b) : k = k' := by
  obtain ⟨j, -, _, sq, hj, has⟩ := h.proven k a ha hak
  obtain ⟨j', -, _, s', hj', hbs⟩ := h.proven k' b hb hbk
  simp only [completionKey, has, hbs, Option.elim_some] at hk
  have hp : sq = j := hc.placed j _ hj
  have hp' : s' = j' := hc.placed j' _ hj'
  have hs : j = j' := by omega
  subst hs
  obtain ⟨e, he, hpa⟩ := hj
  obtain ⟨e', he', hpa'⟩ := hj'
  cases he.symm.trans he'
  cases hpa.symm.trans hpa'
  rfl

theorem Starts.descending_step (h : Starts events n sagaId saga)
    (hr : Registrations events n sagaId saga.actions) (hc : StepContext events n event sagaId saga)
    (hst : SagaStep ps event.payload sagaId saga saga') {i : Nat} (hi : i < n + 1)
    {k : String} (hsta : StartsAt events i ⟨sagaId, k, .compensation, 1⟩) :
    ∃ a, saga'.actions.get? k = some a ∧ ∀ k' b, saga'.actions.get? k' = some b →
      b.actionKind = .compensation → b.attempts = 0 →
      completionKey b < completionKey a := by
  -- the completion of an action does not change
  have hke {a a' : CorrectionActionProjection} (hs : SameAction a a') :
      completionKey a' = completionKey a := by
    simp [completionKey, hs.completionSequence]
  by_cases hn : i = n
  · subst hn
    have hpa := (startsAt_iff hc.at_n).1 hsta
    obtain ⟨_, hma⟩ := hc.allowed _ hsta rfl
    obtain ⟨a, ha, hp, hm⟩ := hma.next hc.actions rfl
    have hak := (isPendingCompensation_iff.1 hp).1
    obtain ⟨a', ha', hs⟩ := hst.persists ha
    refine ⟨a', ha', fun k' b' hb' hb hz => ?_⟩
    cases hst.origin hb' with
    | registered _ payload_eq => rw [hpa] at payload_eq; cases payload_eq
    | started _ _ _ _ _ _ attempts => omega
    | old b found same =>
      have hbz : b.attempts = 0 := Nat.le_zero.1 (hz ▸ same.attempts)
      have hbk' : b.actionKind = .compensation := same.kind ▸ hb
      have hbp := isPendingCompensation_iff.2 ⟨hbk', .inl (hc.actions.fresh k' b found hbz)⟩
      have hl := hm b ((SortedMap.mem_values _).2 ⟨k', found⟩) hbp
      rw [hke same, hke hs]
      refine Nat.lt_of_le_of_ne hl fun he => ?_
      -- the same completion is the same action, which now has an attempt
      have hk : k' = k := hr.key_injective hc found ha hbk' hak he
      subst hk
      obtain ⟨action, -, -, -, -, rfl⟩ := hst.of_started hpa rfl
      rw [SortedMap.get?_insert_self] at hb'
      cases hb'
      cases hz
  · obtain ⟨a, ha, hbe⟩ := h.descending i (by omega) k hsta
    obtain ⟨a', ha', hs⟩ := hst.persists ha
    refine ⟨a', ha', fun k' b' hb' hb hz => ?_⟩
    cases hst.origin hb' with
    | registered _ _ _ _ forward => exact absurd forward (h.begun i (by omega) _ hsta rfl)
    | started _ _ _ _ _ _ attempts => omega
    | old b found same =>
      rw [hke same, hke hs]
      exact hbe k' b found (same.kind ▸ hb) (Nat.le_zero.1 (hz ▸ same.attempts))

theorem Starts.later_step (h : Starts events n sagaId saga)
    (hc : StepContext events n event sagaId saga)
    (hs : SagaStep ps event.payload sagaId saga saga') {i : Nat} (hi : i < n + 1)
    {c : String} {att : Nat} (hsta : StartsAt events i ⟨sagaId, c, .cleanup, att⟩) :
    saga'.reason = some .success ∨ ∀ k a, saga'.actions.get? k = some a →
      a.actionKind = .compensation → a.status.isUnsettled = true →
      ∃ m, i < m ∧ m < n + 1 ∧ ReschedulesAt events m sagaId k := by
  by_cases hne : i = n
  · subst hne
    obtain ⟨action, -, -, kind, -, rfl⟩ := hs.of_started ((startsAt_iff hc.at_n).1 hsta) rfl
    obtain ⟨cm, hma⟩ := hc.allowed _ hsta rfl
    refine (hma.cleanupLast rfl).imp_right fun hse k a hk ha hu => ?_
    rcases SortedMap.of_get?_insert hk with ⟨rfl, rfl⟩ | ⟨-, hk⟩
    · cases kind.symm.trans ha
    · have hn := hse a ((SortedMap.mem_values _).2 ⟨k, hk⟩)
      rw [isUnsettledCompensation_iff.2 ⟨ha, hu⟩] at hn
      cases hn
  · have hin : i < n := by omega
    rcases h.later i hin c att hsta with hr | hl
    · have hph := h.closed (by rw [hr]; rfl)
      exact .inl ((hs.reason_eq hph).trans hr)
    · have ho {k a} (hk : saga.actions.get? k = some a) (hki : a.actionKind = .compensation)
          (hu : a.status.isUnsettled = true) :
          ∃ m, i < m ∧ m < n + 1 ∧ ReschedulesAt events m sagaId k := by
        obtain ⟨m, him, hmn, hm⟩ := hl k a hk hki hu
        exact ⟨m, him, by omega, hm⟩
      refine .inr fun k a' hk hki hu => ?_
      cases hs with
      | kept _ actions => exact ho (actions ▸ hk) hki hu
      | registered _ _ _ forward => exact absurd forward (h.begun i hin _ hsta rfl)
      | started data action payload_eq tr _ _ _ kind _ _ saga'_eq =>
        subst saga'_eq
        rcases SortedMap.of_get?_insert hk with ⟨rfl, rfl⟩ | ⟨-, hk⟩
        · obtain ⟨_, hma⟩ := hc.allowed data ((startsAt_iff hc.at_n).2 payload_eq) tr
          obtain ⟨b, hb, hp, -⟩ := hma.next hc.actions (kind.symm.trans hki)
          exact ho hb (isPendingCompensation_iff.1 hp).1 (isUnsettled_of_pending hp)
        · exact ho hk hki hu
      | moved actionId action act' _ _ actions _ _ after retry =>
        rw [actions] at hk
        rcases SortedMap.of_get?_insert hk with ⟨rfl, rfl⟩ | ⟨-, hk⟩
        · have hw : act'.status = .registered ∨ act'.status = .retryScheduled := by
            revert after hu
            cases act'.status <;> simp [CorrectionActionStatus.isUnsettled]
          obtain ⟨data, hpa, ht, hke, -⟩ := retry hw
          exact ⟨n, hin, by omega, event, data, hc.at_n, hpa, ht, hke⟩
        · exact ho hk hki hu

theorem Starts.step (h : Starts events n sagaId saga)
    (hr : Registrations events n sagaId saga.actions) (hc : StepContext events n event sagaId saga)
    (hs : SagaStep ps event.payload sagaId saga saga') : Starts events (n + 1) sagaId saga' where
  closed := hs.closed h.closed
  begun := by
    intro i hi data hst ht hf
    have hb := hs.phase_reason.1.forward hf
    by_cases hn : i = n
    · subst hn
      obtain ⟨action, correcting, -⟩ := hs.of_started ((startsAt_iff hc.at_n).1 hst) ht
      rw [hb] at correcting
      cases correcting
    · exact h.begun i (by omega) data hst ht hb
  descending := fun _ hi _ hst => h.descending_step hr hc hs hi hst
  cleaned := by
    intro k a' hk hki
    cases hs.origin hk with
    | old a found same =>
      obtain ⟨i, hi, attempt, hst⟩ := h.cleaned k a found (same.kind ▸ hki)
      exact ⟨i, by omega, attempt, hst⟩
    | registered _ _ _ _ _ action_eq => rw [action_eq] at hki; cases hki
    | started data payload_eq tr key _ kind =>
      have hd : data.actionKind = .cleanup := kind.symm.trans hki
      refine ⟨n, by omega, data.attempt, (startsAt_iff hc.at_n).2 ?_⟩
      rw [payload_eq, ← tr, ← key, ← hd]
  later := fun _ hi _ _ hst => h.later_step hc hs hi hst

end

/-! ## Whole histories -/

/-- What the first `n` events leave behind in a saga. -/
structure SagaTrace (events : List RunEvent) (n : Nat) (sagaId : String) (saga : SagaProjection) :
    Prop where
  actions : ActionsOk saga.actions
  registrations : Registrations events n sagaId saga.actions
  starts : Starts events n sagaId saga

/-- A compensation `actionId` is registered for `stepId` by the event after position `k`. -/
structure CompensationAt (events : List RunEvent) (k : Nat) (success registration : RunEvent)
    (sagaId actionId stepId : String) : Prop where
  at_success : events[k]? = some success
  at_registration : events[k + 1]? = some registration
  succeeded : ∃ data, success.payload = .stepAttemptSucceeded data ∧ data.nodeId = stepId
  registered : registration.payload = .compensationRegistered ⟨sagaId, actionId, stepId, k + 1⟩

theorem CompensationAt.registersAt {es : List RunEvent} {k : Nat} {s r : RunEvent}
    (h : CompensationAt es k s r sagaId actionId stepId) :
    RegistersAt es (k + 1) ⟨sagaId, actionId, stepId, k + 1⟩ :=
  ⟨r, h.at_registration, h.registered⟩

section
variable [Host] {fuel : Nat} {clock : Nat → DateTime} {w : DefinitionRef} {hash : String}
  {events : List RunEvent} {s t : ProjectionFoldState}

/-- A registration follows the success that it names. -/
theorem compensationAt_of_registersAt (h : fromEvents events = .ok s) {j : Nat}
    {data : CompensationRegisteredData} (hr : RegistersAt events j data) :
    ∃ k success registration, j = k + 1 ∧ data.completionSequence = k + 1 ∧
      CompensationAt events k success registration data.sagaId data.actionId data.forStepId := by
  obtain ⟨registration, hj, hpa⟩ := hr
  obtain ⟨t, t', ht, -, ha⟩ := apply_at h hj
  have hl := (bookkeeping ht).last
  obtain ⟨-, p, -⟩ := (apply_sagaStep ha data.sagaId).of_registered hpa rfl
  cases hp : t.previousEvent with
  | none => rw [hp] at p; cases p
  | some success =>
    rw [hp, Option.any_some] at p
    rw [hp] at hl
    cases j with
    | zero => cases hl
    | succ k =>
      have hk : events[k]? = some success := by
        have hlt := (List.getElem?_eq_some_iff.1 hj).1
        rw [List.getLast?_eq_getElem?, List.length_take_of_le (Nat.le_of_lt hlt),
          List.getElem?_take_of_lt (by omega)] at hl
        exact hl.symm
      unfold isForwardSuccessOf at p
      split at p
      · rename_i succeeded hs
        simp only [Bool.and_eq_true, decide_eq_true_eq] at p
        have hse : data.completionSequence = k + 1 := p.2.symm.trans (sequence_at h hk)
        refine ⟨k, success, registration, rfl, hse, hk, hj, ⟨succeeded, hs, p.1⟩, ?_⟩
        rw [hpa, ← hse]
      · cases p

/-- **The trace of every saga** at every position of an accepted history. -/
theorem sagaTrace_of_check
    (hch : checkEventHistoryAgainstDefinition fuel clock w hash events = .ok s) {n : Nat}
    (hn : n ≤ events.length) (ht : fromEvents (events.take n) = .ok t) (si : String) :
    SagaTrace events n si (t.projection.sagaOf si) := by
  have hf := fromEvents_of_check hch
  refine fromEvents_take_induction
    (P := fun n t => SagaTrace events n si (t.projection.sagaOf si)) ?_ ?_ hn ht
  · have hno {k : String} {a : CorrectionActionProjection} {P : Prop}
        (h : SortedMap.empty.get? k = some a) : P := by cases h
    have hl {i : Nat} {P : Prop} (h : i < 0) : P := absurd h (Nat.not_lt_zero i)
    exact ⟨⟨fun _ _ => hno, fun _ _ => hno, fun _ _ _ _ => hno⟩, ⟨fun _ _ => hno, fun _ => hl⟩,
      ⟨fun h => (by cases h), fun _ => hl, fun _ => hl, fun _ _ => hno, fun _ => hl⟩⟩
  · intro n event t t' he ht htr ha
    have hs := apply_sagaStep ha si
    have hc : StepContext events n event si (t.projection.sagaOf si) := by
      refine ⟨he, htr.actions, ?_, ?_⟩
      · rintro data hst rfl
        obtain ⟨c, -, hm⟩ := mayStart_of_check hch hst ht
        exact ⟨c, hm⟩
      · intro j data hr
        obtain ⟨k, _, _, rfl, hse, -⟩ := compensationAt_of_registersAt hf hr
        exact hse
    exact ⟨htr.actions.step hs, htr.registrations.step hc hs,
      htr.starts.step htr.registrations hc hs⟩

/-- **The corrections of a saga run in order.** -/
structure CorrectionsOrdered (w : DefinitionRef) (events : List RunEvent) (sagaId : String) :
    Prop where
  /-- First attempts of compensations start in decreasing order of completion. -/
  reverse : ∀ i j, i < j → ∀ a b, StartsAt events i ⟨sagaId, a, .compensation, 1⟩ →
    StartsAt events j ⟨sagaId, b, .compensation, 1⟩ →
    ∀ ia ib stepA stepB completionA completionB,
      RegistersAt events ia ⟨sagaId, a, stepA, completionA⟩ →
      RegistersAt events ib ⟨sagaId, b, stepB, completionB⟩ → completionB < completionA
  /-- A compensation starts after a success of its step, in its own iteration, was recorded. -/
  proven : ∀ i a attempt, StartsAt events i ⟨sagaId, a, .compensation, attempt⟩ →
    ∃ k success registration stepId, k + 1 < i ∧
      CompensationAt events k success registration sagaId a stepId ∧
      success.iteration = registration.iteration
  /-- At no position are two corrective attempts in flight. -/
  exclusive : ∀ n t saga, fromEvents (events.take n) = .ok t →
    t.projection.sagas.get? sagaId = some saga →
    ∀ a ∈ saga.actions.values, ∀ b ∈ saga.actions.values,
      a.status = .started → b.status = .started → a = b
  /-- Cleanup starts when every compensation has settled, or after a success of the forward work;
  a compensation that starts later does so by a retry that was scheduled in between. -/
  cleanupLast : ∀ i c attempt, StartsAt events i ⟨sagaId, c, .cleanup, attempt⟩ →
    ∃ t saga, fromEvents (events.take i) = .ok t ∧
      t.projection.sagas.get? sagaId = some saga ∧
      (saga.reason = some .success ∨ (∀ b ∈ saga.actions.values, b.actionKind = .compensation →
          b.status.isUnsettled = false) ∧
        ∀ j b attempt', i < j → StartsAt events j ⟨sagaId, b, .compensation, attempt'⟩ →
          ∃ m, i < m ∧ m < j ∧ ReschedulesAt events m sagaId b)
  /-- Where a cleanup starts, those before it in the source have settled; if they start at all,
  they started before. -/
  sourceOrder : ∀ i c attempt, StartsAt events i ⟨sagaId, c, .cleanup, attempt⟩ →
    ∃ t saga compiled earlier, fromEvents (events.take i) = .ok t ∧
      t.projection.sagas.get? sagaId = some saga ∧ w.saga sagaId = some compiled ∧
      HistoryCheck.cleanupBefore c compiled.cleanup = some earlier ∧
      ∀ b ∈ earlier,
        (∃ action, saga.actions.get? b.actionId = some action ∧ action.status.isUnsettled = false) ∧
        ∀ j attempt', StartsAt events j ⟨sagaId, b.actionId, .cleanup, attempt'⟩ →
          ∃ k < i, ∃ attempt'', StartsAt events k ⟨sagaId, b.actionId, .cleanup, attempt''⟩

/-- Every compensation that starts was registered in the iteration of the success that its
registration follows. -/
def RegisteredInScope (events : List RunEvent) : Prop :=
  ∀ k success registration sagaId actionId stepId,
    CompensationAt events k success registration sagaId actionId stepId →
    (∃ i attempt, StartsAt events i ⟨sagaId, actionId, .compensation, attempt⟩) →
    success.iteration = registration.iteration

/-! ### One start -/

/-- What an accepted history has reached where it starts a corrective attempt. -/
structure StartContext (w : DefinitionRef) (events : List RunEvent) (n : Nat)
    (data : CorrectionAttemptIdentityData) (t : ProjectionFoldState) (saga : SagaProjection)
    (compiled : CompiledSaga) : Prop where
  reached : fromEvents (events.take n) = .ok t
  found : t.projection.sagas.get? data.sagaId = some saga
  trace : SagaTrace events n data.sagaId saga
  defined : w.saga data.sagaId = some compiled
  allowed : HistoryCheck.MayStart compiled saga data
  action : ∀ action, saga.actions.get? data.actionId = some action →
    action.actionKind = data.actionKind ∧ data.attempt = action.attempts + 1

section
variable (hcheck : checkEventHistoryAgainstDefinition fuel clock w hash events = .ok s)
include hcheck

theorem startContext {n : Nat} (hs : StartsAt events n data) :
    ∃ t saga compiled, StartContext w events n data t saga compiled := by
  have hn := startsAt_lt hs
  obtain ⟨event, he, hp⟩ := id hs
  obtain ⟨t, t', ht, -, ha⟩ := apply_at (fromEvents_of_check hcheck) he
  obtain ⟨action, correcting, rfl, kind, attempt, -⟩ :=
    (apply_sagaStep ha data.sagaId).of_started hp rfl
  have htr := sagaTrace_of_check hcheck (Nat.le_of_lt hn) ht data.sagaId
  obtain ⟨compiled, hc, hm⟩ := mayStart_of_check hcheck hs ht
  cases hg : t.projection.sagas.get? data.sagaId with
  | none =>
    rw [RunProjection.sagaOf, hg] at correcting
    cases correcting
  | some saga =>
    rw [sagaOf_of_get? hg] at htr hm kind attempt
    refine ⟨t, saga, compiled, ht, hg, htr, hc, hm, fun action ha => ?_⟩
    rw [ha] at kind attempt
    exact ⟨kind, attempt⟩

theorem registersAt_lt_of_startsAt {i j : Nat} {data : CompensationRegisteredData}
    {s : CorrectionAttemptIdentityData} (hr : RegistersAt events j data)
    (hst : StartsAt events i s) (hs : s.sagaId = data.sagaId) : j < i := by
  obtain ⟨event, hj, hp⟩ := hr
  by_contra hn
  have hne : i ≠ j := by
    rintro rfl
    rw [startsAt_iff hj, hp] at hst
    cases hst
  obtain ⟨t, t', ht, -, ha⟩ := apply_at (fromEvents_of_check hcheck) hj
  have htr := sagaTrace_of_check hcheck (Nat.le_of_lt (List.getElem?_eq_some_iff.1 hj).1) ht
    data.sagaId
  obtain ⟨forward, -⟩ := (apply_sagaStep ha data.sagaId).of_registered hp rfl
  exact htr.starts.begun i (by omega) s hst hs forward

/-- The completion of a compensation where a correction starts, at or after another one. -/
theorem StartContext.completion {saga : SagaProjection} {compiled : CompiledSaga} {i j k n : Nat}
    (h : StartContext w events k data t saga compiled) (hi : i ≤ k)
    {s : CorrectionAttemptIdentityData} (hst : StartsAt events i s) (hs : s.sagaId = data.sagaId)
    (hr : RegistersAt events j ⟨data.sagaId, actionId, stepId, n⟩) :
    ∃ a, saga.actions.get? actionId = some a ∧
      a.actionKind = .compensation ∧ a.completionSequence = some n := by
  have hl := registersAt_lt_of_startsAt hcheck hr hst hs
  exact h.trace.registrations.listed j (by omega) actionId stepId n hr

/-! ### The order -/

theorem reverse_of_check {si a b sa sb : String} {i j ia ib na nb : Nat} (hij : i < j)
    (hi : StartsAt events i ⟨si, a, .compensation, 1⟩)
    (hj : StartsAt events j ⟨si, b, .compensation, 1⟩) (ha : RegistersAt events ia ⟨si, a, sa, na⟩)
    (hb : RegistersAt events ib ⟨si, b, sb, nb⟩) : nb < na := by
  obtain ⟨t, saga, _, h⟩ := startContext hcheck hj
  obtain ⟨a', ha', -, hc⟩ := h.completion hcheck (Nat.le_of_lt hij) hi rfl ha
  obtain ⟨b', hb', hbk, hco⟩ := h.completion hcheck (Nat.le_refl j) hj rfl hb
  obtain ⟨a'', ha'', hbe⟩ := h.trace.starts.descending i hij a hi
  cases ha'.symm.trans ha''
  -- the later compensation has no attempt yet
  have hat := (h.action b' hb').2
  have hk := hbe b b' hb' hbk (by simpa using hat)
  simpa [completionKey, hc, hco] using hk

/-- A compensation starts after a success of its step. -/
theorem compensationAt_of_startsAt {si a : String} {i att : Nat}
    (hi : StartsAt events i ⟨si, a, .compensation, att⟩) :
    ∃ k success registration stepId, k + 1 < i ∧
      CompensationAt events k success registration si a stepId := by
  obtain ⟨t, saga, _, h⟩ := startContext hcheck hi
  obtain ⟨action, hg, hp, -⟩ := h.allowed.next h.trace.actions rfl
  obtain ⟨j, hj, stepId, sq, hr, -⟩ := h.trace.registrations.proven a action hg
    (isPendingCompensation_iff.1 hp).1
  obtain ⟨m, success, registration, rfl, -, ha⟩ :=
    compensationAt_of_registersAt (fromEvents_of_check hcheck) hr
  exact ⟨m, success, registration, stepId, hj, ha⟩

theorem exclusive_of_check {n : Nat} (ht : fromEvents (events.take n) = .ok t) {si : String}
    {saga : SagaProjection} (hs : t.projection.sagas.get? si = some saga)
    {a b : CorrectionActionProjection} (ha : a ∈ saga.actions.values) (hb : b ∈ saga.actions.values)
    (has : a.status = .started) (hbs : b.status = .started) : a = b := by
  rw [List.take_eq_take_min] at ht
  have htr := sagaTrace_of_check hcheck (Nat.min_le_right n events.length) ht si
  rw [sagaOf_of_get? hs] at htr
  obtain ⟨k, hk⟩ := (SortedMap.mem_values _).1 ha
  obtain ⟨k', hk'⟩ := (SortedMap.mem_values _).1 hb
  have := htr.actions.exclusive k k' a b hk hk' has hbs
  subst this
  exact Option.some.inj (hk.symm.trans hk')

theorem correctionsOrdered_of_check (hsc : RegisteredInScope events) (si : String) :
    CorrectionsOrdered w events si where
  reverse _ _ hij _ _ hi hj _ _ _ _ _ _ ha hb := reverse_of_check hcheck hij hi hj ha hb
  proven i a attempt hi := by
    obtain ⟨k, success, registration, stepId, hk, hat⟩ := compensationAt_of_startsAt hcheck hi
    exact ⟨k, success, registration, stepId, hk, hat,
      hsc k success registration si a stepId hat ⟨i, attempt, hi⟩⟩
  exclusive _ _ _ ht hs _ ha _ hb := exclusive_of_check hcheck ht hs ha hb
  cleanupLast i c attempt hi := by
    obtain ⟨t, saga, _, h⟩ := startContext hcheck hi
    refine ⟨t, saga, h.reached, h.found, (h.allowed.cleanupLast rfl).imp_right fun hse =>
      ⟨fun b hb hki => ?_, fun j b a' hij hj => ?_⟩⟩
    · by_contra hu
      rw [Bool.not_eq_false] at hu
      have := hse b hb
      rw [isUnsettledCompensation_iff.2 ⟨hki, hu⟩] at this
      cases this
    · obtain ⟨t', saga', _, h'⟩ := startContext hcheck hj
      obtain ⟨action, hg, hp, -⟩ := h'.allowed.next h'.trace.actions rfl
      rcases h'.trace.starts.later i hij c attempt hi with hsu | hla
      · exact absurd hsu (h'.allowed.compensation rfl).1
      · exact hla b action hg (isPendingCompensation_iff.1 hp).1 (isUnsettled_of_pending hp)
  sourceOrder i c attempt hi := by
    obtain ⟨t, saga, cm, h⟩ := startContext hcheck hi
    obtain ⟨er, he, ho⟩ := h.allowed.cleanupOrder rfl
    refine ⟨t, saga, cm, er, h.reached, h.found, h.defined, he, fun b hb => ?_⟩
    obtain ⟨action, hg, hse⟩ := ho b hb
    refine ⟨⟨action, hg, ?_⟩, fun j a' hj => ?_⟩
    · revert hse
      unfold isSettledCleanup
      cases action.status <;> simp [isUnsettled]
    · cases hki : action.actionKind with
      | cleanup => exact h.trace.starts.cleaned b.actionId action hg hki
      | compensation =>
        -- a registered compensation of that name never starts as a cleanup
        obtain ⟨m, hm, stepId, sq, hr, -⟩ := h.trace.registrations.proven b.actionId action hg hki
        obtain ⟨t', saga', _, h'⟩ := startContext hcheck hj
        obtain ⟨a, ha, hak, -⟩ := h'.completion hcheck (Nat.le_refl j) hj rfl hr
        cases hak.symm.trans (h'.action a ha).1

end

/-- **When corrections run in order.** In an accepted history the corrections of every saga run in
order exactly when each compensation that starts was registered in the iteration of its success.
Only `proven` depends on that. -/
theorem corrections_ordered_iff
    (hcheck : checkEventHistoryAgainstDefinition fuel clock w hash events = .ok s) :
    (∀ sagaId, CorrectionsOrdered w events sagaId) ↔ RegisteredInScope events := by
  constructor
  · rintro ho k success registration sagaId a stepId ha ⟨i, attempt, hi⟩
    obtain ⟨k', success', registration', stepId', hk', ha', hsc⟩ :=
      (ho sagaId).proven i a attempt hi
    -- an action is registered once
    obtain ⟨t, saga, _, h⟩ := startContext hcheck hi
    obtain ⟨b, hb, -, hc⟩ := h.completion hcheck (Nat.le_refl i) hi rfl ha.registersAt
    obtain ⟨b', hb', -, hc'⟩ := h.completion hcheck (Nat.le_refl i) hi rfl ha'.registersAt
    cases hb.symm.trans hb'
    cases hc.symm.trans hc'
    cases ha.at_success.symm.trans ha'.at_success
    cases ha.at_registration.symm.trans ha'.at_registration
    exact hsc
  · exact correctionsOrdered_of_check hcheck

end

/-! ## A compensation of another iteration

A saga around a loop over the lines of an order. -/

namespace LoopSaga

open SerialRun (definitionHash)

def queueDigest : String := "1c168adb00d208e42f93314529f1fa9c0427eb63233ceda95a5db52b7012a719"

def itemsDigest : String := "49a64717d5d4cb19952e6eac2946415cf6879adacf9908e7d872332d32c6e684"

@[reducible] def host : Host := SerialRun.host "orders" queueDigest []

/-- The compensation of a charge, one for each line. -/
def undo : CompiledCorrectiveAction where
  actionId := "order:charge"
  node := { id := "order:charge", handler := "runtime.script" }
  identity := .forEachIteration "lines" "order:charge:\x7biterationKey\x7d"
  visibleStepIds := ["charge"]
  forStepId := some "charge"

def definition : DefinitionRef where
  address := 0
  schemaVersion := 19
  workflowId := "orders"
  triggers := [⟨"start", "trigger.manual"⟩]
  graph := {
    entryNodeIds := ["__woml_saga__order__open"]
    nodes := [
      { id := "__woml_saga__order__open", handler := "engine.saga-open" },
      { id := "__woml_for_each__lines__open", handler := "engine.for-each-open" },
      { id := "lines", handler := "engine.for-each-result" },
      { id := "__woml_saga__order__commit", handler := "engine.saga-commit" },
      { id := "order", handler := "engine.saga-result" },
      { id := "__woml_workflow__settlement", handler := "engine.workflow-settlement" }]
    edges := [
      { id := "order:open", source := "__woml_saga__order__open"
        target := "__woml_for_each__lines__open" },
      { id := "lines:result", source := "__woml_for_each__lines__open", target := "lines" },
      { id := "order:commit", source := "lines", target := "__woml_saga__order__commit" },
      { id := "order:result", source := "__woml_saga__order__commit", target := "order" },
      { id := "__woml_workflow__:main:settlement", source := "order"
        target := "__woml_workflow__settlement" }]
    forks := some []
    choices := some []
    contextVisibility := some []
    settlement := some ⟨"__woml_workflow__settlement", "order", []⟩
    forEach := some [{
      forEachId := "lines"
      openNodeId := "__woml_for_each__lines__open"
      resultNodeId := "lines"
      items := .contextReference ["trigger", "lines"]
      concurrency := 2
      outerStepIds := []
      body := {
        entryNodeIds := ["charge"]
        nodes := [{ id := "charge", handler := "runtime.script" }]
        edges := []
        choices := []
        contextVisibility := []
        terminalNodeId := "charge" } }]
    waits := some []
    locks := some []
    sagas := some [{
      sagaId := "order"
      openNodeId := "__woml_saga__order__open"
      commitNodeId := "__woml_saga__order__commit"
      resultNodeId := "order"
      bodyEntryNodeId := "__woml_for_each__lines__open"
      bodyTerminalNodeId := "lines"
      bodyResultNodeId := "lines"
      outerStepIds := []
      compensations := [undo]
      cleanup := [] }] }
  runtimePolicy := some SerialRun.policy

def event (sequence : Nat) (eventId : String) (payload : RunEventPayload)
    (iteration : Option Nat := none) : RunEvent :=
  { eventSchemaVersion := 18, eventId, runId := "run", sequence, occurredAt := 0, payload
    iteration := iteration.map (⟨"lines", ·⟩) }

/-- The charge of the first line succeeds; the compensation of the line `registered` is registered
for it and started. -/
def history (registered : Nat) : List RunEvent :=
  let action := s!"order:charge:{registered}"
  [event 1 "e1" (SerialRun.admission queueDigest),
    event 2 "e2" (.runExecutionStarted ⟨0, none⟩),
    event 3 "e3" (.sagaStarted ⟨"order"⟩),
    event 4 "e4" (.forEachOpened ⟨"lines", 2, "sha256:" ++ itemsDigest, 2⟩),
    event 5 "e5" (.forEachIterationStarted ⟨"lines"⟩) (some 0),
    event 6 "e6" (.stepAttemptStarted
      ⟨"charge", 1, "i1", "runtime.script", some ("sha256:" ++ itemsDigest)⟩) (some 0),
    event 7 "e7" (.stepAttemptSucceeded ⟨"charge", 1, "i1", .object []⟩) (some 0),
    event 8 "e8" (.compensationRegistered ⟨"order", action, "charge", 7⟩) (some registered),
    event 9 "e9" (.sagaCorrectionStarted ⟨"order", .failure⟩),
    event 10 "e10" (.correctionAttemptStarted ⟨"order", action, .compensation, 1⟩)]

def check (registered : Nat) : Except EngineError ProjectionFoldState :=
  @checkEventHistoryAgainstDefinition host 1 (fun _ => 0) definition definitionHash
    (history registered)

/-- The one registration and the success before it. -/
theorem iterations_of_compensationAt {r k : Nat} {s rg : RunEvent}
    (h : CompensationAt (history r) k s rg sagaId actionId stepId) :
    s.iteration = some ⟨"lines", 0⟩ ∧ rg.iteration = some ⟨"lines", r⟩ := by
  have hk : k + 1 < 10 := (List.getElem?_eq_some_iff.1 h.at_registration).1
  have hs := h.at_success
  have hr := h.at_registration
  have hre := h.registered
  have : k = 0 ∨ k = 1 ∨ k = 2 ∨ k = 3 ∨ k = 4 ∨ k = 5 ∨ k = 6 ∨ k = 7 ∨ k = 8 := by omega
  rcases this with rfl | rfl | rfl | rfl | rfl | rfl | rfl | rfl | rfl <;> cases hr <;>
    cases hre
  cases hs
  exact ⟨rfl, rfl⟩

theorem startsAt_nine (r : Nat) : StartsAt (history r) 9
    ⟨"order", s!"order:charge:{r}", .compensation, 1⟩ := ⟨_, rfl, rfl⟩

/-- The compensation of the second line starts in an accepted history, and no step of the second
line ever succeeds. -/
theorem other_iteration_compensated :
    (∃ s, @checkEventHistoryAgainstDefinition host 1 (fun _ => 0) definition definitionHash
      (history 1) = .ok s) ∧
    StartsAt (history 1) 9 ⟨"order", "order:charge:1", .compensation, 1⟩ ∧
    (∀ event ∈ history 1, event.iteration = some ⟨"lines", 1⟩ →
      ∀ data, event.payload ≠ .stepAttemptSucceeded data) ∧
    ¬@CorrectionsOrdered host definition (history 1) "order" := by
  refine ⟨by decide +kernel, startsAt_nine 1, ?_, fun h => ?_⟩
  · intro event he hsc data hp
    simp only [history, List.mem_cons, List.not_mem_nil, or_false] at he
    rcases he with rfl | rfl | rfl | rfl | rfl | rfl | rfl | rfl | rfl | rfl <;>
      first | cases hp; done | cases hsc
  · obtain ⟨k, success, registration, stepId, -, ha, hsc⟩ :=
      @CorrectionsOrdered.proven host _ _ _ h 9 _ 1 (startsAt_nine 1)
    obtain ⟨hs, hr⟩ := iterations_of_compensationAt ha
    rw [hs, hr] at hsc
    cases hsc

/-- With the registration in the scope of its success, the corrections are ordered. -/
theorem corrections_ordered_first_line :
    @CorrectionsOrdered host definition (history 0) "order" := by
  obtain ⟨s, hs⟩ : ∃ s, check 0 = .ok s := by decide +kernel
  refine (@corrections_ordered_iff host _ _ _ _ _ _ hs).2 ?_ "order"
  intro k success registration sagaId a stepId ha _
  obtain ⟨hsu, hr⟩ := iterations_of_compensationAt ha
  rw [hsu, hr]

end LoopSaga
end Woml
