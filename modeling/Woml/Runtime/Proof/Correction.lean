import Woml.Engine.Proof.Recovery
import Woml.Runtime.Correction

/-!
# Manual recovery under the correction of a saga

A correction visits the actions of its saga one after the other. `Corrects` is what one visit does
to the saga: it changes one action, stays in the correction and keeps the phase true. `Visited`
composes it over a list of actions. A correction that returns has visited every action that waits
for an operator (`waiting_visited`), so the run loop goes on only when none is left, provided the
phase spoke for all of them when it started.
-/

namespace Woml

open Checked ProjectionFoldState LiveRun HistoryCheck SortedMap

section
variable [Host] {fuel : Nat} {clock : Nat → DateTime} {w : DefinitionRef} {hash : String}
  {p : RunEventPayload} {compiled : CompiledSaga} {a : CorrectionActionProjection}
  {k : String}

/-! ## Appends -/

namespace LiveRun

variable {run run' : LiveRun fuel clock w hash} {env : Surroundings}

/-- The saga as the projection has it. -/
def sagaOf (run : LiveRun fuel clock w hash) (sagaId : String) : SagaProjection :=
  run.state.projection.sagaOf sagaId

theorem append_events {payloads : List RunEventPayload} (h : run.append env payloads = .ok run') :
    run'.events = run.events ++ run.candidates env payloads := by
  unfold append at h
  simp only at h
  split at h
  · cases h
  · split at h
    · cases h
      rfl
    · cases h

theorem fold_of_append {ps : List RunEventPayload} (h : run.append env ps = .ok run') :
    (run.candidates env ps).foldlM ProjectionFoldState.apply run.state = .ok run'.state := by
  have hf := fromEvents_of_check run'.accepted
  rw [append_events h] at hf
  obtain ⟨t, ht, hr⟩ := fromEvents_append hf
  rw [fromEvents_of_check run.accepted] at ht
  cases ht
  exact hr

theorem apply_of_append (h : run.append env [p] = .ok run') :
    ∃ e, e.payload = p ∧ run.state.apply e = .ok run'.state := by
  have := fold_of_append h
  simp only [candidates, List.mapIdx_cons, List.mapIdx_nil, List.foldlM_cons, List.foldlM_nil,
    bind_eq_ok, pure_eq_ok] at this
  obtain ⟨s, hs, rfl⟩ := this
  exact ⟨_, rfl, hs⟩

theorem apply_of_append_two {f sc : RunEventPayload} (h : run.append env [f, sc] = .ok run') :
    ∃ e e' s, e.payload = f ∧ e'.payload = sc ∧ run.state.apply e = .ok s ∧
      s.apply e' = .ok run'.state := by
  have := fold_of_append h
  simp only [candidates, List.mapIdx_cons, List.mapIdx_nil, List.foldlM_cons, List.foldlM_nil,
    bind_eq_ok, pure_eq_ok] at this
  obtain ⟨s, hs, s', hs', rfl⟩ := this
  exact ⟨_, _, s, rfl, rfl, hs, hs'⟩

end LiveRun

/-! ## One visit -/

/-- What the correction of the action `k` does to its saga. -/
structure Corrects (k : String) (saga saga' : SagaProjection) : Prop where
  others : ∀ k' ≠ k, saga'.actions.get? k' = saga.actions.get? k'
  correcting : saga.phase.isCorrecting = true → saga'.phase.isCorrecting = true
  holds : saga.HoldsRecovery → saga'.HoldsRecovery

/-- The action does not wait for an operator. -/
def SagaProjection.NotWaiting (saga : SagaProjection) (k : String) : Prop :=
  ∀ a, saga.actions.get? k = some a → a.status ≠ .manualRecovery

section
variable {k si : String} {saga saga' saga'' : SagaProjection}

omit [Host] in
theorem Corrects.refl (k : String) (saga : SagaProjection) : Corrects k saga saga :=
  ⟨fun _ _ => rfl, id, id⟩

omit [Host] in
theorem Corrects.trans (h : Corrects k saga saga') (h' : Corrects k saga' saga'') :
    Corrects k saga saga'' :=
  ⟨fun k' hn => (h'.others k' hn).trans (h.others k' hn),
    fun hc => h'.correcting (h.correcting hc), fun hh => h'.holds (h.holds hh)⟩

omit [Host] in
/-- An event about the action `k` rewrites it, and may take the saga into its correction. -/
theorem RecoveryStep.of_target (hs : RecoveryStep p si saga saga')
    (ht : p.correctionTarget = some (si, k)) :
    ∃ action phase, saga' = { saga with phase, actions := saga.actions.insert k action } ∧
      (phase = saga.phase ∨ phase.isCorrecting = true) ∧
      ((∀ data, p ≠ .manualRecoveryRequired data) → action.status ≠ .manualRecovery) := by
  cases hs with
  | kept quiet => exact absurd ht (quiet k)
  | forward quiet => rw [ht] at quiet; cases quiet
  | moved key action tr saga'_eq status =>
    cases ht.symm.trans tr
    exact ⟨action, _, saga'_eq, .inl rfl, fun _ => status⟩
  | retried data _ a' payload_eq _ _ _ saga'_eq status =>
    subst payload_eq
    cases ht
    exact ⟨a', _, saga'_eq, .inr rfl, fun _ => status⟩
  | required data action payload_eq _ saga'_eq =>
    subst payload_eq
    cases ht
    exact ⟨action, _, saga'_eq, .inr rfl, fun hn => absurd rfl (hn data)⟩
  | completed _ payload_eq => subst payload_eq; cases ht

omit [Host] in
/-- An event about the action `k`; a retry only of an action that does not wait. -/
theorem RecoveryStep.corrects (hs : RecoveryStep p si saga saga')
    (ht : p.correctionTarget = some (si, k))
    (hr : ∀ data, p = .correctionRetryScheduled data → saga.NotWaiting k) :
    Corrects k saga saga' := by
  obtain ⟨action, phase, he, hph, -⟩ := hs.of_target ht
  refine ⟨fun k' hn => ?_, fun hc => ?_, hs.holdsRecovery ?_⟩
  · rw [he]
    exact get?_insert_ne _ hn _
  · rw [he]
    exact hph.elim (fun hsa => hsa ▸ hc) id
  · rintro data action hp - hf hw
    subst hp
    cases ht
    exact absurd hw (hr data rfl action hf)

omit [Host] in
/-- Unless the event hands the action to an operator, it does not wait afterwards. -/
theorem RecoveryStep.notWaiting (hst : RecoveryStep p si saga saga')
    (ht : p.correctionTarget = some (si, k))
    (hr : ∀ data, p ≠ .manualRecoveryRequired data) : saga'.NotWaiting k := by
  intro a ha
  obtain ⟨action, phase, rfl, -, hs⟩ := hst.of_target ht
  cases (get?_insert_self _ _ _).symm.trans ha
  exact hs hr

end

section
variable {run run' : LiveRun fuel clock w hash} {env : Surroundings} {sagaId k : String}

theorem corrects_of_append (h : run.append env [p] = .ok run')
    (ht : p.correctionTarget = some (sagaId, k))
    (hr : ∀ data, p = .correctionRetryScheduled data → (run.sagaOf sagaId).NotWaiting k) :
    Corrects k (run.sagaOf sagaId) (run'.sagaOf sagaId) := by
  obtain ⟨e, rfl, ha⟩ := LiveRun.apply_of_append h
  exact (apply_recoveryStep ha sagaId).corrects ht hr

theorem notWaiting_of_append (h : run.append env [p] = .ok run')
    (ht : p.correctionTarget = some (sagaId, k))
    (hr : ∀ data, p ≠ .manualRecoveryRequired data) : (run'.sagaOf sagaId).NotWaiting k := by
  obtain ⟨e, rfl, ha⟩ := apply_of_append h
  exact (apply_recoveryStep ha sagaId).notWaiting ht hr

variable {act : CompiledCorrectiveAction} {kind : CorrectiveActionKind}

theorem interruptAction_corrects {a : Nat} {code : String}
    (h : interruptAction env sagaId k kind run a code = .ok run') :
    Corrects k (run.sagaOf sagaId) (run'.sagaOf sagaId) := by
  obtain ⟨e, e', s, he, he', ha, ha'⟩ := apply_of_append_two h
  have first := (apply_recoveryStep ha sagaId).corrects (by rw [he]; rfl)
    fun data heq => by rw [he] at heq; cases heq
  have second := (apply_recoveryStep ha' sagaId).corrects (by rw [he']; rfl)
    fun data heq => by rw [he'] at heq; cases heq
  exact first.trans second

/-- The attempts change one action, and leave it waiting only with that outcome. -/
theorem runAttempts_corrects {r a : Nat} {c c' : Bool} {o : CorrectiveActionOutcome}
    (hi : (run.sagaOf sagaId).NotWaiting k)
    (h : runAttempts env sagaId act k kind r a c run = .ok (o, c', run')) :
    Corrects k (run.sagaOf sagaId) (run'.sagaOf sagaId) ∧
      (o ≠ .manualRecovery → (run'.sagaOf sagaId).NotWaiting k) := by
  induction r generalizing a c run with
  | zero =>
    cases h
    exact ⟨.refl k _, fun _ => hi⟩
  | succ r ih =>
    simp only [runAttempts, bind_eq_ok] at h
    obtain ⟨started, hst, h⟩ := h
    have hs : Corrects k (run.sagaOf sagaId) (started.sagaOf sagaId) :=
      corrects_of_append hst rfl nofun
    split at h
    · simp only [bind_eq_ok] at h
      obtain ⟨cut, hc, h⟩ := h
      cases h
      exact ⟨hs.trans (interruptAction_corrects hc), fun hn => absurd rfl hn⟩
    · simp only [bind_eq_ok] at h
      obtain ⟨rp, -, h⟩ := h
      cases rp with
      | success =>
        simp only [bind_eq_ok] at h
        obtain ⟨done, hd, h⟩ := h
        cases h
        exact ⟨hs.trans (corrects_of_append hd rfl nofun),
          fun _ => notWaiting_of_append hd rfl nofun⟩
      | lost =>
        simp only [bind_eq_ok] at h
        obtain ⟨cut, hc, h⟩ := h
        cases h
        exact ⟨hs.trans (interruptAction_corrects hc), fun hn => absurd rfl hn⟩
      | failure failure =>
        simp only [bind_eq_ok] at h
        obtain ⟨failed, hfa, h⟩ := h
        have hf := hs.trans (corrects_of_append hfa rfl nofun)
        have hfl : (failed.sagaOf sagaId).NotWaiting k :=
          notWaiting_of_append hfa rfl nofun
        split at h
        · simp only [bind_eq_ok] at h
          obtain ⟨ha, hh, h⟩ := h
          cases h
          exact ⟨hf.trans (corrects_of_append hh rfl nofun), fun hn => absurd rfl hn⟩
        · split at h
          · cases h
            exact ⟨hf, fun _ => hfl⟩
          · simp only [bind_eq_ok] at h
            obtain ⟨rs, hr, h⟩ := h
            -- the runtime retries an action that failed, not one that waits
            have hre := corrects_of_append hr rfl fun _ _ => hfl
            obtain ⟨hrs, ho⟩ := ih (notWaiting_of_append hr rfl nofun) h
            exact ⟨(hf.trans hre).trans hrs, ho⟩

/-- No action waits, or the operator has resolved it. -/
def SagaProjection.Cleared (env : Surroundings) (sagaId : String) (saga : SagaProjection)
    (k : String) : Prop :=
  ∀ a, saga.actions.get? k = some a → a.status = .manualRecovery → env.resolved sagaId k = true

theorem executeCorrectiveAction_corrects {c c' : Bool} {o : CorrectiveActionOutcome}
    (h : executeCorrectiveAction env sagaId act k kind c run = .ok (o, c', run')) :
    Corrects k (run.sagaOf sagaId) (run'.sagaOf sagaId) ∧
      (o ≠ .manualRecovery → (run'.sagaOf sagaId).Cleared env sagaId k) := by
  simp only [executeCorrectiveAction, bind_eq_ok] at h
  obtain ⟨_, -, h⟩ := h
  -- the projected action is the one of `sagaOf`
  have hp (a : CorrectionActionProjection) (ha : (run.sagaOf sagaId).actions.get? k = some a) :
      (run.saga sagaId).bind (·.actions.get? k) = some a := by
    unfold LiveRun.saga
    cases hg : run.state.projection.sagas.get? sagaId with
    | none =>
      rw [LiveRun.sagaOf, RunProjection.sagaOf, hg] at ha
      cases ha
    | some saga =>
      rw [LiveRun.sagaOf, sagaOf_of_get? hg] at ha
      exact ha
  split at h
  · rename_i hsu
    cases h
    refine ⟨.refl k _, fun _ a ha hs => ?_⟩
    rw [hp a ha] at hsu
    simp [hs] at hsu
  · split at h
    · rename_i hr
      cases h
      exact ⟨.refl k _, fun _ _ _ _ => hr⟩
    · split at h
      · cases h
        exact ⟨.refl k _, fun hn => absurd rfl hn⟩
      · rename_i hw
        simp only [bind_eq_ok] at h
        obtain ⟨_, -, h⟩ := h
        have hi : (run.sagaOf sagaId).NotWaiting k := by
          intro a ha hs
          rw [hp a ha] at hw
          simp [hs] at hw
        obtain ⟨hc, haf⟩ := runAttempts_corrects hi h
        exact ⟨hc, fun hn a ha hs => absurd hs (haf hn a ha)⟩

end

/-! ## One saga -/

/-- What visiting the actions `visited` of a saga does: no other action changes, and unless one of
them is left to an operator, none of them waits unresolved. -/
structure Visited (env : Surroundings) (sagaId : String) (visited : List String)
    (c c' : Correction fuel clock w hash) : Prop where
  others : ∀ k ∉ visited,
    (c'.run.sagaOf sagaId).actions.get? k = (c.run.sagaOf sagaId).actions.get? k
  correcting : (c.run.sagaOf sagaId).phase.isCorrecting = true →
    (c'.run.sagaOf sagaId).phase.isCorrecting = true
  holds : (c.run.sagaOf sagaId).HoldsRecovery → (c'.run.sagaOf sagaId).HoldsRecovery
  cleared : c'.manualRecovery = false → c.manualRecovery = false ∧
    ∀ k ∈ visited, (c'.run.sagaOf sagaId).Cleared env sagaId k

section
variable {env : Surroundings} {saga : CompiledSaga} {si : String}
  {c c' c'' : Correction fuel clock w hash}

theorem Visited.refl (c : Correction fuel clock w hash) : Visited env si [] c c :=
  ⟨fun _ _ => rfl, id, id, fun h => ⟨h, nofun⟩⟩

theorem Visited.trans {f s : List String} (h : Visited env si f c c')
    (h' : Visited env si s c' c'') : Visited env si (f ++ s) c c'' := by
  refine ⟨fun k hk => ?_, fun hc => h'.correcting (h.correcting hc),
    fun hh => h'.holds (h.holds hh), fun hcl => ?_⟩
  · rw [List.mem_append, not_or] at hk
    exact (h'.others k hk.2).trans (h.others k hk.1)
  · obtain ⟨hc', hse⟩ := h'.cleared hcl
    obtain ⟨hc'', hf⟩ := h.cleared hc'
    refine ⟨hc'', fun k hk a ha hs => ?_⟩
    by_cases hl : k ∈ s
    · exact hse k hl a ha hs
    · rw [h'.others k hl] at ha
      exact hf k ((List.mem_append.1 hk).resolve_right hl) a ha hs

theorem Visited.of_execute {a : CompiledCorrectiveAction} {kind : CorrectiveActionKind}
    (h : c.execute env saga a k kind = .ok c') : Visited env saga.sagaId [k] c c' := by
  simp only [Correction.execute, bind_eq_ok] at h
  obtain ⟨⟨outcome, connected, run⟩, he, h⟩ := h
  cases h
  obtain ⟨hco, hcl⟩ := executeCorrectiveAction_corrects he
  refine ⟨fun k' hk' => hco.others k' (by simpa using hk'), hco.correcting, hco.holds, fun hc => ?_⟩
  simp only [Bool.or_eq_false_iff, decide_eq_false_iff_not] at hc
  refine ⟨hc.1, fun k' hk' => ?_⟩
  rw [List.mem_singleton.1 hk']
  exact hcl hc.2

/-- A loop of visits. -/
theorem Visited.of_loop {α : Type}
    {f : Correction fuel clock w hash → α → Except RuntimeExecutionError (Correction fuel clock w hash)}
    {name : α → String}
    (hf : ∀ c c' x, f c x = .ok c' → Visited env si [name x] c c') :
    ∀ (xs : List α) (c : Correction fuel clock w hash), xs.foldlM f c = .ok c' →
      Visited env si (xs.map name) c c'
  | [], _, h => by
    cases h
    exact .refl _
  | x :: xs, c, h => by
    simp only [List.foldlM_cons, bind_eq_ok] at h
    obtain ⟨t, ht, h⟩ := h
    exact (hf c t x ht).trans (Visited.of_loop hf xs t h)

theorem Visited.of_cleanUp (h : c.cleanUp env saga = .ok c') :
    Visited env saga.sagaId (saga.cleanup.map (·.actionId)) c c' :=
  Visited.of_loop (fun _ _ _ hx => .of_execute hx) saga.cleanup c h

theorem Visited.of_compensate (h : c.compensate env saga = .ok c') :
    Visited env saga.sagaId
      ((c.run.sagaOf saga.sagaId).registeredCompensations.map (·.2)) c c' := by
  simp only [Correction.compensate, eq_ok_iff] at h
  obtain ⟨state, hst, h⟩ := h
  have hs : c.run.sagaOf saga.sagaId = state := sagaOf_of_get? hst
  rw [hs]
  refine Visited.of_loop (fun c c' x hx => ?_) _ c h
  simp only [bind_eq_ok] at hx
  obtain ⟨action, -, hx⟩ := hx
  exact .of_execute hx

omit [Host] in
/-- Every compensation with a completion is on the list. -/
theorem mem_registeredCompensations {s : SagaProjection} {sq : Nat}
    (hk : s.actions.get? k = some a) (hi : a.actionId = k) (hki : a.actionKind = .compensation)
    (hs : a.completionSequence = some sq) : k ∈ s.registeredCompensations.map (·.2) := by
  refine List.mem_map.2 ⟨(sq, k), ?_, rfl⟩
  refine (List.mem_insertionSort _).2 (List.mem_filterMap.2 ⟨a, ?_, ?_⟩)
  · exact List.mem_filter.2 ⟨(mem_values _).2 ⟨k, hk⟩, by simpa using hki⟩
  · rw [hs, hi]
    rfl

end

/-! ## Every waiting action is visited -/

section
variable {es : List RunEvent} {s t : ProjectionFoldState} {si : String}

omit [Host] in
theorem mem_of_cleanupBefore {c e : List CompiledCorrectiveAction}
    (h : cleanupBefore k c = some e) : k ∈ c.map (·.actionId) := by
  induction c generalizing e with
  | nil => cases h
  | cons action rest ih =>
    unfold cleanupBefore at h
    split at h
    · rename_i he
      exact List.mem_map.2 ⟨action, List.mem_cons_self, he⟩
    · obtain ⟨_, hr, -⟩ := Option.map_eq_some_iff.1 h
      exact List.mem_cons_of_mem _ (ih hr)

/-- Compensations run only when the forward work did not succeed. -/
theorem reason_of_compensation (h : checkEventHistoryAgainstDefinition fuel clock w hash es = .ok s)
    {n : Nat} (hn : n ≤ es.length) (ht : fromEvents (es.take n) = .ok t)
    (hk : (t.projection.sagaOf si).actions.get? k = some a) (hki : a.actionKind = .compensation)
    (ha : a.attempts ≠ 0) :
    (t.projection.sagaOf si).phase.isForward = false ∧
      (t.projection.sagaOf si).reason ≠ some .success := by
  revert a
  refine fromEvents_take_induction (P := fun _ t => ∀ {a : CorrectionActionProjection},
    (t.projection.sagaOf si).actions.get? k = some a → a.actionKind = .compensation →
    a.attempts ≠ 0 → (t.projection.sagaOf si).phase.isForward = false ∧
      (t.projection.sagaOf si).reason ≠ some .success) ?_ ?_ hn ht
  · intro a hk
    cases hk
  · intro n event t t' he ht ih hap a hk hki ha
    have hst := apply_sagaStep hap si
    -- the action had an attempt before, or this event is its first one
    suffices hbe : (t.projection.sagaOf si).phase.isForward = false ∧
        (t.projection.sagaOf si).reason ≠ some .success by
      refine ⟨?_, (hst.reason_eq hbe.1).symm ▸ hbe.2⟩
      by_contra hf
      rw [Bool.not_eq_false] at hf
      rw [hst.phase_reason.1.isForward hf] at hbe
      cases hbe.1
    obtain ⟨b, hb, hs, hbe⟩ | ⟨data, hp, rfl, rfl, hs, correcting⟩ := hst.attempted hk ha
    · exact ih hb (hs.trans hki) hbe
    · obtain ⟨_, -, hm⟩ := mayStart_of_check h ⟨event, he, hp⟩ ht
      exact ⟨SagaPhase.isForward_of_isCorrecting correcting, (hm.compensation (hs.trans hki)).1⟩

/-- The actions that a correction visits. -/
def visitedActions (saga : CompiledSaga) (state : SagaProjection) : List String :=
  (if state.reason = some .success then [] else state.registeredCompensations.map (·.2)) ++
    saga.cleanup.map (·.actionId)

/-- **Every action that waits for an operator is visited.** -/
theorem waiting_visited (h : checkEventHistoryAgainstDefinition fuel clock w hash es = .ok s)
    (hc : w.saga si = some compiled) (hk : (s.projection.sagaOf si).actions.get? k = some a)
    (hs : a.status = .manualRecovery) : k ∈ visitedActions compiled (s.projection.sagaOf si) := by
  have hw : fromEvents (es.take es.length) = .ok s := by
    rw [List.take_length]
    exact fromEvents_of_check h
  have htr := sagaTrace_of_check h (Nat.le_refl _) hw si
  have ha : a.attempts ≠ 0 := fun hz => by
    rw [htr.actions.fresh k a hk hz] at hs
    cases hs
  rw [visitedActions, List.mem_append]
  cases hki : a.actionKind with
  | compensation =>
    have hr := (reason_of_compensation h (Nat.le_refl _) hw hk hki ha).2
    obtain ⟨_, -, _, sq, -, hse⟩ := htr.registrations.proven k a hk hki
    rw [if_neg hr]
    exact .inl (mem_registeredCompensations hk (htr.actions.keyed k a hk) hki hse)
  | cleanup =>
    obtain ⟨i, attempt, hst⟩ := startsAt_of_attempts (Nat.le_refl _) hw hk ha
    obtain ⟨t, ht⟩ := fromEvents_take (fromEvents_of_check h) i
    obtain ⟨saga, hsa, hm⟩ := mayStart_of_check h hst ht
    cases hc.symm.trans hsa
    obtain ⟨e, he, -⟩ := hm.cleanupOrder hki
    exact .inr (mem_of_cleanupBefore he)

end

/-! ## The run loop -/

section
variable {env : Surroundings} {run run' : LiveRun fuel clock w hash}

/-- A correction under way, taken up for the reason on record, ends with every waiting action
cleared, or leaves the saga incomplete with the phase still true. -/
theorem executeSagaCorrection_clears {state : SagaProjection} {r : SagaCorrectionReason}
    {completed : Bool} (hc : w.saga compiled.sagaId = some compiled)
    (hst : run.saga compiled.sagaId = some state) (hcr : state.phase.isCorrecting = true)
    (hr : state.reason = some r)
    (h : executeSagaCorrection env compiled r run = .ok (completed, run')) :
    (∀ k, (run'.sagaOf compiled.sagaId).Cleared env compiled.sagaId k) ∨
      (completed = false ∧ (run'.sagaOf compiled.sagaId).phase.isCorrecting = true ∧
        (state.HoldsRecovery → (run'.sagaOf compiled.sagaId).HoldsRecovery)) := by
  have hs : run.sagaOf compiled.sagaId = state := sagaOf_of_get? hst
  simp only [executeSagaCorrection, hst, orFail, ok_bind, hcr, if_true, bind_eq_ok] at h
  obtain ⟨c, hco, c', hcl, h⟩ := h
  have hv : Visited env compiled.sagaId (visitedActions compiled state) { run } c' := by
    refine Visited.trans ?_ (.of_cleanUp hcl)
    rw [hr]
    split at hco
    · rename_i hn
      rw [if_neg (by simpa using hn)]
      have := Visited.of_compensate hco
      rwa [hs] at this
    · rename_i heq
      rw [if_pos (by simpa using heq)]
      cases hco
      exact .refl _
  have hp := hv.correcting (by rw [hs]; exact hcr)
  split at h
  · cases h
    exact .inr ⟨rfl, hp, fun hh => hv.holds (hs.symm ▸ hh)⟩
  · rename_i hclr
    simp only [bind_eq_ok] at h
    obtain ⟨done, hd, h⟩ := h
    cases h
    obtain ⟨-, hcle⟩ := hv.cleared (by simpa using hclr)
    -- the completion changes no action
    have hac : (run'.sagaOf compiled.sagaId).actions = (c'.run.sagaOf compiled.sagaId).actions := by
      obtain ⟨e, he, hap⟩ := apply_of_append hd
      have hsp := apply_recoveryStep hap compiled.sagaId
      rw [he] at hsp
      cases hsp with
      | kept _ saga'_eq => exact congrArg _ saga'_eq
      | forward _ before =>
        cases (SagaPhase.isForward_of_isCorrecting hp).symm.trans before
      | moved _ _ tr => cases tr
      | retried _ _ _ payload_eq => cases payload_eq
      | required _ _ payload_eq => cases payload_eq
      | completed _ _ actions => exact actions
    refine .inl fun k a ha hsta => ?_
    rw [hac] at ha
    by_cases hk : k ∈ visitedActions compiled state
    · exact hcle k hk a ha hsta
    · rw [hv.others k hk] at ha
      exact absurd (hs ▸ waiting_visited run.accepted hc ha hsta) hk

/-- The saga that is taken up is the one of its name in the definition, and it is under way. -/
theorem activeCorrection_spec {reason : Option SagaCorrectionReason}
    (h : run.activeCorrection = some (compiled, reason)) :
    w.saga compiled.sagaId = some compiled ∧ ∃ state, run.saga compiled.sagaId = some state ∧
      state.phase.isCorrecting = true ∧ state.reason = reason := by
  obtain ⟨before, saga, after, hsa, hs, hn⟩ := List.findSome?_eq_some_iff.1 h
  simp only [Option.bind_eq_some_iff, Option.ite_none_right_eq_some] at hs
  obtain ⟨state, hst, hp, rfl, rfl⟩ := hs
  refine ⟨?_, state, hst, hp, rfl⟩
  unfold CompiledWorkflowDefinition.saga
  rw [hsa, List.find?_append, List.find?_eq_none.2]
  · simp
  · intro other ho
    have := hn other ho
    intro hi
    rw [decide_eq_true_eq] at hi
    simp [hi, hst, hp] at this

/-- **When the run loop goes on, no action of the saga waits unresolved**, if the phase spoke for
all of them. -/
theorem driveCorrection_clears {r : Option SagaCorrectionReason}
    (hac : run.activeCorrection = some (compiled, r))
    (hh : (run.sagaOf compiled.sagaId).HoldsRecovery) (h : run.driveCorrection env = .ok run')
    (k : String) : (run'.sagaOf compiled.sagaId).Cleared env compiled.sagaId k := by
  obtain ⟨hc, state, hst, hco, hr⟩ := activeCorrection_spec hac
  simp only [driveCorrection, hac, eq_ok_iff] at h
  obtain ⟨r', hr', ⟨completed, f⟩, he, _, hg, h⟩ := h
  cases h
  rcases executeSagaCorrection_clears hc hst hco (hr.trans hr') he with hcl | ⟨rfl, hp, hk⟩
  · exact hcl k
  -- the phase is not manual recovery, so by its truth nothing waits
  intro a ha hs
  have hm : (f.sagaOf compiled.sagaId).phase = .manualRecovery := by
    refine hk (sagaOf_of_get? hst ▸ hh) (fun heq => ?_) k a ha hs
    rw [heq] at hp
    cases hp
  have hge : f.saga compiled.sagaId = some (f.sagaOf compiled.sagaId) := by
    unfold LiveRun.saga LiveRun.sagaOf RunProjection.sagaOf at *
    cases hge : f.state.projection.sagas.get? compiled.sagaId with
    | none => rw [hge] at ha; cases ha
    | some saga => rfl
  exact absurd ⟨rfl, by rw [hge]; simpa using hm⟩ hg

end

/-! ## Retries -/

section
variable {events : List RunEvent} {s : ProjectionFoldState}

/-- The retry of an action that waits is accepted behind the history, until its saga has
completed its correction. -/
def RetriesAccepted (fuel : Nat) (clock : Nat → DateTime) (w : DefinitionRef) (hash : String)
    (events : List RunEvent) (s : ProjectionFoldState) : Prop :=
  ∀ sagaId saga k action e retryAt, s.projection.sagas.get? sagaId = some saga →
    saga.phase ≠ .correctionCompleted → saga.actions.get? k = some action →
    action.status = .manualRecovery → s.gate e = .ok () → e.iteration = none →
    e.payload = .correctionRetryScheduled
      { sagaId, actionId := k, actionKind := action.actionKind, attempt := action.attempts
        retryAt } →
    ∃ s', checkEventHistoryAgainstDefinition fuel clock w hash (events ++ [e]) = .ok s'

/-- A run that the loop drives on from the correction of a saga has no unresolved action there. -/
def NeverDecidesOpen (run : LiveRun fuel clock w hash) : Prop :=
  ∀ env run' compiled reason, run.activeCorrection = some (compiled, reason) →
    run.driveCorrection env = .ok run' →
    ∀ k, (run'.sagaOf compiled.sagaId).Cleared env compiled.sagaId k

end

end

/-! ## Two cleanups that wait

Both cleanups of the saga were cut off; the operator retries the first. -/

namespace CheckoutSaga

open SerialRun (definitionHash)

/-- The retry that an operator asks for. -/
def retry (attempt : CorrectionAttemptIdentityData) : RunEventPayload :=
  .correctionRetryScheduled { attempt with retryAt := 0 }

def retried : List RunEventPayload := cutOff close ++ cutOff notify ++ [retry close]

abbrev Live : Type := @LiveRun host 4 (fun _ => 0) definition definitionHash

def live (cleanups : List RunEventPayload) : Option Live :=
  match h : check cleanups with
  | .ok s => some (@LiveRun.mk host 4 (fun _ => 0) definition definitionHash (history cleanups) s h)
  | .error _ => none

/-- Every script succeeds and no operator resolves anything. -/
def surroundings : Surroundings where
  eventId n := s!"d{n}"
  now _ := 0
  clockNow _ := 0
  resolved _ _ := false
  placed _ := .ok ()
  prepared _ := .ok ()
  connects _ := true
  reply _ _ _ := .ok .success
  indexed _ := true

def stateOf (run : Live) : ProjectionFoldState := @LiveRun.state host _ _ _ _ run

def eventsOf (run : Live) : List RunEvent := @LiveRun.events host _ _ _ _ run

theorem events_of_live {cleanups : List RunEventPayload} {run : Live}
    (h : live cleanups = some run) : eventsOf run = history cleanups := by
  unfold live at h
  split at h
  · cases h
    rfl
  · cases h

end CheckoutSaga

end Woml
