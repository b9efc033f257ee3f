import Woml.Projection.Proof.Run

/-!
# What an event does to a saga

`apply_steps` inverts one fold step from the view of the sagas. `SagaStep` is about the actions of
one saga: the event registers a compensation, starts a corrective attempt, moves an action on, or
leaves the actions alone; a saga leaves its forward phase for good. `RecoveryStep` is about its phase
and the actions that wait for an operator.
-/

namespace Woml

open Checked CorrectionActionProjection SortedMap

/-- The saga of a run, and before it opens the empty forward saga. -/
def RunProjection.sagaOf (p : RunProjection) (sagaId : String) : SagaProjection :=
  (p.sagas.get? sagaId).getD
    { sagaId
      phase := .forward
      reason := none
      startedSequence := 0
      forwardSucceededSequence := none
      correctionCompletedSequence := none
      actions := .empty }

/-- Before any correction. -/
def SagaPhase.isForward : SagaPhase → Bool
  | forward | forwardSucceeded => true
  | _ => false

/-- The phase does not go back. -/
structure SagaPhase.Onward (phase phase' : SagaPhase) : Prop where
  forward : phase' = .forward → phase = .forward
  isForward : phase'.isForward = true → phase.isForward = true

theorem SagaPhase.Onward.refl (phase : SagaPhase) : phase.Onward phase := ⟨id, id⟩

theorem SagaPhase.Onward.of_correcting {p phase' : SagaPhase} (h : phase'.isForward = false) :
    p.Onward phase' :=
  ⟨fun he => (by rw [he] at h; cases h), fun hf => (by rw [hf] at h; cases h)⟩

/-- The event neither registers nor starts an action of the saga. -/
def QuietFor (sagaId : String) : RunEventPayload → Prop
  | .compensationRegistered data => data.sagaId ≠ sagaId
  | .correctionAttemptStarted data => data.sagaId ≠ sagaId
  | _ => True

def CorrectionActionProjection.startedAs (action : CorrectionActionProjection)
    (data : CorrectionAttemptIdentityData) : CorrectionActionProjection :=
  { action with
    attempts := data.attempt
    activeAttempt := some data.attempt
    retryAt := none
    status := .started }

/-- What an event does to the saga `sagaId`. -/
inductive SagaStep (previous : Option RunEvent) (payload : RunEventPayload) (sagaId : String)
    (saga saga' : SagaProjection) : Prop
  | kept (quiet : QuietFor sagaId payload) (actions : saga'.actions = saga.actions)
      (phase : saga.phase.Onward saga'.phase)
      (reason : saga'.reason = saga.reason ∨
        saga.phase.isForward = true ∧ saga'.phase.isForward = false)
  | registered (data : CompensationRegisteredData)
      (payload_eq : payload = .compensationRegistered data) (target : data.sagaId = sagaId)
      (forward : saga.phase = .forward) (fresh : saga.actions.get? data.actionId = none)
      (proven : previous.any (isForwardSuccessOf · data) = true)
      (saga'_eq : saga' =
        { saga with actions := saga.actions.insert data.actionId (registeredCompensation data) })
  | started (data : CorrectionAttemptIdentityData) (action : CorrectionActionProjection)
      (payload_eq : payload = .correctionAttemptStarted data) (target : data.sagaId = sagaId)
      (correcting : saga.phase.isCorrecting = true)
      (idle : ∀ a ∈ saga.actions.values, a.status ≠ .started)
      (action_eq : action = (saga.actions.get? data.actionId).getD (unregisteredAction data))
      (kind : action.actionKind = data.actionKind) (attempt : data.attempt = action.attempts + 1)
      (pending : action.status = .registered ∨ action.status = .retryScheduled)
      (saga'_eq : saga' =
        { saga with actions := saga.actions.insert data.actionId (action.startedAs data) })
  | moved (actionId : String) (action action' : CorrectionActionProjection)
      (quiet : QuietFor sagaId payload) (found : saga.actions.get? actionId = some action)
      (actions : saga'.actions = saga.actions.insert actionId action')
      (kept : action'.actionId = action.actionId ∧ action'.actionKind = action.actionKind ∧
        action'.completionSequence = action.completionSequence ∧
        action'.attempts = action.attempts)
      (before : action.status ≠ .registered) (after : action'.status ≠ .started)
      (retry : action'.status = .registered ∨ action'.status = .retryScheduled →
        ∃ data : CorrectionRetryScheduledData, payload = .correctionRetryScheduled data ∧
          data.sagaId = sagaId ∧ data.actionId = actionId ∧ action'.status = .retryScheduled)
      (phase : saga.phase.Onward saga'.phase) (reason : saga'.reason = saga.reason)

theorem sagaOf_of_get? {p : RunProjection} {si : String} {saga : SagaProjection}
    (h : p.sagas.get? si = some saga) : p.sagaOf si = saga := by
  rw [RunProjection.sagaOf, h, Option.getD_some]

/-- The saga and the action that an event of a correction names. -/
def RunEventPayload.correctionTarget : RunEventPayload → Option (String × String)
  | .correctionAttemptStarted data | .correctionAttemptSucceeded data =>
    some (data.sagaId, data.actionId)
  | .correctionAttemptFailed data => some (data.sagaId, data.actionId)
  | .correctionRetryScheduled data => some (data.sagaId, data.actionId)
  | .correctionInterrupted data => some (data.sagaId, data.actionId)
  | .manualRecoveryRequired data => some (data.sagaId, data.actionId)
  | _ => none

/-- What an event does to the recovery of the saga `sagaId`. -/
inductive RecoveryStep (payload : RunEventPayload) (sagaId : String)
    (saga saga' : SagaProjection) : Prop
  | kept (quiet : ∀ k, payload.correctionTarget ≠ some (sagaId, k)) (saga'_eq : saga' = saga)
  | forward (quiet : payload.correctionTarget = none) (before : saga.phase.isForward = true)
      (after : saga'.phase.isForward = true ∨ saga'.phase = .correcting)
      (actions : ∀ k a, saga'.actions.get? k = some a →
        saga.actions.get? k = some a ∨ a.status = .registered)
  | moved (k : String) (action : CorrectionActionProjection)
      (target : payload.correctionTarget = some (sagaId, k))
      (saga'_eq : saga' = { saga with actions := saga.actions.insert k action })
      (status : action.status ≠ .manualRecovery)
      (asked : ∀ data, payload = .correctionRetryScheduled data →
        ∃ a, saga.actions.get? k = some a ∧ a.status ≠ .manualRecovery)
  | retried (data : CorrectionRetryScheduledData) (action action' : CorrectionActionProjection)
      (payload_eq : payload = .correctionRetryScheduled data) (target : data.sagaId = sagaId)
      (found : saga.actions.get? data.actionId = some action)
      (waiting : action.status = .manualRecovery)
      (saga'_eq : saga' =
        { saga with
          phase := .correcting
          actions := saga.actions.insert data.actionId action' })
      (status : action'.status ≠ .manualRecovery)
  | required (data : ManualRecoveryRequiredData) (action : CorrectionActionProjection)
      (payload_eq : payload = .manualRecoveryRequired data) (target : data.sagaId = sagaId)
      (saga'_eq : saga' =
        { saga with
          phase := .manualRecovery
          actions := saga.actions.insert data.actionId action })
      (ambiguous : action.ambiguous = true)
  | completed (data : SagaIdentityData) (payload_eq : payload = .sagaCorrectionCompleted data)
      (actions : saga'.actions = saga.actions) (phase : saga'.phase = .correctionCompleted)

/-! ## The handlers -/

/-- What every handler of a saga event ensures. -/
structure StepsSagas (previous : Option RunEvent) (payload : RunEventPayload)
    (p q : RunProjection) : Prop where
  step : ∀ sagaId, SagaStep previous payload sagaId (p.sagaOf sagaId) (q.sagaOf sagaId)
  recovery : ∀ sagaId, RecoveryStep payload sagaId (p.sagaOf sagaId) (q.sagaOf sagaId)
  /-- A saga comes into being by its start. -/
  known : ∀ k saga', q.sagas.get? k = some saga' →
    (∃ saga, p.sagas.get? k = some saga) ∨ payload = .sagaStarted ⟨k⟩

section
variable {p : RunProjection} {ps : Option RunEvent} {e : RunEvent}
  {py : RunEventPayload}

variable {q : RunProjection}

theorem StepsSagas.same (hq : q.sagas = p.sagas) (hqt : ∀ sagaId, QuietFor sagaId py)
    (ht : py.correctionTarget = none) : StepsSagas ps py p q := by
  have hs : ∀ sagaId, q.sagaOf sagaId = p.sagaOf sagaId := fun sagaId => by
    simp [RunProjection.sagaOf, hq]
  refine ⟨fun sagaId => ?_, fun sagaId => .kept (fun k => ?_) (hs sagaId), fun k saga hk =>
    .inl ⟨saga, hq ▸ hk⟩⟩
  · rw [hs]
    exact .kept (hqt sagaId) rfl (.refl _) (.inl rfl)
  · rw [ht]
    exact nofun

/-- A change of one saga of the map is a step of every saga. -/
theorem StepsSagas.insert {key : String} {saga' : SagaProjection}
    (hq : q.sagas = p.sagas.insert key saga')
    (hst : SagaStep ps py key (p.sagaOf key) saga')
    (hr : RecoveryStep py key (p.sagaOf key) saga')
    (hkn : (∃ saga, p.sagas.get? key = some saga) ∨ py = .sagaStarted ⟨key⟩)
    (hqt : ∀ sagaId, sagaId ≠ key →
      QuietFor sagaId py ∧ ∀ k, py.correctionTarget ≠ some (sagaId, k)) :
    StepsSagas ps py p q := by
  have hs : q.sagaOf key = saga' := by
    rw [RunProjection.sagaOf, hq, get?_insert_self, Option.getD_some]
  have ho : ∀ sagaId, sagaId ≠ key → q.sagaOf sagaId = p.sagaOf sagaId := by
    intro sagaId hi
    rw [RunProjection.sagaOf, hq, get?_insert_ne _ hi]
    rfl
  refine ⟨fun sagaId => ?_, fun sagaId => ?_, fun k other hk => ?_⟩
  · by_cases hi : sagaId = key
    · rwa [hi, hs]
    · rw [ho sagaId hi]
      exact .kept (hqt sagaId hi).1 rfl (.refl _) (.inl rfl)
  · by_cases hi : sagaId = key
    · rwa [hi, hs]
    · exact .kept (hqt sagaId hi).2 (ho sagaId hi)
  · rw [hq] at hk
    rcases of_get?_insert hk with ⟨rfl, -⟩ | ⟨-, hk⟩
    · exact hkn
    · exact .inl ⟨other, hk⟩

/-- The change of a saga that is open. -/
theorem StepsSagas.update {key : String} {saga s' : SagaProjection}
    (hs : p.sagas.get? key = some saga) (hq : q.sagas = p.sagas.insert key s')
    (hst : SagaStep ps py key saga s')
    (hr : RecoveryStep py key saga s') (hqt : ∀ sagaId, sagaId ≠ key →
      QuietFor sagaId py ∧ ∀ k, py.correctionTarget ≠ some (sagaId, k)) :
    StepsSagas ps py p q := by
  rw [← sagaOf_of_get? hs] at hst hr
  exact .insert hq hst hr (.inl ⟨saga, hs⟩) hqt

theorem target_ne {si key k ai : String} (h : si ≠ key) : some (key, ai) ≠ some (si, k) := by
  intro he
  cases he
  exact h rfl

theorem applySagaStarted_steps (data : SagaIdentityData) :
    Ensures (StepsSagas ps (.sagaStarted data) p) (applySagaStarted p e data) := by
  intro q hq
  simp only [applySagaStarted, eq_ok_iff] at hq
  obtain ⟨_, -, _, hf, rfl⟩ := hq
  have hn : p.sagas.get? data.sagaId = none := by simpa [SortedMap.contains] using hf
  refine .insert rfl ?_ ?_ (.inr rfl) fun _ _ => ⟨trivial, by rintro _ ⟨⟩⟩
  · refine .kept trivial ?_ ⟨fun _ => ?_, fun _ => ?_⟩ (.inl ?_)
    all_goals rw [RunProjection.sagaOf, hn]; rfl
  · refine .forward rfl ?_ (.inl rfl) fun k a hk => ?_
    · rw [RunProjection.sagaOf, hn]
      rfl
    · simp at hk

theorem applyCompensationRegistered_steps (data : CompensationRegisteredData) :
    Ensures (StepsSagas ps (.compensationRegistered data) p)
      (applyCompensationRegistered p e data ps) := by
  intro q hq
  simp only [applyCompensationRegistered, eq_ok_iff, not_or, not_not] at hq
  obtain ⟨_, -, saga, hs, _, ⟨hph, hf, -, hp⟩, rfl⟩ := hq
  refine .update hs rfl ?_ ?_ fun _ hn => ⟨Ne.symm hn, by rintro _ ⟨⟩⟩
  · exact .registered data rfl rfl hph (by simpa [SortedMap.contains] using hf)
      (by simpa using hp) rfl
  · refine .forward rfl (by rw [hph]; rfl) (.inl (by rw [hph]; rfl)) fun k a hk => ?_
    rcases SortedMap.of_get?_insert hk with ⟨-, rfl⟩ | ⟨-, hk⟩
    · exact .inr rfl
    · exact .inl hk

theorem applyCorrectionRetryScheduled_steps (data : CorrectionRetryScheduledData) :
    Ensures (StepsSagas ps (.correctionRetryScheduled data) p)
      (applyCorrectionRetryScheduled p data) := by
  intro q hq
  simp only [applyCorrectionRetryScheduled, eq_ok_iff, not_or] at hq
  obtain ⟨saga, hsa, action, ha, _, ⟨-, -, hr⟩, rfl⟩ := hq
  refine .update hsa rfl ?_ ?_ fun _ hn => ⟨trivial, fun _ => target_ne hn⟩
  · refine .moved data.actionId action _ trivial ha rfl ?_ ?_ (by rintro ⟨⟩)
      (fun _ => ⟨data, rfl, rfl, rfl, rfl⟩) ?_ rfl
    · split <;> exact ⟨rfl, rfl, rfl, rfl⟩
    · intro hs
      refine hr ⟨fun h => ?_, fun h => ?_⟩ <;> (rw [hs] at h; cases h.2.1)
    · split
      · exact .of_correcting rfl
      · exact .refl _
  · by_cases ho :
        saga.phase = .manualRecovery ∧ action.status = .manualRecovery ∧ action.ambiguous = true
    · simp only [ho]
      exact .retried data action _ rfl rfl ha ho.2.1 rfl (by rintro ⟨⟩)
    · simp only [ho]
      refine .moved data.actionId _ rfl rfl (by rintro ⟨⟩) fun _ _ => ⟨action, ha, fun hs => ?_⟩
      refine hr ⟨fun h => ?_, ho⟩
      rw [hs] at h
      cases h.2.1

end

namespace ProjectionFoldState

variable [Host] {s s' : ProjectionFoldState} {e : RunEvent}

omit [Host] in
/-- Work inside an iteration registers and corrects nothing. -/
theorem quiet_of_iteration {p q : RunProjection} {ps : Option RunEvent}
    (hs : isIterationScoped e = true) (h : applyIterationScopedEvent p e ps = .ok q) :
    (∀ sagaId, QuietFor sagaId e.payload) ∧ e.payload.correctionTarget = none := by
  simp only [applyIterationScopedEvent, bind_eq_ok] at h
  obtain ⟨_, -, _, -, _, -, _, -, _, -, _, hw, -⟩ := h
  cases hp : e.payload with
  | compensationRegistered data => simp [isIterationScoped, hp, isTopLevelScopedEvent] at hs
  | _ => first
    | exact ⟨fun _ => trivial, rfl⟩
    | simp [ForEachIterationExecutionProjection.apply, hp] at hw

/-- **One event, the sagas of a run.** -/
theorem apply_steps (h : s.apply e = .ok s') :
    StepsSagas s.previousEvent e.payload s.projection s'.projection := by
  by_cases hsl : Slice.sagas ∈ touched e
  · obtain ⟨-, hsl, p, hp, rfl⟩ := handler_of_touched h hsl (by decide)
    suffices hss : StepsSagas s.previousEvent e.payload s.projection p from ⟨hss.1, hss.2, hss.3⟩
    unfold applyPayload at hp
    generalize e.payload = payload at hp hsl ⊢
    cases payload with
    | sagaStarted data => exact applySagaStarted_steps data p hp
    | compensationRegistered data => exact applyCompensationRegistered_steps data p hp
    | correctionRetryScheduled data => exact applyCorrectionRetryScheduled_steps data p hp
    | sagaForwardSucceeded data =>
      simp only [applySagaForwardSucceeded, eq_ok_iff, not_not] at hp
      obtain ⟨_, -, saga, hs, _, hph, rfl⟩ := hp
      have hf : saga.phase.isForward = true := by rw [hph]; rfl
      exact .update hs rfl (.kept trivial rfl ⟨by rintro ⟨⟩, fun _ => hf⟩ (.inl rfl))
        (.forward rfl hf (.inl rfl) fun k a hk => .inl hk) fun _ _ => ⟨trivial, by rintro _ ⟨⟩⟩
    | sagaCorrectionStarted data =>
      simp only [applySagaCorrectionStarted, eq_ok_iff, not_not] at hp
      obtain ⟨_, -, saga, hs, _, hph, rfl⟩ := hp
      have hf : saga.phase.isForward = true := by
        rw [hph]
        cases data.reason <;> rfl
      exact .update hs rfl (.kept trivial rfl (.of_correcting rfl) (.inr ⟨hf, rfl⟩))
        (.forward rfl hf (.inr rfl) fun k a hk => .inl hk) fun _ _ => ⟨trivial, by rintro _ ⟨⟩⟩
    | correctionAttemptStarted data =>
      simp only [applyCorrectionAttemptStarted, eq_ok_iff, not_or, not_not] at hp
      obtain ⟨_, -, saga, hs, _, ⟨hph, hi⟩, _, ⟨hki, hat, hpe, -⟩, rfl⟩ := hp
      refine .update hs rfl ?_ (.moved data.actionId _ rfl rfl (by rintro ⟨⟩) (by rintro _ ⟨⟩))
        fun _ hn => ⟨Ne.symm hn, fun _ => target_ne hn⟩
      exact .started data _ rfl rfl (by simpa using hph) (by simpa using hi) rfl hki hat hpe rfl
    | correctionAttemptSucceeded data | correctionAttemptFailed data | correctionInterrupted data =>
      simp only [applyCorrectionAttemptSucceeded, applyCorrectionAttemptFailed,
        applyCorrectionInterrupted, eq_ok_iff] at hp
      obtain ⟨_, -, saga, hs, action, hac, _, ha, rfl⟩ := hp
      refine .update hs rfl ?_ (.moved data.actionId _ rfl rfl (by rintro ⟨⟩) (by rintro _ ⟨⟩))
        fun _ hn => ⟨trivial, fun _ => target_ne hn⟩
      refine .moved data.actionId action _ trivial hac rfl ⟨rfl, rfl, rfl, rfl⟩
        (fun hst => ?_) (by rintro ⟨⟩) ?_ (.refl _) rfl
      · simp [CorrectionActionProjection.isActiveAs, hst] at ha
      · rintro (h | h) <;> cases h
    | manualRecoveryRequired data =>
      simp only [applyManualRecoveryRequired, eq_ok_iff, not_or] at hp
      obtain ⟨saga, hs, action, hac, _, ⟨-, he, ham⟩, rfl⟩ := hp
      refine .update hs rfl ?_ (.required data _ rfl rfl rfl (by simpa using ham))
        fun _ hn => ⟨trivial, fun _ => target_ne hn⟩
      refine .moved data.actionId action _ trivial hac rfl ⟨rfl, rfl, rfl, rfl⟩ ?_ (by rintro ⟨⟩) ?_
        (.of_correcting rfl) rfl
      · intro hst
        simp [hst] at he
      · rintro (h | h) <;> cases h
    | sagaCorrectionCompleted data =>
      simp only [applySagaCorrectionCompleted, eq_ok_iff] at hp
      obtain ⟨saga, hs, _, -, rfl⟩ := hp
      exact .update hs rfl (.kept trivial rfl (.of_correcting rfl) (.inl rfl))
        (.completed data rfl rfl rfl) fun _ _ => ⟨trivial, by rintro _ ⟨⟩⟩
    | _ => simp [footprint] at hsl
  · have hsa : s'.projection.sagas = s.projection.sagas := apply_keeps h .sagas hsl
    cases hsc : isIterationScoped e with
    | true =>
      obtain ⟨-, p, hp, -⟩ := apply_eq_ok.1 h
      rw [handle, if_pos hsc] at hp
      obtain ⟨hq, ht⟩ := quiet_of_iteration hsc hp
      exact .same hsa hq ht
    | false =>
      rw [touched, hsc] at hsl
      cases hpa : e.payload <;> first
        | exact .same hsa (fun _ => trivial) rfl
        | simp [hpa, footprint] at hsl

theorem apply_sagaStep (h : s.apply e = .ok s') (si : String) :
    SagaStep s.previousEvent e.payload si (s.projection.sagaOf si) (s'.projection.sagaOf si) :=
  (apply_steps h).step si

theorem apply_recoveryStep (h : s.apply e = .ok s') (si : String) :
    RecoveryStep e.payload si (s.projection.sagaOf si) (s'.projection.sagaOf si) :=
  (apply_steps h).recovery si

end ProjectionFoldState

/-! ## The actions of a saga -/

/-- The actions of a saga on their own. -/
structure ActionsOk (actions : SortedMap String CorrectionActionProjection) : Prop where
  keyed : ∀ k a, actions.get? k = some a → a.actionId = k
  fresh : ∀ k a, actions.get? k = some a → a.attempts = 0 → a.status = .registered
  exclusive : ∀ k k' a a', actions.get? k = some a → actions.get? k' = some a' →
    a.status = .started → a'.status = .started → k = k'

/-- What an action keeps while it is corrected. -/
structure SameAction (a a' : CorrectionActionProjection) : Prop where
  kind : a'.actionKind = a.actionKind
  completionSequence : a'.completionSequence = a.completionSequence
  attempts : a.attempts ≤ a'.attempts

theorem SameAction.refl (a : CorrectionActionProjection) : SameAction a a :=
  ⟨rfl, rfl, Nat.le_refl _⟩

section
variable {previous : Option RunEvent} {payload : RunEventPayload} {sagaId : String}
  {saga saga' : SagaProjection}

/-- An action takes its place under its own name. Only one of them is in flight. -/
theorem ActionsOk.insert {acs : SortedMap String CorrectionActionProjection}
    (h : ActionsOk acs) {key : String} {act : CorrectionActionProjection}
    (hke : act.actionId = key) (hf : act.attempts = 0 → act.status = .registered)
    (he : act.status = .started → ∀ k a, acs.get? k = some a → a.status ≠ .started) :
    ActionsOk (acs.insert key act) := by
  refine ⟨fun k a hk => ?_, fun k a hk hat => ?_, fun k k' a a' hk hk' ha ha' => ?_⟩
  · rcases of_get?_insert hk with ⟨rfl, rfl⟩ | ⟨-, hk⟩
    · exact hke
    · exact h.keyed k a hk
  · rcases of_get?_insert hk with ⟨rfl, rfl⟩ | ⟨-, hk⟩
    · exact hf hat
    · exact h.fresh k a hk hat
  · rcases of_get?_insert hk with ⟨rfl, rfl⟩ | ⟨-, ho⟩ <;>
      rcases of_get?_insert hk' with ⟨rfl, rfl⟩ | ⟨-, ho'⟩
    · rfl
    · exact absurd ha' (he ha k' a' ho')
    · exact absurd ha (he ha' k a ho)
    · exact h.exclusive k k' a a' ho ho' ha ha'

variable (hstep : SagaStep previous payload sagaId saga saga')
include hstep

theorem ActionsOk.step (h : ActionsOk saga.actions) : ActionsOk saga'.actions := by
  cases hstep with
  | kept _ actions => rwa [actions]
  | registered data _ _ _ _ _ saga'_eq =>
    subst saga'_eq
    exact h.insert rfl (fun _ => rfl) nofun
  | started data action _ _ _ idle action_eq _ attempt _ saga'_eq =>
    subst saga'_eq
    refine h.insert ?_ (fun ha => ?_) fun _ k a hk =>
      idle a ((SortedMap.mem_values _).2 ⟨k, hk⟩)
    · show action.actionId = data.actionId
      rw [action_eq]
      cases hg : saga.actions.get? data.actionId with
      | none => rfl
      | some action => exact h.keyed _ action hg
    · simp only [CorrectionActionProjection.startedAs] at ha
      omega
  | moved actionId action a' _ found actions kept before after =>
    rw [actions]
    refine h.insert (kept.1.trans (h.keyed _ action found)) (fun ha => ?_) fun hs =>
      absurd hs after
    exact absurd (h.fresh _ action found (kept.2.2.2.symm.trans ha)) before

theorem SagaStep.phase_reason : saga.phase.Onward saga'.phase ∧ (saga'.reason = saga.reason ∨
    saga.phase.isForward = true ∧ saga'.phase.isForward = false) := by
  cases hstep with
  | kept _ _ phase r => exact ⟨phase, r⟩
  | registered _ _ _ _ _ _ saga'_eq => subst saga'_eq; exact ⟨.refl _, .inl rfl⟩
  | started _ _ _ _ _ _ _ _ _ _ saga'_eq => subst saga'_eq; exact ⟨.refl _, .inl rfl⟩
  | moved _ _ _ _ _ _ _ _ _ _ phase r => exact ⟨phase, .inl r⟩

theorem SagaStep.reason_eq (hc : saga.phase.isForward = false) : saga'.reason = saga.reason := by
  rcases hstep.phase_reason.2 with r | ⟨hf, -⟩
  · exact r
  · cases hc.symm.trans hf

theorem SagaStep.closed (h : saga.reason.isSome = true → saga.phase.isForward = false)
    (hs : saga'.reason.isSome = true) : saga'.phase.isForward = false := by
  obtain ⟨ho, hr | ⟨-, hf⟩⟩ := hstep.phase_reason
  · rw [hr] at hs
    by_contra hn
    rw [Bool.not_eq_false] at hn
    cases (h hs).symm.trans (ho.isForward hn)
  · exact hf

/-- Actions stay, with their kind and completion. -/
theorem SagaStep.persists {k : String} {a : CorrectionActionProjection}
    (hk : saga.actions.get? k = some a) :
    ∃ a', saga'.actions.get? k = some a' ∧ SameAction a a' := by
  cases hstep with
  | kept _ actions => exact ⟨a, by rw [actions]; exact hk, .refl a⟩
  | registered data _ _ _ fresh _ saga'_eq =>
    subst saga'_eq
    refine ⟨a, ?_, .refl a⟩
    rw [get?_insert_ne _ (fun he => ?_)]
    · exact hk
    · rw [he, fresh] at hk
      cases hk
  | started data action _ _ _ _ action_eq _ attempt _ saga'_eq =>
    subst saga'_eq
    by_cases he : k = data.actionId
    · subst he
      rw [hk] at action_eq
      subst action_eq
      exact ⟨_, get?_insert_self _ _ _, rfl, rfl, by
        simp only [startedAs]; omega⟩
    · exact ⟨a, (get?_insert_ne _ he _).trans hk, .refl a⟩
  | moved actionId action act' _ found actions kept =>
    rw [actions]
    by_cases he : k = actionId
    · subst he
      cases hk.symm.trans found
      exact ⟨act', get?_insert_self _ _ _, kept.2.1, kept.2.2.1,
        Nat.le_of_eq kept.2.2.2.symm⟩
    · exact ⟨a, (get?_insert_ne _ he _).trans hk, .refl a⟩

/-- A corrective attempt of the saga starts. -/
theorem SagaStep.of_started {data : CorrectionAttemptIdentityData}
    (hp : payload = .correctionAttemptStarted data) (ht : data.sagaId = sagaId) :
    ∃ action, saga.phase.isCorrecting = true ∧
      action = (saga.actions.get? data.actionId).getD (unregisteredAction data) ∧
      action.actionKind = data.actionKind ∧ data.attempt = action.attempts + 1 ∧
      saga' =
        { saga with actions := saga.actions.insert data.actionId (action.startedAs data) } := by
  subst hp
  cases hstep with
  | kept quiet => exact absurd ht quiet
  | moved _ _ _ quiet => exact absurd ht quiet
  | registered _ payload_eq => cases payload_eq
  | started _ action payload_eq _ correcting _ action_eq kind attempt _ saga'_eq =>
    cases payload_eq
    exact ⟨action, correcting, action_eq, kind, attempt, saga'_eq⟩

/-- A compensation of the saga is registered. -/
theorem SagaStep.of_registered {data : CompensationRegisteredData}
    (hp : payload = .compensationRegistered data) (ht : data.sagaId = sagaId) :
    saga.phase = .forward ∧ previous.any (isForwardSuccessOf · data) = true ∧
      saga' =
        { saga with actions := saga.actions.insert data.actionId (registeredCompensation data) } := by
  subst hp
  cases hstep with
  | kept quiet => exact absurd ht quiet
  | moved _ _ _ quiet => exact absurd ht quiet
  | started _ _ payload_eq => cases payload_eq
  | registered _ payload_eq _ forward _ pr saga'_eq =>
    cases payload_eq
    exact ⟨forward, pr, saga'_eq⟩

/-- An action with an attempt had one before, or it is started now. -/
theorem SagaStep.attempted {k : String} {a' : CorrectionActionProjection}
    (hk : saga'.actions.get? k = some a') (ha : a'.attempts ≠ 0) :
    (∃ a, saga.actions.get? k = some a ∧ a.actionKind = a'.actionKind ∧ a.attempts ≠ 0) ∨
    ∃ data, payload = .correctionAttemptStarted data ∧ data.sagaId = sagaId ∧
      data.actionId = k ∧ data.actionKind = a'.actionKind ∧ saga.phase.isCorrecting = true := by
  cases hstep with
  | kept _ actions => exact .inl ⟨a', actions ▸ hk, rfl, ha⟩
  | registered data _ _ _ _ _ saga'_eq =>
    rw [saga'_eq] at hk
    rcases of_get?_insert hk with ⟨-, rfl⟩ | ⟨-, hk⟩
    · exact absurd rfl ha
    · exact .inl ⟨a', hk, rfl, ha⟩
  | started data action payload_eq t correcting _ _ kind _ _ saga'_eq =>
    rw [saga'_eq] at hk
    rcases of_get?_insert hk with ⟨rfl, rfl⟩ | ⟨-, hk⟩
    · exact .inr ⟨data, payload_eq, t, rfl, kind.symm, correcting⟩
    · exact .inl ⟨a', hk, rfl, ha⟩
  | moved actionId action act' _ found actions kept =>
    rw [actions] at hk
    rcases of_get?_insert hk with ⟨rfl, rfl⟩ | ⟨-, hk⟩
    · exact .inl ⟨action, found, kept.2.1.symm, kept.2.2.2 ▸ ha⟩
    · exact .inl ⟨a', hk, rfl, ha⟩

/-- Where an action comes from. -/
inductive ActionOrigin (payload : RunEventPayload) (sagaId : String) (saga : SagaProjection)
    (k : String) (a' : CorrectionActionProjection) : Prop
  | old (a : CorrectionActionProjection) (found : saga.actions.get? k = some a)
      (same : SameAction a a')
  | registered (data : CompensationRegisteredData)
      (payload_eq : payload = .compensationRegistered data) (target : data.sagaId = sagaId)
      (key : data.actionId = k) (forward : saga.phase = .forward)
      (action_eq : a' = registeredCompensation data)
  | started (data : CorrectionAttemptIdentityData)
      (payload_eq : payload = .correctionAttemptStarted data) (target : data.sagaId = sagaId)
      (key : data.actionId = k) (unknown : saga.actions.get? k = none)
      (kind : a'.actionKind = data.actionKind) (attempts : 0 < a'.attempts)

theorem SagaStep.origin {k : String} {a' : CorrectionActionProjection}
    (hk : saga'.actions.get? k = some a') : ActionOrigin payload sagaId saga k a' := by
  cases hstep with
  | kept _ actions => exact .old a' (by rw [← actions]; exact hk) (.refl a')
  | registered data payload_eq t forward fresh _ saga'_eq =>
    subst saga'_eq
    rcases of_get?_insert hk with ⟨rfl, rfl⟩ | ⟨-, hk⟩
    · exact .registered data payload_eq t rfl forward rfl
    · exact .old a' hk (.refl a')
  | started data action payload_eq t _ _ action_eq kind attempt _ saga'_eq =>
    subst saga'_eq
    rcases of_get?_insert hk with ⟨rfl, rfl⟩ | ⟨-, hk⟩
    · have ha : action.attempts < (action.startedAs data).attempts := by
        simp only [startedAs]; omega
      cases hg : saga.actions.get? data.actionId with
      | none => exact .started data payload_eq t rfl hg kind (by omega)
      | some a =>
        rw [hg] at action_eq
        subst action_eq
        exact .old action hg ⟨rfl, rfl, Nat.le_of_lt ha⟩
    · exact .old a' hk (.refl a')
  | moved actionId action act' _ found actions kept =>
    rw [actions] at hk
    rcases of_get?_insert hk with ⟨rfl, rfl⟩ | ⟨-, hk⟩
    · exact .old action found ⟨kept.2.1, kept.2.2.1, Nat.le_of_eq kept.2.2.2.symm⟩
    · exact .old a' hk (.refl a')

end

open ProjectionFoldState in
/-- **A saga goes on.** From any point of an accepted history to any later one, no saga goes back to
a phase before its correction, its actions stay, each with its kind and completion, and the reason of
a correction does not change. -/
theorem sagas_go_on [Host] (events more : List RunEvent) (sagaId : String) :
    Ensures (fun s' => ∃ s, fromEvents events = .ok s ∧
        let saga := s.projection.sagaOf sagaId
        let saga' := s'.projection.sagaOf sagaId
        saga.phase.Onward saga'.phase ∧ (saga.phase.isForward = false → saga'.reason = saga.reason) ∧
          ∀ k a, saga.actions.get? k = some a →
            ∃ a', saga'.actions.get? k = some a' ∧ SameAction a a')
      (fromEvents (events ++ more)) := by
  intro s' h'
  induction more using List.reverseRecOn generalizing s' with
  | nil =>
    rw [List.append_nil] at h'
    exact ⟨s', h', .refl _, fun _ => rfl, fun k a hk => ⟨a, hk, .refl a⟩⟩
  | append_singleton more event ih =>
    rw [← List.append_assoc, fromEvents_snoc, bind_eq_ok] at h'
    obtain ⟨t, ht, hap⟩ := h'
    obtain ⟨s, hs, hph, hre, hac⟩ := ih t ht
    have hst := apply_sagaStep hap sagaId
    have ho := hst.phase_reason.1
    refine ⟨s, hs, ⟨hph.1 ∘ ho.1, hph.2 ∘ ho.2⟩, fun hf => ?_, fun k a hk => ?_⟩
    · rw [hst.reason_eq (Bool.eq_false_iff.2 (mt hph.2 (by simp [hf]))), hre hf]
    · obtain ⟨a', ha', hsa⟩ := hac k a hk
      obtain ⟨a'', ha'', hsa'⟩ := hst.persists ha'
      exact ⟨a'', ha'', hsa'.1.trans hsa.1, hsa'.2.trans hsa.2, hsa.3.trans hsa'.3⟩

end Woml
