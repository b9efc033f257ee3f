import Woml.Projection.Proof.Run

/-!
# Queued runs

A run is queued from its admission to the first event that changes its status: no event takes a run
back to the queue (`apply_queued`), so a queued run never started (`startedAt_of_queued`). What the
admission says of the queue and of the place in it stays (`admission_of_fold`).
-/

namespace Woml

open Checked

/-- The time of an execution start. -/
def RunEventPayload.executionStart : RunEventPayload → Option DateTime
  | .runExecutionStarted data => some data.startedAt
  | _ => none

namespace ProjectionFoldState

/-- The handlers that set the status put nothing into the queue but a run that is admitted. -/
theorem applyPayload_queued [Host] {p : RunProjection} (e : RunEvent) (ins : AttemptIndexes)
    (pe : Option RunEvent) (hs : Slice.status ∈ footprint e.payload) :
    Ensures (fun q => q.status = .queued → p.status = .queued ∨
        p.lastSequence = 0 ∧ ∃ data, e.payload = .runAdmitted data)
      (applyPayload p e ins pe) := by
  unfold applyPayload
  revert hs
  cases e.payload
  all_goals
    intro hs
    simp only [applyApprovalResolved]
    repeat' first
      | refine Ensures.bind fun _ h => ?_; try cases h
      | exact Ensures.error
      | split
      | refine Ensures.ok fun hq => ?_
  case runAdmitted h =>
    rw [failIf_eq_ok, not_or, not_not] at h
    exact .inr ⟨h.1, _, rfl⟩
  case runFinalized data _ =>
    cases ho : data.outcome <;> rw [ho] at hq <;> cases hq
  all_goals first
    | exact .inl hq
    | cases hq

section
variable [Host] {s s' : ProjectionFoldState} {ev : RunEvent} {es sf : List RunEvent}
  {data : RunExecutionStartedData}

theorem apply_queued (h : s.apply ev = .ok s') (hq : s'.projection.status = .queued) :
    s.projection.status = .queued ∨
      s.projection.lastSequence = 0 ∧ ∃ data, ev.payload = .runAdmitted data := by
  by_cases hsl : Slice.status ∈ touched ev
  · obtain ⟨-, hsl, p, hp, rfl⟩ := handler_of_touched h hsl nofun
    exact applyPayload_queued ev _ _ hsl p hp hq
  · have hs : s'.projection.status = s.projection.status := apply_keeps h .status hsl
    exact .inl (hs ▸ hq)

/-- The start of a run sets it running; after the first event it is an execution start. -/
theorem apply_startedAt (h : s.apply ev = .ok s') :
    s'.projection.startedAt = s.projection.startedAt ∨ s'.projection.status = .running ∧
      (s.projection.lastSequence = 0 ∨ ev.payload.executionStart ≠ none) := by
  by_cases hs : Slice.timing ∈ touched ev
  · obtain ⟨-, hs, p, hp, rfl⟩ := handler_of_touched h hs (by decide)
    rw [applyPayload] at hp
    cases hpa : ev.payload with
    | runExecutionStarted data =>
      simp only [hpa, applyRunExecutionStarted, eq_ok_iff] at hp
      obtain ⟨_, _, rfl⟩ := hp
      exact .inr ⟨rfl, .inr (by rintro ⟨⟩)⟩
    | runStarted data =>
      simp only [hpa, applyRunStarted, eq_ok_iff, not_or, not_not] at hp
      obtain ⟨_, ⟨hz, -⟩, rfl⟩ := hp
      exact .inr ⟨rfl, .inl hz⟩
    | runTimeoutReached data =>
      simp only [hpa, applyRunTimeoutReached, eq_ok_iff] at hp
      obtain ⟨_, _, rfl⟩ := hp
      exact .inl rfl
    | _ => rw [hpa] at hs; simp [footprint] at hs
  · exact .inl (Prod.mk.inj (apply_keeps h .timing hs)).1

theorem apply_identity (h : s.apply ev = .ok s') (hb : s.projection.lastSequence ≠ 0) :
    Slice.identity.Same s.projection s'.projection := by
  by_cases hs : Slice.identity ∈ touched ev
  · obtain ⟨-, hs, p, hp, rfl⟩ := handler_of_touched h hs nofun
    rw [applyPayload] at hp
    cases hpa : ev.payload with
    | runAdmitted data =>
      simp only [hpa, applyRunAdmitted, eq_ok_iff, not_or, not_not] at hp
      obtain ⟨_, ⟨hz, -⟩, -⟩ := hp
      exact absurd hz hb
    | runStarted data =>
      simp only [hpa, applyRunStarted, eq_ok_iff, not_or, not_not] at hp
      obtain ⟨_, ⟨hz, -⟩, -⟩ := hp
      exact absurd hz hb
    | _ => rw [hpa] at hs; simp [footprint] at hs
  · exact apply_keeps h .identity hs

theorem eq_nil_of_lastSequence (h : fromEvents es = .ok s)
    (hz : s.projection.lastSequence = 0) : es = [] := by
  exact List.length_eq_zero_iff.1 ((bookkeeping h).length.symm.trans hz)

/-- **A queued run never started.** -/
theorem startedAt_of_queued (h : fromEvents es = .ok s)
    (hq : s.projection.status = .queued) : s.projection.startedAt = none := by
  revert hq
  refine fromEvents_induction
    (P := fun _ s => s.projection.status = .queued → s.projection.startedAt = none)
    (fun _ => rfl) ?_ h
  intro es s ev s' hf ih ha hq
  rcases apply_startedAt ha with hs | ⟨hr, -⟩
  · rw [hs]
    rcases apply_queued ha hq with hq | ⟨hz, -⟩
    · exact ih hq
    · obtain rfl := eq_nil_of_lastSequence hf hz
      cases hf
      rfl
  · rw [hq] at hr
    cases hr

theorem queued_of_append (h : fromEvents es = .ok s) (hne : es ≠ [])
    (h' : fromEvents (es ++ sf) = .ok s') (hq : s'.projection.status = .queued) :
    s.projection.status = .queued := by
  induction sf using List.reverseRecOn generalizing s' with
  | nil =>
    rw [List.append_nil, h, Except.ok.injEq] at h'
    exact h' ▸ hq
  | append_singleton sf ev ih =>
    rw [← List.append_assoc, fromEvents_snoc, bind_eq_ok] at h'
    obtain ⟨t, ht, ha⟩ := h'
    rcases apply_queued ha hq with hq | ⟨hz, -⟩
    · exact ih ht hq
    · have hn := eq_nil_of_lastSequence ht hz
      exact absurd (List.append_eq_nil_iff.1 hn).1 hne

/-- Without an execution start, what is appended leaves the time of the start. -/
theorem startedAt_of_append (h : fromEvents es = .ok s) (hn : es ≠ [])
    (h' : fromEvents (es ++ sf) = .ok s') (hst : ∀ ev ∈ sf, ev.payload.executionStart = none) :
    s'.projection.startedAt = s.projection.startedAt := by
  induction sf using List.reverseRecOn generalizing s' with
  | nil =>
    rw [List.append_nil, h, Except.ok.injEq] at h'
    rw [h']
  | append_singleton sf ev ih =>
    rw [← List.append_assoc, fromEvents_snoc, bind_eq_ok] at h'
    obtain ⟨t, ht, ha⟩ := h'
    rcases apply_startedAt ha with hs | ⟨-, hz | hso⟩
    · exact hs.trans (ih ht fun e he => hst e (by simp [he]))
    · exact absurd (List.append_eq_nil_iff.1 (eq_nil_of_lastSequence ht hz)).1 hn
    · exact absurd (hst ev (by simp)) hso

theorem apply_executionStart (h : s.apply ev = .ok s')
    (hpa : ev.payload = .runExecutionStarted data) (ht : ev.iteration = none) :
    s'.projection.status = .running ∧ s'.projection.startedAt = some data.startedAt := by
  obtain ⟨p, hp, rfl⟩ := handler_of_top h (by simp [isIterationScoped, ht])
  simp only [applyPayload, hpa, applyRunExecutionStarted, eq_ok_iff] at hp
  obtain ⟨_, _, rfl⟩ := hp
  exact ⟨rfl, rfl⟩

theorem not_queued_of_start (h : fromEvents (es ++ ev :: sf) = .ok s)
    (hp : ev.payload = .runExecutionStarted data) (hto : ev.iteration = none) :
    s.projection.status ≠ .queued := by
  rw [List.append_cons] at h
  obtain ⟨t, ht, -⟩ := fromEvents_append h
  have hs := ht
  rw [fromEvents_snoc, bind_eq_ok] at hs
  obtain ⟨_, -, ha⟩ := hs
  intro hq
  have hq' := queued_of_append ht (by simp) h hq
  rw [(apply_executionStart ha hp hto).1] at hq'
  cases hq'

/-- The time of a run's start is that of its execution start. -/
theorem startedAt_of_start (h : fromEvents (es ++ ev :: sf) = .ok s)
    (hp : ev.payload = .runExecutionStarted data) (hto : ev.iteration = none)
    (hs : ∀ ev ∈ sf, ev.payload.executionStart = none) :
    s.projection.startedAt = some data.startedAt := by
  rw [List.append_cons] at h
  obtain ⟨t, ht, -⟩ := fromEvents_append h
  rw [startedAt_of_append ht (by simp) h hs]
  rw [fromEvents_snoc, bind_eq_ok] at ht
  obtain ⟨_, -, ha⟩ := ht
  exact (apply_executionStart ha hp hto).2

theorem admitted_of_queued (h : fromEvents es = .ok s) (hq : s.projection.status = .queued)
    : ∃ ev data, es.head? = some ev ∧ ev.payload = .runAdmitted data := by
  revert hq
  refine fromEvents_induction (P := fun es s => s.projection.status = .queued →
    ∃ ev data, es.head? = some ev ∧ ev.payload = .runAdmitted data) nofun ?_ h
  intro es s ev s' hf ih ha hq
  rcases apply_queued ha hq with hq | ⟨hz, data, hd⟩
  · obtain ⟨first, data, hfs, hd⟩ := ih hq
    exact ⟨first, data, by rw [List.head?_append, hfs]; rfl, hd⟩
  · obtain rfl := eq_nil_of_lastSequence hf hz
    exact ⟨ev, data, rfl, hd⟩

/-- The first event of a history is one of the run itself: work inside an iteration asks for a
running run. -/
theorem first_not_scoped (h : ({} : ProjectionFoldState).apply ev = .ok s) :
    isIterationScoped ev = false := by
  obtain ⟨-, p, hp, -⟩ := apply_eq_ok.1 h
  cases hs : isIterationScoped ev with
  | false => rfl
  | true =>
    simp only [handle, hs, if_true, applyIterationScopedEvent, bind_eq_ok] at hp
    obtain ⟨_, hr, -⟩ := hp
    cases hr

theorem first_apply (h : fromEvents es = .ok s) (hf : es.head? = some ev) :
    ∃ t, ({} : ProjectionFoldState).apply ev = .ok t := by
  obtain ⟨rest, rfl⟩ := List.head?_eq_some_iff.1 hf
  obtain ⟨t, ht, -⟩ := fromEvents_append (show fromEvents ([ev] ++ rest) = .ok s from h)
  refine ⟨t, ?_⟩
  rw [← List.nil_append [ev], fromEvents_snoc, fromEvents_nil, ok_bind] at ht
  exact ht

variable {data : RunAdmittedData}

theorem iteration_of_admission (h : fromEvents es = .ok s) (hf : es.head? = some ev)
    (hp : ev.payload = .runAdmitted data) : ev.iteration = none := by
  obtain ⟨t, ht⟩ := first_apply h hf
  have hs := first_not_scoped ht
  simpa [isIterationScoped, hp, isTopLevelScopedEvent] using hs

/-- An admitted run has a place in the queue and has not started. -/
theorem apply_admission (h : ({} : ProjectionFoldState).apply ev = .ok s)
    (hpa : ev.payload = .runAdmitted data) :
    s.projection.startedAt = none ∧ s.projection.queue = some data.queue.name ∧
      s.projection.admittedAt = some data.admittedAt ∧
      s.projection.occurrenceSequence = some data.occurrenceSequence := by
  obtain ⟨p, hp, rfl⟩ := handler_of_top h (first_not_scoped h)
  simp only [applyPayload, hpa] at hp
  obtain ⟨_, _, rfl⟩ := hp
  exact ⟨rfl, rfl, rfl, rfl⟩

theorem startedAt_of_admitted (h : fromEvents ([ev] ++ sf) = .ok s)
    (hp : ev.payload = .runAdmitted data) (hs : ∀ ev ∈ sf, ev.payload.executionStart = none) :
    s.projection.startedAt = none := by
  obtain ⟨t, ht, -⟩ := fromEvents_append h
  rw [startedAt_of_append ht (List.cons_ne_nil _ _) h hs]
  exact (apply_admission (by simpa [fromEvents] using ht) hp).1

/-- **The place in the queue** is the one of the admission. -/
theorem admission_of_fold (h : fromEvents es = .ok s)
    (hfs : es.head? = some ev) (hp : ev.payload = .runAdmitted data) :
    s.projection.queue = some data.queue.name ∧
      s.projection.admittedAt = some data.admittedAt ∧
      s.projection.occurrenceSequence = some data.occurrenceSequence := by
  revert hfs
  refine fromEvents_induction (P := fun es s => es.head? = some ev →
    s.projection.queue = some data.queue.name ∧
      s.projection.admittedAt = some data.admittedAt ∧
      s.projection.occurrenceSequence = some data.occurrenceSequence) nofun ?_ h
  intro es s next s' hf ih ha hfs
  cases es with
  | nil =>
    cases hfs
    cases hf
    exact (apply_admission ha hp).2
  | cons first es =>
    have hb : s.projection.lastSequence ≠ 0 := fun hz =>
      List.cons_ne_nil _ _ (eq_nil_of_lastSequence hf hz)
    have hs := apply_identity ha hb
    simp only [Slice.Same, Prod.mk.injEq] at hs
    obtain ⟨-, -, -, -, -, hq, hse, had, -⟩ := hs
    rw [hq, hse, had]
    exact ih hfs

end

end ProjectionFoldState

end Woml
