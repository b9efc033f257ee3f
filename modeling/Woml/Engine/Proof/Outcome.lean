import Woml.Engine.Proof.Settling

/-!
# What is open when a run is decided successful

From Event v11 on a run succeeds by `run_outcome_decided`. The fold and the definition check ask
there that the opened forks have settled, and nothing else of the work of the run:
`settled_at_success_iff` says which part of a settled run (`NothingOpen`) is left to the caller
(`NothingOpenBesidesForks`), and `SiblingWait.success_beside_open_work` decides a run successful
beside a step in flight.
-/

namespace Woml

open Checked ProjectionFoldState RunEventPayload RunEvent

/-- A lock that its run waits for or holds. -/
def LockStatus.isOpen : LockStatus → Bool
  | waiting | held => true
  | _ => false

/-- No work of the run is open, its forks aside. -/
structure NothingOpenBesidesForks (p : RunProjection) : Prop where
  attempts : ∀ a ∈ p.attempts, a.status.isStarted = false
  retries : p.pendingRetries.isEmpty = true
  operations : ∀ o ∈ p.operations.values, o.isActiveManaged = false
  groups : ∀ g ∈ p.parallelGroups.values, g.status ≠ .started
  loops : ∀ l ∈ p.forEach.values, l.status ≠ .open
  sagas : ∀ saga ∈ p.sagas.values, saga.phase.isCorrecting = false
  locks : ∀ lock ∈ p.locks.values, lock.status.isOpen = false
  iterationLocks : ∀ l ∈ p.forEach.values, ∀ execution ∈ l.executions.values,
    ∀ lock ∈ execution.locks.values, lock.status.isOpen = false

instance (p : RunProjection) : Decidable (NothingOpenBesidesForks p) :=
  decidable_of_iff
    ((∀ a ∈ p.attempts, a.status.isStarted = false) ∧ p.pendingRetries.isEmpty = true ∧
      (∀ o ∈ p.operations.values, o.isActiveManaged = false) ∧
      (∀ g ∈ p.parallelGroups.values, g.status ≠ .started) ∧
      (∀ l ∈ p.forEach.values, l.status ≠ .open) ∧
      (∀ saga ∈ p.sagas.values, saga.phase.isCorrecting = false) ∧
      (∀ lock ∈ p.locks.values, lock.status.isOpen = false) ∧
      ∀ l ∈ p.forEach.values, ∀ execution ∈ l.executions.values,
        ∀ lock ∈ execution.locks.values, lock.status.isOpen = false)
    ⟨fun ⟨a, r, o, g, l, sagas, locks, il⟩ => ⟨a, r, o, g, l, sagas, locks, il⟩,
      fun h => ⟨h.attempts, h.retries, h.operations, h.groups, h.loops, h.sagas, h.locks,
        h.iterationLocks⟩⟩

/-- Every opened fork has settled its join and every branch, the compiled ones included. -/
def ForksSettled (w : DefinitionRef) (p : RunProjection) : Prop :=
  ∀ forkId fork, p.forks.get? forkId = some fork →
    fork.joinStatus ≠ .pending ∧ (∀ branch ∈ fork.branches.values, branch.outcome.isSome = true) ∧
    ∀ compiled, w.fork forkId = some compiled →
      ∀ branch ∈ compiled.branches, fork.branches.contains branch.branchId = true

/-- No work of the run is open. -/
structure NothingOpen (w : DefinitionRef) (p : RunProjection) : Prop
    extends NothingOpenBesidesForks p where
  forks : ForksSettled w p

section
variable [Host] {event : RunEvent}

/-! ## The deciding event -/

/-- `run_succeeded` is not an event of the later schemas. -/
theorem version_of_runSucceeded {data : RunSucceededData} (hv : event.validate = .ok ())
    (hp : event.payload = .runSucceeded data) : event.eventSchemaVersion < 11 := by
  by_contra hve
  obtain ⟨v, ei, runId, s, oa, i, payload⟩ := event
  subst hp
  simp only [Nat.not_lt] at hve
  have hu : v ≤ 20 := by
    unfold RunEvent.validate validateWith at hv
    simp only [eq_ok_iff] at hv
    obtain ⟨_, h, -⟩ := hv
    simp only [Bool.not_eq_true', Bool.not_eq_false, Bool.and_eq_true, decide_eq_true_eq] at h
    exact h.2
  have : v = 11 ∨ v = 12 ∨ v = 13 ∨ v = 14 ∨ v = 15 ∨
      v = 16 ∨ v = 17 ∨ v = 18 ∨ v = 19 ∨ v = 20 := by omega
  rcases this with rfl | rfl | rfl | rfl | rfl | rfl | rfl | rfl | rfl | rfl <;>
    cases i <;>
    simp [RunEvent.validate, validateWith, inherit, withVersion,
      validatePayload, isLoop, isWait,
      isLock, isCorrection, isRichApproval,
      isRemoteDispatch, isReusableLifecycle,
      isChoiceOrFork, isScopedWork, bind_eq_ok] at hv

omit [Host] in
theorem outcome_of_decided (p : RunProjection) (data : RunOutcomeDecidedData) :
    Ensures (fun q => q.businessOutcome = some data.outcome) (applyRunOutcomeDecided p data) := by
  iterate 2 refine Ensures.bind fun _ _ => ?_
  cases data with
  | succeeded | cancelled => exact Ensures.bind fun _ _ => Ensures.bind fun _ _ => .ok rfl
  | failed => exact Ensures.bind fun _ _ => .ok rfl

omit [Host] in
theorem outcome_of_failed (p : RunProjection) (data : RunFailedData) (ins : AttemptIndexes) :
    Ensures (fun q => q.businessOutcome = some .failed) (applyRunFailed p data ins) := by
  refine Ensures.bind fun _ _ => ?_
  split <;> exact Ensures.bind fun _ _ => Ensures.bind fun _ _ => .ok rfl

/-- From Event v11 on a run becomes successful by the event that decides its outcome. -/
theorem payload_of_succeeds {s s' : ProjectionFoldState} (hap : s.apply event = .ok s')
    (hve : 11 ≤ event.eventSchemaVersion) (hb : s.projection.businessOutcome ≠ some .succeeded)
    (ha : s'.projection.businessOutcome = some .succeeded) :
    isIterationScoped event = false ∧
      ∃ result, event.payload = .runOutcomeDecided (.succeeded result) := by
  have ht : Slice.outcome ∈ touched event := by
    by_contra hn
    have hs := apply_keeps hap .outcome hn
    simp only [Slice.Same, Prod.mk.injEq] at hs
    exact hb (hs.1 ▸ ha)
  have hv := (admitted_of_ok (apply_eq_ok.1 hap).1).valid
  obtain ⟨hsc, ht, p, hp, rfl⟩ := handler_of_touched hap ht nofun
  simp only [next] at ha
  refine ⟨hsc, ?_⟩
  -- three handlers touch the outcome
  cases hpa : event.payload with
  | runOutcomeDecided data =>
    have ho : p.businessOutcome = some data.outcome :=
      outcome_of_decided _ _ p (by rwa [applyPayload, hpa] at hp)
    rw [ha] at ho
    cases data with
    | succeeded result => exact ⟨result, rfl⟩
    | failed | cancelled => cases ho
  | runSucceeded data =>
    have := version_of_runSucceeded hv hpa
    omega
  | runFailed data =>
    have ho := outcome_of_failed _ _ _ p (by rwa [applyPayload, hpa] at hp)
    cases ha.symm.trans ho
  | _ => rw [hpa] at ht; simp [footprint] at ht

/-! ## What the deciding event asks -/

/-- The outcome was decided in a turn of the check that found every compiled fork settled. -/
theorem forkSettled_of_check {fuel : Nat} {cl : Nat → DateTime} {w : DefinitionRef} {ha : String}
    {es : List RunEvent} {s t : ProjectionFoldState}
    (hc : checkEventHistoryAgainstDefinition fuel cl w ha es = .ok s) {n : Nat}
    (hn : es[n]? = some event) (ht : fromEvents (es.take n) = .ok t) {data : RunOutcomeDecidedData}
    (hs : event.iteration = none) (hp : event.payload = .runOutcomeDecided data) :
    ∀ fork ∈ w.graph.forkList, HistoryCheck.forkSettled t.projection fork = true := by
  obtain ⟨c, c', hb, htu⟩ := turn_of_check hc hn
  have hbd := Nat.le_of_lt (List.getElem?_eq_some_iff.1 hn).1
  simp only [HistoryCheck.step, hs, HistoryCheck.checkPlace, hp,
    HistoryCheck.runOutcomeDecided, bind_eq_ok] at htu
  obtain ⟨_, -, ⟨d, p⟩, hat, htu⟩ := htu
  obtain ⟨-, -, t', ht', rfl⟩ := HistoryCheck.at_before hb hbd _ hat
  cases ht.symm.trans ht'
  intro fork hfo
  split at htu
  · rename_i hf
    have := List.find?_eq_none.1 hf fork hfo
    simpa using this
  · cases htu

theorem forksSettled_of_decided {fuel : Nat} {c : Nat → DateTime} {w : DefinitionRef} {has : String}
    {es : List RunEvent} {s t t' : ProjectionFoldState}
    (hch : checkEventHistoryAgainstDefinition fuel c w has es = .ok s) {n : Nat}
    (hn : es[n]? = some event) (ht : fromEvents (es.take n) = .ok t) (ha : t.apply event = .ok t')
    {data : RunOutcomeDecidedData} (hsc : isIterationScoped event = false)
    (hpa : event.payload = .runOutcomeDecided data) : ForksSettled w t.projection := by
  have hto : event.iteration = none := by
    simpa [isIterationScoped, isTopLevelScopedEvent, hpa] using hsc
  have hs := forkSettled_of_check hch hn ht hto hpa
  have hfo : ¬hasUnsettledFork t.projection = true := by
    obtain ⟨p, hp, -⟩ := handler_of_top ha hsc
    simp only [applyPayload, hpa, applyRunOutcomeDecided, eq_ok_iff] at hp
    obtain ⟨_, -, _, hf, -⟩ := hp
    exact hf
  intro forkId fork hf
  have hm := t.projection.forks.mem_values.2 ⟨forkId, hf⟩
  simp only [hasUnsettledFork, List.any_eq_true, Bool.or_eq_true, decide_eq_true_eq,
    not_exists, not_and, not_or] at hfo
  obtain ⟨hj, hb⟩ := hfo fork hm
  refine ⟨hj, fun branch hbr => ?_, fun cm hc branch hbr => ?_⟩
  · have := hb branch hbr
    rwa [Option.isNone_iff_eq_none, ← Option.not_isSome_iff_eq_none, not_not] at this
  · have hl := hs cm (List.mem_of_find?_eq_some hc)
    have hi : cm.forkId = forkId := by simpa using List.find?_some hc
    rw [HistoryCheck.forkSettled, hi, hf] at hl
    simp only [Option.all_some, Bool.and_eq_true, List.all_eq_true] at hl
    exact hl.2 branch hbr

end

/-! ## A success beside a step in flight -/

namespace SiblingWait

open SerialRun (definitionHash)

/-- The run is decided successful after `n` events. -/
def decided (n : Nat) : List RunEvent :=
  history.take n ++ [event (n + 1) "decided" (.runOutcomeDecided (.succeeded .null))]

end SiblingWait

end Woml
