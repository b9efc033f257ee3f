import Woml.Event.Proof.Inheritance
import Woml.Projection.Proof.Run

/-!
# For-each loops

`apply_loopStep` inverts one fold step from the view of one loop: the event opens it, moves one of
its iterations, records work in a running iteration, settles the loop, or leaves it alone.
`loopOk_of_fold` keeps the indices of the iterations below the total, and `frozen_of_settled` says
that a settled loop takes no further step.
-/

namespace Woml

open Checked SortedMap
open ProjectionFoldState (isIterationScoped)

/-- The event belongs to an iteration of the loop. -/
def ScopedTo (forEachId : String) (event : RunEvent) : Prop :=
  ∃ scope, event.iteration = some scope ∧ scope.forEachId = forEachId

/-- How the event settles a loop. -/
def RunEventPayload.settlement : RunEventPayload → Option (ForEachSettlement × ForEachSettledData)
  | forEachSucceeded data => some (.succeeded, data)
  | forEachFailed data => some (.failed, data)
  | forEachCancelled data => some (.cancelled, data)
  | _ => none

/-- What the settlement of a loop asks of it. -/
structure ForEachProjection.Settles (loop : ForEachProjection) (settlement : ForEachSettlement)
    (data : ForEachSettledData) : Prop where
  isOpen : loop.status = .open
  total : data.total = loop.total
  succeeded : data.succeeded = loop.succeededCount
  failed : data.failed = loop.failedCount
  skipped : data.skipped = loop.skippedCount
  all : loop.succeededCount + loop.failedCount + loop.skippedCount = loop.total
  success : settlement = .succeeded → loop.failedCount = 0 ∧ loop.skippedCount = 0
  idle : loop.ownsActiveWork = false

/-- What an event does to the loop `forEachId`. -/
inductive LoopStep (event : RunEvent) (forEachId : String) :
    Option ForEachProjection → Option ForEachProjection → Prop
  | kept (loop : Option ForEachProjection)
      (quiet : ScopedTo forEachId event → event.payload.isCompensationRegistered = true)
      (unsettled : ∀ settlement data, event.payload.settlement = some (settlement, data) →
        data.forEachId ≠ forEachId) : LoopStep event forEachId loop loop
  | opened (loop : ForEachProjection) (unscoped : isIterationScoped event = false)
      (isOpen : loop.status = .open) (iterations : loop.iterations = .empty)
      (executions : loop.executions = .empty) : LoopStep event forEachId none (some loop)
  | begun (loop : ForEachProjection) (index : Nat) (status : ForEachIterationStatus)
      (executions : SortedMap Nat ForEachIterationExecutionProjection)
      (unscoped : isIterationScoped event = false) (isOpen : loop.status = .open)
      (bounded : index < loop.total) (fresh : loop.iterations.get? index = none)
      (blank : executions = loop.executions ∨
        ∃ x, x.locks = .empty ∧ executions = loop.executions.insert index x) :
      LoopStep event forEachId (some loop)
        (some { loop with iterations := loop.iterations.insert index status, executions })
  | ended (loop : ForEachProjection) (index : Nat) (status : ForEachIterationStatus)
      (executions : SortedMap Nat ForEachIterationExecutionProjection)
      (unscoped : isIterationScoped event = false)
      (running : loop.iterations.get? index = some .started) (terminal : status.isStarted = false)
      (locks : ∀ other, (executions.get? other).map (·.locks) =
        (loop.executions.get? other).map (·.locks)) :
      LoopStep event forEachId (some loop)
        (some { loop with iterations := loop.iterations.insert index status, executions })
  | worked (loop : ForEachProjection) (index : Nat) {x x' : ForEachIterationExecutionProjection}
      {previous : Option RunEvent} (isOpen : loop.status = .open)
      (scope : event.iteration = some ⟨forEachId, index⟩)
      (execution : loop.executions.get? index = some x)
      (work : x.apply ⟨forEachId, index⟩ event previous = .ok x') :
      LoopStep event forEachId (some loop)
        (some { loop with executions := loop.executions.insert index x' })
  | settled (loop : ForEachProjection) (settlement : ForEachSettlement) (data : ForEachSettledData)
      (payload_eq : event.payload.settlement = some (settlement, data))
      (target : data.forEachId = forEachId) (accepted : loop.Settles settlement data) :
      LoopStep event forEachId (some loop) (some { loop with status := settlement.status })

/-! ## The handlers -/

variable {loop : ForEachProjection} {settlement : ForEachSettlement} {data : ForEachSettledData}
  {status : ForEachIterationStatus} {event : RunEvent}

section
variable {p q : RunProjection} {forEachId key : String}

/-- The event concerns the loop `key` alone. -/
structure ConcernsOnly (key : String) (event : RunEvent) : Prop where
  scope : ∀ forEachId, ScopedTo forEachId event → forEachId = key
  settlement : ∀ settlement data, event.payload.settlement = some (settlement, data) →
    data.forEachId = key

/-- Every loop takes a step of the event. -/
def StepsLoops (event : RunEvent) (p q : RunProjection) : Prop :=
  ∀ forEachId, LoopStep event forEachId (p.forEach.get? forEachId) (q.forEach.get? forEachId)

/-- A change of one loop of the map is a step of every loop. -/
theorem StepsLoops.insert {loop? : Option ForEachProjection} {l' : ForEachProjection}
    (ho : ConcernsOnly key event) (hl : p.forEach.get? key = loop?)
    (hk : LoopStep event key loop? (some l'))
    (hq : q.forEach = p.forEach.insert key l') : StepsLoops event p q := by
  intro forEachId
  rw [hq]
  by_cases hi : forEachId = key
  · subst hi
    rw [SortedMap.get?_insert_self, hl]
    exact hk
  · rw [SortedMap.get?_insert_ne _ hi]
    refine .kept _ (fun hscope => absurd (ho.scope _ hscope) hi) fun settlement data h hs => ?_
    exact hi (hs.symm.trans (ho.settlement settlement data h))

theorem concernsOnly_of_iteration (hv : ∃ sc, event.iteration = some sc ∧ sc.forEachId = key)
    (hs : event.payload.settlement = none) : ConcernsOnly key event := by
  obtain ⟨sc, hscope, rfl⟩ := hv
  refine ⟨?_, fun settlement data h => by rw [hs] at h; cases h⟩
  rintro forEachId ⟨scope', hs', rfl⟩
  rw [hscope] at hs'
  cases hs'
  rfl

theorem concernsOnly_of_unscoped (hsc : event.iteration = none)
    (hs : ∀ settlement data, event.payload.settlement = some (settlement, data) →
      data.forEachId = key) : ConcernsOnly key event := by
  refine ⟨?_, hs⟩
  rintro forEachId ⟨scope, h, -⟩
  rw [hsc] at h
  cases h

theorem isStarted_iff : status.isStarted = true ↔ status = .started := by
  cases status <;> simp [ForEachIterationStatus.isStarted]

theorem running_of_any {i : Nat} (h : (loop.iterations.get? i).any (·.isStarted) = true) :
    loop.iterations.get? i = some .started := by
  obtain ⟨status, hs, hst⟩ := (Option.any_eq_true _ _).1 h
  rw [hs, isStarted_iff.1 hst]

section
variable (hscope : isIterationScoped event = false)
include hscope

theorem applyForEachOpened_steps {data : ForEachOpenedData} (ho : ConcernsOnly data.forEachId event)
    (h : applyForEachOpened p data = .ok q) : StepsLoops event p q := by
  simp only [applyForEachOpened, eq_ok_iff] at h
  obtain ⟨_, -, _, hf, rfl⟩ := h
  exact .insert ho (by simpa [SortedMap.contains] using hf) (.opened _ hscope rfl rfl rfl) rfl

theorem applyForEachIterationStarted_steps {data : ForEachIterationIdentityData}
    (ho : ConcernsOnly data.forEachId event)
    (h : applyForEachIterationStarted p event data = .ok q) : StepsLoops event p q := by
  simp only [applyForEachIterationStarted, eq_ok_iff, not_or, not_not, not_le] at h
  obtain ⟨_, -, sc, -, loop, hl, _, ⟨hop, hb, hf⟩, rfl⟩ := h
  have hf : loop.iterations.get? sc.index = none := by
    simpa [SortedMap.contains] using hf
  exact .insert ho hl (.begun loop sc.index _ _ hscope hop hb hf (.inr ⟨_, rfl, rfl⟩)) rfl

theorem applyForEachIterationSucceeded_steps [Host] {data : ForEachIterationSucceededData}
    (ho : ConcernsOnly data.forEachId event)
    (h : applyForEachIterationSucceeded p event data = .ok q) : StepsLoops event p q := by
  have he {sc : ForEachIterationScope} {loop : ForEachProjection}
      (hr : (loop.iterations.get? sc.index).any (·.isStarted) = true) :=
    @LoopStep.ended event data.forEachId loop sc.index (.succeeded data.result)
      loop.executions hscope (running_of_any hr) rfl fun _ => rfl
  unfold applyForEachIterationSucceeded at h
  simp only [bind_eq_ok] at h
  obtain ⟨_, -, sc, -, h⟩ := h
  -- the digest of a result is tested on the way
  split at h <;> simp only [eq_ok_iff, Bool.not_eq_true', Bool.not_eq_false] at h
  · obtain ⟨_, -, _, -, loop, hl, _, hr, rfl⟩ := h
    exact .insert ho hl (he hr) rfl
  · obtain ⟨_, -, loop, hl, _, hr, rfl⟩ := h
    exact .insert ho hl (he hr) rfl

theorem applyForEachIterationFailed_steps {data : ForEachIterationFailedData}
    (hon : ConcernsOnly data.forEachId event)
    (h : applyForEachIterationFailed p event data = .ok q) : StepsLoops event p q := by
  simp only [applyForEachIterationFailed, eq_ok_iff, Bool.not_eq_true', Bool.not_eq_false] at h
  obtain ⟨_, -, sc, -, loop, hl, _, hr, rfl⟩ := h
  refine .insert hon hl
    (.ended loop sc.index _ _ hscope (running_of_any hr) rfl fun other => ?_) rfl
  simp only [modifyEntry]
  split
  · rename_i x hx
    by_cases ho : other = sc.index
    · subst ho
      simp [hx]
    · rw [SortedMap.get?_insert_ne _ ho]
  · rfl

theorem applyForEachIterationSkipped_steps {data : ForEachIterationSkippedData}
    (ho : ConcernsOnly data.forEachId event)
    (h : applyForEachIterationSkipped p event data = .ok q) : StepsLoops event p q := by
  simp only [applyForEachIterationSkipped, eq_ok_iff, not_or, not_not, not_le] at h
  obtain ⟨_, -, sc, -, loop, hl, _, ⟨hop, hb, hf⟩, rfl⟩ := h
  have hf : loop.iterations.get? sc.index = none := by
    simpa [SortedMap.contains] using hf
  exact .insert ho hl (.begun loop sc.index _ _ hscope hop hb hf (.inl rfl)) rfl

end

theorem applyForEachSettled_eq [Host] (h : applyForEachSettled p settlement data = .ok q) :
    ∃ loop, p.forEach.get? data.forEachId = some loop ∧ loop.Settles settlement data ∧
      q.forEach = p.forEach.insert data.forEachId { loop with status := settlement.status } ∧
      (settlement = .succeeded →
        q.context.steps = p.context.steps.insert data.forEachId loop.output) := by
  simp only [applyForEachSettled, eq_ok_iff, not_or, not_not, not_and, Bool.not_eq_true] at h
  obtain ⟨_, -, loop, hl, _, ⟨ho, ht, hs, hf, hk, ha, hsu, hi⟩, h⟩ := h
  refine ⟨loop, hl, ⟨ho, ht, hs, hf, hk, ha, hsu, hi⟩, ?_⟩
  split at h
  · simp only [eq_ok_iff] at h
    obtain ⟨_, -, _, -, rfl⟩ := h
    exact ⟨rfl, fun _ => rfl⟩
  · rename_i hn
    cases h
    exact ⟨rfl, fun he => absurd he hn⟩

theorem applyForEachSettled_steps [Host] (ho : ConcernsOnly data.forEachId event)
    (hp : event.payload.settlement = some (settlement, data))
    (h : applyForEachSettled p settlement data = .ok q) : StepsLoops event p q := by
  obtain ⟨loop, hl, hs, hq, -⟩ := applyForEachSettled_eq h
  exact .insert ho hl (.settled loop settlement data hp rfl hs) hq

theorem applyIterationScopedEvent_steps {ps : Option RunEvent}
    (h : applyIterationScopedEvent p event ps = .ok q) : StepsLoops event p q := by
  simp only [applyIterationScopedEvent, eq_ok_iff, not_or, not_not] at h
  obtain ⟨_, -, sc, hscope, loop, hl, _, ⟨ho, -⟩, x, hx, x', hw, rfl⟩ := h
  have hs : event.payload.settlement = none := by
    rw [ForEachIterationExecutionProjection.apply] at hw
    cases hp : event.payload <;> rw [hp] at hw <;> first | rfl | cases hw
  exact .insert (concernsOnly_of_iteration ⟨sc, hscope, rfl⟩ hs) hl
    (.worked loop sc.index ho hscope hx hw) rfl

end

namespace ProjectionFoldState

theorem applyPayload_of_settlement [Host] {p : RunProjection} {ins : AttemptIndexes}
    {ps : Option RunEvent} (h : event.payload.settlement = some (settlement, data)) :
    applyPayload p event ins ps = applyForEachSettled p settlement data := by
  rw [applyPayload]
  cases hp : event.payload <;> rw [hp] at h <;> cases h <;> rfl

/-- The handler of a settlement accepted it. -/
theorem settled_of_apply [Host] {s s' : ProjectionFoldState} (h : s.apply event = .ok s')
    (hs : event.payload.settlement = some (settlement, data)) :
    event.iteration = none ∧ ∃ p, applyForEachSettled s.projection settlement data = .ok p ∧
      s' = s.next event p := by
  obtain ⟨hg, p, hp, rfl⟩ := apply_eq_ok.1 h
  have hu : event.iteration = none := by
    refine unscoped_of_validate (admitted_of_ok hg).valid data ?_
    cases hpa : event.payload <;> rw [hpa] at hs <;> cases hs
    · exact .inl rfl
    · exact .inr (.inl rfl)
    · exact .inr (.inr rfl)
  rw [handle, isIterationScoped, hu] at hp
  rw [applyPayload_of_settlement hs] at hp
  exact ⟨hu, p, hp, rfl⟩

/-- **What an event does to a loop.** -/
theorem apply_loopStep [Host] {s s' : ProjectionFoldState} (h : s.apply event = .ok s') :
    StepsLoops event s.projection s'.projection := by
  cases hs : event.payload.settlement with
  | some settled =>
    obtain ⟨hu, p, hp, rfl⟩ := settled_of_apply h hs
    show StepsLoops event s.projection p
    refine applyForEachSettled_steps (concernsOnly_of_unscoped hu ?_) hs hp
    intro st' d' he
    rw [hs] at he
    cases he
    rfl
  | none =>
    have hkp := apply_keeps h
    obtain ⟨hg, p, hp, rfl⟩ := apply_eq_ok.1 h
    show StepsLoops event s.projection p
    have hit : ∀ key, event.payload.iterationOf = some key → ConcernsOnly key event :=
      fun key hk =>
        concernsOnly_of_iteration (scope_of_validate (admitted_of_ok hg).valid hk) hs
    cases hscope : isIterationScoped event with
    | true =>
      simp only [handle, hscope] at hp
      exact applyIterationScopedEvent_steps hp
    | false =>
      simp only [handle, hscope, applyPayload] at hp
      by_cases hl : Slice.loops ∈ footprint event.payload
      · -- five more handlers change a loop
        cases hpa : event.payload <;> rw [hpa] at hl hs hit hp
        case forEachOpened data =>
          have hu : event.iteration = none := by
            simpa [isIterationScoped, isTopLevelScopedEvent, hpa] using hscope
          refine applyForEachOpened_steps hscope (concernsOnly_of_unscoped hu ?_) hp
          intro settlement d' he
          rw [hpa] at he
          cases he
        case forEachIterationStarted =>
          exact applyForEachIterationStarted_steps hscope (hit _ rfl) hp
        case forEachIterationSucceeded =>
          exact applyForEachIterationSucceeded_steps hscope (hit _ rfl) hp
        case forEachIterationFailed =>
          exact applyForEachIterationFailed_steps hscope (hit _ rfl) hp
        case forEachIterationSkipped =>
          exact applyForEachIterationSkipped_steps hscope (hit _ rfl) hp
        all_goals first | (simp [footprint] at hl; done) | cases hs
      · intro forEachId
        have hsa : p.forEach = s.projection.forEach :=
          hkp .loops (by rwa [touched, hscope, if_neg Bool.false_ne_true])
        rw [hsa]
        refine .kept _ (fun hsc => ?_) fun settlement data he => by
          rw [hs] at he; cases he
        obtain ⟨sc, hi, -⟩ := hsc
        have ht : isTopLevelScopedEvent event.payload = true := by
          simpa [isIterationScoped, hi] using hscope
        cases hpa : event.payload <;> rw [hpa] at ht hl <;>
          first | rfl | (cases ht; done) | simp [footprint] at hl

end ProjectionFoldState

/-! ## The invariant -/

/-- The iterations of a loop have indices below its total, and those of a settled loop have
ended. -/
structure LoopOk (loop : ForEachProjection) : Prop where
  bounded : ∀ index status, loop.iterations.get? index = some status → index < loop.total
  ended : loop.status ≠ .open → ∀ index status, loop.iterations.get? index = some status →
    status.isStarted = false

namespace ForEachProjection

/-- The iterations that have started and not ended. -/
def startedCount (loop : ForEachProjection) : Nat :=
  (loop.iterations.values.filter (·.isStarted)).length

theorem size_eq_counts (loop : ForEachProjection) :
    loop.iterations.size =
      loop.succeededCount + loop.failedCount + loop.skippedCount + loop.startedCount := by
  have hs : loop.iterations.size = loop.iterations.values.length := by
    rw [SortedMap.size, SortedMap.values, List.length_map]
  rw [hs]
  unfold succeededCount failedCount skippedCount startedCount
  induction loop.iterations.values with
  | nil => rfl
  | cons status statuses ih =>
    cases status <;> simp only [List.filter_cons, ForEachIterationStatus.isStarted, if_true,
      Bool.false_eq_true, if_false, List.length_cons, ih] <;> omega

theorem keys_subset (hok : LoopOk loop) : loop.iterations.keys ⊆ List.range loop.total := by
  intro index hi
  obtain ⟨status, hs⟩ := loop.iterations.mem_keys.1 hi
  exact List.mem_range.2 (hok.bounded index status hs)

theorem keys_nodup (loop : ForEachProjection) : loop.iterations.keys.Nodup :=
  loop.iterations.keys_sorted.imp Nat.ne_of_lt

section
variable (h : loop.Settles settlement data) (hok : LoopOk loop)
include h hok

theorem Settles.size : loop.iterations.size = loop.total ∧ loop.startedCount = 0 := by
  have hle : loop.iterations.size ≤ loop.total := by
    have hl := (List.subperm_of_subset loop.keys_nodup (keys_subset hok)).length_le
    rwa [List.length_range, SortedMap.keys, List.length_map] at hl
  have hs := loop.size_eq_counts
  have ha := h.all
  omega

/-- **The iterations of a settled loop are those below its total**, in order. -/
theorem Settles.keys : loop.iterations.keys = List.range loop.total := by
  have hp : loop.iterations.keys.Perm (List.range loop.total) := by
    refine (List.subperm_of_subset loop.keys_nodup (keys_subset hok)).perm_of_length_le ?_
    rw [List.length_range, SortedMap.keys, List.length_map]
    exact Nat.le_of_eq (h.size hok).1.symm
  exact hp.eq_of_pairwise (fun a b _ _ ha hb => absurd hb (Nat.lt_asymm ha))
    loop.iterations.keys_sorted List.pairwise_lt_range

theorem Settles.ended (i : Nat) (s : ForEachIterationStatus)
    (hs : loop.iterations.get? i = some s) : s.isStarted = false := by
  have hn : loop.iterations.values.filter (·.isStarted) = [] :=
    List.length_eq_zero_iff.1 (h.size hok).2
  rw [List.filter_eq_nil_iff] at hn
  simpa using hn s (loop.iterations.mem_values.2 ⟨i, hs⟩)

end

end ForEachProjection

section
variable {fei : String} {b a : Option ForEachProjection}

theorem LoopStep.ok (h : LoopStep event fei b a)
    (hok : ∀ loop, b = some loop → LoopOk loop) : ∀ loop, a = some loop → LoopOk loop := by
  intro l' ha
  cases h with
  | kept => exact hok l' ha
  | opened loop _ isOpen its =>
    cases ha
    refine ⟨fun index status hg => ?_, fun hs => absurd isOpen hs⟩
    rw [its] at hg
    cases hg
  | begun loop index status exs _ isOpen bn =>
    cases ha
    refine ⟨fun i' s' hg => ?_, fun hs => absurd isOpen hs⟩
    rcases of_get?_insert hg with ⟨rfl, -⟩ | ⟨-, ho⟩
    · exact bn
    · exact (hok loop rfl).bounded i' s' ho
  | ended loop index status exs _ running terminal =>
    cases ha
    refine ⟨fun i' s' hg => ?_, fun hs i' s' hg => ?_⟩
    · rcases of_get?_insert hg with ⟨rfl, -⟩ | ⟨-, ho⟩
      · exact (hok loop rfl).bounded _ _ running
      · exact (hok loop rfl).bounded i' s' ho
    · rcases of_get?_insert hg with ⟨-, rfl⟩ | ⟨-, ho⟩
      · exact terminal
      · exact (hok loop rfl).ended hs i' s' ho
  | worked loop _ isOpen =>
    cases ha
    exact ⟨(hok loop rfl).bounded, fun hs => absurd isOpen hs⟩
  | settled loop settlement data payload_eq t accepted =>
    cases ha
    exact ⟨(hok loop rfl).bounded, fun _ => accepted.ended (hok loop rfl)⟩

/-- A settled loop takes no step, and of its scope only a registration is accepted. -/
theorem LoopStep.frozen (h : LoopStep event fei (some loop) a) (hok : LoopOk loop)
    (hs : loop.status ≠ .open) :
    a = some loop ∧ (ScopedTo fei event → event.payload.isCompensationRegistered = true) := by
  cases h with
  | kept _ quiet => exact ⟨rfl, quiet⟩
  | begun _ _ _ _ _ isOpen => exact absurd isOpen hs
  | ended _ index _ _ _ running =>
    have he := hok.ended hs index _ running
    cases he
  | worked _ _ isOpen => exact absurd isOpen hs
  | settled _ _ _ _ _ accepted => exact absurd accepted.isOpen hs

/-- An iteration that has ended keeps its status. -/
theorem LoopStep.stable {i : Nat} (h : LoopStep event fei (some loop) a)
    (hs : loop.iterations.get? i = some status) (he : status.isStarted = false) :
    ∃ l', a = some l' ∧ l'.iterations.get? i = some status := by
  cases h with
  | kept => exact ⟨loop, rfl, hs⟩
  | begun _ index' _ _ _ _ _ fresh =>
    refine ⟨_, rfl, ?_⟩
    have hn : i ≠ index' := by
      rintro rfl
      rw [hs] at fresh
      cases fresh
    rw [get?_insert_ne _ hn]
    exact hs
  | ended _ index' _ _ _ running =>
    refine ⟨_, rfl, ?_⟩
    have hn : i ≠ index' := by
      rintro rfl
      rw [hs] at running
      cases running
      cases he
    rw [get?_insert_ne _ hn]
    exact hs
  | worked => exact ⟨_, rfl, hs⟩
  | settled => exact ⟨_, rfl, hs⟩

end

namespace ProjectionFoldState

variable [Host] {es : List RunEvent} {s : ProjectionFoldState}

theorem loopOk_of_fold (h : fromEvents es = .ok s) (fei : String) :
    ∀ loop, s.projection.forEach.get? fei = some loop → LoopOk loop := by
  refine fromEvents_induction (P := fun _ s =>
    ∀ loop, s.projection.forEach.get? fei = some loop → LoopOk loop) ?_ ?_ h
  · intro loop hl
    cases hl
  · intro es s event s' _ ih ha
    exact (apply_loopStep ha fei).ok ih

variable {fei : String}

/-- **A settled loop stays as it is.** -/
theorem frozen_of_settled {k m : Nat} {t u : ProjectionFoldState} (hk : k ≤ m)
    (ht : fromEvents (es.take k) = .ok t) (hl : t.projection.forEach.get? fei = some loop)
    (hse : loop.status ≠ .open) (hu : fromEvents (es.take m) = .ok u) :
    u.projection.forEach.get? fei = some loop := by
  have hok := loopOk_of_fold ht fei loop hl
  refine fromEvents_take_from (P := fun u => u.projection.forEach.get? fei = some loop) hk
    (fun t' ht' => ?_) (fun n event s s' _ _ _ ih ha => ?_) hu
  · cases ht.symm.trans ht'
    exact hl
  · have hs := apply_loopStep ha fei
    rw [ih] at hs
    exact (hs.frozen hok hse).1

/-- The scope of a settled loop is closed but for registrations. -/
theorem scope_of_settled (h : fromEvents es = .ok s) {k m : Nat} {t : ProjectionFoldState}
    (hk : k ≤ m) (ht : fromEvents (es.take k) = .ok t)
    (hl : t.projection.forEach.get? fei = some loop) (hse : loop.status ≠ .open)
    (hm : es[m]? = some event) (hsc : ScopedTo fei event) :
    event.payload.isCompensationRegistered = true := by
  obtain ⟨u, u', hu, -, ha⟩ := apply_at h hm
  have hs := apply_loopStep ha fei
  rw [frozen_of_settled hk ht hl hse hu] at hs
  exact (hs.frozen (loopOk_of_fold ht fei loop hl) hse).2 hsc

/-- **An iteration that has ended stays as it is.** -/
theorem iteration_stable {k m : Nat} {t u : ProjectionFoldState} {i : Nat} (hk : k ≤ m)
    (ht : fromEvents (es.take k) = .ok t) (hl : t.projection.forEach.get? fei = some loop)
    (hs : loop.iterations.get? i = some status) (he : status.isStarted = false)
    (hu : fromEvents (es.take m) = .ok u) :
    ∃ l', u.projection.forEach.get? fei = some l' ∧ l'.iterations.get? i = some status := by
  refine fromEvents_take_from (P := fun u => ∃ l',
    u.projection.forEach.get? fei = some l' ∧ l'.iterations.get? i = some status)
    hk (fun t' ht' => ?_) (fun n event s s' _ _ _ ih ha => ?_) hu
  · cases ht.symm.trans ht'
    exact ⟨loop, hl, hs⟩
  · obtain ⟨l', hl', hs'⟩ := ih
    have hst := apply_loopStep ha fei
    rw [hl'] at hst
    exact hst.stable hs' he

end ProjectionFoldState

end Woml
