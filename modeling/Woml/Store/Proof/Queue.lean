import Woml.Store.Proof.Claims

/-!
# Work-conserving queues

A run that is queued is started by the first claim on it that is not made to wait. The claim looks
at the rows of the runtime-policy tables; what is proved here is about the histories, which the
tables follow (`Store.Indexed`):

* `QueuedIn`: a run whose history says that it is queued, with its queue and its place in it;
* `Eligible`: its workflow has a free slot and its rate limit lets it start;
* `fifo_work_conserving`: a run starts only if no run before it in the queue is eligible, and the
  first eligible run is not made to wait. For the second part a queued run has no claim
  (`Reachable.unqueued`).
-/

namespace Woml

open Checked ProjectionFoldState

namespace QueuePlace

theorem Before.irrefl (a : QueuePlace) : ¬a.Before a := by
  rintro (h | ⟨-, h⟩ | ⟨-, -, h⟩)
  · exact lt_irrefl _ h
  · exact lt_irrefl _ h
  · exact lt_irrefl _ h

end QueuePlace

namespace Store

section
variable [Host]
variable {s s' : Store} {run : StoredRun} {row : QueuedRun} {p : RunProjection}
  {data : RunAdmittedData}

/-- The history of a run says that it is queued, where and at which place. -/
def QueuedIn (s : Store) (queue runId : String) (place : QueuePlace) : Prop :=
  ∃ run p, s.runs.get? runId = some run ∧ foldEvents run.events = .ok p ∧ p.status = .queued ∧
    p.queue = some queue ∧ p.admittedAt = some place.admittedAt ∧
    p.occurrenceSequence = some place.occurrenceSequence ∧ place.runId = runId

/-- The workflow of a run has a free slot, and its rate limit lets a run start. -/
def Eligible (s : Store) (now : DateTime) (runId : String) : Prop :=
  ∃ run w policy, s.runs.get? runId = some run ∧
    s.definitions.get? run.definitionHash = some w ∧ w.runtimePolicy = some policy ∧
    s.workflowHasPolicyCapacity run.workflowId policy.concurrency = true ∧
    s.workflowRateEligibility run.workflowId policy.rateLimit now = .ok .eligible

/-- The admission of a run names the definition that the run is bound to. -/
def Admitted (s : Store) : Prop :=
  ∀ r run admission, s.runs.get? r = some run → run.admission = some admission →
    admission.definitionHash = run.definitionHash

omit [Host] in
theorem admission_eq_some :
    run.admission = some data ↔
      ∃ event, run.events.head? = some event ∧ event.payload = .runAdmitted data := by
  simp only [StoredRun.admission, Option.bind_eq_some_iff]
  refine exists_congr fun event => and_congr_right fun _ => ?_
  cases event.payload <;> simp [RunEventPayload.admission]

theorem foldEvents_eq_ok {es : List RunEvent} :
    foldEvents es = .ok p ↔ ∃ s, fromEvents es = .ok s ∧ s.projection = p := by
  rw [foldEvents, map_eq_ok]

theorem place_of_admission (ha : run.admission = some data) (hf : foldEvents run.events = .ok p) :
    p.queue = some data.queue.name ∧ p.admittedAt = some data.admittedAt ∧
      p.occurrenceSequence = some data.occurrenceSequence := by
  obtain ⟨event, hfs, hp⟩ := admission_eq_some.1 ha
  obtain ⟨state, hst, rfl⟩ := foldEvents_eq_ok.1 hf
  exact admission_of_fold hst hfs hp

theorem admission_of_queued (hf : foldEvents run.events = .ok p) (hq : p.status = .queued) :
    ∃ data, run.admission = some data := by
  obtain ⟨state, hst, rfl⟩ := foldEvents_eq_ok.1 hf
  obtain ⟨event, data, hfs, hp⟩ := admitted_of_queued hst hq
  exact ⟨data, admission_eq_some.2 ⟨event, hfs, hp⟩⟩

/-! ## Rows of the queue -/

theorem queueRow_eq_some (h : run.queueRow = some row) :
    ∃ data p, run.admission = some data ∧ foldEvents run.events = .ok p ∧ p.status = .queued ∧
      row = ⟨run.workflowId, data.queue.name, data.admittedAt, data.occurrenceSequence⟩ := by
  simp only [StoredRun.queueRow, Option.bind_eq_bind, Option.bind_eq_some_iff] at h
  obtain ⟨data, hd, p, hp, h⟩ := h
  split at h
  · rename_i hq
    exact ⟨data, p, hd, toOption_eq_some.1 hp, hq, (Option.some.inj h).symm⟩
  · cases h

theorem queuedIn_of_row (hs : Indexed s) {r : String} (h : s.policyQueue.get? r = some row) :
    s.QueuedIn row.queueName r (row.place r) := by
  rw [hs.queue, Option.bind_eq_some_iff] at h
  obtain ⟨run, hr, h⟩ := h
  obtain ⟨data, p, hd, hf, hq, rfl⟩ := queueRow_eq_some h
  obtain ⟨hqu, ha, hse⟩ := place_of_admission hd hf
  exact ⟨run, p, hr, hf, hq, hqu, ha, hse, rfl⟩

variable {place : QueuePlace} {now : DateTime}

theorem row_of_queuedIn (hs : Indexed s) {q r : String} (h : s.QueuedIn q r place) :
    ∃ row, s.policyQueue.get? r = some row ∧ row.queueName = q ∧ row.place r = place := by
  obtain ⟨run, p, hr, hf, hq, hqu, ha, hse, hn⟩ := h
  obtain ⟨data, hd⟩ := admission_of_queued hf hq
  obtain ⟨hq', ha', hs'⟩ := place_of_admission hd hf
  refine ⟨⟨run.workflowId, data.queue.name, data.admittedAt, data.occurrenceSequence⟩, ?_,
    Option.some.inj (hq'.symm.trans hqu), ?_⟩
  · rw [hs.queue, hr, Option.bind_some, StoredRun.queueRow]
    simp [hd, StoredRun.projection, hf, hq, Except.toOption]
  · cases place
    simp only [QueuedRun.place, QueuePlace.mk.injEq]
    exact ⟨Option.some.inj (ha'.symm.trans ha), Option.some.inj (hs'.symm.trans hse), hn.symm⟩

theorem rowIsEligible_iff (hs : Indexed s) (ha : Admitted s) {r : String}
    (h : s.policyQueue.get? r = some row) :
    s.rowIsEligible now r row = .ok true ↔ s.Eligible now r := by
  rw [hs.queue, Option.bind_eq_some_iff] at h
  obtain ⟨run, hru, h⟩ := h
  obtain ⟨data, p, hd, -, -, rfl⟩ := queueRow_eq_some h
  have hb : s.policyBindings.get? r = run.bindingRow := by
    rw [hs.bindings, hru, Option.bind_some]
  have hh := ha r run data hru hd
  simp only [StoredRun.bindingRow, hd, Option.map_some] at hb
  simp only [rowIsEligible, hb, hh, eq_ok_iff, Option.some.injEq, exists_eq_left']
  constructor
  · rintro ⟨w, hw, policy, hp, h⟩
    split at h
    · rename_i hc
      simp only [eq_ok_iff, decide_eq_true_eq] at h
      obtain ⟨rate, hr, rfl⟩ := h
      exact ⟨run, w, policy, hru, hw, hp, hc, hr⟩
    · cases h
  · rintro ⟨run', w, policy, hr', hw, hp, hc, hr⟩
    cases hru.symm.trans hr'
    refine ⟨w, hw, policy, hp, ?_⟩
    rw [if_pos hc, hr]
    rfl

omit [Host] in
theorem mem_earlierInQueue {q r : String} :
    (r, row) ∈ s.earlierInQueue q place ↔ s.policyQueue.get? r = some row ∧
      row.queueName = q ∧ r ≠ place.runId ∧ (row.place r).Before place := by
  simp [earlierInQueue, SortedMap.mem_entries, and_assoc]

/-! ## Invariants of the queue -/

variable [Inspection] {fuel : Nat} {clock : Nat → DateTime}

omit [Inspection] in
/-- A checked admission names its definition and the queue of its definition. -/
theorem admission_of_check {w : DefinitionRef} {ha : String} {s : ProjectionFoldState}
    (h : checkEventHistoryAgainstDefinition fuel clock w ha run.events = .ok s)
    (hd : run.admission = some data) :
    data.definitionHash = ha ∧ w.runtimePolicyQueueName = some data.queue.name := by
  obtain ⟨event, hf, hp⟩ := admission_eq_some.1 hd
  have ht := iteration_of_admission (fromEvents_of_check h) hf hp
  have hv := payload_valid_of_check h (by rw [← List.head?_eq_getElem?, hf]) ht
  simp only [hp, validatePayloadAgainstDefinition, checkRunAdmitted, eq_ok_iff, not_or,
    not_not] at hv
  obtain ⟨_, ⟨-, hh, -, hq⟩, -⟩ := hv
  exact ⟨hh, hq⟩

theorem Reachable.admitted (h : Reachable fuel clock s) : Admitted s := by
  refine h.of_moves nofun fun {s s'} hm hs => ?_
  intro r run data hr hd
  cases hm with
  | define => exact hs r run data hr hd
  | claims => exact hs r run data hr hd
  | occur _ hi =>
    obtain ⟨-, rfl⟩ := insertOccurrence_eq_ok hi
    exact hs r run data hr hd
  | start hf hw hwf hb hc hwr =>
    rw [hwr.runs] at hr
    split at hr
    · cases hr
      simp only [validateEventHistoryAgainstDefinition, bind_eq_ok] at hc
      obtain ⟨state, hst, -⟩ := hc
      exact (admission_of_check hst hd).1
    · exact hs r run data hr hd
  | extend ho hwf hh hb he hwr =>
    rw [hwr.runs] at hr
    split at hr
    · cases hr
      rw [StoredRun.admission_of_prefix he hb] at hd
      rw [hh]
      exact hs _ _ data ho hd
    · exact hs r run data hr hd

/-- Who has a claim is not queued. -/
def Unqueued (s : Store) : Prop :=
  ∀ r row run p, s.claims.get? r = some row → s.runs.get? r = some run →
    foldEvents run.events = .ok p → p.status ≠ .queued

omit [Inspection] in
/-- A run that is not queued is not queued again. -/
theorem not_queued_of_prefix {run run' : StoredRun} {p p' : RunProjection}
    (he : run.events <+: run'.events) (hb : run.events ≠ []) (hf : foldEvents run.events = .ok p)
    (hf' : foldEvents run'.events = .ok p') (h : p.status ≠ .queued) : p'.status ≠ .queued := by
  obtain ⟨sf, hsu⟩ := he
  obtain ⟨state, hst, rfl⟩ := foldEvents_eq_ok.1 hf
  obtain ⟨st', hs', rfl⟩ := foldEvents_eq_ok.1 hf'
  rw [← hsu] at hs'
  exact fun hq => h (queued_of_append hst hb hs' hq)

section
variable (hs : Unqueued s) (hsound : Sound s) (hlabelled : Labelled s) (hgrows : s.Grows s')
include hs hsound hlabelled hgrows

theorem Unqueued.later {r : String} {row : SchedulerClaim} (hro : s.claims.get? r = some row)
    {run' : StoredRun} {p' : RunProjection} (hr' : s'.runs.get? r = some run')
    (hf' : foldEvents run'.events = .ok p') : p'.status ≠ .queued := by
  obtain ⟨run, hr, -⟩ := hlabelled r row hro
  obtain ⟨r'', hr'', -, -, he⟩ := hgrows.runs hr
  cases hr'.symm.trans hr''
  obtain ⟨p, hf⟩ := hsound.folds hr
  exact not_queued_of_prefix he (hsound.begun hr) hf hf' (hs r row run p hro hr hf)

theorem Unqueued.shrinks {ss : Option String} (h : Shrinks s s' ss) : Unqueued s' := by
  intro r row' run' p' hr' hru' hf'
  obtain ⟨row, hr, -⟩ := h r row' hr'
  exact hs.later hsound hlabelled hgrows hr hru' hf'

/-- Of a grant only the granted run can be new among the claimed ones. -/
theorem Unqueued.grants {ri : String} (h : Grants s s' ri)
    (hu : ∀ run p, s'.runs.get? ri = some run → foldEvents run.events = .ok p → p.status ≠ .queued)
    :
    Unqueued s' := by
  obtain ⟨base, row₀, run₀, w, policy, hb, hc, -⟩ := h
  intro r row run p hr hru hf
  rw [hc] at hr
  rcases SortedMap.of_get?_insert hr with ⟨rfl, -⟩ | ⟨-, hr⟩
  · exact hu run p hru hf
  · exact hs.later hsound hlabelled hgrows (hb r row hr) hru hf

end

/-- **Who has a claim is not queued**, in every reachable store. -/
theorem Reachable.unqueued (h : Reachable fuel clock s) : Labelled s ∧ Unqueued s := by
  induction h with
  | empty => exact ⟨nofun, fun _ _ _ _ h => nomatch h⟩
  | @step s s' request answer hr h ih =>
    obtain ⟨hlabelled, hs⟩ := ih
    have hsound := hr.sound
    have hgrows := Grows.of_perform h
    cases perform_claims h with
    | quiet h =>
      exact ⟨hlabelled.shrinks hgrows h, hs.shrinks hsound hlabelled hgrows h⟩
    | suspend h => exact ⟨hlabelled.shrinks hgrows h, hs.shrinks hsound hlabelled hgrows h⟩
    | release h => exact ⟨hlabelled.shrinks hgrows h, hs.shrinks hsound hlabelled hgrows h⟩
    | resume hro h =>
      obtain ⟨row, hro⟩ := hro
      exact ⟨hlabelled.grants hgrows h, hs.grants hsound hlabelled hgrows h fun _ _ hru hf =>
        hs.later hsound hlabelled hgrows hro hru hf⟩
    | claim h =>
      cases h with
      | foreign => exact ⟨hlabelled, hs⟩
      | again => exact ⟨hlabelled, hs⟩
      | later =>
        exact ⟨hlabelled.shrinks hgrows (.deleteExpiredClaims s _),
          hs.shrinks hsound hlabelled hgrows (.deleteExpiredClaims s _)⟩
      | granted _ _ hg hu =>
        exact ⟨hlabelled.grants hgrows hg, hs.grants hsound hlabelled hgrows hg hu⟩

/-! ## The claim on a queued run -/

omit [Inspection] in
/-- The history that a claim checks says where the run is queued. -/
theorem ClaimContext.queuedIn {r : PolicyClaimRequest} {w : DefinitionRef}
    {p : CompiledRuntimePolicy} {q : String} {state : ProjectionFoldState}
    (h : ClaimContext fuel clock s r run w p q state) (hq : state.projection.status = .queued)
    {aa : DateTime} (ha : state.projection.admittedAt = some aa) :
    s.QueuedIn q r.runId ⟨aa, state.projection.occurrenceSequence.getD 0, r.runId⟩ := by
  have hf : foldEvents run.events = .ok state.projection :=
    foldEvents_eq_ok.2 ⟨state, fromEvents_of_check h.checked, rfl⟩
  obtain ⟨data, hd⟩ := admission_of_queued hf hq
  obtain ⟨hqu, -, hse⟩ := place_of_admission hd hf
  refine ⟨run, state.projection, h.stored, hf, hq, ?_, ha, ?_, rfl⟩
  · rw [hqu, ← (admission_of_check h.checked hd).2, h.queued]
  · rw [hse]
    rfl

omit [Inspection] in
theorem Indexed.deleteExpiredClaims (hs : Indexed s) (now : DateTime) :
    Indexed (s.deleteExpiredClaims now) :=
  ⟨hs.summaries, hs.bindings, hs.queue, hs.starts⟩

omit [Inspection] in
/-- The search for an eligible run before a place of a queue. -/
theorem earlierEligible_eq_ok (hs : Indexed s) (ha : Admitted s) {q : String} {f : Bool}
    (h : s.earlierEligiblePolicyRunExists q place now = .ok f) :
    f = true ↔ ∃ r p', s.QueuedIn q r p' ∧ r ≠ place.runId ∧
      p'.Before place ∧ s.Eligible now r := by
  simp only [earlierEligiblePolicyRunExists, bind_eq_ok] at h
  obtain ⟨_, _, h⟩ := h
  constructor
  · rintro rfl
    obtain ⟨⟨r, row⟩, hm, he⟩ := exists_of_anyM h
    obtain ⟨hr, rfl, hn, hb⟩ := mem_earlierInQueue.1 hm
    exact ⟨r, row.place r, queuedIn_of_row hs hr, hn, hb, (rowIsEligible_iff hs ha hr).1 he⟩
  · rintro ⟨r, p', hq, hn, hb, he⟩
    obtain ⟨row, hr, hqu, rfl⟩ := row_of_queuedIn hs hq
    cases f with
    | true => rfl
    | false =>
      have hf := anyM_eq_false.1 h (r, row) (mem_earlierInQueue.2 ⟨hr, hqu, hn, hb⟩)
      have ht := (rowIsEligible_iff hs ha hr).2 he
      cases hf.symm.trans ht

omit [Inspection] in
theorem QueuedIn.unique {q q' r : String} {pl place' : QueuePlace} (h : s.QueuedIn q r pl)
    (h' : s.QueuedIn q' r place') : q = q' ∧ pl = place' := by
  obtain ⟨run, p, hr, hf, -, hq, ha, hse, hn⟩ := h
  obtain ⟨run', p', hr', hf', -, hq', ha', hs', hn'⟩ := h'
  cases hr.symm.trans hr'
  cases hf.symm.trans hf'
  cases pl
  cases place'
  simp only [QueuePlace.mk.injEq]
  exact ⟨Option.some.inj (hq.symm.trans hq'), Option.some.inj (ha.symm.trans ha'),
    Option.some.inj (hse.symm.trans hs'), hn.trans hn'.symm⟩

omit [Host] [Inspection] in
/-- A queued run whose workflow has a slot waits for the runs before it. -/
theorem mustWait_queued {ri q wi : String} {pl : CompiledRuntimePolicy} {waits : Bool}
    (h : s.mustWaitForCapacity ri q wi pl p now = .ok waits)
    (hc : s.workflowHasPolicyCapacity wi pl.concurrency = true) (hq : p.status = .queued) :
    ∃ aa, p.admittedAt = some aa ∧
      s.earlierEligiblePolicyRunExists q ⟨aa, p.occurrenceSequence.getD 0, ri⟩ now =
        .ok waits := by
  simp only [mustWaitForCapacity, hc, hq, Bool.not_true, Bool.false_eq_true, if_false, if_true,
    eq_ok_iff] at h
  exact h

/-- **Work-conserving first in, first out.** In every reachable store and at every time: a claim
that starts a run for the first time starts a queued run before which no run of its queue is
eligible; and the claim on an eligible queued run before which none is eligible is not made to
wait. -/
theorem fifo_work_conserving {s : Store} (hs : Reachable fuel clock s)
    (request : PolicyClaimRequest) {answer : PolicyExecutionClaimResult} {s' : Store}
    (h : s.tryClaimPolicyRunAt fuel clock request = .ok (answer, s')) :
    (∀ claim, answer = .claimed claim true → ∃ queue place, s.QueuedIn queue request.runId place ∧
        ∀ r place', s.QueuedIn queue r place' → place'.Before place →
          ¬(s.deleteExpiredClaims request.leaseNow).Eligible request.policyNow r) ∧
      ∀ queue place, s.QueuedIn queue request.runId place →
        (s.deleteExpiredClaims request.leaseNow).Eligible request.policyNow request.runId →
        (∀ r place', s.QueuedIn queue r place' → place'.Before place →
          ¬(s.deleteExpiredClaims request.leaseNow).Eligible request.policyNow r) →
        ∃ claim, answer = .claimed claim true := by
  have hi := hs.sound.indexed.deleteExpiredClaims request.leaseNow
  have ha : Admitted (s.deleteExpiredClaims request.leaseNow) := hs.admitted
  obtain ⟨run, w, policy, queue₀, state, hc, h⟩ := claim_eq_ok h
  have hfo : foldEvents run.events = .ok state.projection :=
    foldEvents_eq_ok.2 ⟨state, fromEvents_of_check hc.checked, rfl⟩
  constructor
  · rintro claim rfl
    split at h
    · obtain ⟨-, ⟨-, h⟩ | ⟨-, h⟩⟩ := h <;> cases h
    obtain ⟨_, h, -⟩ | ⟨h, -⟩ | ⟨claim', h, -, -, hw, -⟩ := claimFreeRun_eq_ok h
    · cases h
    · cases h
    simp only [PolicyExecutionClaimResult.claimed.injEq, Bool.true_eq, Bool.and_eq_true,
      decide_eq_true_eq] at h
    obtain ⟨-, -, hq⟩ := h
    obtain ⟨admittedAt, hat, hse⟩ := mustWait_queued hw (capacity_of_mustWait hw) hq
    have hp := hc.queuedIn hq hat
    refine ⟨queue₀, _, hp, fun r place' hq' hb hel => ?_⟩
    have hn : r ≠ request.runId := by
      rintro rfl
      obtain ⟨-, rfl⟩ := hp.unique hq'
      exact QueuePlace.Before.irrefl _ hb
    have hf := (earlierEligible_eq_ok hi ha hse).2 ⟨r, place', hq', hn, hb, hel⟩
    cases hf
  · intro queue place hq hel he
    obtain ⟨run', p, hr', hf', hst, -⟩ := id hq
    cases hc.stored.symm.trans hr'
    cases hfo.symm.trans hf'
    obtain ⟨run', w', policy', hr', hw', hp', hca, hr⟩ := hel
    cases hc.stored.symm.trans hr'
    cases hc.defined.symm.trans hw'
    cases hc.limited.symm.trans hp'
    split at h
    · -- a queued run has no claim
      rename_i row hro
      exact absurd hst (hs.unqueued.2 _ row run _ (get?_deleteExpiredClaims.1 hro).1 hc.stored hfo)
    · obtain ⟨_, -, -, -, -, h⟩ | ⟨-, -, hw⟩ | ⟨claim, rfl, -⟩ := claimFreeRun_eq_ok h
      · exact absurd (hr.symm.trans h) nofun
      · obtain ⟨admittedAt, hat, hse⟩ := mustWait_queued hw hca hst
        obtain ⟨rfl, rfl⟩ := hq.unique (hc.queuedIn hst hat)
        obtain ⟨r, place', hq', -, hb, hel⟩ := (earlierEligible_eq_ok hi ha hse).1 rfl
        exact absurd hel (he r place' hq' hb)
      · refine ⟨claim, ?_⟩
        rw [startedAt_of_queued (fromEvents_of_check hc.checked) hst, hst]
        rfl

end

end Store

/-! ## Leaving a queue -/

/-- A run that is queued has no claim, and had its place before if it was there. -/
def Store.LeavesQueues [Host] (s s' : Store) : Prop :=
  ∀ queue runId place, s'.QueuedIn queue runId place → s'.claims.get? runId = none ∧
    ∀ run, s.runs.get? runId = some run → s.QueuedIn queue runId place

open Store in
/-- **A run leaves its queue for good.** Whatever the requests, no run that is there is put into a
queue or moved in one. -/
theorem Scheduler.queues_left_for_good [Host] [Inspection] (fuel : Nat) (clock : Nat → DateTime)
    (requests more : List StoreRequest) :
    (run fuel clock requests).store.LeavesQueues (run fuel clock (requests ++ more)).store := by
  rintro queue runId place ⟨new, q, hn, hq, hst, hqu, had, hse, rfl⟩
  refine ⟨Option.eq_none_iff_forall_ne_some.2 fun row hro => ?_, fun old ho => ?_⟩
  · exact (run_reachable _).unqueued.2 _ row new q hro hn hq hst
  · have hs := (@run_reachable _ _ fuel clock requests).sound
    rw [run, List.foldl_append] at hn
    obtain ⟨_, hn', -, -, he⟩ := (grows_foldl more).runs ho
    cases hn.symm.trans hn'
    obtain ⟨p, hp⟩ := hs.folds ho
    obtain ⟨data, hd⟩ := admission_of_queued hq hst
    have hpl := place_of_admission hd hq
    -- the admission is the first event, which both histories have
    rw [StoredRun.admission_of_prefix he (hs.begun ho)] at hd
    obtain ⟨hqu', had', hse'⟩ := place_of_admission hd hp
    refine ⟨old, p, ho, hp, ?_, hqu'.trans (hpl.1.symm.trans hqu),
      had'.trans (hpl.2.1.symm.trans had), hse'.trans (hpl.2.2.symm.trans hse), rfl⟩
    by_contra hno
    exact not_queued_of_prefix he (hs.begun ho) hp hq hno hst

namespace LimitedWorkflow

/-- Two runs are queued, and the claim on the first one is answered with its start. -/
theorem first_run_starts_first :
    ∃ queue place, @Store.QueuedIn host (after 3).store queue "run_a" place ∧
      ∀ r place', @Store.QueuedIn host (after 3).store queue r place' → place'.Before place →
        ¬((after 3).store.deleteExpiredClaims 1).Eligible 1 r := by
  let request : PolicyClaimRequest :=
    { runId := "run_a", ownerId := "x", claimId := "claim_a", leaseNow := 1, policyNow := 1
      leaseDuration := 1000, eventId := fun index => "claim_a:" ++ toString index }
  obtain ⟨⟨_, s'⟩, h, hcl⟩ : ∃ a, @Store.tryClaimPolicyRunAt (after 3).store host inspection 1
      (fun _ => 0) request = .ok a ∧
      a.1 = .claimed ⟨"run_a", "orders", "x", "claim_a", 1, 1001⟩ true := by decide +kernel
  exact (@Store.fifo_work_conserving host inspection 1 (fun _ => 0) _
    (@Scheduler.run_reachable host inspection 1 (fun _ => 0) _) request _ s' h).1 _ hcl

end LimitedWorkflow

end Woml
