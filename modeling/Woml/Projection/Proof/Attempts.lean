import Woml.Event.Proof.Inheritance
import Woml.Projection.Proof.Run

/-!
# The attempts of a node

From Event v6 on the top-level attempts of a node form one chain: `AttemptsOrdered` says how they
are numbered, keyed and settled and what a pending retry knows of them. `apply_attemptStep` inverts
one fold step from the view of one node, and `attempts_ordered` runs the invariant over every
accepted history.
-/

namespace Woml

open Checked RunProjection SortedMap

/-! ## The attempts of one node -/

/-- The top-level attempts of a node, in the order in which they started. -/
def RunProjection.attemptsOf (p : RunProjection) (nodeId : String) : List AttemptProjection :=
  p.attempts.filter (·.identity.nodeId = nodeId)

theorem RunProjection.latestAttempt_eq (p : RunProjection) (ni : String) :
    p.latestAttempt ni = (p.attemptsOf ni).getLast? := by
  rw [latestAttempt, attemptsOf, List.getLast?_eq_head?_reverse, ← List.filter_reverse,
    List.head?_filter]

/-- How the attempts of a node stand. -/
structure AttemptsOrdered (p : RunProjection) (nodeId : String) : Prop where
  numbered : (p.attemptsOf nodeId).map (·.identity.attempt) =
    List.range' 1 (p.attemptsOf nodeId).length
  distinct : ((p.attemptsOf nodeId).map (·.identity.invocationId)).Nodup
  key : ∃ key, ∀ a ∈ p.attemptsOf nodeId, a.idempotencyKey = some key
  earlierFailed : ∀ a ∈ (p.attemptsOf nodeId).dropLast, a.status.isFailed = true
  retry : ∀ r, p.pendingRetries.get? nodeId = some r → ∃ a,
    (p.attemptsOf nodeId).getLast? = some a ∧ a.status.isFailed = true ∧ r.nodeId = nodeId ∧
      r.failedAttempt = a.identity.attempt ∧ r.nextAttempt = a.identity.attempt + 1

/-- A first attempt starts without a schedule, a later one on or after its own. -/
def StartsOnTime (p : RunProjection) (event : RunEvent) (data : StepAttemptStartedData) : Prop :=
  match p.pendingRetries.get? data.nodeId with
  | none => data.attempt = 1
  | some r => r.nextAttempt = data.attempt ∧ r.scheduledAt ≤ event.occurredAt

/-- What the order test asks, in terms of the attempts of the node. -/
structure FollowsLast (p : RunProjection) (event : RunEvent) (data : StepAttemptStartedData) :
    Prop where
  attempt : data.attempt = (p.attemptsOf data.nodeId).getLast?.elim 1 (·.identity.attempt + 1)
  key : ∀ first ∈ (p.attemptsOf data.nodeId).head?, ∀ key, first.idempotencyKey = some key →
    data.idempotencyKey = some key
  failed : ∀ last ∈ (p.attemptsOf data.nodeId).getLast?, last.status.isFailed = true
  onTime : StartsOnTime p event data

variable {data : StepAttemptStartedData} {events : List RunEvent} {event : RunEvent}
  {s : ProjectionFoldState}

/-- The order test, without its errors: the number and the key fit, and a retry is due or there is
nothing to retry. -/
theorem order_cases {p : RunProjection}
    (h : requireAttemptOrder p.attempts p.pendingRetries event data = .ok ()) :
    data.attempt = (p.latestAttempt data.nodeId).elim 1 (·.identity.attempt + 1) ∧
    (∀ key, (p.attempts.find? (·.identity.nodeId = data.nodeId)).bind (·.idempotencyKey) = some key →
      data.idempotencyKey = some key) ∧
    ((p.latestAttempt data.nodeId = none ∧ p.pendingRetries.get? data.nodeId = none) ∨
      ∃ last r, p.latestAttempt data.nodeId = some last ∧
        p.pendingRetries.get? data.nodeId = some r ∧ last.status.isFailed = true ∧
        r.nextAttempt = data.attempt ∧ r.scheduledAt ≤ event.occurredAt) := by
  simp only [requireAttemptOrder, eq_ok_iff, not_not] at h
  obtain ⟨_, ha, h⟩ := h
  refine ⟨ha, ?_⟩
  have hl : p.latestAttempt data.nodeId =
    p.attempts.reverse.find? (·.identity.nodeId = data.nodeId) := rfl
  rw [hl]
  revert h
  cases (p.attempts.find? (·.identity.nodeId = data.nodeId)).bind (·.idempotencyKey) <;>
    cases p.attempts.reverse.find? (·.identity.nodeId = data.nodeId) <;>
    cases p.pendingRetries.get? data.nodeId <;> intro h <;>
    simp only [ok_bind, eq_ok_iff, not_not, reduceCtorEq, and_false, exists_false] at h
  case none.none.none => exact ⟨by simp, .inl ⟨rfl, rfl⟩⟩
  case some.none.none => exact ⟨fun _ hk => hk ▸ h.choose_spec.1, .inl ⟨rfl, rfl⟩⟩
  case none.some.some last r =>
    split at h
    · rename_i hd
      exact ⟨by simp, .inr ⟨last, r, rfl, rfl, hd.1, hd.2.2.1, hd.2.2.2⟩⟩
    · split at h <;> cases h
  case some.some.some last r =>
    obtain ⟨_, hk, h⟩ := h
    split at h
    · rename_i hd
      exact ⟨fun _ he => he ▸ hk, .inr ⟨last, r, rfl, rfl, hd.1, hd.2.2.1, hd.2.2.2⟩⟩
    · split at h <;> cases h

theorem followsLast_of_order {p : RunProjection}
    (h : requireAttemptOrder p.attempts p.pendingRetries event data = .ok ()) :
    FollowsLast p event data := by
  obtain ⟨ha, hk, hd⟩ := order_cases h
  rw [latestAttempt_eq] at ha hd
  refine ⟨ha, fun first hfs key he => hk key ?_, fun last hl => ?_, ?_⟩
  · rw [attemptsOf, List.head?_filter] at hfs
    rw [hfs, Option.bind_some, he]
  · rcases hd with ⟨hn, -⟩ | ⟨l', r, hl', -, hf, -⟩
    · rw [hn] at hl; cases hl
    · rw [hl] at hl'; cases hl'; exact hf
  · rw [StartsOnTime]
    rcases hd with ⟨hn, hr⟩ | ⟨last, r, -, hr, -, hne, ht⟩
    · rw [hr]; rw [hn] at ha; exact ha
    · rw [hr]; exact ⟨hne, ht⟩

/-- The node whose attempts an event of the run itself concerns. -/
def attemptNode (event : RunEvent) : Option String :=
  if event.iteration.isSome then none
  else
    match event.payload with
    | .stepAttemptStarted data => some data.nodeId
    | .stepAttemptSucceeded data => some data.nodeId
    | .stepAttemptFailed data => some data.nodeId
    | .stepRetryScheduled data => some data.nodeId
    | _ => none

/-- The event gives the attempt in flight of the node its last status. -/
inductive SettlesAs (event : RunEvent) (nodeId : String) : AttemptStatus → Prop
  | succeeded (data : StepAttemptSucceededData) (payload_eq : event.payload = .stepAttemptSucceeded data)
      (target : data.nodeId = nodeId) : SettlesAs event nodeId (.succeeded data.output)
  | failed (data : StepAttemptFailedData) (payload_eq : event.payload = .stepAttemptFailed data)
      (target : data.nodeId = nodeId) : SettlesAs event nodeId (.failed data.failure)

/-- What an event does to the attempts of a node. -/
inductive AttemptStep (event : RunEvent) (nodeId : String) (p q : RunProjection) : Prop
  | kept (quiet : attemptNode event ≠ some nodeId)
      (attempts : q.attemptsOf nodeId = p.attemptsOf nodeId)
      (retries : q.pendingRetries.get? nodeId = p.pendingRetries.get? nodeId ∨
        q.pendingRetries.get? nodeId = none ∧ q.status = .failed ∧
          ∃ data, event.payload = .runFailed data)
  | started (concerns : attemptNode event = some nodeId) (data : StepAttemptStartedData)
      (payload_eq : event.payload = .stepAttemptStarted data) (target : data.nodeId = nodeId)
      (attempts : q.attemptsOf nodeId = p.attemptsOf nodeId ++ [startedAttempt data])
      (unused : ∀ a ∈ p.attempts, a.identity.invocationId ≠ data.invocationId)
      (idle : ∀ last ∈ (p.attemptsOf nodeId).getLast?, last.status.isStarted = false)
      (follows : 6 ≤ event.eventSchemaVersion →
        FollowsLast p event data ∧ q.pendingRetries.get? nodeId = none)
      (early : event.eventSchemaVersion < 6 → q.pendingRetries = p.pendingRetries)
  | settled (concerns : attemptNode event = some nodeId) (xs ys : List AttemptProjection)
      (a : AttemptProjection) (status : AttemptStatus)
      (outcome : SettlesAs event nodeId status)
      (before : p.attemptsOf nodeId = xs ++ a :: ys) (inFlight : a.status.isStarted = true)
      (after : q.attemptsOf nodeId = xs ++ { a with status } :: ys)
      (retries : q.pendingRetries = p.pendingRetries)
  | scheduled (concerns : attemptNode event = some nodeId) (data : StepRetryScheduledData)
      (last : AttemptProjection)
      (payload_eq : event.payload = .stepRetryScheduled data) (target : data.nodeId = nodeId)
      (running : p.status = .running) (attempts : q.attemptsOf nodeId = p.attemptsOf nodeId)
      (retries : q.pendingRetries.get? nodeId = some (retrySchedule data))
      (isLast : (p.attemptsOf nodeId).getLast? = some last)
      (failed : last.status.isFailed = true)
      (names : data.failedAttempt = last.identity.attempt ∧
        data.nextAttempt = data.failedAttempt + 1)

/-! ## One step -/

section
variable {p q : RunProjection}

theorem AttemptStep.of_eq {ni : String} (hq : attemptNode event ≠ some ni)
    (ha : q.attempts = p.attempts) (hr : q.pendingRetries = p.pendingRetries) :
    AttemptStep event ni p q :=
  .kept hq (by rw [RunProjection.attemptsOf, RunProjection.attemptsOf, ha])
    (.inl (by rw [hr]))

theorem AttemptStep.withSequence {ni : String} (h : AttemptStep event ni p q) (n : Nat) :
    AttemptStep event ni p { q with lastSequence := n } := by
  cases h with
  | kept quiet attempts retries => exact .kept quiet attempts retries
  | started cs data payload_eq t attempts u idle follows e =>
    exact .started cs data payload_eq t attempts u idle follows e
  | settled cs xs ys a status outcome before i after retries =>
    exact .settled cs xs ys a status outcome before i after retries
  | scheduled cs data last payload_eq t running attempts retries il failed ns =>
    exact .scheduled cs data last payload_eq t running attempts retries il failed ns

/-- From Event v6 on the start of an attempt passes the order test and takes its schedule. -/
theorem order_of_retriesAfterStart {rs : SortedMap String RetryScheduleProjection}
    (hr : retriesAfterStart p event data = .ok rs) (hv : 6 ≤ event.eventSchemaVersion) :
    requireAttemptOrder p.attempts p.pendingRetries event data = .ok () ∧
      rs = p.pendingRetries.erase data.nodeId := by
  simp only [retriesAfterStart, hv, if_true, eq_ok_iff] at hr
  obtain ⟨_, ho, rfl⟩ := hr
  exact ⟨ho, rfl⟩

theorem retriesAfterStart_early {rs : SortedMap String RetryScheduleProjection}
    (hr : retriesAfterStart p event data = .ok rs)
    (hv : event.eventSchemaVersion < 6) : rs = p.pendingRetries := by
  rw [retriesAfterStart, if_neg (by omega)] at hr
  cases hr
  rfl

theorem attemptStep_started {ins : AttemptIndexes} (hp : event.payload = .stepAttemptStarted data)
    (hun : event.iteration = none) (h : applyStepAttemptStarted p event data ins = .ok q)
    (ni : String) : AttemptStep event ni p q := by
  simp only [applyStepAttemptStarted, eq_ok_iff] at h
  obtain ⟨_, -, _, hu, _, hi, retries, hr, _, -, rfl⟩ := h
  have hu' : ∀ a ∈ p.attempts, a.identity.invocationId ≠ data.invocationId := by
    intro a ha heq
    exact hu (List.any_eq_true.2 ⟨a, ha, by simpa using heq⟩)
  have her := order_of_retriesAfterStart hr
  have he := retriesAfterStart_early hr
  by_cases hn : data.nodeId = ni
  · subst hn
    refine .started (by simp [attemptNode, hun, hp]) data hp rfl ?_ hu'
      (fun last hl => ?_) (fun hv => ?_) he
    · simp [attemptsOf, startedAttempt]
    · rw [latestAttempt_eq, Option.mem_def.1 hl] at hi
      simpa using hi
    · obtain ⟨ho, rfl⟩ := her hv
      exact ⟨followsLast_of_order ho, get?_erase_self _ _⟩
  · refine .kept ?_ ?_ (.inl ?_)
    · simpa [attemptNode, hun, hp] using hn
    · simp [attemptsOf, startedAttempt, hn]
    · by_cases hv : 6 ≤ event.eventSchemaVersion
      · obtain ⟨-, rfl⟩ := her hv
        exact get?_erase_ne _ (Ne.symm hn)
      · rw [he (by omega)]

/-- Setting the status of an attempt in flight changes the attempts of its node there. -/
theorem attemptStep_settled (hs : s.Bookkeeping events) {key : AttemptIdentity}
    {verb o : String} {i : Nat} {status : AttemptStatus}
    (hix : settlingAttempt s.projection s.attemptIndexes key verb o = .ok i)
    (hn : attemptNode event = some key.nodeId) (hse : SettlesAs event key.nodeId status)
    (hat : q.attempts = setAttemptStatus s.projection.attempts i status)
    (hr : q.pendingRetries = s.projection.pendingRetries) (ni : String) :
    AttemptStep event ni s.projection q := by
  have hi := ProjectionFoldState.settlingAttempt_identity hs hix
  simp only [settlingAttempt, eq_ok_iff] at hix
  obtain ⟨_, -, _, -, _, hst, rfl⟩ := hix
  rename_i i _
  rw [List.getElem?_map] at hi
  obtain ⟨a, ha, hk⟩ := Option.map_eq_some_iff.1 hi
  have hf : a.status.isStarted = true := by simpa [ha] using hst
  obtain ⟨xs, ys, hb, haf⟩ : ∃ xs ys, s.projection.attempts = xs ++ a :: ys ∧
      q.attempts = xs ++ { a with status } :: ys := by
    obtain ⟨hl, rfl⟩ := List.getElem?_eq_some_iff.1 ha
    refine ⟨s.projection.attempts.take i, s.projection.attempts.drop (i + 1), ?_, ?_⟩
    · rw [List.getElem_cons_drop, List.take_append_drop]
    · rw [hat, setAttemptStatus, List.modify_eq_take_cons_drop hl]
  by_cases hid : key.nodeId = ni
  · subst hid
    refine .settled hn (xs.filter (·.identity.nodeId = key.nodeId))
      (ys.filter (·.identity.nodeId = key.nodeId)) a status hse ?_ hf ?_ hr
    · simp [RunProjection.attemptsOf, hb, hk]
    · simp [RunProjection.attemptsOf, haf, hk]
  · refine .kept ?_ ?_ (.inl (by rw [hr]))
    · rw [hn]
      exact fun he => hid (Option.some.inj he)
    · simp [RunProjection.attemptsOf, hb, haf, hk, hid]

theorem failed_of_runFailed (p : RunProjection) (data : RunFailedData) (ins : AttemptIndexes) :
    Ensures (fun q => q.pendingRetries = .empty ∧ q.status = .failed)
      (applyRunFailed p data ins) := by
  refine Ensures.bind fun _ _ => ?_
  split <;> exact Ensures.bind fun _ _ => Ensures.bind fun _ _ => .ok ⟨rfl, rfl⟩

theorem attemptStep_scheduled {data : StepRetryScheduledData} {ps : Option RunEvent}
    (hp : event.payload = .stepRetryScheduled data) (hu : event.iteration = none)
    (h : applyStepRetryScheduled p data ps = .ok q) (ni : String) : AttemptStep event ni p q := by
  simp only [applyStepRetryScheduled, eq_ok_iff, not_or, Bool.not_eq_true', Bool.not_eq_false,
    requireRunning_eq_ok] at h
  obtain ⟨_, hr, _, ⟨-, hla, hne, -⟩, rfl⟩ := h
  by_cases hn : data.nodeId = ni
  · subst hn
    rw [latestAttempt_eq, Option.any_eq_true] at hla
    obtain ⟨last, hl, hm⟩ := hla
    simp only [Bool.and_eq_true, decide_eq_true_eq] at hm
    exact .scheduled (by simp [attemptNode, hu, hp]) data last hp rfl hr rfl
      (get?_insert_self _ _ _) hl hm.2 ⟨hm.1.symm, not_not.1 hne⟩
  · refine .kept ?_ rfl (.inl (get?_insert_ne _ (Ne.symm hn) _))
    simpa [attemptNode, hu, hp] using hn

end

namespace ProjectionFoldState

/-- **What an event does to the attempts of a node.** -/
theorem apply_attemptStep [Host] {s s' : ProjectionFoldState} (hs : s.Bookkeeping events)
    (h : s.apply event = .ok s') (ni : String) :
    AttemptStep event ni s.projection s'.projection := by
  have hk := apply_keeps h
  by_cases ht : Slice.attempts ∈ touched event ∨ Slice.retries ∈ touched event
  · obtain ⟨-, p, hp, rfl⟩ := apply_eq_ok.1 h
    cases hsc : isIterationScoped event with
    | true => simp [touched, hsc] at ht
    | false =>
      have hu : isTopLevelScopedEvent event.payload = false → event.iteration = none := by
        intro hto
        simpa [isIterationScoped, hto] using hsc
      simp only [touched, hsc] at ht
      simp only [handle, hsc, Bool.false_eq_true, if_false] at hp
      -- five handlers touch the attempts or the retries
      cases hpa : event.payload with
      | stepAttemptStarted data =>
        rw [applyPayload, hpa] at hp
        exact (attemptStep_started hpa (hu (by rw [hpa]; rfl)) hp ni).withSequence _
      | stepAttemptSucceeded data =>
        have hn := hu (by rw [hpa]; rfl)
        simp only [applyPayload, hpa, applyStepAttemptSucceeded, eq_ok_iff] at hp
        obtain ⟨_, -, index, hi, _, -, hq⟩ := hp
        exact (attemptStep_settled hs hi (by simp [attemptNode, hn, hpa])
          (.succeeded data hpa rfl) (by rw [← hq]) (by rw [← hq]) ni).withSequence _
      | stepAttemptFailed data =>
        have hn := hu (by rw [hpa]; rfl)
        simp only [applyPayload, hpa, applyStepAttemptFailed, eq_ok_iff] at hp
        obtain ⟨_, -, index, hi, hq⟩ := hp
        exact (attemptStep_settled hs hi (by simp [attemptNode, hn, hpa])
          (.failed data hpa rfl) (by rw [← hq]) (by rw [← hq]) ni).withSequence _
      | stepRetryScheduled data =>
        rw [applyPayload, hpa] at hp
        exact (attemptStep_scheduled hpa (hu (by rw [hpa]; rfl)) hp ni).withSequence _
      | runFailed data =>
        have ha := hk .attempts (by simp [touched, hsc, hpa, footprint])
        obtain ⟨hr, hst⟩ : p.pendingRetries = .empty ∧ p.status = .failed := by
          rw [applyPayload, hpa] at hp
          exact failed_of_runFailed _ _ _ p hp
        refine .kept (by simp [attemptNode, hpa]) ?_ (.inr ⟨?_, hst, data, hpa⟩)
        · rw [attemptsOf, attemptsOf, ha]
        · simp [next, hr]
      | _ => rw [hpa] at ht; simp [footprint] at ht
  · rw [not_or] at ht
    refine .of_eq ?_ (hk .attempts ht.1) (hk .retries ht.2)
    -- an event that concerns the attempts of a node touches them or the retries
    unfold attemptNode
    split
    · rintro ⟨⟩
    · rename_i hn
      have hsc : isIterationScoped event = false := by
        rw [isIterationScoped, Bool.eq_false_iff.2 hn, Bool.false_and]
      simp only [touched, hsc, Bool.false_eq_true] at ht
      cases hpa : event.payload <;> rw [hpa] at ht <;>
        first | (simp [footprint] at ht; done) | rintro ⟨⟩

end ProjectionFoldState

/-! ## The invariant -/

section
variable {p q : RunProjection} {nodeId : String}

theorem attemptsOrdered_initial (nodeId : String) : AttemptsOrdered .initial nodeId := by
  have hn : RunProjection.initial.attemptsOf nodeId = [] := rfl
  refine ⟨by rw [hn]; rfl, by rw [hn]; exact .nil, ⟨"", ?_⟩, ?_, fun r hr => ?_⟩
  · rw [hn]; exact fun a ha => absurd ha List.not_mem_nil
  · rw [hn]; exact fun a ha => absurd ha List.not_mem_nil
  · cases hr

theorem AttemptsOrdered.last_attempt (h : AttemptsOrdered p nodeId) :
    (p.attemptsOf nodeId).getLast?.elim 1 (·.identity.attempt + 1) =
      (p.attemptsOf nodeId).length + 1 := by
  cases hl : (p.attemptsOf nodeId).getLast? with
  | none => simp [List.getLast?_eq_none_iff.1 hl]
  | some a =>
    have ha : ((p.attemptsOf nodeId).map (·.identity.attempt)).getLast? =
        some a.identity.attempt := by rw [List.getLast?_map, hl]; rfl
    rw [h.numbered, List.getLast?_range'] at ha
    split at ha
    · cases ha
    · simp only [Option.some.injEq] at ha
      simp only [Option.elim_some]
      omega

theorem AttemptsOrdered.start (h : AttemptsOrdered p nodeId) (hn : data.nodeId = nodeId)
    (hk : ∃ key, data.idempotencyKey = some key)
    (hu : ∀ a ∈ p.attempts, a.identity.invocationId ≠ data.invocationId)
    (hf : FollowsLast p event data)
    (hat : q.attemptsOf nodeId = p.attemptsOf nodeId ++ [startedAttempt data])
    (hr : q.pendingRetries.get? nodeId = none) : AttemptsOrdered q nodeId := by
  subst hn
  refine ⟨?_, ?_, ?_, ?_, by rw [hr]; nofun⟩
  · have hatt := hf.attempt
    rw [h.last_attempt] at hatt
    rw [hat, List.map_append, h.numbered, List.length_append, List.length_singleton,
      List.range'_concat]
    simp only [List.map_cons, List.map_nil, startedAttempt, hatt]
    rw [Nat.one_mul, Nat.add_comm]
  · rw [hat, List.map_append, List.nodup_append]
    refine ⟨h.distinct, List.nodup_singleton _, fun i hi j hj => ?_⟩
    obtain ⟨a, ha, rfl⟩ := List.mem_map.1 hi
    cases List.mem_singleton.1 hj
    exact hu a (List.mem_of_mem_filter ha)
  · rw [hat]
    cases hfs : (p.attemptsOf data.nodeId).head? with
    | none =>
      obtain ⟨key, hk⟩ := hk
      rw [List.head?_eq_none_iff.1 hfs]
      exact ⟨key, fun a ha => by cases List.mem_singleton.1 ha; exact hk⟩
    | some first =>
      obtain ⟨key, hal⟩ := h.key
      refine ⟨key, fun a ha => ?_⟩
      rcases List.mem_append.1 ha with ha | ha
      · exact hal a ha
      · cases List.mem_singleton.1 ha
        exact hf.key first hfs key (hal first (List.mem_of_head? hfs))
  · -- the last attempt so far has failed, and so have the earlier ones
    rw [hat, List.dropLast_concat]
    intro a ha
    cases hl : (p.attemptsOf data.nodeId).getLast? with
    | none => simp [List.getLast?_eq_none_iff.1 hl] at ha
    | some last =>
      rw [← List.dropLast_append_getLast? last hl] at ha
      rcases List.mem_append.1 ha with ha | ha
      · exact h.earlierFailed a ha
      · cases List.mem_singleton.1 ha
        exact hf.failed a hl

/-- Only the last attempt is in flight, and no retry of it is pending. -/
theorem AttemptsOrdered.settle {xs ys : List AttemptProjection} {a : AttemptProjection}
    {status : AttemptStatus} (h : AttemptsOrdered p nodeId)
    (hbe : p.attemptsOf nodeId = xs ++ a :: ys) (hfl : a.status.isStarted = true)
    (ha : q.attemptsOf nodeId = xs ++ { a with status } :: ys)
    (hre : q.pendingRetries = p.pendingRetries) : AttemptsOrdered q nodeId := by
  have hn : a.status.isFailed = false := by
    cases hs : a.status <;> simp [hs, AttemptStatus.isFailed] at hfl ⊢
  have hy : ys = [] := by
    by_contra hne
    have hm : a ∈ (p.attemptsOf nodeId).dropLast := by
      rw [hbe, List.dropLast_append_cons, List.dropLast_cons_of_ne_nil hne]
      simp
    rw [h.earlierFailed a hm] at hn
    cases hn
  subst hy
  have hnu := h.numbered
  have hd := h.distinct
  obtain ⟨key, hk⟩ := h.key
  have he := h.earlierFailed
  rw [hbe] at hnu hd hk he
  refine ⟨?_, ?_, ⟨key, ?_⟩, ?_, fun r hr => ?_⟩
  · rw [ha]; simpa using hnu
  · rw [ha]; simpa using hd
  · rw [ha]
    intro b hb
    rcases List.mem_append.1 hb with hb | hb
    · exact hk b (List.mem_append_left _ hb)
    · cases List.mem_singleton.1 hb
      exact hk a (List.mem_append_right _ List.mem_cons_self)
  · rw [ha, List.dropLast_concat]
    rwa [List.dropLast_concat] at he
  · rw [hre] at hr
    obtain ⟨last, hl, hf, -⟩ := h.retry r hr
    rw [hbe, List.getLast?_concat] at hl
    cases hl
    rw [hf] at hn
    cases hn

/-- The attempts stay, and a pending retry is one of the last of them. -/
theorem AttemptsOrdered.keep (h : AttemptsOrdered p nodeId)
    (ha : q.attemptsOf nodeId = p.attemptsOf nodeId)
    (hr : ∀ r, q.pendingRetries.get? nodeId = some r → ∃ a,
      (p.attemptsOf nodeId).getLast? = some a ∧ a.status.isFailed = true ∧ r.nodeId = nodeId ∧
        r.failedAttempt = a.identity.attempt ∧ r.nextAttempt = a.identity.attempt + 1) :
    AttemptsOrdered q nodeId := by
  rw [← ha] at hr
  exact ⟨ha ▸ h.numbered, ha ▸ h.distinct, ha ▸ h.key, ha ▸ h.earlierFailed, hr⟩

theorem AttemptsOrdered.step (h : AttemptsOrdered p nodeId) (hv : 6 ≤ event.eventSchemaVersion)
    (hk : ∀ data, event.payload = .stepAttemptStarted data → ∃ key, data.idempotencyKey = some key)
    (hst : AttemptStep event nodeId p q) : AttemptsOrdered q nodeId := by
  cases hst with
  | kept _ attempts retries =>
    refine h.keep attempts fun r hr => ?_
    rcases retries with hs | ⟨hn, -⟩
    · exact h.retry r (hs ▸ hr)
    · rw [hn] at hr
      cases hr
  | started _ data payload_eq t attempts u _ follows =>
    obtain ⟨hf, hre⟩ := follows hv
    exact h.start t (hk data payload_eq) u hf attempts hre
  | settled _ xs ys a status _ before i after retries =>
    exact h.settle before i after retries
  | scheduled _ data last _ t _ attempts retries il failed ns =>
    refine h.keep attempts fun r hr => ?_
    rw [retries] at hr
    cases hr
    exact ⟨last, il, failed, t, ns.1, by rw [retrySchedule, ns.2, ns.1]⟩

end

namespace ProjectionFoldState

theorem attemptsOrdered_of_fold [Host] (h : fromEvents events = .ok s)
    (hve : ∀ event ∈ events, 6 ≤ event.eventSchemaVersion) (nodeId : String) :
    AttemptsOrdered s.projection nodeId := by
  refine fromEvents_induction (P := fun events s =>
    (∀ event ∈ events, 6 ≤ event.eventSchemaVersion) → AttemptsOrdered s.projection nodeId)
    (fun _ => attemptsOrdered_initial nodeId) ?_ h hve
  intro events s event s' hs ih hap ha
  have hsi := ha event (by simp)
  have hv := (admitted_of_ok (apply_eq_ok.1 hap).1).valid
  exact (ih fun e he => ha e (by simp [he])).step hsi
    (fun _ hp => key_of_validate hv hsi hp) (apply_attemptStep (bookkeeping hs) hap nodeId)

/-- A retry is pending in a run of Event v6 or later only. -/
theorem version_of_retry [Host] {ni : String} {r : RetryScheduleProjection}
    (h : fromEvents events = .ok s) (hre : s.projection.pendingRetries.get? ni = some r) :
    ∃ version, s.projection.eventSchemaVersion = some version ∧ 6 ≤ version := by
  refine fromEvents_induction (P := fun _ s => ∀ r, s.projection.pendingRetries.get? ni = some r →
      ∃ version, s.projection.eventSchemaVersion = some version ∧ 6 ≤ version) ?_ ?_ h r hre
  · intro r hr
    cases hr
  · intro events s event s' hs ih ha r hr
    have hk : (∃ version, s.projection.eventSchemaVersion = some version ∧ 6 ≤ version) →
        ∃ version, s'.projection.eventSchemaVersion = some version ∧ 6 ≤ version := by
      rintro ⟨version, hv, hsi⟩
      exact ⟨version, version_kept ha hv, hsi⟩
    apply hk
    have had := admitted_of_ok (apply_eq_ok.1 ha).1
    cases apply_attemptStep (bookkeeping hs) ha ni with
    | kept _ _ retries =>
      rcases retries with hsa | ⟨hn, -⟩
      · exact ih r (hsa ▸ hr)
      · rw [hn] at hr
        cases hr
    | started _ data _ _ _ _ _ follows e =>
      by_cases hv : 6 ≤ event.eventSchemaVersion
      · rw [(follows hv).2] at hr
        cases hr
      · exact ih r (e (by omega) ▸ hr)
    | settled _ _ _ _ _ _ _ _ _ retries => exact ih r (retries ▸ hr)
    | scheduled _ data _ payload_eq _ running =>
      cases hv : s.projection.eventSchemaVersion with
      | none =>
        obtain ⟨n, ho, hb⟩ := unstarted_of_unversioned hs hv
        rw [hb] at running
        cases running
      | some version =>
        have hsa := had.sameVersion version hv
        exact ⟨version, rfl, hsa ▸ six_of_retry had.valid payload_eq⟩

/-- A top-level attempt starts when its schedule is due. -/
theorem startsOnTime_of_apply [Host] {t t' : ProjectionFoldState} (ha : t.apply event = .ok t')
    (hs : isIterationScoped event = false) (hpa : event.payload = .stepAttemptStarted data)
    (hv : 6 ≤ event.eventSchemaVersion) : StartsOnTime t.projection event data := by
  obtain ⟨p, hp, -⟩ := handler_of_top ha hs
  simp only [applyPayload, hpa, applyStepAttemptStarted, bind_eq_ok] at hp
  obtain ⟨_, -, _, -, _, -, retries, hr, -⟩ := hp
  exact (followsLast_of_order (order_of_retriesAfterStart hr hv).1).onTime

/-- **The attempts of every node of an accepted history are ordered.** They are numbered from one
under one key, all but the last have failed, a retry is pending only for the last one; every one
starts on time; and the private index is the list of identities. -/
theorem attempts_ordered [Host] {events : List RunEvent} {s : ProjectionFoldState}
    (h : fromEvents events = .ok s) (hversion : ∀ event ∈ events, 6 ≤ event.eventSchemaVersion) :
    (∀ nodeId, AttemptsOrdered s.projection nodeId) ∧
    (∀ n event data t, events[n]? = some event → isIterationScoped event = false →
      event.payload = .stepAttemptStarted data → fromEvents (events.take n) = .ok t →
      StartsOnTime t.projection event data) ∧
    (∀ key i, s.attemptIndexes.lookup key = some i ↔
      (s.projection.attempts.map (·.identity))[i]? = some key) := by
  refine ⟨attemptsOrdered_of_fold h hversion, fun n event data t hn hs hp ht => ?_,
    fun key i => ⟨(bookkeeping h).indexed key i, (bookkeeping h).located key i⟩⟩
  obtain ⟨t₀, t', ht₀, -, ha⟩ := apply_at h hn
  cases ht.symm.trans ht₀
  exact startsOnTime_of_apply ha hs hp (hversion event (List.mem_of_getElem? hn))

/-! ### A retried step

The first attempt of a step throws, and the second one starts when its schedule is due. -/

def retryEvent (sequence : Nat) (eventId : String) (payload : RunEventPayload) : RunEvent :=
  { eventSchemaVersion := 17, eventId, runId := "run", sequence, occurredAt := 0, payload }

def retryHash : String :=
  "sha256:0000000000000000000000000000000000000000000000000000000000000000"

def retryHistory : List RunEvent :=
  [retryEvent 1 "e1" (.runAdmitted
      { definitionHash := retryHash, policyHash := retryHash
        trigger := ⟨"manual", "trigger.manual"⟩, payload := []
        queue := ⟨"default", .workConservingFifo⟩, admittedAt := 0, occurrenceSequence := 1 }),
    retryEvent 2 "e2" (.runExecutionStarted ⟨0, none⟩),
    retryEvent 3 "e3" (.stepAttemptStarted ⟨"step", 1, "i1", "runtime.script", some retryHash⟩),
    retryEvent 4 "e4" (.stepAttemptFailed ⟨"step", 1, "i1",
      { kind := .scriptThrew, code := "WOML_SCRIPT_THROWN", message := "thrown" }⟩),
    retryEvent 5 "e5" (.stepRetryScheduled ⟨"step", 1, 2, 0⟩),
    retryEvent 6 "e6" (.stepAttemptStarted ⟨"step", 2, "i2", "runtime.script", some retryHash⟩)]

theorem retried_attempts_ordered : ∃ s, @fromEvents default retryHistory = .ok s ∧
    s.projection.attempts.length = 2 ∧ ∀ nodeId, AttemptsOrdered s.projection nodeId := by
  obtain ⟨s, hs, hl⟩ : ∃ s, @fromEvents default retryHistory = .ok s ∧
      s.projection.attempts.length = 2 := by decide +kernel
  exact ⟨s, hs, hl, (@attempts_ordered default _ s hs (by decide)).1⟩

end ProjectionFoldState

end Woml
