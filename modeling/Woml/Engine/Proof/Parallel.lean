import Woml.Engine.Proof.Settling

/-!
# Parallel groups

The check of a history keeps the states of the children of parallel groups beside the fold.
`Coupled` says that for a child that is not a durable wait this state is the one of its latest
folded attempt; `parallel_disciplined` derives from it that a group stays within its cap and
publishes the outcomes of its children. A durable wait as a child is registered without a look at
its group.
-/

namespace Woml

open Checked ProjectionFoldState HistoryCheck CompiledWorkflowDefinition

/-! ## What a turn does to a child -/

/-- The state that an event of the run gives a step, if it gives it one. -/
def childEvent (event : RunEvent) (nodeId : String) : Option ParallelChildState :=
  if event.iteration.isSome then none
  else
    match event.payload with
    | .stepAttemptStarted data => if data.nodeId = nodeId then some .active else none
    | .stepAttemptSucceeded data => if data.nodeId = nodeId then some .succeeded else none
    | .stepAttemptFailed data =>
      if data.nodeId = nodeId then some (.failed data.failure.kind) else none
    | .stepRetryScheduled data => if data.nodeId = nodeId then some .retryPending else none
    | _ => none

/-- The node of the durable wait that an event of the run concerns. -/
def waitNode (w : CompiledWorkflowDefinition) (event : RunEvent) : Option String :=
  if event.iteration.isSome then none
  else
    match event.payload with
    | .waitRegistered data => some data.nodeId
    | .waitSatisfied data => (w.durableWait data.waitId).map (·.nodeId)
    | .waitTimedOut data => (w.durableWait data.waitId).map (·.nodeId)
    | .waitCancelled data => (w.durableWait data.waitId).map (·.nodeId)
    | _ => none

/-- The state that an event of a durable wait gives its node. -/
def waitState : RunEventPayload → Option ParallelChildState
  | .waitRegistered _ => some .active
  | .waitSatisfied _ => some .succeeded
  | .waitTimedOut data =>
    some (if data.behavior = .continue then .succeeded else .failed .serviceFailed)
  | .waitCancelled _ => some (.failed .invocationCancelled)
  | _ => none

/-- The state that an event of the run gives a node, as a step or as a durable wait. -/
def childReport (w : CompiledWorkflowDefinition) (event : RunEvent) (nodeId : String) :
    Option ParallelChildState :=
  (childEvent event nodeId).or
    (if waitNode w event = some nodeId then waitState event.payload else none)

variable {w : CompiledWorkflowDefinition}

theorem childReport_of_ne {e : RunEvent} {nodeId : String} (h : waitNode w e ≠ some nodeId) :
    childReport w e nodeId = childEvent e nodeId := by
  rw [childReport, if_neg h, Option.or_none]

namespace HistoryCheck

variable [Host] {w : DefinitionRef} {hash : String} {es : List RunEvent} {i fuel : Nat}
  {s : HistoryCheck} {nodeId : String}

omit [Host] in
theorem get?_setGroupChild (ho : (w.parallelGroupForChild nodeId).isSome = true) (id : String)
    (st : ParallelChildState) :
    (s.setGroupChild w id st).childStates.get? nodeId =
      if id = nodeId then some st else s.childStates.get? nodeId := by
  unfold setGroupChild
  by_cases hi : id = nodeId
  · subst hi
    rw [if_pos ho, if_pos rfl, setChild, SortedMap.get?_insert_self]
  · split
    · rw [setChild, SortedMap.get?_insert_ne _ (Ne.symm hi)]
    · rfl

omit [Host] in
theorem get?_setWaitChild (ho : (w.parallelGroupForChild nodeId).isSome = true)
    (wi : String) (st : ParallelChildState) :
    (s.setWaitChild w wi st).childStates.get? nodeId =
      if (w.durableWait wi).map (·.nodeId) = some nodeId then some st
      else s.childStates.get? nodeId := by
  unfold setWaitChild
  cases w.durableWait wi with
  | none => rfl
  | some wait => simp [get?_setGroupChild ho]

/-- **What a turn does to a child of a group.** -/
theorem step_children {e : RunEvent} {c : Nat → DateTime} {s' : HistoryCheck}
    (hs : Before w hash es i s) (hb : i < es.length)
    (ho : (w.parallelGroupForChild nodeId).isSome = true)
    (h : step w hash fuel es c s (e, i) = .ok s') :
    s'.childStates.get? nodeId =
      (childReport w.toCompiledWorkflowDefinition e nodeId).or
        (s.childStates.get? nodeId) := by
  rw [(step_turned hs hb c e s' h).children]
  unfold childReport childEvent waitNode
  split
  · rfl
  cases e.payload
  case waitSatisfied | waitTimedOut | waitCancelled =>
    refine (get?_setWaitChild ho _ _).trans ?_
    split <;> rfl
  case waitRegistered data =>
    refine (get?_setGroupChild ho _ _).trans ?_
    simp only [Option.some.injEq]
    split <;> rfl
  case stepAttemptStarted | stepAttemptSucceeded | stepAttemptFailed | stepRetryScheduled =>
    refine (get?_setGroupChild ho _ _).trans ?_
    simp only
    split <;> rfl
  all_goals rfl

end HistoryCheck

/-! ## The states of the children and the fold -/

/-- The state of a child says how its latest attempt stands. -/
inductive LatestIs : Option AttemptProjection → Option ParallelChildState → Prop
  | unstarted : LatestIs none none
  | active (a : AttemptProjection) (status : a.status = .started) : LatestIs (some a) (some .active)
  | succeeded (a : AttemptProjection) (output : Value) (status : a.status = .succeeded output) :
      LatestIs (some a) (some .succeeded)
  | failed (a : AttemptProjection) (failure : AttemptFailure) (status : a.status = .failed failure) :
      LatestIs (some a) (some (.failed failure.kind))
  | retryPending (a : AttemptProjection) (failure : AttemptFailure)
      (status : a.status = .failed failure) : LatestIs (some a) (some .retryPending)

/-- The state that the check keeps of a node agrees with the fold. -/
structure Coupled (p : RunProjection) (nodeId : String) (state : Option ParallelChildState) :
    Prop where
  earlier : ∀ a ∈ (p.attemptsOf nodeId).dropLast, a.status.isStarted = false
  latest : LatestIs (p.attemptsOf nodeId).getLast? state
  retry : p.pendingRetries.get? nodeId ≠ none → state = some .retryPending
  pending : state = some .retryPending →
    p.pendingRetries.get? nodeId ≠ none ∨ p.status = .failed

section
variable {p q : RunProjection} {e : RunEvent} {ni : String}
  {s : Option ParallelChildState}

theorem coupled_initial (ni : String) : Coupled .initial ni none := by
  have hn : RunProjection.initial.attemptsOf ni = [] := rfl
  refine ⟨?_, ?_, fun hr => absurd rfl hr, nofun⟩
  · rw [hn]; exact fun a ha => absurd ha List.not_mem_nil
  · rw [hn]; exact .unstarted

theorem childEvent_quiet (h : attemptNode e ≠ some ni) : childEvent e ni = none := by
  unfold attemptNode at h
  unfold childEvent
  split
  · rfl
  · rename_i hn
    rw [if_neg hn] at h
    cases hp : e.payload <;> rw [hp] at h <;>
      first | rfl | exact if_neg fun he => h (congrArg some he)

theorem unscoped_of_attemptNode (h : attemptNode e = some ni) : e.iteration.isSome = false := by
  unfold attemptNode at h
  split at h
  · cases h
  · rename_i hn
    exact Bool.eq_false_iff.2 hn

theorem Coupled.last_of_started {xs ys : List AttemptProjection} {a : AttemptProjection}
    (h : Coupled p ni s) (ha : p.attemptsOf ni = xs ++ a :: ys)
    (hs : a.status.isStarted = true) : ys = [] := by
  by_contra hn
  have hm : a ∈ (p.attemptsOf ni).dropLast := by
    rw [ha, List.dropLast_append_cons, List.dropLast_cons_of_ne_nil hn]
    simp
  rw [h.earlier a hm] at hs
  cases hs

theorem Coupled.start {data : StepAttemptStartedData} (h : Coupled p ni s)
    (hat : q.attemptsOf ni = p.attemptsOf ni ++ [startedAttempt data])
    (hi : ∀ last ∈ (p.attemptsOf ni).getLast?, last.status.isStarted = false)
    (hr : q.pendingRetries.get? ni = none) : Coupled q ni (some .active) := by
  refine ⟨fun a ha => ?_, ?_, fun hs => absurd hr hs, nofun⟩
  · rw [hat, List.dropLast_concat] at ha
    cases hl : (p.attemptsOf ni).getLast? with
    | none => simp [List.getLast?_eq_none_iff.1 hl] at ha
    | some last =>
      rw [← List.dropLast_append_getLast? last hl] at ha
      rcases List.mem_append.1 ha with ha | ha
      · exact h.earlier a ha
      · cases List.mem_singleton.1 ha
        exact hi a hl
  · rw [hat, List.getLast?_concat]
    exact .active _ rfl

theorem Coupled.settle {xs ys : List AttemptProjection} {a : AttemptProjection}
    {status : AttemptStatus} {s' : ParallelChildState} (h : Coupled p ni s)
    (hb : p.attemptsOf ni = xs ++ a :: ys) (hst : a.status.isStarted = true)
    (ha : q.attemptsOf ni = xs ++ { a with status } :: ys)
    (hr : q.pendingRetries = p.pendingRetries) (hla : LatestIs (some { a with status }) (some s'))
    (hse : s' ≠ .retryPending) : Coupled q ni (some s') := by
  cases h.last_of_started hb hst
  refine ⟨?_, ?_, fun hs => ?_, fun heq => absurd (Option.some.inj heq) hse⟩
  · have he := h.earlier
    rw [hb, List.dropLast_concat] at he
    rwa [ha, List.dropLast_concat]
  · rwa [ha, List.getLast?_concat]
  · -- a retry would be pending of a failed attempt
    rw [hr] at hs
    have hl := h.latest
    rw [h.retry hs, hb, List.getLast?_concat] at hl
    cases hl with
    | retryPending _ failure hf =>
      rw [hf] at hst
      cases hst

theorem Coupled.step (h : Coupled p ni s) (ho : p.status ≠ .failed)
    (hl : p.pendingRetries.get? ni ≠ none → 6 ≤ e.eventSchemaVersion) (hsp : AttemptStep e ni p q) :
    Coupled q ni ((childEvent e ni).or s) := by
  cases hsp with
  | kept quiet attempts retries =>
    rw [childEvent_quiet quiet]
    refine ⟨by rw [attempts]; exact h.earlier, by rw [attempts]; exact h.latest, ?_, fun hst => ?_⟩
    · rcases retries with hs | ⟨hn, -⟩
      · rw [hs]; exact h.retry
      · exact fun hso => absurd hn hso
    · rcases retries with hs | ⟨-, hf, -⟩
      · rw [hs]
        exact .inl ((h.pending hst).resolve_right ho)
      · exact .inr hf
  | started cs data payload_eq t attempts u idle follows er =>
    rw [childEvent, unscoped_of_attemptNode cs, payload_eq]
    simp only [t]
    refine h.start attempts idle ?_
    by_cases hv : 6 ≤ e.eventSchemaVersion
    · exact (follows hv).2
    · rw [er (by omega)]
      by_contra hso
      exact hv (hl hso)
  | settled cs xs ys a status outcome before inFlight after retries =>
    rw [childEvent, unscoped_of_attemptNode cs]
    cases outcome with
    | succeeded data payload_eq t =>
      simp only [payload_eq, t]
      exact h.settle before inFlight after retries (.succeeded _ _ rfl) nofun
    | failed data payload_eq t =>
      simp only [payload_eq, t]
      exact h.settle before inFlight after retries (.failed _ _ rfl) nofun
  | scheduled cs data last payload_eq t running attempts retries il failed ns =>
    rw [childEvent, unscoped_of_attemptNode cs, payload_eq]
    simp only [t]
    refine ⟨by rw [attempts]; exact h.earlier, ?_, fun _ => rfl, fun _ => .inl ?_⟩
    · rw [attempts, il]
      cases hsta : last.status with
      | failed failure => exact .retryPending last failure hsta
      | started => rw [hsta] at failed; cases failed
      | succeeded => rw [hsta] at failed; cases failed
    · rw [retries]; exact Option.some_ne_none _

/-- The fold keeps the agreement over every event that it takes. -/
theorem Coupled.apply [Host] {es : List RunEvent} {t t' : ProjectionFoldState}
    (h : Coupled t.projection ni s) (ht : fromEvents es = .ok t) (hap : t.apply e = .ok t') :
    Coupled t'.projection ni ((childEvent e ni).or s) := by
  have ha := admitted_of_ok (apply_eq_ok.1 hap).1
  refine h.step (fun hf => ?_) (fun hre => ?_) (apply_attemptStep (bookkeeping ht) hap ni)
  · have ho := ha.open_
    rw [hf] at ho
    cases ho
  · obtain ⟨r, hr⟩ := Option.ne_none_iff_exists'.1 hre
    obtain ⟨v, hv, hs⟩ := version_of_retry ht hr
    rw [← ha.sameVersion v hv]
    exact hs

end

/-! ## One group -/

theorem parallelId_of_parallelGroup {parallelId : String} {g : ParallelGroupDefinition}
    (h : w.parallelGroup parallelId = some g) : g.parallelId = parallelId := by
  simp only [parallelGroup, Option.bind_eq_bind,
    Option.bind_eq_some_iff, Option.some.injEq] at h
  obtain ⟨_, -, _, -, _, -, _, -, _, -, rfl⟩ := h
  rfl

/-- A child of a closed group belongs to that group. -/
theorem group_of_child {p nodeId : String} {group : ParallelGroupDefinition}
    (hcl : w.childBoundariesAreClosed p = true) (hg : w.parallelGroup p = some group)
    (hch : nodeId ∈ group.childNodeIds) : w.parallelGroupForChild nodeId = some group := by
  have he : ∃ edge ∈ w.graph.edges, edge.parallelId = some p ∧
      edge.source = parallelStartNodeId p ∧
      edge.target = nodeId := by
    simp only [parallelGroup, Option.bind_eq_bind,
      Option.bind_eq_some_iff, Option.some.injEq] at hg
    obtain ⟨_, -, _, -, _, -, _, -, _, -, rfl⟩ := hg
    obtain ⟨edge, he, ht⟩ := List.mem_map.1 hch
    rw [List.mem_insertionSort, List.mem_filter] at he
    simp only [Bool.and_eq_true, decide_eq_true_eq] at he
    exact ⟨edge, he.1, he.2.2, he.2.1, ht⟩
  obtain ⟨edge, hm, hp, hs, rfl⟩ := he
  simp only [childBoundariesAreClosed, List.all_eq_true] at hcl
  have hc := hcl edge (List.mem_filter.2 ⟨hm, by simp [hp, hs]⟩)
  split at hc
  · rename_i incoming outgoing hi ho
    simp only [Bool.and_eq_true, decide_eq_true_eq] at hc
    -- the one incoming edge is found first
    have hf : w.graph.edges.find? (fun e => e.target = edge.target && e.parallelId.isSome) =
        some incoming := by
      have hco : (fun e : CompiledWorkflowEdge => decide (e.target = edge.target) &&
          e.parallelId.isSome) = fun e => e.parallelId.isSome && decide (e.target = edge.target) :=
        funext fun e => Bool.and_comm _ _
      rw [hco, ← List.head?_filter, ← List.filter_filter, hi]
      simp [hc.1.1.2]
    rw [parallelGroupForChild, hf]
    simp [hc.1.1.2, hg]
  · cases hc

/-- The children with an attempt in flight. -/
def runningChildren (group : ParallelGroupDefinition) (p : RunProjection) : Finset String :=
  group.childNodeIds.toFinset.filter fun nodeId =>
    (p.attemptsOf nodeId).any (·.status.isStarted)

/-- An event of the run starts the node: its attempt, or its durable wait. -/
def StartsNode (event : RunEvent) (nodeId : String) : Prop :=
  event.iteration = none ∧
    ((∃ data, event.payload = .stepAttemptStarted data ∧ data.nodeId = nodeId) ∨
      ∃ data, event.payload = .waitRegistered data ∧ data.nodeId = nodeId)

/-- The latest attempt of the node has failed for a reason with `q`, and no retry is pending. -/
def finallyFailed (p : RunProjection) (q : AttemptFailureKind → Bool) (nodeId : String) : Bool :=
  (p.pendingRetries.get? nodeId).isNone &&
    (p.latestAttempt nodeId).any fun attempt =>
      match attempt.status with
      | .failed failure => q failure.kind
      | _ => false

/-- What a completion says of the children is true of the fold before it. -/
structure CompletionTrue (group : ParallelGroupDefinition) (data : ParallelGroupCompletedData)
    (p : RunProjection) : Prop where
  failed : data.failedNodeIds =
    group.childNodeIds.filter (finallyFailed p (· ≠ .invocationCancelled))
  cancelled : data.cancelledNodeIds =
    group.childNodeIds.filter (finallyFailed p (· = .invocationCancelled))
  idle : ∀ nodeId ∈ group.childNodeIds, ∀ a ∈ p.attemptsOf nodeId, a.status.isStarted = false
  succeeded : data.outcome = .succeeded → ∀ nodeId ∈ group.childNodeIds,
    ∃ a output, p.latestAttempt nodeId = some a ∧ a.status = .succeeded output
  terminal : data.outcome = .failed → group.onError = "wait-all" → ∀ nodeId ∈ group.childNodeIds,
    p.pendingRetries.get? nodeId = none ∧
      ∃ a, p.latestAttempt nodeId = some a ∧ a.status.isStarted = false

/-- The group runs its children within its time and cap and tells their outcomes. -/
structure GroupDisciplined [Host] (group : ParallelGroupDefinition) (events : List RunEvent) :
    Prop where
  capped : ∀ n t, fromEvents (events.take n) = .ok t →
    (runningChildren group t.projection).card ≤ group.concurrency
  within : ∀ n event nodeId t, events[n]? = some event → nodeId ∈ group.childNodeIds →
    StartsNode event nodeId → fromEvents (events.take n) = .ok t →
    (t.projection.parallelGroups.get? group.parallelId).any (·.status = .started) = true
  completed : ∀ n event data t, events[n]? = some event → event.iteration = none →
    event.payload = .parallelGroupCompleted data → data.parallelId = group.parallelId →
    fromEvents (events.take n) = .ok t → CompletionTrue group data t.projection

/-- No durable wait of the history is a child of the group. -/
def WaitFree (w : CompiledWorkflowDefinition) (group : ParallelGroupDefinition)
    (events : List RunEvent) : Prop :=
  ∀ event ∈ events, ∀ nodeId ∈ group.childNodeIds, waitNode w event ≠ some nodeId

/-! ## What the states say of the fold -/

section
variable {p : RunProjection} {ni : String} {s : Option ParallelChildState}

theorem Coupled.started_iff (h : Coupled p ni s) :
    (p.attemptsOf ni).any (·.status.isStarted) = true ↔ s = some .active := by
  have hla := h.latest
  constructor
  · intro han
    obtain ⟨a, ha, hs⟩ := List.any_eq_true.1 han
    obtain ⟨xs, ys, hsp⟩ := List.append_of_mem ha
    cases h.last_of_started hsp hs
    rw [hsp, List.getLast?_concat] at hla
    cases hla with
    | active => rfl
    | succeeded _ _ status | failed _ _ status | retryPending _ _ status =>
      rw [status] at hs
      cases hs
  · rintro rfl
    cases hl : (p.attemptsOf ni).getLast? with
    | none => rw [hl] at hla; cases hla
    | some a =>
      rw [hl] at hla
      cases hla with
      | active _ status =>
        refine List.any_eq_true.2 ⟨a, List.mem_of_getLast? hl, ?_⟩
        rw [status]
        rfl

theorem Coupled.finallyFailed_eq (h : Coupled p ni s) (ho : p.status ≠ .failed)
    (q : AttemptFailureKind → Bool) :
    finallyFailed p q ni = s.any fun
      | .failed kind => q kind
      | _ => false := by
  have hl := h.latest
  rw [finallyFailed, RunProjection.latestAttempt_eq]
  by_cases hre : p.pendingRetries.get? ni = none
  · rw [hre, Option.isNone_none, Bool.true_and]
    revert hl
    generalize (p.attemptsOf ni).getLast? = last
    intro hl
    cases hl with
    | unstarted => rfl
    | active a status | succeeded a _ status | failed a _ status =>
      simp [status]
    | retryPending =>
      rcases h.pending rfl with hs | hf
      · exact absurd hre hs
      · exact absurd hf ho
  · obtain ⟨r, hr⟩ := Option.ne_none_iff_exists'.1 hre
    rw [h.retry hre, hr, Option.isNone_some]
    rfl

theorem Coupled.succeeded (h : Coupled p ni (some .succeeded)) :
    ∃ a output, p.latestAttempt ni = some a ∧ a.status = .succeeded output := by
  have hl := h.latest
  rw [RunProjection.latestAttempt_eq]
  revert hl
  generalize (p.attemptsOf ni).getLast? = last
  intro hl
  cases hl with
  | succeeded a output status => exact ⟨a, output, rfl, status⟩

theorem Coupled.terminal {s : ParallelChildState} (h : Coupled p ni (some s))
    (ha : s ≠ .active) (hr : s ≠ .retryPending) :
    p.pendingRetries.get? ni = none ∧
      ∃ a, p.latestAttempt ni = some a ∧ a.status.isStarted = false := by
  refine ⟨?_, ?_⟩
  · by_contra hs
    exact hr (Option.some.inj (h.retry hs))
  · have hl := h.latest
    rw [RunProjection.latestAttempt_eq]
    revert hl
    generalize (p.attemptsOf ni).getLast? = last
    intro hl
    cases hl with
    | active => exact absurd rfl ha
    | succeeded a _ status | failed a _ status | retryPending a _ status =>
      refine ⟨a, rfl, ?_⟩
      rw [status]
      rfl

end

section
variable [Host] {fuel : Nat} {clock : Nat → DateTime} {w : DefinitionRef} {hash : String}
  {events : List RunEvent} {s : ProjectionFoldState} {parallelId : String}
  {group : ParallelGroupDefinition} {c c' : HistoryCheck}

/-- The children that the check counts as active, each once. -/
def activeSet (c : HistoryCheck) (group : ParallelGroupDefinition) : Finset String :=
  group.childNodeIds.toFinset.filter fun nodeId => c.childStates.get? nodeId = some .active

omit [Host] in
theorem card_activeSet_le (c : HistoryCheck) (group : ParallelGroupDefinition) :
    (activeSet c group).card ≤ c.activeChildren group := by
  have hs : activeSet c group ⊆
      (group.childNodeIds.filter fun nodeId => c.childStates.get? nodeId = some .active).toFinset := by
    intro nodeId hn
    rw [activeSet, Finset.mem_filter, List.mem_toFinset] at hn
    rw [List.mem_toFinset, List.mem_filter]
    exact ⟨hn.1, by simpa using hn.2⟩
  calc (activeSet c group).card
      ≤ (group.childNodeIds.filter fun nodeId =>
          c.childStates.get? nodeId = some .active).toFinset.card := Finset.card_le_card hs
    _ ≤ (group.childNodeIds.filter fun nodeId =>
          c.childStates.get? nodeId = some .active).length := List.toFinset_card_le _
    _ = c.activeChildren group := by rw [activeChildren, List.countP_eq_length_filter]

variable {event : RunEvent}

/-- A child starts in a group that runs and has room. -/
theorem room_of_turn {n : Nat} {data : StepAttemptStartedData}
    (hc : Before w hash events n c) (hn : n ≤ events.length) (hu : event.iteration = none)
    (hp : event.payload = .stepAttemptStarted data)
    (hg : w.parallelGroupForChild data.nodeId = some group)
    (htu : HistoryCheck.step w hash fuel events clock c (event, n) = .ok c') :
    ∃ t, fromEvents (events.take n) = .ok t ∧
      (t.projection.parallelGroups.get? group.parallelId).any (·.status = .started) = true ∧
      c.activeChildren group < group.concurrency := by
  simp only [HistoryCheck.step, hu] at htu
  obtain ⟨_, -, htu⟩ := bind_eq_ok.1 htu
  rw [checkPlace, hp] at htu
  obtain ⟨⟨c₀, view⟩, hq, htu⟩ := bind_eq_ok.1 htu
  obtain ⟨-, hch, t, ht, hv⟩ := queryAt_before hc hn _ hq
  simp only [eq_ok_iff, hg, childStarted] at htu
  obtain ⟨_, -, _, -, _, -, _, hst, _, hr, -⟩ := htu
  refine ⟨t, ht, ?_, ?_⟩
  · rw [← hv]
    simpa using hst
  · have hs : c₀.activeChildren group = c.activeChildren group := by
      rw [activeChildren, activeChildren, hch]
    rw [← hs]
    exact Nat.lt_of_not_le hr

/-- The check and the fold agree on every child, and the active ones are within the cap. -/
structure GroupInvariant (group : ParallelGroupDefinition) (p : RunProjection) (c : HistoryCheck) :
    Prop where
  coupled : ∀ nodeId ∈ group.childNodeIds, Coupled p nodeId (c.childStates.get? nodeId)
  capped : (activeSet c group).card ≤ group.concurrency

/-- Every child belongs to the group. -/
def Owns (w : DefinitionRef) (group : ParallelGroupDefinition) : Prop :=
  ∀ nodeId ∈ group.childNodeIds, w.parallelGroupForChild nodeId = some group

/-- Another child is active after a turn only if the turn started it. -/
theorem active_of_turn {n : Nat} (hc : Before w hash events n c)
    (hb : n < events.length) (ho : Owns w group) (hw : ∀ nodeId ∈ group.childNodeIds,
      waitNode w.toCompiledWorkflowDefinition event ≠ some nodeId)
    (ht : HistoryCheck.step w hash fuel events clock c (event, n) = .ok c') {nodeId : String}
    (ha : nodeId ∈ activeSet c' group) : nodeId ∈ activeSet c group ∨
      ∃ data, event.iteration = none ∧ event.payload = .stepAttemptStarted data ∧
        data.nodeId = nodeId := by
  rw [activeSet, Finset.mem_filter, List.mem_toFinset] at ha ⊢
  obtain ⟨hch, hs⟩ := ha
  rw [step_children hc hb (by rw [ho nodeId hch]; rfl) ht, childReport_of_ne (hw nodeId hch)] at hs
  cases he : childEvent event nodeId with
  | none =>
    rw [he] at hs
    exact .inl ⟨hch, hs⟩
  | some state =>
    rw [he] at hs
    cases hs
    -- only a start makes a child active
    unfold childEvent at he
    split at he
    · cases he
    rename_i hn
    have hu : event.iteration = none := by simpa using hn
    cases hp : event.payload <;> rw [hp] at he <;> try cases he
    case stepAttemptStarted data =>
      simp only [ite_eq_left_iff, reduceCtorEq, imp_false, not_not] at he
      exact .inr ⟨data, hu, rfl, he⟩
    all_goals
      simp only at he
      split at he <;> cases he

theorem GroupInvariant.step {n : Nat} {t t' : ProjectionFoldState}
    (ho : Owns w group) (hw : ∀ nodeId ∈ group.childNodeIds,
      waitNode w.toCompiledWorkflowDefinition event ≠ some nodeId) (hn : events[n]? = some event)
    (ht : fromEvents (events.take n) = .ok t) (hap : t.apply event = .ok t')
    (hc : Before w hash events n c) (h : GroupInvariant group t.projection c)
    (htu : HistoryCheck.step w hash fuel events clock c (event, n) = .ok c') :
    GroupInvariant group t'.projection c' := by
  have hb := (List.getElem?_eq_some_iff.1 hn).1
  refine ⟨fun nodeId hch => ?_, ?_⟩
  · rw [step_children hc hb (by rw [ho nodeId hch]; rfl) htu, childReport_of_ne (hw nodeId hch)]
    exact (h.coupled nodeId hch).apply ht hap
  · by_cases hs : ∃ data, event.iteration = none ∧ event.payload = .stepAttemptStarted data ∧
        data.nodeId ∈ group.childNodeIds
    · obtain ⟨data, hu, hp, hch⟩ := hs
      obtain ⟨-, -, -, hr⟩ := room_of_turn hc
        (Nat.le_of_lt (List.getElem?_eq_some_iff.1 hn).1) hu hp
        (ho data.nodeId hch) htu
      have hsu : activeSet c' group ⊆ insert data.nodeId (activeSet c group) := by
        intro nodeId ha
        rcases active_of_turn hc hb ho hw htu ha with hol | ⟨data', -, hp', rfl⟩
        · exact Finset.mem_insert_of_mem hol
        · cases hp.symm.trans hp'
          exact Finset.mem_insert_self _ _
      have hca := Finset.card_le_card hsu
      have hi := Finset.card_insert_le data.nodeId (activeSet c group)
      have hcn := card_activeSet_le c group
      omega
    · refine Nat.le_trans (Finset.card_le_card fun nodeId ha => ?_) h.capped
      rcases active_of_turn hc hb ho hw htu ha with hol | ⟨data, hu, hp, rfl⟩
      · exact hol
      · refine absurd ⟨data, hu, hp, ?_⟩ hs
        rw [activeSet, Finset.mem_filter, List.mem_toFinset] at ha
        exact ha.1

/-- The property that the loop keeps. -/
def Invariant (group : ParallelGroupDefinition) (events : List RunEvent) (n : Nat)
    (c : HistoryCheck) : Prop :=
  ∀ t, fromEvents (events.take n) = .ok t → GroupInvariant group t.projection c

theorem invariant_kept (ho : Owns w group)
    (hf : WaitFree w.toCompiledWorkflowDefinition group events) :
    Kept w hash fuel clock events (Invariant group events) where
  start := by
    intro t ht
    rw [List.take_zero, fromEvents_nil, Except.ok.injEq] at ht
    subst ht
    refine ⟨fun nodeId _ => coupled_initial nodeId, ?_⟩
    have he : activeSet { cursor := .withDefinition events w hash } group = ∅ := by
      refine Finset.filter_eq_empty_iff.2 fun nodeId _ => ?_
      nofun
    rw [he]
    exact Nat.zero_le _
  turn := by
    intro n event c c' hn hc h htu t' ht'
    rw [fromEvents_take_succ hn, bind_eq_ok] at ht'
    obtain ⟨t, ht, ha⟩ := ht'
    exact (h t ht).step ho (hf event (List.mem_of_getElem? hn)) hn ht ha hc htu

omit [Host] in
theorem GroupInvariant.running {p : RunProjection} {c : HistoryCheck}
    (h : GroupInvariant group p c) : (runningChildren group p).card ≤ group.concurrency := by
  refine Nat.le_trans (Finset.card_le_card fun nodeId hr => ?_) h.capped
  rw [runningChildren, Finset.mem_filter, List.mem_toFinset] at hr
  rw [activeSet, Finset.mem_filter, List.mem_toFinset]
  exact ⟨hr.1, (h.coupled nodeId hr.1).started_iff.1 hr.2⟩

omit [Host] in
/-- Every child has the state that a list of all children was filtered for. -/
theorem state_of_childrenIn {c : HistoryCheck} {q : ParallelChildState → Bool}
    (h : c.childrenIn group q = group.childNodeIds) {ni : String} (hc : ni ∈ group.childNodeIds) :
    ∃ state, c.childStates.get? ni = some state ∧ q state = true := by
  rw [← h, childrenIn, List.mem_filter] at hc
  exact (Option.any_eq_true _ _).1 hc.2

omit [Host] in
/-- **What the check asks of a completion makes it true of the fold.** -/
theorem GroupInvariant.completed {p : RunProjection} {data : ParallelGroupCompletedData}
    (h : GroupInvariant group p c) (ho : p.status ≠ .failed)
    (hg : w.parallelGroup data.parallelId = some group)
    (htu : c.parallelGroupCompleted w data = .ok c') : CompletionTrue group data p := by
  simp only [parallelGroupCompleted, eq_ok_iff] at htu
  obtain ⟨g', hg', _, hv, -⟩ := htu
  cases hg.symm.trans hg'
  simp only [not_or, not_not, Bool.not_eq_true', Bool.not_eq_false] at hv
  obtain ⟨hou, hf, hcn⟩ := hv
  have hl : ∀ q : AttemptFailureKind → Bool, (c.childrenIn group fun
        | .failed kind => q kind
        | _ => false) = group.childNodeIds.filter (finallyFailed p q) := by
    intro q
    refine List.filter_congr fun nodeId hch => ?_
    rw [(h.coupled nodeId hch).finallyFailed_eq ho]
  have hi : (∀ nodeId ∈ group.childNodeIds, c.childStates.get? nodeId ≠ some .active) →
      ∀ nodeId ∈ group.childNodeIds, ∀ a ∈ p.attemptsOf nodeId, a.status.isStarted = false := by
    intro hn nodeId hch a ha
    by_contra hsd
    rw [Bool.not_eq_false] at hsd
    exact hn nodeId hch ((h.coupled nodeId hch).started_iff.1 (List.any_eq_true.2 ⟨a, ha, hsd⟩))
  have hca : (fun state : ParallelChildState => decide (state = .failed .invocationCancelled)) = fun
        | .failed kind => decide (kind = .invocationCancelled)
        | _ => false := by
    funext state
    cases state <;> simp
  have hs : data.outcome = .succeeded → ∀ nodeId ∈ group.childNodeIds,
      c.childStates.get? nodeId = some .succeeded := by
    intro hd nodeId hch
    rw [hd] at hou
    obtain ⟨state, hst, hq⟩ := state_of_childrenIn (of_decide_eq_true hou) hch
    rw [hst, of_decide_eq_true hq]
  have ht : data.outcome = .failed → group.onError = "wait-all" →
      ∀ nodeId ∈ group.childNodeIds, ∃ state, c.childStates.get? nodeId = some state ∧
        state ≠ .active ∧ state ≠ .retryPending := by
    intro hd hw nodeId hch
    simp only [hd, hw] at hou
    obtain ⟨state, hst, hq⟩ := state_of_childrenIn (of_decide_eq_true hou) hch
    refine ⟨state, hst, ?_, ?_⟩ <;> rintro rfl <;> cases hq
  have hin : ∀ nodeId ∈ group.childNodeIds, c.childStates.get? nodeId ≠ some .active := by
    intro nodeId hch hac
    cases hd : data.outcome with
    | succeeded =>
      rw [hs hd nodeId hch] at hac
      cases hac
    | failed =>
      by_cases hw : group.onError = "wait-all"
      · obtain ⟨state, hst, hne, -⟩ := ht hd hw nodeId hch
        rw [hac] at hst
        exact hne (Option.some.inj hst).symm
      · simp only [hd, hw] at hou
        have hn := of_decide_eq_true hou
        rw [childrenIn, List.filter_eq_nil_iff] at hn
        exact hn nodeId hch (by rw [hac]; rfl)
  refine ⟨hf.trans (hl _), ?_, hi hin, fun hd nodeId hch => ?_, fun hd hw nodeId hch => ?_⟩
  · rw [hcn, hca]
    exact hl _
  · have hc := h.coupled nodeId hch
    rw [hs hd nodeId hch] at hc
    exact hc.succeeded
  · obtain ⟨state, hst, hac, hr⟩ := ht hd hw nodeId hch
    have hc := h.coupled nodeId hch
    rw [hst] at hc
    exact hc.terminal hac hr

/-- **A group without durable waits is disciplined.** -/
theorem parallel_disciplined
    (hcheck : checkEventHistoryAgainstDefinition fuel clock w hash events = .ok s)
    (hgroup : w.parallelGroup parallelId = some group)
    (hclosed : w.childBoundariesAreClosed parallelId = true)
    (hfree : WaitFree w.toCompiledWorkflowDefinition group events) :
    GroupDisciplined group events := by
  have ho : Owns w group := fun nodeId hch => group_of_child hclosed hgroup hch
  have hfo := fromEvents_of_check hcheck
  have hid := parallelId_of_parallelGroup hgroup
  have htu := fun n event (hn : events[n]? = some event) =>
    turn_of_check_with hcheck (invariant_kept ho hfree) hn
  refine ⟨fun n t ht => ?_, fun n event nodeId t hn hch hst ht => ?_,
    fun n event data t hn hu hp hd ht => ?_⟩
  · -- a longer prefix is the whole history
    have hr : ∀ m ≤ events.length, ∀ t, fromEvents (events.take m) = .ok t →
        (runningChildren group t.projection).card ≤ group.concurrency := by
      intro m hm t ht
      obtain ⟨c, _, -, hc, -⟩ := reached_of_check_with hcheck (invariant_kept ho hfree) hm
      exact (hc t ht).running
    rcases Nat.le_total n events.length with hl | hg
    · exact hr n hl t ht
    · rw [List.take_of_length_le hg, ← List.take_length (l := events)] at ht
      exact hr _ (Nat.le_refl _) t ht
  · obtain ⟨c, c', hc, -, hs⟩ := htu n event hn
    obtain ⟨hu, ⟨data, hp, rfl⟩ | ⟨data, hp, rfl⟩⟩ := hst
    · obtain ⟨t', ht', hsd, -⟩ := room_of_turn hc
        (Nat.le_of_lt (List.getElem?_eq_some_iff.1 hn).1) hu hp
        (ho data.nodeId hch) hs
      cases ht.symm.trans ht'
      exact hsd
    · refine absurd ?_ (hfree event (List.mem_of_getElem? hn) data.nodeId hch)
      simp [waitNode, hu, hp]
  · obtain ⟨c, c', hc, hi, hs⟩ := htu n event hn
    simp only [HistoryCheck.step, hu] at hs
    obtain ⟨_, -, hs⟩ := bind_eq_ok.1 hs
    rw [checkPlace, hp] at hs
    refine (hi t ht).completed ?_ (by rw [hd, hid]; exact hgroup) hs
    obtain ⟨t₀, t', ht₀, -, ha⟩ := apply_at hfo hn
    cases ht.symm.trans ht₀
    intro hf
    have hop := (admitted_of_ok (apply_eq_ok.1 ha).1).open_
    rw [hf] at hop
    cases hop

end

/-! ### A wait that comes late

The group of the sibling wait, failing fast: its step fails, the group completes, and then its wait
is registered. -/

namespace SiblingWait

open SerialRun (definitionHash)

/-- The group with a policy for errors. -/
def group (onError : String) : ParallelGroupDefinition :=
  ⟨"both", "__woml_parallel__both__start", ["work", "pause"], 2, onError⟩

def failFast : DefinitionRef :=
  { definition with
    graph := { definition.graph with
      nodes := { id := "__woml_parallel__both__start", handler := "engine.parallel-start"
                 inputs := .object [("concurrency", .literal (.number (.posInt 2))),
                   ("onError", .literal (.string "fail-fast"))] } ::
        definition.graph.nodes.tail } }

def lateWait : List RunEvent :=
  history.take 4 ++
    [failure 5,
      event 6 "e6" (.parallelGroupCompleted ⟨"both", .failed, ["work"], []⟩),
      event 7 "e7" (.waitRegistered
        { waitId := "pause", nodeId := "pause", kind := .duration, registeredAt := 0
          deadline := some 1000000000, signals := none, correlationDigest := none })]

theorem group_eq : definition.parallelGroup "both" = some (group "wait-all") := by rfl

theorem failFast_group_eq : failFast.parallelGroup "both" = some (group "fail-fast") := by rfl

theorem wait_registered_after_completion :
    (∃ s, @checkEventHistoryAgainstDefinition host 4 (fun _ => 0) failFast definitionHash
      lateWait = .ok s) ∧
    failFast.parallelGroup "both" = some (group "fail-fast") ∧
    failFast.childBoundariesAreClosed "both" = true ∧
    ¬@GroupDisciplined host (group "fail-fast") lateWait := by
  obtain ⟨t, ht, hr⟩ : ∃ t, @fromEvents host (lateWait.take 6) = .ok t ∧
      (t.projection.parallelGroups.get? "both").any (·.status = .started) = false := by
    decide +kernel
  refine ⟨by decide +kernel, failFast_group_eq, by decide +kernel, fun h => ?_⟩
  have hs := @GroupDisciplined.within host _ _ h 6 _ "pause" t rfl (by decide)
    ⟨rfl, .inr ⟨_, rfl, rfl⟩⟩ ht
  exact Bool.false_ne_true (hr.symm.trans hs)

/-- Up to the wait the group is disciplined. -/
theorem disciplined_before_wait : @GroupDisciplined host (group "wait-all") (history.take 4) := by
  obtain ⟨s, hs⟩ : ∃ s, check 4 = .ok s := by decide +kernel
  refine @parallel_disciplined host 4 (fun _ => 0) definition definitionHash (history.take 4) s
    "both" (group "wait-all") hs group_eq (by decide +kernel) ?_
  intro event he nodeId _
  simp only [history, List.take_succ_cons, List.take_zero, List.mem_cons, List.not_mem_nil,
    or_false] at he
  rcases he with rfl | rfl | rfl | rfl <;> nofun

end SiblingWait

end Woml
