import Woml.Engine.History
import Woml.Engine.Proof.Prefix

/-!
# Runs of the definition check

The loop of the check keeps its cursor on the history: what it asks of an event, it asks of the
fold of the events before it (`Before`, `step_before`). `step_at` gives for every event of an
accepted history the turn of the loop that accepted it.
-/

namespace Woml

open Checked HistoryPrefix ProjectionFoldState

variable {P : Nat → HistoryCheck → Prop}

namespace HistoryCheck

variable [Host] {w : DefinitionRef} {hash : String} {events : List RunEvent} {index fuel : Nat}
  {s : HistoryCheck}

omit [Host] in
variable (w hash events index) in
/-- The loop stands at `index`: its cursor follows the events so far. -/
structure Before [Host] (s : HistoryCheck) : Prop where
  live : Live w hash s.cursor
  bound : s.cursor.events = events
  reached : s.cursor.next ≤ index

theorem Before.mono {i' : Nat} (h : Before w hash events index s) (hl : index ≤ i') :
    Before w hash events i' s :=
  ⟨h.live, h.bound, Nat.le_trans h.reached hl⟩

/-! ## The cursor -/

section
variable (h : Before w hash events index s) (hbound : index ≤ events.length)
include h hbound

theorem at_before :
    Ensures (fun r => Before w hash events index r.1 ∧ r.1.childStates = s.childStates ∧
      ∃ t, fromEvents (events.take index) = .ok t ∧ r.2 = t.projection) (s.at index) := by
  intro r hr
  have key := at_spec h.live h.reached (by rw [h.bound]; exact hbound)
  rw [h.bound] at key
  rw [HistoryCheck.at] at hr
  rcases ha : s.cursor.at index with ⟨c, result⟩
  rw [ha] at key hr
  obtain ⟨hre, ho⟩ := key
  cases hf : fromEvents (events.take index) with
  | error e =>
    simp only [hf] at hre
    rw [hre] at hr
    cases hr
  | ok t =>
    simp only [hf] at hre
    rw [hre] at hr
    rw [hf] at ho
    obtain ⟨hl, he, hn, -⟩ := ho
    cases hr
    exact ⟨⟨hl, he, Nat.le_of_eq hn⟩, rfl, t, rfl, rfl⟩

theorem queryAt_before :
    Ensures (fun r => Before w hash events index r.1 ∧ r.1.childStates = s.childStates ∧
      ∃ t, fromEvents (events.take index) = .ok t ∧ r.2.projection = t.projection)
      (s.queryAt index) := by
  intro r hr
  have key := queryAt_spec h.live h.reached (by rw [h.bound]; exact hbound)
  rw [h.bound] at key
  rw [HistoryCheck.queryAt] at hr
  rcases ha : s.cursor.queryAt index with ⟨c, result⟩
  rw [ha] at key hr
  obtain ⟨hre, ho⟩ := key
  cases hf : fromEvents (events.take index) with
  | error e =>
    simp only [hf] at hre
    rw [hre] at hr
    cases hr
  | ok t =>
    simp only [hf] at hre
    rw [hre] at hr
    rw [hf] at ho
    obtain ⟨hl, he, hn, hs⟩ := ho
    cases hr
    refine ⟨⟨hl, he, Nat.le_of_eq hn⟩, rfl, t, rfl, ?_⟩
    rw [← hs]
    rfl

end

/-! ## The children of parallel groups -/

omit [Host] in
theorem setGroupChild_children {t : HistoryCheck} (h : t.childStates = s.childStates) (ni : String)
    (st : ParallelChildState) :
    (t.setGroupChild w ni st).childStates = (s.setGroupChild w ni st).childStates := by
  unfold setGroupChild
  split
  · rw [setChild, setChild, h]
  · exact h

variable (w) in
/-- What an event of the run does to the states of the children. -/
def childTurn (s : HistoryCheck) : RunEventPayload → HistoryCheck
  | .stepAttemptStarted data => s.setGroupChild w data.nodeId .active
  | .stepAttemptSucceeded data => s.setGroupChild w data.nodeId .succeeded
  | .stepAttemptFailed data => s.setGroupChild w data.nodeId (.failed data.failure.kind)
  | .stepRetryScheduled data => s.setGroupChild w data.nodeId .retryPending
  | .waitRegistered data => s.setGroupChild w data.nodeId .active
  | .waitSatisfied data => s.setWaitChild w data.waitId .succeeded
  | .waitTimedOut data => s.setWaitChild w data.waitId
      (if data.behavior = .continue then .succeeded else .failed .serviceFailed)
  | .waitCancelled data => s.setWaitChild w data.waitId (.failed .invocationCancelled)
  | _ => s

variable (w hash events index) in
/-- The loop stands at `index` and has the children of `s`. -/
structure Turned (s s' : HistoryCheck) : Prop where
  before : Before w hash events index s'
  children : s'.childStates = s.childStates

theorem Before.turned (h : Before w hash events index s) : Turned w hash events index s s :=
  ⟨h, rfl⟩

variable {s' : HistoryCheck}

theorem Turned.mono (h : Turned w hash events index s s') : Turned w hash events (index + 1) s s' :=
  ⟨h.before.mono (Nat.le_succ index), h.children⟩

theorem Turned.setChild (h : Turned w hash events index s s') (ni : String)
    (st : ParallelChildState) :
    Turned w hash events index (s.setGroupChild w ni st) (s'.setGroupChild w ni st) := by
  refine ⟨?_, setGroupChild_children h.children ni st⟩
  unfold setGroupChild
  split <;> exact ⟨h.before.live, h.before.bound, h.before.reached⟩

theorem Turned.setWait (h : Turned w hash events index s s) (wi : String)
    (st : ParallelChildState) :
    Turned w hash events index (s.setWaitChild w wi st) (s.setWaitChild w wi st) := by
  unfold setWaitChild
  cases w.durableWait wi with
  | none => exact h
  | some wait => exact h.setChild wait.nodeId st

/-! ## One turn -/

section
variable (h : Before w hash events index s) (hbound : index ≤ events.length)
include h hbound

theorem requireReady_before (now : DateTime) (ni e : String) :
    Ensures (Turned w hash events index s) (s.requireReady w hash fuel index now ni e) := by
  refine (queryAt_before h hbound).seq fun _ hs => ?_
  iterate 2 refine Ensures.bind fun _ _ => ?_
  exact .ok ⟨hs.1, hs.2.1⟩

theorem stepAttemptStarted_before (e : RunEvent) (data : StepAttemptStartedData) :
    Ensures (Turned w hash events index (s.setGroupChild w data.nodeId .active))
      (s.stepAttemptStarted w hash fuel index e data) := by
  refine (queryAt_before h hbound).seq fun r hs => ?_
  iterate 3 refine Ensures.bind fun _ _ => ?_
  have ht := Turned.setChild ⟨hs.1, hs.2.1⟩ data.nodeId .active
  unfold setGroupChild at ht ⊢
  cases hg : w.parallelGroupForChild data.nodeId with
  | none =>
    rw [hg] at ht
    exact .ok ht
  | some group =>
    rw [hg] at ht
    iterate 2 refine Ensures.bind fun _ _ => ?_
    exact .ok ht

theorem forkBranchSettled_before (data : ForkBranchSettledData) :
    Ensures (Turned w hash events index s) (s.forkBranchSettled w fuel index data) := by
  iterate 2 refine Ensures.bind fun _ _ => ?_
  split
  · refine (at_before h hbound).seq fun _ hs => ?_
    iterate 2 refine Ensures.bind fun _ _ => ?_
    exact .ok ⟨hs.1, hs.2.1⟩
  · exact .ok h.turned

/-- An accepted correction was allowed by the projected saga before it. -/
theorem correctionAttemptStarted_before (data : CorrectionAttemptIdentityData) :
    Ensures (fun s' => Turned w hash events index s s' ∧
      ∃ t saga state, fromEvents (events.take index) = .ok t ∧ w.saga data.sagaId = some saga ∧
        t.projection.sagas.get? data.sagaId = some state ∧
        (data.actionKind = .compensation → compensationMayStart state data.actionId = .ok ()) ∧
        (data.actionKind = .cleanup → cleanupMayStart saga state data.actionId = .ok ()))
      (s.correctionAttemptStarted w index data) := by
  refine Ensures.bind fun saga hsa => ?_
  refine (at_before h hbound).seq ?_
  rintro ⟨_, _⟩ ⟨hs, hc, t, ht, rfl⟩
  refine Ensures.bind fun state hst => ?_
  rw [orFail_eq_ok] at hsa hst
  cases data.actionKind with
  | compensation =>
    exact Ensures.bind fun _ hm =>
      .ok ⟨⟨hs, hc⟩, t, saga, state, ht, hsa, hst, fun _ => hm, nofun⟩
  | cleanup =>
    exact Ensures.bind fun _ hm =>
      .ok ⟨⟨hs, hc⟩, t, saga, state, ht, hsa, hst, nofun, fun _ => hm⟩

end

section
variable (h : Before w hash events index s) (hbound : index < events.length)
include h hbound

theorem checkPlace_before (now : DateTime) (e : RunEvent) :
    Ensures (Turned w hash events (index + 1) (s.childTurn w e.payload))
      (s.checkPlace w hash fuel events index now e) := by
  have hl : index ≤ events.length := Nat.le_of_lt hbound
  have hrd (now : DateTime) (nodeId error : String) : Ensures (Turned w hash events (index + 1) s)
        (s.requireReady w hash fuel index now nodeId error) :=
    fun s' hs' => (requireReady_before h hl now nodeId error s' hs').mono
  have hre : Ensures (fun r => Turned w hash events (index + 1) s r.1) (s.at index) :=
    fun r hr => have := at_before h hl r hr; Turned.mono ⟨this.1, this.2.1⟩
  unfold checkPlace
  cases e.payload with
  | choiceSelected | forkOpened | sagaStarted | parallelGroupStarted =>
    exact Ensures.bind fun _ _ => hrd _ _ _
  | approvalReviewRequested => exact hrd _ _ _
  | approvalRequested =>
    refine Ensures.bind fun _ _ => (hrd _ _ _).seq fun _ hs => ?_
    iterate 2 refine Ensures.bind fun _ _ => ?_
    exact .ok hs
  | waitRegistered => exact (hrd _ _ _).seq fun _ hs => .ok (hs.setChild _ _)
  | forkBranchSettled => exact fun s' hs' => (forkBranchSettled_before h hl _ s' hs').mono
  | forkJoinSettled | sagaCorrectionCompleted =>
    refine Ensures.bind fun _ _ => hre.seq fun _ hs => ?_
    iterate 2 refine Ensures.bind fun _ _ => ?_
    exact .ok hs
  | correctionAttemptStarted =>
    exact fun s' hs' => (correctionAttemptStarted_before h hl _ s' hs').1.mono
  | runOutcomeDecided =>
    refine hre.seq fun ⟨_, _⟩ hs => ?_
    simp only
    split
    · exact .ok hs
    · exact .error
  | stepAttemptStarted =>
    exact fun s' hs' => (stepAttemptStarted_before h hl e _ s' hs').mono
  | stepAttemptSucceeded => exact .ok (h.turned.mono.setChild _ _)
  | stepAttemptFailed => exact Ensures.bind fun _ _ => .ok (h.turned.mono.setChild _ _)
  | stepRetryScheduled =>
    iterate 5 refine Ensures.bind fun _ _ => ?_
    exact .ok (h.turned.mono.setChild _ _)
  | waitSatisfied | waitTimedOut | waitCancelled => exact .ok (h.turned.mono.setWait _ _)
  | runSucceeded =>
    -- the one check that looks at the state after its event
    refine (at_before (h.mono (Nat.le_succ index)) hbound).seq fun _ hs => ?_
    exact Ensures.bind fun _ _ => .ok ⟨hs.1, hs.2.1⟩
  | parallelGroupCompleted | lifecycleHookRequested =>
    iterate 2 refine Ensures.bind fun _ _ => ?_
    exact .ok h.turned.mono
  | lifecycleActionAttemptStarted =>
    refine hre.seq fun _ hs => ?_
    iterate 4 refine Ensures.bind fun _ _ => ?_
    exact .ok hs
  | lifecycleHookCompleted =>
    refine hre.seq fun _ hs => ?_
    iterate 3 refine Ensures.bind fun _ _ => ?_
    exact .ok hs
  | _ => exact .ok h.turned.mono

/-- An accepted turn leaves the loop behind its event, with the children that the event makes. -/
theorem step_turned (c : Nat → DateTime) (e : RunEvent) :
    Ensures (Turned w hash events (index + 1)
      (if e.iteration.isSome then s else s.childTurn w e.payload))
      (step w hash fuel events c s (e, index)) := by
  simp only [step]
  cases e.iteration with
  | some sc => exact Ensures.bind fun _ _ => .ok h.turned.mono
  | none => exact Ensures.bind fun _ _ => checkPlace_before h hbound (c index) e

theorem step_before (c : Nat → DateTime) (e : RunEvent) :
    Ensures (Before w hash events (index + 1)) (step w hash fuel events c s (e, index)) :=
  fun s' hs' => (step_turned h hbound c e s' hs').before

end

/-! ## The loop -/

/-- A property of the loop that it has at its start and keeps in every accepted turn. -/
structure Kept (w : DefinitionRef) (hash : String) (fuel : Nat) (clock : Nat → DateTime)
    (events : List RunEvent) (P : Nat → HistoryCheck → Prop) : Prop where
  start : P 0 { cursor := .withDefinition events w hash }
  turn : ∀ i event t t', events[i]? = some event → Before w hash events i t → P i t →
    step w hash fuel events clock t (event, i) = .ok t' → P (i + 1) t'

theorem before_start : Before w hash events 0 { cursor := .withDefinition events w hash } :=
  ⟨withDefinition_live events w hash, rfl, Nat.le_refl 0⟩

/-- **Run rule of the loop.** After some of the events the loop stands behind them, with every
property that it keeps. -/
theorem Kept.loop {c : Nat → DateTime} (h : Kept w hash fuel c events P)
    (tail : List RunEvent) :
    ∀ (rest : List RunEvent) (k : Nat) (s : HistoryCheck), events.drop k = rest ++ tail →
      Before w hash events k s → P k s →
      (rest.zipIdx k).foldlM (step w hash fuel events c) s = .ok s' →
      Before w hash events (k + rest.length) s' ∧ P (k + rest.length) s'
  | [], _, _, _, hs, hP, hl => by
    cases hl
    exact ⟨hs, hP⟩
  | first :: rest, k, s, hd, hs, hP, hl => by
    have hf : events[k]? = some first := by
      rw [← List.head?_drop, hd]
      rfl
    have hr : events.drop (k + 1) = rest ++ tail := by
      rw [← List.tail_drop, hd]
      rfl
    simp only [List.zipIdx_cons, List.foldlM_cons, bind_eq_ok] at hl
    obtain ⟨t, ht, hl⟩ := hl
    have hlt : k < events.length := (List.getElem?_eq_some_iff.1 hf).1
    have := h.loop tail rest (k + 1) t hr (step_before hs hlt c first t ht)
      (h.turn k first s t hf hs hP ht) hl
    rwa [show k + 1 + rest.length = k + (first :: rest).length by simp; omega] at this

end HistoryCheck

section
variable [Host] {fuel : Nat} {clock : Nat → DateTime} {w : DefinitionRef} {hash : String}
  {events : List RunEvent} {s : ProjectionFoldState}

section
variable (h : checkEventHistoryAgainstDefinition fuel clock w hash events = .ok s)
include h

theorem fromEvents_of_check : fromEvents events = .ok s := by
  simp only [checkEventHistoryAgainstDefinition, eq_ok_iff] at h
  obtain ⟨_, hf, _, -, rfl⟩ := h
  exact hf

variable {e : RunEvent} {n : Nat}

/-- **At every position of an accepted history** the loop stood before the rest of it, with every
property that it keeps, and accepted the rest. -/
theorem reached_of_check_with (hP : HistoryCheck.Kept w hash fuel clock events P)
    (hn : n ≤ events.length) :
    ∃ c c', HistoryCheck.Before w hash events n c ∧ P n c ∧
      ((events.drop n).zipIdx n).foldlM (HistoryCheck.step w hash fuel events clock) c =
        .ok c' := by
  simp only [checkEventHistoryAgainstDefinition, validateHistoryDefinitionRules, bind_eq_ok] at h
  obtain ⟨_, -, _, ⟨c', hl, -⟩, -⟩ := h
  have hle : (events.take n).length = n := List.length_take_of_le hn
  have hs : events.zipIdx = (events.take n).zipIdx ++ (events.drop n).zipIdx n := by
    conv_lhs => rw [← List.take_append_drop n events, List.zipIdx_append, hle, Nat.zero_add]
  rw [hs, List.foldlM_append, bind_eq_ok] at hl
  obtain ⟨c, hc, hr⟩ := hl
  have := hP.loop (events.drop n) (events.take n) 0 _ (List.take_append_drop n events).symm
    HistoryCheck.before_start hP.start hc
  rw [hle, Nat.zero_add] at this
  exact ⟨c, c', this.1, this.2, hr⟩

/-- **Every event of an accepted history was accepted in its turn.** -/
theorem turn_of_check_with (hP : HistoryCheck.Kept w hash fuel clock events P)
    (hn : events[n]? = some e) :
    ∃ c c', HistoryCheck.Before w hash events n c ∧ P n c ∧
      HistoryCheck.step w hash fuel events clock c (e, n) = .ok c' := by
  obtain ⟨hl, rfl⟩ := List.getElem?_eq_some_iff.1 hn
  obtain ⟨c, _, hc, hp, hr⟩ := reached_of_check_with h hP (Nat.le_of_lt hl)
  rw [List.drop_eq_getElem_cons hl, List.zipIdx_cons, List.foldlM_cons, bind_eq_ok] at hr
  obtain ⟨c', hc', -⟩ := hr
  exact ⟨c, c', hc, hp, hc'⟩

theorem turn_of_check (hn : events[n]? = some e) :
    ∃ c c', HistoryCheck.Before w hash events n c ∧
      HistoryCheck.step w hash fuel events clock c (e, n) = .ok c' := by
  obtain ⟨c, c', hc, -, hc'⟩ := turn_of_check_with h
    (P := fun _ _ => True) ⟨trivial, fun _ _ _ _ _ _ _ _ => trivial⟩ hn
  exact ⟨c, c', hc, hc'⟩

theorem payload_valid_of_check (hn : events[n]? = some e) (ht : e.iteration = none) :
    validatePayloadAgainstDefinition w.toCompiledWorkflowDefinition hash e.payload = .ok () := by
  obtain ⟨c, c', -, hs⟩ := turn_of_check h hn
  simp only [HistoryCheck.step, ht, eq_ok_iff] at hs
  obtain ⟨_, hv, -⟩ := hs
  exact hv

end

end

/-! ## Concrete runs

What the concrete histories of this development share: a definition hash, the policy of one
execution at a time with its canonical text and digest, and the admission under it. -/

namespace SerialRun

def definitionHash : String :=
  "sha256:0000000000000000000000000000000000000000000000000000000000000000"

def policy : CompiledRuntimePolicy := { profileVersion := 1, concurrency := some 1 }

def policyText : String := "\x7b\"concurrency\":1,\"profileVersion\":1\x7d"

def policyDigest : String := "ae13f98486e4479924a4480f3e0f01b2f3e643eab1aa86911d138ca461291a71"

/-- The libraries on what such a run digests: its workflow, its policy, and `more`. -/
@[reducible] def host (workflowId queueDigest : String) (more : List (String × String)) : Host :=
  .recorded ((workflowId, queueDigest) :: (policyText, policyDigest) :: more) policyText

def admission (queueDigest : String) : RunEventPayload :=
  .runAdmitted
    { definitionHash, policyHash := "sha256:" ++ policyDigest
      trigger := ⟨"start", "trigger.manual"⟩, payload := []
      queue := ⟨"workflow-" ++ queueDigest, .workConservingFifo⟩
      admittedAt := 0, occurrenceSequence := 1 }

end SerialRun

end Woml
