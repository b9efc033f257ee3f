import Woml.Engine.Proof.History

/-!
# Appending one event to an accepted history

The store appends an event by checking the whole candidate history again. `check_append_iff` says
what that check asks of the last event when the history before it was accepted: the fold takes the
event, and the check of the event at its place passes. The turns before it do not see the new
event: the cursor reads only what lies before its position (`extend`, `at_extend`), and the one
test that looks ahead, of a failure that must be retried at once, has found its retry already.
-/

namespace Woml

open Checked

namespace HistoryPrefix

/-- The cursor over the history with one more event. -/
def extend (e : RunEvent) (c : HistoryPrefix) : HistoryPrefix :=
  { c with events := c.events ++ [e] }

variable {e : RunEvent} {c : HistoryPrefix}

theorem extend_state : (c.extend e).state = c.state := rfl

theorem extend_poisoned : (c.extend e).poisoned = c.poisoned := rfl

theorem followEvent_extend (ev : RunEvent) :
    (c.extend e).followEvent ev = (c.followEvent ev).extend e := by
  obtain ⟨events, state, next, l, poisoned, definition, f⟩ := c
  simp only [followEvent, extend]
  cases definition with
  | none => rfl
  | some definition =>
    rcases changedNode ev with _ | _ | node
    · rfl
    · rfl
    cases f with
    | none => rfl
    | some f =>
      cases l with
      | none => rfl
      | some l =>
        dsimp only [Option.isSome]
        cases f.update node state.projection l <;> rfl

theorem accept_extend (ev : RunEvent) (state : ProjectionFoldState) :
    (c.extend e).accept ev state = (c.accept ev state).extend e := by
  have advanced (c : HistoryPrefix) := congrArg
    (fun c' : HistoryPrefix => { c' with next := c'.next + 1 })
    (followEvent_extend (e := e) (c := c) ev)
  unfold accept
  by_cases h : state.projection.attempts.length < c.state.projection.attempts.length
  · simp only [extend, h]
    exact advanced { c with state, latest := none, frontierDefinition := none, frontier := none }
  · simp only [extend, h]
    exact advanced { c with
      state
      latest := c.latest.map
        (extendLatest · state.projection.attempts c.state.projection.attempts.length) }

theorem prepare_extend : (c.extend e).prepare = c.prepare.extend e := by
  by_cases h : c.state.projection.status ≠ .running
  · rw [prepare, prepare, if_pos h,
      if_pos (show (c.extend e).state.projection.status ≠ .running from h)]
  · rw [prepare, prepare, if_neg h,
      if_neg (show ¬(c.extend e).state.projection.status ≠ .running from h)]
    obtain ⟨events, state, next, l, poisoned, definition, f⟩ := c
    simp only [extend]
    cases f with
    | some f => rfl
    | none =>
      cases definition with
      | none => rfl
      | some bound =>
        obtain ⟨definition, hash⟩ := bound
        dsimp only
        rcases readinessBinding definition.toCompiledWorkflowDefinition hash
            state.projection with error | _ | _
        · rfl
        · rfl
        · dsimp only
          cases Frontier.new definition state.projection
            (l.getD (latestOrdinals state.projection)) <;> rfl

variable [Host]

theorem advance_extend {ss : Nat} (h : c.next + ss ≤ c.events.length) :
    (c.extend e).advance ss = ((c.advance ss).1.extend e, (c.advance ss).2) := by
  induction ss generalizing c with
  | zero => rfl
  | succ ss ih =>
    have hl : c.next < c.events.length := by omega
    have ho : c.events[c.next]? = some c.events[c.next] := List.getElem?_eq_getElem hl
    have hne : (c.extend e).events[(c.extend e).next]? = some c.events[c.next] := by
      simp only [extend, List.getElem?_append_left hl, ho]
    rw [advance, advance, ho, hne]
    dsimp only
    rw [extend_state]
    cases c.state.apply c.events[c.next] with
    | error error => rfl
    | ok state =>
      dsimp only
      obtain ⟨he, -, hn⟩ := accept_position (c := c) c.events[c.next] state
      rw [accept_extend, ih (by rw [he, hn]; omega)]

theorem at_extend {p : Nat} (h : p ≤ c.events.length) :
    (c.extend e).at p = ((c.at p).1.extend e, (c.at p).2) := by
  simp only [HistoryPrefix.at, extend_poisoned]
  cases c.poisoned with
  | some error => rfl
  | none =>
    by_cases hl : p < c.next
    · rw [if_pos (.inl hl), if_pos (.inl hl)]
    · have hn : ¬(p < (c.extend e).next ∨ (c.extend e).events.length < p) := by
        simp only [extend, List.length_append]
        omega
      rw [if_neg hn, if_neg (by omega)]
      exact @advance_extend e c _ (p - c.next) (by omega)

theorem queryAt_extend {p : Nat} (h : p ≤ c.events.length) :
    (c.extend e).queryAt p = ((c.queryAt p).1.extend e, (c.queryAt p).2) := by
  simp only [queryAt, at_extend h]
  rcases c.at p with ⟨c', result⟩
  cases result with
  | error error => rfl
  | ok projection =>
    dsimp only
    rw [prepare_extend]
    rfl

end HistoryPrefix

namespace HistoryCheck

/-- The state of the loop over the history with one more event. -/
def extend (e : RunEvent) (s : HistoryCheck) : HistoryCheck :=
  { s with cursor := s.cursor.extend e }

variable {e : RunEvent} {s s' : HistoryCheck} {w : DefinitionRef} {hash : String} {index fuel : Nat}

theorem extend_setGroupChild (ni : String) (st : ParallelChildState) :
    (s.extend e).setGroupChild w ni st = (s.setGroupChild w ni st).extend e := by
  unfold setGroupChild
  split <;> rfl

theorem extend_setWaitChild (wi : String) (st : ParallelChildState) :
    (s.extend e).setWaitChild w wi st = (s.setWaitChild w wi st).extend e := by
  unfold setWaitChild
  cases w.durableWait wi with
  | none => rfl
  | some wait => exact extend_setGroupChild wait.nodeId st

variable [Host] {events : List RunEvent}

theorem at_extend (hl : index ≤ s.cursor.events.length) :
    Maps (Prod.map (extend e) id) (s.at index) ((s.extend e).at index) := by
  simp only [HistoryCheck.at, extend, HistoryPrefix.at_extend hl]
  rcases s.cursor.at index with ⟨cr, error | projection⟩
  · exact .error
  · exact .ok rfl

theorem queryAt_extend (hl : index ≤ s.cursor.events.length) :
    Maps (Prod.map (extend e) id) (s.queryAt index) ((s.extend e).queryAt index) := by
  simp only [HistoryCheck.queryAt, extend, HistoryPrefix.queryAt_extend hl]
  rcases s.cursor.queryAt index with ⟨cr, error | view⟩
  · exact .error
  · exact .ok rfl

/-! ## One turn -/

theorem requireReady_extend (hl : index ≤ s.cursor.events.length) {now : DateTime}
    {ni er : String} : Maps (extend e) (s.requireReady w hash fuel index now ni er)
      ((s.extend e).requireReady w hash fuel index now ni er) :=
  (queryAt_extend hl).bind fun _ => .same fun _ => .same fun _ => .ok rfl

variable {ev : RunEvent}

theorem stepAttemptStarted_extend (hl : index ≤ s.cursor.events.length)
    {data : StepAttemptStartedData} :
    Maps (extend e) (s.stepAttemptStarted w hash fuel index ev data)
      ((s.extend e).stepAttemptStarted w hash fuel index ev data) := by
  refine (queryAt_extend hl).bind fun _ => .same fun _ => .same fun _ => .same fun _ => ?_
  cases w.parallelGroupForChild data.nodeId with
  | none => exact .ok rfl
  | some group => exact .same fun _ => .same fun _ => .ok rfl

theorem forkBranchSettled_extend (hl : index ≤ s.cursor.events.length)
    {data : ForkBranchSettledData} : Maps (extend e) (s.forkBranchSettled w fuel index data)
      ((s.extend e).forkBranchSettled w fuel index data) := by
  refine .same fun _ => .same fun _ => ?_
  split
  · exact (at_extend hl).bind fun _ => .same fun _ => .same fun _ => .ok rfl
  · exact .ok rfl

theorem correctionAttemptStarted_extend (hl : index ≤ s.cursor.events.length)
    {data : CorrectionAttemptIdentityData} :
    Maps (extend e) (s.correctionAttemptStarted w index data)
      ((s.extend e).correctionAttemptStarted w index data) := by
  refine .same fun _ => (at_extend hl).bind fun _ => .same fun _ => ?_
  cases data.actionKind <;> exact .same fun _ => .ok rfl

omit [Host] in
theorem previousOf_append (h : index ≤ events.length) :
    previousOf (events ++ [e]) index = previousOf events index := by
  cases index with
  | zero => rfl
  | succ index => exact List.getElem?_append_left (by omega)

omit [Host] in
/-- A failure that must be retried at once is followed by its retry already. -/
theorem stepAttemptFailed_extend {data : StepAttemptFailedData} :
    Maps (extend e) (s.stepAttemptFailed w events index data)
      ((s.extend e).stepAttemptFailed w (events ++ [e]) index data) := by
  refine Maps.bind (g := id) ?_ fun _ => .ok (extend_setGroupChild _ _)
  intro u hr
  rw [failIf_eq_ok] at hr ⊢
  refine fun hm => hr ⟨hm.1, ?_⟩
  have hl := hm.2
  by_cases hlt : index + 1 < events.length
  · rwa [List.getElem?_append_left hlt] at hl
  · rw [List.getElem?_eq_none (by omega)]
    rfl

/-- **The turns of the old events do not see the new one.** -/
theorem checkPlace_extend (hlt : index < s.cursor.events.length)
    (he : s.cursor.events = events) {now : DateTime} :
    Maps (extend e) (s.checkPlace w hash fuel events index now ev)
      ((s.extend e).checkPlace w hash fuel (events ++ [e]) index now ev) := by
  have hl := Nat.le_of_lt hlt
  have hp : previousOf (events ++ [e]) index = previousOf events index :=
    previousOf_append (he ▸ hl)
  unfold checkPlace
  cases ev.payload with
  | choiceSelected | forkOpened | sagaStarted | parallelGroupStarted =>
    exact .same fun _ => requireReady_extend hl
  | approvalReviewRequested => exact requireReady_extend hl
  | approvalRequested =>
    exact .same fun _ => (requireReady_extend hl).bind fun _ => .same fun _ => .same fun _ => .ok rfl
  | waitRegistered => exact (requireReady_extend hl).bind fun _ => .ok (extend_setGroupChild _ _)
  | stepAttemptStarted => exact stepAttemptStarted_extend hl
  | forkBranchSettled => exact forkBranchSettled_extend hl
  | correctionAttemptStarted => exact correctionAttemptStarted_extend hl
  | stepAttemptFailed => exact stepAttemptFailed_extend
  | stepRetryScheduled =>
    simp only [stepRetryScheduled, precedingFailure, hp]
    iterate 5 refine .same fun _ => ?_
    exact .ok (extend_setGroupChild _ _)
  | forkJoinSettled | sagaCorrectionCompleted =>
    exact .same fun _ => (at_extend hl).bind fun _ => .same fun _ => .same fun _ => .ok rfl
  | runOutcomeDecided =>
    refine (at_extend hl).bind fun found => ?_
    obtain ⟨_, p⟩ := found
    dsimp only [Prod.map, id]
    cases w.graph.forkList.find? fun fork => !forkSettled p fork with
    | some fork => exact .error
    | none => exact .ok rfl
  | runSucceeded => exact (at_extend hlt).bind fun _ => .same fun _ => .ok rfl
  | lifecycleHookRequested =>
    simp only [lifecycleHookRequested, hp]
    exact .same fun _ => .same fun _ => .ok rfl
  | lifecycleActionAttemptStarted =>
    refine (at_extend hl).bind fun _ => ?_
    iterate 4 refine .same fun _ => ?_
    exact .ok rfl
  | lifecycleHookCompleted =>
    refine (at_extend hl).bind fun _ => ?_
    iterate 3 refine .same fun _ => ?_
    exact .ok rfl
  | parallelGroupCompleted => exact .same fun _ => .same fun _ => .ok rfl
  | stepAttemptSucceeded => exact .ok (extend_setGroupChild _ _)
  | waitSatisfied | waitTimedOut | waitCancelled => exact .ok (extend_setWaitChild _ _)
  | _ => exact .ok rfl

theorem step_extend (hl : index < s.cursor.events.length) (he : s.cursor.events = events)
    {c : Nat → DateTime} :
    Maps (extend e) (step w hash fuel events c s (ev, index))
      (step w hash fuel (events ++ [e]) c (s.extend e) (ev, index)) := by
  simp only [step]
  cases ev.iteration with
  | some sc => exact .same fun _ => .ok rfl
  | none => exact .same fun _ => checkPlace_extend hl he

/-- The loop over the old events ends in the extended state. -/
theorem loop_extend {c : Nat → DateTime} :
    ∀ (rest : List RunEvent) (k : Nat) (s : HistoryCheck), events.drop k = rest →
      Before w hash events k s →
      (rest.zipIdx k).foldlM (step w hash fuel events c) s = .ok s' →
      (rest.zipIdx k).foldlM (step w hash fuel (events ++ [e]) c) (s.extend e) =
        .ok (s'.extend e)
  | [], _, _, _, _, h => by
    cases h
    rfl
  | first :: rest, k, s, hd, hs, h => by
    have hl : k < events.length := by
      by_contra hg
      rw [List.drop_of_length_le (by omega)] at hd
      cases hd
    have hr : events.drop (k + 1) = rest := by
      rw [← List.tail_drop, hd, List.tail_cons]
    simp only [List.zipIdx_cons, List.foldlM_cons, bind_eq_ok] at h ⊢
    obtain ⟨t, ht, h⟩ := h
    exact ⟨_, step_extend (hs.bound ▸ hl) hs.bound _ ht,
      loop_extend rest (k + 1) t hr (step_before hs hl c first t ht) h⟩

theorem Before.at_eq_ok (h : Before w hash events index s) (hb : index ≤ events.length)
    {t : ProjectionFoldState} (ht : ProjectionFoldState.fromEvents (events.take index) = .ok t) :
    ∃ c, s.at index = .ok (c, t.projection) := by
  have key := HistoryPrefix.at_spec h.live h.reached (by rw [h.bound]; exact hb)
  rw [h.bound, ht] at key
  rw [HistoryCheck.at]
  rcases ha : s.cursor.at index with ⟨cursor, result⟩
  rw [ha] at key
  obtain ⟨hr, -⟩ := key
  simp only at hr
  exact ⟨{ s with cursor }, by rw [hr]; rfl⟩

end HistoryCheck

section
variable [Host] {fuel : Nat} {cl : Nat → DateTime} {w : DefinitionRef} {hash : String}
  {es : List RunEvent} {e : RunEvent} {s s' : ProjectionFoldState}

open ProjectionFoldState

/-- **Appending to an accepted history**: the loop reaches the new event as it did before, and the
new history is accepted if the fold takes the event and its turn accepts it. -/
theorem check_append_iff {P : Nat → HistoryCheck → Prop}
    (h : checkEventHistoryAgainstDefinition fuel cl w hash es = .ok s)
    (hP : HistoryCheck.Kept w hash fuel cl (es ++ [e]) P) :
    ∃ c, HistoryCheck.Before w hash (es ++ [e]) es.length c ∧ P es.length c ∧
      ∀ s', checkEventHistoryAgainstDefinition fuel cl w hash (es ++ [e]) = .ok s' ↔
        s.apply e = .ok s' ∧ ∃ c', HistoryCheck.step w hash fuel (es ++ [e]) cl c
          (e, es.length) = .ok c' := by
  have hf := fromEvents_of_check h
  simp only [checkEventHistoryAgainstDefinition, validateHistoryDefinitionRules, bind_eq_ok] at h
  obtain ⟨_, -, _, ⟨t, hl, -⟩, -⟩ := h
  have ho : es.zipIdx.foldlM (HistoryCheck.step w hash fuel (es ++ [e]) cl)
      { cursor := .withDefinition (es ++ [e]) w hash } = .ok (t.extend e) :=
    HistoryCheck.loop_extend es 0 _ rfl HistoryCheck.before_start hl
  obtain ⟨hb, hk⟩ := hP.loop [e] es 0 _ rfl HistoryCheck.before_start hP.start ho
  rw [Nat.zero_add] at hb hk
  refine ⟨t.extend e, hb, hk, fun s' => ?_⟩
  simp only [checkEventHistoryAgainstDefinition, validateHistoryDefinitionRules, eq_ok_iff,
    fromEvents_snoc, hf, List.zipIdx_append, List.foldlM_append, ho, List.zipIdx_cons,
    List.zipIdx_nil, List.foldlM_cons, List.foldlM_nil, Nat.zero_add, bind_pure, exists_eq_left',
    and_true, exists_const]
  constructor
  · rintro ⟨_, ha, ht, rfl⟩
    exact ⟨ha, ht⟩
  · rintro ⟨ha, ht⟩
    exact ⟨s', ha, ht, rfl⟩

theorem check_append (h : checkEventHistoryAgainstDefinition fuel cl w hash es = .ok s)
    (ha : s.apply e = .ok s')
    (ht : ∀ c, HistoryCheck.Before w hash (es ++ [e]) es.length c →
      ∃ c', HistoryCheck.step w hash fuel (es ++ [e]) cl c (e, es.length) = .ok c') :
    checkEventHistoryAgainstDefinition fuel cl w hash (es ++ [e]) = .ok s' := by
  obtain ⟨c, hc, -, hi⟩ := check_append_iff h
    (P := fun _ _ => True) ⟨trivial, fun _ _ _ _ _ _ _ _ => trivial⟩
  exact (hi s').2 ⟨ha, ht c hc⟩

end

end Woml
