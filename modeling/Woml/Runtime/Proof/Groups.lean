import Woml.Engine.Proof.Append
import Woml.Engine.Proof.Parallel
import Woml.Runtime.Settlement

/-!
# When an open parallel group can be closed

The settlement of a cancelled run lists the children of a group by their latest attempts. The check
of the history lists them by the last event that concerns each child (`childState`), and asks that
no child is left in flight. The two agree on a child that succeeded, or that its latest attempt
failed; a child that awaits a retry, a durable wait that ended badly and, in a group that waits for
all, a child that never started keep the group from being closed (`open_group_closed_iff`).
-/

namespace Woml

open Checked ProjectionFoldState HistoryCheck ParallelGroupDefinition RunProjection

/-! ## The last report of a child -/

/-- How the last event that concerns a node leaves it. -/
def childState (w : CompiledWorkflowDefinition) (events : List RunEvent) (nodeId : String) :
    Option ParallelChildState :=
  events.foldl (fun state event => (childReport w event nodeId).or state) none

section
variable {w : CompiledWorkflowDefinition} {es : List RunEvent} {e : RunEvent}
  {ni : String} {p : RunProjection} {st : Option ParallelChildState}

theorem childState_snoc : childState w (es ++ [e]) ni =
    (childReport w e ni).or (childState w es ni) := by
  simp [childState]

theorem waitState_of_waitNode (h : waitNode w e = some ni) :
    ∃ st, waitState e.payload = some st ∧ st ≠ .retryPending := by
  unfold waitNode at h
  split at h
  · cases h
  · unfold waitState
    cases hp : e.payload <;> rw [hp] at h <;> try cases h
    case waitTimedOut data =>
      refine ⟨_, rfl, ?_⟩
      split <;> nofun
    all_goals exact ⟨_, rfl, nofun⟩

theorem Coupled.latestFailure_none (h : Coupled p ni none) : p.latestFailure ni = none := by
  have hla := h.latest
  rw [RunProjection.latestFailure, RunProjection.latestAttempt_eq]
  cases hl : (p.attemptsOf ni).getLast? with
  | none => rfl
  | some a => rw [hl] at hla; cases hla

theorem Coupled.latestFailure_some (h : Coupled p ni (some .retryPending)) :
    p.latestFailure ni ≠ none := by
  have hla := h.latest
  rw [latestFailure, latestAttempt_eq]
  cases hl : (p.attemptsOf ni).getLast? with
  | none => rw [hl] at hla; cases hla
  | some a =>
    rw [hl] at hla
    cases hla with
    | retryPending _ failure status => simp [status]

/-- What the last report says of the attempts: none without a report, and a failed one where a
retry is awaited. A durable wait may have the last word otherwise. -/
theorem latestFailure_of_childState [Host] {s : ProjectionFoldState} (w : CompiledWorkflowDefinition)
    (ni : String) (h : fromEvents es = .ok s) :
    (childState w es ni = none → s.projection.latestFailure ni = none) ∧
    (childState w es ni = some .retryPending →
      s.projection.latestFailure ni ≠ none) := by
  obtain ⟨st, hc, hn, hr⟩ := fromEvents_induction
    (P := fun es s => ∃ st, Coupled s.projection ni st ∧
      (childState w es ni = none → st = none) ∧
      (childState w es ni = some .retryPending → st = some .retryPending))
    ⟨none, coupled_initial ni, fun _ => rfl, by rintro ⟨⟩⟩
    (fun es s e s' hs hco ha => by
      obtain ⟨st, hc, hn, hr⟩ := hco
      refine ⟨_, hc.apply hs ha, ?_⟩
      rw [childState_snoc, childReport]
      cases childEvent e ni with
      | some st => exact ⟨by rintro ⟨⟩, id⟩
      | none =>
        split
        · rename_i hw
          obtain ⟨st, hst, hne⟩ := waitState_of_waitNode hw
          rw [hst]
          exact ⟨by rintro ⟨⟩, fun h => absurd (Option.some.inj h) hne⟩
        · exact ⟨hn, hr⟩) h
  exact ⟨fun h => (hn h ▸ hc).latestFailure_none, fun h => (hr h ▸ hc).latestFailure_some⟩

end

/-! ## The two lists -/

/-- A child with which a group can be closed, by its last report and its latest failure. -/
inductive MayClose (waitAll : Prop) :
    Option ParallelChildState → Option AttemptFailureKind → Prop
  | unstarted (policy : ¬waitAll) : MayClose waitAll none none
  | succeeded : MayClose waitAll (some .succeeded) none
  | failed (kind latest : AttemptFailureKind)
      (same : kind = .invocationCancelled ↔ latest = .invocationCancelled) :
      MayClose waitAll (some (.failed kind)) (some latest)

/-- The group is closed with the child in the lists of both sides. -/
def ListsChild (waitAll : Prop) [Decidable waitAll] (state : Option ParallelChildState)
    (latest : Option AttemptFailureKind) : Prop :=
  (if waitAll then (state.any fun
      | .succeeded | .failed _ => true
      | _ => false) = true
    else state.any (· = .active) = false) ∧
  (latest.any (· ≠ .invocationCancelled) = state.any fun
    | .failed kind => kind ≠ .invocationCancelled
    | _ => false) ∧
  latest.any (· = .invocationCancelled) = state.any (· = .failed .invocationCancelled)

theorem mayClose_iff {wa : Prop} [Decidable wa] {s : Option ParallelChildState}
    {latest : Option AttemptFailureKind} (hn : s = none → latest = none)
    (hr : s = some .retryPending → latest ≠ none) :
    MayClose wa s latest ↔ ListsChild wa s latest := by
  constructor
  · intro h
    cases h with
    | unstarted policy => simp [ListsChild, policy]
    | succeeded => by_cases wa <;> simp [ListsChild, *]
    | failed kind latest same => by_cases wa <;> simp [ListsChild, *]
  · rintro ⟨ho, hf, hc⟩
    cases s with
    | none =>
      cases hn rfl
      exact .unstarted fun hw => by simp [hw] at ho
    | some s =>
      cases s with
      | active => split at ho <;> simp at ho
      | failed kind =>
        cases latest with
        | none => by_cases kind = .invocationCancelled <;> simp_all
        | some latest => exact .failed kind latest (by simpa [eq_comm] using hc)
      | succeeded =>
        cases latest with
        | none => exact .succeeded
        | some kind => by_cases kind = .invocationCancelled <;> simp_all
      | retryPending =>
        cases latest with
        | none => exact absurd rfl (hr rfl)
        | some kind => by_cases kind = .invocationCancelled <;> simp_all

section
variable [Host] {fuel : Nat} {clock : Nat → DateTime} {w : DefinitionRef} {hash : String}
  {events : List RunEvent} {s : ProjectionFoldState} {parallelId : String}
  {group : ParallelGroupDefinition}

theorem childStates_kept (ho : Owns w group) :
    Kept w hash fuel clock events fun n c => ∀ nodeId ∈ group.childNodeIds,
      c.childStates.get? nodeId =
        childState w.toCompiledWorkflowDefinition (events.take n) nodeId where
  start := fun _ _ => rfl
  turn := by
    intro n event c c' hn hc h ht nodeId hch
    rw [step_children hc (List.getElem?_eq_some_iff.1 hn).1 (by rw [ho nodeId hch]; rfl) ht,
      h nodeId hch, List.take_add_one, hn, Option.toList_some, childState_snoc]

omit [Host] in
theorem filter_eq_iff {α : Type} {l : List α} {f g : α → Bool} :
    l.filter f = l.filter g ↔ ∀ a ∈ l, f a = g a := by
  refine ⟨fun h a ha => ?_, List.filter_congr⟩
  have hm : a ∈ l.filter f ↔ a ∈ l.filter g := by rw [h]
  rw [List.mem_filter, List.mem_filter, and_iff_right ha, and_iff_right ha] at hm
  exact Bool.eq_iff_iff.2 hm

omit [Host] in
/-- What the check asks of the completion that the settlement builds. -/
theorem parallelGroupCompleted_iff {c : HistoryCheck} {p : RunProjection}
    (hg : w.parallelGroup group.parallelId = some group) :
    (∃ c', c.parallelGroupCompleted w (group.cancelledCompletion p) = .ok c') ↔
    ∀ nodeId ∈ group.childNodeIds, ListsChild (group.onError = "wait-all")
      (c.childStates.get? nodeId) (p.latestFailure nodeId) := by
  simp only [parallelGroupCompleted, cancelledCompletion, hg, orFail,
    ok_bind, eq_ok_iff, not_or, not_not, Bool.not_eq_true', Bool.not_eq_false, childrenIn,
    filter_eq_iff, ListsChild, exists_const, exists_eq_right', forall_and]
  -- both sides now say the same of each child
  by_cases hw : group.onError = "wait-all" <;>
    simp only [hw, if_true, if_false, decide_eq_true_eq, List.filter_eq_self,
      List.filter_eq_nil_iff, Bool.not_eq_true] <;>
    exact Iff.rfl

/-- **When an open group can be closed.** After an accepted history of a run in cancellation, the
completion that the settlement builds for a started group is accepted exactly if the group can be
closed with each of its children. -/
theorem open_group_closed_iff
    (hcheck : checkEventHistoryAgainstDefinition fuel clock w hash events = .ok s)
    (hcancelling : s.projection.status = .cancelling)
    (hgroup : w.parallelGroup parallelId = some group)
    (hclosed : w.childBoundariesAreClosed parallelId = true)
    (hstarted : (s.projection.parallelGroups.get? parallelId).any (·.status = .started) = true)
    {event : RunEvent} (hgate : s.gate event = .ok ()) (htop : event.iteration = none)
    (hsettled : group.settleCancelling s.projection = some event.payload) :
    (∃ s', checkEventHistoryAgainstDefinition fuel clock w hash (events ++ [event]) = .ok s') ↔
      ∀ nodeId ∈ group.childNodeIds, MayClose (group.onError = "wait-all")
        (childState w.toCompiledWorkflowDefinition events nodeId)
        (s.projection.latestFailure nodeId) := by
  have ho : Owns w group := fun nodeId hc => group_of_child hclosed hgroup hc
  cases parallelId_of_parallelGroup hgroup
  have hpa : event.payload = .parallelGroupCompleted (group.cancelledCompletion s.projection) := by
    simp only [settleCancelling] at hsettled
    split at hsettled
    · cases hsettled
    · exact (Option.some.inj hsettled).symm
  -- the fold and the check of the payload alone take the event
  have hf : ∃ p, applyPayload s.projection event s.attemptIndexes s.previousEvent = .ok p := by
    obtain ⟨projected, hpr, hs⟩ := (Option.any_eq_true _ _).1 hstarted
    rw [applyPayload, hpa]
    simp only [applyParallelGroupCompleted, eq_ok_iff, requireRunningOrCancelling_eq_ok]
    exact ⟨_, (), .inr hcancelling, projected, hpr, (), by simpa using hs, rfl⟩
  have hv : validatePayloadAgainstDefinition w.toCompiledWorkflowDefinition hash
      (.parallelGroupCompleted (group.cancelledCompletion s.projection)) = .ok () := by
    simp only [validatePayloadAgainstDefinition, checkParallelGroupCompleted, eq_ok_iff]
    refine ⟨group, hgroup, ?_⟩
    simp +contextual [cancelledCompletion]
  obtain ⟨p, hp⟩ := hf
  obtain ⟨c, -, hst, hi⟩ := check_append_iff (e := event) hcheck (childStates_kept ho)
  rw [List.take_left] at hst
  have ht (c' : HistoryCheck) : HistoryCheck.step w hash fuel (events ++ [event]) clock c
      (event, events.length) = .ok c' ↔
      c.parallelGroupCompleted w (group.cancelledCompletion s.projection) = .ok c' := by
    simp only [HistoryCheck.step, htop, checkPlace, hpa, hv]
    exact Iff.rfl
  simp only [hi, apply_top_eq_ok hgate htop, hp, ht, Except.ok.injEq, exists_eq_left',
    exists_and_right, exists_eq, true_and]
  rw [parallelGroupCompleted_iff hgroup]
  refine forall₂_congr fun nodeId hc => ?_
  obtain ⟨hn, hr⟩ := latestFailure_of_childState w.toCompiledWorkflowDefinition nodeId
    (fromEvents_of_check hcheck)
  rw [hst nodeId hc, mayClose_iff hn hr]

end

/-! ## A child that never started

The run of the sibling wait is cancelled while its step is in flight and before its wait is
registered. -/

namespace SiblingWait

open SerialRun (definitionHash)

/-- The step is failed by the cancellation. -/
def cancelled : List RunEvent :=
  history.take 4 ++
    [event 5 "e5" (.runCancellationRequested ⟨"stop"⟩),
      event 6 "e6" (work.failed
        { kind := .invocationCancelled, code := "WOML_SCRIPT_CANCELLED"
          message := "The step invocation was cancelled with its workflow run." })]

/-- The completion that the settlement builds. -/
def completion : RunEvent :=
  event 7 "e7" (.parallelGroupCompleted ⟨"both", .failed, [], ["work"]⟩)

/-- The run is in cancellation, its group is open and the step was cancelled. -/
def isClosing (s : ProjectionFoldState) : Bool :=
  s.projection.status = .cancelling &&
    (s.projection.parallelGroups.get? "both").any (·.status = .started) &&
    (@gate host s completion).isOk &&
    s.projection.latestFailure "work" = some .invocationCancelled &&
    s.projection.latestFailure "pause" = none

theorem settleCancelling_eq {s : ProjectionFoldState} (h : isClosing s = true) (oe : String) :
    (group oe).settleCancelling s.projection = some completion.payload := by
  simp only [isClosing, Bool.and_eq_true, decide_eq_true_eq] at h
  simp [settleCancelling, cancelledCompletion,
    group, h.1.2, h.2, completion, event]

/-- A group that waits for all of its children cannot be closed without the wait. -/
theorem unstarted_child_keeps_group_open :
    (∃ s, @checkEventHistoryAgainstDefinition host 4 (fun _ => 0) definition definitionHash
        cancelled = .ok s ∧ isClosing s = true ∧
      (group "wait-all").settleCancelling s.projection = some completion.payload) ∧
    (@checkEventHistoryAgainstDefinition host 4 (fun _ => 0) definition definitionHash
      (cancelled ++ [completion])).isOk = false := by
  obtain ⟨s, hs, hc⟩ : ∃ s, @checkEventHistoryAgainstDefinition host 4 (fun _ => 0) definition
      definitionHash cancelled = .ok s ∧ isClosing s = true := by
    decide +kernel
  exact ⟨⟨s, hs, hc, settleCancelling_eq hc _⟩, by decide +kernel⟩

/-- A group that fails fast is closed without it. -/
theorem unstarted_child_left_behind :
    ∃ s', @checkEventHistoryAgainstDefinition host 4 (fun _ => 0) failFast definitionHash
      (cancelled ++ [completion]) = .ok s' := by
  obtain ⟨s, hs, hc⟩ : ∃ s, @checkEventHistoryAgainstDefinition host 4 (fun _ => 0) failFast
      definitionHash cancelled = .ok s ∧ isClosing s = true := by
    decide +kernel
  have hse := settleCancelling_eq hc "fail-fast"
  simp only [isClosing, Bool.and_eq_true, decide_eq_true_eq] at hc
  obtain ⟨⟨⟨⟨hst, hsd⟩, hg⟩, hw⟩, hp⟩ := hc
  obtain ⟨⟨⟩, hg⟩ := exists_ok hg
  refine (@open_group_closed_iff host _ _ _ _ _ _ _ _ hs hst failFast_group_eq
    (by decide +kernel) hsd _ hg rfl hse).2 fun nodeId hch => ?_
  rcases List.mem_pair.1 hch with rfl | rfl
  · rw [hw]
    exact .failed _ _ Iff.rfl
  · rw [hp]
    exact .unstarted (by decide)

end SiblingWait

end Woml
