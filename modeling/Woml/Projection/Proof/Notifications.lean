import Woml.Projection.Proof.Run

/-!
# Provider decisions

A decision of a chat provider is taken for one delivered request, but the fold compares it with the
decisions of the whole run: `decisions_of_fold` says that it keeps every one that a history
accepted, also of requests that are resolved. So a run takes one provider decision, whatever the
number of its approvals (`decision_accepted_iff`).
-/

namespace Woml

open Checked ProjectionFoldState

/-- The provider decision that an event accepts. -/
def acceptedDecision (event : RunEvent) : Option NotificationDecisionAcceptedData :=
  match event.payload with
  | .notificationDecisionAccepted data => some data
  | _ => none

/-- The delivery of a decision reached its provider, for the request that the decision names. -/
def RunProjection.delivered (p : RunProjection) (data : NotificationDecisionAcceptedData) : Bool :=
  (p.notificationDeliveries.get? data.deliveryId).any fun delivery =>
    delivery.approvalId = data.approvalId && delivery.requestId = data.requestId &&
      delivery.status.isSucceeded

/-- The request that a decision names waits for one. -/
def RunProjection.unresolved (p : RunProjection) (data : NotificationDecisionAcceptedData) : Bool :=
  (p.approvalRequests.get? data.approvalId).any fun request =>
    request.requestId = data.requestId && request.status = .waiting

section
variable [Host] {s s' : ProjectionFoldState} {event : RunEvent} {events : List RunEvent}

/-- A handler of notifications runs outside the loops. -/
theorem touched_notifications (h : s.apply event = .ok s') :
    Slice.notifications ∈ touched event ↔ Slice.notifications ∈ footprint event.payload := by
  cases hsc : isIterationScoped event with
  | false => simp [touched, hsc]
  | true =>
    refine iff_of_false (by simp [touched, hsc]) fun hf => ?_
    obtain ⟨-, p, hp, -⟩ := apply_eq_ok.1 h
    simp only [handle, hsc, if_true, applyIterationScopedEvent, bind_eq_ok] at hp
    obtain ⟨_, -, _, -, _, -, _, -, _, -, _, hw, -⟩ := hp
    cases hpa : event.payload <;> simp [hpa, footprint] at hf <;>
      simp [ForEachIterationExecutionProjection.apply, hpa] at hw

theorem apply_decisions (h : s.apply event = .ok s') :
    s'.projection.notificationDecisions =
      s.projection.notificationDecisions ++ (acceptedDecision event).toList := by
  by_cases hsl : Slice.notifications ∈ touched event
  · obtain ⟨-, hsl, p, hp, rfl⟩ := handler_of_touched h hsl nofun
    show p.notificationDecisions = _
    rw [applyPayload] at hp
    cases hpa : event.payload <;> rw [hpa] at hsl hp
    case notificationDecisionAccepted data =>
      simp only [applyNotificationDecisionAccepted, eq_ok_iff] at hp
      obtain ⟨_, -, _, -, _, -, rfl⟩ := hp
      rw [acceptedDecision, hpa, Option.toList_some]
    -- the other handlers of notifications write the deliveries and the updates
    all_goals first
      | (simp [footprint] at hsl; done)
      | (simp only [acceptedDecision, hpa, Option.toList_none, List.append_nil]
         clear h
         revert p
         show Ensures (fun q : RunProjection =>
           q.notificationDecisions = s.projection.notificationDecisions) _
         repeat first
           | exact .ok rfl
           | refine Ensures.bind fun _ _ => ?_)
  · have hs := apply_keeps h .notifications hsl
    rw [touched_notifications h] at hsl
    have hn : acceptedDecision event = none := by
      unfold acceptedDecision
      split
      · rename_i hpa
        simp [hpa, footprint] at hsl
      · rfl
    rw [hn, Option.toList_none, List.append_nil]
    exact (Prod.mk.inj (Prod.mk.inj hs).2).2

theorem decisions_of_fold (h : fromEvents events = .ok s) :
    s.projection.notificationDecisions = events.filterMap acceptedDecision := by
  refine fromEvents_induction
    (P := fun events s => s.projection.notificationDecisions = events.filterMap acceptedDecision)
    rfl ?_ h
  intro events s event s' _ ih ha
  rw [apply_decisions ha, ih, List.filterMap_append]
  cases hd : acceptedDecision event <;> simp [hd]

/-- **A delivered decision is accepted exactly if the run waits and has taken none.** -/
theorem decision_accepted_iff {data : NotificationDecisionAcceptedData}
    (h : fromEvents events = .ok s) (hgate : s.gate event = .ok ()) (htop : event.iteration = none)
    (hpayload : event.payload = .notificationDecisionAccepted data)
    (hdelivered : s.projection.delivered data = true) :
    (∃ s', fromEvents (events ++ [event]) = .ok s') ↔
      s.projection.status = .waiting ∧ ∀ earlier ∈ events, acceptedDecision earlier = none := by
  have hn : s.projection.notificationDecisions = [] ↔
      ∀ earlier ∈ events, acceptedDecision earlier = none := by
    rw [decisions_of_fold h, List.filterMap_eq_nil_iff]
  simp only [RunProjection.delivered, Option.any_eq_true, Bool.and_eq_true, decide_eq_true_eq]
    at hdelivered
  obtain ⟨delivery, hd, ⟨ha, hr⟩, hs⟩ := hdelivered
  have hsc : isIterationScoped event = false := by simp [isIterationScoped, htop]
  have hh : (∃ p, s.handle event = .ok p) ↔
      s.projection.status = .waiting ∧ s.projection.notificationDecisions = [] := by
    simp [handle, hsc, applyPayload, hpayload, applyNotificationDecisionAccepted, bind_eq_ok, hd,
      ha, hr, hs]
  rw [fromEvents_snoc, h, ok_bind, ← hn, ← hh]
  constructor
  · rintro ⟨s', hap⟩
    obtain ⟨-, p, hp, -⟩ := apply_eq_ok.1 hap
    exact ⟨p, hp⟩
  · rintro ⟨p, hp⟩
    exact ⟨s.next event p, apply_eq_ok.2 ⟨hgate, p, hp, rfl⟩⟩

end

/-! ## Two approvals of one run -/

namespace TwoApprovals

def definitionHash : String :=
  "sha256:0000000000000000000000000000000000000000000000000000000000000000"

def event (sequence : Nat) (payload : RunEventPayload) : RunEvent :=
  { eventSchemaVersion := 5, eventId := s!"e{sequence}", runId := "run", sequence
    occurredAt := sequence, payload }

def delivery (approvalId : String) : String := approvalId ++ ":notify:0:channel:0"

def decision (approvalId requestId : String) : NotificationDecisionAcceptedData :=
  ⟨approvalId, requestId, delivery approvalId, "slack", "U00000001", .approved⟩

/-- A request whose notification reaches its channel, with its first event at a position. -/
def requested (n : Nat) (approvalId requestId : String) : List RunEvent :=
  [event n (.approvalRequested ⟨approvalId, requestId, none, .reject⟩),
    event (n + 1) (.notificationDeliveryRequested
      ⟨approvalId, requestId, delivery approvalId, "slack", "reviews"⟩),
    event (n + 2) (.notificationDeliveryAttemptStarted
      ⟨approvalId, requestId, delivery approvalId, 1, "nattempt_001", definitionHash⟩),
    event (n + 3) (.notificationDeliverySucceeded ⟨approvalId, requestId, delivery approvalId, 1,
      "nattempt_001", .slack "T00000001" "C00000001" "1700000000.000001"⟩)]

/-- The first approval is decided in its channel, then the second one is asked for. -/
def history : List RunEvent :=
  event 1 (.runStarted ⟨"reviews", definitionHash, none, none, none, none, []⟩) ::
    requested 2 "first" "aprreq_001" ++
    [event 6 (.notificationDecisionAccepted (decision "first" "aprreq_001")),
      event 7 (.approvalResolved (.basic "first" "aprreq_001" (.decision .approved .human)))] ++
    requested 8 "second" "aprreq_002"

/-- The decision on the second approval. -/
def second : RunEvent := event 12 (.notificationDecisionAccepted (decision "second" "aprreq_002"))

/-- The second request waits, its notification was delivered and nothing was decided for it. -/
theorem second_decision_refused :
    (∃ s, @fromEvents default history = .ok s ∧ s.projection.status = .waiting ∧
      s.projection.unresolved (decision "second" "aprreq_002") = true ∧
      s.projection.delivered (decision "second" "aprreq_002") = true) ∧
    (∀ earlier ∈ history, ∀ data, acceptedDecision earlier = some data →
      data.requestId ≠ "aprreq_002") ∧
    @fromEvents default (history ++ [second]) = .error
      (.invalidHistory "Only one notification decision may be accepted while waiting.") := by
  decide +kernel

/-- The decision on the first approval is accepted. -/
theorem first_decision_accepted :
    ∃ s, @fromEvents default (history.take 5 ++
      [event 6 (.notificationDecisionAccepted (decision "first" "aprreq_001"))]) = .ok s := by
  obtain ⟨s, hs, hw, hd, hg⟩ : ∃ s, @fromEvents default (history.take 5) = .ok s ∧
      s.projection.status = .waiting ∧
      s.projection.delivered (decision "first" "aprreq_001") = true ∧
      @gate default s (event 6 (.notificationDecisionAccepted
        (decision "first" "aprreq_001"))) = .ok () := by
    decide +kernel
  exact (@decision_accepted_iff default s _ (history.take 5) _ hs hg rfl rfl hd).2 ⟨hw, by decide⟩

end TwoApprovals

end Woml
