import Woml.Projection.Proof.Notifications
import Woml.Store.Proof.Claims

/-!
# Notification deliveries

What the history of a run says of a delivery. `DeliveryMove` is what an accepted event may do to it,
whichever transaction appends the event: an attempt is taken only as the first one, or after a
failure that is known and may be retried. A send whose host has crashed ends by the recovery alone,
which records a final failure.
-/

namespace Woml

open Checked ProjectionFoldState RunEvent

/-- What an event says of a delivery. -/
inductive DeliveryStep
  | started
  | succeeded
  | failed (final : Bool) (failure : NotificationSafeFailure)

namespace DeliveryStep

def isStarted : DeliveryStep → Bool
  | started => true
  | _ => false

def isSucceeded : DeliveryStep → Bool
  | succeeded => true
  | _ => false

/-- The send ended with a failure that leaves open whether the message was sent. -/
def isUncertain : DeliveryStep → Bool
  | failed _ failure => failure.kind = "delivery_ambiguous" || failure.kind = "host_crashed"
  | _ => false

end DeliveryStep

def RunEvent.deliveryStep (id : String) (event : RunEvent) : Option DeliveryStep :=
  match event.payload with
  | .notificationDeliveryAttemptStarted data => if data.deliveryId = id then some .started else none
  | .notificationDeliverySucceeded data => if data.deliveryId = id then some .succeeded else none
  | .notificationDeliveryFailed data =>
    if data.deliveryId = id then some (.failed data.final data.failure) else none
  | _ => none

/-- The failure that `recover_run` records, as a final one, of the sends under way. -/
def interruptedSend : NotificationSafeFailure :=
  ⟨"delivery_ambiguous", "WOML_NOTIFICATION_DELIVERY_AMBIGUOUS",
    "Recovery found an uncertain notification send and will not replay it.", false, none⟩

/-- No uncertain send is repeated: of the steps of a delivery at most three start an attempt, never
while another one is open, and at most one succeeds. None is started after an uncertain end, nor
after a crash while an attempt is open: its host is gone, and records no end. -/
structure SentAtMostOnce (steps : List DeliveryStep) : Prop where
  attempts : steps.countP (·.isStarted) ≤ 3
  exclusive : ∀ p, p <+: steps → p.countP (·.isStarted) ≤ p.countP (!·.isStarted) + 1
  once : steps.countP (·.isSucceeded) ≤ 1
  uncertain : ∀ l x m, steps = l ++ x :: m → x.isUncertain = true → ∀ y ∈ m, y.isStarted = false
  interrupted : ∀ l m, steps = l ++ .started :: m →
    (∀ x ∈ m, x = .started ∨ x = .failed true interruptedSend) → ∀ x ∈ m, x.isStarted = false

/-! ## One event -/

/-- One step of a delivery. -/
inductive DeliveryMove : NotificationDeliveryStatus → DeliveryStep → NotificationDeliveryStatus →
    Prop
  | first {id key : String} : DeliveryMove .requested .started (.attemptStarted 1 id key)
  | again {n : Nat} {id id' key : String} {failure : NotificationSafeFailure} {at' : DateTime}
      (h : n < 3) :
      DeliveryMove (.failed n id false failure at') .started (.attemptStarted (n + 1) id' key)
  | succeed {n : Nat} {id key : String} {message : ProviderMessageIdentity} :
      DeliveryMove (.attemptStarted (n + 1) id key) .succeeded (.succeeded (n + 1) id message)
  | fail {n : Nat} {id key : String} {final : Bool} {failure : NotificationSafeFailure}
      {now : DateTime} (h : (DeliveryStep.failed final failure).isUncertain = true → final = true) :
      DeliveryMove (.attemptStarted (n + 1) id key) (.failed final failure)
        (.failed (n + 1) id final failure now)

def NotificationDeliveryStatus.isFailedFinally : NotificationDeliveryStatus → Bool
  | .failed _ _ final _ _ => final
  | _ => false

def NotificationDeliveryStatus.isOpen : NotificationDeliveryStatus → Bool
  | .attemptStarted .. => true
  | _ => false

theorem DeliveryMove.of_next {st : NotificationDeliveryStatus} {n : Nat} {id key : String}
    (h : n = st.nextAttempt) (hp : 1 ≤ n) (hl : n ≤ 3) :
    DeliveryMove st .started (.attemptStarted n id key) := by
  subst h
  cases st with
  | requested => exact .first
  | failed m _ final failure =>
    cases final with
    | true => cases hp
    | false =>
      simp only [NotificationDeliveryStatus.nextAttempt] at hp hl ⊢
      split at hp
      · rename_i hr
        rw [if_pos hr] at hl ⊢
        exact .again hl
      · cases hp
  | _ => cases hp

/-- An attempt that an event names is the open one. -/
theorem attempt_of_isAttempt {st : NotificationDeliveryStatus} {n : Nat} {id : String}
    (h : st.isAttempt n id = true) (hp : 1 ≤ n) :
    ∃ m key, n = m + 1 ∧ st = .attemptStarted (m + 1) id key := by
  cases st <;> simp [NotificationDeliveryStatus.isAttempt] at h
  exact ⟨n - 1, _, by omega, by rw [h.1, h.2, Nat.sub_add_cancel hp]⟩

section
variable [Host] {s s' : ProjectionFoldState} {event : RunEvent} {events : List RunEvent}

def deliveryStatus (s : ProjectionFoldState) (id : String) : Option NotificationDeliveryStatus :=
  (s.projection.notificationDeliveries.get? id).map (·.status)

/-- What an event does to the status of a delivery. -/
def DeliveryFollows (s s' : ProjectionFoldState) (id : String) : Option DeliveryStep → Prop
  | some x => ∃ st st', deliveryStatus s id = some st ∧ deliveryStatus s' id = some st' ∧
    DeliveryMove st x st'
  | none => deliveryStatus s' id = deliveryStatus s id ∨
    deliveryStatus s id = none ∧ deliveryStatus s' id = some .requested

omit [Host] in
theorem deliveryStatus_write (d id : String) (delivery : NotificationDeliveryProjection) :
    deliveryStatus (s.next event { s.projection with
      notificationDeliveries := s.projection.notificationDeliveries.insert d delivery }) id =
      if id = d then some delivery.status else deliveryStatus s id := by
  simp only [deliveryStatus, next, SortedMap.get?_insert]
  split <;> rfl

omit [Host] in
/-- An event that moves one delivery. -/
theorem DeliveryFollows.write {d id : String} {delivery delivery' : NotificationDeliveryProjection}
    {x : DeliveryStep} (hd : s.projection.notificationDeliveries.get? d = some delivery)
    (hm : DeliveryMove delivery.status x delivery'.status) :
    DeliveryFollows s (s.next event { s.projection with
      notificationDeliveries := s.projection.notificationDeliveries.insert d delivery' }) id
      (if d = id then some x else none) := by
  by_cases hid : d = id
  · subst hid
    rw [if_pos rfl]
    exact ⟨_, _, by rw [deliveryStatus, hd]; rfl, by rw [deliveryStatus_write, if_pos rfl], hm⟩
  · rw [if_neg hid]
    exact .inl (by rw [deliveryStatus_write, if_neg (Ne.symm hid)])

/-- **One event.** -/
theorem apply_delivery (h : s.apply event = .ok s') (id : String) :
    DeliveryFollows s s' id (event.deliveryStep id) := by
  by_cases hsl : Slice.notifications ∈ touched event
  · obtain ⟨-, hsl, p, hp, rfl⟩ := handler_of_touched h hsl nofun
    obtain ⟨c, hc⟩ := contract_of_validate (admitted_of_ok (apply_eq_ok.1 h).1).valid
    have hv := hc.valid
    rw [applyPayload] at hp
    unfold deliveryStep
    cases hpa : event.payload <;> rw [hpa] at hsl hp
    case notificationDeliveryRequested data =>
      simp only [applyNotificationDeliveryRequested, eq_ok_iff] at hp
      obtain ⟨_, -, _, -, _, hn, rfl⟩ := hp
      by_cases hid : id = data.deliveryId
      · refine .inr ⟨?_, by rw [deliveryStatus_write, if_pos hid]⟩
        simp_all [deliveryStatus, SortedMap.contains]
      · exact .inl (by rw [deliveryStatus_write, if_neg hid])
    case notificationDeliveryAttemptStarted data =>
      rw [validatePayload, hc.payload, hpa] at hv
      simp only [applyNotificationDeliveryAttemptStarted, eq_ok_iff] at hp hv
      obtain ⟨_, -, delivery, hd, _, -, _, hn, rfl⟩ := hp
      refine .write hd ?_
      obtain ⟨_, -, hv⟩ := hv
      simp only [Bool.or_eq_true, not_or, Bool.not_eq_true', Bool.and_eq_false_iff,
        decide_eq_false_iff_not, not_not] at hv
      exact .of_next (not_not.1 hn) hv.1.1.2.1 hv.1.1.2.2
    case notificationDeliverySucceeded data =>
      rw [validatePayload, hc.payload, hpa] at hv
      simp only [applyNotificationDeliverySucceeded, eq_ok_iff] at hp hv
      obtain ⟨delivery, hd, _, ha, rfl⟩ := hp
      obtain ⟨_, -, hv⟩ := hv
      simp only [Bool.or_eq_true, not_or, Bool.not_eq_true', Bool.and_eq_false_iff,
        decide_eq_false_iff_not, not_not] at hv
      obtain ⟨m, key, hm, hst⟩ := attempt_of_isAttempt (by simpa using ha) hv.1.1.2.1
      refine .write hd ?_
      rw [hst, hm]
      exact .succeed
    case notificationDeliveryFailed data =>
      rw [validatePayload, hc.payload, hpa] at hv
      simp only [applyNotificationDeliveryFailed, eq_ok_iff] at hp hv
      obtain ⟨delivery, hd, _, ha, rfl⟩ := hp
      obtain ⟨_, -, _, -, hv⟩ := hv
      simp only [Bool.or_eq_true, not_or, Bool.not_eq_true', Bool.and_eq_false_iff,
        decide_eq_false_iff_not, not_not] at hv
      obtain ⟨m, key, hm, hst⟩ := attempt_of_isAttempt (by simpa using ha) hv.1.1.1.2.1
      refine .write hd ?_
      rw [hst, hm]
      refine .fail fun hf => ?_
      simp_all [DeliveryStep.isUncertain]
    -- the other handlers of notifications write the decisions and the updates
    all_goals first
      | (simp [footprint] at hsl; done)
      | (refine .inl ?_
         show (p.notificationDeliveries.get? id).map (·.status) = _
         suffices p.notificationDeliveries = s.projection.notificationDeliveries by rw [this]; rfl
         clear h
         revert p
         show Ensures (fun q : RunProjection =>
           q.notificationDeliveries = s.projection.notificationDeliveries) _
         repeat first
           | exact .ok rfl
           | refine Ensures.bind fun _ _ => ?_)
  · have hs := apply_keeps h .notifications hsl
    rw [touched_notifications h] at hsl
    have hn : event.deliveryStep id = none := by
      unfold deliveryStep
      split <;> first | rfl | (rename_i hpa; simp [hpa, footprint] at hsl)
    rw [hn]
    exact .inl (by rw [deliveryStatus, (Prod.mk.inj hs).1, deliveryStatus])

/-! ## A history -/

/-- The steps of a delivery that led to its status. -/
inductive Traced : List DeliveryStep → Option NotificationDeliveryStatus → Prop
  | unknown : Traced [] none
  | requested : Traced [] (some .requested)
  | step {steps : List DeliveryStep} {x : DeliveryStep} {st st' : NotificationDeliveryStatus}
      (h : Traced steps (some st)) (move : DeliveryMove st x st') : Traced (steps ++ [x]) (some st')

theorem traced_of_fold (h : fromEvents events = .ok s) (id : String) :
    Traced (events.filterMap (·.deliveryStep id)) (deliveryStatus s id) := by
  refine fromEvents_induction
    (P := fun events s => Traced (events.filterMap (·.deliveryStep id)) (deliveryStatus s id))
    .unknown ?_ h
  intro events s event s' _ ih ha
  have hf := apply_delivery ha id
  rw [List.filterMap_append]
  cases hd : event.deliveryStep id with
  | some x =>
    rw [hd] at hf
    obtain ⟨st, st', hs, hs', hm⟩ := hf
    rw [hs] at ih
    rw [hs', List.filterMap_cons_some hd]
    exact ih.step hm
  | none =>
    rw [hd] at hf
    rw [List.filterMap_cons_none hd, List.filterMap_nil, List.append_nil]
    obtain he | ⟨he, he'⟩ := hf
    · rwa [he]
    · rw [he] at ih
      rw [he']
      generalize events.filterMap (·.deliveryStep id) = steps at ih
      cases ih
      exact .requested

end

namespace Traced

variable {l m steps : List DeliveryStep} {st : Option NotificationDeliveryStatus}

/-- The attempts that were started, ended and successful. -/
def tally : Option NotificationDeliveryStatus → Nat × Nat × Nat
  | none | some .requested => (0, 0, 0)
  | some (.attemptStarted n _ _) => (n, n - 1, 0)
  | some (.succeeded n _ _) => (n, n, 1)
  | some (.failed n _ _ _ _) => (n, n, 0)

theorem tally_eq (h : Traced l st) : (tally st).1 ≤ 3 ∧
    (l.countP (·.isStarted), l.countP (!·.isStarted), l.countP (·.isSucceeded)) = tally st := by
  induction h with
  | unknown | requested => exact ⟨by decide, rfl⟩
  | step h hm ih =>
    rw [List.countP_append, List.countP_append, List.countP_append]
    cases hm with
    | first | again | succeed | fail =>
      simp only [tally, Prod.mk.injEq] at ih
      obtain ⟨hl, hs, he, hc⟩ := ih
      rw [hs, he, hc]
      exact ⟨by simp only [tally]; omega, rfl⟩

theorem before (h : Traced (l ++ m) st) : ∃ st', Traced l st' := by
  generalize hs : l ++ m = steps at h
  induction h generalizing m with
  | unknown | requested =>
    rw [(List.append_eq_nil_iff.1 hs).1]
    exact ⟨_, .unknown⟩
  | @step steps x st st' h hm ih =>
    obtain rfl | ⟨m, y, rfl⟩ := List.eq_nil_or_concat' m
    · rw [List.append_nil] at hs
      exact ⟨_, hs ▸ h.step hm⟩
    · rw [← List.append_assoc] at hs
      exact ih (List.append_inj' hs rfl).1

/-- What follows a step of one kind by steps of another: a status from which these start nothing. -/
theorem not_started {Q : NotificationDeliveryStatus → Prop} {A : DeliveryStep → Prop}
    {x : DeliveryStep} (hx : ∀ st st', DeliveryMove st x st' → Q st')
    (hq : ∀ st y st', Q st → A y → DeliveryMove st y st' → Q st' ∧ y.isStarted = false)
    (h : Traced (l ++ x :: m) st) (hm : ∀ y ∈ m, A y) :
    (∀ st', st = some st' → Q st') ∧ ∀ y ∈ m, y.isStarted = false := by
  generalize hs : l ++ x :: m = steps at h
  induction h generalizing m with
  | unknown | requested => simp at hs
  | @step steps z st₀ st' h hmo ih =>
    obtain rfl | ⟨m, y, rfl⟩ := List.eq_nil_or_concat' m
    · obtain ⟨-, hz⟩ := List.append_inj' hs rfl
      cases hz
      exact ⟨fun _ he => Option.some.inj he ▸ hx _ _ hmo, nofun⟩
    · rw [← List.cons_append, ← List.append_assoc] at hs
      obtain ⟨he, hz⟩ := List.append_inj' hs rfl
      cases hz
      obtain ⟨hq₀, hn⟩ := ih (fun y hy => hm y (List.mem_append_left _ hy)) he
      obtain ⟨hq', hz⟩ := hq _ _ _ (hq₀ _ rfl) (hm z (by simp)) hmo
      refine ⟨fun _ he => Option.some.inj he ▸ hq', fun y hy => ?_⟩
      obtain hy | hy := List.mem_append.1 hy
      · exact hn y hy
      · rwa [List.mem_singleton.1 hy]

theorem sentAtMostOnce (h : Traced steps st) : SentAtMostOnce steps where
  attempts := by
    obtain ⟨hl, he⟩ := h.tally_eq
    rw [← he] at hl
    exact hl
  exclusive p hp := by
    obtain ⟨m, rfl⟩ := hp
    obtain ⟨st', h⟩ := h.before
    obtain ⟨-, he⟩ := h.tally_eq
    rw [Prod.mk.injEq, Prod.mk.injEq] at he
    rw [he.1, he.2.1]
    unfold tally
    split <;> simp
    omega
  once := by
    obtain ⟨-, he⟩ := h.tally_eq
    rw [Prod.mk.injEq, Prod.mk.injEq] at he
    rw [he.2.2]
    unfold tally
    split <;> simp
  uncertain l x m hs hx := by
    subst hs
    refine (h.not_started (Q := fun st => st.isFailedFinally = true) (A := fun _ => True)
      (fun st st' hm => ?_) (fun st y st' hq _ hm => ?_) fun _ _ => trivial).2
    · cases hm with
      | first | again | succeed => cases hx
      | fail hf => exact hf hx
    · cases hm <;> cases hq
  interrupted l m hs hm := by
    subst hs
    refine (h.not_started (Q := fun st => st.isFailedFinally = true ∨ st.isOpen = true)
      (fun st st' hm => ?_) (fun st y st' hq ha hm => ?_) hm).2
    · cases hm <;> exact .inr rfl
    · cases hm with
      | first | again => obtain hq | hq := hq <;> cases hq
      | succeed => obtain ha | ha := ha <;> cases ha
      | fail =>
        obtain ha | ha := ha <;> cases ha
        exact ⟨.inl rfl, rfl⟩

end Traced

namespace LimitedWorkflow

def delivery : String := "review:notify:0:channel:0"

/-- The first run asks for an approval; the send of its notification is interrupted. -/
def sends : List EventDraft :=
  [.approvalRequested ⟨"review", "aprreq_001", none, .reject⟩,
    .notificationDeliveryRequested ⟨"review", "aprreq_001", delivery, "slack", "reviews"⟩,
    .notificationDeliveryAttemptStarted
      ⟨"review", "aprreq_001", delivery, 1, "nattempt_001", SerialRun.definitionHash⟩,
    .notificationDeliveryFailed
      ⟨"review", "aprreq_001", delivery, 1, "nattempt_001", true, interruptedSend⟩].mapIdx
    fun n payload => { eventId := s!"send{n}", occurredAt := 1, payload }

def sent : Scheduler :=
  @Scheduler.run host inspection 1 (fun _ => 0) (requests.take 4 ++ [.appendEvents "run_a" sends])

end LimitedWorkflow

end Woml
