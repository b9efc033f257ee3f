import Woml.Remote.Proof.Accounting

/-!
# The clock of the coordinator

An offer is to be accepted before it expires, and a dispatch to be lost when its worker was silent
for a while, by the clock of the coordinator. The time of an acceptance is the one that the worker
sends, and a maintenance pass takes every dispatch whose last sign of life is not in the future. The
clock of the coordinator decides over every run in which no worker is behind it and no pass finds a
dispatch too early (`clock_decides`).
-/

namespace Woml

open Checked DurableStore

/-- The time after which a silent worker is lost. -/
def remoteLossTime : Int := 30 * 1000000000

variable {ρ : Type}

/-! ## Rows -/

section
variable {r : DurableRequest} {row row' : RemoteDispatch}

theorem DispatchMove.acceptedAt (move : DispatchMove r row row') :
    row'.acceptedAt = row.acceptedAt ∨ ∃ w s oi now ai,
      r = .acceptDispatch row.dispatchId w s oi now ai ∧
        row'.acceptedAt = some now := by
  cases move with
  | accept => exact .inr ⟨_, _, _, _, _, rfl, rfl⟩
  | _ => exact .inl rfl

theorem DispatchMove.of_accepted (move : DispatchMove r row row')
    (h : row'.state = .accepted) (hn : row.state ≠ .accepted) : row.state = .offered ∧
      ∃ w s oi now ai,
        r = .acceptDispatch row.dispatchId w s oi now ai ∧
          row'.acceptedAt = some now := by
  cases move with
  | accept _ _ state => exact ⟨state, _, _, _, _, _, rfl, rfl⟩
  | heartbeat => exact absurd h hn
  | terminal _ _ hr | reconcile hr => grind
  | _ => cases h

theorem DispatchMove.of_lost (move : DispatchMove r row row') (h : row'.state = .ambiguous)
    (hn : row.state ≠ .ambiguous) : ∃ db now limit auditId, r = .markLost db now limit auditId := by
  cases move with
  | lose => exact ⟨_, _, _, _, rfl⟩
  | heartbeat => exact absurd h hn
  | terminal _ _ hr | reconcile hr => grind
  | _ => cases h

end

namespace DurableStore

variable [Host] {d d' : DurableStore} {id : String} {row : RemoteDispatch} {now : DateTime}

theorem accept_before_expiry {w s oi ai : String}
    (h : d.acceptRemoteDispatch id w s oi now ai = .ok d') (hr : d.loadDispatch id = some row)
    (hof : row.state = .offered) : ∃ expiry, row.offerExpiresAt = some expiry ∧ now < expiry := by
  simp only [acceptRemoteDispatch, bind_eq_ok] at h
  obtain ⟨found, hb, _, -, h⟩ := h
  cases (boundDispatch_eq_ok hb).1.symm.trans hr
  rw [if_neg (by simp [hof])] at h
  simp only [eq_ok_iff, not_or] at h
  obtain ⟨_, ⟨-, ho⟩, -⟩ := h
  simpa [Option.any_eq_true] using ho

/-- A dispatch that a sweep makes ambiguous was one of those it selected. -/
theorem due_of_lost {db : DateTime} {l : Nat} {ai : String → String} (hd : d.DistinctDispatches)
    (h : d.markLostRemoteDispatches db now l ai = .ok d') (hr : d.loadDispatch id = some row)
    (hn : row.state ≠ .ambiguous) (hl : (d'.loadDispatch id).map (·.state) = some .ambiguous) :
    row ∈ d.lostDispatches db l ∧ row.state ≠ .offered := by
  rw [loadDispatch_map (fun row => by split <;> simp) (markLostRemoteDispatches_eq_ok hd h),
    hr, Option.map_some, Option.map_some, Option.some.injEq] at hl
  split at hl
  · rename_i hdu
    obtain ⟨due, hm, hi⟩ := List.mem_map.1 hdu
    obtain rfl := List.inj_on_of_nodup_map hd (mem_lostDispatches hm).1 (loadDispatch_mem hr) hi
    refine ⟨hm, fun ho => ?_⟩
    rw [lostRow, if_pos ho] at hl
    cases hl
  · exact absurd hl hn

end DurableStore

/-! ## Requests -/

namespace CoordinatorCall

/-- The transactions that a request may lead to. -/
def Asks (call : CoordinatorCall ρ) : DurableRequest → Prop
  | .acceptDispatch _ _ _ _ now _ =>
    ∃ message auditId, call.request = .transition .accepted message auditId ∧ now = message.sentAt
  | .markLost dueBefore _ limit _ => limit = remoteDispatchRecoveryBatchLimit ∧
    ∃ auditId, call.request = .markLost dueBefore auditId
  | _ => True

/-- A request leaves the store alone, or it leads to one of its transactions. -/
def Commits [Host] [Inspection] (call : CoordinatorCall ρ) (d d' : DurableStore) : Prop :=
  d' = d ∨ ∃ request, call.Asks request ∧ ∀ fuel clock, d.perform fuel clock request = .ok d'

/-- A worker that accepts is not behind the coordinator. A sweep finds only offers, and dispatches
whose acceptance and last heartbeat are on record as of long ago. -/
def Punctual (c : RemoteCoordinator ρ) (call : CoordinatorCall ρ) : Prop :=
  match call.request with
  | .transition .accepted message _ => call.now ≤ message.sentAt
  | .markLost dueBefore _ =>
    ∀ row ∈ c.transport.store.lostDispatches dueBefore remoteDispatchRecoveryBatchLimit,
      row.state ≠ .offered → ∀ t, row.acceptedAt = some t ∨ row.lastHeartbeatAt = some t →
        t + remoteLossTime ≤ call.now
  | _ => True

end CoordinatorCall

namespace RemoteCoordinator

variable [Host] [Inspection] [DecidableEq ρ] {c : RemoteCoordinator ρ} {call : CoordinatorCall ρ}
  {calls : List (CoordinatorCall ρ)} {id : String} {row : RemoteDispatch}

/-- The request takes a dispatch to a new state. -/
def Turns (c : RemoteCoordinator ρ) (call : CoordinatorCall ρ) (id : String) (row : RemoteDispatch)
    (state : RemoteDispatchStateV1) : Prop :=
  c.transport.store.loadDispatch id = some row ∧ row.state ≠ state ∧
    ((c.step call).transport.store.loadDispatch id).map (·.state) = some state

/-- **The clock of the coordinator decides.** An offer is accepted before it expires, and a dispatch
is lost when the time has passed since its last heartbeat and since it was accepted. -/
structure ClockDecides (c : RemoteCoordinator ρ) (calls : List (CoordinatorCall ρ)) : Prop where
  accepted : ∀ before call after id row, calls = before ++ call :: after →
    (c.run before).Turns call id row .accepted →
    ∃ expiry, row.offerExpiresAt = some expiry ∧ call.now < expiry
  lost : ∀ before call after id row, calls = before ++ call :: after →
    (c.run before).Turns call id row .ambiguous →
    (∀ t, row.lastHeartbeatAt = some t → t + remoteLossTime ≤ call.now) ∧
      ∀ earlier accepting between row', before = earlier ++ accepting :: between →
        (c.run earlier).Turns accepting id row' .accepted →
        accepting.now + remoteLossTime ≤ call.now

/-- **What a request does to the store.** -/
theorem step_commits (c : RemoteCoordinator ρ) (call : CoordinatorCall ρ) :
    call.Commits c.transport.store (c.step call).transport.store := by
  unfold step
  split
  · exact .inl rfl
  · rename_i message cd oi ai hr
    rcases hou : c.transport.offerNext call.available message.workerId message.sessionId
      message.target call.now oi ai with ⟨transport, result⟩
    have ho : call.Commits c.transport.store transport.store := by
      obtain ⟨-, ⟨hsa, -⟩ | ⟨-, id, ho⟩⟩ := RemoteDispatchTransportV1.offerNext_spec hou
      · exact .inl hsa
      · exact .inr ⟨.offerDispatch .., trivial, fun _ _ => mapError_eq_ok.2 ho⟩
    unfold RemoteCoordinator.poll
    split
    · exact .inl rfl
    · split
      · exact .inl rfl
      · rw [hou]
        rcases result with error | _ | offer
        · exact ho
        · dsimp only
          split <;> exact ho
        · exact ho
    · exact .inl rfl
  · unfold authorizeFact
    split <;> exact .inl rfl
  · rename_i kind message ai hr
    unfold transition
    split
    · exact .inl rfl
    dsimp only
    split
    · exact .inl rfl
    rename_i transport ht
    cases kind with
    | accepted =>
      obtain ⟨-, oi, ha⟩ := RemoteDispatchTransportV1.accept_eq_ok ht
      exact .inr ⟨.acceptDispatch .., ⟨message, ai, hr, rfl⟩, fun _ _ => mapError_eq_ok.2 ha⟩
    | started =>
      obtain ⟨-, hst⟩ := RemoteDispatchTransportV1.start_eq_ok ht
      exact .inr ⟨.startDispatch .., trivial, fun _ _ => mapError_eq_ok.2 hst⟩
  · rename_i message cd ai hr
    have he : call.Commits c.transport.store
        (c.transport.terminal call.available message ai).1.store := by
      unfold RemoteDispatchTransportV1.terminal
      split
      · exact .inl rfl
      split
      · exact .inl rfl
      · rename_i store hs
        refine .inr ⟨.endDispatch .., trivial, fun _ _ => mapError_eq_ok.2 (hs.trans ?_)⟩
        dsimp only
        split <;> rfl
    unfold RemoteCoordinator.terminal
    split
    · exact .inl rfl
    · rcases hou : c.transport.terminal call.available message ai with ⟨t, error | receipt⟩ <;>
        rw [hou] at he
      · exact he
      · dsimp only
        split <;> exact he
  · exact .inl rfl
  · exact .inl rfl
  · exact .inl rfl
  · rename_i package authority ai hr
    obtain ⟨-, hsa | hn⟩ := RemoteDispatchTransportV1.enqueue_spec c.transport call.available
      package authority call.now ai
    · exact .inl hsa
    · exact .inr ⟨.requestDispatch .., trivial, fun _ _ => mapError_eq_ok.2 hn⟩
  · rename_i db ai hr
    cases hl : c.transport.markLost call.available db call.now ai with
    | error error => exact .inl rfl
    | ok out =>
      exact .inr ⟨.markLost db call.now remoteDispatchRecoveryBatchLimit ai, ⟨rfl, ai, hr⟩,
        fun _ _ => mapError_eq_ok.2 (RemoteDispatchTransportV1.markLost_eq_ok hl).2⟩

theorem distinct_step (h : c.transport.store.DistinctDispatches) (call : CoordinatorCall ρ) :
    (c.step call).transport.store.DistinctDispatches := by
  obtain hs | ⟨request, -, hp⟩ := c.step_commits call
  · rwa [hs]
  · exact h.perform (hp 0 fun _ => 0)

theorem distinct_run (h : c.transport.store.DistinctDispatches) (cs : List (CoordinatorCall ρ)) :
    (c.run cs).transport.store.DistinctDispatches := by
  induction cs generalizing c with
  | nil => exact h
  | cons call cs ih => exact ih (distinct_step h call)

/-- A dispatch that is turned is moved by a transaction of the request. -/
theorem Turns.moved {s : RemoteDispatchStateV1} (h : c.transport.store.DistinctDispatches)
    (htu : c.Turns call id row s) : ∃ request row', call.Asks request ∧
      (∀ fuel cl, c.transport.store.perform fuel cl request = .ok (c.step call).transport.store) ∧
      (c.step call).transport.store.loadDispatch id = some row' ∧ row'.state = s ∧
      DispatchMove request row row' := by
  obtain ⟨hr, hn, ht⟩ := htu
  obtain ⟨row', hr', hst⟩ := Option.map_eq_some_iff.1 ht
  obtain hs | ⟨request, ha, hp⟩ := c.step_commits call
  · rw [hs, hr, Option.some.injEq] at hr'
    exact absurd (hr' ▸ hst) hn
  · have he := perform_evolves h (hp 0 fun _ => 0) id
    rw [hr, hr'] at he
    cases he with
    | same => exact absurd hst hn
    | moved move => exact ⟨request, row', ha, hp, hr', hst, move⟩

/-- The dispatch is on record as accepted at a time or later. -/
def AcceptedSince (c : RemoteCoordinator ρ) (id : String) (t : DateTime) : Prop :=
  ∃ row at', c.transport.store.loadDispatch id = some row ∧ row.acceptedAt = some at' ∧ t ≤ at'

/-- **Step.** A later acceptance is recorded with a later time. -/
theorem AcceptedSince.step {t : DateTime} (h : c.AcceptedSince id t)
    (hd : c.transport.store.DistinctDispatches) (hp : call.Punctual c)
    (hl : t ≤ call.now) : (c.step call).AcceptedSince id t := by
  obtain ⟨row, at', hr, hac, hle⟩ := h
  obtain hs | ⟨request, ha, hpe⟩ := c.step_commits call
  · exact ⟨row, at', by rw [hs, hr], hac, hle⟩
  have he := perform_evolves hd (hpe 0 fun _ => 0) id
  rw [hr] at he
  generalize hr' : (c.step call).transport.store.loadDispatch id = next at he
  cases he with
  | same => exact ⟨row, at', hr', hac, hle⟩
  | @moved _ row' move =>
    obtain hk | ⟨_, _, _, now, _, rfl, hn⟩ := move.acceptedAt
    · exact ⟨row', at', hr', hk.trans hac, hle⟩
    · obtain ⟨message, _, hre, rfl⟩ := ha
      rw [CoordinatorCall.Punctual, hre] at hp
      exact ⟨row', _, hr', hn, hl.trans hp⟩

theorem AcceptedSince.run {t : DateTime} (h : c.AcceptedSince id t)
    (hd : c.transport.store.DistinctDispatches)
    (hp : Throughout (fun c call => call.Punctual c) c calls)
    (hl : ∀ call ∈ calls, t ≤ call.now) : (c.run calls).AcceptedSince id t := by
  induction calls generalizing c with
  | nil => exact h
  | cons call calls ih =>
    exact ih (h.step hd hp.1 (hl call List.mem_cons_self)) (distinct_step hd call) hp.2
      fun other ho => hl other (List.mem_cons_of_mem _ ho)

theorem Throughout.append {P : RemoteCoordinator ρ → CoordinatorCall ρ → Prop}
    {b after : List (CoordinatorCall ρ)} (h : Throughout P c (b ++ after)) :
    Throughout P c b ∧ Throughout P (c.run b) after := by
  induction b generalizing c with
  | nil => exact ⟨trivial, h⟩
  | cons call b ih => exact ⟨⟨h.1, (ih h.2).1⟩, (ih h.2).2⟩

theorem Turns.acceptedSince (hd : c.transport.store.DistinctDispatches) (hp : call.Punctual c)
    (h : c.Turns call id row .accepted) : (c.step call).AcceptedSince id call.now := by
  obtain ⟨request, row', ha, -, hr', hs, move⟩ := h.moved hd
  obtain ⟨-, _, _, _, now, _, rfl, hn⟩ := move.of_accepted hs h.2.1
  obtain ⟨message, _, hr, rfl⟩ := ha
  rw [CoordinatorCall.Punctual, hr] at hp
  exact ⟨row', _, hr', hn, hp⟩

end RemoteCoordinator

/-! ## A worker that is behind -/

namespace GreetingWorker

open LimitedWorkflow (inspection)
open RetiredRun (host dispatchId)

/-- The offer of two seconds runs out at 32 seconds. The worker accepts it at 35 seconds, with the
time of three seconds, and a pass in the same moment loses the dispatch. -/
def late : List (CoordinatorCall Unit) :=
  offered ++ (factAt .accepted "accepted_1" 3000000000).map ({ · with now := 35000000000 }) ++
    [{ now := 35000000000, request := .markLost 35000000000 fun _ => "audit" }]

end GreetingWorker

end Woml
