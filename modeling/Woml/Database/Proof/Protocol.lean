import Woml.Database.Proof.Dispatch
import Woml.Retention.Proof.Safety

/-!
# The protocol of a dispatch

What holds of a dispatch over every sequence of transactions, by whichever workers, sessions and
operators. The row of one dispatch is followed through the run: `rowAfter n` is what the table has
after `n` transactions.
-/

namespace Woml

open RemoteDispatchStateV1

/-- A session has the dispatch, or had it at its end. -/
def RemoteDispatchStateV1.isTaken : RemoteDispatchStateV1 → Bool
  | requested | offered => false
  | _ => true

namespace DispatchMove

variable {request : DurableRequest} {row row' : RemoteDispatch}

/-- Once a session has it, a dispatch stays with this session. -/
theorem taken (move : DispatchMove request row row') (ht : row.state.isTaken = true) :
    row'.workerId = row.workerId ∧ row'.sessionId = row.sessionId ∧ row'.state.isTaken = true := by
  cases move with
  | offer state | withdraw state | accept _ _ state =>
    simp [state, isTaken] at ht
  | start | cancel | lose => exact ⟨rfl, rfl, rfl⟩
  | heartbeat => exact ⟨rfl, rfl, ht⟩
  | terminal _ _ hr | reconcile hr =>
    refine ⟨rfl, rfl, ?_⟩
    grind [isTaken]

/-- A dispatch goes to a session when it accepts an offer, or when the offer is cancelled. -/
theorem not_taken (move : DispatchMove request row row') (hf : row.state.isTaken = false)
    (ht : row'.state.isTaken = true) :
    row.state = .offered ∧ row'.workerId = row.workerId ∧ row'.sessionId = row.sessionId ∧
      ((∃ w s oi now ai, row.workerId = some w ∧ row.sessionId = some s ∧
          request = .acceptDispatch row.dispatchId w s oi now ai) ∨
        ∃ now ai, request = .cancelDispatch row.dispatchId now ai) := by
  cases move with
  | offer | withdraw => simp [RemoteDispatchStateV1.isTaken] at ht
  | accept hw hs state =>
    exact ⟨state, rfl, rfl, .inl ⟨_, _, _, _, _, hw, hs, rfl⟩⟩
  | cancel state =>
    refine ⟨?_, rfl, rfl, .inr ⟨_, _, rfl⟩⟩
    grind [RemoteDispatchStateV1.isTaken]
  | start _ _ state | reconcile _ state => simp [state, RemoteDispatchStateV1.isTaken] at hf
  | heartbeat _ _ state | lose state | terminal _ _ _ state =>
    grind [RemoteDispatchStateV1.isTaken]

theorem not_resolved (move : DispatchMove request row row') : row.state.isResolved = false := by
  cases move with
  | offer state | withdraw state | accept _ _ state | start _ _ state | reconcile _ state =>
    simp [state, isResolved]
  | heartbeat _ _ state | cancel state | lose state | terminal _ _ _ state =>
    grind [isResolved]

/-- The columns of a row that has been through the transactions: who has it, and the last
heartbeat with its digest. -/
structure Filled (row : RemoteDispatch) : Prop where
  owned : row.state ≠ .requested → row.workerId.isSome = true ∧ row.sessionId.isSome = true
  heartbeat : row.lastHeartbeatSequence.isSome = true → row.lastHeartbeatDigest.isSome = true

section
variable (move : DispatchMove request row row')
include move

theorem filled (h : Filled row) : Filled row' := by
  cases move with
  | offer => exact ⟨fun _ => ⟨rfl, rfl⟩, h.heartbeat⟩
  | withdraw => exact ⟨fun hn => absurd rfl hn, h.heartbeat⟩
  | heartbeat hw hs => exact ⟨fun _ => by simp [hw, hs], fun _ => rfl⟩
  | accept hw hs | start hw hs | terminal hw hs =>
    exact ⟨fun _ => by simp [hw, hs], h.heartbeat⟩
  | cancel state | lose state | reconcile _ state =>
    refine ⟨fun _ => h.owned ?_, h.heartbeat⟩
    grind

theorem sequence_lt (h : Filled row) (hc : row'.lastHeartbeatSequence ≠ row.lastHeartbeatSequence) :
    ∃ sequence, row'.lastHeartbeatSequence = some sequence ∧
      ∀ last, row.lastHeartbeatSequence = some last → last < sequence := by
  cases move with
  | heartbeat _ _ _ later =>
    refine ⟨_, rfl, fun last hl => later (h.heartbeat ?_) last hl⟩
    simp [hl]
  | _ => exact absurd rfl hc

theorem of_ambiguous (h : row'.state = .ambiguous) (hn : row.state ≠ .ambiguous) :
    row.state.isTaken = true := by
  cases move with
  | offer | withdraw | accept | start | cancel => cases h
  | heartbeat => exact absurd h hn
  | lose state => grind [RemoteDispatchStateV1.isTaken]
  | terminal _ _ hr | reconcile hr =>
    dsimp only at h
    simp [h] at hr

theorem of_started (h : row'.state = .started) :
    row.state = .started ∧ row'.workerId = row.workerId ∧ row'.sessionId = row.sessionId ∨
      ∃ w s now auditId, row'.workerId = some w ∧ row'.sessionId = some s ∧
        request = .startDispatch row.dispatchId w s now auditId := by
  cases move with
  | offer | withdraw | accept | cancel | lose => cases h
  | heartbeat => exact .inl ⟨h, rfl, rfl⟩
  | start hw hs => exact .inr ⟨_, _, _, _, hw, hs, rfl⟩
  | terminal _ _ hr | reconcile hr =>
    dsimp only at h
    simp [h] at hr

end

end DispatchMove

namespace DurableStore

open DispatchMove (Filled)

section Trace

variable [Host] [Inspection] (fuel : Nat) (clock : Nat → DateTime) (requests : List DurableRequest)
  (id : String)

/-- The row of the dispatch after the first `n` transactions. -/
def rowAfter (n : Nat) : Option RemoteDispatch :=
  (run fuel clock {} (requests.take n)).loadDispatch id

variable {fuel clock requests id} {n : Nat} {row : RemoteDispatch}

theorem run_concat (d : DurableStore) (requests : List DurableRequest) (r : DurableRequest) :
    run fuel clock d (requests ++ [r]) =
      match (run fuel clock d requests).perform fuel clock r with
      | .ok next => next
      | .error _ => run fuel clock d requests := by
  rw [run, List.foldl_append]
  rfl

theorem distinctDispatches_run : (run fuel clock {} requests).DistinctDispatches := by
  refine List.foldlRecOn requests _ List.nodup_nil fun d hd request _ => ?_
  split
  · rename_i next hn
    exact hd.perform hn
  · exact hd

variable (fuel clock requests id) in
theorem rowAfter_succ (n : Nat) :
    rowAfter fuel clock requests id (n + 1) = rowAfter fuel clock requests id n ∨
      ∃ request, requests[n]? = some request ∧
        Evolves request (rowAfter fuel clock requests id n)
          (rowAfter fuel clock requests id (n + 1)) := by
  unfold rowAfter
  rw [List.take_add_one]
  cases hr : requests[n]? with
  | none => simp
  | some request =>
    rw [Option.toList_some, run_concat]
    split
    · rename_i next hn
      exact .inr ⟨request, rfl, perform_evolves distinctDispatches_run hn id⟩
    · exact .inl rfl

/-- A row is never deleted; it is as it was, or it moved. -/
theorem step_of_row (hr : rowAfter fuel clock requests id n = some row) :
    rowAfter fuel clock requests id (n + 1) = some row ∨
      ∃ request row', requests[n]? = some request ∧
        rowAfter fuel clock requests id (n + 1) = some row' ∧ DispatchMove request row row' := by
  obtain hs | ⟨request, hre, he⟩ := rowAfter_succ fuel clock requests id n
  · exact .inl (hs.trans hr)
  · rw [hr] at he
    generalize rowAfter fuel clock requests id (n + 1) = after at he ⊢
    cases he with
    | same => exact .inl rfl
    | moved move => exact .inr ⟨request, _, hre, rfl, move⟩

/-- A row that is there after a transaction was there before, or is the first one. -/
theorem step_to_row {row' : RemoteDispatch}
    (hr : rowAfter fuel clock requests id (n + 1) = some row') :
    rowAfter fuel clock requests id n = some row' ∨ Requested row' ∨
      ∃ request row, requests[n]? = some request ∧
        rowAfter fuel clock requests id n = some row ∧ DispatchMove request row row' := by
  obtain hs | ⟨request, hre, he⟩ := rowAfter_succ fuel clock requests id n
  · exact .inl (hs.symm.trans hr)
  · rw [hr] at he
    generalize rowAfter fuel clock requests id n = before at he ⊢
    cases he with
    | same => exact .inl rfl
    | new requested => exact .inr (.inl requested)
    | moved move => exact .inr (.inr ⟨request, _, hre, rfl, move⟩)

/-- A property of a row that its moves keep holds from there on. -/
theorem rowAfter_stable {P : RemoteDispatch → Prop}
    (hm : ∀ {request row row'}, DispatchMove request row row' → P row → P row') {m n : Nat}
    (hl : m ≤ n) (hr : rowAfter fuel clock requests id m = some row) (h : P row) :
    ∃ row', rowAfter fuel clock requests id n = some row' ∧ P row' := by
  induction n, hl using Nat.le_induction with
  | base => exact ⟨row, hr, h⟩
  | succ n _ ih =>
    obtain ⟨row', hr', h⟩ := ih
    obtain hs | ⟨_, next, -, hn, move⟩ := step_of_row hr'
    · exact ⟨row', hs, h⟩
    · exact ⟨next, hn, hm move h⟩

theorem filled_rowAfter (hr : rowAfter fuel clock requests id n = some row) : Filled row := by
  induction n generalizing row with
  | zero => cases hr
  | succ n ih =>
    obtain hsa | requested | ⟨_, before, -, hb, move⟩ := step_to_row hr
    · exact ih hsa
    · exact ⟨fun hn => absurd requested.state hn, fun hs => by simp [requested.sequence] at hs⟩
    · exact move.filled (ih hb)

variable (fuel clock requests id) in
/-- Before the `n`-th transaction, the session took the dispatch that was offered to it: it accepted
the offer, or the cancellation was requested while the offer stood. -/
def TakenBy (worker session : String) (n : Nat) : Prop :=
  ∃ m < n, ∃ row, rowAfter fuel clock requests id m = some row ∧ row.state = .offered ∧
    row.workerId = some worker ∧ row.sessionId = some session ∧
    ((∃ offerId now auditId, requests[m]? =
          some (.acceptDispatch id worker session offerId now auditId)) ∨
      ∃ now auditId, requests[m]? = some (.cancelDispatch id now auditId))

theorem takenBy_of_isTaken (hro : rowAfter fuel clock requests id n = some row)
    (ht : row.state.isTaken = true) :
    ∃ wr ss, row.workerId = some wr ∧ row.sessionId = some ss ∧
      TakenBy fuel clock requests id wr ss n := by
  induction n generalizing row with
  | zero => cases hro
  | succ n ih =>
    obtain hsa | requested | ⟨request, before, hr, hb, move⟩ := step_to_row hro
    · obtain ⟨wr, ss, hwk, hse, m, hm, h⟩ := ih hsa ht
      exact ⟨wr, ss, hwk, hse, m, by omega, h⟩
    · simp [requested.state, isTaken] at ht
    · cases hf : before.state.isTaken with
      | true =>
        obtain ⟨wr, ss, hwk, hse, m, hm, h⟩ := ih hb hf
        obtain ⟨hsw, hss, -⟩ := move.taken hf
        exact ⟨wr, ss, hsw.trans hwk, hss.trans hse, m, by omega, h⟩
      | false =>
        obtain ⟨ho, hsw, hss, hh⟩ := move.not_taken hf ht
        have hi : before.dispatchId = id := loadDispatch_id hb
        obtain ⟨hwk, hse⟩ := (filled_rowAfter hb).owned (by simp [ho])
        obtain ⟨wr, hwk⟩ := Option.isSome_iff_exists.1 hwk
        obtain ⟨ss, hse⟩ := Option.isSome_iff_exists.1 hse
        refine ⟨wr, ss, hsw.trans hwk, hss.trans hse, n, by omega, before, hb, ho, hwk, hse, ?_⟩
        subst hi
        obtain ⟨w, s, oi, now, ai, hw, hs, rfl⟩ | ⟨now, ai, rfl⟩ := hh
        · rw [hwk, Option.some.injEq] at hw
          rw [hse, Option.some.injEq] at hs
          subst hw hs
          exact .inl ⟨oi, now, ai, hr⟩
        · exact .inr ⟨now, ai, hr⟩

variable (fuel clock requests id) in
/-- Before the `n`-th transaction, the session started the dispatch. -/
def StartedBy (worker session : String) (n : Nat) : Prop :=
  ∃ m < n, ∃ row now auditId, rowAfter fuel clock requests id (m + 1) = some row ∧
    row.state = .started ∧ requests[m]? = some (.startDispatch id worker session now auditId)

theorem startedBy_of_started {wr ss : String} (hr : rowAfter fuel clock requests id n = some row)
    (hsd : row.state = .started) (hwk : row.workerId = some wr) (hse : row.sessionId = some ss) :
    StartedBy fuel clock requests id wr ss n := by
  induction n generalizing row with
  | zero => cases hr
  | succ n ih =>
    obtain hsa | requested | ⟨request, before, hre, hb, move⟩ := step_to_row hr
    · obtain ⟨m, hm, h⟩ := ih hsa hsd hwk hse
      exact ⟨m, by omega, h⟩
    · cases requested.state.symm.trans hsd
    · obtain ⟨hst, hsw, hss⟩ | ⟨w, s, now, ai, hw, hs, rfl⟩ := move.of_started hsd
      · obtain ⟨m, hm, h⟩ := ih hb hst (hsw.symm.trans hwk) (hss.symm.trans hse)
        exact ⟨m, by omega, h⟩
      · rw [hwk, Option.some.injEq] at hw
        rw [hse, Option.some.injEq] at hs
        have hi : before.dispatchId = id := loadDispatch_id hb
        subst hw hs hi
        exact ⟨n, by omega, row, now, ai, hr, hsd, hre⟩

variable (fuel clock requests id) in
/-- The protocol, as a property of the rows one after the other. -/
structure FollowsProtocol : Prop where
  /-- From then on the dispatch is bound to the session that took it. -/
  bound {m n : Nat} {row : RemoteDispatch} (hle : m ≤ n)
    (hrow : rowAfter fuel clock requests id m = some row) (htaken : row.state.isTaken = true) :
    ∃ worker session row', row.workerId = some worker ∧ row.sessionId = some session ∧
      rowAfter fuel clock requests id n = some row' ∧ row'.workerId = some worker ∧
      row'.sessionId = some session
  /-- A worker's result is recorded for a dispatch that its session took. The session has started it,
  unless a cancellation was requested or the dispatch is ambiguous. -/
  result {n : Nat} {row row' : RemoteDispatch} {dispatchId worker session digest : String}
    {outcome : RemoteDispatchStateV1} {now : DateTime} {auditId : String}
    (hrequest : requests[n]? =
      some (.endDispatch dispatchId worker session outcome digest now auditId))
    (hrow : rowAfter fuel clock requests id n = some row)
    (hrow' : rowAfter fuel clock requests id (n + 1) = some row') (hrecorded : row' ≠ row) :
    row'.state = outcome ∧ TakenBy fuel clock requests id worker session n ∧
      (StartedBy fuel clock requests id worker session n ∨ row.state = .cancelRequested ∨
        row.state = .ambiguous)
  /-- Only a dispatch that a session took becomes ambiguous. -/
  ambiguous {n : Nat} {row' : RemoteDispatch}
    (hrow' : rowAfter fuel clock requests id (n + 1) = some row') (hstate : row'.state = .ambiguous)
    (hentered : ∀ row, rowAfter fuel clock requests id n = some row → row.state ≠ .ambiguous) :
    ∃ worker session, row'.workerId = some worker ∧ row'.sessionId = some session ∧
      TakenBy fuel clock requests id worker session n
  /-- A recorded end is never changed. -/
  resolved {m n : Nat} {row : RemoteDispatch} (hle : m ≤ n)
    (hrow : rowAfter fuel clock requests id m = some row)
    (hresolved : row.state.isResolved = true) : rowAfter fuel clock requests id n = some row
  /-- Only a worker's own report makes a dispatch succeed. -/
  succeeded {n : Nat} {row row' : RemoteDispatch}
    (hrow : rowAfter fuel clock requests id n = some row)
    (hrow' : rowAfter fuel clock requests id (n + 1) = some row') (hchanged : row' ≠ row)
    (hstate : row'.state = .succeeded) :
    ∃ worker session digest now auditId, requests[n]? =
      some (.endDispatch id worker session .succeeded digest now auditId)
  /-- Each recorded heartbeat has a sequence number above all that were recorded before. -/
  heartbeat {m n : Nat} {row row' : RemoteDispatch} {last : Nat} (hle : m ≤ n)
    (hrow : rowAfter fuel clock requests id m = some row)
    (hlast : row.lastHeartbeatSequence = some last)
    (hrow' : rowAfter fuel clock requests id n = some row') :
    row'.lastHeartbeatSequence = some last ∨
      ∃ sequence, row'.lastHeartbeatSequence = some sequence ∧ last < sequence
  /-- A heartbeat that is recorded is the last one. -/
  recorded {n : Nat} {row row' : RemoteDispatch} {dispatchId worker session : String}
    {sequence : Nat} {value : Value} {now : DateTime} {auditId : String}
    (hrequest : requests[n]? =
      some (.heartbeat dispatchId worker session sequence value now auditId))
    (hrow : rowAfter fuel clock requests id n = some row)
    (hrow' : rowAfter fuel clock requests id (n + 1) = some row') (hrecorded : row' ≠ row) :
    row'.lastHeartbeatSequence = some sequence ∧
      ∀ last, row.lastHeartbeatSequence = some last → last < sequence

/-- A row that changed made a move of the transaction. -/
theorem move_of_ne {row row' : RemoteDispatch} (hr : rowAfter fuel clock requests id n = some row)
    (hr' : rowAfter fuel clock requests id (n + 1) = some row') (hne : row' ≠ row) :
    ∃ request, requests[n]? = some request ∧ DispatchMove request row row' := by
  obtain hs | ⟨request, next, hre, hn, move⟩ := step_of_row hr
  · rw [hr', Option.some.injEq] at hs
    exact absurd hs hne
  · rw [hr', Option.some.injEq] at hn
    exact ⟨request, hre, hn ▸ move⟩

end Trace

end DurableStore

/-! ## A dispatch that was never started, and one that was never accepted -/

namespace RetiredRun

open LimitedWorkflow (inspection)

def dispatchId : String := "dispatch_" ++ dispatchDigest

/-- The worker that accepted was lost, and reports a result after all. -/
def reported : List DurableRequest :=
  lost ++ [.endDispatch dispatchId "worker" "session" .succeeded
    ("sha256:" ++ Redelivery.zeroDigest) 70 "audit_5"]

/-- The offer is cancelled before the worker accepts it. -/
def withdrawn : List DurableRequest :=
  lost.take 2 ++ [.cancelDispatch dispatchId 4 "audit_3", .markLost 100 110 10 fun _ => "audit_4"]

end RetiredRun

end Woml
