import Woml.Database.Calls

/-!
# What a transaction does to a dispatch

`DispatchMove` lists what can happen to a row of the dispatch table, with what the transaction asks
of the row before. `perform_evolves`: every transaction of the store leaves the row of a dispatch
alone, writes a new one, or makes one of these moves.
-/

namespace Woml

open Checked

/-- One row, and what a transaction makes of it. -/
inductive DispatchMove : DurableRequest → RemoteDispatch → RemoteDispatch → Prop
  | offer {row : RemoteDispatch} {worker session offerId : String}
      {expiresAt now : DateTime} {auditId : String} (state : row.state = .requested) :
      DispatchMove (.offerDispatch row.dispatchId worker session offerId expiresAt now auditId) row
        { row with
          state := .offered, workerId := some worker, sessionId := some session
          offerId := some offerId, offerExpiresAt := some expiresAt, terminalDigest := none
          updatedAt := now }
  | accept {row : RemoteDispatch} {worker session offerId : String} {now : DateTime}
      {auditId : String} (hworker : row.workerId = some worker)
      (hsession : row.sessionId = some session) (state : row.state = .offered) :
      DispatchMove (.acceptDispatch row.dispatchId worker session offerId now auditId) row
        { row with state := .accepted, acceptedAt := some now, updatedAt := now }
  | start {row : RemoteDispatch} {worker session : String} {now : DateTime}
      {auditId : String} (hworker : row.workerId = some worker)
      (hsession : row.sessionId = some session) (state : row.state = .accepted) :
      DispatchMove (.startDispatch row.dispatchId worker session now auditId) row
        { row with state := .started, startedAt := some now, updatedAt := now }
  | heartbeat {row : RemoteDispatch} {worker session digest : String} {sequence : Nat}
      {value : Value} {now : DateTime} {auditId : String} (hworker : row.workerId = some worker)
      (hsession : row.sessionId = some session)
      (state : row.state = .started ∨ row.state = .cancelRequested)
      (later : row.lastHeartbeatDigest.isSome = true →
        ∀ last, row.lastHeartbeatSequence = some last → last < sequence) :
      DispatchMove (.heartbeat row.dispatchId worker session sequence value now auditId) row
        { row with
          lastHeartbeatAt := some now, lastHeartbeatSequence := some sequence
          lastHeartbeatDigest := some digest, updatedAt := now }
  | cancel {row : RemoteDispatch} {now : DateTime} {auditId : String}
      (state : row.state = .offered ∨ row.state = .accepted ∨ row.state = .started) :
      DispatchMove (.cancelDispatch row.dispatchId now auditId) row
        { row with state := .cancelRequested, updatedAt := now }
  | terminal {row : RemoteDispatch} {worker session digest : String}
      {outcome : RemoteDispatchStateV1} {now : DateTime} {auditId : String}
      (hworker : row.workerId = some worker) (hsession : row.sessionId = some session)
      (hresult : outcome = .succeeded ∨ outcome = .failed ∨ outcome = .cancelled)
      (state : row.state = .started ∨ row.state = .cancelRequested ∨ row.state = .ambiguous) :
      DispatchMove (.endDispatch row.dispatchId worker session outcome digest now auditId) row
        { row with
          state := outcome, terminalDigest := some digest, ambiguityReason := none
          updatedAt := now }
  | withdraw {row : RemoteDispatch} {dueBefore now : DateTime} {limit : Nat}
      {auditId : String → String} (state : row.state = .offered) :
      DispatchMove (.markLost dueBefore now limit auditId) row
        { row with
          state := .requested, workerId := none, sessionId := none, offerId := none
          offerExpiresAt := none, updatedAt := now }
  | lose {row : RemoteDispatch} {dueBefore now : DateTime} {limit : Nat}
      {auditId : String → String}
      (state : row.state = .accepted ∨ row.state = .started ∨ row.state = .cancelRequested) :
      DispatchMove (.markLost dueBefore now limit auditId) row
        { row with
          state := .ambiguous, ambiguityReason := some "worker_lost_after_acceptance"
          updatedAt := now }
  | reconcile {row : RemoteDispatch} {actor evidence : String}
      {resolution : DurableStore.RemoteDispatchResolution} {now : DateTime} {auditId : String}
      {outcome : RemoteDispatchStateV1} {digest : Option String}
      (hresult : outcome = .abandoned ∨ outcome = .failed) (state : row.state = .ambiguous) :
      DispatchMove (.reconcile row.dispatchId resolution actor evidence now auditId) row
        { row with
          state := outcome, terminalDigest := digest, ambiguityReason := none, updatedAt := now }

namespace DurableStore

variable {d d' : DurableStore}
variable {id worker session : String} {row : RemoteDispatch} {now : DateTime} {auditId : String}
  {request : DurableRequest} {o : RemoteDispatchStateV1} {digest : String}

/-! ## One row of the table -/

theorem loadDispatch_id (h : d.loadDispatch id = some row) : row.dispatchId = id := by
  simpa using List.find?_some h

theorem loadDispatch_mem (h : d.loadDispatch id = some row) :
    row ∈ d.dispatches := List.mem_of_find?_eq_some h

theorem loadDispatch_map {f : RemoteDispatch → RemoteDispatch}
    (hk : ∀ row, (f row).dispatchId = row.dispatchId) (h : d'.dispatches = d.dispatches.map f)
    (id : String) : d'.loadDispatch id = (d.loadDispatch id).map f := by
  have hs : ((fun row : RemoteDispatch => decide (row.dispatchId = id)) ∘ f) =
      fun row => decide (row.dispatchId = id) := by
    funext row
    simp [hk]
  rw [loadDispatch, h, List.find?_map, hs, loadDispatch]

/-- `dispatch_id` is the primary key. -/
def DistinctDispatches (d : DurableStore) : Prop := (d.dispatches.map (·.dispatchId)).Nodup

theorem DistinctDispatches.map (h : d.DistinctDispatches) {f : RemoteDispatch → RemoteDispatch}
    (hk : ∀ row, (f row).dispatchId = row.dispatchId)
    (hm : d'.dispatches = d.dispatches.map f) : d'.DistinctDispatches := by
  have hi : d'.dispatches.map (·.dispatchId) = d.dispatches.map (·.dispatchId) := by
    rw [hm, List.map_map]
    exact List.map_congr_left fun row _ => hk row
  rw [DistinctDispatches, hi]
  exact h

theorem DistinctDispatches.load (h : d.DistinctDispatches) (hr : row ∈ d.dispatches) :
    d.loadDispatch row.dispatchId = some row := by
  obtain ⟨found, hf⟩ : ∃ found, d.loadDispatch row.dispatchId = some found :=
    Option.isSome_iff_exists.1 (List.find?_isSome.2 ⟨row, hr, by simp⟩)
  have he : found = row := List.inj_on_of_nodup_map h (loadDispatch_mem hf) hr (loadDispatch_id hf)
  rw [hf, he]

theorem DistinctDispatches.append (hd : d.DistinctDispatches)
    (hf : d.loadDispatch row.dispatchId = none) (ha : d'.dispatches = d.dispatches ++ [row]) :
    d'.DistinctDispatches := by
  rw [DistinctDispatches, ha, List.map_append, List.map_singleton, List.nodup_append_comm]
  refine List.nodup_cons.2 ⟨fun hm => ?_, hd⟩
  obtain ⟨other, ho, hi⟩ := List.mem_map.1 hm
  rw [← hi, hd.load ho] at hf
  cases hf

theorem loadDispatch_append (ha : d'.dispatches = d.dispatches ++ [row]) (id : String) :
    d'.loadDispatch id =
      (d.loadDispatch id).or (if row.dispatchId = id then some row else none) := by
  rw [loadDispatch, ha, loadDispatch]
  by_cases hi : row.dispatchId = id <;> simp

/-- Only the row of one dispatch is changed. -/
def Updates (d d' : DurableStore) (id : String) (change : RemoteDispatch → RemoteDispatch) : Prop :=
  d'.dispatches = d.dispatches.map fun row => if row.dispatchId = id then change row else row

theorem updates_updateDispatch (id : String) (change : RemoteDispatch → RemoteDispatch)
    (a : RemoteDispatchAudit) : Updates d (d.updateDispatch id change a) id change := by
  simp [Updates, updateDispatch, withSide, dispatches]

/-! ## The transactions

For each what it asks of the row, and what it does: nothing, where the request repeats one that was
served, or one move. -/

section Transactions

theorem boundDispatch_eq_ok (h : d.boundDispatch id worker session = .ok row) :
    d.loadDispatch id = some row ∧ row.workerId = some worker ∧ row.sessionId = some session := by
  simp only [boundDispatch, eq_ok_iff, not_or, not_not] at h
  obtain ⟨_, hr, _, ⟨hw, hs⟩, rfl⟩ := h
  exact ⟨hr, hw, hs⟩

theorem terminalRemoteDispatch_eq_ok
    (h : d.terminalRemoteDispatch id worker session o digest now auditId = .ok d') :
    (o = .succeeded ∨ o = .failed ∨ o = .cancelled) ∧
    ∃ row, d.loadDispatch id = some row ∧ row.workerId = some worker ∧
      row.sessionId = some session ∧
      (d' = d ∧ row.state = o ∧ row.terminalDigest = some digest ∨
        (row.state = .started ∨ row.state = .cancelRequested ∨ row.state = .ambiguous) ∧
        Updates d d' id fun row => { row with
          state := o, terminalDigest := some digest, ambiguityReason := none
          updatedAt := now }) := by
  simp only [terminalRemoteDispatch, eq_ok_iff, not_or, not_and_or, not_not] at h
  obtain ⟨_, ⟨hr, -⟩, row, hb, h⟩ := h
  obtain ⟨hro, hw, hs⟩ := boundDispatch_eq_ok hb
  refine ⟨hr, row, hro, hw, hs, ?_⟩
  split at h
  · rename_i he
    exact .inl ⟨(Except.ok.inj h).symm, he⟩
  · simp only [bind_unit_eq_ok, failIf_eq_ok, not_and_or, not_not, Except.ok.injEq] at h
    obtain ⟨hst, rfl⟩ := h
    exact .inr ⟨hst, updates_updateDispatch ..⟩

variable (now auditId) in
/-- The end that is recorded is reported again. -/
theorem terminalRemoteDispatch_of_ended (hr : d.loadDispatch id = some row)
    (hw : row.workerId = some worker) (hs : row.sessionId = some session)
    (hre : o = .succeeded ∨ o = .failed ∨ o = .cancelled) (hv : validSha256 digest = true)
    (hst : row.state = o) (hd : row.terminalDigest = some digest) :
    d.terminalRemoteDispatch id worker session o digest now auditId = .ok d := by
  have hb : d.boundDispatch id worker session = .ok row := by
    simp [boundDispatch, orFail, hr, failIf, hw, hs]
  have hg : ¬((o ≠ .succeeded ∧ o ≠ .failed ∧ o ≠ .cancelled) ∨ (!validSha256 digest) = true) := by
    grind
  rw [terminalRemoteDispatch, failIf, if_neg hg, ok_bind, hb, ok_bind, if_pos ⟨hst, hd⟩]

theorem validSha256_of_terminal
    (h : d.terminalRemoteDispatch id worker session o digest now auditId = .ok d') :
    validSha256 digest = true := by
  simp only [terminalRemoteDispatch, eq_ok_iff, not_or] at h
  obtain ⟨_, ⟨-, hv⟩, -⟩ := h
  simpa using hv

/-- What a sweep makes of a row that is due. -/
def lostRow (now : DateTime) (row : RemoteDispatch) : RemoteDispatch :=
  if row.state = .offered then { row with
    state := .requested, workerId := none, sessionId := none, offerId := none
    offerExpiresAt := none, updatedAt := now }
  else { row with
    state := .ambiguous, ambiguityReason := some "worker_lost_after_acceptance"
    updatedAt := now }

@[simp] theorem lostRow_dispatchId (now : DateTime) (row : RemoteDispatch) :
    (lostRow now row).dispatchId = row.dispatchId := by
  unfold lostRow
  split <;> rfl

theorem mem_lostDispatches {db : DateTime} {l : Nat} (h : row ∈ d.lostDispatches db l) :
    row ∈ d.dispatches ∧ (row.state = .offered ∨ row.state = .accepted ∨ row.state = .started ∨
      row.state = .cancelRequested) := by
  have h := (List.mem_insertionSort _).1 (List.mem_of_mem_take h)
  grind

theorem nodup_lostDispatches (hd : d.DistinctDispatches) (db : DateTime)
    (l : Nat) : ((d.lostDispatches db l).map (·.dispatchId)).Nodup := by
  refine ((List.take_sublist l _).map _).nodup ?_
  refine ((List.perm_insertionSort _ _).map _).nodup_iff.2 ?_
  exact (List.filter_sublist.map _).nodup hd

theorem dispatches_publish {r : InternalEventAdmissionRequest} {ph : String} {dp : Nat}
    (h : d.publish r ph dp = .ok d') : d'.dispatches = d.dispatches := by
  unfold publish at h
  split at h
  · simp only [bind_unit_eq_ok, Except.ok.injEq] at h
    rw [h.2]
  · cases h
    simp [dispatches, withSide]

theorem dispatches_deliver {r : InternalEventAdmissionRequest} {ri : String}
    (h : d.deliver r ri = .ok d') : d'.dispatches = d.dispatches := by
  unfold deliver at h
  split at h <;> simp only [bind_unit_eq_ok, Except.ok.injEq] at h
  · rw [h.2]
  · obtain ⟨-, rfl⟩ := h
    simp [dispatches, withSide]

theorem dispatches_bindInfrastructurePolicy {ri pd : String}
    (h : d.bindInfrastructurePolicy ri pd = .ok d') : d'.dispatches = d.dispatches := by
  simp only [bindInfrastructurePolicy, bind_eq_ok] at h
  obtain ⟨_, -, h⟩ := h
  split at h
  · simp only [bind_unit_eq_ok, Except.ok.injEq] at h
    rw [h.2]
  · cases h
    simp [dispatches, withSide]

/-- The table has the same dispatches, and each row is left alone or makes one move. -/
def Moves (d d' : DurableStore) (request : DurableRequest) : Prop :=
  ∃ f : RemoteDispatch → RemoteDispatch, (∀ row, (f row).dispatchId = row.dispatchId) ∧
    d'.dispatches = d.dispatches.map f ∧
    ∀ row ∈ d.dispatches, f row = row ∨ DispatchMove request row (f row)

theorem Moves.of_eq (h : d'.dispatches = d.dispatches) : Moves d d' request :=
  ⟨fun row => row, fun _ => rfl, by simp [h], fun _ _ => .inl rfl⟩

theorem Moves.of_updates (hd : d.DistinctDispatches)
    {c : RemoteDispatch → RemoteDispatch} (hr : d.loadDispatch id = some row)
    (h : Updates d d' id c) (hm : row.dispatchId = id → DispatchMove request row (c row))
    (hk : ∀ row, (c row).dispatchId = row.dispatchId := by exact fun _ => rfl) :
    Moves d d' request := by
  obtain rfl := loadDispatch_id hr
  refine ⟨_, fun row => ?_, h, fun other ho => ?_⟩
  · split
    · exact hk row
    · rfl
  · by_cases hi : other.dispatchId = row.dispatchId
    · rw [if_pos hi, List.inj_on_of_nodup_map hd ho (loadDispatch_mem hr) hi]
      exact .inr (hm rfl)
    · simp [hi]

variable [Host]

theorem offerRemoteDispatch_eq_ok {id w s offerId : String} {ea now : DateTime}
    (h : d.offerRemoteDispatch id w s offerId ea now auditId = .ok d') :
    ∃ row, d.loadDispatch id = some row ∧
      (d' = d ∧ row.offerId = some offerId ∨
        row.state = .requested ∧ Updates d d' id fun row => { row with
          state := .offered, workerId := some w, sessionId := some s
          offerId := some offerId, offerExpiresAt := some ea, terminalDigest := none
          updatedAt := now }) := by
  simp only [offerRemoteDispatch, eq_ok_iff] at h
  obtain ⟨_, -, row, hr, h⟩ := h
  refine ⟨row, hr, ?_⟩
  split at h
  · rename_i ho
    simp only [bind_unit_eq_ok, Except.ok.injEq] at h
    exact .inl ⟨h.2.symm, ho.2.2.2⟩
  · simp only [eq_ok_iff, not_not] at h
    obtain ⟨_, hs, _, _, rfl⟩ := h
    exact .inr ⟨hs, updates_updateDispatch ..⟩

theorem acceptRemoteDispatch_eq_ok {id w s oi : String}
    (h : d.acceptRemoteDispatch id w s oi now auditId = .ok d') :
    ∃ row, d.loadDispatch id = some row ∧ row.workerId = some w ∧
      row.sessionId = some s ∧
      (d' = d ∧ row.state = .accepted ∨
        row.state = .offered ∧ Updates d d' id fun row =>
          { row with state := .accepted, acceptedAt := some now, updatedAt := now }) := by
  simp only [acceptRemoteDispatch, bind_eq_ok] at h
  obtain ⟨row, hb, _, -, h⟩ := h
  obtain ⟨hr, hw, hs⟩ := boundDispatch_eq_ok hb
  refine ⟨row, hr, hw, hs, ?_⟩
  split at h
  · rename_i ha
    exact .inl ⟨(Except.ok.inj h).symm, ha⟩
  · simp only [eq_ok_iff, not_or, not_not] at h
    obtain ⟨_, ⟨hst, -⟩, _, _, rfl⟩ := h
    exact .inr ⟨hst, updates_updateDispatch ..⟩

theorem startRemoteDispatch_eq_ok
    (h : d.startRemoteDispatch id worker session now auditId = .ok d') :
    ∃ row, d.loadDispatch id = some row ∧ row.workerId = some worker ∧
      row.sessionId = some session ∧
      (d' = d ∧ row.state = .started ∨
        row.state = .accepted ∧ Updates d d' id fun row =>
          { row with state := .started, startedAt := some now, updatedAt := now }) := by
  simp only [startRemoteDispatch, bind_eq_ok] at h
  obtain ⟨row, hb, h⟩ := h
  obtain ⟨hr, hw, hs⟩ := boundDispatch_eq_ok hb
  refine ⟨row, hr, hw, hs, ?_⟩
  split at h
  · rename_i hsd
    exact .inl ⟨(Except.ok.inj h).symm, hsd⟩
  · simp only [eq_ok_iff, not_not] at h
    obtain ⟨_, hst, _, _, rfl⟩ := h
    exact .inr ⟨hst, updates_updateDispatch ..⟩

theorem heartbeatRemoteDispatch_moves {s : Nat} {v : Value} (hd : d.DistinctDispatches)
    (h : d.heartbeatRemoteDispatch id worker session s v now auditId = .ok d') :
    Moves d d' (.heartbeat id worker session s v now auditId) := by
  simp only [heartbeatRemoteDispatch, eq_ok_iff, not_and_or, not_not] at h
  obtain ⟨bytes, -, _, -, row, hb, _, hst, h⟩ := h
  obtain ⟨hr, hw, hs⟩ := boundDispatch_eq_ok hb
  split at h
  · exact .of_eq (by rw [Except.ok.inj h])
  · simp only [eq_ok_iff, not_and] at h
    obtain ⟨_, hla, _, -, _, -, rfl⟩ := h
    refine .of_updates hd hr (updates_updateDispatch ..) fun | rfl => .heartbeat hw hs hst ?_
    intro hdi last hl
    simpa [hl] using hla hdi

theorem requestRemoteDispatchCancel_moves (hd : d.DistinctDispatches)
    (h : d.requestRemoteDispatchCancel id now auditId = .ok d') :
    Moves d d' (.cancelDispatch id now auditId) := by
  simp only [requestRemoteDispatchCancel, eq_ok_iff] at h
  obtain ⟨row, hr, h⟩ := h
  split at h
  · exact .of_eq (by rw [Except.ok.inj h])
  · simp only [eq_ok_iff, not_and_or, not_not] at h
    obtain ⟨_, hs, _, _, rfl⟩ := h
    exact .of_updates hd hr (updates_updateDispatch ..) fun | rfl => .cancel hs

omit [Host] in
theorem reconcileRemoteDispatch_moves {a e : String} {r : RemoteDispatchResolution}
    (hd : d.DistinctDispatches) (h : d.reconcileRemoteDispatch id r a e now auditId = .ok d') :
    Moves d d' (.reconcile id r a e now auditId) := by
  simp only [reconcileRemoteDispatch, eq_ok_iff] at h
  obtain ⟨_, -, row, hr, h⟩ := h
  split at h
  · simp only [bind_unit_eq_ok, Except.ok.injEq] at h
    exact .of_eq (by rw [h.2])
  · simp only [bind_unit_eq_ok, failIf_eq_ok, not_not, Except.ok.injEq] at h
    obtain ⟨hs, rfl⟩ := h
    refine .of_updates hd hr (updates_updateDispatch ..) ?_
    rintro rfl
    refine .reconcile ?_ hs
    cases r with
    | authorizePossibleDuplicateRetry => exact .inl rfl
    | recordFailure => exact .inr rfl

theorem markLost_eq_ok {ai : String → String} {due : RemoteDispatch}
    (hd : d.DistinctDispatches) (hdu : due ∈ d.dispatches)
    (h : markLost now ai d due = .ok d') : Updates d d' due.dispatchId (lostRow now) := by
  -- the row of the table is the one that was selected
  have hr : ∀ row ∈ d.dispatches, row.dispatchId = due.dispatchId → row = due :=
    fun row hr hi => List.inj_on_of_nodup_map hd hr hdu hi
  unfold markLost at h
  split at h <;> rename_i hs <;> simp only [eq_ok_iff] at h <;>
    obtain ⟨_, -, rfl⟩ := h
  all_goals
    refine List.map_congr_left fun row hm => ?_
    split
    · rename_i hi
      rw [hr row hm hi, lostRow]
      simp [hs]
    · rfl

/-- A sweep does this to the rows it selected. -/
theorem foldlM_markLost {ai : String → String} {due : List RemoteDispatch}
    (hd : d.DistinctDispatches) (hdu : ∀ row ∈ due, row ∈ d.dispatches)
    (hnd : (due.map (·.dispatchId)).Nodup) (h : due.foldlM (markLost now ai) d = .ok d') :
    d'.dispatches = d.dispatches.map fun row =>
      if row.dispatchId ∈ due.map (·.dispatchId) then lostRow now row else row := by
  -- by induction on the rows left; the ones done so far are not among them
  induction due generalizing d with
  | nil =>
    simp only [List.foldlM_nil, pure_eq_ok] at h
    simp [h]
  | cons first due ih =>
    simp only [List.foldlM_cons, bind_eq_ok] at h
    obtain ⟨next, hn, h⟩ := h
    rw [List.map_cons, List.nodup_cons] at hnd
    have hf := markLost_eq_ok hd (hdu first List.mem_cons_self) hn
    have hk : ∀ row : RemoteDispatch,
        (if row.dispatchId = first.dispatchId then lostRow now row else row).dispatchId =
          row.dispatchId := by
      intro row
      split <;> simp
    have hl : ∀ row ∈ due, row ∈ next.dispatches := by
      intro row hr
      have hne : row.dispatchId ≠ first.dispatchId := fun he => hnd.1 (he ▸ List.mem_map_of_mem hr)
      rw [hf]
      exact List.mem_map.2 ⟨row, hdu row (List.mem_cons_of_mem first hr), if_neg hne⟩
    rw [ih (hd.map hk hf) hl hnd.2 h, hf, List.map_map]
    refine List.map_congr_left fun row _ => ?_
    simp only [Function.comp]
    by_cases hr : row.dispatchId = first.dispatchId
    · simp [hr, hnd.1]
    · simp [hr]

theorem markLostRemoteDispatches_eq_ok {db now : DateTime} {l : Nat} {ai : String → String}
    (hd : d.DistinctDispatches) (h : d.markLostRemoteDispatches db now l ai = .ok d') :
    d'.dispatches = d.dispatches.map fun row =>
      if row.dispatchId ∈ (d.lostDispatches db l).map (·.dispatchId) then lostRow now row
      else row := by
  simp only [markLostRemoteDispatches, bind_unit_eq_ok] at h
  exact foldlM_markLost hd (fun row hr => (mem_lostDispatches hr).1)
    (nodup_lostDispatches hd db l) h.2

/-- The first row of a dispatch. -/
structure Requested (row : RemoteDispatch) : Prop where
  state : row.state = .requested
  worker : row.workerId = none
  session : row.sessionId = none
  sequence : row.lastHeartbeatSequence = none
  digest : row.lastHeartbeatDigest = none

theorem requestRemoteDispatch_eq_ok [Inspection] {r : RemoteDispatchRequestV1}
    (h : d.requestRemoteDispatch r auditId = .ok d') :
    d' = d ∨ ∃ row, Requested row ∧ d.loadDispatch row.dispatchId = none ∧
      d'.dispatches = d.dispatches ++ [row] := by
  simp only [requestRemoteDispatch, bind_eq_ok] at h
  obtain ⟨id, -, _, -, h⟩ := h
  split at h
  · simp only [bind_unit_eq_ok, Except.ok.injEq] at h
    exact .inl h.2.symm
  · rename_i hf
    simp only [eq_ok_iff] at h
    obtain ⟨_, -, _, -, rfl⟩ := h
    refine .inr ⟨{
      dispatchId := id, runId := r.runId, nodeId := r.nodeId
      iterationIdentity := r.iterationIdentity, attempt := r.attempt
      invocationId := r.invocationId, target := r.target
      targetDigest := r.targetDigest, packageDigest := r.packageDigest
      state := .requested, updatedAt := r.requestedAt },
      ⟨rfl, rfl, rfl, rfl, rfl⟩, hf, ?_⟩
    simp [dispatches, withSide]

/-! ## The other transactions leave the table alone -/

variable [Inspection] {fuel : Nat} {c : Nat → DateTime}

theorem dispatches_admitWorkflowCall {r : WorkflowCallAdmissionRequest} {ei : String}
    (h : d.admitWorkflowCall fuel c r ei = .ok d') : d'.dispatches = d.dispatches := by
  simp only [admitWorkflowCall, bind_eq_ok] at h
  obtain ⟨_, -, _, -, _, -, _, -, _, -, _, -, _, -, _, -, h⟩ := h
  split at h
  · simp only [repeatedCall, bind_unit_eq_ok, Except.ok.injEq] at h
    rw [h.2]
  · simp only [startCalledRun, eq_ok_iff] at h
    obtain ⟨_, -, _, -, _, -, _, -, rfl⟩ := h
    simp [dispatches, withSide]

theorem dispatches_admitInternalEventOccurrence {r : InternalEventAdmissionRequest}
    {ids : OccurrenceIds} {o : TriggerAdmissionOutcome}
    (h : d.admitInternalEventOccurrence fuel c r ids = .ok (o, d')) :
    d'.dispatches = d.dispatches := by
  simp only [admitInternalEventOccurrence, eq_ok_iff] at h
  obtain ⟨_, -, _, -, _, -, _, -, _, -, _, -, published, hp, ⟨_, core⟩, -, delivered, hd,
    -, rfl⟩ := h
  rw [dispatches_deliver hd, ← dispatches_publish hp]
  rfl

/-! ## One step -/

/-- Every transaction adds a dispatch, or moves the ones there are. -/
theorem perform_moves (hd : d.DistinctDispatches) (h : d.perform fuel c request = .ok d') :
    Moves d d' request ∨ ∃ row, Requested row ∧ d.loadDispatch row.dispatchId = none ∧
      d'.dispatches = d.dispatches ++ [row] := by
  cases request with
  | store request =>
    simp only [perform, eq_ok_iff] at h
    obtain ⟨⟨_, core⟩, -, rfl⟩ := h
    exact .inl (.of_eq rfl)
  | call request ei => exact .inl (.of_eq (dispatches_admitWorkflowCall h))
  | event request ids =>
    simp only [perform, eq_ok_iff] at h
    obtain ⟨⟨_, _⟩, h, rfl⟩ := h
    exact .inl (.of_eq (dispatches_admitInternalEventOccurrence h))
  | bindPolicy runId policyDigest =>
    exact .inl (.of_eq (dispatches_bindInfrastructurePolicy (mapError_eq_ok.1 h)))
  | requestDispatch request auditId =>
    obtain rfl | hn := requestRemoteDispatch_eq_ok (mapError_eq_ok.1 h)
    · exact .inl (.of_eq rfl)
    · exact .inr hn
  | offerDispatch id worker session oi ea now auditId =>
    obtain ⟨row, hr, ⟨rfl, -⟩ | ⟨hst, h⟩⟩ := offerRemoteDispatch_eq_ok (mapError_eq_ok.1 h)
    · exact .inl (.of_eq rfl)
    · exact .inl (.of_updates hd hr h fun | rfl => .offer hst)
  | acceptDispatch id worker session oi now auditId =>
    obtain ⟨row, hr, hw, hs, ⟨rfl, -⟩ | ⟨hst, h⟩⟩ := acceptRemoteDispatch_eq_ok (mapError_eq_ok.1 h)
    · exact .inl (.of_eq rfl)
    · exact .inl (.of_updates hd hr h fun | rfl => .accept hw hs hst)
  | startDispatch id worker session now auditId =>
    obtain ⟨row, hr, hw, hs, ⟨rfl, -⟩ | ⟨hst, h⟩⟩ := startRemoteDispatch_eq_ok (mapError_eq_ok.1 h)
    · exact .inl (.of_eq rfl)
    · exact .inl (.of_updates hd hr h fun | rfl => .start hw hs hst)
  | heartbeat id worker session s v now auditId =>
    exact .inl (heartbeatRemoteDispatch_moves hd (mapError_eq_ok.1 h))
  | cancelDispatch id now auditId =>
    exact .inl (requestRemoteDispatchCancel_moves hd (mapError_eq_ok.1 h))
  | endDispatch id worker session o digest now auditId =>
    obtain ⟨hre, row, hr, hw, hs, ⟨rfl, -⟩ | ⟨hst, h⟩⟩ :=
      terminalRemoteDispatch_eq_ok (mapError_eq_ok.1 h)
    · exact .inl (.of_eq rfl)
    · exact .inl (.of_updates hd hr h fun | rfl => .terminal hw hs hre hst)
  | markLost db now limit auditId =>
    refine .inl ⟨_, fun row => ?_, markLostRemoteDispatches_eq_ok hd (mapError_eq_ok.1 h),
      fun row hr => ?_⟩
    · split <;> simp
    split
    · rename_i hi
      obtain ⟨due, hdu, hi⟩ := List.mem_map.1 hi
      obtain ⟨hm, hst⟩ := mem_lostDispatches hdu
      obtain rfl := List.inj_on_of_nodup_map hd hm hr hi
      unfold lostRow
      split
      · rename_i ho
        exact .inr (.withdraw ho)
      · rename_i hl
        exact .inr (.lose (hst.resolve_left hl))
    · exact .inl rfl
  | reconcile id r a e now auditId =>
    exact .inl (reconcileRemoteDispatch_moves hd (mapError_eq_ok.1 h))

/-- What becomes of the row of one dispatch. -/
inductive Evolves (request : DurableRequest) :
    Option RemoteDispatch → Option RemoteDispatch → Prop
  | same (row : Option RemoteDispatch) : Evolves request row row
  | new {row : RemoteDispatch} (requested : Requested row) : Evolves request none (some row)
  | moved {row row' : RemoteDispatch} (move : DispatchMove request row row') :
      Evolves request (some row) (some row')

theorem DistinctDispatches.perform (hd : d.DistinctDispatches)
    (h : d.perform fuel c request = .ok d') : d'.DistinctDispatches := by
  obtain ⟨f, hk, hm, -⟩ | ⟨row, -, hf, ha⟩ := perform_moves hd h
  · exact hd.map hk hm
  · exact hd.append hf ha

theorem perform_evolves (hd : d.DistinctDispatches) (h : d.perform fuel c request = .ok d')
    (id : String) : Evolves request (d.loadDispatch id) (d'.loadDispatch id) := by
  obtain ⟨f, hk, hma, hmo⟩ | ⟨row, hr, hf, ha⟩ := perform_moves hd h
  · rw [loadDispatch_map hk hma id]
    cases hro : d.loadDispatch id with
    | none => exact .same none
    | some row =>
      obtain hs | hm := hmo row (loadDispatch_mem hro)
      · rw [Option.map_some, hs]
        exact .same (some row)
      · exact .moved hm
  · rw [loadDispatch_append ha]
    by_cases hi : row.dispatchId = id
    · subst hi
      rw [hf, if_pos rfl]
      exact .new hr
    · rw [if_neg hi, Option.or_none]
      exact .same _

end Transactions

end DurableStore

end Woml
