import Woml.Database.Proof.Protocol
import Woml.Remote.Proof.Capacity
import Woml.Remote.Proof.Replay

/-!
# The count of a session over the requests of a coordinator

Every request of the coordinator keeps the slots of the live sessions right, from any store and over
any sequence of requests, exactly as long as no request takes a slot in the wrong way
(`CoordinatorCall.GivesBack`).
-/

namespace Woml

open Checked RemoteSessionAuthorityV1 DurableStore RemoteDispatchTransportV1 SortedMap

variable {ρ : Type} {auditId : String}

/-! ## The transport -/

namespace RemoteDispatchTransportV1

variable {t t' : RemoteDispatchTransportV1 ρ}

theorem store_putBack (di : String) : (t.putBack di).store = t.store := by
  unfold putBack
  split <;> rfl

theorem terminals_putBack (di : String) : (t.putBack di).terminals = t.terminals := by
  unfold putBack
  split <;> rfl

theorem store_foldl_requeue (rs : List RemoteDispatch) :
    (rs.foldl requeue t).store = t.store ∧ (rs.foldl requeue t).terminals = t.terminals := by
  induction rs generalizing t with
  | nil => exact ⟨rfl, rfl⟩
  | cons record rs ih =>
    obtain ⟨hs, ht⟩ := ih
    rw [List.foldl_cons, hs, ht]
    unfold requeue
    split <;> exact ⟨rfl, rfl⟩

theorem store_keepPackage (r : RemoteDispatch) (p : RemoteDispatchPackageV1)
    (a : RemoteCoordinatorAuthorityV1) :
    (t.keepPackage r p a).1.store = t.store ∧ (t.keepPackage r p a).1.terminals = t.terminals := by
  unfold keepPackage
  split
  · exact ⟨rfl, rfl⟩
  split
  · split <;> exact ⟨rfl, rfl⟩
  · exact ⟨rfl, rfl⟩

variable [Host] {available : Bool}

/-- A dispatch is offered, or the store is as it was. -/
theorem offerNext_spec {wi si tr oi ai : String} {now : DateTime}
    {r : Except RemoteTransportError (Option RemoteDispatchOfferV1)}
    (h : t.offerNext available wi si tr now oi ai = (t', r)) :
    t'.terminals = t.terminals ∧
      (t'.store = t.store ∧ (∀ offer, r ≠ .ok (some offer)) ∨ (∃ offer, r = .ok (some offer)) ∧
          ∃ id, t.store.offerRemoteDispatch id wi si oi
            (now + remoteOfferLifetime) now ai = .ok t'.store) := by
  unfold offerNext at h
  split at h
  · cases h
    exact ⟨rfl, .inl ⟨rfl, nofun⟩⟩
  dsimp only at h
  split at h
  · cases h
    exact ⟨rfl, .inl ⟨rfl, nofun⟩⟩
  split at h
  · cases h
    exact ⟨rfl, .inl ⟨rfl, nofun⟩⟩
  split at h
  · cases h
    exact ⟨terminals_putBack _, .inl ⟨store_putBack _, nofun⟩⟩
  · rename_i store hs
    cases h
    exact ⟨rfl, .inr ⟨⟨_, rfl⟩, _, hs⟩⟩

variable (t available) in
theorem enqueue_spec [Inspection] (p : RemoteDispatchPackageV1)
    (a : RemoteCoordinatorAuthorityV1) (now : DateTime) (ai : String) :
    (t.enqueue available p a now ai).1.terminals = t.terminals ∧
      ((t.enqueue available p a now ai).1.store = t.store ∨
        t.store.requestRemoteDispatch (p.request now) ai =
          .ok (t.enqueue available p a now ai).1.store) := by
  unfold enqueue
  split
  · exact ⟨rfl, .inl rfl⟩
  split
  · exact ⟨rfl, .inl rfl⟩
  split
  · exact ⟨rfl, .inl rfl⟩
  rename_i store hs
  split
  · exact ⟨rfl, .inr hs⟩
  · rename_i record _
    obtain ⟨hk, ht⟩ := store_keepPackage record p a
    rw [hk, ht]
    exact ⟨rfl, .inr hs⟩

theorem accept_eq_ok {fact : WorkerDispatchFactV1} (h : t.accept available fact auditId = .ok t') :
    t'.terminals = t.terminals ∧ ∃ oi,
      t.store.acceptRemoteDispatch fact.dispatchId fact.workerId fact.sessionId oi fact.sentAt
        auditId = .ok t'.store := by
  simp only [accept, eq_ok_iff] at h
  obtain ⟨_, -, record, -, oi, -, store, hs, rfl⟩ := h
  exact ⟨rfl, oi, hs⟩

theorem start_eq_ok {fact : WorkerDispatchFactV1} (h : t.start available fact auditId = .ok t') :
    t'.terminals = t.terminals ∧
      t.store.startRemoteDispatch fact.dispatchId fact.workerId fact.sessionId fact.sentAt
        auditId = .ok t'.store := by
  simp only [start, eq_ok_iff] at h
  obtain ⟨_, -, store, hs, rfl⟩ := h
  exact ⟨rfl, hs⟩

theorem markLost_eq_ok {db now : DateTime} {ai : String → String} {ids : List String}
    (h : t.markLost available db now ai = .ok (t', ids)) :
    t'.terminals = t.terminals ∧
      t.store.markLostRemoteDispatches db now remoteDispatchRecoveryBatchLimit ai =
        .ok t'.store := by
  simp only [markLost, eq_ok_iff] at h
  obtain ⟨_, -, store, hs, rfl, -⟩ := h
  obtain ⟨hk, ht⟩ := store_foldl_requeue
    ((t.store.lostDispatches db remoteDispatchRecoveryBatchLimit).filterMap
      fun row => store.loadDispatch row.dispatchId)
  rw [hk, ht]
  exact ⟨rfl, hs⟩

/-- What a report finds: the row of its dispatch is bound to the session. -/
structure Reported (t : RemoteDispatchTransportV1 ρ) (fact : WorkerTerminalV1 ρ)
    (row : RemoteDispatch) : Prop where
  load : t.store.loadDispatch fact.dispatchId = some row
  worker : row.workerId = some fact.workerId
  session : row.sessionId = some fact.sessionId

omit [Host] in
/-- A report that the store takes: it is the recorded one, or it ends a dispatch that is open. -/
theorem terminalRemoteDispatch_spec {fact : WorkerTerminalV1 ρ} {s : DurableStore}
    (h : t.store.terminalRemoteDispatch fact.dispatchId fact.workerId fact.sessionId
      fact.outcome.state fact.journalDigest fact.sentAt auditId = .ok s) :
    ∃ row, Reported t fact row ∧
      (s = t.store ∧ row.state = fact.outcome.state ∨
        row.state.isResolved = false ∧ Updates t.store s fact.dispatchId fun row => { row with
          state := fact.outcome.state, terminalDigest := some fact.journalDigest
          ambiguityReason := none, updatedAt := fact.sentAt }) := by
  obtain ⟨-, row, hr, hw, hs, ⟨hsa, hst, -⟩ | ⟨hst, hu⟩⟩ := terminalRemoteDispatch_eq_ok h
  · exact ⟨row, ⟨hr, hw, hs⟩, .inl ⟨hsa, hst⟩⟩
  · refine ⟨row, ⟨hr, hw, hs⟩, .inr ⟨?_, hu⟩⟩
    obtain hst | hst | hst := hst <;> rw [hst] <;> rfl

end RemoteDispatchTransportV1

/-! ## The requests -/

namespace CoordinatorCall

/-- The identifiers that are generated for a request are not in use. -/
def Fresh (c : RemoteCoordinator ρ) (call : CoordinatorCall ρ) : Prop :=
  match call.request with
  | .hello _ _ sessionId =>
    ∀ row ∈ c.transport.store.dispatches, row.sessionId ≠ some sessionId
  | .poll _ _ offerId _ => ∀ row ∈ c.transport.store.dispatches, row.offerId ≠ some offerId
  | _ => True

/-- A sweep leaves the dispatches of live sessions alone. A terminal report that is accepted is not
the one that is recorded, unless its session has nothing outstanding. -/
def GivesBack [Host] (c : RemoteCoordinator ρ) (call : CoordinatorCall ρ) : Prop :=
  match call.request with
  | .terminal message certificateDigest _ => call.available = true →
    (c.authority.authorizeDispatchFact message.workerId message.sessionId message.target
      message.messageId message.sentAt certificateDigest call.now).2.isOk = true →
    c.transport.terminals.get? message.dispatchId = some message →
    c.transport.store.outstanding message.sessionId = 0
  | .markLost dueBefore auditId =>
    (c.transport.markLost call.available dueBefore call.now auditId).isOk = true →
    ∀ row ∈ c.transport.store.lostDispatches dueBefore remoteDispatchRecoveryBatchLimit,
      ∀ sessionId session, row.sessionId = some sessionId →
        ¬c.authority.Live call.now sessionId session
  | _ => True

end CoordinatorCall

namespace RemoteCoordinator

variable {c c' : RemoteCoordinator ρ} {now : DateTime}

/-- `Slots` of the parts of the coordinator. -/
abbrev InOrder (c : RemoteCoordinator ρ) (now : DateTime) : Prop :=
  Slots c.authority c.transport.store c.transport.terminals now

theorem inOrder_hello {m : WorkerHelloV1} {cd ni : String} (h : c.InOrder now)
    (hf : ∀ row ∈ c.transport.store.dispatches, row.sessionId ≠ some ni) :
    Slots (c.authority.establish m cd now ni).1 c.transport.store c.transport.terminals now := by
  refine ⟨h.distinct, fun si s hl => ?_, fun row hr si s hs hl => ?_, h.ended⟩
  · obtain ⟨before, hb, ha, hc⟩ | ⟨rfl, ha⟩ := establish_spec _ _ _ hl
    · rw [ha, hc]
      exact h.accounted si before hb
    · have hn : c.transport.store.outstanding si = 0 := by
        rw [outstanding, List.countP_eq_zero]
        intro row hr
        simp [RemoteDispatch.isOutstanding, hf row hr]
      rw [ha, hn]
      exact ⟨rfl, Nat.zero_le _⟩
  · obtain ⟨before, hb, -, -⟩ | ⟨rfl, -⟩ := establish_spec _ _ _ hl
    · exact h.rows row hr si before hs hb
    · exact absurd hs (hf row hr)

variable [Host] {av : Bool}

theorem inOrder_poll [DecidableEq ρ] {m : WorkerPollV1} {cd oi ai : String} (h : c.InOrder now)
    (hfr : ∀ row ∈ c.transport.store.dispatches, row.offerId ≠ some oi) :
    (c.poll av m cd now oi ai).1.InOrder now := by
  obtain ⟨hk, hrn⟩ := poll_spec c.authority now m cd
  unfold RemoteCoordinator.poll
  split
  · rename_i authority error hp
    rw [hp] at hk
    exact h.keeps hk
  · rename_i authority hp
    rw [hp] at hk hrn
    obtain ⟨_, s, -, hl, -, -⟩ := (hrn rfl).live
    have h' := h.keeps hk
    split
    · exact h'
    rename_i r hre
    obtain ⟨found, hf, hro, rfl⟩ := reserveDispatch_eq_ok hre
    have hf : authority.Live now m.sessionId found := ⟨hf, by
      rw [hl.1, Option.some.injEq] at hf
      exact hf ▸ hl.2⟩
    have hr := releaseDispatch_of_get? (a := authority.setSession m.sessionId
      { found with activeDispatches := found.activeDispatches + 1 })
      (get?_insert_self ..)
    have hb := h'.keeps (keepsSlots_reserve_release hf)
    split
    · rename_i tr offer hou
      obtain ⟨ht, ⟨-, hn⟩ | ⟨-, id, hs⟩⟩ := offerNext_spec hou
      · exact absurd rfl (hn offer)
      · show Slots _ tr.store tr.terminals now
        rw [ht]
        obtain ⟨row, hrw, ⟨-, ho⟩ | ⟨hst, hu⟩⟩ := offerRemoteDispatch_eq_ok hs
        · exact absurd ho (hfr row (loadDispatch_mem hrw))
        · exact h'.offer hrw hst hu hf hro
    -- nothing was offered
    all_goals
      rename_i hou
      obtain ⟨ht, ⟨hs, -⟩ | ⟨⟨_, hso⟩, -⟩⟩ := offerNext_spec hou
      · rw [hr, InOrder, ht, hs]
        exact hb
      · cases hso
  · rename_i authority status hp
    rw [hp] at hk
    exact h.keeps hk

omit [Host] in
theorem inOrder_fact {kind : DispatchFactKind} {m : WorkerDispatchFactV1} {cd : String}
    (h : c.InOrder now) : (c.authorizeFact kind m cd now).1.InOrder now := by
  unfold authorizeFact
  split <;> rename_i ha <;> exact h.keeps (authorizeDispatchFact_spec ha).1

theorem inOrder_transition {kind : DispatchFactKind} {m : WorkerDispatchFactV1}
    (h : c.InOrder now) : (c.transition av kind m auditId).1.InOrder now := by
  unfold transition
  split
  · exact h
  dsimp only
  split
  · exact h
  rename_i tr htr
  show Slots _ tr.store tr.terminals now
  cases kind with
  | accepted =>
    obtain ⟨ht, oi, ha⟩ := accept_eq_ok htr
    rw [ht]
    obtain ⟨row, hr, -, -, ⟨hs, -⟩ | ⟨hst, hu⟩⟩ := acceptRemoteDispatch_eq_ok ha
    · rw [hs]
      exact h
    · refine h.advance hr (by rw [hst]; rfl) hu (fun _ => rfl) rfl fun si => ?_
      simp [RemoteDispatch.isOutstanding, hst]
  | started =>
    obtain ⟨ht, hsta⟩ := start_eq_ok htr
    rw [ht]
    obtain ⟨row, hr, -, -, ⟨hs, -⟩ | ⟨hst, hu⟩⟩ := startRemoteDispatch_eq_ok hsta
    · rw [hs]
      exact h
    · refine h.advance hr (by rw [hst]; rfl) hu (fun _ => rfl) rfl fun si => ?_
      simp [RemoteDispatch.isOutstanding, hst]

omit [Host] in
/-- The report that is recorded is taken once more, and a slot given back for it. -/
theorem inOrder_repeated {a : RemoteSessionAuthorityV1} {fact : WorkerTerminalV1 ρ}
    {s : RemoteSessionRecordV1}
    (h : Slots a c.transport.store c.transport.terminals now)
    (hl : a.Live now fact.sessionId s)
    (hr : c.transport.terminals.get? fact.dispatchId = some fact)
    (hn : c.transport.store.outstanding fact.sessionId = 0) :
    Slots (a.setSession fact.sessionId
        { s with activeDispatches := s.activeDispatches - 1 }) c.transport.store
      (c.transport.terminals.insert fact.dispatchId fact) now := by
  have hz : s.activeDispatches = 0 := (h.accounted _ _ hl).1.trans hn
  have hk : KeepsSlots now a (a.setSession fact.sessionId
      { s with activeDispatches := s.activeDispatches - 1 }) :=
    .setSession hl (by dsimp only; omega) rfl
  refine (h.keeps hk).terminals_congr fun id => ?_
  rw [get?_insert]
  split
  · rename_i hi
    rw [hi, hr]
  · rfl

omit [Host] in
theorem inOrder_terminal [DecidableEq ρ] {message : WorkerTerminalV1 ρ}
    {cd ai : String} (h : c.InOrder now)
    (hg : av = true →
      (c.authority.authorizeDispatchFact message.workerId message.sessionId message.target
        message.messageId message.sentAt cd now).2.isOk = true →
      c.transport.terminals.get? message.dispatchId = some message →
      c.transport.store.outstanding message.sessionId = 0) :
    (c.terminal av message cd now ai).1.InOrder now := by
  unfold RemoteCoordinator.terminal
  split
  · rename_i ha
    exact h.keeps (authorizeDispatchFact_spec ha).1
  · rename_i authority ha
    rw [ha] at hg
    obtain ⟨hk, hrn⟩ := authorizeDispatchFact_spec ha
    obtain ⟨_, s, -, hl, -, -⟩ := (hrn rfl).live
    have h' := h.keeps hk
    have hr := releaseDispatch_of_get? hl.1
    rw [hr]
    unfold RemoteDispatchTransportV1.terminal
    by_cases hav : av = true
    · simp only [hav]
      cases hs : c.transport.store.terminalRemoteDispatch message.dispatchId message.workerId
          message.sessionId message.outcome.state message.journalDigest message.sentAt ai with
      | error error => exact h'
      | ok store =>
        obtain ⟨row, hro, hc⟩ := RemoteDispatchTransportV1.terminalRemoteDispatch_spec hs
        dsimp only
        by_cases ho : (c.transport.terminals.get? message.dispatchId).any (· ≠ message) = true
        · rw [if_pos ho]
          -- another report is recorded, so the dispatch is at its end
          obtain ⟨rfl, -⟩ | ⟨hop, -⟩ := hc
          · exact h'
          · rw [h'.get?_eq_none hro.load hop] at ho
            cases ho
        · rw [if_neg ho]
          obtain ⟨rfl, hst⟩ | ⟨hop, hu⟩ := hc
          · have hre : c.transport.terminals.get? message.dispatchId = some message := by
              obtain ⟨fact, hf⟩ := h'.recorded_of_ended hro.load hro.session hl hst
              rw [hf] at ho ⊢
              simpa using ho
            exact inOrder_repeated h' hl hre (hg hav rfl hre)
          · exact h'.terminal hro.load hro.worker hro.session hop (validSha256_of_terminal hs) hu hl
    · simp only [hav]
      exact h'

theorem inOrder_enqueue [Inspection] {p : RemoteDispatchPackageV1}
    {a : RemoteCoordinatorAuthorityV1} (h : c.InOrder now) :
    Slots c.authority (c.transport.enqueue av p a now auditId).1.store
      (c.transport.enqueue av p a now auditId).1.terminals now := by
  obtain ⟨ht, hs⟩ := RemoteDispatchTransportV1.enqueue_spec c.transport av p a now auditId
  rw [ht]
  obtain hsa | hre := hs
  · rw [hsa]
    exact h
  obtain hsa | ⟨row, hr, hf, ha⟩ := requestRemoteDispatch_eq_ok hre
  · rw [hsa]
    exact h
  · exact h.request hr hf ha

theorem inOrder_markLost {db : DateTime} {ai : String → String}
    {t : RemoteDispatchTransportV1 ρ} {ids : List String} (h : c.InOrder now)
    (hl : c.transport.markLost av db now ai = .ok (t, ids))
    (hsp : ∀ row ∈ c.transport.store.lostDispatches db remoteDispatchRecoveryBatchLimit,
      ∀ si s, row.sessionId = some si →
        ¬c.authority.Live now si s) :
    Slots c.authority t.store t.terminals now := by
  obtain ⟨ht, hs⟩ := markLost_eq_ok hl
  rw [ht]
  exact h.sweep (markLostRemoteDispatches_eq_ok h.distinct hs) hsp

/-- **Step.** A request that gives back what it takes leaves the coordinator in order. -/
theorem inOrder_step [Inspection] [DecidableEq ρ] {call : CoordinatorCall ρ}
    (h : c.InOrder call.now) (hf : call.Fresh c) (hg : call.GivesBack c) :
    (c.step call).InOrder call.now := by
  obtain ⟨now, av, request⟩ := call
  cases request with
  | hello message cd ni => exact inOrder_hello h hf
  | poll message cd oi auditId => exact inOrder_poll h hf
  | fact kind message cd => exact inOrder_fact h
  | transition kind message auditId => exact inOrder_transition h
  | terminal message cd auditId => exact inOrder_terminal h hg
  | shutdown message cd => exact h.keeps (shutdown_keepsSlots message cd)
  | beginDrain tow => exact h.keeps (.of_sessions (sessions_beginDrain tow))
  | endDrain tow => exact h.keeps (.of_sessions (sessions_endDrain tow))
  | enqueue package authority auditId => exact inOrder_enqueue h
  | markLost db auditId =>
    cases hl : c.transport.markLost av db now auditId with
    | error error =>
      dsimp only [step]
      rw [hl]
      exact h
    | ok out =>
      simp only [CoordinatorCall.GivesBack, hl] at hg
      dsimp only [step]
      rw [hl]
      exact inOrder_markLost (c := c) h hl (hg rfl)

/-! ## A request that does not -/

/-- A sweep that takes a dispatch of a live session leaves its count too high. -/
theorem not_accounted_of_markLost {db : DateTime} {ai : String → String}
    {t : RemoteDispatchTransportV1 ρ} {ids : List String} (h : c.InOrder now)
    (hlo : c.transport.markLost av db now ai = .ok (t, ids)) {row : RemoteDispatch}
    (hr : row ∈ c.transport.store.lostDispatches db remoteDispatchRecoveryBatchLimit)
    {sessionId : String} {s : RemoteSessionRecordV1} (hse : row.sessionId = some sessionId)
    (hl : c.authority.Live now sessionId s) : ¬Accounted c.authority t.store now := by
  obtain ⟨-, hs⟩ := markLost_eq_ok hlo
  have hsw := markLostRemoteDispatches_eq_ok h.distinct hs
  obtain ⟨hm, hst⟩ := mem_lostDispatches hr
  have hou : row.isOutstanding sessionId = true := by
    refine h.isOutstanding_of_open (h.distinct.load hm) hse hl ?_
    obtain hst | hst | hst | hst := hst <;> rw [hst] <;> rfl
  have hle : t.store.outstanding sessionId < c.transport.store.outstanding sessionId := by
    rw [outstanding, hsw, List.countP_map]
    refine countP_lt_countP (fun other ho => ?_) hm hou ?_
    · simp only [Function.comp]
      split
      · rw [isOutstanding_lostRow]
        rintro ⟨⟩
      · exact id
    · simp only [Function.comp, List.mem_map_of_mem hr, if_true, isOutstanding_lostRow]
  intro ha
  have hb := (h.accounted sessionId s hl).1
  have haf := (ha sessionId s hl).1
  omega

omit [Host] in
/-- The recorded report that is taken once more frees a slot that another dispatch fills. -/
theorem not_accounted_of_repeated [DecidableEq ρ] {m : WorkerTerminalV1 ρ}
    {cd ai : String} (h : c.InOrder now) (hav : av = true)
    (ha : (c.authority.authorizeDispatchFact m.workerId m.sessionId
      m.target m.messageId m.sentAt cd now).2.isOk = true)
    (hr : c.transport.terminals.get? m.dispatchId = some m)
    (hso : c.transport.store.outstanding m.sessionId ≠ 0) :
    ¬Accounted (c.terminal av m cd now ai).1.authority
      (c.terminal av m cd now ai).1.transport.store now := by
  obtain ⟨row, hro, he⟩ := h.ended m.dispatchId m hr
  have hrs : m.outcome.state = .succeeded ∨ m.outcome.state = .failed ∨
      m.outcome.state = .cancelled := by
    cases m.outcome <;> simp [WorkerTerminalOutcomeV1.state]
  have hs := terminalRemoteDispatch_of_ended m.sentAt ai hro he.worker
    he.session hrs he.valid he.state he.digest
  rcases ho : c.authority.authorizeDispatchFact m.workerId m.sessionId m.target
    m.messageId m.sentAt cd now with ⟨authority, error | ⟨⟨⟩⟩⟩
  · rw [ho] at ha
    cases ha
  · obtain ⟨hk, hre⟩ := authorizeDispatchFact_spec ho
    obtain ⟨_, s, -, hl, -, -⟩ := (hre rfl).live
    have hat := ((h.keeps hk).accounted m.sessionId s hl).1
    have ht : (c.terminal av m cd now ai).1.authority = authority.setSession m.sessionId
            { s with activeDispatches := s.activeDispatches - 1 } ∧
        (c.terminal av m cd now ai).1.transport.store =
          c.transport.store := by
      simp [RemoteCoordinator.terminal, ho, RemoteDispatchTransportV1.terminal, hav, hs,
        hr, releaseDispatch_of_get? hl.1]
    rw [ht.1, ht.2]
    intro hac
    have haf := (hac m.sessionId _ ⟨get?_insert_self .., hl.2⟩).1
    dsimp only at haf
    omega

/-- **Step.** The count goes wrong with the first request that does not give back. -/
theorem givesBack_of_accounted [Inspection] [DecidableEq ρ] {call : CoordinatorCall ρ}
    (h : c.InOrder call.now)
    (ha : Accounted (c.step call).authority (c.step call).transport.store call.now) :
    call.GivesBack c := by
  obtain ⟨now, av, request⟩ := call
  cases request with
  | terminal message cd auditId =>
    intro hav hau hr
    by_contra hso
    exact not_accounted_of_repeated h hav hau hr hso ha
  | markLost db auditId =>
    intro ho row hro si s hs hli
    obtain ⟨⟨t, ids⟩, hl⟩ := exists_ok ho
    refine not_accounted_of_markLost h hl hro hs hli ?_
    dsimp only [step] at ha
    rw [hl] at ha
    exact ha
  | _ => trivial

/-! ## Every sequence of requests -/

/-- A property of every request of a run and the coordinator it finds. -/
def Throughout [Inspection] [DecidableEq ρ]
    (P : RemoteCoordinator ρ → CoordinatorCall ρ → Prop) :
    RemoteCoordinator ρ → List (CoordinatorCall ρ) → Prop
  | _, [] => True
  | c, call :: rest => P c call ∧ Throughout P (c.step call) rest

theorem accounted_iff_from [Inspection] [DecidableEq ρ] {calls : List (CoordinatorCall ρ)}
    (h : c.InOrder now) (hl : ∀ call ∈ calls, now ≤ call.now) (hor : calls.Pairwise (·.now ≤ ·.now))
    (hfr : Throughout (fun c call => call.Fresh c) c calls) :
    Throughout (fun c call => Accounted (c.step call).authority (c.step call).transport.store
        call.now) c calls ↔
      Throughout (fun c call => call.GivesBack c) c calls := by
  induction calls generalizing c now with
  | nil => exact Iff.rfl
  | cons call calls ih =>
    rw [List.pairwise_cons] at hor
    have hn := h.mono (hl call List.mem_cons_self)
    -- as long as the requests give back, the coordinator is in order for the next one
    have hr : call.GivesBack c → _ := fun hg =>
      ih (inOrder_step hn hfr.1 hg) hor.1 hor.2 hfr.2
    constructor
    · rintro ⟨hf, ha⟩
      have hg := givesBack_of_accounted hn hf
      exact ⟨hg, (hr hg).1 ha⟩
    · rintro ⟨hg, ho⟩
      exact ⟨(inOrder_step hn hfr.1 hg).accounted, (hr hg).2 ho⟩

omit [Host] in
theorem inOrder_startedOn (a : RemoteSessionAuthorityV1) {s : DurableStore}
    (hd : s.DistinctDispatches) (now : DateTime) : (startedOn (ρ := ρ) a s).InOrder now := by
  refine ⟨hd, ?_, ?_, nofun⟩
  · intro si ss hl
    cases hl.1
  · intro row _ si ss _ hl
    cases hl.1

/-- **The count of every live session is right after every request, exactly if every request gives
back what it takes.** The coordinator starts on any store that transactions lead to. -/
theorem accounted_iff_givesBack [Inspection] [DecidableEq ρ] (fuel : Nat) (clock : Nat → DateTime)
    (transactions : List DurableRequest) (authority : RemoteSessionAuthorityV1)
    (calls : List (CoordinatorCall ρ)) (hordered : calls.Pairwise (·.now ≤ ·.now))
    (hfresh : Throughout (fun c call => call.Fresh c)
      (startedOn authority (DurableStore.run fuel clock {} transactions)) calls) :
    Throughout (fun c call => Accounted (c.step call).authority (c.step call).transport.store
        call.now) (startedOn authority (DurableStore.run fuel clock {} transactions)) calls ↔
      Throughout (fun c call => call.GivesBack c)
        (startedOn authority (DurableStore.run fuel clock {} transactions)) calls := by
  cases calls with
  | nil => exact Iff.rfl
  | cons call calls =>
    refine accounted_iff_from
      (inOrder_startedOn authority distinctDispatches_run call.now) (fun other ho => ?_)
      hordered hfresh
    obtain rfl | ho := List.mem_cons.1 ho
    · exact le_refl _
    · exact (List.pairwise_cons.1 hordered).1 other ho

end RemoteCoordinator

/-! ## An offer that runs out -/

namespace GreetingWorker

open LimitedWorkflow (inspection)
open RetiredRun (host dispatchId)

def package : RemoteDispatchPackageV1 :=
  { dispatchId, runId := "run_1", nodeId := "work", iterationKey := none, attempt := 1
    invocationId := "work:1", target := "gpu"
    targetRegistryDigest := "sha256:" ++ Redelivery.zeroDigest
    deadline := 600000000000, packageDigest := SerialRun.definitionHash }

def coordinatorAuthority : RemoteCoordinatorAuthorityV1 :=
  { policyDigest := "sha256:" ++ Redelivery.zeroDigest, allowedCapabilities := []
    allowedSecretNames := [] }

def pollAt (messageId offerId : String) (now : DateTime) : CoordinatorCall Unit :=
  { now
    request := .poll { messageId, workerId := "worker", sessionId := "session", sentAt := now
                       target := "gpu" } "sha256:certificate" offerId "audit" }

def factAt (kind : DispatchFactKind) (messageId : String) (now : DateTime) :
    List (CoordinatorCall Unit) :=
  let message : WorkerDispatchFactV1 :=
    { messageId, workerId := "worker", sessionId := "session", sentAt := now, target := "gpu"
      dispatchId }
  [{ now, request := .fact kind message "sha256:certificate" },
    { now, request := .transition kind message "audit" }]

/-- A worker with room for one dispatch is offered one. -/
def offered : List (CoordinatorCall Unit) :=
  [{ now := 0
     request := .hello { hello 0 with capacity := 1 } "sha256:certificate" "session" },
    { now := 1000000000, request := .enqueue package coordinatorAuthority "audit" },
    pollAt "poll_1" "offer_1" 2000000000]

/-- It does not answer, and a sweep withdraws the offer. -/
def expired : List (CoordinatorCall Unit) :=
  offered ++ [{ now := 40000000000, request := .markLost 40000000000 fun _ => "audit" }]

/-- It accepts, starts and reports the end. -/
def served : List (CoordinatorCall Unit) :=
  offered ++ factAt .accepted "accepted_1" 3000000000 ++ factAt .started "started_1" 4000000000 ++
    [{ now := 5000000000
       request := .terminal
        { messageId := "terminal_1", workerId := "worker", sessionId := "session"
          sentAt := 5000000000, target := "gpu", dispatchId, outcome := .succeeded
          result := some (), failure := none, finalOutputSequence := 0
          journalDigest := "sha256:" ++ Redelivery.zeroDigest } "sha256:certificate" "audit" }]

def coordinator : RemoteCoordinator Unit :=
  .startedOn authority (RetiredRun.stored RetiredRun.started)

def after (calls : List (CoordinatorCall Unit)) : RemoteCoordinator Unit :=
  @RemoteCoordinator.run Unit _ coordinator host inspection calls

def refusal {α : Type} : Except RemoteCoordinatorError α → Option RemoteCoordinatorError
  | .error error => some error
  | .ok _ => none

/-- The session that is still live has no dispatch, but no slot either: its next poll is refused. -/
theorem expired_offer_keeps_slot :
    ((after expired).authority.sessions.get? "session").map
        (fun session => (session.activeDispatches, session.capacity,
          decide (40000000000 < session.expiresAt))) = some (1, 1, true) ∧
      (after expired).transport.store.outstanding "session" = 0 ∧
      (after expired).transport.pending = [dispatchId] ∧
      refusal (@RemoteCoordinator.poll Unit (after expired) host true
        { messageId := "poll_2", workerId := "worker", sessionId := "session"
          sentAt := 41000000000, target := "gpu" } "sha256:certificate" 41000000000 "offer_2"
        "audit").2 = some .capacity := by
  decide +kernel

/-- The dispatch that is served takes a slot and gives it back. -/
theorem served_accounted :
    letI := host
    letI := inspection
    RemoteCoordinator.Throughout (fun c call => Accounted (c.step call).authority
        (c.step call).transport.store call.now) coordinator served ∧
      ((after offered).authority.sessions.get? "session").map (·.activeDispatches) = some 1 ∧
      ((after served).authority.sessions.get? "session").map (·.activeDispatches) = some 0 := by
  let _ := host
  let _ := inspection
  refine ⟨(RemoteCoordinator.accounted_iff_givesBack 1 (fun _ => 0) RetiredRun.started authority
    served (by decide) ?_).2 ?_, by decide +kernel, by decide +kernel⟩
  · refine ⟨?_, trivial, ?_, trivial, trivial, trivial, trivial, trivial, trivial⟩
    · show ∀ row ∈ dispatches _, row.sessionId ≠ some "session"
      decide +kernel
    · show ∀ row ∈ dispatches _, row.offerId ≠ some "offer_1"
      decide +kernel
  · refine ⟨trivial, trivial, trivial, trivial, trivial, trivial, trivial, ?_, trivial⟩
    intro _ _ hr
    refine absurd hr ?_
    decide +kernel

end GreetingWorker

end Woml
