import Woml.Database.Proof.Dispatch
import Woml.Remote.Coordinator

/-!
# The slots of a session

The authority counts the dispatches of a session, the store has their rows. `Slots` says that the
two agree for every session that is live, and what the rows of such a session look like. A request
keeps it unless it is a sweep that takes a dispatch away from a live session, or a terminal report
that is recorded already and accepted once more; in both of these the count goes wrong at once.
-/

namespace Woml

open Checked RemoteDispatch SortedMap

/-- The dispatch is offered to the session, or accepted or started by it. -/
def RemoteDispatch.isOutstanding (sessionId : String) (row : RemoteDispatch) : Bool :=
  row.sessionId = some sessionId &&
    (row.state = .offered || row.state = .accepted || row.state = .started)

namespace DurableStore

variable {d d' : DurableStore}

def outstanding (d : DurableStore) (sessionId : String) : Nat :=
  d.dispatches.countP (·.isOutstanding sessionId)

/-- In a list with distinct keys, one element is changed. -/
theorem countP_map_update {α κ : Type} [DecidableEq κ] (key : α → κ) (p : α → Bool) (g : α → α)
    {l : List α} (hn : (l.map key).Nodup) {x : α} (hx : x ∈ l) :
    (l.map fun y => if key y = key x then g y else y).countP p + (p x).toNat =
      l.countP p + (p (g x)).toNat := by
  induction l with
  | nil => cases hx
  | cons y l ih =>
    rw [List.map_cons, List.nodup_cons] at hn
    rw [List.map_cons, List.countP_cons, List.countP_cons]
    by_cases hxy : x = y
    · subst hxy
      have hr : (l.map fun y => if key y = key x then g y else y) = l := by
        refine (List.map_congr_left fun z hz => ?_).trans (List.map_id l)
        have hne : key z ≠ key x := fun he => hn.1 (he ▸ List.mem_map_of_mem hz)
        simp [hne]
      rw [hr, if_pos rfl]
      cases p x <;> cases p (g x) <;> simp
    · have hm : x ∈ l := (List.mem_cons.1 hx).resolve_left hxy
      have hne : key y ≠ key x := fun he => hn.1 (he ▸ List.mem_map_of_mem hm)
      rw [if_neg hne]
      have := ih hn.2 hm
      omega

/-- Nothing is counted that was not, and one element is not any more. -/
theorem countP_lt_countP {α : Type} {p q : α → Bool} {l : List α}
    (hl : ∀ x ∈ l, q x = true → p x = true) {x : α} (hx : x ∈ l) (hp : p x = true)
    (hq : q x = false) : l.countP q < l.countP p := by
  obtain ⟨before, after, rfl⟩ := List.append_of_mem hx
  have hb := List.countP_mono_left fun y hy => hl y (List.mem_append_left _ hy)
  have ha := List.countP_mono_left fun y hy =>
    hl y (List.mem_append_right before (List.mem_cons_of_mem x hy))
  rw [List.countP_append, List.countP_append, List.countP_cons_of_neg (by simp [hq]),
    List.countP_cons_of_pos hp]
  omega

theorem isOutstanding_lostRow (now : DateTime) (row : RemoteDispatch) (si : String) :
    (lostRow now row).isOutstanding si = false := by
  unfold lostRow
  split <;> simp [RemoteDispatch.isOutstanding]

theorem Updates.outstanding {id : String} {c : RemoteDispatch → RemoteDispatch}
    (h : Updates d d' id c) (hd : d.DistinctDispatches) {row : RemoteDispatch}
    (hr : d.loadDispatch id = some row) (si : String) :
    d'.outstanding si + (row.isOutstanding si).toNat =
      d.outstanding si + ((c row).isOutstanding si).toNat := by
  have hi := loadDispatch_id hr
  subst hi
  rw [DurableStore.outstanding, h]
  exact countP_map_update RemoteDispatch.dispatchId _ c hd (loadDispatch_mem hr)

theorem Updates.mem {id : String} {c : RemoteDispatch → RemoteDispatch}
    (h : Updates d d' id c) (hd : d.DistinctDispatches) {row : RemoteDispatch}
    (hr : d.loadDispatch id = some row) {row' : RemoteDispatch} (hr' : row' ∈ d'.dispatches) :
    row' = c row ∨ row' ∈ d.dispatches ∧ row'.dispatchId ≠ id := by
  rw [h] at hr'
  obtain ⟨other, ho, rfl⟩ := List.mem_map.1 hr'
  by_cases hi : other.dispatchId = id
  · have he : other = row := List.inj_on_of_nodup_map hd ho (loadDispatch_mem hr)
      (hi.trans (loadDispatch_id hr).symm)
    rw [if_pos hi, he]
    exact .inl rfl
  · rw [if_neg hi]
    exact .inr ⟨ho, hi⟩

end DurableStore

/-! ## The authority -/

namespace RemoteSessionAuthorityV1

variable {a a' : RemoteSessionAuthorityV1} {now : DateTime}
variable {b : RemoteSessionAuthorityV1} {sessionId : String} {session : RemoteSessionRecordV1}

/-- The session is held and has not run out. -/
def Live (a : RemoteSessionAuthorityV1) (now : DateTime) (sessionId : String)
    (session : RemoteSessionRecordV1) : Prop :=
  a.sessions.get? sessionId = some session ∧ now < session.expiresAt

/-- No session is new, and those that are left have the slots they had. -/
def KeepsSlots (now : DateTime) (a a' : RemoteSessionAuthorityV1) : Prop :=
  ∀ sessionId session', a'.Live now sessionId session' → ∃ session, a.Live now sessionId session ∧
    session'.activeDispatches = session.activeDispatches ∧ session'.capacity = session.capacity

theorem KeepsSlots.refl (a : RemoteSessionAuthorityV1) : KeepsSlots now a a :=
  fun _ session h => ⟨session, h, rfl, rfl⟩

theorem KeepsSlots.trans (h : KeepsSlots now a b) (h' : KeepsSlots now b a') :
    KeepsSlots now a a' := by
  intro sessionId s' hl
  obtain ⟨m, hm, ha, hc⟩ := h' sessionId s' hl
  obtain ⟨session, hs, ha', hc'⟩ := h sessionId m hm
  exact ⟨session, hs, ha.trans ha', hc.trans hc'⟩

theorem KeepsSlots.of_sessions (h : a'.sessions = a.sessions) : KeepsSlots now a a' := by
  intro sessionId session hl
  rw [Live, h] at hl
  exact ⟨session, hl, rfl, rfl⟩

theorem keepsSlots_expire : KeepsSlots now a (a.expire now) := by
  intro sessionId session ⟨hg, hl⟩
  exact ⟨session, ⟨((SortedMap.get?_filter ..).1 hg).1, hl⟩, rfl, rfl⟩

theorem sessions_acceptMessage (a : RemoteSessionAuthorityV1) (mi : String)
    (sa now : DateTime) : (a.acceptMessage mi sa now).1.sessions = a.sessions := by
  unfold acceptMessage
  dsimp only
  split <;> rfl

/-- A session is written back with the slots it has. -/
theorem KeepsSlots.setSession {s s' : RemoteSessionRecordV1} (hl : a.Live now sessionId s)
    (ha : s'.activeDispatches = s.activeDispatches) (hc : s'.capacity = s.capacity) :
    KeepsSlots now a (a.setSession sessionId s') := by
  intro other found ⟨hg, hf⟩
  obtain ⟨rfl, rfl⟩ | ⟨hn, hg⟩ := of_get?_insert hg
  · exact ⟨s, hl, ha, hc⟩
  · exact ⟨found, ⟨hg, hf⟩, rfl, rfl⟩

/-- What an accepted message of a session does: the session is live, and stays so. -/
structure Renewed (now : DateTime) (a a' : RemoteSessionAuthorityV1) (sessionId : String) : Prop where
  keeps : KeepsSlots now a a'
  live : ∃ session session', a.Live now sessionId session ∧ a'.Live now sessionId session' ∧
    session'.activeDispatches = session.activeDispatches ∧ session'.capacity = session.capacity

theorem renewed_renewSession (hl : a.Live now sessionId session) (sa : DateTime) :
    Renewed now a (a.renewSession session sessionId sa now) sessionId := by
  have hla : now < now + remoteSessionLifetime := by
    unfold remoteSessionLifetime DateTime at *
    omega
  exact ⟨.setSession hl rfl rfl, session, _, hl, ⟨SortedMap.get?_insert_self .., hla⟩, rfl, rfl⟩

theorem Renewed.of_keeps (hk : KeepsSlots now a b) (h : Renewed now b a' sessionId) :
    Renewed now a a' sessionId := by
  obtain ⟨session, s', hl, hl', ha, hc⟩ := h.live
  obtain ⟨first, hf, ha', hc'⟩ := hk sessionId session hl
  exact ⟨hk.trans h.keeps, first, s', hf, hl', ha.trans ha', hc.trans hc'⟩

theorem live_of_expire (h : (a.expire now).sessions.get? sessionId = some session) :
    (a.expire now).Live now sessionId session :=
  ⟨h, of_decide_eq_true ((get?_filter ..).1 h).2⟩

variable {sa : DateTime}

theorem Renewed.of_acceptMessage {mi sessionId : String}
    (h : a.acceptMessage mi sa now = (b, .ok ())) (hl : a.Live now sessionId session)
    : Renewed now a (b.renewSession session sessionId sa now) sessionId := by
  have hs : b.sessions = a.sessions := by
    rw [← sessions_acceptMessage a mi sa now, h]
  refine .of_keeps (.of_sessions hs) (renewed_renewSession ?_ sa)
  rw [Live, hs]
  exact hl

theorem keepsSlots_acceptMessage {mi : String} {r : Except RemoteCoordinatorError Unit}
    (h : a.acceptMessage mi sa now = (b, r)) : KeepsSlots now a b := by
  refine .of_sessions ?_
  rw [← sessions_acceptMessage a mi sa now, h]

variable (a now) in
theorem poll_spec (m : WorkerPollV1) (cd : String) :
    KeepsSlots now a (a.poll m cd now).1 ∧
      ((a.poll m cd now).2.isOk = true →
        Renewed now a (a.poll m cd now).1 m.sessionId) := by
  unfold poll
  dsimp only
  cases hs : (a.expire now).sessions.get? m.sessionId with
  | none => exact ⟨keepsSlots_expire, nofun⟩
  | some session =>
    dsimp only
    split
    · exact ⟨keepsSlots_expire, nofun⟩
    split
    · exact ⟨keepsSlots_expire, nofun⟩
    split
    · rename_i ha
      exact ⟨keepsSlots_expire.trans (keepsSlots_acceptMessage ha), nofun⟩
    · rename_i ha
      have hr := Renewed.of_keeps keepsSlots_expire (.of_acceptMessage ha (live_of_expire hs))
      exact ⟨hr.keeps, fun _ => hr⟩

theorem authorizeDispatchFact_spec {wi si t mi cd : String} {r : Except RemoteCoordinatorError Unit}
    (h : a.authorizeDispatchFact wi si t mi sa cd now = (a', r)) :
    KeepsSlots now a a' ∧ (r.isOk = true → Renewed now a a' si) := by
  unfold authorizeDispatchFact at h
  dsimp only at h
  split at h
  · cases h
    exact ⟨keepsSlots_expire, nofun⟩
  · rename_i session hs
    split at h
    · cases h
      exact ⟨keepsSlots_expire, nofun⟩
    split at h <;> rename_i ha <;> cases h
    · exact ⟨keepsSlots_expire.trans (keepsSlots_acceptMessage ha), nofun⟩
    · have hr := Renewed.of_keeps keepsSlots_expire (.of_acceptMessage ha (live_of_expire hs))
      exact ⟨hr.keeps, fun _ => hr⟩

theorem shutdown_keepsSlots (m : WorkerShutdownV1) (cd : String) :
    KeepsSlots now a (a.shutdown m cd now).1 := by
  unfold shutdown
  split
  · exact .refl a
  split
  · exact .refl a
  split
  · exact .refl a
  split
  · rename_i ha
    exact keepsSlots_acceptMessage ha
  · rename_i b ha
    refine (keepsSlots_acceptMessage ha).trans ?_
    intro sessionId session ⟨hg, hl⟩
    by_cases hi : sessionId = m.sessionId
    · rw [hi] at hg
      cases (get?_erase_self b.sessions m.sessionId).symm.trans hg
    · exact ⟨session, ⟨(get?_erase_ne b.sessions hi).symm.trans hg, hl⟩, rfl, rfl⟩

/-- A hello opens at most one session, with all its slots free. -/
theorem establish_spec (he : WorkerHelloV1) (cd ni : String) {s' : RemoteSessionRecordV1}
    (h : (a.establish he cd now ni).1.Live now sessionId s') :
    (∃ session, a.Live now sessionId session ∧
        s'.activeDispatches = session.activeDispatches ∧
        s'.capacity = session.capacity) ∨
      sessionId = ni ∧ s'.activeDispatches = 0 := by
  unfold establish at h
  dsimp only at h
  split at h
  · exact .inl (keepsSlots_expire _ _ h)
  split at h
  · exact .inl (keepsSlots_expire _ _ h)
  split at h
  · rename_i ha
    exact .inl (keepsSlots_expire.trans (keepsSlots_acceptMessage ha) _ _ h)
  · rename_i ha
    have hk := (keepsSlots_expire).trans (keepsSlots_acceptMessage ha)
    split at h
    · exact .inl (hk _ _ h)
    · obtain ⟨rfl, rfl⟩ | ⟨hn, hg⟩ := SortedMap.of_get?_insert h.1
      · exact .inr ⟨rfl, rfl⟩
      · exact .inl (hk _ _ ⟨hg, h.2⟩)

theorem sessions_beginDrain (tow : String) :
    ((a.beginDrain tow).toOption.getD a).sessions = a.sessions := by
  unfold beginDrain
  split
  · rfl
  split <;> rfl

theorem sessions_endDrain (tow : String) :
    ((a.endDrain tow).toOption.getD a).sessions = a.sessions := by
  unfold endDrain
  split
  · rfl
  split <;> rfl

theorem reserveDispatch_eq_ok {si t : String} (h : a.reserveDispatch si t = .ok a') :
    ∃ session, a.sessions.get? si = some session ∧
      session.activeDispatches < session.capacity ∧
      a' = a.setSession si
        { session with activeDispatches := session.activeDispatches + 1 } := by
  simp only [reserveDispatch, eq_ok_iff] at h
  obtain ⟨session, hs, _, -, _, hr, rfl⟩ := h
  exact ⟨session, hs, by omega, rfl⟩

theorem releaseDispatch_of_get? (h : a.sessions.get? sessionId = some session) :
    a.releaseDispatch sessionId = .ok (a.setSession sessionId
      { session with activeDispatches := session.activeDispatches - 1 }) := by
  simp [releaseDispatch, orFail, h]

theorem keepsSlots_reserve_release (hl : a.Live now sessionId session) :
    KeepsSlots now a ((a.setSession sessionId
        { session with activeDispatches := session.activeDispatches + 1 }).setSession sessionId
        { session with activeDispatches := session.activeDispatches + 1 - 1 }) := by
  intro other found ⟨hg, hf⟩
  obtain ⟨rfl, rfl⟩ | ⟨hn, hg⟩ := of_get?_insert hg
  · exact ⟨session, hl, by simp, rfl⟩
  · obtain ⟨rfl, -⟩ | ⟨-, hg⟩ := of_get?_insert hg
    · exact absurd rfl hn
    · exact ⟨found, ⟨hg, hf⟩, rfl, rfl⟩

end RemoteSessionAuthorityV1

/-! ## The count and the rows -/

section Slots

open RemoteSessionAuthorityV1 DurableStore

variable {ρ : Type} {a a' : RemoteSessionAuthorityV1} {d d' : DurableStore}
  {terminals : SortedMap String (WorkerTerminalV1 ρ)} {now : DateTime}

/-- The count of every live session is the number of its dispatches, and within its capacity. -/
def Accounted (a : RemoteSessionAuthorityV1) (d : DurableStore) (now : DateTime) : Prop :=
  ∀ sessionId session, a.Live now sessionId session →
    session.activeDispatches = d.outstanding sessionId ∧
      d.outstanding sessionId ≤ session.capacity

/-- The report is the recorded end of the dispatch. -/
structure Ends (fact : WorkerTerminalV1 ρ) (row : RemoteDispatch) : Prop where
  id : row.dispatchId = fact.dispatchId
  state : row.state = fact.outcome.state
  digest : row.terminalDigest = some fact.journalDigest
  worker : row.workerId = some fact.workerId
  session : row.sessionId = some fact.sessionId
  valid : validSha256 fact.journalDigest = true

/-- The coordinator between two requests. -/
structure Slots (a : RemoteSessionAuthorityV1) (d : DurableStore)
    (terminals : SortedMap String (WorkerTerminalV1 ρ)) (now : DateTime) : Prop where
  distinct : d.DistinctDispatches
  accounted : Accounted a d now
  /-- The dispatches of a live session are outstanding, or their ends are recorded. -/
  rows : ∀ row ∈ d.dispatches, ∀ sessionId session, row.sessionId = some sessionId →
    a.Live now sessionId session → row.isOutstanding sessionId = true ∨
      row.state.isResolved = true ∧ terminals.contains row.dispatchId = true
  ended : ∀ id fact, terminals.get? id = some fact → ∃ row, d.loadDispatch id = some row ∧
    Ends fact row

namespace Slots

variable {id : String} {row : RemoteDispatch} {c : RemoteDispatch → RemoteDispatch}
  {session : RemoteSessionRecordV1} (h : Slots a d terminals now)
include h

theorem mono {later : DateTime} (hle : now ≤ later) : Slots a d terminals later := by
  have hli : ∀ sessionId session, a.Live later sessionId session → a.Live now sessionId session :=
    fun _ _ hli => ⟨hli.1, lt_of_le_of_lt hle hli.2⟩
  exact ⟨h.distinct, fun sessionId session hl => h.accounted sessionId session (hli _ _ hl),
    fun row hr sessionId session hs hl => h.rows row hr sessionId session hs (hli _ _ hl),
    h.ended⟩

theorem keeps (hk : KeepsSlots now a a') : Slots a' d terminals now := by
  refine ⟨h.distinct, fun sessionId session hl => ?_, fun row hr sessionId session hs hl => ?_,
    h.ended⟩
  · obtain ⟨before, hb, ha, hc⟩ := hk sessionId session hl
    rw [ha, hc]
    exact h.accounted sessionId before hb
  · obtain ⟨before, hb, -, -⟩ := hk sessionId session hl
    exact h.rows row hr sessionId before hs hb

theorem get?_eq_none (hr : d.loadDispatch id = some row)
    (ho : row.state.isResolved = false) : terminals.get? id = none := by
  cases hfa : terminals.get? id with
  | none => rfl
  | some fact =>
    obtain ⟨found, hf, he⟩ := h.ended id fact hfa
    rw [hr, Option.some.injEq] at hf
    subst hf
    rw [he.state] at ho
    cases hou : fact.outcome <;> simp [hou, WorkerTerminalOutcomeV1.state,
      RemoteDispatchStateV1.isResolved] at ho

theorem isOutstanding_of_open {id si : String} (hro : d.loadDispatch id = some row)
    (hs : row.sessionId = some si) (hl : a.Live now si session)
    (ho : row.state.isResolved = false) : row.isOutstanding si = true := by
  obtain hou | ⟨hr, -⟩ := h.rows row (loadDispatch_mem hro) si session hs hl
  · exact hou
  · rw [ho] at hr
    cases hr

/-- The end of a dispatch of a live session has its report. -/
theorem recorded_of_ended {id si : String} {o : WorkerTerminalOutcomeV1}
    (hr : d.loadDispatch id = some row) (hs : row.sessionId = some si) (hl : a.Live now si session)
    (hst : row.state = o.state) : ∃ fact, terminals.get? id = some fact := by
  obtain ho | ⟨-, hc⟩ := h.rows row (loadDispatch_mem hr) si session hs hl
  · cases o <;> simp [RemoteDispatch.isOutstanding, hst, WorkerTerminalOutcomeV1.state] at ho
  · rw [loadDispatch_id hr] at hc
    exact Option.isSome_iff_exists.1 hc

theorem terminals_congr {ts' : SortedMap String (WorkerTerminalV1 ρ)}
    (hsa : ∀ id, ts'.get? id = terminals.get? id) : Slots a d ts' now := by
  refine ⟨h.distinct, h.accounted, ?_, fun id fact hf => h.ended id fact (hsa id ▸ hf)⟩
  intro row hr sessionId session hs hl
  rw [SortedMap.contains, hsa]
  exact h.rows row hr sessionId session hs hl

/-- A dispatch moves. Who is live after it was so before and counts what the move adds and takes,
and the reports of other dispatches stay. -/
theorem update {ts' : SortedMap String (WorkerTerminalV1 ρ)}
    (hr : d.loadDispatch id = some row) (hu : Updates d d' id c)
    (hki : ∀ row, (c row).dispatchId = row.dispatchId)
    (hse : ∀ other found, a'.Live now other found → ∃ before, a.Live now other before ∧
      found.activeDispatches + (row.isOutstanding other).toNat =
        before.activeDispatches + ((c row).isOutstanding other).toNat ∧
      found.activeDispatches ≤ found.capacity)
    (hk : ∀ other ≠ id, ts'.get? other = terminals.get? other)
    (hen : ∀ fact, ts'.get? id = some fact → Ends fact (c row))
    (hm : ∀ other found, (c row).sessionId = some other → a'.Live now other found →
      (c row).isOutstanding other = true ∨
        (c row).state.isResolved = true ∧ ts'.contains id = true) :
    Slots a' d' ts' now := by
  have hi := loadDispatch_id hr
  have hke : ∀ row : RemoteDispatch,
      (if row.dispatchId = id then c row else row).dispatchId = row.dispatchId := by
    intro row
    split
    · exact hki row
    · rfl
  refine ⟨h.distinct.map hke hu, fun other found hl => ?_,
    fun row' hr' other found hs hl => ?_, fun other fact hfa => ?_⟩
  · obtain ⟨before, hb, hac, hc⟩ := hse other found hl
    have hcn := hu.outstanding h.distinct hr other
    have ha := (h.accounted other before hb).1
    omega
  · obtain rfl | ⟨hme, hn⟩ := hu.mem h.distinct hr hr'
    · rw [hki, hi]
      exact hm other found hs hl
    · obtain ⟨before, hb, -⟩ := hse other found hl
      rw [SortedMap.contains, hk _ hn]
      exact h.rows row' hme other before hs hb
  · rw [loadDispatch_map hke hu]
    by_cases ho : other = id
    · subst ho
      exact ⟨c row, by rw [hr, Option.map_some, if_pos hi], hen fact hfa⟩
    · obtain ⟨found, hf, he⟩ := h.ended other fact (hk other ho ▸ hfa)
      refine ⟨found, ?_, he⟩
      rw [hf, Option.map_some, if_neg (loadDispatch_id hf ▸ ho)]

/-- A dispatch goes on within its session. -/
theorem advance (hr : d.loadDispatch id = some row) (ho : row.state.isResolved = false)
    (hu : Updates d d' id c) (hk : ∀ row, (c row).dispatchId = row.dispatchId)
    (hse : (c row).sessionId = row.sessionId)
    (hou : ∀ sessionId, (c row).isOutstanding sessionId = row.isOutstanding sessionId) :
    Slots a d' terminals now := by
  refine h.update hr hu hk (fun other found hl => ?_) (fun _ _ => rfl)
    (fun fact hf => ?_) fun other found hs hl => .inl ?_
  · obtain ⟨ha, hc⟩ := h.accounted other found hl
    exact ⟨found, hl, by rw [hou], by omega⟩
  · rw [h.get?_eq_none hr ho] at hf
    cases hf
  · rw [hou]
    exact h.isOutstanding_of_open hr (hse ▸ hs) hl ho

theorem offer {id w sessionId offerId : String}
    {ea at' : DateTime} (hro : d.loadDispatch id = some row)
    (hst : row.state = .requested)
    (hu : Updates d d' id fun row => { row with
      state := .offered, workerId := some w, sessionId := some sessionId
      offerId := some offerId, offerExpiresAt := some ea, terminalDigest := none
      updatedAt := at' }) (hl : a.Live now sessionId session)
    (hr : session.activeDispatches < session.capacity) :
    Slots (a.setSession sessionId
      { session with activeDispatches := session.activeDispatches + 1 }) d' terminals now := by
  refine h.update hro hu (fun _ => rfl) (fun other found hf => ?_) (fun _ _ => rfl)
    (fun fact hfa => ?_) fun other found hs _ => .inl (by
      simpa [isOutstanding] using hs)
  · obtain ⟨hg, he⟩ := hf
    obtain ⟨rfl, rfl⟩ | ⟨hn, hg⟩ := of_get?_insert hg
    · exact ⟨session, hl, by simp [isOutstanding, hst], hr⟩
    · obtain ⟨ha, hc⟩ := h.accounted other found ⟨hg, he⟩
      exact ⟨found, ⟨hg, he⟩, by simp [isOutstanding, hst, Ne.symm hn], by omega⟩
  · rw [h.get?_eq_none hro (by rw [hst]; rfl)] at hfa
    cases hfa

/-- The end of a dispatch frees its slot. -/
theorem terminal {fact : WorkerTerminalV1 ρ} {at' : DateTime}
    (hro : d.loadDispatch fact.dispatchId = some row) (hw : row.workerId = some fact.workerId)
    (hs : row.sessionId = some fact.sessionId) (hop : row.state.isResolved = false)
    (hv : validSha256 fact.journalDigest = true)
    (hu : Updates d d' fact.dispatchId fun row => { row with
      state := fact.outcome.state, terminalDigest := some fact.journalDigest
      ambiguityReason := none, updatedAt := at' }) (hl : a.Live now fact.sessionId session) :
    Slots (a.setSession fact.sessionId
        { session with activeDispatches := session.activeDispatches - 1 }) d'
      (terminals.insert fact.dispatchId fact) now := by
  have hot := h.isOutstanding_of_open hro hs hl hop
  have hen : fact.outcome.state.isResolved = true := by cases fact.outcome <;> rfl
  have ho : ∀ other, RemoteDispatch.isOutstanding other { row with
      state := fact.outcome.state, terminalDigest := some fact.journalDigest
      ambiguityReason := none, updatedAt := at' } = false := fun other => by
    cases hou : fact.outcome <;> simp [RemoteDispatch.isOutstanding, WorkerTerminalOutcomeV1.state]
  refine h.update hro hu (fun _ => rfl) (fun other found hf => ?_)
    (fun other hn => SortedMap.get?_insert_ne _ hn _) (fun r hr => ?_)
    fun _ _ _ _ => .inr ⟨hen, by rw [SortedMap.contains, SortedMap.get?_insert_self]; rfl⟩
  · obtain ⟨hg, he⟩ := hf
    rw [ho]
    obtain ⟨rfl, rfl⟩ | ⟨hn, hg⟩ := SortedMap.of_get?_insert hg
    · have hcn := hu.outstanding h.distinct hro fact.sessionId
      obtain ⟨ha, hc⟩ := h.accounted fact.sessionId session hl
      rw [ho, hot, Bool.toNat_true, Bool.toNat_false] at hcn
      refine ⟨session, hl, ?_, ?_⟩
      · rw [hot, Bool.toNat_true, Bool.toNat_false]
        dsimp only
        omega
      · dsimp only
        omega
    · obtain ⟨ha, hc⟩ := h.accounted other found ⟨hg, he⟩
      exact ⟨found, ⟨hg, he⟩, by simp [RemoteDispatch.isOutstanding, hs, Ne.symm hn], by omega⟩
  · rw [SortedMap.get?_insert_self, Option.some.injEq] at hr
    subst hr
    have hi : row.dispatchId = fact.dispatchId := loadDispatch_id hro
    exact ⟨hi, rfl, rfl, hw, hs, hv⟩

theorem request (hr : Requested row) (hfr : d.loadDispatch row.dispatchId = none)
    (ha : d'.dispatches = d.dispatches ++ [row]) : Slots a d' terminals now := by
  have ho : ∀ sessionId, d'.outstanding sessionId = d.outstanding sessionId := by
    intro sessionId
    rw [outstanding, ha, outstanding]
    simp [isOutstanding, hr.session]
  refine ⟨h.distinct.append hfr ha, fun sessionId session hl => ?_,
    fun row' hr' sessionId session hs hl => ?_, fun id fact hfa => ?_⟩
  · rw [ho]
    exact h.accounted sessionId session hl
  · rw [ha, List.mem_append, List.mem_singleton] at hr'
    obtain hm | rfl := hr'
    · exact h.rows row' hm sessionId session hs hl
    · rw [hr.session] at hs
      cases hs
  · obtain ⟨found, hf, he⟩ := h.ended id fact hfa
    refine ⟨found, ?_, he⟩
    rw [loadDispatch_append ha, hf, Option.some_or]

/-- A sweep that takes no dispatch of a live session. -/
theorem sweep {db at' : DateTime} {limit : Nat}
    (hsw : d'.dispatches = d.dispatches.map fun row =>
      if row.dispatchId ∈ (d.lostDispatches db limit).map (·.dispatchId) then lostRow at' row
      else row)
    (hsp : ∀ row ∈ d.lostDispatches db limit, ∀ sessionId session,
      row.sessionId = some sessionId → ¬a.Live now sessionId session) :
    Slots a d' terminals now := by
  have hk : ∀ row : RemoteDispatch,
      (if row.dispatchId ∈ (d.lostDispatches db limit).map (·.dispatchId) then
        lostRow at' row else row).dispatchId = row.dispatchId := by
    intro row
    split <;> simp
  -- a row is due, or it stays
  have hd : ∀ row ∈ d.dispatches, row.dispatchId ∈ (d.lostDispatches db limit).map (·.dispatchId) →
        row ∈ d.lostDispatches db limit := by
    intro row hr hi
    obtain ⟨due, hm, hi⟩ := List.mem_map.1 hi
    obtain rfl := List.inj_on_of_nodup_map h.distinct (mem_lostDispatches hm).1 hr hi
    exact hm
  refine ⟨h.distinct.map hk hsw, fun sessionId session hl => ?_,
    fun row' hr' sessionId session hs hl => ?_, fun id fact hfa => ?_⟩
  · have hou : d'.outstanding sessionId = d.outstanding sessionId := by
      rw [outstanding, hsw, List.countP_map]
      refine List.countP_congr fun row hr => ?_
      simp only [Function.comp]
      split
      · rename_i hi
        rw [isOutstanding_lostRow]
        have hsp := hsp row (hd row hr hi) sessionId session
        have hn : row.sessionId ≠ some sessionId := fun hs => hsp hs hl
        simp [isOutstanding, hn]
      · rfl
    rw [hou]
    exact h.accounted sessionId session hl
  · rw [hsw] at hr'
    obtain ⟨row, hr, rfl⟩ := List.mem_map.1 hr'
    split at hs
    · rename_i hi
      have hsp := hsp row (hd row hr hi) sessionId session
      unfold lostRow at hs
      split at hs
      · cases hs
      · exact absurd hl (hsp hs)
    · rename_i hi
      rw [if_neg hi]
      exact h.rows row hr sessionId session hs hl
  · obtain ⟨found, hf, he⟩ := h.ended id fact hfa
    refine ⟨found, ?_, he⟩
    rw [loadDispatch_map hk hsw, hf, Option.map_some, if_neg]
    intro hi
    obtain ⟨-, hst⟩ := mem_lostDispatches (hd found (loadDispatch_mem hf) hi)
    rw [he.state] at hst
    cases ho : fact.outcome <;> simp [ho, WorkerTerminalOutcomeV1.state] at hst

end Slots

end Slots

end Woml
