import Woml.Schedule.Schedule
import Woml.Store.Proof.Admission

/-!
# Loops that race for a cursor

The cursor is always an instant of the schedule, and an instant that is claimed lies between the
cursor that the loop read and the next one (`due_claim`). So the instants that are admitted grow
with the cursor, whatever the clocks of the loops say (`Ordered`). An instant that was admitted is
stored with the payload of the loop that admitted it, and that payload holds the time at which the
loop woke up: a second loop finds a duplicate only if it woke up at the same millisecond.
-/

namespace Woml

open Checked Store ScheduledStore ScheduleRuntimeRegistration WomlSchedule

/-! ## The search for an instant -/

namespace WomlSchedule

variable {schedule : WomlSchedule} {start found : DateTime}

/-- A minute that the schedule matches. -/
def Planned (schedule : WomlSchedule) (instant : DateTime) : Prop :=
  instant % minute = 0 ∧ schedule.matches instant = true

theorem floorMinute_mod (i : DateTime) : floorMinute i % minute = 0 := by
  unfold floorMinute minute DateTime at *
  omega

theorem floorMinute_le (instant : DateTime) : floorMinute instant ≤ instant := by
  unfold floorMinute minute DateTime at *
  omega

theorem le_floorMinute {p instant : DateTime} (hm : p % minute = 0)
    (h : p ≤ instant) : p ≤ floorMinute instant := by
  unfold floorMinute
  unfold minute DateTime at *
  omega

theorem search_planned {d : Int} {left : Nat} (hs : start % minute = 0)
    (h : schedule.search d left start = some found) : schedule.Planned found := by
  induction left generalizing start with
  | zero => cases h
  | succ left ih =>
    unfold search at h
    split at h
    · cases h
      exact ⟨hs, ‹_›⟩
    · refine ih ?_ h
      rw [Int.add_mul_emod_self_right, hs]

theorem search_le {left : Nat} (h : schedule.search (-1) left start = some found) :
    found ≤ start := by
  induction left generalizing start with
  | zero => cases h
  | succ left ih =>
    unfold search at h
    split at h
    · cases h
      exact le_rfl
    · have hl := ih h
      unfold minute DateTime at *
      omega

/-- No minute that matches lies nearer than the one that is found. -/
theorem Planned.nearest {d : Int} (hd : d = 1 ∨ d = -1) {p : DateTime} (hp : schedule.Planned p)
    {left : Nat} (hs : start % minute = 0) (hl : 0 ≤ d * (p - start))
    (h : schedule.search d left start = some found) : d * (found - start) ≤ d * (p - start) := by
  induction left generalizing start with
  | zero => cases h
  | succ left ih =>
    unfold search at h
    split at h
    · cases h
      simpa using hl
    · rename_i hn
      have hne : p ≠ start := fun he => hn (he ▸ hp.2)
      have hm := hp.1
      unfold minute DateTime at *
      have hf := ih (by omega) (by obtain rfl | rfl := hd <;> omega) h
      obtain rfl | rfl := hd <;> omega

theorem nextAfter_planned {i next : DateTime} (h : schedule.nextAfter i = some next) :
    schedule.Planned next ∧ i < next := by
  refine ⟨search_planned ?_ h, (lt_floorMinute_add i).trans_le (le_search h)⟩
  rw [Int.add_emod_right, floorMinute_mod]

theorem nextAtOrAfter_planned {i next : DateTime}
    (h : schedule.nextAtOrAfter i = some next) : schedule.Planned next := by
  refine search_planned ?_ h
  split
  · rw [Int.add_emod_right, floorMinute_mod]
  · exact floorMinute_mod i

theorem latestAtOrBefore_le {instant f : DateTime}
    (h : schedule.latestAtOrBefore instant = some f) : f ≤ instant :=
  (search_le h).trans (floorMinute_le instant)

theorem Planned.le_latest {p i found : DateTime} (hp : schedule.Planned p) (hl : p ≤ i)
    (h : schedule.latestAtOrBefore i = some found) : p ≤ found := by
  have hf := le_floorMinute hp.1 hl
  have hn := hp.nearest (.inr rfl) (floorMinute_mod i) (by unfold DateTime at *; omega) h
  unfold DateTime at *
  omega

end WomlSchedule

/-! ## The decisions -/

/-- A decision that moves the cursor on, past the instant that it claims. -/
def ScheduleDecision.Advances (schedule : WomlSchedule) (cursor : DateTime) :
    ScheduleDecision → Prop
  | .skip next => schedule.Planned next ∧ cursor < next
  | .claim planned next => schedule.Planned next ∧ cursor ≤ planned ∧ planned < next
  | _ => True

namespace ScheduleRuntimeRegistration

variable {r : ScheduleRuntimeRegistration} {cursor now : DateTime}

theorem misfire_advances {m : DateTime} (hm : r.schedule.Planned m) (hc : cursor ≤ m)
    (hle : m ≤ now) : (r.misfire now).Advances r.schedule cursor := by
  unfold misfire
  split
  · trivial
  rename_i next hn
  obtain ⟨hp, hlt⟩ := WomlSchedule.nextAfter_planned hn
  split
  · exact ⟨hp, (hc.trans hle).trans_lt hlt⟩
  · split
    · trivial
    · rename_i planned hl
      exact ⟨hp, hc.trans (hm.le_latest hle hl), (WomlSchedule.latestAtOrBefore_le hl).trans_lt hlt⟩

theorem recover_advances (hc : r.schedule.Planned cursor) :
    (r.recover cursor now).Advances r.schedule cursor := by
  unfold recover
  split
  · exact misfire_advances hc le_rfl (le_of_lt ‹_›)
  · trivial

theorem due_advances : (r.due cursor now).Advances r.schedule cursor := by
  unfold due
  split
  · trivial
  split
  · trivial
  · rename_i f hf
    obtain ⟨hp, hl⟩ := nextAfter_planned hf
    split
    · exact misfire_advances hp hl.le ‹_›
    · exact ⟨hp, le_rfl, hl⟩

end ScheduleRuntimeRegistration

/-! ## The transactions -/

variable {ids : GeneratedIds} {planned : Option DateTime}

namespace ScheduledStore

theorem updateScheduleCursor_eq_ok {s s' : ScheduledStore} {e next : DateTime}
    (h : s.updateScheduleCursor e next = .ok s') :
    s.nextScheduledAt = some e ∧ s' = { s with nextScheduledAt := some next } := by
  simp only [updateScheduleCursor, bind_unit_eq_ok, failIf_eq_ok, not_not, Except.ok.injEq] at h
  exact ⟨h.2.1, h.2.2.symm⟩

theorem updateScheduleCursor_lost {s : ScheduledStore} {e next : DateTime}
    (hlt : e < next) (hl : s.nextScheduledAt ≠ some e) :
    s.updateScheduleCursor e next = .error .scheduleCursorConflict := by
  simp [updateScheduleCursor, failIf, not_le.2 hlt, hl]

variable [Host] [Inspection] {fuel : Nat} {clock : Nat → DateTime}
variable {s s' : ScheduledStore} {e next : DateTime}
variable {registration : ScheduleRuntimeRegistration}

theorem claimScheduleOccurrence_eq_ok {r : TriggerAdmissionRequest} {ids : OccurrenceIds}
    {o : TriggerAdmissionOutcome}
    (h : s.claimScheduleOccurrence fuel clock e next r ids = .ok (o, s')) :
    ∃ store, s.store.admitTriggerOccurrence fuel clock r ids = .ok (o, store) ∧
      s.nextScheduledAt = some e ∧ s' = ⟨store, some next⟩ := by
  simp only [claimScheduleOccurrence, eq_ok_iff, Prod.exists] at h
  obtain ⟨_, _, _, _, o, store, ha, a, hu, rfl, rfl⟩ := h
  obtain ⟨hc, rfl⟩ := updateScheduleCursor_eq_ok hu
  exact ⟨store, ha, hc, rfl⟩

/-- Once the cursor has moved, a claim ends in a cursor conflict if its occurrence is admitted, and
in the error of the admission otherwise. -/
theorem claimScheduleOccurrence_lost {r : TriggerAdmissionRequest}
    {ids : OccurrenceIds} (hlt : e < next) (hl : s.nextScheduledAt ≠ some e)
    (hh : r.triggerHandler = "trigger.schedule") :
    (s.claimScheduleOccurrence fuel clock e next r ids = .error .scheduleCursorConflict ∧
      ∃ outcome store, s.store.admitTriggerOccurrence fuel clock r ids =
        .ok (outcome, store)) ∨
    ∃ error, s.claimScheduleOccurrence fuel clock e next r ids =
        .error (.store error) ∧
      ¬∃ outcome store, s.store.admitTriggerOccurrence fuel clock r ids =
        .ok (outcome, store) := by
  have hc : failIf (r.triggerHandler ≠ "trigger.schedule")
      (ScheduleError.store .triggerHandlerMismatch) = .ok () := by simp [hh]
  simp only [claimScheduleOccurrence, hc]
  cases hv : validateTriggerAdmissionRequest r with
  | error error =>
    refine .inr ⟨error, rfl, ?_⟩
    rintro ⟨outcome, store, ha⟩
    simp only [admitTriggerOccurrence, hv, error_bind, reduceCtorEq] at ha
  | ok _ =>
    cases ha : s.store.admitTriggerOccurrence fuel clock r ids with
    | error error => exact .inr ⟨error, rfl, by simp⟩
    | ok admitted =>
      obtain ⟨outcome, store⟩ := admitted
      have hcf : updateScheduleCursor { s with store } e next =
          .error .scheduleCursorConflict := updateScheduleCursor_lost hlt hl
      refine .inl ⟨?_, outcome, store, rfl⟩
      simp only [Except.mapError, ok_bind, hcf, error_bind]

/-- A transaction that moves the cursor on from where it was, and what it admits. -/
structure Advance (fuel : Nat) (clock : Nat → DateTime) (registration : ScheduleRuntimeRegistration)
    (s s' : ScheduledStore) (cursor next : DateTime) (planned : Option DateTime) : Prop where
  before : s.nextScheduledAt = some cursor
  after : s'.nextScheduledAt = some next
  plannedNext : registration.schedule.Planned next
  lt : cursor < next
  claimed : ∀ instant ∈ planned, cursor ≤ instant ∧ instant < next ∧
    ∃ now ids outcome, s.store.admitTriggerOccurrence fuel clock
        (scheduleAdmission registration instant now) (ids : GeneratedIds).val =
      .ok (outcome, s'.store)
  moved : s'.store = s.store ∨
    ∃ request ids outcome, s.store.admitTriggerOccurrence fuel clock request ids =
      .ok (outcome, s'.store)

/-- What carrying out a decision does. -/
theorem carryOut_eq_ok {c now : DateTime} {d : ScheduleDecision}
    (ha : d.Advances registration.schedule c)
    (h : s.carryOut fuel clock registration c now ids d = .ok (planned, s')) :
    s' = s ∧ planned = none ∨ ∃ next, Advance fuel clock registration s s' c next planned := by
  cases d with
  | wait =>
    cases h
    exact .inl ⟨rfl, rfl⟩
  | exhausted => cases h
  | skip next =>
    simp only [carryOut, map_eq_ok] at h
    obtain ⟨_, hu, rfl, rfl⟩ := h
    obtain ⟨hc, rfl⟩ := updateScheduleCursor_eq_ok hu
    exact .inr ⟨next, hc, rfl, ha.1, ha.2, nofun, .inl rfl⟩
  | claim i next =>
    simp only [carryOut, eq_ok_iff, Prod.exists] at h
    obtain ⟨outcome, _, hcl, rfl, rfl⟩ := h
    obtain ⟨store, had, hc, rfl⟩ := claimScheduleOccurrence_eq_ok hcl
    obtain ⟨hn, hl, hlt⟩ := ha
    refine .inr ⟨next, hc, rfl, hn, hl.trans_lt hlt, fun other ho => ?_, .inr ⟨_, _, _, had⟩⟩
    obtain rfl : i = other := by
      cases hd : outcome.duplicate <;> simp_all
    exact ⟨hl, hlt, now, ids, outcome, had⟩

/-- What the start of a process does: it registers the cursor, or recovers it, or neither. -/
theorem initializeSchedule_spec {now : DateTime}
    (hp : ∀ cursor, s.nextScheduledAt = some cursor → registration.schedule.Planned cursor)
    (h : s.initializeSchedule fuel clock registration now ids = (planned, s')) :
    s' = s ∧ planned = none ∨
      (s.nextScheduledAt = none ∧ planned = none ∧ ∃ cursor, registration.schedule.Planned cursor ∧
          s' = { s with nextScheduledAt := some cursor }) ∨
      ∃ cursor next, Advance fuel clock registration s s' cursor next planned := by
  unfold initializeSchedule at h
  cases hi : registration.schedule.nextAtOrAfter now with
  | none =>
    rw [hi] at h
    cases h
    exact .inl ⟨rfl, rfl⟩
  | some i =>
    rw [hi] at h
    simp only at h
    cases hre : s.registerScheduleCursor registration i with
    | error error =>
      rw [hre] at h
      cases h
      exact .inl ⟨rfl, rfl⟩
    | ok registered =>
      rw [hre] at h
      simp only [registerScheduleCursor, eq_ok_iff] at hre
      obtain ⟨_, _, _, _, _, _, _, _, _, _, hre⟩ := hre
      cases hc : s.nextScheduledAt with
      | none =>
        rw [hc] at hre
        cases hre
        cases h
        exact .inr (.inl ⟨rfl, rfl, i, nextAtOrAfter_planned hi, rfl⟩)
      | some cursor =>
        rw [hc] at hre
        cases hre
        simp only at h
        split at h
        · cases h
          exact .inl ⟨rfl, rfl⟩
        · rename_i rc hr
          cases h
          rcases carryOut_eq_ok
            (recover_advances (hp cursor hc)) hr with
            hs | ⟨next, ha⟩
          · exact .inl hs
          · exact .inr (.inr ⟨cursor, next, ha⟩)

end ScheduledStore

/-! ## Instants that were admitted -/

section
variable [Host] [Inspection] {fuel : Nat} {clock : Nat → DateTime}
variable {registration : ScheduleRuntimeRegistration}

/-- The request for a planned instant is one of the definition's, and its occurrence is stored. -/
structure Store.Holds (s : Store) (registration : ScheduleRuntimeRegistration)
    (planned : DateTime) : Prop where
  valid : validateTriggerAdmissionRequest (scheduleAdmission registration planned planned) = .ok ()
  defined : ∃ w, s.requestedDefinition (scheduleAdmission registration planned planned) = .ok w
  stored : ∃ o, s.occurrences.get? o.occurrenceId = some o ∧
    o.Identifies (scheduleAdmission registration planned planned) ∧ o.isValid = true

namespace Store

variable {s s' : Store}

omit [Host] in
theorem requestedDefinition_mono (hgr : s.Grows s')
    {r : TriggerAdmissionRequest} {w : DefinitionRef}
    (h : s.requestedDefinition r = .ok w) : s'.requestedDefinition r = .ok w := by
  have hg := hgr.definitions (requestedDefinition_get? h)
  rw [requestedDefinition, requestedDefinition_get? h] at h
  rwa [requestedDefinition, hg]

theorem Holds.perform (hs : Reachable fuel clock s) {r : StoreRequest} {a : StoreAnswer}
    (h : s.perform fuel clock r = .ok (a, s')) {planned : DateTime}
    (hh : s.Holds registration planned) : s'.Holds registration planned := by
  obtain ⟨hv, ⟨w, hw⟩, o, hg, hi, hr⟩ := hh
  exact ⟨hv, ⟨w, requestedDefinition_mono (.of_perform h) hw⟩, o,
    (perform_moves h).keeps_occurrence hs.recorded hg, hi, hr⟩

/-- The admission of a planned instant, at any time. -/
theorem Holds.of_admission (hsh : ∀ bytes, isDefinitionHash (sha256Prefixed bytes) = true)
    (hs : Reachable fuel clock s) {planned now : DateTime}
    {ot : TriggerAdmissionOutcome}
    (h : s.admitTriggerOccurrence fuel clock (scheduleAdmission registration planned now) ids.val =
      .ok (ot, s')) : s'.Holds registration planned := by
  obtain ⟨o, hg, hi, hr, -⟩ := stored_of_admission hs h hsh ids.2.1 ids.2.2
  have hgr := Grows.of_perform (perform_of_admission h)
  simp only [admitTriggerOccurrence, bind_eq_ok] at h
  obtain ⟨_, hv, _, _, w, hw, _⟩ := h
  exact ⟨hv, ⟨w, requestedDefinition_mono hgr hw⟩, o, hg, hi, hr⟩

end Store

/-! ## The invariant -/

namespace SharedSchedule

variable {s : SharedSchedule}

/-- The cursor is an instant of the schedule, no loop is ahead of it, and the instants that were
admitted are stored, in order and before the cursor. -/
structure Ordered (fuel : Nat) (clock : Nat → DateTime)
    (registration : ScheduleRuntimeRegistration) (s : SharedSchedule) : Prop where
  reachable : s.scheduled.store.Reachable fuel clock
  planned : ∀ cursor, s.scheduled.nextScheduledAt = some cursor →
    registration.schedule.Planned cursor
  increasing : s.admitted.Pairwise (· < ·)
  passed : ∀ instant ∈ s.admitted, ∃ cursor, s.scheduled.nextScheduledAt = some cursor ∧
    instant < cursor
  holds : ∀ instant ∈ s.admitted, s.scheduled.store.Holds registration instant

theorem Ordered.initial : Ordered fuel clock registration {} :=
  ⟨.empty, nofun, .nil, nofun, nofun⟩

theorem Ordered.loops (h : Ordered fuel clock registration s) (loops : Nat → ScheduleLoop) :
    Ordered fuel clock registration { s with loops } :=
  ⟨h.reachable, h.planned, h.increasing, h.passed, h.holds⟩

theorem Ordered.advance (hsh : ∀ bytes, isDefinitionHash (sha256Prefixed bytes) = true)
    (hs : Ordered fuel clock registration s) {sc : ScheduledStore} {cursor next : DateTime}
    (h : ScheduledStore.Advance fuel clock registration s.scheduled sc cursor next planned)
    (ls : Nat → ScheduleLoop) :
    Ordered fuel clock registration ⟨sc, ls, s.admitted ++ planned.toList⟩ := by
  have hp (instant : DateTime) (hm : instant ∈ s.admitted) : instant < cursor := by
    obtain ⟨_, hcu, hl⟩ := hs.passed instant hm
    rwa [Option.some.inj (h.before.symm.trans hcu)]
  have hk (instant : DateTime) (hm : instant ∈ s.admitted) :
      sc.store.Holds registration instant := by
    rcases h.moved with heq | ⟨_, _, _, ha⟩
    · rw [heq]
      exact hs.holds instant hm
    · exact (hs.holds instant hm).perform hs.reachable (perform_of_admission ha)
  refine ⟨?_, fun c hc => ?_, ?_, fun instant hm => ⟨next, h.after, ?_⟩, fun instant hm => ?_⟩
  · rcases h.moved with heq | ⟨_, _, _, ha⟩
    · show sc.store.Reachable fuel clock
      rw [heq]
      exact hs.reachable
    · exact hs.reachable.step (perform_of_admission ha)
  · rw [← Option.some.inj (h.after.symm.trans hc)]
    exact h.plannedNext
  · refine List.pairwise_append.2 ⟨hs.increasing, ?_, fun er he instant hi => ?_⟩
    · cases planned <;> simp
    · exact (hp er he).trans_le (h.claimed instant (by simpa using hi)).1
  · rcases List.mem_append.1 hm with hm | hm
    · exact (hp instant hm).trans h.lt
    · exact (h.claimed instant (by simpa using hm)).2.1
  · rcases List.mem_append.1 hm with hm | hm
    · exact hk instant hm
    · obtain ⟨-, -, now, ids, outcome, ha⟩ := h.claimed instant (by simpa using hm)
      exact .of_admission hsh hs.reachable ha

/-- The cursor of one state is not behind the one of another. -/
def Forward (s s' : SharedSchedule) : Prop :=
  ∀ cursor, s.scheduled.nextScheduledAt = some cursor →
    ∃ cursor', s'.scheduled.nextScheduledAt = some cursor' ∧ cursor ≤ cursor'

omit [Host] [Inspection] in
theorem Forward.of_eq {s s' : SharedSchedule}
    (h : s'.scheduled.nextScheduledAt = s.scheduled.nextScheduledAt) : Forward s s' :=
  fun cursor hc => ⟨cursor, h.trans hc, le_rfl⟩

theorem Forward.advance {sc : ScheduledStore} {cr next : DateTime}
    (h : ScheduledStore.Advance fuel clock registration s.scheduled sc cr next planned)
    (ls : Nat → ScheduleLoop) (a : List DateTime) : Forward s ⟨sc, ls, a⟩ := by
  intro c hc
  rw [← Option.some.inj (h.before.symm.trans hc)]
  exact ⟨next, h.after, h.lt.le⟩

/-- **What a step keeps.** -/
theorem Ordered.step (hsh : ∀ bytes, isDefinitionHash (sha256Prefixed bytes) = true)
    (hs : Ordered fuel clock registration s) (step : ScheduleStep) :
    Ordered fuel clock registration (s.step fuel clock registration step) ∧
      Forward s (s.step fuel clock registration step) := by
  cases step with
  | start now ids =>
    rcases hst : s.scheduled.initializeSchedule fuel clock registration now ids with
      ⟨planned, scheduled⟩
    simp only [SharedSchedule.step, hst]
    rcases initializeSchedule_spec hs.planned hst with
      ⟨rfl, rfl⟩ | ⟨hn, rfl, cursor, hcu, rfl⟩ | ⟨cursor, next, ha⟩
    · simp only [Option.toList_none, List.append_nil]
      exact ⟨hs, .of_eq rfl⟩
    · have hne (ins : DateTime) : ins ∉ s.admitted := by
        intro hm
        obtain ⟨_, hso, -⟩ := hs.passed ins hm
        cases hn.symm.trans hso
      simp only [Option.toList_none, List.append_nil]
      refine ⟨⟨hs.reachable, ?_, hs.increasing, fun ins hm => absurd hm (hne ins),
        hs.holds⟩, fun c hc => ?_⟩
      · rintro _ ⟨⟩
        exact hcu
      · cases hn.symm.trans hc
    · exact ⟨hs.advance hsh ha _, .advance ha _ _⟩
  | read i =>
    simp only [SharedSchedule.step]
    split
    · exact ⟨hs.loops _, .of_eq rfl⟩
    · exact ⟨hs.loops _, .of_eq rfl⟩
    · exact ⟨hs, .of_eq rfl⟩
  | wake i now ids =>
    simp only [SharedSchedule.step]
    split
    · unfold wake
      split
      · exact ⟨hs.loops _, .of_eq rfl⟩
      · rename_i planned scheduled ho
        rcases carryOut_eq_ok due_advances ho with
          ⟨rfl, rfl⟩ | ⟨next, ha⟩
        · simp only [Option.toList_none, List.append_nil]
          exact ⟨hs.loops _, .of_eq rfl⟩
        · exact ⟨hs.advance hsh ha _, .advance ha _ _⟩
    · exact ⟨hs, .of_eq rfl⟩
  | other request =>
    simp only [SharedSchedule.step]
    split
    · rename_i answer store hp
      exact ⟨⟨hs.reachable.step hp, hs.planned, hs.increasing, hs.passed, fun ins hm =>
        (hs.holds ins hm).perform hs.reachable hp⟩, .of_eq rfl⟩
    · exact ⟨hs, .of_eq rfl⟩

/-- **What a run keeps.** -/
theorem Ordered.run (hsh : ∀ bytes, isDefinitionHash (sha256Prefixed bytes) = true)
    (hs : Ordered fuel clock registration s) (ss : List ScheduleStep) :
    Ordered fuel clock registration (s.run fuel clock registration ss) ∧
      Forward s (s.run fuel clock registration ss) := by
  induction ss generalizing s with
  | nil => exact ⟨hs, .of_eq rfl⟩
  | cons step ss ih =>
    obtain ⟨hst, hf⟩ := hs.step hsh step
    obtain ⟨hr, hf'⟩ := ih hst
    refine ⟨hr, fun cursor hcu => ?_⟩
    obtain ⟨c, hc, hl⟩ := hf cursor hcu
    obtain ⟨c', hc', hl'⟩ := hf' c hc
    exact ⟨c', hc', hl.trans hl'⟩

/-! ## A lost race -/

/-- The occurrence that is stored for a planned instant has the payload of a loop that woke up at
`now`, the history of its run passes the check of its definition, and no active run of the workflow
is bound to another definition or policy. -/
def Agrees (fuel : Nat) (clock : Nat → DateTime) (s : SharedSchedule)
    (registration : ScheduleRuntimeRegistration) (planned now : DateTime) : Prop :=
  ∃ o w, s.scheduled.store.occurrences.get? o.occurrenceId = some o ∧
    o.Identifies (scheduleAdmission registration planned now) ∧
    canonicalPayloadHash (scheduleAdmission registration planned now).payload = .ok o.payloadHash ∧
    s.scheduled.store.Accepted fuel clock o.runId ∧
    s.scheduled.store.requestedDefinition (scheduleAdmission registration planned now) = .ok w ∧
    ∃ identity, s.scheduled.store.runtimePolicyIdentity w registration.definitionHash = .ok identity

/-- An occurrence that is stored is found by a loop that wakes up exactly if they agree. -/
theorem Ordered.admits_iff (hs : Ordered fuel clock registration s) {p : DateTime}
    (had : p ∈ s.admitted) (now : DateTime) (ids : OccurrenceIds) :
    (∃ outcome store, s.scheduled.store.admitTriggerOccurrence fuel clock
        (scheduleAdmission registration p now) ids = .ok (outcome, store)) ↔
      s.Agrees fuel clock registration p now := by
  obtain ⟨hv, -, o, hg, hid, hro⟩ := hs.holds p had
  have hr := hs.reachable.recorded
  have hb := hr.begins hg
  constructor
  · rintro ⟨outcome, store, h⟩
    have hid : o.Identifies (scheduleAdmission registration p now) := hid
    obtain ⟨-, hp, ⟨w, hw, hi⟩, -, hh, -⟩ := (admit_of_stored hr hg hid).1 h
    exact ⟨o, w, hg, hid, hp,
      (validateTriggerOccurrenceHistory_iff hs.reachable.sound hb).1 hh, hw,
      hi⟩
  · rintro ⟨o', w, hg', hi', hp, ha, hw, hi⟩
    obtain rfl := hr.distinct hg' hg (hi'.1.trans hid.1.symm)
      (hi'.2.1.trans hid.2.1.symm) (hi'.2.2.trans hid.2.2.symm)
    exact ⟨_, _, (admit_of_stored hr hg hi').2 ⟨hv, hp, ⟨w, hw, hi⟩, hro,
      (validateTriggerOccurrenceHistory_iff hs.reachable.sound hb).2 ha, rfl,
      rfl⟩⟩

/-- The cursor conflict comes after the admission: a loop that lost the race goes on exactly if
its own admission succeeds. -/
theorem wake_lost {i : Nat} {c now p next : DateTime} (hd : registration.due c now = .claim p next)
    (hl : s.scheduled.nextScheduledAt ≠ some c) :
    (s.wake fuel clock registration i c now ids).loops i = .reading ↔
      ∃ outcome store, s.scheduled.store.admitTriggerOccurrence fuel clock
        (scheduleAdmission registration p now) ids.val = .ok (outcome, store) := by
  have had := @ScheduleRuntimeRegistration.due_advances registration c now
  rw [hd] at had
  have hlt : c < next := had.2.1.trans_lt had.2.2
  unfold wake
  rw [hd]
  simp only [ScheduledStore.carryOut]
  rcases @ScheduledStore.claimScheduleOccurrence_lost _ _ fuel clock s.scheduled c next
    (scheduleAdmission registration p now) ids.val hlt hl rfl with
    ⟨hc, ha⟩ | ⟨error, hc, hr⟩
  · simp only [hc, error_bind, ScheduleLoop.afterError, Function.update_self, true_iff]
    exact ha
  · simp only [hc, error_bind, ScheduleLoop.afterError, Function.update_self, reduceCtorEq,
      false_iff]
    exact hr

theorem wake_skip_lost {i : Nat} {c now next : DateTime} (hd : registration.due c now = .skip next)
    (hl : s.scheduled.nextScheduledAt ≠ some c) :
    (s.wake fuel clock registration i c now ids).loops i = .reading := by
  have ha := @due_advances registration c now
  rw [hd] at ha
  have hc := updateScheduleCursor_lost ha.2 hl
  unfold wake
  rw [hd]
  simp only [carryOut, hc, Functor.map, Except.map, ScheduleLoop.afterError,
    Function.update_self]

/-- **Loops that race for a cursor.** Whatever the interleaving of the loops and whatever their
clocks say: no planned instant is admitted twice, and the cursor never moves backwards. A loop that
lost the race for a cursor goes on if it only wanted to move it, and otherwise exactly if the
admission of its own occurrence succeeds; and where another one admitted that occurrence, it goes
on exactly if the stored occurrence agrees with the payload that it built itself. -/
theorem lost_race_goes_on_iff (hsha : ∀ bytes, isDefinitionHash (sha256Prefixed bytes) = true)
    (registration : ScheduleRuntimeRegistration) (steps : List ScheduleStep) (s : SharedSchedule)
    (hs : s = SharedSchedule.run fuel clock registration {} steps) :
    s.admitted.Nodup ∧
    (∀ later, Forward s (s.run fuel clock registration later)) ∧
    ∀ i cursor now ids, s.loops i = .sleeping cursor →
      (∀ next, registration.due cursor now = .skip next →
        s.scheduled.nextScheduledAt ≠ some cursor →
        (s.step fuel clock registration (.wake i now ids)).loops i = .reading) ∧
      ∀ planned next, registration.due cursor now = .claim planned next →
        (s.scheduled.nextScheduledAt ≠ some cursor →
          ((s.step fuel clock registration (.wake i now ids)).loops i = .reading ↔
            ∃ outcome store, s.scheduled.store.admitTriggerOccurrence fuel clock
              (scheduleAdmission registration planned now) ids.val = .ok (outcome, store))) ∧
        (planned ∈ s.admitted →
          ((s.step fuel clock registration (.wake i now ids)).loops i = .reading ↔
            s.Agrees fuel clock registration planned now)) := by
  have ho : Ordered fuel clock registration s := hs ▸ (Ordered.initial.run hsha steps).1
  refine ⟨ho.increasing.imp ne_of_lt, fun later => (ho.run hsha later).2,
    fun i cursor now ids hlo => ?_⟩
  have hw : s.step fuel clock registration (.wake i now ids) =
      s.wake fuel clock registration i cursor now ids := by rw [SharedSchedule.step, hlo]
  rw [hw]
  refine ⟨fun next hd hl => wake_skip_lost hd hl, fun planned next hd =>
    ⟨wake_lost hd, fun ha => ?_⟩⟩
  -- the instant lies at or after what the loop read, and the cursor has passed it
  have hl : s.scheduled.nextScheduledAt ≠ some cursor := by
    intro hc
    obtain ⟨_, hp, hlt⟩ := ho.passed planned ha
    cases hc.symm.trans hp
    have had := @due_advances registration cursor now
    rw [hd] at had
    exact not_le.2 hlt had.2.1
  exact (wake_lost hd hl).trans (ho.admits_iff ha now ids.val)

end SharedSchedule

end

/-! ## Two loops at one instant -/

namespace TwoLoops

open LimitedWorkflow (queueDigest inspection)

def minuteText (milliseconds : String) : String := "1970-01-01T00:01:00." ++ milliseconds ++ "Z"

def payloadText (triggeredAt : String) : String :=
  "\x7b\"scheduledAt\":\"" ++ minuteText "000" ++ "\",\"triggeredAt\":\"" ++ triggeredAt ++ "\"\x7d"

/-- SHA-256 of the texts that are digested here. -/
def digests : List (String × String) :=
  [("orders", queueDigest), (SerialRun.policyText, SerialRun.policyDigest),
    ("orders:nightly:1970-01-01T00:01:00.000Z",
      "2b41bed1a33f423d80d1c96f3790ac095646688bf6a411ddae3a69299165882f"),
    (payloadText (minuteText "000"),
      "1d72c0024b43740a4b98172e669c234e07627a27859ded4478f582cfb2b00ea7"),
    (payloadText (minuteText "001"),
      "01ffed25dbd5db40967687bd6c5c5287b1d12e6acfc9d19f2f62fcff5fe30960")]

@[reducible] def host : Host :=
  { (default : Host) with
    canonicalJson := fun value =>
      match value with
      | .object [_, ("triggeredAt", .string triggeredAt)] => .ok (utf8 (payloadText triggeredAt))
      | _ => .ok (utf8 SerialRun.policyText)
    sha256 := fun bytes =>
      ((digests.find? fun (text, _) => utf8 text = bytes).map (·.2)).getD Redelivery.zeroDigest
    rfc3339Millis := fun instant => minuteText (if instant = minute then "000" else "001") }

/-- A workflow that starts every minute. -/
def definition : DefinitionRef where
  address := 0
  schemaVersion := 12
  workflowId := "orders"
  triggers := [⟨"nightly", "trigger.schedule"⟩]
  graph :=
    { entryNodeIds := ["work"]
      nodes := [{ id := "work", handler := "runtime.script" }]
      edges := [] }
  runtimePolicy := some SerialRun.policy

def registration : ScheduleRuntimeRegistration :=
  { workflowId := "orders", definitionHash := SerialRun.definitionHash, triggerId := "nightly"
    schedule := ⟨fun _ => true⟩, onMissed := .skip }

def firstIds : GeneratedIds := ⟨⟨"occ_1", "run_1", "event_1"⟩, by decide +kernel⟩

def secondIds : GeneratedIds := ⟨⟨"occ_2", "run_2", "event_2"⟩, by decide +kernel⟩

/-- Both loops sleep until the first minute, and the first one wakes up in time. -/
def steps : List ScheduleStep :=
  [.other (.registerDefinition definition SerialRun.definitionHash true), .start 1 firstIds,
    .read 0, .read 1, .wake 0 minute firstIds]

def before : SharedSchedule :=
  @SharedSchedule.run host inspection 1 (fun _ => 0) registration {} steps

/-- The second loop wakes up. -/
def after (now : DateTime) : SharedSchedule :=
  @SharedSchedule.step host inspection 1 (fun _ => 0) registration before (.wake 1 now secondIds)

def sleepsUntil : ScheduleLoop → Option DateTime
  | .sleeping cursor => some cursor
  | _ => none

def goesOn : ScheduleLoop → Bool
  | .reading => true
  | _ => false

def conflicts : ScheduleLoop → Bool
  | .stopped (.store .triggerIdempotencyConflict) => true
  | _ => false

/-- The second loop wakes up a millisecond after the first one and ends with an error: the instant
that it slept for is admitted, with another time in the payload. -/
theorem second_loop_ends :
    sleepsUntil (before.loops 1) = some minute ∧ before.admitted = [minute] ∧
      conflicts ((after (minute + 1000000)).loops 1) = true := by
  decide +kernel

theorem digest_valid (bs : List Nat) : isDefinitionHash (@sha256Prefixed host bs) = true :=
  isDefinitionHash_of_table (by decide +kernel) (by decide +kernel) bs

/-- A second loop that wakes up at the same millisecond goes on, as its payload is the stored one. -/
theorem second_loop_agrees :
    (after minute).loops 1 = .reading ∧ before.admitted.Nodup ∧
      @SharedSchedule.Agrees host inspection 1 (fun _ => 0) before registration minute minute := by
  have hl : before.loops 1 = .sleeping minute := by
    rfl
  have hw : goesOn ((after minute).loops 1) = true := by decide +kernel
  have hre : (after minute).loops 1 = .reading := by
    cases hp : (after minute).loops 1 <;> rw [hp] at hw <;> cases hw
  have hr := @SharedSchedule.lost_race_goes_on_iff host inspection 1 (fun _ => 0) digest_valid
    registration steps before rfl
  have hd : registration.due minute minute = .claim minute (2 * minute) := by decide +kernel
  exact ⟨hre, hr.1, (((hr.2.2 1 minute minute secondIds hl).2 minute _ hd).2
    (by decide +kernel)).1 hre⟩

end TwoLoops

end Woml
