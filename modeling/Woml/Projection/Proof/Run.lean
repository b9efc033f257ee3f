import Woml.Projection.Proof.Footprint

/-!
# Runs of the fold

Inversion of one fold step (`apply_eq_ok`, `admitted_of_ok`), the run rule over histories
(`fromEvents_induction`) and the bookkeeping that holds along every accepted history
(`Bookkeeping`): the fold knows the length, the last event and the event ids of its history, and
an indexed attempt sits where the index says.
-/

namespace Woml

open Checked

/-! ## Guards -/

theorem requireRunning_eq_ok {p : RunProjection} {u : Unit} :
    requireRunning p = .ok u ↔ p.status = .running := by
  simp [requireRunning]

theorem requireRunningOrCancelling_eq_ok {p : RunProjection} {u : Unit} :
    requireRunningOrCancelling p = .ok u ↔ p.status = .running ∨ p.status = .cancelling := by
  simp [requireRunningOrCancelling]
  tauto

namespace ProjectionFoldState

variable [Host] {s s' : ProjectionFoldState} {event : RunEvent} {events : List RunEvent} {n : Nat}

/-! ## One step -/

/-- What the gate lets through. -/
structure Admitted (s : ProjectionFoldState) (event : RunEvent) : Prop where
  valid : event.validate = .ok ()
  sequence : event.sequence = s.projection.lastSequence + 1
  fresh : event.eventId ∉ s.eventIds
  sameRun : ∀ runId, s.projection.runId = some runId → runId = event.runId
  sameVersion : ∀ version, s.projection.eventSchemaVersion = some version →
    version = event.eventSchemaVersion
  open_ : s.projection.status.isTerminal = false

theorem admitted_of_ok (h : s.gate event = .ok ()) : s.Admitted event := by
  simp only [gate, bind_unit_eq_ok, mapError_eq_ok, failIf_eq_ok, ne_eq, not_not] at h
  obtain ⟨hva, hs, hf, hru, hve, ho⟩ := h
  refine ⟨hva, hs, hf, ?_, ?_, by simpa using ho⟩
  · intro runId hr
    rw [hr] at hru
    exact hru
  · intro v hv
    rw [hv] at hve
    exact hve

/-- The state after an accepted event whose handler returned `projection`. -/
def next (s : ProjectionFoldState) (event : RunEvent) (projection : RunProjection) :
    ProjectionFoldState where
  projection := { projection with lastSequence := event.sequence }
  eventIds := event.eventId :: s.eventIds
  attemptIndexes :=
    if isIterationScoped event then s.attemptIndexes
    else indexAttempt s.projection s.attemptIndexes event.payload
  previousEvent := some event

theorem apply_eq_ok :
    s.apply event = .ok s' ↔
      s.gate event = .ok () ∧ ∃ p, s.handle event = .ok p ∧ s' = s.next event p := by
  rw [apply, bind_unit_eq_ok, bind_eq_ok]
  simp only [Except.ok.injEq]
  constructor
  · rintro ⟨ha, p, hp, rfl⟩
    exact ⟨ha, p, hp, rfl⟩
  · rintro ⟨ha, p, hp, rfl⟩
    exact ⟨ha, p, hp, rfl⟩

theorem handler_of_top (h : s.apply event = .ok s') (ht : isIterationScoped event = false) :
    ∃ p, applyPayload s.projection event s.attemptIndexes s.previousEvent = .ok p ∧
      s' = s.next event p := by
  obtain ⟨-, p, hp, rfl⟩ := apply_eq_ok.1 h
  rw [handle, ht] at hp
  exact ⟨p, hp, rfl⟩

/-- Past the gate, an event of the run is accepted when its handler accepts it. -/
theorem apply_top_eq_ok (hg : s.gate event = .ok ()) (ht : event.iteration = none) :
    s.apply event = .ok s' ↔
      ∃ p, applyPayload s.projection event s.attemptIndexes s.previousEvent = .ok p ∧
        s' = s.next event p := by
  have hs : isIterationScoped event = false := by simp [isIterationScoped, ht]
  rw [apply_eq_ok, and_iff_right hg, handle, hs, if_neg Bool.false_ne_true]

theorem apply_keeps (h : s.apply event = .ok s') :
    Keeps (touched event) s.projection s'.projection := by
  obtain ⟨-, p, hp, rfl⟩ := apply_eq_ok.1 h
  intro sl hs
  have := handle_keeps s event p hp sl hs
  cases sl <;> exact this

/-- Outside the loops, a slice is touched by the handlers of the run alone. -/
theorem handler_of_touched {sl : Slice} (h : s.apply event = .ok s')
    (hs : sl ∈ touched event) (hl : sl ≠ .loops) :
    isIterationScoped event = false ∧ sl ∈ footprint event.payload ∧
      ∃ p, applyPayload s.projection event s.attemptIndexes s.previousEvent = .ok p ∧
        s' = s.next event p := by
  obtain ⟨-, p, hp, hs'⟩ := apply_eq_ok.1 h
  unfold touched at hs
  unfold handle at hp
  split at hs
  · exact absurd (List.mem_singleton.1 hs) hl
  · rename_i hsc
    rw [if_neg hsc] at hp
    exact ⟨Bool.eq_false_iff.2 hsc, hs, p, hp, hs'⟩

/-! ## Histories -/

theorem fromEvents_nil : fromEvents [] = .ok {} := rfl

theorem fromEvents_snoc (es : List RunEvent) (event : RunEvent) :
    fromEvents (es ++ [event]) = fromEvents es >>= fun s => s.apply event := by
  simp [fromEvents, List.foldlM_append]

/-- **Run rule.** A property of histories that the empty history has and that every accepted event
keeps holds of every accepted history. -/
theorem fromEvents_induction {P : List RunEvent → ProjectionFoldState → Prop} (h0 : P [] {})
    (hs : ∀ events s event s', fromEvents events = .ok s → P events s →
      s.apply event = .ok s' → P (events ++ [event]) s') (h : fromEvents events = .ok s) :
    P events s := by
  induction events using List.reverseRecOn generalizing s with
  | nil =>
    rw [fromEvents_nil, Except.ok.injEq] at h
    exact h ▸ h0
  | append_singleton events event ih =>
    rw [fromEvents_snoc, bind_eq_ok] at h
    obtain ⟨t, ht, h⟩ := h
    exact hs events t event s ht (ih ht) h

theorem fromEvents_append {xs ys : List RunEvent} (h : fromEvents (xs ++ ys) = .ok s) :
    ∃ t, fromEvents xs = .ok t ∧ ys.foldlM apply t = .ok s := by
  simpa only [fromEvents, List.foldlM_append, bind_eq_ok] using h

theorem fromEvents_take (h : fromEvents events = .ok s) (n : Nat) :
    ∃ t, fromEvents (events.take n) = .ok t := by
  rw [← List.take_append_drop n events] at h
  obtain ⟨t, ht, -⟩ := fromEvents_append h
  exact ⟨t, ht⟩

theorem fromEvents_take_succ (h : events[n]? = some event) :
    fromEvents (events.take (n + 1)) = fromEvents (events.take n) >>= fun s => s.apply event := by
  rw [List.take_add_one, h, Option.toList_some, fromEvents_snoc]

/-- **Run rule over positions.** For properties that speak of the whole history and a position
in it. -/
theorem fromEvents_take_induction {P : Nat → ProjectionFoldState → Prop} (h0 : P 0 {})
    (hs : ∀ n event s s', events[n]? = some event → fromEvents (events.take n) = .ok s → P n s →
      s.apply event = .ok s' → P (n + 1) s') (hn : n ≤ events.length)
    (h : fromEvents (events.take n) = .ok s) : P n s := by
  induction n generalizing s with
  | zero =>
    rw [List.take_zero, fromEvents_nil, Except.ok.injEq] at h
    exact h ▸ h0
  | succ n ih =>
    have he := List.getElem?_eq_getElem (show n < events.length by omega)
    rw [fromEvents_take_succ he, bind_eq_ok] at h
    obtain ⟨t, ht, h⟩ := h
    exact hs n _ t s he ht (ih (by omega) ht) h

/-- **Run rule from a position on.** -/
theorem fromEvents_take_from {P : ProjectionFoldState → Prop} {k m : Nat} (hkm : k ≤ m)
    (hk : ∀ t, fromEvents (events.take k) = .ok t → P t)
    (hs : ∀ n event s s', k ≤ n → events[n]? = some event →
      fromEvents (events.take n) = .ok s → P s → s.apply event = .ok s' → P s')
    (h : fromEvents (events.take m) = .ok s) : P s := by
  induction m, hkm using Nat.le_induction generalizing s with
  | base => exact hk s h
  | succ m hkm ih =>
    cases he : events[m]? with
    | none =>
      rw [List.take_add_one, he, Option.toList_none, List.append_nil] at h
      exact ih h
    | some event =>
      rw [fromEvents_take_succ he, bind_eq_ok] at h
      obtain ⟨t, ht, ha⟩ := h
      exact hs m event t s hkm he ht (ih ht) ha

theorem apply_at (h : fromEvents events = .ok s) (hn : events[n]? = some event) :
    ∃ t t', fromEvents (events.take n) = .ok t ∧ fromEvents (events.take (n + 1)) = .ok t' ∧
      t.apply event = .ok t' := by
  obtain ⟨t', ht'⟩ := fromEvents_take h (n + 1)
  have hs := ht'
  rw [fromEvents_take_succ hn, bind_eq_ok] at hs
  obtain ⟨t, ht, ha⟩ := hs
  exact ⟨t, t', ht, ht', ha⟩

/-! ## Attempts -/

omit [Host] in
theorem identities_setAttemptStatus (ats : List AttemptProjection) (ind : Nat) (s : AttemptStatus) :
    (setAttemptStatus ats ind s).map (·.identity) = ats.map (·.identity) := by
  unfold setAttemptStatus
  apply List.ext_getElem?
  intro i
  simp only [List.getElem?_map, List.getElem?_modify]
  split <;> cases ats[i]? <;> rfl

/-- The top-level attempt that an event starts. -/
def startedBy (event : RunEvent) : Option AttemptIdentity :=
  if isIterationScoped event then none
  else
    match event.payload with
    | .stepAttemptStarted data => some ⟨data.nodeId, data.attempt, data.invocationId⟩
    | _ => none

/-- Top-level attempts are only appended, and keep their identity. -/
theorem apply_identities (h : s.apply event = .ok s') :
    s'.projection.attempts.map (·.identity) =
      s.projection.attempts.map (·.identity) ++ (startedBy event).toList := by
  by_cases hsl : Slice.attempts ∈ touched event
  · obtain ⟨hsc, hsl, p, hp, rfl⟩ := handler_of_touched h hsl nofun
    simp only [startedBy, hsc, Bool.false_eq_true, if_false]
    -- three handlers touch the attempts
    cases hpa : event.payload with
    | stepAttemptStarted data =>
      simp only [applyPayload, hpa, applyStepAttemptStarted, eq_ok_iff] at hp
      obtain ⟨_, -, _, -, _, -, retries, -, _, -, rfl⟩ := hp
      exact List.map_append
    | stepAttemptSucceeded data =>
      simp only [applyPayload, hpa, applyStepAttemptSucceeded, eq_ok_iff] at hp
      obtain ⟨_, -, index, -, _, -, rfl⟩ := hp
      rw [Option.toList_none, List.append_nil]
      exact identities_setAttemptStatus _ _ _
    | stepAttemptFailed data =>
      simp only [applyPayload, hpa, applyStepAttemptFailed, eq_ok_iff] at hp
      obtain ⟨_, -, index, -, rfl⟩ := hp
      rw [Option.toList_none, List.append_nil]
      exact identities_setAttemptStatus _ _ _
    | _ => rw [hpa] at hsl; simp [footprint] at hsl
  · have hs : s'.projection.attempts = s.projection.attempts := apply_keeps h .attempts hsl
    have hn : startedBy event = none := by
      unfold startedBy
      split
      · rfl
      · rename_i hsc
        cases hpa : event.payload with
        | stepAttemptStarted data => simp [touched, hsc, hpa, footprint] at hsl
        | _ => rfl
    rw [hs, hn, Option.toList_none, List.append_nil]

theorem apply_indexes (h : s.apply event = .ok s') :
    s'.attemptIndexes =
      ((startedBy event).map (·, s.projection.attempts.length)).toList ++ s.attemptIndexes := by
  obtain ⟨-, p, -, rfl⟩ := apply_eq_ok.1 h
  simp only [next, startedBy]
  split
  · rfl
  · cases event.payload <;> rfl

/-- An attempt that starts has an identity of its own: its invocation was never used. -/
theorem startedBy_fresh {key : AttemptIdentity} (h : s.apply event = .ok s')
    (hk : startedBy event = some key) : key ∉ s.projection.attempts.map (·.identity) := by
  obtain ⟨-, p, hp, rfl⟩ := apply_eq_ok.1 h
  unfold startedBy at hk
  split at hk
  · cases hk
  rename_i hs
  cases hpa : event.payload with
  | stepAttemptStarted data =>
    rw [hpa, Option.some.injEq] at hk
    simp only [handle, hs, Bool.false_eq_true, if_false, applyPayload, hpa,
      applyStepAttemptStarted, eq_ok_iff] at hp
    obtain ⟨_, -, _, hu, -⟩ := hp
    intro hm
    obtain ⟨attempt, ha, hi⟩ := List.mem_map.1 hm
    refine hu (List.any_eq_true.2 ⟨attempt, ha, ?_⟩)
    rw [hi, ← hk]
    exact decide_eq_true rfl
  | _ => rw [hpa] at hk; cases hk

/-! ## Bookkeeping -/

omit [Host] in
/-- An index of identities stays one when a new identity is added at its end. -/
theorem lookup_concat {ids : List AttemptIdentity} {ins : AttemptIndexes}
    (h : ∀ key i, ins.lookup key = some i ↔ ids[i]? = some key) {idn : AttemptIdentity}
    (hf : idn ∉ ids) (key : AttemptIdentity) (i : Nat) :
    List.lookup key ((idn, ids.length) :: ins) = some i ↔ (ids ++ [idn])[i]? = some key := by
  rw [List.lookup_cons]
  by_cases he : key = idn
  · subst he
    simp only [beq_self_eq_true, Option.some.injEq]
    constructor
    · rintro rfl
      simp
    · intro hi
      rcases Nat.lt_trichotomy i ids.length with hl | rfl | hgt
      · rw [List.getElem?_append_left hl] at hi
        exact absurd (List.mem_of_getElem? hi) hf
      · rfl
      · rw [List.getElem?_eq_none (by simp; omega)] at hi
        cases hi
  · rw [show (key == idn) = false from beq_eq_false_iff_ne.2 he]
    refine (h key i).trans ⟨fun hi => ?_, fun hi => ?_⟩
    · rwa [List.getElem?_append_left (List.getElem?_eq_some_iff.1 hi).1]
    rcases Nat.lt_or_ge i ids.length with hl | hg
    · rwa [List.getElem?_append_left hl] at hi
    · -- at the end stands the new identity
      rw [List.getElem?_append_right hg, List.getElem?_singleton] at hi
      split at hi
      · exact absurd (Option.some.inj hi).symm he
      · cases hi

/-- What the fold knows of its own history. -/
structure Bookkeeping (events : List RunEvent) (s : ProjectionFoldState) : Prop where
  length : s.projection.lastSequence = events.length
  last : s.previousEvent = events.getLast?
  ids : s.eventIds = (events.map (·.eventId)).reverse
  nodup : (events.map (·.eventId)).Nodup
  indexed : ∀ key i, s.attemptIndexes.lookup key = some i →
    (s.projection.attempts.map (·.identity))[i]? = some key
  located : ∀ key i, (s.projection.attempts.map (·.identity))[i]? = some key →
    s.attemptIndexes.lookup key = some i

theorem Bookkeeping.apply (hs : Bookkeeping events s) (h : s.apply event = .ok s') :
    Bookkeeping (events ++ [event]) s' := by
  have had := admitted_of_ok (apply_eq_ok.1 h).1
  have hin := apply_indexes h
  have hi := apply_identities h
  have hf := fun key => @startedBy_fresh _ s s' event key h
  obtain ⟨-, p, -, rfl⟩ := apply_eq_ok.1 h
  have hl : ∀ key i, (s.next event p).attemptIndexes.lookup key = some i ↔
      ((s.next event p).projection.attempts.map (·.identity))[i]? = some key := by
    intro key i
    rw [hin, hi]
    have ho : ∀ key i, s.attemptIndexes.lookup key = some i ↔
        (s.projection.attempts.map (·.identity))[i]? = some key :=
      fun key i => ⟨hs.indexed key i, hs.located key i⟩
    cases hst : startedBy event with
    | none => simpa using ho key i
    | some identity =>
      have hc := lookup_concat ho (hf identity hst) key i
      rwa [List.length_map] at hc
  refine ⟨?_, by simp [next], by simp [next, hs.ids], ?_, fun key i => (hl key i).1,
    fun key i => (hl key i).2⟩
  · have := had.sequence
    simp [next, this, hs.length]
  · rw [List.map_append, List.nodup_append]
    refine ⟨hs.nodup, by simp, fun a ha b hb => ?_⟩
    have hfr := had.fresh
    rw [hs.ids, List.mem_reverse] at hfr
    simp only [List.map_cons, List.map_nil, List.mem_singleton] at hb
    rintro rfl
    exact hfr (hb ▸ ha)

theorem bookkeeping (h : fromEvents events = .ok s) : Bookkeeping events s := by
  refine fromEvents_induction ⟨rfl, rfl, rfl, .nil, nofun, nofun⟩ ?_ h
  intro events s event s' _ hs ha
  exact hs.apply ha

omit [Host] in
/-- The settled attempt is the one that the event names. -/
theorem settlingAttempt_identity (hs : Bookkeeping events s) {key : AttemptIdentity}
    {verb o : String} {ind : Nat}
    (h : settlingAttempt s.projection s.attemptIndexes key verb o = .ok ind) :
    (s.projection.attempts.map (·.identity))[ind]? = some key := by
  simp only [settlingAttempt, eq_ok_iff] at h
  obtain ⟨_, -, i, hi, _, -, rfl⟩ := h
  exact hs.indexed key i hi

theorem sequence_at (h : fromEvents events = .ok s) (hn : events[n]? = some event) :
    event.sequence = n + 1 := by
  obtain ⟨t, t', ht, -, ha⟩ := apply_at h hn
  have hl := (bookkeeping ht).length
  rw [List.length_take_of_le (Nat.le_of_lt (List.getElem?_eq_some_iff.1 hn).1)] at hl
  rw [(admitted_of_ok (apply_eq_ok.1 ha).1).sequence, hl]

/-! ## Versions -/

omit [Host] in
/-- A projection in which no run has started. Only hooks of reusable steps can be on record, since
their handlers ask nothing of the run. -/
def unstarted (n : Nat) (hooks : SortedMap String ReusableLifecycleProjection) : RunProjection :=
  { RunProjection.initial with lastSequence := n, reusableLifecycleHooks := hooks }

/-- Before a run has started, only its start is accepted. -/
theorem applyPayload_unstarted {ho : SortedMap String ReusableLifecycleProjection}
    {ins : AttemptIndexes} {ps : Option RunEvent} {q : RunProjection}
    (h : applyPayload (unstarted n ho) event ins ps = .ok q) :
    q.eventSchemaVersion = some event.eventSchemaVersion ∨ ∃ hooks', q = unstarted n hooks' := by
  unfold applyPayload at h
  cases hp : event.payload <;> rw [hp] at h
  case runAdmitted data =>
    simp only [applyRunAdmitted, eq_ok_iff] at h
    obtain ⟨_, -, rfl⟩ := h
    exact .inl rfl
  case runStarted data =>
    simp only [applyRunStarted, eq_ok_iff] at h
    obtain ⟨_, -, rfl⟩ := h
    exact .inl rfl
  case remoteDispatchTransitioned data =>
    cases h
    exact .inr ⟨ho, rfl⟩
  case reusableLifecycleRequested data | reusableLifecycleActionStarted data
    | reusableLifecycleActionSucceeded data | reusableLifecycleActionFailed data
    | reusableLifecycleCompleted data =>
    obtain ⟨hooks', -, hq⟩ := bind_eq_ok.1 h
    cases hq
    exact .inr ⟨hooks', rfl⟩
  case approvalResolved data =>
    change applyApprovalResolved (unstarted n ho) event data = .ok q at h
    unfold applyApprovalResolved at h
    split at h <;> cases h
  case runFailed data =>
    simp only [applyRunFailed, bind_eq_ok] at h
    obtain ⟨_, -, h⟩ := h
    split at h <;> obtain ⟨_, h, -⟩ := bind_eq_ok.1 h <;> cases h
  -- every other handler asks for something that a run has only once it has started
  all_goals cases h

theorem version_kept {version : Nat} (h : s.apply event = .ok s')
    (hv : s.projection.eventSchemaVersion = some version) :
    s'.projection.eventSchemaVersion = some version := by
  by_cases hi : Slice.identity ∈ touched event
  · have hs := (admitted_of_ok (apply_eq_ok.1 h).1).sameVersion version hv
    obtain ⟨-, hi, p, hp, rfl⟩ := handler_of_touched h hi nofun
    rw [applyPayload] at hp
    -- the two events that start a run write the version that the gate compared
    cases hpa : event.payload <;> rw [hpa] at hi hp
    case runAdmitted data =>
      simp only [applyRunAdmitted, eq_ok_iff] at hp
      obtain ⟨_, -, rfl⟩ := hp
      exact congrArg some hs.symm
    case runStarted data =>
      simp only [applyRunStarted, eq_ok_iff] at hp
      obtain ⟨_, -, rfl⟩ := hp
      exact congrArg some hs.symm
    all_goals simp [footprint] at hi
  · have hk := apply_keeps h .identity hi
    rw [(Prod.mk.inj hk).1, hv]

theorem unstarted_of_unversioned (h : fromEvents events = .ok s)
    (hv : s.projection.eventSchemaVersion = none) :
    ∃ n hooks, s.projection = unstarted n hooks := by
  refine fromEvents_induction (P := fun _ s => s.projection.eventSchemaVersion = none →
    ∃ n hooks, s.projection = unstarted n hooks) (fun _ => ⟨0, .empty, rfl⟩) ?_ h hv
  intro events s event s' _ ih ha hn
  cases hbe : s.projection.eventSchemaVersion with
  | some v =>
    rw [version_kept ha hbe] at hn
    cases hn
  | none =>
    obtain ⟨-, p, hp, rfl⟩ := apply_eq_ok.1 ha
    obtain ⟨n, hooks, hb⟩ := ih hbe
    rw [handle, hb] at hp
    split at hp
    · cases hp
    · rcases applyPayload_unstarted hp with hs | ⟨hooks', rfl⟩
      · simp only [next, hs] at hn
        cases hn
      · exact ⟨event.sequence, hooks', rfl⟩

end ProjectionFoldState

end Woml
