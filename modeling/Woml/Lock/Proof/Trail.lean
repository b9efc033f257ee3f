import Woml.Lock.Tables
import Woml.Projection.Proof.Loops

/-!
# The trail of a lock in a history

A lock of the run, or of one iteration, goes through at most three states: it waits, is then held
or given up, and a held one is released or lost. The fold refuses every other event
(`apply_lockStep`), so that the events of the lock in an accepted history are one of seven `trails`
and the folded status is the last of them (`trail_of_fold`).
-/

namespace Woml

open Checked ProjectionFoldState ForEachProjection LockStatus SortedMap

/-- The lock that an event is about, and the status that it gives to it. -/
def RunEventPayload.lockChange : RunEventPayload → Option (String × LockStatus)
  | lockWaitRegistered data => some (data.lockId, .waiting)
  | lockAcquired data => some (data.lockId, .held)
  | lockReleased data => some (data.lockId, .released)
  | lockAcquireTimedOut data => some (data.lockId, .acquireTimedOut)
  | lockAcquisitionCancelled data => some (data.lockId, .acquisitionCancelled)
  | lockLeaseLost data => some (data.lockId, .leaseLost)
  | _ => none

/-- The status that a payload gives to the lock. -/
def RunEventPayload.changes (payload : RunEventPayload) (lockId : String) : Option LockStatus :=
  payload.lockChange.bind fun (key, status) => if key = lockId then some status else none

/-- The status that an event gives to the lock of the run, or of an iteration. -/
def RunEvent.lockChange (event : RunEvent) (lockId : String)
    (scope : Option ForEachIterationScope) : Option LockStatus :=
  if event.iteration = scope then event.payload.changes lockId else none

namespace LockStatus

def follows : Option LockStatus → LockStatus → Bool
  | none, waiting | some waiting, held | some waiting, acquireTimedOut
  | some waiting, acquisitionCancelled | some held, released | some held, leaseLost => true
  | _, _ => false

/-- The sequences of states that a lock can go through. -/
def trails : List (List LockStatus) :=
  [[], [waiting], [waiting, held], [waiting, held, released], [waiting, held, leaseLost],
    [waiting, acquireTimedOut], [waiting, acquisitionCancelled]]

theorem trails_snoc : ∀ t ∈ trails, ∀ status : LockStatus,
    follows t.getLast? status = true → t ++ [status] ∈ trails := by
  simp only [trails, List.forall_mem_cons]
  refine ⟨?_, ?_, ?_, ?_, ?_, ?_, ?_, nofun⟩ <;> intro status <;> cases status <;> decide

theorem held_iff : ∀ trail ∈ trails,
    trail.getLast? = some held ↔ held ∈ trail ∧ released ∉ trail ∧ leaseLost ∉ trail := by
  decide

theorem trails_ended : ∀ t ∈ trails, t.getLast? ≠ none → t.getLast? ≠ some waiting →
    t.getLast? ≠ some held → ∀ t' ∈ trails, t <+: t' → t' = t := by
  decide

end LockStatus

/-- What an event that gives `change` to a lock does to its status. -/
def LockStep (before change after : Option LockStatus) : Prop :=
  match change with
  | none => after = before
  | some status => after = some status ∧ LockStatus.follows before status = true

/-! ## The handlers -/

/-- Every lock of the map takes the step that the payload makes. -/
def StepsLocks (payload : RunEventPayload) (locks locks' : SortedMap String LockProjection) : Prop :=
  ∀ lockId, LockStep ((locks.get? lockId).map (·.status)) (payload.changes lockId)
    ((locks'.get? lockId).map (·.status))

theorem StepsLocks.same {p : RunEventPayload} {ls locks' : SortedMap String LockProjection}
    (hn : p.lockChange = none) (hs : locks' = ls) : StepsLocks p ls locks' := by
  intro li
  rw [RunEventPayload.changes, hn, hs]
  exact rfl

theorem StepsLocks.insert {p : RunEventPayload} {ls : SortedMap String LockProjection}
    {key : String} {lock : LockProjection} (hc : p.lockChange = some (key, lock.status))
    (hf : LockStatus.follows ((ls.get? key).map (·.status)) lock.status = true) :
    StepsLocks p ls (ls.insert key lock) := by
  intro li
  rw [RunEventPayload.changes, hc]
  by_cases hk : key = li
  · subst hk
    simp only [Option.bind_some, get?_insert_self]
    exact ⟨rfl, hf⟩
  · rw [get?_insert_ne _ (Ne.symm hk)]
    simp [if_neg hk, LockStep]

section
variable {p : RunEventPayload} {ls : SortedMap String LockProjection} {key : String}
  {lock l' : LockProjection}

/-- A lock that waits or is held goes on to a state that follows. -/
theorem StepsLocks.settle {s : LockStatus} (hl : ls.get? key = some lock)
    (hs : lock.status = s) (hc : p.lockChange = some (key, l'.status))
    (hf : LockStatus.follows (some s) l'.status = true) :
    StepsLocks p ls (ls.insert key l') :=
  .insert hc (by rw [hl, Option.map_some, hs]; exact hf)

theorem held_of_isHeldAs {k li t : String} (h : ¬(!lock.isHeldAs k li t) = true) :
    lock.status = .held := by
  simp only [LockProjection.isHeldAs, Bool.not_eq_true'] at h
  grind

end

variable {ps : Option RunEvent}

variable {event : RunEvent}

theorem applyPayload_stepsLocks [Host] {p q : RunProjection} {ins : AttemptIndexes}
    (h : applyPayload p event ins ps = .ok q) : StepsLocks event.payload p.locks q.locks := by
  by_cases hlo : Slice.locks ∈ footprint event.payload
  · rw [applyPayload] at h
    cases hp : event.payload <;> rw [hp] at h hlo
    case lockWaitRegistered data =>
      simp only [applyLockWaitRegistered, eq_ok_iff] at h
      obtain ⟨_, -, _, hf, rfl⟩ := h
      exact .insert rfl (by simp_all [SortedMap.contains, LockStatus.follows, registeredLock])
    case lockAcquired data =>
      simp only [applyLockAcquired, eq_ok_iff, not_or, not_not] at h
      obtain ⟨_, -, lock, hl, _, ⟨hw, -⟩, rfl⟩ := h
      exact .settle hl hw rfl rfl
    case lockReleased data =>
      simp only [applyLockReleased, eq_ok_iff] at h
      obtain ⟨_, -, lock, hl, _, hh, rfl⟩ := h
      exact .settle hl (held_of_isHeldAs hh) rfl rfl
    case lockAcquireTimedOut data | lockAcquisitionCancelled data =>
      simp only [applyLockAcquireTimedOut, applyLockAcquisitionCancelled, eq_ok_iff, not_or,
        not_not] at h
      obtain ⟨lock, hl, _, ⟨hw, -⟩, rfl⟩ := h
      exact .settle hl hw rfl rfl
    case lockLeaseLost data =>
      simp only [applyLockLeaseLost, eq_ok_iff] at h
      obtain ⟨lock, hl, _, hh, rfl⟩ := h
      exact .settle hl (held_of_isHeldAs hh) rfl rfl
    all_goals simp [footprint] at hlo
  · have hs : q.locks = p.locks := applyPayload_keeps event ins ps q h .locks hlo
    refine .same ?_ hs
    cases hp : event.payload <;> rw [hp] at hlo <;>
      first | rfl | simp [footprint] at hlo

open ForEachIterationExecutionProjection in
theorem locks_of_iteration {x : ForEachIterationExecutionProjection} {s : ForEachIterationScope}
    (hn : event.payload.lockChange = none) :
    Ensures (fun x' => x'.locks = x.locks) (x.apply s event ps) := by
  unfold ForEachIterationExecutionProjection.apply
  cases hp : event.payload <;> rw [hp] at hn
  all_goals
    first
    | cases hn; done
    | exact Ensures.error
    | repeat' first
        | refine Ensures.bind fun _ h => ?_
        | exact Ensures.error
        | split
        | exact Ensures.ok rfl

open ForEachIterationExecutionProjection in
theorem iteration_stepsLocks {x x' : ForEachIterationExecutionProjection}
    {s : ForEachIterationScope} (h : x.apply s event ps = .ok x') :
    StepsLocks event.payload x.locks x'.locks := by
  cases hc : event.payload.lockChange with
  | none => exact .same hc (locks_of_iteration hc x' h)
  | some change =>
    rw [ForEachIterationExecutionProjection.apply] at h
    cases hp : event.payload <;> rw [hp] at h hc
    case lockWaitRegistered data =>
      simp only [lockWaitRegistered, eq_ok_iff] at h
      obtain ⟨_, hf, rfl⟩ := h
      exact .insert rfl (by simp_all [SortedMap.contains, LockStatus.follows, registeredLock])
    case lockAcquired data | lockAcquireTimedOut data | lockAcquisitionCancelled data =>
      simp only [lockAcquired, lockAcquireTimedOut, lockAcquisitionCancelled, eq_ok_iff, not_or,
        not_not] at h
      obtain ⟨lock, hl, _, ⟨hw, -⟩, rfl⟩ := h
      exact .settle hl hw rfl rfl
    case lockReleased data | lockLeaseLost data =>
      simp only [lockReleased, lockLeaseLost, eq_ok_iff] at h
      obtain ⟨lock, hl, _, hh, rfl⟩ := h
      exact .settle hl (held_of_isHeldAs hh) rfl rfl
    all_goals cases hc

/-! ## The locks of an iteration -/

namespace ForEachProjection

def locksAt (loop : ForEachProjection) (index : Nat) : SortedMap String LockProjection :=
  ((loop.executions.get? index).map (·.locks)).getD .empty

/-- Only iterations that have begun are executed. -/
def Rooted (loop : ForEachProjection) : Prop :=
  ∀ index, loop.iterations.get? index = none → loop.executions.get? index = none

end ForEachProjection

theorem lockAt_iteration (p : RunProjection) (lockId : String) (s : ForEachIterationScope) :
    p.lockAt lockId (some s) = (p.forEach.get? s.forEachId).bind fun loop =>
      (loop.locksAt s.index).get? lockId := by
  rw [RunProjection.lockAt]
  congr 1
  funext loop
  rw [ForEachProjection.locksAt]
  cases loop.executions.get? s.index <;> rfl

theorem get?_of_insert_none {κ α : Type} [LinearOrder κ] {m : SortedMap κ α} {k i : κ} {a : α}
    (h : (m.insert k a).get? i = none) : i ≠ k ∧ m.get? i = none := by
  by_cases hk : i = k
  · subst hk
    simp at h
  · exact ⟨hk, by rwa [get?_insert_ne _ hk] at h⟩

/-! ## The fold -/

section
variable [Host] {s s' : ProjectionFoldState}

section
omit [Host]

theorem lockChange_unscoped (hs : isIterationScoped event = false) (li : String)
    (s : ForEachIterationScope) : event.lockChange li (some s) = none := by
  rw [RunEvent.lockChange]
  split_ifs with hi
  · rw [isIterationScoped, hi] at hs
    cases hp : event.payload <;> rw [hp] at hs <;> first | rfl | cases hs
  · rfl

/-- The locks of a loop follow the event. -/
def LocksFollow (event : RunEvent) (forEachId : String) (before after : Option ForEachProjection) :
    Prop :=
  (∀ loop, after = some loop → loop.Rooted) ∧ ∀ index lockId,
    LockStep ((before.bind fun loop => (loop.locksAt index).get? lockId).map (·.status))
      (event.lockChange lockId (some ⟨forEachId, index⟩))
      ((after.bind fun loop => (loop.locksAt index).get? lockId).map (·.status))

/-- No lock takes a step. -/
theorem LocksFollow.quiet {fei : String} {loop l' : ForEachProjection}
    (hs : isIterationScoped event = false) (hr : l'.Rooted)
    (hl : ∀ index, l'.locksAt index = loop.locksAt index) :
    LocksFollow event fei (some loop) (some l') := by
  refine ⟨fun _ he => Option.some.inj he ▸ hr, fun index li => ?_⟩
  rw [lockChange_unscoped hs, Option.bind_some, Option.bind_some, hl]
  exact rfl

/-- **What an event does to the locks of a loop.** -/
theorem LoopStep.locks {fei : String} {b after : Option ForEachProjection}
    (h : LoopStep event fei b after) (hr : ∀ loop, b = some loop → loop.Rooted) :
    LocksFollow event fei b after := by
  cases h with
  | kept loop? quiet =>
    refine ⟨hr, fun index li => ?_⟩
    have hn : event.lockChange li (some ⟨fei, index⟩) = none := by
      rw [RunEvent.lockChange]
      split_ifs with hi
      · have hq := quiet ⟨_, hi, rfl⟩
        cases hp : event.payload <;> rw [hp] at hq <;> first | rfl | cases hq
      · rfl
    rw [hn]
    exact rfl
  | opened loop u _ _ es =>
    refine ⟨fun lp' hl index _ => ?_, fun index li => ?_⟩
    · rw [← Option.some.inj hl, es]
      rfl
    · rw [lockChange_unscoped u, Option.bind_some, locksAt, es]
      exact rfl
  | begun loop index status es u _ _ fresh bl =>
    refine .quiet u (fun other ho => ?_) fun other => ?_
    · obtain ⟨hne, hf⟩ := get?_of_insert_none ho
      rcases bl with rfl | ⟨x, -, rfl⟩
      · exact hr loop rfl other hf
      · exact (get?_insert_ne _ hne _).trans (hr loop rfl other hf)
    · rcases bl with rfl | ⟨x, hx, rfl⟩
      · rfl
      · by_cases ho : other = index
        · subst ho
          simp [locksAt, hx, hr loop rfl _ fresh]
        · simp [locksAt, get?_insert_ne _ ho]
  | ended loop index status es u _ _ locks =>
    refine .quiet u (fun other ho => ?_) fun other => ?_
    · have hs := locks other
      rw [hr loop rfl other (get?_of_insert_none ho).2] at hs
      simpa using hs
    · rw [locksAt, locks]
      rfl
  | worked loop index _ sc execution work =>
    refine ⟨fun lp' hl other ho => ?_, fun other li => ?_⟩
    · cases hl
      have hne : other ≠ index := by
        rintro rfl
        rw [hr loop rfl _ ho] at execution
        cases execution
      exact (get?_insert_ne _ hne _).trans (hr loop rfl other ho)
    · rw [RunEvent.lockChange, sc]
      by_cases ho : other = index
      · subst ho
        simpa [locksAt, execution] using iteration_stepsLocks work li
      · rw [if_neg (by simpa using Ne.symm ho)]
        simp [locksAt, get?_insert_ne _ ho, LockStep]
  | settled loop settlement data payload_eq =>
    refine ⟨fun _ he => Option.some.inj he ▸ hr loop rfl, fun index li => ?_⟩
    have hn : event.payload.lockChange = none := by
      cases hp : event.payload <;> rw [hp] at payload_eq <;>
        first | rfl | cases payload_eq
    rw [RunEvent.lockChange, RunEventPayload.changes, hn, Option.bind_none, ite_self]
    exact rfl

end

/-- **What an event does to a lock.** -/
theorem apply_lockStep (h : s.apply event = .ok s')
    (hr : ∀ key loop, s.projection.forEach.get? key = some loop → loop.Rooted) :
    (∀ key loop, s'.projection.forEach.get? key = some loop → loop.Rooted) ∧
      ∀ li sc, LockStep ((s.projection.lockAt li sc).map (·.status))
        (event.lockChange li sc) ((s'.projection.lockAt li sc).map (·.status)) := by
  have hl := fun key => (apply_loopStep h key).locks (hr key)
  refine ⟨fun key => (hl key).1, fun li sc => ?_⟩
  cases sc with
  | some sc =>
    rw [lockAt_iteration, lockAt_iteration]
    exact (hl sc.forEachId).2 sc.index li
  | none =>
    obtain ⟨-, q, hq, rfl⟩ := apply_eq_ok.1 h
    show LockStep _ _ ((q.lockAt li none).map (·.status))
    rw [handle] at hq
    split at hq
    · -- the work of an iteration leaves the locks of the run alone
      rename_i hsc
      have hso : event.iteration ≠ none := fun hn => by simp [isIterationScoped, hn] at hsc
      have hk := applyIterationScopedEvent_keeps event s.previousEvent q hq .locks (by simp)
      rw [RunEvent.lockChange, if_neg hso]
      exact congrArg (fun locks => (SortedMap.get? locks li).map (·.status)) hk
    · rename_i hsc
      have hs := applyPayload_stepsLocks hq li
      rw [RunEvent.lockChange]
      split_ifs with hi
      · exact hs
      · -- an event with an iteration that acts on the run is not about a lock
        have ht : isTopLevelScopedEvent event.payload = true := by
          simpa [isIterationScoped, Option.isSome_iff_ne_none, hi] using hsc
        have hn : event.payload.lockChange = none := by
          cases hp : event.payload <;> rw [hp] at ht <;> first | rfl | cases ht
        rwa [RunEventPayload.changes, hn] at hs

/-- The states that the events give to a lock, in order. -/
def lockTrail (events : List RunEvent) (lockId : String) (scope : Option ForEachIterationScope) :
    List LockStatus :=
  events.filterMap (·.lockChange lockId scope)

/-- **The folded status of a lock is the last state of its trail.** -/
theorem trail_of_fold {es : List RunEvent} (h : fromEvents es = .ok s) (li : String)
    (sc : Option ForEachIterationScope) :
    lockTrail es li sc ∈ trails ∧
      (s.projection.lockAt li sc).map (·.status) =
        (lockTrail es li sc).getLast? := by
  suffices ha : (∀ key loop, s.projection.forEach.get? key = some loop → loop.Rooted) ∧
      lockTrail es li sc ∈ trails ∧
      (s.projection.lockAt li sc).map (·.status) =
        (lockTrail es li sc).getLast? from ha.2
  refine fromEvents_induction (P := fun es s =>
    (∀ key loop, s.projection.forEach.get? key = some loop → loop.Rooted) ∧
      lockTrail es li sc ∈ trails ∧
      (s.projection.lockAt li sc).map (·.status) =
        (lockTrail es li sc).getLast?) ?_ ?_ h
  · refine ⟨nofun, by simp [lockTrail, trails], ?_⟩
    cases sc <;> rfl
  · intro es s event s' _ ⟨hr, ht, hl⟩ hap
    obtain ⟨hr', hst⟩ := apply_lockStep hap hr
    have hs := hst li sc
    refine ⟨hr', ?_⟩
    have hsn : lockTrail (es ++ [event]) li sc =
        lockTrail es li sc ++ (event.lockChange li sc).toList := by
      simp only [lockTrail, List.filterMap_append, List.filterMap_cons]
      cases event.lockChange li sc <;> rfl
    rw [hsn]
    cases hc : event.lockChange li sc with
    | none =>
      rw [hc] at hs
      rw [Option.toList_none, List.append_nil, hs]
      exact ⟨ht, hl⟩
    | some status =>
      rw [hc, hl] at hs
      rw [Option.toList_some, hs.1, List.getLast?_append, List.getLast?_singleton, Option.some_or]
      exact ⟨trails_snoc _ ht _ hs.2, rfl⟩

/-- **A lock is held as long as it was acquired and is neither released nor lost.** -/
theorem held_iff_trail {es : List RunEvent} (h : fromEvents es = .ok s) (li : String)
    (scope : Option ForEachIterationScope) :
    (∃ lock, s.projection.lockAt li scope = some lock ∧ lock.status = .held) ↔
      .held ∈ lockTrail es li scope ∧ .released ∉ lockTrail es li scope ∧
        .leaseLost ∉ lockTrail es li scope := by
  obtain ⟨ht, hl⟩ := trail_of_fold h li scope
  rw [← held_iff _ ht, ← hl, Option.map_eq_some_iff]

/-- **A lock is taken once and ends once.** In every accepted history its states are those of one
trail, and no later event changes what it has ended with. -/
theorem lock_ends_once (events more : List RunEvent) (lockId : String)
    (scope : Option ForEachIterationScope) :
    Ensures (fun s' => ∃ s, fromEvents events = .ok s ∧
        lockTrail (events ++ more) lockId scope ∈ trails ∧
        ∀ lock, s.projection.lockAt lockId scope = some lock → lock.status ≠ .waiting →
          lock.status ≠ .held →
          (s'.projection.lockAt lockId scope).map (·.status) = some lock.status)
      (fromEvents (events ++ more)) := by
  intro s' h'
  obtain ⟨s, h, -⟩ := fromEvents_append h'
  obtain ⟨ht, hs⟩ := trail_of_fold h lockId scope
  obtain ⟨ht', hs'⟩ := trail_of_fold h' lockId scope
  refine ⟨s, h, ht', fun lock hl hw hh => ?_⟩
  rw [hl] at hs
  rw [hs', trails_ended _ ht (by simp [← hs]) (by simpa [← hs] using hw)
    (by simpa [← hs] using hh) _ ht' (by simp [lockTrail])]
  exact hs.symm

end

end Woml
