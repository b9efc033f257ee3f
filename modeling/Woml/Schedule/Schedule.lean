import Woml.Store.Admission

/-!
# Schedules

A schedule trigger starts a run at every instant that its cron expression matches. The instant that
is due next is in a cursor. A scheduler loop reads the cursor, sleeps until it is due, and then
admits the occurrence and moves the cursor on in one transaction. Several loops, also of several
processes and with several clocks, can work on one trigger: between the reading and the transaction
of a loop, others may have moved the cursor. `SharedSchedule` is one trigger with its loops.
-/

namespace Woml

open Checked

def minute : Int := 60000000000

def maxSearchMinutes : Nat := 60 * 24 * 366 * 8

inductive ScheduleMisfirePolicy
  | skip
  | runOnce
  deriving DecidableEq

structure CronField where
  values : List Nat
  unrestricted : Bool

/-- The five fields of a cron expression. -/
structure CronFields where
  minute : CronField
  hour : CronField
  dayOfMonth : CronField
  month : CronField
  dayOfWeek : CronField

/-- What a time zone shows for an instant. The weekday counts from Sunday. -/
structure LocalTime where
  minute : Nat
  hour : Nat
  day : Nat
  month : Nat
  weekday : Nat

/-- `WomlSchedule`: whether the cron expression matches a minute, in the time zone. -/
structure WomlSchedule where
  «matches» : DateTime → Bool

namespace WomlSchedule

/-- The schedule of a cron expression in a time zone. -/
def ofCron (fields : CronFields) (timezone : DateTime → LocalTime) : WomlSchedule where
  «matches» instant :=
    let shown := timezone instant
    let dayOfMonthMatches := fields.dayOfMonth.values.contains shown.day
    let dayOfWeekMatches := fields.dayOfWeek.values.contains shown.weekday
    let dayMatches :=
      match fields.dayOfMonth.unrestricted, fields.dayOfWeek.unrestricted with
      | false, false => dayOfMonthMatches || dayOfWeekMatches
      | false, true => dayOfMonthMatches
      | true, false => dayOfWeekMatches
      | true, true => true
    fields.minute.values.contains shown.minute && fields.hour.values.contains shown.hour &&
      fields.month.values.contains shown.month && dayMatches

variable (schedule : WomlSchedule)

def floorMinute (instant : DateTime) : DateTime := instant - instant % minute

/-- `search`, from a minute on or back; `none` is `SearchExhausted`. -/
def search (direction : Int) : Nat → DateTime → Option DateTime
  | 0, _ => none
  | left + 1, candidate =>
    if schedule.matches candidate then some candidate
    else search direction left (candidate + direction * minute)

def nextAtOrAfter (instant : DateTime) : Option DateTime :=
  let floor := floorMinute instant
  schedule.search 1 maxSearchMinutes (if floor < instant then floor + minute else floor)

def nextAfter (instant : DateTime) : Option DateTime :=
  schedule.search 1 maxSearchMinutes (floorMinute instant + minute)

def latestAtOrBefore (instant : DateTime) : Option DateTime :=
  schedule.search (-1) maxSearchMinutes (floorMinute instant)

theorem lt_floorMinute_add (i : DateTime) : i < floorMinute i + minute := by
  unfold floorMinute minute DateTime at *
  omega

variable {schedule} in
theorem le_search {s found : DateTime} {left : Nat}
    (h : schedule.search 1 left s = some found) : s ≤ found := by
  induction left generalizing s with
  | zero => cases h
  | succ left ih =>
    unfold search at h
    split at h
    · cases h
      exact le_rfl
    · have hl := ih h
      unfold minute DateTime at *
      omega

/-- The loop of `occurrences_between`. -/
def occurrencesFrom (endExclusive occurrence : DateTime) : Option (List DateTime) :=
  if occurrence < endExclusive then
    match _h : schedule.nextAfter occurrence with
    | none => none
    | some next => (occurrencesFrom endExclusive next).map (occurrence :: ·)
  else some []
termination_by (endExclusive - occurrence).toNat
decreasing_by
  have hlt := (lt_floorMinute_add occurrence).trans_le (le_search _h)
  unfold DateTime at *
  omega

def occurrencesBetween (startInclusive endExclusive : DateTime) : Option (List DateTime) :=
  if endExclusive ≤ startInclusive then some []
  else (schedule.nextAtOrAfter startInclusive).bind (schedule.occurrencesFrom endExclusive)

end WomlSchedule

structure ScheduleRuntimeRegistration where
  workflowId : String
  definitionHash : String
  triggerId : String
  schedule : WomlSchedule
  onMissed : ScheduleMisfirePolicy

/-- The store with the cursor of the trigger: the planned instant that is next. -/
structure ScheduledStore where
  store : Store := {}
  nextScheduledAt : Option DateTime := none

inductive ScheduleError
  | store (error : DurableStoreError)
  | scheduleCursorConflict
  /-- No row for the cursor. -/
  | cursorMissing
  | searchExhausted

/-! ## The transactions -/

def scheduleAdmission [Host] (registration : ScheduleRuntimeRegistration)
    (planned triggeredAt : DateTime) : TriggerAdmissionRequest :=
  let plannedText := Host.rfc3339Millis planned
  { workflowId := registration.workflowId
    definitionHash := registration.definitionHash
    triggerId := registration.triggerId
    triggerHandler := "trigger.schedule"
    sourceIdentity := registration.workflowId ++ ":" ++ registration.triggerId ++ ":" ++ plannedText
    payload := [("scheduledAt", .string plannedText),
      ("triggeredAt", .string (Host.rfc3339Millis triggeredAt))]
    receivedAt := triggeredAt }

/-- Identifiers as the store generates them. -/
abbrev GeneratedIds : Type :=
  { ids : OccurrenceIds // validId ids.occurrenceId = true ∧ validId ids.runId = true }

namespace ScheduledStore

variable (s : ScheduledStore)

/-- `register_schedule_cursor`: the cursor, and whether it is a new one. A cursor of the same
registration stays where it is. -/
def registerScheduleCursor (registration : ScheduleRuntimeRegistration)
    (initialNext : DateTime) : Except ScheduleError (DateTime × Bool × ScheduledStore) := do
  failIf (registration.workflowId = "" ∨ registration.triggerId = "" ∨
      !isDefinitionHash registration.definitionHash)
    (.store (.contract "Schedule cursor registration is invalid."))
  let w ← orFail (s.store.definitions.get? registration.definitionHash)
    (.store (.definitionNotFound registration.definitionHash))
  failIf (w.workflowId ≠ registration.workflowId) (.store .triggerDefinitionMismatch)
  let trigger ← orFail (w.trigger registration.triggerId)
    (.store (.triggerNotFound registration.workflowId registration.triggerId))
  failIf (trigger.handler ≠ "trigger.schedule") (.store .triggerHandlerMismatch)
  match s.nextScheduledAt with
  | some cursor => .ok (cursor, false, s)
  | none => .ok (initialNext, true, { s with nextScheduledAt := some initialNext })

def updateScheduleCursor (expected next : DateTime) : Except ScheduleError ScheduledStore := do
  failIf (next ≤ expected)
    (.store (.contract "A schedule cursor must advance to a later planned instant."))
  failIf (s.nextScheduledAt ≠ some expected) .scheduleCursorConflict
  .ok { s with nextScheduledAt := some next }

variable [Host] [Inspection] (fuel : Nat) (clock : Nat → DateTime)

/-- `claim_schedule_occurrence`: the occurrence is admitted first, then the cursor is compared. -/
def claimScheduleOccurrence (expected next : DateTime) (request : TriggerAdmissionRequest)
    (ids : OccurrenceIds) : Except ScheduleError (TriggerAdmissionOutcome × ScheduledStore) := do
  (validateTriggerAdmissionRequest request).mapError .store
  failIf (request.triggerHandler ≠ "trigger.schedule") (.store .triggerHandlerMismatch)
  let (outcome, store) ← (s.store.admitTriggerOccurrence fuel clock request ids).mapError .store
  let advanced ← updateScheduleCursor { s with store } expected next
  .ok (outcome, advanced)

end ScheduledStore

/-! ## The loop -/

/-- What is to be done about the instant in the cursor. -/
inductive ScheduleDecision
  | wait
  | exhausted
  /-- Several instants were missed: the cursor moves on. -/
  | skip (next : DateTime)
  | claim (planned next : DateTime)
  deriving DecidableEq

namespace ScheduleRuntimeRegistration

variable (registration : ScheduleRuntimeRegistration)

/-- What the policy says about an instant that was missed. -/
def misfire (now : DateTime) : ScheduleDecision :=
  match registration.schedule.nextAfter now with
  | none => .exhausted
  | some next =>
    match registration.onMissed with
    | .skip => .skip next
    | .runOnce =>
      match registration.schedule.latestAtOrBefore now with
      | none => .exhausted
      | some planned => .claim planned next

/-- The decision of `initialize_schedules` about a cursor that was there. -/
def recover (cursor now : DateTime) : ScheduleDecision :=
  if cursor < now then registration.misfire now else .wait

/-- The decision of `run_schedule_loop` when it wakes up. -/
def due (cursor now : DateTime) : ScheduleDecision :=
  if now < cursor then .wait
  else
    match registration.schedule.nextAfter cursor with
    | none => .exhausted
    | some following =>
      if following ≤ now then registration.misfire now else .claim cursor following

end ScheduleRuntimeRegistration

/-- A loop is about to read the cursor, sleeps until the instant that it read, or has ended. -/
inductive ScheduleLoop
  | reading
  | sleeping (nextScheduledAt : DateTime)
  | stopped (error : ScheduleError)

/-- After a failed transaction: a lost race for the cursor is no reason to end. -/
def ScheduleLoop.afterError : ScheduleError → ScheduleLoop
  | .scheduleCursorConflict => .reading
  | error => .stopped error

/-- A schedule trigger that loops share, and the planned instants that were admitted, in order. -/
structure SharedSchedule where
  scheduled : ScheduledStore := {}
  loops : Nat → ScheduleLoop := fun _ => .reading
  admitted : List DateTime := []

inductive ScheduleStep
  /-- A process starts. -/
  | start (now : DateTime) (ids : GeneratedIds)
  | read (loop : Nat)
  | wake (loop : Nat) (now : DateTime) (ids : GeneratedIds)
  /-- Another transaction of the store. -/
  | other (request : StoreRequest)

namespace ScheduledStore

variable [Host] [Inspection] (fuel : Nat) (clock : Nat → DateTime)

/-- The transaction for a decision, with the instant that it admits for the first time. -/
def carryOut (s : ScheduledStore) (registration : ScheduleRuntimeRegistration)
    (cursor now : DateTime) (ids : GeneratedIds) :
    ScheduleDecision → Except ScheduleError (Option DateTime × ScheduledStore)
  | .wait => .ok (none, s)
  | .exhausted => .error .searchExhausted
  | .skip next => (none, ·) <$> s.updateScheduleCursor cursor next
  | .claim planned next => do
    let (outcome, advanced) ← s.claimScheduleOccurrence fuel clock cursor next
      (scheduleAdmission registration planned now) ids.val
    .ok (if outcome.duplicate then none else some planned, advanced)

/-- `initialize_schedules`: the registration stays when the recovery of the cursor fails. -/
def initializeSchedule (s : ScheduledStore) (registration : ScheduleRuntimeRegistration)
    (now : DateTime) (ids : GeneratedIds) : Option DateTime × ScheduledStore :=
  match registration.schedule.nextAtOrAfter now with
  | none => (none, s)
  | some initialNext =>
    match s.registerScheduleCursor registration initialNext with
    | .error _ => (none, s)
    | .ok (_, true, registered) => (none, registered)
    | .ok (cursor, false, registered) =>
      match registered.carryOut fuel clock registration cursor now ids
          (registration.recover cursor now) with
      | .error _ => (none, registered)
      | .ok recovered => recovered

end ScheduledStore

namespace SharedSchedule

variable [Host] [Inspection] (fuel : Nat) (clock : Nat → DateTime)
variable (registration : ScheduleRuntimeRegistration)

/-- A loop that wakes up, by its own clock. -/
def wake (s : SharedSchedule) (i : Nat) (cursor now : DateTime) (ids : GeneratedIds) :
    SharedSchedule :=
  match s.scheduled.carryOut fuel clock registration cursor now ids
      (registration.due cursor now) with
  | .error error => { s with loops := Function.update s.loops i (.afterError error) }
  | .ok (planned, scheduled) =>
    { scheduled
      loops := Function.update s.loops i .reading
      admitted := s.admitted ++ planned.toList }

def step (s : SharedSchedule) : ScheduleStep → SharedSchedule
  | .start now ids =>
    let (planned, scheduled) :=
      s.scheduled.initializeSchedule fuel clock registration now ids
    { s with scheduled, admitted := s.admitted ++ planned.toList }
  | .read i =>
    match s.loops i, s.scheduled.nextScheduledAt with
    | .reading, some cursor => { s with loops := Function.update s.loops i (.sleeping cursor) }
    | .reading, none => { s with loops := Function.update s.loops i (.stopped .cursorMissing) }
    | _, _ => s
  | .wake i now ids =>
    match s.loops i with
    | .sleeping cursor => s.wake fuel clock registration i cursor now ids
    | _ => s
  | .other request =>
    match s.scheduled.store.perform fuel clock request with
    | .ok (_, store) => { s with scheduled := { s.scheduled with store } }
    | .error _ => s

/-- What steps, in any interleaving, lead to. -/
def run (s : SharedSchedule) (steps : List ScheduleStep) : SharedSchedule :=
  steps.foldl (step fuel clock registration) s

end SharedSchedule

end Woml
