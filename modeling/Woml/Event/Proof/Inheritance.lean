import Woml.Event.Validation

/-!
# Which contract an event passed

An event of a late version is checked as one of an earlier version when its payload is older.
`contract_of_validate` gives the version in which the payload of a valid event was checked, and the
lemmas after it read off what later proofs need of that check.
-/

namespace Woml

open Checked RunEvent

/-- What an inherited event keeps. Only Event v15 drops an iteration scope, and not of the events of
a loop. -/
structure RunEvent.Inherits (event inherited : RunEvent) : Prop where
  payload : inherited.payload = event.payload
  version : inherited.eventSchemaVersion + 1 = event.eventSchemaVersion
  late : 12 ≤ event.eventSchemaVersion
  scope : event.payload.isLoop = true → inherited.iteration = event.iteration

theorem RunEvent.inherit_as {e inherited : RunEvent} (h : e.inherit = .as inherited) :
    e.Inherits inherited := by
  unfold inherit at h
  extract_lets v p badScope at h
  -- the tests in the order of the source; a refusal is no inheritance
  iterate 5
    rcases ite_eq_iff.1 h with ⟨hv, h⟩ | ⟨-, h⟩
    · cases h; exact ⟨rfl, hv.1.symm, by omega, fun _ => rfl⟩
    rcases ite_eq_iff.1 h with ⟨-, h⟩ | ⟨-, h⟩
    · cases h
  rcases ite_eq_iff.1 h with ⟨hv, h⟩ | ⟨-, h⟩
  · rcases ite_eq_iff.1 h with ⟨-, h⟩ | ⟨-, h⟩
    · cases h
    · cases h
      refine ⟨rfl, hv.1.symm, by omega, fun hl => ?_⟩
      rw [show p.isLoop = true from hl] at hv
      cases hv.2
  rcases ite_eq_iff.1 h with ⟨-, h⟩ | ⟨-, h⟩
  · cases h
  rcases ite_eq_iff.1 h with ⟨hv, h⟩ | ⟨-, h⟩
  · cases h; exact ⟨rfl, hv.symm, by omega, fun _ => rfl⟩
  iterate 2
    rcases ite_eq_iff.1 h with ⟨hv, h⟩ | ⟨-, h⟩
    · cases h; exact ⟨rfl, hv.1.symm, by omega, fun _ => rfl⟩
  cases h

/-- `event` was accepted because the payload contract accepts `checked`. -/
structure RunEvent.CheckedAs [Host] (event checked : RunEvent) : Prop where
  payload : checked.payload = event.payload
  valid : checked.validatePayload = .ok ()
  version : checked.eventSchemaVersion ≤ event.eventSchemaVersion
  six : 6 ≤ event.eventSchemaVersion → 6 ≤ checked.eventSchemaVersion
  scope : event.payload.isLoop = true → checked.iteration = event.iteration

section
variable [Host] {event : RunEvent}

theorem RunEvent.contract_of_validate (h : event.validate = .ok ()) :
    ∃ checked : RunEvent, event.CheckedAs checked := by
  unfold RunEvent.validate at h
  generalize 20 = fuel at h
  induction fuel using Nat.strong_induction_on generalizing event with
  | _ fuel ih =>
    unfold RunEvent.validateWith at h
    simp only [bind_eq_ok] at h
    obtain ⟨_, -, _, -, h⟩ := h
    split at h
    · exact ⟨event, rfl, h, Nat.le_refl _, id, fun _ => rfl⟩
    · cases h
    · cases h
    rename_i hi
    have hk := inherit_as hi
    obtain ⟨checked, hc⟩ := ih _ (Nat.lt_succ_self _) h
    have hla := hk.late
    have hv := hk.version
    have ho := hc.version
    refine ⟨checked, hc.payload.trans hk.payload, hc.valid, by omega,
      fun _ => hc.six (by omega), fun hl => ?_⟩
    rw [hc.scope (by rw [hk.payload]; exact hl), hk.scope hl]

theorem key_of_validate {data : StepAttemptStartedData} (hv : event.validate = .ok ())
    (hve : 6 ≤ event.eventSchemaVersion) (hp : event.payload = .stepAttemptStarted data) :
    ∃ key, data.idempotencyKey = some key := by
  obtain ⟨c, hc⟩ := RunEvent.contract_of_validate hv
  have hct := hc.valid
  rw [RunEvent.validatePayload, hc.payload, hp] at hct
  simp only [eq_ok_iff] at hct
  simp only [hc.six hve] at hct
  cases hk : data.idempotencyKey with
  | some key => exact ⟨key, rfl⟩
  | none => simp [hk] at hct

theorem six_of_retry {data : StepRetryScheduledData} (hv : event.validate = .ok ())
    (hp : event.payload = .stepRetryScheduled data) : 6 ≤ event.eventSchemaVersion := by
  obtain ⟨c, hc⟩ := contract_of_validate hv
  have hct := hc.valid
  rw [validatePayload, hc.payload, hp] at hct
  simp only [failIf_eq_ok] at hct
  have ho := hc.version
  by_contra hl
  exact hct (by simp [show c.eventSchemaVersion < 6 by omega])

/-- The loop that the payload of an iteration event names. -/
def RunEventPayload.iterationOf : RunEventPayload → Option String
  | forEachIterationStarted data => some data.forEachId
  | forEachIterationSucceeded data => some data.forEachId
  | forEachIterationFailed data => some data.forEachId
  | forEachIterationSkipped data => some data.forEachId
  | _ => none

theorem scope_of_validate {forEachId : String} (hv : event.validate = .ok ())
    (hi : event.payload.iterationOf = some forEachId) :
    ∃ s, event.iteration = some s ∧ s.forEachId = forEachId := by
  obtain ⟨c, hc⟩ := RunEvent.contract_of_validate hv
  have hl : event.payload.isLoop = true := by
    cases hp : event.payload <;> rw [hp] at hi <;>
      first | rfl | cases hi
  have hct : validateForEachIterationEvent c forEachId = .ok () := by
    have hv' := hc.valid
    cases hp : event.payload <;> rw [hp] at hi <;> cases hi <;>
      rw [RunEvent.validatePayload, hc.payload, hp] at hv'
    · exact hv'
    · exact (bind_unit_eq_ok.1 hv').1
    · exact (bind_unit_eq_ok.1 hv').1
    · exact hv'
  rw [validateForEachIterationEvent, hc.scope hl] at hct
  simp only [eq_ok_iff] at hct
  obtain ⟨s, hs, hb⟩ := hct
  refine ⟨s, hs, ?_⟩
  by_contra hn
  exact hb (by simp [hn])

theorem unscoped_of_validate (hv : event.validate = .ok ()) (data : ForEachSettledData)
    (hp : event.payload = .forEachSucceeded data ∨ event.payload = .forEachFailed data ∨
      event.payload = .forEachCancelled data) : event.iteration = none := by
  obtain ⟨c, hc⟩ := contract_of_validate hv
  have hv' := hc.valid
  have hs := hc.scope
  rcases hp with hp | hp | hp
  all_goals
    rw [validatePayload, hc.payload, hp] at hv'
    rw [hp] at hs
    simp only [hs rfl] at hv'
    cases hi : event.iteration with
    | none => rfl
    | some s => simp [hi] at hv'

end

end Woml
