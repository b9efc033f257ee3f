import Woml.Store.Proof.Claims

/-!
# Admitting an occurrence again

In every reachable store the rows of the occurrences have distinct identities and agree with the
first events of their runs (`Reachable.recorded`), and a stored occurrence stays
(`Recorded.keeps`). So an occurrence that was admitted is found whenever it is delivered again
(`load_of_stored`), and its delivery starts no second run. What can still go wrong with the second
delivery comes before and after the search: another definition or policy of the workflow has active
runs (`Unopposed`), or the history of the run does not pass the check of its definition
(`Accepted`).
-/

namespace Woml

open Checked Store SortedMap Scheduler CompiledWorkflowDefinition

/-- One source event, delivered twice. -/
def TriggerAdmissionRequest.SameIdentity (request request' : TriggerAdmissionRequest) : Prop :=
  request.workflowId = request'.workflowId ∧ request.triggerId = request'.triggerId ∧
    request.sourceIdentity = request'.sourceIdentity

def TriggerOccurrence.Identifies [Host] (o : TriggerOccurrence) (request : TriggerAdmissionRequest) :
    Prop :=
  o.workflowId = request.workflowId ∧ o.triggerId = request.triggerId ∧
    o.sourceIdentityHash = sha256Prefixed (utf8 request.sourceIdentity)

theorem TriggerOccurrence.Identifies.same [Host] {o : TriggerOccurrence}
    {r request' : TriggerAdmissionRequest} (h : o.Identifies r)
    (hs : request'.SameIdentity r) : o.Identifies request' := by
  obtain ⟨hw, ht, hsr⟩ := hs
  rwa [TriggerOccurrence.Identifies, hw, ht, hsr]

namespace Store

section
variable [Host]
variable {s s' : Store} {o : TriggerOccurrence} {request : TriggerAdmissionRequest}
  {ids : OccurrenceIds} {outcome : TriggerAdmissionOutcome}

/-! ## The rows of the occurrences -/

/-- The occurrences are stored under their identifiers, no two of them have one identity, and the
run of each one begins as the occurrence says. -/
structure Recorded (s : Store) : Prop where
  keyed : ∀ {id o}, s.occurrences.get? id = some o → o.occurrenceId = id
  distinct : ∀ {id id' o o'}, s.occurrences.get? id = some o → s.occurrences.get? id' = some o' →
    o.workflowId = o'.workflowId → o.triggerId = o'.triggerId →
    o.sourceIdentityHash = o'.sourceIdentityHash → o = o'
  begins : ∀ {id o}, s.occurrences.get? id = some o → s.Begins o

theorem Begins.mono (h : s.Begins o) (hg : s.Grows s') : s'.Begins o := by
  obtain ⟨run, first, payload, hr, hw, hh, hf, hp⟩ := h
  obtain ⟨run', hr', hw', hh', sf, he⟩ := hg.runs hr
  refine ⟨run', first, payload, hr', hw'.trans hw, hh'.trans hh, ?_, hp⟩
  rw [← he, List.head?_append, hf]
  rfl

variable [Inspection] {fuel : Nat} {clock : Nat → DateTime}

/-- A new occurrence with the run that it starts. -/
structure Occurs (s s' : Store) (o : TriggerOccurrence) : Prop where
  unstarted : s.runs.get? o.runId = none
  fresh : s.occurrences.get? o.occurrenceId = none
  single : ∀ id other, s.occurrences.get? id = some other → other.runId ≠ o.runId
  inserted : s'.occurrences = s.occurrences.insert o.occurrenceId o

/-- An admission finds the occurrence, or stores it with its run. -/
theorem occurs_of_admission (hs : Recorded s)
    (h : s.admitTriggerOccurrence fuel clock request ids = .ok (outcome, s')) :
    outcome.duplicate = true ∧ s' = s ∧
      (∃ id o, s.occurrences.get? id = some o ∧ o.runId = outcome.runId) ∨
    outcome.duplicate = false ∧ outcome.runId = ids.runId ∧ ∃ o, Occurs s s' o ∧
      o.runId = ids.runId ∧ o.workflowId = request.workflowId ∧ o.triggerId = request.triggerId := by
  simp only [admitTriggerOccurrence, bind_eq_ok] at h
  obtain ⟨_, _, ph, _, w, _, identity, _, e, hl, h⟩ := h
  cases e with
  | some e =>
    simp only [eq_ok_iff] at h
    obtain ⟨_, _, _, _, rfl, rfl⟩ := h
    refine .inl ⟨rfl, rfl, ?_⟩
    unfold loadTriggerOccurrence at hl
    split at hl
    · cases hl
    · rename_i o hf
      simp only [bind_unit_eq_ok, Except.ok.injEq, Option.some.injEq] at hl
      obtain ⟨id, hid⟩ := (mem_values _).1 (List.mem_of_find?_eq_some hf)
      exact ⟨id, o, hid, by rw [hl.2]⟩
  | none =>
    simp only [admitNewOccurrence, eq_ok_iff] at h
    obtain ⟨_, _, started, hst, stored, hi, rfl, rfl⟩ := h
    obtain ⟨hu, _, p, hw, -⟩ := startRun_eq_ok hst
    obtain ⟨hfr, rfl⟩ := insertOccurrence_eq_ok hi
    rw [hw.occurrences] at hfr ⊢
    refine .inr ⟨rfl, rfl, _, ⟨hu, ?_, fun id other ho => (hfr id other ho).2.1,
      rfl⟩, rfl, rfl, rfl⟩
    refine Option.eq_none_iff_forall_ne_some.2 fun other ho => ?_
    exact (hfr _ other ho).1 (hs.keyed ho)

/-- **What a transaction does to the occurrences.** -/
theorem perform_occurrences (hs : Recorded s) {r : StoreRequest} {a : StoreAnswer}
    (h : s.perform fuel clock r = .ok (a, s')) :
    s'.occurrences = s.occurrences ∨ ∃ o, Occurs s s' o := by
  cases performed h with
  | define => exact .inl rfl
  | create hc =>
    simp only [createRun, bind_eq_ok] at hc
    obtain ⟨_, _, _, _, w, _, _, _, _, _, _, _, hst⟩ := hc
    obtain ⟨-, _, p, hw, -⟩ := startRun_eq_ok hst
    exact .inl hw.occurrences
  | append ha =>
    obtain ⟨_, _, p, -, -, hw⟩ := wrote_of_appendEvents ha
    exact .inl hw.occurrences
  | occurrence had =>
    rcases occurs_of_admission hs had with ⟨-, rfl, -⟩ | ⟨-, -, o, ho, -⟩
    · exact .inl rfl
    · exact .inr ⟨o, ho⟩
  | claim hcl =>
    obtain ⟨_, rfl⟩ | ⟨-, _, _, ha⟩ := claim_writes hcl
    · exact .inl rfl
    · obtain ⟨_, _, p, -, -, hw⟩ := wrote_of_appendEvents ha
      exact .inl hw.occurrences
  | claims => exact .inl rfl

theorem Recorded.move (h : Move fuel clock s s') (hs : Recorded s) : Recorded s' := by
  have hgr := Grows.of_move h
  have hq (he : s'.occurrences = s.occurrences) : Recorded s' :=
    ⟨fun hg => hs.keyed (he ▸ hg), fun hg hg' => hs.distinct (he ▸ hg) (he ▸ hg'),
      fun hg => (hs.begins (he ▸ hg)).mono hgr⟩
  cases h with
  | define => exact hq rfl
  | start _ _ _ _ _ hwr => exact hq hwr.occurrences
  | extend _ _ _ _ _ hwr => exact hq hwr.occurrences
  | claims => exact hq rfl
  | occur hb hi =>
    obtain ⟨hf, rfl⟩ := insertOccurrence_eq_ok hi
    refine ⟨fun hg => ?_, fun hg hg' hw ht hsr => ?_, fun hg => ?_⟩
    · rcases SortedMap.of_get?_insert hg with ⟨rfl, rfl⟩ | ⟨-, hg⟩
      · rfl
      · exact hs.keyed hg
    · rcases SortedMap.of_get?_insert hg with ⟨rfl, rfl⟩ | ⟨-, hg⟩ <;>
        rcases SortedMap.of_get?_insert hg' with ⟨rfl, rfl⟩ | ⟨-, hg'⟩
      · rfl
      · exact absurd ⟨hw.symm, ht.symm, hsr.symm⟩ (hf _ _ hg').2.2
      · exact absurd ⟨hw, ht, hsr⟩ (hf _ _ hg).2.2
      · exact hs.distinct hg hg' hw ht hsr
    · rcases SortedMap.of_get?_insert hg with ⟨rfl, rfl⟩ | ⟨-, hg⟩
      · exact hb.mono hgr
      · exact (hs.begins hg).mono hgr

theorem Reachable.recorded (h : Reachable fuel clock s) : Recorded s :=
  h.of_moves ⟨nofun, nofun, nofun⟩ Recorded.move

theorem Recorded.keeps (hs : Recorded s) (h : Move fuel clock s s') {id : String}
    (hg : s.occurrences.get? id = some o) : s'.occurrences.get? id = some o := by
  cases h with
  | define => exact hg
  | start _ _ _ _ _ hw => exact hw.occurrences ▸ hg
  | extend _ _ _ _ _ hw => exact hw.occurrences ▸ hg
  | claims => exact hg
  | occur _ hi =>
    obtain ⟨hf, rfl⟩ := insertOccurrence_eq_ok hi
    have hn := (hf _ _ hg).1
    rw [hs.keyed hg] at hn
    exact (s.occurrences.get?_insert_ne hn _).trans hg

/-- The transactions that lead from one store to another. -/
def Leads (fuel : Nat) (clock : Nat → DateTime) : Store → Store → Prop :=
  Relation.ReflTransGen fun s s' => ∃ request answer, s.perform fuel clock request = .ok (answer, s')

theorem Leads.reachable (h : Leads fuel clock s s') (hs : Reachable fuel clock s) :
    Reachable fuel clock s' := by
  induction h with
  | refl => exact hs
  | tail _ hst ih =>
    obtain ⟨request, answer, hst⟩ := hst
    exact ih.step hst

theorem Moves.keeps_occurrence (h : Moves fuel clock s s') (hs : Recorded s) {id : String}
    (hg : s.occurrences.get? id = some o) : s'.occurrences.get? id = some o := by
  refine (h.keeps (P := fun s => Recorded s ∧ s.occurrences.get? id = some o)
    (fun hm hs => ?_) ⟨hs, hg⟩).2
  exact ⟨hs.1.move hm, hs.1.keeps hm hs.2⟩

theorem Leads.keeps_occurrence (h : Leads fuel clock s s') (hs : Reachable fuel clock s)
    {id : String} (hg : s.occurrences.get? id = some o) : s'.occurrences.get? id = some o := by
  induction h with
  | refl => exact hg
  | tail hl hst ih =>
    obtain ⟨request, answer, hst⟩ := hst
    exact (perform_moves hst).keeps_occurrence (Leads.reachable hl hs).recorded ih

/-! ## The search for an occurrence -/

omit [Inspection] in
theorem stored_of_find (hs : Recorded s) {wi ti ha : String}
    (h : (s.occurrences.values.find? fun o => o.workflowId = wi &&
      o.triggerId = ti && o.sourceIdentityHash = ha) = some o) :
    s.occurrences.get? o.occurrenceId = some o ∧ o.workflowId = wi ∧
      o.triggerId = ti ∧ o.sourceIdentityHash = ha := by
  have hi := List.find?_some h
  simp only [Bool.and_eq_true, decide_eq_true_eq] at hi
  obtain ⟨⟨id, _⟩, he, rfl⟩ := List.mem_map.1 (List.mem_of_find?_eq_some h)
  have hg := (mem_entries _).1 he
  exact ⟨(hs.keyed hg).symm ▸ hg, hi.1.1, hi.1.2, hi.2⟩

omit [Inspection] in
/-- The search finds the occurrence that is stored under the identity. -/
theorem load_of_stored (hs : Recorded s) (hg : s.occurrences.get? o.occurrenceId = some o)
    (hi : o.Identifies request) {f : Option TriggerOccurrence} :
    s.loadTriggerOccurrence request.workflowId request.triggerId
        (sha256Prefixed (utf8 request.sourceIdentity)) = .ok f ↔
      o.isValid = true ∧ f = some o := by
  obtain ⟨hw, ht, hsr⟩ := hi
  have hm : o ∈ s.occurrences.values := List.mem_map.2 ⟨(_, o), (mem_entries _).2 hg, rfl⟩
  unfold loadTriggerOccurrence
  split
  · rename_i hn
    have hno := List.find?_eq_none.1 hn o hm
    simp [hw, ht, hsr] at hno
  · rename_i other ho
    obtain ⟨hg', hw', ht', hs'⟩ := stored_of_find hs ho
    obtain rfl := hs.distinct hg' hg (hw'.trans hw.symm) (ht'.trans ht.symm) (hs'.trans hsr.symm)
    simp only [bind_unit_eq_ok, failIf_eq_ok, Bool.not_eq_true', Bool.not_eq_false, Except.ok.injEq]
    exact and_congr_right fun _ => eq_comm

omit [Inspection] in
theorem stored_of_load (hs : Recorded s)
    (h : s.loadTriggerOccurrence request.workflowId request.triggerId
      (sha256Prefixed (utf8 request.sourceIdentity)) = .ok (some o)) :
    s.occurrences.get? o.occurrenceId = some o ∧ o.Identifies request := by
  unfold loadTriggerOccurrence at h
  split at h
  · cases h
  · rename_i other ho
    simp only [bind_unit_eq_ok, Except.ok.injEq, Option.some.injEq] at h
    obtain ⟨-, rfl⟩ := h
    exact stored_of_find hs ho

/-! ## The two checks around the search -/

/-- No active run of the workflow was admitted under another definition or another policy. -/
def Unopposed (s : Store) (workflowId definitionHash policyHash : String) : Prop :=
  ∀ r run admission p, s.runs.get? r = some run → run.workflowId = workflowId →
    run.admission = some admission → foldEvents run.events = .ok p → p.status.isActive = true →
    admission.definitionHash = definitionHash ∧ admission.policyHash = policyHash

/-- The history of a run passes the check against its definition. -/
def Accepted (fuel : Nat) (clock : Nat → DateTime) (s : Store) (runId : String) : Prop :=
  ∃ run w, s.runs.get? runId = some run ∧ s.definitions.get? run.definitionHash = some w ∧
    validateEventHistoryAgainstDefinition fuel clock w run.definitionHash run.events = .ok ()

omit [Inspection] in
theorem hasPolicyConflict_eq_false (hs : Indexed s) {wi dh policyHash : String} :
    s.hasPolicyConflict wi dh policyHash = false ↔ s.Unopposed wi dh policyHash := by
  unfold hasPolicyConflict
  rw [List.any_eq_false]
  constructor
  · intro h r run admission p hru hw had hf ha
    have hr : s.policyBindings.get? r = run.bindingRow := by rw [hs.bindings, hru]; rfl
    have hst : s.summaries.get? r = some p.status := by
      rw [hs.summaries, hru]
      simp [StoredRun.projection, hf, Except.toOption]
    rw [StoredRun.bindingRow, had] at hr
    have hn := h _ ((SortedMap.mem_entries _).2 hr)
    simpa [hst, hw, ha] using hn
  · rintro h ⟨r, row⟩ hm
    have hr := (SortedMap.mem_entries _).1 hm
    rw [hs.bindings, Option.bind_eq_some_iff] at hr
    obtain ⟨run, hru, hr⟩ := hr
    simp only [StoredRun.bindingRow, Option.map_eq_some_iff] at hr
    obtain ⟨admission, had, rfl⟩ := hr
    simp only [Bool.and_eq_true, decide_eq_true_eq, Option.any_eq_true, Bool.or_eq_true, not_and,
      not_or, not_not]
    rintro ⟨hw, status, hst, ha⟩
    rw [hs.summaries, hru] at hst
    obtain ⟨p, hp, rfl⟩ := Option.map_eq_some_iff.1 hst
    exact h r run admission p hru hw had (toOption_eq_some.1 hp) ha

theorem validateTriggerOccurrenceHistory_iff (hs : Sound s) (hb : s.Begins o) :
    (∃ payload, s.validateTriggerOccurrenceHistory fuel clock o = .ok payload) ↔
      s.Accepted fuel clock o.runId := by
  obtain ⟨run, first, payload, hr, hwf, hh, hf, hp, hd⟩ := hb
  constructor
  · rintro ⟨_, h⟩
    simp only [validateTriggerOccurrenceHistory, definitionForRun, runBinding, eq_ok_iff] at h
    obtain ⟨run', hr', _, _, w, ⟨r'', hr'', _, hw, _, _, rfl⟩, _, hc, -⟩ := h
    cases hr.symm.trans hr'
    cases hr.symm.trans hr''
    exact ⟨run, _, hr, hw, hh ▸ hc⟩
  · rintro ⟨run', w, hr', hw, hc⟩
    cases hr.symm.trans hr'
    refine ⟨payload, ?_⟩
    simp only [validateTriggerOccurrenceHistory, definitionForRun, runBinding, eq_ok_iff]
    exact ⟨run, hr, (), by simp [hwf, hh], w,
      ⟨run, hr, w, hw, (), (hs.valid hw).1, rfl⟩, (), hh ▸ hc, first, hf, payload,
      hp, o.payloadHash, hd, (), by simp, rfl⟩

/-- The delivery of an occurrence that is stored. -/
theorem admit_of_stored (hs : Recorded s) (hg : s.occurrences.get? o.occurrenceId = some o)
    (hid : o.Identifies request) {s' : Store} :
    s.admitTriggerOccurrence fuel clock request ids = .ok (outcome, s') ↔
      validateTriggerAdmissionRequest request = .ok () ∧
        canonicalPayloadHash request.payload = .ok o.payloadHash ∧
        (∃ w, s.requestedDefinition request = .ok w ∧
          ∃ identity, s.runtimePolicyIdentity w request.definitionHash = .ok identity) ∧
        o.isValid = true ∧ (∃ payload, s.validateTriggerOccurrenceHistory fuel clock o = .ok payload) ∧
        outcome = ⟨o.occurrenceId, o.runId, true⟩ ∧ s' = s := by
  constructor
  · intro h
    simp only [admitTriggerOccurrence, bind_eq_ok] at h
    obtain ⟨_, hr, ha, hp, w, hw, identity, hi, found, hf, h⟩ := h
    obtain ⟨hv, rfl⟩ := (load_of_stored hs hg hid).1 hf
    simp only [eq_ok_iff, not_not] at h
    obtain ⟨_, rfl, payload, hh, rfl, rfl⟩ := h
    exact ⟨hr, hp, ⟨w, hw, identity, hi⟩, hv, ⟨payload, hh⟩, rfl, rfl⟩
  · rintro ⟨hr, hp, ⟨w, hw, identity, hi⟩, hv, ⟨payload, hh⟩, rfl, rfl⟩
    simp only [admitTriggerOccurrence, bind_eq_ok]
    refine ⟨(), hr, _, hp, w, hw, identity, hi, some o, (load_of_stored hs hg hid).2 ⟨hv, rfl⟩, ?_⟩
    simp only [eq_ok_iff, not_not]
    exact ⟨(), trivial, payload, hh, trivial⟩

/-! ## An admitted occurrence is stored -/

/-- A new occurrence has a row that can be read back. -/
theorem isValid_of_request {w : DefinitionRef}
    (hs : ∀ bytes, isDefinitionHash (sha256Prefixed bytes) = true)
    (hr : validateTriggerAdmissionRequest request = .ok ())
    (hw : s.requestedDefinition request = .ok w) (hi : o.Identifies request)
    (hp : canonicalPayloadHash request.payload = .ok o.payloadHash)
    (hha : o.definitionHash = request.definitionHash)
    (hh : o.triggerHandler = request.triggerHandler) (ho : validId o.occurrenceId = true)
    (hru : validId o.runId = true) : o.isValid = true := by
  obtain ⟨hwf, ht, hsr⟩ := hi
  obtain ⟨hv, hve, hw', trigger, ht', hh'⟩ := requestedDefinition_eq_ok hw
  obtain ⟨hwo, htr⟩ := validateStructure_eq_ok hv
  have hf := htr trigger (List.mem_of_find?_eq_some ht')
  have hid : trigger.id = request.triggerId := by simpa using List.find?_some ht'
  simp only [CompiledTrigger.isValid, Bool.and_eq_true, decide_eq_true_eq, Nat.not_lt.2 hve] at hf
  simp only [validateTriggerAdmissionRequest, eq_ok_iff, Bool.not_eq_true', Bool.not_eq_false] at hr
  obtain ⟨_, _, hd⟩ := hr
  simp only [canonicalPayloadHash, eq_ok_iff] at hp
  obtain ⟨bytes, -, hp⟩ := hp
  simp only [TriggerOccurrence.isValid, Bool.and_eq_true]
  refine ⟨⟨⟨⟨⟨⟨⟨ho, ?_⟩, ?_⟩, ?_⟩, ?_⟩, ?_⟩, ?_⟩, hru⟩
  · rwa [hwf, ← hw']
  · rw [ht, ← hid]
    exact hf.1.1.1
  · rw [hh, ← hh']
    exact hf.2
  · rwa [hha]
  · rw [hsr]
    exact hs _
  · rw [← hp]
    exact hs _

theorem perform_of_admission
    (h : s.admitTriggerOccurrence fuel clock request ids = .ok (outcome, s')) :
    s.perform fuel clock (.admitOccurrence request ids) = .ok (.admitted outcome, s') := by
  rw [perform, h]
  rfl

/-- An admission leaves the occurrence that it answers with. -/
theorem stored_of_admission (hs : Reachable fuel clock s)
    (h : s.admitTriggerOccurrence fuel clock request ids = .ok (outcome, s'))
    (hsh : ∀ bytes, isDefinitionHash (sha256Prefixed bytes) = true)
    (ho : validId ids.occurrenceId = true) (hru : validId ids.runId = true) :
    ∃ o, s'.occurrences.get? o.occurrenceId = some o ∧ o.Identifies request ∧ o.isValid = true ∧
      canonicalPayloadHash request.payload = .ok o.payloadHash ∧
      o.occurrenceId = outcome.occurrenceId ∧ o.runId = outcome.runId := by
  have h' := h
  simp only [admitTriggerOccurrence, bind_eq_ok] at h'
  obtain ⟨_, hr, ha, hp, w, hw, identity, hi, found, hf, h'⟩ := h'
  cases found with
  | some o =>
    obtain ⟨hg, hid⟩ := stored_of_load hs.recorded hf
    obtain ⟨-, hp, -, hv, -, rfl, rfl⟩ := (admit_of_stored hs.recorded hg hid).1 h
    exact ⟨o, hg, hid, hv, hp, rfl, rfl⟩
  | none =>
    simp only [admitNewOccurrence, eq_ok_iff] at h'
    obtain ⟨_, _, started, hst, stored, hin, rfl, rfl⟩ := h'
    obtain ⟨-, rfl⟩ := insertOccurrence_eq_ok hin
    exact ⟨_, SortedMap.get?_insert_self _ _ _, ⟨rfl, rfl, rfl⟩,
      isValid_of_request hsh hr hw ⟨rfl, rfl, rfl⟩ hp rfl rfl ho hru, hp,
      rfl, rfl⟩

omit [Inspection] in
/-- The policy of a definition is found unless another definition or policy is active. -/
theorem runtimePolicyIdentity_iff (hs : Indexed s) {w : DefinitionRef} {dh : String}
    (hp : 12 ≤ w.schemaVersion → w.runtimePolicyHash.isSome ∧ w.runtimePolicyQueueName.isSome) :
    (∃ identity, s.runtimePolicyIdentity w dh = .ok identity) ↔
      (12 ≤ w.schemaVersion → ∀ ph, w.runtimePolicyHash = some ph →
        s.Unopposed w.workflowId dh ph) := by
  unfold runtimePolicyIdentity
  split
  · rename_i hv
    obtain ⟨hh, hq⟩ := hp hv
    obtain ⟨ph, hh⟩ := Option.isSome_iff_exists.1 hh
    obtain ⟨qn, hq⟩ := Option.isSome_iff_exists.1 hq
    simp only [hh, hq, eq_ok_iff, Bool.not_eq_true, hasPolicyConflict_eq_false hs,
      Option.some.injEq, exists_eq_left', hv, forall_const, forall_eq']
    constructor
    · rintro ⟨_, _, hu, _⟩
      exact hu
    · intro hu
      exact ⟨_, (), hu, rfl⟩
  · rename_i hv
    exact ⟨fun _ h => absurd h hv, fun _ => ⟨none, rfl⟩⟩

/-- **Admission is idempotent where the workflow has one definition.** After an occurrence was
admitted, in every later store: it and its run are the only ones of their identity; a delivery that
succeeds is answered with them, as a duplicate, changes nothing, and carries the payload of the
first one; and a delivery of that payload by one of the definition's triggers succeeds exactly if no
active run of the workflow was admitted under another definition or policy and the history of the
run passes the check of its definition. -/
theorem readmitted_iff (hsha : ∀ bytes, isDefinitionHash (sha256Prefixed bytes) = true)
    {s s₁ s₂ : Store} (hs : Reachable fuel clock s) {request : TriggerAdmissionRequest}
    {ids : OccurrenceIds} {outcome : TriggerAdmissionOutcome}
    (h : s.admitTriggerOccurrence fuel clock request ids = .ok (outcome, s₁))
    (hoccurrence : validId ids.occurrenceId = true) (hrun : validId ids.runId = true)
    (hlater : Leads fuel clock s₁ s₂) (request' : TriggerAdmissionRequest) (ids' : OccurrenceIds)
    (hsame : request'.SameIdentity request) :
    (∀ id o, s₂.occurrences.get? id = some o → o.Identifies request →
      o.occurrenceId = outcome.occurrenceId ∧ o.runId = outcome.runId) ∧
    (∀ outcome' s₃, s₂.admitTriggerOccurrence fuel clock request' ids' = .ok (outcome', s₃) →
      outcome' = { outcome with duplicate := true } ∧ s₃ = s₂ ∧
        canonicalPayloadHash request'.payload = canonicalPayloadHash request.payload) ∧
    ∀ w, validateTriggerAdmissionRequest request' = .ok () →
      s₂.requestedDefinition request' = .ok w →
      (12 ≤ w.schemaVersion → w.runtimePolicyHash.isSome ∧ w.runtimePolicyQueueName.isSome) →
      canonicalPayloadHash request'.payload = canonicalPayloadHash request.payload →
      (s₂.admitTriggerOccurrence fuel clock request' ids' =
          .ok ({ outcome with duplicate := true }, s₂) ↔
        (12 ≤ w.schemaVersion → ∀ policyHash, w.runtimePolicyHash = some policyHash →
          s₂.Unopposed w.workflowId request'.definitionHash policyHash) ∧
        s₂.Accepted fuel clock outcome.runId) := by
  obtain ⟨o, hg, his, hv, hp, hid, hr⟩ := stored_of_admission hs h hsha hoccurrence hrun
  have hs₁ : Reachable fuel clock s₁ := hs.step (perform_of_admission h)
  have hs₂ := hlater.reachable hs₁
  have hget₂ := hlater.keeps_occurrence hs₁ hg
  have hi' := his.same hsame
  have ho : (⟨o.occurrenceId, o.runId, true⟩ : TriggerAdmissionOutcome) =
      { outcome with duplicate := true } := by rw [hid, hr]
  refine ⟨fun id o' hg' hidentifies₂ => ?_, fun outcome' s₃ h' => ?_, fun w hre hw hpo he => ?_⟩
  · obtain ⟨hwf, ht, hsr⟩ := hidentifies₂
    obtain rfl := hs₂.recorded.distinct hg' hget₂ (hwf.trans his.1.symm)
      (ht.trans his.2.1.symm) (hsr.trans his.2.2.symm)
    exact ⟨hid, hr⟩
  · obtain ⟨-, hp', -, -, -, rfl, rfl⟩ := (admit_of_stored hs₂.recorded hget₂ hi').1 h'
    exact ⟨ho, rfl, hp'.trans hp.symm⟩
  · rw [admit_of_stored hs₂.recorded hget₂ hi',
      validateTriggerOccurrenceHistory_iff hs₂.sound (hs₂.recorded.begins hget₂), hr,
      ← runtimePolicyIdentity_iff hs₂.sound.indexed hpo]
    constructor
    · rintro ⟨-, -, ⟨w', hw', hi⟩, -, ha, -⟩
      cases hw.symm.trans hw'
      exact ⟨hi, ha⟩
    · rintro ⟨hi, ha⟩
      exact ⟨hre, he.trans hp, ⟨w, hw, hi⟩, hv, ha, by rw [hid], rfl⟩

end

end Store

/-- The digests of recorded texts are well formed. -/
theorem isDefinitionHash_of_table {ds : List (String × String)} {o : String}
    (ha : ∀ entry ∈ ds, isDefinitionHash ("sha256:" ++ entry.2) = true)
    (ho : isDefinitionHash ("sha256:" ++ o) = true) (bs : List Nat) :
    isDefinitionHash ("sha256:" ++
      ((ds.find? fun (text, _) => utf8 text = bs).map (·.2)).getD o) = true := by
  cases hf : ds.find? fun (text, _) => utf8 text = bs with
  | none => exact ho
  | some entry => exact ha entry (List.mem_of_find?_eq_some hf)

/-! ## A redelivery after a new definition -/

namespace Redelivery

open LimitedWorkflow (queueDigest definition inspection)

/-- SHA-256 of the texts that are digested here. -/
def digests : List (String × String) :=
  [("orders", queueDigest), (SerialRun.policyText, SerialRun.policyDigest),
    ("\x7b\x7d", "44136fa355b3678a1146ad16f7e8649e94fb4fc21fe77e8310c060f61caaff8a"),
    ("order-17", "72a90ea3da8b5dd01bde2f27314e02e217f935182ea573a7ff9b5f5060ef996b"),
    ("order-18", "4aadb06557d743d59b662e181ac0dae17d96f292018d4d7132dde5d007be0cd5")]

def zeroDigest : String := "0000000000000000000000000000000000000000000000000000000000000000"

@[reducible] def host : Host :=
  { (default : Host) with
    canonicalJson := fun value =>
      match value with
      | .object [] => .ok (utf8 "\x7b\x7d")
      | _ => .ok (utf8 SerialRun.policyText)
    sha256 := fun bytes =>
      ((digests.find? fun (text, _) => utf8 text = bytes).map (·.2)).getD zeroDigest }

/-- The next definition of the workflow: another node, the same policy. -/
def nextDefinition : DefinitionRef :=
  { definition with
    address := 1
    graph :=
      { entryNodeIds := ["pack"]
        nodes := [{ id := "pack", handler := "runtime.script" }]
        edges := [] } }

def nextHash : String := "sha256:1111111111111111111111111111111111111111111111111111111111111111"

def delivery (definitionHash sourceIdentity : String) : TriggerAdmissionRequest :=
  { workflowId := "orders", definitionHash, triggerId := "start", triggerHandler := "trigger.manual"
    sourceIdentity, payload := [], receivedAt := 0 }

def cancelled : List EventDraft :=
  [{ eventId := "cancel:1", occurredAt := 1, payload := .runCancellationRequested ⟨"request"⟩ },
    { eventId := "cancel:2", occurredAt := 1, payload := .runOutcomeDecided (.cancelled "request") },
    { eventId := "cancel:3", occurredAt := 1, payload := .runFinalized ⟨.cancelled, .completed, []⟩ }]

/-- An occurrence is admitted and its run cancelled; another one is admitted under the next
definition of the workflow. -/
def requests : List StoreRequest :=
  [.registerDefinition definition SerialRun.definitionHash true,
    .admitOccurrence (delivery SerialRun.definitionHash "order-17") ⟨"occ_1", "run_1", "event_1"⟩,
    .appendEvents "run_1" cancelled,
    .registerDefinition nextDefinition nextHash true,
    .admitOccurrence (delivery nextHash "order-18") ⟨"occ_2", "run_2", "event_2"⟩]

def after (n : Nat) : Store :=
  (@Scheduler.run host inspection 1 (fun _ => 0) (requests.take n)).store

/-- What the delivery of the first occurrence is answered with. -/
def delivered (n : Nat) : Except DurableStoreError (TriggerAdmissionOutcome × Store) :=
  @Store.admitTriggerOccurrence (after n) host inspection 1 (fun _ => 0)
    (delivery SerialRun.definitionHash "order-17") ⟨"occ_1", "run_1", "event_1"⟩

def conflict : Except DurableStoreError (TriggerAdmissionOutcome × Store) → Option String
  | .error (.runtimePolicyDefinitionConflict workflowId) => some workflowId
  | _ => none

/-- The occurrence is admitted, its redelivery is a duplicate, and once the other run is there it
is refused. -/
theorem redelivery_refused :
    (delivered 1).toOption.map (·.1) = some ⟨"occ_1", "run_1", false⟩ ∧
      (delivered 4).toOption.map (·.1) = some ⟨"occ_1", "run_1", true⟩ ∧
      conflict (delivered 5) = some "orders" := by
  decide +kernel

theorem digest_valid (bs : List Nat) : isDefinitionHash (@sha256Prefixed host bs) = true :=
  isDefinitionHash_of_table (by decide +kernel) (by decide +kernel) bs

theorem delivered_first : delivered 1 = .ok (⟨"occ_1", "run_1", false⟩, after 2) := by
  obtain ⟨⟨outcome, s⟩, h, rfl⟩ : ∃ answer, delivered 1 = .ok answer ∧
      answer.1 = ⟨"occ_1", "run_1", false⟩ := by
    decide +kernel
  have ha : after 2 = s := by
    exact @step_store host inspection _ _ _ _ _ _
      (@perform_of_admission host _ _ _ _ _ inspection _ _ h)
  rw [h, ha]

/-- Right after its admission the occurrence is found again. -/
theorem redelivered_as_duplicate : delivered 2 = .ok (⟨"occ_1", "run_1", true⟩, after 2) := by
  have hs : @Store.Reachable host inspection 1 (fun _ => 0) (after 1) :=
    @run_reachable host inspection _ _ _
  have hi : @Store.Indexed host (after 2) := @Store.Sound.indexed host inspection _
    (@Store.Reachable.sound host _ inspection _ _ (@run_reachable host inspection _ _ _))
  obtain ⟨w, hw, hh, hq, hwf⟩ : ∃ w, @requestedDefinition (after 2) inspection
      (delivery SerialRun.definitionHash "order-17") = .ok w ∧
      @runtimePolicyHash w.toCompiledWorkflowDefinition host =
        some ("sha256:" ++ SerialRun.policyDigest) ∧
      (@runtimePolicyQueueName w.toCompiledWorkflowDefinition
        host).isSome = true ∧ w.workflowId = "orders" := by
    decide +kernel
  obtain ⟨run, hr, w₀, hw₀, _, ha⟩ : ∃ run, (after 2).runs.get? "run_1" = some run ∧
      ∃ w, (after 2).definitions.get? run.definitionHash = some w ∧
        ∃ s, @validateEventHistoryAgainstDefinition host 1 (fun _ => 0) w run.definitionHash
          run.events = .ok s := by
    decide +kernel
  refine ((@readmitted_iff host inspection 1 (fun _ => 0) digest_valid _ _ _ hs _ _ _
    delivered_first (by decide +kernel) (by decide +kernel) .refl _ _ ⟨rfl, rfl, rfl⟩).2.2 w
    (by decide +kernel) hw (fun _ => ⟨?_, hq⟩) rfl).2
    ⟨fun _ policyHash hp => ?_, run, w₀, hr, hw₀, ha⟩
  · rw [hh]
    rfl
  · cases hh.symm.trans hp
    rw [hwf]
    exact (@hasPolicyConflict_eq_false host _ hi _ _ _).1 (by decide +kernel)

end Redelivery

end Woml
