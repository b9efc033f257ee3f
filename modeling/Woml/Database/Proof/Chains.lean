import Woml.Database.Proof.Lineage

/-!
# Chains of calls and events

Calls and internal events each limit the depth of their chains and refuse an entry that is in the
lineage, but each looks at its own rows only. So the bounds hold in a store in which no called run
publishes an event and no run of an event calls (`chains_bounded`), and a mixed chain enters a
workflow twice by the same event (`MixedChain`).
-/

namespace Woml

open Checked Store DurableStore LimitedWorkflow

/-! ## Calls -/

variable {rest : List Admission} {request : WorkflowCallAdmissionRequest} {a : Admission}

namespace Lineage

section
variable [Host] {l : Lineage}

theorem call_of_call (hl : l.Traced) (ha : a ∈ l.admissions) (hk : a.entry.isCall = true) :
    ∃ row, l.store.callOf a.childRunId = some row ∧
      row.parentRunId = a.parentRunId ∧ row.depth = a.depth := by
  have hr := (hl.rows a ha).2.2
  cases he : a.entry with
  | event => rw [he] at hk; cases hk
  | call wi =>
    rw [he] at hr
    exact hr.1

theorem callLineage_of_chain (hl : l.Traced) (hcn : l.Chain (a :: rest))
    (hk : ∀ b ∈ a :: rest, b.entry.isCall = true) {n : Nat} (hn : rest.length < n) :
    ∀ b ∈ a :: rest, b.childRunId ∈ l.store.callLineage n a.childRunId := by
  induction rest generalizing a n with
  | nil =>
    obtain ⟨n, rfl⟩ := Nat.exists_eq_succ_of_ne_zero (Nat.ne_zero_of_lt hn)
    intro b hb
    rw [List.mem_singleton.1 hb]
    exact List.mem_cons_self
  | cons c rest ih =>
    obtain ⟨n, rfl⟩ := Nat.exists_eq_succ_of_ne_zero (Nat.ne_zero_of_lt hn)
    obtain ⟨hli, ht⟩ := hcn.tail
    obtain ⟨row, hc, hp, -⟩ := call_of_call hl (hcn.1 a List.mem_cons_self)
      (hk a List.mem_cons_self)
    intro b hb
    rw [DurableStore.callLineage, hc]
    rcases List.mem_cons.1 hb with rfl | hb
    · exact List.mem_cons_self
    · refine List.mem_cons_of_mem _ ?_
      show b.childRunId ∈ l.store.callLineage n row.parentRunId
      rw [hp, ← hli]
      exact ih ht (fun x hx => hk x (List.mem_cons_of_mem _ hx)) (Nat.lt_of_succ_lt_succ hn) b hb

theorem length_of_calls (hl : l.Traced) (hcn : l.Chain (a :: rest))
    (hk : ∀ b ∈ a :: rest, b.entry.isCall = true) : rest.length + 1 ≤ l.store.calls.length := by
  have hs : ∀ r ∈ (a :: rest).map (·.childRunId), r ∈ l.store.calls.map (·.childRunId) := by
    intro r hr
    obtain ⟨b, hb, rfl⟩ := List.mem_map.1 hr
    obtain ⟨row, hc, -⟩ := call_of_call hl (hcn.1 b hb) (hk b hb)
    have hch : row.childRunId = b.childRunId := by simpa using List.find?_some hc
    exact List.mem_map.2 ⟨row, List.mem_of_find?_eq_some hc, hch⟩
  have hle := ((hl.limited a rest hcn).children.subperm hs).length_le
  simpa using hle

/-- A call that passes the check of cycles enters a workflow that is not in the chain. -/
theorem call_not_in_chain (hl : l.Traced) {pri wi : String}
    (hcy : l.store.workflowCallWouldCycle pri wi = false) {b : Admission}
    (hcn : l.Chain (b :: rest)) (hln : b.childRunId = pri)
    (hk : b.entry.isCall = true) : RunEntry.call wi ∉ l.entries (b :: rest) := by
  have hcs : ∀ c ∈ b :: rest, c.entry.isCall = true := by
    intro c hc
    rcases List.mem_cons.1 hc with rfl | hc
    · exact hk
    · exact ((hl.limited b rest hcn).kind c hc).trans hk
  intro hm
  rw [entries, List.mem_append] at hm
  rcases hm with hm | hm
  · obtain ⟨c, hc, he⟩ := List.mem_map.1 hm
    have hli := callLineage_of_chain hl hcn hcs
      (Nat.lt_succ_of_le (Nat.le_of_succ_le (length_of_calls hl hcn hcs))) c hc
    have hr := (hl.rows c (hcn.1 c hc)).2.2
    rw [he] at hr
    obtain ⟨-, run, hru, hw⟩ := hr
    rw [hln] at hli
    simp only [workflowCallWouldCycle, List.any_eq_false] at hcy
    refine hcy c.childRunId hli ?_
    simp [hru, hw]
  · simp only [Option.mem_toList, Option.map_eq_some_iff] at hm
    obtain ⟨_, _, h⟩ := hm
    cases h

end

end Lineage

namespace DurableStore

section
variable [Host] [Inspection] {d d' : DurableStore} {fuel : Nat} {clock : Nat → DateTime}

/-- What a call that is admitted for the first time passed, and what it stores. -/
structure CallAdmitted (fuel : Nat) (clock : Nat → DateTime) (d d' : DurableStore)
    (request : WorkflowCallAdmissionRequest) : Prop where
  parent : d.core.runs.contains request.parentRunId = true
  acyclic : d.workflowCallWouldCycle request.parentRunId request.targetWorkflowId = false
  depth : ((d.callOf request.parentRunId).map (·.depth)).getD 0 + 1 ≤ 32
  started : ∃ w drafts, w.workflowId = request.targetWorkflowId ∧ drafts ≠ [] ∧
    d.core.definitions.get? request.targetDefinitionHash = some w ∧
    d.core.startRun fuel clock request.childRunId w request.targetDefinitionHash drafts =
      .ok d'.core
  calls : ∃ row, d'.calls = d.calls ++ [row] ∧ row.childRunId = request.childRunId ∧
    row.parentRunId = request.parentRunId ∧
    row.depth = ((d.callOf request.parentRunId).map (·.depth)).getD 0 + 1
  publications : d'.publications = d.publications
  deliveries : d'.deliveries = d.deliveries

theorem callAdmitted_of_ok {ei : String}
    (hc : ∀ row ∈ d.calls, d.core.runs.contains row.childRunId = true)
    (h : d.admitWorkflowCall fuel clock request ei = .ok d') :
    d.core.runs.contains request.childRunId = true ∧ d' = d ∨
      d.core.runs.contains request.childRunId = false ∧
        CallAdmitted fuel clock d d' request := by
  simp only [admitWorkflowCall, requireActiveParent, runBinding, eq_ok_iff] at h
  obtain ⟨_, _, pd, _, _, ⟨run, hr, _⟩, _, hcy, w, hw, _, _, _, hwf, _, hd, h⟩ := h
  cases hex : d.calls.find? (·.callKey = request.callKey) with
  | some e =>
    simp only [hex, repeatedCall, bind_unit_eq_ok, failIf_eq_ok, not_or, not_not,
      Except.ok.injEq] at h
    obtain ⟨⟨-, -, -, -, hch, -⟩, rfl⟩ := h
    have hs := hc e (List.mem_of_find?_eq_some hex)
    rw [hch] at hs
    exact .inl ⟨hs, rfl⟩
  | none =>
    simp only [hex, startCalledRun, eq_ok_iff] at h
    obtain ⟨_, hf, _, _, identity, _, core, hst, rfl⟩ := h
    refine .inr ⟨by simpa using hf, ?_, by simpa using hcy, not_lt.1 hd, ?_, ?_, rfl, rfl⟩
    · exact Option.isSome_iff_exists.2 ⟨run, hr⟩
    · exact ⟨w, _, not_not.1 hwf, List.cons_ne_nil _ _, hw, hst⟩
    · exact ⟨_, rfl, rfl, rfl, rfl⟩

end

end DurableStore

namespace Lineage

section
variable [Host] [Inspection] {l : Lineage} {d : DurableStore} {fuel : Nat} {c : Nat → DateTime}

theorem keeps_of_call (h : l.store.CallAdmitted fuel c d request) : l.store.Keeps d := by
  obtain ⟨w, ds, -, hdr, hw, hs⟩ := h.started
  obtain ⟨row, hcs, -⟩ := h.calls
  have hg := Store.Grows.of_move (Store.start_of_startRun hw hdr hs)
  obtain ⟨-, _, p, hwr, -⟩ := Store.startRun_eq_ok hs
  have hc := DurableStore.keeps_of_core hg (.inl hwr.occurrences)
  have hd : d.deliveries = l.store.deliveries ++ [] := by
    rw [h.deliveries, List.append_nil]
  have hp : d.publications = l.store.publications ++ [] := by
    rw [h.publications, List.append_nil]
  exact ⟨hc.runs, hc.entryOf, DurableStore.callOf_append hcs,
    DurableStore.publicationOf_append hd hp⟩

theorem Traced.call (hl : l.Traced) {ei : String} (hu : l.Unmixed (.call request ei))
    (hf : l.store.core.runs.contains request.childRunId = false)
    (h : l.store.CallAdmitted fuel c d request) :
    Traced ⟨d,
      { parentRunId := request.parentRunId
        childRunId := request.childRunId
        entry := .call request.targetWorkflowId
        depth := ((l.store.callOf request.parentRunId).map (·.depth)).getD 0 + 1 } ::
      l.admissions⟩ := by
  have hkp := keeps_of_call h
  obtain ⟨w, ds, hwf, hdr, hw, hs⟩ := h.started
  obtain ⟨row, hcs, hch, hp, hd⟩ := h.calls
  obtain ⟨-, _, p, hwr, rfl, -⟩ := startRun_eq_ok hs
  have hr := (hwr.runs request.childRunId).trans (if_pos rfl)
  have hst : d.core.runs.contains request.childRunId = true := Option.isSome_iff_exists.2 ⟨_, hr⟩
  have hne : d.callOf request.childRunId = some row := by
    have hn : l.store.calls.find? (·.childRunId = request.childRunId) = none := by
      refine List.find?_eq_none.2 fun other ho he => ?_
      have hco := hl.called other ho
      rw [of_decide_eq_true he, hf] at hco
      cases hco
    rw [callOf, hcs, List.find?_append, hn]
    simp [hch]
  refine hl.accept hkp (hl.recorded.move (start_of_startRun hw hdr hs)) ?_ ?_ ?_ ?_
  · intro other ho
    rw [hcs, List.mem_append, List.mem_singleton] at ho
    rcases ho with ho | rfl
    · exact hkp.contains (hl.called other ho)
    · rw [hch]
      exact hst
  · intro other ho
    rw [h.deliveries] at ho
    exact hkp.contains (hl.delivered other ho)
  · refine ⟨h.parent, hf, Nat.le_add_left _ _, h.depth, fun b hb hli => ?_, by rintro _ _ _ ⟨⟩,
      fun b rest hcn hli => ?_⟩
    · have hk := hu b hb hli
      obtain ⟨before, hc, -, hbe⟩ := call_of_call hl hb hk
      rw [hli] at hc
      exact ⟨hk, by simp [hc, hbe]⟩
    · exact call_not_in_chain hl h.acyclic hcn hli (hu b (hcn.1 b List.mem_cons_self) hli)
  · exact ⟨hkp.contains h.parent, hst, ⟨row, hne, hp, hd⟩, _, hr, hwf⟩

end

end Lineage

/-! ## Events -/

namespace Lineage

section
variable [Host] {l : Lineage}

omit [Host] in
theorem requireFreshEntry_eq_ok {d : DurableStore} {e : String × String} {n : Nat}
    {ri : String} (h : d.requireFreshEntry e n (some ri) = .ok ()) :
    ∃ m, n = m + 1 ∧ d.entryOf ri ≠ some e ∧
      d.requireFreshEntry e m ((d.publicationOf ri).map (·.parentRunId)) = .ok () := by
  cases n with
  | zero => cases h
  | succ m =>
    rw [DurableStore.requireFreshEntry, bind_unit_eq_ok, failIf_eq_ok] at h
    exact ⟨m, rfl, h⟩

theorem publication_of_event (hl : l.Traced) (ha : a ∈ l.admissions)
    (hk : a.entry.isCall = false) : ∃ row, l.store.publicationOf a.childRunId = some row ∧
      row.parentRunId = a.parentRunId ∧ row.depth = a.depth := by
  have hr := (hl.rows a ha).2.2
  cases he : a.entry with
  | call => rw [he] at hk; cases hk
  | event wi ti =>
    rw [he] at hr
    exact hr.1

/-- The loop over the ancestors of a publication meets every run of a chain of events. -/
theorem entryOf_of_requireFreshEntry (hl : l.Traced) {entry : String × String}
    (hc : l.Chain (a :: rest)) (hk : ∀ b ∈ a :: rest, b.entry.isCall = false) {n : Nat}
    (h : l.store.requireFreshEntry entry n (some a.childRunId) = .ok ()) :
    (∀ b ∈ a :: rest, l.store.entryOf b.childRunId ≠ some entry) ∧
      ∀ b, (a :: rest).getLast? = some b → l.store.entryOf b.parentRunId ≠ some entry := by
  induction rest generalizing a n with
  | nil =>
    obtain ⟨m, rfl, hs, h⟩ := requireFreshEntry_eq_ok h
    obtain ⟨row, hpu, hp, -⟩ := publication_of_event hl
      (hc.1 a List.mem_cons_self) (hk a List.mem_cons_self)
    rw [hpu, Option.map_some, hp] at h
    obtain ⟨-, -, hr, -⟩ := requireFreshEntry_eq_ok h
    refine ⟨fun b hb => ?_, fun b hb => ?_⟩
    · rw [List.mem_singleton.1 hb]
      exact hs
    · obtain rfl : a = b := by simpa using hb
      exact hr
  | cons c rest ih =>
    obtain ⟨m, rfl, hs, h⟩ := requireFreshEntry_eq_ok h
    obtain ⟨hli, ht⟩ := hc.tail
    obtain ⟨row, hpu, hp, -⟩ := publication_of_event hl
      (hc.1 a List.mem_cons_self) (hk a List.mem_cons_self)
    rw [hpu, Option.map_some, hp, ← hli] at h
    obtain ⟨ho, hr⟩ := ih ht (fun x hx => hk x (List.mem_cons_of_mem _ hx)) h
    refine ⟨fun b hb => ?_, fun b hb => hr b (by rwa [List.getLast?_cons_cons] at hb)⟩
    rcases List.mem_cons.1 hb with rfl | hb
    · exact hs
    · exact ho b hb

theorem event_not_in_chain (hl : l.Traced) {pri wi ti : String} {n : Nat}
    (h : l.store.requireFreshEntry (wi, ti) n (some pri) = .ok ()) {b : Admission}
    (hcn : l.Chain (b :: rest)) (hli : b.childRunId = pri) (hk : b.entry.isCall = false) :
    RunEntry.event wi ti ∉ l.entries (b :: rest) := by
  have hev : ∀ c ∈ b :: rest, c.entry.isCall = false := by
    intro c hc
    rcases List.mem_cons.1 hc with rfl | hc
    · exact hk
    · exact ((hl.limited b rest hcn).kind c hc).trans hk
  rw [← hli] at h
  obtain ⟨hch, hr⟩ := entryOf_of_requireFreshEntry hl hcn hev h
  intro hm
  rw [entries, List.mem_append] at hm
  rcases hm with hm | hm
  · obtain ⟨c, hc, he⟩ := List.mem_map.1 hm
    have hro := (hl.rows c (hcn.1 c hc)).2.2
    rw [he] at hro
    exact hch c hc hro.2
  · simp only [Option.mem_toList, Option.map_eq_some_iff, Option.bind_eq_some_iff] at hm
    obtain ⟨⟨wi', ti'⟩, ⟨last, hla, hf⟩, heq⟩ := hm
    cases heq
    exact hr last hla hf

end

end Lineage

namespace DurableStore

section
variable [Host] [Inspection] {d d' : DurableStore} {fuel : Nat} {clock : Nat → DateTime}
  {request : InternalEventAdmissionRequest}

/-- What an event that is admitted passed, and what it stores. -/
structure EventAdmitted (fuel : Nat) (clock : Nat → DateTime) (d d' : DurableStore)
    (request : InternalEventAdmissionRequest) (ids : OccurrenceIds)
    (outcome : TriggerAdmissionOutcome) : Prop where
  parent : d.core.runs.contains request.parentRunId = true
  depth : ((d.publicationOf request.parentRunId).map (·.depth)).getD 0 + 1 ≤ 32
  fresh : d.requireFreshEntry (request.trigger.workflowId, request.trigger.triggerId) 32
    (some request.parentRunId) = .ok ()
  admitted : d.core.admitTriggerOccurrence fuel clock request.trigger ids = .ok (outcome, d'.core)
  calls : d'.calls = d.calls
  publications : ∃ rows, d'.publications = d.publications ++ rows
  deliveries : ∃ rows, d'.deliveries = d.deliveries ++ rows ∧
    ∀ row ∈ rows, row.runId = outcome.runId
  /-- A run that had no delivery has the one of this publication. -/
  delivered : (∀ row ∈ d.deliveries, row.runId ≠ outcome.runId) →
    ∃ row, d'.publicationOf outcome.runId = some row ∧ row.parentRunId = request.parentRunId ∧
      row.depth = ((d.publicationOf request.parentRunId).map (·.depth)).getD 0 + 1

omit [Host] [Inspection] in
theorem publish_eq_ok {ph : String} {depth : Nat} (h : d.publish request ph depth = .ok d') :
    d'.core = d.core ∧ d'.calls = d.calls ∧ d'.deliveries = d.deliveries ∧
      (∃ rows, d'.publications = d.publications ++ rows) ∧
      ∃ row, d'.publications.find? (·.publicationId = request.publicationId) = some row ∧
        row.parentRunId = request.parentRunId ∧ row.depth = depth := by
  cases hex : d.publications.find? (·.publicationId = request.publicationId) with
  | some e =>
    simp only [publish, hex, bind_unit_eq_ok, failIf_eq_ok, not_or, not_not, Except.ok.injEq] at h
    obtain ⟨⟨hp, -, -, hd⟩, rfl⟩ := h
    exact ⟨rfl, rfl, rfl, ⟨[], (List.append_nil _).symm⟩, e, hex, hp, hd⟩
  | none =>
    simp only [publish, hex, Except.ok.injEq] at h
    subst h
    refine ⟨rfl, rfl, rfl, ⟨_, rfl⟩, ?_⟩
    show ∃ row, (d.publications ++ _).find? _ = some row ∧ _
    rw [List.find?_append, hex]
    simp

omit [Host] [Inspection] in
theorem deliver_eq_ok {ri : String} (h : d.deliver request ri = .ok d') :
    d'.core = d.core ∧ d'.calls = d.calls ∧ d'.publications = d.publications ∧
      (∃ rows, d'.deliveries = d.deliveries ++ rows ∧ ∀ row ∈ rows, row.runId = ri) ∧
      ((∀ row ∈ d.deliveries, row.runId ≠ ri) →
        ∃ row, d'.deliveries.find? (·.runId = ri) = some row ∧
          row.publicationId = request.publicationId) := by
  cases hex : d.deliveries.find? fun row => row.publicationId = request.publicationId &&
      row.workflowId = request.trigger.workflowId && row.triggerId = request.trigger.triggerId with
  | some e =>
    simp only [deliver, hex, bind_unit_eq_ok, failIf_eq_ok, not_not, Except.ok.injEq] at h
    obtain ⟨hru, rfl⟩ := h
    refine ⟨rfl, rfl, rfl, ⟨[], (List.append_nil _).symm, nofun⟩, fun hn => ?_⟩
    exact absurd hru (hn e (List.mem_of_find?_eq_some hex))
  | none =>
    simp only [deliver, hex, bind_unit_eq_ok, Except.ok.injEq] at h
    obtain ⟨-, rfl⟩ := h
    refine ⟨rfl, rfl, rfl, ⟨_, rfl, ?_⟩, fun hn => ?_⟩
    · intro row hr
      rw [List.mem_singleton.1 hr]
    · have hno : d.deliveries.find? (·.runId = ri) = none :=
        List.find?_eq_none.2 fun row hr he => hn row hr (of_decide_eq_true he)
      show ∃ row, (d.deliveries ++ _).find? _ = some row ∧ _
      rw [List.find?_append, hno]
      simp

theorem eventAdmitted_of_ok {ids : OccurrenceIds} {outcome : TriggerAdmissionOutcome}
    (h : d.admitInternalEventOccurrence fuel clock request ids = .ok (outcome, d')) :
    EventAdmitted fuel clock d d' request ids outcome := by
  simp only [admitInternalEventOccurrence, runBinding, eq_ok_iff, Prod.exists] at h
  obtain ⟨_, _, _, _, run, hrn, ph, _, _, hdp, _, hfr, published, hpu, found,
    core, ha, delivered, hd, rfl, rfl⟩ := h
  obtain ⟨hc, hcs, hde, hp, row, hrw, hpa, hr⟩ := publish_eq_ok hpu
  obtain ⟨hc', hcs', hp', ⟨rows, hro, hru⟩, hne⟩ := deliver_eq_ok hd
  have hs : d.deliveries = published.deliveries := hde.symm
  refine ⟨Option.isSome_iff_exists.2 ⟨run, hrn⟩, not_lt.1 hdp, hfr, ?_, hcs'.trans hcs,
    ?_, ⟨rows, ?_, hru⟩, fun hn => ?_⟩
  · rw [hc', ← hc]
    exact ha
  · rw [hp']
    exact hp
  · rw [hro, hs]
    rfl
  · rw [hs] at hn
    obtain ⟨delivery, hf, hi⟩ := hne hn
    refine ⟨row, ?_, hpa, hr⟩
    rw [publicationOf, hf, hp']
    show published.publications.find? (·.publicationId = delivery.publicationId) = some row
    rw [hi]
    exact hrw

end

end DurableStore

namespace Lineage

section
variable [Host] [Inspection] {l : Lineage} {d : DurableStore} {fuel : Nat} {clock : Nat → DateTime}
variable {request : InternalEventAdmissionRequest} {ids : OccurrenceIds}
  {outcome : TriggerAdmissionOutcome}

section
variable (hl : l.Traced) (h : l.store.EventAdmitted fuel clock d request ids outcome)
include hl h

theorem keeps_of_event : l.store.Keeps d := by
  have hg : l.store.core.Grows d.core :=
    (Store.moves_of_admission h.admitted).keeps (fun hm hg =>
      hg.trans (Store.Grows.of_move hm)) (Store.Grows.refl _)
  have he : d.core.occurrences = l.store.core.occurrences ∨
      ∃ o, Store.Occurs l.store.core d.core o := by
    rcases Store.occurs_of_admission hl.recorded h.admitted with ⟨-, hs, -⟩ | ⟨-, -, o, ho, -⟩
    · exact .inl (by rw [hs])
    · exact .inr ⟨o, ho⟩
  have hc := DurableStore.keeps_of_core hg he
  obtain ⟨rows, hp⟩ := h.publications
  obtain ⟨rs', hd, -⟩ := h.deliveries
  have hcs : d.calls = l.store.calls ++ [] := by rw [h.calls, List.append_nil]
  exact ⟨hc.runs, hc.entryOf, DurableStore.callOf_append hcs,
    DurableStore.publicationOf_append hd hp⟩

theorem recorded_of_event : d.core.Recorded :=
  (Store.moves_of_admission h.admitted).keeps Store.Recorded.move hl.recorded

theorem contains_of_event : d.core.runs.contains outcome.runId = true := by
  have hst : ∃ id o, d.core.occurrences.get? id = some o ∧ o.runId = outcome.runId := by
    rcases Store.occurs_of_admission hl.recorded h.admitted with
      ⟨-, hs, id, o, ho, hr⟩ | ⟨-, hr, o, ho, hor, -⟩
    · exact ⟨id, o, by rw [hs]; exact ho, hr⟩
    · exact ⟨o.occurrenceId, o, by rw [ho.inserted, SortedMap.get?_insert_self], hor.trans hr.symm⟩
  obtain ⟨id, o, ho, hr⟩ := hst
  obtain ⟨run, -, -, hg, -⟩ := (recorded_of_event hl h).begins ho
  rw [hr] at hg
  exact Option.isSome_iff_exists.2 ⟨run, hg⟩

theorem called_of_event : ∀ row ∈ d.calls, d.core.runs.contains row.childRunId = true := by
  intro row hr
  rw [h.calls] at hr
  exact (keeps_of_event hl h).contains (hl.called row hr)

theorem delivered_of_event : ∀ row ∈ d.deliveries, d.core.runs.contains row.runId = true := by
  obtain ⟨rows, hd, hr⟩ := h.deliveries
  intro row hro
  rw [hd, List.mem_append] at hro
  rcases hro with hro | hro
  · exact (keeps_of_event hl h).contains (hl.delivered row hro)
  · rw [hr row hro]
    exact contains_of_event hl h

end

theorem Traced.event (hl : l.Traced) (hu : l.Unmixed (.event request ids))
    (hn : outcome.duplicate = false) (h : l.store.EventAdmitted fuel clock d request ids outcome) :
    Traced ⟨d,
      { parentRunId := request.parentRunId
        childRunId := outcome.runId
        entry := .event request.trigger.workflowId request.trigger.triggerId
        depth := ((l.store.publicationOf request.parentRunId).map (·.depth)).getD 0 + 1 } ::
      l.admissions⟩ := by
  have hkp := keeps_of_event hl h
  rcases occurs_of_admission hl.recorded h.admitted with
    ⟨hd, -⟩ | ⟨-, hru, o, ho, hor, hw, ht⟩
  · rw [hn] at hd
    cases hd
  · have hru : o.runId = outcome.runId := hor.trans hru.symm
    have hf : l.store.core.runs.contains outcome.runId = false := by
      rw [SortedMap.contains, ← hru, ho.unstarted]
      rfl
    have he := entryOf_new ho
    rw [hru, hw, ht] at he
    have hro := h.delivered fun row hro heq => by
      have hc := hl.delivered row hro
      rw [heq, hf] at hc
      cases hc
    refine hl.accept hkp (recorded_of_event hl h) (called_of_event hl h) (delivered_of_event hl h)
      ?_ ⟨hkp.contains h.parent, contains_of_event hl h, hro, he⟩
    refine ⟨h.parent, hf, Nat.le_add_left _ _, h.depth, fun b hb hli => ?_,
      fun wi ti hr heq => ?_, fun b rest hcn hli => ?_⟩
    · have hk := hu b hb hli
      obtain ⟨before, hp, -, hbe⟩ := publication_of_event hl hb hk
      rw [hli] at hp
      exact ⟨hk, by simp [hp, hbe]⟩
    · cases heq
      obtain ⟨-, -, hpa, -⟩ := requireFreshEntry_eq_ok h.fresh
      exact hpa hr
    · exact event_not_in_chain hl h.fresh hcn hli (hu b (hcn.1 b List.mem_cons_self) hli)

/-! ## Runs -/

omit [Inspection] in
theorem Traced.empty : Traced {} :=
  ⟨⟨nofun, nofun, nofun⟩, nofun, nofun, nofun, nofun,
    fun _ _ hc => absurd (hc.1 _ List.mem_cons_self) nofun⟩

/-- **One step.** -/
theorem Traced.step (hl : l.Traced) {r : LineageRequest} (hu : l.Unmixed r) :
    (l.step fuel clock r).Traced := by
  cases r with
  | store r =>
    simp only [Lineage.step]
    split
    · rename_i answer core hp
      have hk := keeps_of_core (Store.Grows.of_perform hp)
        (perform_occurrences hl.recorded hp)
      exact hl.keeps hk ((perform_moves hp).keeps Store.Recorded.move hl.recorded)
        (fun row hr => hk.contains (hl.called row hr))
        fun row hr => hk.contains (hl.delivered row hr)
    · exact hl
  | call r ei =>
    simp only [Lineage.step]
    split
    · rename_i store had
      rcases callAdmitted_of_ok hl.called had with
        ⟨hs, rfl⟩ | ⟨hf, ha⟩
      · rw [if_pos hs]
        exact hl
      · rw [if_neg (by simp [hf])]
        exact hl.call hu hf ha
    · exact hl
  | event r ids =>
    simp only [Lineage.step]
    split
    · rename_i outcome store had
      have ha := eventAdmitted_of_ok had
      cases hd : outcome.duplicate with
      | true =>
        exact hl.keeps (keeps_of_event hl ha) (recorded_of_event hl ha)
          (called_of_event hl ha) (delivered_of_event hl ha)
      | false =>
        exact hl.event hu hd ha
    · exact hl
  | other ts =>
    have hk : l.store.Keeps (l.step fuel clock (.other ts)).store :=
      ⟨fun hru => ⟨_, hru, rfl⟩, fun _ => rfl, fun h => h, fun h => h⟩
    exact hl.keeps hk hl.recorded hl.called hl.delivered

/-- No called run publishes, and no run of an event calls. -/
def Respects (fuel : Nat) (clock : Nat → DateTime) (requests : List LineageRequest) : Prop :=
  ∀ n request, requests[n]? = some request →
    (run fuel clock (requests.take n)).Unmixed request

theorem traced_run {rs : List LineageRequest} (h : Respects fuel clock rs) :
    (run fuel clock rs).Traced :=
  Runs.foldl_of_prefixes .empty (fun _ _ _ hl hu => hl.step hu) h

/-- **Chains of one kind are bounded.** If no called run publishes and no run of an event calls,
then in every state reached a chain has at most 32 admissions, and no entry is in it twice. -/
theorem chains_bounded (fuel : Nat) (clock : Nat → DateTime) (requests : List LineageRequest)
    (h : Respects fuel clock requests) (chain : List Admission)
    (hchain : (run fuel clock requests).Chain chain) :
    chain.length ≤ 32 ∧ ((run fuel clock requests).entries chain).Nodup := by
  have ht := traced_run h
  cases chain with
  | nil => exact ⟨Nat.zero_le _, by simp [entries]⟩
  | cons a rest =>
    have hli := ht.limited a rest hchain
    exact ⟨hli.length.trans (ht.depth a (hchain.1 a List.mem_cons_self)), hli.entries⟩

end

end Lineage

/-! ## A mixed chain -/

namespace MixedChain

def billingDigest : String := "0c95c7ece1ce1a9750275ef1c6d7ad6b278f70d66592207783ffe7d58474cc01"

def digests : List (String × String) :=
  [("billing", billingDigest),
    ("event-1", "ce36863f51b6baf9d16397ffb3e9af506b284a816f72d487e55943c1fd974d6d"),
    ("event-2", "b4e3d14e7519279e6a352f776d75a905a9de9a27efdb6d802fe4e700224ade2e")]

@[reducible] def host : Host :=
  { Redelivery.host with
    sha256 := fun bytes =>
      (((digests ++ Redelivery.digests).find? fun (text, _) => utf8 text = bytes).map
        (·.2)).getD Redelivery.zeroDigest }

/-- Orders are started by hand or by an event, and call the billing. -/
def orders : DefinitionRef :=
  { LimitedWorkflow.definition with
    triggers := [⟨"start", "trigger.manual"⟩, ⟨"paid", "trigger.event"⟩] }

def billing : DefinitionRef := { LimitedWorkflow.definition with address := 1, workflowId := "billing" }

def billingHash : String := Redelivery.nextHash

def key (digit : Char) : String := "sha256:" ++ String.ofList (List.replicate 64 digit)

def calledRun (digit : Char) : String := "run_call_" ++ String.ofList (List.replicate 64 digit)

/-- A run of the orders executes its step, which calls the billing. -/
def call (runId : String) (digit : Char) : List LineageRequest :=
  [.store (.claim
      { runId, ownerId := "x", leaseNow := 1, policyNow := 1, leaseDuration := 1000
        claimId := "claim_" ++ runId, eventId := fun index => "start_" ++ runId ++ toString index }),
    .store (.appendEvents runId [{ eventId := "step_" ++ runId, occurredAt := 2
                                   payload := .stepAttemptStarted
                                    ⟨"work", 1, "work:1", "runtime.script", some SerialRun.definitionHash⟩ }]),
    .call
      { callKey := key digit, parentRunId := runId, parentNodeId := "work", parentAttempt := 1
        targetWorkflowId := "billing", targetDefinitionHash := billingHash
        childRunId := calledRun digit, payload := [], admittedAt := 3 } ("called_" ++ runId),
    .store (.release runId "x" ("claim_" ++ runId))]

/-- The called run publishes an event, which starts a run of the orders. -/
def publish (parentRunId : String) (digit : Char) (sourceIdentity runId : String) :
    LineageRequest :=
  .event
    { publicationId := "internal:v1:" ++ key digit, parentRunId, eventName := "paid", emittedAt := 4
      trigger := { Redelivery.delivery SerialRun.definitionHash sourceIdentity with
        triggerId := "paid", triggerHandler := "trigger.event" } }
    ⟨"occ_" ++ runId, runId, "event_" ++ runId⟩

def requests : List LineageRequest :=
  [.store (.registerDefinition orders SerialRun.definitionHash true),
    .store (.registerDefinition billing billingHash true),
    .store (.admitOccurrence (Redelivery.delivery SerialRun.definitionHash "order-17")
      ⟨"occ_1", "run_1", "event_1"⟩)] ++
  call "run_1" 'a' ++ [publish (calledRun 'a') 'b' "event-1" "run_3"] ++
  call "run_3" 'c' ++ [publish (calledRun 'c') 'd' "event-2" "run_5"]

def lineage : Lineage := @Lineage.run host LimitedWorkflow.inspection 1 (fun _ => 0) requests

/-- The orders are entered twice by the same event. -/
theorem entered_twice :
    lineage.admissions.IsChain (fun a b => b.childRunId = a.parentRunId) ∧
      lineage.admissions.map (·.entry) =
        [.event "orders" "paid", .call "billing", .event "orders" "paid", .call "billing"] := by
  decide +kernel

theorem unmixed_first : @Lineage.Respects host inspection 1 (fun _ => 0)
    (requests.take 7) := by
  intro n request hn
  have hlt : n < 7 := (List.getElem?_eq_some_iff.1 hn).1
  interval_cases n <;> cases hn
  case «5» =>
    intro a ha
    cases ha
  all_goals exact trivial

/-- Before the first event, the call is a chain of its own. -/
theorem first_call_bounded : ∃ chain : List Admission,
    chain.map (·.entry) = [.call "billing"] ∧ chain.length ≤ 32 := by
  refine ⟨(@Lineage.run host inspection 1 (fun _ => 0) (requests.take 7)).admissions,
    by decide +kernel, ?_⟩
  exact (@Lineage.chains_bounded host inspection 1 (fun _ => 0) (requests.take 7)
    unmixed_first _ ⟨fun _ h => h, by decide +kernel⟩).1

end MixedChain

end Woml
