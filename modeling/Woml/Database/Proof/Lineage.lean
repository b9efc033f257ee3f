import Woml.Database.Calls
import Woml.Store.Proof.Admission

/-!
# Runs that lead to runs

A run can be admitted by a workflow call or an internal event of another one. `Lineage` is a store
together with these admissions. The invariant along its runs is `Traced`: every admission has its
row, which leads back to its parent, and chains are as long as the depth of their last row at most.
What leaves the rows leaves the invariant (`Traced.keeps`), and an admission extends it if it
continues chains of its own kind, one step deeper, with an entry that is not in them
(`Traced.accept`).
-/

namespace Woml

open Checked

/-- How a run was entered. -/
inductive RunEntry
  | call (workflowId : String)
  | event (workflowId triggerId : String)
  deriving DecidableEq

def RunEntry.isCall : RunEntry → Bool
  | .call _ => true
  | .event _ _ => false

/-- A run was admitted by its parent, at a depth. -/
structure Admission where
  parentRunId : String
  childRunId : String
  entry : RunEntry
  depth : Nat

/-- The store and the admissions by calls and events, the latest first. -/
structure Lineage where
  store : DurableStore := {}
  admissions : List Admission := []

inductive LineageRequest
  | store (request : StoreRequest)
  | call (request : WorkflowCallAdmissionRequest) (eventId : String)
  | event (request : InternalEventAdmissionRequest) (ids : OccurrenceIds)
  /-- A change of tables that are not about calls and events. -/
  | other (tables : (t : SideTable) → List (SideRow t))

namespace Lineage

def isLineageTable : SideTable → Bool
  | .workflowCalls | .internalEventPublications | .internalEventDeliveries => true
  | _ => false

section
variable [Host] [Inspection] (fuel : Nat) (clock : Nat → DateTime)

def step (l : Lineage) : LineageRequest → Lineage
  | .store request =>
    match l.store.core.perform fuel clock request with
    | .ok (_, core) => { l with store := { l.store with core } }
    | .error _ => l
  | .call request eventId =>
    match l.store.admitWorkflowCall fuel clock request eventId with
    | .ok store =>
      { store
        admissions :=
          if l.store.core.runs.contains request.childRunId then l.admissions
          else
            { parentRunId := request.parentRunId
              childRunId := request.childRunId
              entry := .call request.targetWorkflowId
              depth := ((l.store.callOf request.parentRunId).map (·.depth)).getD 0 + 1 } ::
            l.admissions }
    | .error _ => l
  | .event request ids =>
    match l.store.admitInternalEventOccurrence fuel clock request ids with
    | .ok (outcome, store) =>
      { store
        admissions :=
          if outcome.duplicate then l.admissions
          else
            { parentRunId := request.parentRunId
              childRunId := outcome.runId
              entry := .event request.trigger.workflowId request.trigger.triggerId
              depth := ((l.store.publicationOf request.parentRunId).map (·.depth)).getD 0 + 1 } ::
            l.admissions }
    | .error _ => l
  | .other tables =>
    { l with store := { l.store with
        side := fun t => if isLineageTable t then l.store.side t else tables t } }

def run (requests : List LineageRequest) : Lineage := requests.foldl (step fuel clock) {}

/-- A run that was called calls, and a run of an event publishes. -/
def Unmixed (l : Lineage) : LineageRequest → Prop
  | .call request _ => ∀ a ∈ l.admissions, a.childRunId = request.parentRunId →
      a.entry.isCall = true
  | .event request _ => ∀ a ∈ l.admissions, a.childRunId = request.parentRunId →
      a.entry.isCall = false
  | _ => True

/-- A chain of admissions, the latest first. -/
def Chain (l : Lineage) (chain : List Admission) : Prop :=
  (∀ a ∈ chain, a ∈ l.admissions) ∧ chain.IsChain fun a b => b.childRunId = a.parentRunId

/-- How the runs of a chain were entered. The first run may have been started by an occurrence. -/
def entries (l : Lineage) (chain : List Admission) : List RunEntry :=
  chain.map (·.entry) ++
    ((chain.getLast?.bind fun a => l.store.entryOf a.parentRunId).map fun (workflowId, triggerId) =>
      .event workflowId triggerId).toList

end

end Lineage

/-! ## What stays -/

variable {d d' : DurableStore}

namespace DurableStore

/-- Runs stay with their workflow and entry, and rows of calls and events stay. -/
structure Keeps (d d' : DurableStore) : Prop where
  runs : ∀ {r run}, d.core.runs.get? r = some run →
    ∃ run', d'.core.runs.get? r = some run' ∧ run'.workflowId = run.workflowId
  entryOf : ∀ {r}, d.core.runs.contains r = true → d'.entryOf r = d.entryOf r
  callOf : ∀ {r call}, d.callOf r = some call → d'.callOf r = some call
  publicationOf : ∀ {r publication}, d.publicationOf r = some publication →
    d'.publicationOf r = some publication

variable {r : String}

theorem Keeps.contains (h : d.Keeps d') (hr : d.core.runs.contains r = true) :
    d'.core.runs.contains r = true := by
  obtain ⟨run, hru⟩ := Option.isSome_iff_exists.1 hr
  obtain ⟨run', hr', -⟩ := h.runs hru
  exact Option.isSome_iff_exists.2 ⟨run', hr'⟩

theorem entryOf_of_occurs {o : TriggerOccurrence} (h : Store.Occurs d.core d'.core o)
    (hr : d.core.runs.contains r = true) : d'.entryOf r = d.entryOf r := by
  have hn : o.runId ≠ r := by
    rintro rfl
    rw [SortedMap.contains, h.unstarted] at hr
    cases hr
  rw [entryOf, h.inserted, SortedMap.find?_values_insert h.fresh (by simpa using hn), entryOf]

theorem entryOf_new {o : TriggerOccurrence} (h : Store.Occurs d.core d'.core o) :
    d'.entryOf o.runId = some (o.workflowId, o.triggerId) := by
  have hm : o ∈ d'.core.occurrences.values := by
    rw [h.inserted, SortedMap.mem_values]
    exact ⟨o.occurrenceId, SortedMap.get?_insert_self _ _ _⟩
  cases hf : d'.core.occurrences.values.find? (·.runId = o.runId) with
  | none => simpa using List.find?_eq_none.1 hf o hm
  | some other =>
    have ho := List.mem_of_find?_eq_some hf
    have hr : other.runId = o.runId := by simpa using List.find?_some hf
    rw [h.inserted, SortedMap.mem_values] at ho
    obtain ⟨id, hi⟩ := ho
    rcases SortedMap.of_get?_insert hi with ⟨-, rfl⟩ | ⟨-, hi⟩
    · rw [entryOf, hf]
      rfl
    · exact absurd hr (h.single id other hi)

theorem callOf_append {rows : List WorkflowCall} (h : d'.calls = d.calls ++ rows)
    {call : WorkflowCall} (hc : d.callOf r = some call) : d'.callOf r = some call := by
  rw [callOf, h, List.find?_append, ← callOf, hc]
  rfl

theorem publicationOf_append {ds : List InternalEventDelivery}
    {ps : List InternalEventPublication} (h : d'.deliveries = d.deliveries ++ ds)
    (h' : d'.publications = d.publications ++ ps) {publication : InternalEventPublication}
    (hp : d.publicationOf r = some publication) : d'.publicationOf r = some publication := by
  simp only [publicationOf, Option.bind_eq_bind, Option.bind_eq_some_iff] at hp ⊢
  obtain ⟨delivery, hd, hf⟩ := hp
  refine ⟨delivery, ?_, ?_⟩
  · rw [h, List.find?_append, hd]
    rfl
  · rw [h', List.find?_append, hf]
    rfl

theorem keeps_of_core [Host] {d : DurableStore} {core : Store} (hg : d.core.Grows core)
    (he : core.occurrences = d.core.occurrences ∨ ∃ o, Store.Occurs d.core core o) :
    d.Keeps { d with core } where
  runs hru := by
    obtain ⟨run', hr', hw, -⟩ := hg.runs hru
    exact ⟨run', hr', hw⟩
  entryOf := by
    intro r hr
    rcases he with hs | ⟨o, ho⟩
    · show Option.map _ (core.occurrences.values.find? _) = _
      rw [hs]
      rfl
    · exact entryOf_of_occurs ho hr
  callOf h := h
  publicationOf h := h

end DurableStore

/-! ## Rows and chains -/

/-- The row that an admission leaves leads back to the parent. -/
def DurableStore.HasRow (d : DurableStore) (a : Admission) : Prop :=
  d.core.runs.contains a.parentRunId = true ∧ d.core.runs.contains a.childRunId = true ∧
    match a.entry with
    | .call workflowId => (∃ row, d.callOf a.childRunId = some row ∧
        row.parentRunId = a.parentRunId ∧ row.depth = a.depth) ∧
        ∃ run, d.core.runs.get? a.childRunId = some run ∧ run.workflowId = workflowId
    | .event workflowId triggerId => (∃ row, d.publicationOf a.childRunId = some row ∧
        row.parentRunId = a.parentRunId ∧ row.depth = a.depth) ∧
        d.entryOf a.childRunId = some (workflowId, triggerId)

theorem DurableStore.HasRow.keeps {a : Admission} (h : d.HasRow a) (hk : d.Keeps d') :
    d'.HasRow a := by
  obtain ⟨hp, hch, hr⟩ := h
  refine ⟨hk.contains hp, hk.contains hch, ?_⟩
  cases he : a.entry with
  | call wi =>
    rw [he] at hr
    obtain ⟨⟨row, hc, hr⟩, run, hru, hw⟩ := hr
    obtain ⟨run', hr', hs⟩ := hk.runs hru
    exact ⟨⟨row, hk.callOf hc, hr⟩, run', hr', hs.trans hw⟩
  | event wi ti =>
    rw [he] at hr
    obtain ⟨⟨row, hpu, hr⟩, hf⟩ := hr
    exact ⟨⟨row, hk.publicationOf hpu, hr⟩, (hk.entryOf hch).trans hf⟩

namespace Lineage

/-- A chain of one kind of entries, none of them twice, that is not longer than its depth. -/
structure Limited (l : Lineage) (a : Admission) (rest : List Admission) : Prop where
  length : rest.length + 1 ≤ a.depth
  kind : ∀ b ∈ rest, b.entry.isCall = a.entry.isCall
  children : ((a :: rest).map (·.childRunId)).Nodup
  entries : (l.entries (a :: rest)).Nodup

/-- Every admission has its row, and every chain is limited. -/
structure Traced [Host] (l : Lineage) : Prop where
  recorded : l.store.core.Recorded
  called : ∀ row ∈ l.store.calls, l.store.core.runs.contains row.childRunId = true
  delivered : ∀ row ∈ l.store.deliveries, l.store.core.runs.contains row.runId = true
  rows : ∀ a ∈ l.admissions, l.store.HasRow a
  depth : ∀ a ∈ l.admissions, a.depth ≤ 32
  limited : ∀ a rest, l.Chain (a :: rest) → l.Limited a rest

theorem Chain.tail {l : Lineage} {a b : Admission} {rest : List Admission}
    (h : l.Chain (a :: b :: rest)) : b.childRunId = a.parentRunId ∧ l.Chain (b :: rest) := by
  obtain ⟨hm, hc⟩ := h
  rw [List.isChain_cons_cons] at hc
  exact ⟨hc.1, fun x hx => hm x (List.mem_cons_of_mem _ hx), hc.2⟩

theorem entries_cons_cons (l : Lineage) (a b : Admission) (rest : List Admission) :
    l.entries (a :: b :: rest) = a.entry :: l.entries (b :: rest) := by
  simp [entries, List.getLast?_cons_cons]

/-- The entries of a chain stay. -/
theorem entries_keeps {l : Lineage} {d : DurableStore} {ads : List Admission} (hk : l.store.Keeps d)
    {chain : List Admission} (hs : ∀ a ∈ chain, l.store.core.runs.contains a.parentRunId = true) :
    Lineage.entries ⟨d, ads⟩ chain = l.entries chain := by
  cases hl : chain.getLast? with
  | none => simp [entries, hl]
  | some a =>
    have hm := List.mem_of_getLast? hl
    simp [entries, hl, hk.entryOf (hs a hm)]

section
variable [Host] {l : Lineage}

/-- A step that admits no run. -/
theorem Traced.keeps (hl : l.Traced) (hk : l.store.Keeps d) (hr : d.core.Recorded)
    (hc : ∀ row ∈ d.calls, d.core.runs.contains row.childRunId = true)
    (hd : ∀ row ∈ d.deliveries, d.core.runs.contains row.runId = true) :
    Traced { l with store := d } where
  recorded := hr
  called := hc
  delivered := hd
  rows a ha := (hl.rows a ha).keeps hk
  depth := hl.depth
  limited a rest hcn := by
    have hli := hl.limited a rest hcn
    refine ⟨hli.length, hli.kind, hli.children, ?_⟩
    rw [entries_keeps hk fun b hb => (hl.rows b (hcn.1 b hb)).1]
    exact hli.entries

/-- What an admission must meet for its chains to stay limited. -/
structure Admissible (l : Lineage) (a : Admission) : Prop where
  parent : l.store.core.runs.contains a.parentRunId = true
  fresh : l.store.core.runs.contains a.childRunId = false
  positive : 1 ≤ a.depth
  depth : a.depth ≤ 32
  next : ∀ b ∈ l.admissions, b.childRunId = a.parentRunId →
    b.entry.isCall = a.entry.isCall ∧ a.depth = b.depth + 1
  root : ∀ workflowId triggerId, l.store.entryOf a.parentRunId = some (workflowId, triggerId) →
    a.entry ≠ .event workflowId triggerId
  entry : ∀ b rest, l.Chain (b :: rest) → b.childRunId = a.parentRunId →
    a.entry ∉ l.entries (b :: rest)

/-- In a chain, the new admission is the last one. -/
theorem Chain.of_accepted (hl : l.Traced) {a : Admission} (ha : l.Admissible a) {b : Admission}
    {rest : List Admission} (h : Lineage.Chain ⟨d, a :: l.admissions⟩ (b :: rest)) :
    l.Chain rest ∧ (b = a ∨ b ∈ l.admissions) := by
  have ho : ∀ x ∈ l.admissions, x.parentRunId ≠ a.childRunId := by
    intro x hx he
    have hst := (hl.rows x hx).1
    rw [he, ha.fresh] at hst
    cases hst
  have hs : a.parentRunId ≠ a.childRunId := by
    intro he
    have hst := ha.parent
    rw [he, ha.fresh] at hst
    cases hst
  induction rest generalizing b with
  | nil => exact ⟨⟨nofun, .nil⟩, List.mem_cons.1 (h.1 b List.mem_cons_self)⟩
  | cons c rest ih =>
    obtain ⟨hli, ht⟩ := Chain.tail h
    obtain ⟨hr, hc⟩ := ih ht
    have hb := List.mem_cons.1 (h.1 b List.mem_cons_self)
    have hc : c ∈ l.admissions := by
      rcases hc with rfl | hc
      · rcases hb with rfl | hb
        · exact absurd hli.symm hs
        · exact absurd hli.symm (ho b hb)
      · exact hc
    refine ⟨⟨fun x hx => ?_, ht.2⟩, hb⟩
    rcases List.mem_cons.1 hx with rfl | hx
    · exact hc
    · exact hr.1 x hx

/-- **An admission.** -/
theorem Traced.accept (hl : l.Traced) (hkp : l.store.Keeps d) (hre : d.core.Recorded)
    (hca : ∀ row ∈ d.calls, d.core.runs.contains row.childRunId = true)
    (hd : ∀ row ∈ d.deliveries, d.core.runs.contains row.runId = true) {a : Admission}
    (ha : l.Admissible a) (hrw : d.HasRow a) : Traced ⟨d, a :: l.admissions⟩ := by
  refine ⟨hre, hca, hd, fun b hb => ?_, fun b hb => ?_, fun b rest hcn => ?_⟩
  · rcases List.mem_cons.1 hb with rfl | hb
    · exact hrw
    · exact (hl.rows b hb).keeps hkp
  · rcases List.mem_cons.1 hb with rfl | hb
    · exact ha.depth
    · exact hl.depth b hb
  · obtain ⟨hr, hb⟩ := Chain.of_accepted hl ha hcn
    rcases hb with rfl | hb
    · have hst : ∀ x ∈ b :: rest, l.store.core.runs.contains x.parentRunId = true := by
        intro x hx
        rcases List.mem_cons.1 hx with rfl | hx
        · exact ha.parent
        · exact (hl.rows x (hr.1 x hx)).1
      have hs : Lineage.entries ⟨d, b :: l.admissions⟩ (b :: rest) = l.entries (b :: rest) :=
        entries_keeps hkp hst
      cases rest with
      | nil =>
        refine ⟨ha.positive, nofun, by simp, ?_⟩
        rw [hs]
        cases hro : l.store.entryOf b.parentRunId with
        | none => simp [entries, hro]
        | some entry =>
          obtain ⟨wi, ti⟩ := entry
          simpa [entries, hro] using ha.root wi ti hro
      | cons c rest =>
        have hli := (Chain.tail hcn).1
        have hlm := hl.limited c rest hr
        obtain ⟨hk, hde⟩ := ha.next c (hr.1 c List.mem_cons_self) hli
        refine ⟨?_, fun x hx => ?_, ?_, ?_⟩
        · have := hlm.length
          simp only [List.length_cons]
          omega
        · rcases List.mem_cons.1 hx with rfl | hx
          · exact hk
          · exact (hlm.kind x hx).trans hk
        · refine List.nodup_cons.2 ⟨fun hm => ?_, hlm.children⟩
          obtain ⟨x, hx, hch⟩ := List.mem_map.1 hm
          have hc := (hl.rows x (hr.1 x hx)).2.1
          rw [hch, ha.fresh] at hc
          cases hc
        · rw [hs, entries_cons_cons]
          exact List.nodup_cons.2 ⟨ha.entry c rest hr hli, hlm.entries⟩
    · have ho : l.Chain (b :: rest) :=
        ⟨fun x hx => (List.mem_cons.1 hx).elim (fun he => he ▸ hb) (hr.1 x), hcn.2⟩
      have hlm := hl.limited b rest ho
      refine ⟨hlm.length, hlm.kind, hlm.children, ?_⟩
      rw [entries_keeps hkp fun x hx => (hl.rows x (ho.1 x hx)).1]
      exact hlm.entries

end

end Lineage

end Woml
