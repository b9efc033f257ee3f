import Woml.Projection.Proof.Attempts
import Woml.Runtime.Settlement

/-!
# When an open fork can be closed

Both routines close what is left of a fork as cancelled and name the first joined branch as the one
that blocks the join. The fold wants that branch to be recorded as cancelled, so a fork whose first
branch succeeded or failed cannot be closed (`open_fork_closed_iff`).
-/

namespace Woml

open Checked ProjectionFoldState CompiledFork ForkJoinOutcome SortedMap

/-- Branch identifiers are distinct, and a join waits for branches of its fork. -/
structure CompiledFork.WellFormed (fork : CompiledFork) : Prop where
  distinct : (fork.branches.map (·.branchId)).Nodup
  joined : ∀ branchId ∈ fork.joinedBranchIds, branchId ∈ fork.branches.map (·.branchId)

/-- Work of the run may still be settled. -/
def RunStatus.IsSettling (status : RunStatus) : Prop := status = .running ∨ status = .cancelling

/-- The first joined branch has no outcome yet, or was cancelled. -/
def CompiledFork.FirstMayBlock (fork : CompiledFork) (f : ForkProjection) : Prop :=
  f.joinStatus = .pending → ∀ first, fork.joinedBranchIds.head? = some first →
    ∀ branch, f.branches.get? first = some branch → branch.outcome = some .cancelled

/-- Every branch and the join are settled. -/
def CompiledFork.IsClosed (fork : CompiledFork) (f : ForkProjection) : Prop :=
  (∀ branch ∈ fork.branches, f.branches.contains branch.branchId = true) ∧ f.joinStatus ≠ .pending

def ForkProjection.cancel (f : ForkProjection) (branch : CompiledForkBranch) : ForkProjection :=
  let cancelled := ⟨branch.branchId, some branch.terminalNodeId, some .cancelled⟩
  { f with branches := f.branches.insert branch.branchId cancelled }

def ForkProjection.close (f : ForkProjection) (fork : CompiledFork) : ForkProjection :=
  match fork.joinedBranchIds.head? with
  | some first => { f with joinStatus := .cancelled, blockingBranchId := some first }
  | none => { f with joinStatus := .succeeded, blockingBranchId := none }

/-- The first joined branch is recorded as cancelled. -/
def CompiledFork.FirstBlocks (fork : CompiledFork) (f : ForkProjection) : Prop :=
  ∀ first, fork.joinedBranchIds.head? = some first →
    ∃ branch, f.branches.get? first = some branch ∧ branch.outcome = some .cancelled

/-! ## The branches that are left -/

theorem get?_cancel (bs : List CompiledForkBranch) (f : ForkProjection) (id : String) :
    (id ∈ bs.map (·.branchId) → ∃ branch,
      (bs.foldl .cancel f).branches.get? id = some branch ∧
        branch.outcome = some .cancelled) ∧
    (id ∉ bs.map (·.branchId) →
      (bs.foldl .cancel f).branches.get? id = f.branches.get? id) := by
  induction bs generalizing f with
  | nil => exact ⟨nofun, fun _ => rfl⟩
  | cons branch bs ih =>
    obtain ⟨hm, hn⟩ := ih (f.cancel branch)
    simp only [List.map_cons, List.mem_cons, not_or]
    refine ⟨fun hi => ?_, fun hi => ?_⟩
    · by_cases hl : id ∈ bs.map (·.branchId)
      · exact hm hl
      · obtain rfl := hi.resolve_right hl
        exact ⟨_, (hn hl).trans (SortedMap.get?_insert_self _ _ _), rfl⟩
    · exact (hn hi.2).trans (SortedMap.get?_insert_ne _ hi.1 _)

theorem remaining_eq_filter : ∀ (branches : List CompiledForkBranch) (settled : String → Bool),
    (branches.map (·.branchId)).Nodup →
    CompiledFork.remaining settled branches =
      branches.filter fun branch => !settled branch.branchId
  | [], _, _ => rfl
  | branch :: branches, settled, hn => by
    rw [List.map_cons, List.nodup_cons] at hn
    unfold CompiledFork.remaining
    cases hs : settled branch.branchId with
    | true => simp [hs, remaining_eq_filter branches settled hn.2]
    | false =>
      rw [if_neg Bool.false_ne_true, remaining_eq_filter branches _ hn.2,
        List.filter_cons_of_pos (by simp [hs])]
      refine congrArg _ (List.filter_congr fun other ho => ?_)
      have hne : other.branchId ≠ branch.branchId := fun he =>
        hn.1 (he ▸ List.mem_map_of_mem (f := (·.branchId)) ho)
      simp [hne]

theorem settleOpenForkCancellation_eq {fork : CompiledFork} (hf : fork.WellFormed)
    (f : ForkProjection) : fork.settleOpenForkCancellation f = fork.settleForkTimeout f :=
  congrArg _ (remaining_eq_filter _ _ hf.distinct)

/-! ## One event -/

section
variable [Host] {s s' : ProjectionFoldState} {event : RunEvent} {events : List RunEvent}
  {fork : CompiledFork} {branch : CompiledForkBranch} {f : ForkProjection}

/-- Each event of the run is well formed where it is met. -/
def WellFormedFrom (s : ProjectionFoldState) : List RunEvent → Bool
  | [] => true
  | event :: events => event.iteration.isNone && (s.gate event).isOk &&
    match s.apply event with
    | .ok s' => WellFormedFrom s' events
    | .error _ => true

theorem wellFormedFrom_cons (h : WellFormedFrom s (event :: events) = true) :
    event.iteration = none ∧ s.gate event = .ok () ∧
      ∀ s', s.apply event = .ok s' → WellFormedFrom s' events = true := by
  simp only [WellFormedFrom, Bool.and_eq_true, Option.isNone_iff_eq_none] at h
  obtain ⟨⟨ht, hg⟩, hr⟩ := h
  obtain ⟨_, hg⟩ := exists_ok hg
  refine ⟨ht, hg, fun s' hs' => ?_⟩
  rw [hs'] at hr
  exact hr

/-- The state behind an event that puts a fork. -/
def ProjectionFoldState.putFork (s : ProjectionFoldState) (event : RunEvent) (forkId : String)
    (f : ForkProjection) : ProjectionFoldState :=
  s.next event { s.projection with forks := s.projection.forks.insert forkId f }

theorem apply_cancelledBranch (hg : s.gate event = .ok ()) (ht : event.iteration = none)
    (hp : event.payload = fork.cancelledBranch branch)
    (hf : s.projection.forks.get? fork.forkId = some f) :
    s.apply event = .ok s' ↔
      s.projection.status.IsSettling ∧ f.branches.contains branch.branchId = false ∧
        s' = s.putFork event fork.forkId (f.cancel branch) := by
  rw [apply_top_eq_ok hg ht]
  simp only [applyPayload, hp, CompiledFork.cancelledBranch, applyForkBranchSettled, eq_ok_iff,
    requireRunningOrCancelling_eq_ok, hf]
  simp [RunStatus.IsSettling, ProjectionFoldState.putFork, ForkProjection.cancel, and_assoc]

theorem apply_cancelledJoin (hg : s.gate event = .ok ()) (ht : event.iteration = none)
    (hpa : event.payload = fork.cancelledJoin)
    (hf : s.projection.forks.get? fork.forkId = some f) (hpe : f.joinStatus = .pending) :
    s.apply event = .ok s' ↔ s.projection.status.IsSettling ∧ fork.FirstBlocks f ∧
      s' = s.putFork event fork.forkId (f.close fork) := by
  rw [apply_top_eq_ok hg ht]
  unfold CompiledFork.FirstBlocks ForkProjection.close
  unfold cancelledJoin at hpa
  cases hfs : fork.joinedBranchIds.head? with
  | none =>
    rw [hfs] at hpa
    simp only [applyPayload, hpa, applyForkJoinSettled, eq_ok_iff,
      requireRunningOrCancelling_eq_ok, hf]
    simp [hpe, RunStatus.IsSettling, putFork, joinStatus]
  | some first =>
    rw [hfs] at hpa
    have hp : ((f.branches.get? first).bind (·.outcome)).any
        (isProvenBy .cancelled) = true ↔
          ∃ branch, f.branches.get? first = some branch ∧ branch.outcome = some .cancelled := by
      rw [Option.any_eq_true]
      constructor
      · rintro ⟨outcome, hb, hp⟩
        obtain ⟨branch, hbr, ho⟩ := Option.bind_eq_some_iff.1 hb
        cases outcome <;> first | exact ⟨branch, hbr, ho⟩ | cases hp
      · rintro ⟨branch, hbr, ho⟩
        exact ⟨.cancelled, Option.bind_eq_some_iff.2 ⟨branch, hbr, ho⟩, rfl⟩
    simp only [applyPayload, hpa, applyForkJoinSettled, eq_ok_iff,
      requireRunningOrCancelling_eq_ok, hf]
    simp [hpe, RunStatus.IsSettling, putFork, joinStatus,
      hp, and_assoc]

/-! ## One fork -/

/-- The fork is `f'` now, and the run stays open to settlements as it was. -/
structure PutsFork (forkId : String) (s s' : ProjectionFoldState) (f' : ForkProjection) : Prop where
  status : s'.projection.status = s.projection.status
  found : s'.projection.forks.get? forkId = some f'
  others : ∀ id ≠ forkId, s'.projection.forks.get? id = s.projection.forks.get? id

omit [Host] in
theorem putsFork (s : ProjectionFoldState) (e : RunEvent) (fi : String)
    (f : ForkProjection) : PutsFork fi s (s.putFork e fi f) f :=
  ⟨rfl, get?_insert_self _ _ _, fun _ hi => get?_insert_ne _ hi _⟩

/-- The events of one fork, by induction on the branches that they close. -/
theorem closing_iff (fork : CompiledFork) : ∀ (branches : List CompiledForkBranch)
    (events : List RunEvent) (s : ProjectionFoldState) (f : ForkProjection),
    events.map (·.payload) = fork.closing f branches → WellFormedFrom s events = true →
    s.projection.forks.get? fork.forkId = some f → (branches.map (·.branchId)).Nodup →
    (∀ branch ∈ branches, f.branches.contains branch.branchId = false) →
    ((∃ s', events.foldlM apply s = .ok s') ↔
      (branches ≠ [] ∨ f.joinStatus = .pending → s.projection.status.IsSettling) ∧
      (f.joinStatus = .pending → fork.FirstBlocks (branches.foldl .cancel f))) ∧
    ∀ s', events.foldlM apply s = .ok s' → ∃ f', PutsFork fork.forkId s s' f' ∧
      f'.branches = (branches.foldl .cancel f).branches ∧ f'.joinStatus ≠ .pending
  | [], events, s, f, he, hfo, hf, _, _ => by
    by_cases hp : f.joinStatus = .pending
    · rw [CompiledFork.closing, if_pos hp] at he
      obtain ⟨event, rfl, hpa⟩ := List.map_eq_singleton_iff.1 he
      obtain ⟨hto, hg, -⟩ := wellFormedFrom_cons hfo
      have ha := fun s' => @apply_cancelledJoin _ s s' _ _ _ hg hto hpa hf hp
      simp only [List.foldlM_cons, List.foldlM_nil, bind_pure, ha, hp]
      refine ⟨by simp, ?_⟩
      rintro s' ⟨-, -, rfl⟩
      refine ⟨_, putsFork _ _ _ _, ?_⟩
      unfold ForkProjection.close
      cases fork.joinedBranchIds.head? <;> exact ⟨rfl, nofun⟩
    · rw [CompiledFork.closing, if_neg hp] at he
      obtain rfl := List.map_eq_nil_iff.1 he
      refine ⟨by simp [hp, pure, Except.pure], ?_⟩
      rintro _ ⟨⟩
      exact ⟨f, ⟨rfl, hf, fun _ _ => rfl⟩, rfl, hp⟩
  | branch :: branches, events, s, f, he, hfo, hf, hnd, hn => by
    rw [List.map_cons, List.nodup_cons] at hnd
    obtain ⟨event, events, rfl, hpa, he⟩ := List.map_eq_cons_iff.1 he
    obtain ⟨hto, hg, hfo⟩ := wellFormedFrom_cons hfo
    have ha := fun s' => @apply_cancelledBranch _ s s' _ _ _ _ hg hto hpa hf
    by_cases hs : s.projection.status.IsSettling
    · have hac := (ha _).2 ⟨hs, hn branch (.head _), rfl⟩
      have hpu := putsFork s event fork.forkId (f.cancel branch)
      have hn' : ∀ other ∈ branches,
          (f.cancel branch).branches.contains other.branchId = false := by
        intro other ho
        have hne : other.branchId ≠ branch.branchId := fun heq =>
          hnd.1 (heq ▸ List.mem_map_of_mem ho)
        rw [← hn other (.tail _ ho)]
        exact congrArg Option.isSome (get?_insert_ne _ hne _)
      obtain ⟨hi, hpo⟩ := closing_iff fork branches events _ (f.cancel branch) he (hfo _ hac)
        hpu.found hnd.2 hn'
      rw [List.foldlM_cons, hac]
      refine ⟨hi.trans ?_, fun s' hs' => ?_⟩
      · exact and_congr ⟨fun _ _ => hs, fun _ _ => hs⟩ Iff.rfl
      · obtain ⟨f', hc, hf'⟩ := hpo s' hs'
        exact ⟨f', ⟨hc.status.trans hpu.status, hc.found,
          fun id hid => (hc.others id hid).trans (hpu.others id hid)⟩, hf'⟩
    · have hr : ∀ s', (event :: events).foldlM apply s ≠ .ok s' := by
        intro s' hs'
        obtain ⟨t, ht, -⟩ := bind_eq_ok.1 hs'
        exact hs ((ha t).1 ht).1
      refine ⟨⟨fun ⟨s', hs'⟩ => absurd hs' (hr s'), fun h => ?_⟩, fun s' hs' => absurd hs' (hr s')⟩
      exact absurd (h.1 (.inl (List.cons_ne_nil _ _))) hs

end

section
variable {fork : CompiledFork} {f : ForkProjection}

/-- Settled branches stay as they are, the others of the fork are cancelled. -/
theorem get?_cancel_unsettled (id : String) :
    (∀ branch, f.branches.get? id = some branch →
      ((fork.unsettled f).foldl .cancel f).branches.get? id = some branch) ∧
    (f.branches.get? id = none → id ∈ fork.branches.map (·.branchId) → ∃ branch,
      ((fork.unsettled f).foldl .cancel f).branches.get? id = some branch ∧
        branch.outcome = some .cancelled) := by
  have hl : id ∈ (fork.unsettled f).map (·.branchId) ↔
      id ∈ fork.branches.map (·.branchId) ∧ f.branches.get? id = none := by
    simp only [unsettled, List.mem_map, List.mem_filter, SortedMap.contains]
    constructor
    · rintro ⟨branch, ⟨hb, hn⟩, rfl⟩
      exact ⟨⟨branch, hb, rfl⟩, by simpa using hn⟩
    · rintro ⟨⟨branch, hb, rfl⟩, hn⟩
      exact ⟨branch, ⟨hb, by simp [hn]⟩, rfl⟩
  obtain ⟨hm, hno⟩ := get?_cancel (fork.unsettled f) f id
  refine ⟨fun branch hs => ?_, fun hn hi => hm (hl.2 ⟨hi, hn⟩)⟩
  rw [hno, hs]
  intro h
  rw [(hl.1 h).2] at hs
  cases hs

/-- What `closing_iff` asks for, by what the routine read. -/
theorem closable_iff (hf : fork.WellFormed) (s : RunStatus) :
    ((fork.unsettled f ≠ [] ∨ f.joinStatus = .pending → s.IsSettling) ∧
      (f.joinStatus = .pending → fork.FirstBlocks ((fork.unsettled f).foldl .cancel f))) ↔
    fork.IsClosed f ∨ s.IsSettling ∧ fork.FirstMayBlock f := by
  have hb : fork.FirstBlocks ((fork.unsettled f).foldl .cancel f) ↔
      ∀ first, fork.joinedBranchIds.head? = some first →
        ∀ branch, f.branches.get? first = some branch → branch.outcome = some .cancelled := by
    refine forall₂_congr fun first hfs => ?_
    obtain ⟨hk, hc⟩ := @get?_cancel_unsettled fork f first
    cases hg : f.branches.get? first with
    | none =>
      exact iff_of_true (hc hg (hf.joined first (List.mem_of_mem_head? hfs))) nofun
    | some branch => simp [hk branch hg]
  have hcl : fork.IsClosed f ↔ ¬(fork.unsettled f ≠ [] ∨ f.joinStatus = .pending) := by
    simp [CompiledFork.IsClosed, unsettled]
  rw [hcl, hb]
  constructor
  · rintro ⟨hs, hfs⟩
    by_cases ho : fork.unsettled f ≠ [] ∨ f.joinStatus = .pending
    · exact .inr ⟨hs ho, hfs⟩
    · exact .inl ho
  · rintro (hcl | ⟨hs, hfs⟩)
    · exact ⟨fun h => absurd h hcl, fun h => absurd (.inr h) hcl⟩
    · exact ⟨fun _ => hs, hfs⟩

/-- **When a fork can be closed.** Either routine leaves every branch and the join settled, exactly
if they were before or the run is open to settlements and the first joined branch may block. -/
theorem open_fork_closed_iff [Host] {s : ProjectionFoldState} {events : List RunEvent}
    (hfork : fork.WellFormed) (hfound : s.projection.forks.get? fork.forkId = some f)
    (hevents : events.map (·.payload) = fork.settleOpenForkCancellation f ∨
      events.map (·.payload) = fork.settleForkTimeout f)
    (hformed : WellFormedFrom s events = true) :
    (∃ s' f', events.foldlM apply s = .ok s' ∧ PutsFork fork.forkId s s' f' ∧ fork.IsClosed f') ↔
      fork.IsClosed f ∨ s.projection.status.IsSettling ∧ fork.FirstMayBlock f := by
  rw [settleOpenForkCancellation_eq hfork, or_self] at hevents
  obtain ⟨hi, hp⟩ := closing_iff fork _ events s f hevents hformed hfound
    (hfork.distinct.sublist (List.filter_sublist.map _)) (by simp [unsettled])
  rw [← closable_iff hfork, ← hi]
  refine ⟨fun ⟨s', f', hs', _⟩ => ⟨s', hs'⟩, fun ⟨s', hs'⟩ => ?_⟩
  obtain ⟨f', hpu, hb, hj⟩ := hp s' hs'
  refine ⟨s', f', hs', hpu, fun branch hbr => ?_, hj⟩
  obtain ⟨hk, hc⟩ := @get?_cancel_unsettled fork f branch.branchId
  rw [hb, SortedMap.contains]
  cases hg : f.branches.get? branch.branchId with
  | none =>
    obtain ⟨_, hs, -⟩ := hc hg (List.mem_map_of_mem hbr)
    rw [hs]
    rfl
  | some old =>
    rw [hk old hg]
    rfl

end

/-! ## A fork whose first branch is settled -/

namespace HalfSettledFork

def split : CompiledFork where
  forkId := "split"
  openNodeId := "open"
  joinNodeId := "join"
  branches := [⟨"left", "left", "left-end"⟩, ⟨"right", "right", "right-end"⟩]
  joinedBranchIds := ["left", "right"]

/-- One branch settles, then the run is cancelled. -/
def history (left : ForkBranchOutcome) : List RunEvent :=
  retryHistory.take 2 ++ [retryEvent 3 "e3" (.forkOpened ⟨"split"⟩),
    retryEvent 4 "e4" (.forkBranchSettled ⟨"split", "left", "left-end", left⟩),
    retryEvent 5 "e5" (.runCancellationRequested ⟨"request"⟩)]

def closing : List RunEvent :=
  [retryEvent 6 "e6" (split.cancelledBranch ⟨"right", "right", "right-end"⟩),
    retryEvent 7 "e7" split.cancelledJoin]

/-- The cancelling run with its fork, which either routine closes by the events of `closing`. -/
structure Cancelling (left : ForkBranchOutcome) (s : ProjectionFoldState) (f : ForkProjection) :
    Prop where
  folded : @fromEvents default (history left) = .ok s
  status : s.projection.status = .cancelling
  found : s.projection.forks.get? split.forkId = some f
  outcome : (f.branches.get? "left").map (·.outcome) = some (some left)
  events : closing.map (·.payload) = split.settleOpenForkCancellation f ∧
    closing.map (·.payload) = split.settleForkTimeout f
  formed : @WellFormedFrom default s closing = true

theorem cancelling (left : ForkBranchOutcome) : ∃ s f, Cancelling left s f := by
  obtain ⟨s, hs, hst, hfo, f, hf, hp, hl, hse, hr⟩ :
      ∃ s, @fromEvents default (history left) = .ok s ∧ s.projection.status = .cancelling ∧
        @WellFormedFrom default s closing = true ∧ ∃ f,
          s.projection.forks.get? split.forkId = some f ∧ f.joinStatus = .pending ∧
          (f.branches.get? "left").map (·.outcome) = some (some left) ∧
          f.branches.contains "left" = true ∧ f.branches.contains "right" = false := by
    cases left <;> decide +kernel
  refine ⟨s, f, hs, hst, hf, hl, ⟨?_, ?_⟩, hfo⟩
  · simp [closing, retryEvent, CompiledFork.settleOpenForkCancellation, CompiledFork.closing,
      CompiledFork.remaining, split, hse, hr, hp]
  · simp [closing, retryEvent, CompiledFork.settleForkTimeout, CompiledFork.closing,
      CompiledFork.unsettled, split, hse, hr, hp]

theorem split_wellFormed : split.WellFormed := ⟨by decide, by decide⟩

/-- The branch that is named did not block the join. -/
theorem succeeded_branch_named :
    ∃ s f, Cancelling .succeeded s f ∧ split.WellFormed ∧
      ∀ s', closing.foldlM (@apply default) s ≠ .ok s' := by
  obtain ⟨s, f, h⟩ := cancelling .succeeded
  obtain ⟨_, hs, hr⟩ : ∃ s, @fromEvents default (history .succeeded) = .ok s ∧
      ¬∃ s', closing.foldlM (@apply default) s = .ok s' := by decide +kernel
  cases h.folded.symm.trans hs
  exact ⟨s, f, h, split_wellFormed, fun s' hs' => hr ⟨s', hs'⟩⟩

theorem cancelled_branch_named :
    ∃ s f, Cancelling .cancelled s f ∧ split.WellFormed ∧ ∃ s' f',
      closing.foldlM (@apply default) s = .ok s' ∧ PutsFork split.forkId s s' f' ∧
        split.IsClosed f' := by
  obtain ⟨s, f, h⟩ := cancelling .cancelled
  refine ⟨s, f, h, split_wellFormed, (@open_fork_closed_iff split f default s closing
    split_wellFormed h.found (.inl h.events.1) h.formed).2 (.inr ⟨.inr h.status, ?_⟩)⟩
  rintro _ _ ⟨⟩ branch hb
  have := h.outcome
  rw [hb] at this
  exact Option.some.inj this

end HalfSettledFork

end Woml
