import Woml.Engine.Proof.FrontierScan

/-!
# The cursor over a history answers like a fresh fold

`HistoryPrefix.Live` is the invariant of a cursor that has not failed: its state is the fold of
the events before it, its ordinals are those of that state, and its frontier, if it has one,
follows that state. `Poisoned` is the cursor after a rejected event. Both survive every call
(`at_spec`, `queryAt_spec`), and a query on a live cursor gives the plain scan's answer
(`readyFromPrefixAt_eq`, `isReadyFromPrefixAt_answers`).
-/

namespace Woml

open Checked ReadinessGraph Frontier

variable {events : List RunEvent}

namespace ProjectionFoldState

variable [Host]

theorem fromEvents_take_error {e : FoldError} {n m : Nat} (hn : n ≤ m)
    (h : fromEvents (events.take n) = .error e) : fromEvents (events.take m) = .error e := by
  have hs : events.take m = events.take n ++ (events.take m).drop n := by
    have := List.take_append_drop n (events.take m)
    rw [List.take_take, Nat.min_eq_left hn] at this
    exact this.symm
  rw [hs, fromEvents, List.foldlM_append]
  show fromEvents (events.take n) >>= _ = _
  rw [h]
  rfl

end ProjectionFoldState

namespace HistoryPrefix

open ProjectionFoldState

section
variable [Host]

/-- A cursor that accepted everything before its position. -/
structure Live (w : DefinitionRef) (hash : String) (c : HistoryPrefix) : Prop where
  poisoned : c.poisoned = none
  bound : c.next ≤ c.events.length
  state : fromEvents (c.events.take c.next) = .ok c.state
  latest : ∀ latest, c.latest = some latest →
    Ordinals latest (attemptNodeIds c.state.projection.attempts)
  definition : ∀ d, c.frontierDefinition = some d →
    d = (w, hash) ∧ c.state.projection.choiceSelections = .empty
  frontier : ∀ f, c.frontier = some f →
    f.Follows w c.state.projection ∧ c.frontierDefinition.isSome ∧ c.latest.isSome

/-- A cursor that met a rejected event at its position. -/
structure Poisoned (error : FoldError) (c : HistoryPrefix) : Prop where
  poisoned : c.poisoned = some error.toText
  rejected : fromEvents (c.events.take (c.next + 1)) = .error error

theorem withDefinition_live (es : List RunEvent) (w : DefinitionRef) (hash : String) :
    Live w hash (withDefinition es w hash) where
  poisoned := rfl
  bound := Nat.zero_le _
  state := rfl
  latest _ h := by cases h
  definition d h := by
    cases h
    exact ⟨rfl, rfl⟩
  frontier _ h := by cases h

section
variable {w : DefinitionRef} {hash : String} {c : HistoryPrefix}

omit [Host] in
theorem attemptNodeIds_of_identities {ats ats' : List AttemptProjection} {e : List AttemptIdentity}
    (h : ats'.map (·.identity) = ats.map (·.identity) ++ e) :
    attemptNodeIds ats' = attemptNodeIds ats ++ e.map (·.nodeId) := by
  have hm := congrArg (List.map (·.nodeId)) h
  simpa only [attemptNodeIds, List.map_map, List.map_append, Function.comp_def] using hm

/-- What the frontier makes of an accepted event, once the state and the ordinals are the new
ones. -/
theorem followEvent_live {s : ProjectionFoldState} {e : RunEvent} {c' : HistoryPrefix}
    (hst : fromEvents events = .ok s) (h : s.apply e = .ok c'.state)
    (hp : c'.poisoned = none) (hb : c'.next + 1 ≤ c'.events.length)
    (hn : fromEvents (c'.events.take (c'.next + 1)) = .ok c'.state)
    (hla : ∀ l, c'.latest = some l → Ordinals l (attemptNodeIds c'.state.projection.attempts))
    (hde : ∀ d, c'.frontierDefinition = some d →
      d = (w, hash) ∧ s.projection.choiceSelections = .empty)
    (hfr : ∀ f, c'.frontier = some f →
      f.Follows w s.projection ∧ c'.frontierDefinition.isSome ∧ c'.latest.isSome) :
    Live w hash { c'.followEvent e with next := (c'.followEvent e).next + 1 } := by
  -- without a frontier definition nothing is followed
  have hdr : Live w hash { c'.invalidateFrontier with next := c'.next + 1 } :=
    ⟨hp, hb, hn, hla, fun _ hd => (by cases hd), fun _ hf => (by cases hf)⟩
  unfold followEvent
  split
  · rename_i hs
    cases hc : changedNode e with
    | none => exact hdr
    | some changed =>
      have hch := apply_choiceSelections h hc
      have hd' : ∀ d, c'.frontierDefinition = some d →
          d = (w, hash) ∧ c'.state.projection.choiceSelections = .empty := by
        intro d hd
        rw [hch]
        exact hde d hd
      have hnd := fun id => @apply_nodeState _ e changed _ s c'.state (bookkeeping hst) h hc id
      cases changed with
      | none =>
        refine ⟨hp, hb, hn, hla, hd', fun f hf => ?_⟩
        obtain ⟨hfo, hr⟩ := hfr f hf
        exact ⟨hfo.congr fun id => hnd id (by simp), hr⟩
      | some node =>
        simp only
        split
        · rename_i fr l hf hl
          obtain ⟨hfo, -, -⟩ := hfr fr hf
          cases hu : fr.update node c'.state.projection l with
          | none => exact hdr
          | some f' =>
            refine ⟨hp, hb, hn, hla, hd', fun f hf' => ?_⟩
            cases hf'
            refine ⟨hfo.update (hla l hl) (fun id hi => hnd id ?_) hu, hs,
              by rw [hl]; rfl⟩
            exact fun he => hi (Option.some.inj he).symm
        · rename_i hnt
          refine ⟨hp, hb, hn, hla, hd', fun f hf => ?_⟩
          -- a frontier never goes without ordinals
          obtain ⟨-, -, hl⟩ := hfr f hf
          obtain ⟨l, hl⟩ := Option.isSome_iff_exists.1 hl
          exact (hnt f l hf hl).elim
  · rename_i hno
    rw [Option.not_isSome_iff_eq_none] at hno
    refine ⟨hp, hb, hn, hla, fun d hd => ?_, fun f hf => ?_⟩
    · rw [hno] at hd
      cases hd
    · have := (hfr f hf).2.1
      rw [hno] at this
      cases this

omit [Host] in
theorem followEvent_position (e : RunEvent) :
    (c.followEvent e).events = c.events ∧ (c.followEvent e).state = c.state ∧
      (c.followEvent e).next = c.next := by
  unfold followEvent
  split
  · split
    · exact ⟨rfl, rfl, rfl⟩
    · exact ⟨rfl, rfl, rfl⟩
    · split
      · split <;> exact ⟨rfl, rfl, rfl⟩
      · exact ⟨rfl, rfl, rfl⟩
  · exact ⟨rfl, rfl, rfl⟩

omit [Host] in
theorem accept_position (e : RunEvent) (s : ProjectionFoldState) :
    (c.accept e s).events = c.events ∧ (c.accept e s).state = s ∧
      (c.accept e s).next = c.next + 1 := by
  unfold accept
  simp only
  obtain ⟨he, hs, hn⟩ := followEvent_position e
  rw [he, hs, hn]
  split <;> exact ⟨rfl, rfl, rfl⟩

/-- **The cursor stays live across an accepted event.** -/
theorem Live.accept (h : Live w hash c) {e : RunEvent} (he : c.events[c.next]? = some e)
    {state : ProjectionFoldState} (ha : c.state.apply e = .ok state) :
    Live w hash (c.accept e state) := by
  have hi := attemptNodeIds_of_identities (apply_identities ha)
  have hle : c.state.projection.attempts.length =
      (attemptNodeIds c.state.projection.attempts).length := by rw [attemptNodeIds, List.length_map]
  -- attempts are never removed, so the ordinals are kept
  have hg : ¬state.projection.attempts.length < c.state.projection.attempts.length := by
    have := congrArg List.length hi
    simp only [attemptNodeIds, List.length_map, List.length_append] at this
    omega
  have hn : fromEvents (c.events.take (c.next + 1)) = .ok state := by
    rw [fromEvents_take_succ he, h.state]
    exact ha
  unfold HistoryPrefix.accept
  simp only [if_neg hg]
  refine followEvent_live h.state ha h.poisoned (List.getElem?_eq_some_iff.1 he).1 hn
    ?_ h.definition ?_
  · intro l hl
    obtain ⟨old, ho, rfl⟩ := Option.map_eq_some_iff.1 hl
    rw [hle]
    show Ordinals _ (attemptNodeIds state.projection.attempts)
    rw [hi]
    exact extendLatest_ordinals (h.latest old ho) hi
  · intro f hf
    obtain ⟨hfo, hd, hl⟩ := h.frontier f hf
    exact ⟨hfo, hd, by rw [Option.isSome_map]; exact hl⟩

/-- What a call leaves: the live cursor at the position, or a poisoned one. -/
def Outcome (w : DefinitionRef) (hash : String) (events : List RunEvent) (position : Nat)
    (c : HistoryPrefix) : Except FoldError ProjectionFoldState → Prop
  | .ok s => Live w hash c ∧ c.events = events ∧ c.next = position ∧ c.state = s
  | .error e => Poisoned e c ∧ c.events = events ∧ c.next < position

/-- The projection of a fold, with the error as the engine reports it. -/
def answer (folded : Except FoldError ProjectionFoldState) : Except EngineError RunProjection :=
  match folded with
  | .ok s => .ok s.projection
  | .error e => .error (.message e.toText)

/-- The loop of `at`. -/
theorem advance_spec (h : Live w hash c) {ss : Nat} (hs : c.next + ss ≤ c.events.length) :
    (c.advance ss).2 = answer (fromEvents (c.events.take (c.next + ss))) ∧
      Outcome w hash c.events (c.next + ss) (c.advance ss).1
        (fromEvents (c.events.take (c.next + ss))) := by
  induction ss generalizing c with
  | zero =>
    rw [Nat.add_zero, h.state]
    exact ⟨rfl, h, rfl, rfl, rfl⟩
  | succ ss ih =>
    have hl : c.next < c.events.length := by omega
    have hev := List.getElem?_eq_getElem hl
    unfold advance
    rw [hev]
    simp only
    cases ha : c.state.apply c.events[c.next] with
    | error e =>
      have hf : fromEvents (c.events.take (c.next + 1)) = .error e := by
        rw [fromEvents_take_succ hev, h.state]
        exact ha
      rw [fromEvents_take_error (by omega) hf]
      exact ⟨rfl, ⟨rfl, hf⟩, rfl, Nat.lt_add_of_pos_right (Nat.succ_pos ss)⟩
    | ok state =>
      obtain ⟨he, -, hp⟩ := @accept_position c c.events[c.next] state
      have key := ih (h.accept hev ha) (by rw [he]; omega)
      rw [hp, he, show c.next + 1 + ss = c.next + (ss + 1) by omega] at key
      exact key

/-- **`at` returns the fold of the prefix**, and poisons the cursor when there is none. -/
theorem at_spec (h : Live w hash c) {p : Nat} (hl : c.next ≤ p) (hb : p ≤ c.events.length) :
    (c.at p).2 = answer (fromEvents (c.events.take p)) ∧
      Outcome w hash c.events p (c.at p).1
        (fromEvents (c.events.take p)) := by
  have hr : ¬(p < c.next ∨ c.events.length < p) := by omega
  unfold HistoryPrefix.at
  simp only [h.poisoned, if_neg hr]
  have key := @advance_spec _ w hash c h (p - c.next) (by omega)
  rwa [show c.next + (p - c.next) = p by omega] at key

omit [Host] in
theorem prepare_position :
    c.prepare.events = c.events ∧ c.prepare.next = c.next ∧ c.prepare.state = c.state := by
  unfold prepare
  split
  · exact ⟨rfl, rfl, rfl⟩
  · simp only
    split
    · split
      · split <;> exact ⟨rfl, rfl, rfl⟩
      · exact ⟨rfl, rfl, rfl⟩
    · exact ⟨rfl, rfl, rfl⟩

/-- Preparing a query keeps the cursor live: ordinals are built from the projection, and so is the
frontier. -/
theorem Live.prepare (h : Live w hash c) : Live w hash c.prepare := by
  unfold HistoryPrefix.prepare
  split
  · exact h
  have hla : Ordinals (c.latest.getD (latestOrdinals c.state.projection))
      (attemptNodeIds c.state.projection.attempts) := by
    cases hl : c.latest with
    | none => exact latestOrdinals_ordinals _
    | some latest => exact h.latest latest hl
  have hk : Live w hash
      { c with latest := some (c.latest.getD (latestOrdinals c.state.projection)) } := by
    refine ⟨h.poisoned, h.bound, h.state, fun latest hl => ?_, h.definition, fun f hf => ?_⟩
    · cases hl
      exact hla
    · obtain ⟨hfo, hde, -⟩ := h.frontier f hf
      exact ⟨hfo, hde, rfl⟩
  simp only
  split
  · rename_i definition ha' hfr hde
    split
    · obtain ⟨he, hc⟩ := h.definition _ hde
      obtain ⟨rfl, rfl⟩ := Prod.mk.inj he
      cases hn : Frontier.new definition c.state.projection
          (c.latest.getD (latestOrdinals c.state.projection)) with
      | none =>
        exact ⟨h.poisoned, h.bound, h.state, hk.latest, fun _ hd => (by cases hd),
          fun _ hf => (by cases hf)⟩
      | some fr =>
        refine ⟨h.poisoned, h.bound, h.state, hk.latest, h.definition, fun f hf => ?_⟩
        cases hf
        exact ⟨new_follows hla hn, by rw [hde]; rfl, rfl⟩
    · exact hk
  · exact hk

/-- The view that a query on the cursor reads. -/
def view (c : HistoryPrefix) : ReadinessPrefix := ⟨c.state.projection, c.latest, c.frontier⟩

/-- **`queryAt` reads a live cursor at the position**, or reports the error of the prefix. -/
theorem queryAt_spec (h : Live w hash c) {p : Nat} (hle : c.next ≤ p) (hb : p ≤ c.events.length) :
    (c.queryAt p).2 =
        (answer (fromEvents (c.events.take p))).map (fun _ => (c.queryAt p).1.view) ∧
      Outcome w hash c.events p (c.queryAt p).1
        (fromEvents (c.events.take p)) := by
  have key := at_spec h hle hb
  unfold queryAt
  rcases ha : c.at p with ⟨c', result⟩
  rw [ha] at key
  obtain ⟨hr, ho⟩ := key
  subst hr
  cases hf : fromEvents (c.events.take p) with
  | error e =>
    rw [hf] at ho
    exact ⟨rfl, ho⟩
  | ok s =>
    rw [hf] at ho
    obtain ⟨hl, he, hn, hs⟩ := ho
    obtain ⟨he', hn', hs'⟩ := prepare_position
    exact ⟨rfl, hl.prepare, he'.trans he, hn'.trans hn, hs'.trans hs⟩

/-! ## Answers -/

omit [Host] in
/-- Ordinals, present or not, look the latest attempts up. -/
theorem latest_lawful {p : RunProjection} {la : Option (SortedMap String Nat)}
    (h : ∀ l, la = some l → Ordinals l (attemptNodeIds p.attempts)) :
    (LatestAttempts.prefixed p la).Lawful p := by
  cases la with
  | none => exact fun _ => rfl
  | some l => exact (h l rfl).lawful

/-- What the queries read of the view. -/
theorem Live.view_eq (h : Live w hash c) :
    c.view.frontierFor (ReadinessGraph.new w).workflow = c.frontier ∧
      readinessBinding (ReadinessGraph.new w).workflow.toCompiledWorkflowDefinition hash
          c.view.projection =
        readinessBinding w.toCompiledWorkflowDefinition hash c.state.projection := by
  refine ⟨?_, rfl⟩
  show c.view.frontierFor w = c.frontier
  unfold ReadinessPrefix.frontierFor view
  cases hf : c.frontier with
  | none => rfl
  | some f => simp [(h.frontier f hf).1.1]

/-- The list, once the gate is passed. -/
theorem Live.scan_frontier (h : Live w hash c) {f : Frontier} (hf : c.frontier = some f)
    (fuel : Nat) (now : DateTime) :
    Reference.scan w.toCompiledWorkflowDefinition c.state.projection (fuel + 1) now =
      .ok (f.readyAt now) := by
  obtain ⟨hfo, hde, -⟩ := h.frontier f hf
  obtain ⟨d, hd⟩ := Option.isSome_iff_exists.1 hde
  exact scan_of_follows hfo (h.definition d hd).2 fuel now

/-- **A query on a live cursor returns the plain scan's list.** -/
theorem readyFromPrefixAt_eq (h : Live w hash c) (fuel : Nat) (now : DateTime) :
    (ReadinessGraph.new w).readyFromPrefixAt (fuel + 1) hash c.view now =
      Reference.readyNodeIdsForProjectionAt w.toCompiledWorkflowDefinition c.state.projection
        (fuel + 1) hash now := by
  unfold readyFromPrefixAt Reference.readyNodeIdsForProjectionAt
  rw [h.view_eq.1, h.view_eq.2]
  cases readinessBinding w.toCompiledWorkflowDefinition hash c.state.projection with
  | error e => rfl
  | ok bound =>
    cases bound with
    | false => rfl
    | true =>
      cases hf : c.frontier with
      | some f => exact (h.scan_frontier hf fuel now).symm
      | none =>
        exact scan_eq (new_lawful w) (latest_lawful h.latest)
          (fuel + 1) now

/-- **A query for one node answers membership in that list.** -/
theorem isReadyFromPrefixAt_answers (h : Live w hash c) (fuel : Nat) (now : DateTime)
    (ni : String) :
    AnswersFor ni
      (Reference.readyNodeIdsForProjectionAt w.toCompiledWorkflowDefinition c.state.projection
        (fuel + 1) hash now)
      ((ReadinessGraph.new w).isReadyFromPrefixAt (fuel + 1) hash c.view now ni) := by
  unfold isReadyFromPrefixAt
  split
  · exact isReadyAt_answers (new_lawful w) c.state.projection
      (fuel + 1) hash now ni
  · unfold Reference.readyNodeIdsForProjectionAt
    rw [h.view_eq.1, h.view_eq.2]
    cases readinessBinding w.toCompiledWorkflowDefinition hash c.state.projection with
    | error e => cases e <;> trivial
    | ok bound =>
      cases bound with
      | false => rfl
      | true =>
        cases hf : c.frontier with
        | some f =>
          rw [h.scan_frontier hf fuel now]
          show Except.ok (f.contains ni now) = _
          rw [contains_of_follows (h.frontier f hf).1]
        | none =>
          exact scanOne_answers (new_lawful w)
            (latest_lawful h.latest) (fuel + 1) now ni

end

/-! ## Runs of queries -/

/-- One readiness query of a validator: both forms at once. -/
structure Query where
  position : Nat
  now : DateTime
  nodeId : String

/-- The answers of one cursor to a list of queries, in order. -/
def answers (g : ReadinessGraph) (fuel : Nat) (hash : String) :
    HistoryPrefix → List Query → List (Except EngineError (List String) × Except EngineError Bool)
  | _, [] => []
  | c, query :: rest =>
    let (c', view) := c.queryAt query.position
    (view.bind fun view => g.readyFromPrefixAt fuel hash view query.now,
      view.bind fun view => g.isReadyFromPrefixAt fuel hash view query.now query.nodeId) ::
      answers g fuel hash c' rest

/-- The answer of the plain scan over the prefix, folded from scratch. -/
def plainAnswer (w : CompiledWorkflowDefinition) (fuel : Nat) (hash : String)
    (events : List RunEvent) (query : Query) : Except EngineError (List String) :=
  match foldEvents (events.take query.position) with
  | .error e => .error (.message e.toText)
  | .ok p => Reference.readyNodeIdsForProjectionAt w p fuel hash query.now

/-- A cursor that may answer queries from `position` on. -/
inductive Cursor (w : DefinitionRef) (hash : String) (events : List RunEvent) (position : Nat)
    (c : HistoryPrefix) : Prop
  | live (h : Live w hash c) (bound : c.events = events) (before : c.next ≤ position)
  | poisoned (e : FoldError) (h : Poisoned e c) (bound : c.events = events)
      (before : c.next < position)

theorem Cursor.mono {w : DefinitionRef} {hash : String} {n m : Nat} {c : HistoryPrefix}
    (h : Cursor w hash events n c) (hn : n ≤ m) : Cursor w hash events m c := by
  cases h with
  | live h bound before => exact .live h bound (by omega)
  | poisoned e h bound before => exact .poisoned e h bound (by omega)

/-- **One query**: the answers are the plain ones and the cursor can go on from there. -/
theorem Cursor.query {w : DefinitionRef} {hash : String} {c : HistoryPrefix} (q : Query)
    (h : Cursor w hash events q.position c) (hb : q.position ≤ events.length)
    (fuel : Nat) :
    let plain := plainAnswer w.toCompiledWorkflowDefinition (fuel + 1) hash events q
    let (c', view) := c.queryAt q.position
    (view.bind fun view =>
        (ReadinessGraph.new w).readyFromPrefixAt (fuel + 1) hash view q.now) = plain ∧
      AnswersFor q.nodeId plain (view.bind fun view =>
        (ReadinessGraph.new w).isReadyFromPrefixAt (fuel + 1) hash view q.now q.nodeId) ∧
      Cursor w hash events q.position c' := by
  cases h with
  | live h bound before =>
    subst bound
    have key := queryAt_spec h before hb
    rcases hq : c.queryAt q.position with ⟨c', result⟩
    rw [hq] at key
    obtain ⟨hr, ho⟩ := key
    simp only at hr ho
    subst hr
    simp only [plainAnswer, foldEvents]
    cases hf : fromEvents (c.events.take q.position) with
    | error e =>
      rw [hf] at ho
      obtain ⟨hp, he, hn⟩ := ho
      exact ⟨rfl, rfl, .poisoned e hp he hn⟩
    | ok s =>
      rw [hf] at ho
      obtain ⟨hl, he, hn, rfl⟩ := ho
      exact ⟨readyFromPrefixAt_eq hl fuel q.now, isReadyFromPrefixAt_answers hl fuel q.now q.nodeId,
        .live hl he (Nat.le_of_eq hn)⟩
  | poisoned e h bound before =>
    subst bound
    have hf := fromEvents_take_error (by omega : c.next + 1 ≤ q.position) h.rejected
    have hq : c.queryAt q.position = (c, .error (.message e.toText)) := by
      simp [queryAt, HistoryPrefix.at, h.poisoned]
    rw [hq]
    simp only [plainAnswer, foldEvents, hf]
    exact ⟨rfl, rfl, .poisoned e h rfl before⟩

/-- **Every run of queries is answered like fresh folds.** Over any definition and any history,
queries at positions that do not go back get, from one cursor, the list that the plain scan returns
on the prefix folded from scratch, membership of the node in that list, and once a prefix does not
fold, its error. -/
theorem cursor_answers_plain_scan (w : DefinitionRef) (hash : String) (events : List RunEvent)
    (fuel : Nat) (queries : List Query)
    (hforward : queries.Pairwise fun a b => a.position ≤ b.position)
    (hbound : ∀ query ∈ queries, query.position ≤ events.length) :
    List.Forall₂
      (fun query given =>
        let plain := plainAnswer w.toCompiledWorkflowDefinition (fuel + 1) hash events query
        given.1 = plain ∧ AnswersFor query.nodeId plain given.2)
      queries
      (answers (ReadinessGraph.new w) (fuel + 1) hash (withDefinition events w hash) queries) := by
  have hc : ∀ query ∈ queries, Cursor w hash events query.position (withDefinition events w hash) :=
    fun query _ => .live (withDefinition_live events w hash) rfl (Nat.zero_le _)
  generalize withDefinition events w hash = c at hc ⊢
  induction queries generalizing c with
  | nil => exact .nil
  | cons query rest ih =>
    obtain ⟨hf, hr⟩ := List.pairwise_cons.1 hforward
    have hqu := (hc query List.mem_cons_self).query query (hbound query List.mem_cons_self) fuel
    rcases hs : c.queryAt query.position with ⟨c', view⟩
    rw [hs] at hqu
    obtain ⟨hl, ho, hn⟩ := hqu
    simp only [answers, hs]
    refine .cons ⟨hl, ho⟩ (ih hr ?_ c' ?_)
    · exact fun q hq => hbound q (List.mem_cons_of_mem query hq)
    · exact fun q hq => hn.mono (hf q hq)

end

/-! ### Two scripts, one after the other

The history calls no library function. -/

def chain : DefinitionRef where
  address := 1
  schemaVersion := 1
  workflowId := "chain"
  triggers := []
  graph := {
    entryNodeIds := ["a"]
    nodes := [{ id := "a", handler := "runtime.script" }, { id := "b", handler := "runtime.script" }]
    edges := [{ id := "a-b", source := "a", target := "b" }] }

def chainHash : String :=
  "sha256:0000000000000000000000000000000000000000000000000000000000000000"

def chainEvent (sequence : Nat) (eventId : String) (payload : RunEventPayload) : RunEvent :=
  { eventSchemaVersion := 1, eventId, runId := "run", sequence, occurredAt := 0, payload }

/-- The second success of `a` is rejected. -/
def chainHistory : List RunEvent :=
  [chainEvent 1 "e1" (.runStarted ⟨"chain", chainHash, none, none, none, none, []⟩),
    chainEvent 2 "e2" (.stepAttemptStarted ⟨"a", 1, "i1", "runtime.script", none⟩),
    chainEvent 3 "e3" (.stepAttemptSucceeded ⟨"a", 1, "i1", .null⟩),
    chainEvent 4 "e4" (.stepAttemptSucceeded ⟨"a", 1, "i1", .null⟩)]

def chainQueries : List Query := [⟨1, 0, "a"⟩, ⟨2, 0, "a"⟩, ⟨3, 0, "b"⟩, ⟨4, 0, "b"⟩]

theorem cursor_answers_plain_scan_chain :
    (@answers default (ReadinessGraph.new chain) 1 chainHash
        (withDefinition chainHistory chain chainHash) chainQueries).map Prod.fst =
      [.ok ["a"], .ok [], .ok ["b"],
        .error (.message "Attempt \"i1\" already has a terminal event.")] ∧
    List.Forall₂
      (fun query given =>
        let plain := @plainAnswer default chain.toCompiledWorkflowDefinition 1 chainHash
          chainHistory query
        given.1 = plain ∧ AnswersFor query.nodeId plain given.2)
      chainQueries
      (@answers default (ReadinessGraph.new chain) 1 chainHash
        (withDefinition chainHistory chain chainHash) chainQueries) :=
  ⟨by decide +kernel,
    @cursor_answers_plain_scan default chain chainHash chainHistory 0 chainQueries
      (by simp [chainQueries]) (by simp [chainQueries, chainHistory])⟩

end HistoryPrefix

end Woml
