import Woml.State.Proof.Identity

/-!
# The durable user state is linearizable

Every run of the store, by any handles, is a run of one map per workflow that executes the calls of
the workflow in the order of their commits (`Linear`). The row of a change carries the tables from
the operation (`Performed`) to the next state (`Holds.record`), and answers the change when it is
executed again (`executed_again`).
-/

namespace Woml

open Checked StateStep StateHistory StateTables StateMap

section
variable [StateHost] {command : StateCommand} {now : String}

namespace StateTables

variable {t t' : StateTables} {scope key : String} {m m' : StateMap} {vr : Option Nat}

/-! ## The rows of the changes -/

omit [StateHost] in
theorem mem_committedVersions {v : Nat} {kd : String} :
    v ∈ t.committedVersions scope kd ↔ ∃ ok stored,
      t.mutations.get? ok = some stored ∧ stored.scopeDigest = scope ∧
        stored.keyDigest = kd ∧ stored.committedVersion = some v := by
  simp only [committedVersions, List.mem_filterMap, SortedMap.mem_values]
  constructor
  · rintro ⟨stored, ⟨ok, hg⟩, hv⟩
    split at hv
    · rename_i hr
      exact ⟨ok, stored, hg, hr.1, hr.2, hv⟩
    · cases hv
  · rintro ⟨ok, stored, hg, hs, hk, hv⟩
    exact ⟨stored, ⟨ok, hg⟩, by rw [if_pos ⟨hs, hk⟩, hv]⟩

omit [StateHost] in
/-- A new row adds its version to the versions of its key. -/
theorem mem_committedVersions_insert {v : Nat} {kd ok : String} {row : StoredMutation}
    (hf : t.mutations.get? ok = none) (hm : t'.mutations = t.mutations.insert ok row) :
    v ∈ t'.committedVersions scope kd ↔ v ∈ t.committedVersions scope kd ∨
      row.scopeDigest = scope ∧ row.keyDigest = kd ∧ row.committedVersion = some v := by
  simp only [mem_committedVersions, hm]
  constructor
  · rintro ⟨other, stored, hg, hr⟩
    rcases SortedMap.of_get?_insert hg with ⟨-, rfl⟩ | ⟨-, hg⟩
    · exact .inr hr
    · exact .inl ⟨other, stored, hg, hr⟩
  · rintro (⟨other, stored, hg, hr⟩ | hr)
    · refine ⟨other, stored, ?_, hr⟩
      rw [SortedMap.get?_insert_ne _ (fun he => ?_), hg]
      rw [he, hf] at hg
      cases hg
    · exact ⟨ok, row, SortedMap.get?_insert_self _ _ _, hr⟩

omit [StateHost] in
theorem committedVersions_congr (h : t'.mutations = t.mutations) (s keyDigest : String) :
    t'.committedVersions s keyDigest = t.committedVersions s keyDigest := by
  rw [committedVersions, h, committedVersions]

theorem Live.congr (h : Live t scope m) (he : t'.scopeEntries scope = t.scopeEntries scope)
    (hq : t'.quotas.get? scope = t.quotas.get? scope) : Live t' scope m := by
  refine ⟨fun key => ?_, ?_⟩
  · rw [readEntry, he]
    exact h.cells key
  · rw [hq, usage_eq_use, he, ← usage_eq_use]
    exact h.quota

theorem Holds.congr (h : Holds t scope m) (hl : Live t' scope m)
    (hv : ∀ key' v, v ∈ t'.committedVersions scope (stateKeyDigest key') ↔
      v ∈ t.committedVersions scope (stateKeyDigest key')) : Holds t' scope m :=
  ⟨hl, ⟨fun key' v hm => h.given key' v ((hv key' v).1 hm),
    fun key' hpo => (hv key' _).2 (h.last key' hpo)⟩⟩

/-- The row of a change takes the versions to the new map. -/
theorem Holds.record (hsha : Function.Injective Host.sha256) (h : Holds t scope m)
    (hp : Performed t t' scope key m m' vr) {ok : String}
    {row : StoredMutation} {t'' : StateTables} (hf : t.mutations.get? ok = none)
    (hr : row.scopeDigest = scope ∧ row.keyDigest = stateKeyDigest key ∧ row.committedVersion = vr)
    (ht'' : t'' = { t' with mutations := t'.mutations.insert ok row }) :
    Holds t'' scope m' := by
  obtain ⟨hs, hke, hvr⟩ := hr
  have hm : t''.mutations = t.mutations.insert ok row := by
    rw [ht'', ← hp.mutations]
  have hve (key' : String) (v : Nat) : v ∈ t''.committedVersions scope (stateKeyDigest key') ↔
        v ∈ t.committedVersions scope (stateKeyDigest key') ∨ key' = key ∧ vr = some v := by
    rw [mem_committedVersions_insert hf hm, hs, hke, hvr]
    simp only [true_and, (stateKeyDigest_injective hsha).eq_iff, eq_comm]
  have hli : Live t'' scope m' := hp.live.congr (by rw [ht'']; rfl) (by rw [ht''])
  refine ⟨hli, ⟨fun key' v hv => ?_, fun key' hpo => ?_⟩⟩
  · rcases hp.counts with ⟨hl, hg⟩ | ⟨hl, hn⟩
    · rw [hl]
      rcases (hve key' v).1 hv with hv | ⟨rfl, hv⟩
      · exact h.given key' v hv
      · obtain ⟨hpo, hle⟩ := hg v hv
        exact ⟨hpo, hle.le⟩
    · rw [hl]
      rcases (hve key' v).1 hv with hv | ⟨rfl, hv⟩
      · obtain ⟨hpo, hle⟩ := h.given key' v hv
        refine ⟨hpo, hle.trans ?_⟩
        by_cases hk : key' = key
        · rw [hk, Function.update_self]
          exact Nat.le_succ _
        · rw [Function.update_of_ne hk]
      · rw [Function.update_self]
        rw [hn] at hv
        cases hv
        exact ⟨Nat.succ_pos _, le_rfl⟩
  · rw [hve]
    rcases hp.counts with ⟨hl, -⟩ | ⟨hl, hn⟩
    · rw [hl] at hpo ⊢
      exact .inl (h.last key' hpo)
    · rw [hl] at hpo ⊢
      by_cases hk : key' = key
      · rw [hk, Function.update_self]
        exact .inr ⟨rfl, hn⟩
      · rw [Function.update_of_ne hk] at hpo ⊢
        exact .inl (h.last key' hpo)

/-- The other scopes are as they were. -/
theorem Holds.elsewhere {s' : String} {m'' : StateMap} (h : Holds t s' m'')
    (hn : s' ≠ scope) (hp : Performed t t' scope key m m' vr) {t'' : StateTables}
    (ht'' : t'' = t' ∨ ∃ ok row, t.mutations.get? ok = none ∧ row.scopeDigest = scope ∧
      t'' = { t' with mutations := t'.mutations.insert ok row }) :
    Holds t'' s' m'' := by
  obtain ⟨he, hq⟩ := hp.elsewhere s' hn
  rcases ht'' with rfl | ⟨ok, row, hf, hs, rfl⟩
  · refine h.congr (h.toLive.congr he hq) fun key' v => ?_
    rw [committedVersions_congr hp.mutations]
  · refine h.congr (h.toLive.congr he hq) fun key' v => ?_
    rw [mem_committedVersions_insert hf (by rw [← hp.mutations]), hs]
    exact or_iff_left fun hr => hn hr.1.symm

/-! ## A call that no row answers -/

/-- The row that a call leaves for its result. -/
structure Answers (stored : StoredMutation) (call : PreparedStateCall)
    (identity : MutationIdentity) (result : Value) : Prop where
  scope : stored.scopeDigest = call.scope
  operationName : stored.operationName = identity.operationName
  operation : stored.operation = call.operation
  keyDigest : stored.keyDigest = call.keyDigest
  inputDigest : stored.inputDigest = identity.inputDigest
  result : Host.canonicalJson result = .ok stored.resultJson
  resultDigest : stored.resultDigest =
    domainDigest "woml.state-result\x00v1\x00" stored.resultJson

variable {call : PreparedStateCall}

/-- What the execution of a call does. -/
structure Executed (t : StateTables) (call : PreparedStateCall) (nowMillis : Int)
    (execution : DurableStateExecution) (t' : StateTables) (m m' : StateMap) : Prop where
  fresh : execution.duplicate = false
  run : ∃ command now data, call.command = some command ∧
    StateHost.stateTimestamp nowMillis = some now ∧ command.run now m = some (data, m') ∧
    execution.result = data.result call.operation
  holds : Holds t' call.scope m'
  elsewhere : ∀ {scope m}, scope ≠ call.scope → Holds t scope m → Holds t' scope m
  kept : ∀ {operationKey stored}, t.mutations.get? operationKey = some stored →
    t'.mutations.get? operationKey = some stored
  rows : ∀ {operationKey stored}, t'.mutations.get? operationKey = some stored →
    t.mutations.get? operationKey = some stored ∨
      ∃ identity, Answers stored call identity execution.result
  answers : ∀ identity, call.mutation = some identity →
    ∃ stored, t'.mutations.get? identity.operationKey = some stored ∧
      Answers stored call identity execution.result

theorem run_of_read {data : StateData} (hr : call.operation.isMutation = false)
    (hc : call.command = some command) (hru : command.run now m = some (data, m')) : m' = m := by
  unfold PreparedStateCall.command at hc
  split at hc <;> rename_i ho <;> rw [ho] at hr <;> cases hr
  all_goals
    cases hc
    simp only [StateCommand.run] at hru
    split at hru <;> simp_all

section
variable (hsha : Function.Injective Host.sha256)
include hsha

/-- The row of a call takes the tables to the new map, keeps the other scopes and rows, and answers
the call. -/
theorem Holds.recordMutation (h : Holds t call.scope m) (hc : call.Checked)
    (hfr : ∀ identity, call.mutation = some identity →
      t.mutations.get? identity.operationKey = none) {nm : Int} {data : StateData}
    (hcm : call.command = some command) (hno : StateHost.stateTimestamp nm = some now)
    (hru : command.run now m = some (data, m'))
    (hp : Performed t t' call.scope call.key m m' vr)
    {execution : DurableStateExecution} {text : List Nat} (hn : execution.duplicate = false)
    (hre : execution.result = data.result call.operation)
    (ht : Host.canonicalJson execution.result = .ok text)
    (hd : execution.resultDigest = domainDigest "woml.state-result\x00v1\x00" text) :
    Executed t call nm execution
      (t'.recordMutation call text execution.resultDigest vr) m m' := by
  unfold StateTables.recordMutation
  cases hm : call.mutation with
  | none =>
    have hr : call.operation.isMutation = false := by rw [← hc.mutation, hm]; rfl
    obtain rfl := run_of_read hr hcm hru
    refine ⟨hn, ⟨command, now, data, hcm, hno, hru, hre⟩, h.congr hp.live fun key' v => ?_,
      fun hne ho => ho.elsewhere hne hp (.inl rfl), fun hg => ?_, fun hg => ?_,
      by simp [hm]⟩
    · rw [committedVersions_congr hp.mutations]
    · rw [hp.mutations, hg]
    · rw [hp.mutations] at hg
      exact .inl hg
  | some identity =>
    have hf := hfr identity hm
    have ha : Answers ⟨call.scope, identity.operationName, call.operation, call.keyDigest,
        identity.inputDigest, text, execution.resultDigest, vr⟩ call identity execution.result :=
      ⟨rfl, rfl, rfl, rfl, rfl, ht, hd⟩
    refine ⟨hn, ⟨command, now, data, hcm, hno, hru, hre⟩,
      h.record hsha hp hf ⟨rfl, hc.digest, rfl⟩ rfl,
      fun hne ho => ho.elsewhere hne hp (.inr ⟨_, _, hf, rfl, rfl⟩),
      fun {operationKey stored} hg => ?_, fun hg => ?_, fun other ho => ?_⟩
    · show (t'.mutations.insert _ _).get? operationKey = some stored
      rw [hp.mutations, SortedMap.get?_insert_ne _ (fun he => ?_), hg]
      rw [he, hf] at hg
      cases hg
    · rcases SortedMap.of_get?_insert hg with ⟨-, rfl⟩ | ⟨-, hg⟩
      · exact .inr ⟨identity, ha⟩
      · exact .inl (hp.mutations ▸ hg)
    · cases hm.symm.trans ho
      exact ⟨_, SortedMap.get?_insert_self _ _ _, ha⟩

theorem Holds.executeNew (hj : JsonLaws) (h : Holds t call.scope m) (hc : call.Checked)
    (hf : ∀ identity, call.mutation = some identity → t.mutations.get? identity.operationKey = none)
    (ls : DurableStateLimits) (nm : Int) :
    (∃ error, t.executeNew ls call nm = .error error ∧
      (StateHost.stateTimestamp nm = none ∨ m.Excuses call error)) ∨
    ∃ execution t' m', t.executeNew ls call nm = .ok (execution, t') ∧
      Executed t call nm execution t' m m' := by
  unfold StateTables.executeNew
  cases hn : StateHost.stateTimestamp nm with
  | none => exact .inl ⟨.storeCorrupt, rfl, .inl rfl⟩
  | some now =>
    simp only [orFail, ok_bind]
    rcases h.perform hj hc ls now with ⟨error, he, hex⟩ |
      ⟨data, vr, bytes, t', command, m', hp, hcm, hru, hpe⟩
    · exact .inl ⟨error, by rw [he]; rfl, .inr hex⟩
    simp only [hp, ok_bind]
    cases hr : canonicalString (data.result call.operation) with
    | error error =>
      obtain rfl := canonicalString_eq_error hr
      exact .inl ⟨.valueInvalid, rfl, .inr (.of_ne ⟨by rintro ⟨⟩, by rintro ⟨⟩⟩)⟩
    | ok text =>
      exact .inr ⟨_, _, m', rfl, h.recordMutation hsha hc hf hcm hn hru hpe
        rfl rfl (canonicalString_eq_ok.1 hr) rfl⟩

end

end StateTables

/-! ## Runs -/

theorem StateCommand.run_extends {m m' : StateMap} {data : StateData}
    (h : command.run now m = some (data, m')) : m.Extends m' := by
  cases command with
  | get | has =>
    simp only [StateCommand.run] at h
    split at h <;> cases h <;> exact .refl m
  | set key v ifVersion =>
    simp only [StateCommand.run, Option.bind_eq_bind, Option.bind_eq_some_iff] at h
    obtain ⟨_, _, _, _, _, rfl⟩ := h
    exact VersionedMap.Extends.change m key _
  | delete key ifVersion =>
    simp only [StateCommand.run, Option.bind_eq_bind, Option.bind_eq_some_iff] at h
    obtain ⟨_, _, h⟩ := h
    split at h <;> cases h
    · exact VersionedMap.Extends.change m key _
    · exact .refl m
  | increment key a ifVersion =>
    simp only [StateCommand.run, Option.bind_eq_bind, Option.bind_eq_some_iff] at h
    obtain ⟨_, _, _, _, _, _, _, rfl⟩ := h
    exact VersionedMap.Extends.change m key _
  | setIfAbsent key v =>
    simp only [StateCommand.run] at h
    split at h
    · cases h
      exact .refl m
    · simp only [Option.bind_eq_bind, Option.bind_eq_some_iff] at h
      obtain ⟨_, _, _, rfl⟩ := h
      exact VersionedMap.Extends.change m key _

variable {location : String}
variable {call : PreparedStateCall} {t : StateTables} {s : StateStep location}
  {h : StateHistory location} {maps : String → StateMap}

open StateTables in
/-- The tables of a history stand for the maps that execute its commits. -/
structure Represents (h : StateHistory location) (maps : String → StateMap) : Prop where
  replays : ∀ workflowId, Replays (h.executed workflowId) (maps workflowId)
  holds : ∀ workflowId, Holds h.tables (stateScope location workflowId) (maps workflowId)
  answers : ∀ c ∈ h.commits, c.execution.duplicate = false → ∀ call, c.step.prepared = .ok call →
    ∀ identity, call.mutation = some identity → ∃ stored,
      h.tables.mutations.get? identity.operationKey = some stored ∧
        Answers stored call identity c.execution.result
  rows : ∀ {operationKey stored}, h.tables.mutations.get? operationKey = some stored →
    ∃ call identity result, Answers stored call identity result

theorem StateStep.preparedFor (h : s.prepared = .ok call) :
    PreparedFor location s.workflowId s.call call := by
  have hf := prepare_eq_ok h
  rwa [s.located] at hf

theorem StateStep.execute_eq (h : s.prepared = .ok call) :
    s.execute t = t.executePrepared s.handle.limits call s.nowMillis := by
  unfold StateStep.execute DurableStateStore.execute
  rw [show s.handle.prepare s.workflowId s.call = .ok call from h]
  rfl

theorem Represents.initial : Represents ({} : StateHistory location) fun _ => .empty :=
  ⟨fun _ => .nil, fun _ => ⟨⟨fun _ => .none, .inr ⟨rfl, rfl⟩⟩, ⟨nofun, nofun⟩⟩, nofun, nofun⟩

/-- A row answers its change with the result that was committed, and refuses any other one. -/
theorem answer_of_row (hj : JsonLaws) {s : StoredMutation} {c' : PreparedStateCall}
    {i' : MutationIdentity} {r : Value} (h : Answers s c' i' r) (call : PreparedStateCall)
    (i : MutationIdentity) : ∃ execution, execution.duplicate = true ∧
      Host.canonicalJson execution.result = Host.canonicalJson r ∧
      (answer s call i = .error .operationIdentityConflict ∨ answer s call i = .ok execution) ∧
      (Answers s call i r → answer s call i = .ok execution) := by
  obtain ⟨n, hp, hc⟩ := hj.parses h.result
  refine ⟨⟨n, true, s.resultDigest, s.committedVersion, none⟩, rfl, hc.trans h.result.symm, ?_⟩
  simp only [answer, failIf, hp, orFail, canonicalString_eq_ok.2 hc, ok_bind, ← h.resultDigest,
    ne_eq, not_true_eq_false]
  refine ⟨?_, fun ha => ?_⟩
  · split
    · exact .inl rfl
    · exact .inr rfl
  · simp [ha.scope, ha.operationName, ha.operation, ha.keyDigest, ha.inputDigest, ok_bind]

namespace StateHistory

omit [StateHost] in
theorem executed_append (t : StateTables) (cs : List (StateCommit location))
    (c : StateCommit location) (wi : String) :
    executed ⟨t, cs ++ [c]⟩ wi = executed ⟨t, cs⟩ wi ++
      if c.step.workflowId = wi ∧ c.execution.duplicate = false then [c] else [] := by
  simp only [executed, List.filter_append, List.filter_singleton, Bool.cond_eq_ite,
    Bool.and_eq_true, decide_eq_true_eq, Bool.not_eq_true']

end StateHistory

/-- The operations that may expect a version. -/
def StateOperation.expectsVersion : StateOperation → Bool
  | .set | .delete | .increment => true
  | _ => false

theorem StateTables.perform_of_mismatch {ls : DurableStateLimits}
    (ho : call.operation.expectsVersion = true)
    (h : enforceVersion call.input (t.readEntry call.scope call.key) = .error .conflict) :
    t.perform ls call now = .error .conflict := by
  unfold StateTables.perform
  cases hop : call.operation <;> rw [hop] at ho <;> cases ho <;>
    simp [h]

theorem StateTables.executePrepared_of_fresh {ls : DurableStateLimits} {nowMillis : Int}
    (h : ∀ identity, call.mutation = some identity → t.mutations.get? identity.operationKey = none) :
    t.executePrepared ls call nowMillis = t.executeNew ls call nowMillis := by
  unfold executePrepared
  cases hm : call.mutation with
  | none => rfl
  | some identity => simp [h identity hm]

section
variable (hsha : Function.Injective Host.sha256) (hjson : JsonLaws) (hh : Represents h maps)
include hsha hjson hh

/-- What a call does: it fails, or a row answers it, or it is executed. -/
theorem Represents.execute (s : StateStep location) :
    (∃ error, s.execute h.tables = .error error ∧
      (error = .storeCorrupt → StateHost.stateTimestamp s.nowMillis = none ∨
        ∃ key, maxStateSafeInteger ≤ (maps s.workflowId).last key)) ∨
    (∃ execution, s.execute h.tables = .ok (execution, h.tables) ∧ execution.duplicate = true) ∨
    ∃ call execution t' m', s.prepared = .ok call ∧ s.execute h.tables = .ok (execution, t') ∧
      StateTables.Executed h.tables call s.nowMillis execution t' (maps s.workflowId) m' := by
  cases hp : s.prepared with
  | error error =>
    refine .inl ⟨error, ?_, fun heq => ?_⟩
    · unfold StateStep.execute DurableStateStore.execute
      rw [show s.handle.prepare s.workflowId s.call = .error error from hp]
      rfl
    · subst heq
      rcases prepare_eq_error hp with h | h | h | h <;> cases h
  | ok call =>
    have hf := preparedFor hp
    have hho := hh.holds s.workflowId
    rw [← hf.scope] at hho
    rw [execute_eq hp]
    by_cases hfr : ∀ identity, call.mutation = some identity →
        h.tables.mutations.get? identity.operationKey = none
    · rw [executePrepared_of_fresh hfr]
      rcases hho.executeNew hsha hjson hf.checked hfr s.handle.limits s.nowMillis with
        ⟨error, her, hex⟩ | ⟨execution, t', m', ho, he⟩
      · exact .inl ⟨error, her, fun heq => hex.imp_right fun hex => ⟨_, hex.corrupt heq⟩⟩
      · exact .inr (.inr ⟨call, execution, t', m', rfl, ho, he⟩)
    · push Not at hfr
      obtain ⟨identity, hm, hs⟩ := hfr
      obtain ⟨stored, hs⟩ := Option.ne_none_iff_exists'.1 hs
      obtain ⟨c', i', result, han⟩ := hh.rows hs
      obtain ⟨execution, hd, -, ha | ha, -⟩ := answer_of_row hjson han call identity <;>
        simp only [executePrepared, hm, hs, ha]
      · exact .inl ⟨.operationIdentityConflict, rfl, nofun⟩
      · exact .inr (.inl ⟨execution, rfl, hd⟩)

/-- **What a step keeps**: the tables stand for maps that only went on. -/
theorem Represents.step (s : StateStep location) : ∃ ms', Represents (h.step s) ms' ∧
    ∀ wi, (maps wi).Extends (ms' wi) := by
  rcases hh.execute hsha hjson s with ⟨error, her, -⟩ | ⟨execution, ho, hd⟩ |
    ⟨call, execution, t', m', hp, ho, he⟩
  · refine ⟨maps, ?_, fun _ => .refl _⟩
    rw [StateHistory.step, her]
    exact hh
  · refine ⟨maps, ?_, fun _ => .refl _⟩
    rw [StateHistory.step, ho]
    refine ⟨fun wi => ?_, hh.holds, fun c hc hf => ?_, hh.rows⟩
    · rw [executed_append, if_neg (by simp [hd]), List.append_nil]
      exact hh.replays wi
    · rcases List.mem_append.1 hc with hc | hc
      · exact hh.answers c hc hf
      · obtain rfl := List.mem_singleton.1 hc
        cases hd.symm.trans hf
  · obtain ⟨command, now, data, hcm, hn, hr, hre⟩ := he.run
    have hs := (preparedFor hp).scope
    refine ⟨Function.update maps s.workflowId m', ?_, fun wi => ?_⟩
    · rw [StateHistory.step, ho]
      refine ⟨fun wi => ?_, fun wi => ?_, fun c hc hf => ?_, fun hg => ?_⟩
      · rw [executed_append]
        by_cases hw : wi = s.workflowId
        · subst hw
          rw [if_pos ⟨rfl, he.fresh⟩, Function.update_self]
          exact .snoc (hh.replays _) hp hcm hn hr hre
        · rw [if_neg (fun heq => hw heq.1.symm), List.append_nil, Function.update_of_ne hw]
          exact hh.replays wi
      · by_cases hw : wi = s.workflowId
        · subst hw
          rw [Function.update_self, ← hs]
          exact he.holds
        · rw [Function.update_of_ne hw]
          refine he.elsewhere (fun heq => hw ?_) (hh.holds wi)
          exact stateScope_injective hsha location (heq.trans hs)
      · rcases List.mem_append.1 hc with hc | hc
        · intro c' hc' identity hi
          obtain ⟨stored, hg, ha⟩ := hh.answers c hc hf c' hc' identity hi
          exact ⟨stored, he.kept hg, ha⟩
        · obtain rfl := List.mem_singleton.1 hc
          intro c' hc' identity hi
          cases hp.symm.trans hc'
          exact he.answers identity hi
      · rcases he.rows hg with hg | ⟨identity, ha⟩
        · exact hh.rows hg
        · exact ⟨call, identity, _, ha⟩
    · by_cases hw : wi = s.workflowId
      · rw [hw, Function.update_self]
        exact StateCommand.run_extends hr
      · rw [Function.update_of_ne hw]
        exact .refl _

/-- **What a run keeps.** -/
theorem Represents.run (ss : List (StateStep location)) : ∃ ms', Represents (h.run ss) ms' ∧
    ∀ wi, (maps wi).Extends (ms' wi) := by
  induction ss generalizing h maps with
  | nil => exact ⟨maps, hh, fun _ => .refl _⟩
  | cons s ss ih =>
    obtain ⟨maps₁, hs, he⟩ := hh.step hsha hjson s
    obtain ⟨ms', hr, he'⟩ := ih hs
    exact ⟨ms', hr, fun wi => (he wi).trans (he' wi)⟩

/-! ## Executing again, and expected versions -/

/-- A change that was executed is answered when it is executed again. -/
theorem Represents.executed_again {c : StateCommit location} (hc : c ∈ h.commits)
    (hfr : c.execution.duplicate = false) (hca : c.step.prepared = .ok call)
    (hch : call.operation.isMutation = true) (hw : s.workflowId = c.step.workflowId)
    (hi : s.call.input = c.step.call.input)
    (hk : s.call.identity.operationKey = c.step.call.identity.operationKey)
    {c' : PreparedStateCall} (hc' : s.prepared = .ok c') :
    ∃ execution, s.execute h.tables = .ok (execution, h.tables) ∧ execution.duplicate = true ∧
      Host.canonicalJson execution.result = Host.canonicalJson c.execution.result := by
  have hf := preparedFor hca
  have hf' := preparedFor hc'
  rw [hw] at hf'
  obtain rfl := hf.same hsha hf' hi hk
  have hm := hf.checked.mutation
  rw [hch, Option.isSome_iff_exists] at hm
  obtain ⟨identity, hm⟩ := hm
  obtain ⟨stored, hg, han⟩ := hh.answers c hc hfr c' hca identity hm
  obtain ⟨execution, hd, hr, -, ha⟩ := answer_of_row hjson han c' identity
  refine ⟨execution, ?_, hd, hr⟩
  rw [execute_eq hc', executePrepared, hm]
  simp only [hg, ha han]
  rfl

/-- A change that is new conflicts exactly if its version is not the expected one. -/
theorem Represents.conflict_iff (hc : s.prepared = .ok call)
    (hop : call.operation.expectsVersion = true)
    (hne : h.tables.mutations.get? s.call.identity.operationKey = none)
    (hno : (StateHost.stateTimestamp s.nowMillis).isSome = true) :
    s.execute h.tables = .error .conflict ↔
      (maps s.workflowId).expects call.key call.ifVersion = false := by
  have hf := preparedFor hc
  have hho := hh.holds s.workflowId
  rw [← hf.scope] at hho
  have hfr (identity : MutationIdentity) (hi : call.mutation = some identity) :
      h.tables.mutations.get? identity.operationKey = none := by
    rw [(hf.identity identity hi).1]
    exact hne
  obtain ⟨now, hno⟩ := Option.isSome_iff_exists.1 hno
  rw [execute_eq hc, executePrepared_of_fresh hfr]
  constructor
  · intro hcf
    rcases hho.executeNew hsha hjson hf.checked hfr s.handle.limits s.nowMillis with
      ⟨error, her, hn | hex⟩ | ⟨execution, t', m', ho, -⟩
    · cases hno.symm.trans hn
    · exact hex.conflict (Except.error.inj (her.symm.trans hcf))
    · cases ho.symm.trans hcf
  · intro hep
    have he := hho.enforceVersion
    rw [hep] at he
    simp [StateTables.executeNew, hno, orFail, perform_of_mismatch hop he]

end

/-- The expected version, by the row of the value. -/
def Expected (current : Option StateEntry) (version : Nat) : Prop :=
  version = 0 ∧ current = none ∨ ∃ entry, current = some entry ∧ entry.version = version

theorem StateTables.Live.expects_iff {s : String} {m : StateMap} (h : Live t s m)
    (key : String) (version : Nat) :
    m.expects key (some version) = true ↔ Expected (t.readEntry s key) version := by
  rcases h.cell_cases key with ⟨he, hc⟩ | ⟨entry, cell, he, hc, hs⟩
  · cases version <;> simp [expects, Expected, he, hc]
  · obtain ⟨hv, hp⟩ := m.current hc
    cases version with
    | zero => simp [expects, Expected, he, hc, hs.version, hv, hp.ne']
    | succ n => simp [expects, Expected, he, hc, hs.version]

/-- **The durable user state is one versioned map per workflow.** For every run of calls by any
handles of a store: a workflow's map that executes the calls of the workflow in the order of their
commits gives the results that they had, and its cells are the rows of the workflow
(`linearizes`). A change that is executed again is answered with its result, and nothing changes
(`again`). The versions of a key only grow, and a key that has one version at two times had one row
at all times in between (`versions`). A change that expects a version conflicts exactly if it is
not the current one (`conflicts`). A call that fails changes nothing (`failed`), never because the
tables are damaged unless the clock or the versions are out of range (`intact`), and no call of
another workflow changes what a workflow has (`separate`). -/
structure Linearizable (steps : List (StateStep location)) : Prop where
  linearizes : ∀ workflowId, ∃ m, Replays ((StateHistory.run {} steps).executed workflowId) m ∧
    ∀ key, Option.Rel Stands
      ((StateHistory.run {} steps).tables.readEntry (stateScope location workflowId) key) (m.cell key)
  again : ∀ c ∈ (StateHistory.run {} steps).commits, c.execution.duplicate = false →
    ∀ call, c.step.prepared = .ok call → call.operation.isMutation = true →
    ∀ s : StateStep location, s.workflowId = c.step.workflowId →
    s.call.input = c.step.call.input →
    s.call.identity.operationKey = c.step.call.identity.operationKey → s.prepared.isOk = true →
    ∃ execution, s.execute (StateHistory.run {} steps).tables =
        .ok (execution, (StateHistory.run {} steps).tables) ∧ execution.duplicate = true ∧
      Host.canonicalJson execution.result = Host.canonicalJson c.execution.result
  versions : ∀ later later' workflowId key entry entry'',
    (StateHistory.run {} steps).tables.readEntry (stateScope location workflowId) key = some entry →
    (StateHistory.run {} (steps ++ later ++ later')).tables.readEntry
      (stateScope location workflowId) key = some entry'' →
    entry.version ≤ entry''.version ∧ (entry''.version = entry.version →
      (StateHistory.run {} (steps ++ later)).tables.readEntry (stateScope location workflowId) key =
        some entry ∧ entry'' = entry)
  conflicts : ∀ (s : StateStep location) call version, s.prepared = .ok call →
    call.operation.expectsVersion = true → call.ifVersion = some version →
    (StateHistory.run {} steps).tables.mutations.get? s.call.identity.operationKey = none →
    (StateHost.stateTimestamp s.nowMillis).isSome = true →
    (s.execute (StateHistory.run {} steps).tables = .error .conflict ↔
      ¬Expected ((StateHistory.run {} steps).tables.readEntry
        (stateScope location s.workflowId) call.key) version)
  failed : ∀ (s : StateStep location) error,
    s.execute (StateHistory.run {} steps).tables = .error error →
    StateHistory.run {} (steps ++ [s]) = StateHistory.run {} steps
  intact : ∀ s : StateStep location,
    s.execute (StateHistory.run {} steps).tables = .error .storeCorrupt →
    StateHost.stateTimestamp s.nowMillis = none ∨
      ∃ key, ∃ v ∈ (StateHistory.run {} steps).tables.committedVersions
        (stateScope location s.workflowId) (stateKeyDigest key), maxStateSafeInteger ≤ v
  separate : ∀ (s : StateStep location) workflowId key, s.workflowId ≠ workflowId →
    (StateHistory.run {} (steps ++ [s])).tables.readEntry (stateScope location workflowId) key =
      (StateHistory.run {} steps).tables.readEntry (stateScope location workflowId) key

theorem StateTables.Live.cell_of_row {s key : String} {m : StateMap} (h : Live t s m)
    {e : StateEntry} (he : t.readEntry s key = some e) :
    ∃ cell, m.cell key = some cell ∧ Stands e cell := by
  rcases h.cell_cases key with ⟨hn, -⟩ | ⟨e', cell, hs, hc, hst⟩
  · cases hn.symm.trans he
  · cases hs.symm.trans he
    exact ⟨cell, hc, hst⟩

theorem StateTables.Live.readEntry_eq {t t' : StateTables} {s key : String} {m m' : StateMap}
    (h : Live t s m) (h' : Live t' s m') (hc : m'.cell key = m.cell key) :
    t'.readEntry s key = t.readEntry s key := by
  rcases h.cell_cases key with ⟨he, hn⟩ | ⟨entry, cell, he, hs, hst⟩ <;>
    rcases h'.cell_cases key with ⟨he', hn'⟩ | ⟨e', c', he', hs', hst'⟩
  · rw [he, he']
  · cases (hs'.symm.trans hc).trans hn
  · cases (hn'.symm.trans hc).trans hs
  · cases (hs'.symm.trans hc).trans hs
    rw [he, he', hst.unique hst']

theorem StateHistory.run_append (h : StateHistory location)
    (ss later : List (StateStep location)) : h.run (ss ++ later) = (h.run ss).run later :=
  List.foldl_append

theorem StateHistory.run_snoc (h : StateHistory location) (ss : List (StateStep location))
    (s : StateStep location) : h.run (ss ++ [s]) = (h.run ss).step s :=
  h.run_append ss [s]

theorem durable_state_linearizable (hsha : Function.Injective Host.sha256) (hjson : JsonLaws)
    (steps : List (StateStep location)) : Linearizable steps := by
  obtain ⟨maps, hh, -⟩ := Represents.initial.run hsha hjson steps
  refine ⟨fun workflowId => ⟨_, hh.replays workflowId, (hh.holds workflowId).cells⟩,
    fun c hc hfr call hca hch s hw hi hk hck => ?_,
    fun later later' workflowId key entry entry'' hen he'' => ?_,
    fun s call version hca hop hv hnw hn => ?_, fun s error her => ?_,
    fun s hco => ?_, fun s workflowId key hne => ?_⟩
  · obtain ⟨call', hc'⟩ := exists_ok hck
    exact hh.executed_again hsha hjson hc hfr hca hch hw hi hk hc'
  · obtain ⟨maps', hh', het⟩ := hh.run hsha hjson later
    obtain ⟨maps'', hh'', he'⟩ := hh'.run hsha hjson later'
    rw [← run_append] at hh'
    rw [← run_append, ← run_append, ← List.append_assoc] at hh''
    obtain ⟨cell, hce, hs⟩ := (hh.holds workflowId).cell_of_row hen
    obtain ⟨cell'', hc'', hs''⟩ := (hh''.holds workflowId).cell_of_row he''
    have hf := het workflowId
    have hse := he' workflowId
    rw [hs.version, hs''.version]
    refine ⟨(hf.trans hse).version_le hce hc'', fun he => ?_⟩
    obtain ⟨hm, rfl⟩ := hf.unchanged hse hce hc'' he
    refine ⟨?_, hs''.unique hs⟩
    rw [(hh.holds workflowId).readEntry_eq (hh'.holds workflowId).toLive (hm.trans hce.symm), hen]
  · rw [hh.conflict_iff hsha hjson hca hop hnw hn, hv,
      ← (hh.holds s.workflowId).expects_iff call.key version, Bool.not_eq_true]
  · rw [run_snoc, StateHistory.step, her]
  · rcases hh.execute hsha hjson s with ⟨error, her, hex⟩ | ⟨execution, hok, -⟩ |
      ⟨_, execution, t', m', -, hok, -⟩
    · rcases hex (Except.error.inj (her.symm.trans hco)) with hn | ⟨key, hl⟩
      · exact .inl hn
      · exact .inr ⟨key, _, (hh.holds s.workflowId).last key (lt_of_lt_of_le (by decide) hl), hl⟩
    · cases hok.symm.trans hco
    · cases hok.symm.trans hco
  · rw [run_snoc, StateHistory.step]
    rcases hh.execute hsha hjson s with ⟨error, her, -⟩ | ⟨execution, hok, -⟩ |
      ⟨call, execution, t', m', hp, hok, hec⟩
    · rw [her]
    · rw [hok]
    · have ho := hec.elsewhere (fun heq => hne ?_) (hh.holds workflowId)
      · rw [hok]
        exact (hh.holds workflowId).readEntry_eq ho.toLive rfl
      · exact (stateScope_injective hsha location (heq.trans (preparedFor hp).scope)).symm

end

/-! ## A store with one value -/

namespace OneValue

/-- The text of some bytes. -/
def textOf (bytes : List Nat) : Option String := String.fromUTF8? ⟨(bytes.map UInt8.ofNat).toArray⟩

theorem textOf_utf8 (s : String) : textOf (utf8 s) = some s := by
  have hb : (⟨((utf8 s).map UInt8.ofNat).toArray⟩ : ByteArray) = s.toByteArray := by
    apply ByteArray.ext
    simp [utf8, Function.comp_def]
  rw [textOf, hb]
  unfold String.fromUTF8?
  rw [dif_pos (by simp [String.isValidUTF8])]
  rfl

def naturalOf (digits : List Char) : Option Nat :=
  if digits.all Char.isDigit then some (Nat.ofDigitChars 10 digits 0) else none

theorem naturalOf_repr (n : Nat) : naturalOf n.repr.toList = some n := by
  rw [naturalOf, if_pos (List.all_eq_true.2 (Text.isDigit_repr n)), Nat.toList_repr,
    Nat.ofDigitChars_toDigits (by decide) (by decide)]

def integerOf (text : String) : Option Int :=
  match text.toList with
  | '-' :: digits => (naturalOf digits).map fun n => -n
  | digits => (naturalOf digits).map fun n => n

theorem integerOf_toString (n : Int) : integerOf (toString n) = some n := by
  cases n with
  | ofNat m =>
    show integerOf m.repr = _
    unfold integerOf
    split
    · rename_i digits h
      have hn := naturalOf_repr m
      rw [h, naturalOf] at hn
      cases hn
    · rw [naturalOf_repr]
      rfl
  | negSucc m =>
    have h : (toString (Int.negSucc m)).toList = '-' :: (m + 1).repr.toList := by
      show ("-" ++ (m + 1).repr).toList = _
      rw [String.toList_append]
      rfl
    rw [integerOf, h]
    simp only [naturalOf_repr]
    rfl

def requestText : String :=
  "\x7b\"contract\":\"woml.state\",\"contractVersion\":1,\"input\":\x7b\"key\":\"color\"," ++
    "\"value\":\"blue\"\x7d,\"kind\":\"request\",\"operation\":\"set\"\x7d"

def resultText : String :=
  "\x7b\"contract\":\"woml.state\",\"contractVersion\":1,\"data\":\x7b\"stored\":true," ++
    "\"updatedAt\":\"1970-01-01T00:00:00.000Z\",\"version\":1\x7d,\"kind\":\"result\"," ++
    "\"operation\":\"set\"\x7d"

def request : Value :=
  .object [("contract", .string "woml.state"), ("contractVersion", .int 1),
    ("kind", .string "request"), ("operation", .string "set"),
    ("input", .object [("key", .string "color"), ("value", .string "blue")])]

def result : Value := (StateData.stored 1 "1970-01-01T00:00:00.000Z").result .set

def stepKey : String := "sha256:0000000000000000000000000000000000000000000000000000000000000000"

/-- What is digested for the key of the operation. -/
def operationBytes : List Nat :=
  utf8 "woml.capability-operation\x00v1\x00" ++ utf8 stepKey ++ utf8 "\x00" ++
    utf8 "state.set.color"

def operationDigest : String := "9db1316a686cc3acdcf71329a64e59bec22a60808d8828cc1f8aac5f69a01e91"

/-- The digest of the operation, and another text for all other bytes. -/
def digestOf (bytes : List Nat) : String :=
  if bytes = operationBytes then operationDigest
  else String.ofList ("other:".toList ++ bytes.flatMap fun n => n.repr.toList ++ [','])

def encode : Value → Except String (List Nat)
  | .number (.posInt n) => .ok (utf8 (toString (n : Int)))
  | .number (.negInt n) => .ok (utf8 (toString n))
  | .string "blue" => .ok (utf8 "\"blue\"")
  | .object [_, _, ("kind", .string "request"), _, _] => .ok (utf8 requestText)
  | .object [_, _, ("kind", .string "result"), _, _] => .ok (utf8 resultText)
  | _ => .error "not recorded"

def decode (text : String) : Option Value :=
  match integerOf text with
  | some n => some (.int n)
  | none =>
    if text = requestText then some request
    else if text = resultText then some result
    else if text = "\"blue\"" then some (.string "blue")
    else none

@[reducible] def host : StateHost :=
  { (default : Host) with
    canonicalJson := encode
    sha256 := digestOf
    parseJson := fun bytes => (textOf bytes).bind decode
    stateTimestamp := fun _ => some "1970-01-01T00:00:00.000Z" }

theorem encode_integer (n : Int) : encode (.int n) = .ok (utf8 (toString n)) := by
  unfold Value.int
  split
  · rfl
  · rename_i hl
    show Except.ok (utf8 (toString ((n.toNat : Nat) : Int))) = _
    rw [Int.toNat_of_nonneg (not_lt.1 hl)]

theorem parse_utf8 (text : String) : (textOf (utf8 text)).bind decode = decode text := by
  rw [textOf_utf8, Option.bind_some]

theorem decode_integer (n : Int) : decode (toString n) = some (.int n) := by
  simp only [decode, integerOf_toString]

theorem decode_encoded {v : Value} {bytes : List Nat} (h : encode v = .ok bytes) :
    ∃ text n, bytes = utf8 text ∧ decode text = some n ∧ encode n = .ok bytes := by
  unfold encode at h
  split at h <;> cases h
  · exact ⟨_, _, rfl, decode_integer _, encode_integer _⟩
  · exact ⟨_, _, rfl, decode_integer _, encode_integer _⟩
  · exact ⟨_, .string "blue", rfl, rfl, rfl⟩
  · have hn : integerOf requestText = none := by decide +kernel
    exact ⟨_, request, rfl, by simp [decode, hn], rfl⟩
  · have hn : integerOf resultText = none ∧ resultText ≠ requestText := by decide +kernel
    exact ⟨_, result, rfl, by simp [decode, hn], rfl⟩

theorem json_laws : @JsonLaws host := by
  refine @JsonLaws.mk host (fun {value bytes} h => ?_) fun {n} _ =>
    ⟨(parse_utf8 _).trans (decode_integer n), encode_integer n⟩
  obtain ⟨text, nr, rfl, hd, he⟩ := decode_encoded h
  exact ⟨nr, (parse_utf8 text).trans hd, he⟩

theorem encoding_injective {l l' : List Nat}
    (h : (l.flatMap fun n => n.repr.toList ++ [',']) = l'.flatMap fun n => n.repr.toList ++ [',']) :
    l = l' := by
  have hc (n : Nat) : ',' ∉ n.repr.toList := fun h => absurd (Text.isDigit_repr n _ h) (by decide)
  induction l generalizing l' with
  | nil =>
    cases l' with
    | nil => rfl
    | cons m l' => simp at h
  | cons n l ih =>
    cases l' with
    | nil => simp at h
    | cons m l' =>
      simp only [List.flatMap_cons, List.append_assoc, List.singleton_append] at h
      obtain ⟨hr, hre⟩ := Text.append_cons_inj (hc n) (hc m) h
      rw [Text.repr_injective (String.toList_injective hr), ih hre]

theorem digest_injective : Function.Injective digestOf := by
  have ho (l : List Nat) : operationDigest ≠
      String.ofList ("other:".toList ++ l.flatMap fun n => n.repr.toList ++ [',']) := by
    intro h
    have hhe := congrArg (fun s : String => s.toList.head?) h
    exact absurd hhe (by simp [operationDigest])
  intro a b h
  unfold digestOf at h
  split at h <;> split at h
  · rename_i ha hb
    rw [ha, hb]
  · exact absurd h (ho b)
  · exact absurd h.symm (ho a)
  · exact encoding_injective (List.append_cancel_left (String.ofList_injective h))

def call : CapabilityCallRequest :=
  { contract := "woml.capability-call", contractVersion := 1, messageType := "request"
    invocationId := "invocation", callId := "call", runId := "run", nodeId := "paint"
    attemptNumber := 1, capability := "state", operation := "set", inputContractVersion := 1
    resultContractVersion := 1
    identity :=
      { mode := .named, stepIdempotencyKey := stepKey, operationName := "state.set.color"
        operationKey := "sha256:" ++ operationDigest }
    limits := { inputBytes := 1000, resultBytes := 1000, timeoutMs := 1000 }
    input := request }

def handle : DurableStateStore :=
  { stateLocationDigest := stepKey
    limits := { maxKeys := 10, maxBytes := 1000, maxValueBytes := 100 }
    keys := by decide, bytes := by decide, valueBytes := by decide }

def setColor : StateStep stepKey :=
  { handle, located := rfl, workflowId := "orders", call, nowMillis := 0 }

/-- The call is committed, with the first version of the key. -/
theorem color_linearizable :
    (@StateHistory.run host stepKey {} [setColor]).commits.length = 1 ∧
      @Linearizable host stepKey [setColor] :=
  ⟨by decide +kernel, @durable_state_linearizable host stepKey digest_injective json_laws _⟩

end OneValue

end Woml
