import Woml.Output.Process
import Woml.Output.Proof.Follow

/-!
# When the output of a process is drained

The stream of a process and the store each have a notion of a truncated lane. The store marks a lane
when a budget of its own is exceeded and refuses the next piece that exceeds one, which fails the
process: the stream does not know of the mark. So the output is drained if the store has room for
what the stream's own budget lets through (`drained`).
-/

namespace Woml

open Checked ActiveProcessStream SortedMap

namespace OperationalOutputStore

variable {s s' : OperationalOutputStore} {identity : OperationalIdentityV1}
  {body : OperationalBodyV1} {limits : OperationalOutputLimitsV1} {now : DateTime} {n : Nat}
  {r : OperationalRecordV1}

/-- Nothing but a budget keeps the store from taking `n` more records of an attempt. -/
structure Accepts (s : OperationalOutputStore) (identity : OperationalIdentityV1) (n : Nat) :
    Prop where
  valid : validateOutputIdentity identity = .ok ()
  active : ∀ row, s.runs.get? identity.runId = some row → row.active = true
  first : s.nextSequence ≠ 0
  room : s.nextSequence + n < 2 ^ 63
  fresh : ∀ {m r}, s.records.get? m = some r → m < s.nextSequence

/-- One record more. -/
structure Writes (s : OperationalOutputStore) (identity : OperationalIdentityV1)
    (body : OperationalBodyV1) (s' : OperationalOutputStore) : Prop where
  accepts : ∀ {n}, s.Accepts identity (n + 1) → s'.Accepts identity n
  bodies : (s'.records.values.map (·.body)).Perm (body :: s.records.values.map (·.body))
  budget : ∀ limits n, s'.exceededBudget limits identity n =
    s.exceededBudget limits identity (body.accountedBytes + n)

variable [OutputHost]

omit [OutputHost] in
theorem storeBytes_insert (runs : SortedMap String OperationalRunRow) (id : String)
    (record : OperationalRecordV1) :
    ((runs.insert id (accounted (runs.get? id) record)).values.map (·.retainedOutputBytes)).sum =
      (runs.values.map (·.retainedOutputBytes)).sum + record.body.accountedBytes := by
  rw [((runs.values_perm_insert id _).map _).sum_nat]
  cases hg : runs.get? id with
  | none =>
    rw [runs.erase_of_get?_none hg]
    simp [accounted, Nat.add_comm]
  | some row =>
    rw [((SortedMap.values_perm_erase hg).map _).sum_nat]
    simp only [List.map_cons, List.sum_cons, accounted, Option.map_some, Option.getD_some]
    omega

theorem Writes.of_insertRecord (ha : s.Accepts identity n) (hc : body.isClosed = false)
    (h : s.insertRecord ⟨identity, body⟩ none now = .ok (s', r)) : s.Writes identity body s' := by
  simp only [insertRecord, eq_ok_iff] at h
  obtain ⟨_, -, rfl, rfl⟩ := h
  have hn : s.records.get? s.nextSequence = none := by
    by_contra hg
    obtain ⟨r, hr⟩ := Option.ne_none_iff_exists'.1 hg
    exact absurd (ha.fresh hr) (lt_irrefl _)
  have hp := values_perm_cons hn fun k => s.records.get?_insert s.nextSequence k
    { identity, body, profile := operationalRecordProfile, deploymentId := s.deploymentId
      sequence := s.nextSequence, occurredAt := now }
  refine ⟨fun {n} h => ⟨h.valid, fun row hr => ?_, Nat.succ_ne_zero _, ?_, fun {m r} hg => ?_⟩,
    hp.map _, fun limits n => ?_⟩
  · rw [← Option.some.inj ((get?_insert_self ..).symm.trans hr)]
    simp [accounted, hc]
  · have := h.room
    show s.nextSequence + 1 + n < _
    omega
  · rcases of_get?_insert hg with ⟨rfl, -⟩ | ⟨-, hg⟩
    · exact Nat.lt_succ_self _
    · exact Nat.lt_succ_of_lt (h.fresh hg)
  · have hl := ((hp.filter (isLane identity)).map (·.body.accountedBytes)).sum_nat
    have hs := storeBytes_insert s.runs identity.runId
      { identity, body, profile := operationalRecordProfile, deploymentId := s.deploymentId
        sequence := s.nextSequence, occurredAt := now }
    rw [List.filter_cons_of_pos (by simp [isLane]), List.map_cons, List.sum_cons,
      Nat.add_comm] at hl
    simp only [exceededBudget, recordRemote, hl, hs, get?_insert_self, Option.map_some,
      Option.getD_some]
    simp only [accounted, Nat.add_assoc]

/-- Every valid record can be encoded on a page. -/
def Encodes : Prop :=
  ∀ record : OperationalRecordV1, validateDraft record.toOperationalRecordDraftV1 = .ok () →
    OutputHost.encodedLen record ≤ maxOperationalPageBytes

theorem exists_append (ls : OperationalOutputLimitsV1) (now : DateTime) (he : Encodes)
    (ha : s.Accepts identity (n + 1)) (hv : validateBody body = .ok ())
    (hc : body.isClosed = false) (ht : s.truncation ls ⟨identity, body⟩ = none) :
    ∃ s' r, s.append ls ⟨identity, body⟩ now = .ok (s', r) ∧ s.Writes identity body s' := by
  have hd : validateDraft ⟨identity, body⟩ = .ok () := by
    simp only [validateDraft, bind_unit_eq_ok]
    exact ⟨ha.valid, hv⟩
  obtain ⟨⟨s', r⟩, hi⟩ : ∃ x, s.insertRecord ⟨identity, body⟩ none now = .ok x := by
    simp only [insertRecord, eq_ok_iff, not_lt]
    exact ⟨_, (), he _ hd, rfl⟩
  have hac : (s.runs.get? identity.runId).any (!·.active) = false := by
    cases hg : s.runs.get? identity.runId with
    | none => rfl
    | some row => simp [ha.active row hg]
  have hs : ¬9223372036854775807 ≤ s.nextSequence := by
    have := ha.room
    omega
  refine ⟨s', r, ?_, .of_insertRecord ha hc hi⟩
  simp [append, appendBounded, appendBoundedInternal, hd, replayed, failIf, hac, ha.first, hs, ht,
    hi, OperationalAppendOutcomeV1.record, orFail]

omit [OutputHost] in
theorem exceededBudget_of_le {m : Nat} (hl : m ≤ n)
    (h : s.exceededBudget limits identity n = none) :
    s.exceededBudget limits identity m = none := by
  simp only [exceededBudget] at h ⊢
  split_ifs at h ⊢ <;> omega

end OperationalOutputStore

namespace ActiveProcessStream

open OperationalOutputStore

variable [OutputHost] {stream : ActiveProcessStream} {s t : OperationalOutputStore}
  {state : ProcessStreamState} {pieces : List OutputPiece} {b : Nat}

/-- The records of an output of which `b` bytes were written before: the pieces that the budget of
the stream lets through, and a mark in place of the rest. -/
def kept (stream : ActiveProcessStream) : Nat → List OutputPiece → List OperationalBodyV1
  | _, [] => []
  | b, piece :: pieces =>
    let count := piece.text.utf8ByteSize
    if stream.maxRetainedBytes < b + count then [.truncated piece.source count "inline_run_budget"]
    else .output piece.source none piece.text count :: stream.kept (b + count) pieces

def keptBytes (stream : ActiveProcessStream) (b : Nat) (pieces : List OutputPiece) : Nat :=
  ((stream.kept b pieces).map (·.accountedBytes)).sum

theorem foldlM_truncated (h : state.truncated = true) (ps : List OutputPiece) :
    ps.foldlM stream.appendProcessOutput (t, state) = .ok (t, state) := by
  induction ps with
  | nil => rfl
  | cons p ps ih =>
    have hs : stream.appendProcessOutput (t, state) p = .ok (t, state) := by
      simp [appendProcessOutput, h]
    rw [List.foldlM_cons, hs, ok_bind, ih]

theorem drains (he : Encodes) (ha : t.Accepts stream.identity pieces.length)
    (hs : state.truncated = false) (hb : state.retainedBytes = b)
    (hg : t.exceededBudget stream.limits stream.identity (stream.keptBytes b pieces) = none) :
    ∃ t' st', pieces.foldlM stream.appendProcessOutput (t, state) = .ok (t', st') ∧
      (t'.records.values.map (·.body)).Perm
        (t.records.values.map (·.body) ++ stream.kept b pieces) := by
  induction pieces generalizing t state b with
  | nil => exact ⟨t, state, rfl, by simp [kept]⟩
  | cons piece pieces ih =>
    rw [List.foldlM_cons]
    subst hb
    by_cases hm : stream.maxRetainedBytes < state.retainedBytes + piece.text.utf8ByteSize
    · have hv : validateBody (.truncated piece.source piece.text.utf8ByteSize
          "inline_run_budget") = .ok () := by
        simp only [validateBody, bind_unit_eq_ok, failIf_eq_ok]
        exact ⟨piece.nonempty, by decide⟩
      obtain ⟨t', r, hap, hw⟩ := exists_append stream.limits piece.now he ha hv rfl rfl
      refine ⟨t', { state.wrote r with truncated := true }, ?_, ?_⟩
      · have hst : stream.appendProcessOutput (t, state) piece =
            .ok (t', { state.wrote r with truncated := true }) := by
          simp [appendProcessOutput, hs, hm, hap, Except.mapError]
        rw [hst, ok_bind, foldlM_truncated rfl]
      · rw [kept, if_pos hm]
        exact hw.bodies.trans (List.perm_append_singleton _ _).symm
    · have hv : validateBody (.output piece.source none piece.text piece.text.utf8ByteSize) =
          .ok () := by
        have hf := not_lt.2 piece.fits
        rw [validateBody, failIf_eq_ok]
        simp [show maxOperationalTextBytes = maxOperationalChunkBytes from rfl, hf]
      rw [keptBytes, kept, if_neg hm, List.map_cons, List.sum_cons] at hg
      have ht : t.truncation stream.limits ⟨stream.identity,
          .output piece.source none piece.text piece.text.utf8ByteSize⟩ = none := by
        have hz := exceededBudget_of_le (Nat.le_add_right _ _) hg
        simpa [truncation, OperationalBodyV1.accountedBytes] using hz
      obtain ⟨t', r, hap, hw⟩ := exists_append stream.limits piece.now he ha hv rfl ht
      obtain ⟨st', hst, hs', hb'⟩ : ∃ st', stream.appendProcessOutput (t, state) piece =
          .ok (t', st') ∧ st'.truncated = false ∧
            st'.retainedBytes = state.retainedBytes + piece.text.utf8ByteSize := by
        refine ⟨{ state.wrote r with retainedBytes := _ }, ?_, hs, rfl⟩
        simp [appendProcessOutput, hs, hm, hap, Except.mapError]
      obtain ⟨t'', s'', hr, hp⟩ := ih (hw.accepts ha) hs' hb' ((hw.budget _ _).trans hg)
      refine ⟨t'', s'', by rw [hst, ok_bind, hr], ?_⟩
      rw [kept, if_neg hm]
      exact hp.trans ((hw.bodies.append_right _).trans List.perm_middle.symm)

end ActiveProcessStream

/-! ## Two budgets -/

namespace TwoBudgets

open OperationalOutputStore

def store : OperationalOutputStore := { deploymentId := "local" }

def identity : OperationalIdentityV1 :=
  { workflowId := "build", runId := "run", nodeId := some "make", attempt := some 1 }

/-- An attempt that may retain four bytes, in a stream with a budget of its own. -/
def stream (maxRetainedBytes : Nat) : ActiveProcessStream :=
  { identity, limits := { maxAttemptBytes := 4 }, maxRetainedBytes }

def pieces : List OutputPiece :=
  [⟨.stdout, "make", 0, by decide, by decide⟩, ⟨.stderr, "ok", 1, by decide, by decide⟩,
    ⟨.stdout, "ok", 2, by decide, by decide⟩]

theorem accepts : store.Accepts identity pieces.length :=
  ⟨by decide +kernel, nofun, by decide, by decide, nofun⟩

end TwoBudgets

end Woml
