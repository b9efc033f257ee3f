import Woml.Remote.Worker
import Woml.Remote.Proof.Accounting

/-!
# An attempt is executed at most once

A call that is free to send its execute frame has journalled a start, or relies on the one of its
session. The journal lets a dispatch be started once: the row leaves `accepted` and does not come
back (`Past`). So the calls that journal a start of their own exclude each other as long as the row
is still `accepted` when they get there; nothing keeps a prestarted call from running a dispatch
that was run before.
-/

namespace Woml

open Checked WorkerJournalV1 WorkerSystem

variable {ρ : Type} {id : String}

namespace WorkerJournalV1

variable {j j' : WorkerJournalV1 ρ}

/-- The dispatch is there, and past its acceptance. -/
def Past (j : WorkerJournalV1 ρ) (dispatchId : String) : Prop :=
  ∃ row, j.load dispatchId = some row ∧ row.state ≠ .accepted

@[simp] theorem load_appendRecord (dispatchId sessionId : String) (recordType : WorkerAttemptStateV1)
    (id : String) : (j.appendRecord dispatchId sessionId recordType).load id = j.load id := rfl

theorem load_updateWhere (di : String) (s : WorkerAttemptStateV1)
    (c : WorkerAttemptRecordV1 ρ → WorkerAttemptRecordV1 ρ) (id : String) :
    (j.updateWhere di s c).load id =
      (j.load id).map fun row => if id = di ∧ row.state = s then c row else row := by
  unfold updateWhere
  cases hr : j.load di with
  | none =>
    by_cases hi : id = di
    · simp [hi, hr]
    · simp [hi]
  | some row =>
    by_cases hs : row.state = s
    · simp only [hs]
      by_cases hi : id = di
      · subst hi
        simp [load] at hr ⊢
        simp [hr, hs]
      · simp [load, SortedMap.get?_insert_ne _ hi, hi]
    · simp only [hs, if_false]
      by_cases hi : id = di
      · subst hi
        simp [hr, hs]
      · simp [hi]

variable {dispatchId : String}

theorem Past.updateWhere (h : j.Past id) {s : WorkerAttemptStateV1}
    {c : WorkerAttemptRecordV1 ρ → WorkerAttemptRecordV1 ρ}
    (hc : ∀ row, row.state = s → row.state ≠ .accepted → (c row).state ≠ .accepted) :
    (j.updateWhere dispatchId s c).Past id := by
  obtain ⟨row, hr, hp⟩ := h
  refine ⟨_, by rw [load_updateWhere, hr, Option.map_some], ?_⟩
  split
  · rename_i hs
    exact hc row hs.2 hp
  · exact hp

theorem Past.acceptCommit (h : j.Past id) {prepared : PreparedRemoteDispatchV1} {wi si : String}
    (hc : j.acceptCommit prepared wi si = .ok j') : j'.Past id := by
  simp only [WorkerJournalV1.acceptCommit, eq_ok_iff, not_or] at hc
  obtain ⟨_, ⟨hf, -⟩, rfl⟩ := hc
  obtain ⟨row, hr, hp⟩ := h
  refine ⟨row, ?_, hp⟩
  have hn : id ≠ prepared.package.dispatchId := by
    rintro rfl
    simp [SortedMap.contains, show j.dispatches.get? _ = some row from hr] at hf
  exact (SortedMap.get?_insert_ne _ hn _).trans hr

theorem Past.startCommit (h : j.Past id) (di si : String) : (j.startCommit di si).Past id :=
  h.updateWhere fun _ _ _ => nofun

theorem Past.terminalCommit (h : j.Past id) {di si : String} {t : RemoteWorkerTerminalV1 ρ}
    (ht : t.state ≠ .accepted) : (j.terminalCommit di si t).Past id :=
  h.updateWhere fun _ _ _ => ht

theorem load_foldl_recoverOne (ids : List String) (j : WorkerJournalV1 ρ) (id : String) :
    (ids.foldl recoverOne j).load id = (j.load id).map fun row =>
      if id ∈ ids ∧ row.state = .started then { row with state := .ambiguous } else row := by
  induction ids generalizing j with
  | nil => simp
  | cons first ids ih =>
    rw [List.foldl_cons, ih, recoverOne, load_appendRecord, load_updateWhere, Option.map_map]
    congr 1
    funext row
    by_cases hf : id = first <;> by_cases hs : row.state = .started <;>
      simp [hf, hs]

theorem Past.recover (h : j.Past id) (sa : Nat) : (j.recover sa).Past id := by
  unfold WorkerJournalV1.recover
  split
  · exact h
  · obtain ⟨row, hr, hp⟩ := h
    refine ⟨_, by rw [load_foldl_recoverOne, hr, Option.map_some], ?_⟩
    split
    · nofun
    · exact hp

theorem past_startCommit {row : WorkerAttemptRecordV1 ρ} (hr : j.load dispatchId = some row)
    (hs : row.state = .accepted) (si : String) : (j.startCommit dispatchId si).Past dispatchId := by
  refine ⟨{ row with state := .started }, ?_, nofun⟩
  rw [WorkerJournalV1.startCommit, load_appendRecord, load_updateWhere, hr, Option.map_some,
    if_pos ⟨rfl, hs⟩]

/-! Every row is under the identifier of its dispatch. -/

def Keyed (j : WorkerJournalV1 ρ) : Prop := ∀ id row, j.load id = some row → row.dispatchId = id

theorem Keyed.updateWhere (h : j.Keyed) {s : WorkerAttemptStateV1}
    {c : WorkerAttemptRecordV1 ρ → WorkerAttemptRecordV1 ρ}
    (hc : ∀ row, (c row).dispatchId = row.dispatchId) : (j.updateWhere dispatchId s c).Keyed := by
  intro id row hr
  rw [load_updateWhere, Option.map_eq_some_iff] at hr
  obtain ⟨before, hb, rfl⟩ := hr
  split
  · rw [hc]
    exact h id before hb
  · exact h id before hb

theorem Keyed.acceptCommit (h : j.Keyed) {p : PreparedRemoteDispatchV1} {wi si : String}
    (hc : j.acceptCommit p wi si = .ok j') : j'.Keyed := by
  simp only [WorkerJournalV1.acceptCommit, eq_ok_iff] at hc
  obtain ⟨_, -, rfl⟩ := hc
  intro id row hr
  obtain ⟨rfl, rfl⟩ | ⟨-, hr⟩ := SortedMap.of_get?_insert hr
  · rfl
  · exact h id row hr

theorem Keyed.recover (h : j.Keyed) (sa : Nat) : (j.recover sa).Keyed := by
  unfold WorkerJournalV1.recover
  split
  · exact h
  · intro id row hr
    rw [load_foldl_recoverOne, Option.map_eq_some_iff] at hr
    obtain ⟨before, hb, rfl⟩ := hr
    split <;> exact h id before hb

/-- The journal has few enough open attempts to be recovered. -/
def Recoverable (j : WorkerJournalV1 ρ) : Prop :=
  (j.dispatches.values.filter fun row => row.state = .accepted || row.state = .started).length ≤
    workerJournalRecoveryLimit

/-- After a restart, an attempt that was started is ambiguous. -/
theorem recover_started (h : j.Keyed) (hl : j.Recoverable) {row : WorkerAttemptRecordV1 ρ}
    (hr : j.load id = some row) (hs : row.state = .started) :
    (j.recover j.startedIds.length).load id = some { row with state := .ambiguous } := by
  have hi : id ∈ j.startedIds := by
    refine List.mem_map.2 ⟨row, List.mem_filter.2 ⟨?_, by simp [hs]⟩, h id row hr⟩
    exact (SortedMap.mem_values j.dispatches).2 ⟨id, hr⟩
  rw [WorkerJournalV1.recover, if_neg (Nat.not_lt.2 hl), List.take_length, load_foldl_recoverOne,
    hr, Option.map_some, if_pos ⟨hi, hs⟩]

end WorkerJournalV1

/-! ## The calls -/

namespace WorkerCall

variable {call : WorkerCall ρ} {j j' : WorkerJournalV1 ρ}

/-- What a call has read is still so. -/
def Knows (j : WorkerJournalV1 ρ) (call : WorkerCall ρ) : Prop :=
  match call.phase with
  | .accepted record => record.state ≠ .accepted → j.Past call.dispatchId
  | .spawning => call.kind = .execute true → j.Past call.dispatchId
  | .recording terminal => terminal.state ≠ .accepted
  | _ => True

theorem Knows.mono (h : call.Knows j) (hp : ∀ id, j.Past id → j'.Past id) : call.Knows j' := by
  unfold Knows at h ⊢
  split <;> simp_all

/-- The call is on its way to the execute frame. -/
def isReady (id : String) (call : WorkerCall ρ) : Bool :=
  call.dispatchId = id &&
    match call.phase with
    | .cleared => true
    | .committed false => call.kind ≠ .start
    | _ => false

theorem isReady_cleared (id : String) :
    (call.goto .cleared).isReady id = decide (call.dispatchId = id) :=
  Bool.and_true _

theorem isReady_committed (hk : call.kind ≠ .start) (id : String) :
    (call.goto (.committed false)).isReady id = decide (call.dispatchId = id) := by
  have hr : decide (call.kind ≠ .start) = true := decide_eq_true hk
  show (decide (call.dispatchId = id) && decide (call.kind ≠ .start)) = _
  rw [hr, Bool.and_true]

theorem isReady_goto {p : WorkerPhase ρ} (hcl : p ≠ .cleared)
    (hc : p ≠ .committed false) : (call.goto p).isReady id = false := by
  unfold isReady goto
  split <;> simp_all

variable (c : TerminalCodec ρ) (input : WorkerInput ρ)

/-- The call finds its dispatch as it left it: the row is still accepted while it journals its start,
and no call was free to run the dispatch before a prestarted call gets there. -/
def isUndisturbed (j : WorkerJournalV1 ρ) (entitled : List String) (call : WorkerCall ρ)
    (input : WorkerInput ρ) : Bool :=
  match call.phase with
  | .starting false =>
    call.kind = .start || !(j.load call.dispatchId).any (·.state = .started)
  | .committing false => call.kind = .start || (j.load call.dispatchId).any (·.state = .accepted)
  | .spawning => !(call.kind = .execute true && input.hostStarts && entitled.contains call.dispatchId)
  | _ => true

/-- What one step of a call does, seen from the frames: the call is not on the way to one after it,
it stays on the way, it is so from now on, or it sends the frame. -/
inductive Effect (entitled : List String) (call : WorkerCall ρ) (j : WorkerJournalV1 ρ)
    (next : WorkerCall ρ) (j' : WorkerJournalV1 ρ) : Bool → Prop
  | idle (hpast : ∀ id, j.Past id → j'.Past id) (hknows : next.Knows j')
      (hready : ∀ id, next.isReady id = false) (hentitles : call.entitles next = false) :
      Effect entitled call j next j' false
  | goes (hpast : ∀ id, j.Past id → j'.Past id) (hknows : next.Knows j')
      (hready : ∀ id, next.isReady id = call.isReady id) (hentitles : call.entitles next = false) :
      Effect entitled call j next j' false
  | entitled (hpast : ∀ id, j.Past id → j'.Past id) (hknows : next.Knows j')
      (hbefore : ∀ id, call.isReady id = false)
      (hready : ∀ id, next.isReady id = decide (call.dispatchId = id))
      (hentitles : call.entitles next = true)
      (hfirst : ¬j.Past call.dispatchId ∨ call.dispatchId ∉ entitled)
      (hnow : j'.Past call.dispatchId) : Effect entitled call j next j' false
  | sends (hpast : ∀ id, j.Past id → j'.Past id) (hknows : next.Knows j')
      (hbefore : ∀ id, call.isReady id = decide (call.dispatchId = id))
      (hready : ∀ id, next.isReady id = false) (hentitles : call.entitles next = false) :
      Effect entitled call j next j' true

section Effects

variable {entitled : List String} {cn : Bool}

/-- A call that ends, or goes on to a phase that says nothing yet. -/
theorem Effect.of_idle {next : WorkerCall ρ} (hk : next.Knows j)
    (hcl : next.phase ≠ .cleared) (hc : next.phase ≠ .committed false)
    (hp : call.phase ≠ .committing false) : Effect entitled call j next j false := by
  refine .idle (fun _ h => h) hk (fun id => ?_) ?_
  · unfold isReady
    split <;> simp_all
  · unfold entitles
    split <;> simp_all

theorem Effect.of_fail (e : RemoteWorkerError) (hp : call.phase ≠ .committing false) :
    Effect entitled call j (call.fail e) j false :=
  .of_idle trivial nofun nofun hp

theorem effect_enter (hp : call.phase = .called) :
    Effect entitled call j (call.enter j input) j false := by
  have hn : call.phase ≠ .committing false := by simp [hp]
  unfold enter
  split
  · exact .of_idle trivial nofun nofun hn
  · exact .of_idle trivial nofun nofun hn
  split
  · exact .of_fail _ hn
  split
  · exact .of_fail _ hn
  split
  · exact .of_idle trivial nofun nofun hn
  split
  · exact .of_fail _ hn
  · exact .of_idle trivial nofun nofun hn

/-- A prestarted call goes on only if the record says that the dispatch was started. -/
theorem effect_judge {r : WorkerAttemptRecordV1 ρ} (hp : call.phase = .accepted r)
    (hkn : call.Knows j) : Effect entitled call j (call.judge j input r) j false := by
  have hn : call.phase ≠ .committing false := by simp [hp]
  rw [Knows, hp] at hkn
  unfold judge
  split
  · exact .of_idle trivial nofun nofun hn
  split
  · split
    · exact .of_fail _ hn
    · exact .of_idle trivial nofun nofun hn
  · exact .of_fail _ hn
  · split
    · exact .of_fail _ hn
    split
    · exact .of_fail _ hn
    split
    · exact .of_fail _ hn
    split
    · exact .of_idle trivial nofun nofun hn
    · refine .of_idle (fun he => hkn ?_) nofun nofun hn
      have hk : call.kind = .execute true := he
      simp_all

theorem effect_spawn (hp : call.phase = .spawning) (hkn : call.Knows j)
    (hu : call.isUndisturbed j entitled input = true) :
    Effect entitled call j (call.spawn input) j false := by
  have hne : call.phase ≠ .committing false := by simp [hp]
  rw [Knows, hp] at hkn
  rw [isUndisturbed] at hu
  unfold spawn
  split
  · exact .of_fail _ hne
  split
  · exact .of_fail _ hne
  split
  · rename_i hh _ hk
    have hn : call.dispatchId ∉ entitled := by simp_all
    refine .entitled (fun _ h => h) trivial (fun id => ?_) (fun id => ?_) ?_ (.inr hn) (hkn hk)
    · simp [isReady, hp]
    · exact isReady_cleared id
    · simp [entitles, hp, goto]
  · exact .of_idle trivial nofun nofun hne

/-- Going on after the start, where the start was not journalled just now. -/
theorem effect_afterStart (hp : call.phase ≠ .committing false)
    (hs : call.kind = .start ∨ cn = true) :
    Effect entitled call j (call.afterStart c j input cn) j false := by
  unfold afterStart
  split
  · split
    · exact .of_idle trivial nofun nofun hp
    · exact .of_fail _ hp
  · rename_i hk
    rw [hs.resolve_left hk, if_pos rfl]
    split
    · exact .of_fail _ hp
    · exact .of_idle trivial nofun nofun hp

theorem effect_startRead (hp : call.phase = .starting cn)
    (hu : call.isUndisturbed j entitled input = true) :
    Effect entitled call j (call.startRead c j input cn) j false := by
  have hn : call.phase ≠ .committing false := by simp [hp]
  unfold startRead
  split
  · exact .of_fail _ hn
  rename_i record hr
  split
  · exact .of_idle trivial nofun nofun hn
  split
  · rename_i hs
    refine effect_afterStart c input hn ?_
    by_contra hru
    simp only [not_or, Bool.not_eq_true] at hru
    rw [isUndisturbed, hp, hru.2] at hu
    simp [hru.1, hr, hs] at hu
  · exact .of_fail _ hn

theorem effect_startCommit (hph : call.phase = .committing cn)
    (hu : call.isUndisturbed j entitled input = true) :
    Effect entitled call j (call.goto (.committed cn))
      (j.startCommit call.dispatchId call.sessionId) false := by
  have hp : ∀ id, j.Past id → (j.startCommit call.dispatchId call.sessionId).Past id :=
    fun id h => h.startCommit _ _
  by_cases hru : call.kind ≠ .start ∧ cn = false
  · obtain ⟨hk, rfl⟩ := hru
    rw [isUndisturbed, hph] at hu
    obtain ⟨record, hr, hs⟩ : ∃ record, j.load call.dispatchId = some record ∧
        record.state = .accepted := by
      simpa [hk, Option.any_eq_true] using hu
    refine .entitled hp trivial (fun id => ?_) (fun id => ?_) ?_ (.inl ?_)
      (WorkerJournalV1.past_startCommit hr hs _)
    · simp [isReady, hph]
    · exact isReady_committed hk id
    · simp [entitles, hph, hk]
    · rintro ⟨row, hro, hp⟩
      rw [hr, Option.some.injEq] at hro
      exact hp (hro ▸ hs)
  · refine .idle hp trivial (fun id => ?_) ?_
    · cases cn <;> simp_all [isReady, goto]
    · cases cn <;> simp_all [entitles, goto]

theorem effect_committed (hp : call.phase = .committed cn) :
    Effect entitled call j (call.afterStart c j input cn) j false := by
  have hne : call.phase ≠ .committing false := by simp [hp]
  by_cases hs : call.kind = .start ∨ cn = true
  · exact effect_afterStart c input hne hs
  simp only [not_or, Bool.not_eq_true] at hs
  obtain ⟨hk, rfl⟩ := hs
  have hn : call.afterStart c j input false = call.goto .cleared := by
    simp [afterStart, hk]
  rw [hn]
  refine .goes (fun _ h => h) trivial (fun id => ?_) ?_
  · rw [isReady_cleared, isReady, hp]
    simp [hk]
  · simp [entitles, hp]

theorem effect_complete (hp : call.phase = .running) :
    Effect entitled call j (call.complete c input) j false := by
  have hn : call.phase ≠ .committing false := by simp [hp]
  unfold complete
  split
  · exact .of_fail _ hn
  split
  · exact .of_fail _ hn
  · exact .of_idle trivial nofun nofun hn

theorem effect_terminalRead [DecidableEq ρ] {t : RemoteWorkerTerminalV1 ρ}
    (hp : call.phase = .reporting t) :
    Effect entitled call j (call.terminalRead c j t) j false := by
  have hn : call.phase ≠ .committing false := by simp [hp]
  unfold terminalRead
  split
  · exact .of_fail _ hn
  split
  · split
    · exact .of_idle trivial nofun nofun hn
    · exact .of_fail _ hn
  split
  · exact .of_fail _ hn
  rename_i hv
  split
  · exact .of_fail _ hn
  · refine .of_idle (fun hs : t.state = .accepted => ?_) nofun nofun hn
    simp [hs, WorkerAttemptStateV1.isTerminal] at hv

/-- **Step of a call.** -/
theorem effect_advance [DecidableEq ρ] (hk : call.Knows j)
    (hu : call.isUndisturbed j entitled input = true) :
    Effect entitled call j (call.advance c j input).1 (call.advance c j input).2.1
      (call.advance c j input).2.2 := by
  unfold advance
  cases hp : call.phase with
  | called => exact effect_enter input hp
  | admitted =>
    have hn : call.phase ≠ .committing false := by simp [hp]
    dsimp only
    split
    · exact .of_fail _ hn
    · rename_i record hr
      refine .of_idle (fun hs => ⟨record, ?_, hs⟩) nofun nofun hn
      unfold acceptRead at hr
      split at hr
      · cases hr
      split at hr
      · rename_i e hex
        split at hr
        · cases hr
          exact hex
        · cases hr
      · cases hr
    · exact .of_idle trivial nofun nofun hn
  | inserting =>
    have hn : call.phase ≠ .committing false := by simp [hp]
    dsimp only
    split
    · exact .of_fail _ hn
    · rename_i next hc
      refine .idle (fun id h => h.acceptCommit hc) trivial (fun id => ?_) ?_
      · exact isReady_goto nofun nofun
      · simp [entitles, hp, goto]
  | inserted =>
    have hn : call.phase ≠ .committing false := by simp [hp]
    dsimp only
    split
    · exact .of_fail _ hn
    · rename_i record hre
      exact .of_idle (fun hs => ⟨record, hre, hs⟩) nofun nofun hn
  | accepted record => exact effect_judge input hp hk
  | spawning => exact effect_spawn input hp hk hu
  | starting cn => exact effect_startRead c input hp hu
  | committing cn => exact effect_startCommit input hp hu
  | committed cn =>
    dsimp only
    split
    · exact .of_fail _ (by simp [hp])
    · exact effect_committed c input hp
  | cleared =>
    refine .sends (fun _ h => h) trivial (fun id => ?_) (fun id => isReady_goto nofun nofun) ?_
    · rw [isReady, hp, Bool.and_true]
    · simp [entitles, hp, goto]
  | running => exact effect_complete c input hp
  | reporting terminal => exact effect_terminalRead c hp
  | recording terminal =>
    rw [Knows, hp] at hk
    refine .idle (fun id h => h.terminalCommit hk) trivial (fun id => ?_) ?_
    · exact isReady_goto nofun nofun
    · simp [entitles, hp, goto]
  | finished result =>
    refine .of_idle hk ?_ ?_ ?_ <;> simp [hp]

end Effects

end WorkerCall

/-! ## The worker -/

namespace WorkerSystem

variable [DecidableEq ρ] (codec : TerminalCodec ρ) {s : WorkerSystem ρ}

/-- The call that goes on is not disturbed. -/
def isUndisturbed (s : WorkerSystem ρ) : WorkerAction ρ → Bool
  | .advance index input =>
    (s.calls[index]?).all fun call => call.isUndisturbed s.journal s.entitled input
  | _ => true

/-- Every frame, and every call on its way to one, belongs to the one call that was free to run the
dispatch. -/
structure Once (s : WorkerSystem ρ) : Prop where
  knows : ∀ call ∈ s.calls, call.Knows s.journal
  frames : ∀ id, s.frames.count id + s.calls.countP (·.isReady id) ≤ s.entitled.count id
  entitled : ∀ id, s.entitled.count id ≤ 1
  past : ∀ id ∈ s.entitled, s.journal.Past id

omit [DecidableEq ρ] in
theorem countP_set_of {α : Type} {p : α → Bool} {l : List α} {i : Nat} {x y : α}
    (h : l[i]? = some x) : (l.set i y).countP p + (p x).toNat = l.countP p + (p y).toNat := by
  obtain ⟨hl, rfl⟩ := List.getElem?_eq_some_iff.1 h
  have hle : (p l[i]).toNat ≤ l.countP p := by
    cases hp : p l[i] with
    | false => simp
    | true => simpa using List.countP_pos_iff.2 ⟨l[i], List.getElem_mem hl, hp⟩
  have ht : ∀ b : Bool, (if b = true then 1 else 0) = b.toNat := by decide
  rw [List.countP_set hl, ht, ht]
  omega

omit [DecidableEq ρ] in
/-- The calls beside the one that goes on know what they knew. -/
theorem knows_set {cs : List (WorkerCall ρ)} {j j' : WorkerJournalV1 ρ} {i : Nat}
    {next : WorkerCall ρ} (hk : ∀ call ∈ cs, call.Knows j) (hp : ∀ id, j.Past id → j'.Past id)
    (hn : next.Knows j') : ∀ call ∈ cs.set i next, call.Knows j' := by
  intro call hc
  obtain hc | rfl := List.mem_or_eq_of_mem_set hc
  · exact (hk call hc).mono hp
  · exact hn

theorem once_advance (h : Once s) {i : Nat} {inp : WorkerInput ρ} {call : WorkerCall ρ}
    (hc : s.calls[i]? = some call) (hu : call.isUndisturbed s.journal s.entitled inp = true) :
    Once (s.step codec (.advance i inp)) := by
  have hk := h.knows call (List.mem_of_getElem? hc)
  have hef := WorkerCall.effect_advance codec inp hk hu
  simp only [step, hc]
  generalize call.advance codec s.journal inp = out at hef
  obtain ⟨next, jr, sent⟩ := out
  have hcn := fun id => countP_set_of (p := (·.isReady id)) (y := next) hc
  -- one more of the dispatch among the frames, or among those that may send one
  have ha (l : List String) (id : String) :
      (l ++ [call.dispatchId]).count id = l.count id + (decide (call.dispatchId = id)).toNat := by
    by_cases hi : call.dispatchId = id <;> simp [hi]
  cases hef with
  | idle hp hn hr he =>
    rw [he]
    refine ⟨knows_set h.knows hp hn, fun id => ?_, h.entitled, fun id hi =>
      hp id (h.past id hi)⟩
    have hf := h.frames id
    have hcn := hcn id
    rw [hr, Bool.toNat_false] at hcn
    simp only [Bool.false_eq_true, if_false]
    omega
  | goes hp hn hr he =>
    rw [he]
    refine ⟨knows_set h.knows hp hn, fun id => ?_, h.entitled, fun id hi =>
      hp id (h.past id hi)⟩
    have hf := h.frames id
    have hcn := hcn id
    rw [hr] at hcn
    simp only [Bool.false_eq_true, if_false]
    omega
  | entitled hp hn hb hr he hfs hnw =>
    rw [he]
    -- the dispatch was not run before: its row was still accepted, or it is asked for
    have hne : call.dispatchId ∉ s.entitled := fun hm =>
      hfs.elim (fun hno => hno (h.past _ hm)) fun hno => hno hm
    simp only [Bool.false_eq_true, if_false, if_true]
    refine ⟨knows_set h.knows hp hn, fun id => ?_, fun id => ?_, fun id hi => ?_⟩
    · have hf := h.frames id
      have hcn := hcn id
      rw [hr, hb] at hcn
      simp only [ha]
      omega
    · rw [ha]
      by_cases hi : call.dispatchId = id
      · subst hi
        rw [List.count_eq_zero_of_not_mem hne]
        simp
      · simpa [hi] using h.entitled id
    · rw [List.mem_append, List.mem_singleton] at hi
      obtain hi | rfl := hi
      · exact hp id (h.past id hi)
      · exact hnw
  | sends hp hn hb hr he =>
    rw [he]
    simp only [Bool.false_eq_true, if_false, if_true]
    refine ⟨knows_set h.knows hp hn, fun id => ?_, h.entitled, fun id hi =>
      hp id (h.past id hi)⟩
    have hf := h.frames id
    have hcn := hcn id
    rw [hr, hb, Bool.toNat_false] at hcn
    simp only [ha]
    omega

/-- **Step.** -/
theorem once_step (h : Once s) {a : WorkerAction ρ} (hu : s.isUndisturbed a = true) :
    Once (s.step codec a) := by
  cases a with
  | call call =>
    refine ⟨fun other ho => ?_, fun id => ?_, h.entitled, h.past⟩
    · obtain ho | ho := List.mem_append.1 ho
      · exact h.knows other ho
      · rw [List.mem_singleton.1 ho]
        trivial
    · have hn : (call.goto .called).isReady id = false := WorkerCall.isReady_goto nofun nofun
      simpa [step, hn] using h.frames id
  | advance index input =>
    cases hc : s.calls[index]? with
    | none =>
      simp only [step, hc]
      exact h
    | some call =>
      rw [isUndisturbed, hc] at hu
      exact once_advance codec h hc hu
  | drop index =>
    refine ⟨fun other ho => h.knows other (List.mem_of_mem_eraseIdx ho), fun id => ?_,
      h.entitled, h.past⟩
    have hf : (s.calls.eraseIdx index).countP (·.isReady id) ≤ s.calls.countP (·.isReady id) :=
      (List.eraseIdx_sublist s.calls index).countP_le
    have hfr := h.frames id
    dsimp only [step]
    omega
  | recover sa =>
    exact ⟨fun other ho => (h.knows other ho).mono fun id hi => hi.recover sa,
      h.frames, h.entitled, fun id hi => (h.past id hi).recover sa⟩

theorem keyed_step (h : s.journal.Keyed) (a : WorkerAction ρ) : (s.step codec a).journal.Keyed := by
  cases a with
  | call call => exact h
  | drop index => exact h
  | recover sa => exact h.recover sa
  | advance index input =>
    cases hc : s.calls[index]? with
    | none =>
      simp only [step, hc]
      exact h
    | some call =>
      simp only [step, hc]
      unfold WorkerCall.advance
      split
      case h_3 =>
        split
        · exact h
        · rename_i hco
          exact h.acceptCommit hco
      case h_8 => exact h.updateWhere fun _ => rfl
      case h_13 => exact h.updateWhere fun _ => rfl
      all_goals first | exact h | (split <;> exact h)

theorem keyed_run (acs : List (WorkerAction ρ)) : (run codec {} acs).journal.Keyed := by
  induction acs using List.reverseRecOn with
  | nil => exact nofun
  | append_singleton acs action ih =>
    rw [run, List.foldl_append]
    exact keyed_step codec ih action

/-- Every step of a run finds its dispatch undisturbed. -/
def isUndisturbedRun (codec : TerminalCodec ρ) : WorkerSystem ρ → List (WorkerAction ρ) → Bool
  | _, [] => true
  | s, action :: rest => s.isUndisturbed action && isUndisturbedRun codec (s.step codec action) rest

theorem once_run {acs : List (WorkerAction ρ)} (h : Once s)
    (hu : isUndisturbedRun codec s acs = true) : Once (s.run codec acs) := by
  induction acs generalizing s with
  | nil => exact h
  | cons action acs ih =>
    rw [isUndisturbedRun, Bool.and_eq_true] at hu
    exact ih (once_step codec h hu.1) hu.2

omit [DecidableEq ρ] in
theorem once_empty : Once ({} : WorkerSystem ρ) where
  knows call hc := by cases hc
  frames id := Nat.le_refl 0
  entitled id := Nat.zero_le 1
  past id hi := by cases hi

/-! ## What is reported -/

/-- An attempt whose start is on record without an end is reported ambiguous to every call that is
accepted with it, other than a prestarted one of the session that started it. -/
def ReportsAmbiguous (s : WorkerSystem ρ) : Prop :=
  ∀ call ∈ s.calls, ∀ prestarted record input, call.kind = .execute prestarted →
    call.phase = .accepted record → record.terminal = none →
    record.state = .ambiguous ∨ record.state = .started ∧ (prestarted = true →
      s.journal.wasStartedBySession call.dispatchId call.sessionId = false) →
    (call.advance codec s.journal input).1.phase = .finished (.error .ambiguous)

theorem reportsAmbiguous (s : WorkerSystem ρ) : s.ReportsAmbiguous codec := by
  intro call _ p record input hk hp ht hst
  simp only [WorkerCall.advance, hp, WorkerCall.judge, ht, hk]
  obtain ha | ⟨hs, ho⟩ := hst
  · simp [ha, WorkerCall.fail, WorkerCall.goto]
  · cases p with
    | true => simp [ho rfl, WorkerCall.fail, WorkerCall.goto]
    | false => simp [hs, WorkerCall.fail, WorkerCall.goto]

/-- **An attempt is executed at most once** in every run in which no call is disturbed, whatever
calls are made, dropped and interleaved and however often the journal is opened again. -/
theorem executed_at_most_once (actions : List (WorkerAction ρ))
    (hundisturbed : isUndisturbedRun codec {} actions = true) :
    (∀ id, (run codec {} actions).frames.count id ≤ 1) ∧
      (∀ id ∈ (run codec {} actions).frames, ∀ call ∈ (run codec {} actions).calls,
        call.isReady id = false) ∧
      (run codec {} actions).ReportsAmbiguous codec ∧
      ∀ id row, (run codec {} actions).journal.load id = some row → row.state = .started →
        (run codec {} actions).journal.Recoverable →
        ((run codec {} actions).journal.recover
            (run codec {} actions).journal.startedIds.length).load id =
          some { row with state := .ambiguous } := by
  have h : Once (run codec {} actions) := once_run codec once_empty hundisturbed
  refine ⟨fun id => ?_, fun id hi call hc => ?_, reportsAmbiguous codec _,
    fun id row hr hst hl => ?_⟩
  · have hf := h.frames id
    have he := h.entitled id
    omega
  · have hf := h.frames id
    have he := h.entitled id
    have hs := List.count_pos_iff.2 hi
    have hn : (run codec {} actions).calls.countP (·.isReady id) = 0 := by omega
    simpa using List.countP_eq_zero.1 hn call hc
  · exact recover_started (keyed_run codec actions) hl hr hst

end WorkerSystem

/-! ## Attempts that are executed twice -/

namespace TwiceExecuted

def prepared : PreparedRemoteDispatchV1 :=
  { package := GreetingWorker.package, source := some "return 1", timeoutMs := none
    maximumAttempts := 1, capabilities := [], secretNames := []
    authorityDigest := "sha256:" ++ Redelivery.zeroDigest, workerId := "worker" }

def codec : TerminalCodec Unit := { digest := fun _ => some "digest", fits := fun _ => true }

def call (kind : WorkerCallKind) (sessionId : String) : WorkerAction Unit :=
  .call { kind, prepared, workerId := "worker", sessionId, now := 0 }

/-- The `index`-th call goes on for a number of steps; its host starts and crashes. -/
def goes (index steps : Nat) : List (WorkerAction Unit) :=
  List.replicate steps (.advance index { cancelledOutcome := () })

/-- The dispatch is prepared and started, and executed; after the crash of its host it is executed
again in the same session. -/
def repeated : List (WorkerAction Unit) :=
  [call .prepare "session"] ++ goes 0 6 ++ [call .start "session"] ++ goes 1 4 ++
    [call (.execute true) "session"] ++ goes 2 6 ++ [call (.execute true) "session"] ++ goes 3 6

/-- Two calls of two sessions are accepted before one of them journals its start. -/
def overlapping : List (WorkerAction Unit) :=
  [call (.execute false) "session_1", call (.execute false) "session_2"] ++ goes 0 4 ++ goes 1 3 ++
    goes 0 6 ++ goes 1 6

/-- One execution, after a call that was dropped and a restart. -/
def single : List (WorkerAction Unit) :=
  [call (.execute false) "session_1"] ++ goes 0 4 ++ [.drop 0, .recover 1,
    call (.execute false) "session_2"] ++ goes 0 12

/-- Both times two execute frames are sent for the one dispatch. -/
theorem executed_twice :
    (WorkerSystem.run codec {} repeated).frames = [RetiredRun.dispatchId, RetiredRun.dispatchId] ∧
      (WorkerSystem.run codec {} overlapping).frames =
        [RetiredRun.dispatchId, RetiredRun.dispatchId] := by
  decide +kernel

/-- The dispatch of the dropped call is run by the next one, once. -/
theorem single_executed_once :
    isUndisturbedRun codec {} single = true ∧
      (WorkerSystem.run codec {} single).frames = [RetiredRun.dispatchId] ∧
      (∀ id, (WorkerSystem.run codec {} single).frames.count id ≤ 1) :=
  ⟨by decide +kernel, by decide +kernel,
    (executed_at_most_once codec single (by decide +kernel)).1⟩

end TwiceExecuted

end Woml
