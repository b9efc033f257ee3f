import Woml.Artifact.Store
import Woml.State.Proof.Linear

/-!
# The bytes of the artifacts

A file is removed after the transaction or the query that found it unreachable, and in between a
put of the same bytes can find the file, verify it and commit: its bytes are then removed.
`artifact_bytes_kept` says that this is the only way to lose them: in every run whose removals spare
the bytes of available artifacts and of puts that have verified them, every available artifact has
its blob row and its bytes.
-/

namespace Woml

open ArtifactPut SortedMap

namespace SharedArtifacts

section
variable [Host] {backend : ArtifactBackend} {limits : ArtifactLimits} {s t : SharedArtifacts}
  {job : Nat}

/-- Every available artifact that is retained has its blob row and its bytes. -/
def BytesKept (s : SharedArtifacts) (now : DateTime) : Prop :=
  ∀ row ∈ s.artifacts, row.status = .available → now < row.expiresAt →
    s.blobs.get? row.sha256 = some row.size ∧ ∃ bytes, s.files.get? row.sha256 = some bytes ∧
      Host.sha256 bytes = row.sha256 ∧ bytes.length = row.size

/-- The bytes belong to an available artifact, or to a put that has verified them. -/
def isNeeded (s : SharedArtifacts) (digest : String) : Bool :=
  s.artifacts.any (fun row => row.sha256 = digest && row.status = .available) ||
    s.writer.any fun job =>
      match s.jobs job with
      | .put put phase => put.sha256 = digest && phase.isVerified
      | _ => false

/-- The step removes a file that is needed. -/
def destroys (s : SharedArtifacts) (job : Nat) : ArtifactAction → Bool
  | .advance =>
    match s.jobs job with
    | .deleting (digest :: _) | .collecting digest _ => s.isNeeded digest
    | _ => false
  | _ => false

/-- No step of the run removes a file that is needed. -/
def isSparing (backend : ArtifactBackend) (limits : ArtifactLimits) :
    SharedArtifacts → List (Nat × ArtifactAction) → Bool
  | _, [] => true
  | s, (job, action) :: actions =>
    !s.destroys job action &&
      isSparing backend limits ((s.step backend limits job action).getD s) actions

/-! ## The invariant -/

/-- A put that has begun holds the write lock, and what it has verified is there. -/
def Locked (s : SharedArtifacts) (job : Nat) : ArtifactJob → Prop
  | .put put phase => phase ≠ .staged → s.writer = some job ∧
    (∀ size, s.blobs.get? put.sha256 = some size → size = put.bytes.length) ∧
    (phase.isVerified = true → s.verifies put.sha256 put.bytes.length = true)
  | _ => True

structure Kept (s : SharedArtifacts) : Prop where
  blob : ∀ row ∈ s.artifacts, s.blobs.get? row.sha256 = some row.size
  bytes : ∀ row ∈ s.artifacts, row.status = .available → s.verifies row.sha256 row.size = true
  locked : ∀ job, s.Locked job (s.jobs job)

theorem Kept.bytesKept (h : s.Kept) (now : DateTime) : s.BytesKept now := by
  intro row hr ha _
  have hv := h.bytes row hr ha
  simp only [verifies, Option.any_eq_true, Bool.and_eq_true, decide_eq_true_eq] at hv
  obtain ⟨bytes, hf, hsize, hd⟩ := hv
  exact ⟨h.blob row hr, bytes, hf, hd, hsize⟩

variable {next : ArtifactJob}

theorem Locked.of_not_writer (h : s.Locked job next)
    (hw : s.writer ≠ some job) : t.Locked job next := by
  cases next with
  | put put phase => exact fun hp => absurd (h hp).1 hw
  | _ => trivial

/-- A step of one job, by what it leaves to the others. -/
theorem Kept.goto (hb : ∀ row ∈ s.artifacts, s.blobs.get? row.sha256 = some row.size)
    (hby : ∀ row ∈ s.artifacts, row.status = .available → s.verifies row.sha256 row.size = true)
    (ho : ∀ other, other ≠ job → s.Locked other (s.jobs other)) (hn : s.Locked job next) :
    (s.goto job next).Kept := by
  refine ⟨hb, hby, fun other => ?_⟩
  show s.Locked other (Function.update s.jobs job next other)
  by_cases hs : other = job
  · rw [hs, Function.update_self]
    exact hn
  · rw [Function.update_of_ne hs]
    exact ho other hs

theorem Kept.move (h : s.Kept) (staged : List Nat)
    (hn : s.Locked job next) : ({ s with staged }.goto job next).Kept :=
  .goto h.blob h.bytes (fun other _ => h.locked other) hn

/-! ## Steps of a put -/

theorem verifies_insert {put : ArtifactPut} {d : String} {size : Nat}
    (hsi : put.sha256 = d → size = put.bytes.length) (h : s.verifies d size = true) :
    { s with files := s.files.insert put.sha256 put.bytes }.verifies d size = true := by
  by_cases hs : d = put.sha256
  · subst hs
    simp [verifies, hsi rfl, sha256]
  · simpa [verifies, s.files.get?_insert_ne hs] using h

section
variable {put : ArtifactPut} (h : s.Kept) (hwriter : s.writer = some job)
  (hsize : ∀ size, s.blobs.get? put.sha256 = some size → size = put.bytes.length)
include h hwriter hsize

theorem Kept.link : ({ s with files := s.link backend put }.goto job (.put put .present)).Kept := by
  unfold SharedArtifacts.link
  split
  · exact h.move s.staged fun _ => ⟨hwriter, hsize, nofun⟩
  · refine .goto h.blob (fun row hr ha => ?_) (fun other hn => ?_) fun _ => ⟨hwriter, hsize, nofun⟩
    · refine verifies_insert (fun hs => ?_) (h.bytes row hr ha)
      exact hsize _ (hs ▸ h.blob row hr)
    · exact (h.locked other).of_not_writer (by simpa [hwriter] using hn.symm)

theorem Kept.commit (hv : s.verifies put.sha256 put.bytes.length = true) :
    ({ s with
      blobs := s.blobs.insertFirst put.sha256 put.bytes.length
      artifacts := s.artifacts ++ [put.row]
      writer := none }.goto job .done).Kept := by
  refine .goto (fun row hr => ?_) (fun row hr ha => ?_) (fun other hn => ?_) trivial
  · unfold insertFirst
    rcases List.mem_append.1 hr with hr | hr
    · have hb := h.blob row hr
      split
      · exact hb
      · rename_i hf
        rw [get?_insert_ne _ fun hs => ?_, hb]
        simp [SortedMap.contains, ← hs, hb] at hf
    · obtain rfl := List.mem_singleton.1 hr
      split
      · rename_i hb
        obtain ⟨size, hb⟩ := Option.isSome_iff_exists.1 hb
        rw [ArtifactPut.row, hb, hsize size hb]
      · exact get?_insert_self _ _ _
  · rcases List.mem_append.1 hr with hr | hr
    · exact h.bytes row hr ha
    · obtain rfl := List.mem_singleton.1 hr
      exact hv
  · exact (h.locked other).of_not_writer (by simpa [hwriter] using hn.symm)

end

theorem Kept.advancePut (h : s.Kept) {put : ArtifactPut} {p : PutPhase}
    (hj : s.jobs job = .put put p) (hs : s.advancePut backend limits job put p = some t) :
    t.Kept := by
  have hl := h.locked job
  rw [hj] at hl
  cases p <;> simp only [SharedArtifacts.advancePut, Option.ite_none_right_eq_some,
    Option.ite_none_left_eq_some, Option.some.injEq] at hs
  case staged =>
    obtain ⟨hb, rfl⟩ := hs
    simp only [Bool.and_eq_true, Option.isNone_iff_eq_none] at hb
    refine .goto h.blob h.bytes (fun other _ => ?_) fun _ => ⟨rfl, fun size hsize => ?_, nofun⟩
    · exact (h.locked other).of_not_writer (by simp [hb.1])
    · have hq := hb.2
      simp only [withinQuotas, hsize, Bool.and_eq_true, decide_eq_true_eq] at hq
      exact hq.2
  case begun =>
    subst hs
    obtain ⟨hwriter, hsize, -⟩ := hl nofun
    refine h.move s.staged fun _ => ⟨hwriter, hsize, fun hv => ?_⟩
    split at hv <;> cases hv
  case absent =>
    obtain ⟨-, rfl⟩ := hs
    obtain ⟨hwriter, hsize, -⟩ := hl nofun
    exact h.link hwriter hsize
  case present =>
    obtain ⟨hv, rfl⟩ := hs
    obtain ⟨hwriter, hsize, -⟩ := hl nofun
    exact h.move s.staged fun _ => ⟨hwriter, hsize, fun _ => hv⟩
  case verified =>
    obtain ⟨-, rfl⟩ := hs
    exact h.move _ fun _ => hl nofun
  case published =>
    obtain ⟨-, rfl⟩ := hs
    obtain ⟨hwriter, hsize, hv⟩ := hl nofun
    exact h.commit hwriter hsize (hv rfl)

/-! ## Steps of the other jobs -/

theorem Kept.erase (h : s.Kept) {d : String} (hn : s.isNeeded d = false)
    (hnx : ∀ t : SharedArtifacts, t.Locked job next) :
    ({ s with files := s.files.erase d }.goto job next).Kept := by
  have hk {other : String} {size : Nat} (hne : other ≠ d)
      (hv : s.verifies other size = true) :
      { s with files := s.files.erase d }.verifies other size = true := by
    simpa [verifies, s.files.get?_erase_ne hne] using hv
  simp only [isNeeded, Bool.or_eq_false_iff, List.any_eq_false, Bool.and_eq_true,
    decide_eq_true_eq, not_and] at hn
  refine .goto h.blob (fun row hr ha => ?_) (fun other _ => ?_) (hnx _)
  · refine hk (fun hs => ?_) (h.bytes row hr ha)
    exact hn.1 row hr hs ha
  · have hl := h.locked other
    cases ho : s.jobs other with
    | put put phase =>
      rw [ho] at hl
      intro hp
      obtain ⟨hwriter, hsize, hv⟩ := hl hp
      refine ⟨hwriter, hsize, fun hp => hk (fun hs => ?_) (hv hp)⟩
      simp [hwriter, ho, hs, hp] at hn
    | _ => trivial

theorem Kept.retire (h : s.Kept) (hw : s.writer = none) (cs : List ArtifactRow) :
    (s.retire job cs).Kept := by
  refine .goto (fun row hr => ?_) (fun row hr => h.bytes row (List.mem_filter.1 hr).1)
    (fun other _ => (h.locked other).of_not_writer (by simp [hw])) trivial
  refine (SortedMap.get?_filter _ _).2 ⟨h.blob row (List.mem_filter.1 hr).1, ?_⟩
  -- a blob row goes only if none of the rows that stay refers to it
  rw [Bool.not_eq_true', List.contains_eq_mem, decide_eq_false_iff_not]
  intro hm
  have hf := (List.mem_filter.1 hm).2
  rw [Bool.not_eq_true', List.any_eq_false] at hf
  exact hf row hr (decide_eq_true rfl)

theorem Kept.markCorrupt (h : s.Kept) (d : String) (hn : s.Locked job next) :
    ({ s with artifacts := s.markCorrupt d }.goto job next).Kept := by
  refine .goto (fun row hr => ?_) (fun row hr ha => ?_) (fun other _ => h.locked other) hn
  · obtain ⟨old, hol, rfl⟩ := List.mem_map.1 hr
    split
    · exact h.blob old hol
    · exact h.blob old hol
  · obtain ⟨old, hol, rfl⟩ := List.mem_map.1 hr
    split at ha
    · cases ha
    · rename_i ho
      rw [if_neg ho]
      exact h.bytes old hol ha

theorem Kept.advance (h : s.Kept) (hsp : s.destroys job .advance = false)
    (hs : s.advance backend limits job = some t) : t.Kept := by
  unfold SharedArtifacts.advance at hs
  unfold destroys at hsp
  split at hs
  · rename_i hj
    exact h.advancePut hj hs
  · simp only [Option.ite_none_right_eq_some, Option.some.injEq] at hs
    obtain ⟨-, rfl⟩ := hs
    exact h.move _ trivial
  · cases hs
    exact h.move s.staged trivial
  · rename_i hj
    cases hs
    exact h.erase (by simpa [hj] using hsp) fun _ => trivial
  · cases hs
    exact h.move s.staged trivial
  · cases hs
    refine h.move s.staged ?_
    split <;> trivial
  · cases hs
    exact h.move s.staged trivial
  · simp only [Option.ite_none_right_eq_some, Option.some.injEq] at hs
    obtain ⟨-, rfl⟩ := hs
    exact h.markCorrupt _ trivial
  · cases hs
    refine h.move s.staged ?_
    split <;> trivial
  · cases hs
    exact h.move s.staged trivial
  · rename_i hj
    cases hs
    exact h.erase (by simpa [hj] using hsp) fun _ => trivial
  all_goals cases hs

/-- **One step.** -/
theorem Kept.step (h : s.Kept) {a : ArtifactAction} (hsp : s.destroys job a = false)
    (hs : s.step backend limits job a = some t) : t.Kept := by
  unfold SharedArtifacts.step at hs
  split at hs
  · cases hs
    exact h.move _ fun hp => absurd rfl hp
  · cases hs
    exact h.move s.staged trivial
  · simp only [maintenance] at hs
    split at hs
    · cases hs
      exact h.move s.staged trivial
    · simp only [Option.ite_none_right_eq_some, Option.some.injEq, Option.isNone_iff_eq_none] at hs
      obtain ⟨hwriter, rfl⟩ := hs
      exact h.retire hwriter _
  · simp only [Option.ite_none_right_eq_some, Option.some.injEq] at hs
    obtain ⟨-, rfl⟩ := hs
    exact h.move s.staged trivial
  · exact h.advance hsp hs
  · cases hs
    refine .goto h.blob h.bytes (fun other hn => ?_) trivial
    have hl := h.locked other
    cases ho : s.jobs other with
    | put put phase =>
      rw [ho] at hl
      intro hp
      obtain ⟨hwriter, hsize, hv⟩ := hl hp
      exact ⟨by simp [hwriter, hn], hsize, hv⟩
    | _ => trivial
  · cases hs

theorem Kept.run (h : s.Kept) {acs : List (Nat × ArtifactAction)}
    (hs : isSparing backend limits s acs = true) : (s.run backend limits acs).Kept := by
  induction acs generalizing s with
  | nil => exact h
  | cons action acs ih =>
    simp only [isSparing, Bool.and_eq_true, Bool.not_eq_true'] at hs
    have hst : ((s.step backend limits action.1 action.2).getD s).Kept := by
      cases hst : s.step backend limits action.1 action.2 with
      | none => exact h
      | some t => exact h.step hs.1 hst
    exact ih hst hs.2

end

/-! ## A put behind a maintenance pass -/

namespace RepeatedPut

@[reducible] def host : Host := OneValue.host.toHost

def put (artifactId : String) (expiresAt : DateTime) : ArtifactPut :=
  { artifactId, runId := "run", bytes := [1, 2, 3], expiresAt }

def advance (job n : Nat) : List (Nat × ArtifactAction) := List.replicate n (job, .advance)

/-- The first artifact has expired, and a maintenance pass removes its rows. Before it removes the
bytes, they are put again. -/
def actions : List (Nat × ArtifactAction) :=
  (0, .put (put "first" 10)) :: advance 0 6 ++ (1, .maintain 10 fun _ => false) ::
    (2, .put (put "second" 20)) :: advance 2 5 ++ advance 1 1

def after (n : Nat) : SharedArtifacts := @run host .localFiles ⟨100, 100⟩ {} (actions.take n)

end RepeatedPut

end SharedArtifacts

end Woml
