import Woml.Artifact.Source

/-!
# Secrets across the pieces of a source

Before every piece the overlap is the end of what was read, of one byte less than the longest
secret. So a secret that was not in what was read is in it together with the piece exactly if it is
in the overlap together with the piece (`infix_carried`), wherever the pieces are cut.
-/

namespace Woml

open Checked

/-- A new occurrence starts in the last bytes, if there is room for it but for one byte. -/
theorem infix_carried {s p : List Nat} {k : Nat} (hs : s.length ≤ k + 1) (hp : ¬s <:+: p)
    (c : List Nat) : s <:+: p.drop (p.length - k) ++ c ↔ s <:+: p ++ c := by
  rw [← List.drop_append_of_le_length (Nat.sub_le ..)]
  refine ⟨fun h => h.trans (List.drop_suffix _ _).isInfix, ?_⟩
  rintro ⟨a, b, he⟩
  by_cases hl : p.length - k ≤ a.length
  · rw [← he, List.append_assoc, List.drop_append_of_le_length hl]
    exact ⟨a.drop (p.length - k), b, by simp⟩
  · -- it would end within what was read
    have ht := congrArg (List.take p.length) he
    rw [List.take_left, List.take_append, List.take_of_length_le (by simp; omega)] at ht
    exact absurd ⟨a, _, ht⟩ hp

namespace SourceReader

variable {r : SourceReader} {p chunk : List Nat} {stage : Option (List Nat)}

/-- Some known secret is in the bytes. -/
def finds (r : SourceReader) (bytes : List Nat) : Bool := r.knownSecrets.any (containsBytes bytes)

theorem finds_iff {bytes : List Nat} :
    r.finds bytes = true ↔ ∃ s ∈ r.knownSecrets, s ≠ [] ∧ s <:+: bytes := by
  simp [finds, containsBytes]

/-- The state when some bytes were read. -/
def whenRead (r : SourceReader) (stage : Option (List Nat)) (p : List Nat) : SourceState :=
  { size := p.length, overlap := p.drop (p.length - r.overlapSize), hashed := p
    stage := stage.map (· ++ p) }

theorem length_le_overlapSize {s : List Nat} (h : s ∈ r.knownSecrets) :
    s.length ≤ r.overlapSize + 1 := by
  unfold overlapSize
  have hm := List.mem_map_of_mem h (f := List.length)
  cases he : (r.knownSecrets.map List.length).max? with
  | none => simp [List.max?_eq_none_iff.1 he] at hm
  | some m =>
    have hle := (List.max?_eq_some_iff.1 he).2 _ hm
    simp only [Option.getD_some]
    omega

/-- **One piece.** -/
theorem readChunk_eq (ha : r.secretAction ≠ .allow) (hl : (p ++ chunk).length ≤ r.maxArtifactBytes)
    (hp : r.finds p = false) :
    r.readChunk (r.whenRead stage p) chunk =
      if r.finds (p ++ chunk) then .error artifactQuarantined
      else .ok (r.whenRead stage (p ++ chunk)) := by
  have hs : r.knownSecrets.any (containsBytes (p.drop (p.length - r.overlapSize) ++ chunk)) =
      r.finds (p ++ chunk) := by
    rw [← finds, Bool.eq_iff_iff, finds_iff, finds_iff]
    refine exists_congr fun s => and_congr_right fun hm => and_congr_right fun hn => ?_
    refine infix_carried (length_le_overlapSize hm) (fun h => ?_) chunk
    rw [finds_iff.2 ⟨s, hm, hn, h⟩] at hp
    cases hp
  -- what the overlap and the piece leave is the end of what was read with the piece
  have ho : (p.drop (p.length - r.overlapSize) ++ chunk).drop
      ((p.drop (p.length - r.overlapSize) ++ chunk).length -
        min (p.drop (p.length - r.overlapSize) ++ chunk).length r.overlapSize) =
      (p ++ chunk).drop ((p ++ chunk).length - r.overlapSize) := by
    rw [← List.drop_append_of_le_length (Nat.sub_le ..), List.drop_drop, List.length_drop]
    congr 1
    simp only [List.length_append]
    omega
  have hst : (stage.map (· ++ p)).map (· ++ chunk) = stage.map (· ++ (p ++ chunk)) := by
    cases stage <;> simp
  simp only [readChunk, whenRead, hs, ho, hst, ← List.length_append, failIf, if_neg (not_lt.2 hl),
    ok_bind]
  by_cases hk : r.knownSecrets = []
  · simp [finds, overlapSize, hk]
  · by_cases hf : r.finds (p ++ chunk) = true <;> simp [ha, hk, hf, error_bind]

theorem readTurns_eq (ha : r.secretAction ≠ .allow) (chunks : List (List Nat))
    (hc : ∀ chunk ∈ chunks, chunk ≠ []) (hl : (p ++ chunks.flatten).length ≤ r.maxArtifactBytes)
    (hp : r.finds p = false) :
    r.readTurns (r.whenRead stage p) (chunks.map fun chunk => { read := .ok chunk }) =
      if r.finds (p ++ chunks.flatten) then .error artifactQuarantined
      else .ok (r.whenRead stage (p ++ chunks.flatten)) := by
  induction chunks generalizing p with
  | nil => simp [readTurns, hp]
  | cons chunk chunks ih =>
    obtain ⟨hne, hc⟩ := List.forall_mem_cons.1 hc
    rw [List.flatten_cons, ← List.append_assoc] at hl ⊢
    have hle : (p ++ chunk).length ≤ r.maxArtifactBytes := by simp at hl ⊢; omega
    simp only [List.map_cons, readTurns, failIf, ok_bind, readChunk_eq ha hle hp]
    cases hf : r.finds (p ++ chunk) with
    | true =>
      -- what is found in the first bytes is found in all
      obtain ⟨s, hs, hn, hi⟩ := finds_iff.1 hf
      have hfa := finds_iff.2 ⟨s, hs, hn, hi.trans (List.prefix_append _ chunks.flatten).isInfix⟩
      rw [hfa]
      simp [hne]
    | false => simp [hne, ih hc hl hf, ok_bind]

/-- A file whose bytes are read in pieces, and that does not change. -/
def unchanging (identity : SourceIdentity) (chunks : List (List Nat)) : SourceFile :=
  { before := .ok identity, turns := chunks.map fun chunk => { read := .ok chunk }
    after := .ok identity }

/-- **A source is refused exactly if some known secret is in its bytes**, wherever the reads cut
them. Otherwise the digest and the size are those of its bytes, which are written to the stage. -/
theorem source_refused_iff [Host] (r : SourceReader) (ha : r.secretAction ≠ .allow)
    (chunks : List (List Nat)) (hc : ∀ chunk ∈ chunks, chunk ≠ []) (identity : SourceIdentity)
    (hi : identity.length = chunks.flatten.length) (hl : identity.length ≤ r.maxArtifactBytes)
    (destination : Option (List Nat)) :
    (r.readSource (unchanging identity chunks) destination = .error artifactQuarantined ↔
      ∃ s ∈ r.knownSecrets, s ≠ [] ∧ s <:+: chunks.flatten) ∧
    ((¬∃ s ∈ r.knownSecrets, s ≠ [] ∧ s <:+: chunks.flatten) →
      r.readSource (unchanging identity chunks) destination =
        .ok (identity, Host.sha256 chunks.flatten, chunks.flatten.length,
          destination.map (· ++ chunks.flatten))) := by
  have hr := @readTurns_eq r [] destination ha chunks hc
    (by simpa [← hi] using hl) (by simp [finds, containsBytes])
  rw [← finds_iff]
  simp only [whenRead, List.append_nil, Option.map_id', List.length_nil, List.drop_nil] at hr
  simp only [readSource, unchanging, hr, ok_bind, failIf, if_neg (not_lt.2 hl)]
  by_cases hf : r.finds chunks.flatten = true <;> simp [hf, hi]

/-- A secret that three pieces hold together is found. -/
theorem secret_in_three_pieces :
    @readSource ⟨100, .quarantine, [[1, 2, 3]]⟩ default
      (unchanging ⟨5, none, 0, 0⟩ [[7, 1], [2], [3, 8]]) (some []) = .error artifactQuarantined :=
  (@source_refused_iff default ⟨100, .quarantine, [[1, 2, 3]]⟩ (by decide) [[7, 1], [2], [3, 8]]
    (by decide) ⟨5, none, 0, 0⟩ rfl (by decide) (some [])).1.2
    ⟨[1, 2, 3], by decide, by decide, [7], [8], rfl⟩

/-- An empty secret is in the bytes of every source, and is never searched for. -/
theorem empty_secret_passes :
    [] <:+: [7] ∧ @readSource ⟨100, .quarantine, [[]]⟩ default
      (unchanging ⟨1, none, 0, 0⟩ [[7]]) none =
        .ok (⟨1, none, 0, 0⟩, @Host.sha256 default [7], 1, none) :=
  ⟨List.nil_infix, rfl⟩

end SourceReader

end Woml
