import Woml.Compiler.Source

/-!
# Positions and offsets are inverse to each other

The lines of a text cover its offsets, the end of the text included (`OnLine`). `positionAt` finds
the line of an offset by bisection (`search_onLine`), and an offset on a line is at one column.
-/

namespace Woml.Compiler.SourceFile

variable (file : SourceFile)

/-- The offset after a line, counted from 0: the start of the next line. The end of the text is on
the last line. -/
def lineEnd (index : Nat) : Nat :=
  if index + 1 < file.lines then file.lineStart (index + 1) else file.text.length + 1

structure OnLine (offset index : Nat) : Prop where
  lt : index < file.lines
  le : file.lineStart index ≤ offset
  before : offset < file.lineEnd index

variable {file} {offset index i j : Nat}

theorem lineStart_mono (hij : i ≤ j) (hj : j < file.lines) :
    file.lineStart i ≤ file.lineStart j := by
  have hs : file.lineStarts.Pairwise (· ≤ ·) := by
    refine List.pairwise_cons.2 ⟨fun _ _ => Nat.zero_le _, List.pairwise_map.2 ?_⟩
    exact (List.pairwise_lt_range.filter _).imp fun h => Nat.succ_le_succ (le_of_lt h)
  rcases Nat.lt_or_eq_of_le hij with h | rfl
  · rw [lineStart, lineStart, List.getD_eq_getElem _ _ hj, List.getD_eq_getElem _ _ (h.trans hj)]
    exact List.pairwise_iff_getElem.1 hs i j _ hj h
  · rfl

theorem lineEnd_le : file.lineEnd index ≤ file.text.length + 1 := by
  unfold lineEnd
  split
  · rename_i hi
    rw [lineStart, List.getD_eq_getElem _ _ hi]
    obtain ⟨k, hm, h⟩ := List.mem_map.1 (List.getElem_mem (Nat.lt_of_succ_lt_succ hi))
    exact h ▸ Nat.succ_le_succ (le_of_lt (List.mem_range.1 (List.mem_filter.1 hm).1))
  · rfl

/-- A line that starts at or before an offset is not after the line of the offset. -/
theorem OnLine.last (h : file.OnLine offset index) (hi : i < file.lines)
    (hs : file.lineStart i ≤ offset) : i ≤ index := by
  by_contra hlt
  have he := h.before
  rw [lineEnd, if_pos (by omega)] at he
  have := lineStart_mono (show index + 1 ≤ i by omega) hi
  omega

/-- The search keeps the start at `low` at or before the offset and the one at `high` after it. -/
theorem search_onLine {low high : Nat} (ho : offset ≤ file.text.length) (hlt : low < high)
    (hh : high ≤ file.lines) (hlow : file.lineStart low ≤ offset)
    (hhigh : high < file.lines → offset < file.lineStart high) :
    file.OnLine offset (file.search offset low high) := by
  fun_induction search file offset low high with
  | case1 low high h middle hm ih => exact ih (by omega) hh hm hhigh
  | case2 low high h middle hm ih => exact ih (by omega) (by omega) hlow fun _ => by omega
  | case3 low high h =>
    obtain rfl : high = low + 1 := by omega
    refine ⟨by omega, hlow, ?_⟩
    unfold lineEnd
    split
    · exact hhigh ‹_›
    · omega

theorem onLine_search (ho : offset ≤ file.text.length) :
    file.OnLine offset (file.search offset 0 file.lines) :=
  search_onLine ho (Nat.succ_pos _) le_rfl (Nat.zero_le _) fun h => absurd h (lt_irrefl _)

theorem clamp_of_le (h : offset ≤ file.text.length) : file.clamp offset = offset := by
  unfold clamp
  omega

theorem clamp_le (rawOffset : Int) : file.clamp rawOffset ≤ file.text.length := by
  unfold clamp
  omega

theorem offsetAt_eq {column : Nat} (h : file.OnLine (file.lineStart index + column) index) :
    file.offsetAt (index + 1) (column + 1) = file.lineStart index + column := by
  have hl := h.lt
  have hb := h.before
  have hs : (max 1 (min (index + 1 : Int) file.lines)).toNat = index + 1 := by omega
  simp only [offsetAt, hs, lineEnd, Nat.add_sub_cancel] at hb ⊢
  split at hb <;> rename_i hn <;> simp only [hn, if_true, if_false] <;> omega

/-- The line of a position is that of the last line start up to the offset, positions grow with the
offset, and on the offsets of the text and the positions inside its lines `positionAt` and
`offsetAt` are inverse to each other. -/
theorem positions_and_offsets (file : SourceFile) :
    (∀ rawOffset, ∃ index < file.lines, (file.positionAt rawOffset).line = index + 1 ∧
      file.lineStart index ≤ file.clamp rawOffset ∧
      ∀ i < file.lines, file.lineStart i ≤ file.clamp rawOffset → i ≤ index) ∧
    (∀ a b, a ≤ b → (file.positionAt a).line < (file.positionAt b).line ∨
      (file.positionAt a).line = (file.positionAt b).line ∧
        (file.positionAt a).column ≤ (file.positionAt b).column) ∧
    (∀ offset : Nat, offset ≤ file.text.length →
      file.offsetAt (file.positionAt offset).line (file.positionAt offset).column = offset) ∧
    ∀ index column : Nat, file.OnLine (file.lineStart index + column) index →
      (file.positionAt (file.offsetAt (index + 1) (column + 1))).line = index + 1 ∧
        (file.positionAt (file.offsetAt (index + 1) (column + 1))).column = column + 1 := by
  have hs rawOffset := onLine_search (file.clamp_le rawOffset)
  refine ⟨fun r => ⟨_, (hs r).lt, rfl, (hs r).le, fun _ => (hs r).last⟩, fun a b hab => ?_,
    fun offset ho => ?_, fun index column h => ?_⟩
  · have hc : file.clamp a ≤ file.clamp b := by
      unfold clamp
      omega
    simp only [positionAt]
    rcases Nat.lt_or_eq_of_le ((hs b).last (hs a).lt ((hs a).le.trans hc)) with hl | hl
    · omega
    · rw [hl]
      omega
  · have h := onLine_search ho
    simp only [positionAt, clamp_of_le ho]
    generalize file.search offset 0 file.lines = index at h
    obtain ⟨column, rfl⟩ := Nat.exists_eq_add_of_le h.le
    have hc : ((file.lineStart index + column : Nat) : Int) - file.lineStart index = column := by
      omega
    rw [hc, offsetAt_eq h]
    rfl
  · have ho : file.lineStart index + column ≤ file.text.length :=
      Nat.le_of_lt_succ (h.before.trans_le lineEnd_le)
    have hi := le_antisymm (h.last (onLine_search ho).lt (onLine_search ho).le)
      ((onLine_search ho).last h.lt h.le)
    rw [offsetAt_eq h, ← Int.natCast_add, positionAt, clamp_of_le ho, hi]
    exact ⟨rfl, by simp only; omega⟩

end Woml.Compiler.SourceFile
