import GeckScript.Proofs.Lookup.Word
import Mathlib.Algebra.GroupWithZero.Nat
import Mathlib.Data.List.DropRight

/-!
The word at a column as a scan outwards from the column: the lookup characters on its left up to the
first other one, and those on its right. Runs of lookup characters keep at least one other character
between them, so a column belongs to one run at most.
-/

namespace GeckScript

open Regex

namespace Regex

namespace Cursor

/-- The bytes in front of a position. -/
def offset (s : Cursor) : Nat :=
  (s.before.map Char.utf8Size).sum

theorem offset_advance (s : Cursor) (n : Nat) :
    (s.advance n).offset = ((s.after.take n).map Char.utf8Size).sum + s.offset := by
  simp only [offset, before_advance, List.map_append, List.map_reverse, List.sum_append,
    List.sum_reverse]

theorem offset_lt_offset {s t : Cursor} (htext : s.text = t.text) (hlt : s.column < t.column) :
    s.offset < t.offset := by
  have hadvance := advance_sub_column htext hlt.le
  obtain ⟨before, after⟩ := s
  cases after with
  | nil =>
    rw [← hadvance] at hlt
    simp [advance] at hlt
  | cons c after =>
    obtain ⟨n, hn⟩ : ∃ n, t.column - (⟨before, c :: after⟩ : Cursor).column = n + 1 :=
      Nat.exists_eq_add_one.2 (by omega)
    have hsize := c.utf8Size_pos
    rw [← hadvance, offset_advance, hn, List.take_succ_cons, List.map_cons, List.sum_cons]
    omega

/-- Positions of a text lie in the same order by their bytes and by their columns. -/
theorem offset_le_offset_iff {s t : Cursor} (htext : s.text = t.text) :
    s.offset ≤ t.offset ↔ s.column ≤ t.column := by
  constructor
  · intro hle
    by_contra hnot
    have hlt := offset_lt_offset htext.symm (Nat.lt_of_not_le hnot)
    omega
  · intro hle
    rcases Nat.lt_or_eq_of_le hle with hlt | heq
    · exact (offset_lt_offset htext hlt).le
    · have hadvance := advance_sub_column htext hle
      rw [heq, Nat.sub_self, advance_zero] at hadvance
      rw [hadvance]

end Cursor

/-- Whether a column of a line belongs to a match: from its start to its end, and behind the line if
it ends the line. -/
def Found.Answers (m : Found) (line : String) (column : Nat) : Prop :=
  m.start.column ≤ column ∧ (column ≤ m.stop.column ∨ m.stop.column = line.length)

theorem Found.IsRun.answers_iff {p : Char → Bool} {line : String} {m : Found}
    (h : m.IsRun p line.toList) {column : Nat} :
    m.Answers line column ↔ m.Touches (min column line.length) := by
  have hstop := h.column_stop_le
  rw [String.length_toList] at hstop
  have hstart : m.start.column ≤ m.stop.column := by
    rw [h.column_stop]
    omega
  rw [Answers, Touches]
  omega

end Regex

def cursorAt (line : String) (column : Nat) : Cursor :=
  (Cursor.start line.toList).advance column

theorem text_cursorAt (line : String) (column : Nat) : (cursorAt line column).text = line.toList :=
  Cursor.text_advance _ _

theorem column_cursorAt (line : String) (column : Nat) :
    (cursorAt line column).column = min column line.length := by
  simp [cursorAt, Cursor.advance, Cursor.column, String.length_toList]

def charsAround (line : String) (column : Nat) : List Char :=
  (line.toList.take column).rtakeWhile isLookupChar ++
    (line.toList.drop column).takeWhile isLookupChar

theorem chars_around_cursorAt (line : String) (column : Nat) :
    (Found.around isLookupChar (cursorAt line column)).chars = charsAround line column := by
  rw [Found.chars_around, cursorAt, Cursor.before_advance, Cursor.before_start, List.append_nil]
  rfl

theorem wordAt_eq_some_iff {line : String} {column : Nat} {w : String} :
    wordAt wordRegex line column = some w ↔
      ∃ m : Found, m.IsRun isLookupChar line.toList ∧ m.Touches (min column line.length) ∧
        m.text = w := by
  constructor
  · intro h
    rw [wordAt, findAll_wordRegex] at h
    obtain ⟨m, hfind, htext⟩ := Option.map_eq_some_iff.1 h
    have htouches := List.find?_some hfind
    simp only [Bool.and_eq_true, decide_eq_true_eq] at htouches
    exact ⟨m, Found.mem_runs_iff.1 (List.mem_of_find?_eq_some hfind), htouches, htext⟩
  · rintro ⟨m, hrun, htouches, rfl⟩
    exact wordAt_of_touches hrun htouches

theorem wordAt_eq_charsAround (line : String) (column : Nat) :
    wordAt wordRegex line column =
      if charsAround line column = [] then none
      else some (String.ofList (charsAround line column)) := by
  rw [← chars_around_cursorAt]
  split
  · next hnil =>
    -- a run at the column would be what is around it
    rw [Option.eq_none_iff_forall_ne_some]
    intro w hw
    obtain ⟨m, hrun, htouches, -⟩ := wordAt_eq_some_iff.1 hw
    rw [← text_cursorAt line column] at hrun
    rw [← column_cursorAt] at htouches
    rw [hrun.around_eq htouches] at hnil
    exact hrun.chars_ne_nil hnil
  · next hne =>
    have hrun := Found.isRun_around hne
    have hstart := Found.column_start_around isLookupChar (cursorAt line column)
    have hstop := Found.column_stop_around isLookupChar (cursorAt line column)
    rw [text_cursorAt] at hrun
    refine wordAt_of_touches hrun ?_
    rw [← column_cursorAt]
    exact ⟨by omega, by omega⟩

/-- Comparing bytes instead of columns finds the same word. -/
theorem wordAt_eq_byOffset (line : String) (column : Nat) :
    wordAt wordRegex line column =
      ((wordRegex.findAll line.toList).find? fun m =>
        m.start.offset ≤ (cursorAt line column).offset &&
          (cursorAt line column).offset ≤ m.stop.offset).map Found.text := by
  rw [wordAt, ← List.head?_filter, ← List.head?_filter]
  congr 2
  refine List.filter_congr fun m hm => ?_
  rw [findAll_wordRegex, Found.mem_runs_iff] at hm
  have htext := text_cursorAt line column
  have hstart : m.start.text = (cursorAt line column).text := hm.text_eq.trans htext.symm
  have hstop : (cursorAt line column).text = m.stop.text := by
    rw [hm.stop_eq, Cursor.text_advance, hstart]
  simp only [Cursor.offset_le_offset_iff hstart, Cursor.offset_le_offset_iff hstop, column_cursorAt]

/-- The word at a column is what a scan outwards finds: the lookup characters right in front of it
and those right behind it, and none if there are none on either side. So a run answers for the
columns from its start to its end, and for those behind the line if it ends the line, and two runs
never answer for the same column. -/
theorem wordAt_eq_scan_outwards (line : String) (column : Nat) :
    (let k := min column line.length
      let left := (line.toList.take k).rtakeWhile isLookupChar
      let right := (line.toList.drop k).takeWhile isLookupChar
      wordAt wordRegex line column =
        if left = [] ∧ right = [] then none else some (String.ofList (left ++ right))) ∧
      (∀ w, wordAt wordRegex line column = some w ↔
        ∃ m : Found, m.IsRun isLookupChar line.toList ∧ m.Answers line column ∧ m.text = w) ∧
      ∀ m m' : Found, m.IsRun isLookupChar line.toList → m'.IsRun isLookupChar line.toList →
        m.Answers line column → m'.Answers line column → m = m' := by
  refine ⟨?_, fun w => ?_, fun m m' hrun hrun' hanswers hanswers' => ?_⟩
  · -- behind the end of the line there is no more to take or to drop
    have htake : line.toList.take (min column line.length) = line.toList.take column := by
      rw [← String.length_toList, ← List.take_eq_take_min]
    have hdrop : line.toList.drop (min column line.length) = line.toList.drop column := by
      rw [← String.length_toList, ← List.drop_eq_drop_min]
    dsimp only
    rw [htake, hdrop, wordAt_eq_charsAround]
    simp only [charsAround, List.append_eq_nil_iff]
  · rw [wordAt_eq_some_iff]
    refine exists_congr fun m => and_congr_right fun hrun => ?_
    rw [hrun.answers_iff]
  · exact hrun.eq_of_touches hrun' (hrun.answers_iff.1 hanswers) (hrun'.answers_iff.1 hanswers')

end GeckScript
