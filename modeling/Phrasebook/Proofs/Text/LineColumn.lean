import Phrasebook.Proofs.Text.Parts
import Phrasebook.Proofs.Text.Position
import Phrasebook.Proofs.Text.Runs

/-!
# Lines and columns of offsets

The line and the column of an offset are told by what stands before it. `lineColumn` counts them back from the
offset and `absolutePosition` finds the offset by going through the lines from the start: the two agree for every
offset of a text (`absolutePosition_lineColumn`). What stands before the start of a line does not count for a column.
-/

namespace Phrasebook.Text

open CodePoint (lineFeed)

variable {t u : Text} {n : Nat}

/-- The code points since the last line feed. -/
def lastLine (t : Text) : Text := (t.reverse.takeWhile (· ≠ lineFeed)).reverse

/-- A place is told by what stands before it. -/
theorem lineColumn_append (u v : Text) :
    lineColumn (u ++ v) u.length = (u.count lineFeed + 1, u.lastLine.length + 1) := by
  simp only [lineColumn, lastLine, List.take_left, List.length_reverse]

/-- Without a line feed all of a text is its last line. -/
theorem lastLine_eq_self (h : lineFeed ∉ t) : t.lastLine = t := by
  have htake : t.reverse.takeWhile (fun c => decide (c ≠ lineFeed)) = t.reverse := by
    rw [List.takeWhile_eq_self_iff]
    intro c hc
    rw [decide_eq_true_eq]
    rintro rfl
    exact h (List.mem_reverse.mp hc)
  rw [lastLine, htake, List.reverse_reverse]

/-- What stands before the start of a line is not in the last line. -/
theorem lastLine_append (hu : Stops (· ≠ lineFeed) u.reverse) (t : Text) : (u ++ t).lastLine = t.lastLine := by
  rw [lastLine, List.reverse_append, takeWhile_append_of_stops _ hu, lastLine]

/-- After a line feed stands the start of a line. -/
theorem stops_lineFeed (t : Text) : Stops (· ≠ lineFeed) (t ++ [lineFeed]).reverse := by
  rw [List.reverse_append]
  exact stops_cons.mpr (by simp)

/-- A line is found by counting line feeds. -/
theorem afterLineFeeds_count (u v : Text) :
    afterLineFeeds (u ++ v) (u.count lineFeed) + u.lastLine.length = u.length := by
  by_cases hmem : lineFeed ∈ u
  · obtain ⟨before, after, rfl, hafter⟩ := exists_last hmem
    have hcount : (before ++ lineFeed :: after).count lineFeed = before.count lineFeed + 1 := by
      rw [List.count_append, List.count_cons_self, List.count_eq_zero.mpr hafter]
    have hlast : (before ++ lineFeed :: after).lastLine = after := by
      rw [List.append_cons, lastLine_append (stops_lineFeed before), lastLine_eq_self hafter]
    rw [hcount, hlast, List.append_assoc, List.cons_append, afterLineFeeds_append, List.length_append,
      List.length_cons]
    omega
  · rw [List.count_eq_zero.mpr hmem, lastLine_eq_self hmem, afterLineFeeds, Nat.zero_add]

/-- **Line and column lead back to every offset of a text.** -/
theorem absolutePosition_lineColumn (h : n ≤ t.length) :
    absolutePosition t (lineColumn t n).1 (lineColumn t n).2 = n := by
  obtain ⟨u, v, rfl, rfl⟩ : ∃ u v, t = u ++ v ∧ u.length = n :=
    ⟨t.take n, t.drop n, (List.take_append_drop n t).symm, List.length_take_of_le h⟩
  rw [lineColumn_append, absolutePosition, Nat.add_sub_cancel, Nat.add_sub_cancel]
  exact afterLineFeeds_count u v

end Phrasebook.Text
