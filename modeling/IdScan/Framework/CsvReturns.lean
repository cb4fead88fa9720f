import IdScan.Framework.CsvDict

/-! # The carriage returns of a written file

  The writer ends each row with one carriage return and a line feed, and brings
  every other one from a field. So a file tells by their number whether its
  fields hold any, and no file is written both from fields that do and, in as
  many rows, from fields that do not.
-/

namespace Csv

namespace Dialect

variable (d : Dialect)

theorem delimiter_ne_cr : d.delimiter ≠ '\r' := by
  intro h
  have hnot := d.delimiter_not_newline
  rw [h] at hnot
  exact absurd hnot (by decide)

theorem quotechar_ne_cr : d.quotechar ≠ '\r' := by
  intro h
  have hnot := d.quotechar_not_newline
  rw [h] at hnot
  exact absurd hnot (by decide)

theorem count_cr_doubleQuotes (f : Field) : (d.doubleQuotes f).count '\r' = f.count '\r' := by
  induction f with
  | nil => rfl
  | cons c cs ih =>
    unfold doubleQuotes
    by_cases hq : c = d.quotechar
    · have hc : c ≠ '\r' := by
        rw [hq]
        exact d.quotechar_ne_cr
      rw [if_pos hq, List.count_cons_of_ne hc, List.count_cons_of_ne hc, List.count_cons_of_ne hc]
      exact ih
    · rw [if_neg hq, List.count_cons, List.count_cons, ih]

theorem count_cr_writeField (f : Field) : (d.writeField f).count '\r' = f.count '\r' := by
  unfold writeField
  by_cases hquotes : d.needsQuotes f = true
  · rw [if_pos hquotes, List.count_cons_of_ne d.quotechar_ne_cr, List.count_append,
      count_cr_doubleQuotes, List.count_singleton]
    simp [d.quotechar_ne_cr]
  · rw [if_neg hquotes]

theorem count_cr_joinFields (row : Row) :
    (d.joinFields row).count '\r' = row.flatten.count '\r' := by
  induction row with
  | nil => rfl
  | cons f fs ih =>
    cases fs with
    | nil =>
      rw [List.flatten_singleton]
      exact d.count_cr_writeField f
    | cons g gs =>
      show (d.writeField f ++ d.delimiter :: d.joinFields (g :: gs)).count '\r' = _
      rw [List.count_append, List.count_cons_of_ne d.delimiter_ne_cr, count_cr_writeField, ih,
        ← List.count_append, ← List.flatten_cons]

theorem count_cr_rowText (row : Row) : (d.rowText row).count '\r' = row.flatten.count '\r' := by
  unfold rowText
  by_cases hempty : row = [[]]
  · rw [if_pos hempty, hempty, List.count_cons_of_ne d.quotechar_ne_cr,
      List.count_cons_of_ne d.quotechar_ne_cr]
    rfl
  · rw [if_neg hempty, count_cr_joinFields]

/-- One for each row, and those of the fields. -/
theorem count_cr_writeRows (rows : List Row) :
    (d.writeRows rows).count '\r' = rows.length + rows.flatten.flatten.count '\r' := by
  induction rows with
  | nil => rfl
  | cons row rows ih =>
    have hrow : (d.writeRow row).count '\r' = row.flatten.count '\r' + 1 := by
      rw [writeRow, List.count_append, count_cr_rowText]
      rfl
    show (d.writeRow row ++ d.writeRows rows).count '\r' = _
    rw [List.count_append, hrow, ih, List.length_cons, List.flatten_cons, List.flatten_append,
      List.count_append]
    omega

/-- No field holds a carriage return exactly if all of them together hold none. -/
theorem count_cr_flatten_eq_zero_iff {rows : List Row} :
    rows.flatten.flatten.count '\r' = 0 ↔ ∀ row ∈ rows, ∀ f ∈ row, '\r' ∉ f := by
  rw [List.count_eq_zero]
  constructor
  · intro h row hrow f hf hmem
    exact h (List.mem_flatten.mpr ⟨f, List.mem_flatten.mpr ⟨row, hrow, hf⟩, hmem⟩)
  · intro h hmem
    obtain ⟨f, hf, hmem⟩ := List.mem_flatten.mp hmem
    obtain ⟨row, hrow, hf⟩ := List.mem_flatten.mp hf
    exact h row hrow f hf hmem

/-- **Files of as many rows tell whether a field holds a carriage return.** -/
theorem cr_not_mem_of_writeRows_eq {rows rows' : List Row} (hlen : rows.length = rows'.length)
    (heq : d.writeRows rows = d.writeRows rows')
    (hnone : ∀ row ∈ rows', ∀ f ∈ row, '\r' ∉ f) : ∀ row ∈ rows, ∀ f ∈ row, '\r' ∉ f := by
  have hcount := congrArg (List.count '\r') heq
  rw [count_cr_writeRows, count_cr_writeRows, hlen, count_cr_flatten_eq_zero_iff.mpr hnone] at hcount
  rw [← count_cr_flatten_eq_zero_iff]
  omega

end Dialect

end Csv
