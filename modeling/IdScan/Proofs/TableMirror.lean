import IdScan.Proofs.RoundTrip

/-! # The table, the list and the file

  Where no handler is midway, row `k + 1` of the table shows record `k` of the
  list under that number, a selected row opens the record it shows, and an
  exported file has that record under the same number.
-/

namespace IdScan

namespace GuiReader

open LTS

/-- The row shows the record under this number. -/
structure Shows (row : TableRow) (index : Nat) (data : CardInfo) : Prop where
  index : row.index = index
  cid : row.cid = data.cid
  th_fullname : row.th_fullname = data.th_fullname
  en_fullname : row.en_fullname = data.en_fullname
  birth_date : row.birth_date = data.birth_date
  gender : row.gender = data.gender
  timestamp : row.timestamp = data.timestamp

theorem shows_iff {row : TableRow} {index : Nat} {data : CardInfo} :
    Shows row index data ↔ row = tableRow index data := by
  constructor
  · intro h
    cases row
    simp only [tableRow, TableRow.mk.injEq]
    exact ⟨h.index, h.cid, h.th_fullname, h.en_fullname, h.birth_date, h.gender, h.timestamp⟩
  · rintro rfl
    exact ⟨rfl, rfl, rfl, rfl, rfl, rfl, rfl⟩

/-- A row that shows a record under its number opens it. -/
theorem view_details_of_shows {g : Gui} {row : TableRow} {k : Nat} {data : CardInfo}
    (hrow : Shows row (k + 1) data) (hk : g.card_data_list[k]? = some data) :
    view_details g row = some data := by
  simp [view_details, hrow.index, hk]

/-- The cells of a record in a file, as they are read: its number, the two names
    of the window, and its own values. -/
def fileCells (g : Gui) (index : Nat) (data : CardInfo) : Csv.Row :=
  decimal index :: readBackText (some g.project_name) :: readBackText (some g.school_name) ::
    (values data).map readBackText

theorem deliveredRow_eq (g : Gui) (index : Nat) (data : CardInfo) :
    deliveredRow g index data = fileCells g index data := by
  unfold fileCells
  rw [← readBackText_decimal index]
  rfl

/-- **The table mirrors the list** wherever no handler is midway. Row `k + 1`
    shows record `k`, and whichever row is selected, its number is inside the
    list, `view_details` opens the record it shows, and the file that is exported
    has a row for each record, with the cells of that record at the place of its
    number. -/
theorem table_mirrors_list (s : Sys) (h : Reachable (program.restrict InsertsSucceed) s)
    (hmain : s.main = []) :
    s.gui.tree.length = s.gui.card_data_list.length ∧
      (∀ (k : Nat) (data : CardInfo), s.gui.card_data_list[k]? = some data →
        ∃ row, s.gui.tree[k]? = some row ∧ Shows row (k + 1) data) ∧
      ∀ row ∈ s.gui.tree, 1 ≤ row.index ∧ row.index ≤ s.gui.card_data_list.length ∧
        ∃ data rows, s.gui.card_data_list[row.index - 1]? = some data ∧
          Shows row row.index data ∧ view_details s.gui row = some data ∧
          Csv.excel.openText (export_to_csv s.gui)
            = .table (fieldnames.map Column.name) rows .eof ∧
          rows.length = s.gui.card_data_list.length ∧
          rows[row.index - 1]? = some (fileCells s.gui row.index data) := by
  have hrows : s.gui.tree = tableRows s.gui.card_data_list :=
    (mirrors_reachable h).rows (by simp [hmain])
  refine ⟨by simp [hrows], ?_, ?_⟩
  · intro k data hdata
    refine ⟨tableRow (k + 1) data, ?_, shows_iff.mpr rfl⟩
    rw [hrows, tableRows_getElem?, hdata, Option.map_some]
  · intro row hrow
    -- the row stands at some place `k`, and its number is `k + 1`
    rw [hrows] at hrow
    obtain ⟨k, hk⟩ := List.getElem?_of_mem hrow
    rw [tableRows_getElem?, Option.map_eq_some_iff] at hk
    obtain ⟨data, hdata, heq⟩ := hk
    have hshows : Shows row (k + 1) data := shows_iff.mpr heq.symm
    have hlt : k < s.gui.card_data_list.length := (List.getElem?_eq_some_iff.mp hdata).1
    rw [hshows.index]
    refine ⟨by omega, by omega, data, _, hdata, hshows, view_details_of_shows hshows hdata,
      openText_export_to_csv s.gui, by simp, ?_⟩
    rw [← deliveredRow_eq, List.getElem?_map, List.getElem?_zipIdx, Nat.add_sub_cancel, hdata]
    simp [Nat.add_comm]

/-- Two rows, imported. -/
theorem table_mirrors_list_threeRows :
    ∃ s, Reachable (program.restrict InsertsSucceed) s ∧ s.main = [] ∧
      s.gui.tree.map (fun row => (row.index, row.cid, row.th_fullname))
        = [(1, "11".toList, "ก ข".toList), (2, "22".toList, "ค".toList)] ∧
      s.gui.tree.length = s.gui.card_data_list.length ∧
      (∀ (k : Nat) (data : CardInfo), s.gui.card_data_list[k]? = some data →
        ∃ row, s.gui.tree[k]? = some row ∧ Shows row (k + 1) data) ∧
      ∀ row ∈ s.gui.tree, ∃ data rows, s.gui.card_data_list[row.index - 1]? = some data ∧
        Shows row row.index data ∧ view_details s.gui row = some data ∧
        Csv.excel.openText (export_to_csv s.gui)
          = .table (fieldnames.map Column.name) rows .eof ∧
        rows[row.index - 1]? = some (fileCells s.gui row.index data) := by
  have hrun : (runActs .start threeRowsActs).map (fun s =>
      (s.main, s.gui.tree.map fun row => (row.index, row.cid, row.th_fullname)))
      = some ([], [(1, "11".toList, "ก ข".toList), (2, "22".toList, "ค".toList)]) := by
    decide +kernel
  obtain ⟨s, hs, hend⟩ := Option.map_eq_some_iff.mp hrun
  obtain ⟨hmain, htree⟩ := Prod.mk.inj hend
  have hreach : Reachable (program.restrict InsertsSucceed) s :=
    ((run_of_runActs hs).restrict (by simp [threeRowsActs, InsertsSucceed])).reachable (.init rfl)
  obtain ⟨hlen, hshown, hrows⟩ := table_mirrors_list s hreach hmain
  refine ⟨s, hreach, hmain, htree, hlen, hshown, fun row hrow => ?_⟩
  obtain ⟨-, -, data, rows, hdata, hshows, hview, hfile, -, hcells⟩ := hrows row hrow
  exact ⟨data, rows, hdata, hshows, hview, hfile, hcells⟩

end GuiReader

end IdScan
