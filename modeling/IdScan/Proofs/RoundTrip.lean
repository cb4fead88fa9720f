import IdScan.Proofs.ImportRun
import IdScan.Proofs.Store

/-! # Export and import

  An exported file is read back with every carriage return turned into a line
  feed and every `None` into an empty text. `readBack` is the record
  that comes back, and the two laws are about it:

  * importing into a fresh window restores the exported columns exactly if there
    is no carriage return and no `None` among them;
  * importing into the window that exported only finds duplicates.

  Both are about a file whose cells are all read. A reader with a limit stops at
  the first row with a cell that is too long: `openFile_export_to_csv`.
-/

namespace IdScan

namespace GuiReader

open LTS

/-! ### The file as it is read back -/

/-- The text a value comes back as. -/
def readBackText (v : PyVal) : Str := Csv.universalNewlines (cell v)

theorem cr_not_mem_readBackText (v : PyVal) : '\r' ∉ readBackText v :=
  Csv.cr_not_mem_universalNewlines _

theorem readBackText_eq_self_iff {v : PyVal} :
    some (readBackText v) = v ↔ ∃ text, v = some text ∧ '\r' ∉ text := by
  cases v with
  | none => simp
  | some text => simp [readBackText, cell, Csv.universalNewlines_eq_self_iff]

/-- A number is written without carriage returns. -/
theorem cr_not_mem_decimal (n : Nat) : '\r' ∉ decimal n := by
  intro hmem
  have hdigit : '\r'.isDigit = true :=
    Nat.isDigit_of_mem_toDigits (by decide) (by decide) hmem
  exact absurd hdigit (by decide)

theorem readBackText_decimal (n : Nat) : readBackText (some (decimal n)) = decimal n :=
  Csv.universalNewlines_of_not_mem (cr_not_mem_decimal n)

/-- The row of a record as the reader delivers it. -/
def deliveredRow (g : Gui) (index : Nat) (data : CardInfo) : Csv.Row :=
  fieldnames.map fun c => readBackText (exportRow g index data c)

/-- The names of the columns of an exported file. -/
def exportedNames : Csv.Row := fieldnames.map Column.name

theorem headerAccepted_exportedNames : headerAccepted exportedNames = true := by decide +kernel

/-- **What the reader makes of an exported file.** -/
theorem openText_export_to_csv (g : Gui) :
    Csv.excel.openText (export_to_csv g) = .table exportedNames
      ((g.card_data_list.zipIdx 1).map fun p => deliveredRow g p.2 p.1) .eof := by
  rw [export_to_csv, Csv.excel.openText_dictRows (by simp [fieldnames]) Column.cr_not_mem_name]
  simp only [exportRows, List.map_map]
  rfl

theorem get_deliveredRow (g : Gui) (index : Nat) (data : CardInfo) (c : Column)
    (default : PyVal) :
    DictRow.get ⟨exportedNames, deliveredRow g index data⟩ c default
      = some (readBackText (exportRow g index data c)) := by
  have hlookup := Csv.lookup_map Column.name_injective
    (fun c => readBackText (exportRow g index data c)) (mem_fieldnames c)
  simp only [DictRow.get, DictRow.get?, exportedNames, deliveredRow, hlookup, Option.getD_some]

/-- The record that comes back. -/
def readBack (data : CardInfo) : CardInfo where
  cid := strip (readBackText (some data.cid))
  timestamp := some (readBackText data.timestamp)
  th_title := some (readBackText data.th_title)
  th_firstname := some (readBackText data.th_firstname)
  th_lastname := some (readBackText data.th_lastname)
  th_fullname := joinParts [some (readBackText data.th_title),
    some (readBackText data.th_firstname), some (readBackText data.th_lastname)]
  en_title := some (readBackText data.en_title)
  en_firstname := some (readBackText data.en_firstname)
  en_lastname := some (readBackText data.en_lastname)
  en_fullname := joinParts [some (readBackText data.en_title),
    some (readBackText data.en_firstname), some (readBackText data.en_lastname)]
  birth_date := some (readBackText data.birth_date)
  gender := some (readBackText data.gender)
  issuer := some (readBackText data.issuer)
  issue_date := some (readBackText data.issue_date)
  expire_date := some (readBackText data.expire_date)
  address_house_no := some (readBackText data.address_house_no)
  address_moo_soi := some (readBackText data.address_moo_soi)
  address_subdistrict := some (readBackText data.address_subdistrict)
  address_district := some (readBackText data.address_district)
  address_province := some (readBackText data.address_province)
  address := joinParts [some (readBackText data.address_house_no),
    some (readBackText data.address_moo_soi), some (readBackText data.address_subdistrict),
    some (readBackText data.address_district), some (readBackText data.address_province)]

theorem rowCardInfo_deliveredRow (g : Gui) (index : Nat) (data : CardInfo) (now : Str) :
    rowCardInfo ⟨exportedNames, deliveredRow g index data⟩ (readBack data).cid now
      = readBack data := by
  simp only [rowCardInfo, get_deliveredRow, exportRow]
  rfl

/-- A good cid comes back as a cid that is not blank. -/
theorem strip_readBackText_ne_nil {cid : Str} (h : GoodCid cid) :
    strip (readBackText (some cid)) ≠ [] := by
  obtain ⟨hne, hstrip⟩ := h
  rw [strip, Ne, Text.trim_eq_nil_iff]
  intro hall
  -- the first character is no white space, so it is no line end and stays
  cases cid with
  | nil => exact hne rfl
  | cons c cs =>
    have hc : isspace c = false := Text.head_trim_not hstrip
    have hline : Csv.isNewline c = false := by
      rw [← Bool.not_eq_true]
      intro hline
      simp only [Csv.isNewline, Bool.or_eq_true, beq_iff_eq] at hline
      rcases hline with rfl | rfl <;> simp [isspace] at hc
    have hmem : c ∈ readBackText (some (c :: cs)) :=
      Csv.mem_newlinesFrom_of_mem hline (by simp [cell])
    simp [hall c hmem] at hc

theorem rowCid_deliveredRow {g : Gui} {index : Nat} {data : CardInfo} (h : GoodCid data.cid) :
    rowCid ⟨exportedNames, deliveredRow g index data⟩ = some (readBack data).cid := by
  simp only [rowCid, get_deliveredRow, exportRow]
  rw [if_neg (strip_readBackText_ne_nil h)]
  rfl

/-- Without carriage returns the cid comes back as it was. -/
theorem readBack_cid {data : CardInfo} (hgood : GoodCid data.cid) (hcr : '\r' ∉ data.cid) :
    (readBack data).cid = data.cid := by
  show strip (Csv.universalNewlines data.cid) = data.cid
  rw [Csv.universalNewlines_of_not_mem hcr, hgood.2]

/-! ### Importing into a fresh window -/

/-- A fresh window and a toolkit whose insertions succeed. Every cell is read,
    however long it is. -/
def freshImport (file : List Char) (now : Nat → Str) : Gui × ImportEnd :=
  import_from_csv .start (Csv.excel.openText file) fun n => ⟨now n, true⟩

/-- The import loop over an exported file. -/
theorem freshImport_export (g : Gui) (now : Nat → Str) :
    freshImport (export_to_csv g) now = finishImport (importRows exportedNames (.start .start)
      ((g.card_data_list.zipIdx 1).map fun p => deliveredRow g p.2 p.1)
      fun n => ⟨now n, true⟩) .eof := by
  rw [freshImport, openText_export_to_csv, import_from_csv, if_pos headerAccepted_exportedNames]

/-- Numbering the records is no matter to a function of the records. -/
theorem map_zipIdx_fst {β : Type} (f : CardInfo → β) (l : List CardInfo) (n : Nat) :
    (l.zipIdx n).map (fun p => f p.1) = l.map f := by
  have hcomp : (fun p : CardInfo × Nat => f p.1) = f ∘ Prod.fst := rfl
  rw [hcomp, ← List.map_map, List.zipIdx_map_fst]

/-- Delivered rows of a window give its records, read back. -/
theorem importRows_delivered {g : Gui} (hgood : ∀ data ∈ g.card_data_list, GoodCid data.cid)
    (hnodup : (g.card_data_list.map fun data => (readBack data).cid).Nodup)
    {items : List (CardInfo × Nat)} (hitems : items.Sublist (g.card_data_list.zipIdx 1))
    (now : Nat → Str) :
    (importRows exportedNames (.start .start) (items.map fun p => deliveredRow g p.2 p.1)
          fun n => ⟨now n, true⟩).gui.card_data_list = items.map (fun p => readBack p.1) ∧
      (importRows exportedNames (.start .start) (items.map fun p => deliveredRow g p.2 p.1)
          fun n => ⟨now n, true⟩).counts = ⟨items.length, 0, 0⟩ := by
  have hfst : ∀ p ∈ items, p.1 ∈ g.card_data_list :=
    fun p hp => List.fst_mem_of_mem_zipIdx (hitems.subset hp)
  have hsub := hitems.map fun p => (readBack p.1).cid
  rw [map_zipIdx_fst fun data => (readBack data).cid] at hsub
  obtain ⟨hlist, hcounts⟩ := importRows_new exportedNames
    (fun p : CardInfo × Nat => deliveredRow g p.2 p.1) (fun p => readBack p.1) items
    (.start .start) now
    (fun p hp => rowCid_deliveredRow (hgood p.1 (hfst p hp)))
    (fun p _ => rowCardInfo_deliveredRow g p.2 p.1)
    (hnodup.sublist hsub)
    (fun _ _ => rfl)
  refine ⟨hlist, ?_⟩
  rw [hcounts, ImportLoop.start, Nat.zero_add]

/-- **The records a fresh window imports.** -/
theorem freshImport_records {g : Gui} (hgood : ∀ data ∈ g.card_data_list, GoodCid data.cid)
    (hnodup : (g.card_data_list.map fun data => (readBack data).cid).Nodup)
    (now : Nat → Str) :
    (freshImport (export_to_csv g) now).1.card_data_list
        = g.card_data_list.map readBack ∧
      (freshImport (export_to_csv g) now).2 = .summary ⟨g.card_data_list.length, 0, 0⟩ := by
  obtain ⟨hlist, hcounts⟩ := importRows_delivered hgood hnodup (List.Sublist.refl _) now
  rw [freshImport_export]
  refine ⟨?_, ?_⟩
  · rw [finishImport_list, hlist, map_zipIdx_fst readBack]
  · rw [finishImport, hcounts, List.length_zipIdx]

/-- The values of a record under the columns that are its own. -/
def values (data : CardInfo) : List PyVal :=
  [some data.cid, data.th_title, data.th_firstname, data.th_lastname, data.en_title,
    data.en_firstname, data.en_lastname, data.birth_date, data.gender, data.issuer,
    data.issue_date, data.expire_date, data.address_house_no, data.address_moo_soi,
    data.address_subdistrict, data.address_district, data.address_province, data.timestamp]

/-- A value that a file keeps: a text without carriage returns. -/
def Keepable (v : PyVal) : Prop := ∃ text, v = some text ∧ '\r' ∉ text

instance : DecidablePred Keepable
  | none => isFalse fun ⟨_, h, _⟩ => nomatch h
  | some text => decidable_of_iff ('\r' ∉ text)
      ⟨fun h => ⟨text, rfl, h⟩, fun ⟨_, h, hcr⟩ => Option.some.inj h ▸ hcr⟩

theorem keepable_readBackText (v : PyVal) : Keepable (some (readBackText v)) :=
  ⟨_, rfl, cr_not_mem_readBackText v⟩

theorem keepable_readBack_values (data : CardInfo) : ∀ v ∈ values (readBack data), Keepable v := by
  have hcid : Keepable (some (readBack data).cid) :=
    ⟨_, rfl, fun hmem => cr_not_mem_readBackText _ (Text.mem_of_mem_trim hmem)⟩
  intro v hv
  simp only [values, List.mem_cons, List.not_mem_nil, or_false] at hv
  rcases hv with rfl | rfl | rfl | rfl | rfl | rfl | rfl | rfl | rfl | rfl | rfl | rfl | rfl | rfl |
    rfl | rfl | rfl | rfl
  · exact hcid
  all_goals exact keepable_readBackText _

/-- A record of keepable values comes back with the same values. -/
theorem values_readBack {data : CardInfo} (hgood : GoodCid data.cid)
    (hkeep : ∀ v ∈ values data, Keepable v) : values (readBack data) = values data := by
  have hself : ∀ v ∈ values data, some (readBackText v) = v := fun v hv =>
    readBackText_eq_self_iff.mpr (hkeep v hv)
  obtain ⟨text, htext, hcr⟩ := hkeep (some data.cid) (by simp [values])
  have hcid : strip (readBackText (some data.cid)) = data.cid :=
    readBack_cid hgood (Option.some.inj htext ▸ hcr)
  simp only [values, List.forall_mem_cons] at hself
  simp only [values, readBack, hcid, hself]

/-- The law of the exported columns: a window that has imported the file of `g`
    shows the same values and names, and has reported neither duplicates nor
    errors. -/
structure RoundTrips (g : Gui) (result : Gui × ImportEnd) : Prop where
  records : result.1.card_data_list.map values = g.card_data_list.map values
  project_name : result.1.project_name = g.project_name
  school_name : result.1.school_name = g.school_name
  summary : ∃ imported_count, result.2 = .summary ⟨imported_count, 0, 0⟩

/-- The text of a cell, or the empty default. -/
theorem getD_truthy (g : Gui) (index : Nat) (data : CardInfo) (c : Column) :
    (DictRow.truthy ⟨exportedNames, deliveredRow g index data⟩ c).getD []
      = readBackText (exportRow g index data c) := by
  rw [DictRow.truthy, get_deliveredRow]
  cases readBackText (exportRow g index data c) with
  | nil => rfl
  | cons _ _ => rfl

/-- A fresh window takes its names from the file. -/
theorem freshImport_names {g : Gui} (hne : g.card_data_list ≠ []) (now : Nat → Str) :
    (freshImport (export_to_csv g) now).1.project_name = readBackText (some g.project_name) ∧
      (freshImport (export_to_csv g) now).1.school_name = readBackText (some g.school_name) := by
  rw [freshImport_export]
  cases hlist : g.card_data_list with
  | nil => exact absurd hlist hne
  | cons data rest =>
    obtain ⟨hproject, hschool⟩ := importRows_start_names exportedNames .start (deliveredRow g 1 data)
      ((rest.zipIdx 2).map fun p => deliveredRow g p.2 p.1) fun n => ⟨now n, true⟩
    exact ⟨hproject.trans (getD_truthy g 1 data .project),
      hschool.trans (getD_truthy g 1 data .school)⟩

/-- **When import undoes export**: exactly if every exported value is a text
    without carriage returns, and so are the names. -/
theorem export_import_restores_iff (s : Sys) (h : Reachable program s)
    (hne : s.gui.card_data_list ≠ []) (project school : Str) (now : Nat → Str) :
    RoundTrips { s.gui with project_name := project, school_name := school }
        (freshImport (export_to_csv { s.gui with project_name := project, school_name := school })
          now) ↔
      (∀ data ∈ s.gui.card_data_list, ∀ v ∈ values data, Keepable v) ∧
        '\r' ∉ project ∧ '\r' ∉ school := by
  -- the window that exports, with the names in its entry boxes
  generalize hg : ({ s.gui with project_name := project, school_name := school } : Gui) = g
  obtain rfl : g.project_name = project := by rw [← hg]
  obtain rfl : g.school_name = school := by rw [← hg]
  have hlist : g.card_data_list = s.gui.card_data_list := by rw [← hg]
  have hwf := list_wellFormed h
  rw [← hlist] at hne hwf ⊢
  obtain ⟨hproject, hschool⟩ := freshImport_names hne now
  constructor
  · intro hround
    refine ⟨fun data hdata => ?_, ?_, ?_⟩
    · -- what has come back is keepable, and it is what was there
      have hall : ∀ d ∈ (freshImport (export_to_csv g) now).1.card_data_list,
          ∀ v ∈ values d, Keepable v := by
        rw [freshImport_export, finishImport_list]
        refine importRows_forall ?_ (by simp [ImportLoop.start, Gui.start])
        intro cells hcells cid t hcid
        obtain ⟨p, hp, rfl⟩ := List.mem_map.mp hcells
        rw [rowCid_deliveredRow (hwf.admissible p.1 (List.fst_mem_of_mem_zipIdx hp))] at hcid
        obtain rfl := Option.some.inj hcid
        rw [rowCardInfo_deliveredRow]
        exact keepable_readBack_values p.1
      have hmem : values data ∈ (freshImport (export_to_csv g) now).1.card_data_list.map values := by
        rw [hround.records]
        exact List.mem_map_of_mem hdata
      obtain ⟨d, hd, heq⟩ := List.mem_map.mp hmem
      exact heq ▸ hall d hd
    · rw [← hround.project_name, hproject]
      exact cr_not_mem_readBackText _
    · rw [← hround.school_name, hschool]
      exact cr_not_mem_readBackText _
  · intro h
    obtain ⟨hkeep, hp, hs⟩ := h
    have hcid : ∀ data ∈ g.card_data_list, (readBack data).cid = data.cid := by
      intro data hdata
      obtain ⟨text, htext, hcr⟩ := hkeep data hdata (some data.cid) (by simp [values])
      exact readBack_cid (hwf.admissible data hdata) (Option.some.inj htext ▸ hcr)
    -- the cids come back as they were, so no row is taken for a duplicate
    have hnodup : (g.card_data_list.map fun data => (readBack data).cid).Nodup := by
      rw [List.map_congr_left hcid]
      exact hwf.nodup
    obtain ⟨hrecords, hsummary⟩ := freshImport_records hwf.admissible hnodup now
    refine ⟨?_, ?_, ?_, ⟨_, hsummary⟩⟩
    · rw [hrecords, List.map_map]
      exact List.map_congr_left fun data hdata =>
        values_readBack (hwf.admissible data hdata) (hkeep data hdata)
    · rw [hproject]
      exact Csv.universalNewlines_of_not_mem hp
    · rw [hschool]
      exact Csv.universalNewlines_of_not_mem hs

/-- One complete row, imported. -/
def completeRowActs : List Act :=
  [.pressImport, .chooseImport (some (.table (required_fields.map Column.name)
    [["11".toList, "ก".toList, "ข, \"ค\"".toList]] .eof)), .importRow ⟨[], true⟩,
    .importRow ⟨[], true⟩, .closeNotice]

theorem export_import_restores_completeRow :
    ∃ s, Reachable program s ∧ s.gui.card_data_list ≠ [] ∧
      RoundTrips { s.gui with project_name := "ง".toList, school_name := [] }
        (freshImport (export_to_csv { s.gui with project_name := "ง".toList, school_name := [] })
          fun _ => []) := by
  have hrun : (runActs .start completeRowActs).map (fun s => decide (s.gui.card_data_list ≠ [] ∧
      ∀ data ∈ s.gui.card_data_list, ∀ v ∈ values data, Keepable v)) = some true := by
    decide +kernel
  obtain ⟨s, hs, hend⟩ := Option.map_eq_some_iff.mp hrun
  obtain ⟨hne, hkeep⟩ := of_decide_eq_true hend
  have hreach : Reachable program s := (run_of_runActs hs).reachable (.init rfl)
  exact ⟨s, hreach, hne, (export_import_restores_iff s hreach hne _ _ _).mpr
    ⟨hkeep, by decide, by decide⟩⟩

/-- A card whose every text holds a carriage return, read and recorded. -/
def crCardActs : List Act :=
  .poll (.connected [0x3B, 0x68] (.ofCard fun _ _ => ⟨[0x31, 0x0D, 0x32], 0x90, 0x00⟩)) ::
    List.replicate 6 (.monitor []) ++ List.replicate 3 (.deliver 0 true)

/-- A short row comes back without its `None`, and the card's texts with a line
    feed for their carriage return. -/
theorem export_import_changes :
    (∃ s, runActs .start threeRowsActs = some s ∧ Reachable program s ∧
      s.gui.card_data_list ≠ [] ∧
      ¬ RoundTrips s.gui (freshImport (export_to_csv s.gui) fun _ => [])) ∧
    ∃ s, runActs .start crCardActs = some s ∧ Reachable program s ∧
      s.gui.card_data_list ≠ [] ∧
      ¬ RoundTrips s.gui (freshImport (export_to_csv s.gui) fun _ => []) := by
  have hchanged : ∀ {s : Sys} {acts : List Act}, runActs .start acts = some s →
      decide (s.gui.card_data_list ≠ [] ∧
        (freshImport (export_to_csv s.gui) fun _ => []).1.card_data_list.map values
          ≠ s.gui.card_data_list.map values) = true →
      runActs .start acts = some s ∧ Reachable program s ∧ s.gui.card_data_list ≠ [] ∧
        ¬ RoundTrips s.gui (freshImport (export_to_csv s.gui) fun _ => []) := by
    intro s acts hs hdec
    obtain ⟨hne, hvalues⟩ := of_decide_eq_true hdec
    exact ⟨hs, (run_of_runActs hs).reachable (.init rfl), hne, fun h => hvalues h.records⟩
  have hshort : (runActs .start threeRowsActs).map (fun s => decide (s.gui.card_data_list ≠ [] ∧
      (freshImport (export_to_csv s.gui) fun _ => []).1.card_data_list.map values
        ≠ s.gui.card_data_list.map values)) = some true := by decide +kernel
  have hcr : (runActs .start crCardActs).map (fun s => decide (s.gui.card_data_list ≠ [] ∧
      (freshImport (export_to_csv s.gui) fun _ => []).1.card_data_list.map values
        ≠ s.gui.card_data_list.map values)) = some true := by decide +kernel
  obtain ⟨s, hs, hend⟩ := Option.map_eq_some_iff.mp hshort
  obtain ⟨s', hs', hend'⟩ := Option.map_eq_some_iff.mp hcr
  exact ⟨⟨s, hchanged hs hend⟩, s', hchanged hs' hend'⟩

/-! ### The limit of the reader -/

/-- The reader does not refuse the row: no cell, as it is read, is too long. -/
def RowFits (row : Column → PyVal) : Prop :=
  ∀ c ∈ fieldnames, (readBackText (row c)).length ≤ field_size_limit

instance : DecidablePred RowFits := fun _ => List.decidableBAll _ _

/-- The reader refuses none of the rows. -/
def CellsFit (g : Gui) : Prop := ∀ row ∈ exportRows g, RowFits row

instance (g : Gui) : Decidable (CellsFit g) := List.decidableBAll _ _

/-- The row as the reader delivers it. -/
def readBackRow (row : Column → PyVal) : Csv.Row := fieldnames.map fun c => readBackText (row c)

theorem rowFits_readBackRow (row : Column → PyVal) :
    Csv.rowFits field_size_limit (readBackRow row) = decide (RowFits row) := by
  rw [Bool.eq_iff_iff, decide_eq_true_iff, Csv.rowFits, readBackRow, List.all_map, List.all_eq_true]
  simp [RowFits]

/-- **What the reader with its limit makes of an exported file**: the rows in
    front of the first that it refuses. -/
theorem openFile_export_to_csv (g : Gui) :
    openFile (export_to_csv g) = .table exportedNames
      (((exportRows g).takeWhile fun row => decide (RowFits row)).map readBackRow)
      (if CellsFit g then .eof else .raised) := by
  have hcolumns : fieldnames ≠ [] := by simp [fieldnames]
  have hread := Csv.excel.openTextWithin_dictRows field_size_limit hcolumns
    Column.cr_not_mem_name (fun c => le_trans c.length_name_le (by decide))
    ((exportRows g).map fun row c => cell (row c))
  dsimp only at hread
  have hfits : Csv.rowFits field_size_limit ∘ readBackRow = fun row => decide (RowFits row) :=
    funext rowFits_readBackRow
  have hrows : ((exportRows g).map fun row c => cell (row c)).map
      (fun row => fieldnames.map fun c => Csv.universalNewlines (row c))
        = (exportRows g).map readBackRow := by
    rw [List.map_map]
    rfl
  have hall : ((exportRows g).all fun row => decide (RowFits row)) = true ↔ CellsFit g := by
    simp [CellsFit]
  rw [hrows, List.takeWhile_map, List.all_map, hfits] at hread
  simp only [hall] at hread
  exact hread

/-- Where none is refused it is read as if there were no limit. -/
theorem openFile_of_cellsFit {g : Gui} (h : CellsFit g) :
    openFile (export_to_csv g) = Csv.excel.openText (export_to_csv g) := by
  have hall : (exportRows g).takeWhile (fun row => decide (RowFits row)) = exportRows g :=
    List.takeWhile_eq_self_iff.mpr fun row hrow => decide_eq_true (h row hrow)
  rw [openFile_export_to_csv, hall, if_pos h, openText_export_to_csv, exportRows, List.map_map]
  rfl

/-- A fresh window, and the reader with its limit. -/
def freshImportFile (file : List Char) (now : Nat → Str) : Gui × ImportEnd :=
  import_from_csv .start (openFile file) fun n => ⟨now n, true⟩

/-- The place `k` of what is taken is the place `k` of the list, if all up to it
    are taken. -/
theorem takeWhile_getElem? {α : Type} (p : α → Bool) (l : List α) (k : Nat) :
    (l.takeWhile p)[k]? = if (l.take (k + 1)).all p then l[k]? else none := by
  induction l generalizing k with
  | nil => simp
  | cons x l ih =>
    by_cases hx : p x = true
    · cases k with
      | zero => simp [hx]
      | succ k => simp [hx, ih]
    · simp [hx]

/-- The reader refuses no row up to that of record `k`. -/
def RowsFit (g : Gui) (k : Nat) : Prop := ∀ row ∈ (exportRows g).take (k + 1), RowFits row

instance (g : Gui) (k : Nat) : Decidable (RowsFit g k) := List.decidableBAll _ _

/-- **The records a fresh window imports**, up to the first row that the reader
    refuses. -/
theorem freshImportFile_record {g : Gui} (hgood : ∀ data ∈ g.card_data_list, GoodCid data.cid)
    (hnodup : (g.card_data_list.map fun data => (readBack data).cid).Nodup)
    (now : Nat → Str) (k : Nat) :
    (freshImportFile (export_to_csv g) now).1.card_data_list[k]?
      = if RowsFit g k then g.card_data_list[k]?.map readBack else none := by
  have hrows : ((exportRows g).takeWhile fun row => decide (RowFits row)).map readBackRow
      = ((g.card_data_list.zipIdx 1).takeWhile fun p =>
          decide (RowFits (exportRow g p.2 p.1))).map fun p => deliveredRow g p.2 p.1 := by
    rw [exportRows, List.takeWhile_map, List.map_map]
    rfl
  have hfit : ((g.card_data_list.zipIdx 1).take (k + 1)).all
      (fun p => decide (RowFits (exportRow g p.2 p.1))) = true ↔ RowsFit g k := by
    rw [List.all_eq_true, RowsFit, exportRows, ← List.map_take, List.forall_mem_map]
    simp
  obtain ⟨hlist, -⟩ := importRows_delivered hgood hnodup
    (List.takeWhile_sublist fun p => decide (RowFits (exportRow g p.2 p.1))) now
  rw [freshImportFile, openFile_export_to_csv, hrows, import_from_csv,
    if_pos headerAccepted_exportedNames, finishImport_list, hlist, List.getElem?_map,
    takeWhile_getElem?]
  simp only [hfit]
  split
  · rw [List.getElem?_zipIdx, Option.map_map]
    rfl
  · rfl

theorem freshImportFile_export {g : Gui} (h : CellsFit g) (now : Nat → Str) :
    freshImportFile (export_to_csv g) now = freshImport (export_to_csv g) now := by
  rw [freshImportFile, freshImport, openFile_of_cellsFit h]

/-! ### Importing into the same window -/

/-- **Re-importing an exported file changes nothing**: every row is found to be
    a duplicate. -/
theorem reimport_changes_nothing (s : Sys) (h : Reachable program s)
    (hcr : ∀ data ∈ s.gui.card_data_list, '\r' ∉ data.cid) (env : Nat → RowEnv) :
    (import_from_csv s.gui (Csv.excel.openText (export_to_csv s.gui)) env).1.card_data_list
        = s.gui.card_data_list ∧
      (import_from_csv s.gui (Csv.excel.openText (export_to_csv s.gui)) env).1.tree = s.gui.tree ∧
      (import_from_csv s.gui (Csv.excel.openText (export_to_csv s.gui)) env).2
        = .summary ⟨0, s.gui.card_data_list.length, 0⟩ := by
  have hwf := list_wellFormed h
  obtain ⟨hlist, htree, hcounts⟩ := importRows_duplicates exportedNames (.start s.gui)
    ((s.gui.card_data_list.zipIdx 1).map fun p => deliveredRow s.gui p.2 p.1) env
    (by
      -- every row finds its own record
      intro cells hcells
      obtain ⟨p, hp, rfl⟩ := List.mem_map.mp hcells
      have hmem := List.fst_mem_of_mem_zipIdx hp
      have hgood : GoodCid p.1.cid := hwf.admissible p.1 hmem
      exact ⟨_, rowCid_deliveredRow hgood,
        Gui.hasCid_iff.mpr ⟨p.1, hmem, (readBack_cid hgood (hcr p.1 hmem)).symm⟩⟩)
  rw [openText_export_to_csv, import_from_csv, if_pos headerAccepted_exportedNames]
  refine ⟨?_, ?_, ?_⟩
  · rw [finishImport_list, hlist, ImportLoop.start]
  · rw [finishImport_tree, htree, ImportLoop.start]
  · rw [finishImport, hcounts, List.length_map, List.length_zipIdx, ImportLoop.start, Nat.zero_add]

theorem reimport_changes_nothing_threeRows :
    ∃ s, Reachable program s ∧ s.gui.card_data_list.length = 2 ∧
      (import_from_csv s.gui (Csv.excel.openText (export_to_csv s.gui)) fun _ => ⟨[], true⟩).2
        = .summary ⟨0, s.gui.card_data_list.length, 0⟩ := by
  have hrun : (runActs .start threeRowsActs).map (fun s => decide
      (s.gui.card_data_list.length = 2 ∧ ∀ data ∈ s.gui.card_data_list, '\r' ∉ data.cid))
      = some true := by decide +kernel
  obtain ⟨s, hs, hend⟩ := Option.map_eq_some_iff.mp hrun
  obtain ⟨hlen, hcr⟩ := of_decide_eq_true hend
  have hreach : Reachable program s := (run_of_runActs hs).reachable (.init rfl)
  obtain ⟨_, _, hsummary⟩ := reimport_changes_nothing s hreach hcr fun _ => ⟨[], true⟩
  exact ⟨s, hreach, hlen, hsummary⟩

end GuiReader

end IdScan
