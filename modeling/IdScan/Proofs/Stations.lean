import IdScan.Framework.CsvReturns
import IdScan.Proofs.ImportLaws
import IdScan.Proofs.RoundTrip

/-! # Files between windows

  A file carries the list of one window to another. It is read with the limit
  of the reader, which none of its cells exceeds here.

  * In a fresh window it gives a window that every further round trip gives back
    in every attribute. Only the first one changes anything, and it changes
    nothing of the file exactly if no cell holds a carriage return.
  * In a window that has records of its own it adds those whose cid is new, in
    their order, so that two windows that import each other's file have the same
    people.
-/

namespace IdScan

namespace GuiReader

open LTS

/-! ### What comes back comes back as it is -/

theorem readBackText_readBackText (v : PyVal) :
    readBackText (some (readBackText v)) = readBackText v :=
  Csv.universalNewlines_of_not_mem (cr_not_mem_readBackText v)

theorem goodCid_readBack {data : CardInfo} (h : GoodCid data.cid) : GoodCid (readBack data).cid :=
  ⟨strip_readBackText_ne_nil h, strip_strip _⟩

/-- Reading back is done after one time. -/
theorem readBack_readBack (data : CardInfo) : readBack (readBack data) = readBack data := by
  have hcid : strip (readBackText (some (strip (readBackText (some data.cid)))))
      = strip (readBackText (some data.cid)) := by
    have hcr : '\r' ∉ strip (readBackText (some data.cid)) := fun hmem =>
      cr_not_mem_readBackText _ (Text.mem_of_mem_trim hmem)
    show strip (Csv.universalNewlines (strip (readBackText (some data.cid)))) = _
    rw [Csv.universalNewlines_of_not_mem hcr, strip_strip]
  unfold readBack
  simp only [readBackText_readBackText, hcid]

/-! ### The window behind an import -/

/-- The table follows the list through an import in which every insertion
    succeeds. -/
theorem importRows_tree (names : Csv.Row) (loop : ImportLoop) (rows : List Csv.Row)
    (env : Nat → RowEnv) (hinsert : ∀ n, (env n).insertOk = true)
    (htree : loop.gui.tree = tableRows loop.gui.card_data_list) :
    (importRows names loop rows env).gui.tree
      = tableRows (importRows names loop rows env).gui.card_data_list := by
  induction rows generalizing loop env with
  | nil => exact htree
  | cons cells rows ih =>
    rw [importRows]
    apply ih _ _ fun n => hinsert (n + 1)
    rcases importRow_gui loop ⟨names, cells⟩ (env 0) with ⟨hsame, -⟩ | ⟨cid, -, -, happ⟩
    · rw [hsame, ImportLoop.named_tree, ImportLoop.named_list]
      exact htree
    · rw [happ, hinsert 0, Gui.append_tree, Gui.append_list, ImportLoop.named_tree,
        ImportLoop.named_list, tableRows_append, htree]

theorem importRows_current_cid (names : Csv.Row) (loop : ImportLoop) (rows : List Csv.Row)
    (env : Nat → RowEnv) :
    (importRows names loop rows env).gui.current_cid = loop.gui.current_cid := by
  induction rows generalizing loop env with
  | nil => rfl
  | cons cells rows ih =>
    rw [importRows, ih]
    rcases importRow_gui loop ⟨names, cells⟩ (env 0) with ⟨hsame, -⟩ | ⟨cid, -, -, happ⟩
    · rw [hsame, ImportLoop.named_current_cid]
    · rw [happ, Gui.append_current_cid, ImportLoop.named_current_cid]

/-- The window a fresh import of a list gives. -/
def importedWindow (card_data_list : List CardInfo) (project_name school_name : Str) : Gui where
  card_data_list := card_data_list
  tree := tableRows card_data_list
  data_count := card_data_list.length
  project_name := project_name
  school_name := school_name
  current_cid := none

/-- **The window a file gives**, in every attribute. -/
theorem freshImport_window {g : Gui} (hgood : ∀ data ∈ g.card_data_list, GoodCid data.cid)
    (hnodup : (g.card_data_list.map fun data => (readBack data).cid).Nodup)
    (hne : g.card_data_list ≠ []) (now : Nat → Str) :
    freshImport (export_to_csv g) now
      = (importedWindow (g.card_data_list.map readBack) (readBackText (some g.project_name))
          (readBackText (some g.school_name)), .summary ⟨g.card_data_list.length, 0, 0⟩) := by
  obtain ⟨hlist, hend⟩ := freshImport_records hgood hnodup now
  obtain ⟨hproject, hschool⟩ := freshImport_names hne now
  have htree : (freshImport (export_to_csv g) now).1.tree
      = tableRows (freshImport (export_to_csv g) now).1.card_data_list := by
    rw [freshImport_export, finishImport_tree, finishImport_list]
    exact importRows_tree _ _ _ _ (fun _ => rfl) rfl
  have hcount : (freshImport (export_to_csv g) now).1.data_count
      = (freshImport (export_to_csv g) now).1.card_data_list.length := by
    rw [freshImport_export]
    rfl
  have hcid : (freshImport (export_to_csv g) now).1.current_cid = none := by
    rw [freshImport_export, finishImport_current_cid, importRows_current_cid]
    rfl
  rw [hlist] at htree hcount
  generalize freshImport (export_to_csv g) now = result at hlist hend hproject hschool htree hcount hcid
  obtain ⟨window, result⟩ := result
  obtain ⟨card_data_list, tree, data_count, project_name, school_name, current_cid⟩ := window
  dsimp only at hlist hend hproject hschool htree hcount hcid
  rw [hlist, hend, hproject, hschool, htree, hcount, hcid]
  rfl

/-- The cids come back distinct where no carriage return can make two the same. -/
theorem nodup_readBack {s : Sys} (h : Reachable program s)
    (hcr : ∀ data ∈ s.gui.card_data_list, '\r' ∉ data.cid) :
    (s.gui.card_data_list.map fun data => (readBack data).cid).Nodup := by
  have hwf := list_wellFormed h
  have hsame : ∀ data ∈ s.gui.card_data_list, (readBack data).cid = data.cid := fun data hdata =>
    readBack_cid (hwf.admissible data hdata) (hcr data hdata)
  rw [List.map_congr_left hsame]
  exact hwf.nodup

/-! ### Round trips -/

/-- The cells of the window that a file gives, but for the cids, which are trimmed
    besides. -/
theorem exportRow_readBack (g : Gui) (data : CardInfo) (index : Nat) {c : Column}
    (hcid : c ≠ .cid) :
    exportRow (importedWindow (g.card_data_list.map readBack) (readBackText (some g.project_name))
        (readBackText (some g.school_name))) index (readBack data) c
      = some (readBackText (exportRow g index data c)) := by
  cases c with
  | index => exact congrArg some (readBackText_decimal index).symm
  | cid => exact absurd rfl hcid
  | _ => rfl

/-- What comes back is not longer. -/
theorem length_exportRow_readBack (g : Gui) (data : CardInfo) (index : Nat) (c : Column) :
    (readBackText (exportRow (importedWindow (g.card_data_list.map readBack)
        (readBackText (some g.project_name)) (readBackText (some g.school_name))) index
        (readBack data) c)).length
      ≤ (readBackText (exportRow g index data c)).length := by
  by_cases hcid : c = .cid
  · subst hcid
    have hcr : '\r' ∉ (readBack data).cid := fun hmem =>
      cr_not_mem_readBackText _ (Text.mem_of_mem_trim hmem)
    show (Csv.universalNewlines (readBack data).cid).length ≤ _
    rw [Csv.universalNewlines_of_not_mem hcr]
    exact (Text.isInfix_trim isspace _).length_le
  · rw [exportRow_readBack g data index hcid, readBackText_readBackText]

/-- So that the reader does not refuse it the second time. -/
theorem cellsFit_importedWindow {g : Gui} (h : CellsFit g) :
    CellsFit (importedWindow (g.card_data_list.map readBack) (readBackText (some g.project_name))
      (readBackText (some g.school_name))) := by
  intro row hrow c hc
  unfold exportRows importedWindow at hrow
  dsimp only at hrow
  rw [List.zipIdx_map, List.map_map, List.mem_map] at hrow
  obtain ⟨p, hp, rfl⟩ := hrow
  exact le_trans (length_exportRow_readBack g p.1 p.2 c)
    (h _ (List.mem_map.mpr ⟨p, hp, rfl⟩) c hc)

/-- **Only the first round trip changes anything**: the window that comes of it
    is given back by the next one in every attribute, and with it the file. -/
theorem second_round_trip_changes_nothing (s : Sys) (h : Reachable program s)
    (hne : s.gui.card_data_list ≠ []) (hfit : CellsFit s.gui)
    (hcr : ∀ data ∈ s.gui.card_data_list, '\r' ∉ data.cid) (now now' : Nat → Str) :
    let window := (freshImportFile (export_to_csv s.gui) now).1
    freshImportFile (export_to_csv window) now'
      = (window, .summary ⟨s.gui.card_data_list.length, 0, 0⟩) := by
  have hgood := (list_wellFormed h).admissible
  have hnodup := nodup_readBack h hcr
  rw [freshImportFile_export hfit, freshImport_window hgood hnodup hne now]
  intro window
  have hlist : window.card_data_list = s.gui.card_data_list.map readBack := rfl
  have hfit' : CellsFit window := cellsFit_importedWindow hfit
  have hgood' : ∀ data ∈ window.card_data_list, GoodCid data.cid := by
    intro data hdata
    rw [hlist] at hdata
    obtain ⟨source, hsource, rfl⟩ := List.mem_map.mp hdata
    exact goodCid_readBack (hgood source hsource)
  have hagain : (readBack ∘ readBack : CardInfo → CardInfo) = readBack := funext readBack_readBack
  have hnodup' : (window.card_data_list.map fun data => (readBack data).cid).Nodup := by
    rw [hlist, List.map_map]
    have hcids : ((fun data => (readBack data).cid) ∘ readBack : CardInfo → Str)
        = fun data => (readBack data).cid := by
      funext data
      rw [Function.comp_apply, readBack_readBack]
    rw [hcids]
    exact hnodup
  have hne' : window.card_data_list ≠ [] := by
    rw [hlist]
    simpa using hne
  rw [freshImportFile_export hfit', freshImport_window hgood' hnodup' hne' now', hlist, List.map_map, hagain, List.length_map]
  show (importedWindow _ (readBackText (some (readBackText (some s.gui.project_name))))
    (readBackText (some (readBackText (some s.gui.school_name)))), _) = _
  rw [readBackText_readBackText, readBackText_readBackText]

/-- A window with rows of every kind. -/
def mixedWindow : Gui :=
  (import_from_csv .start (.table mixedNames mixedRows .eof) fun _ => ⟨[], true⟩).1

/-- The window of the three rows. Of its two people the other window knows one. -/
theorem reachable_threeRows :
    ∃ s, Reachable program s ∧ s.gui.card_data_list.length = 2 ∧ CellsFit s.gui ∧
      (∀ data ∈ s.gui.card_data_list, '\r' ∉ data.cid) ∧
      s.gui.card_data_list.map (fun data => mixedWindow.hasCid data.cid) = [false, true] := by
  have hrun : (runActs .start threeRowsActs).map (fun s => decide
      (s.gui.card_data_list.length = 2 ∧ CellsFit s.gui ∧
        (∀ data ∈ s.gui.card_data_list, '\r' ∉ data.cid) ∧
        s.gui.card_data_list.map (fun data => mixedWindow.hasCid data.cid) = [false, true]))
      = some true := by decide +kernel
  obtain ⟨s, hs, hend⟩ := Option.map_eq_some_iff.mp hrun
  exact ⟨s, (run_of_runActs hs).reachable (.init rfl), of_decide_eq_true hend⟩

/-- Two rows, one of them too short for its names. -/
theorem second_round_trip_changes_nothing_threeRows :
    ∃ s, Reachable program s ∧ s.gui.card_data_list.length = 2 ∧
      freshImportFile (export_to_csv (freshImportFile (export_to_csv s.gui) fun _ => []).1)
          (fun _ => [])
        = ((freshImportFile (export_to_csv s.gui) fun _ => []).1,
            .summary ⟨s.gui.card_data_list.length, 0, 0⟩) := by
  obtain ⟨s, hreach, hlen, hfit, hcr, -⟩ := reachable_threeRows
  have hne : s.gui.card_data_list ≠ [] := List.ne_nil_of_length_eq_add_one hlen
  exact ⟨s, hreach, hlen, second_round_trip_changes_nothing s hreach hne hfit hcr _ _⟩

/-- What a cell of a file is made of. -/
theorem cr_not_mem_exportRow_iff (g : Gui) (index : Nat) (data : CardInfo) :
    (∀ c, '\r' ∉ cell (exportRow g index data c)) ↔
      ('\r' ∉ g.project_name ∧ '\r' ∉ g.school_name) ∧ ∀ v ∈ values data, '\r' ∉ cell v := by
  constructor
  · intro h
    refine ⟨⟨h .project, h .school⟩, ?_⟩
    have hall : ∀ v ∈ values data, ∃ c, exportRow g index data c = v := by
      simp only [values, List.forall_mem_cons]
      exact ⟨⟨.cid, rfl⟩, ⟨.th_title, rfl⟩, ⟨.th_firstname, rfl⟩, ⟨.th_lastname, rfl⟩,
        ⟨.en_title, rfl⟩, ⟨.en_firstname, rfl⟩, ⟨.en_lastname, rfl⟩, ⟨.birth_date, rfl⟩,
        ⟨.gender, rfl⟩, ⟨.issuer, rfl⟩, ⟨.issue_date, rfl⟩, ⟨.expire_date, rfl⟩,
        ⟨.house_no, rfl⟩, ⟨.moo_soi, rfl⟩, ⟨.subdistrict, rfl⟩, ⟨.district, rfl⟩,
        ⟨.province, rfl⟩, ⟨.timestamp, rfl⟩, by simp⟩
    intro v hv
    obtain ⟨c, rfl⟩ := hall v hv
    exact h c
  · intro h
    obtain ⟨⟨hproject, hschool⟩, hvalues⟩ := h
    have hall : ∀ c, exportRow g index data c ∈ values data ∨ c = .index ∨ c = .project ∨
        c = .school := by
      intro c
      cases c <;> simp [exportRow, values]
    intro c
    rcases hall c with hmem | rfl | rfl | rfl
    · exact hvalues _ hmem
    · exact cr_not_mem_decimal index
    · exact hproject
    · exact hschool

/-- No cell of the window's file holds a carriage return. -/
def PlainCells (g : Gui) : Prop :=
  ('\r' ∉ g.project_name ∧ '\r' ∉ g.school_name) ∧
    ∀ data ∈ g.card_data_list, ∀ v ∈ values data, '\r' ∉ cell v

instance (g : Gui) : Decidable (PlainCells g) := inferInstanceAs (Decidable (_ ∧ _))

/-- A record of plain cells is written the same once it has come back. -/
theorem cell_exportRow_readBack {g : Gui} {data : CardInfo} (hgood : GoodCid data.cid)
    {index : Nat} (hplain : ∀ c, '\r' ∉ cell (exportRow g index data c)) (c : Column) :
    cell (exportRow (importedWindow (g.card_data_list.map readBack)
        (readBackText (some g.project_name)) (readBackText (some g.school_name))) index
        (readBack data) c)
      = cell (exportRow g index data c) := by
  by_cases hcid : c = .cid
  · subst hcid
    exact congrArg (fun text => cell (some text)) (readBack_cid hgood (hplain .cid))
  · rw [exportRow_readBack g data index hcid]
    exact Csv.universalNewlines_of_not_mem (hplain c)

/-- The cells of a window behind an import are plain. -/
theorem plainCells_freshImport {g : Gui} (hgood : ∀ data ∈ g.card_data_list, GoodCid data.cid)
    (hne : g.card_data_list ≠ []) (now : Nat → Str) :
    PlainCells (freshImport (export_to_csv g) now).1 := by
  obtain ⟨hproject, hschool⟩ := freshImport_names hne now
  refine ⟨⟨?_, ?_⟩, ?_⟩
  · rw [hproject]
    exact cr_not_mem_readBackText _
  · rw [hschool]
    exact cr_not_mem_readBackText _
  · rw [freshImport_export, finishImport_list]
    apply importRows_forall
    · intro cells hcells cid t hcid v hv
      obtain ⟨p, hp, rfl⟩ := List.mem_map.mp hcells
      rw [rowCid_deliveredRow (hgood p.1 (List.fst_mem_of_mem_zipIdx hp))] at hcid
      obtain rfl := Option.some.inj hcid
      rw [rowCardInfo_deliveredRow] at hv
      obtain ⟨text, rfl, hcr⟩ := keepable_readBack_values p.1 v hv
      exact hcr
    · intro data hdata
      cases hdata

/-- The rows of a window's file, header and all. -/
def fileRows (g : Gui) : List Csv.Row :=
  Csv.dictRows fieldnames Column.name ((exportRows g).map fun row c => cell (row c))

theorem export_to_csv_eq (g : Gui) :
    export_to_csv g = Csv.encodeSig (Csv.excel.writeRows (fileRows g)) := rfl

theorem length_fileRows (g : Gui) : (fileRows g).length = g.card_data_list.length + 1 := by
  simp [fileRows, Csv.dictRows, exportRows]

/-- Every record has its row. -/
theorem mem_fileRows_iff (g : Gui) (row : Csv.Row) :
    row ∈ fileRows g ↔ row = exportedNames ∨
      ∃ p ∈ g.card_data_list.zipIdx 1, row = fieldnames.map fun c => cell (exportRow g p.2 p.1 c) := by
  unfold fileRows exportRows
  rw [Csv.dictRows, List.mem_cons, List.map_map, List.map_map, List.mem_map]
  apply or_congr Iff.rfl
  constructor
  · intro h
    obtain ⟨p, hp, rfl⟩ := h
    exact ⟨p, hp, rfl⟩
  · intro h
    obtain ⟨p, hp, rfl⟩ := h
    exact ⟨p, hp, rfl⟩

theorem plain_fileRows_iff {g : Gui} (hne : g.card_data_list ≠ []) :
    (∀ row ∈ fileRows g, ∀ f ∈ row, '\r' ∉ f) ↔ PlainCells g := by
  have hnumbered : ∀ data ∈ g.card_data_list, ∃ index, (data, index) ∈ g.card_data_list.zipIdx 1 := by
    intro data hdata
    rw [← List.zipIdx_map_fst 1 g.card_data_list] at hdata
    obtain ⟨p, hp, rfl⟩ := List.mem_map.mp hdata
    exact ⟨p.2, hp⟩
  constructor
  · intro h
    have hrow : ∀ data ∈ g.card_data_list, ('\r' ∉ g.project_name ∧ '\r' ∉ g.school_name) ∧
        ∀ v ∈ values data, '\r' ∉ cell v := by
      intro data hdata
      obtain ⟨index, hindex⟩ := hnumbered data hdata
      rw [← cr_not_mem_exportRow_iff g index data]
      intro c
      exact h _ ((mem_fileRows_iff g _).mpr (.inr ⟨(data, index), hindex, rfl⟩)) _
        (List.mem_map.mpr ⟨c, mem_fieldnames c, rfl⟩)
    obtain ⟨first, hfirst⟩ := List.exists_mem_of_ne_nil _ hne
    exact ⟨(hrow first hfirst).1, fun data hdata => (hrow data hdata).2⟩
  · intro h row hrow f hf
    rcases (mem_fileRows_iff g row).mp hrow with rfl | ⟨p, hp, rfl⟩
    · obtain ⟨c, -, rfl⟩ := List.mem_map.mp hf
      exact c.cr_not_mem_name
    · obtain ⟨c, -, rfl⟩ := List.mem_map.mp hf
      exact (cr_not_mem_exportRow_iff g p.2 p.1).mpr
        ⟨h.1, h.2 p.1 (List.fst_mem_of_mem_zipIdx hp)⟩ c

/-- A file of plain cells is written again by the window it gives. -/
theorem fileRows_freshImport {g : Gui} (hgood : ∀ data ∈ g.card_data_list, GoodCid data.cid)
    (hnodup : (g.card_data_list.map fun data => (readBack data).cid).Nodup)
    (hne : g.card_data_list ≠ []) (hplain : PlainCells g) (now : Nat → Str) :
    fileRows (freshImport (export_to_csv g) now).1 = fileRows g := by
  rw [freshImport_window hgood hnodup hne now]
  have hcells : ∀ p ∈ g.card_data_list.zipIdx 1, ∀ c,
      cell (exportRow (importedWindow (g.card_data_list.map readBack)
          (readBackText (some g.project_name)) (readBackText (some g.school_name))) p.2
          (readBack p.1) c)
        = cell (exportRow g p.2 p.1 c) := by
    intro p hp c
    have hmem := List.fst_mem_of_mem_zipIdx hp
    have hrow := (cr_not_mem_exportRow_iff g p.2 p.1).mpr ⟨hplain.1, hplain.2 p.1 hmem⟩
    exact cell_exportRow_readBack (hgood p.1 hmem) hrow c
  unfold fileRows exportRows importedWindow at *
  dsimp only at hcells ⊢
  rw [List.zipIdx_map]
  simp only [Csv.dictRows, List.map_map]
  congr 1
  apply List.map_congr_left
  intro p hp
  apply List.map_congr_left
  intro c _
  exact hcells p hp c

/-- **When the same file is written again**: the file of a window that was given
    by a file is the one it was given exactly if no cell holds a carriage
    return. -/
theorem same_file_iff (s : Sys) (h : Reachable program s) (hne : s.gui.card_data_list ≠ [])
    (hfit : CellsFit s.gui) (now : Nat → Str) :
    export_to_csv (freshImportFile (export_to_csv s.gui) now).1 = export_to_csv s.gui ↔
      PlainCells s.gui := by
  have hgood := (list_wellFormed h).admissible
  rw [freshImportFile_export hfit]
  constructor
  · intro hsame
    have hplain := plainCells_freshImport hgood hne now
    generalize (freshImport (export_to_csv s.gui) now).1 = window at hsame hplain
    -- both files are read alike, so that they have as many rows
    have hlen : window.card_data_list.length = s.gui.card_data_list.length := by
      have htables := congrArg Csv.excel.openText hsame
      rw [openText_export_to_csv, openText_export_to_csv] at htables
      injection htables with _ hrows
      have hlengths := congrArg List.length hrows
      rwa [List.length_map, List.length_map, List.length_zipIdx, List.length_zipIdx] at hlengths
    have hne' : window.card_data_list ≠ [] := by
      intro hnil
      rw [hnil] at hlen
      exact hne (List.length_eq_zero_iff.mp hlen.symm)
    have hcount : (fileRows s.gui).length = (fileRows window).length := by
      rw [length_fileRows, length_fileRows, hlen]
    have hwritten : Csv.excel.writeRows (fileRows s.gui) = Csv.excel.writeRows (fileRows window) := by
      rw [export_to_csv_eq, export_to_csv_eq] at hsame
      exact (List.cons.inj hsame).2.symm
    rw [← plain_fileRows_iff hne]
    exact Csv.excel.cr_not_mem_of_writeRows_eq hcount hwritten
      ((plain_fileRows_iff hne').mpr hplain)
  · intro hplain
    have hcr : ∀ data ∈ s.gui.card_data_list, '\r' ∉ data.cid := fun data hdata =>
      hplain.2 data hdata (some data.cid) (by simp [values])
    have hrows := fileRows_freshImport hgood (nodup_readBack h hcr) hne hplain now
    generalize (freshImport (export_to_csv s.gui) now).1 = window at hrows ⊢
    rw [export_to_csv_eq, export_to_csv_eq, hrows]

theorem same_file_iff_completeRow :
    ∃ s, Reachable program s ∧ s.gui.card_data_list ≠ [] ∧
      export_to_csv (freshImportFile (export_to_csv s.gui) fun _ => []).1
        = export_to_csv s.gui := by
  have hrun : (runActs .start completeRowActs).map (fun s => decide
      (s.gui.card_data_list ≠ [] ∧ CellsFit s.gui ∧ PlainCells s.gui)) = some true := by
    decide +kernel
  obtain ⟨s, hs, hend⟩ := Option.map_eq_some_iff.mp hrun
  obtain ⟨hne, hfit, hplain⟩ := of_decide_eq_true hend
  have hreach : Reachable program s := (run_of_runActs hs).reachable (.init rfl)
  exact ⟨s, hreach, hne, (same_file_iff s hreach hne hfit _).mpr hplain⟩

/-! ### Into a window with records of its own -/

/-- The rows of an exported file, as they are delivered. -/
def deliveredRows (g : Gui) : List Csv.Row :=
  (g.card_data_list.zipIdx 1).map fun p => deliveredRow g p.2 p.1

/-- What they offer: the records, read back. -/
theorem rowRecords_deliveredRows {g : Gui} (hgood : ∀ data ∈ g.card_data_list, GoodCid data.cid)
    (env : Nat → RowEnv) :
    rowRecords exportedNames (deliveredRows g) env
      = (g.card_data_list.map readBack).map some := by
  have hone : ∀ index, ∀ data ∈ g.card_data_list, ∀ now,
      rowRecord ⟨exportedNames, deliveredRow g index data⟩ now = some (readBack data) := by
    intro index data hdata now
    rw [rowRecord, rowCid_deliveredRow (hgood data hdata), Option.map_some,
      rowCardInfo_deliveredRow]
  unfold deliveredRows
  generalize g.card_data_list = l at hone
  generalize 1 = index
  induction l generalizing index env with
  | nil => rfl
  | cons data l ih =>
    have htail := ih (fun n => env (n + 1)) (fun index' data' hdata' now =>
      hone index' data' (List.mem_cons_of_mem _ hdata') now) (index + 1)
    rw [List.zipIdx_cons, List.map_cons, rowRecords_cons, htail,
      hone index data List.mem_cons_self]
    rfl

/-- Where every row has a cid and every insertion succeeds, the import counts
    what the list grows by, and no errors. -/
theorem importRows_growth (names : Csv.Row) (loop : ImportLoop) (rows : List Csv.Row)
    (env : Nat → RowEnv) (hinsert : ∀ n, (env n).insertOk = true)
    (hcids : ∀ cells ∈ rows, ∃ cid, rowCid ⟨names, cells⟩ = some cid) :
    (importRows names loop rows env).counts.imported_count + loop.gui.card_data_list.length
        = loop.counts.imported_count
          + (importRows names loop rows env).gui.card_data_list.length ∧
      (importRows names loop rows env).counts.error_count = loop.counts.error_count := by
  induction rows generalizing loop env with
  | nil => exact ⟨rfl, rfl⟩
  | cons cells rows ih =>
    obtain ⟨cid, hcid⟩ := hcids cells List.mem_cons_self
    obtain ⟨hgrowth, herror⟩ := ih (importRow loop ⟨names, cells⟩ (env 0)) (fun n => env (n + 1))
      (fun n => hinsert (n + 1)) fun cells' hcells' => hcids cells' (List.mem_cons_of_mem _ hcells')
    have henv : env 0 = ⟨(env 0).now, true⟩ := by rw [← hinsert 0]
    rw [importRows]
    by_cases hhas : loop.gui.hasCid cid = true
    · rw [importRow_duplicate hcid hhas] at hgrowth herror ⊢
      rw [ImportLoop.named_list] at hgrowth
      exact ⟨hgrowth, herror⟩
    · rw [Bool.not_eq_true] at hhas
      rw [henv, importRow_new hcid hhas] at hgrowth herror ⊢
      simp only [Gui.append_list, ImportLoop.named_list, List.length_append,
        List.length_singleton] at hgrowth
      refine ⟨?_, herror⟩
      dsimp only at hgrowth ⊢
      omega

/-- The list behind the file of another window. -/
theorem import_other_records (g : Gui) {s : Sys} (h : Reachable program s)
    (hcr : ∀ data ∈ s.gui.card_data_list, '\r' ∉ data.cid) (env : Nat → RowEnv) :
    (importRows exportedNames (.start g) (deliveredRows s.gui) env).gui.card_data_list
      = g.card_data_list
        ++ (s.gui.card_data_list.filter fun data => !g.hasCid data.cid).map readBack := by
  have hwf := list_wellFormed h
  have hnodup : ((s.gui.card_data_list.map readBack).map CardInfo.cid).Nodup := by
    rw [List.map_map]
    exact nodup_readBack h hcr
  rw [importRows_list, rowRecords_deliveredRows hwf.admissible]
  show Registry.merge CardInfo.cid g.card_data_list _ = _
  rw [Registry.merge_of_nodup _ hnodup, List.filter_map]
  apply congrArg fun l => g.card_data_list ++ List.map readBack l
  apply List.filter_congr
  intro data hdata
  rw [Function.comp_apply, readBack_cid (hwf.admissible data hdata) (hcr data hdata)]
  by_cases hhas : g.hasCid data.cid = true
  · rw [hhas]
    exact decide_eq_false (not_not_intro (hasCid_iff_holds.mp hhas))
  · have hnot : ¬ Registry.Holds CardInfo.cid g.card_data_list data.cid := fun hholds =>
      hhas (hasCid_iff_holds.mpr hholds)
    rw [Bool.not_eq_true] at hhas
    rw [hhas]
    exact decide_eq_true hnot

/-- The import of the file of another window. -/
theorem import_openFile_export (g : Gui) {g' : Gui} (hfit : CellsFit g') (env : Nat → RowEnv) :
    import_from_csv g (openFile (export_to_csv g')) env
      = finishImport (importRows exportedNames (.start g) (deliveredRows g') env) .eof := by
  rw [openFile_of_cellsFit hfit, openText_export_to_csv, import_from_csv,
    if_pos headerAccepted_exportedNames]
  rfl

/-- **The file of another window** adds the records whose cid is new, in their
    order and read back, and changes nothing of the records that are there; each
    record is reported once, as imported or as a duplicate. -/
theorem import_other_list (g : Gui) (s : Sys) (h : Reachable program s)
    (file : List Char) (hfile : exportedFile s.gui = some file) (hfit : CellsFit s.gui)
    (hcr : ∀ data ∈ s.gui.card_data_list, '\r' ∉ data.cid) (env : Nat → RowEnv)
    (hinsert : ∀ n, (env n).insertOk = true) :
    let result := import_from_csv g (openFile file) env
    result.1.card_data_list = g.card_data_list
        ++ (s.gui.card_data_list.filter fun data => !g.hasCid data.cid).map readBack ∧
      result.2 = .summary ⟨s.gui.card_data_list.countP fun data => !g.hasCid data.cid,
        s.gui.card_data_list.countP fun data => g.hasCid data.cid, 0⟩ := by
  have hgood := (list_wellFormed h).admissible
  have hlist := import_other_records g h hcr env
  have hrows : (deliveredRows s.gui).length = s.gui.card_data_list.length := by
    simp [deliveredRows]
  have hcids : ∀ cells ∈ deliveredRows s.gui, ∃ cid, rowCid ⟨exportedNames, cells⟩ = some cid := by
    intro cells hcells
    obtain ⟨p, hp, rfl⟩ := List.mem_map.mp hcells
    exact ⟨_, rowCid_deliveredRow (hgood p.1 (List.fst_mem_of_mem_zipIdx hp))⟩
  obtain ⟨hgrowth, herror⟩ := importRows_growth exportedNames (.start g) (deliveredRows s.gui) env
    hinsert hcids
  have htotal := importRows_total exportedNames (.start g) (deliveredRows s.gui) env
  obtain ⟨-, rfl⟩ := exportedFile_eq_some_iff.mp hfile
  rw [import_openFile_export g hfit]
  refine ⟨?_, ?_⟩
  · rw [finishImport_list]
    exact hlist
  · have hsplit := List.length_eq_countP_add_countP (fun data => g.hasCid data.cid)
      (l := s.gui.card_data_list)
    have hnew := List.countP_eq_length_filter (p := fun data => !g.hasCid data.cid)
      (l := s.gui.card_data_list)
    rw [hlist, List.length_append, List.length_map, ← hnew] at hgrowth
    unfold ImportCounts.total at htotal
    rw [finishImport]
    generalize (importRows exportedNames (.start g) (deliveredRows s.gui) env).counts = counts
      at hgrowth herror htotal ⊢
    obtain ⟨imported_count, duplicate_count, error_count⟩ := counts
    simp only [ImportLoop.start, hrows] at hgrowth herror htotal
    have hnot : (s.gui.card_data_list.countP fun data => decide ¬ g.hasCid data.cid = true)
        = s.gui.card_data_list.countP fun data => !g.hasCid data.cid := by simp
    rw [hnot] at hsplit
    have himported : imported_count
        = s.gui.card_data_list.countP fun data => !g.hasCid data.cid := by omega
    have hduplicate : duplicate_count
        = s.gui.card_data_list.countP fun data => g.hasCid data.cid := by omega
    rw [himported, hduplicate, herror]

/-- One person of the file is new, and one a duplicate. -/
theorem import_other_list_threeRows :
    ∃ s, Reachable program s ∧ s.gui.card_data_list.length = 2 ∧
      (import_from_csv mixedWindow (openFile (export_to_csv s.gui))
        fun _ => ⟨[], true⟩).2 = .summary ⟨1, 1, 0⟩ := by
  obtain ⟨s, hreach, hlen, hfit, hcr, hknown⟩ := reachable_threeRows
  have hne : s.gui.card_data_list ≠ [] := List.ne_nil_of_length_eq_add_one hlen
  obtain ⟨-, hsummary⟩ :=
    import_other_list mixedWindow s hreach _ (exportedFile_eq_some_iff.mpr ⟨hne, rfl⟩) hfit hcr
      (fun _ => ⟨[], true⟩) fun _ => rfl
  refine ⟨s, hreach, hlen, hsummary.trans ?_⟩
  have hnew : (s.gui.card_data_list.countP fun data => !mixedWindow.hasCid data.cid)
      = (s.gui.card_data_list.map fun data => mixedWindow.hasCid data.cid).countP (!·) := by
    rw [List.countP_map]
    rfl
  have hold : (s.gui.card_data_list.countP fun data => mixedWindow.hasCid data.cid)
      = (s.gui.card_data_list.map fun data => mixedWindow.hasCid data.cid).countP id := by
    rw [List.countP_map]
    rfl
  rw [hnew, hold, hknown]
  rfl

/-- The cids behind the file of another window. -/
theorem mem_cids_import_other (g : Gui) {s : Sys} (h : Reachable program s)
    (hfit : CellsFit s.gui) (hcr : ∀ data ∈ s.gui.card_data_list, '\r' ∉ data.cid)
    (env : Nat → RowEnv) (cid : Str) :
    cid ∈ (import_from_csv g (openFile (export_to_csv s.gui)) env).1.cids ↔
      cid ∈ g.cids ∨ cid ∈ s.gui.cids := by
  have hcid : ∀ data ∈ s.gui.card_data_list, (readBack data).cid = data.cid := fun data hdata =>
    readBack_cid ((list_wellFormed h).admissible data hdata) (hcr data hdata)
  unfold Gui.cids
  rw [import_openFile_export g hfit, finishImport_list, importRows_list,
    rowRecords_deliveredRows (list_wellFormed h).admissible, Registry.mem_keys_merge]
  apply or_congr Iff.rfl
  rw [← List.reduceOption_map, List.reduceOption_mem_iff, List.map_map, List.map_map,
    List.mem_map, List.mem_map]
  constructor
  · intro hmem
    obtain ⟨data, hdata, heq⟩ := hmem
    exact ⟨data, hdata, (hcid data hdata).symm.trans (Option.some.inj heq)⟩
  · intro hmem
    obtain ⟨data, hdata, heq⟩ := hmem
    exact ⟨data, hdata, congrArg some ((hcid data hdata).trans heq)⟩

/-- **Two windows that import each other's file have the same people.** -/
theorem windows_agree (s t : Sys) (hs : Reachable program s) (ht : Reachable program t)
    (file file' : List Char) (hfile : exportedFile s.gui = some file)
    (hfile' : exportedFile t.gui = some file') (hfits : CellsFit s.gui) (hfitt : CellsFit t.gui)
    (hcrs : ∀ data ∈ s.gui.card_data_list, '\r' ∉ data.cid)
    (hcrt : ∀ data ∈ t.gui.card_data_list, '\r' ∉ data.cid) (env env' : Nat → RowEnv) :
    (import_from_csv s.gui (openFile file') env).1.cids.Perm
      (import_from_csv t.gui (openFile file) env').1.cids := by
  obtain ⟨-, rfl⟩ := exportedFile_eq_some_iff.mp hfile
  obtain ⟨-, rfl⟩ := exportedFile_eq_some_iff.mp hfile'
  have hnodup : ∀ {s t : Sys}, Reachable program s → CellsFit t.gui → ∀ env,
      (import_from_csv s.gui (openFile (export_to_csv t.gui)) env).1.cids.Nodup := by
    intro s t h hfit env
    unfold Gui.cids
    rw [import_openFile_export s.gui hfit, finishImport_list, importRows_list]
    exact Registry.nodup_keys_merge (list_wellFormed h).nodup _
  rw [List.perm_ext_iff_of_nodup (hnodup hs hfitt env) (hnodup ht hfits env')]
  intro cid
  rw [mem_cids_import_other s.gui ht hfitt hcrt, mem_cids_import_other t.gui hs hfits hcrs]
  exact or_comm

/-- The rows of every kind, imported by a person. -/
def mixedRowsActs : List Act :=
  [.pressImport, .chooseImport (some (.table mixedNames mixedRows .eof))]
    ++ List.replicate 7 (.importRow ⟨[], true⟩) ++ [.closeNotice]

/-- Two windows with one person in common. -/
theorem windows_agree_threeRows :
    ∃ s t file file', Reachable program s ∧ Reachable program t ∧
      exportedFile s.gui = some file ∧ exportedFile t.gui = some file' ∧
      s.gui.cids = ["11".toList, "22".toList] ∧
      t.gui.cids = ["22".toList, "33".toList, "44".toList] ∧
      (import_from_csv s.gui (openFile file') fun _ => ⟨[], true⟩).1.cids.Perm
        (import_from_csv t.gui (openFile file) fun _ => ⟨[], true⟩).1.cids := by
  have hrun : ∀ acts cids, (runActs .start acts).map (fun s => decide
      (s.gui.card_data_list ≠ [] ∧ CellsFit s.gui ∧
        (∀ data ∈ s.gui.card_data_list, '\r' ∉ data.cid) ∧ s.gui.cids = cids)) = some true →
      ∃ s file, Reachable program s ∧ exportedFile s.gui = some file ∧ CellsFit s.gui ∧
        (∀ data ∈ s.gui.card_data_list, '\r' ∉ data.cid) ∧ s.gui.cids = cids := by
    intro acts cids h
    obtain ⟨s, hs, hend⟩ := Option.map_eq_some_iff.mp h
    obtain ⟨hne, hrest⟩ := of_decide_eq_true hend
    exact ⟨s, _, (run_of_runActs hs).reachable (.init rfl),
      exportedFile_eq_some_iff.mpr ⟨hne, rfl⟩, hrest⟩
  obtain ⟨s, file, hs, hfile, hfits, hcrs, hcids⟩ :=
    hrun threeRowsActs ["11".toList, "22".toList] (by decide +kernel)
  obtain ⟨t, file', ht, hfile', hfitt, hcrt, hcids'⟩ :=
    hrun mixedRowsActs ["22".toList, "33".toList, "44".toList] (by decide +kernel)
  exact ⟨s, t, file, file', hs, ht, hfile, hfile', hcids, hcids',
    windows_agree s t hs ht file file' hfile hfile' hfits hfitt hcrs hcrt _ _⟩

end GuiReader

end IdScan
