import IdScan.Model.Gui

/-! # Whole imports

  What a whole run of the import loop does to the window, from what one row
  does. A row is skipped or its record goes to the end of the list, so the list
  only grows, and it stays as it is exactly if every row is skipped.

  The loop writes to the window as it goes and the handler of a failed import
  writes nothing back: `failed_import_restores_iff`.
-/

namespace IdScan

namespace GuiReader

/-! ### One row -/

@[simp] theorem importRow_first_row (loop : ImportLoop) (row : DictRow) (env : RowEnv) :
    (importRow loop row env).first_row = false := by
  cases hcid : rowCid row with
  | none => simp [importRow, hcid]
  | some cid =>
    simp only [importRow, hcid]
    split
    · rfl
    · split <;> rfl

/-- After the first row the names stay. -/
theorem ImportLoop.named_of_not_first {loop : ImportLoop} (h : loop.first_row = false)
    (row : DictRow) : loop.named row = loop.gui := by
  simp [ImportLoop.named, h]

theorem ImportLoop.named_of_first {loop : ImportLoop} (h : loop.first_row = true)
    (row : DictRow) : loop.named row = setNames loop.gui row := by
  simp [ImportLoop.named, h]

/-- A row without a new cid is skipped. -/
theorem importRow_skipped {loop : ImportLoop} {row : DictRow} {env : RowEnv}
    (hskip : ∀ cid, rowCid row = some cid → loop.gui.hasCid cid = true) :
    (importRow loop row env).gui = loop.named row := by
  rcases importRow_gui loop row env with ⟨hsame, _⟩ | ⟨cid, hcid, hnew, _⟩
  · exact hsame
  · simp [hskip cid hcid] at hnew

/-- A row whose cid is in the list counts as a duplicate. -/
theorem importRow_duplicate {loop : ImportLoop} {row : DictRow} {env : RowEnv} {cid : Str}
    (hcid : rowCid row = some cid) (hhas : loop.gui.hasCid cid = true) :
    importRow loop row env = ⟨loop.named row,
      { loop.counts with duplicate_count := loop.counts.duplicate_count + 1 }, false⟩ := by
  simp [importRow, hcid, hhas]

/-- A row with a new cid is imported. -/
theorem importRow_new {loop : ImportLoop} {row : DictRow} {now cid : Str}
    (hcid : rowCid row = some cid) (hnew : loop.gui.hasCid cid = false) :
    importRow loop row ⟨now, true⟩ = ⟨(loop.named row).append (rowCardInfo row cid now) true,
      { loop.counts with imported_count := loop.counts.imported_count + 1 }, false⟩ := by
  simp [importRow, hcid, hnew]

/-- A row touches neither the names, once they are set, nor the label. -/
theorem importRow_names (loop : ImportLoop) (row : DictRow) (env : RowEnv) :
    (importRow loop row env).gui.project_name = (loop.named row).project_name ∧
      (importRow loop row env).gui.school_name = (loop.named row).school_name := by
  rcases importRow_gui loop row env with ⟨hsame, _⟩ | ⟨cid, _, _, happ⟩
  · simp [hsame]
  · simp [happ, Gui.append]

/-! ### All rows -/

/-- The list only grows. -/
theorem importRows_prefix (names : Csv.Row) (loop : ImportLoop) (rows : List Csv.Row)
    (env : Nat → RowEnv) :
    loop.gui.card_data_list <+: (importRows names loop rows env).gui.card_data_list := by
  induction rows generalizing loop env with
  | nil => exact List.prefix_rfl
  | cons cells rows ih =>
    refine List.IsPrefix.trans ?_ (ih _ _)
    rcases importRow_gui loop ⟨names, cells⟩ (env 0) with ⟨hsame, _⟩ | ⟨cid, _, _, happ⟩
    · simp [hsame]
    · simp [happ]

/-- The list stays as it is exactly if every row is skipped. -/
theorem importRows_list_eq_iff (names : Csv.Row) (loop : ImportLoop) (rows : List Csv.Row)
    (env : Nat → RowEnv) :
    (importRows names loop rows env).gui.card_data_list = loop.gui.card_data_list ↔
      ∀ cells ∈ rows, ∀ cid, rowCid ⟨names, cells⟩ = some cid → loop.gui.hasCid cid = true := by
  induction rows generalizing loop env with
  | nil => simp [importRows]
  | cons cells rows ih =>
    rw [importRows, List.forall_mem_cons]
    rcases importRow_gui loop ⟨names, cells⟩ (env 0) with ⟨hsame, hskip⟩ | ⟨cid, hcid, hnew, happ⟩
    · -- the row is skipped, and the rest decides
      have hlist : (importRow loop ⟨names, cells⟩ (env 0)).gui.card_data_list
          = loop.gui.card_data_list := by simp [hsame]
      rw [← hlist, ih]
      simp only [hsame, ImportLoop.named_hasCid]
      exact ⟨fun h => ⟨hskip, h⟩, And.right⟩
    · -- the row is imported, and nothing behind it shortens the list again
      constructor
      · intro heq
        have hpre := importRows_prefix names (importRow loop ⟨names, cells⟩ (env 0)) rows
          fun n => env (n + 1)
        rw [heq, happ] at hpre
        have hlen := hpre.length_le
        rw [Gui.append_list, ImportLoop.named_list, List.length_append] at hlen
        simp only [List.length_singleton] at hlen
        omega
      · intro h
        obtain ⟨hskip, -⟩ := h
        simp [hskip cid hcid] at hnew

/-- Past the first row, skipped rows leave the window as it is. -/
theorem importRows_skipped {names : Csv.Row} {loop : ImportLoop} {rows : List Csv.Row}
    {env : Nat → RowEnv} (hfirst : loop.first_row = false)
    (hskip : ∀ cells ∈ rows, ∀ cid, rowCid ⟨names, cells⟩ = some cid →
      loop.gui.hasCid cid = true) :
    (importRows names loop rows env).gui = loop.gui := by
  induction rows generalizing loop env with
  | nil => rfl
  | cons cells rows ih =>
    have hgui : (importRow loop ⟨names, cells⟩ (env 0)).gui = loop.gui := by
      rw [importRow_skipped (hskip cells (by simp)), ImportLoop.named_of_not_first hfirst]
    rw [importRows, ih (importRow_first_row _ _ _)]
    · exact hgui
    · rw [hgui]
      exact fun cells' hcells' => hskip cells' (by simp [hcells'])

/-- Past the first row the names stay. -/
theorem importRows_names (names : Csv.Row) (loop : ImportLoop) (rows : List Csv.Row)
    (env : Nat → RowEnv) (hfirst : loop.first_row = false) :
    (importRows names loop rows env).gui.project_name = loop.gui.project_name ∧
      (importRows names loop rows env).gui.school_name = loop.gui.school_name := by
  induction rows generalizing loop env with
  | nil => exact ⟨rfl, rfl⟩
  | cons cells rows ih =>
    obtain ⟨hproject, hschool⟩ := importRow_names loop ⟨names, cells⟩ (env 0)
    rw [ImportLoop.named_of_not_first hfirst] at hproject hschool
    rw [importRows, ← hproject, ← hschool]
    exact ih _ _ (importRow_first_row _ _ _)

/-- The names of the first row are those of the whole import. -/
theorem importRows_start_names (names : Csv.Row) (g : Gui) (cells : Csv.Row) (rows : List Csv.Row)
    (env : Nat → RowEnv) :
    (importRows names (.start g) (cells :: rows) env).gui.project_name
        = (setNames g ⟨names, cells⟩).project_name ∧
      (importRows names (.start g) (cells :: rows) env).gui.school_name
        = (setNames g ⟨names, cells⟩).school_name := by
  obtain ⟨hproject, hschool⟩ := importRow_names (.start g) ⟨names, cells⟩ (env 0)
  rw [ImportLoop.named_of_first rfl] at hproject hschool
  rw [importRows]
  obtain ⟨hproject', hschool'⟩ := importRows_names names _ rows (fun n => env (n + 1))
    (importRow_first_row (.start g) ⟨names, cells⟩ (env 0))
  exact ⟨hproject'.trans hproject, hschool'.trans hschool⟩

/-- What holds of every record a row can give, and of the records before, holds
    of all records after. -/
theorem importRows_forall {P : CardInfo → Prop} {names : Csv.Row} {loop : ImportLoop}
    {rows : List Csv.Row} {env : Nat → RowEnv}
    (hrows : ∀ cells ∈ rows, ∀ cid now, rowCid ⟨names, cells⟩ = some cid →
      P (rowCardInfo ⟨names, cells⟩ cid now))
    (hstart : ∀ data ∈ loop.gui.card_data_list, P data) :
    ∀ data ∈ (importRows names loop rows env).gui.card_data_list, P data := by
  induction rows generalizing loop env with
  | nil => exact hstart
  | cons cells rows ih =>
    rw [importRows]
    refine ih (fun cells' hcells' => hrows cells' (by simp [hcells'])) ?_
    rcases importRow_gui loop ⟨names, cells⟩ (env 0) with ⟨hsame, _⟩ | ⟨cid, hcid, _, happ⟩
    · simpa [hsame] using hstart
    · intro data hdata
      simp only [happ, Gui.append_list, ImportLoop.named_list, List.mem_append,
        List.mem_singleton] at hdata
      rcases hdata with hdata | rfl
      · exact hstart data hdata
      · exact hrows cells (by simp) cid _ hcid

/-- Rows that are all in the list are all counted as duplicates. -/
theorem importRows_duplicates (names : Csv.Row) (loop : ImportLoop) (rows : List Csv.Row)
    (env : Nat → RowEnv)
    (hdup : ∀ cells ∈ rows, ∃ cid, rowCid ⟨names, cells⟩ = some cid ∧
      loop.gui.hasCid cid = true) :
    (importRows names loop rows env).gui.card_data_list = loop.gui.card_data_list ∧
      (importRows names loop rows env).gui.tree = loop.gui.tree ∧
      (importRows names loop rows env).counts = { loop.counts with
        duplicate_count := loop.counts.duplicate_count + rows.length } := by
  induction rows generalizing loop env with
  | nil => exact ⟨rfl, rfl, rfl⟩
  | cons cells rows ih =>
    obtain ⟨cid, hcid, hhas⟩ := hdup cells (by simp)
    rw [importRows, importRow_duplicate hcid hhas]
    obtain ⟨hlist, htree, hcounts⟩ := ih ⟨loop.named ⟨names, cells⟩,
        { loop.counts with duplicate_count := loop.counts.duplicate_count + 1 }, false⟩
      (fun n => env (n + 1))
      (fun cells' hcells' => by simpa using hdup cells' (by simp [hcells']))
    refine ⟨by simpa using hlist, by simpa using htree, ?_⟩
    rw [hcounts, List.length_cons]
    simp only [ImportCounts.mk.injEq, true_and, and_true]
    omega

/-- Rows with distinct new cids are all imported, in order. -/
theorem importRows_new {ι : Type} (names : Csv.Row) (toCells : ι → Csv.Row)
    (record : ι → CardInfo) (items : List ι) (loop : ImportLoop) (now : Nat → Str)
    (hcid : ∀ i ∈ items, rowCid ⟨names, toCells i⟩ = some (record i).cid)
    (hrecord : ∀ i ∈ items, ∀ t, rowCardInfo ⟨names, toCells i⟩ (record i).cid t = record i)
    (hnodup : (items.map fun i => (record i).cid).Nodup)
    (hnew : ∀ i ∈ items, loop.gui.hasCid (record i).cid = false) :
    (importRows names loop (items.map toCells) fun n => ⟨now n, true⟩).gui.card_data_list
        = loop.gui.card_data_list ++ items.map record ∧
      (importRows names loop (items.map toCells) fun n => ⟨now n, true⟩).counts
        = { loop.counts with imported_count := loop.counts.imported_count + items.length } := by
  induction items generalizing loop now with
  | nil => simp [importRows]
  | cons i items ih =>
    rw [List.map_cons, List.nodup_cons] at hnodup
    rw [List.map_cons, importRows, importRow_new (hcid i (by simp)) (hnew i (by simp)),
      hrecord i (by simp)]
    obtain ⟨hlist, hcounts⟩ := ih ⟨(loop.named ⟨names, toCells i⟩).append (record i) true,
        { loop.counts with imported_count := loop.counts.imported_count + 1 }, false⟩
      (fun n => now (n + 1))
      (fun j hj => hcid j (by simp [hj])) (fun j hj => hrecord j (by simp [hj])) hnodup.2
      (by
        -- a later cid is not the one just added
        intro j hj
        have hne : (record i).cid ≠ (record j).cid := fun heq =>
          hnodup.1 (heq ▸ List.mem_map_of_mem hj)
        simpa [Gui.hasCid, hne] using hnew j (by simp [hj]))
    refine ⟨?_, ?_⟩
    · rw [hlist]
      simp
    · rw [hcounts, List.length_cons]
      simp only [ImportCounts.mk.injEq, and_true]
      omega

/-! ### A failed import -/

/-- What an import should leave alone when it fails. -/
structure Unchanged (g g' : Gui) : Prop where
  card_data_list : g'.card_data_list = g.card_data_list
  tree : g'.tree = g.tree
  data_count : g'.data_count = g.data_count
  project_name : g'.project_name = g.project_name
  school_name : g'.school_name = g.school_name

/-- The row has no other project or school name than the window. -/
def KeepsNames (g : Gui) (row : DictRow) : Prop :=
  (∀ text, row.truthy .project = some text → text = g.project_name) ∧
    ∀ text, row.truthy .school = some text → text = g.school_name

/-- The file has nothing for the window before it fails: where its header is
    accepted and the reader raises behind it, no row before has a new cid, and
    the first row keeps the names. -/
def Harmless (g : Gui) : Csv.Input → Prop
  | .raised => True
  | .noHeader => True
  | .table names rows ending =>
    headerAccepted names = true → ending = .raised →
      (∀ cells ∈ rows, ∀ cid, rowCid ⟨names, cells⟩ = some cid → g.hasCid cid = true) ∧
        ∀ cells ∈ rows.head?, KeepsNames g ⟨names, cells⟩

theorem getD_eq_iff {o : Option Str} {d : Str} : o.getD d = d ↔ ∀ text, o = some text → text = d := by
  cases o <;> simp

theorem setNames_eq_iff {g : Gui} {row : DictRow} :
    (setNames g row).project_name = g.project_name ∧
      (setNames g row).school_name = g.school_name ↔ KeepsNames g row :=
  and_congr getD_eq_iff getD_eq_iff

theorem setNames_of_keepsNames {g : Gui} {row : DictRow} (h : KeepsNames g row) :
    setNames g row = g := by
  obtain ⟨hproject, hschool⟩ := setNames_eq_iff.mpr h
  unfold setNames at hproject hschool ⊢
  dsimp only at hproject hschool
  rw [hproject, hschool]

/-- The loop leaves the window as it is exactly if no row has anything for it. -/
theorem importRows_unchanged_iff (names : Csv.Row) (g : Gui) (rows : List Csv.Row)
    (env : Nat → RowEnv) :
    Unchanged g (importRows names (.start g) rows env).gui ↔
      (∀ cells ∈ rows, ∀ cid, rowCid ⟨names, cells⟩ = some cid → g.hasCid cid = true) ∧
        ∀ cells ∈ rows.head?, KeepsNames g ⟨names, cells⟩ := by
  constructor
  · intro h
    refine ⟨(importRows_list_eq_iff names (.start g) rows env).mp h.card_data_list, ?_⟩
    intro cells hcells
    cases rows with
    | nil => simp at hcells
    | cons first rows =>
      obtain rfl : first = cells := by simpa using hcells
      obtain ⟨hproject, hschool⟩ := importRows_start_names names g first rows env
      exact setNames_eq_iff.mp ⟨hproject ▸ h.project_name, hschool ▸ h.school_name⟩
  · intro h
    obtain ⟨hskip, hkeep⟩ := h
    -- only the first row can set the names, and it keeps them
    have hgui : (importRows names (.start g) rows env).gui = g := by
      cases rows with
      | nil => rfl
      | cons first rows =>
        have hfirst : (importRow (.start g) ⟨names, first⟩ (env 0)).gui = g := by
          rw [importRow_skipped (hskip first (by simp)), ImportLoop.named_of_first rfl]
          exact setNames_of_keepsNames (hkeep first (by simp))
        rw [importRows, importRows_skipped (importRow_first_row _ _ _), hfirst]
        rw [hfirst]
        exact fun cells hcells => hskip cells (by simp [hcells])
    rw [hgui]
    exact ⟨rfl, rfl, rfl, rfl, rfl⟩

/-- **When a failed import leaves everything as it was.** -/
theorem failed_import_restores_iff (g : Gui) (file : Csv.Input) (env : Nat → RowEnv) :
    ((import_from_csv g file env).2 = .failed ∨ (import_from_csv g file env).2 = .refused →
        Unchanged g (import_from_csv g file env).1) ↔
      Harmless g file := by
  have hrefl : Unchanged g g := ⟨rfl, rfl, rfl, rfl, rfl⟩
  cases file with
  | raised => exact iff_of_true (fun _ => hrefl) trivial
  | noHeader => exact iff_of_true (fun _ => hrefl) trivial
  | table names rows ending =>
    by_cases hheader : headerAccepted names = true
    · cases ending with
      | eof =>
        simp [import_from_csv, hheader, finishImport, Harmless]
      | raised =>
        simp only [import_from_csv, hheader, if_true, finishImport, true_or, forall_const,
          Harmless]
        exact importRows_unchanged_iff names g rows env
    · -- a refused file is not read at all
      rw [Bool.not_eq_true] at hheader
      refine iff_of_true (fun _ => ?_) ?_
      · simpa [import_from_csv, hheader] using hrefl
      · intro htrue
        simp [hheader] at htrue

/-- A file that breaks off after one good row. -/
def brokenFile : Csv.Input :=
  .table (Column.project.name :: required_fields.map Column.name)
    [["โครงการ ก".toList, "11".toList, "ก".toList, "ข".toList]] .raised

/-- Its row and its project name stay, under a label that says there is nobody. -/
theorem brokenFile_leaves_row :
    (import_from_csv .start brokenFile fun _ => ⟨[], true⟩).2 = .failed ∧
      ¬ Unchanged .start (import_from_csv .start brokenFile fun _ => ⟨[], true⟩).1 ∧
      (import_from_csv .start brokenFile fun _ => ⟨[], true⟩).1.card_data_list.map CardInfo.cid
        = ["11".toList] ∧
      (import_from_csv .start brokenFile fun _ => ⟨[], true⟩).1.project_name
        = "โครงการ ก".toList ∧
      (import_from_csv .start brokenFile fun _ => ⟨[], true⟩).1.data_count = 0 := by
  refine ⟨by decide +kernel, fun h => ?_, by decide +kernel, by decide +kernel,
    by decide +kernel⟩
  have hname : (import_from_csv .start brokenFile fun _ => ⟨[], true⟩).1.project_name
      = "โครงการ ก".toList := by decide +kernel
  have hstart := hname.symm.trans h.project_name
  simp [Gui.start] at hstart

end GuiReader

end IdScan
