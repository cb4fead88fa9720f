import IdScan.Proofs.ImportRun
import IdScan.Proofs.Store

/-! # An import as a merge

  To the list an import is a merge of the rows into a registry: a row offers
  its record, or nothing where it has no usable cid, and the new offers are
  appended in the order of the file. The three counters tell the rows that were
  new, seen before and unusable apart.

  The texts of an appended record are the cells of its row, save where the row
  is too short for a column: there the record holds `None`.
-/

namespace IdScan

namespace GuiReader

open Registry (merge enroll newOffers IsNew IsSeen IsUnusable)

/-! ### What the rows offer -/

/-- The record a row offers. -/
def rowRecord (row : DictRow) (now : Str) : Option CardInfo :=
  (rowCid row).map fun cid => rowCardInfo row cid now

/-- The records the rows of a file offer, at the times they are read. -/
def rowRecords (names : Csv.Row) (rows : List Csv.Row) (env : Nat → RowEnv) :
    List (Option CardInfo) :=
  rows.mapIdx fun i cells => rowRecord ⟨names, cells⟩ (env i).now

/-- The trimmed cids of the rows of a file. -/
def rowCids (names : Csv.Row) (rows : List Csv.Row) : List (Option Str) :=
  rows.map fun cells => rowCid ⟨names, cells⟩

theorem rowRecords_cons (names cells : Csv.Row) (rows : List Csv.Row) (env : Nat → RowEnv) :
    rowRecords names (cells :: rows) env
      = rowRecord ⟨names, cells⟩ (env 0).now :: rowRecords names rows fun n => env (n + 1) := by
  simp [rowRecords, List.mapIdx_cons]

theorem rowRecord_cid (row : DictRow) (now : Str) :
    (rowRecord row now).map CardInfo.cid = rowCid row := by
  simp [rowRecord, Function.comp_def, rowCardInfo]

theorem rowRecords_cids (names : Csv.Row) (rows : List Csv.Row) (env : Nat → RowEnv) :
    (rowRecords names rows env).map (Option.map CardInfo.cid) = rowCids names rows := by
  induction rows generalizing env with
  | nil => rfl
  | cons cells rows ih =>
    rw [rowRecords_cons, List.map_cons, ih, rowRecord_cid]
    rfl

@[simp] theorem rowRecords_length (names : Csv.Row) (rows : List Csv.Row) (env : Nat → RowEnv) :
    (rowRecords names rows env).length = rows.length := by
  simp [rowRecords]

/-! ### The list -/

/-- One row enrols the record it offers. -/
theorem importRow_list (loop : ImportLoop) (row : DictRow) (env : RowEnv) :
    (importRow loop row env).gui.card_data_list
      = merge CardInfo.cid loop.gui.card_data_list [rowRecord row env.now] := by
  rcases importRow_gui loop row env with ⟨hsame, hskip⟩ | ⟨cid, hcid, hnew, happ⟩
  · rw [hsame, ImportLoop.named_list]
    cases hcid : rowCid row with
    | none => simp [rowRecord, hcid, merge]
    | some cid =>
      have hholds := hasCid_iff_holds.mp (hskip cid hcid)
      simp [rowRecord, hcid, merge, enroll, rowCardInfo, hholds]
  · have hholds : ¬ Registry.Holds CardInfo.cid loop.gui.card_data_list cid := by
      rw [← hasCid_iff_holds, hnew]
      simp
    rw [happ, Gui.append_list, ImportLoop.named_list]
    simp [rowRecord, hcid, merge, enroll, rowCardInfo, hholds]

/-- **The import loop is a merge**, whatever `tree.insert` does. -/
theorem importRows_list (names : Csv.Row) (loop : ImportLoop) (rows : List Csv.Row)
    (env : Nat → RowEnv) :
    (importRows names loop rows env).gui.card_data_list
      = merge CardInfo.cid loop.gui.card_data_list (rowRecords names rows env) := by
  induction rows generalizing loop env with
  | nil => rfl
  | cons cells rows ih =>
    rw [importRows, ih, importRow_list, rowRecords_cons]
    cases rowRecord ⟨names, cells⟩ (env 0).now <;> rfl

/-- The list behind an import of an accepted file, whatever its end. -/
theorem import_list (g : Gui) (names : Csv.Row) (rows : List Csv.Row) (ending : Csv.Ending)
    (env : Nat → RowEnv) (hheader : headerAccepted names = true) :
    (import_from_csv g (.table names rows ending) env).1.card_data_list
      = merge CardInfo.cid g.card_data_list (rowRecords names rows env) := by
  rw [import_from_csv, if_pos hheader, finishImport_list, importRows_list]
  rfl

/-! ### The counters -/

/-- The cids of the list. -/
def Gui.cids (g : Gui) : List Str := g.card_data_list.map CardInfo.cid

theorem Gui.hasCid_iff_mem {g : Gui} {cid : Str} : g.hasCid cid = true ↔ cid ∈ g.cids :=
  hasCid_iff_holds.trans Registry.holds_iff_mem

/-- Behind a row its cid is among those of the list. -/
theorem importRow_cids (loop : ImportLoop) (row : DictRow) (env : RowEnv) (cid : Str) :
    cid ∈ (importRow loop row env).gui.cids ↔ cid ∈ loop.gui.cids ∨ rowCid row = some cid := by
  unfold Gui.cids
  rw [importRow_list, ← rowRecord_cid row env.now]
  cases rowRecord row env.now with
  | none => simp [merge]
  | some data => exact Registry.mem_keys_enroll CardInfo.cid loop.gui.card_data_list data cid

/-- A row is counted once, under what became of it. -/
theorem importRow_counts (loop : ImportLoop) (row : DictRow) (env : RowEnv)
    (hinsert : env.insertOk = true) (cids : List (Option Str)) :
    (importRow loop row env).counts =
      { imported_count := loop.counts.imported_count
          + if IsNew loop.gui.cids (rowCid row :: cids) 0 then 1 else 0
        duplicate_count := loop.counts.duplicate_count
          + if IsSeen loop.gui.cids (rowCid row :: cids) 0 then 1 else 0
        error_count := loop.counts.error_count
          + if IsUnusable (rowCid row :: cids) 0 then 1 else 0 } := by
  obtain ⟨now, insertOk⟩ := env
  obtain rfl : insertOk = true := hinsert
  cases hcid : rowCid row with
  | none => simp [importRow, hcid]
  | some cid =>
    by_cases hhas : loop.gui.hasCid cid = true
    · have hmem := Gui.hasCid_iff_mem.mp hhas
      rw [importRow_duplicate hcid hhas]
      simp [hmem]
    · have hmem : cid ∉ loop.gui.cids := fun h => hhas (Gui.hasCid_iff_mem.mpr h)
      rw [importRow_new hcid (by simpa using hhas)]
      simp [hmem]

/-- The counters behind the loop, where no insertion raises. -/
theorem importRows_counts (names : Csv.Row) (loop : ImportLoop) (rows : List Csv.Row)
    (env : Nat → RowEnv) (hinsert : ∀ n, (env n).insertOk = true) :
    (importRows names loop rows env).counts =
      { imported_count := loop.counts.imported_count
          + Nat.count (IsNew loop.gui.cids (rowCids names rows)) rows.length
        duplicate_count := loop.counts.duplicate_count
          + Nat.count (IsSeen loop.gui.cids (rowCids names rows)) rows.length
        error_count := loop.counts.error_count
          + Nat.count (IsUnusable (rowCids names rows)) rows.length } := by
  induction rows generalizing loop env with
  | nil => rfl
  | cons cells rows ih =>
    have hcids := importRow_cids loop ⟨names, cells⟩ (env 0)
    rw [importRows, ih _ _ fun n => hinsert (n + 1),
      importRow_counts loop ⟨names, cells⟩ (env 0) (hinsert 0) (rowCids names rows)]
    have hcons : rowCids names (cells :: rows) = rowCid ⟨names, cells⟩ :: rowCids names rows := rfl
    rw [hcons, List.length_cons, Registry.count_isNew_succ hcids,
      Registry.count_isSeen_succ hcids, Registry.count_isUnusable_succ]
    simp only [ImportCounts.mk.injEq]
    omega

/-- The number of rows counted. -/
def ImportCounts.total (counts : ImportCounts) : Nat :=
  counts.imported_count + counts.duplicate_count + counts.error_count

theorem importRow_total (loop : ImportLoop) (row : DictRow) (env : RowEnv) :
    (importRow loop row env).counts.total = loop.counts.total + 1 := by
  unfold ImportCounts.total
  cases hcid : rowCid row with
  | none =>
    simp only [importRow, hcid]
    omega
  | some cid =>
    simp only [importRow, hcid]
    split
    · dsimp only
      omega
    · split
      · dsimp only
        omega
      · dsimp only
        omega

/-- Every row is counted, whatever `tree.insert` does. -/
theorem importRows_total (names : Csv.Row) (loop : ImportLoop) (rows : List Csv.Row)
    (env : Nat → RowEnv) :
    (importRows names loop rows env).counts.total = loop.counts.total + rows.length := by
  induction rows generalizing loop env with
  | nil => rfl
  | cons cells rows ih =>
    rw [importRows, ih, importRow_total, List.length_cons]
    omega

/-- **An import is a merge that counts every row once.** -/
theorem import_merges (g : Gui) (names : Csv.Row) (rows : List Csv.Row) (env : Nat → RowEnv)
    (hheader : headerAccepted names = true) (hinsert : ∀ n, (env n).insertOk = true) :
    (import_from_csv g (.table names rows .eof) env).1.card_data_list
        = g.card_data_list ++ newOffers g.cids CardInfo.cid (rowRecords names rows env) ∧
      ∃ counts, (import_from_csv g (.table names rows .eof) env).2 = .summary counts ∧
        counts.imported_count = Nat.count (IsNew g.cids (rowCids names rows)) rows.length ∧
        counts.duplicate_count = Nat.count (IsSeen g.cids (rowCids names rows)) rows.length ∧
        counts.error_count = Nat.count (IsUnusable (rowCids names rows)) rows.length ∧
        counts.imported_count + counts.duplicate_count + counts.error_count = rows.length := by
  refine ⟨?_, (importRows names (.start g) rows env).counts, ?_, ?_⟩
  · rw [import_list g names rows .eof env hheader, Registry.merge_eq]
    rfl
  · rw [import_from_csv, if_pos hheader]
    rfl
  · have htotal := importRows_total names (.start g) rows env
    have hcounts := importRows_counts names (.start g) rows env hinsert
    have hstart : (ImportLoop.start g).counts = ⟨0, 0, 0⟩ := rfl
    simp only [hstart, Nat.zero_add] at hcounts
    refine ⟨by rw [hcounts]; rfl, by rw [hcounts]; rfl, by rw [hcounts], ?_⟩
    simpa [ImportCounts.total, ImportLoop.start] using htotal

/-- The title stands in front of the required columns. -/
def mixedNames : Csv.Row := (.th_title :: required_fields).map Column.name

/-- Rows of every kind: seen, new, too short for a cid, new only the first time,
    and with a blank cid. -/
def mixedRows : List Csv.Row :=
  [["นาย".toList, "22".toList, "ก".toList, "ข".toList], ["นาง".toList, "33".toList],
    ["นาย".toList], [[], " 33 ".toList, "ค".toList], [[], "44".toList, [], []],
    [[], " ".toList, "ง".toList]]

theorem import_merges_mixedRows :
    ∃ counts, (import_from_csv (import_from_csv .start threeRows fun _ => ⟨[], true⟩).1
        (.table mixedNames mixedRows .eof) fun _ => ⟨[], true⟩).2
          = .summary counts ∧
      counts.imported_count = 2 ∧ counts.duplicate_count = 2 ∧ counts.error_count = 2 := by
  obtain ⟨_, counts, hend, himported, hduplicate, herror, _⟩ :=
    import_merges (import_from_csv .start threeRows fun _ => ⟨[], true⟩).1
      mixedNames mixedRows (fun _ => ⟨[], true⟩) (by decide +kernel) (fun _ => rfl)
  refine ⟨counts, hend, ?_, ?_, ?_⟩
  · rw [himported]
    decide +kernel
  · rw [hduplicate]
    decide +kernel
  · rw [herror]
    decide +kernel

/-! ### The texts of an appended record -/

/-- The columns the fields of a record are taken from, the cid's aside. -/
def importColumns : List Column :=
  [.th_title, .th_firstname, .th_lastname, .en_title, .en_firstname, .en_lastname,
    .birth_date, .gender, .issuer, .issue_date, .expire_date,
    .house_no, .moo_soi, .subdistrict, .district, .province, .timestamp]

/-- The field of a record that belongs to a column. -/
def fieldOf (data : CardInfo) (c : Column) : PyVal := exportRow .start 0 data c

/-- The default the import names for a column. -/
def columnDefault (now : Str) (c : Column) : Str := if c = .timestamp then now else []

/-- The cell of a row in a column, or the default where it has no such cell. -/
def cellText (row : DictRow) (now : Str) (c : Column) : Str :=
  (row.get? c).join.getD (columnDefault now c)

/-- What the record and its row of the table should be made of. -/
structure MadeOfTexts (row : DictRow) (now : Str) (data : CardInfo) : Prop where
  fields : ∀ c ∈ importColumns, fieldOf data c = some (cellText row now c)
  th_fullname : data.th_fullname = Text.joinNonEmpty [' ']
    ([.th_title, .th_firstname, .th_lastname].map (cellText row now))
  en_fullname : data.en_fullname = Text.joinNonEmpty [' ']
    ([.en_title, .en_firstname, .en_lastname].map (cellText row now))
  address : data.address = Text.joinNonEmpty [' ']
    ([.house_no, .moo_soi, .subdistrict, .district, .province].map (cellText row now))
  shown : ∀ index, (tableRow index data).birth_date ≠ none ∧
    (tableRow index data).gender ≠ none ∧ (tableRow index data).timestamp ≠ none

/-- A field is what `row.get` gives for its column. -/
theorem field_rowCardInfo (row : DictRow) (cid now : Str) {c : Column} (hc : c ∈ importColumns) :
    fieldOf (rowCardInfo row cid now) c = row.get c (some (columnDefault now c)) := by
  have hall : ∀ c ∈ importColumns,
      fieldOf (rowCardInfo row cid now) c = row.get c (some (columnDefault now c)) := by
    simp [importColumns, fieldOf, exportRow, rowCardInfo, columnDefault]
  exact hall c hc

/-- `row.get` gives the text it should unless the row is too short. -/
theorem get_eq_cellText_iff (row : DictRow) (now : Str) (c : Column) :
    row.get c (some (columnDefault now c)) = some (cellText row now c) ↔
      row.get? c ≠ some none := by
  unfold DictRow.get cellText
  cases row.get? c with
  | none => simp
  | some cell => cases cell <;> simp

/-- In a joined text a missing cell counts for as much as an empty one. -/
theorem getD_get (row : DictRow) (now : Str) {c : Column} (hc : c ≠ .timestamp) :
    (row.get c (some [])).getD [] = cellText row now c := by
  have hdefault : columnDefault now c = [] := if_neg hc
  unfold DictRow.get cellText
  rw [hdefault]
  cases row.get? c with
  | none => rfl
  | some cell => rfl

theorem madeOfTexts_iff (row : DictRow) (cid now : Str) :
    MadeOfTexts row now (rowCardInfo row cid now) ↔
      ∀ c ∈ importColumns, row.get? c ≠ some none := by
  constructor
  · intro h c hc
    rw [← get_eq_cellText_iff row now c, ← field_rowCardInfo row cid now hc]
    exact h.fields c hc
  · intro h
    have hfields : ∀ c ∈ importColumns,
        fieldOf (rowCardInfo row cid now) c = some (cellText row now c) := by
      intro c hc
      rw [field_rowCardInfo row cid now hc]
      exact (get_eq_cellText_iff row now c).mpr (h c hc)
    refine ⟨hfields, ?_, ?_, ?_, fun index => ⟨?_, ?_, ?_⟩⟩
    · simp [rowCardInfo, joinParts, getD_get row now]
    · simp [rowCardInfo, joinParts, getD_get row now]
    · simp [rowCardInfo, joinParts, getD_get row now]
    · have hbirth := hfields .birth_date (by decide)
      exact Option.ne_none_iff_exists'.mpr ⟨_, hbirth⟩
    · have hgender := hfields .gender (by decide)
      exact Option.ne_none_iff_exists'.mpr ⟨_, hgender⟩
    · have htimestamp := hfields .timestamp (by decide)
      exact Option.ne_none_iff_exists'.mpr ⟨_, htimestamp⟩

/-- The record of a new row, where it stands in the list behind the import. -/
theorem imported_record {g : Gui} {names : Csv.Row} {rows : List Csv.Row} {i : Nat}
    {cells : Csv.Row} (ending : Csv.Ending) (env : Nat → RowEnv)
    (hheader : headerAccepted names = true) (hnew : IsNew g.cids (rowCids names rows) i)
    (hcells : rows[i]? = some cells) :
    ∃ cid, rowCid ⟨names, cells⟩ = some cid ∧
      (import_from_csv g (.table names rows ending) env).1.card_data_list[
          g.card_data_list.length + Nat.count (IsNew g.cids (rowCids names rows)) i]?
        = some (rowCardInfo ⟨names, cells⟩ cid (env i).now) := by
  obtain ⟨cid, hcid, _⟩ := id hnew
  have hrow : rowCid ⟨names, cells⟩ = some cid := by
    simpa [rowCids, hcells] using hcid
  refine ⟨cid, hrow, ?_⟩
  rw [import_list g names rows ending env hheader, Registry.merge_eq,
    List.getElem?_append_right (Nat.le_add_right _ _), Nat.add_sub_cancel_left,
    ← rowRecords_cids names rows env]
  rw [← rowRecords_cids names rows env] at hnew
  refine (Registry.newOffers_getElem? hnew).trans ?_
  simp [rowRecords, hcells, rowRecord, hrow]

/-- A row has no cell for a column that is named last behind the end of the row. -/
theorem get?_eq_some_none_iff {row : DictRow} {c : Column} :
    row.get? c = some none ↔ ∃ i, Csv.IsLast row.names c.name i ∧ row.cells.length ≤ i := by
  rw [DictRow.get?, Csv.lookup_eq_some_iff]
  simp only [eq_comm (a := none), List.getElem?_eq_none_iff]

/-- In a row as long as the header no cell is missing. -/
theorem get?_ne_some_none {row : DictRow} (c : Column)
    (h : row.names.length ≤ row.cells.length) : row.get? c ≠ some none := by
  intro hnone
  obtain ⟨i, hi, hlen⟩ := get?_eq_some_none_iff.mp hnone
  obtain ⟨hlt, -⟩ := List.getElem?_eq_some_iff.mp hi.1
  omega

/-- **When an imported record is made of texts**: exactly when its row has a cell
    for each of its columns that the header names. -/
theorem imported_texts_iff (g : Gui) (names : Csv.Row) (rows : List Csv.Row)
    (ending : Csv.Ending) (env : Nat → RowEnv) (hheader : headerAccepted names = true)
    (i : Nat) (hnew : IsNew g.cids (rowCids names rows) i) (cells : Csv.Row)
    (hcells : rows[i]? = some cells) :
    ∃ data, (import_from_csv g (.table names rows ending) env).1.card_data_list[
          g.card_data_list.length + Nat.count (IsNew g.cids (rowCids names rows)) i]?
        = some data ∧ rowCid ⟨names, cells⟩ = some data.cid ∧
      (MadeOfTexts ⟨names, cells⟩ (env i).now data ↔
        ∀ c ∈ importColumns, DictRow.get? ⟨names, cells⟩ c ≠ some none) := by
  obtain ⟨cid, hcid, hrecord⟩ := imported_record ending env hheader hnew hcells
  exact ⟨_, hrecord, hcid, madeOfTexts_iff ⟨names, cells⟩ cid (env i).now⟩

theorem imported_texts_iff_mixedRows :
    ∃ data, (import_from_csv .start (.table mixedNames mixedRows .eof)
        fun _ => ⟨[], true⟩).1.card_data_list[0]? = some data ∧ data.cid = "22".toList ∧
      MadeOfTexts ⟨mixedNames, ["นาย".toList, "22".toList, "ก".toList, "ข".toList]⟩ [] data := by
  obtain ⟨data, hdata, hcid, htexts⟩ :=
    imported_texts_iff .start mixedNames mixedRows .eof (fun _ => ⟨[], true⟩) (by decide +kernel)
      0 (by decide +kernel) ["นาย".toList, "22".toList, "ก".toList, "ข".toList] rfl
  have hrow : rowCid ⟨mixedNames, ["นาย".toList, "22".toList, "ก".toList, "ข".toList]⟩
      = some "22".toList := by decide +kernel
  exact ⟨data, hdata, Option.some.inj (hcid.symm.trans hrow),
    htexts.mpr fun c _ => get?_ne_some_none c (by decide)⟩

/-- The second row has neither first nor last name, and its record holds `None`
    for both. -/
theorem short_row_holds_none :
    headerAccepted mixedNames = true ∧
      ∃ data, (import_from_csv .start (.table mixedNames mixedRows .eof)
          fun _ => ⟨[], true⟩).1.card_data_list[1]? = some data ∧ data.cid = "33".toList ∧
        data.th_firstname = none ∧ data.th_lastname = none ∧
        ¬ MadeOfTexts ⟨mixedNames, ["นาง".toList, "33".toList]⟩ [] data := by
  have himport : (import_from_csv .start (.table mixedNames mixedRows .eof)
      fun _ => ⟨[], true⟩).1.card_data_list[1]?
      = some (rowCardInfo ⟨mixedNames, ["นาง".toList, "33".toList]⟩ "33".toList []) := by
    decide +kernel
  refine ⟨by decide +kernel, _, himport, rfl, by decide +kernel, by decide +kernel, ?_⟩
  intro h
  have hname := h.fields .th_firstname (by decide)
  have hnone : fieldOf (rowCardInfo ⟨mixedNames, ["นาง".toList, "33".toList]⟩
      "33".toList []) .th_firstname = none := by decide +kernel
  rw [hnone] at hname
  simp at hname

end GuiReader

end IdScan
