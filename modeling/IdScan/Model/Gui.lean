import IdScan.Framework.CsvDict
import IdScan.Model.GuiReader

/-! # The window: its list, its table, and its CSV files

  The attributes of `IDCardReaderGUI` that its handlers share, and the handlers
  as functions on them. What the toolkit decides from outside (does
  `tree.insert` raise, what does the clock say, what does the CSV reader
  deliver) comes in as an argument.
-/

namespace IdScan

namespace GuiReader

/-! ### State -/

/-- The values a table row was inserted with. -/
structure TableRow where
  index : Nat
  cid : Str
  th_fullname : Str
  en_fullname : Str
  birth_date : PyVal
  gender : PyVal
  timestamp : PyVal
  deriving DecidableEq

/-- The attributes of `IDCardReaderGUI`. `data_count` is the number in front of
    "คน" on the label. -/
structure Gui where
  card_data_list : List CardInfo
  tree : List TableRow
  data_count : Nat
  project_name : Str
  school_name : Str
  current_cid : Option Str
  deriving DecidableEq

/-- The window as `__init__` leaves it. -/
def Gui.start : Gui := ⟨[], [], 0, [], [], none⟩

/-- The row of a record under a number. -/
def tableRow (index : Nat) (card_info : CardInfo) : TableRow where
  index := index
  cid := card_info.cid
  th_fullname := card_info.th_fullname
  en_fullname := card_info.en_fullname
  birth_date := card_info.birth_date
  gender := card_info.gender
  timestamp := card_info.timestamp

/-- `card_data_list.append` and `tree.insert`. Where the insertion raises, the
    record is in the list already. -/
def Gui.append (g : Gui) (card_info : CardInfo) (insertOk : Bool) : Gui :=
  let card_data_list := g.card_data_list ++ [card_info]
  { g with
    card_data_list
    tree := if insertOk then g.tree ++ [tableRow card_data_list.length card_info] else g.tree }

/-- Is there a record with this cid in the list? -/
def Gui.hasCid (g : Gui) (cid : Str) : Bool := g.card_data_list.any fun data => data.cid == cid

@[simp] theorem Gui.append_list (g : Gui) (card_info : CardInfo) (insertOk : Bool) :
    (g.append card_info insertOk).card_data_list = g.card_data_list ++ [card_info] := rfl

@[simp] theorem Gui.append_tree (g : Gui) (card_info : CardInfo) :
    (g.append card_info true).tree
      = g.tree ++ [tableRow (g.card_data_list.length + 1) card_info] := by
  simp [Gui.append]

@[simp] theorem Gui.append_current_cid (g : Gui) (card_info : CardInfo) (insertOk : Bool) :
    (g.append card_info insertOk).current_cid = g.current_cid := rfl

theorem Gui.hasCid_iff {g : Gui} {cid : Str} :
    g.hasCid cid = true ↔ ∃ data ∈ g.card_data_list, data.cid = cid := by
  simp [Gui.hasCid]

/-! ### `add_card_to_table` -/

/-- `add_card_to_table`, past its duplicate branch. A raising insertion leaves
    the label behind. -/
def add_new_card (g : Gui) (card_info : CardInfo) (insertOk : Bool) : Gui :=
  let g := g.append card_info insertOk
  -- the label is set behind the insertion
  if insertOk then { g with data_count := g.card_data_list.length } else g

/-- `add_card_to_table`; `none` is its duplicate branch, which only warns. -/
def add_card_to_table (g : Gui) (card_info : CardInfo) (insertOk : Bool) : Option Gui :=
  if g.hasCid card_info.cid then none else some (add_new_card g card_info insertOk)

@[simp] theorem add_new_card_list (g : Gui) (card_info : CardInfo) (insertOk : Bool) :
    (add_new_card g card_info insertOk).card_data_list = g.card_data_list ++ [card_info] := by
  unfold add_new_card
  split <;> rfl

@[simp] theorem add_new_card_tree (g : Gui) (card_info : CardInfo) :
    (add_new_card g card_info true).tree
      = g.tree ++ [tableRow (g.card_data_list.length + 1) card_info] := by
  simp [add_new_card]

@[simp] theorem add_new_card_current_cid (g : Gui) (card_info : CardInfo) (insertOk : Bool) :
    (add_new_card g card_info insertOk).current_cid = g.current_cid := by
  unfold add_new_card
  split <;> rfl

/-! ### `view_details` -/

/-- The record `view_details` opens for the selected table row; `none` where it
    raises. Python counts negative indices from the end. -/
def view_details (g : Gui) (selected : TableRow) : Option CardInfo :=
  if selected.index = 0 then g.card_data_list.getLast? else g.card_data_list[selected.index - 1]?

/-! ### The columns of the CSV files -/

/-- The columns of an exported file. -/
inductive Column where
  | index | project | school | cid
  | th_title | th_firstname | th_lastname
  | en_title | en_firstname | en_lastname
  | birth_date | gender | issuer | issue_date | expire_date
  | house_no | moo_soi | subdistrict | district | province
  | timestamp
  deriving DecidableEq

/-- The header of a column. -/
def Column.name : Column → Str
  | .index => "ลำดับ".toList
  | .project => "โครงการ".toList
  | .school => "โรงเรียน".toList
  | .cid => "เลขบัตรประชาชน".toList
  | .th_title => "คำนำหน้า (ไทย)".toList
  | .th_firstname => "ชื่อ (ไทย)".toList
  | .th_lastname => "นามสกุล (ไทย)".toList
  | .en_title => "คำนำหน้า (อังกฤษ)".toList
  | .en_firstname => "ชื่อ (อังกฤษ)".toList
  | .en_lastname => "นามสกุล (อังกฤษ)".toList
  | .birth_date => "วันเกิด".toList
  | .gender => "เพศ".toList
  | .issuer => "หน่วยงานออกบัตร".toList
  | .issue_date => "วันออกบัตร".toList
  | .expire_date => "วันหมดอายุ".toList
  | .house_no => "บ้านเลขที่".toList
  | .moo_soi => "หมู่/ซอย".toList
  | .subdistrict => "ตำบล/แขวง".toList
  | .district => "อำเภอ/เขต".toList
  | .province => "จังหวัด".toList
  | .timestamp => "วันที่อ่าน".toList

/-- `fieldnames` of the writer. -/
def fieldnames : List Column :=
  [.index, .project, .school, .cid,
    .th_title, .th_firstname, .th_lastname,
    .en_title, .en_firstname, .en_lastname,
    .birth_date, .gender, .issuer,
    .issue_date, .expire_date,
    .house_no, .moo_soi, .subdistrict, .district, .province,
    .timestamp]

/-- `required_fields` of the import. -/
def required_fields : List Column := [.cid, .th_firstname, .th_lastname]

theorem mem_fieldnames (c : Column) : c ∈ fieldnames := by cases c <;> decide

theorem Column.name_injective : Function.Injective Column.name := by
  intro a b h
  have hall : ∀ a ∈ fieldnames, ∀ b ∈ fieldnames, a.name = b.name → a = b := by decide +kernel
  exact hall a (mem_fieldnames a) b (mem_fieldnames b) h

theorem Column.length_name_le (c : Column) : c.name.length ≤ 19 := by
  have hall : ∀ c ∈ fieldnames, c.name.length ≤ 19 := by decide +kernel
  exact hall c (mem_fieldnames c)

theorem Column.cr_not_mem_name (c : Column) : '\r' ∉ c.name := by
  have hall : ∀ c ∈ fieldnames, '\r' ∉ c.name := by decide +kernel
  exact hall c (mem_fieldnames c)

/-! ### `export_to_csv` -/

/-- The dictionary one record is written from. -/
def exportRow (g : Gui) (index : Nat) (data : CardInfo) : Column → PyVal
  | .index => some (decimal index)
  | .project => some g.project_name
  | .school => some g.school_name
  | .cid => some data.cid
  | .th_title => data.th_title
  | .th_firstname => data.th_firstname
  | .th_lastname => data.th_lastname
  | .en_title => data.en_title
  | .en_firstname => data.en_firstname
  | .en_lastname => data.en_lastname
  | .birth_date => data.birth_date
  | .gender => data.gender
  | .issuer => data.issuer
  | .issue_date => data.issue_date
  | .expire_date => data.expire_date
  | .house_no => data.address_house_no
  | .moo_soi => data.address_moo_soi
  | .subdistrict => data.address_subdistrict
  | .district => data.address_district
  | .province => data.address_province
  | .timestamp => data.timestamp

/-- The dictionaries handed to `writerow`, numbered from 1. -/
def exportRows (g : Gui) : List (Column → PyVal) :=
  (g.card_data_list.zipIdx 1).map fun (data, index) => exportRow g index data

/-- A cell as the writer writes it: `None` is an empty cell. -/
def cell (v : PyVal) : Csv.Field := v.getD []

/-- The file `export_to_csv` writes of a list that is not empty, as the decoded
    text with its mark. -/
def export_to_csv (g : Gui) : List Char :=
  Csv.encodeSig (Csv.excel.writeRows
    (Csv.dictRows fieldnames Column.name ((exportRows g).map fun row c => cell (row c))))

/-- The file of a window; `none` where `export_to_csv` warns that there is nothing
    to write. -/
def exportedFile (g : Gui) : Option (List Char) :=
  if g.card_data_list = [] then none else some (export_to_csv g)

theorem exportedFile_eq_some_iff {g : Gui} {file : List Char} :
    exportedFile g = some file ↔ g.card_data_list ≠ [] ∧ file = export_to_csv g := by
  unfold exportedFile
  split <;> simp [*, eq_comm]

/-! ### `import_from_csv` -/

/-- `csv.field_size_limit()`: the reader raises at a field with more characters. -/
def field_size_limit : Nat := 131072

/-- The chosen file as `DictReader` reads it. -/
def openFile (file : List Char) : Csv.Input := Csv.excel.openTextWithin field_size_limit file

/-- A row as `DictReader` delivers it, with the names of its columns. -/
structure DictRow where
  names : Csv.Row
  cells : Csv.Row
  deriving DecidableEq

/-- `row.get(column)`: `none` without such a column. -/
def DictRow.get? (row : DictRow) (c : Column) : Option PyVal :=
  Csv.lookup row.names row.cells c.name

/-- `row.get(column, default)`. -/
def DictRow.get (row : DictRow) (c : Column) (default : PyVal) : PyVal :=
  (row.get? c).getD default

/-- The cell as `if row.get(column):` sees it: `none` unless a non-empty text. -/
def DictRow.truthy (row : DictRow) (c : Column) : Option Str :=
  (row.get c none).filter fun text => !text.isEmpty

/-- Project and school names out of the first row. -/
def setNames (g : Gui) (row : DictRow) : Gui :=
  { g with
    project_name := (row.truthy .project).getD g.project_name
    school_name := (row.truthy .school).getD g.school_name }

@[simp] theorem setNames_list (g : Gui) (row : DictRow) :
    (setNames g row).card_data_list = g.card_data_list := rfl

@[simp] theorem setNames_tree (g : Gui) (row : DictRow) : (setNames g row).tree = g.tree := rfl

@[simp] theorem setNames_current_cid (g : Gui) (row : DictRow) :
    (setNames g row).current_cid = g.current_cid := rfl

@[simp] theorem setNames_hasCid (g : Gui) (row : DictRow) (cid : Str) :
    (setNames g row).hasCid cid = g.hasCid cid := rfl

/-- The record of a row whose cid is `cid`. -/
def rowCardInfo (row : DictRow) (cid now : Str) : CardInfo :=
  let th_title := row.get .th_title (some [])
  let th_firstname := row.get .th_firstname (some [])
  let th_lastname := row.get .th_lastname (some [])
  let en_title := row.get .en_title (some [])
  let en_firstname := row.get .en_firstname (some [])
  let en_lastname := row.get .en_lastname (some [])
  let address_house_no := row.get .house_no (some [])
  let address_moo_soi := row.get .moo_soi (some [])
  let address_subdistrict := row.get .subdistrict (some [])
  let address_district := row.get .district (some [])
  let address_province := row.get .province (some [])
  { cid
    timestamp := row.get .timestamp (some now)
    th_title, th_firstname, th_lastname
    th_fullname := joinParts [th_title, th_firstname, th_lastname]
    en_title, en_firstname, en_lastname
    en_fullname := joinParts [en_title, en_firstname, en_lastname]
    birth_date := row.get .birth_date (some [])
    gender := row.get .gender (some [])
    issuer := row.get .issuer (some [])
    issue_date := row.get .issue_date (some [])
    expire_date := row.get .expire_date (some [])
    address_house_no, address_moo_soi, address_subdistrict, address_district, address_province
    address := joinParts
      [address_house_no, address_moo_soi, address_subdistrict, address_district,
        address_province] }

/-- The local variables of the import loop. -/
structure ImportCounts where
  imported_count : Nat
  duplicate_count : Nat
  error_count : Nat
  deriving DecidableEq

structure ImportLoop where
  gui : Gui
  counts : ImportCounts
  first_row : Bool
  deriving DecidableEq

/-- The loop before its first row. -/
def ImportLoop.start (g : Gui) : ImportLoop := ⟨g, ⟨0, 0, 0⟩, true⟩

/-- What the host decides during one row: the clock, and `tree.insert`. -/
structure RowEnv where
  now : Str
  insertOk : Bool

/-- The trimmed cid of a row; `none` where the row has no usable one, because
    the cell is missing (`None.strip()` raises, and the row is counted as an
    error) or blank. -/
def rowCid (row : DictRow) : Option Str :=
  match row.get .cid (some []) with
  | none => none
  | some text => if strip text = [] then none else some (strip text)

/-- The window once a row has set the names: only the first row does. -/
def ImportLoop.named (loop : ImportLoop) (row : DictRow) : Gui :=
  if loop.first_row then setNames loop.gui row else loop.gui

@[simp] theorem ImportLoop.named_list (loop : ImportLoop) (row : DictRow) :
    (loop.named row).card_data_list = loop.gui.card_data_list := by
  unfold ImportLoop.named
  split <;> rfl

@[simp] theorem ImportLoop.named_tree (loop : ImportLoop) (row : DictRow) :
    (loop.named row).tree = loop.gui.tree := by
  unfold ImportLoop.named
  split <;> rfl

@[simp] theorem ImportLoop.named_current_cid (loop : ImportLoop) (row : DictRow) :
    (loop.named row).current_cid = loop.gui.current_cid := by
  unfold ImportLoop.named
  split <;> rfl

@[simp] theorem ImportLoop.named_hasCid (loop : ImportLoop) (row : DictRow) (cid : Str) :
    (loop.named row).hasCid cid = loop.gui.hasCid cid := by
  unfold ImportLoop.named
  split <;> rfl

/-- One row of the import loop. -/
def importRow (loop : ImportLoop) (row : DictRow) (env : RowEnv) : ImportLoop :=
  let g := loop.named row
  let counts := loop.counts
  match rowCid row with
  -- the names of the first row are set before its cid is looked at
  | none => ⟨g, { counts with error_count := counts.error_count + 1 }, false⟩
  | some cid =>
    if g.hasCid cid then
      ⟨g, { counts with duplicate_count := counts.duplicate_count + 1 }, false⟩
    else
      -- a raising insertion is counted as an error, with the record in the list
      let g := g.append (rowCardInfo row cid env.now) env.insertOk
      if env.insertOk then
        ⟨g, { counts with imported_count := counts.imported_count + 1 }, false⟩
      else ⟨g, { counts with error_count := counts.error_count + 1 }, false⟩

/-- **What one row does to the window**: it is skipped, or its record goes to
    the end of the list under a cid that was not there. -/
theorem importRow_gui (loop : ImportLoop) (row : DictRow) (env : RowEnv) :
    ((importRow loop row env).gui = loop.named row ∧
      ∀ cid, rowCid row = some cid → loop.gui.hasCid cid = true) ∨
    ∃ cid, rowCid row = some cid ∧ loop.gui.hasCid cid = false ∧
      (importRow loop row env).gui
        = (loop.named row).append (rowCardInfo row cid env.now) env.insertOk := by
  cases hcid : rowCid row with
  | none => exact .inl ⟨by simp [importRow, hcid], by simp⟩
  | some cid =>
    cases hhas : loop.gui.hasCid cid with
    | true => exact .inl ⟨by simp [importRow, hcid, hhas], by simpa using hhas⟩
    | false =>
      refine .inr ⟨cid, rfl, hhas, ?_⟩
      simp only [importRow, hcid, ImportLoop.named_hasCid, hhas, Bool.false_eq_true, if_false]
      split <;> rfl

/-- A usable cid is trimmed and not empty. -/
theorem rowCid_good {row : DictRow} {cid : Str} (h : rowCid row = some cid) :
    cid ≠ [] ∧ strip cid = cid := by
  unfold rowCid at h
  split at h
  · cases h
  · split at h
    · cases h
    · next hne =>
      simp only [Option.some.injEq] at h
      subst h
      exact ⟨hne, strip_strip _⟩

/-- The import loop over all rows, with what the host decides at each. -/
def importRows (names : Csv.Row) : ImportLoop → List Csv.Row → (Nat → RowEnv) → ImportLoop
  | loop, [], _ => loop
  | loop, cells :: rows, env =>
    importRows names (importRow loop ⟨names, cells⟩ (env 0)) rows fun n => env (n + 1)

/-- How an import ends: its summary, or one of the two error dialogs. -/
inductive ImportEnd where
  | summary (counts : ImportCounts)
  | refused
  | failed
  deriving DecidableEq

/-- Do the columns of the file include the required ones? -/
def headerAccepted (names : Csv.Row) : Bool := required_fields.all fun c => names.contains c.name

/-- What remains after the loop: the label, unless the reader raised. -/
def finishImport (loop : ImportLoop) : Csv.Ending → Gui × ImportEnd
  | .eof => ({ loop.gui with data_count := loop.gui.card_data_list.length }, .summary loop.counts)
  | .raised => (loop.gui, .failed)

@[simp] theorem finishImport_list (loop : ImportLoop) (ending : Csv.Ending) :
    (finishImport loop ending).1.card_data_list = loop.gui.card_data_list := by
  cases ending <;> rfl

@[simp] theorem finishImport_tree (loop : ImportLoop) (ending : Csv.Ending) :
    (finishImport loop ending).1.tree = loop.gui.tree := by
  cases ending <;> rfl

@[simp] theorem finishImport_current_cid (loop : ImportLoop) (ending : Csv.Ending) :
    (finishImport loop ending).1.current_cid = loop.gui.current_cid := by
  cases ending <;> rfl

/-- `import_from_csv` of a chosen file, from its `try` on. A file without a
    header row has `fieldnames` `None`, and testing it raises. -/
def import_from_csv (g : Gui) (file : Csv.Input) (env : Nat → RowEnv) : Gui × ImportEnd :=
  match file with
  | .raised => (g, .failed)
  | .noHeader => (g, .failed)
  | .table names rows ending =>
    if headerAccepted names then finishImport (importRows names (.start g) rows env) ending
    else (g, .refused)

end GuiReader

end IdScan
