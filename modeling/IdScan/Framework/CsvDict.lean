import IdScan.Framework.Csv

/-! # Rows addressed by column name

  A header row names the columns, and a cell is looked up by the name of its
  column. As in a dictionary filled from left to right, the last column of a
  name wins. A row that is too short has `none` in its missing cells, and the
  extra cells of a row that is too long are not reachable by name.
-/

namespace Csv

universe u

/-! ### Looking a cell up -/

/-- The cell under `key`: `none` without such a column, `some none` where the
    row has no cell for it. -/
def lookup : Row → Row → Field → Option (Option Field)
  | [], _, _ => none
  | name :: names, cells, key =>
    match lookup names cells.tail key with
    | some cell => some cell
    | none => if name = key then some cells.head? else none

theorem lookup_eq_none {names cells : Row} {key : Field} (h : key ∉ names) :
    lookup names cells key = none := by
  induction names generalizing cells with
  | nil => rfl
  | cons name names ih =>
    simp only [List.mem_cons, not_or] at h
    simp [lookup, ih h.2, Ne.symm h.1]

/-- The position of the last column of a name. -/
def IsLast (names : Row) (key : Field) (i : Nat) : Prop :=
  names[i]? = some key ∧ ∀ j : Nat, i < j → names[j]? ≠ some key

theorem isLast_cons_succ {name : Field} {names : Row} {key : Field} {i : Nat} :
    IsLast (name :: names) key (i + 1) ↔ IsLast names key i := by
  unfold IsLast
  rw [List.getElem?_cons_succ]
  apply and_congr_right
  intro _
  constructor
  · intro h j hj
    simpa using h (j + 1) (by omega)
  · intro h j hj
    cases j with
    | zero => omega
    | succ j => simpa using h j (by omega)

theorem isLast_cons_zero {name : Field} {names : Row} {key : Field} :
    IsLast (name :: names) key 0 ↔ name = key ∧ key ∉ names := by
  unfold IsLast
  rw [List.getElem?_cons_zero, Option.some.injEq]
  apply and_congr_right
  intro _
  constructor
  · intro h hmem
    obtain ⟨j, hj⟩ := List.getElem?_of_mem hmem
    exact h (j + 1) (by omega) (by simpa using hj)
  · intro h j hj hfound
    cases j with
    | zero => omega
    | succ j => exact h (List.mem_of_getElem? (by simpa using hfound))

/-- A name that occurs has a last column. -/
theorem exists_isLast {names : Row} {key : Field} (h : key ∈ names) : ∃ i, IsLast names key i := by
  induction names with
  | nil => simp at h
  | cons name names ih =>
    by_cases hmem : key ∈ names
    · obtain ⟨i, hi⟩ := ih hmem
      exact ⟨i + 1, isLast_cons_succ.mpr hi⟩
    · have hname : name = key := by simpa [hmem, eq_comm] using h
      exact ⟨0, isLast_cons_zero.mpr ⟨hname, hmem⟩⟩

theorem lookup_of_isLast {names cells : Row} {key : Field} {i : Nat} (h : IsLast names key i) :
    lookup names cells key = some cells[i]? := by
  induction names generalizing cells i with
  | nil => simp [IsLast] at h
  | cons name names ih =>
    rw [lookup]
    cases i with
    | zero =>
      obtain ⟨hname, hmem⟩ := isLast_cons_zero.mp h
      rw [lookup_eq_none hmem, if_pos hname, List.head?_eq_getElem?]
    | succ i =>
      rw [ih (isLast_cons_succ.mp h)]
      simp

/-- **The last column of a name is looked up**, and `none` is found there where
    it lies behind the end of the row. -/
theorem lookup_eq_some_iff {names cells : Row} {key : Field} {cell : Option Field} :
    lookup names cells key = some cell ↔ ∃ i, IsLast names key i ∧ cell = cells[i]? := by
  constructor
  · intro h
    have hmem : key ∈ names := by
      by_contra hnot
      rw [lookup_eq_none hnot] at h
      cases h
    obtain ⟨i, hi⟩ := exists_isLast hmem
    rw [lookup_of_isLast hi, Option.some.injEq] at h
    exact ⟨i, hi, h.symm⟩
  · intro h
    obtain ⟨i, hi, rfl⟩ := h
    exact lookup_of_isLast hi

/-- With distinct column names a full row gives back its own cells. -/
theorem lookup_map {κ : Type u} [DecidableEq κ] {name : κ → Field}
    (hname : Function.Injective name) (cell : κ → Field) {columns : List κ} {c : κ}
    (hc : c ∈ columns) :
    lookup (columns.map name) (columns.map cell) (name c) = some (some (cell c)) := by
  induction columns with
  | nil => simp at hc
  | cons a as ih =>
    simp only [List.map_cons, lookup, List.tail_cons, List.head?_cons]
    by_cases has : c ∈ as
    · rw [ih has]
    · have hca : c = a := by simpa [has] using hc
      have hnot : name c ∉ as.map name := by
        simpa [hname.eq_iff] using has
      rw [lookup_eq_none hnot, if_pos (by rw [hca])]
      simp [hca]

/-! ### Files -/

/-- What a reader of named rows is given: nothing at all, because opening or
    the header raised; a file without any row; or a header, the rows behind it
    that are not empty, and the way they end. -/
inductive Input where
  | raised
  | noHeader
  | table (fieldnames : Row) (rows : List Row) (ending : Ending)

/-- The first record is the header and blank records are skipped. -/
def openDict : List Row × Ending → Input
  | ([], .eof) => .noHeader
  | ([], .raised) => .raised
  | (header :: rows, ending) => .table header (rows.filter fun row => !row.isEmpty) ending

/-- The records of named rows: the header and one record a row. -/
def dictRows {κ : Type u} (columns : List κ) (name : κ → Field) (rows : List (κ → Field)) :
    List Row :=
  columns.map name :: rows.map fun row => columns.map row

/-- The mark a text file of this encoding starts with. -/
def byteOrderMark : Char := Char.ofNat 0xFEFF

def encodeSig (s : List Char) : List Char := byteOrderMark :: s

def decodeSig : List Char → List Char
  | [] => []
  | c :: cs => if c = byteOrderMark then cs else c :: cs

@[simp] theorem decodeSig_encodeSig (s : List Char) : decodeSig (encodeSig s) = s := by
  simp [decodeSig, encodeSig]

/-- A text file opened without a `newline` argument, read as named rows, however
    long their cells are. -/
def Dialect.openText (d : Dialect) (file : List Char) : Input :=
  openDict (d.read (universalNewlines (decodeSig file)))

/-- The same by a reader that refuses longer fields. -/
def Dialect.openTextWithin (d : Dialect) (limit : Nat) (file : List Char) : Input :=
  let records := d.read (universalNewlines (decodeSig file))
  openDict (limitFields limit records.1 records.2)

/-- The records of named rows are read back with the line ends translated. -/
theorem Dialect.read_dictRows {κ : Type u} (d : Dialect) {columns : List κ}
    (hcolumns : columns ≠ []) {name : κ → Field} (hname : ∀ c, '\r' ∉ name c)
    (rows : List (κ → Field)) :
    d.read (universalNewlines (d.writeRows (dictRows columns name rows)))
      = (dictRows columns name (rows.map fun row c => universalNewlines (row c)), .eof) := by
  have hrows : ∀ row ∈ dictRows columns name rows, row ≠ [] := by
    intro row hrow
    simp only [dictRows, List.mem_cons, List.mem_map] at hrow
    rcases hrow with rfl | ⟨r, _, rfl⟩ <;> simpa using hcolumns
  have hheader : columns.map (universalNewlines ∘ name) = columns.map name := by
    simp [universalNewlines_of_not_mem, hname]
  have hcells : (List.map universalNewlines ∘ fun row : κ → Field => columns.map row)
      = fun row : κ → Field => columns.map fun c => universalNewlines (row c) := by
    funext row
    simp
  rw [read_writeRows d hrows, dictRows, List.map_cons, List.map_map, List.map_map, hheader, hcells,
    dictRows, List.map_map]
  rfl

theorem openDict_dictRows {κ : Type u} {columns : List κ} (hcolumns : columns ≠ [])
    (name : κ → Field) (rows : List (κ → Field)) (ending : Ending) :
    openDict (dictRows columns name rows, ending)
      = .table (columns.map name) (rows.map fun row => columns.map row) ending := by
  have hkept : ∀ row ∈ rows.map fun row => columns.map row, (!row.isEmpty) = true := by
    intro row hrow
    obtain ⟨r, _, rfl⟩ := List.mem_map.mp hrow
    simpa using hcolumns
  rw [dictRows, openDict, List.filter_eq_self.mpr hkept]

/-- **Round trip** of named rows through a text file. -/
theorem Dialect.openText_dictRows {κ : Type u} (d : Dialect) {columns : List κ}
    (hcolumns : columns ≠ []) {name : κ → Field} (hname : ∀ c, '\r' ∉ name c)
    (rows : List (κ → Field)) :
    d.openText (encodeSig (d.writeRows (dictRows columns name rows)))
      = .table (columns.map name)
          (rows.map fun row => columns.map fun c => universalNewlines (row c)) .eof := by
  rw [openText, decodeSig_encodeSig, read_dictRows d hcolumns hname, openDict_dictRows hcolumns,
    List.map_map]
  rfl

/-- A reader with a limit that no name exceeds delivers the rows in front of the
    first with a cell that, as it is read, does. -/
theorem Dialect.openTextWithin_dictRows {κ : Type u} (d : Dialect) (limit : Nat)
    {columns : List κ} (hcolumns : columns ≠ []) {name : κ → Field}
    (hname : ∀ c, '\r' ∉ name c) (hnames : ∀ c, (name c).length ≤ limit)
    (rows : List (κ → Field)) :
    let delivered := rows.map fun row => columns.map fun c => universalNewlines (row c)
    d.openTextWithin limit (encodeSig (d.writeRows (dictRows columns name rows)))
      = .table (columns.map name) (delivered.takeWhile (rowFits limit))
          (if delivered.all (rowFits limit) then .eof else .raised) := by
  intro delivered
  have hheader : rowFits limit (columns.map name) = true := by
    simpa [rowFits] using fun c _ => hnames c
  have hrecords : dictRows columns name (rows.map fun row c => universalNewlines (row c))
      = columns.map name :: delivered := by
    simp [dictRows, delivered, Function.comp_def]
  have hkept : ∀ row ∈ delivered.takeWhile (rowFits limit), (!row.isEmpty) = true := by
    intro row hrow
    obtain ⟨r, _, rfl⟩ := List.mem_map.mp ((List.takeWhile_prefix _).subset hrow)
    simpa using hcolumns
  rw [openTextWithin, decodeSig_encodeSig, read_dictRows d hcolumns hname, hrecords]
  dsimp only
  rw [limitFields, List.takeWhile_cons_of_pos hheader, openDict, List.filter_eq_self.mpr hkept,
    List.all_cons, hheader, Bool.true_and]

end Csv
