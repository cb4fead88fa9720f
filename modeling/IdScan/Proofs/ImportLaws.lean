import IdScan.Framework.Merging
import IdScan.Proofs.ImportMerge

/-! # One import after another

  To the list a series of imports is one merge of all that the files offer,
  whichever of them are refused or fail on the way. Which people are in the list
  behind it does not depend on the order of the files; whose record is kept
  does, since the first one stays.

  A file that was imported to its end and is imported again finds all its people
  there. The window is then left exactly as it was, down to its table and names.
-/

namespace IdScan

namespace GuiReader

open LTS
open Registry (merge under)

/-! ### Several files -/

/-- A file, and what the host decides while it is imported. -/
abbrev ImportJob := Csv.Input × (Nat → RowEnv)

/-- The records a file offers: none unless its header is accepted. -/
def fileRecords (job : ImportJob) : List (Option CardInfo) :=
  match job.1 with
  | .table names rows _ => if headerAccepted names then rowRecords names rows job.2 else []
  | _ => []

/-- The cids of these records. -/
def fileCids (file : Csv.Input) : List (Option Str) :=
  match file with
  | .table names rows _ => if headerAccepted names then rowCids names rows else []
  | _ => []

theorem fileRecords_cids (job : ImportJob) :
    (fileRecords job).map (Option.map CardInfo.cid) = fileCids job.1 := by
  obtain ⟨file, env⟩ := job
  cases file with
  | raised => rfl
  | noHeader => rfl
  | table names rows ending =>
    unfold fileRecords fileCids
    dsimp only
    by_cases hheader : headerAccepted names = true
    · rw [if_pos hheader, if_pos hheader, rowRecords_cids]
    · rw [if_neg hheader, if_neg hheader, List.map_nil]

/-- One import after the other. -/
def importFiles (g : Gui) (jobs : List ImportJob) : Gui :=
  jobs.foldl (fun g job => (import_from_csv g job.1 job.2).1) g

/-- What one import makes of the list, however it ends. -/
theorem import_merges_list (g : Gui) (job : ImportJob) :
    (import_from_csv g job.1 job.2).1.card_data_list
      = merge CardInfo.cid g.card_data_list (fileRecords job) := by
  obtain ⟨file, env⟩ := job
  cases file with
  | raised => rfl
  | noHeader => rfl
  | table names rows ending =>
    unfold fileRecords
    dsimp only
    by_cases hheader : headerAccepted names = true
    · rw [import_list g names rows ending env hheader, if_pos hheader]
    · rw [import_from_csv, if_neg hheader, if_neg hheader]
      rfl

/-- **A series of imports is one merge.** -/
theorem importFiles_list (g : Gui) (jobs : List ImportJob) :
    (importFiles g jobs).card_data_list
      = merge CardInfo.cid g.card_data_list (jobs.flatMap fileRecords) := by
  induction jobs generalizing g with
  | nil => rfl
  | cons job jobs ih =>
    have htail : (importFiles g (job :: jobs)).card_data_list
        = (importFiles (import_from_csv g job.1 job.2).1 jobs).card_data_list := rfl
    rw [htail, ih, import_merges_list, List.flatMap_cons, Registry.merge_append]

/-- The cids the files offer, whatever the host decides. -/
theorem mem_cids_iff (jobs : List ImportJob) (cid : Str) :
    cid ∈ (jobs.flatMap fileRecords).reduceOption.map CardInfo.cid ↔
      ∃ file ∈ jobs.map Prod.fst, some cid ∈ fileCids file := by
  rw [← List.reduceOption_map, List.reduceOption_mem_iff, List.map_flatMap, List.mem_flatMap]
  constructor
  · intro h
    obtain ⟨job, hjob, hcid⟩ := h
    rw [fileRecords_cids] at hcid
    exact ⟨job.1, List.mem_map_of_mem hjob, hcid⟩
  · intro h
    obtain ⟨file, hfile, hcid⟩ := h
    obtain ⟨job, hjob, rfl⟩ := List.mem_map.mp hfile
    refine ⟨job, hjob, ?_⟩
    rw [fileRecords_cids]
    exact hcid

/-- **The order of the files does not matter to who is in the list**, and under
    every cid there is the record that was there before, or else the first that
    was offered. -/
theorem imports_in_any_order (s : Sys) (h : Reachable program s) (jobs jobs' : List ImportJob)
    (hperm : (jobs.map Prod.fst).Perm (jobs'.map Prod.fst)) :
    (importFiles s.gui jobs).cids.Perm (importFiles s.gui jobs').cids ∧
      ∀ cid, under CardInfo.cid (importFiles s.gui jobs).card_data_list cid
        = (under CardInfo.cid s.gui.card_data_list cid).or
            (under CardInfo.cid (jobs.flatMap fileRecords).reduceOption cid) := by
  constructor
  · unfold Gui.cids
    rw [importFiles_list, importFiles_list]
    apply Registry.perm_keys_merge (list_wellFormed h).nodup
    intro cid
    rw [mem_cids_iff, mem_cids_iff]
    constructor
    · intro hcid
      obtain ⟨file, hfile, hmem⟩ := hcid
      exact ⟨file, hperm.mem_iff.mp hfile, hmem⟩
    · intro hcid
      obtain ⟨file, hfile, hmem⟩ := hcid
      exact ⟨file, hperm.mem_iff.mpr hfile, hmem⟩
  · intro cid
    rw [importFiles_list, Registry.find_merge]

/-- Two files with a person in common, in both orders. -/
theorem imports_in_any_order_twoFiles :
    (importFiles .start [(threeRows, fun _ => ⟨[], true⟩),
        (.table mixedNames mixedRows .eof, fun _ => ⟨[], false⟩)]).cids.Perm
      (importFiles .start [(.table mixedNames mixedRows .eof, fun _ => ⟨[], true⟩),
        (threeRows, fun _ => ⟨[], true⟩)]).cids :=
  (imports_in_any_order .start (.init rfl)
    [(threeRows, fun _ => ⟨[], true⟩), (.table mixedNames mixedRows .eof, fun _ => ⟨[], false⟩)]
    [(.table mixedNames mixedRows .eof, fun _ => ⟨[], true⟩), (threeRows, fun _ => ⟨[], true⟩)]
    (List.Perm.swap _ _ [])).1

/-! ### The same file again -/

/-- Rows whose cids are all there are counted as duplicates, and those without
    one as errors. -/
theorem importRows_known_counts (names : Csv.Row) (loop : ImportLoop) (rows : List Csv.Row)
    (env : Nat → RowEnv) (hknown : ∀ cells ∈ rows, ∀ cid, rowCid ⟨names, cells⟩ = some cid →
      loop.gui.hasCid cid = true) :
    (importRows names loop rows env).counts = { loop.counts with
      duplicate_count := loop.counts.duplicate_count + (rowCids names rows).countP Option.isSome
      error_count := loop.counts.error_count + (rowCids names rows).countP Option.isNone } := by
  induction rows generalizing loop env with
  | nil => rfl
  | cons cells rows ih =>
    have hfirst := hknown cells List.mem_cons_self
    have hrest : ∀ cells' ∈ rows, ∀ cid, rowCid ⟨names, cells'⟩ = some cid →
        (importRow loop ⟨names, cells⟩ (env 0)).gui.hasCid cid = true := by
      intro cells' hcells' cid hcid
      rw [importRow_skipped hfirst, ImportLoop.named_hasCid]
      exact hknown cells' (List.mem_cons_of_mem _ hcells') cid hcid
    have hcons : rowCids names (cells :: rows) = rowCid ⟨names, cells⟩ :: rowCids names rows := rfl
    rw [importRows, ih _ _ hrest, hcons]
    cases hcid : rowCid ⟨names, cells⟩ with
    | none =>
      simp [importRow, hcid]
      omega
    | some cid =>
      rw [importRow_duplicate hcid (hfirst cid hcid)]
      simp
      omega

/-- Behind an import every usable cid of the file is there. -/
theorem hasCid_behind (g : Gui) (names : Csv.Row) (rows : List Csv.Row) (env : Nat → RowEnv)
    {cells : Csv.Row} (hcells : cells ∈ rows) {cid : Str}
    (hcid : rowCid ⟨names, cells⟩ = some cid) :
    (importRows names (.start g) rows env).gui.hasCid cid = true := by
  rw [hasCid_iff_holds, Registry.holds_iff_mem, importRows_list, Registry.mem_keys_merge]
  right
  rw [← List.reduceOption_map, rowRecords_cids, List.reduceOption_mem_iff]
  exact List.mem_map.mpr ⟨cells, hcells, hcid⟩

/-- The names of the first row are those of the window behind the import. -/
theorem keepsNames_behind (g : Gui) (names : Csv.Row) (rows : List Csv.Row) (env : Nat → RowEnv)
    {cells : Csv.Row} (hcells : rows.head? = some cells) :
    KeepsNames (importRows names (.start g) rows env).gui ⟨names, cells⟩ := by
  cases rows with
  | nil => cases hcells
  | cons first rows =>
    obtain rfl : first = cells := Option.some.inj hcells
    obtain ⟨hproject, hschool⟩ := importRows_start_names names g first rows env
    unfold KeepsNames
    rw [hproject, hschool]
    constructor
    · intro text htext
      show text = (DictRow.truthy ⟨names, first⟩ .project).getD g.project_name
      rw [htext, Option.getD_some]
    · intro text htext
      show text = (DictRow.truthy ⟨names, first⟩ .school).getD g.school_name
      rw [htext, Option.getD_some]

/-- Rows that have nothing for the window leave it as it is. -/
theorem importRows_known (names : Csv.Row) (g : Gui) (rows : List Csv.Row) (env : Nat → RowEnv)
    (hknown : ∀ cells ∈ rows, ∀ cid, rowCid ⟨names, cells⟩ = some cid → g.hasCid cid = true)
    (hkeep : ∀ cells, rows.head? = some cells → KeepsNames g ⟨names, cells⟩) :
    (importRows names (.start g) rows env).gui = g := by
  cases rows with
  | nil => rfl
  | cons first rows =>
    have hfirst : (importRow (.start g) ⟨names, first⟩ (env 0)).gui = g := by
      rw [importRow_skipped (hknown first List.mem_cons_self), ImportLoop.named_of_first rfl]
      exact setNames_of_keepsNames (hkeep first rfl)
    rw [importRows, importRows_skipped (importRow_first_row _ _ _), hfirst]
    rw [hfirst]
    intro cells hcells
    exact hknown cells (List.mem_cons_of_mem _ hcells)

/-- **Importing a file again changes nothing**, whatever `tree.insert` did: the
    window is the same in every attribute, each row with a cid is reported as a
    duplicate and each without one as an error. -/
theorem import_again_changes_nothing (g : Gui) (names : Csv.Row) (rows : List Csv.Row)
    (env env' : Nat → RowEnv) (hheader : headerAccepted names = true) :
    let g' := (import_from_csv g (.table names rows .eof) env).1
    import_from_csv g' (.table names rows .eof) env'
      = (g', .summary ⟨0, (rowCids names rows).countP Option.isSome,
          (rowCids names rows).countP Option.isNone⟩) := by
  have himport : ∀ g env, import_from_csv g (.table names rows .eof) env
      = finishImport (importRows names (.start g) rows env) .eof := by
    intro g env
    rw [import_from_csv, if_pos hheader]
  rw [himport g env]
  intro g'
  -- behind the first import only the label differs from the window of the loop
  have hknown : ∀ cells ∈ rows, ∀ cid, rowCid ⟨names, cells⟩ = some cid →
      g'.hasCid cid = true := by
    intro cells hcells cid hcid
    exact hasCid_behind g names rows env hcells hcid
  have hkeep : ∀ cells, rows.head? = some cells → KeepsNames g' ⟨names, cells⟩ := by
    intro cells hcells
    exact keepsNames_behind g names rows env hcells
  have hgui := importRows_known names g' rows env' hknown hkeep
  have hcounts := importRows_known_counts names (.start g') rows env' hknown
  rw [himport g' env', finishImport, hgui, hcounts]
  simp only [ImportLoop.start, Nat.zero_add]
  rfl

/-- Rows of every kind, imported twice. -/
theorem import_again_changes_nothing_mixedRows :
    (import_from_csv (import_from_csv .start (.table mixedNames mixedRows .eof)
        fun _ => ⟨[], false⟩).1 (.table mixedNames mixedRows .eof) fun _ => ⟨[], true⟩).2
      = .summary ⟨0, 4, 2⟩ := by
  rw [import_again_changes_nothing .start mixedNames mixedRows (fun _ => ⟨[], false⟩)
    (fun _ => ⟨[], true⟩) (by decide +kernel)]
  decide +kernel

end GuiReader

end IdScan
