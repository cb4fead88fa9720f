import IdScan.Model.System

/-! # Handlers that nothing interrupts

  The program takes a round of the monitor, an import and a clearing statement
  by statement. Where nothing comes between, the statements together do what
  the functions on the window say: `monitor_card_round` and `import_from_csv`.
-/

namespace IdScan

namespace GuiReader

theorem runActs_cons (s : Sys) (a : Act) (acts : List Act) :
    runActs s (a :: acts) = (step s a).bind fun s' => runActs s' acts := by
  simp [runActs]

/-! ### A round of the monitor -/

/-- Some statements of the monitor in a row. -/
def Monitor.steps (now : Str) : Nat → Monitor → Shared → Monitor × Shared
  | 0, m, sh => (m, sh)
  | n + 1, m, sh => Monitor.steps now n (m.next now sh).1 (m.next now sh).2

theorem runActs_monitor (now : Str) (n : Nat) (s : Sys) :
    runActs s (List.replicate n (.monitor now)) = some
      { s.setShared (Monitor.steps now n s.monitor s.shared).2 with
        monitor := (Monitor.steps now n s.monitor s.shared).1 } := by
  induction n generalizing s with
  | zero => rfl
  | succ n ih =>
    rw [List.replicate_succ, runActs_cons]
    show runActs { s.setShared (s.monitor.next now s.shared).2 with
      monitor := (s.monitor.next now s.shared).1 } _ = _
    rw [ih]
    rfl

/-- Six statements are a round. -/
theorem steps_eq_round (env : PollEnv) (now : Str) (sh : Shared) :
    Monitor.steps now 6 (.begin (pollCard env)) sh = (.idle, monitor_card_round env now sh) := by
  unfold monitor_card_round
  cases pollCard env with
  | nothing => rfl
  | noCard =>
    by_cases hcur : sh.marked = true
    · simp [Monitor.begin, Monitor.steps, Monitor.next, hcur]
    · simp [Monitor.begin, Monitor.steps, Monitor.next, hcur]
  | card read =>
    -- the three branches on the cid: a new card, the same card, no cid
    by_cases hcond : read.cid ≠ [] ∧ sh.current_cid ≠ some read.cid
    · simp only [Monitor.begin, Monitor.steps, Monitor.next, if_pos hcond]
      cases (read_card_data read.connection read.req read.cid now read.session).1 <;> rfl
    · by_cases hne : read.cid ≠ []
      · simp only [Monitor.begin, Monitor.steps, Monitor.next, if_neg hcond, if_pos hne]
      · simp only [Monitor.begin, Monitor.steps, Monitor.next, if_neg hcond, if_neg hne]

/-- **An uninterrupted round of the monitor** is `monitor_card_round`. -/
theorem run_round {s : Sys} (hidle : s.monitor = .idle) (env : PollEnv) (now : Str) :
    runActs s (.poll env :: List.replicate 6 (.monitor now))
      = some (s.setShared (monitor_card_round env now s.shared)) := by
  have hpoll : step s (.poll env) = some { s with monitor := .begin (pollCard env) } := by
    simp [step, hidle]
  have hsteps := steps_eq_round env now s.shared
  rw [runActs_cons, hpoll, Option.bind_some, runActs_monitor]
  show some { s.setShared (Monitor.steps now 6 (.begin (pollCard env)) s.shared).2 with
    monitor := (Monitor.steps now 6 (.begin (pollCard env)) s.shared).1 } = _
  rw [hsteps, ← hidle]
  rfl

/-! ### An import -/

/-- The acts of the import loop: one for each row, and one for its end. -/
def rowActs (rows : List Csv.Row) (env : Nat → RowEnv) : List Act :=
  (List.range (rows.length + 1)).map fun n => .importRow (env n)

theorem rowActs_cons (cells : Csv.Row) (rows : List Csv.Row) (env : Nat → RowEnv) :
    rowActs (cells :: rows) env = .importRow (env 0) :: rowActs rows fun n => env (n + 1) := by
  simp [rowActs, List.range_succ_eq_map (n := rows.length + 1), Function.comp_def]

/-- The import loop, from any of its rows to its end. -/
theorem run_rows {s : Sys} {counts : ImportCounts} {first_row : Bool} {names : Csv.Row}
    {rows : List Csv.Row} {ending : Csv.Ending} {below : List Frame}
    (hmain : s.main = .importRows counts first_row names rows ending :: below)
    (env : Nat → RowEnv) :
    runActs s (rowActs rows env) = some { s with
      gui := (finishImport (importRows names ⟨s.gui, counts, first_row⟩ rows env) ending).1
      main := .notice (.importEnd
        (finishImport (importRows names ⟨s.gui, counts, first_row⟩ rows env) ending).2) ::
          below } := by
  induction rows generalizing s counts first_row env with
  | nil =>
    rw [show rowActs [] env = [.importRow (env 0)] from rfl, runActs_cons]
    simp [step, hmain, frameStep, importRows, runActs]
  | cons cells rows ih =>
    have hstep : step s (.importRow (env 0)) = some { s with
        gui := (importRow ⟨s.gui, counts, first_row⟩ ⟨names, cells⟩ (env 0)).gui
        main := .importRows (importRow ⟨s.gui, counts, first_row⟩ ⟨names, cells⟩ (env 0)).counts
          (importRow ⟨s.gui, counts, first_row⟩ ⟨names, cells⟩ (env 0)).first_row names rows
          ending :: below } := by
      simp [step, hmain, frameStep]
    rw [rowActs_cons, runActs_cons, hstep, Option.bind_some, ih rfl]
    rfl

/-- The acts of an import of a chosen file, up to its message box. -/
def importActs (file : Csv.Input) (env : Nat → RowEnv) : List Act :=
  .pressImport :: .chooseImport (some file) ::
    match importFrame file with
    | .importRows _ _ _ rows _ => rowActs rows env
    | _ => []

/-- **An uninterrupted import** is `import_from_csv`. -/
theorem run_import {s : Sys} (htakes : s.takesEvents = true) (file : Csv.Input)
    (env : Nat → RowEnv) :
    runActs s (importActs file env) = some { s with
      gui := (import_from_csv s.gui file env).1
      main := .notice (.importEnd (import_from_csv s.gui file env).2) :: s.main } := by
  have hopen : step s .pressImport = some (s.push .importFile) := by
    simp [step, htakes, press]
  have hchoose : step (s.push .importFile) (.chooseImport (some file))
      = some (s.push (importFrame file)) := rfl
  rw [importActs, runActs_cons, hopen, Option.bind_some, runActs_cons, hchoose, Option.bind_some]
  cases file with
  | raised => rfl
  | noHeader => rfl
  | table names rows ending =>
    by_cases hheader : headerAccepted names = true
    · have hframe : importFrame (.table names rows ending)
          = .importRows ⟨0, 0, 0⟩ true names rows ending := by
        simp [importFrame, hheader]
      rw [hframe, import_from_csv, if_pos hheader]
      exact run_rows rfl env
    · have hframe : importFrame (.table names rows ending) = .notice (.importEnd .refused) := by
        simp [importFrame, hheader]
      rw [hframe, import_from_csv, if_neg hheader]
      rfl

/-! ### A clearing -/

/-- **An uninterrupted clearing** leaves an empty window with the names it had. -/
theorem run_clear {s : Sys} (htakes : s.takesEvents = true) (hne : s.gui.card_data_list ≠ []) :
    runActs s (.pressClear :: .answerClear true :: List.replicate 4 .clearNext) = some { s with
      gui := { Gui.start with
        project_name := s.gui.project_name, school_name := s.gui.school_name }
      main := .notice .cleared :: s.main } := by
  have hopen : step s .pressClear = some (s.push .clearConfirm) := by
    simp [step, htakes, press, hne]
  rw [runActs_cons, hopen]
  rfl

end GuiReader

end IdScan
