import IdScan.Proofs.ImportRun
import IdScan.Proofs.Marking

/-! # The record count

  The label with the number of records is set at the end of each operation that
  changes the list. An operation that is left before its end leaves the label
  behind: a delivery whose `tree.insert` raises, and an import whose reader
  raises behind a row that has been imported.
-/

namespace IdScan

namespace GuiReader

open LTS

/-- The label shows the number of records. -/
def Gui.CountRight (g : Gui) : Prop := g.data_count = g.card_data_list.length

/-! ### One import -/

@[simp] theorem ImportLoop.named_data_count (loop : ImportLoop) (row : DictRow) :
    (loop.named row).data_count = loop.gui.data_count := by
  unfold ImportLoop.named
  split <;> rfl

/-- The loop does not touch the label. -/
theorem importRow_data_count (loop : ImportLoop) (row : DictRow) (env : RowEnv) :
    (importRow loop row env).gui.data_count = loop.gui.data_count := by
  rcases importRow_gui loop row env with ⟨hsame, _⟩ | ⟨cid, _, _, happ⟩
  · simp [hsame]
  · simp [happ, Gui.append]

theorem importRows_data_count (names : Csv.Row) (loop : ImportLoop) (rows : List Csv.Row)
    (env : Nat → RowEnv) :
    (importRows names loop rows env).gui.data_count = loop.gui.data_count := by
  induction rows generalizing loop env with
  | nil => rfl
  | cons cells rows ih => rw [importRows, ih, importRow_data_count]

/-- Behind its error dialog an import shows the right number exactly if no row
    of the file had a new cid. -/
theorem failed_import_count_iff {g : Gui} (hg : g.CountRight) (names : Csv.Row)
    (rows : List Csv.Row) (env : Nat → RowEnv) (hheader : headerAccepted names = true) :
    (import_from_csv g (.table names rows .raised) env).1.CountRight ↔
      ∀ cells ∈ rows, ∀ cid, rowCid ⟨names, cells⟩ = some cid → g.hasCid cid = true := by
  have hend : (import_from_csv g (.table names rows .raised) env).1
      = (importRows names (.start g) rows env).gui := by
    rw [import_from_csv, if_pos hheader]
    rfl
  have hcount := importRows_data_count names (.start g) rows env
  have hgrows := importRows_prefix names (.start g) rows env
  have hiff := importRows_list_eq_iff names (.start g) rows env
  unfold Gui.CountRight at hg ⊢
  rw [hend, hcount]
  show g.data_count = _ ↔ _
  rw [hg]
  refine Iff.trans ?_ hiff
  constructor
  · intro hlen
    exact (hgrows.eq_of_length hlen).symm
  · intro heq
    rw [heq]
    rfl

/-! ### Frames with a label behind -/

/-- The handler has changed the list, or may do so, and will set the label. -/
def Frame.LabelBehind : Frame → Prop
  | .importRows _ _ _ _ .eof => True
  | .clearing .deleteRows => True
  | .clearing .setCount => True
  | _ => False

theorem Frame.LabelBehind.not_isDialog {frame : Frame} (h : frame.LabelBehind) :
    frame.isDialog = false := by
  cases frame with
  | importRows _ _ _ _ _ => rfl
  | clearing _ => rfl
  | importFile => exact h.elim
  | exportFile => exact h.elim
  | clearConfirm => exact h.elim
  | notice _ => exact h.elim

/-- The invariant: the label is right unless a handler is midway that will set
    it, and a clearing that will set it has emptied the list. -/
structure Counted (s : Sys) : Prop where
  stack : StackOk s.main
  cleared : ∀ at_, at_ ≠ .clearList → .clearing at_ ∈ s.main → s.gui.card_data_list = []
  count : (∀ frame ∈ s.main, ¬ frame.LabelBehind) → s.gui.CountRight

/-- The steps that keep the label right: the insertion of a new card succeeds,
    and no row with a new cid is taken from a file whose reader raises later. -/
def CountSafe (s : Sys) (a : Act) (_ : Sys) : Prop :=
  match a with
  | .deliver i insertOk => ∀ card_info, s.pending[i]? = some (.add_card_to_table card_info) →
      s.gui.hasCid card_info.cid = false → insertOk = true
  | .importRow _ => ∀ counts first_row names cells rows below,
      s.main = .importRows counts first_row names (cells :: rows) .raised :: below →
      ∀ cid, rowCid ⟨names, cells⟩ = some cid → s.gui.hasCid cid = true
  | _ => True

/-- A quiet step takes no handler with a label behind off the stack. -/
theorem StackMove.labelBehind_mem {main main' : List Frame} (h : StackMove main main')
    {frame : Frame} (hframe : frame.LabelBehind) (hmem : frame ∈ main) : frame ∈ main' := by
  have hnot : ∀ dialog : Frame, dialog.isDialog = true → frame ≠ dialog := by
    intro dialog hdialog heq
    rw [← heq, hframe.not_isDialog] at hdialog
    simp at hdialog
  cases h with
  | same => exact hmem
  | push top _ _ => exact List.mem_cons_of_mem _ hmem
  | pop top below htop => exact (List.mem_cons.mp hmem).resolve_left (hnot top htop)
  | replace top top' below htop _ =>
    exact List.mem_cons_of_mem _ ((List.mem_cons.mp hmem).resolve_left (hnot top htop))

/-- Below a frame and where the event loop runs, no label is behind. -/
theorem not_labelBehind_of_dialogs {main : List Frame}
    (h : ∀ frame ∈ main, frame.isDialog = true) : ∀ frame ∈ main, ¬ frame.LabelBehind := by
  intro frame hmem hbehind
  have hdialog := h frame hmem
  rw [hbehind.not_isDialog] at hdialog
  simp at hdialog

/-- Under a handler that will not set the label, it is right already. -/
theorem Counted.right_under {s : Sys} (hs : Counted s) {top : Frame} {below : List Frame}
    (hmain : s.main = top :: below) (htop : ¬ top.LabelBehind) : s.gui.CountRight := by
  have hok : StackOk (top :: below) := hmain ▸ hs.stack
  apply hs.count
  rw [hmain]
  intro frame hmem
  rcases List.mem_cons.mp hmem with rfl | hmem
  · exact htop
  · exact not_labelBehind_of_dialogs hok frame hmem

/-- A quiet step changes neither the list nor the label. -/
theorem Counted.move {s s' : Sys} (hs : Counted s) (hmove : StackMove s.main s'.main)
    (hlist : s'.gui.card_data_list = s.gui.card_data_list)
    (hcount : s'.gui.data_count = s.gui.data_count) : Counted s' := by
  refine ⟨hmove.stackOk hs.stack, ?_, ?_⟩
  · intro at_ hat hmem
    rw [hlist]
    exact hs.cleared at_ hat ((hmove.clearing_mem_iff hat).mp hmem)
  · intro hnone
    unfold Gui.CountRight
    rw [hlist, hcount]
    apply hs.count
    intro frame hmem hbehind
    exact hnone frame (hmove.labelBehind_mem hbehind hmem) hbehind

theorem counted_step {s s' : Sys} {a : Act} (hs : Counted s) (h : Effect s a s')
    (hsafe : CountSafe s a s') : Counted s' := by
  cases h with
  | poll _ _ => exact ⟨hs.stack, hs.cleared, hs.count⟩
  | monitor _ => exact ⟨hs.stack, hs.cleared, hs.count⟩
  | status _ _ _ _ _ => exact ⟨hs.stack, hs.cleared, hs.count⟩
  | duplicate i _ card_info htakes _ _ =>
    have hmove : StackMove s.main (.notice (.duplicate card_info.cid) :: s.main) :=
      .push _ (head_isDialog_of_takesEvents htakes) (by rintro _ ⟨⟩)
    exact hs.move hmove rfl rfl
  | added i insertOk card_info htakes hi hnew =>
    obtain rfl : insertOk = true := hsafe card_info hi hnew
    refine ⟨hs.stack, ?_, fun _ => rfl⟩
    intro at_ _ hmem
    exact absurd hmem (clearing_not_mem_of_takesEvents hs.stack htakes at_)
  | quiet _ _ _ main' hmove _ _ => exact hs.move hmove rfl rfl
  | importRow env counts first_row names cells rows ending below hmain =>
    have hok : StackOk (.importRows counts first_row names (cells :: rows) ending :: below) :=
      hmain ▸ hs.stack
    refine ⟨hok.replace _, ?_, ?_⟩
    · intro at_ _ hmem
      exact absurd hmem (by simp [clearing_not_mem_below hok at_])
    · intro hnone
      cases ending with
      | eof => exact absurd trivial (hnone _ (List.mem_cons_self ..))
      | raised =>
        -- the row is skipped, so that the label stays right
        have hskip := hsafe counts first_row names cells rows below hmain
        have hright : s.gui.CountRight := hs.right_under hmain id
        show Gui.CountRight _
        rw [importRow_skipped hskip]
        simpa [Gui.CountRight] using hright
  | importEnd env counts first_row names ending below hmain =>
    have hok : StackOk (.importRows counts first_row names [] ending :: below) :=
      hmain ▸ hs.stack
    refine ⟨hok.replace _, ?_, ?_⟩
    · intro at_ _ hmem
      exact absurd hmem (by simp [clearing_not_mem_below hok at_])
    · intro _
      cases ending with
      | eof => rfl
      | raised => exact hs.right_under hmain id
  | clear at_ below hmain =>
    have hok : StackOk (.clearing at_ :: below) := hmain ▸ hs.stack
    have hempty : at_ ≠ .clearList → s.gui.card_data_list = [] := fun hat =>
      hs.cleared at_ hat (by simp [hmain])
    refine ⟨hok.replace _, ?_, ?_⟩
    · intro at' _ _
      cases at_ with
      | clearList => rfl
      | deleteRows => exact hempty (by simp)
      | setCount => exact hempty (by simp)
      | resetCid => exact hempty (by simp)
    · intro hnone
      cases at_ with
      | clearList => exact absurd trivial (hnone _ (List.mem_cons_self ..))
      | deleteRows => exact absurd trivial (hnone _ (List.mem_cons_self ..))
      | setCount =>
        -- the statement that sets the label to 0
        have hnil : s.gui.card_data_list = [] := hempty (by simp)
        simp [Gui.CountRight, clearStep, hnil]
      | resetCid => exact hs.right_under hmain id

theorem counted_reachable {s : Sys} (h : Reachable (program.restrict CountSafe) s) :
    Counted s := by
  refine h.invariant ?_ ?_
  · intro s hs
    obtain rfl := hs
    exact ⟨by simp [Sys.start, StackOk], by simp [Sys.start], fun _ => rfl⟩
  · intro s a s' hs hstep
    exact counted_step hs (effect_of_step hstep.1) hstep.2

/-- **The record count shown is right** wherever no handler is midway, in every
    run whose insertions of new cards succeed and in which no new row is taken
    from a file whose reader raises later. -/
theorem count_shown_right (s : Sys) (h : Reachable (program.restrict CountSafe) s)
    (hmain : s.main = []) : s.gui.data_count = s.gui.card_data_list.length :=
  (counted_reachable h).count (by simp [hmain])

theorem count_shown_right_otherRecorded :
    ∃ s, Reachable (program.restrict CountSafe) s ∧ s.main = [] ∧
      s.gui.card_data_list.length = 1 ∧ s.gui.data_count = s.gui.card_data_list.length := by
  have hrun : (runActs .start otherRecorded).map
      (fun s => (s.main, s.gui.card_data_list.length)) = some ([], 1) := by decide +kernel
  obtain ⟨s, hs, hend⟩ := Option.map_eq_some_iff.mp hrun
  obtain ⟨hmain, hlen⟩ := Prod.mk.inj hend
  have hreach : Reachable (program.restrict CountSafe) s :=
    ((run_of_runActs hs).restrict (by simp [otherRecorded, CountSafe])).reachable (.init rfl)
  exact ⟨s, hreach, hmain, hlen, count_shown_right s hreach hmain⟩

/-- The import of the broken file, to its end. -/
def brokenFileActs : List Act :=
  [.pressImport, .chooseImport (some brokenFile), .importRow ⟨[], true⟩, .importRow ⟨[], true⟩,
    .closeNotice]

/-- Behind the failed import there is a record and the label says 0. -/
theorem count_shown_wrong :
    ∃ s, Reachable (program.restrict InsertsSucceed) s ∧ s.monitor = .idle ∧ s.main = [] ∧
      s.gui.data_count = 0 ∧ s.gui.card_data_list.length = 1 := by
  have hrun : (runActs .start brokenFileActs).map
      (fun s => (s.monitor.isIdle, s.main, s.gui.data_count, s.gui.card_data_list.length))
      = some (true, [], 0, 1) := by decide +kernel
  obtain ⟨s, hs, hend⟩ := Option.map_eq_some_iff.mp hrun
  simp only [Prod.mk.injEq] at hend
  obtain ⟨hidle, hmain, hcount, hlen⟩ := hend
  have hreach : Reachable (program.restrict InsertsSucceed) s :=
    ((run_of_runActs hs).restrict (by simp [brokenFileActs, InsertsSucceed])).reachable (.init rfl)
  exact ⟨s, hreach, Monitor.isIdle_iff.mp hidle, hmain, hcount, hlen⟩

end GuiReader

end IdScan
