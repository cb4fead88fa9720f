import IdScan.Framework.Registry
import IdScan.Proofs.CardSession
import IdScan.Proofs.Steps

/-! # The list and the table

  The list of the window is a registry keyed by the cid: `program_refines` maps
  every step of the program to an enrolment, a removal of everything, or
  nothing. That no person is stored twice is the invariant of the registry.

  The table follows the list row by row as long as `tree.insert` succeeds.
-/

namespace IdScan

namespace GuiReader

open LTS

/-! ### Only good cids are on their way to the list -/

/-- A cid as the program accepts it: not empty, and trimmed. -/
def GoodCid (cid : Str) : Prop := cid ≠ [] ∧ strip cid = cid

/-- The records the list may hold. -/
def Admissible (card_info : CardInfo) : Prop := GoodCid card_info.cid

/-- What the monitor holds will only ever be posted with a good cid. -/
def Monitor.Good : Monitor → Prop
  | .compare read => strip read.cid = read.cid
  | .mark read => GoodCid read.cid
  | .announce read => GoodCid read.cid
  | .readFields read => GoodCid read.cid
  | .post card_info => ∀ ci ∈ card_info, Admissible ci
  | _ => True

/-- Everything on its way to `add_card_to_table` has a good cid. -/
def OnTheWayGood (s : Sys) : Prop :=
  (∀ card_info, .add_card_to_table card_info ∈ s.pending → Admissible card_info) ∧
    s.monitor.Good

theorem pollCard_good (env : PollEnv) : (Monitor.begin (pollCard env)).Good := by
  unfold pollCard
  split
  · exact trivial
  · exact trivial
  · exact trivial
  · split
    · exact trivial
    · dsimp only
      split
      · exact strip_stripDecoded _
      · exact trivial

/-- One statement of the monitor keeps the cids good. -/
theorem Monitor.next_good (now : Str) (sh : Shared) (m : Monitor) (hm : m.Good)
    (hsh : ∀ card_info, .add_card_to_table card_info ∈ sh.pending → Admissible card_info) :
    (m.next now sh).1.Good ∧
      ∀ card_info, .add_card_to_table card_info ∈ (m.next now sh).2.pending →
        Admissible card_info := by
  -- a posted status carries no record
  have hstatus : ∀ (sh : Shared) (status : CardStatus),
      (∀ ci, .add_card_to_table ci ∈ sh.pending → Admissible ci) →
      ∀ ci, .add_card_to_table ci ∈ (sh.post (.card_status status)).pending → Admissible ci := by
    intro sh status h ci hci
    simp only [Shared.post, List.mem_append, List.mem_singleton, reduceCtorEq, or_false] at hci
    exact h ci hci
  cases m with
  | idle => exact ⟨trivial, hsh⟩
  | compare read =>
    simp only [Monitor.next]
    split
    · next hne =>
      -- the cid is trimmed since it was decoded, and `if cid` makes it non-empty
      exact ⟨⟨hne.1, hm⟩, hsh⟩
    · split <;> exact ⟨trivial, hsh⟩
  | mark read => exact ⟨hm, hsh⟩
  | announce read => exact ⟨hm, hstatus sh _ hsh⟩
  | readFields read =>
    refine ⟨?_, hsh⟩
    intro ci hci
    -- the record carries the cid it was read under
    rw [read_card_data_eq] at hci
    obtain rfl : _ = ci := Option.some.inj hci
    exact hm
  | post card_info =>
    cases card_info with
    | none => exact ⟨trivial, hsh⟩
    | some ci =>
      refine ⟨trivial, ?_⟩
      intro ci' hci'
      simp only [Monitor.next, Shared.post, List.mem_append, List.mem_singleton,
        Callback.add_card_to_table.injEq] at hci'
      rcases hci' with hci' | rfl
      · exact hsh ci' hci'
      · exact hm ci' rfl
  | announceDone => exact ⟨trivial, hstatus sh _ hsh⟩
  | announceSame => exact ⟨trivial, hstatus sh _ hsh⟩
  | noCard =>
    simp only [Monitor.next]
    split <;> exact ⟨trivial, hsh⟩
  | reset => exact ⟨trivial, hsh⟩
  | announceRemoved => exact ⟨trivial, hstatus sh _ hsh⟩

theorem onTheWayGood_step {s s' : Sys} {a : Act} (hs : OnTheWayGood s) (h : Effect s a s') :
    OnTheWayGood s' := by
  have herase : ∀ i ci, .add_card_to_table ci ∈ s.pending.eraseIdx i → Admissible ci :=
    fun i ci hci => hs.1 ci (List.mem_of_mem_eraseIdx hci)
  cases h with
  | poll env _ => exact ⟨hs.1, pollCard_good env⟩
  | monitor now =>
    obtain ⟨hm, hp⟩ := Monitor.next_good now s.shared s.monitor hs.2 hs.1
    exact ⟨hp, hm⟩
  | status i _ _ _ _ => exact ⟨herase i, hs.2⟩
  | duplicate i _ _ _ _ _ => exact ⟨herase i, hs.2⟩
  | added i _ _ _ _ _ => exact ⟨herase i, hs.2⟩
  | quiet _ _ _ _ _ _ _ => exact hs
  | importRow _ _ _ _ _ _ _ _ _ => exact hs
  | importEnd _ _ _ _ _ _ _ => exact hs
  | clear _ _ _ => exact hs

theorem onTheWayGood_reachable {s : Sys} (h : Reachable program s) : OnTheWayGood s := by
  refine h.invariant ?_ ?_
  · intro s hs
    obtain rfl := hs
    exact ⟨by simp [Sys.start], trivial⟩
  · intro s a s' hs hstep
    exact onTheWayGood_step hs (effect_of_step hstep)

/-! ### The list is a registry -/

theorem hasCid_iff_holds {g : Gui} {cid : Str} :
    g.hasCid cid = true ↔ Registry.Holds CardInfo.cid g.card_data_list cid :=
  Gui.hasCid_iff

theorem enroll_eq_append {g : Gui} {card_info : CardInfo}
    (hnew : g.hasCid card_info.cid = false) :
    Registry.enroll CardInfo.cid g.card_data_list card_info
      = g.card_data_list ++ [card_info] := by
  unfold Registry.enroll
  rw [if_neg]
  rw [← hasCid_iff_holds, hnew]
  simp

/-- **Refinement**: every step of the program enrols one admissible record,
    removes everything, or leaves the list alone. -/
theorem program_refines :
    Refines program (Registry.system CardInfo.cid Admissible) (fun s => s.gui.card_data_list)
      OnTheWayGood where
  init := by
    intro s hs
    obtain rfl := hs
    rfl
  step := by
    intro s a s' hgood hstep
    cases effect_of_step hstep with
    | poll _ _ => exact .inr rfl
    | monitor _ => exact .inr rfl
    | status _ _ _ _ _ => exact .inr rfl
    | duplicate _ _ _ _ _ _ => exact .inr rfl
    | added i insertOk card_info _ hi hnew =>
      refine .inl ⟨.enroll card_info, hgood.1 card_info (List.mem_of_getElem? hi), ?_⟩
      rw [enroll_eq_append hnew]
      exact add_new_card_list _ _ _
    | quiet _ _ _ _ _ _ _ => exact .inr rfl
    | importRow env counts first_row names cells rows ending below hmain =>
      -- a skipped row stutters, any other enrols the record of the row
      rcases importRow_gui ⟨s.gui, counts, first_row⟩ ⟨names, cells⟩ env with
        ⟨hsame, _⟩ | ⟨cid, hcid, hnew, happ⟩
      · right
        simp only [hsame, ImportLoop.named_list]
      · refine .inl ⟨.enroll (rowCardInfo ⟨names, cells⟩ cid env.now), rowCid_good hcid, ?_⟩
        rw [enroll_eq_append hnew]
        simp only [happ, Gui.append_list, ImportLoop.named_list]
    | importEnd _ _ _ _ _ _ _ => exact .inr (finishImport_list _ _)
    | clear at_ _ _ =>
      -- the list is emptied in the first statement of a clearing
      cases at_ with
      | clearList => exact .inl ⟨.clear, rfl⟩
      | deleteRows => exact .inr rfl
      | setCount => exact .inr rfl
      | resetCid => exact .inr rfl

/-- The list of a reachable state is a well-formed registry. -/
theorem list_wellFormed {s : Sys} (h : Reachable program s) :
    Registry.WellFormed CardInfo.cid Admissible s.gui.card_data_list :=
  Registry.reachable_wellFormed (program_refines.reachable (fun _ => onTheWayGood_reachable) h)

/-- **No person is stored twice.** In every reachable state the cids of the list
    are pairwise distinct, and each is non-empty and trimmed. -/
theorem no_person_stored_twice (s : Sys) (h : Reachable program s) :
    (s.gui.card_data_list.map CardInfo.cid).Nodup ∧
      ∀ data ∈ s.gui.card_data_list, data.cid ≠ [] ∧ strip data.cid = data.cid :=
  ⟨(list_wellFormed h).nodup, (list_wellFormed h).admissible⟩

/-- A file of three rows, the last of them under the cid of the first. -/
def threeRows : Csv.Input :=
  .table (required_fields.map Column.name)
    [[" 11 ".toList, "ก".toList, "ข".toList], ["22".toList, "ค".toList], ["11".toList]] .eof

def threeRowsActs : List Act :=
  [.pressImport, .chooseImport (some threeRows), .importRow ⟨[], true⟩, .importRow ⟨[], true⟩,
    .importRow ⟨[], true⟩, .importRow ⟨[], true⟩, .closeNotice]

theorem no_person_stored_twice_threeRows :
    ∃ s, Reachable program s ∧
      s.gui.card_data_list.map CardInfo.cid = ["11".toList, "22".toList] ∧
      (s.gui.card_data_list.map CardInfo.cid).Nodup ∧
      ∀ data ∈ s.gui.card_data_list, data.cid ≠ [] ∧ strip data.cid = data.cid := by
  have hcids : (runActs .start threeRowsActs).map (fun s => s.gui.card_data_list.map CardInfo.cid)
      = some ["11".toList, "22".toList] := by decide +kernel
  obtain ⟨s, hs, hlist⟩ := Option.map_eq_some_iff.mp hcids
  have hreach : Reachable program s := (run_of_runActs hs).reachable (.init rfl)
  exact ⟨s, hreach, hlist, no_person_stored_twice s hreach⟩

/-! ### The table follows the list -/

/-- The rows of a list, numbered from 1. -/
def tableRows (card_data_list : List CardInfo) : List TableRow :=
  (card_data_list.zipIdx 1).map fun (data, index) => tableRow index data

@[simp] theorem tableRows_nil : tableRows [] = [] := rfl

@[simp] theorem length_tableRows (l : List CardInfo) : (tableRows l).length = l.length := by
  simp [tableRows]

theorem tableRows_append (l : List CardInfo) (data : CardInfo) :
    tableRows (l ++ [data]) = tableRows l ++ [tableRow (l.length + 1) data] := by
  simp [tableRows, List.zipIdx_append, Nat.add_comm]

theorem tableRows_getElem? (l : List CardInfo) (k : Nat) :
    (tableRows l)[k]? = l[k]?.map (tableRow (k + 1)) := by
  simp [tableRows, List.getElem?_zipIdx, Nat.add_comm, Function.comp_def]

/-- `tree.insert` does not raise in this step. -/
def InsertsSucceed (_ : Sys) (a : Act) (_ : Sys) : Prop :=
  match a with
  | .deliver _ insertOk => insertOk = true
  | .importRow env => env.insertOk = true
  | _ => True

/-- The invariant: the rows of the table are the rows of the list, but for the
    moment in `clear_all_data` between emptying the one and the other. -/
structure Mirrors (s : Sys) : Prop where
  stack : StackOk s.main
  cleared : .clearing .deleteRows ∈ s.main → s.gui.card_data_list = []
  rows : .clearing .deleteRows ∉ s.main → s.gui.tree = tableRows s.gui.card_data_list

/-- Dialogs are not clearings. -/
theorem clearing_not_mem_of_dialogs {main : List Frame}
    (h : ∀ frame ∈ main, frame.isDialog = true) (at_ : Clearing) : .clearing at_ ∉ main := by
  intro hmem
  have := h _ hmem
  simp [Frame.isDialog] at this

/-- Where the event loop runs, no clearing is midway. -/
theorem clearing_not_mem_of_takesEvents {s : Sys} (hok : StackOk s.main)
    (htakes : s.takesEvents = true) (at_ : Clearing) : .clearing at_ ∉ s.main := by
  refine clearing_not_mem_of_dialogs ?_ at_
  -- the top is a dialog because events are taken, the rest because of the order
  have hhead := head_isDialog_of_takesEvents htakes
  intro frame hframe
  cases hmain : s.main with
  | nil => simp [hmain] at hframe
  | cons top below =>
    rw [hmain] at hframe hhead hok
    simp only [List.mem_cons] at hframe
    rcases hframe with rfl | hframe
    · exact hhead frame rfl
    · exact hok frame hframe

/-- Below the frame on top there are only dialogs. -/
theorem clearing_not_mem_below {frame : Frame} {below : List Frame}
    (hok : StackOk (frame :: below)) (at_ : Clearing) : .clearing at_ ∉ below :=
  clearing_not_mem_of_dialogs hok at_

theorem mirrors_step {s s' : Sys} {a : Act} (hs : Mirrors s) (h : Effect s a s')
    (hinsert : InsertsSucceed s a s') : Mirrors s' := by
  cases h with
  | poll _ _ => exact ⟨hs.stack, hs.cleared, hs.rows⟩
  | monitor _ => exact ⟨hs.stack, hs.cleared, hs.rows⟩
  | status _ _ _ _ _ => exact ⟨hs.stack, hs.cleared, hs.rows⟩
  | duplicate i _ card_info htakes _ _ =>
    have hmove : StackMove s.main (.notice (.duplicate card_info.cid) :: s.main) :=
      .push _ (head_isDialog_of_takesEvents htakes) (by rintro _ ⟨⟩)
    -- the message box changes neither the list nor the table
    have hiff := hmove.clearing_mem_iff (by simp : Clearing.deleteRows ≠ .clearList)
    exact ⟨hmove.stackOk hs.stack, fun hmem => hs.cleared (hiff.mp hmem),
      fun hmem => hs.rows (mt hiff.mpr hmem)⟩
  | added i insertOk card_info htakes _ _ =>
    obtain rfl : insertOk = true := hinsert
    have hnot := clearing_not_mem_of_takesEvents hs.stack htakes .deleteRows
    refine ⟨hs.stack, fun hmem => absurd hmem hnot, fun _ => ?_⟩
    simp only [add_new_card_tree, add_new_card_list]
    rw [hs.rows hnot, tableRows_append]
  | quiet _ _ _ main' hmove _ _ =>
    have hiff := hmove.clearing_mem_iff (by simp : Clearing.deleteRows ≠ .clearList)
    exact ⟨hmove.stackOk hs.stack, fun hmem => hs.cleared (hiff.mp hmem),
      fun hmem => hs.rows (mt hiff.mpr hmem)⟩
  | importRow env counts first_row names cells rows ending below hmain =>
    have hok : StackOk (.importRows counts first_row names (cells :: rows) ending :: below) :=
      hmain ▸ hs.stack
    have hnot := clearing_not_mem_below hok .deleteRows
    have hrows : s.gui.tree = tableRows s.gui.card_data_list := hs.rows (by simp [hmain, hnot])
    refine ⟨hok.replace _, fun hmem => absurd hmem (by simp [hnot]), fun _ => ?_⟩
    have hinsertOk : env.insertOk = true := hinsert
    rcases importRow_gui ⟨s.gui, counts, first_row⟩ ⟨names, cells⟩ env with
      ⟨hsame, _⟩ | ⟨cid, _, _, happ⟩
    · simp [hsame, hrows]
    · rw [hinsertOk] at happ
      simp [happ, hrows, tableRows_append]
  | importEnd env counts first_row names ending below hmain =>
    have hok : StackOk (.importRows counts first_row names [] ending :: below) :=
      hmain ▸ hs.stack
    have hnot := clearing_not_mem_below hok .deleteRows
    refine ⟨hok.replace _, fun hmem => absurd hmem (by simp [hnot]), fun _ => ?_⟩
    simpa using hs.rows (by simp [hmain, hnot])
  | clear at_ below hmain =>
    have hok : StackOk (.clearing at_ :: below) := hmain ▸ hs.stack
    have hnot := clearing_not_mem_below hok .deleteRows
    cases at_ with
    | clearList =>
      exact ⟨hok.replace _, fun _ => rfl, fun hmem => absurd (by simp [clearStep]) hmem⟩
    | deleteRows =>
      -- only here do the two sides meet again
      have hempty : s.gui.card_data_list = [] := hs.cleared (by simp [hmain])
      exact ⟨hok.replace _, fun _ => hempty, fun _ => by simp [clearStep, hempty]⟩
    | setCount =>
      exact ⟨hok.replace _, fun hmem => absurd hmem (by simp [clearStep, hnot]),
        fun _ => hs.rows (by simp [hmain, hnot])⟩
    | resetCid =>
      exact ⟨hok.replace _, fun hmem => absurd hmem (by simp [clearStep, hnot]),
        fun _ => hs.rows (by simp [hmain, hnot])⟩

theorem mirrors_reachable {s : Sys} (h : Reachable (program.restrict InsertsSucceed) s) :
    Mirrors s := by
  refine h.invariant ?_ ?_
  · intro s hs
    obtain rfl := hs
    exact ⟨by simp [Sys.start, StackOk], by simp [Sys.start], fun _ => rfl⟩
  · intro s a s' hs hstep
    exact mirrors_step hs (effect_of_step hstep.1) hstep.2

end GuiReader

end IdScan
