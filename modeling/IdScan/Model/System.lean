import IdScan.Framework.LTS
import IdScan.Model.Gui

/-! # The running window: two threads and an event queue

  The main thread runs handlers and posted callbacks one at a time. A modal
  dialog runs the event loop inside its handler, so handlers nest: `main` is the
  stack of those that are midway, and another one may start only where the
  stack is empty or a dialog is open on top of it.

  The monitor thread polls the card. It shares `current_cid` and the queue of
  posted callbacks with the main thread, without a lock, so it takes its
  statements one by one, as `clear_all_data` does on the other side.
-/

namespace IdScan

namespace GuiReader

/-! ### The monitor thread -/

/-- The texts of the card status. -/
inductive CardStatus where
  | reading | readDone | sameCard | removed
  deriving DecidableEq

/-- What `root.after(0, ...)` posts. -/
inductive Callback where
  | card_status (status : CardStatus)
  | add_card_to_table (card_info : CardInfo)
  deriving DecidableEq

/-- Where the monitor is in its round. -/
inductive Monitor where
  /-- Between two rounds. -/
  | idle
  /-- Before `if cid and cid != self.current_cid`. -/
  | compare (read : CardRead)
  /-- Before `self.current_cid = cid`. -/
  | mark (read : CardRead)
  /-- Before the status "reading". -/
  | announce (read : CardRead)
  /-- Before `read_card_data`. -/
  | readFields (read : CardRead)
  /-- Before `if card_info` and the posting of `add_card_to_table`. -/
  | post (card_info : Option CardInfo)
  /-- Before the status "read". -/
  | announceDone
  /-- Before the status "same card". -/
  | announceSame
  /-- In the handler of `NoCardException`, before `if self.current_cid`. -/
  | noCard
  /-- Before `self.current_cid = None` of that handler. -/
  | reset
  /-- Before the status "waiting for the next card". -/
  | announceRemoved

/-- The part of the state the monitor shares with the main thread. -/
structure Shared where
  current_cid : Option Str
  pending : List Callback
  deriving DecidableEq

/-- `if self.current_cid`. -/
def Shared.marked (sh : Shared) : Bool := sh.current_cid.any fun cid => !cid.isEmpty

def Shared.post (sh : Shared) (callback : Callback) : Shared :=
  { sh with pending := sh.pending ++ [callback] }

/-- A round begins with what the card part of it found. -/
def Monitor.begin : PollFound → Monitor
  | .nothing => .idle
  | .noCard => .noCard
  | .card read => .compare read

/-- The next statement of the monitor. -/
def Monitor.next (now : Str) (sh : Shared) : Monitor → Monitor × Shared
  | .idle => (.idle, sh)
  | .compare read =>
    if read.cid ≠ [] ∧ sh.current_cid ≠ some read.cid then (.mark read, sh)
    else if read.cid ≠ [] then (.announceSame, sh)
    else (.idle, sh)
  | .mark read => (.announce read, { sh with current_cid := some read.cid })
  | .announce read => (.readFields read, sh.post (.card_status .reading))
  | .readFields read =>
    (.post (read_card_data read.connection read.req read.cid now read.session).1, sh)
  | .post none => (.idle, sh)
  | .post (some card_info) => (.announceDone, sh.post (.add_card_to_table card_info))
  | .announceDone => (.idle, sh.post (.card_status .readDone))
  | .announceSame => (.idle, sh.post (.card_status .sameCard))
  | .noCard => if sh.marked then (.reset, sh) else (.idle, sh)
  | .reset => (.announceRemoved, { sh with current_cid := none })
  | .announceRemoved => (.idle, sh.post (.card_status .removed))

/-- One round of `monitor_card` that nothing interrupts. -/
def monitor_card_round (env : PollEnv) (now : Str) (sh : Shared) : Shared :=
  match pollCard env with
  | .nothing => sh
  | .noCard =>
    if sh.marked then Shared.post { sh with current_cid := none } (.card_status .removed)
    else sh
  | .card read =>
    if read.cid ≠ [] ∧ sh.current_cid ≠ some read.cid then
      let sh := Shared.post { sh with current_cid := some read.cid } (.card_status .reading)
      match (read_card_data read.connection read.req read.cid now read.session).1 with
      | none => sh
      | some card_info =>
        (sh.post (.add_card_to_table card_info)).post (.card_status .readDone)
    else if read.cid ≠ [] then sh.post (.card_status .sameCard)
    else sh

/-! ### The main thread -/

/-- The message boxes that end a handler. -/
inductive Notice where
  | duplicate (cid : Str)
  | importEnd (result : ImportEnd)
  | exportEmpty
  | exportEnd (ok : Bool)
  | cleared
  | nothingSelected
  deriving DecidableEq

/-- The statements of a confirmed `clear_all_data` that are still to come. -/
inductive Clearing where
  | clearList
  | deleteRows
  | setCount
  | resetCid
  deriving DecidableEq

/-- A handler that is midway. -/
inductive Frame where
  /-- `import_from_csv` in its file dialog. -/
  | importFile
  /-- `import_from_csv` in its loop. -/
  | importRows (counts : ImportCounts) (first_row : Bool) (names : Csv.Row) (rows : List Csv.Row)
      (ending : Csv.Ending)
  /-- `export_to_csv` in its file dialog. -/
  | exportFile
  /-- `clear_all_data` in its question. -/
  | clearConfirm
  /-- `clear_all_data` after the answer yes. -/
  | clearing (at_ : Clearing)
  /-- A handler in its last message box. -/
  | notice (n : Notice)
  deriving DecidableEq

/-- Does the event loop run while this frame is on top? -/
def Frame.isDialog : Frame → Bool
  | .importRows .. => false
  | .clearing _ => false
  | _ => true

/-- The whole program. -/
structure Sys where
  gui : Gui
  pending : List Callback
  monitor : Monitor
  main : List Frame

/-- The program after `__init__`. -/
def Sys.start : Sys := ⟨.start, [], .idle, []⟩

def Sys.shared (s : Sys) : Shared := ⟨s.gui.current_cid, s.pending⟩

def Sys.setShared (s : Sys) (sh : Shared) : Sys :=
  { s with gui := { s.gui with current_cid := sh.current_cid }, pending := sh.pending }

/-- Can the main thread take up an event? -/
def Sys.takesEvents (s : Sys) : Bool :=
  match s.main with
  | [] => true
  | frame :: _ => frame.isDialog

def Sys.push (s : Sys) (frame : Frame) : Sys := { s with main := frame :: s.main }

/-- What happens next, with everything the outside decides. -/
inductive Act where
  /-- The monitor starts a round. -/
  | poll (env : PollEnv)
  /-- The monitor takes its next statement. -/
  | monitor (now : Str)
  /-- The event loop runs the posted callback at this place of the queue. -/
  | deliver (i : Nat) (insertOk : Bool)
  /-- The user types in the entry boxes. -/
  | typeProject (text : Str)
  | typeSchool (text : Str)
  /-- The buttons. -/
  | pressImport
  | pressExport
  | pressClear
  | pressDetails (selected : Option TableRow)
  /-- The open dialogs: a file or `none`, did the writing succeed, yes or no. -/
  | chooseImport (file : Option Csv.Input)
  | chooseExport (written : Option Bool)
  | answerClear (yes : Bool)
  | closeNotice
  /-- The main thread takes its next statement. -/
  | importRow (env : RowEnv)
  | clearNext

/-- The frame of an import whose file has been chosen. -/
def importFrame : Csv.Input → Frame
  | .raised => .notice (.importEnd .failed)
  | .noHeader => .notice (.importEnd .failed)
  | .table names rows ending =>
    if headerAccepted names then .importRows ⟨0, 0, 0⟩ true names rows ending
    else .notice (.importEnd .refused)

/-- The next statement of a confirmed `clear_all_data`. -/
def clearStep (g : Gui) : Clearing → Gui × Frame
  | .clearList => ({ g with card_data_list := [] }, .clearing .deleteRows)
  | .deleteRows => ({ g with tree := [] }, .clearing .setCount)
  | .setCount => ({ g with data_count := 0 }, .clearing .resetCid)
  | .resetCid => ({ g with current_cid := none }, .notice .cleared)

/-- Running one posted callback on the main thread. -/
def runCallback (s : Sys) (callback : Callback) (insertOk : Bool) : Sys :=
  match callback with
  | .card_status _ => s
  | .add_card_to_table card_info =>
    match add_card_to_table s.gui card_info insertOk with
    -- the warning is modal, so that other handlers may run below it
    | none => s.push (.notice (.duplicate card_info.cid))
    | some gui => { s with gui }

/-- The buttons. `view_details` opens a window of its own and changes nothing
    here. -/
def press (s : Sys) : Act → Sys
  | .pressImport => s.push .importFile
  | .pressExport =>
    s.push (if s.gui.card_data_list = [] then .notice .exportEmpty else .exportFile)
  | .pressClear => if s.gui.card_data_list = [] then s else s.push .clearConfirm
  | .pressDetails none => s.push (.notice .nothingSelected)
  | _ => s

/-- One step of the main thread in the frame on top of its stack. -/
def frameStep (s : Sys) (frame : Frame) (below : List Frame) (a : Act) : Option Sys :=
  match frame, a with
  | .importFile, .chooseImport none => some { s with main := below }
  | .importFile, .chooseImport (some file) => some { s with main := importFrame file :: below }
  | .importRows counts first_row names (cells :: rows) ending, .importRow env =>
    let loop := importRow ⟨s.gui, counts, first_row⟩ ⟨names, cells⟩ env
    some { s with
      gui := loop.gui
      main := .importRows loop.counts loop.first_row names rows ending :: below }
  -- behind the last row: the summary, or the handler of the reader's exception
  | .importRows counts first_row _ [] ending, .importRow _ =>
    let (gui, result) := finishImport ⟨s.gui, counts, first_row⟩ ending
    some { s with gui, main := .notice (.importEnd result) :: below }
  | .exportFile, .chooseExport none => some { s with main := below }
  | .exportFile, .chooseExport (some ok) =>
    some { s with main := .notice (.exportEnd ok) :: below }
  | .clearConfirm, .answerClear false => some { s with main := below }
  | .clearConfirm, .answerClear true => some { s with main := .clearing .clearList :: below }
  | .clearing at_, .clearNext =>
    let (gui, frame) := clearStep s.gui at_
    some { s with gui, main := frame :: below }
  | .notice _, .closeNotice => some { s with main := below }
  | _, _ => none

/-- One step of the program; `none` where the act is not possible. -/
def step (s : Sys) (a : Act) : Option Sys :=
  match a with
  -- the talk with the card down to the cid touches nothing shared
  | .poll env =>
    match s.monitor with
    | .idle => some { s with monitor := .begin (pollCard env) }
    | _ => none
  | .monitor now =>
    let (monitor, sh) := s.monitor.next now s.shared
    some { s.setShared sh with monitor }
  -- posted callbacks are timers of the event loop: each runs once, in any order
  | .deliver i insertOk =>
    if s.takesEvents then
      match s.pending[i]? with
      | none => none
      | some callback =>
        some (runCallback { s with pending := s.pending.eraseIdx i } callback insertOk)
    else none
  | .typeProject text =>
    if s.takesEvents then some { s with gui := { s.gui with project_name := text } } else none
  | .typeSchool text =>
    if s.takesEvents then some { s with gui := { s.gui with school_name := text } } else none
  | .pressImport | .pressExport | .pressClear | .pressDetails _ =>
    if s.takesEvents then some (press s a) else none
  | .chooseImport _ | .chooseExport _ | .answerClear _ | .closeNotice | .importRow _ | .clearNext =>
    match s.main with
    | [] => none
    | frame :: below => frameStep s frame below a

/-- The program as a transition system. -/
def program : LTS.System Sys Act where
  init := fun s => s = .start
  step := fun s a s' => step s a = some s'

/-- Runs a list of acts; `none` where one of them is not possible. -/
def runActs (s : Sys) (acts : List Act) : Option Sys := acts.foldlM step s

theorem run_of_runActs {s s' : Sys} {acts : List Act} (h : runActs s acts = some s') :
    LTS.Run program s acts s' := by
  induction acts generalizing s with
  | nil =>
    simp only [runActs, List.foldlM_nil, Option.pure_def, Option.some.injEq] at h
    exact h ▸ .nil s
  | cons a acts ih =>
    simp only [runActs, List.foldlM_cons, Option.bind_eq_bind, Option.bind_eq_some_iff] at h
    obtain ⟨s₁, hs₁, hrest⟩ := h
    exact .cons a acts hs₁ (ih hrest)

end GuiReader

end IdScan
