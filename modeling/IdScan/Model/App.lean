import IdScan.Model.System

/-! # The whole application: the reader, the status line, and closing

  What `Model.System` leaves to the outside of a round is done here by the code:
  the loop of `monitor_card` around its card part, `find_reader`, which both
  threads run on the shared `self.reader`, `refresh_reader`, the two status
  labels, and `on_closing`. Both threads take their statements one by one.
-/

namespace IdScan

namespace GuiReader

/-! ### The labels -/

/-- The foregrounds of the labels. -/
inductive Colour where
  | orange | gray | green | blue | red
  deriving DecidableEq

/-- A label, with its text and its foreground. -/
structure Label where
  text : Str
  foreground : Colour
  deriving DecidableEq

/-- What `update_card_status` is called with. -/
def CardStatus.label : CardStatus → Label
  | .reading => ⟨"🔄 กำลังอ่านข้อมูล...".toList, .orange⟩
  | .readDone => ⟨"✓ อ่านสำเร็จ - รอถอดบัตร".toList, .green⟩
  | .sameCard => ⟨"⏸️ บัตรใบเดิม - รอถอดบัตร".toList, .blue⟩
  | .removed => ⟨"⏳ รอเสียบบัตรใหม่".toList, .gray⟩

/-- The card label of `setup_ui`. -/
def cardLabelStart : Label := ⟨"รอเสียบบัตร".toList, .gray⟩

/-- The reader label of `setup_ui`. -/
def readerLabelStart : Label := ⟨"กำลังค้นหา...".toList, .orange⟩

/-! ### `find_reader` -/

/-- What `readers()` answers: the names of the readers, or the text of what it
    raises. -/
abbrev ReaderList := Except Str (List Str)

/-- Where a thread is in `find_reader`. -/
inductive FindReader where
  /-- Before `readers()`. -/
  | call
  /-- Before `self.reader = reader_list[0]`. -/
  | assign (first : Str)
  /-- Before the text of a reader that is found. -/
  | showFound
  /-- Before the posting of its colour. -/
  | postFound
  /-- Before the text of the two other outcomes. -/
  | showMissing (text : Str)
  | postMissing
  deriving DecidableEq

/-- What the two threads share of the reader: the reader, by its name, and its
    label. `posted` are the colours given to `root.after`. -/
structure ReaderPart where
  reader : Option Str
  label : Label
  posted : List Colour
  deriving DecidableEq

/-- `f"✓ {self.reader}"`. -/
def foundText (reader : Option Str) : Str := "✓ ".toList ++ reader.getD "None".toList

def missingText : Str := "✗ ไม่พบ Reader".toList

def errorText (e : Str) : Str := "✗ Error: ".toList ++ e

/-- The next statement of `find_reader`, with the answer of `readers()`; `none`
    where it returns. -/
def FindReader.next (answer : ReaderList) (part : ReaderPart) :
    FindReader → Option FindReader × ReaderPart
  | .call =>
    match answer with
    | .ok (first :: _) => (some (.assign first), part)
    | .ok [] => (some (.showMissing missingText), part)
    | .error e => (some (.showMissing (errorText e)), part)
  | .assign first => (some .showFound, { part with reader := some first })
  -- the reader is looked at again here, and the other thread may have dropped it
  | .showFound =>
    (some .postFound, { part with label := { part.label with text := foundText part.reader } })
  | .postFound => (none, { part with posted := part.posted ++ [.green] })
  | .showMissing text =>
    (some .postMissing, { part with label := { part.label with text } })
  | .postMissing => (none, { part with posted := part.posted ++ [.red] })

/-- Does the next statement use the window? -/
def FindReader.usesWindow : FindReader → Bool
  | .call => false
  | .assign _ => false
  | _ => true

/-- Does the next statement of the card part post to the window? -/
def Monitor.usesWindow : Monitor → Bool
  | .announce _ => true
  | .post card_info => card_info.isSome
  | .announceDone => true
  | .announceSame => true
  | .announceRemoved => true
  | _ => false

/-! ### State -/

/-- Where the monitor is in its loop. -/
inductive Round where
  /-- Before `while self.monitoring`. -/
  | loop
  /-- Before `if not self.reader`. -/
  | testReader
  | find (at_ : FindReader)
  /-- Before `self.reader.createConnection()`. -/
  | connect
  /-- In the card part, where the monitor of `Sys` says. -/
  | card
  /-- The thread has ended. -/
  | ended
  deriving DecidableEq

/-- The window is there, in `on_closing` before `root.destroy()`, or gone. -/
inductive Life where
  | opened | closing | closed
  deriving DecidableEq

/-- The application. -/
structure App where
  sys : Sys
  readerPart : ReaderPart
  card_status : Label
  monitoring : Bool
  round : Round
  /-- `refresh_reader` midway on the main thread. -/
  refresh : Option FindReader
  life : Life

/-- The application after `__init__`, with its monitor started. -/
def App.start : App where
  sys := .start
  readerPart := ⟨none, readerLabelStart, []⟩
  card_status := cardLabelStart
  monitoring := true
  round := .loop
  refresh := none
  life := .opened

/-- Is the main thread free to take a statement of the window? -/
def App.mainFree (s : App) : Bool := s.life = .opened && s.refresh.isNone

/-- Can the main thread take up an event? -/
def App.takesEvents (s : App) : Bool := s.mainFree && s.sys.takesEvents

/-! ### Steps -/

/-- What a reader does when it is asked for a connection. -/
inductive Link where
  | raises (e : PyExc)
  | connected (atr : List UInt8) (connection : Connection)

/-- What the round finds at the reader. -/
def Link.env : Link → PollEnv
  | .raises e => .connectRaises e
  | .connected atr connection => .connected atr connection

/-- What happens next, with everything the outside decides. -/
inductive AppAct where
  /-- The monitor takes its next statement outside of the card part. -/
  | round (answer : ReaderList) (link : Link)
  /-- The monitor takes its next statement in the card part. -/
  | card (now : Str)
  /-- The user or the event loop does what `Act` says. -/
  | window (a : Act)
  /-- The refresh button, and the next statement behind it. -/
  | pressRefresh
  | refreshNext (answer : ReaderList)
  /-- The event loop runs the posted `config` at this place of the queue. -/
  | deliverColour (i : Nat)
  /-- The window is closed, and then destroyed. -/
  | pressClose
  | destroy

/-- Is this an act of the monitor thread? -/
def Act.ofMonitor : Act → Bool
  | .poll _ => true
  | .monitor _ => true
  | _ => false

def AppAct.ofMonitor : AppAct → Bool
  | .round _ _ => true
  | .card _ => true
  | _ => false

/-- The card label once the act is done. -/
def App.shown (s : App) : Act → Label
  | .deliver i _ =>
    match s.sys.pending[i]? with
    | some (.card_status status) => status.label
    | _ => s.card_status
  | _ => s.card_status

/-- The next statement of the monitor outside of its card part. -/
def App.roundStep (s : App) (answer : ReaderList) (link : Link) : Option App :=
  match s.round with
  | .loop => some { s with round := if s.monitoring then .testReader else .ended }
  | .testReader => some { s with round := if s.readerPart.reader.isSome then .connect else .find .call }
  | .find at_ =>
    -- what `find_reader` raises itself ends in the handler of the round
    if s.life = .closed ∧ at_.usesWindow then some { s with round := .loop }
    else
      let (next, readerPart) := at_.next answer s.readerPart
      some { s with readerPart, round := next.elim .loop .find }
  | .connect =>
    match s.readerPart.reader with
    -- dropped since the test: the `AttributeError` ends in the same handler
    | none => some { s with round := .loop }
    | some _ =>
      some { s with sys := { s.sys with monitor := .begin (pollCard link.env) }, round := .card }
  | .card => none
  | .ended => none

/-- The next statement of the monitor in its card part. -/
def App.cardStep (s : App) (now : Str) : Option App :=
  match s.round, s.sys.monitor with
  | .card, .idle => some { s with round := .loop }
  | .card, monitor =>
    -- posting to a window that is gone raises, and ends the round
    if s.life = .closed ∧ monitor.usesWindow then
      some { s with sys := { s.sys with monitor := .idle }, round := .loop }
    else
      let (monitor, sh) := monitor.next now s.sys.shared
      some { s with sys := { s.sys.setShared sh with monitor } }
  | _, _ => none

/-- One step of the application; `none` where the act is not possible. -/
def App.step (s : App) : AppAct → Option App
  | .round answer link => s.roundStep answer link
  | .card now => s.cardStep now
  | .window a =>
    if s.mainFree ∧ ¬ a.ofMonitor then
      (GuiReader.step s.sys a).map fun sys => { s with sys, card_status := s.shown a }
    else none
  | .pressRefresh =>
    if s.takesEvents then
      some { s with readerPart := { s.readerPart with reader := none }, refresh := some .call }
    else none
  | .refreshNext answer =>
    match s.refresh with
    | none => none
    | some at_ =>
      let (refresh, readerPart) := at_.next answer s.readerPart
      some { s with readerPart, refresh }
  | .deliverColour i =>
    if s.takesEvents then
      match s.readerPart.posted[i]? with
      | none => none
      | some foreground =>
        some { s with
          readerPart := { s.readerPart with
            label := { s.readerPart.label with foreground }
            posted := s.readerPart.posted.eraseIdx i } }
    else none
  | .pressClose =>
    if s.takesEvents then some { s with monitoring := false, life := .closing } else none
  -- the handlers below are left by exceptions, and there is no window to show it
  | .destroy => if s.life = .closing then some { s with life := .closed } else none

/-- The application as a transition system. -/
def application : LTS.System App AppAct where
  init := fun s => s = .start
  step := fun s a s' => s.step a = some s'

/-- Runs a list of acts; `none` where one of them is not possible or does not
    meet the condition. -/
def runApp (ok : App → AppAct → App → Prop) [∀ s a s', Decidable (ok s a s')] (s : App)
    (acts : List AppAct) : Option App :=
  acts.foldlM (fun s a => (s.step a).filter fun s' => decide (ok s a s')) s

theorem run_of_runApp {ok : App → AppAct → App → Prop} [∀ s a s', Decidable (ok s a s')]
    {s s' : App} {acts : List AppAct} (h : runApp ok s acts = some s') :
    LTS.Run (application.restrict ok) s acts s' := by
  induction acts generalizing s with
  | nil =>
    simp only [runApp, List.foldlM_nil, Option.pure_def, Option.some.injEq] at h
    exact h ▸ .nil s
  | cons a acts ih =>
    simp only [runApp, List.foldlM_cons, Option.bind_eq_bind, Option.bind_eq_some_iff] at h
    obtain ⟨s₁, hs₁, hrest⟩ := h
    rw [Option.filter_eq_some_iff] at hs₁
    exact .cons a acts ⟨hs₁.1, of_decide_eq_true hs₁.2⟩ (ih hrest)

theorem reachable_of_runApp {ok : App → AppAct → App → Prop} [∀ s a s', Decidable (ok s a s')]
    {s s' : App} {acts : List AppAct} (hs : LTS.Reachable (application.restrict ok) s)
    (h : runApp ok s acts = some s') : LTS.Reachable (application.restrict ok) s' :=
  (run_of_runApp h).reachable hs

end GuiReader

end IdScan
