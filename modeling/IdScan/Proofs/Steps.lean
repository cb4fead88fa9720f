import IdScan.Model.System

/-! # What one step of the program can do

  Every invariant of the program is proved from `effect_of_step`, which lists
  once what a step changes and under which guard. Steps that only open, close
  or exchange dialogs, or change the two entry boxes, are one case: `quiet`.
-/

namespace IdScan

namespace GuiReader

open LTS

/-! ### The stack of handlers -/

/-- A frame that may be put on the stack where the event loop runs. -/
def Frame.opensQuietly (frame : Frame) : Prop :=
  ∀ at_, frame = .clearing at_ → at_ = .clearList

/-- What a quiet step does to the stack. -/
inductive StackMove : List Frame → List Frame → Prop where
  | same (main : List Frame) : StackMove main main
  | push {main : List Frame} (frame : Frame) (htop : ∀ top ∈ main.head?, top.isDialog = true)
      (hframe : frame.opensQuietly) : StackMove main (frame :: main)
  | pop (frame : Frame) (below : List Frame) (hframe : frame.isDialog = true) :
      StackMove (frame :: below) below
  | replace (frame frame' : Frame) (below : List Frame) (hframe : frame.isDialog = true)
      (hframe' : frame'.opensQuietly) : StackMove (frame :: below) (frame' :: below)

/-- Only the top of the stack can be a frame without an event loop. -/
def StackOk (main : List Frame) : Prop := ∀ frame ∈ main.tail, frame.isDialog = true

theorem StackOk.of_cons {frame : Frame} {below : List Frame} (h : StackOk (frame :: below)) :
    StackOk below := fun f hf => h f (List.mem_of_mem_tail hf)

/-- Exchanging the top keeps the stack in order. -/
theorem StackOk.replace {frame : Frame} {below : List Frame} (h : StackOk (frame :: below))
    (frame' : Frame) : StackOk (frame' :: below) := h

theorem StackMove.stackOk {main main' : List Frame} (h : StackMove main main')
    (hok : StackOk main) : StackOk main' := by
  cases h with
  | same => exact hok
  | push frame htop _ =>
    cases main with
    | nil => simp [StackOk]
    | cons top below =>
      -- the old top takes events, so it is a dialog like all below it
      intro f hf
      simp only [List.tail_cons, List.mem_cons] at hf
      rcases hf with rfl | hf
      · exact htop f (by simp)
      · exact hok f hf
  | pop frame below _ => exact hok.of_cons
  | replace frame frame' below _ _ => exact hok.replace frame'

/-- A quiet step neither finishes nor enters the middle of a clearing. -/
theorem StackMove.clearing_mem_iff {main main' : List Frame} (h : StackMove main main')
    {at_ : Clearing} (hat : at_ ≠ .clearList) :
    .clearing at_ ∈ main' ↔ .clearing at_ ∈ main := by
  -- only a clearing past its first statement counts, and a quiet step never
  -- puts one on the stack nor takes one off
  have hnot : ∀ frame : Frame, frame.opensQuietly ∨ frame.isDialog = true →
      Frame.clearing at_ ≠ frame := by
    rintro frame (hq | hd) rfl
    · exact hat (hq at_ rfl)
    · simp [Frame.isDialog] at hd
  cases h with
  | same => exact Iff.rfl
  | push frame _ hframe => simp [hnot frame (.inl hframe)]
  | pop frame below hframe => simp [hnot frame (.inr hframe)]
  | replace frame frame' below hframe hframe' =>
    simp [hnot frame (.inr hframe), hnot frame' (.inl hframe')]

/-! ### The effects -/

/-- What a step of the program does. -/
inductive Effect (s : Sys) : Act → Sys → Prop where
  | poll (env : PollEnv) (hidle : s.monitor = .idle) :
      Effect s (.poll env) { s with monitor := .begin (pollCard env) }
  | monitor (now : Str) :
      Effect s (.monitor now)
        { s.setShared (s.monitor.next now s.shared).2 with
          monitor := (s.monitor.next now s.shared).1 }
  | status (i : Nat) (insertOk : Bool) (status : CardStatus) (htakes : s.takesEvents = true)
      (hi : s.pending[i]? = some (.card_status status)) :
      Effect s (.deliver i insertOk) { s with pending := s.pending.eraseIdx i }
  | duplicate (i : Nat) (insertOk : Bool) (card_info : CardInfo) (htakes : s.takesEvents = true)
      (hi : s.pending[i]? = some (.add_card_to_table card_info))
      (hdup : s.gui.hasCid card_info.cid = true) :
      Effect s (.deliver i insertOk)
        (Sys.push { s with pending := s.pending.eraseIdx i } (.notice (.duplicate card_info.cid)))
  | added (i : Nat) (insertOk : Bool) (card_info : CardInfo) (htakes : s.takesEvents = true)
      (hi : s.pending[i]? = some (.add_card_to_table card_info))
      (hnew : s.gui.hasCid card_info.cid = false) :
      Effect s (.deliver i insertOk)
        { s with
          pending := s.pending.eraseIdx i
          gui := add_new_card s.gui card_info insertOk }
  | quiet (a : Act) (project school : Str) (main' : List Frame) (hmove : StackMove s.main main')
      (hact : ∀ i insertOk, a ≠ .deliver i insertOk) (hrow : ∀ env, a ≠ .importRow env) :
      Effect s a
        { s with
          gui := { s.gui with project_name := project, school_name := school }
          main := main' }
  | importRow (env : RowEnv) (counts : ImportCounts) (first_row : Bool) (names cells : Csv.Row)
      (rows : List Csv.Row) (ending : Csv.Ending) (below : List Frame)
      (hmain : s.main = .importRows counts first_row names (cells :: rows) ending :: below) :
      Effect s (.importRow env)
        { s with
          gui := (GuiReader.importRow ⟨s.gui, counts, first_row⟩ ⟨names, cells⟩ env).gui
          main := .importRows
            (GuiReader.importRow ⟨s.gui, counts, first_row⟩ ⟨names, cells⟩ env).counts
            (GuiReader.importRow ⟨s.gui, counts, first_row⟩ ⟨names, cells⟩ env).first_row
            names rows ending :: below }
  | importEnd (env : RowEnv) (counts : ImportCounts) (first_row : Bool) (names : Csv.Row)
      (ending : Csv.Ending) (below : List Frame)
      (hmain : s.main = .importRows counts first_row names [] ending :: below) :
      Effect s (.importRow env)
        { s with
          gui := (finishImport ⟨s.gui, counts, first_row⟩ ending).1
          main := .notice (.importEnd (finishImport ⟨s.gui, counts, first_row⟩ ending).2) :: below }
  | clear (at_ : Clearing) (below : List Frame) (hmain : s.main = .clearing at_ :: below) :
      Effect s .clearNext
        { s with gui := (clearStep s.gui at_).1, main := (clearStep s.gui at_).2 :: below }

theorem head_isDialog_of_takesEvents {s : Sys} (h : s.takesEvents = true) :
    ∀ top ∈ s.main.head?, top.isDialog = true := by
  unfold Sys.takesEvents at h
  split at h
  · next hmain => simp [hmain]
  · next frame below hmain => simpa [hmain] using h

/-- Opening a dialog or a message box. -/
theorem effect_push {s : Sys} {a : Act} (frame : Frame) (htakes : s.takesEvents = true)
    (hframe : frame.isDialog = true) (hact : ∀ i insertOk, a ≠ .deliver i insertOk)
    (hrow : ∀ env, a ≠ .importRow env) : Effect s a (s.push frame) :=
  .quiet a s.gui.project_name s.gui.school_name (frame :: s.main)
    (.push frame (head_isDialog_of_takesEvents htakes)
      (by rintro at_ rfl; simp [Frame.isDialog] at hframe)) hact hrow

theorem importFrame_opensQuietly (file : Csv.Input) : (importFrame file).opensQuietly := by
  intro at_ h
  unfold importFrame at h
  split at h
  · cases h
  · cases h
  · split at h <;> cases h

/-- The buttons open a dialog or do nothing here. -/
theorem effect_of_press {s : Sys} {a : Act} (htakes : s.takesEvents = true)
    (hact : ∀ i insertOk, a ≠ .deliver i insertOk) (hrow : ∀ env, a ≠ .importRow env) :
    Effect s a (press s a) := by
  -- a button that does nothing is quiet as well
  have hsame : Effect s a s :=
    .quiet a s.gui.project_name s.gui.school_name s.main (.same _) hact hrow
  unfold press
  split
  · exact effect_push _ htakes rfl hact hrow
  · refine effect_push _ htakes ?_ hact hrow
    split <;> rfl
  · split
    · exact hsame
    · exact effect_push _ htakes rfl hact hrow
  · exact effect_push _ htakes rfl hact hrow
  · exact hsame

theorem effect_of_frameStep {s s' : Sys} {a : Act} {frame : Frame} {below : List Frame}
    (hmain : s.main = frame :: below) (h : frameStep s frame below a = some s') :
    Effect s a s' := by
  have hquiet : ∀ (main' : List Frame), StackMove s.main main' →
      (∀ i insertOk, a ≠ .deliver i insertOk) → (∀ env, a ≠ .importRow env) →
      Effect s a { s with main := main' } := fun main' hmove hact hrow =>
    .quiet a s.gui.project_name s.gui.school_name main' hmove hact hrow
  have hpop : ∀ f : Frame, frame = f → f.isDialog = true → StackMove s.main below := by
    rintro f rfl hd
    exact hmain ▸ .pop frame below hd
  have hrepl : ∀ f f' : Frame, frame = f → f.isDialog = true → f'.opensQuietly →
      StackMove s.main (f' :: below) := by
    rintro f f' rfl hd hq
    exact hmain ▸ .replace frame f' below hd hq
  -- one goal for each line of `frameStep`, in its order
  unfold frameStep at h
  split at h <;> simp only [Option.some.injEq, reduceCtorEq] at h
  · subst h; exact hquiet _ (hpop _ rfl rfl) (by simp) (by simp)
  · subst h
    exact hquiet _ (hrepl _ _ rfl rfl (importFrame_opensQuietly _)) (by simp) (by simp)
  · subst h; exact .importRow _ _ _ _ _ _ _ _ hmain
  · subst h; exact .importEnd _ _ _ _ _ _ hmain
  · subst h; exact hquiet _ (hpop _ rfl rfl) (by simp) (by simp)
  · subst h
    exact hquiet _ (hrepl _ _ rfl rfl (by rintro at_ ⟨⟩)) (by simp) (by simp)
  · subst h; exact hquiet _ (hpop _ rfl rfl) (by simp) (by simp)
  · subst h
    exact hquiet _ (hrepl _ _ rfl rfl (by rintro at_ ⟨⟩; rfl)) (by simp) (by simp)
  · subst h; exact .clear _ _ hmain
  · subst h; exact hquiet _ (hpop _ rfl rfl) (by simp) (by simp)

theorem effect_of_callback {s : Sys} {i : Nat} {insertOk : Bool} {callback : Callback}
    (htakes : s.takesEvents = true) (hi : s.pending[i]? = some callback) :
    Effect s (.deliver i insertOk)
      (runCallback { s with pending := s.pending.eraseIdx i } callback insertOk) := by
  cases callback with
  | card_status st => exact .status i insertOk st htakes hi
  | add_card_to_table card_info =>
    unfold runCallback add_card_to_table
    -- the duplicate check of `add_card_to_table`
    by_cases hdup : s.gui.hasCid card_info.cid = true
    · simp only [hdup, if_true]
      exact .duplicate i insertOk card_info htakes hi hdup
    · rw [Bool.not_eq_true] at hdup
      simp only [hdup, Bool.false_eq_true, if_false]
      exact .added i insertOk card_info htakes hi hdup

/-- **Inversion of a step.** -/
theorem effect_of_step {s s' : Sys} {a : Act} (h : program.step s a s') : Effect s a s' := by
  change step s a = some s' at h
  unfold step at h
  -- one case for each line of `step`, in its order
  split at h
  case h_1 env =>
    split at h
    · next hidle =>
      simp only [Option.some.injEq] at h
      exact h ▸ .poll env hidle
    · cases h
  case h_2 now =>
    simp only [Option.some.injEq] at h
    exact h ▸ .monitor now
  case h_3 i insertOk =>
    split at h
    · next htakes =>
      split at h
      · cases h
      · next callback hi =>
        simp only [Option.some.injEq] at h
        exact h ▸ effect_of_callback htakes hi
    · cases h
  case h_4 text =>
    split at h
    · simp only [Option.some.injEq] at h
      exact h ▸ .quiet _ text s.gui.school_name s.main (.same _) (by simp) (by simp)
    · cases h
  case h_5 text =>
    split at h
    · simp only [Option.some.injEq] at h
      exact h ▸ .quiet _ s.gui.project_name text s.main (.same _) (by simp) (by simp)
    · cases h
  case h_6 | h_7 | h_8 | h_9 =>
    split at h
    · next htakes =>
      simp only [Option.some.injEq] at h
      exact h ▸ effect_of_press htakes (by simp) (by simp)
    · cases h
  case h_10 | h_11 | h_12 | h_13 | h_14 | h_15 =>
    split at h
    · cases h
    · next frame below hmain => exact effect_of_frameStep hmain h

end GuiReader

end IdScan
