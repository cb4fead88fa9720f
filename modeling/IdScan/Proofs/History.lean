import IdScan.Framework.Runs
import IdScan.Proofs.Marking

/-! # The history of the records

  What whole runs of the program say about the list:

  * records stay where they are until a clearing (`records_kept`);
  * every record comes from a card that was polled or from a row of a file that
    was chosen (`records_come_from`);
  * every record that the monitor posts is accounted for once
    (`records_accounted`).
-/

namespace IdScan

namespace GuiReader

open LTS

/-! ### Until a clearing -/

/-- The list and the table of one window go on in the other. -/
def Grows (s s' : Sys) : Prop :=
  s.gui.card_data_list <+: s'.gui.card_data_list ∧ s.gui.tree <+: s'.gui.tree

theorem append_tree_prefix (g : Gui) (card_info : CardInfo) (insertOk : Bool) :
    g.tree <+: (g.append card_info insertOk).tree := by
  cases insertOk with
  | false => exact List.prefix_refl _
  | true => exact List.prefix_append _ _

theorem grows_step {s s' : Sys} {a : Act} (hclear : a ≠ .clearNext) (h : Effect s a s') :
    Grows s s' := by
  cases h with
  | poll _ _ => exact ⟨List.prefix_refl _, List.prefix_refl _⟩
  | monitor _ => exact ⟨List.prefix_refl _, List.prefix_refl _⟩
  | status _ _ _ _ _ => exact ⟨List.prefix_refl _, List.prefix_refl _⟩
  | duplicate _ _ _ _ _ _ => exact ⟨List.prefix_refl _, List.prefix_refl _⟩
  | added _ insertOk card_info _ _ _ =>
    refine ⟨?_, ?_⟩
    · show _ <+: (add_new_card s.gui card_info insertOk).card_data_list
      rw [add_new_card_list]
      exact List.prefix_append _ _
    · cases insertOk with
      | false => exact List.prefix_refl _
      | true => exact append_tree_prefix s.gui card_info true
  | quiet _ _ _ _ _ _ _ => exact ⟨List.prefix_refl _, List.prefix_refl _⟩
  | importRow env counts first_row names cells rows ending below hmain =>
    show _ <+: (importRow ⟨s.gui, counts, first_row⟩ ⟨names, cells⟩ env).gui.card_data_list ∧
      _ <+: (importRow ⟨s.gui, counts, first_row⟩ ⟨names, cells⟩ env).gui.tree
    rcases importRow_gui ⟨s.gui, counts, first_row⟩ ⟨names, cells⟩ env with
      ⟨hsame, -⟩ | ⟨cid, -, -, happ⟩
    · rw [hsame, ImportLoop.named_list, ImportLoop.named_tree]
      exact ⟨List.prefix_refl _, List.prefix_refl _⟩
    · rw [happ, Gui.append_list, ImportLoop.named_list]
      refine ⟨List.prefix_append _ _, ?_⟩
      have htree := append_tree_prefix (ImportLoop.named ⟨s.gui, counts, first_row⟩ ⟨names, cells⟩)
        (rowCardInfo ⟨names, cells⟩ cid env.now) env.insertOk
      rwa [ImportLoop.named_tree] at htree
  | importEnd _ counts first_row _ ending _ _ =>
    show _ <+: (finishImport ⟨s.gui, counts, first_row⟩ ending).1.card_data_list ∧
      _ <+: (finishImport ⟨s.gui, counts, first_row⟩ ending).1.tree
    rw [finishImport_list, finishImport_tree]
    exact ⟨List.prefix_refl _, List.prefix_refl _⟩
  | clear _ _ _ => exact absurd rfl hclear

/-- **Records are kept until a clearing.** In every run in which no confirmed
    clearing takes a statement, the list and the table only go on: no record is
    lost, changed or moved. -/
theorem records_kept (s s' : Sys) (acts : List Act) (hrun : Run program s acts s')
    (hclear : .clearNext ∉ acts) :
    s.gui.card_data_list <+: s'.gui.card_data_list ∧ s.gui.tree <+: s'.gui.tree := by
  have hrefl : ∀ t, Grows t t := fun t => ⟨List.prefix_refl _, List.prefix_refl _⟩
  have htrans : ∀ {t t' t''}, Grows t t' → Grows t' t'' → Grows t t'' := fun h h' =>
    ⟨h.1.trans h'.1, h.2.trans h'.2⟩
  refine hrun.related hrefl htrans ?_
  intro a ha t t' hstep
  exact grows_step (fun heq => hclear (heq ▸ ha)) (effect_of_step hstep)

theorem records_kept_otherRecorded :
    ∃ s s', Reachable program s ∧ s.gui.card_data_list.length = 1 ∧
      Run program s sampleRound s' ∧ s.gui.card_data_list <+: s'.gui.card_data_list := by
  have hbefore : (runActs .start otherRecorded).map (fun s => s.gui.card_data_list.length)
      = some 1 := by decide +kernel
  have hafter : ((runActs .start otherRecorded).bind fun s => runActs s sampleRound).isSome
      = true := by decide +kernel
  obtain ⟨s, hs, hlen⟩ := Option.map_eq_some_iff.mp hbefore
  rw [hs, Option.bind_some] at hafter
  obtain ⟨s', hs'⟩ := Option.isSome_iff_exists.mp hafter
  have hrun := run_of_runActs hs'
  exact ⟨s, s', (run_of_runActs hs).reachable (.init rfl), hlen, hrun,
    (records_kept s s' sampleRound hrun (by simp [sampleRound])).1⟩

/-! ### Where records come from -/

/-- An import whose loop is at these rows: it was there, it was one row before,
    or the file has just been chosen. -/
theorem importRows_mem_of_frameStep {s s' : Sys} {a : Act} {frame : Frame} {below : List Frame}
    (hmain : s.main = frame :: below) (h : frameStep s frame below a = some s')
    {counts : ImportCounts} {first_row : Bool} {names : Csv.Row} {rows : List Csv.Row}
    {ending : Csv.Ending} (hmem : .importRows counts first_row names rows ending ∈ s'.main) :
    (∃ counts first_row cells, .importRows counts first_row names (cells ++ rows) ending ∈ s.main) ∨
      a = .chooseImport (some (.table names rows ending)) ∧ headerAccepted names = true := by
  -- a frame below the top was there, and so was a top that is no such loop
  have hbelow : .importRows counts first_row names rows ending ∈ below →
      ∃ counts first_row cells,
        .importRows counts first_row names (cells ++ rows) ending ∈ s.main := by
    intro hin
    exact ⟨counts, first_row, [], by rw [hmain]; exact List.mem_cons_of_mem _ hin⟩
  have hother : ∀ top : Frame, (∀ c f n r e, top ≠ .importRows c f n r e) →
      .importRows counts first_row names rows ending ∈ top :: below →
      ∃ counts first_row cells,
        .importRows counts first_row names (cells ++ rows) ending ∈ s.main := by
    intro top htop hin
    rcases List.mem_cons.mp hin with heq | hin
    · exact absurd heq.symm (htop _ _ _ _ _)
    · exact hbelow hin
  unfold frameStep at h
  split at h <;> simp only [Option.some.injEq, reduceCtorEq] at h <;> subst h
  · exact .inl (hbelow hmem)
  · next file =>
    rcases List.mem_cons.mp hmem with htop | hin
    · cases file with
      | raised => cases htop
      | noHeader => cases htop
      | table names' rows' ending' =>
        simp only [importFrame] at htop
        split at htop
        · next hheader =>
          cases htop
          exact .inr ⟨rfl, hheader⟩
        · cases htop
    · exact .inl (hbelow hin)
  · next counts₀ first_row₀ names₀ cells₀ rows₀ ending₀ env =>
    rcases List.mem_cons.mp hmem with htop | hin
    · cases htop
      exact .inl ⟨counts₀, first_row₀, [cells₀], by rw [hmain]; exact List.mem_cons_self ..⟩
    · exact .inl (hbelow hin)
  · exact .inl (hother _ (by simp) hmem)
  · exact .inl (hbelow hmem)
  · exact .inl (hother _ (by simp) hmem)
  · exact .inl (hbelow hmem)
  · exact .inl (hother _ (by simp) hmem)
  · next at_ =>
    refine .inl (hother _ ?_ hmem)
    cases at_ <;> simp [clearStep]
  · exact .inl (hbelow hmem)

/-- A button opens at most one dialog, and no import loop. -/
theorem press_main (s : Sys) (a : Act) :
    (press s a).main = s.main ∨
      ∃ top : Frame, (∀ c f n r e, top ≠ .importRows c f n r e) ∧ (press s a).main = top :: s.main := by
  unfold press
  split
  · exact .inr ⟨_, by simp, rfl⟩
  · refine .inr ⟨_, ?_, rfl⟩
    split <;> simp
  · split
    · exact .inl rfl
    · exact .inr ⟨_, by simp, rfl⟩
  · exact .inr ⟨_, by simp, rfl⟩
  · exact .inl rfl

theorem importRows_mem_of_step {s s' : Sys} {a : Act} (h : program.step s a s')
    {counts : ImportCounts} {first_row : Bool} {names : Csv.Row} {rows : List Csv.Row}
    {ending : Csv.Ending} (hmem : .importRows counts first_row names rows ending ∈ s'.main) :
    (∃ counts first_row cells, .importRows counts first_row names (cells ++ rows) ending ∈ s.main) ∨
      a = .chooseImport (some (.table names rows ending)) ∧ headerAccepted names = true := by
  have hsame : .importRows counts first_row names rows ending ∈ s.main → ∃ counts first_row cells,
      .importRows counts first_row names (cells ++ rows) ending ∈ s.main := fun hin =>
    ⟨counts, first_row, [], hin⟩
  have hpush : ∀ top : Frame, (∀ c f n r e, top ≠ .importRows c f n r e) →
      .importRows counts first_row names rows ending ∈ top :: s.main →
      ∃ counts first_row cells,
        .importRows counts first_row names (cells ++ rows) ending ∈ s.main := by
    intro top htop hin
    rcases List.mem_cons.mp hin with heq | hin
    · exact absurd heq.symm (htop _ _ _ _ _)
    · exact hsame hin
  change step s a = some s' at h
  unfold step at h
  split at h
  case h_1 env =>
    split at h
    · cases h
      exact .inl (hsame hmem)
    · cases h
  case h_2 now =>
    cases h
    exact .inl (hsame hmem)
  case h_3 i insertOk =>
    split at h
    · split at h
      · cases h
      · next callback _ =>
        cases h
        left
        cases callback with
        | card_status _ => exact hsame hmem
        | add_card_to_table card_info =>
          unfold runCallback at hmem
          dsimp only at hmem
          split at hmem
          · exact hpush _ (by simp) hmem
          · exact hsame hmem
    · cases h
  case h_4 text =>
    split at h
    · cases h
      exact .inl (hsame hmem)
    · cases h
  case h_5 text =>
    split at h
    · cases h
      exact .inl (hsame hmem)
    · cases h
  case h_6 | h_7 | h_8 | h_9 =>
    split at h
    · cases h
      left
      rcases press_main s _ with heq | ⟨top, htop, heq⟩
      · rw [heq] at hmem
        exact hsame hmem
      · rw [heq] at hmem
        exact hpush top htop hmem
    · cases h
  case h_10 | h_11 | h_12 | h_13 | h_14 | h_15 =>
    split at h
    · cases h
    · next frame below hmain => exact importRows_mem_of_frameStep hmain h hmem

/-- The card has been polled: this is what the round found. -/
def Polled (past : List Act) (read : CardRead) : Prop :=
  ∃ env, .poll env ∈ past ∧ pollCard env = .card read

/-- The record of a card that has been polled, with the texts read behind its
    cid, at the time of that statement. -/
def FromCard (past : List Act) (card_info : CardInfo) : Prop :=
  ∃ read now, Polled past read ∧ read.cid ≠ [] ∧ .monitor now ∈ past ∧
    card_info = (readTexts read.connection read.req read.session).1.cardInfo read.cid now

/-- The record of a row of a file that has been chosen and accepted. -/
def FromFile (past : List Act) (card_info : CardInfo) : Prop :=
  ∃ names rows ending, .chooseImport (some (.table names rows ending)) ∈ past ∧
    headerAccepted names = true ∧ ∃ cells ∈ rows, ∃ cid env, rowCid ⟨names, cells⟩ = some cid ∧
      .importRow env ∈ past ∧ card_info = rowCardInfo ⟨names, cells⟩ cid env.now

theorem Polled.later {past : List Act} {read : CardRead} (h : Polled past read) (a : Act) :
    Polled (past ++ [a]) read := by
  obtain ⟨env, hmem, hfound⟩ := h
  exact ⟨env, List.mem_append_left _ hmem, hfound⟩

theorem FromCard.later {past : List Act} {card_info : CardInfo} (h : FromCard past card_info)
    (a : Act) : FromCard (past ++ [a]) card_info := by
  obtain ⟨read, now, hpolled, hcid, hmem, heq⟩ := h
  exact ⟨read, now, hpolled.later a, hcid, List.mem_append_left _ hmem, heq⟩

theorem FromFile.later {past : List Act} {card_info : CardInfo} (h : FromFile past card_info)
    (a : Act) : FromFile (past ++ [a]) card_info := by
  obtain ⟨names, rows, ending, hmem, hheader, cells, hcells, cid, env, hcid, hrow, heq⟩ := h
  exact ⟨names, rows, ending, List.mem_append_left _ hmem, hheader, cells, hcells, cid, env, hcid,
    List.mem_append_left _ hrow, heq⟩

/-- What the monitor has in its hands was polled. -/
def Monitor.From (past : List Act) : Monitor → Prop
  | .compare read => Polled past read
  | .mark read => Polled past read ∧ read.cid ≠ []
  | .announce read => Polled past read ∧ read.cid ≠ []
  | .readFields read => Polled past read ∧ read.cid ≠ []
  | .post card_info => ∀ ci ∈ card_info, FromCard past ci
  | _ => True

theorem Monitor.From.later {past : List Act} {m : Monitor} (h : m.From past) (a : Act) :
    m.From (past ++ [a]) := by
  cases m with
  | compare read => exact Polled.later h a
  | mark read => exact ⟨h.1.later a, h.2⟩
  | announce read => exact ⟨h.1.later a, h.2⟩
  | readFields read => exact ⟨h.1.later a, h.2⟩
  | post card_info => exact fun ci hci => (h ci hci).later a
  | _ => exact trivial

theorem Monitor.from_begin {past : List Act} {env : PollEnv} (h : .poll env ∈ past) :
    (Monitor.begin (pollCard env)).From past := by
  cases hfound : pollCard env with
  | nothing => exact trivial
  | noCard => exact trivial
  | card read => exact ⟨env, h, hfound⟩

/-- One statement of the monitor hands on what was polled. -/
theorem Monitor.from_next {past : List Act} {now : Str} (hnow : .monitor now ∈ past) (sh : Shared)
    {m : Monitor} (hm : m.From past)
    (hsh : ∀ ci, .add_card_to_table ci ∈ sh.pending → FromCard past ci) :
    (m.next now sh).1.From past ∧
      ∀ ci, .add_card_to_table ci ∈ (m.next now sh).2.pending → FromCard past ci := by
  have hstatus : ∀ (sh : Shared) (status : CardStatus),
      (∀ ci, .add_card_to_table ci ∈ sh.pending → FromCard past ci) →
      ∀ ci, .add_card_to_table ci ∈ (sh.post (.card_status status)).pending → FromCard past ci := by
    intro sh status h ci hci
    simp only [Shared.post, List.mem_append, List.mem_singleton, reduceCtorEq, or_false] at hci
    exact h ci hci
  cases m with
  | idle => exact ⟨trivial, hsh⟩
  | compare read =>
    simp only [Monitor.next]
    split
    · next hnew => exact ⟨⟨hm, hnew.1⟩, hsh⟩
    · split <;> exact ⟨trivial, hsh⟩
  | mark read => exact ⟨hm, hsh⟩
  | announce read => exact ⟨hm, hstatus sh _ hsh⟩
  | readFields read =>
    refine ⟨?_, hsh⟩
    intro ci hci
    rw [read_card_data_eq] at hci
    obtain rfl : _ = ci := Option.some.inj hci
    exact ⟨read, now, hm.1, hm.2, hnow, rfl⟩
  | post card_info =>
    cases card_info with
    | none => exact ⟨trivial, hsh⟩
    | some ci =>
      refine ⟨trivial, ?_⟩
      intro ci' hci'
      simp only [Monitor.next, Shared.post, List.mem_append, List.mem_singleton,
        Callback.add_card_to_table.injEq] at hci'
      rcases hci' with hci' | rfl
      · exact hsh ci' hci'
      · exact hm ci' rfl
  | announceDone => exact ⟨trivial, hstatus sh _ hsh⟩
  | announceSame => exact ⟨trivial, hstatus sh _ hsh⟩
  | noCard =>
    simp only [Monitor.next]
    split <;> exact ⟨trivial, hsh⟩
  | reset => exact ⟨trivial, hsh⟩
  | announceRemoved => exact ⟨trivial, hstatus sh _ hsh⟩

/-- The invariant, over the acts so far. -/
structure ComesFrom (past : List Act) (s : Sys) : Prop where
  list : ∀ ci ∈ s.gui.card_data_list, FromCard past ci ∨ FromFile past ci
  pending : ∀ ci, .add_card_to_table ci ∈ s.pending → FromCard past ci
  monitor : s.monitor.From past
  files : ∀ counts first_row names rows ending,
    .importRows counts first_row names rows ending ∈ s.main →
      ∃ cells, .chooseImport (some (.table names (cells ++ rows) ending)) ∈ past ∧
        headerAccepted names = true

theorem comesFrom_step {past : List Act} {s s' : Sys} {a : Act} (hs : ComesFrom past s)
    (h : program.step s a s') : ComesFrom (past ++ [a]) s' := by
  have hlater : ∀ ci, FromCard past ci ∨ FromFile past ci →
      FromCard (past ++ [a]) ci ∨ FromFile (past ++ [a]) ci := fun ci hci =>
    hci.imp (·.later a) (·.later a)
  have hlist : ∀ ci ∈ s.gui.card_data_list, FromCard (past ++ [a]) ci ∨ FromFile (past ++ [a]) ci :=
    fun ci hci => hlater ci (hs.list ci hci)
  have hpending : ∀ ci, .add_card_to_table ci ∈ s.pending → FromCard (past ++ [a]) ci :=
    fun ci hci => (hs.pending ci hci).later a
  have herase : ∀ i ci, .add_card_to_table ci ∈ s.pending.eraseIdx i → FromCard (past ++ [a]) ci :=
    fun i ci hci => hpending ci (List.mem_of_mem_eraseIdx hci)
  have hmonitor := hs.monitor.later a
  have hfiles : ∀ counts first_row names rows ending,
      .importRows counts first_row names rows ending ∈ s'.main →
        ∃ cells, .chooseImport (some (.table names (cells ++ rows) ending)) ∈ past ++ [a] ∧
          headerAccepted names = true := by
    intro counts first_row names rows ending hmem
    rcases importRows_mem_of_step h hmem with ⟨counts', first_row', cells, hbefore⟩ | ⟨rfl, hheader⟩
    · obtain ⟨cells', hchosen, hheader⟩ := hs.files _ _ _ _ _ hbefore
      refine ⟨cells' ++ cells, List.mem_append_left _ ?_, hheader⟩
      rw [List.append_assoc]
      exact hchosen
    · exact ⟨[], by simp, hheader⟩
  have hnow : a ∈ past ++ [a] := by simp
  cases effect_of_step h with
  | poll env _ => exact ⟨hlist, hpending, Monitor.from_begin hnow, hfiles⟩
  | monitor now =>
    obtain ⟨hm, hp⟩ := Monitor.from_next hnow s.shared hmonitor hpending
    exact ⟨hlist, hp, hm, hfiles⟩
  | status i _ _ _ _ => exact ⟨hlist, herase i, hmonitor, hfiles⟩
  | duplicate i _ _ _ _ _ => exact ⟨hlist, herase i, hmonitor, hfiles⟩
  | added i insertOk card_info _ hi _ =>
    refine ⟨?_, herase i, hmonitor, hfiles⟩
    intro ci hci
    rw [add_new_card_list, List.mem_append, List.mem_singleton] at hci
    rcases hci with hci | rfl
    · exact hlist ci hci
    · exact .inl (hpending ci (List.mem_of_getElem? hi))
  | quiet _ _ _ _ _ _ _ => exact ⟨hlist, hpending, hmonitor, hfiles⟩
  | importRow env counts first_row names cells rows ending below hmain =>
    refine ⟨?_, hpending, hmonitor, hfiles⟩
    intro ci hci
    rcases importRow_gui ⟨s.gui, counts, first_row⟩ ⟨names, cells⟩ env with
      ⟨hsame, -⟩ | ⟨cid, hcid, -, happ⟩
    · rw [hsame, ImportLoop.named_list] at hci
      exact hlist ci hci
    · rw [happ, Gui.append_list, ImportLoop.named_list, List.mem_append, List.mem_singleton] at hci
      rcases hci with hci | rfl
      · exact hlist ci hci
      · -- the row is one of those of the file that was chosen
        obtain ⟨before, hchosen, hheader⟩ := hs.files counts first_row names (cells :: rows) ending
          (by rw [hmain]; exact List.mem_cons_self ..)
        exact .inr ⟨names, before ++ cells :: rows, ending, List.mem_append_left _ hchosen, hheader,
          cells, by simp, cid, env, hcid, hnow, rfl⟩
  | importEnd _ counts first_row _ ending _ _ =>
    refine ⟨?_, hpending, hmonitor, hfiles⟩
    intro ci hci
    rw [finishImport_list] at hci
    exact hlist ci hci
  | clear at_ _ _ =>
    refine ⟨?_, hpending, hmonitor, hfiles⟩
    intro ci hci
    cases at_ with
    | clearList => exact absurd hci List.not_mem_nil
    | deleteRows => exact hlist ci hci
    | setCount => exact hlist ci hci
    | resetCid => exact hlist ci hci

/-- **Nothing is made up.** In every run of the program, each record of the list
    is that of a card which was polled, with the texts of that session and its
    own cid, or that of a row of a file which was chosen and accepted. -/
theorem records_come_from (acts : List Act) (s : Sys) (hrun : Run program .start acts s)
    (card_info : CardInfo) (hmem : card_info ∈ s.gui.card_data_list) :
    FromCard acts card_info ∨ FromFile acts card_info := by
  have hstart : ComesFrom [] .start :=
    ⟨by simp [Sys.start, Gui.start], by simp [Sys.start], trivial, by simp [Sys.start]⟩
  have hend : ComesFrom ([] ++ acts) s :=
    hrun.history (fun past s a s' hs hstep => comesFrom_step hs hstep) hstart
  exact hend.list card_info hmem

theorem records_come_from_otherRecorded :
    ∃ s card_info, Run program .start otherRecorded s ∧ card_info ∈ s.gui.card_data_list ∧
      (FromCard otherRecorded card_info ∨ FromFile otherRecorded card_info) := by
  have hrecorded : (runActs .start otherRecorded).map (fun s => s.gui.card_data_list.length)
      = some 1 := by decide +kernel
  obtain ⟨s, hs, hlen⟩ := Option.map_eq_some_iff.mp hrecorded
  obtain ⟨card_info, hlist⟩ := List.length_eq_one_iff.mp hlen
  have hrun := run_of_runActs hs
  have hmem : card_info ∈ s.gui.card_data_list := by simp [hlist]
  exact ⟨s, card_info, hrun, hmem, records_come_from otherRecorded s hrun card_info hmem⟩

/-! ### The account of the records -/

/-- The record a callback carries. -/
def Callback.record? : Callback → Option CardInfo
  | .card_status _ => none
  | .add_card_to_table card_info => some card_info

/-- The records that wait to be added. -/
def waiting (pending : List Callback) : List CardInfo := pending.filterMap Callback.record?

/-- What has become of the records so far. -/
structure Ledger where
  /-- Records the monitor has posted. -/
  posted : List CardInfo
  /-- Records that `add_card_to_table` put in the list, and those it only warned
      of. -/
  added : List CardInfo
  duplicate : List CardInfo
  /-- Records that rows of files put in the list. -/
  imported : List CardInfo
  /-- Records that clearings took out of the list. -/
  cleared : List CardInfo

def Ledger.start : Ledger := ⟨[], [], [], [], []⟩

/-- The entry of one step, by what the step did to the queue, to the list and to
    the dialogs. -/
def Ledger.write (s : Sys) (a : Act) (s' : Sys) (ledger : Ledger) : Ledger :=
  let gained := s'.gui.card_data_list.drop s.gui.card_data_list.length
  let lost := s.gui.card_data_list.drop s'.gui.card_data_list.length
  match a with
  | .monitor _ =>
    { ledger with posted := ledger.posted ++ waiting (s'.pending.drop s.pending.length) }
  | .deliver i _ =>
    match s.pending[i]?.bind Callback.record? with
    | none => ledger
    | some card_info =>
      if s'.main = .notice (.duplicate card_info.cid) :: s.main then
        { ledger with duplicate := ledger.duplicate ++ [card_info] }
      else { ledger with added := ledger.added ++ gained }
  | .importRow _ => { ledger with imported := ledger.imported ++ gained }
  | .clearNext => { ledger with cleared := ledger.cleared ++ lost }
  | _ => ledger

/-- The program with its ledger. -/
def audited : System (Sys × Ledger) Act := program.audit .start Ledger.write

/-- The accounts are balanced, record by record. -/
structure Balanced (s : Sys) (ledger : Ledger) : Prop where
  posted : ledger.posted.Perm (ledger.added ++ ledger.duplicate ++ waiting s.pending)
  stored : (s.gui.card_data_list ++ ledger.cleared).Perm (ledger.added ++ ledger.imported)
  known : ∀ card_info ∈ ledger.duplicate, ∃ known ∈ ledger.added ++ ledger.imported,
    known.cid = card_info.cid

/-- Taking one callback out of the queue takes out its record. -/
theorem waiting_perm_eraseIdx {pending : List Callback} {i : Nat} {callback : Callback}
    (hi : pending[i]? = some callback) :
    (waiting pending).Perm (callback.record?.toList ++ waiting (pending.eraseIdx i)) := by
  obtain ⟨hlt, hget⟩ := List.getElem?_eq_some_iff.mp hi
  have hperm := (List.getElem_cons_eraseIdx_perm hlt).filterMap Callback.record?
  rw [hget, List.filterMap_cons] at hperm
  cases hrecord : callback.record? with
  | none =>
    rw [hrecord] at hperm
    exact hperm.symm
  | some card_info =>
    rw [hrecord] at hperm
    exact hperm.symm

/-- A statement of the monitor only adds to the queue. -/
theorem Monitor.pending_prefix (m : Monitor) (now : Str) (sh : Shared) :
    sh.pending <+: (m.next now sh).2.pending := by
  have hpost : ∀ callback, sh.pending <+: (sh.post callback).pending := fun _ =>
    List.prefix_append _ _
  cases m with
  | compare read =>
    simp only [Monitor.next]
    split
    · exact List.prefix_rfl
    · split <;> exact List.prefix_rfl
  | announce read => exact hpost _
  | post card_info =>
    cases card_info with
    | none => exact List.prefix_rfl
    | some card_info => exact hpost _
  | announceDone => exact hpost _
  | announceSame => exact hpost _
  | noCard =>
    simp only [Monitor.next]
    split <;> exact List.prefix_rfl
  | announceRemoved => exact hpost _
  | _ => exact List.prefix_rfl

/-- A step that changes neither list nor queue, and delivers nothing, has an
    empty entry. -/
theorem balanced_of_same {s s' : Sys} {a : Act} {ledger : Ledger} (hs : Balanced s ledger)
    (hlist : s'.gui.card_data_list = s.gui.card_data_list) (hpending : s'.pending = s.pending)
    (hact : ∀ i insertOk, a ≠ .deliver i insertOk) : Balanced s' (ledger.write s a s') := by
  have hentry : ledger.write s a s' = ledger := by
    unfold Ledger.write
    rw [hlist, hpending, List.drop_length, List.drop_length]
    cases a with
    | deliver i insertOk => exact absurd rfl (hact i insertOk)
    | _ => simp [waiting]
  rw [hentry]
  refine ⟨?_, ?_, hs.known⟩
  · rw [hpending]
    exact hs.posted
  · rw [hlist]
    exact hs.stored

/-- What a row puts behind the list is in its entry. -/
theorem balanced_importRow {s s' : Sys} {env : RowEnv} {ledger : Ledger} (hs : Balanced s ledger)
    (gained : List CardInfo) (hpending : s'.pending = s.pending)
    (hlist : s'.gui.card_data_list = s.gui.card_data_list ++ gained) :
    Balanced s' (ledger.write s (.importRow env) s') := by
  have hentry : ledger.write s (.importRow env) s'
      = { ledger with imported := ledger.imported ++ gained } := by
    simp only [Ledger.write, hlist, List.drop_left]
  rw [hentry]
  refine ⟨?_, ?_, ?_⟩
  · rw [hpending]
    exact hs.posted
  · have hstored := List.perm_iff_count.mp hs.stored
    rw [hlist, List.perm_iff_count]
    intro card_info
    have hcount := hstored card_info
    simp only [List.count_append] at hcount ⊢
    omega
  · intro card_info hmem
    obtain ⟨known, hknown, hcid⟩ := hs.known card_info hmem
    refine ⟨known, ?_, hcid⟩
    rw [← List.append_assoc]
    exact List.mem_append_left _ hknown

theorem balanced_step {s s' : Sys} {a : Act} {ledger : Ledger} (hs : Balanced s ledger)
    (h : program.step s a s') : Balanced s' (ledger.write s a s') := by
  have hposted := List.perm_iff_count.mp hs.posted
  have hstored := List.perm_iff_count.mp hs.stored
  cases effect_of_step h with
  | poll _ _ => exact ⟨hs.posted, hs.stored, hs.known⟩
  | monitor now =>
    obtain ⟨posts, hposts⟩ := s.monitor.pending_prefix now s.shared
    have hpending : (s.monitor.next now s.shared).2.pending = s.pending ++ posts := hposts.symm
    refine ⟨?_, hs.stored, hs.known⟩
    show (ledger.posted ++ waiting ((s.monitor.next now s.shared).2.pending.drop _)).Perm
      (ledger.added ++ ledger.duplicate ++ waiting (s.monitor.next now s.shared).2.pending)
    rw [hpending, List.drop_left, List.perm_iff_count]
    intro card_info
    have hcount := hposted card_info
    simp only [waiting, List.filterMap_append, List.count_append] at hcount ⊢
    omega
  | status i insertOk status _ hi =>
    have hqueue := waiting_perm_eraseIdx hi
    have hentry : ledger.write s (.deliver i insertOk) { s with pending := s.pending.eraseIdx i }
        = ledger := by simp [Ledger.write, hi, Callback.record?]
    rw [hentry]
    exact ⟨hs.posted.trans (hqueue.append_left _), hs.stored, hs.known⟩
  | duplicate i insertOk card_info _ hi hdup =>
    have hqueue := List.perm_iff_count.mp (waiting_perm_eraseIdx hi)
    have hentry : ledger.write s (.deliver i insertOk)
          (Sys.push { s with pending := s.pending.eraseIdx i }
            (.notice (.duplicate card_info.cid)))
        = { ledger with duplicate := ledger.duplicate ++ [card_info] } := by
      simp [Ledger.write, hi, Callback.record?, Sys.push]
    rw [hentry]
    refine ⟨?_, hs.stored, ?_⟩
    · rw [List.perm_iff_count]
      intro other
      have hcount := hposted other
      have hone := hqueue other
      simp only [Sys.push, Callback.record?, Option.toList_some, List.count_append]
        at hcount hone ⊢
      omega
    · -- the record that was found is in the list, and so in the accounts
      intro other hmem
      rcases List.mem_append.mp hmem with hmem | hmem
      · exact hs.known other hmem
      · obtain rfl := List.mem_singleton.mp hmem
        obtain ⟨known, hknown, hcid⟩ := Gui.hasCid_iff.mp hdup
        exact ⟨known, hs.stored.subset (List.mem_append_left _ hknown), hcid⟩
  | added i insertOk card_info _ hi hnew =>
    have hqueue := List.perm_iff_count.mp (waiting_perm_eraseIdx hi)
    have hentry : ledger.write s (.deliver i insertOk)
          { s with
            pending := s.pending.eraseIdx i
            gui := add_new_card s.gui card_info insertOk }
        = { ledger with added := ledger.added ++ [card_info] } := by
      simp [Ledger.write, hi, Callback.record?]
    rw [hentry]
    refine ⟨?_, ?_, ?_⟩
    · rw [List.perm_iff_count]
      intro other
      have hcount := hposted other
      have hone := hqueue other
      simp only [Callback.record?, Option.toList_some, List.count_append] at hcount hone ⊢
      omega
    · rw [add_new_card_list, List.perm_iff_count]
      intro other
      have hcount := hstored other
      simp only [List.count_append] at hcount ⊢
      omega
    · intro other hmem
      obtain ⟨known, hknown, hcid⟩ := hs.known other hmem
      refine ⟨known, ?_, hcid⟩
      rcases List.mem_append.mp hknown with hknown | hknown
      · exact List.mem_append_left _ (List.mem_append_left _ hknown)
      · exact List.mem_append_right _ hknown
  | quiet _ _ _ _ _ hact _ => exact balanced_of_same hs rfl rfl hact
  | importRow env counts first_row names cells rows ending below hmain =>
    -- the row is skipped, or it puts its record behind the others
    rcases importRow_gui ⟨s.gui, counts, first_row⟩ ⟨names, cells⟩ env with
      ⟨hsame, -⟩ | ⟨cid, -, -, happ⟩
    · refine balanced_importRow hs [] rfl ?_
      simp only [hsame, ImportLoop.named_list, List.append_nil]
    · refine balanced_importRow hs [rowCardInfo ⟨names, cells⟩ cid env.now] rfl ?_
      simp only [happ, Gui.append_list, ImportLoop.named_list]
  | importEnd env counts first_row names ending below hmain =>
    refine balanced_importRow hs [] rfl ?_
    simp only [finishImport_list, List.append_nil]
  | clear at_ below hmain =>
    cases at_ with
    | clearList =>
      refine ⟨hs.posted, ?_, hs.known⟩
      show ([] ++ (ledger.cleared ++ s.gui.card_data_list)).Perm (ledger.added ++ ledger.imported)
      rw [List.perm_iff_count]
      intro card_info
      have hcount := hstored card_info
      simp only [List.nil_append, List.count_append] at hcount ⊢
      omega
    | deleteRows => exact balanced_of_same hs rfl rfl (by simp)
    | setCount => exact balanced_of_same hs rfl rfl (by simp)
    | resetCid => exact balanced_of_same hs rfl rfl (by simp)

/-- **Every record is accounted for**, in every run of the program: the records
    the monitor posted are, up to their order, those that were added, those that
    were warned of, and those that still wait; the records that were added or
    imported are in the list or were cleared; and whatever was warned of has the
    cid of a record that was added or imported. -/
theorem records_accounted (s : Sys) (ledger : Ledger) (h : Reachable audited (s, ledger)) :
    ledger.posted.Perm (ledger.added ++ ledger.duplicate ++ waiting s.pending) ∧
      (s.gui.card_data_list ++ ledger.cleared).Perm (ledger.added ++ ledger.imported) ∧
      ∀ card_info ∈ ledger.duplicate, ∃ known ∈ ledger.added ++ ledger.imported,
        known.cid = card_info.cid := by
  have hbalanced : ∀ p : Sys × Ledger, Reachable audited p → Balanced p.1 p.2 := by
    intro p hp
    refine @Reachable.invariant _ _ audited (fun p => Balanced p.1 p.2) ?_ ?_ p hp
    · rintro ⟨s, ledger⟩ ⟨rfl, rfl⟩
      exact ⟨.nil, .nil, by simp [Ledger.start]⟩
    · intro p a p' hs hstep
      rw [hstep.2]
      exact balanced_step hs hstep.1
  have hs := hbalanced (s, ledger) h
  exact ⟨hs.posted, hs.stored, hs.known⟩

/-- One record was read from a card. -/
theorem records_accounted_otherRecorded :
    ∃ s ledger, Reachable audited (s, ledger) ∧ s.gui.card_data_list.length = 1 ∧
      ledger.posted.Perm (ledger.added ++ ledger.duplicate ++ waiting s.pending) ∧
      (s.gui.card_data_list ++ ledger.cleared).Perm (ledger.added ++ ledger.imported) ∧
      ∀ card_info ∈ ledger.duplicate, ∃ known ∈ ledger.added ++ ledger.imported,
        known.cid = card_info.cid := by
  have hrecorded : (runActs .start otherRecorded).map (fun s => s.gui.card_data_list.length)
      = some 1 := by decide +kernel
  obtain ⟨s, hs, hlen⟩ := Option.map_eq_some_iff.mp hrecorded
  have hreach : Reachable program s := (run_of_runActs hs).reachable (.init rfl)
  obtain ⟨ledger, haudited⟩ := hreach.audit
  exact ⟨s, ledger, haudited, hlen, records_accounted s ledger haudited⟩

end GuiReader

end IdScan
