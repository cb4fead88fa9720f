import Mathlib.Data.List.Perm.Basic
import IdScan.Proofs.Store

/-! # The mark of the card in the reader

  `current_cid` is the monitor's mark on the card it has taken up. Between the
  mark and the record in the list the cid travels: the monitor holds it while
  it reads the fields, then a posted callback carries it.

  Two facts about the mark, over every interleaving of the two threads:

  * a marked cid is somewhere: in the list, on its way, or about to be
    unmarked by a clearing (`Kept`);
  * as long as no clearing drops the mark of a cid that is on its way, a cid is
    in one place only (`Owned`), so its callback finds no record of its own.
-/

namespace IdScan

namespace GuiReader

open LTS

/-! ### Where a cid can be -/

/-- A posted callback that carries the cid. -/
def Callback.carries (c : Str) : Callback → Bool
  | .card_status _ => false
  | .add_card_to_table card_info => card_info.cid == c

/-- The cid the monitor has marked and not yet posted. -/
def Monitor.holding : Monitor → Option Str
  | .announce read => some read.cid
  | .readFields read => some read.cid
  | .post (some card_info) => some card_info.cid
  | _ => none

/-- Some posted callback carries the cid. -/
def Waiting (pending : List Callback) (c : Str) : Prop :=
  ∃ card_info, .add_card_to_table card_info ∈ pending ∧ card_info.cid = c

theorem waiting_iff_countP_pos {pending : List Callback} {c : Str} :
    Waiting pending c ↔ 0 < pending.countP (Callback.carries c) := by
  rw [List.countP_pos_iff]
  constructor
  · intro h
    obtain ⟨ci, hmem, hci⟩ := h
    exact ⟨_, hmem, by simpa [Callback.carries] using hci⟩
  · intro h
    obtain ⟨callback, hmem, hcarries⟩ := h
    cases callback with
    | card_status _ => simp [Callback.carries] at hcarries
    | add_card_to_table ci => exact ⟨ci, hmem, by simpa [Callback.carries] using hcarries⟩

/-- Taking one callback out of the queue takes out what it carries. -/
theorem countP_eraseIdx {pending : List Callback} {i : Nat} {callback : Callback} {c : Str}
    (hi : pending[i]? = some callback) :
    pending.countP (Callback.carries c)
      = (pending.eraseIdx i).countP (Callback.carries c)
        + if callback.carries c then 1 else 0 := by
  obtain ⟨hlt, hget⟩ := List.getElem?_eq_some_iff.mp hi
  have hperm := List.getElem_cons_eraseIdx_perm hlt
  rw [← hperm.countP_eq (Callback.carries c), hget, List.countP_cons]

/-- After a delivery a waiting cid still waits, unless it is the one delivered. -/
theorem Waiting.eraseIdx {pending : List Callback} {i : Nat} {callback : Callback} {c : Str}
    (h : Waiting pending c) (hi : pending[i]? = some callback) :
    Waiting (pending.eraseIdx i) c ∨ callback.carries c = true := by
  rw [waiting_iff_countP_pos, countP_eraseIdx hi] at h
  rw [waiting_iff_countP_pos]
  by_cases hc : callback.carries c = true
  · exact .inr hc
  · rw [if_neg hc] at h
    exact .inl h

theorem Waiting.post {sh : Shared} {c : Str} (h : Waiting sh.pending c) (callback : Callback) :
    Waiting (sh.post callback).pending c := by
  obtain ⟨ci, hmem, hci⟩ := h
  exact ⟨ci, by simp [Shared.post, hmem], hci⟩

/-- A clearing that has emptied the list and not yet reset the mark. -/
def MidClearing (main : List Frame) : Prop := ∃ at_, at_ ≠ .clearList ∧ .clearing at_ ∈ main

theorem StackMove.midClearing_iff {main main' : List Frame} (h : StackMove main main') :
    MidClearing main' ↔ MidClearing main := by
  unfold MidClearing
  refine exists_congr fun at_ => and_congr_right fun hat => h.clearing_mem_iff hat

theorem not_midClearing_of_takesEvents {s : Sys} (hok : StackOk s.main)
    (htakes : s.takesEvents = true) : ¬ MidClearing s.main := by
  intro h
  obtain ⟨at_, _, hmem⟩ := h
  exact clearing_not_mem_of_takesEvents hok htakes at_ hmem

/-- Which clearings are midway when the frame on top is known. -/
theorem midClearing_cons {frame : Frame} {below : List Frame} (hok : StackOk (frame :: below)) :
    MidClearing (frame :: below) ↔ ∃ at_, at_ ≠ .clearList ∧ frame = .clearing at_ := by
  unfold MidClearing
  refine exists_congr fun at_ => and_congr_right fun _ => ?_
  rw [List.mem_cons, or_iff_left (clearing_not_mem_below hok at_)]
  exact eq_comm

theorem stackOk_step {s s' : Sys} {a : Act} (hok : StackOk s.main) (h : Effect s a s') :
    StackOk s'.main := by
  cases h with
  | poll _ _ => exact hok
  | monitor _ => exact hok
  | status _ _ _ _ _ => exact hok
  | duplicate _ _ card_info htakes _ _ =>
    exact (StackMove.push (.notice (.duplicate card_info.cid))
      (head_isDialog_of_takesEvents htakes) (by rintro _ ⟨⟩)).stackOk hok
  | added _ _ _ _ _ _ => exact hok
  | quiet _ _ _ _ hmove _ _ => exact hmove.stackOk hok
  | importRow _ _ _ _ _ _ _ _ hmain => exact (hmain ▸ hok : StackOk (_ :: _)).replace _
  | importEnd _ _ _ _ _ _ hmain => exact (hmain ▸ hok : StackOk (_ :: _)).replace _
  | clear _ _ hmain => exact (hmain ▸ hok : StackOk (_ :: _)).replace _

/-! ### A marked cid is kept -/

/-- The places of a marked cid: the list, the queue, the monitor's hands, or a
    clearing that is about to drop the mark. -/
def KeptSomewhere (s : Sys) (c : Str) : Prop :=
  s.gui.hasCid c = true ∨ Waiting s.pending c ∨ s.monitor.holding = some c ∨ MidClearing s.main

/-- The invariant: the stack is in order, and the marked cid is kept. -/
structure Kept (s : Sys) : Prop where
  stack : StackOk s.main
  kept : ∀ c, s.gui.current_cid = some c → KeptSomewhere s c

/-- A record at the end of the list hides none of the others. -/
theorem hasCid_append {g : Gui} {card_info : CardInfo} {insertOk : Bool} {c : Str} :
    (g.append card_info insertOk).hasCid c = (g.hasCid c || card_info.cid == c) := by
  simp [Gui.hasCid]

theorem hasCid_add_new_card {g : Gui} {card_info : CardInfo} {insertOk : Bool} {c : Str} :
    (add_new_card g card_info insertOk).hasCid c = (g.hasCid c || card_info.cid == c) := by
  simp [Gui.hasCid]

/-- A row of an import only adds to the list, and does not touch the mark. -/
theorem importRow_keeps (loop : ImportLoop) (row : DictRow) (env : RowEnv) :
    (importRow loop row env).gui.current_cid = loop.gui.current_cid ∧
      ∀ c, loop.gui.hasCid c = true → (importRow loop row env).gui.hasCid c = true := by
  rcases importRow_gui loop row env with ⟨hsame, _⟩ | ⟨cid, _, _, happ⟩
  · simp [hsame]
  · refine ⟨by simp [happ], fun c hc => ?_⟩
    rw [happ, hasCid_append, ImportLoop.named_hasCid, hc, Bool.true_or]

/-- Where a cid is kept before a statement of the monitor, it is kept after it,
    and a statement that marks a cid holds it. -/
theorem Monitor.next_keeps (now : Str) (sh : Shared) (m : Monitor) (c : Str)
    (hc : (m.next now sh).2.current_cid = some c) :
    (sh.current_cid = some c ∧ (Waiting sh.pending c → Waiting (m.next now sh).2.pending c) ∧
      (m.holding = some c →
        (m.next now sh).1.holding = some c ∨ Waiting (m.next now sh).2.pending c)) ∨
    (m.next now sh).1.holding = some c := by
  cases m with
  | idle => exact .inl ⟨hc, id, .inl⟩
  | compare read =>
    left
    simp only [Monitor.next] at hc ⊢
    split at hc
    · exact ⟨hc, by simp_all, by simp [Monitor.holding]⟩
    · split at hc <;> exact ⟨hc, by simp_all, by simp [Monitor.holding]⟩
  | mark read =>
    -- the only statement that sets the mark, and the monitor holds that cid
    exact .inr hc
  | announce read => exact .inl ⟨hc, fun h => h.post _, .inl⟩
  | readFields read =>
    -- whatever the card does, a record comes back, under the same cid
    refine .inl ⟨hc, id, fun hhold => .inl ?_⟩
    simp only [Monitor.next, read_card_data_eq]
    exact hhold
  | post card_info =>
    cases card_info with
    | none => exact .inl ⟨hc, id, by simp [Monitor.holding]⟩
    | some ci =>
      -- the cid passes from the monitor to the queue
      refine .inl ⟨hc, fun h => h.post _, fun hhold => .inr ⟨ci, ?_, Option.some.inj hhold⟩⟩
      simp [Monitor.next, Shared.post]
  | announceDone => exact .inl ⟨hc, fun h => h.post _, by simp [Monitor.holding]⟩
  | announceSame => exact .inl ⟨hc, fun h => h.post _, by simp [Monitor.holding]⟩
  | noCard =>
    left
    simp only [Monitor.next] at hc ⊢
    split at hc <;> exact ⟨hc, by simp_all, by simp [Monitor.holding]⟩
  | reset => simp [Monitor.next] at hc
  | announceRemoved => exact .inl ⟨hc, fun h => h.post _, by simp [Monitor.holding]⟩

theorem kept_step {s s' : Sys} {a : Act} (hs : Kept s) (h : Effect s a s') : Kept s' := by
  refine ⟨stackOk_step hs.stack h, ?_⟩
  intro c hc
  cases h with
  | poll env hidle =>
    rcases hs.kept c hc with hhas | hwait | hhold | hclear
    · exact .inl hhas
    · exact .inr (.inl hwait)
    · simp [hidle, Monitor.holding] at hhold
    · exact .inr (.inr (.inr hclear))
  | monitor now =>
    rcases Monitor.next_keeps now s.shared s.monitor c hc with ⟨hcur, hwaits, hholds⟩ | hhold
    · rcases hs.kept c hcur with hhas | hwait | hhold | hclear
      · exact .inl hhas
      · exact .inr (.inl (hwaits hwait))
      · rcases hholds hhold with hhold' | hwait'
        · exact .inr (.inr (.inl hhold'))
        · exact .inr (.inl hwait')
      · exact .inr (.inr (.inr hclear))
    · exact .inr (.inr (.inl hhold))
  | status i _ status _ hi =>
    rcases hs.kept c hc with hhas | hwait | hrest
    · exact .inl hhas
    · rcases hwait.eraseIdx hi with hwait' | hcarries
      · exact .inr (.inl hwait')
      · simp [Callback.carries] at hcarries
    · exact .inr (.inr hrest)
  | duplicate i _ card_info htakes hi hdup =>
    rcases hs.kept c hc with hhas | hwait | hhold | hclear
    · exact .inl hhas
    · -- the callback is gone, but its record was there already
      rcases hwait.eraseIdx hi with hwait' | hcarries
      · exact .inr (.inl hwait')
      · obtain rfl : card_info.cid = c := by simpa [Callback.carries] using hcarries
        exact .inl hdup
    · exact .inr (.inr (.inl hhold))
    · exact absurd hclear (not_midClearing_of_takesEvents hs.stack htakes)
  | added i insertOk card_info htakes hi hnew =>
    rw [add_new_card_current_cid] at hc
    -- the cid passes from the queue to the list
    rcases hs.kept c hc with hhas | hwait | hrest
    · left
      rw [hasCid_add_new_card, hhas, Bool.true_or]
    · rcases hwait.eraseIdx hi with hwait' | hcarries
      · exact .inr (.inl hwait')
      · left
        rw [hasCid_add_new_card, show (card_info.cid == c) = true from hcarries, Bool.or_true]
    · exact .inr (.inr hrest)
  | quiet _ _ _ main' hmove _ _ =>
    rcases hs.kept c hc with hhas | hwait | hhold | hclear
    · exact .inl hhas
    · exact .inr (.inl hwait)
    · exact .inr (.inr (.inl hhold))
    · exact .inr (.inr (.inr (hmove.midClearing_iff.mpr hclear)))
  | importRow env counts first_row names cells rows ending below hmain =>
    obtain ⟨hcur, hhas⟩ := importRow_keeps ⟨s.gui, counts, first_row⟩ ⟨names, cells⟩ env
    rw [hcur] at hc
    rcases hs.kept c hc with h | hwait | hhold | hclear
    · exact .inl (hhas c h)
    · exact .inr (.inl hwait)
    · exact .inr (.inr (.inl hhold))
    · rw [hmain, midClearing_cons (hmain ▸ hs.stack)] at hclear
      simp at hclear
  | importEnd env counts first_row names ending below hmain =>
    rw [finishImport_current_cid] at hc
    rcases hs.kept c hc with h | hwait | hhold | hclear
    · left
      simpa [Gui.hasCid] using h
    · exact .inr (.inl hwait)
    · exact .inr (.inr (.inl hhold))
    · rw [hmain, midClearing_cons (hmain ▸ hs.stack)] at hclear
      simp at hclear
  | clear at_ below hmain =>
    -- Until the last statement the clearing itself keeps the cid.
    cases at_ with
    | clearList => exact .inr (.inr (.inr ⟨.deleteRows, by simp, by simp [clearStep]⟩))
    | deleteRows => exact .inr (.inr (.inr ⟨.setCount, by simp, by simp [clearStep]⟩))
    | setCount => exact .inr (.inr (.inr ⟨.resetCid, by simp, by simp [clearStep]⟩))
    | resetCid => simp [clearStep] at hc

theorem kept_reachable {s : Sys} (h : Reachable program s) : Kept s := by
  refine h.invariant ?_ ?_
  · intro s hs
    obtain rfl := hs
    exact ⟨by simp [Sys.start, StackOk], by simp [Sys.start, Gui.start]⟩
  · intro s a s' hs hstep
    exact kept_step hs (effect_of_step hstep)

/-- **No read card is forgotten.** Where neither a round of the monitor nor a
    handler is midway, the marked cid is in the list or in a callback that still
    waits. -/
theorem no_read_card_forgotten (s : Sys) (h : Reachable program s) (hidle : s.monitor = .idle)
    (hmain : s.main = []) (c : Str) (hc : s.gui.current_cid = some c) :
    (∃ data ∈ s.gui.card_data_list, data.cid = c) ∨
      ∃ card_info, .add_card_to_table card_info ∈ s.pending ∧ card_info.cid = c := by
  -- of the four places two are ruled out where nothing is midway
  rcases (kept_reachable h).kept c hc with hhas | hwait | hhold | ⟨at_, _, hclear⟩
  · exact .inl (Gui.hasCid_iff.mp hhas)
  · exact .inr hwait
  · simp [hidle, Monitor.holding] at hhold
  · simp [hmain] at hclear

/-- A card that answers "1" and 90 00 to everything. -/
def sampleCard : Connection := .ofCard fun _ _ => ⟨[0x31], 0x90, 0x00⟩

/-- The sample card in the reader. -/
def sampleEnv : PollEnv := .connected [0x3B, 0x68] sampleCard

def Monitor.isIdle : Monitor → Bool
  | .idle => true
  | _ => false

theorem Monitor.isIdle_iff {m : Monitor} : m.isIdle = true ↔ m = .idle := by
  cases m <;> simp [Monitor.isIdle]

/-- The round that takes up the sample card. -/
def sampleRound : List Act := .poll sampleEnv :: List.replicate 6 (.monitor [])

theorem no_read_card_forgotten_sampleRound :
    ∃ s, Reachable program s ∧ s.monitor = .idle ∧ s.main = [] ∧
      s.gui.current_cid = some ['1'] ∧ s.gui.card_data_list = [] ∧
      ((∃ data ∈ s.gui.card_data_list, data.cid = ['1']) ∨
        ∃ card_info, .add_card_to_table card_info ∈ s.pending ∧ card_info.cid = ['1']) := by
  have hrun : (runActs .start sampleRound).map
      (fun s => (s.monitor.isIdle, s.main, s.gui.current_cid, s.gui.card_data_list))
      = some (true, [], some ['1'], []) := by decide +kernel
  obtain ⟨s, hs, hend⟩ := Option.map_eq_some_iff.mp hrun
  simp only [Prod.mk.injEq] at hend
  obtain ⟨hidle, hmain, hcur, hlist⟩ := hend
  have hreach : Reachable program s := (run_of_runActs hs).reachable (.init rfl)
  exact ⟨s, hreach, Monitor.isIdle_iff.mp hidle, hmain, hcur, hlist,
    no_read_card_forgotten s hreach (Monitor.isIdle_iff.mp hidle) hmain ['1'] hcur⟩

/-! ### A card that stays in the reader -/

/-- A poll in this step finds the card with cid `c`, or no usable cid, or raises
    something other than `NoCardException`. -/
def StaysIn (c : Str) : Act → Prop
  | .poll env =>
    match pollCard env with
    | .nothing => True
    | .noCard => False
    | .card read => read.cid = c ∨ read.cid = []
  | _ => True

/-- No row of an import adds a record with cid `c` in this step. -/
def NotImported (c : Str) (s : Sys) (a : Act) (s' : Sys) : Prop :=
  ∀ env, a = .importRow env → s'.gui.hasCid c = true → s.gui.hasCid c = true

/-- Where this step resets the mark at the end of a clearing, `c` is neither in
    the monitor's hands nor in a posted callback. -/
def ResetSafe (c : Str) (s : Sys) (a : Act) : Prop :=
  a = .clearNext → s.main.head? = some (.clearing .resetCid) →
    s.monitor.holding ≠ some c ∧ ¬ Waiting s.pending c

/-- How often `c` is on its way or in the list. -/
def copies (s : Sys) (c : Str) : Nat :=
  s.pending.countP (Callback.carries c) +
    ((if s.monitor.holding = some c then 1 else 0) + if s.gui.hasCid c = true then 1 else 0)

theorem copies_mono {s s' : Sys} {c : Str}
    (hpend : s'.pending.countP (Callback.carries c) ≤ s.pending.countP (Callback.carries c))
    (hmonitor : s'.monitor = s.monitor)
    (hhas : s'.gui.hasCid c = true → s.gui.hasCid c = true) : copies s' c ≤ copies s c := by
  unfold copies
  rw [hmonitor]
  by_cases hc : s'.gui.hasCid c = true
  · rw [if_pos hc, if_pos (hhas hc)]
    omega
  · rw [if_neg hc]
    omega

/-- The monitor is about to move the mark, or has just found it missing. -/
def Monitor.movesMark (c : Str) : Monitor → Prop
  | .compare read => read.cid ≠ c ∧ read.cid ≠ []
  | .mark _ => True
  | .noCard => True
  | .reset => True
  | _ => False

/-- The invariant: `c` is in one place at most; where it is in one, the mark is
    on it and the monitor is not about to move it; and the list does not hold it
    while a clearing is midway. -/
structure Owned (c : Str) (s : Sys) : Prop where
  stack : StackOk s.main
  copies_le : copies s c ≤ 1
  marked : copies s c ≠ 0 → s.gui.current_cid = some c
  moves : s.monitor.movesMark c → copies s c = 0
  cleared : MidClearing s.main → s.gui.hasCid c = false

/-- Steps that leave the mark, the monitor and the number of copies alone. -/
theorem Owned.of_same {c : Str} {s s' : Sys} (hs : Owned c s) (hstack : StackOk s'.main)
    (hmonitor : s'.monitor = s.monitor) (hcur : s'.gui.current_cid = s.gui.current_cid)
    (hcopies : copies s' c ≤ copies s c) (hcleared : MidClearing s'.main → s'.gui.hasCid c = false) :
    Owned c s' where
  stack := hstack
  copies_le := hcopies.trans hs.copies_le
  marked h := by rw [hcur]; exact hs.marked (by omega)
  moves h := by
    rw [hmonitor] at h
    have := hs.moves h
    omega
  cleared := hcleared

@[simp] theorem countP_post_status (sh : Shared) (status : CardStatus) (c : Str) :
    (sh.post (.card_status status)).pending.countP (Callback.carries c)
      = sh.pending.countP (Callback.carries c) := by
  simp [Shared.post, Callback.carries]

/-- Statements of the monitor that leave the mark alone, and move `c` at most
    from the monitor's hands to the queue. -/
theorem Owned.of_monitor {c : Str} {s : Sys} (hs : Owned c s) (m : Monitor) (sh : Shared)
    (hcur : sh.current_cid = s.gui.current_cid)
    (hcopies : sh.pending.countP (Callback.carries c) + (if m.holding = some c then 1 else 0)
      = s.pending.countP (Callback.carries c) + if s.monitor.holding = some c then 1 else 0)
    (hmoves : m.movesMark c → copies s c = 0) :
    Owned c { s.setShared sh with monitor := m } := by
  have hsame : copies { s.setShared sh with monitor := m } c = copies s c := by
    have hhas : (s.setShared sh).gui.hasCid c = s.gui.hasCid c := rfl
    have hpend : (s.setShared sh).pending = sh.pending := rfl
    simp only [copies, hhas, hpend]
    omega
  exact {
    stack := hs.stack
    copies_le := hsame ▸ hs.copies_le
    marked := fun h => hcur.trans (hs.marked (hsame ▸ h))
    moves := fun h => hsame.trans (hmoves h)
    cleared := hs.cleared }

/-- **The monitor keeps `c` in one place.** The comparison lets `c` pass only
    where it is not marked, hence nowhere, and so the marking makes the only
    copy. -/
theorem owned_monitor {c : Str} {s : Sys} (hs : Owned c s) (now : Str) :
    Owned c { s.setShared (s.monitor.next now s.shared).2 with
      monitor := (s.monitor.next now s.shared).1 } := by
  have hmarked := hs.marked
  have hmoves := hs.moves
  cases hm : s.monitor with
  | idle => exact hs.of_monitor .idle s.shared rfl (by simp [hm, Sys.shared]) (by simp [Monitor.movesMark])
  | compare read =>
    have hcopies : s.shared.pending.countP (Callback.carries c) + 0
        = s.pending.countP (Callback.carries c)
          + if s.monitor.holding = some c then 1 else 0 := by
      simp [hm, Monitor.holding, Sys.shared]
    simp only [Monitor.next]
    split
    · next hcond =>
      -- if it is `c` that passes, its mark is missing, so there is no copy of it
      refine hs.of_monitor (.mark read) s.shared rfl hcopies fun _ => ?_
      by_cases hread : read.cid = c
      · by_contra hne
        exact hcond.2 (hread ▸ hmarked hne)
      · exact hmoves (by rw [hm]; exact ⟨hread, hcond.1⟩)
    · split
      · exact hs.of_monitor .announceSame s.shared rfl hcopies (by simp [Monitor.movesMark])
      · exact hs.of_monitor .idle s.shared rfl hcopies (by simp [Monitor.movesMark])
  | mark read =>
    have hzero : copies s c = 0 := hmoves (by simp [hm, Monitor.movesMark])
    simp only [copies, Nat.add_eq_zero_iff] at hzero
    obtain ⟨hpend, _, hhas⟩ := hzero
    -- after the mark the monitor holds the only copy, and only if it is `c`
    have hone : copies { s.setShared (Monitor.next now s.shared (.mark read)).2 with
        monitor := (Monitor.next now s.shared (.mark read)).1 } c
        = if read.cid = c then 1 else 0 := by
      have hhas' : (s.setShared (Monitor.next now s.shared (.mark read)).2).gui.hasCid c
          = s.gui.hasCid c := rfl
      simp only [copies, hhas', hhas]
      simpa [Monitor.next, Monitor.holding, Sys.setShared, Sys.shared] using hpend
    refine ⟨hs.stack, ?_, ?_, ?_, hs.cleared⟩
    · rw [hone]
      split <;> omega
    · rw [hone]
      intro h
      obtain rfl : read.cid = c := by
        by_contra hne
        exact h (if_neg hne)
      rfl
    · intro h
      exact absurd h (by simp [Monitor.next, Monitor.movesMark])
  | announce read =>
    exact hs.of_monitor (.readFields read) (s.shared.post _) rfl
      (by simp [hm, Monitor.holding, Sys.shared]) (by simp [Monitor.movesMark])
  | readFields read =>
    refine hs.of_monitor (.post _) s.shared rfl ?_ (by simp [Monitor.movesMark])
    rw [read_card_data_eq]
    simp [hm, Monitor.holding, Sys.shared, CardTexts.cardInfo]
  | post card_info =>
    -- one copy less in the hands of the monitor is one more in the queue
    cases card_info with
    | none =>
      exact hs.of_monitor .idle s.shared rfl (by simp [hm, Monitor.holding, Sys.shared])
        (by simp [Monitor.movesMark])
    | some ci =>
      refine hs.of_monitor .announceDone (s.shared.post _) rfl ?_ (by simp [Monitor.movesMark])
      simp [hm, Monitor.holding, Sys.shared, Shared.post, Callback.carries, List.countP_cons]
  | announceDone =>
    exact hs.of_monitor .idle (s.shared.post _) rfl (by simp [hm, Monitor.holding, Sys.shared])
      (by simp [Monitor.movesMark])
  | announceSame =>
    exact hs.of_monitor .idle (s.shared.post _) rfl (by simp [hm, Monitor.holding, Sys.shared])
      (by simp [Monitor.movesMark])
  | noCard =>
    have hcopies : s.shared.pending.countP (Callback.carries c) + 0
        = s.pending.countP (Callback.carries c)
          + if s.monitor.holding = some c then 1 else 0 := by
      simp [hm, Monitor.holding, Sys.shared]
    simp only [Monitor.next]
    split
    · exact hs.of_monitor .reset s.shared rfl hcopies
        (fun _ => hmoves (by simp [hm, Monitor.movesMark]))
    · exact hs.of_monitor .idle s.shared rfl hcopies (by simp [Monitor.movesMark])
  | reset =>
    have hzero : copies s c = 0 := hmoves (by simp [hm, Monitor.movesMark])
    have hsame : copies { s.setShared (Monitor.next now s.shared .reset).2 with
        monitor := (Monitor.next now s.shared .reset).1 } c = copies s c := by
      simp only [copies, hm]
      rfl
    refine ⟨hs.stack, by omega, fun h => absurd (hsame.trans hzero) h, fun _ => hsame.trans hzero,
      hs.cleared⟩
  | announceRemoved =>
    exact hs.of_monitor .idle (s.shared.post _) rfl (by simp [hm, Monitor.holding, Sys.shared])
      (by simp [Monitor.movesMark])

/-- The conditions on the steps of a run with the card `c` in the reader. -/
def LeftIn (c : Str) (s : Sys) (a : Act) (s' : Sys) : Prop :=
  StaysIn c a ∧ NotImported c s a s' ∧ ResetSafe c s a

/-- Nothing is in the monitor's hands when a round begins. -/
theorem holding_begin (found : PollFound) : (Monitor.begin found).holding = none := by
  cases found <;> rfl

theorem movesMark_begin {c : Str} {env : PollEnv} (h : StaysIn c (.poll env)) :
    ¬ (Monitor.begin (pollCard env)).movesMark c := by
  unfold StaysIn at h
  cases hfound : pollCard env with
  | nothing => simp [Monitor.begin, Monitor.movesMark]
  | noCard => simp [hfound] at h
  | card read =>
    simp only [hfound] at h
    intro h
    obtain ⟨hne, hempty⟩ := h
    exact h.elim hne hempty

theorem countP_eraseIdx_le (pending : List Callback) (i : Nat) (c : Str) :
    (pending.eraseIdx i).countP (Callback.carries c) ≤ pending.countP (Callback.carries c) :=
  (List.eraseIdx_sublist pending i).countP_le

theorem owned_step {c : Str} {s s' : Sys} {a : Act} (hs : Owned c s) (h : Effect s a s')
    (hleft : LeftIn c s a s') : Owned c s' := by
  have hstack := stackOk_step hs.stack h
  obtain ⟨hstays, himport, hreset⟩ := hleft
  cases h with
  | poll env hidle =>
    have hsame : copies { s with monitor := .begin (pollCard env) } c = copies s c := by
      simp [copies, holding_begin, hidle, show Monitor.idle.holding = none from rfl]
    exact {
      stack := hstack
      copies_le := hsame ▸ hs.copies_le
      marked := fun h => hs.marked (hsame ▸ h)
      moves := fun h => absurd h (movesMark_begin hstays)
      cleared := hs.cleared }
  | monitor now => exact owned_monitor hs now
  | status i _ _ _ hi =>
    exact hs.of_same hstack rfl rfl (copies_mono (countP_eraseIdx_le _ _ _) rfl id) hs.cleared
  | duplicate i _ card_info htakes hi _ =>
    apply hs.of_same hstack rfl rfl (copies_mono (countP_eraseIdx_le _ _ _) rfl id)
    · intro hclear
      exact absurd hclear (not_midClearing_of_takesEvents (s := Sys.push _ _) hstack rfl)
  | added i insertOk card_info htakes hi hnew =>
    refine hs.of_same hstack rfl (add_new_card_current_cid _ _ _) (le_of_eq ?_) ?_
    · simp only [copies, hasCid_add_new_card]
      rw [countP_eraseIdx hi]
      -- one copy less in the queue is one more in the list
      by_cases hc : card_info.cid = c
      · subst hc
        simp [Callback.carries, hnew]
        omega
      · simp [Callback.carries, hc]
    · intro hclear
      exact absurd hclear (not_midClearing_of_takesEvents hs.stack htakes)
  | quiet _ _ _ main' hmove _ _ =>
    exact hs.of_same hstack rfl rfl le_rfl
      fun hclear => hs.cleared (hmove.midClearing_iff.mp hclear)
  | importRow env counts first_row names cells rows ending below hmain =>
    obtain ⟨hcur, _⟩ := importRow_keeps ⟨s.gui, counts, first_row⟩ ⟨names, cells⟩ env
    apply hs.of_same hstack rfl hcur (copies_mono le_rfl rfl (himport env rfl))
    intro hclear
    rw [midClearing_cons hstack] at hclear
    simp at hclear
  | importEnd env counts first_row names ending below hmain =>
    have hhas : (finishImport ⟨s.gui, counts, first_row⟩ ending).1.hasCid c = s.gui.hasCid c := by
      simp [Gui.hasCid]
    refine hs.of_same hstack rfl (finishImport_current_cid _ _)
      (copies_mono le_rfl rfl hhas.symm.trans) ?_
    intro hclear
    rw [midClearing_cons hstack] at hclear
    simp at hclear
  | clear at_ below hmain =>
    have hcleared : at_ ≠ .clearList → s.gui.hasCid c = false := fun hat =>
      hs.cleared ⟨at_, hat, by simp [hmain]⟩
    cases at_ with
    | clearList =>
      exact hs.of_same hstack rfl rfl (copies_mono le_rfl rfl (by simp [clearStep, Gui.hasCid]))
        fun _ => rfl
    | deleteRows => exact hs.of_same hstack rfl rfl le_rfl fun _ => hcleared (by simp)
    | setCount => exact hs.of_same hstack rfl rfl le_rfl fun _ => hcleared (by simp)
    | resetCid =>
      -- The mark goes, so that nothing may be left of `c` anywhere.
      obtain ⟨hhold, hwait⟩ := hreset rfl (by simp [hmain])
      rw [waiting_iff_countP_pos, Nat.not_lt, Nat.le_zero] at hwait
      have hhas : s.gui.hasCid c = false := hcleared (by simp)
      have hzero : copies s c = 0 := by simp [copies, hwait, hhold, hhas]
      have hsame : copies { s with
          gui := (clearStep s.gui .resetCid).1, main := (clearStep s.gui .resetCid).2 :: below } c
          = copies s c := rfl
      rw [hzero] at hsame
      exact ⟨hstack, by omega, fun h => absurd hsame h, fun _ => hsame, fun _ => hhas⟩

/-- **A card left in the reader never meets itself as a duplicate**, in any run
    in which no clearing drops the mark of `c` while `c` is on its way: whatever
    callback with `c` is waiting, `add_card_to_table` does not take its
    duplicate branch for it. -/
theorem never_its_own_duplicate (c : Str) (s s' : Sys) (acts : List Act)
    (h : Reachable program s) (hlist : s.gui.hasCid c = false) (hwait : ¬ Waiting s.pending c)
    (hmark : s.monitor.holding = some c → s.gui.current_cid = some c)
    (hrun : Run (program.restrict (LeftIn c)) s acts s') (card_info : CardInfo)
    (hmem : .add_card_to_table card_info ∈ s'.pending) (hcid : card_info.cid = c)
    (insertOk : Bool) : add_card_to_table s'.gui card_info insertOk ≠ none := by
  rw [waiting_iff_countP_pos, Nat.not_lt, Nat.le_zero] at hwait
  have hcopies : copies s c = if s.monitor.holding = some c then 1 else 0 := by
    simp [copies, hlist, hwait]
  -- the start of the run: at most the copy in the hands of the monitor
  have hstart : Owned c s := by
    refine ⟨(kept_reachable h).stack, ?_, ?_, ?_, fun _ => hlist⟩
    · rw [hcopies]
      split <;> omega
    · rw [hcopies]
      intro hne
      by_contra hcur
      exact hne (if_neg (mt hmark hcur))
    · intro hmoves
      rw [hcopies, if_neg]
      intro hhold
      cases hm : s.monitor <;> simp [hm, Monitor.movesMark, Monitor.holding] at hmoves hhold
  have hend : Owned c s' := by
    refine hrun.preserves ?_ hstart
    intro t a t' ht hstep
    exact owned_step ht (effect_of_step hstep.1) hstep.2
  -- the waiting callback is the only copy, so the list has none
  have hpos : 0 < s'.pending.countP (Callback.carries c) :=
    waiting_iff_countP_pos.mp ⟨card_info, hmem, hcid⟩
  have hhas : s'.gui.hasCid c = false := by
    have hle := hend.copies_le
    rw [← Bool.not_eq_true]
    intro htrue
    simp only [copies, htrue, if_true] at hle
    omega
  simp [add_card_to_table, hcid, hhas]

theorem pollCard_sampleEnv : ∃ read, pollCard sampleEnv = .card read ∧ read.cid = ['1'] :=
  ⟨_, rfl, by decide +kernel⟩

theorem staysIn_sampleEnv : StaysIn ['1'] (.poll sampleEnv) := by
  obtain ⟨read, hfound, hcid⟩ := pollCard_sampleEnv
  simp [StaysIn, hfound, hcid]

theorem never_its_own_duplicate_sampleRound :
    ∃ s', Run (program.restrict (LeftIn ['1'])) .start sampleRound s' ∧
      ∃ card_info, .add_card_to_table card_info ∈ s'.pending ∧ card_info.cid = ['1'] ∧
        add_card_to_table s'.gui card_info true ≠ none := by
  have hwaits : (runActs .start sampleRound).map
      (fun s => s.pending.countP (Callback.carries ['1'])) = some 1 := by decide +kernel
  obtain ⟨s', hs', hcount⟩ := Option.map_eq_some_iff.mp hwaits
  have hrun : Run (program.restrict (LeftIn ['1'])) .start sampleRound s' := by
    apply (run_of_runActs hs').restrict
    intro a ha t t'
    simp only [sampleRound, List.mem_cons, List.mem_replicate] at ha
    rcases ha with rfl | ⟨_, rfl⟩
    · exact ⟨staysIn_sampleEnv, by simp [NotImported], by simp [ResetSafe]⟩
    · exact ⟨trivial, by simp [NotImported], by simp [ResetSafe]⟩
  obtain ⟨card_info, hmem, hcid⟩ : Waiting s'.pending ['1'] :=
    waiting_iff_countP_pos.mpr (by omega)
  exact ⟨s', hrun, card_info, hmem, hcid,
    never_its_own_duplicate ['1'] .start s' sampleRound (.init rfl) rfl
      (by simp [Waiting, Sys.start]) (by simp [Sys.start, Monitor.holding]) hrun card_info hmem
      hcid true⟩

/-- Another card, read and recorded before. -/
def otherRecorded : List Act :=
  .poll (.connected [0x3B, 0x68] (.ofCard fun _ _ => ⟨[0x32], 0x90, 0x00⟩)) ::
    List.replicate 6 (.monitor []) ++ List.replicate 3 (.deliver 0 true)

/-- A clearing while the monitor has marked the sample card but not yet read its
    fields, and then one more poll of the same card. -/
def clearedMidRead : List Act :=
  [.poll sampleEnv, .monitor [], .monitor [], .pressClear, .answerClear true] ++
    List.replicate 4 .clearNext ++ .closeNotice :: List.replicate 4 (.monitor []) ++
    List.replicate 3 (.deliver 0 true) ++ sampleRound

/-- The clearing resets the mark of a card that is being read, and the next poll
    takes up the same card again. -/
theorem own_duplicate_after_clear :
    ∃ s s', Reachable program s ∧ s.monitor = .idle ∧ s.main = [] ∧
      s.gui.hasCid ['1'] = false ∧ ¬ Waiting s.pending ['1'] ∧
      Run (program.restrict fun t a t' => StaysIn ['1'] a ∧ NotImported ['1'] t a t')
        s clearedMidRead s' ∧
      ∃ card_info, .add_card_to_table card_info ∈ s'.pending ∧ card_info.cid = ['1'] ∧
        add_card_to_table s'.gui card_info true = none := by
  have hbefore : (runActs .start otherRecorded).map (fun s =>
      (s.monitor.isIdle, s.main, s.gui.hasCid ['1'], s.pending)) = some (true, [], false, []) := by
    decide +kernel
  have hafter : ((runActs .start otherRecorded).bind fun s => runActs s clearedMidRead).map
      (fun s => (s.gui.hasCid ['1'], s.pending.countP (Callback.carries ['1'])))
      = some (true, 1) := by decide +kernel
  obtain ⟨s, hs, hsend⟩ := Option.map_eq_some_iff.mp hbefore
  simp only [Prod.mk.injEq] at hsend
  obtain ⟨hidle, hmain, hhas, hpend⟩ := hsend
  rw [hs, Option.bind_some] at hafter
  obtain ⟨s', hs', hs'end⟩ := Option.map_eq_some_iff.mp hafter
  obtain ⟨hhas', hcount⟩ := Prod.mk.inj hs'end
  have hrun : Run (program.restrict fun t a t' => StaysIn ['1'] a ∧ NotImported ['1'] t a t')
      s clearedMidRead s' := by
    apply (run_of_runActs hs').restrict
    intro a ha t t'
    refine ⟨?_, ?_⟩
    · by_cases hpoll : a = .poll sampleEnv
      · exact hpoll ▸ staysIn_sampleEnv
      · simp [clearedMidRead, sampleRound, hpoll] at ha
        rcases ha with rfl | rfl | rfl | rfl | rfl | rfl | rfl | rfl <;> exact trivial
    · intro env henv
      obtain rfl := henv
      simp [clearedMidRead, sampleRound] at ha
  obtain ⟨card_info, hmem, hcid⟩ : Waiting s'.pending ['1'] :=
    waiting_iff_countP_pos.mpr (by omega)
  refine ⟨s, s', (run_of_runActs hs).reachable (.init rfl), Monitor.isIdle_iff.mp hidle, hmain,
    hhas, by simp [Waiting, hpend], hrun, card_info, hmem, hcid, ?_⟩
  simp [add_card_to_table, hcid, hhas']

end GuiReader

end IdScan
