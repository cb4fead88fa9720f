import IdScan.Proofs.StatusLine

/-! # A card is recorded

  What the marks are for, from the side of the card: once a round has read its
  cid, five statements of the monitor bring it into the list or into a posted
  callback, whatever the user and the reader do in between. Only a clearing can
  take it out again, and only the end of the window keeps it from being posted.
-/

namespace IdScan

namespace GuiReader

open LTS

/-! ### The window -/

/-- The monitor has read the cid `c`, and posts its record with the `n`-th
    statement from here, unless the cid is marked already. -/
inductive Underway (c : Str) : Nat → Monitor → Prop where
  | compare (read : CardRead) (h : read.cid = c) : Underway c 5 (.compare read)
  | mark (read : CardRead) (h : read.cid = c) : Underway c 4 (.mark read)
  | announce (read : CardRead) (h : read.cid = c) : Underway c 3 (.announce read)
  | readFields (read : CardRead) (h : read.cid = c) : Underway c 2 (.readFields read)
  | post (card_info : CardInfo) (h : card_info.cid = c) : Underway c 1 (.post (some card_info))

/-- The record of `c` is in the list, or on its way through the queue. -/
def Recorded (c : Str) (s : Sys) : Prop := s.gui.hasCid c = true ∨ Waiting s.pending c

/-- No clearing is between its statements. -/
structure Undisturbed (s : Sys) : Prop where
  kept : Kept s
  whole : ¬ MidClearing s.main

theorem undisturbed_step {s s' : Sys} {a : Act} (hs : Undisturbed s) (hclear : a ≠ .clearNext)
    (h : Effect s a s') : Undisturbed s' := by
  refine ⟨kept_step hs.kept h, ?_⟩
  cases h with
  | poll _ _ => exact hs.whole
  | monitor _ => exact hs.whole
  | status _ _ _ _ _ => exact hs.whole
  | duplicate _ _ card_info htakes _ _ =>
    have hmove := StackMove.push (.notice (.duplicate card_info.cid))
      (head_isDialog_of_takesEvents htakes) (by rintro _ ⟨⟩)
    exact fun hmid => hs.whole (hmove.midClearing_iff.mp hmid)
  | added _ _ _ _ _ _ => exact hs.whole
  | quiet _ _ _ _ hmove _ _ => exact fun hmid => hs.whole (hmove.midClearing_iff.mp hmid)
  | importRow _ _ _ _ _ _ _ _ hmain =>
    have hstack := (hmain ▸ hs.kept.stack : StackOk (_ :: _)).replace
    intro hmid
    rw [midClearing_cons (hstack _)] at hmid
    simp at hmid
  | importEnd _ _ _ _ _ _ hmain =>
    have hstack := (hmain ▸ hs.kept.stack : StackOk (_ :: _)).replace
    intro hmid
    rw [midClearing_cons (hstack _)] at hmid
    simp at hmid
  | clear _ _ _ => exact absurd rfl hclear

/-- The monitor only adds to the queue. -/
theorem Monitor.next_waiting (monitor : Monitor) (now : Str) {sh : Shared} {c : Str}
    (h : Waiting sh.pending c) : Waiting (monitor.next now sh).2.pending c := by
  cases monitor with
  | compare read =>
    simp only [Monitor.next]
    split
    · exact h
    · split <;> exact h
  | announce read => exact h.post _
  | post card_info =>
    cases card_info with
    | none => exact h
    | some card_info => exact h.post _
  | announceDone => exact h.post _
  | announceSame => exact h.post _
  | noCard =>
    simp only [Monitor.next]
    split <;> exact h
  | announceRemoved => exact h.post _
  | _ => exact h

/-- What is recorded stays so until a clearing. -/
theorem recorded_step {s s' : Sys} {a : Act} {c : Str} (hs : Recorded c s)
    (hclear : a ≠ .clearNext) (h : Effect s a s') : Recorded c s' := by
  cases h with
  | poll _ _ => exact hs
  | monitor now => exact hs.imp_right (s.monitor.next_waiting now)
  | status i _ status _ hi =>
    rcases hs with hhas | hwait
    · exact .inl hhas
    · rcases hwait.eraseIdx hi with hwait' | hcarries
      · exact .inr hwait'
      · simp [Callback.carries] at hcarries
  | duplicate i _ card_info _ hi hdup =>
    rcases hs with hhas | hwait
    · exact .inl hhas
    · rcases hwait.eraseIdx hi with hwait' | hcarries
      · exact .inr hwait'
      · -- its record is in the list already
        obtain rfl : card_info.cid = c := by simpa [Callback.carries] using hcarries
        exact .inl hdup
  | added i insertOk card_info _ hi _ =>
    rcases hs with hhas | hwait
    · left
      rw [hasCid_add_new_card, hhas, Bool.true_or]
    · rcases hwait.eraseIdx hi with hwait' | hcarries
      · exact .inr hwait'
      · left
        rw [hasCid_add_new_card, show (card_info.cid == c) = true from hcarries, Bool.or_true]
  | quiet _ _ _ _ _ _ _ => exact hs
  | importRow env counts first_row names cells rows ending below hmain =>
    obtain ⟨-, hhas⟩ := importRow_keeps ⟨s.gui, counts, first_row⟩ ⟨names, cells⟩ env
    exact hs.imp_left (hhas c)
  | importEnd _ _ _ _ _ _ _ =>
    refine hs.imp_left fun hhas => ?_
    simpa [Gui.hasCid] using hhas
  | clear _ _ _ => exact absurd rfl hclear

/-- A statement of the monitor brings the record one statement closer. -/
theorem underway_monitor {s : Sys} (hs : Undisturbed s) {c : Str} (hc : c ≠ []) (now : Str)
    {n : Nat} (h : Underway c (n + 1) s.monitor) :
    Recorded c { s.setShared (s.monitor.next now s.shared).2 with
        monitor := (s.monitor.next now s.shared).1 } ∨
      Underway c n (s.monitor.next now s.shared).1 := by
  generalize hmonitor : s.monitor = monitor at h
  cases h with
  | compare read hread =>
    obtain rfl := hread
    by_cases hmarked : s.gui.current_cid = some read.cid
    · -- a marked cid is kept somewhere, and here neither by the monitor nor by a clearing
      left
      have hsame : Monitor.next now s.shared (.compare read) = (.announceSame, s.shared) := by
        simp [Monitor.next, Sys.shared, hmarked, hc]
      rw [hsame]
      rcases hs.kept.kept _ hmarked with hhas | hwait | hhold | hmid
      · exact .inl hhas
      · exact .inr hwait
      · simp [hmonitor, Monitor.holding] at hhold
      · exact absurd hmid hs.whole
    · right
      have hmark : Monitor.next now s.shared (.compare read) = (.mark read, s.shared) := by
        simp [Monitor.next, Sys.shared, hmarked, hc]
      rw [hmark]
      exact .mark read rfl
  | mark read hread => exact .inr (.announce read hread)
  | announce read hread => exact .inr (.readFields read hread)
  | readFields read hread =>
    -- whatever the card does, a record comes back, under the same cid
    right
    simp only [Monitor.next, read_card_data_eq]
    exact .post _ hread
  | post card_info hcid =>
    left
    right
    refine ⟨card_info, ?_, hcid⟩
    simp [Monitor.next, Sys.setShared, Shared.post]

/-! ### The application -/

/-- The steps without a clearing. -/
abbrev WithoutClearing (_ : App) (a : AppAct) (_ : App) : Prop := a.noClearing = true

/-- The invariant, until the window is gone. -/
structure Watched (s : App) : Prop where
  ok : AppOk s
  sys : s.life ≠ .closed → Undisturbed s.sys

/-- What is due: the record of `c`, unless the window is gone. -/
def Served (c : Str) (s : App) : Prop := s.life ≠ .closed → Recorded c s.sys

/-- It is due within `n` statements of the monitor. -/
def Due (c : Str) (n : Nat) (s : App) : Prop := s.round = .card ∧ Underway c n s.sys.monitor

section steps
variable {s s' : App} {a : AppAct} {c : Str}

/-- What a step without a clearing does to the window. -/
theorem step_sys_withoutClearing (hok : AppOk s) (hclear : a.noClearing = true)
    (hthere : s'.life ≠ .closed) (h : AppEffect s a s') :
    (∃ a', a' ≠ .clearNext ∧ Effect s.sys a' s'.sys) ∨ s'.sys = s.sys := by
  rcases step_sys hok hthere h with ⟨a', hlabel, hstep⟩ | hsame
  · refine .inl ⟨a', ?_, effect_of_step hstep⟩
    intro hnext
    rw [hlabel hnext] at hclear
    cases hclear
  · exact .inr hsame

theorem there_before (hthere : s'.life ≠ .closed) (h : AppEffect s a s') : s.life ≠ .closed :=
  fun hclosed => hthere (closed_step hclosed h)

theorem watched_step (hs : Watched s) (hclear : a.noClearing = true) (h : AppEffect s a s') :
    Watched s' := by
  refine ⟨appOk_step hs.ok h, ?_⟩
  intro hthere
  have hbefore := hs.sys (there_before hthere h)
  rcases step_sys_withoutClearing hs.ok hclear hthere h with ⟨a', hne, heffect⟩ | hsame
  · exact undisturbed_step hbefore hne heffect
  · rw [hsame]
    exact hbefore

theorem served_step (hok : AppOk s) (hs : Served c s) (hclear : a.noClearing = true)
    (h : AppEffect s a s') : Served c s' := by
  intro hthere
  have hbefore := hs (there_before hthere h)
  rcases step_sys_withoutClearing hok hclear hthere h with ⟨a', hne, heffect⟩ | hsame
  · exact recorded_step hbefore hne heffect
  · rw [hsame]
    exact hbefore

/-- The statements of the monitor bring the record closer. -/
theorem due_monitor (hs : Watched s) (hc : c ≠ []) {n : Nat} (hdue : Due c (n + 1) s)
    (hact : a.ofMonitor = true) (h : AppEffect s a s') : Served c s' ∨ Due c n s' := by
  obtain ⟨hround, hunderway⟩ := hdue
  cases h with
  | loop _ _ h => simp [hround] at h
  | test _ _ h => simp [hround] at h
  | findRaises _ _ _ h _ => simp [hround] at h
  | find _ _ _ h _ => simp [hround] at h
  | dropped _ _ h _ => simp [hround] at h
  | connect _ _ h _ => simp [hround] at h
  | cardEnd _ _ hidle =>
    rw [hidle] at hunderway
    cases hunderway
  | cardRaises _ _ hclosed => exact .inl fun hthere => absurd hclosed hthere
  | card now _ _ _ =>
    by_cases hclosed : s.life = .closed
    · exact .inl fun hthere => absurd hclosed hthere
    · rcases underway_monitor (hs.sys hclosed) hc now hunderway with hrecorded | hunderway
      · exact .inl fun _ => hrecorded
      · exact .inr ⟨hround, hunderway⟩
  | _ => cases hact

/-- The others leave it as near as it is. -/
theorem due_other {n : Nat} (hdue : Due c n s) (hact : a.ofMonitor = false)
    (h : AppEffect s a s') : Due c n s' := by
  obtain ⟨hround, hunderway⟩ := hdue
  cases h with
  | window a sys _ hmain hstep =>
    refine ⟨hround, ?_⟩
    show Underway c n sys.monitor
    rw [step_monitor hstep hmain]
    exact hunderway
  | pressRefresh _ => exact ⟨hround, hunderway⟩
  | refreshNext _ _ _ => exact ⟨hround, hunderway⟩
  | deliverColour _ _ _ _ => exact ⟨hround, hunderway⟩
  | pressClose _ => exact ⟨hround, hunderway⟩
  | destroy _ => exact ⟨hround, hunderway⟩
  | _ => cases hact

end steps

/-- The window of a reachable application that is not gone keeps its marks. -/
theorem kept_application {s : App} (h : Reachable application s) (hthere : s.life ≠ .closed) :
    Kept s.sys :=
  kept_reachable (application_refines.reachable (fun _ => appOk_reachable) h hthere)

/-- **A card is recorded.** Once a round has read a cid, the card is in the list
    or in a posted callback after five statements of the monitor, and from then
    on, whatever else happens, if the window is still there and no clearing has
    taken a statement. -/
theorem card_recorded (s : App) (h : Reachable application s) (hround : s.round = .connect)
    (hreader : s.readerPart.reader.isSome = true) (hmain : ¬ MidClearing s.sys.main)
    (answer : ReaderList) (link : Link) (read : CardRead) (hpoll : pollCard link.env = .card read)
    (hcid : read.cid ≠ []) (ls : List AppAct) (s' : App)
    (hrun : Run application s (.round answer link :: ls) s') (hthere : s'.life ≠ .closed)
    (hclear : ∀ a ∈ ls, a.noClearing = true) (hfive : 5 ≤ ls.countP AppAct.ofMonitor) :
    (∃ data ∈ s'.sys.gui.card_data_list, data.cid = read.cid) ∨
      ∃ card_info, .add_card_to_table card_info ∈ s'.sys.pending ∧ card_info.cid = read.cid := by
  have hkept := kept_application h
  cases hrun with
  | @cons _ s₁ _ _ _ hfirst hrest =>
    obtain ⟨hwatched, hdue⟩ : Watched s₁ ∧ Due read.cid 5 s₁ := by
      have hok := appOk_step (appOk_reachable h) (appEffect_of_step hfirst)
      obtain ⟨reader, hsome⟩ := Option.isSome_iff_exists.mp hreader
      have hconnect : s.roundStep answer link = some { s with
          sys := { s.sys with monitor := .begin (pollCard link.env) }, round := .card } := by
        simp [App.roundStep, hround, hsome]
      obtain rfl := Option.some.inj (hconnect.symm.trans hfirst)
      refine ⟨⟨hok, fun hbefore => ?_⟩, rfl, ?_⟩
      · have hidle : s.sys.monitor = .idle := (appOk_reachable h).idle (by simp [hround])
        exact ⟨kept_step (hkept hbefore) (.poll link.env hidle), hmain⟩
      · show Underway read.cid 5 (.begin (pollCard link.env))
        rw [hpoll]
        exact .compare read rfl
    have hinv : ∀ t a t', Watched t → (application.restrict WithoutClearing).step t a t' →
        Watched t' := fun t a t' ht hstep =>
      watched_step ht hstep.2 (appEffect_of_step hstep.1)
    have hstays : ∀ t a t', Watched t → (application.restrict WithoutClearing).step t a t' →
        Served read.cid t → Served read.cid t' := fun t a t' ht hstep hserved =>
      served_step ht.ok hserved hstep.2 (appEffect_of_step hstep.1)
    have hzero : ∀ t, Due read.cid 0 t → Served read.cid t := by
      intro t hdue
      cases hdue.2
    have hkind : ∀ n t a t', Watched t → (application.restrict WithoutClearing).step t a t' →
        a.ofMonitor = true → Due read.cid (n + 1) t → Served read.cid t' ∨ Due read.cid n t' :=
      fun n t a t' ht hstep hact hdue =>
        due_monitor ht hcid hdue hact (appEffect_of_step hstep.1)
    have hother : ∀ n t a t', Watched t → (application.restrict WithoutClearing).step t a t' →
        a.ofMonitor = false → Due read.cid n t → Served read.cid t' ∨ Due read.cid n t' :=
      fun n t a t' _ hstep hact hdue => .inr (due_other hdue hact (appEffect_of_step hstep.1))
    have hrestricted : Run (application.restrict WithoutClearing) s₁ ls s' :=
      hrest.restrict fun a ha _ _ => hclear a ha
    have hserved : Served read.cid s' :=
      hrestricted.meets hinv hstays hzero hkind hother hwatched (.inr hdue) hfive
    exact (hserved hthere).imp_left Gui.hasCid_iff.mp

/-- The sample card, and a file dialog opened and left while it is read. -/
def readBesideDialog : List AppAct :=
  List.replicate 3 (.card []) ++ [.window .pressImport, .window (.chooseImport none)]
    ++ List.replicate 2 (.card [])

theorem card_recorded_readBesideDialog :
    ∃ s s', Reachable application s ∧
      Run application s (.round (.ok []) (.connected [0x3B, 0x68] sampleCard) :: readBesideDialog)
        s' ∧
      s'.sys.gui.card_data_list = [] ∧
      ((∃ data ∈ s'.sys.gui.card_data_list, data.cid = ['1']) ∨
        ∃ card_info, .add_card_to_table card_info ∈ s'.sys.pending ∧ card_info.cid = ['1']) := by
  have hrun : ((runApp (fun _ _ _ => True) .start
        (List.replicate 8 (.round (.ok ["R".toList]) (.raises .other)))).bind fun s =>
      (runApp (fun _ _ _ => True) s (.round (.ok []) (.connected [0x3B, 0x68] sampleCard)
        :: readBesideDialog)).map fun s' =>
      (s.round, s.readerPart.reader.isSome, s.sys.main, s'.life, s'.sys.gui.card_data_list))
      = some (.connect, true, [], .opened, []) := by decide +kernel
  obtain ⟨s, hs, hrest⟩ := Option.bind_eq_some_iff.mp hrun
  obtain ⟨s', hs', hend⟩ := Option.map_eq_some_iff.mp hrest
  simp only [Prod.mk.injEq] at hend
  obtain ⟨hround, hreader, hmain, hlife, hlist⟩ := hend
  have hreach : Reachable application s := (reachable_of_runApp (.init rfl) hs).of_restrict
  have hwhole : ¬ MidClearing s.sys.main := by
    rw [hmain]
    simp [MidClearing]
  obtain ⟨read, hpoll, hcid⟩ : ∃ read, pollCard (Link.connected [0x3B, 0x68] sampleCard).env
      = .card read ∧ read.cid = ['1'] := ⟨_, rfl, by decide +kernel⟩
  have hrecorded := card_recorded s hreach hround hreader hwhole (.ok [])
    (.connected [0x3B, 0x68] sampleCard) read hpoll (by simp [hcid]) readBesideDialog s'
    (run_of_runApp hs').of_restrict (by simp [hlife]) (by decide) (by decide)
  rw [hcid] at hrecorded
  exact ⟨s, s', hreach, (run_of_runApp hs').of_restrict, hlist, hrecorded⟩

end GuiReader

end IdScan
