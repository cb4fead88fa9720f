import IdScan.Proofs.App

/-! # The thread of the monitor and the closing of the window

  No exception ends the loop of `monitor_card`, not even where the refresh
  button takes the reader away between its test and its use. Only `on_closing`
  does, and then after a bounded number of statements.
-/

namespace IdScan

namespace GuiReader

open LTS

/-! ### The statements that are left -/

/-- The statements of the card part, down to the return to the loop. -/
def Monitor.rest : Monitor → Nat
  | .idle => 1
  | .announceDone => 2
  | .announceSame => 2
  | .announceRemoved => 2
  | .post _ => 3
  | .readFields _ => 4
  | .announce _ => 5
  | .mark _ => 6
  | .compare _ => 7
  | .reset => 3
  | .noCard => 4

/-- The statements of `find_reader`, down to its return. -/
def FindReader.rest : FindReader → Nat
  | .call => 4
  | .assign _ => 3
  | .showFound => 2
  | .postFound => 1
  | .showMissing _ => 2
  | .postMissing => 1

/-- The statements of the monitor once `self.monitoring` is off. -/
def App.rest (s : App) : Nat :=
  match s.round with
  | .ended => 0
  | .loop => 1
  | .find at_ => 1 + at_.rest
  | .card => 1 + s.sys.monitor.rest
  | .connect => 9
  | .testReader => 10

theorem Monitor.rest_next {monitor : Monitor} (hbusy : monitor ≠ .idle) (now : Str) (sh : Shared) :
    (monitor.next now sh).1.rest + 1 ≤ monitor.rest := by
  cases monitor with
  | idle => exact absurd rfl hbusy
  | compare read =>
    simp only [Monitor.next]
    split
    · show 6 + 1 ≤ 7
      omega
    · split
      · show 2 + 1 ≤ 7
        omega
      · show 1 + 1 ≤ 7
        omega
  | post card_info => cases card_info <;> simp [Monitor.next, Monitor.rest]
  | noCard =>
    simp only [Monitor.next]
    split
    · show 3 + 1 ≤ 4
      omega
    · show 1 + 1 ≤ 4
      omega
  | _ => simp [Monitor.next, Monitor.rest]

theorem Monitor.rest_le (monitor : Monitor) : monitor.rest ≤ 7 := by
  cases monitor <;> simp [Monitor.rest]

theorem FindReader.rest_next (at_ : FindReader) (answer : ReaderList) (part : ReaderPart) :
    ((at_.next answer part).1.elim 0 FindReader.rest) + 1 ≤ at_.rest := by
  cases at_ with
  | call =>
    rcases answer with e | _ | ⟨first, others⟩ <;> simp [FindReader.next, FindReader.rest]
  | _ => simp [FindReader.next, FindReader.rest]

theorem App.rest_le (s : App) : s.rest ≤ 10 := by
  have hmonitor := s.sys.monitor.rest_le
  unfold App.rest
  split
  · omega
  · omega
  · next at_ _ =>
    cases at_ <;> simp [FindReader.rest]
  · omega
  · omega
  · omega

/-- Once the window is being closed, each statement of the monitor is one less,
    and the main thread adds none. -/
theorem rest_step {s s' : App} {a : AppAct} (hok : AppOk s) (hlife : s.life ≠ .opened)
    (h : AppEffect s a s') : s'.rest + (if a.ofMonitor then 1 else 0) ≤ s.rest := by
  have hbusy : ¬ s.takesEvents = true := fun htakes =>
    hlife (App.opened_of_takesEvents htakes).1
  cases h with
  | loop _ _ hround =>
    have hoff : s.monitoring = false := by
      rw [← Bool.not_eq_true, hok.monitoring]
      exact hlife
    simp [App.rest, hround, hoff, AppAct.ofMonitor]
  | test _ _ hround =>
    show App.rest { s with round := _ } + 1 ≤ s.rest
    split <;> simp [App.rest, hround, FindReader.rest]
  | findRaises _ _ at_ hround _ =>
    show 1 + 1 ≤ s.rest
    have hone : 1 ≤ at_.rest := by cases at_ <;> simp [FindReader.rest]
    simp only [App.rest, hround]
    omega
  | find answer _ at_ hround _ =>
    have hnext := at_.rest_next answer s.readerPart
    show App.rest { s with readerPart := _, round := _ } + 1 ≤ s.rest
    simp only [App.rest, hround]
    cases hfound : (at_.next answer s.readerPart).1 with
    | none =>
      rw [hfound] at hnext
      simp only [Option.elim_none] at hnext ⊢
      omega
    | some after =>
      rw [hfound] at hnext
      simp only [Option.elim_some] at hnext ⊢
      omega
  | dropped _ _ hround _ =>
    show 1 + 1 ≤ s.rest
    simp [App.rest, hround]
  | connect _ link hround _ =>
    have hle := (Monitor.begin (pollCard link.env)).rest_le
    show 1 + (Monitor.begin (pollCard link.env)).rest + 1 ≤ s.rest
    simp only [App.rest, hround]
    omega
  | cardEnd _ hround hidle =>
    show 1 + 1 ≤ s.rest
    simp [App.rest, hround, hidle, Monitor.rest]
  | cardRaises _ hround _ =>
    show 1 + 1 ≤ s.rest
    have hone : 1 ≤ s.sys.monitor.rest := by cases s.sys.monitor <;> simp [Monitor.rest]
    simp only [App.rest, hround]
    omega
  | card now hround hbusy _ =>
    have hnext := Monitor.rest_next hbusy now s.sys.shared
    simp only [App.rest, hround, AppAct.ofMonitor, if_true]
    omega
  | window a sys hfree _ _ => exact absurd (App.opened_of_mainFree hfree).1 hlife
  | pressRefresh htakes => exact absurd htakes hbusy
  | refreshNext _ at_ hrefresh =>
    rw [hok.refresh hlife] at hrefresh
    cases hrefresh
  | deliverColour _ _ htakes _ => exact absurd htakes hbusy
  | pressClose htakes => exact absurd htakes hbusy
  | destroy _ => exact le_refl s.rest

/-- A window that is being closed is not opened again. -/
theorem closing_step {s s' : App} {a : AppAct} (hlife : s.life ≠ .opened)
    (h : AppEffect s a s') : s'.life ≠ .opened := by
  cases h with
  | pressClose _ => simp
  | destroy _ => simp
  | _ => exact hlife

/-- Whatever is answered, a thread that has not ended has a next statement. -/
theorem monitor_has_next {s : App} (hround : s.round ≠ .ended) (answer : ReaderList) (link : Link)
    (now : Str) :
    ∃ a s', a ∈ [AppAct.round answer link, .card now] ∧ application.step s a s' := by
  have hnow : s.round = .card → ∃ s', s.cardStep now = some s' := by
    intro hcard
    unfold App.cardStep
    split
    · exact ⟨_, rfl⟩
    · split <;> exact ⟨_, rfl⟩
    · next hno _ => exact absurd hcard hno
  have helse : s.round ≠ .card → ∃ s', s.roundStep answer link = some s' := by
    intro hcard
    unfold App.roundStep
    split
    · exact ⟨_, rfl⟩
    · exact ⟨_, rfl⟩
    · split <;> exact ⟨_, rfl⟩
    · split <;> exact ⟨_, rfl⟩
    · next heq => exact absurd heq hcard
    · next heq => exact absurd heq hround
  by_cases hcard : s.round = .card
  · obtain ⟨s', hs'⟩ := hnow hcard
    exact ⟨.card now, s', by simp, step_of_cardStep hs'⟩
  · obtain ⟨s', hs'⟩ := helse hcard
    exact ⟨.round answer link, s', by simp, step_of_roundStep hs'⟩

/-- **The monitor lives as long as the window.** While the window is open its
    thread has not ended, and whatever the reader, the card and the main thread
    do, it has a next statement. From the closing on it takes at most ten more
    statements in every run, and has a next one until it ends. -/
theorem monitor_lives_until_closed (s : App) (h : Reachable application s) :
    (s.life = .opened → s.round ≠ .ended) ∧
    (s.round ≠ .ended → ∀ answer link now, ∃ a s',
      a ∈ [AppAct.round answer link, .card now] ∧ application.step s a s') ∧
    (s.life ≠ .opened → ∀ ls s', Run application s ls s' →
      ls.countP AppAct.ofMonitor ≤ 10) := by
  have hok : AppOk s := appOk_reachable h
  refine ⟨?_, ?_, ?_⟩
  · intro hlife hended
    have hoff := hok.ended hended
    rw [hok.monitoring.mpr hlife] at hoff
    cases hoff
  · intro hround answer link now
    exact monitor_has_next hround answer link now
  · intro hlife ls s' hrun
    have hkeep : ∀ t a t', AppOk t ∧ t.life ≠ .opened → application.step t a t' →
        AppOk t' ∧ t'.life ≠ .opened := fun t a t' ht hstep =>
      ⟨appOk_step ht.1 (appEffect_of_step hstep), closing_step ht.2 (appEffect_of_step hstep)⟩
    have hrank : ∀ t a t', AppOk t ∧ t.life ≠ .opened → application.step t a t' →
        t'.rest + (if a.ofMonitor then 1 else 0) ≤ t.rest := fun t a t' ht hstep =>
      rest_step ht.1 ht.2 (appEffect_of_step hstep)
    have hle := hrun.countP_le_rank hkeep hrank ⟨hok, hlife⟩
    have hmax := s.rest_le
    omega

/-- A reader is found, a card is put in, and the window is closed. -/
def closedAtCard : List AppAct :=
  List.replicate 9 (.round (.ok ["R".toList]) (.connected [0x3B, 0x68]
    (.ofCard fun _ _ => ⟨[0x31], 0x90, 0x00⟩))) ++ [.pressClose]

/-- The window is gone when the card has been read, so that the posting raises. -/
def goneWhileReading : List AppAct :=
  List.replicate 3 (.card []) ++ [.destroy] ++ List.replicate 2 (.card [])
    ++ [.round (.ok []) (.raises .other)]

theorem monitor_lives_until_closed_whileReading :
    App.start.round ≠ .ended ∧ ∃ s s', Reachable application s ∧ s.round = .card ∧ s.life = .closing ∧
      (∃ a t, a ∈ [AppAct.round (.ok []) (.raises .other), .card []] ∧ application.step s a t) ∧
      Run application s goneWhileReading s' ∧ s'.round = .ended ∧
      goneWhileReading.countP AppAct.ofMonitor ≤ 10 := by
  have hrun : ((runApp (fun _ _ _ => True) .start closedAtCard).bind fun s =>
      (runApp (fun _ _ _ => True) s goneWhileReading).map fun s' =>
        (s.round, s.life, s'.round)) = some (.card, .closing, .ended) := by decide +kernel
  obtain ⟨s, hs, hrest⟩ := Option.bind_eq_some_iff.mp hrun
  obtain ⟨s', hs', hend⟩ := Option.map_eq_some_iff.mp hrest
  simp only [Prod.mk.injEq] at hend
  obtain ⟨hround, hlife, hended⟩ := hend
  have hreach : Reachable application s := (reachable_of_runApp (.init rfl) hs).of_restrict
  have hgone : Run application s goneWhileReading s' := (run_of_runApp hs').of_restrict
  obtain ⟨-, hnext, hbound⟩ := monitor_lives_until_closed s hreach
  exact ⟨(monitor_lives_until_closed .start (.init rfl)).1 rfl, s, s', hreach, hround, hlife,
    hnext (by simp [hround]) (.ok []) (.raises .other) [], hgone, hended,
    hbound (by simp [hlife]) _ _ hgone⟩

end GuiReader

end IdScan
