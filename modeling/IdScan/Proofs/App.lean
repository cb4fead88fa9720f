import IdScan.Framework.Runs
import IdScan.Model.App
import IdScan.Proofs.Steps

/-! # What the application adds to the window

  The reader, the status line and the closing are around the program of
  `Model.System`, and not in its way: until the window is gone, the states of
  the window are the same with them and without. The thread of the monitor lives
  exactly as long as the window, but for a bounded rest.
-/

namespace IdScan

namespace GuiReader

open LTS

/-! ### What one step can do -/

/-- What a step of the application does. -/
inductive AppEffect (s : App) : AppAct → App → Prop where
  | loop (answer : ReaderList) (link : Link) (hround : s.round = .loop) :
      AppEffect s (.round answer link)
        { s with round := if s.monitoring then .testReader else .ended }
  | test (answer : ReaderList) (link : Link) (hround : s.round = .testReader) :
      AppEffect s (.round answer link)
        { s with round := if s.readerPart.reader.isSome then .connect else .find .call }
  | findRaises (answer : ReaderList) (link : Link) (at_ : FindReader)
      (hround : s.round = .find at_) (hclosed : s.life = .closed) :
      AppEffect s (.round answer link) { s with round := .loop }
  | find (answer : ReaderList) (link : Link) (at_ : FindReader) (hround : s.round = .find at_)
      (hthere : s.life = .closed → at_.usesWindow = false) :
      AppEffect s (.round answer link)
        { s with
          readerPart := (at_.next answer s.readerPart).2
          round := (at_.next answer s.readerPart).1.elim .loop .find }
  | dropped (answer : ReaderList) (link : Link) (hround : s.round = .connect)
      (hreader : s.readerPart.reader = none) :
      AppEffect s (.round answer link) { s with round := .loop }
  | connect (answer : ReaderList) (link : Link) (hround : s.round = .connect)
      (hreader : s.readerPart.reader.isSome = true) :
      AppEffect s (.round answer link)
        { s with sys := { s.sys with monitor := .begin (pollCard link.env) }, round := .card }
  | cardEnd (now : Str) (hround : s.round = .card) (hidle : s.sys.monitor = .idle) :
      AppEffect s (.card now) { s with round := .loop }
  | cardRaises (now : Str) (hround : s.round = .card) (hclosed : s.life = .closed) :
      AppEffect s (.card now)
        { s with sys := { s.sys with monitor := .idle }, round := .loop }
  | card (now : Str) (hround : s.round = .card) (hbusy : s.sys.monitor ≠ .idle)
      (hthere : s.life = .closed → s.sys.monitor.usesWindow = false) :
      AppEffect s (.card now)
        { s with sys := { s.sys.setShared (s.sys.monitor.next now s.sys.shared).2 with
          monitor := (s.sys.monitor.next now s.sys.shared).1 } }
  | window (a : Act) (sys : Sys) (hfree : s.mainFree = true) (hmain : a.ofMonitor = false)
      (hstep : step s.sys a = some sys) :
      AppEffect s (.window a) { s with sys, card_status := s.shown a }
  | pressRefresh (htakes : s.takesEvents = true) :
      AppEffect s .pressRefresh
        { s with readerPart := { s.readerPart with reader := none }, refresh := some .call }
  | refreshNext (answer : ReaderList) (at_ : FindReader) (hrefresh : s.refresh = some at_) :
      AppEffect s (.refreshNext answer)
        { s with
          readerPart := (at_.next answer s.readerPart).2
          refresh := (at_.next answer s.readerPart).1 }
  | deliverColour (i : Nat) (foreground : Colour) (htakes : s.takesEvents = true)
      (hi : s.readerPart.posted[i]? = some foreground) :
      AppEffect s (.deliverColour i)
        { s with readerPart := { s.readerPart with
          label := { s.readerPart.label with foreground }
          posted := s.readerPart.posted.eraseIdx i } }
  | pressClose (htakes : s.takesEvents = true) :
      AppEffect s .pressClose { s with monitoring := false, life := .closing }
  | destroy (hlife : s.life = .closing) : AppEffect s .destroy { s with life := .closed }

theorem appEffect_of_roundStep {s s' : App} {answer : ReaderList} {link : Link}
    (h : s.roundStep answer link = some s') : AppEffect s (.round answer link) s' := by
  unfold App.roundStep at h
  split at h
  · next hround =>
    cases h
    exact .loop answer link hround
  · next hround =>
    cases h
    exact .test answer link hround
  · next at_ hround =>
    split at h
    · next hgone =>
      cases h
      exact .findRaises answer link at_ hround hgone.1
    · next hthere =>
      cases h
      refine .find answer link at_ hround ?_
      intro hclosed
      simpa [hclosed] using hthere
  · next hround =>
    split at h
    · next hreader =>
      cases h
      exact .dropped answer link hround hreader
    · next hreader =>
      cases h
      exact .connect answer link hround (by rw [hreader]; rfl)
  · cases h
  · cases h

theorem appEffect_of_cardStep {s s' : App} {now : Str} (h : s.cardStep now = some s') :
    AppEffect s (.card now) s' := by
  unfold App.cardStep at h
  split at h
  · next hround hidle =>
    cases h
    exact .cardEnd now hround hidle
  · next hround hbusy =>
    split at h
    · next hgone =>
      cases h
      exact .cardRaises now hround hgone.1
    · next hthere =>
      cases h
      refine .card now hround hbusy ?_
      intro hclosed
      simpa [hclosed] using hthere
  · cases h

/-- **Inversion of a step of the application.** -/
theorem appEffect_of_step {s s' : App} {a : AppAct} (h : application.step s a s') :
    AppEffect s a s' := by
  change s.step a = some s' at h
  unfold App.step at h
  split at h
  · exact appEffect_of_roundStep h
  · exact appEffect_of_cardStep h
  · next a =>
    split at h
    · next hfree =>
      obtain ⟨sys, hstep, heq⟩ := Option.map_eq_some_iff.mp h
      cases heq
      exact .window a sys hfree.1 (by simpa using hfree.2) hstep
    · cases h
  · split at h
    · next htakes =>
      cases h
      exact .pressRefresh htakes
    · cases h
  · split at h
    · cases h
    · next at_ hrefresh =>
      cases h
      exact .refreshNext _ at_ hrefresh
  · split at h
    · next htakes =>
      split at h
      · cases h
      · next foreground hi =>
        cases h
        exact .deliverColour _ foreground htakes hi
    · cases h
  · split at h
    · next htakes =>
      cases h
      exact .pressClose htakes
    · cases h
  · split at h
    · next hlife =>
      cases h
      exact .destroy hlife
    · cases h

/-! ### What a run keeps -/

/-- The invariant: the loop runs on exactly as long as the window is not being
    closed, and the card part runs only in its round. -/
structure AppOk (s : App) : Prop where
  monitoring : s.monitoring = true ↔ s.life = .opened
  ended : s.round = .ended → s.monitoring = false
  idle : s.round ≠ .card → s.sys.monitor = .idle
  refresh : s.life ≠ .opened → s.refresh = none

theorem App.opened_of_mainFree {s : App} (h : s.mainFree = true) :
    s.life = .opened ∧ s.refresh = none := by
  simpa [App.mainFree] using h

theorem App.opened_of_takesEvents {s : App} (h : s.takesEvents = true) :
    s.life = .opened ∧ s.refresh = none ∧ s.sys.takesEvents = true := by
  unfold App.takesEvents at h
  rw [Bool.and_eq_true] at h
  obtain ⟨hfree, htakes⟩ := h
  obtain ⟨hlife, hrefresh⟩ := App.opened_of_mainFree hfree
  exact ⟨hlife, hrefresh, htakes⟩

/-- An act of the main thread leaves the monitor where it is. -/
theorem step_monitor {s s' : Sys} {a : Act} (h : program.step s a s') (hmain : a.ofMonitor = false) :
    s'.monitor = s.monitor := by
  cases effect_of_step h with
  | poll _ _ => simp [Act.ofMonitor] at hmain
  | monitor _ => simp [Act.ofMonitor] at hmain
  | status _ _ _ _ _ => rfl
  | duplicate _ _ _ _ _ _ => rfl
  | added _ _ _ _ _ _ => rfl
  | quiet _ _ _ _ _ _ _ => rfl
  | importRow _ _ _ _ _ _ _ _ _ => rfl
  | importEnd _ _ _ _ _ _ _ => rfl
  | clear _ _ _ => rfl

theorem appOk_step {s s' : App} {a : AppAct} (hs : AppOk s) (h : AppEffect s a s') : AppOk s' := by
  cases h with
  | loop _ _ hround =>
    refine ⟨hs.monitoring, ?_, fun _ => hs.idle (by simp [hround]), hs.refresh⟩
    show (if s.monitoring then Round.testReader else .ended) = .ended → s.monitoring = false
    cases s.monitoring <;> simp
  | test _ _ hround =>
    refine ⟨hs.monitoring, ?_, fun _ => hs.idle (by simp [hround]), hs.refresh⟩
    show (if s.readerPart.reader.isSome then Round.connect else .find .call) = .ended → _
    split <;> simp
  | findRaises _ _ at_ hround _ =>
    exact ⟨hs.monitoring, by simp, fun _ => hs.idle (by simp [hround]), hs.refresh⟩
  | find _ _ at_ hround _ =>
    refine ⟨hs.monitoring, ?_, fun _ => hs.idle (by simp [hround]), hs.refresh⟩
    show Option.elim _ Round.loop Round.find = .ended → _
    cases (at_.next _ s.readerPart).1 <;> simp
  | dropped _ _ hround _ =>
    exact ⟨hs.monitoring, by simp, fun _ => hs.idle (by simp [hround]), hs.refresh⟩
  | connect _ _ hround _ => exact ⟨hs.monitoring, by simp, by simp, hs.refresh⟩
  | cardEnd _ _ hidle => exact ⟨hs.monitoring, by simp, fun _ => hidle, hs.refresh⟩
  | cardRaises _ _ _ => exact ⟨hs.monitoring, by simp, fun _ => rfl, hs.refresh⟩
  | card _ hround _ _ =>
    exact ⟨hs.monitoring, by simp [hround], fun hne => absurd hround hne, hs.refresh⟩
  | window a sys hfree hmain hstep =>
    refine ⟨hs.monitoring, hs.ended, ?_, hs.refresh⟩
    intro hround
    show sys.monitor = .idle
    rw [step_monitor hstep hmain]
    exact hs.idle hround
  | pressRefresh htakes =>
    have hlife := (App.opened_of_takesEvents htakes).1
    exact ⟨hs.monitoring, hs.ended, hs.idle, fun hne => absurd hlife hne⟩
  | refreshNext _ at_ hrefresh =>
    refine ⟨hs.monitoring, hs.ended, hs.idle, ?_⟩
    intro hne
    have hnone := hs.refresh hne
    rw [hrefresh] at hnone
    cases hnone
  | deliverColour _ _ _ _ => exact ⟨hs.monitoring, hs.ended, hs.idle, hs.refresh⟩
  | pressClose htakes =>
    obtain ⟨-, hrefresh, -⟩ := App.opened_of_takesEvents htakes
    exact ⟨by simp, fun _ => rfl, hs.idle, fun _ => hrefresh⟩
  | destroy hlife =>
    refine ⟨?_, hs.ended, hs.idle, fun _ => hs.refresh (by simp [hlife])⟩
    show s.monitoring = true ↔ Life.closed = .opened
    rw [hs.monitoring, hlife]
    simp

theorem appOk_reachable {s : App} (h : Reachable application s) : AppOk s := by
  refine h.invariant ?_ ?_
  · intro s hs
    obtain rfl := hs
    exact ⟨by simp [App.start], by simp [App.start], fun _ => rfl, fun _ => rfl⟩
  · intro s a s' hs hstep
    exact appOk_step hs (appEffect_of_step hstep)

/-! ### The same windows -/

/-- What the application does to the window, until it is gone: a step of the
    program or nothing. A statement of a clearing it takes as one of its own. -/
theorem step_sys {s s' : App} {a : AppAct} (hs : AppOk s) (hthere : s'.life ≠ .closed)
    (h : AppEffect s a s') :
    (∃ a', (a' = .clearNext → a = .window .clearNext) ∧ program.step s.sys a' s'.sys) ∨
      s'.sys = s.sys := by
  cases h with
  | loop _ _ _ => exact .inr rfl
  | test _ _ _ => exact .inr rfl
  | findRaises _ _ _ _ _ => exact .inr rfl
  | find _ _ _ _ _ => exact .inr rfl
  | dropped _ _ _ _ => exact .inr rfl
  | connect _ link hround _ =>
    have hidle : s.sys.monitor = .idle := hs.idle (by simp [hround])
    refine .inl ⟨.poll link.env, by simp, ?_⟩
    show step s.sys (.poll link.env) = _
    simp [step, hidle]
  | cardEnd _ _ hidle => exact .inr rfl
  | cardRaises _ _ hclosed => exact absurd hclosed hthere
  | card now _ _ _ => exact .inl ⟨.monitor now, by simp, rfl⟩
  | window a sys _ _ hsys => exact .inl ⟨a, congrArg AppAct.window, hsys⟩
  | pressRefresh _ => exact .inr rfl
  | refreshNext _ _ _ => exact .inr rfl
  | deliverColour _ _ _ _ => exact .inr rfl
  | pressClose _ => exact .inr rfl
  | destroy _ => exact .inr rfl

/-- A window that is gone does not come back. -/
theorem closed_step {s s' : App} {a : AppAct} (hclosed : s.life = .closed) (h : AppEffect s a s') :
    s'.life = .closed := by
  cases h with
  | pressClose htakes =>
    have hlife := (App.opened_of_takesEvents htakes).1
    rw [hclosed] at hlife
    cases hlife
  | destroy _ => rfl
  | _ => exact hclosed

/-- Until the window is gone, the program simulates the application. -/
theorem application_refines :
    RefinesUntil application program App.sys AppOk fun s => s.life = .closed where
  init := by
    intro s hs
    obtain rfl := hs
    rfl
  step := by
    intro s a s' hs hopen hstep
    rcases step_sys hs hopen (appEffect_of_step hstep) with ⟨a', -, hsys⟩ | hsame
    · exact .inl ⟨a', hsys⟩
    · exact .inr hsame
  stays := by
    intro s a s' hclosed hstep
    exact closed_step hclosed (appEffect_of_step hstep)

/-! The other way round, each step of the program is taken by some steps of the
    application. -/

theorem step_of_roundStep {s s' : App} {answer : ReaderList} {link : Link}
    (h : s.roundStep answer link = some s') : application.step s (.round answer link) s' := h

theorem step_of_cardStep {s s' : App} {now : Str} (h : s.cardStep now = some s') :
    application.step s (.card now) s' := h

/-- The window is open, with the monitor in its card part or in front of its
    loop. -/
structure App.Serving (s : App) : Prop where
  life : s.life = .opened
  refresh : s.refresh = none
  round : s.round = .card ∨ s.round = .loop ∧ s.sys.monitor = .idle

/-- A monitor without anything left to do comes back to its loop. -/
theorem reaches_loop {s : App} (h : Reachable application s) (hs : s.Serving)
    (hidle : s.sys.monitor = .idle) : Reachable application { s with round := .loop } := by
  rcases hs.round with hcard | ⟨hloop, -⟩
  · refine .step (.card []) h (step_of_cardStep ?_)
    simp [App.cardStep, hcard, hidle]
  · rw [← hloop]
    exact h

/-- With a reader it is two statements from the loop to the connection. -/
theorem reaches_connect_of_reader {s : App} (h : Reachable application s)
    (hlife : s.life = .opened) (hround : s.round = .loop)
    (hreader : s.readerPart.reader.isSome = true) :
    Reachable application { s with round := .connect } := by
  have hmonitoring : s.monitoring = true := (appOk_reachable h).monitoring.mpr hlife
  have htest : Reachable application { s with round := .testReader } := by
    refine .step (.round (.ok []) (.raises .other)) h (step_of_roundStep ?_)
    simp [App.roundStep, hround, hmonitoring]
  refine .step (.round (.ok []) (.raises .other)) htest (step_of_roundStep ?_)
  simp [App.roundStep, hreader]

/-- Without a reader `find_reader` runs through, here with one in the list. -/
theorem reaches_reader {s : App} (h : Reachable application s) (hlife : s.life = .opened)
    (hround : s.round = .loop) (hreader : s.readerPart.reader = none) :
    ∃ readerPart : ReaderPart, readerPart.reader.isSome = true ∧
      Reachable application { s with readerPart, round := .loop } := by
  have hmonitoring : s.monitoring = true := (appOk_reachable h).monitoring.mpr hlife
  have htest : Reachable application { s with round := .testReader } := by
    refine .step (.round (.ok []) (.raises .other)) h (step_of_roundStep ?_)
    simp [App.roundStep, hround, hmonitoring]
  have hcall : Reachable application { s with round := .find .call } := by
    refine .step (.round (.ok []) (.raises .other)) htest (step_of_roundStep ?_)
    simp [App.roundStep, hreader]
  have hassign : Reachable application { s with round := .find (.assign []) } := by
    refine .step (.round (.ok [[]]) (.raises .other)) hcall (step_of_roundStep ?_)
    simp [App.roundStep, FindReader.usesWindow, FindReader.next]
  have hshow : Reachable application { s with
      round := .find .showFound, readerPart := { s.readerPart with reader := some [] } } := by
    refine .step (.round (.ok []) (.raises .other)) hassign (step_of_roundStep ?_)
    simp [App.roundStep, FindReader.usesWindow, FindReader.next]
  have hpost : Reachable application { s with
      round := .find .postFound
      readerPart := ⟨some [], { s.readerPart.label with text := foundText (some []) },
        s.readerPart.posted⟩ } := by
    refine .step (.round (.ok []) (.raises .other)) hshow (step_of_roundStep ?_)
    simp [App.roundStep, FindReader.next, hlife]
  refine ⟨⟨some [], { s.readerPart.label with text := foundText (some []) },
    s.readerPart.posted ++ [.green]⟩, rfl,
    .step (.round (.ok []) (.raises .other)) hpost (step_of_roundStep ?_)⟩
  simp [App.roundStep, FindReader.next, hlife]

/-- A round that finds this at the reader. -/
theorem reaches_round {s : App} (h : Reachable application s) (hs : s.Serving)
    (hidle : s.sys.monitor = .idle) (link : Link) :
    ∃ s', Reachable application s' ∧ s'.Serving ∧
      s'.sys = { s.sys with monitor := .begin (pollCard link.env) } := by
  obtain ⟨readerPart, hreader, hloop⟩ : ∃ readerPart : ReaderPart,
      readerPart.reader.isSome = true ∧
        Reachable application { s with readerPart, round := .loop } := by
    have hloop := reaches_loop h hs hidle
    cases hreader : s.readerPart.reader with
    | none => exact reaches_reader (s := { s with round := .loop }) hloop hs.life rfl hreader
    | some name => exact ⟨s.readerPart, by simp [hreader], hloop⟩
  obtain ⟨name, hname⟩ := Option.isSome_iff_exists.mp hreader
  have hconnect := reaches_connect_of_reader hloop hs.life rfl hreader
  refine ⟨{ s with
      readerPart, round := .card, sys := { s.sys with monitor := .begin (pollCard link.env) } },
    .step (.round (.ok []) link) hconnect (step_of_roundStep ?_),
    ⟨hs.life, hs.refresh, .inl rfl⟩, rfl⟩
  simp [App.roundStep, hname]

/-- A statement of the card part. -/
theorem reaches_card {s : App} (h : Reachable application s) (hs : s.Serving) (now : Str) :
    ∃ s', Reachable application s' ∧ s'.Serving ∧
      s'.sys = { s.sys.setShared (s.sys.monitor.next now s.sys.shared).2 with
        monitor := (s.sys.monitor.next now s.sys.shared).1 } := by
  by_cases hidle : s.sys.monitor = .idle
  · -- an idle monitor has no such statement, and changes nothing
    refine ⟨s, h, hs, ?_⟩
    rw [hidle]
    show s.sys = { s.sys with monitor := .idle }
    rw [← hidle]
  · have hcard : s.round = .card := hs.round.resolve_right fun hloop => hidle hloop.2
    refine ⟨{ s with sys := { s.sys.setShared (s.sys.monitor.next now s.sys.shared).2 with
        monitor := (s.sys.monitor.next now s.sys.shared).1 } },
      .step (.card now) h (step_of_cardStep ?_), ⟨hs.life, hs.refresh, .inl hcard⟩, rfl⟩
    unfold App.cardStep
    split
    · next hidle' => exact absurd hidle' hidle
    · simp [hs.life]
    · next hno _ => exact absurd hcard hno

/-- An act of the main thread. -/
theorem reaches_window {s : App} (h : Reachable application s) (hs : s.Serving) {a : Act}
    {t : Sys} (hmain : a.ofMonitor = false) (hstep : program.step s.sys a t) :
    ∃ s', Reachable application s' ∧ s'.Serving ∧ s'.sys = t := by
  have hfree : s.mainFree = true := by simp [App.mainFree, hs.life, hs.refresh]
  have hmove : application.step s (.window a) { s with sys := t, card_status := s.shown a } := by
    show s.step (.window a) = _
    have hsys : step s.sys a = some t := hstep
    simp [App.step, hfree, hmain, hsys]
  refine ⟨_, .step _ h hmove, ⟨hs.life, hs.refresh, ?_⟩, rfl⟩
  rcases hs.round with hcard | ⟨hloop, hidle⟩
  · exact .inl hcard
  · exact .inr ⟨hloop, (step_monitor hstep hmain).trans hidle⟩

/-- Every state of the program is the window of an open application. -/
theorem application_reaches {t : Sys} (h : Reachable program t) :
    ∃ s, Reachable application s ∧ s.Serving ∧ s.sys = t := by
  induction h with
  | init h =>
    obtain rfl := h
    exact ⟨.start, .init rfl, ⟨rfl, rfl, .inr ⟨rfl, rfl⟩⟩, rfl⟩
  | @step t t' a _ hstep ih =>
    obtain ⟨s, hs, hserving, rfl⟩ := ih
    cases hmain : a.ofMonitor with
    | false => exact reaches_window hs hserving hmain hstep
    | true =>
      change step s.sys a = some t' at hstep
      cases a with
      | poll env =>
        simp only [step] at hstep
        split at hstep
        · next hidle =>
          cases hstep
          cases env with
          | noReader =>
            -- a round without a reader leaves the window alone
            refine ⟨s, hs, hserving, ?_⟩
            show s.sys = { s.sys with monitor := .idle }
            rw [← hidle]
          | connectRaises e => exact reaches_round hs hserving hidle (.raises e)
          | connected atr connection =>
            exact reaches_round hs hserving hidle (.connected atr connection)
        · cases hstep
      | monitor now =>
        cases hstep
        exact reaches_card hs hserving now
      | _ => simp [Act.ofMonitor] at hmain

/-- **The windows of the application are those of the program**: until it is
    gone, its window is in a state the program reaches, and every state the
    program reaches is that of an open window. -/
theorem application_windows :
    (∀ s, Reachable application s → s.life ≠ .closed → Reachable program s.sys) ∧
      ∀ t, Reachable program t → ∃ s, Reachable application s ∧ s.life = .opened ∧ s.sys = t := by
  refine ⟨?_, ?_⟩
  · intro s hs hlife
    exact application_refines.reachable (fun _ => appOk_reachable) hs hlife
  · intro t ht
    obtain ⟨s, hs, hserving, hsys⟩ := application_reaches ht
    exact ⟨s, hs, hserving.life, hsys⟩

end GuiReader

end IdScan
